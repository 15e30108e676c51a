import Libfaim.Conn.Proxy

/-!
# The exchange with a SOCKS 5 proxy

The messages of `aim_proxyconnect` are those of the protocol, so that a server that speaks it reads
from them the user and the password that the client gave, and the host as far as the byte for its
length counts: the connection is made exactly if such a server connects this user to the host that
it reads, which is the one that was meant if its name is shorter than 256 bytes
(`connectDest_socks`). The names in the session are those of the last calls of `aim_setupproxy` that
gave any (`holdsNames_calls`).
-/

namespace Libfaim

open Socks5

/-! ## Rules of the exchange -/

section Rules

variable {α β : Type} (net : Network)

theorem proxyM_bind (x : ProxyM α) (f : α → ProxyM β) (sent : List (List UInt8)) :
    (x >>= f).run.run sent =
      match x.run.run sent with
      | (.ok a, sent) => (f a).run.run sent
      | (.error e, sent) => (.error e, sent) := by
  show (ExceptT.bindCont f (x.run.run sent).1).run (x.run.run sent).2 = _
  rcases x.run.run sent with ⟨a | e, sent'⟩ <;> rfl

theorem run_say (msg : List UInt8) (sent : List (List UInt8)) :
    (ProxyM.say net msg).run.run sent =
      if 512 < msg.length then (.error .overrun, sent)
      else if net.writes sent msg = true then (.ok (), sent ++ [msg])
      else (.error (.status (net.errno sent)), sent) := by
  unfold ProxyM.say
  by_cases hlong : 512 < msg.length
  · simp only [hlong, if_true]
    rfl
  · simp only [hlong, if_false]
    by_cases hwrite : net.writes sent msg = true
    · simp only [hwrite, if_true]
      show (ExceptT.run (if net.writes sent msg = true then set (sent ++ [msg])
        else throw (.status (net.errno sent)) : ProxyM Unit)).run sent = _
      rw [if_pos hwrite]
      rfl
    · simp only [hwrite]
      show (ExceptT.run (if net.writes sent msg = true then set (sent ++ [msg])
        else throw (.status (net.errno sent)) : ProxyM Unit)).run sent = _
      rw [if_neg hwrite]
      rfl

theorem run_hear (n : Nat) (sent : List (List UInt8)) :
    (ProxyM.hear net n).run.run sent =
      if ((net.reads sent).take n).length < n then (.error (.status (net.errno sent)), sent)
      else (.ok ((net.reads sent).take n), sent) := by
  show (ExceptT.run (if _ then _ else _ : ProxyM _)).run sent = _
  split <;> rfl

theorem run_refuseIf (c : Prop) [Decidable c] (sent : List (List UInt8)) :
    (ProxyM.refuseIf c).run.run sent =
      if c then (.error (.status 22), sent) else (.ok (), sent) := by
  unfold ProxyM.refuseIf
  split <;> rfl

/-- A message all of which is written, and an answer of `n` bytes. -/
theorem run_exchange {msg v : List UInt8} {n : Nat} {sent : List (List UInt8)}
    (hwrites : ∀ sent msg, net.writes sent msg = true) (hfit : msg.length ≤ 512)
    (hreads : net.reads (sent ++ [msg]) = v) (f : List UInt8 → ProxyM β) :
    (ProxyM.say net msg >>= fun _ => ProxyM.hear net n >>= f).run.run sent =
      if v.length < n then (.error (.status (net.errno (sent ++ [msg]))), sent ++ [msg])
      else (f (v.take n)).run.run (sent ++ [msg]) := by
  have hlen : (v.take n).length < n ↔ v.length < n := by
    rw [List.length_take]
    omega
  rw [proxyM_bind, run_say, if_neg (Nat.not_lt.mpr hfit), if_pos (hwrites _ _)]
  by_cases hshort : v.length < n
  · simp only [proxyM_bind, run_hear, hreads, hlen, hshort, if_true]
  · simp only [proxyM_bind, run_hear, hreads, hlen, hshort, if_false]

end Rules

/-! ## With a server -/

/-- The methods that are offered. -/
def offered (username : List UInt8) : List UInt8 :=
  if username.length ≠ 0 then [0x00, 0x02] else [0x00]

theorem proxyGreeting_eq (username : List UInt8) :
    proxyGreeting username = greeting (offered username) := by
  unfold proxyGreeting offered
  split <;> rfl

theorem proxyAuth_eq (username password : List UInt8) :
    proxyAuth username password = authentication username password := by
  simp only [proxyAuth, aimutilPut8_eq, authentication, counted, List.cons_append, List.nil_append,
    List.append_assoc]

theorem aimutilPut16_eq (v : UInt16) : aimutilPut16 v = [(v >>> 8).toUInt8, v.toUInt8] := by
  have hhigh : UInt8.ofNat (v.toNat / 256) = (v >>> 8).toUInt8 := by
    apply UInt8.toNat_inj.mp
    rw [UInt8.toNat_ofNat', UInt16.toNat_toUInt8, UInt16.toNat_shiftRight]
    simp only [UInt16.reduceToNat, Nat.shiftRight_eq_div_pow, Nat.reduceMod, Nat.reducePow]
  simp only [aimutilPut16, Endian.beBytes, Endian.leBytes, List.reverse_cons, List.reverse_nil,
    List.nil_append, List.cons_append, hhigh]
  rfl

theorem proxyRequest_eq (host : List UInt8) (port : UInt16) :
    proxyRequest host port = connectRequest host port := by
  simp only [proxyRequest, aimutilPut8_eq, aimutilPut16_eq, connectRequest, counted,
    List.cons_append, List.nil_append]

theorem offered_length (username : List UInt8) : (offered username).length < 256 := by
  unfold offered
  split <;> decide

/-- The network is there, and a server answers on the connection `fd`: what can be read is all that
it says to what was written last. -/
structure Serves (net : Network) (server : Server) (proxy : List UInt8 × UInt16) (fd : Int) :
    Prop where
  resolve : net.resolve proxy.1 = none
  connect : net.connect proxy.1 proxy.2 = .connected fd
  fd_nonneg : 0 ≤ fd
  writes : ∀ sent msg, net.writes sent msg = true
  reads : ∀ sent, net.reads sent = server.answer sent

/-- The server connects this user to the host and port that it reads in the request, and the ten
bytes come that the client waits for. -/
structure Admits (server : Server) (username password host : List UInt8) (port : UInt16) :
    Prop where
  welcomes : server.Welcomes (offered username) username password
  code_eq : (server.dialled host port).code = 0x00
  length_le : 10 ≤ ((server.dialled host port).answer (asked host port).2.2).length

section Serves

variable {net : Network} {server : Server} {proxy : List UInt8 × UInt16} {fd : Int}

/-- The first message, and what the server chooses then. -/
theorem Serves.greet (h : Serves net server proxy fd) (p : Socksproxy) :
    (proxyGreet p net).run.run [] =
      if server.choose (offered p.usernameStr) = noMethod then
        (.error (.status 22), [proxyGreeting p.usernameStr])
      else (.ok (server.choose (offered p.usernameStr)), [proxyGreeting p.usernameStr]) := by
  have hfit : (proxyGreeting p.usernameStr).length ≤ 512 := by
    unfold proxyGreeting
    split <;> decide
  have hreads : net.reads ([] ++ [proxyGreeting p.usernameStr]) =
      [0x05, server.choose (offered p.usernameStr)] := by
    rw [h.reads, List.nil_append, proxyGreeting_eq,
      server.answer_greeting (offered_length p.usernameStr)]
  rw [proxyGreet, run_exchange net h.writes hfit hreads, if_neg (by simp), proxyM_bind,
    run_refuseIf]
  by_cases hnone : server.choose (offered p.usernameStr) = noMethod
  · rw [if_pos hnone, if_pos (.inr hnone)]
    rfl
  · rw [if_neg hnone, if_neg fun hbad => hbad.elim (fun hver => hver rfl) hnone]
    rfl

theorem Serves.authenticate (h : Serves net server proxy fd) {p : Socksproxy}
    (huser : p.usernameStr.length < 128) (hpass : p.passwordStr.length < 128)
    (hchosen : server.choose (offered p.usernameStr) = userPass) :
    (proxyAuthenticate p net).run.run [proxyGreeting p.usernameStr] =
      (if server.check p.usernameStr p.passwordStr = true then .ok () else .error (.status 22),
        [proxyGreeting p.usernameStr, proxyAuth p.usernameStr p.passwordStr]) := by
  have hfit : (proxyAuth p.usernameStr p.passwordStr).length ≤ 512 := by
    simp only [proxyAuth_eq, authentication, counted, List.length_cons, List.length_append]
    omega
  have hreads : net.reads ([proxyGreeting p.usernameStr] ++
      [proxyAuth p.usernameStr p.passwordStr]) =
      [0x01, if server.check p.usernameStr p.passwordStr then 0x00 else 0x01] := by
    rw [h.reads, List.singleton_append, proxyGreeting_eq, proxyAuth_eq,
      Server.answer_authentication (offered_length p.usernameStr) (by omega) (by omega) hchosen]
  rw [proxyAuthenticate, run_exchange net h.writes hfit hreads, if_neg (by simp), run_refuseIf]
  by_cases hcheck : server.check p.usernameStr p.passwordStr = true
  · simp [hcheck]
  · simp [hcheck]

/-- The request, in answer to which the server dials. -/
theorem Serves.request (h : Serves net server proxy fd) {sent : List (List UInt8)}
    {host : List UInt8} {port : UInt16}
    (hanswer : server.answer (sent ++ [proxyRequest host port]) =
      server.serve (proxyRequest host port)) :
    ((proxyConnect net host port).run.run sent).2 =
        (if 505 < host.length then sent else sent ++ [proxyRequest host port]) ∧
      (((proxyConnect net host port).run.run sent).1 = .error .overrun ↔ 505 < host.length) ∧
      (((proxyConnect net host port).run.run sent).1 = .ok () ↔ host.length ≤ 505 ∧
        (server.dialled host port).code = 0x00 ∧
        10 ≤ ((server.dialled host port).answer (asked host port).2.2).length) := by
  have hlen : (proxyRequest host port).length = 7 + host.length := by
    simp only [proxyRequest_eq, connectRequest, counted, List.length_cons, List.length_append,
      List.length_nil]
    omega
  by_cases hlong : 505 < host.length
  · have hrun : (proxyConnect net host port).run.run sent = (.error .overrun, sent) := by
      rw [proxyConnect, proxyM_bind, run_say, if_pos (by omega)]
    rw [hrun, if_pos hlong]
    refine ⟨rfl, ⟨fun _ => hlong, fun _ => rfl⟩, ⟨fun hok => absurd hok (by simp), fun hok => ?_⟩⟩
    omega
  · have hfits : host.length ≤ 505 := Nat.le_of_not_lt hlong
    have hreads : net.reads (sent ++ [proxyRequest host port]) =
        (server.dialled host port).answer (asked host port).2.2 := by
      rw [h.reads, hanswer, proxyRequest_eq, Server.serve_connectRequest]
    have hzero := (server.dialled host port).answer_zero (asked host port).2.2
    have hone := (server.dialled host port).answer_one (asked host port).2.2
    rw [proxyConnect, run_exchange net h.writes (by omega) hreads, if_neg hlong]
    generalize (server.dialled host port).answer (asked host port).2.2 = v at hzero hone ⊢
    have htake (i : Nat) (hi : i < 10) : (v.take 10).getD i 0 = v.getD i 0 := by
      simp only [List.getD, List.getElem?_take, hi, if_true]
    by_cases hten : v.length < 10
    · rw [if_pos hten]
      simp [hlong, hten]
    · rw [if_neg hten, run_refuseIf, htake 0 (by decide), htake 1 (by decide), hzero, hone]
      have hten' : 10 ≤ v.length := Nat.le_of_not_lt hten
      by_cases hcode : (server.dialled host port).code = 0x00
      · simp [hcode, hfits, hlong, hten']
      · simp [hcode, hlong]

/-- The messages before the request. -/
def proxyOpening (server : Server) (p : Socksproxy) : List (List UInt8) :=
  if server.choose (offered p.usernameStr) = userPass then
    [proxyGreeting p.usernameStr, proxyAuth p.usernameStr p.passwordStr]
  else [proxyGreeting p.usernameStr]

theorem answer_opening {server : Server} {p : Socksproxy}
    (huser : p.usernameStr.length < 128) (hpass : p.passwordStr.length < 128)
    (hp : server.Welcomes (offered p.usernameStr) p.usernameStr p.passwordStr)
    (msg : List UInt8) : server.answer (proxyOpening server p ++ [msg]) = server.serve msg := by
  unfold proxyOpening
  split
  · next hchosen =>
    rw [List.cons_append, List.singleton_append, proxyGreeting_eq, proxyAuth_eq]
    exact Server.answer_request_authenticated (offered_length p.usernameStr) (by omega) (by omega)
      hchosen (hp.2 hchosen) msg
  · next hchosen =>
    rw [List.singleton_append, proxyGreeting_eq]
    exact Server.answer_request (offered_length p.usernameStr) hp.1 hchosen msg

theorem Serves.exchange_passes (h : Serves net server proxy fd) {p : Socksproxy}
    (huser : p.usernameStr.length < 128) (hpass : p.passwordStr.length < 128)
    (hp : server.Welcomes (offered p.usernameStr) p.usernameStr p.passwordStr)
    (host : List UInt8) (port : UInt16) :
    (proxyExchange p net host port).run.run [] =
      (proxyConnect net host port).run.run (proxyOpening server p) := by
  rw [proxyExchange, proxyM_bind, h.greet, if_neg hp.1]
  by_cases hchosen : server.choose (offered p.usernameStr) = userPass
  · have hmethod : server.choose (offered p.usernameStr) = 0x02 := hchosen
    simp only [hmethod, if_true, proxyM_bind]
    rw [h.authenticate huser hpass hchosen, if_pos (hp.2 hchosen), proxyOpening, if_pos hchosen]
  · have hmethod : ¬ server.choose (offered p.usernameStr) = 0x02 := hchosen
    simp only [hmethod, if_false]
    rw [proxyOpening, if_neg hchosen]

theorem Serves.exchange_refused (h : Serves net server proxy fd) {p : Socksproxy}
    (huser : p.usernameStr.length < 128) (hpass : p.passwordStr.length < 128)
    (hp : ¬ server.Welcomes (offered p.usernameStr) p.usernameStr p.passwordStr)
    (host : List UInt8) (port : UInt16) :
    ((proxyExchange p net host port).run.run []).1 = .error (.status 22) := by
  rw [proxyExchange, proxyM_bind, h.greet]
  by_cases hnone : server.choose (offered p.usernameStr) = noMethod
  · rw [if_pos hnone]
  · rw [if_neg hnone]
    by_cases hchosen : server.choose (offered p.usernameStr) = userPass
    · have hmethod : server.choose (offered p.usernameStr) = 0x02 := hchosen
      have hcheck : ¬ server.check p.usernameStr p.passwordStr = true := fun hcheck =>
        hp ⟨hnone, fun _ => hcheck⟩
      simp only [hmethod, if_true, proxyM_bind]
      rw [h.authenticate huser hpass hchosen, if_neg hcheck]
    · exact absurd ⟨hnone, fun h => absurd h hchosen⟩ hp

theorem Serves.proxyconnect (h : Serves net server proxy fd) {p : Socksproxy}
    (hproxy : splitPort p.serverStr 1080 = proxy) (hserver : p.serverStr.length ≠ 0)
    (flags : UInt32) (host : List UInt8) (port : UInt16) :
    aimProxyconnect p flags net host port =
      proxied fd ((proxyExchange p net host port).run.run []) := by
  rw [aimProxyconnect, if_pos hserver, hproxy]
  simp only [h.resolve, h.connect]

/-- With a server of the protocol as the proxy: the connection is made exactly if the server
connects this user to the host that it reads in the request; the descriptor is then the one to the
proxy, and the last message asked for the host. A name overruns the buffer from 506 bytes on. -/
theorem Serves.connected (h : Serves net server proxy fd) {p : Socksproxy}
    (hproxy : splitPort p.serverStr 1080 = proxy) (hserver : p.serverStr.length ≠ 0)
    (huser : p.usernameStr.length < 128) (hpass : p.passwordStr.length < 128) (flags : UInt32)
    (host : List UInt8) (port : UInt16) :
    (aimProxyconnect p flags net host port = none ↔
      server.Welcomes (offered p.usernameStr) p.usernameStr p.passwordStr ∧ 505 < host.length) ∧
      ∀ r, aimProxyconnect p flags net host port = some r →
        (0 ≤ r.ret ↔ host.length ≤ 505 ∧
          Admits server p.usernameStr p.passwordStr host port) ∧
        (0 ≤ r.ret → r = ⟨fd, 0, proxyOpening server p ++ [proxyRequest host port]⟩) := by
  have hconnect := h.proxyconnect hproxy hserver flags host port
  have hneg : ¬ (0 : Int) ≤ -1 := by decide
  by_cases hp : server.Welcomes (offered p.usernameStr) p.usernameStr p.passwordStr
  · rw [h.exchange_passes huser hpass hp] at hconnect
    obtain ⟨hsent, hoverrun, hok⟩ :=
      h.request (answer_opening huser hpass hp (proxyRequest host port))
    rcases hrun : (proxyConnect net host port).run.run (proxyOpening server p) with ⟨res, sent⟩
    rw [hrun] at hconnect hsent hoverrun hok
    rcases res with (_ | status) | _
    · have hlong := hoverrun.mp rfl
      refine ⟨⟨fun _ => ⟨hp, hlong⟩, fun _ => hconnect⟩, fun r hr => ?_⟩
      exact nomatch hconnect.symm.trans hr
    · refine ⟨⟨fun hnone => (nomatch hconnect.symm.trans hnone), fun hlong => ?_⟩, fun r hr => ?_⟩
      · exact nomatch hoverrun.mpr hlong.2
      · obtain rfl := Option.some.inj (hconnect.symm.trans hr)
        refine ⟨⟨fun hret => absurd hret hneg, fun ⟨hfits, hadmits⟩ => ?_⟩,
          fun hret => absurd hret hneg⟩
        exact nomatch hok.mpr ⟨hfits, hadmits.code_eq, hadmits.length_le⟩
    · obtain ⟨hfits, hcode, hlen⟩ := hok.mp rfl
      refine ⟨⟨fun hnone => (nomatch hconnect.symm.trans hnone), fun hlong => ?_⟩, fun r hr => ?_⟩
      · exact nomatch hoverrun.mpr hlong.2
      · obtain rfl := Option.some.inj (hconnect.symm.trans hr)
        rw [if_neg (by omega)] at hsent
        refine ⟨⟨fun _ => ⟨hfits, hp, hcode, hlen⟩, fun _ => h.fd_nonneg⟩, fun _ => ?_⟩
        rw [← hsent]
  · have hrefused := h.exchange_refused huser hpass hp host port
    rcases hrun : (proxyExchange p net host port).run.run [] with ⟨res, sent⟩
    rw [hrun] at hconnect hrefused
    obtain rfl : res = .error (.status 22) := hrefused
    refine ⟨⟨fun hnone => (nomatch hconnect.symm.trans hnone), fun hlong => absurd hlong.1 hp⟩,
      fun r hr => ?_⟩
    obtain rfl := Option.some.inj (hconnect.symm.trans hr)
    exact ⟨⟨fun hret => absurd hret hneg, fun hadmits =>
      absurd hadmits.2.welcomes hp⟩, fun hret => absurd hret hneg⟩

end Serves

/-! ## The names of the proxy and of the user -/

/-- What a client has asked for with `aim_setupproxy`; no proxy if `server` is empty. -/
structure ProxyNames where
  server : List UInt8
  username : List UInt8
  password : List UInt8

/-- The arguments of `aim_setupproxy`. -/
structure SetupCall where
  server : Option (List UInt8)
  username : Option (List UInt8)
  password : Option (List UInt8)

/-- A name that is given and not empty is taken. -/
def newName (given : Option (List UInt8)) (old : List UInt8) : List UInt8 :=
  match given with
  | some s => if cstr s = [] then old else cstr s
  | none => old

/-- A call without a server forgets everything; any other one keeps the names it does not give. -/
def ProxyNames.set (names : ProxyNames) (call : SetupCall) : ProxyNames :=
  if newName call.server [] = [] then ⟨[], [], []⟩
  else ⟨newName call.server [], newName call.username names.username,
    newName call.password names.password⟩

def configured (calls : List SetupCall) : ProxyNames := calls.foldl ProxyNames.set ⟨[], [], []⟩

def Socksproxy.setup (p : Socksproxy) (call : SetupCall) : Socksproxy :=
  p.aimSetupproxy call.server call.username call.password

/-- The strings fit the arrays with their NUL. -/
def SetupCall.Fits (call : SetupCall) : Prop :=
  (∀ s ∈ call.server, strlen s < 128) ∧ (∀ s ∈ call.username, strlen s < 128) ∧
    (∀ s ∈ call.password, strlen s < 128)

/-- The array has the name, filled up with NULs. -/
structure HoldsName (array name : List UInt8) : Prop where
  array_eq : array = strncpy name 128
  lt : name.length < 128
  cstr_eq : cstr name = name

theorem holdsName_nil : HoldsName (List.replicate 128 0) [] := ⟨rfl, by decide, rfl⟩

theorem HoldsName.str {array name : List UInt8} (h : HoldsName array name) (r : List UInt8) :
    cstr (array ++ r) = name := by
  have hlt : strlen name < 128 := by
    rw [strlen, h.cstr_eq]
    exact h.lt
  rw [h.array_eq, cstr_strncpy_append hlt, h.cstr_eq]

theorem holdsName_strncpy {s : List UInt8} (h : strlen s < 128) :
    HoldsName (strncpy s 128) (cstr s) := by
  refine ⟨?_, h, cstr_cstr s⟩
  simp only [strncpy, strlen, cstr_cstr]

theorem HoldsName.copyName {array name : List UInt8} (h : HoldsName array name)
    {given : Option (List UInt8)} (hgiven : ∀ s ∈ given, strlen s < 128) :
    HoldsName (Socksproxy.copyName given array) (newName given name) := by
  cases given with
  | none => exact h
  | some s =>
    by_cases hempty : cstr s = []
    · have hlen : ¬ strlen s ≠ 0 := fun hne => hne (by rw [strlen, hempty]; rfl)
      rw [Socksproxy.copyName, newName, if_neg hlen, if_pos hempty]
      exact h
    · have hlen : strlen s ≠ 0 := fun hzero => hempty (List.eq_nil_of_length_eq_zero hzero)
      rw [Socksproxy.copyName, newName, if_pos hlen, if_neg hempty]
      exact holdsName_strncpy (hgiven s rfl)

structure Socksproxy.HoldsNames (p : Socksproxy) (names : ProxyNames) : Prop where
  server : HoldsName p.server names.server
  username : HoldsName p.username names.username
  password : HoldsName p.password names.password

theorem Socksproxy.HoldsNames.setup {p : Socksproxy} {names : ProxyNames} (h : p.HoldsNames names)
    {call : SetupCall} (hcall : call.Fits) : (p.setup call).HoldsNames (names.set call) := by
  have hinit : (Socksproxy.init p.behind).HoldsNames ⟨[], [], []⟩ :=
    ⟨holdsName_nil, holdsName_nil, holdsName_nil⟩
  obtain ⟨server, username, password⟩ := call
  obtain ⟨hserver, husername, hpassword⟩ := hcall
  rw [ProxyNames.set, Socksproxy.setup, Socksproxy.aimSetupproxy.eq_def]
  cases server with
  | none => exact hinit
  | some s =>
    by_cases hempty : cstr s = []
    · have hlen : strlen s = 0 := by
        rw [strlen, hempty]
        rfl
      simp only [newName, hempty, hlen, if_true]
      exact hinit
    · have hlen : ¬ strlen s = 0 := fun hzero => hempty (List.eq_nil_of_length_eq_zero hzero)
      simp only [newName, hempty, hlen, if_false]
      exact ⟨holdsName_strncpy (hserver s rfl), h.username.copyName husername,
        h.password.copyName hpassword⟩

theorem holdsNames_calls (behind : List UInt8) {calls : List SetupCall}
    (hcalls : ∀ call ∈ calls, call.Fits) :
    (calls.foldl Socksproxy.setup (Socksproxy.init behind)).HoldsNames (configured calls) := by
  have hinit : (Socksproxy.init behind).HoldsNames ⟨[], [], []⟩ :=
    ⟨holdsName_nil, holdsName_nil, holdsName_nil⟩
  rw [configured]
  generalize Socksproxy.init behind = p at hinit ⊢
  generalize (⟨[], [], []⟩ : ProxyNames) = names at hinit ⊢
  induction calls generalizing p names with
  | nil => exact hinit
  | cons call calls ih =>
    rw [List.forall_mem_cons] at hcalls
    exact ih hcalls.2 _ _ (hinit.setup hcalls.1)

/-- After any calls of `aim_setupproxy` with names that fit, and with a server of the protocol as
the proxy that they name: `aim_newconn` gets a connection exactly if this server connects the user
of the last calls that gave any to the host that it reads in the request. This is the host of `dest`
if its name is shorter than 256 bytes; of a longer one the server reads what the byte for its length
counts, and two bytes of the name as the port. From 506 bytes on the name overruns the buffer, where
the server lets the client ask at all. -/
theorem connectDest_socks {calls : List SetupCall} (hcalls : ∀ call ∈ calls, call.Fits)
    (behind : List UInt8) {net : Network} {server : Server} {fd : Int}
    (hserver : (configured calls).server ≠ [])
    (h : Serves net server (splitPort (configured calls).server 1080) fd) (flags errno : UInt32)
    (dest : List UInt8) :
    let p := calls.foldl Socksproxy.setup (Socksproxy.init behind)
    let names := configured calls
    let host := (splitPort (cstr dest) faimLoginPort).1
    let port := (splitPort (cstr dest) faimLoginPort).2
    (connectDest p flags net errno dest = some (.connected fd 0) ↔
      host.length ≤ 505 ∧ Admits server names.username names.password host port) ∧
    (connectDest p flags net errno dest = none ↔ 505 < host.length ∧
      server.Welcomes (offered names.username) names.username names.password) ∧
    (host.length < 256 → asked host port = (host, port, [])) := by
  intro p names host port
  have hnames : p.HoldsNames names := holdsNames_calls behind hcalls
  have hserverStr : p.serverStr = names.server := hnames.server.str _
  have husernameStr : p.usernameStr = names.username := hnames.username.str _
  have hpasswordStr : p.passwordStr = names.password := hnames.password.str _
  have hlen : p.serverStr.length ≠ 0 := by
    rw [hserverStr]
    exact fun hzero => hserver (List.eq_nil_of_length_eq_zero hzero)
  obtain ⟨hnone, hsome⟩ := h.connected (by rw [hserverStr]) hlen
    (husernameStr ▸ hnames.username.lt) (hpasswordStr ▸ hnames.password.lt) flags host port
  rw [husernameStr, hpasswordStr] at hnone hsome
  have hmap : connectDest p flags net errno dest =
      (aimProxyconnect p flags net host port).map fun r =>
        if r.ret < 0 then .failed errno else .connected r.ret r.status := rfl
  rw [hmap, Option.map_eq_none_iff, hnone]
  refine ⟨?_, and_comm, fun hlt => asked_of_lt hlt port⟩
  cases hconnect : aimProxyconnect p flags net host port with
  | none =>
    have hlong := (hnone.mp hconnect).2
    exact ⟨fun hr => (nomatch hr), fun hadmits => absurd hadmits.1 (by omega)⟩
  | some r =>
    obtain ⟨hadmits, hr⟩ := hsome r hconnect
    rw [← hadmits, Option.map_some]
    constructor
    · intro hconnected
      by_cases hneg : r.ret < 0
      · rw [if_pos hneg] at hconnected
        exact nomatch hconnected
      · exact Int.not_lt.mp hneg
    · intro hret
      rw [if_neg (Int.not_lt.mpr hret), hr hret]

/-- A server that asks for a password, binds an IPv6 address and relays what the host says first,
and a network with it. -/
def passwordServer : Server where
  choose methods := if userPass ∈ methods then userPass else noMethod
  check user pass := user = [0x75] ∧ pass = [0x70]
  dial _ _ := ⟨0x00, .ipv6 (Vector.replicate 16 0), 1080, fun _ => [0x2a, 0x01]⟩
  choose_mem methods := by
    by_cases hmem : userPass ∈ methods
    · exact .inr (by rwa [if_pos hmem])
    · exact .inl (if_neg hmem)

def passwordNetwork : Network where
  resolve _ := none
  connect _ _ := .connected 5
  writes _ _ := true
  reads := passwordServer.answer
  errno _ := 0

/-- The second call does not forget the user of the first, and the server lets it connect. -/
theorem connectDest_socks_password :
    let calls : List SetupCall :=
      [⟨some [0x61], some [0x75], some [0x70]⟩, ⟨some [0x62, 0x3a, 0x39], none, none⟩]
    let p := calls.foldl Socksproxy.setup (Socksproxy.init [])
    connectDest p 0 passwordNetwork 0 [0x68] = some (.connected 5 0) := by
  intro calls p
  have hcalls : ∀ call ∈ calls, call.Fits := by simp [calls, SetupCall.Fits, strlen, cstr]
  have hserves : Serves passwordNetwork passwordServer
      (splitPort (configured calls).server 1080) 5 :=
    ⟨rfl, rfl, by decide, fun _ _ => rfl, fun _ => rfl⟩
  refine (connectDest_socks hcalls [] (by decide) hserves 0 0 [0x68]).1.mpr ⟨by decide, ?_⟩
  exact ⟨⟨by decide, by decide⟩, by decide, by decide⟩

end Libfaim
