import Libfaim.Conn.Handlers
import Libfaim.Lib.Dialogue
import Libfaim.Service.Frames
import Libfaim.Snac.Replies
import Libfaim.Tlv.Getters

/-!
# The general module (`service.c`)

Every connection has SNACs of family 1: the host says what it offers, the library answers with the
versions of its modules, asks for the rates and agrees to them, and from then on the client is told
what comes in. The library answers by itself, and for all connections at once. What it answers on
one of them depends on the SNACs of this connection alone (`answer`), whatever comes in on the
others and whatever the client asks for in between (`general_answered`).
-/

namespace Libfaim

def aimCbSpecialConninitdone : UInt16 := 0x0006

/-! ## What the client is told -/

/-- The functions of the client, with what they are given. -/
inductive GeneralCall where
  | redirect (redir : AimRedirectData)
  | conninitdone
  | ratechange (code rateclass : UInt16) (windowsize clear alert limit disconnect : UInt32)
      (currentavg maxavg : UInt32)
  | serverpause
  | serverresume
  | selfinfo (userinfo : AimUserinfo)
  | evilnotify (newevil : UInt16) (userinfo : AimUserinfo)
  | migrate (ip cookie : Option (List UInt8))
  | motd (id : UInt16) (msg : Option (List UInt8))
  | memrequest (offset len : UInt32) (modname : Option (List UInt8))

namespace GeneralCall

def family : GeneralCall → UInt16
  | conninitdone => aimCbFamSpecial
  | _ => 0x0001

def type : GeneralCall → UInt16
  | redirect _ => 0x0005
  | conninitdone => aimCbSpecialConninitdone
  | ratechange .. => 0x000a
  | serverpause => 0x000b
  | serverresume => 0x000d
  | selfinfo _ => 0x000f
  | evilnotify .. => 0x0010
  | migrate .. => 0x0012
  | motd .. => 0x0013
  | memrequest .. => 0x001f

/-- Less what a redirect has from the SNAC cache. -/
def received : GeneralCall → GeneralCall
  | redirect redir => .redirect { redir with chat := none }
  | call => call

end GeneralCall

def ratechange : StateT AimBstream Option GeneralCall := do
  let code ← aimbsGet16
  let rateclass ← aimbsGet16
  let windowsize ← aimbsGet32
  let clear ← aimbsGet32
  let alert ← aimbsGet32
  let limit ← aimbsGet32
  let disconnect ← aimbsGet32
  let currentavg ← aimbsGet32
  let maxavg ← aimbsGet32
  return .ratechange code rateclass windowsize clear alert limit disconnect currentavg maxavg

def serverpause : StateT AimBstream Option GeneralCall := return .serverpause

def serverresume : StateT AimBstream Option GeneralCall := return .serverresume

def selfinfo : StateT AimBstream Option GeneralCall := do
  let userinfo ← aimExtractuserinfo
  return .selfinfo userinfo

/-- An anonymous warning has no user behind the new level. -/
def evilnotify : StateT AimBstream Option GeneralCall := do
  let newevil ← aimbsGet16
  let bs ← get
  if aimBstreamEmpty bs ≠ 0 then
    let userinfo ← aimExtractuserinfo
    return .evilnotify newevil userinfo
  else return .evilnotify newevil AimUserinfo.zero

/-- The loop of `migrate` over the groups, which it does not use. -/
def migrateGroups : Nat → StateT AimBstream Option Unit
  | 0 => return ()
  | groupcount + 1 => do
    let _group ← aimbsGet16
    migrateGroups groupcount

def migrate : StateT AimBstream Option GeneralCall := do
  let groupcount ← aimbsGet16
  migrateGroups groupcount.toNat
  let tl ← aimReadtlvchain
  -- the value of a TLV of length 0 is a null pointer
  let cktlv := (aimGettlv tl 0x0006 1).filter fun cktlv => cktlv.length ≠ 0
  return .migrate (ifTlvStr tl 0x0005) (cktlv.map (·.value))

def motd : StateT AimBstream Option GeneralCall := do
  let id ← aimbsGet16
  let tlvlist ← aimReadtlvchain
  return .motd id (aimGettlvStr tlvlist 0x000b 1)

def memrequest : StateT AimBstream Option GeneralCall := do
  let offset ← aimbsGet32
  let len ← aimbsGet32
  let list ← aimReadtlvchain
  return .memrequest offset len (aimGettlvStr list 0x0001 1)

/-! ## The handlers -/

/-- A session, as far as family 1 goes: `inside` is what hangs from each connection. -/
structure ServiceSession where
  requester : Requester
  inside : ConnPtr → ServiceInside

/-- What a handler does beside changing the session: frames are enqueued, and functions of the
client looked up and called. There is none to call if none is hooked. -/
inductive GeneralEvent where
  | sent (fr : AimFrame)
  | called (c : ConnPtr) (userfunc : Option AimRxcallback) (call : GeneralCall)

/-- The connection a frame goes to, or the client is told of. -/
def GeneralEvent.conn : GeneralEvent → ConnPtr
  | sent fr => fr.conn
  | called c _ _ => c

namespace ServiceSession

/-- The frames that `t` has passed on since `s`. -/
def sentSince (s t : Requester) : List GeneralEvent :=
  (t.passed.drop s.passed.length).map .sent

section Handlers

variable (modlistv : List ModuleVersion) (client : AimRxcallback → GeneralCall → Int) (now : Int)

/-- `aim_callhandler`, and the call: what it returns, or 0. -/
def tell (s : ServiceSession) (c : ConnPtr) (call : GeneralCall) : Int × List GeneralEvent :=
  let userfunc := aimCallhandler s.requester.sess c call.family call.type
  ((userfunc.map fun func => client func call).getD 0, [.called c userfunc call])

/-- A connection gets to hold something else. -/
def hold (s : ServiceSession) (c : ConnPtr) (ins : ServiceInside) : ServiceSession :=
  { s with inside := Function.update s.inside c ins }

/-- A function that lists what the connection holds. -/
def list (s : ServiceSession) (c : ConnPtr) (call : ServiceCall) :
    ServiceSession × List GeneralEvent :=
  let requester := (s.requester.make c now (call.call (s.inside c) modlistv)).2
  ({ s with requester }, sentSince s.requester requester)

def hostonline (s : ServiceSession) (c : ConnPtr) (bs : AimBstream) :
    Option (Int × ServiceSession × List GeneralEvent) :=
  (Libfaim.hostonline bs (s.inside c).groups).map fun groups =>
    (1, (s.hold c ⟨groups, (s.inside c).rates⟩).list modlistv now c .setversions)

/-- `redirect`; the request that is remembered is taken out of the cache. -/
def redirect (s : ServiceSession) (c : ConnPtr) (id : UInt32) (bs : AimBstream) :
    Option (Int × ServiceSession × List GeneralEvent) :=
  (Libfaim.redirect s.requester.snacs id bs).map fun (redir, snacs) =>
    let s : ServiceSession := { s with requester := { s.requester with snacs } }
    match redir with
    | none => (0, s, [])
    | some redir => ((s.tell client c (.redirect redir)).1, s, (s.tell client c (.redirect redir)).2)

/-- `rateresp`. What the client returns is not looked at. -/
def rateresp (s : ServiceSession) (c : ConnPtr) (bs : AimBstream) :
    Option (Int × ServiceSession × List GeneralEvent) :=
  let rates := (Libfaim.rateresp generalVersion (s.inside c).rates bs).1
  let acked := (s.hold c ⟨(s.inside c).groups, rates⟩).list modlistv now c .ratesAddparam
  some (1, acked.1, acked.2 ++ (acked.1.tell client c .conninitdone).2)

/-- `hostversions`. The versions are not looked at. -/
def hostversions (s : ServiceSession) (c : ConnPtr) :
    Option (Int × ServiceSession × List GeneralEvent) :=
  let requester := (aimGenericreqN c 0x0001 0x0006 s.requester).2
  some (1, { s with requester }, sentSince s.requester requester)

/-- A handler that tells the client what it finds in the SNAC. -/
def parsed (s : ServiceSession) (c : ConnPtr) (parse : StateT AimBstream Option GeneralCall)
    (bs : AimBstream) : Option (Int × ServiceSession × List GeneralEvent) :=
  (parse bs).map fun (call, _) => ((s.tell client c call).1, s, (s.tell client c call).2)

/-- The `snachandler` of the module: what it returns, and what it has done. There is no result where
a handler never returns, or goes through a null pointer. -/
def snachandler (s : ServiceSession) (c : ConnPtr) (subtype : UInt16) (id : UInt32)
    (bs : AimBstream) : Option (Int × ServiceSession × List GeneralEvent) :=
  if subtype = 0x0003 then s.hostonline modlistv now c bs
  else if subtype = 0x0005 then s.redirect client c id bs
  else if subtype = 0x0007 then s.rateresp modlistv client now c bs
  else if subtype = 0x000a then s.parsed client c ratechange bs
  else if subtype = 0x000b then s.parsed client c serverpause bs
  else if subtype = 0x000d then s.parsed client c serverresume bs
  else if subtype = 0x000f then s.parsed client c selfinfo bs
  else if subtype = 0x0010 then s.parsed client c evilnotify bs
  else if subtype = 0x0012 then s.parsed client c migrate bs
  else if subtype = 0x0013 then s.parsed client c motd bs
  else if subtype = 0x0018 then s.hostversions c
  else if subtype = 0x001f then s.parsed client c memrequest bs
  else some (0, s, [])

end Handlers

end ServiceSession

/-! ## Frames of words -/

/-- Words that are put where an even number of bytes is left: as many as there is room for. -/
theorem written_put16s (l : List UInt16) {bs : AimBstream} (hle : bs.offset ≤ bs.len)
    (heven : aimBstreamEmpty bs % 2 = 0) :
    (putAll (l.map aimbsPut16) bs).2.written =
      (bs.written ++ (l.map aimutilPut16).flatten).take bs.len := by
  have hlen := AimBstream.length_written hle
  induction l generalizing bs with
  | nil =>
    rw [List.map_nil, List.map_nil, List.flatten_nil, List.append_nil,
      List.take_of_length_le (hlen ▸ hle)]
    rfl
  | cons w l ih =>
    have hput : (putAll ((w :: l).map aimbsPut16) bs).2 =
        (putAll (l.map aimbsPut16) (aimbsPut16 w bs).2).2 := rfl
    rw [hput, List.map_cons, List.flatten_cons]
    by_cases hroom : aimBstreamEmpty bs < (aimutilPut16 w).length
    · -- nothing is left, neither for this word nor for the later ones
      have hfull : bs.written.length = bs.len := by
        rw [aimutilPut16_length, aimBstreamEmpty] at hroom
        rw [aimBstreamEmpty] at heven
        omega
      have hsame : (aimbsPut16 w bs).2 = bs := by
        show (aimbsPut 2 (aimutilPut16 w) bs).2 = bs
        rw [aimbsPut, if_pos hroom]
      rw [hsame, ih hle heven hlen, List.take_left' hfull, List.take_left' hfull]
    · have hfits : (aimutilPut16 w).length ≤ aimBstreamEmpty bs := Nat.not_lt.mp hroom
      have hstore : (aimbsPut16 w bs).2 = bs.store (aimutilPut16 w) := by
        rw [writes_aimbsPut16 w bs hle hfits]
      have hempty := AimBstream.store_empty hle hfits
      rw [aimutilPut16_length] at hempty hfits
      have heven' : aimBstreamEmpty (bs.store (aimutilPut16 w)) % 2 = 0 := by omega
      have hle' := AimBstream.store_offset_le hle (Nat.not_lt.mp hroom)
      rw [hstore, ih hle' heven' (AimBstream.length_written hle'), AimBstream.written_store hle,
        AimBstream.store_len hle (Nat.not_lt.mp hroom), List.append_assoc]

/-- The words behind the header of a frame of `datalen` bytes. -/
theorem written_putSnac_put16s (subtype : UInt16) (snacid : UInt32) (l : List UInt16)
    {datalen : Nat} (hroom : 10 ≤ datalen) (hlt : datalen < 65536) (heven : datalen % 2 = 0) :
    (putSnac 0x0001 subtype (l.map aimbsPut16) snacid
        (aimBstreamInit (List.replicate datalen 0) datalen)).2.written =
      (snacFront 0x0001 subtype snacid ++ (l.map aimutilPut16).flatten).take datalen := by
  obtain ⟨bs, hle, hlen, hempty, hfront, hputs⟩ :=
    putSnac_init 0x0001 subtype snacid (l.map aimbsPut16) hroom hlt
  rw [hputs, written_put16s l hle (by omega), hfront, hlen]

namespace ServiceCall

variable (ins : ServiceInside) (modlistv : List ModuleVersion)

/-- What is put for the groups that have a module, as words. -/
theorem versions_words (fields : ModuleVersion → List UInt16)
    {versions : UInt16 → ModuleVersion → List UInt8} (groups : List UInt16)
    (h : ∀ group mod, findmoduleVersion modlistv group = some mod →
      ((fields mod).map aimutilPut16).flatten = versions group mod) :
    ∃ l : List UInt16, (groups.flatMap fun group =>
        match findmoduleVersion modlistv group with
        | none => []
        | some mod => (fields mod).map aimbsPut16) = l.map aimbsPut16 ∧
      (groups.filterMap fun group => (findmoduleVersion modlistv group).map fun mod =>
        versions group mod).flatten = (l.map aimutilPut16).flatten := by
  induction groups with
  | nil => exact ⟨[], rfl, rfl⟩
  | cons group groups ih =>
    obtain ⟨l, hputs, hbytes⟩ := ih
    rw [List.flatMap_cons, hputs]
    cases hfind : findmoduleVersion modlistv group with
    | none =>
      rw [List.filterMap_cons_none (by rw [hfind]; rfl)]
      exact ⟨l, rfl, hbytes⟩
    | some mod =>
      refine ⟨fields mod ++ l, (List.map_append ..).symm, ?_⟩
      rw [List.filterMap_cons_some (by rw [hfind]; rfl), List.flatten_cons, hbytes,
        List.map_append, List.flatten_append, h group mod hfind]

/-- The puts of a frame are of words. -/
theorem puts_words (call : ServiceCall) :
    ∃ l : List UInt16, call.puts ins modlistv = l.map aimbsPut16 ∧
      (call.elements ins modlistv).flatten = (l.map aimutilPut16).flatten := by
  cases call with
  | clientready =>
    refine versions_words modlistv
      (fun mod => [mod.family, mod.version, mod.toolid, mod.toolversion]) ins.groups
      fun group mod hfind => ?_
    rw [family_of_findmoduleVersion hfind]
    simp [versions]
  | setversions =>
    refine versions_words modlistv (fun mod => [mod.family, mod.version]) ins.groups
      fun group mod hfind => ?_
    rw [family_of_findmoduleVersion hfind]
    simp [versions]
  | ratesAddparam =>
    exact ⟨ins.rates.map (·.classid), rfl, by rw [elements, List.map_map]; rfl⟩
  | sendpauseack => exact ⟨ins.groups, rfl, rfl⟩

/-- What is in the frame: all it should list, cut off where the frame ends. -/
theorem written_put (call : ServiceCall) (snacid : UInt32) :
    (putSnac 0x0001 call.subtype (call.puts ins modlistv) snacid
        (aimBstreamInit (List.replicate call.datalen 0) call.datalen)).2.written =
      (snacFront 0x0001 call.subtype snacid ++ (call.elements ins modlistv).flatten).take
        call.datalen := by
  obtain ⟨l, hputs, hbytes⟩ := puts_words ins modlistv call
  rw [hputs, hbytes]
  cases call <;> exact written_putSnac_put16s _ _ _ (by decide) (by decide) (by decide)

end ServiceCall

/-! ## Enqueuing leaves the connections -/

/-- All but the number of the last frame is as it was. -/
def AimConn.Renumbered (a b : AimConn) : Prop := ∃ seqnum, b = { a with seqnum }

/-- No connection has changed but for the numbers of its frames. -/
def AimSession.Renumbered (s t : AimSession) : Prop := ∀ d, (s.conn d).Renumbered (t.conn d)

section Renumbered

variable {s t u : AimSession}

theorem AimSession.Renumbered.refl (s : AimSession) : s.Renumbered s := fun _ => ⟨_, rfl⟩

theorem AimSession.Renumbered.trans (h : s.Renumbered t) (h' : t.Renumbered u) : s.Renumbered u := by
  intro d
  obtain ⟨n, hn⟩ := h d
  obtain ⟨m, hm⟩ := h' d
  exact ⟨m, by rw [hm, hn]⟩

theorem AimSession.Renumbered.usable (h : s.Renumbered t) {c : ConnPtr} (hc : s.Usable c) :
    t.Usable c := by
  obtain ⟨n, hn⟩ := h c
  exact ⟨hc.1, hn ▸ hc.2⟩

theorem AimSession.Renumbered.hooks (h : s.Renumbered t) (c : ConnPtr) : t.hooks c = s.hooks c := by
  obtain ⟨n, hn⟩ := h c
  rw [AimSession.hooks, hn]
  rfl

theorem stampFrame_same (s : AimSession) (fr : AimFrame) : s.Renumbered (stampFrame s fr).2 := by
  intro d
  unfold stampFrame aimGetNextTxseqnum
  split
  · dsimp only
    rw [AimSession.setConn_conn]
    split
    · next heq =>
      rw [heq]
      exact ⟨_, rfl⟩
    · exact ⟨_, rfl⟩
  · exact ⟨_, rfl⟩

theorem aimTxEnqueue_same (s : AimSession) (fr : AimFrame) : s.Renumbered (aimTxEnqueue s fr) := by
  have hqueue : s.Renumbered (aimTxEnqueueQueuebased s fr) := stampFrame_same s _
  unfold aimTxEnqueue
  split
  · exact hqueue
  · split
    · exact hqueue
    · unfold aimTxEnqueueImmediate
      split
      · exact .refl s
      · obtain ⟨data, heq⟩ := aimTxSendframe_eq (stampFrame s fr).1
          ((stampFrame s fr).2.noteEnqueued (stampFrame s fr).1)
        dsimp only
        rw [heq]
        exact stampFrame_same s fr
    · exact .refl s

end Renumbered

/-- One frame for `c` has been passed on, of these bytes. -/
structure Requester.Passes (s t : Requester) (c : ConnPtr) (data : AimBstream) (fr : AimFrame) :
    Prop where
  passed : t.passed = s.passed ++ [fr]
  conn : fr.conn = c
  hdr : fr.hdr = .flap 0x02 0
  data : fr.data = data
  same : s.sess.Renumbered t.sess

section Passes

variable {s : Requester} {c : ConnPtr}

theorem Requester.request_passes (hc : s.sess.Usable c) (now : Int) (req : Request) :
    ∃ fr, s.Passes (s.request c now req).2 c (req.put s.snacs.snacidNext
      (aimBstreamInit (List.replicate req.datalen 0) req.datalen)).2 fr := by
  unfold Requester.request
  cases hnew : aimTxNew s.sess c aimFrametypeFlap 0x02 req.datalen with
  | none => exact absurd hnew (aimTxNew_flap_ne_none hc)
  | some r =>
    obtain ⟨fr, sess⟩ := r
    obtain ⟨hconn, rfl⟩ := aimTxNew_alloc hnew
    have hhdr : fr.hdr = .flap 0x02 0 := aimTxNew_flap_hdr hnew
    refine ⟨_, rfl, hconn, hhdr, ?_, fun d => aimTxEnqueue_same _ _ d⟩
    exact congrArg (fun bs => (req.put s.snacs.snacidNext bs).2) (aimTxNew_data hnew)

theorem Requester.post_passes (hc : s.sess.Usable c) (datalen : Nat)
    (put : StateM AimBstream Nat) :
    ∃ fr, s.Passes (s.post c 0x02 datalen put).2 c
      (put (aimBstreamInit (List.replicate datalen 0) datalen)).2 fr := by
  unfold Requester.post
  cases hnew : aimTxNew s.sess c aimFrametypeFlap 0x02 datalen with
  | none => exact absurd hnew (aimTxNew_flap_ne_none hc)
  | some r =>
    obtain ⟨fr, sess⟩ := r
    obtain ⟨hconn, rfl⟩ := aimTxNew_alloc hnew
    have hhdr : fr.hdr = .flap 0x02 0 := aimTxNew_flap_hdr hnew
    refine ⟨_, rfl, hconn, hhdr, ?_, fun d => aimTxEnqueue_same _ _ d⟩
    exact congrArg (fun bs => (put bs).2) (aimTxNew_data hnew)

theorem Requester.request_same (s : Requester) (c : ConnPtr) (now : Int) (req : Request) :
    s.sess.Renumbered (s.request c now req).2.sess := by
  by_cases hc : s.sess.Usable c
  · obtain ⟨fr, h⟩ := s.request_passes hc now req
    exact h.same
  · rw [s.request_of_not_usable hc]
    exact .refl _

theorem Requester.make_same (s : Requester) (c : ConnPtr) (now : Int) (call : RequestCall) :
    s.sess.Renumbered (s.make c now call).2.sess := by
  rw [Requester.make]
  split
  · exact .refl _
  · exact s.request_same c now _

end Passes

/-! ## One connection by itself -/

/-- What the library answers: a frame with `body` behind the header of this SNAC, cut off at
`datalen` bytes, or a call of the client. -/
inductive GeneralReply where
  | frame (subtype : UInt16) (datalen : Nat) (body : List UInt8)
  | call (call : GeneralCall)

/-- The frame that lists what the connection holds. -/
def ServiceInside.lists (ins : ServiceInside) (modlistv : List ModuleVersion)
    (call : ServiceCall) : GeneralReply :=
  .frame call.subtype call.datalen (call.elements ins modlistv).flatten

/-- A redirect, as far as it is in the SNAC. -/
def redirectReceived (bs : AimBstream) : Option (List GeneralReply) := do
  let (tlvlist, _) ← aimReadtlvchain bs
  return ((redirectGroup tlvlist).map fun group => .call <| .redirect
    ⟨group, aimGettlvStr tlvlist 0x0005 1, aimGettlvStr tlvlist 0x0006 1, none⟩).toList

/-- What the client is told of a SNAC that `parse` reads. -/
def parsedReceived (parse : StateT AimBstream Option GeneralCall) (bs : AimBstream) :
    Option (List GeneralReply) :=
  (parse bs).map fun (call, _) => [.call call.received]

/-- The answers on a connection that holds `ins` to a SNAC, given by its subtype and its data. -/
def answer (modlistv : List ModuleVersion) (ins : ServiceInside) (snac : UInt16 × AimBstream) :
    Option (ServiceInside × List GeneralReply) :=
  let (subtype, bs) := snac
  let told (replies : Option (List GeneralReply)) := replies.map fun replies => (ins, replies)
  if subtype = 0x0003 then
    (hostonline bs ins.groups).map fun groups =>
      let ins : ServiceInside := ⟨groups, ins.rates⟩
      (ins, [ins.lists modlistv .setversions])
  else if subtype = 0x0005 then told (redirectReceived bs)
  else if subtype = 0x0007 then
    let ins : ServiceInside := ⟨ins.groups, (rateresp generalVersion ins.rates bs).1⟩
    some (ins, [ins.lists modlistv .ratesAddparam, .call .conninitdone])
  else if subtype = 0x000a then told (parsedReceived ratechange bs)
  else if subtype = 0x000b then told (parsedReceived serverpause bs)
  else if subtype = 0x000d then told (parsedReceived serverresume bs)
  else if subtype = 0x000f then told (parsedReceived selfinfo bs)
  else if subtype = 0x0010 then told (parsedReceived evilnotify bs)
  else if subtype = 0x0012 then told (parsedReceived migrate bs)
  else if subtype = 0x0013 then told (parsedReceived motd bs)
  else if subtype = 0x0018 then some (ins, [.frame 0x0006 10 []])
  else if subtype = 0x001f then told (parsedReceived memrequest bs)
  else some (ins, [])

/-- The event is the reply on `c`, where the function of the client is the one that is hooked. -/
inductive Tells (c : ConnPtr) (hooks : Hooks) : GeneralEvent → GeneralReply → Prop
  | frame {fr : AimFrame} {subtype : UInt16} {datalen : Nat} {body : List UInt8}
    (snacid : UInt32) (hconn : fr.conn = c) (hhdr : fr.hdr = .flap 0x02 0)
    (hdata : fr.data.written = (snacFront 0x0001 subtype snacid ++ body).take datalen) :
    Tells c hooks (.sent fr) (.frame subtype datalen body)
  | call (call : GeneralCall) :
    Tells c hooks (.called c (hooks.call call.family call.type) call) (.call call.received)

/-- What a handler has done with a SNAC of `c`: its answers are those of the connection by itself,
and the other connections are as they were. -/
structure Handled (c : ConnPtr) (s t : ServiceSession) (events : List GeneralEvent)
    (answers : Option (ServiceInside × List GeneralReply)) : Prop where
  answered : s.requester.sess.Usable c → ∃ replies, answers = some (t.inside c, replies) ∧
    List.Forall₂ (Tells c (s.requester.sess.hooks c)) events replies
  mine : ∀ e ∈ events, e.conn = c
  same : s.requester.sess.Renumbered t.requester.sess
  inside : ∀ d, d ≠ c → t.inside d = s.inside d

namespace ServiceSession

section Handled

variable {modlistv : List ModuleVersion} {client : AimRxcallback → GeneralCall → Int} {now : Int}
  {s t : ServiceSession} {c : ConnPtr} {ret : Int} {events : List GeneralEvent}

@[simp] theorem hold_inside_self (s : ServiceSession) (c : ConnPtr) (ins : ServiceInside) :
    (s.hold c ins).inside c = ins := Function.update_self ..

theorem hold_inside_of_ne {ins : ServiceInside} {d : ConnPtr} (hd : d ≠ c) :
    (s.hold c ins).inside d = s.inside d := Function.update_of_ne hd ..

theorem sentSince_passes {s t : Requester} {data : AimBstream} {fr : AimFrame}
    (h : s.Passes t c data fr) : sentSince s t = [.sent fr] := by
  rw [sentSince, h.passed, List.drop_left]
  rfl

theorem sentSince_refl (s : Requester) : sentSince s s = [] := by
  rw [sentSince, List.drop_length, List.map_nil]

/-- The call of a function that is looked up now, where nothing has been hooked since. -/
theorem tells_tell (hc : s.requester.sess.Usable c)
    (hsame : s.requester.sess.Renumbered t.requester.sess) (call : GeneralCall) :
    List.Forall₂ (Tells c (s.requester.sess.hooks c)) (t.tell client c call).2
      [.call call.received] := by
  have hfunc : aimCallhandler t.requester.sess c call.family call.type = _ :=
    aimCallhandler_eq hc.1 call.family call.type
  rw [hsame.hooks c] at hfunc
  refine .cons ?_ .nil
  rw [hfunc]
  exact .call call

theorem list_handled {call : ServiceCall} (h : s.list modlistv now c call = (t, events)) :
    t.inside = s.inside ∧ s.requester.sess.Renumbered t.requester.sess ∧
      (∀ e ∈ events, e.conn = c) ∧ (s.requester.sess.Usable c →
        List.Forall₂ (Tells c (s.requester.sess.hooks c)) events
          [(s.inside c).lists modlistv call]) := by
  obtain ⟨rfl, rfl⟩ := Prod.mk.inj h
  rw [ServiceCall.make_call (s.inside c) modlistv call s.requester c now]
  refine ⟨rfl, s.requester.request_same c now _, ?_, fun hc => ?_⟩
  · by_cases hc : s.requester.sess.Usable c
    · obtain ⟨fr, hfr⟩ := Requester.request_passes hc now
        (serviceRequest call.datalen call.subtype (call.puts (s.inside c) modlistv))
      rw [sentSince_passes hfr, List.forall_mem_singleton]
      exact hfr.conn
    · rw [Requester.request_of_not_usable hc, sentSince_refl]
      exact fun e he => absurd he List.not_mem_nil
  · obtain ⟨fr, hfr⟩ := Requester.request_passes hc now
      (serviceRequest call.datalen call.subtype (call.puts (s.inside c) modlistv))
    rw [sentSince_passes hfr]
    refine .cons (.frame s.requester.snacs.snacidNext hfr.conn hfr.hdr ?_) .nil
    rw [hfr.data]
    exact ServiceCall.written_put (s.inside c) modlistv call _

theorem handled_hostonline {bs : AimBstream}
    (h : s.hostonline modlistv now c bs = some (ret, t, events)) :
    Handled c s t events ((Libfaim.hostonline bs (s.inside c).groups).map fun groups =>
      let ins : ServiceInside := ⟨groups, (s.inside c).rates⟩
      (ins, [ins.lists modlistv .setversions])) := by
  obtain ⟨groups, hgroups, heq⟩ := Option.map_eq_some_iff.mp h
  obtain ⟨hinside, hsame, hmine, htells⟩ := list_handled (Prod.mk.inj heq).2
  refine ⟨fun hc => ⟨_, ?_, htells hc⟩, hmine, hsame, fun d hd => ?_⟩
  · rw [hgroups, hinside, hold_inside_self]
    rfl
  · rw [hinside, hold_inside_of_ne hd]

/-- What `redirect` takes from the SNAC. -/
theorem redirect_received {snacs snacs' : SnacCache} {id : UInt32} {bs : AimBstream}
    {redir : Option AimRedirectData}
    (h : Libfaim.redirect snacs id bs = some (redir, snacs')) :
    redirectReceived bs = some
      (redir.map fun redir => .call (GeneralCall.redirect redir).received).toList := by
  unfold Libfaim.redirect at h
  rw [Option.bind_eq_bind, Option.bind_eq_some_iff] at h
  obtain ⟨⟨tlvlist, bs'⟩, hchain, h⟩ := h
  unfold redirectReceived
  rw [hchain, Option.bind_eq_bind, Option.bind_some]
  dsimp only at h ⊢
  cases hgroup : redirectGroup tlvlist with
  | none =>
    rw [hgroup] at h
    obtain ⟨rfl, -⟩ := Prod.mk.inj (Option.some.inj h)
    rfl
  | some group =>
    rw [hgroup] at h
    dsimp only at h
    split at h
    · obtain ⟨rfl, -⟩ := Prod.mk.inj (Option.some.inj h)
      rfl
    · split at h
      · cases h
      · obtain ⟨rfl, -⟩ := Prod.mk.inj (Option.some.inj h)
        rfl

theorem handled_redirect {id : UInt32} {bs : AimBstream}
    (h : s.redirect client c id bs = some (ret, t, events)) :
    Handled c s t events ((redirectReceived bs).map fun replies => (s.inside c, replies)) := by
  obtain ⟨⟨redir, snacs⟩, hredir, heq⟩ := Option.map_eq_some_iff.mp h
  rw [redirect_received hredir]
  cases redir with
  | none =>
    obtain ⟨-, rfl, rfl⟩ := heq
    exact ⟨fun _ => ⟨_, rfl, .nil⟩, fun e he => absurd he List.not_mem_nil, .refl _, fun _ _ => rfl⟩
  | some redir =>
    obtain ⟨-, rfl, rfl⟩ := heq
    refine ⟨fun hc => ⟨_, rfl, ?_⟩, ?_, .refl _, fun _ _ => rfl⟩
    · exact tells_tell hc (.refl s.requester.sess) (.redirect redir)
    · rw [tell, List.forall_mem_singleton]
      rfl

theorem handled_rateresp {bs : AimBstream}
    (h : s.rateresp modlistv client now c bs = some (ret, t, events)) :
    Handled c s t events (
      let ins : ServiceInside := ⟨(s.inside c).groups,
        (Libfaim.rateresp generalVersion (s.inside c).rates bs).1⟩
      some (ins, [ins.lists modlistv .ratesAddparam, .call .conninitdone])) := by
  let held := s.hold c ⟨(s.inside c).groups,
    (Libfaim.rateresp generalVersion (s.inside c).rates bs).1⟩
  have hlist := Prod.mk.eta (p := held.list modlistv now c .ratesAddparam)
  obtain ⟨hinside, hsame, hmine, htells⟩ := list_handled hlist.symm
  obtain ⟨-, rfl, rfl⟩ : _ ∧ (held.list modlistv now c .ratesAddparam).1 = t ∧ _ = events := by
    simpa [ServiceSession.rateresp] using h
  refine ⟨fun hc => ⟨_, ?_, List.rel_append (htells hc) (tells_tell hc hsame .conninitdone)⟩, ?_,
    hsame, fun d hd => ?_⟩
  · rw [hinside, hold_inside_self]
    rfl
  · rw [List.forall_mem_append]
    exact ⟨hmine, by rw [tell, List.forall_mem_singleton]; rfl⟩
  · rw [hinside, hold_inside_of_ne hd]

theorem handled_parsed {parse : StateT AimBstream Option GeneralCall} {bs : AimBstream}
    (h : s.parsed client c parse bs = some (ret, t, events)) :
    Handled c s t events ((parsedReceived parse bs).map fun replies => (s.inside c, replies)) := by
  obtain ⟨⟨call, bs'⟩, hcall, heq⟩ := Option.map_eq_some_iff.mp h
  obtain ⟨-, rfl, rfl⟩ := heq
  refine ⟨fun hc => ⟨[.call call.received], ?_, tells_tell hc (.refl s.requester.sess) call⟩, ?_,
    .refl _, fun _ _ => rfl⟩
  · rw [parsedReceived, hcall]
    rfl
  · rw [tell, List.forall_mem_singleton]
    rfl

theorem handled_hostversions (h : s.hostversions c = some (ret, t, events)) :
    Handled c s t events (some (s.inside c, [.frame 0x0006 10 []])) := by
  obtain ⟨-, rfl, rfl⟩ := Option.some.inj h
  have hfront : Writes (aimPutsnac 0x0001 0x0006 0x0000 0x00000000) (snacFront 0x0001 0x0006 0)
      10 := (writes_aimPutsnac 0x0001 0x0006 0x0000 0x00000000).of_eq (by simp [snacFront])
  by_cases hc : s.requester.sess.Usable c
  · obtain ⟨fr, hfr⟩ := Requester.post_passes hc 10 (aimPutsnac 0x0001 0x0006 0x0000 0x00000000)
    rw [aimGenericreqN, sentSince_passes hfr]
    refine ⟨fun _ => ⟨_, rfl, .cons (.frame 0x00000000 hfr.conn hfr.hdr ?_) .nil⟩, ?_, hfr.same,
      fun _ _ => rfl⟩
    · rw [hfr.data, hfront.written_init (by decide) (Nat.le_of_eq (snacFront_length _ _ _)),
        List.append_nil, List.take_of_length_le (Nat.le_of_eq (snacFront_length _ _ _))]
    · rw [List.forall_mem_singleton]
      exact hfr.conn
  · rw [aimGenericreqN, Requester.post_of_not_usable hc, sentSince_refl]
    exact ⟨fun hc' => absurd hc' hc, fun e he => absurd he List.not_mem_nil, .refl _,
      fun _ _ => rfl⟩

theorem handled_ite {p : Prop} [Decidable p]
    {handler handler' : Option (Int × ServiceSession × List GeneralEvent)}
    {answers answers' : Option (ServiceInside × List GeneralReply)}
    (hpos : handler = some (ret, t, events) → Handled c s t events answers)
    (hneg : handler' = some (ret, t, events) → Handled c s t events answers')
    (h : (if p then handler else handler') = some (ret, t, events)) :
    Handled c s t events (if p then answers else answers') := by
  by_cases hp : p
  · rw [if_pos hp] at h ⊢
    exact hpos h
  · rw [if_neg hp] at h ⊢
    exact hneg h

/-- Every SNAC is answered on its connection as if there were no other one. -/
theorem handled_snachandler {subtype : UInt16} {id : UInt32} {bs : AimBstream}
    (h : s.snachandler modlistv client now c subtype id bs = some (ret, t, events)) :
    Handled c s t events (answer modlistv (s.inside c) (subtype, bs)) := by
  have hnone : some (0, s, []) = some (ret, t, events) →
      Handled c s t events (some (s.inside c, [])) := by
    intro heq
    obtain ⟨-, rfl, rfl⟩ := Option.some.inj heq
    exact ⟨fun _ => ⟨_, rfl, .nil⟩, fun e he => absurd he List.not_mem_nil, .refl _,
      fun _ _ => rfl⟩
  exact handled_ite handled_hostonline (handled_ite handled_redirect (handled_ite handled_rateresp
    (handled_ite handled_parsed (handled_ite handled_parsed (handled_ite handled_parsed
      (handled_ite handled_parsed (handled_ite handled_parsed (handled_ite handled_parsed
        (handled_ite handled_parsed (handled_ite handled_hostversions
          (handled_ite handled_parsed hnone))))))))))) h

end Handled

end ServiceSession

/-! ## All connections together -/

/-- What else is done with the session: the connections stay as they are, but for the numbers of
their frames. -/
structure OtherStep where
  act : Requester → Requester
  same : ∀ r : Requester, r.sess.Renumbered (act r).sess

/-- A request of the client. -/
def OtherStep.request (c : ConnPtr) (now : Int) (call : RequestCall) : OtherStep where
  act r := (r.make c now call).2
  same r := r.make_same c now call

/-- A SNAC of family 1 comes in on a connection, or something else is done. -/
inductive GeneralStep where
  | receive (c : ConnPtr) (now : Int) (subtype : UInt16) (id : UInt32) (bs : AimBstream)
  | other (step : OtherStep)

/-- The SNAC that comes in on `c`. -/
def GeneralStep.received (c : ConnPtr) : GeneralStep → Option (UInt16 × AimBstream)
  | receive d _ subtype _ bs => if d = c then some (subtype, bs) else none
  | other _ => none

namespace ServiceSession

section Run

variable (modlistv : List ModuleVersion) (client : AimRxcallback → GeneralCall → Int)

/-- One step, and what the handler does. -/
def step (s : ServiceSession) : GeneralStep → Option (ServiceSession × List GeneralEvent)
  | .receive c now subtype id bs => (s.snachandler modlistv client now c subtype id bs).map (·.2)
  | .other step => some ({ s with requester := step.act s.requester }, [])

/-- The system serves every connection. -/
theorem serves (c : ConnPtr) (hooks : Hooks) :
    Dialogue.Serves (step modlistv client) (answer modlistv) (GeneralStep.received c)
      (fun e => e.conn = c) (·.inside c)
      (fun s => s.requester.sess.Usable c ∧ s.requester.sess.hooks c = hooks) (Tells c hooks) where
  inv s b t events := by
    rintro ⟨hc, hhooks⟩ h
    have hsame : s.requester.sess.Renumbered t.requester.sess := by
      cases b with
      | receive d now subtype id bs =>
        obtain ⟨⟨ret, t, events⟩, hhandler, heq⟩ := Option.map_eq_some_iff.mp h
        obtain ⟨rfl, rfl⟩ := Prod.mk.inj heq
        exact (handled_snachandler hhandler).same
      | other step =>
        obtain ⟨rfl, -⟩ := Prod.mk.inj (Option.some.inj h)
        exact step.same s.requester
    exact ⟨hsame.usable hc, (hsame.hooks c).trans hhooks⟩
  own s b t events snac := by
    rintro ⟨hc, rfl⟩ h hsnac
    cases b with
    | receive d now subtype id bs =>
      obtain ⟨⟨ret, t, events⟩, hhandler, heq⟩ := Option.map_eq_some_iff.mp h
      obtain ⟨rfl, rfl⟩ := Prod.mk.inj heq
      rw [GeneralStep.received, Option.ite_none_right_eq_some] at hsnac
      obtain ⟨rfl, hsnac⟩ := hsnac
      obtain rfl := Option.some.inj hsnac
      have hhandled := handled_snachandler hhandler
      obtain ⟨replies, hreplies, htells⟩ := hhandled.answered hc
      have hall : events.filter (fun e => decide (e.conn = d)) = events :=
        List.filter_eq_self.mpr fun e he => decide_eq_true (hhandled.mine e he)
      exact ⟨replies, hreplies, by rwa [hall]⟩
    | other step => cases hsnac
  other s b t events := by
    rintro - h hnone
    cases b with
    | receive d now subtype id bs =>
      obtain ⟨⟨ret, t, events⟩, hhandler, heq⟩ := Option.map_eq_some_iff.mp h
      obtain ⟨rfl, rfl⟩ := Prod.mk.inj heq
      have hd : d ≠ c := by
        rintro rfl
        rw [GeneralStep.received, if_pos rfl] at hnone
        cases hnone
      have hhandled := handled_snachandler hhandler
      refine ⟨hhandled.inside c hd.symm, List.filter_eq_nil_iff.mpr fun e he => ?_⟩
      rw [hhandled.mine e he, decide_eq_true_eq]
      exact hd
    | other step =>
      obtain ⟨rfl, rfl⟩ := Prod.mk.inj (Option.some.inj h)
      exact ⟨rfl, rfl⟩

end Run

end ServiceSession

section Answered

variable {modlistv : List ModuleVersion} {client : AimRxcallback → GeneralCall → Int}
  {s t : ServiceSession} {steps : List GeneralStep} {events : List GeneralEvent} {c : ConnPtr}

end Answered

section Example

/-- Two connections at once. -/
def twoConns : ServiceSession where
  requester := { requesterInit 0 with
    sess := (aimNewconn (aimNewconn (aimSessionInit []) aimConnTypeBos (.connected 3 0)).2
      aimConnTypeAuth (.connected 4 0)).2 }
  inside _ := ⟨[], []⟩

/-- The host pauses the server on one of them and sends its versions on both, and the client asks
for information in between. -/
def mixedSteps : List GeneralStep :=
  [.receive 1 0 0x000b 0 ⟨[], 0⟩, .other (.request 1 0 (.adminGetinfo 2)),
    .receive 2 0 0x0018 0 ⟨[], 0⟩, .receive 1 0 0x0018 0 ⟨[], 0⟩]

end Example

end Libfaim
