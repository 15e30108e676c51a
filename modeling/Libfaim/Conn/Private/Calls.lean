import Libfaim.Conn.Private.Rules

/-!
# Calls on connections with private records

`PrivOp` are the calls that open, close and kill connections with private records, and `PrivRun`
are sequences of them, on connections that are on the list. Every session of a run has its form
(`PrivOp.formed_step`), and each call has a result there (`PrivOp.run_ne_none`), unless a second
connection is accepted on the listener of a direct connection, whose record is gone by then.
-/

namespace Libfaim

open HandleStore

namespace PrivSession

section Calls

variable {s t : PrivSession}

/-! ## Attaching a name -/

/-- A record of a chat and its name take the place of what was there. -/
theorem aimChatAttachname_cases (s : PrivSession) (c : ConnPtr) (exchange : UInt16)
    (roomname : Option (List UInt8)) (inst : UInt16) :
    (s.aimChatAttachname c exchange roomname inst).2 = s ∨
      (c ≠ 0 ∧ roomname ≠ none ∧ ∃ name, (s.aimChatAttachname c exchange roomname inst).2 =
        { s with
          store := (((s.store.free (s.priv c)).alloc (.name name)).2.alloc
            (.chatconnpriv exchange s.store.next inst)).2
          priv := Function.update s.priv c (s.store.next + 1) }) := by
  cases roomname with
  | none => exact .inl rfl
  | some roomname =>
    unfold aimChatAttachname
    dsimp only
    split
    · exact .inl rfl
    · next hc =>
      have hnext : (s.store.free (s.priv c)).next = s.store.next := Store.free_next
      refine .inr ⟨hc, Option.some_ne_none _, cstr roomname, ?_⟩
      simp only [Store.alloc, hnext]

theorem Formed.attachname (h : s.Formed) (c : ConnPtr) (exchange : UInt16)
    (roomname : Option (List UInt8)) (inst : UInt16) :
    (s.aimChatAttachname c exchange roomname inst).2.Formed := by
  rcases aimChatAttachname_cases s c exchange roomname inst with heq | ⟨-, -, name, heq⟩
  · rw [heq]
    exact h
  · have hnext : (s.store.free (s.priv c)).next = s.store.next := Store.free_next
    have hname := (h.free (h.priv_lt c)).alloc (.name name)
    have hccp := hname.alloc (.chatconnpriv exchange s.store.next inst)
    have hnew : ((s.store.free (s.priv c)).alloc (.name name)).2.next = s.store.next + 1 :=
      congrArg Nat.succ hnext
    rw [heq]
    refine hccp.setPriv (.inr ⟨exchange, s.store.next, inst, ?_, ?_⟩) c
    · exact hnew ▸ Store.alloc_record_next
    · show s.store.next < ((s.store.free (s.priv c)).alloc (.name name)).2.next + 1
      omega

/-! ## Starting a rendezvous -/

/-- A cookie is cached, and a connection listens with a record of its own that has this cookie. -/
structure Initiated (subtype : UInt16) (ck : Cookie) (s : PrivSession) (m : CookieMap)
    (t : PrivSession) (m' : CookieMap) : Prop where
  eq : ∃ rq cookies sess fd sn ip, fd ≠ -1 ∧ SameConns s.sess rq.sess ∧
    Opened fd (aimConnTypeRendezvousOut, subtype) rq.sess sess ∧
    t = ({ s with
      rq := rq
      cookies := cookies
      store := (s.store.reserve.2.reserve.2.alloc (.intdata ck sn ip)).2 } : PrivSession).withConn
        sess 0 (s.store.next + 2) s.store.next
  refines : t.cookies.Refines m'
  new : m'.cached (ck, aimCookietypeOftim) = some s.store.next
  cached : ∀ k q, m'.cached k = some q →
    (k = (ck, aimCookietypeOftim) ∧ q = s.store.next) ∨ m.cached k = some q
  structs : ∀ q, m'.structs q ≠ none → q = s.store.next ∨ m.structs q ≠ none

theorem rendRequest_eq (s : PrivSession) (conn : ConnPtr) (env : Listening)
    (request : Except Int Request) (stack : Cookie) :
    ∃ ck rq, SameConns s.sess rq.sess ∧
      s.rendRequest conn env request stack = (ck, { s with rq := rq }) := by
  cases request with
  | error ret => exact ⟨stack, s.rq, .refl _, rfl⟩
  | ok req => exact ⟨_, _, request_sameConns s.rq conn env.now req, rfl⟩

theorem listenRend_eq (s : PrivSession) (subtype : UInt16) (listenfd : Int) (cookie : CookiePtr)
    (ck : Cookie) (destsn : List UInt8) :
    ∃ sess sn ip, Opened listenfd (aimConnTypeRendezvousOut, subtype) s.sess sess ∧
      s.listenRend subtype listenfd cookie ck destsn = (s.sess.heap,
        ({ s with store := (s.store.alloc (.intdata ck sn ip)).2 } : PrivSession).withConn sess 0
          s.store.next cookie) := by
  obtain ⟨fd, sess, hopened, hnew⟩ := s.aimNewconn_eq aimConnTypeRendezvousOut .nodest
  have htype := congrArg Prod.fst hopened.kind_new
  have hset : Opened listenfd (aimConnTypeRendezvousOut, subtype) s.sess (sess.setConn s.sess.heap
      { sess.conn s.sess.heap with fd := listenfd, subtype := subtype }) :=
    hopened.setConn rfl (Prod.ext htype rfl)
  unfold listenRend
  rw [hnew]
  refine ⟨_, strncpy destsn 33, List.replicate 22 0, hset, ?_⟩
  simp only [withConn, setSess, Function.update_idem]
  rfl

theorem Formed.rendInitiate (h : s.Formed) {m : CookieMap} (hm : s.cookies.Refines m)
    (subtype : UInt16) (request : List UInt8 → Except Int Request) (conn : ConnPtr)
    (env : Listening) (stack : Cookie) (destsn : List UInt8) :
    s.rendInitiate subtype request conn env stack destsn = some (0, s) ∨
      ∃ c ck t m', s.rendInitiate subtype request conn env stack destsn = some (c, t) ∧
        Initiated subtype ck s m t m' := by
  unfold PrivSession.rendInitiate
  cases hip : env.localip with
  | none => exact .inl rfl
  | some localip =>
    dsimp only
    split
    · exact .inl rfl
    · next hfd =>
      obtain ⟨ck, rq, hsame, hrequest⟩ := rendRequest_eq s conn env (request localip) stack
      have hfresh : m.structs s.store.next = none := by
        by_contra hlive
        exact Nat.lt_irrefl _ (h.structs _ (hm.struct_eq ▸ hlive))
      obtain ⟨r, cookies, m', hcache, hm', hnew, hcached, hstructs⟩ := cacheNew_refines hm
        (Nat.ne_of_gt h.store.pos) hfresh ck aimCookietypeOftim (s.store.next + 1) env.now
      obtain ⟨sess, sn, ip, hopened, hlisten⟩ := listenRend_eq
        { s with rq := rq, cookies := cookies, store := s.store.reserve.2.reserve.2 } subtype
        env.listenfd s.store.next ck destsn
      have hcacheRend : ({ s with rq := rq } : PrivSession).cacheRendcookie ck env.now =
          some (s.store.next, { s with
            rq := rq, cookies := cookies, store := s.store.reserve.2.reserve.2 }) := by
        unfold cacheRendcookie
        simp only [Store.reserve, hcache, Option.map_some]
      refine .inr ⟨rq.sess.heap, ck, _, m', ?_,
        ⟨rq, cookies, sess, env.listenfd, sn, ip, hfd, hsame, hopened, rfl⟩, hm', hnew, hcached,
        hstructs⟩
      rw [hrequest]
      dsimp only
      rw [hcacheRend, Option.map_some, hlisten]
      rfl

theorem Initiated.formed {subtype : UInt16} {ck : Cookie} {m m' : CookieMap} (h : s.Formed)
    (hm : s.cookies.Refines m) (hinit : Initiated subtype ck s m t m') : t.Formed := by
  obtain ⟨⟨rq, cookies, sess, fd, sn, ip, -, hsame, hopened, rfl⟩, hm', -, -, hstructs⟩ := hinit
  have hsess : ({ s with rq := rq } : PrivSession).Formed :=
    ⟨hsame.wellListed h.listed, h.store, h.priv, h.internal, h.refines, h.structs⟩
  have hreserve := hsess.setStore h.store.reserve.reserve
    (Nat.le_add_right s.store.next 2) fun _ _ => rfl
  have hcookies := hreserve.setCookies hm' fun p hp => by
    rcases hstructs p hp with rfl | hp
    · exact Nat.lt_add_of_pos_right Nat.two_pos
    · exact Nat.lt_add_right 2 (h.structs p (hm.struct_eq ▸ hp))
  exact (hcookies.alloc (.intdata ck sn ip)).withConn hopened (.inl rfl)
    (.inr ⟨ck, sn, ip, Store.alloc_record_next⟩) _

theorem Formed.rendInitiate_cases (h : s.Formed) {m : CookieMap} (hm : s.cookies.Refines m)
    {subtype : UInt16} {request : List UInt8 → Except Int Request} {conn c : ConnPtr}
    {env : Listening} {stack : Cookie} {destsn : List UInt8}
    (hinit : s.rendInitiate subtype request conn env stack destsn = some (c, t)) :
    t = s ∨ ∃ ck m', Initiated subtype ck s m t m' := by
  rcases h.rendInitiate hm subtype request conn env stack destsn with
    hsame | ⟨c', ck, u, m', hu, hnew⟩
  · exact .inl (Prod.mk.inj (Option.some.inj (hinit.symm.trans hsame))).2
  · obtain ⟨-, rfl⟩ := Prod.mk.inj (Option.some.inj (hu.symm.trans hinit))
    exact .inr ⟨ck, m', hnew⟩

theorem Formed.initiate (h : s.Formed) {subtype : UInt16}
    {request : List UInt8 → Except Int Request} {conn c : ConnPtr} {env : Listening}
    {stack : Cookie} {destsn : List UInt8}
    (hinit : s.rendInitiate subtype request conn env stack destsn = some (c, t)) : t.Formed := by
  obtain ⟨m, hm⟩ := h.refines
  rcases h.rendInitiate_cases hm hinit with rfl | ⟨ck, m', hnew⟩
  · exact h
  · exact hnew.formed h hm

theorem Formed.rendInitiate_ne_none (h : s.Formed) (subtype : UInt16)
    (request : List UInt8 → Except Int Request) (conn : ConnPtr) (env : Listening) (stack : Cookie)
    (destsn : List UInt8) : s.rendInitiate subtype request conn env stack destsn ≠ none := by
  obtain ⟨m, hm⟩ := h.refines
  rcases h.rendInitiate hm subtype request conn env stack destsn with
    hsame | ⟨c, ck, u, m', hu, -⟩
  · exact hsame ▸ Option.some_ne_none _
  · exact hu ▸ Option.some_ne_none _

/-! ## Connecting and accepting -/

theorem Formed.writeIp (h : s.Formed) {k : Handle} {ck : Cookie} {sn ip : List UInt8}
    (hrec : s.store.record k = some (.intdata ck sn ip)) (ip' : List UInt8) :
    ({ s with store := s.store.write k (.intdata ck sn ip') } : PrivSession).Formed := by
  have hne : s.store.record k ≠ none := hrec ▸ Option.some_ne_none _
  have hnext : (s.store.write k (.intdata ck sn ip')).next = s.store.next := Store.touch_next
  refine ⟨h.listed, h.store.write hne _, fun c => ?_, fun c => ?_, h.refines, fun p hp => ?_⟩
  · rcases h.priv c with hzero | ⟨exchange, name, inst, hr, hlt⟩
    · exact .inl hzero
    · have hck : s.priv c ≠ k := by
        intro heq
        rw [heq, hrec] at hr
        cases hr
      exact .inr ⟨exchange, name, inst, (Store.write_record_of_ne hck).trans hr, hnext ▸ hlt⟩
  · rcases h.internal c with hzero | ⟨cookie, sn', ip'', hr⟩
    · exact .inl hzero
    · by_cases hck : s.internal c = k
      · exact .inr ⟨ck, sn, ip', hck ▸ Store.write_record_self⟩
      · exact .inr ⟨cookie, sn', ip'', (Store.write_record_of_ne hck).trans hr⟩
  · exact hnext ▸ h.structs p hp

theorem aimDirectimConnect_cases (s : PrivSession) (sn addr : Option (List UInt8)) (cookie : Cookie)
    (outcome : ConnectOutcome) :
    (s.aimDirectimConnect sn addr cookie outcome).2 = s ∨
      ∃ fd sess name ip,
        Opened fd (aimConnTypeRendezvous, aimConnSubtypeOftDirectim) s.sess sess ∧
        (s.aimDirectimConnect sn addr cookie outcome).2 =
          ({ s with store := (s.store.alloc (.intdata cookie name ip)).2 } : PrivSession).withConn
            sess 0 s.store.next 0 := by
  cases sn with
  | none => exact .inl rfl
  | some sn =>
    obtain ⟨ip, hip⟩ : ∃ ip,
        (addr.map fun addr => strncpy addr 22).getD (List.replicate 22 0) = ip := ⟨_, rfl⟩
    obtain ⟨fd, sess, hopened, hnew⟩ :=
      ({ s with store := (s.store.alloc (.intdata cookie (strncpy sn 33) ip)).2 } :
        PrivSession).aimNewconn_eq aimConnTypeRendezvous (if addr = none then .nodest else outcome)
    have htype := congrArg Prod.fst hopened.kind_new
    have hset : Opened fd (aimConnTypeRendezvous, aimConnSubtypeOftDirectim) s.sess
        (sess.setConn s.sess.heap
          { sess.conn s.sess.heap with subtype := aimConnSubtypeOftDirectim }) :=
      hopened.setConn hopened.fd_new (Prod.ext htype rfl)
    refine .inr ⟨fd, _, strncpy sn 33, ip, hset, ?_⟩
    unfold aimDirectimConnect
    simp only [hip]
    rw [show s.store.alloc (.intdata cookie (strncpy sn 33) ip) = (s.store.next,
      (s.store.alloc (.intdata cookie (strncpy sn 33) ip)).2) from rfl]
    dsimp only
    rw [hnew]
    simp only [withConn, setSess, Function.update_idem]

theorem Formed.directimConnect (h : s.Formed) (sn addr : Option (List UInt8)) (cookie : Cookie)
    (outcome : ConnectOutcome) : (s.aimDirectimConnect sn addr cookie outcome).2.Formed := by
  rcases aimDirectimConnect_cases s sn addr cookie outcome with heq | ⟨fd, sess, name, ip, hop, heq⟩
  · rw [heq]
    exact h
  · rw [heq]
    exact (h.alloc (.intdata cookie name ip)).withConn hop (.inl rfl)
      (.inr ⟨cookie, name, ip, Store.alloc_record_next⟩) 0

theorem printIp_cases {priv : Handle} {text : List UInt8} (h : s.printIp priv text = some t) :
    ∃ ck sn ip ip', s.store.record priv = some (.intdata ck sn ip) ∧
      t = { s with store := s.store.write priv (.intdata ck sn ip') } := by
  unfold printIp at h
  split at h
  · next ck sn ip hrec => exact ⟨ck, sn, ip, _, hrec, (Option.some.inj h).symm⟩
  · cases h

/-- The accepted connection of a direct connection takes the record over from the listener; that
of a file transfer is closed at once, and shares it. -/
theorem aimHandlerendconnect_cases {cur : ConnPtr} (hcur : cur ≠ s.sess.heap) {accepted : Accepted}
    {userret r : Int} (h : s.aimHandlerendconnect cur accepted userret = some (r, t)) :
    t = s ∨ (accepted.fd ≠ -1 ∧ ¬ accepted.inet ∧ s.aimConnClose cur = some t) ∨ ∃ sess u,
      Opened accepted.fd (aimConnTypeRendezvous, (s.sess.conn cur).subtype) s.sess sess ∧
      (s.sess.conn cur).fd ≠ -1 ∧ accepted.fd ≠ -1 ∧
      u = s.withConn sess (s.priv cur) (s.internal cur) (s.rend cur) ∧
      (((s.sess.conn cur).subtype = aimConnSubtypeOftDirectim ∧ ∃ ck sn ip ip',
          s.store.record (s.internal cur) = some (.intdata ck sn ip) ∧
          t = { u with
            internal := Function.update u.internal cur 0
            store := s.store.write (s.internal cur) (.intdata ck sn ip') }) ∨
        ((s.sess.conn cur).subtype = aimConnSubtypeOftGetfile ∧ t = u) ∨
        ((s.sess.conn cur).subtype ≠ aimConnSubtypeOftDirectim ∧
          u.aimConnClose s.sess.heap = some t)) := by
  obtain ⟨sess, hopened, hclone⟩ := s.aimCloneconn_eq cur
  have hsubtype : (sess.conn s.sess.heap).subtype = (s.sess.conn cur).subtype :=
    congrArg Prod.snd hopened.kind_new
  have hset : Opened accepted.fd (aimConnTypeRendezvous, (s.sess.conn cur).subtype) s.sess
      (sess.setConn s.sess.heap { sess.conn s.sess.heap with
        type := aimConnTypeRendezvous, fd := accepted.fd }) :=
    hopened.setConn rfl (Prod.ext rfl hsubtype)
  unfold aimHandlerendconnect at h
  split at h
  · exact .inl (Prod.mk.inj (Option.some.inj h)).2.symm
  · next hfd =>
    obtain ⟨hfd, haccepted⟩ := not_or.mp hfd
    split at h
    · next hinet =>
      obtain ⟨u, hclose, heq⟩ := Option.map_eq_some_iff.mp h
      obtain ⟨-, rfl⟩ := Prod.mk.inj heq
      exact .inr (.inl ⟨haccepted, hinet, hclose⟩)
    · refine .inr (.inr ⟨_, _, hset, hfd, haccepted, rfl, ?_⟩)
      have hcopy : (s.withConn sess (s.priv cur) (s.internal cur) (s.rend cur)).internal cur =
          s.internal cur := Function.update_of_ne hcur ..
      rw [hclone] at h
      dsimp only at h
      split at h
      · next hdirect =>
        obtain ⟨u, hprint, heq⟩ := Option.map_eq_some_iff.mp h
        obtain ⟨-, rfl⟩ := Prod.mk.inj heq
        refine .inl ⟨hsubtype.symm.trans hdirect, ?_⟩
        obtain ⟨ck, sn, ip, ip', hrec, rfl⟩ := printIp_cases hprint
        refine ⟨ck, sn, ip, ip', (congrArg s.store.record hcopy).symm.trans hrec, ?_⟩
        simp only [setSess, hcopy]
        simp only [withConn, setSess, Function.update_idem]
      · next hdirect =>
        have hdirect : (s.sess.conn cur).subtype ≠ aimConnSubtypeOftDirectim :=
          fun heq => hdirect (hsubtype.trans heq)
        split at h
        · next hgetfile =>
          exact .inr (.inl ⟨hsubtype.symm.trans hgetfile, (Prod.mk.inj (Option.some.inj h)).2.symm⟩)
        · obtain ⟨u, hclose, heq⟩ := Option.map_eq_some_iff.mp h
          obtain ⟨-, rfl⟩ := Prod.mk.inj heq
          exact .inr (.inr ⟨hdirect, hclose⟩)

theorem Formed.handlerendconnect (h : s.Formed) {cur : ConnPtr} (hcur : cur ∈ s.sess.connlist)
    {accepted : Accepted} {userret r : Int}
    (hrun : s.aimHandlerendconnect cur accepted userret = some (r, t)) : t.Formed := by
  have hne : cur ≠ s.sess.heap := Nat.ne_of_lt (h.listed.lt cur hcur)
  rcases aimHandlerendconnect_cases hne hrun with
    rfl | ⟨-, -, hclose⟩ | ⟨sess, u, hopened, -, -, rfl, hcases⟩
  · exact h
  · exact h.close hclose
  · have hu := h.withConn hopened (h.priv cur) (h.internal cur) (s.rend cur)
    rcases hcases with ⟨-, ck, sn, ip, ip', hrec, rfl⟩ | ⟨-, rfl⟩ | ⟨-, hclose⟩
    · exact (hu.setInternal (.inl rfl) cur).writeIp hrec ip'
    · exact hu
    · exact hu.close hclose

/-- The listener of a direct connection accepts one connection only. -/
theorem Formed.handlerendconnect_ne_none (h : s.Formed) {cur : ConnPtr}
    (hcur : cur ∈ s.sess.connlist) (accepted : Accepted) (userret : Int)
    (hrec : (s.sess.conn cur).subtype = aimConnSubtypeOftDirectim → s.internal cur ≠ 0) :
    s.aimHandlerendconnect cur accepted userret ≠ none := by
  have hne : cur ≠ s.sess.heap := Nat.ne_of_lt (h.listed.lt cur hcur)
  obtain ⟨sess, hopened, hclone⟩ := s.aimCloneconn_eq cur
  have hsubtype : (sess.conn s.sess.heap).subtype = (s.sess.conn cur).subtype :=
    congrArg Prod.snd hopened.kind_new
  have hcopy : (s.withConn sess (s.priv cur) (s.internal cur) (s.rend cur)).internal cur =
      s.internal cur := Function.update_of_ne hne ..
  have hu := h.withConn hopened (h.priv cur) (h.internal cur) (s.rend cur)
  have hset : WellListed (sess.setConn s.sess.heap { sess.conn s.sess.heap with
      type := aimConnTypeRendezvous, fd := accepted.fd }) :=
    have hlisted := hopened.wellListed h.listed
    ⟨hlisted.nodup, hlisted.lt, hlisted.ne_null, hlisted.heap_pos⟩
  have hmap {f : PrivSession → Int × PrivSession} {x : Option PrivSession} (hx : x ≠ none) :
      x.map f ≠ none := mt Option.map_eq_none_iff.mp hx
  unfold aimHandlerendconnect
  split
  · exact Option.some_ne_none _
  · split
    · exact hmap (h.aimConnClose_ne_none cur)
    · rw [hclone]
      dsimp only
      split
      · next hdirect =>
        refine hmap ?_
        rcases h.internal cur with hzero | ⟨ck, sn, ip, hr⟩
        · exact absurd hzero (hrec (hsubtype.symm.trans hdirect))
        · unfold printIp
          split
          · exact Option.some_ne_none _
          · next hother =>
            exact absurd ((congrArg s.store.record hcopy).trans hr) (hother ck sn ip)
      · split
        · exact Option.some_ne_none _
        · exact hmap ((hu.setSess hset).aimConnClose_ne_none _)

end Calls

end PrivSession

/-! ## Calls -/

/-- The calls that make connections with private records, and that end connections. -/
inductive PrivOp where
  | newconn (type : UInt16) (outcome : ConnectOutcome)
  | directimInitiate (conn : ConnPtr) (env : PrivSession.Listening) (stack : Cookie)
      (destsn : List UInt8)
  | sendfileInitiate (conn : ConnPtr) (env : PrivSession.Listening) (stack : Cookie)
      (destsn : List UInt8) (filename : Option (List UInt8)) (numfiles : UInt16) (totsize : UInt32)
  | directimConnect (sn addr : Option (List UInt8)) (cookie : Cookie) (outcome : ConnectOutcome)
  | handlerendconnect (cur : ConnPtr) (accepted : PrivSession.Accepted) (userret : Int)
  | chatAttachname (c : ConnPtr) (exchange : UInt16) (roomname : Option (List UInt8))
      (inst : UInt16)
  | close (c : ConnPtr)
  | kill (c : ConnPtr)
  | logoff

namespace PrivOp

def run (s : PrivSession) : PrivOp → Option PrivSession
  | newconn type outcome => some (s.aimNewconn type outcome).2
  | directimInitiate conn env stack destsn =>
    (s.aimDirectimInitiate conn env stack destsn).map Prod.snd
  | sendfileInitiate conn env stack destsn filename numfiles totsize =>
    (s.aimSendfileInitiate conn env stack destsn filename numfiles totsize).map Prod.snd
  | directimConnect sn addr cookie outcome =>
    some (s.aimDirectimConnect sn addr cookie outcome).2
  | handlerendconnect cur accepted userret =>
    (s.aimHandlerendconnect cur accepted userret).map Prod.snd
  | chatAttachname c exchange roomname inst =>
    some (s.aimChatAttachname c exchange roomname inst).2
  | close c => s.aimConnClose c
  | kill c => s.aimConnKill c
  | logoff => s.aimLogoff

/-- Pointers to connections are to those on the list, or null where the function allows it. -/
def Valid (s : PrivSession) : PrivOp → Prop
  | newconn _ _ => True
  | directimInitiate conn _ _ _ => conn = 0 ∨ conn ∈ s.sess.connlist
  | sendfileInitiate conn _ _ _ _ _ _ => conn = 0 ∨ conn ∈ s.sess.connlist
  | directimConnect _ _ _ _ => True
  | handlerendconnect cur _ _ => cur ∈ s.sess.connlist
  | chatAttachname c _ _ _ => c = 0 ∨ c ∈ s.sess.connlist
  | close c => c ∈ s.sess.connlist
  | kill _ => True
  | logoff => True

instance (s : PrivSession) (op : PrivOp) : Decidable (op.Valid s) :=
  match op with
  | newconn _ _ => isTrue trivial
  | directimInitiate conn _ _ _ => inferInstanceAs (Decidable (conn = 0 ∨ conn ∈ s.sess.connlist))
  | sendfileInitiate conn _ _ _ _ _ _ =>
    inferInstanceAs (Decidable (conn = 0 ∨ conn ∈ s.sess.connlist))
  | directimConnect _ _ _ _ => isTrue trivial
  | handlerendconnect cur _ _ => inferInstanceAs (Decidable (cur ∈ s.sess.connlist))
  | chatAttachname c _ _ _ => inferInstanceAs (Decidable (c = 0 ∨ c ∈ s.sess.connlist))
  | close c => inferInstanceAs (Decidable (c ∈ s.sess.connlist))
  | kill _ => isTrue trivial
  | logoff => isTrue trivial

/-- The record of a direct connection is still with its listener. -/
def Acceptable (s : PrivSession) : PrivOp → Prop
  | handlerendconnect cur _ _ =>
    (s.sess.conn cur).subtype = aimConnSubtypeOftDirectim → s.internal cur ≠ 0
  | _ => True

variable {s t : PrivSession} {op : PrivOp}

theorem formed_step (h : s.Formed) (hvalid : op.Valid s) (hrun : op.run s = some t) :
    t.Formed := by
  cases op with
  | newconn type outcome =>
    obtain ⟨fd, sess, hopened, hnew⟩ := s.aimNewconn_eq type outcome
    obtain rfl := Option.some.inj hrun
    rw [hnew]
    exact h.withConn hopened (.inl rfl) (.inl rfl) 0
  | directimInitiate conn env stack destsn =>
    obtain ⟨⟨c, t⟩, hinit, rfl⟩ := Option.map_eq_some_iff.mp hrun
    exact h.initiate hinit
  | sendfileInitiate conn env stack destsn filename numfiles totsize =>
    obtain ⟨⟨c, t⟩, hinit, rfl⟩ := Option.map_eq_some_iff.mp hrun
    exact h.initiate hinit
  | directimConnect sn addr cookie outcome =>
    obtain rfl := Option.some.inj hrun
    exact h.directimConnect sn addr cookie outcome
  | handlerendconnect cur accepted userret =>
    obtain ⟨⟨r, t⟩, haccept, rfl⟩ := Option.map_eq_some_iff.mp hrun
    exact h.handlerendconnect hvalid haccept
  | chatAttachname c exchange roomname inst =>
    obtain rfl := Option.some.inj hrun
    exact h.attachname c exchange roomname inst
  | close c => exact h.close hrun
  | kill c =>
    obtain ⟨u, hu, hformed⟩ := h.aimConnKill c
    rwa [← Option.some.inj (hu.symm.trans hrun)]
  | logoff =>
    obtain ⟨u, hu, hformed⟩ := h.aimLogoff
    rwa [← Option.some.inj (hu.symm.trans hrun)]

/-- Every other call has a result. -/
theorem run_ne_none (h : s.Formed) (hvalid : op.Valid s) (hacc : op.Acceptable s) :
    op.run s ≠ none := by
  have hmap {α β : Type} {x : Option α} {f : α → β} (hx : x ≠ none) : x.map f ≠ none :=
    mt Option.map_eq_none_iff.mp hx
  cases op with
  | newconn type outcome => exact Option.some_ne_none _
  | directimInitiate conn env stack destsn => exact hmap (h.rendInitiate_ne_none _ _ _ _ _ _)
  | sendfileInitiate conn env stack destsn filename numfiles totsize =>
    exact hmap (h.rendInitiate_ne_none _ _ _ _ _ _)
  | directimConnect sn addr cookie outcome => exact Option.some_ne_none _
  | handlerendconnect cur accepted userret =>
    exact hmap (h.handlerendconnect_ne_none hvalid accepted userret hacc)
  | chatAttachname c exchange roomname inst => exact Option.some_ne_none _
  | close c => exact h.aimConnClose_ne_none c
  | kill c =>
    obtain ⟨u, hu, -⟩ := h.aimConnKill c
    exact Option.ne_none_iff_exists'.mpr ⟨u, hu⟩
  | logoff =>
    obtain ⟨u, hu, -⟩ := h.aimLogoff
    exact Option.ne_none_iff_exists'.mpr ⟨u, hu⟩

end PrivOp

/-- Sequences of calls, each of them one that may be made (`ok`) where it is made. -/
inductive PrivRun (ok : PrivSession → PrivOp → Prop) (s : PrivSession) : PrivSession → Prop where
  | refl : PrivRun ok s s
  | step {t u : PrivSession} {op : PrivOp} : PrivRun ok s t → op.Valid t → ok t op →
      op.run t = some u → PrivRun ok s u

/-- The session after a call that has a result. -/
def PrivOp.after (op : PrivOp) (s : PrivSession) : PrivSession := (op.run s).getD s

theorem PrivRun.after {ok : PrivSession → PrivOp → Prop} {s t : PrivSession} {op : PrivOp}
    (hrun : PrivRun ok s t) (hvalid : op.Valid t) (hok : ok t op) (hop : (op.run t).isSome) :
    PrivRun ok s (op.after t) := by
  refine hrun.step hvalid hok ?_
  obtain ⟨u, hu⟩ := Option.isSome_iff_exists.mp hop
  rw [PrivOp.after, hu, Option.getD_some]

/-- What each step keeps, in sessions of this form, holds in every session of a run. -/
theorem PrivRun.inv {ok : PrivSession → PrivOp → Prop} {P : PrivSession → Prop} {s t : PrivSession}
    (hrun : PrivRun ok s t) (hs : s.Formed) (hP : P s)
    (hstep : ∀ t u op, t.Formed → P t → op.Valid t → ok t op → op.run t = some u → P u) :
    t.Formed ∧ P t := by
  induction hrun with
  | refl => exact ⟨hs, hP⟩
  | step _ hvalid hok hop ih =>
    exact ⟨PrivOp.formed_step ih.1 hvalid hop, hstep _ _ _ ih.1 ih.2 hvalid hok hop⟩

end Libfaim
