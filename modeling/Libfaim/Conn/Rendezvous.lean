import Libfaim.Conn.Private.Calls

/-!
# The cookies of rendezvous

A cookie that is cached for a rendezvous is dropped by a connection that has it in its record: by
that of a peer, once it has taken the record over from the listener (`PrivSession.Keeps`). A
listener drops nothing when it is closed. So a run leaves no cookie behind, as long as no listener
is closed or killed that still has its record, with its cookie cached
(`rendezvous_cookies_dropped`); for a file transfer there is no peer that would take it over.
-/

namespace Libfaim

open HandleStore HeapList

namespace PrivSession

/-- The cookie is in the list. -/
def Cached (s : PrivSession) (p : CookiePtr) : Prop := ∃ l, s.cookies.Listed l ∧ p ∈ l

/-- Nothing is left behind when this connection is closed: if it listens, then its record has been
taken over, or its cookie is gone. -/
def Unneeded (s : PrivSession) (c : ConnPtr) : Prop :=
  (s.sess.conn c).type = aimConnTypeRendezvousOut → (s.sess.conn c).fd ≠ -1 →
    s.internal c ≠ 0 → ¬ s.Cached (s.rend c)

/-- At this handle is the record of a direct connection with this cookie. -/
def HasCookie (store : Store PrivRecord) (h : Handle) (ck : Cookie) : Prop :=
  ∃ sn ip, store.record h = some (.intdata ck sn ip)

/-- An open connection of the rendezvous, with a record for what is cached under the key. -/
structure Keeps (s : PrivSession) (c : ConnPtr) (k : CookieKey) (p : CookiePtr) : Prop where
  rend : s.rend c = p
  fd : (s.sess.conn c).fd ≠ -1
  type : k.2 = aimCookietypeOftim
  kind : (s.sess.conn c).kind.1 = aimConnTypeRendezvousOut ∨
    (s.sess.conn c).kind = (aimConnTypeRendezvous, aimConnSubtypeOftDirectim)
  record : HasCookie s.store (s.internal c) k.1

/-- One of these connections keeps each cookie that is cached. -/
def Kept (s : PrivSession) (l : List ConnPtr) (m : CookieMap) : Prop :=
  ∀ k p, m.cached k = some p → ∃ c ∈ l, s.Keeps c k p

section Kept

variable {s t : PrivSession} {m : CookieMap} {l : List ConnPtr} {c : ConnPtr} {k : CookieKey}
  {p : CookiePtr}

theorem cached_iff (hm : s.cookies.Refines m) : s.Cached p ↔ ∃ k, m.cached k = some p := by
  obtain ⟨l, hl, hiff⟩ := hm.listed
  constructor
  · rintro ⟨l', hl', hp⟩
    obtain rfl := hl'.linked.unique hl.linked (hl'.head_eq.symm.trans hl.head_eq)
    obtain ⟨cook, hcook⟩ := hl.linked.live hp
    refine ⟨cook.key, (hiff _ p).mpr ⟨hp, ?_⟩⟩
    rw [Cookies.key, Cookies.struct, hcook]
    rfl
  · rintro ⟨k, hk⟩
    exact ⟨l, hl, ((hiff k p).mp hk).1⟩

theorem Keeps.frame (h : s.Keeps c k p) (hrend : t.rend c = s.rend c)
    (hinternal : t.internal c = s.internal c)
    (hfd : (t.sess.conn c).fd = (s.sess.conn c).fd)
    (hkind : (t.sess.conn c).kind = (s.sess.conn c).kind)
    (hrec : HasCookie s.store (s.internal c) k.1 → HasCookie t.store (s.internal c) k.1) :
    t.Keeps c k p :=
  ⟨hrend.trans h.rend, hfd ▸ h.fd, h.type, hkind ▸ h.kind, hinternal ▸ hrec h.record⟩

/-- What a step does not touch is still kept. -/
theorem Kept.frame (h : s.Kept l m) {m' : CookieMap} (hcached : ∀ k p, m'.cached k = some p →
    m.cached k = some p) {l' : List ConnPtr} (hl : ∀ c ∈ l, c ∈ l')
    (hrend : ∀ c ∈ l, t.rend c = s.rend c) (hinternal : ∀ c ∈ l, t.internal c = s.internal c)
    (hfd : ∀ c ∈ l, (t.sess.conn c).fd = (s.sess.conn c).fd)
    (hkind : ∀ c ∈ l, (t.sess.conn c).kind = (s.sess.conn c).kind)
    (hrec : ∀ h ck, HasCookie s.store h ck → HasCookie t.store h ck) : t.Kept l' m' := by
  intro k p hp
  obtain ⟨c, hc, hkeeps⟩ := h k p (hcached k p hp)
  exact ⟨c, hl c hc, hkeeps.frame (hrend c hc) (hinternal c hc) (hfd c hc) (hkind c hc)
    (hrec _ _)⟩

/-- A connection that is not open keeps nothing. -/
theorem Kept.erase (h : s.Kept l m) (hfd : (s.sess.conn c).fd = -1) : s.Kept (l.erase c) m := by
  intro k p hp
  obtain ⟨d, hd, hkeeps⟩ := h k p hp
  refine ⟨d, (List.mem_erase_of_ne ?_).mpr hd, hkeeps⟩
  rintro rfl
  exact hkeeps.fd hfd

/-! ## Closing and killing -/

/-- Some connections have been closed, and cookies dropped. -/
structure Closing (s : PrivSession) (m : CookieMap) (t : PrivSession) (m' : CookieMap) : Prop where
  refines : t.cookies.Refines m'
  shrinks : m.Shrinks m'
  connlist : t.sess.connlist = s.sess.connlist
  fd : ∀ d, (t.sess.conn d).fd ≠ -1 → (s.sess.conn d).fd ≠ -1
  kind : ∀ d, (t.sess.conn d).kind = (s.sess.conn d).kind
  internal : t.internal = s.internal
  rend : t.rend = s.rend

theorem Closing.trans {u : PrivSession} {m' m'' : CookieMap} (h : s.Closing m t m')
    (h' : t.Closing m' u m'') : s.Closing m u m'' :=
  ⟨h'.refines, h.shrinks.trans h'.shrinks, h'.connlist.trans h.connlist,
    fun d hd => h.fd d (h'.fd d hd), fun d => (h'.kind d).trans (h.kind d),
    h'.internal.trans h.internal, h'.rend.trans h.rend⟩

theorem Closing.unneeded {m' : CookieMap} (h : s.Closing m t m') (hm : s.cookies.Refines m)
    (hc : s.Unneeded c) : t.Unneeded c := by
  intro htype hfd hinternal hcached
  rw [h.rend] at hcached
  obtain ⟨k, hk⟩ := (cached_iff h.refines).mp hcached
  refine hc ((congrArg Prod.fst (h.kind c)).symm.trans htype) (h.fd c hfd) ?_ ?_
  · rwa [← h.internal]
  · exact (cached_iff hm).mpr ⟨k, h.shrinks.1 k _ hk⟩

theorem closing_aimConnClose {m' : CookieMap} {cookies : Cookies} {store : Store PrivRecord}
    (hm' : cookies.Refines m') (hshrinks : m.Shrinks m') (c : ConnPtr) :
    s.Closing m { s.setSess (Libfaim.aimConnClose s.sess c) with
      cookies := cookies, store := store } m' := by
  refine ⟨hm', hshrinks, rfl, fun d hd => ?_, aimConnClose_kind s.sess c, rfl, rfl⟩
  by_cases hdc : d = c
  · rw [hdc] at hd
    exact absurd (aimConnClose_fd_self s.sess c) hd
  · rwa [← aimConnClose_fd s.sess hdc]

theorem Kept.close (h : s.Kept l m) (hs : s.Formed) (hm : s.cookies.Refines m)
    (hc : s.Unneeded c) (hclose : s.aimConnClose c = some t) :
    ∃ m', s.Closing m t m' ∧ t.Kept l m' ∧ (t.sess.conn c).fd = -1 := by
  -- the connection that is closed keeps nothing of what is left
  have hother {m' : CookieMap} (hshrinks : m.Shrinks m')
      (hdrop : ∀ k p, m'.cached k = some p → s.Directim c → ¬ s.Keeps c k p)
      (hrecord : t.store.record = s.store.record)
      (hsess : t.sess = Libfaim.aimConnClose s.sess c) (hinternal : t.internal = s.internal)
      (hrend : t.rend = s.rend) : t.Kept l m' := by
    intro k p hp
    obtain ⟨d, hd, hkeeps⟩ := h k p (hshrinks.1 k p hp)
    have hdc : d ≠ c := by
      rintro rfl
      rcases hkeeps.kind with hout | hdirect
      · obtain ⟨sn, ip, hr⟩ := hkeeps.record
        refine hc hout hkeeps.fd (fun hzero => ?_) ?_
        · rw [hzero, hs.store.null] at hr
          cases hr
        · rw [hkeeps.rend]
          exact (cached_iff hm).mpr ⟨k, hshrinks.1 k p hp⟩
      · exact hdrop k p hp hdirect hkeeps
    refine ⟨d, hd, hkeeps.frame (congrFun hrend d) (congrFun hinternal d) ?_ ?_ fun hr => ?_⟩
    · rw [hsess, aimConnClose_fd s.sess hdc]
    · rw [hsess, aimConnClose_kind s.sess c d]
    · rwa [HasCookie, hrecord]
  rcases aimConnClose_cases c hclose with ⟨ck, type, cookies, hdrop, hzero, rfl⟩ |
    ⟨ck, sn, ip, cookies, -, hrec, hdrop, rfl⟩
  · obtain ⟨m', hm', hshrinks, -⟩ := dropped hm hdrop
    refine ⟨m', closing_aimConnClose hm' hshrinks c,
      hother hshrinks (fun k p _ hdirect hkeeps => ?_) rfl rfl rfl rfl,
      aimConnClose_fd_self s.sess c⟩
    obtain ⟨sn, ip, hr⟩ := hkeeps.record
    rw [hzero hdirect, hs.store.null] at hr
    cases hr
  · obtain ⟨m', hm', hshrinks, hnone⟩ := dropped hm hdrop
    refine ⟨m', closing_aimConnClose hm' hshrinks c,
      hother hshrinks (fun k p hp _ hkeeps => ?_) Store.touch_record rfl rfl rfl,
      aimConnClose_fd_self s.sess c⟩
    obtain ⟨sn', ip', hr⟩ := hkeeps.record
    rw [hrec] at hr
    obtain ⟨hck, -, -⟩ := PrivRecord.intdata.inj (Option.some.inj hr)
    have hkey : (ck, aimCookietypeOftim) = k := Prod.ext hck hkeeps.type.symm
    have hfreed := hnone ck rfl
    rw [hkey, hp] at hfreed
    cases hfreed

theorem Kept.connkillReal (h : s.Kept l m) (hs : s.Formed) (hm : s.cookies.Refines m)
    (hc : s.Unneeded c) (hkill : s.connkillReal c = some t) :
    ∃ m', s.Closing m t m' ∧ t.Kept (l.erase c) m' := by
  obtain ⟨u, hclose, hrecords⟩ := Option.bind_eq_some_iff.mp hkill
  have hclosed : ∃ m', s.Closing m u m' ∧ u.Kept l m' ∧ (u.sess.conn c).fd = -1 ∧ u.Formed := by
    obtain ⟨sess, hsame, ⟨hfd, rfl⟩ | ⟨-, hclose⟩⟩ := connkillClose_cases hclose
    · refine ⟨m, ⟨hm, .refl m, hsame.connlist, fun d hd => hsame.fd d ▸ hd, hsame.kind, rfl, rfl⟩,
        h.frame (fun _ _ hp => hp) (fun _ hc => hc) (fun _ _ => rfl) (fun _ _ => rfl)
          (fun d _ => hsame.fd d) (fun d _ => hsame.kind d) (fun _ _ hr => hr),
        (hsame.fd c).trans hfd, hs.setSess (hsame.wellListed hs.listed)⟩
    · have hs' : (s.setSess sess).Formed := hs.setSess (hsame.wellListed hs.listed)
      have hsess : s.Closing m (s.setSess sess) m :=
        ⟨hm, .refl m, hsame.connlist, fun d hd => hsame.fd d ▸ hd, hsame.kind, rfl, rfl⟩
      have hkept : (s.setSess sess).Kept l m :=
        h.frame (fun _ _ hp => hp) (fun _ hc => hc) (fun _ _ => rfl) (fun _ _ => rfl)
          (fun d _ => hsame.fd d) (fun d _ => hsame.kind d) (fun _ _ hr => hr)
      obtain ⟨m', hclosing, hkept', hfd⟩ := hkept.close hs' hm (hsess.unneeded hm hc) hclose
      exact ⟨m', hsess.trans hclosing, hkept', hfd, hs'.close hclose⟩
  obtain ⟨m', hclosing, hkept, hfd, hu⟩ := hclosed
  obtain ⟨store, hstore, -, hrec, -⟩ := hu.connkillRecords c
  obtain rfl := Option.some.inj (hstore.symm.trans hrecords)
  refine ⟨m', ⟨hclosing.refines, hclosing.shrinks, hclosing.connlist, hclosing.fd, hclosing.kind,
    hclosing.internal, hclosing.rend⟩, ?_⟩
  exact (hkept.erase hfd).frame (fun _ _ hp => hp) (fun _ hc => hc) (fun _ _ => rfl)
    (fun _ _ => rfl) (fun _ _ => rfl) (fun _ _ => rfl) fun _ _ hr => by rwa [HasCookie, hrec]

theorem Kept.aimConnrstLoop (h : s.Kept l m) (hs : s.Formed) (hm : s.cookies.Refines m)
    (hl : ∀ c ∈ l, s.Unneeded c) (hrun : aimConnrstLoop l s = some t) :
    ∃ m', t.cookies.Refines m' ∧ t.Kept [] m' := by
  induction l generalizing s m with
  | nil =>
    obtain rfl := Option.some.inj hrun
    exact ⟨m, hm, h⟩
  | cons cur next ih =>
    obtain ⟨u, hclose, hrest⟩ := Option.bind_eq_some_iff.mp hrun
    obtain ⟨v, hkill, hrest⟩ := Option.bind_eq_some_iff.mp hrest
    obtain ⟨m', hclosing, hkept, -⟩ := h.close hs hm (hl cur List.mem_cons_self) hclose
    have hu := hs.close hclose
    obtain ⟨m'', hkilling, hkept'⟩ := hkept.connkillReal hu hclosing.refines
      (hclosing.unneeded hm (hl cur List.mem_cons_self)) hkill
    obtain ⟨w, hw, hv⟩ := hu.connkillReal cur
    obtain rfl := Option.some.inj (hw.symm.trans hkill)
    rw [List.erase_cons_head] at hkept'
    exact ih hkept' hv hkilling.refines (fun c hc => (hclosing.trans hkilling).unneeded hm
      (hl c (List.mem_cons_of_mem _ hc))) hrest

/-! ## Opening -/

/-- A new connection does not disturb the others. -/
theorem Kept.withConn (h : s.Kept s.sess.connlist m) (hs : s.Formed) {fd : Int}
    {kind : UInt16 × UInt16} {sess : AimSession} (hopened : Opened fd kind s.sess sess)
    (priv internal : Handle) (rend : CookiePtr) :
    (s.withConn sess priv internal rend).Kept sess.connlist m := by
  have hne : ∀ c ∈ s.sess.connlist, c ≠ s.sess.heap := fun c hc => Nat.ne_of_lt (hs.listed.lt c hc)
  refine h.frame (fun _ _ hp => hp) (fun c hc => ?_) (fun c hc => ?_) (fun c hc => ?_)
    (fun c hc => hopened.fd c (hne c hc)) (fun c hc => hopened.kind c (hne c hc)) fun _ _ hr => hr
  · exact hopened.connlist ▸ List.mem_cons_of_mem _ hc
  · exact Function.update_of_ne (hne c hc) ..
  · exact Function.update_of_ne (hne c hc) ..

theorem Kept.setStore (h : s.Kept l m) {store : Store PrivRecord}
    (hrec : ∀ h ck, HasCookie s.store h ck → HasCookie store h ck) :
    ({ s with store := store } : PrivSession).Kept l m :=
  h.frame (fun _ _ hp => hp) (fun _ hc => hc) (fun _ _ => rfl) (fun _ _ => rfl) (fun _ _ => rfl)
    (fun _ _ => rfl) hrec

theorem HasCookie.alloc {store : Store PrivRecord} (hstore : store.Formed) (r : PrivRecord)
    {h : Handle} {ck : Cookie} (hh : HasCookie store h ck) : HasCookie (store.alloc r).2 h ck := by
  obtain ⟨sn, ip, hr⟩ := hh
  have hlt := hstore.lt_next (hr ▸ Option.some_ne_none _)
  exact ⟨sn, ip, (Store.alloc_record_of_ne (Nat.ne_of_lt hlt)).trans hr⟩

theorem HasCookie.write {store : Store PrivRecord} {k : Handle} {ck : Cookie}
    {sn ip : List UInt8} (hrec : store.record k = some (.intdata ck sn ip)) (ip' : List UInt8)
    {h : Handle} {ck' : Cookie} (hh : HasCookie store h ck') :
    HasCookie (store.write k (.intdata ck sn ip')) h ck' := by
  obtain ⟨sn', ip'', hr⟩ := hh
  by_cases hk : h = k
  · subst hk
    rw [hrec] at hr
    obtain ⟨rfl, -, -⟩ := PrivRecord.intdata.inj (Option.some.inj hr)
    exact ⟨sn, ip', Store.write_record_self⟩
  · exact ⟨sn', ip'', (Store.write_record_of_ne hk).trans hr⟩

/-- The new listener keeps the new cookie. -/
theorem Kept.initiated (h : s.Kept s.sess.connlist m) (hs : s.Formed) {subtype : UInt16}
    {ck : Cookie} {m' : CookieMap} (hinit : Initiated subtype ck s m t m') :
    t.Kept t.sess.connlist m' := by
  obtain ⟨⟨rq, cookies, sess, fd, sn, ip, hfd, hsame, hopened, rfl⟩, -, -, hcached, -⟩ := hinit
  have hreq : ({ s with rq := rq } : PrivSession).Formed :=
    ⟨hsame.wellListed hs.listed, hs.store, hs.priv, hs.internal, hs.refines, hs.structs⟩
  have hold : ({ s with
      rq := rq
      cookies := cookies
      store := (s.store.reserve.2.reserve.2.alloc (.intdata ck sn ip)).2 } :
      PrivSession).Kept rq.sess.connlist m := by
    refine h.frame (fun _ _ hp => hp) (fun c hc => hsame.connlist ▸ hc) (fun _ _ => rfl)
      (fun _ _ => rfl) (fun c _ => hsame.fd c) (fun c _ => hsame.kind c) ?_
    exact fun _ _ => HasCookie.alloc hs.store.reserve.reserve _
  have hnew : ∀ c ∈ rq.sess.connlist, c ≠ rq.sess.heap := fun c hc =>
    Nat.ne_of_lt (hreq.listed.lt c hc)
  intro k p hp
  rcases hcached k p hp with ⟨rfl, rfl⟩ | hp
  · refine ⟨rq.sess.heap, hopened.connlist ▸ List.mem_cons_self, Function.update_self .., ?_, rfl,
      .inl ?_, sn, ip, ?_⟩
    · exact hopened.fd_new ▸ hfd
    · exact congrArg Prod.fst hopened.kind_new
    · refine (congrArg _ (Function.update_self ..)).trans ?_
      exact Store.alloc_record_next
  · obtain ⟨c, hc, hkeeps⟩ := hold k p hp
    refine ⟨c, hopened.connlist ▸ List.mem_cons_of_mem _ hc, hkeeps.frame ?_ ?_ ?_ ?_ ?_⟩
    · exact Function.update_of_ne (hnew c hc) ..
    · exact Function.update_of_ne (hnew c hc) ..
    · exact hopened.fd c (hnew c hc)
    · exact hopened.kind c (hnew c hc)
    · exact fun hr => hr

/-- The accepted connection keeps what the listener kept. -/
theorem Kept.accepted (h : s.Kept s.sess.connlist m) (hs : s.Formed) {cur : ConnPtr}
    (hcur : cur ∈ s.sess.connlist) {fd : Int} (hfd : fd ≠ -1) {sess : AimSession}
    (hopened : Opened fd (aimConnTypeRendezvous, aimConnSubtypeOftDirectim) s.sess sess)
    {ck : Cookie} {sn ip ip' : List UInt8}
    (hrec : s.store.record (s.internal cur) = some (.intdata ck sn ip)) :
    ({ s.withConn sess (s.priv cur) (s.internal cur) (s.rend cur) with
      internal := Function.update
        (Function.update s.internal s.sess.heap (s.internal cur)) cur 0
      store := s.store.write (s.internal cur) (.intdata ck sn ip') } : PrivSession).Kept
        sess.connlist m := by
  have hne : ∀ c ∈ s.sess.connlist, c ≠ s.sess.heap := fun c hc => Nat.ne_of_lt (hs.listed.lt c hc)
  intro k p hp
  obtain ⟨c, hc, hkeeps⟩ := h k p hp
  by_cases hcc : c = cur
  · -- the listener has handed its record over
    subst hcc
    have hinternal : Function.update (Function.update s.internal s.sess.heap (s.internal c)) c 0
        s.sess.heap = s.internal c := by
      rw [Function.update_of_ne (hne c hc).symm, Function.update_self]
    refine ⟨s.sess.heap, hopened.connlist ▸ List.mem_cons_self, ?_, ?_, hkeeps.type,
      .inr hopened.kind_new, ?_⟩
    · exact (Function.update_self ..).trans hkeeps.rend
    · exact hopened.fd_new ▸ hfd
    · show HasCookie _ (Function.update (Function.update s.internal s.sess.heap (s.internal c)) c 0
        s.sess.heap) k.1
      rw [hinternal]
      exact hkeeps.record.write hrec ip'
  · refine ⟨c, hopened.connlist ▸ List.mem_cons_of_mem _ hc, hkeeps.frame ?_ ?_ ?_ ?_ ?_⟩
    · exact Function.update_of_ne (hne c hc) ..
    · exact (Function.update_of_ne hcc ..).trans (Function.update_of_ne (hne c hc) ..)
    · exact hopened.fd c (hne c hc)
    · exact hopened.kind c (hne c hc)
    · exact fun hr => hr.write hrec ip'

end Kept

end PrivSession

/-! ## Runs -/

/-- The call closes or kills no listener that is still needed. -/
def PrivOp.LeavesNone (s : PrivSession) : PrivOp → Prop
  | close c => s.Unneeded c
  | kill c => c ∈ s.sess.connlist → s.Unneeded c
  | handlerendconnect cur accepted _ => accepted.fd ≠ -1 → ¬ accepted.inet → s.Unneeded cur
  | logoff => ∀ c ∈ s.sess.connlist, s.Unneeded c
  | _ => True

open PrivSession in
theorem kept_step {s t : PrivSession} {op : PrivOp} (hs : s.Formed)
    (h : ∃ m, s.cookies.Refines m ∧ s.Kept s.sess.connlist m) (hvalid : op.Valid s)
    (hok : op.LeavesNone s) (hrun : op.run s = some t) :
    ∃ m, t.cookies.Refines m ∧ t.Kept t.sess.connlist m := by
  obtain ⟨m, hm, hkept⟩ := h
  have hinitiated {subtype : UInt16} {request : List UInt8 → Except Int Request} {conn c : ConnPtr}
      {env : Listening} {stack : Cookie} {destsn : List UInt8}
      (hinit : s.rendInitiate subtype request conn env stack destsn = some (c, t)) :
      ∃ m, t.cookies.Refines m ∧ t.Kept t.sess.connlist m := by
    rcases hs.rendInitiate_cases hm hinit with rfl | ⟨ck, m', hnew⟩
    · exact ⟨m, hm, hkept⟩
    · exact ⟨m', hnew.refines, hkept.initiated hs hnew⟩
  have hclosed {c : ConnPtr} (hc : s.Unneeded c) (hclose : s.aimConnClose c = some t) :
      ∃ m, t.cookies.Refines m ∧ t.Kept t.sess.connlist m := by
    obtain ⟨m', hclosing, hkept', -⟩ := hkept.close hs hm hc hclose
    exact ⟨m', hclosing.refines, hclosing.connlist ▸ hkept'⟩
  cases op with
  | newconn type outcome =>
    obtain ⟨fd, sess, hopened, hnew⟩ := s.aimNewconn_eq type outcome
    obtain rfl := Option.some.inj hrun
    rw [hnew]
    exact ⟨m, hm, hkept.withConn hs hopened 0 0 0⟩
  | directimInitiate conn env stack destsn =>
    obtain ⟨⟨c, t⟩, hinit, rfl⟩ := Option.map_eq_some_iff.mp hrun
    exact hinitiated hinit
  | sendfileInitiate conn env stack destsn filename numfiles totsize =>
    obtain ⟨⟨c, t⟩, hinit, rfl⟩ := Option.map_eq_some_iff.mp hrun
    exact hinitiated hinit
  | directimConnect sn addr cookie outcome =>
    obtain rfl := Option.some.inj hrun
    rcases aimDirectimConnect_cases s sn addr cookie outcome with
      heq | ⟨fd, sess, name, ip, hopened, heq⟩
    · rw [heq]
      exact ⟨m, hm, hkept⟩
    · have halloc := hkept.setStore fun _ _ => HasCookie.alloc hs.store (.intdata cookie name ip)
      rw [heq]
      exact ⟨m, hm, halloc.withConn (hs.alloc _) hopened 0 s.store.next 0⟩
  | handlerendconnect cur accepted userret =>
    obtain ⟨⟨r, t⟩, haccept, rfl⟩ := Option.map_eq_some_iff.mp hrun
    have hne : cur ≠ s.sess.heap := Nat.ne_of_lt (hs.listed.lt cur hvalid)
    rcases aimHandlerendconnect_cases hne haccept with
      rfl | ⟨hfd, hinet, hclose⟩ | ⟨sess, u, hopened, -, hfd, rfl, hcases⟩
    · exact ⟨m, hm, hkept⟩
    · exact hclosed (hok hfd hinet) hclose
    · have hu := hs.withConn hopened (hs.priv cur) (hs.internal cur) (s.rend cur)
      have hkept' := hkept.withConn hs hopened (s.priv cur) (s.internal cur) (s.rend cur)
      rcases hcases with ⟨hdirect, ck, sn, ip, ip', hrec, rfl⟩ | ⟨-, rfl⟩ | ⟨-, hclose⟩
      · rw [hdirect] at hopened
        exact ⟨m, hm, hkept.accepted hs hvalid hfd hopened hrec⟩
      · exact ⟨m, hm, hkept'⟩
      · -- the clone is no listener
        have hclone : (s.withConn sess (s.priv cur) (s.internal cur) (s.rend cur)).Unneeded
            s.sess.heap := by
          intro htype
          have hkind : aimConnTypeRendezvous = aimConnTypeRendezvousOut :=
            (congrArg Prod.fst hopened.kind_new).symm.trans htype
          exact absurd hkind (by decide)
        obtain ⟨m', hclosing, hkept'', -⟩ := hkept'.close hu hm hclone hclose
        exact ⟨m', hclosing.refines, hclosing.connlist ▸ hkept''⟩
  | chatAttachname c exchange roomname inst =>
    obtain rfl := Option.some.inj hrun
    rcases aimChatAttachname_cases s c exchange roomname inst with heq | ⟨-, -, name, heq⟩
    · rw [heq]
      exact ⟨m, hm, hkept⟩
    · have hfree := hs.store.free (hs.priv_lt c)
      have hstore := hkept.setStore fun h ck hh =>
        (HasCookie.alloc (hfree.alloc (.name name)) (.chatconnpriv exchange s.store.next inst)
          (HasCookie.alloc hfree (.name name) (show HasCookie _ h ck by
            rwa [HasCookie, Store.free_record])))
      rw [heq]
      exact ⟨m, hm, hstore.frame (fun _ _ hp => hp) (fun _ hc => hc) (fun _ _ => rfl)
        (fun _ _ => rfl) (fun _ _ => rfl) (fun _ _ => rfl) fun _ _ hr => hr⟩
  | close c => exact hclosed hok hrun
  | kill c =>
    rcases killed_cases hrun with rfl | ⟨hmem, hkill⟩
    · exact ⟨m, hm, hkept⟩
    · have hs' := hs.setSess (hs.listed.sublist (List.erase_sublist (a := c)))
      have hkept' : (s.setSess { s.sess with connlist := s.sess.connlist.erase c }).Kept
          s.sess.connlist m :=
        hkept.frame (fun _ _ hp => hp) (fun _ hc => hc) (fun _ _ => rfl) (fun _ _ => rfl)
          (fun _ _ => rfl) (fun _ _ => rfl) fun _ _ hr => hr
      obtain ⟨m', hclosing, hkept''⟩ := hkept'.connkillReal hs' hm (hok hmem) hkill
      exact ⟨m', hclosing.refines, hclosing.connlist ▸ hkept''⟩
  | logoff =>
    obtain ⟨u, hloop, rfl⟩ := Option.map_eq_some_iff.mp hrun
    obtain ⟨m', hm', hkept'⟩ := hkept.aimConnrstLoop hs hm hok hloop
    exact ⟨m', hm', hkept'.frame (fun _ _ hp => hp) (fun _ hc => hc) (fun _ _ => rfl)
      (fun _ _ => rfl) (fun _ _ => rfl) (fun _ _ => rfl) fun _ _ hr => hr⟩

/-- In every run in which no listener is closed or killed that still has its record and whose
cookie is cached, a cookie is no longer cached when all connections of its rendezvous have been
closed or killed. -/
theorem rendezvous_cookies_dropped {flags : UInt32} {wild : Handle → Cookie} {s : PrivSession}
    (h : PrivRun (fun s op => op.LeavesNone s) (PrivSession.init flags wild) s) :
    ∃ l, s.cookies.Listed l ∧ ∀ p,
      (∀ c ∈ s.sess.connlist, s.rend c = p → (s.sess.conn c).fd = -1) → p ∉ l := by
  have hinit : (PrivSession.init flags wild).Kept [] .empty := fun _ _ hp => nomatch hp
  obtain ⟨-, m, hm, hkept⟩ := h.inv (PrivSession.formed_init flags wild)
    ⟨_, Cookies.refines_init, hinit⟩ fun _ _ _ => kept_step
  obtain ⟨l, hl, -⟩ := hm.listed
  refine ⟨l, hl, fun p hclosed hp => ?_⟩
  obtain ⟨k, hk⟩ := (PrivSession.cached_iff hm).mp ⟨l, hl, hp⟩
  obtain ⟨c, hc, hkeeps⟩ := hkept k p hk
  exact hkeeps.fd (hclosed c hc hkeeps.rend)

section Example

def memory : Handle → Cookie := fun _ => Vector.replicate 8 0

/-- A session with a BOS connection. -/
def onlineSession : PrivSession :=
  (PrivOp.newconn aimConnTypeBos (.connected 3 0)).after (.init 0 memory)

theorem onlineSession_run (ok : PrivSession → PrivOp → Prop)
    (hok : ∀ s type outcome, ok s (.newconn type outcome)) :
    PrivRun ok (.init 0 memory) onlineSession :=
  PrivRun.refl.after trivial (hok _ _ _) rfl

def listening : PrivSession.Listening := ⟨some [127, 0, 0, 1], 4, fun i => UInt8.ofNat i, 0⟩

/-- A peer connects to the listener for a direct connection. -/
def peerSession : PrivSession :=
  (PrivOp.handlerendconnect 3 ⟨5, true, []⟩ 1).after
    ((PrivOp.directimInitiate 1 listening (memory 0) [0x61]).after onlineSession)

/-- Both are closed, the one of the peer first. -/
def peerClosed : PrivSession := (PrivOp.close 3).after ((PrivOp.close 4).after peerSession)

theorem rendezvous_cookies_dropped_peer :
    peerSession.cookies.msgcookies ≠ 0 ∧
      ∃ l, peerClosed.cookies.Listed l ∧ ∀ p,
        (∀ c ∈ peerClosed.sess.connlist, peerClosed.rend c = p →
          (peerClosed.sess.conn c).fd = -1) → p ∉ l := by
  have hinternal : ((PrivOp.close 4).after peerSession).internal 3 = 0 := by decide
  have hunneeded : peerSession.Unneeded 4 := fun htype => absurd htype (by decide)
  have hpeer : PrivRun (fun s op => op.LeavesNone s) (.init 0 memory) peerSession :=
    ((onlineSession_run _ fun _ _ _ => trivial).after (by decide) trivial
      (by decide)).after (by decide) (fun _ hinet => absurd rfl hinet) (by decide)
  have hclose : PrivRun (fun s op => op.LeavesNone s) (.init 0 memory)
      ((PrivOp.close 4).after peerSession) := hpeer.after (by decide) hunneeded (by decide)
  have hclosed : PrivRun (fun s op => op.LeavesNone s) (.init 0 memory) peerClosed :=
    hclose.after (by decide) (fun _ _ hne => absurd hinternal hne) (by decide)
  exact ⟨by decide, rendezvous_cookies_dropped hclosed⟩

/-- The listener for a file is closed. -/
def fileClosed : PrivSession :=
  (PrivOp.close 3).after
    ((PrivOp.sendfileInitiate 1 listening (memory 0) [0x61] (some [0x62]) 1 1).after onlineSession)

/-- The cookie is still cached when the only connection of the rendezvous has been closed. -/
theorem rendezvous_cookie_left :
    ¬ ∀ s, PrivRun (fun _ _ => True) (.init 0 memory) s →
      ∃ l, s.cookies.Listed l ∧ ∀ p,
        (∀ c ∈ s.sess.connlist, s.rend c = p → (s.sess.conn c).fd = -1) → p ∉ l := by
  intro h
  have hrun : PrivRun (fun _ _ => True) (.init 0 memory) fileClosed :=
    ((onlineSession_run _ fun _ _ _ => trivial).after (by decide) trivial
      (by decide)).after (by decide) trivial (by decide)
  obtain ⟨l, hl, hclosed⟩ := h _ hrun
  have hlist : fileClosed.sess.connlist = [3, 1] ∧ fileClosed.rend 1 = 0 ∧
      (fileClosed.sess.conn 3).fd = -1 := by decide
  have hcookie : l.headD 0 = 1 := hl.head_eq.symm.trans (by decide)
  cases l with
  | nil => cases hcookie
  | cons p l =>
    obtain rfl : p = 1 := hcookie
    refine hclosed 1 (fun c hc hrend => ?_) List.mem_cons_self
    rw [hlist.1] at hc
    rcases List.mem_cons.mp hc with rfl | hc
    · exact hlist.2.2
    · obtain rfl := List.mem_singleton.mp hc
      rw [hlist.2.1] at hrend
      cases hrend

end Example

end Libfaim
