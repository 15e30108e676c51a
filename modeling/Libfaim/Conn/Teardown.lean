import Libfaim.Conn.Private.Calls

/-!
# Who releases private records

Both `connkill_real` and the functions for single types of connections release what a connection
points to, and `aim_chat_attachname` replaces it. The records of direct connections and files come
to a good end: whatever has not been released is held by a connection on the list
(`PrivSession.Owned`), in every run in which no connection is killed that has the record of a chat,
or is given another name, and the last connection that has the record of a rendezvous is one that
releases it (`private_records_released_once`). A chat connection that has a name releases its record
twice when it is killed, and looks into it in between.
-/

namespace Libfaim

open HandleStore

namespace PrivSession

/-- One of these connections points to the record, or to the chat record with this name. -/
def HeldBy (s : PrivSession) (l : List ConnPtr) (h : Handle) : Prop :=
  ∃ c ∈ l, h = s.priv c ∨ h = s.internal c ∨
    ∃ exchange inst, s.store.record (s.priv c) = some (.chatconnpriv exchange h inst)

/-- A direct connection has its record alone. -/
def Alone (s : PrivSession) (l : List ConnPtr) : Prop :=
  ∀ c ∈ l, (s.sess.conn c).kind.2 = aimConnSubtypeOftDirectim → s.internal c ≠ 0 →
    s.internal c ∉ s.store.released ∧ ∀ d ∈ l, s.internal d = s.internal c → d = c

/-- What has not been released is held. -/
structure Owned (s : PrivSession) (l : List ConnPtr) : Prop where
  tidy : s.store.Tidy (s.HeldBy l)
  direct : s.Alone l

/-- The connection may be killed, where `l` are the connections there are: it has no chat record,
and what `internal` points to is released once by the last connection that has it. -/
def KillSafe (s : PrivSession) (l : List ConnPtr) (c : ConnPtr) : Prop :=
  s.priv c = 0 ∧ (s.internal c ≠ 0 →
    if s.FreesInternal c then s.internal c ∉ s.store.released
    else s.internal c ∈ s.store.released ∨ ∃ d ∈ l, d ≠ c ∧ s.internal d = s.internal c)

/-- All connections may be killed: none has a chat record, and of those with one record exactly one
releases it, or none if it has been released. -/
def LogoffSafe (s : PrivSession) (l : List ConnPtr) : Prop :=
  (∀ c ∈ l, s.priv c = 0) ∧ ∀ c ∈ l, s.internal c ≠ 0 →
    l.countP (fun d => s.FreesInternal d ∧ s.internal d = s.internal c) =
      if s.internal c ∈ s.store.released then 0 else 1

/-- The records are the same, and the connections that have them. -/
structure SameRecords (s t : PrivSession) : Prop where
  store : t.store = s.store
  priv : t.priv = s.priv
  internal : t.internal = s.internal
  connlist : t.sess.connlist = s.sess.connlist
  kind : ∀ d, (t.sess.conn d).kind = (s.sess.conn d).kind

section Owned

variable {s t u : PrivSession} {l : List ConnPtr} {c : ConnPtr}

theorem SameRecords.trans (h : s.SameRecords t) (h' : t.SameRecords u) : s.SameRecords u :=
  ⟨h'.store.trans h.store, h'.priv.trans h.priv, h'.internal.trans h.internal,
    h'.connlist.trans h.connlist, fun d => (h'.kind d).trans (h.kind d)⟩

theorem SameRecords.owned (h : s.SameRecords t) (hs : s.Owned l) : t.Owned l := by
  obtain ⟨htidy, hdirect⟩ := hs
  refine ⟨?_, fun c hc hkind => ?_⟩
  · rw [h.store]
    refine htidy.mono fun k _ _ ⟨c, hc, hheld⟩ => ⟨c, hc, ?_⟩
    rwa [h.priv, h.internal, h.store]
  · rw [h.internal, h.store]
    exact hdirect c hc ((congrArg Prod.snd (h.kind c)).symm.trans hkind)

theorem freesInternal_iff (s : PrivSession) (c : ConnPtr) :
    s.FreesInternal c ↔ (s.sess.conn c).kind.1 = aimConnTypeRendezvous ∧
      ((s.sess.conn c).kind.2 = aimConnSubtypeOftSendfile ∨
        (s.sess.conn c).kind.2 = aimConnSubtypeOftGetfile ∨
        (s.sess.conn c).kind.2 = aimConnSubtypeOftDirectim) :=
  Iff.rfl

theorem SameRecords.freesInternal (h : s.SameRecords t) (c : ConnPtr) :
    t.FreesInternal c ↔ s.FreesInternal c := by
  rw [freesInternal_iff, freesInternal_iff, h.kind c]

theorem SameRecords.killSafe (h : s.SameRecords t) (hc : s.KillSafe l c) : t.KillSafe l c := by
  unfold KillSafe
  rw [h.priv, h.internal, h.store]
  simp only [h.freesInternal c]
  exact hc

theorem SameRecords.logoffSafe (h : s.SameRecords t) (hl : s.LogoffSafe l) : t.LogoffSafe l := by
  unfold LogoffSafe
  rw [h.priv, h.internal, h.store]
  simp only [h.freesInternal]
  exact hl

/-! ## Closing and killing -/

/-- The record of a direct connection is there when it is closed. -/
theorem Owned.close (h : s.Owned l) (hs : s.Formed) (hc : c ∈ l)
    (hclose : s.aimConnClose c = some t) : s.SameRecords t := by
  rcases aimConnClose_cases c hclose with ⟨ck, type, cookies, -, -, rfl⟩ |
    ⟨ck, sn, ip, cookies, hdirect, hrec, -, rfl⟩
  · exact ⟨rfl, rfl, rfl, rfl, aimConnClose_kind s.sess c⟩
  · have hne : s.internal c ≠ 0 := by
      intro hzero
      rw [hzero, hs.store.null] at hrec
      cases hrec
    have hmem := (h.direct c hc (congrArg Prod.snd hdirect) hne).1
    exact ⟨Store.touch_of_not_mem hmem, rfl, rfl, rfl, aimConnClose_kind s.sess c⟩

/-- What a connection without a chat record does not hold, others do. -/
theorem HeldBy.erase {h : Handle} (hheld : s.HeldBy l h) (hs : s.Formed)
    (hrec : s.store.record h ≠ none) (hpriv : s.priv c = 0) (hne : h ≠ s.internal c) :
    s.HeldBy (l.erase c) h := by
  obtain ⟨d, hd, hcase⟩ := hheld
  have hdc : d ≠ c := by
    rintro rfl
    rcases hcase with rfl | rfl | ⟨exchange, inst, hname⟩
    · exact hrec (hpriv ▸ hs.store.null)
    · exact hne rfl
    · rw [hpriv, hs.store.null] at hname
      cases hname
  exact ⟨d, (List.mem_erase_of_ne hdc).mpr hd, hcase⟩

/-- What a connection that may be killed leaves in the store. -/
def killStore (s : PrivSession) (c : ConnPtr) : Store PrivRecord :=
  if s.FreesInternal c then s.store.free (s.internal c) else s.store

theorem Owned.connkillReal_eq (h : s.Owned l) (hs : s.Formed) (hc : c ∈ l)
    (hpriv : s.priv c = 0) (hkill : s.connkillReal c = some t) :
    ∃ u, s.SameRecords u ∧ t = { u with store := s.killStore c } := by
  obtain ⟨u, hclose, hrecords⟩ := Option.bind_eq_some_iff.mp hkill
  obtain ⟨hsame, hu⟩ : s.SameRecords u ∧ u.Formed := by
    obtain ⟨sess, hsess, ⟨-, rfl⟩ | ⟨-, hclose⟩⟩ := connkillClose_cases hclose
    · exact ⟨⟨rfl, rfl, rfl, hsess.connlist, hsess.kind⟩, hs.setSess (hsess.wellListed hs.listed)⟩
    · have hs' : (s.setSess sess).Formed := hs.setSess (hsess.wellListed hs.listed)
      have hsame : s.SameRecords (s.setSess sess) := ⟨rfl, rfl, rfl, hsess.connlist, hsess.kind⟩
      exact ⟨hsame.trans ((hsame.owned h).close hs' hc hclose), hs'.close hclose⟩
  obtain ⟨store, hstore, -, -, hfree⟩ := hu.connkillRecords c
  obtain rfl := Option.some.inj (hstore.symm.trans hrecords)
  have hzero : u.priv c = 0 := by rw [hsame.priv, hpriv]
  have heq : store = s.killStore c := by
    rw [hfree hzero, killStore, hsame.store, hsame.internal]
    exact if_congr (hsame.freesInternal c) rfl rfl
  exact ⟨u, hsame, by rw [heq]⟩

theorem killStore_record (s : PrivSession) (c : ConnPtr) :
    (s.killStore c).record = s.store.record := by
  unfold killStore
  split
  · exact Store.free_record
  · rfl

theorem Owned.killStore_tidy (h : s.Owned l) (hs : s.Formed) (hsafe : s.KillSafe l c) :
    (s.killStore c).Tidy (s.HeldBy (l.erase c)) := by
  obtain ⟨hpriv, hinternal⟩ := hsafe
  unfold killStore
  by_cases hzero : s.internal c = 0
  · have hkeep : s.store.Tidy (s.HeldBy (l.erase c)) := h.tidy.mono fun k hrec _ hheld =>
      hheld.erase hs hrec hpriv fun heq => hrec (heq ▸ hzero ▸ hs.store.null)
    rw [hzero, Store.free_zero, ite_self]
    exact hkeep
  · have hcase := hinternal hzero
    by_cases hfrees : s.FreesInternal c
    · rw [if_pos hfrees] at hcase ⊢
      exact h.tidy.free hcase (fun k hne hrec hheld => hheld.erase hs hrec hpriv hne) hs.store.null
    · rw [if_neg hfrees] at hcase ⊢
      refine h.tidy.mono fun k hrec hk hheld => ?_
      by_cases heq : k = s.internal c
      · rcases hcase with hmem | ⟨d, hd, hdc, hsame⟩
        · exact absurd (heq ▸ hmem) hk
        · exact ⟨d, (List.mem_erase_of_ne hdc).mpr hd, .inr (.inl (heq.trans hsame.symm))⟩
      · exact hheld.erase hs hrec hpriv heq

theorem Owned.connkillReal (h : s.Owned l) (hs : s.Formed) (hnodup : l.Nodup) (hc : c ∈ l)
    (hsafe : s.KillSafe l c) (hkill : s.connkillReal c = some t) : t.Owned (l.erase c) := by
  obtain ⟨u, hsame, rfl⟩ := h.connkillReal_eq hs hc hsafe.1 hkill
  refine ⟨(h.killStore_tidy hs hsafe).mono fun k _ _ ⟨d, hd, hheld⟩ => ⟨d, hd, ?_⟩,
    fun d hd hkind => ?_⟩
  · show k = u.priv d ∨ k = u.internal d ∨ ∃ exchange inst,
      (s.killStore c).record (u.priv d) = some (.chatconnpriv exchange k inst)
    rwa [hsame.priv, hsame.internal, killStore_record]
  · have hdl := List.mem_of_mem_erase hd
    have hdc : d ≠ c := fun heq => (hnodup.mem_erase_iff.mp hd).1 heq
    show u.internal d ≠ 0 → u.internal d ∉ (s.killStore c).released ∧
      ∀ e ∈ l.erase c, u.internal e = u.internal d → e = d
    rw [hsame.internal]
    intro hne
    obtain ⟨hmem, halone⟩ := h.direct d hdl
      ((congrArg Prod.snd (hsame.kind d)).symm.trans hkind) hne
    refine ⟨?_, fun e he => halone e (List.mem_of_mem_erase he)⟩
    -- another connection has another record
    have hother : s.internal d ≠ s.internal c := fun heq => hdc (halone c hc heq.symm).symm
    unfold killStore
    split
    · exact mt (Store.mem_free_of_ne hother).mp hmem
    · exact hmem

/-! ## Logging off -/

theorem LogoffSafe.killSafe {cur : ConnPtr} {next : List ConnPtr}
    (hl : s.LogoffSafe (cur :: next)) (hnodup : (cur :: next).Nodup) :
    s.KillSafe (cur :: next) cur := by
  refine ⟨hl.1 cur List.mem_cons_self, fun hne => ?_⟩
  have hcount := hl.2 cur List.mem_cons_self hne
  rw [List.countP_cons] at hcount
  by_cases hfrees : s.FreesInternal cur
  · rw [if_pos hfrees]
    intro hmem
    rw [if_pos hmem, if_pos (decide_eq_true ⟨hfrees, rfl⟩)] at hcount
    cases hcount
  · rw [if_neg hfrees]
    by_cases hmem : s.internal cur ∈ s.store.released
    · exact .inl hmem
    · have hnot : ¬ decide (s.FreesInternal cur ∧ s.internal cur = s.internal cur) = true :=
        fun hdec => hfrees (of_decide_eq_true hdec).1
      rw [if_neg hmem, if_neg hnot] at hcount
      obtain ⟨d, hd, hdec⟩ := List.countP_pos_iff.mp (hcount ▸ Nat.one_pos)
      refine .inr ⟨d, List.mem_cons_of_mem _ hd, ?_, (of_decide_eq_true hdec).2⟩
      rintro rfl
      exact (List.nodup_cons.mp hnodup).1 hd

theorem LogoffSafe.tail {cur : ConnPtr} {next : List ConnPtr}
    (hl : s.LogoffSafe (cur :: next)) (hu : s.SameRecords u) :
    ({ u with store := s.killStore cur } : PrivSession).LogoffSafe next := by
  have hrest : ∀ c ∈ next, s.internal c ≠ 0 →
      next.countP (fun d => s.FreesInternal d ∧ s.internal d = s.internal c) =
        if s.internal c ∈ (s.killStore cur).released then 0 else 1 := by
    intro c hc hne
    have hcount := hl.2 c (List.mem_cons_of_mem _ hc) hne
    rw [List.countP_cons] at hcount
    unfold killStore
    by_cases hfrees : s.FreesInternal cur ∧ s.internal cur = s.internal c
    · -- this one has been released by `cur`, and so by no other
      obtain ⟨hcur, hsame⟩ := hfrees
      rw [if_pos (decide_eq_true ⟨hcur, hsame⟩)] at hcount
      have hmem : s.internal c ∈ (s.store.free (s.internal cur)).released :=
        hsame ▸ Store.mem_free_self (hsame ▸ hne)
      rw [if_pos hcur, if_pos hmem]
      split at hcount
      · cases hcount
      · exact Nat.succ.inj hcount
    · rw [if_neg (fun hdec => hfrees (of_decide_eq_true hdec))] at hcount
      have hmem : s.internal c ∈ (if s.FreesInternal cur then s.store.free (s.internal cur)
          else s.store).released ↔ s.internal c ∈ s.store.released := by
        split
        · next hcur => exact Store.mem_free_of_ne fun heq => hfrees ⟨hcur, heq.symm⟩
        · exact Iff.rfl
      exact hcount.trans (if_congr hmem.symm rfl rfl)
  refine ⟨fun c hc => ?_, ?_⟩
  · show u.priv c = 0
    rw [hu.priv]
    exact hl.1 c (List.mem_cons_of_mem _ hc)
  · show ∀ c ∈ next, u.internal c ≠ 0 →
      next.countP (fun d => u.FreesInternal d ∧ u.internal d = u.internal c) =
        if u.internal c ∈ (s.killStore cur).released then 0 else 1
    rw [hu.internal]
    simp only [hu.freesInternal]
    exact hrest

theorem Owned.aimConnrstLoop (h : s.Owned l) (hs : s.Formed) (hnodup : l.Nodup)
    (hl : s.LogoffSafe l) (hrun : aimConnrstLoop l s = some t) : t.Owned [] := by
  induction l generalizing s with
  | nil =>
    obtain rfl := Option.some.inj hrun
    exact h
  | cons cur next ih =>
    obtain ⟨u, hclose, hrest⟩ := Option.bind_eq_some_iff.mp hrun
    obtain ⟨v, hkill, hrest⟩ := Option.bind_eq_some_iff.mp hrest
    have hsame := h.close hs List.mem_cons_self hclose
    have hu := hs.close hclose
    have hlu := hsame.logoffSafe hl
    have hsafe := hlu.killSafe hnodup
    have howned := (hsame.owned h).connkillReal hu hnodup List.mem_cons_self hsafe hkill
    obtain ⟨w, hw, hv⟩ := hu.connkillReal cur
    obtain rfl := Option.some.inj (hw.symm.trans hkill)
    rw [List.erase_cons_head] at howned
    refine ih howned hv (List.nodup_cons.mp hnodup).2 ?_ hrest
    obtain ⟨x, hx, rfl⟩ := (hsame.owned h).connkillReal_eq hu List.mem_cons_self hsafe.1 hkill
    exact hlu.tail hx

/-! ## Opening -/

section WithConn

variable {fd : Int} {kind : UInt16 × UInt16} {sess : AimSession} {priv internal : Handle}
  {rend : CookiePtr}

theorem HeldBy.withConn {h : Handle} (hheld : s.HeldBy s.sess.connlist h)
    (hlt : ∀ c ∈ s.sess.connlist, c < s.sess.heap) (hopened : Opened fd kind s.sess sess) :
    (s.withConn sess priv internal rend).HeldBy sess.connlist h := by
  obtain ⟨c, hc, hcase⟩ := hheld
  have hne := Nat.ne_of_lt (hlt c hc)
  have hpriv : (s.withConn sess priv internal rend).priv c = s.priv c :=
    Function.update_of_ne hne ..
  have hinternal : (s.withConn sess priv internal rend).internal c = s.internal c :=
    Function.update_of_ne hne ..
  refine ⟨c, hopened.connlist ▸ List.mem_cons_of_mem _ hc, ?_⟩
  rw [hpriv, hinternal]
  exact hcase

/-- A new connection shares no record with a direct connection. -/
theorem Alone.withConn (h : s.Alone s.sess.connlist)
    (hlt : ∀ c ∈ s.sess.connlist, c < s.sess.heap) (hopened : Opened fd kind s.sess sess)
    (hnew : kind.2 = aimConnSubtypeOftDirectim → internal ≠ 0 →
      internal ∉ s.store.released ∧ ∀ c ∈ s.sess.connlist, s.internal c ≠ internal)
    (hold : ∀ c ∈ s.sess.connlist, (s.sess.conn c).kind.2 = aimConnSubtypeOftDirectim →
      internal ≠ 0 → s.internal c ≠ internal) :
    (s.withConn sess priv internal rend).Alone sess.connlist := by
  have hself : (s.withConn sess priv internal rend).internal s.sess.heap = internal :=
    Function.update_self ..
  have hother {c : ConnPtr} (hc : c ∈ s.sess.connlist) :
      (s.withConn sess priv internal rend).internal c = s.internal c :=
    Function.update_of_ne (Nat.ne_of_lt (hlt c hc)) ..
  intro c hc hkind hne
  rcases List.mem_cons.mp (hopened.connlist ▸ hc) with rfl | hc
  · rw [hself] at hne ⊢
    obtain ⟨hmem, halone⟩ := hnew (hopened.kind_new ▸ hkind) hne
    refine ⟨hmem, fun d hd hsame => ?_⟩
    rcases List.mem_cons.mp (hopened.connlist ▸ hd) with rfl | hd
    · rfl
    · exact absurd ((hother hd).symm.trans hsame) (halone d hd)
  · have hkind : (s.sess.conn c).kind.2 = aimConnSubtypeOftDirectim :=
      hopened.kind c (Nat.ne_of_lt (hlt c hc)) ▸ hkind
    rw [hother hc] at hne ⊢
    obtain ⟨hmem, halone⟩ := h c hc hkind hne
    refine ⟨hmem, fun d hd hsame => ?_⟩
    rcases List.mem_cons.mp (hopened.connlist ▸ hd) with rfl | hd
    · have hinternal : internal = s.internal c := hself.symm.trans hsame
      exact absurd hinternal.symm (hold c hc hkind (hinternal ▸ hne))
    · exact halone d hd ((hother hd).symm.trans hsame)

/-- A connection with no record. -/
theorem Owned.newconn (h : s.Owned s.sess.connlist) (hs : s.Formed)
    (hopened : Opened fd kind s.sess sess) : (s.withConn sess 0 0 rend).Owned sess.connlist :=
  ⟨h.tidy.mono fun _ _ _ hheld => hheld.withConn hs.listed.lt hopened,
    h.direct.withConn hs.listed.lt hopened (fun _ hne => absurd rfl hne)
      fun _ _ _ hne => absurd rfl hne⟩

/-- A connection with a new record. -/
theorem Owned.openNew (h : s.Owned s.sess.connlist) (hlt : ∀ c ∈ s.sess.connlist, c < s.sess.heap)
    (hstore : s.store.Formed) (hpriv : ∀ c, s.priv c < s.store.next)
    (hinternal : ∀ c, s.internal c < s.store.next) (hopened : Opened fd kind s.sess sess)
    (r : PrivRecord) :
    (({ s with store := (s.store.alloc r).2 } : PrivSession).withConn sess 0 s.store.next
      rend).Owned sess.connlist := by
  have halone : ({ s with store := (s.store.alloc r).2 } : PrivSession).Alone s.sess.connlist :=
    h.direct
  refine ⟨h.tidy.alloc (fun k _ hheld => ?_) ?_ r, ?_⟩
  · have hkept : ({ s with store := (s.store.alloc r).2 } : PrivSession).HeldBy
        s.sess.connlist k := by
      obtain ⟨c, hc, hcase⟩ := hheld
      refine ⟨c, hc, hcase.imp_right (Or.imp_right fun ⟨exchange, inst, hname⟩ => ?_)⟩
      exact ⟨exchange, inst,
        (Store.alloc_record_of_ne (Nat.ne_of_lt (hpriv c))).trans hname⟩
    exact hkept.withConn hlt hopened
  · have hself : (({ s with store := (s.store.alloc r).2 } : PrivSession).withConn sess 0
        s.store.next rend).internal s.sess.heap = s.store.next := Function.update_self ..
    exact ⟨s.sess.heap, hopened.connlist ▸ List.mem_cons_self, .inr (.inl hself.symm)⟩
  · refine halone.withConn hlt hopened (fun _ _ => ⟨hstore.next_not_mem, fun c _ => ?_⟩)
      fun c _ _ _ => ?_
    · exact Nat.ne_of_lt (hinternal c)
    · exact Nat.ne_of_lt (hinternal c)

/-- A connection with the record of another one. -/
theorem Owned.clone (h : s.Owned s.sess.connlist) (hs : s.Formed) {cur : ConnPtr}
    (hcur : cur ∈ s.sess.connlist) (hopened : Opened fd kind s.sess sess)
    (hkind : kind.2 = (s.sess.conn cur).subtype)
    (hdirect : (s.sess.conn cur).subtype ≠ aimConnSubtypeOftDirectim) :
    (s.withConn sess (s.priv cur) (s.internal cur) rend).Owned sess.connlist := by
  refine ⟨h.tidy.mono fun _ _ _ hheld => hheld.withConn hs.listed.lt hopened,
    h.direct.withConn hs.listed.lt hopened (fun hnew => absurd (hkind.symm.trans hnew) hdirect)
      fun c hc hc' hne hsame => ?_⟩
  obtain ⟨-, halone⟩ := h.direct c hc hc' (hsame ▸ hne)
  rw [halone cur hcur hsame.symm] at hdirect
  exact hdirect hc'

/-- The record goes from the listener to the accepted connection. -/
theorem Owned.accepted (h : s.Owned s.sess.connlist) (hs : s.Formed) {cur : ConnPtr}
    (hcur : cur ∈ s.sess.connlist) (hopened : Opened fd kind s.sess sess)
    (hdirect : (s.sess.conn cur).subtype = aimConnSubtypeOftDirectim)
    {ck : Cookie} {sn ip ip' : List UInt8}
    (hrec : s.store.record (s.internal cur) = some (.intdata ck sn ip)) :
    ({ s.withConn sess (s.priv cur) (s.internal cur) rend with
      internal := Function.update
        (Function.update s.internal s.sess.heap (s.internal cur)) cur 0
      store := s.store.write (s.internal cur) (.intdata ck sn ip') } : PrivSession).Owned
        sess.connlist := by
  have hlt := hs.listed.lt
  have hne : s.internal cur ≠ 0 := by
    intro hzero
    rw [hzero, hs.store.null] at hrec
    cases hrec
  obtain ⟨hmem, halone⟩ := h.direct cur hcur hdirect hne
  generalize ht : ({ s.withConn sess (s.priv cur) (s.internal cur) rend with
    internal := Function.update (Function.update s.internal s.sess.heap (s.internal cur)) cur 0
    store := s.store.write (s.internal cur) (.intdata ck sn ip') } : PrivSession) = t
  -- where the pointers of the new session are
  have hstore : t.store = s.store.write (s.internal cur) (.intdata ck sn ip') := ht ▸ rfl
  have hcurz : t.internal cur = 0 := ht ▸ Function.update_self ..
  have hself : t.internal s.sess.heap = s.internal cur := by
    rw [← ht]
    exact (Function.update_of_ne (Nat.ne_of_gt (hlt cur hcur)) ..).trans (Function.update_self ..)
  have hother : ∀ c ∈ s.sess.connlist, c ≠ cur → t.internal c = s.internal c := by
    intro c hc hcc
    rw [← ht]
    exact (Function.update_of_ne hcc ..).trans (Function.update_of_ne (Nat.ne_of_lt (hlt c hc)) ..)
  have hpriv : ∀ c ∈ s.sess.connlist, t.priv c = s.priv c := by
    intro c hc
    rw [← ht]
    exact Function.update_of_ne (Nat.ne_of_lt (hlt c hc)) ..
  have hkinds : t.sess = sess := ht ▸ rfl
  have hheap : s.sess.heap ∈ sess.connlist := hopened.connlist ▸ List.mem_cons_self
  refine ⟨?_, fun c hc hkind hcne => ?_⟩
  · rw [hstore]
    refine (h.tidy.write hmem (hrec ▸ Option.some_ne_none _) _).mono fun k _ _ ⟨c, hc, hcase⟩ => ?_
    have hc' : c ∈ sess.connlist := hopened.connlist ▸ List.mem_cons_of_mem _ hc
    rcases hcase with hk | hk | ⟨exchange, inst, hname⟩
    · exact ⟨c, hc', .inl (hk.trans (hpriv c hc).symm)⟩
    · by_cases hcc : c = cur
      · exact ⟨s.sess.heap, hheap, .inr (.inl (hk.trans (hcc ▸ hself.symm)))⟩
      · exact ⟨c, hc', .inr (.inl (hk.trans (hother c hc hcc).symm))⟩
    · refine ⟨c, hc', .inr (.inr ⟨exchange, inst, ?_⟩)⟩
      have hck : s.priv c ≠ s.internal cur := by
        intro heq
        rw [heq, hrec] at hname
        cases hname
      rw [hpriv c hc, hstore, Store.write_record_of_ne hck, hname]
  · have hreleased : t.store.released = s.store.released := by
      rw [hstore]
      exact Store.touch_released
    rw [hreleased]
    rcases List.mem_cons.mp (hopened.connlist ▸ hc) with rfl | hc
    · rw [hself]
      refine ⟨hmem, fun d hd hsame => ?_⟩
      rcases List.mem_cons.mp (hopened.connlist ▸ hd) with rfl | hd
      · rfl
      · by_cases hdc : d = cur
        · rw [hdc, hcurz] at hsame
          exact absurd hsame.symm hne
        · exact absurd (halone d hd ((hother d hd hdc).symm.trans hsame)) hdc
    · have hcc : c ≠ cur := by
        rintro rfl
        exact hcne hcurz
      have hkind : (s.sess.conn c).kind.2 = aimConnSubtypeOftDirectim := by
        rw [← hopened.kind c (Nat.ne_of_lt (hlt c hc)), ← hkinds, hkind]
      rw [hother c hc hcc] at hcne ⊢
      obtain ⟨hcmem, hcalone⟩ := h.direct c hc hkind hcne
      refine ⟨hcmem, fun d hd hsame => ?_⟩
      rcases List.mem_cons.mp (hopened.connlist ▸ hd) with rfl | hd
      · exact absurd (hcalone cur hcur (hself.symm.trans hsame)).symm hcc
      · by_cases hdc : d = cur
        · rw [hdc, hcurz] at hsame
          exact absurd hsame.symm hcne
        · exact hcalone d hd ((hother d hd hdc).symm.trans hsame)

end WithConn

/-- The listener has the new record; the cookie is not one of them. -/
theorem Owned.initiated (h : s.Owned s.sess.connlist) (hs : s.Formed) {subtype : UInt16}
    {ck : Cookie} {m m' : CookieMap} (hinit : Initiated subtype ck s m t m') :
    t.Owned t.sess.connlist := by
  obtain ⟨rq, cookies, sess, fd, sn, ip, -, hsame, hopened, rfl⟩ := hinit.eq
  have hlisted := hsame.wellListed hs.listed
  have hreserve : ({ s with
      rq := rq, cookies := cookies, store := s.store.reserve.2.reserve.2 } : PrivSession).Owned
        rq.sess.connlist := by
    refine ⟨h.tidy.reserve.reserve.mono fun k _ _ ⟨c, hc, hcase⟩ => ?_, fun c hc hkind => ?_⟩
    · exact ⟨c, hsame.connlist ▸ hc, hcase⟩
    · rw [hsame.connlist] at hc ⊢
      exact h.direct c hc ((congrArg Prod.snd (hsame.kind c)).symm.trans hkind)
  exact hreserve.openNew hlisted.lt hs.store.reserve.reserve
    (fun c => Nat.lt_add_right 2 (hs.priv_lt c)) (fun c => Nat.lt_add_right 2 (hs.internal_lt c))
    hopened (.intdata ck sn ip)

/-- A connection without a chat record is given one. -/
theorem Owned.attachname (h : s.Owned l) (hs : s.Formed) (hc : c ∈ l) (hpriv : s.priv c = 0)
    (name : List UInt8) (exchange inst : UInt16) :
    ({ s with
      store := (((s.store.free (s.priv c)).alloc (.name name)).2.alloc
        (.chatconnpriv exchange s.store.next inst)).2
      priv := Function.update s.priv c (s.store.next + 1) } : PrivSession).Owned l := by
  rw [hpriv, Store.free_zero]
  have hname := h.tidy.alloc (fun k _ hheld => (.inl hheld : s.HeldBy l k ∨ k = s.store.next))
    (.inr rfl) (.name name)
  have hformed := hs.store.alloc (.name name)
  have hself : Function.update s.priv c (s.store.next + 1) c = s.store.next + 1 :=
    Function.update_self ..
  refine ⟨hname.alloc (fun k hrec hheld => ?_) ⟨c, hc, .inl hself.symm⟩ _, h.direct⟩
  rcases hheld with ⟨d, hd, hcase⟩ | rfl
  · have hsame : d ≠ c → Function.update s.priv c (s.store.next + 1) d = s.priv d := fun hdc =>
      Function.update_of_ne hdc ..
    rcases hcase with rfl | hk | ⟨exchange', inst', hr⟩
    · have hdc : d ≠ c := by
        rintro rfl
        rw [hpriv] at hrec
        exact hrec hformed.null
      exact ⟨d, hd, .inl (hsame hdc).symm⟩
    · exact ⟨d, hd, .inr (.inl hk)⟩
    · have hdc : d ≠ c := by
        rintro rfl
        rw [hpriv, hs.store.null] at hr
        cases hr
      have hlt := hs.priv_lt d
      refine ⟨d, hd, .inr (.inr ⟨exchange', inst', ?_⟩)⟩
      show Store.record _ (Function.update s.priv c (s.store.next + 1) d) = _
      rw [hsame hdc, Store.alloc_record_of_ne (Nat.ne_of_lt (Nat.lt_succ_of_lt hlt)),
        Store.alloc_record_of_ne (Nat.ne_of_lt hlt), hr]
  · refine ⟨c, hc, .inr (.inr ⟨exchange, inst, ?_⟩)⟩
    show Store.record _ (Function.update s.priv c (s.store.next + 1) c) = _
    rw [hself]
    exact Store.alloc_record_next

end Owned

end PrivSession

/-! ## Runs -/

/-- The call neither kills a connection that must not be, nor attaches a second name. -/
def PrivOp.ReleasesOnce (s : PrivSession) : PrivOp → Prop
  | chatAttachname c _ roomname _ => c = 0 ∨ roomname = none ∨ s.priv c = 0
  | kill c => c ∈ s.sess.connlist → s.KillSafe s.sess.connlist c
  | logoff => s.LogoffSafe s.sess.connlist
  | _ => True

open PrivSession in
theorem owned_step {s t : PrivSession} {op : PrivOp} (hs : s.Formed)
    (h : s.Owned s.sess.connlist) (hvalid : op.Valid s) (hok : op.ReleasesOnce s)
    (hrun : op.run s = some t) : t.Owned t.sess.connlist := by
  have hinitiated {subtype : UInt16} {request : List UInt8 → Except Int Request} {conn c : ConnPtr}
      {env : Listening} {stack : Cookie} {destsn : List UInt8}
      (hinit : s.rendInitiate subtype request conn env stack destsn = some (c, t)) :
      t.Owned t.sess.connlist := by
    obtain ⟨m, hm⟩ := hs.refines
    rcases hs.rendInitiate_cases hm hinit with rfl | ⟨ck, m', hnew⟩
    · exact h
    · exact h.initiated hs hnew
  cases op with
  | newconn type outcome =>
    obtain ⟨fd, sess, hopened, hnew⟩ := s.aimNewconn_eq type outcome
    obtain rfl := Option.some.inj hrun
    rw [hnew]
    exact h.newconn hs hopened
  | directimInitiate conn env stack destsn =>
    obtain ⟨⟨c, t⟩, hinit, rfl⟩ := Option.map_eq_some_iff.mp hrun
    exact hinitiated hinit
  | sendfileInitiate conn env stack destsn filename numfiles totsize =>
    obtain ⟨⟨c, t⟩, hinit, rfl⟩ := Option.map_eq_some_iff.mp hrun
    exact hinitiated hinit
  | directimConnect sn addr cookie outcome =>
    obtain rfl := Option.some.inj hrun
    rcases aimDirectimConnect_cases s sn addr cookie outcome with
      heq | ⟨fd, sess, name, ip, hopened, heq⟩
    · rw [heq]
      exact h
    · rw [heq]
      exact h.openNew hs.listed.lt hs.store hs.priv_lt hs.internal_lt hopened _
  | handlerendconnect cur accepted userret =>
    obtain ⟨⟨r, t⟩, haccept, rfl⟩ := Option.map_eq_some_iff.mp hrun
    have hne : cur ≠ s.sess.heap := Nat.ne_of_lt (hs.listed.lt cur hvalid)
    rcases aimHandlerendconnect_cases hne haccept with
      rfl | ⟨-, -, hclose⟩ | ⟨sess, u, hopened, -, -, rfl, hcases⟩
    · exact h
    · have hsame := h.close hs hvalid hclose
      exact hsame.connlist ▸ hsame.owned h
    · have hu := hs.withConn hopened (hs.priv cur) (hs.internal cur) (s.rend cur)
      rcases hcases with ⟨hdirect, ck, sn, ip, ip', hrec, rfl⟩ | ⟨hgetfile, rfl⟩ | ⟨hdirect, hclose⟩
      · exact h.accepted hs hvalid hopened hdirect hrec
      · exact h.clone hs hvalid hopened rfl (hgetfile ▸ by decide)
      · have hclone : (s.withConn sess (s.priv cur) (s.internal cur) (s.rend cur)).Owned
            sess.connlist := h.clone hs hvalid hopened rfl hdirect
        have hmem : s.sess.heap ∈ sess.connlist := hopened.connlist ▸ List.mem_cons_self
        have hsame := hclone.close hu hmem hclose
        exact hsame.connlist ▸ hsame.owned hclone
  | chatAttachname c exchange roomname inst =>
    obtain rfl := Option.some.inj hrun
    rcases aimChatAttachname_cases s c exchange roomname inst with heq | ⟨hc, hroom, name, heq⟩
    · rw [heq]
      exact h
    · rw [heq]
      have hpriv : s.priv c = 0 := (hok.resolve_left hc).resolve_left hroom
      exact h.attachname hs (hvalid.resolve_left hc) hpriv name exchange inst
  | close c =>
    have hsame := h.close hs hvalid hrun
    exact hsame.connlist ▸ hsame.owned h
  | kill c =>
    rcases killed_cases hrun with rfl | ⟨hmem, hkill⟩
    · exact h
    · have hs' := hs.setSess (hs.listed.sublist (List.erase_sublist (a := c)))
      have hlisted : (s.setSess { s.sess with connlist := s.sess.connlist.erase c }).Owned
          s.sess.connlist := ⟨h.tidy, h.direct⟩
      have hsafe := hok hmem
      have howned := hlisted.connkillReal hs' hs.listed.nodup hmem hsafe hkill
      obtain ⟨u, hsame, rfl⟩ := hlisted.connkillReal_eq hs' hmem hsafe.1 hkill
      exact hsame.connlist ▸ howned
  | logoff =>
    obtain ⟨u, hloop, rfl⟩ := Option.map_eq_some_iff.mp hrun
    have howned := h.aimConnrstLoop hs hs.listed.nodup hok hloop
    exact ⟨howned.tidy, howned.direct⟩

/-- In every run in which no connection with a chat record is killed or given another name, and
connections with the record of a rendezvous are only killed so that it is released once, each record
is released once at most and not used afterwards, and those that no connection has any more have
been released. -/
theorem private_records_released_once {flags : UInt32} {wild : Handle → Cookie} {s : PrivSession}
    (h : PrivRun (fun s op => op.ReleasesOnce s) (.init flags wild) s) :
    (∀ k, s.store.released.count k ≤ 1) ∧ s.store.stale = [] ∧
      ∀ k, s.store.record k ≠ none → ¬ s.HeldBy s.sess.connlist k →
        s.store.released.count k = 1 := by
  have hinit : (PrivSession.init flags wild).Owned [] :=
    ⟨.empty, fun _ hc => absurd hc List.not_mem_nil⟩
  obtain ⟨-, hs⟩ := h.inv (PrivSession.formed_init flags wild) hinit
    fun _ _ _ => owned_step
  exact ⟨hs.tidy.count_le_one, hs.tidy.unused, fun _ => hs.tidy.count_eq_one⟩

section Example

/-- A connection for a direct message is closed, and killed. -/
def connectKilled : PrivSession :=
  (PrivOp.kill 1).after ((PrivOp.close 1).after
    ((PrivOp.directimConnect (some [0x61]) none (Vector.replicate 8 0) .nodest).after
      (.init 0 fun _ => Vector.replicate 8 0)))

theorem private_records_released_once_connect :
    connectKilled.sess.connlist = [] ∧
      (∀ k, connectKilled.store.released.count k ≤ 1) ∧ connectKilled.store.stale = [] ∧
      ∀ k, connectKilled.store.record k ≠ none →
        ¬ connectKilled.HeldBy connectKilled.sess.connlist k →
        connectKilled.store.released.count k = 1 := by
  have hconnect : PrivRun (fun s op => op.ReleasesOnce s) (.init 0 fun _ => Vector.replicate 8 0)
      ((PrivOp.directimConnect (some [0x61]) none (Vector.replicate 8 0) .nodest).after
        (.init 0 fun _ => Vector.replicate 8 0)) :=
    PrivRun.refl.after trivial trivial rfl
  have hclose : PrivRun (fun s op => op.ReleasesOnce s) (.init 0 fun _ => Vector.replicate 8 0)
      ((PrivOp.close 1).after
        ((PrivOp.directimConnect (some [0x61]) none (Vector.replicate 8 0) .nodest).after
          (.init 0 fun _ => Vector.replicate 8 0))) :=
    hconnect.after (by decide) trivial (by decide)
  have hkill : PrivRun (fun s op => op.ReleasesOnce s) (.init 0 fun _ => Vector.replicate 8 0)
      connectKilled := by
    refine hclose.after (by decide) (fun _ => ⟨by decide, fun _ => ?_⟩) (by decide)
    rw [if_pos (by decide)]
    decide
  exact ⟨by decide, private_records_released_once hkill⟩

/-- A chat connection with a name is killed. -/
def chatKilled : PrivSession :=
  (PrivOp.kill 1).after ((PrivOp.chatAttachname 1 4 (some [0x61]) 0).after
    ((PrivOp.newconn aimConnTypeChat (.connected 3 0)).after
      (.init 0 fun _ => Vector.replicate 8 0)))

/-- The record of the chat is released twice, and used in between. -/
theorem chat_record_released_twice :
    ¬ ∀ s, PrivRun (fun _ _ => True) (.init 0 fun _ => Vector.replicate 8 0) s →
      (∀ k, s.store.released.count k ≤ 1) ∧ s.store.stale = [] ∧
        ∀ k, s.store.record k ≠ none → ¬ s.HeldBy s.sess.connlist k →
          s.store.released.count k = 1 := by
  intro h
  have hnew : PrivRun (fun _ _ => True) (.init 0 fun _ => Vector.replicate 8 0)
      ((PrivOp.newconn aimConnTypeChat (.connected 3 0)).after
        (.init 0 fun _ => Vector.replicate 8 0)) :=
    PrivRun.refl.after trivial trivial rfl
  have hrun : PrivRun (fun _ _ => True) (.init 0 fun _ => Vector.replicate 8 0) chatKilled :=
    (hnew.after (by decide) trivial (by decide)).after trivial trivial (by decide)
  have hcount := (h _ hrun).1 2
  exact absurd hcount (by decide)

end Example

end Libfaim
