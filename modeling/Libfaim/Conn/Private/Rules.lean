import Libfaim.Conn.Private.Opened
import Libfaim.Msgcookie.Map

/-!
# What closing and killing do to private records

Every session keeps its form (`PrivSession.Formed`): its connections are well listed, the list of
cookies refines a map, and each pointer is null or to a record of the right kind, which may have
been released. Closing a connection drops one cookie at most (`aimConnClose_cases`), and killing one
releases its records (`Formed.connkillRecords`).
-/

namespace Libfaim

open HandleStore

/-! ## Caching and freeing cookies -/

namespace CookieMap

/-- Nothing is cached and no struct is live that was not before. -/
def Shrinks (m m' : CookieMap) : Prop :=
  (∀ k p, m'.cached k = some p → m.cached k = some p) ∧
    ∀ p, m'.structs p ≠ none → m.structs p ≠ none

variable {m m' m'' : CookieMap}

theorem Shrinks.refl (m : CookieMap) : m.Shrinks m := ⟨fun _ _ h => h, fun _ h => h⟩

theorem Shrinks.trans (h : m.Shrinks m') (h' : m'.Shrinks m'') : m.Shrinks m'' :=
  ⟨fun k p hp => h.1 k p (h'.1 k p hp), fun p hp => h.2 p (h'.2 p hp)⟩

theorem shrinks_drop (m : CookieMap) (k : CookieKey) : m.Shrinks (m.drop k) := by
  refine ⟨fun k' p hp => ?_, fun _ h => h⟩
  by_cases hk : k' = k
  · rw [hk] at hp
    exact absurd ((Function.update_self ..).symm.trans hp) (by simp)
  · exact (Function.update_of_ne hk ..).symm.trans hp

theorem shrinks_free (m : CookieMap) (p : CookiePtr) : m.Shrinks (m.free p) := by
  have hrelease (m : CookieMap) (v : CookieStruct) : m.Shrinks (m.release p v) := by
    refine ⟨fun _ _ h => h, fun q hq => ?_⟩
    by_cases hqp : q = p
    · rw [hqp] at hq
      exact absurd (Function.update_self ..) hq
    · intro hnone
      exact hq ((Function.update_of_ne hqp ..).trans hnone)
  unfold free
  split
  · exact .refl m
  · split
    · exact (shrinks_drop m _).trans (hrelease _ _)
    · exact hrelease m _

/-- Another struct under the key goes first. -/
theorem cache_new {p : CookiePtr} {v : CookieStruct} (hv : m.structs p = some v)
    (hnew : m.cached v.key ≠ some p) (now : Int) :
    ∃ old, m.Shrinks old ∧ (m.cache now p).2 =
      { old.put p { v with addtime := now } with
        cached := Function.update old.cached v.key (some p) } := by
  unfold cache
  rw [hv]
  dsimp only
  rw [if_neg hnew]
  refine ⟨_, ?_, rfl⟩
  split
  · exact .refl m
  · exact m.shrinks_free _

end CookieMap

section Cookies

variable {s : Cookies} {m : CookieMap} {p : CookiePtr} {k : CookieKey}

theorem Cookies.Refines.struct_of_cached (h : s.Refines m) (hp : m.cached k = some p) :
    ∃ v, m.structs p = some v ∧ v.key = k := by
  obtain ⟨l, -, hiff⟩ := h.listed
  have hkey := ((hiff k p).mp hp).2
  rw [h.key_eq] at hkey
  exact Option.map_eq_some_iff.mp hkey

/-- What is cached under the key is freed. -/
theorem dropCookie_refines (h : s.Refines m) (cookie : Option Cookie) (type : Int) :
    ∃ s' m', PrivSession.dropCookie cookie type s = some s' ∧ s'.Refines m' ∧ m.Shrinks m' ∧
      ∀ ck, cookie = some ck → m'.cached (ck, type) = none := by
  cases cookie with
  | none => exact ⟨s, m, rfl, h, .refl m, fun _ heq => nomatch heq⟩
  | some ck =>
    obtain ⟨s₁, huncache, hs₁⟩ := h.uncache ck type
    have hnone : (m.drop (ck, type)).cached (ck, type) = none := Function.update_self ..
    have hshrinks := m.shrinks_drop (ck, type)
    unfold PrivSession.dropCookie
    rw [huncache]
    cases hcached : m.cached (ck, type) with
    | none =>
      refine ⟨s₁, _, rfl, hs₁, hshrinks, fun ck' heq => ?_⟩
      rwa [← Option.some.inj heq]
    | some p =>
      obtain ⟨v, hv, -⟩ := h.struct_of_cached hcached
      obtain ⟨s₂, hfree, hs₂⟩ := hs₁.free (show (m.drop (ck, type)).structs p = some v from hv)
      refine ⟨s₂, _, ?_, hs₂, hshrinks.trans (CookieMap.shrinks_free _ p), fun ck' heq => ?_⟩
      · rw [Option.getD_some]
        dsimp only
        rw [hfree, Option.map_some]
      · rw [← Option.some.inj heq]
        cases hafter : ((m.drop (ck, type)).free p).cached (ck, type) with
        | none => rfl
        | some q =>
          have hq := (CookieMap.shrinks_free _ p).1 _ q hafter
          rw [hnone] at hq
          cases hq

/-- A new struct takes the place of what was cached under its key. -/
theorem cacheNew_refines (h : s.Refines m) (hp : p ≠ 0) (hnone : m.structs p = none) (ck : Cookie)
    (type : Int) (data : Nat) (now : Int) :
    ∃ r s' m', aimCachecookie now p (aimMkcookie p (some ck) type data s).2 = some (r, s') ∧
      s'.Refines m' ∧ m'.cached (ck, type) = some p ∧
      (∀ k q, m'.cached k = some q → (k = (ck, type) ∧ q = p) ∨ m.cached k = some q) ∧
      ∀ q, m'.structs q ≠ none → q = p ∨ m.structs q ≠ none := by
  obtain ⟨-, hmake⟩ := h.make hp hnone ck type data
  obtain ⟨s', hcache, hs'⟩ := hmake.cache (Function.update_self ..) now
  refine ⟨_, s', _, hcache, hs', ?_⟩
  have hnew : m.cached (ck, type) ≠ some p := by
    intro hcached
    obtain ⟨v, hv, -⟩ := h.struct_of_cached hcached
    exact absurd (hnone.symm.trans hv) (by simp)
  obtain ⟨old, hold, heq⟩ := CookieMap.cache_new
    (show (m.put p ⟨ck, type, data, 0⟩).structs p = some ⟨ck, type, data, 0⟩ from
      Function.update_self ..) hnew now
  rw [heq]
  refine ⟨Function.update_self .., fun k q hq => ?_, fun q hq => ?_⟩
  · have hcached : Function.update old.cached (ck, type) (some p) k = some q := hq
    by_cases hk : k = (ck, type)
    · rw [hk, Function.update_self] at hcached
      exact .inl ⟨hk, (Option.some.inj hcached).symm⟩
    · rw [Function.update_of_ne hk] at hcached
      exact .inr (hold.1 k q hcached)
  · by_cases hqp : q = p
    · exact .inl hqp
    · have hq : old.structs q ≠ none := fun hnone =>
        hq ((Function.update_of_ne hqp ..).trans hnone)
      exact .inr fun hnone => hold.2 q hq ((Function.update_of_ne hqp ..).trans hnone)

end Cookies

/-! ## The form of a session -/

/-- A null pointer, or one to the record of a chat. -/
def ChatPtr (store : Store PrivRecord) (h : Handle) : Prop :=
  h = 0 ∨ ∃ exchange name inst, store.record h = some (.chatconnpriv exchange name inst) ∧
    name < store.next

/-- A null pointer, or one to the record of a direct connection. -/
def IntdataPtr (store : Store PrivRecord) (h : Handle) : Prop :=
  h = 0 ∨ ∃ cookie sn ip, store.record h = some (.intdata cookie sn ip)

namespace PrivSession

structure Formed (s : PrivSession) : Prop where
  listed : WellListed s.sess
  store : s.store.Formed
  priv : ∀ c, ChatPtr s.store (s.priv c)
  internal : ∀ c, IntdataPtr s.store (s.internal c)
  refines : ∃ m, s.cookies.Refines m
  structs : ∀ p, s.cookies.struct p ≠ none → p < s.store.next

theorem formed_init (flags : UInt32) (wild : Handle → Cookie) : (init flags wild).Formed where
  listed := ⟨List.nodup_nil, fun _ hc => absurd hc List.not_mem_nil,
    fun _ hc => absurd hc List.not_mem_nil, Nat.one_pos⟩
  store := .empty
  priv := fun _ => .inl rfl
  internal := fun _ => .inl rfl
  refines := ⟨_, Cookies.refines_init⟩
  structs := fun _ hp => absurd rfl hp

section Formed

variable {s t : PrivSession}

theorem Formed.setSess (h : s.Formed) {sess : AimSession} (hsess : WellListed sess) :
    (s.setSess sess).Formed :=
  ⟨hsess, h.store, h.priv, h.internal, h.refines, h.structs⟩

theorem Formed.setStore (h : s.Formed) {store : Store PrivRecord} (hstore : store.Formed)
    (hnext : s.store.next ≤ store.next)
    (hrec : ∀ h, s.store.record h ≠ none → store.record h = s.store.record h) :
    ({ s with store := store } : PrivSession).Formed := by
  have hkeep {h : Handle} {r : PrivRecord} (hr : s.store.record h = some r) :
      store.record h = some r := by
    rw [hrec h (hr ▸ Option.some_ne_none r), hr]
  refine ⟨h.listed, hstore, fun c => ?_, fun c => ?_, h.refines, fun p hp => ?_⟩
  · rcases h.priv c with hzero | ⟨exchange, name, inst, hr, hlt⟩
    · exact .inl hzero
    · exact .inr ⟨exchange, name, inst, hkeep hr, Nat.lt_of_lt_of_le hlt hnext⟩
  · rcases h.internal c with hzero | ⟨cookie, sn, ip, hr⟩
    · exact .inl hzero
    · exact .inr ⟨cookie, sn, ip, hkeep hr⟩
  · exact Nat.lt_of_lt_of_le (h.structs p hp) hnext

theorem Formed.alloc (h : s.Formed) (r : PrivRecord) :
    ({ s with store := (s.store.alloc r).2 } : PrivSession).Formed :=
  h.setStore (h.store.alloc r) (Nat.le_succ _) fun _ hr =>
    Store.alloc_record_of_ne (Nat.ne_of_lt (h.store.lt_next hr))

theorem Formed.touch (h : s.Formed) (k : Handle) :
    ({ s with store := s.store.touch k } : PrivSession).Formed :=
  h.setStore (h.store.touch k) (by rw [Store.touch_next]) fun _ _ => by rw [Store.touch_record]

theorem Formed.free (h : s.Formed) {k : Handle} (hk : k < s.store.next) :
    ({ s with store := s.store.free k } : PrivSession).Formed :=
  h.setStore (h.store.free hk) (by rw [Store.free_next]) fun _ _ => by rw [Store.free_record]

theorem Formed.priv_lt (h : s.Formed) (c : ConnPtr) : s.priv c < s.store.next := by
  rcases h.priv c with hzero | ⟨exchange, name, inst, hr, -⟩
  · exact hzero ▸ h.store.pos
  · exact h.store.lt_next (hr ▸ Option.some_ne_none _)

theorem Formed.internal_lt (h : s.Formed) (c : ConnPtr) : s.internal c < s.store.next := by
  rcases h.internal c with hzero | ⟨cookie, sn, ip, hr⟩
  · exact hzero ▸ h.store.pos
  · exact h.store.lt_next (hr ▸ Option.some_ne_none _)

theorem Formed.setInternal (h : s.Formed) {k : Handle} (hk : IntdataPtr s.store k) (c : ConnPtr) :
    ({ s with internal := Function.update s.internal c k } : PrivSession).Formed := by
  refine ⟨h.listed, h.store, h.priv, fun d => ?_, h.refines, h.structs⟩
  show IntdataPtr s.store (Function.update s.internal c k d)
  rw [Function.update_apply]
  split
  · exact hk
  · exact h.internal d

theorem Formed.setPriv (h : s.Formed) {k : Handle} (hk : ChatPtr s.store k) (c : ConnPtr) :
    ({ s with priv := Function.update s.priv c k } : PrivSession).Formed := by
  refine ⟨h.listed, h.store, fun d => ?_, h.internal, h.refines, h.structs⟩
  show ChatPtr s.store (Function.update s.priv c k d)
  rw [Function.update_apply]
  split
  · exact hk
  · exact h.priv d

theorem Formed.setCookies (h : s.Formed) {cookies : Cookies} {m' : CookieMap}
    (hcookies : cookies.Refines m') (hlt : ∀ p, m'.structs p ≠ none → p < s.store.next) :
    ({ s with cookies := cookies } : PrivSession).Formed :=
  ⟨h.listed, h.store, h.priv, h.internal, ⟨m', hcookies⟩, fun p hp =>
    hlt p (hcookies.struct_eq ▸ hp)⟩

theorem Formed.withConn (h : s.Formed) {fd : Int} {kind : UInt16 × UInt16} {sess : AimSession}
    (hopened : Opened fd kind s.sess sess) {priv internal : Handle} (hpriv : ChatPtr s.store priv)
    (hinternal : IntdataPtr s.store internal) (rend : CookiePtr) :
    (s.withConn sess priv internal rend).Formed := by
  have hsess := (h.setPriv hpriv s.sess.heap).setInternal hinternal s.sess.heap
  exact ⟨hopened.wellListed h.listed, hsess.store, hsess.priv, hsess.internal, hsess.refines,
    hsess.structs⟩

/-! ## Closing and killing -/

/-- Closing this connection drops the cookie of its direct connection. -/
def Directim (s : PrivSession) (c : ConnPtr) : Prop :=
  (s.sess.conn c).kind = (aimConnTypeRendezvous, aimConnSubtypeOftDirectim)

theorem aimConnClose_fd_self (sess : AimSession) (c : ConnPtr) :
    ((Libfaim.aimConnClose sess c).conn c).fd = -1 := by
  rw [Libfaim.aimConnClose, AimSession.setConn_conn, if_pos rfl]

theorem aimConnClose_fd (sess : AimSession) {c d : ConnPtr} (hd : d ≠ c) :
    ((Libfaim.aimConnClose sess c).conn d).fd = (sess.conn d).fd := by
  rw [Libfaim.aimConnClose, AimSession.setConn_conn, if_neg hd]

theorem aimConnClose_kind (sess : AimSession) (c d : ConnPtr) :
    ((Libfaim.aimConnClose sess c).conn d).kind = (sess.conn d).kind := by
  rw [Libfaim.aimConnClose, AimSession.setConn_conn]
  split
  · next hd => rw [hd, AimConn.kind, AimConn.kind]
  · rfl

/-- Closing a connection drops some cookie, which on a direct connection is its own. -/
theorem aimConnClose_cases (c : ConnPtr) (h : s.aimConnClose c = some t) :
    (∃ ck type cookies, dropCookie ck type s.cookies = some cookies ∧
      (s.Directim c → s.internal c = 0) ∧
      t = { s.setSess (Libfaim.aimConnClose s.sess c) with cookies := cookies }) ∨
    (∃ ck sn ip cookies, s.Directim c ∧
      s.store.record (s.internal c) = some (.intdata ck sn ip) ∧
      dropCookie (some ck) aimCookietypeOftim s.cookies = some cookies ∧
      t = { s.setSess (Libfaim.aimConnClose s.sess c) with
        cookies := cookies, store := s.store.touch (s.internal c) }) := by
  have hkind := aimConnClose_kind s.sess c c
  have hother : ∀ subtype, ((s.setSess (Libfaim.aimConnClose s.sess c)).sess.conn c).subtype =
      subtype → subtype ≠ aimConnSubtypeOftDirectim → ¬ s.Directim c := by
    intro subtype hsubtype hne hdirect
    exact hne (hsubtype.symm.trans (congrArg Prod.snd (hkind.trans hdirect)))
  unfold PrivSession.aimConnClose at h
  dsimp only at h
  split at h
  · next htype =>
    unfold aimConnCloseRend at h
    dsimp only at h
    rw [if_neg (not_not.mpr htype)] at h
    split at h
    · next hsubtype =>
      obtain ⟨cookies, hdrop, rfl⟩ := Option.map_eq_some_iff.mp h
      exact .inl ⟨_, _, cookies, hdrop, fun hd => absurd hd (hother _ hsubtype (by decide)), rfl⟩
    split at h
    · next hsubtype =>
      obtain ⟨cookies, hdrop, rfl⟩ := Option.map_eq_some_iff.mp h
      exact .inl ⟨_, _, cookies, hdrop, fun hd => absurd hd (hother _ hsubtype (by decide)), rfl⟩
    split at h
    · next hsubtype =>
      have hdirect : s.Directim c := hkind.symm.trans (Prod.ext htype hsubtype)
      unfold conncloseDirectim at h
      dsimp only at h
      split at h
      · next hzero =>
        obtain ⟨cookies, hdrop, rfl⟩ := Option.map_eq_some_iff.mp h
        exact .inl ⟨_, _, cookies, hdrop, fun _ => hzero, rfl⟩
      · split at h
        · next ck sn ip hrec =>
          obtain ⟨cookies, hdrop, rfl⟩ := Option.map_eq_some_iff.mp h
          exact .inr ⟨ck, sn, ip, cookies, hdirect, hrec, hdrop, rfl⟩
        · cases h
    · next hsubtype =>
      obtain rfl := Option.some.inj h
      refine .inl ⟨none, 0, _, rfl, fun hd => ?_, rfl⟩
      exact absurd (congrArg Prod.snd (hkind.trans hd)) hsubtype
  · next htype =>
    obtain rfl := Option.some.inj h
    refine .inl ⟨none, 0, _, rfl, fun hd => ?_, rfl⟩
    exact absurd (congrArg Prod.fst (hkind.trans hd)) htype

theorem dropped {m : CookieMap} {cookies cookies' : Cookies} {ck : Option Cookie} {type : Int}
    (hm : cookies.Refines m) (hdrop : dropCookie ck type cookies = some cookies') :
    ∃ m', cookies'.Refines m' ∧ m.Shrinks m' ∧
      ∀ ck', ck = some ck' → m'.cached (ck', type) = none := by
  obtain ⟨cookies₁, m', hdrop₁, hm', hshrinks, hnone⟩ := dropCookie_refines hm ck type
  obtain rfl := Option.some.inj (hdrop₁.symm.trans hdrop)
  exact ⟨m', hm', hshrinks, hnone⟩

theorem Formed.aimConnClose_ne_none (h : s.Formed) (c : ConnPtr) : s.aimConnClose c ≠ none := by
  obtain ⟨m, hm⟩ := h.refines
  have hdrop (ck : Option Cookie) (type : Int) (f : Cookies → PrivSession) :
      (dropCookie ck type s.cookies).map f ≠ none := by
    obtain ⟨cookies, -, hdrop, -⟩ := dropCookie_refines hm ck type
    rw [hdrop]
    exact Option.some_ne_none _
  unfold PrivSession.aimConnClose aimConnCloseRend
  dsimp only
  split_ifs
  · exact Option.some_ne_none _
  · exact hdrop _ _ _
  · exact hdrop _ _ _
  · unfold conncloseDirectim
    dsimp only
    split
    · exact hdrop _ _ _
    · next hne =>
      rcases h.internal c with hzero | ⟨ck, sn, ip, hrec⟩
      · exact absurd hzero hne
      · split
        · exact hdrop _ _ _
        · next hother => exact absurd hrec (hother ck sn ip)
  · exact Option.some_ne_none _
  · exact Option.some_ne_none _

theorem Formed.close (h : s.Formed) {c : ConnPtr} (hclose : s.aimConnClose c = some t) :
    t.Formed := by
  have hsess := h.setSess (h.listed.closed c)
  obtain ⟨m, hm⟩ := h.refines
  have hlt {m' : CookieMap} (hshrinks : m.Shrinks m') (p : CookiePtr)
      (hp : m'.structs p ≠ none) : p < s.store.next :=
    h.structs p (hm.struct_eq ▸ hshrinks.2 p hp)
  rcases aimConnClose_cases c hclose with ⟨ck, type, cookies, hdrop, -, rfl⟩ |
    ⟨ck, sn, ip, cookies, -, -, hdrop, rfl⟩
  · obtain ⟨m', hm', hshrinks, -⟩ := dropped hm hdrop
    exact hsess.setCookies hm' (hlt hshrinks)
  · obtain ⟨m', hm', hshrinks, -⟩ := dropped hm hdrop
    exact (hsess.setCookies hm' (hlt hshrinks)).touch _

/-- Killing this connection frees what `internal` points to. -/
def FreesInternal (s : PrivSession) (c : ConnPtr) : Prop :=
  (s.sess.conn c).type = aimConnTypeRendezvous ∧
    ((s.sess.conn c).subtype = aimConnSubtypeOftSendfile ∨
      (s.sess.conn c).subtype = aimConnSubtypeOftGetfile ∨
      (s.sess.conn c).subtype = aimConnSubtypeOftDirectim)

instance (s : PrivSession) (c : ConnPtr) : Decidable (s.FreesInternal c) :=
  inferInstanceAs (Decidable (_ ∧ _))

theorem aimConnKillRend_eq (s : PrivSession) {c : ConnPtr}
    (htype : (s.sess.conn c).type = aimConnTypeRendezvous) :
    s.aimConnKillRend c = if s.FreesInternal c then s.connkillInternal c else s := by
  unfold aimConnKillRend FreesInternal
  dsimp only
  rw [if_neg (not_not.mpr htype)]
  split_ifs <;> simp_all

/-- What the records of a connection are, after it has been killed. -/
theorem Formed.connkillRecords (h : s.Formed) (c : ConnPtr) :
    ∃ store, s.connkillRecords c = some { s with store := store } ∧
      ({ s with store := store } : PrivSession).Formed ∧ store.record = s.store.record ∧
      (s.priv c = 0 →
        store = if s.FreesInternal c then s.store.free (s.internal c) else s.store) := by
  have hpriv := h.free (h.priv_lt c)
  have hrec : (s.store.free (s.priv c)).record = s.store.record := Store.free_record
  have hzero (hz : s.priv c = 0) : s.store.free (s.priv c) = s.store := by rw [hz, Store.free_zero]
  unfold PrivSession.connkillRecords
  dsimp only
  split
  · next htype =>
    rw [aimConnKillRend_eq _ htype]
    split
    · next hfrees =>
      refine ⟨_, rfl, hpriv.free (hpriv.internal_lt c), ?_, fun hz => ?_⟩
      · exact Store.free_record.trans hrec
      · rw [if_pos (show s.FreesInternal c from hfrees)]
        exact congrArg (fun store => store.free (s.internal c)) (hzero hz)
    · next hfrees =>
      refine ⟨_, rfl, hpriv, hrec, fun hz => ?_⟩
      rw [if_neg (show ¬ s.FreesInternal c from hfrees)]
      exact hzero hz
  · next htype =>
    have hfrees : ¬ s.FreesInternal c := fun hfrees => htype hfrees.1
    rw [if_neg hfrees]
    split
    · unfold aimConnKillChat
      dsimp only
      split
      · next hz =>
        refine ⟨_, rfl, hpriv.free (hpriv.priv_lt c), Store.free_record.trans hrec, fun _ => ?_⟩
        rw [show s.priv c = 0 from hz, Store.free_zero, Store.free_zero]
      · next hz =>
        rcases hpriv.priv c with hpz | ⟨exchange, name, inst, hname, hlt⟩
        · exact absurd hpz hz
        · rw [hname]
          have htouch := hpriv.touch (s.priv c)
          have hlt' : name < (((s.store.free (s.priv c)).touch (s.priv c))).next := by
            rwa [Store.touch_next]
          have hname' := htouch.free hlt'
          have hfree := hname'.free (hname'.priv_lt c)
          refine ⟨_, rfl, hfree, ?_, fun hpz => absurd hpz hz⟩
          rw [Store.free_record, Store.free_record, Store.touch_record, hrec]
    · exact ⟨_, rfl, hpriv, hrec, hzero⟩

theorem connkillClose_cases {c : ConnPtr} (h : s.connkillClose c = some t) :
    ∃ sess, SameConns s.sess sess ∧ (((s.sess.conn c).fd = -1 ∧ t = s.setSess sess) ∨
      ((s.sess.conn c).fd ≠ -1 ∧ (s.setSess sess).aimConnClose c = some t)) := by
  unfold connkillClose at h
  dsimp only at h
  refine ⟨aimTxCleanqueue (aimRxqueueCleanbyconn s.sess c) c, ?_, ?_⟩
  · exact ⟨rfl, Nat.le_refl _, fun _ => rfl, fun _ => rfl⟩
  · split at h
    · next hfd => exact .inr ⟨hfd, h⟩
    · next hfd => exact .inl ⟨not_not.mp hfd, (Option.some.inj h).symm⟩

theorem Formed.connkillReal (h : s.Formed) (c : ConnPtr) :
    ∃ t, s.connkillReal c = some t ∧ t.Formed := by
  have hclean : (s.setSess (aimTxCleanqueue (aimRxqueueCleanbyconn s.sess c) c)).Formed :=
    h.setSess ⟨h.listed.nodup, h.listed.lt, h.listed.ne_null, h.listed.heap_pos⟩
  obtain ⟨u, hu, hformed⟩ : ∃ u, s.connkillClose c = some u ∧ u.Formed := by
    unfold connkillClose
    dsimp only
    split
    · obtain ⟨u, hu⟩ := Option.ne_none_iff_exists'.mp (hclean.aimConnClose_ne_none c)
      exact ⟨u, hu, hclean.close hu⟩
    · exact ⟨_, rfl, hclean⟩
  obtain ⟨store, hrecords, hformed', -⟩ := hformed.connkillRecords c
  unfold PrivSession.connkillReal
  rw [hu, Option.bind_some]
  exact ⟨_, hrecords, hformed'⟩

/-- What is not on the list is not killed. -/
theorem killed_cases {c : ConnPtr} (h : s.aimConnKill c = some t) :
    t = s ∨ (c ∈ s.sess.connlist ∧
      (s.setSess { s.sess with connlist := s.sess.connlist.erase c }).connkillReal c = some t) := by
  unfold PrivSession.aimConnKill at h
  split at h
  · exact .inl (Option.some.inj h).symm
  · next hc => exact .inr ⟨not_not.mp (not_or.mp hc).2, h⟩

theorem Formed.aimConnKill (h : s.Formed) (c : ConnPtr) :
    ∃ t, s.aimConnKill c = some t ∧ t.Formed := by
  unfold PrivSession.aimConnKill
  split
  · exact ⟨s, rfl, h⟩
  · exact Formed.connkillReal (h.setSess (h.listed.sublist List.erase_sublist)) c

theorem Formed.aimConnrstLoop (h : s.Formed) (l : List ConnPtr) :
    ∃ t, PrivSession.aimConnrstLoop l s = some t ∧ t.Formed := by
  induction l generalizing s with
  | nil => exact ⟨s, rfl, h⟩
  | cons cur next ih =>
    obtain ⟨u, hu⟩ := Option.ne_none_iff_exists'.mp (h.aimConnClose_ne_none cur)
    obtain ⟨v, hv, hformed⟩ := (h.close hu).connkillReal cur
    obtain ⟨t, ht, hformed'⟩ := ih hformed
    refine ⟨t, ?_, hformed'⟩
    simp only [PrivSession.aimConnrstLoop, Option.bind_eq_bind, hu, Option.bind_some, hv, ht]

theorem Formed.aimLogoff (h : s.Formed) : ∃ t, s.aimLogoff = some t ∧ t.Formed := by
  obtain ⟨u, hu, hformed⟩ := h.aimConnrstLoop s.sess.connlist
  refine ⟨_, ?_, hformed.setSess (hformed.listed.sublist (List.nil_sublist _))⟩
  rw [PrivSession.aimLogoff, aimConnrst, hu, Option.map_some]

end Formed

end PrivSession

end Libfaim
