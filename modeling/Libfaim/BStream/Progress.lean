import Libfaim.BStream.Rules

/-!
# Readers move forward

A reader leaves the bytes of the stream alone and moves the offset forward, over bytes that are
there (`Onward`, `Forward`). With enough bytes left it moves past at least one (`Advances`). Both
go through the binds of a program.
-/

namespace Libfaim

variable {α β : Type}

/-- `bs'` is `bs` after some of the bytes left have been read. -/
structure Onward (bs bs' : AimBstream) : Prop where
  data_eq : bs'.data = bs.data
  offset_le : bs.offset ≤ bs'.offset
  le_left : bs'.offset ≤ bs.offset + aimBstreamEmpty bs

namespace Onward

variable {bs bs' bs'' : AimBstream}

theorem refl (bs : AimBstream) : Onward bs bs := ⟨rfl, Nat.le_refl _, Nat.le_add_right _ _⟩

theorem len_eq (h : Onward bs bs') : bs'.len = bs.len := by
  unfold AimBstream.len
  rw [h.data_eq]

theorem trans (h : Onward bs bs') (h' : Onward bs' bs'') : Onward bs bs'' := by
  have hlen := h.len_eq
  have hle := h.offset_le
  have hle' := h'.offset_le
  have hleft := h.le_left
  have hleft' := h'.le_left
  refine ⟨h'.data_eq.trans h.data_eq, Nat.le_trans hle hle', ?_⟩
  unfold aimBstreamEmpty at *
  omega

theorem skip {n : Nat} (h : n ≤ aimBstreamEmpty bs) : Onward bs (bs.skip n) :=
  ⟨rfl, Nat.le_add_right _ _, Nat.add_le_add_left h _⟩

/-- What has been read and what is left make up what was left. -/
theorem empty_eq (h : Onward bs bs') :
    bs'.offset + aimBstreamEmpty bs' = bs.offset + aimBstreamEmpty bs := by
  have hlen := h.len_eq
  have hle := h.offset_le
  have hleft := h.le_left
  unfold aimBstreamEmpty at *
  omega

theorem empty_lt (h : Onward bs bs') (hlt : bs.offset < bs'.offset) :
    aimBstreamEmpty bs' < aimBstreamEmpty bs := by
  have heq := h.empty_eq
  omega

end Onward

/-- The reader moves forward, if at all. -/
def Forward (m : StateM AimBstream α) : Prop := ∀ bs, Onward bs (m bs).2

/-- With `n` bytes left the reader moves past at least one. -/
def Advances (n : Nat) (m : StateM AimBstream α) : Prop :=
  ∀ bs, n ≤ aimBstreamEmpty bs → bs.offset < (m bs).2.offset

namespace Forward

theorem pure (x : α) : Forward (pure x) := fun bs => Onward.refl bs

theorem bind {m : StateM AimBstream α} {k : α → StateM AimBstream β} (hm : Forward m)
    (hk : ∀ x, Forward (k x)) : Forward (m >>= k) :=
  fun bs => (hm bs).trans (hk _ _)

end Forward

theorem Advances.bind {n : Nat} {m : StateM AimBstream α} {k : α → StateM AimBstream β}
    (hm : Advances n m) (hk : ∀ x, Forward (k x)) : Advances n (m >>= k) :=
  fun bs h => Nat.lt_of_lt_of_le (hm bs h) (hk _ _).offset_le

theorem forward_aimbsGet (n : Nat) (zero : α) (get : List UInt8 → α) :
    Forward (aimbsGet n zero get) := by
  intro bs
  unfold aimbsGet
  by_cases h : aimBstreamEmpty bs < n
  · rw [if_pos h]
    exact Onward.refl bs
  · rw [if_neg h]
    exact Onward.skip (Nat.not_lt.mp h)

theorem advances_aimbsGet {n : Nat} (hn : 0 < n) (zero : α) (get : List UInt8 → α) :
    Advances n (aimbsGet n zero get) := by
  intro bs h
  unfold aimbsGet
  rw [if_neg (Nat.not_lt.mpr h)]
  exact Nat.lt_add_of_pos_right hn

/-- A reader of a fixed width moves past no more than that. -/
theorem aimbsGet_offset_le (n : Nat) (zero : α) (get : List UInt8 → α) (bs : AimBstream) :
    (aimbsGet n zero get bs).2.offset ≤ bs.offset + n := by
  unfold aimbsGet
  by_cases h : aimBstreamEmpty bs < n
  · rw [if_pos h]
    exact Nat.le_add_right _ _
  · rw [if_neg h]
    exact Nat.le_refl _

theorem forward_aimbsGet8 : Forward aimbsGet8 := forward_aimbsGet _ _ _
theorem forward_aimbsGet16 : Forward aimbsGet16 := forward_aimbsGet _ _ _
theorem forward_aimbsGet32 : Forward aimbsGet32 := forward_aimbsGet _ _ _

theorem advances_aimbsGet8 : Advances 1 aimbsGet8 := advances_aimbsGet Nat.one_pos _ _
theorem advances_aimbsGet16 : Advances 2 aimbsGet16 := advances_aimbsGet Nat.two_pos _ _

theorem forward_aimbsGetrawbuf (n : Nat) : Forward (aimbsGetrawbuf n) := by
  intro bs
  unfold aimbsGetrawbuf
  by_cases h : aimBstreamEmpty bs < n
  · rw [if_pos h]
    exact Onward.refl bs
  · rw [if_neg h]
    exact Onward.skip (Nat.not_lt.mp h)

theorem forward_aimbsGetraw (n : Nat) : Forward (aimbsGetraw n) :=
  (forward_aimbsGetrawbuf n).bind fun _ => Forward.pure _

theorem forward_aimbsGetstr (n : Nat) : Forward (aimbsGetstr n) := forward_aimbsGetraw n

theorem forward_aimBstreamAdvance (n : Nat) : Forward (aimBstreamAdvance n) := by
  intro bs
  unfold aimBstreamAdvance
  by_cases h : aimBstreamEmpty bs < n
  · rw [if_pos h]
    exact Onward.refl bs
  · rw [if_neg h]
    exact Onward.skip (Nat.not_lt.mp h)

theorem aimBstreamAdvance_offset_le (n : Nat) (bs : AimBstream) :
    (aimBstreamAdvance n bs).2.offset ≤ bs.offset + n := by
  unfold aimBstreamAdvance
  by_cases h : aimBstreamEmpty bs < n
  · rw [if_pos h]
    exact Nat.le_add_right _ _
  · rw [if_neg h]
    exact Nat.le_refl _

/-- A reader that can fail does not, and moves forward, if at all. -/
def Succeeds (m : StateT AimBstream Option α) : Prop :=
  ∀ bs, ∃ x bs', m bs = some (x, bs') ∧ Onward bs bs'

namespace Succeeds

theorem pure (x : α) : Succeeds (pure x) := fun bs => ⟨x, bs, rfl, Onward.refl bs⟩

theorem lift {m : StateM AimBstream α} (hm : Forward m) : Succeeds (liftM m) :=
  fun bs => ⟨(m bs).1, (m bs).2, rfl, hm bs⟩

theorem get : Succeeds (get : StateT AimBstream Option AimBstream) :=
  fun bs => ⟨bs, bs, rfl, Onward.refl bs⟩

theorem of_eq_some {o : Option α} {x : α} (h : o = some x) :
    Succeeds (liftM o : StateT AimBstream Option α) := by
  subst h
  exact fun bs => ⟨x, bs, rfl, Onward.refl bs⟩

theorem bind {m : StateT AimBstream Option α} {k : α → StateT AimBstream Option β}
    (hm : Succeeds m) (hk : ∀ x, Succeeds (k x)) : Succeeds (m >>= k) := by
  intro bs
  obtain ⟨x, bs', hx, honward⟩ := hm bs
  obtain ⟨y, bs'', hy, honward'⟩ := hk x bs'
  exact ⟨y, bs'', (stateT_bind hx).trans hy, honward.trans honward'⟩

end Succeeds

theorem stateT_bind_eq_some {m : StateT AimBstream Option α}
    {k : α → StateT AimBstream Option β} {bs bs'' : AimBstream} {y : β}
    (h : (m >>= k) bs = some (y, bs'')) :
    ∃ x bs', m bs = some (x, bs') ∧ k x bs' = some (y, bs'') := by
  obtain ⟨⟨x, bs'⟩, hx, hy⟩ := Option.bind_eq_some_iff.mp h
  exact ⟨x, bs', hx, hy⟩

/-- Whenever a reader that can fail does not, it has moved forward, if at all. -/
def Moves (m : StateT AimBstream Option α) : Prop :=
  ∀ bs x bs', m bs = some (x, bs') → Onward bs bs'

namespace Moves

theorem of_succeeds {m : StateT AimBstream Option α} (hm : Succeeds m) : Moves m := by
  intro bs x bs' h
  obtain ⟨x', bs'', heq, honward⟩ := hm bs
  rw [heq] at h
  cases h
  exact honward

theorem pure (x : α) : Moves (pure x) := of_succeeds (.pure x)

theorem lift {m : StateM AimBstream α} (hm : Forward m) : Moves (liftM m) :=
  of_succeeds (.lift hm)

theorem bind {m : StateT AimBstream Option α} {k : α → StateT AimBstream Option β}
    (hm : Moves m) (hk : ∀ x, Moves (k x)) : Moves (m >>= k) := by
  intro bs y bs'' h
  obtain ⟨x, bs', hx, hy⟩ := stateT_bind_eq_some h
  exact (hm bs x bs' hx).trans (hk x bs' y bs'' hy)

/-- A program whose first read moves forward does. -/
theorem bind_lt {n : Nat} {m : StateM AimBstream α} {k : α → StateT AimBstream Option β}
    {bs bs' : AimBstream} {y : β} (hadv : Advances n m) (hk : ∀ x, Moves (k x))
    (h : (liftM m >>= k) bs = some (y, bs')) (hn : n ≤ aimBstreamEmpty bs) :
    bs.offset < bs'.offset :=
  Nat.lt_of_lt_of_le (hadv bs hn) (hk _ _ y bs' h).offset_le

theorem ite {c : Prop} [Decidable c] {m m' : StateT AimBstream Option α} (hm : Moves m)
    (hm' : Moves m') : Moves (if c then m else m') := by
  by_cases hc : c
  · rwa [if_pos hc]
  · rwa [if_neg hc]

end Moves

/-- A reader that finds too few bytes leaves the stream as it is. -/
theorem aimbsGet_short {n : Nat} {zero : α} {get : List UInt8 → α} {bs : AimBstream}
    (h : aimBstreamEmpty bs < n) : aimbsGet n zero get bs = (zero, bs) := by
  unfold aimbsGet
  rw [if_pos h]

theorem aimbsGet_of_le {n : Nat} {zero : α} {get : List UInt8 → α} {bs : AimBstream}
    (h : n ≤ aimBstreamEmpty bs) : aimbsGet n zero get bs = (get bs.rest, bs.skip n) := by
  unfold aimbsGet
  rw [if_neg (Nat.not_lt.mpr h)]

theorem skip_empty (bs : AimBstream) (n : Nat) :
    aimBstreamEmpty (bs.skip n) = aimBstreamEmpty bs - n := by
  unfold aimBstreamEmpty
  rw [AimBstream.skip_len, AimBstream.skip_offset]
  omega

theorem aimbsGetraw_of_le {n : Nat} {bs : AimBstream} (h : n ≤ aimBstreamEmpty bs) :
    aimbsGetraw n bs = (some (bs.rest.take n), bs.skip n) := by
  have hlen : ¬ (bs.rest.take n).length < n := by
    rw [List.length_take, bs.length_rest]
    omega
  simp only [aimbsGetraw, stateM_bind, aimbsGetrawbuf, if_neg (Nat.not_lt.mpr h), stateM_pure,
    if_neg hlen]

theorem aimbsGetraw_short {n : Nat} {bs : AimBstream} (h : aimBstreamEmpty bs < n) :
    aimbsGetraw n bs = (none, bs) := by
  have hpos : ([] : List UInt8).length < n := Nat.zero_lt_of_lt h
  simp only [aimbsGetraw, stateM_bind, aimbsGetrawbuf, if_pos h, stateM_pure, if_pos hpos]

/-- What `aimbs_getraw` gives was next in the stream. -/
theorem aimbsGetraw_some {bs : AimBstream} {n : Nat} {v : List UInt8}
    (h : (aimbsGetraw n bs).1 = some v) : v.length = n ∧ v = bs.rest.take n := by
  by_cases hle : n ≤ aimBstreamEmpty bs
  · rw [aimbsGetraw_of_le hle] at h
    obtain rfl := Option.some.inj h
    rw [List.length_take, bs.length_rest, Nat.min_eq_left hle]
    exact ⟨rfl, rfl⟩
  · rw [aimbsGetraw_short (Nat.not_le.mp hle)] at h
    cases h

theorem aimbsGet16_single {bs : AimBstream} (h : aimBstreamEmpty bs = 1) :
    aimbsGet16 bs = (0, bs) := aimbsGet_short (by omega)

theorem aimbsGet16_empty {bs : AimBstream} (h : 1 < aimBstreamEmpty bs) :
    aimBstreamEmpty (aimbsGet16 bs).2 + 2 = aimBstreamEmpty bs := by
  unfold aimbsGet16 aimbsGet
  rw [if_neg (Nat.not_lt.mpr h)]
  unfold aimBstreamEmpty at *
  rw [AimBstream.skip_len, AimBstream.skip_offset]
  omega

theorem aimbsGetraw_zero (bs : AimBstream) : aimbsGetraw 0 bs = (some [], bs) := rfl

end Libfaim
