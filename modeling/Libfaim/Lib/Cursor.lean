import Libfaim.Lib.Loop

/-!
# Loops that read to the end of an input

A loop of this kind is left when nothing is left of its input, and a pass reads some of what is
left. Where every pass does (`Reads`), the loop terminates and every position of the input falls to
one pass (`Reads.exists_pass`). Where a pass that finds a single item cannot read it
(`ReadsPairs`), the loop terminates exactly when it never comes to its head with a single item left
(`ReadsPairs.terminates_iff`).
-/

namespace Loop

variable {σ ρ : Type*} {body : σ → Pass σ ρ} {left : σ → Nat}

theorem Reach.trans {s t u : σ} (h : Reach body s t) (h' : Reach body t u) : Reach body s u := by
  induction h' with
  | refl => exact h
  | tail _ hb ih => exact ih.tail hb

theorem Reach.head {s t u : σ} (hb : body s = .again t) (h : Reach body t u) : Reach body s u :=
  (Reach.refl.tail hb).trans h

/-- What the loop comes to is where it is entered, or lies behind the first pass. -/
theorem Reach.eq_or_head {s t : σ} (h : Reach body s t) :
    t = s ∨ ∃ u, body s = .again u ∧ Reach body u t := by
  induction h with
  | refl => exact .inl rfl
  | tail _ hb ih =>
    obtain rfl | ⟨u, hu, hreach⟩ := ih
    · exact .inr ⟨_, hb, .refl⟩
    · exact .inr ⟨u, hu, hreach.tail hb⟩

theorem Reach.inv {P : σ → Prop} (hagain : ∀ s t, P s → body s = .again t → P t) {s t : σ}
    (h : Reach body s t) (hs : P s) : P t := by
  induction h with
  | refl => exact hs
  | tail _ hb ih => exact hagain _ _ ih hb

/-- A loop that has come to `t` ends as one entered in `t`. -/
theorem Reach.run {s t : σ} (h : Reach body s t) {fuel : Nat} {r : ρ}
    (hr : Loop.run body fuel s = some r) : ∃ fuel, Loop.run body fuel t = some r := by
  induction h with
  | refl => exact ⟨fuel, hr⟩
  | tail _ hb ih =>
    obtain ⟨fuel', hr'⟩ := ih
    cases fuel' with
    | zero => simp [Loop.run] at hr'
    | succ fuel' => exact ⟨fuel', by rwa [run_again hb] at hr'⟩

theorem Reach.terminates_iff {s t : σ} (h : Reach body s t) :
    Terminates body s ↔ Terminates body t := by
  induction h with
  | refl => rfl
  | tail _ hb ih => rw [ih, terminates_again hb]

/-- `n` passes lead from `s` to `t`. -/
inductive Passes (body : σ → Pass σ ρ) (s : σ) : Nat → σ → Prop where
  | zero : Passes body s 0 s
  | succ {n : Nat} {t u : σ} : Passes body s n t → body t = .again u → Passes body s (n + 1) u

/-- Every pass that returns to the head has read some of what is left. The loop is left when nothing
is, and it may be left before. -/
structure Consumes (body : σ → Pass σ ρ) (left : σ → Nat) : Prop where
  leave : ∀ s, left s = 0 → ∃ r, body s = .leave r
  again_lt : ∀ s t, body s = .again t → left t < left s
  not_stuck : ∀ s, body s ≠ .stuck

namespace Consumes

/-- Every pass leaves the loop or reads some of what is left. -/
theorem of_pass (hleave : ∀ s, left s = 0 → ∃ r, body s = .leave r)
    (hpass : ∀ s, (∃ r, body s = .leave r) ∨ ∃ t, body s = .again t ∧ left t < left s) :
    Consumes body left where
  leave := hleave
  again_lt := by
    intro s t hb
    obtain ⟨r, hr⟩ | ⟨u, hu, hlt⟩ := hpass s
    · rw [hb] at hr
      cases hr
    · rw [hb] at hu
      cases hu
      exact hlt
  not_stuck := by
    intro s hb
    obtain ⟨r, hr⟩ | ⟨u, hu, -⟩ := hpass s
    · rw [hb] at hr
      cases hr
    · rw [hb] at hu
      cases hu

variable (h : Consumes body left)

include h

/-- As many passes as there is input left, and one more, are enough. -/
theorem run (s : σ) : ∃ r, Loop.run body (left s + 1) s = some r :=
  run_of_measure (fun _ => True) left (fun s t _ hb => ⟨trivial, h.again_lt s t hb⟩)
    (fun s _ => h.not_stuck s) trivial (Nat.lt_succ_self _)

theorem terminates (s : σ) : Terminates body s := by
  obtain ⟨r, hr⟩ := h.run s
  exact ⟨_, r, hr⟩

/-- Each pass has taken at least one item. -/
theorem passes_le {s t : σ} {n : Nat} (hp : Passes body s n t) : n + left t ≤ left s := by
  induction hp with
  | zero => exact Nat.le_of_eq (Nat.zero_add _)
  | succ _ hb ih =>
    have hlt := h.again_lt _ _ hb
    omega

/-- A pass that finds an item left is one of at most as many as there were items. -/
theorem passes_lt {s t : σ} {n : Nat} (hp : Passes body s n t) (hpos : 0 < left t) :
    n < left s := by
  have hle := h.passes_le hp
  omega

end Consumes

/-- Every pass reads some of what is left, and the loop is left when nothing is. -/
structure Reads (body : σ → Pass σ ρ) (left : σ → Nat) : Prop where
  leave : ∀ s, left s = 0 → ∃ r, body s = .leave r
  again : ∀ s, 0 < left s → ∃ t, body s = .again t ∧ left t < left s

namespace Reads

variable (h : Reads body left)

include h

theorem consumes : Consumes body left := by
  refine .of_pass h.leave fun s => ?_
  rcases Nat.eq_zero_or_pos (left s) with hz | hpos
  · exact .inl (h.leave s hz)
  · exact .inr (h.again s hpos)

theorem again_lt {s t : σ} (hb : body s = .again t) : left t < left s :=
  h.consumes.again_lt s t hb

/-- As many passes as there is input left, and one more, are enough. -/
theorem run (s : σ) : ∃ r, Loop.run body (left s + 1) s = some r := h.consumes.run s

theorem terminates (s : σ) : Terminates body s := h.consumes.terminates s

/-- The item with `n` items from it to the end of the input is read by one of the passes. -/
theorem exists_pass {s : σ} {n : Nat} (hpos : 0 < n) (hn : n ≤ left s) :
    ∃ t u, Reach body s t ∧ body t = .again u ∧ left u < n ∧ n ≤ left t := by
  induction hl : left s using Nat.strongRecOn generalizing s with
  | _ l ih =>
    obtain ⟨t, hb, hlt⟩ := h.again s (by omega)
    by_cases hle : n ≤ left t
    · obtain ⟨t', u, hreach, hb', hu, ht'⟩ := ih (left t) (hl ▸ hlt) hle rfl
      exact ⟨t', u, hreach.head hb, hb', hu, ht'⟩
    · exact ⟨s, t, .refl, hb, by omega, hn⟩

end Reads

/-- As `Reads`, but a pass that finds a single item does not read it. -/
structure ReadsPairs (body : σ → Pass σ ρ) (left : σ → Nat) : Prop where
  leave : ∀ s, left s = 0 → ∃ r, body s = .leave r
  again : ∀ s, 1 < left s → ∃ t, body s = .again t ∧ left t < left s
  single : ∀ s, left s = 1 → ∃ t, body s = .again t ∧ left t = 1

/-- Entered in `s`, the loop terminates, and every pass reads some of the input. -/
def Progresses (body : σ → Pass σ ρ) (left : σ → Nat) (s : σ) : Prop :=
  Terminates body s ∧ ∀ t u, Reach body s t → body t = .again u → left u < left t

theorem Reads.progresses (h : Reads body left) (s : σ) : Progresses body left s :=
  ⟨h.terminates s, fun _ _ _ hb => h.again_lt hb⟩

/-- The loop comes to its head with a single item left. -/
def Strays (body : σ → Pass σ ρ) (left : σ → Nat) (s : σ) : Prop :=
  ∃ t, Reach body s t ∧ left t = 1

namespace ReadsPairs

variable (h : ReadsPairs body left)

include h

theorem again_lt {s t : σ} (hs : left s ≠ 1) (hb : body s = .again t) : left t < left s := by
  rcases Nat.eq_zero_or_pos (left s) with hz | hpos
  · obtain ⟨r, hr⟩ := h.leave s hz
    rw [hb] at hr
    cases hr
  · obtain ⟨u, hu, hlt⟩ := h.again s (by omega)
    rw [hb] at hu
    cases hu
    exact hlt

theorem not_stuck (s : σ) : body s ≠ .stuck := by
  intro hb
  obtain hz | hone | hmore : left s = 0 ∨ left s = 1 ∨ 1 < left s := by omega
  · obtain ⟨r, hr⟩ := h.leave s hz
    rw [hb] at hr
    cases hr
  · obtain ⟨t, ht, -⟩ := h.single s hone
    rw [hb] at ht
    cases ht
  · obtain ⟨t, ht, -⟩ := h.again s hmore
    rw [hb] at ht
    cases ht

/-- A loop that has come to a single item goes on for ever. -/
theorem not_terminates {s : σ} (hs : left s = 1) : ¬ Terminates body s :=
  not_terminates_of_forever (P := fun s => left s = 1) h.single hs

theorem terminates_iff (s : σ) : Terminates body s ↔ ¬ Strays body left s := by
  constructor
  · rintro hterm ⟨t, hreach, ht⟩
    exact h.not_terminates ht (hreach.terminates_iff.mp hterm)
  · intro hstray
    -- the states the loop comes to are an invariant, and none of them has a single item left
    obtain ⟨r, hr⟩ := run_of_measure (Reach body s) left
      (fun t u ht hb => ⟨ht.tail hb, h.again_lt (fun hone => hstray ⟨t, ht, hone⟩) hb⟩)
      (fun t _ => h.not_stuck t) .refl (Nat.lt_succ_self _)
    exact ⟨_, r, hr⟩

theorem progresses_iff (s : σ) : Progresses body left s ↔ ¬ Strays body left s := by
  refine ⟨fun hp => (h.terminates_iff s).mp hp.1,
    fun hstray => ⟨(h.terminates_iff s).mpr hstray, ?_⟩⟩
  intro t u ht hb
  exact h.again_lt (fun hone => hstray ⟨t, ht, hone⟩) hb

end ReadsPairs

end Loop
