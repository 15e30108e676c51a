import Mathlib.Algebra.BigOperators.Group.List.Basic
import Mathlib.Tactic.Common

/-!
# Loops that need not terminate

A loop is given by what one pass through its body does (`Pass`). `run body fuel s` makes at most
`fuel` passes; a loop terminates (`Terminates`) when some amount of fuel lets it leave.

The rules: an invariant of the passes holds of the result (`run_inv`); a measure that every pass
decreases bounds the number of passes (`run_of_measure`); a set of states the body never leaves
makes the loop run forever (`not_terminates_of_forever`). A loop that takes the next item of its
input in every pass is a fold over the items (`run_items`, `run_items_end`).
-/

namespace Loop

variable {σ ρ : Type*}

/-- What one pass through a loop's body does. -/
inductive Pass (σ ρ : Type*) where
  /-- The loop is left with a result. -/
  | leave (r : ρ)
  /-- Control returns to the head of the loop in a new state. -/
  | again (s : σ)
  /-- The pass itself never returns. -/
  | stuck

/-- The loop with at most `fuel` passes; `none` when it has not left by then. -/
def run (body : σ → Pass σ ρ) : Nat → σ → Option ρ
  | 0, _ => none
  | fuel + 1, s =>
    match body s with
    | .leave r => some r
    | .again t => run body fuel t
    | .stuck => none

/-- Entered in `s`, the loop is left after finitely many passes. -/
def Terminates (body : σ → Pass σ ρ) (s : σ) : Prop :=
  ∃ fuel r, run body fuel s = some r

/-- The states in which the loop, entered in `s`, comes to its head. -/
inductive Reach (body : σ → Pass σ ρ) (s : σ) : σ → Prop where
  | refl : Reach body s s
  | tail {t u : σ} : Reach body s t → body t = .again u → Reach body s u

variable {body : σ → Pass σ ρ}

theorem run_leave {s : σ} {r : ρ} (h : body s = .leave r) (fuel : Nat) :
    run body (fuel + 1) s = some r := by
  simp only [run, h]

theorem run_again {s t : σ} (h : body s = .again t) (fuel : Nat) :
    run body (fuel + 1) s = run body fuel t := by
  simp only [run, h]

/-- An invariant of the passes, and a property it gives every result, hold of the result. -/
theorem run_inv (Inv : σ → Prop) (Post : ρ → Prop)
    (hagain : ∀ s t, Inv s → body s = .again t → Inv t)
    (hleave : ∀ s r, Inv s → body s = .leave r → Post r)
    {fuel : Nat} {s : σ} {r : ρ} (hs : Inv s) (h : run body fuel s = some r) : Post r := by
  induction fuel generalizing s with
  | zero => simp [run] at h
  | succ fuel ih =>
    cases hb : body s with
    | leave r' =>
      rw [run_leave hb, Option.some.injEq] at h
      exact h ▸ hleave s r' hs hb
    | again t =>
      rw [run_again hb] at h
      exact ih (hagain s t hs hb) h
    | stuck => simp [run, hb] at h

/-- A measure that every pass decreases bounds the passes the loop needs. -/
theorem run_of_measure (Inv : σ → Prop) (μ : σ → Nat)
    (hagain : ∀ s t, Inv s → body s = .again t → Inv t ∧ μ t < μ s)
    (hstuck : ∀ s, Inv s → body s ≠ .stuck) {fuel : Nat} {s : σ} (hs : Inv s)
    (hfuel : μ s < fuel) : ∃ r, run body fuel s = some r := by
  induction fuel generalizing s with
  | zero => omega
  | succ fuel ih =>
    cases hb : body s with
    | leave r => exact ⟨r, run_leave hb fuel⟩
    | again t =>
      obtain ⟨ht, hlt⟩ := hagain s t hs hb
      rw [run_again hb]
      exact ih ht (by omega)
    | stuck => exact absurd hb (hstuck s hs)

/-- A loop whose body never leaves a set of states does not terminate from there. -/
theorem not_terminates_of_forever {P : σ → Prop}
    (hP : ∀ s, P s → ∃ t, body s = .again t ∧ P t) {s : σ} (hs : P s) : ¬ Terminates body s := by
  rintro ⟨fuel, r, h⟩
  induction fuel generalizing s with
  | zero => simp [run] at h
  | succ fuel ih =>
    obtain ⟨t, hb, ht⟩ := hP s hs
    rw [run_again hb] at h
    exact ih ht h

section Items

variable {β τ : Type*} (rest : σ → List β) (encode : τ → List β) (step : σ → τ → σ) {l : List τ}

/-- Where the input is the encodings of the items `l` and then `r`, the loop takes one pass for each
item. -/
theorem run_items (hstep : ∀ x ∈ l, ∀ s r, rest s = encode x ++ r →
      body s = .again (step s x) ∧ rest (step s x) = r)
    {s : σ} {r : List β} (h : rest s = l.flatMap encode ++ r) (fuel : Nat) :
    run body (l.length + fuel) s = run body fuel (l.foldl step s) ∧
      rest (l.foldl step s) = r := by
  induction l generalizing s with
  | nil => exact ⟨by rw [List.length_nil, Nat.zero_add, List.foldl_nil], h⟩
  | cons x l ih =>
    rw [List.flatMap_cons, List.append_assoc] at h
    obtain ⟨hagain, hrest⟩ := hstep x List.mem_cons_self s _ h
    have hfuel : (x :: l).length + fuel = l.length + fuel + 1 := by
      rw [List.length_cons]
      omega
    rw [hfuel, run_again hagain, List.foldl_cons]
    exact ih (fun y hy => hstep y (List.mem_cons_of_mem x hy)) hrest

/-- As `run_items`, where the loop is left in front of what follows the items. A pass for each
element of the input, and one more, are enough. -/
theorem run_items_rest {result : σ → ρ} {r : List β} (hne : ∀ x ∈ l, encode x ≠ [])
    (hstep : ∀ x ∈ l, ∀ s r, rest s = encode x ++ r →
      body s = .again (step s x) ∧ rest (step s x) = r)
    (hleave : ∀ s, rest s = r → body s = .leave (result s)) {s : σ}
    (h : rest s = l.flatMap encode ++ r) :
    run body ((rest s).length + 1) s = some (result (l.foldl step s)) ∧
      rest (l.foldl step s) = r := by
  have hle : l.length ≤ (rest s).length := by
    have hpos : ∀ n ∈ l.map fun x => (encode x).length, 1 ≤ n := by
      intro n hn
      obtain ⟨x, hx, rfl⟩ := List.mem_map.mp hn
      exact List.length_pos_iff.mpr (hne x hx)
    have hsum := List.length_le_sum_of_one_le _ hpos
    rw [List.length_map] at hsum
    rw [h, List.length_append, List.length_flatMap]
    exact Nat.le_add_right_of_le hsum
  obtain ⟨fuel, hfuel⟩ := Nat.exists_eq_add_of_le hle
  obtain ⟨hrun, hrest⟩ := run_items rest encode step hstep h (fuel + 1)
  refine ⟨?_, hrest⟩
  rw [hfuel, Nat.add_assoc, hrun, run_leave (hleave _ hrest)]

/-- As `run_items`, where nothing follows the items and the loop is left at the end of its input. -/
theorem run_items_end {result : σ → ρ} (hne : ∀ x ∈ l, encode x ≠ [])
    (hstep : ∀ x ∈ l, ∀ s r, rest s = encode x ++ r →
      body s = .again (step s x) ∧ rest (step s x) = r)
    (hleave : ∀ s, rest s = [] → body s = .leave (result s)) {s : σ}
    (h : rest s = l.flatMap encode) :
    run body ((rest s).length + 1) s = some (result (l.foldl step s)) :=
  (run_items_rest rest encode step hne hstep hleave (h.trans (List.append_nil _).symm)).1

/-- As `run_items_end`, with a relation between the items that have been taken and the state, where
the next state is no function of the item. -/
theorem run_items_inv {Inv : List τ → σ → Prop} {result : σ → ρ}
    (hstep : ∀ x ∈ l, ∀ taken s r, Inv taken s → rest s = encode x ++ r →
      ∃ t, body s = .again t ∧ rest t = r ∧ Inv (taken ++ [x]) t)
    (hleave : ∀ s, rest s = [] → body s = .leave (result s)) {taken : List τ} {s : σ}
    (hs : Inv taken s) (h : rest s = l.flatMap encode) {fuel : Nat} (hfuel : l.length < fuel) :
    ∃ t, run body fuel s = some (result t) ∧ Inv (taken ++ l) t := by
  induction l generalizing taken s fuel with
  | nil =>
    obtain ⟨fuel, rfl⟩ := Nat.exists_eq_add_of_lt hfuel
    refine ⟨s, run_leave (hleave s h) _, ?_⟩
    rwa [List.append_nil]
  | cons x l ih =>
    rw [List.flatMap_cons] at h
    obtain ⟨fuel, rfl⟩ := Nat.exists_eq_add_of_lt hfuel
    obtain ⟨t, hagain, hrest, ht⟩ := hstep x List.mem_cons_self taken s _ hs h
    have hlater := fun y hy => hstep y (List.mem_cons_of_mem x hy)
    have hleft : l.length < (x :: l).length + fuel := Nat.lt_add_right fuel (Nat.lt_succ_self _)
    obtain ⟨u, hrun, hu⟩ := ih hlater ht hrest hleft
    refine ⟨u, (run_again hagain _).trans hrun, ?_⟩
    rwa [List.append_assoc, List.singleton_append] at hu

end Items

/-- One pass neither changes whether the loop terminates nor with what. -/
theorem terminates_again {s t : σ} (h : body s = .again t) :
    Terminates body s ↔ Terminates body t := by
  constructor
  · rintro ⟨fuel, r, hr⟩
    cases fuel with
    | zero => simp [run] at hr
    | succ fuel => exact ⟨fuel, r, by rwa [run_again h] at hr⟩
  · rintro ⟨fuel, r, hr⟩
    exact ⟨fuel + 1, r, by rwa [run_again h]⟩

end Loop
