import Mathlib.Tactic.Common

/-!
# Triples for computations on a state that may have no result

`Triple P x Q` is partial correctness: started in a state with `P`, the computation `x` either has
no result or ends with a value and a state that satisfy `Q`. There is one rule for each way to
build a computation. `Keeps P x` says that `x` has `P` as an invariant.

`Defined P x` says that `x`, started in a state with `P`, has a result. Its rule for `>>=` takes
what the second computation starts from from a triple of the first.
-/

namespace Hoare

universe u

variable {σ α β : Type u}

def Triple (P : σ → Prop) (x : StateT σ Option α) (Q : α → σ → Prop) : Prop :=
  ∀ s a t, P s → x s = some (a, t) → Q a t

/-- `P` is an invariant of the computation. -/
def Keeps (P : σ → Prop) (x : StateT σ Option α) : Prop := Triple P x fun _ => P

variable {P P' : σ → Prop} {x y : StateT σ Option α} {Q Q' : α → σ → Prop}

theorem Triple.pure {a : α} (h : ∀ s, P s → Q a s) :
    Triple P (Pure.pure a : StateT σ Option α) Q := by
  intro s b t hP hx
  obtain ⟨rfl, rfl⟩ := Prod.mk.inj (Option.some.inj hx)
  exact h s hP

theorem Triple.bind {R : α → σ → Prop} {S : β → σ → Prop} {f : α → StateT σ Option β}
    (hx : Triple P x R) (hf : ∀ a, Triple (R a) (f a) S) : Triple P (x >>= f) S := by
  intro s b u hP hbind
  obtain ⟨⟨a, t⟩, ht, hu⟩ := Option.bind_eq_some_iff.mp hbind
  exact hf a t b u (hx s a t hP ht) hu

theorem Triple.conseq (h : Triple P x Q) (hP : ∀ s, P' s → P s) (hQ : ∀ a s, Q a s → Q' a s) :
    Triple P' x Q' := by
  intro s a t hs hx
  exact hQ a t (h s a t (hP s hs) hx)

theorem Triple.ite {c : Prop} [Decidable c] (ht : c → Triple P x Q) (he : ¬ c → Triple P y Q) :
    Triple P (if c then x else y) Q := by
  by_cases hc : c
  · rw [if_pos hc]
    exact ht hc
  · rw [if_neg hc]
    exact he hc

/-- A computation without a result satisfies every triple. -/
theorem Triple.none (h : ∀ s, x s = Option.none) : Triple P x Q := by
  intro s a t _ hx
  rw [h s] at hx
  cases hx

/-- A triple may be proved for one starting state at a time. -/
theorem Triple.forall_start (h : ∀ s, P s → Triple (· = s) x Q) : Triple P x Q := by
  intro s a t hP hx
  exact h s hP s a t rfl hx

theorem Triple.and {Q₁ Q₂ : α → σ → Prop} (h₁ : Triple P x Q₁) (h₂ : Triple P x Q₂) :
    Triple P x fun a s => Q₁ a s ∧ Q₂ a s := by
  intro s a t hP hx
  exact ⟨h₁ s a t hP hx, h₂ s a t hP hx⟩

theorem Keeps.pure {a : α} : Keeps P (Pure.pure a : StateT σ Option α) :=
  Triple.pure fun _ h => h

theorem Keeps.bind {f : α → StateT σ Option β} (hx : Keeps P x) (hf : ∀ a, Keeps P (f a)) :
    Keeps P (x >>= f) :=
  Triple.bind hx hf

theorem Keeps.ite {c : Prop} [Decidable c] (ht : Keeps P x) (he : Keeps P y) :
    Keeps P (if c then x else y) :=
  Triple.ite (fun _ => ht) fun _ => he

/-! ## Having a result -/

theorem bind_eq_none {s : σ} {f : α → StateT σ Option β} (h : x s = none) :
    (x >>= f) s = none :=
  congrArg (Option.bind · _) h

theorem bind_eq_of_some {s t : σ} {a : α} {f : α → StateT σ Option β} (h : x s = some (a, t)) :
    (x >>= f) s = f a t :=
  congrArg (Option.bind · _) h

/-- Started in a state with `P`, the computation has a result. -/
def Defined (P : σ → Prop) (x : StateT σ Option α) : Prop := ∀ s, P s → x s ≠ none

theorem Defined.pure {a : α} : Defined P (Pure.pure a : StateT σ Option α) :=
  fun _ _ h => nomatch h

theorem Defined.bind {R : α → σ → Prop} {f : α → StateT σ Option β} (hx : Defined P x)
    (hspec : Triple P x R) (hf : ∀ a, Defined (R a) (f a)) : Defined P (x >>= f) := by
  intro s hP hbind
  cases hs : x s with
  | none => exact hx s hP hs
  | some res =>
    rw [bind_eq_of_some hs] at hbind
    exact hf res.1 res.2 (hspec s res.1 res.2 hP hs) hbind

theorem Defined.ite {c : Prop} [Decidable c] (ht : c → Defined P x) (he : ¬ c → Defined P y) :
    Defined P (if c then x else y) := by
  by_cases hc : c
  · rw [if_pos hc]
    exact ht hc
  · rw [if_neg hc]
    exact he hc

theorem Defined.conseq (h : Defined P x) (hP : ∀ s, P' s → P s) : Defined P' x :=
  fun s hs => h s (hP s hs)

/-- That there is a result may be proved for one starting state at a time. -/
theorem Defined.forall_start (h : ∀ s, P s → Defined (· = s) x) : Defined P x :=
  fun s hP => h s hP s rfl

end Hoare
