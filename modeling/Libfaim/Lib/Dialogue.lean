import Mathlib.Data.List.Forall2
import Mathlib.Tactic.Common

/-!
# Dialogues

A party takes one message after the other and gives some answers to each, which may depend on the
messages before (`answers`). A system that serves many parties takes the messages of all of them in
any order, and does other things in between. If each of its steps treats a message of one party as
that party would alone, and the other steps leave the party as it is (`Serves`), then in a whole run
the party gets the answers to its own messages, as if nothing else had happened (`Serves.run`).
-/

namespace Dialogue

variable {σ τ α β ω ε : Type*}

/-- The answers to one message after the other. There is no result where one of them has none. -/
def answers (step : σ → α → Option (σ × List ω)) : σ → List α → Option (σ × List ω)
  | s, [] => some (s, [])
  | s, a :: l => do
    let (t, first) ← step s a
    let (u, later) ← answers step t l
    return (u, first ++ later)

section Answers

variable {step : σ → α → Option (σ × List ω)} {s t u : σ} {a : α} {l l' : List α}
  {first later : List ω}

@[simp] theorem answers_nil : answers step s [] = some (s, []) := rfl

theorem answers_cons (h : step s a = some (t, first)) (h' : answers step t l = some (u, later)) :
    answers step s (a :: l) = some (u, first ++ later) := by
  simp only [answers, h, h', Option.bind_eq_bind, Option.bind_some]
  rfl

theorem answers_cons_inv {os : List ω} (h : answers step s (a :: l) = some (u, os)) :
    ∃ t first later, step s a = some (t, first) ∧ answers step t l = some (u, later) ∧
      os = first ++ later := by
  simp only [answers, Option.bind_eq_bind, Option.bind_eq_some_iff] at h
  obtain ⟨⟨t, first⟩, hfirst, ⟨u', later⟩, hlater, h⟩ := h
  obtain ⟨rfl, rfl⟩ := Prod.mk.inj (Option.some.inj h)
  exact ⟨t, first, later, hfirst, hlater, rfl⟩

/-- Messages that change nothing and have no answers of the kind that `out` picks may be left out. -/
theorem answers_filter (keep : α → Bool) (out : ω → Bool) {os : List ω}
    (hother : ∀ s a t os, keep a = false → step s a = some (t, os) → t = s ∧ os.filter out = [])
    (h : answers step s l = some (t, os)) :
    ∃ os', answers step s (l.filter keep) = some (t, os') ∧ os.filter out = os'.filter out := by
  induction l generalizing s os with
  | nil => exact ⟨os, h, rfl⟩
  | cons a l ih =>
    obtain ⟨t', first, later, hstep, hrest, rfl⟩ := answers_cons_inv h
    obtain ⟨os', hos', heq⟩ := ih hrest
    rw [List.filter_append]
    cases hkeep : keep a with
    | true =>
      rw [List.filter_cons_of_pos hkeep]
      exact ⟨first ++ os', answers_cons hstep hos', by rw [List.filter_append, heq]⟩
    | false =>
      obtain ⟨rfl, hnone⟩ := hother s a t' first hkeep hstep
      rw [List.filter_cons_of_neg (Bool.eq_false_iff.mp hkeep), hnone, List.nil_append]
      exact ⟨os', hos', heq⟩

end Answers

/-- The system `exec` serves a party that `step` answers for. `message` is what a step of the system
brings to the party, `mine` picks the events that are for it, `view` is its state, and `Inv` holds
in between. -/
structure Serves (exec : τ → β → Option (τ × List ε)) (step : σ → α → Option (σ × List ω))
    (message : β → Option α) (mine : ε → Bool) (view : τ → σ) (Inv : τ → Prop)
    (Tells : ε → ω → Prop) : Prop where
  inv : ∀ s b t es, Inv s → exec s b = some (t, es) → Inv t
  own : ∀ s b t es a, Inv s → exec s b = some (t, es) → message b = some a →
    ∃ os, step (view s) a = some (view t, os) ∧ List.Forall₂ Tells (es.filter mine) os
  other : ∀ s b t es, Inv s → exec s b = some (t, es) → message b = none →
    view t = view s ∧ es.filter mine = []

theorem Serves.run {exec : τ → β → Option (τ × List ε)} {step : σ → α → Option (σ × List ω)}
    {message : β → Option α} {mine : ε → Bool} {view : τ → σ} {Inv : τ → Prop}
    {Tells : ε → ω → Prop} (h : Serves exec step message mine view Inv Tells) {s t : τ}
    {bs : List β} {es : List ε} (hs : Inv s) (hrun : answers exec s bs = some (t, es)) :
    Inv t ∧ ∃ os, answers step (view s) (bs.filterMap message) = some (view t, os) ∧
      List.Forall₂ Tells (es.filter mine) os := by
  induction bs generalizing s es with
  | nil =>
    obtain ⟨rfl, rfl⟩ := Prod.mk.inj (Option.some.inj hrun)
    exact ⟨hs, [], rfl, .nil⟩
  | cons b bs ih =>
    obtain ⟨s', first, later, hfirst, hlater, rfl⟩ := answers_cons_inv hrun
    obtain ⟨ht, os, hos, htells⟩ := ih (h.inv _ _ _ _ hs hfirst) hlater
    refine ⟨ht, ?_⟩
    rw [List.filter_append]
    cases hmessage : message b with
    | none =>
      obtain ⟨hview, hnone⟩ := h.other _ _ _ _ hs hfirst hmessage
      rw [List.filterMap_cons_none hmessage, hnone, List.nil_append, ← hview]
      exact ⟨os, hos, htells⟩
    | some a =>
      obtain ⟨firstOs, hstep, hfirstOs⟩ := h.own _ _ _ _ a hs hfirst hmessage
      rw [List.filterMap_cons_some hmessage]
      exact ⟨firstOs ++ os, answers_cons hstep hos, List.rel_append hfirstOs htells⟩

end Dialogue
