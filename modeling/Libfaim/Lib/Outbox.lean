import Mathlib.Data.List.Basic
import Mathlib.Tactic.Common

/-!
# An outbox

What an outbox is for: it accepts items, keeps them waiting, and writes them out. Its life has
three phases; what is waiting when it is closed is lost. Items are written in the order in which
they were accepted, each once, as long as one that goes straight through finds nothing waiting
(`Fifo.step`). A closed outbox writes nothing more (`Step.closed`).
-/

namespace Outbox

inductive Phase where
  | fresh
  | live
  | closed
  deriving DecidableEq, Repr

/-- An outbox with all it has accepted and all it has written so far. -/
@[ext] structure State (α : Type*) where
  phase : Phase
  accepted : List α
  written : List α
  waiting : List α

variable {α : Type*}

inductive Step (o : State α) : State α → Prop where
  | idle : Step o o
  | start : o.phase = .fresh → Step o { o with phase := .live }
  | accept (x : α) : o.phase = .live →
      Step o { o with accepted := o.accepted ++ [x], waiting := o.waiting ++ [x] }
  /-- An item goes straight through. -/
  | through (x : α) : o.phase = .live → o.waiting = [] →
      Step o { o with accepted := o.accepted ++ [x], written := o.written ++ [x] }
  | write : Step o { o with written := o.written ++ o.waiting, waiting := [] }
  | drop : Step o { o with phase := .closed, waiting := [] }

/-- Written, waiting and lost items are the accepted ones, in this order; nothing is lost while
the outbox is live, and nothing waits before and after that. -/
structure Fifo (o : State α) : Prop where
  split : ∃ lost, o.written ++ o.waiting ++ lost = o.accepted ∧ (o.phase = .live → lost = [])
  waiting_eq_nil : o.phase ≠ .live → o.waiting = []
  accepted_eq_nil : o.phase = .fresh → o.accepted = []

variable {o o' : State α}

theorem Fifo.step (h : Fifo o) (hstep : Step o o') : Fifo o' := by
  obtain ⟨⟨lost, hsplit, hlost⟩, hwaiting, hfresh⟩ := h
  cases hstep with
  | idle => exact ⟨⟨lost, hsplit, hlost⟩, hwaiting, hfresh⟩
  | start hphase =>
    have hnil : lost = [] := by
      rw [hfresh hphase] at hsplit
      exact (List.append_eq_nil_iff.mp hsplit).2
    exact ⟨⟨lost, hsplit, fun _ => hnil⟩, fun hne => absurd rfl hne, fun h => nomatch h⟩
  | accept x hphase =>
    obtain rfl := hlost hphase
    refine ⟨⟨[], ?_, fun _ => rfl⟩, fun hne => absurd hphase hne, fun h => ?_⟩
    · rw [List.append_nil] at hsplit ⊢
      rw [← hsplit, List.append_assoc]
    · rw [hphase] at h
      cases h
  | through x hphase hnil =>
    obtain rfl := hlost hphase
    refine ⟨⟨[], ?_, fun _ => rfl⟩, fun hne => absurd hphase hne, fun h => ?_⟩
    · simp only [hnil, List.append_nil] at hsplit ⊢
      rw [hsplit]
    · rw [hphase] at h
      cases h
  | write =>
    refine ⟨⟨lost, ?_, hlost⟩, fun _ => rfl, hfresh⟩
    rw [List.append_nil]
    exact hsplit
  | drop =>
    refine ⟨⟨o.waiting ++ lost, ?_, fun h => nomatch h⟩, fun _ => rfl, fun h => nomatch h⟩
    rw [List.append_nil, ← List.append_assoc]
    exact hsplit

theorem Fifo.written_isPrefix (h : Fifo o) : o.written <+: o.accepted := by
  obtain ⟨lost, hsplit, -⟩ := h.split
  exact ⟨o.waiting ++ lost, by rw [← List.append_assoc, hsplit]⟩

theorem Fifo.written_append_waiting (h : Fifo o) (hlive : o.phase = .live) :
    o.written ++ o.waiting = o.accepted := by
  obtain ⟨lost, hsplit, hlost⟩ := h.split
  rw [hlost hlive, List.append_nil] at hsplit
  exact hsplit

theorem Step.closed (h : Step o o') (hphase : o.phase = .closed) (hwaiting : o.waiting = []) :
    o'.phase = .closed ∧ o'.waiting = [] ∧ o'.written = o.written := by
  cases h with
  | idle => exact ⟨hphase, hwaiting, rfl⟩
  | start h => exact absurd (hphase.symm.trans h) (by decide)
  | accept x h => exact absurd (hphase.symm.trans h) (by decide)
  | through x h => exact absurd (hphase.symm.trans h) (by decide)
  | write => exact ⟨hphase, rfl, by rw [hwaiting, List.append_nil]⟩
  | drop => exact ⟨rfl, rfl, rfl⟩

end Outbox
