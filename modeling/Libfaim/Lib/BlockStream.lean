import Mathlib.Algebra.Order.Group.Nat
import Mathlib.Data.List.Basic
import Mathlib.Tactic.Common

/-!
# Folding a message block by block

A message that comes in pieces is folded over in blocks of `n` elements; what does not make up a
block yet is kept back. `Streamed` says what has been folded and what has been kept after some
message, whatever the pieces were, and its rules say how both go on with the next piece.
-/

namespace BlockStream

variable {σ α : Type} (n : Nat) (f : σ → List α → σ)

/-- `f` folded over the first `k` blocks. -/
def foldBlocks : Nat → σ → List α → σ
  | 0, s, _ => s
  | k + 1, s, xs => foldBlocks k (f s (xs.take n)) (xs.drop n)

section Fold

variable {n f}

theorem foldBlocks_add (j k : Nat) (s : σ) (xs : List α) :
    foldBlocks n f (j + k) s xs = foldBlocks n f k (foldBlocks n f j s xs) (xs.drop (j * n)) := by
  induction j generalizing s xs with
  | zero => rw [Nat.zero_add, Nat.zero_mul, List.drop_zero, foldBlocks]
  | succ j ih =>
    have hsucc : j + 1 + k = (j + k) + 1 := by omega
    have hmul : (j + 1) * n = n + j * n := by rw [Nat.succ_mul, Nat.add_comm]
    rw [hsucc, foldBlocks, ih, foldBlocks, List.drop_drop, hmul]

/-- What lies behind the blocks does not matter. -/
theorem foldBlocks_append {k : Nat} {xs : List α} (hxs : xs.length = k * n) (s : σ)
    (ys : List α) : foldBlocks n f k s (xs ++ ys) = foldBlocks n f k s xs := by
  induction k generalizing s xs with
  | zero => rfl
  | succ k ih =>
    have hle : n ≤ xs.length := by
      rw [hxs, Nat.succ_mul]
      exact Nat.le_add_left _ _
    have hdrop : (xs.drop n).length = k * n := by
      rw [List.length_drop, hxs, Nat.succ_mul, Nat.add_sub_cancel]
    rw [foldBlocks, foldBlocks, List.take_append_of_le_length hle,
      List.drop_append_of_le_length hle, ih hdrop]

theorem foldBlocks_of_append {j k : Nat} {xs : List α} (hxs : xs.length = j * n) (s : σ)
    (ys : List α) :
    foldBlocks n f (j + k) s (xs ++ ys) = foldBlocks n f k (foldBlocks n f j s xs) ys := by
  rw [foldBlocks_add, foldBlocks_append hxs, ← hxs, List.drop_left]

theorem foldBlocks_congr {g : σ → List α → σ}
    (hfg : ∀ s block, block.length = n → f s block = g s block) {k : Nat} (s : σ) {xs : List α}
    (hxs : k * n ≤ xs.length) : foldBlocks n f k s xs = foldBlocks n g k s xs := by
  induction k generalizing s xs with
  | zero => rfl
  | succ k ih =>
    rw [Nat.succ_mul] at hxs
    have htake : (xs.take n).length = n := by
      rw [List.length_take]
      exact Nat.min_eq_left (by omega)
    have hdrop : k * n ≤ (xs.drop n).length := by
      rw [List.length_drop]
      omega
    rw [foldBlocks, foldBlocks, hfg s _ htake, ih _ hdrop]

end Fold

/-! ## Messages in pieces -/

/-- After the message `msg`, from `s₀` on: the whole blocks have been folded into `s`, and `r` is
kept back. -/
structure Streamed (s₀ : σ) (msg : List α) (s : σ) (r : List α) : Prop where
  folded : ∃ k full, msg = full ++ r ∧ full.length = k * n ∧ s = foldBlocks n f k s₀ full
  kept_lt : r.length < n

namespace Streamed

variable {n f} {s₀ s : σ} {msg r : List α}

theorem nil (hn : 0 < n) (s₀ : σ) : Streamed n f s₀ [] s₀ [] :=
  ⟨⟨0, [], rfl, (Nat.zero_mul n).symm, rfl⟩, hn⟩

/-- A piece that does not make up a block is kept back. -/
theorem keep (h : Streamed n f s₀ msg s r) {p : List α} (hlt : (r ++ p).length < n) :
    Streamed n f s₀ (msg ++ p) s (r ++ p) := by
  obtain ⟨k, full, rfl, hfull, hs⟩ := h.folded
  exact ⟨⟨k, full, List.append_assoc _ _ _, hfull, hs⟩, hlt⟩

/-- A piece with which what was kept back makes up blocks. -/
theorem fold (h : Streamed n f s₀ msg s r) {p : List α} {j : Nat}
    (hblocks : (r ++ p).length = j * n) :
    Streamed n f s₀ (msg ++ p) (foldBlocks n f j s (r ++ p)) [] := by
  obtain ⟨k, full, rfl, hfull, rfl⟩ := h.folded
  refine ⟨⟨k + j, full ++ (r ++ p), ?_, ?_, ?_⟩, Nat.lt_of_le_of_lt (Nat.zero_le _) h.kept_lt⟩
  · rw [List.append_nil, List.append_assoc]
  · rw [List.length_append, hfull, hblocks, Nat.add_mul]
  · rw [foldBlocks_of_append hfull]

/-- A piece with which what was kept back makes up one block. -/
theorem fold_one (h : Streamed n f s₀ msg s r) {p : List α} (hblock : (r ++ p).length = n) :
    Streamed n f s₀ (msg ++ p) (f s (r ++ p)) [] := by
  have hfold := h.fold (p := p) (j := 1) (by rw [hblock, Nat.one_mul])
  rwa [foldBlocks, foldBlocks, List.take_of_length_le (Nat.le_of_eq hblock)] at hfold

/-- How much is kept back is a matter of the length of the message. -/
theorem length_kept (h : Streamed n f s₀ msg s r) : r.length = msg.length % n := by
  obtain ⟨k, full, rfl, hfull, -⟩ := h.folded
  rw [List.length_append, hfull, Nat.add_comm, Nat.mul_comm, Nat.add_mul_mod_self_left,
    Nat.mod_eq_of_lt h.kept_lt]

/-- A message of whole blocks is folded over whole. -/
theorem eq_fold (h : Streamed n f s₀ msg s r) {k : Nat} (hmsg : msg.length = k * n) :
    s = foldBlocks n f k s₀ msg := by
  have hr : r = [] := by
    rw [← List.length_eq_zero_iff, h.length_kept, hmsg, Nat.mul_mod_left]
  obtain ⟨j, full, rfl, hfull, rfl⟩ := h.folded
  have hn : 0 < n := Nat.lt_of_le_of_lt (Nat.zero_le _) h.kept_lt
  rw [hr, List.append_nil] at hmsg ⊢
  rw [Nat.eq_of_mul_eq_mul_right hn (hfull.symm.trans hmsg)]

end Streamed

end BlockStream
