import Mathlib.Data.List.Basic
import Mathlib.Logic.Function.Basic
import Mathlib.Tactic.Common

/-!
# Tables of chains

A hash table with one chain for each hash value: elements are put in front of their chain
(`insert`), the first element with a key is unlinked from it (`remove`), and whole chains are
thinned out (`retain`). `Wf` says that every element is in its own chain and no key occurs twice.
On such tables the three operations do to `find` what the operations of a finite map do.
-/

set_option linter.unusedSectionVars false

namespace HashChain

variable {ι κ α : Type*} [DecidableEq ι] [DecidableEq κ] (key : α → κ) (hash : κ → ι)

/-- Every element is in the chain of its key, and keys are not repeated. -/
structure Wf (t : ι → List α) : Prop where
  hash_eq : ∀ i, ∀ a ∈ t i, hash (key a) = i
  distinct : ∀ i, (t i).Pairwise fun a b => key a ≠ key b

def find (t : ι → List α) (k : κ) : Option α := (t (hash k)).find? fun a => key a = k

def insert (a : α) (t : ι → List α) : ι → List α :=
  Function.update t (hash (key a)) (a :: t (hash (key a)))

/-- The first element with the key, and the chain without it. -/
def unlink (k : κ) : List α → Option α × List α
  | [] => (none, [])
  | a :: l => if key a = k then (some a, l) else ((unlink k l).1, a :: (unlink k l).2)

def remove (k : κ) (t : ι → List α) : Option α × (ι → List α) :=
  ((unlink key k (t (hash k))).1, Function.update t (hash k) (unlink key k (t (hash k))).2)

def retain (p : ι → α → Bool) (t : ι → List α) : ι → List α := fun i => (t i).filter (p i)

variable {key hash} {t : ι → List α}

theorem Wf.empty : Wf key hash fun _ => ([] : List α) := by
  refine ⟨?_, ?_⟩
  · intro i a ha
    cases ha
  · intro i
    exact List.Pairwise.nil

theorem find_some {k : κ} {a : α} (h : find key hash t k = some a) :
    a ∈ t (hash k) ∧ key a = k :=
  ⟨List.mem_of_find?_eq_some h, by simpa using List.find?_some h⟩

theorem find_eq_none_iff {k : κ} : find key hash t k = none ↔ ∀ a ∈ t (hash k), key a ≠ k := by
  simp only [find, List.find?_eq_none, decide_eq_true_eq]

/-! ## Inserting -/

theorem find_insert (a : α) (k : κ) :
    find key hash (insert key hash a t) k = if key a = k then some a else find key hash t k := by
  unfold find insert
  by_cases hk : key a = k
  · subst hk
    rw [Function.update_self, List.find?_cons_of_pos (by simp), if_pos rfl]
  · rw [if_neg hk]
    by_cases hh : hash k = hash (key a)
    · rw [hh, Function.update_self, List.find?_cons_of_neg (by simpa using hk)]
    · rw [Function.update_of_ne hh]

theorem mem_insert {a b : α} {i : ι} (h : b ∈ insert key hash a t i) : b = a ∨ b ∈ t i := by
  unfold insert at h
  by_cases hi : i = hash (key a)
  · subst hi
    rw [Function.update_self] at h
    exact List.mem_cons.mp h
  · rw [Function.update_of_ne hi] at h
    exact .inr h

theorem Wf.insert (h : Wf key hash t) {a : α} (hfresh : find key hash t (key a) = none) :
    Wf key hash (insert key hash a t) := by
  refine ⟨?_, ?_⟩
  · intro i b hb
    by_cases hi : i = hash (key a)
    · subst hi
      rw [HashChain.insert, Function.update_self] at hb
      rcases List.mem_cons.mp hb with rfl | hb
      · rfl
      · exact h.hash_eq _ b hb
    · rw [HashChain.insert, Function.update_of_ne hi] at hb
      exact h.hash_eq i b hb
  · intro i
    by_cases hi : i = hash (key a)
    · subst hi
      rw [HashChain.insert, Function.update_self]
      refine List.Pairwise.cons ?_ (h.distinct _)
      intro b hb hab
      exact find_eq_none_iff.mp hfresh b hb hab.symm
    · rw [HashChain.insert, Function.update_of_ne hi]
      exact h.distinct i

/-! ## Removing -/

theorem unlink_fst (k : κ) (l : List α) : (unlink key k l).1 = l.find? fun a => key a = k := by
  induction l with
  | nil => rfl
  | cons a l ih =>
    unfold unlink
    by_cases hk : key a = k
    · rw [if_pos hk, List.find?_cons_of_pos (by simpa using hk)]
    · rw [if_neg hk, List.find?_cons_of_neg (by simpa using hk), ih]

theorem unlink_sublist (k : κ) (l : List α) : (unlink key k l).2.Sublist l := by
  induction l with
  | nil => exact List.Sublist.refl _
  | cons a l ih =>
    unfold unlink
    by_cases hk : key a = k
    · rw [if_pos hk]
      exact List.sublist_cons_self a l
    · rw [if_neg hk]
      exact ih.cons_cons a

/-- Of the elements with the key, the first one goes. -/
theorem filter_unlink (k : κ) (l : List α) :
    (unlink key k l).2.filter (fun a => key a = k) = (l.filter fun a => key a = k).tail := by
  induction l with
  | nil => rfl
  | cons a l ih =>
    unfold unlink
    by_cases hk : key a = k
    · rw [if_pos hk, List.filter_cons_of_pos (by simpa using hk), List.tail_cons]
    · rw [if_neg hk, List.filter_cons_of_neg (by simpa using hk),
        List.filter_cons_of_neg (by simpa using hk), ih]

theorem find?_unlink {k : κ} {l : List α} (hl : l.Pairwise fun a b => key a ≠ key b) (k' : κ) :
    (unlink key k l).2.find? (fun a => key a = k') =
      if k' = k then none else l.find? fun a => key a = k' := by
  induction l with
  | nil => simp [unlink]
  | cons a l ih =>
    obtain ⟨ha, hl'⟩ := List.pairwise_cons.mp hl
    unfold unlink
    by_cases hk : key a = k
    · rw [if_pos hk]
      by_cases hk' : k' = k
      · rw [if_pos hk', List.find?_eq_none]
        intro b hb
        have hne := ha b hb
        rw [hk, ← hk'] at hne
        simpa using hne.symm
      · have hne : key a ≠ k' := fun h => hk' (h.symm.trans hk)
        rw [if_neg hk', List.find?_cons_of_neg (by simpa using hne)]
    · rw [if_neg hk]
      by_cases hak : key a = k'
      · have hne : k' ≠ k := fun h => hk (hak.trans h)
        rw [List.find?_cons_of_pos (by simpa using hak), if_neg hne,
          List.find?_cons_of_pos (by simpa using hak)]
      · rw [List.find?_cons_of_neg (by simpa using hak), ih hl',
          List.find?_cons_of_neg (by simpa using hak)]

theorem remove_fst (k : κ) : (remove key hash k t).1 = find key hash t k := unlink_fst k _

theorem find_remove (h : Wf key hash t) (k k' : κ) :
    find key hash (remove key hash k t).2 k' = if k' = k then none else find key hash t k' := by
  simp only [find, remove]
  by_cases hh : hash k' = hash k
  · rw [hh, Function.update_self]
    exact find?_unlink (h.distinct _) k'
  · have hne : k' ≠ k := fun e => hh (congrArg hash e)
    rw [Function.update_of_ne hh, if_neg hne]

theorem remove_sublist (k : κ) (i : ι) : ((remove key hash k t).2 i).Sublist (t i) := by
  simp only [remove]
  by_cases hi : i = hash k
  · subst hi
    rw [Function.update_self]
    exact unlink_sublist k _
  · rw [Function.update_of_ne hi]

theorem Wf.remove (h : Wf key hash t) (k : κ) : Wf key hash (remove key hash k t).2 := by
  have hsub : ∀ i, ((HashChain.remove key hash k t).2 i).Sublist (t i) := remove_sublist k
  exact ⟨fun i a ha => h.hash_eq i a ((hsub i).subset ha), fun i => (h.distinct i).sublist (hsub i)⟩

/-! ## Thinning out -/

theorem find?_filter {l : List α} (hl : l.Pairwise fun a b => key a ≠ key b) (p : α → Bool)
    (k : κ) : (l.filter p).find? (fun a => key a = k) =
      (l.find? fun a => key a = k).filter p := by
  induction l with
  | nil => rfl
  | cons a l ih =>
    obtain ⟨ha, hl'⟩ := List.pairwise_cons.mp hl
    by_cases hk : key a = k
    · rw [List.find?_cons_of_pos (by simpa using hk)]
      by_cases hp : p a = true
      · rw [List.filter_cons_of_pos hp, List.find?_cons_of_pos (by simpa using hk),
          Option.filter_some_pos hp]
      · rw [List.filter_cons_of_neg hp, Option.filter_some_neg (by simpa using hp), List.find?_eq_none]
        intro b hb
        have hne := ha b (List.mem_of_mem_filter hb)
        rw [hk] at hne
        simpa using hne.symm
    · rw [List.find?_cons_of_neg (by simpa using hk), ← ih hl']
      by_cases hp : p a = true
      · rw [List.filter_cons_of_pos hp, List.find?_cons_of_neg (by simpa using hk)]
      · rw [List.filter_cons_of_neg hp]

theorem find_retain (h : Wf key hash t) (p : ι → α → Bool) (k : κ) :
    find key hash (retain p t) k = (find key hash t k).filter (p (hash k)) :=
  find?_filter (h.distinct _) _ k

theorem Wf.retain (h : Wf key hash t) (p : ι → α → Bool) : Wf key hash (retain p t) :=
  ⟨fun i a ha => h.hash_eq i a (List.mem_of_mem_filter ha), fun i => (h.distinct i).filter _⟩

end HashChain
