import Mathlib.Data.Nat.Bitwise
import Mathlib.Tactic.Common

/-!
# Flag masks

Words whose bits are flags. A flag is a word with one bit set (`IsFlag`); the flags of a list that
a mask contains, put together again, are the part of the mask the list covers
(`orFlags_filter`).
-/

namespace Mask

/-- A word with exactly one bit set. -/
def IsFlag (f : UInt32) : Prop := ∃ i, f.toNat = 2 ^ i

/-- All the flags of a list together. -/
def orFlags (l : List UInt32) : UInt32 := l.foldr (· ||| ·) 0

theorem and_flag {f : UInt32} (h : IsFlag f) (x : UInt32) : x &&& f = f ∨ x &&& f = 0 := by
  obtain ⟨i, hi⟩ := h
  have hand : (x &&& f).toNat = (x.toNat.testBit i).toNat * 2 ^ i := by
    rw [UInt32.toNat_and, hi, Nat.and_two_pow]
  cases hb : x.toNat.testBit i with
  | true =>
    left
    apply UInt32.toNat_inj.mp
    simp [hand, hb, hi]
  | false =>
    right
    apply UInt32.toNat_inj.mp
    simp [hand, hb]

theorem IsFlag.ne_zero {f : UInt32} (h : IsFlag f) : f ≠ 0 := by
  rintro rfl
  obtain ⟨i, hi⟩ := h
  have := Nat.two_pow_pos i
  simp only [UInt32.toNat_zero] at hi
  omega

theorem mask_or (x a b : UInt32) : x &&& (a ||| b) = (x &&& a) ||| (x &&& b) := by
  apply UInt32.toNat_inj.mp
  simp [Nat.and_or_distrib_left]

/-- What misses a mask misses every part of it. -/
theorem and_eq_zero_of_mask {f g m : UInt32} (hf : f &&& m = 0) (hg : m &&& g = g) :
    f &&& g = 0 := by
  rw [← hg, ← UInt32.and_assoc, hf, UInt32.zero_and]

/-- A flag put under a condition changes no other bits. -/
theorem and_or_ite {f g : UInt32} (h : f &&& g = 0) (p : UInt32) (c : Prop) [Decidable c] :
    f &&& (p ||| if c then g else 0) = f &&& p := by
  rw [mask_or]
  by_cases hc : c
  · rw [if_pos hc, h, UInt32.or_zero]
  · rw [if_neg hc, UInt32.and_zero, UInt32.or_zero]

/-- A flag put under a condition into a mask without it is there under the condition. -/
theorem and_or_ite_self_iff {f p : UInt32} (hf : f ≠ 0) (hp : f &&& p = 0) (c : Prop)
    [Decidable c] : f &&& (p ||| if c then f else 0) ≠ 0 ↔ c := by
  rw [mask_or, hp, UInt32.zero_or]
  by_cases hc : c
  · rw [if_pos hc, UInt32.and_self]
    exact ⟨fun _ => hc, fun _ => hf⟩
  · rw [if_neg hc, UInt32.and_zero]
    exact ⟨fun h => absurd rfl h, fun h => absurd h hc⟩

theorem orFlags_cons (f : UInt32) (l : List UInt32) : orFlags (f :: l) = f ||| orFlags l := rfl

theorem orFlags_append (l m : List UInt32) : orFlags (l ++ m) = orFlags l ||| orFlags m := by
  induction l with
  | nil => exact (UInt32.zero_or).symm
  | cons f l ih => rw [List.cons_append, orFlags_cons, orFlags_cons, ih, UInt32.or_assoc]

/-- All the flags together have the bits that some of them have. -/
theorem testBit_orFlags (l : List UInt32) (i : Nat) :
    (orFlags l).toNat.testBit i = l.any fun f => f.toNat.testBit i := by
  induction l with
  | nil => simp [orFlags]
  | cons f l ih => rw [orFlags_cons, UInt32.toNat_or, Nat.testBit_or, ih, List.any_cons]

/-- Each flag is part of all of them together. -/
theorem and_orFlags_of_mem {f : UInt32} {l : List UInt32} (h : f ∈ l) : orFlags l &&& f = f := by
  apply UInt32.toNat_inj.mp
  apply Nat.eq_of_testBit_eq
  intro i
  rw [UInt32.toNat_and, Nat.testBit_and, testBit_orFlags]
  cases hb : f.toNat.testBit i with
  | false => rw [Bool.and_false]
  | true => rw [Bool.and_true, List.any_eq_true.mpr ⟨f, h, hb⟩]

/-- What the flags are together depends on which of them are there, and not on their order, on
repetitions or on words without a bit. -/
theorem orFlags_congr {l m : List UInt32} (h : ∀ f, f ≠ 0 → (f ∈ l ↔ f ∈ m)) :
    orFlags l = orFlags m := by
  apply UInt32.toNat_inj.mp
  apply Nat.eq_of_testBit_eq
  intro i
  rw [testBit_orFlags, testBit_orFlags, Bool.eq_iff_iff, List.any_eq_true, List.any_eq_true]
  have hne {f : UInt32} (hf : f.toNat.testBit i = true) : f ≠ 0 := by
    rintro rfl
    simp at hf
  constructor
  · rintro ⟨f, hmem, hf⟩
    exact ⟨f, (h f (hne hf)).mp hmem, hf⟩
  · rintro ⟨f, hmem, hf⟩
    exact ⟨f, (h f (hne hf)).mpr hmem, hf⟩

/-- The flags of `l` that the mask `x` contains are the part of `x` that `l` covers. -/
theorem orFlags_filter {l : List UInt32} (h : ∀ f ∈ l, IsFlag f) (x : UInt32) :
    orFlags (l.filter fun f => x &&& f ≠ 0) = x &&& orFlags l := by
  induction l with
  | nil => simp [orFlags]
  | cons f l ih =>
    have hf : IsFlag f := h f List.mem_cons_self
    have ih' := ih fun g hg => h g (List.mem_cons_of_mem _ hg)
    rcases and_flag hf x with hin | hout
    · have hne : x &&& f ≠ 0 := by
        rw [hin]
        exact hf.ne_zero
      rw [List.filter_cons_of_pos (by simpa using hne), orFlags_cons, orFlags_cons, ih',
        mask_or, hin]
    · rw [List.filter_cons_of_neg (by simpa using hout), orFlags_cons, ih', mask_or, hout,
        UInt32.zero_or]

end Mask
