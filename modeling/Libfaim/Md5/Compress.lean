import Mathlib.Data.List.Basic
import Mathlib.Tactic.Common
import Libfaim.Lib.BlockStream
import Libfaim.Lib.Endian
import Libfaim.Md5

/-!
# What `md5_process` computes

MD5 is sixty-four operations on four registers that turn by one place each time. Operation `i` has
its function of three words, given bit by bit (`roundBit`), its word of the block, its rotation and
its entry of the table; `compress` runs them over a block. `md5_process` writes the operations out,
turns the names of the registers in place of the registers, and computes the functions with the
operators C has for whole words (`md5Process_eq`).
-/

namespace Libfaim

open BlockStream Endian

/-! ## The operations -/

/-- A function of three bits on three words. -/
def bitwise (f : Bool → Bool → Bool → Bool) (x y z : UInt32) : UInt32 :=
  .ofBitVec <| (BitVec.ofBoolListLE <| (List.range 32).map fun i =>
    f (x.toBitVec.getLsbD i) (y.toBitVec.getLsbD i) (z.toBitVec.getLsbD i)).setWidth 32

/-- The functions of the four rounds: one bit chooses, the third chooses, parity, and the last. -/
def roundBit (i : Nat) (x y z : Bool) : Bool :=
  match i / 16 with
  | 0 => if x then y else z
  | 1 => if z then x else y
  | 2 => x ^^ y ^^ z
  | _ => y ^^ (x || !z)

/-- The word of the block operation `i` takes. -/
def wordIndex (i : Nat) : Fin 16 :=
  let k := match i / 16 with
    | 0 => i
    | 1 => 5 * i + 1
    | 2 => 3 * i + 5
    | _ => 7 * i
  ⟨k % 16, Nat.mod_lt k (Nat.zero_lt_succ 15)⟩

def rotation (i : Nat) : Nat :=
  match i / 16 with
  | 0 => [7, 12, 17, 22].getD (i % 4) 0
  | 1 => [5, 9, 14, 20].getD (i % 4) 0
  | 2 => [4, 11, 16, 23].getD (i % 4) 0
  | _ => [6, 10, 15, 21].getD (i % 4) 0

/-- The table of `2 ^ 32 * |sin (i + 1)|`. -/
def sineTable : List UInt32 :=
  [0xd76aa478, 0xe8c7b756, 0x242070db, 0xc1bdceee, 0xf57c0faf, 0x4787c62a, 0xa8304613, 0xfd469501,
    0x698098d8, 0x8b44f7af, 0xffff5bb1, 0x895cd7be, 0x6b901122, 0xfd987193, 0xa679438e, 0x49b40821,
    0xf61e2562, 0xc040b340, 0x265e5a51, 0xe9b6c7aa, 0xd62f105d, 0x02441453, 0xd8a1e681, 0xe7d3fbc8,
    0x21e1cde6, 0xc33707d6, 0xf4d50d87, 0x455a14ed, 0xa9e3e905, 0xfcefa3f8, 0x676f02d9, 0x8d2a4c8a,
    0xfffa3942, 0x8771f681, 0x6d9d6122, 0xfde5380c, 0xa4beea44, 0x4bdecfa9, 0xf6bb4b60, 0xbebfbc70,
    0x289b7ec6, 0xeaa127fa, 0xd4ef3085, 0x04881d05, 0xd9d4d039, 0xe6db99e5, 0x1fa27cf8, 0xc4ac5665,
    0xf4292244, 0x432aff97, 0xab9423a7, 0xfc93a039, 0x655b59c3, 0x8f0ccc92, 0xffeff47d, 0x85845dd1,
    0x6fa87e4f, 0xfe2ce6e0, 0xa3014314, 0x4e0811a1, 0xf7537e82, 0xbd3af235, 0x2ad7d2bb, 0xeb86d391]

/-- `b + ((a + f(b, c, d) + x + t) <<< s)` -/
def operand (f : UInt32 → UInt32 → UInt32 → UInt32) (x : UInt32) (s : Nat) (t : UInt32)
    (r : Md5Regs) : UInt32 :=
  .ofBitVec ((r.a + f r.b r.c r.d + x + t).toBitVec.rotateLeft s) + r.b

/-- An operation with its function, after which the registers have turned. -/
def turn (f : UInt32 → UInt32 → UInt32 → UInt32) (x : UInt32) (s : Nat) (t : UInt32)
    (r : Md5Regs) : Md5Regs :=
  ⟨r.d, operand f x s t r, r.b, r.c⟩

def operation (X : Fin 16 → UInt32) (r : Md5Regs) (i : Nat) : Md5Regs :=
  turn (bitwise (roundBit i)) (X (wordIndex i)) (rotation i) (sineTable.getD i 0) r

/-- Word `i` of a block, least significant byte first. -/
def blockWord (block : List UInt8) (i : Fin 16) : UInt32 :=
  UInt32.ofNat (leVal ((block.drop (4 * i)).take 4))

def compress (r : Md5Regs) (block : List UInt8) : Md5Regs :=
  let t := (List.range 64).foldl (operation (blockWord block)) r
  ⟨r.a + t.a, r.b + t.b, r.c + t.c, r.d + t.d⟩

/-! ## The functions of the rounds -/

theorem eq_bitwise {g : UInt32 → UInt32 → UInt32 → UInt32} {f : Bool → Bool → Bool → Bool}
    (h : ∀ (x y z : UInt32) (i : Nat), i < 32 → (g x y z).toBitVec.getLsbD i =
      f (x.toBitVec.getLsbD i) (y.toBitVec.getLsbD i) (z.toBitVec.getLsbD i)) :
    g = bitwise f := by
  funext x y z
  apply UInt32.toBitVec_inj.mp
  apply BitVec.eq_of_getLsbD_eq
  intro i hi
  rw [bitwise, h x y z i hi, UInt32.toBitVec_ofBitVec, BitVec.getLsbD_setWidth,
    BitVec.getLsbD_ofBoolListLE]
  simp only [List.getD_eq_getElem?_getD, List.getElem?_map, List.getElem?_range hi, hi,
    decide_true, Bool.true_and, Option.map_some, Option.getD_some]

theorem md5F_eq : md5F = bitwise (roundBit 0) :=
  eq_bitwise fun x y z i hi => by
    rw [md5F, UInt32.toBitVec_or, UInt32.toBitVec_and, UInt32.toBitVec_and, UInt32.toBitVec_not,
      BitVec.getLsbD_or, BitVec.getLsbD_and, BitVec.getLsbD_and, BitVec.getLsbD_not]
    cases x.toBitVec.getLsbD i <;> simp [roundBit, hi]

theorem md5G_eq : md5G = bitwise (roundBit 16) :=
  eq_bitwise fun x y z i hi => by
    rw [md5G, UInt32.toBitVec_or, UInt32.toBitVec_and, UInt32.toBitVec_and, UInt32.toBitVec_not,
      BitVec.getLsbD_or, BitVec.getLsbD_and, BitVec.getLsbD_and, BitVec.getLsbD_not]
    cases z.toBitVec.getLsbD i <;> simp [roundBit, hi]

theorem md5H_eq : md5H = bitwise (roundBit 32) :=
  eq_bitwise fun x y z i hi => by
    simp [md5H, roundBit]

theorem md5I_eq : md5I = bitwise (roundBit 48) :=
  eq_bitwise fun x y z i hi => by
    simp [md5I, roundBit, hi]

/-- A rotation C does not leave undefined. -/
def Rotates (s : UInt32) : Prop := 0 < s.toNat ∧ s.toNat < 32

instance (s : UInt32) : Decidable (Rotates s) := inferInstanceAs (Decidable (_ ∧ _))

theorem rotateLeft_eq (x : UInt32) {s : UInt32} (hs : Rotates s) :
    rotateLeft x s = .ofBitVec (x.toBitVec.rotateLeft s.toNat) := by
  obtain ⟨hpos, hlt⟩ := hs
  have hleft : (s.toBitVec % 32).toNat = s.toNat % 32 := by
    rw [BitVec.toNat_umod, UInt32.toNat_toBitVec]
    rfl
  have hright : ((32 - s).toBitVec % 32).toNat = 32 - s.toNat % 32 := by
    rw [BitVec.toNat_umod, UInt32.toNat_toBitVec, UInt32.toNat_sub]
    show (2 ^ 32 - s.toNat + 32) % 2 ^ 32 % 32 = 32 - s.toNat % 32
    omega
  apply UInt32.toBitVec_inj.mp
  rw [rotateLeft, UInt32.toBitVec_or, UInt32.toBitVec_shiftLeft, UInt32.toBitVec_shiftRight,
    UInt32.toBitVec_ofBitVec, BitVec.rotateLeft_def, BitVec.shiftLeft_eq', BitVec.ushiftRight_eq']
  rw [hleft, hright]

/-! ## The rounds -/

theorem md5Set_eq (F : UInt32 → UInt32 → UInt32 → UInt32) (r : Md5Regs) (x t : UInt32)
    {s : UInt32} (hs : Rotates s) :
    md5Set F r.a r.b r.c r.d x s t = operand F x s.toNat t r := by
  rw [md5Set, rotateLeft_eq _ hs, operand]

/-- Four operations of the source, in which the names turn, are four in which the registers do. -/
theorem set_four {s₀ s₁ s₂ s₃ : UInt32}
    (hs : Rotates s₀ ∧ Rotates s₁ ∧ Rotates s₂ ∧ Rotates s₃)
    (F : UInt32 → UInt32 → UInt32 → UInt32) (r : Md5Regs) (x₀ x₁ x₂ x₃ t₀ t₁ t₂ t₃ : UInt32) :
    (((r.setA F x₀ s₀ t₀).setD F x₁ s₁ t₁).setC F x₂ s₂ t₂).setB F x₃ s₃ t₃ =
    turn F x₃ s₃.toNat t₃ (turn F x₂ s₂.toNat t₂ (turn F x₁ s₁.toNat t₁
      (turn F x₀ s₀.toNat t₀ r))) := by
  obtain ⟨h₀, h₁, h₂, h₃⟩ := hs
  simp only [turn, ← md5Set_eq F _ _ _ h₀, ← md5Set_eq F _ _ _ h₁, ← md5Set_eq F _ _ _ h₂,
    ← md5Set_eq F _ _ _ h₃]
  rfl

theorem md5Round1_eq (X : Fin 16 → UInt32) (r : Md5Regs) :
    md5Round1 X r = (List.range' 0 16).foldl (operation X) r := by
  have hs : Rotates 7 ∧ Rotates 12 ∧ Rotates 17 ∧ Rotates 22 := by decide
  rw [md5Round1, md5F_eq, set_four hs, set_four hs, set_four hs, set_four hs]
  rfl

theorem md5Round2_eq (X : Fin 16 → UInt32) (r : Md5Regs) :
    md5Round2 X r = (List.range' 16 16).foldl (operation X) r := by
  have hs : Rotates 5 ∧ Rotates 9 ∧ Rotates 14 ∧ Rotates 20 := by decide
  rw [md5Round2, md5G_eq, set_four hs, set_four hs, set_four hs, set_four hs]
  rfl

theorem md5Round3_eq (X : Fin 16 → UInt32) (r : Md5Regs) :
    md5Round3 X r = (List.range' 32 16).foldl (operation X) r := by
  have hs : Rotates 4 ∧ Rotates 11 ∧ Rotates 16 ∧ Rotates 23 := by decide
  rw [md5Round3, md5H_eq, set_four hs, set_four hs, set_four hs, set_four hs]
  rfl

theorem md5Round4_eq (X : Fin 16 → UInt32) (r : Md5Regs) :
    md5Round4 X r = (List.range' 48 16).foldl (operation X) r := by
  have hs : Rotates 6 ∧ Rotates 10 ∧ Rotates 15 ∧ Rotates 21 := by decide
  rw [md5Round4, md5I_eq, set_four hs, set_four hs, set_four hs, set_four hs]
  rfl

/-! ## The words of a block -/

theorem leVal_four (b₀ b₁ b₂ b₃ : UInt8) :
    UInt32.ofNat (leVal [b₀, b₁, b₂, b₃]) =
      b₀.toUInt32 + (b₁.toUInt32 <<< 8) + (b₂.toUInt32 <<< 16) + (b₃.toUInt32 <<< 24) := by
  apply UInt32.toNat_inj.mp
  have h₀ := b₀.toNat_lt
  have h₁ := b₁.toNat_lt
  have h₂ := b₂.toNat_lt
  have h₃ := b₃.toNat_lt
  simp only [leVal, UInt32.toNat_ofNat', UInt32.toNat_add, UInt32.toNat_shiftLeft,
    UInt8.toNat_toUInt32, Nat.shiftLeft_eq]
  simp
  omega

theorem take_four {xs : List UInt8} {k : Nat} (h : k + 4 ≤ xs.length) :
    (xs.drop k).take 4 =
      [xs.getD k 0, xs.getD (k + 1) 0, xs.getD (k + 2) 0, xs.getD (k + 3) 0] := by
  apply List.ext_getElem?
  intro j
  rw [List.getElem?_take, List.getElem?_drop]
  rcases j with _ | _ | _ | _ | j
  · simp [show k < xs.length by omega]
  · simp [show k + 1 < xs.length by omega]
  · simp [show k + 2 < xs.length by omega]
  · simp [show k + 3 < xs.length by omega]
  · simp

theorem md5Words_eq {data : List UInt8} (hdata : 64 ≤ data.length) :
    md5Words data = blockWord (data.take 64) := by
  funext i
  have hi : i.val < 16 := i.isLt
  have hlen : 4 * i.val + 4 ≤ (data.take 64).length := by
    rw [List.length_take]
    omega
  have hgetD (j : Nat) (hj : j < 4) :
      (data.take 64).getD (4 * i.val + j) 0 = data.getD (4 * i.val + j) 0 := by
    rw [List.getD_eq_getElem?_getD, List.getElem?_take_of_lt (by omega),
      ← List.getD_eq_getElem?_getD]
  rw [blockWord, take_four hlen, leVal_four, ← Nat.add_zero (4 * i.val), hgetD 0 (by decide),
    Nat.add_zero, hgetD 1 (by decide), hgetD 2 (by decide), hgetD 3 (by decide)]
  rfl

/-- `md5_process` is the table-driven compression of the 64 bytes that it is given. -/
theorem md5Process_eq (abcd : Md5Regs) {data : List UInt8} (hdata : 64 ≤ data.length) :
    md5Process abcd data = compress abcd (data.take 64) := by
  have hrange : List.range 64 = List.range' 0 16 ++ List.range' 16 16 ++ List.range' 32 16 ++
      List.range' 48 16 := by decide
  rw [compress, hrange, List.foldl_append, List.foldl_append, List.foldl_append,
    ← md5Words_eq hdata, ← md5Round1_eq, ← md5Round2_eq, ← md5Round3_eq, ← md5Round4_eq]
  rfl

end Libfaim
