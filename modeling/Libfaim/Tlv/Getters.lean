import Libfaim.Tlv.Wire

/-!
# The typed getters (`tlv.c`)

`aim_gettlv8`, `aim_gettlv16` and `aim_gettlv32` read as many bytes as their type has from the value
of the TLV that `aim_gettlv` finds, without a look at its length. Here the bytes are looked up one
by one, and a getter that reads one behind the value has no result.
-/

namespace Libfaim

/-- The first `n` bytes of a value, each of which has to be there. -/
def valueBytes : Nat → List UInt8 → Option (List UInt8)
  | 0, _ => some []
  | _ + 1, [] => none
  | n + 1, b :: v => (valueBytes n v).map (b :: ·)

/-- The common body of the getters. -/
def aimGettlvNum {α : Type} (n : Nat) (get : List UInt8 → α) (zero : α) (list : List AimTlv)
    (t : UInt16) (nth : Int) : Option α :=
  match aimGettlv list t nth with
  | none => some zero
  | some tlv => (valueBytes n tlv.value).map get

def aimGettlv8 (list : List AimTlv) (t : UInt16) (n : Int) : Option UInt8 :=
  aimGettlvNum 1 aimutilGet8 0 list t n

/-- `aim_gettlv16`; `aimGettlv16` is the same where there is a result. -/
def aimGettlv16Inside (list : List AimTlv) (t : UInt16) (n : Int) : Option UInt16 :=
  aimGettlvNum 2 aimutilGet16 0 list t n

def aimGettlv32 (list : List AimTlv) (t : UInt16) (n : Int) : Option UInt32 :=
  aimGettlvNum 4 aimutilGet32 0 list t n

/-- A variable that is set with `get` if there is a TLV of the type, and stays as it is if there is
none. -/
def ifTlv {α : Type} (list : List AimTlv) (t : UInt16) (old : α)
    (get : List AimTlv → UInt16 → Int → Option α) : Option α :=
  if (aimGettlv list t 1).isSome then get list t 1 else some old

/-- A pointer to the value of the TLV of a type, or the null pointer. -/
def ifTlvStr (list : List AimTlv) (t : UInt16) : Option (List UInt8) :=
  if (aimGettlv list t 1).isSome then aimGettlvStr list t 1 else none

theorem valueBytes_of_le {n : Nat} {v : List UInt8} (h : n ≤ v.length) :
    valueBytes n v = some (v.take n) := by
  induction n generalizing v with
  | zero => rfl
  | succ n ih =>
    cases v with
    | nil => exact absurd h (Nat.not_succ_le_zero n)
    | cons b v =>
      rw [valueBytes, ih (Nat.le_of_succ_le_succ h)]
      rfl

theorem valueBytes_of_lt {n : Nat} {v : List UInt8} (h : v.length < n) : valueBytes n v = none := by
  induction n generalizing v with
  | zero => exact absurd h (Nat.not_lt_zero _)
  | succ n ih =>
    cases v with
    | nil => rfl
    | cons b v =>
      rw [valueBytes, ih (Nat.lt_of_succ_lt_succ h)]
      rfl

/-! ## The TLV a getter reads from -/

/-- The `n`-th TLV of the type, counted from 1; for a smaller `n` the first TLV of any type. -/
def nthTlv (list : List AimTlv) (t : UInt16) (n : Int) : Option AimTlv :=
  if n ≤ 0 then list.head? else (tlvsOfType t list)[n.toNat - 1]?

/-- The `n`-th TLV of the type, where there is one, has `width` bytes. -/
def Covers (list : List AimTlv) (t : UInt16) (n : Int) (width : Nat) : Prop :=
  ∀ tlv, nthTlv list t n = some tlv → width ≤ tlv.value.length

section Covers

variable {list : List AimTlv} {t : UInt16} {n : Int} {width : Nat}

theorem aimGettlv_eq_nthTlv (list : List AimTlv) (t : UInt16) (n : Int) :
    aimGettlv list t n = nthTlv list t n := by
  unfold nthTlv
  by_cases hn : n ≤ 0
  · rw [if_pos hn]
    cases list with
    | nil => rfl
    | cons tlv cur =>
      unfold aimGettlv
      rw [aimGettlvLoop]
      by_cases ht : tlv.type = t
      · rw [if_pos ht, if_pos (by omega)]
        rfl
      · rw [if_neg ht, if_pos (by omega)]
        rfl
  · rw [if_neg hn]
    obtain ⟨k, rfl⟩ : ∃ k : Nat, n = (k + 1 : Nat) := ⟨n.toNat - 1, by omega⟩
    exact aimGettlv_eq_getElem? list t k

theorem mem_of_nthTlv {tlv : AimTlv} (h : nthTlv list t n = some tlv) : tlv ∈ list := by
  unfold nthTlv at h
  by_cases hn : n ≤ 0
  · rw [if_pos hn] at h
    exact List.mem_of_head? h
  · rw [if_neg hn] at h
    exact List.mem_of_mem_filter (List.mem_of_getElem? h)

/-- Every TLV is found by some call. -/
theorem exists_nthTlv {tlv : AimTlv} (h : tlv ∈ list) :
    ∃ k : Nat, nthTlv list tlv.type (k + 1 : Nat) = some tlv := by
  have hmem : tlv ∈ tlvsOfType tlv.type list := List.mem_filter.mpr ⟨h, decide_eq_true rfl⟩
  obtain ⟨k, hk⟩ := List.getElem?_of_mem hmem
  refine ⟨k, ?_⟩
  unfold nthTlv
  rw [if_neg (by omega)]
  exact hk

theorem aimGettlvNum_inside_iff {α : Type} (get : List UInt8 → α) (zero : α) :
    aimGettlvNum width get zero list t n ≠ none ↔ Covers list t n width := by
  unfold aimGettlvNum Covers
  rw [aimGettlv_eq_nthTlv]
  cases nthTlv list t n with
  | none => exact ⟨fun _ tlv h => (nomatch h), fun _ => Option.some_ne_none zero⟩
  | some tlv =>
    dsimp only
    by_cases hle : width ≤ tlv.value.length
    · rw [valueBytes_of_le hle]
      constructor
      · intro _ tlv' h
        rwa [← Option.some.inj h]
      · exact fun _ => Option.some_ne_none _
    · rw [valueBytes_of_lt (Nat.not_le.mp hle)]
      constructor
      · exact fun h => absurd rfl h
      · exact fun h => absurd (h tlv rfl) hle

/-- Where `aim_gettlv16` reads inside of the value, nothing had to be filled in. -/
theorem aimGettlv16_of_inside {v : UInt16} (h : aimGettlv16Inside list t n = some v) :
    aimGettlv16 list t n = v := by
  have hcovers := (aimGettlvNum_inside_iff aimutilGet16 0).mp (by
    rw [← aimGettlv16Inside, h]
    exact Option.some_ne_none v)
  unfold aimGettlv16Inside aimGettlvNum at h
  unfold aimGettlv16
  cases htlv : aimGettlv list t n with
  | none =>
    rw [htlv] at h
    exact Option.some.inj h
  | some tlv =>
    have hlen := hcovers tlv (by rw [← aimGettlv_eq_nthTlv, htlv])
    rw [htlv] at h
    dsimp only at h ⊢
    rw [valueBytes_of_le hlen, Option.map_some] at h
    rw [← Option.some.inj h, aimutilGet16, aimutilGet16, List.take_append_of_le_length hlen,
      List.take_take, Nat.min_self]

theorem nthTlv_one_eq_some {tlv : AimTlv} (h : nthTlv list t 1 = some tlv) :
    tlv ∈ list ∧ tlv.type = t := by
  rw [← aimGettlv_eq_nthTlv, aimGettlv_one] at h
  exact ⟨List.mem_of_find?_eq_some h, by simpa using List.find?_some h⟩

/-- A variable is set, or left as it is, exactly where its getter stays inside of the value. -/
theorem ifTlv_inside_iff {α : Type} (get : List UInt8 → α) (zero old : α) :
    ifTlv list t old (aimGettlvNum width get zero) ≠ none ↔ Covers list t 1 width := by
  unfold ifTlv
  cases htlv : aimGettlv list t 1 with
  | some tlv => exact aimGettlvNum_inside_iff get zero
  | none =>
    refine ⟨fun _ tlv h => ?_, fun _ => Option.some_ne_none old⟩
    rw [← aimGettlv_eq_nthTlv, htlv] at h
    cases h

theorem ifTlv_of_covers {α : Type} (get : List UInt8 → α) (zero old : α)
    (h : Covers list t 1 width) :
    ∃ x, ifTlv list t old (aimGettlvNum width get zero) = some x :=
  Option.ne_none_iff_exists'.mp ((ifTlv_inside_iff get zero old).mpr h)

/-- What the variable was before is left in it only if there is no TLV of the type. -/
theorem ifTlv_old {α : Type} {get : List AimTlv → UInt16 → Int → Option α} (old old' : α)
    (h : (aimGettlv list t 1).isSome) : ifTlv list t old get = ifTlv list t old' get := by
  unfold ifTlv
  rw [if_pos h, if_pos h]

theorem ifTlv_none {α : Type} {get : List AimTlv → UInt16 → Int → Option α} (old : α)
    (h : ¬ (aimGettlv list t 1).isSome) : ifTlv list t old get = some old := by
  unfold ifTlv
  rw [if_neg h]

theorem covers_of_forall (h : ∀ tlv ∈ list, width ≤ tlv.value.length) : Covers list t n width :=
  fun tlv htlv => h tlv (mem_of_nthTlv htlv)

end Covers

end Libfaim
