import Libfaim.Lib.Loop
import Libfaim.BStream.Rules

/-!
# TLV chains (`tlv.c`)

A chain is the list of its TLVs, first element first; the null pointer is the empty list.
Allocation succeeds throughout.

The loop of `aim_readtlvchain` need not terminate, so the model gives one pass through its body
(`aimReadtlvchainPass`) and the function is the loop over it: `none` stands for a call that never
returns (`aimReadtlvchain_eq_none_iff`).
-/

namespace Libfaim

/-- `aim_tlv_t`. The value pointer and the length are one list, short enough for the 16-bit
length. -/
structure AimTlv where
  type : UInt16
  value : List UInt8
  length_lt : value.length < 65536
  deriving DecidableEq, Repr

/-- `tlv->length` -/
def AimTlv.length (tlv : AimTlv) : UInt16 := UInt16.ofNat tlv.value.length

/-- `createtlv`, and the first `length` bytes of `v` copied into the new value. -/
def createtlv (type length : UInt16) (v : List UInt8) : AimTlv where
  type := type
  value := v.take length.toNat
  length_lt := by
    have h : length.toNat < 65536 := length.toNat_lt
    rw [List.length_take]
    omega

/-! ## Reading -/

/-- One pass of the `while` loop of `aim_readtlvchain`. -/
def aimReadtlvchainPass :
    AimBstream × List AimTlv → Loop.Pass (AimBstream × List AimTlv) (List AimTlv × AimBstream)
  | (bs, list) =>
    if aimBstreamEmpty bs > 0 then
      let (type, bs) := aimbsGet16 bs
      let (length, bs) := aimbsGet16 bs
      -- errout: the chain read so far is freed
      if length.toNat > aimBstreamEmpty bs then .leave ([], bs)
      else if length = 0 then .again (bs, createtlv type length [] :: list)
      else
        match aimbsGetraw length.toNat bs with
        | (none, bs) => .leave ([], bs)
        | (some value, bs) => .again (bs, createtlv type length value :: list)
    else .leave (list, bs)

/-- `aim_readtlvchain`. A call that returns makes at most one pass for each byte left, and one
more. -/
def aimReadtlvchain (bs : AimBstream) : Option (List AimTlv × AimBstream) :=
  Loop.run aimReadtlvchainPass (aimBstreamEmpty bs + 1) (bs, [])

/-! ## Building -/

/-- `aim_addtlvtochain_raw`, where `v` points to at least `l` bytes. -/
def aimAddtlvtochainRaw (list : List AimTlv) (t l : UInt16) (v : List UInt8) :
    Nat × List AimTlv :=
  (l.toNat, list ++ [createtlv t l v])

def aimAddtlvtochain16 (list : List AimTlv) (t : UInt16) (v : UInt16) : Nat × List AimTlv :=
  aimAddtlvtochainRaw list t 2 (aimutilPut16 v)

def aimAddtlvtochain32 (list : List AimTlv) (t : UInt16) (v : UInt32) : Nat × List AimTlv :=
  aimAddtlvtochainRaw list t 4 (aimutilPut32 v)

def aimAddtlvtochainNoval (list : List AimTlv) (t : UInt16) : Nat × List AimTlv :=
  aimAddtlvtochainRaw list t 0 []

/-- A C `if` without `else` around an addition to a chain. -/
def addtlvIf (c : Prop) [Decidable c] (add : List AimTlv → Nat × List AimTlv)
    (list : List AimTlv) : List AimTlv :=
  if c then (add list).2 else list

def aimCounttlvchain (list : List AimTlv) : Nat := list.length

def aimSizetlvchain : List AimTlv → Nat
  | [] => 0
  | tlv :: cur => 4 + tlv.length.toNat + aimSizetlvchain cur

/-! ## Writing -/

/-- The write-out loop of `aim_writetlvchain`. -/
def aimWritetlvchainLoop : List AimTlv → StateM AimBstream Unit
  | [] => pure ()
  | tlv :: cur => do
    let _ ← aimbsPut16 tlv.type
    let _ ← aimbsPut16 tlv.length
    let _ ← putIf (tlv.length ≠ 0) (aimbsPutraw tlv.value tlv.length.toNat)
    aimWritetlvchainLoop cur

def aimWritetlvchain (list : List AimTlv) : StateM AimBstream Nat := fun bs =>
  -- the first loop sums up the same bytes as `aim_sizetlvchain`
  if aimSizetlvchain list > aimBstreamEmpty bs then (0, bs)
  else (1, (aimWritetlvchainLoop list bs).2)

/-- `aim_addtlvtochain_frozentlvlist`: the TLVs of `tl` become the value of one. -/
def aimAddtlvtochainFrozentlvlist (list : List AimTlv) (type : UInt16) (tl : List AimTlv) :
    Nat × List AimTlv :=
  let buflen := aimSizetlvchain tl
  if buflen = 0 then (0, list)
  else
    let bs := aimBstreamInit (List.replicate buflen 0) buflen
    let bs := (aimWritetlvchain tl bs).2
    (buflen, (aimAddtlvtochainRaw list type (UInt16.ofNat (aimBstreamCurpos bs)) bs.data).2)

/-! ## Lookup -/

/-- The loop of `aim_gettlv`, with the number `i` of TLVs of the type seen so far. -/
def aimGettlvLoop (t : UInt16) (n : Int) : List AimTlv → Int → Option AimTlv
  | [], _ => none
  | tlv :: cur, i =>
    let i := if tlv.type = t then i + 1 else i
    if i ≥ n then some tlv else aimGettlvLoop t n cur i

def aimGettlv (list : List AimTlv) (t : UInt16) (n : Int) : Option AimTlv :=
  aimGettlvLoop t n list 0

def aimGettlvStr (list : List AimTlv) (t : UInt16) (n : Int) : Option (List UInt8) :=
  (aimGettlv list t n).map (·.value)

/-- `aim_gettlv16`. A value shorter than two bytes is read past its end in C; the missing bytes are
zero here. -/
def aimGettlv16 (list : List AimTlv) (t : UInt16) (n : Int) : UInt16 :=
  match aimGettlv list t n with
  | none => 0
  | some tlv => aimutilGet16 (tlv.value ++ List.replicate (2 - tlv.value.length) 0)

/-! ## The bytes of a chain -/

/-- Type, length and value as they go over the wire. -/
def AimTlv.encode (tlv : AimTlv) : List UInt8 :=
  aimutilPut16 tlv.type ++ (aimutilPut16 tlv.length ++ tlv.value)

def encodeTlvchain (list : List AimTlv) : List UInt8 := list.flatMap AimTlv.encode

@[simp] theorem AimTlv.length_toNat (tlv : AimTlv) : tlv.length.toNat = tlv.value.length := by
  rw [AimTlv.length, UInt16.toNat_ofNat', Nat.mod_eq_of_lt tlv.length_lt]

/-- The stream over the value of a TLV. -/
theorem aimBstreamInit_value (tlv : AimTlv) :
    aimBstreamInit tlv.value tlv.length.toNat = ⟨tlv.value, 0⟩ := by
  rw [AimTlv.length_toNat, aimBstreamInit_of_lt tlv.length_lt]

/-- The first TLV of a type. -/
theorem aimGettlv_one (list : List AimTlv) (t : UInt16) :
    aimGettlv list t 1 = list.find? fun tlv => tlv.type = t := by
  unfold aimGettlv
  induction list with
  | nil => rfl
  | cons tlv cur ih =>
    unfold aimGettlvLoop
    by_cases ht : tlv.type = t
    · simp [ht]
    · simp [ht, ih]

theorem aimGettlv_isSome_iff (list : List AimTlv) (t : UInt16) :
    (aimGettlv list t 1).isSome = true ↔ ∃ tlv ∈ list, tlv.type = t := by
  rw [aimGettlv_one, List.find?_isSome]
  simp only [decide_eq_true_eq]

theorem AimTlv.length_eq_zero_iff (tlv : AimTlv) : tlv.length = 0 ↔ tlv.value = [] := by
  rw [← UInt16.toNat_inj, AimTlv.length_toNat]
  simp

/-- A TLV is determined by its type and its value. -/
theorem AimTlv.eq_of {a b : AimTlv} (ht : a.type = b.type) (hv : a.value = b.value) : a = b := by
  obtain ⟨ta, va, ha⟩ := a
  obtain ⟨tb, vb, hb⟩ := b
  simp only at ht hv
  subst ht hv
  rfl

theorem createtlv_self (tlv : AimTlv) : createtlv tlv.type tlv.length tlv.value = tlv := by
  apply AimTlv.eq_of
  · rfl
  · simp [createtlv]

/-- A TLV around a value whose length fits its length field. -/
theorem createtlv_value_of_lt {t : UInt16} {v : List UInt8} (h : v.length < 65536) :
    (createtlv t (UInt16.ofNat v.length) v).value = v := by
  have hlen : (UInt16.ofNat v.length).toNat = v.length := by
    rw [UInt16.toNat_ofNat', Nat.mod_eq_of_lt h]
  exact List.take_of_length_le (Nat.le_of_eq hlen.symm)

theorem encode_createtlv_of_lt {t : UInt16} {v : List UInt8} (h : v.length < 65536) :
    (createtlv t (UInt16.ofNat v.length) v).encode =
      aimutilPut16 t ++ (aimutilPut16 (UInt16.ofNat v.length) ++ v) := by
  rw [AimTlv.encode, AimTlv.length, createtlv_value_of_lt h]
  rfl

/-- A TLV under a condition. -/
def optTlv (c : Prop) [Decidable c] (tlv : AimTlv) : List AimTlv := if c then [tlv] else []

theorem addtlvIf_eq {c : Prop} [Decidable c] {add : List AimTlv → Nat × List AimTlv} {tlv : AimTlv}
    {list : List AimTlv} (h : (add list).2 = list ++ [tlv]) :
    addtlvIf c add list = list ++ optTlv c tlv := by
  unfold addtlvIf optTlv
  by_cases hc : c
  · rw [if_pos hc, if_pos hc, h]
  · rw [if_neg hc, if_neg hc, List.append_nil]

theorem addtlvIf_noval (c : Prop) [Decidable c] (t : UInt16) (list : List AimTlv) :
    addtlvIf c (aimAddtlvtochainNoval · t) list = list ++ optTlv c (createtlv t 0 []) :=
  addtlvIf_eq rfl

theorem addtlvIf_16 (c : Prop) [Decidable c] (t v : UInt16) (list : List AimTlv) :
    addtlvIf c (aimAddtlvtochain16 · t v) list =
      list ++ optTlv c (createtlv t 2 (aimutilPut16 v)) :=
  addtlvIf_eq rfl

theorem addtlvIf_32 (c : Prop) [Decidable c] (t : UInt16) (v : UInt32) (list : List AimTlv) :
    addtlvIf c (aimAddtlvtochain32 · t v) list =
      list ++ optTlv c (createtlv t 4 (aimutilPut32 v)) :=
  addtlvIf_eq rfl

@[simp] theorem AimTlv.encode_length (tlv : AimTlv) :
    tlv.encode.length = 4 + tlv.value.length := by
  simp only [AimTlv.encode, List.length_append, aimutilPut16_length]
  omega

@[simp] theorem encodeTlvchain_nil : encodeTlvchain [] = [] := rfl

@[simp] theorem encodeTlvchain_cons (tlv : AimTlv) (cur : List AimTlv) :
    encodeTlvchain (tlv :: cur) = tlv.encode ++ encodeTlvchain cur := rfl

@[simp] theorem encodeTlvchain_append (l m : List AimTlv) :
    encodeTlvchain (l ++ m) = encodeTlvchain l ++ encodeTlvchain m := List.flatMap_append

theorem encodeTlvchain_length (list : List AimTlv) :
    (encodeTlvchain list).length = aimSizetlvchain list := by
  induction list with
  | nil => rfl
  | cons tlv cur ih => simp [aimSizetlvchain, ih]

/-- Every TLV takes some bytes. -/
theorem length_le_encodeTlvchain (list : List AimTlv) :
    list.length ≤ (encodeTlvchain list).length := by
  induction list with
  | nil => exact Nat.zero_le _
  | cons tlv cur ih =>
    rw [encodeTlvchain_cons, List.length_append, AimTlv.encode_length, List.length_cons]
    omega

end Libfaim
