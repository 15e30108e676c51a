import Libfaim.Tlv.Getters

/-!
# TLVs that agree

A list says one thing under a type where all of its TLVs of the type have one value, or there are
none of them (`TlvIs`). Then it does not matter in which order the list was read, and every getter
has what was said: a number that was put there, a string, or the value for a missing one.
-/

namespace Libfaim

/-- All TLVs of the type have the value `v`, and there are some unless `v` is missing. -/
def TlvIs (list : List AimTlv) (t : UInt16) (v : Option (List UInt8)) : Prop :=
  ∀ w, (∃ tlv ∈ list, tlv.type = t ∧ tlv.value = w) ↔ v = some w

namespace TlvIs

variable {list : List AimTlv} {t : UInt16} {v : Option (List UInt8)}

theorem reverse (h : TlvIs list t v) : TlvIs list.reverse t v := by
  intro w
  rw [← h w]
  simp only [List.mem_reverse]

theorem value (h : TlvIs list t v) : (aimGettlv list t 1).map (·.value) = v := by
  cases hfound : aimGettlv list t 1 with
  | none =>
    cases v with
    | none => rfl
    | some w =>
      obtain ⟨tlv, hmem, htype, -⟩ := (h w).mpr rfl
      have hsome := (aimGettlv_isSome_iff list t).mpr ⟨tlv, hmem, htype⟩
      rw [hfound] at hsome
      cases hsome
  | some tlv =>
    rw [aimGettlv_eq_nthTlv] at hfound
    obtain ⟨hmem, htype⟩ := nthTlv_one_eq_some hfound
    exact ((h tlv.value).mp ⟨tlv, hmem, htype, rfl⟩).symm

theorem isSome (h : TlvIs list t v) : (aimGettlv list t 1).isSome = v.isSome := by
  rw [← h.value, Option.isSome_map]

theorem str (h : TlvIs list t v) : aimGettlvStr list t 1 = v := h.value

theorem ifTlvStr (h : TlvIs list t v) : ifTlvStr list t = v := by
  rw [Libfaim.ifTlvStr, h.isSome, h.str]
  cases v with
  | none => rfl
  | some w => rfl

section Num

variable {α : Type} {n : Nat} {get : List UInt8 → α} {put : α → List UInt8} {x : Option α}

/-- A number that was put is got, and a missing one is zero. -/
theorem num (h : TlvIs list t (x.map put)) (zero : α) (hlen : ∀ y, (put y).length = n)
    (hget : ∀ y r, get (put y ++ r) = y) :
    aimGettlvNum n get zero list t 1 = some (x.getD zero) := by
  have hvalue := h.value
  rw [aimGettlvNum]
  cases hfound : aimGettlv list t 1 with
  | none =>
    rw [hfound] at hvalue
    cases x with
    | none => rfl
    | some y => cases hvalue
  | some tlv =>
    rw [hfound] at hvalue
    cases x with
    | none => cases hvalue
    | some y =>
      have hput : tlv.value = put y := Option.some.inj hvalue
      have hbytes : valueBytes n (put y) = some (put y) := by
        rw [valueBytes_of_le (Nat.le_of_eq (hlen y).symm), ← hlen y, List.take_length]
      have hy : get (put y) = y := by rw [← List.append_nil (put y), hget]
      dsimp only
      rw [hput, hbytes, Option.map_some, hy, Option.getD_some]

theorem ifTlv (h : TlvIs list t (x.map put)) (zero : α) (hlen : ∀ y, (put y).length = n)
    (hget : ∀ y r, get (put y ++ r) = y) :
    ifTlv list t zero (aimGettlvNum n get zero) = some (x.getD zero) := by
  rw [Libfaim.ifTlv, h.isSome, h.num zero hlen hget]
  cases x with
  | none => rfl
  | some y => rfl

end Num

end TlvIs

end Libfaim
