import Libfaim.Tlv.RoundTrip

/-!
# A chain as the value of a TLV

`aim_addtlvtochain_frozentlvlist` sizes its buffer with an `int`, but the stream over it and the TLV
have lengths of sixteen bits. A chain that does not fit is not written at all, and the function goes
on with no bytes: it appends an empty TLV and returns the size of the chain
(`frozenOrUnchanged_iff`).
-/

namespace Libfaim

/-- Either one TLV is appended, with a value that reads back as the TLVs of the chain, and its
length is returned, or nothing is appended and the function returns 0. -/
def FrozenOrUnchanged (list : List AimTlv) (type : UInt16) (tl : List AimTlv) : Prop :=
  (∃ tlv bs', (aimAddtlvtochainFrozentlvlist list type tl).2 = list ++ [tlv] ∧ tlv.type = type ∧
    aimReadtlvchain ⟨tlv.value, 0⟩ = some (tl.reverse, bs') ∧
    (aimAddtlvtochainFrozentlvlist list type tl).1 = tlv.value.length) ∨
  aimAddtlvtochainFrozentlvlist list type tl = (0, list)

section Frozen

variable {list tl : List AimTlv} {type : UInt16}

theorem aimAddtlvtochainFrozentlvlist_zero (h : aimSizetlvchain tl = 0) :
    aimAddtlvtochainFrozentlvlist list type tl = (0, list) := by
  unfold aimAddtlvtochainFrozentlvlist
  exact if_pos h

/-- A chain that fits becomes the value. -/
theorem aimAddtlvtochainFrozentlvlist_of_lt (h : aimSizetlvchain tl < 65536)
    (hpos : aimSizetlvchain tl ≠ 0) :
    aimAddtlvtochainFrozentlvlist list type tl = (aimSizetlvchain tl,
      list ++ [⟨type, encodeTlvchain tl, by rwa [encodeTlvchain_length]⟩]) := by
  have hlen := encodeTlvchain_length tl
  have hfull := (writes_aimWritetlvchain tl).init_full (by rwa [hlen])
  rw [hlen] at hfull
  unfold aimAddtlvtochainFrozentlvlist
  dsimp only
  rw [if_neg hpos, hfull]
  dsimp only [aimAddtlvtochainRaw, aimBstreamCurpos]
  congr 3
  apply AimTlv.eq_of
  · rfl
  · show (encodeTlvchain tl).take (UInt16.ofNat (aimSizetlvchain tl)).toNat = encodeTlvchain tl
    rw [UInt16.toNat_ofNat', Nat.mod_eq_of_lt h, ← hlen, List.take_length]

/-- A stream with 65536 bytes or more under it is shorter than what would be written. -/
theorem aimWritetlvchain_of_large (h : 65536 ≤ aimSizetlvchain tl) :
    (aimWritetlvchain tl (aimBstreamInit (List.replicate (aimSizetlvchain tl) 0)
      (aimSizetlvchain tl))).2.offset = 0 := by
  have hempty : aimSizetlvchain tl > aimBstreamEmpty
      (aimBstreamInit (List.replicate (aimSizetlvchain tl) 0) (aimSizetlvchain tl)) := by
    have hmod : ((aimSizetlvchain tl : Int) % 65536).toNat < 65536 := by omega
    simp only [aimBstreamEmpty, aimBstreamInit, AimBstream.len, List.length_append,
      List.length_take, List.length_replicate]
    omega
  unfold aimWritetlvchain
  rw [if_pos hempty]
  rfl

/-- Of a chain that does not fit there is an empty TLV. -/
theorem aimAddtlvtochainFrozentlvlist_of_large (h : 65536 ≤ aimSizetlvchain tl) :
    aimAddtlvtochainFrozentlvlist list type tl =
      (aimSizetlvchain tl, list ++ [⟨type, [], Nat.zero_lt_succ _⟩]) := by
  have hwrite := aimWritetlvchain_of_large h
  have hpos : aimSizetlvchain tl ≠ 0 := by omega
  unfold aimAddtlvtochainFrozentlvlist
  dsimp only
  rw [if_neg hpos, aimBstreamCurpos, hwrite]
  rfl

theorem not_frozenOrUnchanged_of_large (h : 65536 ≤ aimSizetlvchain tl) :
    ¬ FrozenOrUnchanged list type tl := by
  unfold FrozenOrUnchanged
  rw [aimAddtlvtochainFrozentlvlist_of_large h]
  rintro (⟨tlv, bs', happend, -, -, hret⟩ | hunchanged)
  · obtain rfl : _ = tlv := List.singleton_inj.mp (List.append_cancel_left happend)
    have hzero : aimSizetlvchain tl = 0 := hret
    omega
  · have hzero : aimSizetlvchain tl = 0 := congrArg Prod.fst hunchanged
    omega

/-- The chain becomes the value of one TLV, or nothing happens, if and only if it has fewer than
65536 bytes. -/
theorem frozenOrUnchanged_iff (list : List AimTlv) (type : UInt16) (tl : List AimTlv) :
    FrozenOrUnchanged list type tl ↔ aimSizetlvchain tl < 65536 := by
  constructor
  · intro h
    by_contra hlarge
    exact not_frozenOrUnchanged_of_large (Nat.not_lt.mp hlarge) h
  · intro h
    unfold FrozenOrUnchanged
    by_cases hzero : aimSizetlvchain tl = 0
    · exact Or.inr (aimAddtlvtochainFrozentlvlist_zero hzero)
    · rw [aimAddtlvtochainFrozentlvlist_of_lt h hzero]
      exact Or.inl ⟨_, _, rfl, rfl, aimReadtlvchain_encode tl rfl, (encodeTlvchain_length tl).symm⟩

end Frozen

/-- One TLV with 65532 bytes and a header of four. -/
def largeTlv : AimTlv := ⟨0x0001, List.replicate 65532 0, by rw [List.length_replicate]; omega⟩

theorem not_frozenOrUnchanged_largeTlv : ¬ FrozenOrUnchanged [] 0x0005 [largeTlv] := by
  have hlen : largeTlv.value.length = 65532 := List.length_replicate
  have hsize : aimSizetlvchain [largeTlv] = 65536 := by
    rw [aimSizetlvchain, AimTlv.length_toNat, hlen, aimSizetlvchain]
  exact not_frozenOrUnchanged_of_large (Nat.le_of_eq hsize.symm)

end Libfaim
