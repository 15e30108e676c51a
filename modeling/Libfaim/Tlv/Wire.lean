import Libfaim.Tlv.RoundTrip

/-!
# Chains on the wire

What `aim_readtlvchain` returns depends on the tail that is left behind the complete TLVs of its
stream: without one the chain is their reverse, on four bytes or more there is no chain, and on two
bytes there is one TLV more than was read (`aimReadtlvchain_dangling`). So the encodings of the
chain, in wire order, are the bytes that were read exactly where no two bytes dangle
(`aimReadtlvchain_reencodes_iff`).

A chain that is written and read comes back reversed, so `aim_gettlv` counts the TLVs of a type from
the other end (`aimGettlv_readBack`).
-/

namespace Libfaim

/-! ## Encoding what was read -/

/-- Complete TLVs, and then two bytes more. -/
def DanglingType (bytes : List UInt8) : Prop :=
  ∃ list tail, bytes = encodeTlvchain list ++ tail ∧ tail.length = 2

/-- The bytes between the offset of `bs` and the later one of `bs'`. -/
def consumed (bs bs' : AimBstream) : List UInt8 := bs.rest.take (bs'.offset - bs.offset)

/-- Where `aim_readtlvchain` returns a chain, the encodings of its TLVs from the last to the first
are the bytes it has read, and nothing is left. -/
def Reencodes (bs : AimBstream) : Prop :=
  ∀ chain bs', aimReadtlvchain bs = some (chain, bs') → chain ≠ [] →
    consumed bs bs' = encodeTlvchain chain.reverse ∧ aimBstreamEmpty bs' = 0

section Read

variable {bs : AimBstream} {list : List AimTlv} {tail : List UInt8}

/-- The fuel of the function after one pass for each complete TLV. -/
theorem aimReadtlvchain_run_tail (h : bs.rest = encodeTlvchain list ++ tail) :
    ∃ fuel, tail.length ≤ fuel ∧ aimReadtlvchain bs =
      Loop.run aimReadtlvchainPass (fuel + 1)
        (bs.skip (encodeTlvchain list).length, list.reverse) := by
  have hle := length_le_encodeTlvchain list
  have hempty : aimBstreamEmpty bs = (encodeTlvchain list).length + tail.length := by
    rw [← bs.length_rest, h, List.length_append]
  obtain ⟨k, hk⟩ := Nat.exists_eq_add_of_le hle
  refine ⟨k + tail.length, by omega, ?_⟩
  have hfuel : aimBstreamEmpty bs + 1 = list.length + (k + tail.length + 1) := by omega
  unfold aimReadtlvchain
  rw [hfuel, aimReadtlvchain_run_encode list [] h, List.append_nil]

/-- Two bytes at the end make a TLV without a value. -/
theorem aimReadtlvchain_dangling (h : bs.rest = encodeTlvchain list ++ tail)
    (htail : tail.length = 2) :
    ∃ tlv, aimReadtlvchain bs =
      some (tlv :: list.reverse, bs.skip ((encodeTlvchain list).length + 2)) := by
  obtain ⟨fuel, hfuel, hrun⟩ := aimReadtlvchain_run_tail h
  have hrest := bs.rest_skip_of_append h
  obtain ⟨tlv, hpass⟩ := aimReadtlvchainPass_short list.reverse
    (show 0 < (bs.skip (encodeTlvchain list).length).rest.length by rw [hrest]; omega)
    (by rw [hrest]; omega)
  rw [hrest, if_neg (by omega), AimBstream.skip_skip] at hpass
  have hend : (bs.skip ((encodeTlvchain list).length + 2)).rest = [] := by
    rw [← AimBstream.skip_skip, AimBstream.rest_skip, hrest]
    exact List.drop_eq_nil_of_le (Nat.le_of_eq htail)
  obtain ⟨k, rfl⟩ : ∃ k, fuel = k + 1 := ⟨fuel - 1, by omega⟩
  exact ⟨tlv, by rw [hrun, Loop.run_again hpass, Loop.run_leave (aimReadtlvchainPass_nil hend)]⟩

/-- A cut TLV of four bytes or more is an error. -/
theorem aimReadtlvchain_cut (h : bs.rest = encodeTlvchain list ++ tail)
    (htail : 4 ≤ tail.length) (hcut : IncompleteTlv tail) :
    ∃ bs', aimReadtlvchain bs = some ([], bs') := by
  obtain ⟨fuel, -, hrun⟩ := aimReadtlvchain_run_tail h
  have hrest := bs.rest_skip_of_append h
  rw [← hrest] at htail hcut
  obtain ⟨bs', hpass⟩ := aimReadtlvchainPass_incomplete list.reverse htail hcut
  exact ⟨bs', by rw [hrun, Loop.run_leave hpass]⟩

theorem aimReadtlvchain_stray (h : StrayByte bs.rest) : aimReadtlvchain bs = none := by
  rw [aimReadtlvchain_eq_none_iff]
  exact aimReadtlvchain_not_terminates_of_stray h

end Read

theorem reencodes_of_whole {bs : AimBstream} {list : List AimTlv}
    (h : bs.rest = encodeTlvchain list) : Reencodes bs := by
  intro chain bs' hread _
  rw [aimReadtlvchain_encode list h] at hread
  obtain ⟨rfl, rfl⟩ := Prod.mk.inj (Option.some.inj hread)
  constructor
  · rw [List.reverse_reverse, consumed, AimBstream.skip_offset, Nat.add_sub_cancel_left, h,
      List.take_length]
  · rw [← AimBstream.length_rest, AimBstream.rest_skip, h, List.drop_length, List.length_nil]

theorem not_reencodes_of_dangling {bs : AimBstream} (h : DanglingType bs.rest) :
    ¬ Reencodes bs := by
  obtain ⟨list, tail, hrest, htail⟩ := h
  intro hre
  obtain ⟨tlv, hread⟩ := aimReadtlvchain_dangling hrest htail
  obtain ⟨hconsumed, -⟩ := hre _ _ hread (List.cons_ne_nil _ _)
  -- the header of the last TLV alone takes four bytes, of which two were read
  have hlen := congrArg List.length hconsumed
  rw [List.reverse_cons, List.reverse_reverse, encodeTlvchain_append, consumed, List.length_take,
    AimBstream.skip_offset, hrest, List.length_append, List.length_append, encodeTlvchain_cons,
    encodeTlvchain_nil, List.append_nil, AimTlv.encode_length] at hlen
  omega

/-- What `aim_readtlvchain` has read is what `aim_writetlvchain` writes for its chain, exactly where
the complete TLVs are not followed by two bytes. -/
theorem aimReadtlvchain_reencodes_iff (bs : AimBstream) :
    Reencodes bs ↔ ¬ DanglingType bs.rest := by
  constructor
  · intro hre hdangling
    exact not_reencodes_of_dangling hdangling hre
  · intro hno
    obtain ⟨list, tail, hrest, htail⟩ := exists_tlvFraming bs.rest
    have h2 : tail.length ≠ 2 := fun h2 => hno ⟨list, tail, hrest, h2⟩
    rcases Nat.lt_or_ge tail.length 4 with h4 | h4
    · rcases Nat.eq_zero_or_pos tail.length with h0 | hpos
      · rw [List.length_eq_zero_iff.mp h0, List.append_nil] at hrest
        exact reencodes_of_whole hrest
      · -- one byte, or three: the function does not return
        intro chain bs' hread
        rw [aimReadtlvchain_stray ⟨list, tail, hrest, by omega⟩] at hread
        cases hread
    · intro chain bs' hread hne
      obtain ⟨bs'', hcut⟩ := aimReadtlvchain_cut hrest h4 htail
      rw [hcut] at hread
      obtain ⟨rfl, -⟩ := Prod.mk.inj (Option.some.inj hread)
      exact absurd rfl hne

/-- The two bytes `00 05` are read as a TLV whose encoding has four bytes. -/
theorem not_reencodes_two_bytes : ¬ Reencodes ⟨[0, 5], 0⟩ := by
  intro hre
  obtain ⟨hconsumed, -⟩ := hre [createtlv 5 0 []] ⟨[0, 5], 2⟩ (by decide) (by decide)
  exact absurd hconsumed (by decide)

/-! ## Looking up what was sent -/

/-- The chain is written into a stream of its size and read back from the start. -/
def readBack (list : List AimTlv) : Option (List AimTlv × AimBstream) :=
  let size := aimSizetlvchain list
  let bs := aimBstreamInit (List.replicate size 0) size
  aimReadtlvchain (aimBstreamRewind (aimWritetlvchain list bs).2).2

/-- The TLVs of a type, in list order. -/
def tlvsOfType (t : UInt16) (list : List AimTlv) : List AimTlv :=
  list.filter fun tlv => tlv.type = t

theorem tlvsOfType_reverse (t : UInt16) (list : List AimTlv) :
    tlvsOfType t list.reverse = (tlvsOfType t list).reverse := List.filter_reverse

theorem length_tlvsOfType_le (t : UInt16) (list : List AimTlv) :
    (tlvsOfType t list).length ≤ aimCounttlvchain list := List.length_filter_le ..

theorem readBack_eq {list : List AimTlv} (h : aimSizetlvchain list ≤ 65535) :
    readBack list = some (list.reverse, ⟨encodeTlvchain list, aimSizetlvchain list⟩) := by
  have hlen := encodeTlvchain_length list
  have hfull := (writes_aimWritetlvchain list).init_full (by omega)
  rw [hlen] at hfull
  have hrewind : (aimBstreamRewind ⟨encodeTlvchain list, aimSizetlvchain list⟩).2 =
      ⟨encodeTlvchain list, 0⟩ := by
    show (aimBstreamSetpos 0 _).2 = _
    rw [aimBstreamSetpos_of_le (Nat.zero_le _)]
  have hread := @aimReadtlvchain_encode list ⟨encodeTlvchain list, 0⟩ rfl
  unfold readBack
  dsimp only
  rw [hfull, hrewind, hread, hlen, AimBstream.skip, Nat.zero_add]

/-- The counting loop, having seen `i` TLVs of the type. -/
theorem aimGettlvLoop_eq (t : UInt16) (list : List AimTlv) (i : Int) (k : Nat) :
    aimGettlvLoop t (i + k + 1) list i = (tlvsOfType t list)[k]? := by
  induction list generalizing i k with
  | nil => rfl
  | cons tlv cur ih =>
    rw [aimGettlvLoop]
    by_cases ht : tlv.type = t
    · have hfilter : tlvsOfType t (tlv :: cur) = tlv :: tlvsOfType t cur :=
        List.filter_cons_of_pos (by simpa using ht)
      rw [if_pos ht, hfilter]
      cases k with
      | zero =>
        rw [if_pos (by simp)]
        rfl
      | succ k =>
        have hpast : ¬ i + 1 ≥ i + ((k + 1 : Nat) : Int) + 1 := by
          push_cast
          omega
        have hnext : i + ((k + 1 : Nat) : Int) + 1 = (i + 1) + k + 1 := by
          push_cast
          omega
        rw [if_neg hpast, hnext, ih, List.getElem?_cons_succ]
    · have hfilter : tlvsOfType t (tlv :: cur) = tlvsOfType t cur :=
        List.filter_cons_of_neg (by simpa using ht)
      rw [if_neg ht, if_neg (by omega), hfilter]
      exact ih i k

/-- `aim_gettlv` counts the TLVs of the type from 1 on. -/
theorem aimGettlv_eq_getElem? (list : List AimTlv) (t : UInt16) (k : Nat) :
    aimGettlv list t (k + 1 : Nat) = (tlvsOfType t list)[k]? := by
  have h := aimGettlvLoop_eq t list 0 k
  rw [Int.zero_add] at h
  exact h

/-- The strings of a type in the order `aim_gettlv_str` counts them. -/
theorem aimGettlvStr_ofType (list : List AimTlv) (t : UInt16) (j : Nat) :
    aimGettlvStr list t (j + 1) = (tlvsOfType t list)[j]?.map (·.value) := by
  rw [aimGettlvStr, ← Int.natCast_succ, aimGettlv_eq_getElem?]

/-- What is left from the position of an element on begins with the element. -/
theorem drop_of_getElem? {α : Type} {l : List α} {j : Nat} {x : α} (h : l[j]? = some x) :
    l.drop j = x :: l.drop (j + 1) := by
  obtain ⟨hlt, rfl⟩ := List.getElem?_eq_some_iff.mp h
  exact List.drop_eq_getElem_cons hlt

theorem aimGettlv_eq_none {list : List AimTlv} {t : UInt16} {n : Nat}
    (h : (tlvsOfType t list).length < n) : aimGettlv list t n = none := by
  cases n with
  | zero => omega
  | succ k =>
    rw [aimGettlv_eq_getElem?, List.getElem?_eq_none_iff]
    omega

/-- Of `k` TLVs of a type the `n`-th one of the chain that is read is the one that had `k - n` of
them behind it in the chain that was sent. -/
theorem aimGettlv_readBack {list : List AimTlv} (hfits : aimSizetlvchain list ≤ 65535)
    (t : UInt16) {n : Nat} (hn : 1 ≤ n) :
    ∃ chain bs', readBack list = some (chain, bs') ∧
      (n ≤ (tlvsOfType t list).length →
        aimGettlv chain t n = aimGettlv list t ((tlvsOfType t list).length + 1 - n : Nat)) ∧
      ((tlvsOfType t list).length < n →
        aimGettlv chain t n = none ∧ aimGettlv list t n = none) := by
  refine ⟨_, _, readBack_eq hfits, ?_, ?_⟩
  · intro hle
    obtain ⟨k, rfl⟩ : ∃ k, n = k + 1 := ⟨n - 1, by omega⟩
    have hlt : k < (tlvsOfType t list).length := by omega
    have hindex : (tlvsOfType t list).length + 1 - (k + 1) =
        (tlvsOfType t list).length - 1 - k + 1 := by omega
    rw [aimGettlv_eq_getElem?, tlvsOfType_reverse, List.getElem?_reverse hlt, hindex,
      aimGettlv_eq_getElem?]
  · intro hgt
    constructor
    · apply aimGettlv_eq_none
      rwa [tlvsOfType_reverse, List.length_reverse]
    · exact aimGettlv_eq_none hgt

section Example

/-- Two TLVs of one type around one of another. -/
def threeTlvs : List AimTlv := [createtlv 1 1 [7], createtlv 2 0 [], createtlv 1 1 [8]]

theorem aimGettlv_readBack_three : ∃ chain bs', readBack threeTlvs = some (chain, bs') ∧
    (1 ≤ (tlvsOfType 1 threeTlvs).length → aimGettlv chain 1 (1 : Nat) =
      aimGettlv threeTlvs 1 ((tlvsOfType 1 threeTlvs).length + 1 - 1 : Nat)) ∧
    ((tlvsOfType 1 threeTlvs).length < 1 →
      aimGettlv chain 1 (1 : Nat) = none ∧ aimGettlv threeTlvs 1 (1 : Nat) = none) :=
  aimGettlv_readBack (by decide) 1 (by decide)

/-- The first TLV of type 1 that is sent is the second one that is found. -/
theorem not_aimGettlv_readBack : ¬ ∀ (list : List AimTlv) (t : UInt16) (n : Nat),
    aimSizetlvchain list ≤ 65535 → 1 ≤ n → ∃ chain bs', readBack list = some (chain, bs') ∧
      aimGettlv chain t n = aimGettlv list t n := by
  intro h
  obtain ⟨chain, bs', hread, hget⟩ := h threeTlvs 1 1 (by decide) (by decide)
  have hchain : readBack threeTlvs = some (threeTlvs.reverse, bs') := by
    rw [readBack_eq (by decide)] at hread ⊢
    rw [(Prod.mk.inj (Option.some.inj hread)).2]
  obtain ⟨rfl, -⟩ := Prod.mk.inj (Option.some.inj (hread.symm.trans hchain))
  exact absurd hget (by decide)

end Example

end Libfaim
