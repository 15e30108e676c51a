import Libfaim.Tlv

/-!
# Reading a TLV chain: progress and termination

The bytes left in a stream are complete TLVs followed by a tail that does not hold another one
(`exists_tlvFraming`). The loop of `aim_readtlvchain` takes one pass for each complete TLV
(`aimReadtlvchain_run_encode`) and then depends on the tail only: an empty one ends the loop, two
bytes make one more TLV without a value, a header whose length runs past the end is an error. On
one or three bytes (`StrayByte`) neither `aimbs_get16` of the last pass finds its two bytes, and
the loop goes on for ever making TLVs out of nothing.
-/

namespace Libfaim

/-- The bytes are complete TLVs followed by a single byte, or by three. -/
def StrayByte (bytes : List UInt8) : Prop :=
  ∃ list tail, bytes = encodeTlvchain list ++ tail ∧ (tail.length = 1 ∨ tail.length = 3)

/-- No TLV can be read off the front: the header is cut, or its length runs past the end. -/
def IncompleteTlv (tail : List UInt8) : Prop :=
  tail.length < 4 ∨ tail.length < 4 + (aimutilGet16 (tail.drop 2)).toNat

/-! ## Framing -/

/-- Four bytes with the value they announce behind them are a TLV. -/
theorem exists_encode_append {bytes : List UInt8} (h : ¬ IncompleteTlv bytes) :
    ∃ (tlv : AimTlv) (r : List UInt8), bytes = tlv.encode ++ r := by
  unfold IncompleteTlv at h
  rw [not_or] at h
  obtain ⟨hhdr, hval⟩ := h
  have htype : (bytes.take 2).length = 2 := by rw [List.length_take]; omega
  have hlen : ((bytes.drop 2).take 2).length = 2 := by
    rw [List.length_take, List.length_drop]; omega
  have hget : aimutilGet16 (bytes.drop 2) = aimutilGet16 ((bytes.drop 2).take 2) := by
    simp only [aimutilGet16, List.take_take, Nat.min_self]
  set tlv := createtlv (aimutilGet16 (bytes.take 2)) (aimutilGet16 (bytes.drop 2)) (bytes.drop 4)
    with htlv
  have hvalue : tlv.value = (bytes.drop 4).take (aimutilGet16 (bytes.drop 2)).toNat := rfl
  have hlength : tlv.length = aimutilGet16 (bytes.drop 2) := by
    apply UInt16.toNat_inj.mp
    rw [AimTlv.length_toNat, hvalue, List.length_take, List.length_drop]
    omega
  refine ⟨tlv, (bytes.drop 4).drop (aimutilGet16 (bytes.drop 2)).toNat, ?_⟩
  have htype' : tlv.type = aimutilGet16 (bytes.take 2) := rfl
  rw [AimTlv.encode, htype', hlength, aimutilPut16_get16 htype, hget, aimutilPut16_get16 hlen,
    hvalue, ← hget, List.append_assoc, List.append_assoc, List.take_append_drop]
  have hdrop : bytes.drop 4 = (bytes.drop 2).drop 2 := by rw [List.drop_drop]
  rw [hdrop, List.take_append_drop, List.take_append_drop]

theorem exists_tlvFraming (bytes : List UInt8) :
    ∃ list tail, bytes = encodeTlvchain list ++ tail ∧ IncompleteTlv tail := by
  induction hn : bytes.length using Nat.strongRecOn generalizing bytes with
  | _ n ih =>
    by_cases h : IncompleteTlv bytes
    · exact ⟨[], bytes, rfl, h⟩
    · obtain ⟨tlv, r, rfl⟩ := exists_encode_append h
      have hlt : r.length < n := by
        rw [← hn, List.length_append, AimTlv.encode_length]
        omega
      obtain ⟨list, tail, rfl, ht⟩ := ih _ hlt r rfl
      exact ⟨tlv :: list, tail, by simp, ht⟩

theorem StrayByte.cons {bytes : List UInt8} (tlv : AimTlv) (h : StrayByte bytes) :
    StrayByte (tlv.encode ++ bytes) := by
  obtain ⟨list, tail, rfl, ht⟩ := h
  exact ⟨tlv :: list, tail, by simp, ht⟩

theorem not_strayByte_nil : ¬ StrayByte [] := by
  rintro ⟨list, tail, h, ht⟩
  have := congrArg List.length h
  rw [List.length_append, List.length_nil] at this
  omega

/-! ## One pass -/

section Pass

variable {bs : AimBstream} {list : List AimTlv}

theorem aimReadtlvchainPass_nil (h : bs.rest = []) :
    aimReadtlvchainPass (bs, list) = .leave (list, bs) := by
  have hempty : ¬ aimBstreamEmpty bs > 0 := by simp [← bs.length_rest, h]
  simp only [aimReadtlvchainPass, if_neg hempty]

/-- The header of a TLV that is next. -/
theorem aimbsGet16_encode {tlv : AimTlv} {r : List UInt8} (h : bs.rest = tlv.encode ++ r) :
    aimbsGet16 bs = (tlv.type, bs.skip 2) ∧ aimbsGet16 (bs.skip 2) = (tlv.length, bs.skip 4) ∧
      (bs.skip 4).rest = tlv.value ++ r := by
  rw [AimTlv.encode, List.append_assoc] at h
  have htype := reads_aimbsGet16 tlv.type bs _ h
  have h' := bs.rest_skip_of_append h
  rw [List.append_assoc] at h'
  have hlength := reads_aimbsGet16 tlv.length _ _ h'
  have h'' := AimBstream.rest_skip_of_append _ h'
  simp only [aimutilPut16_length, AimBstream.skip_skip] at htype hlength h''
  exact ⟨htype, hlength, h''⟩

theorem aimReadtlvchainPass_encode {tlv : AimTlv} {r : List UInt8} (h : bs.rest = tlv.encode ++ r) :
    aimReadtlvchainPass (bs, list) = .again (bs.skip tlv.encode.length, tlv :: list) := by
  have hempty : aimBstreamEmpty bs > 0 := by
    rw [← bs.length_rest, h, List.length_append, AimTlv.encode_length]
    omega
  obtain ⟨htype, hlength, hrest⟩ := aimbsGet16_encode h
  simp only [aimReadtlvchainPass, if_pos hempty, htype, hlength]
  have hfits : ¬ tlv.length.toNat > aimBstreamEmpty (bs.skip 4) := by
    rw [← AimBstream.length_rest, hrest, List.length_append, AimTlv.length_toNat]
    omega
  rw [if_neg hfits]
  by_cases hz : tlv.length = 0
  · have hv := tlv.length_eq_zero_iff.mp hz
    have hself := createtlv_self tlv
    rw [hz, hv] at hself
    simp only [hz, if_true, hself, AimTlv.encode_length, hv, List.length_nil]
  · have hvalue := reads_aimbsGetraw (tlv.length_toNat).symm _ _ hrest
    rw [if_neg hz, hvalue]
    simp only [createtlv_self, AimBstream.skip_skip, AimTlv.encode_length]

theorem aimReadtlvchainPass_incomplete (list : List AimTlv) (h4 : 4 ≤ bs.rest.length)
    (h : IncompleteTlv bs.rest) :
    ∃ bs', aimReadtlvchainPass (bs, list) = .leave ([], bs') := by
  have hval : bs.rest.length < 4 + (aimutilGet16 (bs.rest.drop 2)).toNat :=
    h.resolve_left (by omega)
  rw [bs.length_rest] at h4 hval
  have hskip : aimBstreamEmpty (bs.skip 2) = aimBstreamEmpty bs - 2 := by
    simp only [aimBstreamEmpty, AimBstream.skip_len, AimBstream.skip_offset]
    omega
  have hskip' : aimBstreamEmpty ((bs.skip 2).skip 2) = aimBstreamEmpty bs - 4 := by
    simp only [aimBstreamEmpty, AimBstream.skip_len, AimBstream.skip_offset]
    omega
  refine ⟨(bs.skip 2).skip 2, ?_⟩
  simp only [aimReadtlvchainPass, aimbsGet16, aimbsGet, hskip, if_pos (show aimBstreamEmpty bs > 0 by
    omega), if_neg (show ¬ aimBstreamEmpty bs < 2 by omega),
    if_neg (show ¬ aimBstreamEmpty bs - 2 < 2 by omega), hskip', AimBstream.rest_skip]
  rw [if_pos (by omega)]

/-- With fewer than four bytes left and at least one, a TLV without a value comes out: two of the
bytes are its type if there are that many, and nothing else is read. -/
theorem aimReadtlvchainPass_short (list : List AimTlv) (hpos : 0 < bs.rest.length)
    (h : bs.rest.length < 4) :
    ∃ tlv, aimReadtlvchainPass (bs, list) =
      .again (if bs.rest.length < 2 then bs else bs.skip 2, tlv :: list) := by
  rw [bs.length_rest] at hpos h ⊢
  by_cases h2 : aimBstreamEmpty bs < 2
  · refine ⟨createtlv 0 0 [], ?_⟩
    simp only [aimReadtlvchainPass, aimbsGet16, aimbsGet, if_pos hpos, if_pos h2]
    rfl
  · have hskip : aimBstreamEmpty (bs.skip 2) < 2 := by
      simp only [aimBstreamEmpty, AimBstream.skip_len, AimBstream.skip_offset] at h ⊢
      omega
    refine ⟨createtlv (aimutilGet16 bs.rest) 0 [], ?_⟩
    simp only [aimReadtlvchainPass, aimbsGet16, aimbsGet, if_pos hpos, if_neg h2, if_pos hskip]
    rfl

end Pass

/-- Complete TLVs cost one pass each and come out in reverse. -/
theorem aimReadtlvchain_run_encode (list acc : List AimTlv) {bs : AimBstream} {r : List UInt8}
    (h : bs.rest = encodeTlvchain list ++ r) (fuel : Nat) :
    Loop.run aimReadtlvchainPass (list.length + fuel) (bs, acc) =
      Loop.run aimReadtlvchainPass fuel
        (bs.skip (encodeTlvchain list).length, list.reverse ++ acc) := by
  induction list generalizing bs acc with
  | nil => simp
  | cons tlv cur ih =>
    rw [encodeTlvchain_cons, List.append_assoc] at h
    have hfuel : (tlv :: cur).length + fuel = cur.length + fuel + 1 := by
      rw [List.length_cons]; omega
    rw [hfuel, Loop.run_again (aimReadtlvchainPass_encode h), ih _ (bs.rest_skip_of_append h)]
    simp

/-! ## Termination -/

/-- A pass that starts with no stray byte ahead ends the loop or moves on, with none ahead. -/
theorem aimReadtlvchainPass_progress {s t : AimBstream × List AimTlv}
    (hs : ¬ StrayByte s.1.rest) (h : aimReadtlvchainPass s = .again t) :
    ¬ StrayByte t.1.rest ∧ s.1.offset < t.1.offset ∧
      aimBstreamEmpty t.1 < aimBstreamEmpty s.1 := by
  obtain ⟨bs, list⟩ := s
  simp only at hs
  obtain ⟨chain, tail, hrest, htail⟩ := exists_tlvFraming bs.rest
  cases chain with
  | cons tlv chain =>
    rw [encodeTlvchain_cons, List.append_assoc] at hrest
    rw [aimReadtlvchainPass_encode hrest, Loop.Pass.again.injEq] at h
    subst h
    have hlen := congrArg List.length hrest
    simp only [bs.length_rest, List.length_append, AimTlv.encode_length] at hlen
    refine ⟨?_, ?_, ?_⟩
    · rw [bs.rest_skip_of_append hrest]
      intro hstray
      exact hs (hrest ▸ hstray.cons tlv)
    · simp only [AimBstream.skip_offset, AimTlv.encode_length]
      omega
    · simp only [aimBstreamEmpty, AimBstream.skip_len, AimBstream.skip_offset,
        AimTlv.encode_length] at hlen ⊢
      omega
  | nil =>
    rw [encodeTlvchain_nil, List.nil_append] at hrest
    subst hrest
    have hne : ∀ n, (n = 1 ∨ n = 3) → bs.rest.length ≠ n := by
      rintro n hn rfl
      exact hs ⟨[], bs.rest, rfl, hn⟩
    have h1 := hne 1 (Or.inl rfl)
    have h3 := hne 3 (Or.inr rfl)
    rcases Nat.lt_or_ge bs.rest.length 4 with h4 | h4
    · rcases Nat.eq_zero_or_pos bs.rest.length with h0 | hpos
      · rw [aimReadtlvchainPass_nil (List.length_eq_zero_iff.mp h0)] at h
        cases h
      · have h2 : bs.rest.length = 2 := by omega
        obtain ⟨tlv, hpass⟩ := aimReadtlvchainPass_short list hpos h4
        rw [hpass, h2, if_neg (by omega), Loop.Pass.again.injEq] at h
        subst h
        have hend : (bs.skip 2).rest = [] := by
          rw [bs.rest_skip]
          exact List.drop_eq_nil_of_le (by omega)
        refine ⟨?_, ?_, ?_⟩
        · rw [hend]
          exact not_strayByte_nil
        · simp
        · rw [← AimBstream.length_rest, hend, ← bs.length_rest, h2]
          decide
    · obtain ⟨bs', hpass⟩ := aimReadtlvchainPass_incomplete list h4 htail
      rw [hpass] at h
      cases h

theorem aimReadtlvchain_not_terminates_of_stray {bs : AimBstream} {list : List AimTlv}
    (h : StrayByte bs.rest) : ¬ Loop.Terminates aimReadtlvchainPass (bs, list) := by
  -- a single byte is never read
  have hone : ∀ (bs : AimBstream) (list : List AimTlv), bs.rest.length = 1 →
      ¬ Loop.Terminates aimReadtlvchainPass (bs, list) := by
    intro bs list hlen
    apply Loop.not_terminates_of_forever (P := fun s => s.1.rest.length = 1) _ hlen
    rintro ⟨bs, list⟩ hlen
    simp only at hlen
    obtain ⟨tlv, hpass⟩ := aimReadtlvchainPass_short list (by omega)
      (show bs.rest.length < 4 by omega)
    rw [hlen, if_pos (by omega)] at hpass
    exact ⟨_, hpass, hlen⟩
  obtain ⟨chain, tail, hrest, htail⟩ := h
  induction chain generalizing bs list with
  | cons tlv chain ih =>
    rw [encodeTlvchain_cons, List.append_assoc] at hrest
    rw [Loop.terminates_again (aimReadtlvchainPass_encode hrest)]
    exact ih (bs.rest_skip_of_append hrest)
  | nil =>
    rw [encodeTlvchain_nil, List.nil_append] at hrest
    rcases htail with h1 | h3
    · exact hone bs list (hrest ▸ h1)
    · have hlen : bs.rest.length = 3 := hrest ▸ h3
      obtain ⟨tlv, hpass⟩ := aimReadtlvchainPass_short list (by omega)
        (show bs.rest.length < 4 by omega)
      rw [hlen, if_neg (by omega)] at hpass
      rw [Loop.terminates_again hpass]
      exact hone _ _ (by rw [bs.rest_skip, List.length_drop, hlen])

theorem aimReadtlvchainPass_ne_stuck (s : AimBstream × List AimTlv) :
    aimReadtlvchainPass s ≠ .stuck := by
  obtain ⟨bs, list⟩ := s
  unfold aimReadtlvchainPass
  simp only
  repeat' split
  all_goals exact fun h => by cases h

/-- Without a stray byte the fuel `aimReadtlvchain` gives its loop is enough. -/
theorem aimReadtlvchain_isSome {bs : AimBstream} (h : ¬ StrayByte bs.rest) :
    ∃ r, aimReadtlvchain bs = some r := by
  unfold aimReadtlvchain
  apply Loop.run_of_measure (fun s => ¬ StrayByte s.1.rest) (fun s => aimBstreamEmpty s.1)
    _ _ h
  · simp only
    omega
  · intro s t hs hpass
    obtain ⟨ht, -, hlt⟩ := aimReadtlvchainPass_progress hs hpass
    exact ⟨ht, hlt⟩
  · intro s _
    exact aimReadtlvchainPass_ne_stuck s

/-- The fuel is exact: `aimReadtlvchain` has no result only where the loop never ends. -/
theorem aimReadtlvchain_eq_none_iff (bs : AimBstream) :
    aimReadtlvchain bs = none ↔ ¬ Loop.Terminates aimReadtlvchainPass (bs, []) := by
  constructor
  · intro hnone
    by_cases h : StrayByte bs.rest
    · exact aimReadtlvchain_not_terminates_of_stray h
    · obtain ⟨r, hr⟩ := aimReadtlvchain_isSome h
      rw [hnone] at hr
      cases hr
  · intro hnt
    cases hr : aimReadtlvchain bs with
    | none => rfl
    | some r => exact absurd ⟨_, r, hr⟩ hnt

/-- Every pass of the loop that does not leave it moves the offset on. -/
def EveryPassAdvances (bs : AimBstream) : Prop :=
  ∀ s t, Loop.Reach aimReadtlvchainPass (bs, []) s → aimReadtlvchainPass s = .again t →
    s.1.offset < t.1.offset

/-- `aim_readtlvchain` terminates, each pass advancing, exactly on the streams without a stray
byte. -/
theorem aimReadtlvchain_terminates_iff (bs : AimBstream) :
    (Loop.Terminates aimReadtlvchainPass (bs, []) ∧ EveryPassAdvances bs) ↔
      ¬ StrayByte bs.rest := by
  constructor
  · rintro ⟨hterm, -⟩ hstray
    exact aimReadtlvchain_not_terminates_of_stray hstray hterm
  · intro h
    obtain ⟨r, hr⟩ := aimReadtlvchain_isSome h
    refine ⟨⟨_, r, hr⟩, ?_⟩
    intro s t hreach hpass
    have hs : ¬ StrayByte s.1.rest := by
      clear hpass
      induction hreach with
      | refl => exact h
      | tail _ hstep ih => exact (aimReadtlvchainPass_progress ih hstep).1
    exact (aimReadtlvchainPass_progress hs hpass).2.1

/-- On a single byte the loop makes a TLV without reading anything, again and again. -/
theorem aimReadtlvchain_single_byte_hangs :
    ¬ (Loop.Terminates aimReadtlvchainPass (⟨[0], 0⟩, []) ∧ EveryPassAdvances ⟨[0], 0⟩) := by
  rintro ⟨hterm, -⟩
  refine aimReadtlvchain_not_terminates_of_stray ?_ hterm
  exact ⟨[], [0], rfl, Or.inl rfl⟩

end Libfaim
