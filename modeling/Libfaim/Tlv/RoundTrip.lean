import Libfaim.Tlv.Read

/-!
# Writing a TLV chain and reading it back

`aim_writetlvchain` stores the encodings of the TLVs in list order (`writes_aimWritetlvchain`) or
nothing. `aim_readtlvchain` puts each TLV it reads in front of the list, so the chain comes back
reversed. It reads up to the end of the stream: on a stream with room to spare it goes on past the
bytes that were written.
-/

namespace Libfaim

/-! ## Writing -/

theorem writes_aimWritetlvchainLoop (list : List AimTlv) :
    Writes (aimWritetlvchainLoop list) (encodeTlvchain list) () := by
  induction list with
  | nil => exact Writes.pure ()
  | cons tlv cur ih =>
    have hvalue := writes_putIf (c := tlv.length ≠ 0)
      (writes_aimbsPutraw (tlv.length_toNat).symm)
    have hbytes : (if tlv.length ≠ 0 then tlv.value else []) = tlv.value := by
      by_cases hz : tlv.length = 0
      · rw [if_neg (not_not_intro hz), tlv.length_eq_zero_iff.mp hz]
      · rw [if_pos hz]
    rw [hbytes] at hvalue
    have h : Writes (aimWritetlvchainLoop (tlv :: cur)) (aimutilPut16 tlv.type ++
        (aimutilPut16 tlv.length ++ (tlv.value ++ encodeTlvchain cur))) () :=
      (writes_aimbsPut16 _).bind ((writes_aimbsPut16 _).bind (hvalue.bind ih))
    exact h.of_eq (by simp [AimTlv.encode])

theorem aimWritetlvchain_of_le {list : List AimTlv} {bs : AimBstream} (h : bs.offset ≤ bs.len)
    (hfits : aimSizetlvchain list ≤ aimBstreamEmpty bs) :
    aimWritetlvchain list bs = (1, bs.store (encodeTlvchain list)) := by
  have hloop := writes_aimWritetlvchainLoop list bs h (by rwa [encodeTlvchain_length])
  unfold aimWritetlvchain
  rw [if_neg (Nat.not_lt.mpr hfits), hloop]

theorem writes_aimWritetlvchain (list : List AimTlv) :
    Writes (aimWritetlvchain list) (encodeTlvchain list) 1 := by
  intro bs h hfits
  exact aimWritetlvchain_of_le h (by rwa [encodeTlvchain_length] at hfits)

/-- The first loop of `aim_writetlvchain`, with the sum so far. -/
def goodbuflenLoop : List AimTlv → Nat → Nat
  | [], goodbuflen => goodbuflen
  | tlv :: cur, goodbuflen => goodbuflenLoop cur (goodbuflen + (2 + 2) + tlv.length.toNat)

theorem goodbuflenLoop_eq (list : List AimTlv) (goodbuflen : Nat) :
    goodbuflenLoop list goodbuflen = goodbuflen + aimSizetlvchain list := by
  induction list generalizing goodbuflen with
  | nil => rfl
  | cons tlv cur ih =>
    rw [goodbuflenLoop, ih, aimSizetlvchain]
    omega

/-- The function with its first loop as the source has it. -/
theorem aimWritetlvchain_goodbuflen (list : List AimTlv) (bs : AimBstream) :
    aimWritetlvchain list bs =
      if goodbuflenLoop list 0 > aimBstreamEmpty bs then (0, bs)
      else (1, (aimWritetlvchainLoop list bs).2) := by
  rw [goodbuflenLoop_eq, Nat.zero_add]
  rfl

/-- A stream takes all of a chain or none of it: where `aim_sizetlvchain` bytes are left they
become the encodings in list order, and otherwise the stream stays as it is. -/
theorem aimWritetlvchain_all_or_nothing (list : List AimTlv) (bs : AimBstream) :
    aimWritetlvchain list bs =
      if aimSizetlvchain list ≤ aimBstreamEmpty bs then
        (1, { data := bs.written ++ list.flatMap AimTlv.encode ++
                bs.data.drop (bs.offset + aimSizetlvchain list)
              offset := bs.offset + aimSizetlvchain list })
      else (0, bs) := by
  rw [aimWritetlvchain_goodbuflen, goodbuflenLoop_eq, Nat.zero_add]
  by_cases hfits : aimSizetlvchain list ≤ aimBstreamEmpty bs
  · rw [if_neg (Nat.not_lt.mpr hfits), if_pos hfits]
    by_cases hbs : bs.offset ≤ bs.len
    · have hloop := writes_aimWritetlvchainLoop list bs hbs (by rwa [encodeTlvchain_length])
      rw [hloop, ← encodeTlvchain_length]
      rfl
    · -- nothing is left, so the chain is empty
      have hzero : aimSizetlvchain list = 0 := by
        unfold aimBstreamEmpty at hfits
        omega
      have hnil : list = [] := by
        have hle := length_le_encodeTlvchain list
        rw [encodeTlvchain_length, hzero] at hle
        exact List.length_eq_zero_iff.mp (Nat.le_zero.mp hle)
      subst hnil
      simp [aimWritetlvchainLoop, aimSizetlvchain, AimBstream.written, stateM_pure]
  · rw [if_pos (Nat.lt_of_not_le hfits), if_neg hfits]

/-! ## Reading back -/

/-- On complete TLVs and nothing else, the chain is returned in reverse and the stream is at its
end. -/
theorem aimReadtlvchain_encode (list : List AimTlv) {bs : AimBstream}
    (h : bs.rest = encodeTlvchain list) :
    aimReadtlvchain bs = some (list.reverse, bs.skip (encodeTlvchain list).length) := by
  have hlen := length_le_encodeTlvchain list
  have hempty : aimBstreamEmpty bs = (encodeTlvchain list).length := by rw [← bs.length_rest, h]
  obtain ⟨fuel, hfuel⟩ := Nat.exists_eq_add_of_le hlen
  have hend : (bs.skip (encodeTlvchain list).length).rest = [] :=
    bs.rest_skip_of_append (r := []) (by rw [h, List.append_nil])
  have hsum : aimBstreamEmpty bs + 1 = list.length + (fuel + 1) := by omega
  unfold aimReadtlvchain
  rw [hsum, aimReadtlvchain_run_encode list [] (r := []) (by rw [h, List.append_nil]),
    Loop.run_leave (aimReadtlvchainPass_nil hend), List.append_nil]

/-! ## Chains built by `aim_addtlvtochain_raw` -/

/-- The chain that calls of `aim_addtlvtochain_raw` with these types and values build. -/
def buildTlvchain (calls : List (UInt16 × List UInt8)) : List AimTlv :=
  calls.foldl (fun list c => (aimAddtlvtochainRaw list c.1 (UInt16.ofNat c.2.length) c.2).2) []

/-- Every call adds one TLV, with the type and the value it was given, at the end. -/
theorem buildTlvchain_map {calls : List (UInt16 × List UInt8)}
    (h : ∀ c ∈ calls, c.2.length ≤ 65535) :
    (buildTlvchain calls).map (fun tlv => (tlv.type, tlv.value)) = calls := by
  have key : ∀ (calls : List (UInt16 × List UInt8)) (list : List AimTlv),
      (∀ c ∈ calls, c.2.length ≤ 65535) →
      (calls.foldl (fun list c =>
        (aimAddtlvtochainRaw list c.1 (UInt16.ofNat c.2.length) c.2).2) list).map
          (fun tlv => (tlv.type, tlv.value)) =
        list.map (fun tlv => (tlv.type, tlv.value)) ++ calls := by
    intro calls
    induction calls with
    | nil => intro list _; simp
    | cons c cs ih =>
      intro list hc
      have hlt : c.2.length < 65536 := Nat.lt_succ_of_le (hc c List.mem_cons_self)
      have hlen : (UInt16.ofNat c.2.length).toNat = c.2.length := by
        rw [UInt16.toNat_ofNat', Nat.mod_eq_of_lt hlt]
      rw [List.foldl_cons, ih _ (fun d hd => hc d (List.mem_cons_of_mem _ hd))]
      simp [aimAddtlvtochainRaw, createtlv, hlen]
  simpa [buildTlvchain] using key calls [] h

/-- A chain built by `aim_addtlvtochain_raw` and written with `aim_writetlvchain` is read back in
reverse. After a rewind over the written bytes the reader makes one pass for each TLV, and then
stands at their end with the whole chain, whatever follows; where nothing follows it returns the
chain. -/
theorem aimReadtlvchain_writetlvchain {calls : List (UInt16 × List UInt8)}
    (hcalls : ∀ c ∈ calls, c.2.length ≤ 65535) {bs : AimBstream} (hbs : bs.offset ≤ bs.len)
    (hfits : aimSizetlvchain (buildTlvchain calls) ≤ aimBstreamEmpty bs) :
    let size := aimSizetlvchain (buildTlvchain calls)
    let written := aimWritetlvchain (buildTlvchain calls) bs
    let rewound := (aimBstreamSetpos (written.2.offset - size) written.2).2
    ∃ list : List AimTlv,
      list.map (fun tlv => (tlv.type, tlv.value)) = calls.reverse ∧
      written.1 = 1 ∧ written.2.offset = bs.offset + size ∧
      (∀ fuel, Loop.run aimReadtlvchainPass (calls.length + fuel) (rewound, []) =
        Loop.run aimReadtlvchainPass fuel (written.2, list)) ∧
      (size = aimBstreamEmpty bs → aimReadtlvchain rewound = some (list, written.2)) := by
  intro size written rewound
  have hlen : (encodeTlvchain (buildTlvchain calls)).length = size := encodeTlvchain_length _
  have hwritten : written = (1, bs.store (encodeTlvchain (buildTlvchain calls))) :=
    aimWritetlvchain_of_le hbs hfits
  have hoffset : written.2.offset = bs.offset + size := by
    rw [hwritten, AimBstream.store_offset, hlen]
  have hpos : written.2.offset - size = bs.offset := by rw [hoffset, Nat.add_sub_cancel]
  have hrewound : rewound = (aimBstreamSetpos bs.offset written.2).2 := by
    simp only [rewound, hpos]
  have hrest : rewound.rest =
      encodeTlvchain (buildTlvchain calls) ++ bs.rest.drop size := by
    rw [hrewound, hwritten, ← hlen]
    exact rest_setpos_store hbs
  have hend : rewound.skip size = written.2 := by
    have hle : bs.offset ≤ written.2.len := by
      rw [hwritten, AimBstream.store_len hbs (by rwa [hlen])]
      exact hbs
    rw [hrewound, aimBstreamSetpos_of_le hle]
    simp only [AimBstream.skip, ← hoffset]
  have hmap := buildTlvchain_map hcalls
  have hcount : (buildTlvchain calls).length = calls.length := by
    simpa using congrArg List.length hmap
  refine ⟨(buildTlvchain calls).reverse, ?_, ?_, hoffset, ?_, ?_⟩
  · rw [List.map_reverse, hmap]
  · rw [hwritten]
  · intro fuel
    rw [← hcount, aimReadtlvchain_run_encode _ _ hrest, hlen, hend, List.append_nil]
  · intro hfull
    have hnil : bs.rest.drop size = [] :=
      List.drop_eq_nil_of_le (Nat.le_of_eq (bs.length_rest.trans hfull.symm))
    rw [hnil, List.append_nil] at hrest
    rw [aimReadtlvchain_encode _ hrest, hlen, hend]

/-- Two TLVs, one of them without a value, in a stream they fill. -/
theorem aimReadtlvchain_writetlvchain_two :
    let bs : AimBstream := ⟨List.replicate 11 0, 0⟩
    let chain := buildTlvchain [(1, [7, 8, 9]), (1, [])]
    aimReadtlvchain (aimBstreamSetpos 0 (aimWritetlvchain chain bs).2).2 =
      some (chain.reverse, (aimWritetlvchain chain bs).2) := by
  intro bs chain
  obtain ⟨list, hmap, -, -, -, hread⟩ := @aimReadtlvchain_writetlvchain
    [(1, [7, 8, 9]), (1, [])] (by decide) bs (by decide) (by decide)
  have hinj : Function.Injective (fun tlv : AimTlv => (tlv.type, tlv.value)) := fun a b hab =>
    AimTlv.eq_of (congrArg Prod.fst hab) (congrArg Prod.snd hab)
  have hlist : list = chain.reverse := by
    apply List.map_injective_iff.mpr hinj
    rw [hmap]
    decide
  rw [← hlist]
  exact hread (by decide)

/-- In a stream with four bytes to spare the reader takes them for one more TLV. -/
theorem aimReadtlvchain_writetlvchain_spare :
    let bs : AimBstream := ⟨List.replicate 8 0, 0⟩
    let calls : List (UInt16 × List UInt8) := [(1, [])]
    let written := aimWritetlvchain (buildTlvchain calls) bs
    aimSizetlvchain (buildTlvchain calls) ≤ aimBstreamEmpty bs ∧ written.1 = 1 ∧
      written.2.offset = 4 ∧
      (aimReadtlvchain (aimBstreamSetpos (written.2.offset - 4) written.2).2).map
        (fun r => r.1.map fun tlv => (tlv.type, tlv.value)) = some [(0, []), (1, [])] ∧
      [(0, []), (1, [])] ≠ calls.reverse := by
  decide

end Libfaim
