import Libfaim.Userinfo.Framing
import Libfaim.Userinfo.RoundTrip

/-!
# Capability lists

`aim_getcap` maps the blocks it reads to the flags of the table entries among them
(`aimGetcap_blocks`): a concatenation goes to the flags of both parts, and only the known blocks
count. A mask that goes through `aim_addtlvtochain_caps` comes back as its known part unless that
is the whole table: the table has one entry more than the buffer has room for
(`capsSurvive_iff`).
-/

namespace Libfaim

open Mask

/-! ## Reading any blocks -/

/-- A 16-byte block. -/
abbrev CapBlock := { b : List UInt8 // b.length = 0x10 }

/-- The bytes of the blocks. -/
def blockBytes (l : List CapBlock) : List UInt8 := l.flatMap (·.val)

/-- The flags of the table entries that occur among the blocks. -/
def tableFlags (l : List CapBlock) : UInt32 :=
  orFlags ((aimCaps.filter fun c => c.data ∈ l.map (·.val)).map (·.flag))

theorem blockBytes_cons (b : CapBlock) (l : List CapBlock) :
    blockBytes (b :: l) = b.val ++ blockBytes l := rfl

theorem blockBytes_append (l m : List CapBlock) :
    blockBytes (l ++ m) = blockBytes l ++ blockBytes m := List.flatMap_append

theorem blockBytes_length (l : List CapBlock) : (blockBytes l).length = 16 * l.length := by
  induction l with
  | nil => rfl
  | cons b l ih =>
    rw [blockBytes_cons, List.length_append, b.property, ih, List.length_cons]
    omega

theorem capBlockFlags_blockBytes (l : List CapBlock) :
    capBlockFlags (blockBytes l) = orFlags (l.map fun b => capFlag b.val) := by
  induction l with
  | nil => rfl
  | cons b l ih =>
    rw [blockBytes_cons, capBlockFlags_cons b.property, ih, List.map_cons, orFlags_cons]

theorem mem_capFlags_iff {l : List CapBlock} {f : UInt32} (hf : f ≠ 0) :
    f ∈ l.map (fun b => capFlag b.val) ↔
      f ∈ (aimCaps.filter fun c => c.data ∈ l.map (·.val)).map (·.flag) := by
  constructor
  · intro h
    obtain ⟨b, hb, rfl⟩ := List.mem_map.mp h
    cases hfind : aimCaps.find? (fun c => c.data = b.val) with
    | none =>
      -- an unknown block has no flag
      simp only [capFlag, hfind, ne_eq, not_true_eq_false] at hf
    | some c =>
      have hdata : c.data = b.val := by simpa using List.find?_some hfind
      have hmem : c.data ∈ l.map (·.val) := List.mem_map.mpr ⟨b, hb, hdata.symm⟩
      simp only [capFlag, hfind]
      exact List.mem_map_of_mem (List.mem_filter.mpr
        ⟨List.mem_of_find?_eq_some hfind, decide_eq_true hmem⟩)
  · intro h
    obtain ⟨c, hc, rfl⟩ := List.mem_map.mp h
    obtain ⟨hc, hdata⟩ := List.mem_filter.mp hc
    obtain ⟨b, hb, hbc⟩ := List.mem_map.mp (of_decide_eq_true hdata)
    refine List.mem_map.mpr ⟨b, hb, ?_⟩
    rw [hbc, capFlag_data c hc]

theorem orFlags_capFlag (l : List CapBlock) :
    orFlags (l.map fun b => capFlag b.val) = tableFlags l :=
  orFlags_congr fun _ hf => mem_capFlags_iff hf

/-- Any blocks are read to their end, and what comes out are the flags of the known ones. -/
theorem decodes_aimGetcap_blocks (l : List CapBlock) :
    Decodes (aimGetcap (16 * l.length)) (blockBytes l) (tableFlags l) := by
  have hcount : (16 * l.length + 15) / 16 = l.length := by omega
  have hloop := decodes_aimGetcapLoop_blocks (blockBytes_length l) 0
  rw [UInt32.zero_or, capBlockFlags_blockBytes, orFlags_capFlag] at hloop
  rw [aimGetcap, hcount]
  exact hloop

/-- A concatenation has the flags of both parts. -/
theorem tableFlags_append (l m : List CapBlock) :
    tableFlags (l ++ m) = tableFlags l ||| tableFlags m := by
  rw [← orFlags_capFlag, List.map_append, orFlags_append, orFlags_capFlag, orFlags_capFlag]

/-- Only which known blocks there are counts. -/
theorem tableFlags_congr {l m : List CapBlock}
    (h : ∀ c ∈ aimCaps, c.data ∈ l.map (·.val) ↔ c.data ∈ m.map (·.val)) :
    tableFlags l = tableFlags m := by
  unfold tableFlags
  congr 2
  apply List.filter_congr
  intro c hc
  exact decide_eq_decide.mpr (h c hc)

/-- `aim_getcap` on `n` blocks consumes them and returns the flags of the blocks the table has; on
a concatenation it returns the flags of both parts, and blocks with the same known ones among them
give the same result, whatever their order and number and whichever unknown ones there are. -/
theorem aimGetcap_blocks (l : List CapBlock) :
    Decodes (aimGetcap (16 * l.length)) (blockBytes l) (tableFlags l) ∧
      (∀ m, Decodes (aimGetcap (16 * (l ++ m).length)) (blockBytes l ++ blockBytes m)
        (tableFlags l ||| tableFlags m)) ∧
      ∀ m : List CapBlock,
        (∀ c ∈ aimCaps, c.data ∈ l.map (·.val) ↔ c.data ∈ m.map (·.val)) →
        Decodes (aimGetcap (16 * m.length)) (blockBytes m) (tableFlags l) := by
  refine ⟨decodes_aimGetcap_blocks l, fun m => ?_, fun m hm => ?_⟩
  · rw [← tableFlags_append, ← blockBytes_append]
    exact decodes_aimGetcap_blocks (l ++ m)
  · rw [tableFlags_congr hm]
    exact decodes_aimGetcap_blocks m

/-! ## Writing a mask and reading it back -/

/-- The TLV appended for a mask has a block for each known flag of it, and `aim_getcap` over its
value returns all of them. -/
def CapsSurvive (list : List AimTlv) (t : UInt16) (caps : UInt32) : Prop :=
  ∃ tlv, (aimAddtlvtochainCaps list t caps).2 = list ++ [tlv] ∧ tlv.type = t ∧
    tlv.value = capBlocks (selectedCaps caps aimCaps) ∧
    Decodes (aimGetcap tlv.length.toNat) tlv.value (caps &&& knownCaps)

/-- The value that is written has sixteen blocks at most. -/
theorem CapsSurvive.length_le {list : List AimTlv} {t : UInt16} {caps : UInt32}
    (hs : CapsSurvive list t caps) (h : caps ≠ 0) : (selectedCaps caps aimCaps).length ≤ 16 := by
  obtain ⟨tlv, htlv, -, hvalue, -⟩ := hs
  rw [aimAddtlvtochainCaps_eq t h] at htlv
  obtain rfl := List.singleton_inj.mp (List.append_cancel_left htlv)
  have hlen : (capBlocks (writtenCaps caps)).length =
      (capBlocks (selectedCaps caps aimCaps)).length := congrArg List.length hvalue
  have hall : (capBlocks (selectedCaps caps aimCaps)).length =
      16 * (selectedCaps caps aimCaps).length :=
    capBlocks_length fun c hc => aimCaps_data_length c (List.mem_of_mem_filter hc)
  have hle := writtenCaps_length_le caps
  rw [capBlocks_writtenCaps_length, hall] at hlen
  omega

/-- A mask survives exactly when a known flag is missing from it. -/
theorem capsSurvive_iff (list : List AimTlv) (t : UInt16) {caps : UInt32} (h : caps ≠ 0) :
    CapsSurvive list t caps ↔ caps &&& knownCaps ≠ knownCaps := by
  rw [← selectedCaps_length_le_iff]
  constructor
  · intro hs
    exact hs.length_le h
  · intro hle
    have hwritten : writtenCaps caps = selectedCaps caps aimCaps := List.take_of_length_le hle
    refine ⟨_, aimAddtlvtochainCaps_eq t h, rfl, congrArg capBlocks hwritten, ?_⟩
    have hget := decodes_aimGetcap fun c (hc : c ∈ writtenCaps caps) => writtenCaps_mem hc
    rw [hwritten, orFlags_selectedCaps, ← hwritten] at hget
    rw [AimTlv.length_toNat]
    exact hget

/-- Two known flags and one unknown. -/
theorem capsSurvive_chat : CapsSurvive [] 0x0005 0x80000009 :=
  (capsSurvive_iff [] 0x0005 (by decide)).mpr (by decide)

/-- The last entry of the table is lost from a mask with every flag. -/
theorem not_capsSurvive_knownCaps : ¬ CapsSurvive [] 0x0005 0x0001ffff := by
  intro hs
  have hle := hs.length_le (by decide)
  have h17 : (selectedCaps 0x0001ffff aimCaps).length = 17 := by decide
  omega

end Libfaim
