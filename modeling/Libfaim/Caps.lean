import Libfaim.Lib.Mask
import Libfaim.Tlv

/-!
# Capability blocks (`info.c`)

A capability mask goes over the wire as one 16-byte block for each flag. `aim_putcap` writes the
blocks of the flags in table order for as long as the stream has room, `aim_getcap` reads blocks
and puts their flags together again.
-/

namespace Libfaim

open Mask

def aimCapsBuddyicon : UInt32 := 0x00000001
def aimCapsVoice : UInt32 := 0x00000002
def aimCapsImimage : UInt32 := 0x00000004
def aimCapsChat : UInt32 := 0x00000008
def aimCapsGetfile : UInt32 := 0x00000010
def aimCapsSendfile : UInt32 := 0x00000020
def aimCapsGames : UInt32 := 0x00000040
def aimCapsSavestocks : UInt32 := 0x00000080
def aimCapsSendbuddylist : UInt32 := 0x00000100
def aimCapsGames2 : UInt32 := 0x00000200
def aimCapsIcq : UInt32 := 0x00000400
def aimCapsApinfo : UInt32 := 0x00000800
def aimCapsIcqrtf : UInt32 := 0x00001000
def aimCapsEmpty : UInt32 := 0x00002000
def aimCapsIcqserverrelay : UInt32 := 0x00004000
def aimCapsIcqunknown : UInt32 := 0x00008000
def aimCapsTrilliancrypt : UInt32 := 0x00010000
def aimCapsLast : UInt32 := 0x00020000

structure AimCap where
  flag : UInt32
  data : List UInt8
  deriving DecidableEq, Repr

/-- `aim_caps[]`, without the `AIM_CAPS_LAST` entry that ends it. -/
def aimCaps : List AimCap := [
  ⟨aimCapsChat,
    [0x74, 0x8f, 0x24, 0x20, 0x62, 0x87, 0x11, 0xd1,
     0x82, 0x22, 0x44, 0x45, 0x53, 0x54, 0x00, 0x00]⟩,
  ⟨aimCapsVoice,
    [0x09, 0x46, 0x13, 0x41, 0x4c, 0x7f, 0x11, 0xd1,
     0x82, 0x22, 0x44, 0x45, 0x53, 0x54, 0x00, 0x00]⟩,
  ⟨aimCapsSendfile,
    [0x09, 0x46, 0x13, 0x43, 0x4c, 0x7f, 0x11, 0xd1,
     0x82, 0x22, 0x44, 0x45, 0x53, 0x54, 0x00, 0x00]⟩,
  ⟨aimCapsIcq,
    [0x09, 0x46, 0x13, 0x44, 0x4c, 0x7f, 0x11, 0xd1,
     0x82, 0x22, 0x44, 0x45, 0x53, 0x54, 0x00, 0x00]⟩,
  ⟨aimCapsImimage,
    [0x09, 0x46, 0x13, 0x45, 0x4c, 0x7f, 0x11, 0xd1,
     0x82, 0x22, 0x44, 0x45, 0x53, 0x54, 0x00, 0x00]⟩,
  ⟨aimCapsBuddyicon,
    [0x09, 0x46, 0x13, 0x46, 0x4c, 0x7f, 0x11, 0xd1,
     0x82, 0x22, 0x44, 0x45, 0x53, 0x54, 0x00, 0x00]⟩,
  ⟨aimCapsSavestocks,
    [0x09, 0x46, 0x13, 0x47, 0x4c, 0x7f, 0x11, 0xd1,
     0x82, 0x22, 0x44, 0x45, 0x53, 0x54, 0x00, 0x00]⟩,
  ⟨aimCapsGetfile,
    [0x09, 0x46, 0x13, 0x48, 0x4c, 0x7f, 0x11, 0xd1,
     0x82, 0x22, 0x44, 0x45, 0x53, 0x54, 0x00, 0x00]⟩,
  ⟨aimCapsIcqserverrelay,
    [0x09, 0x46, 0x13, 0x49, 0x4c, 0x7f, 0x11, 0xd1,
     0x82, 0x22, 0x44, 0x45, 0x53, 0x54, 0x00, 0x00]⟩,
  ⟨aimCapsGames,
    [0x09, 0x46, 0x13, 0x4a, 0x4c, 0x7f, 0x11, 0xd1,
     0x82, 0x22, 0x44, 0x45, 0x53, 0x54, 0x00, 0x00]⟩,
  ⟨aimCapsGames2,
    [0x09, 0x46, 0x13, 0x4a, 0x4c, 0x7f, 0x11, 0xd1,
     0x22, 0x82, 0x44, 0x45, 0x53, 0x54, 0x00, 0x00]⟩,
  ⟨aimCapsSendbuddylist,
    [0x09, 0x46, 0x13, 0x4b, 0x4c, 0x7f, 0x11, 0xd1,
     0x82, 0x22, 0x44, 0x45, 0x53, 0x54, 0x00, 0x00]⟩,
  ⟨aimCapsIcqrtf,
    [0x97, 0xb1, 0x27, 0x51, 0x24, 0x3c, 0x43, 0x34,
     0xad, 0x22, 0xd6, 0xab, 0xf7, 0x3f, 0x14, 0x92]⟩,
  ⟨aimCapsIcqunknown,
    [0x2e, 0x7a, 0x64, 0x75, 0xfa, 0xdf, 0x4d, 0xc8,
     0x88, 0x6f, 0xea, 0x35, 0x95, 0xfd, 0xb6, 0xdf]⟩,
  ⟨aimCapsEmpty,
    [0x00, 0x00, 0x00, 0x00, 0x00, 0x00, 0x00, 0x00,
     0x00, 0x00, 0x00, 0x00, 0x00, 0x00, 0x00, 0x00]⟩,
  ⟨aimCapsTrilliancrypt,
    [0xf2, 0xe7, 0xc7, 0xf4, 0xfe, 0xad, 0x4d, 0xfb,
     0xb2, 0x35, 0x36, 0x79, 0x8b, 0xdf, 0x00, 0x00]⟩,
  ⟨aimCapsApinfo,
    [0xaa, 0x4a, 0x32, 0xb5, 0xf8, 0x84, 0x48, 0xc6,
     0xa3, 0xd7, 0x8c, 0x50, 0x97, 0x19, 0xfd, 0x5b]⟩]

/-! ## Reading and writing -/

/-- The flag of the first table entry with these bytes; no flag for an unknown capability. -/
def capFlag (cap : List UInt8) : UInt32 :=
  match aimCaps.find? (fun c => c.data = cap) with
  | some c => c.flag
  | none => 0

/-- The loop of `aim_getcap` over `n` blocks. A block that is cut short is compared through the
null pointer, where the model has no result. -/
def aimGetcapLoop : Nat → UInt32 → StateT AimBstream Option UInt32
  | 0, flags, bs => some (flags, bs)
  | n + 1, flags, bs =>
    if aimBstreamEmpty bs = 0 then some (flags, bs)
    else
      match aimbsGetraw 0x10 bs with
      | (none, _) => none
      | (some cap, bs) => aimGetcapLoop n (flags ||| capFlag cap) bs

/-- `aim_getcap`: the offsets 0, 16, 32, ... below `len`. -/
def aimGetcap (len : Nat) : StateT AimBstream Option UInt32 :=
  aimGetcapLoop ((len + 15) / 16) 0

/-- The loop of `aim_putcap` over the entries of the table. -/
def aimPutcapLoop (caps : UInt32) : List AimCap → StateM AimBstream Unit
  | [], bs => ((), bs)
  | c :: cs, bs =>
    if aimBstreamEmpty bs = 0 then ((), bs)
    else aimPutcapLoop caps cs (putIf (caps &&& c.flag ≠ 0) (aimbsPutraw c.data 0x10) bs).2

def aimPutcap (caps : UInt32) : StateM AimBstream Unit := aimPutcapLoop caps aimCaps

/-- `aim_addtlvtochain_caps`. The blocks go through a buffer of 16 times 16 bytes. -/
def aimAddtlvtochainCaps (list : List AimTlv) (t : UInt16) (caps : UInt32) : Nat × List AimTlv :=
  if caps = 0 then (0, list)
  else
    let bs := (aimPutcap caps ⟨List.replicate (16 * 16) 0, 0⟩).2
    aimAddtlvtochainRaw list t (UInt16.ofNat (aimBstreamCurpos bs)) bs.data

/-! ## The table -/

/-- All the flags of the table. -/
def knownCaps : UInt32 := orFlags (aimCaps.map (·.flag))

theorem aimCaps_data_length : ∀ c ∈ aimCaps, c.data.length = 0x10 := by decide

theorem aimCaps_isFlag : ∀ f ∈ aimCaps.map (·.flag), IsFlag f := by
  have h : (aimCaps.map (·.flag)).all
      (fun f => (List.range 17).any fun i => f.toNat == 1 <<< i) = true := by decide
  intro f hf
  obtain ⟨i, -, hi⟩ := List.any_eq_true.mp (List.all_eq_true.mp h f hf)
  exact ⟨i, (beq_iff_eq.mp hi).trans (Nat.one_shiftLeft i)⟩

/-- No two entries have the same bytes, so an entry is found by its bytes. -/
theorem capFlag_data : ∀ c ∈ aimCaps, capFlag c.data = c.flag := by decide

/-! ## Reading what was written -/

/-- The entries of the table whose flag is in the mask. -/
def selectedCaps (caps : UInt32) (table : List AimCap) : List AimCap :=
  table.filter fun c => caps &&& c.flag ≠ 0

def capBlocks (cs : List AimCap) : List UInt8 := cs.flatMap (·.data)

theorem capBlocks_nil : capBlocks [] = [] := rfl

theorem capBlocks_cons (c : AimCap) (cs : List AimCap) :
    capBlocks (c :: cs) = c.data ++ capBlocks cs := rfl

theorem capBlocks_length {cs : List AimCap} (h : ∀ c ∈ cs, c.data.length = 0x10) :
    (capBlocks cs).length = 16 * cs.length := by
  induction cs with
  | nil => rfl
  | cons c cs ih =>
    have hc := h c List.mem_cons_self
    have ih' := ih fun d hd => h d (List.mem_cons_of_mem _ hd)
    rw [capBlocks_cons, List.length_append, ih', hc, List.length_cons]
    omega

theorem orFlags_selectedCaps (caps : UInt32) :
    orFlags ((selectedCaps caps aimCaps).map (·.flag)) = caps &&& knownCaps := by
  have hfilter : (selectedCaps caps aimCaps).map (·.flag) =
      (aimCaps.map (·.flag)).filter fun f => caps &&& f ≠ 0 := by
    rw [selectedCaps, List.filter_map]
    rfl
  rw [hfilter, orFlags_filter aimCaps_isFlag]
  rfl

/-- Not every entry is selected exactly when a known flag is missing from the mask. -/
theorem selectedCaps_length_le_iff (caps : UInt32) :
    (selectedCaps caps aimCaps).length ≤ 16 ↔ caps &&& knownCaps ≠ knownCaps := by
  have hle : (selectedCaps caps aimCaps).length ≤ aimCaps.length := List.length_filter_le ..
  have h17 : aimCaps.length = 17 := rfl
  constructor
  · intro h hall
    have hself : selectedCaps caps aimCaps = aimCaps := by
      apply List.filter_eq_self.mpr
      intro c hc
      have hmem : c.flag ∈ aimCaps.map (·.flag) := List.mem_map_of_mem hc
      have hcaps : caps &&& c.flag = c.flag := by
        rw [← and_orFlags_of_mem hmem, ← UInt32.and_assoc]
        exact congrArg (· &&& c.flag) hall
      have hne := (aimCaps_isFlag c.flag hmem).ne_zero
      simpa [hcaps] using hne
    rw [hself] at h
    omega
  · intro h
    by_contra hgt
    have hself : selectedCaps caps aimCaps = aimCaps :=
      List.filter_eq_self.mpr (List.length_filter_eq_length_iff.mp (by
        show (selectedCaps caps aimCaps).length = _
        omega))
    have hor := orFlags_selectedCaps caps
    rw [hself] at hor
    exact h hor.symm

/-- A stream with room for `k` blocks takes the blocks of the first `k` selected entries. -/
theorem aimPutcapLoop_eq (caps : UInt32) {table : List AimCap} {k : Nat} {bs : AimBstream}
    (hdata : ∀ c ∈ table, c.data.length = 0x10) (hbs : bs.offset ≤ bs.len)
    (hroom : aimBstreamEmpty bs = 16 * k) :
    aimPutcapLoop caps table bs =
      ((), bs.store (capBlocks ((selectedCaps caps table).take k))) := by
  induction table generalizing bs k with
  | nil =>
    simp only [aimPutcapLoop, selectedCaps, List.filter_nil, List.take_nil]
    rw [capBlocks_nil, AimBstream.store_nil hbs]
  | cons c cs ih =>
    have hc := hdata c List.mem_cons_self
    have hcs : ∀ d ∈ cs, d.data.length = 0x10 := fun d hd => hdata d (List.mem_cons_of_mem _ hd)
    unfold aimPutcapLoop
    cases k with
    | zero =>
      rw [if_pos (by omega), List.take_zero, capBlocks_nil, AimBstream.store_nil hbs]
    | succ k =>
      rw [if_neg (by omega)]
      by_cases hsel : caps &&& c.flag ≠ 0
      · have hput := writes_aimbsPutraw hc bs hbs (by omega)
        have hfit : c.data.length ≤ aimBstreamEmpty bs := by omega
        have hroom' : aimBstreamEmpty (bs.store c.data) = 16 * k := by
          rw [AimBstream.store_empty hbs hfit]
          omega
        have hsel' : selectedCaps caps (c :: cs) = c :: selectedCaps caps cs :=
          List.filter_cons_of_pos (by simpa using hsel)
        rw [putIf, if_pos hsel, hput, ih hcs (AimBstream.store_offset_le hbs hfit) hroom',
          AimBstream.store_store hbs, hsel', List.take_succ_cons, capBlocks_cons]
      · have hsel' : selectedCaps caps (c :: cs) = selectedCaps caps cs :=
          List.filter_cons_of_neg (by simpa using hsel)
        rw [putIf, if_neg hsel, hsel']
        exact ih hcs hbs hroom

/-- With room for all of them, all selected entries are written. -/
theorem writes_aimPutcapLoop (caps : UInt32) {table : List AimCap}
    (hdata : ∀ c ∈ table, c.data.length = 0x10) :
    Writes (aimPutcapLoop caps table) (capBlocks (selectedCaps caps table)) () := by
  induction table with
  | nil => exact Writes.pure ()
  | cons c cs ih =>
    intro bs hbs hfits
    have hc := hdata c List.mem_cons_self
    have ih' := ih fun d hd => hdata d (List.mem_cons_of_mem _ hd)
    unfold aimPutcapLoop
    by_cases hroom : aimBstreamEmpty bs = 0
    · have hnil : capBlocks (selectedCaps caps (c :: cs)) = [] := by
        apply List.length_eq_zero_iff.mp
        omega
      rw [if_pos hroom, hnil, AimBstream.store_nil hbs]
    · rw [if_neg hroom]
      by_cases hsel : caps &&& c.flag ≠ 0
      · have hsel' : selectedCaps caps (c :: cs) = c :: selectedCaps caps cs :=
          List.filter_cons_of_pos (by simpa using hsel)
        rw [hsel', capBlocks_cons] at hfits ⊢
        rw [putIf, if_pos hsel]
        have hput : Writes (aimbsPutraw c.data 0x10 >>= fun _ => aimPutcapLoop caps cs)
            (c.data ++ capBlocks (selectedCaps caps cs)) () := (writes_aimbsPutraw hc).bind ih'
        exact hput bs hbs hfits
      · have hsel' : selectedCaps caps (c :: cs) = selectedCaps caps cs :=
          List.filter_cons_of_neg (by simpa using hsel)
        rw [hsel'] at hfits ⊢
        rw [putIf, if_neg hsel]
        exact ih' bs hbs hfits

/-- Blocks of the table are read back as their flags. -/
theorem decodes_aimGetcapLoop {cs : List AimCap} (h : ∀ c ∈ cs, c ∈ aimCaps) (flags : UInt32) :
    Decodes (aimGetcapLoop cs.length flags) (capBlocks cs)
      (flags ||| orFlags (cs.map (·.flag))) := by
  induction cs generalizing flags with
  | nil =>
    intro bs r _
    simp [aimGetcapLoop, capBlocks, orFlags]
  | cons c cs ih =>
    intro bs r hr
    have hc := h c List.mem_cons_self
    have hlen := aimCaps_data_length c hc
    rw [capBlocks_cons, List.append_assoc] at hr
    have hempty : ¬ aimBstreamEmpty bs = 0 := by
      rw [← bs.length_rest, hr, List.length_append]
      omega
    have hraw := reads_aimbsGetraw hlen bs _ hr
    have ih' := ih (fun d hd => h d (List.mem_cons_of_mem _ hd)) (flags ||| c.flag) _ r
      (bs.rest_skip_of_append hr)
    rw [List.length_cons, aimGetcapLoop, if_neg hempty, hraw]
    simp only [capFlag_data c hc, ih', capBlocks_cons, List.map_cons, orFlags_cons, List.length_append,
      AimBstream.skip_skip, UInt32.or_assoc]

theorem decodes_aimGetcap {cs : List AimCap} (h : ∀ c ∈ cs, c ∈ aimCaps) :
    Decodes (aimGetcap (capBlocks cs).length) (capBlocks cs) (orFlags (cs.map (·.flag))) := by
  have hlen := capBlocks_length fun c hc => aimCaps_data_length c (h c hc)
  have hcount : ((capBlocks cs).length + 15) / 16 = cs.length := by omega
  have hloop := decodes_aimGetcapLoop h 0
  rw [UInt32.zero_or] at hloop
  rw [aimGetcap, hcount]
  exact hloop

end Libfaim
