import Libfaim.Memory
import Libfaim.Snac.Replies
import Libfaim.Tlv.Wire

/-!
# The slots of a search reply (`search.c`)

`reply` grows a buffer by `MAXSNLEN+1` bytes for every TLV of type 1 and copies the value to the new
slot with `MAXSNLEN` as the bound, which leaves the last byte of the slot to what `realloc` found in
memory. So a name shorter than the bound brings its NUL along, and one that is not has a NUL only if
there was one (`searchReplied_iff`).
-/

namespace Libfaim

/-- The size of a slot, `MAXSNLEN+1`. -/
def slotlen : Nat := maxsnlen + 1

/-- The loop of `reply` with at most `m` passes: `j` and `buf` when it is left. -/
def replyLoop (mem : Memory) (tlvlist : List AimTlv) :
    Nat → Nat → List UInt8 → Nat × List UInt8
  | 0, j, buf => (j, buf)
  | m + 1, j, buf =>
    match aimGettlvStr tlvlist 0x0001 (j + 1) with
    | none => (j, buf)
    | some cur =>
      let buf := mem.realloc buf ((j + 1) * slotlen)
      let buf := writeAt buf (j * slotlen) (strncpy cur maxsnlen)
      replyLoop mem tlvlist m (j + 1) buf

/-- What `reply` gives the client besides the address: the number of results and the buffer. -/
def replyResults (mem : Memory) (bs : AimBstream) : Option (Nat × List UInt8) := do
  let (tlvlist, _) ← aimReadtlvchain bs
  return replyLoop mem tlvlist (aimCounttlvchain tlvlist) 0 []

/-! ## What the loop leaves in the buffer -/

/-- The `j`-th slot, for the name `sn`. -/
def searchSlot (mem : Memory) (j : Nat) (sn : List UInt8) : List UInt8 :=
  strncpy sn maxsnlen ++ [mem (j * slotlen + maxsnlen)]

/-- The slots from the `j`-th on. -/
def searchSlots (mem : Memory) : Nat → List AimTlv → List (List UInt8)
  | _, [] => []
  | j, tlv :: tlvs => searchSlot mem j tlv.value :: searchSlots mem (j + 1) tlvs

section Slots

variable (mem : Memory)

theorem length_searchSlot (j : Nat) (sn : List UInt8) :
    (searchSlot mem j sn).length = slotlen := by
  rw [searchSlot, List.length_append, strncpy_length]
  rfl

theorem getElem?_searchSlots (tlvs : List AimTlv) (j i : Nat) :
    (searchSlots mem j tlvs)[i]? = tlvs[i]?.map fun tlv => searchSlot mem (j + i) tlv.value := by
  induction tlvs generalizing j i with
  | nil => rfl
  | cons tlv tlvs ih =>
    cases i with
    | zero => rfl
    | succ i =>
      rw [searchSlots, List.getElem?_cons_succ, List.getElem?_cons_succ, ih]
      have hj : j + 1 + i = j + (i + 1) := by omega
      rw [hj]

theorem mem_searchSlots_length {j : Nat} {tlvs : List AimTlv} {slot : List UInt8}
    (h : slot ∈ searchSlots mem j tlvs) : slot.length = slotlen := by
  induction tlvs generalizing j with
  | nil => nomatch h
  | cons tlv tlvs ih =>
    rcases List.mem_cons.mp h with rfl | h
    · exact length_searchSlot mem j tlv.value
    · exact ih h

/-- One pass adds one slot. -/
theorem replyLoop_pass {j : Nat} {buf : List UInt8} (hbuf : buf.length = j * slotlen)
    (sn : List UInt8) :
    writeAt (mem.realloc buf ((j + 1) * slotlen)) (j * slotlen) (strncpy sn maxsnlen) =
      buf ++ searchSlot mem j sn := by
  have hgrown : (j + 1) * slotlen = buf.length + (maxsnlen + 1) := by
    rw [hbuf, Nat.succ_mul]
    rfl
  rw [hgrown, ← hbuf, mem.writeAt_realloc buf (strncpy_length sn maxsnlen), hbuf]
  rfl

/-- From the `j`-th result on, with enough passes, the loop takes one for each TLV of type 1 that is
left. -/
theorem replyLoop_eq (tlvlist : List AimTlv) {m j : Nat} {buf : List UInt8}
    (hbuf : buf.length = j * slotlen) (hm : (tlvsOfType 0x0001 tlvlist).length ≤ j + m) :
    replyLoop mem tlvlist m j buf = (j + ((tlvsOfType 0x0001 tlvlist).drop j).length,
      buf ++ (searchSlots mem j ((tlvsOfType 0x0001 tlvlist).drop j)).flatten) := by
  induction m generalizing j buf with
  | zero =>
    rw [Nat.add_zero] at hm
    rw [List.drop_eq_nil_of_le hm]
    exact congrArg (j, ·) (List.append_nil buf).symm
  | succ m ih =>
    rw [replyLoop, aimGettlvStr_ofType]
    cases htlv : (tlvsOfType 0x0001 tlvlist)[j]? with
    | none =>
      rw [List.drop_eq_nil_of_le (List.getElem?_eq_none_iff.mp htlv)]
      exact congrArg (j, ·) (List.append_nil buf).symm
    | some tlv =>
      have hpass := replyLoop_pass mem hbuf tlv.value
      have hlen : (buf ++ searchSlot mem j tlv.value).length = (j + 1) * slotlen := by
        rw [List.length_append, hbuf, length_searchSlot, Nat.succ_mul]
      dsimp only [Option.map_some]
      rw [hpass, ih hlen (by omega), drop_of_getElem? htlv, searchSlots, List.flatten_cons,
        List.length_cons, List.append_assoc, Nat.add_assoc, Nat.add_comm 1]

/-- The `i`-th slot of a buffer. -/
def slotAt (buf : List UInt8) (i : Nat) : List UInt8 := (buf.drop (i * slotlen)).take slotlen

/-- Strings of one length are found in their concatenation by their position. -/
theorem slotAt_flatten {slots : List (List UInt8)}
    (hlen : ∀ slot ∈ slots, slot.length = slotlen) {i : Nat} {slot : List UInt8}
    (h : slots[i]? = some slot) : slotAt slots.flatten i = slot := by
  induction slots generalizing i with
  | nil => nomatch h
  | cons first slots ih =>
    have hfirst := hlen first List.mem_cons_self
    cases i with
    | zero =>
      obtain rfl := Option.some.inj h
      rw [slotAt, Nat.zero_mul, List.drop_zero, List.flatten_cons, List.take_left' hfirst]
    | succ i =>
      rw [slotAt, Nat.succ_mul, Nat.add_comm, ← List.drop_drop, List.flatten_cons,
        List.drop_left' hfirst]
      exact ih (fun slot hmem => hlen slot (List.mem_cons_of_mem _ hmem)) h

end Slots

/-! ## What the client is told -/

/-- The count is the number of TLVs of type 1, and each slot holds a string with its NUL, which is
that of a TLV of its own, cut to `MAXSNLEN` bytes. -/
def SearchReplied (l : List AimTlv) (r : Nat × List UInt8) : Prop :=
  r.1 = (tlvsOfType 0x0001 l).length ∧
    ∃ tlvs : List AimTlv, tlvs.Perm (tlvsOfType 0x0001 l) ∧ ∀ i tlv, tlvs[i]? = some tlv →
      0 ∈ slotAt r.2 i ∧ cstr (slotAt r.2 i) = (cstr tlv.value).take maxsnlen

/-- A slot has a NUL if the name is shorter than the bound, or if memory had one at its end. -/
theorem zero_mem_searchSlot_iff (mem : Memory) (j : Nat) (sn : List UInt8) :
    0 ∈ searchSlot mem j sn ↔ strlen sn < maxsnlen ∨ mem (j * slotlen + maxsnlen) = 0 := by
  rw [searchSlot, List.mem_append, zero_mem_strncpy_iff, List.mem_singleton, eq_comm]

theorem cstr_searchSlot {mem : Memory} {j : Nat} {sn : List UInt8}
    (h : 0 ∈ searchSlot mem j sn) : cstr (searchSlot mem j sn) = (cstr sn).take maxsnlen := by
  rcases (zero_mem_searchSlot_iff mem j sn).mp h with hshort | hzero
  · rw [searchSlot, cstr_strncpy_append hshort, List.take_of_length_le (Nat.le_of_lt hshort)]
  · rw [searchSlot, hzero, cstr_append_zero, cstr_strncpy]

/-- The results for a payload of complete TLVs. -/
theorem replyResults_encode {l : List AimTlv} {bs : AimBstream} (h : bs.rest = encodeTlvchain l)
    (mem : Memory) : replyResults mem bs = some ((tlvsOfType 0x0001 l).length,
      (searchSlots mem 0 (tlvsOfType 0x0001 l.reverse)).flatten) := by
  have hcount : (tlvsOfType 0x0001 l.reverse).length ≤ 0 + aimCounttlvchain l.reverse := by
    rw [Nat.zero_add]
    exact length_tlvsOfType_le 0x0001 l.reverse
  have hloop := @replyLoop_eq mem l.reverse _ 0 [] rfl hcount
  rw [List.drop_zero, tlvsOfType_reverse, List.length_reverse, Nat.zero_add,
    List.nil_append] at hloop
  rw [replyResults, aimReadtlvchain_encode l h, tlvsOfType_reverse]
  exact congrArg some hloop

/-- The slot for each name in the buffer. -/
theorem slotAt_searchSlots (mem : Memory) {tlvs : List AimTlv} {i : Nat} {tlv : AimTlv}
    (h : tlvs[i]? = some tlv) :
    slotAt (searchSlots mem 0 tlvs).flatten i = searchSlot mem i tlv.value := by
  apply slotAt_flatten fun slot => mem_searchSlots_length mem
  rw [getElem?_searchSlots, h, Nat.zero_add]
  rfl

/-- The loop as the reply handler is modelled without its buffer. -/
theorem replyNames_eq (tlvlist : List AimTlv) {m j : Nat}
    (hm : (tlvsOfType 0x0001 tlvlist).length ≤ j + m) :
    replyNames tlvlist m j =
      ((tlvsOfType 0x0001 tlvlist).drop j).map fun tlv => (cstr tlv.value).take maxsnlen := by
  induction m generalizing j with
  | zero =>
    rw [Nat.add_zero] at hm
    rw [List.drop_eq_nil_of_le hm]
    rfl
  | succ m ih =>
    rw [replyNames, aimGettlvStr_ofType]
    cases htlv : (tlvsOfType 0x0001 tlvlist)[j]? with
    | none =>
      rw [List.drop_eq_nil_of_le (List.getElem?_eq_none_iff.mp htlv)]
      rfl
    | some tlv =>
      rw [drop_of_getElem? htlv, List.map_cons, ← ih (by omega)]
      rfl

/-- Where every slot has a NUL, the slots read as strings are the names of the reply. -/
theorem slots_eq_replyNames {l : List AimTlv} {bs : AimBstream} (h : bs.rest = encodeTlvchain l)
    {mem : Memory} (hnames : ∀ i tlv, (tlvsOfType 0x0001 l.reverse)[i]? = some tlv →
      strlen tlv.value < maxsnlen ∨ mem (i * slotlen + maxsnlen) = 0) :
    ∃ n buf, replyResults mem bs = some (n, buf) ∧
      (List.range n).map (fun i => cstr (slotAt buf i)) =
        replyNames l.reverse (aimCounttlvchain l.reverse) 0 := by
  refine ⟨_, _, replyResults_encode h mem, ?_⟩
  have hlen : (tlvsOfType 0x0001 l).length = (tlvsOfType 0x0001 l.reverse).length := by
    rw [tlvsOfType_reverse, List.length_reverse]
  have hcount : (tlvsOfType 0x0001 l.reverse).length ≤ 0 + aimCounttlvchain l.reverse := by
    rw [Nat.zero_add]
    exact length_tlvsOfType_le 0x0001 l.reverse
  rw [replyNames_eq l.reverse hcount, List.drop_zero, hlen]
  apply List.ext_getElem?
  intro i
  rw [List.getElem?_map, List.getElem?_map]
  cases htlv : (tlvsOfType 0x0001 l.reverse)[i]? with
  | none =>
    rw [List.getElem?_eq_none (by
      rw [List.length_range]
      exact List.getElem?_eq_none_iff.mp htlv)]
    rfl
  | some tlv =>
    have hnul := (zero_mem_searchSlot_iff mem i tlv.value).mpr (hnames i tlv htlv)
    rw [List.getElem?_range (List.getElem?_eq_some_iff.mp htlv).1, Option.map_some,
      slotAt_searchSlots mem htlv, cstr_searchSlot hnul]
    rfl

/-- The count is that of the TLVs of type 1 and each slot is the string of one of them exactly if
every such string is shorter than `MAXSNLEN` bytes, apart from those for which memory had a NUL at
the end of the slot. The slots are filled from the last TLV to the first. -/
theorem searchReplied_iff {l : List AimTlv} {bs : AimBstream} (h : bs.rest = encodeTlvchain l)
    (mem : Memory) :
    (∃ r, replyResults mem bs = some r ∧ SearchReplied l r) ↔
      ∀ i tlv, (tlvsOfType 0x0001 l.reverse)[i]? = some tlv →
        strlen tlv.value < maxsnlen ∨ mem (i * slotlen + maxsnlen) = 0 := by
  rw [replyResults_encode h mem]
  have hperm : (tlvsOfType 0x0001 l.reverse).Perm (tlvsOfType 0x0001 l) := by
    rw [tlvsOfType_reverse]
    exact List.reverse_perm _
  constructor
  · rintro ⟨r, hr, -, tlvs, hperm', hslots⟩ i tlv htlv
    obtain rfl := Option.some.inj hr
    -- the order of the TLVs does not matter here: there is a slot for each of them
    have hlt : i < tlvs.length := by
      rw [hperm'.length_eq, ← hperm.length_eq]
      exact (List.getElem?_eq_some_iff.mp htlv).1
    have hnul := (hslots i _ (List.getElem?_eq_getElem hlt)).1
    rw [slotAt_searchSlots mem htlv] at hnul
    exact (zero_mem_searchSlot_iff mem i tlv.value).mp hnul
  · intro hnames
    refine ⟨_, rfl, rfl, _, hperm, ?_⟩
    intro i tlv htlv
    have hnul := (zero_mem_searchSlot_iff mem i tlv.value).mpr (hnames i tlv htlv)
    rw [slotAt_searchSlots mem htlv]
    exact ⟨hnul, cstr_searchSlot hnul⟩

/-- Names of two and of three letters fit whatever memory held. -/
theorem searchReplied_short :
    let names := [createtlv 0x0001 2 [0x6d, 0x65], createtlv 0x0001 3 [0x79, 0x6f, 0x75]]
    ∃ r, replyResults (fun _ => 0xff) ⟨encodeTlvchain names, 0⟩ = some r ∧
      SearchReplied names r := by
  refine (searchReplied_iff rfl (fun _ => 0xff)).mpr ?_
  intro i tlv htlv
  have hshort : ∀ tlv ∈ [createtlv 0x0001 3 [0x79, 0x6f, 0x75],
      createtlv 0x0001 2 [0x6d, 0x65]], strlen tlv.value < maxsnlen := by
    decide
  exact .inl (hshort tlv (List.mem_of_getElem? htlv))

/-- A name of 32 letters has no NUL if memory had none. -/
theorem not_searchReplied_long :
    let name := createtlv 0x0001 32 (List.replicate 32 0x61)
    ¬ ∃ r, replyResults (fun _ => 0xff) ⟨encodeTlvchain [name], 0⟩ = some r ∧
      SearchReplied [name] r := by
  rintro name ⟨r, hr, -, tlvs, hperm, hslots⟩
  have hname : tlvsOfType 0x0001 [name].reverse = [name] := rfl
  rw [replyResults_encode rfl, hname] at hr
  obtain rfl := Option.some.inj hr
  have hone : tlvs = [name] := List.perm_singleton.mp hperm
  have hnul := (hslots 0 name (by rw [hone]; rfl)).1
  have hslot : slotAt (searchSlots (fun _ => 0xff) 0 [name]).flatten 0 =
      searchSlot (fun _ => 0xff) 0 name.value := slotAt_searchSlots _ rfl
  rw [hslot] at hnul
  rcases (zero_mem_searchSlot_iff _ _ _).mp hnul with hshort | hzero
  · exact absurd hshort (by decide)
  · exact absurd hzero (by decide)

end Libfaim
