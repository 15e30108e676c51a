import Libfaim.Lib.Cursor
import Libfaim.Ssi
import Libfaim.Tlv.Wire

/-!
# Where the TLVs of a list are read from

`parsedata` takes the length of an item's data as it was sent, makes a stream of that length for
the TLVs, and only then looks whether the frame is as long (`aim_bstream_advance`). So the TLVs are
read from inside the frame exactly when every item the loop comes to has all its data behind it
(`parsedata_inside_iff`).
-/

namespace Libfaim

/-! ## Staying inside -/

/-- The stream that the pass over the item at `bs` makes for the TLVs has no more bytes than are left
of the frame. -/
def SubstreamInside (bs : AimBstream) : Prop :=
  (ssiHead bs).1.2.toNat ≤ aimBstreamEmpty (ssiHead bs).2

/-- Whenever the loop, entered in `s`, comes to an item, its TLVs are read from inside the frame. -/
def ItemsInside (s : AimBstream × List AimSsiItem) : Prop :=
  ∀ bs list, Loop.Reach parsedataPass s (bs, list) → aimBstreamEmpty bs > 4 → SubstreamInside bs

/-- All TLVs that `parsedata` decodes are read from inside the frame. -/
def ParsedataInside (bs : AimBstream) : Prop :=
  ItemsInside ((aimbsGet16 (aimbsGet8 bs).2).2, [])

/-! ## Which lists stay inside -/

/-- What `ssiName` takes as the name in front of `rest`: as many bytes as the length says, or none
if there are not that many. -/
def NameBytes (namelen : UInt16) (name rest : List UInt8) : Prop :=
  name.length = namelen.toNat ∨ name = [] ∧ rest.length < namelen.toNat

/-- Items that all have their data behind them, up to where the loop ends: with no more than the
stamp left, in an item that is cut in front of the length of its data, or in the data of an item
that `aim_readtlvchain` never gets through. -/
inductive ItemBytes : List UInt8 → Prop
  | stamp {v : List UInt8} (h : v.length ≤ 4) : ItemBytes v
  | cut {namelen : UInt16} {name fields : List UInt8} (hname : NameBytes namelen name fields)
    (h : fields.length < 8) : ItemBytes (aimutilPut16 namelen ++ (name ++ fields))
  | item {namelen tbslen : UInt16} {name ids data r : List UInt8}
    (hname : NameBytes namelen name (ids ++ (aimutilPut16 tbslen ++ (data ++ r))))
    (hids : ids.length = 6) (hdata : data.length = tbslen.toNat)
    (hr : ¬ StrayByte data → ItemBytes r) :
    ItemBytes (aimutilPut16 namelen ++ (name ++ (ids ++ (aimutilPut16 tbslen ++ (data ++ r)))))

/-! ## The head of an item -/

section Head

variable {bs : AimBstream} {namelen tbslen : UInt16} {name rest ids w : List UInt8}

/-- The fields come behind the name, whether it was there or not. -/
theorem ssiName_rest (hname : NameBytes namelen name rest)
    (hr : bs.rest = aimutilPut16 namelen ++ (name ++ rest)) : (ssiName bs).2.rest = rest := by
  have hread := reads_aimbsGet16 namelen bs _ hr
  have hbehind := bs.rest_skip_of_append hr
  rw [ssiName, stateM_bind, hread]
  dsimp only
  by_cases hzero : namelen = 0
  · subst hzero
    have hnil : name = [] := by
      rcases hname with hlen | ⟨hnil, -⟩
      · exact List.length_eq_zero_iff.mp hlen
      · exact hnil
    rw [if_neg (not_not_intro rfl), stateM_pure, hbehind, hnil, List.nil_append]
  · rw [if_pos hzero]
    rcases hname with hlen | ⟨rfl, hlt⟩
    · have hstr := reads_aimbsGetraw hlen _ _ hbehind
      rw [aimbsGetstr, hstr, AimBstream.rest_skip_of_append _ hbehind]
    · rw [List.nil_append] at hbehind
      rw [← hbehind, AimBstream.length_rest] at hlt
      rw [aimbsGetstr, aimbsGetraw_short hlt, hbehind]

/-- The length of the data is the fourth word behind the name. -/
theorem ssiHead_tbslen (bs : AimBstream) :
    (ssiHead bs).1.2 =
        (aimbsGet16 (aimbsGet16 (aimbsGet16 (aimbsGet16 (ssiName bs).2).2).2).2).1 ∧
      (ssiHead bs).2 =
        (aimbsGet16 (aimbsGet16 (aimbsGet16 (aimbsGet16 (ssiName bs).2).2).2).2).2 := by
  simp only [ssiHead, stateM_bind, stateM_pure, and_self]

theorem length_rest_aimbsGet16_le {bs : AimBstream} {n : Nat} (hn : 1 ≤ n)
    (h : bs.rest.length ≤ n + 2) : (aimbsGet16 bs).2.rest.length ≤ n := by
  rw [bs.length_rest] at h
  rw [AimBstream.length_rest]
  by_cases hshort : aimBstreamEmpty bs < 2
  · rw [aimbsGet16, aimbsGet_short hshort]
    show aimBstreamEmpty bs ≤ n
    omega
  · have hempty := aimbsGet16_empty (Nat.not_lt.mp hshort)
    omega

/-- Of fields that are cut, the length of the data is zero, and at most a byte stays behind. -/
theorem ssiHead_cut (hname : NameBytes namelen name rest) (hlt : rest.length < 8)
    (hr : bs.rest = aimutilPut16 namelen ++ (name ++ rest)) :
    ∃ nl behind, ssiHead bs = ((nl, 0), behind) ∧ behind.rest.length ≤ 1 := by
  obtain ⟨htbslen, hbehind⟩ := ssiHead_tbslen bs
  generalize ssiHead bs = head at htbslen hbehind ⊢
  obtain ⟨⟨nl, tbslen⟩, behind⟩ := head
  dsimp only at htbslen hbehind
  rw [htbslen, hbehind]
  have hfields : (ssiName bs).2.rest.length ≤ 5 + 2 := by
    rw [ssiName_rest hname hr]
    exact Nat.le_of_lt_succ hlt
  have hgid := length_rest_aimbsGet16_le (by decide) hfields
  have hbid := length_rest_aimbsGet16_le (n := 3) (by decide) hgid
  have htype := length_rest_aimbsGet16_le (n := 1) (by decide) hbid
  generalize (aimbsGet16 (aimbsGet16 (aimbsGet16 (ssiName bs).2).2).2).2 = behind at htype ⊢
  have hshort : aimBstreamEmpty behind < 2 := by
    rw [← behind.length_rest]
    exact Nat.lt_succ_of_le htype
  rw [aimbsGet16, aimbsGet_short hshort]
  exact ⟨nl, behind, rfl, htype⟩

theorem aimbsGet16_rest {bs : AimBstream} (h : 2 ≤ bs.rest.length) :
    (aimbsGet16 bs).2.rest = bs.rest.drop 2 := by
  rw [bs.length_rest] at h
  rw [aimbsGet16, aimbsGet_of_le h, AimBstream.rest_skip]

theorem ssiHead_item (hname : NameBytes namelen name (ids ++ (aimutilPut16 tbslen ++ w)))
    (hids : ids.length = 6)
    (hr : bs.rest = aimutilPut16 namelen ++ (name ++ (ids ++ (aimutilPut16 tbslen ++ w)))) :
    ∃ nl behind, ssiHead bs = ((nl, tbslen), behind) ∧ behind.rest = w := by
  obtain ⟨htbslen, hbehind⟩ := ssiHead_tbslen bs
  generalize ssiHead bs = head at htbslen hbehind ⊢
  obtain ⟨⟨nl, tbslen'⟩, behind⟩ := head
  dsimp only at htbslen hbehind
  rw [htbslen, hbehind]
  have hfields := ssiName_rest hname hr
  have hlen : (ssiName bs).2.rest.length = 8 + w.length := by
    rw [hfields, List.length_append, List.length_append, hids, aimutilPut16_length]
    omega
  have hgid := @aimbsGet16_rest (ssiName bs).2 (by omega)
  have hbid := @aimbsGet16_rest (aimbsGet16 (ssiName bs).2).2 (by
    rw [hgid, List.length_drop]
    omega)
  have htype := @aimbsGet16_rest (aimbsGet16 (aimbsGet16 (ssiName bs).2).2).2 (by
    rw [hbid, hgid, List.length_drop, List.length_drop]
    omega)
  rw [hbid, hgid, List.drop_drop, List.drop_drop, hfields, List.drop_left' hids] at htype
  generalize (aimbsGet16 (aimbsGet16 (aimbsGet16 (ssiName bs).2).2).2).2 = behind at htype ⊢
  rw [reads_aimbsGet16 tbslen behind w htype]
  exact ⟨nl, _, rfl, behind.rest_skip_of_append htype⟩

end Head

/-- Two bytes and more are the head of an item, cut or not. -/
theorem exists_itemHead {v : List UInt8} (h : 2 ≤ v.length) :
    ∃ namelen name rest, NameBytes namelen name rest ∧
      v = aimutilPut16 namelen ++ (name ++ rest) := by
  have htwo : (v.take 2).length = 2 := by
    rw [List.length_take]
    omega
  have hsplit : v = aimutilPut16 (aimutilGet16 (v.take 2)) ++ v.drop 2 := by
    rw [aimutilPut16_get16 htwo, List.take_append_drop]
  by_cases hle : (aimutilGet16 (v.take 2)).toNat ≤ (v.drop 2).length
  · refine ⟨aimutilGet16 (v.take 2), (v.drop 2).take (aimutilGet16 (v.take 2)).toNat,
      (v.drop 2).drop (aimutilGet16 (v.take 2)).toNat, .inl ?_, ?_⟩
    · rw [List.length_take, Nat.min_eq_left hle]
    · rw [List.take_append_drop]
      exact hsplit
  · exact ⟨_, [], v.drop 2, .inr ⟨rfl, Nat.lt_of_not_le hle⟩, hsplit⟩

/-- Eight bytes and more behind the name have the length of the data among them. -/
theorem exists_itemFields {rest : List UInt8} (h : 8 ≤ rest.length) :
    ∃ ids tbslen w, ids.length = 6 ∧ rest = ids ++ (aimutilPut16 tbslen ++ w) := by
  have htwo : ((rest.drop 6).take 2).length = 2 := by
    rw [List.length_take, List.length_drop]
    omega
  refine ⟨rest.take 6, aimutilGet16 ((rest.drop 6).take 2), (rest.drop 6).drop 2, ?_, ?_⟩
  · rw [List.length_take]
    omega
  · rw [aimutilPut16_get16 htwo, List.take_append_drop, List.take_append_drop]

/-! ## The loop -/

section Pass

variable {bs behind : AimBstream} {list : List AimSsiItem} {nl : AimSsiItem} {tbslen : UInt16}
  {data r : List UInt8}

theorem parsedataPass_short (h : bs.rest.length ≤ 4) :
    parsedataPass (bs, list) = .leave (bs, list) := by
  rw [bs.length_rest] at h
  exact if_neg (Nat.not_lt.mpr h)

theorem parsedataPass_nodata (h : 4 < bs.rest.length) (hhead : ssiHead bs = ((nl, 0), behind)) :
    parsedataPass (bs, list) = .again (behind, list ++ [nl]) := by
  rw [bs.length_rest] at h
  unfold parsedataPass
  dsimp only
  rw [if_pos h, hhead]
  dsimp only
  rw [if_neg (not_not_intro rfl)]

/-- Behind data that is there and that `aim_readtlvchain` gets through, the loop goes on. -/
theorem parsedataPass_data (h : 4 < bs.rest.length)
    (hhead : ssiHead bs = ((nl, tbslen), behind)) (hrest : behind.rest = data ++ r)
    (hdata : data.length = tbslen.toNat) (hstray : ¬ StrayByte data) :
    ∃ bs' list', parsedataPass (bs, list) = .again (bs', list') ∧ bs'.rest = r := by
  by_cases hzero : tbslen = 0
  · rw [hzero] at hdata hhead
    obtain rfl := List.length_eq_zero_iff.mp hdata
    exact ⟨behind, list ++ [nl], parsedataPass_nodata h hhead, hrest⟩
  · have hlt : data.length < 65536 := hdata ▸ tbslen.toNat_lt
    obtain ⟨⟨chain, bs'⟩, hchain⟩ := @aimReadtlvchain_isSome ⟨data, 0⟩ hstray
    have hadvance := reads_aimBstreamAdvance hdata _ _ hrest
    rw [bs.length_rest] at h
    refine ⟨behind.skip data.length, list ++ [{ nl with data := chain }], ?_,
      behind.rest_skip_of_append hrest⟩
    unfold parsedataPass
    dsimp only
    rw [if_pos h, hhead]
    dsimp only
    rw [if_pos hzero, hrest, ← hdata, aimBstreamInit_append hlt, hchain]
    dsimp only
    rw [hdata, hadvance, hdata]

/-- In data it never gets through, `aim_readtlvchain` does not return. -/
theorem parsedataPass_stray (h : 4 < bs.rest.length)
    (hhead : ssiHead bs = ((nl, tbslen), behind)) (hrest : behind.rest = data ++ r)
    (hdata : data.length = tbslen.toNat) (hstray : StrayByte data) :
    parsedataPass (bs, list) = .stuck := by
  have hzero : tbslen ≠ 0 := by
    rintro rfl
    rw [List.length_eq_zero_iff.mp hdata] at hstray
    exact not_strayByte_nil hstray
  have hlt : data.length < 65536 := hdata ▸ tbslen.toNat_lt
  have hchain : aimReadtlvchain ⟨data, 0⟩ = none := aimReadtlvchain_stray hstray
  rw [bs.length_rest] at h
  unfold parsedataPass
  dsimp only
  rw [if_pos h, hhead]
  dsimp only
  rw [if_pos hzero, hrest, ← hdata, aimBstreamInit_append hlt, hchain]

theorem substreamInside_iff (hhead : ssiHead bs = ((nl, tbslen), behind)) :
    SubstreamInside bs ↔ tbslen.toNat ≤ behind.rest.length := by
  rw [SubstreamInside, hhead, behind.length_rest]

/-- Of this item and of those behind it. -/
theorem itemsInside_iff (bs : AimBstream) (list : List AimSsiItem) :
    ItemsInside (bs, list) ↔ (aimBstreamEmpty bs > 4 → SubstreamInside bs) ∧
      ∀ u, parsedataPass (bs, list) = .again u → ItemsInside u := by
  constructor
  · intro h
    exact ⟨h bs list .refl, fun u hu bs' list' hreach => h bs' list' (hreach.head hu)⟩
  · rintro ⟨hhead, htail⟩ bs' list' hreach
    obtain heq | ⟨u, hu, hreach⟩ := hreach.eq_or_head
    · obtain ⟨rfl, rfl⟩ := Prod.mk.inj heq
      exact hhead
    · exact htail u hu bs' list' hreach

theorem itemsInside_short (h : bs.rest.length ≤ 4) : ItemsInside (bs, list) := by
  rw [itemsInside_iff, parsedataPass_short h]
  rw [bs.length_rest] at h
  exact ⟨fun hmore => absurd hmore (Nat.not_lt.mpr h), fun u hu => nomatch hu⟩

theorem itemsInside_cut {namelen : UInt16} {name fields : List UInt8}
    (hname : NameBytes namelen name fields) (hlt : fields.length < 8)
    (hr : bs.rest = aimutilPut16 namelen ++ (name ++ fields)) : ItemsInside (bs, list) := by
  by_cases h : 4 < bs.rest.length
  · obtain ⟨nl, behind, hhead, hle⟩ := ssiHead_cut hname hlt hr
    rw [itemsInside_iff, parsedataPass_nodata h hhead, substreamInside_iff hhead]
    refine ⟨fun _ => Nat.zero_le _, fun u hu => ?_⟩
    cases hu
    exact itemsInside_short (Nat.le_trans hle (by decide))
  · exact itemsInside_short (Nat.not_lt.mp h)

end Pass

/-- The TLVs of such items are inside, wherever the stream is that the items are read from. -/
theorem ItemBytes.itemsInside {v : List UInt8} (h : ItemBytes v) :
    ∀ (bs : AimBstream) (list : List AimSsiItem), bs.rest = v → ItemsInside (bs, list) := by
  induction h with
  | stamp hle =>
    rintro bs list rfl
    exact itemsInside_short hle
  | cut hname hlt => exact fun bs list hr => itemsInside_cut hname hlt hr
  | @item namelen tbslen name ids data r hname hids hdata _ ih =>
    intro bs list hr
    obtain ⟨nl, behind, hhead, hrest⟩ := ssiHead_item hname hids hr
    have hmore : 4 < bs.rest.length := by
      rw [hr]
      simp only [List.length_append, aimutilPut16_length, hids]
      omega
    rw [itemsInside_iff, substreamInside_iff hhead]
    refine ⟨fun _ => ?_, fun u hu => ?_⟩
    · rw [hrest, ← hdata, List.length_append]
      exact Nat.le_add_right _ _
    · by_cases hstray : StrayByte data
      · rw [parsedataPass_stray hmore hhead hrest hdata hstray] at hu
        cases hu
      · obtain ⟨bs', list', hpass, hr'⟩ := parsedataPass_data hmore hhead hrest hdata hstray
        rw [hpass] at hu
        cases hu
        exact ih hstray bs' list' hr'

/-- Where all TLVs are inside, the bytes are such items. -/
theorem itemBytes_of_itemsInside {bs : AimBstream} {list : List AimSsiItem}
    (h : ItemsInside (bs, list)) : ItemBytes bs.rest := by
  induction hn : bs.rest.length using Nat.strongRecOn generalizing bs list with
  | _ n ih =>
    by_cases hmore : 4 < bs.rest.length
    · obtain ⟨namelen, name, rest, hname, hr⟩ := exists_itemHead (by omega : 2 ≤ bs.rest.length)
      by_cases hlt : rest.length < 8
      · rw [hr]
        exact .cut hname hlt
      · obtain ⟨ids, tbslen, w, hids, rfl⟩ := exists_itemFields (Nat.not_lt.mp hlt)
        obtain ⟨nl, behind, hhead, hrest⟩ := ssiHead_item hname hids hr
        rw [itemsInside_iff, substreamInside_iff hhead, hrest] at h
        have hinside := h.1 (by rwa [bs.length_rest] at hmore)
        have hdata : (w.take tbslen.toNat).length = tbslen.toNat := by
          rw [List.length_take, Nat.min_eq_left hinside]
        have hlen := congrArg List.length hr
        simp only [List.length_append, aimutilPut16_length, hids] at hlen
        rw [← List.take_append_drop tbslen.toNat w] at hname hr hrest
        rw [hr]
        refine .item hname hids hdata fun hstray => ?_
        obtain ⟨bs', list', hpass, hr'⟩ := parsedataPass_data hmore hhead hrest hdata hstray
        rw [← hr']
        refine ih _ ?_ (h.2 _ hpass) rfl
        rw [hr', List.length_drop]
        omega
    · exact .stamp (Nat.not_lt.mp hmore)

/-- Behind the version and the count. -/
theorem rest_ssiItems {bs : AimBstream} (h : 3 ≤ bs.rest.length) :
    (aimbsGet16 (aimbsGet8 bs).2).2.rest = bs.rest.drop 3 := by
  have hver : (aimbsGet8 bs).2.rest = bs.rest.drop 1 := by
    rw [aimbsGet8, aimbsGet_of_le (by rw [← bs.length_rest]; omega), AimBstream.rest_skip]
  rw [aimbsGet16_rest, hver, List.drop_drop]
  rw [hver, List.length_drop]
  omega

/-- The TLVs of a list are read from inside the frame exactly when all its items have their data
behind them, or the loop ends before the first that does not. -/
theorem parsedata_inside_iff (bs : AimBstream) :
    ParsedataInside bs ↔ ItemBytes (bs.rest.drop 3) := by
  by_cases h : 3 ≤ bs.rest.length
  · rw [← rest_ssiItems h]
    exact ⟨itemBytes_of_itemsInside, fun hbytes => hbytes.itemsInside _ _ rfl⟩
  · have hshort : (aimbsGet16 (aimbsGet8 bs).2).2.rest.length ≤ 4 := by
      have hread := (forward_aimbsGet8 bs).trans (forward_aimbsGet16 (aimbsGet8 bs).2)
      have heq := hread.empty_eq
      have hle := hread.offset_le
      rw [bs.length_rest] at h
      rw [AimBstream.length_rest]
      omega
    have hdrop : (bs.rest.drop 3).length ≤ 4 := by
      rw [List.length_drop]
      omega
    exact iff_of_true (itemsInside_short hshort) (.stamp hdrop)

/-- An item that declares 255 bytes of data, with nothing behind it. -/
def overrunFrame : AimBstream :=
  ⟨[0x00, 0x00, 0x01, 0x00, 0x00, 0x00, 0x01, 0x00, 0x02, 0x00, 0x00, 0x00, 0xff], 0⟩

theorem not_parsedata_inside : ¬ ParsedataInside overrunFrame := by
  intro h
  have hinside := h _ _ .refl (by decide)
  exact absurd hinside (by unfold SubstreamInside; decide)

end Libfaim
