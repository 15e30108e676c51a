import Libfaim.BStream.Progress
import Libfaim.Tlv.RoundTrip

/-!
# Server-side lists (`ssi.c`)

`parsedata` takes items off the stream until at most four bytes, those of the stamp, are left; the
number of items that was sent is not looked at. The TLVs of an item are read from a stream of their
own, over as many bytes as the item declares. A list of items in the layout that is read comes out
as it was sent (`parsedata_encode`).
-/

namespace Libfaim

/-! ## Reading a list -/

/-- `struct aim_ssi_item`. A null name is `none`. -/
structure AimSsiItem where
  name : Option (List UInt8)
  gid : UInt16
  bid : UInt16
  type : UInt16
  data : List AimTlv
  deriving DecidableEq, Repr

/-- The name of an item with its length in front. -/
def ssiName : StateM AimBstream (Option (List UInt8)) := do
  let namelen ← aimbsGet16
  if namelen ≠ 0 then aimbsGetstr namelen.toNat else pure none

/-- An item up to its data, and the length of the data. -/
def ssiHead : StateM AimBstream (AimSsiItem × UInt16) := do
  let name ← ssiName
  let gid ← aimbsGet16
  let bid ← aimbsGet16
  let type ← aimbsGet16
  let tbslen ← aimbsGet16
  return ({ name, gid, bid, type, data := [] }, tbslen)

/-- One pass of the loop of `parsedata`. The stream of the TLVs starts at the offset and has the
length that was declared, whatever the length of the frame. -/
def parsedataPass : AimBstream × List AimSsiItem →
    Loop.Pass (AimBstream × List AimSsiItem) (AimBstream × List AimSsiItem)
  | (bs, list) =>
    if aimBstreamEmpty bs > 4 then
      let ((nl, tbslen), bs) := ssiHead bs
      if tbslen ≠ 0 then
        match aimReadtlvchain (aimBstreamInit bs.rest tbslen.toNat) with
        | none => .stuck
        | some (data, _) =>
          .again ((aimBstreamAdvance tbslen.toNat bs).2, list ++ [{ nl with data := data }])
      else .again (bs, list ++ [nl])
    else .leave (bs, list)

/-- What the handler of the client is given. -/
structure SsiData where
  fmtver : UInt8
  itemcount : UInt16
  stamp : UInt32
  list : List AimSsiItem
  deriving DecidableEq, Repr

/-- `parsedata` up to the call of the handler; `none` if it never gets there. -/
def parsedata (bs : AimBstream) : Option SsiData :=
  let (fmtver, bs) := aimbsGet8 bs
  let (itemcount, bs) := aimbsGet16 bs
  (Loop.run parsedataPass (aimBstreamEmpty bs + 1) (bs, [])).map fun (bs, list) =>
    { fmtver, itemcount, stamp := (aimbsGet32 bs).1, list }

/-! ## The layout -/

/-- An item as it is sent: the name and the TLVs have lengths of 16 bits. -/
structure SsiItem where
  name : List UInt8
  gid : UInt16
  bid : UInt16
  type : UInt16
  tlvs : List AimTlv
  name_lt : name.length < 65536
  tlvs_lt : (encodeTlvchain tlvs).length < 65536

namespace SsiItem

/-- The item in front of its data, and the length of the data. -/
def encodeHead (item : SsiItem) : List UInt8 :=
  aimutilPut16 (UInt16.ofNat item.name.length) ++ item.name ++ (aimutilPut16 item.gid ++
    (aimutilPut16 item.bid ++ (aimutilPut16 item.type ++
      aimutilPut16 (UInt16.ofNat (encodeTlvchain item.tlvs).length))))

def encode (item : SsiItem) : List UInt8 := item.encodeHead ++ encodeTlvchain item.tlvs

/-- What the client is to be given for the item. -/
def decoded (item : SsiItem) : AimSsiItem where
  name := if item.name = [] then none else some item.name
  gid := item.gid
  bid := item.bid
  type := item.type
  data := item.tlvs.reverse

end SsiItem

/-- The bytes of a list, behind the SNAC header. -/
def ssiFrame (fmtver : UInt8) (itemcount : UInt16) (items : List SsiItem) (stamp : UInt32) :
    List UInt8 :=
  aimutilPut8 fmtver ++ (aimutilPut16 itemcount ++ (items.flatMap SsiItem.encode ++
    aimutilPut32 stamp))

/-! ## Reading it back -/

theorem toNat_ofNat_length {v : List UInt8} (h : v.length < 65536) :
    (UInt16.ofNat v.length).toNat = v.length := by
  rw [UInt16.toNat_ofNat', Nat.mod_eq_of_lt h]

theorem ofNat_length_eq_zero_iff {v : List UInt8} (h : v.length < 65536) :
    UInt16.ofNat v.length = 0 ↔ v = [] := by
  rw [← UInt16.toNat_inj, toNat_ofNat_length h, UInt16.toNat_zero, List.length_eq_zero_iff]

/-- A name is read with its length; an empty one is null. -/
theorem reads_ssiName {name : List UInt8} (h : name.length < 65536) :
    Reads ssiName (aimutilPut16 (UInt16.ofNat name.length) ++ name)
      (if name = [] then none else some name) := by
  refine (reads_aimbsGet16 _).bind ?_
  by_cases hname : name = []
  · have hzero := (ofNat_length_eq_zero_iff h).mpr hname
    rw [if_neg (not_not_intro hzero), if_pos hname, hname]
    exact Reads.pure none
  · have hne : UInt16.ofNat name.length ≠ 0 := fun hz =>
      hname ((ofNat_length_eq_zero_iff h).mp hz)
    rw [if_pos hne, if_neg hname, toNat_ofNat_length h]
    exact reads_aimbsGetraw rfl

theorem reads_ssiHead (item : SsiItem) :
    Reads ssiHead item.encodeHead ({ item.decoded with data := [] },
      UInt16.ofNat (encodeTlvchain item.tlvs).length) := by
  have hlast := (reads_aimbsGet16 (UInt16.ofNat (encodeTlvchain item.tlvs).length)).map
    fun tbslen => (({ item.decoded with data := [] } : AimSsiItem), tbslen)
  exact (reads_ssiName item.name_lt).bind <| (reads_aimbsGet16 _).bind <|
    (reads_aimbsGet16 _).bind <| (reads_aimbsGet16 _).bind hlast

/-- A stream over the first bytes of a longer string. -/
theorem aimBstreamInit_append {v : List UInt8} (h : v.length < 65536) (r : List UInt8) :
    aimBstreamInit (v ++ r) v.length = ⟨v, 0⟩ := by
  have hmod : ((v.length : Int) % 65536).toNat = v.length := by omega
  simp [aimBstreamInit, hmod]

theorem encodeTlvchain_eq_nil_iff (list : List AimTlv) : encodeTlvchain list = [] ↔ list = [] := by
  constructor
  · intro h
    have hle := length_le_encodeTlvchain list
    rw [h] at hle
    exact List.length_eq_zero_iff.mp (Nat.le_zero.mp hle)
  · rintro rfl
    rfl

theorem SsiItem.ten_le_encode (item : SsiItem) : 10 ≤ item.encode.length := by
  simp only [encode, encodeHead, List.length_append, aimutilPut16_length]
  omega

/-- What one pass does with an item. -/
def ssiTake (s : AimBstream × List AimSsiItem) (item : SsiItem) :
    AimBstream × List AimSsiItem :=
  (s.1.skip item.encode.length, s.2 ++ [item.decoded])

theorem foldl_ssiTake (items : List SsiItem) (s : AimBstream × List AimSsiItem) :
    (items.foldl ssiTake s).2 = s.2 ++ items.map SsiItem.decoded := by
  induction items generalizing s with
  | nil => exact (List.append_nil s.2).symm
  | cons item items ih =>
    rw [List.foldl_cons, ih, ssiTake, List.map_cons, List.append_assoc, List.singleton_append]

/-- Whatever follows an item, one pass takes it whole. -/
theorem parsedataPass_item (item : SsiItem) (s : AimBstream × List AimSsiItem) {r : List UInt8}
    (hr : s.1.rest = item.encode ++ r) :
    parsedataPass s = .again (ssiTake s item) ∧ (ssiTake s item).1.rest = r := by
  refine ⟨?_, s.1.rest_skip_of_append hr⟩
  obtain ⟨bs, list⟩ := s
  have hmore : aimBstreamEmpty bs > 4 := by
    have hten := item.ten_le_encode
    rw [← bs.length_rest, hr, List.length_append]
    omega
  rw [SsiItem.encode, List.append_assoc] at hr
  have hhead := reads_ssiHead item bs _ hr
  have hrest := bs.rest_skip_of_append hr
  have hskip : (bs.skip item.encodeHead.length).skip (encodeTlvchain item.tlvs).length =
      bs.skip item.encode.length := by
    rw [AimBstream.skip_skip, SsiItem.encode, List.length_append]
  unfold parsedataPass ssiTake
  dsimp only
  rw [if_pos hmore, hhead]
  dsimp only
  by_cases htlvs : item.tlvs = []
  · have hchain := (encodeTlvchain_eq_nil_iff item.tlvs).mpr htlvs
    have hzero := (ofNat_length_eq_zero_iff item.tlvs_lt).mpr hchain
    have hdata : ({ item.decoded with data := [] } : AimSsiItem) = item.decoded := by
      simp [SsiItem.decoded, htlvs]
    rw [hchain, List.length_nil, AimBstream.skip_zero] at hskip
    rw [if_neg (not_not_intro hzero), hdata, hskip]
  · have hchain : encodeTlvchain item.tlvs ≠ [] := fun h =>
      htlvs ((encodeTlvchain_eq_nil_iff item.tlvs).mp h)
    have hne : UInt16.ofNat (encodeTlvchain item.tlvs).length ≠ 0 := fun h =>
      hchain ((ofNat_length_eq_zero_iff item.tlvs_lt).mp h)
    have hread := @aimReadtlvchain_encode item.tlvs ⟨encodeTlvchain item.tlvs, 0⟩ rfl
    have hadvance := reads_aimBstreamAdvance (v := encodeTlvchain item.tlvs) rfl _ _ hrest
    rw [if_pos hne, toNat_ofNat_length item.tlvs_lt, hrest, aimBstreamInit_append item.tlvs_lt,
      hread, hadvance, hskip]
    rfl

/-- The loop takes all items and is left in front of the stamp. -/
theorem run_parsedataPass_items (items : List SsiItem) (stamp : UInt32) {bs : AimBstream}
    (h : bs.rest = items.flatMap SsiItem.encode ++ aimutilPut32 stamp) :
    ∃ bs', Loop.run parsedataPass (aimBstreamEmpty bs + 1) (bs, []) =
      some (bs', items.map SsiItem.decoded) ∧ bs'.rest = aimutilPut32 stamp := by
  have hleave : ∀ s : AimBstream × List AimSsiItem, s.1.rest = aimutilPut32 stamp →
      parsedataPass s = .leave s := by
    rintro ⟨bs, list⟩ hs
    have hempty : aimBstreamEmpty bs = 4 := by
      rw [← bs.length_rest, hs, aimutilPut32_length]
    unfold parsedataPass
    dsimp only
    rw [if_neg (by omega)]
  have hne : ∀ item ∈ items, item.encode ≠ [] := by
    intro item _
    apply List.ne_nil_of_length_pos
    exact Nat.lt_of_lt_of_le (by decide) item.ten_le_encode
  obtain ⟨hrun, hrest⟩ := Loop.run_items_rest (fun s => s.1.rest) SsiItem.encode ssiTake hne
    (fun item _ s r => parsedataPass_item item s) hleave (s := (bs, [])) h
  rw [bs.length_rest] at hrun
  have hlist := foldl_ssiTake items (bs, [])
  rw [List.nil_append] at hlist
  refine ⟨(items.foldl ssiTake (bs, [])).1, ?_, hrest⟩
  rw [hrun, ← hlist]

/-- The client is given the items of a well-formed list in their order, with the names, the ids and
the TLVs that were sent, and the stamp behind them. -/
theorem parsedata_encode (fmtver : UInt8) (itemcount : UInt16) (items : List SsiItem)
    (stamp : UInt32) {bs : AimBstream} (h : bs.rest = ssiFrame fmtver itemcount items stamp) :
    parsedata bs = some { fmtver, itemcount, stamp, list := items.map SsiItem.decoded } := by
  have hver := reads_aimbsGet8 fmtver bs _ h
  have hrver := bs.rest_skip_of_append h
  have hcount := reads_aimbsGet16 itemcount _ _ hrver
  have hrcount := AimBstream.rest_skip_of_append _ hrver
  obtain ⟨bs', hrun, hrest⟩ := run_parsedataPass_items items stamp hrcount
  have hstamp := reads_aimbsGet32 stamp bs' [] (hrest.trans (List.append_nil _).symm)
  unfold parsedata
  rw [hver]
  dsimp only
  rw [hcount]
  dsimp only
  rw [hrun, Option.map_some]
  dsimp only
  rw [hstamp]

/-- An item with a name and two TLVs. -/
def namedItem : SsiItem where
  name := [0x61, 0x62]
  gid := 1
  bid := 2
  type := 0
  tlvs := [createtlv 0x00c8 2 [0, 7], createtlv 0x0131 0 []]
  name_lt := by decide
  tlvs_lt := by decide

/-- An item with neither. -/
def bareItem : SsiItem where
  name := []
  gid := 0
  bid := 0
  type := 1
  tlvs := []
  name_lt := Nat.zero_lt_succ 65535
  tlvs_lt := Nat.zero_lt_succ 65535

theorem parsedata_encode_two :
    parsedata ⟨ssiFrame 0 2 [namedItem, bareItem] 7, 0⟩ =
      some ⟨0, 2, 7, [namedItem.decoded, bareItem.decoded]⟩ :=
  parsedata_encode 0 2 [namedItem, bareItem] 7 rfl

end Libfaim
