import Libfaim.Im.Bounds
import Libfaim.Tlv.RoundTrip

/-!
# The loop in place of a chain

`incomingim_ch1` used to read its TLVs into a chain, and reads them in place instead. `chainReading`
is such a reading through `aim_readtlvchain` and `aim_gettlv`, where an icon TLV without room for its
fields counts as absent. In place the fields are taken from wherever the stream goes on, and the
length of the extended data has eight bits. So both say the same if and only if what stands in the
place of the fields of a short icon TLV is zero and the extended data has no more than 255 bytes
(`incomingimCh1Loop_eq_chain_iff`).
-/

namespace Libfaim

open Mask

/-! ## Two readings -/

/-- What a message of channel 1 says beside its text. -/
@[ext]
structure Ch1Reading where
  ack : Bool
  away : Bool
  offline : Bool
  buddyreq : Bool
  hasicon : Bool
  iconlen : UInt32
  iconsum : UInt16
  iconstamp : Int
  extdata : Option (List UInt8)
  extdatalen : Nat
  deriving DecidableEq, Repr

/-- What the callback of the client is given. -/
def AimIncomingimCh1Args.reading (args : AimIncomingimCh1Args) : Ch1Reading where
  ack := args.has aimImflagsAck
  away := args.has aimImflagsAway
  offline := args.has aimImflagsOffline
  buddyreq := args.has aimImflagsBuddyreq
  hasicon := args.has aimImflagsHasicon
  iconlen := args.iconlen
  iconsum := args.iconsum
  iconstamp := args.iconstamp
  extdata := args.extdata
  extdatalen := args.extdatalen.toNat

/-- The value of an icon TLV, if all of its fields are there. -/
def AimTlv.icon? (tlv : AimTlv) : Option (List UInt8) :=
  if tlv.value.length < 12 then none else some tlv.value

def chainIcon (chain : List AimTlv) : Option (List UInt8) :=
  (aimGettlv chain 0x0008 1).bind AimTlv.icon?

/-- The reading of a chain, which stands for no function of the source: it is what the loop of
`incomingim_ch1` is compared with. -/
def chainReading (chain : List AimTlv) : Ch1Reading where
  ack := (aimGettlv chain 0x0003 1).isSome
  away := (aimGettlv chain 0x0004 1).isSome
  offline := (aimGettlv chain 0x0006 1).isSome
  buddyreq := (aimGettlv chain 0x0009 1).isSome
  hasicon := (chainIcon chain).any fun value => aimutilGet32 value ≠ 0
  iconlen := (chainIcon chain).elim 0 aimutilGet32
  iconsum := (chainIcon chain).elim 0 fun value => aimutilGet16 (value.drop 6)
  iconstamp := (chainIcon chain).elim 0 fun value => (aimutilGet32 (value.drop 8)).toNat
  extdata := (aimGettlv chain 0x0017 1).map AimTlv.value
  extdatalen := (aimGettlv chain 0x0017 1).elim 0 fun tlv => tlv.length.toNat

/-! ## The icon in place -/

/-- The length, the checksum and the timestamp that are read from the bytes `v` on: a field that is
not there is zero, and the next one is read from the same place. -/
def inPlaceIconlen (v : List UInt8) : UInt32 := if 4 ≤ v.length then aimutilGet32 v else 0
def inPlaceIconsum (v : List UInt8) : UInt16 := if 8 ≤ v.length then aimutilGet16 (v.drop 6) else 0
def inPlaceIconstamp (v : List UInt8) : UInt32 :=
  if 12 ≤ v.length then aimutilGet32 (v.drop 8) else 0

/-- What is read of an icon TLV. -/
def iconFields : StateM AimBstream (UInt32 × UInt16 × UInt32) := do
  let iconlen ← aimbsGet32
  let _ ← aimbsGet16
  let iconsum ← aimbsGet16
  let iconstamp ← aimbsGet32
  return (iconlen, iconsum, iconstamp)

theorem iconFields_eq (bs : AimBstream) : (iconFields bs).1 =
    (inPlaceIconlen bs.rest, inPlaceIconsum bs.rest, inPlaceIconstamp bs.rest) := by
  have hlen := bs.length_rest
  unfold iconFields inPlaceIconlen inPlaceIconsum inPlaceIconstamp
  rw [hlen]
  simp only [stateM_bind, stateM_pure, aimbsGet32, aimbsGet16]
  by_cases h4 : 4 ≤ aimBstreamEmpty bs
  · rw [aimbsGet_of_le h4]
    dsimp only
    by_cases h6 : 6 ≤ aimBstreamEmpty bs
    · have hskip : 2 ≤ aimBstreamEmpty (bs.skip 4) := by
        rw [skip_empty]
        omega
      rw [aimbsGet_of_le hskip]
      dsimp only
      by_cases h8 : 8 ≤ aimBstreamEmpty bs
      · have hsum : 2 ≤ aimBstreamEmpty ((bs.skip 4).skip 2) := by
          rw [skip_empty, skip_empty]
          omega
        rw [aimbsGet_of_le hsum]
        dsimp only
        by_cases h12 : 12 ≤ aimBstreamEmpty bs
        · have hstamp : 4 ≤ aimBstreamEmpty (((bs.skip 4).skip 2).skip 2) := by
            rw [skip_empty, skip_empty, skip_empty]
            omega
          rw [aimbsGet_of_le hstamp, if_pos h4, if_pos h8, if_pos h12]
          simp only [AimBstream.skip_skip, AimBstream.rest_skip]
        · have hstamp : aimBstreamEmpty (((bs.skip 4).skip 2).skip 2) < 4 := by
            rw [skip_empty, skip_empty, skip_empty]
            omega
          rw [aimbsGet_short hstamp, if_pos h4, if_pos h8, if_neg h12]
          simp only [AimBstream.skip_skip, AimBstream.rest_skip]
      · have hsum : aimBstreamEmpty ((bs.skip 4).skip 2) < 2 := by
          rw [skip_empty, skip_empty]
          omega
        have hstamp : aimBstreamEmpty ((bs.skip 4).skip 2) < 4 := by omega
        rw [aimbsGet_short hsum]
        dsimp only
        rw [aimbsGet_short hstamp, if_pos h4, if_neg h8, if_neg (by omega)]
    · have hskip : aimBstreamEmpty (bs.skip 4) < 2 := by
        rw [skip_empty]
        omega
      have hstamp : aimBstreamEmpty (bs.skip 4) < 4 := by omega
      rw [aimbsGet_short hskip]
      dsimp only
      rw [aimbsGet_short hskip]
      dsimp only
      rw [aimbsGet_short hstamp, if_pos h4, if_neg (by omega), if_neg (by omega)]
  · rw [aimbsGet_short (Nat.not_le.mp h4)]
    dsimp only
    rw [if_neg h4, if_neg (by omega), if_neg (by omega)]
    by_cases h2 : 2 ≤ aimBstreamEmpty bs
    · have hsum : aimBstreamEmpty (bs.skip 2) < 2 := by
        rw [skip_empty]
        omega
      have hstamp : aimBstreamEmpty (bs.skip 2) < 4 := by omega
      rw [aimbsGet_of_le h2]
      dsimp only
      rw [aimbsGet_short hsum]
      dsimp only
      rw [aimbsGet_short hstamp]
    · rw [aimbsGet_short (Nat.not_le.mp h2)]
      dsimp only
      rw [aimbsGet_short (Nat.not_le.mp h2)]
      dsimp only
      rw [aimbsGet_short (Nat.not_le.mp h4)]

/-! ## One TLV -/

/-- What the loop makes of a TLV, where `r` are the bytes behind it. -/
def Ch1Reading.see (x : Ch1Reading) (tlv : AimTlv) (r : List UInt8) : Ch1Reading :=
  if tlv.type = 0x0003 then { x with ack := true }
  else if tlv.type = 0x0004 then { x with away := true }
  else if tlv.type = 0x0006 then { x with offline := true }
  else if tlv.type = 0x0008 then
    { x with
      iconlen := inPlaceIconlen (tlv.value ++ r)
      iconsum := inPlaceIconsum (tlv.value ++ r)
      iconstamp := (inPlaceIconstamp (tlv.value ++ r)).toNat
      hasicon := x.hasicon || inPlaceIconlen (tlv.value ++ r) ≠ 0 }
  else if tlv.type = 0x0009 then { x with buddyreq := true }
  else if tlv.type = 0x0017 then
    { x with
      extdata := some (tlv.value.take (tlv.value.length % 256))
      extdatalen := tlv.value.length % 256 }
  else x

section Step

variable {args args' : AimIncomingimCh1Args}

/-- Once another flag is set, a flag is missing if it was and is not that one. -/
theorem or_and_eq_zero_iff (p f g : UInt32) :
    (p ||| g) &&& f = 0 ↔ p &&& f = 0 ∧ f &&& g = 0 := by
  rw [UInt32.and_comm, mask_or, UInt32.or_eq_zero_iff, UInt32.and_comm f p]

/-- The flags of a reading. -/
def readingFlags : List UInt32 :=
  [aimImflagsAck, aimImflagsAway, aimImflagsOffline, aimImflagsBuddyreq, aimImflagsHasicon]

theorem forall_readingFlags {P : UInt32 → Prop} (hack : P aimImflagsAck) (haway : P aimImflagsAway)
    (hoffline : P aimImflagsOffline) (hbuddyreq : P aimImflagsBuddyreq)
    (hhasicon : P aimImflagsHasicon) : ∀ f ∈ readingFlags, P f := by
  intro f hf
  simp only [readingFlags, List.mem_cons, List.not_mem_nil, or_false] at hf
  rcases hf with rfl | rfl | rfl | rfl | rfl
  · exact hack
  · exact haway
  · exact hoffline
  · exact hbuddyreq
  · exact hhasicon

/-- A reading depends on its flags and on what is kept of the icon and the extended data. -/
theorem reading_congr
    (hflags : ∀ f ∈ readingFlags, f &&& args'.icbmflags = f &&& args.icbmflags)
    (hiconlen : args'.iconlen = args.iconlen) (hiconsum : args'.iconsum = args.iconsum)
    (hiconstamp : args'.iconstamp = args.iconstamp) (hextdata : args'.extdata = args.extdata)
    (hextdatalen : args'.extdatalen = args.extdatalen) : args'.reading = args.reading := by
  have hhas : ∀ f ∈ readingFlags, args'.has f ↔ args.has f := by
    intro f hf
    unfold AimIncomingimCh1Args.has
    rw [UInt32.and_comm, hflags f hf, UInt32.and_comm]
  have hack := hhas aimImflagsAck (by decide)
  have haway := hhas aimImflagsAway (by decide)
  have hoffline := hhas aimImflagsOffline (by decide)
  have hbuddyreq := hhas aimImflagsBuddyreq (by decide)
  have hhasicon := hhas aimImflagsHasicon (by decide)
  simp only [AimIncomingimCh1Args.reading, hack, haway, hoffline, hbuddyreq, hhasicon, hiconlen,
    hiconsum, hiconstamp, hextdata, hextdatalen]

/-- The sections of a message change nothing of it. -/
theorem finishParsemsgs_reading (args : AimIncomingimCh1Args) :
    (finishParsemsgs args).reading = args.reading := by
  have hmask : ∀ f ∈ readingFlags, f &&& parsemsgsFlags = 0 :=
    forall_readingFlags rfl rfl rfl rfl rfl
  have hflags : ∀ f ∈ readingFlags, f &&& (finishParsemsgs args).icbmflags = f &&& args.icbmflags :=
    fun f hf => (finishParsemsgs_same args).flags f (hmask f hf)
  have hkept : (finishParsemsgs args).iconlen = args.iconlen ∧
      (finishParsemsgs args).iconsum = args.iconsum ∧
      (finishParsemsgs args).iconstamp = args.iconstamp ∧
      (finishParsemsgs args).extdata = args.extdata ∧
      (finishParsemsgs args).extdatalen = args.extdatalen := by
    unfold finishParsemsgs
    dsimp only
    cases prioritySection args.mpmsg.parts with
    | some sec => exact ⟨rfl, rfl, rfl, rfl, rfl⟩
    | none => exact ⟨rfl, rfl, rfl, rfl, rfl⟩
  obtain ⟨hiconlen, hiconsum, hiconstamp, hextdata, hextdatalen⟩ := hkept
  exact reading_congr hflags hiconlen hiconsum hiconstamp hextdata hextdatalen

/-- Whatever a message TLV holds, it is read, and changes nothing of a reading. -/
theorem incomingimCh1Value_message (length : UInt16) (args : AimIncomingimCh1Args)
    (bs : AimBstream) : ∃ args' bs', incomingimCh1Value 0x0002 length args bs = some (args', bs') ∧
      args'.reading = args.reading := by
  obtain ⟨args', bs', hvalue, -⟩ := succeeds_incomingimCh1Value 0x0002 length args bs
  refine ⟨args', bs', hvalue, ?_⟩
  unfold incomingimCh1Value at hvalue
  rw [if_pos rfl] at hvalue
  simp only [stateT_lift_bind, stateT_get_bind] at hvalue
  generalize hret : incomingimCh1Parsemsgs _ _ _ = ret at hvalue
  cases ret with
  | none => cases hvalue
  | some args'' =>
    obtain ⟨mpmsg, -, hfinish⟩ := Option.map_eq_some_iff.mp hret
    obtain rfl : args'' = args' := congrArg Prod.fst (Option.some.inj hvalue)
    rw [← hfinish, finishParsemsgs_reading]
    have hcustom : ∀ f ∈ readingFlags, f &&& aimImflagsCustomfeatures = 0 :=
      forall_readingFlags rfl rfl rfl rfl rfl
    apply reading_congr
    · intro f hf
      rw [mask_or, hcustom f hf, UInt32.or_zero]
    · rfl
    · rfl
    · rfl
    · rfl
    · rfl

/-- A TLV that sets a flag. -/
theorem reading_or_flag (args : AimIncomingimCh1Args) :
    { args with icbmflags := args.icbmflags ||| aimImflagsAck }.reading =
        { args.reading with ack := true } ∧
    { args with icbmflags := args.icbmflags ||| aimImflagsAway }.reading =
        { args.reading with away := true } ∧
    { args with icbmflags := args.icbmflags ||| aimImflagsOffline }.reading =
        { args.reading with offline := true } ∧
    { args with icbmflags := args.icbmflags ||| aimImflagsBuddyreq }.reading =
        { args.reading with buddyreq := true } := by
  refine ⟨?_, ?_, ?_, ?_⟩
  all_goals
    simp only [AimIncomingimCh1Args.reading, Ch1Reading.mk.injEq, decide_eq_decide,
      decide_eq_true_eq]
    simp +decide [AimIncomingimCh1Args.has, or_and_eq_zero_iff]

/-- An icon TLV: its fields are taken from what is next in the stream. -/
theorem incomingimCh1Value_icon (length : UInt16) (args : AimIncomingimCh1Args) (bs : AimBstream) :
    ∃ args' bs', incomingimCh1Value 0x0008 length args bs = some (args', bs') ∧
      args'.reading = { args.reading with
        iconlen := inPlaceIconlen bs.rest
        iconsum := inPlaceIconsum bs.rest
        iconstamp := (inPlaceIconstamp bs.rest).toNat
        hasicon := args.reading.hasicon || inPlaceIconlen bs.rest ≠ 0 } := by
  have hfields := iconFields_eq bs
  unfold iconFields at hfields
  simp only [stateM_bind, stateM_pure, Prod.mk.injEq] at hfields
  obtain ⟨hiconlen, hiconsum, hiconstamp⟩ := hfields
  unfold incomingimCh1Value
  rw [if_neg (by decide), if_neg (by decide), if_neg (by decide), if_neg (by decide), if_pos rfl,
    stateT_lift_bind, stateT_lift_bind, stateT_lift_bind, stateT_lift_bind, hiconlen, hiconsum,
    hiconstamp]
  refine ⟨_, _, rfl, ?_⟩
  by_cases hzero : inPlaceIconlen bs.rest = 0
  · have hnone : (args.reading.hasicon || decide (inPlaceIconlen bs.rest ≠ 0)) =
        args.reading.hasicon := by simp [hzero]
    rw [hnone, if_neg (not_not.mpr hzero)]
    rfl
  · have hsome : (args.reading.hasicon || decide (inPlaceIconlen bs.rest ≠ 0)) = true := by
      simp [hzero]
    rw [hsome, if_pos hzero]
    simp only [AimIncomingimCh1Args.reading, Ch1Reading.mk.injEq, decide_eq_decide,
      decide_eq_true_eq]
    simp +decide [AimIncomingimCh1Args.has, or_and_eq_zero_iff]

/-- An extended data TLV. -/
theorem incomingimCh1Value_extdata {tlv : AimTlv} (args : AimIncomingimCh1Args) {bs : AimBstream}
    {r : List UInt8} (hrest : bs.rest = tlv.value ++ r) :
    ∃ args' bs', incomingimCh1Value 0x0017 tlv.length args bs = some (args', bs') ∧
      args'.reading = { args.reading with
        extdata := some (tlv.value.take (tlv.value.length % 256))
        extdatalen := tlv.value.length % 256 } := by
  have hlen : tlv.length.toUInt8.toNat = tlv.value.length % 256 := by
    rw [UInt16.toNat_toUInt8, AimTlv.length_toNat]
  have htake : (tlv.value.take (tlv.value.length % 256)).length = tlv.length.toUInt8.toNat := by
    rw [hlen, List.length_take]
    exact Nat.min_eq_left (Nat.mod_le _ _)
  have hsplit : bs.rest = tlv.value.take (tlv.value.length % 256) ++
      (tlv.value.drop (tlv.value.length % 256) ++ r) := by
    rw [hrest, ← List.append_assoc, List.take_append_drop]
  have hraw := reads_aimbsGetraw htake bs _ hsplit
  unfold incomingimCh1Value
  rw [if_neg (by decide), if_neg (by decide), if_neg (by decide), if_neg (by decide),
    if_neg (by decide), if_neg (by decide), if_pos rfl, stateT_lift_bind, hraw]
  refine ⟨_, _, rfl, ?_⟩
  unfold AimIncomingimCh1Args.reading
  rw [hlen]
  rfl

/-- What the loop makes of a TLV, as the two readings above describe it. -/
theorem incomingimCh1Value_see {tlv : AimTlv} (args : AimIncomingimCh1Args) {bs : AimBstream}
    {r : List UInt8} (hrest : bs.rest = tlv.value ++ r) :
    ∃ args' bs', incomingimCh1Value tlv.type tlv.length args bs = some (args', bs') ∧
      args'.reading = args.reading.see tlv r := by
  obtain ⟨hack, haway, hoffline, hbuddyreq⟩ := reading_or_flag args
  unfold Ch1Reading.see
  by_cases h2 : tlv.type = 0x0002
  · rw [h2]
    exact incomingimCh1Value_message tlv.length args bs
  by_cases h8 : tlv.type = 0x0008
  · rw [h8, ← hrest]
    exact incomingimCh1Value_icon tlv.length args bs
  by_cases h17 : tlv.type = 0x0017
  · rw [h17]
    exact incomingimCh1Value_extdata args hrest
  unfold incomingimCh1Value
  rw [if_neg h2, if_neg h8, if_neg h8, if_neg h17, if_neg h17]
  by_cases h3 : tlv.type = 0x0003
  · rw [if_pos h3, if_pos h3]
    exact ⟨_, _, rfl, hack⟩
  rw [if_neg h3, if_neg h3]
  by_cases h4 : tlv.type = 0x0004
  · rw [if_pos h4, if_pos h4]
    exact ⟨_, _, rfl, haway⟩
  rw [if_neg h4, if_neg h4]
  by_cases h6 : tlv.type = 0x0006
  · rw [if_pos h6, if_pos h6]
    exact ⟨_, _, rfl, hoffline⟩
  rw [if_neg h6, if_neg h6]
  by_cases h9 : tlv.type = 0x0009
  · rw [if_pos h9, if_pos h9]
    exact ⟨_, _, rfl, hbuddyreq⟩
  rw [if_neg h9, if_neg h9]
  exact ⟨_, _, rfl, rfl⟩

end Step

/-! ## The whole loop -/

/-- What the loop makes of TLVs that fill the stream. -/
def Ch1Reading.seeAll : List AimTlv → Ch1Reading → Ch1Reading
  | [], x => x
  | tlv :: list, x => seeAll list (x.see tlv (encodeTlvchain list))

/-- A TLV that is next is one pass, wherever the reader of its value leaves the stream. -/
theorem incomingimCh1Pass_tlv {tlv : AimTlv} {r : List UInt8} {bs : AimBstream}
    (h : bs.rest = tlv.encode ++ r) (args : AimIncomingimCh1Args) :
    ∃ args' bs', incomingimCh1Value tlv.type tlv.length args (bs.skip 4) = some (args', bs') ∧
      incomingimCh1Pass (bs, args) = .again (bs.skip tlv.encode.length, args') := by
  obtain ⟨args', bs', hvalue, honward⟩ :=
    succeeds_incomingimCh1Value tlv.type tlv.length args (bs.skip 4)
  have hdata : bs' = { bs with offset := bs'.offset } := by
    have heq : bs'.data = bs.data := honward.data_eq
    rw [← heq]
  have hvalue' := hvalue
  rw [hdata] at hvalue'
  exact ⟨args', bs', hvalue, incomingimCh1Pass_encode h hvalue'⟩

theorem incomingimCh1_run_see {list : List AimTlv} {bs : AimBstream} {args : AimIncomingimCh1Args}
    (h : bs.rest = encodeTlvchain list) {fuel : Nat} (hfuel : list.length < fuel) :
    ∃ res bs', Loop.run incomingimCh1Pass fuel (bs, args) = some (res, bs') ∧
      res.reading = args.reading.seeAll list := by
  induction list generalizing bs args fuel with
  | nil =>
    obtain ⟨k, rfl⟩ : ∃ k, fuel = k + 1 := ⟨fuel - 1, by omega⟩
    exact ⟨args, bs, Loop.run_leave (incomingimCh1Pass_nil h) k, rfl⟩
  | cons tlv list ih =>
    obtain ⟨k, rfl⟩ : ∃ k, fuel = k + 1 := ⟨fuel - 1, by omega⟩
    rw [encodeTlvchain_cons] at h
    obtain ⟨-, -, hvalue⟩ := aimbsGet16_encode h
    obtain ⟨args', bs', hsome, hsee⟩ := incomingimCh1Value_see args hvalue
    obtain ⟨args'', bs'', hsome', hpass⟩ := incomingimCh1Pass_tlv h args
    obtain ⟨rfl, rfl⟩ := Prod.mk.inj (Option.some.inj (hsome.symm.trans hsome'))
    have hrest := bs.rest_skip_of_append h
    rw [List.length_cons] at hfuel
    obtain ⟨res, bs₁, hrun, hreading⟩ := @ih (bs.skip tlv.encode.length) args' hrest k (by omega)
    rw [hsee] at hreading
    exact ⟨res, bs₁, by rw [Loop.run_again hpass, hrun], hreading⟩

/-- On whole TLVs the loop ends. -/
theorem incomingimCh1Loop_see {list : List AimTlv} {bs : AimBstream}
    (h : bs.rest = encodeTlvchain list) : ∃ res bs', incomingimCh1Loop bs = some (res, bs') ∧
      res.reading = AimIncomingimCh1Args.zero.reading.seeAll list := by
  have hle := length_le_encodeTlvchain list
  have hfuel : list.length < aimBstreamEmpty bs + 1 := by
    rw [← bs.length_rest, h]
    omega
  exact incomingimCh1_run_see h hfuel

/-! ## Finding a TLV -/

/-- The first TLV of a type, and the bytes behind it. -/
def findTlv (t : UInt16) : List AimTlv → Option (AimTlv × List UInt8)
  | [] => none
  | tlv :: list => if tlv.type = t then some (tlv, encodeTlvchain list) else findTlv t list

section Find

variable {t : UInt16} {list : List AimTlv}

theorem findTlv_eq_none (h : ∀ tlv ∈ list, tlv.type ≠ t) : findTlv t list = none := by
  induction list with
  | nil => rfl
  | cons tlv list ih =>
    rw [findTlv, if_neg (h tlv List.mem_cons_self)]
    exact ih fun x hx => h x (List.mem_cons_of_mem _ hx)

theorem findTlv_split {tlv : AimTlv} {r : List UInt8} (h : findTlv t list = some (tlv, r)) :
    ∃ before after, list = before ++ tlv :: after ∧ tlv.type = t ∧ r = encodeTlvchain after := by
  induction list with
  | nil => cases h
  | cons head list ih =>
    rw [findTlv] at h
    by_cases ht : head.type = t
    · rw [if_pos ht] at h
      obtain ⟨rfl, rfl⟩ := Prod.mk.inj (Option.some.inj h)
      exact ⟨[], list, rfl, ht, rfl⟩
    · rw [if_neg ht] at h
      obtain ⟨before, after, rfl, htype, hr⟩ := ih h
      exact ⟨head :: before, after, rfl, htype, hr⟩

/-- Where the types are distinct, a TLV is the first of its type. -/
theorem findTlv_of_split {before after : List AimTlv} {tlv : AimTlv}
    (h : ((before ++ tlv :: after).map AimTlv.type).Nodup) :
    findTlv tlv.type (before ++ tlv :: after) = some (tlv, encodeTlvchain after) := by
  induction before with
  | nil => simp [findTlv]
  | cons head before ih =>
    rw [List.cons_append, List.map_cons, List.nodup_cons] at h
    have hne : head.type ≠ tlv.type := by
      intro heq
      apply h.1
      rw [heq]
      simp
    rw [List.cons_append, findTlv, if_neg hne]
    exact ih h.2

/-- Where the types are distinct, the order of the chain does not matter. -/
theorem aimGettlv_reverse (h : (list.map AimTlv.type).Nodup) (t : UInt16) :
    aimGettlv list.reverse t 1 = (findTlv t list).map Prod.fst := by
  rw [aimGettlv_one]
  induction list with
  | nil => rfl
  | cons tlv list ih =>
    rw [List.map_cons, List.nodup_cons] at h
    rw [List.reverse_cons, List.find?_append, ih h.2]
    by_cases ht : tlv.type = t
    · have hnone : findTlv t list = none := by
        apply findTlv_eq_none
        intro x hx hxt
        exact h.1 (List.mem_map.mpr ⟨x, hx, hxt.trans ht.symm⟩)
      simp [findTlv, ht, hnone]
    · simp [findTlv, ht]

/-- Where the types are distinct, each TLV is seen once. -/
theorem seeAll_eq (h : (list.map AimTlv.type).Nodup) (x : Ch1Reading) : x.seeAll list =
    { ack := x.ack || (findTlv 0x0003 list).isSome
      away := x.away || (findTlv 0x0004 list).isSome
      offline := x.offline || (findTlv 0x0006 list).isSome
      buddyreq := x.buddyreq || (findTlv 0x0009 list).isSome
      hasicon := x.hasicon || (findTlv 0x0008 list).any fun p => inPlaceIconlen (p.1.value ++ p.2) ≠ 0
      iconlen := (findTlv 0x0008 list).elim x.iconlen fun p => inPlaceIconlen (p.1.value ++ p.2)
      iconsum := (findTlv 0x0008 list).elim x.iconsum fun p => inPlaceIconsum (p.1.value ++ p.2)
      iconstamp := (findTlv 0x0008 list).elim x.iconstamp fun p =>
        (inPlaceIconstamp (p.1.value ++ p.2)).toNat
      extdata := (findTlv 0x0017 list).elim x.extdata fun p =>
        some (p.1.value.take (p.1.value.length % 256))
      extdatalen := (findTlv 0x0017 list).elim x.extdatalen fun p => p.1.value.length % 256 } := by
  induction list generalizing x with
  | nil => simp [Ch1Reading.seeAll, findTlv]
  | cons tlv list ih =>
    rw [List.map_cons, List.nodup_cons] at h
    have hnone : findTlv tlv.type list = none := by
      apply findTlv_eq_none
      intro y hy hyt
      exact h.1 (List.mem_map.mpr ⟨y, hy, hyt⟩)
    rw [Ch1Reading.seeAll, ih h.2]
    unfold Ch1Reading.see
    by_cases h3 : tlv.type = 0x0003
    · rw [h3] at hnone
      simp +decide [findTlv, h3, hnone]
    by_cases h4 : tlv.type = 0x0004
    · rw [h4] at hnone
      simp +decide [findTlv, h4, hnone]
    by_cases h6 : tlv.type = 0x0006
    · rw [h6] at hnone
      simp +decide [findTlv, h6, hnone]
    by_cases h8 : tlv.type = 0x0008
    · rw [h8] at hnone
      simp +decide [findTlv, h8, hnone]
    by_cases h9 : tlv.type = 0x0009
    · rw [h9] at hnone
      simp +decide [findTlv, h9, hnone]
    by_cases h17 : tlv.type = 0x0017
    · rw [h17] at hnone
      simp +decide [findTlv, h17, hnone]
    simp [findTlv, h3, h4, h6, h8, h9, h17]

end Find

/-! ## Where they agree -/

/-- The bytes that stand in the place of the fields of an icon TLV are zero, as far as there are
any. -/
structure IconClear (v : List UInt8) : Prop where
  iconlen : 4 ≤ v.length → aimutilGet32 v = 0
  iconsum : 8 ≤ v.length → aimutilGet16 (v.drop 6) = 0
  iconstamp : 12 ≤ v.length → aimutilGet32 (v.drop 8) = 0

/-- In place nothing else is found than in a chain: where an icon TLV has no room for its fields,
what is in their place is clear, and the length of the extended data has eight bits. -/
structure InPlaceSafe (list : List AimTlv) : Prop where
  icon : ∀ before tlv after, list = before ++ tlv :: after → tlv.type = 0x0008 →
    tlv.value.length < 12 → IconClear (tlv.value ++ encodeTlvchain after)
  extdata : ∀ tlv ∈ list, tlv.type = 0x0017 → tlv.value.length < 256

theorem iconClear_iff (v : List UInt8) : IconClear v ↔
    inPlaceIconlen v = 0 ∧ inPlaceIconsum v = 0 ∧ inPlaceIconstamp v = 0 := by
  unfold inPlaceIconlen inPlaceIconsum inPlaceIconstamp
  constructor
  · intro h
    refine ⟨?_, ?_, ?_⟩
    · simpa using h.iconlen
    · simpa using h.iconsum
    · simpa using h.iconstamp
  · rintro ⟨hiconlen, hiconsum, hiconstamp⟩
    constructor
    · simpa using hiconlen
    · simpa using hiconsum
    · simpa using hiconstamp

theorem inPlaceIconlen_append {v : List UInt8} (h : 4 ≤ v.length) (r : List UInt8) :
    inPlaceIconlen (v ++ r) = aimutilGet32 v := by
  unfold inPlaceIconlen aimutilGet32
  rw [if_pos (by rw [List.length_append]; omega), List.take_append_of_le_length h]

/-- An icon TLV with room for its fields has them. -/
theorem inPlaceIcon_append {v : List UInt8} (h : 12 ≤ v.length) (r : List UInt8) :
    inPlaceIconlen (v ++ r) = aimutilGet32 v ∧
      inPlaceIconsum (v ++ r) = aimutilGet16 (v.drop 6) ∧
        inPlaceIconstamp (v ++ r) = aimutilGet32 (v.drop 8) := by
  have hlen : 12 ≤ (v ++ r).length := by
    rw [List.length_append]
    omega
  have h6 : 2 ≤ (v.drop 6).length := by
    rw [List.length_drop]
    omega
  have h8 : 4 ≤ (v.drop 8).length := by
    rw [List.length_drop]
    omega
  refine ⟨inPlaceIconlen_append (by omega) r, ?_, ?_⟩
  · unfold inPlaceIconsum aimutilGet16
    rw [if_pos (by omega), List.drop_append_of_le_length (by omega),
      List.take_append_of_le_length h6]
  · unfold inPlaceIconstamp aimutilGet32
    rw [if_pos hlen, List.drop_append_of_le_length (by omega), List.take_append_of_le_length h8]

section Agree

variable {list : List AimTlv}

theorem inPlaceSafe_iff (h : (list.map AimTlv.type).Nodup) : InPlaceSafe list ↔
    (∀ tlv r, findTlv 0x0008 list = some (tlv, r) → tlv.value.length < 12 →
      IconClear (tlv.value ++ r)) ∧
    (∀ tlv r, findTlv 0x0017 list = some (tlv, r) → tlv.value.length < 256) := by
  constructor
  · intro hsafe
    constructor
    · intro tlv r hfind hlen
      obtain ⟨before, after, hlist, htype, rfl⟩ := findTlv_split hfind
      exact hsafe.icon before tlv after hlist htype hlen
    · intro tlv r hfind
      obtain ⟨before, after, rfl, htype, -⟩ := findTlv_split hfind
      exact hsafe.extdata tlv (by simp) htype
  · rintro ⟨hicon, hextdata⟩
    constructor
    · intro before tlv after hlist htype hlen
      subst hlist
      have hfind := findTlv_of_split h
      rw [htype] at hfind
      exact hicon tlv _ hfind hlen
    · intro tlv hmem htype
      obtain ⟨before, after, rfl⟩ := List.append_of_mem hmem
      have hfind := findTlv_of_split h
      rw [htype] at hfind
      exact hextdata tlv _ hfind

/-- The icon of the loop is that of the chain. -/
theorem icon_agree_iff {p : Option (AimTlv × List UInt8)} {o : Option (List UInt8)}
    (ho : o = (p.map Prod.fst).bind AimTlv.icon?) :
    ((p.any fun p => inPlaceIconlen (p.1.value ++ p.2) ≠ 0) =
          (o.any fun value => aimutilGet32 value ≠ 0) ∧
        (p.elim 0 fun p => inPlaceIconlen (p.1.value ++ p.2)) = o.elim 0 aimutilGet32 ∧
        (p.elim 0 fun p => inPlaceIconsum (p.1.value ++ p.2)) =
          (o.elim 0 fun value => aimutilGet16 (value.drop 6)) ∧
        (p.elim (0 : Int) fun p => (inPlaceIconstamp (p.1.value ++ p.2)).toNat) =
          (o.elim (0 : Int) fun value => (aimutilGet32 (value.drop 8)).toNat)) ↔
      ∀ tlv r, p = some (tlv, r) → tlv.value.length < 12 → IconClear (tlv.value ++ r) := by
  subst ho
  cases p with
  | none => simp
  | some p =>
    obtain ⟨tlv, r⟩ := p
    rw [Option.map_some, Option.bind_some, AimTlv.icon?]
    by_cases hlen : tlv.value.length < 12
    · have hclear := iconClear_iff (tlv.value ++ r)
      have hstamp : ((inPlaceIconstamp (tlv.value ++ r)).toNat : Int) = 0 ↔
          inPlaceIconstamp (tlv.value ++ r) = 0 := by
        rw [Int.natCast_eq_zero, ← UInt32.toNat_inj]
        rfl
      constructor
      · intro h tlv' r' hp _
        cases hp
        simp only [if_pos hlen, Option.elim_some, Option.elim_none] at h
        exact hclear.mpr ⟨h.2.1, h.2.2.1, hstamp.mp h.2.2.2⟩
      · intro h
        obtain ⟨hiconlen, hiconsum, hiconstamp⟩ := hclear.mp (h tlv r rfl hlen)
        simp [hlen, hiconlen, hiconsum, hiconstamp]
    · obtain ⟨hiconlen, hiconsum, hiconstamp⟩ := inPlaceIcon_append (Nat.not_lt.mp hlen) r
      constructor
      · intro _ tlv' r' hp hlen'
        cases hp
        exact absurd hlen' hlen
      · intro _
        simp [hlen, hiconlen, hiconsum, hiconstamp]

/-- The extended data of the loop are those of the chain. -/
theorem extdata_agree_iff (q : Option (AimTlv × List UInt8)) :
    ((q.elim none fun p => some (p.1.value.take (p.1.value.length % 256))) =
          (q.map Prod.fst).map AimTlv.value ∧
        (q.elim 0 fun p => p.1.value.length % 256) =
          (q.map Prod.fst).elim 0 fun tlv => tlv.length.toNat) ↔
      ∀ tlv r, q = some (tlv, r) → tlv.value.length < 256 := by
  cases q with
  | none => simp
  | some q =>
    obtain ⟨tlv, r⟩ := q
    constructor
    · intro h tlv' r' hq
      cases hq
      have hmod := h.2
      simp only [Option.elim_some, Option.map_some, AimTlv.length_toNat] at hmod
      omega
    · intro h
      have hmod := Nat.mod_eq_of_lt (h tlv r rfl)
      simp [hmod]

/-- What the loop has read is what a chain says. -/
theorem seeAll_eq_chainReading_iff (h : (list.map AimTlv.type).Nodup) :
    AimIncomingimCh1Args.zero.reading.seeAll list = chainReading list.reverse ↔
      InPlaceSafe list := by
  have hzero : AimIncomingimCh1Args.zero.reading =
      ⟨false, false, false, false, false, 0, 0, 0, none, 0⟩ := by decide
  have hicon : chainIcon list.reverse = ((findTlv 0x0008 list).map Prod.fst).bind AimTlv.icon? := by
    rw [chainIcon, aimGettlv_reverse h]
  rw [inPlaceSafe_iff h, seeAll_eq h, hzero, ← icon_agree_iff hicon, ← extdata_agree_iff]
  unfold chainReading
  simp only [aimGettlv_reverse h, Ch1Reading.mk.injEq, Bool.false_or, Option.isSome_map, true_and,
    and_assoc]

/-- Whatever the two return, they agree if and only if the loop is safe. -/
theorem reading_eq_chainReading_iff {bs bs' bs'' : AimBstream} {res : AimIncomingimCh1Args}
    {chain : List AimTlv} (h : (list.map AimTlv.type).Nodup) (hbs : bs.rest = encodeTlvchain list)
    (hloop : incomingimCh1Loop bs = some (res, bs'))
    (hchain : aimReadtlvchain bs = some (chain, bs'')) :
    res.reading = chainReading chain ↔ InPlaceSafe list := by
  obtain ⟨res₁, bs₁, hloop₁, hreading⟩ := incomingimCh1Loop_see hbs
  obtain ⟨rfl, -⟩ := Prod.mk.inj (Option.some.inj (hloop.symm.trans hloop₁))
  obtain ⟨rfl, -⟩ :=
    Prod.mk.inj (Option.some.inj (hchain.symm.trans (aimReadtlvchain_encode list hbs)))
  rw [hreading]
  exact seeAll_eq_chainReading_iff h

end Agree

/-- On whole TLVs of distinct types the loop of `incomingim_ch1` agrees with a reading of the chain
if and only if nothing but zeros stands in the place of the fields that a short icon TLV has no room
for, and the extended data has no more than 255 bytes. -/
theorem incomingimCh1Loop_eq_chain_iff {list : List AimTlv} {bs : AimBstream}
    (hdistinct : (list.map AimTlv.type).Nodup) (hbs : bs.rest = encodeTlvchain list) :
    (∃ res bs' chain bs'', incomingimCh1Loop bs = some (res, bs') ∧
      aimReadtlvchain bs = some (chain, bs'') ∧ res.reading = chainReading chain) ↔
        InPlaceSafe list := by
  constructor
  · rintro ⟨res, bs', chain, bs'', hloop, hchain, heq⟩
    exact (reading_eq_chainReading_iff hdistinct hbs hloop hchain).mp heq
  · intro hsafe
    obtain ⟨res, bs', hloop, -⟩ := incomingimCh1Loop_see hbs
    have hchain := aimReadtlvchain_encode list hbs
    exact ⟨res, bs', _, _, hloop, hchain,
      (reading_eq_chainReading_iff hdistinct hbs hloop hchain).mpr hsafe⟩

section Example

/-- An acknowledgement is asked for, and there is an icon of two bytes. -/
def roomyTlvs : List AimTlv :=
  [createtlv 0x0003 0 [], createtlv 0x0008 12 [0, 0, 0, 2, 0, 1, 0x12, 0x34, 0, 0, 0, 9]]

/-- An icon TLV without a value stands in front. -/
def shortTlvs : List AimTlv := [createtlv 0x0008 0 [], createtlv 0x0003 0 []]

theorem incomingimCh1Loop_eq_chain_roomy :
    ∃ res bs' chain bs'', incomingimCh1Loop ⟨encodeTlvchain roomyTlvs, 0⟩ = some (res, bs') ∧
      aimReadtlvchain ⟨encodeTlvchain roomyTlvs, 0⟩ = some (chain, bs'') ∧
        res.reading = chainReading chain := by
  have hdistinct : (roomyTlvs.map AimTlv.type).Nodup := by decide
  refine (incomingimCh1Loop_eq_chain_iff hdistinct rfl).mpr ((inPlaceSafe_iff hdistinct).mpr ⟨?_, ?_⟩)
  · intro tlv r hfind hlen
    cases hfind
    exact absurd hlen (by decide)
  · intro tlv r hfind
    cases hfind

/-- The length of the icon is read from the TLV behind: the client is told of an icon that the chain
does not have. -/
theorem not_incomingimCh1Loop_eq_chain :
    ¬ ∀ (list : List AimTlv) (bs : AimBstream), (list.map AimTlv.type).Nodup →
      bs.rest = encodeTlvchain list →
      ∃ res bs' chain bs'', incomingimCh1Loop bs = some (res, bs') ∧
        aimReadtlvchain bs = some (chain, bs'') ∧ res.reading = chainReading chain := by
  intro h
  have hdistinct : (shortTlvs.map AimTlv.type).Nodup := by decide
  obtain ⟨res, bs', chain, bs'', hloop, hchain, heq⟩ :=
    h shortTlvs ⟨encodeTlvchain shortTlvs, 0⟩ hdistinct rfl
  have hsafe := (reading_eq_chainReading_iff hdistinct rfl hloop hchain).mp heq
  have hclear := hsafe.icon [] _ _ rfl rfl (by decide)
  exact absurd (hclear.iconlen (by decide)) (by decide)

end Example

end Libfaim
