import Libfaim.BStream.Progress
import Libfaim.Im

/-!
# Messages that another party sent (`im.c`)

`outgoingim` takes the frame of an instant message apart where it comes the other way round, as it
was built by `aim_send_im_ext`. It reads the TLVs into a chain and looks at the first message TLV
only, and of that at the first section.
-/

namespace Libfaim

/-! ## The decoder -/

/-- A loop that reads single bytes. -/
def getBytes : Nat → StateM AimBstream (List UInt8)
  | 0 => pure []
  | n + 1 => do
    let b ← aimbsGet8
    let bytes ← getBytes n
    return b :: bytes

/-- `aimbs_getstr` with a length that may be negative. For a size that has wrapped round there is no
memory. For -1 there is, as nothing is asked for, and what is copied then has no end: the call has
no result. -/
def aimbsGetstrInt (len : Int) : StateT AimBstream Option (Option (List UInt8)) :=
  if 0 ≤ len then liftM (aimbsGetstr len.toNat)
  else if len = -1 then fun _ => none
  else pure none

/-- What `outgoingim` reads of a message TLV up to the length of the first section. -/
def msgblockLength : StateM AimBstream UInt16 := do
  let _ ← aimbsGet8
  let _ ← aimbsGet8
  let featurelen ← aimbsGet16
  let _ ← getBytes featurelen.toNat
  let _ ← aimbsGet8
  let _ ← aimbsGet8
  aimbsGet16

/-- The message and the two flags of a message TLV. -/
def outgoingimMsg (msgblock : AimTlv) : Option (Option (List UInt8) × UInt8 × UInt8) :=
  let mbs := aimBstreamInit msgblock.value msgblock.length.toNat
  let (length, mbs) := msgblockLength mbs
  let msglen : Int := length.toNat - 4
  let (flag1, mbs) := aimbsGet16 mbs
  let (flag2, mbs) := aimbsGet16 mbs
  match aimbsGetstrInt msglen mbs with
  | none => none
  | some (msg, _) => some (msg, flag1.toUInt8, flag2.toUInt8)

/-- What the client's callback is given beside the session and the frame. -/
structure OutgoingimArgs where
  channel : UInt16
  sn : Option (List UInt8)
  msg : Option (List UInt8)
  icbmflags : UInt16
  flag1 : UInt8
  flag2 : UInt8
  deriving DecidableEq, Repr

/-- `args.icbmflags & f` -/
def OutgoingimArgs.has (args : OutgoingimArgs) (f : UInt32) : Prop :=
  args.icbmflags.toUInt32 &&& f ≠ 0

/-- `outgoingim`, up to the callback; other channels than 1 are ignored. -/
def outgoingim : StateT AimBstream Option (Option OutgoingimArgs) := do
  let _ ← getBytes 8
  let channel ← aimbsGet16
  if channel ≠ 0x0001 then return none
  else
    let snlen ← aimbsGet8
    let sn ← aimbsGetstr snlen.toNat
    let tlvlist ← aimReadtlvchain
    let icbmflags : UInt16 := 0
    let icbmflags :=
      if (aimGettlv tlvlist 0x0003 1).isSome then icbmflags ||| aimImflagsAck.toUInt16 else icbmflags
    let icbmflags :=
      if (aimGettlv tlvlist 0x0004 1).isSome then icbmflags ||| aimImflagsAway.toUInt16
      else icbmflags
    match aimGettlv tlvlist 0x0002 1 with
    | none => return some ⟨channel, sn, none, icbmflags, 0, 0⟩
    | some msgblock =>
      let (msg, flag1, flag2) ← (outgoingimMsg msgblock : Option _)
      return some ⟨channel, sn, msg, icbmflags, flag1, flag2⟩

/-! ## Reading single bytes -/

theorem reads_getBytes (v : List UInt8) : Reads (getBytes v.length) v v := by
  induction v with
  | nil => exact Reads.pure []
  | cons b v ih =>
    have hall : Reads (getBytes (b :: v).length) (aimutilPut8 b ++ (v ++ [])) (b :: v) :=
      (reads_aimbsGet8 b).bind (ih.bind (Reads.pure _))
    exact hall.of_eq (by rw [aimutilPut8_eq, List.append_nil, List.singleton_append])

theorem forward_getBytes (n : Nat) : Forward (getBytes n) := by
  induction n with
  | zero => exact Forward.pure []
  | succ n ih => exact forward_aimbsGet8.bind fun _ => ih.bind fun _ => Forward.pure _

/-- As many bytes as there are. -/
theorem aimbsGet8_skip (bs : AimBstream) :
    (aimbsGet8 bs).2 = bs.skip (min 1 (aimBstreamEmpty bs)) := by
  unfold aimbsGet8
  by_cases h : 1 ≤ aimBstreamEmpty bs
  · rw [aimbsGet_of_le h, Nat.min_eq_left h]
  · have hzero : aimBstreamEmpty bs = 0 := by omega
    rw [aimbsGet_short (Nat.not_le.mp h), hzero]
    rfl

theorem getBytes_skip (n : Nat) (bs : AimBstream) :
    (getBytes n bs).2 = bs.skip (min n (aimBstreamEmpty bs)) := by
  induction n generalizing bs with
  | zero =>
    rw [Nat.zero_min]
    rfl
  | succ n ih =>
    have hskip : (getBytes (n + 1) bs).2 = (getBytes n (aimbsGet8 bs).2).2 := rfl
    rw [hskip, ih, aimbsGet8_skip, skip_empty, AimBstream.skip_skip]
    congr 1
    omega

theorem aimbsGet8_aimbsGet8_skip (bs : AimBstream) :
    (aimbsGet8 (aimbsGet8 bs).2).2 = bs.skip (min 2 (aimBstreamEmpty bs)) := getBytes_skip 2 bs

/-! ## The length of the message -/

section Length

variable {bs : AimBstream}

/-- A number behind two bytes. -/
theorem aimbsGet16_third (h : 4 ≤ aimBstreamEmpty bs) :
    aimbsGet16 (aimbsGet8 (aimbsGet8 bs).2).2 = (aimutilGet16 (bs.rest.drop 2), bs.skip 4) := by
  have htwo : min 2 (aimBstreamEmpty bs) = 2 := by omega
  have hleft : 2 ≤ aimBstreamEmpty (bs.skip 2) := by
    rw [skip_empty]
    omega
  unfold aimbsGet16
  rw [aimbsGet8_aimbsGet8_skip, htwo, aimbsGet_of_le hleft, AimBstream.rest_skip,
    AimBstream.skip_skip]

theorem aimbsGet16_third_short (h : aimBstreamEmpty bs < 4) :
    aimbsGet16 (aimbsGet8 (aimbsGet8 bs).2).2 = (0, bs.skip (min 2 (aimBstreamEmpty bs))) := by
  have hleft : aimBstreamEmpty (bs.skip (min 2 (aimBstreamEmpty bs))) < 2 := by
    rw [skip_empty]
    omega
  unfold aimbsGet16
  rw [aimbsGet8_aimbsGet8_skip, aimbsGet_short hleft]

/-- Behind the features the length is again a number behind two bytes. -/
theorem msgblockLength_eq (bs : AimBstream) : msgblockLength bs =
    let (featurelen, bs) := aimbsGet16 (aimbsGet8 (aimbsGet8 bs).2).2
    let bs := bs.skip (min featurelen.toNat (aimBstreamEmpty bs))
    aimbsGet16 (aimbsGet8 (aimbsGet8 bs).2).2 := by
  simp only [msgblockLength, stateM_bind]
  rw [getBytes_skip]
  rfl

theorem msgblockLength_of_le (h : 8 + (aimutilGet16 (bs.rest.drop 2)).toNat ≤ aimBstreamEmpty bs) :
    msgblockLength bs =
      (aimutilGet16 (bs.rest.drop (6 + (aimutilGet16 (bs.rest.drop 2)).toNat)),
        bs.skip (8 + (aimutilGet16 (bs.rest.drop 2)).toNat)) := by
  rw [msgblockLength_eq, aimbsGet16_third (by omega)]
  dsimp only
  generalize (aimutilGet16 (bs.rest.drop 2)).toNat = f at h ⊢
  have hf : min f (aimBstreamEmpty (bs.skip 4)) = f := by
    rw [skip_empty]
    omega
  have hleft : 4 ≤ aimBstreamEmpty (bs.skip (4 + f)) := by
    rw [skip_empty]
    omega
  have hdrop : 4 + f + 2 = 6 + f := by omega
  have hskip : 4 + f + 4 = 8 + f := by omega
  rw [hf, AimBstream.skip_skip, aimbsGet16_third hleft, AimBstream.rest_skip, List.drop_drop,
    AimBstream.skip_skip, hdrop, hskip]

/-- Where it is cut off, the length is zero. -/
theorem msgblockLength_short
    (h : aimBstreamEmpty bs < 8 + (aimutilGet16 (bs.rest.drop 2)).toNat) :
    (msgblockLength bs).1 = 0 := by
  rw [msgblockLength_eq]
  by_cases h4 : 4 ≤ aimBstreamEmpty bs
  · rw [aimbsGet16_third h4]
    dsimp only
    generalize (aimutilGet16 (bs.rest.drop 2)).toNat = f at h ⊢
    rw [aimbsGet16_third_short (by rw [skip_empty, skip_empty]; omega)]
  · rw [aimbsGet16_third_short (Nat.not_le.mp h4)]
    dsimp only
    rw [aimbsGet16_third_short (by rw [skip_empty, skip_empty]; omega)]

end Length

end Libfaim
