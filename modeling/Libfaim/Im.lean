import Libfaim.Lib.Loop
import Libfaim.Snac
import Libfaim.TxQueue
import Libfaim.Userinfo

/-!
# Instant messages on channel 1 (`im.c`)

`aim_send_im_ext` builds the frame of a message: a header up to the destination screen name, the
message TLV with the features and one or more sections, and the TLVs of the flags.
`incomingim_ch1` takes such TLVs in place, and `incomingim_ch1_parsemsgs` the sections.

An `fu32_t` is an `unsigned long`, so the length and the checksum of an icon may have more than 32
bits when they are sent. `rand()`, the clock and the connection that `aim_conn_findbygroup` returns
are parameters; allocation succeeds throughout.
-/

namespace Libfaim

def aimImflagsAway : UInt32 := 0x0001
def aimImflagsAck : UInt32 := 0x0002
def aimImflagsUnicode : UInt32 := 0x0004
def aimImflagsIso88591 : UInt32 := 0x0008
def aimImflagsBuddyreq : UInt32 := 0x0010
def aimImflagsHasicon : UInt32 := 0x0020
def aimImflagsSubencMacintosh : UInt32 := 0x0040
def aimImflagsCustomfeatures : UInt32 := 0x0080
def aimImflagsExtdata : UInt32 := 0x0100
def aimImflagsCustomcharset : UInt32 := 0x0200
def aimImflagsMultipart : UInt32 := 0x0400
def aimImflagsOffline : UInt32 := 0x0800

def maxmsglen : Int := 7987

def e2big : Int := 7
def enomem : Int := 12

/-! ## Multipart messages -/

/-- `aim_mpmsg_section_t`, without the link to the next one. `data` has the `datalen` bytes the
pointer is for, and `none` is the null pointer. -/
structure AimMpmsgSection where
  charset : UInt16
  charsubset : UInt16
  data : Option (List UInt8)
  datalen : UInt16
  deriving DecidableEq, Repr

/-- `aim_mpmsg_t` -/
structure AimMpmsg where
  numparts : Int
  parts : List AimMpmsgSection
  deriving DecidableEq, Repr

def aimMpmsgInit : AimMpmsg := ⟨0, []⟩

def mpmsgAddsection (mpm : AimMpmsg) (charset charsubset : UInt16) (data : Option (List UInt8))
    (datalen : UInt16) : Int × AimMpmsg :=
  (0, ⟨mpm.numparts + 1, mpm.parts ++ [⟨charset, charsubset, data, datalen⟩]⟩)

/-! ## Sending -/

/-- `struct aim_sendimext_args`. `features` and `msg` point to at least `featureslen` and `msglen`
bytes. -/
structure AimSendimextArgs where
  destsn : List UInt8
  flags : UInt32
  msg : Option (List UInt8)
  msglen : Int
  mpmsg : AimMpmsg
  iconlen : Nat
  iconstamp : Int
  iconsum : Nat
  features : List UInt8
  featureslen : UInt8
  charset : UInt16
  charsubset : UInt16
  deriving DecidableEq, Repr

/-- `args->flags & f` -/
def AimSendimextArgs.has (args : AimSendimextArgs) (f : UInt32) : Prop := args.flags &&& f ≠ 0

instance (args : AimSendimextArgs) (f : UInt32) : Decidable (args.has f) :=
  inferInstanceAs (Decidable (_ ≠ _))

def deffeatures : List UInt8 := [0x01, 0x01, 0x01, 0x02]

/-- The message `aim_send_im_ext` finds in its arguments, or the error it returns. -/
def checkImext (args : AimSendimextArgs) : Except Int Unit :=
  if args.has aimImflagsMultipart then
    if args.mpmsg.numparts ≤ 0 then .error (-einval) else .ok ()
  else if args.msg = none ∨ args.msglen ≤ 0 then .error (-einval)
  else if args.msglen ≥ maxmsglen then .error (-e2big)
  else .ok ()

/-- "Painfully calculate the size of the message TLV" -/
def msgtlvlen (args : AimSendimextArgs) : Nat :=
  let msgtlvlen := 1 + 1
  let msgtlvlen :=
    if args.has aimImflagsCustomfeatures then msgtlvlen + (2 + args.featureslen.toNat)
    else msgtlvlen + (2 + deffeatures.length)
  if args.has aimImflagsMultipart then
    args.mpmsg.parts.foldl (fun msgtlvlen sec => msgtlvlen + (2 + 2) + (4 + sec.datalen.toNat))
      msgtlvlen
  else msgtlvlen + (2 + 2) + (4 + args.msglen.toNat)

/-- A loop that puts single bytes. -/
def putBytes : List UInt8 → StateM AimBstream Unit
  | [] => pure ()
  | b :: bytes => do
    let _ ← aimbsPut8 b
    putBytes bytes

theorem writes_putBytes (bytes : List UInt8) : Writes (putBytes bytes) bytes () := by
  induction bytes with
  | nil => exact Writes.pure ()
  | cons b bytes ih =>
    have hall : Writes (putBytes (b :: bytes)) (aimutilPut8 b ++ bytes) () :=
      (writes_aimbsPut8 b).bind ih
    exact hall.of_eq (by rw [aimutilPut8_eq, List.singleton_append])

def putFeatures (args : AimSendimextArgs) : StateM AimBstream Nat :=
  if args.has aimImflagsCustomfeatures then do
    let _ ← aimbsPut16 args.featureslen.toUInt16
    aimbsPutraw args.features args.featureslen.toNat
  else do
    let _ ← aimbsPut16 (UInt16.ofNat deffeatures.length)
    aimbsPutraw deffeatures deffeatures.length

/-- The loop over the sections of a multipart message. -/
def putSections : List AimMpmsgSection → StateM AimBstream Unit
  | [] => pure ()
  | sec :: next => do
    let _ ← aimbsPut16 0x0101
    let _ ← aimbsPut16 (sec.datalen + 4)
    let _ ← aimbsPut16 sec.charset
    let _ ← aimbsPut16 sec.charsubset
    let _ ← aimbsPutraw (sec.data.getD []) sec.datalen.toNat
    putSections next

def putCharset (args : AimSendimextArgs) : StateM AimBstream Nat :=
  if args.has aimImflagsCustomcharset then do
    let _ ← aimbsPut16 args.charset
    aimbsPut16 args.charsubset
  else do
    let _ ← aimbsPut16
      (if args.has aimImflagsUnicode then 0x0002
      else if args.has aimImflagsIso88591 then 0x0003
      else 0x0000)
    aimbsPut16 0x0000

/-- The one section of a message that is not multipart. -/
def putMsg (args : AimSendimextArgs) : StateM AimBstream Unit := do
  let _ ← aimbsPut16 0x0101
  let _ ← aimbsPut16 (UInt16.ofNat (args.msglen.toNat + 0x04))
  let _ ← putCharset args
  let _ ← aimbsPutraw (args.msg.getD []) args.msglen.toNat

def putMessage (args : AimSendimextArgs) : StateM AimBstream Unit :=
  if args.has aimImflagsMultipart then putSections args.mpmsg.parts else putMsg args

/-- A TLV without a value. -/
def putNoval (type : UInt16) : StateM AimBstream Nat := do
  let _ ← aimbsPut16 type
  aimbsPut16 0x0000

def putIcon (args : AimSendimextArgs) : StateM AimBstream Nat := do
  let _ ← aimbsPut16 0x0008
  let _ ← aimbsPut16 0x000c
  let _ ← aimbsPut32 (UInt32.ofNat args.iconlen)
  let _ ← aimbsPut16 0x0001
  let _ ← aimbsPut16 (UInt16.ofNat args.iconsum)
  aimbsPut32 (UInt32.ofInt args.iconstamp)

/-- The header, up to the destination screen name. `rand i` is the low byte of the random number at
the `i`th pass of the cookie loop. -/
def putImhead (args : AimSendimextArgs) (snacid : UInt32) (rand : Nat → UInt8) :
    StateM AimBstream Nat := do
  let _ ← aimPutsnac 0x0004 0x0006 0x0000 snacid
  let _ ← putBytes ((List.range 8).map rand)
  let _ ← aimbsPut16 0x0001
  let _ ← aimbsPut8 (UInt8.ofNat (strlen args.destsn))
  aimbsPutraw args.destsn (strlen args.destsn)

/-- "Message TLV (type 2)." -/
def putMessageTlv (args : AimSendimextArgs) : StateM AimBstream Unit := do
  let _ ← aimbsPut16 0x0002
  let _ ← aimbsPut16 (UInt16.ofNat (msgtlvlen args))
  let _ ← aimbsPut8 0x05
  let _ ← aimbsPut8 0x01
  let _ ← putFeatures args
  putMessage args

/-- The TLVs of the flags. -/
def putImflags (args : AimSendimextArgs) : StateM AimBstream Nat := do
  let _ ← putIf (args.has aimImflagsAck) (putNoval 0x0003)
  let _ ← putIf (args.has aimImflagsAway) (putNoval 0x0004)
  let _ ← putIf (args.has aimImflagsOffline) (putNoval 0x0006)
  let _ ← putIf (args.has aimImflagsHasicon) (putIcon args)
  putIf (args.has aimImflagsBuddyreq) (putNoval 0x0009)

/-- Everything `aim_send_im_ext` puts into the frame. -/
def putImext (args : AimSendimextArgs) (snacid : UInt32) (rand : Nat → UInt8) :
    StateM AimBstream Nat := do
  let _ ← putImhead args snacid rand
  let _ ← putMessageTlv args
  putImflags args

section Send

variable (sess : AimSession) (snacs : SnacCache) (c : ConnPtr) (args : AimSendimextArgs)
  (now : Int) (rand : Nat → UInt8)

/-- `aim_send_im_ext` up to the frame it enqueues; `c` is what `aim_conn_findbygroup` returns. -/
def sendImextFrame : Except Int (AimFrame × AimSession × SnacCache) :=
  if c = 0 then .error (-einval)
  else
    match checkImext args with
    | .error ret => .error ret
    | .ok () =>
      match aimTxNew sess c aimFrametypeFlap 0x02 (msgtlvlen args + 128) with
      | none => .error (-enomem)
      | some (fr, sess) =>
        let (snacid, snacs) := aimCachesnac 0x0004 0x0006 0x0000 (cstr args.destsn ++ [0]) now snacs
        .ok ({ fr with data := (putImext args snacid rand fr.data).2 }, sess, snacs)

/-- `aim_send_im_ext`. Old SNACs are cleaned out unless `AIM_SESS_FLAGS_DONTTIMEOUTONICBM` is set,
on a clock that is read for every chain. -/
def aimSendImExt (donttimeout : Bool) (time : Fin faimSnacHashSize → Int) :
    Int × AimSession × SnacCache :=
  match sendImextFrame sess snacs c args now rand with
  | .error ret => (ret, sess, snacs)
  | .ok (fr, sess, snacs) =>
    (0, aimTxEnqueue sess fr, if donttimeout then snacs else aimCleansnacs time 60 snacs)

end Send

/-! ## Receiving -/

/-- `struct aim_incomingim_ch1_args`. `features` has the bytes from the pointer on that the client
looks at, as far as the frame has them. -/
structure AimIncomingimCh1Args where
  mpmsg : AimMpmsg
  icbmflags : UInt32
  msg : Option (List UInt8)
  msglen : Int
  iconstamp : Int
  iconlen : UInt32
  iconsum : UInt16
  features : List UInt8
  featureslen : UInt8
  extdatalen : UInt8
  extdata : Option (List UInt8)
  charset : UInt16
  charsubset : UInt16
  deriving DecidableEq, Repr

/-- `args.icbmflags & f` -/
def AimIncomingimCh1Args.has (args : AimIncomingimCh1Args) (f : UInt32) : Prop :=
  args.icbmflags &&& f ≠ 0

instance (args : AimIncomingimCh1Args) (f : UInt32) : Decidable (args.has f) :=
  inferInstanceAs (Decidable (_ ≠ _))

/-- `memset(&args, 0, sizeof(args))` and `aim_mpmsg_init`. -/
def AimIncomingimCh1Args.zero : AimIncomingimCh1Args where
  mpmsg := aimMpmsgInit
  icbmflags := 0
  msg := none
  msglen := 0
  iconstamp := 0
  iconlen := 0
  iconsum := 0
  features := []
  featureslen := 0
  extdatalen := 0
  extdata := none
  charset := 0
  charsubset := 0

/-- The section that one pass of the first loop of `incomingim_ch1_parsemsgs` reads. -/
def parsemsgsSection : StateM AimBstream AimMpmsgSection := do
  let _ ← aimbsGet8
  let _ ← aimbsGet8
  let msglen ← aimbsGet16
  let flag1 ← aimbsGet16
  let flag2 ← aimbsGet16
  let msglen := msglen - 4
  let msgbuf ← aimbsGetstr msglen.toNat
  return ⟨flag1, flag2, msgbuf, msglen⟩

/-- One pass of that loop. -/
def parsemsgsPass : AimBstream × AimMpmsg → Loop.Pass (AimBstream × AimMpmsg) AimMpmsg
  | (mbs, mpmsg) =>
    if aimBstreamEmpty mbs > 0 then
      let (sec, mbs) := parsemsgsSection mbs
      .again (mbs, (mpmsgAddsection mpmsg sec.charset sec.charsubset sec.data sec.datalen).2)
    else .leave mpmsg

def charsetpri : List UInt16 := [0x0000, 0x0003, 0x0002]

/-- The section the second loop stops at: the first one of the first charset there is. -/
def prioritySection (parts : List AimMpmsgSection) : Option AimMpmsgSection :=
  charsetpri.findSome? fun pri => parts.find? fun sec => sec.charset = pri

/-- "Great. We found one.  Fill it in." -/
def fillSection (sec : AimMpmsgSection) (args : AimIncomingimCh1Args) : AimIncomingimCh1Args :=
  let icbmflags := args.icbmflags ||| aimImflagsCustomcharset
  let icbmflags :=
    if sec.charset = 0x0000 then icbmflags
    else if sec.charset = 0x0002 then icbmflags ||| aimImflagsUnicode
    else if sec.charset = 0x0003 then icbmflags ||| aimImflagsIso88591
    else icbmflags
  let icbmflags :=
    if sec.charsubset = 0x0000 then icbmflags
    else if sec.charsubset = 0x000b then icbmflags ||| aimImflagsSubencMacintosh
    else icbmflags
  { args with
    charset := sec.charset
    charsubset := sec.charsubset
    icbmflags := icbmflags
    msg := sec.data
    msglen := sec.datalen.toNat }

/-- What `incomingim_ch1_parsemsgs` does once it has the sections. -/
def finishParsemsgs (args : AimIncomingimCh1Args) : AimIncomingimCh1Args :=
  let args := { args with icbmflags := args.icbmflags ||| aimImflagsMultipart }
  match prioritySection args.mpmsg.parts with
  | some sec => fillSection sec args
  | none => { args with charset := 0xffff, charsubset := 0xffff, msg := none, msglen := 0 }

/-- `incomingim_ch1_parsemsgs`, where `data` is the memory from the pointer on. -/
def incomingimCh1Parsemsgs (data : List UInt8) (len : Int) (args : AimIncomingimCh1Args) :
    Option AimIncomingimCh1Args :=
  let mbs := aimBstreamInit data len
  (Loop.run parsemsgsPass (aimBstreamEmpty mbs + 1) (mbs, args.mpmsg)).map fun mpmsg =>
    finishParsemsgs { args with mpmsg := mpmsg }

/-- The chain of `if`s in the loop of `incomingim_ch1`. -/
def incomingimCh1Value (type length : UInt16) (args : AimIncomingimCh1Args) :
    StateT AimBstream Option AimIncomingimCh1Args :=
  if type = 0x0002 then do
    let _ ← aimbsGet8
    let _ ← aimbsGet8
    let featureslen16 ← aimbsGet16
    let featureslen := featureslen16.toUInt8
    let bs ← get
    let features := bs.rest.take featureslen.toNat
    let _ ← aimBstreamAdvance featureslen.toNat
    let args := { args with
      featureslen := featureslen
      features := features
      icbmflags := args.icbmflags ||| aimImflagsCustomfeatures }
    let bs ← get
    incomingimCh1Parsemsgs bs.rest ((length.toNat : Int) - 2 - 2 - featureslen.toNat) args
  else if type = 0x0003 then return { args with icbmflags := args.icbmflags ||| aimImflagsAck }
  else if type = 0x0004 then return { args with icbmflags := args.icbmflags ||| aimImflagsAway }
  else if type = 0x0006 then return { args with icbmflags := args.icbmflags ||| aimImflagsOffline }
  else if type = 0x0008 then do
    let iconlen ← aimbsGet32
    let _ ← aimbsGet16
    let iconsum ← aimbsGet16
    let iconstamp ← aimbsGet32
    return { args with
      iconlen := iconlen
      iconsum := iconsum
      iconstamp := iconstamp.toNat
      icbmflags := if iconlen ≠ 0 then args.icbmflags ||| aimImflagsHasicon else args.icbmflags }
  else if type = 0x0009 then return { args with icbmflags := args.icbmflags ||| aimImflagsBuddyreq }
  else if type = 0x0017 then do
    let extdatalen := length.toUInt8
    let extdata ← aimbsGetraw extdatalen.toNat
    return { args with extdatalen := extdatalen, extdata := extdata }
  else return args

/-- One pass of the loop of `incomingim_ch1`. -/
def incomingimCh1Pass :
    AimBstream × AimIncomingimCh1Args →
      Loop.Pass (AimBstream × AimIncomingimCh1Args) (AimIncomingimCh1Args × AimBstream)
  | (bs, args) =>
    if aimBstreamEmpty bs > 0 then
      let (type, bs) := aimbsGet16 bs
      let (length, bs) := aimbsGet16 bs
      let endpos := aimBstreamCurpos bs + length.toNat
      match incomingimCh1Value type length args bs with
      | none => .stuck
      | some (args, bs) => .again ((aimBstreamSetpos endpos bs).2, args)
    else .leave (args, bs)

/-- The loop of `incomingim_ch1`: what the client's callback is given. A call that returns makes at
most one pass for each byte left, and one more. -/
def incomingimCh1Loop (bs : AimBstream) : Option (AimIncomingimCh1Args × AimBstream) :=
  Loop.run incomingimCh1Pass (aimBstreamEmpty bs + 1) (bs, AimIncomingimCh1Args.zero)

end Libfaim
