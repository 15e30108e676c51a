import Libfaim.Chat

/-!
# Rendezvous messages on channel 2 (`im.c`)

`aim_send_icon` and `aim_send_rtfmsg` put a rendezvous block into a type 5 TLV, with lengths worked
out by hand. `incomingim_ch2` takes the block apart: the status, the cookie, the capability that
says what the rendezvous is for, and a chain of TLVs, with the service data of that kind in one of
them.
-/

namespace Libfaim

/-! ## Sending -/

def maxiconlen : Int := 7168

/-- `AIM_ICONIDENT` -/
def aimIconident : List UInt8 :=
  [0x41, 0x56, 0x54, 0x31, 0x70, 0x69, 0x63, 0x74, 0x75, 0x72, 0x65, 0x2e, 0x69, 0x64]

/-- The arguments of `aim_send_icon` beside the session. `icon` points to at least `iconlen`
bytes. -/
structure AimSendIconArgs where
  sn : List UInt8
  icon : List UInt8
  iconlen : Int
  stamp : Int
  iconsum : UInt16
  deriving DecidableEq, Repr

/-- `struct aim_sendrtfmsg_args` -/
structure AimSendrtfmsgArgs where
  destsn : List UInt8
  fgcolor : UInt32
  bgcolor : UInt32
  rtfmsg : List UInt8
  deriving DecidableEq, Repr

/-- The frame up to the destination screen name. -/
def putRendhead (sn : List UInt8) (snacid : UInt32) (ck : List UInt8) : StateM AimBstream Nat := do
  let _ ← aimPutsnac 0x0004 0x0006 0x0000 snacid
  let _ ← aimbsPutraw ck 8
  let _ ← aimbsPut16 0x0002
  let _ ← aimbsPut8 (UInt8.ofNat (strlen sn))
  aimbsPutraw sn (strlen sn)

/-- The front of the type 5 TLV, up to the service data: the length of its value, the cookie, the
capability and two TLVs. -/
def putRendblock (len : UInt16) (ck : List UInt8) (cap : UInt32) : StateM AimBstream Nat := do
  let _ ← aimbsPut16 0x0005
  let _ ← aimbsPut16 len
  let _ ← aimbsPut16 0x0000
  let _ ← aimbsPutraw ck 8
  let _ ← aimPutcap cap
  let _ ← aimbsPut16 0x000a
  let _ ← aimbsPut16 0x0002
  let _ ← aimbsPut16 0x0001
  let _ ← aimbsPut16 0x000f
  aimbsPut16 0x0000

/-- The service data of an icon, with the TLV header. -/
def putIcondata (args : AimSendIconArgs) : StateM AimBstream Nat := do
  let _ ← aimbsPut16 0x2711
  let _ ← aimbsPut16 (UInt16.ofNat (4 + 4 + 4 + args.iconlen.toNat + aimIconident.length))
  let _ ← aimbsPut16 0x0000
  let _ ← aimbsPut16 args.iconsum
  let _ ← aimbsPut32 (UInt32.ofInt args.iconlen)
  let _ ← aimbsPut32 (UInt32.ofInt args.stamp)
  let _ ← aimbsPutraw args.icon args.iconlen.toNat
  aimbsPutraw aimIconident aimIconident.length

/-- Everything `aim_send_icon` puts into the frame. -/
def putIconmsg (args : AimSendIconArgs) (snacid : UInt32) (ck : List UInt8) :
    StateM AimBstream Nat := do
  let _ ← putRendhead args.sn snacid ck
  let _ ← putRendblock (UInt16.ofNat (2 + 8 + 16 + 6 + 4 + 4 + args.iconlen.toNat + 4 + 4 + 4 +
    aimIconident.length)) ck aimCapsBuddyicon
  let _ ← putIcondata args
  let _ ← aimbsPut16 0x0003
  aimbsPut16 0x0000

/-- `"{97B12751-243C-4334-AD22-D6ABF73F1492}"`, with its NUL. -/
def rtfcap : List UInt8 :=
  [0x7b, 0x39, 0x37, 0x42, 0x31, 0x32, 0x37, 0x35, 0x31, 0x2d, 0x32, 0x34, 0x33, 0x43, 0x2d,
   0x34, 0x33, 0x33, 0x34, 0x2d, 0x41, 0x44, 0x32, 0x32, 0x2d, 0x44, 0x36, 0x41, 0x42, 0x46,
   0x37, 0x33, 0x46, 0x31, 0x34, 0x39, 0x32, 0x7d, 0x00]

def rtfServdatalen (args : AimSendrtfmsgArgs) : Nat :=
  2 + 2 + 16 + 2 + 4 + 1 + 2 + (2 + 2 + 4 + 4 + 4) + (2 + 4 + 2 + strlen args.rtfmsg + 1) +
    (4 + 4 + 4 + strlen rtfcap + 1)

/-- The service data of a message, with the TLV header. All of its fields are little-endian. -/
def putRtfdata (args : AimSendrtfmsgArgs) : StateM AimBstream Nat := do
  let _ ← aimbsPut16 0x2711
  let _ ← aimbsPut16 (UInt16.ofNat (rtfServdatalen args))
  let _ ← aimbsPutle16 (11 + 16)
  let _ ← aimbsPutle16 9
  let _ ← aimPutcap aimCapsEmpty
  let _ ← aimbsPutle16 0
  let _ ← aimbsPutle32 0
  let _ ← aimbsPutle8 0
  let _ ← aimbsPutle16 0x03ea
  let _ ← aimbsPutle16 14
  let _ ← aimbsPutle16 0x03eb
  let _ ← aimbsPutle32 0
  let _ ← aimbsPutle32 0
  let _ ← aimbsPutle32 0
  let _ ← aimbsPutle16 0x0001
  let _ ← aimbsPutle32 0
  let _ ← aimbsPutle16 (UInt16.ofNat (strlen args.rtfmsg + 1))
  let _ ← aimbsPutraw (cstr args.rtfmsg ++ [0]) (strlen args.rtfmsg + 1)
  let _ ← aimbsPutle32 args.fgcolor
  let _ ← aimbsPutle32 args.bgcolor
  let _ ← aimbsPutle32 (UInt32.ofNat (strlen rtfcap + 1))
  aimbsPutraw rtfcap (strlen rtfcap + 1)

/-- Everything `aim_send_rtfmsg` puts into the frame. -/
def putRtfmsg (args : AimSendrtfmsgArgs) (snacid : UInt32) (ck : List UInt8) :
    StateM AimBstream Nat := do
  let _ ← putRendhead args.destsn snacid ck
  let _ ← putRendblock (UInt16.ofNat (2 + 8 + 16 + (2 + 2 + 2) + (2 + 2) +
    (2 + 2 + rtfServdatalen args))) ck aimCapsIcqserverrelay
  putRtfdata args

section Send

variable (sess : AimSession) (snacs : SnacCache) (c : ConnPtr) (now : Int) (rand : Nat → UInt8)

/-- The frame that either of them enqueues: a buffer of the size `datalen` and what `put` puts into
it, with the SNAC id and the cookie. `c` is what `aim_conn_findbygroup` returns. -/
def rendezvousFrame (datalen : Nat) (put : UInt32 → List UInt8 → StateM AimBstream Nat) :
    Except Int (AimFrame × AimSession × SnacCache) :=
  match aimTxNew sess c aimFrametypeFlap 0x02 datalen with
  | none => .error (-enomem)
  | some (fr, sess) =>
    let (snacid, snacs) := aimCachesnac 0x0004 0x0006 0x0000 [] now snacs
    .ok ({ fr with data := (put snacid ((List.range 8).map rand) fr.data).2 }, sess, snacs)

/-- `aim_send_icon` up to the frame it enqueues. -/
def sendIconFrame (args : AimSendIconArgs) : Except Int (AimFrame × AimSession × SnacCache) :=
  if c = 0 then .error (-einval)
  else if args.iconlen ≤ 0 ∨ args.iconlen ≥ maxiconlen then .error (-einval)
  else
    rendezvousFrame sess snacs c now rand
      (10 + 8 + 2 + 1 + strlen args.sn + 2 + 2 + 2 + 8 + 16 + 2 + 2 + 2 + 2 + 2 + 2 + 2 + 4 + 4 + 4 +
        args.iconlen.toNat + aimIconident.length + 2 + 2)
      (putIconmsg args)

/-- `aim_send_rtfmsg` up to the frame it enqueues. -/
def sendRtfmsgFrame (args : AimSendrtfmsgArgs) : Except Int (AimFrame × AimSession × SnacCache) :=
  if c = 0 then .error (-einval)
  else rendezvousFrame sess snacs c now rand (10 + 128 + rtfServdatalen args) (putRtfmsg args)

/-- The end of either function. -/
def sendRendezvous (frame : Except Int (AimFrame × AimSession × SnacCache)) :
    Int × AimSession × SnacCache :=
  match frame with
  | .error ret => (ret, sess, snacs)
  | .ok (fr, sess, snacs) => (0, aimTxEnqueue sess fr, snacs)

def aimSendIcon (args : AimSendIconArgs) : Int × AimSession × SnacCache :=
  sendRendezvous sess snacs (sendIconFrame sess snacs c now rand args)

def aimSendRtfmsg (args : AimSendrtfmsgArgs) : Int × AimSession × SnacCache :=
  sendRendezvous sess snacs (sendRtfmsgFrame sess snacs c now rand args)

end Send

/-! ## Receiving -/

/-- The member of the union `info` that is filled in. -/
inductive AimIncomingimCh2Info where
  | none
  | icon (checksum length timestamp : UInt32) (icon : Option (List UInt8))
  | chat (roominfo : AimChatRoominfo)
  | rtfmsg (fgcolor bgcolor : UInt32) (rtfmsg : Option (List UInt8))
  deriving DecidableEq, Repr

/-- `struct aim_incomingim_ch2_args`, without the destructor. -/
structure AimIncomingimCh2Args where
  cookie : List UInt8
  reqclass : UInt16
  status : UInt16
  errorcode : UInt16
  clientip : Option String
  clientip2 : Option String
  verifiedip : Option String
  port : UInt16
  msg : Option (List UInt8)
  encoding : Option (List UInt8)
  language : Option (List UInt8)
  info : AimIncomingimCh2Info
  deriving DecidableEq, Repr

/-- A group of a buddy list: its name and the names of the buddies. -/
def buddylistBuddies : Nat → StateM AimBstream (List (Option (List UInt8)))
  | 0 => pure []
  | numb + 1 => do
    let bnlen ← aimbsGet16
    let bn ← aimbsGetstr bnlen.toNat
    let rest ← buddylistBuddies numb
    return bn :: rest

def buddylistGroup : StateM AimBstream (Option (List UInt8) × List (Option (List UInt8))) := do
  let gnlen ← aimbsGet16
  let gn ← aimbsGetstr gnlen.toNat
  let numb ← aimbsGet16
  let buddies ← buddylistBuddies numb.toNat
  return (gn, buddies)

/-- One pass of the loop of `incomingim_ch2_buddylist`. The names are only printed. -/
def incomingimCh2BuddylistPass (servdata : AimBstream) : Loop.Pass AimBstream AimBstream :=
  if aimBstreamEmpty servdata > 0 then .again (buddylistGroup servdata).2 else .leave servdata

def incomingimCh2Buddylist (servdata : AimBstream) : Option AimBstream :=
  Loop.run incomingimCh2BuddylistPass (aimBstreamEmpty servdata + 1) servdata

def incomingimCh2Buddyicon : StateM AimBstream AimIncomingimCh2Info := do
  let checksum ← aimbsGet32
  let length ← aimbsGet32
  let timestamp ← aimbsGet32
  let icon ← aimbsGetraw length.toNat
  return .icon checksum length timestamp icon

def incomingimCh2Chat : StateM AimBstream AimIncomingimCh2Info := do
  let roominfo ← aimChatReadroominfo
  return .chat roominfo

/-- "Note that this is all little-endian. Cringe." The lengths have sixteen bits, also where 32 are
read. -/
def incomingimCh2Icqserverrelay : StateM AimBstream AimIncomingimCh2Info := do
  let hdrlen ← aimbsGetle16
  let _ ← aimBstreamAdvance hdrlen.toNat
  let hdrlen ← aimbsGetle16
  let _ ← aimBstreamAdvance hdrlen.toNat
  let _ ← aimbsGetle16
  let anslen ← aimbsGetle32
  let _ ← aimBstreamAdvance anslen.toUInt16.toNat
  let msglen ← aimbsGetle16
  let rtfmsg ← aimbsGetstr msglen.toNat
  let fgcolor ← aimbsGetle32
  let bgcolor ← aimbsGetle32
  let hdrlen ← aimbsGetle32
  let _ ← aimBstreamAdvance hdrlen.toUInt16.toNat
  return .rtfmsg fgcolor bgcolor rtfmsg

/-- The rest of the handling, which depends on what type it is. -/
def incomingimCh2Servdata (args : AimIncomingimCh2Args) (servdata : Option AimBstream) :
    Option AimIncomingimCh2Args :=
  let reqclass := args.reqclass.toUInt32
  if reqclass &&& aimCapsBuddyicon ≠ 0 then
    some { args with
      info := (servdata.map fun servdata => (incomingimCh2Buddyicon servdata).1).getD .none }
  else if reqclass &&& aimCapsSendbuddylist ≠ 0 then
    match servdata with
    | none => some args
    | some servdata => do
      let _ ← incomingimCh2Buddylist servdata
      return args
  else if reqclass &&& aimCapsChat ≠ 0 then
    some { args with
      info := (servdata.map fun servdata => (incomingimCh2Chat servdata).1).getD .none }
  else if reqclass &&& aimCapsIcqserverrelay ≠ 0 then
    -- the stream is read without a look at the pointer
    servdata.map fun servdata => { args with
      info := (incomingimCh2Icqserverrelay servdata).1
      reqclass := aimCapsIcqrtf.toUInt16 }
  else some args

/-- The address in the first four bytes of a TLV, which are read without a look at the length. -/
def tlvIp (list : List AimTlv) (t : UInt16) : Option (Option String) :=
  match aimGettlv list t 1 with
  | none => some none
  | some iptlv =>
    match iptlv.value with
    | a :: b :: c :: d :: _ => some (some (".".intercalate ([a, b, c, d].map fun n => toString n.toNat)))
    | _ => none

/-- `incomingim_ch2`: what the client's callback is given. There is no result where the type 5 TLV
or the cookie is missing, which the C code reads through a null pointer. -/
def incomingimCh2 (tlvlist : List AimTlv) : Option AimIncomingimCh2Args := do
  let block1 ← aimGettlv tlvlist 0x0005 1
  let bbs := aimBstreamInit block1.value block1.length.toNat
  let (status, bbs) := aimbsGet16 bbs
  let (cookie2, bbs) := aimbsGetraw 8 bbs
  let cookie2 ← cookie2
  let (reqclass, bbs) ← aimGetcap 0x10 bbs
  let (list2, _) ← aimReadtlvchain bbs
  let clientip ← tlvIp list2 0x0002
  let clientip2 ← tlvIp list2 0x0003
  let verifiedip ← tlvIp list2 0x0004
  let args : AimIncomingimCh2Args :=
    { cookie := cookie2
      reqclass := reqclass.toUInt16
      status := status
      errorcode := aimGettlv16 list2 0x000b 1
      clientip := clientip
      clientip2 := clientip2
      verifiedip := verifiedip
      port := aimGettlv16 list2 0x0005 1
      msg := aimGettlvStr list2 0x000c 1
      encoding := aimGettlvStr list2 0x000d 1
      language := aimGettlvStr list2 0x000e 1
      info := .none }
  incomingimCh2Servdata args ((aimGettlv list2 0x2711 1).map fun servdatatlv =>
    aimBstreamInit servdatatlv.value servdatatlv.length.toNat)

end Libfaim
