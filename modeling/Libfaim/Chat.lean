import Libfaim.Im

/-!
# Chat (`chat.c`)

Room information, the invitation to a room and the messages in it. A message and an invitation go
through chains of TLVs inside of TLVs, each with a buffer of its own.

`rand()`, the clock and the connection are parameters, and allocation succeeds throughout. The
message cookies that are cached are left out.
-/

namespace Libfaim

def aimChatflagsNoreflect : UInt16 := 0x0001
def aimChatflagsAway : UInt16 := 0x0002

/-! ## Room information -/

/-- `struct aim_chat_roominfo` -/
structure AimChatRoominfo where
  exchange : UInt16
  name : Option (List UInt8)
  instance_ : UInt16
  deriving DecidableEq, Repr

/-- `aim_chat_readroominfo` -/
def aimChatReadroominfo : StateM AimBstream AimChatRoominfo := do
  let exchange ← aimbsGet16
  let namelen ← aimbsGet8
  let name ← aimbsGetstr namelen.toNat
  let instance_ ← aimbsGet16
  return ⟨exchange, name, instance_⟩

/-- What `aim_addtlvtochain_chatroom` puts into its buffer. -/
def putChatroom (exchange : UInt16) (roomname : List UInt8) (instance_ : UInt16) :
    StateM AimBstream Nat := do
  let _ ← aimbsPut16 exchange
  let _ ← aimbsPut8 (UInt8.ofNat (strlen roomname))
  let _ ← aimbsPutraw roomname (strlen roomname)
  aimbsPut16 instance_

def aimAddtlvtochainChatroom (list : List AimTlv) (type exchange : UInt16) (roomname : List UInt8)
    (instance_ : UInt16) : Nat × List AimTlv :=
  let buflen := 2 + 1 + strlen roomname + 2
  let bs := aimBstreamInit (List.replicate buflen 0) buflen
  let bs := (putChatroom exchange roomname instance_ bs).2
  (0, (aimAddtlvtochainRaw list type (UInt16.ofNat (aimBstreamCurpos bs)) bs.data).2)

/-! ## The invitation -/

/-- The arguments of `aim_chat_invite` beside the session and the connection. -/
structure AimChatInviteArgs where
  sn : List UInt8
  msg : List UInt8
  exchange : UInt16
  roomname : List UInt8
  instance_ : UInt16
  deriving DecidableEq, Repr

/-- The frame up to the destination screen name. -/
def putInvitehead (sn : List UInt8) (snacid : UInt32) (ckstr : List UInt8) :
    StateM AimBstream Nat := do
  let _ ← aimPutsnac 0x0004 0x0006 0x0000 snacid
  let _ ← putBytes ckstr
  let _ ← aimbsPut16 0x0002
  let _ ← aimbsPut8 (UInt8.ofNat (strlen sn))
  aimbsPutraw sn (strlen sn)

/-- The raw data right inside the type 5. -/
def putInvitehdr (ckstr : List UInt8) : StateM AimBstream Unit := do
  let _ ← aimbsPut16 0x0000
  let _ ← aimbsPutraw ckstr ckstr.length
  aimPutcap aimCapsChat

/-- The TLVs that follow it. -/
def inviteItl (args : AimChatInviteArgs) : List AimTlv :=
  let itl := (aimAddtlvtochain16 [] 0x000a 0x0001).2
  let itl := (aimAddtlvtochainNoval itl 0x000f).2
  let itl := (aimAddtlvtochainRaw itl 0x000c (UInt16.ofNat (strlen args.msg)) args.msg).2
  (aimAddtlvtochainChatroom itl 0x2711 args.exchange args.roomname args.instance_).2

/-- The stream over the buffer `hdr`, once everything is in it. -/
def inviteHdrbs (args : AimChatInviteArgs) (ckstr : List UInt8) : AimBstream :=
  let hdrlen := 2 + 8 + 16 + 6 + 4 + 4 + strlen args.msg + 4 + 2 + 1 + strlen args.roomname + 2
  let hdrbs := aimBstreamInit (List.replicate hdrlen 0) hdrlen
  let hdrbs := (putInvitehdr ckstr hdrbs).2
  (aimWritetlvchain (inviteItl args) hdrbs).2

/-- Everything `aim_chat_invite` puts into the frame. -/
def putInvite (args : AimChatInviteArgs) (snacid : UInt32) (ckstr : List UInt8) :
    StateM AimBstream Nat := do
  let _ ← putInvitehead args.sn snacid ckstr
  let hdrbs := inviteHdrbs args ckstr
  let otl := (aimAddtlvtochainRaw [] 0x0005 (UInt16.ofNat (aimBstreamCurpos hdrbs)) hdrbs.data).2
  aimWritetlvchain otl

section Send

variable (sess : AimSession) (snacs : SnacCache) (c : ConnPtr) (now : Int) (rand : Nat → UInt8)

/-- `aim_chat_invite` up to the frame it enqueues. The bytes of `ckstr` are `rand` of the places: the
loop only sets the first one, and the others are what the stack holds. -/
def chatInviteFrame (args : AimChatInviteArgs) : Except Int (AimFrame × AimSession × SnacCache) :=
  if c = 0 then .error (-einval)
  else if (sess.conn c).type ≠ aimConnTypeBos then .error (-einval)
  else
    match aimTxNew sess c aimFrametypeFlap 0x02
        (1152 + strlen args.sn + strlen args.roomname + strlen args.msg) with
    | none => .error (-enomem)
    | some (fr, sess) =>
      let (snacid, snacs) := aimCachesnac 0x0004 0x0006 0x0000 (cstr args.sn ++ [0]) now snacs
      let ckstr := (List.range 8).map rand
      .ok ({ fr with data := (putInvite args snacid ckstr fr.data).2 }, sess, snacs)

/-! ## Messages -/

/-- The frame up to the channel. -/
def putChathead (snacid : UInt32) (ckstr : List UInt8) : StateM AimBstream Nat := do
  let _ ← aimPutsnac 0x000e 0x0005 0x0000 snacid
  let _ ← putBytes ckstr
  aimbsPut16 0x0003

/-- The chain that `aim_chat_send_im` writes. -/
def chatOtl (flags : UInt16) (msg : List UInt8) : List AimTlv :=
  let otl := (aimAddtlvtochainNoval [] 0x0001).2
  let otl := addtlvIf (flags &&& aimChatflagsNoreflect = 0) (aimAddtlvtochainNoval · 0x0006) otl
  let otl := addtlvIf (flags &&& aimChatflagsAway ≠ 0) (aimAddtlvtochainNoval · 0x0007) otl
  let itl := (aimAddtlvtochainRaw [] 0x0001 (UInt16.ofNat (strlen msg)) msg).2
  (aimAddtlvtochainFrozentlvlist otl 0x0005 itl).2

/-- Everything `aim_chat_send_im` puts into the frame. -/
def putChatmsg (flags : UInt16) (msg : List UInt8) (snacid : UInt32) (ckstr : List UInt8) :
    StateM AimBstream Nat := do
  let _ ← putChathead snacid ckstr
  aimWritetlvchain (chatOtl flags msg)

/-- `aim_chat_send_im` up to the frame it enqueues, or what it returns without one. `msg` is the
memory from the pointer on. -/
def chatSendImFrame (flags : UInt16) (msg : Option (List UInt8)) (msglen : Int) :
    Except Int (AimFrame × AimSession × SnacCache) :=
  match msg with
  | none => .error 0
  | some msg =>
    if c = 0 ∨ msglen ≤ 0 then .error 0
    else
      match aimTxNew sess c aimFrametypeFlap 0x02 1152 with
      | none => .error (-enomem)
      | some (fr, sess) =>
        let (snacid, snacs) := aimCachesnac 0x000e 0x0005 0x0000 [] now snacs
        let ckstr := (List.range 8).map rand
        .ok ({ fr with data := (putChatmsg flags msg snacid ckstr fr.data).2 }, sess, snacs)

/-- `aim_chat_send_im` -/
def aimChatSendIm (flags : UInt16) (msg : Option (List UInt8)) (msglen : Int) :
    Int × AimSession × SnacCache :=
  match chatSendImFrame sess snacs c now rand flags msg msglen with
  | .error ret => (ret, sess, snacs)
  | .ok (fr, sess, snacs) => (0, aimTxEnqueue sess fr, snacs)

end Send

/-- What `incomingmsg` gives the client's callback: the user info, and the message as the bytes of
its TLV. -/
structure ChatIncoming where
  userinfo : AimUserinfo
  msg : Option (List UInt8)
  deriving DecidableEq, Repr

/-- The message block of `incomingmsg`. -/
def incomingmsgBlock (otl : List AimTlv) : Option (Option (List UInt8)) :=
  match aimGettlv otl 0x0005 1 with
  | none => some none
  | some msgblock => do
    let (itl, _) ← aimReadtlvchain (aimBstreamInit msgblock.value msgblock.length.toNat)
    return aimGettlvStr itl 0x0001 1

/-- The source user information of `incomingmsg`. -/
def incomingmsgUserinfo (otl : List AimTlv) : Option AimUserinfo :=
  match aimGettlv otl 0x0003 1 with
  | none => some AimUserinfo.zero
  | some userinfotlv => do
    let (userinfo, _) ← aimExtractuserinfo
      (aimBstreamInit userinfotlv.value userinfotlv.length.toNat)
    return userinfo

/-- `incomingmsg`. On another channel than 3 the client is not called. -/
def incomingmsg (bs : AimBstream) : Option (Option ChatIncoming) :=
  let (_, bs) := aimbsGetraw 8 bs
  let (channel, bs) := aimbsGet16 bs
  if channel ≠ 0x0003 then some none
  else do
    let (otl, _) ← aimReadtlvchain bs
    let userinfo ← incomingmsgUserinfo otl
    let msg ← incomingmsgBlock otl
    return some ⟨userinfo, msg⟩

end Libfaim
