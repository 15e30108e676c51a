import Libfaim.Im
import Libfaim.RxQueue

/-!
# Direct connections (`ft.c`)

Instant messages over a direct connection: an OFT header of fixed size with the screen name in it,
and the message behind the header. Where the C code reads or writes outside of its memory the model
has no result.
-/

namespace Libfaim

def aimConnSubtypeOftDirectim : UInt16 := 0x0001
def aimConnSubtypeOftGetfile : UInt16 := 0x0002

/-- `struct aim_directim_intdata`, the private data of the connection. -/
structure AimDirectimIntdata where
  cookie : List UInt8
  cookie_length : cookie.length = 8

/-- A size as a parameter of type `int` takes it. -/
def intOfSize (size : Nat) : Int := (size : Int).bmod 4294967296

/-! ## Sending -/

/-- The first 36 bytes of `hdr2`. -/
def putDirectimhdr (cookie : List UInt8) (msglen : Nat) (flags : UInt16) :
    StateM AimBstream Nat := do
  let _ ← aimbsPut16 0x0006
  let _ ← aimbsPut16 0x0000
  let _ ← aimbsPutraw cookie 8
  let _ ← aimbsPut16 0x0000
  let _ ← aimbsPut16 0x0000
  let _ ← aimbsPut16 0x0000
  let _ ← aimbsPut16 0x0000
  let _ ← aimbsPut32 (UInt32.ofNat msglen)
  let _ ← aimbsPut16 0x0000
  let _ ← aimbsPut16 0x0000
  let _ ← aimbsPut16 0x0000
  let _ ← aimbsPut16 flags
  let _ ← aimbsPut16 0x0000
  aimbsPut16 0x0000

/-- What goes behind the offset 52. -/
def putDirectimtail : StateM AimBstream Nat := do
  let _ ← aimbsPut8 0x00
  let _ ← aimbsPut16 0x0000
  let _ ← aimbsPut16 0x0000
  let _ ← aimbsPut16 0x0000
  let _ ← aimbsPut16 0x0000
  let _ ← aimbsPut16 0x0000
  let _ ← aimbsPut16 0x0000
  aimbsPut16 0x0000

/-- The buffer `hdr2`, which is cleared at first. -/
def directimHdr2 (cookie sn : List UInt8) (msglen : Nat) (flags : UInt16) : List UInt8 :=
  let hdrbs := aimBstreamInit (List.replicate 0x44 0) 0x44
  let hdrbs := (putDirectimhdr cookie msglen flags hdrbs).2
  let hdrbs := (aimbsPutraw sn (strlen sn) hdrbs).2
  let hdrbs := (aimBstreamSetpos 52 hdrbs).2
  (putDirectimtail hdrbs).2.data

/-- `fr->hdr.oft` with everything but the type set. -/
def FrameHdr.setOft (magic : List UInt8) (hdr2len : UInt16) (hdr2 : List UInt8) :
    FrameHdr → FrameHdr
  | flap type seqnum => flap type seqnum
  | oft type _ _ _ => oft type magic hdr2len hdr2

/-- `aimbs_putraw` of a string whose length may not fit its parameter `len`. A negative length is
less than what is left in the stream, and `memcpy` is called with it. -/
def aimbsPutstr (bs : AimBstream) (v : List UInt8) : Option AimBstream :=
  let len := intOfSize (strlen v)
  if len < 0 then none else some (aimbsPutraw v len.toNat bs).2

section Send

variable (sess : AimSession) (c : ConnPtr) (intdata : AimDirectimIntdata) (sn : List UInt8)

/-- `aim_send_im_direct` up to the frame it enqueues, where `sn` is `sess->sn` and a null `msg` is
`none`. The connection is looked into before it is compared with the null pointer, and the length
of the message is taken before it is. -/
def sendImDirectFrame (msg : Option (List UInt8)) :
    Option (Except Int (AimFrame × AimSession)) :=
  if c = 0 then none
  else if (sess.conn c).type ≠ aimConnTypeRendezvous then some (.error (-einval))
  else do
    let msglen ← msg.map strlen
    match aimTxNew sess c aimFrametypeOft 0x01 (intOfSize msglen).toNat with
    | none => return .error (-enomem)
    | some (fr, sess) =>
      let flags := if msg.isSome then 0x0000 else 0x000e
      let hdr2 := directimHdr2 intdata.cookie sn msglen flags
      let hdr := fr.hdr.setOft [0x4f, 0x44, 0x43, 0x32] 0x44 hdr2
      let data ←
        match msg with
        | some msg => aimbsPutstr fr.data msg
        | none => some fr.data
      return .ok ({ fr with hdr := hdr, data := data }, sess)

/-- `aim_send_im_direct` -/
def aimSendImDirect (msg : Option (List UInt8)) : Option (Int × AimSession) :=
  (sendImDirectFrame sess c intdata sn msg).map fun
    | .error ret => (ret, sess)
    | .ok (fr, sess) => (0, aimTxEnqueue sess fr)

end Send

/-! ## Receiving -/

/-- What `aim_recv` has stored in the buffer when it returns, also when it fails. -/
def aimRecvBuf : Nat → Socket → List UInt8
  | 0, _ => []
  | _ + 1, [] => []
  | left + 1, piece :: sock =>
    if left + 1 < piece.length then piece.take (left + 1)
    else if piece = [] then []
    else piece ++ aimRecvBuf (left + 1 - piece.length) sock

/-- What the client is given: the screen name, and a message, or `none` for a typing notice. -/
structure DirectimReport where
  sn : List UInt8
  msg : Option (List UInt8)
  deriving DecidableEq, Repr

/-- The value `aim_recv` returns, as it is compared with an unsigned one: -1 is the largest. -/
def redUnsigned (red : Option (List UInt8)) : UInt32 :=
  match red with
  | none => 0xffffffff
  | some red => UInt32.ofNat red.length

section Receive

-- the callback of the client that `aim_callhandler` finds; it stands for 0 where there is none
variable (userfunc : DirectimReport → AimSession → Int × AimSession)

/-- `handlehdr_directim`. The header has to hold the end of the name, which is also printed. -/
def handlehdrDirectim (hdr : List UInt8) (sess : AimSession) (sock : Socket) :
    Option (Int × Option DirectimReport × AimSession × Socket) :=
  if 0 ∉ hdr.drop 38 then none
  else
    let payloadlength := aimutilGet32 (hdr.drop 22)
    let flags := aimutilGet16 (hdr.drop 32)
    let snptr := hdr.drop 38
    if flags = 0x000e then
      let report : DirectimReport := ⟨cstr snptr, none⟩
      let (ret, sess) := userfunc report sess
      some (ret, some report, sess, sock)
    else if flags = 0x0000 ∧ payloadlength ≠ 0 then
      -- `left` is negative in `aim_recv`, which then asks for more than there is room for
      if payloadlength ≥ 0x80000000 then none
      else
        let buf := aimRecvBuf payloadlength.toNat sock
        let (red, sock) := aimRecv payloadlength.toNat sock
        if redUnsigned red < payloadlength then some (-1, none, sess, sock)
        else
          let msg := buf ++ List.replicate (payloadlength.toNat - buf.length) 0 ++ [0]
          let report : DirectimReport := ⟨cstr snptr, some (cstr msg)⟩
          let (ret, sess) := userfunc report sess
          some (ret, some report, sess, sock)
    else some (0, none, sess, sock)

/-- `aim_get_command_rendezvous`. The bodies of `getcommand_getfile` and of the functions for the
types of a file transfer are compiled out: they return -1, as an unknown type does. -/
def aimGetCommandRendezvous (sess : AimSession) (c : ConnPtr) (sock : Socket) :
    Option (Int × Option DirectimReport × AimSession × Socket) :=
  if c = 0 then some (-1, none, sess, sock)
  else if (sess.conn c).subtype = aimConnSubtypeOftGetfile then some (-1, none, sess, sock)
  else
    match aimRecv 6 sock with
    | (none, sock) => some (-1, none, aimConnClose sess c, sock)
    | (some hdrbuf1, sock) =>
      let hdrlen := (aimutilGet16 (hdrbuf1.drop 4)).toNat
      -- there is no buffer of a negative length, and -1 for its read is not less than that
      if hdrlen < 6 then none
      else
        match aimRecv (hdrlen - 6) sock with
        | (none, sock) => some (-1, none, aimConnClose sess c, sock)
        | (some hdr, sock) =>
          if hdr.length < 2 then none
          else do
            let hdrtype := aimutilGet16 hdr
            let (ret, report, sess, sock) ←
              if hdrtype = 0x0001 then handlehdrDirectim userfunc hdr sess sock
              else some (-1, none, sess, sock)
            return (ret, report, if ret = -1 then aimConnClose sess c else sess, sock)

end Receive

end Libfaim
