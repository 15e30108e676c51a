import Libfaim.Conn

/-!
# The receive queue (`rxqueue.c`)

A socket is the list of the pieces `recv` will return. An empty piece, or no piece left, is an
error or the end of the file.
-/

namespace Libfaim

abbrev Socket := List (List UInt8)

/-- `aim_recv`: exactly `left` bytes, or `none` for -1. -/
def aimRecv : Nat → Socket → Option (List UInt8) × Socket
  | 0, sock => (some [], sock)
  | _ + 1, [] => (none, [])
  | left + 1, piece :: sock =>
    if piece = [] then (none, sock)
    else if left + 1 < piece.length then
      (some (piece.take (left + 1)), piece.drop (left + 1) :: sock)
    else
      let (rest, sock) := aimRecv (left + 1 - piece.length) sock
      (rest.map (piece ++ ·), sock)

/-- `aim_bstream_recv` -/
def aimBstreamRecv (bs : AimBstream) (fd : Int) (count : Nat) (sock : Socket) :
    Int × AimBstream × Socket :=
  if fd < 0 then (-1, bs, sock)
  else
    let count := if count > aimBstreamEmpty bs then aimBstreamEmpty bs else count
    if count = 0 then (0, bs, sock)
    else
      match aimRecv count sock with
      | (none, sock) => (-1, bs, sock)
      | (some red, sock) => (red.length, bs.store red, sock)

/-- The part of `aim_get_command` that speaks FLAP. -/
def aimGetCommandFlap (sess : AimSession) (c : ConnPtr) (sock : Socket) :
    Int × AimSession × Socket :=
  let conn := sess.conn c
  let flaphdr := aimBstreamInit (List.replicate 6 0) 6
  match aimBstreamRecv flaphdr conn.fd 6 sock with
  | (red, flaphdr, sock) =>
    if red < 6 then (-1, aimConnClose sess c, sock)
    else
      let flaphdr := (aimBstreamRewind flaphdr).2
      let (start, flaphdr) := aimbsGet8 flaphdr
      if start ≠ 0x2a then (-1, aimConnClose sess c, sock)
      else
        let (type, flaphdr) := aimbsGet8 flaphdr
        let (seqnum, flaphdr) := aimbsGet16 flaphdr
        let (payloadlen, _) := aimbsGet16 flaphdr
        let data := aimBstreamInit (List.replicate payloadlen.toNat 0) payloadlen.toNat
        let (red, data, sock) :=
          if payloadlen ≠ 0 then aimBstreamRecv data conn.fd payloadlen.toNat sock
          else (0, data, sock)
        if red < payloadlen.toNat then (-1, aimConnClose sess c, sock)
        else
          let newrx : AimFrame :=
            ⟨sess.heap, .flap type seqnum, (aimBstreamRewind data).2, 0, c⟩
          (0,
            { sess with
              queueIncoming := sess.queueIncoming ++ [newrx], heap := sess.heap + 1 },
            sock)

/-- `aim_get_command`. Besides the socket, the parameters are the outcome of a connect in progress
with its callback, and what `aim_get_command_rendezvous` does. -/
def aimGetCommand (outcome : SelectOutcome) (userfunc : AimSession → AimSession)
    (rendezvous : AimSession → Int × AimSession) (sess : AimSession) (c : ConnPtr)
    (sock : Socket) : Int × AimSession × Socket :=
  let conn := sess.conn c
  if c = 0 then (0, sess, sock)
  else if conn.fd = -1 then (-1, sess, sock)
  else if conn.fd < 3 then (0, sess, sock)
  else if conn.Inprogress then
    let (ret, sess) := aimConnCompleteconnect outcome userfunc sess c
    (ret, sess, sock)
  else if conn.type = aimConnTypeRendezvous then
    let (ret, sess) := rendezvous sess
    (ret, sess, sock)
  else if conn.type = aimConnTypeRendezvousOut then (0, sess, sock)
  else aimGetCommandFlap sess c sock

/-- `aim_purge_rxqueue`: every handled frame is unlinked. -/
def aimPurgeRxqueue (sess : AimSession) : AimSession :=
  { sess with queueIncoming := sess.queueIncoming.filter fun cur => cur.handled = 0 }

end Libfaim
