import Libfaim.Session

/-!
# The transmit queue (`txqueue.c`)

Frames are numbered when they are enqueued and written when the queue is flushed, or at once in
immediate mode. Socket writes succeed here: `aim_send` writes all it is given.
-/

namespace Libfaim

def aimTxQueued : Int := 0
def aimTxImmediate : Int := 1
def aimTxUser : Int := 2

def einval : Int := 22

/-! ## Writing a frame -/

/-- `aim_bstream_send`: the bytes go to the socket of the connection. -/
def aimBstreamSend (bs : AimBstream) (c : ConnPtr) (count : Nat) (sess : AimSession) :
    Nat × AimBstream × AimSession :=
  let count := if count > aimBstreamEmpty bs then aimBstreamEmpty bs else count
  (count, bs.skip count,
    { sess with wire := Function.update sess.wire c (sess.wire c ++ bs.rest.take count) })

/-- The FLAP header as `sendframe_flap` puts it. -/
def putFlapHeader (type : UInt8) (seqnum : UInt16) (payloadlen : Nat) : StateM AimBstream Nat := do
  let _ ← aimbsPut8 0x2a
  let _ ← aimbsPut8 type
  let _ ← aimbsPut16 seqnum
  aimbsPut16 (UInt16.ofNat payloadlen)

/-- The stream `obs` that `sendframe_flap` fills, and the payload stream after that. -/
def sendframeFlapObs (type : UInt8) (seqnum : UInt16) (data : AimBstream) :
    AimBstream × AimBstream :=
  let payloadlen := aimBstreamCurpos data
  let obs := aimBstreamInit (List.replicate (6 + payloadlen) 0) (6 + payloadlen : Nat)
  let obs := (putFlapHeader type seqnum payloadlen obs).2
  let data := (aimBstreamRewind data).2
  let (_, obs, data) := aimbsPutbs obs data payloadlen
  (obs, data)

/-- The stream `hbs` that `sendframe_oft` fills. -/
def sendframeOftHbs (type : UInt16) (magic : List UInt8) (hdr2len : UInt16) (hdr2 : List UInt8) :
    AimBstream :=
  let hbslen := 8 + hdr2len.toNat
  let hbs := aimBstreamInit (List.replicate hbslen 0) hbslen
  let put : StateM AimBstream Nat := do
    let _ ← aimbsPutraw magic 4
    let _ ← aimbsPut16 (hdr2len + 8)
    let _ ← aimbsPut16 type
    aimbsPutraw hdr2 hdr2len.toNat
  (aimBstreamRewind (put hbs).2).2

/-- `aim_tx_sendframe` with `sendframe_flap` and `sendframe_oft`: the frame is written and marked
handled. -/
def aimTxSendframe (fr : AimFrame) (sess : AimSession) : AimFrame × AimSession :=
  let sess := { sess with history := { sess.history with sent := sess.history.sent ++ [fr] } }
  match fr.hdr with
  | .flap type seqnum =>
    let (obs, data) := sendframeFlapObs type seqnum fr.data
    let obslen := aimBstreamCurpos obs
    let obs := (aimBstreamRewind obs).2
    let (_, _, sess) := aimBstreamSend obs fr.conn obslen sess
    ({ fr with data := data, handled := 1 }, sess)
  | .oft type magic hdr2len hdr2 =>
    let hbs := sendframeOftHbs type magic hdr2len hdr2
    let (_, _, sess) := aimBstreamSend hbs fr.conn (8 + hdr2len.toNat) sess
    if aimBstreamCurpos fr.data ≠ 0 then
      let len := aimBstreamCurpos fr.data
      let data := (aimBstreamRewind fr.data).2
      let (_, data, sess) := aimBstreamSend data fr.conn len sess
      ({ fr with data := data, handled := 1 }, sess)
    else ({ fr with handled := 1 }, sess)

/-! ## New frames -/

def aimFrametypeFlap : UInt8 := 0x00
def aimFrametypeOft : UInt8 := 0x01

/-- `conn->type` is one of the two rendezvous types. -/
def AimConn.Rendezvous (conn : AimConn) : Prop :=
  conn.type = aimConnTypeRendezvous ∨ conn.type = aimConnTypeRendezvousOut

instance (conn : AimConn) : Decidable conn.Rendezvous := inferInstanceAs (Decidable (_ ∨ _))

/-- `aim_tx_new`: `none` is the null pointer. The buffer is as `malloc` returns it, which reads as
zero here. -/
def aimTxNew (sess : AimSession) (c : ConnPtr) (framing chan : UInt8) (datalen : Nat) :
    Option (AimFrame × AimSession) :=
  if c = 0 then none
  else if (sess.conn c).Rendezvous ∧ framing ≠ aimFrametypeOft then none
  else if ¬ (sess.conn c).Rendezvous ∧ framing ≠ aimFrametypeFlap then none
  else
    let hdr :=
      if framing = aimFrametypeFlap then FrameHdr.flap chan 0
      else FrameHdr.oft chan.toUInt16 [0, 0, 0, 0] 0 []
    some
      (⟨sess.heap, hdr, aimBstreamInit (List.replicate datalen 0) datalen, 0, c⟩,
        { sess with heap := sess.heap + 1 })

/-! ## Enqueuing -/

/-- `aim_get_next_txseqnum` -/
def aimGetNextTxseqnum (sess : AimSession) (c : ConnPtr) : UInt16 × AimSession :=
  let conn := sess.conn c
  (conn.seqnum + 1, sess.setConn c { conn with seqnum := conn.seqnum + 1 })

/-- The numbering and the `handled = 0` both ways of enqueuing begin with. -/
def stampFrame (sess : AimSession) (fr : AimFrame) : AimFrame × AimSession :=
  if fr.hdr.isFlap then
    let (seqnum, sess) := aimGetNextTxseqnum sess fr.conn
    ({ fr with hdr := fr.hdr.setSeqnum seqnum, handled := 0 }, sess)
  else ({ fr with handled := 0 }, sess)

/-- The frame is on record as enqueued. -/
def AimSession.noteEnqueued (sess : AimSession) (fr : AimFrame) : AimSession :=
  { sess with history := { sess.history with enqueued := sess.history.enqueued ++ [fr] } }

def aimTxEnqueueQueuebased (sess : AimSession) (fr : AimFrame) : AimSession :=
  let fr := if fr.conn = 0 then { fr with conn := aimGetconnType sess aimConnTypeBos } else fr
  let (fr, sess) := stampFrame sess fr
  let sess := sess.noteEnqueued fr
  { sess with queueOutgoing := sess.queueOutgoing ++ [fr] }

def aimTxEnqueueImmediate (sess : AimSession) (fr : AimFrame) : AimSession :=
  -- a frame without a connection is destroyed
  if fr.conn = 0 then sess
  else
    let (fr, sess) := stampFrame sess fr
    let sess := sess.noteEnqueued fr
    (aimTxSendframe fr sess).2

/-- `aim_tx_setenqueue` -/
def aimTxSetenqueue (sess : AimSession) (what : Int) (func : Option Nat) : Int × AimSession :=
  if what = aimTxQueued then (0, { sess with txEnqueue := .queuebased })
  else if what = aimTxImmediate then (0, { sess with txEnqueue := .immediate })
  else if what = aimTxUser then
    match func with
    | none => (-einval, sess)
    | some func => (0, { sess with txEnqueue := .user func })
  else (-einval, sess)

/-- `cur->conn && (cur->conn->status & AIM_CONN_STATUS_INPROGRESS)` -/
def AimSession.Held (sess : AimSession) (cur : AimFrame) : Prop :=
  cur.conn ≠ 0 ∧ (sess.conn cur.conn).Inprogress

instance (sess : AimSession) (cur : AimFrame) : Decidable (sess.Held cur) :=
  inferInstanceAs (Decidable (_ ∧ _))

/-- `aim_tx_enqueue`. A function of the client takes the frame out of the library's hands. -/
def aimTxEnqueue (sess : AimSession) (fr : AimFrame) : AimSession :=
  if sess.Held fr then aimTxEnqueueQueuebased sess fr
  else
    match sess.txEnqueue with
    | .queuebased => aimTxEnqueueQueuebased sess fr
    | .immediate => aimTxEnqueueImmediate sess fr
    | .user _ => sess

/-- What a caller of `aim_tx_enqueue` sees to: the connection of the frame is on the list. A frame
without one goes to the BOS connection, which must be there in queued mode; otherwise it is not
looked at. -/
def AimSession.CanEnqueue (sess : AimSession) (fr : AimFrame) : Prop :=
  fr.conn ∈ sess.connlist ∨
    (fr.conn = 0 ∧ (sess.txEnqueue = .queuebased → aimGetconnType sess aimConnTypeBos ≠ 0))

/-! ## Flushing and purging -/

/-- `aim_tx_purgequeue`: every handled frame is unlinked and destroyed. -/
def aimTxPurgequeue (sess : AimSession) : AimSession :=
  { sess with queueOutgoing := sess.queueOutgoing.filter fun cur => cur.handled = 0 }

/-- The loop of `aim_tx_flushqueue` along the queue. -/
def aimTxFlushqueueLoop : List AimFrame → AimSession → List AimFrame × AimSession
  | [], sess => ([], sess)
  | cur :: next, sess =>
    if cur.handled ≠ 0 then
      let (next, sess) := aimTxFlushqueueLoop next sess
      (cur :: next, sess)
    else if sess.Held cur then
      let (next, sess) := aimTxFlushqueueLoop next sess
      (cur :: next, sess)
    else
      let (cur, sess) := aimTxSendframe cur sess
      let (next, sess) := aimTxFlushqueueLoop next sess
      (cur :: next, sess)

def aimTxFlushqueue (sess : AimSession) : AimSession :=
  let (queue, sess) := aimTxFlushqueueLoop sess.queueOutgoing sess
  aimTxPurgequeue { sess with queueOutgoing := queue }

/-- `aim_tx_cleanqueue` -/
def aimTxCleanqueue (sess : AimSession) (c : ConnPtr) : AimSession :=
  { sess with
    queueOutgoing := sess.queueOutgoing.map fun cur =>
      if cur.conn = c then { cur with handled := 1 } else cur }

end Libfaim
