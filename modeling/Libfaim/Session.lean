import Mathlib.Logic.Function.Basic
import Libfaim.BStream.Rules

/-!
# Sessions, connections and frames (`aim.h`, `rxhandlers.c`)

A session has its list of connections and two queues of frames. Connections and frames are told
apart by their addresses, and `0` is the null pointer; addresses are not used again. A connection
that has been freed keeps its last contents in the model, so that reading it there is a read of
freed memory in C. Times (`lastactivity`, `forcedlatency`) are left out.
-/

namespace Libfaim

/-- The address of an `aim_conn_t`. -/
abbrev ConnPtr := Nat

def aimConnTypeBos : UInt16 := 0x0002
def aimConnTypeChat : UInt16 := 0x000e
def aimConnTypeAuth : UInt16 := 0x0007
def aimConnTypeRendezvous : UInt16 := 0x0101
def aimConnTypeRendezvousOut : UInt16 := 0x0102

def aimConnStatusConnerr : UInt32 := 0x0080
def aimConnStatusInprogress : UInt32 := 0x0100

def aimCbFamSpecial : UInt16 := 0xffff
def aimCbSpecialConnerr : UInt16 := 0x0003
def aimCbSpecialConncomplete : UInt16 := 0x0004
def aimCbSpecialFlapver : UInt16 := 0x0005
def aimCbSpecialDefault : UInt16 := 0xffff

/-- `aim_rxcallback_t`: the library's `bleck`, or a function of the client. -/
inductive AimRxcallback where
  | bleck
  | client (func : Nat)
  deriving DecidableEq, Repr

/-- `struct aim_rxcblist_s` -/
structure AimRxcblist where
  family : UInt16
  type : UInt16
  handler : AimRxcallback
  flags : UInt16
  deriving DecidableEq, Repr

/-- `aim_conn_t` -/
structure AimConn where
  fd : Int
  type : UInt16
  subtype : UInt16
  seqnum : UInt16
  status : UInt32
  handlerlist : List AimRxcblist
  deriving DecidableEq, Repr

/-- `conn->status & AIM_CONN_STATUS_INPROGRESS` -/
def AimConn.Inprogress (conn : AimConn) : Prop := conn.status &&& aimConnStatusInprogress ≠ 0

instance (conn : AimConn) : Decidable conn.Inprogress := inferInstanceAs (Decidable (_ ≠ _))

/-- `hdrtype` and the union `hdr` of a frame. -/
inductive FrameHdr where
  | flap (type : UInt8) (seqnum : UInt16)
  | oft (type : UInt16) (magic : List UInt8) (hdr2len : UInt16) (hdr2 : List UInt8)
  deriving DecidableEq, Repr

/-- `hdrtype == AIM_FRAMETYPE_FLAP` -/
def FrameHdr.isFlap : FrameHdr → Bool
  | flap _ _ => true
  | oft _ _ _ _ => false

/-- `hdr.flap.type`, for a FLAP frame. -/
def FrameHdr.flapType : FrameHdr → UInt8
  | flap type _ => type
  | oft _ _ _ _ => 0

/-- `hdr.flap.seqnum`, for a FLAP frame. -/
def FrameHdr.flapSeqnum : FrameHdr → UInt16
  | flap _ seqnum => seqnum
  | oft _ _ _ _ => 0

def FrameHdr.setSeqnum (seqnum : UInt16) : FrameHdr → FrameHdr
  | flap type _ => flap type seqnum
  | oft type magic hdr2len hdr2 => oft type magic hdr2len hdr2

/-- `aim_frame_t`, with its address. -/
structure AimFrame where
  ptr : Nat
  hdr : FrameHdr
  data : AimBstream
  handled : UInt8
  conn : ConnPtr
  deriving DecidableEq, Repr

/-- `sess->tx_enqueue` -/
inductive TxEnqueue where
  | queuebased
  | immediate
  | user (func : Nat)
  deriving DecidableEq, Repr

/-- `aim_module_t`; `none` is a null `snachandler`. -/
structure AimModule where
  name : String
  family : UInt16
  flags : UInt16
  snachandler : Option Nat
  deriving DecidableEq, Repr

def aimModflagMultifamily : UInt16 := 0x0001

/-- What has passed through the transmit side: not part of the C structure. -/
structure TxHistory where
  /-- the frames `aim_tx_enqueue` took, numbered as it numbered them -/
  enqueued : List AimFrame
  /-- the frames `aim_tx_sendframe` wrote -/
  sent : List AimFrame

/-- `aim_session_t` -/
structure AimSession where
  connlist : List ConnPtr
  /-- the connections in memory -/
  conn : ConnPtr → AimConn
  queueOutgoing : List AimFrame
  queueIncoming : List AimFrame
  txEnqueue : TxEnqueue
  modlistv : List AimModule
  /-- the next address `malloc` returns -/
  heap : Nat
  /-- the bytes written to the socket of each connection -/
  wire : ConnPtr → List UInt8
  history : TxHistory

def AimSession.setConn (sess : AimSession) (c : ConnPtr) (conn : AimConn) : AimSession :=
  { sess with conn := Function.update sess.conn c conn }

/-- `aim_conn_init`; `memset` has cleared the rest. -/
def aimConnInit : AimConn where
  fd := -1
  type := 0xffff
  subtype := 0xffff
  seqnum := 0
  status := 0
  handlerlist := []

/-- `aim_session_init`, with the modules it registers. -/
def aimSessionInit (modlistv : List AimModule) : AimSession where
  connlist := []
  conn := fun _ => aimConnInit
  queueOutgoing := []
  queueIncoming := []
  txEnqueue := .queuebased
  modlistv := modlistv
  heap := 1
  wire := fun _ => []
  history := ⟨[], []⟩

/-! ## Finding connections and handlers -/

/-- `aim_getconn_type` -/
def aimGetconnType (sess : AimSession) (type : UInt16) : ConnPtr :=
  (sess.connlist.find? fun c => (sess.conn c).type = type ∧ ¬ (sess.conn c).Inprogress).getD 0

/-- `checkdisallowed` -/
def checkdisallowed (group type : UInt16) : Bool :=
  [(0x0001, 0x0002), (0x0001, 0x0003), (0x0001, 0x0006), (0x0001, 0x0007), (0x0001, 0x0008),
    (0x0001, 0x0017), (0x0001, 0x0018)].contains (group, type)

/-- `aim_conn_addhandler`; `none` is the null handler. -/
def aimConnAddhandler (sess : AimSession) (c : ConnPtr) (family type : UInt16)
    (newhandler : Option AimRxcallback) (flags : UInt16) : Int × AimSession :=
  if c = 0 then (-1, sess)
  else if checkdisallowed family type then (-1, sess)
  else
    let newcb : AimRxcblist := ⟨family, type, newhandler.getD .bleck, flags⟩
    let conn := sess.conn c
    (0, sess.setConn c { conn with handlerlist := conn.handlerlist ++ [newcb] })

/-- `aim_clearhandlers` -/
def aimClearhandlers (conn : AimConn) : AimConn := { conn with handlerlist := [] }

/-- The search of `aim_callhandler` for one family and type. -/
def findhandler (handlerlist : List AimRxcblist) (family type : UInt16) : Option AimRxcallback :=
  (handlerlist.find? fun cur => cur.family = family ∧ cur.type = type).map (·.handler)

/-- `aim_callhandler`: the handler of the type, or else the default one of the family. -/
def aimCallhandler (sess : AimSession) (c : ConnPtr) (family type : UInt16) :
    Option AimRxcallback :=
  if c = 0 then none
  else
    match findhandler (sess.conn c).handlerlist family type with
    | some handler => some handler
    | none =>
      if type = aimCbSpecialDefault then none
      else findhandler (sess.conn c).handlerlist family aimCbSpecialDefault

/-! ## Small facts -/

section Lemmas

variable (sess : AimSession) (c : ConnPtr) (conn : AimConn)

@[simp] theorem AimSession.setConn_connlist : (sess.setConn c conn).connlist = sess.connlist := rfl

@[simp] theorem AimSession.setConn_queueOutgoing :
    (sess.setConn c conn).queueOutgoing = sess.queueOutgoing := rfl

@[simp] theorem AimSession.setConn_queueIncoming :
    (sess.setConn c conn).queueIncoming = sess.queueIncoming := rfl

@[simp] theorem AimSession.setConn_txEnqueue :
    (sess.setConn c conn).txEnqueue = sess.txEnqueue := rfl

@[simp] theorem AimSession.setConn_heap : (sess.setConn c conn).heap = sess.heap := rfl

@[simp] theorem AimSession.setConn_history : (sess.setConn c conn).history = sess.history := rfl

theorem AimSession.setConn_conn (d : ConnPtr) :
    (sess.setConn c conn).conn d = if d = c then conn else sess.conn d := by
  simp only [AimSession.setConn, Function.update_apply]

theorem FrameHdr.setSeqnum_isFlap (seqnum : UInt16) (hdr : FrameHdr) :
    (hdr.setSeqnum seqnum).isFlap = hdr.isFlap := by
  cases hdr with
  | flap type seqnum' => rfl
  | oft type magic hdr2len hdr2 => rfl

end Lemmas

end Libfaim
