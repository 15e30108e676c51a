import Libfaim.TxQueue

/-!
# Connections (`conn.c`)

Opening, closing and killing connections, and the completion of a connect in progress. The outcome
of a system call is a parameter of the function that makes it. The private data of rendezvous and
chat connections are not part of the session here; `Conn/Private` adds them.
-/

namespace Libfaim

/-! ## Opening -/

/-- `aim_conn_getnext` -/
def aimConnGetnext (sess : AimSession) : ConnPtr × AimSession :=
  let newconn := sess.heap
  (newconn,
    { sess.setConn newconn aimConnInit with
      connlist := newconn :: sess.connlist, heap := sess.heap + 1 })

/-- How opening a connection goes: no host was given, `aim_proxyconnect` failed, or it returned a
descriptor, having left a status. -/
inductive ConnectOutcome where
  | nodest
  | failed (errno : UInt32)
  | connected (fd : Int) (status : UInt32)

def aimNewconn (sess : AimSession) (type : UInt16) (outcome : ConnectOutcome) :
    ConnPtr × AimSession :=
  let (connstruct, sess) := aimConnGetnext sess
  let conn := { sess.conn connstruct with type := type }
  match outcome with
  | .nodest => (connstruct, sess.setConn connstruct { conn with fd := -1, status := 0 })
  | .failed errno =>
    (connstruct,
      sess.setConn connstruct { conn with fd := -1, status := errno ||| aimConnStatusConnerr })
  | .connected fd status =>
    (connstruct, sess.setConn connstruct { conn with fd := fd, status := status })

/-! ## Closing and killing -/

/-- `aim_conn_close` -/
def aimConnClose (sess : AimSession) (c : ConnPtr) : AimSession :=
  sess.setConn c { sess.conn c with fd := -1, handlerlist := [] }

/-- `aim_rxqueue_cleanbyconn` -/
def aimRxqueueCleanbyconn (sess : AimSession) (c : ConnPtr) : AimSession :=
  { sess with
    queueIncoming := sess.queueIncoming.map fun currx =>
      if currx.handled = 0 ∧ currx.conn = c then { currx with handled := 1 } else currx }

/-- `connkill_real` -/
def connkillReal (sess : AimSession) (c : ConnPtr) : AimSession :=
  let sess := aimRxqueueCleanbyconn sess c
  let sess := aimTxCleanqueue sess c
  if (sess.conn c).fd ≠ -1 then aimConnClose sess c else sess

def aimConnKill (sess : AimSession) (c : ConnPtr) : AimSession :=
  if c = 0 ∨ c ∉ sess.connlist then sess
  else connkillReal { sess with connlist := sess.connlist.erase c } c

/-- The loop of `aim_connrst`. -/
def aimConnrstLoop : List ConnPtr → AimSession → AimSession
  | [], sess => sess
  | cur :: next, sess => aimConnrstLoop next (connkillReal (aimConnClose sess cur) cur)

def aimConnrst (sess : AimSession) : AimSession :=
  { aimConnrstLoop sess.connlist sess with connlist := [] }

def aimLogoff (sess : AimSession) : AimSession := aimConnrst sess

/-! ## Completing a connect -/

/-- What `select` and `getsockopt` say of a connect in progress. -/
inductive SelectOutcome where
  | failed
  | pending
  | error
  | done

/-- The connection is no longer in progress. -/
def connEstablished (sess : AimSession) (c : ConnPtr) : AimSession :=
  let conn := sess.conn c
  sess.setConn c { conn with status := conn.status &&& ~~~aimConnStatusInprogress }

/-- `aim_conn_completeconnect`, where `userfunc` is what the callback of the client does. -/
def aimConnCompleteconnect (outcome : SelectOutcome) (userfunc : AimSession → AimSession)
    (sess : AimSession) (c : ConnPtr) : Int × AimSession :=
  if c = 0 ∨ (sess.conn c).fd = -1 then (-1, sess)
  else if ¬ (sess.conn c).Inprogress then (-1, sess)
  else
    match outcome with
    | .failed => (-1, aimConnClose sess c)
    | .pending => (0, sess)
    | .error => (-1, aimConnClose sess c)
    | .done =>
      let sess := connEstablished sess c
      let sess :=
        match aimCallhandler sess c aimCbFamSpecial aimCbSpecialConncomplete with
        | some (.client _) => userfunc sess
        | some .bleck => sess
        | none => sess
      (0, aimTxFlushqueue sess)

end Libfaim
