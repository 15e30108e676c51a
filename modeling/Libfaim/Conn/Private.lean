import Libfaim.Conn
import Libfaim.Ft
import Libfaim.Lib.HandleStore
import Libfaim.Msgcookie
import Libfaim.Request.Builders

/-!
# The private records of connections (`conn.c`, `chat.c`, `ft.c`)

What `priv` and `internal` of a connection point to is in a store of handles, and so is the name
that a chat connection's `priv` points to. Opening and closing rendezvous connections also caches
and frees message cookies. Where the C code follows a null pointer, or takes a record for one of
another kind, the model has no result; that it uses a record after releasing it is on record in the
store. The structs of message cookies and their data take their addresses from the same store.
-/

namespace Libfaim

open HandleStore

/-- An address in the store; `0` is the null pointer. -/
abbrev Handle := Nat

def aimConnSubtypeOftSendfile : UInt16 := 0x0003

/-- `struct aim_directim_intdata`, `struct chatconnpriv`, and the copy of a name. -/
inductive PrivRecord where
  | intdata (cookie : Cookie) (sn ip : List UInt8)
  | chatconnpriv (exchange : UInt16) (name : Handle) (inst : UInt16)
  | name (roomname : List UInt8)

/-- A session with the private records of its connections. -/
structure PrivSession where
  rq : Requester
  cookies : Cookies
  priv : ConnPtr → Handle
  internal : ConnPtr → Handle
  store : Store PrivRecord
  /-- what is in memory where a `struct aim_filetransfer_priv` at this address would have its
  cookie; no such struct is ever made -/
  wild : Handle → Cookie
  /-- the cookie that was cached for the rendezvous a connection belongs to, or `0`: not part of
  the C structure -/
  rend : ConnPtr → CookiePtr

namespace PrivSession

/-- No connection, no cookie and no record. -/
def init (flags : UInt32) (wild : Handle → Cookie) : PrivSession where
  rq := requesterInit flags
  cookies := cookiesInit
  priv := fun _ => 0
  internal := fun _ => 0
  store := .empty
  wild := wild
  rend := fun _ => 0

variable (s : PrivSession)

abbrev sess : AimSession := s.rq.sess

def setSess (sess : AimSession) : PrivSession := { s with rq := { s.rq with sess := sess } }

/-! ## Opening -/

/-- `aim_newconn`, which clears the structure first. -/
def aimNewconn (type : UInt16) (outcome : ConnectOutcome) : ConnPtr × PrivSession :=
  let (c, sess) := Libfaim.aimNewconn s.sess type outcome
  (c,
    { s.setSess sess with
      priv := Function.update s.priv c 0
      internal := Function.update s.internal c 0
      rend := Function.update s.rend c 0 })

/-- `aim_clonehandlers`, for the handlers of the source. -/
def aimClonehandlers (dest : ConnPtr) (handlers : List AimRxcblist) (sess : AimSession) :
    AimSession :=
  handlers.foldl
    (fun sess cur => (aimConnAddhandler sess dest cur.family cur.type (some cur.handler) cur.flags).2)
    sess

/-- `aim_cloneconn` -/
def aimCloneconn (src : ConnPtr) : ConnPtr × PrivSession :=
  let parent := s.sess.conn src
  let (c, sess) := aimConnGetnext s.sess
  let sess := sess.setConn c
    { sess.conn c with
      fd := parent.fd, type := parent.type, subtype := parent.subtype, seqnum := parent.seqnum }
  (c,
    { s.setSess (aimClonehandlers c parent.handlerlist sess) with
      priv := Function.update s.priv c (s.priv src)
      internal := Function.update s.internal c (s.internal src)
      rend := Function.update s.rend c (s.rend src) })

/-- `aim_chat_attachname`; a null `roomname` is `none`. -/
def aimChatAttachname (c : ConnPtr) (exchange : UInt16) (roomname : Option (List UInt8))
    (inst : UInt16) : Int × PrivSession :=
  match roomname with
  | none => (-einval, s)
  | some roomname =>
    if c = 0 then (-einval, s)
    else
      let store := s.store.free (s.priv c)
      let (name, store) := store.alloc (.name (cstr roomname))
      let (ccp, store) := store.alloc (.chatconnpriv exchange name inst)
      (0, { s with store := store, priv := Function.update s.priv c ccp })

/-! ## Closing -/

/-- `aim_uncachecookie`, with `aim_cookie_free` for what it returns. -/
def dropCookie (cookie : Option Cookie) (type : Int) (cookies : Cookies) : Option Cookies :=
  match aimUncachecookie cookie type cookies with
  | none => none
  | some (cook, cookies) => (aimCookieFree cook cookies).map Prod.snd

/-- `connclose_sendfile` -/
def conncloseSendfile (c : ConnPtr) : Option PrivSession :=
  (dropCookie (some (s.wild (s.priv c))) aimCookietypeOftsend s.cookies).map fun cookies =>
    { s with cookies := cookies }

/-- `connclose_getfile` -/
def conncloseGetfile (c : ConnPtr) : Option PrivSession :=
  (dropCookie (some (s.wild (s.priv c))) aimCookietypeOftget s.cookies).map fun cookies =>
    { s with cookies := cookies }

/-- `connclose_directim`. The cookie is the first field of its struct, so that of a null `intdata`
has a null address. -/
def conncloseDirectim (c : ConnPtr) : Option PrivSession :=
  let intdata := s.internal c
  if intdata = 0 then
    (dropCookie none aimCookietypeOftim s.cookies).map fun cookies => { s with cookies := cookies }
  else
    match s.store.record intdata with
    | some (.intdata cookie _ _) =>
      (dropCookie (some cookie) aimCookietypeOftim s.cookies).map fun cookies =>
        { s with cookies := cookies, store := s.store.touch intdata }
    | _ => none

def aimConnCloseRend (c : ConnPtr) : Option PrivSession :=
  let conn := s.sess.conn c
  if conn.type ≠ aimConnTypeRendezvous then some s
  else if conn.subtype = aimConnSubtypeOftSendfile then s.conncloseSendfile c
  else if conn.subtype = aimConnSubtypeOftGetfile then s.conncloseGetfile c
  else if conn.subtype = aimConnSubtypeOftDirectim then s.conncloseDirectim c
  else some s

/-- `aim_conn_close` -/
def aimConnClose (c : ConnPtr) : Option PrivSession :=
  let s := s.setSess (Libfaim.aimConnClose s.sess c)
  if (s.sess.conn c).type = aimConnTypeRendezvous then s.aimConnCloseRend c else some s

/-! ## Killing -/

/-- `connkill_sendfile`, `connkill_getfile` and `connkill_directim` have one body. -/
def connkillInternal (c : ConnPtr) : PrivSession := { s with store := s.store.free (s.internal c) }

def aimConnKillRend (c : ConnPtr) : PrivSession :=
  let conn := s.sess.conn c
  if conn.type ≠ aimConnTypeRendezvous then s
  else if conn.subtype = aimConnSubtypeOftSendfile then s.connkillInternal c
  else if conn.subtype = aimConnSubtypeOftGetfile then s.connkillInternal c
  else if conn.subtype = aimConnSubtypeOftDirectim then s.connkillInternal c
  else s

def aimConnKillChat (c : ConnPtr) : Option PrivSession :=
  let ccp := s.priv c
  if ccp = 0 then some { s with store := s.store.free ccp }
  else
    match s.store.record ccp with
    | some (.chatconnpriv _ name _) =>
      some { s with store := ((s.store.touch ccp).free name).free ccp }
    | _ => none

/-- The first part of `connkill_real`: no frames are left, and the connection is closed. -/
def connkillClose (c : ConnPtr) : Option PrivSession :=
  let s := s.setSess (aimTxCleanqueue (aimRxqueueCleanbyconn s.sess c) c)
  if (s.sess.conn c).fd ≠ -1 then s.aimConnClose c else some s

/-- The second part of `connkill_real`: the records are freed. -/
def connkillRecords (c : ConnPtr) : Option PrivSession :=
  let s := { s with store := s.store.free (s.priv c) }
  if (s.sess.conn c).type = aimConnTypeRendezvous then some (s.aimConnKillRend c)
  else if (s.sess.conn c).type = aimConnTypeChat then s.aimConnKillChat c
  else some s

/-- `connkill_real` -/
def connkillReal (c : ConnPtr) : Option PrivSession :=
  (s.connkillClose c).bind fun s => s.connkillRecords c

def aimConnKill (c : ConnPtr) : Option PrivSession :=
  if c = 0 ∨ c ∉ s.sess.connlist then some s
  else (s.setSess { s.sess with connlist := s.sess.connlist.erase c }).connkillReal c

/-- The loop of `aim_connrst`. -/
def aimConnrstLoop : List ConnPtr → PrivSession → Option PrivSession
  | [], s => some s
  | cur :: next, s => do
    let s ← s.aimConnClose cur
    let s ← s.connkillReal cur
    aimConnrstLoop next s

def aimConnrst : Option PrivSession :=
  (aimConnrstLoop s.sess.connlist s).map fun s => s.setSess { s.sess with connlist := [] }

def aimLogoff : Option PrivSession := s.aimConnrst

/-! ## Rendezvous -/

/-- The cookie of a request as an array. -/
def digitCookieArray (rand : Nat → UInt8) : Cookie :=
  ⟨(digitCookie rand).toArray, by simp [digitCookie]⟩

/-- What a function that starts a rendezvous gets from the system: its address, unless
`getlocalip` fails; the listening socket, `-1` unless there is one; random numbers and the time. -/
structure Listening where
  localip : Option (List UInt8)
  listenfd : Int
  rand : Nat → UInt8
  now : Int

/-- `aim_request_directim` or `aim_request_sendfile`, on the connection `conn`. It returns the
cookie of the request; without a frame this is `ck`, which it leaves as it was. -/
def rendRequest (conn : ConnPtr) (env : Listening) (request : Except Int Request) (ck : Cookie) :
    Cookie × PrivSession :=
  match request with
  | .error _ => (ck, s)
  | .ok req =>
    let (ret, rq) := s.rq.request conn env.now req
    (if ret = 0 then digitCookieArray env.rand else ck, { s with rq := rq })

/-- The new struct is cached, with a record of its own as `data`. -/
def cacheRendcookie (ck : Cookie) (now : Int) : Option (CookiePtr × PrivSession) :=
  let (cookie, store) := s.store.reserve
  let (priv, store) := store.reserve
  let cookies := (aimMkcookie cookie (some ck) aimCookietypeOftim priv s.cookies).2
  (aimCachecookie now cookie cookies).map fun r =>
    (cookie, { s with cookies := r.2, store := store })

/-- The listening connection, with a record of its own. -/
def listenRend (subtype : UInt16) (listenfd : Int) (cookie : CookiePtr) (ck : Cookie)
    (destsn : List UInt8) : ConnPtr × PrivSession :=
  let (newconn, s) := s.aimNewconn aimConnTypeRendezvousOut .nodest
  let (priv, store) :=
    s.store.alloc (.intdata ck (strncpy destsn 33) (List.replicate 22 0))
  let conn := { s.sess.conn newconn with fd := listenfd, subtype := subtype }
  (newconn,
    { s.setSess (s.sess.setConn newconn conn) with
      internal := Function.update s.internal newconn priv
      store := store
      rend := Function.update s.rend newconn cookie })

/-- What `aim_directim_initiate` and `aim_sendfile_initiate` have in common; the cookie is cached
under the same type in both. `stack` is what the array for the cookie holds at first. -/
def rendInitiate (subtype : UInt16) (request : List UInt8 → Except Int Request) (conn : ConnPtr)
    (env : Listening) (stack : Cookie) (destsn : List UInt8) : Option (ConnPtr × PrivSession) :=
  match env.localip with
  | none => some (0, s)
  | some localip =>
    if env.listenfd = -1 then some (0, s)
    else
      let (ck, s) := s.rendRequest conn env (request localip) stack
      (s.cacheRendcookie ck env.now).map fun r =>
        r.2.listenRend subtype env.listenfd r.1 ck destsn

/-- `aim_directim_initiate`, where `conn` is the connection for ICBMs. -/
def aimDirectimInitiate (conn : ConnPtr) (env : Listening) (stack : Cookie) (destsn : List UInt8) :
    Option (ConnPtr × PrivSession) :=
  s.rendInitiate aimConnSubtypeOftDirectim
    (fun localip => aimRequestDirectim conn env.rand destsn localip 4443) conn env stack destsn

/-- `aim_sendfile_initiate`, where `conn` is the connection for ICBMs. -/
def aimSendfileInitiate (conn : ConnPtr) (env : Listening) (stack : Cookie) (destsn : List UInt8)
    (filename : Option (List UInt8)) (numfiles : UInt16) (totsize : UInt32) :
    Option (ConnPtr × PrivSession) :=
  s.rendInitiate aimConnSubtypeOftSendfile
    (fun localip =>
      aimRequestSendfile conn env.rand (some destsn) filename numfiles totsize localip 4443)
    conn env stack destsn

/-- `aim_directim_connect`; the outcome is that of connecting to `addr`. -/
def aimDirectimConnect (sn addr : Option (List UInt8)) (cookie : Cookie)
    (outcome : ConnectOutcome) : ConnPtr × PrivSession :=
  match sn with
  | none => (0, s)
  | some sn =>
    let ip := (addr.map fun addr => strncpy addr 22).getD (List.replicate 22 0)
    let (intdata, store) := s.store.alloc (.intdata cookie (strncpy sn 33) ip)
    let s := { s with store := store }
    let (newconn, s) := s.aimNewconn aimConnTypeRendezvous (if addr = none then .nodest else outcome)
    let conn := { s.sess.conn newconn with subtype := aimConnSubtypeOftDirectim }
    (newconn,
      { s.setSess (s.sess.setConn newconn conn) with
        internal := Function.update s.internal newconn intdata })

/-- What `accept` returns, and the address it stores: whether it is an `AF_INET` one, and as text
with its port. -/
structure Accepted where
  fd : Int
  inet : Bool
  ip : List UInt8

/-- `snprintf(priv->ip, sizeof(priv->ip), ..)`, which reads and writes the record. -/
def printIp (priv : Handle) (text : List UInt8) : Option PrivSession :=
  match s.store.record priv with
  | some (.intdata cookie sn ip) =>
    let text := text.take 21
    let ip := text ++ 0 :: ip.drop (text.length + 1)
    some { s with store := s.store.write priv (.intdata cookie sn ip) }
  | _ => none

/-- `aim_handlerendconnect`. There is nothing to accept on a socket that is closed; `userret` is
what the callback of the client returns, or 0. -/
def aimHandlerendconnect (cur : ConnPtr) (accepted : Accepted) (userret : Int) :
    Option (Int × PrivSession) :=
  if (s.sess.conn cur).fd = -1 ∨ accepted.fd = -1 then some (0, s)
  else if ¬ accepted.inet then (s.aimConnClose cur).map fun s => (-1, s)
  else
    let (newconn, s) := s.aimCloneconn cur
    let conn := { s.sess.conn newconn with type := aimConnTypeRendezvous, fd := accepted.fd }
    let s := s.setSess (s.sess.setConn newconn conn)
    if conn.subtype = aimConnSubtypeOftDirectim then
      let priv := s.internal cur
      let internal := Function.update (Function.update s.internal newconn priv) cur 0
      ({ s with internal := internal }.printIp priv accepted.ip).map fun s => (userret, s)
    else if conn.subtype = aimConnSubtypeOftGetfile then some (0, s)
    else (s.aimConnClose newconn).map fun s => (-1, s)

end PrivSession

end Libfaim
