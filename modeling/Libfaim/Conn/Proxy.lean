import Libfaim.Conn
import Libfaim.Lib.Socks5
import Libfaim.Memory
import Libfaim.Request.Builders

/-!
# Connecting, through a proxy or directly (`conn.c`)

`aim_setupproxy` copies the names of a SOCKS 5 proxy and of a user of it into the session;
`aim_proxyconnect` then connects to the proxy, asks it for the host and leaves the rest of the
exchange to the connection. The network is a parameter, in which the bytes that can be read depend
on what has been written.
-/

namespace Libfaim

def aimConnStatusResolverr : UInt32 := 0x0040
def aimSessFlagsNonblockconnect : UInt32 := 0x00000004
def faimLoginPort : UInt16 := 5190

/-! ## Setting up a proxy -/

/-- `sess->socksproxy`, three arrays of 128 bytes, and what memory holds behind them. -/
structure Socksproxy where
  server : List UInt8
  username : List UInt8
  password : List UInt8
  behind : List UInt8
  server_length : server.length = 128
  username_length : username.length = 128
  password_length : password.length = 128

namespace Socksproxy

/-- As `aim_session_init` leaves them. -/
def init (behind : List UInt8) : Socksproxy where
  server := List.replicate 128 0
  username := List.replicate 128 0
  password := List.replicate 128 0
  behind := behind
  server_length := List.length_replicate
  username_length := List.length_replicate
  password_length := List.length_replicate

variable (p : Socksproxy)

/-- `sess->socksproxy.server` as a string. -/
def serverStr : List UInt8 := cstr (p.server ++ (p.username ++ (p.password ++ p.behind)))

def usernameStr : List UInt8 := cstr (p.username ++ (p.password ++ p.behind))

def passwordStr : List UInt8 := cstr (p.password ++ p.behind)

/-- `if (s && strlen(s)) strncpy(array, s, sizeof(array));` -/
def copyName (s : Option (List UInt8)) (array : List UInt8) : List UInt8 :=
  match s with
  | some s => if strlen s ≠ 0 then strncpy s 128 else array
  | none => array

theorem copyName_length (s : Option (List UInt8)) {array : List UInt8} (h : array.length = 128) :
    (copyName s array).length = 128 := by
  cases s with
  | none => exact h
  | some s =>
    rw [copyName]
    split
    · exact strncpy_length s 128
    · exact h

/-- `aim_setupproxy` -/
def aimSetupproxy (server username password : Option (List UInt8)) : Socksproxy :=
  match server with
  | none => init p.behind
  | some server =>
    if strlen server = 0 then init p.behind
    else
      { p with
        server := strncpy server 128
        username := copyName username p.username
        password := copyName password p.password
        server_length := strncpy_length server 128
        username_length := copyName_length username p.username_length
        password_length := copyName_length password p.password_length }

end Socksproxy

/-! ## Connecting -/

/-- How `connect` ends on a socket of its own. -/
inductive ConnectResult where
  | connected (fd : Int)
  | refused
  /-- The socket does not block, and `errno` is `EINPROGRESS` or `EINTR`. -/
  | inprogress (fd : Int)

/-- What a program finds in the network: the names that can be resolved, with `h_errno` for the
others, how a connection to a host and port goes, whether all of a message is written after others
have been, and what can be read then. -/
structure Network where
  resolve : List UInt8 → Option UInt32
  connect : List UInt8 → UInt16 → ConnectResult
  writes : List (List UInt8) → List UInt8 → Bool
  reads : List (List UInt8) → List UInt8
  errno : List (List UInt8) → UInt32

/-- Why the exchange with the proxy ends early: `buf` is too small for a message, which C leaves
undefined, or it fails with this status. -/
inductive ProxyFailure where
  | overrun
  | status (status : UInt32)
deriving DecidableEq

/-- The exchange with the proxy, with the messages that were written. -/
abbrev ProxyM (α : Type) := ExceptT ProxyFailure (StateM (List (List UInt8))) α

namespace ProxyM

/-- The message is put into `buf`: `if (write(fd, buf, i) < i) { *statusret = errno; ... }` -/
def say (net : Network) (msg : List UInt8) : ProxyM Unit := do
  let sent ← get
  if 512 < msg.length then throw .overrun
  if net.writes sent msg then set (sent ++ [msg]) else throw (.status (net.errno sent))

/-- `if (read(fd, buf, n) < n) { *statusret = errno; ... }` -/
def hear (net : Network) (n : Nat) : ProxyM (List UInt8) := do
  let sent ← get
  let buf := (net.reads sent).take n
  if buf.length < n then throw (.status (net.errno sent)) else return buf

/-- `if (c) { *statusret = EINVAL; ... }` -/
def refuseIf (c : Prop) [Decidable c] : ProxyM Unit := if c then throw (.status 22) else pure ()

end ProxyM

/-- The methods `aim_proxyconnect` offers. -/
def proxyGreeting (username : List UInt8) : List UInt8 :=
  if username.length ≠ 0 then [0x05, 0x02, 0x00, 0x02] else [0x05, 0x01, 0x00]

def proxyAuth (username password : List UInt8) : List UInt8 :=
  aimutilPut8 0x01 ++ aimutilPut8 (UInt8.ofNat username.length) ++ username ++
    aimutilPut8 (UInt8.ofNat password.length) ++ password

def proxyRequest (host : List UInt8) (port : UInt16) : List UInt8 :=
  aimutilPut8 0x05 ++ aimutilPut8 0x01 ++ aimutilPut8 0x00 ++ aimutilPut8 0x03 ++
    aimutilPut8 (UInt8.ofNat host.length) ++ host ++ aimutilPut16 port

section Exchange

variable (p : Socksproxy) (net : Network)

/-- The method the proxy chooses. -/
def proxyGreet : ProxyM UInt8 := do
  ProxyM.say net (proxyGreeting p.usernameStr)
  let buf ← ProxyM.hear net 2
  ProxyM.refuseIf (buf.getD 0 0 ≠ 0x05 ∨ buf.getD 1 0 = 0xff)
  return buf.getD 1 0

def proxyAuthenticate : ProxyM Unit := do
  ProxyM.say net (proxyAuth p.usernameStr p.passwordStr)
  let buf ← ProxyM.hear net 2
  ProxyM.refuseIf (buf.getD 0 0 ≠ 0x01 ∨ buf.getD 1 0 ≠ 0x00)

def proxyConnect (host : List UInt8) (port : UInt16) : ProxyM Unit := do
  ProxyM.say net (proxyRequest host port)
  let buf ← ProxyM.hear net 10
  ProxyM.refuseIf (buf.getD 0 0 ≠ 0x05 ∨ buf.getD 1 0 ≠ 0x00)

/-- The part of `aim_proxyconnect` that talks to the proxy. -/
def proxyExchange (host : List UInt8) (port : UInt16) : ProxyM Unit := do
  let method ← proxyGreet p net
  -- check if we're doing username authentication
  if method = 0x02 then proxyAuthenticate p net
  proxyConnect net host port

end Exchange

/-- The name in front of a colon, and the port behind it. -/
def splitPort (dest : List UInt8) (port : UInt16) : List UInt8 × UInt16 :=
  let name := dest.takeWhile (· ≠ 0x3a)
  if name.length < dest.length then (name, UInt16.ofInt (atoi (dest.drop (name.length + 1))))
  else (name, port)

/-- What `aim_proxyconnect` returns and leaves in `*statusret`, which is 0 before. -/
structure Proxied where
  ret : Int
  status : UInt32
  sent : List (List UInt8)
deriving DecidableEq

/-- The end of an exchange on the socket `fd`. -/
def proxied (fd : Int) : Except ProxyFailure Unit × List (List UInt8) → Option Proxied
  | (.ok _, sent) => some ⟨fd, 0, sent⟩
  | (.error .overrun, _) => none
  | (.error (.status status), sent) => some ⟨-1, status, sent⟩

/-- `aim_proxyconnect`; `none` is undefined. -/
def aimProxyconnect (p : Socksproxy) (flags : UInt32) (net : Network) (host : List UInt8)
    (port : UInt16) : Option Proxied :=
  if p.serverStr.length ≠ 0 then
    let (proxy, proxyport) := splitPort p.serverStr 1080
    match net.resolve proxy with
    | some herrno => some ⟨-1, herrno ||| aimConnStatusResolverr, []⟩
    | none =>
      match net.connect proxy proxyport with
      | .connected fd => proxied fd ((proxyExchange p net host port).run.run [])
      | _ => some ⟨-1, 0, []⟩
  else
    match net.resolve host with
    | some herrno => some ⟨-1, herrno ||| aimConnStatusResolverr, []⟩
    | none =>
      match net.connect host port with
      | .connected fd => some ⟨fd, 0, []⟩
      | .inprogress fd =>
        if flags &&& aimSessFlagsNonblockconnect ≠ 0 then
          some ⟨fd, aimConnStatusInprogress, []⟩
        else some ⟨-1, 0, []⟩
      | .refused => some ⟨-1, 0, []⟩

/-- How `aim_newconn` opens a connection to `dest`; `errno` is what it finds there after a
failure. -/
def connectDest (p : Socksproxy) (flags : UInt32) (net : Network) (errno : UInt32)
    (dest : List UInt8) : Option ConnectOutcome :=
  let (host, port) := splitPort (cstr dest) faimLoginPort
  (aimProxyconnect p flags net host port).map fun r =>
    if r.ret < 0 then .failed errno else .connected r.ret r.status

end Libfaim
