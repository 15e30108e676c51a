import Mathlib.Data.List.Basic
import Mathlib.Tactic.Common

/-!
# SOCKS 5

The messages of a client that asks a SOCKS 5 server for a connection to a named host, with the
user name and password sub-negotiation, as byte strings; how a server reads them off the front of
the bytes it receives; and a server, which chooses a method, checks a user, dials a host and relays
what this host says. The server is a function of all bytes received, as the messages of a client
have no boundaries between them.
-/

namespace Socks5

/-- The method that the server cannot choose one. -/
def noMethod : UInt8 := 0xff

/-- The method of the user name and password. -/
def userPass : UInt8 := 0x02

/-! ## Messages -/

/-- A string with its length in front. -/
def counted (s : List UInt8) : List UInt8 := UInt8.ofNat s.length :: s

def greeting (methods : List UInt8) : List UInt8 := 0x05 :: counted methods

def authentication (user pass : List UInt8) : List UInt8 := 0x01 :: (counted user ++ counted pass)

def connectRequest (host : List UInt8) (port : UInt16) : List UInt8 :=
  0x05 :: 0x01 :: 0x00 :: 0x03 :: (counted host ++ [(port >>> 8).toUInt8, port.toUInt8])

/-- A counted string and what lies behind it. -/
def readCounted : List UInt8 → Option (List UInt8 × List UInt8)
  | [] => none
  | n :: s => if n.toNat ≤ s.length then some (s.take n.toNat, s.drop n.toNat) else none

def readGreeting : List UInt8 → Option (List UInt8 × List UInt8)
  | 0x05 :: s => readCounted s
  | _ => none

/-- The user and the password, and what lies behind them. -/
def readAuthentication : List UInt8 → Option (List UInt8 × List UInt8 × List UInt8)
  | 0x01 :: s =>
    (readCounted s).bind fun (user, s) =>
      (readCounted s).map fun (pass, rest) => (user, pass, rest)
  | _ => none

/-- The host and the port, and what lies behind them. -/
def readConnectRequest : List UInt8 → Option (List UInt8 × UInt16 × List UInt8)
  | 0x05 :: 0x01 :: 0x00 :: 0x03 :: s =>
    (readCounted s).bind fun (host, s) =>
      match s with
      | hi :: lo :: rest => some (host, (hi.toUInt16 <<< 8) + lo.toUInt16, rest)
      | _ => none
  | _ => none

/-- What is read in the request for a host and a port: of the name as much as the byte for its
length counts, the two bytes behind that as the port, and the rest. -/
def asked (host : List UInt8) (port : UInt16) : List UInt8 × UInt16 × List UInt8 :=
  let behind := host.drop (host.length % 256) ++ [(port >>> 8).toUInt8, port.toUInt8]
  (host.take (host.length % 256),
    ((behind.getD 0 0).toUInt16 <<< 8) + (behind.getD 1 0).toUInt16, behind.drop 2)

theorem readCounted_counted {s : List UInt8} (h : s.length < 256) (rest : List UInt8) :
    readCounted (counted s ++ rest) = some (s, rest) := by
  have hlen : (UInt8.ofNat s.length).toNat = s.length := by
    rw [UInt8.toNat_ofNat', Nat.mod_eq_of_lt h]
  rw [counted, List.cons_append, readCounted, hlen, if_pos (by simp), List.take_left,
    List.drop_left]

/-- The length that is read is what the byte can hold of the length. -/
theorem readCounted_counted_mod (s rest : List UInt8) :
    readCounted (counted s ++ rest) =
      some (s.take (s.length % 256), s.drop (s.length % 256) ++ rest) := by
  have hlen : (UInt8.ofNat s.length).toNat = s.length % 256 := UInt8.toNat_ofNat'
  have hle : s.length % 256 ≤ s.length := Nat.mod_le _ _
  rw [counted, List.cons_append, readCounted, hlen, if_pos (by rw [List.length_append]; omega),
    List.take_append_of_le_length hle, List.drop_append_of_le_length hle]

theorem readGreeting_greeting {methods : List UInt8} (h : methods.length < 256)
    (rest : List UInt8) : readGreeting (greeting methods ++ rest) = some (methods, rest) :=
  readCounted_counted h rest

theorem readAuthentication_authentication {user pass : List UInt8} (huser : user.length < 256)
    (hpass : pass.length < 256) (rest : List UInt8) :
    readAuthentication (authentication user pass ++ rest) = some (user, pass, rest) := by
  rw [authentication, List.cons_append, readAuthentication, List.append_assoc,
    readCounted_counted huser, Option.bind_some]
  simp only [readCounted_counted hpass, Option.map_some]

/-- A port is read as it was written. -/
theorem port_bytes (port : UInt16) :
    ((port >>> 8).toUInt8.toUInt16 <<< 8) + port.toUInt8.toUInt16 = port := by
  apply UInt16.toNat_inj.mp
  have hlt := port.toNat_lt
  simp only [UInt16.toNat_add, UInt16.toNat_shiftLeft, UInt8.toNat_toUInt16, UInt16.toNat_toUInt8,
    UInt16.toNat_shiftRight, UInt16.reduceToNat, Nat.shiftLeft_eq, Nat.shiftRight_eq_div_pow,
    Nat.reduceMod, Nat.reducePow]
  omega

/-- Every request is read as one, if not always as the one that was meant. -/
theorem readConnectRequest_connectRequest (host : List UInt8) (port : UInt16) :
    readConnectRequest (connectRequest host port) = some (asked host port) := by
  have htwo : ∃ hi lo rest, host.drop (host.length % 256) ++
      [(port >>> 8).toUInt8, port.toUInt8] = hi :: lo :: rest := by
    match host.drop (host.length % 256) with
    | [] => exact ⟨_, _, _, rfl⟩
    | [_] => exact ⟨_, _, _, rfl⟩
    | _ :: _ :: _ => exact ⟨_, _, _, rfl⟩
  obtain ⟨hi, lo, rest, hbehind⟩ := htwo
  rw [connectRequest, readConnectRequest, readCounted_counted_mod, Option.bind_some, asked]
  simp only [hbehind, List.getD_cons_zero, List.getD_cons_succ, List.drop_succ_cons,
    List.drop_zero]

theorem asked_of_lt {host : List UInt8} (h : host.length < 256) (port : UInt16) :
    asked host port = (host, port, []) := by
  simp only [asked, Nat.mod_eq_of_lt h, List.take_length, List.drop_length, List.nil_append,
    List.getD_cons_zero, List.getD_cons_succ, List.drop_succ_cons, List.drop_zero, port_bytes]

/-! ## A server -/

/-- The address that a server has bound for a connection. -/
inductive Address where
  | ipv4 (addr : Vector UInt8 4)
  | name (s : List UInt8) : s.length < 256 → Address
  | ipv6 (addr : Vector UInt8 16)

def Address.bytes : Address → List UInt8
  | .ipv4 addr => 0x01 :: addr.toList
  | .name s _ => 0x03 :: counted s
  | .ipv6 addr => 0x04 :: addr.toList

/-- How dialling a host goes. -/
structure Dialled where
  code : UInt8
  address : Address
  port : UInt16
  /-- What the host says when it has received these bytes. -/
  relayed : List UInt8 → List UInt8

namespace Dialled

variable (d : Dialled)

def reply : List UInt8 :=
  [0x05, d.code, 0x00] ++ d.address.bytes ++ [(d.port >>> 8).toUInt8, d.port.toUInt8]

/-- The reply, and behind it what the host says if it could be reached. -/
def answer (rest : List UInt8) : List UInt8 :=
  d.reply ++ if d.code = 0x00 then d.relayed rest else []

theorem answer_zero (rest : List UInt8) : (d.answer rest).getD 0 0 = 0x05 := rfl

theorem answer_one (rest : List UInt8) : (d.answer rest).getD 1 0 = d.code := rfl

end Dialled

structure Server where
  choose : List UInt8 → UInt8
  check : List UInt8 → List UInt8 → Bool
  dial : List UInt8 → UInt16 → Dialled
  /-- Only what is offered is chosen. -/
  choose_mem : ∀ methods, choose methods = noMethod ∨ choose methods ∈ methods

namespace Server

variable (server : Server)

/-- What the server says to a client that may make a request. -/
def serve (s : List UInt8) : List UInt8 :=
  match readConnectRequest s with
  | some (host, port, rest) => (server.dial host port).answer rest
  | none => []

/-- What it says to a client that must give its name first. -/
def authenticate (s : List UInt8) : List UInt8 :=
  match readAuthentication s with
  | some (user, pass, rest) =>
    if server.check user pass then [0x01, 0x00] ++ server.serve rest else [0x01, 0x01]
  | none => []

/-- What it says once it has chosen a method. -/
def proceed (method : UInt8) (s : List UInt8) : List UInt8 :=
  if method = noMethod then []
  else if method = userPass then server.authenticate s
  else server.serve s

/-- All that the server says to a client that has sent it `s`. -/
def output (s : List UInt8) : List UInt8 :=
  match readGreeting s with
  | some (methods, rest) =>
    [0x05, server.choose methods] ++ server.proceed (server.choose methods) rest
  | none => []

/-- What it says to the last of these messages. -/
def answer (sent : List (List UInt8)) : List UInt8 :=
  (server.output sent.flatten).drop (server.output sent.dropLast.flatten).length

/-- The server lets this client make a request. -/
def Welcomes (methods user pass : List UInt8) : Prop :=
  server.choose methods ≠ noMethod ∧
    (server.choose methods = userPass → server.check user pass = true)

theorem output_greeting {methods : List UInt8} (h : methods.length < 256) (rest : List UInt8) :
    server.output (greeting methods ++ rest) =
      [0x05, server.choose methods] ++ server.proceed (server.choose methods) rest := by
  rw [output, readGreeting_greeting h]

theorem proceed_nil (method : UInt8) : server.proceed method [] = [] := by
  unfold proceed
  split
  · rfl
  · split <;> rfl

theorem authenticate_authentication {user pass : List UInt8} (huser : user.length < 256)
    (hpass : pass.length < 256) (rest : List UInt8) :
    server.authenticate (authentication user pass ++ rest) =
      if server.check user pass then [0x01, 0x00] ++ server.serve rest else [0x01, 0x01] := by
  rw [authenticate, readAuthentication_authentication huser hpass]

/-- How the server dials the host that it reads in the request for this one. -/
def dialled (host : List UInt8) (port : UInt16) : Dialled :=
  server.dial (asked host port).1 (asked host port).2.1

theorem serve_connectRequest (host : List UInt8) (port : UInt16) :
    server.serve (connectRequest host port) =
      (server.dialled host port).answer (asked host port).2.2 := by
  rw [serve, readConnectRequest_connectRequest]
  rfl

/-! What is said to each message of a client -/

theorem answer_greeting {methods : List UInt8} (h : methods.length < 256) :
    server.answer [greeting methods] = [0x05, server.choose methods] := by
  have houtput := server.output_greeting h []
  rw [proceed_nil, List.append_nil, List.append_nil] at houtput
  simp only [answer, List.flatten_cons, List.flatten_nil, List.append_nil, houtput]
  rfl

section Authenticated

variable {server} {methods user pass : List UInt8}

theorem answer_authentication (h : methods.length < 256) (huser : user.length < 256)
    (hpass : pass.length < 256) (hchosen : server.choose methods = userPass) :
    server.answer [greeting methods, authentication user pass] =
      [0x01, if server.check user pass then 0x00 else 0x01] := by
  have hfirst := server.output_greeting h []
  have hboth := server.output_greeting h (authentication user pass)
  have hauth := server.authenticate_authentication huser hpass []
  have hproceed : server.proceed userPass (authentication user pass) =
      server.authenticate (authentication user pass) := rfl
  rw [proceed_nil, List.append_nil, List.append_nil] at hfirst
  rw [List.append_nil] at hauth
  simp only [answer, List.flatten_cons, List.flatten_nil, List.append_nil, List.dropLast,
    hfirst, hboth, hchosen, hproceed, hauth]
  cases server.check user pass <;> rfl

/-- The request of a client that has given its name. -/
theorem answer_request_authenticated (h : methods.length < 256) (huser : user.length < 256)
    (hpass : pass.length < 256) (hchosen : server.choose methods = userPass)
    (hcheck : server.check user pass = true) (msg : List UInt8) :
    server.answer [greeting methods, authentication user pass, msg] = server.serve msg := by
  have hbefore := server.output_greeting h (authentication user pass)
  have hall := server.output_greeting h (authentication user pass ++ msg)
  have hauth := server.authenticate_authentication huser hpass []
  have hauthMsg := server.authenticate_authentication huser hpass msg
  have hproceed (s : List UInt8) : server.proceed userPass s = server.authenticate s := rfl
  rw [List.append_nil] at hauth
  simp only [answer, List.flatten_cons, List.flatten_nil, List.append_nil, List.dropLast,
    hbefore, hall, hchosen, hproceed, hauth, hauthMsg, hcheck, if_true]
  rfl

theorem answer_request (h : methods.length < 256) (hsome : server.choose methods ≠ noMethod)
    (hchosen : server.choose methods ≠ userPass) (msg : List UInt8) :
    server.answer [greeting methods, msg] = server.serve msg := by
  have hbefore := server.output_greeting h []
  have hall := server.output_greeting h msg
  have hproceed : server.proceed (server.choose methods) msg = server.serve msg := by
    rw [proceed, if_neg hsome, if_neg hchosen]
  rw [proceed_nil, List.append_nil, List.append_nil] at hbefore
  simp only [answer, List.flatten_cons, List.flatten_nil, List.append_nil, List.dropLast,
    hbefore, hall, hproceed]
  rfl

end Authenticated

end Server

end Socks5
