import Libfaim.Request

/-!
# Logging in (`auth.c`)

`aim_request_login` is told the screen name, `aim_send_login` sends the password. A screen name that
begins with a digit is an ICQ number, which logs in with a packet of its own; the first function
notes this in the flags of the session, the second one looks there. MD5 and the client's functions
are parameters.
-/

namespace Libfaim

def aimSessFlagsSnaclogin : UInt32 := 0x00000001
def aimSessFlagsXorlogin : UInt32 := 0x00000002

/-- `sess->flags & AIM_SESS_FLAGS_XORLOGIN` -/
def Requester.Xorlogin (s : Requester) : Prop := s.flags &&& aimSessFlagsXorlogin ≠ 0

instance (s : Requester) : Decidable s.Xorlogin := inferInstanceAs (Decidable (_ ≠ _))

/-- `aim_session_init` with these flags. -/
def requesterInit (flags : UInt32) : Requester where
  sess := aimSessionInit []
  snacs := aimInitsnachash
  flags := (if flags &&& aimSessFlagsXorlogin = 0 then aimSessFlagsSnaclogin else 0) ||| flags
  passed := []

/-! ## Encoding the password -/

/-- `AIM_MD5_STRING`, `"AOL Instant Messenger (SM)"`. -/
def aimMd5String : List UInt8 :=
  [0x41, 0x4f, 0x4c, 0x20, 0x49, 0x6e, 0x73, 0x74, 0x61, 0x6e, 0x74, 0x20, 0x4d, 0x65, 0x73, 0x73,
    0x65, 0x6e, 0x67, 0x65, 0x72, 0x20, 0x28, 0x53, 0x4d, 0x29]

/-- `aim_encode_password_md5` -/
def aimEncodePasswordMd5 (md5 : List UInt8 → Fin 16 → UInt8) (password key : List UInt8) :
    List UInt8 :=
  List.ofFn (md5 (cstr key ++ cstr password ++ aimMd5String))

/-- The "v2.1 table" of `aim_encode_password`. What lies behind it is undefined in C and zero
here. -/
def encodingTable (i : Nat) : UInt8 :=
  ([0xf3, 0x26, 0x81, 0xc4, 0x39, 0x86, 0xdb, 0x92, 0x71, 0xa3, 0xb9, 0xe6, 0x53, 0x7a, 0x95,
    0x7c][i]?).getD 0

/-- `aim_encode_password` -/
def aimEncodePassword (password : List UInt8) : List UInt8 :=
  (cstr password).mapIdx fun i b => b ^^^ encodingTable i

/-! ## Requesting the login -/

/-- `(sn[0] >= '0') && (sn[0] <= '9')` -/
def DigitName (sn : List UInt8) : Prop := 0x30 ≤ sn.headD 0 ∧ sn.headD 0 ≤ 0x39

instance (sn : List UInt8) : Decidable (DigitName sn) := inferInstanceAs (Decidable (_ ∧ _))

def aimSendflapver (c : ConnPtr) (s : Requester) : Int × Requester :=
  s.post c 0x01 4 (aimbsPut32 0x00000001)

/-- The flags as `goddamnicq` leaves them. -/
def Requester.icqFlags (s : Requester) : Requester :=
  { s with flags := (s.flags &&& ~~~ aimSessFlagsSnaclogin) ||| aimSessFlagsXorlogin }

/-- `goddamnicq`. The function of the client is called from here, with an empty key. -/
def goddamnicq (client : Nat → Requester → Requester) (c : ConnPtr) (s : Requester) :
    Int × Requester :=
  let s := s.icqFlags
  match aimCallhandler s.sess c 0x0017 0x0007 with
  | some (.client func) => (0, client func s)
  | _ => (0, s)

/-- The request of `aim_request_login`. -/
def loginRequest (sn : List UInt8) : Request where
  datalen := 10 + 2 + 2 + strlen sn
  family := 0x0017
  type := 0x0006
  data := []
  put := putSnac 0x0017 0x0006 [aimWritetlvchain (addtlvStr [] 0x0001 sn)]

/-- `aim_request_login`; `none` is a null `sn`. -/
def aimRequestLogin (client : Nat → Requester → Requester) (c : ConnPtr) (now : Int)
    (sn : Option (List UInt8)) (s : Requester) : Int × Requester :=
  match sn with
  | none => (-einval, s)
  | some sn =>
    if c = 0 then (-einval, s)
    else if DigitName sn then goddamnicq client c s
    else
      let s := { s with flags := s.flags ||| aimSessFlagsSnaclogin }
      let (_, s) := aimSendflapver c s
      s.request c now (loginRequest sn)

/-! ## Sending the login -/

/-- `struct client_info_s` -/
structure ClientInfo where
  clientstring : Option (List UInt8)
  clientid : UInt16
  major : Int
  minor : Int
  point : Int
  build : Int
  country : List UInt8
  lang : List UInt8
  deriving DecidableEq, Repr

/-- `"ICQ Inc. - Product of ICQ (TM) 2000b.4.65.1.3281.85"` -/
def icqClientstr : List UInt8 :=
  [0x49, 0x43, 0x51, 0x20, 0x49, 0x6e, 0x63, 0x2e, 0x20, 0x2d, 0x20, 0x50, 0x72, 0x6f, 0x64, 0x75,
    0x63, 0x74, 0x20, 0x6f, 0x66, 0x20, 0x49, 0x43, 0x51, 0x20, 0x28, 0x54, 0x4d, 0x29, 0x20, 0x32,
    0x30, 0x30, 0x30, 0x62, 0x2e, 0x34, 0x2e, 0x36, 0x35, 0x2e, 0x31, 0x2e, 0x33, 0x32, 0x38, 0x31,
    0x2e, 0x38, 0x35]

/-- The chain of `goddamnicq2`. -/
def icqLoginTlvs (sn password : List UInt8) : List AimTlv :=
  let tl := addtlvStr [] 0x0001 sn
  let tl := (aimAddtlvtochainRaw tl 0x0002 (UInt16.ofNat (strlen password))
    (aimEncodePassword password)).2
  let tl := addtlvStr tl 0x0003 icqClientstr
  let tl := (aimAddtlvtochain16 tl 0x0016 0x010a).2
  let tl := (aimAddtlvtochain16 tl 0x0017 0x0004).2
  let tl := (aimAddtlvtochain16 tl 0x0018 0x0041).2
  let tl := (aimAddtlvtochain16 tl 0x0019 0x0001).2
  let tl := (aimAddtlvtochain16 tl 0x001a 0x0cd1).2
  let tl := (aimAddtlvtochain32 tl 0x0014 0x00000055).2
  let tl := addtlvStr tl 0x000f [0x65, 0x6e]
  addtlvStr tl 0x000e [0x75, 0x73]

/-- Everything `goddamnicq2` puts into the frame. -/
def putIcqLogin (sn password : List UInt8) : StateM AimBstream Nat := do
  let _ ← aimbsPut32 0x00000001
  aimWritetlvchain (icqLoginTlvs sn password)

def goddamnicq2 (c : ConnPtr) (sn password : List UInt8) (s : Requester) : Int × Requester :=
  s.post c 0x01 1152 (putIcqLogin sn password)

/-- The chain of `aim_send_login`. -/
def loginTlvs (md5 : List UInt8 → Fin 16 → UInt8) (ci : ClientInfo) (sn password key : List UInt8) :
    List AimTlv :=
  let tl := addtlvStr [] 0x0001 sn
  let tl := (aimAddtlvtochainRaw tl 0x0025 16 (aimEncodePasswordMd5 md5 password key)).2
  let tl := addtlvOpt tl 0x0003 ci.clientstring
  let tl := (aimAddtlvtochain16 tl 0x0016 ci.clientid).2
  let tl := (aimAddtlvtochain16 tl 0x0017 (UInt16.ofInt ci.major)).2
  let tl := (aimAddtlvtochain16 tl 0x0018 (UInt16.ofInt ci.minor)).2
  let tl := (aimAddtlvtochain16 tl 0x0019 (UInt16.ofInt ci.point)).2
  let tl := (aimAddtlvtochain16 tl 0x001a (UInt16.ofInt ci.build)).2
  let tl := addtlvStr tl 0x000e ci.country
  addtlvStr tl 0x000f ci.lang

/-- The request of `aim_send_login`. -/
def sendLoginRequest (md5 : List UInt8 → Fin 16 → UInt8) (ci : ClientInfo)
    (sn password key : List UInt8) : Request where
  datalen := 1152
  family := 0x0017
  type := 0x0002
  data := []
  put := putSnac 0x0017 0x0002 [aimWritetlvchain (loginTlvs md5 ci sn password key)]

/-- `aim_send_login`; `none` is a null pointer. -/
def aimSendLogin (md5 : List UInt8 → Fin 16 → UInt8) (c : ConnPtr) (now : Int)
    (sn password : Option (List UInt8)) (ci : Option ClientInfo) (key : List UInt8)
    (s : Requester) : Int × Requester :=
  match ci, sn, password with
  | some ci, some sn, some password =>
    if s.Xorlogin then goddamnicq2 c sn password s
    else s.request c now (sendLoginRequest md5 ci sn password key)
  | _, _, _ => (-einval, s)

end Libfaim
