import Libfaim.Auth
import Libfaim.Chat
import Libfaim.Im.Rendezvous
import Libfaim.Snac.Requests
import Libfaim.Util

/-!
# The functions that make requests

Every function of the interface that remembers a SNAC and enqueues a frame, family by family, as
the `Request` it fills in or the value it returns instead; the two of `auth.c` that do more are in
`Auth.lean`. `RequestCall` lists them all. A null pointer is `none` where the function looks for
one. `rand()`, MD5, `atoi(sess->sn)` and what the modules and the connection hold are parameters.
-/

namespace Libfaim

/-! ## Guards -/

/-- `if (!conn) return -EINVAL;` -/
def needConn (c : ConnPtr) (make : Except Int Request) : Except Int Request :=
  if c = 0 then .error (-einval) else make

/-- `if (!a) return -EINVAL;` -/
def needArg {α : Type} (a : Option α) (make : α → Except Int Request) : Except Int Request :=
  match a with
  | none => .error (-einval)
  | some a => make a

/-- `if (!s || !strlen(s)) return -EINVAL;` -/
def needStr (s : Option (List UInt8)) (make : List UInt8 → Except Int Request) :
    Except Int Request :=
  needArg s fun s => if strlen s = 0 then .error (-einval) else make s

/-- A put whose value is not looked at. -/
def putOf {α : Type} (m : StateM AimBstream α) : StateM AimBstream Nat := do
  let _ ← m
  return 0

/-- `aimbs_put8(bs, strlen(s)); aimbs_putraw(bs, s, strlen(s));` -/
def putStr8 (s : List UInt8) : List (StateM AimBstream Nat) :=
  [aimbsPut8 (UInt8.ofNat (strlen s)), aimbsPutraw s (strlen s)]

/-! ## Administration (`admin.c`) -/

def aimAdminChangepasswd (newpw curpw : List UInt8) : Request where
  datalen := 10 + 4 + strlen curpw + 4 + strlen newpw
  family := 0x0007
  type := 0x0004
  data := []
  put := putSnac 0x0007 0x0004
    [aimWritetlvchain (addtlvStr (addtlvStr [] 0x0002 newpw) 0x0012 curpw)]

/-- `aim_admin_getinfo`. What is remembered is of the family 0002. -/
def aimAdminGetinfo (info : UInt16) : Request where
  datalen := 14
  family := 0x0002
  type := 0x0002
  data := []
  put := putSnac 0x0007 0x0002 [aimbsPut16 info, aimbsPut16 0x0000]

/-- `aim_admin_setemail` and `aim_admin_setnick`, which differ in the type of the TLV. -/
def adminSet (t : UInt16) (s : List UInt8) : Request where
  datalen := 10 + 2 + 2 + strlen s
  family := 0x0007
  type := 0x0004
  data := []
  put := putSnac 0x0007 0x0004 [aimWritetlvchain (addtlvStr [] t s)]

def aimAdminSetemail (newemail : List UInt8) : Request := adminSet 0x0011 newemail
def aimAdminSetnick (newnick : List UInt8) : Request := adminSet 0x0001 newnick

/-! ## Permissions (`bos.c`) -/

/-- The subtype that `aim_bos_changevisibility` sends: the four types of change have the numbers of
their SNACs. -/
def visibilitySubtype (changetype : Int) : Option UInt16 :=
  if changetype = 0x05 then some 0x05
  else if changetype = 0x06 then some 0x06
  else if changetype = 0x07 then some 0x07
  else if changetype = 0x08 then some 0x08
  else none

def aimBosChangevisibility (changetype : Int) (denylist : Option (List UInt8)) :
    Except Int Request :=
  needArg denylist fun denylist =>
  needArg (visibilitySubtype changetype) fun subtype =>
    let listcount := aimutilItemcnt denylist 0x26
    .ok {
      datalen := aimutilTokslen denylist 99 0x26 + listcount + 9
      family := 0x0009
      type := subtype
      data := []
      put := putSnac 0x0009 subtype ((List.range (min (listcount - 1) 99)).flatMap fun i =>
        putStr8 (aimutilItemidx denylist i 0x26)) }

/-! ## Buddy lists (`buddylist.c`, `info.c`, `misc.c`) -/

/-- `aim_add_buddy` and `aim_remove_buddy`, which differ in the subtype. -/
def buddyRequest (subtype : UInt16) (sn : Option (List UInt8)) : Except Int Request :=
  needStr sn fun sn =>
    .ok {
      datalen := 10 + 1 + strlen sn
      family := 0x0003
      type := subtype
      data := cstr sn ++ [0]
      put := putSnac 0x0003 subtype (putStr8 sn) }

def aimAddBuddy (sn : Option (List UInt8)) : Except Int Request := buddyRequest 0x0004 sn
def aimRemoveBuddy (sn : Option (List UInt8)) : Except Int Request := buddyRequest 0x0005 sn

/-- The tokens that `strtok` finds between `&`s. -/
def buddyTokens (buddyList : List UInt8) : List (List UInt8) :=
  ((cstr buddyList).splitOn 0x26).filter (· ≠ [])

def aimBosSetbuddylist (buddyList : Option (List UInt8)) : Except Int Request :=
  needArg buddyList fun buddyList =>
    .ok {
      datalen := 10 + ((buddyTokens buddyList).map fun tok => 1 + tok.length).sum
      family := 0x0003
      type := 0x0004
      data := []
      put := putSnac 0x0003 0x0004 ((buddyTokens buddyList).flatMap putStr8) }

def aimSendbuddyoncoming (c : ConnPtr) (info : Option AimUserinfo) : Except Int Request :=
  needConn c <| needArg info fun info =>
    .ok {
      datalen := 1152
      family := 0x0003
      type := 0x000b
      data := []
      put := putSnac 0x0003 0x000b [putOf (aimPutuserinfo info)] }

/-- `aim_sendbuddyoffgoing` and `aim_0002_000b`, which differ in the SNAC. -/
def snRequest (family subtype : UInt16) (c : ConnPtr) (sn : Option (List UInt8)) :
    Except Int Request :=
  needConn c <| needArg sn fun sn =>
    .ok {
      datalen := 10 + 1 + strlen sn
      family := family
      type := subtype
      data := []
      put := putSnac family subtype (putStr8 sn) }

def aimSendbuddyoffgoing (c : ConnPtr) (sn : Option (List UInt8)) : Except Int Request :=
  snRequest 0x0003 0x000c c sn

def aim0002000b (c : ConnPtr) (sn : Option (List UInt8)) : Except Int Request :=
  snRequest 0x0002 0x000b c sn

def aimGetinfo (c : ConnPtr) (sn : Option (List UInt8)) (infotype : UInt16) : Except Int Request :=
  needConn c <| needArg sn fun sn =>
    .ok {
      datalen := 12 + 1 + strlen sn
      family := 0x0002
      type := 0x0005
      data := AimPrivInforeq.store ⟨sn, infotype⟩
      put := putSnac 0x0002 0x0005 (aimbsPut16 infotype :: putStr8 sn) }

/-! ## Profile and directory (`misc.c`) -/

/-- `"text/aolrtf; charset=\"us-ascii\""` -/
def defencoding : List UInt8 :=
  [0x74, 0x65, 0x78, 0x74, 0x2f, 0x61, 0x6f, 0x6c, 0x72, 0x74, 0x66, 0x3b, 0x20, 0x63, 0x68, 0x61,
    0x72, 0x73, 0x65, 0x74, 0x3d, 0x22, 0x75, 0x73, 0x2d, 0x61, 0x73, 0x63, 0x69, 0x69, 0x22]

def profileTlvs (profile : Option (List UInt8)) (tl : List AimTlv) : List AimTlv :=
  match profile with
  | none => tl
  | some profile => addtlvStr (addtlvStr tl 0x0001 defencoding) 0x0002 profile

/-- "You become unaway when you clear the TLV with a zero-length type 4 TLV." -/
def awayTlvs (awaymsg : Option (List UInt8)) (tl : List AimTlv) : List AimTlv :=
  match awaymsg with
  | none => tl
  | some awaymsg =>
    if strlen awaymsg ≠ 0 then addtlvStr (addtlvStr tl 0x0003 defencoding) 0x0004 awaymsg
    else (aimAddtlvtochainNoval tl 0x0004).2

/-- The chain of `aim_bos_setprofile`. -/
def setprofileTlvs (profile awaymsg : Option (List UInt8)) (caps : UInt32) : List AimTlv :=
  (aimAddtlvtochainCaps (awayTlvs awaymsg (profileTlvs profile [])) 0x0005 caps).2

/-- A request of a chain: the frame is as large as the chain and the header. -/
def tlvRequest (family subtype : UInt16) (tl : List AimTlv) : Request where
  datalen := 10 + aimSizetlvchain tl
  family := family
  type := subtype
  data := []
  put := putSnac family subtype [aimWritetlvchain tl]

def aimBosSetprofile (profile awaymsg : Option (List UInt8)) (caps : UInt32) : Request :=
  tlvRequest 0x0002 0x0004 (setprofileTlvs profile awaymsg caps)

/-- The strings of `aim_setdirectoryinfo`. -/
structure DirectoryInfo where
  first : Option (List UInt8)
  middle : Option (List UInt8)
  last : Option (List UInt8)
  maiden : Option (List UInt8)
  nickname : Option (List UInt8)
  street : Option (List UInt8)
  city : Option (List UInt8)
  state : Option (List UInt8)
  zip : Option (List UInt8)
  deriving DecidableEq, Repr

def directoryTlvs (info : DirectoryInfo) (privacy : UInt16) : List AimTlv :=
  let tl := (aimAddtlvtochain16 [] 0x000a privacy).2
  let tl := addtlvOpt tl 0x0001 info.first
  let tl := addtlvOpt tl 0x0002 info.last
  let tl := addtlvOpt tl 0x0003 info.middle
  let tl := addtlvOpt tl 0x0004 info.maiden
  let tl := addtlvOpt tl 0x0007 info.state
  let tl := addtlvOpt tl 0x0008 info.city
  let tl := addtlvOpt tl 0x000c info.nickname
  let tl := addtlvOpt tl 0x000d info.zip
  addtlvOpt tl 0x0021 info.street

def aimSetdirectoryinfo (info : DirectoryInfo) (privacy : UInt16) : Request :=
  tlvRequest 0x0002 0x0009 (directoryTlvs info privacy)

def interestTlvs (interests : Fin 5 → Option (List UInt8)) (privacy : UInt16) : List AimTlv :=
  (List.ofFn interests).foldl (fun tl interest => addtlvOpt tl 0x000b interest)
    (aimAddtlvtochain16 [] 0x000a privacy).2

/-- `aim_setuserinterests`. The header has the id 0 in place of the one that is remembered. -/
def aimSetuserinterests (interests : Fin 5 → Option (List UInt8)) (privacy : UInt16) : Request :=
  { tlvRequest 0x0002 0x000f (interestTlvs interests privacy) with
    put := fun _ => putSnac 0x0002 0x000f [aimWritetlvchain (interestTlvs interests privacy)] 0 }

def aimSendWarning (destsn : List UInt8) (flags : UInt32) : Request where
  datalen := strlen destsn + 13
  family := 0x0004
  type := 0x0008
  data := cstr destsn ++ [0]
  put := putSnac 0x0004 0x0008
    (aimbsPut16 (if flags &&& 0x01 ≠ 0 then 0x0001 else 0x0000) :: putStr8 destsn)

/-! ## Generic requests (`misc.c`) -/

/-- `aim_genericreq_n`, which does not remember its SNAC. -/
def aimGenericreqN (c : ConnPtr) (family subtype : UInt16) (s : Requester) : Int × Requester :=
  s.post c 0x02 10 (aimPutsnac family subtype 0x0000 0x00000000)

/-- A request of these puts of `extra` bytes. -/
def genericRequest (family subtype : UInt16) (extra : Nat) (puts : List (StateM AimBstream Nat)) :
    Request where
  datalen := 10 + extra
  family := family
  type := subtype
  data := []
  put := putSnac family subtype puts

def aimGenericreqNSnacid (family subtype : UInt16) : Request := genericRequest family subtype 0 []

/-- `aim_genericreq_l`. With a null pointer it is `aim_genericreq_n`. -/
def aimGenericreqL (family subtype : UInt16) (longdata : UInt32) : Request :=
  genericRequest family subtype 4 [aimbsPut32 longdata]

/-- `aim_genericreq_s`. With a null pointer it is `aim_genericreq_n`. -/
def aimGenericreqS (family subtype : UInt16) (shortdata : UInt16) : Request :=
  genericRequest family subtype 2 [aimbsPut16 shortdata]

/-! ## Chat (`chat.c`, `chatnav.c`) -/

/-- `"create"`, `"us-ascii"` and `"en"` -/
def createCk : List UInt8 := [0x63, 0x72, 0x65, 0x61, 0x74, 0x65]
def createCharset : List UInt8 := [0x75, 0x73, 0x2d, 0x61, 0x73, 0x63, 0x69, 0x69]
def createLang : List UInt8 := [0x65, 0x6e]

def createroomTlvs (name : List UInt8) : List AimTlv :=
  addtlvStr (addtlvStr (addtlvStr [] 0x00d3 name) 0x00d6 createCharset) 0x00d7 createLang

/-- What `aim_chatnav_createroom` puts behind the SNAC header and before the chain. -/
def createroomFields (exchange : UInt16) (tlvcount : Nat) : List (StateM AimBstream Nat) :=
  aimbsPut16 exchange :: putStr8 createCk ++
    [aimbsPut16 0xffff, aimbsPut8 0x01, aimbsPut16 (UInt16.ofNat tlvcount)]

def aimChatnavCreateroom (name : List UInt8) (exchange : UInt16) : Request where
  datalen := 1152
  family := 0x000d
  type := 0x0008
  data := []
  put := putSnac 0x000d 0x0008
    (createroomFields exchange (aimCounttlvchain (createroomTlvs name)) ++
      [aimWritetlvchain (createroomTlvs name)])

def aimChatnavReqrights : Request := aimGenericreqNSnacid 0x000d 0x0002

/-- The chain of `aim_chat_join`. -/
def chatJoinTlvs (exchange : UInt16) (roomname : List UInt8) (instance_ : UInt16) : List AimTlv :=
  (aimAddtlvtochainChatroom [] 0x0001 exchange roomname instance_).2

/-- The request of `aim_chat_join`. -/
def chatJoinRequest (exchange : UInt16) (roomname : List UInt8) (instance_ : UInt16) :
    Request where
  datalen := 512
  family := 0x0001
  type := 0x0004
  data := Chatsnacinfo.store ⟨exchange, roomname, instance_⟩
  put := putSnac 0x0001 0x0004
    [aimbsPut16 0x000e, aimWritetlvchain (chatJoinTlvs exchange roomname instance_)]

def aimChatJoin (c : ConnPtr) (exchange : UInt16) (roomname : Option (List UInt8))
    (instance_ : UInt16) : Except Int Request :=
  needConn c <| needStr roomname fun roomname => .ok (chatJoinRequest exchange roomname instance_)

/-- The request of `aim_chat_send_im`, as in `chatSendImFrame`. -/
def chatSendImRequest (c : ConnPtr) (rand : Nat → UInt8) (flags : UInt16)
    (msg : Option (List UInt8)) (msglen : Int) : Except Int Request :=
  match msg with
  | none => .error 0
  | some msg =>
    if c = 0 ∨ msglen ≤ 0 then .error 0
    else .ok {
      datalen := 1152
      family := 0x000e
      type := 0x0005
      data := []
      put := fun snacid => putChatmsg flags msg snacid ((List.range 8).map rand) }

/-- The request of `aim_chat_invite`, as in `chatInviteFrame`. -/
def chatInviteRequest (sess : AimSession) (c : ConnPtr) (rand : Nat → UInt8)
    (args : AimChatInviteArgs) : Except Int Request :=
  if c = 0 then .error (-einval)
  else if (sess.conn c).type ≠ aimConnTypeBos then .error (-einval)
  else .ok {
    datalen := 1152 + strlen args.sn + strlen args.roomname + strlen args.msg
    family := 0x0004
    type := 0x0006
    data := cstr args.sn ++ [0]
    put := fun snacid => putInvite args snacid ((List.range 8).map rand) }

/-! ## ICQ (`icq.c`) -/

/-- `atoi`. A number that is too large is undefined in C. -/
def atoi (s : List UInt8) : Int :=
  let digits (s : List UInt8) : Int :=
    (s.takeWhile fun b => 0x30 ≤ b ∧ b ≤ 0x39).foldl (fun n b => 10 * n + (b.toNat - 0x30)) 0
  match (cstr s).dropWhile fun b => b = 0x20 ∨ 0x09 ≤ b ∧ b ≤ 0x0d with
  | 0x2d :: s => -digits s
  | 0x2b :: s => digits s
  | s => digits s

/-- The front of the four ICQ requests: `sn` is `sess->sn`, and `extra` puts `bslen - 10` bytes. -/
def icqRequest (sn : List UInt8) (bslen : Nat) (cmd : UInt16)
    (extra : List (StateM AimBstream Nat)) : Request where
  datalen := 10 + 4 + bslen
  family := 0x0015
  type := 0x0002
  data := []
  put := fun snacid => putSnac 0x0015 0x0002
    ([aimbsPut16 0x0001, aimbsPut16 (UInt16.ofNat bslen), aimbsPutle16 (UInt16.ofNat (bslen - 2)),
      aimbsPutle32 (UInt32.ofInt (atoi sn)), aimbsPutle16 cmd, aimbsPutle16 snacid.toUInt16] ++ extra)
    snacid

def aimIcqReqofflinemsgs (sn : List UInt8) (c : ConnPtr) : Except Int Request :=
  needConn c <| .ok <| icqRequest sn (2 + 4 + 2 + 2) 0x003c []

def aimIcqAckofflinemsgs (sn : List UInt8) (c : ConnPtr) : Except Int Request :=
  needConn c <| .ok <| icqRequest sn (2 + 4 + 2 + 2) 0x003e []

def aimIcqSendxmlreq (sn : List UInt8) (c : ConnPtr) (xml : Option (List UInt8)) :
    Except Int Request :=
  needStr xml fun xml => needConn c <| .ok <|
    icqRequest sn (2 + 10 + 2 + strlen xml + 1) 0x07d0
      [aimbsPutle16 0x0998, aimbsPutle16 (UInt16.ofNat (strlen xml + 1)),
        aimbsPutraw (cstr xml ++ [0]) (strlen xml + 1)]

def aimIcqGetsimpleinfo (sn : List UInt8) (c : ConnPtr) (uin : Option (List UInt8)) :
    Except Int Request :=
  needArg uin fun uin =>
    if ¬ DigitName uin then .error (-einval)
    else needConn c <| .ok <|
      icqRequest sn (2 + 4 + 2 + 2 + 2 + 4) 0x07d0
        [aimbsPutle16 0x051f, aimbsPutle32 (UInt32.ofInt (atoi uin))]

/-! ## Instant messages (`im.c`) -/

/-- The request of `aim_send_im_ext`, as in `sendImextFrame`. -/
def sendImextRequest (c : ConnPtr) (rand : Nat → UInt8) (args : AimSendimextArgs) :
    Except Int Request :=
  if c = 0 then .error (-einval)
  else
    match checkImext args with
    | .error ret => .error ret
    | .ok () => .ok {
        datalen := msgtlvlen args + 128
        family := 0x0004
        type := 0x0006
        data := cstr args.destsn ++ [0]
        put := fun snacid => putImext args snacid rand }

/-- The request of `aim_send_icon`, as in `sendIconFrame`. -/
def sendIconRequest (c : ConnPtr) (rand : Nat → UInt8) (args : AimSendIconArgs) :
    Except Int Request :=
  if c = 0 then .error (-einval)
  else if args.iconlen ≤ 0 ∨ args.iconlen ≥ maxiconlen then .error (-einval)
  else .ok {
    datalen := 10 + 8 + 2 + 1 + strlen args.sn + 2 + 2 + 2 + 8 + 16 + 2 + 2 + 2 + 2 + 2 + 2 + 2 + 4 +
      4 + 4 + args.iconlen.toNat + aimIconident.length + 2 + 2
    family := 0x0004
    type := 0x0006
    data := []
    put := fun snacid => putIconmsg args snacid ((List.range 8).map rand) }

/-- The request of `aim_send_rtfmsg`, as in `sendRtfmsgFrame`. -/
def sendRtfmsgRequest (c : ConnPtr) (rand : Nat → UInt8) (args : AimSendrtfmsgArgs) :
    Except Int Request :=
  if c = 0 then .error (-einval)
  else .ok {
    datalen := 10 + 128 + rtfServdatalen args
    family := 0x0004
    type := 0x0006
    data := []
    put := fun snacid => putRtfmsg args snacid ((List.range 8).map rand) }

/-- The cookie of a rendezvous request: seven digits and a NUL. -/
def digitCookie (rand : Nat → UInt8) : List UInt8 :=
  (List.range 7).map (fun i => 0x30 + rand i % 10) ++ [0]

/-- The front of a message on channel 2. -/
def channel2Head (ck sn : List UInt8) : List (StateM AimBstream Nat) :=
  [aimbsPutraw ck 8, aimbsPut16 0x0002] ++ putStr8 sn

/-- The chain of `aim_request_directim`. -/
def directimTlvs (ck ip : List UInt8) (port : UInt16) : List AimTlv :=
  let tl := (aimAddtlvtochainNoval [] 0x0003).2
  let hdrlen := 2 + 8 + 16 + 6 + 8 + 6 + 4
  let hdrbs := aimBstreamInit (List.replicate hdrlen 0) hdrlen
  let itl := (aimAddtlvtochain16 [] 0x000a 0x0001).2
  let itl := (aimAddtlvtochainRaw itl 0x0003 4 ip).2
  let itl := (aimAddtlvtochain16 itl 0x0005 port).2
  let itl := (aimAddtlvtochainNoval itl 0x000f).2
  let hdrbs := (putAll [aimbsPut16 0x0000, aimbsPutraw ck 8, putOf (aimPutcap aimCapsImimage),
    aimWritetlvchain itl] hdrbs).2
  (aimAddtlvtochainRaw tl 0x0005 (UInt16.ofNat (aimBstreamCurpos hdrbs)) hdrbs.data).2

def aimRequestDirectim (c : ConnPtr) (rand : Nat → UInt8) (destsn ip : List UInt8) (port : UInt16) :
    Except Int Request :=
  needConn c <| .ok {
    datalen := 256 + strlen destsn
    family := 0x0004
    type := 0x0006
    data := []
    put := putSnac 0x0004 0x0006 (channel2Head (digitCookie rand) destsn ++
      [aimWritetlvchain (directimTlvs (digitCookie rand) ip port)]) }

/-- What `aim_request_sendfile` puts behind the name. -/
def sendfileFields (ck filename : List UInt8) (numfiles : UInt16) (totsize : UInt32)
    (ip : List UInt8) (port : UInt16) : List (StateM AimBstream Nat) :=
  [aimbsPut16 0x0005,
    aimbsPut16 (UInt16.ofNat
      (2 + 8 + 16 + 6 + 8 + 6 + 4 + 2 + 2 + 2 + 2 + 4 + strlen filename + 4)),
    aimbsPut16 0x0000, aimbsPutraw ck 8, putOf (aimPutcap aimCapsSendfile),
    aimbsPut16 0x000a, aimbsPut16 0x0002, aimbsPut16 0x0001,
    aimbsPut16 0x0003, aimbsPut16 0x0004, aimbsPutraw ip 4,
    aimbsPut16 0x0005, aimbsPut16 0x0002, aimbsPut16 port,
    aimbsPut16 0x000f, aimbsPut16 0x0000,
    aimbsPut16 0x2711, aimbsPut16 (UInt16.ofNat (2 + 2 + 4 + strlen filename + 4)),
    aimbsPut16 0x0001, aimbsPut16 numfiles, aimbsPut32 totsize,
    aimbsPutraw filename (strlen filename), aimbsPut32 0x00000000]

def aimRequestSendfile (c : ConnPtr) (rand : Nat → UInt8) (sn filename : Option (List UInt8))
    (numfiles : UInt16) (totsize : UInt32) (ip : List UInt8) (port : UInt16) : Except Int Request :=
  needConn c <| needArg sn fun sn => needArg filename fun filename => .ok {
    datalen := 10 + 8 + 2 + 1 + strlen sn + 2 + 2 + 2 + 8 + 16 + 6 + 8 + 6 + 4 + 2 + 2 + 2 + 2 + 4 +
      strlen filename + 4
    family := 0x0004
    type := 0x0006
    data := []
    put := putSnac 0x0004 0x0006 (channel2Head (digitCookie rand) sn ++
      sendfileFields (digitCookie rand) filename numfiles totsize ip port) }

def aimDenytransfer (c : ConnPtr) (sender cookie : List UInt8) (code : UInt16) :
    Except Int Request :=
  needConn c <| .ok {
    datalen := 10 + 8 + 2 + 1 + strlen sender + 6
    family := 0x0004
    type := 0x000b
    data := []
    put := putSnac 0x0004 0x000b (channel2Head cookie sender ++
      [aimWritetlvchain (aimAddtlvtochain16 [] 0x0003 code).2]) }

/-- `struct aim_icbmparameters` without `maxchan`, which is read-only. -/
structure AimIcbmparameters where
  flags : UInt32
  maxmsglen : UInt16
  maxsenderwarn : UInt16
  maxrecverwarn : UInt16
  minmsginterval : UInt32
  deriving DecidableEq, Repr

def aimSeticbmparam (c : ConnPtr) (params : Option AimIcbmparameters) : Except Int Request :=
  needConn c <| needArg params fun params => .ok {
    datalen := 10 + 16
    family := 0x0004
    type := 0x0002
    data := []
    put := putSnac 0x0004 0x0002
      [aimbsPut16 0x0000, aimbsPut32 params.flags, aimbsPut16 params.maxmsglen,
        aimbsPut16 params.maxsenderwarn, aimbsPut16 params.maxrecverwarn,
        aimbsPut32 params.minmsginterval] }

/-! ## Searching and stored lists (`search.c`, `ssi.c`) -/

def aimUsersearchAddress (c : ConnPtr) (address : Option (List UInt8)) : Except Int Request :=
  needConn c <| needArg address fun address => .ok {
    datalen := 10 + strlen address
    family := 0x000a
    type := 0x0002
    data := cstr address ++ [0]
    put := putSnac 0x000a 0x0002 [aimbsPutraw address (strlen address)] }

def aimSsiReqdata (c : ConnPtr) (localstamp : Int) (localrev : UInt16) : Except Int Request :=
  needConn c <| .ok {
    datalen := 10 + 4 + 2
    family := 0x0013
    type := 0x0005
    data := []
    put := putSnac 0x0013 0x0005 [aimbsPut32 (UInt32.ofInt localstamp), aimbsPut16 localrev] }

/-! ## Service controls (`service.c`) -/

/-- The fields of `aim_module_t` that go into a frame. -/
structure ModuleVersion where
  family : UInt16
  version : UInt16
  toolid : UInt16
  toolversion : UInt16
  deriving DecidableEq, Repr

/-- `aim_conn_inside_t` -/
structure AimConnInside where
  groups : List UInt16
  rates : List UInt16
  deriving DecidableEq, Repr

/-- A request on channel 2 that goes through a list of the connection. -/
def serviceRequest (datalen : Nat) (subtype : UInt16) (puts : List (StateM AimBstream Nat)) :
    Request where
  datalen := datalen
  family := 0x0001
  type := subtype
  data := []
  put := putSnac 0x0001 subtype puts

/-- `aim_clientready`; `findmodule` is `aim__findmodulebygroup`. -/
def aimClientready (ins : Option AimConnInside) (findmodule : UInt16 → Option ModuleVersion) :
    Except Int Request :=
  needArg ins fun ins => .ok <| serviceRequest 1152 0x0002 <| ins.groups.flatMap fun group =>
    match findmodule group with
    | none => []
    | some mod =>
      [aimbsPut16 mod.family, aimbsPut16 mod.version, aimbsPut16 mod.toolid,
        aimbsPut16 mod.toolversion]

def aimSetversions (ins : Option AimConnInside) (findmodule : UInt16 → Option ModuleVersion) :
    Except Int Request :=
  needArg ins fun ins => .ok <| serviceRequest 1152 0x0017 <| ins.groups.flatMap fun group =>
    match findmodule group with
    | none => []
    | some mod => [aimbsPut16 mod.family, aimbsPut16 mod.version]

def aimRatesAddparam (ins : AimConnInside) : Request :=
  serviceRequest 512 0x0008 (ins.rates.map aimbsPut16)

def aimRatesDelparam (ins : AimConnInside) : Request :=
  serviceRequest 512 0x0009 (ins.rates.map aimbsPut16)

def aimSendpauseack (ins : AimConnInside) : Request :=
  serviceRequest 1024 0x000c (ins.groups.map aimbsPut16)

def aimSetextstatus (status : UInt32) : Request :=
  serviceRequest (10 + 8) 0x001e
    [aimWritetlvchain (aimAddtlvtochain32 [] 0x0006 (0x00030000 ||| status)).2]

/-- What `aim_sendmemblock` puts behind the length: `buf` has the `len` bytes the pointer is for. -/
def memblockHash (md5 : List UInt8 → Fin 16 → UInt8) (offset len : UInt32)
    (buf : Option (List UInt8)) (flag : UInt8) : List (StateM AimBstream Nat) :=
  match buf, decide (flag = 1 ∧ len = 0x10), decide (len > 0) with
  | some buf, true, _ => [aimbsPutraw buf 0x10]
  | some buf, false, true => [aimbsPutraw (List.ofFn (md5 (buf.take len.toNat))) 0x10]
  | _, _, _ =>
    if len = 0 then [aimbsPutraw (List.ofFn (md5 [])) 0x10]
    else if offset = 0x03ffffff ∧ len = 0x03ffffff then
      [aimbsPut32 0x44a95d26, aimbsPut32 0xd2490423, aimbsPut32 0x93b8821f, aimbsPut32 0x51c54b01]
    else if offset = 0x00001000 ∧ len = 0x00000000 then
      [aimbsPut32 0xd41d8cd9, aimbsPut32 0x8f00b204, aimbsPut32 0xe9800998, aimbsPut32 0xecf8427e]
    else []

def aimSendmemblock (md5 : List UInt8 → Fin 16 → UInt8) (c : ConnPtr) (offset len : UInt32)
    (buf : Option (List UInt8)) (flag : UInt8) : Except Int Request :=
  needConn c <| .ok <| serviceRequest (10 + 2 + 16) 0x0020
    (aimbsPut16 0x0010 :: memblockHash md5 offset len buf flag)

end Libfaim
