import Libfaim.Request.Header

/-!
# The header of every request

The family and the type of a SNAC are written down twice in each function, once for the cache and
once for the header of the frame. They agree in all functions but two (`RequestCall.makesHeaded`):
`aimAdminGetinfo` remembers another family, and `aimSetuserinterests` leaves out the id.
-/

namespace Libfaim

/-! ## Requests whose header is what is remembered -/

/-- The header of the frame has the family and the type that are remembered, and the id. -/
def Request.Headed (req : Request) : Prop :=
  ∀ snacid, SnacFirst req.family req.type snacid (req.put snacid)

/-- A function that makes such a request, if it makes one. -/
def MakesHeaded (make : Except Int Request) : Prop := ∀ req, make = .ok req → req.Headed

section Rules

theorem MakesHeaded.ok {req : Request} (h : req.Headed) : MakesHeaded (.ok req) := by
  intro req' heq
  rwa [← Except.ok.inj heq]

theorem MakesHeaded.error (ret : Int) : MakesHeaded (.error ret) := fun _ h => nomatch h

theorem MakesHeaded.ite {p : Prop} [Decidable p] {make make' : Except Int Request}
    (h : MakesHeaded make) (h' : MakesHeaded make') : MakesHeaded (if p then make else make') := by
  by_cases hp : p
  · rwa [if_pos hp]
  · rwa [if_neg hp]

theorem MakesHeaded.needConn {c : ConnPtr} {make : Except Int Request} (h : MakesHeaded make) :
    MakesHeaded (needConn c make) :=
  .ite (.error _) h

theorem MakesHeaded.needArg {α : Type} {a : Option α} {make : α → Except Int Request}
    (h : ∀ a, MakesHeaded (make a)) : MakesHeaded (needArg a make) := by
  cases a with
  | none => exact .error _
  | some a => exact h a

theorem MakesHeaded.needStr {s : Option (List UInt8)} {make : List UInt8 → Except Int Request}
    (h : ∀ s, MakesHeaded (make s)) : MakesHeaded (needStr s make) :=
  .needArg fun s => .ite (.error _) (h s)

/-- A request whose frame is filled in by puts behind the header. -/
theorem headed_putSnac {datalen : Nat} {family type : UInt16} {data : List UInt8}
    {puts : UInt32 → List (StateM AimBstream Nat)} (h : ∀ id, ∀ put ∈ puts id, Appends put) :
    Request.Headed ⟨datalen, family, type, data, fun id => putSnac family type (puts id) id⟩ :=
  fun id => snacFirst_putSnac (h id)

end Rules

section Bodies

variable {snacid : UInt32}

theorem appends_putFeatures (args : AimSendimextArgs) : Appends (putFeatures args) :=
  .ite ((appends_aimbsPut16 _).bind fun _ => appends_aimbsPutraw _ _)
    ((appends_aimbsPut16 _).bind fun _ => appends_aimbsPutraw _ _)

theorem appends_putSections (parts : List AimMpmsgSection) : Appends (putSections parts) := by
  induction parts with
  | nil => exact .pure ()
  | cons sec next ih =>
    exact (appends_aimbsPut16 _).bind fun _ => (appends_aimbsPut16 _).bind fun _ =>
      (appends_aimbsPut16 _).bind fun _ => (appends_aimbsPut16 _).bind fun _ =>
        (appends_aimbsPutraw _ _).bind fun _ => ih

theorem appends_putCharset (args : AimSendimextArgs) : Appends (putCharset args) :=
  .ite ((appends_aimbsPut16 _).bind fun _ => appends_aimbsPut16 _)
    ((appends_aimbsPut16 _).bind fun _ => appends_aimbsPut16 _)

theorem appends_putMsg (args : AimSendimextArgs) : Appends (putMsg args) :=
  (appends_aimbsPut16 _).bind fun _ => (appends_aimbsPut16 _).bind fun _ =>
    (appends_putCharset args).bind fun _ => (appends_aimbsPutraw _ _).bind fun _ => .pure ()

theorem appends_putMessageTlv (args : AimSendimextArgs) : Appends (putMessageTlv args) :=
  (appends_aimbsPut16 _).bind fun _ => (appends_aimbsPut16 _).bind fun _ =>
    (appends_aimbsPut8 _).bind fun _ => (appends_aimbsPut8 _).bind fun _ =>
      (appends_putFeatures args).bind fun _ =>
        .ite (appends_putSections _) (appends_putMsg args)

theorem appends_putNoval (type : UInt16) : Appends (putNoval type) :=
  (appends_aimbsPut16 _).bind fun _ => appends_aimbsPut16 _

theorem appends_putIcon (args : AimSendimextArgs) : Appends (putIcon args) :=
  (appends_aimbsPut16 _).bind fun _ => (appends_aimbsPut16 _).bind fun _ =>
    (appends_aimbsPut32 _).bind fun _ => (appends_aimbsPut16 _).bind fun _ =>
      (appends_aimbsPut16 _).bind fun _ => appends_aimbsPut32 _

theorem appends_putImflags (args : AimSendimextArgs) : Appends (putImflags args) :=
  (appends_putIf (appends_putNoval _)).bind fun _ =>
    (appends_putIf (appends_putNoval _)).bind fun _ =>
      (appends_putIf (appends_putNoval _)).bind fun _ =>
        (appends_putIf (appends_putIcon args)).bind fun _ => appends_putIf (appends_putNoval _)

theorem snacFirst_putImext (args : AimSendimextArgs) (rand : Nat → UInt8) :
    SnacFirst 0x0004 0x0006 snacid (putImext args snacid rand) := by
  have hhead : SnacFirst 0x0004 0x0006 snacid (putImhead args snacid rand) :=
    snacFirst_aimPutsnac.bind fun _ => (appends_putBytes _).bind fun _ =>
      (appends_aimbsPut16 _).bind fun _ => (appends_aimbsPut8 _).bind fun _ =>
        appends_aimbsPutraw _ _
  exact hhead.bind fun _ => (appends_putMessageTlv args).bind fun _ => appends_putImflags args

theorem snacFirst_putRendhead (sn ck : List UInt8) :
    SnacFirst 0x0004 0x0006 snacid (putRendhead sn snacid ck) :=
  snacFirst_aimPutsnac.bind fun _ => (appends_aimbsPutraw _ _).bind fun _ =>
    (appends_aimbsPut16 _).bind fun _ => (appends_aimbsPut8 _).bind fun _ =>
      appends_aimbsPutraw _ _

theorem appends_putRendblock (len : UInt16) (ck : List UInt8) (cap : UInt32) :
    Appends (putRendblock len ck cap) :=
  (appends_aimbsPut16 _).bind fun _ => (appends_aimbsPut16 _).bind fun _ =>
    (appends_aimbsPut16 _).bind fun _ => (appends_aimbsPutraw _ _).bind fun _ =>
      (appends_aimPutcap cap).bind fun _ => (appends_aimbsPut16 _).bind fun _ =>
        (appends_aimbsPut16 _).bind fun _ => (appends_aimbsPut16 _).bind fun _ =>
          (appends_aimbsPut16 _).bind fun _ => appends_aimbsPut16 _

theorem snacFirst_putIconmsg (args : AimSendIconArgs) (ck : List UInt8) :
    SnacFirst 0x0004 0x0006 snacid (putIconmsg args snacid ck) := by
  have hicon : Appends (putIcondata args) :=
    (appends_aimbsPut16 _).bind fun _ => (appends_aimbsPut16 _).bind fun _ =>
      (appends_aimbsPut16 _).bind fun _ => (appends_aimbsPut16 _).bind fun _ =>
        (appends_aimbsPut32 _).bind fun _ => (appends_aimbsPut32 _).bind fun _ =>
          (appends_aimbsPutraw _ _).bind fun _ => appends_aimbsPutraw _ _
  exact (snacFirst_putRendhead args.sn ck).bind fun _ => (appends_putRendblock _ _ _).bind fun _ =>
    hicon.bind fun _ => (appends_aimbsPut16 _).bind fun _ => appends_aimbsPut16 _

theorem appends_putRtfdata (args : AimSendrtfmsgArgs) : Appends (putRtfdata args) := by
  unfold putRtfdata
  repeat' refine Appends.bind ?_ fun _ => ?_
  all_goals simp [appends_aimPutcap]

theorem snacFirst_putRtfmsg (args : AimSendrtfmsgArgs) (ck : List UInt8) :
    SnacFirst 0x0004 0x0006 snacid (putRtfmsg args snacid ck) :=
  (snacFirst_putRendhead args.destsn ck).bind fun _ => (appends_putRendblock _ _ _).bind fun _ =>
    appends_putRtfdata args

theorem snacFirst_putChatmsg (flags : UInt16) (msg ckstr : List UInt8) :
    SnacFirst 0x000e 0x0005 snacid (putChatmsg flags msg snacid ckstr) := by
  have hhead : SnacFirst 0x000e 0x0005 snacid (putChathead snacid ckstr) :=
    snacFirst_aimPutsnac.bind fun _ => (appends_putBytes _).bind fun _ => appends_aimbsPut16 _
  exact hhead.bind fun _ => appends_aimWritetlvchain _

theorem snacFirst_putInvite (args : AimChatInviteArgs) (ckstr : List UInt8) :
    SnacFirst 0x0004 0x0006 snacid (putInvite args snacid ckstr) := by
  have hhead : SnacFirst 0x0004 0x0006 snacid (putInvitehead args.sn snacid ckstr) :=
    snacFirst_aimPutsnac.bind fun _ => (appends_putBytes _).bind fun _ =>
      (appends_aimbsPut16 _).bind fun _ => (appends_aimbsPut8 _).bind fun _ =>
        appends_aimbsPutraw _ _
  exact hhead.bind fun _ => appends_aimWritetlvchain _

end Bodies

/-! ## All functions -/

/-- The calls of the interface that make a request, with their arguments. `aim_request_login` and
`aim_send_login` are not among them. -/
inductive RequestCall where
  | adminChangepasswd (newpw curpw : List UInt8)
  | adminGetinfo (info : UInt16)
  | adminSetemail (newemail : List UInt8)
  | adminSetnick (newnick : List UInt8)
  | bosChangevisibility (changetype : Int) (denylist : Option (List UInt8))
  | addBuddy (sn : Option (List UInt8))
  | removeBuddy (sn : Option (List UInt8))
  | bosSetbuddylist (buddyList : Option (List UInt8))
  | sendbuddyoncoming (info : Option AimUserinfo)
  | sendbuddyoffgoing (sn : Option (List UInt8))
  | group0002Type000b (sn : Option (List UInt8))
  | getinfo (sn : Option (List UInt8)) (infotype : UInt16)
  | bosSetprofile (profile awaymsg : Option (List UInt8)) (caps : UInt32)
  | setdirectoryinfo (info : DirectoryInfo) (privacy : UInt16)
  | setuserinterests (interests : Fin 5 → Option (List UInt8)) (privacy : UInt16)
  | sendWarning (destsn : List UInt8) (flags : UInt32)
  | genericreqNSnacid (family subtype : UInt16)
  | genericreqL (family subtype : UInt16) (longdata : UInt32)
  | genericreqS (family subtype : UInt16) (shortdata : UInt16)
  | chatnavReqrights
  | chatnavCreateroom (name : List UInt8) (exchange : UInt16)
  | chatJoin (exchange : UInt16) (roomname : Option (List UInt8)) (instance_ : UInt16)
  | chatSendIm (rand : Nat → UInt8) (flags : UInt16) (msg : Option (List UInt8)) (msglen : Int)
  | chatInvite (rand : Nat → UInt8) (args : AimChatInviteArgs)
  | icqReqofflinemsgs (sn : List UInt8)
  | icqAckofflinemsgs (sn : List UInt8)
  | icqSendxmlreq (sn : List UInt8) (xml : Option (List UInt8))
  | icqGetsimpleinfo (sn : List UInt8) (uin : Option (List UInt8))
  | sendImExt (rand : Nat → UInt8) (args : AimSendimextArgs)
  | sendIcon (rand : Nat → UInt8) (args : AimSendIconArgs)
  | sendRtfmsg (rand : Nat → UInt8) (args : AimSendrtfmsgArgs)
  | requestDirectim (rand : Nat → UInt8) (destsn ip : List UInt8) (port : UInt16)
  | requestSendfile (rand : Nat → UInt8) (sn filename : Option (List UInt8)) (numfiles : UInt16)
      (totsize : UInt32) (ip : List UInt8) (port : UInt16)
  | denytransfer (sender cookie : List UInt8) (code : UInt16)
  | seticbmparam (params : Option AimIcbmparameters)
  | usersearchAddress (address : Option (List UInt8))
  | ssiReqdata (localstamp : Int) (localrev : UInt16)
  | clientready (ins : Option AimConnInside) (findmodule : UInt16 → Option ModuleVersion)
  | setversions (ins : Option AimConnInside) (findmodule : UInt16 → Option ModuleVersion)
  | ratesAddparam (ins : AimConnInside)
  | ratesDelparam (ins : AimConnInside)
  | sendpauseack (ins : AimConnInside)
  | setextstatus (status : UInt32)
  | sendmemblock (md5 : List UInt8 → Fin 16 → UInt8) (offset len : UInt32)
      (buf : Option (List UInt8)) (flag : UInt8)

namespace RequestCall

/-- The request a call makes on the connection `c`, or the value it returns instead. -/
def request (sess : AimSession) (c : ConnPtr) : RequestCall → Except Int Request
  | adminChangepasswd newpw curpw => .ok (aimAdminChangepasswd newpw curpw)
  | adminGetinfo info => .ok (aimAdminGetinfo info)
  | adminSetemail newemail => .ok (aimAdminSetemail newemail)
  | adminSetnick newnick => .ok (aimAdminSetnick newnick)
  | bosChangevisibility changetype denylist => aimBosChangevisibility changetype denylist
  | addBuddy sn => aimAddBuddy sn
  | removeBuddy sn => aimRemoveBuddy sn
  | bosSetbuddylist buddyList => aimBosSetbuddylist buddyList
  | sendbuddyoncoming info => aimSendbuddyoncoming c info
  | sendbuddyoffgoing sn => aimSendbuddyoffgoing c sn
  | group0002Type000b sn => aim0002000b c sn
  | getinfo sn infotype => aimGetinfo c sn infotype
  | bosSetprofile profile awaymsg caps => .ok (aimBosSetprofile profile awaymsg caps)
  | setdirectoryinfo info privacy => .ok (aimSetdirectoryinfo info privacy)
  | setuserinterests interests privacy => .ok (aimSetuserinterests interests privacy)
  | sendWarning destsn flags => .ok (aimSendWarning destsn flags)
  | genericreqNSnacid family subtype => .ok (aimGenericreqNSnacid family subtype)
  | genericreqL family subtype longdata => .ok (aimGenericreqL family subtype longdata)
  | genericreqS family subtype shortdata => .ok (aimGenericreqS family subtype shortdata)
  | chatnavReqrights => .ok aimChatnavReqrights
  | chatnavCreateroom name exchange => .ok (aimChatnavCreateroom name exchange)
  | chatJoin exchange roomname instance_ => aimChatJoin c exchange roomname instance_
  | chatSendIm rand flags msg msglen => chatSendImRequest c rand flags msg msglen
  | chatInvite rand args => chatInviteRequest sess c rand args
  | icqReqofflinemsgs sn => aimIcqReqofflinemsgs sn c
  | icqAckofflinemsgs sn => aimIcqAckofflinemsgs sn c
  | icqSendxmlreq sn xml => aimIcqSendxmlreq sn c xml
  | icqGetsimpleinfo sn uin => aimIcqGetsimpleinfo sn c uin
  | sendImExt rand args => sendImextRequest c rand args
  | sendIcon rand args => sendIconRequest c rand args
  | sendRtfmsg rand args => sendRtfmsgRequest c rand args
  | requestDirectim rand destsn ip port => aimRequestDirectim c rand destsn ip port
  | requestSendfile rand sn filename numfiles totsize ip port =>
    aimRequestSendfile c rand sn filename numfiles totsize ip port
  | denytransfer sender cookie code => aimDenytransfer c sender cookie code
  | seticbmparam params => aimSeticbmparam c params
  | usersearchAddress address => aimUsersearchAddress c address
  | ssiReqdata localstamp localrev => aimSsiReqdata c localstamp localrev
  | clientready ins findmodule => aimClientready ins findmodule
  | setversions ins findmodule => aimSetversions ins findmodule
  | ratesAddparam ins => .ok (aimRatesAddparam ins)
  | ratesDelparam ins => .ok (aimRatesDelparam ins)
  | sendpauseack ins => .ok (aimSendpauseack ins)
  | setextstatus status => .ok (aimSetextstatus status)
  | sendmemblock md5 offset len buf flag => aimSendmemblock md5 c offset len buf flag

/-- The two functions whose header is not what they remember. -/
def Mismatched : RequestCall → Prop
  | adminGetinfo _ => True
  | setuserinterests _ _ => True
  | _ => False

theorem makesHeaded {call : RequestCall} (hcall : ¬ call.Mismatched) (sess : AimSession)
    (c : ConnPtr) : MakesHeaded (call.request sess c) := by
  have hbuddy (subtype : UInt16) (sn : Option (List UInt8)) :
      MakesHeaded (buddyRequest subtype sn) :=
    .needStr fun sn => .ok <| headed_putSnac fun _ => appends_putStr8 sn
  have hsn (family subtype : UInt16) (sn : Option (List UInt8)) :
      MakesHeaded (snRequest family subtype c sn) :=
    .needConn <| .needArg fun sn => .ok <| headed_putSnac fun _ => appends_putStr8 sn
  have htlv (family subtype : UInt16) (tl : List AimTlv) :
      MakesHeaded (.ok (tlvRequest family subtype tl)) :=
    .ok <| headed_putSnac fun _ => by simp
  have hgeneric (family subtype : UInt16) (extra : Nat) (puts : List (StateM AimBstream Nat))
      (h : ∀ put ∈ puts, Appends put) :
      MakesHeaded (.ok (genericRequest family subtype extra puts)) :=
    .ok <| headed_putSnac fun _ => h
  have hicq (sn : List UInt8) (bslen : Nat) (cmd : UInt16) (extra : List (StateM AimBstream Nat))
      (h : ∀ put ∈ extra, Appends put) : MakesHeaded (.ok (icqRequest sn bslen cmd extra)) :=
    .ok <| headed_putSnac fun _ => by simpa using h
  have hservice (datalen : Nat) (subtype : UInt16) (puts : List (StateM AimBstream Nat))
      (h : ∀ put ∈ puts, Appends put) : MakesHeaded (.ok (serviceRequest datalen subtype puts)) :=
    .ok <| headed_putSnac fun _ => h
  cases call with
  | adminChangepasswd newpw curpw => exact .ok <| headed_putSnac fun _ => by simp
  | adminGetinfo info => exact absurd trivial hcall
  | adminSetemail newemail => exact .ok <| headed_putSnac fun _ => by simp
  | adminSetnick newnick => exact .ok <| headed_putSnac fun _ => by simp
  | bosChangevisibility changetype denylist =>
    exact .needArg fun list => .needArg fun subtype => .ok <| headed_putSnac fun _ put hput =>
      (List.mem_flatMap.mp hput).elim fun _ h => appends_putStr8 _ put h.2
  | addBuddy sn => exact hbuddy 0x0004 sn
  | removeBuddy sn => exact hbuddy 0x0005 sn
  | bosSetbuddylist buddyList =>
    exact .needArg fun list => .ok <| headed_putSnac fun _ put hput =>
      (List.mem_flatMap.mp hput).elim fun _ h => appends_putStr8 _ put h.2
  | sendbuddyoncoming info =>
    exact .needConn <| .needArg fun info => .ok <| headed_putSnac fun _ => by
      simp [appends_aimPutuserinfo]
  | sendbuddyoffgoing sn => exact hsn 0x0003 0x000c sn
  | group0002Type000b sn => exact hsn 0x0002 0x000b sn
  | getinfo sn infotype =>
    exact .needConn <| .needArg fun sn => .ok <| headed_putSnac fun _ => by simp [putStr8]
  | bosSetprofile profile awaymsg caps => exact htlv _ _ _
  | setdirectoryinfo info privacy => exact htlv _ _ _
  | setuserinterests interests privacy => exact absurd trivial hcall
  | sendWarning destsn flags => exact .ok <| headed_putSnac fun _ => by simp [putStr8]
  | genericreqNSnacid family subtype => exact hgeneric _ _ _ _ (by simp)
  | genericreqL family subtype longdata => exact hgeneric _ _ _ _ (by simp)
  | genericreqS family subtype shortdata => exact hgeneric _ _ _ _ (by simp)
  | chatnavReqrights => exact hgeneric _ _ _ _ (by simp)
  | chatnavCreateroom name exchange =>
    exact .ok <| headed_putSnac fun _ => by simp [createroomFields, putStr8]
  | chatJoin exchange roomname instance_ =>
    exact .needConn <| .needStr fun roomname => .ok <| headed_putSnac fun _ => by simp
  | chatSendIm rand flags msg msglen =>
    cases msg with
    | none => exact .error 0
    | some msg => exact .ite (.error 0) <| .ok fun _ => snacFirst_putChatmsg flags msg _
  | chatInvite rand args =>
    exact .ite (.error _) <| .ite (.error _) <| .ok fun _ => snacFirst_putInvite args _
  | icqReqofflinemsgs sn => exact .needConn <| hicq _ _ _ _ (by simp)
  | icqAckofflinemsgs sn => exact .needConn <| hicq _ _ _ _ (by simp)
  | icqSendxmlreq sn xml => exact .needStr fun xml => .needConn <| hicq _ _ _ _ (by simp)
  | icqGetsimpleinfo sn uin =>
    exact .needArg fun uin => .ite (.error _) <| .needConn <| hicq _ _ _ _ (by simp)
  | sendImExt rand args =>
    refine .ite (.error _) ?_
    cases checkImext args with
    | error ret => exact .error ret
    | ok => exact .ok fun _ => snacFirst_putImext args rand
  | sendIcon rand args =>
    exact .ite (.error _) <| .ite (.error _) <| .ok fun _ => snacFirst_putIconmsg args _
  | sendRtfmsg rand args => exact .ite (.error _) <| .ok fun _ => snacFirst_putRtfmsg args _
  | requestDirectim rand destsn ip port =>
    exact .needConn <| .ok <| headed_putSnac fun _ => by simp [channel2Head, putStr8]
  | requestSendfile rand sn filename numfiles totsize ip port =>
    exact .needConn <| .needArg fun sn => .needArg fun filename => .ok <| headed_putSnac fun _ => by
      simp [channel2Head, putStr8, sendfileFields, appends_aimPutcap]
  | denytransfer sender cookie code =>
    exact .needConn <| .ok <| headed_putSnac fun _ => by simp [channel2Head, putStr8]
  | seticbmparam params =>
    exact .needConn <| .needArg fun params => .ok <| headed_putSnac fun _ => by simp
  | usersearchAddress address =>
    exact .needConn <| .needArg fun address => .ok <| headed_putSnac fun _ => by simp
  | ssiReqdata localstamp localrev => exact .needConn <| .ok <| headed_putSnac fun _ => by simp
  | clientready ins findmodule =>
    exact .needArg fun ins => hservice _ _ _ (appends_versions (by simp) findmodule _)
  | setversions ins findmodule =>
    exact .needArg fun ins => hservice _ _ _ (appends_versions (by simp) findmodule _)
  | ratesAddparam ins => exact hservice _ _ _ (by simp)
  | ratesDelparam ins => exact hservice _ _ _ (by simp)
  | sendpauseack ins => exact hservice _ _ _ (by simp)
  | setextstatus status => exact hservice _ _ _ (by simp)
  | sendmemblock md5 offset len buf flag =>
    refine .needConn <| hservice _ _ _ ?_
    have hhash : ∀ put ∈ memblockHash md5 offset len buf flag, Appends put := by
      unfold memblockHash
      split
      · simp
      · simp
      · split_ifs <;> simp
    simpa using hhash

end RequestCall

end Libfaim
