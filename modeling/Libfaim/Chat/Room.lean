import Libfaim.Chat.Invite
import Libfaim.Tlv.Getters
import Libfaim.Userinfo.Progress

/-!
# The users of a chat room (`chat.c`), and missed calls (`im.c`)

The occupants of a room come in one TLV of the room's description and their number in another one
(`infoupdate`); users who come or go are listed up to the end of the frame (`userlistchange`), and
so are the calls the client has missed (`missedcall`). The client is given what was listed, in its
order and each user with the TLVs of his own block (`userlists_taken`). It is given as many
occupants as the number says: if fewer are listed, the others are blank.
-/

namespace Libfaim

/-! ## Blocks -/

/-- A complete user info block: the name fits, and capabilities come in whole blocks. -/
structure UserBlock where
  sn : List UInt8
  warnlevel : UInt16
  tlvs : List AimTlv
  sn_le : sn.length ≤ maxsnlen
  count_lt : tlvs.length < 65536
  wholeCaps : ∀ tlv ∈ tlvs, WholeCaps tlv

namespace UserBlock

def encode (b : UserBlock) : List UInt8 := userinfoBlock b.sn b.warnlevel b.tlvs

/-- The record has what the block says. -/
def Says (b : UserBlock) (info : AimUserinfo) : Prop :=
  Framed b.tlvs (userinfoStart b.sn b.warnlevel) info

theorem encode_ne_nil (b : UserBlock) : b.encode ≠ [] := List.cons_ne_nil _ _

theorem extract (b : UserBlock) {bs : AimBstream} {r : List UInt8} (h : bs.rest = b.encode ++ r) :
    ∃ info bs', aimExtractuserinfo bs = some (info, bs') ∧ bs'.rest = r ∧ b.Says info := by
  obtain ⟨info, hextract, hframed⟩ := aimExtractuserinfo_framed b.sn_le b.count_lt b.wholeCaps h
  exact ⟨info, _, hextract, bs.rest_skip_of_append h, hframed⟩

end UserBlock

theorem aimBstreamEmpty_ne_zero {bs : AimBstream} {v r : List UInt8} (hv : v ≠ [])
    (h : bs.rest = v ++ r) : aimBstreamEmpty bs ≠ 0 := by
  rw [← bs.length_rest, h]
  exact Nat.ne_of_gt (List.length_pos_iff.mpr (List.append_ne_nil_of_left_ne_nil hv r))

/-- As many passes as there are bytes, and one more, are enough for all items. -/
theorem length_lt_of_flatMap {α : Type} {encode : α → List UInt8} (hne : ∀ x, encode x ≠ [])
    (l : List α) : l.length < (l.flatMap encode).length + 1 := by
  induction l with
  | nil => exact Nat.one_pos
  | cons x l ih =>
    have hpos := List.length_pos_iff.mpr (hne x)
    rw [List.flatMap_cons, List.length_append, List.length_cons]
    omega

/-! ## Changes of a room's users -/

/-- `userlistchange`, up to the callback. -/
def userlistchange (bs : AimBstream) : Option (List AimUserinfo) :=
  (Loop.run userlistchangePass (aimBstreamEmpty bs + 1) (bs, [])).join

theorem userlistchangePass_block (b : UserBlock) {bs : AimBstream} {infos : List AimUserinfo}
    {r : List UInt8} (h : bs.rest = b.encode ++ r) :
    ∃ info bs', userlistchangePass (bs, infos) = .again (bs', infos ++ [info]) ∧ bs'.rest = r ∧
      b.Says info := by
  obtain ⟨info, bs', hextract, hrest, hheard⟩ := b.extract h
  have hmore := aimBstreamEmpty_ne_zero b.encode_ne_nil h
  refine ⟨info, bs', ?_, hrest, hheard⟩
  unfold userlistchangePass
  dsimp only
  rw [if_neg hmore, hextract]

theorem userlistchange_taken {l : List UserBlock} {bs : AimBstream}
    (h : bs.rest = l.flatMap UserBlock.encode) :
    ∃ infos, userlistchange bs = some infos ∧ List.Forall₂ UserBlock.Says l infos := by
  have hlen := length_lt_of_flatMap UserBlock.encode_ne_nil l
  rw [← h, bs.length_rest] at hlen
  have hstep : ∀ b ∈ l, ∀ taken (s : AimBstream × List AimUserinfo) r,
      List.Forall₂ UserBlock.Says taken s.2 → s.1.rest = b.encode ++ r →
      ∃ t, userlistchangePass s = .again t ∧ t.1.rest = r ∧
        List.Forall₂ UserBlock.Says (taken ++ [b]) t.2 := by
    rintro b _ taken ⟨bs, infos⟩ r hheard hrest
    obtain ⟨info, bs', hagain, hrest', hinfo⟩ := userlistchangePass_block b hrest
    exact ⟨_, hagain, hrest', List.rel_append hheard (.cons hinfo .nil)⟩
  have hleave : ∀ s : AimBstream × List AimUserinfo, s.1.rest = [] →
      userlistchangePass s = .leave (some s.2) := by
    rintro ⟨bs, infos⟩ hrest
    exact if_pos (by rw [← bs.length_rest, hrest, List.length_nil])
  obtain ⟨t, hrun, hheard⟩ := Loop.run_items_inv (fun s : AimBstream × List AimUserinfo => s.1.rest)
    UserBlock.encode hstep hleave (s := (bs, [])) .nil h hlen
  refine ⟨t.2, ?_, hheard⟩
  unfold userlistchange
  rw [hrun]
  rfl

/-! ## Missed calls -/

/-- `missedcall`, with its calls of the client. -/
def missedcall (userfunc : Option (MissedcallArgs → Int)) (bs : AimBstream) :
    Option (List MissedcallArgs × Int) :=
  (Loop.run (missedcallPass userfunc) (aimBstreamEmpty bs + 1) (bs, [], 0)).join

/-- An entry of the list of missed calls. -/
structure MissedBlock where
  channel : UInt16
  user : UserBlock
  nummissed : UInt16
  reason : UInt16

namespace MissedBlock

def encode (b : MissedBlock) : List UInt8 :=
  aimutilPut16 b.channel ++ (b.user.encode ++ (aimutilPut16 b.nummissed ++ aimutilPut16 b.reason))

structure Says (b : MissedBlock) (args : MissedcallArgs) : Prop where
  channel : args.channel = b.channel
  userinfo : b.user.Says args.userinfo
  nummissed : args.nummissed = b.nummissed
  reason : args.reason = b.reason

theorem encode_ne_nil (b : MissedBlock) : b.encode ≠ [] := by
  have h : 2 ≤ b.encode.length := by
    rw [encode, List.length_append, aimutilPut16_length]
    exact Nat.le_add_right _ _
  exact List.ne_nil_of_length_pos (Nat.lt_of_lt_of_le Nat.two_pos h)

theorem args (b : MissedBlock) {bs : AimBstream} {r : List UInt8} (h : bs.rest = b.encode ++ r) :
    ∃ args bs', missedcallArgs bs = some (args, bs') ∧ bs'.rest = r ∧ b.Says args := by
  unfold encode at h
  simp only [List.append_assoc] at h
  have hchannel := reads_aimbsGet16 b.channel _ _ h
  obtain ⟨info, bs', hextract, hrest, hheard⟩ := b.user.extract (bs.rest_skip_of_append h)
  have hnummissed := reads_aimbsGet16 b.nummissed _ _ hrest
  have hrest' := bs'.rest_skip_of_append hrest
  have hreason := reads_aimbsGet16 b.reason _ _ hrest'
  refine ⟨⟨b.channel, info, b.nummissed, b.reason⟩, _, ?_,
    AimBstream.rest_skip_of_append _ hrest', ⟨rfl, hheard, rfl, rfl⟩⟩
  unfold missedcallArgs
  rw [stateT_lift_bind, hchannel, stateT_bind hextract, stateT_lift_bind, hnummissed,
    stateT_lift_bind, hreason]
  rfl

end MissedBlock

/-- The calls of the client are one for each entry; the last one decides what is returned. -/
theorem missedcall_taken {l : List MissedBlock} (f : MissedcallArgs → Int) {bs : AimBstream}
    (h : bs.rest = l.flatMap MissedBlock.encode) :
    ∃ calls, missedcall (some f) bs = some (calls, (calls.getLast?.map f).getD 0) ∧
      List.Forall₂ MissedBlock.Says l calls := by
  have hlen := length_lt_of_flatMap MissedBlock.encode_ne_nil l
  rw [← h, bs.length_rest] at hlen
  have hstep : ∀ b ∈ l, ∀ taken (s : AimBstream × List MissedcallArgs × Int) r,
      List.Forall₂ MissedBlock.Says taken s.2.1 ∧ s.2.2 = (s.2.1.getLast?.map f).getD 0 →
      s.1.rest = b.encode ++ r → ∃ t, missedcallPass (some f) s = .again t ∧ t.1.rest = r ∧
        List.Forall₂ MissedBlock.Says (taken ++ [b]) t.2.1 ∧
          t.2.2 = (t.2.1.getLast?.map f).getD 0 := by
    rintro b _ taken ⟨bs, calls, ret⟩ r ⟨hheard, -⟩ hrest
    obtain ⟨args, bs', hargs, hrest', hb⟩ := b.args hrest
    have hmore := aimBstreamEmpty_ne_zero b.encode_ne_nil hrest
    refine ⟨(bs', calls ++ [args], f args), ?_, hrest', List.rel_append hheard (.cons hb .nil), ?_⟩
    · unfold missedcallPass
      dsimp only
      rw [if_neg hmore, hargs]
    · simp
  have hleave : ∀ s : AimBstream × List MissedcallArgs × Int, s.1.rest = [] →
      missedcallPass (some f) s = .leave (some s.2) := by
    rintro ⟨bs, calls, ret⟩ hrest
    exact if_pos (by rw [← bs.length_rest, hrest, List.length_nil])
  obtain ⟨⟨bs', calls, ret⟩, hrun, hheard, hret⟩ := Loop.run_items_inv
    (fun s : AimBstream × List MissedcallArgs × Int => s.1.rest) MissedBlock.encode hstep hleave
    (s := (bs, [], 0)) ⟨.nil, rfl⟩ h hlen
  refine ⟨calls, ?_, hheard⟩
  unfold missedcall
  rw [hrun]
  exact congrArg (fun ret => some (calls, ret)) hret

/-! ## The description of a room -/

/-- What the callback for a room's description is given. -/
structure ChatInfoupdateArgs where
  roominfo : AimChatRoominfo
  roomname : Option (List UInt8)
  usercount : UInt16
  userinfo : Option (List AimUserinfo)
  roomdesc : Option (List UInt8)
  flags : UInt16
  creationtime : UInt32
  maxmsglen : UInt16
  unknownD2 : UInt16
  unknownD5 : UInt8
  maxvisiblemsglen : UInt16

/-- The loop of `infoupdate` over the occupants. -/
def infoupdateOccupants : Nat → StateT AimBstream Option (List AimUserinfo)
  | 0 => return []
  | usercount + 1 => do
    let userinfo ← aimExtractuserinfo
    let next ← infoupdateOccupants usercount
    return userinfo :: next

/-- The occupants, or a null pointer if there is no list of them. -/
def infoupdateUserinfo (tlvlist : List AimTlv) (usercount : UInt16) :
    Option (Option (List AimUserinfo)) :=
  match aimGettlv tlvlist 0x0073 1 with
  | none => some none
  | some tmptlv =>
    (infoupdateOccupants usercount.toNat
      (aimBstreamInit tmptlv.value tmptlv.length.toNat)).map fun (userinfo, _) => some userinfo

/-- What `infoupdate` makes of the TLVs. There is no result where a getter reads behind a value. -/
def infoupdateArgs (roominfo : AimChatRoominfo) (tlvlist : List AimTlv) :
    Option ChatInfoupdateArgs := do
  let roomname := ifTlvStr tlvlist 0x006a
  let usercount ← ifTlv tlvlist 0x006f 0 aimGettlv16Inside
  let userinfo ← infoupdateUserinfo tlvlist usercount
  let flags ← ifTlv tlvlist 0x00c9 0 aimGettlv16Inside
  let creationtime ← ifTlv tlvlist 0x00ca 0 aimGettlv32
  let maxmsglen ← ifTlv tlvlist 0x00d1 0 aimGettlv16Inside
  let unknownD2 ← ifTlv tlvlist 0x00d2 0 aimGettlv16Inside
  let roomdesc := ifTlvStr tlvlist 0x00d3
  let unknownD5 ← ifTlv tlvlist 0x00d5 0 aimGettlv8
  let maxvisiblemsglen ← ifTlv tlvlist 0x00da 0 aimGettlv16Inside
  return { roominfo, roomname, usercount, userinfo, roomdesc, flags, creationtime, maxmsglen,
           unknownD2, unknownD5, maxvisiblemsglen }

/-- `infoupdate`, up to the callback; other levels of detail are refused. -/
def infoupdate : StateT AimBstream Option (Option ChatInfoupdateArgs) := do
  let roominfo ← aimChatReadroominfo
  let detaillevel ← aimbsGet8
  if detaillevel ≠ 0x02 then return none
  else
    let _tlvcount ← aimbsGet16
    let tlvlist ← aimReadtlvchain
    let args ← StateT.lift (infoupdateArgs roominfo tlvlist)
    return some args

/-- A stream that is at its end has a blank record. -/
theorem aimExtractuserinfo_nil {bs : AimBstream} (h : bs.rest = []) :
    aimExtractuserinfo bs = some (AimUserinfo.zero, bs) := by
  have hempty : aimBstreamEmpty bs = 0 := by rw [← bs.length_rest, h, List.length_nil]
  have hget8 : aimbsGet8 bs = (0, bs) := if_pos (by omega)
  have hget16 : aimbsGet16 bs = (0, bs) := if_pos (by omega)
  have hraw : aimbsGetrawbuf (0 : UInt8).toNat bs = ([], bs) := by
    rw [UInt8.toNat_zero, aimbsGetrawbuf, if_neg (Nat.not_lt_zero _), List.take_zero,
      AimBstream.skip_zero]
  unfold aimExtractuserinfo
  rw [stateT_lift_bind, hget8, stateT_lift_bind, hraw, stateT_lift_bind, hget16,
    stateT_lift_bind, hget16]
  rfl

/-- As many records as the number says: those that are listed, and blank ones. -/
theorem infoupdateOccupants_taken (usercount : Nat) {l : List UserBlock} {bs : AimBstream}
    (h : bs.rest = l.flatMap UserBlock.encode) :
    ∃ listed bs', infoupdateOccupants usercount bs =
        some (listed ++ List.replicate (usercount - l.length) AimUserinfo.zero, bs') ∧
      List.Forall₂ UserBlock.Says (l.take usercount) listed := by
  induction usercount generalizing l bs with
  | zero => exact ⟨[], bs, by rw [Nat.zero_sub]; rfl, by rw [List.take_zero]; exact .nil⟩
  | succ n ih =>
    unfold infoupdateOccupants
    cases l with
    | nil =>
      obtain ⟨listed, bs', hrun, hheard⟩ := ih h
      rw [List.take_nil] at hheard
      cases hheard
      refine ⟨[], bs', ?_, .nil⟩
      rw [stateT_bind (aimExtractuserinfo_nil h), stateT_bind hrun]
      rfl
    | cons b l =>
      rw [List.flatMap_cons] at h
      obtain ⟨info, behind, hextract, hrest, hinfo⟩ := b.extract h
      obtain ⟨listed, bs', hrun, hheard⟩ := ih hrest
      refine ⟨info :: listed, bs', ?_, .cons hinfo hheard⟩
      rw [stateT_bind hextract, stateT_bind hrun, List.length_cons, Nat.add_sub_add_right]
      rfl

/-- The numbers of the description lie inside of their TLVs. -/
structure RoomCovered (tlvlist : List AimTlv) : Prop where
  usercount : Covers tlvlist 0x006f 1 2
  flags : Covers tlvlist 0x00c9 1 2
  creationtime : Covers tlvlist 0x00ca 1 4
  maxmsglen : Covers tlvlist 0x00d1 1 2
  unknownD2 : Covers tlvlist 0x00d2 1 2
  unknownD5 : Covers tlvlist 0x00d5 1 1
  maxvisiblemsglen : Covers tlvlist 0x00da 1 2

theorem infoupdateArgs_taken {roominfo : AimChatRoominfo} {tlvlist : List AimTlv}
    {usercount : UInt16} {userinfo : Option (List AimUserinfo)} (hcovered : RoomCovered tlvlist)
    (hcount : ifTlv tlvlist 0x006f 0 aimGettlv16Inside = some usercount)
    (hinfo : infoupdateUserinfo tlvlist usercount = some userinfo) :
    ∃ args, infoupdateArgs roominfo tlvlist = some args ∧ args.roominfo = roominfo ∧
      args.usercount = usercount ∧ args.userinfo = userinfo := by
  have h16 (t : UInt16) (h : Covers tlvlist t 1 2) :
      ∃ x, ifTlv tlvlist t 0 aimGettlv16Inside = some x := ifTlv_of_covers aimutilGet16 0 0 h
  have h32 : ∃ x, ifTlv tlvlist 0x00ca 0 aimGettlv32 = some x :=
    ifTlv_of_covers aimutilGet32 0 0 hcovered.creationtime
  have h8 : ∃ x, ifTlv tlvlist 0x00d5 0 aimGettlv8 = some x :=
    ifTlv_of_covers aimutilGet8 0 0 hcovered.unknownD5
  obtain ⟨flags, hflags⟩ := h16 0x00c9 hcovered.flags
  obtain ⟨creationtime, hcreation⟩ := h32
  obtain ⟨maxmsglen, hmax⟩ := h16 0x00d1 hcovered.maxmsglen
  obtain ⟨unknownD2, hd2⟩ := h16 0x00d2 hcovered.unknownD2
  obtain ⟨unknownD5, hd5⟩ := h8
  obtain ⟨visible, hvisible⟩ := h16 0x00da hcovered.maxvisiblemsglen
  unfold infoupdateArgs
  simp only [hcount, hinfo, hflags, hcreation, hmax, hd2, hd5, hvisible, Option.bind_eq_bind,
    Option.bind_some]
  exact ⟨_, rfl, rfl, rfl, rfl⟩

section Taken

variable {exchange instance_ tlvcount : UInt16} {roomname : List UInt8} {tlvs : List AimTlv}
  {count occupants : AimTlv} {bs : AimBstream}

/-- The description of a room with its occupants, where both TLVs that are about them are there: the
one with their number (0x006f) and the one with the list (0x0073). -/
theorem infoupdate_taken {users : List UserBlock} (hname : strlen roomname ≤ 255)
    (hcovered : RoomCovered tlvs.reverse) (hcount : aimGettlv tlvs.reverse 0x006f 1 = some count)
    (hoccupants : aimGettlv tlvs.reverse 0x0073 1 = some occupants)
    (husers : occupants.value = users.flatMap UserBlock.encode)
    (h : bs.rest = chatroomData exchange roomname instance_ ++ (aimutilPut8 0x02 ++
      (aimutilPut16 tlvcount ++ encodeTlvchain tlvs))) :
    ∃ args bs' listed, infoupdate bs = some (some args, bs') ∧
      args.roominfo = ⟨exchange, some (cstr roomname), instance_⟩ ∧
      args.usercount = aimutilGet16 count.value ∧
      args.userinfo = some (listed ++
        List.replicate (args.usercount.toNat - users.length) AimUserinfo.zero) ∧
      List.Forall₂ UserBlock.Says (users.take args.usercount.toNat) listed := by
  have hroom := reads_aimChatReadroominfo hname _ _ h
  have hrest1 := bs.rest_skip_of_append h
  have hlevel := reads_aimbsGet8 0x02 _ _ hrest1
  have hrest2 := AimBstream.rest_skip_of_append _ hrest1
  have htlvcount := reads_aimbsGet16 tlvcount _ _ hrest2
  have hrest3 := AimBstream.rest_skip_of_append _ hrest2
  have hchain := aimReadtlvchain_encode tlvs hrest3
  have husercount : ifTlv tlvs.reverse 0x006f 0 aimGettlv16Inside =
      some (aimutilGet16 count.value) := by
    have hlen := hcovered.usercount count (by rw [← aimGettlv_eq_nthTlv, hcount])
    unfold ifTlv aimGettlv16Inside aimGettlvNum
    rw [hcount, Option.isSome_some, if_pos rfl]
    dsimp only
    rw [valueBytes_of_le hlen, Option.map_some, aimutilGet16, List.take_take, Nat.min_self,
      aimutilGet16]
  have hoccrest : AimBstream.rest ⟨occupants.value, 0⟩ = users.flatMap UserBlock.encode := husers
  obtain ⟨listed, occbs, hlisted, hheard⟩ :=
    infoupdateOccupants_taken (aimutilGet16 count.value).toNat hoccrest
  have huserinfo : infoupdateUserinfo tlvs.reverse (aimutilGet16 count.value) =
      some (some (listed ++ List.replicate
        ((aimutilGet16 count.value).toNat - users.length) AimUserinfo.zero)) := by
    unfold infoupdateUserinfo
    rw [hoccupants]
    dsimp only
    rw [aimBstreamInit_value, hlisted, Option.map_some]
  obtain ⟨args, hargs, hroominfo, hargscount, hargsinfo⟩ :=
    @infoupdateArgs_taken ⟨exchange, some (cstr roomname), instance_⟩ _ _ _ hcovered husercount
      huserinfo
  have hrun : ∃ bs', infoupdate bs = some (some args, bs') := by
    unfold infoupdate
    rw [stateT_lift_bind, hroom, stateT_lift_bind, hlevel]
    dsimp only
    rw [if_neg (not_not.mpr rfl), stateT_lift_bind, htlvcount, stateT_bind hchain,
      stateT_bind (stateT_lift_some hargs _)]
    exact ⟨_, rfl⟩
  obtain ⟨bs', hrun⟩ := hrun
  rw [← hargscount] at hargsinfo hheard
  exact ⟨args, bs', listed, hrun, hroominfo, hargscount, hargsinfo, hheard⟩

end Taken

/-- Lists of users and of missed calls are handed to the client as they were sent, in order. A user
has a name of at most 32 bytes, and a TLV of capabilities consists of whole blocks. -/
theorem userlists_taken :
    (∀ (l : List UserBlock) (bs : AimBstream), bs.rest = l.flatMap UserBlock.encode →
      ∃ infos, userlistchange bs = some infos ∧ List.Forall₂ UserBlock.Says l infos) ∧
    ∀ (f : MissedcallArgs → Int) (l : List MissedBlock) (bs : AimBstream),
      bs.rest = l.flatMap MissedBlock.encode →
      ∃ calls, missedcall (some f) bs = some (calls, (calls.getLast?.map f).getD 0) ∧
        List.Forall₂ MissedBlock.Says l calls :=
  ⟨fun _ _ h => userlistchange_taken h, fun f _ _ h => missedcall_taken f h⟩

section Example

/-- Two users, the first with an idle time that is sent twice. -/
def twoUsers : List UserBlock :=
  [⟨[0x61], 3, [createtlv 0x0004 2 [0, 7], createtlv 0x0004 2 [0, 9]], by decide, by decide,
      by unfold WholeCaps; decide⟩,
    ⟨[0x62, 0x63], 0, [], by decide, by decide, fun _ h => absurd h List.not_mem_nil⟩]

/-- Five calls of the first user and two of the second were missed. -/
def missedCalls : List MissedBlock :=
  (twoUsers.zip [5, 2]).map fun (user, nummissed) => ⟨1, user, nummissed, 0⟩

theorem userlists_taken_two :
    (∃ infos, userlistchange ⟨twoUsers.flatMap UserBlock.encode, 0⟩ = some infos ∧
      List.Forall₂ UserBlock.Says twoUsers infos) ∧
    ∃ first second, missedcall (some fun args => args.nummissed.toNat)
        ⟨missedCalls.flatMap MissedBlock.encode, 0⟩ = some ([first, second], 2) ∧
      List.Forall₂ MissedBlock.Says missedCalls [first, second] := by
  refine ⟨userlists_taken.1 twoUsers _ rfl, ?_⟩
  obtain ⟨calls, hrun, hheard⟩ :=
    userlists_taken.2 (fun args => args.nummissed.toNat) missedCalls
      ⟨missedCalls.flatMap MissedBlock.encode, 0⟩ rfl
  obtain ⟨first, second, rfl⟩ : ∃ first second, calls = [first, second] :=
    List.length_eq_two.mp hheard.length_eq.symm
  have hsecond : second.nummissed = 2 := by
    obtain ⟨-, hrest⟩ := List.forall₂_cons.mp hheard
    exact (List.forall₂_cons.mp hrest).1.nummissed
  refine ⟨first, second, ?_, hheard⟩
  rw [hrun]
  simp [hsecond]

/-- A room that says it has three occupants and lists two. -/
def roomTlvs : List AimTlv :=
  [createtlv 0x006f 2 [0, 3], ⟨0x0073, twoUsers.flatMap UserBlock.encode, by decide⟩]

def roomFrame : AimBstream :=
  ⟨chatroomData 4 [0x72] 0 ++ (aimutilPut8 0x02 ++ (aimutilPut16 2 ++ encodeTlvchain roomTlvs)), 0⟩

theorem infoupdate_taken_three : ∃ args bs' listed,
    infoupdate roomFrame = some (some args, bs') ∧
      args.userinfo = some (listed ++ [AimUserinfo.zero]) ∧
      List.Forall₂ UserBlock.Says twoUsers listed := by
  have hcovered : RoomCovered roomTlvs.reverse := by
    have hunsent (t : UInt16) (width : Nat) (h : nthTlv roomTlvs.reverse t 1 = none) :
        Covers roomTlvs.reverse t 1 width := by
      intro tlv htlv
      rw [h] at htlv
      cases htlv
    refine ⟨fun tlv htlv => ?_, hunsent _ _ rfl, hunsent _ _ rfl, hunsent _ _ rfl, hunsent _ _ rfl,
      hunsent _ _ rfl, hunsent _ _ rfl⟩
    rw [← Option.some.inj htlv]
    exact Nat.le_refl 2
  obtain ⟨args, bs', listed, hrun, -, hcount, hinfo, hheard⟩ :=
    @infoupdate_taken 4 0 2 [0x72] roomTlvs (createtlv 0x006f 2 [0, 3])
      ⟨0x0073, twoUsers.flatMap UserBlock.encode, by decide⟩ roomFrame twoUsers (by decide) hcovered
      rfl rfl rfl rfl
  have hthree : args.usercount.toNat = 3 := by
    rw [hcount]
    decide
  rw [hthree] at hinfo hheard
  exact ⟨args, bs', listed, hrun, hinfo, hheard⟩

end Example

end Libfaim
