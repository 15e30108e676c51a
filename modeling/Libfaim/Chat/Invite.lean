import Libfaim.Im.Ch2RoundTrip

/-!
# Chat invitations

`aim_chat_invite` sends a block with the capability of chat, the text and the room in a chain of
TLVs. The room goes into the chain with the length of its name in eight bits, so `incomingim_ch2`
gives the client the invitation that was sent if and only if the name has no more than 255 bytes
(`incomingimCh2_chatInvite_iff`).
-/

namespace Libfaim

/-! ## The room -/

/-- A room as the value of a TLV. -/
def chatroomData (exchange : UInt16) (roomname : List UInt8) (instance_ : UInt16) : List UInt8 :=
  aimutilPut16 exchange ++ (aimutilPut8 (UInt8.ofNat (strlen roomname)) ++
    (cstr roomname ++ aimutilPut16 instance_))

section Room

variable {exchange instance_ : UInt16} {roomname : List UInt8}

theorem chatroomData_length :
    (chatroomData exchange roomname instance_).length = 2 + 1 + strlen roomname + 2 := by
  have hname : (cstr roomname).length = strlen roomname := rfl
  simp only [chatroomData, List.length_append, aimutilPut8_length, aimutilPut16_length, hname]
  omega

theorem writes_putChatroom : Writes (putChatroom exchange roomname instance_)
    (chatroomData exchange roomname instance_) 2 :=
  (writes_aimbsPut16 _).bind ((writes_aimbsPut8 _).bind ((writes_aimbsPutrawCstr _).bind
    (writes_aimbsPut16 _)))

theorem aimAddtlvtochainChatroom_eq (list : List AimTlv) (type : UInt16)
    (h : strlen roomname < 65531) :
    (aimAddtlvtochainChatroom list type exchange roomname instance_).2 =
      list ++ [createtlv type (UInt16.ofNat (chatroomData exchange roomname instance_).length)
        (chatroomData exchange roomname instance_)] := by
  have hlen := @chatroomData_length exchange instance_ roomname
  have hput := (@writes_putChatroom exchange instance_ roomname).init_full (by omega)
  rw [hlen] at hput
  unfold aimAddtlvtochainChatroom
  extract_lets buflen bs₀ bs
  have hbs : bs = ⟨chatroomData exchange roomname instance_, buflen⟩ := congrArg Prod.snd hput
  rw [hbs, hlen]
  rfl

theorem aimAddtlvtochainChatroom_serv (list : List AimTlv) (h : strlen roomname < 65531) :
    (aimAddtlvtochainChatroom list 0x2711 exchange roomname instance_).2 =
      list ++ [servTlv (chatroomData exchange roomname instance_)] :=
  aimAddtlvtochainChatroom_eq list 0x2711 h

theorem reads_aimChatReadroominfo (h : strlen roomname ≤ 255) :
    Reads aimChatReadroominfo (chatroomData exchange roomname instance_)
      ⟨exchange, some (cstr roomname), instance_⟩ := by
  have hlen : (cstr roomname).length = (UInt8.ofNat (strlen roomname)).toNat := by
    rw [UInt8.toNat_ofNat', Nat.mod_eq_of_lt (by omega)]
    rfl
  have hall : Reads aimChatReadroominfo (aimutilPut16 exchange ++
      (aimutilPut8 (UInt8.ofNat (strlen roomname)) ++ (cstr roomname ++
        (aimutilPut16 instance_ ++ [])))) ⟨exchange, some (cstr roomname), instance_⟩ :=
    (reads_aimbsGet16 _).bind ((reads_aimbsGet8 _).bind ((reads_aimbsGetraw hlen).bind
      ((reads_aimbsGet16 _).bind (Reads.pure _))))
  exact hall.of_eq (by rw [List.append_nil]; rfl)

/-- The receiver takes as many bytes for the name as the low byte of its length says. -/
theorem aimChatReadroominfo_name {bs : AimBstream}
    (h : bs.rest = chatroomData exchange roomname instance_) :
    (aimChatReadroominfo bs).1.name = some ((cstr roomname).take (strlen roomname % 256)) := by
  have hnamelen : (UInt8.ofNat (strlen roomname)).toNat = strlen roomname % 256 :=
    UInt8.toNat_ofNat'
  have hname : ((cstr roomname).take (strlen roomname % 256)).length =
      (UInt8.ofNat (strlen roomname)).toNat := by
    rw [hnamelen, List.length_take]
    exact Nat.min_eq_left (Nat.mod_le _ _)
  have hrest1 : bs.rest = aimutilPut16 exchange ++
      (aimutilPut8 (UInt8.ofNat (strlen roomname)) ++
        ((cstr roomname).take (strlen roomname % 256) ++
          ((cstr roomname).drop (strlen roomname % 256) ++ aimutilPut16 instance_))) := by
    rw [h, chatroomData, ← List.append_assoc (List.take _ _), List.take_append_drop]
  have hexchange := reads_aimbsGet16 exchange _ _ hrest1
  have hrest2 := AimBstream.rest_skip_of_append _ hrest1
  have hlen := reads_aimbsGet8 (UInt8.ofNat (strlen roomname)) _ _ hrest2
  have hrest3 := AimBstream.rest_skip_of_append _ hrest2
  have hraw := reads_aimbsGetraw hname _ _ hrest3
  unfold aimChatReadroominfo aimbsGetstr
  rw [stateM_bind, hexchange, stateM_bind, hlen, stateM_bind, hraw]
  rfl

end Room

/-! ## What is sent -/

/-- The TLV with the text of the invitation. -/
def inviteMsgTlv (msg : List UInt8) : AimTlv := createtlv 0x000c (UInt16.ofNat (strlen msg)) msg

theorem inviteMsgTlv_value {msg : List UInt8} (h : strlen msg < 65536) :
    (inviteMsgTlv msg).value = cstr msg := by
  rw [cstr_eq_take]
  show msg.take (UInt16.ofNat (strlen msg)).toNat = _
  rw [UInt16.toNat_ofNat', Nat.mod_eq_of_lt h]

/-- The block `aim_chat_invite` sends. -/
def inviteBlock (args : AimChatInviteArgs) (rand : Nat → UInt8) : RendBlock where
  status := 0
  cookie := randCookie rand
  cap := tableCap aimCapsChat
  list2 := [reqTlv, extTlv, inviteMsgTlv args.msg,
    servTlv (chatroomData args.exchange args.roomname args.instance_)]
  cookie_length := randCookie_length
  cap_mem := by decide

section Sent

variable {args : AimChatInviteArgs} {rand : Nat → UInt8}

theorem inviteItl_eq (h : strlen args.roomname < 65531) :
    inviteItl args = (inviteBlock args rand).list2 := by
  unfold inviteItl
  rw [aimAddtlvtochainChatroom_serv _ h]
  rfl

theorem inviteBlock_length (h : 1152 + strlen args.sn + strlen args.roomname + strlen args.msg ≤
    65535) : (inviteBlock args rand).encode.length =
      2 + 8 + 16 + 6 + 4 + 4 + strlen args.msg + 4 + 2 + 1 + strlen args.roomname + 2 := by
  have hreq : reqTlv.value.length = 2 := rfl
  have hext : extTlv.value.length = 0 := rfl
  have hmsg : (inviteMsgTlv args.msg).value.length = strlen args.msg := by
    rw [inviteMsgTlv_value (by omega)]
    rfl
  have hroom := @chatroomData_length args.exchange args.instance_ args.roomname
  have hserv : (servTlv (chatroomData args.exchange args.roomname args.instance_)).value.length =
      2 + 1 + strlen args.roomname + 2 := by
    rw [servTlv_value (by omega), hroom]
  rw [RendBlock.encode_length]
  simp only [inviteBlock, encodeTlvchain_cons, encodeTlvchain_nil, List.length_append,
    List.length_nil, AimTlv.encode_length, hreq, hext, hmsg, hserv]
  omega

/-- The buffer of the block is filled to its end. -/
theorem inviteHdrbs_eq (h : 1152 + strlen args.sn + strlen args.roomname + strlen args.msg ≤ 65535) :
    inviteHdrbs args (randCookie rand) =
      ⟨(inviteBlock args rand).encode, (inviteBlock args rand).encode.length⟩ := by
  have hlen := @inviteBlock_length args rand h
  have hhdr : Writes (putInvitehdr (randCookie rand)) (aimutilPut16 0x0000 ++ (randCookie rand ++
      (tableCap aimCapsChat).data)) () :=
    (writes_aimbsPut16 _).bind ((writes_aimbsPutraw rfl).bind
      (@writes_aimPutcap_one aimCapsChat (tableCap aimCapsChat) rfl))
  have hall : Writes (do let _ ← putInvitehdr (randCookie rand); aimWritetlvchain (inviteItl args))
      ((aimutilPut16 0x0000 ++ (randCookie rand ++ (tableCap aimCapsChat).data)) ++
        encodeTlvchain (inviteItl args)) 1 :=
    hhdr.bind (writes_aimWritetlvchain _)
  have hbytes : (aimutilPut16 0x0000 ++ (randCookie rand ++ (tableCap aimCapsChat).data)) ++
      encodeTlvchain (inviteItl args) = (inviteBlock args rand).encode := by
    rw [inviteItl_eq (by omega)]
    simp only [List.append_assoc]
    rfl
  have hfull := (hall.of_eq hbytes).init_full (by omega)
  rw [stateM_bind] at hfull
  unfold inviteHdrbs
  extract_lets hdrlen hdrbs₀ hdrbs
  have hhdrlen : hdrlen = (inviteBlock args rand).encode.length := hlen.symm
  have hhdrbs : hdrbs = (putInvitehdr (randCookie rand) (aimBstreamInit (List.replicate
      (inviteBlock args rand).encode.length 0) (inviteBlock args rand).encode.length)).2 := by
    rw [← hhdrlen]
  rw [hhdrbs, hfull]

theorem inviteFrame_carriesBlock {fr : AimFrame} {snacid : UInt32} (hsn : strlen args.sn ≤ 32)
    (h : 1152 + strlen args.sn + strlen args.roomname + strlen args.msg ≤ 65535)
    (hdata : fr.data = (putInvite args snacid (randCookie rand) (aimBstreamInit
      (List.replicate (1152 + strlen args.sn + strlen args.roomname + strlen args.msg) 0)
        (1152 + strlen args.sn + strlen args.roomname + strlen args.msg : Nat))).2) :
    CarriesBlock fr args.sn (inviteBlock args rand) [] := by
  have hlen := @inviteBlock_length args rand h
  have hb : (inviteBlock args rand).encode.length < 65536 := by omega
  have hhead : Writes (putInvitehead args.sn snacid (randCookie rand))
      (rendHead args.sn snacid (randCookie rand) ++ cstr args.sn) (strlen args.sn) := by
    have hall : Writes (putInvitehead args.sn snacid (randCookie rand)) ((aimutilPut16 0x0004 ++
        (aimutilPut16 0x0006 ++ (aimutilPut16 0x0000 ++ (aimutilPut32 snacid ++ [])))) ++
          (randCookie rand ++ (aimutilPut16 0x0002 ++
            (aimutilPut8 (UInt8.ofNat (strlen args.sn)) ++ cstr args.sn)))) (strlen args.sn) :=
      (writes_aimPutsnac _ _ _ _).bind ((writes_putBytes _).bind ((writes_aimbsPut16 _).bind
        ((writes_aimbsPut8 _).bind (writes_aimbsPutrawCstr _))))
    exact hall.of_eq (by simp only [rendHead, List.append_assoc])
  have hotl : Writes (aimWritetlvchain (aimAddtlvtochainRaw [] 0x0005 (UInt16.ofNat
      (aimBstreamCurpos (inviteHdrbs args (randCookie rand))))
        (inviteHdrbs args (randCookie rand)).data).2)
      (encodeTlvchain [blockTlv (inviteBlock args rand)]) 1 := by
    rw [inviteHdrbs_eq h]
    exact writes_aimWritetlvchain [blockTlv (inviteBlock args rand)]
  have hall : Writes (putInvite args snacid (randCookie rand))
      ((rendHead args.sn snacid (randCookie rand) ++ cstr args.sn) ++
        encodeTlvchain [blockTlv (inviteBlock args rand)]) 1 := hhead.bind hotl
  have hcookie : (inviteBlock args rand).cookie = randCookie rand := rfl
  rw [← hcookie] at hall
  have hnil : (encodeTlvchain ([] : List AimTlv)).length = 0 := rfl
  exact hall.carriesBlock hb (by omega) (by omega) hdata

end Sent

/-! ## The round trip -/

/-- The invitation that was taken in is the one that was sent. -/
structure SameInvite (args : AimChatInviteArgs) (res : AimIncomingimCh2Args) : Prop where
  reqclass : res.reqclass = aimCapsChat.toUInt16
  msg : res.msg = some (cstr args.msg)
  info : res.info = .chat ⟨args.exchange, some (cstr args.roomname), args.instance_⟩

section RoundTrip

variable {sess sess' : AimSession} {snacs snacs' : SnacCache} {c : ConnPtr} {now : Int}
  {rand : Nat → UInt8} {args : AimChatInviteArgs} {fr : AimFrame}

theorem chatInviteFrame_data
    (h : chatInviteFrame sess snacs c now rand args = .ok (fr, sess', snacs')) :
    fr.data = (putInvite args snacs.snacidNext (randCookie rand) (aimBstreamInit
      (List.replicate (1152 + strlen args.sn + strlen args.roomname + strlen args.msg) 0)
        (1152 + strlen args.sn + strlen args.roomname + strlen args.msg : Nat))).2 := by
  unfold chatInviteFrame at h
  by_cases hc : c = 0
  · rw [if_pos hc] at h
    cases h
  · rw [if_neg hc] at h
    by_cases htype : (sess.conn c).type ≠ aimConnTypeBos
    · rw [if_pos htype] at h
      cases h
    · rw [if_neg htype] at h
      cases hnew : aimTxNew sess c aimFrametypeFlap 0x02
          (1152 + strlen args.sn + strlen args.roomname + strlen args.msg) with
      | none =>
        rw [hnew] at h
        cases h
      | some r =>
        obtain ⟨fr₀, sess₀⟩ := r
        have hdata := aimTxNew_data hnew
        have hid : (aimCachesnac 0x0004 0x0006 0x0000 (cstr args.sn ++ [0]) now snacs).1 =
            snacs.snacidNext := rfl
        rw [hnew] at h
        dsimp only at h
        have hfr := congrArg (fun r => r.1.data) (Except.ok.inj h)
        dsimp only at hfr
        rw [← hfr, hdata, hid, randCookie]

/-- No address is sent along. -/
theorem noIp_invite : ∀ tlv ∈ (inviteBlock args rand).list2, NoIp tlv := by
  have hmsg : NoIp (inviteMsgTlv args.msg) :=
    (by decide : (0x000c : UInt16) ≠ 2 ∧ (0x000c : UInt16) ≠ 3 ∧ (0x000c : UInt16) ≠ 4)
  exact noIp_rendlist
    (List.forall_mem_cons.mpr ⟨hmsg, List.forall_mem_singleton.mpr (noIp_servTlv _)⟩)

theorem aimGettlv_invite : aimGettlv (inviteBlock args rand).list2.reverse 0x2711 1 =
    some (servTlv (chatroomData args.exchange args.roomname args.instance_)) := by
  rw [aimGettlv_one]
  rfl

theorem inviteBlock_msg (h : strlen args.msg < 65536) :
    (inviteBlock args rand).args.msg = some (cstr args.msg) := by
  show (aimGettlv (inviteBlock args rand).list2.reverse 0x000c 1).map AimTlv.value = _
  rw [aimGettlv_one]
  exact congrArg some (inviteMsgTlv_value h)

/-- The client is given the room as `aim_chat_readroominfo` reads it. -/
theorem incomingimCh2Servdata_invite (servdata : AimBstream) :
    incomingimCh2Servdata (inviteBlock args rand).args (some servdata) =
      some { (inviteBlock args rand).args with
        info := .chat (aimChatReadroominfo servdata).1 } := by
  have hclass : (inviteBlock args rand).args.reqclass = (tableCap aimCapsChat).flag.toUInt16 := rfl
  unfold incomingimCh2Servdata
  dsimp only
  rw [hclass, if_neg (by decide), if_neg (by decide), if_pos (by decide), Option.map_some]
  rfl

/-- What the client is given for the frame of an invitation. -/
theorem incomingimCh2_chatInvite
    (hframe : chatInviteFrame sess snacs c now rand args = .ok (fr, sess', snacs'))
    (hsn : strlen args.sn ≤ 32)
    (hsize : 1152 + strlen args.sn + strlen args.roomname + strlen args.msg ≤ 65535)
    (bs : AimBstream) (hbs : bs.rest = fr.data.written.drop (21 + strlen args.sn)) :
    ∃ tlvlist bs', aimReadtlvchain bs = some (tlvlist, bs') ∧
      incomingimCh2 tlvlist = some { (inviteBlock args rand).args with
        info := .chat (aimChatReadroominfo
          ⟨chatroomData args.exchange args.roomname args.instance_, 0⟩).1 } := by
  have hcarries := inviteFrame_carriesBlock hsn hsize (chatInviteFrame_data hframe)
  have hextra : ∀ tlv ∈ ([] : List AimTlv), tlv.type ≠ 0x0005 :=
    fun tlv htlv => absurd htlv List.not_mem_nil
  obtain ⟨tlvlist, bs', hchain, hch2⟩ :=
    hcarries.incomingimCh2 hextra noIp_invite aimGettlv_invite hbs
  have hroom := @chatroomData_length args.exchange args.instance_ args.roomname
  rw [servTlv_value (by omega), incomingimCh2Servdata_invite] at hch2
  exact ⟨tlvlist, bs', hchain, hch2⟩

/-- An invitation is taken in as it was sent if and only if the name of the room has no more than
255 bytes. -/
theorem incomingimCh2_chatInvite_iff
    (hframe : chatInviteFrame sess snacs c now rand args = .ok (fr, sess', snacs'))
    (hsn : strlen args.sn ≤ 32)
    (hsize : 1152 + strlen args.sn + strlen args.roomname + strlen args.msg ≤ 65535) :
    (∀ bs : AimBstream, bs.rest = fr.data.written.drop (21 + strlen args.sn) →
      ∃ tlvlist bs' res, aimReadtlvchain bs = some (tlvlist, bs') ∧
        incomingimCh2 tlvlist = some res ∧ SameInvite args res) ↔ strlen args.roomname ≤ 255 := by
  constructor
  · intro h
    obtain ⟨tlvlist, bs', res, hchain, hch2, hsame⟩ :=
      h ⟨fr.data.written.drop (21 + strlen args.sn), 0⟩ rfl
    obtain ⟨tlvlist', bs'', hchain', hch2'⟩ := incomingimCh2_chatInvite hframe hsn hsize
      ⟨fr.data.written.drop (21 + strlen args.sn), 0⟩ rfl
    obtain ⟨rfl, rfl⟩ := Prod.mk.inj (Option.some.inj (hchain.symm.trans hchain'))
    have hres := Option.some.inj (hch2.symm.trans hch2')
    have hinfo : AimIncomingimCh2Info.chat (aimChatReadroominfo
        ⟨chatroomData args.exchange args.roomname args.instance_, 0⟩).1 = .chat _ :=
      (congrArg AimIncomingimCh2Args.info hres).symm.trans hsame.info
    have hname := congrArg AimChatRoominfo.name (AimIncomingimCh2Info.chat.inj hinfo)
    rw [aimChatReadroominfo_name rfl] at hname
    have hlen := congrArg List.length (Option.some.inj hname)
    rw [List.length_take, show (cstr args.roomname).length = strlen args.roomname from rfl] at hlen
    omega
  · intro hshort bs hbs
    obtain ⟨tlvlist, bs', hchain, hch2⟩ := incomingimCh2_chatInvite hframe hsn hsize bs hbs
    refine ⟨tlvlist, bs', _, hchain, hch2, rfl, @inviteBlock_msg rand args (by omega), ?_⟩
    have hread := @reads_aimChatReadroominfo args.exchange args.instance_ args.roomname hshort
      ⟨chatroomData args.exchange args.roomname args.instance_, 0⟩ [] (List.append_nil _).symm
    exact congrArg (fun r => AimIncomingimCh2Info.chat r.1) hread

end RoundTrip

section Example

/-- An invitation to a room whose name has `n` bytes. -/
def inviteArgs (n : Nat) : AimChatInviteArgs :=
  ⟨[0x61, 0x62], [0x68, 0x69], 4, List.replicate n 0x72, 0⟩

/-- A new session with a BOS connection. -/
def inviteSession : AimSession :=
  (aimNewconn (aimSessionInit []) aimConnTypeBos (.connected 3 0)).2

/-- The frame of the invitation. -/
theorem chatInviteFrame_ok (n : Nat) : ∃ fr sess' snacs',
    chatInviteFrame inviteSession aimInitsnachash 1 0 (fun _ => 0x37) (inviteArgs n) =
      .ok (fr, sess', snacs') := by
  have hconn : (inviteSession.conn 1).type = aimConnTypeBos := by decide
  unfold chatInviteFrame
  rw [if_neg (by decide), if_neg (not_not.mpr hconn)]
  unfold aimTxNew
  rw [if_neg (by decide), if_neg (by decide), if_neg (by decide)]
  exact ⟨_, _, _, rfl⟩

theorem strlen_replicate (n : Nat) : strlen (List.replicate n 0x72) = n := by
  have hcstr : cstr (List.replicate n 0x72) = List.replicate n 0x72 := by
    apply cstr_of_no_nul
    intro h
    exact absurd (List.eq_of_mem_replicate h) (by decide)
  rw [strlen, hcstr, List.length_replicate]

theorem inviteArgs_size {n : Nat} (h : n ≤ 1000) : 1152 + strlen (inviteArgs n).sn +
    strlen (inviteArgs n).roomname + strlen (inviteArgs n).msg ≤ 65535 := by
  have hsn : strlen (inviteArgs n).sn = 2 := rfl
  have hmsg : strlen (inviteArgs n).msg = 2 := rfl
  have hroom : strlen (inviteArgs n).roomname = n := strlen_replicate n
  omega

/-- A name of five bytes. -/
theorem sameInvite_short : ∃ fr sess' snacs',
    chatInviteFrame inviteSession aimInitsnachash 1 0 (fun _ => 0x37) (inviteArgs 5) =
      .ok (fr, sess', snacs') ∧
    ∃ tlvlist bs' res, aimReadtlvchain ⟨fr.data.written.drop 23, 0⟩ = some (tlvlist, bs') ∧
      incomingimCh2 tlvlist = some res ∧ SameInvite (inviteArgs 5) res := by
  obtain ⟨fr, sess', snacs', hframe⟩ := chatInviteFrame_ok 5
  refine ⟨fr, sess', snacs', hframe, ?_⟩
  exact (incomingimCh2_chatInvite_iff hframe (by decide) (inviteArgs_size (by omega))).mpr
    (by decide) ⟨fr.data.written.drop 23, 0⟩ rfl

/-- A name of 256 bytes: the client is given an empty one. -/
theorem not_sameInvite_long :
    ¬ ∀ (sess : AimSession) (snacs : SnacCache) (c : ConnPtr) (now : Int) (rand : Nat → UInt8)
      (args : AimChatInviteArgs) (fr : AimFrame) (sess' : AimSession) (snacs' : SnacCache),
      chatInviteFrame sess snacs c now rand args = .ok (fr, sess', snacs') →
      strlen args.sn ≤ 32 →
      1152 + strlen args.sn + strlen args.roomname + strlen args.msg ≤ 65535 →
      ∀ bs : AimBstream, bs.rest = fr.data.written.drop (21 + strlen args.sn) →
        ∃ tlvlist bs' res, aimReadtlvchain bs = some (tlvlist, bs') ∧
          incomingimCh2 tlvlist = some res ∧ SameInvite args res := by
  intro h
  obtain ⟨fr, sess', snacs', hframe⟩ := chatInviteFrame_ok 256
  have hsize := @inviteArgs_size 256 (by omega)
  obtain ⟨tlvlist, bs', res, hchain, hch2, hsame⟩ := h _ _ _ _ _ _ _ _ _ hframe (by decide) hsize
    ⟨fr.data.written.drop 23, 0⟩ rfl
  obtain ⟨tlvlist', bs'', hchain', hch2'⟩ := incomingimCh2_chatInvite hframe (by decide) hsize
    ⟨fr.data.written.drop 23, 0⟩ rfl
  obtain ⟨rfl, rfl⟩ := Prod.mk.inj (Option.some.inj (hchain.symm.trans hchain'))
  have hres := Option.some.inj (hch2.symm.trans hch2')
  have hinfo : AimIncomingimCh2Info.chat (aimChatReadroominfo
      ⟨chatroomData 4 (inviteArgs 256).roomname 0, 0⟩).1 = .chat _ :=
    (congrArg AimIncomingimCh2Args.info hres).symm.trans hsame.info
  have hname := congrArg AimChatRoominfo.name (AimIncomingimCh2Info.chat.inj hinfo)
  have hroom : strlen (inviteArgs 256).roomname = 256 := strlen_replicate 256
  rw [aimChatReadroominfo_name rfl, hroom] at hname
  have hlen := congrArg List.length (Option.some.inj hname)
  rw [List.take_zero, show (cstr (inviteArgs 256).roomname).length = 256 from hroom] at hlen
  cases hlen

end Example

end Libfaim
