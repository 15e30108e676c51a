import Libfaim.Chat
import Libfaim.Conn
import Libfaim.Tlv.RoundTrip
import Libfaim.TxQueue.Rules

/-!
# Which chat messages arrive

`aim_chat_send_im` takes the length of the message from `strlen`, with sixteen bits, and has a frame
of 1152 bytes for it. The message is a TLV in a block, and the block a TLV in a chain; a chain that
does not fit is not written, and this goes unnoticed. So the message arrives if and only if `msglen`
is its length, taken with sixteen bits, and the chain fits (`chatDelivered_iff`).
-/

namespace Libfaim

/-! ## The chain -/

/-- The TLV with the message. -/
def chatMsgTlv (msg : List UInt8) : AimTlv := createtlv 0x0001 (UInt16.ofNat (strlen msg)) msg

/-- The message block. -/
def chatBlock (msg : List UInt8) : AimTlv :=
  let buflen := aimSizetlvchain [chatMsgTlv msg]
  let bs := (aimWritetlvchain [chatMsgTlv msg] (aimBstreamInit (List.replicate buflen 0) buflen)).2
  createtlv 0x0005 (UInt16.ofNat (aimBstreamCurpos bs)) bs.data

/-- The TLVs in front of the block. -/
def chatFlags (flags : UInt16) : List AimTlv :=
  createtlv 0x0001 0 [] :: (optTlv (flags &&& aimChatflagsNoreflect = 0) (createtlv 0x0006 0 []) ++
    optTlv (flags &&& aimChatflagsAway ≠ 0) (createtlv 0x0007 0 []))

/-- How many bytes these take. -/
def chatFlagslen (flags : UInt16) : Nat :=
  4 + (if flags &&& aimChatflagsNoreflect = 0 then 4 else 0) +
    (if flags &&& aimChatflagsAway ≠ 0 then 4 else 0)

section Chain

variable {flags : UInt16} {msg : List UInt8}

theorem chatMsgTlv_value : (chatMsgTlv msg).value = msg.take (strlen msg % 65536) := by
  simp [chatMsgTlv, createtlv, UInt16.toNat_ofNat']

theorem chatMsgTlv_length : (chatMsgTlv msg).value.length = strlen msg % 65536 := by
  have hle := strlen_le msg
  rw [chatMsgTlv_value, List.length_take]
  omega

theorem chatOtl_eq : chatOtl flags msg = chatFlags flags ++ [chatBlock msg] := by
  have hsize : aimSizetlvchain [chatMsgTlv msg] ≠ 0 := by
    simp only [aimSizetlvchain]
    omega
  have hfrozen : ∀ otl, (aimAddtlvtochainFrozentlvlist otl 0x0005 [chatMsgTlv msg]).2 =
      otl ++ [chatBlock msg] := by
    intro otl
    unfold aimAddtlvtochainFrozentlvlist
    dsimp only
    rw [if_neg hsize]
    rfl
  have hmsg : (aimAddtlvtochainRaw [] 0x0001 (UInt16.ofNat (strlen msg)) msg).2 =
      [chatMsgTlv msg] := rfl
  have hfirst : (aimAddtlvtochainNoval [] 0x0001).2 = [createtlv 0x0001 0 []] := rfl
  unfold chatOtl
  dsimp only
  rw [hmsg, hfrozen, hfirst, addtlvIf_noval, addtlvIf_noval, chatFlags]
  rfl

theorem chatFlags_size : aimSizetlvchain (chatFlags flags) = chatFlagslen flags := by
  have hone : ∀ t : UInt16, (createtlv t 0 []).length.toNat = 0 := fun t => rfl
  unfold chatFlags chatFlagslen optTlv
  by_cases hreflect : flags &&& aimChatflagsNoreflect = 0
  · by_cases haway : flags &&& aimChatflagsAway ≠ 0
    · simp [aimSizetlvchain, hreflect, haway, hone]
    · simp [aimSizetlvchain, hreflect, haway, hone]
  · by_cases haway : flags &&& aimChatflagsAway ≠ 0
    · simp [aimSizetlvchain, hreflect, haway, hone]
    · simp [aimSizetlvchain, hreflect, haway, hone]

theorem chatOtl_size : aimSizetlvchain (chatOtl flags msg) =
    chatFlagslen flags + 4 + (chatBlock msg).value.length := by
  rw [chatOtl_eq, ← encodeTlvchain_length, encodeTlvchain_append, List.length_append,
    encodeTlvchain_length, chatFlags_size]
  simp only [encodeTlvchain_cons, encodeTlvchain_nil, List.append_nil, AimTlv.encode_length]
  omega

/-- A block that fits a stream holds the message. -/
theorem chatBlock_value_of_lt (h : strlen msg % 65536 + 4 < 65536) :
    (chatBlock msg).value = encodeTlvchain [chatMsgTlv msg] := by
  have hlen : (encodeTlvchain [chatMsgTlv msg]).length = aimSizetlvchain [chatMsgTlv msg] :=
    encodeTlvchain_length _
  have hsize : aimSizetlvchain [chatMsgTlv msg] = 4 + strlen msg % 65536 := by
    simp only [aimSizetlvchain, AimTlv.length_toNat, chatMsgTlv_length]
    omega
  have hfull := (writes_aimWritetlvchain [chatMsgTlv msg]).init_full (by omega)
  rw [hlen] at hfull
  unfold chatBlock
  dsimp only
  rw [hfull, aimBstreamCurpos, ← hlen]
  exact createtlv_value_of_lt (by omega)

/-- For a longer one the stream has wrapped, and the block is empty. -/
theorem chatBlock_value_of_le (h : 65536 ≤ strlen msg % 65536 + 4) : (chatBlock msg).value = [] := by
  have hsize : aimSizetlvchain [chatMsgTlv msg] = 4 + strlen msg % 65536 := by
    simp only [aimSizetlvchain, AimTlv.length_toNat, chatMsgTlv_length]
    omega
  have hempty : aimBstreamEmpty (aimBstreamInit
      (List.replicate (aimSizetlvchain [chatMsgTlv msg]) 0) (aimSizetlvchain [chatMsgTlv msg])) <
        aimSizetlvchain [chatMsgTlv msg] := by
    simp only [aimBstreamEmpty, AimBstream.len, aimBstreamInit, List.length_append,
      List.length_take, List.length_replicate]
    omega
  unfold chatBlock aimWritetlvchain
  dsimp only
  rw [if_pos hempty]
  rfl

/-- The message fits the frame: then the chain does, and so does the block its stream. -/
theorem chatMsg_fits_iff : chatFlagslen flags + 8 + strlen msg % 65536 ≤ 1132 ↔
    aimSizetlvchain (chatOtl flags msg) ≤ 1132 ∧ strlen msg % 65536 + 4 < 65536 := by
  have hsize := @chatOtl_size flags msg
  by_cases hlt : strlen msg % 65536 + 4 < 65536
  · have hvalue : (chatBlock msg).value.length = 4 + strlen msg % 65536 := by
      rw [chatBlock_value_of_lt hlt, encodeTlvchain_cons, encodeTlvchain_nil, List.append_nil,
        AimTlv.encode_length, chatMsgTlv_length]
    omega
  · omega

end Chain

/-! ## The frame -/

/-- The frame up to the chain. -/
def chatHead (snacid : UInt32) (ckstr : List UInt8) : List UInt8 :=
  (aimutilPut16 0x000e ++ (aimutilPut16 0x0005 ++ (aimutilPut16 0x0000 ++
    (aimutilPut32 snacid ++ [])))) ++ (ckstr ++ aimutilPut16 0x0003)

section Frame

variable {flags : UInt16} {msg ckstr : List UInt8} {snacid : UInt32}

theorem chatHead_length (hck : ckstr.length = 8) : (chatHead snacid ckstr).length = 20 := by
  simp [chatHead, hck]

theorem writes_putChathead : Writes (putChathead snacid ckstr) (chatHead snacid ckstr) 2 :=
  (writes_aimPutsnac _ _ _ _).bind ((writes_putBytes _).bind (writes_aimbsPut16 _))

/-- The chain is written as a whole or not at all. -/
theorem putChatmsg_written (hck : ckstr.length = 8) :
    (putChatmsg flags msg snacid ckstr (aimBstreamInit (List.replicate 1152 0) 1152)).2.written =
      chatHead snacid ckstr ++ if aimSizetlvchain (chatOtl flags msg) ≤ 1132 then
        encodeTlvchain (chatOtl flags msg) else [] := by
  have hhead := @chatHead_length ckstr snacid hck
  have hsize := encodeTlvchain_length (chatOtl flags msg)
  by_cases hfits : aimSizetlvchain (chatOtl flags msg) ≤ 1132
  · have hall : Writes (putChatmsg flags msg snacid ckstr)
        (chatHead snacid ckstr ++ encodeTlvchain (chatOtl flags msg)) 1 :=
      writes_putChathead.bind (writes_aimWritetlvchain _)
    rw [if_pos hfits]
    apply hall.written_init
    · omega
    · rw [List.length_append]
      omega
  · have hfresh : aimBstreamInit (List.replicate 1152 0) 1152 = ⟨List.replicate 1152 0, 0⟩ :=
      aimBstreamInit_replicate (by omega)
    have hempty := aimBstreamEmpty_replicate 1152
    have hput := @writes_putChathead ckstr snacid ⟨List.replicate 1152 0, 0⟩ (Nat.zero_le _)
      (by omega)
    have hleft : aimSizetlvchain (chatOtl flags msg) > aimBstreamEmpty
        (AimBstream.store ⟨List.replicate 1152 0, 0⟩ (chatHead snacid ckstr)) := by
      rw [AimBstream.store_empty (Nat.zero_le _) (by omega)]
      omega
    rw [if_neg hfits, List.append_nil, hfresh]
    unfold putChatmsg aimWritetlvchain
    rw [stateM_bind, hput, if_pos hleft, AimBstream.written_store (Nat.zero_le _)]
    rfl

/-! ## Reading it -/

theorem chatFlags_types : ∀ tlv ∈ chatFlags flags, tlv.type ≠ 0x0003 ∧ tlv.type ≠ 0x0005 := by
  intro tlv htlv
  unfold chatFlags optTlv at htlv
  rcases List.mem_cons.mp htlv with rfl | htlv
  · exact (by decide : (0x0001 : UInt16) ≠ 3 ∧ (0x0001 : UInt16) ≠ 5)
  · rcases List.mem_append.mp htlv with htlv | htlv
    · by_cases hreflect : flags &&& aimChatflagsNoreflect = 0
      · rw [if_pos hreflect, List.mem_singleton] at htlv
        subst htlv
        exact (by decide : (0x0006 : UInt16) ≠ 3 ∧ (0x0006 : UInt16) ≠ 5)
      · rw [if_neg hreflect] at htlv
        cases htlv
    · by_cases haway : flags &&& aimChatflagsAway ≠ 0
      · rw [if_pos haway, List.mem_singleton] at htlv
        subst htlv
        exact (by decide : (0x0007 : UInt16) ≠ 3 ∧ (0x0007 : UInt16) ≠ 5)
      · rw [if_neg haway] at htlv
        cases htlv

theorem chatBlock_type : (chatBlock msg).type = 0x0005 := rfl

theorem aimGettlv_chatOtl : aimGettlv (chatOtl flags msg) 0x0005 1 = some (chatBlock msg) := by
  have hnone : (chatFlags flags).find? (fun tlv => tlv.type = 0x0005) = none := by
    rw [List.find?_eq_none]
    intro tlv htlv
    simpa using (chatFlags_types tlv htlv).2
  have hblock : [chatBlock msg].find? (fun tlv => tlv.type = 0x0005) = some (chatBlock msg) :=
    List.find?_cons_of_pos (by simp [chatBlock_type])
  rw [aimGettlv_one, chatOtl_eq, List.find?_append, hnone, hblock, Option.none_or]

/-- The block is the first TLV of the chain as it is read. -/
theorem aimGettlv_chatOtl_reverse :
    aimGettlv (chatOtl flags msg).reverse 0x0005 1 = some (chatBlock msg) := by
  rw [aimGettlv_one, chatOtl_eq, List.reverse_append, List.reverse_singleton, List.singleton_append]
  exact List.find?_cons_of_pos (by simp [chatBlock_type])

/-- There is no user information in it. -/
theorem incomingmsgUserinfo_chatOtl :
    incomingmsgUserinfo (chatOtl flags msg).reverse = some AimUserinfo.zero := by
  have hnone : aimGettlv (chatOtl flags msg).reverse 0x0003 1 = none := by
    rw [aimGettlv_one, List.find?_eq_none]
    intro tlv htlv
    rw [List.mem_reverse, chatOtl_eq, List.mem_append, List.mem_singleton] at htlv
    rcases htlv with htlv | rfl
    · simpa using (chatFlags_types tlv htlv).1
    · simp [chatBlock_type]
  unfold incomingmsgUserinfo
  rw [hnone]

theorem incomingmsgBlock_chatOtl : incomingmsgBlock (chatOtl flags msg).reverse =
    some (if strlen msg % 65536 + 4 < 65536 then some (msg.take (strlen msg % 65536)) else none) := by
  unfold incomingmsgBlock
  rw [aimGettlv_chatOtl_reverse]
  dsimp only
  rw [aimBstreamInit_value]
  by_cases hlt : strlen msg % 65536 + 4 < 65536
  · have hread := @aimReadtlvchain_encode [chatMsgTlv msg] ⟨(chatBlock msg).value, 0⟩
      (chatBlock_value_of_lt hlt)
    have hmsg : aimGettlv [chatMsgTlv msg] 0x0001 1 = some (chatMsgTlv msg) := by
      rw [aimGettlv_one]
      exact List.find?_cons_of_pos (by simp [chatMsgTlv, createtlv])
    rw [hread, if_pos hlt, Option.bind_eq_bind, Option.bind_some, List.reverse_singleton]
    dsimp only
    rw [aimGettlvStr, hmsg, Option.map_some, chatMsgTlv_value]
    rfl
  · have hread := @aimReadtlvchain_encode [] ⟨(chatBlock msg).value, 0⟩
      (chatBlock_value_of_le (by omega))
    rw [hread, if_neg hlt]
    rfl

/-- What the client is given for what stands behind the SNAC header. -/
theorem incomingmsg_chat (hck : ckstr.length = 8) {bs : AimBstream}
    (hbs : bs.rest = (putChatmsg flags msg snacid ckstr
      (aimBstreamInit (List.replicate 1152 0) 1152)).2.written.drop 10) :
    incomingmsg bs = some (some ⟨AimUserinfo.zero,
      if chatFlagslen flags + 8 + strlen msg % 65536 ≤ 1132 then
        some (msg.take (strlen msg % 65536)) else none⟩) := by
  have hiff := @chatMsg_fits_iff flags msg
  generalize hchain : (if aimSizetlvchain (chatOtl flags msg) ≤ 1132 then
    encodeTlvchain (chatOtl flags msg) else []) = chain
  have hdrop : bs.rest = ckstr ++ (aimutilPut16 0x0003 ++ chain) := by
    rw [hbs, putChatmsg_written hck, hchain, chatHead, List.append_assoc, List.drop_left' (by simp),
      List.append_assoc]
  have hraw := reads_aimbsGetraw hck _ _ hdrop
  have hrest := AimBstream.rest_skip_of_append _ hdrop
  have hchannel := reads_aimbsGet16 0x0003 _ _ hrest
  have hend := AimBstream.rest_skip_of_append _ hrest
  unfold incomingmsg
  rw [hraw]
  dsimp only
  rw [hchannel]
  dsimp only
  rw [if_neg (not_not.mpr rfl)]
  by_cases hfits : aimSizetlvchain (chatOtl flags msg) ≤ 1132
  · rw [if_pos hfits] at hchain
    have hread := aimReadtlvchain_encode _ (hend.trans hchain.symm)
    rw [hread, Option.bind_eq_bind, Option.bind_some]
    dsimp only
    rw [incomingmsgUserinfo_chatOtl, incomingmsgBlock_chatOtl]
    by_cases hlt : strlen msg % 65536 + 4 < 65536
    · rw [if_pos hlt, if_pos (hiff.mpr ⟨hfits, hlt⟩)]
      rfl
    · rw [if_neg hlt, if_neg fun h => hlt (hiff.mp h).2]
      rfl
  · rw [if_neg hfits] at hchain
    have hread := @aimReadtlvchain_encode [] _ (hend.trans hchain.symm)
    rw [hread, if_neg fun h => hfits (hiff.mp h).1]
    rfl

end Frame

/-! ## The message that arrives -/

/-- The frame has the text in a TLV of type 1 inside of one of type 5, and `incomingmsg` gives it to
the client. -/
structure ChatCarried (fr : AimFrame) (text : List UInt8) : Prop where
  nested : ∃ otl block itl tlv, fr.data.written.drop 20 = encodeTlvchain otl ∧
    aimGettlv otl 0x0005 1 = some block ∧ block.value = encodeTlvchain itl ∧
    aimGettlv itl 0x0001 1 = some tlv ∧ tlv.value = text
  decoded : ∀ bs : AimBstream, bs.rest = fr.data.written.drop 10 →
    ∃ incoming, incomingmsg bs = some (some incoming) ∧ incoming.msg = some text

/-- A call that returns 0 has sent the first `msglen` bytes of the message; a message that does not
fit makes it return something else. -/
def ChatDelivered (sess : AimSession) (snacs : SnacCache) (c : ConnPtr) (now : Int)
    (rand : Nat → UInt8) (flags : UInt16) (msg : List UInt8) (msglen : Nat) : Prop :=
  let sent := aimChatSendIm sess snacs c now rand flags (some msg) msglen
  sent.1 = 0 →
    ∃ fr sess' snacs', chatSendImFrame sess snacs c now rand flags (some msg) msglen =
        .ok (fr, sess', snacs') ∧
      sent.2.1 = aimTxEnqueue sess' fr ∧ ChatCarried fr (msg.take msglen)

section Send

variable {sess : AimSession} {snacs : SnacCache} {c : ConnPtr} {now : Int} {rand : Nat → UInt8}
  {flags : UInt16} {msg : List UInt8} {msglen : Nat}

theorem chatCarried_iff {fr : AimFrame} {snacid : UInt32} {ckstr : List UInt8}
    (hck : ckstr.length = 8) (hbuf : msglen ≤ msg.length)
    (hdata : fr.data = (putChatmsg flags msg snacid ckstr
      (aimBstreamInit (List.replicate 1152 0) 1152)).2) :
    ChatCarried fr (msg.take msglen) ↔
      strlen msg % 65536 = msglen ∧ chatFlagslen flags + 8 + msglen ≤ 1132 := by
  have hle := strlen_le msg
  constructor
  · intro h
    obtain ⟨incoming, hincoming, hmsg⟩ := h.decoded ⟨fr.data.written.drop 10, 0⟩ rfl
    have hread := @incomingmsg_chat flags msg ckstr snacid hck ⟨fr.data.written.drop 10, 0⟩
      (by rw [← hdata]; rfl)
    rw [hread] at hincoming
    obtain rfl := Option.some.inj (Option.some.inj hincoming)
    dsimp only at hmsg
    by_cases hfits : chatFlagslen flags + 8 + strlen msg % 65536 ≤ 1132
    · rw [if_pos hfits] at hmsg
      have hlen := congrArg List.length (Option.some.inj hmsg)
      rw [List.length_take, List.length_take] at hlen
      omega
    · rw [if_neg hfits] at hmsg
      cases hmsg
  · rintro ⟨hlen, hroom⟩
    have hfits : chatFlagslen flags + 8 + strlen msg % 65536 ≤ 1132 := by omega
    obtain ⟨hsize, hlt⟩ := chatMsg_fits_iff.mp hfits
    constructor
    · refine ⟨chatOtl flags msg, chatBlock msg, [chatMsgTlv msg], chatMsgTlv msg, ?_,
        aimGettlv_chatOtl, chatBlock_value_of_lt hlt, ?_, ?_⟩
      · rw [hdata, putChatmsg_written hck, if_pos hsize, List.drop_left' (chatHead_length hck)]
      · rw [aimGettlv_one]
        exact List.find?_cons_of_pos (by simp [chatMsgTlv, createtlv])
      · rw [chatMsgTlv_value, hlen]
    · intro bs hbs
      rw [hdata] at hbs
      refine ⟨_, incomingmsg_chat hck hbs, ?_⟩
      rw [if_pos hfits, hlen]

/-- Without a connection there is no frame, and 0 is returned. -/
theorem chatSendImFrame_null : chatSendImFrame sess snacs 0 now rand flags (some msg) msglen =
    .error 0 := by
  unfold chatSendImFrame
  dsimp only
  rw [if_pos (Or.inl rfl)]

/-- A connection for direct messages cannot take the frame. -/
theorem chatSendImFrame_rendezvous (hc : c ≠ 0) (hpos : 0 < msglen)
    (hrend : (sess.conn c).Rendezvous) :
    chatSendImFrame sess snacs c now rand flags (some msg) msglen = .error (-enomem) := by
  have hneg : ¬ (c = 0 ∨ (msglen : Int) ≤ 0) := not_or.mpr ⟨hc, by omega⟩
  have hnone : aimTxNew sess c aimFrametypeFlap 0x02 1152 = none := by
    unfold aimTxNew
    rw [if_neg hc, if_pos ⟨hrend, by decide⟩]
  unfold chatSendImFrame
  dsimp only
  rw [if_neg hneg, hnone]

theorem chatSendImFrame_ok (hc : c ≠ 0) (hpos : 0 < msglen)
    (hrend : ¬ (sess.conn c).Rendezvous) :
    ∃ fr sess' snacs' snacid ckstr,
      chatSendImFrame sess snacs c now rand flags (some msg) msglen = .ok (fr, sess', snacs') ∧
        ckstr.length = 8 ∧ fr.data = (putChatmsg flags msg snacid ckstr
          (aimBstreamInit (List.replicate 1152 0) 1152)).2 := by
  have hneg : ¬ (c = 0 ∨ (msglen : Int) ≤ 0) := not_or.mpr ⟨hc, by omega⟩
  unfold chatSendImFrame
  dsimp only
  rw [if_neg hneg]
  cases hnew : aimTxNew sess c aimFrametypeFlap 0x02 1152 with
  | none =>
    unfold aimTxNew at hnew
    rw [if_neg hc, if_neg fun h => hrend h.1, if_neg fun h => h.2 rfl] at hnew
    cases hnew
  | some r =>
    have hckstr : ((List.range 8).map rand).length = 8 := by simp
    have hdata : r.1.data = aimBstreamInit (List.replicate 1152 0) 1152 := aimTxNew_data hnew
    exact ⟨_, _, _, _, _, rfl, hckstr, by rw [← hdata]⟩

/-- On a connection that takes the frame. -/
theorem chatDelivered_iff_of_frame (hc : c ≠ 0) (hrend : ¬ (sess.conn c).Rendezvous)
    (hpos : 0 < msglen) (hbuf : msglen ≤ msg.length) :
    ChatDelivered sess snacs c now rand flags msg msglen ↔
      strlen msg % 65536 = msglen ∧ chatFlagslen flags + 8 + msglen ≤ 1132 := by
  obtain ⟨fr, sess', snacs', snacid, ckstr, hframe, hck, hdata⟩ :=
    @chatSendImFrame_ok sess snacs c now rand flags msg msglen hc hpos hrend
  have hcarried := chatCarried_iff hck hbuf hdata
  unfold ChatDelivered aimChatSendIm
  rw [hframe]
  constructor
  · intro h
    obtain ⟨fr', sess'', snacs'', hok, -, hcarry⟩ := h rfl
    obtain ⟨rfl, -⟩ := Prod.mk.inj (Except.ok.inj hok)
    exact hcarried.mp hcarry
  · intro hcond sent _
    exact ⟨fr, sess', snacs', rfl, rfl, hcarried.mpr hcond⟩

/-- A chat message is sent whole, or refused, if and only if the connection is not null and either
cannot take the frame, or `msglen` is the length of the message, taken with sixteen bits, and the
chain fits. -/
theorem chatDelivered_iff (hpos : 0 < msglen) (hbuf : msglen ≤ msg.length) :
    ChatDelivered sess snacs c now rand flags msg msglen ↔
      c ≠ 0 ∧ ((sess.conn c).Rendezvous ∨
        (strlen msg % 65536 = msglen ∧ chatFlagslen flags + 8 + msglen ≤ 1132)) := by
  by_cases hc : c = 0
  · constructor
    · intro h
      subst hc
      unfold ChatDelivered aimChatSendIm at h
      rw [chatSendImFrame_null] at h
      obtain ⟨fr, sess', snacs', hok, -⟩ := h rfl
      cases hok
    · intro h
      exact absurd hc h.1
  · by_cases hrend : (sess.conn c).Rendezvous
    · constructor
      · intro _
        exact ⟨hc, Or.inl hrend⟩
      · intro _ hret
        unfold aimChatSendIm at hret
        rw [chatSendImFrame_rendezvous hc hpos hrend] at hret
        exact absurd (show -enomem = 0 from hret) (by decide)
    · rw [chatDelivered_iff_of_frame hc hrend hpos hbuf]
      constructor
      · intro h
        exact ⟨hc, Or.inr h⟩
      · intro h
        exact h.2.resolve_left hrend

end Send

section Example

/-- A session with a chat connection. -/
def chatSession : AimSession :=
  (aimNewconn (aimSessionInit []) aimConnTypeChat (.connected 3 0)).2

/-- "hi" with its NUL. -/
theorem chatDelivered_short :
    ChatDelivered chatSession aimInitsnachash 1 0 (fun _ => 0x37) 0 [0x68, 0x69, 0x00] 2 :=
  (chatDelivered_iff (by decide) (by decide)).mpr
    ⟨Nat.one_ne_zero, Or.inr ⟨by decide, by decide⟩⟩

/-- A message of 1200 bytes: the frame goes out without it. -/
theorem not_chatDelivered_long :
    ¬ ∀ (sess : AimSession) (snacs : SnacCache) (c : ConnPtr) (now : Int) (rand : Nat → UInt8)
      (flags : UInt16) (msg : List UInt8) (msglen : Nat), c ≠ 0 → 0 < msglen →
      msglen ≤ msg.length → ChatDelivered sess snacs c now rand flags msg msglen := by
  intro h
  have hbuf : 1200 ≤ (List.replicate 1200 (0x61 : UInt8)).length := by
    rw [List.length_replicate]
  have hrend : ¬ (chatSession.conn 1).Rendezvous := by decide
  have hdelivered := h chatSession aimInitsnachash 1 0 (fun _ => 0x37) 0
    (List.replicate 1200 0x61) 1200 (by decide) (by decide) hbuf
  obtain ⟨-, hfits⟩ :=
    (chatDelivered_iff_of_frame (by decide) hrend (by decide) hbuf).mp hdelivered
  omega

end Example

end Libfaim
