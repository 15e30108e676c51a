import Libfaim.Im.Ch2RoundTrip
import Libfaim.Im.Outgoing
import Libfaim.Im.RoundTrip
import Libfaim.Request.Calls
import Libfaim.Userinfo.Framing

/-!
# Messages from one client to another (`im.c`)

A frame with a message has the destination's screen name where the frame that `incomingim` reads
has a block of user information; the cookie, the channel and the TLVs of the message are in both
(`relay`). `incomingim` reads the cookie, the channel and the block, and the rest as the channel
demands. What was sent with `aim_send_im_ext`, `aim_send_icon` or `aim_send_rtfmsg` is taken in as
it was sent, whatever the block says of the sender (`im_relayed`, `rendezvous_relayed`): its TLVs
may well have the types of TLVs of the message.
-/

namespace Libfaim

/-- What the callback for a message is given: channel, user information and arguments. -/
inductive IncomingimArgs where
  | ch1 (userinfo : AimUserinfo) (args : AimIncomingimCh1Args)
  | ch2 (userinfo : AimUserinfo) (args : AimIncomingimCh2Args)

/-- `incomingim`, up to the callback; other channels are ignored. -/
def incomingim : StateT AimBstream Option (Option IncomingimArgs) := do
  let _cookie ← getBytes 8
  let channel ← aimbsGet16
  let userinfo ← aimExtractuserinfo
  if channel = 1 then
    let args ← incomingimCh1Loop
    return some (.ch1 userinfo args)
  else if channel = 2 then
    let tlvlist ← aimReadtlvchain
    let args ← StateT.lift (incomingimCh2 tlvlist)
    return some (.ch2 userinfo args)
  else return none

/-! ## From one frame to the other -/

/-- What `incomingim` is to read of a message that was sent: cookie and channel, the block, and what
was behind the destination screen name. -/
def relay (block sent : List UInt8) : List UInt8 :=
  (sent.drop 10).take 10 ++ (block ++ sent.drop (21 + (aimutilGet8 (sent.drop 20)).toNat))

section Relay

variable {block ck sn snac rest : List UInt8} {chan : UInt16}

/-- Cookie and channel, the destination, and the rest. -/
theorem relay_eq (hsnac : snac.length = 10) (hck : ck.length = 8) (hsn : strlen sn ≤ 255) :
    relay block ((snac ++ (ck ++ (aimutilPut16 chan ++ aimutilPut8 (UInt8.ofNat (strlen sn))))) ++
      cstr sn ++ rest) = ck ++ (aimutilPut16 chan ++ (block ++ rest)) := by
  have hcstr : (cstr sn).length = strlen sn := rfl
  have hlen : (UInt8.ofNat (strlen sn)).toNat = strlen sn := by
    rw [UInt8.toNat_ofNat']
    omega
  have hhead : (snac ++ (ck ++ (aimutilPut16 chan ++
      aimutilPut8 (UInt8.ofNat (strlen sn))))).length = 21 := by
    simp only [List.length_append, hsnac, hck, aimutilPut16_length, aimutilPut8_length]
  have hbyte : aimutilGet8 (((snac ++ (ck ++ (aimutilPut16 chan ++
      aimutilPut8 (UInt8.ofNat (strlen sn))))) ++ cstr sn ++ rest).drop 20) =
        UInt8.ofNat (strlen sn) := by
    have hfront : (snac ++ (ck ++ aimutilPut16 chan)).length = 20 := by simp [hsnac, hck]
    have hsplit : (snac ++ (ck ++ (aimutilPut16 chan ++
        aimutilPut8 (UInt8.ofNat (strlen sn))))) ++ cstr sn ++ rest =
          (snac ++ (ck ++ aimutilPut16 chan)) ++
            (aimutilPut8 (UInt8.ofNat (strlen sn)) ++ (cstr sn ++ rest)) := by
      simp only [List.append_assoc]
    rw [hsplit, List.drop_left' hfront, aimutilGet8_put8]
  have hfirst : (((snac ++ (ck ++ (aimutilPut16 chan ++
      aimutilPut8 (UInt8.ofNat (strlen sn))))) ++ cstr sn ++ rest).drop 10).take 10 =
        ck ++ aimutilPut16 chan := by
    rw [List.append_assoc, List.append_assoc, List.drop_left' hsnac, ← List.append_assoc ck,
      List.append_assoc, List.take_left' (by simp [hck])]
  rw [relay, hbyte, hlen, hfirst, List.drop_left' (by rw [List.length_append, hhead, hcstr])]
  simp only [List.append_assoc]

/-- The receiver has the user information, and goes on behind it. -/
theorem incomingim_relayed {snname : List UInt8} {warnlevel : UInt16} {tlvs : List AimTlv}
    (hname : snname.length ≤ maxsnlen) (hcount : tlvs.length < 65536)
    (hcaps : ∀ tlv ∈ tlvs, WholeCaps tlv) (hck : ck.length = 8) {bs : AimBstream}
    (hbs : bs.rest = ck ++ (aimutilPut16 chan ++ (userinfoBlock snname warnlevel tlvs ++ rest))) :
    ∃ info bs', Framed tlvs (userinfoStart snname warnlevel) info ∧ bs'.rest = rest ∧
      incomingim bs =
        (if chan = 1 then do
            let args ← incomingimCh1Loop
            return some (.ch1 info args)
          else if chan = 2 then do
            let tlvlist ← aimReadtlvchain
            let args ← StateT.lift (incomingimCh2 tlvlist)
            return some (.ch2 info args)
          else return none : StateT AimBstream Option (Option IncomingimArgs)) bs' := by
  have hcookie : (getBytes 8) bs = (ck, bs.skip ck.length) := by
    have hread := reads_getBytes ck
    rw [hck] at hread
    exact hread _ _ hbs
  have hrest1 := bs.rest_skip_of_append hbs
  have hchannel := reads_aimbsGet16 chan _ _ hrest1
  have hrest2 := AimBstream.rest_skip_of_append _ hrest1
  obtain ⟨info, hextract, hframed⟩ := aimExtractuserinfo_framed hname hcount hcaps hrest2
  refine ⟨info, _, hframed, AimBstream.rest_skip_of_append _ hrest2, ?_⟩
  unfold incomingim
  rw [stateT_lift_bind, hcookie, stateT_lift_bind, hchannel, stateT_bind hextract]

end Relay

/-! ## Messages -/

section Sent

variable {sess : AimSession} {snacs : SnacCache} {c : ConnPtr} {now : Int} {rand : Nat → UInt8}
  {snname : List UInt8} {warnlevel : UInt16} {tlvs : List AimTlv}

/-- A message that `aim_send_im_ext` accepts, to a screen name of at most 32 bytes and in a frame of
at most 65535 bytes, from a user with a name of at most 32 bytes and whole capability blocks. -/
theorem im_relayed {args : AimSendimextArgs} {donttimeout : Bool}
    {time : Fin faimSnacHashSize → Int}
    (haccepted : (aimSendImExt sess snacs c args now rand donttimeout time).1 = 0)
    (hbacked : args.Backed) (hsn : strlen args.destsn ≤ 32)
    (hsize : msgtlvlen args + 128 ≤ 65535)
    (hname : snname.length ≤ maxsnlen) (hcount : tlvs.length < 65536)
    (hcaps : ∀ tlv ∈ tlvs, WholeCaps tlv) :
    ∃ fr sess' snacs', sendImextFrame sess snacs c args now rand = .ok (fr, sess', snacs') ∧
      (aimSendImExt sess snacs c args now rand donttimeout time).2.1 = aimTxEnqueue sess' fr ∧
      ∀ bs : AimBstream,
        bs.rest = relay (userinfoBlock snname warnlevel tlvs) fr.data.written →
        ∃ info res bs', incomingim bs = some (some (.ch1 info res), bs') ∧
          Framed tlvs (userinfoStart snname warnlevel) info ∧ SameIm args res := by
  obtain ⟨hcheck, fr, sess', snacs', snacid, hframe, hdata⟩ := sendImextFrame_of_accepted haccepted
  have hfits : args.Fits := AimSendimextArgs.fits_of_le (Nat.le_trans hsn (by decide))
  have hwritten := putImext_written hbacked hcheck hsize hfits snacid rand
  rw [← hdata] at hwritten
  have hck : ((List.range 8).map rand).length = 8 := randCookie_length
  refine ⟨fr, sess', snacs', hframe, aimSendImExt_enqueues hframe, fun bs hbs => ?_⟩
  rw [hwritten, imHead, relay_eq (by simp) hck (by omega)] at hbs
  obtain ⟨info, behind, hframed, hrest, hread⟩ := incomingim_relayed hname hcount hcaps hck hbs
  obtain ⟨bs', hloop⟩ := incomingimCh1Loop_encode hrest
  rw [List.foldl_cons, foldl_sentFlagTlvs] at hloop
  have hrun : incomingim bs = some (some (.ch1 info (readFlags args
      ((AimSendimextArgs.sentMessage hbacked hcheck hsize).act
        AimIncomingimCh1Args.zero))), bs') := by
    rw [hread, if_pos rfl, stateT_bind hloop]
    rfl
  exact ⟨info, _, bs', hrun, hframed, sameIm_readFlags rfl rfl⟩

/-- What is written first stays in front, whatever is put behind it. -/
theorem Writes.written_first {α β : Type} {m : StateM AimBstream α} {k : α → StateM AimBstream β}
    {v : List UInt8} {x : α} {n : Nat} (hm : Writes m v x) (hk : Appends (k x)) (hn : n < 65536)
    (hv : v.length ≤ n) :
    ∃ w, ((m >>= k) (aimBstreamInit (List.replicate n 0) n)).2.written = v ++ w := by
  have hempty := aimBstreamEmpty_replicate n
  have hfresh : (⟨List.replicate n 0, 0⟩ : AimBstream).offset ≤
      (⟨List.replicate n 0, 0⟩ : AimBstream).len := Nat.zero_le _
  have hstored := AimBstream.store_offset_le hfresh (v := v) (by omega)
  obtain ⟨w, hw⟩ := (hk _ hstored).written_eq
  rw [AimBstream.written_store hfresh] at hw
  rw [aimBstreamInit_replicate hn, stateM_bind, hm _ hfresh (by omega)]
  exact ⟨w, hw⟩

/-- The head of a frame, and what the receiver reads as a chain. -/
theorem CarriesBlock.written {sn : List UInt8} {snacid : UInt32}
    {k : Nat → StateM AimBstream Nat} {datalen : Nat} {fr : AimFrame} {b : RendBlock}
    {extra : List AimTlv} (h : CarriesBlock fr sn b extra) (hk : ∀ x, Appends (k x))
    (hroom : 21 + strlen sn ≤ datalen) (hlt : datalen < 65536)
    (hdata : fr.data = ((putRendhead sn snacid b.cookie >>= k)
      (aimBstreamInit (List.replicate datalen 0) datalen)).2) :
    fr.data.written =
      (rendHead sn snacid b.cookie ++ cstr sn) ++ encodeTlvchain (blockTlv b :: extra) := by
  have hhead : (rendHead sn snacid b.cookie ++ cstr sn).length = 21 + strlen sn := by
    rw [List.length_append, rendHead_length b.cookie_length]
    rfl
  obtain ⟨w, hw⟩ := (writes_putRendhead b.cookie_length).written_first (hk _) hlt
    (by rw [hhead]; exact hroom)
  rw [← hdata] at hw
  rw [← h.region, hw, List.drop_left' hhead]

/-- The receiver has the user information and what the block says. -/
theorem relayed_carriesBlock {fr : AimFrame} {sn : List UInt8} {snacid : UInt32} {b : RendBlock}
    {extra : List AimTlv} {serv : AimTlv} {res : AimIncomingimCh2Args}
    (h : CarriesBlock fr sn b extra)
    (hwritten : fr.data.written =
      (rendHead sn snacid b.cookie ++ cstr sn) ++ encodeTlvchain (blockTlv b :: extra))
    (hsn : strlen sn ≤ 32) (hextra : ∀ tlv ∈ extra, tlv.type ≠ 0x0005)
    (hip : ∀ tlv ∈ b.list2, NoIp tlv) (hserv : aimGettlv b.list2.reverse 0x2711 1 = some serv)
    (hres : incomingimCh2Servdata b.args (some ⟨serv.value, 0⟩) = some res)
    (hname : snname.length ≤ maxsnlen) (hcount : tlvs.length < 65536)
    (hcaps : ∀ tlv ∈ tlvs, WholeCaps tlv) {bs : AimBstream}
    (hbs : bs.rest = relay (userinfoBlock snname warnlevel tlvs) fr.data.written) :
    ∃ info bs', incomingim bs = some (some (.ch2 info res), bs') ∧
      Framed tlvs (userinfoStart snname warnlevel) info := by
  have hregion := h.region
  rw [hwritten, rendHead, relay_eq (by simp) b.cookie_length (by omega)] at hbs
  obtain ⟨info, behind, hframed, hrest, hread⟩ :=
    incomingim_relayed hname hcount hcaps b.cookie_length hbs
  rw [← hregion] at hrest
  obtain ⟨tlvlist, bs', hchain, hch2⟩ := h.incomingimCh2 hextra hip hserv hrest
  refine ⟨info, bs', ?_, hframed⟩
  rw [hread, if_neg (by decide), if_pos rfl, stateT_bind hchain,
    stateT_bind (stateT_lift_some (hch2.trans hres) bs')]
  rfl

theorem appends_putIcondata (args : AimSendIconArgs) : Appends (putIcondata args) :=
  (appends_aimbsPut16 _).bind fun _ => (appends_aimbsPut16 _).bind fun _ =>
    (appends_aimbsPut16 _).bind fun _ => (appends_aimbsPut16 _).bind fun _ =>
      (appends_aimbsPut32 _).bind fun _ => (appends_aimbsPut32 _).bind fun _ =>
        (appends_aimbsPutraw _ _).bind fun _ => appends_aimbsPutraw _ _

/-- An icon or a rich text that is accepted, with the same bounds. -/
theorem rendezvous_relayed (hname : snname.length ≤ maxsnlen) (hcount : tlvs.length < 65536)
    (hcaps : ∀ tlv ∈ tlvs, WholeCaps tlv) :
    (∀ args : AimSendIconArgs, (aimSendIcon sess snacs c now rand args).1 = 0 →
      args.iconlen ≤ args.icon.length → strlen args.sn ≤ 32 →
      ∃ fr sess' snacs', sendIconFrame sess snacs c now rand args = .ok (fr, sess', snacs') ∧
        (aimSendIcon sess snacs c now rand args).2.1 = aimTxEnqueue sess' fr ∧
        ∀ bs : AimBstream,
          bs.rest = relay (userinfoBlock snname warnlevel tlvs) fr.data.written →
          ∃ info res bs', incomingim bs = some (some (.ch2 info res), bs') ∧
            Framed tlvs (userinfoStart snname warnlevel) info ∧ res.cookie = randCookie rand ∧
            res.reqclass = aimCapsBuddyicon.toUInt16 ∧
            res.info = .icon args.iconsum.toUInt32 (UInt32.ofInt args.iconlen)
              (UInt32.ofInt args.stamp) (some (args.icon.take args.iconlen.toNat))) ∧
    ∀ args : AimSendrtfmsgArgs, (aimSendRtfmsg sess snacs c now rand args).1 = 0 →
      strlen args.destsn ≤ 32 → 10 + 128 + rtfServdatalen args ≤ 65535 →
      ∃ fr sess' snacs', sendRtfmsgFrame sess snacs c now rand args = .ok (fr, sess', snacs') ∧
        (aimSendRtfmsg sess snacs c now rand args).2.1 = aimTxEnqueue sess' fr ∧
        ∀ bs : AimBstream,
          bs.rest = relay (userinfoBlock snname warnlevel tlvs) fr.data.written →
          ∃ info res bs' rtfmsg, incomingim bs = some (some (.ch2 info res), bs') ∧
            Framed tlvs (userinfoStart snname warnlevel) info ∧ res.cookie = randCookie rand ∧
            res.reqclass = aimCapsIcqrtf.toUInt16 ∧
            res.info = .rtfmsg args.fgcolor args.bgcolor (some rtfmsg) ∧
            cstr rtfmsg = cstr args.rtfmsg := by
  constructor
  · intro args haccepted hbacked hsn
    obtain ⟨⟨hpos, hlt⟩, fr, sess', snacs', hframe, n, hn, hdata⟩ :=
      sendIconFrame_of_accepted haccepted
    have hvalid : args.Valid := ⟨hpos, hlt, hbacked⟩
    have hicon := hvalid.iconlen_lt
    have hident : aimIconident.length = 14 := rfl
    have hserv : args.servdata.length < 65536 := by
      rw [hvalid.servdata_length]
      omega
    have hcarries := iconFrame_carriesBlock hvalid hsn hn hdata
    have hwritten := hcarries.written (fun _ => (appends_putRendblock _ _ _).bind fun _ =>
      (appends_putIcondata args).bind fun _ => (appends_aimbsPut16 _).bind fun _ =>
        appends_aimbsPut16 _) (by omega) (by omega) hdata
    have hextra : ∀ tlv ∈ [iconEndTlv], tlv.type ≠ 0x0005 := by
      intro tlv htlv
      rw [List.mem_singleton.mp htlv]
      exact (by decide : (0x0003 : UInt16) ≠ 0x0005)
    have hres := @incomingimCh2Servdata_icon rand args hvalid
    rw [← servTlv_value hserv] at hres
    refine ⟨fr, sess', snacs', hframe, aimSendIcon_enqueues hframe, fun bs hbs => ?_⟩
    obtain ⟨info, bs', hread, hframed⟩ := relayed_carriesBlock hcarries hwritten hsn hextra
      (noIp_serv _) (aimGettlv_serv _) hres hname hcount hcaps hbs
    exact ⟨info, _, bs', hread, hframed, rfl, rfl, rfl⟩
  · intro args haccepted hsn hsize
    obtain ⟨fr, sess', snacs', hframe, hdata⟩ := sendRtfmsgFrame_of_accepted haccepted
    have hlen : rtfServdatalen args < 65536 := by omega
    have hserv : args.servdata.length < 65536 := by rwa [args.servdata_length]
    have hcarries := rtfFrame_carriesBlock hsn hsize hdata
    have hwritten := hcarries.written (fun _ => (appends_putRendblock _ _ _).bind fun _ =>
      appends_putRtfdata args) (by omega) (by omega) hdata
    have hextra : ∀ tlv ∈ ([] : List AimTlv), tlv.type ≠ 0x0005 :=
      fun tlv htlv => absurd htlv List.not_mem_nil
    have hres := @incomingimCh2Servdata_rtf rand args hlen
    rw [← servTlv_value hserv] at hres
    refine ⟨fr, sess', snacs', hframe, aimSendRtfmsg_enqueues hframe, fun bs hbs => ?_⟩
    obtain ⟨info, bs', hread, hframed⟩ := relayed_carriesBlock hcarries hwritten hsn hextra
      (noIp_serv _) (aimGettlv_serv _) hres hname hcount hcaps hbs
    exact ⟨info, _, bs', _, hread, hframed, rfl, rfl, rfl, cstr_append_nul args.rtfmsg⟩

end Sent

section Example

/-- A class and an idle time of the sender, whose types a message uses for other things. -/
def senderTlvs : List AimTlv := [createtlv 0x0001 2 [0, 0x10], createtlv 0x0004 2 [0, 9]]

theorem senderTlvs_wholeCaps : ∀ tlv ∈ senderTlvs, WholeCaps tlv := by
  unfold WholeCaps
  decide

/-- Two sections, an icon and the acknowledge flag arrive with the class and the idle time. -/
theorem im_relayed_multipart :
    let sess := (aimNewconn (aimSessionInit []) aimConnTypeBos (.connected 3 0)).2
    ∃ fr sess' snacs',
      sendImextFrame sess aimInitsnachash 1 multipartArgs 0 (fun _ => 0x37) =
        .ok (fr, sess', snacs') ∧
      ∃ info res bs', incomingim
          ⟨relay (userinfoBlock [0x63] 0 senderTlvs) fr.data.written, 0⟩ =
            some (some (.ch1 info res), bs') ∧
        Framed senderTlvs (userinfoStart [0x63] 0) info ∧ SameIm multipartArgs res := by
  intro sess
  obtain ⟨fr, sess', snacs', hframe, -, hread⟩ :=
    @im_relayed sess aimInitsnachash 1 0 (fun _ => 0x37) [0x63] 0 senderTlvs multipartArgs false
      (fun _ => 0) (by decide) multipartArgs_backed (by decide) (by decide) (by decide) (by decide)
      senderTlvs_wholeCaps
  exact ⟨fr, sess', snacs', hframe, hread ⟨_, 0⟩ rfl⟩

theorem rendezvous_relayed_hi :
    let sess := (aimNewconn (aimSessionInit []) aimConnTypeBos (.connected 3 0)).2
    (∃ fr sess' snacs', sendIconFrame sess aimInitsnachash 1 0 (fun _ => 0x37) oneByteIcon =
        .ok (fr, sess', snacs') ∧
      ∃ info res bs', incomingim
          ⟨relay (userinfoBlock [0x63] 0 senderTlvs) fr.data.written, 0⟩ =
            some (some (.ch2 info res), bs') ∧
        Framed senderTlvs (userinfoStart [0x63] 0) info ∧
        res.info = .icon 0x4700 1 1000000000 (some [0x47])) ∧
    ∃ fr sess' snacs', sendRtfmsgFrame sess aimInitsnachash 1 0 (fun _ => 0x37) hiRtfmsg =
        .ok (fr, sess', snacs') ∧
      ∃ info res bs' rtfmsg, incomingim
          ⟨relay (userinfoBlock [0x63] 0 senderTlvs) fr.data.written, 0⟩ =
            some (some (.ch2 info res), bs') ∧
        res.info = .rtfmsg 0x00ff0000 0x00ffffff (some rtfmsg) ∧ cstr rtfmsg = [0x68, 0x69] := by
  intro sess
  obtain ⟨hicons, hmsgs⟩ :=
    @rendezvous_relayed sess aimInitsnachash 1 0 (fun _ => 0x37) [0x63] 0 senderTlvs (by decide)
      (by decide) senderTlvs_wholeCaps
  constructor
  · obtain ⟨fr, sess', snacs', hframe, -, hread⟩ :=
      hicons oneByteIcon (by decide) (by decide) (by decide)
    obtain ⟨info, res, bs', hrun, hframed, -, -, hinfo⟩ := hread ⟨_, 0⟩ rfl
    exact ⟨fr, sess', snacs', hframe, info, res, bs', hrun, hframed, hinfo⟩
  · obtain ⟨fr, sess', snacs', hframe, -, hread⟩ :=
      hmsgs hiRtfmsg (by decide) (by decide) (by decide)
    obtain ⟨info, res, bs', rtfmsg, hrun, -, -, -, hinfo, htext⟩ := hread ⟨_, 0⟩ rfl
    exact ⟨fr, sess', snacs', hframe, info, res, bs', rtfmsg, hrun, hinfo, htext⟩

end Example

end Libfaim
