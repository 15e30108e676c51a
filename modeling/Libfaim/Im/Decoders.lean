import Libfaim.Im.Outgoing
import Libfaim.Im.RoundTrip
import Libfaim.Im.Sections
import Libfaim.Tlv.RoundTrip

/-!
# One message and its two decoders

A message that `aim_send_im_ext` builds with one section is taken apart by `outgoingim`, from the
cookie on, and by `incomingim_ch1`, from the TLVs on. Both find the same bytes and the same flags
(`decoders_sendImExt`). What `outgoingim` hands on as the charset and the subset has eight bits, and
`incomingim_ch1` shows no message in a charset that clients need not know, though it keeps the
section.
-/

namespace Libfaim

open Mask

/-! ## The message TLV in a chain -/

theorem reads_msgblockLength {features : List UInt8} (h : features.length < 256)
    (length : UInt16) : Reads msgblockLength (aimutilPut16 0x0501 ++
      (aimutilPut16 (UInt8.ofNat features.length).toUInt16 ++ (features ++
        (aimutilPut16 0x0101 ++ aimutilPut16 length)))) length := by
  have hfeatures : Reads (getBytes (UInt8.ofNat features.length).toUInt16.toNat) features
      features := by
    have hlen : (UInt8.ofNat features.length).toUInt16.toNat = features.length := by
      rw [UInt8.toNat_toUInt16, UInt8.toNat_ofNat', Nat.mod_eq_of_lt h]
    rw [hlen]
    exact reads_getBytes features
  have hall : Reads msgblockLength (aimutilPut8 5 ++ (aimutilPut8 1 ++
      (aimutilPut16 (UInt8.ofNat features.length).toUInt16 ++ (features ++ (aimutilPut8 1 ++
        (aimutilPut8 1 ++ aimutilPut16 length)))))) length :=
    (reads_aimbsGet8 5).bind ((reads_aimbsGet8 1).bind ((reads_aimbsGet16 _).bind
      (hfeatures.bind ((reads_aimbsGet8 1).bind ((reads_aimbsGet8 1).bind
        (reads_aimbsGet16 length))))))
  have hfirst : aimutilPut16 0x0501 = aimutilPut8 5 ++ aimutilPut8 1 := by decide
  have hlead : aimutilPut16 0x0101 = aimutilPut8 1 ++ aimutilPut8 1 := by decide
  exact hall.of_eq (by simp only [hfirst, hlead, List.append_assoc])

/-- The first section is read, whatever follows it. -/
theorem outgoingimMsg_of_section {msgblock : AimTlv} {features r : List UInt8}
    {sec : AimMpmsgSection} (hsec : sec.Complete) (hfeatures : features.length < 256)
    (hvalue : msgblock.value = aimutilPut16 0x0501 ++
      (aimutilPut16 (UInt8.ofNat features.length).toUInt16 ++ (features ++ (sec.encode ++ r)))) :
    outgoingimMsg msgblock = some (sec.data, sec.charset.toUInt8, sec.charsubset.toUInt8) := by
  obtain ⟨v, hv, hlen⟩ := hsec
  have hlt := msgblock.length_lt
  have hlength : (sec.datalen + 4).toNat = sec.datalen.toNat + 4 := by
    rw [hvalue] at hlt
    simp only [AimMpmsgSection.encode, hv, Option.getD_some, List.length_append,
      aimutilPut16_length] at hlt
    rw [UInt16.toNat_add]
    exact Nat.mod_eq_of_lt (by show sec.datalen.toNat + 4 < 65536; omega)
  have hrest : AimBstream.rest ⟨msgblock.value, 0⟩ = (aimutilPut16 0x0501 ++
      (aimutilPut16 (UInt8.ofNat features.length).toUInt16 ++ (features ++
        (aimutilPut16 0x0101 ++ aimutilPut16 (sec.datalen + 4))))) ++
          (aimutilPut16 sec.charset ++ (aimutilPut16 sec.charsubset ++ (v ++ r))) := by
    show msgblock.value = _
    rw [hvalue, AimMpmsgSection.encode, hv, Option.getD_some]
    simp only [List.append_assoc]
  have hread := reads_msgblockLength hfeatures (sec.datalen + 4) _ _ hrest
  have hrest1 := AimBstream.rest_skip_of_append _ hrest
  have hflag1 := reads_aimbsGet16 sec.charset _ _ hrest1
  have hrest2 := AimBstream.rest_skip_of_append _ hrest1
  have hflag2 := reads_aimbsGet16 sec.charsubset _ _ hrest2
  have hmsg := reads_aimbsGetraw hlen _ _ (AimBstream.rest_skip_of_append _ hrest2)
  have hmsglen : ((sec.datalen + 4).toNat : Int) - 4 = sec.datalen.toNat := by omega
  unfold outgoingimMsg
  rw [aimBstreamInit_value]
  dsimp only
  rw [hread]
  dsimp only
  rw [hflag1]
  dsimp only
  rw [hflag2, hmsglen]
  dsimp only
  unfold aimbsGetstrInt aimbsGetstr
  rw [if_pos (Int.natCast_nonneg _), Int.toNat_natCast, hv]
  have hlift : (liftM (aimbsGetraw sec.datalen.toNat) : StateT AimBstream Option _) _ = some _ :=
    congrArg some hmsg
  rw [hlift]

/-- Where there is only one TLV of a type, it is found. -/
theorem aimGettlv_of_unique {list : List AimTlv} {tlv : AimTlv} (hmem : tlv ∈ list)
    (h : ∀ x ∈ list, x.type = tlv.type → x = tlv) : aimGettlv list tlv.type 1 = some tlv := by
  obtain ⟨x, hx⟩ := Option.isSome_iff_exists.mp
    ((aimGettlv_isSome_iff list tlv.type).mpr ⟨tlv, hmem, rfl⟩)
  rw [hx]
  rw [aimGettlv_one] at hx
  have htype := List.find?_some hx
  rw [h x (List.mem_of_find?_eq_some hx) (of_decide_eq_true htype)]

/-- The flags of the two TLVs that `outgoingim` looks for. -/
theorem has_outgoingFlags (args : OutgoingimArgs) (ack away : Bool)
    (h : args.icbmflags =
      if away then (if ack then 0 ||| aimImflagsAck.toUInt16 else 0) ||| aimImflagsAway.toUInt16
      else if ack then 0 ||| aimImflagsAck.toUInt16 else 0) :
    (args.has aimImflagsAck ↔ ack = true) ∧ (args.has aimImflagsAway ↔ away = true) := by
  unfold OutgoingimArgs.has
  rw [h]
  clear h
  revert ack away
  decide

section Outgoing

variable {bs : AimBstream} {cookie sn : List UInt8} {list : List AimTlv} {msgblock : AimTlv}
  {msg : Option (List UInt8)} {flag1 flag2 : UInt8}

/-- What `outgoingim` makes of a frame on channel 1, from the cookie on, whose TLVs are complete and
one of which is a message TLV. -/
theorem outgoingim_of_rest (hcookie : cookie.length = 8) (hsn : sn.length < 256)
    (hrest : bs.rest = cookie ++ (aimutilPut16 0x0001 ++ (aimutilPut8 (UInt8.ofNat sn.length) ++
      (sn ++ encodeTlvchain list))))
    (hmsgblock : aimGettlv list.reverse 0x0002 1 = some msgblock)
    (hmsg : outgoingimMsg msgblock = some (msg, flag1, flag2)) :
    ∃ out bs', outgoingim bs = some (some out, bs') ∧ out.sn = some sn ∧ out.msg = msg ∧
      out.flag1 = flag1 ∧ out.flag2 = flag2 ∧
      (out.has aimImflagsAck ↔ ∃ tlv ∈ list, tlv.type = 0x0003) ∧
      (out.has aimImflagsAway ↔ ∃ tlv ∈ list, tlv.type = 0x0004) := by
  have hbytes : Reads (getBytes 8) cookie cookie := hcookie ▸ reads_getBytes cookie
  have hsnlen : sn.length = (UInt8.ofNat sn.length).toNat := by
    rw [UInt8.toNat_ofNat', Nat.mod_eq_of_lt hsn]
  have h1 := Decodes.lift hbytes _ _ hrest
  have hrest1 := bs.rest_skip_of_append hrest
  have h2 := Decodes.lift (reads_aimbsGet16 0x0001) _ _ hrest1
  have hrest2 := AimBstream.rest_skip_of_append _ hrest1
  have h3 := Decodes.lift (reads_aimbsGet8 _) _ _ hrest2
  have hrest3 := AimBstream.rest_skip_of_append _ hrest2
  have hstr : Reads (aimbsGetstr (UInt8.ofNat sn.length).toNat) sn (some sn) :=
    reads_aimbsGetraw hsnlen
  have h4 := Decodes.lift hstr _ _ hrest3
  have hrest4 := AimBstream.rest_skip_of_append _ hrest3
  have h5 := aimReadtlvchain_encode list hrest4
  unfold outgoingim
  rw [stateT_bind h1, stateT_bind h2, if_neg (by decide), stateT_bind h3, stateT_bind h4,
    stateT_bind h5, hmsgblock]
  have hmember (t : UInt16) :
      (aimGettlv list.reverse t 1).isSome = true ↔ ∃ tlv ∈ list, tlv.type = t := by
    rw [aimGettlv_isSome_iff]
    simp only [List.mem_reverse]
  have hlift : ∀ bs, (liftM (outgoingimMsg msgblock) : StateT AimBstream Option _) bs =
      some ((msg, flag1, flag2), bs) := by
    intro bs
    rw [hmsg]
    rfl
  dsimp only
  rw [stateT_bind (hlift _), ← hmember 0x0003, ← hmember 0x0004]
  exact ⟨_, _, rfl, rfl, rfl, rfl, rfl, has_outgoingFlags _ _ _ rfl⟩

end Outgoing

/-! ## The TLVs of a frame -/

theorem mem_optCh1Tlv {c : Prop} [Decidable c] {x y : Ch1Tlv} :
    x ∈ optCh1Tlv c y ↔ c ∧ x = y := by
  unfold optCh1Tlv
  by_cases hc : c
  · rw [if_pos hc, List.mem_singleton, and_iff_right hc]
  · rw [if_neg hc]
    exact ⟨fun h => absurd h List.not_mem_nil, fun h => absurd h.1 hc⟩

/-- Each type behind the message stands for a flag. -/
theorem sentFlagTlvs_type_iff {args : AimSendimextArgs} {t : UInt16} :
    (∃ x ∈ sentFlagTlvs args, x.type = t) ↔
      (args.has aimImflagsAck ∧ 0x0003 = t) ∨ (args.has aimImflagsAway ∧ 0x0004 = t) ∨
        (args.has aimImflagsOffline ∧ 0x0006 = t) ∨ (args.has aimImflagsHasicon ∧ 0x0008 = t) ∨
          (args.has aimImflagsBuddyreq ∧ 0x0009 = t) := by
  simp only [sentFlagTlvs, List.mem_append, mem_optCh1Tlv, or_and_right, exists_or, and_assoc,
    exists_and_left, exists_eq_left]
  exact Iff.rfl

/-- All TLVs of a frame. -/
def sentTlvs (b : MessageBlock) (args : AimSendimextArgs) : List AimTlv :=
  (b.tlv :: sentFlagTlvs args).map Ch1Tlv.toAimTlv

section SentTlvs

variable (b : MessageBlock) (args : AimSendimextArgs)

theorem encodeTlvchain_sentTlvs : encodeTlvchain (sentTlvs b args) =
    (b.tlv :: sentFlagTlvs args).flatMap fun x => x.encode := by
  rw [sentTlvs, encodeTlvchain, List.flatMap_map]

theorem mem_sentTlvs {tlv : AimTlv} : tlv ∈ sentTlvs b args ↔
    tlv = b.tlv.toAimTlv ∨ ∃ x ∈ sentFlagTlvs args, x.toAimTlv = tlv := by
  rw [sentTlvs, List.map_cons, List.mem_cons, List.mem_map]

/-- Every type but that of the message. -/
theorem sentTlvs_type_iff {t : UInt16} (ht : 0x0002 ≠ t) :
    (∃ tlv ∈ sentTlvs b args, tlv.type = t) ↔ ∃ x ∈ sentFlagTlvs args, x.type = t := by
  simp only [mem_sentTlvs]
  constructor
  · rintro ⟨tlv, rfl | ⟨x, hx, rfl⟩, htype⟩
    · exact absurd htype ht
    · exact ⟨x, hx, htype⟩
  · rintro ⟨x, hx, htype⟩
    exact ⟨x.toAimTlv, .inr ⟨x, hx, rfl⟩, htype⟩

theorem sentTlvs_ack : (∃ tlv ∈ sentTlvs b args, tlv.type = 0x0003) ↔ args.has aimImflagsAck := by
  rw [sentTlvs_type_iff b args (by decide), sentFlagTlvs_type_iff]
  simp

theorem sentTlvs_away : (∃ tlv ∈ sentTlvs b args, tlv.type = 0x0004) ↔ args.has aimImflagsAway := by
  rw [sentTlvs_type_iff b args (by decide), sentFlagTlvs_type_iff]
  simp

theorem sentTlvs_message : aimGettlv (sentTlvs b args).reverse 0x0002 1 = some b.tlv.toAimTlv := by
  refine @aimGettlv_of_unique (sentTlvs b args).reverse b.tlv.toAimTlv ?_ ?_
  · rw [List.mem_reverse, mem_sentTlvs]
    exact .inl rfl
  · intro tlv hmem htype
    rw [List.mem_reverse, mem_sentTlvs] at hmem
    rcases hmem with rfl | ⟨x, hx, rfl⟩
    · rfl
    · have htwo : ∃ y ∈ sentFlagTlvs args, y.type = 0x0002 := ⟨x, hx, htype⟩
      rw [sentFlagTlvs_type_iff] at htwo
      simp at htwo

end SentTlvs

/-! ## What both say -/

/-- What the two decoders say of a message with the one section `sec`. -/
structure DecodersAgree (sec : AimMpmsgSection) (out : OutgoingimArgs)
    (res : AimIncomingimCh1Args) : Prop where
  ack : out.has aimImflagsAck ↔ res.has aimImflagsAck
  away : out.has aimImflagsAway ↔ res.has aimImflagsAway
  parts : res.mpmsg.parts = [sec]
  msg : out.msg = sec.data
  charset : sec.charset.toNat < 256 → out.flag1.toUInt16 = sec.charset
  charsubset : sec.charsubset.toNat < 256 → out.flag2.toUInt16 = sec.charsubset
  shown : Readable sec → res.msg = sec.data ∧ res.msglen = sec.datalen.toNat ∧
    res.charset = sec.charset ∧ res.charsubset = sec.charsubset
  hidden : ¬ Readable sec → res.msg = none ∧ res.msglen = 0 ∧
    res.charset = 0xffff ∧ res.charsubset = 0xffff

theorem prioritySection_singleton (sec : AimMpmsgSection) :
    prioritySection [sec] = if Readable sec then some sec else none := by
  cases h : prioritySection [sec] with
  | some best =>
    have hbest := prioritySection_best h
    obtain rfl := List.mem_singleton.mp hbest.mem
    rw [if_pos hbest.readable]
  | none =>
    rw [if_neg (prioritySection_eq_none_iff.mp h sec List.mem_cons_self)]

/-- Eight bits are enough for a small charset. -/
theorem toUInt8_toUInt16_of_lt {c : UInt16} (h : c.toNat < 256) : c.toUInt8.toUInt16 = c := by
  apply UInt16.toNat_inj.mp
  rw [UInt8.toNat_toUInt16, UInt16.toNat_toUInt8]
  exact Nat.mod_eq_of_lt h

/-- The two reports of the TLVs of a frame, where the message TLV has one section. -/
theorem decodersAgree_of_section {args : AimSendimextArgs} {b : MessageBlock}
    {sec : AimMpmsgSection} {out : OutgoingimArgs} (hb : b.sections = [sec])
    (hfeatures : b.features = args.sentFeatures) (hsections : b.sections = args.sentSections)
    (hack : out.has aimImflagsAck ↔ args.has aimImflagsAck)
    (haway : out.has aimImflagsAway ↔ args.has aimImflagsAway) (hmsg : out.msg = sec.data)
    (hflag1 : out.flag1 = sec.charset.toUInt8) (hflag2 : out.flag2 = sec.charsubset.toUInt8) :
    DecodersAgree sec out (readFlags args (b.act AimIncomingimCh1Args.zero)) := by
  have hsame := sameIm_readFlags hfeatures hsections
  have hparts : AimIncomingimCh1Args.zero.mpmsg.addSections b.sections = ⟨0 + 1, [sec]⟩ := by
    rw [hb]
    rfl
  have hchoice := prioritySection_singleton sec
  refine ⟨hack.trans hsame.ack.symm, haway.trans hsame.away.symm, ?_, hmsg, fun h => ?_,
    fun h => ?_, fun h => ?_, fun h => ?_⟩
  · rw [hsame.parts, ← hsections, hb]
  · rw [hflag1, toUInt8_toUInt16_of_lt h]
  · rw [hflag2, toUInt8_toUInt16_of_lt h]
  · rw [if_pos h] at hchoice
    rw [MessageBlock.act, hparts, finishParsemsgs]
    dsimp only
    rw [hchoice]
    dsimp only
    rw [fillSection_eq]
    exact ⟨rfl, rfl, rfl, rfl⟩
  · rw [if_neg h] at hchoice
    rw [MessageBlock.act, hparts, finishParsemsgs]
    dsimp only
    rw [hchoice]
    exact ⟨rfl, rfl, rfl, rfl⟩

/-! ## A message that is sent -/

section Sent

variable {sess : AimSession} {snacs : SnacCache} {c : ConnPtr} {args : AimSendimextArgs} {now : Int}
  {rand : Nat → UInt8} {donttimeout : Bool} {time : Fin faimSnacHashSize → Int}

/-- A message with one section is never too large. -/
theorem msgtlvlen_single_le (hbacked : args.Backed) (hcheck : checkImext args = .ok ())
    (hmulti : ¬ args.has aimImflagsMultipart) : msgtlvlen args + 128 ≤ 65535 := by
  obtain ⟨-, -, hlt⟩ := AimSendimextArgs.checkImext_ok hcheck hmulti
  have hfeatures := AimSendimextArgs.sentFeatures_lt hbacked
  have hdatalen := AimSendimextArgs.sentMsg_datalen hcheck hmulti
  have hsections : args.sentSections = [args.sentMsg] := if_neg hmulti
  have hcomplete := AimSendimextArgs.sentSections_complete hbacked hcheck
  rw [hsections] at hcomplete
  have hsec := AimMpmsgSection.encode_length (hcomplete _ List.mem_cons_self)
  rw [AimSendimextArgs.msgtlvlen_eq hbacked hcheck, hsections, List.flatMap_singleton, hsec,
    hdatalen]
  unfold maxmsglen at hlt
  omega

/-- What is behind the SNAC header and behind the screen name, for a message that was accepted. -/
theorem decodersAgree_of_written {snacid : UInt32} (hbacked : args.Backed)
    (hcheck : checkImext args = .ok ()) (hmulti : ¬ args.has aimImflagsMultipart)
    (hsize : msgtlvlen args + 128 ≤ 65535) (hfits : args.Fits) {written : List UInt8}
    (hwritten : written = (imHead args snacid rand ++ cstr args.destsn) ++
      ((AimSendimextArgs.sentMessage hbacked hcheck hsize).tlv ::
        sentFlagTlvs args).flatMap fun x => x.encode)
    {bs bs' : AimBstream} (hbs : bs.rest = written.drop 10)
    (hbs' : bs'.rest = written.drop (21 + strlen args.destsn)) :
    ∃ out res, (∃ t, outgoingim bs = some (some out, t)) ∧
      (∃ t, incomingimCh1Loop bs' = some (res, t)) ∧ DecodersAgree args.sentMsg out res := by
  have hcstr : (cstr args.destsn).length = strlen args.destsn := rfl
  have hsections : args.sentSections = [args.sentMsg] := if_neg hmulti
  have hcomplete : args.sentMsg.Complete :=
    AimSendimextArgs.sentSections_complete hbacked hcheck _ (hsections ▸ List.mem_cons_self)
  generalize hb : AimSendimextArgs.sentMessage hbacked hcheck hsize = b at hwritten
  have hfeatures : b.features = args.sentFeatures := by rw [← hb]; rfl
  have hbsections : b.sections = args.sentSections := by rw [← hb]; rfl
  have hhead : bs.rest = (List.range 8).map rand ++ (aimutilPut16 0x0001 ++
      (aimutilPut8 (UInt8.ofNat (cstr args.destsn).length) ++ (cstr args.destsn ++
        encodeTlvchain (sentTlvs b args)))) := by
    have hten : (aimutilPut16 0x0004 ++ (aimutilPut16 0x0006 ++ (aimutilPut16 0x0000 ++
        (aimutilPut32 snacid ++ [])))).length = 10 := by
      simp only [List.length_append, aimutilPut16_length, aimutilPut32_length, List.length_nil]
    rw [hbs, hwritten, imHead, List.append_assoc, List.append_assoc, List.drop_left' hten,
      encodeTlvchain_sentTlvs, hcstr]
    simp only [List.append_assoc]
  have hvalue : b.tlv.value = aimutilPut16 0x0501 ++
      (aimutilPut16 (UInt8.ofNat b.features.length).toUInt16 ++
        (b.features ++ (args.sentMsg.encode ++ []))) := by
    show b.value = _
    rw [MessageBlock.value, MessageBlock.featureslen, hbsections, hsections,
      List.flatMap_singleton, List.append_nil]
  have hmsg := outgoingimMsg_of_section hcomplete b.features_lt hvalue
  have hsn : (cstr args.destsn).length < 256 := by
    unfold AimSendimextArgs.Fits at hfits
    omega
  obtain ⟨out, t, hout, -, houtmsg, hflag1, hflag2, hack, haway⟩ := outgoingim_of_rest
    (by rw [List.length_map, List.length_range]) hsn hhead (sentTlvs_message b args) hmsg
  rw [sentTlvs_ack] at hack
  rw [sentTlvs_away] at haway
  rw [hwritten, List.drop_left' (by rw [List.length_append, imHead_length, hcstr])] at hbs'
  obtain ⟨t', hloop⟩ := incomingimCh1Loop_encode hbs'
  rw [List.foldl_cons, foldl_sentFlagTlvs] at hloop
  exact ⟨out, _, ⟨t, hout⟩, ⟨t', hloop⟩, decodersAgree_of_section (hbsections.trans hsections)
    hfeatures hbsections hack haway houtmsg hflag1 hflag2⟩

/-- A message with one section that `aim_send_im_ext` accepts and that fits: of its frame,
`outgoingim` on what is behind the SNAC header and `incomingim_ch1` on what is behind the screen name
find the same flags and the same bytes, in the same charset and subset as far as these have eight
bits. As the message `incomingim_ch1` shows it only in a charset that clients know. -/
theorem decoders_sendImExt
    (haccepted : (aimSendImExt sess snacs c args now rand donttimeout time).1 = 0)
    (hbacked : args.Backed) (hmulti : ¬ args.has aimImflagsMultipart)
    (hfits : args.Fits) :
    ∃ fr sess' snacs', sendImextFrame sess snacs c args now rand = .ok (fr, sess', snacs') ∧
      (aimSendImExt sess snacs c args now rand donttimeout time).2.1 = aimTxEnqueue sess' fr ∧
      ∀ bs bs' : AimBstream, bs.rest = fr.data.written.drop 10 →
        bs'.rest = fr.data.written.drop (21 + strlen args.destsn) →
        ∃ out res, (∃ t, outgoingim bs = some (some out, t)) ∧
          (∃ t, incomingimCh1Loop bs' = some (res, t)) ∧ DecodersAgree args.sentMsg out res := by
  obtain ⟨hcheck, fr, sess', snacs', snacid, hframe, hdata⟩ := sendImextFrame_of_accepted haccepted
  have hsize := msgtlvlen_single_le hbacked hcheck hmulti
  have hwritten := putImext_written hbacked hcheck hsize hfits snacid rand
  rw [← hdata] at hwritten
  exact ⟨fr, sess', snacs', hframe, aimSendImExt_enqueues hframe, fun bs bs' hbs hbs' =>
    decodersAgree_of_written hbacked hcheck hmulti hsize hfits hwritten hbs hbs'⟩

end Sent

section Example

/-- Two bytes in a charset, for which an acknowledgement is asked. -/
def charsetArgs (charset : UInt16) : AimSendimextArgs where
  destsn := [0x61, 0x62]
  flags := aimImflagsCustomcharset ||| aimImflagsAck
  msg := some [0x68, 0x69]
  msglen := 2
  mpmsg := aimMpmsgInit
  iconlen := 0
  iconstamp := 0
  iconsum := 0
  features := []
  featureslen := 0
  charset := charset
  charsubset := 0x000b

theorem charsetArgs_backed (charset : UInt16) : (charsetArgs charset).Backed := by
  have hflags : (charsetArgs charset).flags = aimImflagsCustomcharset ||| aimImflagsAck := rfl
  refine ⟨fun h => absurd h ?_, fun _ m hm => ?_, fun h => absurd h ?_⟩
  · unfold AimSendimextArgs.has
    rw [hflags]
    decide
  · obtain rfl := Option.some.inj hm
    exact Int.le_refl 2
  · unfold AimSendimextArgs.has
    rw [hflags]
    decide

/-- A session with a BOS connection. -/
def sessionWithBos : AimSession :=
  (aimNewconn (aimSessionInit []) aimConnTypeBos (.connected 3 0)).2

theorem decoders_sendImExt_iso :
    ∃ fr sess' snacs', sendImextFrame sessionWithBos aimInitsnachash 1 (charsetArgs 0x0003) 0
        (fun _ => 0x37) = .ok (fr, sess', snacs') ∧
      ∃ out res, (∃ t, outgoingim ⟨fr.data.written.drop 10, 0⟩ = some (some out, t)) ∧
        (∃ t, incomingimCh1Loop ⟨fr.data.written.drop 23, 0⟩ = some (res, t)) ∧
          DecodersAgree (charsetArgs 0x0003).sentMsg out res := by
  obtain ⟨fr, sess', snacs', hframe, -, hdecoders⟩ :=
    @decoders_sendImExt sessionWithBos aimInitsnachash 1 (charsetArgs 0x0003) 0 (fun _ => 0x37) false
      (fun _ => 0) (by decide) (charsetArgs_backed 0x0003) (by decide)
      (AimSendimextArgs.fits_of_le (by decide))
  exact ⟨fr, sess', snacs', hframe, hdecoders ⟨_, 0⟩ ⟨_, 0⟩ rfl rfl⟩

/-- In another charset one decoder has the two bytes, and the other no message and no charset. -/
theorem not_decoders_sendImExt :
    ∃ fr sess' snacs', sendImextFrame sessionWithBos aimInitsnachash 1 (charsetArgs 0x0001) 0
        (fun _ => 0x37) = .ok (fr, sess', snacs') ∧
      ∃ out res, (∃ t, outgoingim ⟨fr.data.written.drop 10, 0⟩ = some (some out, t)) ∧
        (∃ t, incomingimCh1Loop ⟨fr.data.written.drop 23, 0⟩ = some (res, t)) ∧
          out.msg = some [0x68, 0x69] ∧ res.msg = none ∧
            out.flag1 = 0x01 ∧ res.charset = 0xffff := by
  have haccepted : (aimSendImExt sessionWithBos aimInitsnachash 1 (charsetArgs 0x0001) 0
      (fun _ => 0x37) false (fun _ => 0)).1 = 0 := by decide
  obtain ⟨hcheck, fr, sess', snacs', snacid, hframe, hdata⟩ := sendImextFrame_of_accepted haccepted
  have hmulti : ¬ (charsetArgs 0x0001).has aimImflagsMultipart := by decide
  have hsize := msgtlvlen_single_le (charsetArgs_backed 0x0001) hcheck hmulti
  have hfits : (charsetArgs 0x0001).Fits := AimSendimextArgs.fits_of_le (by decide)
  have hwritten := putImext_written (charsetArgs_backed 0x0001) hcheck hsize hfits snacid
    (fun _ => 0x37)
  rw [← hdata] at hwritten
  have hbs : AimBstream.rest ⟨fr.data.written.drop 10, 0⟩ = fr.data.written.drop 10 := rfl
  have hbs' : AimBstream.rest ⟨fr.data.written.drop 23, 0⟩ = fr.data.written.drop 23 := rfl
  obtain ⟨out, res, hout, hres, hagree⟩ := decodersAgree_of_written (charsetArgs_backed 0x0001)
    hcheck hmulti hsize hfits hwritten hbs hbs'
  obtain ⟨hmsg, -, hcharset, -⟩ := hagree.hidden (by decide)
  refine ⟨fr, sess', snacs', hframe, out, res, hout, hres, ?_, hmsg, ?_, hcharset⟩
  · rw [hagree.msg]
    decide
  · have hflag1 := hagree.charset (by decide)
    apply UInt8.toNat_inj.mp
    rw [← UInt8.toNat_toUInt16, hflag1]
    decide

end Example

end Libfaim
