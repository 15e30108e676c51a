import Libfaim.Conn
import Libfaim.Im.Ch1
import Libfaim.TxQueue.Rules

/-!
# Sending an instant message and taking it in again

What `aim_send_im_ext` puts behind the destination screen name is the message TLV and the TLVs of
the flags (`putImext_written`), with the size it has computed beforehand (`msgtlvlen_eq`). The loop
of `incomingim_ch1` takes them in one by one.
-/

namespace Libfaim

open Mask

/-! ## What is sent -/

namespace AimSendimextArgs

variable (args : AimSendimextArgs)

def sentFeatures : List UInt8 :=
  if args.has aimImflagsCustomfeatures then args.features.take args.featureslen.toNat
  else deffeatures

def sentCharset : UInt16 × UInt16 :=
  if args.has aimImflagsCustomcharset then (args.charset, args.charsubset)
  else
    (if args.has aimImflagsUnicode then 0x0002
      else if args.has aimImflagsIso88591 then 0x0003
      else 0x0000, 0x0000)

/-- The one section of a message that is not multipart. -/
def sentMsg : AimMpmsgSection where
  charset := args.sentCharset.1
  charsubset := args.sentCharset.2
  data := some ((args.msg.getD []).take args.msglen.toNat)
  datalen := UInt16.ofNat args.msglen.toNat

def sentSections : List AimMpmsgSection :=
  if args.has aimImflagsMultipart then args.mpmsg.parts else [args.sentMsg]

/-- The pointers of the arguments have behind them as many bytes as the lengths say. -/
structure Backed : Prop where
  features : args.has aimImflagsCustomfeatures → args.featureslen.toNat ≤ args.features.length
  msg : ¬ args.has aimImflagsMultipart → ∀ m, args.msg = some m → args.msglen ≤ m.length
  parts : args.has aimImflagsMultipart → ∀ sec ∈ args.mpmsg.parts, sec.Complete

variable {args}

theorem sentFeatures_length (h : args.Backed) : args.sentFeatures.length =
    if args.has aimImflagsCustomfeatures then args.featureslen.toNat else 4 := by
  unfold sentFeatures
  by_cases hc : args.has aimImflagsCustomfeatures
  · rw [if_pos hc, if_pos hc, List.length_take, Nat.min_eq_left (h.features hc)]
  · rw [if_neg hc, if_neg hc]
    rfl

theorem sentFeatures_lt (h : args.Backed) : args.sentFeatures.length < 256 := by
  have hlt : args.featureslen.toNat < 256 := args.featureslen.toNat_lt
  rw [sentFeatures_length h]
  split
  · exact hlt
  · decide

/-- What `aim_send_im_ext` has checked of a message that is not multipart. -/
theorem checkImext_ok (h : checkImext args = .ok ()) (hmulti : ¬ args.has aimImflagsMultipart) :
    (∃ m, args.msg = some m) ∧ 0 < args.msglen ∧ args.msglen < maxmsglen := by
  unfold checkImext at h
  rw [if_neg hmulti] at h
  by_cases hnull : args.msg = none ∨ args.msglen ≤ 0
  · rw [if_pos hnull] at h
    cases h
  · rw [if_neg hnull] at h
    obtain ⟨hmsg, hpos⟩ := not_or.mp hnull
    by_cases hlong : args.msglen ≥ maxmsglen
    · rw [if_pos hlong] at h
      cases h
    · exact ⟨Option.ne_none_iff_exists'.mp hmsg, Int.not_le.mp hpos, Int.not_le.mp hlong⟩

theorem sentMsg_datalen (h : checkImext args = .ok ()) (hmulti : ¬ args.has aimImflagsMultipart) :
    args.sentMsg.datalen.toNat = args.msglen.toNat := by
  obtain ⟨-, -, hlt⟩ := checkImext_ok h hmulti
  unfold maxmsglen at hlt
  rw [sentMsg, UInt16.toNat_ofNat', Nat.mod_eq_of_lt (by omega)]

theorem sentSections_complete (hbacked : args.Backed) (h : checkImext args = .ok ()) :
    ∀ sec ∈ args.sentSections, sec.Complete := by
  unfold sentSections
  by_cases hmulti : args.has aimImflagsMultipart
  · rw [if_pos hmulti]
    exact hbacked.parts hmulti
  · rw [if_neg hmulti]
    intro sec hsec
    obtain rfl := List.mem_singleton.mp hsec
    obtain ⟨⟨m, hm⟩, -, -⟩ := checkImext_ok h hmulti
    have hle := hbacked.msg hmulti m hm
    refine ⟨_, rfl, ?_⟩
    rw [sentMsg_datalen h hmulti, hm, Option.getD_some, List.length_take]
    omega

theorem foldl_datalen {l : List AimMpmsgSection} (hl : ∀ sec ∈ l, sec.Complete) (n : Nat) :
    l.foldl (fun msgtlvlen sec => msgtlvlen + (2 + 2) + (4 + sec.datalen.toNat)) n =
      n + (l.flatMap AimMpmsgSection.encode).length := by
  induction l generalizing n with
  | nil => rfl
  | cons sec l ih =>
    have hsec := AimMpmsgSection.encode_length (hl sec List.mem_cons_self)
    rw [List.foldl_cons, ih fun s hs => hl s (List.mem_cons_of_mem _ hs), List.flatMap_cons,
      List.length_append, hsec]
    omega

/-- The size that is computed is the size that is written. -/
theorem msgtlvlen_eq (hbacked : args.Backed) (h : checkImext args = .ok ()) :
    msgtlvlen args = 4 + args.sentFeatures.length +
      (args.sentSections.flatMap AimMpmsgSection.encode).length := by
  have hcomplete := sentSections_complete hbacked h
  have hfeatures : (if args.has aimImflagsCustomfeatures then 1 + 1 + (2 + args.featureslen.toNat)
      else 1 + 1 + (2 + deffeatures.length)) = 4 + args.sentFeatures.length := by
    rw [sentFeatures_length hbacked]
    split
    · omega
    · rfl
  unfold msgtlvlen
  simp only [hfeatures]
  unfold sentSections at hcomplete ⊢
  by_cases hmulti : args.has aimImflagsMultipart
  · rw [if_pos hmulti] at hcomplete ⊢
    rw [if_pos hmulti, foldl_datalen hcomplete]
  · rw [if_neg hmulti] at hcomplete ⊢
    have hsec := AimMpmsgSection.encode_length (hcomplete _ (List.mem_singleton_self _))
    rw [if_neg hmulti, List.flatMap_singleton, hsec, sentMsg_datalen h hmulti]
    omega

/-- The message TLV that is sent. -/
def sentMessage (hbacked : args.Backed) (h : checkImext args = .ok ())
    (hsize : msgtlvlen args + 128 ≤ 65535) : MessageBlock where
  features := args.sentFeatures
  sections := args.sentSections
  features_lt := sentFeatures_lt hbacked
  complete := sentSections_complete hbacked h
  length_lt := by
    rw [← msgtlvlen_eq hbacked h]
    omega

end AimSendimextArgs

theorem writes_putSections {l : List AimMpmsgSection} (hl : ∀ sec ∈ l, sec.Complete) :
    Writes (putSections l) (l.flatMap AimMpmsgSection.encode) () := by
  induction l with
  | nil => exact Writes.pure ()
  | cons sec l ih =>
    obtain ⟨v, hv, hlen⟩ := hl sec List.mem_cons_self
    have hdata : (sec.data.getD []).length = sec.datalen.toNat := by rw [hv, Option.getD_some, hlen]
    have hall : Writes (putSections (sec :: l)) (aimutilPut16 0x0101 ++
        (aimutilPut16 (sec.datalen + 4) ++ (aimutilPut16 sec.charset ++
          (aimutilPut16 sec.charsubset ++ (sec.data.getD [] ++
            l.flatMap AimMpmsgSection.encode))))) () :=
      (writes_aimbsPut16 _).bind ((writes_aimbsPut16 _).bind ((writes_aimbsPut16 _).bind
        ((writes_aimbsPut16 _).bind ((writes_aimbsPutraw hdata).bind
          (ih fun s hs => hl s (List.mem_cons_of_mem _ hs))))))
    exact hall.of_eq (by simp only [List.flatMap_cons, AimMpmsgSection.encode, List.append_assoc])

section Send

variable {args : AimSendimextArgs}

theorem writes_putCharset (args : AimSendimextArgs) :
    Writes (putCharset args)
      (aimutilPut16 args.sentCharset.1 ++ aimutilPut16 args.sentCharset.2) 2 := by
  unfold putCharset AimSendimextArgs.sentCharset
  by_cases hc : args.has aimImflagsCustomcharset
  · rw [if_pos hc, if_pos hc]
    exact (writes_aimbsPut16 _).bind (writes_aimbsPut16 _)
  · rw [if_neg hc, if_neg hc]
    exact (writes_aimbsPut16 _).bind (writes_aimbsPut16 _)

theorem writes_putMsg (hbacked : args.Backed) (h : checkImext args = .ok ())
    (hmulti : ¬ args.has aimImflagsMultipart) :
    Writes (putMsg args) args.sentMsg.encode () := by
  obtain ⟨⟨m, hm⟩, hpos, hlt⟩ := AimSendimextArgs.checkImext_ok h hmulti
  have hle := hbacked.msg hmulti m hm
  have hdata : Writes (aimbsPutraw (args.msg.getD []) args.msglen.toNat)
      ((args.msg.getD []).take args.msglen.toNat) args.msglen.toNat := writes_aimbsPut _ _
  have hall : Writes (putMsg args) (aimutilPut16 0x0101 ++
      (aimutilPut16 (UInt16.ofNat (args.msglen.toNat + 0x04)) ++
        ((aimutilPut16 args.sentCharset.1 ++ aimutilPut16 args.sentCharset.2) ++
          ((args.msg.getD []).take args.msglen.toNat ++ [])))) () :=
    (writes_aimbsPut16 _).bind ((writes_aimbsPut16 _).bind ((writes_putCharset args).bind
      (hdata.bind (Writes.pure _))))
  have hlen : UInt16.ofNat (args.msglen.toNat + 0x04) = UInt16.ofNat args.msglen.toNat + 4 :=
    UInt16.ofNat_add _ _
  refine hall.of_eq ?_
  rw [hlen]
  simp only [AimSendimextArgs.sentMsg, AimMpmsgSection.encode, List.append_assoc, List.append_nil,
    Option.getD_some]

theorem writes_putMessage (hbacked : args.Backed) (h : checkImext args = .ok ()) :
    Writes (putMessage args) (args.sentSections.flatMap AimMpmsgSection.encode) () := by
  unfold putMessage AimSendimextArgs.sentSections
  by_cases hmulti : args.has aimImflagsMultipart
  · rw [if_pos hmulti, if_pos hmulti]
    exact writes_putSections (hbacked.parts hmulti)
  · rw [if_neg hmulti, if_neg hmulti, List.flatMap_singleton]
    exact writes_putMsg hbacked h hmulti

theorem writes_putFeatures (hbacked : args.Backed) :
    Writes (putFeatures args) (aimutilPut16 (UInt8.ofNat args.sentFeatures.length).toUInt16 ++
      args.sentFeatures) args.sentFeatures.length := by
  have hlen := AimSendimextArgs.sentFeatures_length hbacked
  rw [hlen]
  unfold putFeatures AimSendimextArgs.sentFeatures
  by_cases hc : args.has aimImflagsCustomfeatures
  · simp only [if_pos hc, UInt8.ofNat_toNat]
    exact (writes_aimbsPut16 _).bind (writes_aimbsPut _ _)
  · simp only [if_neg hc]
    exact (writes_aimbsPut16 _).bind (writes_aimbsPutraw rfl)

/-! ## The frame -/

/-- Everything up to the destination screen name. -/
def imHead (args : AimSendimextArgs) (snacid : UInt32) (rand : Nat → UInt8) : List UInt8 :=
  (aimutilPut16 0x0004 ++ (aimutilPut16 0x0006 ++ (aimutilPut16 0x0000 ++
    (aimutilPut32 snacid ++ [])))) ++ ((List.range 8).map rand ++ (aimutilPut16 0x0001 ++
      aimutilPut8 (UInt8.ofNat (strlen args.destsn))))

theorem imHead_length (args : AimSendimextArgs) (snacid : UInt32) (rand : Nat → UInt8) :
    (imHead args snacid rand).length = 21 := by
  simp only [imHead, List.length_append, aimutilPut8_length, aimutilPut16_length,
    aimutilPut32_length, List.length_map, List.length_range, List.length_nil]

theorem writes_putImhead (args : AimSendimextArgs) (snacid : UInt32) (rand : Nat → UInt8) :
    Writes (putImhead args snacid rand) (imHead args snacid rand ++ cstr args.destsn)
      (strlen args.destsn) := by
  have hsn : Writes (aimbsPutraw args.destsn (strlen args.destsn)) (cstr args.destsn)
      (strlen args.destsn) := by
    rw [cstr_eq_take]
    exact writes_aimbsPut _ _
  have hall : Writes (putImhead args snacid rand) ((aimutilPut16 0x0004 ++ (aimutilPut16 0x0006 ++
      (aimutilPut16 0x0000 ++ (aimutilPut32 snacid ++ [])))) ++ ((List.range 8).map rand ++
        (aimutilPut16 0x0001 ++ (aimutilPut8 (UInt8.ofNat (strlen args.destsn)) ++
          cstr args.destsn)))) (strlen args.destsn) :=
    (writes_aimPutsnac _ _ _ _).bind ((writes_putBytes _).bind ((writes_aimbsPut16 _).bind
      ((writes_aimbsPut8 _).bind hsn)))
  exact hall.of_eq (by simp only [imHead, List.append_assoc])

/-! ## The TLVs of a frame -/

def optCh1Tlv (c : Prop) [Decidable c] (x : Ch1Tlv) : List Ch1Tlv := if c then [x] else []

theorem optCh1Tlv_encode (c : Prop) [Decidable c] (x : Ch1Tlv) :
    ((optCh1Tlv c x).flatMap fun x => x.encode) = if c then x.encode else [] := by
  unfold optCh1Tlv
  by_cases hc : c
  · rw [if_pos hc, if_pos hc, List.flatMap_singleton]
  · rw [if_neg hc, if_neg hc, List.flatMap_nil]

def sentIcon (args : AimSendimextArgs) : Ch1Tlv :=
  iconTlv (UInt32.ofNat args.iconlen) (UInt16.ofNat args.iconsum) (UInt32.ofInt args.iconstamp)

/-- The TLVs behind the message. -/
def sentFlagTlvs (args : AimSendimextArgs) : List Ch1Tlv :=
  optCh1Tlv (args.has aimImflagsAck) ackTlv ++
    (optCh1Tlv (args.has aimImflagsAway) awayTlv ++
      (optCh1Tlv (args.has aimImflagsOffline) offlineTlv ++
        (optCh1Tlv (args.has aimImflagsHasicon) (sentIcon args) ++
          optCh1Tlv (args.has aimImflagsBuddyreq) buddyreqTlv)))

theorem writes_putNoval (type : UInt16) :
    Writes (putNoval type) (aimutilPut16 type ++ aimutilPut16 0x0000) 2 :=
  (writes_aimbsPut16 _).bind (writes_aimbsPut16 _)

theorem writes_putIcon (args : AimSendimextArgs) :
    Writes (putIcon args) (sentIcon args).encode 1 := by
  have hall : Writes (putIcon args) (aimutilPut16 0x0008 ++ (aimutilPut16 0x000c ++
      iconValue (UInt32.ofNat args.iconlen) (UInt16.ofNat args.iconsum)
        (UInt32.ofInt args.iconstamp))) 1 :=
    (writes_aimbsPut16 _).bind ((writes_aimbsPut16 _).bind ((writes_aimbsPut32 _).bind
      ((writes_aimbsPut16 _).bind ((writes_aimbsPut16 _).bind (writes_aimbsPut32 _)))))
  exact hall

theorem writes_putMessageTlv (hbacked : args.Backed) (h : checkImext args = .ok ())
    (hsize : msgtlvlen args + 128 ≤ 65535) :
    Writes (putMessageTlv args) (AimSendimextArgs.sentMessage hbacked h hsize).tlv.encode () := by
  have hall : Writes (putMessageTlv args) (aimutilPut16 0x0002 ++
      (aimutilPut16 (UInt16.ofNat (msgtlvlen args)) ++ (aimutilPut8 0x05 ++ (aimutilPut8 0x01 ++
        ((aimutilPut16 (UInt8.ofNat args.sentFeatures.length).toUInt16 ++ args.sentFeatures) ++
          args.sentSections.flatMap AimMpmsgSection.encode))))) () :=
    (writes_aimbsPut16 _).bind ((writes_aimbsPut16 _).bind ((writes_aimbsPut8 _).bind
      ((writes_aimbsPut8 _).bind ((writes_putFeatures hbacked).bind
        (writes_putMessage hbacked h)))))
  have hlen : (AimSendimextArgs.sentMessage hbacked h hsize).value.length = msgtlvlen args := by
    rw [MessageBlock.value_length, AimSendimextArgs.msgtlvlen_eq hbacked h]
    rfl
  have hfirst : aimutilPut16 0x0501 = aimutilPut8 0x05 ++ aimutilPut8 0x01 := by decide
  refine hall.of_eq ?_
  rw [← hlen]
  simp only [AimTlv.encode, AimTlv.length, MessageBlock.tlv, MessageBlock.value, hfirst,
    List.append_assoc]
  rfl

theorem writes_putImflags (args : AimSendimextArgs) :
    ∃ ret, Writes (putImflags args) ((sentFlagTlvs args).flatMap fun x => x.encode) ret := by
  have hall : Writes (putImflags args)
      ((if args.has aimImflagsAck then ackTlv.encode else []) ++
        ((if args.has aimImflagsAway then awayTlv.encode else []) ++
          ((if args.has aimImflagsOffline then offlineTlv.encode else []) ++
            ((if args.has aimImflagsHasicon then (sentIcon args).encode else []) ++
              if args.has aimImflagsBuddyreq then buddyreqTlv.encode else [])))) _ :=
    (writes_putIf (writes_putNoval 0x0003)).bind ((writes_putIf (writes_putNoval 0x0004)).bind
      ((writes_putIf (writes_putNoval 0x0006)).bind ((writes_putIf (writes_putIcon args)).bind
        (writes_putIf (writes_putNoval 0x0009)))))
  refine ⟨_, hall.of_eq ?_⟩
  simp only [sentFlagTlvs, List.flatMap_append, optCh1Tlv_encode]

theorem sentFlagTlvs_length_le (args : AimSendimextArgs) :
    ((sentFlagTlvs args).flatMap fun x => x.encode).length ≤ 32 := by
  have hopt : ∀ (c : Prop) [Decidable c] (bytes : List UInt8),
      (if c then bytes else []).length ≤ bytes.length := by
    intro c _ bytes
    split
    · exact Nat.le_refl _
    · exact Nat.zero_le _
  have hack := hopt (args.has aimImflagsAck) ackTlv.encode
  have haway := hopt (args.has aimImflagsAway) awayTlv.encode
  have hoffline := hopt (args.has aimImflagsOffline) offlineTlv.encode
  have hicon := hopt (args.has aimImflagsHasicon) (sentIcon args).encode
  have hbuddyreq := hopt (args.has aimImflagsBuddyreq) buddyreqTlv.encode
  have hnoval : ackTlv.encode.length = 4 ∧ awayTlv.encode.length = 4 ∧
      offlineTlv.encode.length = 4 ∧ buddyreqTlv.encode.length = 4 := ⟨rfl, rfl, rfl, rfl⟩
  have hvalue : (sentIcon args).encode.length = 4 + 12 := by
    rw [AimTlv.encode_length]
    exact congrArg (4 + ·) (iconValue_length _ _ _)
  simp only [sentFlagTlvs, List.flatMap_append, optCh1Tlv_encode, List.length_append]
  omega

/-- Of the 128 bytes beside the message TLV's value, 25 are for the heads. The others are for the
screen name and the TLVs of the flags. -/
def AimSendimextArgs.Fits (args : AimSendimextArgs) : Prop :=
  strlen args.destsn + ((sentFlagTlvs args).flatMap fun x => x.encode).length ≤ 103

theorem AimSendimextArgs.fits_of_le (h : strlen args.destsn ≤ 71) : args.Fits := by
  have hflags := sentFlagTlvs_length_le args
  unfold AimSendimextArgs.Fits
  omega

/-- A frame that is large enough has everything that is put into it. -/
theorem putImext_written (hbacked : args.Backed) (h : checkImext args = .ok ())
    (hsize : msgtlvlen args + 128 ≤ 65535) (hfits : args.Fits) (snacid : UInt32)
    (rand : Nat → UInt8) :
    (putImext args snacid rand (aimBstreamInit (List.replicate (msgtlvlen args + 128) 0)
      (msgtlvlen args + 128 : Nat))).2.written =
        (imHead args snacid rand ++ cstr args.destsn) ++
          ((AimSendimextArgs.sentMessage hbacked h hsize).tlv ::
            sentFlagTlvs args).flatMap fun x => x.encode := by
  obtain ⟨ret, hflags⟩ := writes_putImflags args
  have hall : Writes (putImext args snacid rand) ((imHead args snacid rand ++ cstr args.destsn) ++
      ((AimSendimextArgs.sentMessage hbacked h hsize).tlv.encode ++
        (sentFlagTlvs args).flatMap fun x => x.encode)) ret :=
    (writes_putImhead args snacid rand).bind ((writes_putMessageTlv hbacked h hsize).bind hflags)
  rw [aimBstreamInit_replicate (by omega)]
  generalize hbuf : (⟨List.replicate (msgtlvlen args + 128) 0, 0⟩ : AimBstream) = buf
  have hoff : buf.offset = 0 := by rw [← hbuf]
  have hroom : aimBstreamEmpty buf = msgtlvlen args + 128 := by
    rw [← hbuf, aimBstreamEmpty, AimBstream.len, List.length_replicate, Nat.sub_zero]
  have hle : buf.offset ≤ buf.len := by
    rw [hoff]
    exact Nat.zero_le _
  have hmsg : (AimSendimextArgs.sentMessage hbacked h hsize).tlv.encode.length =
      4 + msgtlvlen args := by
    rw [AimTlv.encode_length, AimSendimextArgs.msgtlvlen_eq hbacked h]
    exact congrArg (4 + ·) (MessageBlock.value_length _)
  unfold AimSendimextArgs.Fits at hfits
  rw [hall buf hle ?_, AimBstream.written_store hle, AimBstream.written, hoff, List.take_zero,
    List.nil_append, List.flatMap_cons]
  simp only [List.length_append, imHead_length, hmsg, hroom]
  have hcstr : (cstr args.destsn).length = strlen args.destsn := rfl
  omega

end Send

/-! ## What is taken in -/

theorem foldl_optCh1Tlv (c : Prop) [Decidable c] (x : Ch1Tlv) (l : List Ch1Tlv)
    (a : AimIncomingimCh1Args) :
    (optCh1Tlv c x ++ l).foldl (fun a x => x.act a) a =
      l.foldl (fun a x => x.act a) (if c then x.act a else a) := by
  unfold optCh1Tlv
  by_cases hc : c
  · rw [if_pos hc, if_pos hc, List.singleton_append, List.foldl_cons]
  · rw [if_neg hc, if_neg hc, List.nil_append]

/-- A flag is set under a condition. -/
def setFlag (c : Prop) [Decidable c] (f : UInt32) (a : AimIncomingimCh1Args) :
    AimIncomingimCh1Args :=
  { a with icbmflags := a.icbmflags ||| if c then f else 0 }

/-- The icon is there under a condition. -/
def setIcon (c : Prop) [Decidable c] (iconlen : UInt32) (iconsum : UInt16) (iconstamp : UInt32)
    (a : AimIncomingimCh1Args) : AimIncomingimCh1Args :=
  { a with
    iconlen := if c then iconlen else a.iconlen
    iconsum := if c then iconsum else a.iconsum
    iconstamp := if c then iconstamp.toNat else a.iconstamp
    icbmflags := a.icbmflags ||| if c ∧ iconlen ≠ 0 then aimImflagsHasicon else 0 }

theorem ite_flag (c : Prop) [Decidable c] (f : UInt32) (a : AimIncomingimCh1Args) :
    (if c then { a with icbmflags := a.icbmflags ||| f } else a) = setFlag c f a := by
  unfold setFlag
  by_cases hc : c
  · simp only [if_pos hc]
  · simp only [if_neg hc, UInt32.or_zero]

theorem ite_iconAct (c : Prop) [Decidable c] (iconlen : UInt32) (iconsum : UInt16)
    (iconstamp : UInt32) (a : AimIncomingimCh1Args) :
    (if c then iconAct iconlen iconsum iconstamp a else a) =
      setIcon c iconlen iconsum iconstamp a := by
  unfold setIcon iconAct
  by_cases hc : c
  · by_cases hz : iconlen = 0
    · simp [hc, hz]
    · simp [hc, hz]
  · simp [hc]

/-- What the TLVs behind the message make of the arguments. -/
def readFlags (args : AimSendimextArgs) (a : AimIncomingimCh1Args) : AimIncomingimCh1Args :=
  let a := setFlag (args.has aimImflagsAck) aimImflagsAck a
  let a := setFlag (args.has aimImflagsAway) aimImflagsAway a
  let a := setFlag (args.has aimImflagsOffline) aimImflagsOffline a
  let a := setIcon (args.has aimImflagsHasicon) (UInt32.ofNat args.iconlen)
    (UInt16.ofNat args.iconsum) (UInt32.ofInt args.iconstamp) a
  setFlag (args.has aimImflagsBuddyreq) aimImflagsBuddyreq a

theorem foldl_sentFlagTlvs (args : AimSendimextArgs) (a : AimIncomingimCh1Args) :
    (sentFlagTlvs args).foldl (fun a x => x.act a) a = readFlags args a := by
  have hlast := foldl_optCh1Tlv (args.has aimImflagsBuddyreq) buddyreqTlv []
  simp only [List.append_nil, List.foldl_nil] at hlast
  rw [sentFlagTlvs, foldl_optCh1Tlv, foldl_optCh1Tlv, foldl_optCh1Tlv, foldl_optCh1Tlv, hlast]
  rw [readFlags, ← ite_flag, ← ite_flag, ← ite_flag, ← ite_flag, ← ite_iconAct]
  rfl

/-! ## The round trip -/

/-- The message that was taken in is the one that was sent. -/
structure SameIm (args : AimSendimextArgs) (res : AimIncomingimCh1Args) : Prop where
  features : res.features = args.sentFeatures
  featureslen : res.featureslen.toNat = args.sentFeatures.length
  numparts : res.mpmsg.numparts = args.sentSections.length
  parts : res.mpmsg.parts = args.sentSections
  ack : res.has aimImflagsAck ↔ args.has aimImflagsAck
  away : res.has aimImflagsAway ↔ args.has aimImflagsAway
  offline : res.has aimImflagsOffline ↔ args.has aimImflagsOffline
  buddyreq : res.has aimImflagsBuddyreq ↔ args.has aimImflagsBuddyreq
  icon : args.has aimImflagsHasicon → 0 < args.iconlen → args.iconlen < 2 ^ 32 →
    res.has aimImflagsHasicon ∧ res.iconlen.toNat = args.iconlen ∧
      res.iconsum.toNat = args.iconsum % 2 ^ 16 ∧ res.iconstamp = args.iconstamp % 2 ^ 32

theorem ofInt_stamp (t : Int) : ((UInt32.ofInt t).toNat : Int) = t % 2 ^ 32 := by
  have h : (UInt32.ofInt t).toNat = (t % 2 ^ 32).toNat := by
    show (UInt32.ofNat (t % 2 ^ 32).toNat).toNat = _
    rw [UInt32.toNat_ofNat']
    omega
  rw [h]
  omega

theorem readFlags_icbmflags (args : AimSendimextArgs) (a : AimIncomingimCh1Args) :
    (readFlags args a).icbmflags = a.icbmflags |||
      (if args.has aimImflagsAck then aimImflagsAck else 0) |||
      (if args.has aimImflagsAway then aimImflagsAway else 0) |||
      (if args.has aimImflagsOffline then aimImflagsOffline else 0) |||
      (if args.has aimImflagsHasicon ∧ UInt32.ofNat args.iconlen ≠ 0 then aimImflagsHasicon
        else 0) |||
      (if args.has aimImflagsBuddyreq then aimImflagsBuddyreq else 0) := rfl

/-- The flags that the loop sets for its TLVs, where the message sets none of them. -/
theorem readFlags_has {args : AimSendimextArgs} {a : AimIncomingimCh1Args}
    (h : ∀ f ∈ [aimImflagsAck, aimImflagsAway, aimImflagsOffline, aimImflagsHasicon,
      aimImflagsBuddyreq], f &&& a.icbmflags = 0) :
    ((readFlags args a).has aimImflagsAck ↔ args.has aimImflagsAck) ∧
    ((readFlags args a).has aimImflagsAway ↔ args.has aimImflagsAway) ∧
    ((readFlags args a).has aimImflagsOffline ↔ args.has aimImflagsOffline) ∧
    ((readFlags args a).has aimImflagsHasicon ↔
      args.has aimImflagsHasicon ∧ UInt32.ofNat args.iconlen ≠ 0) ∧
    ((readFlags args a).has aimImflagsBuddyreq ↔ args.has aimImflagsBuddyreq) := by
  have hcomm (f : UInt32) : (readFlags args a).has f ↔ f &&& (readFlags args a).icbmflags ≠ 0 := by
    rw [AimIncomingimCh1Args.has, UInt32.and_comm]
  simp only [hcomm, readFlags_icbmflags]
  simp (disch := decide) only [and_or_ite]
  simp only [List.forall_mem_cons, List.not_mem_nil, false_imp_iff, implies_true, and_true] at h
  obtain ⟨hack, haway, hoffline, hicon, hbuddyreq⟩ := h
  refine ⟨?_, ?_, ?_, ?_, ?_⟩
  · exact and_or_ite_self_iff (by decide) hack _
  · refine and_or_ite_self_iff (by decide) ?_ _
    simpa (disch := decide) only [and_or_ite] using haway
  · refine and_or_ite_self_iff (by decide) ?_ _
    simpa (disch := decide) only [and_or_ite] using hoffline
  · refine and_or_ite_self_iff (by decide) ?_ _
    simpa (disch := decide) only [and_or_ite] using hicon
  · refine and_or_ite_self_iff (by decide) ?_ _
    simpa (disch := decide) only [and_or_ite] using hbuddyreq

/-- What the loop makes of the message TLV and those behind it. -/
theorem sameIm_readFlags {args : AimSendimextArgs} {b : MessageBlock}
    (hfeatures : b.features = args.sentFeatures) (hsections : b.sections = args.sentSections) :
    SameIm args (readFlags args (b.act AimIncomingimCh1Args.zero)) := by
  have hsame := finishParsemsgs_same { AimIncomingimCh1Args.zero with
    featureslen := b.featureslen
    features := b.features
    icbmflags := AimIncomingimCh1Args.zero.icbmflags ||| aimImflagsCustomfeatures
    mpmsg := AimIncomingimCh1Args.zero.mpmsg.addSections b.sections }
  have hflags (f : UInt32) (hf : f &&& parsemsgsFlags = 0) (hc : f &&& aimImflagsCustomfeatures = 0) :
      f &&& (b.act AimIncomingimCh1Args.zero).icbmflags = 0 := by
    refine (hsame.flags f hf).trans ?_
    show f &&& (0 ||| aimImflagsCustomfeatures) = 0
    rw [UInt32.zero_or, hc]
  obtain ⟨hack, haway, hoffline, hicon, hbuddyreq⟩ :=
    @readFlags_has args (b.act AimIncomingimCh1Args.zero) (by
      intro f hf
      simp only [List.mem_cons, List.not_mem_nil, or_false] at hf
      rcases hf with rfl | rfl | rfl | rfl | rfl
      all_goals exact hflags _ (by decide) (by decide))
  have hmpmsg : (b.act AimIncomingimCh1Args.zero).mpmsg =
      ⟨(0 : Int) + b.sections.length, [] ++ b.sections⟩ := hsame.mpmsg
  refine ⟨?_, ?_, ?_, ?_, hack, haway, hoffline, hbuddyreq, fun hc hpos hlt => ?_⟩
  · exact hsame.features.trans hfeatures
  · have hlen : (b.act AimIncomingimCh1Args.zero).featureslen = b.featureslen := hsame.featureslen
    exact (congrArg UInt8.toNat hlen).trans (b.featureslen_toNat.trans (by rw [hfeatures]))
  · show (b.act AimIncomingimCh1Args.zero).mpmsg.numparts = _
    rw [hmpmsg, hsections, Int.zero_add]
  · show (b.act AimIncomingimCh1Args.zero).mpmsg.parts = _
    rw [hmpmsg, hsections, List.nil_append]
  · have hiconlen : (UInt32.ofNat args.iconlen).toNat = args.iconlen := by
      rw [UInt32.toNat_ofNat', Nat.mod_eq_of_lt hlt]
    have hne : UInt32.ofNat args.iconlen ≠ 0 := by
      intro hz
      rw [hz, UInt32.toNat_zero] at hiconlen
      omega
    refine ⟨hicon.mpr ⟨hc, hne⟩, ?_, ?_, ?_⟩
    · show (if args.has aimImflagsHasicon then UInt32.ofNat args.iconlen else _).toNat = _
      rw [if_pos hc, hiconlen]
    · show (if args.has aimImflagsHasicon then UInt16.ofNat args.iconsum else _).toNat = _
      rw [if_pos hc, UInt16.toNat_ofNat']
    · show (if args.has aimImflagsHasicon then ((UInt32.ofInt args.iconstamp).toNat : Int) else _) = _
      rw [if_pos hc, ofInt_stamp]

section Accepted

variable {sess : AimSession} {snacs : SnacCache} {c : ConnPtr} {args : AimSendimextArgs} {now : Int}
  {rand : Nat → UInt8} {donttimeout : Bool} {time : Fin faimSnacHashSize → Int}

theorem checkImext_error {ret : Int} (h : checkImext args = .error ret) : ret ≠ 0 := by
  unfold checkImext at h
  repeat' split at h
  all_goals first
    | cases h
      decide
    | cases h

/-- Where `aim_send_im_ext` succeeds it has checked its arguments and filled a frame. -/
theorem sendImextFrame_of_accepted
    (h : (aimSendImExt sess snacs c args now rand donttimeout time).1 = 0) :
    checkImext args = .ok () ∧ ∃ fr sess' snacs' snacid,
      sendImextFrame sess snacs c args now rand = .ok (fr, sess', snacs') ∧
        fr.data = (putImext args snacid rand (aimBstreamInit
          (List.replicate (msgtlvlen args + 128) 0) (msgtlvlen args + 128 : Nat))).2 := by
  unfold aimSendImExt at h
  cases hframe : sendImextFrame sess snacs c args now rand with
  | error ret =>
    rw [hframe] at h
    obtain rfl : ret = 0 := h
    unfold sendImextFrame at hframe
    split at hframe
    · cases hframe
    · split at hframe
      · rename_i ret hret
        cases hframe
        exact absurd rfl (checkImext_error hret)
      · split at hframe <;> cases hframe
  | ok r =>
    obtain ⟨fr, sess', snacs'⟩ := r
    unfold sendImextFrame at hframe
    split at hframe
    · cases hframe
    · split at hframe
      · cases hframe
      · rename_i hcheck
        refine ⟨hcheck, fr, sess', snacs', snacs.snacidNext, rfl, ?_⟩
        split at hframe
        · cases hframe
        · rename_i hnew
          cases hframe
          rw [← aimTxNew_data hnew]

/-- The frame is the one that is enqueued. -/
theorem aimSendImExt_enqueues {fr : AimFrame} {sess' : AimSession} {snacs' : SnacCache}
    (h : sendImextFrame sess snacs c args now rand = .ok (fr, sess', snacs')) :
    (aimSendImExt sess snacs c args now rand donttimeout time).2.1 = aimTxEnqueue sess' fr := by
  rw [aimSendImExt, h]

/-- A message that `aim_send_im_ext` accepts is taken in as it was sent: the loop of
`incomingim_ch1`, on what is left of the frame behind the destination screen name, gives the client
the same features, sections, flags and icon. -/
theorem incomingimCh1Loop_sendImExt
    (haccepted : (aimSendImExt sess snacs c args now rand donttimeout time).1 = 0)
    (hbacked : args.Backed) (hsn : strlen args.destsn ≤ 32)
    (hsize : msgtlvlen args + 128 ≤ 65535) :
    ∃ fr sess' snacs', sendImextFrame sess snacs c args now rand = .ok (fr, sess', snacs') ∧
      (aimSendImExt sess snacs c args now rand donttimeout time).2.1 = aimTxEnqueue sess' fr ∧
      (fr.data.written.drop 21).take (strlen args.destsn) = cstr args.destsn ∧
      ∀ bs : AimBstream, bs.rest = fr.data.written.drop (21 + strlen args.destsn) →
        ∃ res bs', incomingimCh1Loop bs = some (res, bs') ∧ SameIm args res := by
  obtain ⟨hcheck, fr, sess', snacs', snacid, hframe, hdata⟩ := sendImextFrame_of_accepted haccepted
  have hfits : args.Fits := AimSendimextArgs.fits_of_le (Nat.le_trans hsn (by decide))
  have hwritten := putImext_written hbacked hcheck hsize hfits snacid rand
  rw [← hdata] at hwritten
  have hhead := imHead_length args snacid rand
  have hcstr : (cstr args.destsn).length = strlen args.destsn := rfl
  refine ⟨fr, sess', snacs', hframe, aimSendImExt_enqueues hframe, ?_, fun bs hbs => ?_⟩
  · rw [hwritten, List.append_assoc, List.drop_left' hhead, List.take_left' hcstr]
  · rw [hwritten, List.drop_left' (by rw [List.length_append, hhead, hcstr])] at hbs
    obtain ⟨bs', hloop⟩ := incomingimCh1Loop_encode hbs
    rw [List.foldl_cons, foldl_sentFlagTlvs] at hloop
    exact ⟨_, bs', hloop, sameIm_readFlags rfl rfl⟩

end Accepted

section Example

/-- Two sections, an icon and the acknowledge flag. -/
def multipartArgs : AimSendimextArgs where
  destsn := [0x61, 0x62]
  flags := aimImflagsMultipart ||| aimImflagsAck ||| aimImflagsHasicon
  msg := none
  msglen := 0
  mpmsg := ⟨2, [⟨0x0000, 0x0000, some [0x68, 0x69], 2⟩, ⟨0x0002, 0x0000, some [0x00, 0x55], 2⟩]⟩
  iconlen := 100
  iconstamp := -1
  iconsum := 70000
  features := []
  featureslen := 0
  charset := 0
  charsubset := 0

theorem multipartArgs_backed : multipartArgs.Backed := by
  refine ⟨fun h => absurd h (by decide), fun h => absurd (by decide) h, fun _ sec hsec => ?_⟩
  have hmem : sec ∈ [_, _] := hsec
  simp only [List.mem_cons, List.not_mem_nil, or_false] at hmem
  rcases hmem with rfl | rfl
  · exact ⟨_, rfl, rfl⟩
  · exact ⟨_, rfl, rfl⟩

/-- The message is sent on the BOS connection of a new session. -/
theorem incomingimCh1Loop_sendImExt_multipart :
    let sess := (aimNewconn (aimSessionInit []) aimConnTypeBos (.connected 3 0)).2
    ∃ fr sess' snacs',
      sendImextFrame sess aimInitsnachash 1 multipartArgs 0 (fun _ => 0x37) =
        .ok (fr, sess', snacs') ∧
      ∃ res bs', incomingimCh1Loop ⟨fr.data.written.drop 23, 0⟩ = some (res, bs') ∧
        SameIm multipartArgs res := by
  intro sess
  obtain ⟨fr, sess', snacs', hframe, -, -, hloop⟩ :=
    @incomingimCh1Loop_sendImExt sess aimInitsnachash 1 multipartArgs 0 (fun _ => 0x37) false
      (fun _ => 0) (by decide) multipartArgs_backed (by decide) (by decide)
  exact ⟨fr, sess', snacs', hframe, hloop ⟨fr.data.written.drop 23, 0⟩ rfl⟩

end Example

end Libfaim
