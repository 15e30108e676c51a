import Libfaim.Im
import Libfaim.Lib.Mask
import Libfaim.Tlv.Read

/-!
# The TLVs of channel 1

A TLV that the loop of `incomingim_ch1` comes to is one pass and has one effect on the arguments of
the callback (`Ch1Tlv`), so on such TLVs the loop is the fold of the effects
(`incomingimCh1Loop_encode`). The same holds of the loop over the sections of the message TLV
(`parsemsgs_run`).
-/

namespace Libfaim

open Mask

/-! ## Sections -/

/-- The section has the bytes its length says. -/
def AimMpmsgSection.Complete (sec : AimMpmsgSection) : Prop :=
  ∃ v, sec.data = some v ∧ v.length = sec.datalen.toNat

def AimMpmsgSection.encode (sec : AimMpmsgSection) : List UInt8 :=
  aimutilPut16 0x0101 ++ (aimutilPut16 (sec.datalen + 4) ++ (aimutilPut16 sec.charset ++
    (aimutilPut16 sec.charsubset ++ sec.data.getD [])))

namespace AimMpmsgSection

variable {sec : AimMpmsgSection}

theorem encode_length (h : sec.Complete) : sec.encode.length = 8 + sec.datalen.toNat := by
  obtain ⟨v, hv, hlen⟩ := h
  simp only [encode, hv, List.length_append, aimutilPut16_length, Option.getD_some, hlen]
  omega

end AimMpmsgSection

/-- A section of a message TLV; what its first two bytes are does not matter. -/
structure WireSection extends AimMpmsgSection where
  lead : List UInt8
  lead_length : lead.length = 2
  complete : toAimMpmsgSection.Complete

namespace WireSection

variable (x : WireSection)

def encode : List UInt8 :=
  x.lead ++ (aimutilPut16 (x.datalen + 4) ++ (aimutilPut16 x.charset ++
    (aimutilPut16 x.charsubset ++ x.data.getD [])))

theorem encode_length : x.encode.length = 8 + x.datalen.toNat := by
  obtain ⟨v, hv, hlen⟩ := x.complete
  simp only [encode, hv, List.length_append, aimutilPut16_length, Option.getD_some, hlen,
    x.lead_length]
  omega

theorem encode_ne_nil : x.encode ≠ [] := by
  apply List.ne_nil_of_length_pos
  rw [x.encode_length]
  omega

theorem reads_parsemsgsSection : Reads parsemsgsSection x.encode x.toAimMpmsgSection := by
  obtain ⟨⟨charset, charsubset, data, datalen⟩, lead, hlead, v, hv, hlen⟩ := x
  obtain rfl : data = some v := hv
  obtain ⟨a, b, rfl⟩ := List.length_eq_two.mp hlead
  have hdatalen : datalen + 4 - 4 = datalen := UInt16.add_sub_cancel _ _
  have hdata : Reads (aimbsGetstr (datalen + 4 - 4).toNat) v (some v) := by
    rw [hdatalen]
    exact reads_aimbsGetraw hlen
  have hall : Reads parsemsgsSection (aimutilPut8 a ++ (aimutilPut8 b ++
      (aimutilPut16 (datalen + 4) ++ (aimutilPut16 charset ++ (aimutilPut16 charsubset ++
        (v ++ [])))))) ⟨charset, charsubset, some v, datalen + 4 - 4⟩ :=
    (reads_aimbsGet8 a).bind ((reads_aimbsGet8 b).bind ((reads_aimbsGet16 _).bind
      ((reads_aimbsGet16 _).bind ((reads_aimbsGet16 _).bind (hdata.bind (Reads.pure _))))))
  rw [hdatalen] at hall
  refine hall.of_eq ?_
  simp only [encode, aimutilPut8_eq, List.cons_append, List.nil_append, List.append_nil,
    Option.getD_some]

end WireSection

/-- What the passes over the sections `l` make of a message. -/
def AimMpmsg.addSections (mpm : AimMpmsg) (l : List AimMpmsgSection) : AimMpmsg :=
  ⟨mpm.numparts + l.length, mpm.parts ++ l⟩

theorem parsemsgsPass_encode (x : WireSection) {mbs : AimBstream} {r : List UInt8}
    (hrest : mbs.rest = x.encode ++ r) (mpm : AimMpmsg) :
    parsemsgsPass (mbs, mpm) =
      .again (mbs.skip x.encode.length, mpm.addSections [x.toAimMpmsgSection]) := by
  have hempty : aimBstreamEmpty mbs > 0 := by
    rw [← mbs.length_rest, hrest, List.length_append, x.encode_length]
    omega
  simp only [parsemsgsPass, if_pos hempty, x.reads_parsemsgsSection mbs r hrest]
  rfl

theorem addSections_foldl (l : List WireSection) (mbs : AimBstream) (mpm : AimMpmsg) :
    (l.foldl (fun (s : AimBstream × AimMpmsg) x =>
      (s.1.skip x.encode.length, s.2.addSections [x.toAimMpmsgSection])) (mbs, mpm)).2 =
        mpm.addSections (l.map WireSection.toAimMpmsgSection) := by
  induction l generalizing mbs mpm with
  | nil => simp [AimMpmsg.addSections]
  | cons x l ih =>
    rw [List.foldl_cons, ih]
    simp only [AimMpmsg.addSections, List.map_cons, List.length_cons, List.length_nil,
      List.append_assoc, List.singleton_append, AimMpmsg.mk.injEq, and_true]
    omega

/-- The first loop of `incomingim_ch1_parsemsgs` adds the sections in order. -/
theorem parsemsgs_run {l : List WireSection} {mbs : AimBstream}
    (h : mbs.rest = l.flatMap WireSection.encode) (mpm : AimMpmsg) :
    Loop.run parsemsgsPass (aimBstreamEmpty mbs + 1) (mbs, mpm) =
      some (mpm.addSections (l.map WireSection.toAimMpmsgSection)) := by
  rw [← addSections_foldl l mbs mpm, ← mbs.length_rest]
  refine Loop.run_items_end (fun s : AimBstream × AimMpmsg => s.1.rest) WireSection.encode _
    (fun x _ => x.encode_ne_nil) ?_ ?_ h
  · rintro x - ⟨mbs, mpm⟩ r hrest
    exact ⟨parsemsgsPass_encode x hrest mpm, mbs.rest_skip_of_append hrest⟩
  · rintro ⟨mbs, mpm⟩ hnil
    have hempty : ¬ aimBstreamEmpty mbs > 0 := by
      rw [← mbs.length_rest, show mbs.rest = [] from hnil]
      exact Nat.lt_irrefl 0
    simp only [parsemsgsPass, if_neg hempty]

/-- The sections fill the memory that `incomingim_ch1_parsemsgs` is to look at. -/
theorem incomingimCh1Parsemsgs_encode {l : List WireSection} {data r : List UInt8} {len : Int}
    (args : AimIncomingimCh1Args) (hdata : data = l.flatMap WireSection.encode ++ r)
    (hlen : len = (l.flatMap WireSection.encode).length)
    (hlt : (l.flatMap WireSection.encode).length < 65536) :
    incomingimCh1Parsemsgs data len args = some (finishParsemsgs { args with
      mpmsg := args.mpmsg.addSections (l.map WireSection.toAimMpmsgSection) }) := by
  have hinit : (aimBstreamInit data len).rest = l.flatMap WireSection.encode := by
    have hmod : (len % 65536).toNat = (l.flatMap WireSection.encode).length := by
      rw [hlen]
      omega
    have hle : (l.flatMap WireSection.encode).length ≤ data.length := by
      rw [hdata, List.length_append]
      omega
    simp only [aimBstreamInit, AimBstream.rest, hmod, List.drop_zero, Nat.sub_eq_zero_of_le hle,
      List.replicate_zero, List.append_nil]
    rw [hdata, List.take_left]
  simp only [incomingimCh1Parsemsgs, parsemsgs_run hinit, Option.map_some]

/-- Complete sections, as they are sent. -/
theorem exists_wireSections {l : List AimMpmsgSection} (hl : ∀ sec ∈ l, sec.Complete) :
    ∃ l' : List WireSection, l'.map WireSection.toAimMpmsgSection = l ∧
      l'.flatMap WireSection.encode = l.flatMap AimMpmsgSection.encode := by
  induction l with
  | nil => exact ⟨[], rfl, rfl⟩
  | cons sec l ih =>
    obtain ⟨l', hmap, hencode⟩ := ih fun s hs => hl s (List.mem_cons_of_mem _ hs)
    refine ⟨⟨sec, aimutilPut16 0x0101, rfl, hl sec List.mem_cons_self⟩ :: l', ?_, ?_⟩
    · rw [List.map_cons, hmap]
    · rw [List.flatMap_cons, List.flatMap_cons, hencode]
      rfl

/-! ## One TLV -/

section Pass

variable {bs : AimBstream} {args args' : AimIncomingimCh1Args}

theorem incomingimCh1Pass_nil (h : bs.rest = []) :
    incomingimCh1Pass (bs, args) = .leave (args, bs) := by
  have hempty : ¬ aimBstreamEmpty bs > 0 := by
    rw [← bs.length_rest, h]
    exact Nat.lt_irrefl 0
  simp only [incomingimCh1Pass, if_neg hempty]

/-- Wherever the value leaves the stream, the pass ends behind the TLV. -/
theorem incomingimCh1Pass_encode {tlv : AimTlv} {r : List UInt8} {off : Nat}
    (h : bs.rest = tlv.encode ++ r)
    (hvalue : incomingimCh1Value tlv.type tlv.length args (bs.skip 4) =
      some (args', { bs with offset := off })) :
    incomingimCh1Pass (bs, args) = .again (bs.skip tlv.encode.length, args') := by
  have hlen := congrArg List.length h
  rw [bs.length_rest, List.length_append, AimTlv.encode_length] at hlen
  obtain ⟨htype, hlength, -⟩ := aimbsGet16_encode h
  have hend : aimBstreamCurpos (bs.skip 4) + tlv.length.toNat = bs.offset + tlv.encode.length := by
    rw [AimTlv.length_toNat, AimTlv.encode_length, aimBstreamCurpos, AimBstream.skip_offset,
      Nat.add_assoc]
  have hle : bs.offset + tlv.encode.length ≤ bs.len := by
    rw [AimTlv.encode_length]
    unfold aimBstreamEmpty at hlen
    omega
  have hsetpos : (aimBstreamSetpos (bs.offset + tlv.encode.length) { bs with offset := off }).2 =
      bs.skip tlv.encode.length := by
    rw [aimBstreamSetpos_of_le (show _ ≤ AimBstream.len { bs with offset := off } from hle)]
    rfl
  simp only [incomingimCh1Pass, if_pos (show aimBstreamEmpty bs > 0 by omega), htype, hlength,
    hvalue, hend, hsetpos]

end Pass

/-- A TLV, and what the loop of `incomingim_ch1` does when it comes to it. -/
structure Ch1Tlv extends AimTlv where
  act : AimIncomingimCh1Args → AimIncomingimCh1Args
  value_act : ∀ (bs : AimBstream) (r : List UInt8) (args : AimIncomingimCh1Args),
    bs.rest = value ++ r → ∃ off, incomingimCh1Value type toAimTlv.length args bs =
      some (act args, { bs with offset := off })

theorem Ch1Tlv.pass (x : Ch1Tlv) {bs : AimBstream} {r : List UInt8}
    (h : bs.rest = x.encode ++ r) (args : AimIncomingimCh1Args) :
    incomingimCh1Pass (bs, args) = .again (bs.skip x.encode.length, x.act args) := by
  obtain ⟨-, -, hrest⟩ := aimbsGet16_encode h
  obtain ⟨off, hvalue⟩ := x.value_act (bs.skip 4) r args hrest
  exact incomingimCh1Pass_encode h hvalue

/-- Where only such TLVs are left, the loop is the fold of what it does for each. -/
theorem incomingimCh1Loop_encode {l : List Ch1Tlv} {bs : AimBstream}
    (h : bs.rest = l.flatMap fun x => x.encode) :
    ∃ bs', incomingimCh1Loop bs =
      some (l.foldl (fun args x => x.act args) AimIncomingimCh1Args.zero, bs') := by
  have hfoldl : ∀ (l : List Ch1Tlv) (bs : AimBstream) (args : AimIncomingimCh1Args),
      (l.foldl (fun (s : AimBstream × AimIncomingimCh1Args) x =>
        (s.1.skip x.encode.length, x.act s.2)) (bs, args)).2 =
      l.foldl (fun args x => x.act args) args := by
    intro l
    induction l with
    | nil => exact fun _ _ => rfl
    | cons x l ih => exact fun bs args => ih _ _
  have hrun := Loop.run_items_end (fun s : AimBstream × AimIncomingimCh1Args => s.1.rest)
    (fun x : Ch1Tlv => x.encode)
    (fun s x => (s.1.skip x.encode.length, x.act s.2)) (fun x _ => ?_)
    (fun x _ s r hrest => ⟨x.pass hrest s.2, s.1.rest_skip_of_append hrest⟩)
    (fun s hnil => incomingimCh1Pass_nil hnil) (s := (bs, AimIncomingimCh1Args.zero)) h
  · rw [bs.length_rest] at hrun
    rw [← hfoldl l bs]
    exact ⟨_, hrun⟩
  · apply List.ne_nil_of_length_pos
    rw [AimTlv.encode_length]
    omega

/-! ## The TLVs that are sent -/

/-- A TLV without a value that sets a flag. -/
def flagTlv (type : UInt16) (flag : UInt32)
    (h : ∀ args, incomingimCh1Value type 0 args =
      pure { args with icbmflags := args.icbmflags ||| flag }) : Ch1Tlv where
  type := type
  value := []
  length_lt := by decide
  act args := { args with icbmflags := args.icbmflags ||| flag }
  value_act bs _ args _ := ⟨bs.offset, congrFun (h args) bs⟩

def ackTlv : Ch1Tlv := flagTlv 0x0003 aimImflagsAck fun _ => rfl
def awayTlv : Ch1Tlv := flagTlv 0x0004 aimImflagsAway fun _ => rfl
def offlineTlv : Ch1Tlv := flagTlv 0x0006 aimImflagsOffline fun _ => rfl
def buddyreqTlv : Ch1Tlv := flagTlv 0x0009 aimImflagsBuddyreq fun _ => rfl

def iconValue (iconlen : UInt32) (iconsum : UInt16) (iconstamp : UInt32) : List UInt8 :=
  aimutilPut32 iconlen ++ (aimutilPut16 0x0001 ++ (aimutilPut16 iconsum ++ aimutilPut32 iconstamp))

theorem iconValue_length (iconlen : UInt32) (iconsum : UInt16) (iconstamp : UInt32) :
    (iconValue iconlen iconsum iconstamp).length = 12 := by
  simp only [iconValue, List.length_append, aimutilPut16_length, aimutilPut32_length]

/-- What the loop does at an icon TLV. -/
def iconAct (iconlen : UInt32) (iconsum : UInt16) (iconstamp : UInt32)
    (args : AimIncomingimCh1Args) : AimIncomingimCh1Args :=
  { args with
    iconlen := iconlen
    iconsum := iconsum
    iconstamp := iconstamp.toNat
    icbmflags := if iconlen ≠ 0 then args.icbmflags ||| aimImflagsHasicon else args.icbmflags }

theorem decodes_iconValue (iconlen : UInt32) (iconsum : UInt16) (iconstamp : UInt32)
    (length : UInt16) (args : AimIncomingimCh1Args) :
    Decodes (incomingimCh1Value 0x0008 length args) (iconValue iconlen iconsum iconstamp)
      (iconAct iconlen iconsum iconstamp args) := by
  have h : Decodes (incomingimCh1Value 0x0008 length args) (aimutilPut32 iconlen ++
      (aimutilPut16 0x0001 ++ (aimutilPut16 iconsum ++ (aimutilPut32 iconstamp ++ []))))
        (iconAct iconlen iconsum iconstamp args) :=
    (Decodes.lift (reads_aimbsGet32 _)).bind ((Decodes.lift (reads_aimbsGet16 _)).bind
      ((Decodes.lift (reads_aimbsGet16 _)).bind ((Decodes.lift (reads_aimbsGet32 _)).bind
        (Decodes.pure _))))
  exact h.of_eq (by simp only [iconValue, List.append_nil])

def iconTlv (iconlen : UInt32) (iconsum : UInt16) (iconstamp : UInt32) : Ch1Tlv where
  type := 0x0008
  value := iconValue iconlen iconsum iconstamp
  length_lt := by
    rw [iconValue_length]
    decide
  act := iconAct iconlen iconsum iconstamp
  value_act bs r args h := ⟨_, decodes_iconValue _ _ _ _ args bs r h⟩

/-- A message TLV: the features and the sections. -/
structure MessageBlock where
  features : List UInt8
  sections : List AimMpmsgSection
  features_lt : features.length < 256
  complete : ∀ sec ∈ sections, sec.Complete
  length_lt : 4 + features.length + (sections.flatMap AimMpmsgSection.encode).length < 65536

namespace MessageBlock

variable (b : MessageBlock)

def featureslen : UInt8 := UInt8.ofNat b.features.length

def value : List UInt8 :=
  aimutilPut16 0x0501 ++ (aimutilPut16 b.featureslen.toUInt16 ++
    (b.features ++ b.sections.flatMap AimMpmsgSection.encode))

/-- What the loop does at the message TLV. -/
def act (args : AimIncomingimCh1Args) : AimIncomingimCh1Args :=
  finishParsemsgs { args with
    featureslen := b.featureslen
    features := b.features
    icbmflags := args.icbmflags ||| aimImflagsCustomfeatures
    mpmsg := args.mpmsg.addSections b.sections }

theorem featureslen_toNat : b.featureslen.toNat = b.features.length := by
  rw [featureslen, UInt8.toNat_ofNat', Nat.mod_eq_of_lt b.features_lt]

theorem value_length :
    b.value.length = 4 + b.features.length + (b.sections.flatMap AimMpmsgSection.encode).length := by
  simp only [value, List.length_append, aimutilPut16_length]
  omega

theorem parsemsgs_act {data r : List UInt8} {len : Int} (args : AimIncomingimCh1Args)
    (hdata : data = b.sections.flatMap AimMpmsgSection.encode ++ r)
    (hlen : len = (b.sections.flatMap AimMpmsgSection.encode).length) :
    incomingimCh1Parsemsgs data len args =
      some (finishParsemsgs { args with mpmsg := args.mpmsg.addSections b.sections }) := by
  have hlt := b.length_lt
  obtain ⟨l, hmap, hencode⟩ := exists_wireSections b.complete
  rw [← hencode] at hdata hlen hlt
  rw [incomingimCh1Parsemsgs_encode args hdata hlen (by omega), hmap]

theorem value_act (length : UInt16) (hlength : length.toNat = b.value.length) {bs : AimBstream}
    {r : List UInt8} (args : AimIncomingimCh1Args) (h : bs.rest = b.value ++ r) :
    incomingimCh1Value 0x0002 length args bs =
      some (b.act args, bs.skip (4 + b.features.length)) := by
  have hfirst : aimutilPut16 0x0501 = aimutilPut8 5 ++ aimutilPut8 1 := by decide
  simp only [value, hfirst, List.append_assoc] at h
  have h5 := Decodes.lift (reads_aimbsGet8 5) bs _ h
  have hrest1 := bs.rest_skip_of_append h
  have h1 := Decodes.lift (reads_aimbsGet8 1) _ _ hrest1
  have hrest2 := AimBstream.rest_skip_of_append _ hrest1
  have hlen := Decodes.lift (reads_aimbsGet16 b.featureslen.toUInt16) _ _ hrest2
  have hrest4 := AimBstream.rest_skip_of_append _ hrest2
  simp only [aimutilPut8_length, aimutilPut16_length, AimBstream.skip_skip] at *
  have hcut : b.featureslen.toUInt16.toUInt8 = b.featureslen := UInt8.toUInt8_toUInt16 _
  have htake : (bs.skip 4).rest.take b.featureslen.toNat = b.features := by
    rw [hrest4, b.featureslen_toNat, List.take_left]
  have hadvance := Decodes.lift (reads_aimBstreamAdvance b.featureslen_toNat.symm) _ _ hrest4
  have hrest := AimBstream.rest_skip_of_append _ hrest4
  rw [AimBstream.skip_skip] at hadvance hrest
  unfold incomingimCh1Value
  rw [if_pos rfl, stateT_bind h5, stateT_bind h1, stateT_bind hlen, stateT_get_bind, hcut,
    stateT_bind hadvance, stateT_get_bind, htake, b.parsemsgs_act _ hrest ?_]
  · rfl
  · rw [hlength, b.value_length, b.featureslen_toNat]
    omega

def tlv : Ch1Tlv where
  type := 0x0002
  value := b.value
  length_lt := by
    rw [b.value_length]
    exact b.length_lt
  act := b.act
  value_act _ _ args h := ⟨_, b.value_act _ (AimTlv.length_toNat _) args h⟩

end MessageBlock

/-! ## What is taken in -/

/-- The flags that `incomingim_ch1_parsemsgs` can set. -/
def parsemsgsFlags : UInt32 :=
  aimImflagsMultipart ||| (aimImflagsCustomcharset ||| (aimImflagsUnicode |||
    (aimImflagsIso88591 ||| aimImflagsSubencMacintosh)))

/-- The arguments differ in the message and its flags only. -/
structure SameButMsg (a b : AimIncomingimCh1Args) : Prop where
  mpmsg : b.mpmsg = a.mpmsg
  features : b.features = a.features
  featureslen : b.featureslen = a.featureslen
  flags : ∀ f, f &&& parsemsgsFlags = 0 → f &&& b.icbmflags = f &&& a.icbmflags

/-- Setting one of the flags that are left open changes no other flag. -/
theorem and_or_of_parsemsgsFlags {f g p : UInt32} (hf : f &&& parsemsgsFlags = 0)
    (hg : parsemsgsFlags &&& g = g) : f &&& (p ||| g) = f &&& p := by
  rw [mask_or, and_eq_zero_of_mask hf hg, UInt32.or_zero]

theorem fillSection_same (sec : AimMpmsgSection) (args : AimIncomingimCh1Args) :
    SameButMsg args (fillSection sec args) := by
  refine ⟨rfl, rfl, rfl, fun f hf => ?_⟩
  have hcustom (p : UInt32) : f &&& (p ||| aimImflagsCustomcharset) = f &&& p :=
    and_or_of_parsemsgsFlags hf (by decide)
  have hunicode (p : UInt32) : f &&& (p ||| aimImflagsUnicode) = f &&& p :=
    and_or_of_parsemsgsFlags hf (by decide)
  have hiso (p : UInt32) : f &&& (p ||| aimImflagsIso88591) = f &&& p :=
    and_or_of_parsemsgsFlags hf (by decide)
  have hmac (p : UInt32) : f &&& (p ||| aimImflagsSubencMacintosh) = f &&& p :=
    and_or_of_parsemsgsFlags hf (by decide)
  unfold fillSection
  dsimp only
  repeat' split
  all_goals simp only [hcustom, hunicode, hiso, hmac]

theorem finishParsemsgs_same (args : AimIncomingimCh1Args) :
    SameButMsg args (finishParsemsgs args) := by
  have hmulti (f p : UInt32) (hf : f &&& parsemsgsFlags = 0) :
      f &&& (p ||| aimImflagsMultipart) = f &&& p := and_or_of_parsemsgsFlags hf (by decide)
  unfold finishParsemsgs
  dsimp only
  cases prioritySection args.mpmsg.parts with
  | some sec =>
    have hfill := fillSection_same sec { args with
      icbmflags := args.icbmflags ||| aimImflagsMultipart }
    exact ⟨hfill.mpmsg, hfill.features, hfill.featureslen,
      fun f hf => (hfill.flags f hf).trans (hmulti f _ hf)⟩
  | none => exact ⟨rfl, rfl, rfl, fun f hf => hmulti f _ hf⟩

end Libfaim
