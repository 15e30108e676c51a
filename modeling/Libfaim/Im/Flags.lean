import Libfaim.Im.Chain
import Libfaim.Im.Sections

/-!
# What the flags of a message say

The client looks at `icbmflags` for which fields of the arguments are there. On whole TLVs a flag is
set for what its TLV has set it for (`incomingimCh1_run_flags`), and `AIM_IMFLAGS_CUSTOMCHARSET` for
the section that is shown. No code sets `AIM_IMFLAGS_EXTDATA`, and the icon length of a TLV too
short for one is read from what follows. `flagsTell_iff` says for which payloads that makes no
difference.
-/

namespace Libfaim

open Mask

/-! ## The flags of one TLV -/

/-- The flags that are set for a TLV, where `r` are the bytes behind it. -/
def raisedFlags (tlv : AimTlv) (r : List UInt8) : UInt32 :=
  if tlv.type = 0x0002 then aimImflagsCustomfeatures ||| aimImflagsMultipart
  else if tlv.type = 0x0003 then aimImflagsAck
  else if tlv.type = 0x0004 then aimImflagsAway
  else if tlv.type = 0x0006 then aimImflagsOffline
  else if tlv.type = 0x0008 then
    if inPlaceIconlen (tlv.value ++ r) ≠ 0 then aimImflagsHasicon else 0
  else if tlv.type = 0x0009 then aimImflagsBuddyreq
  else 0

/-- The flags that describe the section that is shown. -/
def sectionFlags : UInt32 :=
  aimImflagsCustomcharset ||| (aimImflagsUnicode ||| (aimImflagsIso88591 |||
    aimImflagsSubencMacintosh))

/-- The message is filled from one of the sections. -/
def MsgFilled (args : AimIncomingimCh1Args) : Prop :=
  ∃ sec ∈ args.mpmsg.parts, Readable sec ∧ args.msg = sec.data ∧
    args.msglen = sec.datalen.toNat ∧ args.charset = sec.charset ∧
      args.charsubset = sec.charsubset

/-- The client is told whether it is. -/
def MsgTold (args : AimIncomingimCh1Args) : Prop :=
  args.has aimImflagsCustomcharset ↔ MsgFilled args

theorem has_or {p q f : UInt32} : (p ||| q) &&& f ≠ 0 ↔ p &&& f ≠ 0 ∨ q &&& f ≠ 0 := by
  rw [ne_eq, or_and_eq_zero_iff, UInt32.and_comm f q, not_and_or]

section Message

variable {f : UInt32}

theorem flags_and_sectionFlags (hf : f &&& sectionFlags = 0) (sec : AimMpmsgSection) :
    sec.flags &&& f = 0 := by
  have hpart : sectionFlags &&& sec.flags = sec.flags := by
    unfold AimMpmsgSection.flags
    repeat' split
    all_goals decide
  rw [UInt32.and_comm]
  exact and_eq_zero_of_mask hf hpart

/-- Whether a section is shown or not. -/
theorem finishParsemsgs_has (hf : f &&& sectionFlags = 0) (args : AimIncomingimCh1Args) :
    (finishParsemsgs args).has f ↔ args.has f ∨ aimImflagsMultipart &&& f ≠ 0 := by
  unfold finishParsemsgs
  dsimp only
  cases prioritySection args.mpmsg.parts with
  | some sec =>
    dsimp only
    rw [fillSection_eq]
    unfold AimIncomingimCh1Args.has
    dsimp only
    rw [has_or, has_or, flags_and_sectionFlags hf]
    simp only [ne_eq, not_true, or_false]
  | none => exact has_or

theorem finishParsemsgs_told {args args' : AimIncomingimCh1Args} (h : MsgTold args)
    (hflag : args'.has aimImflagsCustomcharset ↔ args.has aimImflagsCustomcharset)
    (hparts : ∀ sec ∈ args.mpmsg.parts, sec ∈ args'.mpmsg.parts) :
    MsgTold (finishParsemsgs args') := by
  unfold MsgTold finishParsemsgs
  dsimp only
  cases hsec : prioritySection args'.mpmsg.parts with
  | some sec =>
    have hbest := prioritySection_best hsec
    dsimp only
    rw [fillSection_eq]
    refine ⟨fun _ => ⟨sec, hbest.mem, hbest.readable, rfl, rfl, rfl, rfl⟩, fun _ => ?_⟩
    unfold AimIncomingimCh1Args.has AimMpmsgSection.flags
    dsimp only
    simp only [has_or]
    exact .inr (.inl (.inl (.inl (by decide))))
  | none =>
    have hnone := prioritySection_eq_none_iff.mp hsec
    -- what was shown before would still be there
    have hnot : ¬ args'.has aimImflagsCustomcharset := by
      intro hhas
      obtain ⟨sec, hmem, hread, -⟩ := h.mp (hflag.mp hhas)
      exact hnone sec (hparts sec hmem) hread
    constructor
    · intro hhas
      unfold AimIncomingimCh1Args.has at hhas
      dsimp only at hhas
      rcases has_or.mp hhas with hhas | hhas
      · exact absurd hhas hnot
      · exact absurd hhas (by decide)
    · rintro ⟨sec, hmem, hread, -⟩
      exact absurd hread (hnone sec hmem)

end Message

section Value

variable {tlv : AimTlv} {args args' : AimIncomingimCh1Args} {bs bs' : AimBstream}
  {r : List UInt8}

/-- No section is lost. -/
theorem incomingimCh1Parsemsgs_finish {data : List UInt8} {len : Int}
    (h : incomingimCh1Parsemsgs data len args = some args') :
    ∃ mpmsg : AimMpmsg, args' = finishParsemsgs { args with mpmsg := mpmsg } ∧
      ∀ sec ∈ args.mpmsg.parts, sec ∈ mpmsg.parts := by
  obtain ⟨mpmsg, hrun, rfl⟩ := Option.map_eq_some_iff.mp h
  refine ⟨mpmsg, rfl, ?_⟩
  refine Loop.run_inv (fun s => ∀ sec ∈ args.mpmsg.parts, sec ∈ s.2.parts)
    (fun mpmsg => ∀ sec ∈ args.mpmsg.parts, sec ∈ mpmsg.parts) ?_ ?_ (fun sec hsec => hsec) hrun
  · rintro ⟨mbs, mpmsg⟩ t hkept hb sec hsec
    unfold parsemsgsPass at hb
    dsimp only at hb
    generalize parsemsgsSection mbs = read at hb
    split at hb
    · obtain rfl := Loop.Pass.again.inj hb
      exact List.mem_append_left _ (hkept sec hsec)
    · cases hb
  · rintro ⟨mbs, mpmsg⟩ result hkept hb
    unfold parsemsgsPass at hb
    dsimp only at hb
    generalize parsemsgsSection mbs = read at hb
    split at hb
    · cases hb
    · obtain rfl := Loop.Pass.leave.inj hb
      exact hkept

/-- A message TLV. -/
theorem incomingimCh1Value_block {length : UInt16}
    (h : incomingimCh1Value 0x0002 length args bs = some (args', bs')) :
    (∀ f, f &&& sectionFlags = 0 → (args'.has f ↔ args.has f ∨
      (aimImflagsCustomfeatures ||| aimImflagsMultipart) &&& f ≠ 0)) ∧
      (MsgTold args → MsgTold args') := by
  unfold incomingimCh1Value at h
  rw [if_pos rfl] at h
  simp only [stateT_lift_bind, stateT_get_bind] at h
  generalize hret : incomingimCh1Parsemsgs _ _ _ = ret at h
  cases ret with
  | none => cases h
  | some args'' =>
    obtain rfl : args'' = args' := congrArg Prod.fst (Option.some.inj h)
    obtain ⟨mpmsg, rfl, hparts⟩ := incomingimCh1Parsemsgs_finish hret
    constructor
    · intro f hf
      rw [finishParsemsgs_has hf]
      unfold AimIncomingimCh1Args.has
      dsimp only
      rw [has_or, has_or, or_assoc]
    · intro htold
      refine finishParsemsgs_told htold ?_ hparts
      unfold AimIncomingimCh1Args.has
      dsimp only
      rw [has_or]
      refine or_iff_left ?_
      decide

theorem aimbsGet32_iconlen (bs : AimBstream) : (aimbsGet32 bs).1 = inPlaceIconlen bs.rest := by
  unfold inPlaceIconlen aimbsGet32
  rw [bs.length_rest]
  by_cases h : 4 ≤ aimBstreamEmpty bs
  · rw [aimbsGet_of_le h, if_pos h]
  · rw [aimbsGet_short (Nat.not_le.mp h), if_neg h]

/-- Any other TLV. -/
theorem incomingimCh1Value_other (htype : tlv.type ≠ 0x0002) (hrest : bs.rest = tlv.value ++ r)
    (h : incomingimCh1Value tlv.type tlv.length args bs = some (args', bs')) :
    args'.icbmflags = args.icbmflags ||| raisedFlags tlv r ∧ args'.mpmsg = args.mpmsg ∧
      args'.msg = args.msg ∧ args'.msglen = args.msglen ∧ args'.charset = args.charset ∧
        args'.charsubset = args.charsubset := by
  unfold incomingimCh1Value at h
  unfold raisedFlags
  rw [if_neg htype] at h ⊢
  by_cases h3 : tlv.type = 0x0003
  · rw [if_pos h3] at h ⊢
    cases h
    exact ⟨rfl, rfl, rfl, rfl, rfl, rfl⟩
  rw [if_neg h3] at h ⊢
  by_cases h4 : tlv.type = 0x0004
  · rw [if_pos h4] at h ⊢
    cases h
    exact ⟨rfl, rfl, rfl, rfl, rfl, rfl⟩
  rw [if_neg h4] at h ⊢
  by_cases h6 : tlv.type = 0x0006
  · rw [if_pos h6] at h ⊢
    cases h
    exact ⟨rfl, rfl, rfl, rfl, rfl, rfl⟩
  rw [if_neg h6] at h ⊢
  by_cases h8 : tlv.type = 0x0008
  · rw [if_pos h8] at h ⊢
    rw [stateT_lift_bind, stateT_lift_bind, stateT_lift_bind, stateT_lift_bind] at h
    rw [← hrest, ← aimbsGet32_iconlen]
    generalize (aimbsGet32 bs).1 = iconlen at h ⊢
    cases h
    refine ⟨?_, rfl, rfl, rfl, rfl, rfl⟩
    dsimp only
    by_cases hzero : iconlen = 0
    · rw [if_neg (not_not.mpr hzero), if_neg (not_not.mpr hzero), UInt32.or_zero]
    · rw [if_pos hzero, if_pos hzero]
  rw [if_neg h8] at h ⊢
  by_cases h9 : tlv.type = 0x0009
  · rw [if_pos h9] at h ⊢
    cases h
    exact ⟨rfl, rfl, rfl, rfl, rfl, rfl⟩
  -- the flags stay, whether it is an extended data TLV or one that is not known
  rw [if_neg h9] at h ⊢
  rw [UInt32.or_zero]
  split at h
  all_goals
    cases h
    exact ⟨rfl, rfl, rfl, rfl, rfl, rfl⟩

/-- What a TLV does to the flags. -/
theorem incomingimCh1Value_flags (hrest : bs.rest = tlv.value ++ r)
    (h : incomingimCh1Value tlv.type tlv.length args bs = some (args', bs')) :
    (∀ f, f &&& sectionFlags = 0 →
      (args'.has f ↔ args.has f ∨ raisedFlags tlv r &&& f ≠ 0)) ∧
      (MsgTold args → MsgTold args') := by
  by_cases htype : tlv.type = 0x0002
  · rw [htype] at h
    have hraised : raisedFlags tlv r = aimImflagsCustomfeatures ||| aimImflagsMultipart :=
      if_pos htype
    rw [hraised]
    exact incomingimCh1Value_block h
  · obtain ⟨hflags, hmpmsg, hmsg, hmsglen, hcharset, hcharsubset⟩ :=
      incomingimCh1Value_other htype hrest h
    constructor
    · intro f _
      unfold AimIncomingimCh1Args.has
      rw [hflags, has_or]
    · intro htold
      have hnone : raisedFlags tlv r &&& aimImflagsCustomcharset = 0 := by
        unfold raisedFlags
        repeat' split
        all_goals decide
      unfold MsgTold MsgFilled AimIncomingimCh1Args.has at *
      rw [hflags, hmpmsg, hmsg, hmsglen, hcharset, hcharsubset, has_or, hnone]
      simpa only [ne_eq, not_true, or_false] using htold

end Value

/-! ## The whole loop -/

/-- The flag is set for one of the TLVs. -/
def Raised (f : UInt32) : List AimTlv → Prop
  | [] => False
  | tlv :: list => raisedFlags tlv (encodeTlvchain list) &&& f ≠ 0 ∨ Raised f list

theorem incomingimCh1_run_flags {list : List AimTlv} {bs : AimBstream}
    {args : AimIncomingimCh1Args} (h : bs.rest = encodeTlvchain list) {fuel : Nat}
    (hfuel : list.length < fuel) :
    ∃ res bs', Loop.run incomingimCh1Pass fuel (bs, args) = some (res, bs') ∧
      (∀ f, f &&& sectionFlags = 0 → (res.has f ↔ args.has f ∨ Raised f list)) ∧
        (MsgTold args → MsgTold res) := by
  induction list generalizing bs args fuel with
  | nil =>
    obtain ⟨k, rfl⟩ : ∃ k, fuel = k + 1 := ⟨fuel - 1, by omega⟩
    exact ⟨args, bs, Loop.run_leave (incomingimCh1Pass_nil h) k, fun f _ => (or_iff_left id).symm,
      id⟩
  | cons tlv list ih =>
    obtain ⟨k, rfl⟩ : ∃ k, fuel = k + 1 := ⟨fuel - 1, by omega⟩
    rw [encodeTlvchain_cons] at h
    obtain ⟨-, -, hvalue⟩ := aimbsGet16_encode h
    obtain ⟨args', bs', hsome, hpass⟩ := incomingimCh1Pass_tlv h args
    obtain ⟨hflags, htold⟩ := incomingimCh1Value_flags hvalue hsome
    rw [List.length_cons] at hfuel
    obtain ⟨res, bs₁, hrun, hflags', htold'⟩ :=
      @ih (bs.skip tlv.encode.length) args' (bs.rest_skip_of_append h) k (by omega)
    refine ⟨res, bs₁, by rw [Loop.run_again hpass, hrun], fun f hf => ?_, htold' ∘ htold⟩
    rw [hflags' f hf, hflags f hf, Raised, or_assoc]

/-- On whole TLVs the flags are those raised for the TLVs, and the client is told of the message. -/
theorem incomingimCh1Loop_flags {list : List AimTlv} {bs : AimBstream}
    (h : bs.rest = encodeTlvchain list) : ∃ res bs', incomingimCh1Loop bs = some (res, bs') ∧
      (∀ f, f &&& sectionFlags = 0 → (res.has f ↔ Raised f list)) ∧ MsgTold res := by
  have hle := length_le_encodeTlvchain list
  have hfuel : list.length < aimBstreamEmpty bs + 1 := by
    rw [← bs.length_rest, h]
    omega
  obtain ⟨res, bs', hrun, hflags, htold⟩ :=
    @incomingimCh1_run_flags list bs AimIncomingimCh1Args.zero h _ hfuel
  refine ⟨res, bs', hrun, fun f hf => ?_, htold ?_⟩
  · have hzero : ¬ AimIncomingimCh1Args.zero.has f := by
      unfold AimIncomingimCh1Args.has
      exact not_not.mpr (UInt32.zero_and)
    rw [hflags f hf, or_iff_right hzero]
  · -- there are no flags and no sections yet
    refine ⟨fun hhas => absurd hhas (by decide), ?_⟩
    rintro ⟨sec, hmem, -⟩
    exact absurd hmem List.not_mem_nil

section Raised

variable {f : UInt32} {list : List AimTlv}

theorem raised_iff_of_type {t : UInt16}
    (h : ∀ tlv r, raisedFlags tlv r &&& f ≠ 0 ↔ tlv.type = t) :
    Raised f list ↔ ∃ tlv ∈ list, tlv.type = t := by
  induction list with
  | nil => exact ⟨False.elim, fun ⟨_, hmem, _⟩ => absurd hmem List.not_mem_nil⟩
  | cons tlv list ih => rw [Raised, h, ih, List.exists_mem_cons_iff]

end Raised

/-- Each flag but that of the icon stands for one type. -/
theorem raisedFlags_iff (tlv : AimTlv) (r : List UInt8) :
    (raisedFlags tlv r &&& aimImflagsCustomfeatures ≠ 0 ↔ tlv.type = 0x0002) ∧
    (raisedFlags tlv r &&& aimImflagsMultipart ≠ 0 ↔ tlv.type = 0x0002) ∧
    (raisedFlags tlv r &&& aimImflagsAck ≠ 0 ↔ tlv.type = 0x0003) ∧
    (raisedFlags tlv r &&& aimImflagsAway ≠ 0 ↔ tlv.type = 0x0004) ∧
    (raisedFlags tlv r &&& aimImflagsOffline ≠ 0 ↔ tlv.type = 0x0006) ∧
    (raisedFlags tlv r &&& aimImflagsBuddyreq ≠ 0 ↔ tlv.type = 0x0009) ∧
    (raisedFlags tlv r &&& aimImflagsHasicon ≠ 0 ↔
      tlv.type = 0x0008 ∧ inPlaceIconlen (tlv.value ++ r) ≠ 0) ∧
    raisedFlags tlv r &&& aimImflagsExtdata = 0 := by
  unfold raisedFlags
  repeat' split
  all_goals simp +decide [*]

/-- No TLV sets the flag of the extended data, those with such data neither. -/
theorem not_raised_extdata (list : List AimTlv) : ¬ Raised aimImflagsExtdata list := by
  induction list with
  | nil => exact id
  | cons tlv list ih =>
    have hzero := (raisedFlags_iff tlv (encodeTlvchain list)).2.2.2.2.2.2.2
    exact not_or.mpr ⟨not_not.mpr hzero, ih⟩

/-! ## Icons -/

/-- The TLV has the length of an icon, and that is not zero. -/
def GivesIconlen (tlv : AimTlv) : Prop := 4 ≤ tlv.value.length ∧ aimutilGet32 tlv.value ≠ 0

/-- Where an icon TLV has no room for the length, and no other TLV gives one, zero is read for it,
or nothing. -/
def IconsTold (list : List AimTlv) : Prop :=
  (∃ tlv ∈ list, tlv.type = 0x0008 ∧ GivesIconlen tlv) ∨
    ∀ before tlv after, list = before ++ tlv :: after → tlv.type = 0x0008 →
      tlv.value.length < 4 → inPlaceIconlen (tlv.value ++ encodeTlvchain after) = 0

section Icons

variable {list : List AimTlv}

theorem raised_hasicon_iff : Raised aimImflagsHasicon list ↔
    ∃ before tlv after, list = before ++ tlv :: after ∧ tlv.type = 0x0008 ∧
      inPlaceIconlen (tlv.value ++ encodeTlvchain after) ≠ 0 := by
  induction list with
  | nil =>
    refine ⟨False.elim, ?_⟩
    rintro ⟨before, tlv, after, hlist, -⟩
    exact absurd hlist.symm (List.append_ne_nil_of_right_ne_nil _ (List.cons_ne_nil _ _))
  | cons head list ih =>
    have hhead := (raisedFlags_iff head (encodeTlvchain list)).2.2.2.2.2.2.1
    rw [Raised, hhead, ih]
    constructor
    · rintro (⟨htype, hlen⟩ | ⟨before, tlv, after, rfl, htype, hlen⟩)
      · exact ⟨[], head, list, rfl, htype, hlen⟩
      · exact ⟨head :: before, tlv, after, rfl, htype, hlen⟩
    · rintro ⟨before, tlv, after, hlist, htype, hlen⟩
      cases before with
      | nil =>
        obtain ⟨rfl, rfl⟩ := List.cons.inj hlist
        exact .inl ⟨htype, hlen⟩
      | cons x before =>
        obtain ⟨rfl, rfl⟩ := List.cons.inj hlist
        exact .inr ⟨before, tlv, after, rfl, htype, hlen⟩

/-- The flag of the icon tells whether a TLV has given a length. -/
theorem iconsTold_iff : (Raised aimImflagsHasicon list ↔
    ∃ tlv ∈ list, tlv.type = 0x0008 ∧ GivesIconlen tlv) ↔ IconsTold list := by
  have hgiven : (∃ tlv ∈ list, tlv.type = 0x0008 ∧ GivesIconlen tlv) →
      Raised aimImflagsHasicon list := by
    rintro ⟨tlv, hmem, htype, hlen, hne⟩
    obtain ⟨before, after, rfl⟩ := List.append_of_mem hmem
    rw [raised_hasicon_iff]
    exact ⟨before, tlv, after, rfl, htype, by rwa [inPlaceIconlen_append hlen]⟩
  constructor
  · intro h
    by_cases hgives : ∃ tlv ∈ list, tlv.type = 0x0008 ∧ GivesIconlen tlv
    · exact .inl hgives
    · have hnot := mt h.mp hgives
      rw [raised_hasicon_iff] at hnot
      refine .inr fun before tlv after hlist htype _ => ?_
      by_contra hne
      exact hnot ⟨before, tlv, after, hlist, htype, hne⟩
  · intro h
    refine ⟨fun hraised => ?_, hgiven⟩
    rcases h with hgives | hzero
    · exact hgives
    · obtain ⟨before, tlv, after, rfl, htype, hne⟩ := raised_hasicon_iff.mp hraised
      have hlen : 4 ≤ tlv.value.length := by
        by_contra hshort
        exact hne (hzero before tlv after rfl htype (Nat.not_le.mp hshort))
      rw [inPlaceIconlen_append hlen] at hne
      exact ⟨tlv, List.mem_append_right _ List.mem_cons_self, htype, hlen, hne⟩

end Icons

/-! ## What the client is told -/

/-- The flags tell which of the fields are there. `gives` says for which TLVs there are extended
data; whether one without bytes is among them does not matter here. -/
structure FlagsTell (gives : AimTlv → Prop) (list : List AimTlv) (res : AimIncomingimCh1Args) :
    Prop where
  hasicon : res.has aimImflagsHasicon ↔ ∃ tlv ∈ list, tlv.type = 0x0008 ∧ GivesIconlen tlv
  extdata : res.has aimImflagsExtdata ↔ ∃ tlv ∈ list, tlv.type = 0x0017 ∧ gives tlv
  customfeatures : res.has aimImflagsCustomfeatures ↔ ∃ tlv ∈ list, tlv.type = 0x0002
  multipart : res.has aimImflagsMultipart ↔ ∃ tlv ∈ list, tlv.type = 0x0002
  customcharset : res.has aimImflagsCustomcharset ↔ MsgFilled res
  ack : res.has aimImflagsAck ↔ ∃ tlv ∈ list, tlv.type = 0x0003
  away : res.has aimImflagsAway ↔ ∃ tlv ∈ list, tlv.type = 0x0004
  offline : res.has aimImflagsOffline ↔ ∃ tlv ∈ list, tlv.type = 0x0006
  buddyreq : res.has aimImflagsBuddyreq ↔ ∃ tlv ∈ list, tlv.type = 0x0009

/-- On whole TLVs the flags tell which fields are there if and only if no TLV gives extended data,
and no icon is read from behind a TLV too short for its length. -/
theorem flagsTell_iff (gives : AimTlv → Prop) {list : List AimTlv} {bs : AimBstream}
    (h : bs.rest = encodeTlvchain list) :
    ∃ res bs', incomingimCh1Loop bs = some (res, bs') ∧
      (FlagsTell gives list res ↔
        (∀ tlv ∈ list, tlv.type = 0x0017 → ¬ gives tlv) ∧ IconsTold list) := by
  obtain ⟨res, bs', hloop, hflags, htold⟩ := incomingimCh1Loop_flags h
  have hicon := hflags aimImflagsHasicon (by decide)
  have hext : ¬ res.has aimImflagsExtdata := by
    rw [hflags aimImflagsExtdata (by decide)]
    exact not_raised_extdata list
  refine ⟨res, bs', hloop, ?_⟩
  rw [← iconsTold_iff, ← hicon]
  constructor
  · intro htell
    refine ⟨fun tlv hmem htype hgives => ?_, htell.hasicon⟩
    exact hext (htell.extdata.mpr ⟨tlv, hmem, htype, hgives⟩)
  · rintro ⟨hnone, hicons⟩
    refine ⟨hicons, ⟨fun hhas => absurd hhas hext, ?_⟩, ?_, ?_, htold, ?_, ?_, ?_, ?_⟩
    · rintro ⟨tlv, hmem, htype, hgives⟩
      exact absurd hgives (hnone tlv hmem htype)
    · rw [hflags _ (by decide)]
      exact raised_iff_of_type fun tlv r => (raisedFlags_iff tlv r).1
    · rw [hflags _ (by decide)]
      exact raised_iff_of_type fun tlv r => (raisedFlags_iff tlv r).2.1
    · rw [hflags _ (by decide)]
      exact raised_iff_of_type fun tlv r => (raisedFlags_iff tlv r).2.2.1
    · rw [hflags _ (by decide)]
      exact raised_iff_of_type fun tlv r => (raisedFlags_iff tlv r).2.2.2.1
    · rw [hflags _ (by decide)]
      exact raised_iff_of_type fun tlv r => (raisedFlags_iff tlv r).2.2.2.2.1
    · rw [hflags _ (by decide)]
      exact raised_iff_of_type fun tlv r => (raisedFlags_iff tlv r).2.2.2.2.2.1

section Example

/-- An acknowledgement is asked for, and there is an icon of two bytes: the client is told of
both. -/
theorem flagsTell_roomyTlvs :
    ∃ res bs', incomingimCh1Loop ⟨encodeTlvchain roomyTlvs, 0⟩ = some (res, bs') ∧
      FlagsTell (fun tlv => tlv.value ≠ []) roomyTlvs res := by
  obtain ⟨res, bs', hloop, hiff⟩ := @flagsTell_iff (fun tlv => tlv.value ≠ []) roomyTlvs
    ⟨encodeTlvchain roomyTlvs, 0⟩ rfl
  refine ⟨res, bs', hloop, hiff.mpr ⟨by decide, .inl ⟨_, List.mem_cons_of_mem _ List.mem_cons_self,
    rfl, by decide, by decide⟩⟩⟩

/-- One byte of extended data. -/
def extdataTlvs : List AimTlv := [createtlv 0x0017 1 [0xaa]]

/-- The client has them and is not told. -/
theorem not_flagsTell_extdata :
    ∃ res bs', incomingimCh1Loop ⟨encodeTlvchain extdataTlvs, 0⟩ = some (res, bs') ∧
      res.extdata = some [0xaa] ∧ ¬ FlagsTell (fun tlv => tlv.value ≠ []) extdataTlvs res := by
  obtain ⟨res, bs', hloop, hreading⟩ := @incomingimCh1Loop_see extdataTlvs
    ⟨encodeTlvchain extdataTlvs, 0⟩ rfl
  have hextdata : res.extdata = some [0xaa] := congrArg Ch1Reading.extdata hreading
  have hnotHas : ¬ res.has aimImflagsExtdata := by
    obtain ⟨res', _, hloop', hflags, -⟩ := @incomingimCh1Loop_flags extdataTlvs
      ⟨encodeTlvchain extdataTlvs, 0⟩ rfl
    obtain ⟨rfl, -⟩ := Prod.mk.inj (Option.some.inj (hloop.symm.trans hloop'))
    rw [hflags aimImflagsExtdata (by decide)]
    exact not_raised_extdata extdataTlvs
  refine ⟨res, bs', hloop, hextdata, fun htell => hnotHas (htell.extdata.mpr ?_)⟩
  exact ⟨_, List.mem_cons_self, rfl, List.cons_ne_nil _ _⟩

end Example

end Libfaim
