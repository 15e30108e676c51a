import Libfaim.BStream.Progress
import Libfaim.Im.Ch1
import Libfaim.Lib.Cursor

/-!
# Where the message of channel 1 is read from

`incomingim_ch1_parsemsgs` is given a pointer into the frame and a length that its caller works out
from the length of the message TLV and the length of the features. The loop reads every byte up to
that length (`parsemsgsReads_iff`), whether they are bytes of the TLV, of the frame, or of what lies
behind it. `MessageTlvAt.fits_iff` says for which TLVs the reads and the features stay inside.
-/

namespace Libfaim

/-! ## The loop over the sections -/

theorem forward_parsemsgsSection : Forward parsemsgsSection :=
  forward_aimbsGet8.bind fun _ => forward_aimbsGet8.bind fun _ => forward_aimbsGet16.bind fun _ =>
    forward_aimbsGet16.bind fun _ => forward_aimbsGet16.bind fun _ =>
      (forward_aimbsGetstr _).bind fun _ => Forward.pure _

theorem advances_parsemsgsSection : Advances 1 parsemsgsSection :=
  advances_aimbsGet8.bind fun _ => forward_aimbsGet8.bind fun _ => forward_aimbsGet16.bind fun _ =>
    forward_aimbsGet16.bind fun _ => forward_aimbsGet16.bind fun _ =>
      (forward_aimbsGetstr _).bind fun _ => Forward.pure _

theorem parsemsgsPass_of_pos {mbs : AimBstream} (h : aimBstreamEmpty mbs > 0) (mpmsg : AimMpmsg) :
    ∃ mpmsg', parsemsgsPass (mbs, mpmsg) = .again ((parsemsgsSection mbs).2, mpmsg') := by
  unfold parsemsgsPass
  dsimp only
  rw [if_pos h]
  generalize parsemsgsSection mbs = read
  obtain ⟨sec, mbs'⟩ := read
  exact ⟨_, rfl⟩

theorem parsemsgsPass_of_empty {mbs : AimBstream} (h : aimBstreamEmpty mbs = 0)
    (mpmsg : AimMpmsg) : parsemsgsPass (mbs, mpmsg) = .leave mpmsg := by
  unfold parsemsgsPass
  dsimp only
  rw [if_neg (Nat.not_lt.mpr (Nat.le_of_eq h))]

/-- A section is read in every pass, however many bytes there are for it. -/
theorem parsemsgsPass_reads :
    Loop.Reads parsemsgsPass fun s => aimBstreamEmpty s.1 where
  leave := fun ⟨_, mpmsg⟩ h => ⟨mpmsg, parsemsgsPass_of_empty h mpmsg⟩
  again := by
    intro s hpos
    obtain ⟨mpmsg', hb⟩ := parsemsgsPass_of_pos hpos s.2
    have hlt := (forward_parsemsgsSection s.1).empty_lt (advances_parsemsgsSection s.1 hpos)
    generalize (parsemsgsSection s.1).2 = mbs' at hb hlt
    exact ⟨(mbs', mpmsg'), hb, hlt⟩

theorem parsemsgsPass_onward {s t : AimBstream × AimMpmsg} (h : parsemsgsPass s = .again t) :
    Onward s.1 t.1 := by
  obtain ⟨mbs, mpmsg⟩ := s
  rcases Nat.eq_zero_or_pos (aimBstreamEmpty mbs) with hz | hpos
  · rw [parsemsgsPass_of_empty hz] at h
    nomatch h
  · obtain ⟨mpmsg', hb⟩ := parsemsgsPass_of_pos hpos mpmsg
    have honward := forward_parsemsgsSection mbs
    generalize (parsemsgsSection mbs).2 = mbs' at hb honward
    rw [← Loop.Pass.again.inj (hb.symm.trans h)]
    exact honward

/-- The loop entered on `mbs` reads the byte at the offset `p`: a pass moves over it. -/
def ParsemsgsReads (mbs : AimBstream) (mpmsg : AimMpmsg) (p : Nat) : Prop :=
  ∃ s t, Loop.Reach parsemsgsPass (mbs, mpmsg) s ∧ parsemsgsPass s = .again t ∧
    s.1.offset ≤ p ∧ p < t.1.offset

theorem parsemsgs_reach_onward {mbs : AimBstream} {mpmsg : AimMpmsg} {s : AimBstream × AimMpmsg}
    (h : Loop.Reach parsemsgsPass (mbs, mpmsg) s) : Onward mbs s.1 :=
  h.inv (P := fun s => Onward mbs s.1)
    (fun _ _ hs hb => hs.trans (parsemsgsPass_onward hb)) (Onward.refl mbs)

/-- All of the stream is read, and nothing else. -/
theorem parsemsgsReads_iff (mbs : AimBstream) (mpmsg : AimMpmsg) (p : Nat) :
    ParsemsgsReads mbs mpmsg p ↔ mbs.offset ≤ p ∧ p < mbs.offset + aimBstreamEmpty mbs := by
  constructor
  · rintro ⟨s, t, hreach, hb, hle, hlt⟩
    have hs := parsemsgs_reach_onward hreach
    have ht := hs.trans (parsemsgsPass_onward hb)
    exact ⟨Nat.le_trans hs.offset_le hle, Nat.lt_of_lt_of_le hlt ht.le_left⟩
  · rintro ⟨hle, hlt⟩
    -- counted from the end, `p` is the byte with `n` bytes from it on
    obtain ⟨n, hn⟩ := Nat.exists_eq_add_of_lt hlt
    obtain ⟨s, t, hreach, hb, ht, hs⟩ := parsemsgsPass_reads.exists_pass (s := (mbs, mpmsg))
      (n := n + 1) (Nat.succ_pos n) (show n + 1 ≤ aimBstreamEmpty mbs by omega)
    have hs' := (parsemsgs_reach_onward hreach).empty_eq
    have ht' := ((parsemsgs_reach_onward hreach).trans (parsemsgsPass_onward hb)).empty_eq
    exact ⟨s, t, hreach, hb, by omega, by omega⟩

/-- It always returns. -/
theorem incomingimCh1Parsemsgs_isSome (data : List UInt8) (len : Int)
    (args : AimIncomingimCh1Args) : ∃ args', incomingimCh1Parsemsgs data len args = some args' := by
  obtain ⟨mpmsg, h⟩ := parsemsgsPass_reads.run (aimBstreamInit data len, args.mpmsg)
  refine ⟨finishParsemsgs { args with mpmsg := mpmsg }, ?_⟩
  unfold incomingimCh1Parsemsgs
  dsimp only
  rw [h]
  rfl

/-- What is read of a message TLV before the features: how many bytes these are. -/
def messageStart : StateM AimBstream UInt8 := do
  let _ ← aimbsGet8
  let _ ← aimbsGet8
  let featureslen ← aimbsGet16
  return featureslen.toUInt8

theorem forward_messageStart : Forward messageStart :=
  forward_aimbsGet8.bind fun _ => forward_aimbsGet8.bind fun _ => forward_aimbsGet16.bind fun _ =>
    Forward.pure _

theorem incomingimCh1Parsemsgs_features {data : List UInt8} {len : Int}
    {args args' : AimIncomingimCh1Args} (h : incomingimCh1Parsemsgs data len args = some args') :
    args'.featureslen = args.featureslen ∧ args'.features = args.features := by
  obtain ⟨mpmsg, -, rfl⟩ := Option.map_eq_some_iff.mp h
  exact ⟨(finishParsemsgs_same _).featureslen, (finishParsemsgs_same _).features⟩

/-! ## One pass of the loop over the TLVs -/

theorem incomingimCh1Value_features {type length : UInt16} (htype : type ≠ 0x0002)
    {args args' : AimIncomingimCh1Args} {bs bs' : AimBstream}
    (h : incomingimCh1Value type length args bs = some (args', bs')) :
    args'.featureslen = args.featureslen ∧ args'.features = args.features := by
  unfold incomingimCh1Value at h
  rw [if_neg htype] at h
  repeat' split at h
  all_goals
    cases h
    exact ⟨rfl, rfl⟩

theorem succeeds_incomingimCh1Value (type length : UInt16) (args : AimIncomingimCh1Args) :
    Succeeds (incomingimCh1Value type length args) := by
  unfold incomingimCh1Value
  split
  · refine (Succeeds.lift forward_aimbsGet8).bind fun _ => (Succeeds.lift forward_aimbsGet8).bind
      fun _ => (Succeeds.lift forward_aimbsGet16).bind fun featureslen => Succeeds.get.bind fun _ =>
        (Succeeds.lift (forward_aimBstreamAdvance _)).bind fun _ => Succeeds.get.bind fun bs => ?_
    obtain ⟨args', h⟩ := incomingimCh1Parsemsgs_isSome bs.rest _ _
    exact Succeeds.of_eq_some h
  split
  · exact Succeeds.pure _
  split
  · exact Succeeds.pure _
  split
  · exact Succeeds.pure _
  split
  · exact (Succeeds.lift forward_aimbsGet32).bind fun _ => (Succeeds.lift forward_aimbsGet16).bind
      fun _ => (Succeeds.lift forward_aimbsGet16).bind fun _ =>
        (Succeeds.lift forward_aimbsGet32).bind fun _ => Succeeds.pure _
  split
  · exact Succeeds.pure _
  split
  · exact (Succeeds.lift (forward_aimbsGetraw _)).bind fun _ => Succeeds.pure _
  · exact Succeeds.pure _

theorem incomingimCh1Pass_of_empty {bs : AimBstream} (h : aimBstreamEmpty bs = 0)
    (args : AimIncomingimCh1Args) : incomingimCh1Pass (bs, args) = .leave (args, bs) := by
  unfold incomingimCh1Pass
  dsimp only
  rw [if_neg (Nat.not_lt.mpr (Nat.le_of_eq h))]

/-- Wherever the reader of the value leaves the stream, the pass goes on behind the header. -/
theorem aimBstreamSetpos_onward {bs bs' bs'' : AimBstream} {off : Nat} (h : Onward bs bs')
    (h' : Onward bs' bs'') (hoff : bs'.offset ≤ off) :
    Onward bs (aimBstreamSetpos off bs'').2 ∧ bs'.offset ≤ (aimBstreamSetpos off bs'').2.offset := by
  have hall := h.trans h'
  by_cases hle : off ≤ bs''.len
  · rw [aimBstreamSetpos_of_le hle]
    refine ⟨⟨hall.data_eq, Nat.le_trans h.offset_le hoff, ?_⟩, hoff⟩
    rw [hall.len_eq] at hle
    show off ≤ bs.offset + aimBstreamEmpty bs
    unfold aimBstreamEmpty
    omega
  · rw [aimBstreamSetpos_of_lt (Nat.not_le.mp hle)]
    exact ⟨hall, h'.offset_le⟩

/-- A pass reads the header, the value as its type wants, and goes on at the end that the header
declares, if that is in the stream. -/
theorem incomingimCh1Pass_value {bs bs1 bs2 : AimBstream} {type length : UInt16}
    (h : aimBstreamEmpty bs > 0) (htype : aimbsGet16 bs = (type, bs1))
    (hlength : aimbsGet16 bs1 = (length, bs2)) (args : AimIncomingimCh1Args) :
    ∃ args' bs3, incomingimCh1Value type length args bs2 = some (args', bs3) ∧ Onward bs2 bs3 ∧
      incomingimCh1Pass (bs, args) =
        .again ((aimBstreamSetpos (bs2.offset + length.toNat) bs3).2, args') := by
  obtain ⟨args', bs3, hvalue, h3⟩ := succeeds_incomingimCh1Value type length args bs2
  refine ⟨args', bs3, hvalue, h3, ?_⟩
  unfold incomingimCh1Pass
  dsimp only
  rw [if_pos h, htype]
  dsimp only
  rw [hlength]
  dsimp only
  rw [hvalue]
  rfl

theorem incomingimCh1Pass_of_pos (bs : AimBstream) (h : aimBstreamEmpty bs > 0)
    (args : AimIncomingimCh1Args) :
    ∃ bs' args', incomingimCh1Pass (bs, args) = .again (bs', args') ∧ Onward bs bs' ∧
      (1 < aimBstreamEmpty bs → bs.offset < bs'.offset) ∧
      (aimBstreamEmpty bs = 1 → bs' = bs) := by
  rcases htype : aimbsGet16 bs with ⟨type, bs1⟩
  rcases hlength : aimbsGet16 bs1 with ⟨length, bs2⟩
  have h1 : Onward bs bs1 := by simpa only [htype] using forward_aimbsGet16 bs
  have h2 : Onward bs1 bs2 := by simpa only [hlength] using forward_aimbsGet16 bs1
  obtain ⟨args', bs3, hvalue, h3, hpass⟩ := incomingimCh1Pass_value h htype hlength args
  obtain ⟨honward, hle⟩ := aimBstreamSetpos_onward (h1.trans h2) h3
    (Nat.le_add_right bs2.offset length.toNat)
  refine ⟨_, args', hpass, honward, ?_, ?_⟩
  · intro hmore
    have hlt : bs.offset < bs1.offset := by
      simpa only [htype] using advances_aimbsGet16 bs hmore
    exact Nat.lt_of_lt_of_le hlt (Nat.le_trans h2.offset_le hle)
  · -- neither half of the header is read, and a TLV of the type zero has no effect
    intro hone
    rw [aimbsGet16_single hone] at htype
    cases htype
    rw [aimbsGet16_single hone] at hlength
    cases hlength
    cases hvalue
    exact aimBstreamSetpos_offset bs

theorem incomingimCh1Pass_onward {s t : AimBstream × AimIncomingimCh1Args}
    (h : incomingimCh1Pass s = .again t) : Onward s.1 t.1 := by
  obtain ⟨bs, args⟩ := s
  rcases Nat.eq_zero_or_pos (aimBstreamEmpty bs) with hz | hpos
  · rw [incomingimCh1Pass_of_empty hz] at h
    nomatch h
  · obtain ⟨bs', args', hb, honward, -, -⟩ := incomingimCh1Pass_of_pos bs hpos args
    rw [← Loop.Pass.again.inj (hb.symm.trans h)]
    exact honward

theorem incomingimCh1_reach_onward {payload : AimBstream} {args : AimIncomingimCh1Args}
    {s : AimBstream × AimIncomingimCh1Args}
    (h : Loop.Reach incomingimCh1Pass (payload, args) s) : Onward payload s.1 :=
  h.inv (P := fun s => Onward payload s.1)
    (fun _ _ hs hb => hs.trans (incomingimCh1Pass_onward hb)) (Onward.refl payload)

/-! ## The message TLV -/

/-- The loop of `incomingim_ch1`, entered on `payload`, comes to a message TLV. -/
structure MessageTlvAt (payload : AimBstream) where
  head : AimBstream
  args : AimIncomingimCh1Args
  reach : Loop.Reach incomingimCh1Pass (payload, AimIncomingimCh1Args.zero) (head, args)
  nonempty : aimBstreamEmpty head > 0
  type_eq : (aimbsGet16 head).1 = 0x0002

namespace MessageTlvAt

variable {payload : AimBstream} (m : MessageTlvAt payload)

/-- The length that the TLV declares. -/
def length : UInt16 := (aimbsGet16 (aimbsGet16 m.head).2).1

/-- The stream at the value. -/
def value : AimBstream := (aimbsGet16 (aimbsGet16 m.head).2).2

def featureslen : UInt8 := (messageStart m.value).1

/-- The stream at the features. -/
def features : AimBstream := (messageStart m.value).2

/-- The stream at the sections. -/
def sections : AimBstream := (aimBstreamAdvance m.featureslen.toNat m.features).2

/-- The length that `incomingim_ch1_parsemsgs` is given. -/
def sectionslen : Int := (m.length.toNat : Int) - 2 - 2 - m.featureslen.toNat

/-- The stream that `incomingim_ch1_parsemsgs` sets up. -/
def mbs : AimBstream := aimBstreamInit m.sections.rest m.sectionslen

/-- The value is read as the definitions above say. -/
theorem incomingimCh1Value_eq (args : AimIncomingimCh1Args) :
    incomingimCh1Value 0x0002 m.length args m.value =
      (incomingimCh1Parsemsgs m.sections.rest m.sectionslen { args with
        featureslen := m.featureslen
        features := m.features.rest.take m.featureslen.toNat
        icbmflags := args.icbmflags ||| aimImflagsCustomfeatures }).map (·, m.sections) := by
  have hlen : (aimbsGet16 (aimbsGet8 (aimbsGet8 m.value).2).2).1.toUInt8 = m.featureslen := by
    rw [featureslen, messageStart, stateM_bind, stateM_bind, stateM_bind, stateM_pure]
  have hfeatures : (aimbsGet16 (aimbsGet8 (aimbsGet8 m.value).2).2).2 = m.features := by
    rw [features, messageStart, stateM_bind, stateM_bind, stateM_bind, stateM_pure]
  have hsections : (aimBstreamAdvance m.featureslen.toNat m.features).2 = m.sections := by
    rw [sections]
  have hsectionslen : (m.length.toNat : Int) - 2 - 2 - m.featureslen.toNat = m.sectionslen := by
    rw [sectionslen]
  unfold incomingimCh1Value
  rw [if_pos rfl, stateT_lift_bind, stateT_lift_bind, stateT_lift_bind, stateT_get_bind,
    stateT_lift_bind, stateT_get_bind, hlen, hfeatures, hsections, hsectionslen]
  generalize hret : incomingimCh1Parsemsgs m.sections.rest m.sectionslen _ = ret
  cases ret with
  | none => rfl
  | some args' => rfl

theorem pass_again : ∃ bs' args', incomingimCh1Pass (m.head, m.args) = .again (bs', args') ∧
    args'.featureslen = m.featureslen ∧
    args'.features = m.features.rest.take m.featureslen.toNat := by
  obtain ⟨args', bs3, hvalue, -, hpass⟩ := incomingimCh1Pass_value m.nonempty
    (show _ = ((0x0002 : UInt16), (aimbsGet16 m.head).2) from Prod.ext m.type_eq rfl)
    (show _ = (m.length, m.value) from rfl) m.args
  refine ⟨_, args', hpass, ?_⟩
  rw [m.incomingimCh1Value_eq, Option.map_eq_some_iff] at hvalue
  obtain ⟨args'', hparse, hpair⟩ := hvalue
  have hargs : args'' = args' := congrArg Prod.fst hpair
  have hsame := incomingimCh1Parsemsgs_features hparse
  dsimp only at hsame
  rw [← hargs]
  exact hsame

/-- The offset `p` of the frame is in the value of the TLV, and in the frame. -/
def InValue (p : Nat) : Prop :=
  m.value.offset ≤ p ∧ p < m.value.offset + m.length.toNat ∧ p < payload.len

/-- `incomingim_ch1_parsemsgs` reads the byte at the offset `p` of the frame. -/
def SectionsRead (p : Nat) : Prop :=
  ∃ q, p = m.sections.offset + q ∧ ParsemsgsReads m.mbs m.args.mpmsg q

/-- The loop comes to `m'` later than to `m`. -/
def Before (m' : MessageTlvAt payload) : Prop :=
  ∃ s, incomingimCh1Pass (m.head, m.args) = .again s ∧
    Loop.Reach incomingimCh1Pass s (m'.head, m'.args)

/-- The loop is left and comes to no other message TLV before, so the client is given the features
of this one (`features_eq_of_last`). -/
def Last : Prop :=
  Loop.Terminates incomingimCh1Pass (payload, AimIncomingimCh1Args.zero) ∧
    ∀ m' : MessageTlvAt payload, ¬ m.Before m'

/-- The byte at the offset `p` of the frame is among the features the client is given. -/
def FeaturesHanded (p : Nat) : Prop :=
  m.Last ∧ m.features.offset ≤ p ∧ p < m.features.offset + m.featureslen.toNat

theorem features_eq_of_last (h : m.Last) {args : AimIncomingimCh1Args} {bs : AimBstream}
    (hloop : incomingimCh1Loop payload = some (args, bs)) :
    args.featureslen = m.featureslen ∧ args.features = m.features.rest.take m.featureslen.toNat := by
  obtain ⟨bs', args', hpass, hlen, hfeatures⟩ := m.pass_again
  obtain ⟨fuel, hrun⟩ := (m.reach.tail hpass).run hloop
  -- the passes that follow come to no message TLV, and no other sets the features
  refine Loop.run_inv (fun s => Loop.Reach incomingimCh1Pass (bs', args') s ∧
      s.2.featureslen = m.featureslen ∧ s.2.features = m.features.rest.take m.featureslen.toNat)
    (fun r => r.1.featureslen = m.featureslen ∧
      r.1.features = m.features.rest.take m.featureslen.toNat) ?_ ?_ ⟨.refl, hlen, hfeatures⟩ hrun
  · rintro ⟨bs1, args1⟩ t ⟨hreach, hlen1, hfeatures1⟩ hb
    refine ⟨hreach.tail hb, ?_⟩
    rcases Nat.eq_zero_or_pos (aimBstreamEmpty bs1) with hz | hpos
    · rw [incomingimCh1Pass_of_empty hz] at hb
      nomatch hb
    · have htype : (aimbsGet16 bs1).1 ≠ 0x0002 := fun htype =>
        h.2 ⟨bs1, args1, (m.reach.tail hpass).trans hreach, hpos, htype⟩ ⟨_, hpass, hreach⟩
      obtain ⟨args2, bs2, hvalue, -, hb'⟩ := incomingimCh1Pass_value hpos
        (Prod.ext rfl rfl) (Prod.ext rfl rfl) args1
      obtain ⟨hlen2, hfeatures2⟩ := incomingimCh1Value_features htype hvalue
      rw [← Loop.Pass.again.inj (hb'.symm.trans hb)]
      exact ⟨hlen2.trans hlen1, hfeatures2.trans hfeatures1⟩
  · rintro ⟨bs1, args1⟩ r ⟨-, hlen1, hfeatures1⟩ hb
    rcases Nat.eq_zero_or_pos (aimBstreamEmpty bs1) with hz | hpos
    · rw [incomingimCh1Pass_of_empty hz] at hb
      rw [← Loop.Pass.leave.inj hb]
      exact ⟨hlen1, hfeatures1⟩
    · obtain ⟨bs2, args2, hb', -⟩ := incomingimCh1Pass_of_pos bs1 hpos args1
      rw [hb'] at hb
      nomatch hb

/-- The TLV declares at least the four bytes and the features, the rest of what it declares is in
the frame behind them, and so are the features if the client is given them. -/
structure Fits : Prop where
  declared : 4 + m.featureslen.toNat ≤ m.length.toNat
  sections : m.length.toNat - (4 + m.featureslen.toNat) ≤ aimBstreamEmpty m.sections
  features : m.Last → m.featureslen.toNat ≤ aimBstreamEmpty m.features

theorem onward_value : Onward m.head m.value :=
  (forward_aimbsGet16 m.head).trans (forward_aimbsGet16 _)

theorem onward_features : Onward m.value m.features := forward_messageStart m.value

theorem onward_sections : Onward m.features m.sections := by
  rw [sections]
  exact forward_aimBstreamAdvance m.featureslen.toNat m.features

theorem features_offset_le : m.features.offset ≤ m.value.offset + 4 := by
  have h1 := aimbsGet_offset_le 1 0 aimutilGet8 m.value
  have h2 := aimbsGet_offset_le 1 0 aimutilGet8 (aimbsGet8 m.value).2
  have h4 := aimbsGet_offset_le 2 0 aimutilGet16 (aimbsGet8 (aimbsGet8 m.value).2).2
  rw [features, messageStart, stateM_bind, stateM_bind, stateM_bind, stateM_pure]
  unfold aimbsGet8 aimbsGet16 at *
  dsimp only
  omega

theorem sections_offset_le : m.sections.offset ≤ m.features.offset + m.featureslen.toNat := by
  rw [sections]
  exact aimBstreamAdvance_offset_le m.featureslen.toNat m.features

theorem sectionsRead_iff (p : Nat) :
    m.SectionsRead p ↔ m.sections.offset ≤ p ∧
      p < m.sections.offset + (m.sectionslen % 65536).toNat := by
  have hempty : aimBstreamEmpty m.mbs = (m.sectionslen % 65536).toNat := by
    simp only [mbs, aimBstreamInit, aimBstreamEmpty, AimBstream.len, List.length_append,
      List.length_take, List.length_replicate]
    omega
  have hoffset : m.mbs.offset = 0 := rfl
  unfold SectionsRead
  constructor
  · rintro ⟨q, rfl, hq⟩
    rw [parsemsgsReads_iff, hempty, hoffset] at hq
    omega
  · rintro ⟨hle, hlt⟩
    refine ⟨p - m.sections.offset, by omega, ?_⟩
    rw [parsemsgsReads_iff, hempty, hoffset]
    omega

/-- Past the head of the loop the streams are streams of the frame. -/
theorem offset_add_empty {bs : AimBstream} (h : Onward m.head bs) :
    bs.offset + aimBstreamEmpty bs = payload.len := by
  have hlen : m.head.len = payload.len := (incomingimCh1_reach_onward m.reach).len_eq
  have hpos := m.nonempty
  rw [h.empty_eq, ← hlen]
  unfold aimBstreamEmpty at hpos ⊢
  omega

/-- The reads stay inside if and only if the length of the sections is not negative and there are
as many bytes for them. -/
theorem sectionsRead_inValue_iff : (∀ p, m.SectionsRead p → m.InValue p) ↔
    4 + m.featureslen.toNat ≤ m.length.toNat ∧
      m.length.toNat - (4 + m.featureslen.toNat) ≤ aimBstreamEmpty m.sections := by
  have hsections :=
    m.offset_add_empty (m.onward_value.trans (m.onward_features.trans m.onward_sections))
  have hle := m.onward_features.offset_le
  have hle' := m.onward_sections.offset_le
  have hfour := m.features_offset_le
  have hskip := m.sections_offset_le
  have hbyte : m.featureslen.toNat < 256 := m.featureslen.toNat_lt
  have hlength : m.length.toNat < 65536 := m.length.toNat_lt
  have hsectionslen : m.sectionslen = (m.length.toNat : Int) - 2 - 2 - m.featureslen.toNat := by
    rw [sectionslen]
  simp only [sectionsRead_iff, InValue]
  constructor
  · intro hread
    -- were the length negative, it would wrap to more than the TLV declares
    have hdeclared : 4 + m.featureslen.toNat ≤ m.length.toNat := by
      by_contra hneg
      obtain ⟨-, hlt, -⟩ := hread (m.sections.offset + (m.sectionslen % 65536).toNat - 1)
        (by omega)
      omega
    refine ⟨hdeclared, ?_⟩
    by_contra hrest
    obtain ⟨-, -, hlt⟩ := hread (m.sections.offset + (m.sectionslen % 65536).toNat - 1)
      (by omega)
    omega
  · rintro ⟨hdeclared, hrest⟩ p ⟨hp, hp'⟩
    omega

theorem fits_iff :
    ((∀ p, m.SectionsRead p → m.InValue p) ∧ ∀ p, m.FeaturesHanded p → m.InValue p) ↔ m.Fits := by
  have hfeatures := m.offset_add_empty (m.onward_value.trans m.onward_features)
  have hle := m.onward_features.offset_le
  have hfour := m.features_offset_le
  rw [m.sectionsRead_inValue_iff]
  simp only [FeaturesHanded, InValue]
  constructor
  · rintro ⟨⟨hdeclared, hrest⟩, hhanded⟩
    refine ⟨hdeclared, hrest, fun hlast => ?_⟩
    by_contra hfeat
    obtain ⟨-, -, hlt⟩ := hhanded (m.features.offset + m.featureslen.toNat - 1)
      ⟨hlast, by omega, by omega⟩
    omega
  · rintro ⟨hdeclared, hrest, hfeat⟩
    refine ⟨⟨hdeclared, hrest⟩, ?_⟩
    rintro p ⟨hlast, hp, hp'⟩
    have hin := hfeat hlast
    omega

end MessageTlvAt

/-- What is read and handed on for a payload comes from the values of its message TLVs, and from the
frame, exactly when each message TLV fits. -/
theorem incomingimCh1_inValue_iff (payload : AimBstream) :
    (∀ m : MessageTlvAt payload,
      (∀ p, m.SectionsRead p → m.InValue p) ∧ ∀ p, m.FeaturesHanded p → m.InValue p) ↔
    ∀ m : MessageTlvAt payload, m.Fits :=
  forall_congr' fun m => m.fits_iff

/-- A message TLV without a value is read as one of 65532 bytes. -/
theorem incomingimCh1_reads_past_frame :
    ∃ m : MessageTlvAt ⟨[0x00, 0x02, 0x00, 0x00], 0⟩, ∃ p, m.SectionsRead p ∧ ¬ m.InValue p := by
  refine ⟨⟨_, _, .refl, by decide, by decide⟩, 65535, ?_, ?_⟩
  · rw [MessageTlvAt.sectionsRead_iff]
    decide
  · rintro ⟨-, -, hlt⟩
    exact absurd hlt (by decide)

end Libfaim
