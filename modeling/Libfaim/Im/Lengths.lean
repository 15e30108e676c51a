import Libfaim.Im.Bounds
import Libfaim.Im.Outgoing

/-!
# The lengths in a message TLV

A section declares the length of its charset, its subset and its data together, and both decoders
take the four bytes of the first two off again, in sixteen bits or in an `int`. Each section of
`incomingim_ch1_parsemsgs` comes with the bytes its length declares, all of them out of the value,
exactly when the value is made of whole sections (`sectionsExact_iff`); `outgoingim` reads no
negative number of bytes exactly when the value has a length where the decoder looks for it, and
that is at least four (`messageExact_iff`).
-/

namespace Libfaim

/-! ## One section -/

/-- The length that a section declares. -/
def parsemsgsLength : StateM AimBstream UInt16 := do
  let _ ← aimbsGet8
  let _ ← aimbsGet8
  aimbsGet16

/-- The charset of a section and its subset. -/
def parsemsgsCharset : StateM AimBstream (UInt16 × UInt16) := do
  let flag1 ← aimbsGet16
  let flag2 ← aimbsGet16
  return (flag1, flag2)

/-- A section comes with as many bytes as its length declares. -/
def SectionExact (mbs : AimBstream) : Prop :=
  ∃ v, (parsemsgsSection mbs).1.data = some v ∧ v.length + 4 = (parsemsgsLength mbs).1.toNat

/-- How many bytes the charset and its subset take out of `n`: a number is read as a whole or not
at all. -/
def charsetWidth (n : Nat) : Nat := if 4 ≤ n then 4 else if 2 ≤ n then 2 else 0

theorem charsetWidth_le (n : Nat) : charsetWidth n ≤ n := by
  unfold charsetWidth
  repeat' split
  all_goals omega

section Section

variable {mbs : AimBstream}

theorem parsemsgsSection_eq : parsemsgsSection = do
    let msglen ← parsemsgsLength
    let flags ← parsemsgsCharset
    let msgbuf ← aimbsGetraw (msglen - 4).toNat
    return ⟨flags.1, flags.2, msgbuf, msglen - 4⟩ := by
  simp only [parsemsgsSection, parsemsgsLength, parsemsgsCharset, aimbsGetstr, bind_assoc,
    pure_bind]

theorem parsemsgsCharset_skip (mbs : AimBstream) :
    (parsemsgsCharset mbs).2 = mbs.skip (charsetWidth (aimBstreamEmpty mbs)) := by
  simp only [parsemsgsCharset, stateM_bind, stateM_pure, aimbsGet16, charsetWidth]
  by_cases h2 : 2 ≤ aimBstreamEmpty mbs
  · rw [aimbsGet_of_le h2]
    dsimp only
    by_cases h4 : 4 ≤ aimBstreamEmpty mbs
    · have hleft : 2 ≤ aimBstreamEmpty (mbs.skip 2) := by
        rw [skip_empty]
        omega
      rw [aimbsGet_of_le hleft, AimBstream.skip_skip, if_pos h4]
    · have hleft : aimBstreamEmpty (mbs.skip 2) < 2 := by
        rw [skip_empty]
        omega
      rw [aimbsGet_short hleft, if_neg h4, if_pos h2]
  · rw [aimbsGet_short (Nat.not_le.mp h2)]
    dsimp only
    rw [aimbsGet_short (Nat.not_le.mp h2), if_neg (by omega), if_neg h2, AimBstream.skip_zero]

/-- What is read behind the length. -/
theorem parsemsgsSection_of_le (h : 4 ≤ aimBstreamEmpty mbs) :
    (parsemsgsLength mbs).1 = aimutilGet16 (mbs.rest.drop 2) ∧
    (parsemsgsSection mbs).1.data =
      (aimbsGetraw (aimutilGet16 (mbs.rest.drop 2) - 4).toNat
        (mbs.skip (4 + charsetWidth (aimBstreamEmpty mbs - 4)))).1 ∧
    (parsemsgsSection mbs).2 =
      (aimbsGetraw (aimutilGet16 (mbs.rest.drop 2) - 4).toNat
        (mbs.skip (4 + charsetWidth (aimBstreamEmpty mbs - 4)))).2 := by
  have hlength : parsemsgsLength mbs = (aimutilGet16 (mbs.rest.drop 2), mbs.skip 4) := by
    simp only [parsemsgsLength, stateM_bind]
    exact aimbsGet16_third h
  have hcharset := parsemsgsCharset_skip (mbs.skip 4)
  rw [skip_empty, AimBstream.skip_skip] at hcharset
  simp only [parsemsgsSection_eq, stateM_bind, stateM_pure, hlength, hcharset, and_self]

theorem parsemsgsLength_short (h : aimBstreamEmpty mbs < 4) : (parsemsgsLength mbs).1 = 0 := by
  simp only [parsemsgsLength, stateM_bind]
  rw [aimbsGet16_third_short h]

/-- Four bytes taken off a length, in sixteen bits. -/
theorem toNat_sub_four (length : UInt16) :
    4 ≤ length.toNat ∧ (length - 4).toNat + 4 = length.toNat ∨
      length.toNat < 4 ∧ 65532 ≤ (length - 4).toNat := by
  have hlt : length.toNat < 65536 := length.toNat_lt
  have hsub := UInt16.toNat_sub length 4
  have hfour : (4 : UInt16).toNat = 4 := rfl
  omega

/-- The length has to be there, with at least four for the charset and its subset, and the rest of
it behind what is read of these. -/
theorem sectionExact_iff (mbs : AimBstream) : SectionExact mbs ↔
    4 ≤ aimBstreamEmpty mbs ∧ 4 ≤ (aimutilGet16 (mbs.rest.drop 2)).toNat ∧
      (aimutilGet16 (mbs.rest.drop 2)).toNat + charsetWidth (aimBstreamEmpty mbs - 4) ≤
        aimBstreamEmpty mbs := by
  unfold SectionExact
  by_cases h4 : 4 ≤ aimBstreamEmpty mbs
  · obtain ⟨hlength, hdata, -⟩ := parsemsgsSection_of_le h4
    rw [hlength, hdata]
    have hsub := toNat_sub_four (aimutilGet16 (mbs.rest.drop 2))
    generalize (aimutilGet16 (mbs.rest.drop 2)).toNat = length at hsub ⊢
    generalize (aimutilGet16 (mbs.rest.drop 2) - 4).toNat = datalen at hsub ⊢
    have hwidth := charsetWidth_le (aimBstreamEmpty mbs - 4)
    generalize charsetWidth (aimBstreamEmpty mbs - 4) = width at hwidth ⊢
    have hleft := skip_empty mbs (4 + width)
    by_cases hle : datalen ≤ aimBstreamEmpty (mbs.skip (4 + width))
    · rw [aimbsGetraw_of_le hle]
      have htake : ((mbs.skip (4 + width)).rest.take datalen).length = datalen := by
        rw [List.length_take, AimBstream.length_rest, Nat.min_eq_left hle]
      constructor
      · rintro ⟨v, hv, hlen⟩
        rw [← Option.some.inj hv, htake] at hlen
        omega
      · rintro ⟨-, hfour, hfits⟩
        exact ⟨_, rfl, by omega⟩
    · rw [aimbsGetraw_short (Nat.not_le.mp hle)]
      constructor
      · rintro ⟨v, hv, -⟩
        cases hv
      · rintro ⟨-, hfour, hfits⟩
        omega
  · rw [parsemsgsLength_short (Nat.not_le.mp h4)]
    constructor
    · rintro ⟨v, -, hlen⟩
      exact absurd hlen (Nat.succ_ne_zero _)
    · exact fun h => absurd h.1 h4

/-- Behind a section. -/
theorem parsemsgsSection_skip (h : SectionExact mbs) : (parsemsgsSection mbs).2 =
    mbs.skip ((aimutilGet16 (mbs.rest.drop 2)).toNat +
      charsetWidth (aimBstreamEmpty mbs - 4)) := by
  obtain ⟨h4, hfour, hfits⟩ := (sectionExact_iff mbs).mp h
  obtain ⟨-, -, hend⟩ := parsemsgsSection_of_le h4
  have hsub := toNat_sub_four (aimutilGet16 (mbs.rest.drop 2))
  have hleft := skip_empty mbs (4 + charsetWidth (aimBstreamEmpty mbs - 4))
  generalize charsetWidth (aimBstreamEmpty mbs - 4) = width at hfits hleft hend ⊢
  have hskip : 4 + width + (aimutilGet16 (mbs.rest.drop 2) - 4).toNat =
      (aimutilGet16 (mbs.rest.drop 2)).toNat + width := by omega
  rw [hend, aimbsGetraw_of_le (by omega), AimBstream.skip_skip, hskip]

end Section

/-! ## Whole sections -/

/-- What may be left of the last section: the subset is missing, or the charset and the subset are,
and its length declares no more than one byte of data. -/
def CutSection (bytes : List UInt8) : Prop :=
  ∃ lead charset data : List UInt8, lead.length = 2 ∧ (charset.length = 0 ∨ charset.length = 2) ∧
    data.length ≤ 1 ∧
    bytes = lead ++ (aimutilPut16 (UInt16.ofNat (4 + data.length)) ++ (charset ++ data))

/-- The bytes are sections, of which the last may be cut. -/
def WholeSections (bytes : List UInt8) : Prop :=
  ∃ (l : List WireSection) (cut : List UInt8), bytes = l.flatMap WireSection.encode ++ cut ∧
    (cut = [] ∨ CutSection cut)

theorem aimutilPut16_get16_take {v : List UInt8} (h : 2 ≤ v.length) :
    aimutilPut16 (aimutilGet16 v) = v.take 2 := by
  have hget : aimutilGet16 v = aimutilGet16 (v.take 2) := by
    simp only [aimutilGet16, List.take_take, Nat.min_self]
  rw [hget, aimutilPut16_get16 (by rw [List.length_take]; omega)]

section Whole

variable {mbs : AimBstream}

/-- With eight bytes and the data behind them there is a section. -/
theorem exists_wireSection (h : SectionExact mbs) (h8 : 8 ≤ aimBstreamEmpty mbs) :
    ∃ (x : WireSection) (r : List UInt8), mbs.rest = x.encode ++ r := by
  obtain ⟨-, hfour, hfits⟩ := (sectionExact_iff mbs).mp h
  have hwidth : charsetWidth (aimBstreamEmpty mbs - 4) = 4 := if_pos (by omega)
  rw [hwidth] at hfits
  have hsub := toNat_sub_four (aimutilGet16 (mbs.rest.drop 2))
  have hlen := mbs.length_rest
  generalize hrest : mbs.rest = rest at *
  have hput (n : Nat) (hn : n + 2 ≤ 8) :
      aimutilPut16 (aimutilGet16 (rest.drop n)) = (rest.drop n).take 2 :=
    aimutilPut16_get16_take (by rw [List.length_drop]; omega)
  have hsplit (n k : Nat) : (rest.drop n).take k ++ rest.drop (n + k) = rest.drop n := by
    rw [← List.drop_drop, List.take_append_drop]
  have hdata : ((rest.drop 8).take (aimutilGet16 (rest.drop 2) - 4).toNat).length =
      (aimutilGet16 (rest.drop 2) - 4).toNat := by
    rw [List.length_take, List.length_drop]
    omega
  refine ⟨⟨⟨aimutilGet16 (rest.drop 4), aimutilGet16 (rest.drop 6),
    some ((rest.drop 8).take (aimutilGet16 (rest.drop 2) - 4).toNat),
    aimutilGet16 (rest.drop 2) - 4⟩, rest.take 2, ?_, _, rfl, hdata⟩,
    rest.drop (8 + (aimutilGet16 (rest.drop 2) - 4).toNat), ?_⟩
  · rw [List.length_take]
    omega
  · have hdatalen : aimutilGet16 (rest.drop 2) - 4 + 4 = aimutilGet16 (rest.drop 2) :=
      UInt16.sub_add_cancel _ _
    simp only [WireSection.encode, hdatalen, Option.getD_some, List.append_assoc]
    rw [hput 2 (by omega), hput 4 (by omega), hput 6 (by omega), hsplit 8, hsplit 6 2, hsplit 4 2,
      hsplit 2 2, List.take_append_drop]

/-- With fewer, it is a cut one and the last, or a single byte is left behind it. -/
theorem cutSection_of_exact (h : SectionExact mbs) (h8 : aimBstreamEmpty mbs < 8)
    (hnext : aimBstreamEmpty (parsemsgsSection mbs).2 ≠ 1) : CutSection mbs.rest := by
  obtain ⟨h4, hfour, hfits⟩ := (sectionExact_iff mbs).mp h
  rw [parsemsgsSection_skip h, skip_empty] at hnext
  have hlen := mbs.length_rest
  have hwidth : charsetWidth (aimBstreamEmpty mbs - 4) = 0 ∧ aimBstreamEmpty mbs < 6 ∨
      charsetWidth (aimBstreamEmpty mbs - 4) = 2 ∧ 6 ≤ aimBstreamEmpty mbs := by
    unfold charsetWidth
    by_cases h6 : 6 ≤ aimBstreamEmpty mbs
    · rw [if_neg (by omega), if_pos (by omega)]
      exact .inr ⟨rfl, h6⟩
    · rw [if_neg (by omega), if_neg (by omega)]
      exact .inl ⟨rfl, Nat.not_le.mp h6⟩
  generalize charsetWidth (aimBstreamEmpty mbs - 4) = width at *
  generalize mbs.rest = rest at *
  have hput : aimutilPut16 (aimutilGet16 (rest.drop 2)) = (rest.drop 2).take 2 :=
    aimutilPut16_get16_take (by rw [List.length_drop]; omega)
  have hdata : (rest.drop (4 + width)).length + 4 = (aimutilGet16 (rest.drop 2)).toNat := by
    rw [List.length_drop]
    omega
  have hlength : UInt16.ofNat (4 + (rest.drop (4 + width)).length) =
      aimutilGet16 (rest.drop 2) := by
    rw [Nat.add_comm, hdata, UInt16.ofNat_toNat]
  refine ⟨rest.take 2, (rest.drop 4).take width, rest.drop (4 + width), ?_, ?_, ?_, ?_⟩
  · rw [List.length_take]
    omega
  · rw [List.length_take, List.length_drop]
    omega
  · omega
  · rw [hlength, hput, ← List.drop_drop, List.take_append_drop]
    have hdrop : rest.drop 4 = (rest.drop 2).drop 2 := by rw [List.drop_drop]
    rw [hdrop, List.take_append_drop, List.take_append_drop]

/-- The length of a complete section is not cut short by its sixteen bits. -/
theorem sectionExact_encode {x : WireSection} {r : List UInt8} (hrest : mbs.rest = x.encode ++ r)
    (hlt : aimBstreamEmpty mbs < 65536) : SectionExact mbs := by
  have hempty : aimBstreamEmpty mbs = 8 + x.datalen.toNat + r.length := by
    rw [← mbs.length_rest, hrest, List.length_append, x.encode_length]
  have hlength : aimutilGet16 (mbs.rest.drop 2) = x.datalen + 4 := by
    rw [hrest, WireSection.encode, List.append_assoc, List.drop_left' x.lead_length,
      List.append_assoc, aimutilGet16_put16]
  have htoNat : (x.datalen + 4).toNat = x.datalen.toNat + 4 := by
    rw [UInt16.toNat_add]
    exact Nat.mod_eq_of_lt (by show x.datalen.toNat + 4 < 65536; omega)
  have hwidth : charsetWidth (aimBstreamEmpty mbs - 4) = 4 := if_pos (by omega)
  rw [sectionExact_iff, hlength, htoNat, hwidth]
  omega

theorem sectionExact_cut (h : CutSection mbs.rest) :
    SectionExact mbs ∧ (parsemsgsSection mbs).2.rest = [] := by
  obtain ⟨lead, charset, data, hlead, hcharset, hdata, hrest⟩ := h
  have hempty : aimBstreamEmpty mbs = 4 + charset.length + data.length := by
    rw [← mbs.length_rest, hrest]
    simp only [List.length_append, aimutilPut16_length]
    omega
  have hlength : (aimutilGet16 (mbs.rest.drop 2)).toNat = 4 + data.length := by
    rw [hrest, List.drop_left' hlead, aimutilGet16_put16, UInt16.toNat_ofNat']
    exact Nat.mod_eq_of_lt (by omega)
  have hwidth : charsetWidth (aimBstreamEmpty mbs - 4) = charset.length := by
    unfold charsetWidth
    rcases hcharset with hcharset | hcharset
    · rw [if_neg (by omega), if_neg (by omega), hcharset]
    · rw [if_neg (by omega), if_pos (by omega), hcharset]
  have hexact : SectionExact mbs := by
    rw [sectionExact_iff, hlength, hwidth]
    omega
  refine ⟨hexact, List.eq_nil_of_length_eq_zero ?_⟩
  rw [parsemsgsSection_skip hexact, hlength, hwidth, AimBstream.length_rest, skip_empty]
  omega

end Whole

/-! ## All sections -/

/-- Where every section comes with its bytes, the bytes are whole sections. -/
theorem wholeSections_of_exact {mbs : AimBstream} {mpmsg : AimMpmsg}
    (h : ∀ s, Loop.Reach parsemsgsPass (mbs, mpmsg) s → 0 < aimBstreamEmpty s.1 →
      SectionExact s.1) : WholeSections mbs.rest := by
  induction hn : aimBstreamEmpty mbs using Nat.strongRecOn generalizing mbs mpmsg with
  | _ n ih =>
    rcases Nat.eq_zero_or_pos (aimBstreamEmpty mbs) with hz | hpos
    · have hnil : mbs.rest = [] := List.eq_nil_of_length_eq_zero (mbs.length_rest.trans hz)
      exact ⟨[], [], hnil, .inl rfl⟩
    have hexact := h _ .refl hpos
    obtain ⟨mpmsg', hb⟩ := parsemsgsPass_of_pos hpos mpmsg
    have hnext : ∀ s, Loop.Reach parsemsgsPass ((parsemsgsSection mbs).2, mpmsg') s →
        0 < aimBstreamEmpty s.1 → SectionExact s.1 := fun s hs => h s (hs.head hb)
    by_cases h8 : 8 ≤ aimBstreamEmpty mbs
    · obtain ⟨x, r, hrest⟩ := exists_wireSection hexact h8
      rw [x.reads_parsemsgsSection mbs r hrest] at hnext
      have hr := mbs.rest_skip_of_append hrest
      have hlt : aimBstreamEmpty (mbs.skip x.encode.length) < n := by
        have hlen := x.encode_length
        rw [skip_empty]
        omega
      obtain ⟨l, cut, hl, hcut⟩ := ih _ hlt hnext rfl
      rw [hr] at hl
      exact ⟨x :: l, cut, by rw [hrest, hl, List.flatMap_cons, List.append_assoc], hcut⟩
    · refine ⟨[], mbs.rest, rfl, .inr (cutSection_of_exact hexact (Nat.not_le.mp h8) ?_)⟩
      -- a single byte is no section
      intro hone
      generalize (parsemsgsSection mbs).2 = mbs' at hnext hone
      have hfour := ((sectionExact_iff mbs').mp
        (hnext (mbs', mpmsg') .refl (by show 0 < aimBstreamEmpty mbs'; omega))).1
      omega

theorem WholeSections.pass {mbs : AimBstream} (h : WholeSections mbs.rest)
    (hlt : aimBstreamEmpty mbs < 65536) (hpos : 0 < aimBstreamEmpty mbs) :
    SectionExact mbs ∧ WholeSections (parsemsgsSection mbs).2.rest := by
  obtain ⟨l, cut, hrest, hcut⟩ := h
  cases l with
  | nil =>
    rw [List.flatMap_nil, List.nil_append] at hrest
    rcases hcut with rfl | hcut
    · rw [← mbs.length_rest, hrest] at hpos
      exact absurd hpos (Nat.lt_irrefl 0)
    · rw [← hrest] at hcut
      obtain ⟨hexact, hnil⟩ := sectionExact_cut hcut
      exact ⟨hexact, [], [], hnil, .inl rfl⟩
  | cons x l =>
    rw [List.flatMap_cons, List.append_assoc] at hrest
    refine ⟨sectionExact_encode hrest hlt, l, cut, ?_, hcut⟩
    rw [x.reads_parsemsgsSection mbs _ hrest]
    exact mbs.rest_skip_of_append hrest

theorem exact_of_wholeSections {mbs : AimBstream} {mpmsg : AimMpmsg} (h : WholeSections mbs.rest)
    (hlt : aimBstreamEmpty mbs < 65536) {s : AimBstream × AimMpmsg}
    (hs : Loop.Reach parsemsgsPass (mbs, mpmsg) s) (hpos : 0 < aimBstreamEmpty s.1) :
    SectionExact s.1 := by
  have hinv : WholeSections s.1.rest ∧ aimBstreamEmpty s.1 < 65536 := by
    refine hs.inv (P := fun s => WholeSections s.1.rest ∧ aimBstreamEmpty s.1 < 65536) ?_ ⟨h, hlt⟩
    rintro ⟨mbs, mpmsg⟩ t ⟨hwhole, hlt⟩ hb
    rcases Nat.eq_zero_or_pos (aimBstreamEmpty mbs) with hz | hpos
    · rw [parsemsgsPass_of_empty hz] at hb
      cases hb
    · have hless := parsemsgsPass_reads.again_lt hb
      have hwhole' := (hwhole.pass hlt hpos).2
      obtain ⟨mpmsg', hb'⟩ := parsemsgsPass_of_pos hpos mpmsg
      generalize (parsemsgsSection mbs).2 = mbs' at hb' hwhole'
      obtain rfl := Loop.Pass.again.inj (hb'.symm.trans hb)
      exact ⟨hwhole', Nat.lt_trans hless hlt⟩
  exact (hinv.1.pass hinv.2 hpos).1

/-! ## A message TLV -/

namespace MessageTlvAt

variable {payload : AimBstream} (m : MessageTlvAt payload)

/-- `incomingim_ch1_parsemsgs` reads nothing but the value, and each section it adds comes with
exactly the bytes that the length of the section declares. -/
structure SectionsExact : Prop where
  inValue : ∀ p, m.SectionsRead p → m.InValue p
  exact : ∀ s, Loop.Reach parsemsgsPass (m.mbs, m.args.mpmsg) s → 0 < aimBstreamEmpty s.1 →
    SectionExact s.1

/-- The value has room for the features, and behind them it is made of whole sections. -/
structure SectionsWhole : Prop where
  declared : 4 + m.featureslen.toNat ≤ m.length.toNat
  present : m.length.toNat - (4 + m.featureslen.toNat) ≤ aimBstreamEmpty m.sections
  whole : WholeSections (m.sections.rest.take (m.length.toNat - (4 + m.featureslen.toNat)))

theorem mbs_rest (hdeclared : 4 + m.featureslen.toNat ≤ m.length.toNat)
    (hpresent : m.length.toNat - (4 + m.featureslen.toNat) ≤ aimBstreamEmpty m.sections) :
    m.mbs.rest = m.sections.rest.take (m.length.toNat - (4 + m.featureslen.toNat)) := by
  have hlt : m.length.toNat < 65536 := m.length.toNat_lt
  have hmod : (m.sectionslen % 65536).toNat = m.length.toNat - (4 + m.featureslen.toNat) := by
    rw [sectionslen]
    omega
  have hle : m.length.toNat - (4 + m.featureslen.toNat) ≤ m.sections.rest.length := by
    rw [m.sections.length_rest]
    exact hpresent
  simp only [mbs, aimBstreamInit, AimBstream.rest, hmod, List.drop_zero]
  rw [← AimBstream.rest, Nat.sub_eq_zero_of_le hle, List.replicate_zero, List.append_nil]

theorem mbs_empty_lt : aimBstreamEmpty m.mbs < 65536 := by
  simp only [mbs, aimBstreamInit, aimBstreamEmpty, AimBstream.len, List.length_append,
    List.length_take, List.length_replicate]
  omega

theorem sectionsExact_iff : m.SectionsExact ↔ m.SectionsWhole := by
  constructor
  · rintro ⟨hinValue, hexact⟩
    obtain ⟨hdeclared, hpresent⟩ := m.sectionsRead_inValue_iff.mp hinValue
    have hwhole := wholeSections_of_exact hexact
    rw [m.mbs_rest hdeclared hpresent] at hwhole
    exact ⟨hdeclared, hpresent, hwhole⟩
  · rintro ⟨hdeclared, hpresent, hwhole⟩
    rw [← m.mbs_rest hdeclared hpresent] at hwhole
    exact ⟨m.sectionsRead_inValue_iff.mpr ⟨hdeclared, hpresent⟩,
      fun s hs hpos => exact_of_wholeSections hwhole m.mbs_empty_lt hs hpos⟩

end MessageTlvAt

/-! ## The other decoder -/

/-- The `int` that `outgoingim` works out from the length of the first section. -/
def msgblockMsglen (msgblock : AimTlv) : Int :=
  (msgblockLength (aimBstreamInit msgblock.value msgblock.length.toNat)).1.toNat - 4

/-- `outgoingim` asks for no negative number of bytes, and a message it gives has exactly as many as
the length declares, all of them out of the value. -/
structure MessageExact (msgblock : AimTlv) : Prop where
  nonneg : 0 ≤ msgblockMsglen msgblock
  exact : ∀ msg flag1 flag2, outgoingimMsg msgblock = some (some msg, flag1, flag2) →
    msg.length = msgblockMsglen msgblock ∧
      ∃ before after, msgblock.value = before ++ (msg ++ after)

/-- The value has a length behind the features it announces, and that is at least four. -/
def DeclaresMessage (v : List UInt8) : Prop :=
  8 + (aimutilGet16 (v.drop 2)).toNat ≤ v.length ∧
    4 ≤ (aimutilGet16 (v.drop (6 + (aimutilGet16 (v.drop 2)).toNat))).toNat

theorem msgblockMsglen_nonneg_iff (msgblock : AimTlv) :
    0 ≤ msgblockMsglen msgblock ↔ DeclaresMessage msgblock.value := by
  have hempty : aimBstreamEmpty ⟨msgblock.value, 0⟩ = msgblock.value.length := rfl
  have hrest : AimBstream.rest ⟨msgblock.value, 0⟩ = msgblock.value := rfl
  unfold msgblockMsglen DeclaresMessage
  rw [aimBstreamInit_value]
  by_cases hle : 8 + (aimutilGet16 (msgblock.value.drop 2)).toNat ≤ msgblock.value.length
  · rw [msgblockLength_of_le (by rw [hempty, hrest]; exact hle), hrest]
    dsimp only
    omega
  · rw [msgblockLength_short (by rw [hempty, hrest]; omega)]
    constructor
    · intro h
      exact absurd h (by decide)
    · exact fun h => absurd h.1 hle

theorem forward_msgblockLength : Forward msgblockLength :=
  forward_aimbsGet8.bind fun _ => forward_aimbsGet8.bind fun _ => forward_aimbsGet16.bind fun _ =>
    (forward_getBytes _).bind fun _ => forward_aimbsGet8.bind fun _ => forward_aimbsGet8.bind
      fun _ => forward_aimbsGet16

/-- A message of a length that is not negative is taken from where the stream over the value is by
then. -/
theorem outgoingimMsg_of_nonneg {msgblock : AimTlv} (h : 0 ≤ msgblockMsglen msgblock) :
    ∃ mbs flag1 flag2, Onward ⟨msgblock.value, 0⟩ mbs ∧ outgoingimMsg msgblock =
      some ((aimbsGetraw (msgblockMsglen msgblock).toNat mbs).1, flag1, flag2) := by
  unfold msgblockMsglen at h ⊢
  unfold outgoingimMsg
  rw [aimBstreamInit_value] at h ⊢
  have hforward := forward_msgblockLength ⟨msgblock.value, 0⟩
  cases hlength : msgblockLength ⟨msgblock.value, 0⟩ with
  | mk length mbs =>
    rw [hlength] at h hforward
    have hflag1 := forward_aimbsGet16 mbs
    have hflag2 := forward_aimbsGet16 (aimbsGet16 mbs).2
    dsimp only at h hforward ⊢
    rw [hlength]
    dsimp only
    unfold aimbsGetstrInt
    rw [if_pos h]
    exact ⟨_, _, _, hforward.trans (hflag1.trans hflag2), rfl⟩

theorem messageExact_iff (msgblock : AimTlv) :
    MessageExact msgblock ↔ DeclaresMessage msgblock.value := by
  rw [← msgblockMsglen_nonneg_iff]
  refine ⟨fun h => h.nonneg, fun hnonneg => ⟨hnonneg, fun msg flag1 flag2 hmsg => ?_⟩⟩
  obtain ⟨mbs, flag1', flag2', honward, heq⟩ := outgoingimMsg_of_nonneg hnonneg
  rw [heq] at hmsg
  obtain ⟨hraw, -⟩ := Prod.mk.inj (Option.some.inj hmsg)
  obtain ⟨hlen, htake⟩ := aimbsGetraw_some hraw
  refine ⟨by omega, msgblock.value.take mbs.offset,
    mbs.rest.drop (msgblockMsglen msgblock).toNat, ?_⟩
  have hrest : mbs.rest = msgblock.value.drop mbs.offset := by
    rw [AimBstream.rest, honward.data_eq]
  rw [htake, List.take_append_drop, hrest, List.take_append_drop]

/-! ## Both decoders -/

/-- In every payload and for every message TLV, the sections of `incomingim_ch1` come with exactly
the bytes their lengths declare, all of them out of the value, if and only if the value is made of
whole sections; and `outgoingim` takes its message in that way, with no negative length, if and only
if the length it finds is at least four. -/
theorem messageLengths_iff {payload : AimBstream} (m : MessageTlvAt payload)
    (msgblock : AimTlv) : (m.SectionsExact ↔ m.SectionsWhole) ∧
      (MessageExact msgblock ↔ DeclaresMessage msgblock.value) :=
  ⟨m.sectionsExact_iff, messageExact_iff msgblock⟩

/-- A section that declares three bytes: one decoder keeps it without data and with a length of
65535, and the other copies -1 bytes. -/
theorem not_messageLengths :
    (∃ m : MessageTlvAt ⟨[0x00, 0x02, 0x00, 0x0c, 0x05, 0x01, 0x00, 0x00,
        0x01, 0x01, 0x00, 0x03, 0x00, 0x00, 0x00, 0x00], 0⟩, ¬ m.SectionsExact) ∧
      ¬ MessageExact (createtlv 0x0002 0x000c [0x05, 0x01, 0x00, 0x00,
        0x01, 0x01, 0x00, 0x03, 0x00, 0x00, 0x00, 0x00]) := by
  constructor
  · refine ⟨⟨_, _, .refl, by decide, by decide⟩, fun h => ?_⟩
    obtain ⟨-, hfour, -⟩ := (sectionExact_iff _).mp (h.exact _ .refl (by decide))
    exact absurd hfour (by decide)
  · intro h
    exact absurd h.nonneg (by decide)

end Libfaim
