import Libfaim.Im.Ch1

/-!
# The section that is shown

For clients that know of one message only, `incomingim_ch1_parsemsgs` hands one of the sections on
as the message: the first one of the best charset there is (`BestSection`), in the order ASCII,
ISO-8859-1, UNICODE. On whole sections it keeps all of them in order and fills in that one
(`incomingimCh1Parsemsgs_sections`).
-/

namespace Libfaim

/-! ## The choice -/

/-- The charsets that a client without multipart messages may be shown. -/
def Readable (sec : AimMpmsgSection) : Prop :=
  sec.charset = 0x0000 ∨ sec.charset = 0x0003 ∨ sec.charset = 0x0002

instance (sec : AimMpmsgSection) : Decidable (Readable sec) :=
  inferInstanceAs (Decidable (_ ∨ _ ∨ _))

/-- `sec` is the first section of its charset, and there is none of a better charset. -/
structure BestSection (parts : List AimMpmsgSection) (sec : AimMpmsgSection) : Prop where
  first : ∃ before after, parts = before ++ sec :: after ∧ ∀ x ∈ before, x.charset ≠ sec.charset
  best : sec.charset = 0x0000 ∨
    (sec.charset = 0x0003 ∧ ∀ x ∈ parts, x.charset ≠ 0x0000) ∨
    (sec.charset = 0x0002 ∧ ∀ x ∈ parts, x.charset ≠ 0x0000 ∧ x.charset ≠ 0x0003)

section Choice

variable {parts : List AimMpmsgSection} {sec : AimMpmsgSection}

theorem BestSection.mem (h : BestSection parts sec) : sec ∈ parts := by
  obtain ⟨before, after, rfl, -⟩ := h.first
  exact List.mem_append_right before List.mem_cons_self

theorem BestSection.readable (h : BestSection parts sec) : Readable sec := by
  rcases h.best with h0 | ⟨h3, -⟩ | ⟨h2, -⟩
  · exact .inl h0
  · exact .inr (.inl h3)
  · exact .inr (.inr h2)

/-- The sections of one charset, in the second loop of `incomingim_ch1_parsemsgs`. -/
theorem find_charset_none {pri : UInt16} :
    parts.find? (fun sec => sec.charset = pri) = none ↔ ∀ x ∈ parts, x.charset ≠ pri := by
  simp only [List.find?_eq_none, decide_eq_true_eq, ne_eq]

theorem find_charset_some {pri : UInt16} :
    parts.find? (fun sec => sec.charset = pri) = some sec ↔ sec.charset = pri ∧
      ∃ before after, parts = before ++ sec :: after ∧ ∀ x ∈ before, x.charset ≠ sec.charset := by
  rw [List.find?_eq_some_iff_append]
  simp only [decide_eq_true_eq, Bool.not_eq_true', decide_eq_false_iff_not]
  refine and_congr_right fun hsec => ?_
  rw [hsec]

theorem prioritySection_eq : prioritySection parts =
    (parts.find? fun sec => sec.charset = 0x0000).or
      ((parts.find? fun sec => sec.charset = 0x0003).or
        (parts.find? fun sec => sec.charset = 0x0002)) := by
  unfold prioritySection charsetpri
  simp only [List.findSome?_cons, List.findSome?_nil]
  cases parts.find? fun sec => sec.charset = 0x0000 with
  | some sec => rfl
  | none =>
    cases parts.find? fun sec => sec.charset = 0x0003 with
    | some sec => rfl
    | none =>
      cases parts.find? fun sec => sec.charset = 0x0002 with
      | some sec => rfl
      | none => rfl

theorem prioritySection_eq_none_iff :
    prioritySection parts = none ↔ ∀ sec ∈ parts, ¬ Readable sec := by
  rw [prioritySection_eq, Option.or_eq_none_iff, Option.or_eq_none_iff, find_charset_none,
    find_charset_none, find_charset_none]
  unfold Readable
  constructor
  · rintro ⟨h0, h3, h2⟩ sec hsec hread
    rcases hread with hread | hread | hread
    · exact h0 sec hsec hread
    · exact h3 sec hsec hread
    · exact h2 sec hsec hread
  · intro h
    exact ⟨fun x hx hc => h x hx (.inl hc), fun x hx hc => h x hx (.inr (.inl hc)),
      fun x hx hc => h x hx (.inr (.inr hc))⟩

/-- The second loop stops at the best section. -/
theorem prioritySection_best (h : prioritySection parts = some sec) : BestSection parts sec := by
  rw [prioritySection_eq] at h
  cases h0 : parts.find? fun sec => sec.charset = 0x0000 with
  | some sec0 =>
    rw [h0, Option.some_or] at h
    obtain rfl := Option.some.inj h
    obtain ⟨hcharset, hfirst⟩ := find_charset_some.mp h0
    exact ⟨hfirst, .inl hcharset⟩
  | none =>
    rw [h0, Option.none_or] at h
    have hno0 := find_charset_none.mp h0
    cases h3 : parts.find? fun sec => sec.charset = 0x0003 with
    | some sec3 =>
      rw [h3, Option.some_or] at h
      obtain rfl := Option.some.inj h
      obtain ⟨hcharset, hfirst⟩ := find_charset_some.mp h3
      exact ⟨hfirst, .inr (.inl ⟨hcharset, hno0⟩)⟩
    | none =>
      rw [h3, Option.none_or] at h
      have hno3 := find_charset_none.mp h3
      obtain ⟨hcharset, hfirst⟩ := find_charset_some.mp h
      exact ⟨hfirst, .inr (.inr ⟨hcharset, fun x hx => ⟨hno0 x hx, hno3 x hx⟩⟩)⟩

end Choice

/-! ## What is filled in -/

/-- The flags that describe a section. -/
def AimMpmsgSection.flags (sec : AimMpmsgSection) : UInt32 :=
  aimImflagsCustomcharset ||| (if sec.charset = 0x0002 then aimImflagsUnicode else 0) |||
    (if sec.charset = 0x0003 then aimImflagsIso88591 else 0) |||
      (if sec.charsubset = 0x000b then aimImflagsSubencMacintosh else 0)

/-- The simple flags of the charset. -/
theorem ite_charset (c : UInt16) (p : UInt32) :
    (if c = 0x0000 then p
      else if c = 0x0002 then p ||| aimImflagsUnicode
      else if c = 0x0003 then p ||| aimImflagsIso88591
      else p) =
    p ||| (if c = 0x0002 then aimImflagsUnicode else 0) |||
      (if c = 0x0003 then aimImflagsIso88591 else 0) := by
  by_cases h0 : c = 0x0000
  · subst h0
    simp
  by_cases h2 : c = 0x0002
  · subst h2
    simp
  rw [if_neg h0, if_neg h2, if_neg h2, UInt32.or_zero]
  by_cases h3 : c = 0x0003
  · rw [if_pos h3, if_pos h3]
  · rw [if_neg h3, if_neg h3, UInt32.or_zero]

/-- The simple flag of the subset. -/
theorem ite_charsubset (c : UInt16) (p : UInt32) :
    (if c = 0x0000 then p else if c = 0x000b then p ||| aimImflagsSubencMacintosh else p) =
    p ||| (if c = 0x000b then aimImflagsSubencMacintosh else 0) := by
  by_cases h0 : c = 0x0000
  · subst h0
    simp
  rw [if_neg h0]
  by_cases hb : c = 0x000b
  · rw [if_pos hb, if_pos hb]
  · rw [if_neg hb, if_neg hb, UInt32.or_zero]

theorem fillSection_eq (sec : AimMpmsgSection) (args : AimIncomingimCh1Args) :
    fillSection sec args = { args with
      charset := sec.charset
      charsubset := sec.charsubset
      icbmflags := args.icbmflags ||| sec.flags
      msg := sec.data
      msglen := sec.datalen.toNat } := by
  have hflags : (fillSection sec args).icbmflags = args.icbmflags ||| sec.flags := by
    unfold fillSection AimMpmsgSection.flags
    dsimp only
    rw [ite_charsubset, ite_charset, UInt32.or_assoc, UInt32.or_assoc, UInt32.or_assoc,
      UInt32.or_assoc, UInt32.or_assoc]
  rw [← hflags]
  rfl

/-- `incomingim_ch1_parsemsgs`, on memory that whole sections fill up to its length, keeps all
sections in order behind those there were. The best of them all is the message, with the flags of
its charset and subset; where none can be shown there is no message. -/
theorem incomingimCh1Parsemsgs_sections (l : List WireSection) (r : List UInt8)
    (args : AimIncomingimCh1Args) (hlt : (l.flatMap WireSection.encode).length < 65536) :
    ∃ res, incomingimCh1Parsemsgs (l.flatMap WireSection.encode ++ r)
        (l.flatMap WireSection.encode).length args = some res ∧
      res.mpmsg.parts = args.mpmsg.parts ++ l.map WireSection.toAimMpmsgSection ∧
      res.mpmsg.numparts = args.mpmsg.numparts + l.length ∧
      ((∃ sec, BestSection res.mpmsg.parts sec ∧ res = { args with
          mpmsg := res.mpmsg
          msg := sec.data
          msglen := sec.datalen.toNat
          charset := sec.charset
          charsubset := sec.charsubset
          icbmflags := args.icbmflags ||| aimImflagsMultipart ||| sec.flags }) ∨
        ((∀ sec ∈ res.mpmsg.parts, ¬ Readable sec) ∧ res = { args with
          mpmsg := res.mpmsg
          msg := none
          msglen := 0
          charset := 0xffff
          charsubset := 0xffff
          icbmflags := args.icbmflags ||| aimImflagsMultipart })) := by
  refine ⟨_, incomingimCh1Parsemsgs_encode args rfl rfl hlt, ?_⟩
  rw [finishParsemsgs]
  dsimp only
  generalize hmpmsg : args.mpmsg.addSections (l.map WireSection.toAimMpmsgSection) = mpmsg
  have hparts : mpmsg.parts = args.mpmsg.parts ++ l.map WireSection.toAimMpmsgSection := by
    rw [← hmpmsg]
    rfl
  have hnumparts : mpmsg.numparts = args.mpmsg.numparts + l.length := by
    rw [← hmpmsg, AimMpmsg.addSections, List.length_map]
  cases hsec : prioritySection mpmsg.parts with
  | some sec =>
    dsimp only
    rw [fillSection_eq]
    exact ⟨hparts, hnumparts, .inl ⟨sec, prioritySection_best hsec, rfl⟩⟩
  | none =>
    exact ⟨hparts, hnumparts, .inr ⟨prioritySection_eq_none_iff.mp hsec, rfl⟩⟩

section Example

/-- Two UNICODE sections with an ISO-8859-1 section in a Macintosh encoding between them. -/
def mixedSections : List WireSection :=
  [⟨⟨0x0002, 0x0000, some [0x00, 0x41], 2⟩, [1, 1], rfl, _, rfl, rfl⟩,
    ⟨⟨0x0003, 0x000b, some [0x42], 1⟩, [7, 9], rfl, _, rfl, rfl⟩,
    ⟨⟨0x0002, 0x0000, some [], 0⟩, [1, 1], rfl, _, rfl, rfl⟩]

theorem incomingimCh1Parsemsgs_mixedSections :
    ∃ res, incomingimCh1Parsemsgs (mixedSections.flatMap WireSection.encode ++ [0xff]) 27
        AimIncomingimCh1Args.zero = some res ∧
      res.mpmsg.parts = mixedSections.map WireSection.toAimMpmsgSection ∧
        res.mpmsg.numparts = 3 := by
  obtain ⟨res, hres, hparts, hnumparts, -⟩ :=
    incomingimCh1Parsemsgs_sections mixedSections [0xff] AimIncomingimCh1Args.zero (by decide)
  exact ⟨res, hres, hparts, hnumparts⟩

/-- The second section is shown. -/
example : (incomingimCh1Parsemsgs (mixedSections.flatMap WireSection.encode) 27
    AimIncomingimCh1Args.zero).map (fun res => (res.msg, res.charset, res.charsubset)) =
      some (some [0x42], 0x0003, 0x000b) := by decide

end Example

end Libfaim
