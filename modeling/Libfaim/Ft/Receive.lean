import Libfaim.Ft.Directim

/-!
# What arrives on a rendezvous connection

`aim_get_command_rendezvous` takes the length of the header from the peer, and so does
`handlehdr_directim` the length of the message. Neither is checked against what there is to read:
the header is read at fixed offsets (`rendezvousReadsInside_iff`), and the failure of the last
`aim_recv`, a negative number, is compared with an unsigned length (`directimWhole_iff`).
-/

namespace Libfaim

/-- The bytes `recv` returns before the first error or the end of the file. -/
def arriving (sock : Socket) : List UInt8 := (sock.takeWhile (· ≠ [])).flatten

theorem arriving_nil : arriving [] = [] := rfl

theorem arriving_error (sock : Socket) : arriving ([] :: sock) = [] := rfl

theorem arriving_cons {piece : List UInt8} (h : piece ≠ []) (sock : Socket) :
    arriving (piece :: sock) = piece ++ arriving sock := by
  have hpiece : decide (piece ≠ []) = true := decide_eq_true h
  unfold arriving
  rw [List.takeWhile_cons, if_pos hpiece, List.flatten_cons]

/-- `aim_recv` takes what it is asked for off the bytes that arrive. -/
theorem aimRecv_of_le {n : Nat} {sock : Socket} (h : n ≤ (arriving sock).length) :
    ∃ sock', aimRecv n sock = (some ((arriving sock).take n), sock') ∧
      arriving sock' = (arriving sock).drop n := by
  induction sock generalizing n with
  | nil =>
    obtain rfl : n = 0 := Nat.le_zero.mp h
    exact ⟨[], rfl, rfl⟩
  | cons piece sock ih =>
    cases n with
    | zero => exact ⟨piece :: sock, rfl, rfl⟩
    | succ n =>
      by_cases hnil : piece = []
      · subst hnil
        rw [arriving_error] at h
        exact absurd h (Nat.not_succ_le_zero n)
      · rw [arriving_cons hnil, List.length_append] at h
        rw [aimRecv, if_neg hnil, arriving_cons hnil]
        by_cases hlt : n + 1 < piece.length
        · have hrest : piece.drop (n + 1) ≠ [] := by
            intro hdrop
            have := List.drop_eq_nil_iff.mp hdrop
            omega
          rw [if_pos hlt]
          refine ⟨piece.drop (n + 1) :: sock, ?_, ?_⟩
          · rw [List.take_append_of_le_length (Nat.le_of_lt hlt)]
          · rw [arriving_cons hrest, List.drop_append_of_le_length (Nat.le_of_lt hlt)]
        · obtain ⟨sock', hrecv, harriving⟩ := @ih (n + 1 - piece.length) (by omega)
          have hle := Nat.not_lt.mp hlt
          rw [if_neg hlt, hrecv]
          refine ⟨sock', ?_, ?_⟩
          · rw [List.take_append, List.take_of_length_le hle]
            rfl
          · rw [harriving, List.drop_append, List.drop_of_length_le hle, List.nil_append]

theorem aimRecv_of_arriving_lt {n : Nat} {sock : Socket} (h : (arriving sock).length < n) :
    ∃ sock', aimRecv n sock = (none, sock') := by
  induction sock generalizing n with
  | nil =>
    obtain ⟨k, rfl⟩ : ∃ k, n = k + 1 := ⟨n - 1, by rw [arriving_nil] at h; simp at h; omega⟩
    exact ⟨[], rfl⟩
  | cons piece sock ih =>
    obtain ⟨k, rfl⟩ : ∃ k, n = k + 1 := ⟨n - 1, by omega⟩
    rw [aimRecv]
    by_cases hnil : piece = []
    · rw [if_pos hnil]
      exact ⟨sock, rfl⟩
    · rw [arriving_cons hnil, List.length_append] at h
      obtain ⟨sock', hrecv⟩ := @ih (k + 1 - piece.length) (by omega)
      rw [if_neg hnil, if_neg (by omega), hrecv]
      exact ⟨sock', rfl⟩

/-! ## The header -/

/-- The header buffer that is looked into, and the socket behind it. Of a negative length there is
no buffer, and nothing is received; `none` where the function returns before. -/
def rendezvousHdr (sess : AimSession) (c : ConnPtr) (sock : Socket) :
    Option (List UInt8 × Socket) :=
  if c = 0 then none
  else if (sess.conn c).subtype = aimConnSubtypeOftGetfile then none
  else
    match aimRecv 6 sock with
    | (none, _) => none
    | (some hdrbuf1, sock) =>
      let hdrlen := (aimutilGet16 (hdrbuf1.drop 4)).toNat
      if hdrlen < 6 then some ([], sock)
      else
        match aimRecv (hdrlen - 6) sock with
        | (none, _) => none
        | (some hdr, sock) => some (hdr, sock)

/-- The offsets into the header that `handlehdr_directim` reads: the length of the message, the
flags, and the name with the NUL behind it. -/
def handlehdrDirectimReads (hdr : List UInt8) : List Nat :=
  -- the name goes to `faimdprintf` as a string, which prints it from debug level 2 on
  [22, 23, 24, 25] ++ [32, 33] ++ List.range' 38 (strlen (hdr.drop 38) + 1)

/-- The offsets into the header that are read: the type, and what its handler reads. -/
def rendezvousReads (hdr : List UInt8) : List Nat :=
  [0, 1] ++ if aimutilGet16 hdr = 0x0001 then handlehdrDirectimReads hdr else []

/-- All reads from the header are inside of what was received. -/
def RendezvousReadsInside (sess : AimSession) (c : ConnPtr) (sock : Socket) : Prop :=
  ∀ hdr sock', rendezvousHdr sess c sock = some (hdr, sock') →
    ∀ i ∈ rendezvousReads hdr, i < hdr.length

/-- What of a header has to be there. -/
def HeaderHolds (hdr : List UInt8) : Prop :=
  2 ≤ hdr.length ∧ (aimutilGet16 hdr = 0x0001 → 0 ∈ hdr.drop 38)

/-- A string has a NUL exactly where it is shorter than its bytes. -/
theorem zero_mem_iff_strlen_lt (s : List UInt8) : 0 ∈ s ↔ strlen s < s.length := by
  constructor
  · intro hmem
    by_contra hle
    have hlen : strlen s = s.length := Nat.le_antisymm (strlen_le s) (Nat.not_lt.mp hle)
    have hall : cstr s = s := by rw [cstr_eq_take, hlen, List.take_length]
    rw [← hall] at hmem
    exact ne_zero_of_mem_cstr hmem rfl
  · intro hlt
    by_contra hmem
    have hall : (cstr s).length = s.length := by rw [cstr_of_no_nul hmem]
    exact Nat.ne_of_lt hlt hall

theorem handlehdrDirectimReads_inside_iff (hdr : List UInt8) :
    (∀ i ∈ handlehdrDirectimReads hdr, i < hdr.length) ↔ 0 ∈ hdr.drop 38 := by
  have hname := zero_mem_iff_strlen_lt (hdr.drop 38)
  rw [List.length_drop] at hname
  rw [hname]
  unfold handlehdrDirectimReads
  constructor
  · intro h
    have hlast := h (38 + strlen (hdr.drop 38)) (List.mem_append_right _
      (List.mem_range'_1.mpr ⟨Nat.le_add_right _ _, by omega⟩))
    omega
  · intro hlt i hi
    rcases List.mem_append.mp hi with hfields | hstring
    · have hbound : ∀ j ∈ [22, 23, 24, 25] ++ [32, 33], j ≤ 33 := by decide
      have hle := hbound i hfields
      omega
    · have hle := (List.mem_range'_1.mp hstring).2
      omega

theorem rendezvousReads_inside_iff (hdr : List UInt8) :
    (∀ i ∈ rendezvousReads hdr, i < hdr.length) ↔ HeaderHolds hdr := by
  unfold rendezvousReads HeaderHolds
  rw [List.forall_mem_append]
  have htype : (∀ i ∈ [0, 1], i < hdr.length) ↔ 2 ≤ hdr.length := by
    rw [List.forall_mem_cons, List.forall_mem_singleton]
    omega
  rw [htype]
  by_cases hdirectim : aimutilGet16 hdr = 0x0001
  · rw [if_pos hdirectim, handlehdrDirectimReads_inside_iff]
    constructor
    · exact fun h => ⟨h.1, fun _ => h.2⟩
    · exact fun h => ⟨h.1, h.2 hdirectim⟩
  · rw [if_neg hdirectim]
    constructor
    · exact fun h => ⟨h.1, fun heq => absurd heq hdirectim⟩
    · exact fun h => ⟨h.1, fun _ hi => nomatch hi⟩

section Command

variable {userfunc : DirectimReport → AimSession → Int × AimSession} {sess : AimSession}
  {c : ConnPtr} {sock sock' : Socket} {hdr : List UInt8}

/-- Without a header there is nothing to report, and behind a header its handler goes on. -/
theorem aimGetCommandRendezvous_cases (userfunc : DirectimReport → AimSession → Int × AimSession)
    (sess : AimSession) (c : ConnPtr) (sock : Socket) :
    (rendezvousHdr sess c sock = none ∧
      ∃ sess' sock', aimGetCommandRendezvous userfunc sess c sock =
        some (-1, none, sess', sock')) ∨
    ∃ hdr sock', rendezvousHdr sess c sock = some (hdr, sock') ∧
      aimGetCommandRendezvous userfunc sess c sock =
        if hdr.length < 2 then none
        else (if aimutilGet16 hdr = 0x0001 then handlehdrDirectim userfunc hdr sess sock'
          else some (-1, none, sess, sock')).map fun (ret, report, sess, sock) =>
            (ret, report, if ret = -1 then aimConnClose sess c else sess, sock) := by
  unfold rendezvousHdr aimGetCommandRendezvous
  by_cases hc : c = 0
  · exact .inl ⟨if_pos hc, sess, sock, if_pos hc⟩
  by_cases hgetfile : (sess.conn c).subtype = aimConnSubtypeOftGetfile
  · rw [if_neg hc, if_neg hc, if_pos hgetfile, if_pos hgetfile]
    exact .inl ⟨rfl, sess, sock, rfl⟩
  rw [if_neg hc, if_neg hc, if_neg hgetfile, if_neg hgetfile]
  cases aimRecv 6 sock with
  | mk hdrbuf1 sock₁ =>
    cases hdrbuf1 with
    | none => exact .inl ⟨rfl, _, _, rfl⟩
    | some hdrbuf1 =>
      dsimp only
      by_cases hneg : (aimutilGet16 (hdrbuf1.drop 4)).toNat < 6
      · -- nothing is received, and the type is read all the same
        rw [if_pos hneg, if_pos hneg]
        exact .inr ⟨[], sock₁, rfl, (if_pos Nat.zero_lt_two).symm⟩
      · rw [if_neg hneg, if_neg hneg]
        cases aimRecv ((aimutilGet16 (hdrbuf1.drop 4)).toNat - 6) sock₁ with
        | mk red sock₂ =>
          cases red with
          | none => exact .inl ⟨rfl, _, _, rfl⟩
          | some red =>
            refine .inr ⟨red, sock₂, rfl, ?_⟩
            dsimp only
            by_cases hshort : red.length < 2
            · rw [if_pos hshort, if_pos hshort]
            · rw [if_neg hshort, if_neg hshort]
              by_cases hdirectim : aimutilGet16 red = 0x0001
              · rw [if_pos hdirectim, if_pos hdirectim]
                cases handlehdrDirectim userfunc red sess sock₂ with
                | none => rfl
                | some res => rfl
              · rw [if_neg hdirectim, if_neg hdirectim]
                rfl

theorem aimGetCommandRendezvous_of_hdr (h : rendezvousHdr sess c sock = some (hdr, sock')) :
    aimGetCommandRendezvous userfunc sess c sock =
      if hdr.length < 2 then none
      else (if aimutilGet16 hdr = 0x0001 then handlehdrDirectim userfunc hdr sess sock'
        else some (-1, none, sess, sock')).map fun (ret, report, sess, sock) =>
          (ret, report, if ret = -1 then aimConnClose sess c else sess, sock) := by
  rcases aimGetCommandRendezvous_cases userfunc sess c sock with ⟨hnone, -⟩ | ⟨_, _, hhdr, hcommand⟩
  · rw [hnone] at h
    cases h
  · obtain ⟨rfl, rfl⟩ := Prod.mk.inj (Option.some.inj (hhdr.symm.trans h))
    exact hcommand

/-- A read outside of the header is the end of the call. -/
theorem aimGetCommandRendezvous_of_outside (h : ¬ RendezvousReadsInside sess c sock) :
    aimGetCommandRendezvous userfunc sess c sock = none := by
  unfold RendezvousReadsInside at h
  push Not at h
  obtain ⟨hdr, sock', hhdr, i, hi, hle⟩ := h
  have hholds : ¬ HeaderHolds hdr := by
    intro hholds
    exact Nat.not_lt.mpr hle ((rendezvousReads_inside_iff hdr).mpr hholds i hi)
  rw [aimGetCommandRendezvous_of_hdr hhdr]
  by_cases hshort : hdr.length < 2
  · exact if_pos hshort
  · rw [if_neg hshort]
    unfold HeaderHolds at hholds
    push Not at hholds
    obtain ⟨hdirectim, hname⟩ := hholds (Nat.not_lt.mp hshort)
    rw [if_pos hdirectim, handlehdrDirectim, if_pos hname]
    rfl

end Command

/-! ## Which bytes are read inside of the header -/

/-- The condition on the bytes that arrive: too few for a header, so that none is looked into, or a
header long enough for what is read from it. -/
def HeaderArrives (bytes : List UInt8) : Prop :=
  let hdrlen := (aimutilGet16 (bytes.drop 4)).toNat
  bytes.length < 6 ∨ 6 < hdrlen ∧ bytes.length < hdrlen ∨
    HeaderHolds ((bytes.drop 6).take (hdrlen - 6))

section Inside

variable {sess : AimSession} {c : ConnPtr} {sock : Socket}

theorem aimutilGet16_take {n : Nat} (hn : 2 ≤ n) (bytes : List UInt8) :
    aimutilGet16 (bytes.take n) = aimutilGet16 bytes := by
  rw [aimutilGet16, aimutilGet16, List.take_take, Nat.min_eq_left hn]

/-- The header in terms of the bytes that arrive. -/
theorem rendezvousHdr_of_arriving (hc : c ≠ 0)
    (hsubtype : (sess.conn c).subtype ≠ aimConnSubtypeOftGetfile) :
    (rendezvousHdr sess c sock).map Prod.fst =
      let hdrlen := (aimutilGet16 ((arriving sock).drop 4)).toNat
      if (arriving sock).length < 6 then none
      else if 6 < hdrlen ∧ (arriving sock).length < hdrlen then none
      else some (((arriving sock).drop 6).take (hdrlen - 6)) := by
  unfold rendezvousHdr
  rw [if_neg hc, if_neg hsubtype]
  dsimp only
  by_cases hfew : (arriving sock).length < 6
  · obtain ⟨sock₁, hfirst⟩ := aimRecv_of_arriving_lt hfew
    rw [if_pos hfew, hfirst]
    rfl
  · obtain ⟨sock₁, hfirst, hrest⟩ := aimRecv_of_le (Nat.not_lt.mp hfew)
    have hlen : aimutilGet16 (((arriving sock).take 6).drop 4) =
        aimutilGet16 ((arriving sock).drop 4) := by
      rw [List.drop_take, aimutilGet16_take (Nat.le_refl 2)]
    have hleft : (arriving sock₁).length = (arriving sock).length - 6 := by
      rw [hrest, List.length_drop]
    rw [if_neg hfew, hfirst]
    dsimp only
    rw [hlen]
    generalize (aimutilGet16 ((arriving sock).drop 4)).toNat = hdrlen
    by_cases hneg : hdrlen < 6
    · have hzero : hdrlen - 6 = 0 := by omega
      rw [if_pos hneg, if_neg (by omega), hzero, List.take_zero]
      rfl
    · rw [if_neg hneg]
      by_cases hcut : 6 < hdrlen ∧ (arriving sock).length < hdrlen
      · obtain ⟨sock₂, hsecond⟩ :=
          @aimRecv_of_arriving_lt (hdrlen - 6) sock₁ (by omega)
        rw [if_pos hcut, hsecond]
        rfl
      · obtain ⟨sock₂, hsecond, -⟩ :=
          @aimRecv_of_le (hdrlen - 6) sock₁ (by omega)
        rw [if_neg hcut, hsecond, hrest]
        rfl

/-- All reads from a header are inside of it if and only if there is no header to look into, or it
has its type and, in a direct message, the end of the name. Otherwise the call has no result. -/
theorem rendezvousReadsInside_iff (sess : AimSession) (c : ConnPtr) (sock : Socket) :
    (RendezvousReadsInside sess c sock ↔ c = 0 ∨
        (sess.conn c).subtype = aimConnSubtypeOftGetfile ∨ HeaderArrives (arriving sock)) ∧
      (¬ RendezvousReadsInside sess c sock →
        ∀ userfunc, aimGetCommandRendezvous userfunc sess c sock = none) := by
  refine ⟨?_, fun h userfunc => aimGetCommandRendezvous_of_outside h⟩
  have hfst : RendezvousReadsInside sess c sock ↔
      ∀ hdr, (rendezvousHdr sess c sock).map Prod.fst = some hdr → HeaderHolds hdr := by
    unfold RendezvousReadsInside
    constructor
    · intro h hdr hmap
      obtain ⟨⟨hdr', sock'⟩, hhdr, rfl⟩ := Option.map_eq_some_iff.mp hmap
      exact (rendezvousReads_inside_iff _).mp (h hdr' sock' hhdr)
    · intro h hdr sock' hhdr
      exact (rendezvousReads_inside_iff hdr).mpr (h hdr (by rw [hhdr]; rfl))
  rw [hfst]
  by_cases hc : c = 0
  · have hnone : rendezvousHdr sess c sock = none := if_pos hc
    rw [hnone]
    exact ⟨fun _ => Or.inl hc, fun _ hdr hmap => nomatch hmap⟩
  by_cases hsubtype : (sess.conn c).subtype = aimConnSubtypeOftGetfile
  · have hnone : rendezvousHdr sess c sock = none := by
      unfold rendezvousHdr
      rw [if_neg hc, if_pos hsubtype]
    rw [hnone]
    exact ⟨fun _ => Or.inr (Or.inl hsubtype), fun _ hdr hmap => nomatch hmap⟩
  have hcond : (c = 0 ∨ (sess.conn c).subtype = aimConnSubtypeOftGetfile ∨
      HeaderArrives (arriving sock)) ↔ HeaderArrives (arriving sock) := by
    rw [or_iff_right hc, or_iff_right hsubtype]
  rw [hcond, rendezvousHdr_of_arriving hc hsubtype]
  unfold HeaderArrives
  dsimp only
  by_cases hfew : (arriving sock).length < 6
  · rw [if_pos hfew]
    exact ⟨fun _ => Or.inl hfew, fun _ hdr hmap => nomatch hmap⟩
  rw [if_neg hfew, or_iff_right hfew]
  by_cases hcut : 6 < (aimutilGet16 ((arriving sock).drop 4)).toNat ∧
      (arriving sock).length < (aimutilGet16 ((arriving sock).drop 4)).toNat
  · rw [if_pos hcut]
    exact ⟨fun _ => Or.inl hcut, fun _ hdr hmap => nomatch hmap⟩
  · rw [if_neg hcut, or_iff_right hcut]
    constructor
    · exact fun h => h _ rfl
    · intro h hdr hmap
      obtain rfl := Option.some.inj hmap
      exact h

end Inside

/-- A header of another type is not looked into; one for a direct message that ends in front of the
name is, behind its end. -/
theorem rendezvousReadsInside_iff_short :
    RendezvousReadsInside directimSession 1
        [[0x4f, 0x44, 0x43, 0x32, 0x00, 0x08], [0x00, 0x02]] ∧
      aimGetCommandRendezvous (fun _ sess => (0, sess)) directimSession 1
        [[0x4f, 0x44, 0x43, 0x32, 0x00, 0x08], [0x00, 0x01]] = none := by
  have htype : HeaderArrives (arriving [[0x4f, 0x44, 0x43, 0x32, 0x00, 0x08], [0x00, 0x02]]) :=
    Or.inr (Or.inr ⟨by decide, by decide⟩)
  have hcut : ¬ RendezvousReadsInside directimSession 1
      [[0x4f, 0x44, 0x43, 0x32, 0x00, 0x08], [0x00, 0x01]] := fun h =>
    absurd (h [0x00, 0x01] [] (by decide) 22 (by decide)) (by decide)
  exact ⟨(rendezvousReadsInside_iff directimSession 1 _).1.mpr (Or.inr (Or.inr htype)),
    (rendezvousReadsInside_iff directimSession 1 _).2 hcut _⟩

/-- A header of no bytes, and a header for a direct message that ends in front of the name. -/
theorem not_rendezvousReadsInside_short :
    ¬ RendezvousReadsInside directimSession 1 [[0x4f, 0x44, 0x43, 0x32, 0x00, 0x06]] ∧
      ¬ RendezvousReadsInside directimSession 1
        [[0x4f, 0x44, 0x43, 0x32, 0x00, 0x08], [0x00, 0x01]] := by
  constructor
  · intro h
    have hread := h [] [] (by decide) 0 (by decide)
    exact absurd hread (by decide)
  · intro h
    have hread := h [0x00, 0x01] [] (by decide) 22 (by decide)
    exact absurd hread (by decide)

/-! ## The whole message -/

/-- The header announces a message. -/
def Announces (hdr : List UInt8) : Prop :=
  aimutilGet16 (hdr.drop 32) = 0x0000 ∧ aimutilGet32 (hdr.drop 22) ≠ 0

instance (hdr : List UInt8) : Decidable (Announces hdr) := inferInstanceAs (Decidable (_ ∧ _))

/-- `payloadlength` -/
def announcedLength (hdr : List UInt8) : Nat := (aimutilGet32 (hdr.drop 22)).toNat

/-- A header of a direct message has been received, and `sock'` is the socket behind it. -/
structure DirectimHdr (sess : AimSession) (c : ConnPtr) (sock : Socket) (hdr : List UInt8)
    (sock' : Socket) : Prop where
  received : rendezvousHdr sess c sock = some (hdr, sock')
  two_le : 2 ≤ hdr.length
  type_eq : aimutilGet16 hdr = 0x0001

/-- The client is given a message only if all of it has been received, and if the message that is
announced does not arrive nothing is given to the client and the connection is closed. -/
def DirectimWhole (userfunc : DirectimReport → AimSession → Int × AimSession) (sess : AimSession)
    (c : ConnPtr) (sock : Socket) (hdr : List UInt8) (sock' : Socket) : Prop :=
  ∃ ret report sess' sock'',
    aimGetCommandRendezvous userfunc sess c sock = some (ret, report, sess', sock'') ∧
      (∀ r msg, report = some r → r.msg = some msg → Announces hdr ∧
        announcedLength hdr ≤ (arriving sock').length ∧
          msg = cstr ((arriving sock').take (announcedLength hdr))) ∧
      (Announces hdr → (arriving sock').length < announcedLength hdr →
        report = none ∧ sess' = aimConnClose sess c)

section Whole

variable {userfunc : DirectimReport → AimSession → Int × AimSession} {sess : AimSession}
  {c : ConnPtr} {sock sock' : Socket} {hdr : List UInt8}

theorem DirectimHdr.command (h : DirectimHdr sess c sock hdr sock') :
    aimGetCommandRendezvous userfunc sess c sock =
      (handlehdrDirectim userfunc hdr sess sock').map fun (ret, report, sess, sock) =>
        (ret, report, if ret = -1 then aimConnClose sess c else sess, sock) := by
  rw [aimGetCommandRendezvous_of_hdr h.received, if_neg (Nat.not_lt.mpr h.two_le),
    if_pos h.type_eq]

/-- No length is too long for -1, which is compared as the largest number, and what has been
received is not too short. -/
theorem not_redUnsigned_lt (len : UInt32) (sock : Socket) :
    ¬ redUnsigned (aimRecv len.toNat sock).1 < len := by
  intro hlt
  have hlt' := UInt32.lt_iff_toNat_lt.mp hlt
  have hbound : len.toNat < 4294967296 := len.toNat_lt
  by_cases harrives : len.toNat ≤ (arriving sock).length
  · obtain ⟨sock', hrecv, -⟩ := aimRecv_of_le harrives
    rw [hrecv, redUnsigned, UInt32.toNat_ofNat', List.length_take, Nat.min_eq_left harrives,
      Nat.mod_eq_of_lt hbound] at hlt'
    exact Nat.lt_irrefl _ hlt'
  · obtain ⟨sock', hrecv⟩ := aimRecv_of_arriving_lt (Nat.not_le.mp harrives)
    have hmax : (redUnsigned none).toNat = 4294967295 := rfl
    rw [hrecv, hmax] at hlt'
    omega

/-- A message that is announced is given to the client, whatever the read returns. -/
theorem handlehdrDirectim_announced (hname : 0 ∈ hdr.drop 38) (hann : Announces hdr)
    (hsmall : announcedLength hdr < 2147483648) :
    ∃ ret sess' sock'', handlehdrDirectim userfunc hdr sess sock' =
      some (ret, some ⟨cstr (hdr.drop 38),
        some (cstr (aimRecvBuf (announcedLength hdr) sock'))⟩, sess', sock'') := by
  have htyping : aimutilGet16 (hdr.drop 32) ≠ 0x000e := by
    rw [hann.1]
    decide
  have hhuge : ¬ aimutilGet32 (hdr.drop 22) ≥ 0x80000000 := by
    intro hge
    have hle := UInt32.le_iff_toNat_le.mp hge
    exact Nat.not_lt.mpr hle hsmall
  unfold Announces at hann
  unfold handlehdrDirectim
  rw [if_neg (not_not.mpr hname)]
  dsimp only
  rw [if_neg htyping, if_pos hann, if_neg hhuge, if_neg (not_redUnsigned_lt _ _), cstr_padded]
  exact ⟨_, _, _, rfl⟩

/-- Only an announced message is given to the client. -/
theorem handlehdrDirectim_unannounced (hname : 0 ∈ hdr.drop 38) (hann : ¬ Announces hdr) :
    ∃ ret report sess' sock'', handlehdrDirectim userfunc hdr sess sock' =
      some (ret, report, sess', sock'') ∧ ∀ r, report = some r → r.msg = none := by
  unfold handlehdrDirectim
  rw [if_neg (not_not.mpr hname)]
  dsimp only
  by_cases htyping : aimutilGet16 (hdr.drop 32) = 0x000e
  · rw [if_pos htyping]
    refine ⟨_, _, _, _, rfl, fun r hr => ?_⟩
    rw [← Option.some.inj hr]
  · unfold Announces at hann
    rw [if_neg htyping, if_neg hann]
    exact ⟨_, _, _, _, rfl, fun r hr => nomatch hr⟩

/-- A length with the highest bit is a negative number of bytes in `aim_recv`. -/
theorem handlehdrDirectim_huge (hann : Announces hdr)
    (hhuge : 2147483648 ≤ announcedLength hdr) :
    handlehdrDirectim userfunc hdr sess sock' = none := by
  have htyping : aimutilGet16 (hdr.drop 32) ≠ 0x000e := by
    rw [hann.1]
    decide
  have hge : aimutilGet32 (hdr.drop 22) ≥ 0x80000000 := UInt32.le_iff_toNat_le.mpr hhuge
  unfold Announces at hann
  unfold handlehdrDirectim
  by_cases hname : 0 ∉ hdr.drop 38
  · exact if_pos hname
  · rw [if_neg hname]
    dsimp only
    rw [if_neg htyping, if_pos hann, if_pos hge]

theorem not_directimWhole_of_cut (h : DirectimHdr sess c sock hdr sock') (hann : Announces hdr)
    (hcut : (arriving sock').length < announcedLength hdr) :
    ¬ DirectimWhole userfunc sess c sock hdr sock' := by
  rintro ⟨ret, report, sess', sock'', hcommand, -, hclosed⟩
  obtain ⟨rfl, -⟩ := hclosed hann hcut
  rw [h.command, Option.map_eq_some_iff] at hcommand
  obtain ⟨res, hhandle, hres⟩ := hcommand
  by_cases hname : 0 ∈ hdr.drop 38
  · by_cases hsmall : announcedLength hdr < 2147483648
    · obtain ⟨ret₁, sess₁, sock₁, hgiven⟩ :=
        @handlehdrDirectim_announced userfunc sess sock' hdr hname hann hsmall
      rw [hgiven] at hhandle
      obtain rfl := Option.some.inj hhandle
      cases hres
    · rw [handlehdrDirectim_huge hann (Nat.not_lt.mp hsmall)] at hhandle
      cases hhandle
  · rw [handlehdrDirectim, if_pos hname] at hhandle
    cases hhandle

theorem directimWhole_of_arrives (h : DirectimHdr sess c sock hdr sock') (hname : 0 ∈ hdr.drop 38)
    (harrives : Announces hdr → announcedLength hdr < 2147483648 ∧
      announcedLength hdr ≤ (arriving sock').length) :
    DirectimWhole userfunc sess c sock hdr sock' := by
  by_cases hann : Announces hdr
  · obtain ⟨hsmall, hall⟩ := harrives hann
    obtain ⟨ret, sess', sock'', hgiven⟩ :=
      @handlehdrDirectim_announced userfunc sess sock' hdr hname hann hsmall
    obtain ⟨sock₁, hrecv, -⟩ := aimRecv_of_le hall
    rw [aimRecvBuf_of_some hrecv] at hgiven
    refine ⟨_, _, _, _, by rw [h.command, hgiven]; rfl, fun r msg hr hmsg => ?_,
      fun _ hcut => absurd hall (Nat.not_le.mpr hcut)⟩
    rw [← Option.some.inj hr] at hmsg
    exact ⟨hann, hall, (Option.some.inj hmsg).symm⟩
  · obtain ⟨ret, report, sess', sock'', hhandle, hnone⟩ :=
      @handlehdrDirectim_unannounced userfunc sess sock' hdr hname hann
    refine ⟨_, _, _, _, by rw [h.command, hhandle]; rfl, fun r msg hr hmsg => ?_,
      fun hann' => absurd hann' hann⟩
    rw [hnone r hr] at hmsg
    cases hmsg

end Whole

/-- A header with no name, for a message of five bytes. -/
def fiveBytesHdr : List UInt8 :=
  [0x00, 0x01] ++ List.replicate 20 0 ++ [0x00, 0x00, 0x00, 0x05] ++ List.replicate 13 0

/-- The header on the wire. -/
def fiveBytesWire : List UInt8 := [0x4f, 0x44, 0x43, 0x32, 0x00, 0x2d] ++ fiveBytesHdr

theorem directimHdr_fiveBytes (sock : Socket) :
    DirectimHdr directimSession 1 (fiveBytesWire :: sock) fiveBytesHdr sock := by
  have hfirst : aimRecv 6 (fiveBytesWire :: sock) =
      (some (fiveBytesWire.take 6), fiveBytesHdr :: sock) := rfl
  have hnone : aimRecv 0 sock = (some [], sock) := by rw [aimRecv]
  have hsecond : aimRecv 39 (fiveBytesHdr :: sock) = (some fiveBytesHdr, sock) := by
    rw [aimRecv, if_neg (by decide), if_neg (by decide)]
    exact congrArg (fun p : Option (List UInt8) × Socket =>
      (p.1.map (fiveBytesHdr ++ ·), p.2)) hnone
  have hlen : (aimutilGet16 ((fiveBytesWire.take 6).drop 4)).toNat = 45 := by decide
  refine ⟨?_, by decide, by decide⟩
  unfold rendezvousHdr
  rw [if_neg (by decide), if_neg (by decide), hfirst]
  dsimp only
  rw [hlen, if_neg (by decide), hsecond]

end Libfaim
