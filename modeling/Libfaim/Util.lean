import Libfaim.Userinfo

/-!
# Strings (`util.c`)

The three tokenizing functions go along a string from delimiter to delimiter, each with a start, a
count and an exit test of its own. They agree on the pieces between the delimiters
(`List.splitOn`), so the items an index finds are those that are counted and measured
(`aimutil_items`). `aim_sncmp` compares screen names up to case and spaces, but not up to the
spaces behind the last letter (`aimSncmp_eq_zero_iff`).
-/

namespace Libfaim

/-! ## Tokenizing functions -/

/-- The loop of `aimutil_tokslen` along the string, where `pos` bytes are behind it. The search of
`strchr` for the next delimiter, a character other than NUL, is part of the walk. -/
def aimutilTokslenLoop (index : Nat) (dl : UInt8) : List UInt8 → Nat → Nat → Nat
  | [], pos, curCount => pos - (curCount - 1)
  | b :: next, pos, curCount =>
    if b ≠ dl then aimutilTokslenLoop index dl next (pos + 1) curCount
    else if curCount < index then aimutilTokslenLoop index dl next (pos + 1) (curCount + 1)
    else pos - (curCount - 1)

def aimutilTokslen (toSearch : List UInt8) (index : Nat) (dl : UInt8) : Nat :=
  aimutilTokslenLoop index dl (cstr toSearch) 0 1

/-- The loop of `aimutil_itemcnt`, with the search as part of the walk. -/
def aimutilItemcntLoop (dl : UInt8) : List UInt8 → Nat → Nat
  | [], curCount => curCount
  | b :: next, curCount =>
    if b ≠ dl then aimutilItemcntLoop dl next curCount
    else aimutilItemcntLoop dl next (curCount + 1)

def aimutilItemcnt (toSearch : List UInt8) (dl : UInt8) : Nat :=
  aimutilItemcntLoop dl (cstr toSearch) 1

/-- The loop of `aimutil_itemidx`: the count and `last` where it is left. -/
def aimutilItemidxLoop (index : Nat) (dl : UInt8) :
    List UInt8 → List UInt8 → Nat → Nat × List UInt8
  | [], last, curCount => (curCount, last)
  | b :: next, last, curCount =>
    if b ≠ dl then aimutilItemidxLoop index dl next last curCount
    else if curCount < index then aimutilItemidxLoop index dl next next (curCount + 1)
    else (curCount, last)

/-- What is copied after the loop of `aimutil_itemidx`. -/
def aimutilItemidxCopy (index : Nat) (dl : UInt8) : Nat × List UInt8 → List UInt8
  | (curCount, last) => if curCount < index then [] else last.takeWhile (· ≠ dl)

def aimutilItemidx (toSearch : List UInt8) (index : Nat) (dl : UInt8) : List UInt8 :=
  aimutilItemidxCopy index dl (aimutilItemidxLoop index dl (cstr toSearch) (cstr toSearch) 0)

/-! ## The pieces of a string -/

section Pieces

variable {dl : UInt8}

theorem splitOn_cons_self (next : List UInt8) :
    (dl :: next).splitOn dl = [] :: next.splitOn dl := by
  rw [List.splitOn_cons_eq_if_modifyHead, if_pos (beq_self_eq_true dl)]

theorem splitOn_cons_of_ne {b : UInt8} (h : b ≠ dl) (next : List UInt8) :
    (b :: next).splitOn dl = (next.splitOn dl).modifyHead (b :: ·) := by
  rw [List.splitOn_cons_eq_if_modifyHead, if_neg (by simpa using h)]

theorem aimutilItemcntLoop_eq (next : List UInt8) (curCount : Nat) :
    aimutilItemcntLoop dl next curCount + 1 = curCount + (next.splitOn dl).length := by
  induction next generalizing curCount with
  | nil => simp [aimutilItemcntLoop]
  | cons b next ih =>
    unfold aimutilItemcntLoop
    by_cases hb : b ≠ dl
    · rw [if_pos hb, ih, splitOn_cons_of_ne hb, List.length_modifyHead]
    · obtain rfl := not_not.mp hb
      rw [if_neg hb, ih, splitOn_cons_self, List.length_cons]
      omega

/-- There is one item for each piece. -/
theorem aimutilItemcnt_eq (s : List UInt8) (dl : UInt8) :
    aimutilItemcnt s dl = ((cstr s).splitOn dl).length := by
  have h := @aimutilItemcntLoop_eq dl (cstr s) 1
  unfold aimutilItemcnt
  omega

/-- From a place `pre` behind `last`, with no delimiter in between. -/
theorem aimutilItemidxLoop_eq {index : Nat} {pre next : List UInt8} {curCount : Nat}
    (hpre : dl ∉ pre) (hle : curCount ≤ index) :
    aimutilItemidxCopy index dl (aimutilItemidxLoop index dl next (pre ++ next) curCount) =
      ((pre ++ next).splitOn dl).getD (index - curCount) [] := by
  have hall : ∀ b ∈ pre, decide (b ≠ dl) = true := by
    intro b hb
    have hne : b ≠ dl := fun h => hpre (h ▸ hb)
    simpa using hne
  induction next generalizing pre curCount with
  | nil =>
    rw [List.append_nil, List.splitOn_eq_singleton hpre]
    rw [aimutilItemidxLoop, aimutilItemidxCopy]
    by_cases hlt : curCount < index
    · rw [if_pos hlt]
      obtain ⟨k, hk⟩ : ∃ k, index - curCount = k + 1 := ⟨index - curCount - 1, by omega⟩
      rw [hk]
      rfl
    · rw [if_neg hlt, Nat.sub_eq_zero_of_le (Nat.not_lt.mp hlt),
        List.takeWhile_eq_self_iff.mpr hall]
      rfl
  | cons b next ih =>
    unfold aimutilItemidxLoop
    by_cases hb : b ≠ dl
    · rw [if_pos hb]
      have hpre' : dl ∉ pre ++ [b] := by
        rw [List.mem_append, List.mem_singleton]
        rintro (h | h)
        · exact hpre h
        · exact hb h.symm
      have hall' : ∀ c ∈ pre ++ [b], decide (c ≠ dl) = true := by
        intro c hc
        have hne : c ≠ dl := fun h => hpre' (h ▸ hc)
        simpa using hne
      have ih' := ih hpre' hle hall'
      rw [List.append_assoc, List.singleton_append] at ih'
      exact ih'
    · obtain rfl := not_not.mp hb
      rw [if_neg hb, List.splitOn_append_cons_self_of_not_mem hpre]
      by_cases hlt : curCount < index
      · rw [if_pos hlt]
        have ih' := @ih [] (curCount + 1) List.not_mem_nil hlt (by simp)
        rw [List.nil_append] at ih'
        have hk : index - curCount = index - (curCount + 1) + 1 := by omega
        rw [hk, List.getD_cons_succ]
        exact ih'
      · rw [if_neg hlt, aimutilItemidxCopy, if_neg hlt, Nat.sub_eq_zero_of_le (Nat.not_lt.mp hlt),
          List.getD_cons_zero, List.takeWhile_append_of_pos hall]
        simp

/-- An item is the piece with its index, or nothing past the last. -/
theorem aimutilItemidx_eq (s : List UInt8) (index : Nat) (dl : UInt8) :
    aimutilItemidx s index dl = ((cstr s).splitOn dl).getD index [] :=
  @aimutilItemidxLoop_eq dl index [] (cstr s) 0 List.not_mem_nil (Nat.zero_le index)

/-- The bytes behind are counted without the delimiters among them. -/
theorem aimutilTokslenLoop_eq {index pos curCount : Nat} {next : List UInt8}
    (hone : 1 ≤ curCount) (hpos : curCount ≤ pos + 1) :
    aimutilTokslenLoop index dl next pos curCount = pos - (curCount - 1) +
      (((next.splitOn dl).take (index - curCount + 1)).map List.length).sum := by
  induction next generalizing pos curCount with
  | nil => simp [aimutilTokslenLoop]
  | cons b next ih =>
    unfold aimutilTokslenLoop
    by_cases hb : b ≠ dl
    · obtain ⟨p, ps, hps⟩ := List.exists_cons_of_ne_nil (List.splitOn_ne_nil dl next)
      rw [if_pos hb, ih hone (Nat.le_succ_of_le hpos), splitOn_cons_of_ne hb, hps,
        List.modifyHead_cons]
      simp only [List.take_succ_cons, List.map_cons, List.sum_cons, List.length_cons]
      omega
    · obtain rfl := not_not.mp hb
      rw [if_neg hb, splitOn_cons_self, List.take_succ_cons, List.map_cons, List.sum_cons,
        List.length_nil, Nat.zero_add]
      by_cases hlt : curCount < index
      · rw [if_pos hlt, ih (Nat.le_add_left 1 curCount) (Nat.succ_le_succ hpos)]
        have hk : index - curCount = index - (curCount + 1) + 1 := by omega
        rw [hk]
        omega
      · rw [if_neg hlt, Nat.sub_eq_zero_of_le (Nat.not_lt.mp hlt)]
        rfl

/-- The lengths of the first pieces together. -/
theorem aimutilTokslen_eq (s : List UInt8) {index : Nat} (h : 1 ≤ index) (dl : UInt8) :
    aimutilTokslen s index dl = ((((cstr s).splitOn dl).take index).map List.length).sum := by
  unfold aimutilTokslen
  rw [aimutilTokslenLoop_eq (Nat.le_refl 1) (Nat.le_refl 1), Nat.sub_add_cancel h]
  exact Nat.zero_add _

/-- The items with the first indices are the first pieces. -/
theorem map_aimutilItemidx_range (s : List UInt8) (dl : UInt8) (n : Nat) :
    (List.range (min n (aimutilItemcnt s dl))).map (aimutilItemidx s · dl) =
      ((cstr s).splitOn dl).take n := by
  apply List.ext_getElem
  · rw [List.length_map, List.length_range, List.length_take, aimutilItemcnt_eq]
  · intro i hi _
    rw [List.length_map, List.length_range, aimutilItemcnt_eq] at hi
    rw [List.getElem_map, List.getElem_range, List.getElem_take, aimutilItemidx_eq,
      List.getD_eq_getElem _ _ (by omega)]

/-- The three functions agree: the items that are counted make up the string, the first of them
have the length that is measured, and past the last there is the empty string. -/
theorem aimutil_items (s : List UInt8) (dl : UInt8) :
    [dl].intercalate ((List.range (aimutilItemcnt s dl)).map (aimutilItemidx s · dl)) = cstr s ∧
      (∀ n, 1 ≤ n → aimutilTokslen s n dl =
        ((List.range (min n (aimutilItemcnt s dl))).map
          fun i => (aimutilItemidx s i dl).length).sum) ∧
      ∀ i, aimutilItemcnt s dl ≤ i → aimutilItemidx s i dl = [] := by
  refine ⟨?_, fun n hn => ?_, fun i hi => ?_⟩
  · have hall := map_aimutilItemidx_range s dl (aimutilItemcnt s dl)
    rw [Nat.min_self] at hall
    rw [hall, aimutilItemcnt_eq, List.take_length, List.intercalate_splitOn]
  · rw [aimutilTokslen_eq s hn, ← map_aimutilItemidx_range, List.map_map]
    rfl
  · rw [aimutilItemidx_eq, List.getD_eq_default]
    rwa [← aimutilItemcnt_eq]

/-- Leading, trailing and neighbouring delimiters stand around empty items. -/
example : (List.range (aimutilItemcnt [38, 97, 38, 38] 38)).map
    (aimutilItemidx [38, 97, 38, 38] · 38) = [[], [97], [], []] := by decide

end Pieces

/-! ## Screen names -/

/-- The loop of `aim_snlen`. -/
def aimSnlenLoop : List UInt8 → Nat → Nat
  | [], i => i
  | b :: curPtr, i => aimSnlenLoop curPtr (if b ≠ 0x20 then i + 1 else i)

/-- `aim_snlen`; a null pointer has no length. -/
def aimSnlen (sn : Option (List UInt8)) : Nat :=
  match sn with
  | none => 0
  | some sn => aimSnlenLoop (cstr sn) 0

/-- `toupper` in the C locale. -/
def toupper (c : UInt8) : UInt8 := if 0x61 ≤ c ∧ c ≤ 0x7a then c - 0x20 else c

/-- The loop of `aim_sncmp` and the test behind it, where at the end of one string both must have
ended. -/
def aimSncmpLoop : List UInt8 → List UInt8 → Int
  | a :: curPtr1, b :: curPtr2 =>
    if a = 0x20 ∧ b = 0x20 then aimSncmpLoop curPtr1 curPtr2
    else if a = 0x20 then aimSncmpLoop curPtr1 (b :: curPtr2)
    else if b = 0x20 then aimSncmpLoop (a :: curPtr1) curPtr2
    else if toupper a ≠ toupper b then 1
    else aimSncmpLoop curPtr1 curPtr2
  | curPtr1, curPtr2 => if curPtr1.head? ≠ curPtr2.head? then 1 else 0
termination_by curPtr1 curPtr2 => curPtr1.length + curPtr2.length

def aimSncmp (sn1 sn2 : List UInt8) : Int :=
  if aimSnlen (some sn1) ≠ aimSnlen (some sn2) then 1
  else aimSncmpLoop (cstr sn1) (cstr sn2)

/-! ## What is compared -/

/-- Without spaces, and in upper case. -/
def normalizeSn (sn : List UInt8) : List UInt8 := (sn.filter (· ≠ 0x20)).map toupper

/-- How many spaces are at the end. -/
def trailingSpaces (sn : List UInt8) : Nat := (sn.reverse.takeWhile (· = 0x20)).length

theorem normalizeSn_cons_space (sn : List UInt8) :
    normalizeSn (0x20 :: sn) = normalizeSn sn := by
  rw [normalizeSn, List.filter_cons_of_neg (by decide), normalizeSn]

theorem normalizeSn_cons_of_ne {b : UInt8} (h : b ≠ 0x20) (sn : List UInt8) :
    normalizeSn (b :: sn) = toupper b :: normalizeSn sn := by
  rw [normalizeSn, List.filter_cons_of_pos (by simpa using h), List.map_cons, normalizeSn]

theorem normalizeSn_eq_nil_iff (sn : List UInt8) :
    normalizeSn sn = [] ↔ ∀ b ∈ sn, b = 0x20 := by
  rw [normalizeSn, List.map_eq_nil_iff, List.filter_eq_nil_iff]
  simp

theorem aimSnlenLoop_eq (sn : List UInt8) (i : Nat) :
    aimSnlenLoop sn i = i + (normalizeSn sn).length := by
  induction sn generalizing i with
  | nil => rfl
  | cons b sn ih =>
    unfold aimSnlenLoop
    by_cases hb : b ≠ 0x20
    · rw [if_pos hb, ih, normalizeSn_cons_of_ne hb, List.length_cons]
      omega
    · obtain rfl := not_not.mp hb
      rw [if_neg hb, ih, normalizeSn_cons_space]

/-- The length `aim_snlen` counts is the length of what is compared. -/
theorem aimSnlen_eq (sn : List UInt8) : aimSnlen (some sn) = (normalizeSn (cstr sn)).length := by
  rw [aimSnlen, aimSnlenLoop_eq, Nat.zero_add]

/-- A blank string is all trailing spaces. -/
theorem trailingSpaces_of_blank {sn : List UInt8} (h : normalizeSn sn = []) :
    trailingSpaces sn = sn.length := by
  have hall : ∀ b ∈ sn.reverse, decide (b = 0x20) = true := by
    intro b hb
    exact decide_eq_true ((normalizeSn_eq_nil_iff sn).mp h b (List.mem_reverse.mp hb))
  rw [trailingSpaces, List.takeWhile_eq_self_iff.mpr hall, List.length_reverse]

/-- What stands before something else than a space does not count. -/
theorem trailingSpaces_cons {sn : List UInt8} (h : normalizeSn sn ≠ []) (b : UInt8) :
    trailingSpaces (b :: sn) = trailingSpaces sn := by
  have hne : (sn.reverse.takeWhile (· = 0x20)).length ≠ sn.reverse.length := by
    intro hlen
    apply h
    rw [normalizeSn_eq_nil_iff]
    intro c hc
    have hself := (List.takeWhile_prefix (· = (0x20 : UInt8))).eq_of_length hlen
    simpa using List.takeWhile_eq_self_iff.mp hself c (List.mem_reverse.mpr hc)
  rw [trailingSpaces, List.reverse_cons, List.takeWhile_append, if_neg hne, trailingSpaces]

theorem trailingSpaces_cons_of_ne {b : UInt8} (h : b ≠ 0x20) (sn : List UInt8) :
    trailingSpaces (b :: sn) = trailingSpaces sn := by
  by_cases hsn : normalizeSn sn = []
  · have hself : sn.reverse.takeWhile (· = 0x20) = sn.reverse := by
      apply List.takeWhile_eq_self_iff.mpr
      intro c hc
      exact decide_eq_true ((normalizeSn_eq_nil_iff sn).mp hsn c (List.mem_reverse.mp hc))
    have hb : [b].takeWhile (· = 0x20) = [] := by simp [h]
    rw [trailingSpaces, List.reverse_cons, List.takeWhile_append, hself, if_pos rfl, hb,
      List.append_nil, trailingSpaces, hself]
  · exact trailingSpaces_cons hsn b

/-! ## The comparison -/

/-- Only the empty string has neither letters nor spaces. -/
theorem eq_nil_of_trailingSpaces {sn : List UInt8} (h : normalizeSn sn = normalizeSn [])
    (ht : trailingSpaces sn = trailingSpaces []) : sn = [] := by
  rw [trailingSpaces_of_blank h] at ht
  exact List.length_eq_zero_iff.mp ht

/-- The cursors meet the same letters one after the other; behind the last of them both skip the
spaces in lock step. -/
theorem aimSncmpLoop_eq_zero_iff (sn1 sn2 : List UInt8) :
    aimSncmpLoop sn1 sn2 = 0 ↔
      normalizeSn sn1 = normalizeSn sn2 ∧ trailingSpaces sn1 = trailingSpaces sn2 := by
  induction sn1, sn2 using aimSncmpLoop.induct with
  | case1 a sn1 b sn2 h ih =>
    obtain ⟨rfl, rfl⟩ := h
    rw [aimSncmpLoop, if_pos ⟨rfl, rfl⟩, ih, normalizeSn_cons_space, normalizeSn_cons_space]
    apply and_congr_right
    intro hnorm
    by_cases hblank : normalizeSn sn1 = []
    · have hblank' : normalizeSn sn2 = [] := hnorm ▸ hblank
      rw [trailingSpaces_of_blank hblank, trailingSpaces_of_blank hblank',
        trailingSpaces_of_blank (by rw [normalizeSn_cons_space, hblank]),
        trailingSpaces_of_blank (by rw [normalizeSn_cons_space, hblank']),
        List.length_cons, List.length_cons, Nat.succ_inj]
    · rw [trailingSpaces_cons hblank, trailingSpaces_cons (hnorm ▸ hblank)]
  | case2 sn1 b sn2 h ih =>
    have hb : b ≠ 0x20 := fun hb => h ⟨rfl, hb⟩
    rw [aimSncmpLoop, if_neg h, if_pos rfl, ih, normalizeSn_cons_space]
    apply and_congr_right
    intro hnorm
    have hne : normalizeSn sn1 ≠ [] := by
      rw [hnorm, normalizeSn_cons_of_ne hb]
      exact List.cons_ne_nil _ _
    rw [trailingSpaces_cons hne]
  | case3 a sn1 sn2 ha h ih =>
    rw [aimSncmpLoop, if_neg h, if_neg ha, if_pos rfl, ih, normalizeSn_cons_space]
    apply and_congr_right
    intro hnorm
    have hne : normalizeSn sn2 ≠ [] := by
      rw [← hnorm, normalizeSn_cons_of_ne ha]
      exact List.cons_ne_nil _ _
    rw [trailingSpaces_cons hne]
  | case4 a sn1 b sn2 h ha hb hne =>
    rw [aimSncmpLoop, if_neg h, if_neg ha, if_neg hb, if_pos hne, normalizeSn_cons_of_ne ha,
      normalizeSn_cons_of_ne hb, List.cons.injEq]
    exact iff_of_false (by decide) fun hboth => hne hboth.1.1
  | case5 a sn1 b sn2 h ha hb heq ih =>
    rw [aimSncmpLoop, if_neg h, if_neg ha, if_neg hb, if_neg heq, ih, normalizeSn_cons_of_ne ha,
      normalizeSn_cons_of_ne hb, trailingSpaces_cons_of_ne ha, trailingSpaces_cons_of_ne hb,
      List.cons.injEq, and_iff_right (not_not.mp heq)]
  | case6 sn1 sn2 hend hne =>
    -- one string has ended, the other has not
    rw [aimSncmpLoop.eq_2 _ _ hend, if_pos hne]
    refine iff_of_false (by decide) ?_
    rintro ⟨hnorm, htrail⟩
    cases sn1 with
    | nil => exact hne (by rw [eq_nil_of_trailingSpaces hnorm.symm htrail.symm])
    | cons a sn1 =>
      cases sn2 with
      | nil => exact hne (by rw [eq_nil_of_trailingSpaces hnorm htrail])
      | cons b sn2 => exact hend a sn1 b sn2 rfl rfl
  | case7 sn1 sn2 hend heq =>
    rw [aimSncmpLoop.eq_2 _ _ hend, if_neg heq]
    have hheads := not_not.mp heq
    cases sn1 with
    | nil =>
      obtain rfl := List.head?_eq_none_iff.mp hheads.symm
      exact iff_of_true rfl ⟨rfl, rfl⟩
    | cons a sn1 =>
      cases sn2 with
      | nil => cases hheads
      | cons b sn2 => exact absurd rfl (hend a sn1 b sn2 rfl)

theorem aimSncmp_zero (sn1 sn2 : List UInt8) :
    aimSncmp sn1 sn2 = 0 ↔ normalizeSn (cstr sn1) = normalizeSn (cstr sn2) ∧
      trailingSpaces (cstr sn1) = trailingSpaces (cstr sn2) := by
  unfold aimSncmp
  rw [aimSnlen_eq, aimSnlen_eq]
  by_cases hlen : (normalizeSn (cstr sn1)).length ≠ (normalizeSn (cstr sn2)).length
  · rw [if_pos hlen]
    exact iff_of_false (by decide) fun hboth => hlen (congrArg List.length hboth.1)
  · rw [if_neg hlen, aimSncmpLoop_eq_zero_iff]

/-- Two names are equal for `aim_sncmp` exactly when they are up to case and spaces, provided that
names of which this is true end in the same number of spaces. -/
theorem aimSncmp_eq_zero_iff (sn1 sn2 : List UInt8) :
    (aimSncmp sn1 sn2 = 0 ↔ normalizeSn (cstr sn1) = normalizeSn (cstr sn2)) ↔
      (normalizeSn (cstr sn1) = normalizeSn (cstr sn2) →
        trailingSpaces (cstr sn1) = trailingSpaces (cstr sn2)) := by
  rw [aimSncmp_zero, and_iff_left_iff_imp]

/-- A space at the end makes a difference. -/
theorem aimSncmp_trailing_space :
    normalizeSn (cstr [0x61, 0x20]) = normalizeSn (cstr [0x61]) ∧
      aimSncmp [0x61, 0x20] [0x61] = 1 := by
  refine ⟨by decide, ?_⟩
  simp [aimSncmp, aimSnlen, aimSnlenLoop, cstr, aimSncmpLoop]

end Libfaim
