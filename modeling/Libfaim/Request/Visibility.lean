import Libfaim.Request.Whole

/-!
# The list of a visibility change

`aim_bos_changevisibility` takes the names of a string, each with a `&` behind it, and counts,
measures and copies them with the tokenizing functions. The size of the frame has the lengths of the
first 99 names and a byte for every name, and the first 99 names are copied. So the frame holds the
list, and nothing else, exactly where the list has no more than 99 names (`changevisibility_iff`).
-/

namespace Libfaim

/-- A name for the list. -/
structure ListedName where
  bytes : List UInt8
  ne_nil : bytes ≠ []
  length_le : bytes.length ≤ 255
  no_nul : 0 ∉ bytes
  no_amp : 0x26 ∉ bytes

/-- The names, each with a `&` behind it. -/
def denylist (names : List ListedName) : List UInt8 := names.flatMap fun n => n.bytes ++ [0x26]

/-- The names, each with its length in front of it. -/
def visibilityBody (names : List ListedName) : List UInt8 :=
  names.flatMap fun n => aimutilPut8 (UInt8.ofNat n.bytes.length) ++ n.bytes

def namesLength (names : List ListedName) : Nat := (names.map (·.bytes.length)).sum

theorem namesLength_cons (n : ListedName) (names : List ListedName) :
    namesLength (n :: names) = n.bytes.length + namesLength names := by
  rw [namesLength, List.map_cons, List.sum_cons, namesLength]

theorem namesLength_append (l m : List ListedName) :
    namesLength (l ++ m) = namesLength l + namesLength m := by
  rw [namesLength, List.map_append, List.sum_append, namesLength, namesLength]

theorem length_le_namesLength (names : List ListedName) : names.length ≤ namesLength names := by
  induction names with
  | nil => exact Nat.le_refl _
  | cons n names ih =>
    have hpos := List.length_pos_iff.mpr n.ne_nil
    rw [namesLength_cons, List.length_cons]
    omega

theorem namesLength_le (names : List ListedName) : namesLength names ≤ 255 * names.length := by
  induction names with
  | nil => exact Nat.le_refl _
  | cons n names ih =>
    have hle := n.length_le
    rw [namesLength_cons, List.length_cons]
    omega

/-! ## The list and its pieces -/

theorem denylist_cons (n : ListedName) (names : List ListedName) :
    denylist (n :: names) = n.bytes ++ 0x26 :: denylist names := by
  simp [denylist]

/-- Behind the last `&` there is one more piece. -/
theorem splitOn_denylist (names : List ListedName) :
    (denylist names).splitOn 0x26 = names.map (·.bytes) ++ [[]] := by
  induction names with
  | nil => rfl
  | cons n names ih =>
    rw [denylist_cons, List.splitOn_append_cons_self_of_not_mem n.no_amp, ih, List.map_cons,
      List.cons_append]

theorem cstr_denylist (names : List ListedName) : cstr (denylist names) = denylist names := by
  apply cstr_of_no_nul
  intro h
  obtain ⟨n, -, hn⟩ := List.mem_flatMap.mp h
  rcases List.mem_append.mp hn with hbytes | hamp
  · exact n.no_nul hbytes
  · exact absurd (List.mem_singleton.mp hamp) (by decide)

theorem itemcnt_denylist (names : List ListedName) :
    aimutilItemcnt (denylist names) 0x26 = names.length + 1 := by
  rw [aimutilItemcnt_eq, cstr_denylist, splitOn_denylist, List.length_append, List.length_map,
    List.length_singleton]

/-- The items with the first indices are the first names. -/
theorem itemidx_denylist (names : List ListedName) {n : Nat} (h : n ≤ names.length) :
    (List.range n).map (aimutilItemidx (denylist names) · 0x26) =
      (names.take n).map (·.bytes) := by
  have hitems := map_aimutilItemidx_range (denylist names) 0x26 n
  rw [itemcnt_denylist, Nat.min_eq_left (Nat.le_succ_of_le h), cstr_denylist,
    splitOn_denylist, List.take_append_of_le_length (by rwa [List.length_map]),
    ← List.map_take] at hitems
  exact hitems

theorem tokslen_denylist (names : List ListedName) {n : Nat} (hn : 1 ≤ n) :
    aimutilTokslen (denylist names) n 0x26 = namesLength (names.take n) := by
  rw [aimutilTokslen_eq _ hn, cstr_denylist, splitOn_denylist, List.take_append, List.map_append,
    List.sum_append, ← List.map_take, List.map_map, namesLength]
  have hend : ((([[]] : List (List UInt8)).take (n - (names.map (·.bytes)).length)).map
      List.length).sum = 0 := by
    cases n - (names.map (·.bytes)).length with
    | zero => rfl
    | succ k => simp
  rw [hend]
  rfl

theorem visibilityBody_length (names : List ListedName) :
    (visibilityBody names).length = names.length + namesLength names := by
  induction names with
  | nil => rfl
  | cons n names ih =>
    have hcons : visibilityBody (n :: names) =
        aimutilPut8 (UInt8.ofNat n.bytes.length) ++ n.bytes ++ visibilityBody names := rfl
    rw [hcons, List.length_append, List.length_append, aimutilPut8_length, ih, namesLength_cons,
      List.length_cons]
    omega

/-! ## What is put into the frame -/

theorem writes_putStr8_name (n : ListedName) : Writes (putAll (putStr8 n.bytes))
    (aimutilPut8 (UInt8.ofNat n.bytes.length) ++ n.bytes) 0 := by
  have hcstr : cstr n.bytes = n.bytes := cstr_of_no_nul n.no_nul
  have hname := writes_aimbsPutrawCstr n.bytes
  have h : Writes (putAll (putStr8 n.bytes))
      (aimutilPut8 (UInt8.ofNat (strlen n.bytes)) ++ (cstr n.bytes ++ [])) 0 :=
    (writes_aimbsPut8 _).bind (hname.bind (Writes.pure 0))
  rwa [strlen, hcstr, List.append_nil] at h

theorem writes_putStr8_names (names : List ListedName) :
    Writes (putAll ((names.map (·.bytes)).flatMap putStr8)) (visibilityBody names) 0 := by
  rw [List.flatMap_map]
  exact writes_putAll_flatMap writes_putStr8_name

/-- The request for a list: the size has a byte for every name, and the lengths of those that are
put. -/
def visibilityRequest (subtype : UInt16) (names : List ListedName) : Request where
  datalen := 10 + names.length + namesLength (names.take 99)
  family := 0x0009
  type := subtype
  data := []
  put := putSnac 0x0009 subtype (((names.take 99).map (·.bytes)).flatMap putStr8)

theorem changevisibility_request {changetype : Int} {subtype : UInt16}
    (h : visibilitySubtype changetype = some subtype) (names : List ListedName) :
    aimBosChangevisibility changetype (some (denylist names)) =
      .ok (visibilityRequest subtype names) := by
  have hle : min names.length 99 ≤ names.length := Nat.min_le_left _ _
  have htake : names.take (min names.length 99) = names.take 99 := by
    rw [Nat.min_comm, ← List.take_eq_take_min]
  have hitems := itemidx_denylist names hle
  rw [htake] at hitems
  have hdatalen : aimutilTokslen (denylist names) 99 0x26 + (names.length + 1) + 9 =
      10 + names.length + namesLength (names.take 99) := by
    rw [tokslen_denylist names (by decide)]
    omega
  unfold aimBosChangevisibility needArg visibilityRequest
  simp only [h, itemcnt_denylist, hdatalen, Nat.add_sub_cancel, ← hitems, List.flatMap_map]

/-- The frame has the SNAC header, every name in order and nothing else. -/
def VisibilityFrame (subtype : UInt16) (snacid : UInt32) (names : List ListedName)
    (bs : AimBstream) : Prop :=
  bs.data = snacFront 0x0009 subtype snacid ++ visibilityBody names ∧ bs.offset = bs.len

section Frame

variable {subtype : UInt16} {snacid : UInt32} {names : List ListedName}

/-- All names are copied into a buffer of their size. -/
theorem visibilityFrame_of_le (h : names.length ≤ 99) :
    VisibilityFrame subtype snacid names
      (putSnac 0x0009 subtype ((names.map (·.bytes)).flatMap putStr8) snacid
        (aimBstreamInit (List.replicate (10 + names.length + namesLength names) 0)
          (10 + names.length + namesLength names : Nat))).2 := by
  have hwrites := @writes_putSnac 0x0009 subtype snacid _ _ _ (writes_putStr8_names names)
  have hsize : (snacFront 0x0009 subtype snacid ++ visibilityBody names).length =
      10 + names.length + namesLength names := by
    rw [List.length_append, snacFront_length, visibilityBody_length, Nat.add_assoc]
  have hmax := namesLength_le names
  have hfull := hwrites.init_full (by omega)
  rw [hsize] at hfull
  rw [hfull]
  exact ⟨rfl, hsize.symm⟩

/-- A list of more names does not have the size of the buffer. -/
theorem length_le_of_visibilityFrame {puts : List (StateM AimBstream Nat)}
    (hputs : ∀ put ∈ puts, Appends put)
    (h : VisibilityFrame subtype snacid names (putSnac 0x0009 subtype puts snacid
      (aimBstreamInit (List.replicate (10 + names.length + namesLength (names.take 99)) 0)
        (10 + names.length + namesLength (names.take 99) : Nat))).2) : names.length ≤ 99 := by
  have hlen := (appends_putSnac hputs (aimBstreamInit _ _) (Nat.zero_le _)).len_eq.symm.trans
    (congrArg List.length h.1)
  rw [aimBstreamInit_replicate_len, List.length_append, snacFront_length,
    visibilityBody_length] at hlen
  have hsplit : namesLength names =
      namesLength (names.take 99) + namesLength (names.drop 99) := by
    rw [← namesLength_append, List.take_append_drop]
  have hdrop := length_le_namesLength (names.drop 99)
  rw [List.length_drop] at hdrop
  omega

end Frame

section Sent

variable {s : Requester} {c : ConnPtr} {now changetype : Int} {subtype : UInt16}

theorem make_changevisibility (h : visibilitySubtype changetype = some subtype)
    (names : List ListedName) :
    s.make c now (.bosChangevisibility changetype (some (denylist names))) =
      s.request c now (visibilityRequest subtype names) := by
  rw [Requester.make, RequestCall.request, changevisibility_request h names]

theorem length_le_of_sent (h : visibilitySubtype changetype = some subtype)
    {names : List ListedName} (hc : s.sess.Usable c)
    (hsent : s.Sent (s.make c now (.bosChangevisibility changetype (some (denylist names))))
      (VisibilityFrame subtype s.snacs.snacidNext names)) : names.length ≤ 99 := by
  rw [make_changevisibility h, Requester.sent_request_iff] at hsent
  refine length_le_of_visibilityFrame (fun put hput => ?_) (hsent hc)
  obtain ⟨str, -, hput⟩ := List.mem_flatMap.mp hput
  exact appends_putStr8 str put hput

/-- A call that returns 0 has enqueued the whole list, in a frame of its size, exactly where the
list has at most 99 names. -/
theorem changevisibility_iff (h : visibilitySubtype changetype = some subtype)
    (names : List ListedName) :
    s.Sent (s.make c now (.bosChangevisibility changetype (some (denylist names))))
        (VisibilityFrame subtype s.snacs.snacidNext names) ↔
      (s.sess.Usable c → names.length ≤ 99) := by
  constructor
  · intro hsent hc
    exact length_le_of_sent h hc hsent
  · intro hle
    rw [make_changevisibility h, Requester.sent_request_iff]
    intro hc
    rw [visibilityRequest, List.take_of_length_le (hle hc)]
    exact visibilityFrame_of_le (hle hc)

end Sent

/-- The name `r`. -/
def shortName : ListedName where
  bytes := [0x72]
  ne_nil := by decide
  length_le := by decide
  no_nul := by decide
  no_amp := by decide

/-- The largest list that is sent. -/
theorem changevisibility_99 :
    let names := List.replicate 99 shortName
    authRequester.Sent
      (authRequester.make 1 0 (.bosChangevisibility 5 (some (denylist names))))
      (VisibilityFrame 0x05 authRequester.snacs.snacidNext names) :=
  (changevisibility_iff rfl _).mpr fun _ => by rw [List.length_replicate]

/-- The hundredth name is lost, while the value is 0. -/
theorem not_changevisibility_100 :
    let names := List.replicate 100 shortName
    let r := authRequester.make 1 0 (.bosChangevisibility 5 (some (denylist names)))
    r.1 = 0 ∧ ¬ ∃ fr, r.2.passed = authRequester.passed ++ [fr] ∧
      VisibilityFrame 0x05 authRequester.snacs.snacidNext names fr.data := by
  intro names r
  have husable : authRequester.sess.Usable 1 := ⟨by decide, by decide⟩
  have hret : r.1 = 0 := by
    show (authRequester.make 1 0 (.bosChangevisibility 5 (some (denylist names)))).1 = 0
    rw [make_changevisibility rfl]
    rfl
  refine ⟨hret, fun h => ?_⟩
  have hle := length_le_of_sent rfl husable fun _ => h
  rw [List.length_replicate] at hle
  omega

end Libfaim
