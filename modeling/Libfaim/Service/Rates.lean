import Mathlib.Data.List.Nodup
import Libfaim.Service

/-!
# Rate information (`service.c`)

`rateresp` first takes the classes, a counted number of them, and then as many lists of members,
each of which it adds to the class with the id in front of the list. The lists may come in any
order: after some of them, the classes they were for are complete and the others have no members
yet (`filled`).
-/

namespace Libfaim

/-! ## Rate classes -/

structure SnacPair where
  group : UInt16
  subtype : UInt16
  deriving DecidableEq, Repr

/-- `struct rateclass`; the members are the list that hangs from it. -/
structure RateClass where
  classid : UInt16
  windowsize : UInt32
  clear : UInt32
  alert : UInt32
  limit : UInt32
  disconnect : UInt32
  current : UInt32
  max : UInt32
  unknown : List UInt8
  members : List SnacPair
  unknown_length : unknown.length = 5
  deriving DecidableEq, Repr

/-- `rc_addclass`: a copy of the class at the end of the list. -/
def rcAddclass (head : List RateClass) (inrc : RateClass) : List RateClass := head ++ [inrc]

/-- `rc_findclass`: the place of the first class with this id. -/
def rcFindclass (head : List RateClass) (id : UInt16) : Option Nat :=
  head.findIdx? fun rc => rc.classid = id

/-- `rc_addpair`: one more member at the end of the list. -/
def rcAddpair (group type : UInt16) (rc : RateClass) : RateClass :=
  { rc with members := rc.members ++ [⟨group, type⟩] }

/-! ## Rate parameters (group 1, type 7) -/

/-- The version of group 1 that `general_modfirst` sets. -/
def generalVersion : UInt16 := 0x0003

/-- The body of the first loop of `rateresp`, up to `rc_addclass`. The extra bytes go over zeros. -/
def getRateclass (version : UInt16) : StateM AimBstream RateClass := do
  let classid ← aimbsGet16
  let windowsize ← aimbsGet32
  let clear ← aimbsGet32
  let alert ← aimbsGet32
  let limit ← aimbsGet32
  let disconnect ← aimbsGet32
  let current ← aimbsGet32
  let max ← aimbsGet32
  let unknown ← if version ≥ 3 then aimbsGetrawbuf 5 else pure []
  return {
    classid, windowsize, clear, alert, limit, disconnect, current, max
    unknown := (unknown ++ List.replicate 5 0).take 5
    members := []
    unknown_length := by simp }

/-- The first loop of `rateresp`, with the number of classes still to come. -/
def raterespClasses (version : UInt16) : Nat → List RateClass → StateM AimBstream (List RateClass)
  | 0, rates => pure rates
  | n + 1, rates => do
    let rc ← getRateclass version
    raterespClasses version n (rcAddclass rates rc)

/-- The inner loop over the members of the class at `rc`, or of no class. -/
def raterespPairs (rc : Option Nat) : Nat → List RateClass → StateM AimBstream (List RateClass)
  | 0, rates => pure rates
  | n + 1, rates => do
    let group ← aimbsGet16
    let subtype ← aimbsGet16
    match rc with
    | none => raterespPairs rc n rates
    | some i => raterespPairs rc n (rates.modify i (rcAddpair group subtype))

/-- The second loop of `rateresp`. -/
def raterespMembers : Nat → List RateClass → StateM AimBstream (List RateClass)
  | 0, rates => pure rates
  | n + 1, rates => do
    let classid ← aimbsGet16
    let count ← aimbsGet16
    let rates ← raterespPairs (rcFindclass rates classid) count.toNat rates
    raterespMembers n rates

/-- `rateresp` up to `aim_rates_addparam`: the rates it leaves the connection with. -/
def rateresp (version : UInt16) (rates : List RateClass) : StateM AimBstream (List RateClass) := do
  let numclasses ← aimbsGet16
  let rates ← raterespClasses version numclasses.toNat rates
  raterespMembers numclasses.toNat rates

/-! ## A rate response -/

def SnacPair.encode (sp : SnacPair) : List UInt8 :=
  aimutilPut16 sp.group ++ aimutilPut16 sp.subtype

/-- The parameters of a class. -/
def RateClass.encode (rc : RateClass) : List UInt8 :=
  aimutilPut16 rc.classid ++ (aimutilPut32 rc.windowsize ++ (aimutilPut32 rc.clear ++
    (aimutilPut32 rc.alert ++ (aimutilPut32 rc.limit ++ (aimutilPut32 rc.disconnect ++
      (aimutilPut32 rc.current ++ (aimutilPut32 rc.max ++ rc.unknown)))))))

/-- The members of a class, with its id and their number in front. -/
def RateClass.encodeMembers (rc : RateClass) : List UInt8 :=
  aimutilPut16 rc.classid ++ (aimutilPut16 (UInt16.ofNat rc.members.length) ++
    rc.members.flatMap SnacPair.encode)

/-- What a well-formed rate response has: classes with different ids, and an order in which their
members follow. The counts have 16 bits. -/
structure RatePacket where
  classes : List RateClass
  order : List RateClass
  nodup : (classes.map (·.classid)).Nodup
  perm : order.Perm classes
  classes_lt : classes.length < 65536
  members_lt : ∀ rc ∈ classes, rc.members.length < 65536

def RatePacket.encode (p : RatePacket) : List UInt8 :=
  aimutilPut16 (UInt16.ofNat p.classes.length) ++ (p.classes.flatMap RateClass.encode ++
    p.order.flatMap RateClass.encodeMembers)

/-! ## The classes -/

/-- A class as the first loop stores it. -/
def RateClass.bare (rc : RateClass) : RateClass := { rc with members := [] }

theorem reads_getRateclass (rc : RateClass) :
    Reads (getRateclass generalVersion) rc.encode rc.bare := by
  have hunknown : (rc.unknown ++ List.replicate 5 0).take 5 = rc.unknown :=
    List.take_left' rc.unknown_length
  have hraw : Reads (if generalVersion ≥ 3 then aimbsGetrawbuf 5 else pure []) rc.unknown
      rc.unknown := by
    rw [if_pos (by decide)]
    exact reads_aimbsGetrawbuf rc.unknown_length
  have hlast := hraw.map fun unknown : List UInt8 => ({
    rc with
    unknown := (unknown ++ List.replicate 5 0).take 5
    members := []
    unknown_length := by simp } : RateClass)
  simp only [hunknown] at hlast
  exact (reads_aimbsGet16 _).bind <| (reads_aimbsGet32 _).bind <| (reads_aimbsGet32 _).bind <|
    (reads_aimbsGet32 _).bind <| (reads_aimbsGet32 _).bind <| (reads_aimbsGet32 _).bind <|
    (reads_aimbsGet32 _).bind <| (reads_aimbsGet32 _).bind hlast

theorem reads_raterespClasses (classes rates : List RateClass) :
    Reads (raterespClasses generalVersion classes.length rates)
      (classes.flatMap RateClass.encode) (rates ++ classes.map RateClass.bare) := by
  induction classes generalizing rates with
  | nil =>
    rw [List.map_nil, List.append_nil]
    exact Reads.pure rates
  | cons rc classes ih =>
    have hrest := ih (rcAddclass rates rc.bare)
    rw [rcAddclass, List.append_assoc, List.singleton_append, ← List.map_cons] at hrest
    exact (reads_getRateclass rc).bind hrest

/-! ## The members -/

/-- A class with more members. -/
def RateClass.addMembers (sps : List SnacPair) (rc : RateClass) : RateClass :=
  { rc with members := rc.members ++ sps }

theorem reads_raterespPairs (i : Nat) (sps : List SnacPair) (rates : List RateClass) :
    Reads (raterespPairs (some i) sps.length rates) (sps.flatMap SnacPair.encode)
      (rates.modify i (RateClass.addMembers sps)) := by
  induction sps generalizing rates with
  | nil =>
    have hnone : RateClass.addMembers [] = id := by
      funext rc
      simp [RateClass.addMembers]
    rw [hnone, List.modify_id]
    exact Reads.pure rates
  | cons sp sps ih =>
    have hrest := ih (rates.modify i (rcAddpair sp.group sp.subtype))
    have hmore : RateClass.addMembers sps ∘ rcAddpair sp.group sp.subtype =
        RateClass.addMembers (sp :: sps) := by
      funext rc
      simp [RateClass.addMembers, rcAddpair]
    rw [List.modify_modify_eq, hmore] at hrest
    rw [List.flatMap_cons, SnacPair.encode, List.append_assoc]
    exact (reads_aimbsGet16 _).bind ((reads_aimbsGet16 _).bind hrest)

/-- The classes after the lists for the ids `done`. -/
def filled (done : List UInt16) (classes : List RateClass) : List RateClass :=
  classes.map fun rc => if rc.classid ∈ done then rc else rc.bare

theorem filled_nil (classes : List RateClass) : filled [] classes = classes.map RateClass.bare := by
  simp [filled]

theorem filled_of_all {done : List UInt16} {classes : List RateClass}
    (h : ∀ rc ∈ classes, rc.classid ∈ done) : filled done classes = classes := by
  unfold filled
  conv_rhs => rw [← List.map_id classes]
  apply List.map_congr_left
  intro rc hrc
  rw [if_pos (h rc hrc), id]

section Filled

variable {done : List UInt16} {classes : List RateClass} {i : Nat}

theorem length_filled : (filled done classes).length = classes.length := List.length_map _

theorem getElem_filled (hi : i < classes.length) (h : i < (filled done classes).length) :
    (filled done classes)[i] =
      if classes[i].classid ∈ done then classes[i] else classes[i].bare :=
  List.getElem_map ..

theorem classid_filled (hi : i < classes.length) (h : i < (filled done classes).length) :
    (filled done classes)[i].classid = classes[i].classid := by
  rw [getElem_filled hi]
  by_cases hdone : classes[i].classid ∈ done
  · rw [if_pos hdone]
  · rw [if_neg hdone, RateClass.bare]

/-- Different classes have different ids. -/
theorem classid_inj (hnodup : (classes.map (·.classid)).Nodup) {j : Nat} (hi : i < classes.length)
    (hj : j < classes.length) (h : classes[i].classid = classes[j].classid) : i = j := by
  have hi' : i < (classes.map (·.classid)).length := by rwa [List.length_map]
  have hj' : j < (classes.map (·.classid)).length := by rwa [List.length_map]
  have hids : (classes.map (·.classid))[i] = (classes.map (·.classid))[j] := by
    rw [List.getElem_map, List.getElem_map, h]
  exact hnodup.getElem_inj_iff.mp hids

theorem rcFindclass_filled (hnodup : (classes.map (·.classid)).Nodup) (hi : i < classes.length) :
    rcFindclass (filled done classes) classes[i].classid = some i := by
  unfold rcFindclass
  rw [List.findIdx?_eq_some_iff_getElem]
  have hlen : i < (filled done classes).length := by rwa [length_filled]
  refine ⟨hlen, decide_eq_true (classid_filled hi hlen), fun j hj => ?_⟩
  have hjlt : j < classes.length := Nat.lt_trans hj hi
  rw [decide_eq_true_eq, classid_filled hjlt]
  intro hid
  exact absurd (classid_inj hnodup hjlt hi hid) (Nat.ne_of_lt hj)

/-- A list of members makes its class complete and leaves the others alone. -/
theorem modify_filled (hnodup : (classes.map (·.classid)).Nodup) (hi : i < classes.length)
    (hdone : classes[i].classid ∉ done) :
    (filled done classes).modify i (RateClass.addMembers classes[i].members) =
      filled (classes[i].classid :: done) classes := by
  apply List.ext_getElem
  · rw [List.length_modify, length_filled, length_filled]
  · intro j hj hj'
    have hjlt : j < classes.length := by rwa [length_filled] at hj'
    rw [List.getElem_modify, getElem_filled hjlt, getElem_filled hjlt]
    by_cases hij : i = j
    · subst hij
      rw [if_pos rfl, if_neg hdone, if_pos List.mem_cons_self]
      rfl
    · have hne : classes[j].classid ≠ classes[i].classid :=
        fun h => hij (classid_inj hnodup hi hjlt h.symm)
      rw [if_neg hij]
      simp only [List.mem_cons, hne, false_or]

end Filled

/-- The lists for classes that have had none yet. -/
theorem reads_raterespMembers {classes : List RateClass} (hnodup : (classes.map (·.classid)).Nodup)
    (hmembers : ∀ rc ∈ classes, rc.members.length < 65536) {todo : List RateClass}
    (htodo : ∀ rc ∈ todo, rc ∈ classes) (hids : (todo.map (·.classid)).Nodup)
    {done : List UInt16} (hdone : ∀ rc ∈ todo, rc.classid ∉ done) :
    Reads (raterespMembers todo.length (filled done classes))
      (todo.flatMap RateClass.encodeMembers)
      (filled ((todo.map (·.classid)).reverse ++ done) classes) := by
  induction todo generalizing done with
  | nil => exact Reads.pure _
  | cons rc todo ih =>
    obtain ⟨i, hi, rfl⟩ := List.getElem_of_mem (htodo rc List.mem_cons_self)
    rw [List.map_cons, List.nodup_cons] at hids
    have hcount : (UInt16.ofNat classes[i].members.length).toNat = classes[i].members.length := by
      rw [UInt16.toNat_ofNat', Nat.mod_eq_of_lt (hmembers _ (List.getElem_mem hi))]
    have hrest := @ih (fun rc hrc => htodo rc (List.mem_cons_of_mem _ hrc)) hids.2
      (classes[i].classid :: done) (fun rc hrc => by
        rw [List.mem_cons, not_or]
        refine ⟨fun h => hids.1 ?_, hdone rc (List.mem_cons_of_mem _ hrc)⟩
        exact h ▸ List.mem_map_of_mem hrc)
    have hfind : rcFindclass (filled done classes) classes[i].classid = some i :=
      rcFindclass_filled hnodup hi
    have hpairs := reads_raterespPairs i classes[i].members (filled done classes)
    rw [modify_filled hnodup hi (hdone _ List.mem_cons_self), ← hfind, ← hcount] at hpairs
    rw [List.flatMap_cons, RateClass.encodeMembers, List.append_assoc, List.append_assoc,
      List.map_cons, List.reverse_cons, List.append_assoc, List.singleton_append]
    exact (reads_aimbsGet16 _).bind ((reads_aimbsGet16 _).bind (hpairs.bind hrest))

/-- On a connection without rates a well-formed response leaves exactly its classes, in the order
of the packet and each with its members, whatever order their lists come in. -/
theorem reads_rateresp (p : RatePacket) :
    Reads (rateresp generalVersion []) p.encode p.classes := by
  have hcount : (UInt16.ofNat p.classes.length).toNat = p.classes.length := by
    rw [UInt16.toNat_ofNat', Nat.mod_eq_of_lt p.classes_lt]
  have hids : (p.order.map (·.classid)).Nodup :=
    (p.perm.map _).nodup_iff.mpr p.nodup
  have hmembers := @reads_raterespMembers p.classes p.nodup p.members_lt p.order
    (fun rc hrc => p.perm.mem_iff.mp hrc) hids [] (fun _ _ => List.not_mem_nil)
  have hall : ∀ rc ∈ p.classes, rc.classid ∈ (p.order.map (·.classid)).reverse ++ [] := by
    intro rc hrc
    rw [List.append_nil, List.mem_reverse]
    exact List.mem_map_of_mem (p.perm.mem_iff.mpr hrc)
  rw [filled_of_all hall, filled_nil, p.perm.length_eq] at hmembers
  have hclasses := reads_raterespClasses p.classes []
  rw [List.nil_append] at hclasses
  rw [← hcount] at hclasses hmembers
  exact (reads_aimbsGet16 _).bind (hclasses.bind hmembers)

/-- Two classes, the members of the second first. -/
example :
    let rc : RateClass := ⟨1, 80, 2500, 2000, 1500, 800, 5000, 6000, [0, 0, 0, 0, 0], [⟨1, 2⟩], rfl⟩
    let rc' : RateClass := ⟨3, 20, 5100, 5000, 4000, 3000, 6000, 6000, [0, 0, 0, 0, 1], [], rfl⟩
    let p : RatePacket := ⟨[rc, rc'], [rc', rc], by decide, .swap .., by decide, by decide⟩
    (rateresp generalVersion [] ⟨p.encode, 0⟩).1 = [rc, rc'] := by decide

end Libfaim
