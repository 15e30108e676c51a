import Mathlib.Data.List.Nodup
import Libfaim.RxHandlers.Offer

/-!
# Every frame is dispatched once

`aim_rxdispatch` gives each frame of the receive queue its turn, in the order of arrival
(`Dispatched`). A frame that was given to a handler is off the queue afterwards, and no later
dispatch comes to it again, if it was settled (`aimRxdispatch_handsOnce`).
-/

namespace Libfaim

/-! ## Addresses -/

/-- The frames on the receive queue are at different addresses, all in use. -/
structure Distinct (s : AimSession) : Prop where
  nodup : s.ptrs.Nodup
  lt : ∀ p ∈ s.ptrs, p < s.heap

/-- The address was that of a frame which is no longer on the receive queue. -/
structure Gone (p : Nat) (s : AimSession) : Prop where
  lt : p < s.heap
  not_mem : p ∉ s.ptrs

section Addresses

variable {exempt : Nat → Prop} {s t : AimSession} {p : Nat}

theorem Distinct.grown (h : Distinct s) (hgrown : Grown exempt s t) : Distinct t := by
  obtain ⟨new, hptrs, hnodup, hfresh⟩ := hgrown.ptrs
  have hheap := hgrown.heap
  constructor
  · rw [hptrs]
    refine List.nodup_append.mpr ⟨h.nodup, hnodup, fun p hp q hq => ?_⟩
    have hlt := h.lt p hp
    have hle := (hfresh q hq).1
    omega
  · intro p hp
    rw [hptrs] at hp
    rcases List.mem_append.mp hp with hp | hp
    · exact Nat.lt_of_lt_of_le (h.lt p hp) hheap
    · exact (hfresh p hp).2

theorem Gone.grown (h : Gone p s) (hgrown : Grown exempt s t) : Gone p t := by
  obtain ⟨new, hptrs, -, hfresh⟩ := hgrown.ptrs
  refine ⟨Nat.lt_of_lt_of_le h.lt hgrown.heap, fun hp => ?_⟩
  rw [hptrs] at hp
  rcases List.mem_append.mp hp with hp | hp
  · exact h.not_mem hp
  · exact Nat.not_le_of_lt h.lt (hfresh p hp).1

theorem purged_ptrs_sublist (s : AimSession) : (aimPurgeRxqueue s).ptrs.Sublist s.ptrs :=
  List.filter_sublist.map _

theorem Distinct.purged (h : Distinct s) : Distinct (aimPurgeRxqueue s) :=
  ⟨h.nodup.sublist (purged_ptrs_sublist s), fun p hp => h.lt p ((purged_ptrs_sublist s).subset hp)⟩

theorem Gone.purged (h : Gone p s) : Gone p (aimPurgeRxqueue s) :=
  ⟨h.lt, fun hp => h.not_mem ((purged_ptrs_sublist s).subset hp)⟩

end Addresses

/-! ## The turns of a dispatch -/

/-- Handlers that neither put marks on received frames nor take them off: they kill no connection
that has frames waiting. -/
def Client.LeavesMarks (client : Client) : Prop :=
  ∀ c s i v, MarkIs i v s → MarkIs i v (client.effect c s)

/-- What has become of the frame that had its turn. -/
structure Turn.Outcome (client : Client) (turn : Turn) (cur : AimFrame) : Prop where
  ptr : cur.ptr = turn.frame.ptr
  settled : turn.frame.handled = 0 → candidates turn.before turn.frame ≠ [] →
    Settles client turn.before turn.frame → cur.handled ≠ 0
  unsettled : client.LeavesMarks → turn.frame.handled = 0 →
    ¬ Settles client turn.before turn.frame → cur.handled = 0

/-- The dispatch of the queue of `s`, at the `i`-th frame. -/
structure Dispatched (client : Client) (s : AimSession) (i : Nat) (sess : AimSession)
    (turns : List Turn) : Prop where
  grown : Grown (· < i) s sess
  length : turns.length = i
  calls : ∀ turn ∈ turns, turn.calls =
    if turn.frame.handled = 0 then offer client.ret (candidates turn.before turn.frame) else []
  outcome : ∀ (j : Nat) (turn : Turn), turns[j]? = some turn →
    ∃ cur, sess.queueIncoming[j]? = some cur ∧ turn.Outcome client cur

section Dispatch

variable {client : Client} {i j : Nat} {s sess sess' : AimSession} {cur : AimFrame}
  {calls : List (RxCall × Int)} {turns : List Turn}

/-- Handlers that leave marks alone do so for the whole turn of another frame. -/
theorem rxdispatchFrame_leavesMarks (hmarks : client.LeavesMarks) {v : UInt8} (hj : j ≠ i)
    (hmark : MarkIs j v sess)
    (h : rxdispatchFrame client i cur (sess, []) = some ((), sess', calls)) : MarkIs j v sess' := by
  have hmodify : ∀ s f, MarkIs j v s → MarkIs j v (s.modifyFrame i f) := by
    rintro s f ⟨cur', hcur', hv⟩
    exact ⟨cur', (List.getElem?_modify_ne _ _ (Ne.symm hj)).trans hcur', hv⟩
  have hstable : Stable client i fun st => MarkIs j v st.1 :=
    ⟨fun s _ _ hs => hmodify s _ hs, fun s _ _ hs => hmodify s _ hs,
      fun s _ c hs => hmarks c s j v hs⟩
  exact hstable.rxdispatchFrame cur _ _ _ hmark h

/-- A later turn does not change what has become of a frame. -/
theorem Turn.Outcome.later {turn : Turn} {cur' : AimFrame} (hclient : client.Calls Guard.any)
    (hj : j ≠ i) (hcur' : sess.queueIncoming[j]? = some cur') (houtcome : turn.Outcome client cur')
    (h : rxdispatchFrame client i cur (sess, []) = some ((), sess', calls)) :
    ∃ cur'', sess'.queueIncoming[j]? = some cur'' ∧ turn.Outcome client cur'' := by
  obtain ⟨cur'', hcur'', hlater⟩ := (rxdispatchFrame_grown hclient h).kept j cur' hcur'
  refine ⟨cur'', hcur'', hlater.ptr.trans houtcome.ptr, fun hzero hne hsettles => ?_,
    fun hmarks hzero hnot => ?_⟩
  · exact hlater.handled hj (houtcome.settled hzero hne hsettles)
  · obtain ⟨cur₃, hcur₃, hmark⟩ := rxdispatchFrame_leavesMarks hmarks hj
      ⟨cur', hcur', houtcome.unsettled hmarks hzero hnot⟩ h
    obtain rfl : cur'' = cur₃ := Option.some.inj (hcur''.symm.trans hcur₃)
    exact hmark

/-- What has become of the frame whose turn it was. -/
theorem Turn.Outcome.now (hclient : client.Calls Guard.any)
    (hcur : sess.queueIncoming[i]? = some cur)
    (h : rxdispatchFrame client i cur (sess, []) = some ((), sess', calls)) :
    (calls = if cur.handled = 0 then offer client.ret (candidates sess cur) else []) ∧
      ∃ cur', sess'.queueIncoming[i]? = some cur' ∧
        (⟨sess, cur, calls, sess'⟩ : Turn).Outcome client cur' := by
  by_cases hhandled : cur.handled = 0
  · obtain ⟨hcalls, cur', hcur', hptr, -, hmark⟩ :=
      rxdispatchFrame_unhandled hclient hcur hhandled h
    rw [if_pos hhandled]
    refine ⟨hcalls, cur', hcur', hptr, fun _ hne hsettles => (hmark hne).mpr hsettles,
      fun _ _ hnot => ?_⟩
    -- without handlers there is nothing to settle
    have hne : candidates sess cur ≠ [] := fun hnil => hnot fun _ hne => absurd hnil hne
    exact not_not.mp fun hv => hnot ((hmark hne).mp hv)
  · rw [rxdispatchFrame_of_handled hhandled] at h
    obtain ⟨rfl, rfl⟩ := Prod.mk.inj (Prod.mk.inj (Option.some.inj h)).2
    rw [if_neg hhandled]
    exact ⟨rfl, cur, hcur, rfl, fun hzero => absurd hzero hhandled,
      fun _ hzero => absurd hzero hhandled⟩

theorem Dispatched.pass (hclient : client.Calls Guard.any) (hs : Dispatched client s i sess turns)
    (hcur : sess.queueIncoming[i]? = some cur)
    (h : rxdispatchFrame client i cur (sess, []) = some ((), sess', calls)) :
    Dispatched client s (i + 1) sess' (turns ++ [⟨sess, cur, calls, sess'⟩]) := by
  obtain ⟨hcalls, cur', hcur', hnow⟩ := Turn.Outcome.now hclient hcur h
  refine ⟨?_, ?_, fun turn hturn => ?_, fun j turn hturn => ?_⟩
  · exact (hs.grown.mono fun j hj => Nat.lt_succ_of_lt hj).trans
      ((rxdispatchFrame_grown hclient h).mono fun j hj => hj ▸ Nat.lt_succ_self i)
  · rw [List.length_append, hs.length]
    rfl
  · rcases List.mem_append.mp hturn with hturn | hturn
    · exact hs.calls turn hturn
    · obtain rfl := List.mem_singleton.mp hturn
      exact hcalls
  · rcases Nat.lt_or_ge j turns.length with hlt | hge
    · obtain ⟨cur'', hcur'', houtcome⟩ :=
        hs.outcome j turn ((List.getElem?_append_left hlt).symm.trans hturn)
      exact houtcome.later hclient (fun hj => by rw [hs.length] at hlt; omega) hcur'' h
    · have hlast := (List.getElem?_append_right hge).symm.trans hturn
      obtain rfl := List.mem_singleton.mp (List.mem_of_getElem? hlast)
      have hj : j = i := by
        have hlt := (List.getElem?_eq_some_iff.mp hlast).1
        rw [List.length_singleton] at hlt
        rw [hs.length] at hge hlt
        omega
      exact hj ▸ ⟨cur', hcur', hnow⟩

/-- A dispatch ends with every frame having had its turn. -/
theorem aimRxdispatch_dispatched {fuel : Nat} (hclient : client.Calls Guard.any)
    (h : aimRxdispatch client fuel s = some (sess', turns)) :
    ∃ i sess, Dispatched client s i sess turns ∧ sess.queueIncoming[i]? = none ∧
      sess' = aimPurgeRxqueue sess :=
  aimRxdispatch_inv (fun _ _ _ _ _ _ hs hcur hframe => hs.pass hclient hcur hframe)
    ⟨.refl _ s, rfl, fun _ hturn => absurd hturn List.not_mem_nil,
      fun _ _ hturn => absurd (List.mem_of_getElem? hturn) List.not_mem_nil⟩ h

/-- The turns are those of the frames on the queue, in this order. -/
theorem Dispatched.turns_ptrs (h : Dispatched client s i sess turns)
    (hend : sess.queueIncoming[i]? = none) : turns.map (·.frame.ptr) = sess.ptrs := by
  refine List.ext_getElem? fun j => ?_
  rw [AimSession.ptrs, List.getElem?_map, List.getElem?_map]
  cases hturn : turns[j]? with
  | none =>
    have hle := h.length ▸ List.getElem?_eq_none_iff.mp hturn
    have hlen := List.getElem?_eq_none_iff.mp hend
    rw [List.getElem?_eq_none_iff.mpr (Nat.le_trans hlen hle)]
    rfl
  | some turn =>
    obtain ⟨cur, hcur, houtcome⟩ := h.outcome j turn hturn
    rw [hcur]
    exact congrArg some houtcome.ptr.symm

end Dispatch

/-! ## Over whole runs -/

section Runs

variable {s t : AimSession} {p : Nat}

/-- What holds while the receive queue grows and after a purge holds over whole runs. -/
theorem Run.inv_of_grown {P : AimSession → Prop}
    (hgrown : ∀ s t exempt, Grown exempt s t → P s → P t)
    (hpurge : ∀ s, P s → P (aimPurgeRxqueue s)) (h : Run Guard.any s t) (hs : P s) : P t := by
  induction h with
  | refl => exact hs
  | calls _ hcalls ih =>
    exact hcalls.steps.inv (fun _ _ hstep hu => hgrown _ _ _ (hstep.grown fun _ => False) hu) ih
  | purgeRxqueue _ ih => exact hpurge _ ih
  | rxdispatch _ hclient hdispatch _ ih =>
    obtain ⟨i, sess, hdone, -, rfl⟩ := aimRxdispatch_dispatched hclient hdispatch
    exact hpurge _ (hgrown _ _ _ hdone.grown ih)

theorem Run.distinct {modlistv : List AimModule} (h : Run Guard.any (aimSessionInit modlistv) s) :
    Distinct s :=
  h.inv_of_grown (fun _ _ _ hgrown hs => hs.grown hgrown) (fun _ hs => hs.purged)
    ⟨List.nodup_nil, fun _ hp => absurd hp List.not_mem_nil⟩

theorem Gone.run (h : Gone p s) (hrun : Run Guard.any s t) : Gone p t :=
  hrun.inv_of_grown (fun _ _ _ hgrown hs => hs.grown hgrown) (fun _ hs => hs.purged) h

end Runs

/-- The frames that were given to a handler are off the queue, and no dispatch comes to one of them
in any run that follows. -/
structure HandsOnce (s : AimSession) (turns : List Turn) : Prop where
  off : ∀ turn ∈ turns, turn.calls ≠ [] → turn.frame.ptr ∉ s.ptrs
  never : ∀ turn ∈ turns, turn.calls ≠ [] →
    ∀ u client fuel u' turns', Run Guard.any s u → Client.Calls Guard.any client →
      aimRxdispatch client fuel u = some (u', turns') →
        ∀ turn' ∈ turns', turn'.frame.ptr ≠ turn.frame.ptr

theorem Gone.not_dispatched {p : Nat} {s u u' : AimSession} {client : Client} {fuel : Nat}
    {turns : List Turn} (h : Gone p s) (hrun : Run Guard.any s u) (hclient : client.Calls Guard.any)
    (hdispatch : aimRxdispatch client fuel u = some (u', turns)) :
    ∀ turn ∈ turns, turn.frame.ptr ≠ p := by
  intro turn hturn hp
  obtain ⟨i, sess, hdone, hend, -⟩ := aimRxdispatch_dispatched hclient hdispatch
  have hgone := (h.run hrun).grown hdone.grown
  refine hgone.not_mem ?_
  rw [← hdone.turns_ptrs hend, ← hp]
  exact List.mem_map_of_mem hturn

section Once

variable {client : Client} {i : Nat} {s sess : AimSession} {turns : List Turn} {turn : Turn}

/-- A handed frame was not handled and had handlers. -/
theorem Dispatched.handed (h : Dispatched client s i sess turns) (hturn : turn ∈ turns)
    (hcalls : turn.calls ≠ []) :
    turn.frame.handled = 0 ∧ candidates turn.before turn.frame ≠ [] := by
  rw [h.calls turn hturn] at hcalls
  by_cases hzero : turn.frame.handled = 0
  · rw [if_pos hzero] at hcalls
    exact ⟨hzero, fun hnil => hcalls (offer_eq_nil_iff.mpr hnil)⟩
  · exact absurd (if_neg hzero) hcalls

/-- A handed frame that is settled is off the queue. -/
theorem Dispatched.off_of_settles (h : Dispatched client s i sess turns) (hs : Distinct s)
    (hturn : turn ∈ turns) (hcalls : turn.calls ≠ [])
    (hsettles : Settles client turn.before turn.frame) :
    Gone turn.frame.ptr (aimPurgeRxqueue sess) := by
  obtain ⟨hzero, hne⟩ := h.handed hturn hcalls
  obtain ⟨j, hj⟩ := List.getElem?_of_mem hturn
  obtain ⟨cur, hcur, houtcome⟩ := h.outcome j turn hj
  have hsess := hs.grown h.grown
  have hmem := List.mem_of_getElem? hcur
  refine ⟨hsess.lt _ (houtcome.ptr ▸ List.mem_map_of_mem hmem), fun hp => ?_⟩
  obtain ⟨fr, hfr, hptr⟩ := List.mem_map.mp hp
  obtain ⟨hfr, hhandled⟩ := List.mem_filter.mp hfr
  -- there is no other frame at this address
  obtain rfl := List.inj_on_of_nodup_map hsess.nodup hfr hmem (hptr.trans houtcome.ptr.symm)
  exact houtcome.settled hzero hne hsettles (of_decide_eq_true hhandled)

/-- Where marks are left alone, a handed frame that is not settled stays on the queue. -/
theorem Dispatched.mem_of_not_settles (h : Dispatched client s i sess turns)
    (hmarks : client.LeavesMarks) (hturn : turn ∈ turns) (hzero : turn.frame.handled = 0)
    (hnot : ¬ Settles client turn.before turn.frame) :
    turn.calls ≠ [] ∧ turn.frame.ptr ∈ (aimPurgeRxqueue sess).ptrs := by
  obtain ⟨j, hj⟩ := List.getElem?_of_mem hturn
  obtain ⟨cur, hcur, houtcome⟩ := h.outcome j turn hj
  constructor
  · rw [h.calls turn hturn, if_pos hzero]
    exact fun hnil => hnot fun _ hne => absurd (offer_eq_nil_iff.mp hnil) hne
  · rw [← houtcome.ptr]
    refine List.mem_map_of_mem (List.mem_filter.mpr ⟨List.mem_of_getElem? hcur, ?_⟩)
    exact decide_eq_true (houtcome.unsettled hmarks hzero hnot)

/-- Whatever the handlers return and do, the frames of the receive queue have their turns in the
order of arrival, and each one that is not handled is offered to its handlers. If each is settled
then those handed to a handler are off the queue for good, and only then, unless handlers mark
frames themselves. -/
theorem aimRxdispatch_handsOnce {fuel : Nat} {s' : AimSession} (hclient : client.Calls Guard.any)
    (hs : Distinct s) (h : aimRxdispatch client fuel s = some (s', turns)) :
    (∃ queue : List AimFrame, s'.queueIncoming = (queue.filter fun cur => cur.handled = 0) ∧
      turns.map (·.frame.ptr) = queue.map (·.ptr) ∧ s.ptrs <+: queue.map (·.ptr)) ∧
    (∀ turn ∈ turns, turn.calls =
      if turn.frame.handled = 0 then offer client.ret (candidates turn.before turn.frame) else []) ∧
    ((∀ turn ∈ turns, turn.frame.handled = 0 → Settles client turn.before turn.frame) →
      HandsOnce s' turns) ∧
    (client.LeavesMarks → HandsOnce s' turns →
      ∀ turn ∈ turns, turn.frame.handled = 0 → Settles client turn.before turn.frame) := by
  obtain ⟨i, sess, hdone, hend, rfl⟩ := aimRxdispatch_dispatched hclient h
  refine ⟨⟨sess.queueIncoming, rfl, hdone.turns_ptrs hend, ?_⟩, hdone.calls, fun hsettles => ?_,
    fun hmarks honce turn hturn hzero => ?_⟩
  · obtain ⟨new, hnew, -⟩ := hdone.grown.ptrs
    exact ⟨new, hnew.symm⟩
  · have hgone : ∀ turn ∈ turns, turn.calls ≠ [] → Gone turn.frame.ptr (aimPurgeRxqueue sess) :=
      fun turn hturn hcalls => hdone.off_of_settles hs hturn hcalls
        (hsettles turn hturn (hdone.handed hturn hcalls).1)
    refine ⟨fun turn hturn hcalls => (hgone turn hturn hcalls).not_mem, ?_⟩
    intro turn hturn hcalls u client' fuel' u' turns' hrun hclient' hdispatch
    exact (hgone turn hturn hcalls).not_dispatched hrun hclient' hdispatch
  · by_contra hnot
    obtain ⟨hcalls, hmem⟩ := hdone.mem_of_not_settles hmarks hturn hzero hnot
    exact honce.off turn hturn hcalls hmem

end Once

section Example

/-- A client whose handlers all return the same and do nothing. -/
def idleClient (r : Int) : Client where
  ret := fun _ => r
  effect := fun _ sess => sess

theorem idleClient_calls (r : Int) : (idleClient r).Calls Guard.any := fun _ sess => .refl sess

/-- A connection with a callback for FLAP version frames, and one such frame on the queue. -/
def versionSession : AimSession :=
  let sess := (aimNewconn (aimSessionInit []) aimConnTypeAuth (.connected 3 0)).2
  let sess := (aimConnAddhandler sess 1 aimCbFamSpecial aimCbSpecialFlapver (some (.client 0)) 0).2
  { sess with queueIncoming := [⟨2, .flap 0x01 1, ⟨[0, 0, 0, 1], 0⟩, 0, 1⟩], heap := 3 }

theorem versionSession_distinct : Distinct versionSession :=
  ⟨List.pairwise_singleton _ _, fun _ hp => List.mem_singleton.mp hp ▸ Nat.lt_succ_self 2⟩

/-- The callback returns 1. -/
theorem aimRxdispatch_handsOnce_version :
    ∃ s turns, aimRxdispatch (idleClient 1) 2 versionSession = some (s, turns) ∧
      HandsOnce s turns := by
  obtain ⟨⟨s, turns⟩, hdispatch⟩ : ∃ r, aimRxdispatch (idleClient 1) 2 versionSession = some r :=
    Option.isSome_iff_exists.mp (by decide)
  have honce := aimRxdispatch_handsOnce (idleClient_calls 1) versionSession_distinct hdispatch
  exact ⟨s, turns, hdispatch, honce.2.2.1 fun _ _ _ => settles_of_forall RxCall.settled_one _ _⟩

/-- The callback returns 256, or zero: the frame is handed to it, and stays on the queue. -/
theorem aimRxdispatch_hands_again :
    ¬ ∀ (r : Int) (s : AimSession) (turns : List Turn),
      aimRxdispatch (idleClient r) 2 versionSession = some (s, turns) → HandsOnce s turns := by
  intro h
  obtain ⟨⟨s, turns⟩, hdispatch⟩ : ∃ r, aimRxdispatch (idleClient 256) 2 versionSession = some r :=
    Option.isSome_iff_exists.mp (by decide)
  have hturns : (aimRxdispatch (idleClient 256) 2 versionSession).map (fun r =>
      (r.1.ptrs, r.2.map fun turn => (turn.frame.ptr, turn.calls))) =
        some ([2], [(2, [(.flapver 0 2, 256)])]) := by decide
  rw [hdispatch] at hturns
  obtain ⟨hptrs, hcalls⟩ := Prod.mk.inj (Option.some.inj hturns)
  have hmem : (2, [(RxCall.flapver 0 2, (256 : Int))]) ∈
      turns.map fun turn => (turn.frame.ptr, turn.calls) := hcalls ▸ List.mem_singleton_self _
  obtain ⟨turn, hturn, hfields⟩ := List.mem_map.mp hmem
  obtain ⟨hptr, hcalls⟩ := Prod.mk.inj hfields
  refine (h 256 s turns hdispatch).off turn hturn (hcalls ▸ List.cons_ne_nil _ _) ?_
  rw [hptr]
  exact (congrArg (2 ∈ ·) hptrs).mpr (List.mem_singleton_self 2)

end Example

end Libfaim
