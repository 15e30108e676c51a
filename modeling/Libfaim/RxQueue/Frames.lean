import Libfaim.Conn.Rules
import Libfaim.TxQueue.Rules
import Libfaim.Run

/-!
# What becomes of received frames

Between two purges the receive queue only grows (`Grown`): a frame stays in its place, with its
address, header and connection, and a mark on it is not taken back; new frames come to the end, at
fresh addresses. The dispatcher's own writing of marks is excepted.
-/

namespace Libfaim

/-- The addresses of the frames on the receive queue. -/
def AimSession.ptrs (s : AimSession) : List Nat := s.queueIncoming.map (·.ptr)

/-- A frame later on: its data may have been read and a mark put on it. -/
structure AimFrame.Later (exempt : Prop) (cur cur' : AimFrame) : Prop where
  ptr : cur'.ptr = cur.ptr
  hdr : cur'.hdr = cur.hdr
  conn : cur'.conn = cur.conn
  handled : ¬ exempt → cur.handled ≠ 0 → cur'.handled ≠ 0

/-- The receive queue of `t` is that of `s` later on. The marks of the exempt positions may be
taken back. -/
structure Grown (exempt : Nat → Prop) (s t : AimSession) : Prop where
  modlistv : t.modlistv = s.modlistv
  heap : s.heap ≤ t.heap
  kept : ∀ (i : Nat) (cur : AimFrame), s.queueIncoming[i]? = some cur →
    ∃ cur', t.queueIncoming[i]? = some cur' ∧ cur.Later (exempt i) cur'
  ptrs : ∃ new, t.ptrs = s.ptrs ++ new ∧ new.Nodup ∧ ∀ p ∈ new, s.heap ≤ p ∧ p < t.heap

section Grown

variable {exempt : Nat → Prop} {s t u : AimSession}

theorem AimFrame.Later.refl (p : Prop) (cur : AimFrame) : cur.Later p cur :=
  ⟨rfl, rfl, rfl, fun _ h => h⟩

/-- The same frames in the same places. -/
theorem Grown.same (hqueue : t.queueIncoming = s.queueIncoming) (hmod : t.modlistv = s.modlistv)
    (hheap : s.heap ≤ t.heap) : Grown exempt s t := by
  refine ⟨hmod, hheap, fun i cur hcur => ⟨cur, hqueue ▸ hcur, .refl _ cur⟩, [], ?_, List.nodup_nil,
    fun p hp => absurd hp List.not_mem_nil⟩
  rw [AimSession.ptrs, hqueue, List.append_nil]
  rfl

theorem Grown.refl (exempt : Nat → Prop) (s : AimSession) : Grown exempt s s :=
  .same rfl rfl (Nat.le_refl _)

theorem Grown.trans (h : Grown exempt s t) (h' : Grown exempt t u) : Grown exempt s u := by
  obtain ⟨new, hnew, hnodup, hfresh⟩ := h.ptrs
  obtain ⟨new', hnew', hnodup', hfresh'⟩ := h'.ptrs
  refine ⟨h'.modlistv.trans h.modlistv, Nat.le_trans h.heap h'.heap, fun i cur hcur => ?_,
    new ++ new', ?_, ?_, fun p hp => ?_⟩
  · obtain ⟨cur', hcur', hlater⟩ := h.kept i cur hcur
    obtain ⟨cur'', hcur'', hlater'⟩ := h'.kept i cur' hcur'
    exact ⟨cur'', hcur'', hlater'.ptr.trans hlater.ptr, hlater'.hdr.trans hlater.hdr,
      hlater'.conn.trans hlater.conn, fun hne hmark => hlater'.handled hne (hlater.handled hne hmark)⟩
  · rw [hnew', hnew, List.append_assoc]
  · refine List.nodup_append.mpr ⟨hnodup, hnodup', fun p hp q hq => ?_⟩
    have hlt := (hfresh p hp).2
    have hle := (hfresh' q hq).1
    omega
  · have hheap := h.heap
    have hheap' := h'.heap
    rcases List.mem_append.mp hp with hp | hp
    · exact ⟨(hfresh p hp).1, Nat.lt_of_lt_of_le (hfresh p hp).2 hheap'⟩
    · exact ⟨Nat.le_trans hheap (hfresh' p hp).1, (hfresh' p hp).2⟩

theorem Grown.mono {exempt' : Nat → Prop} (h : Grown exempt s t) (hsub : ∀ i, exempt i → exempt' i) :
    Grown exempt' s t := by
  refine ⟨h.modlistv, h.heap, fun i cur hcur => ?_, h.ptrs⟩
  obtain ⟨cur', hcur', hlater⟩ := h.kept i cur hcur
  exact ⟨cur', hcur', hlater.ptr, hlater.hdr, hlater.conn,
    fun hne => hlater.handled fun he => hne (hsub i he)⟩

/-- Every frame is changed in place. -/
theorem Grown.map {f : AimFrame → AimFrame}
    (hf : ∀ (i : Nat) (cur : AimFrame), cur.Later (exempt i) (f cur))
    (hqueue : t.queueIncoming = s.queueIncoming.map f) (hmod : t.modlistv = s.modlistv)
    (hheap : t.heap = s.heap) : Grown exempt s t := by
  refine ⟨hmod, Nat.le_of_eq hheap.symm, fun i cur hcur => ⟨f cur, ?_, hf i cur⟩, [], ?_,
    List.nodup_nil, fun p hp => absurd hp List.not_mem_nil⟩
  · rw [hqueue, List.getElem?_map, hcur]
    rfl
  · rw [AimSession.ptrs, hqueue, List.map_map, List.append_nil]
    exact List.map_congr_left fun cur _ => (hf 0 cur).ptr

/-- The frame at one position is changed in place. -/
theorem Grown.modifyFrame {i : Nat} {f : AimFrame → AimFrame}
    (hf : ∀ cur : AimFrame, cur.Later (exempt i) (f cur)) : Grown exempt s (s.modifyFrame i f) := by
  refine ⟨rfl, Nat.le_refl _, fun j cur hcur => ?_, [], ?_, List.nodup_nil,
    fun p hp => absurd hp List.not_mem_nil⟩
  · by_cases hj : i = j
    · subst hj
      exact ⟨f cur, by rw [AimSession.modifyFrame, List.getElem?_modify_eq, hcur]; rfl, hf cur⟩
    · exact ⟨cur, by rw [AimSession.modifyFrame, List.getElem?_modify_ne _ _ hj, hcur],
        .refl _ cur⟩
  · rw [List.append_nil, AimSession.ptrs, AimSession.ptrs]
    refine List.ext_getElem? fun j => ?_
    rw [List.getElem?_map, List.getElem?_map, AimSession.modifyFrame, List.getElem?_modify]
    cases s.queueIncoming[j]? with
    | none => rfl
    | some cur =>
      by_cases hj : i = j
      · simp [hj, (hf cur).ptr]
      · simp [hj]

/-- A frame at a fresh address comes to the end. -/
theorem Grown.append {cur : AimFrame} (hqueue : t.queueIncoming = s.queueIncoming ++ [cur])
    (hptr : cur.ptr = s.heap) (hmod : t.modlistv = s.modlistv) (hheap : t.heap = s.heap + 1) :
    Grown exempt s t := by
  refine ⟨hmod, by omega, fun i cur' hcur' => ⟨cur', ?_, .refl _ cur'⟩, [cur.ptr], ?_,
    List.pairwise_singleton _ _, fun p hp => ?_⟩
  · have hlt := (List.getElem?_eq_some_iff.mp hcur').1
    rw [hqueue, List.getElem?_append_left hlt, hcur']
  · rw [AimSession.ptrs, hqueue, List.map_append]
    rfl
  · obtain rfl := List.mem_singleton.mp hp
    omega

theorem Killed.grown {dead connlist : List ConnPtr}
    (h : Killed dead { s with connlist := connlist } t) : Grown exempt s t := by
  obtain ⟨⟨conn, rfl⟩, -⟩ := h
  refine Grown.map (f := markReceived dead) (fun i cur => ?_) rfl rfl rfl
  by_cases hmark : cur.handled = 0 ∧ cur.conn ∈ dead
  · rw [markReceived_pos hmark]
    exact ⟨rfl, rfl, rfl, fun _ _ => by simp⟩
  · rw [markReceived_neg hmark]
    exact .refl _ cur

end Grown

/-- No step takes a frame off the receive queue, moves one or takes a mark back. -/
theorem Step.grown {ok : Guard} {s t : AimSession} (h : Step ok s t) (exempt : Nat → Prop) :
    Grown exempt s t := by
  cases h with
  | newconn type outcome =>
    obtain ⟨conn, -, heq⟩ := aimNewconn_eq s type outcome
    exact heq ▸ .same rfl rfl (Nat.le_succ _)
  | addhandler family type handler flags hc =>
    unfold aimConnAddhandler
    split
    · exact .refl _ s
    · split
      · exact .refl _ s
      · exact .same rfl rfl (Nat.le_refl _)
  | clearhandlers hc hok => exact .same rfl rfl (Nat.le_refl _)
  | setenqueue what func hok =>
    obtain ⟨txEnqueue, heq, -⟩ := aimTxSetenqueue_eq s what func
    exact heq ▸ .same rfl rfl (Nat.le_refl _)
  | enqueue hfr hok =>
    refine aimTxEnqueue_cases hfr (.refl _ s) (fun fr' _ _ => ?_) fun _ _ _ _ => ?_
    · obtain ⟨conn, heq, -⟩ := pushOutgoing_eq s fr'
      exact heq ▸ .same rfl rfl (Nat.le_refl _)
    · obtain ⟨conn, heq, -⟩ := sendNow_eq s _
      exact heq ▸ .same rfl rfl (Nat.le_refl _)
  | flushqueue =>
    obtain ⟨wire, heq, -⟩ := aimTxFlushqueue_eq s
    exact heq ▸ .same rfl rfl (Nat.le_refl _)
  | purgequeue => exact .same rfl rfl (Nat.le_refl _)
  | close hc => exact .same rfl rfl (Nat.le_refl _)
  | kill c => exact aimConnKill_cases (.refl _ s) fun _ hkilled => hkilled.grown
  | logoff => exact (aimLogoff_killed s).grown
  | established hc => exact .same rfl rfl (Nat.le_refl _)
  | receive type seqnum data hc => exact .append rfl rfl rfl rfl
  | read i data => exact .modifyFrame fun cur => ⟨rfl, rfl, rfl, fun _ h => h⟩

theorem Client.Calls.grown {ok : Guard} {client : Client} (h : client.Calls ok)
    (exempt : Nat → Prop) (c : RxCall) (s : AimSession) : Grown exempt s (client.effect c s) :=
  (h c s).steps.inv (P := Grown exempt s)
    (fun _ _ hstep hs => hs.trans (hstep.grown exempt)) (.refl _ s)

end Libfaim
