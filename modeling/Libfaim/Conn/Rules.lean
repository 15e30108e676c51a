import Libfaim.Conn

/-!
# What closing and killing connections does

Killing connections marks their frames handled in both queues and leaves every other frame as it is
(`Killed`). `aim_conn_kill` and `aim_logoff` do this to one connection and to all of them.
-/

namespace Libfaim

/-! ## Opening -/

/-- A new connection is at a fresh address, at the front of the list, and has sent nothing yet. -/
theorem aimNewconn_eq (s : AimSession) (type : UInt16) (outcome : ConnectOutcome) :
    ∃ conn : AimConn, conn.seqnum = 0 ∧
      (aimNewconn s type outcome).2 =
        { s with
          connlist := s.heap :: s.connlist
          conn := Function.update s.conn s.heap conn
          heap := s.heap + 1 } := by
  refine ⟨(aimNewconn s type outcome).2.conn s.heap, ?_, ?_⟩
  · cases outcome <;> simp [aimNewconn, aimConnGetnext, AimSession.setConn, aimConnInit]
  · cases outcome <;> simp [aimNewconn, aimConnGetnext, AimSession.setConn]

/-! ## Marks -/

/-- `handled = 1` for every frame of some connections, as in `aim_tx_cleanqueue`. -/
def markSent (dead : List ConnPtr) (cur : AimFrame) : AimFrame :=
  if cur.conn ∈ dead then { cur with handled := 1 } else cur

/-- `handled = 1` for the frames of some connections that are not handled yet, as in
`aim_rxqueue_cleanbyconn`. -/
def markReceived (dead : List ConnPtr) (currx : AimFrame) : AimFrame :=
  if currx.handled = 0 ∧ currx.conn ∈ dead then { currx with handled := 1 } else currx

section Marks

variable (dead dead' : List ConnPtr) (cur : AimFrame)

theorem markSent_append : markSent dead' (markSent dead cur) = markSent (dead ++ dead') cur := by
  simp only [markSent, List.mem_append]
  by_cases h : cur.conn ∈ dead <;> simp [h]

variable {dead dead' cur}

theorem markSent_pos (h : cur.conn ∈ dead) : markSent dead cur = { cur with handled := 1 } :=
  if_pos h

theorem markSent_neg (h : cur.conn ∉ dead) : markSent dead cur = cur := if_neg h

theorem markReceived_pos (h : cur.handled = 0 ∧ cur.conn ∈ dead) :
    markReceived dead cur = { cur with handled := 1 } :=
  if_pos h

theorem markReceived_neg (h : ¬ (cur.handled = 0 ∧ cur.conn ∈ dead)) :
    markReceived dead cur = cur :=
  if_neg h

variable (dead dead' cur)

theorem markReceived_append :
    markReceived dead' (markReceived dead cur) = markReceived (dead ++ dead') cur := by
  by_cases h : cur.handled = 0 ∧ cur.conn ∈ dead
  · rw [markReceived_pos h, markReceived_pos ⟨h.1, List.mem_append_left _ h.2⟩]
    exact markReceived_neg fun h' => absurd h'.1 (by simp)
  · rw [markReceived_neg h]
    by_cases h' : cur.handled = 0 ∧ cur.conn ∈ dead'
    · rw [markReceived_pos h', markReceived_pos ⟨h'.1, List.mem_append_right _ h'.2⟩]
    · rw [markReceived_neg h', markReceived_neg]
      rintro ⟨hhandled, hmem⟩
      rcases List.mem_append.mp hmem with hmem | hmem
      · exact h ⟨hhandled, hmem⟩
      · exact h' ⟨hhandled, hmem⟩

@[simp] theorem markSent_conn : (markSent dead cur).conn = cur.conn := by
  unfold markSent
  split <;> rfl

@[simp] theorem markSent_hdr : (markSent dead cur).hdr = cur.hdr := by
  unfold markSent
  split <;> rfl

theorem markSent_nil : markSent [] = id := by
  funext cur
  rw [markSent, if_neg List.not_mem_nil, id]

theorem markReceived_nil : markReceived [] = id := by
  funext cur
  rw [markReceived, if_neg fun h => List.not_mem_nil h.2, id]

end Marks

/-- Some connections are closed, and the frames of the `dead` ones are marked. -/
structure Killed (dead : List ConnPtr) (s t : AimSession) : Prop where
  eq : ∃ conn, t =
    { s with
      conn := conn
      queueOutgoing := s.queueOutgoing.map (markSent dead)
      queueIncoming := s.queueIncoming.map (markReceived dead) }
  status : ∀ d, (t.conn d).status = (s.conn d).status
  seqnum : ∀ d, (t.conn d).seqnum = (s.conn d).seqnum

section Killed

variable {dead dead' : List ConnPtr} {s t u : AimSession}

theorem Killed.trans (h : Killed dead s t) (h' : Killed dead' t u) :
    Killed (dead ++ dead') s u := by
  obtain ⟨⟨conn, heq⟩, hstatus, hseqnum⟩ := h
  obtain ⟨⟨conn', heq'⟩, hstatus', hseqnum'⟩ := h'
  refine ⟨⟨conn', ?_⟩, fun d => (hstatus' d).trans (hstatus d),
    fun d => (hseqnum' d).trans (hseqnum d)⟩
  rw [heq', heq]
  simp only [List.map_map, Function.comp_def, markSent_append, markReceived_append]

theorem aimConnClose_killed (s : AimSession) (c : ConnPtr) : Killed [] s (aimConnClose s c) := by
  refine ⟨⟨(aimConnClose s c).conn, ?_⟩, fun d => ?_, fun d => ?_⟩
  · rw [markSent_nil, markReceived_nil, List.map_id, List.map_id]
    rfl
  · rw [aimConnClose, AimSession.setConn_conn]
    by_cases hd : d = c
    · rw [if_pos hd, hd]
    · rw [if_neg hd]
  · rw [aimConnClose, AimSession.setConn_conn]
    by_cases hd : d = c
    · rw [if_pos hd, hd]
    · rw [if_neg hd]

theorem connkillReal_killed (s : AimSession) (c : ConnPtr) : Killed [c] s (connkillReal s c) := by
  have hmarks : Killed [c] s (aimTxCleanqueue (aimRxqueueCleanbyconn s c) c) := by
    have hsent : markSent [c] = fun cur =>
        if cur.conn = c then { cur with handled := 1 } else cur := by
      funext cur
      simp only [markSent, List.mem_singleton]
    have hreceived : markReceived [c] = fun currx =>
        if currx.handled = 0 ∧ currx.conn = c then { currx with handled := 1 } else currx := by
      funext currx
      simp only [markReceived, List.mem_singleton]
    refine ⟨⟨s.conn, ?_⟩, fun _ => rfl, fun _ => rfl⟩
    rw [hsent, hreceived]
    rfl
  unfold connkillReal
  dsimp only
  split
  · exact hmarks.trans (aimConnClose_killed _ c)
  · exact hmarks

theorem aimConnrstLoop_killed (l : List ConnPtr) (s : AimSession) :
    Killed l s (aimConnrstLoop l s) := by
  induction l generalizing s with
  | nil =>
    refine ⟨⟨s.conn, ?_⟩, fun _ => rfl, fun _ => rfl⟩
    rw [markSent_nil, markReceived_nil, List.map_id, List.map_id]
    rfl
  | cons cur next ih =>
    exact ((aimConnClose_killed s cur).trans (connkillReal_killed _ cur)).trans (ih _)

theorem aimConnKill_killed {c : ConnPtr} (hne : c ≠ 0) (hc : c ∈ s.connlist) :
    Killed [c] { s with connlist := s.connlist.erase c } (aimConnKill s c) := by
  rw [aimConnKill, if_neg (not_or.mpr ⟨hne, not_not_intro hc⟩)]
  exact connkillReal_killed _ c

/-- `aim_conn_kill` does nothing for a connection that is not on the list. -/
theorem aimConnKill_cases {P : AimSession → Prop} {c : ConnPtr} (hnone : P s)
    (hkill : c ∈ s.connlist → Killed [c] { s with connlist := s.connlist.erase c }
      (aimConnKill s c) → P (aimConnKill s c)) : P (aimConnKill s c) := by
  by_cases h : c = 0 ∨ c ∉ s.connlist
  · rw [aimConnKill, if_pos h]
    exact hnone
  · obtain ⟨hne, hc⟩ := not_or.mp h
    exact hkill (not_not.mp hc) (aimConnKill_killed hne (not_not.mp hc))

theorem aimLogoff_killed (s : AimSession) :
    Killed s.connlist { s with connlist := [] } (aimLogoff s) := by
  obtain ⟨⟨conn, heq⟩, hstatus, hseqnum⟩ := aimConnrstLoop_killed s.connlist s
  refine ⟨⟨conn, ?_⟩, hstatus, hseqnum⟩
  rw [aimLogoff, aimConnrst, heq]

end Killed

end Libfaim
