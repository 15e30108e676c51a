import Libfaim.TxQueue.Order

/-!
# Delivery in queued mode

In queued mode each connection is served as an outbox: its frames are written in the order in which
they were enqueued, each once; a flush writes all that waits for a connection that is established,
and nothing for one in progress; a connection that was killed is never written to again.
-/

namespace Libfaim

open Outbox (Fifo)

/-- The queue mode stays as it is in the beginning. -/
def Guard.queuedMode : Guard := { Guard.any with setenqueue := fun what => what = aimTxQueued }

/-- All frames of a connection. -/
abbrev frameStream (c : ConnPtr) : Stream := ⟨c, false⟩

theorem frameStream_includes {c : ConnPtr} {fr : AimFrame} :
    (frameStream c).Includes fr ↔ fr.conn = c :=
  ⟨fun h => h.1, fun h => ⟨h, fun h => nomatch h⟩⟩

theorem outbox_written (s : AimSession) (c : ConnPtr) :
    (s.outbox (frameStream c)).written = s.framesWritten c := by
  simp only [AimSession.outbox, AimSession.framesWritten, frameStream_includes]

theorem outbox_accepted (s : AimSession) (c : ConnPtr) :
    (s.outbox (frameStream c)).accepted = s.framesEnqueued c := by
  simp only [AimSession.outbox, AimSession.framesEnqueued, frameStream_includes]

/-- The frames of a connection on the queue that are still to be written. -/
def AimSession.framesQueued (s : AimSession) (c : ConnPtr) : List AimFrame :=
  s.queueOutgoing.filter fun fr => fr.handled = 0 ∧ fr.conn = c

theorem outbox_waiting (s : AimSession) (c : ConnPtr) :
    (s.outbox (frameStream c)).waiting = s.framesQueued c := by
  simp only [AimSession.outbox, AimSession.framesQueued, frameStream_includes]

/-- What runs in queued mode keep true. -/
structure Delivering (s : AimSession) : Prop where
  wellListed : WellListed s
  mode : s.txEnqueue = .queuebased
  fifo : ∀ c, Fifo (s.outbox (frameStream c))
  inprogress : ∀ c ∈ s.connlist, (s.conn c).Inprogress → s.framesWritten c = []
  wireSent : WireSent s

section Step

variable {s t : AimSession}

theorem Delivering.txOutbox (h : Delivering s) (hstep : TxStep Guard.queuedMode s t) (c : ConnPtr) :
    Outbox.Step (s.outbox (frameStream c)) (t.outbox (frameStream c)) :=
  hstep.outbox h.wellListed (h.fifo c) fun _ _ _ himmediate =>
    absurd (h.mode.symm.trans himmediate) (by simp)

theorem Delivering.txMode (h : Delivering s) (hstep : TxStep Guard.queuedMode s t) :
    t.txEnqueue = .queuebased := by
  cases hstep with
  | same hsame => exact hsame.txEnqueue.trans h.mode
  | opened conn _ => exact h.mode
  | mode what func hok =>
    obtain ⟨txEnqueue, heq, hmode⟩ := aimTxSetenqueue_eq s what func
    rw [heq]
    exact hmode hok
  | queued fr _ =>
    obtain ⟨conn, heq, -⟩ := pushOutgoing_eq s fr
    exact heq ▸ h.mode
  | sent fr =>
    obtain ⟨conn, heq, -⟩ := sendNow_eq s fr
    exact heq ▸ h.mode
  | flushed =>
    obtain ⟨wire, heq, -⟩ := aimTxFlushqueue_eq s
    exact heq ▸ h.mode
  | purged => exact h.mode
  | killed dead connlist _ _ hkilled =>
    obtain ⟨⟨conn, rfl⟩, -⟩ := hkilled
    exact h.mode

/-- Nothing is written on a connection in progress. -/
theorem Delivering.txInprogress (h : Delivering s) (hstep : TxStep Guard.queuedMode s t)
    {c : ConnPtr} (hc : c ∈ t.connlist) (hprogress : (t.conn c).Inprogress) :
    t.framesWritten c = [] := by
  cases hstep with
  | same hsame =>
    rw [AimSession.framesWritten, hsame.history]
    exact h.inprogress c (hsame.connlist ▸ hc) (hsame.inprogress c hprogress)
  | opened conn _ =>
    by_cases hheap : c = s.heap
    · have hnil := (h.fifo c).accepted_eq_nil (hheap ▸ phase_heap h.wellListed)
      have hprefix := (h.fifo c).written_isPrefix
      rw [hnil, outbox_written] at hprefix
      exact List.prefix_nil.mp hprefix
    · have hmem := (List.mem_cons.mp hc).resolve_left hheap
      have hconn : Function.update s.conn s.heap conn c = s.conn c := Function.update_of_ne hheap _ _
      exact h.inprogress c hmem (hconn ▸ hprogress)
  | mode what func _ =>
    obtain ⟨txEnqueue, heq, -⟩ := aimTxSetenqueue_eq s what func
    rw [heq] at hc hprogress ⊢
    exact h.inprogress c hc hprogress
  | queued fr _ =>
    obtain ⟨conn, heq, hstatus, -⟩ := pushOutgoing_eq s fr
    rw [heq] at hc hprogress ⊢
    refine h.inprogress c hc ?_
    rw [AimConn.Inprogress, ← hstatus c]
    exact hprogress
  | sent fr _ _ _ himmediate => exact absurd (h.mode.symm.trans himmediate) (by simp)
  | flushed =>
    obtain ⟨wire, heq, -⟩ := aimTxFlushqueue_eq s
    rw [heq] at hc hprogress
    have hsame := outbox_flushed_of_held (s := s) (σ := frameStream c)
      ⟨h.wellListed.ne_null c hc, hprogress⟩
    rw [← outbox_written, hsame, outbox_written]
    exact h.inprogress c hc hprogress
  | purged => exact h.inprogress c hc hprogress
  | killed dead connlist hsub _ hkilled =>
    obtain ⟨⟨conn, rfl⟩, hstatus, -⟩ := hkilled
    refine h.inprogress c (hsub.subset hc) ?_
    have hstatus' := hstatus c
    rw [AimConn.Inprogress, ← hstatus']
    exact hprogress

theorem Delivering.step (h : Delivering s) (hstep : Step Guard.queuedMode s t) : Delivering t := by
  have htx := hstep.txStep h.wellListed.nodup
  exact ⟨h.wellListed.step htx, h.txMode htx, fun c => (h.fifo c).step (h.txOutbox htx c),
    fun c => h.txInprogress htx, h.wireSent.step htx⟩

theorem Delivering.queueIncoming (h : Delivering s) (queue : List AimFrame) :
    Delivering { s with queueIncoming := queue } :=
  ⟨h.wellListed.queueIncoming queue, h.mode, h.fifo, h.inprogress, h.wireSent⟩

theorem delivering_init (modlistv : List AimModule) : Delivering (aimSessionInit modlistv) :=
  ⟨wellListed_init, rfl, fun _ => fifo_init _, fun _ hc => absurd hc List.not_mem_nil,
    wireSent_init⟩

theorem Delivering.run (h : Delivering s) (hrun : Run Guard.queuedMode s t) : Delivering t :=
  hrun.inv (fun _ _ hstep hs => hs.step hstep) (fun _ _ hs => hs.queueIncoming _) h

end Step

/-! ## Flushing -/

section Flush

variable {s : AimSession} {c : ConnPtr}

/-- A flush writes all that was enqueued on a connection that is established. -/
theorem Delivering.flush_written (h : Delivering s) (hc : c ∈ s.connlist)
    (hprogress : ¬ (s.conn c).Inprogress) :
    (aimTxFlushqueue s).framesWritten c = s.framesEnqueued c := by
  have hflush := outbox_flushed_of_not_held (s := s) (σ := frameStream c) fun hheld =>
    hprogress hheld.2
  rw [← outbox_written, hflush, ← outbox_accepted]
  exact (h.fifo c).written_append_waiting (phase_live hc)

theorem flush_off_queue (hprogress : ¬ (s.conn c).Inprogress) :
    ∀ fr ∈ (aimTxFlushqueue s).queueOutgoing, fr.conn ≠ c := by
  obtain ⟨wire, heq, -⟩ := aimTxFlushqueue_eq s
  rw [heq]
  intro fr hfr hconn
  obtain ⟨-, -, hheld⟩ := of_decide_eq_true (List.mem_filter.mp hfr).2
  exact hprogress (hconn ▸ hheld)

/-- On a connection in progress everything enqueued is still on the queue. -/
theorem Delivering.queued_of_inprogress (h : Delivering s) (hc : c ∈ s.connlist)
    (hprogress : (s.conn c).Inprogress) : s.framesQueued c = s.framesEnqueued c := by
  have hall := (h.fifo c).written_append_waiting (phase_live hc)
  rw [outbox_written, h.inprogress c hc hprogress, List.nil_append, outbox_waiting,
    outbox_accepted] at hall
  exact hall

end Flush

/-! ## Killing -/

section Kill

variable {s t : AimSession} {c : ConnPtr}

theorem Delivering.kill_phase (h : Delivering s) (hc : c ∈ s.connlist) :
    (aimConnKill s c).phase c = .closed := by
  obtain ⟨conn, heq⟩ := (aimConnKill_killed (h.wellListed.ne_null c hc) hc).eq
  rw [heq]
  exact phase_closed (h.wellListed.nodup.not_mem_erase) (h.wellListed.lt c hc)

theorem Delivering.kill_written (h : Delivering s) (hc : c ∈ s.connlist) :
    (aimConnKill s c).framesWritten c = s.framesWritten c := by
  obtain ⟨conn, heq⟩ := (aimConnKill_killed (h.wellListed.ne_null c hc) hc).eq
  rw [heq]
  rfl

/-- Nothing more is written on a connection that is gone. -/
theorem Delivering.written_of_closed (h : Delivering s) (hphase : s.phase c = .closed)
    (hrun : Run Guard.queuedMode s t) : t.framesWritten c = s.framesWritten c := by
  have hinv := hrun.inv (P := fun u =>
    Delivering u ∧ u.phase c = .closed ∧ u.framesWritten c = s.framesWritten c) ?_ ?_
    ⟨h, hphase, rfl⟩
  · exact hinv.2.2
  · rintro u v hstep ⟨hu, hclosed, hwritten⟩
    have hout := hu.txOutbox (hstep.txStep hu.wellListed.nodup) c
    have hwaiting := (hu.fifo c).waiting_eq_nil fun hlive =>
      absurd (hclosed.symm.trans hlive) (by simp)
    obtain ⟨hphase', -, hsame⟩ := hout.closed hclosed hwaiting
    rw [outbox_written, outbox_written] at hsame
    exact ⟨hu.step hstep, hphase', hsame.trans hwritten⟩
  · rintro u queue ⟨hu, hclosed, hwritten⟩
    exact ⟨hu.queueIncoming queue, hclosed, hwritten⟩

end Kill

/-- In queued mode the frames written on a connection are the first of those enqueued on it; a
flush writes the rest for every connection on the list that is established; for one in progress
they all stay on the queue; and a killed connection is not written to any more. -/
theorem framesWritten_fifo {modlistv : List AimModule} {s : AimSession}
    (h : Run Guard.queuedMode (aimSessionInit modlistv) s) :
    (∀ c, s.wire c = (s.framesWritten c).flatMap AimFrame.bytes ∧
      s.framesWritten c <+: s.framesEnqueued c) ∧
    (∀ c ∈ s.connlist, ¬ (s.conn c).Inprogress →
      (aimTxFlushqueue s).framesWritten c = s.framesEnqueued c ∧
        ∀ fr ∈ (aimTxFlushqueue s).queueOutgoing, fr.conn ≠ c) ∧
    (∀ c ∈ s.connlist, (s.conn c).Inprogress →
      s.framesWritten c = [] ∧ s.framesQueued c = s.framesEnqueued c) ∧
    (∀ c ∈ s.connlist, ∀ t, Run Guard.queuedMode (aimConnKill s c) t →
      t.framesWritten c = s.framesWritten c) := by
  have hs : Delivering s := (delivering_init modlistv).run h
  refine ⟨fun c => ⟨hs.wireSent c, ?_⟩, fun c hc hprogress => ?_, fun c hc hprogress => ?_,
    fun c hc t hrun => ?_⟩
  · rw [← outbox_written, ← outbox_accepted]
    exact (hs.fifo c).written_isPrefix
  · exact ⟨hs.flush_written hc hprogress, flush_off_queue hprogress⟩
  · exact ⟨hs.inprogress c hc hprogress, hs.queued_of_inprogress hc hprogress⟩
  · have hkill : Delivering (aimConnKill s c) := hs.step (.kill c)
    exact (hkill.written_of_closed (hs.kill_phase hc) hrun).trans (hs.kill_written hc)

/-- A frame enqueued on a connection in progress. -/
theorem framesWritten_fifo_inprogress :
    let c : ConnPtr := 1
    let s := aimTxEnqueue (aimNewconn (aimSessionInit []) aimConnTypeBos
      (.connected 3 aimConnStatusInprogress)).2 ⟨0, .flap 0x02 0, ⟨[], 0⟩, 0, c⟩
    (s.framesWritten c = [] ∧ s.framesQueued c = s.framesEnqueued c) ∧
      s.framesEnqueued c = [⟨0, .flap 0x02 1, ⟨[], 0⟩, 0, c⟩] := by
  intro c s
  have hcalls : Calls Guard.queuedMode (aimSessionInit []) s :=
    .enqueue (.newconn _ _ (.refl _)) (Or.inl (List.mem_singleton_self 1)) trivial
  have hfifo := framesWritten_fifo (.calls (.refl _) hcalls)
  exact ⟨hfifo.2.2.1 1 (by decide) (by decide), by decide⟩

end Libfaim
