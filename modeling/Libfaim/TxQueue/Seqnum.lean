import Libfaim.TxQueue.Order

/-!
# Sequence numbers

A FLAP frame is numbered when it is enqueued. The numbers are consecutive in the order of
enqueuing (`Numbered`), so they are consecutive on the wire as well where frames are written in
that order: where no frame written in immediate mode overtakes a queued one
(`Guard.noOvertaking`).
-/

namespace Libfaim

open Outbox (Fifo)

/-- The numbers `1`, `2`, ... modulo `2 ^ 16`. -/
def consecutive (n : Nat) : List UInt16 := (List.range n).map fun i => UInt16.ofNat (i + 1)

theorem consecutive_succ (n : Nat) :
    consecutive (n + 1) = consecutive n ++ [UInt16.ofNat n + 1] := by
  have hlast : UInt16.ofNat (n + 1) = UInt16.ofNat n + 1 := UInt16.ofNat_add n 1
  rw [consecutive, List.range_succ, List.map_append, List.map_singleton, hlast]
  rfl

/-- A beginning of the consecutive numbers is consecutive. -/
theorem consecutive_of_prefix {l : List UInt16} {n : Nat} (h : l <+: consecutive n) :
    l = consecutive l.length := by
  have hlen : l.length ≤ n := by
    have hle := h.length_le
    rwa [consecutive, List.length_map, List.length_range] at hle
  rw [List.prefix_iff_eq_take.mp h, consecutive, ← List.map_take, List.take_range]
  simp only [List.length_map, List.length_range, consecutive, Nat.min_eq_left hlen]

/-- An immediate write finds no FLAP frame of its connection waiting. -/
def Guard.noOvertaking : Guard :=
  { Guard.any with
    enqueue := fun s fr =>
      s.txEnqueue = .immediate → fr.conn ≠ 0 → ¬ (s.conn fr.conn).Inprogress → fr.hdr.isFlap →
        ∀ cur ∈ s.queueOutgoing, cur.conn = fr.conn → cur.hdr.isFlap → cur.handled ≠ 0 }

/-- The FLAP frames of a connection. -/
abbrev flapStream (c : ConnPtr) : Stream := ⟨c, true⟩

/-- The FLAP frames accepted for a connection are numbered one after the other, and the connection
has the last number. -/
structure Numbered (c : ConnPtr) (s : AimSession) : Prop where
  accepted : (s.outbox (flapStream c)).accepted.map (·.hdr.flapSeqnum) =
    consecutive (s.outbox (flapStream c)).accepted.length
  seqnum : c ∈ s.connlist →
    (s.conn c).seqnum = UInt16.ofNat (s.outbox (flapStream c)).accepted.length

section Step

variable {ok : Guard} {s t : AimSession} {c : ConnPtr}

/-- Numbering one more frame. -/
theorem Numbered.stamp (h : Numbered c s) {fr : AimFrame} (hmem : fr.conn ∈ s.connlist)
    (hconnlist : t.connlist = s.connlist)
    (henqueued : t.history.enqueued = s.history.enqueued ++ [(stampFrame s fr).1])
    (hseqnum : ∀ d, (t.conn d).seqnum =
      if d = fr.conn ∧ fr.hdr.isFlap then (s.conn d).seqnum + 1 else (s.conn d).seqnum) :
    Numbered c t := by
  by_cases hincl : (flapStream c).Includes fr
  · have hconn : fr.conn = c := hincl.1
    have hflap : fr.hdr.isFlap := hincl.2 rfl
    have haccepted : (t.outbox (flapStream c)).accepted =
        (s.outbox (flapStream c)).accepted ++ [(stampFrame s fr).1] := by
      simp [AimSession.outbox, henqueued, hincl]
    have hlast := h.seqnum (hconn ▸ hmem)
    constructor
    · rw [haccepted, List.map_append, h.accepted, List.length_append, List.length_singleton,
        consecutive_succ, List.map_singleton, stampFrame_flapSeqnum s fr hflap, hconn, hlast]
    · intro _
      rw [hseqnum c, if_pos ⟨hconn.symm, hflap⟩, hlast, haccepted, List.length_append,
        List.length_singleton, UInt16.ofNat_add]
      rfl
  · have haccepted : (t.outbox (flapStream c)).accepted =
        (s.outbox (flapStream c)).accepted := by
      simp [AimSession.outbox, henqueued, hincl]
    rw [hconnlist.symm] at hmem
    refine ⟨haccepted ▸ h.accepted, fun hc => ?_⟩
    rw [haccepted, hseqnum c, if_neg fun hboth => hincl ⟨hboth.1.symm, fun _ => hboth.2⟩]
    exact h.seqnum (hconnlist ▸ hc)

theorem Numbered.step (h : Numbered c s) (hs : WellListed s)
    (hfifo : Fifo (s.outbox (flapStream c))) (hstep : TxStep ok s t) : Numbered c t := by
  cases hstep with
  | same hsame =>
    have haccepted : (t.outbox (flapStream c)).accepted = (s.outbox (flapStream c)).accepted := by
      rw [AimSession.outbox, hsame.history]
      rfl
    refine ⟨haccepted ▸ h.accepted, fun hc => ?_⟩
    rw [hsame.seqnum c, haccepted]
    exact h.seqnum (hsame.connlist ▸ hc)
  | opened conn hseqnum =>
    refine ⟨h.accepted, fun hc => ?_⟩
    by_cases hheap : c = s.heap
    · have hnil := hfifo.accepted_eq_nil (hheap ▸ phase_heap hs)
      show (Function.update s.conn s.heap conn c).seqnum =
        UInt16.ofNat (s.outbox (flapStream c)).accepted.length
      rw [hheap, Function.update_self, hseqnum, ← hheap, hnil]
      rfl
    · show (Function.update s.conn s.heap conn c).seqnum =
        UInt16.ofNat (s.outbox (flapStream c)).accepted.length
      rw [Function.update_of_ne hheap]
      exact h.seqnum ((List.mem_cons.mp hc).resolve_left hheap)
  | mode what func _ =>
    obtain ⟨txEnqueue, heq, -⟩ := aimTxSetenqueue_eq s what func
    exact heq ▸ ⟨h.accepted, h.seqnum⟩
  | queued fr hmem =>
    obtain ⟨conn, heq, -, hseqnum⟩ := pushOutgoing_eq s fr
    exact heq ▸ h.stamp hmem rfl rfl hseqnum
  | sent fr hmem =>
    obtain ⟨conn, heq, -, hseqnum⟩ := sendNow_eq s fr
    exact heq ▸ h.stamp hmem rfl rfl hseqnum
  | flushed =>
    obtain ⟨wire, heq, -⟩ := aimTxFlushqueue_eq s
    exact heq ▸ ⟨h.accepted, h.seqnum⟩
  | purged => exact ⟨h.accepted, h.seqnum⟩
  | killed dead connlist hsub _ hkilled =>
    obtain ⟨⟨conn, rfl⟩, -, hseqnum⟩ := hkilled
    refine ⟨h.accepted, fun hc => (hseqnum c).trans (h.seqnum (hsub.subset hc))⟩

end Step

/-! ## On the wire -/

/-- The numbers of the FLAP frames written on a connection. -/
def AimSession.seqnumsWritten (s : AimSession) (c : ConnPtr) : List UInt16 :=
  ((s.framesWritten c).filter fun fr => fr.hdr.isFlap).map (·.hdr.flapSeqnum)

theorem seqnumsWritten_eq (s : AimSession) (c : ConnPtr) :
    s.seqnumsWritten c = (s.outbox (flapStream c)).written.map (·.hdr.flapSeqnum) := by
  rw [AimSession.seqnumsWritten, AimSession.framesWritten, List.filter_filter]
  congr 1
  refine List.filter_congr fun fr _ => ?_
  by_cases hc : fr.conn = c <;> cases hflap : fr.hdr.isFlap <;>
    simp [Stream.Includes, hc, hflap]

/-- What a run keeps true of a connection that no frame overtakes on. -/
structure InSequence (c : ConnPtr) (s : AimSession) : Prop where
  wellListed : WellListed s
  fifo : Fifo (s.outbox (flapStream c))
  numbered : Numbered c s
  wireSent : WireSent s

theorem InSequence.step {c : ConnPtr} {s t : AimSession} (h : InSequence c s)
    (hstep : Step Guard.noOvertaking s t) : InSequence c t := by
  obtain ⟨hs, hfifo, hnumbered, hwire⟩ := h
  have htx := hstep.txStep hs.nodup
  refine ⟨hs.step htx, hfifo.step (htx.outbox hs hfifo ?_), hnumbered.step hs hfifo htx,
    hwire.step htx⟩
  intro fr hok hne hmode hprogress hincl
  refine List.filter_eq_nil_iff.mpr fun cur hcur hwaiting => ?_
  obtain ⟨hhandled, hconn, hflap⟩ := of_decide_eq_true hwaiting
  exact hok hmode hne hprogress (hincl.2 rfl) cur hcur (hconn.trans hincl.1.symm) (hflap rfl)
    hhandled

/-- In every run in which no frame written at once overtakes a queued one, the FLAP frames written
on a connection carry consecutive numbers from 1. -/
theorem seqnumsWritten_consecutive {modlistv : List AimModule} {s : AimSession}
    (h : Run Guard.noOvertaking (aimSessionInit modlistv) s) (c : ConnPtr) :
    s.wire c = (s.framesWritten c).flatMap AimFrame.bytes ∧
      s.seqnumsWritten c = consecutive (s.seqnumsWritten c).length := by
  have hinit : InSequence c (aimSessionInit modlistv) :=
    ⟨wellListed_init, fifo_init _, ⟨rfl, fun hc => absurd hc List.not_mem_nil⟩, wireSent_init⟩
  have hs : InSequence c s := h.inv (fun _ _ hstep hs => hs.step hstep)
    (fun _ _ hs => ⟨hs.wellListed.queueIncoming _, hs.fifo,
      ⟨hs.numbered.accepted, hs.numbered.seqnum⟩, hs.wireSent⟩) hinit
  have hprefix : s.seqnumsWritten c <+:
      consecutive (s.outbox (flapStream c)).accepted.length := by
    rw [seqnumsWritten_eq, ← hs.numbered.accepted]
    exact hs.fifo.written_isPrefix.map _
  exact ⟨hs.wireSent c, consecutive_of_prefix hprefix⟩

section Example

/-- A session with one connection, to the BOS server. -/
def bosSession : AimSession := (aimNewconn (aimSessionInit []) aimConnTypeBos (.connected 3 0)).2

/-- A frame for that connection. -/
def bosFrame : AimFrame := ⟨0, .flap 0x02 0, ⟨[], 0⟩, 0, 1⟩

/-- Two frames are queued and flushed. -/
theorem seqnumsWritten_consecutive_two :
    let s := aimTxFlushqueue (aimTxEnqueue (aimTxEnqueue bosSession bosFrame) bosFrame)
    s.wire 1 = (s.framesWritten 1).flatMap AimFrame.bytes ∧
      s.seqnumsWritten 1 = consecutive (s.seqnumsWritten 1).length := by
  intro s
  have hcalls : Calls Guard.noOvertaking (aimSessionInit []) s := by
    refine .flushqueue (.enqueue (.enqueue (.newconn _ _ (.refl _)) (Or.inl ?_) ?_) (Or.inl ?_) ?_)
    · exact List.mem_singleton_self 1
    · exact fun hmode => nomatch hmode
    · exact List.mem_singleton_self 1
    · exact fun hmode => nomatch hmode
  exact seqnumsWritten_consecutive (.calls (.refl _) hcalls) 1

/-- A frame is queued, one is written at once in immediate mode, and then the queue is flushed: the
second number comes first. -/
theorem seqnumsWritten_overtaken :
    ¬ ∀ s, Run Guard.any (aimSessionInit []) s →
      ∀ c, s.seqnumsWritten c = consecutive (s.seqnumsWritten c).length := by
  intro h
  have hcalls : Calls Guard.any (aimSessionInit []) (aimTxFlushqueue (aimTxEnqueue
      (aimTxSetenqueue (aimTxEnqueue bosSession bosFrame) aimTxImmediate none).2 bosFrame)) := by
    refine .flushqueue (.enqueue (.setenqueue _ _ (.enqueue (.newconn _ _ (.refl _))
      (Or.inl ?_) trivial) trivial) (Or.inl ?_) trivial)
    · exact List.mem_singleton_self 1
    · exact List.mem_singleton_self 1
  have hbad := h _ (.calls (.refl _) hcalls) 1
  exact absurd hbad (by decide)

end Example

end Libfaim
