import Libfaim.Lib.Outbox
import Libfaim.Conn.Rules
import Libfaim.TxQueue.Rules
import Libfaim.Run

/-!
# The order in which frames are sent

The one transmit queue serves every connection as an outbox of its own (`AimSession.outbox`): what
a step of a session does to the transmit side (`TxStep`) is a step of the outbox of each connection
(`TxStep.outbox`), as long as an immediate write finds no frame of the connection waiting.
-/

namespace Libfaim

open Outbox (Fifo)

/-! ## What a step does to the transmit side -/

/-- The transmit side of a session stays as it is, but for connections no longer in progress. -/
structure TxSame (s t : AimSession) : Prop where
  connlist : t.connlist = s.connlist
  queueOutgoing : t.queueOutgoing = s.queueOutgoing
  txEnqueue : t.txEnqueue = s.txEnqueue
  history : t.history = s.history
  wire : t.wire = s.wire
  heap : s.heap ≤ t.heap
  seqnum : ∀ d, (t.conn d).seqnum = (s.conn d).seqnum
  inprogress : ∀ d, (t.conn d).Inprogress → (s.conn d).Inprogress

inductive TxStep (ok : Guard) (s : AimSession) : AimSession → Prop where
  | same {t : AimSession} : TxSame s t → TxStep ok s t
  | opened (conn : AimConn) : conn.seqnum = 0 →
      TxStep ok s { s with
        connlist := s.heap :: s.connlist
        conn := Function.update s.conn s.heap conn
        heap := s.heap + 1 }
  | mode (what : Int) (func : Option Nat) : ok.setenqueue what →
      TxStep ok s (aimTxSetenqueue s what func).2
  | queued (fr : AimFrame) : fr.conn ∈ s.connlist → TxStep ok s (s.pushOutgoing fr)
  | sent (fr : AimFrame) : fr.conn ∈ s.connlist → ok.enqueue s fr → fr.conn ≠ 0 →
      s.txEnqueue = .immediate → ¬ (s.conn fr.conn).Inprogress → TxStep ok s (s.sendNow fr)
  | flushed : TxStep ok s (aimTxFlushqueue s)
  | purged : TxStep ok s (aimTxPurgequeue s)
  | killed {t : AimSession} (dead connlist : List ConnPtr) : connlist.Sublist s.connlist →
      (∀ c, c ∈ dead ↔ c ∈ s.connlist ∧ c ∉ connlist) →
      Killed dead { s with connlist := connlist } t → TxStep ok s t

section TxSame

variable (s : AimSession) (c : ConnPtr)

theorem TxSame.refl : TxSame s s :=
  ⟨rfl, rfl, rfl, rfl, rfl, Nat.le_refl _, fun _ => rfl, fun _ h => h⟩

/-- Giving a connection other contents, with the same number and no progress lost. -/
theorem TxSame.setConn {conn : AimConn} (hseqnum : conn.seqnum = (s.conn c).seqnum)
    (hstatus : conn.Inprogress → (s.conn c).Inprogress) : TxSame s (s.setConn c conn) := by
  refine ⟨rfl, rfl, rfl, rfl, rfl, Nat.le_refl _, fun d => ?_, fun d => ?_⟩
  · rw [AimSession.setConn_conn]
    by_cases hd : d = c
    · rw [if_pos hd, hd, hseqnum]
    · rw [if_neg hd]
  · rw [AimSession.setConn_conn]
    by_cases hd : d = c
    · rw [if_pos hd, hd]
      exact hstatus
    · rw [if_neg hd]
      exact id

theorem connEstablished_txSame : TxSame s (connEstablished s c) := by
  refine TxSame.setConn s c rfl fun h => absurd ?_ h
  show (s.conn c).status &&& ~~~aimConnStatusInprogress &&& aimConnStatusInprogress = 0
  rw [UInt32.and_assoc, UInt32.and_comm (~~~_), UInt32.and_not_self, UInt32.and_zero]

theorem aimConnAddhandler_txSame (family type : UInt16) (handler : Option AimRxcallback)
    (flags : UInt16) : TxSame s (aimConnAddhandler s c family type handler flags).2 := by
  unfold aimConnAddhandler
  split
  · exact TxSame.refl s
  · split
    · exact TxSame.refl s
    · exact TxSame.setConn s c rfl id

end TxSame

/-- What the small steps do to the transmit side. -/
theorem Step.txStep {ok : Guard} {s t : AimSession} (h : Step ok s t) (hs : s.connlist.Nodup) :
    TxStep ok s t := by
  cases h with
  | newconn type outcome =>
    obtain ⟨conn, hseqnum, hopened⟩ := aimNewconn_eq s type outcome
    exact hopened ▸ .opened conn hseqnum
  | addhandler family type handler flags hc =>
    exact .same (aimConnAddhandler_txSame s _ family type handler flags)
  | clearhandlers hc hok => exact .same (TxSame.setConn s _ rfl id)
  | setenqueue what func hok => exact .mode what func hok
  | enqueue hfr hok =>
    refine aimTxEnqueue_cases hfr (.same (TxSame.refl s)) ?_ ?_
    · exact fun fr' hmem _ => .queued fr' hmem
    · exact fun hmem hne hmode hprogress => .sent _ hmem hok hne hmode hprogress
  | flushqueue => exact .flushed
  | purgequeue => exact .purged
  | close hc => exact .same (TxSame.setConn s _ rfl id)
  | kill c =>
    refine aimConnKill_cases (.same (TxSame.refl s)) fun hc ht => ?_
    refine .killed [c] (s.connlist.erase c) List.erase_sublist (fun d => ?_) ht
    rw [List.mem_singleton, hs.mem_erase_iff]
    constructor
    · rintro rfl
      exact ⟨hc, fun h => h.1 rfl⟩
    · rintro ⟨hd, hne⟩
      exact not_not.mp fun h => hne ⟨h, hd⟩
  | logoff =>
    refine .killed s.connlist [] (List.nil_sublist _) (fun d => ?_) (aimLogoff_killed s)
    exact ⟨fun h => ⟨h, List.not_mem_nil⟩, fun h => h.1⟩
  | established hc => exact .same (connEstablished_txSame s _)
  | receive type seqnum data hc =>
    exact .same ⟨rfl, rfl, rfl, rfl, rfl, Nat.le_succ _, fun _ => rfl, fun _ h => h⟩
  | read i data =>
    exact .same ⟨rfl, rfl, rfl, rfl, rfl, Nat.le_refl _, fun _ => rfl, fun _ h => h⟩

/-! ## The outbox of a connection -/

/-- Addresses on the list are in use, each once, and none is null. -/
structure WellListed (s : AimSession) : Prop where
  nodup : s.connlist.Nodup
  lt : ∀ c ∈ s.connlist, c < s.heap
  ne_null : ∀ c ∈ s.connlist, c ≠ 0
  heap_pos : 0 < s.heap

/-- The frames of a connection, or only the FLAP frames among them. -/
structure Stream where
  conn : ConnPtr
  flapOnly : Bool

def Stream.Includes (σ : Stream) (fr : AimFrame) : Prop :=
  fr.conn = σ.conn ∧ (σ.flapOnly → fr.hdr.isFlap)

instance (σ : Stream) (fr : AimFrame) : Decidable (σ.Includes fr) :=
  inferInstanceAs (Decidable (_ ∧ _))

def AimSession.phase (s : AimSession) (c : ConnPtr) : Outbox.Phase :=
  if c ∈ s.connlist then .live else if c < s.heap then .closed else .fresh

def AimSession.outbox (s : AimSession) (σ : Stream) : Outbox.State AimFrame where
  phase := s.phase σ.conn
  accepted := s.history.enqueued.filter fun fr => σ.Includes fr
  written := s.history.sent.filter fun fr => σ.Includes fr
  waiting := s.queueOutgoing.filter fun fr => fr.handled = 0 ∧ σ.Includes fr

section WellListed

variable {ok : Guard} {s t : AimSession}

theorem WellListed.queueIncoming (hs : WellListed s) (queue : List AimFrame) :
    WellListed { s with queueIncoming := queue } :=
  ⟨hs.nodup, hs.lt, hs.ne_null, hs.heap_pos⟩

theorem WellListed.step (hs : WellListed s) (h : TxStep ok s t) : WellListed t := by
  obtain ⟨hnodup, hlt, hne, hpos⟩ := hs
  cases h with
  | same hsame =>
    refine ⟨hsame.connlist ▸ hnodup, fun c hc => ?_, hsame.connlist ▸ hne,
      Nat.lt_of_lt_of_le hpos hsame.heap⟩
    rw [hsame.connlist] at hc
    exact Nat.lt_of_lt_of_le (hlt c hc) hsame.heap
  | opened conn _ =>
    refine ⟨List.nodup_cons.mpr ⟨fun h => Nat.lt_irrefl _ (hlt _ h), hnodup⟩, fun c hc => ?_,
      fun c hc => ?_, Nat.succ_pos _⟩
    · rcases List.mem_cons.mp hc with rfl | hc
      · exact Nat.lt_succ_self _
      · exact Nat.lt_succ_of_lt (hlt c hc)
    · rcases List.mem_cons.mp hc with rfl | hc
      · exact Nat.pos_iff_ne_zero.mp hpos
      · exact hne c hc
  | mode what func _ =>
    obtain ⟨txEnqueue, heq, -⟩ := aimTxSetenqueue_eq s what func
    exact heq ▸ ⟨hnodup, hlt, hne, hpos⟩
  | queued fr _ =>
    obtain ⟨conn, heq, -⟩ := pushOutgoing_eq s fr
    exact heq ▸ ⟨hnodup, hlt, hne, hpos⟩
  | sent fr =>
    obtain ⟨conn, heq, -⟩ := sendNow_eq s fr
    exact heq ▸ ⟨hnodup, hlt, hne, hpos⟩
  | flushed =>
    obtain ⟨wire, heq, -⟩ := aimTxFlushqueue_eq s
    exact heq ▸ ⟨hnodup, hlt, hne, hpos⟩
  | purged => exact ⟨hnodup, hlt, hne, hpos⟩
  | killed dead connlist hsub _ hkilled =>
    obtain ⟨⟨conn, rfl⟩, -⟩ := hkilled
    exact ⟨hnodup.sublist hsub, fun c hc => hlt c (hsub.subset hc),
      fun c hc => hne c (hsub.subset hc), hpos⟩

end WellListed

/-! ## A step of the session is a step of each outbox -/

section Outbox

variable {s : AimSession} {σ : Stream} {fr : AimFrame}

theorem phase_live {c : ConnPtr} (h : c ∈ s.connlist) : s.phase c = .live := if_pos h

theorem phase_closed {c : ConnPtr} (h : c ∉ s.connlist) (hlt : c < s.heap) :
    s.phase c = .closed := by
  rw [AimSession.phase, if_neg h, if_pos hlt]

theorem phase_heap (hs : WellListed s) : s.phase s.heap = .fresh := by
  have hmem : s.heap ∉ s.connlist := fun h => Nat.lt_irrefl _ (hs.lt _ h)
  rw [AimSession.phase, if_neg hmem, if_neg (Nat.lt_irrefl _)]

theorem mem_connlist_of_live {c : ConnPtr} (h : s.phase c = .live) : c ∈ s.connlist := by
  unfold AimSession.phase at h
  split at h
  · assumption
  · split at h <;> cases h

@[simp] theorem includes_stampFrame : σ.Includes (stampFrame s fr).1 ↔ σ.Includes fr := by
  simp only [Stream.Includes, stampFrame_conn, stampFrame_isFlap]

theorem outbox_same {t : AimSession} (h : TxSame s t) (hwaiting : Fifo (s.outbox σ)) :
    Outbox.Step (s.outbox σ) (t.outbox σ) := by
  by_cases hphase : t.phase σ.conn = s.phase σ.conn
  · have hidle : t.outbox σ = s.outbox σ := by
      simp only [AimSession.outbox, hphase, h.history, h.queueOutgoing]
    exact hidle ▸ .idle
  · -- only an address that memory was taken from meanwhile
    have hmem : σ.conn ∉ s.connlist := fun hmem =>
      hphase ((phase_live (h.connlist.symm ▸ hmem)).trans (phase_live hmem).symm)
    have hlt : σ.conn < t.heap := by
      by_contra hlt
      have hlt' : ¬ σ.conn < s.heap := fun h' => hlt (Nat.lt_of_lt_of_le h' h.heap)
      apply hphase
      rw [AimSession.phase, AimSession.phase, h.connlist, if_neg hmem, if_neg hmem, if_neg hlt,
        if_neg hlt']
    have hnil := hwaiting.waiting_eq_nil fun hlive => hmem (mem_connlist_of_live hlive)
    have hdrop : t.outbox σ = { s.outbox σ with phase := .closed, waiting := [] } := by
      rw [← hnil]
      simp only [AimSession.outbox, h.history, h.queueOutgoing,
        phase_closed (h.connlist.symm ▸ hmem) hlt]
    exact hdrop ▸ .drop

theorem outbox_opened (hs : WellListed s) (conn : AimConn) :
    Outbox.Step (s.outbox σ)
      ({ s with
        connlist := s.heap :: s.connlist
        conn := Function.update s.conn s.heap conn
        heap := s.heap + 1 }.outbox σ) := by
  by_cases hheap : σ.conn = s.heap
  · have hfresh : s.phase σ.conn = .fresh := hheap ▸ phase_heap hs
    have hstart : ({ s with
        connlist := s.heap :: s.connlist
        conn := Function.update s.conn s.heap conn
        heap := s.heap + 1 }.outbox σ) = { s.outbox σ with phase := .live } := by
      simp only [AimSession.outbox, AimSession.phase, hheap, List.mem_cons_self, if_true]
    exact hstart ▸ .start hfresh
  · have hidle : ({ s with
        connlist := s.heap :: s.connlist
        conn := Function.update s.conn s.heap conn
        heap := s.heap + 1 }.outbox σ) = s.outbox σ := by
      have hlt : σ.conn < s.heap + 1 ↔ σ.conn < s.heap :=
        ⟨fun h => (Nat.lt_succ_iff_lt_or_eq.mp h).resolve_right hheap, Nat.lt_succ_of_lt⟩
      simp only [AimSession.outbox, AimSession.phase, List.mem_cons, hheap, false_or, hlt]
    exact hidle ▸ .idle

theorem outbox_queued (hmem : fr.conn ∈ s.connlist) :
    Outbox.Step (s.outbox σ) ((s.pushOutgoing fr).outbox σ) := by
  obtain ⟨conn, heq, -⟩ := pushOutgoing_eq s fr
  by_cases hσ : σ.Includes fr
  · have hlive : s.phase σ.conn = .live := phase_live (hσ.1 ▸ hmem)
    have haccept : (s.pushOutgoing fr).outbox σ =
        { s.outbox σ with
          accepted := (s.outbox σ).accepted ++ [(stampFrame s fr).1]
          waiting := (s.outbox σ).waiting ++ [(stampFrame s fr).1] } := by
      rw [heq]
      refine Outbox.State.ext rfl ?_ rfl ?_
      · simp [AimSession.outbox, hσ]
      · simp [AimSession.outbox, hσ]
    exact haccept ▸ .accept _ hlive
  · have hidle : (s.pushOutgoing fr).outbox σ = s.outbox σ := by
      rw [heq]
      refine Outbox.State.ext rfl ?_ rfl ?_
      · simp [AimSession.outbox, hσ]
      · simp [AimSession.outbox, hσ]
    exact hidle ▸ .idle

theorem outbox_sent (hmem : fr.conn ∈ s.connlist)
    (hwaiting : σ.Includes fr → (s.outbox σ).waiting = []) :
    Outbox.Step (s.outbox σ) ((s.sendNow fr).outbox σ) := by
  obtain ⟨conn, heq, -⟩ := sendNow_eq s fr
  by_cases hσ : σ.Includes fr
  · have hlive : s.phase σ.conn = .live := phase_live (hσ.1 ▸ hmem)
    have hthrough : (s.sendNow fr).outbox σ =
        { s.outbox σ with
          accepted := (s.outbox σ).accepted ++ [(stampFrame s fr).1]
          written := (s.outbox σ).written ++ [(stampFrame s fr).1] } := by
      rw [heq]
      refine Outbox.State.ext rfl ?_ ?_ rfl
      · simp [AimSession.outbox, hσ]
      · simp [AimSession.outbox, hσ]
    exact hthrough ▸ .through _ hlive (hwaiting hσ)
  · have hidle : (s.sendNow fr).outbox σ = s.outbox σ := by
      rw [heq]
      refine Outbox.State.ext rfl ?_ ?_ rfl
      · simp [AimSession.outbox, hσ]
      · simp [AimSession.outbox, hσ]
    exact hidle ▸ .idle

/-- A flush writes all that a connection has waiting, or, while it is in progress, nothing. -/
theorem due_filter (queue : List AimFrame) :
    (s.due queue).filter (fun fr => σ.Includes fr) =
      if σ.conn ≠ 0 ∧ (s.conn σ.conn).Inprogress then []
      else queue.filter fun fr => fr.handled = 0 ∧ σ.Includes fr := by
  rw [AimSession.due, List.filter_filter]
  split
  · rename_i hheld
    refine List.filter_eq_nil_iff.mpr fun fr _ h => ?_
    simp only [Bool.and_eq_true, decide_eq_true_eq] at h
    obtain ⟨hincl, -, hnot⟩ := h
    rw [AimSession.Held, hincl.1] at hnot
    exact hnot hheld
  · rename_i hheld
    refine List.filter_congr fun fr _ => ?_
    by_cases hincl : σ.Includes fr
    · have hnot : ¬ s.Held fr := by
        rw [AimSession.Held, hincl.1]
        exact hheld
      simp only [hincl, hnot, not_false_eq_true, and_true, decide_true, Bool.true_and]
    · simp only [hincl, and_false, decide_false, Bool.false_and]

theorem heldBack_filter (queue : List AimFrame) :
    ((s.heldBack queue).filter fun fr => fr.handled = 0 ∧ σ.Includes fr) =
      if σ.conn ≠ 0 ∧ (s.conn σ.conn).Inprogress then
        queue.filter fun fr => fr.handled = 0 ∧ σ.Includes fr
      else [] := by
  rw [AimSession.heldBack, List.filter_filter]
  split
  · rename_i hheld
    refine List.filter_congr fun fr _ => ?_
    by_cases hincl : σ.Includes fr
    · have hheld' : s.Held fr := by
        rw [AimSession.Held, hincl.1]
        exact hheld
      simp only [hincl, hheld', and_true, Bool.and_self]
    · simp only [hincl, and_false, decide_false, Bool.false_and]
  · rename_i hheld
    refine List.filter_eq_nil_iff.mpr fun fr _ h => ?_
    simp only [Bool.and_eq_true, decide_eq_true_eq] at h
    obtain ⟨⟨-, hincl⟩, -, hheld'⟩ := h
    rw [AimSession.Held, hincl.1] at hheld'
    exact hheld hheld'

theorem outbox_flushed_of_held (hheld : σ.conn ≠ 0 ∧ (s.conn σ.conn).Inprogress) :
    (aimTxFlushqueue s).outbox σ = s.outbox σ := by
  obtain ⟨wire, heq, -⟩ := aimTxFlushqueue_eq s
  rw [heq]
  refine Outbox.State.ext rfl rfl ?_ ?_
  · rw [AimSession.outbox, List.filter_append, due_filter, if_pos hheld, List.append_nil]
    rfl
  · rw [AimSession.outbox, heldBack_filter, if_pos hheld]
    rfl

theorem outbox_flushed_of_not_held (hheld : ¬ (σ.conn ≠ 0 ∧ (s.conn σ.conn).Inprogress)) :
    (aimTxFlushqueue s).outbox σ =
      { s.outbox σ with
        written := (s.outbox σ).written ++ (s.outbox σ).waiting
        waiting := [] } := by
  obtain ⟨wire, heq, -⟩ := aimTxFlushqueue_eq s
  rw [heq]
  refine Outbox.State.ext rfl rfl ?_ ?_
  · rw [AimSession.outbox, List.filter_append, due_filter, if_neg hheld]
    rfl
  · rw [AimSession.outbox, heldBack_filter, if_neg hheld]

theorem outbox_flushed : Outbox.Step (s.outbox σ) ((aimTxFlushqueue s).outbox σ) := by
  by_cases hheld : σ.conn ≠ 0 ∧ (s.conn σ.conn).Inprogress
  · exact outbox_flushed_of_held hheld ▸ .idle
  · exact outbox_flushed_of_not_held hheld ▸ .write

theorem outbox_purged : Outbox.Step (s.outbox σ) ((aimTxPurgequeue s).outbox σ) := by
  have hidle : (aimTxPurgequeue s).outbox σ = s.outbox σ := by
    refine Outbox.State.ext rfl rfl rfl ?_
    rw [AimSession.outbox, aimTxPurgequeue, List.filter_filter]
    refine List.filter_congr fun fr _ => ?_
    by_cases hhandled : fr.handled = 0
    · simp only [hhandled, true_and, decide_true, Bool.and_true]
    · simp only [hhandled, false_and, decide_false, Bool.and_false]
  exact hidle ▸ .idle

/-- The frames of a connection that is killed are marked, those of the others are not. -/
theorem filter_markSent (dead : List ConnPtr) (queue : List AimFrame) :
    ((queue.map (markSent dead)).filter fun fr => fr.handled = 0 ∧ σ.Includes fr) =
      if σ.conn ∈ dead then [] else queue.filter fun fr => fr.handled = 0 ∧ σ.Includes fr := by
  split
  · rename_i hdead
    refine List.filter_eq_nil_iff.mpr fun fr hfr h => ?_
    obtain ⟨cur, -, rfl⟩ := List.mem_map.mp hfr
    obtain ⟨hhandled, hincl⟩ := of_decide_eq_true h
    have hconn : cur.conn ∈ dead := by
      rw [← markSent_conn dead cur, hincl.1]
      exact hdead
    rw [markSent_pos hconn] at hhandled
    cases hhandled
  · rename_i hdead
    have hmark : ∀ fr, σ.Includes fr → markSent dead fr = fr := fun fr hincl =>
      markSent_neg (hincl.1 ▸ hdead)
    have hincludes : ∀ fr, σ.Includes (markSent dead fr) ↔ σ.Includes fr := fun fr => by
      simp only [Stream.Includes, markSent_conn, markSent_hdr]
    rw [List.filter_map]
    have hfilter : queue.filter ((fun fr => decide (fr.handled = 0 ∧ σ.Includes fr)) ∘
        markSent dead) = queue.filter fun fr => fr.handled = 0 ∧ σ.Includes fr := by
      refine List.filter_congr fun fr _ => ?_
      by_cases hincl : σ.Includes fr
      · rw [Function.comp_apply, hmark fr hincl]
      · simp only [Function.comp_apply, hincludes, hincl, and_false]
    rw [hfilter]
    refine (List.map_congr_left fun fr hfr => ?_).trans (List.map_id _)
    exact hmark fr (of_decide_eq_true (List.mem_filter.mp hfr).2).2

theorem outbox_killed {t : AimSession} {dead connlist : List ConnPtr} (hs : WellListed s)
    (hsub : connlist.Sublist s.connlist) (hdead : ∀ c, c ∈ dead ↔ c ∈ s.connlist ∧ c ∉ connlist)
    (h : Killed dead { s with connlist := connlist } t) :
    Outbox.Step (s.outbox σ) (t.outbox σ) := by
  obtain ⟨⟨conn, heq⟩, -⟩ := h
  by_cases hσ : σ.conn ∈ dead
  · obtain ⟨hmem, hnot⟩ := (hdead _).mp hσ
    have hdrop : t.outbox σ = { s.outbox σ with phase := .closed, waiting := [] } := by
      rw [heq]
      refine Outbox.State.ext (phase_closed hnot (hs.lt _ hmem)) rfl rfl ?_
      rw [AimSession.outbox, filter_markSent, if_pos hσ]
    exact hdrop ▸ .drop
  · have hlist : σ.conn ∈ connlist ↔ σ.conn ∈ s.connlist :=
      ⟨fun h => hsub.subset h, fun h => not_not.mp fun hnot => hσ ((hdead _).mpr ⟨h, hnot⟩)⟩
    have hidle : t.outbox σ = s.outbox σ := by
      rw [heq]
      refine Outbox.State.ext ?_ rfl rfl ?_
      · simp only [AimSession.outbox, AimSession.phase, hlist]
      · rw [AimSession.outbox, filter_markSent, if_neg hσ]
        rfl
    exact hidle ▸ .idle

/-- What a step does to the transmit side is a step of the outbox of every connection, unless a
frame is written at once while others of its connection are waiting. -/
theorem TxStep.outbox {ok : Guard} {t : AimSession} (h : TxStep ok s t) (hs : WellListed s)
    (hfifo : Fifo (s.outbox σ))
    (hthrough : ∀ fr : AimFrame, ok.enqueue s fr → fr.conn ≠ 0 → s.txEnqueue = .immediate →
      ¬ (s.conn fr.conn).Inprogress → σ.Includes fr → (s.outbox σ).waiting = []) :
    Outbox.Step (s.outbox σ) (t.outbox σ) := by
  cases h with
  | same hsame => exact outbox_same hsame hfifo
  | opened conn _ => exact outbox_opened hs conn
  | mode what func _ =>
    obtain ⟨txEnqueue, heq, -⟩ := aimTxSetenqueue_eq s what func
    exact heq ▸ .idle
  | queued fr hmem => exact outbox_queued hmem
  | sent fr hmem hok hne hmode hprogress =>
    exact outbox_sent hmem (hthrough fr hok hne hmode hprogress)
  | flushed => exact outbox_flushed
  | purged => exact outbox_purged
  | killed dead connlist hsub hdead hkilled => exact outbox_killed hs hsub hdead hkilled

end Outbox

/-! ## Over whole runs -/

/-- The frames written on a connection so far. -/
def AimSession.framesWritten (s : AimSession) (c : ConnPtr) : List AimFrame :=
  s.history.sent.filter fun fr => fr.conn = c

/-- The frames enqueued on a connection so far. -/
def AimSession.framesEnqueued (s : AimSession) (c : ConnPtr) : List AimFrame :=
  s.history.enqueued.filter fun fr => fr.conn = c

/-- The wires carry the frames on record as sent. -/
def WireSent (s : AimSession) : Prop :=
  ∀ c, s.wire c = (s.framesWritten c).flatMap AimFrame.bytes

theorem WireSent.step {ok : Guard} {s t : AimSession} (hs : WireSent s) (h : TxStep ok s t) :
    WireSent t := by
  intro c
  cases h with
  | same hsame =>
    rw [AimSession.framesWritten, hsame.wire, hsame.history]
    exact hs c
  | opened conn _ => exact hs c
  | mode what func _ =>
    obtain ⟨txEnqueue, heq, -⟩ := aimTxSetenqueue_eq s what func
    exact heq ▸ hs c
  | queued fr _ =>
    obtain ⟨conn, heq, -⟩ := pushOutgoing_eq s fr
    exact heq ▸ hs c
  | sent fr =>
    obtain ⟨conn, heq, -⟩ := sendNow_eq s fr
    rw [heq]
    by_cases hc : c = fr.conn
    · subst hc
      simp [AimSession.framesWritten, hs fr.conn]
    · have hne : ¬ fr.conn = c := fun h => hc h.symm
      simp [AimSession.framesWritten, hs c, hc, hne]
  | flushed =>
    obtain ⟨wire, heq, hwire⟩ := aimTxFlushqueue_eq s
    rw [heq]
    simp only [AimSession.framesWritten, hwire c, hs c, List.filter_append, List.flatMap_append]
  | purged => exact hs c
  | killed dead connlist _ _ hkilled =>
    obtain ⟨⟨conn, rfl⟩, -⟩ := hkilled
    exact hs c

section Init

variable {modlistv : List AimModule}

theorem wellListed_init : WellListed (aimSessionInit modlistv) :=
  ⟨List.nodup_nil, fun _ hc => absurd hc List.not_mem_nil,
    fun _ hc => absurd hc List.not_mem_nil, Nat.one_pos⟩

theorem fifo_init (σ : Stream) : Fifo ((aimSessionInit modlistv).outbox σ) :=
  ⟨⟨[], rfl, fun _ => rfl⟩, fun _ => rfl, fun _ => rfl⟩

theorem wireSent_init : WireSent (aimSessionInit modlistv) := fun _ => rfl

end Init

end Libfaim
