import Libfaim.TxQueue

/-!
# What the functions of the transmit queue do

One statement for each function: the frames written by `aim_tx_sendframe` and `aim_tx_flushqueue`
(`aimTxSendframe_eq`, `aimTxFlushqueue_eq`) and the three ways an `aim_tx_enqueue` can go
(`aimTxEnqueue_cases`).
-/

namespace Libfaim

/-! ## New frames -/

theorem aimTxNew_eq {sess sess' : AimSession} {c : ConnPtr} {framing chan : UInt8} {n : Nat}
    {fr : AimFrame} (h : aimTxNew sess c framing chan n = some (fr, sess')) :
    fr = ⟨sess.heap,
      if framing = aimFrametypeFlap then .flap chan 0 else .oft chan.toUInt16 [0, 0, 0, 0] 0 [],
      aimBstreamInit (List.replicate n 0) n, 0, c⟩ := by
  unfold aimTxNew at h
  split at h
  · cases h
  · split at h
    · cases h
    · split at h
      · cases h
      · exact (Prod.mk.inj (Option.some.inj h)).1.symm

theorem aimTxNew_data {sess sess' : AimSession} {c : ConnPtr} {framing chan : UInt8} {n : Nat}
    {fr : AimFrame} (h : aimTxNew sess c framing chan n = some (fr, sess')) :
    fr.data = aimBstreamInit (List.replicate n 0) n := by
  rw [aimTxNew_eq h]

theorem aimTxNew_flap_hdr {sess sess' : AimSession} {c : ConnPtr} {chan : UInt8} {n : Nat}
    {fr : AimFrame} (h : aimTxNew sess c aimFrametypeFlap chan n = some (fr, sess')) :
    fr.hdr = .flap chan 0 := by
  rw [aimTxNew_eq h]
  rfl

theorem aimTxNew_alloc {sess sess' : AimSession} {c : ConnPtr} {framing chan : UInt8} {n : Nat}
    {fr : AimFrame} (h : aimTxNew sess c framing chan n = some (fr, sess')) :
    fr.conn = c ∧ sess' = { sess with heap := sess.heap + 1 } := by
  unfold aimTxNew at h
  split at h
  · cases h
  · split at h
    · cases h
    · split at h
      · cases h
      · obtain ⟨rfl, rfl⟩ := Prod.mk.inj (Option.some.inj h)
        exact ⟨rfl, rfl⟩

/-! ## Writing -/

/-- What `aim_bstream_send` writes. -/
def sentBytes (bs : AimBstream) (count : Nat) : List UInt8 :=
  bs.rest.take (if count > aimBstreamEmpty bs then aimBstreamEmpty bs else count)

/-- What `aim_tx_sendframe` writes. -/
def AimFrame.bytes (fr : AimFrame) : List UInt8 :=
  match fr.hdr with
  | .flap type seqnum =>
    let obs := (sendframeFlapObs type seqnum fr.data).1
    sentBytes (aimBstreamRewind obs).2 (aimBstreamCurpos obs)
  | .oft type magic hdr2len hdr2 =>
    sentBytes (sendframeOftHbs type magic hdr2len hdr2) (8 + hdr2len.toNat) ++
      if aimBstreamCurpos fr.data ≠ 0 then
        sentBytes (aimBstreamRewind fr.data).2 (aimBstreamCurpos fr.data)
      else []

/-- The frame is written on its connection. -/
def AimSession.noteSent (sess : AimSession) (fr : AimFrame) : AimSession :=
  { sess with
    wire := Function.update sess.wire fr.conn (sess.wire fr.conn ++ fr.bytes),
    history := { sess.history with sent := sess.history.sent ++ [fr] } }

theorem aimTxSendframe_eq (fr : AimFrame) (sess : AimSession) :
    ∃ data, aimTxSendframe fr sess = ({ fr with data := data, handled := 1 }, sess.noteSent fr) := by
  obtain ⟨ptr, hdr, data, handled, conn⟩ := fr
  cases hdr with
  | flap type seqnum => exact ⟨_, rfl⟩
  | oft type magic hdr2len hdr2 =>
    by_cases hdata : aimBstreamCurpos data ≠ 0
    · let rewound := (aimBstreamRewind data).2
      refine ⟨(aimBstreamSend rewound conn (aimBstreamCurpos data) sess).2.1, ?_⟩
      simp only [rewound, aimTxSendframe, if_pos hdata, aimBstreamSend, AimSession.noteSent,
        AimFrame.bytes, sentBytes, Function.update_self, Function.update_idem, List.append_assoc]
    · refine ⟨data, ?_⟩
      simp only [aimTxSendframe, if_neg hdata, aimBstreamSend, AimSession.noteSent,
        AimFrame.bytes, sentBytes, List.append_nil]

/-- Frames are written in turn. -/
def AimSession.noteSents (sess : AimSession) (frs : List AimFrame) : AimSession :=
  frs.foldl AimSession.noteSent sess

section NoteSents

variable (sess : AimSession) (frs : List AimFrame)

/-- Only the wires and the record of the frames sent change. -/
theorem AimSession.noteSents_eq :
    ∃ wire, sess.noteSents frs =
      { sess with
        wire := wire
        history := { sess.history with sent := sess.history.sent ++ frs } } ∧
      ∀ c, wire c = sess.wire c ++ (frs.filter fun fr => fr.conn = c).flatMap AimFrame.bytes := by
  induction frs generalizing sess with
  | nil => exact ⟨sess.wire, by simp [AimSession.noteSents], by simp⟩
  | cons fr frs ih =>
    obtain ⟨wire, heq, hwire⟩ := ih (sess.noteSent fr)
    refine ⟨wire, ?_, fun c => ?_⟩
    · simp only [AimSession.noteSents, List.foldl_cons] at heq ⊢
      rw [heq]
      simp only [AimSession.noteSent, List.append_assoc, List.singleton_append]
    · rw [hwire c, AimSession.noteSent, List.filter_cons]
      by_cases hc : fr.conn = c
      · subst hc
        simp only [Function.update_self, decide_true, if_true, List.flatMap_cons,
          List.append_assoc]
      · have hne : c ≠ fr.conn := fun h => hc h.symm
        simp only [Function.update_of_ne hne, hc, decide_false, Bool.false_eq_true, if_false]

end NoteSents

/-! ## Flushing -/

/-- The frames a flush writes. -/
def AimSession.due (sess : AimSession) (queue : List AimFrame) : List AimFrame :=
  queue.filter fun cur => cur.handled = 0 ∧ ¬ sess.Held cur

/-- The frames that are on the queue after a flush. -/
def AimSession.heldBack (sess : AimSession) (queue : List AimFrame) : List AimFrame :=
  queue.filter fun cur => cur.handled = 0 ∧ sess.Held cur

theorem AimSession.due_cons (sess : AimSession) (cur : AimFrame) (next : List AimFrame) :
    sess.due (cur :: next) =
      if cur.handled = 0 ∧ ¬ sess.Held cur then cur :: sess.due next else sess.due next := by
  simp only [AimSession.due, List.filter_cons, decide_eq_true_eq]

theorem AimSession.heldBack_cons (sess : AimSession) (cur : AimFrame) (next : List AimFrame) :
    sess.heldBack (cur :: next) =
      if cur.handled = 0 ∧ sess.Held cur then cur :: sess.heldBack next
      else sess.heldBack next := by
  simp only [AimSession.heldBack, List.filter_cons, decide_eq_true_eq]

theorem aimTxFlushqueueLoop_eq (queue : List AimFrame) (sess : AimSession) :
    (aimTxFlushqueueLoop queue sess).2 = sess.noteSents (sess.due queue) ∧
      ((aimTxFlushqueueLoop queue sess).1.filter fun cur => cur.handled = 0) =
        sess.heldBack queue := by
  induction queue generalizing sess with
  | nil => exact ⟨rfl, rfl⟩
  | cons cur next ih =>
    obtain ⟨hsent, hkept⟩ := ih sess
    rw [AimSession.due_cons, AimSession.heldBack_cons]
    unfold aimTxFlushqueueLoop
    by_cases hhandled : cur.handled = 0
    · rw [if_neg (not_not_intro hhandled)]
      by_cases hheld : sess.Held cur
      · rw [if_pos hheld, if_neg fun h => h.2 hheld, if_pos ⟨hhandled, hheld⟩]
        refine ⟨hsent, ?_⟩
        rw [List.filter_cons_of_pos (by simpa using hhandled), hkept]
      · obtain ⟨data, hsend⟩ := aimTxSendframe_eq cur sess
        -- writing a frame does not change which frames are held back
        obtain ⟨hsent', hkept'⟩ := ih (sess.noteSent cur)
        rw [if_neg hheld, if_pos ⟨hhandled, hheld⟩, if_neg fun h => hheld h.2, hsend]
        refine ⟨hsent', ?_⟩
        rw [List.filter_cons_of_neg (by simp)]
        exact hkept'
    · rw [if_pos hhandled, if_neg fun h => hhandled h.1, if_neg fun h => hhandled h.1]
      refine ⟨hsent, ?_⟩
      rw [List.filter_cons_of_neg (by simpa using hhandled), hkept]

/-- A flush writes the frames that are due, in the order of the queue, and leaves those held
back. -/
theorem aimTxFlushqueue_eq (sess : AimSession) :
    ∃ wire, aimTxFlushqueue sess =
        { sess with
          wire := wire
          queueOutgoing := sess.heldBack sess.queueOutgoing
          history := { sess.history with
            sent := sess.history.sent ++ sess.due sess.queueOutgoing } } ∧
      ∀ c, wire c = sess.wire c ++
        ((sess.due sess.queueOutgoing).filter fun fr => fr.conn = c).flatMap AimFrame.bytes := by
  obtain ⟨hsent, hkept⟩ := aimTxFlushqueueLoop_eq sess.queueOutgoing sess
  obtain ⟨wire, heq, hwire⟩ := sess.noteSents_eq (sess.due sess.queueOutgoing)
  refine ⟨wire, ?_, hwire⟩
  simp only [aimTxFlushqueue, aimTxPurgequeue]
  rw [hsent, hkept, heq]

/-! ## Enqueuing -/

section Stamp

variable (sess : AimSession) (fr : AimFrame)

@[simp] theorem stampFrame_conn : (stampFrame sess fr).1.conn = fr.conn := by
  unfold stampFrame
  split <;> rfl

@[simp] theorem stampFrame_handled : (stampFrame sess fr).1.handled = 0 := by
  unfold stampFrame
  split <;> rfl

@[simp] theorem stampFrame_isFlap : (stampFrame sess fr).1.hdr.isFlap = fr.hdr.isFlap := by
  unfold stampFrame
  split
  · exact FrameHdr.setSeqnum_isFlap _ _
  · rfl

/-- FLAP frames are numbered on. -/
theorem stampFrame_flapSeqnum (h : fr.hdr.isFlap) :
    (stampFrame sess fr).1.hdr.flapSeqnum = (sess.conn fr.conn).seqnum + 1 := by
  unfold stampFrame
  rw [if_pos h]
  obtain ⟨ptr, hdr, data, handled, conn⟩ := fr
  cases hdr with
  | flap type seqnum => rfl
  | oft type magic hdr2len hdr2 => cases h

/-- Numbering a frame changes the number of its connection and nothing else. -/
theorem stampFrame_eq :
    ∃ conn, (stampFrame sess fr).2 = { sess with conn := conn } ∧
      (∀ d, (conn d).status = (sess.conn d).status) ∧
      ∀ d, (conn d).seqnum =
        if d = fr.conn ∧ fr.hdr.isFlap then (sess.conn d).seqnum + 1
        else (sess.conn d).seqnum := by
  unfold stampFrame
  by_cases hflap : fr.hdr.isFlap
  · rw [if_pos hflap]
    refine ⟨_, rfl, fun d => ?_, fun d => ?_⟩
    · by_cases hd : d = fr.conn
      · subst hd
        rw [Function.update_self]
      · rw [Function.update_of_ne hd]
    · by_cases hd : d = fr.conn
      · subst hd
        rw [Function.update_self, if_pos ⟨rfl, hflap⟩]
      · rw [Function.update_of_ne hd, if_neg fun h => hd h.1]
  · rw [if_neg hflap]
    refine ⟨_, rfl, fun _ => rfl, fun d => ?_⟩
    rw [if_neg fun h => hflap h.2]

end Stamp

/-- The frame is numbered and put on the queue. -/
def AimSession.pushOutgoing (sess : AimSession) (fr : AimFrame) : AimSession :=
  let (fr, sess) := stampFrame sess fr
  let sess := sess.noteEnqueued fr
  { sess with queueOutgoing := sess.queueOutgoing ++ [fr] }

/-- The frame is numbered and written. -/
def AimSession.sendNow (sess : AimSession) (fr : AimFrame) : AimSession :=
  let (fr, sess) := stampFrame sess fr
  (sess.noteEnqueued fr).noteSent fr

section Enqueue

variable (sess : AimSession) (fr : AimFrame)

theorem pushOutgoing_eq :
    ∃ conn, sess.pushOutgoing fr =
        { sess with
          conn := conn
          queueOutgoing := sess.queueOutgoing ++ [(stampFrame sess fr).1]
          history := { sess.history with
            enqueued := sess.history.enqueued ++ [(stampFrame sess fr).1] } } ∧
      (∀ d, (conn d).status = (sess.conn d).status) ∧
      ∀ d, (conn d).seqnum =
        if d = fr.conn ∧ fr.hdr.isFlap then (sess.conn d).seqnum + 1
        else (sess.conn d).seqnum := by
  obtain ⟨conn, heq, hfields⟩ := stampFrame_eq sess fr
  refine ⟨conn, ?_, hfields⟩
  simp only [AimSession.pushOutgoing, heq, AimSession.noteEnqueued]

theorem sendNow_eq :
    ∃ conn, sess.sendNow fr =
        { sess with
          conn := conn
          wire := Function.update sess.wire fr.conn
            (sess.wire fr.conn ++ (stampFrame sess fr).1.bytes)
          history := ⟨sess.history.enqueued ++ [(stampFrame sess fr).1],
            sess.history.sent ++ [(stampFrame sess fr).1]⟩ } ∧
      (∀ d, (conn d).status = (sess.conn d).status) ∧
      ∀ d, (conn d).seqnum =
        if d = fr.conn ∧ fr.hdr.isFlap then (sess.conn d).seqnum + 1
        else (sess.conn d).seqnum := by
  obtain ⟨conn, heq, hfields⟩ := stampFrame_eq sess fr
  refine ⟨conn, ?_, hfields⟩
  simp only [AimSession.sendNow, heq, AimSession.noteEnqueued, AimSession.noteSent,
    stampFrame_conn]

theorem aimTxSetenqueue_eq (what : Int) (func : Option Nat) :
    ∃ txEnqueue, (aimTxSetenqueue sess what func).2 = { sess with txEnqueue := txEnqueue } ∧
      (what = aimTxQueued → txEnqueue = .queuebased) := by
  unfold aimTxSetenqueue
  split
  · exact ⟨_, rfl, fun _ => rfl⟩
  · rename_i hqueued
    split
    · exact ⟨_, rfl, fun h => absurd h hqueued⟩
    · split
      · cases func with
        | none => exact ⟨_, rfl, fun h => absurd h hqueued⟩
        | some func => exact ⟨_, rfl, fun h => absurd h hqueued⟩
      · exact ⟨_, rfl, fun h => absurd h hqueued⟩

end Enqueue

theorem aimGetconnType_mem {sess : AimSession} {type : UInt16}
    (h : aimGetconnType sess type ≠ 0) : aimGetconnType sess type ∈ sess.connlist := by
  unfold aimGetconnType at h ⊢
  cases hfind : sess.connlist.find? fun c => (sess.conn c).type = type ∧ ¬ (sess.conn c).Inprogress with
  | none => exact absurd (by rw [hfind]; rfl) h
  | some c => exact List.mem_of_find?_eq_some hfind

theorem aimGetconnType_mem_of_zero {sess : AimSession} (h : 0 ∈ sess.connlist) (type : UInt16) :
    aimGetconnType sess type ∈ sess.connlist := by
  by_cases hzero : aimGetconnType sess type = 0
  · rw [hzero]
    exact h
  · exact aimGetconnType_mem hzero

/-- A frame is queued for a connection on the list, or written at once in immediate mode, or
dropped. -/
theorem aimTxEnqueue_cases {P : AimSession → Prop} {sess : AimSession} {fr : AimFrame}
    (h : sess.CanEnqueue fr) (hdrop : P sess)
    (hqueue : ∀ fr' : AimFrame, fr'.conn ∈ sess.connlist → fr'.hdr = fr.hdr →
      P (sess.pushOutgoing fr'))
    (hsend : fr.conn ∈ sess.connlist → fr.conn ≠ 0 → sess.txEnqueue = .immediate →
      ¬ (sess.conn fr.conn).Inprogress → P (sess.sendNow fr)) :
    P (aimTxEnqueue sess fr) := by
  by_cases hheld : sess.Held fr
  · -- a connection in progress is on the list, for it is not null
    have hconn : fr.conn ∈ sess.connlist := h.resolve_right fun hnull => hheld.1 hnull.1
    rw [aimTxEnqueue, if_pos hheld, aimTxEnqueueQueuebased, if_neg hheld.1]
    exact hqueue fr hconn rfl
  · rw [aimTxEnqueue, if_neg hheld]
    cases hmode : sess.txEnqueue with
    | user func => exact hdrop
    | queuebased =>
      dsimp only [aimTxEnqueueQueuebased]
      by_cases hnull : fr.conn = 0
      · rw [if_pos hnull]
        refine hqueue { fr with conn := aimGetconnType sess aimConnTypeBos } ?_ rfl
        rcases h with hmem | ⟨-, hbos⟩
        · exact aimGetconnType_mem_of_zero (hnull ▸ hmem) _
        · exact aimGetconnType_mem (hbos hmode)
      · rw [if_neg hnull]
        exact hqueue fr (h.resolve_right fun h => hnull h.1) rfl
    | immediate =>
      dsimp only [aimTxEnqueueImmediate]
      by_cases hnull : fr.conn = 0
      · rw [if_pos hnull]
        exact hdrop
      · obtain ⟨data, hsendframe⟩ := aimTxSendframe_eq (stampFrame sess fr).1
          ((stampFrame sess fr).2.noteEnqueued (stampFrame sess fr).1)
        rw [if_neg hnull, hsendframe]
        exact hsend (h.resolve_right fun h => hnull h.1) hnull hmode fun h => hheld ⟨hnull, h⟩

end Libfaim
