import Libfaim.Conn.Private
import Libfaim.TxQueue.Order

/-!
# Opening connections with private records

A request leaves the connections as they are but for their numbering (`SameConns`). A new
connection is at a fresh address (`Opened`), and its pointers are set there only
(`PrivSession.withConn`).
-/

namespace Libfaim

/-! ## Sending a request -/

/-- What these functions look at in a connection, beside the descriptor. -/
def AimConn.kind (conn : AimConn) : UInt16 × UInt16 := (conn.type, conn.subtype)

/-- The same connections with the same descriptors, types and subtypes. -/
structure SameConns (s t : AimSession) : Prop where
  connlist : t.connlist = s.connlist
  heap : s.heap ≤ t.heap
  fd : ∀ d, (t.conn d).fd = (s.conn d).fd
  kind : ∀ d, (t.conn d).kind = (s.conn d).kind

section Request

variable {s t u : AimSession}

theorem SameConns.refl (s : AimSession) : SameConns s s :=
  ⟨rfl, Nat.le_refl _, fun _ => rfl, fun _ => rfl⟩

theorem SameConns.trans (h : SameConns s t) (h' : SameConns t u) : SameConns s u :=
  ⟨h'.connlist.trans h.connlist, Nat.le_trans h.heap h'.heap, fun d => (h'.fd d).trans (h.fd d),
    fun d => (h'.kind d).trans (h.kind d)⟩

theorem SameConns.wellListed (h : SameConns s t) (hs : WellListed s) : WellListed t := by
  obtain ⟨hnodup, hlt, hne, hpos⟩ := hs
  refine ⟨h.connlist ▸ hnodup, fun c hc => ?_, h.connlist ▸ hne, Nat.lt_of_lt_of_le hpos h.heap⟩
  rw [h.connlist] at hc
  exact Nat.lt_of_lt_of_le (hlt c hc) h.heap

theorem SameConns.setConn {c : ConnPtr} {conn : AimConn} (hfd : conn.fd = (s.conn c).fd)
    (hkind : conn.kind = (s.conn c).kind) : SameConns s (s.setConn c conn) := by
  refine ⟨rfl, Nat.le_refl _, fun d => ?_, fun d => ?_⟩
  · rw [AimSession.setConn_conn]
    split
    · next hd => rw [hd, hfd]
    · rfl
  · rw [AimSession.setConn_conn]
    split
    · next hd => rw [hd, hkind]
    · rfl

theorem stampFrame_sameConns (s : AimSession) (fr : AimFrame) : SameConns s (stampFrame s fr).2 := by
  unfold stampFrame
  split
  · exact .setConn rfl rfl
  · exact .refl s

theorem aimTxEnqueue_sameConns (s : AimSession) (fr : AimFrame) :
    SameConns s (aimTxEnqueue s fr) := by
  have hqueue : SameConns s (aimTxEnqueueQueuebased s fr) := by
    have h := stampFrame_sameConns s
      (if fr.conn = 0 then { fr with conn := aimGetconnType s aimConnTypeBos } else fr)
    exact ⟨h.connlist, h.heap, h.fd, h.kind⟩
  unfold aimTxEnqueue
  split
  · exact hqueue
  · split
    · exact hqueue
    · unfold aimTxEnqueueImmediate
      split
      · exact .refl s
      · obtain ⟨data, heq⟩ := aimTxSendframe_eq (stampFrame s fr).1
          ((stampFrame s fr).2.noteEnqueued (stampFrame s fr).1)
        have h := stampFrame_sameConns s fr
        dsimp only
        rw [heq]
        exact ⟨h.connlist, h.heap, h.fd, h.kind⟩
    · exact .refl s

theorem request_sameConns (s : Requester) (c : ConnPtr) (now : Int) (req : Request) :
    SameConns s.sess (s.request c now req).2.sess := by
  unfold Requester.request
  cases hnew : aimTxNew s.sess c aimFrametypeFlap 0x02 req.datalen with
  | none => exact .refl _
  | some r =>
    obtain ⟨fr, sess⟩ := r
    have hsess : SameConns s.sess sess := by
      unfold aimTxNew at hnew
      split_ifs at hnew
      all_goals
        obtain ⟨-, rfl⟩ := Prod.mk.inj (Option.some.inj hnew)
        exact ⟨rfl, Nat.le_succ _, fun _ => rfl, fun _ => rfl⟩
    exact hsess.trans (aimTxEnqueue_sameConns sess _)

end Request

theorem WellListed.closed {s : AimSession} (hs : WellListed s) (c : ConnPtr) :
    WellListed (aimConnClose s c) :=
  ⟨hs.nodup, hs.lt, hs.ne_null, hs.heap_pos⟩

theorem WellListed.sublist {s : AimSession} (hs : WellListed s) {l : List ConnPtr}
    (hsub : l.Sublist s.connlist) : WellListed { s with connlist := l } :=
  ⟨hs.nodup.sublist hsub, fun c hc => hs.lt c (hsub.subset hc),
    fun c hc => hs.ne_null c (hsub.subset hc), hs.heap_pos⟩

/-! ## Opening a connection -/

/-- A connection is opened at a fresh address. -/
structure Opened (fd : Int) (kind : UInt16 × UInt16) (s t : AimSession) : Prop where
  connlist : t.connlist = s.heap :: s.connlist
  heap : s.heap < t.heap
  fd_new : (t.conn s.heap).fd = fd
  kind_new : (t.conn s.heap).kind = kind
  fd : ∀ d, d ≠ s.heap → (t.conn d).fd = (s.conn d).fd
  kind : ∀ d, d ≠ s.heap → (t.conn d).kind = (s.conn d).kind

section Opened

variable {s t u : AimSession} {fd fd' : Int} {kind kind' : UInt16 × UInt16}

theorem Opened.wellListed (h : Opened fd kind s t) (hs : WellListed s) : WellListed t := by
  obtain ⟨hnodup, hlt, hne, hpos⟩ := hs
  refine ⟨?_, fun c hc => ?_, fun c hc => ?_, Nat.lt_of_le_of_lt (Nat.zero_le _) h.heap⟩
  · rw [h.connlist]
    exact List.nodup_cons.mpr ⟨fun hmem => Nat.lt_irrefl _ (hlt _ hmem), hnodup⟩
  · rw [h.connlist] at hc
    rcases List.mem_cons.mp hc with rfl | hc
    · exact h.heap
    · exact Nat.lt_trans (hlt c hc) h.heap
  · rw [h.connlist] at hc
    rcases List.mem_cons.mp hc with rfl | hc
    · exact Nat.ne_of_gt hpos
    · exact hne c hc

theorem Opened.trans (h : Opened fd kind s t) (h' : SameConns t u) : Opened fd kind s u :=
  ⟨h'.connlist.trans h.connlist, Nat.lt_of_lt_of_le h.heap h'.heap, (h'.fd _).trans h.fd_new,
    (h'.kind _).trans h.kind_new, fun d hd => (h'.fd d).trans (h.fd d hd),
    fun d hd => (h'.kind d).trans (h.kind d hd)⟩

/-- The connection is set up. -/
theorem Opened.setConn (h : Opened fd kind s t) {conn : AimConn} (hfd : conn.fd = fd')
    (hkind : conn.kind = kind') : Opened fd' kind' s (t.setConn s.heap conn) := by
  refine ⟨h.connlist, h.heap, ?_, ?_, fun d hd => ?_, fun d hd => ?_⟩
  · rw [AimSession.setConn_conn, if_pos rfl, hfd]
  · rw [AimSession.setConn_conn, if_pos rfl, hkind]
  · rw [AimSession.setConn_conn, if_neg hd, h.fd d hd]
  · rw [AimSession.setConn_conn, if_neg hd, h.kind d hd]

theorem aimConnGetnext_opened (s : AimSession) :
    Opened (-1) (0xffff, 0xffff) s (aimConnGetnext s).2 := by
  have hconn : (aimConnGetnext s).2.conn = Function.update s.conn s.heap aimConnInit := rfl
  refine ⟨rfl, Nat.lt_succ_self _, ?_, ?_, fun d hd => ?_, fun d hd => ?_⟩
  · rw [hconn, Function.update_self]
    rfl
  · rw [hconn, Function.update_self]
    rfl
  · rw [hconn, Function.update_of_ne hd]
  · rw [hconn, Function.update_of_ne hd]

theorem aimNewconn_opened (s : AimSession) (type : UInt16) (outcome : ConnectOutcome) :
    ∃ fd, Opened fd (type, 0xffff) s (aimNewconn s type outcome).2 := by
  have hget := aimConnGetnext_opened s
  have hsubtype : ((aimConnGetnext s).2.conn s.heap).subtype = 0xffff :=
    congrArg Prod.snd hget.kind_new
  cases outcome with
  | nodest => exact ⟨-1, hget.setConn rfl (Prod.ext rfl hsubtype)⟩
  | failed errno => exact ⟨_, hget.setConn rfl (Prod.ext rfl hsubtype)⟩
  | connected fd status => exact ⟨fd, hget.setConn rfl (Prod.ext rfl hsubtype)⟩

theorem aimConnAddhandler_sameConns (s : AimSession) (c : ConnPtr) (family type : UInt16)
    (handler : Option AimRxcallback) (flags : UInt16) :
    SameConns s (aimConnAddhandler s c family type handler flags).2 := by
  unfold aimConnAddhandler
  split
  · exact .refl s
  · split
    · exact .refl s
    · exact .setConn rfl rfl

theorem aimClonehandlers_sameConns (dest : ConnPtr) (handlers : List AimRxcblist)
    (s : AimSession) : SameConns s (PrivSession.aimClonehandlers dest handlers s) := by
  induction handlers generalizing s with
  | nil => exact .refl s
  | cons cur handlers ih =>
    exact (aimConnAddhandler_sameConns s dest cur.family cur.type (some cur.handler)
      cur.flags).trans (ih _)

end Opened

/-- A connection with these pointers, where a session opens one. -/
def PrivSession.withConn (s : PrivSession) (sess : AimSession) (priv internal : Handle)
    (rend : CookiePtr) : PrivSession :=
  { s.setSess sess with
    priv := Function.update s.priv s.sess.heap priv
    internal := Function.update s.internal s.sess.heap internal
    rend := Function.update s.rend s.sess.heap rend }

section WithConn

variable (s : PrivSession)

theorem PrivSession.aimNewconn_eq (type : UInt16) (outcome : ConnectOutcome) :
    ∃ fd sess, Opened fd (type, 0xffff) s.sess sess ∧
      s.aimNewconn type outcome = (s.sess.heap, s.withConn sess 0 0 0) := by
  obtain ⟨fd, hopened⟩ := aimNewconn_opened s.sess type outcome
  refine ⟨fd, _, hopened, ?_⟩
  cases outcome <;> rfl

theorem PrivSession.aimCloneconn_eq (src : ConnPtr) :
    ∃ sess, Opened (s.sess.conn src).fd (s.sess.conn src).kind s.sess sess ∧
      s.aimCloneconn src =
        (s.sess.heap, s.withConn sess (s.priv src) (s.internal src) (s.rend src)) := by
  have hset : Opened (s.sess.conn src).fd (s.sess.conn src).kind s.sess
      ((aimConnGetnext s.sess).2.setConn s.sess.heap
        { (aimConnGetnext s.sess).2.conn s.sess.heap with
          fd := (s.sess.conn src).fd
          type := (s.sess.conn src).type
          subtype := (s.sess.conn src).subtype
          seqnum := (s.sess.conn src).seqnum }) :=
    (aimConnGetnext_opened s.sess).setConn rfl rfl
  exact ⟨_, hset.trans (aimClonehandlers_sameConns _ _ _), rfl⟩

end WithConn

end Libfaim
