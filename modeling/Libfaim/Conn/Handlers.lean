import Libfaim.Conn.Private
import Libfaim.Conn.Select
import Libfaim.RxHandlers.Offer
import Libfaim.TxQueue.Order

/-!
# The handlers of connections (`rxhandlers.c`, `conn.c`)

The list of handlers of a connection stands for a map: what is hooked under a family and a type is
the handler that was added first. A handler that is added later for the same family and type
changes nothing, so that what is hooked stays hooked until the connection is closed or its handlers
are cleared, whatever else is called on the session (`hooks_stay`). Some SNACs cannot be hooked;
what is called for these is the default handler of their family.
-/

namespace Libfaim

/-- `aim_cloneconn` -/
def aimCloneconn (sess : AimSession) (src : ConnPtr) : ConnPtr × AimSession :=
  let parent := sess.conn src
  let (c, sess) := aimConnGetnext sess
  let sess := sess.setConn c
    { sess.conn c with
      fd := parent.fd, type := parent.type, subtype := parent.subtype, seqnum := parent.seqnum }
  (c, PrivSession.aimClonehandlers c parent.handlerlist sess)

section Sound

variable {s : AimSession}

theorem Sound.clonehandlers (h : Sound s) (c : ConnPtr) (handlers : List AimRxcblist) :
    Sound (PrivSession.aimClonehandlers c handlers s) := by
  unfold PrivSession.aimClonehandlers
  induction handlers generalizing s with
  | nil => exact h
  | cons cur next ih => exact ih (h.addhandler c _ _ _ _)

theorem Sound.cloneconn (h : Sound s) (src : ConnPtr) : Sound (aimCloneconn s src).2 :=
  (h.getnext.setConn _ _).clonehandlers _ _

end Sound

/-! ## Maps of handlers -/

/-- What is hooked under a family and a type. -/
abbrev Hooks := UInt16 → UInt16 → Option AimRxcallback

/-- What is hooked, or else the default of the family. -/
def Hooks.call (m : Hooks) (family type : UInt16) : Option AimRxcallback :=
  (m family type).or (m family aimCbSpecialDefault)

def AimSession.hooks (sess : AimSession) (c : ConnPtr) : Hooks :=
  findhandler (sess.conn c).handlerlist

section Hooks

variable {sess : AimSession} {c : ConnPtr}

theorem findhandler_of_isPrefix {l l' : List AimRxcblist} (h : l <+: l') {family type : UInt16}
    {handler : AimRxcallback} (hfind : findhandler l family type = some handler) :
    findhandler l' family type = some handler := by
  obtain ⟨more, rfl⟩ := h
  rw [findhandler] at hfind ⊢
  rw [List.find?_append, Option.map_or, hfind, Option.some_or]

/-- `aim_callhandler` looks the handler up in the map. -/
theorem aimCallhandler_eq (hc : c ≠ 0) (family type : UInt16) :
    aimCallhandler sess c family type = (sess.hooks c).call family type := by
  rw [aimCallhandler, if_neg hc, Hooks.call]
  change _ = (findhandler (sess.conn c).handlerlist family type).or
    (findhandler (sess.conn c).handlerlist family aimCbSpecialDefault)
  cases hfind : findhandler (sess.conn c).handlerlist family type with
  | some handler => rw [Option.some_or]
  | none =>
    rw [Option.none_or]
    by_cases htype : type = aimCbSpecialDefault
    · simp only [if_pos htype]
      rw [← htype, hfind]
    · simp only [if_neg htype]

end Hooks

/-! ## What a step does to a connection -/

/-- The handlers of a connection may change by one more, or go when it is closed. -/
inductive AimConn.Becomes (a b : AimConn) : Prop where
  | same : b.fd = a.fd → b.handlerlist = a.handlerlist → AimConn.Becomes a b
  | hooked (cb : AimRxcblist) : b.fd = a.fd → checkdisallowed cb.family cb.type = false →
      b.handlerlist = a.handlerlist ++ [cb] → AimConn.Becomes a b
  | closed : b.fd = -1 → b.handlerlist = [] → AimConn.Becomes a b

section Becomes

variable {s : AimSession} {d : ConnPtr}

theorem becomes_refl (a : AimConn) : a.Becomes a := .same rfl rfl

/-- The connection stays, or it is closed. -/
def AimConn.Shut (a b : AimConn) : Prop := b = a ∨ (b.fd = -1 ∧ b.handlerlist = [])

theorem AimConn.Shut.becomes {a b : AimConn} (h : a.Shut b) : a.Becomes b := by
  rcases h with rfl | ⟨hfd, hnil⟩
  · exact becomes_refl _
  · exact .closed hfd hnil

theorem AimConn.Shut.trans {a b c : AimConn} (h : a.Shut b) (h' : b.Shut c) : a.Shut c := by
  rcases h' with rfl | hshut
  · exact h
  · exact Or.inr hshut

theorem aimConnClose_shut (s : AimSession) (c d : ConnPtr) :
    (s.conn d).Shut ((aimConnClose s c).conn d) := by
  rw [aimConnClose, AimSession.setConn_conn]
  split
  · exact Or.inr ⟨rfl, rfl⟩
  · exact Or.inl rfl

/-- Closing a connection clears its handlers. -/
theorem aimConnClose_clears (s : AimSession) (c : ConnPtr) :
    (aimConnClose s c).conn c = { aimClearhandlers (s.conn c) with fd := -1 } := by
  rw [aimConnClose, AimSession.setConn_conn, if_pos rfl, aimClearhandlers]

theorem connkillReal_shut (s : AimSession) (c d : ConnPtr) :
    (s.conn d).Shut ((connkillReal s c).conn d) := by
  unfold connkillReal
  dsimp only
  split
  · exact aimConnClose_shut (aimTxCleanqueue (aimRxqueueCleanbyconn s c) c) c d
  · exact Or.inl rfl

theorem aimConnrstLoop_shut (l : List ConnPtr) (s : AimSession) (d : ConnPtr) :
    (s.conn d).Shut ((aimConnrstLoop l s).conn d) := by
  induction l generalizing s with
  | nil => exact Or.inl rfl
  | cons cur next ih =>
    have hclose := aimConnClose_shut s cur d
    exact (hclose.trans (connkillReal_shut _ cur d)).trans (ih _)

theorem aimConnKill_shut (s : AimSession) (c d : ConnPtr) :
    (s.conn d).Shut ((aimConnKill s c).conn d) := by
  unfold aimConnKill
  split
  · exact Or.inl rfl
  · exact connkillReal_shut { s with connlist := s.connlist.erase c } c d

/-- Numbering a frame changes no more than the number of its connection. -/
theorem stampFrame_becomes (fr : AimFrame) (d : ConnPtr) :
    (s.conn d).Becomes ((stampFrame s fr).2.conn d) := by
  unfold stampFrame aimGetNextTxseqnum
  split
  · dsimp only
    rw [AimSession.setConn_conn]
    split
    · next heq =>
      rw [heq]
      exact .same rfl rfl
    · exact becomes_refl _
  · exact becomes_refl _

theorem aimTxEnqueue_becomes (fr : AimFrame) (d : ConnPtr) :
    (s.conn d).Becomes ((aimTxEnqueue s fr).conn d) := by
  have hqueue : (s.conn d).Becomes ((aimTxEnqueueQueuebased s fr).conn d) :=
    stampFrame_becomes _ d
  have himmediate : (s.conn d).Becomes ((aimTxEnqueueImmediate s fr).conn d) := by
    unfold aimTxEnqueueImmediate
    split
    · exact becomes_refl _
    · obtain ⟨data, heq⟩ :=
        aimTxSendframe_eq (stampFrame s fr).1 ((stampFrame s fr).2.noteEnqueued (stampFrame s fr).1)
      dsimp only
      rw [heq]
      exact stampFrame_becomes fr d
  unfold aimTxEnqueue
  split
  · exact hqueue
  · cases s.txEnqueue with
    | queuebased => exact hqueue
    | immediate => exact himmediate
    | user func => exact becomes_refl _

theorem aimConnAddhandler_becomes (s : AimSession) (c : ConnPtr) (family type : UInt16)
    (newhandler : Option AimRxcallback) (flags : UInt16) (d : ConnPtr) :
    (s.conn d).Becomes ((aimConnAddhandler s c family type newhandler flags).2.conn d) := by
  unfold aimConnAddhandler
  split
  · exact becomes_refl _
  · split
    · exact becomes_refl _
    · next hallowed =>
      dsimp only
      rw [AimSession.setConn_conn]
      split
      · next heq =>
        rw [heq]
        exact .hooked ⟨family, type, newhandler.getD .bleck, flags⟩ rfl
          (Bool.eq_false_iff.mpr hallowed) rfl
      · exact becomes_refl _

theorem aimNewconn_conn (s : AimSession) (type : UInt16) (outcome : ConnectOutcome) :
    (d ≠ s.heap → (aimNewconn s type outcome).2.conn d = s.conn d) ∧
      ((aimNewconn s type outcome).2.conn s.heap).handlerlist = [] := by
  cases outcome <;>
    simp +contextual [aimNewconn, aimConnGetnext, AimSession.setConn, aimConnInit]

/-- A step hooks at most one handler, or closes connections; a new connection has none, and one
whose handlers are cleared has none left. -/
theorem Step.becomes {ok : Guard} {t : AimSession} (h : Step ok s t) (d : ConnPtr) :
    (s.conn d).Becomes (t.conn d) ∨
      ((d = s.heap ∨ ok.clearhandlers d) ∧ (t.conn d).handlerlist = []) := by
  cases h with
  | newconn type outcome =>
    obtain ⟨hold, hnew⟩ := @aimNewconn_conn d s type outcome
    by_cases hd : d = s.heap
    · exact Or.inr ⟨Or.inl hd, hd ▸ hnew⟩
    · exact Or.inl (hold hd ▸ becomes_refl _)
  | addhandler family type handler flags _ =>
    exact Or.inl (aimConnAddhandler_becomes s _ family type handler flags d)
  | @clearhandlers c _ hok =>
    rw [AimSession.setConn_conn]
    by_cases hd : d = c
    · rw [if_pos hd]
      exact Or.inr ⟨Or.inr (hd ▸ hok), rfl⟩
    · rw [if_neg hd]
      exact Or.inl (becomes_refl _)
  | setenqueue what func _ =>
    obtain ⟨txEnqueue, heq, -⟩ := aimTxSetenqueue_eq s what func
    exact Or.inl (heq ▸ becomes_refl _)
  | enqueue _ _ => exact Or.inl (aimTxEnqueue_becomes _ d)
  | flushqueue =>
    obtain ⟨wire, heq, -⟩ := aimTxFlushqueue_eq s
    exact Or.inl (heq ▸ becomes_refl _)
  | purgequeue => exact Or.inl (becomes_refl _)
  | close _ => exact Or.inl (aimConnClose_shut s _ d).becomes
  | kill c => exact Or.inl (aimConnKill_shut s c d).becomes
  | logoff => exact Or.inl (aimConnrstLoop_shut s.connlist s d).becomes
  | established _ =>
    refine Or.inl ?_
    rw [connEstablished, AimSession.setConn_conn]
    split
    · next heq =>
      rw [heq]
      exact .same rfl rfl
    · exact becomes_refl _
  | receive type seqnum data _ => exact Or.inl (becomes_refl _)
  | read i data => exact Or.inl (becomes_refl _)

end Becomes

/-! ## Runs -/

/-- No handler is one that may not be hooked. -/
def AimConn.Allowed (conn : AimConn) : Prop :=
  ∀ cb ∈ conn.handlerlist, checkdisallowed cb.family cb.type = false

/-- What is hooked is still hooked, unless the connection was closed. -/
structure AimConn.Later (a b : AimConn) : Prop where
  closed : a.fd = -1 → b.fd = -1
  handlers : b.fd = -1 ∨ a.handlerlist <+: b.handlerlist

section Runs

variable {ok : Guard} {s t : AimSession}

theorem AimConn.Later.refl (a : AimConn) : a.Later a := ⟨id, Or.inr (List.prefix_refl _)⟩

theorem AimConn.Later.step {a b c : AimConn} (h : a.Later b) (hstep : b.Becomes c) :
    a.Later c := by
  cases hstep with
  | same hfd hlist => exact ⟨fun ha => hfd.trans (h.closed ha), hfd ▸ hlist ▸ h.handlers⟩
  | hooked cb hfd _ hlist =>
    refine ⟨fun ha => hfd.trans (h.closed ha), ?_⟩
    rcases h.handlers with hclosed | hprefix
    · exact Or.inl (hfd.trans hclosed)
    · exact Or.inr (hlist ▸ hprefix.trans (List.prefix_append _ _))
  | closed hfd _ => exact ⟨fun _ => hfd, Or.inl hfd⟩

theorem AimConn.Allowed.step {a b : AimConn} (h : a.Allowed) (hstep : a.Becomes b) : b.Allowed := by
  intro cb' hcb'
  cases hstep with
  | same _ hlist => exact h cb' (hlist ▸ hcb')
  | hooked cb _ hallowed hlist =>
    rw [hlist] at hcb'
    rcases List.mem_append.mp hcb' with hmem | hmem
    · exact h cb' hmem
    · exact List.mem_singleton.mp hmem ▸ hallowed
  | closed _ hlist => exact absurd (hlist ▸ hcb') List.not_mem_nil

theorem Run.allowed (h : Run ok s t) (hs : ∀ d, (s.conn d).Allowed) (d : ConnPtr) :
    (t.conn d).Allowed := by
  refine h.inv (P := fun t => ∀ d, (t.conn d).Allowed) (fun u v hstep hu d => ?_)
    (fun _ _ hu => hu) hs d
  rcases hstep.becomes d with hbecomes | ⟨-, hnil⟩
  · exact (hu d).step hbecomes
  · exact fun cb hcb => absurd (hnil ▸ hcb) List.not_mem_nil

/-- A connection that was there before is a later one of its own, unless its handlers are
cleared. -/
theorem Run.later {c : ConnPtr} (h : Run ok s t) (hs : WellListed s) (hc : c < s.heap)
    (hok : ¬ ok.clearhandlers c) : (s.conn c).Later (t.conn c) := by
  have hinv := h.inv (P := fun t => WellListed t ∧ c < t.heap ∧ (s.conn c).Later (t.conn c)) ?_ ?_
    ⟨hs, hc, .refl _⟩
  · exact hinv.2.2
  · rintro u v hstep ⟨hu, hlt, hlater⟩
    have htx := hstep.txStep hu.nodup
    have hbecomes := (hstep.becomes c).resolve_right fun hnew =>
      hnew.1.elim (fun heap => Nat.lt_irrefl _ (heap ▸ hlt)) hok
    have hheap := (hstep.grown fun _ => False).heap
    exact ⟨hu.step htx, Nat.lt_of_lt_of_le hlt hheap, hlater.step hbecomes⟩
  · rintro u queue ⟨hu, hlt, hlater⟩
    exact ⟨hu.queueIncoming queue, hlt, hlater⟩

/-- With allowed handlers only, all are hooked again. -/
theorem aimClonehandlers_handlerlist {dest : ConnPtr} (hdest : dest ≠ 0) (l : List AimRxcblist)
    (hl : ∀ cb ∈ l, checkdisallowed cb.family cb.type = false) (sess : AimSession) :
    ((PrivSession.aimClonehandlers dest l sess).conn dest).handlerlist =
      (sess.conn dest).handlerlist ++ l := by
  unfold PrivSession.aimClonehandlers
  induction l generalizing sess with
  | nil => exact (List.append_nil _).symm
  | cons cb next ih =>
    rw [List.foldl_cons, ih fun cb' hcb' => hl cb' (List.mem_cons_of_mem _ hcb')]
    have hnot : ¬ checkdisallowed cb.family cb.type = true := by
      rw [hl cb List.mem_cons_self]
      exact Bool.false_ne_true
    rw [aimConnAddhandler, if_neg hdest, if_neg hnot]
    simp only [AimSession.setConn_conn, if_true, Option.getD_some, List.append_assoc,
      List.singleton_append]

theorem aimCloneconn_handlerlist (hheap : s.heap ≠ 0) {src : ConnPtr} (h : (s.conn src).Allowed) :
    ((aimCloneconn s src).2.conn (aimCloneconn s src).1).handlerlist =
      (s.conn src).handlerlist := by
  refine (aimClonehandlers_handlerlist hheap _ h _).trans ?_
  simp [AimSession.setConn, aimConnInit]

/-- In every run: for a SNAC that may not be hooked the default handler of its family is called;
what is hooked on a connection stays hooked in every later run that does not clear its handlers,
until the connection is closed; and a clone of the connection has the same handlers. -/
theorem hooks_stay {modlistv : List AimModule} (hs : Run Guard.any (aimSessionInit modlistv) s)
    (h : Run ok s t) {c : ConnPtr} (hc : c ∈ s.connlist) :
    (∀ family type, checkdisallowed family type = true →
        aimCallhandler t c family type = aimCallhandler t c family aimCbSpecialDefault) ∧
      (¬ ok.clearhandlers c → (t.conn c).fd = -1 ∨ ∀ family type handler,
        s.hooks c family type = some handler → t.hooks c family type = some handler) ∧
      (aimCloneconn t c).2.hooks (aimCloneconn t c).1 = t.hooks c := by
  have hinit : WellListed (aimSessionInit modlistv) :=
    ⟨List.nodup_nil, fun _ hc => absurd hc List.not_mem_nil,
      fun _ hc => absurd hc List.not_mem_nil, Nat.one_pos⟩
  have hlisted {ok s t} : WellListed s → Run ok s t → WellListed t := fun hs h =>
    h.inv (fun _ _ hstep hu => hu.step (hstep.txStep hu.nodup))
      (fun _ queue hu => hu.queueIncoming queue) hs
  have hsl := hlisted hinit hs
  have htl := hlisted hsl h
  have hallowed : (t.conn c).Allowed :=
    h.allowed (hs.allowed fun _ _ hcb => absurd hcb List.not_mem_nil) c
  refine ⟨fun family type hdis => ?_, fun hkeep => ?_, ?_⟩
  · have hnone : t.hooks c family type = none := by
      refine Option.map_eq_none_iff.mpr (List.find?_eq_none.mpr fun cb hcb heq => ?_)
      obtain ⟨rfl, rfl⟩ := of_decide_eq_true heq
      exact Bool.false_ne_true ((hallowed cb hcb).symm.trans hdis)
    rw [aimCallhandler_eq (hsl.ne_null c hc), aimCallhandler_eq (hsl.ne_null c hc), Hooks.call,
      Hooks.call, hnone, Option.none_or, Option.or_self]
  · rcases (h.later hsl (hsl.lt c hc) hkeep).handlers with hclosed | hprefix
    · exact Or.inl hclosed
    · exact Or.inr fun family type handler hhook => findhandler_of_isPrefix hprefix hhook
  · rw [AimSession.hooks, aimCloneconn_handlerlist (Nat.pos_iff_ne_zero.mp htl.heap_pos) hallowed]
    rfl

end Runs

section Example

/-- A connection with a handler for instant messages. -/
def hookedSession : AimSession :=
  (aimConnAddhandler (aimNewconn (aimSessionInit []) aimConnTypeBos (.connected 3 0)).2 1
    0x0004 0x0007 (some (.client 5)) 0).2

/-- Another one is added for the same; handlers are not cleared. -/
def hookedAgain : AimSession :=
  (aimConnAddhandler hookedSession 1 0x0004 0x0007 (some (.client 6)) 0).2

theorem hooks_stay_hookedAgain : hookedAgain.hooks 1 0x0004 0x0007 = some (.client 5) ∧
    (aimCloneconn hookedAgain 1).2.hooks (aimCloneconn hookedAgain 1).1 = hookedAgain.hooks 1 := by
  have hs : Run Guard.any (aimSessionInit []) hookedSession :=
    .calls (.refl _) (.addhandler _ _ _ _ (.newconn _ _ (.refl _)) (List.mem_singleton_self 1))
  have h : Run { Guard.any with clearhandlers := fun _ => False } hookedSession hookedAgain :=
    .calls (.refl _) (.addhandler _ _ _ _ (.refl _) (List.mem_singleton_self 1))
  obtain ⟨-, hstay, hclone⟩ := hooks_stay hs h (List.mem_singleton_self 1)
  exact ⟨(hstay id).resolve_left (by decide) _ _ _ (by decide), hclone⟩

end Example

end Libfaim
