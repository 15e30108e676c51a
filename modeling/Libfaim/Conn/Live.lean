import Libfaim.RxHandlers.Offer

/-!
# Frames of connections that are gone

Killing a connection marks its frames handled, so that an unhandled frame on either queue is one of
a connection that is still on the list (`Live`). While a frame is being dispatched it is exempt
(`LiveBut`), for the dispatcher writes its mark last, and may write it over the one that the kill
left there: the frame must be settled if its connection is killed meanwhile
(`Guard.settledIfKilled`).
-/

namespace Libfaim

open Hoare

/-- A frame that is not handled belongs to a connection on the list. -/
def Listed (s : AimSession) (fr : AimFrame) : Prop := fr.handled = 0 → fr.conn ∈ s.connlist

/-- All frames but those at the exempt positions of the receive queue are listed. -/
structure LiveBut (exempt : Nat → Prop) (s : AimSession) : Prop where
  incoming : ∀ (i : Nat) (cur : AimFrame), s.queueIncoming[i]? = some cur → ¬ exempt i → Listed s cur
  outgoing : ∀ cur ∈ s.queueOutgoing, Listed s cur

abbrev Live (s : AimSession) : Prop := LiveBut (fun _ => False) s

section Steps

variable {exempt : Nat → Prop} {s t : AimSession}

theorem LiveBut.same (h : LiveBut exempt s) (hin : t.queueIncoming = s.queueIncoming)
    (hout : t.queueOutgoing = s.queueOutgoing) (hlist : ∀ c ∈ s.connlist, c ∈ t.connlist) :
    LiveBut exempt t := by
  refine ⟨fun i cur hcur hne hzero => ?_, fun cur hcur hzero => ?_⟩
  · exact hlist _ (h.incoming i cur (hin ▸ hcur) hne hzero)
  · exact hlist _ (h.outgoing cur (hout ▸ hcur) hzero)

/-- Frames of connections that come off the list are marked. -/
theorem LiveBut.killed (h : LiveBut exempt s) {dead connlist : List ConnPtr}
    (hlist : ∀ c ∈ s.connlist, c ∉ dead → c ∈ connlist)
    (hkilled : Killed dead { s with connlist := connlist } t) : LiveBut exempt t := by
  obtain ⟨⟨conn, rfl⟩, -⟩ := hkilled
  refine ⟨fun i cur hcur hne hzero => ?_, fun cur hcur hzero => ?_⟩
  · obtain ⟨cur', hcur', rfl⟩ := Option.map_eq_some_iff.mp ((List.getElem?_map ..).symm.trans hcur)
    have hmark : ¬ (cur'.handled = 0 ∧ cur'.conn ∈ dead) := by
      intro hmark
      rw [markReceived_pos hmark] at hzero
      cases hzero
    rw [markReceived_neg hmark] at hzero ⊢
    exact hlist _ (h.incoming i cur' hcur' hne hzero) fun hdead => hmark ⟨hzero, hdead⟩
  · obtain ⟨cur', hcur', rfl⟩ := List.mem_map.mp hcur
    have hmark : cur'.conn ∉ dead := by
      intro hmark
      rw [markSent_pos hmark] at hzero
      cases hzero
    rw [markSent_neg hmark] at hzero ⊢
    exact hlist _ (h.outgoing cur' hcur' hzero) hmark

/-- Frames that come off the transmit queue, or go there for a connection on the list. -/
theorem LiveBut.outgoing_of (h : LiveBut exempt s) (hin : t.queueIncoming = s.queueIncoming)
    (hlist : t.connlist = s.connlist)
    (hout : ∀ cur ∈ t.queueOutgoing, cur ∈ s.queueOutgoing ∨ cur.conn ∈ s.connlist) :
    LiveBut exempt t := by
  refine ⟨fun i cur hcur hne hzero => ?_, fun cur hcur hzero => ?_⟩
  · exact hlist ▸ h.incoming i cur (hin ▸ hcur) hne hzero
  · rcases hout cur hcur with hmem | hmem
    · exact hlist ▸ h.outgoing cur hmem hzero
    · exact hlist ▸ hmem

theorem LiveBut.modifyFrame (h : LiveBut exempt s) {i : Nat} {f : AimFrame → AimFrame}
    (hf : ∀ cur, (f cur).conn = cur.conn ∧ (¬ exempt i → (f cur).handled = cur.handled)) :
    LiveBut exempt (s.modifyFrame i f) := by
  refine ⟨fun j cur hcur hne hzero => ?_, h.outgoing⟩
  rw [AimSession.modifyFrame, List.getElem?_modify] at hcur
  obtain ⟨cur', hcur', rfl⟩ := Option.map_eq_some_iff.mp hcur
  by_cases hj : i = j
  · subst hj
    rw [if_pos rfl] at hzero ⊢
    rw [(hf cur').1]
    exact h.incoming i cur' hcur' hne (((hf cur').2 hne).symm.trans hzero)
  · rw [if_neg hj] at hzero ⊢
    exact h.incoming j cur' hcur' hne hzero

theorem LiveBut.step {ok : Guard} (h : LiveBut exempt s) (hstep : Step ok s t) :
    LiveBut exempt t := by
  cases hstep with
  | newconn type outcome =>
    obtain ⟨conn, -, heq⟩ := aimNewconn_eq s type outcome
    exact heq ▸ h.same rfl rfl fun c hc => List.mem_cons_of_mem _ hc
  | addhandler family type handler flags hc =>
    unfold aimConnAddhandler
    split
    · exact h
    · split
      · exact h
      · exact h.same rfl rfl fun _ hc => hc
  | clearhandlers hc hok => exact h.same rfl rfl fun _ hc => hc
  | setenqueue what func hok =>
    obtain ⟨txEnqueue, heq, -⟩ := aimTxSetenqueue_eq s what func
    exact heq ▸ h.same rfl rfl fun _ hc => hc
  | enqueue hfr hok =>
    refine aimTxEnqueue_cases hfr h (fun fr' hmem _ => ?_) fun _ _ _ _ => ?_
    · obtain ⟨conn, heq, -⟩ := pushOutgoing_eq s fr'
      rw [heq]
      refine h.outgoing_of rfl rfl fun cur hcur => ?_
      rcases List.mem_append.mp hcur with hcur | hcur
      · exact Or.inl hcur
      · obtain rfl := List.mem_singleton.mp hcur
        exact Or.inr (by rwa [stampFrame_conn])
    · obtain ⟨conn, heq, -⟩ := sendNow_eq s _
      exact heq ▸ h.same rfl rfl fun _ hc => hc
  | flushqueue =>
    obtain ⟨wire, heq, -⟩ := aimTxFlushqueue_eq s
    rw [heq]
    exact h.outgoing_of rfl rfl fun cur hcur => Or.inl (List.mem_of_mem_filter hcur)
  | purgequeue =>
    exact h.outgoing_of rfl rfl fun cur hcur => Or.inl (List.mem_of_mem_filter hcur)
  | close hc => exact h.same rfl rfl fun _ hc => hc
  | kill c =>
    refine aimConnKill_cases h fun _ hkilled => h.killed (fun d hd hne => ?_) hkilled
    exact (List.mem_erase_of_ne fun heq => hne (List.mem_singleton.mpr heq)).mpr hd
  | logoff => exact h.killed (fun c hc hdead => absurd hc hdead) (aimLogoff_killed s)
  | established hc => exact h.same rfl rfl fun _ hc => hc
  | receive type seqnum data hc =>
    refine ⟨fun i cur hcur hne hzero => ?_, h.outgoing⟩
    rcases Nat.lt_or_ge i s.queueIncoming.length with hlt | hge
    · exact h.incoming i cur ((List.getElem?_append_left hlt).symm.trans hcur) hne hzero
    · have hlast := (List.getElem?_append_right hge).symm.trans hcur
      obtain rfl := List.mem_singleton.mp (List.mem_of_getElem? hlast)
      exact hc
  | read i data => exact h.modifyFrame fun cur => ⟨rfl, fun _ => rfl⟩

end Steps

/-! ## A turn -/

/-- If the connection of a frame is killed while the frame is dispatched, then the frame is
settled. -/
def Guard.settledIfKilled : Guard :=
  { Guard.any with
    turn := fun client turn =>
      turn.frame.handled = 0 → turn.frame.conn ∉ turn.after.connlist →
        Settles client turn.before turn.frame }

section Turn

variable {ok : Guard} {client : Client} {i : Nat} {sess sess' : AimSession} {cur : AimFrame}
  {calls : List (RxCall × Int)}

/-- Where no handler is called, no connection comes off the list. -/
theorem rxdispatchFrame_connlist
    (h : rxdispatchFrame client i cur (sess, []) = some ((), sess', [])) :
    sess'.connlist = sess.connlist := by
  have hstable : Stable client i fun st => st.2 = [] → st.1.connlist = sess.connlist :=
    ⟨fun _ _ _ hs => hs, fun _ _ _ hs => hs, fun _ _ _ _ hnil => absurd hnil (by simp)⟩
  exact hstable.rxdispatchFrame cur _ _ _ (fun _ => rfl) h rfl

theorem Live.turn (hclient : client.Calls ok) (hlive : Live sess)
    (hcur : sess.queueIncoming[i]? = some cur)
    (h : rxdispatchFrame client i cur (sess, []) = some ((), sess', calls))
    (hguard : cur.handled = 0 → cur.conn ∉ sess'.connlist → Settles client sess cur) :
    Live sess' := by
  by_cases hhandled : cur.handled = 0
  · have hstable : Stable client i fun st => LiveBut (· = i) st.1 :=
      ⟨fun s _ data hs => hs.modifyFrame fun _ => ⟨rfl, fun _ => rfl⟩,
        fun s _ v hs => hs.modifyFrame fun _ => ⟨rfl, fun hne => absurd rfl hne⟩,
        fun s _ c hs => hclient.inv (fun _ _ hstep hu => hu.step hstep) c hs⟩
    have hbut : LiveBut (· = i) sess' := hstable.rxdispatchFrame cur _ _ _
      ⟨fun j cur' hcur' _ => hlive.incoming j cur' hcur' id, hlive.outgoing⟩ h
    obtain ⟨hcalls, cur', hcur', -, hconn, hmark⟩ :=
      rxdispatchFrame_unhandled hclient hcur hhandled h
    refine ⟨fun j fr hfr _ hzero => ?_, hbut.outgoing⟩
    by_cases hj : j = i
    · -- the frame whose turn it was has lost its mark, so it was not settled
      subst hj
      obtain rfl : cur' = fr := Option.some.inj (hcur'.symm.trans hfr)
      rw [hconn]
      by_contra hkilled
      have hsettles := hguard hhandled hkilled
      by_cases hnil : candidates sess cur = []
      · rw [hnil] at hcalls
        obtain rfl : calls = [] := hcalls
        rw [rxdispatchFrame_connlist h] at hkilled
        exact hkilled (hlive.incoming j cur hcur id hhandled)
      · exact (hmark hnil).mpr hsettles hzero
    · exact hbut.incoming j fr hfr hj hzero
  · rw [rxdispatchFrame_of_handled hhandled] at h
    obtain ⟨rfl, -⟩ := Prod.mk.inj (Prod.mk.inj (Option.some.inj h)).2
    exact hlive

end Turn

/-! ## Runs -/

theorem Live.purged {s : AimSession} (h : Live s) : Live (aimPurgeRxqueue s) := by
  refine ⟨fun i cur hcur _ => ?_, h.outgoing⟩
  obtain ⟨j, hj⟩ := List.getElem?_of_mem (List.mem_of_mem_filter (List.mem_of_getElem? hcur))
  exact h.incoming j cur hj id

theorem Live.run {s t : AimSession} (h : Live s) (hrun : Run Guard.settledIfKilled s t) :
    Live t := by
  induction hrun with
  | refl => exact h
  | calls _ hcalls ih => exact hcalls.steps.inv (fun _ _ hstep hu => hu.step hstep) ih
  | purgeRxqueue _ ih => exact ih.purged
  | @rxdispatch t u client fuel turns _ hclient hdispatch hturns ih =>
    have hpass := aimRxdispatch_inv (Q := fun _ sess turns =>
      (∀ turn ∈ turns, Guard.settledIfKilled.turn client turn) → Live sess) ?_ (fun _ => ih) hdispatch
    · obtain ⟨_, sess, hlive, -, rfl⟩ := hpass
      exact (hlive hturns).purged
    · intro i sess turns cur sess' calls hlive hcur hframe hok
      have hbefore := hlive fun turn hturn => hok turn (List.mem_append_left _ hturn)
      exact hbefore.turn hclient hcur hframe
        (hok _ (List.mem_append_right _ (List.mem_singleton_self _)))

/-- In every run in which a frame whose connection is killed during its dispatch is settled, each
frame that is not handled, on either queue, belongs to a connection on the list. -/
theorem unhandled_frames_listed {modlistv : List AimModule} {s : AimSession}
    (h : Run Guard.settledIfKilled (aimSessionInit modlistv) s) :
    (∀ fr ∈ s.queueIncoming, fr.handled = 0 → fr.conn ∈ s.connlist) ∧
      ∀ fr ∈ s.queueOutgoing, fr.handled = 0 → fr.conn ∈ s.connlist := by
  have hinit : Live (aimSessionInit modlistv) :=
    ⟨fun _ _ hcur => absurd (List.mem_of_getElem? hcur) List.not_mem_nil,
      fun _ hcur => absurd hcur List.not_mem_nil⟩
  have hlive := hinit.run h
  refine ⟨fun fr hfr => ?_, hlive.outgoing⟩
  obtain ⟨i, hi⟩ := List.getElem?_of_mem hfr
  exact hlive.incoming i fr hi id

section Example

/-- A connection with a callback for FLAP version frames, and such a frame, just received. -/
def flapverSession : AimSession :=
  let sess := (aimNewconn (aimSessionInit []) aimConnTypeBos (.connected 3 0)).2
  let sess := (aimConnAddhandler sess 1 aimCbFamSpecial aimCbSpecialFlapver (some (.client 0)) 0).2
  (aimGetCommand .done id (fun sess => (0, sess)) sess 1 [[0x2a, 0x01, 0, 0, 0, 0]]).2.1

theorem flapverSession_calls (ok : Guard) : Calls ok (aimSessionInit []) flapverSession := by
  refine .getCommand _ _ (.addhandler _ _ _ _ (.newconn _ _ (.refl _)) ?_) ?_ (.refl _) (.refl _)
  · exact List.mem_singleton_self 1
  · exact List.mem_singleton_self 1

/-- A callback that kills the connection, with what it returns. -/
def killingClient (r : Int) : Client where
  ret := fun _ => r
  effect := fun _ sess => aimConnKill sess 1

theorem killingClient_calls (ok : Guard) (r : Int) : (killingClient r).Calls ok :=
  fun _ _ => .kill 1 (.refl _)

/-- The callback kills the connection of its frame and returns 1. -/
theorem unhandled_frames_listed_killed :
    ∃ s turns, aimRxdispatch (killingClient 1) 2 flapverSession = some (s, turns) ∧
      (∀ fr ∈ s.queueIncoming, fr.handled = 0 → fr.conn ∈ s.connlist) ∧
        ∀ fr ∈ s.queueOutgoing, fr.handled = 0 → fr.conn ∈ s.connlist := by
  obtain ⟨⟨s, turns⟩, hdispatch⟩ : ∃ r, aimRxdispatch (killingClient 1) 2 flapverSession = some r :=
    Option.isSome_iff_exists.mp (by decide)
  refine ⟨s, turns, hdispatch, @unhandled_frames_listed [] s ?_⟩
  exact .rxdispatch (.calls (.refl _) (flapverSession_calls _)) (killingClient_calls _ 1) hdispatch
    fun turn _ _ _ => settles_of_forall RxCall.settled_one _ _

/-- The callback kills the connection of its frame and returns 0: the frame stays on the queue. -/
theorem unhandled_frames_unlisted :
    ¬ ∀ s, Run Guard.any (aimSessionInit []) s →
      (∀ fr ∈ s.queueIncoming, fr.handled = 0 → fr.conn ∈ s.connlist) ∧
        ∀ fr ∈ s.queueOutgoing, fr.handled = 0 → fr.conn ∈ s.connlist := by
  intro h
  obtain ⟨⟨s, turns⟩, hdispatch⟩ : ∃ r, aimRxdispatch (killingClient 0) 2 flapverSession = some r :=
    Option.isSome_iff_exists.mp (by decide)
  have hframes : (aimRxdispatch (killingClient 0) 2 flapverSession).map (fun r =>
      (r.1.queueIncoming.map fun fr => (fr.handled, fr.conn), r.1.connlist)) =
        some ([(0, 1)], []) := by decide
  rw [hdispatch] at hframes
  obtain ⟨hqueue, hlist⟩ := Prod.mk.inj (Option.some.inj hframes)
  have hmem : ((0, 1) : UInt8 × ConnPtr) ∈ s.queueIncoming.map fun fr => (fr.handled, fr.conn) :=
    hqueue ▸ List.mem_singleton_self _
  obtain ⟨fr, hfr, hfields⟩ := List.mem_map.mp hmem
  have hlisted := (h s (.rxdispatch (.calls (.refl _) (flapverSession_calls _))
    (killingClient_calls _ 0) hdispatch fun _ _ => trivial)).1 fr hfr (Prod.mk.inj hfields).1
  rw [hlist] at hlisted
  exact List.not_mem_nil hlisted

end Example

end Libfaim
