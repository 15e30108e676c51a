import Libfaim.Conn.Select
import Libfaim.Modules
import Libfaim.Request
import Libfaim.Snac

/-!
# Killing a session (`conn.c`, `rxhandlers.c`)

`aim_session_kill` empties the cache of requests, kills all connections and takes the modules off
their list. It does not free the session, and a client may go on to use it: `logout` of `faimtest`
does. Nothing more is written then on the connections of before, but without the modules no SNAC
finds a handler, on any connection, until the session is initialized again
(`aimSessionKill_ends`).
-/

namespace Libfaim

/-- `aim__shutdownmodules`; no module has a `shutdown` function. -/
def aimShutdownmodules (sess : AimSession) : AimSession := { sess with modlistv := [] }

/-- `aim_session_kill`, where `time` is read for each chain of the cache. -/
def aimSessionKill (time : Fin faimSnacHashSize → Int) (s : Requester) : Requester :=
  let s := { s with snacs := aimCleansnacs time (-1) s.snacs }
  let s := { s with sess := aimLogoff s.sess }
  { s with sess := aimShutdownmodules s.sess }

/-! ## Connections that are gone -/

/-- All connections below an address are off the list, and what is written on them is settled. -/
structure Disconnected (heap : Nat) (wire : ConnPtr → List UInt8) (t : AimSession) : Prop where
  sound : Sound t
  heap_le : heap ≤ t.heap
  connlist : ∀ c ∈ t.connlist, heap ≤ c
  wire : ∀ c < heap, t.wire c = wire c

section Disconnected

variable {ok : Guard} {heap : Nat} {wire : ConnPtr → List UInt8} {s t : AimSession}

/-- A frame that is due is of a connection on the list. -/
theorem Disconnected.not_due (h : Disconnected heap wire s) {c : ConnPtr} (hc : c < heap) :
    ((s.due s.queueOutgoing).filter fun fr => fr.conn = c) = [] := by
  refine List.filter_eq_nil_iff.mpr fun fr hfr heq => ?_
  obtain ⟨hmem, hdue⟩ := List.mem_filter.mp hfr
  have hlisted := h.sound.outgoing fr hmem (of_decide_eq_true hdue).1
  have hle := h.connlist _ hlisted
  rw [of_decide_eq_true heq] at hle
  exact Nat.not_lt_of_le hle hc

theorem Disconnected.step (h : Disconnected heap wire s) (hstep : Step ok s t) :
    Disconnected heap wire t := by
  have hsound := h.sound.step hstep
  have htx := hstep.txStep h.sound.listed.nodup
  have hdue := fun c (hc : c < heap) => h.not_due hc
  obtain ⟨-, hle, hlist, hwire⟩ := h
  cases htx with
  | same hsame =>
    exact ⟨hsound, Nat.le_trans hle hsame.heap, hsame.connlist ▸ hlist, hsame.wire ▸ hwire⟩
  | opened conn _ =>
    refine ⟨hsound, Nat.le_succ_of_le hle, fun c hc => ?_, hwire⟩
    rcases List.mem_cons.mp hc with rfl | hc
    · exact hle
    · exact hlist c hc
  | mode what func _ =>
    obtain ⟨txEnqueue, heq, -⟩ := aimTxSetenqueue_eq s what func
    rw [heq] at hsound ⊢
    exact ⟨hsound, hle, hlist, hwire⟩
  | queued fr _ =>
    obtain ⟨conn, heq, -⟩ := pushOutgoing_eq s fr
    rw [heq] at hsound ⊢
    exact ⟨hsound, hle, hlist, hwire⟩
  | sent fr hmem =>
    obtain ⟨conn, heq, -⟩ := sendNow_eq s fr
    rw [heq] at hsound ⊢
    refine ⟨hsound, hle, hlist, fun c hc => ?_⟩
    have hne : c ≠ fr.conn := fun h => Nat.not_lt_of_le (hlist _ hmem) (h ▸ hc)
    exact (Function.update_of_ne hne ..).trans (hwire c hc)
  | flushed =>
    obtain ⟨wire', heq, hwire'⟩ := aimTxFlushqueue_eq s
    rw [heq] at hsound ⊢
    refine ⟨hsound, hle, hlist, fun c hc => ?_⟩
    change wire' c = wire c
    rw [hwire' c, hdue c hc, List.flatMap_nil, List.append_nil]
    exact hwire c hc
  | purged => exact ⟨hsound, hle, hlist, hwire⟩
  | killed dead connlist hsub _ hkilled =>
    obtain ⟨⟨conn, rfl⟩, -⟩ := hkilled
    exact ⟨hsound, hle, fun c hc => hlist c (hsub.subset hc), hwire⟩

theorem Disconnected.run (h : Disconnected heap wire s) (hrun : Run ok s t) :
    Disconnected heap wire t := by
  refine hrun.inv (fun _ _ hstep hu => hu.step hstep) (fun _ queue hu => ?_) h
  exact ⟨hu.sound.queueIncoming queue, hu.heap_le, hu.connlist, hu.wire⟩

end Disconnected

/-! ## Without modules -/

/-- The call is one of a module's `snachandler`. -/
def RxCall.OfModule : RxCall → Prop
  | snac _ _ _ => True
  | nonsnac _ _ _ => True
  | flapver _ _ => False
  | connerr _ _ _ _ => False

section Modules

variable {sess : AimSession} {cur : AimFrame}

theorem moduleCalls_nil (mkCall : AimModule → RxCall) (family : UInt16) :
    moduleCalls mkCall family [] = [] := rfl

theorem not_ofModule_of_callback (mkCall : Nat → RxCall) (hcall : ∀ func, ¬ (mkCall func).OfModule)
    {handler : Option AimRxcallback} {c : RxCall} (hc : c ∈ callbackCalls mkCall handler) :
    ¬ c.OfModule := by
  unfold callbackCalls at hc
  split at hc
  · next func =>
    obtain rfl := List.mem_singleton.mp hc
    exact hcall func
  · exact absurd hc List.not_mem_nil
  · exact absurd hc List.not_mem_nil

/-- Without modules a frame is for callbacks only. -/
theorem not_ofModule_of_candidate (hmods : sess.modlistv = []) {c : RxCall}
    (hc : c ∈ candidates sess cur) : ¬ c.OfModule := by
  unfold candidates snacCalls nonsnacCalls negchanCalls nonsnacCalls at hc
  rw [hmods] at hc
  simp only [moduleCalls_nil, ite_self, List.append_nil] at hc
  split at hc
  · exact absurd hc List.not_mem_nil
  split at hc
  · exact not_ofModule_of_callback (.flapver · cur.ptr) (fun _ h => h) hc
  split at hc
  · exact absurd hc List.not_mem_nil
  split at hc
  · split at hc
    · exact absurd hc List.not_mem_nil
    split at hc
    · exact absurd hc List.not_mem_nil
    split at hc
    · exact absurd hc List.not_mem_nil
    · next tlvlist _ _ =>
      exact not_ofModule_of_callback (connerrCall · cur.ptr tlvlist) (fun _ h => h) hc
  · exact absurd hc List.not_mem_nil

theorem offer_subset (ret : RxCall → Int) (cs : List RxCall) :
    ∀ c ∈ offer ret cs, c.1 ∈ cs := by
  induction cs with
  | nil => exact fun _ hc => absurd hc List.not_mem_nil
  | cons c next ih =>
    intro d hd
    unfold offer at hd
    split at hd
    · obtain rfl := List.mem_singleton.mp hd
      exact List.mem_cons_self
    · rcases List.mem_cons.mp hd with rfl | hd
      · exact List.mem_cons_self
      · exact List.mem_cons_of_mem _ (ih d hd)

theorem Run.modlistv_eq {ok : Guard} {s t : AimSession} (h : Run ok s t) :
    t.modlistv = s.modlistv :=
  h.inv (P := fun t => t.modlistv = s.modlistv)
    (fun _ _ hstep hs => (hstep.grown fun _ => False).modlistv.trans hs) (fun _ _ hs => hs) rfl

/-- In a session without modules no dispatch calls one. -/
theorem aimRxdispatch_noModule {client : Client} {fuel : Nat} {t u : AimSession}
    {turns : List Turn} (hclient : client.Calls Guard.any) (hmods : t.modlistv = [])
    (h : aimRxdispatch client fuel t = some (u, turns)) :
    ∀ turn ∈ turns, ∀ c ∈ turn.calls, ¬ c.1.OfModule := by
  have hpass := aimRxdispatch_inv (Q := fun _ sess turns => sess.modlistv = [] ∧
    ∀ turn ∈ turns, ∀ c ∈ turn.calls, ¬ c.1.OfModule) ?_
    ⟨hmods, fun _ h => absurd h List.not_mem_nil⟩ h
  · obtain ⟨_, _, hQ, -⟩ := hpass
    exact hQ.2
  · rintro i sess turns cur sess' calls ⟨hsess, hturns⟩ hcur hframe
    have hgrown := rxdispatchFrame_grown hclient hframe
    refine ⟨hgrown.modlistv.trans hsess, fun turn hturn => ?_⟩
    rcases List.mem_append.mp hturn with hturn | hturn
    · exact hturns turn hturn
    · obtain rfl := List.mem_singleton.mp hturn
      by_cases hhandled : cur.handled = 0
      · obtain ⟨hcalls, -⟩ := rxdispatchFrame_unhandled hclient hcur hhandled hframe
        intro c hc
        rw [hcalls] at hc
        exact not_ofModule_of_candidate hsess (offer_subset _ _ c hc)
      · rw [rxdispatchFrame_of_handled hhandled] at hframe
        obtain ⟨-, rfl⟩ := Prod.mk.inj (Prod.mk.inj (Option.some.inj hframe)).2
        exact fun c hc => absurd hc List.not_mem_nil

end Modules

/-! ## After the end -/

/-- What is cached stays only if it was issued after the clock was read. -/
theorem aimSessionKill_snacs (time : Fin faimSnacHashSize → Int) (s : Requester) :
    (∀ i, (aimSessionKill time s).snacs.snacHash i = []) ↔
      ∀ i, ∀ cur ∈ s.snacs.snacHash i, cur.issuetime ≤ time i := by
  refine forall_congr' fun i => ?_
  have hcache : (aimSessionKill time s).snacs.snacHash i =
      (s.snacs.snacHash i).filter fun cur => time i - cur.issuetime ≤ -1 :=
    aimCleansnacsLoop_eq (time i) (-1) _
  rw [hcache, List.filter_eq_nil_iff]
  refine forall₂_congr fun cur _ => ?_
  rw [decide_eq_true_eq]
  omega

theorem aimSessionKill_disconnected {s : Requester} (h : Sound s.sess)
    (time : Fin faimSnacHashSize → Int) :
    Disconnected s.sess.heap s.sess.wire (aimSessionKill time s).sess := by
  have hlogoff := @Sound.step Guard.any _ _ h .logoff
  obtain ⟨⟨conn, heq⟩, -⟩ := aimLogoff_killed s.sess
  have hsess : (aimSessionKill time s).sess = { aimLogoff s.sess with modlistv := [] } := rfl
  rw [heq] at hsess hlogoff
  rw [hsess]
  refine ⟨⟨?_, List.Pairwise.nil, hlogoff.outgoing⟩, Nat.le_refl _,
    fun _ hc => absurd hc List.not_mem_nil, fun _ _ => rfl⟩
  exact ⟨List.nodup_nil, fun _ hc => absurd hc List.not_mem_nil,
    fun _ hc => absurd hc List.not_mem_nil, h.listed.heap_pos⟩

/-- Killing a session after any run leaves no connection, and no request in the cache but those
issued after the clock was read. In every later run of the session nothing is written on the
connections of before, and no dispatch calls a module. -/
theorem aimSessionKill_ends {modlistv : List AimModule} {s : Requester}
    (h : Run Guard.any (aimSessionInit modlistv) s.sess) (time : Fin faimSnacHashSize → Int) :
    (aimSessionKill time s).sess.connlist = [] ∧
      ((∀ i, (aimSessionKill time s).snacs.snacHash i = []) ↔
        ∀ i, ∀ cur ∈ s.snacs.snacHash i, cur.issuetime ≤ time i) ∧
      ∀ t, Run Guard.any (aimSessionKill time s).sess t →
        (∀ c < s.sess.heap, c ∉ t.connlist ∧ t.wire c = s.sess.wire c) ∧
          ∀ client fuel u turns, client.Calls Guard.any →
            aimRxdispatch client fuel t = some (u, turns) →
            ∀ turn ∈ turns, ∀ c ∈ turn.calls, ¬ c.1.OfModule := by
  refine ⟨rfl, aimSessionKill_snacs time s, fun t hrun => ⟨fun c hc => ?_, ?_⟩⟩
  · have hdisc := (aimSessionKill_disconnected ((Sound.init modlistv).run h) time).run hrun
    exact ⟨fun hmem => Nat.not_lt_of_le (hdisc.connlist c hmem) hc, hdisc.wire c hc⟩
  · intro client fuel u turns hclient hdispatch
    exact aimRxdispatch_noModule hclient hrun.modlistv_eq hdispatch

section Example

/-- A session with a connection and a request in the cache. -/
def busyRequester : Requester where
  sess := (aimNewconn (aimSessionInit aimModlist) aimConnTypeBos (.connected 3 0)).2
  snacs := (aimCachesnac 4 6 0 [] 5 aimInitsnachash).2
  flags := 0
  passed := []

/-- The session is used again after it was killed: a connection is made, and a SNAC received. -/
def killedAgain : AimSession :=
  let sess := (aimNewconn (aimSessionKill (fun _ => 5) busyRequester).sess aimConnTypeAuth
    (.connected 4 0)).2
  (aimGetCommand .done id (fun sess => (0, sess)) sess 2
    [[0x2a, 0x02, 0, 0, 0, 10], [0, 0x17, 0, 3, 0, 0, 0, 0, 0, 1]]).2.1

theorem aimSessionKill_ends_again :
    (∀ i, (aimSessionKill (fun _ => 5) busyRequester).snacs.snacHash i = []) ∧
      ∃ u turn, aimRxdispatch ⟨fun _ => 0, fun _ sess => sess⟩ 2 killedAgain = some (u, [turn]) ∧
        ∀ c ∈ turn.calls, ¬ c.1.OfModule := by
  have hstart : Run Guard.any (aimSessionInit aimModlist) busyRequester.sess :=
    .calls (.refl _) (.newconn _ _ (.refl _))
  have hagain : Run Guard.any (aimSessionKill (fun _ => 5) busyRequester).sess killedAgain := by
    refine .calls (.refl _) (.getCommand _ _ (.newconn _ _ (.refl _)) ?_ (.refl _) (.refl _))
    exact List.mem_singleton_self 2
  obtain ⟨-, hsnacs, hlater⟩ := aimSessionKill_ends hstart fun _ => 5
  refine ⟨hsnacs.mpr (by decide), ?_⟩
  have hturns : (aimRxdispatch ⟨fun _ => 0, fun _ sess => sess⟩ 2 killedAgain).map
      (fun r => r.2.length) = some 1 := by decide
  obtain ⟨⟨u, turns⟩, hdispatch, hlength⟩ := Option.map_eq_some_iff.mp hturns
  obtain ⟨turn, rfl⟩ := List.length_eq_one_iff.mp hlength
  refine ⟨u, turn, hdispatch, ?_⟩
  exact (hlater killedAgain hagain).2 _ _ _ _ (fun _ _ => .refl _) hdispatch turn
    (List.mem_singleton_self _)

end Example

end Libfaim
