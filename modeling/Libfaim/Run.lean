import Mathlib.Logic.Relation
import Libfaim.RxHandlers.Rules

/-!
# Runs of a session

`Calls` is any sequence of calls the client makes on a session, with connections that are on the
session's list; callbacks called on the way make such sequences of calls themselves. `Run` has
`aim_rxdispatch` and `aim_purge_rxqueue` besides: these are not called from within a callback.
A `Guard` restricts the runs to those of interest.

Every call is made up of a few small steps (`Calls.steps`), so that an invariant of the steps, with
the dispatcher's own changes to the receive queue, is an invariant of the runs (`Run.inv`).
-/

namespace Libfaim

/-- What a run may do besides what it must: the connections whose handlers it may clear, the queue
modes it may choose, the frames it may enqueue in a session, and the turns its dispatches may
have. -/
structure Guard where
  clearhandlers : ConnPtr → Prop
  setenqueue : Int → Prop
  enqueue : AimSession → AimFrame → Prop
  turn : Client → Turn → Prop

def Guard.any : Guard := ⟨fun _ => True, fun _ => True, fun _ _ => True, fun _ _ => True⟩

/-- A received FLAP frame goes to the end of the receive queue. -/
def AimSession.receiveFlap (sess : AimSession) (c : ConnPtr) (type : UInt8) (seqnum : UInt16)
    (data : AimBstream) : AimSession :=
  { sess with
    queueIncoming := sess.queueIncoming ++ [⟨sess.heap, .flap type seqnum, data, 0, c⟩],
    heap := sess.heap + 1 }

/-- The small steps calls are made up of. -/
inductive Step (ok : Guard) (sess : AimSession) : AimSession → Prop where
  | newconn (type : UInt16) (outcome : ConnectOutcome) : Step ok sess (aimNewconn sess type outcome).2
  | addhandler {c : ConnPtr} (family type : UInt16) (handler : Option AimRxcallback)
      (flags : UInt16) : c ∈ sess.connlist →
      Step ok sess (aimConnAddhandler sess c family type handler flags).2
  | clearhandlers {c : ConnPtr} : c ∈ sess.connlist → ok.clearhandlers c →
      Step ok sess (sess.setConn c (aimClearhandlers (sess.conn c)))
  | setenqueue (what : Int) (func : Option Nat) : ok.setenqueue what →
      Step ok sess (aimTxSetenqueue sess what func).2
  | enqueue {fr : AimFrame} : sess.CanEnqueue fr → ok.enqueue sess fr →
      Step ok sess (aimTxEnqueue sess fr)
  | flushqueue : Step ok sess (aimTxFlushqueue sess)
  | purgequeue : Step ok sess (aimTxPurgequeue sess)
  | close {c : ConnPtr} : c ∈ sess.connlist → Step ok sess (aimConnClose sess c)
  | kill (c : ConnPtr) : Step ok sess (aimConnKill sess c)
  | logoff : Step ok sess (aimLogoff sess)
  | established {c : ConnPtr} : c ∈ sess.connlist → Step ok sess (connEstablished sess c)
  | receive {c : ConnPtr} (type : UInt8) (seqnum : UInt16) (data : AimBstream) :
      c ∈ sess.connlist → Step ok sess (sess.receiveFlap c type seqnum data)
  | read (i : Nat) (data : AimBstream) :
      Step ok sess (sess.modifyFrame i fun cur => { cur with data := data })

/-- Sequences of calls. The handlers of rendezvous connections, and callbacks, make such sequences
themselves, and may read on in a received frame. -/
inductive Calls (ok : Guard) : AimSession → AimSession → Prop where
  | refl (s : AimSession) : Calls ok s s
  | newconn {s t : AimSession} (type : UInt16) (outcome : ConnectOutcome) : Calls ok s t →
      Calls ok s (aimNewconn t type outcome).2
  | addhandler {s t : AimSession} {c : ConnPtr} (family type : UInt16)
      (handler : Option AimRxcallback) (flags : UInt16) : Calls ok s t → c ∈ t.connlist →
      Calls ok s (aimConnAddhandler t c family type handler flags).2
  | clearhandlers {s t : AimSession} {c : ConnPtr} : Calls ok s t → c ∈ t.connlist →
      ok.clearhandlers c → Calls ok s (t.setConn c (aimClearhandlers (t.conn c)))
  | setenqueue {s t : AimSession} (what : Int) (func : Option Nat) : Calls ok s t →
      ok.setenqueue what → Calls ok s (aimTxSetenqueue t what func).2
  | enqueue {s t : AimSession} {fr : AimFrame} : Calls ok s t → t.CanEnqueue fr →
      ok.enqueue t fr → Calls ok s (aimTxEnqueue t fr)
  | flushqueue {s t : AimSession} : Calls ok s t → Calls ok s (aimTxFlushqueue t)
  | purgequeue {s t : AimSession} : Calls ok s t → Calls ok s (aimTxPurgequeue t)
  | close {s t : AimSession} {c : ConnPtr} : Calls ok s t → c ∈ t.connlist →
      Calls ok s (aimConnClose t c)
  | kill {s t : AimSession} (c : ConnPtr) : Calls ok s t → Calls ok s (aimConnKill t c)
  | logoff {s t : AimSession} : Calls ok s t → Calls ok s (aimLogoff t)
  | completeconnect {s t : AimSession} {c : ConnPtr} (outcome : SelectOutcome)
      {userfunc : AimSession → AimSession} : Calls ok s t → c ∈ t.connlist →
      Calls ok (connEstablished t c) (userfunc (connEstablished t c)) →
      Calls ok s (aimConnCompleteconnect outcome userfunc t c).2
  | getCommand {s t : AimSession} {c : ConnPtr} (outcome : SelectOutcome)
      {userfunc : AimSession → AimSession} {rendezvous : AimSession → Int × AimSession}
      (sock : Socket) : Calls ok s t → c ∈ t.connlist →
      Calls ok (connEstablished t c) (userfunc (connEstablished t c)) →
      Calls ok t (rendezvous t).2 →
      Calls ok s (aimGetCommand outcome userfunc rendezvous t c sock).2.1
  | read {s t : AimSession} (i : Nat) (data : AimBstream) : Calls ok s t →
      Calls ok s (t.modifyFrame i fun cur => { cur with data := data })

/-- The handlers make calls. -/
def Client.Calls (ok : Guard) (client : Client) : Prop :=
  ∀ c sess, Libfaim.Calls ok sess (client.effect c sess)

/-- Sequences of calls with dispatches of the receive queue. -/
inductive Run (ok : Guard) : AimSession → AimSession → Prop where
  | refl (s : AimSession) : Run ok s s
  | calls {s t u : AimSession} : Run ok s t → Calls ok t u → Run ok s u
  | purgeRxqueue {s t : AimSession} : Run ok s t → Run ok s (aimPurgeRxqueue t)
  | rxdispatch {s t u : AimSession} {client : Client} {fuel : Nat} {turns : List Turn} :
      Run ok s t → client.Calls ok → aimRxdispatch client fuel t = some (u, turns) →
      (∀ turn ∈ turns, ok.turn client turn) → Run ok s u

/-! ## Calls are made up of steps -/

abbrev Steps (ok : Guard) : AimSession → AimSession → Prop := Relation.ReflTransGen (Step ok)

/-- Received bytes close the connection or make one frame. -/
theorem aimGetCommandFlap_cases {P : AimSession → Prop} {sess : AimSession} {c : ConnPtr}
    (hclose : P (aimConnClose sess c))
    (hreceive : ∀ type seqnum data, P (sess.receiveFlap c type seqnum data)) (sock : Socket) :
    P (aimGetCommandFlap sess c sock).2.1 := by
  dsimp only [aimGetCommandFlap]
  repeat' split
  all_goals first | exact hclose | exact hreceive _ _ _

section Steps

variable {ok : Guard} {s t : AimSession} {c : ConnPtr}

theorem aimConnCompleteconnect_steps {userfunc : AimSession → AimSession}
    (hc : c ∈ s.connlist) (hcb : Steps ok (connEstablished s c) (userfunc (connEstablished s c)))
    (outcome : SelectOutcome) : Steps ok s (aimConnCompleteconnect outcome userfunc s c).2 := by
  have hclose : Steps ok s (aimConnClose s c) := .single (.close hc)
  have hdone : Steps ok s (connEstablished s c) := .single (.established hc)
  unfold aimConnCompleteconnect
  split
  · exact .refl
  · split
    · exact .refl
    · cases outcome with
      | failed => exact hclose
      | pending => exact .refl
      | error => exact hclose
      | done =>
        refine .tail ?_ .flushqueue
        split
        · exact hdone.trans hcb
        · exact hdone
        · exact hdone

theorem aimGetCommand_steps {userfunc : AimSession → AimSession}
    {rendezvous : AimSession → Int × AimSession} (hc : c ∈ s.connlist)
    (hcb : Steps ok (connEstablished s c) (userfunc (connEstablished s c)))
    (hrendezvous : Steps ok s (rendezvous s).2) (outcome : SelectOutcome) (sock : Socket) :
    Steps ok s (aimGetCommand outcome userfunc rendezvous s c sock).2.1 := by
  dsimp only [aimGetCommand]
  split
  · exact .refl
  split
  · exact .refl
  split
  · exact .refl
  split
  · exact aimConnCompleteconnect_steps hc hcb outcome
  split
  · exact hrendezvous
  split
  · exact .refl
  refine aimGetCommandFlap_cases (P := Steps ok s) (.single (.close hc)) ?_ sock
  exact fun type seqnum data => .single (.receive type seqnum data hc)

/-- Every sequence of calls is a sequence of small steps. -/
theorem Calls.steps (h : Calls ok s t) : Steps ok s t := by
  induction h with
  | refl s => exact .refl
  | newconn type outcome _ ih => exact ih.tail (.newconn type outcome)
  | addhandler family type handler flags _ hc ih =>
    exact ih.tail (.addhandler family type handler flags hc)
  | clearhandlers _ hc hok ih => exact ih.tail (.clearhandlers hc hok)
  | setenqueue what func _ hok ih => exact ih.tail (.setenqueue what func hok)
  | enqueue _ hfr hok ih => exact ih.tail (.enqueue hfr hok)
  | flushqueue _ ih => exact ih.tail .flushqueue
  | purgequeue _ ih => exact ih.tail .purgequeue
  | close _ hc ih => exact ih.tail (.close hc)
  | kill c _ ih => exact ih.tail (.kill c)
  | logoff _ ih => exact ih.tail .logoff
  | completeconnect outcome _ hc _ ih ihcb =>
    exact ih.trans (aimConnCompleteconnect_steps hc ihcb outcome)
  | getCommand outcome sock _ hc _ _ ih ihcb ihr =>
    exact ih.trans (aimGetCommand_steps hc ihcb ihr outcome sock)
  | read i data _ ih => exact ih.tail (.read i data)

end Steps

/-! ## Invariants -/

section Invariants

variable {ok : Guard} {P : AimSession → Prop} {s t : AimSession}

theorem Steps.inv (hstep : ∀ s t, Step ok s t → P s → P t) (h : Steps ok s t) (hs : P s) : P t := by
  induction h with
  | refl => exact hs
  | tail _ hlast ih => exact hstep _ _ hlast ih

theorem Client.Calls.inv {client : Client} (hclient : client.Calls ok)
    (hstep : ∀ s t, Step ok s t → P s → P t) (c : RxCall) (hs : P s) : P (client.effect c s) :=
  (hclient c s).steps.inv hstep hs

/-- What the passes of a dispatch keep holds after it. -/
theorem aimRxdispatch_inv {client : Client} {fuel : Nat} {turns : List Turn}
    {Q : Nat → AimSession → List Turn → Prop}
    (hpass : ∀ i sess turns cur sess' calls, Q i sess turns →
      sess.queueIncoming[i]? = some cur →
      rxdispatchFrame client i cur (sess, []) = some ((), sess', calls) →
      Q (i + 1) sess' (turns ++ [⟨sess, cur, calls, sess'⟩]))
    (hs : Q 0 s []) (h : aimRxdispatch client fuel s = some (t, turns)) :
    ∃ i sess, Q i sess turns ∧ sess.queueIncoming[i]? = none ∧ t = aimPurgeRxqueue sess := by
  obtain ⟨⟨sess, turns'⟩, hrun, hpurge⟩ := Option.map_eq_some_iff.mp h
  obtain ⟨rfl, rfl⟩ := Prod.mk.inj hpurge
  have hpost := Loop.run_inv (fun st => Q st.1 st.2.1 st.2.2)
    (fun r => ∃ i, Q i r.1 r.2 ∧ r.1.queueIncoming[i]? = none) ?_ ?_ hs hrun
  · obtain ⟨i, hQ, hnone⟩ := hpost
    exact ⟨i, sess, hQ, hnone, rfl⟩
  · rintro ⟨i, sess, turns⟩ st hQ hbody
    obtain ⟨cur, sess', calls, hcur, hframe, rfl⟩ := rxdispatchPass_again hbody
    exact hpass i sess turns cur sess' calls hQ hcur hframe
  · rintro ⟨i, sess, turns⟩ r hQ hbody
    obtain ⟨hnone, rfl⟩ := rxdispatchPass_leave hbody
    exact ⟨i, hQ, hnone⟩

/-- An invariant of the steps that does not depend on the receive queue is one of the runs. -/
theorem Run.inv (hstep : ∀ s t, Step ok s t → P s → P t)
    (hqueue : ∀ s queue, P s → P { s with queueIncoming := queue }) (h : Run ok s t) (hs : P s) :
    P t := by
  induction h with
  | refl => exact hs
  | calls _ hcalls ih => exact hcalls.steps.inv hstep ih
  | purgeRxqueue _ ih => exact hqueue _ _ ih
  | @rxdispatch t u client fuel turns _ hclient hdispatch _ ih =>
    have hpass := aimRxdispatch_inv (Q := fun _ sess _ => P sess) ?_ ih hdispatch
    · obtain ⟨_, sess, hsess, -, rfl⟩ := hpass
      exact hqueue _ _ hsess
    · intro i sess turns cur sess' calls hsess _ hframe
      have hstable : Stable client i fun st => P st.1 :=
        ⟨fun _ _ _ => hqueue _ _, fun _ _ _ => hqueue _ _, fun _ _ c => hclient.inv hstep c⟩
      exact hstable.rxdispatchFrame cur _ _ _ hsess hframe

end Invariants

end Libfaim
