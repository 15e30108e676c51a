import Libfaim.Conn.Handlers
import Libfaim.Conn.Private.Calls
import Libfaim.Conn.Select

/-!
# The main loop of a client (`faimtest.c`)

`faimtest` waits with `aim_select` and acts on the status it gets: it flushes the transmit queue,
accepts a direct connection, or gets a command and dispatches it, and kills the connection if that
fails. What the network, the clock, the user and the callbacks do in one pass of the loop is a
parameter (`Surroundings`).

A pass in which `aim_select` does not call `select` must not leave things as they are, or the loop
spins. It does not, except for a listening connection that is closed and still on the list:
`aim_handlerendconnect` takes the failure of `accept` for nothing to accept, so that the connection
is returned forever and no other one is looked at (`mainLoop_waits`).
-/

namespace Libfaim

def aimCbFamOft : UInt16 := 0xfffe
def aimCbOftDirectiminitiate : UInt16 := 0x0005

/-! ## Accepting a connection -/

/-- `aim_handlerendconnect`, where `initiate` is the callback of the client. That gets no frame,
which `bleck` does not expect. -/
def aimHandlerendconnect (accepted : PrivSession.Accepted)
    (initiate : AimSession → Int × AimSession) (sess : AimSession) (cur : ConnPtr) : Option (Int × AimSession) :=
  if (sess.conn cur).fd = -1 ∨ accepted.fd = -1 then some (0, sess)
  else if ¬ accepted.inet then some (-1, aimConnClose sess cur)
  else
    let (newconn, sess) := aimCloneconn sess cur
    let conn := { sess.conn newconn with type := aimConnTypeRendezvous, fd := accepted.fd }
    let sess := sess.setConn newconn conn
    if conn.subtype = aimConnSubtypeOftDirectim then
      match aimCallhandler sess newconn aimCbFamOft aimCbOftDirectiminitiate with
      | none => some (0, sess)
      | some .bleck => none
      | some (.client _) => some (initiate sess)
    else if conn.subtype = aimConnSubtypeOftGetfile then some (0, sess)
    else some (-1, aimConnClose sess newconn)

/-- Closing a connection does the same to the session where it has private records. -/
theorem aimConnClose_sess {s t : PrivSession} {c : ConnPtr} (h : s.aimConnClose c = some t) :
    t.sess = aimConnClose s.sess c := by
  rcases PrivSession.aimConnClose_cases c h with ⟨_, _, _, _, _, rfl⟩ | ⟨_, _, _, _, _, _, _, rfl⟩
  · rfl
  · rfl

/-- The same with private records: accepting a connection does the same to the session. -/
theorem aimHandlerendconnect_sess {s t : PrivSession} {cur : ConnPtr}
    {accepted : PrivSession.Accepted} {userret ret r : Int} {sess : AimSession}
    (h : aimHandlerendconnect accepted (fun sess => (userret, sess)) s.sess cur = some (ret, sess))
    (hpriv : s.aimHandlerendconnect cur accepted ret = some (r, t)) : r = ret ∧ t.sess = sess := by
  unfold aimHandlerendconnect at h
  unfold PrivSession.aimHandlerendconnect at hpriv
  split at h
  · next hfd =>
    rw [if_pos hfd] at hpriv
    obtain ⟨rfl, rfl⟩ := Prod.mk.inj (Option.some.inj h)
    obtain ⟨rfl, rfl⟩ := Prod.mk.inj (Option.some.inj hpriv)
    exact ⟨rfl, rfl⟩
  next hfd =>
  rw [if_neg hfd] at hpriv
  split at h
  · next hinet =>
    rw [if_pos hinet] at hpriv
    obtain ⟨rfl, rfl⟩ := Prod.mk.inj (Option.some.inj h)
    obtain ⟨u, hclose, heq⟩ := Option.map_eq_some_iff.mp hpriv
    obtain ⟨rfl, rfl⟩ := Prod.mk.inj heq
    exact ⟨rfl, aimConnClose_sess hclose⟩
  next hinet =>
  rw [if_neg hinet] at hpriv
  dsimp only at h hpriv
  by_cases hdirect : ((s.aimCloneconn cur).2.sess.conn (s.aimCloneconn cur).1).subtype =
      aimConnSubtypeOftDirectim
  · have hdirect' : ((aimCloneconn s.sess cur).2.conn (aimCloneconn s.sess cur).1).subtype =
        aimConnSubtypeOftDirectim := hdirect
    rw [if_pos hdirect] at hpriv
    rw [if_pos hdirect'] at h
    obtain ⟨u, hprint, heq⟩ := Option.map_eq_some_iff.mp hpriv
    obtain ⟨rfl, rfl⟩ := Prod.mk.inj heq
    obtain ⟨_, _, _, _, -, rfl⟩ := PrivSession.printIp_cases hprint
    refine ⟨rfl, ?_⟩
    split at h
    · exact (Prod.mk.inj (Option.some.inj h)).2
    · cases h
    · exact (Prod.mk.inj (Option.some.inj h)).2
  have hdirect' : ¬ ((aimCloneconn s.sess cur).2.conn (aimCloneconn s.sess cur).1).subtype =
      aimConnSubtypeOftDirectim := hdirect
  rw [if_neg hdirect] at hpriv
  rw [if_neg hdirect'] at h
  by_cases hgetfile : ((s.aimCloneconn cur).2.sess.conn (s.aimCloneconn cur).1).subtype =
      aimConnSubtypeOftGetfile
  · have hgetfile' : ((aimCloneconn s.sess cur).2.conn (aimCloneconn s.sess cur).1).subtype =
        aimConnSubtypeOftGetfile := hgetfile
    rw [if_pos hgetfile] at hpriv
    rw [if_pos hgetfile'] at h
    obtain ⟨rfl, rfl⟩ := Prod.mk.inj (Option.some.inj h)
    obtain ⟨rfl, rfl⟩ := Prod.mk.inj (Option.some.inj hpriv)
    exact ⟨rfl, rfl⟩
  · have hgetfile' : ¬ ((aimCloneconn s.sess cur).2.conn (aimCloneconn s.sess cur).1).subtype =
        aimConnSubtypeOftGetfile := hgetfile
    rw [if_neg hgetfile] at hpriv
    rw [if_neg hgetfile'] at h
    obtain ⟨rfl, rfl⟩ := Prod.mk.inj (Option.some.inj h)
    obtain ⟨u, hclose, heq⟩ := Option.map_eq_some_iff.mp hpriv
    obtain ⟨rfl, rfl⟩ := Prod.mk.inj heq
    exact ⟨rfl, aimConnClose_sess hclose⟩

/-! ## The loop -/

/-- `aim_flap_nop` -/
def aimFlapNop (sess : AimSession) (c : ConnPtr) : Int × AimSession :=
  match aimTxNew sess c aimFrametypeFlap 0x05 0 with
  | none => (-enomem, sess)
  | some (fr, sess) => (0, aimTxEnqueue sess fr)

/-- What goes on around one pass of the loop. -/
structure Surroundings where
  select : Select
  /-- `priv.connected && ((time(NULL) - lastnop) > 30)` -/
  nopDue : Bool
  /-- `cmd_gotkey`, with `keepgoing` after it -/
  cmdGotkey : AimSession → Bool × AimSession
  accepted : PrivSession.Accepted
  initiate : AimSession → Int × AimSession
  outcome : SelectOutcome
  conncomplete : AimSession → AimSession
  rendezvous : AimSession → Int × AimSession
  sock : Socket
  client : Client
  fuel : Nat

/-- The user's commands and the callbacks make calls on the session. -/
structure Surroundings.Proper (env : Surroundings) : Prop where
  cmdGotkey : ∀ s, Calls Guard.any s (env.cmdGotkey s).2
  initiate : ∀ s, Calls Guard.any s (env.initiate s).2
  conncomplete : ∀ s, Calls Guard.any s (env.conncomplete s)
  rendezvous : ∀ s, Calls Guard.any s (env.rendezvous s).2
  client : env.client.Calls Guard.any

def stdinFileno : Int := 0

/-- One pass of the loop in `main`, with `keepgoing` after it; in mode 2 there is no user, and the
loop is left without a BOS connection. -/
def mainPass (mode : Nat) (env : Surroundings) (sess : AimSession) : Option (Bool × AimSession) :=
  let (waitingconn, selstat) := aimSelect env.select sess
  let sess :=
    if env.nopDue then (aimFlapNop sess (aimGetconnType sess aimConnTypeBos)).2 else sess
  if selstat = -1 then some (false, sess)
  else if selstat = 0 then some (true, sess)
  else if selstat = 1 then some (true, aimTxFlushqueue sess)
  else if mode < 2 ∧ (sess.conn waitingconn).fd = stdinFileno then some (env.cmdGotkey sess)
  else if (sess.conn waitingconn).type = aimConnTypeRendezvousOut then
    (aimHandlerendconnect env.accepted env.initiate sess waitingconn).map fun (ret, sess) =>
      (true, if ret < 0 then aimConnKill sess waitingconn else sess)
  else
    let (ret, sess, _) :=
      aimGetCommand env.outcome env.conncomplete env.rendezvous sess waitingconn env.sock
    if ret ≥ 0 then (aimRxdispatch env.client env.fuel sess).map fun (sess, _) => (true, sess)
    else
      let sess := aimConnKill sess waitingconn
      some (¬ (aimGetconnType sess aimConnTypeBos = 0 ∧ mode = 2), sess)

/-- Some passes of the loop, unless it is left before. -/
def mainPasses (mode : Nat) : (Nat → Surroundings) → Nat → AimSession → Option (Bool × AimSession)
  | _, 0, sess => some (true, sess)
  | env, n + 1, sess =>
    match mainPass mode (env 0) sess with
    | none => none
    | some (false, sess) => some (false, sess)
    | some (true, sess) => mainPasses mode (fun i => env (i + 1)) n sess

/-- The sessions with which a pass of the loop can begin. -/
inductive Reached (mode : Nat) (modlistv : List AimModule) : AimSession → Prop where
  | start {s : AimSession} : Calls Guard.any (aimSessionInit modlistv) s → Reached mode modlistv s
  | pass {s t : AimSession} {env : Surroundings} : Reached mode modlistv s → env.Proper →
      mainPass mode env s = some (true, t) → Reached mode modlistv t

/-! ## What the loop keeps -/

section Sound

variable {s t : AimSession}

/-- A new address, and no more. -/
theorem Sound.alloc (h : Sound s) : Sound { s with heap := s.heap + 1 } where
  listed := ⟨h.listed.nodup, fun c hc => Nat.lt_succ_of_lt (h.listed.lt c hc), h.listed.ne_null,
    Nat.succ_pos _⟩
  newestFirst := h.newestFirst
  outgoing := h.outgoing

theorem Sound.handlerendconnect (h : Sound s) {accepted : PrivSession.Accepted}
    {initiate : AimSession → Int × AimSession} {cur : ConnPtr} {ret : Int}
    (hinitiate : ∀ s, Calls Guard.any s (initiate s).2)
    (heq : aimHandlerendconnect accepted initiate s cur = some (ret, t)) : Sound t := by
  have hclone := (h.cloneconn cur).setConn (aimCloneconn s cur).1
    { (aimCloneconn s cur).2.conn (aimCloneconn s cur).1 with
      type := aimConnTypeRendezvous, fd := accepted.fd }
  unfold aimHandlerendconnect at heq
  split at heq
  · obtain ⟨-, rfl⟩ := Prod.mk.inj (Option.some.inj heq)
    exact h
  · split at heq
    · obtain ⟨-, rfl⟩ := Prod.mk.inj (Option.some.inj heq)
      exact h.setConn cur _
    · dsimp only at heq
      split at heq
      · split at heq
        · obtain ⟨-, rfl⟩ := Prod.mk.inj (Option.some.inj heq)
          exact hclone
        · cases heq
        · have hcalls := hclone.calls (hinitiate _)
          rwa [Option.some.inj heq] at hcalls
      · split at heq
        · obtain ⟨-, rfl⟩ := Prod.mk.inj (Option.some.inj heq)
          exact hclone
        · obtain ⟨-, rfl⟩ := Prod.mk.inj (Option.some.inj heq)
          exact hclone.setConn _ _

theorem aimTxEnqueue_connlist {fr : AimFrame} (h : s.CanEnqueue fr) :
    (aimTxEnqueue s fr).connlist = s.connlist := by
  refine aimTxEnqueue_cases (P := fun t => t.connlist = s.connlist) h rfl (fun fr' _ _ => ?_)
    fun _ _ _ _ => ?_
  · obtain ⟨conn, heq, -⟩ := pushOutgoing_eq s fr'
    rw [heq]
  · obtain ⟨conn, heq, -⟩ := sendNow_eq s fr
    rw [heq]

/-- The frame goes to the connection that was found, which is on the list. -/
theorem Sound.flapNop (h : Sound s) :
    Sound (aimFlapNop s (aimGetconnType s aimConnTypeBos)).2 ∧
      (aimFlapNop s (aimGetconnType s aimConnTypeBos)).2.connlist = s.connlist := by
  unfold aimFlapNop
  cases hnew : aimTxNew s (aimGetconnType s aimConnTypeBos) aimFrametypeFlap 0x05 0 with
  | none => exact ⟨h, rfl⟩
  | some made =>
    obtain ⟨fr, t⟩ := made
    obtain ⟨hconn, rfl⟩ := aimTxNew_alloc hnew
    have hne : aimGetconnType s aimConnTypeBos ≠ 0 := by
      intro hzero
      rw [hzero, aimTxNew, if_pos rfl] at hnew
      cases hnew
    have hcan : { s with heap := s.heap + 1 }.CanEnqueue fr := by
      refine Or.inl ?_
      rw [hconn]
      exact aimGetconnType_mem hne
    refine ⟨@Sound.step Guard.any _ _ h.alloc (.enqueue hcan trivial), ?_⟩
    exact aimTxEnqueue_connlist hcan

theorem aimSelect_mem {select : Select} (h : (aimSelect select s).2 = 2) :
    (aimSelect select s).1 ∈ s.connlist := by
  refine aimSelect_cases (P := fun r => r.2 = 2 → r.1 ∈ s.connlist) select
    (fun _ h => absurd h (by simp)) (fun c hfind _ => List.mem_of_find?_eq_some hfind)
    (fun _ _ _ _ h => absurd h (by simp)) (fun hwaits => ?_) h
  obtain ⟨fds, wfds, -, -, heq⟩ := aimSelect_waits select hwaits
  rw [heq]
  cases select (aimConngetmaxfd s + 1) fds wfds with
  | ready fds' wfds' =>
    rw [selectOutcome]
    cases hfind : s.connlist.find? fun cur => (s.conn cur).Isset fds' wfds' with
    | none => exact fun h => absurd h (by simp)
    | some c => exact fun _ => List.mem_of_find?_eq_some hfind
  | timeout => exact fun h => absurd h (by simp [selectOutcome])
  | interrupted => exact fun h => absurd h (by simp [selectOutcome])
  | failed => exact fun h => absurd h (by simp [selectOutcome])

theorem aimSelect_status (select : Select) (s : AimSession) :
    (aimSelect select s).2 = -1 ∨ (aimSelect select s).2 = 0 ∨ (aimSelect select s).2 = 1 ∨
      (aimSelect select s).2 = 2 := by
  refine aimSelect_cases (P := fun r => r.2 = -1 ∨ r.2 = 0 ∨ r.2 = 1 ∨ r.2 = 2) select
    (fun _ => by simp) (fun c _ => by simp) (fun _ _ _ _ => by simp) fun hwaits => ?_
  obtain ⟨fds, wfds, -, -, heq⟩ := aimSelect_waits select hwaits
  rw [heq]
  cases select (aimConngetmaxfd s + 1) fds wfds with
  | ready fds' wfds' =>
    rw [selectOutcome]
    cases s.connlist.find? fun cur => (s.conn cur).Isset fds' wfds' <;> simp
  | timeout => simp [selectOutcome]
  | interrupted => simp [selectOutcome]
  | failed => simp [selectOutcome]

theorem Sound.kill (h : Sound s) (c : ConnPtr) : Sound (aimConnKill s c) :=
  @Sound.step Guard.any _ _ h (.kill c)

theorem Sound.rxdispatch (h : Sound s) {client : Client} (hclient : client.Calls Guard.any)
    {fuel : Nat} {turns : List Turn} (heq : aimRxdispatch client fuel s = some (t, turns)) :
    Sound t :=
  h.run (.rxdispatch (.refl s) hclient heq fun _ _ => trivial)

theorem Sound.getCommand (h : Sound s) {env : Surroundings} (henv : env.Proper) {c : ConnPtr}
    (hc : c ∈ s.connlist) :
    Sound (aimGetCommand env.outcome env.conncomplete env.rendezvous s c env.sock).2.1 :=
  h.calls (.getCommand env.outcome env.sock (.refl s) hc (henv.conncomplete _) (henv.rendezvous _))

/-- A pass keeps what the loop needs, whatever goes on around it. -/
theorem Sound.pass (h : Sound s) {mode : Nat} {env : Surroundings} (henv : env.Proper)
    {keepgoing : Bool} (heq : mainPass mode env s = some (keepgoing, t)) : Sound t := by
  obtain ⟨u, hu, hlist, hnop⟩ : ∃ u, Sound u ∧ u.connlist = s.connlist ∧
      (if env.nopDue then (aimFlapNop s (aimGetconnType s aimConnTypeBos)).2 else s) = u := by
    refine ⟨_, ?_, ?_, rfl⟩
    · split
      · exact h.flapNop.1
      · exact h
    · split
      · exact h.flapNop.2
      · rfl
  unfold mainPass at heq
  dsimp only at heq
  rw [hnop] at heq
  split at heq
  · obtain ⟨-, rfl⟩ := Prod.mk.inj (Option.some.inj heq)
    exact hu
  next hfailed =>
  split at heq
  · obtain ⟨-, rfl⟩ := Prod.mk.inj (Option.some.inj heq)
    exact hu
  next hnone =>
  split at heq
  · obtain ⟨-, rfl⟩ := Prod.mk.inj (Option.some.inj heq)
    exact @Sound.step Guard.any _ _ hu .flushqueue
  next hqueued =>
  have hmem : (aimSelect env.select s).1 ∈ u.connlist := by
    have hstatus := aimSelect_status env.select s
    exact hlist ▸ aimSelect_mem (by tauto)
  split at heq
  · have hcalls := hu.calls (henv.cmdGotkey u)
    rwa [Option.some.inj heq] at hcalls
  split at heq
  · obtain ⟨⟨ret, v⟩, hrend, hret⟩ := Option.map_eq_some_iff.mp heq
    obtain ⟨-, rfl⟩ := Prod.mk.inj hret
    have hv := hu.handlerendconnect henv.initiate hrend
    split
    · exact hv.kill _
    · exact hv
  · have hv := hu.getCommand henv hmem
    split at heq
    · obtain ⟨⟨v, turns⟩, hdispatch, hret⟩ := Option.map_eq_some_iff.mp heq
      obtain ⟨-, rfl⟩ := Prod.mk.inj hret
      exact hv.rxdispatch henv.client hdispatch
    · obtain ⟨-, rfl⟩ := Prod.mk.inj (Option.some.inj heq)
      exact hv.kill _

theorem Reached.sound {mode : Nat} {modlistv : List AimModule} (h : Reached mode modlistv s) :
    Sound s := by
  induction h with
  | start hcalls => exact (Sound.init modlistv).calls hcalls
  | pass _ henv heq ih => exact ih.pass henv heq

end Sound

/-! ## Passes that do not wait -/

/-- The closed connections on the list. -/
def AimSession.closed (s : AimSession) : List ConnPtr :=
  s.connlist.filter fun c => (s.conn c).fd = -1

/-- The next pass waits in `select`, or leaves the loop because there are no connections. -/
def AimSession.Idle (s : AimSession) : Prop := s.Waits ∨ s.connlist = []

/-- There is a BOS connection, and it is open and connected. -/
def AimSession.OnLine (s : AimSession) : Prop :=
  ∃ c ∈ s.connlist, (s.conn c).type = aimConnTypeBos ∧ (s.conn c).fd ≠ -1 ∧ ¬ (s.conn c).Inprogress

section Passes

variable {s : AimSession} {mode : Nat} {env : Surroundings} {c : ConnPtr}

theorem find_closed : (s.connlist.find? fun cur => (s.conn cur).fd = -1) = s.closed.head? := by
  rw [AimSession.closed, List.head?_filter]

theorem mem_closed : c ∈ s.closed ↔ c ∈ s.connlist ∧ (s.conn c).fd = -1 := by
  simp only [AimSession.closed, List.mem_filter, decide_eq_true_eq]

/-- A closed connection that does not listen is killed. -/
theorem mainPass_closed (hquiet : env.nopDue = false) (hclosed : s.closed.head? = some c)
    (htype : (s.conn c).type ≠ aimConnTypeRendezvousOut) (hne : c ≠ 0) :
    mainPass mode env s =
      some (decide (¬ (aimGetconnType (aimConnKill s c) aimConnTypeBos = 0 ∧ mode = 2)),
        aimConnKill s c) := by
  have hfd : (s.conn c).fd = -1 := (mem_closed.mp (List.mem_of_mem_head? hclosed)).2
  have hstdin : ¬ (mode < 2 ∧ (s.conn c).fd = stdinFileno) := by
    rw [hfd]
    exact fun h => absurd h.2 (by decide)
  have hcommand : aimGetCommand env.outcome env.conncomplete env.rendezvous s c env.sock =
      (-1, s, env.sock) := by
    rw [aimGetCommand, if_neg hne, if_pos hfd]
  unfold mainPass
  rw [aimSelect_closed env.select (find_closed.trans hclosed), hquiet]
  simp only [Bool.false_eq_true, if_false, if_neg hstdin, if_neg htype, hcommand]
  rfl

/-- A closed connection that listens is left as it is. -/
theorem mainPass_listener (hquiet : env.nopDue = false) (hclosed : s.closed.head? = some c)
    (htype : (s.conn c).type = aimConnTypeRendezvousOut) :
    mainPass mode env s = some (true, s) := by
  have hfd : (s.conn c).fd = -1 := (mem_closed.mp (List.mem_of_mem_head? hclosed)).2
  have hstdin : ¬ (mode < 2 ∧ (s.conn c).fd = stdinFileno) := by
    rw [hfd]
    exact fun h => absurd h.2 (by decide)
  have haccept : aimHandlerendconnect env.accepted env.initiate s c = some (0, s) := by
    rw [aimHandlerendconnect, if_pos (Or.inl hfd)]
  unfold mainPass
  rw [aimSelect_closed env.select (find_closed.trans hclosed), hquiet]
  simp only [Bool.false_eq_true, if_false, if_neg hstdin, if_pos htype, haccept]
  rfl

/-- Queued frames are flushed when all connections are open and connected. -/
theorem mainPass_queued (hquiet : env.nopDue = false)
    (hqueued : (aimSelect env.select s).2 = 1) :
    mainPass mode env s = some (true, aimTxFlushqueue s) := by
  unfold mainPass
  simp only [hquiet, hqueued]
  rfl

/-- What is left when a closed connection is killed. -/
theorem aimConnKill_closed (hsound : Sound s) (hc : c ∈ s.connlist) (hfd : (s.conn c).fd = -1) :
    (aimConnKill s c).connlist = s.connlist.erase c ∧ (aimConnKill s c).conn = s.conn := by
  have hnot : ¬ (c = 0 ∨ c ∉ s.connlist) := by
    rintro (rfl | hnot)
    · exact hsound.listed.ne_null 0 hc rfl
    · exact hnot hc
  rw [aimConnKill, if_neg hnot, connkillReal]
  have hshut : ¬ ((aimTxCleanqueue (aimRxqueueCleanbyconn
      { s with connlist := s.connlist.erase c } c) c).conn c).fd ≠ -1 := fun h => h hfd
  rw [if_neg hshut]
  exact ⟨rfl, rfl⟩

/-- One closed connection less. -/
theorem closed_kill (hsound : Sound s) {rest : List ConnPtr} (hclosed : s.closed = c :: rest) :
    (aimConnKill s c).closed = rest := by
  have hmem : c ∈ s.closed := hclosed ▸ List.mem_cons_self
  obtain ⟨hc, hfd⟩ := mem_closed.mp hmem
  obtain ⟨hlist, hconn⟩ := aimConnKill_closed hsound hc hfd
  have hfilter : (s.connlist.filter fun c => (s.conn c).fd = -1) = c :: rest := hclosed
  rw [AimSession.closed, hlist, hconn, ← List.erase_filter, hfilter, List.erase_cons_head]

theorem AimSession.OnLine.kill (hsound : Sound s) (hc : c ∈ s.connlist) (hfd : (s.conn c).fd = -1)
    (h : s.OnLine) : (aimConnKill s c).OnLine := by
  obtain ⟨d, hd, htype, hopen, hdone⟩ := h
  obtain ⟨hlist, hconn⟩ := aimConnKill_closed hsound hc hfd
  have hne : d ≠ c := fun heq => hopen (heq ▸ hfd)
  refine ⟨d, ?_, by rw [hconn]; exact ⟨htype, hopen, hdone⟩⟩
  rw [hlist]
  exact (List.mem_erase_of_ne hne).mpr hd

theorem AimSession.OnLine.getconn (hsound : Sound s) (h : s.OnLine) :
    aimGetconnType s aimConnTypeBos ≠ 0 := by
  obtain ⟨d, hd, htype, -, hdone⟩ := h
  intro hzero
  have hnewest := hsound.find_newest fun conn => conn.type = aimConnTypeBos ∧ ¬ conn.Inprogress
  change s.Newest _ (aimGetconnType s aimConnTypeBos) at hnewest
  rw [hzero, AimSession.Newest, if_pos rfl] at hnewest
  exact hnewest d hd ⟨htype, hdone⟩

/-- No closed connection and nothing to wait for: the frames on the queue are the reason. -/
theorem mainPass_flush (hsound : Sound s) (hquiet : env.nopDue = false) (hclosed : s.closed = [])
    (hidle : ¬ s.Idle) :
    ∃ t, mainPass mode env s = some (true, t) ∧ t.Idle := by
  have hopen : ∀ c ∈ s.connlist, (s.conn c).fd ≠ -1 := by
    intro c hc hfd
    exact List.ne_nil_of_mem (mem_closed.mpr ⟨hc, hfd⟩) hclosed
  have hne : s.connlist ≠ [] := fun hnil => hidle (Or.inr hnil)
  have hqueue : s.queueOutgoing ≠ [] := fun hnil => hidle (Or.inl ⟨hne, hopen, Or.inl hnil⟩)
  have hdone : ∀ c ∈ s.connlist, ¬ (s.conn c).Inprogress := fun c hc hin =>
    hidle (Or.inl ⟨hne, hopen, Or.inr ⟨c, hc, hin⟩⟩)
  have hstatus : (aimSelect env.select s).2 = 1 := by
    rw [aimSelect_queued env.select hne hopen hdone hqueue]
  obtain ⟨wire, hflush⟩ := hsound.flush hdone
  refine ⟨_, mainPass_queued hquiet hstatus, Or.inl ?_⟩
  rw [hflush]
  exact ⟨hne, hopen, Or.inl rfl⟩

theorem not_idle_of_closed (h : c ∈ s.closed) : ¬ s.Idle := by
  obtain ⟨hc, hfd⟩ := mem_closed.mp h
  rintro (hwaits | hnil)
  · exact hwaits.opened c hc hfd
  · exact List.ne_nil_of_mem hc hnil

end Passes

/-- Without a closed listening connection, the passes before the next wait are no more than the
closed connections and one. -/
theorem mainPasses_idle {s : AimSession} (mode : Nat) (env : Nat → Surroundings)
    (hsound : Sound s) (hquiet : ∀ n, (env n).nopDue = false)
    (hlisten : ∀ c ∈ s.closed, (s.conn c).type ≠ aimConnTypeRendezvousOut) :
    ∃ n ≤ s.closed.length + 1, ∃ keepgoing t,
      mainPasses mode env n s = some (keepgoing, t) ∧ (keepgoing = true → t.Idle) := by
  induction hclosed : s.closed generalizing s env with
  | nil =>
    by_cases hidle : s.Idle
    · exact ⟨0, Nat.zero_le _, true, s, rfl, fun _ => hidle⟩
    · obtain ⟨t, hpass, ht⟩ := @mainPass_flush s mode (env 0) hsound (hquiet 0) hclosed hidle
      refine ⟨1, Nat.le_refl _, true, t, ?_, fun _ => ht⟩
      rw [mainPasses, hpass]
      rfl
  | cons c rest ih =>
    have hmem : c ∈ s.closed := hclosed ▸ List.mem_cons_self
    obtain ⟨hc, hfd⟩ := mem_closed.mp hmem
    have hkill := closed_kill hsound hclosed
    obtain ⟨hlist, hconn⟩ := aimConnKill_closed hsound hc hfd
    have hpass := @mainPass_closed s mode (env 0) c (hquiet 0) (by rw [hclosed]; rfl)
      (hlisten c hmem) (hsound.listed.ne_null c hc)
    by_cases hleft : aimGetconnType (aimConnKill s c) aimConnTypeBos = 0 ∧ mode = 2
    · refine ⟨1, Nat.succ_le_succ (Nat.zero_le _), false, aimConnKill s c, ?_, fun h => absurd h ?_⟩
      · rw [mainPasses, hpass, decide_eq_false (not_not.mpr hleft)]
      · exact Bool.false_ne_true
    · have hrest : ∀ d ∈ (aimConnKill s c).closed,
          ((aimConnKill s c).conn d).type ≠ aimConnTypeRendezvousOut := by
        intro d hd
        rw [hkill] at hd
        rw [hconn]
        exact hlisten d (hclosed ▸ List.mem_cons_of_mem _ hd)
      obtain ⟨n, hn, keepgoing, t, hpasses, ht⟩ :=
        ih (fun i => env (i + 1)) (hsound.kill c) (fun n => hquiet (n + 1)) hrest hkill
      refine ⟨n + 1, Nat.succ_le_succ hn, keepgoing, t, ?_, ht⟩
      rw [mainPasses, hpass, decide_eq_true hleft]
      exact hpasses

/-- A closed listening connection stays, and the loop never waits. -/
theorem mainPasses_spin {s : AimSession} {c : ConnPtr} {mode : Nat} {env : Nat → Surroundings}
    (hsound : Sound s) (hquiet : ∀ n, (env n).nopDue = false) (hbos : mode = 2 → s.OnLine)
    (hc : c ∈ s.closed) (htype : (s.conn c).type = aimConnTypeRendezvousOut) (n : Nat) :
    ∃ t, mainPasses mode env n s = some (true, t) ∧ ¬ t.Idle := by
  induction n generalizing s env with
  | zero => exact ⟨s, rfl, not_idle_of_closed hc⟩
  | succ n ih =>
    rw [mainPasses]
    cases hclosed : s.closed with
    | nil => exact absurd hclosed (List.ne_nil_of_mem hc)
    | cons d rest =>
      have hhead : s.closed.head? = some d := by rw [hclosed]; rfl
      obtain ⟨hd, hfd⟩ := mem_closed.mp (List.mem_of_mem_head? hhead)
      by_cases hlisten : (s.conn d).type = aimConnTypeRendezvousOut
      · rw [mainPass_listener (hquiet 0) hhead hlisten]
        exact ih hsound (fun n => hquiet (n + 1)) hbos hc htype
      · -- another one is killed first
        have hkill := closed_kill hsound hclosed
        obtain ⟨hlist, hconn⟩ := aimConnKill_closed hsound hd hfd
        have hbos' : mode = 2 → (aimConnKill s d).OnLine := fun h => (hbos h).kill hsound hd hfd
        have hgo : ¬ (aimGetconnType (aimConnKill s d) aimConnTypeBos = 0 ∧ mode = 2) :=
          fun h => (hbos' h.2).getconn (hsound.kill d) h.1
        have hrest : c ∈ (aimConnKill s d).closed := by
          rw [hkill]
          rw [hclosed] at hc
          exact (List.mem_cons.mp hc).resolve_left fun heq => hlisten (heq ▸ htype)
        rw [mainPass_closed (hquiet 0) hhead hlisten (hsound.listed.ne_null d hd),
          decide_eq_true hgo]
        exact ih (hsound.kill d) (fun n => hquiet (n + 1)) hbos' hrest (hconn ▸ htype)

/-- From every state the loop reaches, while no keep-alive frame is due: if no closed connection on
the list is a listening one, then within one pass for each closed connection and one more the loop
waits in `select` or ends; otherwise, with a BOS connection that is up in mode 2, it goes on forever
without waiting. -/
theorem mainLoop_waits {mode : Nat} {modlistv : List AimModule} {s : AimSession}
    (h : Reached mode modlistv s) {env : Nat → Surroundings}
    (hquiet : ∀ n, (env n).nopDue = false) :
    ((∀ c ∈ s.closed, (s.conn c).type ≠ aimConnTypeRendezvousOut) →
      ∃ n ≤ s.closed.length + 1, ∃ keepgoing t,
        mainPasses mode env n s = some (keepgoing, t) ∧ (keepgoing = true → t.Idle)) ∧
      ((∃ c ∈ s.closed, (s.conn c).type = aimConnTypeRendezvousOut) → (mode = 2 → s.OnLine) →
        ∀ n, ∃ t, mainPasses mode env n s = some (true, t) ∧ ¬ t.Idle) := by
  refine ⟨mainPasses_idle mode env h.sound hquiet, ?_⟩
  rintro ⟨c, hc, htype⟩ hbos n
  exact mainPasses_spin h.sound hquiet hbos hc htype n

section Example

/-- A listening connection that was closed and not killed. -/
def closedListener : AimSession :=
  aimConnClose (aimNewconn (aimSessionInit []) aimConnTypeRendezvousOut (.connected 3 0)).2 1

/-- Nothing happens. -/
def quietSurroundings : Surroundings where
  select := fun _ _ _ => .timeout
  nopDue := false
  cmdGotkey := fun sess => (true, sess)
  accepted := ⟨-1, false, []⟩
  initiate := fun sess => (0, sess)
  outcome := .pending
  conncomplete := id
  rendezvous := fun sess => (0, sess)
  sock := []
  client := ⟨fun _ => 0, fun _ sess => sess⟩
  fuel := 0

theorem mainLoop_waits_closedListener :
    (∃ n ≤ 1, ∃ keepgoing t,
      mainPasses 0 (fun _ => quietSurroundings) n (aimSessionInit []) = some (keepgoing, t) ∧
        (keepgoing = true → t.Idle)) ∧
      ∃ t, mainPasses 0 (fun _ => quietSurroundings) 1000 closedListener = some (true, t) ∧
        ¬ t.Idle := by
  have hcalls : Calls Guard.any (aimSessionInit []) closedListener :=
    .close (.newconn _ _ (.refl _)) (by decide)
  refine ⟨(@mainLoop_waits 0 [] (aimSessionInit []) (.start (.refl _)) _ fun _ => rfl).1 ?_, ?_⟩
  · exact fun c hc => absurd hc (by decide +revert)
  · exact (@mainLoop_waits 0 [] closedListener (.start hcalls) _ fun _ => rfl).2
      ⟨1, by decide, by decide⟩ (fun h => absurd h (by decide)) 1000

end Example

end Libfaim
