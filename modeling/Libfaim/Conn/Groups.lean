import Libfaim.Conn.Handlers
import Libfaim.Conn.Select
import Libfaim.Service.Frames

/-!
# Which connection a SNAC is sent on (`conn.c`)

Requests are not sent on a connection the client names but on one whose host has offered the SNAC's
family in a host-online packet: `aim_conn_findbygroup` looks through the list of connections for it.
The groups of a connection are those of the packets it has received since it was opened, and the
list has the newest connection first. So in every run a family's requests go to the newest
connection that was offered it, and they go on to it until it is killed or a newer one is offered
the family (`routes`). Closing a connection does not take its groups away.
-/

namespace Libfaim

/-- A session, with what `inside` of each connection points to. The packets a connection has
received are not part of the C structures. -/
structure RoutedSession where
  sess : AimSession
  inside : ConnPtr → ServiceInside
  received : ConnPtr → List ServicePacket

/-- `aim_conn_findbygroup` -/
def aimConnFindbygroup (s : RoutedSession) (group : UInt16) : ConnPtr :=
  (s.sess.connlist.find? fun cur => group ∈ (s.inside cur).groups).getD 0

namespace RoutedSession

def init (modlistv : List AimModule) : RoutedSession :=
  ⟨aimSessionInit modlistv, fun _ => ⟨[], []⟩, fun _ => []⟩

/-- The session has become `t`. What a connection has inside stays, but `aim_conn_getnext` clears it
for a new one. -/
def become (s : RoutedSession) (t : AimSession) : RoutedSession where
  sess := t
  inside c := if c ∈ s.sess.connlist then s.inside c else ⟨[], []⟩
  received c := if c ∈ s.sess.connlist then s.received c else []

/-- The packet is handled on the connection `c`, which has `ins` then. -/
def receive (s : RoutedSession) (c : ConnPtr) (packet : ServicePacket) (ins : ServiceInside) :
    RoutedSession :=
  { s with
    inside := Function.update s.inside c ins
    received := Function.update s.received c (s.received c ++ [packet]) }

/-- The host of the connection has offered the group. -/
def Offered (s : RoutedSession) (c : ConnPtr) (group : UInt16) : Prop :=
  ∃ packet ∈ s.received c, group ∈ packet.groups

end RoutedSession

/-- What happens to a session: the small steps of calls, connections accepted on a listener, the
dispatcher's own changes to the receive queue, and packets for a connection that is on the list. -/
inductive RoutedStep (s : RoutedSession) : RoutedSession → Prop where
  | step {t : AimSession} : Step Guard.any s.sess t → RoutedStep s (s.become t)
  | clone {src : ConnPtr} : src ∈ s.sess.connlist →
      RoutedStep s (s.become (aimCloneconn s.sess src).2)
  | queue (queue : List AimFrame) : RoutedStep s (s.become { s.sess with queueIncoming := queue })
  | receive {c : ConnPtr} {packet : ServicePacket} {ins : ServiceInside} : c ∈ s.sess.connlist →
      (s.inside c).receive packet = some ins → RoutedStep s (s.receive c packet ins)

abbrev RoutedRun : RoutedSession → RoutedSession → Prop := Relation.ReflTransGen RoutedStep

/-- Every run of a session is one of these. -/
theorem Run.routed {r : RoutedSession} {t : AimSession} (h : Run Guard.any r.sess t) :
    ∃ r', RoutedRun r r' ∧ r'.sess = t := by
  refine h.inv (P := fun t => ∃ r', RoutedRun r r' ∧ r'.sess = t) ?_ ?_ ⟨r, .refl, rfl⟩
  · rintro s t hstep ⟨r', hrun, rfl⟩
    exact ⟨r'.become t, hrun.tail (.step hstep), rfl⟩
  · rintro s queue ⟨r', hrun, rfl⟩
    exact ⟨_, hrun.tail (.queue queue), rfl⟩

/-! ## The invariant -/

/-- Each connection has what the packets it received have left it with. -/
structure Routed (s : RoutedSession) : Prop where
  sound : Sound s.sess
  inside : ∀ c, ServiceRun (s.received c) (s.inside c)

section Routed

variable {s t : RoutedSession} {c d : ConnPtr} {group : UInt16}

theorem Routed.init (modlistv : List AimModule) : Routed (RoutedSession.init modlistv) :=
  ⟨.init modlistv, fun _ => .new⟩

theorem Routed.become (h : Routed s) {t : AimSession} (ht : Sound t) : Routed (s.become t) := by
  refine ⟨ht, fun c => ?_⟩
  by_cases hc : c ∈ s.sess.connlist
  · simpa only [RoutedSession.become, if_pos hc] using h.inside c
  · simpa only [RoutedSession.become, if_neg hc] using ServiceRun.new

theorem Routed.receive (h : Routed s) {packet : ServicePacket} {ins : ServiceInside}
    (hreceive : (s.inside c).receive packet = some ins) : Routed (s.receive c packet ins) := by
  refine ⟨h.sound, fun d => ?_⟩
  by_cases hd : d = c
  · subst hd
    simpa [RoutedSession.receive] using (h.inside d).receive hreceive
  · simpa [RoutedSession.receive, hd] using h.inside d

theorem Routed.step (h : Routed s) (hstep : RoutedStep s t) : Routed t := by
  cases hstep with
  | step hstep => exact h.become (h.sound.step hstep)
  | clone _ => exact h.become (h.sound.cloneconn _)
  | queue queue => exact h.become (h.sound.queueIncoming queue)
  | receive _ hreceive => exact h.receive hreceive

theorem Routed.run (h : Routed s) (hrun : RoutedRun s t) : Routed t := by
  induction hrun with
  | refl => exact h
  | tail _ hstep ih => exact ih.step hstep

/-- The groups of a connection are those that were offered. -/
theorem Routed.mem_groups (h : Routed s) : group ∈ (s.inside c).groups ↔ s.Offered c group := by
  rw [(h.inside c).groups_eq, List.mem_reverse, List.mem_flatMap]
  rfl

/-- The newest connection whose host has offered the group, or null if there is none. -/
def RoutedSession.Route (s : RoutedSession) (group : UInt16) (c : ConnPtr) : Prop :=
  if c = 0 then ∀ d ∈ s.sess.connlist, ¬ s.Offered d group
  else c ∈ s.sess.connlist ∧ s.Offered c group ∧ ∀ d ∈ s.sess.connlist, s.Offered d group → d ≤ c

theorem Routed.findbygroup (h : Routed s) (group : UInt16) :
    s.Route group (aimConnFindbygroup s group) := by
  unfold aimConnFindbygroup
  cases hfind : s.sess.connlist.find? fun cur => group ∈ (s.inside cur).groups with
  | none =>
    rw [Option.getD_none, RoutedSession.Route, if_pos rfl]
    intro d hd hoffered
    exact List.find?_eq_none.mp hfind d hd (decide_eq_true (h.mem_groups.mpr hoffered))
  | some c =>
    obtain ⟨hc, hgroup, hnewest⟩ := find_largest h.sound.newestFirst _ hfind
    rw [Option.getD_some, RoutedSession.Route, if_neg (h.sound.listed.ne_null c hc)]
    exact ⟨hc, h.mem_groups.mp hgroup, fun d hd hoffered =>
      hnewest d hd (h.mem_groups.mpr hoffered)⟩

/-! ## Later -/

/-- What is on the list was there before, or is new. -/
structure OnlyNew (s t : AimSession) : Prop where
  heap : s.heap ≤ t.heap
  listed : ∀ c ∈ t.connlist, c < s.heap → c ∈ s.connlist

theorem OnlyNew.of_same {s t : AimSession} (h : TxSame s t) : OnlyNew s t :=
  ⟨h.heap, fun _ hc _ => h.connlist ▸ hc⟩

theorem OnlyNew.trans {s t u : AimSession} (h : OnlyNew s t) (h' : OnlyNew t u) : OnlyNew s u :=
  ⟨Nat.le_trans h.heap h'.heap, fun c hc hlt =>
    h.listed c (h'.listed c hc (Nat.lt_of_lt_of_le hlt h.heap)) hlt⟩

theorem Step.onlyNew {ok : Guard} {s t : AimSession} (h : Step ok s t) (hs : s.connlist.Nodup) :
    OnlyNew s t := by
  refine ⟨(h.grown fun _ => False).heap, fun c hc hlt => ?_⟩
  cases h.txStep hs with
  | same hsame => exact hsame.connlist ▸ hc
  | opened conn _ => exact (List.mem_cons.mp hc).resolve_left (Nat.ne_of_lt hlt)
  | mode what func _ =>
    obtain ⟨txEnqueue, heq, -⟩ := aimTxSetenqueue_eq s what func
    rwa [heq] at hc
  | queued fr _ =>
    obtain ⟨conn, heq, -⟩ := pushOutgoing_eq s fr
    rwa [heq] at hc
  | sent fr =>
    obtain ⟨conn, heq, -⟩ := sendNow_eq s fr
    rwa [heq] at hc
  | flushed =>
    obtain ⟨wire, heq, -⟩ := aimTxFlushqueue_eq s
    rwa [heq] at hc
  | purged => exact hc
  | killed dead connlist hsub _ hkilled =>
    obtain ⟨⟨conn, rfl⟩, -⟩ := hkilled
    exact hsub.subset hc

theorem aimClonehandlers_onlyNew (c : ConnPtr) (l : List AimRxcblist) (s : AimSession) :
    OnlyNew s (PrivSession.aimClonehandlers c l s) := by
  unfold PrivSession.aimClonehandlers
  induction l generalizing s with
  | nil => exact .of_same (.refl s)
  | cons cb next ih =>
    have hsame := aimConnAddhandler_txSame s c cb.family cb.type (some cb.handler) cb.flags
    exact (OnlyNew.of_same hsame).trans (ih _)

theorem aimCloneconn_onlyNew (s : AimSession) (src : ConnPtr) :
    OnlyNew s (aimCloneconn s src).2 := by
  have hgetnext : ∀ conn, OnlyNew s ((aimConnGetnext s).2.setConn s.heap conn) := fun conn =>
    ⟨Nat.le_succ _, fun c hc hlt => (List.mem_cons.mp hc).resolve_left (Nat.ne_of_lt hlt)⟩
  exact (hgetnext _).trans (aimClonehandlers_onlyNew _ _ _)

/-- A connection that is still on the list has received what it had, and maybe more. -/
structure RoutedSession.Later (s t : RoutedSession) : Prop where
  onlyNew : OnlyNew s.sess t.sess
  received : ∀ c ∈ t.sess.connlist, c < s.sess.heap → s.received c <+: t.received c

theorem RoutedSession.Later.become {t : AimSession} (h : OnlyNew s.sess t) :
    s.Later (s.become t) := by
  refine ⟨h, fun c hc hlt => ?_⟩
  simp only [RoutedSession.become, if_pos (h.listed c hc hlt)]
  exact List.prefix_refl _

theorem RoutedSession.Later.receive (c : ConnPtr) (packet : ServicePacket) (ins : ServiceInside) :
    s.Later (s.receive c packet ins) := by
  refine ⟨.of_same (.refl _), fun d _ _ => ?_⟩
  by_cases hd : d = c
  · subst hd
    simp [RoutedSession.receive]
  · simp [RoutedSession.receive, hd]

theorem Routed.later_step (h : Routed s) (hstep : RoutedStep s t) : s.Later t := by
  cases hstep with
  | step hstep => exact .become (hstep.onlyNew h.sound.listed.nodup)
  | clone _ => exact .become (aimCloneconn_onlyNew _ _)
  | queue queue => exact .become ⟨Nat.le_refl _, fun _ hc _ => hc⟩
  | @receive c packet ins _ _ => exact .receive c packet ins

theorem RoutedSession.Later.trans {u : RoutedSession} (h : s.Later t) (h' : t.Later u) :
    s.Later u := by
  refine ⟨h.onlyNew.trans h'.onlyNew, fun c hc hlt => ?_⟩
  have hltt := Nat.lt_of_lt_of_le hlt h.onlyNew.heap
  exact (h.received c (h'.onlyNew.listed c hc hltt) hlt).trans (h'.received c hc hltt)

theorem Routed.later (h : Routed s) (hrun : RoutedRun s t) : s.Later t := by
  induction hrun with
  | refl => exact ⟨.of_same (.refl _), fun _ _ _ => List.prefix_refl _⟩
  | tail hrun hstep ih => exact ih.trans ((h.run hrun).later_step hstep)

theorem RoutedSession.Later.offered (h : s.Later t) (hc : c ∈ t.sess.connlist)
    (hlt : c < s.sess.heap) (hoffered : s.Offered c group) : t.Offered c group := by
  obtain ⟨packet, hpacket, hgroup⟩ := hoffered
  exact ⟨packet, (h.received c hc hlt).subset hpacket, hgroup⟩

/-- In every run a family's connection is the newest one on the list whose host has offered the
family since the connection was opened. In every run from there it stays so, unless it is killed or
the family is offered on a newer connection, which is used then. -/
theorem routes {modlistv : List AimModule} (hs : RoutedRun (RoutedSession.init modlistv) s)
    (ht : RoutedRun s t) (group : UInt16) :
    s.Route group (aimConnFindbygroup s group) ∧
      ∀ c, c ≠ 0 → aimConnFindbygroup s group = c → c ∈ t.sess.connlist →
        aimConnFindbygroup t group = c ∨
          c < aimConnFindbygroup t group ∧
            t.Route group (aimConnFindbygroup t group) := by
  have hrouted := (Routed.init modlistv).run hs
  have htrouted := hrouted.run ht
  have hroute := hrouted.findbygroup group
  refine ⟨hroute, fun c hne hc hlisted => ?_⟩
  rw [hc, RoutedSession.Route, if_neg hne] at hroute
  have hlt := hrouted.sound.listed.lt c hroute.1
  have hoffered := (hrouted.later ht).offered hlisted hlt hroute.2.1
  have hnow := htrouted.findbygroup group
  generalize aimConnFindbygroup t group = d at hnow
  have hle : c ≤ d := by
    by_cases hd : d = 0
    · rw [RoutedSession.Route, if_pos hd] at hnow
      exact absurd hoffered (hnow c hlisted)
    · rw [RoutedSession.Route, if_neg hd] at hnow
      exact hnow.2.2 c hlisted hoffered
  rcases Nat.eq_or_lt_of_le hle with heq | hlt
  · exact Or.inl heq.symm
  · exact Or.inr ⟨hlt, hnow⟩

end Routed

section Example

/-- A connection is opened, and its host offers services and messages. -/
def bosRouted : RoutedSession :=
  ((RoutedSession.init []).become
    (aimNewconn (aimSessionInit []) aimConnTypeBos (.connected 3 0)).2).receive 1
      (.hostonline ⟨[0x00, 0x01, 0x00, 0x04], 0⟩) ⟨[0x0004, 0x0001], []⟩

/-- Another one is opened, whose host offers services and chat. -/
def chatRouted : RoutedSession :=
  (bosRouted.become (aimNewconn bosRouted.sess aimConnTypeChat (.connected 4 0)).2).receive 2
    (.hostonline ⟨[0x00, 0x01, 0x00, 0x0e], 0⟩) ⟨[0x000e, 0x0001], []⟩

/-- Messages are sent on the old connection, and requests for services on the new one. -/
theorem routes_chat : aimConnFindbygroup chatRouted 0x0004 = 1 ∧
    1 < aimConnFindbygroup chatRouted 0x0001 ∧
    chatRouted.Route 0x0001 (aimConnFindbygroup chatRouted 0x0001) := by
  have hs : RoutedRun (RoutedSession.init []) bosRouted :=
    .tail (.single (.step (.newconn _ _))) (.receive (List.mem_singleton_self 1) rfl)
  have ht : RoutedRun bosRouted chatRouted :=
    .tail (.single (.step (.newconn _ _))) (.receive List.mem_cons_self rfl)
  have hlisted : 1 ∈ chatRouted.sess.connlist := List.mem_cons_of_mem _ (List.mem_singleton_self 1)
  have hmessages := (routes hs ht 0x0004).2 1 (by decide) (by decide) hlisted
  have hservices := (routes hs ht 0x0001).2 1 (by decide) (by decide) hlisted
  exact ⟨hmessages.resolve_right fun h => absurd h.1 (by decide),
    hservices.resolve_left (by decide)⟩

end Example

end Libfaim
