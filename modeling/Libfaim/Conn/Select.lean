import Libfaim.Conn.Live
import Libfaim.TxQueue.Order

/-!
# Finding connections, and waiting for one (`conn.c`)

The searches of the session's list return the first connection that fits. New connections go to
the front, so that this is always the one opened last (`lookups_newest`).

`aim_select` waits with `select`, which is a parameter. It does not call it when a connection is
closed, which it returns at once, or when frames are queued and no connect is in progress, which it
reports by the status 1. The frames are then all written by `aim_tx_flushqueue`
(`aimSelect_flushes`): a frame that is not handled has its connection on the list, so that none is
held back. No status is 1 again until something is enqueued, as nothing else puts a frame on the
queue (`TxStep.unqueued`).
-/

namespace Libfaim

/-! ## Searches -/

/-- `aim_getconn_type_all` -/
def aimGetconnTypeAll (sess : AimSession) (type : UInt16) : ConnPtr :=
  (sess.connlist.find? fun c => (sess.conn c).type = type).getD 0

/-- `aim_getconn_fd` -/
def aimGetconnFd (sess : AimSession) (fd : Int) : ConnPtr :=
  (sess.connlist.find? fun c => (sess.conn c).fd = fd).getD 0

/-- `aim_conngetmaxfd` -/
def aimConngetmaxfd (sess : AimSession) : Int :=
  sess.connlist.foldl (fun j cur => if (sess.conn cur).fd > j then (sess.conn cur).fd else j) 0

/-! ## Waiting -/

/-- How `select` returns: with the descriptors it left in the sets, or without any; interrupted by
a signal, or with another error. -/
inductive Selected where
  | ready (fds wfds : List Int)
  | timeout
  | interrupted
  | failed

/-- `select`, given the bound on the descriptors and the sets for reading and writing. -/
abbrev Select := Int → List Int → List Int → Selected

/-- The variables of the first loop of `aim_select`. -/
structure SelectSets where
  fds : List Int
  wfds : List Int
  maxfd : Int
  haveconnecting : Nat

/-- The first loop of `aim_select`, which ends early at a closed connection. -/
def aimSelectSets (conn : ConnPtr → AimConn) : List ConnPtr → SelectSets → ConnPtr ⊕ SelectSets
  | [], sets => .inr sets
  | cur :: next, sets =>
    let fd := (conn cur).fd
    if fd = -1 then .inl cur
    else
      let sets :=
        if (conn cur).Inprogress then
          { sets with wfds := fd :: sets.wfds, haveconnecting := sets.haveconnecting + 1 }
        else sets
      let sets := { sets with fds := fd :: sets.fds }
      aimSelectSets conn next (if fd > sets.maxfd then { sets with maxfd := fd } else sets)

/-- A connection has data pending, or has completed. -/
def AimConn.Isset (fds wfds : List Int) (conn : AimConn) : Prop :=
  conn.fd ∈ fds ∨ (conn.Inprogress ∧ conn.fd ∈ wfds)

instance (fds wfds : List Int) (conn : AimConn) : Decidable (conn.Isset fds wfds) :=
  inferInstanceAs (Decidable (_ ∨ _))

/-- The end of `aim_select`, with what `select` returned. -/
def selectOutcome (sess : AimSession) : Selected → ConnPtr × Int
  | .ready fds wfds =>
    match sess.connlist.find? fun cur => (sess.conn cur).Isset fds wfds with
    | some cur => (cur, 2)
    | none => (0, 0) -- "shouldn't happen"
  | .timeout => (0, 0)
  | .interrupted => (0, 0)
  | .failed => (0, -1)

/-- `aim_select`: the connection, and the status. -/
def aimSelect (select : Select) (sess : AimSession) : ConnPtr × Int :=
  if sess.connlist = [] then (0, -1)
  else
    match aimSelectSets sess.conn sess.connlist ⟨[], [], 0, 0⟩ with
    | .inl cur => (cur, 2)
    | .inr sets =>
      if sets.haveconnecting = 0 ∧ sess.queueOutgoing ≠ [] then (0, 1)
      else selectOutcome sess (select (sets.maxfd + 1) sets.fds sets.wfds)

/-! ## What the searches find -/

/-- The connection that was opened last among those that fit, or null if none does. -/
def AimSession.Newest (sess : AimSession) (p : AimConn → Prop) (c : ConnPtr) : Prop :=
  if c = 0 then ∀ d ∈ sess.connlist, ¬ p (sess.conn d)
  else c ∈ sess.connlist ∧ p (sess.conn c) ∧ ∀ d ∈ sess.connlist, p (sess.conn d) → d ≤ c

/-- The list of connections has the newest one first, and the frames to be sent are of connections
on it. -/
structure Sound (s : AimSession) : Prop where
  listed : WellListed s
  newestFirst : s.connlist.Pairwise (· > ·)
  outgoing : ∀ cur ∈ s.queueOutgoing, Listed s cur

section Sound

variable {ok : Guard} {s t : AimSession}

theorem Sound.init (modlistv : List AimModule) : Sound (aimSessionInit modlistv) where
  listed := ⟨List.nodup_nil, fun _ hc => absurd hc List.not_mem_nil,
    fun _ hc => absurd hc List.not_mem_nil, Nat.one_pos⟩
  newestFirst := List.Pairwise.nil
  outgoing _ hcur := absurd hcur List.not_mem_nil

theorem Sound.queueIncoming (h : Sound s) (queue : List AimFrame) :
    Sound { s with queueIncoming := queue } :=
  ⟨h.listed.queueIncoming queue, h.newestFirst, h.outgoing⟩

/-- A new connection goes to the front. -/
theorem newestFirst_opened (h : Sound s) : (s.heap :: s.connlist).Pairwise (· > ·) :=
  List.pairwise_cons.mpr ⟨fun c hc => h.listed.lt c hc, h.newestFirst⟩

theorem Sound.newestFirst_step (h : Sound s) (hstep : TxStep ok s t) :
    t.connlist.Pairwise (· > ·) := by
  cases hstep with
  | same hsame => exact hsame.connlist ▸ h.newestFirst
  | opened conn _ => exact newestFirst_opened h
  | mode what func _ =>
    obtain ⟨txEnqueue, heq, -⟩ := aimTxSetenqueue_eq s what func
    exact heq ▸ h.newestFirst
  | queued fr _ =>
    obtain ⟨conn, heq, -⟩ := pushOutgoing_eq s fr
    exact heq ▸ h.newestFirst
  | sent fr =>
    obtain ⟨conn, heq, -⟩ := sendNow_eq s fr
    exact heq ▸ h.newestFirst
  | flushed =>
    obtain ⟨wire, heq, -⟩ := aimTxFlushqueue_eq s
    exact heq ▸ h.newestFirst
  | purged => exact h.newestFirst
  | killed dead connlist hsub _ hkilled =>
    obtain ⟨⟨conn, rfl⟩, -⟩ := hkilled
    exact h.newestFirst.sublist hsub

theorem Sound.step (h : Sound s) (hstep : Step ok s t) : Sound t := by
  have htx := hstep.txStep h.listed.nodup
  have hlive : LiveBut (fun _ => True) s := ⟨fun _ _ _ hne => absurd trivial hne, h.outgoing⟩
  exact ⟨h.listed.step htx, h.newestFirst_step htx, (hlive.step hstep).outgoing⟩

theorem Sound.calls (h : Sound s) (hcalls : Calls ok s t) : Sound t :=
  hcalls.steps.inv (fun _ _ hstep hu => hu.step hstep) h

theorem Sound.run (h : Sound s) (hrun : Run ok s t) : Sound t :=
  hrun.inv (fun _ _ hstep hu => hu.step hstep) (fun _ queue hu => hu.queueIncoming queue) h

theorem Sound.setConn (h : Sound s) (c : ConnPtr) (conn : AimConn) : Sound (s.setConn c conn) where
  listed := ⟨h.listed.nodup, h.listed.lt, h.listed.ne_null, h.listed.heap_pos⟩
  newestFirst := h.newestFirst
  outgoing := h.outgoing

theorem Sound.getnext (h : Sound s) : Sound (aimConnGetnext s).2 where
  listed :=
    ⟨List.nodup_cons.mpr ⟨fun hc => Nat.lt_irrefl _ (h.listed.lt _ hc), h.listed.nodup⟩,
      fun c hc => by
        rcases List.mem_cons.mp hc with rfl | hc
        · exact Nat.lt_succ_self _
        · exact Nat.lt_succ_of_lt (h.listed.lt c hc),
      fun c hc => by
        rcases List.mem_cons.mp hc with rfl | hc
        · exact Nat.pos_iff_ne_zero.mp h.listed.heap_pos
        · exact h.listed.ne_null c hc,
      Nat.succ_pos _⟩
  newestFirst := newestFirst_opened h
  outgoing cur hcur hzero := List.mem_cons_of_mem _ (h.outgoing cur hcur hzero)

theorem Sound.addhandler (h : Sound s) (c : ConnPtr) (family type : UInt16)
    (handler : Option AimRxcallback) (flags : UInt16) :
    Sound (aimConnAddhandler s c family type handler flags).2 := by
  unfold aimConnAddhandler
  split
  · exact h
  · split
    · exact h
    · exact h.setConn c _

/-- In a list with the largest first, what is found first is the largest that fits. -/
theorem find_largest {l : List ConnPtr} (hl : l.Pairwise (· > ·)) (p : ConnPtr → Prop)
    [DecidablePred p] {c : ConnPtr} (hfind : l.find? (fun c => p c) = some c) :
    c ∈ l ∧ p c ∧ ∀ d ∈ l, p d → d ≤ c := by
  obtain ⟨hp, before, after, rfl, hbefore⟩ := List.find?_eq_some_iff_append.mp hfind
  refine ⟨List.mem_append_right _ List.mem_cons_self, of_decide_eq_true hp, fun d hd hpd => ?_⟩
  rcases List.mem_append.mp hd with hd | hd
  · have hnot := hbefore d hd
    simp [hpd] at hnot
  · rcases List.mem_cons.mp hd with rfl | hd
    · exact Nat.le_refl _
    · have hgt := (List.pairwise_cons.mp (List.pairwise_append.mp hl).2.1).1 d hd
      exact Nat.le_of_lt hgt

/-- The first connection on the list that fits is the newest one. -/
theorem Sound.find_newest (h : Sound s) (p : AimConn → Prop) [DecidablePred p] :
    s.Newest p ((s.connlist.find? fun c => p (s.conn c)).getD 0) := by
  cases hfind : s.connlist.find? fun c => p (s.conn c) with
  | none =>
    rw [Option.getD_none, AimSession.Newest, if_pos rfl]
    intro d hd hp
    exact List.find?_eq_none.mp hfind d hd (decide_eq_true hp)
  | some c =>
    have hfound := find_largest h.newestFirst (fun c => p (s.conn c)) hfind
    rwa [Option.getD_some, AimSession.Newest, if_neg (h.listed.ne_null c hfound.1)]

end Sound

/-! ## Descriptors -/

section Descriptors

variable (sess : AimSession)

/-- The bound that is looked for is the largest of the start and the descriptors. -/
theorem maxfd_foldl (l : List ConnPtr) (j : Int) :
    let maxfd := l.foldl (fun j cur => if (sess.conn cur).fd > j then (sess.conn cur).fd else j) j
    j ≤ maxfd ∧ (∀ c ∈ l, (sess.conn c).fd ≤ maxfd) ∧
      (maxfd = j ∨ ∃ c ∈ l, (sess.conn c).fd = maxfd) := by
  induction l generalizing j with
  | nil => exact ⟨Int.le_refl _, fun _ hc => absurd hc List.not_mem_nil, Or.inl rfl⟩
  | cons cur next ih =>
    rw [List.foldl_cons]
    obtain ⟨hle, hnext, hmax⟩ := ih (if (sess.conn cur).fd > j then (sess.conn cur).fd else j)
    have hstep : j ≤ (if (sess.conn cur).fd > j then (sess.conn cur).fd else j) ∧
        (sess.conn cur).fd ≤ (if (sess.conn cur).fd > j then (sess.conn cur).fd else j) := by
      split <;> omega
    refine ⟨Int.le_trans hstep.1 hle, fun c hc => ?_, ?_⟩
    · rcases List.mem_cons.mp hc with rfl | hc
      · exact Int.le_trans hstep.2 hle
      · exact hnext c hc
    · rcases hmax with hmax | ⟨c, hc, hmax⟩
      · by_cases hgt : (sess.conn cur).fd > j
        · rw [if_pos hgt] at hmax ⊢
          exact Or.inr ⟨cur, List.mem_cons_self, hmax.symm⟩
        · rw [if_neg hgt] at hmax ⊢
          exact Or.inl hmax
      · exact Or.inr ⟨c, List.mem_cons_of_mem _ hc, hmax⟩

/-- `aim_conngetmaxfd` returns the largest descriptor of the session, and at least 0. -/
theorem aimConngetmaxfd_spec :
    (∀ c ∈ sess.connlist, (sess.conn c).fd ≤ aimConngetmaxfd sess) ∧
      (aimConngetmaxfd sess = 0 ∨ ∃ c ∈ sess.connlist, (sess.conn c).fd = aimConngetmaxfd sess) :=
  (maxfd_foldl sess sess.connlist 0).2

end Descriptors

/-! ## What `aim_select` returns -/

/-- `aim_select` calls `select`: no connection is closed, and no frame is queued unless a connect is
in progress. -/
structure AimSession.Waits (sess : AimSession) : Prop where
  ne_nil : sess.connlist ≠ []
  opened : ∀ c ∈ sess.connlist, (sess.conn c).fd ≠ -1
  queue : sess.queueOutgoing = [] ∨ ∃ c ∈ sess.connlist, (sess.conn c).Inprogress

/-- What is documented of `select`: it leaves some of the descriptors it was given. -/
def Select.Documented (select : Select) : Prop :=
  ∀ nfds fds wfds fds' wfds', (∀ fd, fd ∈ fds ∨ fd ∈ wfds → fd < nfds) →
    select nfds fds wfds = .ready fds' wfds' →
      fds' ⊆ fds ∧ wfds' ⊆ wfds ∧ (fds' ≠ [] ∨ wfds' ≠ [])

section Select

variable {sess : AimSession}

/-- The sets that are built when no connection is closed. -/
def SelectSets.add (conn : ConnPtr → AimConn) (l : List ConnPtr) (sets : SelectSets) :
    SelectSets where
  fds := (l.map fun c => (conn c).fd).reverse ++ sets.fds
  wfds := ((l.filter fun c => (conn c).Inprogress).map fun c => (conn c).fd).reverse ++ sets.wfds
  maxfd := l.foldl (fun j cur => if (conn cur).fd > j then (conn cur).fd else j) sets.maxfd
  haveconnecting := sets.haveconnecting + l.countP fun c => (conn c).Inprogress

theorem aimSelectSets_opened (conn : ConnPtr → AimConn) (l : List ConnPtr) (sets : SelectSets)
    (h : ∀ c ∈ l, (conn c).fd ≠ -1) : aimSelectSets conn l sets = .inr (sets.add conn l) := by
  induction l generalizing sets with
  | nil => rfl
  | cons cur next ih =>
    have hnext : ∀ c ∈ next, (conn c).fd ≠ -1 := fun c hc => h c (List.mem_cons_of_mem _ hc)
    rw [aimSelectSets, if_neg (h cur List.mem_cons_self), ih _ hnext]
    simp only [SelectSets.add, List.map_cons, List.reverse_cons, List.filter_cons, List.foldl_cons,
      List.countP_cons, decide_eq_true_eq]
    by_cases hprogress : (conn cur).Inprogress
    · simp only [if_pos hprogress]
      split <;> simp [Nat.add_assoc, Nat.add_comm]
    · simp only [if_neg hprogress]
      split <;> simp

theorem aimSelectSets_closed (conn : ConnPtr → AimConn) (l : List ConnPtr) (sets : SelectSets)
    {c : ConnPtr} (h : (l.find? fun cur => (conn cur).fd = -1) = some c) :
    aimSelectSets conn l sets = .inl c := by
  induction l generalizing sets with
  | nil => cases h
  | cons cur next ih =>
    rw [aimSelectSets]
    by_cases hfd : (conn cur).fd = -1
    · simp only [List.find?_cons, hfd, decide_true] at h
      rw [if_pos hfd, Option.some.inj h]
    · simp only [List.find?_cons, hfd, decide_false] at h
      rw [if_neg hfd]
      exact ih _ h

/-- A closed connection is returned at once. -/
theorem aimSelect_closed (select : Select) {c : ConnPtr}
    (h : (sess.connlist.find? fun cur => (sess.conn cur).fd = -1) = some c) :
    aimSelect select sess = (c, 2) := by
  have hne : sess.connlist ≠ [] := List.ne_nil_of_mem (List.mem_of_find?_eq_some h)
  rw [aimSelect, if_neg hne, aimSelectSets_closed _ _ _ h]

theorem countP_inprogress_eq_zero :
    (sess.connlist.countP fun c => (sess.conn c).Inprogress) = 0 ↔
      ∀ c ∈ sess.connlist, ¬ (sess.conn c).Inprogress := by
  simp only [List.countP_eq_zero, decide_eq_true_eq]

/-- Queued frames are reported when no connect is in progress. -/
theorem aimSelect_queued (select : Select) (hne : sess.connlist ≠ [])
    (hopen : ∀ c ∈ sess.connlist, (sess.conn c).fd ≠ -1)
    (hdone : ∀ c ∈ sess.connlist, ¬ (sess.conn c).Inprogress) (hqueue : sess.queueOutgoing ≠ []) :
    aimSelect select sess = (0, 1) := by
  have hcount := countP_inprogress_eq_zero.mpr hdone
  rw [aimSelect, if_neg hne, aimSelectSets_opened _ _ _ hopen]
  simp only [SelectSets.add, Nat.zero_add]
  rw [if_pos ⟨hcount, hqueue⟩]

/-- Otherwise `select` is given the descriptors of all connections, those that are connecting in
both sets, and a bound on them. -/
theorem aimSelect_waits (select : Select) (h : sess.Waits) :
    ∃ fds wfds, (∀ fd, fd ∈ fds ↔ ∃ c ∈ sess.connlist, (sess.conn c).fd = fd) ∧
      (∀ fd, fd ∈ wfds ↔
        ∃ c ∈ sess.connlist, (sess.conn c).Inprogress ∧ (sess.conn c).fd = fd) ∧
      aimSelect select sess =
        selectOutcome sess (select (aimConngetmaxfd sess + 1) fds wfds) := by
  refine ⟨(sess.connlist.map fun c => (sess.conn c).fd).reverse ++ [],
    ((sess.connlist.filter fun c => (sess.conn c).Inprogress).map
      fun c => (sess.conn c).fd).reverse ++ [], fun fd => ?_, fun fd => ?_, ?_⟩
  · simp only [List.append_nil, List.mem_reverse, List.mem_map]
  · simp only [List.append_nil, List.mem_reverse, List.mem_map, List.mem_filter,
      decide_eq_true_eq, and_assoc]
  · have hnot : ¬ ((sess.connlist.countP fun c => (sess.conn c).Inprogress) = 0 ∧
        sess.queueOutgoing ≠ []) := by
      rintro ⟨hcount, hqueue⟩
      obtain ⟨c, hc, hprogress⟩ := h.queue.resolve_left hqueue
      exact countP_inprogress_eq_zero.mp hcount c hc hprogress
    rw [aimSelect, if_neg h.ne_nil, aimSelectSets_opened _ _ _ h.opened]
    simp only [SelectSets.add, Nat.zero_add]
    rw [if_neg hnot]
    rfl

/-- What `select` leaves of the descriptors is found again. -/
theorem find_isset {fds wfds fds' wfds' : List Int}
    (hfds : ∀ fd, fd ∈ fds ↔ ∃ c ∈ sess.connlist, (sess.conn c).fd = fd)
    (hwfds : ∀ fd, fd ∈ wfds ↔
      ∃ c ∈ sess.connlist, (sess.conn c).Inprogress ∧ (sess.conn c).fd = fd)
    (hleft : fds' ⊆ fds ∧ wfds' ⊆ wfds ∧ (fds' ≠ [] ∨ wfds' ≠ [])) :
    ∃ c, (sess.connlist.find? fun cur => (sess.conn cur).Isset fds' wfds') = some c := by
  obtain ⟨hsub, hwsub, hne⟩ := hleft
  have hset : ∃ c ∈ sess.connlist, (sess.conn c).Isset fds' wfds' := by
    rcases hne with hne | hne
    · obtain ⟨fd, hfd⟩ := List.exists_mem_of_ne_nil _ hne
      obtain ⟨c, hc, rfl⟩ := (hfds fd).mp (hsub hfd)
      exact ⟨c, hc, Or.inl hfd⟩
    · obtain ⟨fd, hfd⟩ := List.exists_mem_of_ne_nil _ hne
      obtain ⟨c, hc, hprogress, rfl⟩ := (hwfds fd).mp (hwsub hfd)
      exact ⟨c, hc, Or.inr ⟨hprogress, hfd⟩⟩
  obtain ⟨c, hc, hset⟩ := hset
  refine Option.isSome_iff_exists.mp (List.find?_isSome.mpr ⟨c, hc, decide_eq_true hset⟩)

/-- `aim_select` returns a closed connection, or the status 1, or what `select` lets it return. -/
theorem aimSelect_cases {P : ConnPtr × Int → Prop} (select : Select)
    (hnil : sess.connlist = [] → P (0, -1))
    (hclosed : ∀ c, (sess.connlist.find? fun cur => (sess.conn cur).fd = -1) = some c → P (c, 2))
    (hqueued : sess.connlist ≠ [] → (∀ c ∈ sess.connlist, (sess.conn c).fd ≠ -1) →
      (∀ c ∈ sess.connlist, ¬ (sess.conn c).Inprogress) → sess.queueOutgoing ≠ [] → P (0, 1))
    (hwaits : sess.Waits → P (aimSelect select sess)) : P (aimSelect select sess) := by
  by_cases hne : sess.connlist = []
  · rw [aimSelect, if_pos hne]
    exact hnil hne
  · cases hfind : sess.connlist.find? fun cur => (sess.conn cur).fd = -1 with
    | some c => exact aimSelect_closed select hfind ▸ hclosed c hfind
    | none =>
      have hopen : ∀ c ∈ sess.connlist, (sess.conn c).fd ≠ -1 := fun c hc hfd =>
        List.find?_eq_none.mp hfind c hc (decide_eq_true hfd)
      by_cases hqueue : sess.queueOutgoing = []
      · exact hwaits ⟨hne, hopen, Or.inl hqueue⟩
      · by_cases hprogress : ∃ c ∈ sess.connlist, (sess.conn c).Inprogress
        · exact hwaits ⟨hne, hopen, Or.inr hprogress⟩
        · have hdone : ∀ c ∈ sess.connlist, ¬ (sess.conn c).Inprogress :=
            fun c hc hin => hprogress ⟨c, hc, hin⟩
          rw [aimSelect_queued select hne hopen hdone hqueue]
          exact hqueued hne hopen hdone hqueue

theorem selectOutcome_ne_one (selected : Selected) : (selectOutcome sess selected).2 ≠ 1 := by
  cases selected with
  | ready fds wfds =>
    rw [selectOutcome]
    cases sess.connlist.find? fun cur => (sess.conn cur).Isset fds wfds <;> simp
  | timeout => simp [selectOutcome]
  | interrupted => simp [selectOutcome]
  | failed => simp [selectOutcome]

/-- The status is 1 when frames are queued and all connections are open and connected. -/
theorem aimSelect_eq_one_iff (select : Select) :
    (aimSelect select sess).2 = 1 ↔ sess.connlist ≠ [] ∧
      (∀ c ∈ sess.connlist, (sess.conn c).fd ≠ -1 ∧ ¬ (sess.conn c).Inprogress) ∧
      sess.queueOutgoing ≠ [] := by
  constructor
  · refine aimSelect_cases (P := fun r => r.2 = 1 → _) select (fun _ h => ?_) (fun c _ h => ?_)
      (fun hne hopen hdone hqueue _ => ?_) fun hwaits h => ?_
    · exact absurd h (by decide)
    · exact absurd h (by simp)
    · exact ⟨hne, fun c hc => ⟨hopen c hc, hdone c hc⟩, hqueue⟩
    · obtain ⟨fds, wfds, -, -, heq⟩ := aimSelect_waits select hwaits
      rw [heq] at h
      exact absurd h (selectOutcome_ne_one _)
  · rintro ⟨hne, hconn, hqueue⟩
    rw [aimSelect_queued select hne (fun c hc => (hconn c hc).1) (fun c hc => (hconn c hc).2)
      hqueue]

end Select

/-- With no connect in progress all frames are written, and none stays behind. -/
theorem Sound.flush {s : AimSession} (h : Sound s)
    (hdone : ∀ c ∈ s.connlist, ¬ (s.conn c).Inprogress) :
    ∃ wire, aimTxFlushqueue s =
      { s with
        wire := wire
        queueOutgoing := []
        history := { s.history with
          sent := s.history.sent ++ s.queueOutgoing.filter fun fr => fr.handled = 0 } } := by
  obtain ⟨wire, heq, -⟩ := aimTxFlushqueue_eq s
  have hheld : ∀ fr ∈ s.queueOutgoing, fr.handled = 0 → ¬ s.Held fr := by
    intro fr hfr hzero hheld
    exact hdone fr.conn (h.outgoing fr hfr hzero) hheld.2
  have hback : s.heldBack s.queueOutgoing = [] := by
    refine List.filter_eq_nil_iff.mpr fun fr hfr hkept => ?_
    have hkept := of_decide_eq_true hkept
    exact hheld fr hfr hkept.1 hkept.2
  have hdue : s.due s.queueOutgoing = s.queueOutgoing.filter fun fr => fr.handled = 0 := by
    refine List.filter_congr fun fr hfr => ?_
    by_cases hzero : fr.handled = 0
    · simp [hzero, hheld fr hfr hzero]
    · simp [hzero]
  rw [hback, hdue] at heq
  exact ⟨wire, heq⟩

/-- What was enqueued stays on record, and if nothing more was, no frame has come to the queue. -/
theorem TxStep.unqueued {ok : Guard} {s t : AimSession} (h : TxStep ok s t) :
    s.history.enqueued <+: t.history.enqueued ∧
      (t.history.enqueued = s.history.enqueued → s.queueOutgoing = [] → t.queueOutgoing = []) := by
  cases h with
  | same hsame =>
    rw [hsame.history, hsame.queueOutgoing]
    exact ⟨List.prefix_refl _, fun _ hnil => hnil⟩
  | opened conn _ => exact ⟨List.prefix_refl _, fun _ hnil => hnil⟩
  | mode what func _ =>
    obtain ⟨txEnqueue, heq, -⟩ := aimTxSetenqueue_eq s what func
    exact heq ▸ ⟨List.prefix_refl _, fun _ hnil => hnil⟩
  | queued fr _ =>
    obtain ⟨conn, heq, -⟩ := pushOutgoing_eq s fr
    exact heq ▸ ⟨List.prefix_append _ _, fun hsame => absurd hsame (by simp)⟩
  | sent fr =>
    obtain ⟨conn, heq, -⟩ := sendNow_eq s fr
    exact heq ▸ ⟨List.prefix_append _ _, fun _ hnil => hnil⟩
  | flushed =>
    obtain ⟨wire, heq, -⟩ := aimTxFlushqueue_eq s
    rw [heq]
    refine ⟨List.prefix_refl _, fun _ hnil => ?_⟩
    show s.heldBack s.queueOutgoing = []
    rw [hnil]
    rfl
  | purged =>
    refine ⟨List.prefix_refl _, fun _ hnil => ?_⟩
    rw [aimTxPurgequeue, hnil]
    rfl
  | killed dead connlist _ _ hkilled =>
    obtain ⟨⟨conn, rfl⟩, -⟩ := hkilled
    refine ⟨List.prefix_refl _, fun _ hnil => ?_⟩
    show s.queueOutgoing.map (markSent dead) = []
    rw [hnil]
    rfl

/-- The queue stays empty until a frame is enqueued. -/
structure Unqueued (frs : List AimFrame) (s : AimSession) : Prop where
  sound : Sound s
  enqueued : frs <+: s.history.enqueued
  queue : s.history.enqueued = frs → s.queueOutgoing = []

theorem Unqueued.step {ok : Guard} {frs : List AimFrame} {s t : AimSession} (h : Unqueued frs s)
    (hstep : Step ok s t) : Unqueued frs t := by
  obtain ⟨hfront, hqueue⟩ := (hstep.txStep h.sound.listed.nodup).unqueued
  refine ⟨h.sound.step hstep, h.enqueued.trans hfront, fun hnone => ?_⟩
  have hbefore : s.history.enqueued = frs :=
    (h.enqueued.eq_of_length_le (hnone ▸ hfront.length_le)).symm
  exact hqueue (hnone.trans hbefore.symm) (h.queue hbefore)

theorem Unqueued.run {ok : Guard} {frs : List AimFrame} {s t : AimSession} (h : Unqueued frs s)
    (hrun : Run ok s t) : Unqueued frs t :=
  hrun.inv (fun _ _ hstep hu => hu.step hstep)
    (fun _ queue hu => ⟨hu.sound.queueIncoming queue, hu.enqueued, hu.queue⟩) h

/-! ## In every run -/

section Runs

variable {modlistv : List AimModule} {s : AimSession}

/-- What `aim_select` returns with the status 2, and with no other: the closed connection that was
opened last, or if none is closed, the last one of those that `select` has left in its sets, which
were the descriptors of all connections, and of those with a connect in progress. -/
def AimSession.SelectFinds (s : AimSession) (select : Select) (r : ConnPtr × Int) : Prop :=
  (r.2 = 2 ↔ r.1 ≠ 0) ∧
    (r.2 = 2 → s.Newest (fun conn => conn.fd = -1) r.1 ∨
      (∀ c ∈ s.connlist, (s.conn c).fd ≠ -1) ∧
        ∃ fds wfds fds' wfds', (∀ fd, fd ∈ fds ↔ ∃ c ∈ s.connlist, (s.conn c).fd = fd) ∧
          (∀ fd, fd ∈ wfds ↔ ∃ c ∈ s.connlist, (s.conn c).Inprogress ∧ (s.conn c).fd = fd) ∧
          select (aimConngetmaxfd s + 1) fds wfds = .ready fds' wfds' ∧
          s.Newest (fun conn => conn.Isset fds' wfds') r.1)

theorem AimSession.SelectFinds.none (select : Select) {status : Int} (h : status ≠ 2) :
    s.SelectFinds select (0, status) :=
  ⟨iff_of_false h fun hne => hne rfl, fun heq => absurd heq h⟩

theorem Sound.selectFinds (h : Sound s) {select : Select} (hselect : select.Documented) :
    s.SelectFinds select (aimSelect select s) := by
  have hnewest (p : AimConn → Prop) [DecidablePred p] {c : ConnPtr}
      (hfind : (s.connlist.find? fun cur => p (s.conn cur)) = some c) : s.Newest p c := by
    have hfound := h.find_newest p
    rwa [hfind] at hfound
  have hne {p : ConnPtr → Bool} {c : ConnPtr} (hfind : s.connlist.find? p = some c) : c ≠ 0 :=
    h.listed.ne_null c (List.mem_of_find?_eq_some hfind)
  refine aimSelect_cases select (fun _ => .none select (by simp)) (fun c hfind => ?_)
    (fun _ _ _ _ => .none select (by simp)) fun hwaits => ?_
  · exact ⟨iff_of_true rfl (hne hfind), fun _ => Or.inl (hnewest (fun conn => conn.fd = -1) hfind)⟩
  · obtain ⟨fds, wfds, hfds, hwfds, heq⟩ := aimSelect_waits select hwaits
    rw [heq]
    cases hselected : select (aimConngetmaxfd s + 1) fds wfds with
    | ready fds' wfds' =>
      have hlt : ∀ fd, fd ∈ fds ∨ fd ∈ wfds → fd < aimConngetmaxfd s + 1 := by
        intro fd hfd
        have hconn : ∃ c ∈ s.connlist, (s.conn c).fd = fd := by
          rcases hfd with hfd | hfd
          · exact (hfds fd).mp hfd
          · obtain ⟨c, hc, -, hfd⟩ := (hwfds fd).mp hfd
            exact ⟨c, hc, hfd⟩
        obtain ⟨c, hc, rfl⟩ := hconn
        exact Int.lt_add_one_of_le ((aimConngetmaxfd_spec s).1 c hc)
      -- the end of the loop that "shouldn't happen" is not reached
      obtain ⟨c, hfind⟩ := find_isset hfds hwfds (hselect _ _ _ _ _ hlt hselected)
      rw [selectOutcome, hfind]
      refine ⟨iff_of_true rfl (hne hfind), fun _ => Or.inr ⟨hwaits.opened, ?_⟩⟩
      exact ⟨fds, wfds, fds', wfds', hfds, hwfds, hselected,
        hnewest (fun conn => conn.Isset fds' wfds') hfind⟩
    | timeout => exact .none select (by simp)
    | interrupted => exact .none select (by simp)
    | failed => exact .none select (by simp)

/-- In every run the searches return the connection that was opened last among those that fit, and
so does `aim_select`. -/
theorem lookups_newest (h : Run Guard.any (aimSessionInit modlistv) s) (type : UInt16) (fd : Int)
    {select : Select} (hselect : select.Documented) :
    s.Newest (fun conn => conn.type = type ∧ ¬ conn.Inprogress) (aimGetconnType s type) ∧
      s.Newest (fun conn => conn.type = type) (aimGetconnTypeAll s type) ∧
      s.Newest (fun conn => conn.fd = fd) (aimGetconnFd s fd) ∧
      s.SelectFinds select (aimSelect select s) := by
  have hsound : Sound s := (Sound.init modlistv).run h
  exact ⟨hsound.find_newest _, hsound.find_newest _, hsound.find_newest _,
    hsound.selectFinds hselect⟩

/-- In every run, when `aim_select` reports queued frames, a flush writes all of them, and no call
reports frames in any later run until one is enqueued. -/
theorem aimSelect_flushes (h : Run Guard.any (aimSessionInit modlistv) s) (select : Select)
    (hstatus : (aimSelect select s).2 = 1) :
    (aimTxFlushqueue s).queueOutgoing = [] ∧
      (aimTxFlushqueue s).history.sent =
        s.history.sent ++ s.queueOutgoing.filter (fun fr => fr.handled = 0) ∧
      ∀ t, Run Guard.any (aimTxFlushqueue s) t → t.history.enqueued = s.history.enqueued →
        t.queueOutgoing = [] ∧ ∀ select' : Select, (aimSelect select' t).2 ≠ 1 := by
  have hsound : Sound s := (Sound.init modlistv).run h
  obtain ⟨-, hconn, -⟩ := (aimSelect_eq_one_iff select).mp hstatus
  obtain ⟨wire, heq⟩ := hsound.flush fun c hc => (hconn c hc).2
  have hempty : (aimTxFlushqueue s).queueOutgoing = [] := heq ▸ rfl
  have henqueued : (aimTxFlushqueue s).history.enqueued = s.history.enqueued := heq ▸ rfl
  refine ⟨hempty, heq ▸ rfl, fun t ht hnone => ?_⟩
  have hflushed : Sound (aimTxFlushqueue s) := @Sound.step Guard.any _ _ hsound .flushqueue
  have hunqueued : Unqueued s.history.enqueued (aimTxFlushqueue s) :=
    ⟨hflushed, henqueued ▸ List.prefix_refl _, fun _ => hempty⟩
  have hnil := (hunqueued.run ht).queue hnone
  refine ⟨hnil, fun select' hone => ?_⟩
  exact ((aimSelect_eq_one_iff select').mp hone).2.2 hnil

end Runs

section Example

/-- Two connections, one of which is still connecting, and one that is closed. -/
def mixedSession : AimSession :=
  let sess := (aimNewconn (aimSessionInit []) aimConnTypeBos (.connected 3 0)).2
  let sess := (aimNewconn sess aimConnTypeChat (.connected 4 aimConnStatusInprogress)).2
  (aimNewconn sess aimConnTypeAuth .nodest).2

theorem mixedSession_run (ok : Guard) : Run ok (aimSessionInit []) mixedSession :=
  .calls (.refl _) (.newconn _ _ (.newconn _ _ (.newconn _ _ (.refl _))))

theorem lookups_newest_mixed :
    mixedSession.Newest (fun conn => conn.type = aimConnTypeBos ∧ ¬ conn.Inprogress)
        (aimGetconnType mixedSession aimConnTypeBos) ∧
      mixedSession.SelectFinds (fun _ _ _ => .timeout)
        (aimSelect (fun _ _ _ => .timeout) mixedSession) := by
  have hselect : Select.Documented fun _ _ _ => .timeout :=
    fun _ _ _ _ _ _ h => absurd h (by simp)
  have hfound := lookups_newest (mixedSession_run _) aimConnTypeBos 3 hselect
  exact ⟨hfound.1, hfound.2.2.2⟩

/-- A frame on the queue of an open connection. -/
def queuedSession : AimSession :=
  aimTxEnqueue (aimNewconn (aimSessionInit []) aimConnTypeBos (.connected 3 0)).2
    ⟨7, .flap 5 0, aimBstreamInit [] 0, 0, 1⟩

/-- The queue is still empty after another connection has been opened. -/
theorem aimSelect_flushes_queued :
    (aimNewconn (aimTxFlushqueue queuedSession) aimConnTypeChat .nodest).2.queueOutgoing = [] := by
  have hcalls : Calls Guard.any (aimSessionInit []) queuedSession :=
    .enqueue (.newconn _ _ (.refl _)) (Or.inl (by decide)) trivial
  have hlater := (aimSelect_flushes (.calls (.refl _) hcalls) (fun _ _ _ => .timeout)
    (by decide)).2.2
  exact (hlater _ (.calls (.refl _) (.newconn _ _ (.refl _))) rfl).1

end Example

end Libfaim
