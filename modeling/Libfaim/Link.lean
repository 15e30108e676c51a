import Libfaim.RxQueue.Codec
import Libfaim.TxQueue.Seqnum

/-!
# Two sessions on a link

Each end of a link is a session with a connection, and what one writes on its connection the other
reads. The ends act in any order: an end makes any run of calls on its session in which no immediate
write overtakes a queued FLAP frame of its connection (`Guard.noOvertaking`), or calls
`aim_get_command` when a whole frame has arrived, however `recv` cuts up the bytes on the way. Where
all frames that an end has written can be sent (`Sendable`), those the other one has received are,
in order and each once, the first of them (`Along`), and their sequence numbers are consecutive;
whoever reads on receives the rest.
-/

namespace Libfaim

open Outbox (Fifo)

/-! ## The ends of a link -/

/-- `taken` bytes of the other end's wire have been read, and `got` are the frames these were. -/
structure Party where
  sess : AimSession
  conn : ConnPtr
  taken : Nat
  got : List AimFrame

/-- The frames that were written. -/
def Party.frames (p : Party) : List AimFrame := p.sess.framesWritten p.conn

/-- The bytes on the way from `p` to `q`. -/
def Party.inFlight (p q : Party) : List UInt8 := (p.sess.wire p.conn).drop q.taken

/-- `q` after `aim_get_command` has read of what `p` wrote: `sess` is its session, and `sock` what
is left on the way. -/
def Party.readOn (p q : Party) (sess : AimSession) (sock : Socket) : Party :=
  { q with
    sess := sess
    taken := (p.sess.wire p.conn).length - sock.flatten.length
    got := q.got ++ sess.queueIncoming.drop q.sess.queueIncoming.length }

/-- What `q` may do while `p` waits: it makes calls, but writes nothing past a queued FLAP frame, or
reads a frame that `p` has written. -/
inductive Party.Acts (p q : Party) : Party → Prop where
  | run {sess : AimSession} : Run Guard.noOvertaking q.sess sess → Acts p q { q with sess := sess }
  | read (outcome : SelectOutcome) (userfunc : AimSession → AimSession)
      (rendezvous : AimSession → Int × AimSession) {sock : Socket} :
      q.conn ∈ q.sess.connlist → ReadsFlap q.sess q.conn → Carries sock (p.inFlight q) →
      ¬ CutFlap (p.inFlight q) →
      Acts p q (p.readOn q (aimGetCommand outcome userfunc rendezvous q.sess q.conn sock).2.1
        (aimGetCommand outcome userfunc rendezvous q.sess q.conn sock).2.2)

structure Link where
  near : Party
  far : Party

namespace Link

inductive Step : Link → Link → Prop where
  | near {l : Link} {near : Party} : l.far.Acts l.near near → Step l { l with near := near }
  | far {l : Link} {far : Party} : l.near.Acts l.far far → Step l { l with far := far }

abbrev Steps : Link → Link → Prop := Relation.ReflTransGen Step

/-- Two new sessions, with the addresses their connections will have. -/
def start (mods mods' : List AimModule) (c d : ConnPtr) : Link where
  near := ⟨aimSessionInit mods, c, 0, []⟩
  far := ⟨aimSessionInit mods', d, 0, []⟩

def swap (l : Link) : Link := ⟨l.far, l.near⟩

end Link

/-! ## What stays of a session -/

section Sent

variable {s t : AimSession}

/-- What was written remains written. -/
theorem TxStep.sent_isPrefix {ok : Guard} (h : TxStep ok s t) :
    s.history.sent <+: t.history.sent := by
  cases h with
  | same hsame => exact hsame.history ▸ List.prefix_refl _
  | opened conn _ => exact List.prefix_refl _
  | mode what func _ =>
    obtain ⟨txEnqueue, heq, -⟩ := aimTxSetenqueue_eq s what func
    exact heq ▸ List.prefix_refl _
  | queued fr _ =>
    obtain ⟨conn, heq, -⟩ := pushOutgoing_eq s fr
    exact heq ▸ List.prefix_refl _
  | sent fr =>
    obtain ⟨conn, heq, -⟩ := sendNow_eq s fr
    exact heq ▸ List.prefix_append _ _
  | flushed =>
    obtain ⟨wire, heq, -⟩ := aimTxFlushqueue_eq s
    exact heq ▸ List.prefix_append _ _
  | purged => exact List.prefix_refl _
  | killed dead connlist _ _ hkilled =>
    obtain ⟨⟨conn, rfl⟩, -⟩ := hkilled
    exact List.prefix_refl _

theorem framesWritten_isPrefix (h : s.history.sent <+: t.history.sent) (c : ConnPtr) :
    s.framesWritten c <+: t.framesWritten c :=
  h.filter _

/-- A connection on which no frame overtakes another, and what was written on it before. -/
structure WritesOn (c : ConnPtr) (frs : List AimFrame) (s : AimSession) : Prop where
  inSequence : InSequence c s
  frames : frs <+: s.framesWritten c

theorem WritesOn.run {c : ConnPtr} (h : InSequence c s) (hrun : Run Guard.noOvertaking s t) :
    WritesOn c (s.framesWritten c) t := by
  refine hrun.inv (P := WritesOn c (s.framesWritten c)) ?_ ?_ ⟨h, List.prefix_refl _⟩
  · rintro u v hstep ⟨hu, hframes⟩
    have htx := hstep.txStep hu.wellListed.nodup
    exact ⟨hu.step hstep, hframes.trans (framesWritten_isPrefix htx.sent_isPrefix c)⟩
  · rintro u queue ⟨hu, hframes⟩
    exact ⟨⟨hu.wellListed.queueIncoming _, hu.fifo, ⟨hu.numbered.accepted, hu.numbered.seqnum⟩,
      hu.wireSent⟩, hframes⟩

end Sent

/-- What is written of a frame that can be sent. -/
theorem AimFrame.bytes_of_sendable {fr : AimFrame} (h : Sendable fr) :
    fr.bytes = (fr.toFlap h).encode := by
  let sess := aimSessionInit []
  obtain ⟨data, heq⟩ := aimTxSendframe_eq fr sess
  have hwire := congrFun (aimTxSendframe_wire h sess) fr.conn
  rw [heq, AimSession.noteSent, Function.update_self] at hwire
  simp only [Function.update_self] at hwire
  exact List.append_cancel_left hwire

/-! ## One direction -/

/-- What the other end receives of a frame on its connection `c`. -/
def AimFrame.seen (c : ConnPtr) (fr : AimFrame) : FrameHdr × AimBstream × UInt8 × ConnPtr :=
  (.flap fr.hdr.flapType fr.hdr.flapSeqnum, ⟨fr.data.written, 0⟩, 0, c)

/-- Of the frames `frs`, `q` has received the first ones, and has read just their bytes. -/
structure Carried (frs : List AimFrame) (q : Party) : Prop where
  length_le : q.got.length ≤ frs.length
  got : q.got.map AimFrame.contents = (frs.take q.got.length).map (AimFrame.seen q.conn)
  taken : q.taken = ((frs.take q.got.length).flatMap AimFrame.bytes).length

theorem Carried.mono {frs frs' : List AimFrame} {q : Party} (h : Carried frs q)
    (hbegins : frs <+: frs') : Carried frs' q := by
  obtain ⟨more, rfl⟩ := hbegins
  have htake : (frs ++ more).take q.got.length = frs.take q.got.length :=
    List.take_append_of_le_length h.length_le
  refine ⟨?_, htake ▸ h.got, htake ▸ h.taken⟩
  rw [List.length_append]
  exact Nat.le_add_right_of_le h.length_le

/-- What goes from `p` to `q`, provided that all of it fits into frames. -/
structure Along (p q : Party) : Prop where
  inSequence : InSequence p.conn p.sess
  carried : (∀ fr ∈ p.frames, Sendable fr) → Carried p.frames q

section Along

variable {p q : Party}

theorem Along.inFlight_eq (h : Along p q) (hsend : ∀ fr ∈ p.frames, Sendable fr) :
    p.inFlight q = (p.frames.drop q.got.length).flatMap AimFrame.bytes := by
  have hwire : p.sess.wire p.conn = p.frames.flatMap AimFrame.bytes := h.inSequence.wireSent p.conn
  have hsplit : p.frames.flatMap AimFrame.bytes =
      (p.frames.take q.got.length).flatMap AimFrame.bytes ++
        (p.frames.drop q.got.length).flatMap AimFrame.bytes := by
    rw [← List.flatMap_append, List.take_append_drop]
  rw [Party.inFlight, hwire, (h.carried hsend).taken, hsplit, List.drop_left]

/-- The end that sends does something else. -/
theorem Along.of_writesOn (h : Along p q) {p' : Party} (hconn : p'.conn = p.conn)
    (hp' : WritesOn p.conn p.frames p'.sess) : Along p' q := by
  have hframes : p.frames <+: p'.frames := by
    rw [Party.frames, Party.frames, hconn]
    exact hp'.frames
  refine ⟨hconn ▸ hp'.inSequence, fun hsend => ?_⟩
  exact (h.carried fun fr hfr => hsend fr (hframes.subset hfr)).mono hframes

/-- A whole frame is on the way only where one was written that has not been received. -/
theorem Along.exists_next (h : Along p q) (hsend : ∀ fr ∈ p.frames, Sendable fr)
    (hwhole : ¬ CutFlap (p.inFlight q)) :
    ∃ fr, ∃ hfr : Sendable fr, p.frames.drop q.got.length =
        fr :: p.frames.drop (q.got.length + 1) ∧
      p.inFlight q = (fr.toFlap hfr).encode ++
        (p.frames.drop (q.got.length + 1)).flatMap AimFrame.bytes := by
  rw [h.inFlight_eq hsend] at hwhole ⊢
  cases hdrop : p.frames.drop q.got.length with
  | nil =>
    rw [hdrop] at hwhole
    exact absurd (Or.inl (by decide)) hwhole
  | cons fr rest =>
    have hrest : rest = p.frames.drop (q.got.length + 1) := by
      rw [← List.drop_drop, hdrop, List.drop_one, List.tail_cons]
    have hfr : Sendable fr := hsend fr (List.drop_subset _ _ (hdrop ▸ List.mem_cons_self))
    refine ⟨fr, hfr, by rw [hrest], ?_⟩
    rw [List.flatMap_cons, AimFrame.bytes_of_sendable hfr, hrest]

section Read

variable (outcome : SelectOutcome) (userfunc : AimSession → AimSession)
  (rendezvous : AimSession → Int × AimSession) {sock : Socket}

/-- The next frame is received. -/
theorem Along.readOn_eq (h : Along p q) (hsend : ∀ fr ∈ p.frames, Sendable fr)
    (hreads : ReadsFlap q.sess q.conn) (hsock : Carries sock (p.inFlight q))
    (hwhole : ¬ CutFlap (p.inFlight q)) :
    ∃ fr, ∃ hfr : Sendable fr,
      p.frames.drop q.got.length = fr :: p.frames.drop (q.got.length + 1) ∧
      p.readOn q (aimGetCommand outcome userfunc rendezvous q.sess q.conn sock).2.1
        (aimGetCommand outcome userfunc rendezvous q.sess q.conn sock).2.2 =
      { q with
        sess := q.sess.receive q.conn (fr.toFlap hfr)
        taken := ((p.frames.take (q.got.length + 1)).flatMap AimFrame.bytes).length
        got := q.got ++ [⟨q.sess.heap, .flap fr.hdr.flapType fr.hdr.flapSeqnum,
          ⟨fr.data.written, 0⟩, 0, q.conn⟩] } := by
  obtain ⟨fr, hfr, hdrop, hflight⟩ := h.exists_next hsend hwhole
  have hfd : 0 ≤ (q.sess.conn q.conn).fd := Int.le_trans (by decide) hreads.fd_le
  rw [hflight] at hsock
  obtain ⟨sock', hcmd, hsock'⟩ := aimGetCommandFlap_encode hfd hsock
  have hwire : p.sess.wire p.conn = (p.frames.take (q.got.length + 1)).flatMap AimFrame.bytes ++
      sock'.flatten := by
    rw [hsock'.flatten_eq, ← List.flatMap_append, List.take_append_drop]
    exact h.inSequence.wireSent p.conn
  have hgot : q.got ++ (q.sess.receive q.conn (fr.toFlap hfr)).queueIncoming.drop
      q.sess.queueIncoming.length = q.got ++ [⟨q.sess.heap,
        .flap fr.hdr.flapType fr.hdr.flapSeqnum, ⟨fr.data.written, 0⟩, 0, q.conn⟩] := by
    rw [AimSession.receive, List.drop_left]
    rfl
  refine ⟨fr, hfr, hdrop, ?_⟩
  rw [aimGetCommand_readsFlap hreads, hcmd, Party.readOn, hgot, hwire, List.length_append,
    Nat.add_sub_cancel]

theorem Along.read (h : Along p q) (hreads : ReadsFlap q.sess q.conn)
    (hsock : Carries sock (p.inFlight q)) (hwhole : ¬ CutFlap (p.inFlight q)) :
    Along p (p.readOn q (aimGetCommand outcome userfunc rendezvous q.sess q.conn sock).2.1
      (aimGetCommand outcome userfunc rendezvous q.sess q.conn sock).2.2) := by
  refine ⟨h.inSequence, fun hsend => ?_⟩
  obtain ⟨fr, hfr, hdrop, heq⟩ := h.readOn_eq outcome userfunc rendezvous hsend hreads hsock hwhole
  have hcarried := h.carried hsend
  have htake : p.frames.take (q.got.length + 1) = p.frames.take q.got.length ++ [fr] := by
    rw [List.take_add, hdrop, List.take_succ_cons, List.take_zero]
  have hlen := congrArg List.length hdrop
  rw [List.length_cons, List.length_drop, List.length_drop] at hlen
  rw [heq]
  refine ⟨?_, ?_, ?_⟩
  · simp only [List.length_append, List.length_singleton]
    omega
  · simp only [List.length_append, List.length_singleton, htake, List.map_append, hcarried.got]
    rfl
  · simp only [List.length_append, List.length_singleton]

/-- The end that reads has its own sending in sequence as before. -/
theorem WritesOn.read {q : Party} {c : ConnPtr} (h : InSequence c q.sess)
    (hconn : q.conn ∈ q.sess.connlist) (hreads : ReadsFlap q.sess q.conn) :
    WritesOn c (q.sess.framesWritten c)
      (aimGetCommand outcome userfunc rendezvous q.sess q.conn sock).2.1 := by
  rw [aimGetCommand_readsFlap hreads]
  refine aimGetCommandFlap_cases (P := WritesOn c (q.sess.framesWritten c)) ?_ ?_ sock
  · exact ⟨h.step (.close hconn), List.prefix_refl _⟩
  · exact fun type seqnum data => ⟨h.step (.receive type seqnum data hconn), List.prefix_refl _⟩

end Read

/-- Whatever `q` does, what goes to it and what goes from it stays in order. -/
theorem Party.Acts.along {q' : Party} (h : p.Acts q q') (hto : Along p q) (hfrom : Along q p) :
    Along p q' ∧ Along q' p := by
  cases h with
  | run hrun =>
    refine ⟨⟨hto.inSequence, fun hsend => ?_⟩,
      hfrom.of_writesOn rfl (WritesOn.run hfrom.inSequence hrun)⟩
    exact ⟨(hto.carried hsend).length_le, (hto.carried hsend).got, (hto.carried hsend).taken⟩
  | read outcome userfunc rendezvous hconn hreads hsock hwhole =>
    exact ⟨hto.read outcome userfunc rendezvous hreads hsock hwhole,
      hfrom.of_writesOn rfl
        (WritesOn.read outcome userfunc rendezvous hfrom.inSequence hconn hreads)⟩

end Along

/-! ## Both directions -/

theorem along_start (mods mods' : List AimModule) (c d : ConnPtr) :
    Along (Link.start mods mods' c d).near (Link.start mods mods' c d).far := by
  refine ⟨⟨wellListed_init, fifo_init _, ⟨rfl, fun hc => absurd hc List.not_mem_nil⟩,
    wireSent_init⟩, fun _ => ⟨Nat.zero_le _, rfl, rfl⟩⟩

theorem Link.along_of_steps {l l' : Link} (h : Link.Steps l l')
    (hl : Along l.near l.far ∧ Along l.far l.near) :
    Along l'.near l'.far ∧ Along l'.far l'.near := by
  induction h with
  | refl => exact hl
  | tail _ hstep ih =>
    cases hstep with
    | near hacts => exact (hacts.along ih.2 ih.1).symm
    | far hacts => exact hacts.along ih.1 ih.2

section Delivery

variable {p q : Party}

/-- The FLAP frames that were enqueued. -/
def Party.enqueued (p : Party) : List AimFrame :=
  (p.sess.framesEnqueued p.conn).filter fun fr => fr.hdr.isFlap

/-- From `p` to `q`: what `q` has received, and what is still on the way. -/
structure Delivers (p q : Party) : Prop where
  got : q.got.map AimFrame.contents = (p.frames.take q.got.length).map (AimFrame.seen q.conn)
  inFlight : p.inFlight q = (p.frames.drop q.got.length).flatMap AimFrame.bytes
  frames : p.frames <+: p.enqueued
  seqnums : q.got.map (·.hdr.flapSeqnum) = consecutive q.got.length

theorem filter_flapStream (frs : List AimFrame) (c : ConnPtr) :
    frs.filter (fun fr => (flapStream c).Includes fr) =
      (frs.filter fun fr => fr.conn = c).filter fun fr => fr.hdr.isFlap := by
  rw [List.filter_filter]
  refine List.filter_congr fun fr _ => ?_
  by_cases hc : fr.conn = c <;> cases hflap : fr.hdr.isFlap <;>
    simp [Stream.Includes, hc, hflap]

theorem outbox_accepted_flap (p : Party) :
    (p.sess.outbox (flapStream p.conn)).accepted = p.enqueued :=
  filter_flapStream _ _

/-- All frames on the connection are FLAP frames. -/
theorem outbox_written_flap (hsend : ∀ fr ∈ p.frames, Sendable fr) :
    (p.sess.outbox (flapStream p.conn)).written = p.frames :=
  (filter_flapStream _ _).trans (List.filter_eq_self.mpr fun fr hfr => (hsend fr hfr).isFlap)

theorem Along.delivers (h : Along p q) (hsend : ∀ fr ∈ p.frames, Sendable fr) : Delivers p q := by
  have hgot := (h.carried hsend).got
  have hframes : p.frames <+: p.enqueued := by
    rw [← outbox_written_flap hsend, ← outbox_accepted_flap]
    exact h.inSequence.fifo.written_isPrefix
  refine ⟨hgot, h.inFlight_eq hsend, hframes, ?_⟩
  have hnumbers := congrArg (List.map fun seen => seen.1.flapSeqnum) hgot
  rw [List.map_map, List.map_map] at hnumbers
  have hbegins : q.got.map (·.hdr.flapSeqnum) <+: consecutive p.enqueued.length := by
    have hnumbered := h.inSequence.numbered.accepted
    rw [outbox_accepted_flap] at hnumbered
    rw [← hnumbered]
    refine List.IsPrefix.trans ?_ (hframes.map _)
    exact hnumbers ▸ (List.take_prefix _ _).map _
  have hlen := consecutive_of_prefix hbegins
  rwa [List.length_map] at hlen

/-! ## Reading on -/

/-- After a flush of an established connection all its FLAP frames have been written. -/
theorem Along.flush_frames (h : Along p q) (hlive : p.conn ∈ p.sess.connlist)
    (hprogress : ¬ (p.sess.conn p.conn).Inprogress)
    (hsend : ∀ fr ∈ { p with sess := aimTxFlushqueue p.sess }.frames, Sendable fr) :
    { p with sess := aimTxFlushqueue p.sess }.frames = p.enqueued := by
  have hflush := outbox_flushed_of_not_held (s := p.sess) (σ := flapStream p.conn) fun hheld =>
    hprogress hheld.2
  have hwritten := outbox_written_flap hsend
  rw [← hwritten, ← outbox_accepted_flap, ← h.inSequence.fifo.written_append_waiting
    (phase_live hlive)]
  exact congrArg Outbox.State.written hflush

theorem not_cutFlap_encode (f : Flap) (r : List UInt8) : ¬ CutFlap (f.encode ++ r) := by
  have hlen : (f.encode ++ r).length = 6 + f.payload.length + r.length := by
    rw [List.length_append, Flap.encode_length]
  have hpayload : aimutilGet16 ((f.encode ++ r).drop 4) = f.payloadlen := by
    rw [Flap.encode, List.append_assoc, flapHeader_payloadlen]
  rintro (hshort | hstart | hcut)
  · omega
  · exact hstart rfl
  · rw [hpayload, Flap.payloadlen_toNat] at hcut
    omega

/-- The calls of `aim_get_command` that bring all that was written. -/
theorem Along.readAll (h : Along p q) (hsend : ∀ fr ∈ p.frames, Sendable fr)
    (hconn : q.conn ∈ q.sess.connlist) (hreads : ReadsFlap q.sess q.conn) :
    ∃ q', Relation.ReflTransGen p.Acts q q' ∧ q'.conn = q.conn ∧ Along p q' ∧
      q'.got.length = p.frames.length := by
  induction hleft : p.frames.length - q.got.length generalizing q with
  | zero =>
    have hle := (h.carried hsend).length_le
    exact ⟨q, .refl, rfl, h, by omega⟩
  | succ n ih =>
    obtain ⟨fr, rest, hdrop⟩ : ∃ fr rest, p.frames.drop q.got.length = fr :: rest := by
      cases hdrop : p.frames.drop q.got.length with
      | nil =>
        have hnil := congrArg List.length hdrop
        rw [List.length_drop, hleft] at hnil
        exact nomatch hnil
      | cons fr rest => exact ⟨fr, rest, rfl⟩
    have hfr : Sendable fr := hsend fr (List.drop_subset _ _ (hdrop ▸ List.mem_cons_self))
    have hflight : p.inFlight q = (fr.toFlap hfr).encode ++ rest.flatMap AimFrame.bytes := by
      rw [h.inFlight_eq hsend, hdrop, List.flatMap_cons, AimFrame.bytes_of_sendable hfr]
    have hwhole : ¬ CutFlap (p.inFlight q) := hflight ▸ not_cutFlap_encode _ _
    have hsock : Carries [p.inFlight q] (p.inFlight q) := by
      refine ⟨by rw [List.flatten_cons, List.flatten_nil, List.append_nil], fun piece hpiece => ?_⟩
      rw [List.mem_singleton.mp hpiece, hflight]
      exact List.cons_ne_nil _ _
    obtain ⟨fr', hfr', -, heq⟩ := h.readOn_eq .done id (fun sess => (0, sess)) hsend hreads hsock
      hwhole
    have hread := h.read .done id (fun sess => (0, sess)) hreads hsock hwhole
    have hacts := Party.Acts.read .done id (fun sess => (0, sess)) hconn hreads hsock hwhole
    rw [heq] at hread hacts
    obtain ⟨q', hsteps, hq', halong, hall⟩ := ih hread hconn (hreads.of_conn rfl) (by
      simp only [List.length_append, List.length_singleton]
      omega)
    exact ⟨q', .head hacts hsteps, hq', halong, hall⟩

end Delivery

/-! ## Links -/

section Example

/-- A frame on the queue of one end. -/
def queuedEnd : Party := ⟨aimTxEnqueue bosSession bosFrame, 1, 0, []⟩

/-- The frame on its way. -/
def flushedEnd : Party := { queuedEnd with sess := aimTxFlushqueue queuedEnd.sess }

/-- The other end, connected. -/
def openEnd : Party := ⟨bosSession, 1, 0, []⟩

theorem queuedEnd_run : Run Guard.noOvertaking (aimSessionInit []) queuedEnd.sess := by
  have hcalls : Calls Guard.noOvertaking (aimSessionInit [])
      (aimTxEnqueue bosSession bosFrame) := by
    refine .enqueue (.newconn _ _ (.refl _)) (Or.inl ?_) ?_
    · exact List.mem_singleton_self 1
    · exact fun hmode => nomatch hmode
  exact .calls (.refl _) hcalls

theorem flushedEnd_sendable : ∀ fr ∈ flushedEnd.frames, Sendable fr := by
  intro fr hfr
  have hframes : flushedEnd.frames = [⟨0, .flap 0x02 1, ⟨[], 0⟩, 0, 1⟩] := by decide
  rw [hframes] at hfr
  obtain rfl := List.mem_singleton.mp hfr
  exact ⟨rfl, by decide, by decide⟩

theorem openEnd_reads : ReadsFlap openEnd.sess openEnd.conn :=
  ⟨by decide, by decide, by decide, by decide, by decide⟩

theorem openLink_steps : Link.Steps (Link.start [] [] 1 1) ⟨queuedEnd, openEnd⟩ :=
  .tail (.tail .refl (.near (.run queuedEnd_run)))
    (.far (.run (.calls (.refl _) (.newconn _ _ (.refl _)))))

end Example

end Libfaim
