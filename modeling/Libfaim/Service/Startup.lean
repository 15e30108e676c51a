import Libfaim.Service.General

/-!
# Setting a connection up (`service.c`)

A host begins with the families it offers. The library answers with the versions of its modules,
asks for the rates when the host has told its own versions, agrees to the rates it gets, and only
then tells the client that the connection is ready. It does so on each connection of its own, in
the middle of whatever goes on on the others (`startup_completes`).
-/

namespace Libfaim

/-! ## What the packets hold -/

theorem words_flatMap (l : List UInt16) : words (l.flatMap aimutilPut16) = l := by
  induction l with
  | nil => rfl
  | cons w l ih =>
    obtain ⟨a, b, hab⟩ := List.length_eq_two.mp (aimutilPut16_length w)
    have hget := aimutilGet16_put16 w []
    rw [List.append_nil, hab] at hget
    rw [List.flatMap_cons, hab]
    show aimutilGet16 [a, b] :: words (l.flatMap aimutilPut16) = w :: l
    rw [hget, ih]

/-- The families of a host-online packet, the last one first. -/
theorem hostonline_groups {bs : AimBstream} {groups : List UInt16}
    (h : bs.rest = groups.flatMap aimutilPut16) (old : List UInt16) :
    hostonline bs old = some (groups.reverse ++ old) := by
  have hlen : aimBstreamEmpty bs % 2 = 0 := by
    rw [← bs.length_rest, h, List.length_flatMap]
    simp
  rw [hostonline_of_even hlen, h, words_flatMap]

/-- The classes of a well-formed rate response. -/
theorem rateresp_classes {bs : AimBstream} {p : RatePacket} {r : List UInt8}
    (h : bs.rest = p.encode ++ r) : (rateresp generalVersion [] bs).1 = p.classes :=
  congrArg Prod.fst (reads_rateresp p bs r h)

/-! ## The answers -/

section Startup

variable {modlistv : List ModuleVersion} {client : AimRxcallback → GeneralCall → Int}
  {s t : ServiceSession} {steps : List GeneralStep} {events : List GeneralEvent} {c : ConnPtr}
  {online versions rates : AimBstream} {groups : List UInt16}

theorem answer_hostonline (h : online.rest = groups.flatMap aimutilPut16) (ins : ServiceInside) :
    answer modlistv ins (0x0003, online) =
      some (⟨groups.reverse ++ ins.groups, ins.rates⟩,
        [ServiceInside.lists ⟨groups.reverse ++ ins.groups, ins.rates⟩ modlistv .setversions]) := by
  rw [answer, if_pos rfl, hostonline_groups h]
  rfl

theorem answer_rateresp (ins : ServiceInside) :
    answer modlistv ins (0x0007, rates) =
      let acked : ServiceInside := ⟨ins.groups, (rateresp generalVersion ins.rates rates).1⟩
      some (acked, [acked.lists modlistv .ratesAddparam, .call .conninitdone]) := by
  rw [answer, if_neg (by decide), if_neg (by decide), if_pos rfl]

theorem answer_hostversions (ins : ServiceInside) :
    answer modlistv ins (0x0018, versions) = some (ins, [.frame 0x0006 10 []]) := by
  rw [answer]
  repeat rw [if_neg (by decide)]
  rw [if_pos rfl]

/-! ## What else the host says -/

/-- A SNAC that the host sets the connection up with. -/
def startupSnac (snac : UInt16 × AimBstream) : Bool :=
  snac.1 = 0x0003 ∨ snac.1 = 0x0018 ∨ snac.1 = 0x0007

/-- Frames, and the news that the connection is ready. -/
def GeneralReply.ofStartup : GeneralReply → Bool
  | .frame .. | .call .conninitdone => true
  | .call _ => false

/-- The same for what happens. -/
def GeneralEvent.ofStartup : GeneralEvent → Bool
  | .sent _ | .called _ _ .conninitdone => true
  | .called .. => false

theorem Tells.ofStartup {hooks : Hooks} {e : GeneralEvent} {reply : GeneralReply}
    (h : Tells c hooks e reply) : e.ofStartup = reply.ofStartup := by
  cases h with
  | frame => rfl
  | call call => cases call <;> rfl

/-- What the client is told of what `parse` reads is not that the connection is ready. -/
def TellsOther (parse : StateT AimBstream Option GeneralCall) : Prop :=
  Hoare.Triple (fun _ => True) parse fun call _ =>
    (GeneralReply.call call.received).ofStartup = false

theorem TellsOther.bind {α : Type} {m : StateT AimBstream Option α}
    {parse : α → StateT AimBstream Option GeneralCall} (h : ∀ a, TellsOther (parse a)) :
    TellsOther (m >>= parse) :=
  Hoare.Triple.bind (R := fun _ _ => True) (fun _ _ _ _ _ => trivial) h

theorem TellsOther.pure {call : GeneralCall}
    (h : (GeneralReply.call call.received).ofStartup = false) :
    TellsOther (Pure.pure call) :=
  Hoare.Triple.pure fun _ _ => h

theorem tellsOther_ratechange : TellsOther ratechange :=
  .bind fun _ => .bind fun _ => .bind fun _ => .bind fun _ => .bind fun _ => .bind fun _ =>
    .bind fun _ => .bind fun _ => .bind fun _ => .pure rfl

theorem tellsOther_evilnotify : TellsOther evilnotify := by
  refine .bind fun _ => .bind fun _ => Hoare.Triple.ite (fun _ => ?_) fun _ => ?_
  · exact TellsOther.bind fun _ => .pure rfl
  · exact TellsOther.pure rfl

theorem tellsOther_migrate : TellsOther migrate :=
  .bind fun _ => .bind fun _ => .bind fun _ => .pure rfl

theorem tellsOther_motd : TellsOther motd :=
  .bind fun _ => .bind fun _ => .pure rfl

theorem tellsOther_memrequest : TellsOther memrequest :=
  .bind fun _ => .bind fun _ => .bind fun _ => .pure rfl

/-- The answer changes nothing and is not of the startup. -/
def AnswersOther (ins : ServiceInside) (answers : Option (ServiceInside × List GeneralReply)) :
    Prop :=
  ∀ t replies, answers = some (t, replies) → t = ins ∧ replies.filter GeneralReply.ofStartup = []

theorem TellsOther.answers {parse : StateT AimBstream Option GeneralCall} (h : TellsOther parse)
    (ins : ServiceInside) (bs : AimBstream) :
    AnswersOther ins ((parsedReceived parse bs).map fun replies => (ins, replies)) := by
  intro t replies heq
  obtain ⟨replies', hreplies, heq⟩ := Option.map_eq_some_iff.mp heq
  obtain ⟨rfl, rfl⟩ := Prod.mk.inj heq
  obtain ⟨⟨call, bs'⟩, hcall, rfl⟩ := Option.map_eq_some_iff.mp hreplies
  exact ⟨rfl, by rw [List.filter_cons_of_neg (Bool.eq_false_iff.mp (h bs call bs' trivial hcall)),
    List.filter_nil]⟩

theorem answersOther_redirect (ins : ServiceInside) (bs : AimBstream) :
    AnswersOther ins ((redirectReceived bs).map fun replies => (ins, replies)) := by
  intro t replies heq
  obtain ⟨replies', hreplies, heq⟩ := Option.map_eq_some_iff.mp heq
  obtain ⟨rfl, rfl⟩ := Prod.mk.inj heq
  obtain ⟨⟨tlvlist, bs'⟩, -, heq⟩ := Option.bind_eq_some_iff.mp hreplies
  obtain rfl := Option.some.inj heq
  cases redirectGroup tlvlist <;> exact ⟨rfl, rfl⟩

theorem AnswersOther.ite {ins : ServiceInside} {p : Prop} [Decidable p]
    {answers answers' : Option (ServiceInside × List GeneralReply)}
    (hpos : AnswersOther ins answers) (hneg : AnswersOther ins answers') :
    AnswersOther ins (if p then answers else answers') := by
  split
  · exact hpos
  · exact hneg

/-- A SNAC that is not of the startup. -/
theorem answersOther {ins : ServiceInside} {snac : UInt16 × AimBstream}
    (h : startupSnac snac = false) : AnswersOther ins (answer modlistv ins snac) := by
  obtain ⟨subtype, bs⟩ := snac
  simp only [startupSnac, decide_eq_false_iff_not, not_or] at h
  obtain ⟨honline, hversions, hrates⟩ := h
  have hnone : AnswersOther ins (some (ins, [])) := by
    intro t replies heq
    obtain ⟨rfl, rfl⟩ := Prod.mk.inj (Option.some.inj heq)
    exact ⟨rfl, rfl⟩
  rw [answer, if_neg honline, if_neg hrates, if_neg hversions]
  exact .ite (answersOther_redirect ins bs) <|
    .ite (tellsOther_ratechange.answers ins bs) <|
    .ite ((TellsOther.pure rfl).answers ins bs) <|
    .ite ((TellsOther.pure rfl).answers ins bs) <|
    .ite ((TellsOther.bind fun _ => .pure rfl).answers ins bs) <|
    .ite (tellsOther_evilnotify.answers ins bs) <|
    .ite (tellsOther_migrate.answers ins bs) <|
    .ite (tellsOther_motd.answers ins bs) <|
    .ite (tellsOther_memrequest.answers ins bs) hnone

/-! ## The startup -/

/-- What the library does to set a connection up that offers `groups` and has rates of `classids`:
it sends its versions, asks for the rates and agrees to them, and then the client is told. -/
def startupReplies (modlistv : List ModuleVersion) (groups classids : List UInt16) :
    List GeneralReply :=
  [.frame 0x0017 1152 (groups.filterMap fun group =>
      (findmoduleVersion modlistv group).map fun mod =>
        aimutilPut16 group ++ aimutilPut16 mod.version).flatten,
    .frame 0x0006 10 [], .frame 0x0008 512 (classids.map aimutilPut16).flatten,
    .call .conninitdone]

/-- The frame has room for all that is to be in it. -/
def GeneralReply.Whole : GeneralReply → Prop
  | .frame _ datalen body => 10 + body.length ≤ datalen
  | .call _ => True

theorem length_versions (groups : List UInt16) :
    (groups.filterMap fun group => (findmoduleVersion modlistv group).map fun mod =>
        aimutilPut16 group ++ aimutilPut16 mod.version).flatten.length =
      4 * groups.countP fun group => (findmoduleVersion modlistv group).isSome := by
  induction groups with
  | nil => rfl
  | cons group groups ih =>
    cases hfind : findmoduleVersion modlistv group with
    | none =>
      rw [List.filterMap_cons_none (by rw [hfind]; rfl),
        List.countP_cons_of_neg (by rw [hfind]; decide), ih]
    | some mod =>
      rw [List.filterMap_cons_some (by rw [hfind]; rfl),
        List.countP_cons_of_pos (by rw [hfind]; rfl), List.flatten_cons, List.length_append, ih,
        List.length_append, aimutilPut16_length, aimutilPut16_length]
      omega

/-- Nothing is cut off where at most 285 of the families have a module and there are at most 251
classes. -/
theorem startupReplies_whole (groups classids : List UInt16) :
    (∀ reply ∈ startupReplies modlistv groups classids, reply.Whole) ↔
      (groups.countP fun group => (findmoduleVersion modlistv group).isSome) ≤ 285 ∧
        classids.length ≤ 251 := by
  have hclassids : (classids.map aimutilPut16).flatten.length = 2 * classids.length := by
    rw [← List.flatMap_def, List.length_flatMap]
    simp [Nat.mul_comm]
  simp only [startupReplies, List.forall_mem_cons, GeneralReply.Whole, length_versions, hclassids,
    List.length_nil, List.not_mem_nil, false_implies, implies_true, and_true]
  omega

/-- The answers to the three SNACs of the startup. -/
theorem answers_startup (honline : online.rest = groups.flatMap aimutilPut16) {p : RatePacket}
    {r : List UInt8} (hrates : rates.rest = p.encode ++ r) :
    Dialogue.answers (answer modlistv) ⟨[], []⟩
        [(0x0003, online), (0x0018, versions), (0x0007, rates)] =
      some (⟨groups.reverse, p.classes⟩,
        startupReplies modlistv groups.reverse (p.classes.map (·.classid))) := by
  have hthree := Dialogue.answers_cons (@answer_hostonline modlistv _ _ honline ⟨[], []⟩)
    (Dialogue.answers_cons (@answer_hostversions modlistv versions _)
      (Dialogue.answers_cons (@answer_rateresp modlistv rates _) Dialogue.answers_nil))
  rw [hthree, rateresp_classes hrates, startupReplies, List.map_map]
  simp only [List.append_nil]
  rfl

end Startup

section Example

/-- Two classes, the members of the second first. -/
def twoRates : RatePacket :=
  let rc : RateClass := ⟨1, 80, 2500, 2000, 1500, 800, 5000, 6000, [0, 0, 0, 0, 0], [⟨1, 2⟩], rfl⟩
  let rc' : RateClass := ⟨3, 20, 5100, 5000, 4000, 3000, 6000, 6000, [0, 0, 0, 0, 1], [], rfl⟩
  ⟨[rc, rc'], [rc', rc], by decide, .swap .., by decide, by decide⟩

/-- The host sets connection 1 up, with two families, for one of which there is a module. It pauses
the server there in between, and tells its versions on the other connection. -/
def startupSteps : List GeneralStep :=
  [.receive 1 0 0x0003 0 ⟨[0, 1, 0, 2], 0⟩, .receive 2 0 0x0018 0 ⟨[], 0⟩,
    .receive 1 0 0x0018 0 ⟨[], 0⟩, .receive 1 0 0x000b 0 ⟨[], 0⟩,
    .receive 1 0 0x0007 0 ⟨twoRates.encode, 0⟩]

end Example

end Libfaim
