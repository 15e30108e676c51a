import Libfaim.Request.Whole
import Libfaim.Service.Rates

/-!
# Frames that list what a connection holds

A connection holds the groups its host-online packets list and the classes of its rate responses
(`ServiceRun`). Four functions put one of these lists into a frame of a fixed size, and return 0
whether it fits or not. A frame holds the whole list exactly where the packets listed no more than
there is room for (`serviceFrame_iff`).
-/

namespace Libfaim

/-! ## What a connection holds -/

/-- `aim_conn_inside_t`, with the rate classes as `rateresp` stores them. -/
structure ServiceInside where
  groups : List UInt16
  rates : List RateClass

/-- What the functions that make frames look at. -/
def ServiceInside.conn (ins : ServiceInside) : AimConnInside where
  groups := ins.groups
  rates := ins.rates.map (·.classid)

/-- The packets that change it. -/
inductive ServicePacket
  | hostonline (bs : AimBstream)
  | rateresp (bs : AimBstream)

/-- The packet is handled; `none` if its handler never returns. -/
def ServiceInside.receive (ins : ServiceInside) : ServicePacket → Option ServiceInside
  | .hostonline bs => (hostonline bs ins.groups).map fun groups => { ins with groups := groups }
  | .rateresp bs => some { ins with rates := (rateresp generalVersion ins.rates bs).1 }

/-- What a new connection holds after these packets. -/
inductive ServiceRun : List ServicePacket → ServiceInside → Prop
  | new : ServiceRun [] ⟨[], []⟩
  | receive {packets : List ServicePacket} {ins ins' : ServiceInside} {packet : ServicePacket} :
    ServiceRun packets ins → ins.receive packet = some ins' →
      ServiceRun (packets ++ [packet]) ins'

/-! ## What the packets list -/

/-- Bytes as words of 16 bits. -/
def words : List UInt8 → List UInt16
  | a :: b :: bytes => aimutilGet16 [a, b] :: words bytes
  | _ => []

/-- The groups a packet lists. -/
def ServicePacket.groups : ServicePacket → List UInt16
  | .hostonline bs => words bs.rest
  | .rateresp _ => []

/-- The number of classes a packet says it has. -/
def ServicePacket.numclasses : ServicePacket → Nat
  | .hostonline _ => 0
  | .rateresp bs => (aimbsGet16 bs).1.toNat

theorem length_le_one_of_no_pair {v : List UInt8}
    (h : ∀ (a b : UInt8) (bytes : List UInt8), v ≠ a :: b :: bytes) : v.length ≤ 1 := by
  cases v with
  | nil => exact Nat.zero_le 1
  | cons a v =>
    cases v with
    | nil => exact Nat.le_refl 1
    | cons b v => exact absurd rfl (h a b v)

theorem flatMap_words {v : List UInt8} (h : v.length % 2 = 0) :
    (words v).flatMap aimutilPut16 = v := by
  induction v using words.induct with
  | case1 a b bytes ih =>
    rw [List.length_cons, List.length_cons] at h
    have hpair : aimutilPut16 (aimutilGet16 [a, b]) = [a, b] := aimutilPut16_get16 rfl
    rw [words, List.flatMap_cons, hpair, ih (by omega)]
    rfl
  | case2 v hv =>
    have hone := length_le_one_of_no_pair hv
    obtain rfl : v = [] := List.length_eq_zero_iff.mp (by omega)
    rfl

theorem length_words (v : List UInt8) : (words v).length = v.length / 2 := by
  induction v using words.induct with
  | case1 a b bytes ih =>
    rw [words, List.length_cons, ih, List.length_cons, List.length_cons]
    omega
  | case2 v hv =>
    have hone := length_le_one_of_no_pair hv
    rw [words.eq_2 v hv, List.length_nil]
    omega

/-- What one pass of `hostonline` does with a family. -/
def hostonlineTake (s : AimBstream × List UInt16 × List UInt16) (family : UInt16) :
    AimBstream × List UInt16 × List UInt16 :=
  (s.1.skip 2, s.2.1 ++ [family], aimConnAddgroup s.2.2 family)

theorem foldl_hostonlineTake (l : List UInt16) (s : AimBstream × List UInt16 × List UInt16) :
    (l.foldl hostonlineTake s).2.2 = l.reverse ++ s.2.2 := by
  induction l generalizing s with
  | nil => rfl
  | cons family l ih =>
    rw [List.foldl_cons, ih, List.reverse_cons, List.append_assoc]
    rfl

theorem hostonlinePass_take (s : AimBstream × List UInt16 × List UInt16) {family : UInt16}
    {r : List UInt8} (hr : s.1.rest = aimutilPut16 family ++ r) :
    hostonlinePass s = .again (hostonlineTake s family) ∧ (hostonlineTake s family).1.rest = r := by
  obtain ⟨bs, families, groups⟩ := s
  have hread := reads_aimbsGet16 family bs r hr
  have hskip := bs.rest_skip_of_append hr
  rw [aimutilPut16_length] at hread hskip
  have hpos : aimBstreamEmpty bs > 0 := by
    rw [← bs.length_rest, hr, List.length_append, aimutilPut16_length]
    omega
  refine ⟨?_, hskip⟩
  unfold hostonlinePass
  dsimp only
  rw [if_pos hpos, hread]
  rfl

/-- An even number of bytes is read to the end, and every group goes to the front. -/
theorem hostonline_of_even {bs : AimBstream} (h : aimBstreamEmpty bs % 2 = 0)
    (groups : List UInt16) :
    hostonline bs groups = some ((words bs.rest).reverse ++ groups) := by
  have hwords : bs.rest = (words bs.rest).flatMap aimutilPut16 :=
    (flatMap_words (by rwa [bs.length_rest])).symm
  have hleave : ∀ s : AimBstream × List UInt16 × List UInt16, s.1.rest = [] →
      hostonlinePass s = .leave s.2 := by
    rintro ⟨bs, families, groups⟩ hs
    have hempty : aimBstreamEmpty bs = 0 := by
      rw [← bs.length_rest]
      exact congrArg List.length hs
    exact if_neg (Nat.not_lt.mpr (Nat.le_of_eq hempty))
  have hrun := Loop.run_items_end (fun s => s.1.rest) aimutilPut16 hostonlineTake
    (fun family _ => List.ne_nil_of_length_pos (by simp))
    (fun family _ s r => hostonlinePass_take s) hleave (s := (bs, [], groups)) hwords
  rw [bs.length_rest] at hrun
  unfold hostonline
  rw [hrun, Option.map_some, foldl_hostonlineTake]

/-- An odd number of bytes is never read to the end. -/
theorem hostonline_of_odd {bs : AimBstream} (h : aimBstreamEmpty bs % 2 = 1)
    (groups : List UInt16) : hostonline bs groups = none := by
  have hstrays := (hostonline_strays_iff bs [] groups).mpr h
  have hnever : ¬ Loop.Terminates hostonlinePass (bs, [], groups) := fun hterm =>
    (hostonlinePass_reads.terminates_iff _).mp hterm hstrays
  unfold hostonline
  rw [Option.map_eq_none_iff, Option.eq_none_iff_forall_ne_some]
  exact fun r hr => hnever ⟨_, r, hr⟩

theorem length_raterespClasses (version : UInt16) (n : Nat) (rates : List RateClass)
    (bs : AimBstream) : (raterespClasses version n rates bs).1.length = rates.length + n := by
  induction n generalizing rates bs with
  | zero => rfl
  | succ n ih =>
    rw [raterespClasses, stateM_bind, ih, rcAddclass, List.length_append, List.length_singleton]
    omega

theorem length_raterespPairs (rc : Option Nat) (n : Nat) (rates : List RateClass)
    (bs : AimBstream) : (raterespPairs rc n rates bs).1.length = rates.length := by
  induction n generalizing rates bs with
  | zero => rfl
  | succ n ih =>
    rw [raterespPairs, stateM_bind, stateM_bind]
    cases rc with
    | none => exact ih rates _
    | some i => exact (ih _ _).trans (List.length_modify ..)

theorem length_raterespMembers (n : Nat) (rates : List RateClass) (bs : AimBstream) :
    (raterespMembers n rates bs).1.length = rates.length := by
  induction n generalizing rates bs with
  | zero => rfl
  | succ n ih =>
    rw [raterespMembers, stateM_bind, stateM_bind, stateM_bind, ih, length_raterespPairs]

/-- A response adds as many classes as it says, whatever follows. -/
theorem length_rateresp (version : UInt16) (rates : List RateClass) (bs : AimBstream) :
    (rateresp version rates bs).1.length = rates.length + (aimbsGet16 bs).1.toNat := by
  rw [rateresp, stateM_bind, stateM_bind, length_raterespMembers, length_raterespClasses]

section Run

variable {packets : List ServicePacket} {ins : ServiceInside}

/-- The groups of all packets, the last one first. -/
theorem ServiceRun.groups_eq (h : ServiceRun packets ins) :
    ins.groups = (packets.flatMap ServicePacket.groups).reverse := by
  induction h with
  | new => rfl
  | @receive packets ins ins' packet _ hreceive ih =>
    rw [List.flatMap_append, List.flatMap_singleton, List.reverse_append, ← ih]
    cases packet with
    | hostonline bs =>
      simp only [ServiceInside.receive] at hreceive
      rcases Nat.mod_two_eq_zero_or_one (aimBstreamEmpty bs) with heven | hodd
      · rw [hostonline_of_even heven, Option.map_some, Option.some.injEq] at hreceive
        rw [← hreceive]
        rfl
      · rw [hostonline_of_odd hodd] at hreceive
        cases hreceive
    | rateresp bs =>
      simp only [ServiceInside.receive, Option.some.injEq] at hreceive
      rw [← hreceive]
      rfl

theorem ServiceRun.rates_length (h : ServiceRun packets ins) :
    ins.rates.length = (packets.map ServicePacket.numclasses).sum := by
  induction h with
  | new => rfl
  | @receive packets ins ins' packet _ hreceive ih =>
    rw [List.map_append, List.sum_append, List.map_singleton, List.sum_singleton, ← ih]
    cases packet with
    | hostonline bs =>
      simp only [ServiceInside.receive, Option.map_eq_some_iff] at hreceive
      obtain ⟨groups, -, rfl⟩ := hreceive
      rfl
    | rateresp bs =>
      simp only [ServiceInside.receive, Option.some.injEq] at hreceive
      rw [← hreceive]
      exact length_rateresp _ _ _

end Run

/-! ## The frames -/

/-- `aim__findmodulebygroup` -/
def findmoduleVersion (modlistv : List ModuleVersion) (group : UInt16) : Option ModuleVersion :=
  modlistv.find? fun cur => cur.family = group

/-- The functions that list groups or classes. -/
inductive ServiceCall
  | clientready
  | setversions
  | ratesAddparam
  | sendpauseack

namespace ServiceCall

def call (ins : ServiceInside) (modlistv : List ModuleVersion) : ServiceCall → RequestCall
  | clientready => .clientready (some ins.conn) (findmoduleVersion modlistv)
  | setversions => .setversions (some ins.conn) (findmoduleVersion modlistv)
  | ratesAddparam => .ratesAddparam ins.conn
  | sendpauseack => .sendpauseack ins.conn

def subtype : ServiceCall → UInt16
  | clientready => 0x0002
  | setversions => 0x0017
  | ratesAddparam => 0x0008
  | sendpauseack => 0x000c

/-- The size of the frame. -/
def datalen : ServiceCall → Nat
  | clientready | setversions => 1152
  | ratesAddparam => 512
  | sendpauseack => 1024

/-- The bytes of one element. -/
def width : ServiceCall → Nat
  | clientready => 8
  | setversions => 4
  | ratesAddparam | sendpauseack => 2

/-- What a version frame has for a group with this module. -/
def versions (group : UInt16) (mod : ModuleVersion) : ServiceCall → List UInt8
  | clientready => aimutilPut16 group ++ (aimutilPut16 mod.version ++ (aimutilPut16 mod.toolid ++
    aimutilPut16 mod.toolversion))
  | _ => aimutilPut16 group ++ aimutilPut16 mod.version

/-- What the frame should list: every group with a module, every class, or every group. -/
def elements (ins : ServiceInside) (modlistv : List ModuleVersion) (call : ServiceCall) :
    List (List UInt8) :=
  match call with
  | clientready | setversions => ins.groups.filterMap fun group =>
    (findmoduleVersion modlistv group).map fun mod => call.versions group mod
  | ratesAddparam => ins.rates.map fun rc => aimutilPut16 rc.classid
  | sendpauseack => ins.groups.map aimutilPut16

/-- How many elements the packets list. -/
def listed (packets : List ServicePacket) (modlistv : List ModuleVersion) : ServiceCall → Nat
  | clientready | setversions => (packets.flatMap ServicePacket.groups).countP fun group =>
    (findmoduleVersion modlistv group).isSome
  | ratesAddparam => (packets.map ServicePacket.numclasses).sum
  | sendpauseack => (packets.flatMap ServicePacket.groups).length

section Elements

variable {packets : List ServicePacket} {ins : ServiceInside} {modlistv : List ModuleVersion}

theorem length_elements (h : ServiceRun packets ins) (call : ServiceCall) :
    (call.elements ins modlistv).length = call.listed packets modlistv := by
  have hversions (f : UInt16 → ModuleVersion → List UInt8) :
      (ins.groups.filterMap fun group =>
        (findmoduleVersion modlistv group).map fun mod => f group mod).length =
      (packets.flatMap ServicePacket.groups).countP fun group =>
        (findmoduleVersion modlistv group).isSome := by
    rw [List.length_filterMap_eq_countP, h.groups_eq, List.countP_reverse]
    simp only [Option.isSome_map]
  cases call with
  | clientready => exact hversions fun group mod => clientready.versions group mod
  | setversions => exact hversions fun group mod => setversions.versions group mod
  | ratesAddparam => rw [elements, List.length_map, h.rates_length, listed]
  | sendpauseack => rw [elements, List.length_map, h.groups_eq, List.length_reverse, listed]

theorem length_of_mem_elements {call : ServiceCall} {e : List UInt8}
    (he : e ∈ call.elements ins modlistv) : e.length = call.width := by
  cases call with
  | clientready | setversions =>
    obtain ⟨group, -, hgroup⟩ := List.mem_filterMap.mp he
    obtain ⟨mod, -, rfl⟩ := Option.map_eq_some_iff.mp hgroup
    simp [versions, width]
  | ratesAddparam =>
    obtain ⟨rc, -, rfl⟩ := List.mem_map.mp he
    exact aimutilPut16_length _
  | sendpauseack =>
    obtain ⟨group, -, rfl⟩ := List.mem_map.mp he
    exact aimutilPut16_length _

theorem length_flatten_elements (h : ServiceRun packets ins) (call : ServiceCall) :
    (call.elements ins modlistv).flatten.length = call.width * call.listed packets modlistv := by
  have hwidth : (call.elements ins modlistv).map List.length =
      List.replicate (call.elements ins modlistv).length call.width :=
    List.eq_replicate_iff.mpr ⟨List.length_map .., fun n hn => by
      obtain ⟨e, he, rfl⟩ := List.mem_map.mp hn
      exact length_of_mem_elements he⟩
  rw [List.length_flatten, hwidth, List.sum_replicate_nat, length_elements h, Nat.mul_comm]

end Elements

/-- The puts of the frame. -/
def puts (ins : ServiceInside) (modlistv : List ModuleVersion) :
    ServiceCall → List (StateM AimBstream Nat)
  | clientready => ins.groups.flatMap fun group =>
    match findmoduleVersion modlistv group with
    | none => []
    | some mod =>
      [aimbsPut16 mod.family, aimbsPut16 mod.version, aimbsPut16 mod.toolid,
        aimbsPut16 mod.toolversion]
  | setversions => ins.groups.flatMap fun group =>
    match findmoduleVersion modlistv group with
    | none => []
    | some mod => [aimbsPut16 mod.family, aimbsPut16 mod.version]
  | ratesAddparam => (ins.rates.map (·.classid)).map aimbsPut16
  | sendpauseack => ins.groups.map aimbsPut16

theorem request_call (ins : ServiceInside) (modlistv : List ModuleVersion) (sess : AimSession)
    (c : ConnPtr) (call : ServiceCall) :
    (call.call ins modlistv).request sess c =
      .ok (serviceRequest call.datalen call.subtype (call.puts ins modlistv)) := by
  cases call <;> rfl

theorem writes_put16s (l : List UInt16) :
    Writes (putAll (l.map aimbsPut16)) (l.map aimutilPut16).flatten 0 := by
  induction l with
  | nil => exact Writes.pure 0
  | cons w l ih => exact (writes_aimbsPut16 w).bind ih

theorem flatten_filterMap {α β : Type} (f : α → Option (List β)) (l : List α) :
    (l.filterMap f).flatten = l.flatMap fun a => (f a).getD [] := by
  induction l with
  | nil => rfl
  | cons a l ih =>
    rw [List.flatMap_cons, ← ih]
    cases hf : f a with
    | none => rw [List.filterMap_cons_none hf, Option.getD_none, List.nil_append]
    | some bytes => rw [List.filterMap_cons_some hf, List.flatten_cons, Option.getD_some]

/-- The module that is found for a group is of this family. -/
theorem family_of_findmoduleVersion {modlistv : List ModuleVersion} {group : UInt16}
    {mod : ModuleVersion} (h : findmoduleVersion modlistv group = some mod) :
    mod.family = group := by
  simpa using List.find?_some h

/-- The words that are put for a module are what the frame has for its group. -/
theorem writes_versions (fields : ModuleVersion → List UInt16) (modlistv : List ModuleVersion)
    {versions : UInt16 → ModuleVersion → List UInt8} (groups : List UInt16)
    (h : ∀ group mod, findmoduleVersion modlistv group = some mod →
      ((fields mod).map aimutilPut16).flatten = versions group mod) :
    Writes (putAll (groups.flatMap fun group =>
        match findmoduleVersion modlistv group with
        | none => []
        | some mod => (fields mod).map aimbsPut16))
      (groups.filterMap fun group =>
        (findmoduleVersion modlistv group).map fun mod => versions group mod).flatten 0 := by
  rw [flatten_filterMap]
  apply writes_putAll_flatMap
  intro group
  cases hfind : findmoduleVersion modlistv group with
  | none => exact Writes.pure 0
  | some mod =>
    have hwrites := writes_put16s (fields mod)
    rw [h group mod hfind] at hwrites
    exact hwrites

/-- The puts are of the elements one after the other. -/
theorem writes_puts (ins : ServiceInside) (modlistv : List ModuleVersion) (call : ServiceCall) :
    Writes (putAll (call.puts ins modlistv)) (call.elements ins modlistv).flatten 0 := by
  cases call with
  | clientready =>
    refine writes_versions (fun mod => [mod.family, mod.version, mod.toolid, mod.toolversion])
      modlistv ins.groups fun group mod hfind => ?_
    rw [family_of_findmoduleVersion hfind]
    simp [versions]
  | setversions =>
    refine writes_versions (fun mod => [mod.family, mod.version]) modlistv ins.groups
      fun group mod hfind => ?_
    rw [family_of_findmoduleVersion hfind]
    simp [versions]
  | ratesAddparam =>
    have hwrites := writes_put16s (ins.rates.map (·.classid))
    exact hwrites.of_eq (by rw [elements, List.map_map]; rfl)
  | sendpauseack => exact writes_put16s ins.groups

theorem appends_puts (ins : ServiceInside) (modlistv : List ModuleVersion) (call : ServiceCall) :
    ∀ put ∈ call.puts ins modlistv, Appends put := by
  cases call with
  | clientready | setversions => exact appends_versions (by simp) (findmoduleVersion modlistv) _
  | ratesAddparam | sendpauseack =>
    intro put hput
    obtain ⟨w, -, rfl⟩ := List.mem_map.mp hput
    exact appends_aimbsPut16 w

/-- The frame lists all it should, in order and once, and nothing else. -/
def Complete (ins : ServiceInside) (modlistv : List ModuleVersion) (call : ServiceCall)
    (snacid : UInt32) (bs : AimBstream) : Prop :=
  bs.written = snacFront 0x0001 call.subtype snacid ++ (call.elements ins modlistv).flatten

/-- The frame has the size for it. -/
theorem complete_iff {packets : List ServicePacket} {ins : ServiceInside}
    (h : ServiceRun packets ins) (modlistv : List ModuleVersion) (call : ServiceCall)
    (snacid : UInt32) :
    call.Complete ins modlistv snacid (putSnac 0x0001 call.subtype (call.puts ins modlistv) snacid
        (aimBstreamInit (List.replicate call.datalen 0) call.datalen)).2 ↔
      10 + call.width * call.listed packets modlistv ≤ call.datalen := by
  have hdatalen : call.datalen < 65536 := by cases call <;> decide
  have hwrites := @writes_putSnac 0x0001 call.subtype snacid _ _ _ (writes_puts ins modlistv call)
  unfold Complete
  rw [hwrites.written_init_iff (appends_putSnac (appends_puts ins modlistv call)) hdatalen,
    List.length_append, snacFront_length, length_flatten_elements h]

theorem make_call (ins : ServiceInside) (modlistv : List ModuleVersion) (call : ServiceCall)
    (s : Requester) (c : ConnPtr) (now : Int) :
    s.make c now (call.call ins modlistv) =
      s.request c now (serviceRequest call.datalen call.subtype (call.puts ins modlistv)) := by
  rw [Requester.make, request_call]

end ServiceCall

section Frames

variable {packets : List ServicePacket} {ins : ServiceInside}

/-- After any packets, a call that returns 0 has enqueued a frame with every element of the list of
the connection exactly where the packets listed no more than the size of the frame has room for. -/
theorem serviceFrame_iff (h : ServiceRun packets ins) (modlistv : List ModuleVersion)
    (call : ServiceCall) (s : Requester) (c : ConnPtr) (now : Int) :
    s.Sent (s.make c now (call.call ins modlistv))
        (call.Complete ins modlistv s.snacs.snacidNext) ↔
      (s.sess.Usable c → 10 + call.width * call.listed packets modlistv ≤ call.datalen) := by
  rw [ServiceCall.make_call, Requester.sent_request_iff]
  exact imp_congr_right fun _ => ServiceCall.complete_iff h modlistv call _

/-- Two groups, one of them with a module, and a response that is cut short. -/
theorem serviceFrame_versions :
    let rates := (rateresp generalVersion [] ⟨[0x00, 0x02, 0x00, 0x01], 0⟩).1
    authRequester.Sent
      (authRequester.make 1 0 (ServiceCall.setversions.call ⟨[0x0013, 0x0001], rates⟩
        [⟨0x0001, 0x0003, 0x0110, 0x047b⟩]))
      (ServiceCall.setversions.Complete ⟨[0x0013, 0x0001], rates⟩
        [⟨0x0001, 0x0003, 0x0110, 0x047b⟩] authRequester.snacs.snacidNext) := by
  intro rates
  have hrun : ServiceRun ([] ++ [.hostonline ⟨[0x00, 0x01, 0x00, 0x13], 0⟩] ++
      [.rateresp ⟨[0x00, 0x02, 0x00, 0x01], 0⟩]) ⟨[0x0013, 0x0001], rates⟩ :=
    .receive (.receive .new rfl) rfl
  exact (serviceFrame_iff hrun _ .setversions authRequester 1 0).mpr fun _ => by decide

/-- A packet with 508 groups. -/
def manyGroups : AimBstream := ⟨List.replicate 1016 0x00, 0⟩

/-- The last of 508 groups is missing from the acknowledgement of a pause, while the value is 0. -/
theorem not_serviceFrame_508 : ∃ ins, ServiceRun [.hostonline manyGroups] ins ∧
    let r := authRequester.make 1 0 (ServiceCall.sendpauseack.call ins [])
    r.1 = 0 ∧ ¬ ∃ fr, r.2.passed = authRequester.passed ++ [fr] ∧
      ServiceCall.sendpauseack.Complete ins [] authRequester.snacs.snacidNext fr.data := by
  have hempty : aimBstreamEmpty manyGroups = 1016 := by
    rw [manyGroups, aimBstreamEmpty, AimBstream.len, List.length_replicate, Nat.sub_zero]
  have hreceive : ServiceInside.receive ⟨[], []⟩ (.hostonline manyGroups) =
      some ⟨(words manyGroups.rest).reverse ++ [], []⟩ := by
    rw [ServiceInside.receive, hostonline_of_even (by rw [hempty]), Option.map_some]
  have hrun := ServiceRun.receive .new hreceive
  refine ⟨_, hrun, ?_, fun h => ?_⟩
  · rw [ServiceCall.make_call]
    rfl
  · have husable : authRequester.sess.Usable 1 := ⟨by decide, by decide⟩
    have hsent := (Requester.sent_request_iff.mp
      (ServiceCall.make_call _ [] .sendpauseack authRequester 1 0 ▸ fun _ => h)) husable
    have hle := (ServiceCall.complete_iff hrun [] .sendpauseack _).mp hsent
    have hlisted : ServiceCall.sendpauseack.listed ([] ++ [.hostonline manyGroups]) [] = 508 := by
      rw [List.nil_append, ServiceCall.listed, List.flatMap_singleton, ServicePacket.groups,
        length_words, manyGroups.length_rest, hempty]
    rw [hlisted] at hle
    exact absurd hle (by decide)

end Frames

end Libfaim
