import Libfaim.Chatnav
import Libfaim.Snac.Requests
import Libfaim.Tlv.Agree
import Libfaim.Tlv.RoundTrip

/-!
# Answers from chat navigation (`chatnav.c`)

All answers of the chat navigation service have the same subtype, so `parseinfo` looks the request
up under the id of the SNAC and takes the answer for what was asked. It takes the entry out of the
cache. Over a whole run the client is told about each request once at most, and exactly where the
first answer under its id comes while the request is outstanding and can be taken for what it asked
(`chatnavRun_told_iff`); what it is told of a new room is what the server says of it
(`createroom_told`).
-/

namespace Libfaim

/-- What `parseinfo_create` calls the client with. -/
structure ChatnavCreate where
  type : UInt16
  fqcn : Option (List UInt8)
  inst : UInt16
  exchange : UInt16
  flags : UInt16
  createtime : UInt32
  maxmsglen : UInt16
  maxoccupancy : UInt16
  createperms : UInt8
  unknown : UInt16
  name : Option (List UInt8)
  ck : Option (List UInt8)
  deriving DecidableEq, Repr

/-- The exchange, the cookie, the instance and the level of detail of a room. -/
def createHeader : StateM AimBstream (UInt16 × Option (List UInt8) × UInt16 × UInt8) := do
  let exchange ← aimbsGet16
  let cklen ← aimbsGet8
  let ck ← aimbsGetstr cklen.toNat
  let inst ← aimbsGet16
  let detaillevel ← aimbsGet8
  return (exchange, ck, inst, detaillevel)

/-- The rest of a room from its TLVs. -/
def createInner (type exchange : UInt16) (ck : Option (List UInt8)) (inst unknown : UInt16)
    (innerlist : List AimTlv) : Option ChatnavCreate := do
  let fqcn := ifTlvStr innerlist 0x006a
  let flags ← ifTlv innerlist 0x00c9 0 aimGettlv16Inside
  let createtime ← ifTlv innerlist 0x00ca 0 aimGettlv32
  let maxmsglen ← ifTlv innerlist 0x00d1 0 aimGettlv16Inside
  let maxoccupancy ← ifTlv innerlist 0x00d2 0 aimGettlv16Inside
  let name := ifTlvStr innerlist 0x00d3
  let createperms ← ifTlv innerlist 0x00d5 0 aimGettlv8
  return { type, fqcn, inst, exchange, flags, createtime, maxmsglen, maxoccupancy, createperms,
           unknown, name, ck }

/-- What `parseinfo_create` makes of the value of the TLV with the room; other levels of detail are
refused. -/
def createBlock (type : UInt16) (bbbs : AimBstream) : Option (Option ChatnavCreate) :=
  let ((exchange, ck, inst, detaillevel), bbbs) := createHeader bbbs
  if detaillevel ≠ 0x02 then some none
  else do
    let (unknown, bbbs) := aimbsGet16 bbbs
    let (innerlist, _) ← aimReadtlvchain bbbs
    let create ← createInner type exchange ck inst unknown innerlist
    return some create

/-- `parseinfo_create` for a request of type `type`, up to the call of the client. There is no
result where a chain is read for ever or a getter reads behind a value. -/
def parseinfoCreate (type : UInt16) (bs : AimBstream) : Option (Option ChatnavCreate) := do
  let (tlvlist, _) ← aimReadtlvchain bs
  match aimGettlv tlvlist 0x0004 1 with
  | none => return none
  | some bigblock => createBlock type (aimBstreamInit bigblock.value bigblock.length.toNat)

/-- The two calls of the client. -/
inductive ChatnavCall where
  | perms (perms : ChatnavPerms)
  | create (create : ChatnavCreate)
  deriving DecidableEq, Repr

/-- What `parseinfo` does for a request of type `type`; for the other types it only logs. -/
def parseinfoType (fresh : Nat → AimChatExchangeinfo) (type : UInt16) (bs : AimBstream) :
    Option (Option ChatnavCall) :=
  if type = 0x0002 then (parseinfoPerms fresh type bs).map fun perms => some (.perms perms)
  else if type = 0x0008 then (parseinfoCreate type bs).map fun create => create.map .create
  else some none

/-- `parseinfo` -/
def parseinfo (fresh : Nat → AimChatExchangeinfo) (snacs : SnacCache) (id : UInt32)
    (bs : AimBstream) : Option (Option ChatnavCall × SnacCache) :=
  let (snac2, snacs) := aimRemsnac id snacs
  match snac2 with
  | none => some (none, snacs)
  | some snac2 =>
    if snac2.family ≠ 0x000d then some (none, snacs)
    else (parseinfoType fresh snac2.type bs).map fun call => (call, snacs)

/-! ## A new room -/

/-- What a server knows of a room. -/
structure ChatnavRoom where
  exchange : UInt16
  ck : List UInt8
  inst : UInt16
  unknown : UInt16
  fqcn : Option (List UInt8)
  flags : Option UInt16
  createtime : Option UInt32
  maxmsglen : Option UInt16
  maxoccupancy : Option UInt16
  name : Option (List UInt8)
  createperms : Option UInt8

namespace ChatnavRoom

/-- The block begins with these, in full detail. -/
def front (r : ChatnavRoom) : List UInt8 :=
  aimutilPut16 r.exchange ++ (aimutilPut8 (UInt8.ofNat r.ck.length) ++ (r.ck ++
    (aimutilPut16 r.inst ++ aimutilPut8 0x02)))

/-- The TLVs with the rest. -/
structure Fields (r : ChatnavRoom) (innerlist : List AimTlv) : Prop where
  fqcn : TlvIs innerlist 0x006a r.fqcn
  flags : TlvIs innerlist 0x00c9 (r.flags.map aimutilPut16)
  createtime : TlvIs innerlist 0x00ca (r.createtime.map aimutilPut32)
  maxmsglen : TlvIs innerlist 0x00d1 (r.maxmsglen.map aimutilPut16)
  maxoccupancy : TlvIs innerlist 0x00d2 (r.maxoccupancy.map aimutilPut16)
  name : TlvIs innerlist 0x00d3 r.name
  createperms : TlvIs innerlist 0x00d5 (r.createperms.map aimutilPut8)

/-- The stream describes the room; its TLVs come in any order and with others between them. -/
def SaidBy (r : ChatnavRoom) (bs : AimBstream) : Prop :=
  r.ck.length < 256 ∧ ∃ tlvlist innerlist : List AimTlv, bs.rest = encodeTlvchain tlvlist ∧
    TlvIs tlvlist 0x0004
      (some (r.front ++ (aimutilPut16 r.unknown ++ encodeTlvchain innerlist))) ∧
    r.Fields innerlist

/-- What the client should be told of it; numbers that the server leaves out are zero. -/
def told (r : ChatnavRoom) (type : UInt16) : ChatnavCreate where
  type := type
  fqcn := r.fqcn
  inst := r.inst
  exchange := r.exchange
  flags := r.flags.getD 0
  createtime := r.createtime.getD 0
  maxmsglen := r.maxmsglen.getD 0
  maxoccupancy := r.maxoccupancy.getD 0
  createperms := r.createperms.getD 0
  unknown := r.unknown
  name := r.name
  ck := some r.ck

theorem Fields.reverse {r : ChatnavRoom} {innerlist : List AimTlv} (h : r.Fields innerlist) :
    r.Fields innerlist.reverse where
  fqcn := h.fqcn.reverse
  flags := h.flags.reverse
  createtime := h.createtime.reverse
  maxmsglen := h.maxmsglen.reverse
  maxoccupancy := h.maxoccupancy.reverse
  name := h.name.reverse
  createperms := h.createperms.reverse

end ChatnavRoom

section Room

variable {r : ChatnavRoom} {innerlist : List AimTlv} {bs : AimBstream}

theorem reads_createHeader (hck : r.ck.length < 256) :
    Reads createHeader r.front (r.exchange, some r.ck, r.inst, 0x02) := by
  have hstr : Reads (aimbsGetstr (UInt8.ofNat r.ck.length).toNat) r.ck (some r.ck) := by
    rw [UInt8.toNat_ofNat', Nat.mod_eq_of_lt hck]
    exact reads_aimbsGetraw rfl
  have hall : Reads createHeader _ (r.exchange, some r.ck, r.inst, 0x02) :=
    (reads_aimbsGet16 _).bind <| (reads_aimbsGet8 _).bind <| hstr.bind <|
      (reads_aimbsGet16 _).bind <| (reads_aimbsGet8 0x02).bind <| Reads.pure _
  exact hall.of_eq (by rw [ChatnavRoom.front, List.append_nil])

/-- Each TLV that agrees with the room gives its field. -/
theorem createInner_fields (h : r.Fields innerlist) (type : UInt16) :
    createInner type r.exchange (some r.ck) r.inst r.unknown innerlist = some (r.told type) := by
  have hflags : ifTlv innerlist 0x00c9 0 aimGettlv16Inside = some (r.flags.getD 0) :=
    h.flags.ifTlv 0 aimutilPut16_length aimutilGet16_put16
  have hcreatetime : ifTlv innerlist 0x00ca 0 aimGettlv32 = some (r.createtime.getD 0) :=
    h.createtime.ifTlv 0 aimutilPut32_length aimutilGet32_put32
  have hmaxmsglen : ifTlv innerlist 0x00d1 0 aimGettlv16Inside = some (r.maxmsglen.getD 0) :=
    h.maxmsglen.ifTlv 0 aimutilPut16_length aimutilGet16_put16
  have hoccupancy : ifTlv innerlist 0x00d2 0 aimGettlv16Inside = some (r.maxoccupancy.getD 0) :=
    h.maxoccupancy.ifTlv 0 aimutilPut16_length aimutilGet16_put16
  have hcreateperms : ifTlv innerlist 0x00d5 0 aimGettlv8 = some (r.createperms.getD 0) :=
    h.createperms.ifTlv 0 aimutilPut8_length aimutilGet8_put8
  unfold createInner
  rw [h.fqcn.ifTlvStr, h.name.ifTlvStr, hflags, hcreatetime, hmaxmsglen, hoccupancy, hcreateperms]
  rfl

theorem createBlock_fields (hck : r.ck.length < 256) (h : r.Fields innerlist)
    (hrest : bs.rest = r.front ++ (aimutilPut16 r.unknown ++ encodeTlvchain innerlist))
    (type : UInt16) : createBlock type bs = some (some (r.told type)) := by
  have hheader := reads_createHeader hck bs _ hrest
  have hbehind := bs.rest_skip_of_append hrest
  have hunknown := reads_aimbsGet16 r.unknown _ _ hbehind
  have hchain := aimReadtlvchain_encode innerlist (AimBstream.rest_skip_of_append _ hbehind)
  unfold createBlock
  rw [hheader]
  dsimp only
  rw [if_neg (not_not.mpr rfl), hunknown]
  dsimp only
  rw [hchain, Option.bind_eq_bind, Option.bind_some]
  dsimp only
  rw [createInner_fields h.reverse]
  rfl

theorem parseinfoCreate_said (h : r.SaidBy bs) (type : UInt16) :
    parseinfoCreate type bs = some (some (r.told type)) := by
  obtain ⟨hck, tlvlist, innerlist, hrest, hblock, hfields⟩ := h
  have hvalue := hblock.reverse.value
  rw [parseinfoCreate, aimReadtlvchain_encode tlvlist hrest, Option.bind_eq_bind, Option.bind_some]
  dsimp only
  cases hfound : aimGettlv tlvlist.reverse 0x0004 1 with
  | none =>
    rw [hfound] at hvalue
    cases hvalue
  | some bigblock =>
    rw [hfound] at hvalue
    have hbig : (⟨bigblock.value, 0⟩ : AimBstream).rest = _ := Option.some.inj hvalue
    dsimp only
    rw [aimBstreamInit_value]
    exact createBlock_fields hck hfields hbig type

end Room

/-! ## One answer -/

section Answer

variable {fresh : Nat → AimChatExchangeinfo} {snacs snacs' : SnacCache} {id : UInt32}
  {bs : AimBstream} {call : Option ChatnavCall}

/-- Whatever the answer is, its entry is taken out; the client is told what is made of the answer
if the entry is of the family. -/
theorem parseinfo_cases (h : parseinfo fresh snacs id bs = some (call, snacs')) :
    snacs' = (aimRemsnac id snacs).2 ∧ ∀ told, call = some told ↔
      ∃ e, snacMap snacs id = some e ∧ e.family = 0x000d ∧
        parseinfoType fresh e.type bs = some (some told) := by
  rw [parseinfo, ← aimRemsnac_fst] at *
  cases hrem : aimRemsnac id snacs with
  | mk snac2 rest =>
    rw [hrem] at h
    dsimp only at h ⊢
    cases snac2 with
    | none =>
      cases h
      exact ⟨rfl, fun told => ⟨fun h => (nomatch h), fun ⟨_, he, _⟩ => (nomatch he)⟩⟩
    | some snac2 =>
      dsimp only at h
      by_cases hfamily : snac2.family = 0x000d
      · rw [if_neg (not_not.mpr hfamily)] at h
        obtain ⟨call', htype, heq⟩ := Option.map_eq_some_iff.mp h
        cases heq
        refine ⟨rfl, fun told => ⟨fun hcall => ?_, ?_⟩⟩
        · exact ⟨snac2, rfl, hfamily, hcall ▸ htype⟩
        · rintro ⟨e, he, -, htold⟩
          cases he
          rw [htype] at htold
          exact Option.some.inj htold
      · rw [if_pos hfamily] at h
        cases h
        refine ⟨rfl, fun told => ⟨fun h => (nomatch h), ?_⟩⟩
        rintro ⟨e, he, hfam, -⟩
        cases he
        exact absurd hfam hfamily

end Answer

/-! ## Runs -/

/-- Anything that happens to the cache elsewhere, and an answer to `parseinfo`, with what memory
holds in place of the exchanges then. -/
inductive ChatnavEvent where
  | cache (call : SnacCall)
  | info (id : UInt32) (bs : AimBstream) (fresh : Nat → AimChatExchangeinfo)

namespace ChatnavEvent

/-- What it does to the cache. -/
def toCall : ChatnavEvent → SnacCall
  | cache call => call
  | info id _ _ => .remsnac id

/-- One event, with the calls of the client and the ids that they were made for. -/
def exec (s : List (UInt32 × ChatnavCall) × SnacCache) :
    ChatnavEvent → Option (List (UInt32 × ChatnavCall) × SnacCache)
  | cache call => some (s.1, call.op.exec s.2)
  | info id bs fresh => (parseinfo fresh s.2 id bs).map fun (told, snacs) =>
      (s.1 ++ (told.map fun told => (id, told)).toList, snacs)

end ChatnavEvent

/-- A whole run. There is no result where an answer cannot be read. -/
def chatnavRun (events : List ChatnavEvent) :
    Option (List (UInt32 × ChatnavCall) × SnacCache) :=
  events.foldlM ChatnavEvent.exec ([], aimInitsnachash)

/-- The calls on the cache in a run. -/
def cacheCalls (events : List ChatnavEvent) : List SnacCall := events.map ChatnavEvent.toCall

/-- The same calls, as the cache has them. -/
def cacheOps (events : List ChatnavEvent) : List SnacOp := (cacheCalls events).map SnacCall.op

/-- How many requests are made in a run. -/
def requestCount (events : List ChatnavEvent) : Nat := (cacheOps events).countP (·.isCachesnac)

/-- After the events, an answer under the id is for the request `r`, which is outstanding, and can
be taken for `told`. -/
def AnswerTells (fresh : Nat → AimChatExchangeinfo) (events : List ChatnavEvent) (id : UInt32)
    (bs : AimBstream) (told : ChatnavCall) : Prop :=
  ∃ r e, RequestedBy (cacheCalls events) r e ∧ e.id = id ∧ Outstanding (cacheOps events) e ∧
    r.family = 0x000d ∧ parseinfoType fresh r.type bs = some (some told)

/-- Somewhere in the run there is such an answer. -/
def Answered (events : List ChatnavEvent) (id : UInt32) (told : ChatnavCall) : Prop :=
  ∃ pre bs fresh post, events = pre ++ .info id bs fresh :: post ∧
    AnswerTells fresh pre id bs told

/-- What holds after a run. The ids that the client was told about do not come back. -/
structure ChatnavInv (events : List ChatnavEvent)
    (s : List (UInt32 × ChatnavCall) × SnacCache) : Prop where
  snacs : s.2 = runCalls (cacheCalls events)
  told : ∀ id told, (id, told) ∈ s.1 ↔ Answered events id told
  nodup : (s.1.map (·.1)).Nodup
  gone : ∀ call ∈ s.1, call.1.toNat ≤ requestCount events ∧ snacMap s.2 call.1 = none

section Run

variable {fresh : Nat → AimChatExchangeinfo} {events : List ChatnavEvent} {id : UInt32}
  {bs : AimBstream} {told : ChatnavCall}

theorem cacheOps_append (events : List ChatnavEvent) (event : ChatnavEvent) :
    cacheOps (events ++ [event]) = cacheOps events ++ [event.toCall.op] := by
  rw [cacheOps, cacheCalls, List.map_append, List.map_append]
  rfl

theorem runCalls_cacheCalls_append (events : List ChatnavEvent) (event : ChatnavEvent) :
    runCalls (cacheCalls (events ++ [event])) =
      event.toCall.op.exec (runCalls (cacheCalls events)) := by
  rw [cacheCalls, List.map_append, List.map_singleton]
  exact runCalls_append _ _

/-- The last event, if it is an answer, is the only new one to look at. -/
theorem answered_append (event : ChatnavEvent) :
    Answered (events ++ [event]) id told ↔
      Answered events id told ∨
        ∃ bs fresh, event = .info id bs fresh ∧ AnswerTells fresh events id bs told := by
  constructor
  · rintro ⟨pre, bs, fresh, post, heq, htells⟩
    rcases List.eq_nil_or_concat post with rfl | ⟨post', last, rfl⟩
    · obtain ⟨rfl, hevent⟩ := List.append_inj' heq rfl
      exact Or.inr ⟨bs, fresh, List.singleton_inj.mp hevent, htells⟩
    · rw [List.concat_eq_append, ← List.cons_append, ← List.append_assoc] at heq
      obtain ⟨hpre, -⟩ := List.append_inj' heq rfl
      exact Or.inl ⟨pre, bs, fresh, post', hpre, htells⟩
  · rintro (⟨pre, bs, fresh, post, rfl, htells⟩ | ⟨bs, fresh, rfl, htells⟩)
    · exact ⟨pre, bs, fresh, post ++ [event], by simp, htells⟩
    · exact ⟨events, bs, fresh, [], rfl, htells⟩

/-- What `parseinfo` finds in the cache is what the history says is outstanding. -/
theorem answerTells_iff {n : Nat}
    (hinv : SnacInv (cacheOps events) n (runCalls (cacheCalls events))) :
    AnswerTells fresh events id bs told ↔
      ∃ e, snacMap (runCalls (cacheCalls events)) id = some e ∧ e.family = 0x000d ∧
        parseinfoType fresh e.type bs = some (some told) := by
  constructor
  · rintro ⟨r, e, hreq, hid, hout, hfamily, htold⟩
    refine ⟨e, (hinv.map id e).mpr ⟨hid, hout⟩, ?_, ?_⟩
    · rw [hreq.family, hfamily]
    · rw [hreq.type, htold]
  · rintro ⟨e, he, hfamily, htold⟩
    obtain ⟨hid, hout⟩ := (hinv.map id e).mp he
    obtain ⟨r, hreq⟩ := exists_request_of_remsnac ((aimRemsnac_fst id).trans he)
    rw [hreq.family] at hfamily
    rw [hreq.type] at htold
    exact ⟨r, e, hreq, hid, hout, hfamily, htold⟩

theorem requestCount_append (events : List ChatnavEvent) (event : ChatnavEvent) :
    requestCount (events ++ [event]) =
      requestCount events + [event.toCall.op].countP (·.isCachesnac) := by
  rw [requestCount, cacheOps_append, List.countP_append]
  rfl

theorem ChatnavInv.nil : ChatnavInv [] ([], aimInitsnachash) where
  snacs := rfl
  told := by
    intro id told
    refine ⟨fun h => (nomatch h), ?_⟩
    rintro ⟨pre, bs, fresh, post, h, -⟩
    simp at h
  nodup := List.nodup_nil
  gone := fun call h => (nomatch h)

/-- One more call for another id than before. -/
theorem nodup_told {calls : List (UInt32 × ChatnavCall)} {call : Option ChatnavCall}
    (h : (calls.map (·.1)).Nodup)
    (hnew : ∀ told, call = some told → ∀ old ∈ calls, old.1 ≠ id) :
    ((calls ++ (call.map fun told => (id, told)).toList).map (·.1)).Nodup := by
  cases call with
  | none =>
    rw [Option.map_none, Option.toList_none, List.append_nil]
    exact h
  | some told =>
    rw [List.map_append, List.nodup_append]
    refine ⟨h, List.nodup_singleton _, ?_⟩
    intro id₁ hmem₁ id₂ hmem₂ heq
    obtain ⟨old, hold, rfl⟩ := List.mem_map.mp hmem₁
    obtain rfl : id₂ = id := List.mem_singleton.mp hmem₂
    exact hnew told rfl old hold heq

section Step

variable {s : List (UInt32 × ChatnavCall) × SnacCache} {event : ChatnavEvent}

/-- The ids of before stay away in every event. -/
theorem ChatnavInv.gone_append (h : ChatnavInv events s)
    (hcount : requestCount (events ++ [event]) < 2 ^ 32) :
    ∀ call ∈ s.1, call.1.toNat ≤ requestCount (events ++ [event]) ∧
      snacMap (event.toCall.op.exec s.2) call.1 = none := by
  intro call hmem
  obtain ⟨hle, hnone⟩ := h.gone call hmem
  have hgrow := requestCount_append events event
  rw [requestCount, cacheOps_append] at hcount
  rw [h.snacs] at hnone ⊢
  refine ⟨by omega, ?_⟩
  by_contra hsome
  obtain ⟨e, he⟩ := Option.ne_none_iff_exists'.mp hsome
  have hexec : runSnacs (cacheOps events ++ [event.toCall.op]) =
      event.toCall.op.exec (runCalls (cacheCalls events)) := runSnacs_append _ _
  rw [← hexec] at he
  have hfound : snacMap (runCalls (cacheCalls events)) call.1 = some e :=
    snacMap_append hcount hle he
  rw [hfound] at hnone
  cases hnone

theorem ChatnavInv.cache (h : ChatnavInv events s) {call : SnacCall}
    (hcount : requestCount (events ++ [.cache call]) < 2 ^ 32) :
    ChatnavInv (events ++ [.cache call]) (s.1, call.op.exec s.2) where
  snacs := by
    rw [runCalls_cacheCalls_append, ← h.snacs]
    rfl
  told := by
    intro id told
    rw [h.told, answered_append]
    refine ⟨Or.inl, ?_⟩
    rintro (hold | ⟨bs, fresh, heq, -⟩)
    · exact hold
    · cases heq
  nodup := h.nodup
  gone := h.gone_append hcount

theorem ChatnavInv.info (h : ChatnavInv events s) {call : Option ChatnavCall}
    {snacs' : SnacCache} (hcount : requestCount (events ++ [.info id bs fresh]) < 2 ^ 32)
    (hparse : parseinfo fresh s.2 id bs = some (call, snacs')) :
    ChatnavInv (events ++ [.info id bs fresh])
      (s.1 ++ (call.map fun told => (id, told)).toList, snacs') := by
  obtain ⟨rfl, hcall⟩ := parseinfo_cases hparse
  have hgrow := requestCount_append events (.info id bs fresh)
  have hinv := snacInv_runSnacs (cacheOps events) (by rw [← requestCount]; omega)
  have hsnacs : s.2 = runSnacs (cacheOps events) := h.snacs
  have htells : ∀ told, call = some told ↔ AnswerTells fresh events id bs told := by
    intro told
    rw [hcall, hsnacs]
    exact (answerTells_iff hinv).symm
  have hold := h.gone_append hcount
  -- what the client is told of now was cached until now
  have hfound : ∀ told, call = some told → ∃ e, snacMap s.2 id = some e := by
    intro told htold
    obtain ⟨e, he, -⟩ := (hcall told).mp htold
    exact ⟨e, he⟩
  refine ⟨?_, ?_, ?_, ?_⟩
  · rw [runCalls_cacheCalls_append, ← h.snacs]
    rfl
  · intro id' told
    rw [List.mem_append, h.told, answered_append]
    refine or_congr_right ?_
    rw [Option.mem_toList, Option.map_eq_some_iff]
    constructor
    · rintro ⟨told', htold, heq⟩
      cases heq
      exact ⟨bs, fresh, rfl, (htells told).mp htold⟩
    · rintro ⟨bs', fresh', heq, htold⟩
      cases heq
      exact ⟨told, (htells told).mpr htold, rfl⟩
  · refine nodup_told h.nodup fun told htold old hmem heq => ?_
    obtain ⟨e, he⟩ := hfound told htold
    rw [← heq, (h.gone old hmem).2] at he
    cases he
  · intro call₁ hmem
    rcases List.mem_append.mp hmem with hmem | hmem
    · exact hold call₁ hmem
    · rw [Option.mem_toList, Option.map_eq_some_iff] at hmem
      obtain ⟨told, htold, rfl⟩ := hmem
      obtain ⟨e, he⟩ := hfound told htold
      rw [hsnacs] at he ⊢
      have hle := hinv.id_le id e he
      rw [← requestCount] at hle
      refine ⟨hle.trans (by omega), ?_⟩
      rw [snacMap_aimRemsnac hinv.wf, if_pos rfl]

theorem chatnavInv_run {events : List ChatnavEvent}
    {s : List (UInt32 × ChatnavCall) × SnacCache} (hcount : requestCount events < 2 ^ 32)
    (hrun : chatnavRun events = some s) : ChatnavInv events s := by
  induction events using List.reverseRecOn generalizing s with
  | nil =>
    cases hrun
    exact ChatnavInv.nil
  | append_singleton events event ih =>
    rw [chatnavRun, List.foldlM_append] at hrun
    obtain ⟨s₁, hs₁, hevent⟩ := Option.bind_eq_some_iff.mp hrun
    rw [List.foldlM_cons] at hevent
    obtain ⟨s₂, hs₂, hnil⟩ := Option.bind_eq_some_iff.mp hevent
    cases hnil
    have hgrow := requestCount_append events event
    have hinv := ih (by omega) hs₁
    cases event with
    | cache call =>
      cases hs₂
      exact hinv.cache hcount
    | info id bs fresh =>
      obtain ⟨⟨call, snacs'⟩, hparse, heq⟩ := Option.map_eq_some_iff.mp hs₂
      cases heq
      exact hinv.info hcount hparse

end Step

end Run

/-- In every run with fewer than 2^32 requests the client is told about each id once at most, and
of exactly those answers that come while their request is outstanding and can be taken for what it
asked for. -/
theorem chatnavRun_told_iff (events : List ChatnavEvent)
    (hcount : requestCount events < 2 ^ 32) {told : List (UInt32 × ChatnavCall)}
    {snacs : SnacCache} (hrun : chatnavRun events = some (told, snacs)) :
    (told.map (·.1)).Nodup ∧
      ∀ id call, (id, call) ∈ told ↔ Answered events id call := by
  have hinv := chatnavInv_run hcount hrun
  exact ⟨hinv.nodup, hinv.told⟩

/-- A room and the rights are asked for; the rights come first, and then once more. -/
theorem chatnavRun_told_iff_rights :
    let events : List ChatnavEvent := [.cache (.request .chatnavCreateroom 0),
      .cache (.request (.other 0x000d 0x0002) 1), .info 2 ⟨[], 0⟩ fun _ => flagsOnly 0,
      .info 2 ⟨[], 0⟩ fun _ => flagsOnly 1]
    let rights : ChatnavCall := .perms ⟨0x0002, 0, 0, []⟩
    Answered events 2 rights ∧ ¬ Answered events 1 rights := by
  intro events rights
  have hrun : ∃ snacs, chatnavRun events = some ([(2, rights)], snacs) :=
    ⟨_, rfl⟩
  obtain ⟨snacs, hrun⟩ := hrun
  have htold := (chatnavRun_told_iff events (by decide) hrun).2
  exact ⟨(htold 2 rights).mp (by decide), fun h => absurd ((htold 1 rights).mpr h) (by decide)⟩

/-- After any calls on the cache, the answer to an outstanding request for a room that says what
the room is tells the client this, and takes the request out. -/
theorem createroom_told (fresh : Nat → AimChatExchangeinfo) (calls : List SnacCall)
    (hcount : (calls.map SnacCall.op).countP (·.isCachesnac) < 2 ^ 32) {e : AimSnac}
    (hreq : RequestedBy calls .chatnavCreateroom e)
    (hout : Outstanding (calls.map SnacCall.op) e) {r : ChatnavRoom} {bs : AimBstream}
    (hsaid : r.SaidBy bs) :
    parseinfo fresh (runCalls calls) e.id bs =
        some (some (.create (r.told 0x0008)), (aimRemsnac e.id (runCalls calls)).2) ∧
      snacMap (aimRemsnac e.id (runCalls calls)).2 e.id = none := by
  have hinv := snacInv_runSnacs _ hcount
  have hfound := aimRemsnac_of_outstanding hcount hout
  have hfamily : e.family = 0x000d := hreq.family
  have htype : e.type = 0x0008 := hreq.type
  refine ⟨?_, ?_⟩
  · rw [parseinfo]
    dsimp only
    rw [hfound]
    dsimp only
    rw [if_neg (not_not.mpr hfamily), parseinfoType, htype, if_neg (by decide), if_pos rfl,
      parseinfoCreate_said hsaid]
    rfl
  · rw [runCalls, snacMap_aimRemsnac hinv.wf, if_pos rfl]

section Example

/-- A room with a name and no more, and another TLV in front of its block. -/
def lobby : ChatnavRoom where
  exchange := 4
  ck := [0x63, 0x6b]
  inst := 1
  unknown := 0
  fqcn := none
  flags := none
  createtime := none
  maxmsglen := none
  maxoccupancy := none
  name := some [0x68, 0x69]
  createperms := none

theorem createroom_told_lobby :
    let block := createtlv 0x0004 16 (lobby.front ++ (aimutilPut16 lobby.unknown ++
      encodeTlvchain [createtlv 0x00d3 2 [0x68, 0x69]]))
    ∃ snacs, parseinfo (fun _ => flagsOnly 0) (runCalls [.request .chatnavCreateroom 0]) 1
      ⟨encodeTlvchain [createtlv 0x0001 0 [], block], 0⟩ =
        some (some (.create (lobby.told 0x0008)), snacs) := by
  intro block
  have hreq : RequestedBy [.request .chatnavCreateroom 0] .chatnavCreateroom
      ⟨1, 0x000d, 0x0008, 0x0000, [], 0⟩ := ⟨[], 0, [], rfl, rfl⟩
  have hout : Outstanding ([.request .chatnavCreateroom 0].map SnacCall.op)
      ⟨1, 0x000d, 0x0008, 0x0000, [], 0⟩ :=
    ⟨[], _, [], rfl, rfl, fun op hop => (nomatch hop)⟩
  have hfields : lobby.Fields [createtlv 0x00d3 2 [0x68, 0x69]] := by
    constructor <;> intro w <;> simp [createtlv, lobby]
  have hsaid : lobby.SaidBy ⟨encodeTlvchain [createtlv 0x0001 0 [], block], 0⟩ := by
    have hvalue : block.value = lobby.front ++ (aimutilPut16 lobby.unknown ++
        encodeTlvchain [createtlv 0x00d3 2 [0x68, 0x69]]) := by
      decide
    refine ⟨by decide, _, _, rfl, ?_, hfields⟩
    intro w
    rw [← hvalue]
    simp [createtlv, block]
  exact ⟨_, (createroom_told (fun _ => flagsOnly 0) _ (by decide) hreq hout hsaid).1⟩

end Example

end Libfaim
