import Libfaim.Lib.Loop
import Libfaim.Tlv.Getters

/-!
# The rights to chat (`chatnav.c`)

`parseinfo_perms` grows an array by one record for every TLV of type 3 and fills the record in from
the TLVs inside of that one. Every field is set, to null where its TLV is missing, but for the
flags: without a TLV of type 0x00c9 they are what `realloc` found in memory. So the client is handed
records that depend on the packet only exactly where everything that is read is there and all of the
exchanges come with flags (`parseinfoPerms_independent_iff`).
-/

namespace Libfaim

/-- `struct aim_chat_exchangeinfo` -/
structure AimChatExchangeinfo where
  number : UInt16
  flags : UInt16
  name : Option (List UInt8)
  charset1 : Option (List UInt8)
  lang1 : Option (List UInt8)
  charset2 : Option (List UInt8)
  lang2 : Option (List UInt8)
  deriving DecidableEq, Repr

/-- What `parseinfo_perms` calls the client with. -/
structure ChatnavPerms where
  type : UInt16
  maxrooms : UInt8
  curexchange : Nat
  exchanges : List AimChatExchangeinfo
  deriving DecidableEq, Repr

/-- The number and the TLVs of an exchange. -/
def exchangeInner (exchangetlv : AimTlv) : Option (UInt16 × List AimTlv) := do
  let tbs := aimBstreamInit exchangetlv.value exchangetlv.length.toNat
  let (number, tbs) := aimbsGet16 tbs
  let (innerlist, _) ← aimReadtlvchain tbs
  return (number, innerlist)

/-- The record of an exchange in place of the `old` one. The permissions for the class and for
creating rooms are read and not used. -/
def fillExchange (old : AimChatExchangeinfo) (number : UInt16) (innerlist : List AimTlv) :
    Option AimChatExchangeinfo := do
  let _classperms ← ifTlv innerlist 0x0002 0 aimGettlv16Inside
  let flags ← ifTlv innerlist 0x00c9 old.flags aimGettlv16Inside
  let name := ifTlvStr innerlist 0x00d3
  let _createperms ← ifTlv innerlist 0x00d5 0 aimGettlv8
  let charset1 := ifTlvStr innerlist 0x00d6
  let lang1 := ifTlvStr innerlist 0x00d7
  let charset2 := ifTlvStr innerlist 0x00d8
  let lang2 := ifTlvStr innerlist 0x00d9
  return { number, flags, name, charset1, lang1, charset2, lang2 }

/-- What one pass of `parseinfo_perms` makes of the record that memory held. -/
def parseinfoExchange (old : AimChatExchangeinfo) (exchangetlv : AimTlv) :
    Option AimChatExchangeinfo := do
  let (number, innerlist) ← exchangeInner exchangetlv
  fillExchange old number innerlist

/-- One pass of the loop of `parseinfo_perms`. `fresh i` is what memory holds in place of the `i`-th
record when `realloc` returns it. -/
def permsPass (fresh : Nat → AimChatExchangeinfo) (tlvlist : List AimTlv) :
    Nat × List AimChatExchangeinfo →
      Loop.Pass (Nat × List AimChatExchangeinfo) (Nat × List AimChatExchangeinfo)
  | (curexchange, exchanges) =>
    match aimGettlv tlvlist 0x0003 (curexchange + 1) with
    | none => .leave (curexchange, exchanges)
    | some exchangetlv =>
      match parseinfoExchange (fresh curexchange) exchangetlv with
      | none => .stuck
      | some exchange => .again (curexchange + 1, exchanges ++ [exchange])

/-- `parseinfo_perms` for a request of type `type`, up to the call of the client. There is no result
where a chain is read for ever or a getter reads behind a value. -/
def parseinfoPerms (fresh : Nat → AimChatExchangeinfo) (type : UInt16) (bs : AimBstream) :
    Option ChatnavPerms := do
  let (tlvlist, _) ← aimReadtlvchain bs
  let maxrooms ← ifTlv tlvlist 0x0002 0 aimGettlv8
  let (curexchange, exchanges) ← Loop.run (permsPass fresh tlvlist) (tlvlist.length + 1) (0, [])
  return { type, maxrooms, curexchange, exchanges }

/-! ## One exchange -/

/-- Everything that is read of an exchange is there. -/
def ExchangeReads (exchangetlv : AimTlv) : Prop :=
  ∃ number innerlist, exchangeInner exchangetlv = some (number, innerlist) ∧
    Covers innerlist 0x0002 1 2 ∧ Covers innerlist 0x00c9 1 2 ∧ Covers innerlist 0x00d5 1 1

/-- The exchange comes with flags. -/
def FlagsSent (exchangetlv : AimTlv) : Prop :=
  ∀ number innerlist, exchangeInner exchangetlv = some (number, innerlist) →
    (aimGettlv innerlist 0x00c9 1).isSome

section Exchange

variable {old old' exchange : AimChatExchangeinfo} {exchangetlv : AimTlv} {number : UInt16}
  {innerlist : List AimTlv}

theorem fillExchange_ne_none_iff :
    fillExchange old number innerlist ≠ none ↔ Covers innerlist 0x0002 1 2 ∧
      Covers innerlist 0x00c9 1 2 ∧ Covers innerlist 0x00d5 1 1 := by
  have hclass : ifTlv innerlist 0x0002 0 aimGettlv16Inside ≠ none ↔
      Covers innerlist 0x0002 1 2 := ifTlv_inside_iff aimutilGet16 0 0
  have hflags : ifTlv innerlist 0x00c9 old.flags aimGettlv16Inside ≠ none ↔
      Covers innerlist 0x00c9 1 2 := ifTlv_inside_iff aimutilGet16 0 old.flags
  have hcreate : ifTlv innerlist 0x00d5 0 aimGettlv8 ≠ none ↔ Covers innerlist 0x00d5 1 1 :=
    ifTlv_inside_iff aimutilGet8 0 0
  rw [← hclass, ← hflags, ← hcreate]
  unfold fillExchange
  cases ifTlv innerlist 0x0002 0 aimGettlv16Inside with
  | none => simp
  | some classperms =>
    cases ifTlv innerlist 0x00c9 old.flags aimGettlv16Inside with
    | none => simp
    | some flags =>
      cases ifTlv innerlist 0x00d5 0 aimGettlv8 with
      | none => simp
      | some createperms => simp

theorem parseinfoExchange_of_inner (h : exchangeInner exchangetlv = some (number, innerlist)) :
    parseinfoExchange old exchangetlv = fillExchange old number innerlist := by
  unfold parseinfoExchange
  rw [h]
  rfl

theorem parseinfoExchange_ne_none_iff :
    parseinfoExchange old exchangetlv ≠ none ↔ ExchangeReads exchangetlv := by
  cases hinner : exchangeInner exchangetlv with
  | none =>
    have hnone : parseinfoExchange old exchangetlv = none := by
      unfold parseinfoExchange
      rw [hinner]
      rfl
    refine ⟨fun h => absurd hnone h, ?_⟩
    rintro ⟨number, innerlist, hsome, -⟩
    rw [hinner] at hsome
    cases hsome
  | some p =>
    obtain ⟨number, innerlist⟩ := p
    rw [parseinfoExchange_of_inner hinner, fillExchange_ne_none_iff]
    refine ⟨fun h => ⟨number, innerlist, hinner, h⟩, ?_⟩
    rintro ⟨number', innerlist', hsome, h⟩
    rw [hinner] at hsome
    cases hsome
    exact h

/-- With flags the record does not depend on what memory held. -/
theorem parseinfoExchange_congr (h : FlagsSent exchangetlv) (old old' : AimChatExchangeinfo) :
    parseinfoExchange old exchangetlv = parseinfoExchange old' exchangetlv := by
  cases hinner : exchangeInner exchangetlv with
  | none =>
    unfold parseinfoExchange
    rw [hinner]
    rfl
  | some p =>
    obtain ⟨number, innerlist⟩ := p
    have hflags : ifTlv innerlist 0x00c9 old.flags aimGettlv16Inside =
        ifTlv innerlist 0x00c9 old'.flags aimGettlv16Inside := ifTlv_old _ _ (h _ _ hinner)
    rw [parseinfoExchange_of_inner hinner, parseinfoExchange_of_inner hinner, fillExchange,
      fillExchange, hflags]

/-- Without flags the record keeps those that memory held. -/
theorem parseinfoExchange_flags (h : ¬ FlagsSent exchangetlv)
    (hexchange : parseinfoExchange old exchangetlv = some exchange) :
    exchange.flags = old.flags := by
  simp only [FlagsSent, not_forall] at h
  obtain ⟨number, innerlist, hinner, hnone⟩ := h
  have hflags : ifTlv innerlist 0x00c9 old.flags aimGettlv16Inside = some old.flags :=
    ifTlv_none old.flags hnone
  rw [parseinfoExchange_of_inner hinner, fillExchange, hflags] at hexchange
  obtain ⟨classperms, -, hexchange⟩ := Option.bind_eq_some_iff.mp hexchange
  obtain ⟨flags, hold, hexchange⟩ := Option.bind_eq_some_iff.mp hexchange
  obtain ⟨createperms, -, hexchange⟩ := Option.bind_eq_some_iff.mp hexchange
  cases hexchange
  exact (Option.some.inj hold).symm

end Exchange

/-! ## All of them -/

/-- The records of the exchanges from the `j`-th on. -/
def exchangesFrom (fresh : Nat → AimChatExchangeinfo) :
    Nat → List AimTlv → Option (List AimChatExchangeinfo)
  | _, [] => some []
  | j, exchangetlv :: tlvs => do
    let exchange ← parseinfoExchange (fresh j) exchangetlv
    let exchanges ← exchangesFrom fresh (j + 1) tlvs
    return exchange :: exchanges

section Exchanges

variable (fresh fresh' : Nat → AimChatExchangeinfo)

/-- A pass is about the `j`-th exchange, if there is one. -/
theorem permsPass_ofType (tlvlist : List AimTlv) (j : Nat) (acc : List AimChatExchangeinfo) :
    permsPass fresh tlvlist (j, acc) =
      match (tlvsOfType 0x0003 tlvlist)[j]? with
      | none => .leave (j, acc)
      | some exchangetlv =>
        match parseinfoExchange (fresh j) exchangetlv with
        | none => .stuck
        | some exchange => .again (j + 1, acc ++ [exchange]) := by
  rw [permsPass, ← Int.natCast_succ, aimGettlv_eq_getElem?]

/-- From the `j`-th exchange on, with enough fuel, the loop fills in a record for each exchange that
is left. -/
theorem permsPass_run (tlvlist : List AimTlv) {fuel j : Nat} (acc : List AimChatExchangeinfo)
    (hj : j ≤ (tlvsOfType 0x0003 tlvlist).length)
    (hfuel : (tlvsOfType 0x0003 tlvlist).length < j + fuel) :
    Loop.run (permsPass fresh tlvlist) fuel (j, acc) =
      (exchangesFrom fresh j ((tlvsOfType 0x0003 tlvlist).drop j)).map fun exchanges =>
        (j + exchanges.length, acc ++ exchanges) := by
  induction fuel generalizing j acc with
  | zero => omega
  | succ fuel ih =>
    have hpass := permsPass_ofType fresh tlvlist j acc
    cases htlv : (tlvsOfType 0x0003 tlvlist)[j]? with
    | none =>
      rw [htlv] at hpass
      rw [Loop.run_leave hpass, List.drop_eq_nil_of_le (List.getElem?_eq_none_iff.mp htlv)]
      simp [exchangesFrom]
    | some tlv =>
      rw [htlv] at hpass
      dsimp only at hpass
      rw [drop_of_getElem? htlv, exchangesFrom]
      cases hexchange : parseinfoExchange (fresh j) tlv with
      | none =>
        rw [hexchange] at hpass
        rw [Loop.run, hpass]
        rfl
      | some exchange =>
        rw [hexchange] at hpass
        have hlt := (List.getElem?_eq_some_iff.mp htlv).1
        rw [Loop.run_again hpass, ih (acc ++ [exchange]) hlt (by omega)]
        cases exchangesFrom fresh (j + 1) ((tlvsOfType 0x0003 tlvlist).drop (j + 1)) with
        | none => rfl
        | some exchanges => simp; omega

/-- The records of exchanges with flags do not depend on what memory held. -/
theorem exchangesFrom_congr {tlvs : List AimTlv} (h : ∀ tlv ∈ tlvs, FlagsSent tlv) (j : Nat) :
    exchangesFrom fresh j tlvs = exchangesFrom fresh' j tlvs := by
  induction tlvs generalizing j with
  | nil => rfl
  | cons tlv tlvs ih =>
    rw [exchangesFrom, exchangesFrom,
      parseinfoExchange_congr (h tlv List.mem_cons_self) (fresh j) (fresh' j),
      ih (fun tlv hmem => h tlv (List.mem_cons_of_mem _ hmem))]

theorem exchangesFrom_ne_none_iff {tlvs : List AimTlv} {j : Nat} :
    exchangesFrom fresh j tlvs ≠ none ↔ ∀ tlv ∈ tlvs, ExchangeReads tlv := by
  induction tlvs generalizing j with
  | nil => simp [exchangesFrom]
  | cons tlv tlvs ih =>
    rw [List.forall_mem_cons, ← ih (j := j + 1),
      ← @parseinfoExchange_ne_none_iff (fresh j), exchangesFrom]
    cases parseinfoExchange (fresh j) tlv with
    | none => simp
    | some exchange =>
      cases exchangesFrom fresh (j + 1) tlvs with
      | none => simp
      | some exchanges => simp

/-- Records that are the same over memory with different flags are all of exchanges with flags. -/
theorem flagsSent_of_eq {tlvs : List AimTlv} {j : Nat}
    (hne : ∀ i, (fresh i).flags ≠ (fresh' i).flags)
    (hreads : ∀ tlv ∈ tlvs, ExchangeReads tlv)
    (h : exchangesFrom fresh j tlvs = exchangesFrom fresh' j tlvs) :
    ∀ tlv ∈ tlvs, FlagsSent tlv := by
  induction tlvs generalizing j with
  | nil => exact fun tlv hmem => nomatch hmem
  | cons tlv tlvs ih =>
    rw [List.forall_mem_cons] at hreads ⊢
    obtain ⟨exchange, hexchange⟩ := Option.ne_none_iff_exists'.mp
      (parseinfoExchange_ne_none_iff.mpr hreads.1 : parseinfoExchange (fresh j) tlv ≠ none)
    obtain ⟨exchange', hexchange'⟩ := Option.ne_none_iff_exists'.mp
      (parseinfoExchange_ne_none_iff.mpr hreads.1 : parseinfoExchange (fresh' j) tlv ≠ none)
    obtain ⟨exchanges, hexchanges⟩ := Option.ne_none_iff_exists'.mp
      ((exchangesFrom_ne_none_iff fresh (j := j + 1)).mpr hreads.2)
    obtain ⟨exchanges', hexchanges'⟩ := Option.ne_none_iff_exists'.mp
      ((exchangesFrom_ne_none_iff fresh' (j := j + 1)).mpr hreads.2)
    rw [exchangesFrom, exchangesFrom, hexchange, hexchange', hexchanges, hexchanges'] at h
    obtain ⟨hhead, htail⟩ := List.cons.inj (Option.some.inj h)
    refine ⟨?_, ih hreads.2 (by rw [hexchanges, hexchanges', htail])⟩
    by_contra hflags
    apply hne j
    rw [← parseinfoExchange_flags hflags hexchange, hhead,
      parseinfoExchange_flags hflags hexchange']

/-- On a sequence of complete TLVs the loop fills in a record for each TLV of type 3, in the
reverse order. -/
theorem parseinfoPerms_encode {l : List AimTlv} {bs : AimBstream} (h : bs.rest = encodeTlvchain l)
    (type : UInt16) : parseinfoPerms fresh type bs = do
      let maxrooms ← ifTlv l.reverse 0x0002 0 aimGettlv8
      let exchanges ← exchangesFrom fresh 0 (tlvsOfType 0x0003 l.reverse)
      return { type, maxrooms, curexchange := exchanges.length, exchanges } := by
  have hfuel : (tlvsOfType 0x0003 l.reverse).length < 0 + (l.reverse.length + 1) := by
    have hle : (tlvsOfType 0x0003 l.reverse).length ≤ l.reverse.length :=
      length_tlvsOfType_le 0x0003 l.reverse
    omega
  have hrun := permsPass_run fresh l.reverse [] (Nat.zero_le _) hfuel
  unfold parseinfoPerms
  rw [aimReadtlvchain_encode l h, Option.bind_eq_bind, Option.bind_some]
  dsimp only
  rw [hrun, List.drop_zero]
  cases ifTlv l.reverse 0x0002 0 aimGettlv8 with
  | none => rfl
  | some maxrooms =>
    cases exchangesFrom fresh 0 (tlvsOfType 0x0003 l.reverse) with
    | none => rfl
    | some exchanges => simp

end Exchanges

/-- A record of flags alone. -/
def flagsOnly (flags : UInt16) : AimChatExchangeinfo where
  number := 0
  flags := flags
  name := none
  charset1 := none
  lang1 := none
  charset2 := none
  lang2 := none

/-- Everything that is read of the payload is there. -/
structure PermsRead (l : List AimTlv) : Prop where
  maxrooms : Covers l.reverse 0x0002 1 1
  exchanges : ∀ tlv ∈ l, tlv.type = 0x0003 → ExchangeReads tlv

/-- The client is called with the same records whatever memory held exactly if everything that is
read of the payload is there and every exchange comes with flags. -/
theorem parseinfoPerms_independent_iff {l : List AimTlv} {bs : AimBstream}
    (h : bs.rest = encodeTlvchain l) (type : UInt16) :
    (∀ fresh fresh', ∃ perms, parseinfoPerms fresh type bs = some perms ∧
      parseinfoPerms fresh' type bs = some perms) ↔
      PermsRead l ∧ ∀ tlv ∈ l, tlv.type = 0x0003 → FlagsSent tlv := by
  have hmem : ∀ (P : AimTlv → Prop), (∀ tlv ∈ tlvsOfType 0x0003 l.reverse, P tlv) ↔
      ∀ tlv ∈ l, tlv.type = 0x0003 → P tlv := by
    intro P
    simp [tlvsOfType]
  have hrooms : ifTlv l.reverse 0x0002 0 aimGettlv8 ≠ none ↔ Covers l.reverse 0x0002 1 1 :=
    ifTlv_inside_iff aimutilGet8 0 0
  constructor
  · intro hsame
    obtain ⟨perms, hperms, hperms'⟩ := hsame (fun _ => flagsOnly 0) fun _ => flagsOnly 1
    rw [parseinfoPerms_encode _ h] at hperms hperms'
    obtain ⟨maxrooms, hmaxrooms, hrest⟩ := Option.bind_eq_some_iff.mp hperms
    obtain ⟨exchanges, hexchanges, hsome⟩ := Option.bind_eq_some_iff.mp hrest
    obtain ⟨maxrooms', -, hrest'⟩ := Option.bind_eq_some_iff.mp hperms'
    obtain ⟨exchanges', hexchanges', hsome'⟩ := Option.bind_eq_some_iff.mp hrest'
    have hreads : ∀ tlv ∈ tlvsOfType 0x0003 l.reverse, ExchangeReads tlv :=
      (exchangesFrom_ne_none_iff (fun _ => flagsOnly 0)).mp
        (hexchanges ▸ Option.some_ne_none exchanges)
    have hrecords : exchanges = exchanges' :=
      congrArg ChatnavPerms.exchanges (Option.some.inj (hsome.trans hsome'.symm))
    refine ⟨⟨hrooms.mp (hmaxrooms ▸ Option.some_ne_none maxrooms), (hmem ExchangeReads).mp hreads⟩,
      (hmem FlagsSent).mp ?_⟩
    apply flagsSent_of_eq (fun _ => flagsOnly 0) (fun _ => flagsOnly 1) _ hreads
    · rw [hexchanges, hexchanges', hrecords]
    · exact fun _ => UInt16.zero_ne_one
  · rintro ⟨hread, hflags⟩ fresh fresh'
    have hsent := (hmem FlagsSent).mpr hflags
    obtain ⟨maxrooms, hmaxrooms⟩ := Option.ne_none_iff_exists'.mp (hrooms.mpr hread.maxrooms)
    obtain ⟨exchanges, hexchanges⟩ := Option.ne_none_iff_exists'.mp
      ((exchangesFrom_ne_none_iff fresh (j := 0)).mpr ((hmem ExchangeReads).mpr hread.exchanges))
    rw [parseinfoPerms_encode fresh h, parseinfoPerms_encode fresh' h,
      ← exchangesFrom_congr fresh fresh' hsent 0, hmaxrooms, hexchanges]
    exact ⟨_, rfl, rfl⟩

/-- An exchange with the number 4 and the flags 3. -/
theorem parseinfoPerms_independent_flags :
    let exchange := createtlv 0x0003 8 [0x00, 0x04, 0x00, 0xc9, 0x00, 0x02, 0x00, 0x03]
    ∀ fresh fresh', ∃ perms,
      parseinfoPerms fresh 0x0002 ⟨encodeTlvchain [exchange], 0⟩ = some perms ∧
      parseinfoPerms fresh' 0x0002 ⟨encodeTlvchain [exchange], 0⟩ = some perms := by
  have hinner : exchangeInner
      (createtlv 0x0003 8 [0x00, 0x04, 0x00, 0xc9, 0x00, 0x02, 0x00, 0x03]) =
        some (0x0004, [createtlv 0x00c9 2 [0x00, 0x03]]) := by
    decide
  refine (parseinfoPerms_independent_iff rfl 0x0002).mpr ⟨⟨?_, ?_⟩, ?_⟩
  · exact covers_of_forall (by decide)
  · intro tlv hmem _
    obtain rfl := List.mem_singleton.mp hmem
    have hinside : ∀ tlv ∈ [createtlv 0x00c9 2 [0x00, 0x03]], 2 ≤ tlv.value.length := by
      decide
    exact ⟨_, _, hinner, covers_of_forall hinside, covers_of_forall hinside,
      covers_of_forall fun tlv hmem => Nat.le_of_succ_le (hinside tlv hmem)⟩
  · intro tlv hmem _ number innerlist h
    obtain rfl := List.mem_singleton.mp hmem
    obtain ⟨rfl, rfl⟩ := Prod.mk.inj (Option.some.inj (hinner.symm.trans h))
    rfl

/-- An exchange that is its number only. -/
theorem not_parseinfoPerms_independent :
    let exchange := createtlv 0x0003 2 [0x00, 0x04]
    ¬ ∀ fresh fresh', ∃ perms,
      parseinfoPerms fresh 0x0002 ⟨encodeTlvchain [exchange], 0⟩ = some perms ∧
      parseinfoPerms fresh' 0x0002 ⟨encodeTlvchain [exchange], 0⟩ = some perms := by
  intro exchange hsame
  obtain ⟨perms, hperms, hperms'⟩ := hsame (fun _ => flagsOnly 0) (fun _ => flagsOnly 1)
  have hne : parseinfoPerms (fun _ => flagsOnly 0) 0x0002 ⟨encodeTlvchain [exchange], 0⟩ ≠
      parseinfoPerms (fun _ => flagsOnly 1) 0x0002 ⟨encodeTlvchain [exchange], 0⟩ := by
    decide
  exact hne (hperms.trans hperms'.symm)

end Libfaim
