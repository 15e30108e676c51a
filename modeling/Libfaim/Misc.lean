import Libfaim.BStream.Progress
import Libfaim.Modules
import Libfaim.Snac

/-!
# SNAC errors (`misc.c`, `search.c`)

An error SNAC has subtype 1 in every family. The catch-all module gives the error code and the data
of the request to the client's callback (`generror`), but the `search` module has a handler of its
own for the errors of its family, which comes first (`error`). The other modules do not look at
subtype 1.

The callbacks are a parameter, and may do anything to the session, the cache and the frame. The
calls made are kept on record. The loop over the modules is the one of the dispatch, with these
handlers in it (`errorLoop_consumeLoop`). `errorReported_iff` says when an error is reported the way
`generror` does it.
-/

namespace Libfaim

/-! ## Callbacks -/

/-- What a callback is given besides the session and the frame. -/
inductive ErrorArgs where
  | error (code : UInt16) (data : Option (List UInt8))
  | address (address : Option (List UInt8))
  | frame
  deriving DecidableEq, Repr

/-- A call of the client's callback for a family and a subtype, with the cache it finds. -/
structure ErrorCall where
  family : UInt16
  subtype : UInt16
  handler : AimRxcallback
  args : ErrorArgs
  snacs : SnacCache

/-- The session, its cache and the data of the frame. -/
structure RxState where
  sess : AimSession
  snacs : SnacCache
  data : AimBstream

/-- What the callbacks return and do. -/
structure ErrorClient where
  ret : ErrorCall → Int
  effect : ErrorCall → RxState → RxState

/-- A computation in a handler, with the calls made so far. -/
abbrev ErrorM := StateM (RxState × List ErrorCall)

/-- The call of the callback `aim_callhandler` finds; `bleck` returns 1. -/
def callUserfunc (client : ErrorClient) (conn : ConnPtr) (family subtype : UInt16)
    (args : ErrorArgs) : ErrorM Int :=
  fun (rx, calls) =>
    match aimCallhandler rx.sess conn family subtype with
    | none => (0, rx, calls)
    | some .bleck => (1, rx, calls ++ [⟨family, subtype, .bleck, args, rx.snacs⟩])
    | some (.client func) =>
      let call : ErrorCall := ⟨family, subtype, .client func, args, rx.snacs⟩
      (client.ret call, client.effect call rx, calls ++ [call])

/-! ## The handlers -/

/-- `snac2->data`; entries without data have a null pointer. -/
def snacData (snac2 : Option AimSnac) : Option (List UInt8) :=
  (snac2.filter fun snac => snac.data ≠ []).map AimSnac.data

/-- `error` of `search.c` -/
def searchError (client : ErrorClient) (conn : ConnPtr) (snac : AimModsnac) : ErrorM Int :=
  fun (rx, calls) =>
    let (snac2, snacs) := aimRemsnac snac.id rx.snacs
    let rx := { rx with snacs := snacs }
    if snac2 = none then (0, rx, calls)
    else
      callUserfunc client conn snac.family snac.subtype (.address (snacData snac2)) (rx, calls)

/-- `generror` -/
def generror (client : ErrorClient) (conn : ConnPtr) (snac : AimModsnac) : ErrorM Int :=
  fun (rx, calls) =>
    let (snac2, snacs) := aimRemsnac snac.id rx.snacs
    let (error, data) := if aimBstreamEmpty rx.data ≠ 0 then aimbsGet16 rx.data else (0, rx.data)
    callUserfunc client conn snac.family snac.subtype (.error error (snacData snac2))
      ({ rx with snacs := snacs, data := data }, calls)

/-- `snachandler` of `misc.c` -/
def miscSnachandler (client : ErrorClient) (conn : ConnPtr) (snac : AimModsnac) : ErrorM Int :=
  if snac.subtype = 0x0001 then generror client conn snac
  else if snac.family = 0xffff ∧ snac.subtype = 0xffff then
    callUserfunc client conn snac.family snac.subtype .frame
  else pure 0

/-- The handler of a module, for the subtypes 1 and 0xffff: only `misc` and `search` have a case for
them. -/
def errorSnachandler (client : ErrorClient) (conn : ConnPtr) (mod : AimModule)
    (snac : AimModsnac) : ErrorM Int :=
  if mod.family = 0xffff then miscSnachandler client conn snac
  else if mod.family = 0x000a ∧ snac.subtype = 0x0001 then searchError client conn snac
  else pure 0

/-! ## Dispatch -/

/-- The loop of `consumesnac` and `consumenonsnac`, with these handlers. -/
def errorLoop (client : ErrorClient) (conn : ConnPtr) (snac : AimModsnac) :
    List AimModule → RxState × List ErrorCall → Option (UInt8 × RxState × List ErrorCall)
  | [], st => some (0, st)
  | cur :: next, st =>
    if ¬ cur.Takes snac.family then errorLoop client conn snac next st
    else if cur.snachandler = none then none
    else
      let (ret, st) := errorSnachandler client conn cur snac st
      if ret ≠ 0 then some (1, st) else errorLoop client conn snac next st

/-- `consumesnac` -/
def consumesnacError (client : ErrorClient) (mods : List AimModule) (conn : ConnPtr)
    (rx : RxState) : Option (UInt8 × RxState × List ErrorCall) :=
  if aimBstreamEmpty rx.data < 10 then some (0, rx, [])
  else
    let (snac, data) := getModsnac rx.data
    errorLoop client conn snac mods ({ rx with data := data }, [])

/-- The turn of a frame on channel 2, in a session with the modules `mods`: a frame nobody took is
given to the modules once more. -/
def dispatchError (client : ErrorClient) (mods : List AimModule) (conn : ConnPtr) (rx : RxState) :
    Option (RxState × List ErrorCall) :=
  match consumesnacError client mods conn rx with
  | none => none
  | some (ret, st) =>
    if ret ≠ 0 then some st
    else (errorLoop client conn ⟨0xffff, 0xffff, 0, 0⟩ mods st).map (·.2)

/-! ## The calls of a handler -/

/-- The cache the first callback finds or, when there is none, the one left behind. -/
def cacheWhenCalled (calls : List ErrorCall) (rx : RxState) : SnacCache :=
  (calls.head?.map ErrorCall.snacs).getD rx.snacs

theorem cacheWhenCalled_append {calls calls' : List ErrorCall} {rx rx' : RxState}
    (h : cacheWhenCalled calls' rx' = rx.snacs) :
    cacheWhenCalled (calls ++ calls') rx' = cacheWhenCalled calls rx := by
  cases calls with
  | nil => exact h
  | cons call calls => rfl

/-- The call of the callback for a family and a subtype, if there is a callback. -/
def userfuncCalls (rx : RxState) (conn : ConnPtr) (family subtype : UInt16) (args : ErrorArgs) :
    List ErrorCall :=
  ((aimCallhandler rx.sess conn family subtype).map fun handler =>
    (⟨family, subtype, handler, args, rx.snacs⟩ : ErrorCall)).toList

theorem mem_userfuncCalls {rx : RxState} {conn : ConnPtr} {family subtype : UInt16}
    {args : ErrorArgs} {call : ErrorCall} (h : call ∈ userfuncCalls rx conn family subtype args) :
    call.family = family ∧ call.subtype = subtype := by
  obtain ⟨handler, -, rfl⟩ := Option.map_eq_some_iff.mp (Option.mem_toList.mp h)
  exact ⟨rfl, rfl⟩

section Handlers

variable {client : ErrorClient} {conn : ConnPtr}

/-- The callback is called once, if there is one. -/
theorem callUserfunc_spec (family subtype : UInt16) (args : ErrorArgs) (rx : RxState)
    (calls : List ErrorCall) :
    ∃ ret rx', callUserfunc client conn family subtype args (rx, calls) =
        (ret, rx', calls ++ userfuncCalls rx conn family subtype args) ∧
      cacheWhenCalled (userfuncCalls rx conn family subtype args) rx' = rx.snacs ∧
      (aimCallhandler rx.sess conn family subtype = none → ret = 0 ∧ rx' = rx) := by
  unfold userfuncCalls
  dsimp only [callUserfunc]
  cases aimCallhandler rx.sess conn family subtype with
  | none => exact ⟨0, rx, by simp, rfl, fun _ => ⟨rfl, rfl⟩⟩
  | some handler =>
    cases handler with
    | bleck => exact ⟨1, rx, rfl, rfl, nofun⟩
    | client func => exact ⟨_, _, rfl, rfl, nofun⟩

theorem generror_eq (snac : AimModsnac) (rx : RxState) (calls : List ErrorCall) :
    ∃ data, generror client conn snac (rx, calls) =
      callUserfunc client conn snac.family snac.subtype
        (.error (aimbsGet16 rx.data).1 (snacData (snacMap rx.snacs snac.id)))
        ({ rx with snacs := (aimRemsnac snac.id rx.snacs).2, data := data }, calls) := by
  dsimp only [generror]
  rw [aimRemsnac_fst]
  by_cases hempty : aimBstreamEmpty rx.data = 0
  · have hzero : aimbsGet16 rx.data = (0, rx.data) := aimbsGet_short (by omega)
    rw [if_neg (not_not.mpr hempty), hzero]
    exact ⟨rx.data, rfl⟩
  · rw [if_pos hempty]
    exact ⟨_, rfl⟩

theorem searchError_of_none {snac : AimModsnac} {rx : RxState} {calls : List ErrorCall}
    (h : snacMap rx.snacs snac.id = none) :
    searchError client conn snac (rx, calls) =
      (0, { rx with snacs := (aimRemsnac snac.id rx.snacs).2 }, calls) := by
  dsimp only [searchError]
  rw [aimRemsnac_fst, if_pos h]

theorem searchError_of_some {snac : AimModsnac} {rx : RxState} {calls : List ErrorCall}
    (h : snacMap rx.snacs snac.id ≠ none) :
    searchError client conn snac (rx, calls) =
      callUserfunc client conn snac.family snac.subtype
        (.address (snacData (snacMap rx.snacs snac.id)))
        ({ rx with snacs := (aimRemsnac snac.id rx.snacs).2 }, calls) := by
  dsimp only [searchError]
  rw [aimRemsnac_fst, if_neg h]

end Handlers

/-! ## The loop over the modules -/

/-- The modules that come before `search`, and those between it and `misc`. -/
def quietModules : List AimModule := aimModlist.take 7 ++ (aimModlist.drop 8).take 9

def searchModule : AimModule := ⟨"search", 0x000a, 0, some 10⟩

def miscModule : AimModule := ⟨"misc", 0xffff, aimModflagMultifamily, some 0xffff⟩

theorem aimModlist_eq : aimModlist =
    aimModlist.take 7 ++ searchModule :: ((aimModlist.drop 8).take 9 ++ [miscModule]) := rfl

theorem quietModules_family : ∀ mod ∈ quietModules, mod.family ≠ 0xffff ∧ mod.family ≠ 0x000a ∧
    mod.flags = 0 ∧ (mod.snachandler = none → NullFamily mod.family) := by
  decide

section Loop

variable {client : ErrorClient} {conn : ConnPtr} {snac : AimModsnac}
  {st : RxState × List ErrorCall}

/-- The loop is the one of the dispatch: there are handlers for `consumeLoop` that return, and do to
the session, what these do in the run. -/
theorem errorLoop_consumeLoop {mods : List AimModule} (hmods : mods.Nodup) (ptr : Nat)
    (st : RxState × List ErrorCall) :
    ∃ handlers : Client, ∀ calls, ∃ calls',
      consumeLoop handlers (.snac · ptr snac) snac.family mods (st.1.sess, calls) =
        (errorLoop client conn snac mods st).map fun r => (r.1, r.2.1.sess, calls') := by
  induction mods generalizing st with
  | nil => exact ⟨⟨fun _ => 0, fun _ sess => sess⟩, fun calls => ⟨calls, rfl⟩⟩
  | cons cur next ih =>
    obtain ⟨hcur, hnext⟩ := List.nodup_cons.mp hmods
    by_cases htakes : cur.Takes snac.family
    · by_cases hnull : cur.snachandler = none
      · refine ⟨⟨fun _ => 0, fun _ sess => sess⟩, fun calls => ⟨calls, ?_⟩⟩
        rw [consumeLoop, errorLoop, if_neg (not_not.mpr htakes), if_pos hnull,
          if_neg (not_not.mpr htakes), if_pos hnull]
        rfl
      · obtain ⟨ret, st', hhandler⟩ : ∃ ret st', errorSnachandler client conn cur snac st =
            (ret, st') := ⟨_, _, rfl⟩
        obtain ⟨handlers, hrun⟩ := ih hnext st'
        -- the module does what its handler does in this state; it is not called again
        let handlers' : Client :=
          ⟨Function.update handlers.ret (.snac cur ptr snac) ret,
            Function.update handlers.effect (.snac cur ptr snac) fun _ => st'.1.sess⟩
        have hrest : consumeLoop handlers' (.snac · ptr snac) snac.family next =
            consumeLoop handlers (.snac · ptr snac) snac.family next := by
          refine consumeLoop_congr fun mod hmod => ?_
          have hother : RxCall.snac mod ptr snac ≠ .snac cur ptr snac := by
            intro heq
            injection heq with heq
            exact hcur (heq ▸ hmod)
          exact ⟨Function.update_of_ne hother _ _, Function.update_of_ne hother _ _⟩
        have hret : handlers'.ret (.snac cur ptr snac) = ret := Function.update_self _ _ _
        have heffect (sess : AimSession) :
            handlers'.effect (.snac cur ptr snac) sess = st'.1.sess :=
          congrFun (Function.update_self _ _ handlers.effect) sess
        refine ⟨handlers', fun calls => ?_⟩
        rw [consumeLoop_cons next htakes hnull, hret, heffect, hrest, errorLoop,
          if_neg (not_not.mpr htakes), if_neg hnull, hhandler]
        dsimp only
        by_cases hzero : ret = 0
        · rw [if_neg (not_not.mpr hzero), if_neg (not_not.mpr hzero)]
          exact hrun _
        · rw [if_pos hzero, if_pos hzero]
          exact ⟨_, rfl⟩
    · obtain ⟨handlers, hrun⟩ := ih hnext st
      refine ⟨handlers, fun calls => ?_⟩
      rw [consumeLoop, errorLoop, if_pos htakes, if_pos htakes]
      exact hrun calls

/-- Modules without a case for the SNAC do nothing. -/
theorem errorLoop_quiet {before : List AimModule} (after : List AimModule)
    (hfamily : ¬ NullFamily snac.family) (hquiet : ∀ mod ∈ before, mod ∈ quietModules) :
    errorLoop client conn snac (before ++ after) st = errorLoop client conn snac after st := by
  induction before with
  | nil => rfl
  | cons cur before ih =>
    have hcur := quietModules_family cur (hquiet cur List.mem_cons_self)
    have hnext := ih fun mod hmod => hquiet mod (List.mem_cons_of_mem cur hmod)
    obtain ⟨hmisc, hsearch, hflags, hnull⟩ := hcur
    rw [List.cons_append, errorLoop]
    by_cases htakes : cur.Takes snac.family
    · have hsome : cur.snachandler ≠ none := by
        intro hnone
        have heq : cur.family = snac.family := by
          by_contra hne
          exact htakes ⟨by rw [hflags]; rfl, hne⟩
        exact hfamily (heq ▸ hnull hnone)
      have hskip : errorSnachandler client conn cur snac = pure 0 := by
        rw [errorSnachandler, if_neg hmisc, if_neg fun h => hsearch h.1]
      rw [if_neg (not_not.mpr htakes), if_neg hsome, hskip]
      exact hnext
    · rw [if_pos htakes]
      exact hnext

theorem errorLoop_misc :
    errorLoop client conn snac [miscModule] st =
      some (if (miscSnachandler client conn snac st).1 ≠ 0 then 1 else 0,
        (miscSnachandler client conn snac st).2) := by
  have htakes : miscModule.Takes snac.family := by
    intro h
    exact absurd h.1 (by decide)
  have hhandler : errorSnachandler client conn miscModule snac =
      miscSnachandler client conn snac := if_pos rfl
  unfold errorLoop
  rw [if_neg (not_not.mpr htakes), if_neg (by simp [miscModule]), hhandler]
  generalize miscSnachandler client conn snac st = res
  obtain ⟨ret, st'⟩ := res
  by_cases hret : ret = 0
  · simp [hret, errorLoop]
  · simp [hret]

/-- Outside of family 10 only the catch-all module looks at the SNAC. -/
theorem errorLoop_of_other (hfamily : ¬ NullFamily snac.family) (hother : snac.family ≠ 0x000a) :
    errorLoop client conn snac aimModlist st =
      some (if (miscSnachandler client conn snac st).1 ≠ 0 then 1 else 0,
        (miscSnachandler client conn snac st).2) := by
  have hskip : ¬ searchModule.Takes snac.family := by
    intro h
    exact h ⟨rfl, fun heq => hother heq.symm⟩
  have hquiet : ∀ mod ∈ aimModlist.take 7, mod ∈ quietModules :=
    fun mod hmod => List.mem_append_left _ hmod
  have hquiet' : ∀ mod ∈ (aimModlist.drop 8).take 9, mod ∈ quietModules :=
    fun mod hmod => List.mem_append_right _ hmod
  rw [aimModlist_eq, errorLoop_quiet _ hfamily hquiet, errorLoop, if_pos hskip,
    errorLoop_quiet _ hfamily hquiet', errorLoop_misc]

/-- In family 10 the `search` module looks at the SNAC first. -/
theorem errorLoop_of_search (hsearch : snac.family = 0x000a) (hsub : snac.subtype = 0x0001) :
    errorLoop client conn snac aimModlist st =
      let (ret, st) := searchError client conn snac st
      if ret ≠ 0 then some (1, st)
      else some (if (miscSnachandler client conn snac st).1 ≠ 0 then 1 else 0,
        (miscSnachandler client conn snac st).2) := by
  have hfamily : ¬ NullFamily snac.family := by
    rw [hsearch]
    decide
  have htakes : searchModule.Takes snac.family := by
    intro h
    exact h.2 hsearch.symm
  have hhandler : errorSnachandler client conn searchModule snac =
      searchError client conn snac := by
    rw [errorSnachandler, if_neg (by decide), if_pos ⟨rfl, hsub⟩]
  have hquiet : ∀ mod ∈ aimModlist.take 7, mod ∈ quietModules :=
    fun mod hmod => List.mem_append_left _ hmod
  have hquiet' : ∀ mod ∈ (aimModlist.drop 8).take 9, mod ∈ quietModules :=
    fun mod hmod => List.mem_append_right _ hmod
  rw [aimModlist_eq, errorLoop_quiet _ hfamily hquiet, errorLoop, if_neg (not_not.mpr htakes),
    if_neg (by decide), hhandler]
  generalize searchError client conn snac st = res
  obtain ⟨ret, st'⟩ := res
  dsimp only
  rw [errorLoop_quiet _ hfamily hquiet', errorLoop_misc]

/-- "last chance!": the callback for the frames nobody took. -/
theorem errorLoop_lastChance (rx : RxState) (calls : List ErrorCall) :
    ∃ ret rx', errorLoop client conn ⟨0xffff, 0xffff, 0, 0⟩ aimModlist (rx, calls) =
        some (ret, rx', calls ++ userfuncCalls rx conn 0xffff 0xffff .frame) ∧
      cacheWhenCalled (userfuncCalls rx conn 0xffff 0xffff .frame) rx' = rx.snacs := by
  have hmisc : miscSnachandler client conn ⟨0xffff, 0xffff, 0, 0⟩ =
      callUserfunc client conn 0xffff 0xffff .frame := rfl
  obtain ⟨ret, rx', heq, hcache, -⟩ := @callUserfunc_spec client conn 0xffff 0xffff .frame rx calls
  rw [errorLoop_of_other (by decide) (show (0xffff : UInt16) ≠ 0x000a by decide), hmisc, heq]
  exact ⟨_, rx', rfl, hcache⟩

end Loop

/-! ## Reporting an error -/

/-- The SNAC of a frame. -/
def RxState.snac (rx : RxState) : AimModsnac := (getModsnac rx.data).1

/-- What follows the SNAC header. -/
def RxState.payload (rx : RxState) : AimBstream := (getModsnac rx.data).2

/-- The callback for the SNAC of the frame, if there is one, is called once, with the error code and
the data of the request. By then the entry of the request is gone. -/
structure ErrorReported (conn : ConnPtr) (rx rx' : RxState) (calls : List ErrorCall) : Prop where
  called : ((calls.filter fun call => call.family = rx.snac.family ∧ call.subtype = 0x0001).map
      fun call => (call.handler, call.args)) =
    ((aimCallhandler rx.sess conn rx.snac.family 0x0001).map fun handler =>
      (handler, ErrorArgs.error (aimbsGet16 rx.payload).1
        (snacData (snacMap rx.snacs rx.snac.id)))).toList
  removed : cachedUnder (cacheWhenCalled calls rx') rx.snac.id <:+
    (cachedUnder rx.snacs rx.snac.id).tail

section Reported

variable {client : ErrorClient} {conn : ConnPtr} {rx rx₁ : RxState} {ret : UInt8}
  {calls : List ErrorCall}

theorem consumesnacError_eq (mods : List AimModule) (hlong : 10 ≤ aimBstreamEmpty rx.data) :
    consumesnacError client mods conn rx =
      errorLoop client conn rx.snac mods ({ rx with data := rx.payload }, []) := by
  unfold consumesnacError RxState.snac RxState.payload
  rw [if_neg (Nat.not_lt.mpr hlong)]
  cases getModsnac rx.data with
  | mk snac data => rfl

/-- The last chance of the frame makes no difference. -/
theorem dispatchError_reported_iff (hlong : 10 ≤ aimBstreamEmpty rx.data)
    (h : errorLoop client conn rx.snac aimModlist ({ rx with data := rx.payload }, []) =
      some (ret, rx₁, calls)) :
    ∃ rx' calls', dispatchError client aimModlist conn rx = some (rx', calls') ∧
      (ErrorReported conn rx rx' calls' ↔ ErrorReported conn rx rx₁ calls) := by
  unfold dispatchError
  rw [consumesnacError_eq aimModlist hlong, h]
  dsimp only
  by_cases hret : ret = 0
  · rw [if_neg (not_not.mpr hret)]
    obtain ⟨ret', rx', heq, hcache⟩ := @errorLoop_lastChance client conn rx₁ calls
    rw [heq]
    refine ⟨rx', _, rfl, ?_⟩
    have hlast : ((userfuncCalls rx₁ conn 0xffff 0xffff .frame).filter fun call =>
        call.family = rx.snac.family ∧ call.subtype = 0x0001) = [] := by
      rw [List.filter_eq_nil_iff]
      intro call hcall
      have hsub : call.subtype = 0xffff := (mem_userfuncCalls hcall).2
      simp [hsub]
    constructor
    · intro hrep
      refine ⟨?_, cacheWhenCalled_append hcache ▸ hrep.removed⟩
      have hcalled := hrep.called
      rwa [List.filter_append, hlast, List.append_nil] at hcalled
    · intro hrep
      refine ⟨?_, (cacheWhenCalled_append hcache).symm ▸ hrep.removed⟩
      rw [List.filter_append, hlast, List.append_nil]
      exact hrep.called
  · rw [if_pos hret]
    exact ⟨rx₁, calls, rfl, Iff.rfl⟩

/-- `generror` calls the callback with the error code and the data of the request. -/
theorem miscSnachandler_spec {snac : AimModsnac} (hsub : snac.subtype = 0x0001) (rx : RxState)
    (calls : List ErrorCall) :
    ∃ ret rx' new, miscSnachandler client conn snac (rx, calls) = (ret, rx', calls ++ new) ∧
      cacheWhenCalled new rx' = (aimRemsnac snac.id rx.snacs).2 ∧
      (∀ call ∈ new, call.family = snac.family ∧ call.subtype = 0x0001) ∧
      new.map (fun call => (call.handler, call.args)) =
        ((aimCallhandler rx.sess conn snac.family 0x0001).map fun handler =>
          (handler, ErrorArgs.error (aimbsGet16 rx.data).1
            (snacData (snacMap rx.snacs snac.id)))).toList := by
  have hmisc : miscSnachandler client conn snac = generror client conn snac := if_pos hsub
  obtain ⟨data, heq⟩ := @generror_eq client conn snac rx calls
  rw [hmisc, heq, hsub]
  obtain ⟨ret, rx', hcall, hcache, -⟩ := @callUserfunc_spec client conn snac.family 0x0001
    (.error (aimbsGet16 rx.data).1 (snacData (snacMap rx.snacs snac.id)))
    { rx with snacs := (aimRemsnac snac.id rx.snacs).2, data := data } calls
  refine ⟨ret, rx', _, hcall, hcache, fun call hmem => mem_userfuncCalls hmem, ?_⟩
  unfold userfuncCalls
  dsimp only
  cases aimCallhandler rx.sess conn snac.family 0x0001 with
  | none => rfl
  | some handler => rfl

/-- Calls that are all for the SNAC of the frame pass through the filter. -/
theorem errorReported_of_calls
    (hkey : ∀ call ∈ calls, call.family = rx.snac.family ∧ call.subtype = 0x0001)
    (hargs : calls.map (fun call => (call.handler, call.args)) =
      ((aimCallhandler rx.sess conn rx.snac.family 0x0001).map fun handler =>
        (handler, ErrorArgs.error (aimbsGet16 rx.payload).1
          (snacData (snacMap rx.snacs rx.snac.id)))).toList)
    (hremoved : cachedUnder (cacheWhenCalled calls rx₁) rx.snac.id <:+
      (cachedUnder rx.snacs rx.snac.id).tail) : ErrorReported conn rx rx₁ calls := by
  refine ⟨?_, hremoved⟩
  rw [List.filter_eq_self.mpr fun call hcall => by simpa using hkey call hcall]
  exact hargs

/-- What `generror` does when it is the first to see the frame. -/
theorem errorReported_of_misc (hsub : rx.snac.subtype = 0x0001) :
    ∃ ret rx₁ calls, miscSnachandler client conn rx.snac ({ rx with data := rx.payload }, []) =
      (ret, rx₁, calls) ∧ ErrorReported conn rx rx₁ calls := by
  obtain ⟨ret, rx₁, new, heq, hcache, hkey, hargs⟩ :=
    @miscSnachandler_spec client conn rx.snac hsub { rx with data := rx.payload } []
  dsimp only at hcache hargs
  have hremoved : cachedUnder (cacheWhenCalled new rx₁) rx.snac.id =
      (cachedUnder rx.snacs rx.snac.id).tail := by
    rw [hcache, cachedUnder_aimRemsnac]
  exact ⟨ret, rx₁, new, heq, errorReported_of_calls hkey hargs (hremoved ▸ List.suffix_rfl)⟩

/-- `generror` after `error` has looked for the entry: `error` made no call, so nothing is reported
twice. -/
theorem errorReported_of_misc_after (hsub : rx.snac.subtype = 0x0001)
    (h : snacMap rx.snacs rx.snac.id = none ∨
      aimCallhandler rx.sess conn rx.snac.family 0x0001 = none) :
    ∃ ret rx₁ calls, miscSnachandler client conn rx.snac ({ rx with
        snacs := (aimRemsnac rx.snac.id rx.snacs).2, data := rx.payload }, []) =
      (ret, rx₁, calls) ∧ ErrorReported conn rx rx₁ calls := by
  obtain ⟨ret, rx₁, new, heq, hcache, hkey, hargs⟩ :=
    @miscSnachandler_spec client conn rx.snac hsub
      { rx with snacs := (aimRemsnac rx.snac.id rx.snacs).2, data := rx.payload } []
  dsimp only at hcache hargs
  have hremoved : cachedUnder (cacheWhenCalled new rx₁) rx.snac.id =
      (cachedUnder rx.snacs rx.snac.id).tail.tail := by
    rw [hcache, cachedUnder_aimRemsnac, cachedUnder_aimRemsnac]
  refine ⟨ret, rx₁, new, heq, errorReported_of_calls hkey ?_ (hremoved ▸ List.tail_suffix _)⟩
  rcases h with hentry | hnone
  · have hempty : cachedUnder rx.snacs rx.snac.id = [] := by
      rw [← head?_cachedUnder] at hentry
      exact List.head?_eq_none_iff.mp hentry
    have hgone : snacMap (aimRemsnac rx.snac.id rx.snacs).2 rx.snac.id = none := by
      rw [← head?_cachedUnder, cachedUnder_aimRemsnac, hempty]
      rfl
    rw [hentry]
    rw [hgone] at hargs
    exact hargs
  · rw [hnone, Option.map_none]
    rw [hnone, Option.map_none] at hargs
    exact hargs

/-- The `search` module tells the callback the address, and not the error code. -/
theorem not_errorReported_of_address {handler : AimRxcallback} {snacs : SnacCache}
    {address : Option (List UInt8)} (hsearch : rx.snac.family = 0x000a) :
    ¬ ErrorReported conn rx rx₁ (⟨0x000a, 0x0001, handler, .address address, snacs⟩ :: calls) := by
  intro hrep
  have hcalled := hrep.called
  rw [List.filter_cons_of_pos (by simp [hsearch]), List.map_cons] at hcalled
  cases haim : aimCallhandler rx.sess conn rx.snac.family 0x0001 with
  | none => simp [haim] at hcalled
  | some handler' => simp [haim] at hcalled

/-- The frame is a search error for a request that is cached, and there is a callback for it. -/
def SearchErrorCalls (conn : ConnPtr) (rx : RxState) : Prop :=
  rx.snac.family = 0x000a ∧ snacMap rx.snacs rx.snac.id ≠ none ∧
    aimCallhandler rx.sess conn 0x000a 0x0001 ≠ none

theorem errorLoop_of_searchErrorCalls (hsub : rx.snac.subtype = 0x0001)
    (h : SearchErrorCalls conn rx) :
    ∃ ret rx₁ calls, errorLoop client conn rx.snac aimModlist
        ({ rx with data := rx.payload }, []) = some (ret, rx₁, calls) ∧
      ¬ ErrorReported conn rx rx₁ calls := by
  obtain ⟨hsearch, hentry, hcb⟩ := h
  obtain ⟨handler, hhandler⟩ := Option.ne_none_iff_exists'.mp hcb
  rw [errorLoop_of_search hsearch hsub,
    @searchError_of_some client conn rx.snac { rx with data := rx.payload } [] hentry, hsearch, hsub]
  obtain ⟨ret, rx₂, heq, -, -⟩ := @callUserfunc_spec client conn 0x000a 0x0001
    (.address (snacData (snacMap rx.snacs rx.snac.id)))
    { rx with snacs := (aimRemsnac rx.snac.id rx.snacs).2, data := rx.payload } []
  have hcalls : userfuncCalls { rx with
      snacs := (aimRemsnac rx.snac.id rx.snacs).2, data := rx.payload } conn 0x000a 0x0001
        (.address (snacData (snacMap rx.snacs rx.snac.id))) =
      [⟨0x000a, 0x0001, handler, .address (snacData (snacMap rx.snacs rx.snac.id)),
        (aimRemsnac rx.snac.id rx.snacs).2⟩] := by
    unfold userfuncCalls
    rw [hhandler]
    rfl
  rw [heq, hcalls, List.nil_append]
  dsimp only
  by_cases hret : ret = 0
  · obtain ⟨ret', rx₃, new, hmisc, -⟩ := @miscSnachandler_spec client conn rx.snac hsub rx₂
      [⟨0x000a, 0x0001, handler, .address (snacData (snacMap rx.snacs rx.snac.id)),
        (aimRemsnac rx.snac.id rx.snacs).2⟩]
    rw [if_neg (not_not.mpr hret), hmisc]
    exact ⟨_, rx₃, _, rfl, not_errorReported_of_address hsearch⟩
  · rw [if_pos hret]
    exact ⟨1, rx₂, _, rfl, not_errorReported_of_address hsearch⟩

theorem errorLoop_of_not_searchErrorCalls (hsub : rx.snac.subtype = 0x0001)
    (hfamily : ¬ NullFamily rx.snac.family) (h : ¬ SearchErrorCalls conn rx) :
    ∃ ret rx₁ calls, errorLoop client conn rx.snac aimModlist
        ({ rx with data := rx.payload }, []) = some (ret, rx₁, calls) ∧
      ErrorReported conn rx rx₁ calls := by
  by_cases hsearch : rx.snac.family = 0x000a
  · rw [errorLoop_of_search hsearch hsub]
    have hquiet : snacMap rx.snacs rx.snac.id = none ∨
        aimCallhandler rx.sess conn rx.snac.family 0x0001 = none := by
      by_contra hboth
      obtain ⟨hentry, hcb⟩ := not_or.mp hboth
      exact h ⟨hsearch, hentry, hsearch ▸ hcb⟩
    have herror : searchError client conn rx.snac ({ rx with data := rx.payload }, []) =
        (0, { rx with snacs := (aimRemsnac rx.snac.id rx.snacs).2, data := rx.payload }, []) := by
      by_cases hentry : snacMap rx.snacs rx.snac.id = none
      · rw [@searchError_of_none client conn rx.snac { rx with data := rx.payload } [] hentry]
      · have hnone := hquiet.resolve_left hentry
        rw [@searchError_of_some client conn rx.snac { rx with data := rx.payload } [] hentry, hsub]
        obtain ⟨ret, rx₂, heq, -, hret⟩ := @callUserfunc_spec client conn rx.snac.family 0x0001
          (.address (snacData (snacMap rx.snacs rx.snac.id)))
          { rx with snacs := (aimRemsnac rx.snac.id rx.snacs).2, data := rx.payload } []
        obtain ⟨hzero, hsame⟩ := hret hnone
        rw [heq, hzero, hsame, userfuncCalls, hnone, Option.map_none, Option.toList_none,
          List.nil_append]
    obtain ⟨ret, rx₁, calls, hmisc, hrep⟩ :=
      @errorReported_of_misc_after client conn rx hsub hquiet
    rw [herror]
    dsimp only
    rw [if_neg (not_not.mpr rfl), hmisc]
    exact ⟨_, rx₁, calls, rfl, hrep⟩
  · obtain ⟨ret, rx₁, calls, hmisc, hrep⟩ := @errorReported_of_misc client conn rx hsub
    rw [errorLoop_of_other hfamily hsearch, hmisc]
    exact ⟨_, rx₁, calls, rfl, hrep⟩

/-- An error is reported once, with its code and the data of the request, unless it is a search
error for a request that is cached and there is a callback for it. -/
theorem errorReported_iff (hlong : 10 ≤ aimBstreamEmpty rx.data)
    (hsub : rx.snac.subtype = 0x0001) (hfamily : ¬ NullFamily rx.snac.family) :
    ∃ rx' calls, dispatchError client aimModlist conn rx = some (rx', calls) ∧
      (ErrorReported conn rx rx' calls ↔ ¬ SearchErrorCalls conn rx) := by
  by_cases hsearch : SearchErrorCalls conn rx
  · obtain ⟨ret, rx₁, calls, hloop, hnot⟩ :=
      @errorLoop_of_searchErrorCalls client conn rx hsub hsearch
    obtain ⟨rx', calls', hdispatch, hiff⟩ := dispatchError_reported_iff hlong hloop
    exact ⟨rx', calls', hdispatch, fun h => absurd (hiff.mp h) hnot, fun h => absurd hsearch h⟩
  · obtain ⟨ret, rx₁, calls, hloop, hrep⟩ :=
      @errorLoop_of_not_searchErrorCalls client conn rx hsub hfamily hsearch
    obtain ⟨rx', calls', hdispatch, hiff⟩ := dispatchError_reported_iff hlong hloop
    exact ⟨rx', calls', hdispatch, fun _ => hsearch, fun _ => hiff.mpr hrep⟩

end Reported

section Example

/-- A session with a callback for the errors of a family, one cached request, and an error for it:
code 16. -/
def errorRx (family : UInt8) : RxState :=
  let sess := (aimNewconn (aimSessionInit aimModlist) aimConnTypeBos (.connected 3 0)).2
  { sess := (aimConnAddhandler sess 1 family.toUInt16 0x0001 (some (.client 0)) 0).2
    snacs := (aimCachesnac family.toUInt16 0x0002 0 [97, 0] 0 aimInitsnachash).2
    data := ⟨[0, family, 0, 1, 0, 0, 0, 0, 0, 1, 0, 16], 0⟩ }

/-- Callbacks that return zero and do nothing else. -/
def zeroClient : ErrorClient where
  ret := fun _ => 0
  effect := fun _ rx => rx

/-- An error for a message. -/
theorem errorReported_message :
    ∃ rx' calls, dispatchError zeroClient aimModlist 1 (errorRx 4) = some (rx', calls) ∧
      ErrorReported 1 (errorRx 4) rx' calls := by
  obtain ⟨rx', calls, hdispatch, hiff⟩ :=
    @errorReported_iff zeroClient 1 (errorRx 4) (by decide) (by decide) (by decide)
  have hother : (errorRx 4).snac.family ≠ 0x000a := by decide
  exact ⟨rx', calls, hdispatch, hiff.mpr fun h => hother h.1⟩

/-- An error for a search: the callback is called with the address, and then again with the code
and a null pointer. -/
theorem not_errorReported_search :
    ¬ ∀ (client : ErrorClient) (conn : ConnPtr) (rx : RxState), 10 ≤ aimBstreamEmpty rx.data →
      rx.snac.subtype = 0x0001 → ¬ NullFamily rx.snac.family → ∀ rx' calls,
        dispatchError client aimModlist conn rx = some (rx', calls) →
          ErrorReported conn rx rx' calls := by
  intro h
  have hcalls : (dispatchError zeroClient aimModlist 1 (errorRx 10)).map (fun st =>
      (st.2.filter fun call => call.family = (errorRx 10).snac.family ∧ call.subtype = 0x0001).map
        fun call => (call.handler, call.args)) =
        some [(.client 0, .address (some [97, 0])), (.client 0, .error 16 none)] := by
    decide
  obtain ⟨⟨rx', calls⟩, hdispatch, hargs⟩ := Option.map_eq_some_iff.mp hcalls
  have hrep := h zeroClient 1 (errorRx 10) (by decide) (by decide) (by decide) rx' calls hdispatch
  have hcalled := hargs.symm.trans hrep.called
  revert hcalled
  decide

end Example

end Libfaim
