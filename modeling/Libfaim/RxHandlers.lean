import Libfaim.RxQueue
import Libfaim.Tlv

/-!
# Dispatching received frames (`rxhandlers.c`)

`aim_rxdispatch` walks along the receive queue and gives each frame to handlers of the library's
modules or of the client. What such a function returns and what it does to the session is a
parameter of the model (`Client`); the calls made are kept on record. A call to a null handler has
no result, and neither has a dispatch that does not end.
-/

namespace Libfaim

/-- `aim_modsnac_t` -/
structure AimModsnac where
  family : UInt16
  subtype : UInt16
  flags : UInt16
  id : UInt32
  deriving DecidableEq, Repr

/-- A call of a handler during dispatch. `frame` is the address of the frame it is given. -/
inductive RxCall where
  /-- the callback for FLAP version frames -/
  | flapver (func frame : Nat)
  /-- a module, given the SNAC of a frame -/
  | snac (mod : AimModule) (frame : Nat) (snac : AimModsnac)
  /-- a module, given a frame that is not a SNAC, or a SNAC nobody took -/
  | nonsnac (mod : AimModule) (frame : Nat) (snac : AimModsnac)
  /-- the callback for connection errors -/
  | connerr (func frame : Nat) (code : UInt16) (msg : Option (List UInt8))
  deriving DecidableEq, Repr

/-- What the handlers return and do to the session. -/
structure Client where
  ret : RxCall → Int
  effect : RxCall → AimSession → AimSession

/-- A computation during the dispatch of one frame, with the calls made so far and what they
returned. -/
abbrev RxM := StateT (AimSession × List (RxCall × Int)) Option

/-- The `i`-th frame of the receive queue is changed in place. -/
def AimSession.modifyFrame (sess : AimSession) (i : Nat) (f : AimFrame → AimFrame) : AimSession :=
  { sess with queueIncoming := sess.queueIncoming.modify i f }

namespace RxM

def session : RxM AimSession := fun (sess, calls) => some (sess, sess, calls)

def modify (f : AimSession → AimSession) : RxM Unit := fun (sess, calls) =>
  some ((), f sess, calls)

/-- The dispatch has no result. -/
def stuck {α : Type} : RxM α := fun _ => none

/-- The `i`-th frame of the receive queue. -/
def frame (i : Nat) : RxM AimFrame := fun (sess, calls) =>
  sess.queueIncoming[i]?.map fun cur => (cur, sess, calls)

def setData (i : Nat) (data : AimBstream) : RxM Unit :=
  modify fun sess => sess.modifyFrame i fun cur => { cur with data := data }

/-- `cur->handled = v` -/
def setHandled (i : Nat) (v : UInt8) : RxM Unit :=
  modify fun sess => sess.modifyFrame i fun cur => { cur with handled := v }

def call (client : Client) (c : RxCall) : RxM Int := fun (sess, calls) =>
  some (client.ret c, client.effect c sess, calls ++ [(c, client.ret c)])

end RxM

/-! ## The modules -/

/-- The modules that `consumesnac` and `consumenonsnac` do not skip. -/
def AimModule.Takes (family : UInt16) (cur : AimModule) : Prop :=
  ¬ (cur.flags &&& aimModflagMultifamily = 0 ∧ cur.family ≠ family)

instance (family : UInt16) (cur : AimModule) : Decidable (cur.Takes family) :=
  inferInstanceAs (Decidable (¬ _))

/-- The loop over the modules in `consumesnac` and `consumenonsnac`. -/
def consumeLoop (client : Client) (mkCall : AimModule → RxCall) (family : UInt16) :
    List AimModule → RxM UInt8
  | [] => return 0
  | cur :: next =>
    if ¬ cur.Takes family then
      consumeLoop client mkCall family next
    else if cur.snachandler = none then RxM.stuck
    else do
      let ret ← RxM.call client (mkCall cur)
      if ret ≠ 0 then return 1 else consumeLoop client mkCall family next

theorem consumeLoop_cons {client : Client} {mkCall : AimModule → RxCall} {family : UInt16}
    {cur : AimModule} (next : List AimModule) (htakes : cur.Takes family)
    (hnull : cur.snachandler ≠ none) (sess : AimSession) (calls : List (RxCall × Int)) :
    consumeLoop client mkCall family (cur :: next) (sess, calls) =
      (if client.ret (mkCall cur) ≠ 0 then (pure 1 : RxM UInt8)
        else consumeLoop client mkCall family next)
        (client.effect (mkCall cur) sess, calls ++ [(mkCall cur, client.ret (mkCall cur))]) := by
  rw [consumeLoop, if_neg (not_not.mpr htakes), if_neg hnull]
  rfl

/-- The loop asks the handlers about its own modules only. -/
theorem consumeLoop_congr {client client' : Client} {mkCall : AimModule → RxCall} {family : UInt16}
    {mods : List AimModule} (h : ∀ mod ∈ mods, client.ret (mkCall mod) = client'.ret (mkCall mod) ∧
      client.effect (mkCall mod) = client'.effect (mkCall mod)) :
    consumeLoop client mkCall family mods = consumeLoop client' mkCall family mods := by
  induction mods with
  | nil => rfl
  | cons cur next ih =>
    have hnext := ih fun mod hmod => h mod (List.mem_cons_of_mem cur hmod)
    obtain ⟨hret, heffect⟩ := h cur List.mem_cons_self
    have hcall : RxM.call client (mkCall cur) = RxM.call client' (mkCall cur) := by
      unfold RxM.call
      rw [hret, heffect]
    unfold consumeLoop
    rw [hnext, hcall]

/-- The SNAC header `consumesnac` reads. -/
def getModsnac : StateM AimBstream AimModsnac := do
  let family ← aimbsGet16
  let subtype ← aimbsGet16
  let flags ← aimbsGet16
  let id ← aimbsGet32
  return ⟨family, subtype, flags, id⟩

def consumesnac (client : Client) (i : Nat) : RxM UInt8 := do
  let rx ← RxM.frame i
  if aimBstreamEmpty rx.data < 10 then return 0
  else
    let (snac, data) := getModsnac rx.data
    RxM.setData i data
    let sess ← RxM.session
    consumeLoop client (.snac · rx.ptr snac) snac.family sess.modlistv

def consumenonsnac (client : Client) (i : Nat) (family subtype : UInt16) : RxM UInt8 := do
  let rx ← RxM.frame i
  let sess ← RxM.session
  consumeLoop client (.nonsnac · rx.ptr ⟨family, subtype, 0, 0⟩) family sess.modlistv

/-! ## Callbacks -/

/-- The call `negchan_middle` makes for a connection error, with what it found in the frame. -/
def connerrCall (func frame : Nat) (tlvlist : List AimTlv) : RxCall :=
  let code := if aimGettlv tlvlist 0x0009 1 ≠ none then aimGettlv16 tlvlist 0x0009 1 else 0
  let msg := if aimGettlv tlvlist 0x000b 1 ≠ none then aimGettlvStr tlvlist 0x000b 1 else none
  .connerr func frame code msg

/-- `negchan_middle` -/
def negchanMiddle (client : Client) (i : Nat) : RxM Int := do
  let fr ← RxM.frame i
  let sess ← RxM.session
  if aimBstreamEmpty fr.data = 0 then return 1
  else if (sess.conn fr.conn).type = aimConnTypeAuth then do
    let ret ← consumenonsnac client i 0x0017 0x0003
    return ret.toNat
  else
    match aimReadtlvchain fr.data with
    | none => RxM.stuck
    | some (tlvlist, data) => do
      RxM.setData i data
      match aimCallhandler sess fr.conn aimCbFamSpecial aimCbSpecialConnerr with
      | none => return 1
      | some .bleck => return 1
      | some (.client func) => RxM.call client (connerrCall func fr.ptr tlvlist)

/-- `aim_callhandler_noparam`, as it is called for FLAP version frames. -/
def aimCallhandlerNoparam (client : Client) (i : Nat) : RxM Int := do
  let ptr ← RxM.frame i
  let sess ← RxM.session
  match aimCallhandler sess ptr.conn aimCbFamSpecial aimCbSpecialFlapver with
  | none => return 1
  | some .bleck => return 1
  | some (.client func) => RxM.call client (.flapver func ptr.ptr)

/-! ## The dispatch -/

/-- "last chance!" -/
def lastChance (client : Client) (i : Nat) : RxM Unit := do
  let cur ← RxM.frame i
  if cur.handled = 0 then do
    let _ ← consumenonsnac client i 0xffff 0xffff
    RxM.setHandled i 1
  else return ()

/-- The body of the loop of `aim_rxdispatch` for the `i`-th frame `cur`. -/
def rxdispatchFrame (client : Client) (i : Nat) (cur : AimFrame) : RxM Unit := do
  let sess ← RxM.session
  let type := (sess.conn cur.conn).type
  if cur.handled ≠ 0 then return ()
  else if (¬ cur.hdr.isFlap ∧ type ≠ aimConnTypeRendezvous) ∨
      (cur.hdr.isFlap ∧ type = aimConnTypeRendezvous) then RxM.setHandled i 1
  else if type = aimConnTypeRendezvous then RxM.setHandled i 1
  else if type = aimConnTypeRendezvousOut then RxM.setHandled i 1
  else if cur.hdr.flapType = 0x01 then do
    let ret ← aimCallhandlerNoparam client i
    RxM.setHandled i (UInt8.ofInt ret)
  else if cur.hdr.flapType = 0x02 then do
    let ret ← consumesnac client i
    RxM.setHandled i ret
    if ret ≠ 0 then return () else lastChance client i
  else if cur.hdr.flapType = 0x04 then do
    let ret ← negchanMiddle client i
    RxM.setHandled i (UInt8.ofInt ret)
  else lastChance client i

/-- A frame's turn in the dispatch: the session and the frame before it, the calls made with what
they returned, and the session after it. -/
structure Turn where
  before : AimSession
  frame : AimFrame
  calls : List (RxCall × Int)
  after : AimSession

/-- The state of the loop: the index of `cur`, the session, and the turns so far. -/
abbrev DispatchState := Nat × AimSession × List Turn

/-- One pass of the loop of `aim_rxdispatch`. -/
def rxdispatchPass (client : Client) :
    DispatchState → Loop.Pass DispatchState (AimSession × List Turn)
  | (i, sess, turns) =>
    match sess.queueIncoming[i]? with
    | none => .leave (sess, turns)
    | some cur =>
      match rxdispatchFrame client i cur (sess, []) with
      | none => .stuck
      | some ((), sess', calls) => .again (i + 1, sess', turns ++ [⟨sess, cur, calls, sess'⟩])

/-- `aim_rxdispatch`, given enough passes to end. -/
def aimRxdispatch (client : Client) (fuel : Nat) (sess : AimSession) :
    Option (AimSession × List Turn) :=
  (Loop.run (rxdispatchPass client) fuel (0, sess, [])).map fun (sess, turns) =>
    (aimPurgeRxqueue sess, turns)

end Libfaim
