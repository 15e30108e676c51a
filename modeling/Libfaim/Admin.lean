import Libfaim.BStream.Progress
import Libfaim.Lib.Cursor

/-!
# Account administration (`admin.c`)

`infochange` takes any number of blocks, each with a number of TLVs, and hands every TLV to the
client.
-/

namespace Libfaim

/-- What the client's callback is given for one TLV. `change` is false for an information reply. -/
structure InfochangeCall where
  change : Bool
  perms : UInt16
  type : UInt16
  len : UInt16
  val : Option (List UInt8)
  str : Bool
  deriving DecidableEq, Repr

/-- The two types that are strings are read with `aimbs_getstr`. -/
def infochangeVal (str : Bool) (len : UInt16) : StateM AimBstream (Option (List UInt8)) :=
  if str then aimbsGetstr len.toNat else aimbsGetraw len.toNat

/-- The TLV that one pass of the inner loop reads. -/
def infochangeTlv (change : Bool) (perms : UInt16) : StateM AimBstream InfochangeCall := do
  let type ← aimbsGet16
  let len ← aimbsGet16
  let str : Bool := type = 0x0011 ∨ type = 0x0004
  let val ← infochangeVal str len
  return ⟨change, perms, type, len, val, str⟩

/-- One pass of the inner loop, with the `tlvcount` left and the calls made so far. -/
def infochangeTlvPass (change : Bool) (perms : UInt16) :
    AimBstream × UInt16 × List InfochangeCall →
      Loop.Pass (AimBstream × UInt16 × List InfochangeCall) (AimBstream × List InfochangeCall)
  | (bs, tlvcount, calls) =>
    if tlvcount ≠ 0 ∧ aimBstreamEmpty bs > 0 then
      let (call, bs) := infochangeTlv change perms bs
      .again (bs, tlvcount - 1, calls ++ [call])
    else .leave (bs, calls)

/-- One pass of the outer loop. -/
def infochangePass (change : Bool) : AimBstream × List InfochangeCall →
    Loop.Pass (AimBstream × List InfochangeCall) (List InfochangeCall)
  | (bs, calls) =>
    if aimBstreamEmpty bs > 0 then
      let (perms, bs) := aimbsGet16 bs
      let (tlvcount, bs) := aimbsGet16 bs
      match Loop.run (infochangeTlvPass change perms) (tlvcount.toNat + 1) (bs, tlvcount, calls) with
      | some s => .again s
      | none => .stuck
    else .leave calls

/-- `infochange`: the calls of the client's callback. -/
def infochange (subtype : UInt16) (bs : AimBstream) : Option (List InfochangeCall) :=
  Loop.run (infochangePass (subtype = 0x0005)) (aimBstreamEmpty bs + 1) (bs, [])

/-! ## Progress -/

section Progress

variable (change : Bool) (perms : UInt16)

theorem forward_infochangeVal (str : Bool) (len : UInt16) : Forward (infochangeVal str len) := by
  unfold infochangeVal
  split
  · exact forward_aimbsGetstr _
  · exact forward_aimbsGetraw _

theorem forward_infochangeTlv (change : Bool) (perms : UInt16) :
    Forward (infochangeTlv change perms) :=
  forward_aimbsGet16.bind fun _ => forward_aimbsGet16.bind fun _ =>
    (forward_infochangeVal _ _).bind fun _ => Forward.pure _

theorem advances_infochangeTlv (change : Bool) (perms : UInt16) :
    Advances 2 (infochangeTlv change perms) :=
  advances_aimbsGet16.bind fun _ => forward_aimbsGet16.bind fun _ =>
    (forward_infochangeVal _ _).bind fun _ => Forward.pure _

/-- A single byte is too short for a type and for a length, and no value is read. -/
theorem infochangeTlv_single {bs : AimBstream} (h : aimBstreamEmpty bs = 1) :
    infochangeTlv change perms bs = (⟨change, perms, 0, 0, some [], false⟩, bs) := by
  unfold infochangeTlv
  rw [stateM_bind, aimbsGet16_single h]
  dsimp only
  rw [stateM_bind, aimbsGet16_single h]
  rfl

/-- A pass of the inner loop takes a TLV, or the loop is left. -/
theorem infochangeTlvPass_cases (s : AimBstream × UInt16 × List InfochangeCall) :
    (s.2.1 ≠ 0 ∧ aimBstreamEmpty s.1 > 0 ∧ ∃ calls, infochangeTlvPass change perms s =
      .again ((infochangeTlv change perms s.1).2, s.2.1 - 1, calls)) ∨
    infochangeTlvPass change perms s = .leave (s.1, s.2.2) := by
  obtain ⟨bs, tlvcount, calls⟩ := s
  unfold infochangeTlvPass
  dsimp only
  by_cases h : tlvcount ≠ 0 ∧ aimBstreamEmpty bs > 0
  · rw [if_pos h]
    exact .inl ⟨h.1, h.2, _, rfl⟩
  · rw [if_neg h]
    exact .inr rfl

theorem infochangeTlvPass_again {s t : AimBstream × UInt16 × List InfochangeCall}
    (h : infochangeTlvPass change perms s = .again t) :
    0 < aimBstreamEmpty s.1 ∧ Onward s.1 t.1 ∧ t.2.1.toNat < s.2.1.toNat ∧
      (1 < aimBstreamEmpty s.1 → aimBstreamEmpty t.1 < aimBstreamEmpty s.1) ∧
      (aimBstreamEmpty s.1 = 1 → t.1 = s.1) := by
  rcases infochangeTlvPass_cases change perms s with
    ⟨hcount, hpos, calls, hb⟩ | hb
  · have honward := forward_infochangeTlv change perms s.1
    have hadvance := advances_infochangeTlv change perms s.1
    have hsingle : aimBstreamEmpty s.1 = 1 → (infochangeTlv change perms s.1).2 = s.1 :=
      fun hone => congrArg Prod.snd (infochangeTlv_single change perms hone)
    generalize (infochangeTlv change perms s.1).2 = bs' at hb honward hadvance hsingle
    rw [← Loop.Pass.again.inj (hb.symm.trans h)]
    refine ⟨hpos, honward, ?_, fun hmore => honward.empty_lt (hadvance hmore), hsingle⟩
    have hone : 0 < s.2.1.toNat := Nat.pos_of_ne_zero fun hz => hcount (UInt16.toNat_inj.mp hz)
    have hle : (1 : UInt16) ≤ s.2.1 := UInt16.le_iff_toNat_le.mpr hone
    show (s.2.1 - 1).toNat < s.2.1.toNat
    rw [UInt16.toNat_sub_of_le _ _ hle]
    exact Nat.sub_lt hone Nat.one_pos
  · rw [hb] at h
    nomatch h

theorem infochangeTlvPass_leave {s : AimBstream × UInt16 × List InfochangeCall}
    {r : AimBstream × List InfochangeCall}
    (h : infochangeTlvPass change perms s = .leave r) : r = (s.1, s.2.2) := by
  rcases infochangeTlvPass_cases change perms s with
    ⟨-, -, calls, hb⟩ | hb
  · rw [hb] at h
    nomatch h
  · exact (Loop.Pass.leave.inj (hb.symm.trans h)).symm

/-- The inner loop is left after a pass for each TLV announced, at the latest. -/
theorem infochangeTlv_run (bs : AimBstream) (tlvcount : UInt16) (calls : List InfochangeCall) :
    ∃ s, Loop.run (infochangeTlvPass change perms) (tlvcount.toNat + 1) (bs, tlvcount, calls) =
      some s ∧ Onward bs s.1 := by
  obtain ⟨s, hrun⟩ : ∃ s, Loop.run (infochangeTlvPass change perms) (tlvcount.toNat + 1)
      (bs, tlvcount, calls) = some s := Loop.run_of_measure
    (fun _ => True) (fun s => s.2.1.toNat)
    (fun s t _ hb => ⟨trivial, (infochangeTlvPass_again change perms hb).2.2.1⟩)
    (fun s _ hb => by
      rcases infochangeTlvPass_cases change perms s with
        ⟨-, -, calls, hb'⟩ | hb' <;>
      · rw [hb'] at hb
        nomatch hb)
    trivial (Nat.lt_succ_self _)
  refine ⟨s, hrun, ?_⟩
  refine Loop.run_inv (fun s => Onward bs s.1) (fun r => Onward bs r.1) ?_ ?_ (Onward.refl bs) hrun
  · exact fun s t hs hb => hs.trans (infochangeTlvPass_again change perms hb).2.1
  · intro s r hs hb
    rw [infochangeTlvPass_leave change perms hb]
    exact hs

/-- Once a single byte is left, it is still left when the inner loop ends. -/
theorem infochangeTlv_single_run {fuel : Nat} {s t : AimBstream × UInt16 × List InfochangeCall}
    {r : AimBstream × List InfochangeCall}
    (hrun : Loop.run (infochangeTlvPass change perms) fuel s = some r)
    (hreach : Loop.Reach (infochangeTlvPass change perms) s t) (hone : aimBstreamEmpty t.1 = 1) :
    aimBstreamEmpty r.1 = 1 := by
  obtain ⟨fuel', hrun'⟩ := hreach.run hrun
  refine Loop.run_inv (fun s => aimBstreamEmpty s.1 = 1) (fun r => aimBstreamEmpty r.1 = 1) ?_ ?_
    hone hrun'
  · intro s t hs hb
    rw [(infochangeTlvPass_again change perms hb).2.2.2.2 hs]
    exact hs
  · intro s r hs hb
    rw [infochangeTlvPass_leave change perms hb]
    exact hs

/-- A pass of the outer loop comes to the inner loop with the stream `bs2`. -/
theorem infochangePass_of_pos {perms tlvcount : UInt16} (bs : AimBstream) {bs1 bs2 : AimBstream}
    (h : aimBstreamEmpty bs > 0)
    (hperms : aimbsGet16 bs = (perms, bs1)) (hcount : aimbsGet16 bs1 = (tlvcount, bs2))
    (calls : List InfochangeCall) :
    ∃ s, infochangePass change (bs, calls) = .again s ∧
      Loop.run (infochangeTlvPass change perms) (tlvcount.toNat + 1) (bs2, tlvcount, calls) =
        some s ∧ Onward bs2 s.1 := by
  obtain ⟨s, hrun, honward⟩ := infochangeTlv_run change perms bs2 tlvcount calls
  refine ⟨s, ?_, hrun, honward⟩
  unfold infochangePass
  dsimp only
  rw [if_pos h, hperms]
  dsimp only
  rw [hcount]
  dsimp only
  rw [hrun]

theorem infochangePass_reads (change : Bool) :
    Loop.ReadsPairs (infochangePass change) fun s => aimBstreamEmpty s.1 where
  leave := fun ⟨_, calls⟩ h => ⟨calls, if_neg (Nat.not_lt.mpr (Nat.le_of_eq h))⟩
  again := by
    rintro ⟨bs, calls⟩ hmore
    obtain ⟨s, hb, -, honward⟩ := infochangePass_of_pos change bs
      (Nat.lt_of_succ_lt hmore) (Prod.ext rfl rfl) (Prod.ext rfl rfl) calls
    refine ⟨s, hb, ?_⟩
    have hall := (forward_aimbsGet16 bs).trans ((forward_aimbsGet16 _).trans honward)
    exact hall.empty_lt (Nat.lt_of_lt_of_le (advances_aimbsGet16 bs hmore)
      ((forward_aimbsGet16 _).trans honward).offset_le)
  single := by
    rintro ⟨bs, calls⟩ hone
    -- no TLV is announced, so the inner loop is left at once
    obtain ⟨s, hb, hrun, -⟩ := infochangePass_of_pos change bs
      (Nat.lt_of_lt_of_eq Nat.one_pos hone.symm) (aimbsGet16_single hone)
      (aimbsGet16_single hone) calls
    exact ⟨s, hb, infochangeTlv_single_run change 0 hrun .refl hone⟩

end Progress

/-- The outer loop, entered on `bs`, comes to an inner loop. -/
structure InfochangeInner (change : Bool) (bs : AimBstream) where
  head : AimBstream
  calls : List InfochangeCall
  reach : Loop.Reach (infochangePass change) (bs, []) (head, calls)
  nonempty : aimBstreamEmpty head > 0

namespace InfochangeInner

variable {change : Bool} {bs : AimBstream} (i : InfochangeInner change bs)

def perms : UInt16 := (aimbsGet16 i.head).1

/-- The state in which it is entered. -/
def start : AimBstream × UInt16 × List InfochangeCall :=
  ((aimbsGet16 (aimbsGet16 i.head).2).2, (aimbsGet16 (aimbsGet16 i.head).2).1, i.calls)

/-- Each of its passes reads something, where the outer loop never comes to a single byte. -/
theorem progresses
    (h : ¬ Loop.Strays (infochangePass change) (fun s => aimBstreamEmpty s.1) (bs, [])) :
    Loop.Progresses (infochangeTlvPass change i.perms) (fun s => aimBstreamEmpty s.1) i.start := by
  obtain ⟨s, hb, hrun, -⟩ := infochangePass_of_pos change i.head i.nonempty
    (show _ = (i.perms, (aimbsGet16 i.head).2) from rfl)
    (show _ = (i.start.2.1, i.start.1) from rfl) i.calls
  refine ⟨⟨_, s, hrun⟩, fun t u hreach hagain => ?_⟩
  obtain ⟨hpos, -, -, hlt, -⟩ := infochangeTlvPass_again change i.perms hagain
  by_cases hone : aimBstreamEmpty t.1 = 1
  · exact absurd ⟨s, i.reach.tail hb, infochangeTlv_single_run change i.perms hrun hreach hone⟩ h
  · exact hlt (by omega)

end InfochangeInner

end Libfaim
