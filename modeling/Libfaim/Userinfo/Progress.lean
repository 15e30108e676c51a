import Libfaim.Progress
import Libfaim.Userinfo.Framing

/-!
# Lists of user info blocks (`missedcall` in `im.c`, `userlistchange` in `chat.c`)

Two handlers read user info blocks until their frame is at its end. `aim_extractuserinfo` moves to
positions computed from the lengths it reads, but none of them lies before the header of the TLV it
is in, and a position behind the end is refused. So it never goes back, and the length of the screen
name alone takes a byte (`aimExtractuserinfo_progress`). Where the model has no result, the handler
is left with none.
-/

namespace Libfaim

/-! ## One block -/

theorem moves_aimGetcapLoop (n : Nat) : ∀ flags, Moves (aimGetcapLoop n flags) := by
  induction n with
  | zero => exact fun flags => Moves.pure flags
  | succ n ih =>
    intro flags bs x bs' h
    rw [aimGetcapLoop] at h
    by_cases hempty : aimBstreamEmpty bs = 0
    · rw [if_pos hempty] at h
      cases h
      exact Onward.refl bs
    · rw [if_neg hempty] at h
      have hraw := forward_aimbsGetraw 0x10 bs
      generalize aimbsGetraw 0x10 bs = r at h hraw
      obtain ⟨cap, bs1⟩ := r
      cases cap with
      | none => cases h
      | some cap => exact hraw.trans (ih _ bs1 x bs' h)

theorem moves_aimGetcap (len : Nat) : Moves (aimGetcap len) := moves_aimGetcapLoop _ _

/-- A value that is one field of the stream. -/
theorem moves_field {α β : Type} {m : StateM AimBstream α} (hm : Forward m) (f : α → β) :
    Moves (do let x ← m; return f x) :=
  (Moves.lift hm).bind fun _ => Moves.pure _

theorem moves_extractuserinfoValue (type length : UInt16) (outinfo : AimUserinfo) :
    Moves (extractuserinfoValue type length outinfo) := by
  unfold extractuserinfoValue
  refine .ite (moves_field forward_aimbsGet16 _) ?_
  refine .ite (moves_field forward_aimbsGet32 _) ?_
  refine .ite (moves_field forward_aimbsGet32 _) ?_
  refine .ite (moves_field forward_aimbsGet16 _) ?_
  refine .ite (moves_field forward_aimbsGet32 _) ?_
  refine .ite ((Moves.lift forward_aimbsGet16).bind fun _ => moves_field forward_aimbsGet16 _) ?_
  refine .ite (moves_field forward_aimbsGet32 _) ?_
  refine .ite (moves_field (forward_aimbsGetrawbuf _) _) ?_
  refine .ite ((moves_aimGetcap _).bind fun _ => Moves.pure _) ?_
  refine .ite (Moves.pure _) ?_
  refine .ite (moves_field forward_aimbsGet32 _) ?_
  refine .ite (Moves.pure _) ?_
  refine .ite (Moves.pure _) ?_
  exact moves_field (forward_dumptlv _) _

/-- Moving to a position that is not before `bs` is going on from `bs`, also where it is refused. -/
theorem Onward.setpos {bs bs' : AimBstream} (h : Onward bs bs') (n : Nat) :
    Onward bs (aimBstreamSetpos (aimBstreamCurpos bs + n) bs').2 := by
  unfold aimBstreamCurpos
  by_cases hle : bs.offset + n ≤ bs'.len
  · have hlen := h.len_eq
    rw [aimBstreamSetpos_of_le hle]
    refine ⟨h.data_eq, Nat.le_add_right _ _, ?_⟩
    show bs.offset + n ≤ bs.offset + aimBstreamEmpty bs
    unfold aimBstreamEmpty
    omega
  · rw [aimBstreamSetpos_of_lt (Nat.not_le.mp hle)]
    exact h

theorem moves_extractuserinfoPass (outinfo : AimUserinfo) :
    Moves (extractuserinfoPass outinfo) := by
  refine (Moves.lift forward_aimbsGet16).bind fun type => ?_
  refine (Moves.lift forward_aimbsGet16).bind fun length => ?_
  intro bs x bs' h
  rw [stateT_get_bind] at h
  obtain ⟨outinfo', bs1, hvalue, hrest⟩ := stateT_bind_eq_some h
  have hmoved := moves_extractuserinfoValue type length outinfo bs outinfo' bs1 hvalue
  cases hrest
  exact hmoved.setpos length.toNat

theorem moves_aimExtractuserinfoLoop (tlvcnt : Nat) :
    ∀ outinfo, Moves (aimExtractuserinfoLoop tlvcnt outinfo) := by
  induction tlvcnt with
  | zero => exact fun outinfo => Moves.pure outinfo
  | succ tlvcnt ih => exact fun outinfo => (moves_extractuserinfoPass outinfo).bind ih

/-- Extracting a block never ends before where it started, and takes at least a byte of a stream
that is not empty: that of the length of the screen name. -/
theorem aimExtractuserinfo_onward {bs bs' : AimBstream} {x : AimUserinfo}
    (h : aimExtractuserinfo bs = some (x, bs')) :
    Onward bs bs' ∧ (0 < aimBstreamEmpty bs → bs.offset < bs'.offset) := by
  have htail : ∀ snlen : UInt8, Moves (do
      let sn ← aimbsGetrawbuf snlen.toNat
      let warnlevel ← aimbsGet16
      let tlvcnt ← aimbsGet16
      aimExtractuserinfoLoop tlvcnt.toNat { AimUserinfo.zero with sn, warnlevel }) := by
    intro snlen
    refine (Moves.lift (forward_aimbsGetrawbuf _)).bind fun sn => ?_
    refine (Moves.lift forward_aimbsGet16).bind fun warnlevel => ?_
    exact (Moves.lift forward_aimbsGet16).bind fun tlvcnt => moves_aimExtractuserinfoLoop _ _
  unfold aimExtractuserinfo at h
  exact ⟨(Moves.lift forward_aimbsGet8).bind htail bs x bs' h,
    Moves.bind_lt advances_aimbsGet8 htail h⟩

/-! ## Missed calls (group 4, type 10) -/

/-- What `missedcall` calls the client with. -/
structure MissedcallArgs where
  channel : UInt16
  userinfo : AimUserinfo
  nummissed : UInt16
  reason : UInt16

/-- What a pass of `missedcall` reads. -/
def missedcallArgs : StateT AimBstream Option MissedcallArgs := do
  let channel ← aimbsGet16
  let userinfo ← aimExtractuserinfo
  let nummissed ← aimbsGet16
  let reason ← aimbsGet16
  return { channel, userinfo, nummissed, reason }

/-- One pass of the loop of `missedcall`, with the calls of the client and what the last of them
returned. -/
def missedcallPass (userfunc : Option (MissedcallArgs → Int)) :
    AimBstream × List MissedcallArgs × Int →
      Loop.Pass (AimBstream × List MissedcallArgs × Int) (Option (List MissedcallArgs × Int))
  | (bs, calls, ret) =>
    if aimBstreamEmpty bs = 0 then .leave (some (calls, ret))
    else
      match missedcallArgs bs with
      | none => .leave none
      | some (args, bs) =>
        match userfunc with
        | some f => .again (bs, calls ++ [args], f args)
        | none => .again (bs, calls, ret)

/-- A pass takes at least a byte: a single byte is too short for the channel, and is left to the
user info block. -/
theorem missedcallArgs_onward {bs bs' : AimBstream} {args : MissedcallArgs}
    (hpos : 0 < aimBstreamEmpty bs) (h : missedcallArgs bs = some (args, bs')) :
    Onward bs bs' ∧ bs.offset < bs'.offset := by
  unfold missedcallArgs at h
  rw [stateT_lift_bind] at h
  obtain ⟨info, bs1, hinfo, hrest⟩ := stateT_bind_eq_some h
  obtain ⟨honward, hlt⟩ := aimExtractuserinfo_onward hinfo
  have htail : Onward bs1 bs' :=
    ((Moves.lift forward_aimbsGet16).bind fun _ => moves_field forward_aimbsGet16 _) bs1 args bs'
      hrest
  have honward' := honward.trans htail
  refine ⟨(forward_aimbsGet16 bs).trans honward', ?_⟩
  by_cases hone : aimBstreamEmpty bs = 1
  · rw [aimbsGet16_single hone] at hlt
    exact Nat.lt_of_lt_of_le (hlt hpos) htail.offset_le
  · have hmore : 2 ≤ aimBstreamEmpty bs := by omega
    exact Nat.lt_of_lt_of_le (advances_aimbsGet16 bs hmore) honward'.offset_le

theorem missedcallPass_consumes (userfunc : Option (MissedcallArgs → Int)) :
    Loop.Consumes (missedcallPass userfunc) bytesLeft := by
  refine .of_pass (fun ⟨bs, calls, ret⟩ hz => ⟨_, if_pos hz⟩) ?_
  rintro ⟨bs, calls, ret⟩
  rcases Nat.eq_zero_or_pos (aimBstreamEmpty bs) with hz | hpos
  · exact .inl ⟨_, if_pos hz⟩
  · unfold missedcallPass
    dsimp only
    rw [if_neg (Nat.ne_of_gt hpos)]
    cases hargs : missedcallArgs bs with
    | none => exact .inl ⟨_, rfl⟩
    | some p =>
      obtain ⟨args, bs'⟩ := p
      obtain ⟨honward, hlt⟩ := missedcallArgs_onward hpos hargs
      cases userfunc with
      | none => exact .inr ⟨_, rfl, honward.empty_lt hlt⟩
      | some f => exact .inr ⟨_, rfl, honward.empty_lt hlt⟩

/-! ## Changes of a chat room's users (group 14, types 3 and 4) -/

/-- One pass of the loop of `userlistchange`, with the blocks extracted so far. Their number is
`curcount`. -/
def userlistchangePass : AimBstream × List AimUserinfo →
    Loop.Pass (AimBstream × List AimUserinfo) (Option (List AimUserinfo))
  | (bs, userinfo) =>
    if aimBstreamEmpty bs = 0 then .leave (some userinfo)
    else
      match aimExtractuserinfo bs with
      | none => .leave none
      | some (info, bs) => .again (bs, userinfo ++ [info])

theorem userlistchangePass_consumes : Loop.Consumes userlistchangePass bytesLeft := by
  refine .of_pass (fun ⟨bs, userinfo⟩ hz => ⟨_, if_pos hz⟩) ?_
  rintro ⟨bs, userinfo⟩
  rcases Nat.eq_zero_or_pos (aimBstreamEmpty bs) with hz | hpos
  · exact .inl ⟨_, if_pos hz⟩
  · unfold userlistchangePass
    dsimp only
    rw [if_neg (Nat.ne_of_gt hpos)]
    cases hinfo : aimExtractuserinfo bs with
    | none => exact .inl ⟨_, rfl⟩
    | some p =>
      obtain ⟨info, bs'⟩ := p
      obtain ⟨honward, hlt⟩ := aimExtractuserinfo_onward hinfo
      exact .inr ⟨_, rfl, honward.empty_lt (hlt hpos)⟩

/-! ## Both -/

/-- Extracting a user info block never ends before the offset it started from and reads at least a
byte where there is one. So the loops of `missedcall` and `userlistchange` terminate on every
stream, and each has entered its body at most once for each byte there was: a body entered after
`n` passes is entered with bytes left, and `n` is less than the number of bytes at the start. -/
theorem extractuserinfo_progress :
    (∀ bs bs' x, aimExtractuserinfo bs = some (x, bs') →
      bs.offset ≤ bs'.offset ∧ (0 < aimBstreamEmpty bs → bs.offset < bs'.offset)) ∧
    (∀ userfunc s,
      Loop.Terminates (missedcallPass userfunc) s ∧
      ∀ n t, Loop.Passes (missedcallPass userfunc) s n t → 0 < bytesLeft t → n < bytesLeft s) ∧
    ∀ s,
      Loop.Terminates userlistchangePass s ∧
      ∀ n t, Loop.Passes userlistchangePass s n t → 0 < bytesLeft t → n < bytesLeft s := by
  refine ⟨?_, ?_, ?_⟩
  · intro bs bs' x h
    obtain ⟨honward, hlt⟩ := aimExtractuserinfo_onward h
    exact ⟨honward.offset_le, hlt⟩
  · intro userfunc s
    have h := missedcallPass_consumes userfunc
    exact ⟨h.terminates s, fun n t hp hpos => h.passes_lt hp hpos⟩
  · intro s
    have h := userlistchangePass_consumes
    exact ⟨h.terminates s, fun n t hp hpos => h.passes_lt hp hpos⟩

end Libfaim
