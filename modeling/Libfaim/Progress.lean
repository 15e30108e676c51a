import Libfaim.Admin
import Libfaim.Im.Bounds
import Libfaim.Im.Rendezvous
import Libfaim.Service

/-!
# Loops that run while the stream is not empty

`hostonline`, `infochange`, `incomingim_ch1` and `incomingim_ch2_buddylist` take two bytes or more
in a pass, and a read that finds a single byte does nothing. So a loop of theirs that comes to its
head with one byte left never moves again, and otherwise every pass moves on
(`inPlace_progresses_iff`). The sections of a message start with single bytes, and
`incomingim_ch1_parsemsgs` always gets to the end.
-/

namespace Libfaim

/-- How much the loops have left, where the stream is the first part of their state. -/
def bytesLeft {α : Type} (s : AimBstream × α) : Nat := aimBstreamEmpty s.1

/-! ## The TLVs of channel 1 -/

theorem incomingimCh1Pass_reads : Loop.ReadsPairs incomingimCh1Pass bytesLeft where
  leave := fun ⟨bs, args⟩ h => ⟨(args, bs), incomingimCh1Pass_of_empty h args⟩
  again := by
    rintro ⟨bs, args⟩ hmore
    obtain ⟨bs', args', hb, honward, hlt, -⟩ :=
      incomingimCh1Pass_of_pos bs (Nat.lt_of_succ_lt hmore) args
    exact ⟨_, hb, honward.empty_lt (hlt hmore)⟩
  single := by
    rintro ⟨bs, args⟩ hone
    obtain ⟨bs', args', hb, -, -, heq⟩ :=
      incomingimCh1Pass_of_pos bs (Nat.lt_of_lt_of_eq Nat.one_pos hone.symm) args
    rw [heq hone] at hb
    exact ⟨_, hb, hone⟩

/-! ## The groups of a buddy list -/

theorem forward_buddylistBuddies (numb : Nat) : Forward (buddylistBuddies numb) := by
  induction numb with
  | zero => exact Forward.pure _
  | succ numb ih =>
    exact forward_aimbsGet16.bind fun _ => (forward_aimbsGetstr _).bind fun _ =>
      ih.bind fun _ => Forward.pure _

theorem forward_buddylistGroup : Forward buddylistGroup :=
  forward_aimbsGet16.bind fun _ => (forward_aimbsGetstr _).bind fun _ =>
    forward_aimbsGet16.bind fun _ => (forward_buddylistBuddies _).bind fun _ => Forward.pure _

theorem advances_buddylistGroup : Advances 2 buddylistGroup :=
  advances_aimbsGet16.bind fun _ => (forward_aimbsGetstr _).bind fun _ =>
    forward_aimbsGet16.bind fun _ => (forward_buddylistBuddies _).bind fun _ => Forward.pure _

/-- A single byte is too short for the length of the name and for the number of buddies. -/
theorem buddylistGroup_single {bs : AimBstream} (h : aimBstreamEmpty bs = 1) :
    buddylistGroup bs = ((some [], []), bs) := by
  unfold buddylistGroup
  rw [stateM_bind, aimbsGet16_single h]
  dsimp only
  rw [stateM_bind, show aimbsGetstr (0 : UInt16).toNat bs = (some [], bs) from aimbsGetraw_zero bs]
  dsimp only
  rw [stateM_bind, aimbsGet16_single h]
  rfl

theorem incomingimCh2BuddylistPass_of_pos {bs : AimBstream} (h : aimBstreamEmpty bs > 0) :
    incomingimCh2BuddylistPass bs = .again (buddylistGroup bs).2 := if_pos h

theorem incomingimCh2BuddylistPass_reads :
    Loop.ReadsPairs incomingimCh2BuddylistPass aimBstreamEmpty where
  leave := fun bs h => ⟨bs, if_neg (Nat.not_lt.mpr (Nat.le_of_eq h))⟩
  again := fun bs hmore => ⟨_, incomingimCh2BuddylistPass_of_pos (Nat.lt_of_succ_lt hmore),
    (forward_buddylistGroup bs).empty_lt (advances_buddylistGroup bs hmore)⟩
  single := by
    intro bs hone
    have hb := incomingimCh2BuddylistPass_of_pos (Nat.lt_of_lt_of_eq Nat.one_pos hone.symm)
    rw [buddylistGroup_single hone] at hb
    exact ⟨bs, hb, hone⟩

/-! ## All of them -/

/-- Entered on `bs`, the loops terminate with every pass moving on exactly when they never come to
their head with a single byte left. That of `hostonline` does not when the number of bytes is even,
and the loop over the sections never does. -/
theorem inPlace_progresses_iff (bs : AimBstream) :
    (∀ families groups, Loop.Progresses hostonlinePass bytesLeft (bs, families, groups) ↔
      aimBstreamEmpty bs % 2 = 0) ∧
    (∀ change, (Loop.Progresses (infochangePass change) bytesLeft (bs, []) ∧
        ∀ i : InfochangeInner change bs,
          Loop.Progresses (infochangeTlvPass change i.perms) bytesLeft i.start) ↔
      ¬ Loop.Strays (infochangePass change) bytesLeft (bs, [])) ∧
    (∀ args, Loop.Progresses incomingimCh1Pass bytesLeft (bs, args) ↔
      ¬ Loop.Strays incomingimCh1Pass bytesLeft (bs, args)) ∧
    (∀ data len mpmsg, Loop.Progresses parsemsgsPass bytesLeft (aimBstreamInit data len, mpmsg)) ∧
    (Loop.Progresses incomingimCh2BuddylistPass aimBstreamEmpty bs ↔
      ¬ Loop.Strays incomingimCh2BuddylistPass aimBstreamEmpty bs) := by
  refine ⟨fun families groups => ?_, fun change => ⟨fun h => ?_, fun h => ?_⟩, fun args => ?_, ?_, ?_⟩
  · have hodd := hostonline_strays_iff bs families groups
    rw [show Loop.Progresses hostonlinePass bytesLeft (bs, families, groups) ↔ _ from
      hostonlinePass_reads.progresses_iff _, hodd]
    omega
  · exact ((infochangePass_reads change).progresses_iff _).mp h.1
  · exact ⟨((infochangePass_reads change).progresses_iff _).mpr h, fun i => i.progresses h⟩
  · exact incomingimCh1Pass_reads.progresses_iff _
  · exact fun data len mpmsg => parsemsgsPass_reads.progresses _
  · exact incomingimCh2BuddylistPass_reads.progresses_iff bs

/-- A list of families of a single byte is read for ever. -/
theorem hostonline_single_hangs : ¬ Loop.Terminates hostonlinePass (⟨[0x00], 0⟩, [], []) :=
  hostonlinePass_reads.not_terminates (s := (⟨[0x00], 0⟩, [], [])) rfl

end Libfaim
