import Libfaim.BStream.Progress
import Libfaim.Lib.Cursor

/-!
# Generic service controls (`service.c`)

`hostonline` takes the families the host offers, two bytes each, until the frame is at its end.
-/

namespace Libfaim

/-! ## Host online (group 1, type 3) -/

/-- `aim_conn_addgroup`: a family goes to the front of the groups of the connection. -/
def aimConnAddgroup (groups : List UInt16) (group : UInt16) : List UInt16 := group :: groups

/-- One pass of the loop of `hostonline`, with the `families` so far and the groups of the
connection. -/
def hostonlinePass : AimBstream × List UInt16 × List UInt16 →
    Loop.Pass (AimBstream × List UInt16 × List UInt16) (List UInt16 × List UInt16)
  | (bs, families, groups) =>
    if aimBstreamEmpty bs > 0 then
      let (family, bs) := aimbsGet16 bs
      .again (bs, families ++ [family], aimConnAddgroup groups family)
    else .leave (families, groups)

/-- `hostonline` up to `aim_setversions`: the groups it leaves the connection with. -/
def hostonline (bs : AimBstream) (groups : List UInt16) : Option (List UInt16) :=
  (Loop.run hostonlinePass (aimBstreamEmpty bs + 1) (bs, [], groups)).map (·.2)

theorem hostonlinePass_of_pos (bs : AimBstream) (h : aimBstreamEmpty bs > 0)
    (families groups : List UInt16) :
    ∃ families' groups', hostonlinePass (bs, families, groups) =
      .again ((aimbsGet16 bs).2, families', groups') := by
  unfold hostonlinePass
  dsimp only
  rw [if_pos h]
  exact ⟨_, _, rfl⟩

theorem hostonlinePass_reads :
    Loop.ReadsPairs hostonlinePass fun s => aimBstreamEmpty s.1 where
  leave := fun ⟨_, families, groups⟩ h =>
    ⟨(families, groups), if_neg (Nat.not_lt.mpr (Nat.le_of_eq h))⟩
  again := by
    rintro ⟨bs, families, groups⟩ hmore
    obtain ⟨families', groups', hb⟩ :=
      hostonlinePass_of_pos bs (Nat.lt_of_succ_lt hmore) families groups
    exact ⟨_, hb, (forward_aimbsGet16 bs).empty_lt (advances_aimbsGet16 bs hmore)⟩
  single := by
    rintro ⟨bs, families, groups⟩ hone
    obtain ⟨families', groups', hb⟩ :=
      hostonlinePass_of_pos bs (Nat.lt_of_lt_of_eq Nat.one_pos hone.symm) families groups
    rw [aimbsGet16_single hone] at hb
    exact ⟨_, hb, hone⟩

/-- The loop comes to a single byte exactly when the number of bytes is odd. -/
theorem hostonline_strays_iff (bs : AimBstream) (families groups : List UInt16) :
    Loop.Strays hostonlinePass (fun s => aimBstreamEmpty s.1) (bs, families, groups) ↔
      aimBstreamEmpty bs % 2 = 1 := by
  constructor
  · rintro ⟨s, hreach, hone⟩
    have hparity : aimBstreamEmpty s.1 % 2 = aimBstreamEmpty bs % 2 := by
      refine hreach.inv (P := fun s => aimBstreamEmpty s.1 % 2 = aimBstreamEmpty bs % 2) ?_ rfl
      rintro ⟨bs1, families1, groups1⟩ t heq hb
      obtain hz | hone | hmore : aimBstreamEmpty bs1 = 0 ∨ aimBstreamEmpty bs1 = 1 ∨
        1 < aimBstreamEmpty bs1 := by omega
      · obtain ⟨r, hr⟩ := hostonlinePass_reads.leave (bs1, families1, groups1) hz
        rw [hr] at hb
        nomatch hb
      · obtain ⟨families', groups', hb'⟩ :=
          hostonlinePass_of_pos bs1 (by omega) families1 groups1
        rw [← Loop.Pass.again.inj (hb'.symm.trans hb), aimbsGet16_single hone]
        exact heq
      · obtain ⟨families', groups', hb'⟩ :=
          hostonlinePass_of_pos bs1 (by omega) families1 groups1
        have htwo := aimbsGet16_empty hmore
        rw [← Loop.Pass.again.inj (hb'.symm.trans hb)]
        show aimBstreamEmpty (aimbsGet16 bs1).2 % 2 = _
        rw [← heq, ← htwo, Nat.add_mod_right]
    have hone' : aimBstreamEmpty s.1 = 1 := hone
    rw [← hparity, hone']
  · intro hodd
    induction hn : aimBstreamEmpty bs using Nat.strongRecOn generalizing bs families groups with
    | _ n ih =>
      by_cases hone : n = 1
      · exact ⟨_, .refl, hn.trans hone⟩
      · have hmore : 1 < aimBstreamEmpty bs := by omega
        have htwo := aimbsGet16_empty hmore
        obtain ⟨families', groups', hb⟩ :=
          hostonlinePass_of_pos bs (by omega) families groups
        obtain ⟨s, hreach, hs⟩ := ih (aimBstreamEmpty (aimbsGet16 bs).2) (by omega)
          (aimbsGet16 bs).2 families' groups' (by omega) rfl
        exact ⟨s, hreach.head hb, hs⟩

end Libfaim
