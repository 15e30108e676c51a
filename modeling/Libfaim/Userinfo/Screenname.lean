import Libfaim.Userinfo

/-!
# The screen name in memory (`info.c`)

`aim_extractuserinfo` clears the structure and has `aimbs_getrawbuf` copy the name to `outinfo->sn`,
which is the first field and has `MAXSNLEN + 1` bytes. The length comes from the packet and only the
stream bounds the copy, so the name stays in its field exactly where the length byte is no larger
than the field or than what is left of the stream (`snContained_iff`).
-/

namespace Libfaim

/-- The bytes in memory from the one that `outinfo` points to. -/
abbrev Memory := Nat → UInt8

/-- `memset(outinfo, 0x00, n)` -/
def Memory.clear (mem : Memory) (n : Nat) : Memory := fun i => if i < n then 0 else mem i

/-- `memcpy(outinfo, v, v.length)` -/
def Memory.copy (mem : Memory) (v : List UInt8) : Memory := fun i => (v[i]?).getD (mem i)

/-- `aim_extractuserinfo` up to the copy of the screen name: the bytes that are copied, and the
memory before and after that. The other fields have `behind` bytes. -/
def extractuserinfoSn (behind : Nat) (mem : Memory) :
    StateM AimBstream (List UInt8 × Memory × Memory) := do
  let mem := mem.clear (maxsnlen + 1 + behind)
  let snlen ← aimbsGet8
  let sn ← aimbsGetrawbuf snlen.toNat
  return (sn, mem, mem.copy sn)

/-- What the copy of the screen name has to keep to: its field, with a NUL at the end. -/
structure SnContained (sn : List UInt8) (before after : Memory) : Prop where
  length_le : sn.length ≤ maxsnlen
  terminated : ∃ i ≤ maxsnlen, after i = 0
  frame : ∀ i > maxsnlen, after i = before i

section Copy

variable {mem : Memory} {v : List UInt8} {i : Nat}

theorem Memory.copy_of_le (h : v.length ≤ i) : mem.copy v i = mem i := by
  rw [Memory.copy, List.getElem?_eq_none h, Option.getD_none]

theorem Memory.clear_of_lt {n : Nat} (h : i < n) : mem.clear n i = 0 := if_pos h

end Copy

/-! ## The name that is returned -/

/-- Whatever the extraction returns has the screen name `sn`. -/
def KeepsSn (sn : List UInt8) (m : StateT AimBstream Option AimUserinfo) : Prop :=
  ∀ bs r, m bs = some r → r.1.sn = sn

section KeepsSn

variable {α : Type} {sn : List UInt8}

theorem KeepsSn.pure {outinfo : AimUserinfo} (h : outinfo.sn = sn) :
    KeepsSn sn (pure outinfo) := by
  intro bs r hr
  rw [← Option.some.inj hr]
  exact h

theorem KeepsSn.bind {m : StateT AimBstream Option α}
    {k : α → StateT AimBstream Option AimUserinfo} (h : ∀ x, KeepsSn sn (k x)) :
    KeepsSn sn (m >>= k) := by
  intro bs r hr
  obtain ⟨⟨x, bs'⟩, -, hk⟩ := Option.bind_eq_some_iff.mp hr
  exact h x bs' r hk

theorem KeepsSn.ite {c : Prop} [Decidable c] {m m' : StateT AimBstream Option AimUserinfo}
    (h : KeepsSn sn m) (h' : KeepsSn sn m') : KeepsSn sn (if c then m else m') := by
  by_cases hc : c
  · rwa [if_pos hc]
  · rwa [if_neg hc]

theorem keepsSn_value (type length : UInt16) {outinfo : AimUserinfo} (h : outinfo.sn = sn) :
    KeepsSn sn (extractuserinfoValue type length outinfo) := by
  unfold extractuserinfoValue
  repeat' apply KeepsSn.ite
  all_goals first
    | exact .pure h
    | exact .bind fun _ => .pure h
    | exact .bind fun _ => .bind fun _ => .pure h

theorem KeepsSn.andThen {m : StateT AimBstream Option AimUserinfo}
    {k : AimUserinfo → StateT AimBstream Option AimUserinfo} (hm : KeepsSn sn m)
    (h : ∀ info : AimUserinfo, info.sn = sn → KeepsSn sn (k info)) : KeepsSn sn (m >>= k) := by
  intro bs r hr
  obtain ⟨⟨info, bs'⟩, hinfo, hk⟩ := Option.bind_eq_some_iff.mp hr
  exact h info (hm bs _ hinfo) bs' r hk

theorem keepsSn_loop (tlvcnt : Nat) {outinfo : AimUserinfo} (h : outinfo.sn = sn) :
    KeepsSn sn (aimExtractuserinfoLoop tlvcnt outinfo) := by
  induction tlvcnt generalizing outinfo with
  | zero => exact .pure h
  | succ tlvcnt ih =>
    have hpass : KeepsSn sn (extractuserinfoPass outinfo) :=
      .bind fun _ => .bind fun _ => .bind fun _ =>
        .andThen (keepsSn_value _ _ h) fun info hinfo => .bind fun _ => .pure hinfo
    exact hpass.andThen fun info hinfo => ih hinfo

end KeepsSn

/-- The bytes that are copied are the ones that the function returns as the name. -/
theorem aimExtractuserinfo_sn {behind : Nat} {mem : Memory} {bs bs' : AimBstream}
    {outinfo : AimUserinfo} (h : aimExtractuserinfo bs = some (outinfo, bs')) :
    outinfo.sn = (extractuserinfoSn behind mem bs).1.1 := by
  have hcopied : (extractuserinfoSn behind mem bs).1.1 =
      (aimbsGetrawbuf (aimbsGet8 bs).1.toNat (aimbsGet8 bs).2).1 := rfl
  unfold aimExtractuserinfo at h
  rw [stateT_lift_bind, stateT_lift_bind] at h
  rw [hcopied]
  generalize (aimbsGetrawbuf (aimbsGet8 bs).1.toNat (aimbsGet8 bs).2).1 = sn at h ⊢
  have hkeeps : KeepsSn sn (do
      let warnlevel ← aimbsGet16
      let tlvcnt ← aimbsGet16
      aimExtractuserinfoLoop tlvcnt.toNat
        { AimUserinfo.zero with sn := sn, warnlevel := warnlevel }) :=
    .bind fun _ => .bind fun _ => keepsSn_loop _ rfl
  exact hkeeps _ _ h

/-! ## Where the name goes -/

/-- The screen name is kept in its field exactly where its length byte is at most `MAXSNLEN`, or
more than the number of bytes behind it. -/
theorem snContained_iff (behind : Nat) (mem : Memory) (bs : AimBstream) :
    SnContained (extractuserinfoSn behind mem bs).1.1 (extractuserinfoSn behind mem bs).1.2.1
        (extractuserinfoSn behind mem bs).1.2.2 ↔
      (aimbsGet8 bs).1.toNat ≤ maxsnlen ∨
        aimBstreamEmpty (aimbsGet8 bs).2 < (aimbsGet8 bs).1.toNat := by
  have hlen : (extractuserinfoSn behind mem bs).1.1.length =
      if aimBstreamEmpty (aimbsGet8 bs).2 < (aimbsGet8 bs).1.toNat then 0
      else (aimbsGet8 bs).1.toNat := by
    show (aimbsGetrawbuf (aimbsGet8 bs).1.toNat (aimbsGet8 bs).2).1.length = _
    unfold aimbsGetrawbuf
    by_cases hleft : aimBstreamEmpty (aimbsGet8 bs).2 < (aimbsGet8 bs).1.toNat
    · rw [if_pos hleft, if_pos hleft, List.length_nil]
    · rw [if_neg hleft, if_neg hleft, List.length_take, AimBstream.length_rest]
      omega
  constructor
  · intro h
    have hle := h.length_le
    rw [hlen] at hle
    by_cases hleft : aimBstreamEmpty (aimbsGet8 bs).2 < (aimbsGet8 bs).1.toNat
    · exact Or.inr hleft
    · rw [if_neg hleft] at hle
      exact Or.inl hle
  · intro h
    have hle : (extractuserinfoSn behind mem bs).1.1.length ≤ maxsnlen := by
      rw [hlen]
      rcases h with hshort | hleft
      · split
        · exact Nat.zero_le _
        · exact hshort
      · rw [if_pos hleft]
        exact Nat.zero_le _
    have hafter : (extractuserinfoSn behind mem bs).1.2.2 =
        (mem.clear (maxsnlen + 1 + behind)).copy (extractuserinfoSn behind mem bs).1.1 := rfl
    refine ⟨hle, ⟨maxsnlen, Nat.le_refl _, ?_⟩, ?_⟩
    · rw [hafter, Memory.copy_of_le hle, Memory.clear_of_lt (by omega)]
    · intro i hi
      rw [hafter, Memory.copy_of_le (by omega)]
      rfl

/-- A name of 33 bytes fills the field to the end, and there is no NUL behind it. -/
theorem not_snContained_long : ¬ ∀ (behind : Nat) (mem : Memory) (bs : AimBstream),
    SnContained (extractuserinfoSn behind mem bs).1.1 (extractuserinfoSn behind mem bs).1.2.1
      (extractuserinfoSn behind mem bs).1.2.2 := by
  intro h
  have hle := (h 80 (fun _ => 0) ⟨0x21 :: List.replicate 33 0x61, 0⟩).length_le
  exact absurd hle (by decide)

end Libfaim
