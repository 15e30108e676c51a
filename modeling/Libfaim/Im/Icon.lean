import Libfaim.BStream

/-!
# The checksum of an icon (`im.c`)

`aim_iconsum` adds the little-endian words of an icon up in 32 bits and then adds the two halves of
the sum. The carries that get lost on the way do not hide a byte: whatever the icon and its length,
another byte in one place gives another checksum (`aimIconsum_set_iff`).
-/

namespace Libfaim

/-- The loop of `aim_iconsum`, and the byte that may be left over. -/
def iconsumLoop : List UInt8 → UInt32 → UInt32
  | lo :: hi :: buf, sum => iconsumLoop buf (sum + ((hi.toUInt32 <<< 8) + lo.toUInt32))
  | [lo], sum => sum + lo.toUInt32
  | [], sum => sum

def aimIconsum (buf : List UInt8) : UInt16 :=
  let sum := iconsumLoop buf 0
  (((sum &&& 0xffff0000) >>> 16) + (sum &&& 0x0000ffff)).toUInt16

/-- The sum without a bound. -/
def iconTotal : List UInt8 → Nat
  | lo :: hi :: buf => hi.toNat * 256 + lo.toNat + iconTotal buf
  | [lo] => lo.toNat
  | [] => 0

/-- What a byte counts for in its place. -/
def iconWeight (i : Nat) : Nat := if i % 2 = 0 then 1 else 256

theorem iconWeight_add_two (i : Nat) : iconWeight (i + 2) = iconWeight i := by
  rw [iconWeight, iconWeight, Nat.add_mod_right]

theorem iconsumLoop_toNat (buf : List UInt8) (sum : UInt32) :
    (iconsumLoop buf sum).toNat = (sum.toNat + iconTotal buf) % 2 ^ 32 := by
  induction buf using iconTotal.induct generalizing sum with
  | case1 lo hi buf ih =>
    have hlo := lo.toNat_lt
    have hhi := hi.toNat_lt
    have hword : ((hi.toUInt32 <<< 8) + lo.toUInt32).toNat = hi.toNat * 256 + lo.toNat := by
      simp [UInt32.toNat_add, UInt32.toNat_shiftLeft, Nat.shiftLeft_eq]
      omega
    rw [iconsumLoop, ih, UInt32.toNat_add, hword, iconTotal, Nat.mod_add_mod, Nat.add_assoc]
  | case2 lo =>
    rw [iconsumLoop, UInt32.toNat_add, UInt8.toNat_toUInt32, iconTotal]
  | case3 =>
    rw [iconsumLoop, iconTotal, Nat.add_zero, Nat.mod_eq_of_lt sum.toNat_lt]

/-- The halves of a sum. -/
def foldHalves (sum : Nat) : Nat := (sum / 65536 + sum % 65536) % 65536

theorem aimIconsum_toNat (buf : List UInt8) :
    (aimIconsum buf).toNat = foldHalves (iconTotal buf % 2 ^ 32) := by
  have hsum : (iconsumLoop buf 0).toNat = iconTotal buf % 2 ^ 32 := by
    rw [iconsumLoop_toNat, UInt32.toNat_zero, Nat.zero_add]
  have hhigh : (((iconsumLoop buf 0) &&& 0xffff0000) >>> 16).toNat =
      (iconsumLoop buf 0).toNat / 65536 := by
    have hlt := (iconsumLoop buf 0).toNat_lt
    have hmask : ((iconsumLoop buf 0).toNat &&& 0xffff0000) >>> 16 =
        (iconsumLoop buf 0).toNat / 65536 % 65536 := by
      rw [Nat.shiftRight_and_distrib, Nat.shiftRight_eq_div_pow]
      exact Nat.and_two_pow_sub_one_eq_mod _ 16
    rw [UInt32.toNat_shiftRight, UInt32.toNat_and]
    refine hmask.trans (Nat.mod_eq_of_lt ?_)
    omega
  have hlow : ((iconsumLoop buf 0) &&& 0x0000ffff).toNat =
      (iconsumLoop buf 0).toNat % 65536 := by
    rw [UInt32.toNat_and]
    exact Nat.and_two_pow_sub_one_eq_mod _ 16
  rw [aimIconsum, foldHalves, UInt32.toNat_toUInt16, UInt32.toNat_add, hhigh, hlow, hsum]
  omega

/-- A sum that is greater by less than 65535 has other halves, also where it wraps around. -/
theorem foldHalves_add_ne (x : Nat) {d : Nat} (hpos : 0 < d) (hlt : d < 65535) :
    foldHalves ((x + d) % 2 ^ 32) ≠ foldHalves (x % 2 ^ 32) := by
  unfold foldHalves
  by_cases hcarry : x % 2 ^ 32 % 65536 + d < 65536
  · have hhigh : (x + d) % 2 ^ 32 / 65536 = x % 2 ^ 32 / 65536 := by omega
    have hlow : (x + d) % 2 ^ 32 % 65536 = x % 2 ^ 32 % 65536 + d := by omega
    rw [hhigh, hlow]
    omega
  · have hlow : (x + d) % 2 ^ 32 % 65536 = x % 2 ^ 32 % 65536 + d - 65536 := by omega
    rw [hlow]
    by_cases htop : x % 2 ^ 32 / 65536 = 65535
    · have hhigh : (x + d) % 2 ^ 32 / 65536 = 0 := by omega
      rw [hhigh, htop]
      omega
    · have hhigh : (x + d) % 2 ^ 32 / 65536 = x % 2 ^ 32 / 65536 + 1 := by omega
      rw [hhigh]
      omega

theorem foldHalves_inj {x y : Nat} (hxy : x < y + 65535) (hyx : y < x + 65535)
    (h : foldHalves (x % 2 ^ 32) = foldHalves (y % 2 ^ 32)) : x = y := by
  rcases Nat.lt_trichotomy x y with hlt | heq | hgt
  · obtain ⟨d, rfl⟩ := Nat.exists_eq_add_of_lt hlt
    exact absurd h.symm (foldHalves_add_ne x (Nat.succ_pos d) (by omega))
  · exact heq
  · obtain ⟨d, rfl⟩ := Nat.exists_eq_add_of_lt hgt
    exact absurd h (foldHalves_add_ne y (Nat.succ_pos d) (by omega))

/-- Another byte changes the sum by its weight. -/
theorem iconTotal_set (buf : List UInt8) (i : Nat) (b : UInt8) (h : i < buf.length) :
    iconTotal (buf.set i b) + iconWeight i * buf[i].toNat =
      iconTotal buf + iconWeight i * b.toNat := by
  induction buf using iconTotal.induct generalizing i with
  | case1 lo hi buf ih =>
    rcases i with _ | _ | i
    · simp [iconTotal, iconWeight]
      omega
    · simp [iconTotal, iconWeight]
      omega
    · have hrest := ih i (by simpa using h)
      rw [iconWeight_add_two]
      simp only [List.set_cons_succ, List.getElem_cons_succ, iconTotal]
      omega
  | case2 lo =>
    obtain rfl : i = 0 := by simpa using h
    simp [iconTotal, iconWeight]
    omega
  | case3 => exact absurd h (Nat.not_lt_zero i)

/-- An icon with another byte in one place has another checksum. -/
theorem aimIconsum_set_iff (buf : List UInt8) (i : Nat) (b : UInt8) :
    aimIconsum (buf.set i b) = aimIconsum buf ↔ buf.set i b = buf := by
  refine ⟨fun h => ?_, congrArg aimIconsum⟩
  by_cases hi : i < buf.length
  · have hset := iconTotal_set buf i b hi
    have hold := buf[i].toNat_lt
    have hnew := b.toNat_lt
    have hweight : iconWeight i = 1 ∨ iconWeight i = 256 := by
      unfold iconWeight
      split <;> simp
    have hfold := congrArg UInt16.toNat h
    rw [aimIconsum_toNat, aimIconsum_toNat] at hfold
    have htotal : iconTotal (buf.set i b) = iconTotal buf := by
      refine foldHalves_inj ?_ ?_ hfold
      · rcases hweight with hw | hw <;> rw [hw] at hset <;> omega
      · rcases hweight with hw | hw <;> rw [hw] at hset <;> omega
    have heq : b.toNat = buf[i].toNat := by
      rcases hweight with hw | hw <;> rw [hw] at hset <;> omega
    rw [UInt8.toNat_inj.mp heq, List.set_getElem_self]
  · exact List.set_eq_of_length_le (Nat.not_lt.mp hi)

end Libfaim
