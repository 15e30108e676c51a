import Mathlib.Data.List.Nodup
import Mathlib.Logic.Function.Basic

/-!
# A store of records behind handles

`alloc` hands out a handle for a record, `free` gives a handle back, and `touch` is a use of one;
`0` is the null handle, and no handle is handed out twice. A record that has been given back keeps
its last contents, so that nothing stops a release from being repeated or a handle from being used
afterwards: every release is on record (`released`), and every use after a release (`stale`).

`Tidy held` says that neither has happened, and that whatever is still to be released is held by
someone (`held`), so that what nobody holds has been released exactly once (`Tidy.count_eq_one`).
-/

namespace HandleStore

structure Store (ρ : Type*) where
  /-- the next handle -/
  next : Nat
  record : Nat → Option ρ
  released : List Nat
  stale : List Nat

variable {ρ : Type*}

namespace Store

def empty : Store ρ := ⟨1, fun _ => none, [], []⟩

variable (s : Store ρ)

/-- A handle that stands for nothing in this store. -/
def reserve : Nat × Store ρ := (s.next, { s with next := s.next + 1 })

def alloc (r : ρ) : Nat × Store ρ :=
  (s.next,
    { s with next := s.next + 1, record := Function.update s.record s.next (some r) })

def free (h : Nat) : Store ρ :=
  if h = 0 then s else { s with released := s.released ++ [h] }

def touch (h : Nat) : Store ρ :=
  if h ∈ s.released then { s with stale := s.stale ++ [h] } else s

def write (h : Nat) (r : ρ) : Store ρ :=
  { s.touch h with record := Function.update s.record h (some r) }

variable {s} {h : Nat} {r : ρ}

theorem free_zero : s.free 0 = s := if_pos rfl

theorem free_of_ne_zero (hne : h ≠ 0) : s.free h = { s with released := s.released ++ [h] } :=
  if_neg hne

theorem mem_free_self (hne : h ≠ 0) : h ∈ (s.free h).released := by
  rw [free_of_ne_zero hne]
  exact List.mem_append_right _ (List.mem_singleton_self h)

theorem mem_free_of_ne {k : Nat} (hne : k ≠ h) : k ∈ (s.free h).released ↔ k ∈ s.released := by
  by_cases hzero : h = 0
  · rw [hzero, free_zero]
  · rw [free_of_ne_zero hzero, List.mem_append, List.mem_singleton, or_iff_left hne]

theorem touch_of_not_mem (hmem : h ∉ s.released) : s.touch h = s := if_neg hmem

@[simp] theorem free_next : (s.free h).next = s.next := by
  unfold free
  split <;> rfl

@[simp] theorem free_record : (s.free h).record = s.record := by
  unfold free
  split <;> rfl

@[simp] theorem touch_next : (s.touch h).next = s.next := by
  unfold touch
  split <;> rfl

@[simp] theorem touch_record : (s.touch h).record = s.record := by
  unfold touch
  split <;> rfl

@[simp] theorem touch_released : (s.touch h).released = s.released := by
  unfold touch
  split <;> rfl

theorem alloc_record_of_ne {k : Nat} (hne : k ≠ s.next) :
    (s.alloc r).2.record k = s.record k :=
  Function.update_of_ne hne ..

theorem alloc_record_next : (s.alloc r).2.record s.next = some r := Function.update_self ..

theorem write_record_of_ne {k : Nat} (hne : k ≠ h) : (s.write h r).record k = s.record k :=
  Function.update_of_ne hne ..

theorem write_record_self : (s.write h r).record h = some r := Function.update_self ..

/-- Records are only at handles that have been handed out, and so are releases. -/
structure Formed (s : Store ρ) : Prop where
  pos : 0 < s.next
  null : s.record 0 = none
  beyond : ∀ h, s.next ≤ h → s.record h = none
  released : ∀ h ∈ s.released, h < s.next

namespace Formed

theorem lt_next (hs : s.Formed) (hh : s.record h ≠ none) : h < s.next :=
  Nat.lt_of_not_le fun hle => hh (hs.beyond h hle)

theorem next_not_mem (hs : s.Formed) : s.next ∉ s.released :=
  fun hmem => Nat.lt_irrefl _ (hs.released _ hmem)

theorem empty : (Store.empty : Store ρ).Formed :=
  ⟨Nat.one_pos, rfl, fun _ _ => rfl, fun _ hmem => absurd hmem List.not_mem_nil⟩

theorem reserve (hs : s.Formed) : s.reserve.2.Formed :=
  ⟨Nat.succ_pos _, hs.null, fun h hle => hs.beyond h (Nat.le_of_succ_le hle),
    fun h hmem => Nat.lt_succ_of_lt (hs.released h hmem)⟩

theorem alloc (hs : s.Formed) (r : ρ) : (s.alloc r).2.Formed := by
  refine ⟨Nat.succ_pos _, ?_, fun h hle => ?_, fun h hmem => Nat.lt_succ_of_lt (hs.released h hmem)⟩
  · exact (alloc_record_of_ne (Nat.ne_of_lt hs.pos)).trans hs.null
  · exact (alloc_record_of_ne (Nat.ne_of_gt hle)).trans (hs.beyond h (Nat.le_of_succ_le hle))

theorem free (hs : s.Formed) (hlt : h < s.next) : (s.free h).Formed := by
  by_cases hzero : h = 0
  · rw [hzero, free_zero]
    exact hs
  · rw [free_of_ne_zero hzero]
    refine ⟨hs.pos, hs.null, hs.beyond, fun k hmem => ?_⟩
    rcases List.mem_append.mp hmem with hmem | hmem
    · exact hs.released k hmem
    · rwa [List.mem_singleton.mp hmem]

theorem touch (hs : s.Formed) (h : Nat) : (s.touch h).Formed :=
  ⟨by rw [touch_next]; exact hs.pos, by rw [touch_record]; exact hs.null,
    by rw [touch_record, touch_next]; exact hs.beyond,
    by rw [touch_released, touch_next]; exact hs.released⟩

theorem write (hs : s.Formed) (hh : s.record h ≠ none) (r : ρ) : (s.write h r).Formed := by
  have htouch := hs.touch h
  refine ⟨htouch.pos, ?_, fun k hle => ?_, htouch.released⟩
  · have hne : 0 ≠ h := by
      rintro rfl
      exact hh hs.null
    exact (write_record_of_ne hne).trans hs.null
  · have hnext : s.next ≤ k := by rwa [← @touch_next ρ s h]
    have hne : k ≠ h := by
      rintro rfl
      exact hh (hs.beyond k hnext)
    exact (write_record_of_ne hne).trans (hs.beyond k hnext)

end Formed

/-- No release is repeated, nothing is used after its release, and what has not been released is
held. -/
structure Tidy (held : Nat → Prop) (s : Store ρ) : Prop where
  once : s.released.Nodup
  unused : s.stale = []
  kept : ∀ h, s.record h ≠ none → h ∉ s.released → held h

namespace Tidy

variable {held held' : Nat → Prop}

theorem empty : (Store.empty : Store ρ).Tidy held :=
  ⟨List.nodup_nil, rfl, fun _ hrec => absurd rfl hrec⟩

theorem mono (hs : s.Tidy held)
    (hheld : ∀ h, s.record h ≠ none → h ∉ s.released → held h → held' h) : s.Tidy held' :=
  ⟨hs.once, hs.unused, fun h hrec hmem => hheld h hrec hmem (hs.kept h hrec hmem)⟩

theorem reserve (hs : s.Tidy held) : s.reserve.2.Tidy held := ⟨hs.once, hs.unused, hs.kept⟩

/-- A new record, for someone who holds it. -/
theorem alloc (hs : s.Tidy held) (hheld : ∀ h, s.record h ≠ none → held h → held' h)
    (hnew : held' s.next) (r : ρ) : (s.alloc r).2.Tidy held' := by
  refine ⟨hs.once, hs.unused, fun h hrec hmem => ?_⟩
  by_cases hh : h = s.next
  · rwa [hh]
  · rw [alloc_record_of_ne hh] at hrec
    exact hheld h hrec (hs.kept h hrec hmem)

/-- What has been released may be let go. -/
theorem free (hs : s.Tidy held) (hmem : h ∉ s.released)
    (hheld : ∀ k, k ≠ h → s.record k ≠ none → held k → held' k) (hnull : s.record 0 = none) :
    (s.free h).Tidy held' := by
  by_cases hzero : h = 0
  · rw [hzero, free_zero]
    refine hs.mono fun k hrec _ => hheld k ?_ hrec
    rintro rfl
    exact hrec (hzero ▸ hnull)
  · rw [free_of_ne_zero hzero]
    refine ⟨hs.once.append (List.nodup_singleton h) ?_, hs.unused, fun k hrec hk => ?_⟩
    · exact List.disjoint_singleton.mpr hmem
    · obtain ⟨hk, hne⟩ := not_or.mp (mt List.mem_append.mpr hk)
      exact hheld k (mt List.mem_singleton.mpr hne) hrec (hs.kept k hrec hk)

theorem write (hs : s.Tidy held) (hmem : h ∉ s.released) (hh : s.record h ≠ none) (r : ρ) :
    (s.write h r).Tidy held := by
  refine ⟨?_, ?_, fun k hrec hk => ?_⟩
  · exact touch_released.symm ▸ hs.once
  · exact (congrArg stale (touch_of_not_mem hmem)).trans hs.unused
  · have hkept : k ∉ s.released := by rwa [← @touch_released ρ s h]
    by_cases hne : k = h
    · rw [hne] at hkept ⊢
      exact hs.kept h hh hkept
    · rw [write_record_of_ne hne] at hrec
      exact hs.kept k hrec hkept

theorem count_le_one (hs : s.Tidy held) (h : Nat) : s.released.count h ≤ 1 :=
  List.nodup_iff_count_le_one.mp hs.once h

theorem count_eq_one (hs : s.Tidy held) (hrec : s.record h ≠ none) (hheld : ¬ held h) :
    s.released.count h = 1 := by
  have hmem : h ∈ s.released := by
    by_contra hmem
    exact hheld (hs.kept h hrec hmem)
  exact List.count_eq_one_of_mem hs.once hmem

end Tidy

end Store

end HandleStore
