import Mathlib.Algebra.Group.Nat.Defs
import Mathlib.Data.List.Induction
import Mathlib.Data.List.Nodup
import Libfaim.Snac

/-!
# Runs of the SNAC cache

After any run of `aim_cachesnac`, `aim_remsnac` and `aim_cleansnacs` the cache holds exactly the
entries the history says are outstanding (`Outstanding`): cached by some call and dropped by none
since. The ids handed out are 1, 2, 3, ..., so they are distinct for as long as they do not wrap.
-/

namespace Libfaim

/-- A call on the cache, with what the clock says during it. -/
inductive SnacOp where
  | cachesnac (family type flags : UInt16) (data : List UInt8) (now : Int)
  | remsnac (id : UInt32)
  | cleansnacs (time : Fin faimSnacHashSize → Int) (maxage : Int)

namespace SnacOp

def exec : SnacOp → SnacCache → SnacCache
  | cachesnac family type flags data now, sess => (aimCachesnac family type flags data now sess).2
  | remsnac id, sess => (aimRemsnac id sess).2
  | cleansnacs time maxage, sess => aimCleansnacs time maxage sess

/-- The entry a call caches, under the id it returns. -/
def cached : SnacOp → SnacCache → Option AimSnac
  | cachesnac family type flags data now, sess =>
    some ⟨(aimCachesnac family type flags data now sess).1, family, type, flags, data, now⟩
  | remsnac _, _ => none
  | cleansnacs _ _, _ => none

def isCachesnac : SnacOp → Bool
  | cachesnac .. => true
  | _ => false

/-- The call removes the entry, or finds it older than `maxage`. -/
def Drops : SnacOp → AimSnac → Prop
  | cachesnac .., _ => False
  | remsnac id, e => e.id = id
  | cleansnacs time maxage, e => time (snacIndex e.id) - e.issuetime > maxage

end SnacOp

def runSnacs (ops : List SnacOp) : SnacCache :=
  ops.foldl (fun sess op => op.exec sess) aimInitsnachash

/-- The ids the calls of `aim_cachesnac` in a run returned. -/
def snacids : List SnacOp → SnacCache → List UInt32
  | [], _ => []
  | op :: ops, sess => ((op.cached sess).map (·.id)).toList ++ snacids ops (op.exec sess)

/-- Cached in the run, not removed since, and not too old at any `aim_cleansnacs` since. -/
def Outstanding (ops : List SnacOp) (e : AimSnac) : Prop :=
  ∃ pre op post, ops = pre ++ op :: post ∧ op.cached (runSnacs pre) = some e ∧
    ∀ op' ∈ post, ¬ op'.Drops e

/-! ## One more call -/

theorem runSnacs_append (ops : List SnacOp) (op : SnacOp) :
    runSnacs (ops ++ [op]) = op.exec (runSnacs ops) := by
  simp [runSnacs]

theorem snacids_append (ops : List SnacOp) (op : SnacOp) (sess : SnacCache) :
    snacids (ops ++ [op]) sess = snacids ops sess ++
      ((op.cached (ops.foldl (fun sess op => op.exec sess) sess)).map (·.id)).toList := by
  induction ops generalizing sess with
  | nil => simp [snacids]
  | cons o ops ih => simp [snacids, ih]

theorem outstanding_append {ops : List SnacOp} {op : SnacOp} {e : AimSnac} :
    Outstanding (ops ++ [op]) e ↔
      op.cached (runSnacs ops) = some e ∨ (Outstanding ops e ∧ ¬ op.Drops e) := by
  constructor
  · rintro ⟨pre, o, post, hops, hcached, hpost⟩
    rcases List.eq_nil_or_concat post with rfl | ⟨post', last, rfl⟩
    · obtain ⟨rfl, hop⟩ := List.append_inj' hops rfl
      obtain rfl : op = o := List.singleton_inj.mp hop
      exact Or.inl hcached
    · rw [List.concat_eq_append, ← List.cons_append, ← List.append_assoc] at hops
      obtain ⟨hpre, hlast⟩ := List.append_inj' hops rfl
      obtain rfl : op = last := List.singleton_inj.mp hlast
      refine Or.inr ⟨⟨pre, o, post', hpre, hcached, ?_⟩, ?_⟩
      · exact fun o' ho' => hpost o' (by simp [ho'])
      · exact hpost op (by simp)
  · rintro (hcached | ⟨⟨pre, o, post, rfl, hcached, hpost⟩, hop⟩)
    · exact ⟨ops, op, [], rfl, hcached, by simp⟩
    · refine ⟨pre, o, post ++ [op], by simp, hcached, ?_⟩
      intro o' ho'
      rcases List.mem_append.mp ho' with ho' | ho'
      · exact hpost o' ho'
      · obtain rfl := List.mem_singleton.mp ho'
        exact hop

/-! ## The invariant of a run -/

/-- What holds of the cache after the calls `ops`, `n` of them caching. -/
structure SnacInv (ops : List SnacOp) (n : Nat) (sess : SnacCache) : Prop where
  wf : SnacWf sess
  next : sess.snacidNext = UInt32.ofNat (n + 1)
  ids : snacids ops aimInitsnachash = (List.range n).map fun k => UInt32.ofNat (k + 1)
  id_le : ∀ id e, snacMap sess id = some e → id.toNat ≤ n
  map : ∀ id e, snacMap sess id = some e ↔ e.id = id ∧ Outstanding ops e

theorem snacMap_id {sess : SnacCache} {id : UInt32} {e : AimSnac} (h : snacMap sess id = some e) :
    e.id = id := (HashChain.find_some h).2

section Step

variable {ops : List SnacOp} {n : Nat} {sess : SnacCache}

theorem SnacInv.nil : SnacInv [] 0 aimInitsnachash where
  wf := HashChain.Wf.empty
  next := rfl
  ids := rfl
  id_le := by
    intro id e h
    cases h
  map := by
    intro id e
    constructor
    · intro h
      cases h
    · rintro ⟨-, pre, op, post, h, -⟩
      simp at h

/-- A call that caches nothing keeps the entries it does not drop. -/
theorem SnacInv.drop (h : SnacInv ops n (runSnacs ops)) {op : SnacOp}
    (hnone : op.cached (runSnacs ops) = none) (hwf : SnacWf (op.exec (runSnacs ops)))
    (hnext : (op.exec (runSnacs ops)).snacidNext = (runSnacs ops).snacidNext)
    (hmap : ∀ id e, snacMap (op.exec (runSnacs ops)) id = some e ↔
      snacMap (runSnacs ops) id = some e ∧ ¬ op.Drops e) :
    SnacInv (ops ++ [op]) n (runSnacs (ops ++ [op])) := by
  rw [runSnacs_append]
  refine ⟨hwf, hnext.trans h.next, ?_, ?_, ?_⟩
  · rw [snacids_append, h.ids]
    rw [runSnacs] at hnone
    rw [hnone]
    simp
  · intro id e he
    exact h.id_le id e ((hmap id e).mp he).1
  · intro id e
    rw [hmap, h.map, outstanding_append, hnone]
    constructor
    · rintro ⟨⟨hid, hout⟩, hdrop⟩
      exact ⟨hid, Or.inr ⟨hout, hdrop⟩⟩
    · rintro ⟨hid, hc | ⟨hout, hdrop⟩⟩
      · cases hc
      · exact ⟨⟨hid, hout⟩, hdrop⟩

theorem SnacInv.remsnac (h : SnacInv ops n (runSnacs ops)) (id : UInt32) :
    SnacInv (ops ++ [.remsnac id]) n (runSnacs (ops ++ [.remsnac id])) := by
  refine h.drop rfl (h.wf.aimRemsnac id) rfl ?_
  intro id' e
  simp only [SnacOp.exec, SnacOp.Drops, snacMap_aimRemsnac h.wf]
  by_cases hid : id' = id
  · rw [if_pos hid]
    constructor
    · intro he
      cases he
    · rintro ⟨he, hne⟩
      exact absurd ((snacMap_id he).trans hid) hne
  · rw [if_neg hid]
    constructor
    · exact fun he => ⟨he, fun heq => hid ((snacMap_id he).symm.trans heq)⟩
    · exact fun he => he.1

theorem SnacInv.cleansnacs (h : SnacInv ops n (runSnacs ops))
    (time : Fin faimSnacHashSize → Int) (maxage : Int) :
    SnacInv (ops ++ [.cleansnacs time maxage]) n (runSnacs (ops ++ [.cleansnacs time maxage])) := by
  refine h.drop rfl (h.wf.aimCleansnacs time maxage) rfl ?_
  intro id e
  simp only [SnacOp.exec, SnacOp.Drops, snacMap_aimCleansnacs h.wf, Option.filter_eq_some_iff,
    decide_eq_true_eq, Int.not_lt, gt_iff_lt]
  constructor
  · rintro ⟨he, hage⟩
    rw [snacMap_id he]
    exact ⟨he, hage⟩
  · rintro ⟨he, hage⟩
    rw [snacMap_id he] at hage
    exact ⟨he, hage⟩

theorem SnacInv.cachesnac (h : SnacInv ops n (runSnacs ops)) (hn : n + 1 < 2 ^ 32)
    (family type flags : UInt16) (data : List UInt8) (now : Int) :
    SnacInv (ops ++ [.cachesnac family type flags data now]) (n + 1)
      (runSnacs (ops ++ [.cachesnac family type flags data now])) := by
  have hid : (runSnacs ops).snacidNext.toNat = n + 1 := by
    rw [h.next, UInt32.toNat_ofNat', Nat.mod_eq_of_lt hn]
  -- ids are handed out in increasing order, so the next one is free
  have hfresh : snacMap (runSnacs ops) (runSnacs ops).snacidNext = none := by
    by_contra hne
    obtain ⟨e, he⟩ := Option.ne_none_iff_exists'.mp hne
    have := h.id_le _ e he
    omega
  rw [runSnacs_append]
  refine ⟨h.wf.aimCachesnac _ _ _ _ _ hfresh, ?_, ?_, ?_, ?_⟩
  · have hsucc : (aimCachesnac family type flags data now (runSnacs ops)).2.snacidNext =
        (runSnacs ops).snacidNext + 1 := rfl
    rw [SnacOp.exec, hsucc, h.next, UInt32.ofNat_add (n + 1) 1]
    rfl
  · rw [snacids_append, h.ids, List.range_succ, List.map_append]
    congr 1
    exact congrArg (fun id => [id]) h.next
  · intro id e he
    rw [SnacOp.exec, snacMap_aimCachesnac] at he
    by_cases heq : (runSnacs ops).snacidNext = id
    · rw [← heq]
      exact Nat.le_of_eq hid
    · rw [if_neg heq] at he
      exact Nat.le_succ_of_le (h.id_le id e he)
  · intro id e
    rw [SnacOp.exec, snacMap_aimCachesnac, outstanding_append]
    simp only [SnacOp.cached, aimCachesnac_fst, SnacOp.Drops, not_false_eq_true, and_true,
      Option.some.injEq]
    by_cases heq : (runSnacs ops).snacidNext = id
    · rw [if_pos heq, Option.some.injEq]
      constructor
      · intro he
        exact ⟨by rw [← he, heq], Or.inl he⟩
      · rintro ⟨hide, he | hout⟩
        · exact he
        · have hsome := (h.map id e).mpr ⟨hide, hout⟩
          rw [← heq, hfresh] at hsome
          cases hsome
    · rw [if_neg heq, h.map]
      constructor
      · exact fun he => ⟨he.1, Or.inr he.2⟩
      · rintro ⟨hide, he | hout⟩
        · exact absurd (by rw [← hide, ← he]) heq
        · exact ⟨hide, hout⟩

end Step

theorem snacInv_runSnacs (ops : List SnacOp) (h : ops.countP (·.isCachesnac) < 2 ^ 32) :
    SnacInv ops (ops.countP (·.isCachesnac)) (runSnacs ops) := by
  induction ops using List.reverseRecOn with
  | nil => exact SnacInv.nil
  | append_singleton ops op ih =>
    rw [List.countP_append] at h ⊢
    have ih' := ih (by omega)
    cases op with
    | cachesnac family type flags data now => exact ih'.cachesnac h family type flags data now
    | remsnac id => exact ih'.remsnac id
    | cleansnacs time maxage => exact ih'.cleansnacs time maxage

/-- What is cached under an id of before was cached before. -/
theorem snacMap_append {ops : List SnacOp} {op : SnacOp} {id : UInt32} {e : AimSnac}
    (h : (ops ++ [op]).countP (·.isCachesnac) < 2 ^ 32)
    (hle : id.toNat ≤ ops.countP (·.isCachesnac))
    (he : snacMap (runSnacs (ops ++ [op])) id = some e) : snacMap (runSnacs ops) id = some e := by
  have hcount := h
  rw [List.countP_append] at hcount
  have hinv := snacInv_runSnacs ops (by omega)
  obtain ⟨hid, hout⟩ := ((snacInv_runSnacs (ops ++ [op]) h).map id e).mp he
  rcases outstanding_append.mp hout with hcached | ⟨hold, -⟩
  · -- the new id is greater than all before it
    cases op with
    | cachesnac family type flags data now =>
      have hlt : ops.countP (·.isCachesnac) + 1 < 2 ^ 32 := hcount
      have hnext : e.id = (runSnacs ops).snacidNext := by
        obtain rfl := Option.some.inj hcached
        rfl
      rw [← hid, hnext, hinv.next, UInt32.toNat_ofNat', Nat.mod_eq_of_lt hlt] at hle
      omega
    | remsnac id => cases hcached
    | cleansnacs time maxage => cases hcached
  · exact (hinv.map id e).mpr ⟨hid, hold⟩

/-- The SNAC cache is a finite map. After any run with fewer than 2^32 requests the ids returned
are distinct and not zero; `aim_remsnac` returns the entry cached under an id exactly if it is
outstanding, once, and touches no other; every entry is in the chain of its id. -/
theorem aimRemsnac_refines_map (ops : List SnacOp)
    (h : ops.countP (·.isCachesnac) < 2 ^ 32) :
    (snacids ops aimInitsnachash).Nodup ∧ 0 ∉ snacids ops aimInitsnachash ∧
      (∀ id e, (aimRemsnac id (runSnacs ops)).1 = some e ↔ e.id = id ∧ Outstanding ops e) ∧
      (∀ id, (aimRemsnac id (aimRemsnac id (runSnacs ops)).2).1 = none) ∧
      (∀ id id', id' ≠ id → (aimRemsnac id' (aimRemsnac id (runSnacs ops)).2).1 =
        (aimRemsnac id' (runSnacs ops)).1) ∧
      ∀ i, ∀ e ∈ (runSnacs ops).snacHash i, e.id.toNat % faimSnacHashSize = i.val := by
  have hinv := snacInv_runSnacs ops h
  have hval : ∀ k < ops.countP (·.isCachesnac), (UInt32.ofNat (k + 1)).toNat = k + 1 := by
    intro k hk
    rw [UInt32.toNat_ofNat', Nat.mod_eq_of_lt (by omega)]
  refine ⟨?_, ?_, ?_, ?_, ?_, ?_⟩
  · rw [hinv.ids]
    refine List.Nodup.map_on ?_ List.nodup_range
    intro x hx y hy hxy
    have := congrArg UInt32.toNat hxy
    rw [hval x (List.mem_range.mp hx), hval y (List.mem_range.mp hy)] at this
    omega
  · rw [hinv.ids, List.mem_map]
    rintro ⟨k, hk, hzero⟩
    have := congrArg UInt32.toNat hzero
    rw [hval k (List.mem_range.mp hk)] at this
    simp at this
  · intro id e
    rw [aimRemsnac_fst]
    exact hinv.map id e
  · intro id
    rw [aimRemsnac_fst, snacMap_aimRemsnac hinv.wf, if_pos rfl]
  · intro id id' hne
    rw [aimRemsnac_fst, aimRemsnac_fst, snacMap_aimRemsnac hinv.wf, if_neg hne]
  · intro i e he
    exact congrArg Fin.val (hinv.wf.hash_eq i e he)

/-- Two requests, one of them answered. -/
theorem aimRemsnac_refines_map_two :
    let ops : List SnacOp := [.cachesnac 1 2 0 [7] 100, .cachesnac 4 6 0 [] 101, .remsnac 1]
    (aimRemsnac 2 (runSnacs ops)).1 = some ⟨2, 4, 6, 0, [], 101⟩ := by
  intro ops
  refine ((aimRemsnac_refines_map ops (by decide)).2.2.1 2 _).mpr ⟨rfl, ?_⟩
  refine ⟨[.cachesnac 1 2 0 [7] 100], .cachesnac 4 6 0 [] 101, [.remsnac 1], rfl, rfl, ?_⟩
  intro op hop
  obtain rfl := List.mem_singleton.mp hop
  exact fun h => absurd h (by decide : (2 : UInt32) ≠ 1)

end Libfaim
