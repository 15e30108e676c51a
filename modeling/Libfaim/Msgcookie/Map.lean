import Libfaim.Msgcookie
import Mathlib.Data.List.Perm.Subperm

/-!
# The cache of message cookies as a map

What the cache is for (`CookieMap`): under a cookie and a type it keeps the struct last cached
there. The list of structs refines it (`Cookies.Refines`): it is a list of live structs, the map has
under each key the struct of the list with this key, and each struct holds what the map says.
Every operation on valid pointers keeps this and returns what it does on the map
(`CookieOp.refines`), and so does every sequence of them (`runCookieOps_refines`).
-/

namespace Libfaim

open HeapList

/-! ## The map -/

/-- A struct without its link. -/
structure CookieStruct where
  cookie : Cookie
  type : Int
  data : Nat
  addtime : Int
  deriving DecidableEq

def AimMsgcookie.struct (cook : AimMsgcookie) : CookieStruct :=
  ⟨cook.cookie, cook.type, cook.data, cook.addtime⟩

def CookieStruct.key (v : CookieStruct) : CookieKey := (v.cookie, v.type)

/-- The live structs, which of them is cached under each key, and the data that have been freed. -/
structure CookieMap where
  structs : CookiePtr → Option CookieStruct
  cached : CookieKey → Option CookiePtr
  freed : List Nat

namespace CookieMap

def empty : CookieMap := ⟨fun _ => none, fun _ => none, []⟩

variable (m : CookieMap)

def put (p : CookiePtr) (v : CookieStruct) : CookieMap :=
  { m with structs := Function.update m.structs p (some v) }

/-- Nothing is cached under the key any more. -/
def drop (k : CookieKey) : CookieMap := { m with cached := Function.update m.cached k none }

/-- The struct and its data are given back. -/
def release (p : CookiePtr) (v : CookieStruct) : CookieMap :=
  { m with structs := Function.update m.structs p none, freed := m.freed ++ [v.data] }

/-- The struct is given back, and is no longer cached if it was. -/
def free (p : CookiePtr) : CookieMap :=
  match m.structs p with
  | none => m
  | some v => (if m.cached v.key = some p then m.drop v.key else m).release p v

/-- The struct is what is cached under its key; another one that was is given back. -/
def cache (now : Int) (p : CookiePtr) : Int × CookieMap :=
  match m.structs p with
  | none => (-einval, m)
  | some v =>
    if m.cached v.key = some p then (1, m.put p { v with addtime := now })
    else
      let old := match m.cached v.key with
        | none => m
        | some q => m.free q
      (0, { old.put p { v with addtime := now } with
        cached := Function.update old.cached v.key (some p) })

end CookieMap

/-! ## The operations -/

inductive CookieOp where
  | mkcookie (p : CookiePtr) (c : Option Cookie) (type : Int) (data : Nat)
  | cachecookie (now : Int) (p : CookiePtr)
  | uncachecookie (cookie : Option Cookie) (type : Int)
  | checkcookie (cookie : Cookie) (type : Int)
  | cookieFree (p : CookiePtr)

/-- What an operation returns. -/
inductive CookieRet where
  | int (ret : Int)
  | ptr (p : CookiePtr)
  deriving DecidableEq

namespace CookieOp

/-- The operation on the list of structs. -/
def run : CookieOp → Cookies → Option (CookieRet × Cookies)
  | mkcookie p c type data, s =>
    let r := aimMkcookie p c type data s
    some (.ptr r.1, r.2)
  | cachecookie now p, s => (aimCachecookie now p s).map fun r => (.int r.1, r.2)
  | uncachecookie cookie type, s => (aimUncachecookie cookie type s).map fun r => (.ptr r.1, r.2)
  | checkcookie cookie type, s => (aimCheckcookie s cookie type).map fun p => (.ptr p, s)
  | cookieFree p, s => (aimCookieFree p s).map fun r => (.int r.1, r.2)

/-- The operation on the map. -/
def spec : CookieOp → CookieMap → CookieRet × CookieMap
  | mkcookie p c type data, m =>
    match c with
    | none => (.ptr 0, m)
    | some c => if p = 0 then (.ptr 0, m) else (.ptr p, m.put p ⟨c, type, data, 0⟩)
  | cachecookie now p, m =>
    if p = 0 then (.int (-einval), m) else (.int (m.cache now p).1, (m.cache now p).2)
  | uncachecookie cookie type, m =>
    match cookie with
    | none => (.ptr 0, m)
    | some cookie => (.ptr ((m.cached (cookie, type)).getD 0), m.drop (cookie, type))
  | checkcookie cookie type, m => (.ptr ((m.cached (cookie, type)).getD 0), m)
  | cookieFree p, m => if p = 0 then (.int (-einval), m) else (.int 0, m.free p)

/-- A pointer is null or to a live struct, and `calloc` returns memory that no live struct has. -/
def Valid (m : CookieMap) : CookieOp → Prop
  | mkcookie p _ _ _ => m.structs p = none
  | cachecookie _ p => p = 0 ∨ m.structs p ≠ none
  | uncachecookie _ _ => True
  | checkcookie _ _ => True
  | cookieFree p => p = 0 ∨ m.structs p ≠ none

end CookieOp

/-- The key whose entry an operation may change. -/
def CookieOp.key (m : CookieMap) : CookieOp → Option CookieKey
  | .mkcookie .. => none
  | .cachecookie _ p => (m.structs p).map CookieStruct.key
  | .uncachecookie cookie type => cookie.map fun cookie => (cookie, type)
  | .checkcookie .. => none
  | .cookieFree p => (m.structs p).map CookieStruct.key

/-- What is cached under another key stays cached there, and stays as it is. -/
def CookieOp.KeepsOthers (m : CookieMap) (op : CookieOp) : Prop :=
  ∀ k p, m.cached k = some p → op.key m ≠ some k →
    (op.spec m).2.cached k = some p ∧ (op.spec m).2.structs p = m.structs p

section Keeps

variable {m : CookieMap} {k : CookieKey} {q : CookiePtr} {v : CookieStruct}

theorem CookieMap.free_keeps {p : CookiePtr} (hv : m.structs q = some v) (hkey : v.key = k)
    (hcached : m.cached k = some q) (hp : (m.structs p).map CookieStruct.key ≠ some k) :
    (m.free p).cached k = some q ∧ (m.free p).structs q = some v := by
  unfold free
  cases hw : m.structs p with
  | none => exact ⟨hcached, hv⟩
  | some w =>
    rw [hw, Option.map_some] at hp
    have hwk : k ≠ w.key := fun heq => hp (congrArg some heq.symm)
    have hqp : q ≠ p := by
      rintro rfl
      obtain rfl := Option.some.inj (hw.symm.trans hv)
      exact hwk hkey.symm
    dsimp only
    constructor
    · by_cases hc : m.cached w.key = some p
      · rw [if_pos hc]
        exact (Function.update_of_ne hwk ..).trans hcached
      · rw [if_neg hc]
        exact hcached
    · by_cases hc : m.cached w.key = some p
      · rw [if_pos hc]
        exact (Function.update_of_ne hqp ..).trans hv
      · rw [if_neg hc]
        exact (Function.update_of_ne hqp ..).trans hv

theorem CookieOp.keeps {op : CookieOp} (hop : op.Valid m) (hv : m.structs q = some v)
    (hkey : v.key = k) (hcached : m.cached k = some q) (hother : op.key m ≠ some k)
    (hkeys : ∀ k' p, m.cached k' = some p → (m.structs p).map CookieStruct.key = some k') :
    (op.spec m).2.cached k = some q ∧ (op.spec m).2.structs q = some v := by
  cases op with
  | mkcookie p c type data =>
    cases c with
    | none => exact ⟨hcached, hv⟩
    | some c =>
      unfold spec
      dsimp only
      by_cases hp : p = 0
      · rw [if_pos hp]
        exact ⟨hcached, hv⟩
      · rw [if_neg hp]
        have hqp : q ≠ p := by
          rintro rfl
          exact Option.some_ne_none v (hv.symm.trans hop)
        exact ⟨hcached, (Function.update_of_ne hqp ..).trans hv⟩
  | cachecookie now p =>
    unfold spec
    dsimp only
    by_cases hp : p = 0
    · rw [if_pos hp]
      exact ⟨hcached, hv⟩
    rw [if_neg hp]
    unfold CookieMap.cache
    cases hw : m.structs p with
    | none => exact ⟨hcached, hv⟩
    | some w =>
      have hwk : k ≠ w.key := by
        rintro rfl
        exact hother (by rw [key, hw, Option.map_some])
      have hqp : q ≠ p := by
        rintro rfl
        obtain rfl := Option.some.inj (hw.symm.trans hv)
        exact hwk hkey.symm
      dsimp only
      by_cases hc : m.cached w.key = some p
      · rw [if_pos hc]
        exact ⟨hcached, (Function.update_of_ne hqp ..).trans hv⟩
      · rw [if_neg hc]
        cases hold : m.cached w.key with
        | none =>
          exact ⟨(Function.update_of_ne hwk ..).trans hcached,
            (Function.update_of_ne hqp ..).trans hv⟩
        | some r =>
          have hr : (m.structs r).map CookieStruct.key ≠ some k := by
            rw [hkeys _ r hold]
            exact fun heq => hwk (Option.some.inj heq).symm
          obtain ⟨hfree, hstruct⟩ := CookieMap.free_keeps hv hkey hcached hr
          exact ⟨(Function.update_of_ne hwk ..).trans hfree,
            (Function.update_of_ne hqp ..).trans hstruct⟩
  | uncachecookie cookie type =>
    cases cookie with
    | none => exact ⟨hcached, hv⟩
    | some cookie =>
      have hne : k ≠ (cookie, type) := fun heq => hother (congrArg some heq.symm)
      exact ⟨(Function.update_of_ne hne ..).trans hcached, hv⟩
  | checkcookie cookie type => exact ⟨hcached, hv⟩
  | cookieFree p =>
    unfold spec
    dsimp only
    by_cases hp : p = 0
    · rw [if_pos hp]
      exact ⟨hcached, hv⟩
    · rw [if_neg hp]
      exact CookieMap.free_keeps hv hkey hcached hother

end Keeps

/-! ## The list -/

namespace Cookies

variable (s : Cookies)

/-- The structs of the list, in order. -/
def Listed (l : List CookiePtr) : Prop := Chain 0 AimMsgcookie.next s.msgcookies s.mem l

def struct (p : CookiePtr) : Option CookieStruct := (s.mem p).map AimMsgcookie.struct

def key (p : CookiePtr) : Option CookieKey := (s.struct p).map CookieStruct.key

/-- There are no more live structs than `calloc` returned. -/
def Enough : Prop :=
  ∃ live : List CookiePtr, live.length ≤ s.allocs ∧ ∀ p, s.struct p ≠ none → p ∈ live

/-- The list and the structs are as the map has them. -/
structure Refines (m : CookieMap) : Prop where
  struct_eq : s.struct = m.structs
  freed_eq : s.freed = m.freed
  null : s.struct 0 = none
  listed : ∃ l, s.Listed l ∧ ∀ k p, m.cached k = some p ↔ p ∈ l ∧ s.key p = some k
  enough : s.Enough

end Cookies

section List

variable {s : Cookies} {l l₁ l₂ : List CookiePtr} {a : CookiePtr}

theorem key_eq_some_iff {p : CookiePtr} {cook : AimMsgcookie} (h : s.mem p = some cook)
    (cookie : Cookie) (type : Int) :
    s.key p = some (cookie, type) ↔ cook.type = type ∧ cook.cookie = cookie := by
  rw [Cookies.key, Cookies.struct, h, Option.map_some, Option.map_some, Option.some_inj,
    CookieStruct.key, Prod.mk.injEq]
  exact and_comm

theorem Cookies.struct_of_update {t : Cookies} {p : CookiePtr} {x : Option AimMsgcookie}
    (h : t.mem = Function.update s.mem p x) :
    t.struct = Function.update s.struct p (x.map AimMsgcookie.struct) := by
  funext q
  unfold Cookies.struct
  rw [h]
  by_cases hq : q = p
  · rw [hq, Function.update_self, Function.update_self]
  · rw [Function.update_of_ne hq, Function.update_of_ne hq]

/-- An update that keeps the key of the struct. -/
theorem Cookies.key_of_update {t : Cookies} {p : CookiePtr} {x : Option AimMsgcookie}
    (h : t.mem = Function.update s.mem p x)
    (hkey : (x.map AimMsgcookie.struct).map CookieStruct.key =
      ((s.mem p).map AimMsgcookie.struct).map CookieStruct.key) : t.key = s.key := by
  funext q
  unfold Cookies.key
  rw [Cookies.struct_of_update h]
  by_cases hq : q = p
  · rw [hq, Function.update_self]
    exact hkey
  · rw [Function.update_of_ne hq]

theorem aimCheckcookie_eq (h : s.Listed l) (hlen : l.length ≤ s.allocs) (cookie : Cookie)
    (type : Int) : aimCheckcookie s cookie type =
      some ((l.find? fun p => s.key p = some (cookie, type)).getD 0) := by
  have hpass : ∀ p cook, p ≠ 0 → s.mem p = some cook → aimCheckcookiePass s cookie type p =
      if s.key p = some (cookie, type) then .leave p else .again cook.next := by
    intro p cook hne hcook
    unfold aimCheckcookiePass
    rw [if_neg hne, hcook]
    exact if_congr (key_eq_some_iff hcook cookie type).symm rfl rfl
  have hnull : aimCheckcookiePass s cookie type 0 = .leave 0 := rfl
  exact Chain.run_find h hnull hpass (Nat.lt_succ_of_le hlen)

theorem Cookies.link_linkAfter (h : s.Listed (l₁ ++ l₂)) :
    s.link (linkAfter l₁) = some (l₂.headD 0) :=
  h.deref_linkAfter

/-- The list without the struct at `a`. -/
theorem Cookies.listed_setLink (h : s.Listed (l₁ ++ a :: l₂)) :
    (s.setLink (linkAfter l₁) (l₂.headD 0)).Listed (l₁ ++ l₂) :=
  h.unlink fun _ _ => rfl

/-- Writing to a link leaves what the structs hold beside it. -/
theorem Cookies.struct_setLink (prev : Link CookiePtr) (q : CookiePtr) :
    (s.setLink prev q).struct = s.struct := by
  cases prev with
  | head => rfl
  | next c =>
    rw [Cookies.struct_of_update rfl, Option.map_map]
    exact Function.update_eq_self c s.struct

/-- One pass at a struct of the list. -/
theorem aimUncachecookiePass_eq (h : s.Listed (l₁ ++ a :: l₂)) (cookie : Cookie) (type : Int) :
    aimUncachecookiePass s cookie type (linkAfter l₁) =
      if s.key a = some (cookie, type) then .leave (a, s.setLink (linkAfter l₁) (l₂.headD 0))
      else .again (.next a) := by
  obtain ⟨hne, ⟨cook, hcook, hnext⟩, -⟩ := h.linked.right_of_append
  unfold aimUncachecookiePass
  rw [Cookies.link_linkAfter h, List.headD_cons]
  dsimp only
  rw [if_neg hne, hcook]
  dsimp only
  rw [hnext]
  exact if_congr (key_eq_some_iff hcook cookie type).symm rfl rfl

theorem aimUncachecookiePass_end (h : s.Listed l) (cookie : Cookie) (type : Int) :
    aimUncachecookiePass s cookie type (linkAfter l) = .leave (0, s) := by
  have hend : s.link (linkAfter l) = some 0 := by
    rw [← List.append_nil l] at h
    exact Cookies.link_linkAfter h
  unfold aimUncachecookiePass
  rw [hend]
  exact if_pos rfl

/-- The guard for the empty list does not matter. -/
theorem aimUncachecookie_eq_run (cookie : Cookie) (type : Int) :
    aimUncachecookie (some cookie) type s =
      Loop.run (aimUncachecookiePass s cookie type) (s.allocs + 1) .head := by
  unfold aimUncachecookie
  by_cases hnil : s.msgcookies = 0
  · have hpass : aimUncachecookiePass s cookie type .head = .leave (0, s) := by
      unfold aimUncachecookiePass Cookies.link deref
      exact if_pos hnil
    rw [Loop.run_leave hpass]
    exact if_pos hnil
  · exact if_neg hnil

/-- The loop passes structs with other keys. -/
theorem aimUncachecookie_walk {cookie : Cookie} {type : Int} (h : s.Listed (l₁ ++ l₂))
    (hno : ∀ p ∈ l₁, s.key p ≠ some (cookie, type)) (fuel : Nat) :
    Loop.run (aimUncachecookiePass s cookie type) (l₁.length + fuel) .head =
      Loop.run (aimUncachecookiePass s cookie type) fuel (linkAfter l₁) := by
  have hpass : ∀ pre a post, l₁ = pre ++ a :: post →
      aimUncachecookiePass s cookie type (id (linkAfter ([] ++ pre))) = .again (id (.next a)) := by
    intro pre a post heq
    have hno' : s.key a ≠ some (cookie, type) := hno a (by simp [heq])
    rw [heq, List.append_assoc, List.cons_append] at h
    rw [List.nil_append, id, aimUncachecookiePass_eq h, if_neg hno']
    rfl
  exact run_linkAfter id hpass fuel

theorem aimUncachecookie_none {cookie : Cookie} {type : Int} (h : s.Listed l)
    (hlen : l.length ≤ s.allocs) (hno : ∀ p ∈ l, s.key p ≠ some (cookie, type)) :
    aimUncachecookie (some cookie) type s = some (0, s) := by
  obtain ⟨fuel, hfuel⟩ : ∃ k, s.allocs + 1 = l.length + (k + 1) := ⟨s.allocs - l.length, by omega⟩
  rw [aimUncachecookie_eq_run, hfuel]
  have hnil : s.Listed (l ++ []) := by rwa [List.append_nil]
  exact (aimUncachecookie_walk hnil hno (fuel + 1)).trans
    (Loop.run_leave (aimUncachecookiePass_end h cookie type) fuel)

theorem aimUncachecookie_some {cookie : Cookie} {type : Int} (h : s.Listed (l₁ ++ a :: l₂))
    (hlen : (l₁ ++ a :: l₂).length ≤ s.allocs)
    (hno : ∀ p ∈ l₁, s.key p ≠ some (cookie, type)) (ha : s.key a = some (cookie, type)) :
    aimUncachecookie (some cookie) type s =
      some (a, s.setLink (linkAfter l₁) (l₂.headD 0)) := by
  rw [List.length_append] at hlen
  obtain ⟨fuel, hfuel⟩ : ∃ k, s.allocs + 1 = l₁.length + (k + 1) :=
    ⟨s.allocs - l₁.length, by omega⟩
  have hpass := aimUncachecookiePass_eq h cookie type
  rw [if_pos ha] at hpass
  rw [aimUncachecookie_eq_run, hfuel]
  exact (aimUncachecookie_walk h hno (fuel + 1)).trans (Loop.run_leave hpass fuel)

theorem aimCookieFreePass_eq (h : s.Listed (l₁ ++ a :: l₂)) (cookie : CookiePtr) :
    aimCookieFreePass cookie (linkAfter l₁, s) =
      if a = cookie then .again (linkAfter l₁, s.setLink (linkAfter l₁) (l₂.headD 0))
      else .again (.next a, s) := by
  obtain ⟨hne, ⟨cook, hcook, hnext⟩, -⟩ := h.linked.right_of_append
  unfold aimCookieFreePass
  dsimp only
  rw [Cookies.link_linkAfter h, List.headD_cons]
  dsimp only
  rw [if_neg hne, hcook]
  dsimp only
  rw [hnext]

/-- The loop walks past other structs up to the end of the list. -/
theorem aimCookieFree_walk {cookie : CookiePtr} (h : s.Listed (l₁ ++ l₂)) (hno : cookie ∉ l₂)
    {fuel : Nat} (hfuel : l₂.length < fuel) :
    Loop.run (aimCookieFreePass cookie) fuel (linkAfter l₁, s) = some s := by
  have hpass : ∀ pre a post, l₂ = pre ++ a :: post →
      aimCookieFreePass cookie (linkAfter (l₁ ++ pre), s) = .again (.next a, s) := by
    intro pre a post heq
    have hne : a ≠ cookie := by
      rintro rfl
      exact hno (by simp [heq])
    rw [heq, ← List.append_assoc] at h
    rw [aimCookieFreePass_eq h, if_neg hne]
  have hend : aimCookieFreePass cookie (linkAfter (l₁ ++ l₂), s) = .leave s := by
    have hlink : s.link (linkAfter (l₁ ++ l₂)) = some 0 := by
      rw [← List.append_nil (l₁ ++ l₂)] at h
      exact Cookies.link_linkAfter h
    unfold aimCookieFreePass
    dsimp only
    rw [hlink]
    exact if_pos rfl
  obtain ⟨k, rfl⟩ : ∃ k, fuel = l₂.length + (k + 1) := ⟨fuel - l₂.length - 1, by omega⟩
  exact (run_linkAfter (fun link => (link, s)) hpass (k + 1)).trans (Loop.run_leave hend k)

/-- A struct of the list is taken out of it. -/
theorem aimCookieFree_unlink (h : s.Listed (l₁ ++ a :: l₂)) {fuel : Nat}
    (hfuel : (l₁ ++ a :: l₂).length < fuel) :
    Loop.run (aimCookieFreePass a) fuel (.head, s) =
      some (s.setLink (linkAfter l₁) (l₂.headD 0)) := by
  have hnodup := List.nodup_append.mp h.linked.nodup
  have hpass : ∀ pre b post, l₁ = pre ++ b :: post →
      aimCookieFreePass a (linkAfter ([] ++ pre), s) = .again (.next b, s) := by
    intro pre b post heq
    have hne : b ≠ a := hnodup.2.2 b (by simp [heq]) a List.mem_cons_self
    rw [heq, List.append_assoc, List.cons_append] at h
    rw [List.nil_append, aimCookieFreePass_eq h, if_neg hne]
  have hout := aimCookieFreePass_eq h a
  rw [if_pos rfl] at hout
  have hno : a ∉ l₂ := (List.nodup_cons.mp hnodup.2.1).1
  rw [List.length_append, List.length_cons] at hfuel
  obtain ⟨k, rfl⟩ : ∃ k, fuel = l₁.length + (k + 1) := ⟨fuel - l₁.length - 1, by omega⟩
  calc Loop.run (aimCookieFreePass a) (l₁.length + (k + 1)) (.head, s)
    _ = Loop.run (aimCookieFreePass a) (k + 1) (linkAfter l₁, s) :=
      run_linkAfter (fun link => (link, s)) hpass (k + 1)
    _ = Loop.run (aimCookieFreePass a) k
        (linkAfter l₁, s.setLink (linkAfter l₁) (l₂.headD 0)) := Loop.run_again hout k
    _ = some (s.setLink (linkAfter l₁) (l₂.headD 0)) :=
      aimCookieFree_walk (Cookies.listed_setLink h) hno (by omega)

end List

/-! ## The list and the map -/

namespace Cookies.Refines

variable {s : Cookies} {m : CookieMap} {l : List CookiePtr} {p : CookiePtr} {v : CookieStruct}

theorem key_eq (h : s.Refines m) : s.key p = (m.structs p).map CookieStruct.key := by
  rw [Cookies.key, h.struct_eq]

/-- The list is no longer than the number of structs there have been. -/
theorem length_le (h : s.Refines m) (hl : s.Listed l) : l.length ≤ s.allocs := by
  obtain ⟨live, hlen, hlive⟩ := h.enough
  have hsub : l ⊆ live := by
    intro p hp
    obtain ⟨cook, hcook⟩ := hl.linked.live hp
    exact hlive p (by simp [Cookies.struct, hcook])
  exact Nat.le_trans (hl.linked.nodup.subperm hsub).length_le hlen

theorem mem_of_struct (h : s.Refines m) (hv : m.structs p = some v) :
    ∃ cook, s.mem p = some cook ∧ cook.struct = v := by
  rw [← h.struct_eq] at hv
  exact Option.map_eq_some_iff.mp hv

theorem ne_zero (h : s.Refines m) (hv : m.structs p = some v) : p ≠ 0 := by
  rintro rfl
  rw [← h.struct_eq, h.null] at hv
  exact absurd hv.symm (Option.some_ne_none v)

/-- Another struct at `p`, with links and keys that fit. -/
theorem of_update (h : s.Refines m) {t : Cookies} {m' : CookieMap} {x : Option AimMsgcookie}
    (hp : p ≠ 0) (hmem : t.mem = Function.update s.mem p x)
    (hstructs : m'.structs = Function.update m.structs p (x.map AimMsgcookie.struct))
    (hfreed : t.freed = m'.freed) (henough : t.Enough) (hl : t.Listed l)
    (hiff : ∀ k q, m'.cached k = some q ↔ q ∈ l ∧ t.key q = some k) : t.Refines m' := by
  have hstruct := Cookies.struct_of_update hmem
  refine ⟨?_, hfreed, ?_, ⟨l, hl, hiff⟩, henough⟩
  · rw [hstruct, hstructs, h.struct_eq]
  · rw [hstruct, Function.update_of_ne hp.symm, h.null]

/-- A struct is taken out of the list. -/
theorem drop (h : s.Refines m) {l₁ l₂ : List CookiePtr} {k : CookieKey}
    (hl : s.Listed (l₁ ++ p :: l₂)) (hiff : ∀ k q, m.cached k = some q ↔
      q ∈ l₁ ++ p :: l₂ ∧ s.key q = some k) (hk : s.key p = some k) :
    (s.setLink (linkAfter l₁) (l₂.headD 0)).Refines (m.drop k) := by
  have hout : p ∉ l₁ ++ l₂ := by
    have hnodup := hl.linked.nodup
    rw [List.nodup_middle] at hnodup
    exact (List.nodup_cons.mp hnodup).1
  have hstruct := s.struct_setLink (linkAfter l₁) (l₂.headD 0)
  have hkey : (s.setLink (linkAfter l₁) (l₂.headD 0)).key = s.key := by
    unfold Cookies.key
    rw [hstruct]
  have hcached : m.cached k = some p := (hiff k p).mpr ⟨by simp, hk⟩
  refine ⟨hstruct.trans h.struct_eq, h.freed_eq, ?_,
    ⟨l₁ ++ l₂, Cookies.listed_setLink hl, fun k' q => ?_⟩, ?_⟩
  · rw [hstruct, h.null]
  · rw [hkey]
    show Function.update m.cached k none k' = some q ↔ _
    by_cases hkk : k' = k
    · rw [hkk, Function.update_self]
      refine ⟨fun hno => absurd hno (Option.some_ne_none q).symm, fun ⟨hq, hkey⟩ => ?_⟩
      have hq' : q ∈ l₁ ++ p :: l₂ := by
        rw [List.mem_append] at hq ⊢
        exact hq.imp_right (List.mem_cons_of_mem p)
      obtain rfl : p = q := Option.some.inj (hcached.symm.trans ((hiff k q).mpr ⟨hq', hkey⟩))
      exact absurd hq hout
    · rw [Function.update_of_ne hkk, hiff]
      refine and_congr_left fun hkey => ?_
      have hne : q ≠ p := by
        rintro rfl
        exact hkk (Option.some.inj (hkey.symm.trans hk))
      simp [hne]
  · obtain ⟨live, hlen, hlive⟩ := h.enough
    exact ⟨live, hlen, fun q hq => hlive q (hstruct ▸ hq)⟩

/-- Where the struct was live already. -/
theorem enough_update (h : s.Refines m) (hv : m.structs p = some v) {t : Cookies}
    {x : Option AimMsgcookie} (hmem : t.mem = Function.update s.mem p x)
    (hallocs : t.allocs = s.allocs) : t.Enough := by
  obtain ⟨live, hlen, hlive⟩ := h.enough
  refine ⟨live, hallocs ▸ hlen, fun q hq => hlive q ?_⟩
  rw [Cookies.struct_of_update hmem] at hq
  by_cases heq : q = p
  · rw [heq, h.struct_eq, hv]
    exact Option.some_ne_none v
  · rwa [Function.update_of_ne heq] at hq

/-- A struct outside of the list is given back. -/
theorem release (h : s.Refines m) (hv : m.structs p = some v) (hout : ∀ k, m.cached k ≠ some p) :
    ∃ s', freeCookie p s = some s' ∧ s'.Refines (m.release p v) := by
  obtain ⟨cook, hcook, rfl⟩ := h.mem_of_struct hv
  obtain ⟨l, hl, hiff⟩ := h.listed
  have hp : p ∉ l := fun hp =>
    hout cook.struct.key ((hiff _ p).mpr ⟨hp, by rw [h.key_eq, hv, Option.map_some]⟩)
  have hmem : Cookies.mem
      { s with mem := Function.update s.mem p none, freed := s.freed ++ [cook.data] } =
        Function.update s.mem p none := rfl
  refine ⟨_, by rw [freeCookie, hcook], h.of_update (h.ne_zero hv) hmem rfl
    (congrArg (· ++ [cook.data]) h.freed_eq) (h.enough_update hv hmem rfl)
    ⟨hl.head_eq, hl.linked.update hp none⟩ fun k q => ?_⟩
  refine (hiff k q).trans (and_congr_right fun hq => ?_)
  have hne : q ≠ p := by
    rintro rfl
    exact hp hq
  rw [Cookies.key, Cookies.key, Cookies.struct_of_update hmem, Function.update_of_ne hne]

/-- A struct gets another time. -/
theorem put (h : s.Refines m) {cook : AimMsgcookie} (hcook : s.mem p = some cook) (now : Int) :
    (s.setCookie p { cook with addtime := now }).Refines
      (m.put p { cook.struct with addtime := now }) := by
  obtain ⟨l, hl, hiff⟩ := h.listed
  have hv : m.structs p = some cook.struct := by
    rw [← h.struct_eq, Cookies.struct, hcook, Option.map_some]
  have hmem : (s.setCookie p { cook with addtime := now }).mem =
      Function.update s.mem p (some { cook with addtime := now }) := rfl
  have hkey : (s.setCookie p { cook with addtime := now }).key = s.key :=
    Cookies.key_of_update hmem (by rw [hcook]; rfl)
  refine h.of_update (h.ne_zero hv) hmem rfl h.freed_eq (h.enough_update hv hmem rfl)
    ⟨hl.head_eq, hl.linked.congr fun q _ => ?_⟩ fun k q => ?_
  · rw [hmem]
    by_cases hq : q = p
    · rw [hq, Function.update_self, hcook]
      rfl
    · rw [Function.update_of_ne hq]
  · rw [hkey]
    exact hiff k q

/-- A struct outside of the list is put in front of it, where nothing is cached under its key. -/
theorem push (h : s.Refines m) {cook : AimMsgcookie} (hcook : s.mem p = some cook)
    (hnone : m.cached cook.struct.key = none) (now : Int) :
    ∃ s', pushCookie now p s = some s' ∧
      s'.Refines { m.put p { cook.struct with addtime := now } with
        cached := Function.update m.cached cook.struct.key (some p) } := by
  obtain ⟨l, hl, hiff⟩ := h.listed
  have hv : m.structs p = some cook.struct := by
    rw [← h.struct_eq, Cookies.struct, hcook, Option.map_some]
  have hkp : s.key p = some cook.struct.key := by rw [h.key_eq, hv, Option.map_some]
  have hp : p ∉ l := fun hp => by
    rw [(hiff _ p).mpr ⟨hp, hkp⟩] at hnone
    exact Option.some_ne_none p hnone
  have hne := h.ne_zero hv
  have hmem : Cookies.mem { s.setCookie p { cook with addtime := now, next := s.msgcookies } with
      msgcookies := p } =
        Function.update s.mem p (some { cook with addtime := now, next := s.msgcookies }) := rfl
  have hkey := Cookies.key_of_update hmem (by rw [hcook]; rfl)
  have hl' : Chain 0 AimMsgcookie.next s.msgcookies
      (Function.update s.mem p (some { cook with addtime := now, next := s.msgcookies })) l :=
    ⟨hl.head_eq, hl.linked.update hp _⟩
  refine ⟨_, by rw [pushCookie, hcook], h.of_update hne hmem rfl h.freed_eq
    (h.enough_update hv hmem rfl) (hl'.cons hne (Function.update_self ..) rfl) fun k q => ?_⟩
  rw [hkey]
  show Function.update m.cached cook.struct.key (some p) k = some q ↔ _
  by_cases hk : k = cook.struct.key
  · rw [hk, Function.update_self, Option.some_inj]
    constructor
    · rintro rfl
      exact ⟨List.mem_cons_self, hkp⟩
    · rintro ⟨hq, hkq⟩
      rcases List.mem_cons.mp hq with rfl | hq
      · rfl
      · rw [(hiff _ q).mpr ⟨hq, hkq⟩] at hnone
        exact absurd hnone (Option.some_ne_none q)
  · rw [Function.update_of_ne hk, hiff]
    refine and_congr_left fun hkq => ?_
    have hqp : q ≠ p := by
      rintro rfl
      exact hk (Option.some.inj (hkq.symm.trans hkp))
    simp [hqp]

/-- A new struct. -/
theorem make (h : s.Refines m) (hp : p ≠ 0) (hnone : m.structs p = none) (c : Cookie) (type : Int)
    (data : Nat) : (aimMkcookie p (some c) type data s).1 = p ∧
      (aimMkcookie p (some c) type data s).2.Refines (m.put p ⟨c, type, data, 0⟩) := by
  have hmk : aimMkcookie p (some c) type data s =
      (p, { s.setCookie p ⟨c, type, data, 0, 0⟩ with allocs := s.allocs + 1 }) := if_neg hp
  obtain ⟨l, hl, hiff⟩ := h.listed
  have hout : p ∉ l := by
    intro hmem
    obtain ⟨cook, hcook⟩ := hl.linked.live hmem
    rw [← h.struct_eq, Cookies.struct, hcook] at hnone
    exact Option.some_ne_none _ hnone
  have hmem : Cookies.mem { s.setCookie p ⟨c, type, data, 0, 0⟩ with allocs := s.allocs + 1 } =
      Function.update s.mem p (some ⟨c, type, data, 0, 0⟩) := rfl
  have hstruct := Cookies.struct_of_update hmem
  rw [hmk]
  refine ⟨rfl, h.of_update hp hmem rfl h.freed_eq ?_ ⟨hl.head_eq, hl.linked.update hout _⟩
    fun k q => ?_⟩
  · obtain ⟨live, hlen, hlive⟩ := h.enough
    refine ⟨p :: live, Nat.succ_le_succ hlen, fun q hq => ?_⟩
    by_cases heq : q = p
    · rw [heq]
      exact List.mem_cons_self
    · rw [hstruct, Function.update_of_ne heq] at hq
      exact List.mem_cons_of_mem p (hlive q hq)
  · refine (hiff k q).trans (and_congr_right fun hq => ?_)
    have hne : q ≠ p := by
      rintro rfl
      exact hout hq
    rw [Cookies.key, Cookies.key, hstruct, Function.update_of_ne hne]

/-! ### The functions -/

theorem free (h : s.Refines m) (hv : m.structs p = some v) :
    ∃ s', aimCookieFree p s = some (0, s') ∧ s'.Refines (m.free p) := by
  obtain ⟨l, hl, hiff⟩ := h.listed
  have hlen := h.length_le hl
  have hkey : s.key p = some v.key := by rw [h.key_eq, hv, Option.map_some]
  unfold aimCookieFree CookieMap.free
  rw [if_neg (h.ne_zero hv), hv]
  dsimp only
  by_cases hcached : m.cached v.key = some p
  · obtain ⟨l₁, l₂, rfl⟩ := List.append_of_mem ((hiff _ p).mp hcached).1
    have hdrop := h.drop hl hiff hkey
    have hout : ∀ k, (m.drop v.key).cached k ≠ some p := by
      intro k hk
      have hk' : Function.update m.cached v.key none k = some p := hk
      by_cases hkv : k = v.key
      · rw [hkv, Function.update_self] at hk'
        exact Option.some_ne_none p hk'.symm
      · rw [Function.update_of_ne hkv, hiff, hkey] at hk'
        exact hkv (Option.some.inj hk'.2).symm
    obtain ⟨s', hfree, hs'⟩ := hdrop.release hv hout
    rw [aimCookieFree_unlink hl (Nat.lt_succ_of_le hlen), if_pos hcached]
    dsimp only
    rw [hfree]
    exact ⟨s', rfl, hs'⟩
  · have hno : p ∉ l := fun hp => hcached ((hiff _ p).mpr ⟨hp, hkey⟩)
    have hout : ∀ k, m.cached k ≠ some p := fun k hk => hno ((hiff k p).mp hk).1
    obtain ⟨s', hfree, hs'⟩ := h.release hv hout
    have hwalk : Loop.run (aimCookieFreePass p) (s.allocs + 1) (.head, s) = some s :=
      @aimCookieFree_walk s [] l p hl hno _ (Nat.lt_succ_of_le hlen)
    rw [hwalk, if_neg hcached]
    dsimp only
    rw [hfree]
    exact ⟨s', rfl, hs'⟩

theorem check (h : s.Refines m) (cookie : Cookie) (type : Int) :
    aimCheckcookie s cookie type = some ((m.cached (cookie, type)).getD 0) := by
  obtain ⟨l, hl, hiff⟩ := h.listed
  rw [aimCheckcookie_eq hl (h.length_le hl)]
  congr 2
  cases hfind : l.find? fun p => decide (s.key p = some (cookie, type)) with
  | none =>
    have hno := List.find?_eq_none.mp hfind
    cases hcached : m.cached (cookie, type) with
    | none => rfl
    | some p =>
      obtain ⟨hp, hkey⟩ := (hiff _ p).mp hcached
      exact absurd (decide_eq_true hkey) (hno p hp)
  | some p =>
    have hkey : s.key p = some (cookie, type) := by simpa using List.find?_some hfind
    exact ((hiff _ p).mpr ⟨List.mem_of_find?_eq_some hfind, hkey⟩).symm

theorem uncache (h : s.Refines m) (cookie : Cookie) (type : Int) :
    ∃ s', aimUncachecookie (some cookie) type s =
      some ((m.cached (cookie, type)).getD 0, s') ∧ s'.Refines (m.drop (cookie, type)) := by
  obtain ⟨l, hl, hiff⟩ := h.listed
  have hlen := h.length_le hl
  cases hcached : m.cached (cookie, type) with
  | none =>
    have hno : ∀ p ∈ l, s.key p ≠ some (cookie, type) := by
      intro p hp hkey
      rw [(hiff _ p).mpr ⟨hp, hkey⟩] at hcached
      exact Option.some_ne_none p hcached
    have hsame : m.drop (cookie, type) = m := by
      rw [CookieMap.drop, ← hcached, Function.update_eq_self]
    rw [hsame]
    exact ⟨s, aimUncachecookie_none hl hlen hno, h⟩
  | some p =>
    obtain ⟨hp, hkey⟩ := (hiff _ p).mp hcached
    obtain ⟨l₁, l₂, rfl⟩ := List.append_of_mem hp
    have hno : ∀ q ∈ l₁, s.key q ≠ some (cookie, type) := by
      intro q hq hkq
      have heq := (hiff _ q).mpr ⟨List.mem_append_left _ hq, hkq⟩
      obtain rfl : p = q := Option.some.inj (hcached.symm.trans heq)
      exact (List.nodup_append.mp hl.linked.nodup).2.2 p hq p List.mem_cons_self rfl
    exact ⟨_, aimUncachecookie_some hl hlen hno hkey, h.drop hl hiff hkey⟩

theorem cache (h : s.Refines m) (hv : m.structs p = some v) (now : Int) :
    ∃ s', aimCachecookie now p s = some ((m.cache now p).1, s') ∧
      s'.Refines (m.cache now p).2 := by
  obtain ⟨cook, hcook, rfl⟩ := h.mem_of_struct hv
  have hcheck := h.check cook.cookie cook.type
  have hkey : (cook.cookie, cook.type) = cook.struct.key := rfl
  rw [hkey] at hcheck
  unfold aimCachecookie CookieMap.cache
  rw [if_neg (h.ne_zero hv), hcook, hv]
  dsimp only
  rw [hcheck]
  dsimp only
  cases hcached : m.cached cook.struct.key with
  | none =>
    -- nothing is cached under the key: the struct becomes the head of the list
    obtain ⟨s', hpush, hs'⟩ := h.push hcook hcached now
    rw [if_neg (Option.some_ne_none p).symm, Option.getD_none, if_neg (h.ne_zero hv).symm,
      if_neg (not_not_intro rfl), hpush]
    exact ⟨s', rfl, hs'⟩
  | some q =>
    rw [Option.getD_some]
    by_cases hq : q = p
    · -- the struct is already cached
      rw [if_pos hq, if_pos (congrArg some hq)]
      exact ⟨_, rfl, h.put hcook now⟩
    · -- another struct is cached under the key, and is freed first
      obtain ⟨l, hl, hiff⟩ := h.listed
      obtain ⟨hqmem, hqkey⟩ := (hiff _ q).mp hcached
      rw [h.key_eq, Option.map_eq_some_iff] at hqkey
      obtain ⟨w, hw, hwkey⟩ := hqkey
      obtain ⟨s₁, hfree, hs₁⟩ := h.free hw
      have hq0 : q ≠ 0 := h.ne_zero hw
      have hfreed : m.free q = (m.drop cook.struct.key).release q w := by
        rw [CookieMap.free, hw]
        dsimp only
        rw [hwkey, if_pos hcached]
      rw [if_neg hq, if_pos hq0, hfree, if_neg (fun heq => hq (Option.some.inj heq))]
      dsimp only
      have hv₁ : (m.free q).structs p = some cook.struct := by
        rw [hfreed]
        exact (Function.update_of_ne (Ne.symm hq) ..).trans hv
      obtain ⟨cook₁, hcook₁, hstruct₁⟩ := hs₁.mem_of_struct hv₁
      have hnone : (m.free q).cached cook₁.struct.key = none := by
        rw [hstruct₁, hfreed]
        exact Function.update_self ..
      obtain ⟨s', hpush, hs'⟩ := hs₁.push hcook₁ hnone now
      rw [hpush]
      rw [hstruct₁] at hs'
      exact ⟨s', rfl, hs'⟩

end Cookies.Refines

/-! ## Runs -/

theorem Cookies.refines_init : cookiesInit.Refines .empty where
  struct_eq := rfl
  freed_eq := rfl
  null := rfl
  listed := ⟨[], Chain.nil _, fun _ q =>
    ⟨fun h => absurd h (Option.some_ne_none q).symm, fun h => absurd h.1 List.not_mem_nil⟩⟩
  enough := ⟨[], Nat.le_refl _, fun _ h => absurd rfl h⟩

/-- One operation on the list does what it does on the map. -/
theorem CookieOp.refines {s : Cookies} {m : CookieMap} (h : s.Refines m) {op : CookieOp}
    (hop : op.Valid m) : ∃ s', op.run s = some ((op.spec m).1, s') ∧ s'.Refines (op.spec m).2 := by
  cases op with
  | mkcookie p c type data =>
    cases c with
    | none => exact ⟨s, rfl, h⟩
    | some c =>
      by_cases hp : p = 0
      · have hmk : aimMkcookie p (some c) type data s = (0, s) := if_pos hp
        simp only [run, spec, hmk, if_pos hp]
        exact ⟨s, rfl, h⟩
      · obtain ⟨hptr, hs'⟩ := h.make hp hop c type data
        simp only [run, spec, hptr, if_neg hp]
        exact ⟨_, rfl, hs'⟩
  | cachecookie now p =>
    by_cases hp : p = 0
    · have hnull : aimCachecookie now p s = some (-einval, s) := if_pos hp
      simp only [run, spec, hnull, if_pos hp]
      exact ⟨s, rfl, h⟩
    · obtain ⟨v, hv⟩ := Option.ne_none_iff_exists'.mp (hop.resolve_left hp)
      obtain ⟨s', hcache, hs'⟩ := h.cache hv now
      simp only [run, spec, hcache, if_neg hp]
      exact ⟨s', rfl, hs'⟩
  | uncachecookie cookie type =>
    cases cookie with
    | none => exact ⟨s, rfl, h⟩
    | some cookie =>
      obtain ⟨s', huncache, hs'⟩ := h.uncache cookie type
      simp only [run, spec, huncache]
      exact ⟨s', rfl, hs'⟩
  | checkcookie cookie type =>
    have hcheck := h.check cookie type
    simp only [run, spec, hcheck]
    exact ⟨s, rfl, h⟩
  | cookieFree p =>
    by_cases hp : p = 0
    · have hnull : aimCookieFree p s = some (-einval, s) := if_pos hp
      simp only [run, spec, hnull, if_pos hp]
      exact ⟨s, rfl, h⟩
    · obtain ⟨v, hv⟩ := Option.ne_none_iff_exists'.mp (hop.resolve_left hp)
      obtain ⟨s', hfree, hs'⟩ := h.free hv
      simp only [run, spec, hfree, if_neg hp]
      exact ⟨s', rfl, hs'⟩

/-- The list has one struct for each key at most. -/
theorem Cookies.Refines.nodup {s : Cookies} {m : CookieMap} (h : s.Refines m) :
    ∃ l, s.Listed l ∧ (l.map s.key).Nodup ∧ ∀ p ∈ l, s.struct p ≠ none := by
  obtain ⟨l, hl, hiff⟩ := h.listed
  have hlive : ∀ p ∈ l, s.struct p ≠ none := by
    intro p hp
    obtain ⟨cook, hcook⟩ := hl.linked.live hp
    simp [Cookies.struct, hcook]
  refine ⟨l, hl, List.Nodup.map_on (fun p hp q hq heq => ?_) hl.linked.nodup, hlive⟩
  obtain ⟨v, hv⟩ := Option.ne_none_iff_exists'.mp (hlive p hp)
  have hkp : s.key p = some v.key := by rw [Cookies.key, hv, Option.map_some]
  have hp' := (hiff _ p).mpr ⟨hp, hkp⟩
  have hq' := (hiff _ q).mpr ⟨hq, heq.symm.trans hkp⟩
  exact Option.some.inj (hp'.symm.trans hq')

theorem CookieOp.keepsOthers {s : Cookies} {m : CookieMap} (h : s.Refines m) {op : CookieOp}
    (hop : op.Valid m) : op.KeepsOthers m := by
  obtain ⟨l, -, hiff⟩ := h.listed
  have hkeys : ∀ k p, m.cached k = some p → (m.structs p).map CookieStruct.key = some k := by
    intro k p hp
    rw [← h.struct_eq]
    exact ((hiff k p).mp hp).2
  intro k p hp hother
  obtain ⟨v, hv, hkey⟩ := Option.map_eq_some_iff.mp (hkeys k p hp)
  rw [hv]
  exact CookieOp.keeps hop hv hkey hp hother hkeys

def runCookieOps : List CookieOp → Cookies → Option (List CookieRet × Cookies)
  | [], s => some ([], s)
  | op :: ops, s =>
    match op.run s with
    | none => none
    | some (ret, s) => (runCookieOps ops s).map fun r => (ret :: r.1, r.2)

def CookieMap.runOps : List CookieOp → CookieMap → List CookieRet × CookieMap
  | [], m => ([], m)
  | op :: ops, m =>
    let r := CookieMap.runOps ops (op.spec m).2
    ((op.spec m).1 :: r.1, r.2)

/-- Every operation is valid where it is called. -/
def ValidCookieOps : CookieMap → List CookieOp → Prop
  | _, [] => True
  | m, op :: ops => op.Valid m ∧ ValidCookieOps (op.spec m).2 ops

theorem Cookies.Refines.runOps {s : Cookies} {m : CookieMap} (h : s.Refines m)
    {ops : List CookieOp} (hops : ValidCookieOps m ops) :
    ∃ s', runCookieOps ops s = some ((m.runOps ops).1, s') ∧ s'.Refines (m.runOps ops).2 := by
  induction ops generalizing s m with
  | nil => exact ⟨s, rfl, h⟩
  | cons op ops ih =>
    obtain ⟨s₁, hrun, hs₁⟩ := CookieOp.refines h hops.1
    obtain ⟨s', hrest, hs'⟩ := ih hs₁ hops.2
    refine ⟨s', ?_, hs'⟩
    rw [runCookieOps, hrun]
    dsimp only
    rw [hrest]
    rfl

/-- In every sequence of valid operations from the empty session, the operations return what they do
on the map, the list holds exactly what the map does, it has only live structs, one for each key,
and no operation that can follow changes what is cached under another key. -/
theorem runCookieOps_refines {ops : List CookieOp} (hops : ValidCookieOps .empty ops) :
    ∃ s, runCookieOps ops cookiesInit = some ((CookieMap.empty.runOps ops).1, s) ∧
      s.Refines (CookieMap.empty.runOps ops).2 ∧
      (∃ l, s.Listed l ∧ (l.map s.key).Nodup ∧ ∀ p ∈ l, s.struct p ≠ none) ∧
      ∀ op : CookieOp, op.Valid (CookieMap.empty.runOps ops).2 →
        op.KeepsOthers (CookieMap.empty.runOps ops).2 := by
  obtain ⟨s, hrun, hs⟩ := Cookies.refines_init.runOps hops
  exact ⟨s, hrun, hs, hs.nodup, fun _ hop => CookieOp.keepsOthers hs hop⟩

section Example

/-- Two structs with one key are cached; the second one takes the place of the first, and is taken
out and given back. -/
def collidingOps : List CookieOp :=
  let cookie := Vector.replicate 8 0x31
  [.mkcookie 1 (some cookie) aimCookietypeOftim 7, .cachecookie 0 1, .cachecookie 1 1,
    .mkcookie 2 (some cookie) aimCookietypeOftim 8, .cachecookie 2 2,
    .checkcookie cookie aimCookietypeOftsend, .uncachecookie (some cookie) aimCookietypeOftim,
    .cookieFree 2]

theorem runCookieOps_refines_colliding : ∃ s, runCookieOps collidingOps cookiesInit =
      some ([.ptr 1, .int 0, .int 1, .ptr 2, .int 0, .ptr 0, .ptr 2, .int 0], s) ∧
    s.Refines (CookieMap.empty.runOps collidingOps).2 ∧
    (∃ l, s.Listed l ∧ (l.map s.key).Nodup ∧ ∀ p ∈ l, s.struct p ≠ none) ∧
    ∀ op : CookieOp, op.Valid (CookieMap.empty.runOps collidingOps).2 →
      op.KeepsOthers (CookieMap.empty.runOps collidingOps).2 := by
  have hvalid : ValidCookieOps .empty collidingOps :=
    ⟨rfl, .inr (by decide), .inr (by decide), rfl, .inr (by decide), trivial, trivial,
      .inr (by decide), trivial⟩
  exact runCookieOps_refines hvalid

end Example

end Libfaim
