import Libfaim.Lib.Loop
import Mathlib.Data.List.Nodup
import Mathlib.Logic.Function.Basic

/-!
# Singly linked lists in a heap

A heap is a partial map from addresses to cells, and `next` is the link in a cell; `null` ends a
list. `Chain head mem l` says that the list that starts at `head` has its cells, all of them live,
at the addresses `l` in this order. An address determines its list, so no cell is in it twice
(`Linked.nodup`).

A loop that walks along a list keeps either the address it is at (`Chain.run_find`) or the link it
came through (`Link`, a pointer to a pointer; `run_linkAfter`). Writing the next address to the link
to a cell takes the cell out of the list (`Chain.unlink`).
-/

namespace HeapList

variable {α ν ρ : Type*} (null : α) (next : ν → α)

/-- Where a link is kept: in the variable with the head of the list, or in a cell. -/
inductive Link (α : Type*) where
  | head
  | next (p : α)

/-- What is read from a link; `none` where the cell is not live. -/
def deref (head : α) (mem : α → Option ν) : Link α → Option α
  | .head => some head
  | .next p => (mem p).map next

/-- Live cells at these addresses, each linked to the one behind it. -/
def Linked (mem : α → Option ν) : List α → Prop
  | [] => True
  | a :: l => a ≠ null ∧ (∃ v, mem a = some v ∧ next v = l.headD null) ∧ Linked mem l

structure Chain (head : α) (mem : α → Option ν) (l : List α) : Prop where
  head_eq : head = l.headD null
  linked : Linked null next mem l

/-- The link behind these cells. -/
def linkAfter (l : List α) : Link α :=
  match l.getLast? with
  | none => .head
  | some p => .next p

variable {null next} {mem mem' : α → Option ν} {l l' : List α} {a head : α}

theorem linkAfter_append_singleton (l : List α) (a : α) : linkAfter (l ++ [a]) = .next a := by
  rw [linkAfter, List.getLast?_concat]

namespace Linked

theorem right_of_append {l₁ l₂ : List α} (h : Linked null next mem (l₁ ++ l₂)) :
    Linked null next mem l₂ := by
  induction l₁ with
  | nil => exact h
  | cons a l₁ ih => exact ih h.2.2

theorem live (h : Linked null next mem l) (ha : a ∈ l) : ∃ v, mem a = some v := by
  obtain ⟨l₁, l₂, rfl⟩ := List.append_of_mem ha
  obtain ⟨-, ⟨v, hv, -⟩, -⟩ := right_of_append h
  exact ⟨v, hv⟩

theorem ne_null (h : Linked null next mem l) (ha : a ∈ l) : a ≠ null := by
  obtain ⟨l₁, l₂, rfl⟩ := List.append_of_mem ha
  exact (right_of_append h).1

/-- The list that starts at an address. -/
theorem unique (h : Linked null next mem l) (h' : Linked null next mem l')
    (hhead : l.headD null = l'.headD null) : l = l' := by
  induction l generalizing l' with
  | nil =>
    cases l' with
    | nil => rfl
    | cons b l' => exact absurd hhead.symm h'.1
  | cons a l ih =>
    cases l' with
    | nil => exact absurd hhead h.1
    | cons b l' =>
      obtain rfl : a = b := hhead
      obtain ⟨-, ⟨v, hv, hnext⟩, hl⟩ := h
      obtain ⟨-, ⟨w, hw, hnext'⟩, hl'⟩ := h'
      obtain rfl := Option.some.inj (hv.symm.trans hw)
      rw [ih hl hl' (hnext.symm.trans hnext')]

theorem nodup (h : Linked null next mem l) : l.Nodup := by
  induction l with
  | nil => exact List.nodup_nil
  | cons a l ih =>
    refine List.nodup_cons.mpr ⟨fun hmem => ?_, ih h.2.2⟩
    obtain ⟨l₁, l₂, rfl⟩ := List.append_of_mem hmem
    have hrest : Linked null next mem (a :: l₂) := right_of_append h.2.2
    have heq := congrArg List.length (h.unique hrest rfl)
    simp only [List.length_cons, List.length_append] at heq
    omega

/-- Only the links matter. -/
theorem congr (h : Linked null next mem l)
    (hmem : ∀ a ∈ l, (mem' a).map next = (mem a).map next) : Linked null next mem' l := by
  induction l with
  | nil => trivial
  | cons a l ih =>
    obtain ⟨hne, ⟨v, hv, hnext⟩, hl⟩ := h
    have ha := hmem a List.mem_cons_self
    rw [hv, Option.map_some, Option.map_eq_some_iff] at ha
    obtain ⟨w, hw, hlink⟩ := ha
    exact ⟨hne, ⟨w, hw, hlink.trans hnext⟩, ih hl fun b hb => hmem b (List.mem_cons_of_mem a hb)⟩

/-- Writes to a cell that is not in the list. -/
theorem update [DecidableEq α] (h : Linked null next mem l) (ha : a ∉ l) (x : Option ν) :
    Linked null next (Function.update mem a x) l :=
  h.congr fun b hb => by
    rw [Function.update_of_ne]
    rintro rfl
    exact ha hb

/-- Another end behind the cell at `a`. -/
theorem replace {l₁ : List α} (h : Linked null next mem (l₁ ++ a :: l))
    (hmem : ∀ b ∈ l₁, (mem' b).map next = (mem b).map next)
    (h' : Linked null next mem' (a :: l')) : Linked null next mem' (l₁ ++ a :: l') := by
  induction l₁ with
  | nil => exact h'
  | cons b l₁ ih =>
    obtain ⟨hne, ⟨v, hv, hnext⟩, hl⟩ := h
    have hb := hmem b List.mem_cons_self
    rw [hv, Option.map_some, Option.map_eq_some_iff] at hb
    obtain ⟨w, hw, hlink⟩ := hb
    have hhead : (l₁ ++ a :: l).headD null = (l₁ ++ a :: l').headD null := by cases l₁ <;> rfl
    exact ⟨hne, ⟨w, hw, hlink.trans (hnext.trans hhead)⟩,
      ih hl fun c hc => hmem c (List.mem_cons_of_mem b hc)⟩

end Linked

namespace Chain

theorem nil (mem : α → Option ν) : Chain null next null mem [] := ⟨rfl, trivial⟩

/-- A new cell in front. -/
theorem cons (h : Chain null next head mem l) {v : ν} (hne : a ≠ null) (hv : mem a = some v)
    (hnext : next v = head) : Chain null next a mem (a :: l) :=
  ⟨rfl, hne, ⟨v, hv, hnext.trans h.head_eq⟩, h.linked⟩

theorem deref_linkAfter {l₁ l₂ : List α} (h : Chain null next head mem (l₁ ++ l₂)) :
    deref next head mem (linkAfter l₁) = some (l₂.headD null) := by
  rcases List.eq_nil_or_concat' l₁ with rfl | ⟨l₀, p, rfl⟩
  · exact congrArg some h.head_eq
  · have hlinked := h.linked
    rw [List.append_assoc] at hlinked
    obtain ⟨-, ⟨v, hv, hnext⟩, -⟩ := hlinked.right_of_append
    rw [linkAfter_append_singleton, deref, hv, Option.map_some, hnext]
    rfl

end Chain

/-! ## Unlinking -/

section Unlink

variable [DecidableEq α] (setNext : ν → α → ν)

/-- The head and the heap after an address is written to a link. -/
def setLink (q : α) : Link α → α × (α → Option ν) → α × (α → Option ν)
  | .head, (_, mem) => (q, mem)
  | .next p, (head, mem) => (head, Function.update mem p ((mem p).map (setNext · q)))

variable {setNext}

theorem Chain.unlink (hset : ∀ v q, next (setNext v q) = q) {l₁ l₂ : List α}
    (h : Chain null next head mem (l₁ ++ a :: l₂)) :
    Chain null next (setLink setNext (l₂.headD null) (linkAfter l₁) (head, mem)).1
      (setLink setNext (l₂.headD null) (linkAfter l₁) (head, mem)).2 (l₁ ++ l₂) := by
  rcases List.eq_nil_or_concat' l₁ with rfl | ⟨l₀, p, rfl⟩
  · exact ⟨rfl, h.linked.2.2⟩
  · have hlinked := h.linked
    have hhead : head = (l₀ ++ [p] ++ l₂).headD null := by
      rw [h.head_eq]
      cases l₀ <;> rfl
    rw [linkAfter_append_singleton]
    refine ⟨hhead, ?_⟩
    rw [List.append_assoc] at hlinked ⊢
    have hnodup := hlinked.nodup
    obtain ⟨hne, ⟨v, hv, -⟩, hrest⟩ := hlinked.right_of_append
    have hp : p ∉ l₂ := by
      intro hp
      have := (List.nodup_append.mp hnodup).2.1
      simp [hp] at this
    refine hlinked.replace (fun b hb => ?_) ⟨hne, ⟨setNext v (l₂.headD null), ?_, hset _ _⟩, ?_⟩
    · have hne : b ≠ p := fun heq => (List.nodup_append.mp hnodup).2.2 b hb p (by simp) heq
      exact congrArg (Option.map next) (Function.update_of_ne hne _ _)
    · show Function.update mem p ((mem p).map (setNext · (l₂.headD null))) p = _
      rw [Function.update_self, hv, Option.map_some]
    · exact (hrest.2.2).update hp _

end Unlink

/-! ## Walking along a list -/

/-- A loop that is left at the first cell of which `test` holds, or at the end. -/
theorem Chain.run_find {body : α → Loop.Pass α α} {test : α → Prop} [DecidablePred test]
    (h : Chain null next head mem l) (hnull : body null = .leave null)
    (hcell : ∀ a v, a ≠ null → mem a = some v →
      body a = if test a then .leave a else .again (next v)) {fuel : Nat}
    (hfuel : l.length < fuel) :
    Loop.run body fuel head = some ((l.find? (test ·)).getD null) := by
  obtain ⟨hhead, hlinked⟩ := h
  induction l generalizing head fuel with
  | nil =>
    obtain ⟨fuel, rfl⟩ := Nat.exists_eq_add_of_lt hfuel
    rw [hhead]
    exact Loop.run_leave hnull _
  | cons a l ih =>
    obtain ⟨fuel, rfl⟩ : ∃ k, fuel = k + 1 := ⟨fuel - 1, by omega⟩
    obtain ⟨hne, ⟨v, hv, hnext⟩, hl⟩ := hlinked
    have hbody := hcell a v hne hv
    obtain rfl : head = a := hhead
    by_cases htest : test head
    · rw [if_pos htest] at hbody
      rw [Loop.run_leave hbody, List.find?_cons_of_pos (by simpa using htest)]
      rfl
    · rw [if_neg htest] at hbody
      rw [Loop.run_again hbody, List.find?_cons_of_neg (by simpa using htest)]
      exact ih (Nat.lt_of_succ_lt_succ hfuel) hnext hl

/-- A loop that goes from link to link along `l₂`. -/
theorem run_linkAfter {σ : Type*} {body : σ → Loop.Pass σ ρ} (st : Link α → σ) {l₁ l₂ : List α}
    (h : ∀ pre a post, l₂ = pre ++ a :: post →
      body (st (linkAfter (l₁ ++ pre))) = .again (st (.next a))) (fuel : Nat) :
    Loop.run body (l₂.length + fuel) (st (linkAfter l₁)) =
      Loop.run body fuel (st (linkAfter (l₁ ++ l₂))) := by
  induction l₂ generalizing l₁ with
  | nil => rw [List.length_nil, Nat.zero_add, List.append_nil]
  | cons a l₂ ih =>
    have hfirst := h [] a l₂ rfl
    rw [List.append_nil, ← linkAfter_append_singleton l₁ a] at hfirst
    have hfuel : (a :: l₂).length + fuel = l₂.length + fuel + 1 := by
      rw [List.length_cons]
      omega
    rw [hfuel, Loop.run_again hfirst, List.append_cons l₁ a l₂]
    refine ih fun pre b post heq => ?_
    rw [List.append_assoc, List.singleton_append]
    exact h (a :: pre) b post (by rw [heq, List.cons_append])

end HeapList
