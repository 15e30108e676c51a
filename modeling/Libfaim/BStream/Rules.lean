import Libfaim.BStream

/-!
# Rules for reading and writing byte streams

`Reads m v x`: wherever the bytes `v` are next, the operation `m` reads exactly them and returns
`x`. `Writes m v x`: wherever the bytes `v` fit, `m` stores exactly them and returns `x`. Both
compose along `>>=` by concatenation, so the layout of a packet is read off the program.
-/

namespace Libfaim

variable {α β : Type}

theorem stateM_bind (m : StateM AimBstream α) (k : α → StateM AimBstream β) (bs : AimBstream) :
    (m >>= k) bs = k (m bs).1 (m bs).2 := rfl

theorem stateM_pure (x : α) (bs : AimBstream) : (pure x : StateM AimBstream α) bs = (x, bs) := rfl

/-! ## Reading -/

def Reads (m : StateM AimBstream α) (v : List UInt8) (x : α) : Prop :=
  ∀ bs r, bs.rest = v ++ r → m bs = (x, bs.skip v.length)

namespace Reads

theorem pure (x : α) : Reads (pure x) [] x := fun _ _ _ => rfl

theorem bind {m : StateM AimBstream α} {k : α → StateM AimBstream β} {v w : List UInt8} {x : α}
    {y : β} (hm : Reads m v x) (hk : Reads (k x) w y) : Reads (m >>= k) (v ++ w) y := by
  intro bs r hr
  rw [List.append_assoc] at hr
  have hrest : (bs.skip v.length).rest = w ++ r := bs.rest_skip_of_append hr
  rw [stateM_bind, hm bs _ hr, hk _ r hrest]
  simp

theorem map {m : StateM AimBstream α} {v : List UInt8} {x : α} (f : α → β) (hm : Reads m v x) :
    Reads (f <$> m) v (f x) := by
  intro bs r hr
  show ((f (m bs).1, (m bs).2) : β × AimBstream) = _
  rw [hm bs r hr]

/-- The bytes that are read name the value the reader returns. -/
theorem of_eq {m : StateM AimBstream α} {v w : List UInt8} {x : α} (hm : Reads m v x)
    (h : v = w) : Reads m w x := h ▸ hm

end Reads

theorem reads_aimbsGet {n : Nat} {zero : α} {get : List UInt8 → α} {v : List UInt8} {x : α}
    (hlen : v.length = n) (hget : ∀ r, get (v ++ r) = x) : Reads (aimbsGet n zero get) v x := by
  intro bs r hr
  have hempty : ¬ aimBstreamEmpty bs < n := by
    rw [← bs.length_rest, hr, List.length_append]
    omega
  simp only [aimbsGet, if_neg hempty, hr, hget, hlen]

theorem reads_aimbsGet8 (v : UInt8) : Reads aimbsGet8 (aimutilPut8 v) v :=
  reads_aimbsGet (by simp) (aimutilGet8_put8 v)

theorem reads_aimbsGet16 (v : UInt16) : Reads aimbsGet16 (aimutilPut16 v) v :=
  reads_aimbsGet (by simp) (aimutilGet16_put16 v)

theorem reads_aimbsGet32 (v : UInt32) : Reads aimbsGet32 (aimutilPut32 v) v :=
  reads_aimbsGet (by simp) (aimutilGet32_put32 v)

/-- The two bytes need not come from a put. -/
theorem reads_aimbsGet16_bytes {v : List UInt8} (h : v.length = 2) :
    Reads aimbsGet16 v (aimutilGet16 v) := by
  refine reads_aimbsGet h fun r => ?_
  rw [aimutilGet16, aimutilGet16, List.take_append_of_le_length (by omega)]

theorem reads_aimbsGet32_bytes {v : List UInt8} (h : v.length = 4) :
    Reads aimbsGet32 v (aimutilGet32 v) := by
  refine reads_aimbsGet h fun r => ?_
  rw [aimutilGet32, aimutilGet32, List.take_append_of_le_length (by omega)]

theorem reads_aimbsGetle8 (v : UInt8) : Reads aimbsGetle8 (aimutilPutle8 v) v :=
  reads_aimbsGet (by simp) (aimutilGetle8_putle8 v)

theorem reads_aimbsGetle16 (v : UInt16) : Reads aimbsGetle16 (aimutilPutle16 v) v :=
  reads_aimbsGet (by simp) (aimutilGetle16_putle16 v)

theorem reads_aimbsGetle32 (v : UInt32) : Reads aimbsGetle32 (aimutilPutle32 v) v :=
  reads_aimbsGet (by simp) (aimutilGetle32_putle32 v)

theorem reads_aimbsGetrawbuf {v : List UInt8} {n : Nat} (h : v.length = n) :
    Reads (aimbsGetrawbuf n) v v := by
  intro bs r hr
  have hempty : ¬ aimBstreamEmpty bs < n := by
    rw [← bs.length_rest, hr, List.length_append]
    omega
  simp only [aimbsGetrawbuf, if_neg hempty, hr, List.take_left' h, h]

theorem reads_aimbsGetraw {v : List UInt8} {n : Nat} (h : v.length = n) :
    Reads (aimbsGetraw n) v (some v) := by
  intro bs r hr
  have hraw := reads_aimbsGetrawbuf h bs r hr
  simp only [aimbsGetraw, stateM_bind, hraw, stateM_pure, h, Nat.lt_irrefl, if_false]

theorem reads_aimBstreamAdvance {v : List UInt8} {n : Nat} (h : v.length = n) :
    Reads (aimBstreamAdvance n) v n := by
  intro bs r hr
  have hempty : ¬ aimBstreamEmpty bs < n := by
    rw [← bs.length_rest, hr, List.length_append]
    omega
  simp only [aimBstreamAdvance, if_neg hempty, h]

/-! ## Reading that can fail

Where the C code would go through a null pointer the model has no result. -/

instance : MonadLift (StateM AimBstream) (StateT AimBstream Option) where
  monadLift m := fun bs => some (m bs)

theorem stateT_bind {m : StateT AimBstream Option α} {k : α → StateT AimBstream Option β}
    {bs bs' : AimBstream} {x : α} (h : m bs = some (x, bs')) : (m >>= k) bs = k x bs' := by
  show (m bs).bind (fun p => k p.1 p.2) = k x bs'
  rw [h]
  rfl

theorem stateT_get_bind (k : AimBstream → StateT AimBstream Option β) (bs : AimBstream) :
    (get >>= k) bs = k bs bs := rfl

theorem stateT_lift_bind (m : StateM AimBstream α) (k : α → StateT AimBstream Option β)
    (bs : AimBstream) : (liftM m >>= k) bs = k (m bs).1 (m bs).2 := rfl

/-- A computation that does not look at the stream. -/
theorem stateT_lift_some {m : Option α} {x : α} (h : m = some x) (bs : AimBstream) :
    (StateT.lift m : StateT AimBstream Option α) bs = some (x, bs) := by
  subst h
  rfl

/-- As `Reads`, for a reader that can fail: on these bytes it does not. -/
def Decodes (m : StateT AimBstream Option α) (v : List UInt8) (x : α) : Prop :=
  ∀ bs r, bs.rest = v ++ r → m bs = some (x, bs.skip v.length)

namespace Decodes

theorem pure (x : α) : Decodes (pure x) [] x := fun _ _ _ => rfl

theorem lift {m : StateM AimBstream α} {v : List UInt8} {x : α} (hm : Reads m v x) :
    Decodes (liftM m) v x := by
  intro bs r hr
  show some (m bs) = _
  rw [hm bs r hr]

theorem bind {m : StateT AimBstream Option α} {k : α → StateT AimBstream Option β}
    {v w : List UInt8} {x : α} {y : β} (hm : Decodes m v x) (hk : Decodes (k x) w y) :
    Decodes (m >>= k) (v ++ w) y := by
  intro bs r hr
  rw [List.append_assoc] at hr
  rw [stateT_bind (hm bs _ hr), hk _ r (bs.rest_skip_of_append hr)]
  simp

theorem of_eq {m : StateT AimBstream Option α} {v w : List UInt8} {x : α} (hm : Decodes m v x)
    (h : v = w) : Decodes m w x := h ▸ hm

end Decodes

/-! ## Writing -/

def Writes (m : StateM AimBstream α) (v : List UInt8) (x : α) : Prop :=
  ∀ bs : AimBstream, bs.offset ≤ bs.len → v.length ≤ aimBstreamEmpty bs → m bs = (x, bs.store v)

namespace Writes

theorem pure (x : α) : Writes (pure x) [] x := by
  intro bs h _
  rw [AimBstream.store_nil h]
  rfl

theorem bind {m : StateM AimBstream α} {k : α → StateM AimBstream β} {v w : List UInt8} {x : α}
    {y : β} (hm : Writes m v x) (hk : Writes (k x) w y) : Writes (m >>= k) (v ++ w) y := by
  intro bs h hv
  rw [List.length_append] at hv
  have hroom : v.length ≤ aimBstreamEmpty bs := by omega
  have hroom' : w.length ≤ aimBstreamEmpty (bs.store v) := by
    rw [AimBstream.store_empty h hroom]
    omega
  rw [stateM_bind, hm bs h hroom, hk _ (AimBstream.store_offset_le h hroom) hroom',
    AimBstream.store_store h]

theorem of_eq {m : StateM AimBstream α} {v w : List UInt8} {x : α} (hm : Writes m v x)
    (h : v = w) : Writes m w x := h ▸ hm

end Writes

theorem writes_aimbsPut (ret : Nat) (v : List UInt8) : Writes (aimbsPut ret v) v ret := by
  intro bs _ hv
  simp only [aimbsPut, if_neg (Nat.not_lt.mpr hv)]

theorem writes_aimbsPut8 (v : UInt8) : Writes (aimbsPut8 v) (aimutilPut8 v) 1 :=
  writes_aimbsPut 1 (aimutilPut8 v)

theorem writes_aimbsPut16 (v : UInt16) : Writes (aimbsPut16 v) (aimutilPut16 v) 2 :=
  writes_aimbsPut 2 (aimutilPut16 v)

theorem writes_aimbsPut32 (v : UInt32) : Writes (aimbsPut32 v) (aimutilPut32 v) 1 :=
  writes_aimbsPut 1 (aimutilPut32 v)

theorem writes_aimbsPutle8 (v : UInt8) : Writes (aimbsPutle8 v) (aimutilPutle8 v) 1 :=
  writes_aimbsPut 1 (aimutilPutle8 v)

theorem writes_aimbsPutle16 (v : UInt16) : Writes (aimbsPutle16 v) (aimutilPutle16 v) 2 :=
  writes_aimbsPut 2 (aimutilPutle16 v)

theorem writes_aimbsPutle32 (v : UInt32) : Writes (aimbsPutle32 v) (aimutilPutle32 v) 1 :=
  writes_aimbsPut 1 (aimutilPutle32 v)

theorem writes_aimbsPutraw {v : List UInt8} {n : Nat} (h : v.length = n) :
    Writes (aimbsPutraw v n) v n := by
  have htake : v.take n = v := List.take_of_length_le (by omega)
  simpa only [aimbsPutraw, htake] using writes_aimbsPut n v

/-- Puts under a condition store their bytes under the same condition. -/
theorem writes_putIf {m : StateM AimBstream Nat} {v : List UInt8} {x : Nat} {c : Prop}
    [Decidable c] (hm : Writes m v x) :
    Writes (putIf c m) (if c then v else []) (if c then x else 0) := by
  unfold putIf
  by_cases hc : c
  · simpa only [if_pos hc] using hm
  · simpa only [if_neg hc] using Writes.pure 0

/-! ## Writing what may not fit -/

/-- `bs'` is `bs` with more written into it. -/
structure Extends (bs bs' : AimBstream) : Prop where
  len_eq : bs'.len = bs.len
  offset_le : bs'.offset ≤ bs'.len
  written_eq : ∃ v, bs'.written = bs.written ++ v

theorem Extends.refl {bs : AimBstream} (h : bs.offset ≤ bs.len) : Extends bs bs :=
  ⟨rfl, h, [], (List.append_nil _).symm⟩

theorem Extends.trans {bs bs' bs'' : AimBstream} (h : Extends bs bs') (h' : Extends bs' bs'') :
    Extends bs bs'' := by
  obtain ⟨v, hv⟩ := h.written_eq
  obtain ⟨w, hw⟩ := h'.written_eq
  exact ⟨h'.len_eq.trans h.len_eq, h'.offset_le, v ++ w, by rw [hw, hv, List.append_assoc]⟩

/-- Whatever room there is, `m` leaves what has been written before. -/
def Appends (m : StateM AimBstream α) : Prop :=
  ∀ bs : AimBstream, bs.offset ≤ bs.len → Extends bs (m bs).2

namespace Appends

theorem pure (x : α) : Appends (pure x) := fun _ h => .refl h

theorem bind {m : StateM AimBstream α} {k : α → StateM AimBstream β} (hm : Appends m)
    (hk : ∀ x, Appends (k x)) : Appends (m >>= k) := by
  intro bs h
  have hfirst := hm bs h
  rw [stateM_bind]
  exact hfirst.trans (hk _ _ hfirst.offset_le)

theorem ite {c : Prop} [Decidable c] {m m' : StateM AimBstream α} (hm : Appends m)
    (hm' : Appends m') : Appends (if c then m else m') := by
  by_cases hc : c
  · rwa [if_pos hc]
  · rwa [if_neg hc]

end Appends

theorem appends_aimbsPut (ret : Nat) (v : List UInt8) : Appends (aimbsPut ret v) := by
  intro bs h
  unfold aimbsPut
  by_cases hv : aimBstreamEmpty bs < v.length
  · rw [if_pos hv]
    exact .refl h
  · rw [if_neg hv]
    have hfits : v.length ≤ aimBstreamEmpty bs := Nat.not_lt.mp hv
    exact ⟨AimBstream.store_len h hfits, AimBstream.store_offset_le h hfits, v,
      AimBstream.written_store h⟩

@[simp] theorem appends_aimbsPut8 (v : UInt8) : Appends (aimbsPut8 v) := appends_aimbsPut _ _
@[simp] theorem appends_aimbsPut16 (v : UInt16) : Appends (aimbsPut16 v) := appends_aimbsPut _ _
@[simp] theorem appends_aimbsPut32 (v : UInt32) : Appends (aimbsPut32 v) := appends_aimbsPut _ _
@[simp] theorem appends_aimbsPutle8 (v : UInt8) : Appends (aimbsPutle8 v) := appends_aimbsPut _ _
@[simp] theorem appends_aimbsPutle16 (v : UInt16) : Appends (aimbsPutle16 v) :=
  appends_aimbsPut _ _
@[simp] theorem appends_aimbsPutle32 (v : UInt32) : Appends (aimbsPutle32 v) :=
  appends_aimbsPut _ _
@[simp] theorem appends_aimbsPutraw (v : List UInt8) (len : Nat) : Appends (aimbsPutraw v len) :=
  appends_aimbsPut _ _

theorem appends_putIf {c : Prop} [Decidable c] {m : StateM AimBstream Nat} (hm : Appends m) :
    Appends (putIf c m) :=
  .ite hm (.pure 0)

theorem aimbsPut_offset (ret : Nat) (v : List UInt8) (bs : AimBstream) :
    (aimbsPut ret v bs).2.offset =
      if bs.len - bs.offset < v.length then bs.offset else bs.offset + v.length := by
  unfold aimbsPut aimBstreamEmpty
  by_cases h : bs.len - bs.offset < v.length
  · rw [if_pos h, if_pos h]
  · rw [if_neg h, if_neg h]
    rfl

/-! ## A fresh buffer -/

theorem aimBstreamInit_replicate {n : Nat} (h : n < 65536) :
    aimBstreamInit (List.replicate n 0) n = ⟨List.replicate n 0, 0⟩ := by
  have hmod : ((n : Int) % 65536).toNat = n := by omega
  simp [aimBstreamInit, hmod]

/-- The length of a fresh buffer is taken into 16 bits. -/
theorem aimBstreamInit_replicate_len (n : Nat) :
    (aimBstreamInit (List.replicate n 0) n).len = n % 65536 := by
  simp only [aimBstreamInit, AimBstream.len, List.length_append, List.length_take,
    List.length_replicate]
  omega

theorem aimBstreamEmpty_replicate (n : Nat) :
    aimBstreamEmpty ⟨List.replicate n 0, 0⟩ = n := by
  rw [aimBstreamEmpty, AimBstream.len, List.length_replicate, Nat.sub_zero]

/-- What is written into a fresh buffer that is large enough. -/
theorem Writes.written_init {m : StateM AimBstream α} {v : List UInt8} {x : α} {n : Nat}
    (h : Writes m v x) (hn : n < 65536) (hv : v.length ≤ n) :
    (m (aimBstreamInit (List.replicate n 0) n)).2.written = v := by
  have hempty := aimBstreamEmpty_replicate n
  rw [aimBstreamInit_replicate hn, h _ (Nat.zero_le _) (by omega),
    AimBstream.written_store (Nat.zero_le _)]
  rfl

/-- A fresh buffer takes all of what is written into it exactly if it is large enough. -/
theorem Writes.written_init_iff {m : StateM AimBstream α} {v : List UInt8} {x : α} {n : Nat}
    (h : Writes m v x) (happ : Appends m) (hn : n < 65536) :
    (m (aimBstreamInit (List.replicate n 0) n)).2.written = v ↔ v.length ≤ n := by
  constructor
  · intro hv
    have hext := happ (aimBstreamInit (List.replicate n 0) n) (Nat.zero_le _)
    rw [← hv, AimBstream.length_written hext.offset_le]
    refine Nat.le_trans hext.offset_le ?_
    rw [hext.len_eq, aimBstreamInit_replicate_len]
    exact Nat.mod_le n 65536
  · exact h.written_init hn

/-- A stream over a short enough string. -/
theorem aimBstreamInit_of_lt {v : List UInt8} (h : v.length < 65536) :
    aimBstreamInit v v.length = ⟨v, 0⟩ := by
  have hmod : ((v.length : Int) % 65536).toNat = v.length := by omega
  simp [aimBstreamInit, hmod]

/-- A buffer of the size of what is written into it, whatever it held before. -/
theorem Writes.init_buffer {m : StateM AimBstream α} {v buf : List UInt8} {x : α}
    (h : Writes m v x) (hv : v.length < 65536) (hbuf : buf.length = v.length) :
    m (aimBstreamInit buf v.length) = (x, ⟨v, v.length⟩) := by
  have hinit := aimBstreamInit_of_lt (v := buf) (by omega)
  have hempty : aimBstreamEmpty ⟨buf, 0⟩ = buf.length := rfl
  rw [hbuf] at hinit
  have hdrop : buf.drop v.length = [] := List.drop_eq_nil_of_le (Nat.le_of_eq hbuf)
  rw [hinit, h _ (Nat.zero_le _) (by omega)]
  simp [AimBstream.store, hdrop]

/-- A fresh buffer of the size of what is written into it. -/
theorem Writes.init_full {m : StateM AimBstream α} {v : List UInt8} {x : α} (h : Writes m v x)
    (hv : v.length < 65536) :
    m (aimBstreamInit (List.replicate v.length 0) v.length) = (x, ⟨v, v.length⟩) :=
  h.init_buffer hv (List.length_replicate ..)

/-! ## Moving the offset -/

theorem aimBstreamSetpos_of_le {bs : AimBstream} {off : Nat} (h : off ≤ bs.len) :
    aimBstreamSetpos off bs = ((off : Int), { bs with offset := off }) := by
  unfold aimBstreamSetpos
  rw [if_neg (Nat.not_lt.mpr h)]

theorem aimBstreamSetpos_of_lt {bs : AimBstream} {off : Nat} (h : bs.len < off) :
    aimBstreamSetpos off bs = (-1, bs) := by
  unfold aimBstreamSetpos
  rw [if_pos h]

@[simp] theorem aimBstreamSetpos_offset (bs : AimBstream) :
    (aimBstreamSetpos bs.offset bs).2 = bs := by
  unfold aimBstreamSetpos
  by_cases h : bs.offset > bs.len
  · rw [if_pos h]
  · rw [if_neg h]

/-- Moving the offset back over bytes just stored leaves them, and what followed, to be read. -/
theorem rest_setpos_store {bs : AimBstream} {v : List UInt8} (h : bs.offset ≤ bs.len) :
    (aimBstreamSetpos bs.offset (bs.store v)).2.rest = v ++ bs.rest.drop v.length := by
  have htake : (bs.data.take bs.offset).length = bs.offset := AimBstream.length_written h
  have hle : bs.offset ≤ (bs.store v).len := by
    simp only [AimBstream.len, AimBstream.store, List.length_append, htake]
    omega
  rw [aimBstreamSetpos_of_le hle]
  simp only [AimBstream.rest, AimBstream.store]
  rw [List.append_assoc, List.drop_left' htake, List.drop_drop]

end Libfaim
