import Libfaim.Lib.Endian

/-!
# Byte streams (`rxqueue.c`, the `aimutil_*` macros of `aim.h`)

An `aim_bstream_t` is a buffer, its length and an offset. The model keeps the bytes the stream
covers as a list, so the length is the length of the list. An operation that does not fit leaves
the stream as it is and returns zero.

`rest` is what is still to be read and `written` what has been written so far; every operation is
described by what it does to these two.
-/

namespace Libfaim

open Endian

/-- `aim_bstream_t`: the `len` bytes from `data` on, and the offset. -/
structure AimBstream where
  data : List UInt8
  offset : Nat
  deriving DecidableEq, Repr

namespace AimBstream

/-- `bs->len` -/
def len (bs : AimBstream) : Nat := bs.data.length

/-- The bytes from the offset on. -/
def rest (bs : AimBstream) : List UInt8 := bs.data.drop bs.offset

/-- The bytes before the offset. -/
def written (bs : AimBstream) : List UInt8 := bs.data.take bs.offset

/-- `bs->offset += n` -/
def skip (bs : AimBstream) (n : Nat) : AimBstream := { bs with offset := bs.offset + n }

/-- The bytes `v` copied to the offset, and the offset moved past them. -/
def store (bs : AimBstream) (v : List UInt8) : AimBstream where
  data := bs.data.take bs.offset ++ v ++ bs.data.drop (bs.offset + v.length)
  offset := bs.offset + v.length

end AimBstream

/-! ## The `aimutil_*` macros -/

def aimutilPut8 (data : UInt8) : List UInt8 := beBytes 1 data.toNat
def aimutilPut16 (data : UInt16) : List UInt8 := beBytes 2 data.toNat
def aimutilPut32 (data : UInt32) : List UInt8 := beBytes 4 data.toNat
def aimutilPutle8 (data : UInt8) : List UInt8 := leBytes 1 data.toNat
def aimutilPutle16 (data : UInt16) : List UInt8 := leBytes 2 data.toNat
def aimutilPutle32 (data : UInt32) : List UInt8 := leBytes 4 data.toNat

def aimutilGet8 (buf : List UInt8) : UInt8 := UInt8.ofNat (beVal (buf.take 1))
def aimutilGet16 (buf : List UInt8) : UInt16 := UInt16.ofNat (beVal (buf.take 2))
def aimutilGet32 (buf : List UInt8) : UInt32 := UInt32.ofNat (beVal (buf.take 4))
def aimutilGetle8 (buf : List UInt8) : UInt8 := UInt8.ofNat (leVal (buf.take 1))
def aimutilGetle16 (buf : List UInt8) : UInt16 := UInt16.ofNat (leVal (buf.take 2))
def aimutilGetle32 (buf : List UInt8) : UInt32 := UInt32.ofNat (leVal (buf.take 4))

/-! ## Operations on a stream -/

/-- `aim_bstream_init`. The length is stored in sixteen bits, so a negative or a large `len` wraps.
Bytes past the end of the memory `mem` are undefined in C and read as zero here. -/
def aimBstreamInit (mem : List UInt8) (len : Int) : AimBstream :=
  let len := (len % 65536).toNat
  { data := mem.take len ++ List.replicate (len - mem.length) 0, offset := 0 }

/-- `aim_bstream_empty`: how many bytes are left. No operation moves the offset past the length,
so the difference is never negative. -/
def aimBstreamEmpty (bs : AimBstream) : Nat := bs.len - bs.offset

def aimBstreamCurpos (bs : AimBstream) : Nat := bs.offset

def aimBstreamSetpos (off : Nat) : StateM AimBstream Int := fun bs =>
  if off > bs.len then (-1, bs) else (off, { bs with offset := off })

def aimBstreamRewind : StateM AimBstream Unit := fun bs => ((), (aimBstreamSetpos 0 bs).2)

def aimBstreamAdvance (n : Nat) : StateM AimBstream Nat := fun bs =>
  if aimBstreamEmpty bs < n then (0, bs) else (n, bs.skip n)

/-- The common body of `aimbs_get8` to `aimbs_getle32`: zero when fewer than `n` bytes are left. -/
def aimbsGet {α : Type} (n : Nat) (zero : α) (get : List UInt8 → α) : StateM AimBstream α :=
  fun bs => if aimBstreamEmpty bs < n then (zero, bs) else (get bs.rest, bs.skip n)

def aimbsGet8 : StateM AimBstream UInt8 := aimbsGet 1 0 aimutilGet8
def aimbsGet16 : StateM AimBstream UInt16 := aimbsGet 2 0 aimutilGet16
def aimbsGet32 : StateM AimBstream UInt32 := aimbsGet 4 0 aimutilGet32
def aimbsGetle8 : StateM AimBstream UInt8 := aimbsGet 1 0 aimutilGetle8
def aimbsGetle16 : StateM AimBstream UInt16 := aimbsGet 2 0 aimutilGetle16
def aimbsGetle32 : StateM AimBstream UInt32 := aimbsGet 4 0 aimutilGetle32

/-- The common body of `aimbs_put8` to `aimbs_putbs`: nothing happens when the bytes do not fit. -/
def aimbsPut (ret : Nat) (v : List UInt8) : StateM AimBstream Nat :=
  fun bs => if aimBstreamEmpty bs < v.length then (0, bs) else (ret, bs.store v)

def aimbsPut8 (v : UInt8) : StateM AimBstream Nat := aimbsPut 1 (aimutilPut8 v)
def aimbsPut16 (v : UInt16) : StateM AimBstream Nat := aimbsPut 2 (aimutilPut16 v)
def aimbsPut32 (v : UInt32) : StateM AimBstream Nat := aimbsPut 1 (aimutilPut32 v)
def aimbsPutle8 (v : UInt8) : StateM AimBstream Nat := aimbsPut 1 (aimutilPutle8 v)
def aimbsPutle16 (v : UInt16) : StateM AimBstream Nat := aimbsPut 2 (aimutilPutle16 v)
def aimbsPutle32 (v : UInt32) : StateM AimBstream Nat := aimbsPut 1 (aimutilPutle32 v)

/-- `aimbs_putraw(bs, v, len)`, where `v` points to at least `len` bytes. -/
def aimbsPutraw (v : List UInt8) (len : Nat) : StateM AimBstream Nat :=
  aimbsPut len (v.take len)

/-- A C `if` without `else` around puts. -/
def putIf (c : Prop) [Decidable c] (m : StateM AimBstream Nat) : StateM AimBstream Nat :=
  if c then m else pure 0

/-- `aimbs_getrawbuf`: the bytes copied to the caller's buffer. The C function returns how many. -/
def aimbsGetrawbuf (len : Nat) : StateM AimBstream (List UInt8) := fun bs =>
  if aimBstreamEmpty bs < len then ([], bs) else (bs.rest.take len, bs.skip len)

/-- `aimbs_getraw`: `none` is the null pointer. -/
def aimbsGetraw (len : Nat) : StateM AimBstream (Option (List UInt8)) := do
  let ob ← aimbsGetrawbuf len
  return if ob.length < len then none else some ob

/-- `aimbs_getstr`: as `aimbs_getraw`; the terminating NUL it adds is not part of the list. -/
def aimbsGetstr (len : Nat) : StateM AimBstream (Option (List UInt8)) := aimbsGetraw len

/-- `aimbs_putbs(bs, srcbs, len)` -/
def aimbsPutbs (bs srcbs : AimBstream) (len : Nat) : Nat × AimBstream × AimBstream :=
  if aimBstreamEmpty srcbs < len then (0, bs, srcbs)
  else if aimBstreamEmpty bs < len then (0, bs, srcbs)
  else (len, bs.store (srcbs.rest.take len), srcbs.skip len)

/-! ## Widths -/

section Widths

@[simp] theorem aimutilPut8_length (v : UInt8) : (aimutilPut8 v).length = 1 := beBytes_length ..
@[simp] theorem aimutilPut16_length (v : UInt16) : (aimutilPut16 v).length = 2 :=
  beBytes_length ..
@[simp] theorem aimutilPut32_length (v : UInt32) : (aimutilPut32 v).length = 4 :=
  beBytes_length ..

@[simp] theorem aimutilPutle8_length (v : UInt8) : (aimutilPutle8 v).length = 1 :=
  leBytes_length ..
@[simp] theorem aimutilPutle16_length (v : UInt16) : (aimutilPutle16 v).length = 2 :=
  leBytes_length ..
@[simp] theorem aimutilPutle32_length (v : UInt32) : (aimutilPutle32 v).length = 4 :=
  leBytes_length ..

theorem aimutilPut8_eq (v : UInt8) : aimutilPut8 v = [v] := by
  simp [aimutilPut8, Endian.beBytes, Endian.leBytes]

theorem aimutilGet8_put8 (v : UInt8) (r : List UInt8) : aimutilGet8 (aimutilPut8 v ++ r) = v := by
  apply UInt8.toNat_inj.mp
  have hv : v.toNat < 256 := v.toNat_lt
  simp only [aimutilGet8, aimutilPut8, List.take_left' (beBytes_length 1 _), beVal_beBytes,
    UInt8.toNat_ofNat']
  omega

theorem aimutilGet16_put16 (v : UInt16) (r : List UInt8) :
    aimutilGet16 (aimutilPut16 v ++ r) = v := by
  apply UInt16.toNat_inj.mp
  have hv : v.toNat < 65536 := v.toNat_lt
  simp only [aimutilGet16, aimutilPut16, List.take_left' (beBytes_length 2 _), beVal_beBytes,
    UInt16.toNat_ofNat']
  omega

theorem aimutilGet32_put32 (v : UInt32) (r : List UInt8) :
    aimutilGet32 (aimutilPut32 v ++ r) = v := by
  apply UInt32.toNat_inj.mp
  have hv : v.toNat < 4294967296 := v.toNat_lt
  simp only [aimutilGet32, aimutilPut32, List.take_left' (beBytes_length 4 _), beVal_beBytes,
    UInt32.toNat_ofNat']
  omega

theorem aimutilGetle8_putle8 (v : UInt8) (r : List UInt8) :
    aimutilGetle8 (aimutilPutle8 v ++ r) = v := by
  apply UInt8.toNat_inj.mp
  have hv : v.toNat < 256 := v.toNat_lt
  simp only [aimutilGetle8, aimutilPutle8, List.take_left' (leBytes_length 1 _), leVal_leBytes,
    UInt8.toNat_ofNat']
  omega

theorem aimutilGetle16_putle16 (v : UInt16) (r : List UInt8) :
    aimutilGetle16 (aimutilPutle16 v ++ r) = v := by
  apply UInt16.toNat_inj.mp
  have hv : v.toNat < 65536 := v.toNat_lt
  simp only [aimutilGetle16, aimutilPutle16, List.take_left' (leBytes_length 2 _), leVal_leBytes,
    UInt16.toNat_ofNat']
  omega

theorem aimutilGetle32_putle32 (v : UInt32) (r : List UInt8) :
    aimutilGetle32 (aimutilPutle32 v ++ r) = v := by
  apply UInt32.toNat_inj.mp
  have hv : v.toNat < 4294967296 := v.toNat_lt
  simp only [aimutilGetle32, aimutilPutle32, List.take_left' (leBytes_length 4 _), leVal_leBytes,
    UInt32.toNat_ofNat']
  omega

theorem aimutilPut16_get16 {buf : List UInt8} (h : buf.length = 2) :
    aimutilPut16 (aimutilGet16 buf) = buf := by
  have hlt := beVal_lt buf
  have htake : buf.take 2 = buf := List.take_of_length_le (by omega)
  rw [h] at hlt
  simp only [aimutilPut16, aimutilGet16, htake, UInt16.toNat_ofNat']
  rw [Nat.mod_eq_of_lt (by omega), ← h, beBytes_beVal]

end Widths

/-! ## What is left and what is written -/

namespace AimBstream

variable (bs : AimBstream)

theorem length_rest : bs.rest.length = aimBstreamEmpty bs := by
  simp [rest, aimBstreamEmpty, len]

@[simp] theorem skip_zero : bs.skip 0 = bs := rfl

@[simp] theorem skip_skip (m n : Nat) : (bs.skip m).skip n = bs.skip (m + n) := by
  simp [skip, Nat.add_assoc]

@[simp] theorem skip_len (n : Nat) : (bs.skip n).len = bs.len := rfl

@[simp] theorem skip_offset (n : Nat) : (bs.skip n).offset = bs.offset + n := rfl

theorem rest_skip (n : Nat) : (bs.skip n).rest = bs.rest.drop n := by
  simp [skip, rest, List.drop_drop]

theorem rest_skip_of_append {a r : List UInt8} (h : bs.rest = a ++ r) :
    (bs.skip a.length).rest = r := by
  rw [rest_skip, h, List.drop_left]

@[simp] theorem store_offset (v : List UInt8) : (bs.store v).offset = bs.offset + v.length := rfl

variable {bs}

theorem length_written (h : bs.offset ≤ bs.len) : bs.written.length = bs.offset := by
  simp only [len] at h
  simp [written, Nat.min_eq_left h]

theorem store_len {v : List UInt8} (h : bs.offset ≤ bs.len) (hv : v.length ≤ aimBstreamEmpty bs) :
    (bs.store v).len = bs.len := by
  simp only [len, aimBstreamEmpty] at h hv
  simp only [store, len, List.length_append, List.length_take, List.length_drop]
  omega

theorem store_nil (h : bs.offset ≤ bs.len) : bs.store [] = bs := by
  obtain ⟨data, offset⟩ := bs
  simp [store]

/-- Storing two strings one after the other is storing their concatenation. -/
theorem store_store {v w : List UInt8} (h : bs.offset ≤ bs.len) :
    (bs.store v).store w = bs.store (v ++ w) := by
  obtain ⟨data, offset⟩ := bs
  simp only [len] at h
  have hlen : (data.take offset ++ v).length = offset + v.length := by
    simp [Nat.min_eq_left h]
  have htake : (data.take offset ++ v ++ data.drop (offset + v.length)).take (offset + v.length)
      = data.take offset ++ v := List.take_left' hlen
  have hdrop : (data.take offset ++ v ++ data.drop (offset + v.length)).drop
      (offset + v.length + w.length) = data.drop (offset + (v.length + w.length)) := by
    rw [← List.drop_drop, List.drop_left' hlen, List.drop_drop, Nat.add_assoc]
  simp only [store, htake, hdrop]
  simp only [List.length_append, List.append_assoc, Nat.add_assoc]

theorem written_store {v : List UInt8} (h : bs.offset ≤ bs.len) :
    (bs.store v).written = bs.written ++ v := by
  simp only [len] at h
  simp only [store, written]
  exact List.take_left' (by simp [Nat.min_eq_left h])

theorem store_empty {v : List UInt8} (h : bs.offset ≤ bs.len)
    (hv : v.length ≤ aimBstreamEmpty bs) :
    aimBstreamEmpty (bs.store v) = aimBstreamEmpty bs - v.length := by
  rw [aimBstreamEmpty, store_len h hv, store_offset, aimBstreamEmpty]
  omega

theorem store_offset_le {v : List UInt8} (h : bs.offset ≤ bs.len)
    (hv : v.length ≤ aimBstreamEmpty bs) : (bs.store v).offset ≤ (bs.store v).len := by
  rw [store_len h hv, store_offset]
  simp only [aimBstreamEmpty] at hv
  omega

end AimBstream

end Libfaim
