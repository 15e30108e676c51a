import Libfaim.Snac.Requests
import Libfaim.Userinfo.Screenname

/-!
# Buffers and strings in memory

What `malloc` and `realloc` return holds what was in memory, which is a parameter here. `strncpy`
writes as many bytes as its bound says, and a NUL is among them exactly where the string is shorter
(`zero_mem_strncpy_iff`).
-/

namespace Libfaim

/-! ## Buffers -/

/-- A buffer of `n` bytes as `malloc` returns it, with what was in memory. -/
def Memory.malloc (mem : Memory) (n : Nat) : List UInt8 := (List.range n).map mem

/-- `realloc(buf, n)`: the bytes of `buf` as far as they fit, and what was in memory behind them. -/
def Memory.realloc (mem : Memory) (buf : List UInt8) (n : Nat) : List UInt8 :=
  buf.take n ++ (List.range' buf.length (n - buf.length)).map mem

/-- The bytes `v` written to `buf` from the position `off` on. -/
def writeAt (buf : List UInt8) (off : Nat) (v : List UInt8) : List UInt8 :=
  buf.take off ++ v ++ buf.drop (off + v.length)

@[simp] theorem Memory.length_malloc (mem : Memory) (n : Nat) : (mem.malloc n).length = n := by
  rw [malloc, List.length_map, List.length_range]

theorem Memory.realloc_add (mem : Memory) (buf : List UInt8) (n : Nat) :
    mem.realloc buf (buf.length + n) = buf ++ (List.range' buf.length n).map mem := by
  rw [realloc, List.take_of_length_le (Nat.le_add_right _ _), Nat.add_sub_cancel_left]

/-- Writing all but the last byte of what was added to a buffer. -/
theorem Memory.writeAt_realloc (mem : Memory) (buf : List UInt8) {v : List UInt8} {n : Nat}
    (hv : v.length = n) :
    writeAt (mem.realloc buf (buf.length + (n + 1))) buf.length v =
      buf ++ (v ++ [mem (buf.length + n)]) := by
  have hfresh : ((List.range' buf.length (n + 1)).map mem).drop n = [mem (buf.length + n)] := by
    rw [List.range'_concat, List.map_append, List.drop_left' (by simp)]
    simp
  rw [realloc_add, writeAt, List.take_left, hv, ← List.drop_drop, List.drop_left, hfresh,
    List.append_assoc]

/-! ## Strings -/

/-- `strdup`: the copy has the NUL of the string. -/
def strdup (s : List UInt8) : List UInt8 := cstr s ++ [0]

section Strncpy

variable (src : List UInt8) (n : Nat)

/-- What `strncpy` copies ends with a NUL exactly if the string is shorter than the bound. -/
theorem zero_mem_strncpy_iff : 0 ∈ strncpy src n ↔ strlen src < n := by
  rw [strncpy, List.mem_append]
  constructor
  · rintro (hcopied | hfilled)
    · exact absurd rfl (ne_zero_of_mem_cstr (List.mem_of_mem_take hcopied))
    · have hne := (List.mem_replicate.mp hfilled).1
      omega
  · intro h
    exact .inr (List.mem_replicate.mpr ⟨by omega, rfl⟩)

theorem cstr_strncpy : cstr (strncpy src n) = (cstr src).take n := by
  have hnul : 0 ∉ (cstr src).take n := fun h =>
    ne_zero_of_mem_cstr (List.mem_of_mem_take h) rfl
  have htake := cstr_append_zeros ((cstr src).take n) (n - strlen src)
  rwa [cstr_of_no_nul hnul] at htake

variable {src n}

/-- A string that is shorter than the bound is copied whole, whatever follows the array. -/
theorem cstr_strncpy_append (h : strlen src < n) (r : List UInt8) :
    cstr (strncpy src n ++ r) = cstr src := by
  obtain ⟨k, hk⟩ : ∃ k, n - strlen src = k + 1 := ⟨n - strlen src - 1, by omega⟩
  have htake : (cstr src).take n = cstr src := List.take_of_length_le (Nat.le_of_lt h)
  rw [strncpy, htake, hk, List.replicate_succ, List.append_assoc, List.cons_append,
    cstr_append_zero, cstr_cstr]

end Strncpy

end Libfaim
