import Mathlib.Data.List.Basic
import Mathlib.Tactic.Common

/-!
# MD5 (`md5.c`)

A message is appended in pieces; `md5_process` is run over each block of 64 bytes as soon as it is
whole, the bytes behind the last one wait in `buf`. What else is in `buf` is what was in memory
there.
-/

namespace Libfaim

/-- The registers `abcd`. -/
structure Md5Regs where
  a : UInt32
  b : UInt32
  c : UInt32
  d : UInt32
deriving DecidableEq

/-! ## One block -/

def rotateLeft (x n : UInt32) : UInt32 := (x <<< n) ||| (x >>> (32 - n))

def md5F (x y z : UInt32) : UInt32 := (x &&& y) ||| (~~~x &&& z)

def md5G (x y z : UInt32) : UInt32 := (x &&& z) ||| (y &&& ~~~z)

def md5H (x y z : UInt32) : UInt32 := x ^^^ y ^^^ z

def md5I (x y z : UInt32) : UInt32 := y ^^^ (x ||| ~~~z)

/-- What `SET` puts into its first argument. -/
def md5Set (F : UInt32 → UInt32 → UInt32 → UInt32) (a b c d x s t : UInt32) : UInt32 :=
  rotateLeft (a + F b c d + x + t) s + b

namespace Md5Regs

variable (F : UInt32 → UInt32 → UInt32 → UInt32) (r : Md5Regs) (x s t : UInt32)

/-- `SET(a, b, c, d, ...)` -/
def setA : Md5Regs := { r with a := md5Set F r.a r.b r.c r.d x s t }

/-- `SET(d, a, b, c, ...)` -/
def setD : Md5Regs := { r with d := md5Set F r.d r.a r.b r.c x s t }

/-- `SET(c, d, a, b, ...)` -/
def setC : Md5Regs := { r with c := md5Set F r.c r.d r.a r.b x s t }

/-- `SET(b, c, d, a, ...)` -/
def setB : Md5Regs := { r with b := md5Set F r.b r.c r.d r.a x s t }

end Md5Regs

def md5Round1 (X : Fin 16 → UInt32) (r : Md5Regs) : Md5Regs :=
  r
  |>.setA md5F (X 0) 7 0xd76aa478
  |>.setD md5F (X 1) 12 0xe8c7b756
  |>.setC md5F (X 2) 17 0x242070db
  |>.setB md5F (X 3) 22 0xc1bdceee
  |>.setA md5F (X 4) 7 0xf57c0faf
  |>.setD md5F (X 5) 12 0x4787c62a
  |>.setC md5F (X 6) 17 0xa8304613
  |>.setB md5F (X 7) 22 0xfd469501
  |>.setA md5F (X 8) 7 0x698098d8
  |>.setD md5F (X 9) 12 0x8b44f7af
  |>.setC md5F (X 10) 17 0xffff5bb1
  |>.setB md5F (X 11) 22 0x895cd7be
  |>.setA md5F (X 12) 7 0x6b901122
  |>.setD md5F (X 13) 12 0xfd987193
  |>.setC md5F (X 14) 17 0xa679438e
  |>.setB md5F (X 15) 22 0x49b40821

def md5Round2 (X : Fin 16 → UInt32) (r : Md5Regs) : Md5Regs :=
  r
  |>.setA md5G (X 1) 5 0xf61e2562
  |>.setD md5G (X 6) 9 0xc040b340
  |>.setC md5G (X 11) 14 0x265e5a51
  |>.setB md5G (X 0) 20 0xe9b6c7aa
  |>.setA md5G (X 5) 5 0xd62f105d
  |>.setD md5G (X 10) 9 0x02441453
  |>.setC md5G (X 15) 14 0xd8a1e681
  |>.setB md5G (X 4) 20 0xe7d3fbc8
  |>.setA md5G (X 9) 5 0x21e1cde6
  |>.setD md5G (X 14) 9 0xc33707d6
  |>.setC md5G (X 3) 14 0xf4d50d87
  |>.setB md5G (X 8) 20 0x455a14ed
  |>.setA md5G (X 13) 5 0xa9e3e905
  |>.setD md5G (X 2) 9 0xfcefa3f8
  |>.setC md5G (X 7) 14 0x676f02d9
  |>.setB md5G (X 12) 20 0x8d2a4c8a

def md5Round3 (X : Fin 16 → UInt32) (r : Md5Regs) : Md5Regs :=
  r
  |>.setA md5H (X 5) 4 0xfffa3942
  |>.setD md5H (X 8) 11 0x8771f681
  |>.setC md5H (X 11) 16 0x6d9d6122
  |>.setB md5H (X 14) 23 0xfde5380c
  |>.setA md5H (X 1) 4 0xa4beea44
  |>.setD md5H (X 4) 11 0x4bdecfa9
  |>.setC md5H (X 7) 16 0xf6bb4b60
  |>.setB md5H (X 10) 23 0xbebfbc70
  |>.setA md5H (X 13) 4 0x289b7ec6
  |>.setD md5H (X 0) 11 0xeaa127fa
  |>.setC md5H (X 3) 16 0xd4ef3085
  |>.setB md5H (X 6) 23 0x04881d05
  |>.setA md5H (X 9) 4 0xd9d4d039
  |>.setD md5H (X 12) 11 0xe6db99e5
  |>.setC md5H (X 15) 16 0x1fa27cf8
  |>.setB md5H (X 2) 23 0xc4ac5665

def md5Round4 (X : Fin 16 → UInt32) (r : Md5Regs) : Md5Regs :=
  r
  |>.setA md5I (X 0) 6 0xf4292244
  |>.setD md5I (X 7) 10 0x432aff97
  |>.setC md5I (X 14) 15 0xab9423a7
  |>.setB md5I (X 5) 21 0xfc93a039
  |>.setA md5I (X 12) 6 0x655b59c3
  |>.setD md5I (X 3) 10 0x8f0ccc92
  |>.setC md5I (X 10) 15 0xffeff47d
  |>.setB md5I (X 1) 21 0x85845dd1
  |>.setA md5I (X 8) 6 0x6fa87e4f
  |>.setD md5I (X 15) 10 0xfe2ce6e0
  |>.setC md5I (X 6) 15 0xa3014314
  |>.setB md5I (X 13) 21 0x4e0811a1
  |>.setA md5I (X 4) 6 0xf7537e82
  |>.setD md5I (X 11) 10 0xbd3af235
  |>.setC md5I (X 2) 15 0x2ad7d2bb
  |>.setB md5I (X 9) 21 0xeb86d391

/-- The words of a block, put together byte by byte as on a big-endian machine (which is what
`md5.h` leaves `ARCH_IS_BIG_ENDIAN` at). -/
def md5Words (data : List UInt8) (i : Fin 16) : UInt32 :=
  let xp (j : Nat) := (data.getD (4 * i + j) 0).toUInt32
  xp 0 + (xp 1 <<< 8) + (xp 2 <<< 16) + (xp 3 <<< 24)

/-- `md5_process` -/
def md5Process (abcd : Md5Regs) (data : List UInt8) : Md5Regs :=
  let X := md5Words data
  let r := md5Round4 X (md5Round3 X (md5Round2 X (md5Round1 X abcd)))
  ⟨abcd.a + r.a, abcd.b + r.b, abcd.c + r.c, abcd.d + r.d⟩

/-! ## The state of a digest -/

/-- `md5_state_t` -/
structure Md5State where
  count0 : UInt32
  count1 : UInt32
  abcd : Md5Regs
  buf : Fin 64 → UInt8

def md5InitRegs : Md5Regs := ⟨0x67452301, 0xefcdab89, 0x98badcfe, 0x10325476⟩

/-- `md5_init`, which leaves `buf` as it is. -/
def md5Init (buf : Fin 64 → UInt8) : Md5State := ⟨0, 0, md5InitRegs, buf⟩

/-- `memcpy(buf + offset, p, n)`, with the `n` bytes at `p`. -/
def memcpyBuf (buf : Fin 64 → UInt8) (offset : Nat) (p : List UInt8) : Fin 64 → UInt8 := fun i =>
  if offset ≤ i ∧ i < offset + p.length then p.getD (i - offset) 0 else buf i

/-- The loop over the full blocks, with what it leaves of `p`. -/
def md5FullBlocks (abcd : Md5Regs) (p : List UInt8) : Md5Regs × List UInt8 :=
  if 64 ≤ p.length then md5FullBlocks (md5Process abcd p) (p.drop 64) else (abcd, p)
termination_by p.length

/-- `md5_append` behind the initial partial block. -/
def md5AppendRest (s : Md5State) (p : List UInt8) : Md5State :=
  let (abcd, p) := md5FullBlocks s.abcd p
  { s with abcd := abcd, buf := if p.length ≠ 0 then memcpyBuf s.buf 0 p else s.buf }

/-- The message length, updated. -/
def md5Count (s : Md5State) (nbytes : Nat) : Md5State :=
  let nbits := UInt32.ofNat (nbytes <<< 3)
  let count0 := s.count0 + nbits
  let count1 := s.count1 + UInt32.ofNat (nbytes >>> 29)
  { s with count0 := count0, count1 := if count0 < nbits then count1 + 1 else count1 }

/-- `(pms->count[0] >> 3) & 63` -/
def Md5State.offset (s : Md5State) : Nat := ((s.count0 >>> 3) &&& 63).toNat

/-- `md5_append`, with the `nbytes` bytes of `data`. Where `nbytes << 3` is more than an `int`
holds C leaves it undefined; here it is what the cast makes of it. -/
def md5Append (s : Md5State) (data : List UInt8) : Md5State :=
  let nbytes := data.length
  let offset := s.offset
  if nbytes = 0 then s else
  let s := md5Count s nbytes
  if offset ≠ 0 then
    let copy := if offset + nbytes > 64 then 64 - offset else nbytes
    let s := { s with buf := memcpyBuf s.buf offset (data.take copy) }
    if offset + copy < 64 then s
    else md5AppendRest { s with abcd := md5Process s.abcd (List.ofFn s.buf) } (data.drop copy)
  else md5AppendRest s data

/-- `pad` -/
def md5Pad : List UInt8 := 0x80 :: List.replicate 63 0

/-- A byte of two words, least significant word and byte first: `w[i >> 2] >> ((i & 3) << 3)`. -/
def wordByte (w : Nat → UInt32) (i : Nat) : UInt8 :=
  (w (i >>> 2) >>> UInt32.ofNat ((i &&& 3) <<< 3)).toUInt8

/-- `md5_finish` -/
def md5Finish (s : Md5State) : Fin 16 → UInt8 :=
  let data := (List.range 8).map (wordByte fun j => if j = 0 then s.count0 else s.count1)
  let npad := (((55 : UInt32) - (s.count0 >>> 3)) &&& 63).toNat + 1
  let s := md5Append (md5Append s (md5Pad.take npad)) data
  fun i => wordByte ([s.abcd.a, s.abcd.b, s.abcd.c, s.abcd.d].getD · 0) i

/-- A digest from `md5_init` on, over the pieces that are appended. -/
def md5Digest (buf : Fin 64 → UInt8) (pieces : List (List UInt8)) : Fin 16 → UInt8 :=
  md5Finish (pieces.foldl md5Append (md5Init buf))

example : List.ofFn (md5Digest (fun _ => 0xcc) [[0x61], [], [0x62, 0x63]]) =
    [0x90, 0x01, 0x50, 0x98, 0x3c, 0xd2, 0x4f, 0xb0, 0xd6, 0x96, 0x3f, 0x7d, 0x28, 0xe1, 0x7f,
      0x72] := by
  decide +kernel

end Libfaim
