import Mathlib.Data.List.OfFn
import Libfaim.Md5.Compress

/-!
# A digest from pieces

`md5` is MD5 of a whole message: the padded message, block by block. `md5_append` has folded the
whole blocks of what was appended so far and keeps the rest in `buf`, whatever the pieces were
(`Md5State.Holds`), so a digest is that of the pieces put together, and what memory held in `buf`
before does not matter (`md5Digest_eq`).
-/

namespace Libfaim

open BlockStream Endian

/-! ## MD5 of a message -/

/-- One bit, zeros up to eight bytes before the end of a block, and the length in bits. -/
def padding (n : Nat) : List UInt8 :=
  0x80 :: List.replicate ((119 - n % 64) % 64) 0 ++ leBytes 8 (8 * n)

def regsBytes (r : Md5Regs) : List UInt8 :=
  leBytes 4 r.a.toNat ++ leBytes 4 r.b.toNat ++ leBytes 4 r.c.toNat ++ leBytes 4 r.d.toNat

def md5 (msg : List UInt8) : List UInt8 :=
  let padded := msg ++ padding msg.length
  regsBytes (foldBlocks 64 compress (padded.length / 64) md5InitRegs padded)

theorem length_padded (msg : List UInt8) :
    (msg ++ padding msg.length).length = (msg ++ padding msg.length).length / 64 * 64 := by
  simp only [padding, List.length_append, List.length_cons, List.length_replicate, leBytes_length]
  omega

/-! ## The buffer -/

/-- The first `n` bytes of `buf`. -/
def bufTake (buf : Fin 64 → UInt8) (n : Nat) : List UInt8 := (List.ofFn buf).take n

theorem bufTake_length (buf : Fin 64 → UInt8) {n : Nat} (hn : n ≤ 64) :
    (bufTake buf n).length = n := by
  rw [bufTake, List.length_take, List.length_ofFn, Nat.min_eq_left hn]

theorem bufTake_getElem (buf : Fin 64 → UInt8) {n i : Nat} (h : i < (bufTake buf n).length)
    (hi : i < 64) : (bufTake buf n)[i] = buf ⟨i, hi⟩ := by
  simp only [bufTake, List.getElem_take, List.getElem_ofFn]

theorem bufTake_memcpyBuf (buf : Fin 64 → UInt8) {n : Nat} {p : List UInt8}
    (h : n + p.length ≤ 64) :
    bufTake (memcpyBuf buf n p) (n + p.length) = bufTake buf n ++ p := by
  apply List.ext_getElem
  · rw [bufTake_length _ h, List.length_append, bufTake_length _ (by omega)]
  · intro i hi _
    have hin : i < n + p.length := by
      rwa [bufTake_length _ h] at hi
    have hlen : (bufTake buf n).length = n := bufTake_length _ (by omega)
    rw [bufTake_getElem _ hi (by omega), memcpyBuf, List.getElem_append]
    by_cases hlt : i < n
    · rw [if_neg fun hge => absurd hge.1 (Nat.not_le_of_lt hlt), dif_pos (by omega),
        bufTake_getElem]
    · rw [if_pos ⟨Nat.le_of_not_lt hlt, hin⟩, dif_neg (by omega)]
      simp only [hlen]
      rw [List.getD_eq_getElem?_getD, List.getElem?_eq_getElem (by omega), Option.getD_some]

theorem bufTake_full (buf : Fin 64 → UInt8) : bufTake buf 64 = List.ofFn buf :=
  List.take_of_length_le (by rw [List.length_ofFn])

/-! ## The count -/

/-- The two words count the bits of the message. -/
def Md5State.Counts (s : Md5State) (n : Nat) : Prop :=
  s.count0.toNat + 2 ^ 32 * s.count1.toNat = 8 * n % 2 ^ 64

theorem Md5State.Counts.offset {s : Md5State} {n : Nat} (h : s.Counts n) : s.offset = n % 64 := by
  have h0 := s.count0.toNat_lt
  rw [Md5State.Counts] at h
  rw [Md5State.offset, UInt32.toNat_and, UInt32.toNat_shiftRight]
  have hand : ∀ k : Nat, k &&& 63 = k % 64 := fun k => Nat.and_two_pow_sub_one_eq_mod k 6
  simp only [UInt32.reduceToNat, hand, Nat.shiftRight_eq_div_pow, Nat.reduceMod, Nat.reducePow]
  omega

theorem md5Count_counts {s : Md5State} {n m : Nat} (h : s.Counts n) (hm : m < 2 ^ 28) :
    (md5Count s m).Counts (n + m) := by
  have h0 := s.count0.toNat_lt
  have h1 := s.count1.toNat_lt
  rw [Md5State.Counts] at h ⊢
  have hbits : (UInt32.ofNat (m <<< 3)).toNat = 8 * m := by
    rw [UInt32.toNat_ofNat', Nat.shiftLeft_eq]
    omega
  have hhigh : UInt32.ofNat (m >>> 29) = 0 := by
    rw [Nat.shiftRight_eq_div_pow, Nat.div_eq_of_lt (by omega)]
    rfl
  simp only [md5Count, hhigh, UInt32.add_zero, UInt32.lt_iff_toNat_lt, UInt32.toNat_add, hbits]
  split
  · rw [UInt32.toNat_add]
    simp only [UInt32.reduceToNat]
    omega
  · omega

/-! ## Appending -/

theorem md5Process_take (abcd : Md5Regs) {data : List UInt8} (hdata : 64 ≤ data.length) :
    md5Process abcd data = md5Process abcd (data.take 64) := by
  have htake : 64 ≤ (data.take 64).length := by
    rw [List.length_take]
    omega
  rw [md5Process_eq abcd hdata, md5Process_eq abcd htake, List.take_take, Nat.min_self]

theorem md5Process_block (abcd : Md5Regs) (block : List UInt8) (h : block.length = 64) :
    md5Process abcd block = compress abcd block := by
  rw [md5Process_eq abcd (Nat.le_of_eq h.symm), List.take_of_length_le (Nat.le_of_eq h)]

theorem md5FullBlocks_eq (abcd : Md5Regs) (p : List UInt8) :
    md5FullBlocks abcd p =
      (foldBlocks 64 md5Process (p.length / 64) abcd p, p.drop (p.length / 64 * 64)) := by
  induction abcd, p using md5FullBlocks.induct with
  | case1 abcd p hle ih =>
    have hdiv : p.length / 64 = (p.drop 64).length / 64 + 1 := by
      rw [List.length_drop]
      omega
    have hmul (k : Nat) : (k + 1) * 64 = 64 + k * 64 := by omega
    rw [md5FullBlocks, if_pos hle, ih, hdiv, foldBlocks, ← md5Process_take abcd hle,
      List.drop_drop, hmul]
  | case2 abcd p hlt =>
    have hdiv : p.length / 64 = 0 := by omega
    rw [md5FullBlocks, if_neg hlt, hdiv, foldBlocks, Nat.zero_mul, List.drop_zero]

/-- After the bytes of `msg`: they are counted, the whole blocks are folded, the rest is the start
of `buf`. -/
structure Md5State.Holds (s : Md5State) (msg : List UInt8) : Prop where
  counts : s.Counts msg.length
  streamed : Streamed 64 md5Process md5InitRegs msg s.abcd (bufTake s.buf (msg.length % 64))

theorem md5Init_holds (buf : Fin 64 → UInt8) : (md5Init buf).Holds [] :=
  ⟨rfl, Streamed.nil (by decide) _⟩

section Append

variable {s : Md5State} {msg : List UInt8}

/-- Behind a whole number of blocks the rest of a piece is folded and kept. -/
theorem md5AppendRest_holds
    (h : Streamed 64 md5Process md5InitRegs msg s.abcd []) {p : List UInt8}
    (hcounts : s.Counts (msg ++ p).length) : (md5AppendRest s p).Holds (msg ++ p) := by
  have hfull : (p.take (p.length / 64 * 64)).length = p.length / 64 * 64 := by
    rw [List.length_take]
    omega
  have hfold := h.fold (p := p.take (p.length / 64 * 64)) hfull
  have hkept := hfold.keep (p := p.drop (p.length / 64 * 64)) (by
    rw [List.nil_append, List.length_drop]
    omega)
  rw [List.append_assoc, List.take_append_drop, List.nil_append, List.nil_append,
    ← foldBlocks_append hfull _ (p.drop (p.length / 64 * 64)), List.take_append_drop] at hkept
  have hlen := hkept.length_kept
  refine ⟨hcounts, ?_⟩
  rw [← hlen, md5AppendRest, md5FullBlocks_eq]
  generalize p.drop (p.length / 64 * 64) = r at hkept ⊢
  by_cases hr : r.length = 0
  · obtain rfl := List.eq_nil_of_length_eq_zero hr
    exact hkept
  · have hbuf := bufTake_memcpyBuf s.buf (n := 0) (p := r) (by
      rw [Nat.zero_add]
      exact Nat.le_of_lt hkept.kept_lt)
    rw [Nat.zero_add] at hbuf
    simp only [ne_eq, hr, not_false_eq_true, if_true, hbuf]
    exact hkept

theorem md5AppendRest_holds_update {abcd : Md5Regs} (buf : Fin 64 → UInt8)
    (h : Streamed 64 md5Process md5InitRegs msg abcd []) {p : List UInt8}
    (hcounts : s.Counts (msg ++ p).length) :
    (md5AppendRest { s with abcd := abcd, buf := buf } p).Holds (msg ++ p) :=
  md5AppendRest_holds (s := { s with abcd := abcd, buf := buf }) h hcounts

theorem md5Append_of_offset_zero (hs : s.offset = 0) {data : List UInt8} (hne : data.length ≠ 0) :
    md5Append s data = md5AppendRest (md5Count s data.length) data := by
  rw [md5Append, if_neg hne, if_neg (by rw [hs]; exact fun h => h rfl)]

theorem md5Append_of_short (hs : s.offset ≠ 0) {data : List UInt8} (hne : data.length ≠ 0)
    (hshort : s.offset + data.length < 64) :
    md5Append s data =
      { md5Count s data.length with buf := memcpyBuf s.buf s.offset data } := by
  have hcopy : ¬ s.offset + data.length > 64 := by omega
  rw [md5Append, if_neg hne, if_pos hs]
  simp only [hcopy, if_false, hshort, if_true, List.take_length]
  rfl

theorem md5Append_of_long (hs : s.offset ≠ 0) {data : List UInt8}
    (hlong : 64 ≤ s.offset + data.length) (hlt : s.offset < 64) :
    md5Append s data =
      let buf := memcpyBuf s.buf s.offset (data.take (64 - s.offset))
      md5AppendRest { md5Count s data.length with
        abcd := md5Process s.abcd (List.ofFn buf), buf := buf } (data.drop (64 - s.offset)) := by
  have hcopy : (if s.offset + data.length > 64 then 64 - s.offset else data.length) =
      64 - s.offset := by
    split <;> omega
  have hfull : ¬ s.offset + (64 - s.offset) < 64 := by omega
  rw [md5Append, if_neg (by omega), if_pos hs]
  simp only [hcopy, hfull, if_false]
  rfl

theorem Md5State.Holds.append (h : s.Holds msg) {data : List UInt8} (hdata : data.length < 2 ^ 28) :
    (md5Append s data).Holds (msg ++ data) := by
  have hoffset : s.offset = msg.length % 64 := h.counts.offset
  have hcounts : (md5Count s data.length).Counts (msg ++ data).length := by
    rw [List.length_append]
    exact md5Count_counts h.counts hdata
  have hstreamed := h.streamed
  rw [← hoffset] at hstreamed
  have hkept := hstreamed.kept_lt
  have hlt : s.offset < 64 := by omega
  have hlen : (bufTake s.buf s.offset).length = s.offset := bufTake_length _ (Nat.le_of_lt hlt)
  by_cases hne : data.length = 0
  · obtain rfl := List.eq_nil_of_length_eq_zero hne
    rw [List.append_nil]
    exact h
  by_cases hzero : s.offset = 0
  · rw [md5Append_of_offset_zero hzero hne]
    rw [hzero] at hstreamed
    exact md5AppendRest_holds (s := md5Count s data.length) hstreamed hcounts
  by_cases hshort : s.offset + data.length < 64
  · rw [md5Append_of_short hzero hne hshort]
    refine ⟨hcounts, ?_⟩
    have hmod : (msg ++ data).length % 64 = s.offset + data.length := by
      rw [List.length_append]
      omega
    rw [hmod, bufTake_memcpyBuf _ (Nat.le_of_lt hshort)]
    exact hstreamed.keep (by rwa [List.length_append, hlen])
  · rw [md5Append_of_long hzero (Nat.le_of_not_lt hshort) hlt]
    have htake : (data.take (64 - s.offset)).length = 64 - s.offset := by
      rw [List.length_take]
      omega
    have hblock : List.ofFn (memcpyBuf s.buf s.offset (data.take (64 - s.offset))) =
        bufTake s.buf s.offset ++ data.take (64 - s.offset) := by
      rw [← bufTake_full, ← bufTake_memcpyBuf _ (by omega)]
      congr 1
      omega
    have hfold := hstreamed.fold_one (p := data.take (64 - s.offset)) (by
      rw [List.length_append, hlen, htake]
      omega)
    rw [← hblock] at hfold
    have happ : msg ++ data = msg ++ data.take (64 - s.offset) ++ data.drop (64 - s.offset) := by
      rw [List.append_assoc, List.take_append_drop]
    rw [happ] at hcounts ⊢
    exact md5AppendRest_holds_update _ hfold hcounts

theorem md5Append_pieces (h : s.Holds msg) {pieces : List (List UInt8)}
    (hpieces : ∀ p ∈ pieces, p.length < 2 ^ 28) :
    (pieces.foldl md5Append s).Holds (msg ++ pieces.flatten) := by
  induction pieces generalizing s msg with
  | nil => rwa [List.flatten_nil, List.append_nil]
  | cons p ps ih =>
    rw [List.forall_mem_cons] at hpieces
    rw [List.foldl_cons, List.flatten_cons, ← List.append_assoc]
    exact ih (h.append hpieces.1) hpieces.2

end Append

/-! ## Finishing -/

theorem wordByte_range (w : Nat → UInt32) (k : Nat) :
    (List.range' (4 * k) 4).map (wordByte w) = leBytes 4 (w k).toNat := by
  have hbyte (j : Nat) (hj : j < 4) : wordByte w (4 * k + j) =
      UInt8.ofNat ((w k).toNat / 256 ^ j) := by
    have hdiv : (4 * k + j) >>> 2 = k := by
      rw [Nat.shiftRight_eq_div_pow]
      omega
    have hmod : (4 * k + j) &&& 3 = j := by
      have hand := Nat.and_two_pow_sub_one_eq_mod (4 * k + j) 2
      simp only [Nat.reducePow, Nat.reduceSub] at hand
      omega
    rw [wordByte, hdiv, hmod]
    apply UInt8.toNat_inj.mp
    have hshift : (UInt32.ofNat (j * 2 ^ 3)).toNat % 32 = 8 * j := by
      rw [UInt32.toNat_ofNat']
      omega
    rw [UInt32.toNat_toUInt8, UInt32.toNat_shiftRight, UInt8.toNat_ofNat', Nat.shiftLeft_eq,
      Nat.shiftRight_eq_div_pow, hshift, Nat.pow_mul]
  have hrange : List.range' (4 * k) 4 = [4 * k + 0, 4 * k + 1, 4 * k + 2, 4 * k + 3] := rfl
  rw [hrange, List.map_cons, List.map_cons, List.map_cons, List.map_cons, List.map_nil,
    hbyte 0 (by decide), hbyte 1 (by decide), hbyte 2 (by decide), hbyte 3 (by decide)]
  simp only [leBytes, Nat.pow_zero, Nat.div_one, Nat.div_div_eq_div_mul, Nat.reducePow,
    Nat.reduceMul]

/-- What `md5_finish` appends first. -/
theorem md5Finish_pad {s : Md5State} {msg : List UInt8} (h : s.Holds msg) :
    md5Pad.take ((((55 : UInt32) - (s.count0 >>> 3)) &&& 63).toNat + 1) =
      0x80 :: List.replicate ((119 - msg.length % 64) % 64) 0 := by
  have hcounts := h.counts
  have h0 := s.count0.toNat_lt
  rw [Md5State.Counts] at hcounts
  have hand : ∀ k : Nat, k &&& 63 = k % 64 := fun k => Nat.and_two_pow_sub_one_eq_mod k 6
  have hnpad : (((55 : UInt32) - (s.count0 >>> 3)) &&& 63).toNat =
      (119 - msg.length % 64) % 64 := by
    rw [UInt32.toNat_and, UInt32.toNat_sub, UInt32.toNat_shiftRight]
    simp only [UInt32.reduceToNat, hand, Nat.shiftRight_eq_div_pow, Nat.reduceMod, Nat.reducePow]
    omega
  rw [hnpad, md5Pad, List.take_succ_cons, List.take_replicate, Nat.min_eq_left (by omega)]

/-- What it appends then. -/
theorem md5Finish_data {s : Md5State} {msg : List UInt8} (h : s.Holds msg) :
    (List.range 8).map (wordByte fun j => if j = 0 then s.count0 else s.count1) =
      leBytes 8 (8 * msg.length) := by
  have hrange : List.range 8 = List.range' (4 * 0) 4 ++ List.range' (4 * 1) 4 := rfl
  have hcounts := h.counts
  have h0 := s.count0.toNat_lt
  rw [Md5State.Counts] at hcounts
  have hlow : leBytes 4 s.count0.toNat = leBytes 4 (8 * msg.length % 256 ^ 8) := by
    rw [← leBytes_mod 4 (8 * msg.length % 256 ^ 8)]
    congr 1
    omega
  have hhigh : s.count1.toNat = 8 * msg.length % 256 ^ 8 / 256 ^ 4 := by omega
  rw [hrange, List.map_append, wordByte_range, wordByte_range, ← leBytes_mod 8,
    leBytes_append 4 4, ← hlow, ← hhigh]
  rfl

theorem md5Finish_bytes (s : Md5State) :
    List.ofFn (fun i : Fin 16 => wordByte ([s.abcd.a, s.abcd.b, s.abcd.c, s.abcd.d].getD · 0) i) =
      regsBytes s.abcd := by
  have hrange : List.range 16 = List.range' (4 * 0) 4 ++ List.range' (4 * 1) 4 ++
      List.range' (4 * 2) 4 ++ List.range' (4 * 3) 4 := rfl
  have hofFn (f : Nat → UInt8) : List.ofFn (fun i : Fin 16 => f i) = (List.range 16).map f := rfl
  rw [hofFn, hrange, List.map_append, List.map_append, List.map_append, wordByte_range,
    wordByte_range, wordByte_range, wordByte_range]
  rfl

theorem md5Finish_eq {s : Md5State} {msg : List UInt8} (h : s.Holds msg) :
    List.ofFn (md5Finish s) = md5 msg := by
  have hzeros : (0x80 :: List.replicate ((119 - msg.length % 64) % 64) 0 : List UInt8).length <
      2 ^ 28 := by
    rw [List.length_cons, List.length_replicate]
    omega
  have hcount : (leBytes 8 (8 * msg.length)).length < 2 ^ 28 := by
    rw [leBytes_length]
    decide
  have hfinal := ((h.append hzeros).append hcount).streamed.eq_fold
    (k := (msg ++ padding msg.length).length / 64) (by
      rw [List.append_assoc]
      exact length_padded msg)
  rw [List.append_assoc] at hfinal
  rw [md5Finish, md5Finish_pad h, md5Finish_data h, md5Finish_bytes, md5, hfinal, ← padding]
  exact congrArg regsBytes (foldBlocks_congr md5Process_block _ (Nat.div_mul_le_self _ _))

theorem md5Digest_pieces (buf : Fin 64 → UInt8) {pieces : List (List UInt8)}
    (hpieces : ∀ p ∈ pieces, p.length < 2 ^ 28) :
    List.ofFn (md5Digest buf pieces) = md5 pieces.flatten :=
  md5Finish_eq (md5Append_pieces (md5Init_holds buf) hpieces)

/-- Two ways of cutting one message into pieces, over whatever was in memory, give the digest that
is MD5 of it. -/
theorem md5Digest_eq (buf buf' : Fin 64 → UInt8) {pieces pieces' : List (List UInt8)}
    (hsame : pieces.flatten = pieces'.flatten) (hpieces : ∀ p ∈ pieces, p.length < 2 ^ 28)
    (hpieces' : ∀ p ∈ pieces', p.length < 2 ^ 28) :
    List.ofFn (md5Digest buf pieces) = md5 pieces.flatten ∧
      md5Digest buf pieces = md5Digest buf' pieces' := by
  have h := md5Digest_pieces buf hpieces
  refine ⟨h, List.ofFn_injective ?_⟩
  rw [h, md5Digest_pieces buf' hpieces', hsame]

theorem md5Digest_abc :
    List.ofFn (md5Digest (fun _ => 0) [[0x61], [], [0x62, 0x63]]) = md5 [0x61, 0x62, 0x63] ∧
      md5Digest (fun _ => 0) [[0x61], [], [0x62, 0x63]] =
        md5Digest (fun _ => 0xcc) [[0x61, 0x62, 0x63]] :=
  md5Digest_eq (fun _ => 0) (fun _ => 0xcc) rfl (by simp) (by simp)

end Libfaim
