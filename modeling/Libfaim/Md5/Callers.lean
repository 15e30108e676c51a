import Libfaim.Md5.Digest
import Libfaim.Request.Whole

/-!
# What is hashed with MD5

The two callers of `md5.c`: `aim_encode_password_md5`, which appends three pieces, and
`aim_sendmemblock`, which answers a request for a part of the client's memory with a hash.
-/

namespace Libfaim

/-- `md5_init`, `md5_append` and `md5_finish` of one piece. -/
def digestOf (buf : Fin 64 → UInt8) (msg : List UInt8) : Fin 16 → UInt8 := md5Digest buf [msg]

theorem digestOf_eq (buf : Fin 64 → UInt8) {msg : List UInt8} (h : msg.length < 2 ^ 28) :
    List.ofFn (digestOf buf msg) = md5 msg := by
  have hpieces : ∀ p ∈ [msg], p.length < 2 ^ 28 := by
    intro p hp
    rwa [List.mem_singleton.mp hp]
  have hflat : [msg].flatten = msg := by
    rw [List.flatten_cons, List.flatten_nil, List.append_nil]
  rw [digestOf, md5Digest_pieces buf hpieces, hflat]

theorem writes_putAll_one {put : StateM AimBstream Nat} {v : List UInt8} {x : Nat}
    (h : Writes put v x) : Writes (putAll [put]) v 0 :=
  (h.bind (Writes.pure 0)).of_eq (List.append_nil v)

/-! ## The password -/

/-- The digest `aim_encode_password_md5` makes: the key, the password and the string of the
protocol are appended one after the other. -/
def passwordDigest (buf : Fin 64 → UInt8) (password key : List UInt8) : Fin 16 → UInt8 :=
  md5Digest buf [cstr key, cstr password, aimMd5String]

/-- The three pieces are hashed as the one string `aimEncodePasswordMd5` gives to its MD5. -/
theorem passwordDigest_eq (buf buf' : Fin 64 → UInt8) {password key : List UInt8}
    (h : (cstr key ++ cstr password ++ aimMd5String).length < 2 ^ 28) :
    List.ofFn (passwordDigest buf password key) =
      aimEncodePasswordMd5 (digestOf buf') password key := by
  have hpieces : ∀ p ∈ [cstr key, cstr password, aimMd5String], p.length < 2 ^ 28 := by
    simp only [List.length_append] at h
    simp only [List.forall_mem_cons]
    exact ⟨by omega, by omega, by omega, fun _ hnil => nomatch hnil⟩
  have hflat : [cstr key, cstr password, aimMd5String].flatten =
      cstr key ++ cstr password ++ aimMd5String := by
    simp only [List.flatten_cons, List.flatten_nil, List.append_nil, List.append_assoc]
  rw [passwordDigest, md5Digest_pieces buf hpieces, aimEncodePasswordMd5, digestOf_eq buf' h, hflat]

/-! ## The memory -/

/-- What stands behind the length 16 in the answer of `aim_sendmemblock`, with its hash for MD5. -/
def memblockAnswer (hash : List UInt8 → List UInt8) (offset len : UInt32)
    (buf : Option (List UInt8)) (flag : UInt8) : List UInt8 :=
  match buf with
  | some buf => if flag = 1 ∧ len = 0x10 then buf.take 16 else hash (buf.take len.toNat)
  | none =>
    if len = 0 then hash []
    else if offset = 0x03ffffff ∧ len = 0x03ffffff then
      [0x44, 0xa9, 0x5d, 0x26, 0xd2, 0x49, 0x04, 0x23, 0x93, 0xb8, 0x82, 0x1f, 0x51, 0xc5, 0x4b,
        0x01]
    else []

section Memblock

variable {offset len : UInt32} {buf : Option (List UInt8)} {hash : List UInt8 → List UInt8}

theorem writes_memblockHash (digest : List UInt8 → Fin 16 → UInt8) (flag : UInt8) :
    Writes (putAll (memblockHash digest offset len buf flag))
      (memblockAnswer (fun msg => List.ofFn (digest msg)) offset len buf flag) 0 := by
  have hdigest (msg : List UInt8) :
      Writes (putAll [aimbsPutraw (List.ofFn (digest msg)) 0x10]) (List.ofFn (digest msg)) 0 :=
    writes_putAll_one (writes_aimbsPutraw List.length_ofFn)
  rcases buf with _ | b
  · by_cases hzero : len = 0
    · simp only [memblockHash, memblockAnswer, hzero, if_true]
      exact hdigest []
    · simp only [memblockHash, memblockAnswer, hzero, if_false, and_false]
      split
      · exact ((writes_aimbsPut32 _).bind ((writes_aimbsPut32 _).bind ((writes_aimbsPut32 _).bind
          (writes_putAll_one (writes_aimbsPut32 _))))).of_eq (by decide)
      · exact Writes.pure 0
  · by_cases hhash : flag = 1 ∧ len = 0x10
    · simp only [memblockHash, memblockAnswer, hhash, and_self, decide_true, if_true]
      exact writes_putAll_one (writes_aimbsPut 0x10 (b.take 16))
    · by_cases hpos : len > 0
      · simp only [memblockHash, memblockAnswer, hhash, hpos, decide_true, decide_false, if_false]
        exact hdigest _
      · have hzero : len = 0 := by
          apply UInt32.toNat_inj.mp
          rw [gt_iff_lt, UInt32.lt_iff_toNat_lt] at hpos
          exact Nat.eq_zero_of_not_pos hpos
        subst hzero
        simp only [memblockHash, memblockAnswer, hhash, hpos, decide_false, if_false, if_true]
        exact hdigest []

theorem memblockAnswer_length_le (hhash : ∀ msg, (hash msg).length = 16) (offset len : UInt32)
    (buf : Option (List UInt8)) (flag : UInt8) :
    (memblockAnswer hash offset len buf flag).length ≤ 16 := by
  rcases buf with _ | b
  · simp only [memblockAnswer]
    split
    · exact Nat.le_of_eq (hhash [])
    · split <;> decide
  · simp only [memblockAnswer]
    split
    · exact List.length_take_le 16 b
    · exact Nat.le_of_eq (hhash _)

/-- The length in front of the hash is right for a buffer, for no memory at all and for the one
block whose hash is known. -/
theorem memblockAnswer_length (hhash : ∀ msg, (hash msg).length = 16)
    (hbuf : ∀ b ∈ buf, len.toNat ≤ b.length) (flag : UInt8) :
    (memblockAnswer hash offset len buf flag).length = 16 ↔
      buf ≠ none ∨ len = 0 ∨ (offset = 0x03ffffff ∧ len = 0x03ffffff) := by
  rcases buf with _ | b
  · simp only [memblockAnswer, ne_eq, not_true_eq_false, false_or]
    by_cases hzero : len = 0
    · simp [hzero, hhash]
    · by_cases hknown : offset = 0x03ffffff ∧ len = 0x03ffffff
      · simp [hknown]
      · simp [hzero, hknown]
  · simp only [memblockAnswer, ne_eq, reduceCtorEq, not_false_eq_true, true_or, iff_true]
    split
    · next hflag =>
      have hb := hbuf b rfl
      rw [hflag.2] at hb
      rw [List.length_take]
      exact Nat.min_eq_left hb
    · exact hhash _

/-- Two functions that agree on what is hashed. -/
theorem memblockAnswer_congr {hash' : List UInt8 → List UInt8}
    (h : ∀ msg : List UInt8, msg.length ≤ len.toNat → hash msg = hash' msg) (offset : UInt32)
    (buf : Option (List UInt8)) (flag : UInt8) :
    memblockAnswer hash offset len buf flag = memblockAnswer hash' offset len buf flag := by
  cases buf with
  | none => rw [memblockAnswer, memblockAnswer, h [] (Nat.zero_le _)]
  | some b => rw [memblockAnswer, memblockAnswer, h _ (List.length_take_le _ _)]

variable {s : Requester} {c : ConnPtr}

/-- The frame of `aim_sendmemblock` announces a hash of 16 bytes and holds as many exactly if there
is anything to hash; for other memory that the client has not got, it holds none. The hash is the
MD5 digest of less than 2 ^ 28 bytes. -/
theorem aimSendmemblock_sends (mem : Fin 64 → UInt8) (now : Int) {flag : UInt8} {req : Request}
    (hreq : aimSendmemblock (digestOf mem) c offset len buf flag = .ok req)
    (hbuf : ∀ b ∈ buf, len.toNat ≤ b.length) :
    ∃ answer : List UInt8,
      (s.Sent (s.request c now req) fun bs => bs.written =
        snacFront 0x0001 0x0020 s.snacs.snacidNext ++ (aimutilPut16 0x0010 ++ answer)) ∧
      (answer.length = 16 ↔ buf ≠ none ∨ len = 0 ∨ (offset = 0x03ffffff ∧ len = 0x03ffffff)) ∧
      (len.toNat < 2 ^ 28 → answer = memblockAnswer md5 offset len buf flag) := by
  have hhash (msg : List UInt8) : (List.ofFn (digestOf mem msg)).length = 16 := List.length_ofFn
  refine ⟨memblockAnswer (fun msg => List.ofFn (digestOf mem msg)) offset len buf flag, ?_,
    memblockAnswer_length hhash hbuf flag, fun hlen => ?_⟩
  · have hc : c ≠ 0 := by
      rintro rfl
      exact nomatch hreq
    rw [aimSendmemblock, needConn, if_neg hc] at hreq
    obtain rfl := Except.ok.inj hreq
    have hputs : Writes
        (putAll (aimbsPut16 0x0010 :: memblockHash (digestOf mem) offset len buf flag))
        (aimutilPut16 0x0010 ++
          memblockAnswer (fun msg => List.ofFn (digestOf mem msg)) offset len buf flag) 0 :=
      (writes_aimbsPut16 0x0010).bind (writes_memblockHash (digestOf mem) flag)
    have hsize := memblockAnswer_length_le hhash offset len buf flag
    refine Requester.sent_request_iff.mpr fun _ =>
      (writes_putSnac hputs).written_init (by decide : (10 + 2 + 16 : Nat) < 65536) ?_
    rw [List.length_append, snacFront_length, List.length_append]
    exact Nat.add_le_add_left (Nat.add_le_add_left hsize 2) 10
  · refine memblockAnswer_congr (fun msg hmsg => digestOf_eq mem ?_) offset buf flag
    exact Nat.lt_of_le_of_lt hmsg hlen

/-- The three bytes "abc", on a connection that can be used. -/
theorem aimSendmemblock_sends_abc :
    ∃ req fr, aimSendmemblock (digestOf fun _ => 0) 1 0 3 (some [0x61, 0x62, 0x63]) 0 = .ok req ∧
      (authRequester.request 1 0 req).2.passed = [fr] ∧
      fr.data.written = snacFront 0x0001 0x0020 1 ++
        (aimutilPut16 0x0010 ++ md5 [0x61, 0x62, 0x63]) := by
  obtain ⟨answer, hsent, -, hanswer⟩ := @aimSendmemblock_sends 0 3 (some [0x61, 0x62, 0x63])
    authRequester 1 (fun _ => 0) 0 0 _ rfl fun b hb => by
      obtain rfl := Option.some.inj hb
      decide
  obtain ⟨fr, hpassed, hwritten⟩ := hsent rfl
  refine ⟨_, fr, rfl, hpassed, ?_⟩
  rw [hwritten, hanswer (by decide)]
  rfl

end Memblock

end Libfaim
