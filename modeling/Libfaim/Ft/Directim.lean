import Libfaim.Ft
import Libfaim.Im.Block
import Libfaim.RxQueue.Codec

/-!
# Direct messages are taken in as they were sent

The bytes of a frame are the OFT header, which has 76 bytes, and the message. The screen name has
its place in front of the offset 52 of `hdr2`, where `aim_send_im_direct` goes on with zeros: sixteen
bytes of it arrive. The length of the message goes into the header with 32 bits, but the stream
behind it has a length of sixteen bits, so that nothing is put for a longer message. And the length
is taken of a null message too (`directimDelivered_iff`).
-/

namespace Libfaim

/-! ## The header -/

/-- The bytes of `hdr2` in front of the length of the message. -/
def directimHead (cookie : List UInt8) : List UInt8 :=
  aimutilPut16 0x0006 ++ (aimutilPut16 0x0000 ++ (cookie ++ (aimutilPut16 0x0000 ++
    (aimutilPut16 0x0000 ++ (aimutilPut16 0x0000 ++ aimutilPut16 0x0000)))))

/-- The name as it stands in `hdr2`: the first bytes of the name, zeros behind it. -/
def directimName (sn : List UInt8) : List UInt8 :=
  (cstr sn ++ List.replicate (32 - strlen sn) 0).take 16

/-- The last byte of `hdr2`, which is left as it was. -/
def directimLast (sn : List UInt8) : List UInt8 :=
  (cstr sn ++ List.replicate (32 - strlen sn) 0).drop 31

section Header

variable {cookie sn : List UInt8} {msglen : Nat} {flags : UInt16}

theorem directimHead_length (hcookie : cookie.length = 8) : (directimHead cookie).length = 20 := by
  simp only [directimHead, List.length_append, aimutilPut16_length, hcookie]

theorem directimName_length (hsn : strlen sn ≤ maxsnlen) : (directimName sn).length = 16 := by
  have hlen : (cstr sn).length = strlen sn := rfl
  rw [directimName, List.length_take, List.length_append, List.length_replicate, hlen]
  simp only [maxsnlen] at hsn
  omega

theorem directimLast_length (hsn : strlen sn ≤ maxsnlen) : (directimLast sn).length = 1 := by
  have hlen : (cstr sn).length = strlen sn := rfl
  rw [directimLast, List.length_drop, List.length_append, List.length_replicate, hlen]
  simp only [maxsnlen] at hsn
  omega

theorem writes_putDirectimhdr (hcookie : cookie.length = 8) :
    Writes (putDirectimhdr cookie msglen flags)
      (directimHead cookie ++ (aimutilPut32 (UInt32.ofNat msglen) ++ (aimutilPut16 0x0000 ++
        (aimutilPut16 0x0000 ++ (aimutilPut16 0x0000 ++ (aimutilPut16 flags ++
          (aimutilPut16 0x0000 ++ aimutilPut16 0x0000))))))) 2 := by
  have hall : Writes (putDirectimhdr cookie msglen flags)
      (aimutilPut16 0x0006 ++ (aimutilPut16 0x0000 ++ (cookie ++ (aimutilPut16 0x0000 ++
        (aimutilPut16 0x0000 ++ (aimutilPut16 0x0000 ++ (aimutilPut16 0x0000 ++
          (aimutilPut32 (UInt32.ofNat msglen) ++ (aimutilPut16 0x0000 ++ (aimutilPut16 0x0000 ++
            (aimutilPut16 0x0000 ++ (aimutilPut16 flags ++ (aimutilPut16 0x0000 ++
              aimutilPut16 0x0000))))))))))))) 2 :=
    (writes_aimbsPut16 _).bind <| (writes_aimbsPut16 _).bind <|
      (writes_aimbsPutraw hcookie).bind <| (writes_aimbsPut16 _).bind <|
      (writes_aimbsPut16 _).bind <| (writes_aimbsPut16 _).bind <|
      (writes_aimbsPut16 _).bind <| (writes_aimbsPut32 _).bind <|
      (writes_aimbsPut16 _).bind <| (writes_aimbsPut16 _).bind <|
      (writes_aimbsPut16 _).bind <| (writes_aimbsPut16 _).bind <|
      (writes_aimbsPut16 _).bind (writes_aimbsPut16 _)
  exact hall.of_eq (by simp only [directimHead, List.append_assoc])

theorem writes_putDirectimtail : Writes putDirectimtail (List.replicate 15 0) 2 := by
  have hall : Writes putDirectimtail (aimutilPut8 0 ++ (aimutilPut16 0 ++ (aimutilPut16 0 ++
      (aimutilPut16 0 ++ (aimutilPut16 0 ++ (aimutilPut16 0 ++ (aimutilPut16 0 ++
        aimutilPut16 0))))))) 2 :=
    (writes_aimbsPut8 _).bind <| (writes_aimbsPut16 _).bind <| (writes_aimbsPut16 _).bind <|
      (writes_aimbsPut16 _).bind <| (writes_aimbsPut16 _).bind <| (writes_aimbsPut16 _).bind <|
      (writes_aimbsPut16 _).bind (writes_aimbsPut16 _)
  exact hall.of_eq (by decide)

/-- The bytes of `hdr2`. -/
theorem directimHdr2_eq (hcookie : cookie.length = 8) (hsn : strlen sn ≤ maxsnlen) :
    directimHdr2 cookie sn msglen flags =
      directimHead cookie ++ (aimutilPut32 (UInt32.ofNat msglen) ++ (List.replicate 6 0 ++
        (aimutilPut16 flags ++ (List.replicate 4 0 ++ (directimName sn ++
          (List.replicate 15 0 ++ directimLast sn)))))) := by
  have hsnlen : (cstr sn).length = strlen sn := rfl
  have hhead := directimHead_length hcookie
  simp only [maxsnlen] at hsn
  -- the 36 bytes and the name, written into the cleared buffer
  generalize hv : directimHead cookie ++ (aimutilPut32 (UInt32.ofNat msglen) ++
    (aimutilPut16 0x0000 ++ (aimutilPut16 0x0000 ++ (aimutilPut16 0x0000 ++ (aimutilPut16 flags ++
      (aimutilPut16 0x0000 ++ aimutilPut16 0x0000)))))) = v
  have hvlen : v.length = 36 := by
    rw [← hv]
    simp only [List.length_append, aimutilPut16_length, aimutilPut32_length, hhead]
  have hput : Writes (do let _ ← putDirectimhdr cookie msglen flags; aimbsPutraw sn (strlen sn))
      (v ++ cstr sn) (strlen sn) :=
    ((writes_putDirectimhdr hcookie).of_eq hv).bind (writes_aimbsPutrawCstr sn)
  have hfresh : aimBstreamInit (List.replicate 0x44 0) 0x44 = ⟨List.replicate 0x44 0, 0⟩ :=
    aimBstreamInit_replicate (by omega)
  have hstored := hput ⟨List.replicate 0x44 0, 0⟩ (Nat.zero_le _) (by
    rw [aimBstreamEmpty_replicate, List.length_append, hvlen, hsnlen]
    omega)
  rw [stateM_bind] at hstored
  have hdata : (AimBstream.store ⟨List.replicate 0x44 0, 0⟩ (v ++ cstr sn)).data =
      v ++ (cstr sn ++ List.replicate (32 - strlen sn) 0) := by
    simp only [AimBstream.store, List.take_zero, List.nil_append, Nat.zero_add, List.drop_replicate,
      List.length_append, hvlen, hsnlen, List.append_assoc]
    congr 3
    omega
  generalize hw : cstr sn ++ List.replicate (32 - strlen sn) 0 = w at hdata
  have hwlen : w.length = 32 := by
    rw [← hw, List.length_append, List.length_replicate, hsnlen]
    omega
  have hlen : (AimBstream.store ⟨List.replicate 0x44 0, 0⟩ (v ++ cstr sn)).len = 68 := by
    rw [AimBstream.len, hdata, List.length_append, hvlen, hwlen]
  have hset := @aimBstreamSetpos_of_le
    (AimBstream.store ⟨List.replicate 0x44 0, 0⟩ (v ++ cstr sn)) 52 (by omega)
  -- the zeros behind it, from the offset 52 on
  have htail := writes_putDirectimtail ⟨v ++ w, 52⟩
    (by simp only [AimBstream.len, List.length_append]; omega)
    (by simp only [aimBstreamEmpty, AimBstream.len, List.length_append, List.length_replicate]; omega)
  unfold directimHdr2
  simp only [hfresh, hstored, hset, hdata, htail]
  have htake : (v ++ w).take 52 = v ++ w.take 16 := by
    rw [List.take_append, hvlen, List.take_of_length_le (by omega)]
  have hdrop : (v ++ w).drop (52 + 15) = w.drop 31 := by
    rw [List.drop_append, hvlen, List.drop_of_length_le (by omega), List.nil_append]
  simp only [AimBstream.store, List.length_replicate, htake, hdrop]
  rw [← hv, directimName, directimLast, hw]
  simp only [List.append_assoc]
  rfl

end Header

/-! ## The bytes of a frame -/

/-- What `sendframe_oft` sends in front of the data. -/
def oftHeader (type : UInt16) (magic : List UInt8) (hdr2len : UInt16) (hdr2 : List UInt8) :
    List UInt8 :=
  magic ++ (aimutilPut16 (hdr2len + 8) ++ (aimutilPut16 type ++ hdr2))

section Oft

variable {type hdr2len : UInt16} {magic hdr2 : List UInt8}

theorem oftHeader_length (hmagic : magic.length = 4) (hhdr2 : hdr2.length = hdr2len.toNat) :
    (oftHeader type magic hdr2len hdr2).length = 8 + hdr2len.toNat := by
  simp only [oftHeader, List.length_append, aimutilPut16_length, hmagic, hhdr2]
  omega

theorem sendframeOftHbs_eq (hmagic : magic.length = 4) (hhdr2 : hdr2.length = hdr2len.toNat)
    (hlen : 8 + hdr2len.toNat < 65536) :
    sendframeOftHbs type magic hdr2len hdr2 = ⟨oftHeader type magic hdr2len hdr2, 0⟩ := by
  have hall : Writes (do
      let _ ← aimbsPutraw magic 4
      let _ ← aimbsPut16 (hdr2len + 8)
      let _ ← aimbsPut16 type
      aimbsPutraw hdr2 hdr2len.toNat) (oftHeader type magic hdr2len hdr2) hdr2len.toNat :=
    (writes_aimbsPutraw hmagic).bind <| (writes_aimbsPut16 _).bind <|
      (writes_aimbsPut16 _).bind (writes_aimbsPutraw hhdr2)
  have hhdrlen := @oftHeader_length type hdr2len magic hdr2 hmagic hhdr2
  have hfull := hall.init_full (by omega)
  rw [hhdrlen] at hfull
  unfold sendframeOftHbs
  dsimp only
  rw [hfull, aimBstreamRewind_snd]

/-- The header and what has been put into the stream go over the wire. -/
theorem aimTxSendframe_oft_wire {fr : AimFrame} (hhdr : fr.hdr = .oft type magic hdr2len hdr2)
    (hmagic : magic.length = 4) (hhdr2 : hdr2.length = hdr2len.toNat)
    (hlen : 8 + hdr2len.toNat < 65536) (hdata : fr.data.offset ≤ fr.data.len) (tx : AimSession) :
    (aimTxSendframe fr tx).2.wire fr.conn =
      tx.wire fr.conn ++ (oftHeader type magic hdr2len hdr2 ++ fr.data.written) := by
  have hhbs := @sendframeOftHbs_eq type hdr2len magic hdr2 hmagic hhdr2 hlen
  have hhdrlen := @oftHeader_length type hdr2len magic hdr2 hmagic hhdr2
  unfold aimTxSendframe
  rw [hhdr]
  dsimp only
  rw [hhbs, ← hhdrlen, aimBstreamSend_all]
  by_cases hpos : aimBstreamCurpos fr.data ≠ 0
  · rw [if_pos hpos, aimBstreamRewind_snd]
    have hempty : ¬ aimBstreamCurpos fr.data > aimBstreamEmpty { fr.data with offset := 0 } :=
      Nat.not_lt.mpr hdata
    unfold aimBstreamSend
    rw [if_neg hempty]
    simp only [Function.update_self, List.append_assoc]
    rfl
  · rw [if_neg hpos]
    have hzero : fr.data.offset = 0 := not_not.mp hpos
    rw [AimBstream.written, hzero, List.take_zero, List.append_nil]
    simp only [Function.update_self]

/-- Sixteen bits of the type of the header, and `hdr2`, are what the handler of the type is given. -/
theorem aimGetCommandRendezvous_oftHeader {userfunc : DirectimReport → AimSession → Int × AimSession}
    {rx : AimSession} {d : ConnPtr} {sock : Socket} {r : List UInt8} (hd : d ≠ 0)
    (hsubtype : (rx.conn d).subtype = aimConnSubtypeOftDirectim) (hmagic : magic.length = 4)
    (hhdr2 : hdr2.length = hdr2len.toNat) (hlen : 8 + hdr2len.toNat < 65536)
    (h : Carries sock (oftHeader 0x0001 magic hdr2len hdr2 ++ r)) :
    ∃ sock', Carries sock' r ∧ aimGetCommandRendezvous userfunc rx d sock =
      (handlehdrDirectim userfunc (aimutilPut16 0x0001 ++ hdr2) rx sock').map fun
        (ret, report, sess, sock) =>
          (ret, report, if ret = -1 then aimConnClose sess d else sess, sock) := by
  have hsplit : oftHeader 0x0001 magic hdr2len hdr2 ++ r =
      (magic ++ aimutilPut16 (hdr2len + 8)) ++ ((aimutilPut16 0x0001 ++ hdr2) ++ r) := by
    simp only [oftHeader, List.append_assoc]
  have hlen1 : (magic ++ aimutilPut16 (hdr2len + 8)).length = 6 := by
    rw [List.length_append, hmagic, aimutilPut16_length]
  have hlen2 : (aimutilPut16 0x0001 ++ hdr2).length = hdr2len.toNat + 2 := by
    rw [List.length_append, hhdr2, aimutilPut16_length]
    omega
  rw [hsplit] at h
  obtain ⟨sock₁, hrecv1, hcarries1⟩ := aimRecv_of_append h
  obtain ⟨sock₂, hrecv2, hcarries2⟩ := aimRecv_of_append hcarries1
  rw [hlen1] at hrecv1
  rw [hlen2] at hrecv2
  have hget : aimutilGet16 ((magic ++ aimutilPut16 (hdr2len + 8)).drop 4) = hdr2len + 8 := by
    rw [List.drop_left' hmagic]
    exact (congrArg aimutilGet16 (List.append_nil _).symm).trans (aimutilGet16_put16 _ [])
  have hsum : (hdr2len + 8).toNat = hdr2len.toNat + 8 := by
    have h8 : (8 : UInt16).toNat = 8 := rfl
    rw [UInt16.toNat_add, h8]
    exact Nat.mod_eq_of_lt (by omega)
  have hne : (rx.conn d).subtype ≠ aimConnSubtypeOftGetfile := by
    rw [hsubtype]
    decide
  have hrest : hdr2len.toNat + 8 - 6 = hdr2len.toNat + 2 := by omega
  refine ⟨sock₂, hcarries2, ?_⟩
  unfold aimGetCommandRendezvous
  rw [if_neg hd, if_neg hne, hrecv1]
  dsimp only
  rw [hget, hsum, if_neg (by omega), hrest, hrecv2]
  dsimp only
  rw [if_neg (by omega), aimutilGet16_put16, if_pos rfl]
  cases handlehdrDirectim userfunc (aimutilPut16 0x0001 ++ hdr2) rx sock₂ with
  | none => rfl
  | some res => rfl

end Oft

/-! ## The handler -/

/-- `hdr` in `handlehdr_directim`. -/
def directimHdr (cookie sn : List UInt8) (msglen : Nat) (flags : UInt16) : List UInt8 :=
  aimutilPut16 0x0001 ++ directimHdr2 cookie sn msglen flags

section Hdr

variable {cookie sn : List UInt8} {msglen : Nat} {flags : UInt16}

theorem directimHdr2_length (hcookie : cookie.length = 8) (hsn : strlen sn ≤ maxsnlen) :
    (directimHdr2 cookie sn msglen flags).length = 68 := by
  rw [directimHdr2_eq hcookie hsn]
  simp only [List.length_append, List.length_replicate, directimHead_length hcookie,
    directimName_length hsn, directimLast_length hsn, aimutilPut16_length, aimutilPut32_length]

theorem directimHdr_drop_22 (hcookie : cookie.length = 8) (hsn : strlen sn ≤ maxsnlen) :
    ∃ r, (directimHdr cookie sn msglen flags).drop 22 =
      aimutilPut32 (UInt32.ofNat msglen) ++ r := by
  have hlen : (aimutilPut16 0x0001 ++ directimHead cookie).length = 22 := by
    rw [List.length_append, directimHead_length hcookie, aimutilPut16_length]
  rw [directimHdr, directimHdr2_eq hcookie hsn, ← List.append_assoc, List.drop_left' hlen]
  exact ⟨_, rfl⟩

theorem directimHdr_drop_32 (hcookie : cookie.length = 8) (hsn : strlen sn ≤ maxsnlen) :
    ∃ r, (directimHdr cookie sn msglen flags).drop 32 = aimutilPut16 flags ++ r := by
  have hlen : (aimutilPut16 0x0001 ++ (directimHead cookie ++ (aimutilPut32 (UInt32.ofNat msglen) ++
      List.replicate 6 0))).length = 32 := by
    simp only [List.length_append, directimHead_length hcookie, aimutilPut16_length,
      aimutilPut32_length, List.length_replicate]
  have hsplit : directimHdr cookie sn msglen flags = (aimutilPut16 0x0001 ++ (directimHead cookie ++
      (aimutilPut32 (UInt32.ofNat msglen) ++ List.replicate 6 0))) ++ (aimutilPut16 flags ++
        (List.replicate 4 0 ++ (directimName sn ++ (List.replicate 15 0 ++ directimLast sn)))) := by
    rw [directimHdr, directimHdr2_eq hcookie hsn]
    simp only [List.append_assoc]
  rw [hsplit, List.drop_left' hlen]
  exact ⟨_, rfl⟩

theorem directimHdr_drop_38 (hcookie : cookie.length = 8) (hsn : strlen sn ≤ maxsnlen) :
    (directimHdr cookie sn msglen flags).drop 38 =
      directimName sn ++ (List.replicate 15 0 ++ directimLast sn) := by
  have hlen : (aimutilPut16 0x0001 ++ (directimHead cookie ++ (aimutilPut32 (UInt32.ofNat msglen) ++
      (List.replicate 6 0 ++ (aimutilPut16 flags ++ List.replicate 4 0))))).length = 38 := by
    simp only [List.length_append, directimHead_length hcookie, aimutilPut16_length,
      aimutilPut32_length, List.length_replicate]
  have hsplit : directimHdr cookie sn msglen flags = (aimutilPut16 0x0001 ++ (directimHead cookie ++
      (aimutilPut32 (UInt32.ofNat msglen) ++ (List.replicate 6 0 ++ (aimutilPut16 flags ++
        List.replicate 4 0))))) ++
          (directimName sn ++ (List.replicate 15 0 ++ directimLast sn)) := by
    rw [directimHdr, directimHdr2_eq hcookie hsn]
    simp only [List.append_assoc]
  rw [hsplit, List.drop_left' hlen]

/-- Sixteen bytes of the name arrive. -/
theorem cstr_directimHdr (hcookie : cookie.length = 8) (hsn : strlen sn ≤ maxsnlen) :
    cstr ((directimHdr cookie sn msglen flags).drop 38) = (cstr sn).take 16 := by
  have hzero : List.replicate 15 (0 : UInt8) = 0 :: List.replicate 14 0 := rfl
  calc cstr ((directimHdr cookie sn msglen flags).drop 38)
      = cstr (directimName sn) := by
        rw [directimHdr_drop_38 hcookie hsn, hzero, List.cons_append, cstr_append_zero]
    _ = (cstr sn).take 16 := by rw [directimName, cstr_take, cstr_append_zeros]

theorem zero_mem_directimHdr (hcookie : cookie.length = 8) (hsn : strlen sn ≤ maxsnlen) :
    0 ∈ (directimHdr cookie sn msglen flags).drop 38 := by
  rw [directimHdr_drop_38 hcookie hsn]
  exact List.mem_append_right _ (List.mem_append_left _ (List.mem_cons_self))

end Hdr

/-- No more is stored than the socket holds. -/
theorem aimRecvBuf_length_le (n : Nat) (sock : Socket) :
    (aimRecvBuf n sock).length ≤ sock.flatten.length := by
  induction sock generalizing n with
  | nil =>
    cases n with
    | zero => exact Nat.le_refl _
    | succ n => exact Nat.le_refl _
  | cons piece sock ih =>
    cases n with
    | zero => exact Nat.zero_le _
    | succ n =>
      rw [aimRecvBuf, List.flatten_cons, List.length_append]
      by_cases hlt : n + 1 < piece.length
      · rw [if_pos hlt, List.length_take]
        omega
      · rw [if_neg hlt]
        by_cases hnil : piece = []
        · rw [if_pos hnil]
          exact Nat.zero_le _
        · rw [if_neg hnil, List.length_append]
          exact Nat.add_le_add_left (ih _) _

/-- Where `aim_recv` succeeds the buffer holds what it has read. -/
theorem aimRecvBuf_of_some {n : Nat} {sock sock' : Socket} {red : List UInt8}
    (h : aimRecv n sock = (some red, sock')) : aimRecvBuf n sock = red := by
  induction sock generalizing n red sock' with
  | nil =>
    cases n with
    | zero => exact Option.some.inj (congrArg Prod.fst h)
    | succ n => cases h
  | cons piece sock ih =>
    cases n with
    | zero => exact Option.some.inj (congrArg Prod.fst h)
    | succ n =>
      rw [aimRecv] at h
      rw [aimRecvBuf]
      by_cases hnil : piece = []
      · rw [if_pos hnil] at h
        cases h
      · rw [if_neg hnil] at h
        rw [if_neg hnil]
        by_cases hlt : n + 1 < piece.length
        · rw [if_pos hlt] at h
          rw [if_pos hlt]
          exact Option.some.inj (congrArg Prod.fst h)
        · rw [if_neg hlt] at h
          rw [if_neg hlt]
          cases hrest : aimRecv (n + 1 - piece.length) sock with
          | mk rest sock₁ =>
            rw [hrest] at h
            cases rest with
            | none => cases h
            | some rest =>
              rw [ih hrest]
              exact Option.some.inj (congrArg Prod.fst h)

/-- The message as the client reads it is no longer than what was stored. -/
theorem cstr_padded (buf : List UInt8) (k : Nat) :
    cstr (buf ++ List.replicate k 0 ++ [0]) = cstr buf := by
  cases k with
  | zero => rw [List.replicate_zero, List.append_nil, cstr_append_zero]
  | succ k => rw [List.append_assoc, List.replicate_succ, List.cons_append, cstr_append_zero]

section Handler

variable {userfunc : DirectimReport → AimSession → Int × AimSession} {hdr : List UInt8}
  {sess : AimSession} {sock : Socket}

/-- What the client is given: the name in the header, and no more than the socket holds. -/
theorem handlehdrDirectim_report {ret : Int} {report : DirectimReport} {sess' : AimSession}
    {sock' : Socket}
    (h : handlehdrDirectim userfunc hdr sess sock = some (ret, some report, sess', sock')) :
    report.sn = cstr (hdr.drop 38) ∧
      ∀ msg, report.msg = some msg → msg.length ≤ sock.flatten.length := by
  unfold handlehdrDirectim at h
  by_cases hname : 0 ∉ hdr.drop 38
  · rw [if_pos hname] at h
    cases h
  rw [if_neg hname] at h
  dsimp only at h
  by_cases htyping : aimutilGet16 (hdr.drop 32) = 0x000e
  · rw [if_pos htyping] at h
    cases h
    exact ⟨rfl, fun msg hmsg => nomatch hmsg⟩
  rw [if_neg htyping] at h
  by_cases hmsg : aimutilGet16 (hdr.drop 32) = 0x0000 ∧ aimutilGet32 (hdr.drop 22) ≠ 0
  · rw [if_pos hmsg] at h
    by_cases hhuge : aimutilGet32 (hdr.drop 22) ≥ 0x80000000
    · rw [if_pos hhuge] at h
      cases h
    rw [if_neg hhuge] at h
    by_cases hred : redUnsigned (aimRecv (aimutilGet32 (hdr.drop 22)).toNat sock).1 <
        aimutilGet32 (hdr.drop 22)
    · rw [if_pos hred] at h
      cases h
    rw [if_neg hred, cstr_padded] at h
    cases h
    refine ⟨rfl, fun msg hmsg => ?_⟩
    cases hmsg
    exact (strlen_le _).trans (aimRecvBuf_length_le _ _)
  · rw [if_neg hmsg] at h
    cases h

/-- A message of the announced length is given to the client, and nothing more is read. -/
theorem handlehdrDirectim_incoming {msg r : List UInt8} (hname : 0 ∈ hdr.drop 38)
    (hflags : aimutilGet16 (hdr.drop 32) = 0x0000)
    (hlen : (aimutilGet32 (hdr.drop 22)).toNat = msg.length) (hpos : msg ≠ [])
    (hmsg : msg.length ≤ 65535) (h : Carries sock (msg ++ r)) :
    ∃ ret sess' sock', handlehdrDirectim userfunc hdr sess sock =
      some (ret, some ⟨cstr (hdr.drop 38), some (cstr msg)⟩, sess', sock') ∧ Carries sock' r := by
  obtain ⟨sock', hrecv, hcarries⟩ := aimRecv_of_append h
  have hbuf := aimRecvBuf_of_some hrecv
  have hne : aimutilGet32 (hdr.drop 22) ≠ 0 := by
    intro hzero
    rw [hzero] at hlen
    exact hpos (List.length_eq_zero_iff.mp hlen.symm)
  have hsmall : ¬ aimutilGet32 (hdr.drop 22) ≥ 0x80000000 := by
    intro hge
    have hle := UInt32.le_iff_toNat_le.mp hge
    have hbound : (0x80000000 : UInt32).toNat = 2147483648 := rfl
    omega
  have hred : ¬ redUnsigned (some msg) < aimutilGet32 (hdr.drop 22) := by
    intro hlt
    have hlt' := UInt32.lt_iff_toNat_lt.mp hlt
    rw [redUnsigned, UInt32.toNat_ofNat', Nat.mod_eq_of_lt (by omega)] at hlt'
    omega
  let report : DirectimReport := ⟨cstr (hdr.drop 38), some (cstr msg)⟩
  refine ⟨(userfunc report sess).1, (userfunc report sess).2, sock', ?_, hcarries⟩
  unfold handlehdrDirectim
  rw [if_neg (not_not.mpr hname)]
  dsimp only
  rw [if_neg (by rw [hflags]; decide), if_pos ⟨hflags, hne⟩, if_neg hsmall, hlen, hrecv, hbuf]
  dsimp only
  rw [if_neg hred, cstr_padded]

end Handler

/-! ## The frame -/

section Frame

variable {sess : AimSession} {c : ConnPtr} {intdata : AimDirectimIntdata} {sn m : List UInt8}

theorem intOfSize_of_le {n : Nat} (h : n ≤ 65535) : intOfSize n = n := by
  unfold intOfSize
  rw [Int.bmod_def, if_pos (by omega)]
  omega

/-- A stream never gets longer than its length, which has sixteen bits. -/
theorem aimbsPutstr_offset {mem : List UInt8} {len : Int} {data : AimBstream}
    (h : aimbsPutstr (aimBstreamInit mem len) m = some data) :
    data.offset ≤ data.len ∧ data.len ≤ 65535 := by
  have hlen : (aimBstreamInit mem len).len ≤ 65535 := by
    have hmod : (len % 65536).toNat ≤ 65535 := by omega
    simp only [aimBstreamInit, AimBstream.len, List.length_append, List.length_take,
      List.length_replicate]
    generalize (len % 65536).toNat = k at hmod ⊢
    omega
  have hzero : (aimBstreamInit mem len).offset ≤ (aimBstreamInit mem len).len := Nat.zero_le _
  unfold aimbsPutstr at h
  dsimp only at h
  by_cases hneg : intOfSize (strlen m) < 0
  · rw [if_pos hneg] at h
    cases h
  · rw [if_neg hneg] at h
    have hdata := Option.some.inj h
    unfold aimbsPutraw aimbsPut at hdata
    by_cases hroom : aimBstreamEmpty (aimBstreamInit mem len) <
        (m.take (intOfSize (strlen m)).toNat).length
    · rw [if_pos hroom] at hdata
      rw [← hdata]
      exact ⟨hzero, hlen⟩
    · rw [if_neg hroom] at hdata
      have hfits := Nat.not_lt.mp hroom
      have hstore := AimBstream.store_len hzero hfits
      rw [← hdata]
      exact ⟨AimBstream.store_offset_le hzero hfits, hstore.trans_le hlen⟩

theorem aimbsPutstr_of_le (h : strlen m ≤ 65535) :
    aimbsPutstr (aimBstreamInit (List.replicate (strlen m) 0) (strlen m)) m =
      some ⟨cstr m, strlen m⟩ := by
  have hlen : (cstr m).length = strlen m := rfl
  have hfull := (writes_aimbsPutrawCstr m).init_full (by omega)
  rw [hlen] at hfull
  have hsize := intOfSize_of_le h
  unfold aimbsPutstr
  dsimp only
  rw [hsize, if_neg (by omega), Int.toNat_natCast, hfull]

theorem aimTxNew_oft (hc : c ≠ 0) (htype : (sess.conn c).type = aimConnTypeRendezvous) (n : Nat) :
    aimTxNew sess c aimFrametypeOft 0x01 n =
      some (⟨sess.heap, .oft 0x0001 [0, 0, 0, 0] 0 [], aimBstreamInit (List.replicate n 0) n, 0, c⟩,
        { sess with heap := sess.heap + 1 }) := by
  have hrend : (sess.conn c).Rendezvous := Or.inl htype
  unfold aimTxNew
  rw [if_neg hc, if_neg (fun h => h.2 rfl), if_neg (fun h => h.1 hrend)]
  rfl

/-- The frame of a message. -/
theorem sendImDirectFrame_msg (hc : c ≠ 0) (htype : (sess.conn c).type = aimConnTypeRendezvous) :
    sendImDirectFrame sess c intdata sn (some m) =
      (aimbsPutstr (aimBstreamInit (List.replicate (intOfSize (strlen m)).toNat 0)
        ((intOfSize (strlen m)).toNat : Nat)) m).map fun data =>
          .ok (⟨sess.heap, .oft 0x0001 [0x4f, 0x44, 0x43, 0x32] 0x44
            (directimHdr2 intdata.cookie sn (strlen m) 0x0000), data, 0, c⟩,
              { sess with heap := sess.heap + 1 }) := by
  unfold sendImDirectFrame
  rw [if_neg hc, if_neg (not_not.mpr htype), Option.map_some, Option.bind_eq_bind,
    Option.bind_some, aimTxNew_oft hc htype]
  dsimp only
  cases aimbsPutstr (aimBstreamInit (List.replicate (intOfSize (strlen m)).toNat 0)
    ((intOfSize (strlen m)).toNat : Nat)) m with
  | none => rfl
  | some data => rfl

theorem sendImDirectFrame_null (hc : c ≠ 0) (htype : (sess.conn c).type = aimConnTypeRendezvous) :
    sendImDirectFrame sess c intdata sn none = none := by
  unfold sendImDirectFrame
  rw [if_neg hc, if_neg (not_not.mpr htype)]
  rfl

/-- The frame of a message that fits the stream. -/
theorem sendImDirectFrame_of_le (hc : c ≠ 0) (htype : (sess.conn c).type = aimConnTypeRendezvous)
    (h : strlen m ≤ 65535) :
    sendImDirectFrame sess c intdata sn (some m) =
      some (.ok (⟨sess.heap, .oft 0x0001 [0x4f, 0x44, 0x43, 0x32] 0x44
        (directimHdr2 intdata.cookie sn (strlen m) 0x0000), ⟨cstr m, strlen m⟩, 0, c⟩,
          { sess with heap := sess.heap + 1 })) := by
  have hsize : (intOfSize (strlen m)).toNat = strlen m := by
    rw [intOfSize_of_le h, Int.toNat_natCast]
  rw [sendImDirectFrame_msg hc htype, hsize, aimbsPutstr_of_le h, Option.map_some]

/-- The bytes of such a frame. -/
theorem directimFrame_wire {data : AimBstream} (hsn : strlen sn ≤ maxsnlen)
    (hdata : data.offset ≤ data.len) (tx : AimSession) :
    (aimTxSendframe ⟨sess.heap, .oft 0x0001 [0x4f, 0x44, 0x43, 0x32] 0x44
      (directimHdr2 intdata.cookie sn (strlen m) 0x0000), data, 0, c⟩ tx).2.wire c =
        tx.wire c ++ (oftHeader 0x0001 [0x4f, 0x44, 0x43, 0x32] 0x44
          (directimHdr2 intdata.cookie sn (strlen m) 0x0000) ++ data.written) := by
  have hhdr2 : (directimHdr2 intdata.cookie sn (strlen m) 0x0000).length = (0x44 : UInt16).toNat :=
    directimHdr2_length intdata.cookie_length hsn
  exact @aimTxSendframe_oft_wire 0x0001 0x44 _ _ ⟨sess.heap, _, data, 0, c⟩ rfl rfl hhdr2
    (by decide) hdata tx

end Frame

/-! ## The round trip -/

/-- A connection for direct messages. -/
structure DirectimConn (rx : AimSession) (d : ConnPtr) : Prop where
  ne_null : d ≠ 0
  subtype_eq : (rx.conn d).subtype = aimConnSubtypeOftDirectim

/-- The bytes that are sent for `msg` are taken in as the message or the typing notice, with the
name of the sender. What is behind them is left. -/
def DirectimDelivered (sess : AimSession) (c : ConnPtr) (intdata : AimDirectimIntdata)
    (sn : List UInt8) (msg : Option (List UInt8)) : Prop :=
  ∃ fr sess', sendImDirectFrame sess c intdata sn msg = some (.ok (fr, sess')) ∧
    ∃ bytes, (∀ tx : AimSession, (aimTxSendframe fr tx).2.wire c = tx.wire c ++ bytes) ∧
      ∀ (userfunc : DirectimReport → AimSession → Int × AimSession) (rx : AimSession) (d : ConnPtr)
        (sock : Socket) (r : List UInt8), DirectimConn rx d → Carries sock (bytes ++ r) →
          ∃ ret rx' sock', aimGetCommandRendezvous userfunc rx d sock =
            some (ret, some ⟨cstr sn, msg.map cstr⟩, rx', sock') ∧ Carries sock' r

section RoundTrip

variable {sess : AimSession} {c : ConnPtr} {intdata : AimDirectimIntdata} {sn m : List UInt8}

theorem directimDelivered_of_le (hc : c ≠ 0) (htype : (sess.conn c).type = aimConnTypeRendezvous)
    (hsn : strlen sn ≤ 16) (hm : cstr m ≠ []) (hlen : strlen m ≤ 65535) :
    DirectimDelivered sess c intdata sn (some m) := by
  have hmax : strlen sn ≤ maxsnlen := by
    simp only [maxsnlen]
    omega
  have hcookie := intdata.cookie_length
  have hmlen : (cstr m).length = strlen m := rfl
  have hhdr2 : (directimHdr2 intdata.cookie sn (strlen m) 0x0000).length = (0x44 : UInt16).toNat :=
    directimHdr2_length hcookie hmax
  refine ⟨_, _, sendImDirectFrame_of_le hc htype hlen, _,
    fun tx => directimFrame_wire hmax (Nat.le_of_eq hmlen.symm) tx, ?_⟩
  intro userfunc rx d sock r hconn hsock
  have hwritten : AimBstream.written ⟨cstr m, strlen m⟩ = cstr m := List.take_length
  rw [hwritten, List.append_assoc] at hsock
  obtain ⟨sock₁, hcarries, hcommand⟩ := @aimGetCommandRendezvous_oftHeader 0x44
    [0x4f, 0x44, 0x43, 0x32] _ userfunc rx d sock _ hconn.ne_null hconn.subtype_eq rfl hhdr2
    (by decide) hsock
  obtain ⟨r22, h22⟩ := @directimHdr_drop_22 intdata.cookie sn (strlen m) 0x0000 hcookie hmax
  obtain ⟨r32, h32⟩ := @directimHdr_drop_32 intdata.cookie sn (strlen m) 0x0000 hcookie hmax
  have hflags : aimutilGet16 ((directimHdr intdata.cookie sn (strlen m) 0x0000).drop 32) = 0 := by
    rw [h32, aimutilGet16_put16]
  have hpayload : (aimutilGet32 ((directimHdr intdata.cookie sn (strlen m) 0x0000).drop 22)).toNat =
      (cstr m).length := by
    rw [h22, aimutilGet32_put32, UInt32.toNat_ofNat', Nat.mod_eq_of_lt (by omega), hmlen]
  obtain ⟨ret, rx', sock₂, hhandle, hrest⟩ := @handlehdrDirectim_incoming userfunc
    (directimHdr intdata.cookie sn (strlen m) 0x0000) rx sock₁ (cstr m) r
    (zero_mem_directimHdr hcookie hmax) hflags hpayload hm (by omega) hcarries
  have hname : (cstr sn).take 16 = cstr sn := List.take_of_length_le hsn
  rw [cstr_directimHdr hcookie hmax, hname, cstr_cstr] at hhandle
  rw [directimHdr] at hhandle
  rw [hhandle] at hcommand
  exact ⟨_, _, _, hcommand, hrest⟩

/-- Whatever was sent, sixteen bytes of the name and a message that fits the stream arrive. -/
theorem le_of_directimDelivered (hc : c ≠ 0)
    (htype : (sess.conn c).type = aimConnTypeRendezvous) (hsn : strlen sn ≤ maxsnlen)
    (h : DirectimDelivered sess c intdata sn (some m)) : strlen m ≤ 65535 ∧ strlen sn ≤ 16 := by
  obtain ⟨fr, sess', hframe, bytes, hwire, hread⟩ := h
  have hcookie := intdata.cookie_length
  have hhdr2 : (directimHdr2 intdata.cookie sn (strlen m) 0x0000).length = (0x44 : UInt16).toNat :=
    directimHdr2_length hcookie hsn
  rw [sendImDirectFrame_msg hc htype, Option.map_eq_some_iff] at hframe
  obtain ⟨data, hdata, hfr⟩ := hframe
  obtain ⟨hoffset, hdatalen⟩ := aimbsPutstr_offset hdata
  obtain ⟨rfl, -⟩ := Prod.mk.inj (Except.ok.inj hfr)
  have hbytes := List.append_cancel_left
    ((hwire sess).symm.trans (directimFrame_wire hsn hoffset sess))
  -- a receiver that has nothing but these bytes
  have hconn : DirectimConn (sess.setConn 1 { aimConnInit with
      subtype := aimConnSubtypeOftDirectim }) 1 :=
    ⟨by decide, by rw [AimSession.setConn_conn, if_pos rfl]⟩
  have hne : bytes ≠ [] := by
    rw [hbytes]
    exact List.append_ne_nil_of_left_ne_nil (List.cons_ne_nil _ _) _
  have hsock : Carries [bytes] (bytes ++ []) := Carries.cons hne ⟨rfl, fun _ hp => nomatch hp⟩
  obtain ⟨ret, rx', sock', hcommand, -⟩ := hread (fun _ sess => (0, sess)) _ _ _ _ hconn hsock
  rw [hbytes, List.append_nil] at hsock
  obtain ⟨sock₁, hcarries, heq⟩ := @aimGetCommandRendezvous_oftHeader 0x44
    [0x4f, 0x44, 0x43, 0x32] _ (fun _ sess => (0, sess)) _ _ _ _ hconn.ne_null hconn.subtype_eq rfl
    hhdr2 (by decide) hsock
  rw [hbytes, heq, Option.map_eq_some_iff] at hcommand
  obtain ⟨⟨ret₁, report, sess₁, sock₂⟩, hhandle, hres⟩ := hcommand
  obtain rfl : report = some ⟨cstr sn, some (cstr m)⟩ := congrArg (fun res => res.2.1) hres
  obtain ⟨hname, hmsg⟩ := handlehdrDirectim_report hhandle
  have hmlen := hmsg (cstr m) rfl
  have hwritten := AimBstream.length_written hoffset
  rw [hcarries.flatten_eq, hwritten] at hmlen
  have hcut : cstr sn = (cstr sn).take 16 := hname.trans (cstr_directimHdr hcookie hsn)
  have hsnlen := congrArg List.length hcut
  rw [List.length_take] at hsnlen
  have hlen : (cstr sn).length = strlen sn := rfl
  have hlen' : (cstr m).length = strlen m := rfl
  omega

/-- A direct message is taken in as it was sent if and only if there is a message, it has no more
than 65535 bytes and the name of the sender no more than sixteen. -/
theorem directimDelivered_iff (hc : c ≠ 0) (htype : (sess.conn c).type = aimConnTypeRendezvous)
    (hsn : strlen sn ≤ maxsnlen) {msg : Option (List UInt8)}
    (hmsg : ∀ m, msg = some m → cstr m ≠ []) :
    DirectimDelivered sess c intdata sn msg ↔
      (∃ m, msg = some m ∧ strlen m ≤ 65535) ∧ strlen sn ≤ 16 := by
  cases msg with
  | none =>
    constructor
    · rintro ⟨fr, sess', hframe, -⟩
      rw [sendImDirectFrame_null hc htype] at hframe
      cases hframe
    · rintro ⟨⟨m, hm, -⟩, -⟩
      cases hm
  | some m =>
    constructor
    · intro h
      obtain ⟨hlen, hname⟩ := le_of_directimDelivered hc htype hsn h
      exact ⟨⟨m, rfl, hlen⟩, hname⟩
    · rintro ⟨⟨m', hm, hlen⟩, hname⟩
      obtain rfl := Option.some.inj hm
      exact directimDelivered_of_le hc htype hname (hmsg m rfl) hlen

end RoundTrip

section Example

/-- A session with a connection for direct messages. -/
def directimSession : AimSession :=
  (aimNewconn (aimSessionInit []) aimConnTypeRendezvous (.connected 3 0)).2

def directimIntdata : AimDirectimIntdata := ⟨[0x30, 0x31, 0x32, 0x33, 0x34, 0x35, 0x36, 0x37], rfl⟩

/-- "hi" from "ab". -/
theorem directimDelivered_short :
    DirectimDelivered directimSession 1 directimIntdata [0x61, 0x62] (some [0x68, 0x69]) :=
  (directimDelivered_iff (by decide) (by decide) (by decide) (fun m hm => by cases hm; decide)).mpr
    ⟨⟨_, rfl, by decide⟩, by decide⟩

/-- "hi" from a name of seventeen bytes. -/
theorem not_directimDelivered_long :
    ¬ ∀ (sess : AimSession) (c : ConnPtr) (intdata : AimDirectimIntdata) (sn : List UInt8)
      (msg : Option (List UInt8)), c ≠ 0 → (sess.conn c).type = aimConnTypeRendezvous →
      strlen sn ≤ maxsnlen → (∀ m, msg = some m → cstr m ≠ []) →
        DirectimDelivered sess c intdata sn msg := by
  intro h
  have hdelivered := h directimSession 1 directimIntdata (List.replicate 17 0x61)
    (some [0x68, 0x69]) (by decide) (by decide) (by decide) (fun m hm => by cases hm; decide)
  obtain ⟨-, hlong⟩ := le_of_directimDelivered (by decide) (by decide) (by decide) hdelivered
  exact absurd hlong (by decide)

end Example

end Libfaim
