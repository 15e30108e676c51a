import Libfaim.RxQueue

/-!
# Frames on the wire

`sendframe_flap` writes a header of six bytes and the payload (`Flap.encode`); `aim_get_command`
reads one such frame, however `recv` cuts the bytes into pieces. Every byte string is a number of
whole frames followed by bytes that do not begin with one (`exists_flapFraming`).
-/

namespace Libfaim

/-- A frame as it goes over the wire. -/
structure Flap where
  type : UInt8
  seqnum : UInt16
  payload : List UInt8
  length_lt : payload.length < 65536

def flapHeader (type : UInt8) (seqnum payloadlen : UInt16) : List UInt8 :=
  aimutilPut8 0x2a ++ (aimutilPut8 type ++ (aimutilPut16 seqnum ++ aimutilPut16 payloadlen))

def Flap.payloadlen (f : Flap) : UInt16 := UInt16.ofNat f.payload.length

def Flap.encode (f : Flap) : List UInt8 := flapHeader f.type f.seqnum f.payloadlen ++ f.payload

@[simp] theorem flapHeader_length (type : UInt8) (seqnum payloadlen : UInt16) :
    (flapHeader type seqnum payloadlen).length = 6 := by
  simp [flapHeader]

@[simp] theorem Flap.payloadlen_toNat (f : Flap) : f.payloadlen.toNat = f.payload.length := by
  rw [Flap.payloadlen, UInt16.toNat_ofNat', Nat.mod_eq_of_lt f.length_lt]

/-! ## Sending -/

/-- A buffer that has been filled, from its start. -/
theorem rewind_store_replicate {n : Nat} {v : List UInt8} (h : v.length = n) :
    (aimBstreamRewind (AimBstream.store ⟨List.replicate n 0, 0⟩ v)).2 = ⟨v, 0⟩ := by
  have hdata : (AimBstream.store ⟨List.replicate n 0, 0⟩ v).data = v := by
    simp [AimBstream.store, h]
  unfold aimBstreamRewind
  rw [aimBstreamSetpos_of_le (Nat.zero_le _)]
  simp only [hdata]

/-- A frame the library can send: the payload and the header together fit a stream. -/
structure Sendable (fr : AimFrame) : Prop where
  isFlap : fr.hdr.isFlap
  offset_le : fr.data.offset ≤ fr.data.len
  payload_le : fr.data.offset ≤ 65529

/-- The frame as it goes over the wire: the payload is what has been put into the stream. -/
def AimFrame.toFlap (fr : AimFrame) (h : Sendable fr) : Flap where
  type := fr.hdr.flapType
  seqnum := fr.hdr.flapSeqnum
  payload := fr.data.written
  length_lt := by
    rw [AimBstream.length_written h.offset_le]
    exact Nat.lt_of_le_of_lt h.payload_le (by decide)

theorem aimBstreamRewind_snd (bs : AimBstream) :
    (aimBstreamRewind bs).2 = { bs with offset := 0 } := by
  unfold aimBstreamRewind
  rw [aimBstreamSetpos_of_le (Nat.zero_le _)]

theorem writes_putFlapHeader (type : UInt8) (seqnum : UInt16) (payloadlen : Nat) :
    Writes (putFlapHeader type seqnum payloadlen)
      (flapHeader type seqnum (UInt16.ofNat payloadlen)) 2 :=
  (writes_aimbsPut8 _).bind <| (writes_aimbsPut8 _).bind <|
    (writes_aimbsPut16 _).bind (writes_aimbsPut16 _)

theorem sendframeFlapObs_fst {fr : AimFrame} (h : Sendable fr) :
    (sendframeFlapObs fr.hdr.flapType fr.hdr.flapSeqnum fr.data).1 =
      AimBstream.store ⟨List.replicate (6 + fr.data.offset) 0, 0⟩ (fr.toFlap h).encode := by
  have hlen := AimBstream.length_written h.offset_le
  have hle := h.payload_le
  have hdata := h.offset_le
  have hinit := aimBstreamInit_replicate (n := 6 + fr.data.offset) (by omega)
  have hpayload : (fr.toFlap h).payloadlen = UInt16.ofNat fr.data.offset := by
    rw [Flap.payloadlen, AimFrame.toFlap, hlen]
  unfold sendframeFlapObs
  simp only [aimBstreamCurpos, hinit, aimBstreamRewind_snd]
  generalize hbuf : (⟨List.replicate (6 + fr.data.offset) 0, 0⟩ : AimBstream) = buf
  have hoff : buf.offset ≤ buf.len := by
    rw [← hbuf]
    exact Nat.zero_le _
  have hroom : aimBstreamEmpty buf = 6 + fr.data.offset := by
    rw [← hbuf, aimBstreamEmpty, AimBstream.len, List.length_replicate, Nat.sub_zero]
  have hfit : (flapHeader fr.hdr.flapType fr.hdr.flapSeqnum
      (UInt16.ofNat fr.data.offset)).length ≤ aimBstreamEmpty buf := by
    rw [flapHeader_length]
    omega
  rw [writes_putFlapHeader _ _ _ buf hoff hfit]
  have hsrc : ¬ aimBstreamEmpty { fr.data with offset := 0 } < fr.data.offset := by
    rw [aimBstreamEmpty]
    exact Nat.not_lt.mpr hdata
  have hdst : ¬ aimBstreamEmpty (buf.store (flapHeader fr.hdr.flapType fr.hdr.flapSeqnum
      (UInt16.ofNat fr.data.offset))) < fr.data.offset := by
    rw [AimBstream.store_empty hoff hfit, flapHeader_length]
    omega
  have hrest : (AimBstream.rest { fr.data with offset := 0 }).take fr.data.offset =
      fr.data.written := rfl
  simp only [aimbsPutbs, if_neg hsrc, if_neg hdst, hrest, AimBstream.store_store hoff]
  rw [Flap.encode, hpayload]
  rfl

@[simp] theorem Flap.encode_length (f : Flap) : f.encode.length = 6 + f.payload.length := by
  rw [Flap.encode, List.length_append, flapHeader_length]

theorem aimBstreamSend_all {v : List UInt8} (c : ConnPtr) (sess : AimSession) :
    (aimBstreamSend ⟨v, 0⟩ c v.length sess).2.2 =
      { sess with wire := Function.update sess.wire c (sess.wire c ++ v) } := by
  have hempty : aimBstreamEmpty ⟨v, 0⟩ = v.length := rfl
  simp only [aimBstreamSend, hempty, gt_iff_lt, Nat.lt_irrefl, if_false, AimBstream.rest,
    List.drop_zero, List.take_length]

/-- `sendframe_flap` writes the frame to the socket of its connection. -/
theorem aimTxSendframe_wire {fr : AimFrame} (h : Sendable fr) (sess : AimSession) :
    (aimTxSendframe fr sess).2.wire = Function.update sess.wire fr.conn
      (sess.wire fr.conn ++ (fr.toFlap h).encode) := by
  have hobs := sendframeFlapObs_fst h
  have hlen : (fr.toFlap h).encode.length = 6 + fr.data.offset := by
    rw [Flap.encode_length, AimFrame.toFlap, AimBstream.length_written h.offset_le]
  obtain ⟨ptr, hdr, data, handled, conn⟩ := fr
  cases hdr with
  | oft type magic hdr2len hdr2 => exact absurd h.isFlap (by simp [FrameHdr.isFlap])
  | flap type seqnum =>
    have hrewind := rewind_store_replicate hlen
    simp only [FrameHdr.flapType, FrameHdr.flapSeqnum] at hobs hrewind
    simp only [aimTxSendframe, hobs, hrewind, aimBstreamCurpos, AimBstream.store_offset,
      Nat.zero_add, aimBstreamSend_all]

/-! ## Receiving -/

/-- The pieces hold the bytes: none is empty, so `recv` returns every one of them. -/
structure Carries (sock : Socket) (bytes : List UInt8) : Prop where
  flatten_eq : sock.flatten = bytes
  ne_nil : ∀ piece ∈ sock, piece ≠ []

theorem Carries.cons {piece : List UInt8} {sock : Socket} {bytes : List UInt8} (hne : piece ≠ [])
    (h : Carries sock bytes) : Carries (piece :: sock) (piece ++ bytes) := by
  refine ⟨by rw [List.flatten_cons, h.flatten_eq], ?_⟩
  intro p hp
  rcases List.mem_cons.mp hp with rfl | hp
  · exact hne
  · exact h.ne_nil p hp

/-- `aim_recv` gathers the bytes whatever the pieces are. -/
theorem aimRecv_of_append {v r : List UInt8} {sock : Socket} (h : Carries sock (v ++ r)) :
    ∃ sock', aimRecv v.length sock = (some v, sock') ∧ Carries sock' r := by
  induction sock generalizing v with
  | nil =>
    have hnil := h.flatten_eq
    rw [List.flatten_nil] at hnil
    obtain ⟨rfl, rfl⟩ := List.append_eq_nil_iff.mp hnil.symm
    exact ⟨[], rfl, h⟩
  | cons piece sock ih =>
    have hne : piece ≠ [] := h.ne_nil piece List.mem_cons_self
    have hsock : ∀ p ∈ sock, p ≠ [] := fun p hp => h.ne_nil p (List.mem_cons_of_mem _ hp)
    cases v with
    | nil => exact ⟨piece :: sock, rfl, h⟩
    | cons b v =>
      have hflat := h.flatten_eq
      rw [List.flatten_cons, List.append_eq_append_iff] at hflat
      rw [List.length_cons, aimRecv, if_neg hne]
      rcases hflat with ⟨w, hv, hw⟩ | ⟨c, hpiece, hr⟩
      · -- the piece is used up
        have hlen := congrArg List.length hv
        rw [List.length_cons, List.length_append] at hlen
        obtain ⟨sock', hrecv, hcarries⟩ := ih ⟨hw, hsock⟩
        refine ⟨sock', ?_, hcarries⟩
        have hleft : v.length + 1 - piece.length = w.length := by omega
        rw [if_neg (by omega), hleft, hrecv, hv]
        rfl
      · have hlen := congrArg List.length hpiece
        rw [List.length_append, List.length_cons] at hlen
        cases c with
        | nil =>
          -- the piece ends exactly where the read does
          obtain ⟨sock', hrecv, hcarries⟩ := ih (v := [])
            ⟨by rw [hr, List.nil_append, List.nil_append], hsock⟩
          refine ⟨sock', ?_, hcarries⟩
          have hleft : v.length + 1 - piece.length = ([] : List UInt8).length := by
            rw [List.length_nil] at hlen ⊢
            omega
          rw [if_neg (by rw [List.length_nil] at hlen; omega), hleft, hrecv, hpiece]
          simp only [Option.map_some, List.append_nil]
        | cons d c =>
          rw [List.length_cons] at hlen
          refine ⟨(d :: c) :: sock, ?_, ?_⟩
          · rw [if_pos (by omega), hpiece]
            have hsplit : v.length + 1 = (b :: v).length := List.length_cons.symm
            rw [hsplit, List.take_left, List.drop_left]
          · exact hr ▸ Carries.cons (List.cons_ne_nil d c) ⟨rfl, hsock⟩

/-- Too few bytes before the end are an error. -/
theorem aimRecv_of_lt {n : Nat} {bytes : List UInt8} {sock : Socket} (h : Carries sock bytes)
    (hn : bytes.length < n) : ∃ sock', aimRecv n sock = (none, sock') := by
  induction sock generalizing n bytes with
  | nil =>
    obtain ⟨k, rfl⟩ : ∃ k, n = k + 1 := ⟨n - 1, by omega⟩
    exact ⟨[], rfl⟩
  | cons piece sock ih =>
    have hlen := congrArg List.length h.flatten_eq
    rw [List.flatten_cons, List.length_append] at hlen
    obtain ⟨k, rfl⟩ : ∃ k, n = k + 1 := ⟨n - 1, by omega⟩
    obtain ⟨sock', hrecv⟩ := @ih (k + 1 - piece.length) sock.flatten
      ⟨rfl, fun p hp => h.ne_nil p (List.mem_cons_of_mem _ hp)⟩ (by omega)
    refine ⟨sock', ?_⟩
    rw [aimRecv, if_neg (h.ne_nil piece List.mem_cons_self), if_neg (by omega), hrecv]
    rfl

section Recv

variable {n : Nat} {fd : Int} {sock : Socket}

theorem aimBstreamRecv_of_append {v r : List UInt8} (hfd : 0 ≤ fd) (hn : v.length = n)
    (hpos : 0 < n) (h : Carries sock (v ++ r)) :
    ∃ sock', aimBstreamRecv ⟨List.replicate n 0, 0⟩ fd n sock =
      ((n : Int), AimBstream.store ⟨List.replicate n 0, 0⟩ v, sock') ∧ Carries sock' r := by
  obtain ⟨sock', hrecv, hcarries⟩ := aimRecv_of_append h
  rw [hn] at hrecv
  refine ⟨sock', ?_, hcarries⟩
  simp only [aimBstreamRecv, if_neg (Int.not_lt.mpr hfd), aimBstreamEmpty_replicate, gt_iff_lt,
    Nat.lt_irrefl, if_false, if_neg (Nat.ne_of_gt hpos), hrecv, hn]

theorem aimBstreamRecv_of_lt {bytes : List UInt8} (hfd : 0 ≤ fd) (h : Carries sock bytes)
    (hn : bytes.length < n) :
    ∃ sock', aimBstreamRecv ⟨List.replicate n 0, 0⟩ fd n sock =
      (-1, ⟨List.replicate n 0, 0⟩, sock') := by
  obtain ⟨sock', hrecv⟩ := aimRecv_of_lt h hn
  refine ⟨sock', ?_⟩
  simp only [aimBstreamRecv, if_neg (Int.not_lt.mpr hfd), aimBstreamEmpty_replicate, gt_iff_lt,
    Nat.lt_irrefl, if_false, if_neg (Nat.ne_of_gt (Nat.lt_of_le_of_lt (Nat.zero_le _) hn)), hrecv]

end Recv

/-! ## One call -/

/-- Six bytes that begin with `0x2a` are a header. -/
theorem exists_flapHeader {v : List UInt8} (hlen : v.length = 6) (hstart : v.head? = some 0x2a) :
    ∃ type seqnum payloadlen, v = flapHeader type seqnum payloadlen := by
  match v, hlen with
  | [a, b, c, d, e, f], _ =>
    obtain rfl : a = 0x2a := Option.some.inj hstart
    refine ⟨b, aimutilGet16 [c, d], aimutilGet16 [e, f], ?_⟩
    have hcd : aimutilPut16 (aimutilGet16 [c, d]) = [c, d] := aimutilPut16_get16 rfl
    have hef : aimutilPut16 (aimutilGet16 [e, f]) = [e, f] := aimutilPut16_get16 rfl
    rw [flapHeader, hcd, hef, aimutilPut8_eq, aimutilPut8_eq]
    rfl

theorem get_flapHeader (type : UInt8) (seqnum payloadlen : UInt16) :
    let bs : AimBstream := ⟨flapHeader type seqnum payloadlen, 0⟩
    aimbsGet8 bs = (0x2a, bs.skip 1) ∧ aimbsGet8 (bs.skip 1) = (type, bs.skip 2) ∧
      aimbsGet16 (bs.skip 2) = (seqnum, bs.skip 4) ∧
      aimbsGet16 (bs.skip 4) = (payloadlen, bs.skip 6) := by
  intro bs
  have h0 : bs.rest = aimutilPut8 0x2a ++ (aimutilPut8 type ++ (aimutilPut16 seqnum ++
      aimutilPut16 payloadlen)) := rfl
  have h1 := bs.rest_skip_of_append h0
  have h2 := AimBstream.rest_skip_of_append _ h1
  have h4 := AimBstream.rest_skip_of_append _ h2
  have h6 := reads_aimbsGet16 payloadlen _ [] (h4.trans (List.append_nil _).symm)
  exact ⟨reads_aimbsGet8 0x2a _ _ h0, reads_aimbsGet8 type _ _ h1, reads_aimbsGet16 seqnum _ _ h2,
    h6⟩

section Command

variable {sess : AimSession} {c : ConnPtr} {sock : Socket}

/-- The bytes do not begin with a whole frame: the header or the payload is cut short by the end,
or the first byte is not `0x2a`. -/
def CutFlap (bytes : List UInt8) : Prop :=
  bytes.length < 6 ∨ bytes.head? ≠ some 0x2a ∨
    bytes.length < 6 + (aimutilGet16 (bytes.drop 4)).toNat

theorem flapHeader_payloadlen (type : UInt8) (seqnum payloadlen : UInt16) (r : List UInt8) :
    aimutilGet16 ((flapHeader type seqnum payloadlen ++ r).drop 4) = payloadlen := by
  have hdrop : (flapHeader type seqnum payloadlen ++ r).drop 4 = aimutilPut16 payloadlen ++ r := by
    have hsplit : flapHeader type seqnum payloadlen ++ r = (aimutilPut8 0x2a ++ (aimutilPut8 type ++
        aimutilPut16 seqnum)) ++ (aimutilPut16 payloadlen ++ r) := by
      simp only [flapHeader, List.append_assoc]
    rw [hsplit]
    exact List.drop_left' (by simp)
  rw [hdrop, aimutilGet16_put16]

/-- The session with one more frame on the receive queue. -/
def AimSession.receive (sess : AimSession) (c : ConnPtr) (f : Flap) : AimSession :=
  { sess with
    queueIncoming := sess.queueIncoming ++
      [⟨sess.heap, .flap f.type f.seqnum, ⟨f.payload, 0⟩, 0, c⟩]
    heap := sess.heap + 1 }

theorem aimGetCommandFlap_encode {f : Flap} {r : List UInt8} (hfd : 0 ≤ (sess.conn c).fd)
    (h : Carries sock (f.encode ++ r)) :
    ∃ sock', aimGetCommandFlap sess c sock = (0, sess.receive c f, sock') ∧ Carries sock' r := by
  rw [Flap.encode, List.append_assoc] at h
  obtain ⟨sock', hhdr, hcarries⟩ := aimBstreamRecv_of_append hfd (flapHeader_length _ _ _)
    (by decide) h
  have hrewind := rewind_store_replicate (flapHeader_length f.type f.seqnum f.payloadlen)
  obtain ⟨hstart, htype, hseqnum, hpayloadlen⟩ := get_flapHeader f.type f.seqnum f.payloadlen
  have hinit : aimBstreamInit (List.replicate 6 0) 6 = ⟨List.replicate 6 0, 0⟩ :=
    aimBstreamInit_replicate (by decide)
  have hdata := aimBstreamInit_replicate f.length_lt
  unfold aimGetCommandFlap
  simp only [hinit, hhdr, hrewind, hstart, htype, hseqnum, hpayloadlen, Flap.payloadlen_toNat,
    hdata]
  rw [if_neg (by omega), if_neg (not_not_intro rfl)]
  by_cases hzero : f.payloadlen = 0
  · have hnil : f.payload = [] := by
      have hlen := f.payloadlen_toNat
      rw [hzero] at hlen
      exact List.length_eq_zero_iff.mp hlen.symm
    rw [hnil, List.nil_append] at hcarries
    refine ⟨sock', ?_, hcarries⟩
    rw [if_neg (not_not_intro hzero)]
    simp only [hnil, List.length_nil, List.replicate_zero, aimBstreamRewind_snd,
      AimSession.receive]
    rw [if_neg (by omega)]
  · have hpos : 0 < f.payload.length := by
      have hlen := f.payloadlen_toNat
      rcases Nat.eq_zero_or_pos f.payload.length with h0 | hpos
      · rw [h0] at hlen
        exact absurd (UInt16.toNat_inj.mp hlen) hzero
      · exact hpos
    obtain ⟨sock'', hpayload, hcarries'⟩ := aimBstreamRecv_of_append hfd rfl hpos hcarries
    refine ⟨sock'', ?_, hcarries'⟩
    rw [if_pos hzero, hpayload]
    simp only [rewind_store_replicate rfl, AimSession.receive]
    rw [if_neg (by omega)]

/-- Bytes that do not begin with a whole frame close the connection. -/
theorem aimGetCommandFlap_cut {bytes : List UInt8} (hfd : 0 ≤ (sess.conn c).fd)
    (h : Carries sock bytes) (hcut : CutFlap bytes) :
    ∃ sock', aimGetCommandFlap sess c sock = (-1, aimConnClose sess c, sock') := by
  have hinit : aimBstreamInit (List.replicate 6 0) 6 = ⟨List.replicate 6 0, 0⟩ :=
    aimBstreamInit_replicate (by decide)
  unfold aimGetCommandFlap
  simp only [hinit]
  rcases Nat.lt_or_ge bytes.length 6 with hshort | hlong
  · obtain ⟨sock', hhdr⟩ := aimBstreamRecv_of_lt hfd h hshort
    exact ⟨sock', by rw [hhdr]; rfl⟩
  · have hsplit := List.take_append_drop 6 bytes
    have htake : (bytes.take 6).length = 6 := by rw [List.length_take]; omega
    have hhead : (bytes.take 6).head? = bytes.head? := by
      rw [List.head?_take, if_neg (by decide)]
    obtain ⟨sock', hhdr, hcarries⟩ := aimBstreamRecv_of_append hfd htake (by decide)
      (hsplit.symm ▸ h)
    rw [hhdr]
    simp only [rewind_store_replicate htake]
    rw [if_neg (by omega)]
    by_cases hstart : bytes.head? = some 0x2a
    · obtain ⟨type, seqnum, payloadlen, hheader⟩ := exists_flapHeader htake (hhead.trans hstart)
      have hlen : bytes.length < 6 + payloadlen.toNat := by
        have hlt := (hcut.resolve_left (by omega)).resolve_left (not_not_intro hstart)
        rwa [← hsplit, hheader, flapHeader_payloadlen, ← hheader, hsplit] at hlt
      obtain ⟨h0, h1, h2, h4⟩ := get_flapHeader type seqnum payloadlen
      have hrest : (bytes.drop 6).length < payloadlen.toNat := by
        rw [List.length_drop]
        omega
      have hne : payloadlen ≠ 0 := by
        rintro rfl
        exact absurd hrest (Nat.not_lt_zero _)
      have hdata := aimBstreamInit_replicate payloadlen.toNat_lt
      obtain ⟨sock'', hpayload⟩ := aimBstreamRecv_of_lt hfd hcarries hrest
      refine ⟨sock'', ?_⟩
      simp only [hheader, h0, h1, h2, h4, hdata, hpayload, if_pos hne]
      rw [if_neg (not_not_intro rfl), if_pos (by omega)]
    · match hv : bytes.take 6, htake with
      | x :: v, _ =>
        have hx : x ≠ 0x2a := by
          rintro rfl
          rw [hv] at hhead
          exact hstart hhead.symm
        have hrest : AimBstream.rest ⟨x :: v, 0⟩ = aimutilPut8 x ++ v := by
          rw [aimutilPut8_eq]
          rfl
        have hget := reads_aimbsGet8 x _ _ hrest
        refine ⟨sock', ?_⟩
        simp only [hget]
        rw [if_pos hx]

end Command

/-! ## Whole streams -/

/-- A connection `aim_get_command` reads FLAP frames from. -/
structure ReadsFlap (sess : AimSession) (c : ConnPtr) : Prop where
  ne_null : c ≠ 0
  fd_le : 3 ≤ (sess.conn c).fd
  not_inprogress : ¬ (sess.conn c).Inprogress
  not_rendezvous : (sess.conn c).type ≠ aimConnTypeRendezvous
  not_rendezvousOut : (sess.conn c).type ≠ aimConnTypeRendezvousOut

/-- `n` calls of `aim_get_command` in a row, with what they return. -/
def getCommands (outcome : SelectOutcome) (userfunc : AimSession → AimSession)
    (rendezvous : AimSession → Int × AimSession) (c : ConnPtr) :
    Nat → AimSession → Socket → List Int × AimSession × Socket
  | 0, sess, sock => ([], sess, sock)
  | n + 1, sess, sock =>
    let (ret, sess, sock) := aimGetCommand outcome userfunc rendezvous sess c sock
    let (rets, sess, sock) := getCommands outcome userfunc rendezvous c n sess sock
    (ret :: rets, sess, sock)

/-- What a frame looks like on the receive queue, its address apart. -/
def AimFrame.contents (fr : AimFrame) : FrameHdr × AimBstream × UInt8 × ConnPtr :=
  (fr.hdr, fr.data, fr.handled, fr.conn)

def Flap.received (c : ConnPtr) (f : Flap) : FrameHdr × AimBstream × UInt8 × ConnPtr :=
  (.flap f.type f.seqnum, ⟨f.payload, 0⟩, 0, c)

/-- The frames `new` are all that has been added to the session. -/
structure Received (sess sess' : AimSession) (c : ConnPtr) (flaps : List Flap) : Prop where
  queue : ∃ new, sess'.queueIncoming = sess.queueIncoming ++ new ∧
    new.map AimFrame.contents = flaps.map (Flap.received c)
  conn : sess'.conn = sess.conn

/-- Every byte string is a number of whole frames and then bytes that do not begin with one. -/
theorem exists_flapFraming (bytes : List UInt8) :
    ∃ (flaps : List Flap) (tail : List UInt8),
      bytes = flaps.flatMap Flap.encode ++ tail ∧ CutFlap tail := by
  induction hn : bytes.length using Nat.strongRecOn generalizing bytes with
  | _ n ih =>
    by_cases hcut : CutFlap bytes
    · exact ⟨[], bytes, rfl, hcut⟩
    · unfold CutFlap at hcut
      rw [not_or, not_or, not_not] at hcut
      obtain ⟨h6, hstart, hpayload⟩ := hcut
      have hsplit := List.take_append_drop 6 bytes
      have htake : (bytes.take 6).length = 6 := by rw [List.length_take]; omega
      have hhead : (bytes.take 6).head? = some 0x2a := by
        rw [List.head?_take, if_neg (by decide), hstart]
      obtain ⟨type, seqnum, payloadlen, hheader⟩ := exists_flapHeader htake hhead
      rw [← hsplit, hheader, flapHeader_payloadlen, ← hheader, hsplit] at hpayload
      have hlen : ((bytes.drop 6).take payloadlen.toNat).length = payloadlen.toNat := by
        rw [List.length_take, List.length_drop]
        omega
      set f : Flap := ⟨type, seqnum, (bytes.drop 6).take payloadlen.toNat,
        hlen.symm ▸ payloadlen.toNat_lt⟩ with hf
      have hbytes : bytes = f.encode ++ (bytes.drop 6).drop payloadlen.toNat := by
        have hf' : f.payloadlen = payloadlen := by
          apply UInt16.toNat_inj.mp
          rw [Flap.payloadlen_toNat]
          exact hlen
        rw [Flap.encode, hf', List.append_assoc, List.take_append_drop, ← hheader, hsplit]
      have hlt : ((bytes.drop 6).drop payloadlen.toNat).length < n := by
        rw [List.length_drop, List.length_drop]
        omega
      obtain ⟨flaps, tail, htail, hcut⟩ := ih _ hlt _ rfl
      refine ⟨f :: flaps, tail, ?_, hcut⟩
      rw [List.flatMap_cons, List.append_assoc, ← htail]
      exact hbytes

section Stream

variable {outcome : SelectOutcome} {userfunc : AimSession → AimSession}
  {rendezvous : AimSession → Int × AimSession} {sess : AimSession} {c : ConnPtr} {sock : Socket}

theorem aimGetCommand_readsFlap (h : ReadsFlap sess c) :
    aimGetCommand outcome userfunc rendezvous sess c sock = aimGetCommandFlap sess c sock := by
  have hfd := h.fd_le
  unfold aimGetCommand
  simp only
  rw [if_neg h.ne_null, if_neg (by omega), if_neg (by omega), if_neg h.not_inprogress,
    if_neg h.not_rendezvous, if_neg h.not_rendezvousOut]

variable (outcome userfunc rendezvous) in
/-- As many calls as there are whole frames at the front of the stream receive these frames. -/
theorem getCommands_encode (flaps : List Flap) {tail : List UInt8} (h : ReadsFlap sess c)
    (hsock : Carries sock (flaps.flatMap Flap.encode ++ tail)) :
    ∃ sess' sock', getCommands outcome userfunc rendezvous c flaps.length sess sock =
      (List.replicate flaps.length 0, sess', sock') ∧ Received sess sess' c flaps ∧
        Carries sock' tail := by
  induction flaps generalizing sess sock with
  | nil => exact ⟨sess, sock, rfl, ⟨⟨[], (List.append_nil _).symm, rfl⟩, rfl⟩, hsock⟩
  | cons f flaps ih =>
    rw [List.flatMap_cons, List.append_assoc] at hsock
    have hfd : 0 ≤ (sess.conn c).fd := Int.le_trans (by decide) h.fd_le
    obtain ⟨sock₁, hcmd, hsock₁⟩ := aimGetCommandFlap_encode hfd hsock
    obtain ⟨sess₂, sock₂, hcmds, ⟨⟨new, hqueue, hnew⟩, hconn⟩, hsock₂⟩ :=
      ih (show ReadsFlap (sess.receive c f) c from
        ⟨h.ne_null, h.fd_le, h.not_inprogress, h.not_rendezvous, h.not_rendezvousOut⟩) hsock₁
    refine ⟨sess₂, sock₂, ?_,
      ⟨⟨⟨sess.heap, .flap f.type f.seqnum, ⟨f.payload, 0⟩, 0, c⟩ :: new, ?_, ?_⟩, hconn⟩, hsock₂⟩
    · rw [List.length_cons, getCommands, aimGetCommand_readsFlap h, hcmd]
      simp only [hcmds, List.replicate_succ]
    · rw [hqueue, AimSession.receive, List.append_assoc]
      rfl
    · rw [List.map_cons, hnew]
      rfl

theorem ReadsFlap.of_conn {sess' : AimSession} (h : ReadsFlap sess c)
    (hconn : sess'.conn = sess.conn) : ReadsFlap sess' c := by
  refine ⟨h.ne_null, ?_, ?_, ?_, ?_⟩
  · exact hconn ▸ h.fd_le
  · exact hconn ▸ h.not_inprogress
  · exact hconn ▸ h.not_rendezvous
  · exact hconn ▸ h.not_rendezvousOut

variable (outcome userfunc rendezvous) in
/-- After the whole frames a stream begins with, a call fails and closes the connection. -/
theorem getCommands_cut (flaps : List Flap) {tail : List UInt8} (h : ReadsFlap sess c)
    (hsock : Carries sock (flaps.flatMap Flap.encode ++ tail)) (hcut : CutFlap tail) :
    ∃ sess' sock' sock'', getCommands outcome userfunc rendezvous c flaps.length sess sock =
      (List.replicate flaps.length 0, sess', sock') ∧ Received sess sess' c flaps ∧
        aimGetCommand outcome userfunc rendezvous sess' c sock' =
          (-1, aimConnClose sess' c, sock'') := by
  obtain ⟨sess', sock', hcmds, hreceived, hsock'⟩ :=
    getCommands_encode outcome userfunc rendezvous flaps h hsock
  have h' := h.of_conn hreceived.conn
  have hfd : 0 ≤ (sess'.conn c).fd := Int.le_trans (by decide) h'.fd_le
  obtain ⟨sock'', hcmd⟩ := aimGetCommandFlap_cut hfd hsock' hcut
  exact ⟨sess', sock', sock'', hcmds, hreceived, (aimGetCommand_readsFlap h').trans hcmd⟩

end Stream

/-- Frames written one after the other. -/
def sendFrames (frs : List AimFrame) (sess : AimSession) : AimSession :=
  frs.foldl (fun sess fr => (aimTxSendframe fr sess).2) sess

theorem sendFrames_wire {frs : List AimFrame} (hfrs : ∀ fr ∈ frs, Sendable fr) {d : ConnPtr}
    (hconn : ∀ fr ∈ frs, fr.conn = d) (sess : AimSession) :
    (sendFrames frs sess).wire d =
      sess.wire d ++ (frs.pmap AimFrame.toFlap hfrs).flatMap Flap.encode := by
  induction frs generalizing sess with
  | nil => simp [sendFrames]
  | cons fr frs ih =>
    have hfr := hfrs fr List.mem_cons_self
    have hd : fr.conn = d := hconn fr List.mem_cons_self
    have hwire := congrFun (aimTxSendframe_wire hfr sess) d
    rw [hd, Function.update_self] at hwire
    have ih' := ih (fun f hf => hfrs f (List.mem_cons_of_mem _ hf))
      (fun f hf => hconn f (List.mem_cons_of_mem _ hf)) (aimTxSendframe fr sess).2
    rw [List.pmap_cons, List.flatMap_cons, ← List.append_assoc, ← hwire]
    exact ih'

/-- The FLAP codec. However `recv` cuts up what `sendframe_flap` wrote, `aim_get_command` receives
exactly the frames that were sent. On any byte stream it receives the whole frames the stream
begins with, and then, where the stream ends or the next frame does not start with `0x2a`, returns
-1 with the connection closed and nothing more on the queue. -/
theorem aimGetCommand_sendframeFlap {outcome : SelectOutcome} {userfunc : AimSession → AimSession}
    {rendezvous : AimSession → Int × AimSession} {rx : AimSession} {c : ConnPtr}
    (h : ReadsFlap rx c) :
    (∀ (frs : List AimFrame) (tx : AimSession) (d : ConnPtr) (bytes : List UInt8) (sock : Socket),
      (∀ fr ∈ frs, Sendable fr ∧ fr.conn = d) →
      (sendFrames frs tx).wire d = tx.wire d ++ bytes → Carries sock bytes →
      ∃ rx' sock' new, getCommands outcome userfunc rendezvous c frs.length rx sock =
          (List.replicate frs.length 0, rx', sock') ∧
        rx'.queueIncoming = rx.queueIncoming ++ new ∧
        new.map AimFrame.contents = frs.map fun fr =>
          (.flap fr.hdr.flapType fr.hdr.flapSeqnum, ⟨fr.data.written, 0⟩, 0, c)) ∧
    (∀ (bytes : List UInt8) (sock : Socket), Carries sock bytes →
      ∃ (flaps : List Flap) (tail : List UInt8),
        bytes = flaps.flatMap Flap.encode ++ tail ∧ CutFlap tail ∧
        ∃ rx' sock' sock'', getCommands outcome userfunc rendezvous c flaps.length rx sock =
            (List.replicate flaps.length 0, rx', sock') ∧ Received rx rx' c flaps ∧
          ∃ rx'', aimGetCommand outcome userfunc rendezvous rx' c sock' = (-1, rx'', sock'') ∧
            (rx''.conn c).fd = -1 ∧ rx''.queueIncoming = rx'.queueIncoming) := by
  constructor
  · intro frs tx d bytes sock hfrs hwire hsock
    have hsend : ∀ fr ∈ frs, Sendable fr := fun fr hfr => (hfrs fr hfr).1
    rw [sendFrames_wire hsend fun fr hfr => (hfrs fr hfr).2] at hwire
    rw [← List.append_cancel_left hwire, ← List.append_nil (List.flatMap _ _)] at hsock
    obtain ⟨rx', sock', hcmds, ⟨⟨new, hqueue, hnew⟩, -⟩, -⟩ := getCommands_encode
      outcome userfunc rendezvous _ h hsock
    rw [List.length_pmap] at hcmds
    refine ⟨rx', sock', new, hcmds, hqueue, ?_⟩
    rw [hnew, List.map_pmap, ← List.pmap_eq_map hsend]
    rfl
  · intro bytes sock hsock
    obtain ⟨flaps, tail, hbytes, hcut⟩ := exists_flapFraming bytes
    rw [hbytes] at hsock
    obtain ⟨rx', sock', sock'', hcmds, hreceived, hcmd⟩ := getCommands_cut
      outcome userfunc rendezvous flaps h hsock hcut
    refine ⟨flaps, tail, hbytes, hcut, rx', sock', sock'', hcmds, hreceived, _, hcmd, ?_, rfl⟩
    rw [aimConnClose, AimSession.setConn_conn, if_pos rfl]

/-- One frame that arrives in two pieces on a fresh connection. -/
theorem aimGetCommand_sendframeFlap_two_pieces :
    let rx := (aimNewconn (aimSessionInit []) aimConnTypeBos (.connected 3 0)).2
    ∃ rx' sock' new, getCommands .done id (fun sess => (0, sess)) 1 1 rx
        [[0x2a, 0x02, 0x00], [0x01, 0x00, 0x01, 0x07]] = ([0], rx', sock') ∧
      rx'.queueIncoming = rx.queueIncoming ++ new ∧
      new.map AimFrame.contents = [(.flap 0x02 0x0001, ⟨[0x07], 0⟩, 0, 1)] := by
  intro rx
  have hrx : ReadsFlap rx 1 := ⟨by decide, by decide, by decide, by decide, by decide⟩
  have hsend : Sendable ⟨0, .flap 0x02 0x0001, ⟨[0x07], 1⟩, 0, 1⟩ := ⟨rfl, by decide, by decide⟩
  refine (aimGetCommand_sendframeFlap hrx).1 [⟨0, .flap 0x02 0x0001, ⟨[0x07], 1⟩, 0, 1⟩] rx 1
    [0x2a, 0x02, 0x00, 0x01, 0x00, 0x01, 0x07] _ ?_ ?_ ⟨rfl, ?_⟩
  · intro fr hfr
    obtain rfl := List.mem_singleton.mp hfr
    exact ⟨hsend, rfl⟩
  · decide
  · decide

end Libfaim
