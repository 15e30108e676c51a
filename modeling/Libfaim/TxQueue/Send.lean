import Libfaim.RxQueue.Codec

/-!
# Writing to a socket that takes what it likes (`txqueue.c`)

`send` may take some of the bytes, none, or fail. `aim_send` goes on until everything is taken or a
call takes nothing; `sendframe_flap` compares how much was sent with how much it meant to, and
returns `-errno` where they differ. So it can return 0 for a frame that was not sent as a whole in
two ways: a call of `send` took nothing and `errno` was 0, or the header did not fit the stream of a
16-bit length, which is not looked at (`sendframeFlap_whole_iff`).
-/

namespace Libfaim

/-! ## Sending -/

/-- What one call of `send` does: it takes so many bytes, or all that are left if these are fewer, or
it fails. -/
inductive SendRet where
  | took (n : Nat)
  | failed (errno : Nat) (pos : 0 < errno)

/-- The value of `aim_send`, the bytes that are on their way, and `errno`. -/
structure SendResult where
  ret : Int
  out : List UInt8
  errno : Nat
  deriving DecidableEq, Repr

/-- The loop of `aim_send`, where `left` is still to be sent. `errno` keeps its value where no call
fails. The calls behind the end of the list take everything. -/
def aimSendLoop (errno : Nat) : List SendRet → Nat → List UInt8 → SendResult
  | _, cur, [] => ⟨cur, [], errno⟩
  | [], cur, b :: left => ⟨cur + (left.length + 1 : Nat), b :: left, errno⟩
  | .took n :: sends, cur, b :: left =>
    let ret := min n (left.length + 1)
    if ret = 0 then ⟨cur, [], errno⟩
    else
      let r := aimSendLoop errno sends (cur + ret) ((b :: left).drop ret)
      { r with out := (b :: left).take ret ++ r.out }
  | .failed errno _ :: _, _, _ :: _ => ⟨-1, [], errno⟩

/-- `aim_bstream_send`, with the outcomes of its calls of `send`. -/
def aimBstreamSendTo (errno : Nat) (sends : List SendRet) (bs : AimBstream) (count : Nat) :
    SendResult :=
  let count := if count > aimBstreamEmpty bs then aimBstreamEmpty bs else count
  if count ≠ 0 then aimSendLoop errno sends 0 (bs.rest.take count) else ⟨0, [], errno⟩

/-- `sendframe_flap` -/
def sendframeFlap (errno : Nat) (sends : List SendRet) (fr : AimFrame) (sess : AimSession) :
    Int × AimFrame × AimSession :=
  let (obs, data) := sendframeFlapObs fr.hdr.flapType fr.hdr.flapSeqnum fr.data
  let obslen := aimBstreamCurpos obs
  let obs := (aimBstreamRewind obs).2
  let r := aimBstreamSendTo errno sends obs obslen
  let err : Int := if r.ret ≠ obslen then -r.errno else 0
  (err, { fr with data := data, handled := 1 },
    { sess with wire := Function.update sess.wire fr.conn (sess.wire fr.conn ++ r.out) })

/-! ## How the calls of `send` end -/

inductive SendEnd where
  | done
  | zero
  | failed
  deriving DecidableEq, Repr

/-- How sending `n` bytes ends: with all of them, with a call that takes nothing, or with one that
fails. -/
def sendEnd : List SendRet → Nat → SendEnd
  | _, 0 => .done
  | [], _ + 1 => .done
  | .took k :: sends, n + 1 => if k = 0 then .zero else sendEnd sends (n + 1 - k)
  | .failed _ _ :: _, _ + 1 => .failed

/-- What `aim_send` makes of each of these ends. -/
theorem aimSendLoop_end (errno : Nat) (sends : List SendRet) (cur : Nat) (left : List UInt8) :
    match sendEnd sends left.length with
    | .done => aimSendLoop errno sends cur left = ⟨(cur + left.length : Nat), left, errno⟩
    | .zero => ∃ k < left.length,
        aimSendLoop errno sends cur left = ⟨(cur + k : Nat), left.take k, errno⟩
    | .failed => (aimSendLoop errno sends cur left).ret = -1 ∧
        0 < (aimSendLoop errno sends cur left).errno := by
  induction sends generalizing cur left with
  | nil =>
    cases left with
    | nil => rfl
    | cons b left => simp [sendEnd, aimSendLoop]
  | cons send sends ih =>
    cases left with
    | nil => rfl
    | cons b left =>
      cases send with
      | failed e pos => exact ⟨rfl, pos⟩
      | took n =>
        rw [List.length_cons, sendEnd]
        by_cases hn : n = 0
        · subst hn
          rw [if_pos rfl]
          exact ⟨0, by simp, by simp [aimSendLoop]⟩
        · have hret : min n (left.length + 1) ≠ 0 := by omega
          have hlen : ((b :: left).drop (min n (left.length + 1))).length =
              left.length + 1 - n := by
            rw [List.length_drop, List.length_cons]
            omega
          have hloop : aimSendLoop errno (.took n :: sends) cur (b :: left) =
              { aimSendLoop errno sends (cur + min n (left.length + 1))
                  ((b :: left).drop (min n (left.length + 1))) with
                out := (b :: left).take (min n (left.length + 1)) ++
                  (aimSendLoop errno sends (cur + min n (left.length + 1))
                    ((b :: left).drop (min n (left.length + 1)))).out } := by
            rw [aimSendLoop]
            simp only [if_neg hret]
          have h := ih (cur + min n (left.length + 1))
            ((b :: left).drop (min n (left.length + 1)))
          rw [if_neg hn, hloop]
          rw [hlen] at h
          cases hend : sendEnd sends (left.length + 1 - n) with
          | done =>
            rw [hend] at h
            dsimp only at h ⊢
            rw [h, List.take_append_drop]
            have hsum : cur + min n (left.length + 1) + (left.length + 1 - n) =
                cur + (left.length + 1) := by omega
            rw [hsum]
          | zero =>
            rw [hend] at h
            dsimp only at h ⊢
            obtain ⟨k, hk, hres⟩ := h
            refine ⟨min n (left.length + 1) + k, by omega, ?_⟩
            rw [hres, Nat.add_assoc, List.take_add]
          | failed =>
            rw [hend] at h
            exact h

/-- The part of a stream that was written, sent from its start. -/
theorem aimBstreamSendTo_rewind {obs : AimBstream} (h : obs.offset ≤ obs.len) (errno : Nat)
    (sends : List SendRet) :
    aimBstreamSendTo errno sends { obs with offset := 0 } obs.offset =
      aimSendLoop errno sends 0 obs.written := by
  have hempty : aimBstreamEmpty { obs with offset := 0 } = obs.len := rfl
  have hrest : (AimBstream.rest { obs with offset := 0 }).take obs.offset = obs.written := rfl
  unfold aimBstreamSendTo
  simp only [hempty, gt_iff_lt, if_neg (Nat.not_lt.mpr h), hrest]
  by_cases hzero : obs.offset = 0
  · have hnil : obs.written = [] :=
      List.eq_nil_of_length_eq_zero ((AimBstream.length_written h).trans hzero)
    rw [if_neg (not_not.mpr hzero), hnil]
    cases sends with
    | nil => rfl
    | cons send sends => cases send <;> rfl
  · rw [if_pos hzero]

/-! ## The stream of a frame -/

section Obs

variable (type : UInt8) (seqnum : UInt16) (payloadlen : Nat)

theorem appends_putFlapHeader : Appends (putFlapHeader type seqnum payloadlen) :=
  (appends_aimbsPut _ _).bind fun _ => (appends_aimbsPut _ _).bind fun _ =>
    (appends_aimbsPut _ _).bind fun _ => appends_aimbsPut _ _

/-- How many bytes of the header are put into a stream of so few bytes that the header does not
fit: each field that does not fit is skipped. -/
def flapHeaderRoom (len : Nat) : Nat :=
  if len < 1 then 0 else if len < 2 then 1 else if len < 4 then 2 else 4

/-- One put into a stream that may have no room for it. -/
theorem aimbsPut_room (ret : Nat) {v : List UInt8} {bs : AimBstream} {len offset : Nat}
    (hlen : bs.len = len) (hoff : bs.offset = offset) (hle : offset ≤ len) :
    (aimbsPut ret v bs).2.len = len ∧ (aimbsPut ret v bs).2.offset =
      if len - offset < v.length then offset else offset + v.length := by
  subst hlen hoff
  exact ⟨(appends_aimbsPut ret v bs hle).len_eq, aimbsPut_offset ret v bs⟩

theorem putFlapHeader_offset {buf : AimBstream} (hoff : buf.offset = 0) (hlen : buf.len < 6) :
    (putFlapHeader type seqnum payloadlen buf).2.offset = flapHeaderRoom buf.len := by
  obtain ⟨l₁, h₁⟩ := aimbsPut_room 1 (v := aimutilPut8 0x2a) rfl hoff (Nat.zero_le _)
  rw [aimutilPut8_length] at h₁
  obtain ⟨l₂, h₂⟩ := aimbsPut_room 1 (v := aimutilPut8 type) l₁ h₁ (by split_ifs <;> omega)
  rw [aimutilPut8_length] at h₂
  obtain ⟨l₃, h₃⟩ := aimbsPut_room 2 (v := aimutilPut16 seqnum) l₂ h₂ (by split_ifs <;> omega)
  rw [aimutilPut16_length] at h₃
  obtain ⟨-, h₄⟩ := aimbsPut_room 2 (v := aimutilPut16 (UInt16.ofNat payloadlen)) l₃ h₃
    (by split_ifs <;> omega)
  rw [aimutilPut16_length] at h₄
  simp only [putFlapHeader, stateM_bind, aimbsPut8, aimbsPut16]
  rw [h₄]
  -- one stream length after the other
  have hcases : buf.len = 0 ∨ buf.len = 1 ∨ buf.len = 2 ∨ buf.len = 3 ∨ buf.len = 4 ∨
      buf.len = 5 := by omega
  rcases hcases with h | h | h | h | h | h <;> rw [h] <;> rfl

end Obs

/-- How many bytes `sendframe_flap` puts into its stream, for a payload of `payloadlen` bytes. -/
def flapStreamLen (payloadlen : Nat) : Nat :=
  if payloadlen ≤ 65529 then 6 + payloadlen else flapHeaderRoom (payloadlen - 65530)

theorem aimbsPutbs_noroom {bs srcbs : AimBstream} {len : Nat} (h : aimBstreamEmpty bs < len) :
    (aimbsPutbs bs srcbs len).2.1 = bs := by
  unfold aimbsPutbs
  rw [if_pos h, ite_self]

/-- A payload that does not fit a stream together with the header: the length of the stream wraps
round, and of the header comes what fits. -/
theorem sendframeFlapObs_wrapped {data : AimBstream} (type : UInt8) (seqnum : UInt16)
    (hlt : 65529 < data.offset) (hle : data.offset < 65536) :
    (sendframeFlapObs type seqnum data).1.offset ≤ (sendframeFlapObs type seqnum data).1.len ∧
      (sendframeFlapObs type seqnum data).1.offset = flapHeaderRoom (data.offset - 65530) := by
  have hbuf : (aimBstreamInit (List.replicate (6 + data.offset) 0) (6 + data.offset : Nat)).len =
      data.offset - 65530 := by
    simp only [aimBstreamInit, AimBstream.len, List.length_append, List.length_take,
      List.length_replicate]
    omega
  have happ := appends_putFlapHeader type seqnum data.offset
    (aimBstreamInit (List.replicate (6 + data.offset) 0) (6 + data.offset : Nat)) (Nat.zero_le _)
  have hroom : aimBstreamEmpty (putFlapHeader type seqnum data.offset
      (aimBstreamInit (List.replicate (6 + data.offset) 0) (6 + data.offset : Nat))).2 <
      data.offset := by
    rw [aimBstreamEmpty, happ.len_eq, hbuf]
    omega
  have hobs : (sendframeFlapObs type seqnum data).1 = (putFlapHeader type seqnum data.offset
      (aimBstreamInit (List.replicate (6 + data.offset) 0) (6 + data.offset : Nat))).2 := by
    -- of the payload comes nothing, it is longer than the whole stream
    unfold sendframeFlapObs
    simp only [aimBstreamCurpos]
    exact aimbsPutbs_noroom hroom
  rw [hobs]
  exact ⟨happ.offset_le, by rw [putFlapHeader_offset _ _ _ rfl (by omega), hbuf]⟩

theorem flapHeaderRoom_lt (len : Nat) : flapHeaderRoom len < 6 := by
  unfold flapHeaderRoom
  split_ifs <;> omega

/-- The bytes a frame should be on the wire. -/
def AimFrame.whole (fr : AimFrame) : List UInt8 :=
  flapHeader fr.hdr.flapType fr.hdr.flapSeqnum (UInt16.ofNat fr.data.offset) ++ fr.data.written

theorem AimFrame.length_whole {fr : AimFrame} (h : fr.data.offset ≤ fr.data.len) :
    fr.whole.length = 6 + fr.data.offset := by
  rw [AimFrame.whole, List.length_append, flapHeader_length, AimBstream.length_written h]

/-- What is in the stream of a frame before it is sent. -/
theorem sendframeFlapObs_spec {fr : AimFrame} (hflap : fr.hdr.isFlap)
    (hoff : fr.data.offset ≤ fr.data.len) (hlen : fr.data.len < 65536) :
    let obs := (sendframeFlapObs fr.hdr.flapType fr.hdr.flapSeqnum fr.data).1
    obs.offset ≤ obs.len ∧ obs.offset = flapStreamLen fr.data.offset ∧
      (fr.data.offset ≤ 65529 → obs.written = fr.whole) := by
  intro obs
  by_cases hfits : fr.data.offset ≤ 65529
  · have hsend : Sendable fr := ⟨hflap, hoff, hfits⟩
    have hwhole : (fr.toFlap hsend).encode = fr.whole := by
      rw [Flap.encode, Flap.payloadlen, AimFrame.toFlap, AimFrame.whole,
        AimBstream.length_written hoff]
    have hobs : obs = AimBstream.store ⟨List.replicate (6 + fr.data.offset) 0, 0⟩ fr.whole :=
      (sendframeFlapObs_fst hsend).trans (by rw [hwhole])
    have hroom : fr.whole.length ≤ aimBstreamEmpty ⟨List.replicate (6 + fr.data.offset) 0, 0⟩ := by
      rw [aimBstreamEmpty_replicate]
      exact Nat.le_of_eq (AimFrame.length_whole hoff)
    refine ⟨?_, ?_, fun _ => ?_⟩
    · rw [hobs]
      exact AimBstream.store_offset_le (Nat.zero_le _) hroom
    · rw [hobs, AimBstream.store_offset, AimFrame.length_whole hoff, flapStreamLen, if_pos hfits,
        Nat.zero_add]
    · rw [hobs, AimBstream.written_store (Nat.zero_le _)]
      rfl
  · have hlt : 65529 < fr.data.offset := by omega
    have hle16 : fr.data.offset < 65536 := by omega
    obtain ⟨hle, hoffset⟩ :=
      sendframeFlapObs_wrapped fr.hdr.flapType fr.hdr.flapSeqnum hlt hle16
    refine ⟨hle, ?_, fun h => absurd h hfits⟩
    rw [hoffset, flapStreamLen, if_neg hfits]

/-! ## Whether 0 means that everything was sent -/

/-- What `sendframe_flap` makes of the end of the calls of `send`: it returns 0 where they took the
whole stream, and where one took nothing while `errno` was 0. -/
theorem sendframeFlap_end {fr : AimFrame} (hflap : fr.hdr.isFlap)
    (hoff : fr.data.offset ≤ fr.data.len) (hlen : fr.data.len < 65536) (errno : Nat)
    (sends : List SendRet) (sess : AimSession) :
    let obs := (sendframeFlapObs fr.hdr.flapType fr.hdr.flapSeqnum fr.data).1
    match sendEnd sends (flapStreamLen fr.data.offset) with
    | .done => (sendframeFlap errno sends fr sess).1 = 0 ∧
        (sendframeFlap errno sends fr sess).2.2.wire fr.conn = sess.wire fr.conn ++ obs.written
    | .zero => (sendframeFlap errno sends fr sess).1 = -errno ∧
        ∃ k < flapStreamLen fr.data.offset,
          (sendframeFlap errno sends fr sess).2.2.wire fr.conn =
            sess.wire fr.conn ++ obs.written.take k
    | .failed => (sendframeFlap errno sends fr sess).1 < 0 := by
  obtain ⟨hle, hoffset, -⟩ := sendframeFlapObs_spec hflap hoff hlen
  unfold sendframeFlap
  generalize hobs : sendframeFlapObs fr.hdr.flapType fr.hdr.flapSeqnum fr.data = od at hle hoffset
  obtain ⟨obs, data⟩ := od
  dsimp only at hle hoffset
  have hend := aimSendLoop_end errno sends 0 obs.written
  rw [AimBstream.length_written hle, hoffset] at hend
  have hto := aimBstreamSendTo_rewind hle errno sends
  rw [hoffset] at hto
  simp only [aimBstreamCurpos, aimBstreamRewind_snd, Function.update_self, hoffset, hto]
  cases h : sendEnd sends (flapStreamLen fr.data.offset) with
  | done =>
    rw [h] at hend
    dsimp only at hend ⊢
    rw [hend]
    exact ⟨if_neg (by simp), rfl⟩
  | zero =>
    rw [h] at hend
    dsimp only at hend ⊢
    obtain ⟨k, hk, hres⟩ := hend
    rw [hres]
    exact ⟨if_pos (by simp only [Nat.zero_add]; omega), k, hk, rfl⟩
  | failed =>
    rw [h] at hend
    dsimp only at hend ⊢
    obtain ⟨hret, hpos⟩ := hend
    rw [hret, if_pos (by omega)]
    omega

/-- When 0 means that the whole frame was sent: all of the stream was taken and it held the whole
frame, or a call of `send` failed, or one took nothing and `errno` tells of an earlier error. -/
def SentWhole (errno : Nat) (sends : List SendRet) (payloadlen : Nat) : Prop :=
  match sendEnd sends (flapStreamLen payloadlen) with
  | .done => payloadlen ≤ 65529
  | .zero => errno ≠ 0
  | .failed => True

/-- For every frame and whatever `send` does: 0 means that the header with the length of the payload
and the payload were written, exactly where the stream could hold both and no call of `send` took
nothing with `errno` at 0. -/
theorem sendframeFlap_whole_iff {fr : AimFrame} (hflap : fr.hdr.isFlap)
    (hoff : fr.data.offset ≤ fr.data.len) (hlen : fr.data.len < 65536) (errno : Nat)
    (sends : List SendRet) (sess : AimSession) :
    ((sendframeFlap errno sends fr sess).1 = 0 →
      (sendframeFlap errno sends fr sess).2.2.wire fr.conn = sess.wire fr.conn ++
        (flapHeader fr.hdr.flapType fr.hdr.flapSeqnum (UInt16.ofNat fr.data.offset) ++
          fr.data.written)) ↔
      SentWhole errno sends fr.data.offset := by
  obtain ⟨hle, hoffset, hwritten⟩ := sendframeFlapObs_spec hflap hoff hlen
  have hend := sendframeFlap_end hflap hoff hlen errno sends sess
  have hlength := AimBstream.length_written hle
  have hwhole := AimFrame.length_whole hoff
  generalize (sendframeFlapObs fr.hdr.flapType fr.hdr.flapSeqnum fr.data).1 = obs at *
  rw [← AimFrame.whole]
  unfold SentWhole
  cases h : sendEnd sends (flapStreamLen fr.data.offset) with
  | done =>
    rw [h] at hend
    obtain ⟨herr, hwire⟩ := hend
    constructor
    · intro hsent
      have hsame := List.append_cancel_left (hwire.symm.trans (hsent herr))
      rw [hsame, hwhole, hoffset, flapStreamLen] at hlength
      by_contra hlong
      have hroom := flapHeaderRoom_lt (fr.data.offset - 65530)
      rw [if_neg hlong] at hlength
      omega
    · intro hfits _
      rw [hwire, hwritten hfits]
  | zero =>
    rw [h] at hend
    obtain ⟨herr, k, hk, hwire⟩ := hend
    constructor
    · intro hsent hzero
      have hsame := List.append_cancel_left (hwire.symm.trans (hsent (by rw [herr, hzero]; rfl)))
      have hcut := congrArg List.length hsame
      rw [List.length_take, hlength, hoffset, hwhole] at hcut
      unfold flapStreamLen at hk hcut
      split_ifs at hk hcut with hfits
      · omega
      · have hroom := flapHeaderRoom_lt (fr.data.offset - 65530)
        omega
    · intro hne hzero
      rw [herr] at hzero
      omega
  | failed =>
    rw [h] at hend
    dsimp only at hend
    refine ⟨fun _ => trivial, fun _ hzero => ?_⟩
    rw [hzero] at hend
    omega

/-- A frame of three bytes of which the first call of `send` takes two. -/
theorem sendframeFlap_whole_iff_two_pieces :
    let fr : AimFrame := ⟨0, .flap 0x02 0x0001, ⟨[0x07, 0x08, 0x09], 3⟩, 0, 1⟩
    (sendframeFlap 0 [.took 2] fr (aimSessionInit [])).1 = 0 ∧
      (sendframeFlap 0 [.took 2] fr (aimSessionInit [])).2.2.wire fr.conn =
        [0x2a, 0x02, 0x00, 0x01, 0x00, 0x03, 0x07, 0x08, 0x09] := by
  intro fr
  have hdone : sendEnd [.took 2] (flapStreamLen fr.data.offset) = .done := rfl
  have hret : (sendframeFlap 0 [.took 2] fr (aimSessionInit [])).1 = 0 := by
    have hend := @sendframeFlap_end fr rfl (by decide) (by decide) 0 [.took 2] (aimSessionInit [])
    rw [hdone] at hend
    exact hend.1
  have hwhole : SentWhole 0 [.took 2] fr.data.offset := Nat.le_of_ble_eq_true rfl
  have hwire := (@sendframeFlap_whole_iff fr rfl (by decide) (by decide) 0 [.took 2]
    (aimSessionInit [])).mpr hwhole hret
  exact ⟨hret, hwire.trans (by decide)⟩

/-- With a payload of 65530 bytes the stream has the length 0: nothing is written at all, and the
value is 0. -/
theorem sendframeFlap_nothing {fr : AimFrame} (hflap : fr.hdr.isFlap)
    (hlen : fr.data.len = 65530) (hoff : fr.data.offset = 65530) (errno : Nat) (sess : AimSession) :
    (sendframeFlap errno [] fr sess).1 = 0 ∧
      (sendframeFlap errno [] fr sess).2.2.wire fr.conn = sess.wire fr.conn := by
  have hle : fr.data.offset ≤ fr.data.len := by omega
  obtain ⟨hobs, hoffset, -⟩ := sendframeFlapObs_spec hflap hle (by omega)
  have hend := sendframeFlap_end hflap hle (by omega) errno [] sess
  rw [hoff] at hend hoffset
  obtain ⟨herr, hwire⟩ := hend
  have hnil := List.eq_nil_of_length_eq_zero ((AimBstream.length_written hobs).trans hoffset)
  rw [hnil, List.append_nil] at hwire
  exact ⟨herr, hwire⟩

theorem sendframeFlap_cut {payload : List UInt8} (h : payload.length = 65530) :
    let fr : AimFrame := ⟨0, .flap 0x02 0x0001, ⟨payload, 65530⟩, 0, 1⟩
    (sendframeFlap 0 [] fr (aimSessionInit [])).1 = 0 ∧
      (sendframeFlap 0 [] fr (aimSessionInit [])).2.2.wire 1 ≠
        flapHeader 0x02 0x0001 65530 ++ payload := by
  obtain ⟨herr, hwire⟩ := @sendframeFlap_nothing
    ⟨0, .flap 0x02 0x0001, ⟨payload, 65530⟩, 0, 1⟩ rfl h rfl 0 (aimSessionInit [])
  refine ⟨herr, fun hsent => ?_⟩
  have hcut := congrArg List.length (hwire.symm.trans hsent)
  rw [List.length_append, flapHeader_length, h] at hcut
  exact absurd hcut (by simp [aimSessionInit])

theorem not_sendframeFlap_whole :
    let fr : AimFrame := ⟨0, .flap 0x02 0x0001, ⟨List.replicate 65530 0, 65530⟩, 0, 1⟩
    (sendframeFlap 0 [] fr (aimSessionInit [])).1 = 0 ∧
      (sendframeFlap 0 [] fr (aimSessionInit [])).2.2.wire 1 ≠
        flapHeader 0x02 0x0001 65530 ++ List.replicate 65530 0 :=
  sendframeFlap_cut List.length_replicate

/-- Where the socket takes everything, this is the sending the transmit queue is modelled with. -/
theorem sendframeFlap_all {fr : AimFrame} (h : Sendable fr) (hlen : fr.data.len < 65536)
    (errno : Nat) (sess : AimSession) :
    (sendframeFlap errno [] fr sess).2.2.wire fr.conn = (aimTxSendframe fr sess).2.wire fr.conn := by
  have hend := sendframeFlap_end h.isFlap h.offset_le hlen errno [] sess
  have hdone : sendEnd [] (flapStreamLen fr.data.offset) = .done := by
    cases flapStreamLen fr.data.offset <;> rfl
  rw [hdone] at hend
  rw [hend.2, (sendframeFlapObs_spec h.isFlap h.offset_le hlen).2.2 h.payload_le,
    aimTxSendframe_wire h, Function.update_self, Flap.encode, Flap.payloadlen, AimFrame.toFlap,
    AimFrame.whole, AimBstream.length_written h.offset_le]

end Libfaim
