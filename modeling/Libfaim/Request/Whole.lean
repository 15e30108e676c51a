import Libfaim.Chat.Invite
import Libfaim.Request.Match
import Libfaim.Userinfo.RoundTrip

/-!
# Whether a request is sent whole

A function that makes a request takes the length of a string into the 16 bits of a TLV, gives the
frame a size of its own, and does not look at what the writer of the chain returns. So the frame may
hold less than the arguments, or no chain at all, while the value is 0.

What a frame should hold is given by the types and the whole values of its TLVs
(`AimBstream.Whole`). Such a frame takes `wholeSize` bytes behind what is in front of the chain, and
where the buffer has that many bytes it holds them.
-/

namespace Libfaim

/-! ## Chains of whole arguments -/

/-- The TLV of a type and a value, as `aim_addtlvtochain_raw` makes it of the value's length. -/
def tlvOf (arg : UInt16 × List UInt8) : AimTlv :=
  createtlv arg.1 (UInt16.ofNat arg.2.length) arg.2

/-- The bytes that TLVs with these values take. -/
def wholeSize (args : List (UInt16 × List UInt8)) : Nat :=
  (args.map fun arg => 4 + arg.2.length).sum

/-- What has been written is `front`, and then complete TLVs of these types and values. -/
def AimBstream.Whole (front : List UInt8) (args : List (UInt16 × List UInt8)) (bs : AimBstream) :
    Prop :=
  ∃ tlvs : List AimTlv, tlvs.map (fun tlv => (tlv.type, tlv.value)) = args ∧
    bs.written = front ++ encodeTlvchain tlvs

section Args

variable {args : List (UInt16 × List UInt8)}

@[simp] theorem wholeSize_nil : wholeSize [] = 0 := rfl

@[simp] theorem wholeSize_cons (arg : UInt16 × List UInt8) (args : List (UInt16 × List UInt8)) :
    wholeSize (arg :: args) = 4 + arg.2.length + wholeSize args := by
  simp [wholeSize]

@[simp] theorem wholeSize_append (args args' : List (UInt16 × List UInt8)) :
    wholeSize (args ++ args') = wholeSize args + wholeSize args' := by
  simp [wholeSize]

theorem length_le_wholeSize {arg : UInt16 × List UInt8} (h : arg ∈ args) :
    4 + arg.2.length ≤ wholeSize args := by
  induction args with
  | nil => exact nomatch h
  | cons first args ih =>
    rw [wholeSize_cons]
    rcases List.mem_cons.mp h with rfl | hmem
    · omega
    · have := ih hmem
      omega

theorem encodeTlvchain_length_wholeSize (tlvs : List AimTlv) :
    (encodeTlvchain tlvs).length = wholeSize (tlvs.map fun tlv => (tlv.type, tlv.value)) := by
  induction tlvs with
  | nil => rfl
  | cons tlv tlvs ih =>
    rw [encodeTlvchain_cons, List.length_append, ih, AimTlv.encode_length, List.map_cons,
      wholeSize_cons]

/-- Values whose length the 16 bits can hold are taken whole. -/
theorem map_tlvOf (h : ∀ arg ∈ args, arg.2.length < 65536) :
    (args.map tlvOf).map (fun tlv => (tlv.type, tlv.value)) = args := by
  induction args with
  | nil => rfl
  | cons arg args ih =>
    have hvalue : (tlvOf arg).value = arg.2 := createtlv_value_of_lt (h arg List.mem_cons_self)
    rw [List.map_cons, List.map_cons, hvalue, ih fun a ha => h a (List.mem_cons_of_mem _ ha)]
    rfl

theorem map_tlvOf_of_wholeSize (h : wholeSize args < 65536) :
    (args.map tlvOf).map (fun tlv => (tlv.type, tlv.value)) = args := by
  refine map_tlvOf fun arg harg => ?_
  have := length_le_wholeSize harg
  omega

/-- The chain of the TLVs takes at most what the whole values would. -/
theorem aimSizetlvchain_tlvOf_le (args : List (UInt16 × List UInt8)) :
    aimSizetlvchain (args.map tlvOf) ≤ wholeSize args := by
  induction args with
  | nil => exact Nat.le_refl _
  | cons arg args ih =>
    have hvalue : (tlvOf arg).length.toNat ≤ arg.2.length := by
      rw [AimTlv.length_toNat, tlvOf, createtlv, List.length_take]
      exact Nat.min_le_right _ _
    rw [List.map_cons, aimSizetlvchain, wholeSize_cons]
    omega

end Args

/-! ## Writing them into a frame -/

section Frame

variable {front : List UInt8} {args : List (UInt16 × List UInt8)}

theorem AimBstream.Whole.length_written {bs : AimBstream} (h : bs.Whole front args) :
    bs.written.length = front.length + wholeSize args := by
  obtain ⟨tlvs, rfl, hwritten⟩ := h
  rw [hwritten, List.length_append, encodeTlvchain_length_wholeSize]

/-- A frame holds no more than its buffer, whose length is taken into 16 bits. -/
theorem AimBstream.Whole.size_le {m : StateM AimBstream Nat} {datalen : Nat} (hm : Appends m)
    (h : (m (aimBstreamInit (List.replicate datalen 0) datalen)).2.Whole front args) :
    front.length + wholeSize args ≤ datalen % 65536 := by
  have hlen := aimBstreamInit_replicate_len datalen
  have hext := hm (aimBstreamInit (List.replicate datalen 0) datalen) (Nat.zero_le _)
  rw [← h.length_written, AimBstream.length_written hext.offset_le, ← hlen, ← hext.len_eq]
  exact hext.offset_le

theorem whole_of_writes {m : StateM AimBstream Nat} {tlvs : List AimTlv} {x datalen : Nat}
    (hm : Writes m (front ++ encodeTlvchain tlvs) x)
    (htlvs : tlvs.map (fun tlv => (tlv.type, tlv.value)) = args) (hn : datalen < 65536)
    (hfits : front.length + wholeSize args ≤ datalen) :
    (m (aimBstreamInit (List.replicate datalen 0) datalen)).2.Whole front args := by
  refine ⟨tlvs, htlvs, hm.written_init hn ?_⟩
  rwa [List.length_append, encodeTlvchain_length_wholeSize, htlvs]

/-- A frame of a fixed size takes its arguments whole exactly if it has room for them. -/
theorem whole_iff_of_writes {m : StateM AimBstream Nat} {x datalen : Nat} (happ : Appends m)
    (hm : Writes m (front ++ encodeTlvchain (args.map tlvOf)) x) (hn : datalen < 65536) :
    (m (aimBstreamInit (List.replicate datalen 0) datalen)).2.Whole front args ↔
      front.length + wholeSize args ≤ datalen := by
  constructor
  · intro h
    have hle := h.size_le happ
    rwa [Nat.mod_eq_of_lt hn] at hle
  · intro hfits
    exact whole_of_writes hm (map_tlvOf_of_wholeSize (by omega)) hn hfits

end Frame

/-! ## Requests -/

/-- Where the call with this result returns 0, it enqueued one frame, and the data of it are `P`. -/
def Requester.Sent (s : Requester) (r : Int × Requester) (P : AimBstream → Prop) : Prop :=
  r.1 = 0 → ∃ fr, r.2.passed = s.passed ++ [fr] ∧ P fr.data

section Sent

variable {s : Requester} {c : ConnPtr} {P : AimBstream → Prop}

theorem Requester.sent_of_ne {ret : Int} {t : Requester} (h : ret ≠ 0) : s.Sent (ret, t) P :=
  fun hret => absurd hret h

theorem Requester.sent_enomem (t : Requester) : s.Sent (-enomem, t) P := sent_of_ne (by decide)

theorem Requester.sent_einval (t : Requester) : s.Sent (-einval, t) P := sent_of_ne (by decide)

theorem Requester.sent_enqueued {r : Int × Requester} {fr : AimFrame} (hret : r.1 = 0)
    (hpassed : r.2.passed = s.passed ++ [fr]) : s.Sent r P ↔ P fr.data := by
  constructor
  · intro h
    obtain ⟨fr', hpassed', hfr⟩ := h hret
    obtain rfl := List.singleton_inj.mp (List.append_cancel_left (hpassed.symm.trans hpassed'))
    exact hfr
  · exact fun h _ => ⟨fr, hpassed, h⟩

theorem Requester.sent_post_iff {chan : UInt8} {datalen : Nat} {put : StateM AimBstream Nat} :
    s.Sent (s.post c chan datalen put) P ↔
      (s.sess.Usable c → P (put (aimBstreamInit (List.replicate datalen 0) datalen)).2) := by
  by_cases hc : s.sess.Usable c
  · rcases s.post_spec c chan datalen put with ⟨hno, -⟩ | ⟨fr, sess, -, hdata, h⟩
    · exact absurd hc hno
    · rw [h, sent_enqueued rfl rfl, hdata]
      exact ⟨fun hP _ => hP, fun hP => hP hc⟩
  · rw [post_of_not_usable hc]
    exact ⟨fun _ hc' => absurd hc' hc, fun _ => sent_enomem s⟩

theorem Requester.sent_request_iff {now : Int} {req : Request} :
    s.Sent (s.request c now req) P ↔ (s.sess.Usable c →
      P (req.put s.snacs.snacidNext
        (aimBstreamInit (List.replicate req.datalen 0) req.datalen)).2) := by
  by_cases hc : s.sess.Usable c
  · rcases s.request_spec c now req with ⟨hno, -⟩ | ⟨fr, sess, -, hdata, h⟩
    · exact absurd hc hno
    · rw [h, sent_enqueued rfl rfl, hdata]
      exact ⟨fun hP _ => hP, fun hP => hP hc⟩
  · rw [request_of_not_usable hc]
    exact ⟨fun _ hc' => absurd hc' hc, fun _ => sent_enomem s⟩

end Sent

/-! ## The functions -/

/-- The SNAC header in front of a request. -/
def snacFront (family subtype : UInt16) (snacid : UInt32) : List UInt8 :=
  aimutilPut16 family ++ (aimutilPut16 subtype ++ (aimutilPut16 0x0000 ++ aimutilPut32 snacid))

theorem snacFront_length (family subtype : UInt16) (snacid : UInt32) :
    (snacFront family subtype snacid).length = 10 := by
  simp [snacFront]

theorem writes_putSnac {family subtype : UInt16} {snacid : UInt32}
    {puts : List (StateM AimBstream Nat)} {v : List UInt8} {x : Nat} (h : Writes (putAll puts) v x) :
    Writes (putSnac family subtype puts snacid) (snacFront family subtype snacid ++ v) x :=
  ((writes_aimPutsnac family subtype 0x0000 snacid).bind h).of_eq (by simp [snacFront])

/-- In a fresh buffer, the rest of a SNAC is put behind its header. -/
theorem putSnac_init (family subtype : UInt16) (snacid : UInt32)
    (puts : List (StateM AimBstream Nat)) {datalen : Nat} (hroom : 10 ≤ datalen)
    (hlt : datalen < 65536) :
    ∃ bs : AimBstream, bs.offset ≤ bs.len ∧ bs.len = datalen ∧ aimBstreamEmpty bs + 10 = datalen ∧
      bs.written = snacFront family subtype snacid ∧
      (putSnac family subtype puts snacid
        (aimBstreamInit (List.replicate datalen 0) datalen)).2 = (putAll puts bs).2 := by
  let bs : AimBstream := ⟨List.replicate datalen 0, 0⟩
  have hlen : bs.len = datalen := List.length_replicate
  have hempty : aimBstreamEmpty bs = datalen := aimBstreamEmpty_replicate datalen
  have hle : bs.offset ≤ bs.len := Nat.zero_le _
  have hfront : Writes (aimPutsnac family subtype 0x0000 snacid)
      (snacFront family subtype snacid) 10 :=
    (writes_aimPutsnac family subtype 0x0000 snacid).of_eq (by simp [snacFront])
  have hfits : (snacFront family subtype snacid).length ≤ aimBstreamEmpty bs := by
    rwa [snacFront_length, hempty]
  have hleft := AimBstream.store_empty hle hfits
  rw [snacFront_length, hempty] at hleft
  refine ⟨bs.store (snacFront family subtype snacid), AimBstream.store_offset_le hle hfits,
    (AimBstream.store_len hle hfits).trans hlen, by omega, AimBstream.written_store hle, ?_⟩
  rw [aimBstreamInit_replicate hlt, putSnac, stateM_bind, hfront bs hle hfits]

section PutAll

variable {ι : Type} {puts puts' : List (StateM AimBstream Nat)} {v w : List UInt8} {x y : Nat}

theorem writes_putAll_append (h : Writes (putAll puts) v x) (h' : Writes (putAll puts') w y) :
    Writes (putAll (puts ++ puts')) (v ++ w) y := by
  have hbind : putAll (puts ++ puts') = (putAll puts >>= fun _ => putAll puts') := by
    clear h h'
    induction puts with
    | nil => rfl
    | cons put puts ih =>
      rw [List.cons_append, putAll, ih]
      rfl
  rw [hbind]
  exact h.bind h'

/-- The puts of one element after the other. -/
theorem writes_putAll_flatMap {l : List ι} {put : ι → List (StateM AimBstream Nat)}
    {bytes : ι → List UInt8} (h : ∀ a, Writes (putAll (put a)) (bytes a) 0) :
    Writes (putAll (l.flatMap put)) (l.flatMap bytes) 0 := by
  induction l with
  | nil => exact Writes.pure 0
  | cons a l ih => exact writes_putAll_append (h a) ih

end PutAll

/-- The chain comes last. -/
theorem writes_putAll_chain (tl : List AimTlv) :
    Writes (putAll [aimWritetlvchain tl]) (encodeTlvchain tl) 0 :=
  ((writes_aimWritetlvchain tl).bind (Writes.pure 0)).of_eq (List.append_nil _)

theorem appends_putSnac {family subtype : UInt16} {snacid : UInt32}
    {puts : List (StateM AimBstream Nat)} (h : ∀ put ∈ puts, Appends put) :
    Appends (putSnac family subtype puts snacid) :=
  (appends_aimPutsnac 0x0000).bind fun _ => appends_putAll h

section Requests

variable {s : Requester} {c : ConnPtr} {now : Int}

/-! ### A frame of the size of its chain -/

/-- A request of a chain of whole arguments, where the size with the header fits 16 bits. -/
theorem tlvRequest_whole_of_le {family subtype : UInt16} {tl : List AimTlv}
    {args : List (UInt16 × List UInt8)} {snacid : UInt32}
    (htl : tl.map (fun tlv => (tlv.type, tlv.value)) = args) (hsize : 10 + wholeSize args ≤ 65535) :
    ((tlvRequest family subtype tl).put snacid (aimBstreamInit
      (List.replicate (10 + aimSizetlvchain tl) 0) (10 + aimSizetlvchain tl : Nat))).2.Whole
        (snacFront family subtype snacid) args := by
  have hlen : aimSizetlvchain tl = wholeSize args := by
    rw [← encodeTlvchain_length, encodeTlvchain_length_wholeSize, htl]
  refine whole_of_writes (writes_putSnac (writes_putAll_chain tl)) htl (by omega) ?_
  rw [snacFront_length, hlen]

/-- Where the chain is no larger than its whole arguments, it holds them only if it is just as
large. -/
theorem tlvRequest_size_of_whole {family subtype : UInt16} {tl : List AimTlv}
    {args : List (UInt16 × List UInt8)} {snacid : UInt32}
    (hle : aimSizetlvchain tl ≤ wholeSize args)
    (h : ((tlvRequest family subtype tl).put snacid (aimBstreamInit
      (List.replicate (10 + aimSizetlvchain tl) 0) (10 + aimSizetlvchain tl : Nat))).2.Whole
        (snacFront family subtype snacid) args) :
    aimSizetlvchain tl = wholeSize args ∧ 10 + wholeSize args ≤ 65535 := by
  have hputs : ∀ put ∈ [aimWritetlvchain tl], Appends put := by simp
  have hsize := h.size_le (appends_putSnac hputs)
  rw [snacFront_length] at hsize
  omega

end Requests

/-! ### The arguments -/

theorem addtlvStr_eq (list : List AimTlv) (t : UInt16) (str : List UInt8) :
    addtlvStr list t str = list ++ [tlvOf (t, cstr str)] := by
  have hle : (UInt16.ofNat (strlen str)).toNat ≤ strlen str := by
    rw [UInt16.toNat_ofNat']
    exact Nat.mod_le _ _
  have htlv : createtlv t (UInt16.ofNat (strlen str)) str = tlvOf (t, cstr str) := by
    apply AimTlv.eq_of
    · rfl
    · show str.take _ = (cstr str).take _
      rw [cstr_eq_take, List.take_take, ← cstr_eq_take]
      exact congrArg (str.take ·) (Nat.min_eq_left hle).symm
  rw [addtlvStr, aimAddtlvtochainRaw, htlv]

/-- The argument of a string that is added if there is one. -/
def optArg (t : UInt16) : Option (List UInt8) → List (UInt16 × List UInt8)
  | none => []
  | some str => [(t, cstr str)]

theorem addtlvOpt_eq (list : List AimTlv) (t : UInt16) (str : Option (List UInt8)) :
    addtlvOpt list t str = list ++ (optArg t str).map tlvOf := by
  cases str with
  | none => exact (List.append_nil list).symm
  | some str => exact addtlvStr_eq list t str

def profileArgs : Option (List UInt8) → List (UInt16 × List UInt8)
  | none => []
  | some profile => [(0x0001, defencoding), (0x0002, cstr profile)]

def awayArgs : Option (List UInt8) → List (UInt16 × List UInt8)
  | none => []
  | some awaymsg =>
    if strlen awaymsg ≠ 0 then [(0x0003, defencoding), (0x0004, cstr awaymsg)] else [(0x0004, [])]

/-- All the blocks of the mask, not only those that fit the buffer. -/
def capsArgs (caps : UInt32) : List (UInt16 × List UInt8) :=
  if caps = 0 then [] else [(0x0005, capBlocks (selectedCaps caps aimCaps))]

def setprofileArgs (profile awaymsg : Option (List UInt8)) (caps : UInt32) :
    List (UInt16 × List UInt8) :=
  profileArgs profile ++ awayArgs awaymsg ++ capsArgs caps

def directoryArgs (info : DirectoryInfo) (privacy : UInt16) : List (UInt16 × List UInt8) :=
  [(0x000a, aimutilPut16 privacy)] ++ optArg 0x0001 info.first ++ optArg 0x0002 info.last ++
    optArg 0x0003 info.middle ++ optArg 0x0004 info.maiden ++ optArg 0x0007 info.state ++
    optArg 0x0008 info.city ++ optArg 0x000c info.nickname ++ optArg 0x000d info.zip ++
    optArg 0x0021 info.street

theorem cstr_defencoding : cstr defencoding = defencoding := rfl

theorem profileTlvs_eq (profile : Option (List UInt8)) :
    profileTlvs profile [] = (profileArgs profile).map tlvOf := by
  cases profile with
  | none => rfl
  | some profile =>
    rw [profileTlvs, addtlvStr_eq, addtlvStr_eq, cstr_defencoding]
    rfl

theorem awayTlvs_eq (awaymsg : Option (List UInt8)) (tl : List AimTlv) :
    awayTlvs awaymsg tl = tl ++ (awayArgs awaymsg).map tlvOf := by
  cases awaymsg with
  | none => exact (List.append_nil tl).symm
  | some awaymsg =>
    unfold awayTlvs awayArgs
    dsimp only
    by_cases hlen : strlen awaymsg ≠ 0
    · rw [if_pos hlen, if_pos hlen, addtlvStr_eq, addtlvStr_eq, cstr_defencoding,
        List.append_assoc]
      rfl
    · rw [if_neg hlen, if_neg hlen]
      rfl

theorem directoryTlvs_eq (info : DirectoryInfo) (privacy : UInt16) :
    directoryTlvs info privacy = (directoryArgs info privacy).map tlvOf := by
  simp only [directoryTlvs, addtlvOpt_eq, directoryArgs, List.map_append]
  rfl

/-! ### The capabilities -/

/-- What `aim_addtlvtochain_caps` adds. -/
def capsChain (caps : UInt32) : List AimTlv := (aimAddtlvtochainCaps [] 0x0005 caps).2

theorem aimAddtlvtochainCaps_append (tl : List AimTlv) (caps : UInt32) :
    (aimAddtlvtochainCaps tl 0x0005 caps).2 = tl ++ capsChain caps := by
  unfold capsChain
  by_cases hcaps : caps = 0
  · rw [aimAddtlvtochainCaps, if_pos hcaps, aimAddtlvtochainCaps, if_pos hcaps, List.append_nil]
  · rw [aimAddtlvtochainCaps_eq 0x0005 hcaps, aimAddtlvtochainCaps_eq 0x0005 hcaps, List.nil_append]

theorem selectedCaps_zero : selectedCaps 0 aimCaps = [] := by
  simp [selectedCaps]

theorem selectedCaps_blocks_length (caps : UInt32) :
    (capBlocks (selectedCaps caps aimCaps)).length = 16 * (selectedCaps caps aimCaps).length :=
  capBlocks_length fun c hc => aimCaps_data_length c (List.mem_of_mem_filter hc)

theorem aimSizetlvchain_capsChain (caps : UInt32) :
    aimSizetlvchain (capsChain caps) + 16 * ((selectedCaps caps aimCaps).length - 16) =
      wholeSize (capsArgs caps) := by
  by_cases hcaps : caps = 0
  · rw [hcaps, selectedCaps_zero]
    rfl
  · have hchain : capsChain caps = [{ capsTlv caps with type := 0x0005 }] :=
      aimAddtlvtochainCaps_eq 0x0005 hcaps
    have hwritten : (writtenCaps caps).length = min 16 (selectedCaps caps aimCaps).length :=
      List.length_take
    rw [hchain, capsArgs, if_neg hcaps, wholeSize_cons, selectedCaps_blocks_length, wholeSize_nil,
      ← encodeTlvchain_length, encodeTlvchain_cons, List.length_append, AimTlv.encode_length]
    show 4 + (capBlocks (writtenCaps caps)).length + 0 + _ = _
    rw [capBlocks_writtenCaps_length, hwritten]
    omega

/-- Sixteen blocks fit the buffer. -/
theorem map_capsChain {caps : UInt32} (h : (selectedCaps caps aimCaps).length ≤ 16) :
    (capsChain caps).map (fun tlv => (tlv.type, tlv.value)) = capsArgs caps := by
  unfold capsArgs
  by_cases hcaps : caps = 0
  · rw [if_pos hcaps, hcaps]
    rfl
  · have hchain : capsChain caps = [{ capsTlv caps with type := 0x0005 }] :=
      aimAddtlvtochainCaps_eq 0x0005 hcaps
    have hwritten : writtenCaps caps = selectedCaps caps aimCaps := List.take_of_length_le h
    rw [if_neg hcaps, hchain, ← hwritten]
    rfl

theorem setprofileTlvs_eq (profile awaymsg : Option (List UInt8)) (caps : UInt32) :
    setprofileTlvs profile awaymsg caps =
      (profileArgs profile ++ awayArgs awaymsg).map tlvOf ++ capsChain caps := by
  rw [setprofileTlvs, aimAddtlvtochainCaps_append, awayTlvs_eq, profileTlvs_eq, List.map_append]

/-! ### The login -/

section Login

variable (md5 : List UInt8 → Fin 16 → UInt8) (ci : ClientInfo) (sn password key : List UInt8)

def loginArgs : List (UInt16 × List UInt8) :=
  [(0x0001, cstr sn), (0x0025, aimEncodePasswordMd5 md5 password key)] ++
    optArg 0x0003 ci.clientstring ++
    [(0x0016, aimutilPut16 ci.clientid), (0x0017, aimutilPut16 (UInt16.ofInt ci.major)),
      (0x0018, aimutilPut16 (UInt16.ofInt ci.minor)), (0x0019, aimutilPut16 (UInt16.ofInt ci.point)),
      (0x001a, aimutilPut16 (UInt16.ofInt ci.build)), (0x000e, cstr ci.country),
      (0x000f, cstr ci.lang)]

def icqLoginArgs : List (UInt16 × List UInt8) :=
  [(0x0001, cstr sn), (0x0002, aimEncodePassword password), (0x0003, icqClientstr),
    (0x0016, aimutilPut16 0x010a), (0x0017, aimutilPut16 0x0004), (0x0018, aimutilPut16 0x0041),
    (0x0019, aimutilPut16 0x0001), (0x001a, aimutilPut16 0x0cd1), (0x0014, aimutilPut32 0x00000055),
    (0x000f, [0x65, 0x6e]), (0x000e, [0x75, 0x73])]

theorem loginTlvs_eq :
    loginTlvs md5 ci sn password key = (loginArgs md5 ci sn password key).map tlvOf := by
  have hdigest : createtlv 0x0025 16 (aimEncodePasswordMd5 md5 password key) =
      tlvOf (0x0025, aimEncodePasswordMd5 md5 password key) := by
    rw [tlvOf, aimEncodePasswordMd5, List.length_ofFn]
    rfl
  simp only [loginTlvs, addtlvStr_eq, addtlvOpt_eq, aimAddtlvtochainRaw, hdigest, loginArgs,
    List.map_append, aimAddtlvtochain16, List.append_assoc]
  rfl

theorem icqLoginTlvs_eq : icqLoginTlvs sn password = (icqLoginArgs sn password).map tlvOf := by
  have hpassword : createtlv 0x0002 (UInt16.ofNat (strlen password)) (aimEncodePassword password) =
      tlvOf (0x0002, aimEncodePassword password) := by
    rw [tlvOf, aimEncodePassword, List.length_mapIdx]
    rfl
  have hclient : cstr icqClientstr = icqClientstr := rfl
  simp only [icqLoginTlvs, addtlvStr_eq, aimAddtlvtochainRaw, hpassword, hclient, icqLoginArgs,
    aimAddtlvtochain16, aimAddtlvtochain32, List.append_assoc]
  rfl

end Login

/-! ### The rooms -/

def createroomArgs (name : List UInt8) : List (UInt16 × List UInt8) :=
  [(0x00d3, cstr name), (0x00d6, createCharset), (0x00d7, createLang)]

/-- The fields between the SNAC header of `aim_chatnav_createroom` and its chain. -/
def createroomFront (exchange : UInt16) : List UInt8 :=
  aimutilPut16 exchange ++ (aimutilPut8 6 ++ (createCk ++ (aimutilPut16 0xffff ++
    (aimutilPut8 0x01 ++ aimutilPut16 3))))

/-- A room as the value of a TLV, with the length of its name. -/
def RoomValue (exchange : UInt16) (roomname : List UInt8) (instance_ : UInt16)
    (value : List UInt8) : Prop :=
  ∃ len : UInt8, len.toNat = strlen roomname ∧
    value = aimutilPut16 exchange ++ (aimutilPut8 len ++ (cstr roomname ++ aimutilPut16 instance_))

theorem writes_chatJoin (tlvs : List AimTlv) (snacid : UInt32) :
    Writes (putSnac 0x0001 0x0004 [aimbsPut16 0x000e, aimWritetlvchain tlvs] snacid)
      ((snacFront 0x0001 0x0004 snacid ++ aimutilPut16 0x000e) ++ encodeTlvchain tlvs) 0 := by
  have hputs : Writes (putAll [aimbsPut16 0x000e, aimWritetlvchain tlvs])
      (aimutilPut16 0x000e ++ encodeTlvchain tlvs) 0 :=
    (writes_aimbsPut16 _).bind (writes_putAll_chain tlvs)
  exact (writes_putSnac hputs).of_eq (List.append_assoc _ _ _).symm

theorem createroomTlvs_eq (name : List UInt8) :
    createroomTlvs name = (createroomArgs name).map tlvOf := by
  have hcharset : cstr createCharset = createCharset := rfl
  have hlang : cstr createLang = createLang := rfl
  simp only [createroomTlvs, addtlvStr_eq, hcharset, hlang]
  rfl

theorem writes_createroom (exchange : UInt16) (tlvs : List AimTlv) (hcount : tlvs.length = 3)
    (snacid : UInt32) :
    Writes (putSnac 0x000d 0x0008 (createroomFields exchange (aimCounttlvchain tlvs) ++
        [aimWritetlvchain tlvs]) snacid)
      ((snacFront 0x000d 0x0008 snacid ++ createroomFront exchange) ++ encodeTlvchain tlvs) 0 := by
  have hck : UInt8.ofNat (strlen createCk) = 6 := rfl
  have hname : Writes (aimbsPutraw createCk (strlen createCk)) createCk (strlen createCk) :=
    writes_aimbsPutrawCstr createCk
  have hputs : Writes (putAll (createroomFields exchange (aimCounttlvchain tlvs) ++
      [aimWritetlvchain tlvs])) (createroomFront exchange ++ encodeTlvchain tlvs) 0 := by
    rw [createroomFields, aimCounttlvchain, hcount, putStr8, hck]
    exact ((writes_aimbsPut16 _).bind <| (writes_aimbsPut8 _).bind <| hname.bind <|
      (writes_aimbsPut16 _).bind <| (writes_aimbsPut8 _).bind <| (writes_aimbsPut16 _).bind <|
      writes_putAll_chain tlvs).of_eq (by simp [createroomFront])
  exact (writes_putSnac hputs).of_eq (List.append_assoc _ _ _).symm

/-! ### What is sent -/

section Sent

variable {s : Requester} {c : ConnPtr} {now : Int}

theorem bosSetprofile_whole_iff (profile awaymsg : Option (List UInt8)) (caps : UInt32) :
    s.Sent (s.make c now (.bosSetprofile profile awaymsg caps))
        (AimBstream.Whole (snacFront 0x0002 0x0004 s.snacs.snacidNext)
          (setprofileArgs profile awaymsg caps)) ↔
      (s.sess.Usable c → 10 + wholeSize (setprofileArgs profile awaymsg caps) ≤ 65535 ∧
        (selectedCaps caps aimCaps).length ≤ 16) := by
  have hcaps := aimSizetlvchain_capsChain caps
  have hstrings := aimSizetlvchain_tlvOf_le (profileArgs profile ++ awayArgs awaymsg)
  have hsize : aimSizetlvchain (setprofileTlvs profile awaymsg caps) =
      aimSizetlvchain ((profileArgs profile ++ awayArgs awaymsg).map tlvOf) +
        aimSizetlvchain (capsChain caps) := by
    rw [setprofileTlvs_eq, ← encodeTlvchain_length, encodeTlvchain_append, List.length_append,
      encodeTlvchain_length, encodeTlvchain_length]
  have hwhole : wholeSize (setprofileArgs profile awaymsg caps) =
      wholeSize (profileArgs profile ++ awayArgs awaymsg) + wholeSize (capsArgs caps) :=
    wholeSize_append _ _
  refine Requester.sent_request_iff.trans (imp_congr_right fun _ => ⟨fun h => ?_, fun h => ?_⟩)
  · obtain ⟨heq, hle⟩ := tlvRequest_size_of_whole (by omega) h
    exact ⟨hle, by omega⟩
  · refine tlvRequest_whole_of_le ?_ h.1
    rw [setprofileTlvs_eq, List.map_append, map_tlvOf_of_wholeSize (by omega), map_capsChain h.2]
    rfl

theorem setdirectoryinfo_whole_iff (info : DirectoryInfo) (privacy : UInt16) :
    s.Sent (s.make c now (.setdirectoryinfo info privacy))
        (AimBstream.Whole (snacFront 0x0002 0x0009 s.snacs.snacidNext) (directoryArgs info privacy)) ↔
      (s.sess.Usable c → 10 + wholeSize (directoryArgs info privacy) ≤ 65535) := by
  have htl := directoryTlvs_eq info privacy
  have hle := aimSizetlvchain_tlvOf_le (directoryArgs info privacy)
  rw [← htl] at hle
  refine Requester.sent_request_iff.trans (imp_congr_right fun _ => ⟨fun h => ?_, fun h => ?_⟩)
  · exact (tlvRequest_size_of_whole hle h).2
  · refine tlvRequest_whole_of_le ?_ h
    rw [htl, map_tlvOf_of_wholeSize (by omega)]

theorem sendLogin_whole_iff (md5 : List UInt8 → Fin 16 → UInt8) (ci : ClientInfo)
    (sn password key : List UInt8) (hxor : ¬ s.Xorlogin) :
    s.Sent (aimSendLogin md5 c now (some sn) (some password) (some ci) key s)
        (AimBstream.Whole (snacFront 0x0017 0x0002 s.snacs.snacidNext)
          (loginArgs md5 ci sn password key)) ↔
      (s.sess.Usable c → 10 + wholeSize (loginArgs md5 ci sn password key) ≤ 1152) := by
  have hsend : aimSendLogin md5 c now (some sn) (some password) (some ci) key s =
      s.request c now (sendLoginRequest md5 ci sn password key) := if_neg hxor
  have hputs : ∀ put ∈ [aimWritetlvchain (loginTlvs md5 ci sn password key)], Appends put := by simp
  have hwrites : Writes (putSnac 0x0017 0x0002
      [aimWritetlvchain (loginTlvs md5 ci sn password key)] s.snacs.snacidNext)
      (snacFront 0x0017 0x0002 s.snacs.snacidNext ++
        encodeTlvchain ((loginArgs md5 ci sn password key).map tlvOf)) 0 := by
    rw [← loginTlvs_eq]
    exact writes_putSnac (writes_putAll_chain _)
  have h := whole_iff_of_writes (appends_putSnac hputs) hwrites (by decide : 1152 < 65536)
  rw [snacFront_length] at h
  rw [hsend]
  exact Requester.sent_request_iff.trans (imp_congr_right fun _ => h)

theorem sendLogin_icq_whole_iff (md5 : List UInt8 → Fin 16 → UInt8) (ci : ClientInfo)
    (sn password key : List UInt8) (hxor : s.Xorlogin) :
    s.Sent (aimSendLogin md5 c now (some sn) (some password) (some ci) key s)
        (AimBstream.Whole (aimutilPut32 0x00000001) (icqLoginArgs sn password)) ↔
      (s.sess.Usable c → 4 + wholeSize (icqLoginArgs sn password) ≤ 1152) := by
  have hsend : aimSendLogin md5 c now (some sn) (some password) (some ci) key s =
      goddamnicq2 c sn password s := if_pos hxor
  have happ : Appends (putIcqLogin sn password) :=
    (appends_aimbsPut32 _).bind fun _ => appends_aimWritetlvchain _
  have hwrites : Writes (putIcqLogin sn password) (aimutilPut32 0x00000001 ++
      encodeTlvchain ((icqLoginArgs sn password).map tlvOf)) 1 := by
    rw [← icqLoginTlvs_eq]
    exact (writes_aimbsPut32 _).bind (writes_aimWritetlvchain _)
  have h := whole_iff_of_writes happ hwrites (by decide : 1152 < 65536)
  rw [aimutilPut32_length] at h
  rw [hsend]
  exact Requester.sent_post_iff.trans (imp_congr_right fun _ => h)

theorem make_chatJoin (exchange : UInt16) (roomname : List UInt8) (instance_ : UInt16) :
    s.make c now (.chatJoin exchange (some roomname) instance_) =
      if c = 0 ∨ strlen roomname = 0 then (-einval, s)
      else s.request c now (chatJoinRequest exchange roomname instance_) := by
  rw [Requester.make, RequestCall.request, aimChatJoin, needConn, needStr, needArg]
  by_cases hc : c = 0
  · rw [if_pos hc, if_pos (.inl hc)]
  · by_cases hempty : strlen roomname = 0
    · rw [if_neg hc, if_pos hempty, if_pos (.inr hempty)]
    · rw [if_neg hc, if_neg hempty, if_neg (not_or.mpr ⟨hc, hempty⟩)]

theorem chatJoin_whole_iff (exchange : UInt16) (roomname : List UInt8) (instance_ : UInt16) :
    s.Sent (s.make c now (.chatJoin exchange (some roomname) instance_))
        (fun bs => ∃ value, RoomValue exchange roomname instance_ value ∧
          bs.Whole (snacFront 0x0001 0x0004 s.snacs.snacidNext ++ aimutilPut16 0x000e)
            [(0x0001, value)]) ↔
      (s.sess.Usable c → strlen roomname ≤ 255) := by
  rw [make_chatJoin]
  by_cases hinval : c = 0 ∨ strlen roomname = 0
  · rw [if_pos hinval]
    refine ⟨fun _ husable => ?_, fun _ => s.sent_einval s⟩
    rcases hinval with hc | hempty
    · exact absurd hc husable.1
    · omega
  rw [if_neg hinval]
  refine Requester.sent_request_iff.trans (imp_congr_right fun _ => ⟨?_, fun hle => ?_⟩)
  · rintro ⟨value, ⟨len, hlen, -⟩, -⟩
    have := len.toNat_lt
    omega
  · refine ⟨chatroomData exchange roomname instance_, ⟨UInt8.ofNat (strlen roomname), ?_, rfl⟩, ?_⟩
    · rw [UInt8.toNat_ofNat', Nat.mod_eq_of_lt (by omega)]
    · have hdata := @chatroomData_length exchange instance_ roomname
      have htl : chatJoinTlvs exchange roomname instance_ =
          [(0x0001, chatroomData exchange roomname instance_)].map tlvOf :=
        aimAddtlvtochainChatroom_eq [] 0x0001 (by omega)
      have hsize : wholeSize [(0x0001, chatroomData exchange roomname instance_)] =
          strlen roomname + 9 := by
        rw [wholeSize_cons, wholeSize_nil, hdata]
        omega
      have hwrites := writes_chatJoin (chatJoinTlvs exchange roomname instance_) s.snacs.snacidNext
      refine whole_of_writes hwrites ?_ (by decide : 512 < 65536) ?_
      · rw [htl, map_tlvOf_of_wholeSize (by omega)]
      · rw [List.length_append, snacFront_length, aimutilPut16_length, hsize]
        show _ ≤ 512
        omega

theorem chatnavCreateroom_whole_iff (name : List UInt8) (exchange : UInt16) :
    s.Sent (s.make c now (.chatnavCreateroom name exchange))
        (AimBstream.Whole (snacFront 0x000d 0x0008 s.snacs.snacidNext ++ createroomFront exchange)
          (createroomArgs name)) ↔
      (s.sess.Usable c → strlen name ≤ 1106) := by
  refine Requester.sent_request_iff.trans (imp_congr_right fun _ => ?_)
  have hlen : (cstr name).length = strlen name := rfl
  have hfront : (snacFront 0x000d 0x0008 s.snacs.snacidNext ++ createroomFront exchange).length = 24
      := by simp [snacFront_length, createroomFront, createCk]
  have hsize : wholeSize (createroomArgs name) = strlen name + 22 := by
    simp only [createroomArgs, wholeSize_cons, wholeSize_nil, hlen, createCharset, createLang,
      List.length_cons, List.length_nil]
    omega
  have hputs : ∀ put ∈ createroomFields exchange (aimCounttlvchain (createroomTlvs name)) ++
      [aimWritetlvchain (createroomTlvs name)], Appends put := by simp [createroomFields, putStr8]
  have hcount : (createroomTlvs name).length = 3 := by rw [createroomTlvs_eq]; rfl
  have hwrites := writes_createroom exchange (createroomTlvs name) hcount s.snacs.snacidNext
  rw [createroomTlvs_eq] at hputs hwrites
  have h := whole_iff_of_writes (appends_putSnac hputs) hwrites (by decide : 1152 < 65536)
  rw [hfront, hsize] at h
  rw [← createroomTlvs_eq] at h
  exact h.trans (by omega)

end Sent

/-- Which arguments the functions send whole when they return 0: those of `aim_bos_setprofile` and
`aim_setdirectoryinfo` whose frame has a size of 16 bits, with a mask of at most sixteen
capabilities; those of the login that fit 1152 bytes; a room to join with a name of at most 255
bytes, whose length is in one byte; and a room to create with a name of at most 1106. -/
theorem requests_whole_iff (s : Requester) (c : ConnPtr) (now : Int) :
    (∀ profile awaymsg caps, s.Sent (s.make c now (.bosSetprofile profile awaymsg caps))
        (AimBstream.Whole (snacFront 0x0002 0x0004 s.snacs.snacidNext)
          (setprofileArgs profile awaymsg caps)) ↔
      (s.sess.Usable c → 10 + wholeSize (setprofileArgs profile awaymsg caps) ≤ 65535 ∧
        (selectedCaps caps aimCaps).length ≤ 16)) ∧
    (∀ info privacy, s.Sent (s.make c now (.setdirectoryinfo info privacy))
        (AimBstream.Whole (snacFront 0x0002 0x0009 s.snacs.snacidNext)
          (directoryArgs info privacy)) ↔
      (s.sess.Usable c → 10 + wholeSize (directoryArgs info privacy) ≤ 65535)) ∧
    (∀ md5 sn password ci key,
      s.Sent (aimSendLogin md5 c now (some sn) (some password) (some ci) key s)
        (fun bs => if s.Xorlogin then bs.Whole (aimutilPut32 0x00000001) (icqLoginArgs sn password)
          else bs.Whole (snacFront 0x0017 0x0002 s.snacs.snacidNext)
            (loginArgs md5 ci sn password key)) ↔
      (s.sess.Usable c → if s.Xorlogin then 4 + wholeSize (icqLoginArgs sn password) ≤ 1152
        else 10 + wholeSize (loginArgs md5 ci sn password key) ≤ 1152)) ∧
    (∀ exchange roomname instance_,
      s.Sent (s.make c now (.chatJoin exchange (some roomname) instance_))
        (fun bs => ∃ value, RoomValue exchange roomname instance_ value ∧
          bs.Whole (snacFront 0x0001 0x0004 s.snacs.snacidNext ++ aimutilPut16 0x000e)
            [(0x0001, value)]) ↔
      (s.sess.Usable c → strlen roomname ≤ 255)) ∧
    (∀ name exchange, s.Sent (s.make c now (.chatnavCreateroom name exchange))
        (AimBstream.Whole (snacFront 0x000d 0x0008 s.snacs.snacidNext ++ createroomFront exchange)
          (createroomArgs name)) ↔
      (s.sess.Usable c → strlen name ≤ 1106)) := by
  refine ⟨bosSetprofile_whole_iff, setdirectoryinfo_whole_iff, fun md5 sn password ci key => ?_,
    chatJoin_whole_iff, chatnavCreateroom_whole_iff⟩
  by_cases hxor : s.Xorlogin
  · simp only [if_pos hxor]
    exact sendLogin_icq_whole_iff md5 ci sn password key hxor
  · simp only [if_neg hxor]
    exact sendLogin_whole_iff md5 ci sn password key hxor

/-- A room with a name of 1107 bytes is created with no chain at all. -/
theorem not_chatnavCreateroom_whole :
    let name := List.replicate 1107 0x72
    (authRequester.make 1 0 (.chatnavCreateroom name 0x0004)).1 = 0 ∧
    ¬ ∃ fr, (authRequester.make 1 0 (.chatnavCreateroom name 0x0004)).2.passed =
        authRequester.passed ++ [fr] ∧
      fr.data.Whole (snacFront 0x000d 0x0008 authRequester.snacs.snacidNext ++
        createroomFront 0x0004) (createroomArgs name) := by
  intro name
  have husable : authRequester.sess.Usable 1 := ⟨by decide, by decide⟩
  refine ⟨rfl, fun h => ?_⟩
  have hle := (chatnavCreateroom_whole_iff name 0x0004).mp (fun _ => h) husable
  rw [strlen_replicate] at hle
  omega

end Libfaim
