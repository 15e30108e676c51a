import Libfaim.Im.Rendezvous
import Libfaim.Tlv.RoundTrip

/-!
# The block of a rendezvous message

The type 5 TLV of a message on channel 2 holds a status, the cookie, one capability and a chain of
TLVs (`RendBlock`). `incomingim_ch2` takes exactly these out of it, and the service data from the
chain (`incomingimCh2_rendBlock`).

Every length in front of such a part counts the bytes that follow it: `AimTlv.encode` for TLVs,
`counted16` and `counted32` for the little-endian lengths of the service data.
-/

namespace Libfaim

/-! ## Lengths in front of what they count -/

def counted16 (v : List UInt8) : List UInt8 := aimutilPutle16 (UInt16.ofNat v.length) ++ v

def counted32 (v : List UInt8) : List UInt8 := aimutilPutle32 (UInt32.ofNat v.length) ++ v

/-! ## The block -/

/-- What is in the block of a rendezvous message. -/
structure RendBlock where
  status : UInt16
  cookie : List UInt8
  cap : AimCap
  list2 : List AimTlv
  cookie_length : cookie.length = 8
  cap_mem : cap ∈ aimCaps

namespace RendBlock

def encode (b : RendBlock) : List UInt8 :=
  aimutilPut16 b.status ++ (b.cookie ++ (b.cap.data ++ encodeTlvchain b.list2))

theorem encode_length (b : RendBlock) :
    b.encode.length = 26 + (encodeTlvchain b.list2).length := by
  have hcap := aimCaps_data_length b.cap b.cap_mem
  simp only [encode, List.length_append, aimutilPut16_length, b.cookie_length, hcap]
  omega

/-- The arguments for the client, before the service data is looked at. No addresses are sent. -/
def args (b : RendBlock) : AimIncomingimCh2Args where
  cookie := b.cookie
  reqclass := b.cap.flag.toUInt16
  status := b.status
  errorcode := aimGettlv16 b.list2.reverse 0x000b 1
  clientip := none
  clientip2 := none
  verifiedip := none
  port := aimGettlv16 b.list2.reverse 0x0005 1
  msg := aimGettlvStr b.list2.reverse 0x000c 1
  encoding := aimGettlvStr b.list2.reverse 0x000d 1
  language := aimGettlvStr b.list2.reverse 0x000e 1
  info := .none

end RendBlock

theorem tlvIp_of_none {list : List AimTlv} {t : UInt16} (h : aimGettlv list t 1 = none) :
    tlvIp list t = some none := by
  rw [tlvIp, h]

theorem decodes_aimGetcap_one {cap : AimCap} (h : cap ∈ aimCaps) :
    Decodes (aimGetcap 0x10) cap.data cap.flag := by
  have hone : ∀ c ∈ [cap], c ∈ aimCaps := by
    intro c hc
    rw [List.mem_singleton.mp hc]
    exact h
  have hdec := decodes_aimGetcap hone
  have hblocks : capBlocks [cap] = cap.data := by simp [capBlocks]
  have hflags : Mask.orFlags ([cap].map (·.flag)) = cap.flag := by simp [Mask.orFlags]
  rw [hblocks, hflags, aimCaps_data_length cap h] at hdec
  exact hdec

/-- A block without addresses is taken apart into what was put into it. -/
theorem incomingimCh2_rendBlock {tlvlist : List AimTlv} {block1 : AimTlv} (b : RendBlock)
    (hblock1 : aimGettlv tlvlist 0x0005 1 = some block1) (hvalue : block1.value = b.encode)
    (hip : ∀ tlv ∈ b.list2, tlv.type ≠ 0x0002 ∧ tlv.type ≠ 0x0003 ∧ tlv.type ≠ 0x0004) :
    incomingimCh2 tlvlist = incomingimCh2Servdata b.args
      ((aimGettlv b.list2.reverse 0x2711 1).map fun tlv => ⟨tlv.value, 0⟩) := by
  have hnone : ∀ t, (∀ tlv ∈ b.list2, tlv.type ≠ t) → tlvIp b.list2.reverse t = some none := by
    intro t ht
    apply tlvIp_of_none
    rw [aimGettlv_one, List.find?_eq_none]
    intro tlv htlv
    simpa using ht tlv (List.mem_reverse.mp htlv)
  have hrest : (⟨block1.value, 0⟩ : AimBstream).rest = b.encode := by
    rw [hvalue]
    rfl
  have hstatus := reads_aimbsGet16 b.status _ _ hrest
  have hrest1 := AimBstream.rest_skip_of_append _ hrest
  have hcookie := reads_aimbsGetraw b.cookie_length _ _ hrest1
  have hrest2 := AimBstream.rest_skip_of_append _ hrest1
  have hcap := decodes_aimGetcap_one b.cap_mem _ _ hrest2
  have hrest3 := AimBstream.rest_skip_of_append _ hrest2
  have hchain := aimReadtlvchain_encode b.list2 hrest3
  unfold incomingimCh2
  simp only [hblock1, aimBstreamInit_value, Option.bind_eq_bind, Option.bind_some, hstatus, hcookie,
    hcap, hchain, hnone 0x0002 fun tlv h => (hip tlv h).1, hnone 0x0003 fun tlv h => (hip tlv h).2.1,
    hnone 0x0004 fun tlv h => (hip tlv h).2.2]
  rfl

/-! ## Writing a block -/

section Writing

variable {sn ck : List UInt8} {snacid : UInt32}

/-- Everything up to the destination screen name. -/
def rendHead (sn : List UInt8) (snacid : UInt32) (ck : List UInt8) : List UInt8 :=
  (aimutilPut16 0x0004 ++ (aimutilPut16 0x0006 ++ (aimutilPut16 0x0000 ++
    (aimutilPut32 snacid ++ [])))) ++ (ck ++ (aimutilPut16 0x0002 ++
      aimutilPut8 (UInt8.ofNat (strlen sn))))

theorem rendHead_length (hck : ck.length = 8) : (rendHead sn snacid ck).length = 21 := by
  simp only [rendHead, List.length_append, aimutilPut8_length, aimutilPut16_length,
    aimutilPut32_length, hck, List.length_nil]

theorem rendHead_cookie (hck : ck.length = 8) (r : List UInt8) :
    ((rendHead sn snacid ck ++ r).drop 10).take 8 = ck := by
  rw [rendHead, List.append_assoc, List.drop_left' (by simp), List.append_assoc, List.take_left' hck]

theorem writes_aimbsPutrawCstr (s : List UInt8) :
    Writes (aimbsPutraw s (strlen s)) (cstr s) (strlen s) := by
  rw [cstr_eq_take]
  exact writes_aimbsPut _ _

theorem writes_putRendhead (hck : ck.length = 8) :
    Writes (putRendhead sn snacid ck) (rendHead sn snacid ck ++ cstr sn) (strlen sn) := by
  have hall : Writes (putRendhead sn snacid ck) ((aimutilPut16 0x0004 ++ (aimutilPut16 0x0006 ++
      (aimutilPut16 0x0000 ++ (aimutilPut32 snacid ++ [])))) ++ (ck ++ (aimutilPut16 0x0002 ++
        (aimutilPut8 (UInt8.ofNat (strlen sn)) ++ cstr sn)))) (strlen sn) :=
    (writes_aimPutsnac _ _ _ _).bind ((writes_aimbsPutraw hck).bind ((writes_aimbsPut16 _).bind
      ((writes_aimbsPut8 _).bind (writes_aimbsPutrawCstr sn))))
  exact hall.of_eq (by simp only [rendHead, List.append_assoc])

/-- A single capability is written as its sixteen bytes. -/
theorem writes_aimPutcap_one {caps : UInt32} {cap : AimCap}
    (h : selectedCaps caps aimCaps = [cap]) : Writes (aimPutcap caps) cap.data () := by
  have hput := writes_aimPutcapLoop caps aimCaps_data_length
  rw [h] at hput
  exact hput.of_eq (by simp [capBlocks])

/-- The TLV that says what is asked for, and the empty one behind it. -/
def reqTlv : AimTlv := createtlv 0x000a 2 (aimutilPut16 0x0001)

def extTlv : AimTlv := createtlv 0x000f 0 []

theorem encode_reqTlv :
    reqTlv.encode = aimutilPut16 0x000a ++ (aimutilPut16 0x0002 ++ aimutilPut16 0x0001) := rfl

theorem encode_extTlv : extTlv.encode = aimutilPut16 0x000f ++ aimutilPut16 0x0000 := rfl

/-- The TLV around a block. -/
def blockTlv (b : RendBlock) : AimTlv :=
  createtlv 0x0005 (UInt16.ofNat b.encode.length) b.encode

theorem blockTlv_value {b : RendBlock} (h : b.encode.length < 65536) :
    (blockTlv b).value = b.encode :=
  createtlv_value_of_lt h

theorem encode_blockTlv {b : RendBlock} (h : b.encode.length < 65536) :
    (blockTlv b).encode =
      aimutilPut16 0x0005 ++ (aimutilPut16 (UInt16.ofNat b.encode.length) ++ b.encode) :=
  encode_createtlv_of_lt h

/-- The front of the block, as it is written by hand, a last TLV with the service data, and what
comes behind the block. -/
theorem writes_putRendblock {b : RendBlock} {len : UInt16} {caps : UInt32} {serv : AimTlv}
    {m : StateM AimBstream Nat} {w : List UInt8} {x : Nat} (hstatus : b.status = 0)
    (hlist : b.list2 = [reqTlv, extTlv, serv]) (hcap : selectedCaps caps aimCaps = [b.cap])
    (hlen : len = UInt16.ofNat b.encode.length) (hb : b.encode.length < 65536)
    (hm : Writes m (serv.encode ++ w) x) :
    Writes (do let _ ← putRendblock len b.cookie caps; m) ((blockTlv b).encode ++ w) x := by
  have hfront : Writes (putRendblock len b.cookie caps) (aimutilPut16 0x0005 ++
      (aimutilPut16 len ++ (aimutilPut16 0x0000 ++ (b.cookie ++ (b.cap.data ++
        (aimutilPut16 0x000a ++ (aimutilPut16 0x0002 ++ (aimutilPut16 0x0001 ++
          (aimutilPut16 0x000f ++ aimutilPut16 0x0000))))))))) 2 :=
    (writes_aimbsPut16 _).bind ((writes_aimbsPut16 _).bind ((writes_aimbsPut16 _).bind
      ((writes_aimbsPutraw b.cookie_length).bind ((writes_aimPutcap_one hcap).bind
        ((writes_aimbsPut16 _).bind ((writes_aimbsPut16 _).bind ((writes_aimbsPut16 _).bind
          ((writes_aimbsPut16 _).bind (writes_aimbsPut16 _)))))))))
  refine (hfront.bind hm).of_eq ?_
  rw [encode_blockTlv hb, ← hlen]
  simp only [RendBlock.encode, hstatus, hlist, encodeTlvchain_cons, encodeTlvchain_nil,
    encode_reqTlv, encode_extTlv, List.append_assoc, List.append_nil]

end Writing

/-- The TLV with the service data. -/
def servTlv (servdata : List UInt8) : AimTlv :=
  createtlv 0x2711 (UInt16.ofNat servdata.length) servdata

theorem servTlv_value {servdata : List UInt8} (h : servdata.length < 65536) :
    (servTlv servdata).value = servdata :=
  createtlv_value_of_lt h

theorem encode_servTlv {servdata : List UInt8} (h : servdata.length < 65536) :
    (servTlv servdata).encode =
      aimutilPut16 0x2711 ++ (aimutilPut16 (UInt16.ofNat servdata.length) ++ servdata) :=
  encode_createtlv_of_lt h

/-- None of the addresses that `incomingim_ch2` looks for. -/
def NoIp (tlv : AimTlv) : Prop := tlv.type ≠ 0x0002 ∧ tlv.type ≠ 0x0003 ∧ tlv.type ≠ 0x0004

theorem noIp_servTlv (servdata : List UInt8) : NoIp (servTlv servdata) :=
  (by decide : (0x2711 : UInt16) ≠ 2 ∧ (0x2711 : UInt16) ≠ 3 ∧ (0x2711 : UInt16) ≠ 4)

/-- The two TLVs in front of a list are no addresses either. -/
theorem noIp_rendlist {list : List AimTlv} (h : ∀ tlv ∈ list, NoIp tlv) :
    ∀ tlv ∈ reqTlv :: extTlv :: list, NoIp tlv := by
  have hreq : NoIp reqTlv :=
    (by decide : (0x000a : UInt16) ≠ 2 ∧ (0x000a : UInt16) ≠ 3 ∧ (0x000a : UInt16) ≠ 4)
  have hext : NoIp extTlv :=
    (by decide : (0x000f : UInt16) ≠ 2 ∧ (0x000f : UInt16) ≠ 3 ∧ (0x000f : UInt16) ≠ 4)
  exact List.forall_mem_cons.mpr ⟨hreq, List.forall_mem_cons.mpr ⟨hext, h⟩⟩

/-! ## The frame -/

/-- The table's entry for a capability. -/
def tableCap (flag : UInt32) : AimCap := (aimCaps.find? fun cap => cap.flag = flag).getD ⟨0, []⟩

/-- The cookie of a message. -/
def randCookie (rand : Nat → UInt8) : List UInt8 := (List.range 8).map rand

theorem randCookie_length {rand : Nat → UInt8} : (randCookie rand).length = 8 := by
  rw [randCookie, List.length_map, List.length_range]

/-- What the receiver finds in a frame: the cookie, and behind the destination screen name the block
and nothing else but the TLVs `extra`. -/
structure CarriesBlock (fr : AimFrame) (sn : List UInt8) (b : RendBlock) (extra : List AimTlv) :
    Prop where
  cookie : (fr.data.written.drop 10).take 8 = b.cookie
  region : fr.data.written.drop (21 + strlen sn) = encodeTlvchain (blockTlv b :: extra)
  value : (blockTlv b).value = b.encode

/-- A frame with room for everything that is put into it. -/
theorem Writes.carriesBlock {α : Type} {m : StateM AimBstream α} {x : α} {n : Nat} {fr : AimFrame}
    {sn : List UInt8} {snacid : UInt32} {b : RendBlock} {extra : List AimTlv}
    (hm : Writes m ((rendHead sn snacid b.cookie ++ cstr sn) ++
      encodeTlvchain (blockTlv b :: extra)) x)
    (hb : b.encode.length < 65536) (hn : n < 65536)
    (hfits : 21 + strlen sn + (4 + b.encode.length) + (encodeTlvchain extra).length ≤ n)
    (hdata : fr.data = (m (aimBstreamInit (List.replicate n 0) n)).2) :
    CarriesBlock fr sn b extra := by
  have hhead : (rendHead sn snacid b.cookie ++ cstr sn).length = 21 + strlen sn := by
    rw [List.length_append, rendHead_length b.cookie_length]
    rfl
  have htotal : ((rendHead sn snacid b.cookie ++ cstr sn) ++
      encodeTlvchain (blockTlv b :: extra)).length ≤ n := by
    rw [List.length_append, hhead, encodeTlvchain_cons, List.length_append, AimTlv.encode_length,
      blockTlv_value hb]
    omega
  have hwritten : fr.data.written = (rendHead sn snacid b.cookie ++ cstr sn) ++
      encodeTlvchain (blockTlv b :: extra) := by
    rw [hdata, hm.written_init hn htotal]
  refine ⟨?_, ?_, blockTlv_value hb⟩
  · rw [hwritten, List.append_assoc]
    exact rendHead_cookie b.cookie_length _
  · rw [hwritten, List.drop_left' hhead]

/-- The receiver takes the block apart. -/
theorem CarriesBlock.incomingimCh2 {fr : AimFrame} {sn : List UInt8} {b : RendBlock}
    {extra : List AimTlv} {serv : AimTlv} (h : CarriesBlock fr sn b extra)
    (hextra : ∀ tlv ∈ extra, tlv.type ≠ 0x0005)
    (hip : ∀ tlv ∈ b.list2, tlv.type ≠ 0x0002 ∧ tlv.type ≠ 0x0003 ∧ tlv.type ≠ 0x0004)
    (hserv : aimGettlv b.list2.reverse 0x2711 1 = some serv)
    {bs : AimBstream} (hbs : bs.rest = fr.data.written.drop (21 + strlen sn)) :
    ∃ tlvlist bs', aimReadtlvchain bs = some (tlvlist, bs') ∧
      incomingimCh2 tlvlist = incomingimCh2Servdata b.args (some ⟨serv.value, 0⟩) := by
  have hchain := aimReadtlvchain_encode _ (hbs.trans h.region)
  have hnone : extra.reverse.find? (fun tlv => tlv.type = 0x0005) = none := by
    rw [List.find?_eq_none]
    intro tlv htlv
    simpa using hextra tlv (List.mem_reverse.mp htlv)
  have hblock1 : aimGettlv (blockTlv b :: extra).reverse 0x0005 1 = some (blockTlv b) := by
    rw [aimGettlv_one, List.reverse_cons, List.find?_append, hnone]
    rfl
  refine ⟨_, _, hchain, ?_⟩
  rw [incomingimCh2_rendBlock b hblock1 h.value hip, hserv]
  rfl

end Libfaim
