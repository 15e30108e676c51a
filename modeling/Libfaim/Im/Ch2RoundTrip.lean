import Libfaim.Im.Block
import Libfaim.Im.RoundTrip

/-!
# Sending icons and rich text and taking them in again

`aim_send_icon` and `aim_send_rtfmsg` work out the lengths of three levels by hand. Each is the
number of bytes that follow: what they put into a frame is a block in a TLV, with the service data
in a TLV of the block (`writes_putIconmsg`, `writes_putRtfmsg`). So `incomingim_ch2` gives the client
what was sent (`incomingimCh2_rendezvous`).
-/

namespace Libfaim

theorem aimutilPut16_append_put16 (v : UInt16) :
    aimutilPut16 0 ++ aimutilPut16 v = aimutilPut32 v.toUInt32 := by
  have hv : v.toNat < 65536 := v.toNat_lt
  have hhigh : v.toNat / 256 / 256 = 0 := by omega
  simp [aimutilPut16, aimutilPut32, Endian.beBytes, Endian.leBytes, hhigh]

/-! ## Icons -/

namespace AimSendIconArgs

variable (args : AimSendIconArgs)

def sentIcon : List UInt8 := args.icon.take args.iconlen.toNat

/-- The service data of an icon. -/
def servdata : List UInt8 :=
  aimutilPut32 args.iconsum.toUInt32 ++ (aimutilPut32 (UInt32.ofInt args.iconlen) ++
    (aimutilPut32 (UInt32.ofInt args.stamp) ++ (args.sentIcon ++ aimIconident)))

/-- The icon has as many bytes as its length says, and `aim_send_icon` takes it. -/
structure Valid : Prop where
  pos : 0 < args.iconlen
  lt : args.iconlen < maxiconlen
  backed : args.iconlen ≤ args.icon.length

variable {args}

theorem Valid.sentIcon_length (h : args.Valid) : args.sentIcon.length = args.iconlen.toNat := by
  have hbacked := h.backed
  rw [sentIcon, List.length_take]
  omega

theorem Valid.servdata_length (h : args.Valid) :
    args.servdata.length = 4 + 4 + 4 + args.iconlen.toNat + aimIconident.length := by
  simp only [servdata, List.length_append, aimutilPut32_length, h.sentIcon_length]
  omega

theorem Valid.iconlen_lt (h : args.Valid) : args.iconlen.toNat < 7168 := by
  have hlt := h.lt
  unfold maxiconlen at hlt
  omega

end AimSendIconArgs

theorem writes_putIcondata {args : AimSendIconArgs} (h : args.Valid) :
    Writes (putIcondata args) (servTlv args.servdata).encode aimIconident.length := by
  have hlen : args.servdata.length < 65536 := by
    have hicon := h.iconlen_lt
    have hident : aimIconident.length = 14 := rfl
    rw [h.servdata_length]
    omega
  have hraw : Writes (aimbsPutraw args.icon args.iconlen.toNat) args.sentIcon args.iconlen.toNat :=
    writes_aimbsPut _ _
  have hall : Writes (putIcondata args) (aimutilPut16 0x2711 ++ (aimutilPut16 (UInt16.ofNat
      (4 + 4 + 4 + args.iconlen.toNat + aimIconident.length)) ++ (aimutilPut16 0x0000 ++
        (aimutilPut16 args.iconsum ++ (aimutilPut32 (UInt32.ofInt args.iconlen) ++
          (aimutilPut32 (UInt32.ofInt args.stamp) ++ (args.sentIcon ++ aimIconident)))))))
      aimIconident.length :=
    (writes_aimbsPut16 _).bind ((writes_aimbsPut16 _).bind ((writes_aimbsPut16 _).bind
      ((writes_aimbsPut16 _).bind ((writes_aimbsPut32 _).bind ((writes_aimbsPut32 _).bind
        (hraw.bind (writes_aimbsPutraw rfl)))))))
  refine hall.of_eq ?_
  rw [encode_servTlv hlen, h.servdata_length, AimSendIconArgs.servdata,
    ← aimutilPut16_append_put16]
  simp only [List.append_assoc]

theorem reads_incomingimCh2Buddyicon {checksum length timestamp : UInt32} {icon : List UInt8}
    (h : icon.length = length.toNat) :
    Reads incomingimCh2Buddyicon (aimutilPut32 checksum ++ (aimutilPut32 length ++
      (aimutilPut32 timestamp ++ icon))) (.icon checksum length timestamp (some icon)) := by
  have hall : Reads incomingimCh2Buddyicon (aimutilPut32 checksum ++ (aimutilPut32 length ++
      (aimutilPut32 timestamp ++ (icon ++ [])))) (.icon checksum length timestamp (some icon)) :=
    (reads_aimbsGet32 _).bind ((reads_aimbsGet32 _).bind ((reads_aimbsGet32 _).bind
      ((reads_aimbsGetraw h).bind (Reads.pure _))))
  exact hall.of_eq (by rw [List.append_nil])

/-! ## Rich text -/

namespace AimSendrtfmsgArgs

variable (args : AimSendrtfmsgArgs)

/-- The text with its NUL. -/
def sentText : List UInt8 := cstr args.rtfmsg ++ [0]

/-- The service data of a message: two headers, the type, no answer, the text, the colours and the
capability as a string. -/
def servdata : List UInt8 :=
  counted16 (aimutilPutle16 9 ++ (List.replicate 16 0 ++ (aimutilPutle16 0 ++
    (aimutilPutle32 0 ++ (aimutilPutle8 0 ++ aimutilPutle16 0x03ea))))) ++
  (counted16 (aimutilPutle16 0x03eb ++ (aimutilPutle32 0 ++ (aimutilPutle32 0 ++
    aimutilPutle32 0))) ++
  (aimutilPutle16 0x0001 ++ (counted32 [] ++ (counted16 args.sentText ++
    (aimutilPutle32 args.fgcolor ++ (aimutilPutle32 args.bgcolor ++ counted32 rtfcap))))))

theorem sentText_length : args.sentText.length = strlen args.rtfmsg + 1 := by
  simp [sentText, strlen]

theorem servdata_length : args.servdata.length = rtfServdatalen args := by
  have hcap : rtfcap.length = strlen rtfcap + 1 := rfl
  simp only [servdata, counted16, counted32, List.length_append, aimutilPutle8_length,
    aimutilPutle16_length, aimutilPutle32_length, List.length_replicate, sentText_length, hcap,
    List.length_nil, rtfServdatalen]
  omega

end AimSendrtfmsgArgs

theorem writes_putRtfdata {args : AimSendrtfmsgArgs} (h : rtfServdatalen args < 65536) :
    Writes (putRtfdata args) (servTlv args.servdata).encode (strlen rtfcap + 1) := by
  have hlen : args.servdata.length < 65536 := by rwa [args.servdata_length]
  have hempty : Writes (aimPutcap aimCapsEmpty) (List.replicate 16 0) () :=
    @writes_aimPutcap_one aimCapsEmpty ⟨aimCapsEmpty, List.replicate 16 0⟩ rfl
  have htext : Writes (aimbsPutraw (cstr args.rtfmsg ++ [0]) (strlen args.rtfmsg + 1))
      args.sentText (strlen args.rtfmsg + 1) :=
    writes_aimbsPutraw args.sentText_length
  have hall : Writes (putRtfdata args) (aimutilPut16 0x2711 ++ (aimutilPut16 (UInt16.ofNat
      (rtfServdatalen args)) ++ (aimutilPutle16 (11 + 16) ++ (aimutilPutle16 9 ++
        (List.replicate 16 0 ++ (aimutilPutle16 0 ++ (aimutilPutle32 0 ++ (aimutilPutle8 0 ++
          (aimutilPutle16 0x03ea ++ (aimutilPutle16 14 ++ (aimutilPutle16 0x03eb ++
            (aimutilPutle32 0 ++ (aimutilPutle32 0 ++ (aimutilPutle32 0 ++ (aimutilPutle16 0x0001 ++
              (aimutilPutle32 0 ++ (aimutilPutle16 (UInt16.ofNat (strlen args.rtfmsg + 1)) ++
                (args.sentText ++ (aimutilPutle32 args.fgcolor ++ (aimutilPutle32 args.bgcolor ++
                  (aimutilPutle32 (UInt32.ofNat (strlen rtfcap + 1)) ++
                    rtfcap))))))))))))))))))))) (strlen rtfcap + 1) :=
    (writes_aimbsPut16 _).bind ((writes_aimbsPut16 _).bind ((writes_aimbsPutle16 _).bind
      ((writes_aimbsPutle16 _).bind (hempty.bind ((writes_aimbsPutle16 _).bind
      ((writes_aimbsPutle32 _).bind ((writes_aimbsPutle8 _).bind ((writes_aimbsPutle16 _).bind
      ((writes_aimbsPutle16 _).bind ((writes_aimbsPutle16 _).bind ((writes_aimbsPutle32 _).bind
      ((writes_aimbsPutle32 _).bind ((writes_aimbsPutle32 _).bind ((writes_aimbsPutle16 _).bind
      ((writes_aimbsPutle32 _).bind ((writes_aimbsPutle16 _).bind (htext.bind
      ((writes_aimbsPutle32 _).bind ((writes_aimbsPutle32 _).bind ((writes_aimbsPutle32 _).bind
      (writes_aimbsPutraw rfl)))))))))))))))))))))
  refine hall.of_eq ?_
  rw [encode_servTlv hlen, args.servdata_length, AimSendrtfmsgArgs.servdata, counted16, counted16,
    counted32, counted16, counted32, args.sentText_length]
  simp only [List.append_assoc, List.append_nil]
  rfl

theorem reads_counted16 {α : Type} {k : StateM AimBstream α} {v w : List UInt8} {x : α}
    (hv : v.length < 65536) (hk : Reads k w x) :
    Reads (do let len ← aimbsGetle16; let _ ← aimBstreamAdvance len.toNat; k) (counted16 v ++ w) x := by
  have hlen : v.length = (UInt16.ofNat v.length).toNat := by
    rw [UInt16.toNat_ofNat', Nat.mod_eq_of_lt hv]
  have hall : Reads (do let len ← aimbsGetle16; let _ ← aimBstreamAdvance len.toNat; k)
      (aimutilPutle16 (UInt16.ofNat v.length) ++ (v ++ w)) x :=
    (reads_aimbsGetle16 _).bind ((reads_aimBstreamAdvance hlen).bind hk)
  exact hall.of_eq (by rw [counted16, List.append_assoc])

theorem reads_counted32 {α : Type} {k : StateM AimBstream α} {v w : List UInt8} {x : α}
    (hv : v.length < 65536) (hk : Reads k w x) :
    Reads (do let len ← aimbsGetle32; let _ ← aimBstreamAdvance len.toUInt16.toNat; k)
      (counted32 v ++ w) x := by
  have hlen : v.length = (UInt32.ofNat v.length).toUInt16.toNat := by
    rw [UInt32.toNat_toUInt16, UInt32.toNat_ofNat']
    omega
  have hall : Reads (do let len ← aimbsGetle32; let _ ← aimBstreamAdvance len.toUInt16.toNat; k)
      (aimutilPutle32 (UInt32.ofNat v.length) ++ (v ++ w)) x :=
    (reads_aimbsGetle32 _).bind ((reads_aimBstreamAdvance hlen).bind hk)
  exact hall.of_eq (by rw [counted32, List.append_assoc])

theorem reads_incomingimCh2Icqserverrelay {args : AimSendrtfmsgArgs}
    (h : rtfServdatalen args < 65536) :
    Reads incomingimCh2Icqserverrelay args.servdata
      (.rtfmsg args.fgcolor args.bgcolor (some args.sentText)) := by
  have htext : args.sentText.length < 65536 := by
    rw [args.sentText_length]
    unfold rtfServdatalen at h
    omega
  have htextlen : args.sentText.length = (UInt16.ofNat args.sentText.length).toNat := by
    rw [UInt16.toNat_ofNat', Nat.mod_eq_of_lt htext]
  have hcap : Reads (do
      let hdrlen ← aimbsGetle32
      let _ ← aimBstreamAdvance hdrlen.toUInt16.toNat
      return AimIncomingimCh2Info.rtfmsg args.fgcolor args.bgcolor (some args.sentText))
      (counted32 rtfcap ++ []) (.rtfmsg args.fgcolor args.bgcolor (some args.sentText)) :=
    reads_counted32 (by decide) (Reads.pure _)
  have hrest : Reads (do
      let msglen ← aimbsGetle16
      let rtfmsg ← aimbsGetstr msglen.toNat
      let fgcolor ← aimbsGetle32
      let bgcolor ← aimbsGetle32
      let hdrlen ← aimbsGetle32
      let _ ← aimBstreamAdvance hdrlen.toUInt16.toNat
      return AimIncomingimCh2Info.rtfmsg fgcolor bgcolor rtfmsg)
      (aimutilPutle16 (UInt16.ofNat args.sentText.length) ++ (args.sentText ++
        (aimutilPutle32 args.fgcolor ++ (aimutilPutle32 args.bgcolor ++ (counted32 rtfcap ++ [])))))
      (.rtfmsg args.fgcolor args.bgcolor (some args.sentText)) :=
    (reads_aimbsGetle16 _).bind ((reads_aimbsGetraw htextlen).bind ((reads_aimbsGetle32 _).bind
      ((reads_aimbsGetle32 _).bind hcap)))
  have hanswer := reads_counted32 (v := []) (by decide) hrest
  have htype := (reads_aimbsGetle16 0x0001).bind (k := fun _ => _) hanswer
  have hhdr2 := reads_counted16 (v := aimutilPutle16 0x03eb ++ (aimutilPutle32 0 ++
    (aimutilPutle32 0 ++ aimutilPutle32 0))) (by decide) htype
  have hhdr1 := reads_counted16 (v := aimutilPutle16 9 ++ (List.replicate 16 0 ++
    (aimutilPutle16 0 ++ (aimutilPutle32 0 ++ (aimutilPutle8 0 ++ aimutilPutle16 0x03ea)))))
    (by decide) hhdr2
  refine Reads.of_eq hhdr1 ?_
  rw [AimSendrtfmsgArgs.servdata, counted16, counted16, counted16]
  simp only [List.append_assoc, List.append_nil]

/-! ## The frame -/

section Send

variable {sess : AimSession} {snacs : SnacCache} {c : ConnPtr} {now : Int} {rand : Nat → UInt8}

theorem rendezvousFrame_cases (datalen : Nat)
    (put : UInt32 → List UInt8 → StateM AimBstream Nat) :
    (∃ ret, rendezvousFrame sess snacs c now rand datalen put = .error ret ∧ ret ≠ 0) ∨
      ∃ fr sess' snacs', rendezvousFrame sess snacs c now rand datalen put =
        .ok (fr, sess', snacs') ∧ fr.data = (put snacs.snacidNext (randCookie rand)
          (aimBstreamInit (List.replicate datalen 0) datalen)).2 := by
  unfold rendezvousFrame
  cases hnew : aimTxNew sess c aimFrametypeFlap 0x02 datalen with
  | none => exact Or.inl ⟨-enomem, rfl, by decide⟩
  | some r =>
    refine Or.inr ⟨_, _, _, rfl, ?_⟩
    rw [← aimTxNew_data hnew]
    rfl

/-- Where either function returns 0 it has filled a frame. -/
theorem sendIconFrame_of_accepted {args : AimSendIconArgs}
    (h : (aimSendIcon sess snacs c now rand args).1 = 0) :
    (0 < args.iconlen ∧ args.iconlen < maxiconlen) ∧
      ∃ fr sess' snacs', sendIconFrame sess snacs c now rand args = .ok (fr, sess', snacs') ∧
        ∃ n, n = 10 + 8 + 2 + 1 + strlen args.sn + 2 + 2 + 2 + 8 + 16 + 2 + 2 + 2 + 2 + 2 + 2 + 2 +
          4 + 4 + 4 + args.iconlen.toNat + aimIconident.length + 2 + 2 ∧
        fr.data = (putIconmsg args snacs.snacidNext (randCookie rand)
          (aimBstreamInit (List.replicate n 0) n)).2 := by
  unfold aimSendIcon sendIconFrame at h
  unfold sendIconFrame
  by_cases hc : c = 0
  · rw [if_pos hc] at h
    exact absurd (show -einval = 0 from h) (by decide)
  · rw [if_neg hc] at h ⊢
    by_cases hlen : args.iconlen ≤ 0 ∨ args.iconlen ≥ maxiconlen
    · rw [if_pos hlen] at h
      exact absurd (show -einval = 0 from h) (by decide)
    · rw [if_neg hlen] at h ⊢
      refine ⟨by omega, ?_⟩
      rcases rendezvousFrame_cases _ (putIconmsg args) with ⟨ret, hframe, hret⟩ | hframe
      · rw [hframe] at h
        exact absurd h hret
      · obtain ⟨fr, sess', snacs', hframe, hdata⟩ := hframe
        exact ⟨fr, sess', snacs', hframe, _, rfl, hdata⟩

theorem sendRtfmsgFrame_of_accepted {args : AimSendrtfmsgArgs}
    (h : (aimSendRtfmsg sess snacs c now rand args).1 = 0) :
    ∃ fr sess' snacs', sendRtfmsgFrame sess snacs c now rand args = .ok (fr, sess', snacs') ∧
      fr.data = (putRtfmsg args snacs.snacidNext (randCookie rand) (aimBstreamInit
        (List.replicate (10 + 128 + rtfServdatalen args) 0)
          (10 + 128 + rtfServdatalen args : Nat))).2 := by
  unfold aimSendRtfmsg sendRtfmsgFrame at h
  unfold sendRtfmsgFrame
  by_cases hc : c = 0
  · rw [if_pos hc] at h
    exact absurd (show -einval = 0 from h) (by decide)
  · rw [if_neg hc] at h ⊢
    rcases rendezvousFrame_cases _ (putRtfmsg args) with ⟨ret, hframe, hret⟩ | hframe
    · rw [hframe] at h
      exact absurd h hret
    · exact hframe

/-! ## The round trip -/

/-- The block `aim_send_icon` sends. -/
def iconBlock (args : AimSendIconArgs) (rand : Nat → UInt8) : RendBlock where
  status := 0
  cookie := randCookie rand
  cap := tableCap aimCapsBuddyicon
  list2 := [reqTlv, extTlv, servTlv args.servdata]
  cookie_length := randCookie_length
  cap_mem := by decide

/-- The block `aim_send_rtfmsg` sends. -/
def rtfBlock (args : AimSendrtfmsgArgs) (rand : Nat → UInt8) : RendBlock where
  status := 0
  cookie := randCookie rand
  cap := tableCap aimCapsIcqserverrelay
  list2 := [reqTlv, extTlv, servTlv args.servdata]
  cookie_length := randCookie_length
  cap_mem := by decide

/-- Two TLVs in front, and one with the service data. -/
theorem encodeTlvchain_serv_length {servdata : List UInt8} (h : servdata.length < 65536) :
    (encodeTlvchain [reqTlv, extTlv, servTlv servdata]).length = 6 + 4 + (4 + servdata.length) := by
  simp only [encodeTlvchain_cons, encodeTlvchain_nil, List.length_append, List.length_nil,
    AimTlv.encode_length, servTlv_value h]
  have hreq : reqTlv.value.length = 2 := rfl
  have hext : extTlv.value.length = 0 := rfl
  omega

theorem noIp_serv (servdata : List UInt8) : ∀ tlv ∈ [reqTlv, extTlv, servTlv servdata],
    NoIp tlv :=
  noIp_rendlist (List.forall_mem_singleton.mpr (noIp_servTlv servdata))

theorem aimGettlv_serv (servdata : List UInt8) :
    aimGettlv [reqTlv, extTlv, servTlv servdata].reverse 0x2711 1 = some (servTlv servdata) := by
  rw [aimGettlv_one]
  rfl

/-- The TLV of type 3 behind the block of an icon. -/
def iconEndTlv : AimTlv := createtlv 0x0003 0 []

theorem iconFrame_carriesBlock {args : AimSendIconArgs} {fr : AimFrame} {snacid : UInt32} {n : Nat}
    (hvalid : args.Valid) (hsn : strlen args.sn ≤ 32)
    (hn : n = 10 + 8 + 2 + 1 + strlen args.sn + 2 + 2 + 2 + 8 + 16 + 2 + 2 + 2 + 2 + 2 + 2 + 2 +
      4 + 4 + 4 + args.iconlen.toNat + aimIconident.length + 2 + 2)
    (hdata : fr.data = (putIconmsg args snacid (randCookie rand)
      (aimBstreamInit (List.replicate n 0) n)).2) :
    CarriesBlock fr args.sn (iconBlock args rand) [iconEndTlv] := by
  have hicon := hvalid.iconlen_lt
  have hident : aimIconident.length = 14 := rfl
  have hservlen := hvalid.servdata_length
  have hserv : args.servdata.length < 65536 := by omega
  have hblock : (iconBlock args rand).encode.length = 26 + (6 + 4 + (4 + args.servdata.length)) := by
    rw [RendBlock.encode_length]
    exact congrArg (26 + ·) (encodeTlvchain_serv_length hserv)
  have hb : (iconBlock args rand).encode.length < 65536 := by omega
  have hsum : 2 + 8 + 16 + 6 + 4 + 4 + args.iconlen.toNat + 4 + 4 + 4 + aimIconident.length =
      (iconBlock args rand).encode.length := by omega
  have hlen := congrArg UInt16.ofNat hsum
  have hend : Writes (do let _ ← aimbsPut16 0x0003; aimbsPut16 0x0000) iconEndTlv.encode 2 :=
    (writes_aimbsPut16 _).bind (writes_aimbsPut16 _)
  have hserve : Writes (do let _ ← putIcondata args; let _ ← aimbsPut16 0x0003; aimbsPut16 0x0000)
      ((servTlv args.servdata).encode ++ iconEndTlv.encode) 2 :=
    (writes_putIcondata hvalid).bind hend
  have htail := @writes_putRendblock (iconBlock args rand) _ aimCapsBuddyicon _ _ _ _ rfl rfl rfl
    hlen hb hserve
  have hall : Writes (putIconmsg args snacid (randCookie rand))
      ((rendHead args.sn snacid (randCookie rand) ++ cstr args.sn) ++
        ((blockTlv (iconBlock args rand)).encode ++ iconEndTlv.encode)) 2 :=
    (writes_putRendhead randCookie_length).bind htail
  have hendlen : (encodeTlvchain [iconEndTlv]).length = 4 := rfl
  have hcookie : (iconBlock args rand).cookie = randCookie rand := rfl
  have hbytes : Writes (putIconmsg args snacid (randCookie rand))
      ((rendHead args.sn snacid (iconBlock args rand).cookie ++ cstr args.sn) ++
        encodeTlvchain [blockTlv (iconBlock args rand), iconEndTlv]) 2 := by
    refine hall.of_eq ?_
    rw [hcookie, encodeTlvchain_cons, encodeTlvchain_cons, encodeTlvchain_nil, List.append_nil]
  exact hbytes.carriesBlock hb (by omega) (by omega) hdata

theorem rtfFrame_carriesBlock {args : AimSendrtfmsgArgs} {fr : AimFrame} {snacid : UInt32}
    (hsn : strlen args.destsn ≤ 32) (hsize : 10 + 128 + rtfServdatalen args ≤ 65535)
    (hdata : fr.data = (putRtfmsg args snacid (randCookie rand) (aimBstreamInit
      (List.replicate (10 + 128 + rtfServdatalen args) 0)
        (10 + 128 + rtfServdatalen args : Nat))).2) :
    CarriesBlock fr args.destsn (rtfBlock args rand) [] := by
  have hserv : args.servdata.length = rtfServdatalen args := args.servdata_length
  have hblock : (rtfBlock args rand).encode.length = 26 + (6 + 4 + (4 + args.servdata.length)) := by
    rw [RendBlock.encode_length]
    exact congrArg (26 + ·) (encodeTlvchain_serv_length (by omega))
  have hb : (rtfBlock args rand).encode.length < 65536 := by omega
  have hsum : 2 + 8 + 16 + (2 + 2 + 2) + (2 + 2) + (2 + 2 + rtfServdatalen args) =
      (rtfBlock args rand).encode.length := by omega
  have hlen := congrArg UInt16.ofNat hsum
  have hserve : Writes (putRtfdata args) ((servTlv args.servdata).encode ++ [])
      (strlen rtfcap + 1) :=
    (writes_putRtfdata (by omega)).of_eq (List.append_nil _).symm
  have htail := @writes_putRendblock (rtfBlock args rand) _ aimCapsIcqserverrelay _ _ _ _ rfl rfl
    rfl hlen hb hserve
  have hall : Writes (putRtfmsg args snacid (randCookie rand))
      ((rendHead args.destsn snacid (randCookie rand) ++ cstr args.destsn) ++
        ((blockTlv (rtfBlock args rand)).encode ++ [])) (strlen rtfcap + 1) :=
    (writes_putRendhead randCookie_length).bind htail
  have hnil : (encodeTlvchain ([] : List AimTlv)).length = 0 := rfl
  have hcookie : (rtfBlock args rand).cookie = randCookie rand := rfl
  have hbytes : Writes (putRtfmsg args snacid (randCookie rand))
      ((rendHead args.destsn snacid (rtfBlock args rand).cookie ++ cstr args.destsn) ++
        encodeTlvchain [blockTlv (rtfBlock args rand)]) (strlen rtfcap + 1) := by
    refine hall.of_eq ?_
    rw [hcookie, encodeTlvchain_cons, encodeTlvchain_nil]
  exact hbytes.carriesBlock hb (by omega) (by omega) hdata

/-- What the client is given for an icon. -/
theorem incomingimCh2Servdata_icon {args : AimSendIconArgs} (hvalid : args.Valid) :
    incomingimCh2Servdata (iconBlock args rand).args (some ⟨args.servdata, 0⟩) =
      some { (iconBlock args rand).args with
        info := .icon args.iconsum.toUInt32 (UInt32.ofInt args.iconlen) (UInt32.ofInt args.stamp)
          (some args.sentIcon) } := by
  have hlen : args.sentIcon.length = (UInt32.ofInt args.iconlen).toNat := by
    have hlt := hvalid.iconlen_lt
    have hpos := hvalid.pos
    rw [hvalid.sentIcon_length]
    show _ = (UInt32.ofNat (args.iconlen % 2 ^ 32).toNat).toNat
    rw [UInt32.toNat_ofNat']
    omega
  have hrest : (⟨args.servdata, 0⟩ : AimBstream).rest =
      (aimutilPut32 args.iconsum.toUInt32 ++ (aimutilPut32 (UInt32.ofInt args.iconlen) ++
        (aimutilPut32 (UInt32.ofInt args.stamp) ++ args.sentIcon))) ++ aimIconident := by
    simp only [AimBstream.rest, List.drop_zero, AimSendIconArgs.servdata, List.append_assoc]
  have hread := reads_incomingimCh2Buddyicon hlen _ _ hrest
  have hclass : (iconBlock args rand).args.reqclass.toUInt32 &&& aimCapsBuddyicon ≠ 0 := by
    show (tableCap aimCapsBuddyicon).flag.toUInt16.toUInt32 &&& aimCapsBuddyicon ≠ 0
    decide
  unfold incomingimCh2Servdata
  dsimp only
  rw [if_pos hclass, Option.map_some, hread]
  rfl

/-- What the client is given for a message. -/
theorem incomingimCh2Servdata_rtf {args : AimSendrtfmsgArgs} (h : rtfServdatalen args < 65536) :
    incomingimCh2Servdata (rtfBlock args rand).args (some ⟨args.servdata, 0⟩) =
      some { (rtfBlock args rand).args with
        info := .rtfmsg args.fgcolor args.bgcolor (some args.sentText)
        reqclass := aimCapsIcqrtf.toUInt16 } := by
  have hrest : (⟨args.servdata, 0⟩ : AimBstream).rest = args.servdata ++ [] := by
    simp only [AimBstream.rest, List.drop_zero, List.append_nil]
  have hread := reads_incomingimCh2Icqserverrelay h _ _ hrest
  have hclass : (rtfBlock args rand).args.reqclass = (tableCap aimCapsIcqserverrelay).flag.toUInt16 :=
    rfl
  unfold incomingimCh2Servdata
  dsimp only
  rw [hclass, if_neg (by decide), if_neg (by decide), if_neg (by decide), if_pos (by decide),
    Option.map_some, hread]

/-! What either of them enqueues is its frame -/

theorem aimSendIcon_enqueues {args : AimSendIconArgs} {fr : AimFrame} {sess' : AimSession}
    {snacs' : SnacCache} (h : sendIconFrame sess snacs c now rand args = .ok (fr, sess', snacs')) :
    (aimSendIcon sess snacs c now rand args).2.1 = aimTxEnqueue sess' fr := by
  rw [aimSendIcon, h]
  rfl

theorem aimSendRtfmsg_enqueues {args : AimSendrtfmsgArgs} {fr : AimFrame} {sess' : AimSession}
    {snacs' : SnacCache}
    (h : sendRtfmsgFrame sess snacs c now rand args = .ok (fr, sess', snacs')) :
    (aimSendRtfmsg sess snacs c now rand args).2.1 = aimTxEnqueue sess' fr := by
  rw [aimSendRtfmsg, h]
  rfl

/-- Icons and rich text are taken in as they were sent. What is on the wire behind the destination
screen name is the block with its lengths, each the number of the bytes it stands for; read as a TLV
chain and taken apart it gives the client the cookie, the request class and, of an icon, checksum,
length, timestamp and bytes, or of a message, the text and the colours. The class of a message that
went through the ICQ relay is that of rich text. -/
theorem incomingimCh2_rendezvous :
    (∀ args : AimSendIconArgs, (aimSendIcon sess snacs c now rand args).1 = 0 →
      args.iconlen ≤ args.icon.length → strlen args.sn ≤ 32 →
      ∃ fr sess' snacs', sendIconFrame sess snacs c now rand args = .ok (fr, sess', snacs') ∧
        (aimSendIcon sess snacs c now rand args).2.1 = aimTxEnqueue sess' fr ∧
        CarriesBlock fr args.sn (iconBlock args rand) [iconEndTlv] ∧
        args.servdata.length < 65536 ∧
        ∀ bs : AimBstream, bs.rest = fr.data.written.drop (21 + strlen args.sn) →
          ∃ tlvlist bs' res, aimReadtlvchain bs = some (tlvlist, bs') ∧
            incomingimCh2 tlvlist = some res ∧ res.cookie = (fr.data.written.drop 10).take 8 ∧
            res.reqclass = aimCapsBuddyicon.toUInt16 ∧
            res.info = .icon args.iconsum.toUInt32 (UInt32.ofInt args.iconlen)
              (UInt32.ofInt args.stamp) (some (args.icon.take args.iconlen.toNat))) ∧
    ∀ args : AimSendrtfmsgArgs, (aimSendRtfmsg sess snacs c now rand args).1 = 0 →
      strlen args.destsn ≤ 32 → 10 + 128 + rtfServdatalen args ≤ 65535 →
      ∃ fr sess' snacs', sendRtfmsgFrame sess snacs c now rand args = .ok (fr, sess', snacs') ∧
        (aimSendRtfmsg sess snacs c now rand args).2.1 = aimTxEnqueue sess' fr ∧
        CarriesBlock fr args.destsn (rtfBlock args rand) [] ∧ args.servdata.length < 65536 ∧
        ∀ bs : AimBstream, bs.rest = fr.data.written.drop (21 + strlen args.destsn) →
          ∃ tlvlist bs' res rtfmsg, aimReadtlvchain bs = some (tlvlist, bs') ∧
            incomingimCh2 tlvlist = some res ∧ res.cookie = (fr.data.written.drop 10).take 8 ∧
            res.reqclass = aimCapsIcqrtf.toUInt16 ∧
            res.info = .rtfmsg args.fgcolor args.bgcolor (some rtfmsg) ∧
            cstr rtfmsg = cstr args.rtfmsg := by
  constructor
  · intro args haccepted hbacked hsn
    obtain ⟨⟨hpos, hlt⟩, fr, sess', snacs', hframe, n, hn, hdata⟩ :=
      sendIconFrame_of_accepted haccepted
    have hvalid : args.Valid := ⟨hpos, hlt, hbacked⟩
    have hserv : args.servdata.length < 65536 := by
      have hicon := hvalid.iconlen_lt
      have hident : aimIconident.length = 14 := rfl
      rw [hvalid.servdata_length]
      omega
    have hcarries := iconFrame_carriesBlock hvalid hsn hn hdata
    refine ⟨fr, sess', snacs', hframe, aimSendIcon_enqueues hframe, hcarries, hserv,
      fun bs hbs => ?_⟩
    have hextra : ∀ tlv ∈ [iconEndTlv], tlv.type ≠ 0x0005 := by
      intro tlv htlv
      rw [List.mem_singleton.mp htlv]
      exact (by decide : (0x0003 : UInt16) ≠ 0x0005)
    obtain ⟨tlvlist, bs', hchain, hch2⟩ :=
      hcarries.incomingimCh2 hextra (noIp_serv _) (aimGettlv_serv _) hbs
    rw [servTlv_value hserv, incomingimCh2Servdata_icon hvalid] at hch2
    exact ⟨tlvlist, bs', _, hchain, hch2, hcarries.cookie.symm, rfl, rfl⟩
  · intro args haccepted hsn hsize
    obtain ⟨fr, sess', snacs', hframe, hdata⟩ := sendRtfmsgFrame_of_accepted haccepted
    have hlen : rtfServdatalen args < 65536 := by omega
    have hserv : args.servdata.length < 65536 := by rwa [args.servdata_length]
    have hcarries := rtfFrame_carriesBlock hsn hsize hdata
    refine ⟨fr, sess', snacs', hframe, aimSendRtfmsg_enqueues hframe, hcarries, hserv,
      fun bs hbs => ?_⟩
    have hextra : ∀ tlv ∈ ([] : List AimTlv), tlv.type ≠ 0x0005 :=
      fun tlv htlv => absurd htlv List.not_mem_nil
    obtain ⟨tlvlist, bs', hchain, hch2⟩ :=
      hcarries.incomingimCh2 hextra (noIp_serv _) (aimGettlv_serv _) hbs
    rw [servTlv_value hserv, incomingimCh2Servdata_rtf hlen] at hch2
    exact ⟨tlvlist, bs', _, _, hchain, hch2, hcarries.cookie.symm, rfl, rfl,
      cstr_append_nul args.rtfmsg⟩

end Send

section Example

def oneByteIcon : AimSendIconArgs := ⟨[0x61, 0x62], [0x47], 1, 1000000000, 0x4700⟩

def hiRtfmsg : AimSendrtfmsgArgs := ⟨[0x31, 0x32], 0x00ff0000, 0x00ffffff, [0x68, 0x69]⟩

/-- An icon and a message, sent on the BOS connection of a new session. -/
theorem incomingimCh2_rendezvous_hi :
    let sess := (aimNewconn (aimSessionInit []) aimConnTypeBos (.connected 3 0)).2
    (∃ fr sess' snacs', sendIconFrame sess aimInitsnachash 1 0 (fun _ => 0x37) oneByteIcon =
        .ok (fr, sess', snacs') ∧
      ∃ tlvlist bs' res, aimReadtlvchain ⟨fr.data.written.drop 23, 0⟩ = some (tlvlist, bs') ∧
        incomingimCh2 tlvlist = some res ∧
        res.info = .icon 0x4700 1 1000000000 (some [0x47])) ∧
    ∃ fr sess' snacs', sendRtfmsgFrame sess aimInitsnachash 1 0 (fun _ => 0x37) hiRtfmsg =
        .ok (fr, sess', snacs') ∧
      ∃ tlvlist bs' res rtfmsg, aimReadtlvchain ⟨fr.data.written.drop 23, 0⟩ =
          some (tlvlist, bs') ∧
        incomingimCh2 tlvlist = some res ∧
        res.info = .rtfmsg 0x00ff0000 0x00ffffff (some rtfmsg) ∧ cstr rtfmsg = [0x68, 0x69] := by
  intro sess
  obtain ⟨hicons, hmsgs⟩ := @incomingimCh2_rendezvous sess aimInitsnachash 1 0 fun _ => 0x37
  constructor
  · obtain ⟨fr, sess', snacs', hframe, -, -, -, hread⟩ :=
      hicons oneByteIcon (by decide) (by decide) (by decide)
    obtain ⟨tlvlist, bs', res, hchain, hch2, -, -, hinfo⟩ :=
      hread ⟨fr.data.written.drop 23, 0⟩ rfl
    exact ⟨fr, sess', snacs', hframe, tlvlist, bs', res, hchain, hch2, hinfo⟩
  · obtain ⟨fr, sess', snacs', hframe, -, -, -, hread⟩ :=
      hmsgs hiRtfmsg (by decide) (by decide) (by decide)
    obtain ⟨tlvlist, bs', res, rtfmsg, hchain, hch2, -, -, hinfo, htext⟩ :=
      hread ⟨fr.data.written.drop 23, 0⟩ rfl
    exact ⟨fr, sess', snacs', hframe, tlvlist, bs', res, rtfmsg, hchain, hch2, hinfo, htext⟩

end Example

end Libfaim
