import Libfaim.Auth.Response
import Libfaim.Md5.Callers

/-!
# Signing on (`auth.c`)

The authorizer answers the screen name with a key. The library sends a digest of the key and the
password, which the authorizer compares with the one it makes of its own copies
(`Authorizer.Admits`). An authorizer that admits the user names a server and gives a cookie, and who
shows the cookie there is the user (`Shows`). What the library sends is admitted exactly if the two
digests agree and the frame has room for the names (`login_admitted`), and the cookie it shows is
the one that was given (`cookie_shown`).
-/

namespace Libfaim

def aimCookielen : Nat := 0x100

/-- The key `keyparse` gives to the client, without the NUL behind it; `none` is a null pointer. -/
def keyparse : StateM AimBstream (Option (List UInt8)) := do
  let keylen ← aimbsGet16
  aimbsGetstr keylen.toNat

/-- Everything `aim_sendcookie` puts into the frame. -/
def putCookie (chipsahoy : List UInt8) : StateM AimBstream Nat := do
  let _ ← aimbsPut32 0x00000001
  aimWritetlvchain (aimAddtlvtochainRaw [] 0x0006 (UInt16.ofNat aimCookielen) chipsahoy).2

instance (sess : AimSession) (c : ConnPtr) : Decidable (sess.Usable c) :=
  inferInstanceAs (Decidable (_ ∧ _))

/-- `aim_sendcookie`. There is no result where it reads behind the cookie. -/
def aimSendcookie (c : ConnPtr) (chipsahoy : List UInt8) (s : Requester) :
    Option (Int × Requester) :=
  if s.sess.Usable c ∧ chipsahoy.length < aimCookielen then none
  else some (s.post c 0x01 (4 + 2 + 2 + aimCookielen) (putCookie chipsahoy))

/-! ## The servers -/

/-- The body of a packet is a chain that has this TLV. -/
def HasTlv (body : List UInt8) (t : UInt16) (v : List UInt8) : Prop :=
  ∃ tlvs : List AimTlv, body = encodeTlvchain tlvs ∧ ∃ tlv ∈ tlvs, tlv.type = t ∧ tlv.value = v

/-- What the authorizer knows: the passwords of the users, and the key that it has sent. -/
structure Authorizer where
  password : List UInt8 → Option (List UInt8)
  key : List UInt8

/-- The authorizer admits the user of a login, which has a SNAC header of 10 bytes in front. -/
def Authorizer.Admits (a : Authorizer) (login : List UInt8) : Prop :=
  ∃ name password, HasTlv (login.drop 10) 0x0001 name ∧ a.password name = some password ∧
    HasTlv (login.drop 10) 0x0025 (md5 (a.key ++ password ++ aimMd5String))

/-- The packet shows the cookie, behind the version of FLAP. -/
def Shows (cookie packet : List UInt8) : Prop :=
  packet.take 4 = aimutilPut32 0x00000001 ∧ HasTlv (packet.drop 4) 0x0006 cookie

/-- A chain is all that a body can be read as. -/
theorem hasTlv_encodeTlvchain {tlvs : List AimTlv} {t : UInt16} {v : List UInt8} :
    HasTlv (encodeTlvchain tlvs) t v ↔ ∃ tlv ∈ tlvs, tlv.type = t ∧ tlv.value = v := by
  constructor
  · rintro ⟨tlvs', hencode, htlv⟩
    have hread : aimReadtlvchain ⟨encodeTlvchain tlvs, 0⟩ = _ := aimReadtlvchain_encode tlvs rfl
    have hread' : aimReadtlvchain ⟨encodeTlvchain tlvs, 0⟩ = _ :=
      aimReadtlvchain_encode tlvs' hencode
    have hreverse := (Prod.mk.inj (Option.some.inj (hread.symm.trans hread'))).1
    rwa [List.reverse_inj.mp hreverse]
  · exact fun htlv => ⟨tlvs, rfl, htlv⟩

theorem hasTlv_tlvOf {args : List (UInt16 × List UInt8)} (h : ∀ arg ∈ args, arg.2.length < 65536)
    {t : UInt16} {v : List UInt8} :
    HasTlv (encodeTlvchain (args.map tlvOf)) t v ↔ (t, v) ∈ args := by
  have hargs := map_tlvOf h
  rw [hasTlv_encodeTlvchain]
  constructor
  · rintro ⟨tlv, hmem, rfl, rfl⟩
    rw [← hargs]
    exact List.mem_map_of_mem hmem
  · intro hmem
    rw [← hargs] at hmem
    obtain ⟨tlv, htlv, heq⟩ := List.mem_map.mp hmem
    exact ⟨tlv, htlv, (Prod.mk.inj heq).1, (Prod.mk.inj heq).2⟩

/-! ## The login -/

/-- The key of the authorizer is read whole. -/
theorem reads_keyparse {key : List UInt8} (h : key.length < 65536) :
    Reads keyparse (aimutilPut16 (UInt16.ofNat key.length) ++ key) (some key) := by
  refine (reads_aimbsGet16 _).bind ?_
  rw [UInt16.toNat_ofNat', Nat.mod_eq_of_lt h]
  exact reads_aimbsGetraw rfl

/-- What is written for a chain behind the header of a SNAC: all of it, or none. -/
theorem written_putSnac_chain (family subtype : UInt16) (snacid : UInt32) (tlvs : List AimTlv)
    {datalen : Nat} (hroom : 10 ≤ datalen) (hlt : datalen < 65536) :
    (putSnac family subtype [aimWritetlvchain tlvs] snacid
        (aimBstreamInit (List.replicate datalen 0) datalen)).2.written =
      snacFront family subtype snacid ++
        if 10 + (encodeTlvchain tlvs).length ≤ datalen then encodeTlvchain tlvs else [] := by
  obtain ⟨bs, hle, -, hempty, hfront, hputs⟩ :=
    putSnac_init family subtype snacid [aimWritetlvchain tlvs] hroom hlt
  rw [hputs]
  by_cases hfits : 10 + (encodeTlvchain tlvs).length ≤ datalen
  · rw [if_pos hfits, writes_putAll_chain tlvs bs hle (by omega), AimBstream.written_store hle,
      hfront]
  · have hsize : ¬ aimSizetlvchain tlvs ≤ aimBstreamEmpty bs := by
      rw [← encodeTlvchain_length]
      omega
    have hnone : putAll [aimWritetlvchain tlvs] bs = (0, bs) := by
      rw [putAll, stateM_bind, aimWritetlvchain_all_or_nothing, if_neg hsize]
      rfl
    rw [if_neg hfits, hnone, List.append_nil, hfront]

section Login

variable {s : Requester} {c : ConnPtr} {now : Int} {ci : ClientInfo} {sn password : List UInt8}

theorem mem_loginArgs_name (md5 : List UInt8 → Fin 16 → UInt8) (key : List UInt8)
    {name : List UInt8} :
    (0x0001, name) ∈ loginArgs md5 ci sn password key ↔ name = cstr sn := by
  cases h : ci.clientstring <;> simp [loginArgs, optArg, h]

theorem mem_loginArgs_digest (md5 : List UInt8 → Fin 16 → UInt8) (key : List UInt8)
    {digest : List UInt8} :
    (0x0025, digest) ∈ loginArgs md5 ci sn password key ↔
      digest = aimEncodePasswordMd5 md5 password key := by
  cases h : ci.clientstring <;> simp [loginArgs, optArg, h]

/-- The strings that the client gives with a login. -/
def ClientInfo.strings (ci : ClientInfo) : List (List UInt8) :=
  ci.clientstring.toList ++ [ci.country, ci.lang]

theorem loginArgs_lt (md5 : List UInt8 → Fin 16 → UInt8) (key : List UInt8)
    (hsn : strlen sn < 65536) (hci : ∀ str ∈ ci.strings, strlen str < 65536) :
    ∀ arg ∈ loginArgs md5 ci sn password key, arg.2.length < 65536 := by
  have hcountry : strlen ci.country < 65536 := hci _ (by simp [ClientInfo.strings])
  have hlang : strlen ci.lang < 65536 := hci _ (by simp [ClientInfo.strings])
  have hdigest : (aimEncodePasswordMd5 md5 password key).length < 65536 := by
    simp [aimEncodePasswordMd5]
  have hclient : ∀ arg ∈ optArg 0x0003 ci.clientstring, arg.2.length < 65536 := by
    cases h : ci.clientstring with
    | none => exact fun _ harg => absurd harg List.not_mem_nil
    | some str =>
      have hstr : strlen str < 65536 := hci _ (by simp [ClientInfo.strings, h])
      intro arg harg
      obtain rfl := List.mem_singleton.mp harg
      exact hstr
  intro arg harg
  simp only [loginArgs, List.mem_append, List.mem_cons, List.not_mem_nil, or_false] at harg
  rcases harg with ((rfl | rfl) | harg) | rfl | rfl | rfl | rfl | rfl | rfl | rfl
  · exact hsn
  · exact hdigest
  · exact hclient arg harg
  · exact (by decide : 2 < 65536)
  · exact (by decide : 2 < 65536)
  · exact (by decide : 2 < 65536)
  · exact (by decide : 2 < 65536)
  · exact (by decide : 2 < 65536)
  · exact hcountry
  · exact hlang

/-- The login the library makes of the key that it gets from an authorizer is admitted exactly if it
fits the frame, the authorizer knows the user, and the two digests are the same. Only the key up to
a NUL goes into the one of the library. -/
theorem login_admitted (a : Authorizer) (buf : Fin 64 → UInt8) {challenge : AimBstream}
    {r : List UInt8}
    (hchallenge : challenge.rest = aimutilPut16 (UInt16.ofNat a.key.length) ++ a.key ++ r)
    (hkey : a.key.length < 65536) (hsn : strlen sn < 65536)
    (hci : ∀ str ∈ ci.strings, strlen str < 65536) (hpassword : strlen password < 2 ^ 27)
    (hxor : ¬ s.Xorlogin) (hc : s.sess.Usable c) :
    ∃ key fr, (keyparse challenge).1 = some key ∧
      (aimSendLogin (digestOf buf) c now (some sn) (some password) (some ci) key s).2.passed =
        s.passed ++ [fr] ∧
      (a.Admits fr.data.written ↔
        10 + wholeSize (loginArgs (digestOf buf) ci sn password key) ≤ 1152 ∧
        ∃ stored, a.password (cstr sn) = some stored ∧
          md5 (a.key ++ stored ++ aimMd5String) =
            md5 (cstr a.key ++ cstr password ++ aimMd5String)) := by
  have hread := reads_keyparse hkey challenge r hchallenge
  have hsend : aimSendLogin (digestOf buf) c now (some sn) (some password) (some ci) a.key s =
      s.request c now (sendLoginRequest (digestOf buf) ci sn password a.key) := if_neg hxor
  rcases s.request_spec c now (sendLoginRequest (digestOf buf) ci sn password a.key) with
    ⟨hno, -⟩ | ⟨fr, sess, -, hdata, hrequest⟩
  · exact absurd hc hno
  refine ⟨a.key, fr, by rw [hread], by rw [hsend, hrequest], ?_⟩
  have hargs : ∀ arg ∈ loginArgs (digestOf buf) ci sn password a.key, arg.2.length < 65536 :=
    loginArgs_lt (digestOf buf) a.key hsn hci
  have hdigest : aimEncodePasswordMd5 (digestOf buf) password a.key =
      md5 (cstr a.key ++ cstr password ++ aimMd5String) := by
    refine digestOf_eq buf ?_
    have hle : (cstr a.key).length ≤ a.key.length := strlen_le a.key
    have hstring : aimMd5String.length = 26 := rfl
    rw [List.length_append, List.length_append, hstring]
    have : (cstr password).length < 2 ^ 27 := hpassword
    omega
  have hsize : (encodeTlvchain ((loginArgs (digestOf buf) ci sn password a.key).map tlvOf)).length =
      wholeSize (loginArgs (digestOf buf) ci sn password a.key) := by
    rw [encodeTlvchain_length_wholeSize, map_tlvOf hargs]
  have hbody : fr.data.written.drop 10 =
      if 10 + wholeSize (loginArgs (digestOf buf) ci sn password a.key) ≤ 1152 then
        encodeTlvchain ((loginArgs (digestOf buf) ci sn password a.key).map tlvOf) else [] := by
    have hwritten := written_putSnac_chain 0x0017 0x0002 s.snacs.snacidNext
      (loginTlvs (digestOf buf) ci sn password a.key) (by decide : 10 ≤ 1152) (by decide)
    rw [hdata]
    refine (congrArg (List.drop 10) hwritten).trans ?_
    rw [loginTlvs_eq, hsize, List.drop_left' (snacFront_length _ _ _)]
  rw [Authorizer.Admits, hbody]
  by_cases hfits : 10 + wholeSize (loginArgs (digestOf buf) ci sn password a.key) ≤ 1152
  · rw [if_pos hfits]
    simp only [hasTlv_tlvOf hargs, mem_loginArgs_name, mem_loginArgs_digest, hdigest, hfits,
      true_and]
    constructor
    · rintro ⟨name, stored, rfl, hstored, hsame⟩
      exact ⟨stored, hstored, hsame⟩
    · rintro ⟨stored, hstored, hsame⟩
      exact ⟨cstr sn, stored, rfl, hstored, hsame⟩
  · rw [if_neg hfits]
    constructor
    · rintro ⟨name, stored, hname, -⟩
      have hempty : HasTlv (encodeTlvchain []) 0x0001 name := hname
      obtain ⟨tlv, htlv, -⟩ := hasTlv_encodeTlvchain.mp hempty
      exact absurd htlv List.not_mem_nil
    · exact fun h => absurd h.1 hfits

end Login

/-- An authorizer with one user, which has sent the key `"k"`. -/
def oneUser : Authorizer where
  password name := if name = [0x61] then some [0x70] else none
  key := [0x6b]

theorem login_admitted_oneUser : ∃ key fr, (keyparse ⟨[0, 1, 0x6b], 0⟩).1 = some key ∧
    (aimSendLogin (digestOf fun _ => 0) 1 0 (some [0x61]) (some [0x70]) (some someClientInfo) key
      authRequester).2.passed = authRequester.passed ++ [fr] ∧ oneUser.Admits fr.data.written := by
  obtain ⟨key, fr, hkey, hpassed, hadmits⟩ := @login_admitted authRequester 1 0 someClientInfo
    [0x61] [0x70] oneUser (fun _ => 0) ⟨[0, 1, 0x6b], 0⟩ [] rfl (by decide) (by decide) (by decide)
    (by decide) (by decide) ⟨by decide, by decide⟩
  have hsize : wholeSize (loginArgs (digestOf fun _ => 0) someClientInfo [0x61] [0x70] key) = 67 := by
    simp [loginArgs, aimEncodePasswordMd5, someClientInfo, optArg, cstr]
  refine ⟨key, fr, hkey, hpassed, hadmits.mpr ⟨?_, [0x70], rfl, congrArg md5 (by decide)⟩⟩
  rw [hsize]
  decide

/-! ## The cookie -/

section Cookie

variable {s : Requester} {c : ConnPtr}

theorem authrespInfo_fields {tlvlist : List AimTlv} {info : AimAuthrespInfo}
    (h : authrespInfo tlvlist = some info) :
    info.cookie = ifTlvStr tlvlist 0x0006 ∧ info.bosip = ifTlvStr tlvlist 0x0005 := by
  simp only [authrespInfo, Option.bind_eq_bind, Option.bind_eq_some_iff] at h
  obtain ⟨_, -, _, -, _, -, _, -, h⟩ := h
  obtain rfl := Option.some.inj h
  exact ⟨rfl, rfl⟩

theorem ifTlvStr_of_mem {list : List AimTlv} (hnodup : (list.map (·.type)).Nodup) {tlv : AimTlv}
    (h : tlv ∈ list) : ifTlvStr list tlv.type = some tlv.value := by
  have hfound := (aimGettlv_one_eq_some_iff hnodup).mpr ⟨h, rfl⟩
  rw [ifTlvStr, aimGettlvStr, hfound]
  rfl

/-- The frame of `aim_sendcookie`. -/
theorem written_putCookie {chipsahoy : List UInt8} (h : aimCookielen ≤ chipsahoy.length) :
    (putCookie chipsahoy (aimBstreamInit (List.replicate (4 + 2 + 2 + aimCookielen) 0)
        (4 + 2 + 2 + aimCookielen : Nat))).2.written =
      aimutilPut32 0x00000001 ++
        encodeTlvchain ([(0x0006, chipsahoy.take aimCookielen)].map tlvOf) := by
  have hlen : (chipsahoy.take aimCookielen).length = aimCookielen := by
    rw [List.length_take]
    exact Nat.min_eq_left h
  have htlv : createtlv 0x0006 (UInt16.ofNat aimCookielen) chipsahoy =
      tlvOf (0x0006, chipsahoy.take aimCookielen) := by
    apply AimTlv.eq_of
    · rfl
    · rw [tlvOf, hlen]
      exact (List.take_take.trans (congrArg (chipsahoy.take ·) (Nat.min_self _))).symm
  have hwrites : Writes (putCookie chipsahoy) (aimutilPut32 0x00000001 ++
      encodeTlvchain ([(0x0006, chipsahoy.take aimCookielen)].map tlvOf)) 1 := by
    rw [List.map_singleton, ← htlv]
    exact (writes_aimbsPut32 0x00000001).bind (writes_aimWritetlvchain _)
  refine hwrites.written_init (by decide) ?_
  rw [List.length_append, aimutilPut32_length, encodeTlvchain_length_wholeSize, map_tlvOf]
  · rw [wholeSize_cons, wholeSize_nil, hlen]
    decide
  · rw [List.forall_mem_singleton, hlen]
    decide

/-- The client gets the cookie and the server of a response, whose TLVs have distinct types and
values as long as what is read from them. The first bytes of the cookie are what the library then
shows to the server; it reads behind one that is shorter. -/
theorem cookie_shown {l : List AimTlv} (hnodup : (l.map (·.type)).Nodup)
    (hwidth : ∀ tlv ∈ l, authrespWidth tlv.type ≤ tlv.value.length) {response : AimBstream}
    (hresponse : response.rest = encodeTlvchain l) {cookie bosip : AimTlv} (hcookie : cookie ∈ l)
    (hsix : cookie.type = 0x0006) (hbosip : bosip ∈ l) (hfive : bosip.type = 0x0005)
    (hc : s.sess.Usable c) :
    ∃ sn info, authParse response = some (sn, info) ∧ info.cookie = some cookie.value ∧
      info.bosip = some bosip.value ∧
      (aimSendcookie c cookie.value s = none ↔ cookie.value.length < aimCookielen) ∧
      ∀ r, aimSendcookie c cookie.value s = some r →
        ∃ fr, r.2.passed = s.passed ++ [fr] ∧
          ∀ shown, Shows shown fr.data.written ↔ shown = cookie.value.take aimCookielen := by
  have hreverse : (l.reverse.map (·.type)).Nodup :=
    ((List.reverse_perm l).map _).nodup_iff.mpr hnodup
  obtain ⟨info, hinfo⟩ : ∃ info, authrespInfo l.reverse = some info :=
    authrespInfo_isSome fun tlv htlv => hwidth tlv (List.mem_reverse.mp htlv)
  obtain ⟨hinfoCookie, hinfoBosip⟩ := authrespInfo_fields hinfo
  refine ⟨authrespSn l.reverse, info, ?_, ?_, ?_, ?_, ?_⟩
  · rw [authParse_encode hresponse, hinfo, Option.map_some]
  · rw [hinfoCookie, ← hsix, ifTlvStr_of_mem hreverse (List.mem_reverse.mpr hcookie)]
  · rw [hinfoBosip, ← hfive, ifTlvStr_of_mem hreverse (List.mem_reverse.mpr hbosip)]
  · rw [aimSendcookie]
    split
    · next hshort => exact iff_of_true rfl hshort.2
    · next hlong => exact iff_of_false (by simp) fun hlt => hlong ⟨hc, hlt⟩
  · intro r hr
    rw [aimSendcookie] at hr
    split at hr
    · cases hr
    · next hlong =>
      obtain rfl := Option.some.inj hr
      have hlen : aimCookielen ≤ cookie.value.length := by
        by_contra hlt
        exact hlong ⟨hc, Nat.lt_of_not_le hlt⟩
      rcases s.post_spec c 0x01 (4 + 2 + 2 + aimCookielen) (putCookie cookie.value) with
        ⟨hno, -⟩ | ⟨fr, sess, -, hdata, hpost⟩
      · exact absurd hc hno
      refine ⟨fr, by rw [hpost], fun shown => ?_⟩
      have hshort : ∀ arg ∈ [((0x0006 : UInt16), cookie.value.take aimCookielen)],
          arg.2.length < 65536 := by
        rw [List.forall_mem_singleton, List.length_take]
        exact Nat.lt_of_le_of_lt (Nat.min_le_left _ _) (by decide)
      rw [Shows, hdata, written_putCookie hlen, List.drop_left' (aimutilPut32_length _),
        List.take_left' (aimutilPut32_length _), hasTlv_tlvOf hshort]
      simp

end Cookie

/-- A cookie of 256 bytes. -/
def grantCookie : AimTlv := createtlv 0x0006 256 (List.replicate 256 0x07)

/-- The server to show it to. -/
def grantBosip : AimTlv := createtlv 0x0005 2 [0x62, 0x6f]

theorem cookie_shown_grant :
    ∃ sn info, authParse ⟨encodeTlvchain [grantBosip, grantCookie], 0⟩ = some (sn, info) ∧
      info.cookie = some grantCookie.value ∧ info.bosip = some grantBosip.value ∧
      (aimSendcookie 1 grantCookie.value authRequester = none ↔
        grantCookie.value.length < aimCookielen) ∧
      ∀ r, aimSendcookie 1 grantCookie.value authRequester = some r →
        ∃ fr, r.2.passed = authRequester.passed ++ [fr] ∧
          ∀ shown, Shows shown fr.data.written ↔ shown = grantCookie.value.take aimCookielen := by
  refine cookie_shown (l := [grantBosip, grantCookie]) (by decide) ?_ rfl
    (List.mem_cons_of_mem _ List.mem_cons_self) rfl List.mem_cons_self rfl ⟨by decide, by decide⟩
  intro tlv htlv
  rcases List.mem_pair.mp htlv with rfl | rfl
  · exact Nat.zero_le _
  · exact Nat.zero_le _

end Libfaim
