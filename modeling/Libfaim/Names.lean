import Libfaim.Auth.Response
import Libfaim.Conn.Private.Opened
import Libfaim.Conn.Rendezvous
import Libfaim.Memory

/-!
# Stored names

Five functions copy a name they are given to an array, with the size of the array as the bound of
the copy: the login response to `sess->sn`, `aim_chat_join` and `aim_getinfo` to what they cache
with their SNACs, and the two that open direct connections to the records of these. A name that
fills its array is stored without a NUL (`storedNames_iff`).
-/

namespace Libfaim

/-- The array has a NUL, and up to there it is a prefix of the input. -/
def StoredName (input array : List UInt8) : Prop := 0 ∈ array ∧ cstr array <+: cstr input

/-- `strncpy` with the size of the array stores a name exactly if it is shorter than the array. -/
theorem storedName_strncpy_iff (input : List UInt8) (n : Nat) :
    StoredName input (strncpy input n) ↔ strlen input < n := by
  rw [StoredName, zero_mem_strncpy_iff, cstr_strncpy]
  exact and_iff_left (List.take_prefix n _)

/-! ## The login response -/

/-- With a screen name in the response, `sess->sn` is its copy. -/
theorem authParse_sn {bs bs' : AimBstream} {tlvlist : List AimTlv}
    {r : List UInt8 × AimAuthrespInfo} {sn : List UInt8}
    (hread : aimReadtlvchain bs = some (tlvlist, bs'))
    (hsn : aimGettlvStr tlvlist 0x0001 1 = some sn) (hparse : authParse bs = some r) :
    r.1 = strncpy sn (maxsnlen + 1) := by
  have hpresent : (aimGettlv tlvlist 0x0001 1).isSome := by
    rw [aimGettlvStr, Option.map_eq_some_iff] at hsn
    obtain ⟨tlv, htlv, -⟩ := hsn
    rw [htlv, Option.isSome_some]
  unfold authParse at hparse
  rw [hread, Option.bind_eq_bind, Option.bind_some] at hparse
  obtain ⟨info, -, hinfo⟩ := Option.bind_eq_some_iff.mp hparse
  cases hinfo
  simp only [authrespSn, ifTlvStr, if_pos hpresent, hsn]

/-- A login response of a screen name and no more. -/
theorem authParse_single {tlv : AimTlv} (htype : tlv.type = 0x0001) :
    ∃ r, authParse ⟨encodeTlvchain [tlv], 0⟩ = some r ∧ r.1 = strncpy tlv.value (maxsnlen + 1) := by
  have hread := @aimReadtlvchain_encode [tlv] ⟨encodeTlvchain [tlv], 0⟩ rfl
  have hsn : aimGettlvStr [tlv].reverse 0x0001 1 = some tlv.value := by
    simp only [aimGettlvStr, List.reverse_singleton, aimGettlv_one, List.find?_cons, htype,
      decide_true, Option.map_some]
  have hwidth : ∀ tlv' ∈ [tlv], authrespWidth tlv'.type ≤ tlv'.value.length := by
    intro tlv' hmem
    obtain rfl := List.mem_singleton.mp hmem
    rw [htype]
    exact Nat.zero_le _
  obtain ⟨info, hinfo⟩ := authrespInfo_isSome hwidth
  have hparse : authParse ⟨encodeTlvchain [tlv], 0⟩ = some (authrespSn [tlv], info) := by
    rw [authParse_encode rfl, List.reverse_singleton, hinfo, Option.map_some]
  exact ⟨_, hparse, authParse_sn hread hsn hparse⟩

/-! ## Cached names -/

/-- The entry that is cached for a request on a usable connection. -/
theorem remsnac_request {s : Requester} {c : ConnPtr} (hc : s.sess.Usable c) (now : Int)
    (req : Request) : (aimRemsnac s.snacs.snacidNext (s.request c now req).2.snacs).1 =
      some ⟨s.snacs.snacidNext, req.family, req.type, 0x0000, req.data, now⟩ := by
  rcases s.request_spec c now req with ⟨hnot, -⟩ | ⟨fr, sess, -, -, hrequest⟩
  · exact absurd hc hnot
  · rw [hrequest, aimRemsnac_fst, snacMap_aimCachesnac, if_pos rfl]

/-- A guard that passes. -/
theorem make_of_needConn {c : ConnPtr} {make : Except Int Request} {req : Request}
    (h : needConn c make = .ok req) : make = .ok req := by
  unfold needConn at h
  by_cases hc : c = 0
  · rw [if_pos hc] at h
    cases h
  · rwa [if_neg hc] at h

theorem make_of_needStr {s : List UInt8} {make : List UInt8 → Except Int Request} {req : Request}
    (h : needStr (some s) make = .ok req) : make s = .ok req := by
  unfold needStr needArg at h
  dsimp only at h
  by_cases hlen : strlen s = 0
  · rw [if_pos hlen] at h
    cases h
  · rwa [if_neg hlen] at h

theorem data_of_aimChatJoin {c : ConnPtr} {exchange inst : UInt16} {roomname : List UInt8}
    {req : Request} (h : aimChatJoin c exchange (some roomname) inst = .ok req) :
    req.data = Chatsnacinfo.store ⟨exchange, roomname, inst⟩ := by
  have hmake := make_of_needStr (make_of_needConn h)
  obtain rfl := Except.ok.inj hmake
  rfl

theorem data_of_aimGetinfo {c : ConnPtr} {infotype : UInt16} {sn : List UInt8} {req : Request}
    (h : aimGetinfo c (some sn) infotype = .ok req) :
    req.data = AimPrivInforeq.store ⟨sn, infotype⟩ := by
  have hmake := make_of_needConn h
  obtain rfl := Except.ok.inj hmake
  rfl

/-- `csi.name` in the data that `aim_chat_join` caches. -/
def cachedRoomname (snac : AimSnac) : List UInt8 := (snac.data.drop 2).take 128

/-- `privdata.sn` in the data that `aim_getinfo` caches. -/
def cachedInfoname (snac : AimSnac) : List UInt8 := snac.data.take 33

theorem cachedRoomname_store (csi : Chatsnacinfo) (snac : AimSnac) (h : snac.data = csi.store) :
    cachedRoomname snac = strncpy csi.name 128 := by
  have hexchange : (aimutilPutle16 csi.exchange).length = 2 := aimutilPutle16_length _
  rw [cachedRoomname, h, Chatsnacinfo.store, List.append_assoc, List.drop_left' hexchange,
    List.take_left' (strncpy_length _ _)]

theorem cachedInfoname_store (privdata : AimPrivInforeq) (snac : AimSnac)
    (h : snac.data = privdata.store) : cachedInfoname snac = strncpy privdata.sn 33 := by
  rw [cachedInfoname, h, AimPrivInforeq.store, List.append_assoc,
    List.take_left' (strncpy_length _ _)]

/-! ## The names of peers -/

namespace PrivSession

variable {s t : PrivSession}

/-- The record that `internal` of the connection points to has this name. -/
def PeerName (s : PrivSession) (c : ConnPtr) (sn : List UInt8) : Prop :=
  ∃ cookie ip, s.store.record (s.internal c) = some (.intdata cookie sn ip)

theorem peerName_listenRend (s : PrivSession) (subtype : UInt16) (listenfd : Int)
    (cookie : CookiePtr) (ck : Cookie) (destsn : List UInt8) :
    (s.listenRend subtype listenfd cookie ck destsn).2.PeerName
      (s.listenRend subtype listenfd cookie ck destsn).1 (strncpy destsn 33) := by
  refine ⟨ck, List.replicate 22 0, ?_⟩
  simp only [listenRend, Function.update_self]
  exact HandleStore.Store.alloc_record_next

theorem peerName_directimConnect (s : PrivSession) (sn : List UInt8) (addr : Option (List UInt8))
    (cookie : Cookie) (outcome : ConnectOutcome) :
    (s.aimDirectimConnect (some sn) addr cookie outcome).2.PeerName
      (s.aimDirectimConnect (some sn) addr cookie outcome).1 (strncpy sn 33) := by
  refine ⟨cookie, (addr.map fun addr => strncpy addr 22).getD (List.replicate 22 0), ?_⟩
  simp only [aimDirectimConnect, Function.update_self]
  exact HandleStore.Store.alloc_record_next

/-- Where a connection is returned, its record has the copy of the name. -/
theorem peerName_directimInitiate {conn c : ConnPtr} {env : Listening} {stack : Cookie}
    {destsn : List UInt8} (h : s.aimDirectimInitiate conn env stack destsn = some (c, t))
    (hc : c ≠ 0) : t.PeerName c (strncpy destsn 33) := by
  unfold aimDirectimInitiate rendInitiate at h
  cases hip : env.localip with
  | none =>
    rw [hip] at h
    cases h
    exact absurd rfl hc
  | some localip =>
    rw [hip] at h
    dsimp only at h
    by_cases hfd : env.listenfd = -1
    · rw [if_pos hfd] at h
      cases h
      exact absurd rfl hc
    · rw [if_neg hfd] at h
      obtain ⟨⟨cookie, u⟩, -, hlisten⟩ := Option.map_eq_some_iff.mp h
      have hpeer := peerName_listenRend u aimConnSubtypeOftDirectim env.listenfd cookie
        (s.rendRequest conn env
          (aimRequestDirectim conn env.rand destsn localip 4443) stack).1 destsn
      rw [hlisten] at hpeer
      exact hpeer

end PrivSession

/-! ## All of them -/

/-- The name that is stored of an input has its NUL exactly if the input is shorter than the array:
33 bytes for a screen name and 128 for the name of a chat room. -/
theorem storedNames_iff (input : List UInt8) :
    (∀ bs bs' tlvlist r, aimReadtlvchain bs = some (tlvlist, bs') →
      aimGettlvStr tlvlist 0x0001 1 = some input → authParse bs = some r →
      (StoredName input r.1 ↔ strlen input < maxsnlen + 1)) ∧
    (∀ (s : Requester) c now exchange inst req,
      aimChatJoin c exchange (some input) inst = .ok req → s.sess.Usable c →
      ∃ snac, (aimRemsnac s.snacs.snacidNext (s.request c now req).2.snacs).1 = some snac ∧
        (StoredName input (cachedRoomname snac) ↔ strlen input < 128)) ∧
    (∀ (s : Requester) c now infotype req,
      aimGetinfo c (some input) infotype = .ok req → s.sess.Usable c →
      ∃ snac, (aimRemsnac s.snacs.snacidNext (s.request c now req).2.snacs).1 = some snac ∧
        (StoredName input (cachedInfoname snac) ↔ strlen input < 33)) ∧
    (∀ (s t : PrivSession) conn c env stack,
      s.aimDirectimInitiate conn env stack input = some (c, t) → c ≠ 0 →
      ∃ name, t.PeerName c name ∧ (StoredName input name ↔ strlen input < 33)) ∧
    ∀ (s t : PrivSession) addr cookie outcome c,
      s.aimDirectimConnect (some input) addr cookie outcome = (c, t) →
      ∃ name, t.PeerName c name ∧ (StoredName input name ↔ strlen input < 33) := by
  refine ⟨?_, ?_, ?_, ?_, ?_⟩
  · intro bs bs' tlvlist r hread hsn hparse
    rw [authParse_sn hread hsn hparse]
    exact storedName_strncpy_iff input _
  · intro s c now exchange inst req hjoin hc
    refine ⟨_, remsnac_request hc now req, ?_⟩
    rw [cachedRoomname_store ⟨exchange, input, inst⟩ _ (data_of_aimChatJoin hjoin)]
    exact storedName_strncpy_iff input _
  · intro s c now infotype req hget hc
    refine ⟨_, remsnac_request hc now req, ?_⟩
    rw [cachedInfoname_store ⟨input, infotype⟩ _ (data_of_aimGetinfo hget)]
    exact storedName_strncpy_iff input _
  · intro s t conn c env stack h hc
    exact ⟨_, PrivSession.peerName_directimInitiate h hc, storedName_strncpy_iff input _⟩
  · intro s t addr cookie outcome c h
    have hpeer := s.peerName_directimConnect input addr cookie outcome
    rw [h] at hpeer
    exact ⟨_, hpeer, storedName_strncpy_iff input _⟩

/-- A name of 33 letters is stored with its NUL for the chat room only. -/
theorem storedNames_letters :
    let sn := List.replicate 33 (0x61 : UInt8)
    (∃ r, authParse ⟨encodeTlvchain [createtlv 0x0001 33 sn], 0⟩ = some r ∧
      ¬ StoredName sn r.1) ∧
    (∃ req snac, aimChatJoin 1 4 (some sn) 0 = .ok req ∧
      (aimRemsnac 1 (onlineSession.rq.request 1 0 req).2.snacs).1 = some snac ∧
      StoredName sn (cachedRoomname snac)) ∧
    (∃ req snac, aimGetinfo 1 (some sn) 0x0001 = .ok req ∧
      (aimRemsnac 1 (onlineSession.rq.request 1 0 req).2.snacs).1 = some snac ∧
      ¬ StoredName sn (cachedInfoname snac)) ∧
    (∃ c t name, onlineSession.aimDirectimInitiate 1 listening (memory 0) sn = some (c, t) ∧
      t.PeerName c name ∧ ¬ StoredName sn name) ∧
    ∃ c t name,
      onlineSession.aimDirectimConnect (some sn) none (memory 0) (.connected 5 0) = (c, t) ∧
        t.PeerName c name ∧ ¬ StoredName sn name := by
  intro sn
  have hlen : strlen sn = 33 := by decide
  have husable : onlineSession.rq.sess.Usable 1 := ⟨by decide, by decide⟩
  obtain ⟨hlogin, hjoin, hinfo, hinitiate, hconnect⟩ := storedNames_iff sn
  rw [hlen] at hlogin hjoin hinfo hinitiate hconnect
  refine ⟨?_, ?_, ?_, ?_, ?_⟩
  · obtain ⟨r, hparse, -⟩ := @authParse_single (createtlv 0x0001 33 sn) rfl
    have hread := @aimReadtlvchain_encode [createtlv 0x0001 33 sn]
      ⟨encodeTlvchain [createtlv 0x0001 33 sn], 0⟩ rfl
    have hstored := hlogin _ _ _ r hread rfl hparse
    exact ⟨r, hparse, fun h => absurd (hstored.mp h) (by decide)⟩
  · obtain ⟨snac, hsnac, hstored⟩ := hjoin onlineSession.rq 1 0 4 0 _ rfl husable
    exact ⟨_, snac, rfl, hsnac, hstored.mpr (by decide)⟩
  · obtain ⟨snac, hsnac, hstored⟩ := hinfo onlineSession.rq 1 0 0x0001 _ rfl husable
    exact ⟨_, snac, rfl, hsnac, fun h => absurd (hstored.mp h) (by decide)⟩
  · have hthird : (onlineSession.aimDirectimInitiate 1 listening (memory 0) sn).map Prod.fst =
        some 3 := by decide
    obtain ⟨⟨c, t⟩, hopen, rfl⟩ := Option.map_eq_some_iff.mp hthird
    obtain ⟨name, hname, hstored⟩ := hinitiate _ t 1 3 listening (memory 0) hopen (by decide)
    exact ⟨3, t, name, hopen, hname, fun h => absurd (hstored.mp h) (by decide)⟩
  · obtain ⟨name, hname, hstored⟩ := hconnect onlineSession _ none (memory 0) (.connected 5 0) _ rfl
    exact ⟨_, _, name, rfl, hname, fun h => absurd (hstored.mp h) (by decide)⟩

/-- A login response with a screen name of 33 letters leaves no NUL in `sess->sn`. -/
theorem not_storedName_login :
    let sn := List.replicate 33 (0x61 : UInt8)
    ∃ r, authParse ⟨encodeTlvchain [createtlv 0x0001 33 sn], 0⟩ = some r ∧
      ¬ StoredName sn r.1 := by
  intro sn
  obtain ⟨r, hparse, hname⟩ := @authParse_single (createtlv 0x0001 33 sn) rfl
  refine ⟨r, hparse, fun hstored => ?_⟩
  have hvalue : (createtlv 0x0001 33 sn).value = sn := rfl
  rw [hname, hvalue, storedName_strncpy_iff] at hstored
  exact absurd hstored (by decide)

end Libfaim
