import Libfaim.Chat.Room
import Libfaim.Search
import Libfaim.Tlv.Agree

/-!
# Answers with what was asked for

The answers to `aim_getinfo`, `aim_chat_join` and `aim_usersearch_address` do not repeat what was
asked; the client gets that from the cache. Whatever happened before, the answer to an outstanding
request tells the client what the server says together with what was asked for (`answers_told`).
-/

namespace Libfaim

/-! ## What servers say -/

/-- The types of the TLVs with the encoding and the text of an info. -/
def infoTypes (infotype : UInt16) : UInt16 × UInt16 :=
  if infotype = aimGetinfoGeneralinfo then (0x0001, 0x0002) else (0x0003, 0x0004)

/-- The user, and a profile or an away message. -/
structure InfoSaid where
  user : UserBlock
  encoding : Option (List UInt8)
  text : Option (List UInt8)

def InfoSaid.SaidBy (info : InfoSaid) (infotype : UInt16) (bs : AimBstream) : Prop :=
  ∃ tlvs, bs.rest = info.user.encode ++ encodeTlvchain tlvs ∧
    TlvIs tlvs (infoTypes infotype).1 info.encoding ∧ TlvIs tlvs (infoTypes infotype).2 info.text

/-- The server of a chat, and the cookie to show there. -/
structure ChatSaid where
  ip : List UInt8
  cookie : List UInt8

def ChatSaid.SaidBy (chat : ChatSaid) (bs : AimBstream) : Prop :=
  ∃ tlvs, bs.rest = encodeTlvchain tlvs ∧
    TlvIs tlvs 0x000d (some (aimutilPut16 aimConnTypeChat)) ∧ TlvIs tlvs 0x0005 (some chat.ip) ∧
    TlvIs tlvs 0x0006 (some chat.cookie)

/-- The names of a search, in the order in which they are handed on. -/
def NamesSaid (names : List (List UInt8)) (bs : AimBstream) : Prop :=
  ∃ tlvs, bs.rest = encodeTlvchain tlvs ∧
    names = (tlvsOfType 0x0001 tlvs).reverse.map fun tlv => (cstr tlv.value).take maxsnlen

/-! ## What is read back from the cache -/

theorem load_getinfo (sn : List UInt8) (infotype : UInt16) :
    (AimPrivInforeq.load (SnacRequest.getinfo sn infotype).data).infotype = infotype :=
  AimPrivInforeq.load_store ⟨sn, infotype⟩

theorem load_chatJoin (exchange : UInt16) {roomname : List UInt8} (inst : UInt16)
    (h : strlen roomname < 128) :
    Chatsnacinfo.load (SnacRequest.chatJoin exchange roomname inst).data =
      ⟨exchange, cstr roomname, inst⟩ := by
  obtain ⟨hexchange, hinst⟩ := Chatsnacinfo.load_store ⟨exchange, roomname, inst⟩
  have hlen : (aimutilPutle16 exchange).length = 2 := Endian.leBytes_length ..
  have hname : (Chatsnacinfo.load (Chatsnacinfo.store ⟨exchange, roomname, inst⟩)).name =
      cstr roomname := by
    rw [Chatsnacinfo.load, Chatsnacinfo.store, List.append_assoc, List.drop_left' hlen]
    dsimp only
    rw [List.take_left' (strncpy_length roomname 128), cstr_strncpy,
      List.take_of_length_le (Nat.le_of_lt h)]
  exact (Chatsnacinfo.mk.injEq ..).mpr ⟨hexchange, hname, hinst⟩

theorem cstr_usersearchAddress (address : List UInt8) :
    cstr (SnacRequest.usersearchAddress address).data = cstr address := by
  rw [SnacRequest.data, cstr_append_zero, cstr_cstr]

/-! ## The answers -/

section Told

variable {snacs : SnacCache} {id : UInt32} {e : AimSnac} {bs : AimBstream}

/-- The text is looked up under the types of what was asked for. -/
theorem userinfo_told {infotype : UInt16} (hfound : (aimRemsnac id snacs).1 = some e)
    (hdata : e.data ≠ []) (hload : (AimPrivInforeq.load e.data).infotype = infotype)
    (htype : infotype = aimGetinfoGeneralinfo ∨ infotype = aimGetinfoAwaymessage)
    {info : InfoSaid} (hsaid : info.SaidBy infotype bs) :
    ∃ user, info.user.Says user ∧ userinfo snacs id bs =
      some (some ⟨user, infotype, info.encoding, info.text⟩, (aimRemsnac id snacs).2) := by
  obtain ⟨tlvs, hrest, hencoding, htext⟩ := hsaid
  obtain ⟨user, bs', hextract, hrest', hsays⟩ := info.user.extract hrest
  refine ⟨user, hsays, ?_⟩
  have hreq : userinfoInforeq (some e) = some e := by
    rw [userinfoInforeq, Option.filter_some, if_pos (decide_eq_true hdata)]
  have hknown : ¬ (infotype ≠ aimGetinfoGeneralinfo ∧ infotype ≠ aimGetinfoAwaymessage ∧
      infotype ≠ aimGetinfoCapabilities) := by
    rintro ⟨hgeneral, haway, -⟩
    exact htype.elim hgeneral haway
  have hcall : userinfoText infotype user tlvs.reverse =
      some ⟨user, infotype, info.encoding, info.text⟩ := by
    rw [← hencoding.reverse.str, ← htext.reverse.str, userinfoText, infoTypes]
    rcases htype with rfl | rfl
    · rfl
    · rfl
  rw [userinfo]
  dsimp only
  rw [hfound, hreq]
  dsimp only
  rw [hload, if_neg hknown, hextract, Option.bind_eq_bind, Option.bind_some]
  dsimp only
  rw [aimReadtlvchain_encode tlvs hrest', Option.bind_eq_bind, Option.bind_some]
  dsimp only
  rw [hcall]
  rfl

theorem redirect_told (hfound : (aimRemsnac id snacs).1 = some e) (hdata : e.data ≠ [])
    {chat : ChatSaid} (hsaid : chat.SaidBy bs) :
    redirect snacs id bs = some (some ⟨aimConnTypeChat, some chat.ip, some chat.cookie,
      some (Chatsnacinfo.load e.data)⟩, (aimRemsnac id snacs).2) := by
  obtain ⟨tlvs, hrest, hgroup, hip, hcookie⟩ := hsaid
  have hnum : aimGettlv16 tlvs.reverse 0x000d 1 = aimConnTypeChat :=
    aimGettlv16_of_inside (TlvIs.num (x := some aimConnTypeChat) hgroup.reverse 0
      aimutilPut16_length aimutilGet16_put16)
  have hthere : ∀ {t v}, TlvIs tlvs t (some v) → aimGettlv tlvs.reverse t 1 ≠ none := by
    intro t v h hnone
    have hsome := h.reverse.isSome
    rw [hnone] at hsome
    cases hsome
  have hall : redirectGroup tlvs.reverse = some aimConnTypeChat := by
    rw [redirectGroup, if_neg, hnum]
    rintro (h | h | h)
    · exact hthere hgroup h
    · exact hthere hip h
    · exact hthere hcookie h
  rw [redirect, aimReadtlvchain_encode tlvs hrest, Option.bind_eq_bind, Option.bind_some]
  dsimp only
  rw [hall]
  dsimp only
  rw [hfound, redirectCsi, if_pos rfl]
  dsimp only
  rw [if_neg hdata, hip.reverse.str, hcookie.reverse.str]
  rfl

/-- The names are told with the address in the entry, if it has one. -/
theorem reply_said {names : List (List UInt8)} (hsaid : NamesSaid names bs) :
    reply snacs id bs = some (⟨(replySearchaddr (aimRemsnac id snacs).1).map fun snac =>
      cstr snac.data, names⟩, (aimRemsnac id snacs).2) := by
  obtain ⟨tlvs, hrest, rfl⟩ := hsaid
  have hcount : (tlvsOfType 0x0001 tlvs.reverse).length ≤ 0 + aimCounttlvchain tlvs.reverse := by
    rw [Nat.zero_add]
    exact length_tlvsOfType_le 0x0001 tlvs.reverse
  have hnames := replyNames_eq tlvs.reverse hcount
  rw [List.drop_zero, tlvsOfType_reverse] at hnames
  rw [reply]
  dsimp only
  rw [aimReadtlvchain_encode tlvs hrest, Option.bind_eq_bind, Option.bind_some]
  dsimp only
  rw [hnames]
  rfl

theorem reply_told (hfound : (aimRemsnac id snacs).1 = some e) (hdata : e.data ≠ [])
    {names : List (List UInt8)} (hsaid : NamesSaid names bs) :
    reply snacs id bs = some (⟨some (cstr e.data), names⟩, (aimRemsnac id snacs).2) := by
  have haddr : replySearchaddr (some e) = some e := by
    rw [replySearchaddr, Option.filter_some, if_pos (decide_eq_true hdata)]
  rw [reply_said hsaid, hfound, haddr]
  rfl

end Told

/-- The entry was cached by the request `r` and is outstanding. -/
def Awaits (calls : List SnacCall) (r : SnacRequest) (e : AimSnac) : Prop :=
  RequestedBy calls r e ∧ Outstanding (calls.map SnacCall.op) e

/-- After any calls on the cache with fewer than 2^32 requests, the answer to an outstanding
request tells the client what the server says, together with what was asked for: the kind of info,
the room (whose name fits its array), or the address. The request is then out of the cache, and no
other is. -/
theorem answers_told (calls : List SnacCall)
    (hcount : (calls.map SnacCall.op).countP (·.isCachesnac) < 2 ^ 32) :
    (∀ sn infotype e, Awaits calls (.getinfo sn infotype) e →
      infotype = aimGetinfoGeneralinfo ∨ infotype = aimGetinfoAwaymessage →
      ∀ (info : InfoSaid) bs, info.SaidBy infotype bs → ∃ user, info.user.Says user ∧
        userinfo (runCalls calls) e.id bs =
          some (some ⟨user, infotype, info.encoding, info.text⟩,
            (aimRemsnac e.id (runCalls calls)).2)) ∧
    (∀ exchange roomname inst e, Awaits calls (.chatJoin exchange roomname inst) e →
      strlen roomname < 128 → ∀ (chat : ChatSaid) bs, chat.SaidBy bs →
        redirect (runCalls calls) e.id bs =
          some (some ⟨aimConnTypeChat, some chat.ip, some chat.cookie,
            some ⟨exchange, cstr roomname, inst⟩⟩, (aimRemsnac e.id (runCalls calls)).2)) ∧
    (∀ address e, Awaits calls (.usersearchAddress address) e →
      ∀ names bs, NamesSaid names bs → reply (runCalls calls) e.id bs =
        some (⟨some (cstr address), names⟩, (aimRemsnac e.id (runCalls calls)).2)) ∧
    ∀ id id', snacMap (aimRemsnac id (runCalls calls)).2 id' =
      if id' = id then none else snacMap (runCalls calls) id' := by
  refine ⟨?_, ?_, ?_, ?_⟩
  · rintro sn infotype e ⟨hreq, hout⟩ htype info bs hsaid
    obtain ⟨-, -, hdata⟩ := (requestedBy_getinfo_iff hreq).mp ⟨sn, infotype, hreq⟩
    have hload : (AimPrivInforeq.load e.data).infotype = infotype := by
      rw [hreq.data, load_getinfo]
    exact userinfo_told (aimRemsnac_of_outstanding hcount hout) hdata hload htype hsaid
  · rintro exchange roomname inst e ⟨hreq, hout⟩ hname chat bs hsaid
    obtain ⟨-, -, hdata⟩ := (requestedBy_chatJoin_iff hreq).mp ⟨exchange, roomname, inst, hreq⟩
    rw [redirect_told (aimRemsnac_of_outstanding hcount hout) hdata hsaid, hreq.data,
      load_chatJoin exchange inst hname]
  · rintro address e ⟨hreq, hout⟩ names bs hsaid
    obtain ⟨-, -, hdata⟩ := (requestedBy_usersearchAddress_iff hreq).mp ⟨address, hreq⟩
    rw [reply_told (aimRemsnac_of_outstanding hcount hout) hdata hsaid, hreq.data,
      cstr_usersearchAddress]
  · intro id id'
    exact snacMap_aimRemsnac (snacInv_runSnacs _ hcount).wf id id'

section Example

/-- A chat and an address are asked for, and the answer to the second comes. -/
theorem answers_told_search :
    let calls : List SnacCall := [.request (.chatJoin 4 [0x68, 0x69] 0) 0,
      .request (.usersearchAddress [0x62]) 1]
    ∃ snacs, reply (runCalls calls) 2 ⟨encodeTlvchain [createtlv 0x0001 1 [0x63]], 0⟩ =
      some (⟨some [0x62], [[0x63]]⟩, snacs) ∧ (snacMap snacs 1).isSome := by
  intro calls
  obtain ⟨-, -, hsearch, hothers⟩ := answers_told calls (by decide)
  have hreq : RequestedBy calls (.usersearchAddress [0x62])
      ⟨2, 0x000a, 0x0002, 0x0000, [0x62, 0x00], 1⟩ :=
    ⟨[.request (.chatJoin 4 [0x68, 0x69] 0) 0], 1, [], rfl, rfl⟩
  have hout : Outstanding (calls.map SnacCall.op) ⟨2, 0x000a, 0x0002, 0x0000, [0x62, 0x00], 1⟩ :=
    ⟨[.cachesnac 0x0001 0x0004 0x0000 (SnacRequest.chatJoin 4 [0x68, 0x69] 0).data 0], _, [], rfl,
      rfl, fun op hop => (nomatch hop)⟩
  have hnames : NamesSaid [[0x63]] ⟨encodeTlvchain [createtlv 0x0001 1 [0x63]], 0⟩ :=
    ⟨[createtlv 0x0001 1 [0x63]], rfl, by decide⟩
  refine ⟨_, hsearch [0x62] _ ⟨hreq, hout⟩ _ _ hnames, ?_⟩
  rw [hothers, if_neg (by decide)]
  rfl

end Example

end Libfaim
