import Libfaim.Session
import Libfaim.Snac.Requests

/-!
# Replies that look their request up

`userinfo` (`info.c`), `redirect` (`service.c`) and `reply` (`search.c`) take the entry out of the
cache that has the id of the reply, and go on with its data as the structure, or the string, that
the request of that reply stores. The server sends the id, and none of the three looks at family and
type of the entry as `parseinfo` (`chatnav.c`) does. `replies_typed_iff` says for which entries that
is right.
-/

namespace Libfaim

/-! ## User info (family 2, subtype 6) -/

def aimGetinfoGeneralinfo : UInt16 := 0x0001
def aimGetinfoAwaymessage : UInt16 := 0x0003
def aimGetinfoCapabilities : UInt16 := 0x0004

/-- What `userinfo` gives the client's callback. -/
structure UserinfoCall where
  userinfo : AimUserinfo
  infotype : UInt16
  textEncoding : Option (List UInt8)
  text : Option (List UInt8)
  deriving DecidableEq

/-- The entry whose data `userinfo` takes for an `aim_priv_inforeq`. -/
def userinfoInforeq (origsnac : Option AimSnac) : Option AimSnac :=
  origsnac.filter fun snac => snac.data ≠ []

/-- The texts and the capabilities, by what was asked for. -/
def userinfoText (infotype : UInt16) (userinfo : AimUserinfo) (tlvlist : List AimTlv) :
    Option UserinfoCall :=
  if infotype = aimGetinfoGeneralinfo then
    some ⟨userinfo, infotype, aimGettlvStr tlvlist 0x0001 1, aimGettlvStr tlvlist 0x0002 1⟩
  else if infotype = aimGetinfoAwaymessage then
    some ⟨userinfo, infotype, aimGettlvStr tlvlist 0x0003 1, aimGettlvStr tlvlist 0x0004 1⟩
  else
    match aimGettlv tlvlist 0x0005 1 with
    | none => some ⟨userinfo, infotype, none, none⟩
    | some ct => do
      let (capabilities, _) ← aimGetcap ct.length.toNat (aimBstreamInit ct.value ct.length.toNat)
      return ⟨{ userinfo with
        capabilities := capabilities
        present := aimUserinfoPresentCapabilities }, infotype, none, none⟩

/-- `userinfo`: the call of the client's callback, if there is one, and the cache. -/
def userinfo (snacs : SnacCache) (id : UInt32) (bs : AimBstream) :
    Option (Option UserinfoCall × SnacCache) :=
  let (origsnac, snacs) := aimRemsnac id snacs
  match userinfoInforeq origsnac with
  | none => some (none, snacs)
  | some origsnac =>
    let inforeq := AimPrivInforeq.load origsnac.data
    if inforeq.infotype ≠ aimGetinfoGeneralinfo ∧ inforeq.infotype ≠ aimGetinfoAwaymessage ∧
        inforeq.infotype ≠ aimGetinfoCapabilities then some (none, snacs)
    else do
      let (userinfo, bs) ← aimExtractuserinfo bs
      let (tlvlist, _) ← aimReadtlvchain bs
      let call ← userinfoText inforeq.infotype userinfo tlvlist
      return (some call, snacs)

/-! ## Redirect (family 1, subtype 5) -/

/-- `struct aim_redirect_data`; `chat` is cleared unless the group is that of a chat. -/
structure AimRedirectData where
  group : UInt16
  ip : Option (List UInt8)
  cookie : Option (List UInt8)
  chat : Option Chatsnacinfo
  deriving DecidableEq, Repr

/-- The group, if all three TLVs are there. -/
def redirectGroup (tlvlist : List AimTlv) : Option UInt16 :=
  if aimGettlv tlvlist 0x000d 1 = none ∨ aimGettlv tlvlist 0x0005 1 = none ∨
      aimGettlv tlvlist 0x0006 1 = none then none
  else some (aimGettlv16 tlvlist 0x000d 1)

/-- The entry whose data `redirect` takes for a `chatsnacinfo`. -/
def redirectCsi (group : UInt16) (origsnac : Option AimSnac) : Option AimSnac :=
  if group = aimConnTypeChat then origsnac else none

/-- `redirect`. There is no result where it goes through a null pointer. -/
def redirect (snacs : SnacCache) (id : UInt32) (bs : AimBstream) :
    Option (Option AimRedirectData × SnacCache) := do
  let (tlvlist, _) ← aimReadtlvchain bs
  match redirectGroup tlvlist with
  | none => return (none, snacs)
  | some group =>
    let ip := aimGettlvStr tlvlist 0x0005 1
    let cookie := aimGettlvStr tlvlist 0x0006 1
    let (origsnac, snacs) := aimRemsnac id snacs
    match redirectCsi group origsnac with
    | none => return (some ⟨group, ip, cookie, none⟩, snacs)
    | some origsnac =>
      if origsnac.data = [] then none
      else return (some ⟨group, ip, cookie, some (Chatsnacinfo.load origsnac.data)⟩, snacs)

/-! ## Search reply (family 10, subtype 3) -/

/-- What `reply` gives the client's callback: the address that was searched for and the names. -/
structure SearchCall where
  address : Option (List UInt8)
  names : List (List UInt8)
  deriving DecidableEq, Repr

/-- The loop over the TLVs of type 1, with at most `m` passes. -/
def replyNames (tlvlist : List AimTlv) : Nat → Nat → List (List UInt8)
  | 0, _ => []
  | m + 1, j =>
    match aimGettlvStr tlvlist 0x0001 (j + 1) with
    | none => []
    | some cur => (cstr cur).take 32 :: replyNames tlvlist m (j + 1)

/-- The entry whose data `reply` hands on as an address. -/
def replySearchaddr (snac2 : Option AimSnac) : Option AimSnac :=
  snac2.filter fun snac => snac.data ≠ []

/-- `reply` -/
def reply (snacs : SnacCache) (id : UInt32) (bs : AimBstream) :
    Option (SearchCall × SnacCache) := do
  let (snac2, snacs) := aimRemsnac id snacs
  let searchaddr := (replySearchaddr snac2).map fun snac => cstr snac.data
  let (tlvlist, _) ← aimReadtlvchain bs
  return (⟨searchaddr, replyNames tlvlist (aimCounttlvchain tlvlist) 0⟩, snacs)

/-! ## What is taken for what -/

section Typed

variable (calls : List SnacCall) (id : UInt32) (bs : AimBstream)

/-- The entry that a reply with the id `id` finds after the calls. -/
def found : Option AimSnac := (aimRemsnac id (runCalls calls)).1

/-- What `redirect` takes for a `chatsnacinfo` in the entry it finds. -/
def redirectReads : Option AimSnac := do
  let (tlvlist, _) ← aimReadtlvchain bs
  let group ← redirectGroup tlvlist
  redirectCsi group (found calls id)

variable {calls id}

/-- An entry whose data is looked at unless there is none. -/
theorem filter_typed_iff {P : AimSnac → Prop} {family type : UInt16}
    (hreq : ∀ {r e}, RequestedBy calls r e →
      (P e ↔ e.family = family ∧ e.type = type ∧ e.data ≠ [])) :
    (∀ e, (found calls id).filter (fun snac => snac.data ≠ []) = some e → P e) ↔
    ∀ e, found calls id = some e → e.data = [] ∨ e.family = family ∧ e.type = type := by
  refine forall_congr' fun e => ?_
  rw [Option.filter_eq_some_iff, decide_eq_true_eq]
  constructor
  · intro h hfound
    by_cases hdata : e.data = []
    · exact .inl hdata
    · obtain ⟨r, hr⟩ := exists_request_of_remsnac hfound
      obtain ⟨hfamily, htype, -⟩ := (hreq hr).mp (h ⟨hfound, hdata⟩)
      exact .inr ⟨hfamily, htype⟩
  · rintro h ⟨hfound, hdata⟩
    obtain ⟨r, hr⟩ := exists_request_of_remsnac hfound
    obtain ⟨hfamily, htype⟩ := (h hfound).resolve_left hdata
    exact (hreq hr).mpr ⟨hfamily, htype, hdata⟩

theorem userinfo_typed_iff :
    (∀ e, userinfoInforeq (found calls id) = some e →
      ∃ sn infotype, RequestedBy calls (.getinfo sn infotype) e) ↔
    ∀ e, found calls id = some e → e.data = [] ∨ e.family = 0x0002 ∧ e.type = 0x0005 :=
  filter_typed_iff fun hr => requestedBy_getinfo_iff hr

theorem reply_typed_iff :
    (∀ e, replySearchaddr (found calls id) = some e →
      ∃ address, RequestedBy calls (.usersearchAddress address) e) ↔
    ∀ e, found calls id = some e → e.data = [] ∨ e.family = 0x000a ∧ e.type = 0x0002 :=
  filter_typed_iff fun hr => requestedBy_usersearchAddress_iff hr

theorem redirectReads_eq_some_iff (e : AimSnac) :
    redirectReads calls id bs = some e ↔
      ∃ tlvlist bs', aimReadtlvchain bs = some (tlvlist, bs') ∧
        redirectGroup tlvlist = some aimConnTypeChat ∧ found calls id = some e := by
  unfold redirectReads
  constructor
  · intro h
    obtain ⟨⟨tlvlist, bs'⟩, hread, h⟩ := Option.bind_eq_some_iff.mp h
    obtain ⟨group, hgroup, h⟩ := Option.bind_eq_some_iff.mp h
    unfold redirectCsi at h
    by_cases hchat : group = aimConnTypeChat
    · rw [if_pos hchat] at h
      exact ⟨tlvlist, bs', hread, hchat ▸ hgroup, h⟩
    · rw [if_neg hchat] at h
      cases h
  · rintro ⟨tlvlist, bs', hread, hgroup, hfound⟩
    refine Option.bind_eq_some_iff.mpr ⟨(tlvlist, bs'), hread, ?_⟩
    refine Option.bind_eq_some_iff.mpr ⟨aimConnTypeChat, hgroup, ?_⟩
    rw [redirectCsi, if_pos rfl]
    exact hfound

/-- The room that `redirect` gives the client is read from there. -/
theorem redirect_chat {call : AimRedirectData} {snacs : SnacCache}
    (h : redirect (runCalls calls) id bs = some (some call, snacs)) :
    call.chat = (redirectReads calls id bs).map fun snac => Chatsnacinfo.load snac.data := by
  unfold redirect at h
  obtain ⟨⟨tlvlist, bs'⟩, hread, h⟩ := Option.bind_eq_some_iff.mp h
  have hreads : redirectReads calls id bs =
      (redirectGroup tlvlist).bind fun group => redirectCsi group (found calls id) := by
    unfold redirectReads
    rw [hread]
    rfl
  rw [hreads]
  dsimp only at h
  cases hgroup : redirectGroup tlvlist with
  | none =>
    rw [hgroup] at h
    cases h
  | some group =>
    rw [hgroup] at h
    dsimp only at h
    rw [Option.bind_some, found]
    cases hcsi : redirectCsi group (aimRemsnac id (runCalls calls)).1 with
    | none =>
      rw [hcsi] at h
      cases h
      rfl
    | some origsnac =>
      rw [hcsi] at h
      dsimp only at h
      split at h
      · cases h
      · cases h
        rfl

theorem redirect_typed_iff :
    (∀ e, redirectReads calls id bs = some e →
      ∃ exchange roomname inst, RequestedBy calls (.chatJoin exchange roomname inst) e) ↔
    ∀ tlvlist bs', aimReadtlvchain bs = some (tlvlist, bs') →
      redirectGroup tlvlist = some aimConnTypeChat → ∀ e, found calls id = some e →
        e.family = 0x0001 ∧ e.type = 0x0004 ∧ e.data ≠ [] := by
  constructor
  · intro h tlvlist bs' hread hgroup e hfound
    obtain ⟨exchange, roomname, inst, hr⟩ :=
      h e ((redirectReads_eq_some_iff bs e).mpr ⟨tlvlist, bs', hread, hgroup, hfound⟩)
    exact (requestedBy_chatJoin_iff hr).mp ⟨exchange, roomname, inst, hr⟩
  · intro h e hreads
    obtain ⟨tlvlist, bs', hread, hgroup, hfound⟩ := (redirectReads_eq_some_iff bs e).mp hreads
    obtain ⟨r, hr⟩ := exists_request_of_remsnac hfound
    exact (requestedBy_chatJoin_iff hr).mpr (h tlvlist bs' hread hgroup e hfound)

end Typed

/-- After any calls, and for any reply, the data of an entry is only taken for what the request of
that reply stores exactly when the entry found is of that request's family and type, or is not
looked at: it has no data, or `redirect` is not about a chat. -/
theorem replies_typed_iff (calls : List SnacCall) (id : UInt32) (bs : AimBstream) :
    ((∀ e, userinfoInforeq (found calls id) = some e →
        ∃ sn infotype, RequestedBy calls (.getinfo sn infotype) e) ↔
      ∀ e, found calls id = some e → e.data = [] ∨ e.family = 0x0002 ∧ e.type = 0x0005) ∧
    ((∀ e, redirectReads calls id bs = some e →
        ∃ exchange roomname inst, RequestedBy calls (.chatJoin exchange roomname inst) e) ↔
      ∀ tlvlist bs', aimReadtlvchain bs = some (tlvlist, bs') →
        redirectGroup tlvlist = some aimConnTypeChat → ∀ e, found calls id = some e →
          e.family = 0x0001 ∧ e.type = 0x0004 ∧ e.data ≠ []) ∧
    ((∀ e, replySearchaddr (found calls id) = some e →
        ∃ address, RequestedBy calls (.usersearchAddress address) e) ↔
      ∀ e, found calls id = some e → e.data = [] ∨ e.family = 0x000a ∧ e.type = 0x0002) :=
  ⟨userinfo_typed_iff, redirect_typed_iff bs, reply_typed_iff⟩

/-- A user info reply with the id of a message that was sent reads the screen name as an
`aim_priv_inforeq`. -/
theorem userinfo_reads_message :
    let calls : List SnacCall := [.request (.sendImExt [0x61]) 0]
    ∃ e, userinfoInforeq (found calls 1) = some e ∧
      ¬ ∃ sn infotype, RequestedBy calls (.getinfo sn infotype) e := by
  refine ⟨⟨1, 0x0004, 0x0006, 0x0000, [0x61, 0x00], 0⟩, rfl, ?_⟩
  rintro ⟨sn, infotype, hr⟩
  exact absurd (show (0x0004 : UInt16) = 0x0002 from hr.family) (by decide)

end Libfaim
