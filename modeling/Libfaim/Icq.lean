import Libfaim.Auth.Response
import Libfaim.Conn.Handlers
import Libfaim.Request.Whole
import Libfaim.Tlv.RoundTrip

/-!
# Encapsulated ICQ (`icq.c`)

An ICQ packet is the value of a TLV of type 1, in little-endian numbers: its length, the number of
the user, a command, the id of the request, and the data of the command (`IcqPacket`). The four
functions that make requests write such packets without a chain of TLVs; what they put is the
packet for their command (`icqRequests_encode`), as long as its length fits 16 bits. Of the packets
in answers `icqresponse` knows three, and tells the client what they say (`icqSnachandler_tells`).
-/

namespace Libfaim

/-! ## Responses -/

/-- `struct aim_icq_offlinemsg` -/
structure AimIcqOfflinemsg where
  sender : UInt32
  year : UInt16
  month : UInt8
  day : UInt8
  hour : UInt8
  minute : UInt8
  type : UInt16
  msg : Option (List UInt8)
  deriving DecidableEq, Repr

/-- `struct aim_icq_simpleinfo` -/
structure AimIcqSimpleinfo where
  uin : UInt32
  nick : Option (List UInt8)
  first : Option (List UInt8)
  last : Option (List UInt8)
  email : Option (List UInt8)
  deriving DecidableEq, Repr

/-- The functions of the client, with what they are given. -/
inductive IcqCall where
  | offlinemsg (msg : AimIcqOfflinemsg)
  | offlinemsgcomplete
  | simpleinfo (info : AimIcqSimpleinfo)
  deriving DecidableEq, Repr

def aimCbFamIcq : UInt16 := 0x0015

def IcqCall.type : IcqCall → UInt16
  | offlinemsg _ => 0x00f0
  | offlinemsgcomplete => 0x00f1
  | simpleinfo _ => 0x00f2

/-- `tlen = aimbs_getle16(&qbs);`, and the string of that length. -/
def getTstr : StateM AimBstream (Option (List UInt8)) := do
  let tlen ← aimbsGetle16
  aimbsGetstr tlen.toNat

def icqOfflinemsg : StateM AimBstream IcqCall := do
  let sender ← aimbsGetle32
  let year ← aimbsGetle16
  let month ← aimbsGetle8
  let day ← aimbsGetle8
  let hour ← aimbsGetle8
  let minute ← aimbsGetle8
  let type ← aimbsGetle16
  let msg ← getTstr
  return .offlinemsg ⟨sender, year, month, day, hour, minute, type, msg⟩

def icqSimpleinfo : StateM AimBstream IcqCall := do
  let _ ← aimbsGetle8
  let _ ← aimbsGetle16
  let uin ← aimbsGetle32
  let nick ← getTstr
  let first ← getTstr
  let last ← getTstr
  let email ← getTstr
  return .simpleinfo ⟨uin, nick, first, last, email⟩

/-- What `icqresponse` does for a command. -/
def icqCommand (cmd : UInt16) : StateM AimBstream (Option IcqCall) :=
  if cmd = 0x0041 then some <$> icqOfflinemsg
  else if cmd = 0x0042 then return (some .offlinemsgcomplete)
  else if cmd = 0x07da then do
    let subtype ← aimbsGetle16
    if subtype = 0x019a then some <$> icqSimpleinfo
    else return none
  else return none

/-- What it does with a packet. -/
def icqPacket : StateM AimBstream (Option IcqCall) := do
  let _cmdlen ← aimbsGetle16
  let _ouruin ← aimbsGetle32
  let cmd ← aimbsGetle16
  let _reqid ← aimbsGetle16
  icqCommand cmd

/-- `icqresponse`: what the client is told, if anything. There is no result where reading the chain
never ends. -/
def icqresponse (bs : AimBstream) : Option (Option IcqCall) := do
  let (tl, _) ← aimReadtlvchain bs
  match aimGettlv tl 0x0001 1 with
  | none => return none
  | some datatlv => return (icqPacket (aimBstreamInit datatlv.value datatlv.length.toNat)).1

/-- The `snachandler` of the module: the function of the client that is called, if any is hooked,
with what it is given. What the handler returns is what this function does, or 0. -/
def icqSnachandler (sess : AimSession) (c : ConnPtr) (subtype : UInt16) (bs : AimBstream) :
    Option (Option (Option AimRxcallback × IcqCall)) :=
  if subtype = 0x0003 then
    (icqresponse bs).map fun told =>
      told.map fun call => (aimCallhandler sess c aimCbFamIcq call.type, call)
  else some none

/-! ## Packets -/

/-- An ICQ packet, less its length. -/
structure IcqPacket where
  uin : UInt32
  cmd : UInt16
  reqid : UInt16
  data : List UInt8

namespace IcqPacket

/-- The length counts what is behind it. -/
def body (p : IcqPacket) : List UInt8 :=
  aimutilPutle16 (UInt16.ofNat (8 + p.data.length)) ++ (aimutilPutle32 p.uin ++
    (aimutilPutle16 p.cmd ++ (aimutilPutle16 p.reqid ++ p.data)))

theorem length_body (p : IcqPacket) : p.body.length = 10 + p.data.length := by
  simp [body]
  omega

/-- The TLV of a packet that is not too long for one. -/
def tlv (p : IcqPacket) (h : p.body.length < 65536) : AimTlv := ⟨0x0001, p.body, h⟩

/-- The bytes of such a TLV. -/
def encode (p : IcqPacket) : List UInt8 :=
  aimutilPut16 0x0001 ++ (aimutilPut16 (UInt16.ofNat p.body.length) ++ p.body)

theorem length_encode (p : IcqPacket) : p.encode.length = 14 + p.data.length := by
  simp [encode, length_body]
  omega

end IcqPacket

/-- A string with its length in front. -/
def tstr (v : List UInt8) : List UInt8 := aimutilPutle16 (UInt16.ofNat v.length) ++ v

/-- What a server says, with what is behind it in the packet. A simple info has two fields in front
that nobody knows. -/
inductive IcqAnswer where
  | offlinemsg (sender : UInt32) (year : UInt16) (month day hour minute : UInt8) (type : UInt16)
      (msg rest : List UInt8)
  | offlinemsgcomplete (rest : List UInt8)
  | simpleinfo (unknown : UInt8) (unknown' : UInt16) (uin : UInt32)
      (nick first last email rest : List UInt8)
  | otherinfo (subtype : UInt16) (rest : List UInt8)
  | other (cmd : UInt16) (rest : List UInt8)

namespace IcqAnswer

def cmd : IcqAnswer → UInt16
  | offlinemsg .. => 0x0041
  | offlinemsgcomplete _ => 0x0042
  | simpleinfo .. | otherinfo .. => 0x07da
  | other cmd _ => cmd

/-- Where it begins, an answer of another kind is not one of the three. -/
def Proper : IcqAnswer → Prop
  | otherinfo subtype _ => subtype ≠ 0x019a
  | other cmd _ => cmd ≠ 0x0041 ∧ cmd ≠ 0x0042 ∧ cmd ≠ 0x07da
  | _ => True

def data : IcqAnswer → List UInt8
  | offlinemsg sender year month day hour minute type msg rest =>
    aimutilPutle32 sender ++ (aimutilPutle16 year ++ (aimutilPutle8 month ++ (aimutilPutle8 day ++
      (aimutilPutle8 hour ++ (aimutilPutle8 minute ++ (aimutilPutle16 type ++
        (tstr msg ++ rest)))))))
  | offlinemsgcomplete rest => rest
  | simpleinfo unknown unknown' uin nick first last email rest =>
    aimutilPutle16 0x019a ++ (aimutilPutle8 unknown ++ (aimutilPutle16 unknown' ++
      (aimutilPutle32 uin ++ (tstr nick ++ (tstr first ++ (tstr last ++ (tstr email ++ rest)))))))
  | otherinfo subtype rest => aimutilPutle16 subtype ++ rest
  | other _ rest => rest

/-- What the client should be told. -/
def told : IcqAnswer → Option IcqCall
  | offlinemsg sender year month day hour minute type msg _ =>
    some (.offlinemsg ⟨sender, year, month, day, hour, minute, type, some msg⟩)
  | offlinemsgcomplete _ => some .offlinemsgcomplete
  | simpleinfo _ _ uin nick first last email _ =>
    some (.simpleinfo ⟨uin, some nick, some first, some last, some email⟩)
  | otherinfo .. | other .. => none

/-- The packet that says it. -/
def packet (a : IcqAnswer) (uin : UInt32) (reqid : UInt16) : IcqPacket :=
  ⟨uin, a.cmd, reqid, a.data⟩

end IcqAnswer

/-! ## Reading the answers -/

theorem reads_getTstr {v : List UInt8} (h : v.length < 65536) :
    Reads getTstr (tstr v) (some v) := by
  refine (reads_aimbsGetle16 _).bind ?_
  rw [UInt16.toNat_ofNat', Nat.mod_eq_of_lt h]
  exact reads_aimbsGetraw rfl

theorem reads_icqOfflinemsg (sender : UInt32) (year : UInt16) (month day hour minute : UInt8)
    (type : UInt16) {msg : List UInt8} (h : msg.length < 65536) :
    Reads icqOfflinemsg (IcqAnswer.offlinemsg sender year month day hour minute type msg []).data
      (.offlinemsg ⟨sender, year, month, day, hour, minute, type, some msg⟩) := by
  refine Reads.of_eq ((reads_aimbsGetle32 _).bind <| (reads_aimbsGetle16 _).bind <|
    (reads_aimbsGetle8 _).bind <| (reads_aimbsGetle8 _).bind <| (reads_aimbsGetle8 _).bind <|
    (reads_aimbsGetle8 _).bind <| (reads_aimbsGetle16 _).bind <| (reads_getTstr h).bind <|
    Reads.pure _) ?_
  simp [IcqAnswer.data]

theorem reads_icqSimpleinfo (unknown : UInt8) (unknown' : UInt16) (uin : UInt32)
    {nick first last email : List UInt8} (hnick : nick.length < 65536)
    (hfirst : first.length < 65536) (hlast : last.length < 65536) (hemail : email.length < 65536) :
    Reads icqSimpleinfo (aimutilPutle8 unknown ++ (aimutilPutle16 unknown' ++
        (aimutilPutle32 uin ++ (tstr nick ++ (tstr first ++ (tstr last ++ (tstr email ++ [])))))))
      (.simpleinfo ⟨uin, some nick, some first, some last, some email⟩) :=
  (reads_aimbsGetle8 _).bind <| (reads_aimbsGetle16 _).bind <| (reads_aimbsGetle32 _).bind <|
    (reads_getTstr hnick).bind <| (reads_getTstr hfirst).bind <| (reads_getTstr hlast).bind <|
    (reads_getTstr hemail).bind <| Reads.pure _

/-- What is read of the data of an answer is at its beginning. -/
theorem reads_icqCommand {a : IcqAnswer} (ha : a.Proper) (hlen : a.data.length < 65536) :
    ∃ w r, a.data = w ++ r ∧ Reads (icqCommand a.cmd) w a.told := by
  cases a with
  | offlinemsg sender year month day hour minute type msg rest =>
    have hmsg : msg.length < 65536 := by
      simp [IcqAnswer.data, tstr] at hlen
      omega
    refine ⟨(IcqAnswer.offlinemsg sender year month day hour minute type msg []).data, rest,
      by simp [IcqAnswer.data], ?_⟩
    exact (reads_icqOfflinemsg sender year month day hour minute type hmsg).map some
  | offlinemsgcomplete rest => exact ⟨[], rest, rfl, Reads.pure _⟩
  | simpleinfo unknown unknown' uin nick first last email rest =>
    simp [IcqAnswer.data, tstr] at hlen
    have hinfo := @reads_icqSimpleinfo unknown unknown' uin nick first last email (by omega)
      (by omega) (by omega) (by omega)
    refine ⟨aimutilPutle16 0x019a ++ (aimutilPutle8 unknown ++ (aimutilPutle16 unknown' ++
      (aimutilPutle32 uin ++ (tstr nick ++ (tstr first ++ (tstr last ++ (tstr email ++ []))))))),
      rest, by simp [IcqAnswer.data], ?_⟩
    exact (reads_aimbsGetle16 0x019a).bind (hinfo.map some)
  | otherinfo subtype rest =>
    refine ⟨aimutilPutle16 subtype ++ [], rest, by simp [IcqAnswer.data], ?_⟩
    refine (reads_aimbsGetle16 subtype).bind ?_
    rw [if_neg ha]
    exact Reads.pure none
  | other cmd rest =>
    refine ⟨[], rest, rfl, ?_⟩
    rw [IcqAnswer.cmd, icqCommand, if_neg ha.1, if_neg ha.2.1, if_neg ha.2.2]
    exact Reads.pure none

/-- A packet that says `a` is taken as this, and what is behind it is not looked at. -/
theorem icqPacket_told {a : IcqAnswer} (ha : a.Proper) {uin : UInt32} {reqid : UInt16}
    (hlen : (a.packet uin reqid).body.length < 65536) {bs : AimBstream} {r : List UInt8}
    (h : bs.rest = (a.packet uin reqid).body ++ r) : (icqPacket bs).1 = a.told := by
  have hdata : a.data.length < 65536 := by
    rw [IcqPacket.length_body] at hlen
    exact Nat.lt_of_le_of_lt (Nat.le_add_left ..) hlen
  obtain ⟨w, r', hw, hread⟩ := reads_icqCommand ha hdata
  have hpacket : Reads icqPacket (aimutilPutle16 (UInt16.ofNat (8 + a.data.length)) ++
      (aimutilPutle32 uin ++ (aimutilPutle16 a.cmd ++ (aimutilPutle16 reqid ++ w)))) a.told :=
    (reads_aimbsGetle16 _).bind <| (reads_aimbsGetle32 _).bind <| (reads_aimbsGetle16 _).bind <|
      (reads_aimbsGetle16 _).bind hread
  rw [hpacket bs (r' ++ r)]
  rw [h]
  simp [IcqPacket.body, IcqAnswer.packet, hw]

/-- Each response with the packet of an answer tells the client what the answer says, and nothing
else; what else is in the response does not matter. -/
theorem icqresponse_told {a : IcqAnswer} (ha : a.Proper) {uin : UInt32} {reqid : UInt16}
    (hlen : (a.packet uin reqid).body.length < 65536) {l : List AimTlv}
    (hnodup : (l.map (·.type)).Nodup) (hmem : (a.packet uin reqid).tlv hlen ∈ l)
    {bs : AimBstream} (h : bs.rest = encodeTlvchain l) : icqresponse bs = some a.told := by
  have hnodup' : (l.reverse.map (·.type)).Nodup :=
    ((List.reverse_perm l).map _).nodup_iff.mpr hnodup
  have hfound := (aimGettlv_one_eq_some_iff hnodup').mpr ⟨List.mem_reverse.mpr hmem, rfl⟩
  have hfound' : aimGettlv l.reverse 0x0001 1 = some ((a.packet uin reqid).tlv hlen) := hfound
  rw [icqresponse, aimReadtlvchain_encode l h, Option.bind_eq_bind, Option.bind_some]
  dsimp only
  rw [hfound']
  dsimp only
  rw [aimBstreamInit_value, icqPacket_told ha hlen (List.append_nil _).symm]
  rfl

/-- The stream is a response of a server that says `a`. -/
def IcqAnswer.SaidBy (a : IcqAnswer) (bs : AimBstream) : Prop :=
  a.Proper ∧ ∃ (uin : UInt32) (reqid : UInt16) (hlen : (a.packet uin reqid).body.length < 65536)
    (l : List AimTlv), (l.map (·.type)).Nodup ∧ (a.packet uin reqid).tlv hlen ∈ l ∧
      bs.rest = encodeTlvchain l

/-- All responses of a server one after the other: the client is told each message, the end of
them and each piece of information that the server says, in their order and once each. -/
theorem icqSnachandler_tells {answers : List IcqAnswer} {responses : List AimBstream}
    (h : List.Forall₂ IcqAnswer.SaidBy answers responses) (sess : AimSession) (c : ConnPtr) :
    responses.mapM (icqSnachandler sess c 0x0003) = some (answers.map fun a =>
      a.told.map fun call => (aimCallhandler sess c aimCbFamIcq call.type, call)) := by
  induction h with
  | nil => rfl
  | @cons a bs answers responses ha _ ih =>
    obtain ⟨hproper, uin, reqid, hlen, l, hnodup, hmem, hrest⟩ := ha
    have htold := icqresponse_told hproper hlen hnodup hmem hrest
    have hfirst : icqSnachandler sess c 0x0003 bs = some (a.told.map fun call =>
        (aimCallhandler sess c aimCbFamIcq call.type, call)) := by
      rw [icqSnachandler, if_pos rfl, htold, Option.map_some]
    rw [List.mapM_cons, hfirst, ih]
    rfl

section Example

/-- A message from a user, with another TLV behind the packet, information about one, with numbers
in the fields that nobody knows, and the end of the messages. -/
theorem icqSnachandler_tells_one :
    let msg : IcqAnswer := .offlinemsg 7 2001 6 13 12 30 1 [0x68, 0x69] [0]
    let info : IcqAnswer := .simpleinfo 1 2 7 [0x61] [] [] [0x62] [3]
    let packet := (msg.packet 5 9).tlv (by decide)
    let packet' := (info.packet 5 9).tlv (by decide)
    let done := ((IcqAnswer.offlinemsgcomplete [0]).packet 5 9).tlv (by decide)
    [⟨encodeTlvchain [packet, createtlv 2 0 []], 0⟩, ⟨encodeTlvchain [packet'], 0⟩,
        ⟨encodeTlvchain [done], 0⟩].mapM (icqSnachandler (aimSessionInit []) 1 0x0003) =
      some [some (aimCallhandler (aimSessionInit []) 1 0x0015 0x00f0,
          .offlinemsg ⟨7, 2001, 6, 13, 12, 30, 1, some [0x68, 0x69]⟩),
        some (aimCallhandler (aimSessionInit []) 1 0x0015 0x00f2,
          .simpleinfo ⟨7, some [0x61], some [], some [], some [0x62]⟩),
        some (aimCallhandler (aimSessionInit []) 1 0x0015 0x00f1, .offlinemsgcomplete)] := by
  intro msg info packet packet' done
  have hmsg : msg.SaidBy ⟨encodeTlvchain [packet, createtlv 2 0 []], 0⟩ :=
    ⟨trivial, 5, 9, by decide, _, by decide, List.mem_cons_self, rfl⟩
  have hinfo : info.SaidBy ⟨encodeTlvchain [packet'], 0⟩ :=
    ⟨trivial, 5, 9, by decide, _, by decide, List.mem_cons_self, rfl⟩
  have hdone : (IcqAnswer.offlinemsgcomplete [0]).SaidBy ⟨encodeTlvchain [done], 0⟩ :=
    ⟨trivial, 5, 9, by decide, _, by decide, List.mem_cons_self, rfl⟩
  exact icqSnachandler_tells (.cons hmsg (.cons hinfo (.cons hdone .nil))) (aimSessionInit []) 1

end Example

/-! ## The requests -/

section Requests

variable {s : Requester} {c : ConnPtr} {now : Int} {sn : List UInt8} {cmd : UInt16}
  {extra : List (StateM AimBstream Nat)} {data : List UInt8}

theorem writes_icqRequest (hdata : Writes (putAll extra) data 0) (snacid : UInt32) :
    Writes ((icqRequest sn (10 + data.length) cmd extra).put snacid)
      (snacFront 0x0015 0x0002 snacid ++
        (IcqPacket.mk (UInt32.ofInt (atoi sn)) cmd snacid.toUInt16 data).encode) 0 := by
  have hfront : Writes (putAll [aimbsPut16 0x0001, aimbsPut16 (UInt16.ofNat (10 + data.length)),
      aimbsPutle16 (UInt16.ofNat (10 + data.length - 2)), aimbsPutle32 (UInt32.ofInt (atoi sn)),
      aimbsPutle16 cmd, aimbsPutle16 snacid.toUInt16]) _ 0 :=
    (writes_aimbsPut16 _).bind <| (writes_aimbsPut16 _).bind <| (writes_aimbsPutle16 _).bind <|
      (writes_aimbsPutle32 _).bind <| (writes_aimbsPutle16 _).bind <|
      (writes_aimbsPutle16 _).bind <| Writes.pure 0
  have hsub : 10 + data.length - 2 = 8 + data.length := by omega
  refine (writes_putSnac (writes_putAll_append hfront hdata)).of_eq ?_
  rw [IcqPacket.encode, IcqPacket.length_body, IcqPacket.body, hsub]
  simp only [List.append_assoc, List.append_nil]

/-- The request is the packet for its command, unless this is too long for the frame. -/
def IcqSends (s : Requester) (r : Int × Requester) (sn : List UInt8) (cmd : UInt16)
    (data : List UInt8) : Prop :=
  s.Sent r fun bs => bs.written = snacFront 0x0015 0x0002 s.snacs.snacidNext ++
    (IcqPacket.mk (UInt32.ofInt (atoi sn)) cmd s.snacs.snacidNext.toUInt16 data).encode

theorem icqSends_iff (hdata : Writes (putAll extra) data 0)
    (happ : ∀ put ∈ extra, Appends put) :
    IcqSends s (s.request c now (icqRequest sn (10 + data.length) cmd extra)) sn cmd data ↔
      (s.sess.Usable c → 24 + data.length < 65536) := by
  refine Requester.sent_request_iff.trans (imp_congr_right fun _ => ?_)
  have hwrites := @writes_icqRequest sn cmd _ _ hdata s.snacs.snacidNext
  have hsize : (snacFront 0x0015 0x0002 s.snacs.snacidNext ++ (IcqPacket.mk (UInt32.ofInt (atoi sn))
      cmd s.snacs.snacidNext.toUInt16 data).encode).length = 24 + data.length := by
    rw [List.length_append, snacFront_length, IcqPacket.length_encode]
    show 10 + (14 + data.length) = _
    omega
  have hdatalen : (icqRequest sn (10 + data.length) cmd extra).datalen = 24 + data.length := by
    show 10 + 4 + (10 + data.length) = _
    omega
  rw [hdatalen]
  constructor
  · intro h
    have happends : Appends ((icqRequest sn (10 + data.length) cmd extra).put
        s.snacs.snacidNext) := by
      refine appends_putSnac fun put hput => ?_
      rcases List.mem_append.mp hput with hput | hput
      · simp at hput
        rcases hput with rfl | rfl | rfl | rfl | rfl | rfl <;> simp
      · exact happ put hput
    have hext := happends (aimBstreamInit (List.replicate (24 + data.length) 0)
      (24 + data.length : Nat)) (Nat.zero_le _)
    have hle := hext.offset_le
    rw [hext.len_eq, aimBstreamInit_replicate_len, ← AimBstream.length_written hext.offset_le, h,
      hsize] at hle
    omega
  · intro hlt
    exact hwrites.written_init hlt (Nat.le_of_eq hsize)

/-- `aim_icq_sendxmlreq` has its own numbers in front of the text, whose NUL is sent too. -/
def xmlData (xml : List UInt8) : List UInt8 :=
  aimutilPutle16 0x0998 ++ (aimutilPutle16 (UInt16.ofNat (strlen xml + 1)) ++ (cstr xml ++ [0]))

theorem length_xmlData (xml : List UInt8) : (xmlData xml).length = strlen xml + 5 := by
  have hlen : (cstr xml).length = strlen xml := rfl
  simp [xmlData, hlen]
  omega

theorem writes_xmlData (xml : List UInt8) :
    Writes (putAll [aimbsPutle16 0x0998, aimbsPutle16 (UInt16.ofNat (strlen xml + 1)),
      aimbsPutraw (cstr xml ++ [0]) (strlen xml + 1)]) (xmlData xml) 0 := by
  have hlen : (cstr xml ++ [0]).length = strlen xml + 1 := by
    rw [List.length_append]
    rfl
  refine Writes.of_eq ((writes_aimbsPutle16 _).bind <| (writes_aimbsPutle16 _).bind <|
    (writes_aimbsPutraw hlen).bind <| Writes.pure 0) ?_
  rw [List.append_nil, xmlData]

theorem icqSends_error {call : RequestCall} (h : call.request s.sess c = .error (-einval)) :
    IcqSends s (s.make c now call) sn cmd data := by
  rw [IcqSends, Requester.make, h]
  exact s.sent_einval s

theorem icqSends_make_iff {call : RequestCall} {bslen : Nat}
    (h : call.request s.sess c = needConn c (.ok (icqRequest sn bslen cmd extra)))
    (hlen : bslen = 10 + data.length) (hdata : Writes (putAll extra) data 0)
    (happ : ∀ put ∈ extra, Appends put) :
    IcqSends s (s.make c now call) sn cmd data ↔ (s.sess.Usable c → 24 + data.length < 65536) := by
  rw [needConn] at h
  by_cases hc : c = 0
  · rw [if_pos hc] at h
    exact iff_of_true (icqSends_error h) fun husable => absurd hc husable.1
  · rw [if_neg hc, hlen] at h
    rw [Requester.make, h]
    exact icqSends_iff hdata happ

/-- What the four functions enqueue is the packet of the user `sess->sn` for their command, with
the id of the SNAC; a text is sent whole exactly up to 65506 bytes. -/
theorem icqRequests_encode (s : Requester) (c : ConnPtr) (now : Int) (sn : List UInt8) :
    IcqSends s (s.make c now (.icqReqofflinemsgs sn)) sn 0x003c [] ∧
    IcqSends s (s.make c now (.icqAckofflinemsgs sn)) sn 0x003e [] ∧
    (∀ uin, IcqSends s (s.make c now (.icqGetsimpleinfo sn (some uin))) sn 0x07d0
      (aimutilPutle16 0x051f ++ aimutilPutle32 (UInt32.ofInt (atoi uin)))) ∧
    ∀ xml, IcqSends s (s.make c now (.icqSendxmlreq sn (some xml))) sn 0x07d0 (xmlData xml) ↔
      (s.sess.Usable c → strlen xml ≤ 65506) := by
  refine ⟨?_, ?_, fun uin => ?_, fun xml => ?_⟩
  · exact (icqSends_make_iff rfl rfl (Writes.pure 0) (by simp)).mpr fun _ => by simp
  · exact (icqSends_make_iff rfl rfl (Writes.pure 0) (by simp)).mpr fun _ => by simp
  · by_cases huin : DigitName uin
    · have hreq : (RequestCall.icqGetsimpleinfo sn (some uin)).request s.sess c =
          needConn c (.ok (icqRequest sn (2 + 4 + 2 + 2 + 2 + 4) 0x07d0
            [aimbsPutle16 0x051f, aimbsPutle32 (UInt32.ofInt (atoi uin))])) :=
        if_neg (not_not.mpr huin)
      have hdata : Writes (putAll [aimbsPutle16 0x051f, aimbsPutle32 (UInt32.ofInt (atoi uin))])
          (aimutilPutle16 0x051f ++ aimutilPutle32 (UInt32.ofInt (atoi uin))) 0 := by
        refine Writes.of_eq ((writes_aimbsPutle16 _).bind <| (writes_aimbsPutle32 _).bind <|
          Writes.pure 0) ?_
        rw [List.append_nil]
      exact (icqSends_make_iff hreq (by simp) hdata (by simp)).mpr fun _ => by simp
    · exact icqSends_error (if_pos huin)
  · by_cases hempty : strlen xml = 0
    · exact iff_of_true (icqSends_error (if_pos hempty)) fun _ => by omega
    · have hreq : (RequestCall.icqSendxmlreq sn (some xml)).request s.sess c =
          needConn c (.ok (icqRequest sn (2 + 10 + 2 + strlen xml + 1) 0x07d0
            [aimbsPutle16 0x0998, aimbsPutle16 (UInt16.ofNat (strlen xml + 1)),
              aimbsPutraw (cstr xml ++ [0]) (strlen xml + 1)])) := if_neg hempty
      have hlen := length_xmlData xml
      refine (icqSends_make_iff hreq (by omega) (writes_xmlData xml) (by simp)).trans
        (imp_congr_right fun _ => ?_)
      omega

end Requests

end Libfaim
