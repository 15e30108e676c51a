import Mathlib.Tactic.SplitIfs
import Libfaim.BStream.Progress
import Libfaim.Tlv.Read
import Libfaim.Userinfo

/-!
# The framing of user info blocks

The loop of `aim_extractuserinfo` reads a value by its type and not by its length, and then moves
to where the length says the TLV ends. Whatever the read took, the pass ends behind the TLV
(`extractuserinfoPass_tlv`), and what it leaves in the record is one update of the type's field
(`Takes`), or none for a type without a field. So a block of any TLVs is read to its end, and each
field holds the last value that was sent for it (`Framed`).
-/

namespace Libfaim

open Mask

/-- The fields of an `aim_userinfo_t` that are filled from TLVs. -/
inductive UserinfoField
  | flags
  | createtime
  | onlinesince
  | idletime
  | membersince
  | icqextstatus
  | icqipaddr
  | icqdata
  | capabilities
  | sessionlen
  deriving DecidableEq, Repr

/-- The flags of the 16-byte blocks of a capability list. -/
def capBlockFlags (v : List UInt8) : UInt32 :=
  orFlags ((List.range (v.length / 16)).map fun k => capFlag ((v.drop (16 * k)).take 16))

namespace UserinfoField

/-- The field of a TLV type. The session length is sent in two types, one for AIM and one for
AOL. -/
def ofType (type : UInt16) : Option UserinfoField :=
  if type = 0x0001 then some .flags
  else if type = 0x0002 then some .createtime
  else if type = 0x0003 then some .onlinesince
  else if type = 0x0004 then some .idletime
  else if type = 0x0005 then some .membersince
  else if type = 0x0006 then some .icqextstatus
  else if type = 0x000a then some .icqipaddr
  else if type = 0x000c then some .icqdata
  else if type = 0x000d then some .capabilities
  else if type = 0x000f ∨ type = 0x0010 then some .sessionlen
  else none

def bit : UserinfoField → UInt32
  | flags => aimUserinfoPresentFlags
  | createtime => aimUserinfoPresentCreatetime
  | onlinesince => aimUserinfoPresentOnlinesince
  | idletime => aimUserinfoPresentIdle
  | membersince => aimUserinfoPresentMembersince
  | icqextstatus => aimUserinfoPresentIcqextstatus
  | icqipaddr => aimUserinfoPresentIcqipaddr
  | icqdata => aimUserinfoPresentIcqdata
  | capabilities => aimUserinfoPresentCapabilities
  | sessionlen => aimUserinfoPresentSessionlen

/-- The type of the field. -/
abbrev Value : UserinfoField → Type
  | flags | idletime => UInt16
  | icqdata => List UInt8
  | _ => UInt32

def get : (f : UserinfoField) → AimUserinfo → f.Value
  | flags, info => info.flags
  | createtime, info => info.createtime
  | onlinesince, info => info.onlinesince
  | idletime, info => info.idletime
  | membersince, info => info.membersince
  | icqextstatus, info => info.icqinfoStatus
  | icqipaddr, info => info.icqinfoIpaddr
  | icqdata, info => info.icqinfoCrap
  | capabilities, info => info.capabilities
  | sessionlen, info => info.sessionlen

/-- The field filled and its presence bit set. -/
def put : (f : UserinfoField) → f.Value → AimUserinfo → AimUserinfo
  | flags, x, info => { info with flags := x, present := info.present ||| bit flags }
  | createtime, x, info => { info with createtime := x, present := info.present ||| bit createtime }
  | onlinesince, x, info =>
    { info with onlinesince := x, present := info.present ||| bit onlinesince }
  | idletime, x, info => { info with idletime := x, present := info.present ||| bit idletime }
  | membersince, x, info =>
    { info with membersince := x, present := info.present ||| bit membersince }
  | icqextstatus, x, info =>
    { info with icqinfoStatus := x, present := info.present ||| bit icqextstatus }
  | icqipaddr, x, info =>
    { info with icqinfoIpaddr := x, present := info.present ||| bit icqipaddr }
  | icqdata, x, info => { info with icqinfoCrap := x, present := info.present ||| bit icqdata }
  | capabilities, x, info =>
    { info with capabilities := x, present := info.present ||| bit capabilities }
  | sessionlen, x, info => { info with sessionlen := x, present := info.present ||| bit sessionlen }

/-- The length the value of the field has on the wire. -/
def Natural : UserinfoField → Nat → Prop
  | flags, n | idletime, n => n = 2
  | icqdata, n => n = 0x25
  | capabilities, n => 16 ∣ n
  | _, n => n = 4

/-- What a value of that length says. Of the ICQ status only the second half is used. -/
def ofBytes : (f : UserinfoField) → List UInt8 → f.Value
  | flags, v | idletime, v => aimutilGet16 v
  | createtime, v | onlinesince, v | membersince, v | icqipaddr, v | sessionlen, v =>
    aimutilGet32 v
  | icqextstatus, v => (aimutilGet16 (v.drop 2)).toUInt32
  | icqdata, v => v
  | capabilities, v => capBlockFlags v

/-- The TLVs that are sent for the field. -/
def occurrences (f : UserinfoField) (tlvs : List AimTlv) : List AimTlv :=
  tlvs.filter fun tlv => ofType tlv.type = some f

section Put

variable {f g : UserinfoField} (x : f.Value) (info : AimUserinfo)

@[simp] theorem put_sn : (f.put x info).sn = info.sn := by cases f <;> rfl
@[simp] theorem put_warnlevel : (f.put x info).warnlevel = info.warnlevel := by cases f <;> rfl
@[simp] theorem put_present : (f.put x info).present = info.present ||| f.bit := by cases f <;> rfl
@[simp] theorem get_put : f.get (f.put x info) = x := by cases f <;> rfl

theorem get_put_of_ne (h : g ≠ f) : g.get (f.put x info) = g.get info := by
  cases f <;> cases g <;> first | rfl | exact absurd rfl h

end Put

theorem bit_and_bit_of_ne {f g : UserinfoField} (h : f ≠ g) : f.bit &&& g.bit = 0 := by
  cases f <;> cases g <;> first | rfl | exact absurd rfl h

theorem bit_ne_zero (f : UserinfoField) : f.bit ≠ 0 := by
  cases f <;> decide

/-- A record is its name, its warning level, its presence bits and its fields. -/
theorem ext_get {i j : AimUserinfo} (hsn : i.sn = j.sn) (hwarn : i.warnlevel = j.warnlevel)
    (hpresent : i.present = j.present) (hget : ∀ f, get f i = get f j) : i = j := by
  apply AimUserinfo.ext hsn hwarn
  · exact hget idletime
  · exact hget flags
  · exact hget createtime
  · exact hget membersince
  · exact hget onlinesince
  · exact hget sessionlen
  · exact hget capabilities
  · exact hget icqextstatus
  · exact hget icqipaddr
  · exact hget icqdata
  · exact hpresent

/-- The types a field is sent in. -/
def types : UserinfoField → List UInt16
  | flags => [0x0001]
  | createtime => [0x0002]
  | onlinesince => [0x0003]
  | idletime => [0x0004]
  | membersince => [0x0005]
  | icqextstatus => [0x0006]
  | icqipaddr => [0x000a]
  | icqdata => [0x000c]
  | capabilities => [0x000d]
  | sessionlen => [0x000f, 0x0010]

section OfType

variable {type : UInt16} {f : UserinfoField}

theorem ofType_of_mem_types (h : type ∈ f.types) : ofType type = some f := by
  cases f with
  | sessionlen =>
    rcases List.mem_pair.mp h with rfl | rfl
    · rfl
    · rfl
  | _ =>
    obtain rfl := List.mem_singleton.mp h
    rfl

theorem ne_of_types {t : UInt16} (h : type ∉ f.types) (ht : f.types = [t]) : type ≠ t := by
  rintro rfl
  exact h (ht ▸ List.mem_singleton_self _)

theorem ofType_eq_none (h : ∀ f : UserinfoField, type ∉ f.types) : ofType type = none := by
  have hne (f : UserinfoField) {t : UInt16} : f.types = [t] → type ≠ t := ne_of_types (h f)
  unfold ofType
  rw [if_neg (hne flags rfl), if_neg (hne createtime rfl), if_neg (hne onlinesince rfl),
    if_neg (hne idletime rfl), if_neg (hne membersince rfl), if_neg (hne icqextstatus rfl),
    if_neg (hne icqipaddr rfl), if_neg (hne icqdata rfl), if_neg (hne capabilities rfl),
    if_neg (mt List.mem_pair.mpr (h sessionlen))]

theorem mem_types_of_ofType (h : ofType type = some f) : type ∈ f.types := by
  by_cases hmem : ∃ g : UserinfoField, type ∈ g.types
  · obtain ⟨g, hg⟩ := hmem
    rw [ofType_of_mem_types hg] at h
    obtain rfl := Option.some.inj h
    exact hg
  · rw [ofType_eq_none fun g hg => hmem ⟨g, hg⟩] at h
    cases h

end OfType

/-- The read the loop makes for the field. -/
def read : (f : UserinfoField) → UInt16 → AimUserinfo → StateT AimBstream Option f.Value
  | flags, _, _ | idletime, _, _ => liftM aimbsGet16
  | createtime, _, _ | onlinesince, _, _ | membersince, _, _ | icqipaddr, _, _
  | sessionlen, _, _ => liftM aimbsGet32
  | icqextstatus, _, _ => do
    let _ ← aimbsGet16
    let status ← aimbsGet16
    return status.toUInt32
  | icqdata, _, info => do
    let crap ← aimbsGetrawbuf 0x25
    return if crap = [] then info.icqinfoCrap else crap
  | capabilities, length, _ => aimGetcap length.toNat

end UserinfoField

/-- The value of a TLV is one read and one update of its type's field. -/
theorem extractuserinfoValue_field {type length : UInt16} {f : UserinfoField} {info : AimUserinfo}
    (h : UserinfoField.ofType type = some f) :
    extractuserinfoValue type length info = do return f.put (← f.read length info) info := by
  have htype := UserinfoField.mem_types_of_ofType h
  cases f with
  | sessionlen =>
    rcases List.mem_pair.mp htype with rfl | rfl
    · rfl
    · rfl
  | _ =>
    obtain rfl := List.mem_singleton.mp htype
    rfl

theorem forward_dumptlv (len : Nat) : Forward (dumptlv len) := by
  induction len with
  | zero => exact Forward.pure ()
  | succ len ih => exact forward_aimbsGet8.bind fun _ => ih

/-- A TLV of a type without a field is read for printing, if at all. -/
theorem extractuserinfoValue_unknown {type length : UInt16} {info : AimUserinfo}
    (h : UserinfoField.ofType type = none) (bs : AimBstream) :
    ∃ bs', extractuserinfoValue type length info bs = some (info, bs') ∧ Onward bs bs' := by
  have hnot (f : UserinfoField) : type ∉ f.types := by
    intro hmem
    rw [UserinfoField.ofType_of_mem_types hmem] at h
    cases h
  have hne (f : UserinfoField) {t : UInt16} : f.types = [t] → type ≠ t :=
    UserinfoField.ne_of_types (hnot f)
  unfold extractuserinfoValue
  rw [if_neg (hne .flags rfl), if_neg (hne .createtime rfl), if_neg (hne .onlinesince rfl),
    if_neg (hne .idletime rfl), if_neg (hne .membersince rfl), if_neg (hne .icqextstatus rfl),
    if_neg (hne .icqipaddr rfl), if_neg (hne .icqdata rfl), if_neg (hne .capabilities rfl),
    if_neg (mt List.mem_pair.mpr (hnot .sessionlen))]
  by_cases he : type = 0x000e
  · rw [if_pos he]
    exact ⟨bs, rfl, Onward.refl bs⟩
  rw [if_neg he]
  by_cases hd : type = 0x001d
  · rw [if_pos hd]
    exact ⟨bs, rfl, Onward.refl bs⟩
  rw [if_neg hd]
  by_cases hlast : type = 0x001e
  · rw [if_pos hlast]
    exact ⟨bs, rfl, Onward.refl bs⟩
  rw [if_neg hlast]
  exact ⟨_, rfl, forward_dumptlv length.toUInt8.toNat bs⟩

/-! ## The reads -/

theorem capBlockFlags_cons {cap v : List UInt8} (h : cap.length = 16) :
    capBlockFlags (cap ++ v) = capFlag cap ||| capBlockFlags v := by
  have hblocks : (cap ++ v).length / 16 = v.length / 16 + 1 := by
    rw [List.length_append]
    omega
  have hdrop (k : Nat) : (cap ++ v).drop (16 * (k + 1)) = v.drop (16 * k) := by
    rw [Nat.mul_add, Nat.add_comm, Nat.mul_one, ← List.drop_drop, List.drop_left' h]
  unfold capBlockFlags
  rw [hblocks, List.range_succ_eq_map, List.map_cons, orFlags_cons, Nat.mul_zero, List.drop_zero,
    List.take_left' h, List.map_map]
  congr 3
  funext k
  rw [Function.comp_apply, hdrop]

theorem decodes_aimGetcapLoop_blocks {n : Nat} {v : List UInt8} (h : v.length = 16 * n)
    (flags : UInt32) : Decodes (aimGetcapLoop n flags) v (flags ||| capBlockFlags v) := by
  induction n generalizing v flags with
  | zero =>
    obtain rfl : v = [] := List.length_eq_zero_iff.mp h
    have hnone : capBlockFlags [] = 0 := rfl
    rw [hnone, UInt32.or_zero]
    exact Decodes.pure flags
  | succ n ih =>
    intro bs r hr
    have hcap : (v.take 16).length = 16 := by
      rw [List.length_take]
      omega
    have hrest : (v.drop 16).length = 16 * n := by
      rw [List.length_drop]
      omega
    have hempty : ¬ aimBstreamEmpty bs = 0 := by
      rw [← bs.length_rest, hr, List.length_append]
      omega
    have hsplit := (List.take_append_drop 16 v).symm
    rw [hsplit, List.append_assoc] at hr
    have hraw := reads_aimbsGetraw hcap bs _ hr
    have htail := ih hrest (flags ||| capFlag (v.take 16)) _ r (bs.rest_skip_of_append hr)
    rw [aimGetcapLoop, if_neg hempty, hraw]
    simp only [htail, AimBstream.skip_skip]
    rw [← List.length_append, List.take_append_drop, UInt32.or_assoc, ← capBlockFlags_cons hcap,
      List.take_append_drop]

namespace UserinfoField

variable {f : UserinfoField} {length : UInt16} {info : AimUserinfo}

/-- Only a capability list can be cut short. -/
theorem succeeds_read (h : f ≠ capabilities) : Succeeds (f.read length info) := by
  have h16 : Succeeds (liftM aimbsGet16) := Succeeds.lift forward_aimbsGet16
  have h32 : Succeeds (liftM aimbsGet32) := Succeeds.lift forward_aimbsGet32
  cases f with
  | flags => exact h16
  | idletime => exact h16
  | createtime => exact h32
  | onlinesince => exact h32
  | membersince => exact h32
  | icqipaddr => exact h32
  | sessionlen => exact h32
  | icqextstatus => exact h16.bind fun _ => h16.bind fun _ => Succeeds.pure _
  | icqdata =>
    exact (Succeeds.lift (forward_aimbsGetrawbuf 0x25)).bind fun _ => Succeeds.pure _
  | capabilities => exact absurd rfl h

theorem decodes_read {v : List UInt8} (hlen : v.length = length.toNat) (h : f.Natural v.length) :
    Decodes (f.read length info) v (f.ofBytes v) := by
  cases f with
  | flags => exact Decodes.lift (reads_aimbsGet16_bytes h)
  | idletime => exact Decodes.lift (reads_aimbsGet16_bytes h)
  | createtime => exact Decodes.lift (reads_aimbsGet32_bytes h)
  | onlinesince => exact Decodes.lift (reads_aimbsGet32_bytes h)
  | membersince => exact Decodes.lift (reads_aimbsGet32_bytes h)
  | icqipaddr => exact Decodes.lift (reads_aimbsGet32_bytes h)
  | sessionlen => exact Decodes.lift (reads_aimbsGet32_bytes h)
  | icqextstatus =>
    have hv : v.length = 4 := h
    have hfirst : (v.take 2).length = 2 := by
      rw [List.length_take]
      omega
    have hsecond : (v.drop 2).length = 2 := by
      rw [List.length_drop]
      omega
    have hread : Decodes (read icqextstatus length info)
        (v.take 2 ++ (v.drop 2 ++ [])) (aimutilGet16 (v.drop 2)).toUInt32 :=
      (Decodes.lift (reads_aimbsGet16_bytes hfirst)).bind <|
        (Decodes.lift (reads_aimbsGet16_bytes hsecond)).bind (Decodes.pure _)
    rw [List.append_nil, List.take_append_drop] at hread
    exact hread
  | icqdata =>
    have hne : v ≠ [] := by
      rintro rfl
      have hzero : 0 = 0x25 := h
      omega
    have hread : Decodes (read icqdata length info) (v ++ [])
        (if v = [] then info.icqinfoCrap else v) :=
      (Decodes.lift (reads_aimbsGetrawbuf h)).bind (Decodes.pure _)
    rw [List.append_nil, if_neg hne] at hread
    exact hread
  | capabilities =>
    obtain ⟨n, hn⟩ := h
    have hcount : (length.toNat + 15) / 16 = n := by omega
    have hread := decodes_aimGetcapLoop_blocks hn 0
    rw [UInt32.zero_or, ← hcount] at hread
    exact hread

/-- The read of a field somewhere in its value and behind: it ends, and where the value has its
natural length it is what was read. -/
theorem read_of_append {bs : AimBstream} {v r : List UInt8} (hr : bs.rest = v ++ r)
    (hlen : v.length = length.toNat) (hcaps : f = capabilities → 16 ∣ v.length) :
    ∃ x bs', f.read length info bs = some (x, bs') ∧ Onward bs bs' ∧
      (f.Natural v.length → x = f.ofBytes v) := by
  by_cases hnat : f.Natural v.length
  · have hfits : v.length ≤ aimBstreamEmpty bs := by
      rw [← bs.length_rest, hr, List.length_append]
      exact Nat.le_add_right _ _
    exact ⟨_, _, decodes_read hlen hnat bs r hr, Onward.skip hfits, fun _ => rfl⟩
  · have hne : f ≠ capabilities := by
      rintro rfl
      exact hnat (hcaps rfl)
    obtain ⟨x, bs', hread, honward⟩ := @succeeds_read f length info hne bs
    exact ⟨x, bs', hread, honward, fun h => absurd h hnat⟩

end UserinfoField

/-! ## One TLV -/

/-- What a TLV does to the record. -/
def Takes (tlv : AimTlv) (i j : AimUserinfo) : Prop :=
  match UserinfoField.ofType tlv.type with
  | none => j = i
  | some f => ∃ x, j = f.put x i ∧ (f.Natural tlv.value.length → x = f.ofBytes tlv.value)

/-- A capability list of whole blocks. -/
def WholeCaps (tlv : AimTlv) : Prop := tlv.type = 0x000d → 16 ∣ tlv.value.length

theorem extractuserinfoValue_takes {tlv : AimTlv} (hcaps : WholeCaps tlv) (i : AimUserinfo)
    {bs : AimBstream} {r : List UInt8} (hr : bs.rest = tlv.value ++ r) :
    ∃ j bs', extractuserinfoValue tlv.type tlv.length i bs = some (j, bs') ∧ Onward bs bs' ∧
      Takes tlv i j := by
  unfold Takes
  cases htype : UserinfoField.ofType tlv.type with
  | none =>
    obtain ⟨bs', hvalue, honward⟩ :=
      @extractuserinfoValue_unknown tlv.type tlv.length i htype bs
    exact ⟨i, bs', hvalue, honward, rfl⟩
  | some f =>
    have hwhole : f = .capabilities → 16 ∣ tlv.value.length := by
      rintro rfl
      exact hcaps (List.mem_singleton.mp (UserinfoField.mem_types_of_ofType htype))
    obtain ⟨x, bs', hread, honward, hx⟩ :=
      @UserinfoField.read_of_append f tlv.length i bs _ r hr (tlv.length_toNat).symm hwhole
    refine ⟨f.put x i, bs', ?_, honward, x, rfl, hx⟩
    rw [extractuserinfoValue_field htype, stateT_bind hread]
    rfl

/-- A pass over a complete TLV ends behind it. -/
theorem extractuserinfoPass_tlv {tlv : AimTlv} (hcaps : WholeCaps tlv) (i : AimUserinfo)
    {bs : AimBstream} {r : List UInt8} (hr : bs.rest = tlv.encode ++ r) :
    ∃ j, extractuserinfoPass i bs = some (j, bs.skip tlv.encode.length) ∧ Takes tlv i j := by
  obtain ⟨htype, hlength, hrest⟩ := aimbsGet16_encode hr
  obtain ⟨j, bs', hvalue, honward, htakes⟩ := extractuserinfoValue_takes hcaps i hrest
  refine ⟨j, ?_, htakes⟩
  have hend : aimBstreamCurpos (bs.skip 4) + tlv.length.toNat ≤ bs'.len := by
    have hleft := bs.length_rest
    rw [hr, List.length_append, AimTlv.encode_length, aimBstreamEmpty] at hleft
    rw [honward.len_eq, AimTlv.length_toNat, aimBstreamCurpos, AimBstream.skip_offset,
      AimBstream.skip_len]
    omega
  unfold extractuserinfoPass
  rw [stateT_lift_bind, htype, stateT_lift_bind, hlength, stateT_get_bind, stateT_bind hvalue,
    stateT_lift_bind, aimBstreamSetpos_of_le hend]
  -- the reads left the bytes alone
  obtain ⟨data, offset⟩ := bs'
  obtain rfl : data = bs.data := honward.data_eq
  simp only [aimBstreamCurpos, AimBstream.skip, AimTlv.length_toNat, AimTlv.encode_length,
    Nat.add_assoc]
  rfl

/-! ## A list of TLVs -/

/-- The presence bits of the fields that are sent. -/
def sentBits (l : List AimTlv) : UInt32 :=
  orFlags (l.filterMap fun tlv => (UserinfoField.ofType tlv.type).map (·.bit))

/-- What the list `l` of TLVs does to the record: each field has the last value that was sent for
it, where that had its natural length, and is present; a field that was not sent is as before. -/
structure Framed (l : List AimTlv) (i j : AimUserinfo) : Prop where
  sn : j.sn = i.sn
  warnlevel : j.warnlevel = i.warnlevel
  present : j.present = i.present ||| sentBits l
  unsent : ∀ f : UserinfoField, f.occurrences l = [] → f.get j = f.get i
  sent : ∀ (f : UserinfoField) (last : AimTlv), (f.occurrences l).getLast? = some last →
    f.Natural last.value.length → f.get j = f.ofBytes last.value

theorem UserinfoField.occurrences_append (f : UserinfoField) (l m : List AimTlv) :
    f.occurrences (l ++ m) = f.occurrences l ++ f.occurrences m := List.filter_append ..

theorem sentBits_append (l m : List AimTlv) : sentBits (l ++ m) = sentBits l ||| sentBits m := by
  unfold sentBits
  rw [List.filterMap_append, orFlags_append]

theorem Framed.nil (i : AimUserinfo) : Framed [] i i where
  sn := rfl
  warnlevel := rfl
  present := (UInt32.or_zero).symm
  unsent := fun _ _ => rfl
  sent := fun _ _ hlast => nomatch hlast

theorem Takes.framed {tlv : AimTlv} {i j : AimUserinfo} (h : Takes tlv i j) : Framed [tlv] i j := by
  unfold Takes at h
  cases htype : UserinfoField.ofType tlv.type with
  | none =>
    rw [htype] at h
    obtain rfl : j = i := h
    have hbits : sentBits [tlv] = 0 := by simp [sentBits, htype, orFlags]
    have hocc (f : UserinfoField) : f.occurrences [tlv] = [] := by
      simp [UserinfoField.occurrences, htype]
    refine ⟨rfl, rfl, ?_, fun _ _ => rfl, fun f last hlast => ?_⟩
    · rw [hbits, UInt32.or_zero]
    · rw [hocc f] at hlast
      cases hlast
  | some f =>
    rw [htype] at h
    obtain ⟨x, rfl, hx⟩ := h
    have hbits : sentBits [tlv] = f.bit := by simp [sentBits, htype, orFlags]
    have hocc : f.occurrences [tlv] = [tlv] := by simp [UserinfoField.occurrences, htype]
    have hother {g : UserinfoField} (hg : g ≠ f) : g.occurrences [tlv] = [] := by
      simp [UserinfoField.occurrences, htype, Ne.symm hg]
    refine ⟨f.put_sn x i, f.put_warnlevel x i, ?_, fun g hg => ?_, fun g last hlast hnat => ?_⟩
    · rw [hbits, UserinfoField.put_present]
    · have hne : g ≠ f := by
        rintro rfl
        rw [hocc] at hg
        cases hg
      exact UserinfoField.get_put_of_ne x i hne
    · by_cases hg : g = f
      · subst hg
        rw [hocc] at hlast
        obtain rfl : tlv = last := Option.some.inj hlast
        rw [UserinfoField.get_put]
        exact hx hnat
      · rw [hother hg] at hlast
        cases hlast

theorem Framed.append {l m : List AimTlv} {i j k : AimUserinfo} (hl : Framed l i j)
    (hm : Framed m j k) : Framed (l ++ m) i k := by
  refine ⟨hm.sn.trans hl.sn, hm.warnlevel.trans hl.warnlevel, ?_, fun f hf => ?_,
    fun f last hlast hnat => ?_⟩
  · rw [hm.present, hl.present, sentBits_append, UInt32.or_assoc]
  · rw [f.occurrences_append, List.append_eq_nil_iff] at hf
    rw [hm.unsent f hf.2, hl.unsent f hf.1]
  · rw [f.occurrences_append, List.getLast?_append] at hlast
    cases hmlast : (f.occurrences m).getLast? with
    | none =>
      rw [hmlast, Option.none_or] at hlast
      rw [hm.unsent f (List.getLast?_eq_none_iff.mp hmlast), hl.sent f last hlast hnat]
    | some last' =>
      rw [hmlast, Option.some_or] at hlast
      obtain rfl := Option.some.inj hlast
      exact hm.sent f last' hmlast hnat

theorem aimExtractuserinfoLoop_tlvs {l : List AimTlv} (hcaps : ∀ tlv ∈ l, WholeCaps tlv)
    (i : AimUserinfo) {bs : AimBstream} {r : List UInt8} (hr : bs.rest = encodeTlvchain l ++ r) :
    ∃ j, aimExtractuserinfoLoop l.length i bs =
      some (j, bs.skip (encodeTlvchain l).length) ∧ Framed l i j := by
  induction l generalizing i bs with
  | nil => exact ⟨i, rfl, Framed.nil i⟩
  | cons tlv l ih =>
    rw [encodeTlvchain_cons, List.append_assoc] at hr
    obtain ⟨j, hpass, htakes⟩ := extractuserinfoPass_tlv (hcaps tlv List.mem_cons_self) i hr
    obtain ⟨k, hloop, hframed⟩ := ih (fun t ht => hcaps t (List.mem_cons_of_mem tlv ht)) j
      (bs.rest_skip_of_append hr)
    refine ⟨k, ?_, htakes.framed.append hframed⟩
    rw [List.length_cons, aimExtractuserinfoLoop, stateT_bind hpass, hloop, AimBstream.skip_skip,
      encodeTlvchain_cons, List.length_append]

/-- The loop makes its passes one after the other. -/
theorem aimExtractuserinfoLoop_succ (n : Nat) (i : AimUserinfo) :
    aimExtractuserinfoLoop (n + 1) i = aimExtractuserinfoLoop n i >>= extractuserinfoPass := by
  induction n generalizing i with
  | zero =>
    show (extractuserinfoPass i >>= fun j => pure j) = pure i >>= extractuserinfoPass
    rw [bind_pure, pure_bind]
  | succ n ih =>
    show (extractuserinfoPass i >>= fun j => aimExtractuserinfoLoop (n + 1) j) =
      (extractuserinfoPass i >>= fun j => aimExtractuserinfoLoop n j) >>= extractuserinfoPass
    rw [bind_assoc]
    congr 1
    funext j
    exact ih j

/-- Reading one more TLV of a type without a field does not change the record. -/
theorem aimExtractuserinfoLoop_unknown {l m : List AimTlv} {tlv : AimTlv}
    (hcaps : ∀ t ∈ l, WholeCaps t) (htype : UserinfoField.ofType tlv.type = none) (i : AimUserinfo)
    {bs : AimBstream} {r : List UInt8} (hr : bs.rest = encodeTlvchain (l ++ tlv :: m) ++ r) :
    ∃ j bs₁ bs₂, aimExtractuserinfoLoop l.length i bs = some (j, bs₁) ∧
      aimExtractuserinfoLoop (l.length + 1) i bs = some (j, bs₂) := by
  rw [encodeTlvchain_append, List.append_assoc] at hr
  obtain ⟨j, hloop, -⟩ := aimExtractuserinfoLoop_tlvs hcaps i hr
  have hrest := bs.rest_skip_of_append hr
  rw [encodeTlvchain_cons, List.append_assoc] at hrest
  have hwhole : WholeCaps tlv := by
    intro hcap
    rw [hcap] at htype
    cases htype
  obtain ⟨k, hpass, htakes⟩ := extractuserinfoPass_tlv hwhole j hrest
  unfold Takes at htakes
  rw [htype] at htakes
  obtain rfl : k = j := htakes
  exact ⟨k, _, _, hloop, by rw [aimExtractuserinfoLoop_succ, stateT_bind hloop, hpass]⟩

/-- A field's bit is among those sent where the field is. -/
theorem UserinfoField.bit_and_sentBits (f : UserinfoField) (l : List AimTlv) :
    f.bit &&& sentBits l = if f.occurrences l = [] then 0 else f.bit := by
  induction l with
  | nil => exact UInt32.and_zero
  | cons tlv l ih =>
    have hbits := sentBits_append [tlv] l
    have hocc := f.occurrences_append [tlv] l
    rw [List.singleton_append] at hbits hocc
    rw [hbits, hocc, mask_or, ih]
    cases htype : ofType tlv.type with
    | none =>
      have hnone : sentBits [tlv] = 0 := by simp [sentBits, htype, orFlags]
      have hskip : f.occurrences [tlv] = [] := by simp [occurrences, htype]
      rw [hnone, hskip, UInt32.and_zero, UInt32.zero_or, List.nil_append]
    | some g =>
      have hone : sentBits [tlv] = g.bit := by simp [sentBits, htype, orFlags]
      rw [hone]
      by_cases hg : f = g
      · have hkeep : f.occurrences [tlv] = [tlv] := by simp [occurrences, htype, hg]
        rw [hkeep, List.singleton_append, ← hg, UInt32.and_self, if_neg (List.cons_ne_nil tlv _)]
        by_cases hl : f.occurrences l = []
        · rw [if_pos hl, UInt32.or_zero]
        · rw [if_neg hl, UInt32.or_self]
      · have hskip : f.occurrences [tlv] = [] := by simp [occurrences, htype, Ne.symm hg]
        rw [hskip, bit_and_bit_of_ne hg, UInt32.zero_or, List.nil_append]

/-! ## A block -/

/-- A user info block of the TLVs `tlvs`. -/
def userinfoBlock (sn : List UInt8) (warnlevel : UInt16) (tlvs : List AimTlv) : List UInt8 :=
  aimutilPut8 (UInt8.ofNat sn.length) ++ (sn ++ (aimutilPut16 warnlevel ++
    (aimutilPut16 (UInt16.ofNat tlvs.length) ++ encodeTlvchain tlvs)))

/-- The record before the first TLV. -/
def userinfoStart (sn : List UInt8) (warnlevel : UInt16) : AimUserinfo :=
  { AimUserinfo.zero with sn := sn, warnlevel := warnlevel }

/-- The TLVs whose types have a field. -/
def knownTlvs (tlvs : List AimTlv) : List AimTlv :=
  tlvs.filter fun tlv => (UserinfoField.ofType tlv.type).isSome

section Block

variable {bs : AimBstream} {sn : List UInt8} {warnlevel : UInt16} {tlvs : List AimTlv}
  {r : List UInt8}

theorem aimExtractuserinfo_block (hsn : sn.length ≤ maxsnlen) (hcount : tlvs.length < 65536)
    (hr : bs.rest = userinfoBlock sn warnlevel tlvs ++ r) :
    aimExtractuserinfo bs = aimExtractuserinfoLoop tlvs.length (userinfoStart sn warnlevel)
      (bs.skip (5 + sn.length)) ∧ (bs.skip (5 + sn.length)).rest = encodeTlvchain tlvs ++ r := by
  unfold userinfoBlock at hr
  simp only [List.append_assoc] at hr
  have hsnlen : sn.length = (UInt8.ofNat sn.length).toNat := by
    unfold maxsnlen at hsn
    rw [UInt8.toNat_ofNat', Nat.mod_eq_of_lt (by omega)]
  have htlvcnt : (UInt16.ofNat tlvs.length).toNat = tlvs.length := by
    rw [UInt16.toNat_ofNat', Nat.mod_eq_of_lt hcount]
  have hread8 := reads_aimbsGet8 _ _ _ hr
  have hr8 := bs.rest_skip_of_append hr
  have hreadsn := reads_aimbsGetrawbuf hsnlen _ _ hr8
  have hrsn := AimBstream.rest_skip_of_append _ hr8
  have hreadwarn := reads_aimbsGet16 _ _ _ hrsn
  have hrwarn := AimBstream.rest_skip_of_append _ hrsn
  have hreadcnt := reads_aimbsGet16 _ _ _ hrwarn
  have hrcnt := AimBstream.rest_skip_of_append _ hrwarn
  have hskip : (((bs.skip (aimutilPut8 (UInt8.ofNat sn.length)).length).skip sn.length).skip
      (aimutilPut16 warnlevel).length).skip (aimutilPut16 (UInt16.ofNat tlvs.length)).length =
        bs.skip (5 + sn.length) := by
    simp only [AimBstream.skip_skip, aimutilPut8_length, aimutilPut16_length]
    congr 1
    omega
  rw [hskip] at hreadcnt hrcnt
  refine ⟨?_, hrcnt⟩
  unfold aimExtractuserinfo
  rw [stateT_lift_bind, hread8, stateT_lift_bind, hreadsn, stateT_lift_bind, hreadwarn,
    stateT_lift_bind, hreadcnt, htlvcnt]
  rfl

theorem aimExtractuserinfo_framed (hsn : sn.length ≤ maxsnlen) (hcount : tlvs.length < 65536)
    (hcaps : ∀ tlv ∈ tlvs, WholeCaps tlv) (hr : bs.rest = userinfoBlock sn warnlevel tlvs ++ r) :
    ∃ info, aimExtractuserinfo bs =
      some (info, bs.skip (userinfoBlock sn warnlevel tlvs).length) ∧
      Framed tlvs (userinfoStart sn warnlevel) info := by
  obtain ⟨hloop, hrest⟩ := aimExtractuserinfo_block hsn hcount hr
  obtain ⟨info, hrun, hframed⟩ :=
    aimExtractuserinfoLoop_tlvs hcaps (userinfoStart sn warnlevel) hrest
  refine ⟨info, ?_, hframed⟩
  have hlen : (userinfoBlock sn warnlevel tlvs).length =
      5 + sn.length + (encodeTlvchain tlvs).length := by
    simp only [userinfoBlock, List.length_append, aimutilPut8_length, aimutilPut16_length]
    omega
  rw [hloop, hrun, AimBstream.skip_skip, hlen]

theorem occurrences_knownTlvs (f : UserinfoField) (tlvs : List AimTlv) :
    f.occurrences (knownTlvs tlvs) = f.occurrences tlvs := by
  unfold UserinfoField.occurrences knownTlvs
  rw [List.filter_filter]
  apply List.filter_congr
  intro tlv _
  cases UserinfoField.ofType tlv.type with
  | none => rfl
  | some g => simp

theorem sentBits_knownTlvs (tlvs : List AimTlv) : sentBits (knownTlvs tlvs) = sentBits tlvs := by
  unfold sentBits knownTlvs
  rw [List.filterMap_filter]
  congr 2
  funext tlv
  cases UserinfoField.ofType tlv.type with
  | none => rfl
  | some g => rfl

/-- Where all values have their natural lengths, the known TLVs alone make the record. -/
theorem Framed.eq_of_knownTlvs {i j k : AimUserinfo}
    (hnat : ∀ tlv ∈ tlvs, ∀ f, UserinfoField.ofType tlv.type = some f →
      f.Natural tlv.value.length)
    (hj : Framed tlvs i j) (hk : Framed (knownTlvs tlvs) i k) : j = k := by
  apply UserinfoField.ext_get
  · rw [hj.sn, hk.sn]
  · rw [hj.warnlevel, hk.warnlevel]
  · rw [hj.present, hk.present, sentBits_knownTlvs]
  · intro f
    have hocc := occurrences_knownTlvs f tlvs
    cases hlast : (f.occurrences tlvs).getLast? with
    | none =>
      have hnone := List.getLast?_eq_none_iff.mp hlast
      rw [hj.unsent f hnone, hk.unsent f (hocc.trans hnone)]
    | some last =>
      have hmem := List.mem_filter.mp (List.mem_of_getLast? hlast)
      have hlen := hnat last hmem.1 f (of_decide_eq_true hmem.2)
      rw [hj.sent f last hlast hlen, hk.sent f last (by rw [hocc, hlast]) hlen]

/-- A complete block is read to the end of its last TLV. A field that was sent is present, and is
the last value sent where that has its natural length; a field that was not sent is not present.
A TLV of a type without a field changes nothing when it is read, and where all values have their
natural lengths nothing changes when such TLVs are left out. -/
theorem aimExtractuserinfo_userinfoBlock (hsn : sn.length ≤ maxsnlen)
    (hcount : tlvs.length < 65536) (hcaps : ∀ tlv ∈ tlvs, WholeCaps tlv)
    (hr : bs.rest = userinfoBlock sn warnlevel tlvs ++ r) :
    ∃ info, aimExtractuserinfo bs =
        some (info, bs.skip (userinfoBlock sn warnlevel tlvs).length) ∧
      info.sn = sn ∧ info.warnlevel = warnlevel ∧
      (∀ f : UserinfoField, f.occurrences tlvs = [] → ¬ info.has f.bit) ∧
      (∀ (f : UserinfoField) (last : AimTlv), (f.occurrences tlvs).getLast? = some last →
        info.has f.bit ∧ (f.Natural last.value.length → f.get info = f.ofBytes last.value)) ∧
      (∀ (l m : List AimTlv) (tlv : AimTlv), tlvs = l ++ tlv :: m →
        UserinfoField.ofType tlv.type = none →
        ∃ i bs₁ bs₂,
          aimExtractuserinfoLoop l.length (userinfoStart sn warnlevel)
            (bs.skip (5 + sn.length)) = some (i, bs₁) ∧
          aimExtractuserinfoLoop (l.length + 1) (userinfoStart sn warnlevel)
            (bs.skip (5 + sn.length)) = some (i, bs₂)) ∧
      ((∀ tlv ∈ tlvs, ∀ f, UserinfoField.ofType tlv.type = some f →
          f.Natural tlv.value.length) →
        ∀ (bs' : AimBstream) (r' : List UInt8),
          bs'.rest = userinfoBlock sn warnlevel (knownTlvs tlvs) ++ r' →
          ∃ bs'', aimExtractuserinfo bs' = some (info, bs'')) := by
  obtain ⟨info, hextract, hframed⟩ := aimExtractuserinfo_framed hsn hcount hcaps hr
  have hbits (f : UserinfoField) : info.present &&& f.bit =
      if f.occurrences tlvs = [] then 0 else f.bit := by
    rw [← f.bit_and_sentBits, UInt32.and_comm, hframed.present]
    exact congrArg (f.bit &&& ·) UInt32.zero_or
  refine ⟨info, hextract, hframed.sn, hframed.warnlevel, fun f hf => ?_, fun f last hlast => ?_,
    fun l m tlv heq htype => ?_, fun hnat bs' r' hr' => ?_⟩
  · rw [AimUserinfo.has, hbits, if_pos hf]
    exact not_not_intro rfl
  · have hne : f.occurrences tlvs ≠ [] := by
      intro hnil
      rw [hnil] at hlast
      cases hlast
    refine ⟨?_, hframed.sent f last hlast⟩
    rw [AimUserinfo.has, hbits, if_neg hne]
    exact f.bit_ne_zero
  · obtain ⟨-, hrest⟩ := aimExtractuserinfo_block hsn hcount hr
    rw [heq] at hrest
    have hl : ∀ t ∈ l, WholeCaps t := by
      intro t ht
      apply hcaps
      rw [heq]
      exact List.mem_append_left _ ht
    exact aimExtractuserinfoLoop_unknown hl htype _ hrest
  · have hsub : ∀ tlv ∈ knownTlvs tlvs, WholeCaps tlv :=
      fun tlv htlv => hcaps tlv (List.mem_of_mem_filter htlv)
    have hle : (knownTlvs tlvs).length ≤ tlvs.length := List.length_filter_le ..
    obtain ⟨info', hextract', hframed'⟩ :=
      aimExtractuserinfo_framed hsn (Nat.lt_of_le_of_lt hle hcount) hsub hr'
    obtain rfl := hframed.eq_of_knownTlvs hnat hframed'
    exact ⟨_, hextract'⟩

end Block

/-- An idle time, an unknown TLV and another idle time, with a byte behind them. -/
def idleTlvs : List AimTlv :=
  [createtlv 0x0004 2 [0, 7], createtlv 0x0099 1 [1], createtlv 0x0004 2 [0, 9]]

theorem aimExtractuserinfo_userinfoBlock_idle :
    ∃ info, aimExtractuserinfo ⟨userinfoBlock [0x61] 3 idleTlvs ++ [0xff], 0⟩ =
        some (info, ⟨userinfoBlock [0x61] 3 idleTlvs ++ [0xff], 23⟩) ∧
      info.has aimUserinfoPresentIdle ∧ info.idletime = 9 := by
  obtain ⟨info, hextract, -, -, -, hsent, -, -⟩ :=
    @aimExtractuserinfo_userinfoBlock ⟨userinfoBlock [0x61] 3 idleTlvs ++ [0xff], 0⟩ [0x61] 3
      idleTlvs [0xff] (by decide) (by decide) (by unfold WholeCaps; decide) rfl
  obtain ⟨hhas, hget⟩ := hsent .idletime (createtlv 0x0004 2 [0, 9]) (by decide)
  exact ⟨info, hextract, hhas, hget rfl⟩

/-- Two session lengths of different types, and an ICQ status with a first half. -/
def sharedTlvs : List AimTlv :=
  [createtlv 0x000f 4 [0, 0, 0, 1], createtlv 0x0010 4 [0, 0, 0, 2],
    createtlv 0x0006 4 [0, 1, 0, 2]]

/-- Each of the three types occurs once, with its natural length; the field of the first has the
value of the second, and the status is not the value of the third. -/
theorem aimExtractuserinfo_sharedTlvs :
    ∃ info bs', aimExtractuserinfo ⟨userinfoBlock [0x61] 0 sharedTlvs, 0⟩ = some (info, bs') ∧
      sharedTlvs.filter (·.type = 0x000f) = [createtlv 0x000f 4 (aimutilPut32 1)] ∧
      info.sessionlen ≠ 1 ∧
      sharedTlvs.filter (·.type = 0x0006) = [createtlv 0x0006 4 (aimutilPut32 0x00010002)] ∧
      info.icqinfoStatus ≠ 0x00010002 := by
  refine ⟨_, _, rfl, ?_, ?_, ?_, ?_⟩
  · decide
  · decide
  · decide
  · decide

end Libfaim
