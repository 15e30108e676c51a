import Libfaim.Tlv.RoundTrip
import Libfaim.Userinfo

/-!
# Putting a user info block and extracting it again

The chain `aim_putuserinfo` builds is a list of optional TLVs (`putuserinfoChain_eq`), and the loop
of `aim_extractuserinfo` takes each of them as one update of the record (`UserinfoTlvs`). What
comes out (`userinfoReadBack`) is the record that went in but for two slips: type `0x0002` is
written for "member since" and read as the creation time, and a capability mask is written neither
when it is empty nor in full when it has every known flag.
-/

namespace Libfaim

open Mask

/-! ## The chain -/

/-- The entries whose blocks fit the buffer of `aim_addtlvtochain_caps`. -/
def writtenCaps (caps : UInt32) : List AimCap := (selectedCaps caps aimCaps).take 16

theorem writtenCaps_mem {caps : UInt32} {c : AimCap} (h : c ∈ writtenCaps caps) : c ∈ aimCaps :=
  List.mem_of_mem_filter (List.mem_of_mem_take h)

theorem capBlocks_writtenCaps_length (caps : UInt32) :
    (capBlocks (writtenCaps caps)).length = 16 * (writtenCaps caps).length :=
  capBlocks_length fun c hc => aimCaps_data_length c (writtenCaps_mem hc)

theorem writtenCaps_length_le (caps : UInt32) : (writtenCaps caps).length ≤ 16 := by
  rw [writtenCaps, List.length_take]
  omega

def capsTlv (caps : UInt32) : AimTlv where
  type := 0x000d
  value := capBlocks (writtenCaps caps)
  length_lt := by
    have := writtenCaps_length_le caps
    rw [capBlocks_writtenCaps_length]
    omega

theorem aimPutcap_eq (caps : UInt32) {bs : AimBstream} (h : bs.offset ≤ bs.len)
    (hroom : aimBstreamEmpty bs = 16 * 16) :
    aimPutcap caps bs = ((), bs.store (capBlocks (writtenCaps caps))) :=
  aimPutcapLoop_eq caps aimCaps_data_length h hroom

/-- What has been put into a buffer, made a TLV. -/
theorem createtlv_store {bs : AimBstream} {v : List UInt8} (t : UInt16) (h : bs.offset = 0)
    (hv : v.length < 65536) :
    createtlv t (UInt16.ofNat (aimBstreamCurpos (bs.store v))) (bs.store v).data = ⟨t, v, hv⟩ := by
  apply AimTlv.eq_of
  · rfl
  · simp only [createtlv, aimBstreamCurpos, h, Nat.zero_add, UInt16.toNat_ofNat',
      Nat.mod_eq_of_lt hv, AimBstream.store, List.take_zero, List.nil_append]
    exact List.take_left' rfl

theorem aimAddtlvtochainCaps_eq {list : List AimTlv} (type : UInt16) {caps : UInt32}
    (h : caps ≠ 0) :
    (aimAddtlvtochainCaps list type caps).2 = list ++ [{ capsTlv caps with type := type }] := by
  unfold aimAddtlvtochainCaps
  generalize hbuf : (⟨List.replicate (16 * 16) 0, 0⟩ : AimBstream) = buf
  have hoffset : buf.offset = 0 := by rw [← hbuf]
  have hroom : aimBstreamEmpty buf = 16 * 16 := by
    rw [aimBstreamEmpty, hoffset, AimBstream.len, ← hbuf, List.length_replicate, Nat.sub_zero]
  have hput := aimPutcap_eq caps (by rw [hoffset]; exact Nat.zero_le _) hroom
  have hlt : (capBlocks (writtenCaps caps)).length < 65536 := (capsTlv caps).length_lt
  simp only [if_neg h, hput, aimAddtlvtochainRaw]
  rw [createtlv_store type hoffset hlt]
  rfl

theorem addtlvIf_caps (c : Prop) [Decidable c] (caps : UInt32) (list : List AimTlv) :
    addtlvIf c (aimAddtlvtochainCaps · 0x000d caps) list =
      list ++ optTlv (c ∧ caps ≠ 0) (capsTlv caps) := by
  by_cases hz : caps = 0
  · simp [addtlvIf, optTlv, hz, aimAddtlvtochainCaps]
  · have hcaps : (aimAddtlvtochainCaps list 0x000d caps).2 = list ++ [capsTlv caps] :=
      aimAddtlvtochainCaps_eq 0x000d hz
    rw [addtlvIf_eq hcaps]
    simp only [optTlv, hz, ne_eq, not_false_eq_true, and_true]

section Chain

variable (info : AimUserinfo)

def sessionlenType : UInt16 := if info.flags &&& aimFlagAol ≠ 0 then 0x0010 else 0x000f

theorem putuserinfoChain_eq : putuserinfoChain info =
    optTlv (info.has aimUserinfoPresentFlags) (createtlv 0x0001 2 (aimutilPut16 info.flags)) ++
    optTlv (info.has aimUserinfoPresentMembersince)
      (createtlv 0x0002 4 (aimutilPut32 info.membersince)) ++
    optTlv (info.has aimUserinfoPresentOnlinesince)
      (createtlv 0x0003 4 (aimutilPut32 info.onlinesince)) ++
    optTlv (info.has aimUserinfoPresentIdle) (createtlv 0x0004 2 (aimutilPut16 info.idletime)) ++
    optTlv (info.has aimUserinfoPresentCapabilities ∧ info.capabilities ≠ 0)
      (capsTlv info.capabilities) ++
    optTlv (info.has aimUserinfoPresentSessionlen)
      (createtlv (sessionlenType info) 4 (aimutilPut32 info.sessionlen)) := by
  unfold putuserinfoChain sessionlenType
  simp only [addtlvIf_16, addtlvIf_32, addtlvIf_caps, List.nil_append]

end Chain

/-! ## One TLV -/

theorem decodes_extractuserinfoPass {tlv : AimTlv} {i j : AimUserinfo}
    (h : Decodes (extractuserinfoValue tlv.type tlv.length i) tlv.value j) :
    Decodes (extractuserinfoPass i) tlv.encode j := by
  have htype := Decodes.lift (reads_aimbsGet16 tlv.type)
  have hlength := Decodes.lift (reads_aimbsGet16 tlv.length)
  refine htype.bind (hlength.bind ?_)
  intro bs r hr
  have hvalue := h bs r hr
  have hend : aimBstreamCurpos bs + tlv.length.toNat = (bs.skip tlv.value.length).offset := by
    rw [AimTlv.length_toNat, AimBstream.skip_offset, aimBstreamCurpos]
  have hsetpos : (liftM (aimBstreamSetpos (bs.skip tlv.value.length).offset) :
      StateT AimBstream Option Int) (bs.skip tlv.value.length) =
        some (_, bs.skip tlv.value.length) :=
    congrArg some (Prod.ext rfl (aimBstreamSetpos_offset _))
  rw [stateT_get_bind, stateT_bind hvalue, hend, stateT_bind hsetpos]
  rfl

/-- The loop of `aim_extractuserinfo` takes the TLVs `l` as an update of the record. -/
def UserinfoTlvs (l : List AimTlv) (i j : AimUserinfo) : Prop :=
  Decodes (aimExtractuserinfoLoop l.length i) (encodeTlvchain l) j

namespace UserinfoTlvs

variable {l m : List AimTlv} {tlv : AimTlv} {i j k : AimUserinfo}

theorem nil (i : AimUserinfo) : UserinfoTlvs [] i i := Decodes.pure i

theorem cons (htlv : Decodes (extractuserinfoPass i) tlv.encode j) (hl : UserinfoTlvs l j k) :
    UserinfoTlvs (tlv :: l) i k :=
  htlv.bind hl

theorem opt {c : Prop} [Decidable c] (htlv : c → Decodes (extractuserinfoPass i) tlv.encode j)
    (hskip : ¬ c → i = j) (hl : UserinfoTlvs l j k) : UserinfoTlvs (optTlv c tlv ++ l) i k := by
  unfold optTlv
  by_cases hc : c
  · rw [if_pos hc]
    exact cons (htlv hc) hl
  · rw [if_neg hc, hskip hc]
    exact hl

/-- Reading under a condition is a change of the fields under that condition. -/
theorem opt_flags {c : Prop} [Decidable c] {v : UInt16}
    (hl : UserinfoTlvs l { i with
      flags := if c then v else i.flags
      present := i.present ||| if c then aimUserinfoPresentFlags else 0 } k) :
    UserinfoTlvs (optTlv c (createtlv 0x0001 2 (aimutilPut16 v)) ++ l) i k := by
  refine opt (fun hc => ?_) (fun hc => ?_) hl
  · simp only [if_pos hc]
    apply decodes_extractuserinfoPass
    exact (Decodes.lift (reads_aimbsGet16 v)).bind (Decodes.pure _)
  · simp only [if_neg hc, UInt32.or_zero]

theorem opt_createtime {c : Prop} [Decidable c] {v : UInt32}
    (hl : UserinfoTlvs l { i with
      createtime := if c then v else i.createtime
      present := i.present ||| if c then aimUserinfoPresentCreatetime else 0 } k) :
    UserinfoTlvs (optTlv c (createtlv 0x0002 4 (aimutilPut32 v)) ++ l) i k := by
  refine opt (fun hc => ?_) (fun hc => ?_) hl
  · simp only [if_pos hc]
    apply decodes_extractuserinfoPass
    exact (Decodes.lift (reads_aimbsGet32 v)).bind (Decodes.pure _)
  · simp only [if_neg hc, UInt32.or_zero]

theorem opt_onlinesince {c : Prop} [Decidable c] {v : UInt32}
    (hl : UserinfoTlvs l { i with
      onlinesince := if c then v else i.onlinesince
      present := i.present ||| if c then aimUserinfoPresentOnlinesince else 0 } k) :
    UserinfoTlvs (optTlv c (createtlv 0x0003 4 (aimutilPut32 v)) ++ l) i k := by
  refine opt (fun hc => ?_) (fun hc => ?_) hl
  · simp only [if_pos hc]
    apply decodes_extractuserinfoPass
    exact (Decodes.lift (reads_aimbsGet32 v)).bind (Decodes.pure _)
  · simp only [if_neg hc, UInt32.or_zero]

theorem opt_idletime {c : Prop} [Decidable c] {v : UInt16}
    (hl : UserinfoTlvs l { i with
      idletime := if c then v else i.idletime
      present := i.present ||| if c then aimUserinfoPresentIdle else 0 } k) :
    UserinfoTlvs (optTlv c (createtlv 0x0004 2 (aimutilPut16 v)) ++ l) i k := by
  refine opt (fun hc => ?_) (fun hc => ?_) hl
  · simp only [if_pos hc]
    apply decodes_extractuserinfoPass
    exact (Decodes.lift (reads_aimbsGet16 v)).bind (Decodes.pure _)
  · simp only [if_neg hc, UInt32.or_zero]

theorem opt_capabilities {c : Prop} [Decidable c] {caps : UInt32}
    (hl : UserinfoTlvs l { i with
      capabilities := if c then orFlags ((writtenCaps caps).map (·.flag)) else i.capabilities
      present := i.present ||| if c then aimUserinfoPresentCapabilities else 0 } k) :
    UserinfoTlvs (optTlv c (capsTlv caps) ++ l) i k := by
  refine opt (fun hc => ?_) (fun hc => ?_) hl
  · simp only [if_pos hc]
    apply decodes_extractuserinfoPass
    have hcap := decodes_aimGetcap fun c (hc : c ∈ writtenCaps caps) => writtenCaps_mem hc
    have hlen : (capBlocks (writtenCaps caps)).length = (capsTlv caps).length.toNat :=
      (AimTlv.length_toNat (capsTlv caps)).symm
    rw [hlen] at hcap
    have h : Decodes (extractuserinfoValue 0x000d (capsTlv caps).length i)
        (capBlocks (writtenCaps caps) ++ []) _ := hcap.bind (Decodes.pure _)
    rw [List.append_nil] at h
    exact h
  · simp only [if_neg hc, UInt32.or_zero]

theorem opt_sessionlen {c : Prop} [Decidable c] {type : UInt16} {v : UInt32}
    (htype : type = 0x000f ∨ type = 0x0010)
    (hl : UserinfoTlvs l { i with
      sessionlen := if c then v else i.sessionlen
      present := i.present ||| if c then aimUserinfoPresentSessionlen else 0 } k) :
    UserinfoTlvs (optTlv c (createtlv type 4 (aimutilPut32 v)) ++ l) i k := by
  refine opt (fun hc => ?_) (fun hc => ?_) hl
  · simp only [if_pos hc]
    apply decodes_extractuserinfoPass
    rcases htype with rfl | rfl
    · exact (Decodes.lift (reads_aimbsGet32 v)).bind (Decodes.pure _)
    · exact (Decodes.lift (reads_aimbsGet32 v)).bind (Decodes.pure _)
  · simp only [if_neg hc, UInt32.or_zero]

end UserinfoTlvs

/-! ## The whole block -/

section Block

variable (info : AimUserinfo)

/-- The capabilities that come out again. -/
def capabilitiesReadBack (caps : UInt32) : UInt32 := orFlags ((writtenCaps caps).map (·.flag))

/-- The record `aim_extractuserinfo` makes of what `aim_putuserinfo` wrote. -/
def userinfoReadBack : AimUserinfo where
  sn := info.sn
  warnlevel := info.warnlevel
  idletime := if info.has aimUserinfoPresentIdle then info.idletime else 0
  flags := if info.has aimUserinfoPresentFlags then info.flags else 0
  createtime := if info.has aimUserinfoPresentMembersince then info.membersince else 0
  membersince := 0
  onlinesince := if info.has aimUserinfoPresentOnlinesince then info.onlinesince else 0
  sessionlen := if info.has aimUserinfoPresentSessionlen then info.sessionlen else 0
  capabilities := if info.has aimUserinfoPresentCapabilities ∧ info.capabilities ≠ 0 then
    capabilitiesReadBack info.capabilities else 0
  icqinfoStatus := 0
  icqinfoIpaddr := 0
  icqinfoCrap := List.replicate 0x25 0
  present := 0
    ||| (if info.has aimUserinfoPresentFlags then aimUserinfoPresentFlags else 0)
    ||| (if info.has aimUserinfoPresentMembersince then aimUserinfoPresentCreatetime else 0)
    ||| (if info.has aimUserinfoPresentOnlinesince then aimUserinfoPresentOnlinesince else 0)
    ||| (if info.has aimUserinfoPresentIdle then aimUserinfoPresentIdle else 0)
    ||| (if info.has aimUserinfoPresentCapabilities ∧ info.capabilities ≠ 0 then
      aimUserinfoPresentCapabilities else 0)
    ||| (if info.has aimUserinfoPresentSessionlen then aimUserinfoPresentSessionlen else 0)

theorem userinfoTlvs_putuserinfoChain :
    UserinfoTlvs (putuserinfoChain info)
      { AimUserinfo.zero with sn := info.sn, warnlevel := info.warnlevel }
      (userinfoReadBack info) := by
  rw [putuserinfoChain_eq, ← List.append_nil (_ ++ _)]
  simp only [List.append_assoc]
  apply UserinfoTlvs.opt_flags
  apply UserinfoTlvs.opt_createtime
  apply UserinfoTlvs.opt_onlinesince
  apply UserinfoTlvs.opt_idletime
  apply UserinfoTlvs.opt_capabilities
  refine UserinfoTlvs.opt_sessionlen ?_ (UserinfoTlvs.nil _)
  unfold sessionlenType
  by_cases haol : info.flags &&& aimFlagAol ≠ 0
  · exact Or.inr (if_pos haol)
  · exact Or.inl (if_neg haol)

end Block

section RoundTrip

variable {info : AimUserinfo}

def userinfoBytes (info : AimUserinfo) : List UInt8 :=
  aimutilPut8 (UInt8.ofNat info.sn.length) ++ (info.sn ++ (aimutilPut16 info.warnlevel ++
    (aimutilPut16 (UInt16.ofNat (putuserinfoChain info).length) ++
      encodeTlvchain (putuserinfoChain info))))

theorem length_append_optTlv_le {l : List AimTlv} {n : Nat} (c : Prop) [Decidable c] (tlv : AimTlv)
    (h : l.length ≤ n) : (l ++ optTlv c tlv).length ≤ n + 1 := by
  unfold optTlv
  rw [List.length_append]
  by_cases hc : c
  · rw [if_pos hc, List.length_singleton]
    omega
  · rw [if_neg hc, List.length_nil]
    omega

theorem putuserinfoChain_length_le (info : AimUserinfo) : (putuserinfoChain info).length ≤ 6 := by
  rw [putuserinfoChain_eq, ← List.nil_append (optTlv (info.has aimUserinfoPresentFlags) _)]
  repeat apply length_append_optTlv_le
  exact Nat.le_refl 0

theorem writes_aimPutuserinfo (hnul : 0 ∉ info.sn) :
    Writes (aimPutuserinfo info) (userinfoBytes info) 0 := by
  have hlen : strlen info.sn = info.sn.length := by rw [strlen, cstr_of_no_nul hnul]
  have hchain : Writes
      (aimWritetlvchain (putuserinfoChain info) >>= fun _ => (pure 0 : StateM AimBstream Int))
      (encodeTlvchain (putuserinfoChain info)) 0 :=
    ((writes_aimWritetlvchain _).bind (Writes.pure 0)).of_eq (List.append_nil _)
  unfold aimPutuserinfo
  rw [hlen]
  exact (writes_aimbsPut8 _).bind <| (writes_aimbsPutraw rfl).bind <|
    (writes_aimbsPut16 _).bind <| (writes_aimbsPut16 _).bind hchain

theorem decodes_aimExtractuserinfo (hsn : info.sn.length ≤ 32) :
    Decodes aimExtractuserinfo (userinfoBytes info) (userinfoReadBack info) := by
  have hsnlen : info.sn.length = (UInt8.ofNat info.sn.length).toNat := by
    rw [UInt8.toNat_ofNat', Nat.mod_eq_of_lt (by omega)]
  have hcount : (putuserinfoChain info).length =
      (UInt16.ofNat (putuserinfoChain info).length).toNat := by
    have := putuserinfoChain_length_le info
    rw [UInt16.toNat_ofNat', Nat.mod_eq_of_lt (by omega)]
  have hloop := userinfoTlvs_putuserinfoChain info
  unfold UserinfoTlvs at hloop
  rw [hcount] at hloop
  exact (Decodes.lift (reads_aimbsGet8 _)).bind <|
    (Decodes.lift (reads_aimbsGetrawbuf hsnlen)).bind <|
    (Decodes.lift (reads_aimbsGet16 _)).bind <|
    (Decodes.lift (reads_aimbsGet16 _)).bind hloop

/-! ### What comes out is what went in -/

/-- The presence bits of the fields `aim_putuserinfo` knows. -/
def putuserinfoFields : UInt32 := aimUserinfoPresentFlags ||| aimUserinfoPresentMembersince |||
  aimUserinfoPresentOnlinesince ||| aimUserinfoPresentIdle ||| aimUserinfoPresentCapabilities |||
  aimUserinfoPresentSessionlen

/-- The same screen name, warning level and present fields. -/
structure SameUserinfo (info out : AimUserinfo) : Prop where
  sn : out.sn = info.sn
  warnlevel : out.warnlevel = info.warnlevel
  present : out.present = info.present
  flags : info.has aimUserinfoPresentFlags → out.flags = info.flags
  membersince : info.has aimUserinfoPresentMembersince → out.membersince = info.membersince
  onlinesince : info.has aimUserinfoPresentOnlinesince → out.onlinesince = info.onlinesince
  idletime : info.has aimUserinfoPresentIdle → out.idletime = info.idletime
  capabilities : info.has aimUserinfoPresentCapabilities → out.capabilities = info.capabilities
  sessionlen : info.has aimUserinfoPresentSessionlen → out.sessionlen = info.sessionlen

/-- Nothing of the record is lost in `aim_putuserinfo` or taken for something else. -/
def PutsAll (info : AimUserinfo) : Prop :=
  ¬ info.has aimUserinfoPresentMembersince ∧
    (info.has aimUserinfoPresentCapabilities →
      info.capabilities ≠ 0 ∧ info.capabilities ≠ knownCaps)

/-- All known flags together do not fit the buffer. -/
theorem capabilitiesReadBack_knownCaps : capabilitiesReadBack knownCaps ≠ knownCaps := by decide

theorem capabilitiesReadBack_eq {caps : UInt32} (h : caps &&& knownCaps = caps)
    (hall : caps ≠ knownCaps) : capabilitiesReadBack caps = caps := by
  have hle : (selectedCaps caps aimCaps).length ≤ 16 := by
    rwa [selectedCaps_length_le_iff, h]
  rw [capabilitiesReadBack, writtenCaps, List.take_of_length_le hle, orFlags_selectedCaps, h]

theorem AimUserinfo.ite_has {f : UInt32} (hf : IsFlag f) (info : AimUserinfo) :
    (if info.has f then f else 0) = info.present &&& f := by
  by_cases h : info.has f
  · rw [if_pos h]
    exact ((and_flag hf info.present).resolve_right h).symm
  · rw [if_neg h]
    exact (not_not.mp h).symm

theorem userinfoReadBack_present (hpresent : info.present &&& putuserinfoFields = info.present)
    (hall : PutsAll info) : (userinfoReadBack info).present = info.present := by
  have hflags : IsFlag aimUserinfoPresentFlags := ⟨0, rfl⟩
  have honline : IsFlag aimUserinfoPresentOnlinesince := ⟨2, rfl⟩
  have hidle : IsFlag aimUserinfoPresentIdle := ⟨3, rfl⟩
  have hcaps : IsFlag aimUserinfoPresentCapabilities := ⟨7, rfl⟩
  have hsession : IsFlag aimUserinfoPresentSessionlen := ⟨8, rfl⟩
  obtain ⟨hms, hput⟩ := hall
  have hmember : info.present &&& aimUserinfoPresentMembersince = 0 := not_not.mp hms
  have hboth : info.has aimUserinfoPresentCapabilities ∧ info.capabilities ≠ 0 ↔
      info.has aimUserinfoPresentCapabilities := by
    constructor
    · exact fun h => h.1
    · exact fun h => ⟨h, (hput h).1⟩
  simp only [putuserinfoFields, mask_or, hmember, UInt32.or_zero] at hpresent
  simp only [userinfoReadBack, if_neg hms, hboth, info.ite_has hflags, info.ite_has honline,
    info.ite_has hidle, info.ite_has hcaps, info.ite_has hsession, UInt32.zero_or, UInt32.or_zero]
  exact hpresent

/-- Bits that are not put do not come out, and "member since" comes out as another bit. -/
theorem putsAll_of_present (hpresent : info.present &&& putuserinfoFields = info.present)
    (h : (userinfoReadBack info).present = info.present) :
    ¬ info.has aimUserinfoPresentMembersince ∧
      (info.has aimUserinfoPresentCapabilities → info.capabilities ≠ 0) := by
  constructor
  · intro hms
    have hin : info.present &&& aimUserinfoPresentCreatetime = 0 := by
      have hzero : putuserinfoFields &&& aimUserinfoPresentCreatetime = 0 := by decide
      rw [← hpresent, UInt32.and_assoc, hzero, UInt32.and_zero]
    have hout : aimUserinfoPresentCreatetime &&& (userinfoReadBack info).present =
        aimUserinfoPresentCreatetime := by
      simp (disch := decide) only [userinfoReadBack, and_or_ite, if_pos hms]
      rw [mask_or, and_or_ite (by decide), UInt32.and_zero, UInt32.and_self, UInt32.zero_or]
    rw [h, UInt32.and_comm, hin] at hout
    exact absurd hout (by decide)
  · intro hcaps hz
    have hnone : ¬ (info.has aimUserinfoPresentCapabilities ∧ info.capabilities ≠ 0) :=
      fun hc => hc.2 hz
    have hout : aimUserinfoPresentCapabilities &&& (userinfoReadBack info).present = 0 := by
      simp (disch := decide) only [userinfoReadBack, and_or_ite, if_neg hnone, UInt32.or_zero,
        UInt32.and_zero]
    rw [h, UInt32.and_comm] at hout
    exact hcaps hout

/-- What `aim_putuserinfo` writes into a large enough stream is extracted as the same record
exactly when "member since" is not present and the capabilities, where present, are neither empty
nor all the known ones. -/
theorem aimExtractuserinfo_putuserinfo_iff {bs : AimBstream} (hnul : 0 ∉ info.sn)
    (hsn : info.sn.length ≤ 32) (hpresent : info.present &&& putuserinfoFields = info.present)
    (hcaps : info.capabilities &&& knownCaps = info.capabilities) (hbs : bs.offset ≤ bs.len)
    (hroom : 5 + info.sn.length + aimSizetlvchain (putuserinfoChain info) ≤ aimBstreamEmpty bs) :
    (∃ out bs', aimExtractuserinfo (aimBstreamSetpos bs.offset (aimPutuserinfo info bs).2).2 =
      some (out, bs') ∧ SameUserinfo info out) ↔ PutsAll info := by
  have hlen : (userinfoBytes info).length =
      5 + info.sn.length + aimSizetlvchain (putuserinfoChain info) := by
    simp only [userinfoBytes, List.length_append, aimutilPut8_length, aimutilPut16_length,
      encodeTlvchain_length]
    omega
  have hput := writes_aimPutuserinfo hnul bs hbs (by rwa [hlen])
  have hextract := decodes_aimExtractuserinfo hsn _ _ (rest_setpos_store (v := userinfoBytes info)
    hbs)
  rw [hput, hextract]
  constructor
  · rintro ⟨out, bs', hout, hsame⟩
    obtain rfl : userinfoReadBack info = out := congrArg Prod.fst (Option.some.inj hout)
    obtain ⟨hms, hzero⟩ := putsAll_of_present hpresent hsame.present
    refine ⟨hms, fun hc => ⟨hzero hc, ?_⟩⟩
    intro hknown
    have hback := hsame.capabilities hc
    simp only [userinfoReadBack, if_pos (And.intro hc (hzero hc))] at hback
    rw [hknown] at hback
    exact capabilitiesReadBack_knownCaps hback
  · intro hall
    refine ⟨_, _, rfl, rfl, rfl, userinfoReadBack_present hpresent hall, ?_, ?_, ?_, ?_, ?_, ?_⟩
    · exact fun hc => if_pos hc
    · exact fun hc => absurd hc hall.1
    · exact fun hc => if_pos hc
    · exact fun hc => if_pos hc
    · intro hc
      obtain ⟨hzero, hknown⟩ := hall.2 hc
      exact (if_pos ⟨hc, hzero⟩).trans (capabilitiesReadBack_eq hcaps hknown)
    · exact fun hc => if_pos hc

set_option maxRecDepth 2000 in
/-- A chat client that has been idle, in a stream of 64 bytes. -/
theorem aimExtractuserinfo_putuserinfo_idle :
    let info := { AimUserinfo.zero with
      sn := [0x61, 0x62], idletime := 7, capabilities := aimCapsChat
      present := aimUserinfoPresentIdle ||| aimUserinfoPresentCapabilities }
    let bs : AimBstream := ⟨List.replicate 64 0, 0⟩
    ∃ out bs', aimExtractuserinfo (aimBstreamSetpos bs.offset (aimPutuserinfo info bs).2).2 =
      some (out, bs') ∧ SameUserinfo info out := by
  intro info bs
  exact (@aimExtractuserinfo_putuserinfo_iff info bs (by decide) (by decide)
    (by decide) (by decide) (by decide) (by decide)).mpr ⟨by decide, fun _ => by decide⟩

/-- A "member since" date comes out as a creation time. -/
theorem aimExtractuserinfo_putuserinfo_membersince :
    let info := { AimUserinfo.zero with
      sn := [0x61], membersince := 5, present := aimUserinfoPresentMembersince }
    let bs : AimBstream := ⟨List.replicate 16 0, 0⟩
    0 ∉ info.sn ∧ info.sn.length ≤ 32 ∧ info.present &&& putuserinfoFields = info.present ∧
      info.capabilities &&& knownCaps = info.capabilities ∧
      5 + info.sn.length + aimSizetlvchain (putuserinfoChain info) ≤ aimBstreamEmpty bs ∧
      ¬ ∃ out bs', aimExtractuserinfo (aimBstreamSetpos bs.offset (aimPutuserinfo info bs).2).2 =
        some (out, bs') ∧ SameUserinfo info out := by
  intro info bs
  refine ⟨by decide, by decide, by decide, by decide, by decide, ?_⟩
  rintro ⟨out, bs', hout, hsame⟩
  have hpresent : (aimExtractuserinfo (aimBstreamSetpos bs.offset (aimPutuserinfo info bs).2).2).map
      (fun p => p.1.present) = some aimUserinfoPresentCreatetime := by decide
  rw [hout] at hpresent
  have hsome : out.present = aimUserinfoPresentCreatetime := Option.some.inj hpresent
  rw [hsame.present] at hsome
  exact absurd hsome (by decide)

end RoundTrip

end Libfaim
