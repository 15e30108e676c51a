import Libfaim.Snac.Requests
import Libfaim.Tlv.Getters

/-!
# The login response (`auth.c`)

`parse` reads the whole response as one chain of TLVs and looks each of its fields up by the type.
The chain comes back reversed, which only matters where a type is sent twice: on TLVs of distinct
types the first of a type is the only one, wherever it stands (`aimGettlv_one_eq_some_iff`). So the
order of the response does not matter (`authParse_perm`).
-/

namespace Libfaim

/-- `struct aim_clientrelease`. The strings are without the NUL at their end, and `none` is the null
pointer. -/
structure AimClientrelease where
  name : Option (List UInt8)
  build : UInt32
  url : Option (List UInt8)
  info : Option (List UInt8)
  deriving DecidableEq, Repr

/-- `struct aim_authresp_info`. The cookie is what its pointer points to. -/
structure AimAuthrespInfo where
  sn : Option (List UInt8)
  errorcode : UInt16
  errorurl : Option (List UInt8)
  regstatus : UInt16
  email : Option (List UInt8)
  bosip : Option (List UInt8)
  cookie : Option (List UInt8)
  latestrelease : AimClientrelease
  latestbeta : AimClientrelease
  deriving DecidableEq, Repr

/-- The array `sess->sn`, which has `MAXSNLEN+1` bytes, after the response: the screen name is
copied into it with the size of the array as the bound. -/
def authrespSn (tlvlist : List AimTlv) : List UInt8 :=
  match ifTlvStr tlvlist 0x0001 with
  | some sn => strncpy sn (maxsnlen + 1)
  | none => List.replicate (maxsnlen + 1) 0

/-- The `info` that `parse` gives to the client. -/
def authrespInfo (tlvlist : List AimTlv) : Option AimAuthrespInfo := do
  let sn := ifTlvStr tlvlist 0x0001
  let errorcode ← ifTlv tlvlist 0x0008 0 aimGettlv16Inside
  let errorurl := ifTlvStr tlvlist 0x0004
  let bosip := ifTlvStr tlvlist 0x0005
  let cookie := ifTlvStr tlvlist 0x0006
  let email := ifTlvStr tlvlist 0x0011
  let regstatus ← ifTlv tlvlist 0x0013 0 aimGettlv16Inside
  let betabuild ← ifTlv tlvlist 0x0040 0 aimGettlv32
  let betaurl := ifTlvStr tlvlist 0x0041
  let betainfo := ifTlvStr tlvlist 0x0042
  let betaname := ifTlvStr tlvlist 0x0043
  let releasebuild ← ifTlv tlvlist 0x0044 0 aimGettlv32
  let releaseurl := ifTlvStr tlvlist 0x0045
  let releaseinfo := ifTlvStr tlvlist 0x0046
  let releasename := ifTlvStr tlvlist 0x0047
  return {
    sn, errorcode, errorurl, regstatus, email, bosip, cookie
    latestrelease :=
      { name := releasename, build := releasebuild, url := releaseurl, info := releaseinfo }
    latestbeta := { name := betaname, build := betabuild, url := betaurl, info := betainfo } }

/-- `parse`: `sess->sn` and the `info` the client is called with. There is no result where reading
the chain never ends or a getter reads behind a value. -/
def authParse (bs : AimBstream) : Option (List UInt8 × AimAuthrespInfo) := do
  let (tlvlist, _) ← aimReadtlvchain bs
  let info ← authrespInfo tlvlist
  return (authrespSn tlvlist, info)

/-! ## Looking up one of distinct types -/

section Lookup

variable {list list' : List AimTlv} {t : UInt16}

/-- Of TLVs with distinct types, the one that is found is the only one of its type. -/
theorem aimGettlv_one_eq_some_iff (hnodup : (list.map (·.type)).Nodup) {tlv : AimTlv} :
    aimGettlv list t 1 = some tlv ↔ tlv ∈ list ∧ tlv.type = t := by
  rw [aimGettlv_eq_nthTlv]
  refine ⟨nthTlv_one_eq_some, ?_⟩
  rintro ⟨hmem, rfl⟩
  have hsome := (aimGettlv_isSome_iff list tlv.type).mpr ⟨tlv, hmem, rfl⟩
  rw [aimGettlv_eq_nthTlv] at hsome
  obtain ⟨found, hfound⟩ := Option.isSome_iff_exists.mp hsome
  obtain ⟨hmem', htype⟩ := nthTlv_one_eq_some hfound
  rw [hfound, List.inj_on_of_nodup_map hnodup hmem' hmem htype]

/-- Two orders of the same TLVs answer every lookup alike. -/
theorem aimGettlv_one_perm (hperm : list.Perm list') (hnodup : (list.map (·.type)).Nodup) :
    aimGettlv list t 1 = aimGettlv list' t 1 := by
  have hnodup' : (list'.map (·.type)).Nodup := (hperm.map _).nodup_iff.mp hnodup
  apply Option.ext
  intro tlv
  rw [aimGettlv_one_eq_some_iff hnodup, aimGettlv_one_eq_some_iff hnodup', hperm.mem_iff]

end Lookup

/-! ## The order of the response -/

section Order

variable {tlvlist tlvlist' : List AimTlv}

/-- The screen name is a matter of the first TLVs of the types. -/
theorem authrespSn_congr (h : ∀ t, aimGettlv tlvlist t 1 = aimGettlv tlvlist' t 1) :
    authrespSn tlvlist = authrespSn tlvlist' := by
  simp only [authrespSn, ifTlvStr, aimGettlvStr, h]

theorem authrespInfo_congr (h : ∀ t, aimGettlv tlvlist t 1 = aimGettlv tlvlist' t 1) :
    authrespInfo tlvlist = authrespInfo tlvlist' := by
  simp only [authrespInfo, ifTlvStr, ifTlv, aimGettlvStr, aimGettlv16Inside, aimGettlv32,
    aimGettlvNum, h]

/-- How many bytes of the value of a TLV of this type are read whatever its length. -/
def authrespWidth (t : UInt16) : Nat :=
  if t = 0x0008 ∨ t = 0x0013 then 2 else if t = 0x0040 ∨ t = 0x0044 then 4 else 0

theorem authrespInfo_isSome
    (hwidth : ∀ tlv ∈ tlvlist, authrespWidth tlv.type ≤ tlv.value.length) :
    ∃ info, authrespInfo tlvlist = some info := by
  have hfield : ∀ t, Covers tlvlist t 1 (authrespWidth t) := by
    intro t tlv htlv
    obtain ⟨hmem, rfl⟩ := nthTlv_one_eq_some htlv
    exact hwidth tlv hmem
  obtain ⟨errorcode, herror⟩ : ∃ x, ifTlv tlvlist 0x0008 0 aimGettlv16Inside = some x :=
    ifTlv_of_covers aimutilGet16 0 0 (hfield 0x0008)
  obtain ⟨regstatus, hreg⟩ : ∃ x, ifTlv tlvlist 0x0013 0 aimGettlv16Inside = some x :=
    ifTlv_of_covers aimutilGet16 0 0 (hfield 0x0013)
  obtain ⟨betabuild, hbeta⟩ : ∃ x, ifTlv tlvlist 0x0040 0 aimGettlv32 = some x :=
    ifTlv_of_covers aimutilGet32 0 0 (hfield 0x0040)
  obtain ⟨releasebuild, hrelease⟩ : ∃ x, ifTlv tlvlist 0x0044 0 aimGettlv32 = some x :=
    ifTlv_of_covers aimutilGet32 0 0 (hfield 0x0044)
  unfold authrespInfo
  rw [herror, hreg, hbeta, hrelease]
  exact ⟨_, rfl⟩

/-- On a sequence of complete TLVs the response is read from its reverse. -/
theorem authParse_encode {l : List AimTlv} {bs : AimBstream} (h : bs.rest = encodeTlvchain l) :
    authParse bs = (authrespInfo l.reverse).map fun info => (authrespSn l.reverse, info) := by
  unfold authParse
  rw [aimReadtlvchain_encode l h, Option.bind_eq_bind, Option.bind_some]
  dsimp only
  cases authrespInfo l.reverse with
  | none => rfl
  | some info => rfl

end Order

/-- In whatever order TLVs of distinct types are sent, every lookup finds the same TLV, and where
the values are as long as what is read from them, the response leaves the same `info` and the same
`sess->sn`. -/
theorem authParse_perm {l l' : List AimTlv} (hperm : l.Perm l')
    (hnodup : (l.map (·.type)).Nodup) :
    ((∀ tlv ∈ l, authrespWidth tlv.type ≤ tlv.value.length) →
      ∀ bs bs', bs.rest = encodeTlvchain l → bs'.rest = encodeTlvchain l' →
        ∃ r, authParse bs = some r ∧ authParse bs' = some r) ∧
    ∀ t, aimGettlv l.reverse t 1 = aimGettlv l'.reverse t 1 := by
  have hperm' : l.reverse.Perm l'.reverse :=
    (List.reverse_perm l).trans (hperm.trans (List.reverse_perm l').symm)
  have hnodup' : (l.reverse.map (·.type)).Nodup :=
    ((List.reverse_perm l).map _).nodup_iff.mpr hnodup
  have hlookup : ∀ t, aimGettlv l.reverse t 1 = aimGettlv l'.reverse t 1 :=
    fun t => aimGettlv_one_perm hperm' hnodup'
  refine ⟨?_, hlookup⟩
  intro hwidth bs bs' hbs hbs'
  have hwidth' : ∀ tlv ∈ l.reverse, authrespWidth tlv.type ≤ tlv.value.length :=
    fun tlv hmem => hwidth tlv (List.mem_reverse.mp hmem)
  obtain ⟨info, hinfo⟩ := authrespInfo_isSome hwidth'
  refine ⟨(authrespSn l.reverse, info), ?_, ?_⟩
  · rw [authParse_encode hbs, hinfo, Option.map_some]
  · rw [authParse_encode hbs', ← authrespInfo_congr hlookup, ← authrespSn_congr hlookup, hinfo,
      Option.map_some]

/-- A screen name and an error code, in both orders. -/
theorem authParse_perm_two :
    let sn := createtlv 0x0001 2 [0x6d, 0x65]
    let errorcode := createtlv 0x0008 2 [0x00, 0x05]
    ∃ r, authParse ⟨encodeTlvchain [sn, errorcode], 0⟩ = some r ∧
      authParse ⟨encodeTlvchain [errorcode, sn], 0⟩ = some r :=
  (authParse_perm (l := [createtlv 0x0001 2 [0x6d, 0x65], createtlv 0x0008 2 [0x00, 0x05]])
    (List.Perm.swap _ _ _) (by decide)).1 (by decide) _ _ rfl rfl

end Libfaim
