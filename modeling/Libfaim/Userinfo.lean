import Mathlib.Data.List.TakeWhile
import Libfaim.Caps

/-!
# User info blocks (`info.c`)

`aim_putuserinfo` and `aim_extractuserinfo`: a screen name with its length, the warning level, and
a counted list of TLVs. `fu32_t` fields have 32 bits.
-/

namespace Libfaim

/-- The bytes of a C string, up to its first NUL. -/
def cstr (s : List UInt8) : List UInt8 := s.takeWhile (· ≠ 0)

def strlen (s : List UInt8) : Nat := (cstr s).length

theorem cstr_eq_take (s : List UInt8) : cstr s = s.take (strlen s) :=
  List.prefix_iff_eq_take.mp (List.takeWhile_prefix _)

theorem cstr_of_no_nul {s : List UInt8} (h : 0 ∉ s) : cstr s = s := by
  rw [cstr, List.takeWhile_eq_self_iff]
  intro b hb
  have hne : b ≠ 0 := fun h0 => h (h0 ▸ hb)
  simpa using hne

theorem ne_zero_of_mem_cstr {s : List UInt8} {b : UInt8} (h : b ∈ cstr s) : b ≠ 0 := by
  have hp := List.mem_takeWhile_imp h
  simpa using hp

/-- A string with its NUL is the same string. -/
theorem cstr_append_nul (s : List UInt8) : cstr (cstr s ++ [0]) = cstr s := by
  have hall : ∀ b ∈ cstr s, decide (b ≠ 0) = true := by
    intro b hb
    simpa using ne_zero_of_mem_cstr hb
  calc cstr (cstr s ++ [0])
      = cstr s ++ cstr [0] := List.takeWhile_append_of_pos hall
    _ = cstr s := by simp [cstr]

theorem cstr_append_zero (v r : List UInt8) : cstr (v ++ 0 :: r) = cstr v := by
  induction v with
  | nil => rfl
  | cons b v ih =>
    simp only [cstr, List.cons_append, List.takeWhile_cons] at ih ⊢
    rw [ih]

theorem cstr_cstr (s : List UInt8) : cstr (cstr s) = cstr s :=
  cstr_of_no_nul fun h => ne_zero_of_mem_cstr h rfl

theorem cstr_append_zeros (s : List UInt8) (k : Nat) :
    cstr (cstr s ++ List.replicate k 0) = cstr s := by
  cases k with
  | zero => rw [List.replicate_zero, List.append_nil, cstr_cstr]
  | succ k => rw [List.replicate_succ, cstr_append_zero, cstr_cstr]

theorem cstr_take (s : List UInt8) (n : Nat) : cstr (s.take n) = (cstr s).take n :=
  List.take_takeWhile.symm

theorem strlen_le (s : List UInt8) : strlen s ≤ s.length :=
  (List.takeWhile_sublist _).length_le

def maxsnlen : Nat := 32

/-- `aim_userinfo_t`. `sn` holds the bytes copied into `sn[MAXSNLEN+1]`; the bytes of the array
behind them are zero. -/
@[ext]
structure AimUserinfo where
  sn : List UInt8
  warnlevel : UInt16
  idletime : UInt16
  flags : UInt16
  createtime : UInt32
  membersince : UInt32
  onlinesince : UInt32
  sessionlen : UInt32
  capabilities : UInt32
  icqinfoStatus : UInt32
  icqinfoIpaddr : UInt32
  icqinfoCrap : List UInt8
  present : UInt32
  deriving DecidableEq, Repr

def aimUserinfoPresentFlags : UInt32 := 0x00000001
def aimUserinfoPresentMembersince : UInt32 := 0x00000002
def aimUserinfoPresentOnlinesince : UInt32 := 0x00000004
def aimUserinfoPresentIdle : UInt32 := 0x00000008
def aimUserinfoPresentIcqextstatus : UInt32 := 0x00000010
def aimUserinfoPresentIcqipaddr : UInt32 := 0x00000020
def aimUserinfoPresentIcqdata : UInt32 := 0x00000040
def aimUserinfoPresentCapabilities : UInt32 := 0x00000080
def aimUserinfoPresentSessionlen : UInt32 := 0x00000100
def aimUserinfoPresentCreatetime : UInt32 := 0x00000200

def aimFlagAol : UInt16 := 0x0004

/-- `memset(outinfo, 0x00, sizeof(aim_userinfo_t))` -/
def AimUserinfo.zero : AimUserinfo where
  sn := []
  warnlevel := 0
  idletime := 0
  flags := 0
  createtime := 0
  membersince := 0
  onlinesince := 0
  sessionlen := 0
  capabilities := 0
  icqinfoStatus := 0
  icqinfoIpaddr := 0
  icqinfoCrap := List.replicate 0x25 0
  present := 0

/-! ## Extracting -/

/-- `dumptlv`: the value is read for printing only. -/
def dumptlv : Nat → StateM AimBstream Unit
  | 0 => pure ()
  | len + 1 => do
    let _ ← aimbsGet8
    dumptlv len

/-- The chain of `if`s in the loop of `aim_extractuserinfo`. -/
def extractuserinfoValue (type length : UInt16) (outinfo : AimUserinfo) :
    StateT AimBstream Option AimUserinfo :=
  if type = 0x0001 then do
    let flags ← aimbsGet16
    return { outinfo with
      flags := flags, present := outinfo.present ||| aimUserinfoPresentFlags }
  else if type = 0x0002 then do
    let createtime ← aimbsGet32
    return { outinfo with
      createtime := createtime, present := outinfo.present ||| aimUserinfoPresentCreatetime }
  else if type = 0x0003 then do
    let onlinesince ← aimbsGet32
    return { outinfo with
      onlinesince := onlinesince, present := outinfo.present ||| aimUserinfoPresentOnlinesince }
  else if type = 0x0004 then do
    let idletime ← aimbsGet16
    return { outinfo with
      idletime := idletime, present := outinfo.present ||| aimUserinfoPresentIdle }
  else if type = 0x0005 then do
    let membersince ← aimbsGet32
    return { outinfo with
      membersince := membersince, present := outinfo.present ||| aimUserinfoPresentMembersince }
  else if type = 0x0006 then do
    let _ ← aimbsGet16
    let status ← aimbsGet16
    return { outinfo with
      icqinfoStatus := status.toUInt32
      present := outinfo.present ||| aimUserinfoPresentIcqextstatus }
  else if type = 0x000a then do
    let ipaddr ← aimbsGet32
    return { outinfo with
      icqinfoIpaddr := ipaddr, present := outinfo.present ||| aimUserinfoPresentIcqipaddr }
  else if type = 0x000c then do
    let crap ← aimbsGetrawbuf 0x25
    -- a failed read leaves the array as it was
    return { outinfo with
      icqinfoCrap := if crap = [] then outinfo.icqinfoCrap else crap
      present := outinfo.present ||| aimUserinfoPresentIcqdata }
  else if type = 0x000d then do
    let capabilities ← aimGetcap length.toNat
    return { outinfo with
      capabilities := capabilities
      present := outinfo.present ||| aimUserinfoPresentCapabilities }
  else if type = 0x000e then return outinfo
  else if type = 0x000f ∨ type = 0x0010 then do
    let sessionlen ← aimbsGet32
    return { outinfo with
      sessionlen := sessionlen, present := outinfo.present ||| aimUserinfoPresentSessionlen }
  else if type = 0x001d then return outinfo
  else if type = 0x001e then return outinfo
  else do
    -- the length parameter of `dumptlv` has eight bits
    let _ ← dumptlv length.toUInt8.toNat
    return outinfo

/-- One pass of the loop of `aim_extractuserinfo`. -/
def extractuserinfoPass (outinfo : AimUserinfo) : StateT AimBstream Option AimUserinfo := do
  let type ← aimbsGet16
  let length ← aimbsGet16
  let bs ← get
  let endpos := aimBstreamCurpos bs + length.toNat
  let outinfo ← extractuserinfoValue type length outinfo
  let _ ← aimBstreamSetpos endpos
  return outinfo

def aimExtractuserinfoLoop : Nat → AimUserinfo → StateT AimBstream Option AimUserinfo
  | 0, outinfo => pure outinfo
  | tlvcnt + 1, outinfo => do
    let outinfo ← extractuserinfoPass outinfo
    aimExtractuserinfoLoop tlvcnt outinfo

def aimExtractuserinfo : StateT AimBstream Option AimUserinfo := do
  let snlen ← aimbsGet8
  let sn ← aimbsGetrawbuf snlen.toNat
  let warnlevel ← aimbsGet16
  let tlvcnt ← aimbsGet16
  aimExtractuserinfoLoop tlvcnt.toNat { AimUserinfo.zero with sn := sn, warnlevel := warnlevel }

/-! ## Putting -/

/-- `info->present & f` -/
def AimUserinfo.has (info : AimUserinfo) (f : UInt32) : Prop := info.present &&& f ≠ 0

instance (info : AimUserinfo) (f : UInt32) : Decidable (info.has f) :=
  inferInstanceAs (Decidable (_ ≠ _))

/-- The TLV chain `aim_putuserinfo` builds (without `ICQ_OSCAR_SUPPORT`). -/
def putuserinfoChain (info : AimUserinfo) : List AimTlv :=
  let tlvlist := addtlvIf (info.has aimUserinfoPresentFlags)
    (aimAddtlvtochain16 · 0x0001 info.flags) []
  let tlvlist := addtlvIf (info.has aimUserinfoPresentMembersince)
    (aimAddtlvtochain32 · 0x0002 info.membersince) tlvlist
  let tlvlist := addtlvIf (info.has aimUserinfoPresentOnlinesince)
    (aimAddtlvtochain32 · 0x0003 info.onlinesince) tlvlist
  let tlvlist := addtlvIf (info.has aimUserinfoPresentIdle)
    (aimAddtlvtochain16 · 0x0004 info.idletime) tlvlist
  let tlvlist := addtlvIf (info.has aimUserinfoPresentCapabilities)
    (aimAddtlvtochainCaps · 0x000d info.capabilities) tlvlist
  addtlvIf (info.has aimUserinfoPresentSessionlen)
    (aimAddtlvtochain32 · (if info.flags &&& aimFlagAol ≠ 0 then 0x0010 else 0x000f)
      info.sessionlen) tlvlist

def aimPutuserinfo (info : AimUserinfo) : StateM AimBstream Int := do
  let _ ← aimbsPut8 (UInt8.ofNat (strlen info.sn))
  let _ ← aimbsPutraw info.sn (strlen info.sn)
  let _ ← aimbsPut16 info.warnlevel
  let _ ← aimbsPut16 (UInt16.ofNat (aimCounttlvchain (putuserinfoChain info)))
  let _ ← aimWritetlvchain (putuserinfoChain info)
  return 0

end Libfaim
