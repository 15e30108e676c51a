import Libfaim.Request.Builders

/-!
# The SNAC header of a frame

Whatever a function puts behind the SNAC header, and whether it fits or not, the header stays what
the frame begins with (`SnacFirst`). So where the buffer has room for the ten bytes of the header,
family, subtype and id can be read off the frame (`snacHeader_of_snacFirst`).
-/

namespace Libfaim

/-! ## Puts that leave what is there -/

section Appends

theorem appends_putBytes (bytes : List UInt8) : Appends (putBytes bytes) := by
  induction bytes with
  | nil => exact .pure ()
  | cons b bytes ih => exact (appends_aimbsPut8 b).bind fun _ => ih

theorem appends_aimWritetlvchainLoop (list : List AimTlv) :
    Appends (aimWritetlvchainLoop list) := by
  induction list with
  | nil => exact .pure ()
  | cons tlv cur ih =>
    exact (appends_aimbsPut16 _).bind fun _ => (appends_aimbsPut16 _).bind fun _ =>
      (appends_putIf (appends_aimbsPutraw _ _)).bind fun _ => ih

@[simp] theorem appends_aimWritetlvchain (list : List AimTlv) :
    Appends (aimWritetlvchain list) := by
  intro bs h
  unfold aimWritetlvchain
  by_cases hsize : aimSizetlvchain list > aimBstreamEmpty bs
  · rw [if_pos hsize]
    exact .refl h
  · rw [if_neg hsize]
    exact appends_aimWritetlvchainLoop list bs h

theorem appends_aimPutcapLoop (caps : UInt32) (table : List AimCap) :
    Appends (aimPutcapLoop caps table) := by
  induction table with
  | nil => exact fun bs h => .refl h
  | cons c cs ih =>
    intro bs h
    unfold aimPutcapLoop
    by_cases hfull : aimBstreamEmpty bs = 0
    · rw [if_pos hfull]
      exact .refl h
    · rw [if_neg hfull]
      have hput := appends_putIf (c := caps &&& c.flag ≠ 0) (appends_aimbsPutraw c.data 0x10) bs h
      exact hput.trans (ih _ hput.offset_le)

theorem appends_aimPutcap (caps : UInt32) : Appends (aimPutcap caps) :=
  appends_aimPutcapLoop caps aimCaps

@[simp] theorem appends_putOf {α : Type} {m : StateM AimBstream α} (h : Appends m) :
    Appends (putOf m) :=
  h.bind fun _ => .pure 0

theorem appends_putAll {puts : List (StateM AimBstream Nat)} (h : ∀ put ∈ puts, Appends put) :
    Appends (putAll puts) := by
  induction puts with
  | nil => exact .pure 0
  | cons put puts ih =>
    exact (h put List.mem_cons_self).bind fun _ => ih fun p hp => h p (List.mem_cons_of_mem _ hp)

theorem appends_putStr8 (s : List UInt8) : ∀ put ∈ putStr8 s, Appends put := by
  simp [putStr8]

/-- The versions of the groups that have a module. -/
theorem appends_versions {puts : ModuleVersion → List (StateM AimBstream Nat)}
    (h : ∀ mod, ∀ put ∈ puts mod, Appends put) (findmodule : UInt16 → Option ModuleVersion)
    (groups : List UInt16) :
    ∀ put ∈ groups.flatMap fun group =>
      match findmodule group with
      | none => []
      | some mod => puts mod, Appends put := by
  intro put hput
  obtain ⟨group, -, hgroup⟩ := List.mem_flatMap.mp hput
  cases hmod : findmodule group with
  | none =>
    rw [hmod] at hgroup
    cases hgroup
  | some mod =>
    rw [hmod] at hgroup
    exact h mod put hgroup

theorem appends_aimPutuserinfo (info : AimUserinfo) : Appends (aimPutuserinfo info) :=
  (appends_aimbsPut8 _).bind fun _ => (appends_aimbsPutraw _ _).bind fun _ =>
    (appends_aimbsPut16 _).bind fun _ => (appends_aimbsPut16 _).bind fun _ =>
      (appends_aimWritetlvchain _).bind fun _ => .pure 0

end Appends

/-! ## The header stays in front -/

/-- `m` puts this header, and then more. -/
def SnacFirst {α : Type} (family subtype : UInt16) (snacid : UInt32) (m : StateM AimBstream α) :
    Prop :=
  ∀ bs : AimBstream, bs.offset ≤ bs.len →
    Extends (aimPutsnac family subtype 0x0000 snacid bs).2 (m bs).2

section SnacFirst

variable {α β : Type} {family subtype : UInt16} {snacid : UInt32}

theorem appends_aimPutsnac (flags : UInt16) :
    Appends (aimPutsnac family subtype flags snacid) :=
  (appends_aimbsPut16 _).bind fun _ => (appends_aimbsPut16 _).bind fun _ =>
    (appends_aimbsPut16 _).bind fun _ => (appends_aimbsPut32 _).bind fun _ => .pure 10

theorem snacFirst_aimPutsnac :
    SnacFirst family subtype snacid (aimPutsnac family subtype 0x0000 snacid) :=
  fun bs h => .refl (appends_aimPutsnac 0x0000 bs h).offset_le

theorem SnacFirst.bind {m : StateM AimBstream α} {k : α → StateM AimBstream β}
    (hm : SnacFirst family subtype snacid m) (hk : ∀ x, Appends (k x)) :
    SnacFirst family subtype snacid (m >>= k) := by
  intro bs h
  have hfirst := hm bs h
  rw [stateM_bind]
  exact hfirst.trans (hk _ _ hfirst.offset_le)

theorem snacFirst_putSnac {puts : List (StateM AimBstream Nat)}
    (h : ∀ put ∈ puts, Appends put) :
    SnacFirst family subtype snacid (putSnac family subtype puts snacid) :=
  snacFirst_aimPutsnac.bind fun _ => appends_putAll h

end SnacFirst

/-! ## Reading the header -/

structure SnacHeader where
  family : UInt16
  subtype : UInt16
  id : UInt32
  deriving DecidableEq, Repr

/-- What a server takes for the SNAC header of a frame: it is in front of the data of channel 2. -/
def AimFrame.snacHeader (fr : AimFrame) : Option SnacHeader :=
  if fr.hdr.flapType = 0x02 ∧ 10 ≤ fr.data.written.length then
    some ⟨aimutilGet16 fr.data.written, aimutilGet16 (fr.data.written.drop 2),
      aimutilGet32 (fr.data.written.drop 6)⟩
  else none

/-- A frame whose buffer has room for the header shows the one that was put. -/
theorem snacHeader_of_snacFirst {family subtype : UInt16} {snacid : UInt32}
    {m : StateM AimBstream Nat} (hm : SnacFirst family subtype snacid m) {datalen : Nat}
    (hroom : 10 ≤ datalen % 65536) {fr : AimFrame} (hhdr : fr.hdr = .flap 0x02 0)
    (hdata : fr.data = (m (aimBstreamInit (List.replicate datalen 0) datalen)).2) :
    fr.snacHeader = some ⟨family, subtype, snacid⟩ := by
  have hlen : (aimBstreamInit (List.replicate datalen 0) datalen).len = datalen % 65536 := by
    simp only [aimBstreamInit, AimBstream.len, List.length_append, List.length_take,
      List.length_replicate]
    omega
  generalize hbs : aimBstreamInit (List.replicate datalen 0) datalen = bs at *
  have hoff : bs.offset = 0 := by rw [← hbs]; rfl
  have hle : bs.offset ≤ bs.len := by omega
  have hput := writes_aimPutsnac family subtype 0x0000 snacid bs hle (by
    rw [aimBstreamEmpty, hlen, hoff]
    simpa using hroom)
  obtain ⟨v, hv⟩ := (hm bs hle).written_eq
  have hnil : bs.written = [] := by rw [AimBstream.written, hoff, List.take_zero]
  rw [hput, AimBstream.written_store hle, hnil, List.nil_append, List.append_nil,
    List.append_assoc, List.append_assoc, List.append_assoc, ← hdata] at hv
  have hfamily := aimutilGet16_put16 family
    (aimutilPut16 subtype ++ (aimutilPut16 0x0000 ++ (aimutilPut32 snacid ++ v)))
  have hsubtype := aimutilGet16_put16 subtype (aimutilPut16 0x0000 ++ (aimutilPut32 snacid ++ v))
  have hid := aimutilGet32_put32 snacid v
  have hdrop2 : fr.data.written.drop 2 =
      aimutilPut16 subtype ++ (aimutilPut16 0x0000 ++ (aimutilPut32 snacid ++ v)) := by
    rw [hv, List.drop_left' (aimutilPut16_length _)]
  have hdrop6 : fr.data.written.drop 6 = aimutilPut32 snacid ++ v := by
    have h6 : fr.data.written.drop 6 = ((fr.data.written.drop 2).drop 2).drop 2 := by
      rw [List.drop_drop, List.drop_drop]
    rw [h6, hdrop2, List.drop_left' (aimutilPut16_length _),
      List.drop_left' (aimutilPut16_length _)]
  unfold AimFrame.snacHeader
  rw [if_pos ⟨by rw [hhdr]; rfl, by rw [hv]; simp; omega⟩, hdrop2, hdrop6, hsubtype, hid, hv,
    hfamily]

end Libfaim
