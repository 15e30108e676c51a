import Libfaim.BStream.Progress
import Libfaim.Im.Rendezvous
import Libfaim.Tlv.Getters

/-!
# What `incomingim_ch2` takes for granted

The type 5 TLV, the cookie, the capability and, for a relayed message, the service data are used
without a test whether they were found. `incomingimCh2Uses` is the list of these lookups, in the
order in which they are made up to the first that fails, and whether they found something. All of
them do for the payloads of `Ch2Complete` and no others (`ch2LookupsSucceed_iff`). The numbers and
addresses in the TLVs are read without a look at the length either (`gettlv_inside_iff`).
-/

namespace Libfaim

/-! ## Numbers and addresses -/

section Getters

variable {list : List AimTlv} {t : UInt16}

theorem tlvIp_inside_iff : tlvIp list t ≠ none ↔ Covers list t 1 4 := by
  unfold tlvIp Covers
  rw [aimGettlv_eq_nthTlv]
  cases nthTlv list t 1 with
  | none => exact ⟨fun _ tlv h => (nomatch h), fun _ => Option.some_ne_none none⟩
  | some tlv =>
    have hlen : (∀ tlv', some tlv = some tlv' → 4 ≤ tlv'.value.length) ↔ 4 ≤ tlv.value.length := by
      constructor
      · exact fun h => h tlv rfl
      · intro h tlv' heq
        rwa [← Option.some.inj heq]
    rw [hlen]
    dsimp only
    match tlv.value with
    | [] => simp
    | [a] => simp
    | [a, b] => simp
    | [a, b, c] => simp
    | a :: b :: c :: d :: v => simp

/-- A getter reads inside of the value it has found if and only if that has as many bytes as the
number, and an address four; all getters do, on all types, if every value of the chain has four
bytes, and only then. -/
theorem gettlv_inside_iff (list : List AimTlv) :
    (∀ t n, aimGettlv8 list t n ≠ none ↔ Covers list t n 1) ∧
      (∀ t n, aimGettlv16Inside list t n ≠ none ↔ Covers list t n 2) ∧
      (∀ t n, aimGettlv32 list t n ≠ none ↔ Covers list t n 4) ∧
      (∀ t, tlvIp list t ≠ none ↔ Covers list t 1 4) ∧
      ((∀ t n, aimGettlv8 list t n ≠ none ∧ aimGettlv16Inside list t n ≠ none ∧
          aimGettlv32 list t n ≠ none ∧ tlvIp list t ≠ none) ↔
        ∀ tlv ∈ list, 4 ≤ tlv.value.length) := by
  refine ⟨fun t n => aimGettlvNum_inside_iff _ _, fun t n => aimGettlvNum_inside_iff _ _,
    fun t n => aimGettlvNum_inside_iff _ _, fun t => tlvIp_inside_iff, ?_⟩
  constructor
  · intro h tlv htlv
    obtain ⟨k, hk⟩ := exists_nthTlv htlv
    exact (aimGettlvNum_inside_iff _ _).mp (h tlv.type (k + 1 : Nat)).2.2.1 tlv hk
  · intro h t n
    have h2 : ∀ tlv ∈ list, 2 ≤ tlv.value.length := fun tlv htlv =>
      Nat.le_trans (by omega) (h tlv htlv)
    have h1 : ∀ tlv ∈ list, 1 ≤ tlv.value.length := fun tlv htlv =>
      Nat.le_trans (by omega) (h tlv htlv)
    exact ⟨(aimGettlvNum_inside_iff _ _).mpr (covers_of_forall h1),
      (aimGettlvNum_inside_iff _ _).mpr (covers_of_forall h2),
      (aimGettlvNum_inside_iff _ _).mpr (covers_of_forall h),
      tlvIp_inside_iff.mpr (covers_of_forall h)⟩

end Getters

/-- A TLV of one byte read as a number of two, and a TLV without a value as a number of one. -/
theorem not_gettlv_inside :
    (∃ list bs', aimReadtlvchain ⟨[0x00, 0x05, 0x00, 0x01, 0xaa], 0⟩ = some (list, bs') ∧
        aimGettlv16Inside list 0x0005 1 = none) ∧
      ∃ list bs', aimReadtlvchain ⟨[0x00, 0x05, 0x00, 0x00], 0⟩ = some (list, bs') ∧
        aimGettlv8 list 0x0005 1 = none := by
  constructor
  · exact ⟨[createtlv 0x0005 1 [0xaa]], ⟨[0x00, 0x05, 0x00, 0x01, 0xaa], 5⟩, by decide, by decide⟩
  · exact ⟨[createtlv 0x0005 0 []], ⟨[0x00, 0x05, 0x00, 0x00], 4⟩, by decide, by decide⟩

/-! ## Lookups -/

inductive Ch2Lookup
  | block1
  | cookie2
  | cap
  | servdata
  deriving DecidableEq, Repr

/-- The decoder is `incomingim_ch2_icqserverrelay`. -/
def ServerRelay (reqclass : UInt32) : Prop :=
  reqclass &&& aimCapsBuddyicon = 0 ∧ reqclass &&& aimCapsSendbuddylist = 0 ∧
    reqclass &&& aimCapsChat = 0 ∧ reqclass &&& aimCapsIcqserverrelay ≠ 0

instance (reqclass : UInt32) : Decidable (ServerRelay reqclass) :=
  inferInstanceAs (Decidable (_ ∧ _ ∧ _ ∧ _))

/-- The lookups whose results `incomingim_ch2` goes on to use, and whether each has one. The
decoders for icons, buddy lists and chats look whether there is service data. -/
def incomingimCh2Uses (tlvlist : List AimTlv) : List (Ch2Lookup × Bool) :=
  match aimGettlv tlvlist 0x0005 1 with
  | none => [(.block1, false)]
  | some block1 =>
    let bbs := aimBstreamInit block1.value block1.length.toNat
    let (_, bbs) := aimbsGet16 bbs
    match aimbsGetraw 8 bbs with
    | (none, _) => [(.block1, true), (.cookie2, false)]
    | (some _, bbs) =>
      let cap := if aimBstreamEmpty bbs = 0 then [] else [(.cap, (aimbsGetraw 0x10 bbs).1.isSome)]
      let servdata :=
        match aimGetcap 0x10 bbs with
        | none => []
        | some (reqclass, bbs) =>
          match aimReadtlvchain bbs with
          | none => []
          | some (list2, _) =>
            if ServerRelay reqclass.toUInt16.toUInt32 then
              [(.servdata, (aimGettlv list2 0x2711 1).isSome)]
            else []
      [(.block1, true), (.cookie2, true)] ++ cap ++ servdata

/-- No result of a lookup that failed is used. -/
def Ch2LookupsSucceed (tlvlist : List AimTlv) : Prop :=
  ∀ use ∈ incomingimCh2Uses tlvlist, use.2 = true

/-- There is a type 5 TLV with a status and a cookie, and behind them nothing, or a capability. For
a relayed message the TLVs behind that have service data, if they are read to the end. -/
def Ch2Complete (tlvlist : List AimTlv) : Prop :=
  ∃ block1, nthTlv tlvlist 0x0005 1 = some block1 ∧
    (block1.value.length = 10 ∨ 26 ≤ block1.value.length ∧
      (capFlag ((block1.value.drop 10).take 16) = aimCapsIcqserverrelay →
        ∀ list2 bs', aimReadtlvchain ⟨block1.value, 26⟩ = some (list2, bs') →
          ∃ tlv ∈ list2, tlv.type = 0x2711))

theorem serverRelay_capFlag_iff (cap : List UInt8) :
    ServerRelay (capFlag cap).toUInt16.toUInt32 ↔ capFlag cap = aimCapsIcqserverrelay := by
  have hflags : (0 :: aimCaps.map (·.flag)).all (fun f =>
      ServerRelay f.toUInt16.toUInt32 ↔ f = aimCapsIcqserverrelay) = true := by decide
  have hall := List.all_eq_true.mp hflags
  simp only [decide_eq_true_iff] at hall
  apply hall
  unfold capFlag
  cases hfind : aimCaps.find? (fun c => c.data = cap) with
  | none => exact List.mem_cons_self
  | some c => exact List.mem_cons_of_mem _ (List.mem_map_of_mem (List.mem_of_find?_eq_some hfind))

section Uses

variable {tlvlist : List AimTlv} {block1 : AimTlv}

theorem incomingimCh2Uses_missing (h : nthTlv tlvlist 0x0005 1 = none) :
    incomingimCh2Uses tlvlist = [(.block1, false)] := by
  unfold incomingimCh2Uses
  rw [aimGettlv_eq_nthTlv, h]

/-- The status is read, if at all, but the cookie is not. -/
theorem incomingimCh2Uses_short (h : nthTlv tlvlist 0x0005 1 = some block1)
    (hlen : block1.value.length < 10) :
    incomingimCh2Uses tlvlist = [(.block1, true), (.cookie2, false)] := by
  have hempty : aimBstreamEmpty ⟨block1.value, 0⟩ = block1.value.length := rfl
  have hleft : aimBstreamEmpty (aimbsGet16 ⟨block1.value, 0⟩).2 < 8 := by
    unfold aimbsGet16
    by_cases h2 : 2 ≤ block1.value.length
    · rw [aimbsGet_of_le h2, skip_empty]
      omega
    · rw [aimbsGet_short (Nat.not_le.mp h2)]
      dsimp only
      omega
  unfold incomingimCh2Uses
  rw [aimGettlv_eq_nthTlv, h]
  dsimp only
  rw [aimBstreamInit_value]
  cases hstatus : aimbsGet16 ⟨block1.value, 0⟩ with
  | mk status bbs =>
    rw [hstatus] at hleft
    dsimp only
    rw [aimbsGetraw_short hleft]

/-- What is looked up behind the cookie. -/
theorem incomingimCh2Uses_cookie (h : nthTlv tlvlist 0x0005 1 = some block1)
    (hlen : 10 ≤ block1.value.length) :
    incomingimCh2Uses tlvlist = [(.block1, true), (.cookie2, true)] ++
      (if aimBstreamEmpty ⟨block1.value, 10⟩ = 0 then []
        else [(.cap, (aimbsGetraw 0x10 ⟨block1.value, 10⟩).1.isSome)]) ++
      match aimGetcap 0x10 ⟨block1.value, 10⟩ with
      | none => []
      | some (reqclass, bbs) =>
        match aimReadtlvchain bbs with
        | none => []
        | some (list2, _) =>
          if ServerRelay reqclass.toUInt16.toUInt32 then
            [(.servdata, (aimGettlv list2 0x2711 1).isSome)]
          else [] := by
  have hempty : aimBstreamEmpty ⟨block1.value, 0⟩ = block1.value.length := rfl
  have hstatus : aimbsGet16 ⟨block1.value, 0⟩ = (_, AimBstream.skip ⟨block1.value, 0⟩ 2) :=
    aimbsGet_of_le (by omega)
  have hcookie : aimbsGetraw 8 (AimBstream.skip ⟨block1.value, 0⟩ 2) =
      (some _, ⟨block1.value, 10⟩) := aimbsGetraw_of_le (by rw [skip_empty]; omega)
  unfold incomingimCh2Uses
  rw [aimGettlv_eq_nthTlv, h]
  dsimp only
  rw [aimBstreamInit_value, hstatus]
  dsimp only
  rw [hcookie]

/-- A value with a status, a cookie and a capability. -/
theorem ch2LookupsSucceed_cap_iff (h : nthTlv tlvlist 0x0005 1 = some block1)
    (hlen : 26 ≤ block1.value.length) :
    Ch2LookupsSucceed tlvlist ↔
      (capFlag ((block1.value.drop 10).take 16) = aimCapsIcqserverrelay →
        ∀ list2 bs', aimReadtlvchain ⟨block1.value, 26⟩ = some (list2, bs') →
          ∃ tlv ∈ list2, tlv.type = 0x2711) := by
  have hempty : aimBstreamEmpty ⟨block1.value, 10⟩ = block1.value.length - 10 := rfl
  have hraw : aimbsGetraw 0x10 ⟨block1.value, 10⟩ =
      (some ((block1.value.drop 10).take 16), ⟨block1.value, 26⟩) := aimbsGetraw_of_le (by omega)
  have hcap : aimGetcap 0x10 ⟨block1.value, 10⟩ =
      some (capFlag ((block1.value.drop 10).take 16), ⟨block1.value, 26⟩) := by
    show aimGetcapLoop 1 0 ⟨block1.value, 10⟩ = _
    rw [aimGetcapLoop, if_neg (by omega), hraw]
    dsimp only
    rw [aimGetcapLoop, UInt32.zero_or]
  unfold Ch2LookupsSucceed
  rw [incomingimCh2Uses_cookie h (Nat.le_trans (by omega) hlen), if_neg (by omega), hraw, hcap]
  dsimp only
  cases hchain : aimReadtlvchain ⟨block1.value, 26⟩ with
  | none => simp
  | some res =>
    obtain ⟨list2, bs'⟩ := res
    have hserv := aimGettlv_isSome_iff list2 0x2711
    by_cases hrelay : capFlag ((block1.value.drop 10).take 16) = aimCapsIcqserverrelay
    · dsimp only
      rw [if_pos ((serverRelay_capFlag_iff _).mpr hrelay)]
      constructor
      · intro hall _ list2' bs'' heq
        obtain ⟨rfl, -⟩ := Prod.mk.inj (Option.some.inj heq)
        exact hserv.mp (hall _ (List.mem_append_right _ List.mem_cons_self))
      · intro hrest use huse
        rcases List.mem_append.mp huse with hfirst | hlast
        · revert use
          simp
        · rw [List.mem_singleton.mp hlast]
          exact hserv.mpr (hrest hrelay list2 bs' rfl)
    · dsimp only
      rw [if_neg (mt (serverRelay_capFlag_iff _).mp hrelay)]
      exact ⟨fun _ heq => absurd heq hrelay, fun _ => by simp⟩

/-- The condition where the type 5 TLV is known. -/
theorem ch2Complete_iff (h : nthTlv tlvlist 0x0005 1 = some block1) :
    Ch2Complete tlvlist ↔ (block1.value.length = 10 ∨ 26 ≤ block1.value.length ∧
      (capFlag ((block1.value.drop 10).take 16) = aimCapsIcqserverrelay →
        ∀ list2 bs', aimReadtlvchain ⟨block1.value, 26⟩ = some (list2, bs') →
          ∃ tlv ∈ list2, tlv.type = 0x2711)) := by
  unfold Ch2Complete
  rw [h]
  constructor
  · rintro ⟨block, heq, hrest⟩
    rwa [Option.some.inj heq]
  · exact fun hrest => ⟨block1, rfl, hrest⟩

theorem ch2LookupsSucceed_of_ten (h : nthTlv tlvlist 0x0005 1 = some block1)
    (hten : block1.value.length = 10) : Ch2LookupsSucceed tlvlist := by
  have hempty : aimBstreamEmpty ⟨block1.value, 10⟩ = block1.value.length - 10 := rfl
  have hcap : aimGetcap 0x10 ⟨block1.value, 10⟩ = some (0, ⟨block1.value, 10⟩) := by
    show aimGetcapLoop 1 0 ⟨block1.value, 10⟩ = _
    rw [aimGetcapLoop, if_pos (by omega)]
  have hnone : ¬ ServerRelay (0 : UInt32).toUInt16.toUInt32 := by decide
  have huses := incomingimCh2Uses_cookie h (Nat.le_of_eq hten.symm)
  rw [if_pos (by omega), hcap] at huses
  dsimp only at huses
  intro use huse
  rw [huses] at huse
  cases hchain : aimReadtlvchain ⟨block1.value, 10⟩ with
  | none =>
    rw [hchain] at huse
    revert use
    simp
  | some res =>
    rw [hchain] at huse
    dsimp only at huse
    rw [if_neg hnone] at huse
    revert use
    simp

theorem not_ch2LookupsSucceed_of_cut (h : nthTlv tlvlist 0x0005 1 = some block1)
    (hge : 10 < block1.value.length) (hlt : block1.value.length < 26) :
    ¬ Ch2LookupsSucceed tlvlist := by
  have hempty : aimBstreamEmpty ⟨block1.value, 10⟩ = block1.value.length - 10 := rfl
  have hraw : aimbsGetraw 0x10 ⟨block1.value, 10⟩ = (none, ⟨block1.value, 10⟩) :=
    aimbsGetraw_short (by omega)
  have huses := incomingimCh2Uses_cookie h (Nat.le_of_lt hge)
  rw [if_neg (by omega), hraw] at huses
  intro hall
  have hcap := hall (.cap, false) (by
    rw [huses]
    exact List.mem_append_left _ (List.mem_append_right _ List.mem_cons_self))
  cases hcap

/-- The lookups of a short value fail at the cookie. -/
theorem not_ch2LookupsSucceed_of_short (h : nthTlv tlvlist 0x0005 1 = some block1)
    (hlen : block1.value.length < 10) : ¬ Ch2LookupsSucceed tlvlist := by
  intro hall
  have hcookie := hall (.cookie2, false) (by rw [incomingimCh2Uses_short h hlen]; simp)
  cases hcookie

theorem not_ch2LookupsSucceed_of_missing (h : nthTlv tlvlist 0x0005 1 = none) :
    ¬ Ch2LookupsSucceed tlvlist := by
  intro hall
  have hblock := hall (.block1, false) (by rw [incomingimCh2Uses_missing h]; simp)
  cases hblock

end Uses

/-! ## The decoder itself -/

section Decoder

variable {tlvlist : List AimTlv} {args : AimIncomingimCh2Args}

/-- The relayed message has no result without service data. -/
theorem incomingimCh2Servdata_relay (h : ServerRelay args.reqclass.toUInt32) :
    incomingimCh2Servdata args none = none := by
  obtain ⟨hicon, hlist, hchat, hrelay⟩ := h
  unfold incomingimCh2Servdata
  dsimp only
  rw [if_neg (not_not.mpr hicon), if_neg (not_not.mpr hlist), if_neg (not_not.mpr hchat),
    if_pos hrelay]
  rfl

/-- Where `aim_getcap` has a result, the block it has looked at is there. -/
theorem aimbsGetraw_of_aimGetcap {bbs : AimBstream} {res : UInt32 × AimBstream}
    (h : aimGetcap 0x10 bbs = some res) (hne : aimBstreamEmpty bbs ≠ 0) :
    (aimbsGetraw 0x10 bbs).1.isSome = true := by
  change aimGetcapLoop 1 0 bbs = some res at h
  rw [aimGetcapLoop, if_neg hne] at h
  cases hraw : aimbsGetraw 0x10 bbs with
  | mk cap bbs' =>
    rw [hraw] at h
    cases cap with
    | none => cases h
    | some cap => rfl

/-- What is given to the client comes from lookups that succeeded. -/
theorem ch2LookupsSucceed_of_result (h : incomingimCh2 tlvlist = some args) :
    Ch2LookupsSucceed tlvlist := by
  unfold incomingimCh2 at h
  unfold Ch2LookupsSucceed incomingimCh2Uses
  rw [Option.bind_eq_bind, Option.bind_eq_some_iff] at h
  obtain ⟨block1, hblock1, h⟩ := h
  rw [hblock1]
  dsimp only at h ⊢
  generalize aimBstreamInit block1.value block1.length.toNat = bs at h ⊢
  cases hstatus : aimbsGet16 bs with
  | mk status bs₂ =>
  cases hcookie : aimbsGetraw 8 bs₂ with
  | mk cookie2 bbs =>
    simp only [hstatus, hcookie, Option.bind_eq_bind, Option.bind_eq_some_iff] at h
    obtain ⟨cookie, rfl, ⟨reqclass, bbs'⟩, hcap, ⟨list2, bbs''⟩, hchain, clientip, -, clientip2, -,
      verifiedip, -, hserv⟩ := h
    dsimp only at hchain
    simp only [hcookie, hcap, hchain]
    have hcapblock : ∀ use ∈ (if aimBstreamEmpty bbs = 0 then []
        else [(Ch2Lookup.cap, (aimbsGetraw 0x10 bbs).1.isSome)]), use.2 = true := by
      by_cases hempty : aimBstreamEmpty bbs = 0
      · rw [if_pos hempty]
        exact fun use huse => nomatch huse
      · rw [if_neg hempty, List.forall_mem_singleton]
        exact aimbsGetraw_of_aimGetcap hcap hempty
    have hservdata : ∀ use ∈ (if ServerRelay reqclass.toUInt16.toUInt32 then
        [(Ch2Lookup.servdata, (aimGettlv list2 0x2711 1).isSome)] else []), use.2 = true := by
      by_cases hrelay : ServerRelay reqclass.toUInt16.toUInt32
      · rw [if_pos hrelay, List.forall_mem_singleton]
        cases htlv : aimGettlv list2 0x2711 1 with
        | none =>
          rw [htlv, Option.map_none, incomingimCh2Servdata_relay hrelay] at hserv
          cases hserv
        | some tlv => rfl
      · rw [if_neg hrelay]
        exact fun use huse => nomatch huse
    rw [List.forall_mem_append, List.forall_mem_append]
    exact ⟨⟨by simp, hcapblock⟩, hservdata⟩

end Decoder

/-! ## When they succeed -/

/-- Every lookup whose result is used has one if and only if the type 5 TLV is there, with the
status, the cookie and no part of a capability, and the service data where they are relayed. The
decoder has no result otherwise. -/
theorem ch2LookupsSucceed_iff (tlvlist : List AimTlv) :
    (Ch2LookupsSucceed tlvlist ↔ Ch2Complete tlvlist) ∧
      ∀ args, incomingimCh2 tlvlist = some args → Ch2LookupsSucceed tlvlist := by
  refine ⟨?_, fun args => ch2LookupsSucceed_of_result⟩
  cases h : nthTlv tlvlist 0x0005 1 with
  | none =>
    constructor
    · exact fun hall => absurd hall (not_ch2LookupsSucceed_of_missing h)
    · rintro ⟨block1, hblock, -⟩
      rw [h] at hblock
      cases hblock
  | some block1 =>
    rw [ch2Complete_iff h]
    by_cases hwhole : 26 ≤ block1.value.length
    · rw [ch2LookupsSucceed_cap_iff h hwhole]
      constructor
      · exact fun hserv => Or.inr ⟨hwhole, hserv⟩
      · rintro (hten | ⟨-, hserv⟩)
        · omega
        · exact hserv
    by_cases hten : block1.value.length = 10
    · exact ⟨fun _ => Or.inl hten, fun _ => ch2LookupsSucceed_of_ten h hten⟩
    · constructor
      · intro hall
        rcases Nat.lt_or_gt_of_ne hten with hlt | hgt
        · exact absurd hall (not_ch2LookupsSucceed_of_short h hlt)
        · exact absurd hall (not_ch2LookupsSucceed_of_cut h hgt (Nat.not_le.mp hwhole))
      · rintro (heq | ⟨hle, -⟩)
        · exact absurd heq hten
        · exact absurd hle hwhole

/-- A block with the status and the cookie only. -/
theorem ch2LookupsSucceed_iff_ten :
    let tlvlist := [createtlv 0x0005 10 (List.replicate 10 0)]
    Ch2LookupsSucceed tlvlist ∧ ∃ args, incomingimCh2 tlvlist = some args := by
  intro tlvlist
  have hargs : ∃ args, incomingimCh2 tlvlist = some args := ⟨_, rfl⟩
  obtain ⟨args, hresult⟩ := hargs
  exact ⟨(ch2LookupsSucceed_iff tlvlist).2 args hresult, args, hresult⟩

/-- A payload without TLVs. -/
theorem not_ch2LookupsSucceed_empty : ∃ tlvlist bs',
    aimReadtlvchain ⟨[], 0⟩ = some (tlvlist, bs') ∧ ¬ Ch2LookupsSucceed tlvlist :=
  ⟨[], ⟨[], 0⟩, by decide, not_ch2LookupsSucceed_of_missing rfl⟩

end Libfaim
