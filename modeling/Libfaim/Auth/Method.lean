import Libfaim.Auth
import Libfaim.Conn
import Libfaim.Lib.Mask

/-!
# Which login is sent

`aim_request_login` with an ICQ number sets `AIM_SESS_FLAGS_XORLOGIN`, and nothing takes the flag
away again. So the login is the one for the latest screen name as long as no name that is not a
number comes after one that is (`aimSendLogin_followsName_iff`).
-/

namespace Libfaim

open Mask

section Flags

variable (s : Requester)

theorem xorlogin_icqFlags : s.icqFlags.Xorlogin := by
  show ((s.flags &&& ~~~ aimSessFlagsSnaclogin) ||| aimSessFlagsXorlogin) &&&
    aimSessFlagsXorlogin ≠ 0
  have hself : aimSessFlagsXorlogin &&& aimSessFlagsXorlogin = 2 := rfl
  rw [UInt32.and_comm, mask_or, hself]
  intro h
  exact absurd (UInt32.or_eq_zero_iff.mp h).2 (by decide)

theorem xorlogin_snaclogin :
    ({ s with flags := s.flags ||| aimSessFlagsSnaclogin } : Requester).Xorlogin ↔ s.Xorlogin := by
  have hdisjoint : aimSessFlagsXorlogin &&& aimSessFlagsSnaclogin = 0 := rfl
  unfold Requester.Xorlogin
  rw [UInt32.and_comm, mask_or, hdisjoint, UInt32.or_zero, UInt32.and_comm]

theorem xorlogin_congr {s t : Requester} (h : t.flags = s.flags) : t.Xorlogin ↔ s.Xorlogin := by
  rw [Requester.Xorlogin, h, Requester.Xorlogin]

theorem not_xorlogin_requesterInit {flags : UInt32} (h : flags &&& aimSessFlagsXorlogin = 0) :
    ¬ (requesterInit flags).Xorlogin := by
  have hdisjoint : aimSessFlagsXorlogin &&& aimSessFlagsSnaclogin = 0 := rfl
  unfold requesterInit Requester.Xorlogin
  dsimp only
  rw [if_pos h, UInt32.and_comm, mask_or, hdisjoint, UInt32.zero_or, UInt32.and_comm, h]
  exact not_not.mpr rfl

end Flags

/-! ## Runs -/

/-- A session and the screen names of the requests it has taken, the latest one last. -/
structure LoginState where
  lib : Requester
  names : List (List UInt8)

/-- Any sequence of requests and logins. The function of the client that `goddamnicq` calls makes
such a sequence itself. Whatever else happens, a request that is refused among it, leaves the
flags. -/
inductive LoginRun : LoginState → LoginState → Prop where
  | refl (s : LoginState) : LoginRun s s
  | requestLogin {s t : LoginState} {client : Nat → Requester → Requester} {c : ConnPtr} (now : Int)
      {sn : List UInt8} : LoginRun s t → c ≠ 0 →
      (DigitName sn → ∀ func, aimCallhandler t.lib.sess c 0x0017 0x0007 ≠ some (.client func)) →
      LoginRun s ⟨(aimRequestLogin client c now (some sn) t.lib).2, t.names ++ [sn]⟩
  | requestLoginCalls {s t : LoginState} {client : Nat → Requester → Requester} {c : ConnPtr}
      (now : Int) {sn : List UInt8} {func : Nat} {names : List (List UInt8)} : LoginRun s t →
      c ≠ 0 → DigitName sn → aimCallhandler t.lib.sess c 0x0017 0x0007 = some (.client func) →
      LoginRun ⟨t.lib.icqFlags, t.names ++ [sn]⟩ ⟨client func t.lib.icqFlags, names⟩ →
      LoginRun s ⟨(aimRequestLogin client c now (some sn) t.lib).2, names⟩
  | sendLogin {s t : LoginState} (md5 : List UInt8 → Fin 16 → UInt8) (c : ConnPtr) (now : Int)
      (sn password : Option (List UInt8)) (ci : Option ClientInfo) (key : List UInt8) :
      LoginRun s t → LoginRun s ⟨(aimSendLogin md5 c now sn password ci key t.lib).2, t.names⟩
  | other {s t : LoginState} {lib : Requester} : LoginRun s t → lib.flags = t.lib.flags →
      LoginRun s ⟨lib, t.names⟩

section Steps

variable {s : Requester} {c : ConnPtr}

theorem post_flags {chan : UInt8} {datalen : Nat} {put : StateM AimBstream Nat} :
    (s.post c chan datalen put).2.flags = s.flags := by
  rcases s.post_spec c chan datalen put with ⟨-, h⟩ | ⟨fr, sess, -, -, h⟩ <;> rw [h]

theorem request_flags {now : Int} {req : Request} : (s.request c now req).2.flags = s.flags := by
  rcases s.request_spec c now req with ⟨-, h⟩ | ⟨fr, sess, -, -, h⟩ <;> rw [h]

theorem aimSendLogin_flags {md5 : List UInt8 → Fin 16 → UInt8} {now : Int}
    {sn password : Option (List UInt8)} {ci : Option ClientInfo} {key : List UInt8} :
    (aimSendLogin md5 c now sn password ci key s).2.flags = s.flags := by
  unfold aimSendLogin
  split
  · by_cases hxor : s.Xorlogin
    · rw [if_pos hxor]
      exact post_flags
    · rw [if_neg hxor]
      exact request_flags
  · rfl

/-- A request with a name that is no number asks the server. -/
theorem aimRequestLogin_xorlogin {client : Nat → Requester → Requester} {now : Int}
    {sn : List UInt8} (hc : c ≠ 0) (hsn : ¬ DigitName sn) :
    (aimRequestLogin client c now (some sn) s).2.Xorlogin ↔ s.Xorlogin := by
  unfold aimRequestLogin
  dsimp only
  rw [if_neg hc, if_neg hsn]
  exact (xorlogin_congr (request_flags.trans post_flags)).trans (xorlogin_snaclogin s)

theorem aimRequestLogin_icq {client : Nat → Requester → Requester} {now : Int} {sn : List UInt8}
    (hc : c ≠ 0) (hsn : DigitName sn) :
    aimRequestLogin client c now (some sn) s = goddamnicq client c s := by
  unfold aimRequestLogin
  dsimp only
  rw [if_neg hc, if_pos hsn]

end Steps

/-- The flag is set exactly when one of the names was a number. -/
def LoginState.FlagOfNames (s : LoginState) : Prop :=
  s.lib.Xorlogin ↔ ∃ sn ∈ s.names, DigitName sn

theorem LoginRun.flagOfNames {s t : LoginState} (hrun : LoginRun s t) (h : s.FlagOfNames) :
    t.FlagOfNames := by
  induction hrun with
  | refl s => exact h
  | @requestLogin s t client c now sn _ hc hcalls ih =>
    have ht := ih h
    by_cases hsn : DigitName sn
    · have hlib : (aimRequestLogin client c now (some sn) t.lib).2 = t.lib.icqFlags := by
        rw [aimRequestLogin_icq hc hsn]
        unfold goddamnicq
        dsimp only
        split
        next func hfunc => exact absurd hfunc (hcalls hsn func)
        next => rfl
      unfold LoginState.FlagOfNames
      dsimp only
      rw [hlib]
      exact ⟨fun _ => ⟨sn, by simp, hsn⟩, fun _ => xorlogin_icqFlags _⟩
    · refine (aimRequestLogin_xorlogin hc hsn).trans (ht.trans ?_)
      simp [hsn]
  | @requestLoginCalls s t client c now sn func names _ hc hsn hfunc _ _ ihcalls =>
    have hlib : (aimRequestLogin client c now (some sn) t.lib).2 = client func t.lib.icqFlags := by
      rw [aimRequestLogin_icq hc hsn]
      unfold goddamnicq
      have hfunc' : aimCallhandler t.lib.icqFlags.sess c 0x0017 0x0007 = some (.client func) := hfunc
      simp only [hfunc']
    rw [hlib]
    exact ihcalls ⟨fun _ => ⟨sn, by simp, hsn⟩, fun _ => xorlogin_icqFlags _⟩
  | sendLogin md5 c now sn password ci key _ ih =>
    exact (xorlogin_congr aimSendLogin_flags).trans (ih h)
  | other _ hflags ih => exact (xorlogin_congr hflags).trans (ih h)

/-! ## What is sent -/

section Send

variable (md5 : List UInt8 → Fin 16 → UInt8) (c : ConnPtr) (now : Int) (sn password : List UInt8)
  (ci : ClientInfo) (key : List UInt8)

/-- The login of an ICQ number: on channel 1, with the version of the protocol in front. -/
def IcqLogin (fr : AimFrame) : Prop :=
  fr.hdr = .flap 0x01 0 ∧
    fr.data = (putIcqLogin sn password (aimBstreamInit (List.replicate 1152 0) 1152)).2

/-- The login with an MD5 digest: on channel 2, with the SNAC 0017/0002. -/
def Md5Login (snacid : UInt32) (fr : AimFrame) : Prop :=
  fr.hdr = .flap 0x02 0 ∧
    fr.data = ((sendLoginRequest md5 ci sn password key).put snacid
      (aimBstreamInit (List.replicate 1152 0) 1152)).2

/-- The latest screen name is a number. -/
def LoginState.LatestDigit (s : LoginState) : Prop :=
  ∃ sn, s.names.getLast? = some sn ∧ DigitName sn

/-- `aim_send_login` sends the login of an ICQ number if the latest screen name is one, and only
then; otherwise the one with a digest. -/
def FollowsName (s : LoginState) : Prop :=
  ∃ fr, (aimSendLogin md5 c now (some sn) (some password) (some ci) key s.lib).2.passed =
      s.lib.passed ++ [fr] ∧
    (IcqLogin sn password fr ↔ s.LatestDigit) ∧
    (¬ s.LatestDigit → Md5Login md5 sn password ci key s.lib.snacs.snacidNext fr)

variable {md5 c now sn password ci key} {s : Requester}

theorem aimSendLogin_of_xorlogin (hxor : s.Xorlogin)
    (hret : (aimSendLogin md5 c now (some sn) (some password) (some ci) key s).1 = 0) :
    ∃ fr, (aimSendLogin md5 c now (some sn) (some password) (some ci) key s).2.passed =
      s.passed ++ [fr] ∧ IcqLogin sn password fr := by
  have hsend : aimSendLogin md5 c now (some sn) (some password) (some ci) key s =
      goddamnicq2 c sn password s := if_pos hxor
  rw [hsend] at hret ⊢
  rcases s.post_spec c 0x01 1152 (putIcqLogin sn password) with
    ⟨-, h⟩ | ⟨fr, sess, hhdr, hdata, h⟩
  · rw [goddamnicq2, h] at hret
    have henomem : -enomem = 0 := hret
    exact absurd henomem (by decide)
  · exact ⟨fr, by rw [goddamnicq2, h], hhdr, hdata⟩

theorem aimSendLogin_of_not_xorlogin (hxor : ¬ s.Xorlogin)
    (hret : (aimSendLogin md5 c now (some sn) (some password) (some ci) key s).1 = 0) :
    ∃ fr, (aimSendLogin md5 c now (some sn) (some password) (some ci) key s).2.passed =
      s.passed ++ [fr] ∧ Md5Login md5 sn password ci key s.snacs.snacidNext fr := by
  have hsend : aimSendLogin md5 c now (some sn) (some password) (some ci) key s =
      s.request c now (sendLoginRequest md5 ci sn password key) := if_neg hxor
  rw [hsend] at hret ⊢
  rcases s.request_spec c now (sendLoginRequest md5 ci sn password key) with
    ⟨-, h⟩ | ⟨fr, sess, hhdr, hdata, h⟩
  · rw [h] at hret
    have henomem : -enomem = 0 := hret
    exact absurd henomem (by decide)
  · exact ⟨fr, by rw [h], hhdr, hdata⟩

/-- The two logins are on different channels. -/
theorem Md5Login.not_icqLogin {snacid : UInt32} {fr : AimFrame}
    (h : Md5Login md5 sn password ci key snacid fr) : ¬ IcqLogin sn password fr := by
  intro hicq
  have hchan := (FrameHdr.flap.inj (h.1.symm.trans hicq.1)).1
  exact absurd hchan (by decide)

end Send

theorem LoginState.LatestDigit.exists {s : LoginState} (h : s.LatestDigit) :
    ∃ sn ∈ s.names, DigitName sn := by
  obtain ⟨sn, hlast, hdigit⟩ := h
  exact ⟨sn, List.mem_of_getLast? hlast, hdigit⟩

/-- Where the flag is as the names say, the login is the one for the latest name exactly if that is
a number or none is. -/
theorem LoginState.FlagOfNames.followsName_iff {md5 : List UInt8 → Fin 16 → UInt8} {c : ConnPtr}
    {now : Int} {sn password : List UInt8} {ci : ClientInfo} {key : List UInt8} {s : LoginState}
    (h : s.FlagOfNames)
    (hret : (aimSendLogin md5 c now (some sn) (some password) (some ci) key s.lib).1 = 0) :
    FollowsName md5 c now sn password ci key s ↔
      s.LatestDigit ∨ ∀ name ∈ s.names, ¬ DigitName name := by
  by_cases hxor : s.lib.Xorlogin
  · obtain ⟨fr, hpassed, hicq⟩ := aimSendLogin_of_xorlogin hxor hret
    obtain ⟨name, hmem, hdigit⟩ := h.mp hxor
    constructor
    · rintro ⟨fr', hpassed', hiff, -⟩
      obtain rfl := List.singleton_inj.mp (List.append_cancel_left (hpassed.symm.trans hpassed'))
      exact .inl (hiff.mp hicq)
    · rintro (hlatest | hnone)
      · exact ⟨fr, hpassed, ⟨fun _ => hlatest, fun _ => hicq⟩, fun hno => absurd hlatest hno⟩
      · exact absurd hdigit (hnone name hmem)
  · obtain ⟨fr, hpassed, hmd5⟩ := aimSendLogin_of_not_xorlogin hxor hret
    have hnone : ∀ name ∈ s.names, ¬ DigitName name :=
      fun name hmem hdigit => hxor (h.mpr ⟨name, hmem, hdigit⟩)
    have hlatest : ¬ s.LatestDigit := fun hl => hxor (h.mpr hl.exists)
    exact ⟨fun _ => .inr hnone, fun _ => ⟨fr, hpassed,
      ⟨fun hicq => absurd hicq hmd5.not_icqLogin, fun hl => absurd hl hlatest⟩, fun _ => hmd5⟩⟩

/-- In every sequence of requests and logins, a login that is sent is the one for the latest screen
name exactly if this name is an ICQ number, or no name so far was one. -/
theorem aimSendLogin_followsName_iff {flags : UInt32} (hflags : flags &&& aimSessFlagsXorlogin = 0)
    {s : LoginState} (hrun : LoginRun ⟨requesterInit flags, []⟩ s)
    {md5 : List UInt8 → Fin 16 → UInt8} {c : ConnPtr} {now : Int} {sn password : List UInt8}
    {ci : ClientInfo} {key : List UInt8}
    (hret : (aimSendLogin md5 c now (some sn) (some password) (some ci) key s.lib).1 = 0) :
    FollowsName md5 c now sn password ci key s ↔
      s.LatestDigit ∨ ∀ name ∈ s.names, ¬ DigitName name := by
  have hinit : LoginState.FlagOfNames ⟨requesterInit flags, []⟩ :=
    ⟨fun h => absurd h (not_xorlogin_requesterInit hflags), fun ⟨_, hmem, _⟩ => nomatch hmem⟩
  exact (hrun.flagOfNames hinit).followsName_iff hret

section Example

/-- A session with a connection to the authorizer. -/
def authRequester : Requester :=
  { requesterInit 0 with
    sess := (aimNewconn (aimSessionInit []) aimConnTypeAuth (.connected 3 0)).2 }

def someClientInfo : ClientInfo := ⟨none, 0, 0, 0, 0, 0, [0x75, 0x73], [0x65, 0x6e]⟩

theorem aimSendLogin_followsName_iff_first :
    FollowsName (fun _ _ => 0) 1 0 [0x61] [0x62] someClientInfo [] ⟨authRequester, []⟩ ↔
      LoginState.LatestDigit ⟨authRequester, []⟩ ∨
        ∀ name ∈ ([] : List (List UInt8)), ¬ DigitName name :=
  have hret : (aimSendLogin (fun _ _ => 0) 1 0 (some [0x61]) (some [0x62]) (some someClientInfo) []
    authRequester).1 = 0 := rfl
  have hrun : LoginRun ⟨requesterInit 0, []⟩ ⟨authRequester, []⟩ := .other (.refl _) rfl
  aimSendLogin_followsName_iff rfl hrun hret

/-- A request for the number `1`, and then one for the name `a`. -/
def afterNumberAndName : LoginState :=
  let s := (aimRequestLogin (fun _ s => s) 1 0 (some [0x31]) authRequester).2
  ⟨(aimRequestLogin (fun _ s => s) 1 0 (some [0x61]) s).2, [[0x31], [0x61]]⟩

theorem loginRun_afterNumberAndName : LoginRun ⟨requesterInit 0, []⟩ afterNumberAndName := by
  have hfirst : LoginRun ⟨requesterInit 0, []⟩ ⟨authRequester, []⟩ := .other (.refl _) rfl
  have hnumber : LoginRun ⟨requesterInit 0, []⟩
      ⟨(aimRequestLogin (fun _ s => s) 1 0 (some [0x31]) authRequester).2, [[0x31]]⟩ :=
    hfirst.requestLogin 0 (by decide) fun _ func hfunc => nomatch hfunc
  exact hnumber.requestLogin 0 (by decide) fun hdigit => absurd hdigit (by decide)

/-- The name `a` logs in as an ICQ number. -/
theorem not_aimSendLogin_followsName : ¬ ∀ s, LoginRun ⟨requesterInit 0, []⟩ s →
    ∀ (md5 : List UInt8 → Fin 16 → UInt8) (c : ConnPtr) (now : Int) (sn password : List UInt8)
      (ci : ClientInfo) (key : List UInt8),
      (aimSendLogin md5 c now (some sn) (some password) (some ci) key s.lib).1 = 0 →
      FollowsName md5 c now sn password ci key s := by
  intro h
  have hflag : afterNumberAndName.FlagOfNames := loginRun_afterNumberAndName.flagOfNames
    ⟨fun hxor => absurd hxor (by decide), fun ⟨_, hmem, _⟩ => nomatch hmem⟩
  have hret : (aimSendLogin (fun _ _ => 0) 1 0 (some [0x61]) (some [0x62]) (some someClientInfo) []
    afterNumberAndName.lib).1 = 0 := rfl
  rcases (hflag.followsName_iff hret).mp (h _ loginRun_afterNumberAndName _ _ _ _ _ _ _ hret) with
    ⟨sn, hlast, hdigit⟩ | hnone
  · obtain rfl := Option.some.inj hlast
    exact absurd hdigit (by decide)
  · exact hnone [0x31] (List.mem_cons_self) (by decide)

end Example

end Libfaim
