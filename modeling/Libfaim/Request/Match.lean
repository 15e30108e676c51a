import Libfaim.Auth.Method
import Libfaim.Request.Calls

/-!
# Requests and the SNAC cache

A reply is matched with its request through the id in the SNAC header. So each entry of the cache
should be that of exactly one frame, with the same family, type and id (`Requester.Matched`). In
every sequence of requests it is (`RequestRun.matched`), as long as none of the two functions is
called that write another header than they remember, the buffer has room for the header (a length
near a multiple of 65536 leaves none), and the ids have not come round, which they do not before the
2 ^ 32nd request (`Requester.Counted`).
-/

namespace Libfaim

/-! ## Entries and frames -/

/-- `snac` is in one of the chains of the cache. -/
def Remembers (snacs : SnacCache) (snac : AimSnac) : Prop := ∃ i, snac ∈ snacs.snacHash i

/-- The SNAC header of the frame has this id. -/
def AimFrame.Carries (id : UInt32) (fr : AimFrame) : Prop := fr.snacHeader.map (·.id) = some id

instance (id : UInt32) (fr : AimFrame) : Decidable (fr.Carries id) :=
  inferInstanceAs (Decidable (_ = _))

/-- Every entry is that of the one frame that carries its id. -/
def Requester.Matched (s : Requester) : Prop :=
  ∀ snac, Remembers s.snacs snac → ∃ fr, s.passed.filter (fun fr => fr.Carries snac.id) = [fr] ∧
    fr.snacHeader = some ⟨snac.family, snac.type, snac.id⟩

/-- No frame carries the id that the next request is given. -/
def Requester.FreshId (s : Requester) : Prop :=
  ∀ fr ∈ s.passed, ¬ fr.Carries s.snacs.snacidNext

/-- The number of frames that carry the id of a request, which 0 is not. -/
def Requester.requests (s : Requester) : Nat :=
  s.passed.countP fun fr => fr.snacHeader.any fun hdr => hdr.id ≠ 0

/-- The ids that were given are numbers up to that of requests, and the next one follows. -/
def Requester.Counted (s : Requester) : Prop :=
  s.requests + 1 < 2 ^ 32 → s.snacs.snacidNext = UInt32.ofNat (s.requests + 1) ∧
    ∀ fr ∈ s.passed, ∀ id, fr.Carries id → id.toNat ≤ s.requests

section Steps

variable {s t : Requester}

theorem remembers_aimCachesnac {snacs : SnacCache} {family type : UInt16} {data : List UInt8}
    {now : Int} {snac : AimSnac} :
    Remembers (aimCachesnac family type 0x0000 data now snacs).2 snac ↔
      snac = ⟨snacs.snacidNext, family, type, 0x0000, data, now⟩ ∨ Remembers snacs snac := by
  simp only [Remembers, aimCachesnac, aimNewsnac, Function.update_apply]
  constructor
  · rintro ⟨i, hi⟩
    split_ifs at hi with hindex
    · rcases List.mem_cons.mp hi with rfl | hmem
      · exact .inl rfl
      · exact .inr ⟨_, hmem⟩
    · exact .inr ⟨i, hi⟩
  · rintro (rfl | ⟨i, hi⟩)
    · exact ⟨snacIndex snacs.snacidNext, by simp⟩
    · refine ⟨i, ?_⟩
      split_ifs with hindex
      · exact List.mem_cons_of_mem _ (hindex ▸ hi)
      · exact hi

/-- An invariant of the requests: it stays when entries go, when a frame is passed on that no entry
is of, as it carries no id or the id 0, and when a request is made that has a fresh id and the
header of what is remembered. -/
structure Requester.Kept (P : Requester → Prop) : Prop where
  forget : ∀ {s t : Requester}, P s → t.passed = s.passed →
    t.snacs.snacidNext = s.snacs.snacidNext →
    (∀ snac, Remembers t.snacs snac → Remembers s.snacs snac) → P t
  pass : ∀ {s t : Requester} {fr : AimFrame}, P s → t.snacs = s.snacs →
    t.passed = s.passed ++ [fr] →
    (∀ id, fr.Carries id → id = 0 ∧ ∀ snac, Remembers s.snacs snac → snac.id ≠ 0) → P t
  request : ∀ {s t : Requester} {fr : AimFrame} {family type : UInt16} {data : List UInt8}
    {now : Int}, P s → s.FreshId →
    fr.snacHeader = some ⟨family, type, s.snacs.snacidNext⟩ →
    t.snacs = (aimCachesnac family type 0x0000 data now s.snacs).2 →
    t.passed = s.passed ++ [fr] → P t

/-- A request with a fresh id whose frame has the header of what is remembered. -/
theorem Requester.Matched.request (h : s.Matched) (hfresh : s.FreshId) {fr : AimFrame}
    {family type : UInt16} {data : List UInt8} {now : Int}
    (hhdr : fr.snacHeader = some ⟨family, type, s.snacs.snacidNext⟩)
    (hsnacs : t.snacs = (aimCachesnac family type 0x0000 data now s.snacs).2)
    (hpassed : t.passed = s.passed ++ [fr]) : t.Matched := by
  have hcarries (id : UInt32) : fr.Carries id ↔ s.snacs.snacidNext = id := by
    rw [AimFrame.Carries, hhdr, Option.map_some, Option.some_inj]
  intro snac hsnac
  rw [hsnacs, remembers_aimCachesnac] at hsnac
  rcases hsnac with rfl | hold
  · refine ⟨fr, ?_, hhdr⟩
    have hnone : s.passed.filter (fun fr => fr.Carries s.snacs.snacidNext) = [] :=
      List.filter_eq_nil_iff.mpr fun fr' hmem => by simpa using hfresh fr' hmem
    rw [hpassed, List.filter_append, hnone, List.filter_singleton]
    simp [hcarries]
  · -- the old entry has its frame already, so its id is another one
    obtain ⟨fr', hfilter, hhdr'⟩ := h snac hold
    have hmem : fr' ∈ s.passed.filter (fun fr => fr.Carries snac.id) := by
      rw [hfilter]
      exact List.mem_singleton_self _
    obtain ⟨hpass, hcarry⟩ := List.mem_filter.mp hmem
    have hne : s.snacs.snacidNext ≠ snac.id := by
      intro heq
      exact hfresh fr' hpass (heq ▸ of_decide_eq_true hcarry)
    refine ⟨fr', ?_, hhdr'⟩
    rw [hpassed, List.filter_append, hfilter, List.filter_singleton]
    simp [hcarries, hne]

theorem Requester.kept_matched : Requester.Kept Requester.Matched where
  forget {s t} h hpassed _ hsub snac hsnac := by
    rw [hpassed]
    exact h snac (hsub snac hsnac)
  pass {s t fr} h hsnacs hpassed hother snac hsnac := by
    rw [hsnacs] at hsnac
    obtain ⟨fr', hfilter, hhdr⟩ := h snac hsnac
    have hnot : ¬ fr.Carries snac.id := fun hcarries =>
      (hother snac.id hcarries).2 snac hsnac (hother snac.id hcarries).1
    refine ⟨fr', ?_, hhdr⟩
    rw [hpassed, List.filter_append, hfilter, List.filter_singleton]
    simp [hnot]
  request h hfresh hhdr hsnacs hpassed := h.request hfresh hhdr hsnacs hpassed

/-- A request takes the next number. -/
theorem Requester.Counted.request (h : s.Counted) {fr : AimFrame} {family type : UInt16}
    {data : List UInt8} {now : Int}
    (hhdr : fr.snacHeader = some ⟨family, type, s.snacs.snacidNext⟩)
    (hsnacs : t.snacs = (aimCachesnac family type 0x0000 data now s.snacs).2)
    (hpassed : t.passed = s.passed ++ [fr]) : t.Counted := by
  intro hbound
  have hmore : t.requests = s.requests + if s.snacs.snacidNext ≠ 0 then 1 else 0 := by
    rw [Requester.requests, hpassed, List.countP_append, List.countP_singleton, hhdr, Option.any_some]
    simp only [decide_eq_true_eq]
    rfl
  obtain ⟨hnext, hcarried⟩ := h (by omega)
  have hlt : s.requests + 1 < 2 ^ 32 := by omega
  have htoNat : s.snacs.snacidNext.toNat = s.requests + 1 := by
    rw [hnext, UInt32.toNat_ofNat', Nat.mod_eq_of_lt hlt]
  have hne : s.snacs.snacidNext ≠ 0 := by
    intro hzero
    rw [hzero] at htoNat
    exact nomatch htoNat
  rw [if_pos hne] at hmore
  refine ⟨?_, fun fr' hfr' id hid => ?_⟩
  · rw [hsnacs, hmore]
    show s.snacs.snacidNext + 1 = _
    rw [hnext]
    exact (UInt32.ofNat_add (s.requests + 1) 1).symm
  · rw [hmore]
    rcases List.mem_append.mp (hpassed ▸ hfr') with hold | hnew
    · exact Nat.le_succ_of_le (hcarried fr' hold id hid)
    · obtain rfl := List.mem_singleton.mp hnew
      rw [AimFrame.Carries, hhdr, Option.map_some, Option.some_inj] at hid
      exact Nat.le_of_eq (hid ▸ htoNat)

theorem Requester.kept_counted : Requester.Kept Requester.Counted where
  forget {s t} h hpassed hnext _ := by
    have hsame : t.requests = s.requests := congrArg (List.countP _) hpassed
    rw [Requester.Counted, hsame, hnext, hpassed]
    exact h
  pass {s t fr} h hsnacs hpassed hother := by
    have hzero : (fr.snacHeader.any fun hdr => hdr.id ≠ 0) = false := by
      cases hhdr : fr.snacHeader with
      | none => rfl
      | some hdr =>
        have hcarries : fr.Carries hdr.id := by rw [AimFrame.Carries, hhdr, Option.map_some]
        simp [(hother hdr.id hcarries).1]
    have hsame : t.requests = s.requests := by
      rw [Requester.requests, hpassed, List.countP_append, List.countP_singleton, hzero]
      rfl
    intro hbound
    rw [hsame] at hbound ⊢
    obtain ⟨hnext, hcarried⟩ := h hbound
    refine ⟨hsnacs ▸ hnext, fun fr' hfr' id hid => ?_⟩
    rcases List.mem_append.mp (hpassed ▸ hfr') with hold | hnew
    · exact hcarried fr' hold id hid
    · obtain rfl := List.mem_singleton.mp hnew
      rw [(hother id hid).1]
      exact Nat.zero_le _
  request h _ hhdr hsnacs hpassed := h.request hhdr hsnacs hpassed

/-- The ids have not come round. -/
theorem Requester.Counted.freshId (h : s.Counted) (hbound : s.requests + 1 < 2 ^ 32) :
    s.FreshId := by
  intro fr hfr hcarries
  obtain ⟨hnext, hcarried⟩ := h hbound
  have hle := hcarried fr hfr _ hcarries
  rw [hnext, UInt32.toNat_ofNat', Nat.mod_eq_of_lt hbound] at hle
  omega

end Steps

/-! ## Runs -/

/-- A call on the connection `c`. -/
def Requester.make (s : Requester) (c : ConnPtr) (now : Int) (call : RequestCall) :
    Int × Requester :=
  match call.request s.sess c with
  | .error ret => (ret, s)
  | .ok req => s.request c now req

/-- The buffer of the request has room for the header, and its id is a fresh one. -/
structure Requester.Sound (s : Requester) (req : Request) : Prop where
  room : 10 ≤ req.datalen % 65536
  fresh : s.FreshId

/-- Where the call makes a request, its function remembers what it writes, and the request is
sound. -/
def Requester.Conforms (s : Requester) (c : ConnPtr) (call : RequestCall) : Prop :=
  s.sess.Usable c → ∀ req, call.request s.sess c = .ok req → ¬ call.Mismatched ∧ s.Sound req

/-- Any sequence of calls that make requests, all of which conform. Entries may be taken out of the
cache on the way, and the rest of the session may change. The function of the client that
`goddamnicq` calls makes such a sequence itself. -/
inductive RequestRun : Requester → Requester → Prop where
  | refl (s : Requester) : RequestRun s s
  | make {s t : Requester} {c : ConnPtr} (now : Int) {call : RequestCall} : RequestRun s t →
      t.Conforms c call → RequestRun s (t.make c now call).2
  | genericreqN {s t : Requester} {c : ConnPtr} (family subtype : UInt16) : RequestRun s t →
      (t.sess.Usable c → ∀ snac, Remembers t.snacs snac → snac.id ≠ 0) →
      RequestRun s (aimGenericreqN c family subtype t).2
  | sendflapver {s t : Requester} (c : ConnPtr) : RequestRun s t →
      RequestRun s (aimSendflapver c t).2
  | requestLogin {s t : Requester} {client : Nat → Requester → Requester} {c : ConnPtr} (now : Int)
      {sn : List UInt8} : RequestRun s t → ¬ DigitName sn →
      (t.sess.Usable c → t.Sound (loginRequest sn)) →
      RequestRun s (aimRequestLogin client c now (some sn) t).2
  | requestLoginIcq {s t : Requester} {client : Nat → Requester → Requester} {c : ConnPtr}
      (now : Int) {sn : List UInt8} : RequestRun s t → DigitName sn →
      (∀ func, RequestRun t.icqFlags (client func t.icqFlags)) →
      RequestRun s (aimRequestLogin client c now (some sn) t).2
  | sendLogin {s t : Requester} {md5 : List UInt8 → Fin 16 → UInt8} {c : ConnPtr} (now : Int)
      {sn password : List UInt8} {ci : ClientInfo} {key : List UInt8} : RequestRun s t →
      (t.sess.Usable c → ¬ t.Xorlogin → t.Sound (sendLoginRequest md5 ci sn password key)) →
      RequestRun s (aimSendLogin md5 c now (some sn) (some password) (some ci) key t).2
  | remsnac {s t : Requester} (id : UInt32) : RequestRun s t →
      RequestRun s { t with snacs := (aimRemsnac id t.snacs).2 }
  | cleansnacs {s t : Requester} (time : Fin faimSnacHashSize → Int) (maxage : Int) :
      RequestRun s t → RequestRun s { t with snacs := aimCleansnacs time maxage t.snacs }
  | other {s t : Requester} (sess : AimSession) (flags : UInt32) : RequestRun s t →
      RequestRun s { t with sess := sess, flags := flags }

section Preserved

variable {P : Requester → Prop} {s : Requester} {c : ConnPtr}

theorem Requester.FreshId.congr {t : Requester} (h : s.FreshId) (hsnacs : t.snacs = s.snacs)
    (hpassed : t.passed = s.passed) : t.FreshId := by
  intro fr hfr
  rw [hsnacs]
  exact h fr (hpassed ▸ hfr)

/-- A frame on channel 1 has no SNAC header. -/
theorem not_carries_of_channel {fr : AimFrame} (h : fr.hdr = .flap 0x01 0) (id : UInt32) :
    ¬ fr.Carries id := by
  have hnone : fr.snacHeader = none := by
    rw [AimFrame.snacHeader, h]
    exact if_neg fun hchan => absurd hchan.1 (by decide)
  rw [AimFrame.Carries, hnone, Option.map_none]
  exact fun heq => nomatch heq

theorem Requester.FreshId.of_post (h : s.FreshId) (datalen : Nat) (put : StateM AimBstream Nat) :
    (s.post c 0x01 datalen put).2.FreshId := by
  rcases s.post_spec c 0x01 datalen put with ⟨-, hr⟩ | ⟨fr, sess, hhdr, -, hr⟩
  · rw [hr]
    exact h
  · rw [hr]
    intro fr' hfr'
    rcases List.mem_append.mp hfr' with hold | hnew
    · exact h fr' hold
    · obtain rfl := List.mem_singleton.mp hnew
      exact not_carries_of_channel hhdr _

namespace Requester.Kept

theorem congr (hP : Requester.Kept P) {t : Requester} (h : P s) (hsnacs : t.snacs = s.snacs)
    (hpassed : t.passed = s.passed) : P t :=
  hP.forget h hpassed (hsnacs ▸ rfl) fun snac hsnac => by rwa [hsnacs] at hsnac

/-- A request whose header is what it remembers. -/
theorem of_request (hP : Requester.Kept P) (h : P s) {req : Request} (hreq : req.Headed)
    (hok : s.sess.Usable c → s.Sound req) (now : Int) : P (s.request c now req).2 := by
  by_cases hc : s.sess.Usable c
  · obtain ⟨hroom, hfresh⟩ := hok hc
    rcases s.request_spec c now req with ⟨-, hr⟩ | ⟨fr, sess, hhdr, hdata, hr⟩
    · rw [hr]
      exact h
    · rw [hr]
      exact hP.request h hfresh (snacHeader_of_snacFirst (hreq _) hroom hhdr hdata) rfl rfl
  · rw [Requester.request_of_not_usable hc]
    exact h

theorem of_post (hP : Requester.Kept P) (h : P s) (datalen : Nat) (put : StateM AimBstream Nat) :
    P (s.post c 0x01 datalen put).2 := by
  rcases s.post_spec c 0x01 datalen put with ⟨-, hr⟩ | ⟨fr, sess, hhdr, -, hr⟩
  · rw [hr]
    exact h
  · rw [hr]
    exact hP.pass h rfl rfl fun id hcarries => absurd hcarries (not_carries_of_channel hhdr id)

theorem make (hP : Requester.Kept P) (h : P s) {call : RequestCall} (hok : s.Conforms c call)
    (now : Int) : P (s.make c now call).2 := by
  unfold Requester.make
  cases hreq : call.request s.sess c with
  | error ret => exact h
  | ok req =>
    by_cases hc : s.sess.Usable c
    · obtain ⟨hmatch, hsound⟩ := hok hc req hreq
      exact hP.of_request h (RequestCall.makesHeaded hmatch _ _ req hreq) (fun _ => hsound) now
    · dsimp only
      rw [Requester.request_of_not_usable hc]
      exact h

theorem genericreqN (hP : Requester.Kept P) (h : P s) (family subtype : UInt16)
    (hzero : s.sess.Usable c → ∀ snac, Remembers s.snacs snac → snac.id ≠ 0) :
    P (aimGenericreqN c family subtype s).2 := by
  by_cases hc : s.sess.Usable c
  · unfold aimGenericreqN
    rcases s.post_spec c 0x02 10 (aimPutsnac family subtype 0x0000 0x00000000) with
      ⟨-, hr⟩ | ⟨fr, sess, hhdr, hdata, hr⟩
    · rw [hr]
      exact h
    · rw [hr]
      have hheader := snacHeader_of_snacFirst snacFirst_aimPutsnac (by decide) hhdr hdata
      refine hP.pass h rfl rfl fun id hcarries => ⟨?_, hzero hc⟩
      rw [AimFrame.Carries, hheader, Option.map_some, Option.some_inj] at hcarries
      exact hcarries.symm
  · unfold aimGenericreqN
    rw [Requester.post_of_not_usable hc]
    exact h

theorem requestLogin (hP : Requester.Kept P) (h : P s) {client : Nat → Requester → Requester}
    {sn : List UInt8} (hsn : ¬ DigitName sn) (hok : s.sess.Usable c → s.Sound (loginRequest sn))
    (now : Int) : P (aimRequestLogin client c now (some sn) s).2 := by
  have hheaded : (loginRequest sn).Headed := headed_putSnac fun _ => by simp
  by_cases hzero : c = 0
  · unfold aimRequestLogin
    dsimp only
    rwa [if_pos hzero]
  · have heq : aimRequestLogin client c now (some sn) s =
        (aimSendflapver c { s with flags := s.flags ||| aimSessFlagsSnaclogin }).2.request c now
          (loginRequest sn) := by
      unfold aimRequestLogin
      dsimp only
      rw [if_neg hzero, if_neg hsn]
    have hflags : P { s with flags := s.flags ||| aimSessFlagsSnaclogin } := hP.congr h rfl rfl
    rw [heq]
    unfold aimSendflapver
    by_cases hc : s.sess.Usable c
    · obtain ⟨hroom, hfresh⟩ := hok hc
      have hfresh' : ({ s with flags := s.flags ||| aimSessFlagsSnaclogin } : Requester).FreshId :=
        hfresh.congr rfl rfl
      exact hP.of_request (hP.of_post hflags 4 _) hheaded (fun _ => ⟨hroom, hfresh'.of_post 4 _⟩) now
    · have hc' : ¬ ({ s with flags := s.flags ||| aimSessFlagsSnaclogin } : Requester).sess.Usable c :=
        hc
      rw [Requester.post_of_not_usable hc', Requester.request_of_not_usable hc']
      exact hflags

theorem sendLogin (hP : Requester.Kept P) (h : P s) {md5 : List UInt8 → Fin 16 → UInt8}
    {sn password : List UInt8} {ci : ClientInfo} {key : List UInt8}
    (hok : s.sess.Usable c → ¬ s.Xorlogin → s.Sound (sendLoginRequest md5 ci sn password key))
    (now : Int) : P (aimSendLogin md5 c now (some sn) (some password) (some ci) key s).2 := by
  by_cases hxor : s.Xorlogin
  · have hsend : aimSendLogin md5 c now (some sn) (some password) (some ci) key s =
        goddamnicq2 c sn password s := if_pos hxor
    rw [hsend]
    exact hP.of_post h 1152 _
  · have hsend : aimSendLogin md5 c now (some sn) (some password) (some ci) key s =
        s.request c now (sendLoginRequest md5 ci sn password key) := if_neg hxor
    rw [hsend]
    have hheaded : (sendLoginRequest md5 ci sn password key).Headed :=
      headed_putSnac fun _ => by simp
    exact hP.of_request h hheaded (fun hc => hok hc hxor) now

theorem run (hP : Requester.Kept P) {t : Requester} (hrun : RequestRun s t) (h : P s) : P t := by
  induction hrun with
  | refl s => exact h
  | make now _ hok ih => exact hP.make (ih h) hok now
  | genericreqN family subtype _ hzero ih => exact hP.genericreqN (ih h) family subtype hzero
  | sendflapver c _ ih => exact hP.of_post (ih h) 4 _
  | requestLogin now _ hsn hok ih => exact hP.requestLogin (ih h) hsn hok now
  | @requestLoginIcq s t client c now sn _ hsn _ ih ihclient =>
    have ht : P t.icqFlags := hP.congr (ih h) rfl rfl
    by_cases hzero : c = 0
    · unfold aimRequestLogin
      dsimp only
      rw [if_pos hzero]
      exact ih h
    · unfold aimRequestLogin
      dsimp only
      rw [if_neg hzero, if_pos hsn]
      unfold goddamnicq
      dsimp only
      split
      · exact ihclient _ ht
      · exact ht
  | sendLogin now _ hok ih => exact hP.sendLogin (ih h) hok now
  | @remsnac s t id _ ih =>
    refine hP.forget (ih h) rfl rfl fun snac hsnac => ?_
    rw [aimRemsnac_eq] at hsnac
    obtain ⟨i, hi⟩ := hsnac
    exact ⟨i, (HashChain.remove_sublist id i).subset hi⟩
  | @cleansnacs s t time maxage _ ih =>
    refine hP.forget (ih h) rfl rfl fun snac ⟨i, hi⟩ => ⟨i, ?_⟩
    have hi' : snac ∈ aimCleansnacsLoop (time i) maxage (t.snacs.snacHash i) := hi
    rw [aimCleansnacsLoop_eq] at hi'
    exact (List.mem_filter.mp hi').1
  | other sess flags _ ih => exact hP.congr (ih h) rfl rfl

end Requester.Kept

end Preserved

/-- In every sequence of requests that conform, every entry of the cache is that of exactly one
frame, which carries the same id, family and type; and while there are fewer than 2 ^ 32 requests,
no frame carries the id of the next one. -/
theorem RequestRun.matched {flags : UInt32} {s : Requester}
    (hrun : RequestRun (requesterInit flags) s) :
    s.Matched ∧ (s.requests + 1 < 2 ^ 32 → s.FreshId) := by
  have hmatched : (requesterInit flags).Matched := fun _ ⟨_, hi⟩ => nomatch hi
  have hcounted : (requesterInit flags).Counted :=
    fun _ => ⟨rfl, fun fr hfr => absurd hfr List.not_mem_nil⟩
  exact ⟨Requester.kept_matched.run hrun hmatched,
    (Requester.kept_counted.run hrun hcounted).freshId⟩

/-- The first request of a session, for the email address of the account, is remembered as one of
the family 0002 and sent as one of the family 0007; the interests are sent with the id 0. -/
theorem not_matched_adminGetinfo_setuserinterests :
    ¬ (authRequester.make 1 0 (.adminGetinfo 0x0011)).2.Matched ∧
      ¬ (authRequester.make 1 0 (.setuserinterests (fun _ => none) 0)).2.Matched := by
  constructor
  · intro h
    obtain ⟨fr, hfilter, hhdr⟩ :=
      h ⟨1, 0x0002, 0x0002, 0, [], 0⟩ ⟨snacIndex 1, List.mem_singleton_self _⟩
    have hmem : fr ∈ [fr] := List.mem_singleton_self fr
    rw [← hfilter] at hmem
    obtain rfl := List.mem_singleton.mp (List.mem_filter.mp hmem).1
    exact absurd hhdr (by decide)
  · intro h
    obtain ⟨fr, hfilter, hhdr⟩ :=
      h ⟨1, 0x0002, 0x000f, 0, [], 0⟩ ⟨snacIndex 1, List.mem_singleton_self _⟩
    have hmem : fr ∈ [fr] := List.mem_singleton_self fr
    rw [← hfilter] at hmem
    obtain rfl := List.mem_singleton.mp (List.mem_filter.mp hmem).1
    exact absurd hhdr (by decide)

/-- A request for the buddy list rights, and one for a user's information. -/
theorem RequestRun.matched_getinfo :
    ((aimGenericreqN 1 0x0003 0x0002 authRequester).2.make 1 0 (.getinfo (some [0x61]) 1)).2.Matched
    := by
  have hstart : RequestRun (requesterInit 0) authRequester := .other _ 1 (.refl _)
  have hfirst : RequestRun (requesterInit 0) (aimGenericreqN 1 0x0003 0x0002 authRequester).2 :=
    hstart.genericreqN 0x0003 0x0002 fun _ snac ⟨_, hi⟩ => nomatch hi
  refine (RequestRun.matched (hfirst.make 0 fun _ req hreq => ⟨id, ?_, ?_⟩)).1
  · rw [← Except.ok.inj hreq]
    decide
  · exact (RequestRun.matched hfirst).2 (by decide)

/-! ## The functions modelled elsewhere -/

section Agree

variable (s : Requester) (c : ConnPtr) (now : Int) (rand : Nat → UInt8)

theorem make_sendImExt (args : AimSendimextArgs) (time : Fin faimSnacHashSize → Int) :
    let r := s.make c now (.sendImExt rand args)
    aimSendImExt s.sess s.snacs c args now rand true time = (r.1, r.2.sess, r.2.snacs) := by
  intro r
  simp only [r, Requester.make, RequestCall.request, sendImextRequest, aimSendImExt, sendImextFrame]
  split_ifs
  · rfl
  · cases checkImext args with
    | error ret => rfl
    | ok =>
      dsimp only [Requester.request]
      cases aimTxNew s.sess c aimFrametypeFlap 0x02 (msgtlvlen args + 128) <;> rfl

theorem make_chatSendIm (flags : UInt16) (msg : Option (List UInt8)) (msglen : Int) :
    let r := s.make c now (.chatSendIm rand flags msg msglen)
    aimChatSendIm s.sess s.snacs c now rand flags msg msglen = (r.1, r.2.sess, r.2.snacs) := by
  intro r
  simp only [r, Requester.make, RequestCall.request, chatSendImRequest, aimChatSendIm,
    chatSendImFrame]
  cases msg with
  | none => rfl
  | some msg =>
    dsimp only
    split_ifs
    · rfl
    · dsimp only [Requester.request]
      cases aimTxNew s.sess c aimFrametypeFlap 0x02 1152 <;> rfl

theorem make_sendIcon (args : AimSendIconArgs) :
    let r := s.make c now (.sendIcon rand args)
    aimSendIcon s.sess s.snacs c now rand args = (r.1, r.2.sess, r.2.snacs) := by
  intro r
  simp only [r, Requester.make, RequestCall.request, sendIconRequest, aimSendIcon, sendRendezvous,
    sendIconFrame, rendezvousFrame, Requester.request]
  split_ifs
  · rfl
  · rfl
  · dsimp only
    generalize aimTxNew s.sess c aimFrametypeFlap 0x02 _ = new
    cases new <;> rfl

theorem make_sendRtfmsg (args : AimSendrtfmsgArgs) :
    let r := s.make c now (.sendRtfmsg rand args)
    aimSendRtfmsg s.sess s.snacs c now rand args = (r.1, r.2.sess, r.2.snacs) := by
  intro r
  simp only [r, Requester.make, RequestCall.request, sendRtfmsgRequest, aimSendRtfmsg,
    sendRendezvous, sendRtfmsgFrame, rendezvousFrame, Requester.request]
  split_ifs
  · rfl
  · dsimp only
    generalize aimTxNew s.sess c aimFrametypeFlap 0x02 _ = new
    cases new <;> rfl

end Agree

end Libfaim
