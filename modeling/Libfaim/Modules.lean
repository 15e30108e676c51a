import Libfaim.RxHandlers.Offer

/-!
# The modules of a session

`aim_session_init` registers one module for each SNAC family the library knows, and one for all
families. Two of them have no handler: `invite` and `translate` register their families only so
that their versions are announced. The dispatcher does not check for that: a SNAC of either family
ends in a call through a null pointer, and nothing else does (`safelyDispatched_iff`).
-/

namespace Libfaim

open Hoare

/-! ## Registration -/

/-- `aim__findmodule` -/
def aimFindmodule (modlistv : List AimModule) (name : String) : Option AimModule :=
  modlistv.find? fun cur => name = cur.name

/-- `aim__registermodule`, with what `modfirst` makes of the module; `none` is the result -1. -/
def aimRegistermodule (modlistv : List AimModule) : Option AimModule → List AimModule
  | none => modlistv
  | some mod => if aimFindmodule modlistv mod.name ≠ none then modlistv else mod :: modlistv

/-- The functions named `snachandler` are told apart by the family of their module. -/
def modfirst (name : String) (family flags : UInt16) : Option AimModule :=
  some ⟨name, family, flags, some family.toNat⟩

def miscModfirst : Option AimModule := modfirst "misc" 0xffff aimModflagMultifamily

def generalModfirst : Option AimModule := modfirst "general" 0x0001 0

def locateModfirst : Option AimModule := modfirst "locate" 0x0002 0

def buddylistModfirst : Option AimModule := modfirst "buddylist" 0x0003 0

def msgModfirst : Option AimModule := modfirst "messaging" 0x0004 0

def advertsModfirst : Option AimModule := modfirst "adverts" 0x0005 0

def inviteModfirst : Option AimModule := some ⟨"invite", 0x0006, 0, none⟩

def adminModfirst : Option AimModule := modfirst "admin" 0x0007 0

def popupsModfirst : Option AimModule := modfirst "popups" 0x0008 0

def bosModfirst : Option AimModule := modfirst "bos" 0x0009 0

def searchModfirst : Option AimModule := modfirst "search" 0x000a 0

def statsModfirst : Option AimModule := modfirst "stats" 0x000b 0

def translateModfirst : Option AimModule := some ⟨"translate", 0x000c, 0, none⟩

def chatnavModfirst : Option AimModule := modfirst "chatnav" 0x000d 0

def chatModfirst : Option AimModule := modfirst "chat" 0x000e 0

def ssiModfirst : Option AimModule := modfirst "ssi" 0x0013 0

def icqModfirst : Option AimModule := modfirst "icq" 0x0015 0

def authModfirst : Option AimModule := modfirst "auth" 0x0017 0

/-- The modules `aim_session_init` registers, the last one first. -/
def aimModlist : List AimModule :=
  [miscModfirst, generalModfirst, locateModfirst, buddylistModfirst, msgModfirst, advertsModfirst,
    inviteModfirst, adminModfirst, popupsModfirst, bosModfirst, searchModfirst, statsModfirst,
    translateModfirst, chatnavModfirst, chatModfirst, ssiModfirst, icqModfirst,
    authModfirst].foldl aimRegistermodule []

/-! ## Modules without a handler -/

/-- The families whose modules have no handler. -/
def NullFamily (family : UInt16) : Prop := family = 0x0006 ∨ family = 0x000c

instance (family : UInt16) : Decidable (NullFamily family) :=
  inferInstanceAs (Decidable (_ ∨ _))

/-- In the loop over the modules, one without a handler comes up before the frame is taken. -/
def NullReached (ret : RxCall → Int) (mkCall : AimModule → RxCall) (family : UInt16)
    (mods : List AimModule) : Prop :=
  ∃ before mod after, mods = before ++ mod :: after ∧ mod.Takes family ∧
    mod.snachandler = none ∧ ∀ cur ∈ before, cur.Takes family → ret (mkCall cur) = 0

section NullReached

variable {client : Client} {ret : RxCall → Int} {mkCall : AimModule → RxCall} {family : UInt16}
  {cur : AimModule} {next : List AimModule}

theorem not_nullReached_nil : ¬ NullReached ret mkCall family [] := by
  rintro ⟨before, mod, after, hmods, -⟩
  cases before <;> cases hmods

theorem nullReached_of_null (htakes : cur.Takes family) (hnull : cur.snachandler = none) :
    NullReached ret mkCall family (cur :: next) :=
  ⟨[], cur, next, rfl, htakes, hnull, fun _ h => absurd h List.not_mem_nil⟩

theorem nullReached_cons (h : cur.Takes family → cur.snachandler ≠ none) :
    NullReached ret mkCall family (cur :: next) ↔
      (cur.Takes family → ret (mkCall cur) = 0) ∧ NullReached ret mkCall family next := by
  constructor
  · rintro ⟨before, mod, after, hmods, htakes, hnull, hbefore⟩
    cases before with
    | nil =>
      obtain ⟨rfl, rfl⟩ := List.cons.inj hmods
      exact absurd hnull (h htakes)
    | cons cur' before =>
      obtain ⟨rfl, rfl⟩ := List.cons.inj hmods
      refine ⟨hbefore cur List.mem_cons_self, before, mod, after, rfl, htakes, hnull, ?_⟩
      exact fun m hm => hbefore m (List.mem_cons_of_mem cur hm)
  · rintro ⟨hret, before, mod, after, rfl, htakes, hnull, hbefore⟩
    refine ⟨cur :: before, mod, after, rfl, htakes, hnull, fun m hm => ?_⟩
    rcases List.mem_cons.mp hm with rfl | hm
    · exact hret
    · exact hbefore m hm

/-- The loop over the modules has no result exactly when it calls a null handler. -/
theorem consumeLoop_eq_none_iff (mods : List AimModule) (st : AimSession × List (RxCall × Int)) :
    consumeLoop client mkCall family mods st = none ↔
      NullReached client.ret mkCall family mods := by
  induction mods generalizing st with
  | nil => exact ⟨fun h => absurd h (Option.some_ne_none _), fun h => absurd h not_nullReached_nil⟩
  | cons cur next ih =>
    by_cases htakes : cur.Takes family
    · by_cases hnull : cur.snachandler = none
      · rw [consumeLoop, if_neg (not_not.mpr htakes), if_pos hnull]
        exact ⟨fun _ => nullReached_of_null htakes hnull, fun _ => rfl⟩
      · rw [consumeLoop_cons next htakes hnull, nullReached_cons fun _ => hnull]
        by_cases hret : client.ret (mkCall cur) = 0
        · rw [if_neg (not_not.mpr hret), ih]
          exact ⟨fun h => ⟨fun _ => hret, h⟩, fun h => h.2⟩
        · rw [if_pos hret]
          exact ⟨fun h => absurd h (Option.some_ne_none _), fun h => absurd (h.1 htakes) hret⟩
    · rw [consumeLoop, if_pos htakes, nullReached_cons fun h => absurd h htakes, ih]
      exact ⟨fun h => ⟨fun ht => absurd ht htakes, h⟩, fun h => h.2⟩

end NullReached

/-! ## The modules of `aim_session_init` -/

theorem aimModlist_null : ∀ mod ∈ aimModlist, mod.snachandler = none →
    mod.flags = 0 ∧ NullFamily mod.family := by
  decide

theorem nullFamily_of_nullReached {ret : RxCall → Int} {mkCall : AimModule → RxCall}
    {family : UInt16} (h : NullReached ret mkCall family aimModlist) : NullFamily family := by
  obtain ⟨before, mod, after, hmods, htakes, hnull, -⟩ := h
  have hmem : mod ∈ aimModlist := hmods ▸ List.mem_append_right before List.mem_cons_self
  obtain ⟨hflags, hfamily⟩ := aimModlist_null mod hmem hnull
  have heq : mod.family = family := by
    by_contra hne
    refine htakes ⟨?_, hne⟩
    rw [hflags]
    rfl
  exact heq ▸ hfamily

theorem nullReached_of_nullFamily {ret : RxCall → Int} {mkCall : AimModule → RxCall}
    {family : UInt16} (h : NullFamily family) : NullReached ret mkCall family aimModlist := by
  have hcut : ∀ k mod, aimModlist.drop k = mod :: aimModlist.drop (k + 1) → mod.Takes family →
      mod.snachandler = none → (∀ cur ∈ aimModlist.take k, ¬ cur.Takes family) →
      NullReached ret mkCall family aimModlist := by
    intro k mod hdrop htakes hnull hbefore
    refine ⟨aimModlist.take k, mod, aimModlist.drop (k + 1), ?_, htakes, hnull, ?_⟩
    · rw [← hdrop, List.take_append_drop]
    · exact fun cur hcur ht => absurd ht (hbefore cur hcur)
  rcases h with rfl | rfl
  · exact hcut 11 ⟨"invite", 0x0006, 0, none⟩ rfl (by decide) rfl (by decide)
  · exact hcut 5 ⟨"translate", 0x000c, 0, none⟩ rfl (by decide) rfl (by decide)

/-! ## A turn has a result -/

/-- The frame is a SNAC that is dispatched, of a family whose module has no handler. -/
def NullSnac (sess : AimSession) (cur : AimFrame) : Prop :=
  cur.handled = 0 ∧ cur.hdr.isFlap ∧ (sess.conn cur.conn).type ≠ aimConnTypeRendezvous ∧
    (sess.conn cur.conn).type ≠ aimConnTypeRendezvousOut ∧ cur.hdr.flapType = 0x02 ∧
    10 ≤ aimBstreamEmpty cur.data ∧ NullFamily (getModsnac cur.data).1.family

instance (sess : AimSession) (cur : AimFrame) : Decidable (NullSnac sess cur) :=
  inferInstanceAs (Decidable (_ ∧ _))

/-- The frame is a notice of a connection error, whose list of TLVs is read without an end. -/
def ConnerrHangs (sess : AimSession) (cur : AimFrame) : Prop :=
  cur.hdr.flapType = 0x04 ∧ (sess.conn cur.conn).type ≠ aimConnTypeAuth ∧
    aimReadtlvchain cur.data = none

section Defined

variable {client : Client} {i ptr : Nat} {mods : List AimModule}
  {P : AimSession × List (RxCall × Int) → Prop}

theorem defined_session : Defined P RxM.session := fun _ _ h => nomatch h

theorem defined_frame : Defined (fun st => Here mods i ptr st.1) (RxM.frame i) := by
  rintro ⟨sess, calls⟩ ⟨-, cur, hcur, -⟩ h
  exact nomatch (congrArg (Option.map _) hcur).symm.trans h

theorem defined_setData (data : AimBstream) : Defined P (RxM.setData i data) :=
  fun _ _ h => nomatch h

theorem defined_setHandled (v : UInt8) : Defined P (RxM.setHandled i v) :=
  fun _ _ h => nomatch h

theorem defined_call (c : RxCall) : Defined P (RxM.call client c) := fun _ _ h => nomatch h

theorem defined_consumeLoop {mkCall : AimModule → RxCall} {family : UInt16}
    (h : ¬ NullReached client.ret mkCall family mods) :
    Defined P (consumeLoop client mkCall family mods) :=
  fun st _ hnone => h ((consumeLoop_eq_none_iff mods st).mp hnone)

theorem defined_consumenonsnac {family : UInt16} (subtype : UInt16) (h : ¬ NullFamily family) :
    Defined (fun st => Here aimModlist i ptr st.1) (consumenonsnac client i family subtype) := by
  refine defined_frame.bind (frame_spec i) fun rx => ?_
  refine defined_session.bind session_spec fun sess => Defined.forall_start fun st hst => ?_
  obtain ⟨⟨⟨hmods, -⟩, -⟩, rfl⟩ := hst
  rw [hmods]
  exact defined_consumeLoop fun hnull => h (nullFamily_of_nullReached hnull)

theorem defined_lastChance {ok : Guard} (hclient : client.Calls ok) :
    Defined (fun st => Here aimModlist i ptr st.1) (lastChance client i) := by
  refine defined_frame.bind (keeps_frame i) fun cur => Defined.ite (fun _ => ?_) fun _ => .pure
  refine (defined_consumenonsnac 0xffff (by decide)).bind
    ((here_stable hclient).consumenonsnac 0xffff 0xffff) fun _ => defined_setHandled 1

/-- The turn of the `i`-th frame `cur` begins. -/
theorem here_of_start {sess : AimSession} {cur : AimFrame}
    (hcur : sess.queueIncoming[i]? = some cur) (hmods : sess.modlistv = aimModlist)
    {st : AimSession × List (RxCall × Int)} (hst : st = (sess, [])) :
    Here aimModlist i cur.ptr st.1 := by
  subst hst
  exact ⟨hmods, cur, hcur, rfl⟩

variable {ok : Guard} {sess : AimSession} {cur : AimFrame}

theorem defined_consumesnac (hcur : sess.queueIncoming[i]? = some cur)
    (hmods : sess.modlistv = aimModlist)
    (h : 10 ≤ aimBstreamEmpty cur.data → ¬ NullFamily (getModsnac cur.data).1.family) :
    Defined (· = (sess, [])) (consumesnac client i) := by
  refine (defined_frame.conseq fun _ => here_of_start hcur hmods).bind (frame_spec i) fun rx => ?_
  apply Defined.forall_start
  intro st hst
  obtain ⟨rfl, hrx⟩ := hst
  obtain rfl : cur = rx := Option.some.inj (hcur.symm.trans hrx)
  refine Defined.ite (fun _ => .pure) fun hlong => ?_
  refine (defined_setData _).bind ((@setData_spec i cur.ptr aimModlist [] _).conseq
    (fun _ hst => ⟨here_of_start hcur hmods hst, hst ▸ rfl⟩) fun _ _ h => h) fun _ => ?_
  refine defined_session.bind session_spec fun sess' => ?_
  apply Defined.forall_start
  intro st hst
  obtain ⟨⟨⟨hmods', -⟩, -⟩, rfl⟩ := hst
  rw [hmods']
  exact defined_consumeLoop fun hnull => h (Nat.not_lt.mp hlong) (nullFamily_of_nullReached hnull)

theorem defined_aimCallhandlerNoparam (hcur : sess.queueIncoming[i]? = some cur)
    (hmods : sess.modlistv = aimModlist) :
    Defined (· = (sess, [])) (aimCallhandlerNoparam client i) := by
  refine (defined_frame.conseq fun _ => here_of_start hcur hmods).bind (frame_spec i) fun rx => ?_
  refine defined_session.bind session_spec fun sess' => ?_
  split
  · exact .pure
  · exact .pure
  · exact defined_call _

theorem defined_negchanMiddle (hcur : sess.queueIncoming[i]? = some cur)
    (hmods : sess.modlistv = aimModlist)
    (h : (sess.conn cur.conn).type ≠ aimConnTypeAuth → aimReadtlvchain cur.data ≠ none) :
    Defined (· = (sess, [])) (negchanMiddle client i) := by
  refine (defined_frame.conseq fun _ => here_of_start hcur hmods).bind (frame_spec i) fun fr => ?_
  refine defined_session.bind session_spec fun sess' => ?_
  apply Defined.forall_start
  intro st hst
  obtain ⟨⟨rfl, hfr⟩, rfl⟩ := hst
  obtain rfl : cur = fr := Option.some.inj (hcur.symm.trans hfr)
  refine Defined.ite (fun _ => .pure) fun _ => Defined.ite (fun _ => ?_) fun hauth => ?_
  · refine ((@defined_consumenonsnac client i cur.ptr 0x0017 0x0003 (by decide)).conseq fun _ hst =>
      here_of_start hcur hmods hst).bind (fun _ _ _ _ _ => trivial) fun _ => .pure
  · cases hread : aimReadtlvchain cur.data with
    | none => exact absurd hread (h hauth)
    | some res =>
      refine (defined_setData res.2).bind (fun _ _ _ _ _ => trivial) fun _ => ?_
      split
      · exact .pure
      · exact .pure
      · exact defined_call _

/-- A turn has a result unless a null handler is called in it or it hangs. -/
theorem defined_rxdispatchFrame (hclient : client.Calls ok)
    (hcur : sess.queueIncoming[i]? = some cur) (hmods : sess.modlistv = aimModlist)
    (hnull : ¬ NullSnac sess cur) (hhangs : ¬ ConnerrHangs sess cur) :
    Defined (· = (sess, [])) (rxdispatchFrame client i cur) := by
  refine defined_session.bind session_spec fun sess' => ?_
  apply Defined.forall_start
  intro st hst
  obtain ⟨hst, rfl⟩ := hst
  obtain rfl : st = (sess, []) := hst
  refine Defined.ite (fun _ => .pure) fun hhandled => ?_
  refine Defined.ite (fun _ => defined_setHandled 1) fun hmatch => ?_
  refine Defined.ite (fun _ => defined_setHandled 1) fun hrend => ?_
  refine Defined.ite (fun _ => defined_setHandled 1) fun hrendOut => ?_
  have hlast : Defined (· = (sess, [])) (lastChance client i) :=
    (defined_lastChance hclient).conseq fun _ => here_of_start hcur hmods
  refine Defined.ite (fun _ => ?_) fun _ => ?_
  · exact (defined_aimCallhandlerNoparam hcur hmods).bind (fun _ _ _ _ _ => trivial) fun _ =>
      defined_setHandled _
  refine Defined.ite (fun h2 => ?_) fun _ => ?_
  · have hflap : cur.hdr.isFlap := by
      by_contra hoft
      exact hmatch (Or.inl ⟨hoft, hrend⟩)
    have hcons : Defined (· = (sess, [])) (consumesnac client i) :=
      defined_consumesnac hcur hmods fun hlong hfamily =>
        hnull ⟨not_not.mp hhandled, hflap, hrend, hrendOut, h2, hlong, hfamily⟩
    have hhere : Triple (· = (sess, [])) (consumesnac client i) fun _ st =>
        Here aimModlist i cur.ptr st.1 :=
      ((here_stable hclient).consumesnac).conseq (fun _ => here_of_start hcur hmods)
        fun _ _ h => h
    refine hcons.bind hhere fun ret => ?_
    refine (defined_setHandled ret).bind ((here_stable hclient).setHandled ret) fun _ => ?_
    exact Defined.ite (fun _ => .pure) fun _ => defined_lastChance hclient
  refine Defined.ite (fun h4 => ?_) fun _ => hlast
  refine (defined_negchanMiddle hcur hmods ?_).bind (fun _ _ _ _ _ => trivial) fun _ =>
    defined_setHandled _
  exact fun hauth hread => hhangs ⟨h4, hauth, hread⟩

/-- The SNAC of a family without a handler goes through a null pointer. -/
theorem consumesnac_eq_none (hcur : sess.queueIncoming[i]? = some cur)
    (hmods : sess.modlistv = aimModlist) (hlong : 10 ≤ aimBstreamEmpty cur.data)
    (hfamily : NullFamily (getModsnac cur.data).1.family) :
    consumesnac client i (sess, []) = none := by
  have hframe : RxM.frame i (sess, []) = some (cur, sess, []) := congrArg (Option.map _) hcur
  unfold consumesnac
  rw [bind_eq_of_some hframe, if_neg (Nat.not_lt.mpr hlong)]
  generalize getModsnac cur.data = res at hfamily ⊢
  obtain ⟨snac, data⟩ := res
  dsimp only at hfamily ⊢
  rw [bind_eq_of_some (show RxM.setData i data (sess, []) = some ((), _, []) from rfl),
    bind_eq_of_some (show RxM.session (_, []) = some (_, _, []) from rfl)]
  apply (consumeLoop_eq_none_iff _ _).mpr
  show NullReached _ _ _ sess.modlistv
  rw [hmods]
  exact nullReached_of_nullFamily hfamily

theorem rxdispatchFrame_eq_none (hcur : sess.queueIncoming[i]? = some cur)
    (hmods : sess.modlistv = aimModlist) (h : NullSnac sess cur) :
    rxdispatchFrame client i cur (sess, []) = none := by
  obtain ⟨hhandled, hflap, hrend, hrendOut, h2, hlong, hfamily⟩ := h
  unfold rxdispatchFrame
  rw [bind_eq_of_some (show RxM.session (sess, []) = some (sess, sess, []) from rfl)]
  have hmatch : ¬ ((¬ cur.hdr.isFlap ∧ (sess.conn cur.conn).type ≠ aimConnTypeRendezvous) ∨
      (cur.hdr.isFlap ∧ (sess.conn cur.conn).type = aimConnTypeRendezvous)) :=
    not_or.mpr ⟨fun hoft => hoft.1 hflap, fun h => hrend h.2⟩
  have h1 : cur.hdr.flapType ≠ 0x01 := by
    rw [h2]
    decide
  rw [if_neg (not_not.mpr hhandled), if_neg hmatch, if_neg hrend, if_neg hrendOut, if_neg h1,
    if_pos h2]
  exact bind_eq_none (consumesnac_eq_none hcur hmods hlong hfamily)

end Defined

/-! ## Dispatch in a session -/

/-- No module is registered or taken away after `aim_session_init`. -/
theorem Run.modlistv {ok : Guard} {mods : List AimModule} {s : AimSession}
    (h : Run ok (aimSessionInit mods) s) : s.modlistv = mods :=
  h.inv (P := fun s => s.modlistv = mods)
    (fun _ _ hstep hs => (hstep.grown fun _ => False).modlistv.trans hs) (fun _ _ hs => hs) rfl

/-- No null handler is called in the turn of the frame: either it has a result, or it never comes
to an end of the TLVs of a connection error. -/
def SafelyDispatched (client : Client) (sess : AimSession) (i : Nat) (cur : AimFrame) : Prop :=
  rxdispatchFrame client i cur (sess, []) ≠ none ∨ ConnerrHangs sess cur

/-- In a session of the library no null handler is called in the turn of a frame, unless the frame
is a SNAC of the families of `invite` or `translate`. -/
theorem safelyDispatched_iff {client : Client} {sess : AimSession} {i : Nat} {cur : AimFrame}
    (hrun : Run Guard.any (aimSessionInit aimModlist) sess) (hclient : client.Calls Guard.any)
    (hcur : sess.queueIncoming[i]? = some cur) :
    SafelyDispatched client sess i cur ↔ ¬ NullSnac sess cur := by
  constructor
  · intro hsafe hnull
    cases hsafe with
    | inl hsome => exact hsome (rxdispatchFrame_eq_none hcur hrun.modlistv hnull)
    | inr hhangs =>
      obtain ⟨-, -, -, -, h2, -⟩ := hnull
      obtain ⟨h4, -⟩ := hhangs
      rw [h2] at h4
      revert h4
      decide
  · intro hnull
    by_cases hhangs : ConnerrHangs sess cur
    · exact Or.inr hhangs
    · exact Or.inl (defined_rxdispatchFrame hclient hcur hrun.modlistv hnull hhangs _ rfl)

section Example

/-- A session whose only connection has received one SNAC. -/
def snacSession (family : UInt8) : AimSession :=
  let sess := (aimNewconn (aimSessionInit aimModlist) aimConnTypeBos (.connected 3 0)).2
  (aimGetCommand .done id (fun sess => (0, sess)) sess 1
    [[0x2a, 0x02, 0, 0, 0, 0x0a], [0, family, 0, 0x02, 0, 0, 0, 0, 0, 0x01]]).2.1

theorem snacSession_run (ok : Guard) (family : UInt8) :
    Run ok (aimSessionInit aimModlist) (snacSession family) := by
  refine .calls (.refl _) (.getCommand _ _ (.newconn _ _ (.refl _)) ?_ (.refl _) (.refl _))
  exact List.mem_singleton_self 1

/-- A client whose handlers take nothing. -/
def decliningClient : Client where
  ret := fun _ => 0
  effect := fun _ sess => sess

theorem decliningClient_calls (ok : Guard) : decliningClient.Calls ok := fun _ _ => .refl _

/-- A SNAC of family 1. -/
theorem safelyDispatched_general :
    ∃ cur, (snacSession 1).queueIncoming[0]? = some cur ∧
      SafelyDispatched decliningClient (snacSession 1) 0 cur := by
  refine ⟨(snacSession 1).queueIncoming[0], rfl, ?_⟩
  apply (safelyDispatched_iff (snacSession_run _ 1) (decliningClient_calls _) rfl).mpr
  decide

/-- A SNAC of family 6, the first frame a session receives. -/
theorem not_safelyDispatched_invite :
    ¬ ∀ sess, Run Guard.any (aimSessionInit aimModlist) sess →
      ∀ client : Client, client.Calls Guard.any → ∀ i cur, sess.queueIncoming[i]? = some cur →
        SafelyDispatched client sess i cur := by
  intro h
  have hsafe := h (snacSession 6) (snacSession_run _ 6) decliningClient (decliningClient_calls _) 0
    (snacSession 6).queueIncoming[0] rfl
  have hnull : NullSnac (snacSession 6) (snacSession 6).queueIncoming[0] := by decide
  cases hsafe with
  | inl hsome => exact hsome (rxdispatchFrame_eq_none rfl (snacSession_run .any 6).modlistv hnull)
  | inr hhangs =>
    have h4 : (snacSession 6).queueIncoming[0].hdr.flapType = 0x04 := hhangs.1
    revert h4
    decide

end Example

end Libfaim
