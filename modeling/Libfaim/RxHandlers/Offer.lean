import Libfaim.RxQueue.Frames

/-!
# What the turn of a frame comes to

A frame that is not handled yet is offered to its handlers (`candidates`) one after the other, until
one takes it by returning something other than zero (`offer`); this is all `aim_rxdispatch` does
with it (`rxdispatchFrame_spec`). After that the frame carries a mark, except on channels 1 and 4,
where the mark is the low byte of what was returned (`Settles`).
-/

namespace Libfaim

open Hoare

/-! ## Offering -/

/-- The calls that are made, with what they return. -/
def offer (ret : RxCall → Int) : List RxCall → List (RxCall × Int)
  | [] => []
  | c :: next => if ret c ≠ 0 then [(c, ret c)] else (c, ret c) :: offer ret next

/-- One of the handlers takes the frame. -/
def Taken (ret : RxCall → Int) (cs : List RxCall) : Prop := ∃ c ∈ cs, ret c ≠ 0

section Offer

variable {ret : RxCall → Int} {c : RxCall} {cs cs' : List RxCall}

theorem offer_eq_nil_iff : offer ret cs = [] ↔ cs = [] := by
  cases cs with
  | nil => exact ⟨fun _ => rfl, fun _ => rfl⟩
  | cons c next =>
    unfold offer
    split <;> simp

theorem taken_cons : Taken ret (c :: cs) ↔ ret c ≠ 0 ∨ Taken ret cs := by
  simp only [Taken, List.mem_cons, exists_eq_or_imp]

theorem offer_append_of_taken (h : Taken ret cs) : offer ret (cs ++ cs') = offer ret cs := by
  induction cs with
  | nil => exact absurd h fun ⟨_, hmem, _⟩ => List.not_mem_nil hmem
  | cons c next ih =>
    rw [List.cons_append, offer, offer]
    by_cases hret : ret c ≠ 0
    · rw [if_pos hret, if_pos hret]
    · rw [if_neg hret, if_neg hret, ih ((taken_cons.mp h).resolve_left hret)]

theorem offer_append_of_not_taken (h : ¬ Taken ret cs) :
    offer ret (cs ++ cs') = offer ret cs ++ offer ret cs' := by
  induction cs with
  | nil => rfl
  | cons c next ih =>
    obtain ⟨hret, hnext⟩ := not_or.mp fun hor => h (taken_cons.mpr hor)
    rw [List.cons_append, offer, offer, if_neg hret, if_neg hret, ih hnext]
    rfl

end Offer

/-! ## The handlers of a frame -/

/-- The modules that are given the frames of a family. -/
def moduleCalls (mkCall : AimModule → RxCall) (family : UInt16) (mods : List AimModule) :
    List RxCall :=
  (mods.filter fun mod => mod.Takes family).map mkCall

/-- The modules that are given a frame that is not a SNAC. -/
def nonsnacCalls (ptr : Nat) (family subtype : UInt16) (mods : List AimModule) : List RxCall :=
  moduleCalls (.nonsnac · ptr ⟨family, subtype, 0, 0⟩) family mods

/-- The modules that are given a frame for the SNAC at its beginning. -/
def snacCalls (cur : AimFrame) (mods : List AimModule) : List RxCall :=
  if aimBstreamEmpty cur.data < 10 then []
  else
    let snac := (getModsnac cur.data).1
    moduleCalls (.snac · cur.ptr snac) snac.family mods

/-- A callback of the client. -/
def callbackCalls (mkCall : Nat → RxCall) : Option AimRxcallback → List RxCall
  | some (.client func) => [mkCall func]
  | some .bleck => []
  | none => []

def negchanCalls (sess : AimSession) (cur : AimFrame) : List RxCall :=
  if aimBstreamEmpty cur.data = 0 then []
  else if (sess.conn cur.conn).type = aimConnTypeAuth then
    nonsnacCalls cur.ptr 0x0017 0x0003 sess.modlistv
  else
    match aimReadtlvchain cur.data with
    | none => []
    | some (tlvlist, _) =>
      callbackCalls (connerrCall · cur.ptr tlvlist)
        (aimCallhandler sess cur.conn aimCbFamSpecial aimCbSpecialConnerr)

/-- The handlers a frame is for, in the order in which it is offered to them. -/
def candidates (sess : AimSession) (cur : AimFrame) : List RxCall :=
  let type := (sess.conn cur.conn).type
  if ¬ cur.hdr.isFlap ∨ type = aimConnTypeRendezvous ∨ type = aimConnTypeRendezvousOut then []
  else if cur.hdr.flapType = 0x01 then
    callbackCalls (.flapver · cur.ptr)
      (aimCallhandler sess cur.conn aimCbFamSpecial aimCbSpecialFlapver)
  else if cur.hdr.flapType = 0x02 then
    snacCalls cur sess.modlistv ++ nonsnacCalls cur.ptr 0xffff 0xffff sess.modlistv
  else if cur.hdr.flapType = 0x04 then negchanCalls sess cur
  else nonsnacCalls cur.ptr 0xffff 0xffff sess.modlistv

/-- What the call returned is not taken for "not handled": a module returns something other than
zero, a callback something whose low byte is not zero. -/
def RxCall.Settled (r : Int) : RxCall → Prop
  | flapver _ _ => UInt8.ofInt r ≠ 0
  | connerr _ _ _ _ => UInt8.ofInt r ≠ 0
  | snac _ _ _ => r ≠ 0
  | nonsnac _ _ _ => r ≠ 0

theorem RxCall.settled_one (c : RxCall) : c.Settled 1 := by
  cases c with
  | flapver func frame => exact (by decide : (1 : UInt8) ≠ 0)
  | snac mod frame snac => exact Int.one_ne_zero
  | nonsnac mod frame snac => exact Int.one_ne_zero
  | connerr func frame code msg => exact (by decide : (1 : UInt8) ≠ 0)

/-- Unless the frame has no handlers, one of them settles it. Frames of the other channels are
settled in any case. -/
def Settles (client : Client) (sess : AimSession) (cur : AimFrame) : Prop :=
  (cur.hdr.flapType = 0x01 ∨ cur.hdr.flapType = 0x04) → candidates sess cur ≠ [] →
    ∃ c ∈ candidates sess cur, c.Settled (client.ret c)

/-- A client whose handlers settle whatever they are given. -/
theorem settles_of_forall {client : Client} (h : ∀ c : RxCall, c.Settled (client.ret c))
    (sess : AimSession) (cur : AimFrame) : Settles client sess cur := by
  intro _ hne
  obtain ⟨c, hc⟩ := List.exists_mem_of_ne_nil _ hne
  exact ⟨c, hc, h c⟩

/-! ## The functions called during a turn -/

/-- The `i`-th frame is still in its place, and the modules are the same. -/
def Here (mods : List AimModule) (i ptr : Nat) (sess : AimSession) : Prop :=
  sess.modlistv = mods ∧ ∃ cur, sess.queueIncoming[i]? = some cur ∧ cur.ptr = ptr

/-- The `i`-th frame carries the mark. -/
def MarkIs (i : Nat) (v : UInt8) (sess : AimSession) : Prop :=
  ∃ cur, sess.queueIncoming[i]? = some cur ∧ cur.handled = v

section Turn

variable {client : Client} {i ptr : Nat} {mods : List AimModule} {calls : List (RxCall × Int)}

theorem Here.of_grown {s t : AimSession} {exempt : Nat → Prop} (h : Here mods i ptr s)
    (hgrown : Grown exempt s t) : Here mods i ptr t := by
  obtain ⟨hmods, cur, hcur, hptr⟩ := h
  obtain ⟨cur', hcur', hlater⟩ := hgrown.kept i cur hcur
  exact ⟨hgrown.modlistv.trans hmods, cur', hcur', hlater.ptr.trans hptr⟩

/-- The dispatcher changes the frame whose turn it is, data and mark. -/
theorem modifyFrame_grown {s : AimSession} (i : Nat) {f : AimFrame → AimFrame}
    (hf : ∀ cur, (f cur).ptr = cur.ptr ∧ (f cur).hdr = cur.hdr ∧ (f cur).conn = cur.conn) :
    Grown (· = i) s (s.modifyFrame i f) :=
  .modifyFrame fun cur => ⟨(hf cur).1, (hf cur).2.1, (hf cur).2.2, fun hne => absurd rfl hne⟩

/-- Handlers make calls, and no call takes the frame out of its place. -/
theorem here_stable {ok : Guard} (hclient : client.Calls ok) :
    Stable client i fun st => Here mods i ptr st.1 := by
  refine ⟨fun s _ data h => ?_, fun s _ v h => ?_, fun s _ c h => ?_⟩
  · exact h.of_grown (modifyFrame_grown i fun _ => ⟨rfl, rfl, rfl⟩)
  · exact h.of_grown (modifyFrame_grown i fun _ => ⟨rfl, rfl, rfl⟩)
  · exact h.of_grown (hclient.grown (· = i) c s)

theorem frame_spec {P : AimSession × List (RxCall × Int) → Prop} (i : Nat) :
    Triple P (RxM.frame i) fun cur st => P st ∧ st.1.queueIncoming[i]? = some cur := by
  rintro ⟨sess, calls⟩ a t hP h
  obtain ⟨cur, hcur, heq⟩ := Option.map_eq_some_iff.mp h
  obtain ⟨rfl, rfl⟩ := Prod.mk.inj heq
  exact ⟨hP, hcur⟩

theorem session_spec {P : AimSession × List (RxCall × Int) → Prop} :
    Triple P RxM.session fun sess st => P st ∧ sess = st.1 := by
  rintro ⟨sess, calls⟩ a t hP h
  obtain ⟨rfl, rfl⟩ := Prod.mk.inj (Option.some.inj h)
  exact ⟨hP, rfl⟩

theorem call_spec (calls : List (RxCall × Int)) (c : RxCall) :
    Triple (fun st => st.2 = calls) (RxM.call client c) fun r st =>
      st.2 = calls ++ [(c, client.ret c)] ∧ r = client.ret c := by
  rintro ⟨sess, calls'⟩ a t hP h
  obtain ⟨rfl, rfl⟩ := Prod.mk.inj (Option.some.inj h)
  exact ⟨congrArg (· ++ [(c, client.ret c)]) hP, rfl⟩

theorem consumeLoop_offers (mkCall : AimModule → RxCall) (family : UInt16) (mods : List AimModule) :
    Triple (fun st => st.2 = calls) (consumeLoop client mkCall family mods) fun r st =>
      st.2 = calls ++ offer client.ret (moduleCalls mkCall family mods) ∧
        (r ≠ 0 ↔ Taken client.ret (moduleCalls mkCall family mods)) := by
  induction mods generalizing calls with
  | nil =>
    refine Triple.pure fun st hst => ⟨by rw [hst]; exact (List.append_nil _).symm, ?_⟩
    simp [moduleCalls, Taken]
  | cons cur next ih =>
    refine Triple.ite (fun hskip => ?_) fun htakes => Triple.ite (fun _ => ?_) fun _ => ?_
    · have hnext : moduleCalls mkCall family (cur :: next) = moduleCalls mkCall family next := by
        rw [moduleCalls, List.filter_cons_of_neg (by simpa using hskip)]
        rfl
      exact hnext ▸ ih
    · exact Triple.none fun _ => rfl
    · have hnext : moduleCalls mkCall family (cur :: next) =
          mkCall cur :: moduleCalls mkCall family next := by
        rw [moduleCalls, List.filter_cons_of_pos (by simpa using htakes)]
        rfl
      rw [hnext, offer, taken_cons]
      refine Triple.bind (call_spec calls (mkCall cur)) fun r => ?_
      refine Triple.ite (fun hr => ?_) fun hr => ?_
      · refine Triple.pure fun st hst => ?_
        obtain ⟨hcalls, rfl⟩ := hst
        rw [if_pos hr, hcalls]
        exact ⟨rfl, fun _ => Or.inl hr, fun _ => by decide⟩
      · refine Triple.forall_start fun st hst => ?_
        obtain ⟨hcalls, rfl⟩ := hst
        rw [if_neg hr]
        refine Triple.conseq (@ih (calls ++ [(mkCall cur, client.ret (mkCall cur))]))
          (fun st hst => hst ▸ hcalls) fun r st hst => ?_
        refine ⟨by rw [hst.1, List.append_assoc]; rfl, hst.2.trans ?_⟩
        exact ⟨Or.inr, fun h => h.resolve_left hr⟩

theorem setData_spec (data : AimBstream) :
    Triple (fun st => Here mods i ptr st.1 ∧ st.2 = calls) (RxM.setData i data) fun _ st =>
      Here mods i ptr st.1 ∧ st.2 = calls := by
  rintro ⟨sess, calls'⟩ a t ⟨hhere, hcalls⟩ h
  obtain ⟨-, rfl⟩ := Prod.mk.inj (Option.some.inj h)
  exact ⟨hhere.of_grown (modifyFrame_grown i fun _ => ⟨rfl, rfl, rfl⟩), hcalls⟩

theorem setHandled_spec (v : UInt8) :
    Triple (fun st => Here mods i ptr st.1 ∧ st.2 = calls) (RxM.setHandled i v) fun _ st =>
      (Here mods i ptr st.1 ∧ st.2 = calls) ∧ MarkIs i v st.1 := by
  rintro ⟨sess, calls'⟩ a t ⟨hhere, hcalls⟩ h
  obtain ⟨-, rfl⟩ := Prod.mk.inj (Option.some.inj h)
  refine ⟨⟨hhere.of_grown (modifyFrame_grown i fun _ => ⟨rfl, rfl, rfl⟩), hcalls⟩, ?_⟩
  obtain ⟨-, cur, hcur, -⟩ := hhere
  exact ⟨{ cur with handled := v },
    (List.getElem?_modify_eq _ i _).trans (congrArg _ hcur), rfl⟩

variable {ok : Guard}

theorem consumeLoop_spec (hclient : client.Calls ok) (mkCall : AimModule → RxCall)
    (family : UInt16) (mods' : List AimModule) :
    Triple (fun st => Here mods i ptr st.1 ∧ st.2 = calls) (consumeLoop client mkCall family mods')
      fun r st => (Here mods i ptr st.1 ∧
        st.2 = calls ++ offer client.ret (moduleCalls mkCall family mods')) ∧
          (r ≠ 0 ↔ Taken client.ret (moduleCalls mkCall family mods')) := by
  have hkeeps : Keeps (fun st => Here mods i ptr st.1) (consumeLoop client mkCall family mods') :=
    (here_stable hclient).consumeLoop mkCall family mods'
  refine ((hkeeps.conseq (fun _ h => h.1) fun _ _ h => h).and
    ((consumeLoop_offers mkCall family mods').conseq (fun _ h => h.2) fun _ _ h => h)).conseq
      (fun _ h => h) fun r st h => ?_
  exact ⟨⟨h.1, h.2.1⟩, h.2.2⟩

theorem consumenonsnac_offers (hclient : client.Calls ok) (family subtype : UInt16) :
    Triple (fun st => Here mods i ptr st.1 ∧ st.2 = calls) (consumenonsnac client i family subtype)
      fun r st => (Here mods i ptr st.1 ∧
        st.2 = calls ++ offer client.ret (nonsnacCalls ptr family subtype mods)) ∧
          (r ≠ 0 ↔ Taken client.ret (nonsnacCalls ptr family subtype mods)) := by
  refine Triple.bind (frame_spec i) fun rx => Triple.bind session_spec fun sess => ?_
  refine Triple.forall_start fun st hst => ?_
  obtain ⟨⟨⟨hhere, hcalls⟩, hrx⟩, rfl⟩ := hst
  obtain ⟨rfl, cur, hcur, rfl⟩ := id hhere
  obtain rfl : cur = rx := Option.some.inj (hcur.symm.trans hrx)
  refine (consumeLoop_spec hclient _ family _).conseq (fun st' h => ?_) fun _ _ h => h
  subst h
  exact ⟨hhere, hcalls⟩

theorem consumesnac_offers (hclient : client.Calls ok) {cur : AimFrame} :
    Triple (fun st => (Here mods i cur.ptr st.1 ∧ st.2 = calls) ∧
        st.1.queueIncoming[i]? = some cur) (consumesnac client i)
      fun r st => (Here mods i cur.ptr st.1 ∧
        st.2 = calls ++ offer client.ret (snacCalls cur mods)) ∧
          (r ≠ 0 ↔ Taken client.ret (snacCalls cur mods)) := by
  refine Triple.bind (frame_spec i) fun rx => ?_
  refine Triple.forall_start fun st hst => ?_
  obtain ⟨⟨⟨hhere, hcalls⟩, hcur⟩, hrx⟩ := hst
  obtain rfl : cur = rx := Option.some.inj (hcur.symm.trans hrx)
  refine Triple.ite (fun hshort => ?_) fun hlong => ?_
  · rw [snacCalls, if_pos hshort]
    refine Triple.pure fun st' hst' => ?_
    subst hst'
    exact ⟨⟨hhere, hcalls.trans (List.append_nil _).symm⟩, by simp [Taken]⟩
  · rw [snacCalls, if_neg hlong]
    rcases getModsnac cur.data with ⟨snac, data⟩
    dsimp only
    refine Triple.bind ((@setData_spec i cur.ptr mods calls _).conseq
      (fun _ h => h ▸ ⟨hhere, hcalls⟩) fun _ _ h => h) fun _ => ?_
    refine Triple.bind session_spec fun sess => Triple.forall_start fun st' hst' => ?_
    obtain ⟨⟨hhere', hcalls'⟩, rfl⟩ := hst'
    obtain ⟨hmods, -⟩ := id hhere'
    rw [hmods]
    refine (consumeLoop_spec hclient _ _ _).conseq (fun st'' h => ?_) fun _ _ h => h
    subst h
    exact ⟨hhere', hcalls'⟩

theorem lastChance_offers (hclient : client.Calls ok) :
    Triple (fun st => (Here mods i ptr st.1 ∧ st.2 = calls) ∧ MarkIs i 0 st.1) (lastChance client i)
      fun _ st => (Here mods i ptr st.1 ∧
        st.2 = calls ++ offer client.ret (nonsnacCalls ptr 0xffff 0xffff mods)) ∧
          MarkIs i 1 st.1 := by
  refine Triple.bind (frame_spec i) fun cur => Triple.ite (fun _ => ?_) fun hmark => ?_
  · refine Triple.bind (((consumenonsnac_offers hclient 0xffff 0xffff)).conseq
      (fun _ h => h.1.1) fun _ _ h => h.1) fun _ => setHandled_spec 1
  · refine Triple.pure fun st hst => ?_
    obtain ⟨⟨-, cur', hcur', hzero⟩, hcur⟩ := hst
    obtain rfl := Option.some.inj (hcur'.symm.trans hcur)
    exact absurd hzero hmark

/-! ## Channels 1 and 4 -/

/-- The frame was offered to `cs`, and `r` tells whether one of them settled it. -/
def Returns (client : Client) (mods : List AimModule) (i ptr : Nat) (cs : List RxCall) (r : Int)
    (st : AimSession × List (RxCall × Int)) : Prop :=
  (Here mods i ptr st.1 ∧ st.2 = offer client.ret cs) ∧
    (cs ≠ [] → (UInt8.ofInt r ≠ 0 ↔ ∃ c ∈ cs, c.Settled (client.ret c)))

theorem returns_nil (r : Int) :
    Triple (fun st => Here mods i ptr st.1 ∧ st.2 = []) (pure r : RxM Int)
      (Returns client mods i ptr []) :=
  Triple.pure fun _ h => ⟨h, fun hne => absurd rfl hne⟩

theorem returns_call (hclient : client.Calls ok) (mkCall : Nat → RxCall)
    (hsettled : ∀ func r, (mkCall func).Settled r ↔ UInt8.ofInt r ≠ 0) (func : Nat) :
    Triple (fun st => Here mods i ptr st.1 ∧ st.2 = []) (RxM.call client (mkCall func))
      (Returns client mods i ptr [mkCall func]) := by
  have hkeeps : Keeps (fun st => Here mods i ptr st.1) (RxM.call client (mkCall func)) :=
    (here_stable hclient).rxCall _
  refine ((hkeeps.conseq (fun _ h => h.1) fun _ _ h => h).and
    ((call_spec [] (mkCall func)).conseq (fun _ h => h.2) fun _ _ h => h)).conseq
      (fun _ h => h) fun r st h => ?_
  obtain ⟨hhere, hcalls, rfl⟩ := h
  refine ⟨⟨hhere, ?_⟩, fun _ => ?_⟩
  · rw [hcalls, offer, offer]
    split <;> rfl
  · rw [← hsettled func]
    simp only [List.mem_singleton, exists_eq_left]

theorem settled_of_mem_nonsnacCalls {family subtype : UInt16} {c : RxCall} {r : Int}
    (h : c ∈ nonsnacCalls ptr family subtype mods) : c.Settled r ↔ r ≠ 0 := by
  obtain ⟨mod, -, rfl⟩ := List.mem_map.mp h
  rfl

theorem ofInt_toNat (r : UInt8) : UInt8.ofInt r.toNat = r := by
  have hmod : ((r.toNat : Int) % 2 ^ 8).toNat = r.toNat := by
    have hlt := r.toNat_lt
    omega
  rw [UInt8.ofInt, hmod, UInt8.ofNat_toNat]

theorem aimCallhandlerNoparam_returns (hclient : client.Calls ok) {sess : AimSession}
    {cur : AimFrame} (hcur : sess.queueIncoming[i]? = some cur) :
    Triple (fun st => st = (sess, [])) (aimCallhandlerNoparam client i)
      (Returns client sess.modlistv i cur.ptr (callbackCalls (.flapver · cur.ptr)
        (aimCallhandler sess cur.conn aimCbFamSpecial aimCbSpecialFlapver))) := by
  refine Triple.bind (frame_spec i) fun rx => Triple.bind session_spec fun sess' => ?_
  refine Triple.forall_start fun st hst => ?_
  obtain ⟨⟨rfl, hrx⟩, hsess⟩ := hst
  obtain rfl : sess = sess' := hsess.symm
  obtain rfl : cur = rx := Option.some.inj (hcur.symm.trans hrx)
  have hpre : ∀ st : AimSession × List (RxCall × Int), st = (sess, []) →
      Here sess.modlistv i cur.ptr st.1 ∧ st.2 = [] := by
    rintro _ rfl
    exact ⟨⟨rfl, cur, hcur, rfl⟩, rfl⟩
  cases aimCallhandler sess cur.conn aimCbFamSpecial aimCbSpecialFlapver with
  | none => exact (returns_nil 1).conseq hpre fun _ _ h => h
  | some handler =>
    cases handler with
    | bleck => exact (returns_nil 1).conseq hpre fun _ _ h => h
    | client func =>
      exact (returns_call hclient (.flapver · cur.ptr) (fun _ _ => Iff.rfl) func).conseq
        hpre fun _ _ h => h

theorem negchanMiddle_returns (hclient : client.Calls ok) {sess : AimSession} {cur : AimFrame}
    (hcur : sess.queueIncoming[i]? = some cur) :
    Triple (fun st => st = (sess, [])) (negchanMiddle client i)
      (Returns client sess.modlistv i cur.ptr (negchanCalls sess cur)) := by
  refine Triple.bind (frame_spec i) fun rx => Triple.bind session_spec fun sess' => ?_
  refine Triple.forall_start fun st hst => ?_
  obtain ⟨⟨rfl, hrx⟩, hsess⟩ := hst
  obtain rfl : sess = sess' := hsess.symm
  obtain rfl : cur = rx := Option.some.inj (hcur.symm.trans hrx)
  have hpre : ∀ st : AimSession × List (RxCall × Int), st = (sess, []) →
      Here sess.modlistv i cur.ptr st.1 ∧ st.2 = [] := by
    rintro _ rfl
    exact ⟨⟨rfl, cur, hcur, rfl⟩, rfl⟩
  unfold negchanCalls
  refine Triple.ite (fun hempty => ?_) fun hempty => Triple.ite (fun hauth => ?_) fun hauth => ?_
  · rw [if_pos hempty]
    exact (returns_nil 1).conseq hpre fun _ _ h => h
  · rw [if_neg hempty, if_pos hauth]
    refine Triple.bind ((consumenonsnac_offers hclient 0x0017 0x0003).conseq hpre fun _ _ h => h)
      fun r => Triple.pure fun st hst => ?_
    obtain ⟨⟨hhere, hcalls⟩, hret⟩ := hst
    refine ⟨⟨hhere, hcalls⟩, fun _ => ?_⟩
    rw [ofInt_toNat, hret, Taken]
    refine exists_congr fun c => and_congr_right fun hc => ?_
    exact (settled_of_mem_nonsnacCalls hc).symm
  · rw [if_neg hempty, if_neg hauth]
    cases aimReadtlvchain cur.data with
    | none => exact Triple.none fun _ => rfl
    | some res =>
      obtain ⟨tlvlist, data⟩ := res
      refine Triple.bind ((setData_spec data).conseq hpre fun _ _ h => h) fun _ => ?_
      cases aimCallhandler sess cur.conn aimCbFamSpecial aimCbSpecialConnerr with
      | none => exact returns_nil 1
      | some handler =>
        cases handler with
        | bleck => exact returns_nil 1
        | client func =>
          exact returns_call hclient (connerrCall · cur.ptr tlvlist)
            (fun _ _ => Iff.rfl) func

/-- The low byte of what was returned becomes the mark. -/
theorem setHandled_of_returns (cs : List RxCall) (r : Int) :
    Triple (Returns client mods i ptr cs r) (RxM.setHandled i (UInt8.ofInt r)) fun _ st =>
      st.2 = offer client.ret cs ∧ ∃ v, MarkIs i v st.1 ∧
        (cs ≠ [] → (v ≠ 0 ↔ ∃ c ∈ cs, c.Settled (client.ret c))) := by
  refine Triple.forall_start fun st hst => ?_
  obtain ⟨hpre, hsettled⟩ := hst
  have hset : Triple (fun st' => Here mods i ptr st'.1 ∧ st'.2 = offer client.ret cs)
      (RxM.setHandled i (UInt8.ofInt r)) _ := setHandled_spec _
  refine hset.conseq (fun st' h => ?_) fun _ st' h => ⟨h.1.2, _, h.2, hsettled⟩
  subst h
  exact hpre

/-! ## The whole turn -/

/-- The calls made are those of the offer. Where there are any, the mark `v` on the frame tells
whether it was settled. -/
def TurnEnds (client : Client) (sess : AimSession) (i : Nat) (cur : AimFrame)
    (st : AimSession × List (RxCall × Int)) : Prop :=
  st.2 = offer client.ret (candidates sess cur) ∧
    ∃ v, MarkIs i v st.1 ∧ (candidates sess cur ≠ [] → (v ≠ 0 ↔ Settles client sess cur))

/-- Channels 1 and 4. -/
theorem turnEnds_of_settled {sess : AimSession} {cur : AimFrame}
    (hchannel : cur.hdr.flapType = 0x01 ∨ cur.hdr.flapType = 0x04) {x : RxM Int}
    (hx : Triple (fun st => st = (sess, [])) x
      (Returns client sess.modlistv i cur.ptr (candidates sess cur))) :
    Triple (fun st => st = (sess, [])) (do let r ← x; RxM.setHandled i (UInt8.ofInt r))
      fun _ => TurnEnds client sess i cur := by
  refine Triple.bind hx fun r => (setHandled_of_returns _ r).conseq (fun _ h => h) fun _ st h => ?_
  obtain ⟨hcalls, v, hmark, hsettled⟩ := h
  refine ⟨hcalls, v, hmark, fun hne => (hsettled hne).trans ?_⟩
  exact ⟨fun h _ _ => h, fun h => h hchannel hne⟩

/-- The other channels. -/
theorem turnEnds_of_marked {sess : AimSession} {cur : AimFrame}
    {st : AimSession × List (RxCall × Int)} {v : UInt8}
    (hchannel : ¬ (cur.hdr.flapType = 0x01 ∨ cur.hdr.flapType = 0x04))
    (hcalls : st.2 = offer client.ret (candidates sess cur)) (hmark : MarkIs i v st.1)
    (hv : v ≠ 0) : TurnEnds client sess i cur st :=
  ⟨hcalls, v, hmark, fun _ => ⟨fun _ h => absurd h hchannel, fun _ => hv⟩⟩

/-- A frame that is not handled is offered to its handlers. Where there are any, it carries a mark
afterwards if and only if it was settled. -/
theorem rxdispatchFrame_spec (hclient : client.Calls ok) {sess : AimSession} {cur : AimFrame}
    (hcur : sess.queueIncoming[i]? = some cur) (hhandled : cur.handled = 0) :
    Triple (fun st => st = (sess, [])) (rxdispatchFrame client i cur) fun _ =>
      TurnEnds client sess i cur := by
  have hpre : ∀ st : AimSession × List (RxCall × Int), st = (sess, []) →
      (Here sess.modlistv i cur.ptr st.1 ∧ st.2 = []) ∧ MarkIs i 0 st.1 := by
    rintro _ rfl
    exact ⟨⟨⟨rfl, cur, hcur, rfl⟩, rfl⟩, cur, hcur, hhandled⟩
  refine Triple.bind session_spec fun sess' => Triple.forall_start fun st hst => ?_
  obtain ⟨rfl, hsess⟩ := hst
  obtain rfl : sess = sess' := hsess.symm
  refine Triple.ite (fun h => absurd hhandled h) fun _ => ?_
  by_cases hother : ¬ cur.hdr.isFlap ∨ (sess.conn cur.conn).type = aimConnTypeRendezvous ∨
      (sess.conn cur.conn).type = aimConnTypeRendezvousOut
  · -- a frame without handlers is only marked
    have hnil : candidates sess cur = [] := if_pos hother
    have hmark : Triple (fun st => st = (sess, [])) (RxM.setHandled i 1) fun _ =>
        TurnEnds client sess i cur := by
      refine (setHandled_spec 1).conseq (fun st h => (hpre st h).1) fun _ st h => ?_
      refine ⟨hnil ▸ h.1.2, 1, h.2, fun hne => absurd hnil hne⟩
    refine Triple.ite (fun _ => hmark) fun hmatch => Triple.ite (fun _ => hmark) fun hrend =>
      Triple.ite (fun _ => hmark) fun hrendOut => ?_
    refine absurd hother (not_or.mpr ⟨fun hoft => hmatch (Or.inl ⟨hoft, hrend⟩), ?_⟩)
    exact not_or.mpr ⟨hrend, hrendOut⟩
  · obtain ⟨hflap, hconn⟩ := not_or.mp hother
    obtain ⟨hrend, hrendOut⟩ := not_or.mp hconn
    have hcands : candidates sess cur =
        if cur.hdr.flapType = 0x01 then
          callbackCalls (.flapver · cur.ptr)
            (aimCallhandler sess cur.conn aimCbFamSpecial aimCbSpecialFlapver)
        else if cur.hdr.flapType = 0x02 then
          snacCalls cur sess.modlistv ++ nonsnacCalls cur.ptr 0xffff 0xffff sess.modlistv
        else if cur.hdr.flapType = 0x04 then negchanCalls sess cur
        else nonsnacCalls cur.ptr 0xffff 0xffff sess.modlistv := if_neg hother
    refine Triple.ite (fun hmatch => ?_) fun _ => Triple.ite (fun h => absurd h hrend) fun _ =>
      Triple.ite (fun h => absurd h hrendOut) fun _ => ?_
    · rcases hmatch with ⟨hoft, -⟩ | ⟨-, h⟩
      · exact absurd hoft hflap
      · exact absurd h hrend
    refine Triple.ite (fun h1 => ?_) fun h1 => Triple.ite (fun h2 => ?_) fun h2 =>
      Triple.ite (fun h4 => ?_) fun h4 => ?_
    · refine turnEnds_of_settled (Or.inl h1) ?_
      rw [hcands, if_pos h1]
      exact aimCallhandlerNoparam_returns hclient hcur
    · rw [if_neg h1, if_pos h2] at hcands
      have hchannel : ¬ (cur.hdr.flapType = 0x01 ∨ cur.hdr.flapType = 0x04) := by
        rw [h2]
        decide
      refine Triple.bind ((consumesnac_offers hclient).conseq
        (fun st h => ⟨(hpre st h).1, h ▸ hcur⟩) fun _ _ h => h) fun r => ?_
      refine Triple.forall_start fun st hst => ?_
      obtain ⟨hoffer, htaken⟩ := hst
      refine Triple.bind ((setHandled_spec r).conseq (fun _ h => h ▸ hoffer) fun _ _ h => h)
        fun _ => Triple.ite (fun hr => ?_) fun hr => ?_
      · refine Triple.pure fun st' h => turnEnds_of_marked hchannel ?_ h.2 hr
        rw [h.1.2, hcands, offer_append_of_taken (htaken.mp hr)]
        rfl
      · obtain rfl : r = 0 := not_not.mp hr
        refine (lastChance_offers hclient).conseq (fun _ h => h) fun _ st' h => ?_
        refine turnEnds_of_marked hchannel ?_ h.2 (by decide)
        rw [h.1.2, hcands, offer_append_of_not_taken fun h => hr (htaken.mpr h)]
        rfl
    · refine turnEnds_of_settled (Or.inr h4) ?_
      rw [hcands, if_neg h1, if_neg h2, if_pos h4]
      exact negchanMiddle_returns hclient hcur
    · rw [if_neg h1, if_neg h2, if_neg h4] at hcands
      refine (lastChance_offers hclient).conseq hpre fun _ st h => ?_
      refine turnEnds_of_marked (not_or.mpr ⟨h1, h4⟩) ?_ h.2 (by decide)
      rw [hcands]
      exact h.1.2

/-- A frame that is handled already is passed over. -/
theorem rxdispatchFrame_of_handled {sess : AimSession} {cur : AimFrame} (h : cur.handled ≠ 0) :
    rxdispatchFrame client i cur (sess, []) = some ((), sess, []) := by
  show (if cur.handled ≠ 0 then (pure () : RxM Unit) else _) (sess, []) = _
  rw [if_pos h]
  rfl

/-- During a turn the receive queue grows, and only the frame whose turn it is may lose its
mark. -/
theorem rxdispatchFrame_grown (hclient : client.Calls ok) {sess sess' : AimSession}
    {cur : AimFrame} (h : rxdispatchFrame client i cur (sess, []) = some ((), sess', calls)) :
    Grown (· = i) sess sess' := by
  have hstable : Stable client i fun st => Grown (· = i) sess st.1 :=
    ⟨fun s _ data hs => hs.trans (modifyFrame_grown i fun _ => ⟨rfl, rfl, rfl⟩),
      fun s _ v hs => hs.trans (modifyFrame_grown i fun _ => ⟨rfl, rfl, rfl⟩),
      fun s _ c hs => hs.trans (hclient.grown _ c s)⟩
  exact hstable.rxdispatchFrame cur _ _ _ (.refl _ sess) h

/-- What a turn makes of a frame that is not handled. -/
theorem rxdispatchFrame_unhandled (hclient : client.Calls ok) {sess sess' : AimSession}
    {cur : AimFrame} (hcur : sess.queueIncoming[i]? = some cur) (hhandled : cur.handled = 0)
    (h : rxdispatchFrame client i cur (sess, []) = some ((), sess', calls)) :
    calls = offer client.ret (candidates sess cur) ∧
      ∃ cur', sess'.queueIncoming[i]? = some cur' ∧ cur'.ptr = cur.ptr ∧ cur'.conn = cur.conn ∧
        (candidates sess cur ≠ [] → (cur'.handled ≠ 0 ↔ Settles client sess cur)) := by
  obtain ⟨cur', hcur', hlater⟩ := (rxdispatchFrame_grown hclient h).kept i cur hcur
  obtain ⟨hcalls, v, ⟨cur'', hcur'', rfl⟩, hmark⟩ :=
    rxdispatchFrame_spec hclient hcur hhandled _ _ _ rfl h
  obtain rfl : cur' = cur'' := Option.some.inj (hcur'.symm.trans hcur'')
  exact ⟨hcalls, cur', hcur', hlater.ptr, hlater.conn, hmark⟩

end Turn

end Libfaim
