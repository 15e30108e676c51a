import Libfaim.Lib.Hoare
import Libfaim.RxHandlers

/-!
# Rules for the dispatch of one frame

What a frame's turn may change is given by `Stable`: the frame itself, by the dispatcher, and the
session, by the handlers that are called. A property that both keep holds after the turn
(`Stable.rxdispatchFrame`).

What a turn does to its frame is said by the list of handlers the frame can go to (`candidates`).
They are called one after the other until one takes the frame (`offer`), and the mark on the frame
says afterwards whether it was taken (`rxdispatchFrame_spec`).
-/

namespace Libfaim

open Hoare

/-! ## What a turn may change -/

/-- `P` is kept by the dispatcher working on the `i`-th frame and by the handlers. -/
structure Stable (client : Client) (i : Nat) (P : AimSession × List (RxCall × Int) → Prop) :
    Prop where
  data : ∀ sess calls data, P (sess, calls) →
    P (sess.modifyFrame i fun cur => { cur with data := data }, calls)
  handled : ∀ sess calls v, P (sess, calls) →
    P (sess.modifyFrame i fun cur => { cur with handled := v }, calls)
  call : ∀ sess calls c, P (sess, calls) →
    P (client.effect c sess, calls ++ [(c, client.ret c)])

section Stable

variable {client : Client} {i : Nat} {P : AimSession × List (RxCall × Int) → Prop}

theorem keeps_session : Keeps P RxM.session := by
  rintro ⟨sess, calls⟩ a t hP h
  obtain ⟨rfl, rfl⟩ := Prod.mk.inj (Option.some.inj h)
  exact hP

theorem keeps_frame (i : Nat) : Keeps P (RxM.frame i) := by
  rintro ⟨sess, calls⟩ a t hP h
  obtain ⟨cur, -, hcur⟩ := Option.map_eq_some_iff.mp h
  obtain ⟨rfl, rfl⟩ := Prod.mk.inj hcur
  exact hP

theorem keeps_stuck {α : Type} : Keeps P (RxM.stuck : RxM α) :=
  Triple.none fun _ => rfl

theorem Stable.setData (h : Stable client i P) (data : AimBstream) :
    Keeps P (RxM.setData i data) := by
  rintro ⟨sess, calls⟩ a t hP hx
  obtain ⟨-, rfl⟩ := Prod.mk.inj (Option.some.inj hx)
  exact h.data sess calls data hP

theorem Stable.setHandled (h : Stable client i P) (v : UInt8) :
    Keeps P (RxM.setHandled i v) := by
  rintro ⟨sess, calls⟩ a t hP hx
  obtain ⟨-, rfl⟩ := Prod.mk.inj (Option.some.inj hx)
  exact h.handled sess calls v hP

theorem Stable.rxCall (h : Stable client i P) (c : RxCall) : Keeps P (RxM.call client c) := by
  rintro ⟨sess, calls⟩ a t hP hx
  obtain ⟨-, rfl⟩ := Prod.mk.inj (Option.some.inj hx)
  exact h.call sess calls c hP

theorem Stable.consumeLoop (h : Stable client i P) (mkCall : AimModule → RxCall)
    (family : UInt16) (mods : List AimModule) :
    Keeps P (consumeLoop client mkCall family mods) := by
  induction mods with
  | nil => exact Keeps.pure
  | cons cur next ih =>
    refine Keeps.ite ih (Keeps.ite keeps_stuck ?_)
    exact Keeps.bind (h.rxCall _) fun ret => Keeps.ite Keeps.pure ih

theorem Stable.consumesnac (h : Stable client i P) : Keeps P (consumesnac client i) := by
  refine Keeps.bind (keeps_frame i) fun rx => Keeps.ite Keeps.pure ?_
  refine Keeps.bind (h.setData _) fun _ => Keeps.bind keeps_session fun sess => ?_
  exact h.consumeLoop _ _ _

theorem Stable.consumenonsnac (h : Stable client i P) (family subtype : UInt16) :
    Keeps P (consumenonsnac client i family subtype) :=
  Keeps.bind (keeps_frame i) fun _ => Keeps.bind keeps_session fun _ => h.consumeLoop _ _ _

theorem Stable.negchanMiddle (h : Stable client i P) : Keeps P (negchanMiddle client i) := by
  refine Keeps.bind (keeps_frame i) fun fr => Keeps.bind keeps_session fun sess => ?_
  refine Keeps.ite Keeps.pure (Keeps.ite ?_ ?_)
  · exact Keeps.bind (h.consumenonsnac _ _) fun ret => Keeps.pure
  · split
    · exact keeps_stuck
    · refine Keeps.bind (h.setData _) fun _ => ?_
      split
      · exact Keeps.pure
      · exact Keeps.pure
      · exact h.rxCall _

theorem Stable.aimCallhandlerNoparam (h : Stable client i P) :
    Keeps P (aimCallhandlerNoparam client i) := by
  refine Keeps.bind (keeps_frame i) fun ptr => Keeps.bind keeps_session fun sess => ?_
  split
  · exact Keeps.pure
  · exact Keeps.pure
  · exact h.rxCall _

theorem Stable.lastChance (h : Stable client i P) : Keeps P (lastChance client i) := by
  refine Keeps.bind (keeps_frame i) fun cur => Keeps.ite ?_ Keeps.pure
  exact Keeps.bind (h.consumenonsnac _ _) fun _ => h.setHandled _

/-- A stable property holds after a frame's turn if it held before. -/
theorem Stable.rxdispatchFrame (h : Stable client i P) (cur : AimFrame) :
    Keeps P (rxdispatchFrame client i cur) := by
  refine Keeps.bind keeps_session fun sess => ?_
  refine Keeps.ite Keeps.pure (Keeps.ite (h.setHandled _) ?_)
  refine Keeps.ite (h.setHandled _) (Keeps.ite (h.setHandled _) ?_)
  refine Keeps.ite ?_ (Keeps.ite ?_ (Keeps.ite ?_ h.lastChance))
  · exact Keeps.bind h.aimCallhandlerNoparam fun ret => h.setHandled _
  · refine Keeps.bind h.consumesnac fun ret => Keeps.bind (h.setHandled _) fun _ => ?_
    exact Keeps.ite Keeps.pure h.lastChance
  · exact Keeps.bind h.negchanMiddle fun ret => h.setHandled _

end Stable

/-! ## The passes of the loop -/

section Pass

variable {client : Client} {i : Nat} {sess : AimSession} {turns : List Turn}

theorem rxdispatchPass_leave {r : AimSession × List Turn}
    (h : rxdispatchPass client (i, sess, turns) = .leave r) :
    sess.queueIncoming[i]? = none ∧ r = (sess, turns) := by
  simp only [rxdispatchPass] at h
  cases hcur : sess.queueIncoming[i]? with
  | none =>
    rw [hcur] at h
    exact ⟨rfl, (Loop.Pass.leave.inj h).symm⟩
  | some cur =>
    rw [hcur] at h
    cases hframe : rxdispatchFrame client i cur (sess, []) <;> simp [hframe] at h

theorem rxdispatchPass_again {st : DispatchState}
    (h : rxdispatchPass client (i, sess, turns) = .again st) :
    ∃ cur sess' calls, sess.queueIncoming[i]? = some cur ∧
      rxdispatchFrame client i cur (sess, []) = some ((), sess', calls) ∧
      st = (i + 1, sess', turns ++ [⟨sess, cur, calls, sess'⟩]) := by
  simp only [rxdispatchPass] at h
  cases hcur : sess.queueIncoming[i]? with
  | none => simp [hcur] at h
  | some cur =>
    cases hframe : rxdispatchFrame client i cur (sess, []) with
    | none => simp [hcur, hframe] at h
    | some res =>
      obtain ⟨⟨⟩, sess', calls⟩ := res
      simp only [hcur, hframe] at h
      exact ⟨cur, sess', calls, rfl, hframe, (Loop.Pass.again.inj h).symm⟩

end Pass

end Libfaim
