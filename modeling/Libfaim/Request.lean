import Libfaim.Im
import Libfaim.TxQueue.Rules

/-!
# Making a request

Most functions of the interface have one shape: take a new frame, remember the request in the SNAC
cache, put the SNAC header and the fields into the frame, and enqueue it. A `Request` is what such a
function fills in; the functions that make it are in the modules of their families.

`aim_tx_enqueue` may queue the frame, send it at once or give it to the client, so the frames it was
called with are on record in the state (`Requester.passed`).
-/

namespace Libfaim

/-! ## Filling in a frame -/

/-- One put after the other. -/
def putAll : List (StateM AimBstream Nat) → StateM AimBstream Nat
  | [] => pure 0
  | put :: puts => do
    let _ ← put
    putAll puts

/-- The SNAC header, and the fields behind it. -/
def putSnac (family subtype : UInt16) (puts : List (StateM AimBstream Nat)) (snacid : UInt32) :
    StateM AimBstream Nat := do
  let _ ← aimPutsnac family subtype 0x0000 snacid
  putAll puts

/-- `aim_addtlvtochain_raw(&tl, t, strlen(s), s)` -/
def addtlvStr (list : List AimTlv) (t : UInt16) (s : List UInt8) : List AimTlv :=
  (aimAddtlvtochainRaw list t (UInt16.ofNat (strlen s)) s).2

/-- `if (s) aim_addtlvtochain_raw(&tl, t, strlen(s), s);` -/
def addtlvOpt (list : List AimTlv) (t : UInt16) : Option (List UInt8) → List AimTlv
  | none => list
  | some s => addtlvStr list t s

/-- What a function that makes a request gives to `aim_tx_new` and to `aim_cachesnac`, and what it
puts into the frame with the id of the SNAC. -/
structure Request where
  datalen : Nat
  family : UInt16
  type : UInt16
  data : List UInt8
  put : UInt32 → StateM AimBstream Nat

/-- `aim_tx_new` gives FLAP frames for this connection. -/
def AimSession.Usable (sess : AimSession) (c : ConnPtr) : Prop :=
  c ≠ 0 ∧ ¬ (sess.conn c).Rendezvous

theorem aimTxNew_flap_eq_none {sess : AimSession} {c : ConnPtr} {chan : UInt8} {datalen : Nat}
    (h : ¬ sess.Usable c) : aimTxNew sess c aimFrametypeFlap chan datalen = none := by
  unfold aimTxNew
  by_cases hc : c = 0
  · rw [if_pos hc]
  · have hrend : (sess.conn c).Rendezvous := by
      by_contra hno
      exact h ⟨hc, hno⟩
    rw [if_neg hc, if_pos ⟨hrend, by decide⟩]

theorem aimTxNew_flap_ne_none {sess : AimSession} {c : ConnPtr} {chan : UInt8} {datalen : Nat}
    (h : sess.Usable c) : aimTxNew sess c aimFrametypeFlap chan datalen ≠ none := by
  unfold aimTxNew
  rw [if_neg h.1, if_neg fun hrend => h.2 hrend.1, if_neg fun hflap => hflap.2 rfl]
  exact Option.some_ne_none _

/-! ## The session -/

/-- What requests need of the session: `flags` is `sess->flags`, and `passed` are the frames
`aim_tx_enqueue` was called with. -/
structure Requester where
  sess : AimSession
  snacs : SnacCache
  flags : UInt32
  passed : List AimFrame

namespace Requester

variable (s : Requester)

def enqueue (fr : AimFrame) : Requester :=
  { s with sess := aimTxEnqueue s.sess fr, passed := s.passed ++ [fr] }

/-- A frame on channel `chan` that is not remembered in the cache. -/
def post (c : ConnPtr) (chan : UInt8) (datalen : Nat) (put : StateM AimBstream Nat) :
    Int × Requester :=
  match aimTxNew s.sess c aimFrametypeFlap chan datalen with
  | none => (-enomem, s)
  | some (fr, sess) =>
    (0, { s with sess := sess }.enqueue { fr with data := (put fr.data).2 })

/-- A frame with a SNAC that is remembered. -/
def request (c : ConnPtr) (now : Int) (req : Request) : Int × Requester :=
  match aimTxNew s.sess c aimFrametypeFlap 0x02 req.datalen with
  | none => (-enomem, s)
  | some (fr, sess) =>
    let (snacid, snacs) := aimCachesnac req.family req.type 0x0000 req.data now s.snacs
    (0, { s with sess := sess, snacs := snacs }.enqueue
      { fr with data := (req.put snacid fr.data).2 })

section Spec

variable {s} {c : ConnPtr}

theorem post_of_not_usable {chan : UInt8} {datalen : Nat} {put : StateM AimBstream Nat}
    (h : ¬ s.sess.Usable c) : s.post c chan datalen put = (-enomem, s) := by
  unfold post
  rw [aimTxNew_flap_eq_none h]

theorem request_of_not_usable {now : Int} {req : Request} (h : ¬ s.sess.Usable c) :
    s.request c now req = (-enomem, s) := by
  unfold request
  rw [aimTxNew_flap_eq_none h]

theorem post_spec (s : Requester) (c : ConnPtr) (chan : UInt8) (datalen : Nat)
    (put : StateM AimBstream Nat) :
    (¬ s.sess.Usable c ∧ s.post c chan datalen put = (-enomem, s)) ∨
    ∃ fr sess, fr.hdr = .flap chan 0 ∧
      fr.data = (put (aimBstreamInit (List.replicate datalen 0) datalen)).2 ∧
      s.post c chan datalen put = (0, { s with sess := sess, passed := s.passed ++ [fr] }) := by
  unfold post
  cases hnew : aimTxNew s.sess c aimFrametypeFlap chan datalen with
  | none => exact .inl ⟨fun hc => absurd hnew (aimTxNew_flap_ne_none hc), rfl⟩
  | some r =>
    obtain ⟨fr, sess⟩ := r
    have hhdr : fr.hdr = .flap chan 0 := aimTxNew_flap_hdr hnew
    exact .inr ⟨{ fr with data := (put fr.data).2 }, _, hhdr,
      congrArg (fun bs => (put bs).2) (aimTxNew_data hnew), rfl⟩

theorem request_spec (s : Requester) (c : ConnPtr) (now : Int) (req : Request) :
    (¬ s.sess.Usable c ∧ s.request c now req = (-enomem, s)) ∨
    ∃ fr sess, fr.hdr = .flap 0x02 0 ∧
      fr.data = (req.put s.snacs.snacidNext
        (aimBstreamInit (List.replicate req.datalen 0) req.datalen)).2 ∧
      s.request c now req = (0, { s with
        sess := sess,
        snacs := (aimCachesnac req.family req.type 0x0000 req.data now s.snacs).2,
        passed := s.passed ++ [fr] }) := by
  unfold request
  cases hnew : aimTxNew s.sess c aimFrametypeFlap 0x02 req.datalen with
  | none => exact .inl ⟨fun hc => absurd hnew (aimTxNew_flap_ne_none hc), rfl⟩
  | some r =>
    obtain ⟨fr, sess⟩ := r
    have hhdr : fr.hdr = .flap 0x02 0 := aimTxNew_flap_hdr hnew
    exact .inr ⟨{ fr with data := (req.put s.snacs.snacidNext fr.data).2 }, _, hhdr,
      congrArg (fun bs => (req.put s.snacs.snacidNext bs).2) (aimTxNew_data hnew), rfl⟩

end Spec

end Requester

end Libfaim
