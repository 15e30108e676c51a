import Libfaim.Im.Block
import Libfaim.Request.Whole
import Libfaim.Snac.Answers

/-!
# Searches in a directory

A directory answers the searches that were sent, in any order and as often as it likes: for the
address in a frame it says the names it has, under the id in the frame. In between, other requests
and replies use the cache too. Whatever the client is told, the names are those of the address that
it is told with them (`searchRun_names`).
-/

namespace Libfaim

/-- The id that a server reads from a SNAC. -/
def sentId (fr : AimFrame) : UInt32 := aimutilGet32 (fr.data.written.drop 6)

/-- What a server reads behind the header. -/
def sentBody (fr : AimFrame) : List UInt8 := fr.data.written.drop 10

/-- A run of searches, with the operations on the cache and what the client was told. -/
inductive SearchRun (directory : List UInt8 → List (List UInt8)) :
    List SnacOp → Requester → List SearchCall → Prop where
  | init {s : Requester} : s.snacs = aimInitsnachash → s.passed = [] → SearchRun directory [] s []
  | search {ops : List SnacOp} {s : Requester} {told : List SearchCall} {c : ConnPtr}
      {address : List UInt8} (now : Int) : SearchRun directory ops s told → s.sess.Usable c →
      strlen address < 65526 →
      SearchRun directory (ops ++ [SnacOp.cachesnac 0x000a 0x0002 0x0000 (cstr address ++ [0]) now])
        (s.make c now (.usersearchAddress (some address))).2 told
  | other {ops : List SnacOp} {s : Requester} {told : List SearchCall} (op : SnacOp) :
      SearchRun directory ops s told →
      SearchRun directory (ops ++ [op]) { s with snacs := op.exec s.snacs } told
  | answer {ops : List SnacOp} {s : Requester} {told : List SearchCall} {fr : AimFrame}
      {bs : AimBstream} {call : SearchCall} {snacs : SnacCache} : SearchRun directory ops s told →
      fr ∈ s.passed → NamesSaid (directory (sentBody fr)) bs →
      reply s.snacs (sentId fr) bs = some (call, snacs) →
      SearchRun directory (ops ++ [SnacOp.remsnac (sentId fr)]) { s with snacs := snacs }
        (told ++ [call])

/-- What is cached under the id of a frame is the address in the frame. -/
structure SearchInv (directory : List UInt8 → List (List UInt8)) (ops : List SnacOp)
    (s : Requester) (told : List SearchCall) : Prop where
  snacs : s.snacs = runSnacs ops
  sent : ∀ fr ∈ s.passed, (sentId fr).toNat ≤ ops.countP (·.isCachesnac) ∧
    ∀ e, snacMap s.snacs (sentId fr) = some e → cstr e.data = sentBody fr
  told : ∀ call ∈ told, ∀ address, call.address = some address → call.names = directory address

section Frame

variable {family type : UInt16} {id : UInt32} {body : List UInt8} {fr : AimFrame}

theorem sentId_of_written (h : fr.data.written = snacFront family type id ++ body) :
    sentId fr = id := by
  have hsplit : snacFront family type id ++ body =
      (aimutilPut16 family ++ (aimutilPut16 type ++ aimutilPut16 0x0000)) ++
        (aimutilPut32 id ++ body) := by
    simp [snacFront]
  rw [sentId, h, hsplit, List.drop_left' (by simp)]
  exact aimutilGet32_put32 id body

theorem sentBody_of_written (h : fr.data.written = snacFront family type id ++ body) :
    sentBody fr = body := by
  rw [sentBody, h, List.drop_left' (snacFront_length family type id)]

end Frame

section Run

variable {directory : List UInt8 → List (List UInt8)} {ops : List SnacOp} {s : Requester}
  {told : List SearchCall}

/-- The frames of before keep what is cached for them, as long as it is. -/
theorem SearchInv.sent_append (h : SearchInv directory ops s told) {op : SnacOp}
    (hcount : (ops ++ [op]).countP (·.isCachesnac) < 2 ^ 32) :
    ∀ fr ∈ s.passed, (sentId fr).toNat ≤ (ops ++ [op]).countP (·.isCachesnac) ∧
      ∀ e, snacMap (op.exec s.snacs) (sentId fr) = some e → cstr e.data = sentBody fr := by
  intro fr hfr
  obtain ⟨hle, hdata⟩ := h.sent fr hfr
  rw [h.snacs] at hdata ⊢
  refine ⟨?_, fun e he => hdata e ?_⟩
  · rw [List.countP_append]
    exact hle.trans (Nat.le_add_right _ _)
  · rw [← runSnacs_append] at he
    exact snacMap_append hcount hle he

theorem SearchInv.other (h : SearchInv directory ops s told) (op : SnacOp)
    (hcount : (ops ++ [op]).countP (·.isCachesnac) < 2 ^ 32) :
    SearchInv directory (ops ++ [op]) { s with snacs := op.exec s.snacs } told where
  snacs := by
    rw [runSnacs_append, ← h.snacs]
  sent := h.sent_append hcount
  told := h.told

/-- The new frame has the new id, and the address that is cached under it. -/
theorem SearchInv.search (h : SearchInv directory ops s told) {c : ConnPtr}
    {address : List UInt8} (now : Int) (hc : s.sess.Usable c) (hlen : strlen address < 65526)
    (hcount : (ops ++ [SnacOp.cachesnac 0x000a 0x0002 0x0000 (cstr address ++ [0]) now]).countP
      (·.isCachesnac) < 2 ^ 32) :
    SearchInv directory (ops ++ [SnacOp.cachesnac 0x000a 0x0002 0x0000 (cstr address ++ [0]) now])
      (s.make c now (.usersearchAddress (some address))).2 told := by
  have hreq : (RequestCall.usersearchAddress (some address)).request s.sess c = .ok {
      datalen := 10 + strlen address
      family := 0x000a
      type := 0x0002
      data := cstr address ++ [0]
      put := putSnac 0x000a 0x0002 [aimbsPutraw address (strlen address)] } := if_neg hc.1
  rw [Requester.make, hreq]
  dsimp only
  rcases s.request_spec c now _ with ⟨hno, -⟩ | ⟨fr, sess, -, hdata, hrequest⟩
  · exact absurd hc hno
  rw [hrequest]
  have hold := h.sent_append hcount
  have hputs : Writes (putAll [aimbsPutraw address (strlen address)]) (cstr address ++ []) 0 :=
    (writes_aimbsPutrawCstr address).bind (Writes.pure 0)
  have hsize : (snacFront 0x000a 0x0002 s.snacs.snacidNext ++ (cstr address ++ [])).length =
      10 + strlen address := by
    rw [List.length_append, snacFront_length, List.append_nil]
    rfl
  have hlt : 10 + strlen address < 65536 := by omega
  have hwritten : fr.data.written =
      snacFront 0x000a 0x0002 s.snacs.snacidNext ++ (cstr address ++ []) := by
    rw [hdata]
    exact (writes_putSnac hputs).written_init hlt (Nat.le_of_eq hsize)
  have hid := sentId_of_written hwritten
  have hbody := sentBody_of_written hwritten
  rw [List.append_nil] at hbody
  refine ⟨?_, fun fr' hmem => ?_, h.told⟩
  · rw [runSnacs_append, ← h.snacs]
    rfl
  · rcases List.mem_append.mp hmem with hmem | hmem
    · exact hold fr' hmem
    · obtain rfl := List.mem_singleton.mp hmem
      rw [hid, hbody]
      rw [List.countP_append] at hcount
      have hids : ops.countP (·.isCachesnac) + 1 < 2 ^ 32 := hcount
      have hnext := (snacInv_runSnacs ops (by omega)).next
      rw [← h.snacs] at hnext
      refine ⟨?_, fun e he => ?_⟩
      · rw [hnext, UInt32.toNat_ofNat', Nat.mod_eq_of_lt hids, List.countP_append]
        exact Nat.le_refl _
      · rw [snacMap_aimCachesnac, if_pos rfl] at he
        obtain rfl := Option.some.inj he
        dsimp only
        rw [cstr_append_zero, cstr_cstr]

theorem SearchInv.answer (h : SearchInv directory ops s told) {fr : AimFrame} {bs : AimBstream}
    {call : SearchCall} {snacs : SnacCache} (hfr : fr ∈ s.passed)
    (hsaid : NamesSaid (directory (sentBody fr)) bs)
    (hreply : reply s.snacs (sentId fr) bs = some (call, snacs))
    (hcount : (ops ++ [SnacOp.remsnac (sentId fr)]).countP (·.isCachesnac) < 2 ^ 32) :
    SearchInv directory (ops ++ [SnacOp.remsnac (sentId fr)]) { s with snacs := snacs }
      (told ++ [call]) := by
  rw [reply_said hsaid] at hreply
  obtain ⟨rfl, rfl⟩ := Prod.mk.inj (Option.some.inj hreply)
  refine ⟨?_, h.sent_append hcount, fun call' hmem address haddress => ?_⟩
  · rw [runSnacs_append, ← h.snacs]
    rfl
  · rcases List.mem_append.mp hmem with hmem | hmem
    · exact h.told call' hmem address haddress
    · obtain rfl := List.mem_singleton.mp hmem
      obtain ⟨e, he, rfl⟩ := Option.map_eq_some_iff.mp haddress
      obtain ⟨hfound, -⟩ := Option.filter_eq_some_iff.mp he
      rw [aimRemsnac_fst] at hfound
      rw [(h.sent fr hfr).2 e hfound]

/-- In every run with fewer than 2^32 requests, the names that come with an address are those that
the directory has for it. -/
theorem searchRun_names (directory : List UInt8 → List (List UInt8)) {ops : List SnacOp}
    {s : Requester} {told : List SearchCall} (hrun : SearchRun directory ops s told)
    (hcount : ops.countP (·.isCachesnac) < 2 ^ 32) :
    ∀ call ∈ told, ∀ address, call.address = some address → call.names = directory address := by
  have hinv : SearchInv directory ops s told := by
    induction hrun with
    | init hsnacs hpassed =>
      refine ⟨hsnacs, fun fr hfr => ?_, fun call hmem => (nomatch hmem)⟩
      rw [hpassed] at hfr
      cases hfr
    | search now _ hc hlen ih =>
      have hle := hcount
      rw [List.countP_append] at hle
      exact (ih (by omega)).search now hc hlen hcount
    | other op _ ih =>
      have hle := hcount
      rw [List.countP_append] at hle
      exact (ih (by omega)).other op hcount
    | answer _ hfr hsaid hreply ih =>
      have hle := hcount
      rw [List.countP_append] at hle
      exact (ih (by omega)).answer hfr hsaid hreply hcount
  exact hinv.told

end Run

section Example

/-- A client with a connection. -/
def searcher : Requester :=
  ⟨(aimNewconn (aimSessionInit []) 0x0002 (.connected 3 0)).2, aimInitsnachash, 0, []⟩

/-- A directory with one entry, and a search that finds it. -/
theorem searchRun_names_one :
    let directory := fun address : List UInt8 => if address = [0x62] then [[0x63]] else []
    ∃ ops s call, SearchRun directory ops s [call] ∧ call.address = some [0x62] ∧
      call.names = directory [0x62] := by
  intro directory
  have hinit : SearchRun directory [] searcher [] := .init rfl rfl
  have hsearch : SearchRun directory _
      (searcher.make 1 0 (.usersearchAddress (some [0x62]))).2 [] :=
    hinit.search 0 ⟨by decide, by decide⟩ (by decide)
  have hsent : ∃ fr, fr ∈ (searcher.make 1 0 (.usersearchAddress (some [0x62]))).2.passed ∧
      sentId fr = 1 ∧ sentBody fr = [0x62] :=
    ⟨_, List.mem_singleton.mpr rfl, by decide, by decide⟩
  obtain ⟨fr, hfr, hid, hbody⟩ := hsent
  have hsaid : NamesSaid (directory (sentBody fr))
      ⟨encodeTlvchain [createtlv 0x0001 1 [0x63]], 0⟩ := by
    rw [hbody]
    exact ⟨[createtlv 0x0001 1 [0x63]], rfl, by decide⟩
  have hrun := hsearch.answer hfr hsaid (reply_said hsaid)
  have haddress : (replySearchaddr (aimRemsnac (sentId fr)
      (searcher.make 1 0 (.usersearchAddress (some [0x62]))).2.snacs).1).map
        (fun snac => cstr snac.data) = some [0x62] := by
    rw [hid]
    rfl
  have hnames := searchRun_names directory hrun (by simp [SnacOp.isCachesnac])
  exact ⟨_, _, _, hrun, haddress, hnames _ List.mem_cons_self _ haddress⟩

end Example

end Libfaim
