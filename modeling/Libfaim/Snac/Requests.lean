import Libfaim.Snac.History
import Libfaim.Userinfo

/-!
# The requests that fill the SNAC cache

Every request caches its family, its type and data of its own (`SnacRequest`), which the cache does
not tell apart: the data is untyped, and the id comes back from the server. Whatever is in the cache
was put there by a request of the history (`exists_request`), so family and type of an entry with
data say which request that was (`requestedBy_getinfo_iff` and the two after it).

The structures are stored as a little-endian host with two-byte alignment lays them out.
-/

namespace Libfaim

/-- `strncpy(dst, src, n)` into an array of `n` bytes. -/
def strncpy (src : List UInt8) (n : Nat) : List UInt8 :=
  (cstr src).take n ++ List.replicate (n - strlen src) 0

theorem strncpy_length (src : List UInt8) (n : Nat) : (strncpy src n).length = n := by
  simp only [strncpy, strlen, List.length_append, List.length_take, List.length_replicate]
  omega

/-! ## The data that is cached -/

/-- `struct aim_priv_inforeq` -/
structure AimPrivInforeq where
  sn : List UInt8
  infotype : UInt16
  deriving DecidableEq, Repr

namespace AimPrivInforeq

/-- The bytes of the structure: `sn[MAXSNLEN+1]`, one byte of padding and `infotype`. -/
def store (privdata : AimPrivInforeq) : List UInt8 :=
  strncpy privdata.sn 33 ++ [0] ++ aimutilPutle16 privdata.infotype

/-- A pointer to the bytes cast to the structure. Bytes past their end are undefined in C and read
as zero here. -/
def load (data : List UInt8) : AimPrivInforeq :=
  ⟨cstr (data.take 33), aimutilGetle16 (data.drop 34)⟩

theorem load_store (privdata : AimPrivInforeq) :
    (load privdata.store).infotype = privdata.infotype := by
  have hlen : (strncpy privdata.sn 33 ++ [0]).length = 34 := by
    rw [List.length_append, strncpy_length, List.length_singleton]
  have h := aimutilGetle16_putle16 privdata.infotype []
  rw [List.append_nil] at h
  rw [load, store, List.drop_left' hlen]
  exact h

end AimPrivInforeq

/-- `struct chatsnacinfo` -/
structure Chatsnacinfo where
  exchange : UInt16
  name : List UInt8
  instance_ : UInt16
  deriving DecidableEq, Repr

namespace Chatsnacinfo

def store (csi : Chatsnacinfo) : List UInt8 :=
  aimutilPutle16 csi.exchange ++ strncpy csi.name 128 ++ aimutilPutle16 csi.instance_

def load (data : List UInt8) : Chatsnacinfo :=
  ⟨aimutilGetle16 data, cstr ((data.drop 2).take 128), aimutilGetle16 (data.drop 130)⟩

theorem load_store (csi : Chatsnacinfo) : (load csi.store).exchange = csi.exchange ∧
    (load csi.store).instance_ = csi.instance_ := by
  have hexchange : (aimutilPutle16 csi.exchange).length = 2 := Endian.leBytes_length ..
  have hlen : (aimutilPutle16 csi.exchange ++ strncpy csi.name 128).length = 130 := by
    rw [List.length_append, strncpy_length, hexchange]
  constructor
  · rw [load, store, List.append_assoc]
    exact aimutilGetle16_putle16 csi.exchange _
  · have h := aimutilGetle16_putle16 csi.instance_ []
    rw [List.append_nil] at h
    rw [load, store, List.drop_left' hlen]
    exact h

end Chatsnacinfo

/-! ## Requests -/

/-- A call of the interface that caches a SNAC. -/
inductive SnacRequest where
  | getinfo (sn : List UInt8) (infotype : UInt16)
  | addBuddy (sn : List UInt8)
  | removeBuddy (sn : List UInt8)
  | chatJoin (exchange : UInt16) (roomname : List UInt8) (instance_ : UInt16)
  | reqservice (serviceid : UInt16)
  | sendImExt (destsn : List UInt8)
  | chatInvite (sn : List UInt8)
  | sendWarning (destsn : List UInt8)
  | usersearchAddress (address : List UInt8)
  | chatnavCreateroom
  /-- Any of the others, which cache no data. -/
  | other (family type : UInt16)
  deriving DecidableEq, Repr

namespace SnacRequest

def family : SnacRequest → UInt16
  | getinfo .. => 0x0002
  | addBuddy _ => 0x0003
  | removeBuddy _ => 0x0003
  | chatJoin .. => 0x0001
  | reqservice _ => 0x0001
  | sendImExt _ => 0x0004
  | chatInvite _ => 0x0004
  | sendWarning _ => 0x0004
  | usersearchAddress _ => 0x000a
  | chatnavCreateroom => 0x000d
  | other family _ => family

def type : SnacRequest → UInt16
  | getinfo .. => 0x0005
  | addBuddy _ => 0x0004
  | removeBuddy _ => 0x0005
  | chatJoin .. => 0x0004
  | reqservice _ => 0x0004
  | sendImExt _ => 0x0006
  | chatInvite _ => 0x0006
  | sendWarning _ => 0x0008
  | usersearchAddress _ => 0x0002
  | chatnavCreateroom => 0x0008
  | other _ type => type

/-- What is cached with it; `[]` is the null pointer. -/
def data : SnacRequest → List UInt8
  | getinfo sn infotype => AimPrivInforeq.store ⟨sn, infotype⟩
  | addBuddy sn => cstr sn ++ [0]
  | removeBuddy sn => cstr sn ++ [0]
  | chatJoin exchange roomname instance_ => Chatsnacinfo.store ⟨exchange, roomname, instance_⟩
  | reqservice _ => []
  | sendImExt destsn => cstr destsn ++ [0]
  | chatInvite sn => cstr sn ++ [0]
  | sendWarning destsn => cstr destsn ++ [0]
  | usersearchAddress address => cstr address ++ [0]
  | chatnavCreateroom => []
  | other _ _ => []

end SnacRequest

/-- What happens to the cache: a request at the time `now`, a reply that takes out an entry, and the
cleaning out of old ones. -/
inductive SnacCall where
  | request (r : SnacRequest) (now : Int)
  | remsnac (id : UInt32)
  | cleansnacs (time : Fin faimSnacHashSize → Int) (maxage : Int)

def SnacCall.op : SnacCall → SnacOp
  | request r now => .cachesnac r.family r.type 0x0000 r.data now
  | remsnac id => .remsnac id
  | cleansnacs time maxage => .cleansnacs time maxage

/-- The cache after the calls. -/
def runCalls (calls : List SnacCall) : SnacCache := runSnacs (calls.map SnacCall.op)

/-- The request `r` in the history is the one that cached the entry. -/
def RequestedBy (calls : List SnacCall) (r : SnacRequest) (e : AimSnac) : Prop :=
  ∃ pre now post, calls = pre ++ .request r now :: post ∧
    e = ⟨(runCalls pre).snacidNext, r.family, r.type, 0x0000, r.data, now⟩

/-! ## Where an entry comes from -/

theorem runCalls_append (calls : List SnacCall) (call : SnacCall) :
    runCalls (calls ++ [call]) = call.op.exec (runCalls calls) := by
  rw [runCalls, List.map_append, List.map_singleton, runSnacs_append]
  rfl

theorem RequestedBy.append {calls : List SnacCall} {r : SnacRequest} {e : AimSnac}
    (h : RequestedBy calls r e) (call : SnacCall) : RequestedBy (calls ++ [call]) r e := by
  obtain ⟨pre, now, post, rfl, he⟩ := h
  exact ⟨pre, now, post ++ [call], by rw [List.append_assoc, List.cons_append], he⟩

/-- Every entry of the cache was put there by a request. -/
theorem exists_request (calls : List SnacCall) :
    ∀ i, ∀ e ∈ (runCalls calls).snacHash i, ∃ r, RequestedBy calls r e := by
  induction calls using List.reverseRecOn with
  | nil =>
    intro i e he
    cases he
  | append_singleton calls call ih =>
    rw [runCalls_append]
    intro i e he
    have hold : e ∈ (runCalls calls).snacHash i → ∃ r, RequestedBy (calls ++ [call]) r e := by
      intro hmem
      obtain ⟨r, hr⟩ := ih i e hmem
      exact ⟨r, hr.append call⟩
    cases call with
    | request r now =>
      rcases HashChain.mem_insert he with rfl | hmem
      · exact ⟨r, calls, now, [], rfl, rfl⟩
      · exact hold hmem
    | remsnac id =>
      rw [SnacCall.op, SnacOp.exec, aimRemsnac_eq] at he
      exact hold ((HashChain.remove_sublist id i).subset he)
    | cleansnacs time maxage =>
      rw [SnacCall.op, SnacOp.exec, aimCleansnacs_snacHash] at he
      exact hold (List.mem_of_mem_filter he)

theorem exists_request_of_remsnac {calls : List SnacCall} {id : UInt32} {e : AimSnac}
    (h : (aimRemsnac id (runCalls calls)).1 = some e) : ∃ r, RequestedBy calls r e := by
  rw [aimRemsnac_fst] at h
  exact exists_request calls _ e (HashChain.find_some h).1

/-- And an outstanding one is found under its id. -/
theorem aimRemsnac_of_outstanding {calls : List SnacCall} {e : AimSnac}
    (hcount : (calls.map SnacCall.op).countP (·.isCachesnac) < 2 ^ 32)
    (hout : Outstanding (calls.map SnacCall.op) e) :
    (aimRemsnac e.id (runCalls calls)).1 = some e :=
  (aimRemsnac_fst e.id).trans (((snacInv_runSnacs _ hcount).map e.id e).mpr ⟨rfl, hout⟩)

section Entry

variable {calls : List SnacCall} {r : SnacRequest} {e : AimSnac}

theorem RequestedBy.family (h : RequestedBy calls r e) : e.family = r.family := by
  obtain ⟨pre, now, post, -, rfl⟩ := h
  rfl

theorem RequestedBy.type (h : RequestedBy calls r e) : e.type = r.type := by
  obtain ⟨pre, now, post, -, rfl⟩ := h
  rfl

theorem RequestedBy.data (h : RequestedBy calls r e) : e.data = r.data := by
  obtain ⟨pre, now, post, -, rfl⟩ := h
  rfl

/-- Only `aim_getinfo` caches data for this family and type. -/
theorem requestedBy_getinfo_iff (h : RequestedBy calls r e) :
    (∃ sn infotype, RequestedBy calls (.getinfo sn infotype) e) ↔
      e.family = 0x0002 ∧ e.type = 0x0005 ∧ e.data ≠ [] := by
  constructor
  · rintro ⟨sn, infotype, hget⟩
    refine ⟨hget.family, hget.type, ?_⟩
    rw [hget.data]
    simp [SnacRequest.data, AimPrivInforeq.store]
  · rintro ⟨hfamily, htype, hdata⟩
    rw [h.family] at hfamily
    rw [h.type] at htype
    rw [h.data] at hdata
    cases r with
    | getinfo sn infotype => exact ⟨sn, infotype, h⟩
    | other family type => exact absurd rfl hdata
    | _ => simp [SnacRequest.family] at hfamily

/-- Only `aim_chat_join` does for this one. -/
theorem requestedBy_chatJoin_iff (h : RequestedBy calls r e) :
    (∃ exchange roomname inst, RequestedBy calls (.chatJoin exchange roomname inst) e) ↔
      e.family = 0x0001 ∧ e.type = 0x0004 ∧ e.data ≠ [] := by
  constructor
  · rintro ⟨exchange, roomname, inst, hjoin⟩
    refine ⟨hjoin.family, hjoin.type, ?_⟩
    rw [hjoin.data]
    simp [SnacRequest.data, Chatsnacinfo.store, aimutilPutle16, Endian.leBytes]
  · rintro ⟨hfamily, htype, hdata⟩
    rw [h.family] at hfamily
    rw [h.type] at htype
    rw [h.data] at hdata
    cases r with
    | chatJoin exchange roomname inst => exact ⟨exchange, roomname, inst, h⟩
    | reqservice serviceid => exact absurd rfl hdata
    | other family type => exact absurd rfl hdata
    | _ => simp [SnacRequest.family] at hfamily

/-- And only `aim_usersearch_address` for this one. -/
theorem requestedBy_usersearchAddress_iff (h : RequestedBy calls r e) :
    (∃ address, RequestedBy calls (.usersearchAddress address) e) ↔
      e.family = 0x000a ∧ e.type = 0x0002 ∧ e.data ≠ [] := by
  constructor
  · rintro ⟨address, hsearch⟩
    refine ⟨hsearch.family, hsearch.type, ?_⟩
    rw [hsearch.data]
    simp [SnacRequest.data]
  · rintro ⟨hfamily, htype, hdata⟩
    rw [h.family] at hfamily
    rw [h.type] at htype
    rw [h.data] at hdata
    cases r with
    | usersearchAddress address => exact ⟨address, h⟩
    | other family type => exact absurd rfl hdata
    | _ => simp [SnacRequest.family] at hfamily

end Entry

end Libfaim
