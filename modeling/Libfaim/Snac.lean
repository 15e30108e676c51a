import Libfaim.BStream.Rules
import Libfaim.Lib.HashChain

/-!
# The SNAC cache (`snac.c`)

Requests are remembered under their SNAC id in a table of sixteen chains until the reply comes or
they are too old. The table is an instance of `HashChain`, so it acts as a finite map from ids to
requests (`snacMap`). Allocation succeeds throughout; `time(NULL)` is a parameter of the functions
that read the clock.
-/

namespace Libfaim

/-- `aim_snac_t`, without the link to the next one. -/
structure AimSnac where
  id : UInt32
  family : UInt16
  type : UInt16
  flags : UInt16
  data : List UInt8
  issuetime : Int
  deriving DecidableEq, Repr

def faimSnacHashSize : Nat := 16

/-- The fields of `aim_session_t` that hold the cache. -/
structure SnacCache where
  snacHash : Fin faimSnacHashSize → List AimSnac
  snacidNext : UInt32

/-- `id % FAIM_SNAC_HASH_SIZE` -/
def snacIndex (id : UInt32) : Fin faimSnacHashSize :=
  ⟨id.toNat % faimSnacHashSize, Nat.mod_lt _ (by decide)⟩

/-- `aim_initsnachash`, and the first id `aim_session_init` sets. -/
def aimInitsnachash : SnacCache where
  snacHash := fun _ => []
  snacidNext := 0x00000001

/-- `aim_newsnac` at the time `now`. -/
def aimNewsnac (newsnac : AimSnac) (now : Int) (sess : SnacCache) : UInt32 × SnacCache :=
  let snac := { newsnac with issuetime := now }
  let index := snacIndex snac.id
  (snac.id,
    { sess with snacHash := Function.update sess.snacHash index (snac :: sess.snacHash index) })

def aimCachesnac (family type flags : UInt16) (data : List UInt8) (now : Int)
    (sess : SnacCache) : UInt32 × SnacCache :=
  let snac : AimSnac := ⟨sess.snacidNext, family, type, flags, data, 0⟩
  aimNewsnac snac now { sess with snacidNext := sess.snacidNext + 1 }

/-- The loop of `aim_remsnac` along a chain. -/
def aimRemsnacLoop (id : UInt32) : List AimSnac → Option AimSnac × List AimSnac
  | [] => (none, [])
  | cur :: next =>
    if cur.id = id then (some cur, next)
    else ((aimRemsnacLoop id next).1, cur :: (aimRemsnacLoop id next).2)

def aimRemsnac (id : UInt32) (sess : SnacCache) : Option AimSnac × SnacCache :=
  let index := snacIndex id
  let r := aimRemsnacLoop id (sess.snacHash index)
  (r.1, { sess with snacHash := Function.update sess.snacHash index r.2 })

/-- The loop of `aim_cleansnacs` along a chain. -/
def aimCleansnacsLoop (curtime maxage : Int) : List AimSnac → List AimSnac
  | [] => []
  | cur :: next =>
    if curtime - cur.issuetime > maxage then aimCleansnacsLoop curtime maxage next
    else cur :: aimCleansnacsLoop curtime maxage next

/-- `aim_cleansnacs`, which reads the clock again for every chain. -/
def aimCleansnacs (time : Fin faimSnacHashSize → Int) (maxage : Int) (sess : SnacCache) :
    SnacCache :=
  { sess with snacHash := fun i => aimCleansnacsLoop (time i) maxage (sess.snacHash i) }

def aimPutsnac (family subtype flags : UInt16) (snacid : UInt32) : StateM AimBstream Nat := do
  let _ ← aimbsPut16 family
  let _ ← aimbsPut16 subtype
  let _ ← aimbsPut16 flags
  let _ ← aimbsPut32 snacid
  return 10

theorem writes_aimPutsnac (family subtype flags : UInt16) (snacid : UInt32) :
    Writes (aimPutsnac family subtype flags snacid) (aimutilPut16 family ++
      (aimutilPut16 subtype ++ (aimutilPut16 flags ++ (aimutilPut32 snacid ++ [])))) 10 :=
  (writes_aimbsPut16 _).bind ((writes_aimbsPut16 _).bind ((writes_aimbsPut16 _).bind
    ((writes_aimbsPut32 _).bind (Writes.pure _))))

/-! ## The cache as a finite map -/

def SnacWf (sess : SnacCache) : Prop := HashChain.Wf AimSnac.id snacIndex sess.snacHash

/-- What is cached under each id. -/
def snacMap (sess : SnacCache) (id : UInt32) : Option AimSnac :=
  HashChain.find AimSnac.id snacIndex sess.snacHash id

theorem aimRemsnacLoop_eq (id : UInt32) (l : List AimSnac) :
    aimRemsnacLoop id l = HashChain.unlink AimSnac.id id l := by
  induction l with
  | nil => rfl
  | cons cur next ih => simp only [aimRemsnacLoop, HashChain.unlink, ih]

theorem aimRemsnac_eq (id : UInt32) (sess : SnacCache) :
    aimRemsnac id sess =
      ((HashChain.remove AimSnac.id snacIndex id sess.snacHash).1,
        { sess with snacHash := (HashChain.remove AimSnac.id snacIndex id sess.snacHash).2 }) := by
  simp only [aimRemsnac, aimRemsnacLoop_eq, HashChain.remove]

/-- The entries under an id: no more than one, unless the ids have wrapped around. -/
def cachedUnder (sess : SnacCache) (id : UInt32) : List AimSnac :=
  (sess.snacHash (snacIndex id)).filter fun cur => cur.id = id

theorem head?_cachedUnder (sess : SnacCache) (id : UInt32) :
    (cachedUnder sess id).head? = snacMap sess id :=
  List.head?_filter

theorem cachedUnder_aimRemsnac (sess : SnacCache) (id : UInt32) :
    cachedUnder (aimRemsnac id sess).2 id = (cachedUnder sess id).tail := by
  rw [aimRemsnac_eq, cachedUnder]
  dsimp only [HashChain.remove]
  rw [Function.update_self]
  exact HashChain.filter_unlink id _

theorem aimCleansnacsLoop_eq (curtime maxage : Int) (l : List AimSnac) :
    aimCleansnacsLoop curtime maxage l =
      l.filter fun cur => curtime - cur.issuetime ≤ maxage := by
  induction l with
  | nil => rfl
  | cons cur next ih =>
    unfold aimCleansnacsLoop
    by_cases hage : curtime - cur.issuetime > maxage
    · have hold : ¬ curtime - cur.issuetime ≤ maxage := Int.not_le.mpr hage
      rw [if_pos hage, ih, List.filter_cons_of_neg (by rwa [decide_eq_true_eq])]
    · have hnew : curtime - cur.issuetime ≤ maxage := Int.not_lt.mp hage
      rw [if_neg hage, ih, List.filter_cons_of_pos (by rwa [decide_eq_true_eq])]

section Map

variable {sess : SnacCache}

theorem aimRemsnac_fst (id : UInt32) : (aimRemsnac id sess).1 = snacMap sess id := by
  rw [aimRemsnac_eq]
  exact HashChain.remove_fst id

theorem snacMap_aimRemsnac (h : SnacWf sess) (id id' : UInt32) :
    snacMap (aimRemsnac id sess).2 id' = if id' = id then none else snacMap sess id' := by
  rw [aimRemsnac_eq]
  exact HashChain.find_remove h id id'

theorem SnacWf.aimRemsnac (h : SnacWf sess) (id : UInt32) : SnacWf (aimRemsnac id sess).2 := by
  rw [aimRemsnac_eq]
  exact HashChain.Wf.remove h id

theorem aimCleansnacs_snacHash (time : Fin faimSnacHashSize → Int) (maxage : Int) :
    (aimCleansnacs time maxage sess).snacHash =
      HashChain.retain (fun i cur => time i - cur.issuetime ≤ maxage) sess.snacHash := by
  funext i
  exact aimCleansnacsLoop_eq (time i) maxage _

theorem snacMap_aimCleansnacs (h : SnacWf sess) (time : Fin faimSnacHashSize → Int) (maxage : Int)
    (id : UInt32) : snacMap (aimCleansnacs time maxage sess) id =
      (snacMap sess id).filter fun cur => time (snacIndex id) - cur.issuetime ≤ maxage := by
  rw [snacMap, aimCleansnacs_snacHash]
  exact HashChain.find_retain h _ id

theorem SnacWf.aimCleansnacs (h : SnacWf sess) (time : Fin faimSnacHashSize → Int)
    (maxage : Int) : SnacWf (aimCleansnacs time maxage sess) := by
  rw [SnacWf, aimCleansnacs_snacHash]
  exact HashChain.Wf.retain h _

variable (family type flags : UInt16) (data : List UInt8) (now : Int)

theorem aimCachesnac_fst :
    (aimCachesnac family type flags data now sess).1 = sess.snacidNext := rfl

theorem snacMap_aimCachesnac (id : UInt32) :
    snacMap (aimCachesnac family type flags data now sess).2 id =
      if sess.snacidNext = id then some ⟨sess.snacidNext, family, type, flags, data, now⟩
      else snacMap sess id :=
  HashChain.find_insert _ id

theorem SnacWf.aimCachesnac (h : SnacWf sess) (hfresh : snacMap sess sess.snacidNext = none) :
    SnacWf (aimCachesnac family type flags data now sess).2 :=
  HashChain.Wf.insert h hfresh

end Map

end Libfaim
