import Mathlib.Logic.Function.Basic
import Libfaim.BStream.Progress

/-!
# The laws of byte streams

Any number of streams, each made by `aim_bstream_init` over memory of its own, and any calls of the
operations on them (`BsCall`). Whatever the calls, no offset passes the length of its stream, so
the sixteen bits the C code keeps it in are enough; a call that does not fit leaves every stream as
it was. A list of typed fields (`BsField`) that is written into a stream is read back from it.
-/

namespace Libfaim

/-! ## Calls -/

/-- A call of one of the operations on one stream. `v` of a `putraw` points to at least `len`
bytes. -/
inductive BsOp where
  | put8 (v : UInt8)
  | put16 (v : UInt16)
  | put32 (v : UInt32)
  | putle8 (v : UInt8)
  | putle16 (v : UInt16)
  | putle32 (v : UInt32)
  | get8
  | get16
  | get32
  | getle8
  | getle16
  | getle32
  | putraw (v : List UInt8) (len : Nat) (h : len ≤ v.length)
  | getrawbuf (len : Nat)
  | setpos (off : Nat)
  | advance (n : Nat)
  | rewind

namespace BsOp

/-- The stream after the call. -/
def exec : BsOp → AimBstream → AimBstream
  | put8 v, bs => (aimbsPut8 v bs).2
  | put16 v, bs => (aimbsPut16 v bs).2
  | put32 v, bs => (aimbsPut32 v bs).2
  | putle8 v, bs => (aimbsPutle8 v bs).2
  | putle16 v, bs => (aimbsPutle16 v bs).2
  | putle32 v, bs => (aimbsPutle32 v bs).2
  | get8, bs => (aimbsGet8 bs).2
  | get16, bs => (aimbsGet16 bs).2
  | get32, bs => (aimbsGet32 bs).2
  | getle8, bs => (aimbsGetle8 bs).2
  | getle16, bs => (aimbsGetle16 bs).2
  | getle32, bs => (aimbsGetle32 bs).2
  | putraw v len _, bs => (aimbsPutraw v len bs).2
  | getrawbuf len, bs => (aimbsGetrawbuf len bs).2
  | setpos off, bs => (aimBstreamSetpos off bs).2
  | advance n, bs => (aimBstreamAdvance n bs).2
  | rewind, bs => (aimBstreamRewind bs).2

/-- How many of the bytes left the call reads or writes. -/
def width : BsOp → Nat
  | put8 _ | putle8 _ | get8 | getle8 => 1
  | put16 _ | putle16 _ | get16 | getle16 => 2
  | put32 _ | putle32 _ | get32 | getle32 => 4
  | putraw _ len _ => len
  | getrawbuf len => len
  | advance n => n
  | setpos _ | rewind => 0

/-- The call fits: its bytes are left in the stream, or the position is one of the stream. -/
def Fits : BsOp → AimBstream → Prop
  | setpos off, bs => off ≤ bs.len
  | op, bs => op.width ≤ aimBstreamEmpty bs

end BsOp

/-- A call on streams told apart by `ι`. `aimbs_putbs` copies from another stream: it is a `memcpy`,
which is not defined on bytes that overlap. -/
inductive BsCall (ι : Type) where
  | op (i : ι) (op : BsOp)
  | putbs (i j : ι) (len : Nat) (hne : i ≠ j)

namespace BsCall

variable {ι : Type} [DecidableEq ι]

/-- The streams after the call. -/
def exec (s : ι → AimBstream) : BsCall ι → ι → AimBstream
  | op i f => Function.update s i (f.exec (s i))
  | putbs i j len _ =>
    let (_, bs, srcbs) := aimbsPutbs (s i) (s j) len
    Function.update (Function.update s i bs) j srcbs

def Fits (s : ι → AimBstream) : BsCall ι → Prop
  | op i f => f.Fits (s i)
  | putbs i j len _ => len ≤ aimBstreamEmpty (s j) ∧ len ≤ aimBstreamEmpty (s i)

/-- The streams after a sequence of calls. -/
def runCalls (calls : List (BsCall ι)) (s : ι → AimBstream) : ι → AimBstream :=
  calls.foldl exec s

end BsCall

/-! ## Fields -/

/-- The kinds of field a stream holds. -/
inductive BsType where
  | be8
  | be16
  | be32
  | le8
  | le16
  | le32
  | raw (len : Nat)
  deriving DecidableEq, Repr

/-- What is read from a field. -/
inductive BsValue where
  | num (n : Nat)
  | block (v : List UInt8)
  deriving DecidableEq, Repr

/-- A field with the value the caller wants in it, which is converted to the width of the field. -/
inductive BsField where
  | be8 (n : Nat)
  | be16 (n : Nat)
  | be32 (n : Nat)
  | le8 (n : Nat)
  | le16 (n : Nat)
  | le32 (n : Nat)
  | raw (v : List UInt8)
  deriving DecidableEq, Repr

namespace BsField

def type : BsField → BsType
  | be8 _ => .be8
  | be16 _ => .be16
  | be32 _ => .be32
  | le8 _ => .le8
  | le16 _ => .le16
  | le32 _ => .le32
  | raw v => .raw v.length

/-- The value modulo the width of the field. -/
def value : BsField → BsValue
  | be8 n | le8 n => .num (n % 2 ^ 8)
  | be16 n | le16 n => .num (n % 2 ^ 16)
  | be32 n | le32 n => .num (n % 2 ^ 32)
  | raw v => .block v

/-- How many bytes the field takes. -/
def width : BsField → Nat
  | be8 _ | le8 _ => 1
  | be16 _ | le16 _ => 2
  | be32 _ | le32 _ => 4
  | raw v => v.length

/-- How many bytes the fields take. -/
def widths : List BsField → Nat
  | [] => 0
  | f :: fs => f.width + widths fs

/-- Writing the field. -/
def put : BsField → StateM AimBstream Nat
  | be8 n => aimbsPut8 (UInt8.ofNat n)
  | be16 n => aimbsPut16 (UInt16.ofNat n)
  | be32 n => aimbsPut32 (UInt32.ofNat n)
  | le8 n => aimbsPutle8 (UInt8.ofNat n)
  | le16 n => aimbsPutle16 (UInt16.ofNat n)
  | le32 n => aimbsPutle32 (UInt32.ofNat n)
  | raw v => aimbsPutraw v v.length

/-- The bytes of the field. -/
def bytes : BsField → List UInt8
  | be8 n => aimutilPut8 (UInt8.ofNat n)
  | be16 n => aimutilPut16 (UInt16.ofNat n)
  | be32 n => aimutilPut32 (UInt32.ofNat n)
  | le8 n => aimutilPutle8 (UInt8.ofNat n)
  | le16 n => aimutilPutle16 (UInt16.ofNat n)
  | le32 n => aimutilPutle32 (UInt32.ofNat n)
  | raw v => v

end BsField

/-- Reading a field. -/
def BsType.get : BsType → StateM AimBstream BsValue
  | be8 => return .num (← aimbsGet8).toNat
  | be16 => return .num (← aimbsGet16).toNat
  | be32 => return .num (← aimbsGet32).toNat
  | le8 => return .num (← aimbsGetle8).toNat
  | le16 => return .num (← aimbsGetle16).toNat
  | le32 => return .num (← aimbsGetle32).toNat
  | raw len => return .block (← aimbsGetrawbuf len)

def putFields : List BsField → StateM AimBstream Unit
  | [] => return ()
  | f :: fs => do
    let _ ← f.put
    putFields fs

def getFields : List BsType → StateM AimBstream (List BsValue)
  | [] => return []
  | t :: ts => do
    let x ← t.get
    let xs ← getFields ts
    return x :: xs

/-! ## The offset stays inside -/

/-- A stream of this length with its offset inside. -/
structure Within (len : Nat) (bs : AimBstream) : Prop where
  len_eq : bs.len = len
  offset_le : bs.offset ≤ len

theorem within_aimBstreamInit (mem : List UInt8) {len : Nat} (hlen : len < 65536) :
    Within len (aimBstreamInit mem len) := by
  have hmod : ((len : Int) % 65536).toNat = len := by omega
  refine ⟨?_, Nat.zero_le _⟩
  simp only [aimBstreamInit, AimBstream.len, hmod, List.length_append, List.length_take,
    List.length_replicate]
  omega

/-- What a call may do to a stream: where it fits, store bytes, skip them or set the offset, and
nothing where it does not. -/
inductive BsEffect (fits : Prop) (bs : AimBstream) : AimBstream → Prop where
  | stores {v : List UInt8} (hfits : fits) (hv : v.length ≤ aimBstreamEmpty bs) :
    BsEffect fits bs (bs.store v)
  | skips {n : Nat} (hfits : fits) (hn : n ≤ aimBstreamEmpty bs) : BsEffect fits bs (bs.skip n)
  | sets {off : Nat} (hfits : fits) (hoff : off ≤ bs.len) :
    BsEffect fits bs { bs with offset := off }
  | leaves (hnot : ¬ fits) : BsEffect fits bs bs

namespace BsEffect

variable {fits : Prop} {len : Nat} {bs bs' : AimBstream}

/-- No effect moves the offset past the length. -/
theorem within (heffect : BsEffect fits bs bs') (h : Within len bs) : Within len bs' := by
  have hlen := h.len_eq
  have hle : bs.offset ≤ bs.len := hlen ▸ h.offset_le
  cases heffect with
  | stores hfits hv =>
    have hlen' := AimBstream.store_len hle hv
    have hle' := AimBstream.store_offset_le hle hv
    exact ⟨hlen'.trans hlen, by omega⟩
  | skips hfits hn =>
    unfold aimBstreamEmpty at hn
    refine ⟨hlen, ?_⟩
    rw [AimBstream.skip_offset]
    omega
  | sets hfits hoff => exact ⟨hlen, hlen ▸ hoff⟩
  | leaves hnot => exact h

theorem eq_of_not_fits (heffect : BsEffect fits bs bs') (hnot : ¬ fits) : bs' = bs := by
  cases heffect with
  | stores hfits hv => exact absurd hfits hnot
  | skips hfits hn => exact absurd hfits hnot
  | sets hfits hoff => exact absurd hfits hnot
  | leaves hnot' => rfl

theorem put {v : List UInt8} {n : Nat} (ret : Nat) (hlen : v.length = n) (bs : AimBstream) :
    BsEffect (n ≤ aimBstreamEmpty bs) bs (aimbsPut ret v bs).2 := by
  subst hlen
  unfold aimbsPut
  by_cases h : v.length ≤ aimBstreamEmpty bs
  · rw [if_neg (Nat.not_lt.mpr h)]
    exact .stores h h
  · rw [if_pos (Nat.not_le.mp h)]
    exact .leaves h

/-- The readers and `aim_bstream_advance` differ in what they return only. -/
theorem get {α : Type} (n : Nat) (x y : α) (bs : AimBstream) :
    BsEffect (n ≤ aimBstreamEmpty bs) bs
      (if aimBstreamEmpty bs < n then (x, bs) else (y, bs.skip n)).2 := by
  by_cases h : n ≤ aimBstreamEmpty bs
  · rw [if_neg (Nat.not_lt.mpr h)]
    exact .skips h h
  · rw [if_pos (Nat.not_le.mp h)]
    exact .leaves h

theorem setpos (off : Nat) (bs : AimBstream) :
    BsEffect (off ≤ bs.len) bs (aimBstreamSetpos off bs).2 := by
  by_cases h : off ≤ bs.len
  · rw [aimBstreamSetpos_of_le h]
    exact .sets h h
  · rw [aimBstreamSetpos_of_lt (Nat.not_le.mp h)]
    exact .leaves h

end BsEffect

theorem BsOp.effect (op : BsOp) (bs : AimBstream) : BsEffect (op.Fits bs) bs (op.exec bs) := by
  cases op with
  | put8 v => exact .put 1 (aimutilPut8_length v) bs
  | put16 v => exact .put 2 (aimutilPut16_length v) bs
  | put32 v => exact .put 1 (aimutilPut32_length v) bs
  | putle8 v => exact .put 1 (aimutilPutle8_length v) bs
  | putle16 v => exact .put 2 (aimutilPutle16_length v) bs
  | putle32 v => exact .put 1 (aimutilPutle32_length v) bs
  | putraw v n hn =>
    have hlen : (v.take n).length = n := by rw [List.length_take, Nat.min_eq_left hn]
    exact .put n hlen bs
  | get8 => exact .get 1 _ _ bs
  | get16 => exact .get 2 _ _ bs
  | get32 => exact .get 4 _ _ bs
  | getle8 => exact .get 1 _ _ bs
  | getle16 => exact .get 2 _ _ bs
  | getle32 => exact .get 4 _ _ bs
  | getrawbuf n => exact .get n _ _ bs
  | advance n => exact .get n _ _ bs
  | setpos off => exact .setpos off bs
  | rewind =>
    have hrewind := aimBstreamSetpos_of_le (Nat.zero_le bs.len)
    rw [exec, aimBstreamRewind, hrewind]
    exact .sets (Nat.zero_le _) (Nat.zero_le _)

/-- `aimbs_putbs` fits if both streams have the bytes, and has an effect on each of them. -/
theorem effect_aimbsPutbs (bs srcbs : AimBstream) (n : Nat) :
    let fits := n ≤ aimBstreamEmpty srcbs ∧ n ≤ aimBstreamEmpty bs
    BsEffect fits bs (aimbsPutbs bs srcbs n).2.1 ∧
      BsEffect fits srcbs (aimbsPutbs bs srcbs n).2.2 := by
  intro fits
  unfold aimbsPutbs
  by_cases hsrc : aimBstreamEmpty srcbs < n
  · have hnot : ¬ fits := fun h => absurd h.1 (Nat.not_le.mpr hsrc)
    rw [if_pos hsrc]
    exact ⟨.leaves hnot, .leaves hnot⟩
  · rw [if_neg hsrc]
    by_cases hbs : aimBstreamEmpty bs < n
    · have hnot : ¬ fits := fun h => absurd h.2 (Nat.not_le.mpr hbs)
      rw [if_pos hbs]
      exact ⟨.leaves hnot, .leaves hnot⟩
    · have hfits : fits := ⟨Nat.not_lt.mp hsrc, Nat.not_lt.mp hbs⟩
      have hcopied : (srcbs.rest.take n).length ≤ aimBstreamEmpty bs :=
        Nat.le_trans (List.length_take_le _ _) hfits.2
      rw [if_neg hbs]
      exact ⟨.stores hfits hcopied, .skips hfits hfits.1⟩

section Calls

variable {ι : Type} [DecidableEq ι] {len : ι → Nat} {s : ι → AimBstream}

theorem within_update (h : ∀ i, Within (len i) (s i)) {i : ι} {bs : AimBstream}
    (hbs : Within (len i) bs) (k : ι) : Within (len k) (Function.update s i bs k) := by
  by_cases hk : k = i
  · subst hk
    rwa [Function.update_self]
  · rw [Function.update_of_ne hk]
    exact h k

/-- A call that does not fit leaves every stream as it is. -/
theorem BsCall.exec_of_not_fits {c : BsCall ι} (h : ¬ c.Fits s) : c.exec s = s := by
  cases c with
  | op i f =>
    have hsame : f.exec (s i) = s i := (f.effect (s i)).eq_of_not_fits h
    rw [BsCall.exec, hsame, Function.update_eq_self]
  | putbs i j n hne =>
    obtain ⟨hbs, hsrc⟩ := effect_aimbsPutbs (s i) (s j) n
    show Function.update (Function.update s i (aimbsPutbs (s i) (s j) n).2.1) j
      (aimbsPutbs (s i) (s j) n).2.2 = s
    rw [hbs.eq_of_not_fits h, hsrc.eq_of_not_fits h, Function.update_eq_self,
      Function.update_eq_self]

/-- Every call keeps every offset inside. -/
theorem within_exec (h : ∀ i, Within (len i) (s i)) (c : BsCall ι) (i : ι) :
    Within (len i) (c.exec s i) := by
  cases c with
  | op k f => exact within_update h ((f.effect (s k)).within (h k)) i
  | putbs k j n hne =>
    obtain ⟨hbs, hsrc⟩ := effect_aimbsPutbs (s k) (s j) n
    exact within_update (within_update h (hbs.within (h k))) (hsrc.within (h j)) i

/-- Every sequence of calls keeps every offset inside. -/
theorem within_runCalls (calls : List (BsCall ι)) (h : ∀ i, Within (len i) (s i)) (i : ι) :
    Within (len i) (BsCall.runCalls calls s i) := by
  induction calls generalizing s with
  | nil => exact h i
  | cons c calls ih => exact ih (within_exec h c)

end Calls

/-! ## Written and read back -/

theorem BsField.length_bytes (f : BsField) : f.bytes.length = f.width := by
  cases f with
  | be8 n => exact aimutilPut8_length _
  | be16 n => exact aimutilPut16_length _
  | be32 n => exact aimutilPut32_length _
  | le8 n => exact aimutilPutle8_length _
  | le16 n => exact aimutilPutle16_length _
  | le32 n => exact aimutilPutle32_length _
  | raw v => rfl

theorem BsField.length_flatMap_bytes (fs : List BsField) :
    (fs.flatMap BsField.bytes).length = widths fs := by
  induction fs with
  | nil => rfl
  | cons f fs ih => rw [List.flatMap_cons, List.length_append, f.length_bytes, ih, widths]

theorem BsField.writes_put (f : BsField) : ∃ n, Writes f.put f.bytes n := by
  cases f with
  | be8 n => exact ⟨_, writes_aimbsPut8 _⟩
  | be16 n => exact ⟨_, writes_aimbsPut16 _⟩
  | be32 n => exact ⟨_, writes_aimbsPut32 _⟩
  | le8 n => exact ⟨_, writes_aimbsPutle8 _⟩
  | le16 n => exact ⟨_, writes_aimbsPutle16 _⟩
  | le32 n => exact ⟨_, writes_aimbsPutle32 _⟩
  | raw v => exact ⟨_, writes_aimbsPutraw rfl⟩

theorem writes_putFields (fs : List BsField) : Writes (putFields fs) (fs.flatMap BsField.bytes) ()
    := by
  induction fs with
  | nil => exact Writes.pure ()
  | cons f fs ih =>
    obtain ⟨n, hput⟩ := f.writes_put
    exact hput.bind ih

/-- A field is read as the value it was written with, cut to its width. -/
theorem BsField.reads_get (f : BsField) : Reads f.type.get f.bytes f.value := by
  cases f with
  | be8 n =>
    have h := (reads_aimbsGet8 (UInt8.ofNat n)).map fun x => BsValue.num x.toNat
    rwa [UInt8.toNat_ofNat'] at h
  | be16 n =>
    have h := (reads_aimbsGet16 (UInt16.ofNat n)).map fun x => BsValue.num x.toNat
    rwa [UInt16.toNat_ofNat'] at h
  | be32 n =>
    have h := (reads_aimbsGet32 (UInt32.ofNat n)).map fun x => BsValue.num x.toNat
    rwa [UInt32.toNat_ofNat'] at h
  | le8 n =>
    have h := (reads_aimbsGetle8 (UInt8.ofNat n)).map fun x => BsValue.num x.toNat
    rwa [UInt8.toNat_ofNat'] at h
  | le16 n =>
    have h := (reads_aimbsGetle16 (UInt16.ofNat n)).map fun x => BsValue.num x.toNat
    rwa [UInt16.toNat_ofNat'] at h
  | le32 n =>
    have h := (reads_aimbsGetle32 (UInt32.ofNat n)).map fun x => BsValue.num x.toNat
    rwa [UInt32.toNat_ofNat'] at h
  | raw v => exact (reads_aimbsGetrawbuf rfl).map BsValue.block

theorem reads_getFields (fs : List BsField) :
    Reads (getFields (fs.map BsField.type)) (fs.flatMap BsField.bytes) (fs.map BsField.value) := by
  induction fs with
  | nil => exact Reads.pure []
  | cons f fs ih =>
    exact f.reads_get.bind (ih.map fun xs => f.value :: xs)

theorem aimBstreamRewind_eq (bs : AimBstream) :
    (aimBstreamRewind bs).2 = { bs with offset := 0 } :=
  congrArg Prod.snd (aimBstreamSetpos_of_le (Nat.zero_le _))

/-- Fields written from the start of a stream that is long enough are read from its start, up to
the same offset. -/
theorem getFields_putFields {bs : AimBstream} {fs : List BsField} (hoff : bs.offset = 0)
    (hfits : BsField.widths fs ≤ bs.len) :
    let wrote := (putFields fs bs).2
    let (xs, read) := getFields (fs.map BsField.type) (aimBstreamRewind wrote).2
    xs = fs.map BsField.value ∧ read.offset = wrote.offset := by
  have hroom : (fs.flatMap BsField.bytes).length ≤ aimBstreamEmpty bs := by
    rw [BsField.length_flatMap_bytes, aimBstreamEmpty, hoff]
    exact hfits
  have hle : bs.offset ≤ bs.len := hoff ▸ Nat.zero_le _
  have hwrote : putFields fs bs = ((), bs.store (fs.flatMap BsField.bytes)) :=
    writes_putFields fs bs hle hroom
  have hrest : (aimBstreamRewind (bs.store (fs.flatMap BsField.bytes))).2.rest =
      fs.flatMap BsField.bytes ++ bs.rest.drop (fs.flatMap BsField.bytes).length := by
    rw [← rest_setpos_store hle, hoff]
    rfl
  have hread := reads_getFields fs _ _ hrest
  simp only [hwrote, hread, true_and]
  rw [AimBstream.skip_offset, aimBstreamRewind_eq, AimBstream.store_offset, hoff]

/-- The laws: after any calls on any streams shorter than 65536 bytes, no offset has passed the
length of its stream; a call that does not fit leaves all the streams as they are; and fields that
fit are read back from the start of any stream they were written to, modulo their widths and up to
the same offset. -/
theorem bstream_laws {ι : Type} [DecidableEq ι] (mem : ι → List UInt8) (len : ι → Nat)
    (hlen : ∀ i, len i < 65536) (calls : List (BsCall ι)) :
    let s := BsCall.runCalls calls fun i => aimBstreamInit (mem i) (len i)
    (∀ i, (s i).len = len i ∧ (s i).offset ≤ (s i).len) ∧
    (∀ c : BsCall ι, ¬ c.Fits s → c.exec s = s) ∧
    ∀ i fs, BsField.widths fs ≤ (s i).len →
      let wrote := (putFields fs (aimBstreamRewind (s i)).2).2
      let (xs, read) := getFields (fs.map BsField.type) (aimBstreamRewind wrote).2
      xs = fs.map BsField.value ∧ read.offset = wrote.offset := by
  intro s
  have hs : ∀ i, Within (len i) (s i) :=
    within_runCalls calls fun i => within_aimBstreamInit (mem i) (hlen i)
  refine ⟨?_, ?_, ?_⟩
  · intro i
    have hlen := (hs i).len_eq
    have hle := (hs i).offset_le
    exact ⟨hlen, by omega⟩
  · intro c hc
    exact BsCall.exec_of_not_fits hc
  · intro i fs hfits
    rw [aimBstreamRewind_eq (s i)]
    exact getFields_putFields rfl hfits

/-- Two bytes written into one stream of four, and the two after them copied to another. -/
theorem bstream_laws_putbs :
    let s := BsCall.runCalls [.op true (.put16 258), .putbs false true 2 Bool.false_ne_true]
      fun _ => aimBstreamInit [1, 2, 3, 4] (4 : Nat)
    (s false).len = 4 ∧ (s false).offset ≤ (s false).len :=
  (bstream_laws (fun _ => [1, 2, 3, 4]) (fun _ => 4) (fun _ => by omega)
    [.op true (.put16 258), .putbs false true 2 Bool.false_ne_true]).1 false

end Libfaim
