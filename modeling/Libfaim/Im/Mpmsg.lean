import Libfaim.Im
import Libfaim.Memory

/-!
# Building a multipart message (`im.c`)

`aim_mpmsg_addraw`, `aim_mpmsg_addascii` and `aim_mpmsg_addunicode` copy what they are given and
append a section for the copy. The length of a section has sixteen bits. `aim_mpmsg_addraw` takes
one of that size, the other two cut what they compute: the length of the string, and twice the
number of units, which goes through the length of a stream as well.
-/

namespace Libfaim

/-- `aim_mpmsg_addraw`, where `data` points to at least `datalen` bytes. -/
def aimMpmsgAddraw (mpm : AimMpmsg) (charset charsubset : UInt16) (data : List UInt8)
    (datalen : UInt16) : Int × AimMpmsg :=
  mpmsgAddsection mpm charset charsubset (some (data.take datalen.toNat)) datalen

/-- `aim_mpmsg_addascii`. `strlen` is passed as a `fu16_t`. -/
def aimMpmsgAddascii (mpm : AimMpmsg) (ascii : List UInt8) : Int × AimMpmsg :=
  mpmsgAddsection mpm 0x0000 0x0000 (some (strdup ascii)) (UInt16.ofNat (strlen ascii))

/-- The loop of `aim_mpmsg_addunicode`. -/
def putUnicode : List UInt16 → StateM AimBstream Unit
  | [] => pure ()
  | u :: unicode => do
    let _ ← aimbsPut16 u
    putUnicode unicode

/-- `aim_mpmsg_addunicode`, where `unicode` points to at least `unicodelen` units. The buffer goes
on where the stream, whose length has sixteen bits, ends. -/
def aimMpmsgAddunicode (mem : Memory) (mpm : AimMpmsg) (unicode : List UInt16)
    (unicodelen : UInt16) : Int × AimMpmsg :=
  let buf := mem.malloc (unicodelen.toNat * 2)
  let bs := aimBstreamInit buf (unicodelen.toNat * 2 : Nat)
  let (_, bs) := putUnicode (unicode.take unicodelen.toNat) bs
  mpmsgAddsection mpm 0x0002 0x0000 (some (bs.data ++ buf.drop bs.len))
    (UInt16.ofNat (aimBstreamCurpos bs))

/-! ## What is appended -/

/-- If the result is 0, the call has appended a section that holds the whole of `input` and has its
length. -/
def SectionAdded (mpm : AimMpmsg) (r : Int × AimMpmsg) (input : List UInt8) : Prop :=
  r.1 = 0 → ∃ sec v, r.2.parts = mpm.parts ++ [sec] ∧ sec.data = some v ∧
    v.take sec.datalen.toNat = input ∧ sec.datalen.toNat = input.length

section Added

variable {mpm : AimMpmsg} {charset charsubset : UInt16} {data input : List UInt8}

/-- A section with the bytes of the input first and their number as its length. -/
theorem mpmsgAddsection_added {r : List UInt8} (h : input.length < 65536)
    (hdata : data = input ++ r) :
    SectionAdded mpm
      (mpmsgAddsection mpm charset charsubset (some data) (UInt16.ofNat input.length)) input := by
  intro _
  have hlen : (UInt16.ofNat input.length).toNat = input.length := by
    rw [UInt16.toNat_ofNat', Nat.mod_eq_of_lt h]
  refine ⟨_, data, rfl, rfl, ?_, hlen⟩
  show data.take (UInt16.ofNat input.length).toNat = input
  rw [hlen, hdata, List.take_left]

/-- No section has a length of 65536 or more. -/
theorem length_of_mpmsgAddsection_added {datalen : UInt16} {v : Option (List UInt8)}
    (h : SectionAdded mpm (mpmsgAddsection mpm charset charsubset v datalen) input) :
    input.length < 65536 := by
  obtain ⟨sec, v, -, -, -, hlen⟩ := h rfl
  rw [← hlen]
  exact sec.datalen.toNat_lt

theorem length_of_aimMpmsgAddascii_added {ascii : List UInt8}
    (h : SectionAdded mpm (aimMpmsgAddascii mpm ascii) input) : input.length < 65536 :=
  length_of_mpmsgAddsection_added h

theorem length_of_aimMpmsgAddunicode_added {mem : Memory} {unicode : List UInt16}
    {unicodelen : UInt16}
    (h : SectionAdded mpm (aimMpmsgAddunicode mem mpm unicode unicodelen) input) :
    input.length < 65536 :=
  length_of_mpmsgAddsection_added h

end Added

theorem writes_putUnicode (unicode : List UInt16) :
    Writes (putUnicode unicode) (unicode.flatMap aimutilPut16) () := by
  induction unicode with
  | nil => exact Writes.pure ()
  | cons u unicode ih => exact (writes_aimbsPut16 u).bind ih

theorem length_flatMap_aimutilPut16 (unicode : List UInt16) :
    (unicode.flatMap aimutilPut16).length = unicode.length * 2 := by
  induction unicode with
  | nil => rfl
  | cons u unicode ih =>
    rw [List.flatMap_cons, List.length_append, ih, aimutilPut16_length, List.length_cons]
    omega

/-- Where the buffer is short enough for a stream, it is full of the units. -/
theorem aimMpmsgAddunicode_eq {unicode : List UInt16} {unicodelen : UInt16}
    (hlen : unicode.length = unicodelen.toNat) (h : unicode.length < 32768) (mem : Memory)
    (mpm : AimMpmsg) :
    aimMpmsgAddunicode mem mpm unicode unicodelen =
      mpmsgAddsection mpm 0x0002 0x0000 (some (unicode.flatMap aimutilPut16))
        (UInt16.ofNat (unicode.flatMap aimutilPut16).length) := by
  have hbytes := length_flatMap_aimutilPut16 unicode
  have htake : unicode.take unicodelen.toNat = unicode := List.take_of_length_le (by omega)
  have hput := (writes_putUnicode unicode).init_buffer (by omega)
    (mem.length_malloc (unicode.flatMap aimutilPut16).length)
  have hsize : unicodelen.toNat * 2 = (unicode.flatMap aimutilPut16).length := by omega
  have hdrop : (mem.malloc (unicode.flatMap aimutilPut16).length).drop
      (unicode.flatMap aimutilPut16).length = [] :=
    List.drop_eq_nil_of_le (Nat.le_of_eq (mem.length_malloc _))
  unfold aimMpmsgAddunicode
  simp only [htake, hsize, hput, AimBstream.len, hdrop, List.append_nil, aimBstreamCurpos]

/-- The section of `aim_mpmsg_addascii` holds the string exactly if the string is shorter than 65536
bytes, and that of `aim_mpmsg_addunicode` the units, most significant byte first, exactly if there
are fewer than 32768. -/
theorem mpmsgAdd_iff (mem : Memory) (mpm : AimMpmsg) (ascii : List UInt8) (unicode : List UInt16)
    (unicodelen : UInt16) (hlen : unicode.length = unicodelen.toNat) :
    (SectionAdded mpm (aimMpmsgAddascii mpm ascii) (cstr ascii) ↔ strlen ascii < 65536) ∧
    (SectionAdded mpm (aimMpmsgAddunicode mem mpm unicode unicodelen)
      (unicode.flatMap aimutilPut16) ↔ unicode.length < 32768) := by
  refine ⟨⟨length_of_aimMpmsgAddascii_added, ?_⟩, ⟨?_, ?_⟩⟩
  · intro h
    exact mpmsgAddsection_added h rfl
  · intro h
    have hlt := length_of_aimMpmsgAddunicode_added h
    rw [length_flatMap_aimutilPut16] at hlt
    omega
  · intro h
    rw [aimMpmsgAddunicode_eq hlen h]
    refine mpmsgAddsection_added ?_ (List.append_nil _).symm
    rw [length_flatMap_aimutilPut16]
    omega

/-- Three letters and two units. -/
theorem mpmsgAdd_short :
    (SectionAdded aimMpmsgInit (aimMpmsgAddascii aimMpmsgInit [0x61, 0x62, 0x63])
      (cstr [0x61, 0x62, 0x63]) ↔ strlen [0x61, 0x62, 0x63] < 65536) ∧
    (SectionAdded aimMpmsgInit (aimMpmsgAddunicode (fun _ => 0xff) aimMpmsgInit
        [0x0061, 0x20ac] 2)
      ([0x0061, 0x20ac].flatMap aimutilPut16) ↔ [0x0061, 0x20ac].length < 32768) :=
  mpmsgAdd_iff (fun _ => 0xff) aimMpmsgInit [0x61, 0x62, 0x63] [0x0061, 0x20ac] 2 rfl

/-- A string of 65536 letters is appended with the length zero, and so are 32768 units. -/
theorem not_mpmsgAdd_long :
    ¬ SectionAdded aimMpmsgInit (aimMpmsgAddascii aimMpmsgInit (List.replicate 65536 0x61))
      (List.replicate 65536 0x61) ∧
    ¬ SectionAdded aimMpmsgInit
      (aimMpmsgAddunicode (fun _ => 0xff) aimMpmsgInit (List.replicate 32768 0x0061) 32768)
      ((List.replicate 32768 0x0061).flatMap aimutilPut16) := by
  refine ⟨?_, ?_⟩
  · intro h
    have hlt := length_of_aimMpmsgAddascii_added h
    rw [List.length_replicate] at hlt
    exact Nat.lt_irrefl _ hlt
  · intro h
    have hlt := length_of_aimMpmsgAddunicode_added h
    rw [length_flatMap_aimutilPut16, List.length_replicate] at hlt
    exact Nat.lt_irrefl _ hlt

end Libfaim
