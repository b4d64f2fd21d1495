import Mathlib.Data.List.Basic
import Mathlib.Algebra.Order.Group.Nat
import Mathlib.Tactic.Ring

/-! # Length-prefixed framing of byte streams

A frame is the length of its payload as a little-endian number of fixed width,
followed by the payload. A list of payloads is sent as the concatenation of its
frames. The lemmas say how far a prefix of that stream determines the payloads: a
complete length field names the length of the next payload, and as many bytes after
it are that payload.
-/

namespace Foundation

abbrev Bytes := List UInt8

/-- The `width` low-order bytes of a number, least significant byte first. -/
def leEncode : Nat → Nat → Bytes
  | 0, _ => []
  | width + 1, value => UInt8.ofNat value :: leEncode width (value / 256)

def leDecode : Bytes → Nat
  | [] => 0
  | byte :: rest => byte.toNat + 256 * leDecode rest

@[simp] theorem leEncode_length (width value : Nat) : (leEncode width value).length = width := by
  induction width generalizing value with
  | zero => rfl
  | succ width ih => simp [leEncode, ih]

theorem leDecode_leEncode (width value : Nat) (hvalue : value < 256 ^ width) :
    leDecode (leEncode width value) = value := by
  induction width generalizing value with
  | zero =>
      have hzero : value = 0 := by simpa using hvalue
      simp [leEncode, leDecode, hzero]
  | succ width ih =>
      have hdiv : value / 256 < 256 ^ width := by
        rw [Nat.div_lt_iff_lt_mul (by decide)]
        rwa [pow_succ] at hvalue
      rw [leEncode, leDecode, ih _ hdiv, UInt8.toNat_ofNat']
      omega

theorem leDecode_lt (bytes : Bytes) : leDecode bytes < 256 ^ bytes.length := by
  induction bytes with
  | nil => simp [leDecode]
  | cons byte rest ih =>
      have hbyte := byte.toNat_lt
      rw [leDecode, List.length_cons, pow_succ]
      omega

/-- Every field of the right width is the encoding of its number. -/
theorem leEncode_leDecode (bytes : Bytes) : leEncode bytes.length (leDecode bytes) = bytes := by
  induction bytes with
  | nil => rfl
  | cons byte rest ih =>
      have hbyte := byte.toNat_lt
      have hhead : UInt8.ofNat (byte.toNat + 256 * leDecode rest) = byte := by
        apply UInt8.toNat_inj.mp
        rw [UInt8.toNat_ofNat']
        omega
      have htail : (byte.toNat + 256 * leDecode rest) / 256 = leDecode rest := by omega
      rw [List.length_cons, leDecode, leEncode, hhead, htail, ih]

section Frames

variable (width : Nat)

/-- The length field of a payload, then the payload. -/
def frame (payload : Bytes) : Bytes :=
  leEncode width payload.length ++ payload

/-- The byte stream of a list of payloads. -/
def wire (payloads : List Bytes) : Bytes :=
  payloads.flatMap (frame width)

@[simp] theorem wire_cons (payload : Bytes) (rest : List Bytes) :
    wire width (payload :: rest) = frame width payload ++ wire width rest := rfl

variable {width}

/-- A nonempty stream has a first frame. -/
theorem exists_payload_of_wire {payloads : List Bytes} (hne : wire width payloads ≠ []) :
    ∃ payload rest, payloads = payload :: rest := by
  cases payloads with
  | nil => exact absurd rfl hne
  | cons payload rest => exact ⟨payload, rest, rfl⟩

/-- The first `width` bytes of a stream are the length field of its first payload. -/
theorem payload_of_length_field {payloads : List Bytes} {field suffix : Bytes}
    (hwire : wire width payloads = field ++ suffix) (hfield : field.length = width)
    (hwidth : 0 < width) :
    ∃ payload rest, payloads = payload :: rest ∧ field = leEncode width payload.length ∧
      suffix = payload ++ wire width rest := by
  have hne : wire width payloads ≠ [] := by
    intro hempty
    rw [hempty] at hwire
    have := congrArg List.length hwire
    simp [hfield] at this
    omega
  obtain ⟨payload, rest, rfl⟩ := exists_payload_of_wire hne
  rw [wire_cons, frame, List.append_assoc] at hwire
  obtain ⟨hhead, htail⟩ := List.append_inj hwire (by simp [hfield])
  exact ⟨payload, rest, rfl, hhead.symm, htail.symm⟩

/-- No stream ends inside a frame. -/
theorem not_wire_of_incomplete {payloads : List Bytes} {field got : Bytes} {size : Nat}
    (hfield : field = leEncode width size) (hsize : size < 256 ^ width)
    (hbound : ∀ payload ∈ payloads, payload.length < 256 ^ width) (hwidth : 0 < width)
    (hgot : got.length < size) : wire width payloads ≠ field ++ got := by
  intro hwire
  obtain ⟨payload, rest, rfl, hlength, hsuffix⟩ :=
    payload_of_length_field hwire (by simp [hfield]) hwidth
  have hsame : size = payload.length := by
    rw [← leDecode_leEncode width size hsize, ← hfield, hlength,
      leDecode_leEncode width payload.length (hbound payload (by simp))]
  have := congrArg List.length hsuffix
  simp at this
  omega

/-- No nonempty stream is shorter than a length field. -/
theorem not_wire_of_short {payloads : List Bytes} {got : Bytes} (hne : got ≠ [])
    (hgot : got.length < width) : wire width payloads ≠ got := by
  intro hwire
  obtain ⟨payload, rest, rfl⟩ := exists_payload_of_wire (hwire ▸ hne)
  have := congrArg List.length hwire
  simp [frame] at this
  omega

end Frames

section Parse

variable (width : Nat)

/-- The first frame of a byte string and what follows it, if the frame is complete. -/
def parseFrame (bytes : Bytes) : Option (Bytes × Bytes) :=
  if bytes.length < width then none
  else if (bytes.drop width).length < leDecode (bytes.take width) then none
  else some ((bytes.drop width).take (leDecode (bytes.take width)),
    (bytes.drop width).drop (leDecode (bytes.take width)))

/-- At most so many complete frames, and the rest. -/
def parse : Nat → Bytes → List Bytes × Bytes
  | 0, bytes => ([], bytes)
  | fuel + 1, bytes =>
      match parseFrame width bytes with
      | none => ([], bytes)
      | some (payload, rest) => (payload :: (parse fuel rest).1, (parse fuel rest).2)

/-- The payloads of the maximal sequence of complete frames at the front, and the rest. -/
def frames (bytes : Bytes) : List Bytes × Bytes :=
  parse width bytes.length bytes

/-- The byte string starts with the frames of these payloads, of sizes that the length
field can hold, and does not go on with a complete frame. -/
structure Splits (bytes : Bytes) (payloads : List Bytes) (rest : Bytes) : Prop where
  wire : bytes = wire width payloads ++ rest
  bounded : ∀ payload ∈ payloads, payload.length < 256 ^ width
  maximal : parseFrame width rest = none

variable {width}

/-- A frame is parsed exactly when it is there. -/
theorem parseFrame_eq_some {bytes payload rest : Bytes} :
    parseFrame width bytes = some (payload, rest) ↔
      bytes = frame width payload ++ rest ∧ payload.length < 256 ^ width := by
  constructor
  · intro hparse
    unfold parseFrame at hparse
    split at hparse
    · cases hparse
    next hlong =>
    split at hparse
    · cases hparse
    next henough =>
    have hfield : (bytes.take width).length = width := by
      rw [List.length_take]
      omega
    have hsize := leDecode_lt (bytes.take width)
    obtain ⟨rfl, rfl⟩ := Prod.mk.inj (Option.some.inj hparse)
    have hlength : ((bytes.drop width).take (leDecode (bytes.take width))).length =
        leDecode (bytes.take width) := by
      rw [List.length_take]
      omega
    have hencoded := leEncode_leDecode (bytes.take width)
    rw [hfield] at hsize hencoded
    refine ⟨?_, by rw [hlength]; exact hsize⟩
    rw [frame, hlength, hencoded, List.append_assoc, List.take_append_drop,
      List.take_append_drop]
  · rintro ⟨rfl, hbound⟩
    have hdecoded := leDecode_leEncode width payload.length hbound
    have htake : (frame width payload ++ rest).take width = leEncode width payload.length := by
      rw [frame, List.append_assoc, List.take_left' (leEncode_length _ _)]
    have hdrop : (frame width payload ++ rest).drop width = payload ++ rest := by
      rw [frame, List.append_assoc, List.drop_left' (leEncode_length _ _)]
    rw [parseFrame, htake, hdrop, hdecoded]
    simp [frame]

theorem parse_splits (hwidth : 0 < width) (fuel : Nat) (bytes : Bytes)
    (hfuel : bytes.length ≤ fuel) :
    Splits width bytes (parse width fuel bytes).1 (parse width fuel bytes).2 := by
  induction fuel generalizing bytes with
  | zero =>
      have hempty : bytes = [] := List.eq_nil_of_length_eq_zero (by omega)
      subst hempty
      exact ⟨rfl, by simp [parse], by simp [parse, parseFrame, hwidth]⟩
  | succ fuel ih =>
      rw [parse]
      split
      next hnone => exact ⟨rfl, by simp, hnone⟩
      next payload rest hsome =>
        obtain ⟨hbytes, hbound⟩ := parseFrame_eq_some.mp hsome
        have hshorter : rest.length ≤ fuel := by
          have hlength := congrArg List.length hbytes
          simp [frame] at hlength
          omega
        obtain ⟨hwire, hbounded, hmaximal⟩ := ih rest hshorter
        refine ⟨?_, ?_, hmaximal⟩
        · rw [wire_cons, List.append_assoc, ← hwire]
          exact hbytes
        · simpa using ⟨hbound, hbounded⟩

/-- The parser finds the maximal sequence of complete frames. -/
theorem frames_splits (hwidth : 0 < width) (bytes : Bytes) :
    Splits width bytes (frames width bytes).1 (frames width bytes).2 :=
  parse_splits hwidth bytes.length bytes (Nat.le_refl _)

end Parse

end Foundation
