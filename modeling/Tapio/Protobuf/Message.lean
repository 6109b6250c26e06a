/-
# Messages as fields

A message is a sequence of fields. A field begins with a key, which holds its number and
how its value is written, so that a reader who does not know the field can pass over it. The
fields that were written are the fields that are read.
-/
import Tapio.Layout.Scalar
import Tapio.Protobuf.Varint

namespace Protobuf

open Layout

abbrev FieldNumber := {n : ℕ // 0 < n ∧ n < 2 ^ 29}

def tag (n : ℕ) (h : 0 < n ∧ n < 2 ^ 29 := by decide) : FieldNumber := ⟨n, h⟩

/-- A value as a reader without the schema sees it. -/
inductive WireValue
  | varint (value : UInt64)
  | fixed64 (value : UInt64)
  | bytes (payload : List UInt8)
  | fixed32 (value : UInt32)

structure Field where
  number : FieldNumber
  value : WireValue

/-! ## Writing -/

def WireValue.wireType : WireValue → ℕ
  | varint _ => 0
  | fixed64 _ => 1
  | bytes _ => 2
  | fixed32 _ => 5

def WireValue.encode : WireValue → List UInt8
  | varint value => encodeVarint value.toNat
  | fixed64 value => lowBytes 8 value.toNat
  | bytes payload => encodeVarint payload.length ++ payload
  | fixed32 value => lowBytes 4 value.toNat

def Field.encode (field : Field) : List UInt8 :=
  encodeVarint (8 * field.number + field.value.wireType) ++ field.value.encode

def encodeMessage (fields : List Field) : List UInt8 := fields.flatMap Field.encode

/-! ## Reading -/

/-- Read bytes from the front, if there are as many. -/
def readBytes (count : ℕ) (input : List UInt8) : Option (List UInt8 × List UInt8) :=
  if input.length < count then none else some (input.take count, input.drop count)

/-- Groups, the wire types three and four, are not read. -/
def readValue (wireType : ℕ) (input : List UInt8) : Option (WireValue × List UInt8) :=
  match wireType with
  | 0 => do
      let (value, rest) ← readVarint input
      return (.varint (.ofNat value), rest)
  | 1 => do
      let (bytes, rest) ← readBytes 8 input
      return (.fixed64 (.ofNat (ofLowBytes bytes)), rest)
  | 2 => do
      let (length, rest) ← readVarint input
      let (payload, rest) ← readBytes length rest
      return (.bytes payload, rest)
  | 5 => do
      let (bytes, rest) ← readBytes 4 input
      return (.fixed32 (.ofNat (ofLowBytes bytes)), rest)
  | _ => none

def readField (input : List UInt8) : Option (Field × List UInt8) := do
  let (key, rest) ← readVarint input
  if h : 0 < key / 8 ∧ key / 8 < 2 ^ 29 then do
    let (value, rest) ← readValue (key % 8) rest
    return (⟨⟨key / 8, h⟩, value⟩, rest)
  else none

/-- Read the fields of a message, at most as many as given. -/
def decodeWithin : ℕ → List UInt8 → Option (List Field)
  | _, [] => some []
  | 0, _ :: _ => none
  | count + 1, byte :: input => do
      let (field, rest) ← readField (byte :: input)
      return field :: (← decodeWithin count rest)

def decodeMessage (input : List UInt8) : Option (List Field) := decodeWithin input.length input

/-! ## What is written is read -/

/-- The length of the payload can be written. -/
def WireValue.Fits (value : WireValue) : Prop := value.encode.length < 2 ^ 64

theorem readBytes_append {bytes : List UInt8} {count : ℕ} (h : bytes.length = count)
    (rest : List UInt8) : readBytes count (bytes ++ rest) = some (bytes, rest) := by
  rw [readBytes, if_neg, List.take_left' h, List.drop_left' h]
  rw [List.length_append]
  omega

theorem readValue_encode {value : WireValue} (h : value.Fits) (rest : List UInt8) :
    readValue value.wireType (value.encode ++ rest) = some (value, rest) := by
  cases value with
  | varint value =>
      rw [WireValue.encode, WireValue.wireType, readValue, readVarint_encode value.toNat_lt]
      simp
  | fixed64 value =>
      rw [WireValue.encode, WireValue.wireType, readValue,
        readBytes_append (length_lowBytes 8 value.toNat)]
      simp [ofLowBytes_lowBytes (show value.toNat < 256 ^ 8 from value.toNat_lt)]
  | bytes payload =>
      have hlength : payload.length < 2 ^ 64 := by
        rw [WireValue.Fits, WireValue.encode, List.length_append] at h
        omega
      rw [WireValue.encode, WireValue.wireType, readValue, List.append_assoc,
        readVarint_encode hlength]
      simp [readBytes_append rfl]
  | fixed32 value =>
      rw [WireValue.encode, WireValue.wireType, readValue,
        readBytes_append (length_lowBytes 4 value.toNat)]
      simp [ofLowBytes_lowBytes (show value.toNat < 256 ^ 4 from value.toNat_lt)]

theorem wireType_lt (value : WireValue) : value.wireType < 8 := by
  cases value <;> simp [WireValue.wireType]

theorem readField_encode {field : Field} (h : field.value.Fits) (rest : List UInt8) :
    readField (field.encode ++ rest) = some (field, rest) := by
  obtain ⟨⟨number, hnumber⟩, value⟩ := field
  have htype := wireType_lt value
  have hkey : 8 * number + value.wireType < 2 ^ 64 := by omega
  have hdiv : (8 * number + value.wireType) / 8 = number := by omega
  have hmod : (8 * number + value.wireType) % 8 = value.wireType := by omega
  rw [readField, Field.encode, List.append_assoc, readVarint_encode hkey]
  simp only [Option.bind_eq_bind, Option.bind_some, hdiv, hmod, dif_pos hnumber]
  rw [readValue_encode h]
  rfl

theorem length_encode_pos (field : Field) : 0 < field.encode.length := by
  have hkey := length_encodeVarint_pos (8 * field.number + field.value.wireType)
  rw [Field.encode, List.length_append]
  omega

theorem decodeWithin_encodeMessage {fields : List Field}
    (h : ∀ field ∈ fields, field.value.Fits) {count : ℕ} (hcount : fields.length ≤ count) :
    decodeWithin count (encodeMessage fields) = some fields := by
  induction fields generalizing count with
  | nil => rw [encodeMessage, List.flatMap_nil, decodeWithin]
  | cons field fields ih =>
      obtain ⟨hfield, hfields⟩ := List.forall_mem_cons.mp h
      obtain ⟨count, rfl⟩ : ∃ n, count = n + 1 := ⟨count - 1, by simp at hcount; omega⟩
      have hmessage : encodeMessage (field :: fields) = field.encode ++ encodeMessage fields :=
        List.flatMap_cons
      obtain ⟨byte, bytes, hbytes⟩ :
          ∃ byte bytes, field.encode ++ encodeMessage fields = byte :: bytes :=
        List.exists_cons_of_length_pos (by
          have := length_encode_pos field
          rw [List.length_append]
          omega)
      rw [hmessage, hbytes, decodeWithin, ← hbytes, readField_encode hfield]
      simp only [Option.bind_eq_bind, Option.bind_some]
      rw [ih hfields (Nat.le_of_succ_le_succ hcount)]
      rfl

/-- A part of a message is no longer than the message. -/
theorem length_le_encodeMessage {field : Field} {fields : List Field} (h : field ∈ fields) :
    field.value.encode.length ≤ (encodeMessage fields).length := by
  have hpart : field.encode.length ≤ (encodeMessage fields).length :=
    (List.sublist_flatten_of_mem (List.mem_map_of_mem h)).length_le
  rw [Field.encode, List.length_append] at hpart
  omega

theorem length_payload_le {number : FieldNumber} {payload : List UInt8} {fields : List Field}
    (h : ⟨number, .bytes payload⟩ ∈ fields) : payload.length ≤ (encodeMessage fields).length := by
  have hvalue := length_le_encodeMessage h
  rw [WireValue.encode, List.length_append] at hvalue
  omega

theorem length_le_length_encodeMessage (fields : List Field) :
    fields.length ≤ (encodeMessage fields).length := by
  induction fields with
  | nil => exact Nat.le_refl 0
  | cons field fields ih =>
      have hfield := length_encode_pos field
      rw [encodeMessage, List.flatMap_cons, List.length_append, List.length_cons, Nat.add_comm]
      exact Nat.add_le_add hfield ih

/-- **Messages round trip.** A message that fits into 64 bits is read as it was written. -/
theorem decodeMessage_encodeMessage {fields : List Field}
    (h : (encodeMessage fields).length < 2 ^ 64) :
    decodeMessage (encodeMessage fields) = some fields :=
  decodeWithin_encodeMessage
    (fun _ hmem => (length_le_encodeMessage hmem).trans_lt h)
    (length_le_length_encodeMessage fields)

end Protobuf
