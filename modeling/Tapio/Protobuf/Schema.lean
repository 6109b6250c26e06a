/-
# Schemas

A schema says how the values of a type are written as the fields of a message and read from
them, and carries the proof that what was written is read. A scalar at its default is not
written, and of several fields with the number of a scalar the last one counts. A message
inside a message may come in parts, which are read one after the other as one.
-/
import Mathlib.Data.List.Monad
import Tapio.Protobuf.Message

namespace Protobuf

structure Schema (α : Type) where
  fields : α → List Field
  read : List Field → Option α
  read_fields : ∀ a, (encodeMessage (fields a)).length < 2 ^ 64 → read (fields a) = some a

namespace Schema

variable {α : Type} (S : Schema α)

def encode (a : α) : List UInt8 := encodeMessage (S.fields a)

def decode (input : List UInt8) : Option α := (decodeMessage input).bind S.read

/-- **Values round trip** through their bytes. -/
theorem decode_encode {a : α} (h : (S.encode a).length < 2 ^ 64) :
    S.decode (S.encode a) = some a := by
  rw [decode, encode, decodeMessage_encodeMessage h, Option.bind_some, S.read_fields a h]

end Schema

/-! ## Fields by number -/

def fieldsAt (number : FieldNumber) (values : List WireValue) : List Field :=
  values.map (Field.mk number)

/-- The values of the fields with a number, in order. -/
def valuesOf (number : FieldNumber) (fields : List Field) : List WireValue :=
  (fields.filter fun field => field.number = number).map (·.value)

@[simp]
theorem valuesOf_append (number : FieldNumber) (first second : List Field) :
    valuesOf number (first ++ second) = valuesOf number first ++ valuesOf number second := by
  rw [valuesOf, List.filter_append, List.map_append]
  rfl

@[simp]
theorem valuesOf_fieldsAt (number : FieldNumber) (values : List WireValue) :
    valuesOf number (fieldsAt number values) = values := by
  induction values with
  | nil => rfl
  | cons value values ih =>
      rw [fieldsAt, List.map_cons, valuesOf, List.filter_cons_of_pos (by simp)]
      exact congrArg (value :: ·) ih

theorem valuesOf_fieldsAt_of_ne {number other : FieldNumber} (h : other ≠ number)
    (values : List WireValue) : valuesOf number (fieldsAt other values) = [] := by
  rw [valuesOf, fieldsAt, List.filter_eq_nil_iff.mpr]
  · rfl
  · intro field hfield
    obtain ⟨value, -, rfl⟩ := List.mem_map.mp hfield
    simpa using h

/-! ## Scalars -/

/-- The last value counts; without one it is the default. -/
def readLast {α : Type} (read : WireValue → Option α) (default : α)
    (values : List WireValue) : Option α :=
  values.foldlM (fun _ value => read value) default

/-- What is written of a scalar: nothing, if it is the default. -/
def scalarValues {α : Type} [DecidableEq α] (write : α → WireValue) (default a : α) :
    List WireValue :=
  if a = default then [] else [write a]

theorem readLast_scalarValues {α : Type} [DecidableEq α] {read : WireValue → Option α}
    {write : α → WireValue} (hread : ∀ a, read (write a) = some a) (default a : α) :
    readLast read default (scalarValues write default a) = some a := by
  rw [scalarValues]
  split_ifs with hdefault
  · rw [hdefault]
    rfl
  · rw [readLast, List.foldlM_cons, hread]
    rfl

def WireValue.payload : WireValue → Option (List UInt8)
  | bytes payload => some payload
  | _ => none

def utf8Bytes (s : String) : List UInt8 := s.toByteArray.data.toList

def WireValue.ofString (s : String) : WireValue := .bytes (utf8Bytes s)

def WireValue.toString? (value : WireValue) : Option String :=
  value.payload.bind fun payload => String.fromUTF8? payload.toByteArray

theorem toString?_ofString (s : String) : (WireValue.ofString s).toString? = some s := by
  have hbytes : (utf8Bytes s).toByteArray = s.toByteArray := by
    ext1
    simp [utf8Bytes]
  rw [WireValue.ofString, WireValue.toString?, WireValue.payload, Option.bind_some, hbytes,
    String.fromUTF8?, dif_pos s.isValidUTF8]
  rfl

/-- A number of 32 bits is extended to 64 with its sign, and cut off again. -/
def WireValue.ofInt32 (n : Int32) : WireValue := .varint n.toInt64.toUInt64

def WireValue.toInt32? : WireValue → Option Int32
  | varint value => some value.toInt64.toInt32
  | _ => none

theorem toInt32?_ofInt32 (n : Int32) : (WireValue.ofInt32 n).toInt32? = some n := by
  rw [WireValue.ofInt32, WireValue.toInt32?]
  simp

def WireValue.toFixed64? : WireValue → Option UInt64
  | fixed64 value => some value
  | _ => none

theorem toFixed64?_fixed64 (n : UInt64) : (WireValue.fixed64 n).toFixed64? = some n := rfl

/-! ## Messages in messages -/

namespace Schema

variable {α : Type} (S : Schema α)

def optionalValues (a : Option α) : List WireValue := (a.map fun a => .bytes (S.encode a)).toList

def repeatedValues (as : List α) : List WireValue := as.map fun a => .bytes (S.encode a)

def readOptional (values : List WireValue) : Option (Option α) :=
  if values.isEmpty then some none
  else do
    let payloads ← values.mapM WireValue.payload
    return some (← S.decode payloads.flatten)

def readRepeated (values : List WireValue) : Option (List α) :=
  values.mapM fun value => value.payload.bind S.decode

variable {S} {number : FieldNumber} {fields : List Field}

theorem readOptional_optionalValues {a : Option α}
    (hpart : ∀ field ∈ fieldsAt number (S.optionalValues a), field ∈ fields)
    (h : (encodeMessage fields).length < 2 ^ 64) :
    S.readOptional (S.optionalValues a) = some a := by
  cases a with
  | none => rfl
  | some a =>
      have hfits : (S.encode a).length < 2 ^ 64 :=
        (length_payload_le (hpart _ List.mem_cons_self)).trans_lt h
      have hdecode : S.decode ([S.encode a].flatten) = some a := by
        rw [List.flatten_singleton, S.decode_encode hfits]
      change (S.decode [S.encode a].flatten).bind (fun a => some (some a)) = some (some a)
      rw [hdecode, Option.bind_some]

theorem readRepeated_repeatedValues {as : List α}
    (hpart : ∀ field ∈ fieldsAt number (S.repeatedValues as), field ∈ fields)
    (h : (encodeMessage fields).length < 2 ^ 64) :
    S.readRepeated (S.repeatedValues as) = some as := by
  induction as with
  | nil => rfl
  | cons a as ih =>
      obtain ⟨hfirst, hrest⟩ := List.forall_mem_cons.mp hpart
      have hfits : (S.encode a).length < 2 ^ 64 := (length_payload_le hfirst).trans_lt h
      rw [readRepeated, repeatedValues, List.map_cons, List.mapM_cons]
      change (S.decode (S.encode a)).bind _ = _
      rw [S.decode_encode hfits, Option.bind_some]
      change (S.readRepeated (S.repeatedValues as)).bind _ = _
      rw [ih hrest]
      rfl

end Schema

end Protobuf
