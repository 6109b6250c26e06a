/-
# Writing JSON

How a compact serializer writes strings, numbers, arrays and objects, as characters.
A type that derives its serialization is written as the object of its fields, in the
order of their declaration.
-/
import Mathlib.Data.Int.Notation
import Mathlib.Data.Nat.Notation
import Tapio.Json.Value

namespace Json

/-- A digit of an escape, in lower case. -/
def hexDigit (n : ℕ) : Char := Nat.digitChar n

/-- A character inside a string. Control characters, quotes and backslashes are
escaped. -/
def escapeChar (c : Char) : List Char :=
  if c = '"' then ['\\', '"']
  else if c = '\\' then ['\\', '\\']
  else if c.toNat = 0x08 then ['\\', 'b']
  else if c.toNat = 0x0C then ['\\', 'f']
  else if c = '\n' then ['\\', 'n']
  else if c = '\r' then ['\\', 'r']
  else if c = '\t' then ['\\', 't']
  else if c.toNat < 0x20 then
    ['\\', 'u', '0', '0', hexDigit (c.toNat / 16), hexDigit (c.toNat % 16)]
  else [c]

def encodeString (s : String) : List Char := '"' :: (s.toList.flatMap escapeChar ++ ['"'])

def encodeBool (b : Bool) : List Char := if b then "true".toList else "false".toList

def encodeNat (n : ℕ) : List Char := Nat.toDigits 10 n

def encodeInt (n : ℤ) : List Char :=
  if 0 ≤ n then encodeNat n.toNat else '-' :: encodeNat (-n).toNat

/-- Elements with commas between them. -/
def encodeElements : List (List Char) → List Char
  | [] => []
  | [element] => element
  | element :: rest => element ++ ',' :: encodeElements rest

def encodeArray (elements : List (List Char)) : List Char :=
  '[' :: (encodeElements elements ++ [']'])

def encodeObject (fields : List (String × List Char)) : List Char :=
  '{' :: (encodeElements (fields.map fun (key, value) => encodeString key ++ ':' :: value) ++
    ['}'])

theorem encodeObject_eq (fields : List (String × List Char)) :
    encodeObject fields =
      '{' :: (encodeElements (fields.map fun field => encodeString field.1 ++ ':' :: field.2) ++
        ['}']) :=
  rfl

/-- How floats are printed; never as nothing. -/
structure FloatFormat where
  text : UInt64 → List Char
  text_ne_nil : ∀ bits, text bits ≠ []

/-- A format for data without floats. -/
def integerFormat : FloatFormat := ⟨fun _ => ['0', '.', '0'], fun _ => List.cons_ne_nil _ _⟩

def Number.encode (format : FloatFormat) : Number → List Char
  | .posInt n => encodeNat n.toNat
  | .negInt n => encodeInt n.toInt
  | .float bits => format.text bits

mutual

def Value.encode (format : FloatFormat) : Value → List Char
  | .null => "null".toList
  | .bool b => encodeBool b
  | .number n => n.encode format
  | .string s => encodeString s
  | .array elements => encodeArray (encodeValues format elements)
  | .object entries => encodeObject (encodeEntries format entries)

def encodeValues (format : FloatFormat) : List Value → List (List Char)
  | [] => []
  | value :: rest => value.encode format :: encodeValues format rest

def encodeEntries (format : FloatFormat) : List (String × Value) → List (String × List Char)
  | [] => []
  | (key, value) :: rest => (key, value.encode format) :: encodeEntries format rest

end

/-- The bytes of a text. -/
def utf8 (text : List Char) : List UInt8 := (String.ofList text).toByteArray.data.toList

end Json
