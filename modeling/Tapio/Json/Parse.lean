/-
# Reading JSON

How a value is read from the front of a text. Containers may be nested to a depth that is
given, white space may stand between any two tokens, and an object keeps its entries as they
stand. An integer that does not fit into 64 bits is read as a float, as a number with a
fraction or an exponent is; the reader of floats is a parameter.
-/
import Tapio.Json.Encode
import Tapio.Text.Numeral

namespace Json

open Text (digitsValue toDigit)

def isSpace (c : Char) : Bool := c = ' ' || c = '\n' || c = '\t' || c = '\r'

def skipSpace (s : List Char) : List Char := s.dropWhile isSpace

/-! ## Strings -/

/-- What a backslash and a character stand for. -/
def unescape : Char → Option Char
  | '"' => some '"'
  | '\\' => some '\\'
  | '/' => some '/'
  | 'b' => some '\x08'
  | 'f' => some '\x0c'
  | 'n' => some '\n'
  | 'r' => some '\r'
  | 't' => some '\t'
  | _ => none

/-- The number of four hexadecimal digits. -/
def hex4 (a b c d : Char) : Option ℕ := do
  return (((← toDigit 16 a) * 16 + (← toDigit 16 b)) * 16 + (← toDigit 16 c)) * 16 +
    (← toDigit 16 d)

def isHighSurrogate (n : ℕ) : Bool := 0xD800 ≤ n && n < 0xDC00

def isLowSurrogate (n : ℕ) : Bool := 0xDC00 ≤ n && n < 0xE000

/-- The rest of a string, up to the quote that ends it. -/
def parseStringBody : ℕ → List Char → Option (List Char × List Char)
  | 0, _ => none
  | _ + 1, [] => none
  | steps + 1, c :: s =>
      if c = '"' then some ([], s)
      else if c = '\\' then
        match s with
        | 'u' :: a :: b :: c :: d :: s => do
            let n ← hex4 a b c d
            if isHighSurrogate n then
              match s with
              | '\\' :: 'u' :: a :: b :: c :: d :: s => do
                  let low ← hex4 a b c d
                  if isLowSurrogate low then
                    let (text, rest) ← parseStringBody steps s
                    return (Char.ofNat (0x10000 + (n - 0xD800) * 0x400 + (low - 0xDC00)) :: text,
                      rest)
                  else none
              | _ => none
            else if isLowSurrogate n then none
            else
              let (text, rest) ← parseStringBody steps s
              return (Char.ofNat n :: text, rest)
        | e :: s => do
            let c ← unescape e
            let (text, rest) ← parseStringBody steps s
            return (c :: text, rest)
        | [] => none
      else if c.toNat < 0x20 then none
      else do
        let (text, rest) ← parseStringBody steps s
        return (c :: text, rest)

/-- A string whose first quote has been read. -/
def parseString (s : List Char) : Option (String × List Char) :=
  (parseStringBody s.length s).map fun (text, rest) => (String.ofList text, rest)

/-! ## Numbers -/

/-- A point with digits after it. -/
def scanFraction (s : List Char) : Option (List Char × List Char) :=
  match s with
  | '.' :: s =>
      let digits := s.takeWhile Char.isDigit
      if digits = [] then none else some ('.' :: digits, s.dropWhile Char.isDigit)
  | s => some ([], s)

def scanSign : List Char → List Char × List Char
  | '+' :: s => (['+'], s)
  | '-' :: s => (['-'], s)
  | s => ([], s)

def scanExponent (s : List Char) : Option (List Char × List Char) :=
  match s with
  | c :: s =>
      if c = 'e' ∨ c = 'E' then
        let (sign, s) := scanSign s
        let digits := s.takeWhile Char.isDigit
        if digits = [] then none else some (c :: (sign ++ digits), s.dropWhile Char.isDigit)
      else some ([], c :: s)
  | [] => some ([], [])

/-- The number with this sign, these digits before the point, and what comes after. -/
def numberOf (readFloat : List Char → Option UInt64) (negative : Bool) (whole tail : List Char) :
    Option Number :=
  let n := digitsValue whole
  if tail = [] ∧ negative = false ∧ n < 2 ^ 64 then some (.posInt (.ofNat n))
  else if tail = [] ∧ negative = true ∧ 0 < n ∧ n ≤ 2 ^ 63 then some (.negInt (.ofInt (-n)))
  else (readFloat ((if negative then ['-'] else []) ++ whole ++ tail)).map .float

def parseUnsigned (readFloat : List Char → Option UInt64) (negative : Bool) (s : List Char) :
    Option (Number × List Char) := do
  let whole := s.takeWhile Char.isDigit
  if whole = [] ∨ whole.head? = some '0' ∧ 1 < whole.length then none
  else
    let (fraction, s) ← scanFraction (s.dropWhile Char.isDigit)
    let (exponent, s) ← scanExponent s
    return (← numberOf readFloat negative whole (fraction ++ exponent), s)

def parseNumber (readFloat : List Char → Option UInt64) (s : List Char) :
    Option (Number × List Char) :=
  match s with
  | '-' :: s => parseUnsigned readFloat true s
  | s => parseUnsigned readFloat false s

/-! ## Values -/

/-- A key and the colon after it. -/
def parseKey (s : List Char) : Option (String × List Char) :=
  match skipSpace s with
  | '"' :: s => do
      let (key, s) ← parseString s
      match skipSpace s with
      | ':' :: s => some (key, s)
      | _ => none
  | _ => none

mutual

/-- `steps` bounds the length of what is read, `depth` the nesting. -/
def parseValue (readFloat : List Char → Option UInt64) :
    ℕ → ℕ → List Char → Option (Value × List Char)
  | 0, _, _ => none
  | steps + 1, depth, s =>
      match skipSpace s with
      | 'n' :: 'u' :: 'l' :: 'l' :: s => some (.null, s)
      | 't' :: 'r' :: 'u' :: 'e' :: s => some (.bool true, s)
      | 'f' :: 'a' :: 'l' :: 's' :: 'e' :: s => some (.bool false, s)
      | '"' :: s => (parseString s).map fun (text, s) => (.string text, s)
      | '[' :: s =>
          if depth = 0 then none
          else
            match skipSpace s with
            | ']' :: s => some (.array [], s)
            | s => (parseElements readFloat steps (depth - 1) s).map fun (elements, s) =>
                (.array elements, s)
      | '{' :: s =>
          if depth = 0 then none
          else
            match skipSpace s with
            | '}' :: s => some (.object [], s)
            | s => (parseMembers readFloat steps (depth - 1) s).map fun (entries, s) =>
                (.object entries, s)
      | s => (parseNumber readFloat s).map fun (n, s) => (.number n, s)

/-- At least one element, up to the end of the array. -/
def parseElements (readFloat : List Char → Option UInt64) :
    ℕ → ℕ → List Char → Option (List Value × List Char)
  | 0, _, _ => none
  | steps + 1, depth, s => do
      let (element, s) ← parseValue readFloat steps depth s
      match skipSpace s with
      | ']' :: s => some ([element], s)
      | ',' :: s => do
          let (elements, s) ← parseElements readFloat steps depth s
          return (element :: elements, s)
      | _ => none

/-- At least one entry, up to the end of the object. -/
def parseMembers (readFloat : List Char → Option UInt64) :
    ℕ → ℕ → List Char → Option (List (String × Value) × List Char)
  | 0, _, _ => none
  | steps + 1, depth, s => do
      let (key, s) ← parseKey s
      let (value, s) ← parseValue readFloat steps depth s
      match skipSpace s with
      | '}' :: s => some ([(key, value)], s)
      | ',' :: s => do
          let (entries, s) ← parseMembers readFloat steps depth s
          return ((key, value) :: entries, s)
      | _ => none

end

/-- A text that is one value, with white space around it. -/
def parse (readFloat : List Char → Option UInt64) (depth : ℕ) (s : List Char) : Option Value := do
  let (value, rest) ← parseValue readFloat (s.length + 1) depth s
  if skipSpace rest = [] then some value else none

end Json
