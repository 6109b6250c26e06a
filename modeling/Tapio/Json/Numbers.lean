/-
# Values with other numbers

Who reads a value need not get the numbers that were written: a float may come back as
another one. What replaces numbers keeps the shape of a value and its keys, and if the other
numbers are printed like the old ones, also its text.
-/
import Tapio.Json.Written

namespace Json

mutual

/-- The value with each of its numbers replaced. -/
def Value.mapNumbers (f : Number → Number) : Value → Value
  | .number n => .number (f n)
  | .array elements => .array (mapNumbersValues f elements)
  | .object entries => .object (mapNumbersEntries f entries)
  | v => v

def mapNumbersValues (f : Number → Number) : List Value → List Value
  | [] => []
  | x :: rest => x.mapNumbers f :: mapNumbersValues f rest

def mapNumbersEntries (f : Number → Number) : List (String × Value) → List (String × Value)
  | [] => []
  | (key, x) :: rest => (key, x.mapNumbers f) :: mapNumbersEntries f rest

end

variable {f : Number → Number}

theorem mapNumbersValues_eq_map (elements : List Value) :
    mapNumbersValues f elements = elements.map (Value.mapNumbers f) := by
  induction elements with
  | nil => rfl
  | cons x rest ih => rw [mapNumbersValues, ih, List.map_cons]

theorem mapNumbersEntries_eq_map (entries : List (String × Value)) :
    mapNumbersEntries f entries = entries.map fun e => (e.1, e.2.mapNumbers f) := by
  induction entries with
  | nil => rfl
  | cons e rest ih => rw [mapNumbersEntries, ih, List.map_cons]

/-! ## What is inside -/

theorem Value.exists_of_child_mapNumbers {v w : Value} (h : Child (v.mapNumbers f) w) :
    ∃ u, Child v u ∧ u.mapNumbers f = w := by
  cases v with
  | array elements =>
      rw [Value.mapNumbers, mapNumbersValues_eq_map] at h
      cases h with
      | element hx =>
          obtain ⟨x, hmem, rfl⟩ := List.mem_map.mp hx
          exact ⟨x, .element hmem, rfl⟩
  | object entries =>
      rw [Value.mapNumbers, mapNumbersEntries_eq_map] at h
      cases h with
      | field he =>
          obtain ⟨e, hmem, rfl⟩ := List.mem_map.mp he
          exact ⟨e.2, .field hmem, rfl⟩
  | null | bool b | number n | string s => cases h

theorem Value.exists_of_reaches_mapNumbers {v w : Value}
    (h : Relation.ReflTransGen Child (v.mapNumbers f) w) :
    ∃ u, Relation.ReflTransGen Child v u ∧ u.mapNumbers f = w := by
  induction h with
  | refl => exact ⟨v, .refl, rfl⟩
  | tail _ hstep ih =>
      obtain ⟨u, hreach, rfl⟩ := ih
      obtain ⟨next, hnext, rfl⟩ := exists_of_child_mapNumbers hstep
      exact ⟨next, hreach.tail hnext, rfl⟩

/-! ## What stays -/

theorem Value.Ordered.mapNumbers {v : Value} (h : v.Ordered) (f : Number → Number) :
    (v.mapNumbers f).Ordered := by
  intro entries hreach
  obtain ⟨u, hu, hentries⟩ := exists_of_reaches_mapNumbers hreach
  cases u with
  | object old =>
      rw [Value.mapNumbers, mapNumbersEntries_eq_map] at hentries
      cases hentries
      rw [KeysOrdered, List.map_map]
      exact h old hu
  | null | bool b | number n | string s | array elements => cases hentries

theorem Value.NestsWithin.mapNumbers {depth : ℕ} {v : Value} (h : v.NestsWithin depth)
    (f : Number → Number) : (v.mapNumbers f).NestsWithin depth := by
  induction v using Value.induct generalizing depth with
  | hnull => exact h
  | hbool b => exact h
  | hnumber n => exact nestsWithin_number depth _
  | hstring s => exact h
  | harray elements ih =>
      rw [Value.mapNumbers, mapNumbersValues_eq_map]
      cases depth with
      | zero => exact h
      | succ depth =>
          refine nestsWithin_array.mpr (List.forall_mem_map.mpr fun x hx => ?_)
          exact ih x hx (nestsWithin_array.mp h x hx)
  | hobject entries ih =>
      rw [Value.mapNumbers, mapNumbersEntries_eq_map]
      cases depth with
      | zero => exact h
      | succ depth =>
          refine nestsWithin_object.mpr (List.forall_mem_map.mpr fun e he => ?_)
          exact ih e he (nestsWithin_object.mp h e he)

/-- What a text is read as decides which numbers are read. -/
theorem Value.readable_mapNumbers {format : FloatFormat}
    {readFloat : List Char → Option UInt64} {v : Value}
    (h : ∀ n, Relation.ReflTransGen Child v (.number n) → (f n).Readable format readFloat) :
    (v.mapNumbers f).Readable format readFloat := by
  intro n hreach
  obtain ⟨u, hu, hn⟩ := exists_of_reaches_mapNumbers hreach
  cases u with
  | number m =>
      cases hn
      exact h m hu
  | null | bool b | string s | array elements | object entries => cases hn

/-- Numbers that are printed alike give the same text. -/
theorem Value.encode_mapNumbers {format : FloatFormat}
    (h : ∀ n, (f n).encode format = n.encode format) (v : Value) :
    (v.mapNumbers f).encode format = v.encode format := by
  induction v using Value.induct with
  | hnull => rfl
  | hbool b => rfl
  | hnumber n => exact h n
  | hstring s => rfl
  | harray elements ih =>
      rw [Value.mapNumbers, mapNumbersValues_eq_map, encode_array, encode_array, List.map_map]
      exact congrArg encodeArray (List.map_congr_left ih)
  | hobject entries ih =>
      rw [Value.mapNumbers, mapNumbersEntries_eq_map, Value.encode, Value.encode,
        encodeEntries_eq_map, encodeEntries_eq_map, List.map_map]
      refine congrArg encodeObject (List.map_congr_left fun e he => ?_)
      exact congrArg (Prod.mk e.1) (ih e he)

/-! ## Floats that are rounded -/

/-- The number with a float replaced. -/
def Number.mapFloat (rounded : UInt64 → UInt64) : Number → Number
  | .float bits => .float (rounded bits)
  | n => n

/-- Integers below zero are so. -/
def Number.Signed : Number → Prop
  | .negInt n => n < 0
  | _ => True

def Value.mapFloats (rounded : UInt64 → UInt64) (v : Value) : Value :=
  v.mapNumbers (Number.mapFloat rounded)

/-- What can be written, with floats that need not be read as they are printed. -/
structure Writable (depth : ℕ) (v : Value) : Prop where
  ordered : v.Ordered
  nests : v.NestsWithin depth
  signed : ∀ n, Relation.ReflTransGen Value.Child v (.number n) → n.Signed

variable {format : FloatFormat} {readFloat : List Char → Option UInt64}
  {rounded : UInt64 → UInt64} {depth : ℕ} {v : Value}

theorem Number.encode_mapFloat (h : ∀ bits, format.text (rounded bits) = format.text bits)
    (n : Number) : (n.mapFloat rounded).encode format = n.encode format := by
  cases n with
  | posInt n => rfl
  | negInt n => rfl
  | float bits => exact h bits

theorem Number.Signed.readable_mapFloat {n : Number} (hn : n.Signed)
    (h : ∀ bits, (Number.float (rounded bits)).Readable format readFloat) :
    (n.mapFloat rounded).Readable format readFloat := by
  cases n with
  | posInt n => exact trivial
  | negInt n => exact hn
  | float bits => exact h bits

theorem Writable.legible_mapFloats (hv : Writable depth v)
    (h : ∀ bits, (Number.float (rounded bits)).Readable format readFloat) :
    Legible format readFloat depth (v.mapFloats rounded) where
  nests := hv.nests.mapNumbers _
  readable := Value.readable_mapNumbers fun n hn => (hv.signed n hn).readable_mapFloat h

/-! ## Flat objects -/

theorem Number.signed_ofInt32 (n : Int32) :
    (if n < 0 then Number.negInt n.toInt64 else .posInt n.toInt64.toUInt64).Signed := by
  split
  · next hneg =>
      rw [Signed, Int64.lt_iff_toInt_lt, Int32.toInt_toInt64]
      exact Int32.lt_iff_toInt_lt.mp hneg
  · trivial

variable {floats : List UInt64} {fields : List (String × Value)}

theorem Scalar.nests (h : Scalar floats v) : v.NestsWithin depth := by
  cases h with
  | string s => exact nestsWithin_string depth s
  | bool b => exact nestsWithin_bool depth b
  | ofUInt64 n => exact nestsWithin_number depth _
  | ofInt32 n => exact nestsWithin_number depth _
  | float hbits => exact nestsWithin_number depth _

theorem Scalar.not_child (h : Scalar floats v) (w : Value) : ¬ Value.Child v w := by
  cases h with
  | string s => exact nofun
  | bool b => exact nofun
  | ofUInt64 n => exact nofun
  | ofInt32 n => exact nofun
  | float hbits => exact nofun

theorem Scalar.signed (h : Scalar floats v) {n : Number}
    (hreach : Relation.ReflTransGen Value.Child v (.number n)) : n.Signed := by
  rcases Relation.ReflTransGen.cases_head hreach with heq | ⟨w, hstep, -⟩
  · cases h with
    | string s => cases heq
    | bool b => cases heq
    | ofUInt64 k =>
        cases heq
        trivial
    | ofInt32 k =>
        cases heq
        exact Number.signed_ofInt32 k
    | float hbits =>
        cases heq
        trivial
  · exact absurd hstep (h.not_child w)

theorem writable_ofFields (h : ∀ e ∈ fields, Scalar floats e.2) :
    Writable (depth + 1) (.object (ofFields fields)) where
  ordered := ordered_ofFields h
  nests := nestsWithin_object.mpr fun e he => (h e (mem_of_mem_ofFields he)).nests
  signed n hreach := by
    rcases Relation.ReflTransGen.cases_head hreach with heq | ⟨w, hstep, hrest⟩
    · cases heq
    · cases hstep with
      | field he => exact (h _ (mem_of_mem_ofFields he)).signed hrest

end Json
