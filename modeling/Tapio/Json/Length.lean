/-
# The length of JSON

How many bytes a text takes, and what the parts of an encoding add to its length: the
elements of an array cost what they take themselves and a comma between each two. A
string takes a byte for each character and its quotes at least, and no more than that
if nothing in it is escaped.
-/
import Tapio.Json.Encode
import Mathlib.Algebra.BigOperators.Group.List.Basic
import Mathlib.Algebra.Order.Ring.Nat

namespace Json

/-- The number of bytes of a text. -/
def byteLen (text : List Char) : ℕ := (utf8 text).length

theorem utf8_append (left right : List Char) : utf8 (left ++ right) = utf8 left ++ utf8 right := by
  simp [utf8]

theorem byteLen_append (left right : List Char) :
    byteLen (left ++ right) = byteLen left + byteLen right := by
  rw [byteLen, utf8_append, List.length_append]
  rfl

theorem byteLen_cons (c : Char) (rest : List Char) :
    byteLen (c :: rest) = byteLen [c] + byteLen rest := byteLen_append [c] rest

theorem byteLen_singleton (c : Char) : byteLen [c] = c.utf8Size := by
  simp [byteLen, utf8, List.utf8Encode]

/-- A character of one byte. -/
theorem byteLen_singleton_of_lt {c : Char} (h : c.toNat < 128) : byteLen [c] = 1 := by
  rw [byteLen_singleton, Char.utf8Size_eq_one_iff, UInt32.le_iff_toNat_le]
  exact Nat.le_of_lt_succ h

/-- A text in ASCII. -/
theorem byteLen_of_ascii {text : List Char} (h : text.all fun c => c.toNat < 128) :
    byteLen text = text.length := by
  induction text with
  | nil => rfl
  | cons c rest ih =>
      rw [List.all_cons, Bool.and_eq_true] at h
      rw [byteLen_cons, byteLen_singleton_of_lt (of_decide_eq_true h.1), ih h.2, List.length_cons]
      omega

theorem byteLen_eq_of_ascii {text : List Char} {n : ℕ}
    (h : ((text.all fun c => c.toNat < 128) && text.length == n) = true) : byteLen text = n := by
  rw [Bool.and_eq_true, beq_iff_eq] at h
  rw [byteLen_of_ascii h.1, h.2]

theorem length_le_byteLen (text : List Char) : text.length ≤ byteLen text := by
  induction text with
  | nil => exact Nat.le_refl 0
  | cons c rest ih =>
      have hfirst : 0 < byteLen [c] := byteLen_singleton c ▸ c.utf8Size_pos
      rw [byteLen_cons, List.length_cons]
      omega

theorem byteLen_encodeElements (elements : List (List Char)) :
    byteLen (encodeElements elements) =
      (elements.map byteLen).sum + (elements.length - 1) := by
  induction elements with
  | nil => rfl
  | cons element rest ih =>
      cases rest with
      | nil => simp [encodeElements]
      | cons next rest =>
          have hcomma : byteLen [','] = 1 := byteLen_singleton_of_lt (by decide)
          rw [encodeElements, byteLen_append, byteLen_cons, hcomma, ih]
          · simp
            omega
          · simp

theorem byteLen_encodeArray (elements : List (List Char)) :
    byteLen (encodeArray elements) =
      2 + (elements.map byteLen).sum + (elements.length - 1) := by
  have hopen : byteLen ['['] = 1 := byteLen_singleton_of_lt (by decide)
  have hclose : byteLen [']'] = 1 := byteLen_singleton_of_lt (by decide)
  rw [encodeArray, byteLen_cons, byteLen_append, byteLen_encodeElements, hopen, hclose]
  omega

/-- What a field adds to an object, apart from the comma. -/
def fieldLen (field : String × List Char) : ℕ :=
  byteLen (encodeString field.1) + 1 + byteLen field.2

theorem byteLen_encodeObject (fields : List (String × List Char)) :
    byteLen (encodeObject fields) = 2 + (fields.map fieldLen).sum + (fields.length - 1) := by
  have hopen : byteLen ['{'] = 1 := byteLen_singleton_of_lt (by decide)
  have hclose : byteLen ['}'] = 1 := byteLen_singleton_of_lt (by decide)
  have hcolon : byteLen [':'] = 1 := byteLen_singleton_of_lt (by decide)
  have hfields :
      (fields.map fun field => encodeString field.1 ++ ':' :: field.2).map byteLen =
        fields.map fieldLen := by
    rw [List.map_map]
    apply List.map_congr_left
    intro field _
    rw [Function.comp_apply, byteLen_append, byteLen_cons, hcolon, fieldLen]
    omega
  rw [encodeObject_eq, byteLen_cons, byteLen_append, byteLen_encodeElements, hopen, hclose,
    hfields, List.length_map]
  omega

/-! ## Strings -/

/-- Every character of a string takes a byte at least. -/
theorem length_le_byteLen_encodeString (s : String) :
    s.toList.length + 2 ≤ byteLen (encodeString s) := by
  have hescape : ∀ c, 1 ≤ (escapeChar c).length := by
    intro c
    unfold escapeChar
    repeat' split
    all_goals simp
  have hchars : ∀ text : List Char, text.length ≤ (text.flatMap escapeChar).length := by
    intro text
    induction text with
    | nil => exact Nat.le_refl 0
    | cons c rest ih =>
        have hc := hescape c
        rw [List.flatMap_cons, List.length_append, List.length_cons]
        omega
  calc s.toList.length + 2
      ≤ (encodeString s).length := by
        have hs := hchars s.toList
        simp only [encodeString, List.length_cons, List.length_append, List.length_nil]
        omega
    _ ≤ byteLen (encodeString s) := length_le_byteLen _

/-- A character of one byte that is written as it is. -/
def Plain (c : Char) : Prop := escapeChar c = [c] ∧ c.toNat < 128

instance (c : Char) : Decidable (Plain c) := inferInstanceAs (Decidable (_ ∧ _))

theorem byteLen_plain {text : List Char} (h : ∀ c ∈ text, Plain c) :
    byteLen (text.flatMap escapeChar) = text.length := by
  induction text with
  | nil => rfl
  | cons c rest ih =>
      obtain ⟨hescape, hascii⟩ := h c List.mem_cons_self
      rw [List.flatMap_cons, hescape, byteLen_append, byteLen_singleton_of_lt hascii,
        ih fun d hd => h d (List.mem_cons_of_mem c hd), List.length_cons]
      omega

theorem byteLen_encodeString {s : String} (h : ∀ c ∈ s.toList, Plain c) :
    byteLen (encodeString s) = s.toList.length + 2 := by
  have hquote : byteLen ['"'] = 1 := byteLen_singleton_of_lt (by decide)
  rw [encodeString, byteLen_cons, byteLen_append, byteLen_plain h, hquote]
  omega

/-! ## Numbers and values -/

theorem encodeNat_ne_nil (n : ℕ) : encodeNat n ≠ [] := Nat.toDigits_ne_nil

theorem Value.encode_ne_nil (format : FloatFormat) (value : Value) : value.encode format ≠ [] := by
  cases value with
  | null => simp [Value.encode]
  | bool b => cases b <;> simp [Value.encode, encodeBool]
  | number n =>
      rw [Value.encode]
      cases n with
      | posInt n => exact encodeNat_ne_nil _
      | negInt n =>
          rw [Number.encode, encodeInt]
          split
          · exact encodeNat_ne_nil _
          · simp
      | float bits => exact format.text_ne_nil bits
  | string s => simp [Value.encode, encodeString]
  | array elements => simp [Value.encode, encodeArray]
  | object entries => simp [Value.encode, encodeObject]

theorem byteLen_pos {text : List Char} (h : text ≠ []) : 1 ≤ byteLen text :=
  Nat.le_trans (List.length_pos_of_ne_nil h) (length_le_byteLen text)

end Json
