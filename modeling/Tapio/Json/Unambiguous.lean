/-
# What a serialized value leaves open

A value is written without its length, so what follows it decides where it ends. Inside
a document a value is followed by a comma or a closing bracket, never by a digit, and
that is enough: whatever is written there can be read in one way only.
-/
import Tapio.Json.Encode
import Tapio.Text.Decimal

namespace Json

universe u v

variable {α : Type u} {β : Type v}

/-- A text that a number before it does not run into. -/
def Separated (rest : List Char) : Prop := ∀ c ∈ rest.head?, c.isDigit = false

theorem separated_nil : Separated [] := fun _ hc => absurd hc (by simp)

theorem separated_cons {c : Char} (hc : c.isDigit = false) (rest : List Char) :
    Separated (c :: rest) := by
  rintro _ ⟨⟩
  exact hc

/-- Texts that begin with written values of the type determine the value and the rest. -/
def Unambiguous (encode : α → List Char) : Prop :=
  ∀ ⦃a b rest rest'⦄, Separated rest → Separated rest' →
    encode a ++ rest = encode b ++ rest' → a = b ∧ rest = rest'

theorem Unambiguous.injective {encode : α → List Char} (h : Unambiguous encode) :
    Function.Injective encode :=
  fun _ _ hsame =>
    (h separated_nil separated_nil (congrArg (fun text => text ++ []) hsame)).1

/-- A value that determines another is written as that. -/
theorem Unambiguous.comp {encode : β → List Char} (h : Unambiguous encode) {f : α → β}
    (hf : Function.Injective f) : Unambiguous fun a => encode (f a) :=
  fun _ _ _ _ hrest hrest' hsame =>
    let ⟨hvalue, htail⟩ := h hrest hrest' hsame
    ⟨hf hvalue, htail⟩

/-! ## Scalars -/

theorem unambiguous_encodeBool : Unambiguous encodeBool := by
  intro a b rest rest' _ _ hsame
  cases a with
  | false =>
      cases b with
      | false => exact ⟨rfl, List.append_cancel_left hsame⟩
      | true => exact absurd (List.cons.inj hsame).1 (by decide)
  | true =>
      cases b with
      | false => exact absurd (List.cons.inj hsame).1 (by decide)
      | true => exact ⟨rfl, List.append_cancel_left hsame⟩

/-- The digits at the start of a text are the number, if no digit follows it. -/
theorem takeWhile_isDigit_encodeNat (n : ℕ) {rest : List Char} (hrest : Separated rest) :
    (encodeNat n ++ rest).takeWhile Char.isDigit = encodeNat n := by
  have hdigits : ∀ c ∈ encodeNat n, c.isDigit := fun _ => Text.isDigit_toDigits
  have hnone : rest.takeWhile Char.isDigit = [] := by
    cases rest with
    | nil => rfl
    | cons c rest =>
        exact List.takeWhile_cons_of_neg (Bool.eq_false_iff.mp (hrest c rfl))
  rw [List.takeWhile_append_of_pos hdigits, hnone, List.append_nil]

theorem unambiguous_encodeNat : Unambiguous encodeNat := by
  intro a b rest rest' hrest hrest' hsame
  have hdigits : encodeNat a = encodeNat b := by
    rw [← takeWhile_isDigit_encodeNat a hrest, hsame, takeWhile_isDigit_encodeNat b hrest']
  refine ⟨?_, List.append_cancel_left (hdigits ▸ hsame)⟩
  rw [← Text.digitsValue_toDigits a, ← Text.digitsValue_toDigits b]
  exact congrArg Text.digitsValue hdigits

/-- A number begins with a digit. -/
theorem encodeNat_append_ne {c : Char} (hc : c.isDigit = false) (n : ℕ)
    (rest tail : List Char) : encodeNat n ++ rest ≠ c :: tail := by
  intro hsame
  obtain ⟨digit, digits, hdigits⟩ : ∃ digit digits, encodeNat n = digit :: digits :=
    List.exists_cons_of_ne_nil Nat.toDigits_ne_nil
  have hdigit : digit.isDigit := Text.isDigit_toDigits (hdigits ▸ List.mem_cons_self)
  rw [hdigits] at hsame
  rw [(List.cons.inj hsame).1, hc] at hdigit
  cases hdigit

/-- An integer begins with a digit or a minus sign. -/
theorem encodeInt_append_ne {c : Char} (hc : c.isDigit = false) (hminus : c ≠ '-') (n : ℤ)
    (rest tail : List Char) : encodeInt n ++ rest ≠ c :: tail := by
  rw [encodeInt]
  split
  · exact encodeNat_append_ne hc _ rest tail
  · exact fun hsame => hminus (List.cons.inj hsame).1.symm

theorem unambiguous_encodeInt : Unambiguous encodeInt := by
  intro a b rest rest' hrest hrest' hsame
  by_cases ha : 0 ≤ a
  · by_cases hb : 0 ≤ b
    · rw [encodeInt, encodeInt, if_pos ha, if_pos hb] at hsame
      obtain ⟨hvalue, htail⟩ := unambiguous_encodeNat hrest hrest' hsame
      exact ⟨by omega, htail⟩
    · rw [encodeInt, encodeInt, if_pos ha, if_neg hb] at hsame
      exact absurd hsame (encodeNat_append_ne (by decide) _ _ _)
  · by_cases hb : 0 ≤ b
    · rw [encodeInt, encodeInt, if_neg ha, if_pos hb] at hsame
      exact absurd hsame.symm (encodeNat_append_ne (by decide) _ _ _)
    · rw [encodeInt, encodeInt, if_neg ha, if_neg hb] at hsame
      obtain ⟨hvalue, htail⟩ := unambiguous_encodeNat hrest hrest' (List.cons.inj hsame).2
      exact ⟨by omega, htail⟩

/-! ## Texts -/

/-- The bytes of a text determine it. -/
theorem utf8_injective : Function.Injective utf8 := by
  intro text text' hbytes
  have harray : (String.ofList text).toByteArray = (String.ofList text').toByteArray :=
    ByteArray.ext (Array.toList_inj.mp hbytes)
  exact String.ofList_injective (String.toByteArray_inj.mp harray)

/-! ## Objects -/

/-- A field of a record: its key, how its value is written, and when two records agree
on it. -/
structure Field (α : Type u) where
  key : String
  encode : α → List Char
  Same : α → α → Prop
  unambiguous : ∀ ⦃a b rest rest'⦄, Separated rest → Separated rest' →
    encode a ++ rest = encode b ++ rest' → Same a b ∧ rest = rest'

/-- The field that holds a part of the record. -/
def Field.of (key : String) (get : α → β) {encode : β → List Char}
    (h : Unambiguous encode) : Field α where
  key := key
  encode a := encode (get a)
  Same a b := get a = get b
  unambiguous _ _ _ _ hrest hrest' hsame := h hrest hrest' hsame

/-- The members of an object that is written from its fields. -/
def members (fields : List (Field α)) (a : α) : List (List Char) :=
  fields.map fun field => encodeString field.key ++ ':' :: field.encode a

theorem members_determined (fields : List (Field α)) {a b : α} {rest rest' : List Char}
    (hrest : Separated rest) (hrest' : Separated rest')
    (hsame : encodeElements (members fields a) ++ rest =
      encodeElements (members fields b) ++ rest') :
    (∀ field ∈ fields, field.Same a b) ∧ rest = rest' := by
  induction fields with
  | nil => exact ⟨List.forall_mem_nil _, hsame⟩
  | cons field others ih =>
      cases others with
      | nil =>
          simp only [members, List.map_cons, List.map_nil, encodeElements, List.append_assoc,
            List.cons_append, List.append_cancel_left_eq, List.cons.injEq, true_and] at hsame
          obtain ⟨hfield, htail⟩ := field.unambiguous hrest hrest' hsame
          exact ⟨List.forall_mem_singleton.mpr hfield, htail⟩
      | cons next others =>
          simp only [members, List.map_cons, encodeElements, List.append_assoc,
            List.cons_append, List.append_cancel_left_eq, List.cons.injEq, true_and] at hsame ih
          have hcomma : ∀ tail, Separated (',' :: tail) := separated_cons (by decide)
          obtain ⟨hfield, htail⟩ := field.unambiguous (hcomma _) (hcomma _) hsame
          obtain ⟨hothers, htail⟩ := ih (List.cons.inj htail).2
          exact ⟨List.forall_mem_cons.mpr ⟨hfield, hothers⟩, htail⟩

/-- **Objects.** A record whose fields determine it is determined by the object that is
written for it. -/
theorem unambiguous_object (fields : List (Field α)) {encode : α → List Char}
    (hencode : ∀ a, encode a =
      encodeObject (fields.map fun field => (field.key, field.encode a)))
    (hfields : ∀ a b, (∀ field ∈ fields, field.Same a b) → a = b) : Unambiguous encode := by
  intro a b rest rest' hrest hrest' hsame
  rw [hencode, hencode, encodeObject, encodeObject, List.map_map, List.map_map] at hsame
  have hclose : ∀ tail, Separated ('}' :: tail) := separated_cons (by decide)
  have hmembers : encodeElements (members fields a) ++ '}' :: rest =
      encodeElements (members fields b) ++ '}' :: rest' := by
    simpa [members, Function.comp_def] using hsame
  obtain ⟨hagree, htail⟩ := members_determined fields (hclose _) (hclose _) hmembers
  exact ⟨hfields a b hagree, (List.cons.inj htail).2⟩

/-! ## Arrays -/

/-- What comes after an element: the end of the array, or the others. -/
def afterElement (others : List (List Char)) (rest : List Char) : List Char :=
  match others with
  | [] => ']' :: rest
  | _ :: _ => ',' :: (encodeElements others ++ ']' :: rest)

theorem encodeElements_cons_append (element : List Char) (others : List (List Char))
    (rest : List Char) :
    encodeElements (element :: others) ++ ']' :: rest =
      element ++ afterElement others rest := by
  cases others with
  | nil => rfl
  | cons next others => simp [encodeElements, afterElement]

theorem separated_afterElement (others : List (List Char)) (rest : List Char) :
    Separated (afterElement others rest) := by
  cases others with
  | nil => exact separated_cons (by decide) _
  | cons next others => exact separated_cons (by decide) _

/-- The comma tells that there are others. -/
theorem afterElement_eq {others others' : List (List Char)} {rest rest' : List Char}
    (hsame : afterElement others rest = afterElement others' rest') :
    encodeElements others ++ ']' :: rest = encodeElements others' ++ ']' :: rest' := by
  cases others with
  | nil =>
      cases others' with
      | nil => exact hsame
      | cons next' others' => exact absurd (List.cons.inj hsame).1 (by decide)
  | cons next others =>
      cases others' with
      | nil => exact absurd (List.cons.inj hsame).1 (by decide)
      | cons next' others' => exact (List.cons.inj hsame).2

/-- Elements that do not begin with a closing bracket are told from the end of the
array. -/
theorem elements_determined {encode : α → List Char} (helement : Unambiguous encode)
    (hopen : ∀ a tail rest, encode a ++ rest ≠ ']' :: tail) (first second : List α)
    {rest rest' : List Char}
    (hsame : encodeElements (first.map encode) ++ ']' :: rest =
      encodeElements (second.map encode) ++ ']' :: rest') :
    first = second ∧ rest = rest' := by
  induction first generalizing second with
  | nil =>
      cases second with
      | nil => exact ⟨rfl, (List.cons.inj hsame).2⟩
      | cons b second =>
          rw [List.map_cons, encodeElements_cons_append] at hsame
          exact absurd hsame.symm (hopen b rest _)
  | cons a first ih =>
      cases second with
      | nil =>
          rw [List.map_cons, encodeElements_cons_append] at hsame
          exact absurd hsame (hopen a rest' _)
      | cons b second =>
          rw [List.map_cons, List.map_cons, encodeElements_cons_append,
            encodeElements_cons_append] at hsame
          obtain ⟨rfl, htail⟩ :=
            helement (separated_afterElement _ _) (separated_afterElement _ _) hsame
          obtain ⟨rfl, hrest⟩ := ih second (afterElement_eq htail)
          exact ⟨rfl, hrest⟩

theorem unambiguous_array {encode : α → List Char} (helement : Unambiguous encode)
    (hopen : ∀ a tail rest, encode a ++ rest ≠ ']' :: tail) :
    Unambiguous fun elements : List α => encodeArray (elements.map encode) := by
  intro first second rest rest' _ _ hsame
  refine elements_determined helement hopen first second ?_
  simpa [encodeArray] using hsame

end Json
