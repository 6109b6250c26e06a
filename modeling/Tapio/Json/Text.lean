/-
# JSON texts

A grammar of the bytes that are a JSON text. It is somewhat wider than the format: a
word may be any run of letters, digits, signs and points, and a key any text, so a parser
that accepts the format accepts texts of this grammar only.

A scan over a text counts the brackets that are open outside of strings. Over a whole
text it comes back to where it began, over a beginning of an object it does not. No
text is therefore the beginning of an object that is longer.
-/
import Mathlib.Data.List.Infix
import Tapio.Json.Length
import Tapio.Text.Decimal
import Tapio.Text.Percent

namespace Json

/-! ## The grammar -/

def isSpaceByte (b : UInt8) : Bool := b = 32 || b = 9 || b = 10 || b = 13

/-- The bytes of numbers and literals. -/
def isWordByte (b : UInt8) : Bool :=
  (48 ≤ b && b ≤ 57) || (65 ≤ b && b ≤ 90) || (97 ≤ b && b ≤ 122) || b = 43 || b = 45 || b = 46

/-- What stands between quotes: a backslash takes the byte after it along. -/
inductive StringBody : List UInt8 → Prop
  | nil : StringBody []
  | byte {b : UInt8} {rest : List UInt8} :
      b ≠ 34 → b ≠ 92 → StringBody rest → StringBody (b :: rest)
  | escape {b : UInt8} {rest : List UInt8} : StringBody rest → StringBody (92 :: b :: rest)

/-- Texts with commas between them. -/
def separated : List (List UInt8) → List UInt8
  | [] => []
  | [text] => text
  | text :: rest => text ++ 44 :: separated rest

def keyed (member : List UInt8 × List UInt8) : List UInt8 := member.1 ++ 58 :: member.2

inductive JsonText : List UInt8 → Prop
  | padded {before text after : List UInt8} :
      before.all isSpaceByte → after.all isSpaceByte → JsonText text →
      JsonText (before ++ text ++ after)
  | word {text : List UInt8} : text ≠ [] → text.all isWordByte → JsonText text
  | string {body : List UInt8} : StringBody body → JsonText (34 :: (body ++ [34]))
  | array {s : List UInt8} {elements : List (List UInt8)} :
      s.all isSpaceByte → (∀ element ∈ elements, JsonText element) →
      JsonText (91 :: (s ++ separated elements ++ [93]))
  | object {s : List UInt8} {members : List (List UInt8 × List UInt8)} :
      s.all isSpaceByte → (∀ member ∈ members, JsonText member.1) →
      (∀ member ∈ members, JsonText member.2) →
      JsonText (123 :: (s ++ separated (members.map keyed) ++ [125]))

theorem JsonText.ne_nil {text : List UInt8} (h : JsonText text) : text ≠ [] := by
  induction h with
  | padded _ _ _ ih => simp [ih]
  | word hne _ => exact hne
  | string _ => exact List.cons_ne_nil _ _
  | array _ _ _ => exact List.cons_ne_nil _ _
  | object _ _ _ _ _ => exact List.cons_ne_nil _ _

/-! ## The scan -/

inductive ScanMode
  | outside
  | inString
  | escaped
  deriving DecidableEq

structure Scan where
  depth : ℕ
  mode : ScanMode
  deriving DecidableEq

def Scan.step (s : Scan) (b : UInt8) : Scan :=
  match s.mode with
  | .outside =>
      if b = 34 then { s with mode := .inString }
      else if b = 91 ∨ b = 123 then { s with depth := s.depth + 1 }
      else if b = 93 ∨ b = 125 then { s with depth := s.depth - 1 }
      else s
  | .inString =>
      if b = 34 then { s with mode := .outside }
      else if b = 92 then { s with mode := .escaped }
      else s
  | .escaped => { s with mode := .inString }

def Scan.run (s : Scan) (text : List UInt8) : Scan := text.foldl Scan.step s

/-- A scan of the text ends where it began, and does not leave the brackets that were
open before. -/
def Closed (text : List UInt8) : Prop :=
  ∀ depth, Scan.run ⟨depth, .outside⟩ text = ⟨depth, .outside⟩ ∧
    ∀ front, front <+: text → depth ≤ (Scan.run ⟨depth, .outside⟩ front).depth

theorem Scan.run_cons (s : Scan) (b : UInt8) (rest : List UInt8) :
    s.run (b :: rest) = (s.step b).run rest := rfl

theorem Scan.run_append (s : Scan) (left right : List UInt8) :
    s.run (left ++ right) = (s.run left).run right := List.foldl_append

theorem prefix_append_or {front left right : List UInt8} (h : front <+: left ++ right) :
    front <+: left ∨ ∃ rest, front = left ++ rest ∧ rest <+: right := by
  rcases List.prefix_or_prefix_of_prefix h (List.prefix_append left right) with hleft | ⟨rest, rfl⟩
  · exact .inl hleft
  · exact .inr ⟨rest, rfl, (List.prefix_append_right_inj left).mp h⟩

/-- The beginnings of a list are the empty one and those that begin with its head. -/
theorem forall_prefix_cons {p : List UInt8 → Prop} {b : UInt8} {rest : List UInt8} :
    (∀ front, front <+: b :: rest → p front) ↔
      p [] ∧ ∀ front, front <+: rest → p (b :: front) := by
  constructor
  · intro h
    exact ⟨h [] List.nil_prefix, fun front hfront =>
      h (b :: front) (List.cons_prefix_cons.mpr ⟨rfl, hfront⟩)⟩
  · rintro ⟨hnil, hcons⟩ front hfront
    rcases List.prefix_cons_iff.mp hfront with rfl | ⟨front', rfl, hfront'⟩
    · exact hnil
    · exact hcons front' hfront'

theorem closed_nil : Closed [] := by
  intro depth
  refine ⟨rfl, fun front hfront => ?_⟩
  rw [List.prefix_nil.mp hfront]
  exact Nat.le_refl depth

theorem Closed.append {left right : List UInt8} (hleft : Closed left) (hright : Closed right) :
    Closed (left ++ right) := by
  intro depth
  obtain ⟨hendLeft, hdepthLeft⟩ := hleft depth
  obtain ⟨hendRight, hdepthRight⟩ := hright depth
  constructor
  · rw [Scan.run_append, hendLeft, hendRight]
  · intro front hfront
    rcases prefix_append_or hfront with hfront | ⟨rest, rfl, hrest⟩
    · exact hdepthLeft front hfront
    · rw [Scan.run_append, hendLeft]
      exact hdepthRight rest hrest

/-- A byte that has no meaning for the scan outside of strings. -/
def isPlainByte (b : UInt8) : Bool := b != 34 && b != 91 && b != 93 && b != 123 && b != 125

theorem closed_of_plain {text : List UInt8} (h : text.all isPlainByte) : Closed text := by
  induction text with
  | nil => exact closed_nil
  | cons b rest ih =>
      rw [List.all_cons, Bool.and_eq_true] at h
      have hstep : ∀ depth, Scan.step ⟨depth, .outside⟩ b = ⟨depth, .outside⟩ := by
        intro depth
        have hb := h.1
        simp only [isPlainByte, Bool.and_eq_true, bne_iff_ne] at hb
        simp [Scan.step, hb]
      intro depth
      rw [forall_prefix_cons]
      simp only [Scan.run_cons, hstep]
      exact ⟨(ih h.2 depth).1, Nat.le_refl depth, (ih h.2 depth).2⟩

/-- Inside a string no bracket counts. -/
theorem StringBody.run {body : List UInt8} (h : StringBody body) (depth : ℕ) :
    Scan.run ⟨depth, .inString⟩ (body ++ [34]) = ⟨depth, .outside⟩ ∧
      ∀ front, front <+: body ++ [34] →
        (Scan.run ⟨depth, .inString⟩ front).depth = depth := by
  induction h with
  | nil =>
      rw [List.nil_append, forall_prefix_cons]
      refine ⟨rfl, rfl, fun front hfront => ?_⟩
      rw [List.prefix_nil.mp hfront]
      rfl
  | @byte b rest hquote hbackslash _ ih =>
      have hstep : Scan.step ⟨depth, .inString⟩ b = ⟨depth, .inString⟩ := by
        simp [Scan.step, hquote, hbackslash]
      rw [List.cons_append, forall_prefix_cons]
      simp only [Scan.run_cons, hstep]
      exact ⟨ih.1, rfl, ih.2⟩
  | @escape b rest _ ih =>
      rw [List.cons_append, List.cons_append, forall_prefix_cons, forall_prefix_cons]
      exact ⟨ih.1, rfl, rfl, ih.2⟩

theorem closed_string {body : List UInt8} (h : StringBody body) :
    Closed (34 :: (body ++ [34])) := by
  intro depth
  rw [forall_prefix_cons]
  exact ⟨(h.run depth).1, Nat.le_refl depth, fun front hfront =>
    Nat.le_of_eq ((h.run depth).2 front hfront).symm⟩

/-- Between a pair of brackets the scan is one bracket deeper, from the first to the last. -/
theorem Closed.lt_depth {inner : List UInt8} (h : Closed inner) {left right : UInt8}
    (hleft : left = 91 ∨ left = 123) {front : List UInt8} (depth : ℕ)
    (hfront : front <+: left :: (inner ++ [right])) (hnil : front ≠ [])
    (hall : front ≠ left :: (inner ++ [right])) :
    depth < (Scan.run ⟨depth, .outside⟩ front).depth := by
  have hstep : Scan.step ⟨depth, .outside⟩ left = ⟨depth + 1, .outside⟩ := by
    rcases hleft with rfl | rfl <;> rfl
  rcases List.prefix_cons_iff.mp hfront with rfl | ⟨front', rfl, hfront'⟩
  · exact absurd rfl hnil
  · rw [Scan.run_cons, hstep]
    rcases List.prefix_concat_iff.mp hfront' with rfl | hinner
    · exact absurd rfl hall
    · exact (h (depth + 1)).2 front' hinner

theorem Closed.bracketed {inner : List UInt8} (h : Closed inner) {left right : UInt8}
    (hleft : left = 91 ∨ left = 123) (hright : right = 93 ∨ right = 125) :
    Closed (left :: (inner ++ [right])) := by
  intro depth
  have hend : Scan.run ⟨depth, .outside⟩ (left :: (inner ++ [right])) = ⟨depth, .outside⟩ := by
    have hopen : Scan.step ⟨depth, .outside⟩ left = ⟨depth + 1, .outside⟩ := by
      rcases hleft with rfl | rfl <;> rfl
    have hclose : Scan.step ⟨depth + 1, .outside⟩ right = ⟨depth, .outside⟩ := by
      rcases hright with rfl | rfl <;> rfl
    rw [Scan.run_cons, hopen, Scan.run_append, (h (depth + 1)).1, Scan.run_cons, hclose]
    rfl
  refine ⟨hend, fun front hfront => ?_⟩
  by_cases hnil : front = []
  · rw [hnil]
    exact Nat.le_refl depth
  · by_cases hall : front = left :: (inner ++ [right])
    · rw [hall, hend]
    · exact Nat.le_of_lt (h.lt_depth hleft depth hfront hnil hall)

theorem closed_separated {texts : List (List UInt8)} (h : ∀ text ∈ texts, Closed text) :
    Closed (separated texts) := by
  induction texts with
  | nil => exact closed_nil
  | cons text rest ih =>
      rw [List.forall_mem_cons] at h
      cases rest with
      | nil => exact h.1
      | cons next others =>
          have hcomma : Closed [44] := closed_of_plain rfl
          exact h.1.append (hcomma.append (ih h.2))

theorem closed_keyed {member : List UInt8 × List UInt8} (hkey : Closed member.1)
    (hvalue : Closed member.2) : Closed (keyed member) := by
  have hcolon : Closed [58] := closed_of_plain rfl
  exact hkey.append (hcolon.append hvalue)

theorem closed_space {s : List UInt8} (h : s.all isSpaceByte) : Closed s := by
  apply closed_of_plain
  rw [List.all_eq_true] at h ⊢
  intro b hb
  have hspace := h b hb
  simp only [isSpaceByte, Bool.or_eq_true, decide_eq_true_eq] at hspace
  rcases hspace with ((rfl | rfl) | rfl) | rfl <;> rfl

theorem closed_word {text : List UInt8} (h : text.all isWordByte) : Closed text := by
  apply closed_of_plain
  rw [List.all_eq_true] at h ⊢
  intro b hb
  have hword := h b hb
  rw [isPlainByte]
  by_contra hplain
  simp only [Bool.and_eq_true, bne_iff_ne, not_and_or, not_not] at hplain
  rcases hplain with (((rfl | rfl) | rfl) | rfl) | rfl <;> cases hword

/-- **A text closes** every string and every bracket that it opens. -/
theorem JsonText.closed {text : List UInt8} (h : JsonText text) : Closed text := by
  induction h with
  | padded hbefore hafter _ ih =>
      exact ((closed_space hbefore).append ih).append (closed_space hafter)
  | word _ hword => exact closed_word hword
  | string hbody => exact closed_string hbody
  | array hspace _ ih =>
      exact ((closed_space hspace).append (closed_separated ih)).bracketed (.inl rfl) (.inl rfl)
  | object hspace _ _ ihkeys ihvalues =>
      refine ((closed_space hspace).append (closed_separated ?_)).bracketed (.inr rfl) (.inr rfl)
      intro text htext
      obtain ⟨member, hmember, rfl⟩ := List.mem_map.mp htext
      exact closed_keyed (ihkeys member hmember) (ihvalues member hmember)

/-- No text begins an object and ends before the object does. -/
theorem not_jsonText_of_prefix {inner front : List UInt8} (h : Closed inner)
    (hfront : front <+: 123 :: (inner ++ [125])) (hall : front ≠ 123 :: (inner ++ [125])) :
    ¬ JsonText front := by
  intro htext
  have hdepth := h.lt_depth (.inr rfl) 0 hfront htext.ne_nil hall
  rw [(htext.closed 0).1] at hdepth
  exact Nat.lt_irrefl 0 hdepth

/-! ## What is written is a text -/

theorem utf8_cons (c : Char) (rest : List Char) :
    utf8 (c :: rest) = String.utf8EncodeChar c ++ utf8 rest := by
  have hone : utf8 [c] = String.utf8EncodeChar c := by
    simp [utf8, List.utf8Encode]
  rw [← hone, ← utf8_append]
  rfl

/-- A character of ASCII is its byte. -/
theorem utf8_cons_of_lt {c : Char} (h : c.toNat < 128) (rest : List Char) :
    utf8 (c :: rest) = UInt8.ofNat c.toNat :: utf8 rest := by
  rw [utf8_cons, Text.utf8EncodeChar_of_lt h]
  rfl

theorem StringBody.append {left right : List UInt8} (hleft : StringBody left)
    (hright : StringBody right) : StringBody (left ++ right) := by
  induction hleft with
  | nil => exact hright
  | byte hquote hbackslash _ ih => exact .byte hquote hbackslash ih
  | escape _ ih => exact .escape ih

theorem stringBody_of_forall {body : List UInt8} (h : ∀ b ∈ body, b ≠ 34 ∧ b ≠ 92) :
    StringBody body := by
  induction body with
  | nil => exact .nil
  | cons b rest ih =>
      rw [List.forall_mem_cons] at h
      exact .byte h.1.1 h.1.2 (ih h.2)

/-- A byte of ASCII stands for its character only. -/
theorem toNat_eq_of_mem_utf8EncodeChar {c : Char} {b : UInt8}
    (hb : b ∈ String.utf8EncodeChar c) (h : b.toNat < 128) : c.toNat = b.toNat := by
  have hc := Text.toNat_lt_of_mem_utf8EncodeChar hb h
  rw [Text.utf8EncodeChar_of_lt hc, List.mem_singleton] at hb
  rw [hb, UInt8.toNat_ofNat']
  omega

theorem stringBody_hexDigit {n : ℕ} (hn : n < 16) {text : List Char}
    (h : StringBody (utf8 text)) : StringBody (utf8 (hexDigit n :: text)) := by
  have hdigit : ∀ n < 16, (hexDigit n).toNat < 128 ∧ UInt8.ofNat (hexDigit n).toNat ≠ 34 ∧
      UInt8.ofNat (hexDigit n).toNat ≠ 92 := by decide
  rw [utf8_cons_of_lt (hdigit n hn).1]
  exact .byte (hdigit n hn).2.1 (hdigit n hn).2.2 h

theorem stringBody_escapeChar (c : Char) : StringBody (utf8 (escapeChar c)) := by
  have hpair : ∀ text : List Char, (∃ b, utf8 text = [92, b]) → StringBody (utf8 text) := by
    rintro text ⟨b, htext⟩
    rw [htext]
    exact .escape .nil
  rw [escapeChar]
  split
  · exact hpair _ ⟨34, by decide +kernel⟩
  split
  · exact hpair _ ⟨92, by decide +kernel⟩
  split
  · exact hpair _ ⟨98, by decide +kernel⟩
  split
  · exact hpair _ ⟨102, by decide +kernel⟩
  split
  · exact hpair _ ⟨110, by decide +kernel⟩
  split
  · exact hpair _ ⟨114, by decide +kernel⟩
  split
  · exact hpair _ ⟨116, by decide +kernel⟩
  split
  · next hcontrol =>
      have hdigits : StringBody (utf8 [hexDigit (c.toNat / 16), hexDigit (c.toNat % 16)]) :=
        stringBody_hexDigit (by omega) (stringBody_hexDigit (by omega) .nil)
      rw [utf8_cons_of_lt (by decide), utf8_cons_of_lt (by decide), utf8_cons_of_lt (by decide),
        utf8_cons_of_lt (by decide)]
      exact .escape (.byte (by decide) (by decide) (.byte (by decide) (by decide) hdigits))
  · next hquote hbackslash _ _ _ _ _ _ =>
      rw [utf8_cons]
      apply stringBody_of_forall
      intro b hb
      rw [show utf8 [] = [] by rfl, List.append_nil] at hb
      constructor
      · rintro rfl
        exact hquote (Char.toNat_inj.mp (toNat_eq_of_mem_utf8EncodeChar hb (by decide)))
      · rintro rfl
        exact hbackslash (Char.toNat_inj.mp (toNat_eq_of_mem_utf8EncodeChar hb (by decide)))

theorem jsonText_encodeString (s : String) : JsonText (utf8 (encodeString s)) := by
  have hbody : ∀ text : List Char, StringBody (utf8 (text.flatMap escapeChar)) := by
    intro text
    induction text with
    | nil => exact .nil
    | cons c rest ih =>
        rw [List.flatMap_cons, utf8_append]
        exact (stringBody_escapeChar c).append ih
  rw [encodeString, utf8_cons_of_lt (by decide), utf8_append]
  exact .string (hbody s.toList)

/-- A text in ASCII is its characters as bytes. -/
theorem utf8_of_ascii {text : List Char} (h : ∀ c ∈ text, c.toNat < 128) :
    utf8 text = text.map fun c => UInt8.ofNat c.toNat := by
  induction text with
  | nil => rfl
  | cons c rest ih =>
      rw [List.forall_mem_cons] at h
      rw [utf8_cons_of_lt h.1, ih h.2, List.map_cons]

/-- A text whose bytes begin in ASCII begins with those characters. -/
theorem eq_append_of_utf8 {ascii text : List Char} (h : ∀ c ∈ ascii, c.toNat < 128)
    {rest : List UInt8} (hbytes : utf8 text = utf8 ascii ++ rest) :
    ∃ more, text = ascii ++ more := by
  induction ascii generalizing text with
  | nil => exact ⟨text, rfl⟩
  | cons c ascii ih =>
      rw [List.forall_mem_cons] at h
      rw [utf8_cons_of_lt h.1, List.cons_append] at hbytes
      cases text with
      | nil => cases hbytes
      | cons found text =>
          -- The first byte is one of ASCII, so it is the whole first character.
          have hfirst : UInt8.ofNat c.toNat ∈ String.utf8EncodeChar found := by
            obtain ⟨b, others, hencode⟩ :=
              List.exists_cons_of_ne_nil (String.utf8EncodeChar_ne_nil (c := found))
            rw [utf8_cons, hencode, List.cons_append] at hbytes
            rw [hencode, (List.cons.inj hbytes).1]
            exact List.mem_cons_self
          have hbyte : (UInt8.ofNat c.toNat).toNat = c.toNat := by
            rw [UInt8.toNat_ofNat']
            omega
          obtain rfl : found = c := by
            have heq := toNat_eq_of_mem_utf8EncodeChar hfirst (by omega)
            exact Char.toNat_inj.mp (heq.trans hbyte)
          rw [utf8_cons_of_lt h.1] at hbytes
          obtain ⟨more, rfl⟩ := ih h.2 (List.cons.inj hbytes).2
          exact ⟨more, rfl⟩

/-- A run of letters and digits, as numbers and literals are. -/
theorem jsonText_word {text : List Char} (hne : text ≠ [])
    (h : ∀ c ∈ text, c.toNat < 128 ∧ isWordByte (UInt8.ofNat c.toNat)) :
    JsonText (utf8 text) := by
  rw [utf8_of_ascii fun c hc => (h c hc).1]
  refine .word (by simpa using hne) ?_
  simp only [List.all_map, List.all_eq_true, Function.comp_apply]
  exact fun c hc => (h c hc).2

theorem jsonText_encodeBool (b : Bool) : JsonText (utf8 (encodeBool b)) := by
  cases b <;> exact .word (by decide +kernel) (by decide +kernel)

theorem isWordByte_of_isDigit {c : Char} (h : c.isDigit) :
    c.toNat < 128 ∧ isWordByte (UInt8.ofNat c.toNat) := by
  have hdigits : ∀ n < 58, 48 ≤ n → isWordByte (UInt8.ofNat n) := by decide
  have hrange := Text.isDigit_iff_toNat.mp h
  exact ⟨by omega, hdigits c.toNat (by omega) hrange.1⟩

theorem jsonText_encodeNat (n : ℕ) : JsonText (utf8 (encodeNat n)) := by
  exact jsonText_word Nat.toDigits_ne_nil fun c hc =>
    isWordByte_of_isDigit (Text.isDigit_toDigits hc)

theorem jsonText_encodeInt (n : ℤ) : JsonText (utf8 (encodeInt n)) := by
  rw [encodeInt]
  split
  · exact jsonText_encodeNat _
  · refine jsonText_word (List.cons_ne_nil _ _) ?_
    rw [List.forall_mem_cons]
    exact ⟨by decide, fun c hc =>
      isWordByte_of_isDigit (Text.isDigit_toDigits hc)⟩

theorem utf8_encodeElements (elements : List (List Char)) :
    utf8 (encodeElements elements) = separated (elements.map utf8) := by
  induction elements with
  | nil => rfl
  | cons element rest ih =>
      cases rest with
      | nil => rfl
      | cons next others =>
          rw [encodeElements, utf8_append, utf8_cons_of_lt (by decide), ih]
          · rfl
          · exact List.cons_ne_nil _ _

theorem jsonText_encodeArray {elements : List (List Char)}
    (h : ∀ element ∈ elements, JsonText (utf8 element)) :
    JsonText (utf8 (encodeArray elements)) := by
  rw [encodeArray, utf8_cons_of_lt (by decide), utf8_append, utf8_encodeElements]
  refine .array (s := []) rfl ?_
  simpa using h

/-- A field of an object, as it is written. -/
def encodeField (field : String × List Char) : List UInt8 × List UInt8 :=
  (utf8 (encodeString field.1), utf8 field.2)

theorem utf8_encodeObject (fields : List (String × List Char)) :
    utf8 (encodeObject fields) =
      123 :: (separated ((fields.map encodeField).map keyed) ++ [125]) := by
  have hfields : (fields.map fun field => encodeString field.1 ++ ':' :: field.2).map utf8 =
      (fields.map encodeField).map keyed := by
    rw [List.map_map, List.map_map]
    apply List.map_congr_left
    intro field _
    rw [Function.comp_apply, utf8_append, utf8_cons_of_lt (by decide)]
    rfl
  rw [encodeObject_eq, utf8_cons_of_lt (by decide), utf8_append, utf8_encodeElements, hfields]
  rfl

theorem jsonText_encodeObject {fields : List (String × List Char)}
    (h : ∀ field ∈ fields, JsonText (utf8 field.2)) : JsonText (utf8 (encodeObject fields)) := by
  rw [utf8_encodeObject]
  refine .object (s := []) rfl ?_ ?_
  · rw [List.forall_mem_map]
    exact fun field _ => jsonText_encodeString field.1
  · rw [List.forall_mem_map]
    exact h

/-- No text begins the given one and is shorter. -/
def Uncut (text : List UInt8) : Prop :=
  ∀ front, front <+: text → front ≠ text → ¬ JsonText front

/-- **An object that is cut off** is no text, wherever it is cut. -/
theorem uncut_encodeObject {fields : List (String × List Char)}
    (h : ∀ field ∈ fields, JsonText (utf8 field.2)) : Uncut (utf8 (encodeObject fields)) := by
  intro front hfront hall
  rw [utf8_encodeObject] at hfront hall
  refine not_jsonText_of_prefix (closed_separated ?_) hfront hall
  intro text htext
  rw [List.map_map] at htext
  obtain ⟨field, hfield, rfl⟩ := List.mem_map.mp htext
  exact closed_keyed (jsonText_encodeString field.1).closed (h field hfield).closed

end Json
