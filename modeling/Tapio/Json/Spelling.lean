/-
# What spells a value is read as the value

A value can be spelt in more than one way: with white space between the tokens or without.
The reader of values gives back what was spelt, if the value is not nested too deep and its
numbers are read as they are printed. Every number is that is an integer.
-/
import Tapio.Json.Parse
import Tapio.Text.Decimal

namespace Json

open Text (digitsValue toDigit)

/-! ## White space -/

def Blank (s : List Char) : Prop := ∀ c ∈ s, isSpace c

theorem blank_nil : Blank [] := List.forall_mem_nil _

theorem blank_space : Blank [' '] := List.forall_mem_singleton.mpr rfl

theorem skipSpace_append {blank : List Char} (h : Blank blank) (s : List Char) :
    skipSpace (blank ++ s) = skipSpace s := List.dropWhile_append_of_pos h

theorem skipSpace_cons {c : Char} (h : isSpace c = false) (s : List Char) :
    skipSpace (c :: s) = c :: s := by
  rw [skipSpace, List.dropWhile_cons_of_neg (by simp [h])]

/-! ## Strings -/

theorem hex4_hexDigit {n : ℕ} (h : n < 0x20) :
    hex4 '0' '0' (hexDigit (n / 16)) (hexDigit (n % 16)) = some n := by
  have hall : ∀ n < 0x20, hex4 '0' '0' (hexDigit (n / 16)) (hexDigit (n % 16)) = some n := by
    decide
  exact hall n h

/-- A character that was escaped is read back. -/
theorem parseStringBody_escapeChar (steps : ℕ) (c : Char) (s : List Char) :
    parseStringBody (steps + 1) (escapeChar c ++ s) =
      (parseStringBody steps s).map fun (text, rest) => (c :: text, rest) := by
  rw [escapeChar]
  split_ifs with hquote hslash hback hfeed hline hreturn htab hcontrol
  · subst hquote
    cases h : parseStringBody steps s <;> simp [parseStringBody, unescape, h]
  · subst hslash
    cases h : parseStringBody steps s <;> simp [parseStringBody, unescape, h]
  · obtain rfl : c = '\x08' := Char.toNat_inj.mp hback
    cases h : parseStringBody steps s <;> simp [parseStringBody, unescape, h]
  · obtain rfl : c = '\x0c' := Char.toNat_inj.mp hfeed
    cases h : parseStringBody steps s <;> simp [parseStringBody, unescape, h]
  · subst hline
    cases h : parseStringBody steps s <;> simp [parseStringBody, unescape, h]
  · subst hreturn
    cases h : parseStringBody steps s <;> simp [parseStringBody, unescape, h]
  · subst htab
    cases h : parseStringBody steps s <;> simp [parseStringBody, unescape, h]
  · have hhigh : isHighSurrogate c.toNat = false := by
      simp [isHighSurrogate]
      omega
    have hlow : isLowSurrogate c.toNat = false := by
      simp [isLowSurrogate]
      omega
    cases h : parseStringBody steps s <;>
      simp [parseStringBody, hex4_hexDigit hcontrol, hhigh, hlow, h, Char.ofNat_toNat]
  · cases h : parseStringBody steps s <;>
      simp [parseStringBody, hquote, hslash, hcontrol, h]

theorem length_escapeChar_pos (c : Char) : 0 < (escapeChar c).length := by
  rw [escapeChar]
  split_ifs <;> simp

theorem parseStringBody_escaped {text : List Char} {steps : ℕ} (h : text.length < steps)
    (rest : List Char) :
    parseStringBody steps (text.flatMap escapeChar ++ '"' :: rest) = some (text, rest) := by
  induction text generalizing steps with
  | nil =>
      obtain ⟨steps, rfl⟩ := Nat.exists_eq_succ_of_ne_zero (Nat.ne_of_gt h)
      simp [parseStringBody]
  | cons c text ih =>
      obtain ⟨steps, rfl⟩ := Nat.exists_eq_succ_of_ne_zero (Nat.ne_of_gt (Nat.zero_lt_of_lt h))
      rw [List.flatMap_cons, List.append_assoc, parseStringBody_escapeChar,
        ih (Nat.lt_of_succ_lt_succ h)]
      rfl

theorem length_le_escaped (text : List Char) :
    text.length ≤ (text.flatMap escapeChar).length := by
  induction text with
  | nil => exact Nat.le_refl 0
  | cons c text ih =>
      have hc := length_escapeChar_pos c
      rw [List.flatMap_cons, List.length_append, List.length_cons]
      omega

/-- **Strings round trip.** -/
theorem parseString_escaped (s : String) (rest : List Char) :
    parseString (s.toList.flatMap escapeChar ++ '"' :: rest) = some (s, rest) := by
  have hlength : s.toList.length < (s.toList.flatMap escapeChar ++ '"' :: rest).length := by
    have hescaped := length_le_escaped s.toList
    rw [List.length_append, List.length_cons]
    omega
  rw [parseString, parseStringBody_escaped hlength, Option.map_some]
  dsimp only
  rw [String.ofList_toList]

/-! ## Numbers -/

/-- A number is over: what comes next does not go on with it. -/
def NumberEnds (rest : List Char) : Prop :=
  ∀ c ∈ rest.head?, c.isDigit = false ∧ c ≠ '.' ∧ c ≠ 'e' ∧ c ≠ 'E'

theorem numberEnds_cons {c : Char} (h : c.isDigit = false ∧ c ≠ '.' ∧ c ≠ 'e' ∧ c ≠ 'E')
    (rest : List Char) : NumberEnds (c :: rest) := by
  rintro _ ⟨⟩
  exact h

theorem NumberEnds.append {blank rest : List Char} (hblank : Blank blank)
    (hrest : NumberEnds rest) : NumberEnds (blank ++ rest) := by
  cases blank with
  | nil => exact hrest
  | cons c blank =>
      refine numberEnds_cons ?_ _
      have hc := hblank c List.mem_cons_self
      simp only [isSpace, Bool.or_eq_true, decide_eq_true_eq] at hc
      rcases hc with ((rfl | rfl) | rfl) | rfl <;> decide

theorem scanFraction_of_ends {rest : List Char} (h : NumberEnds rest) :
    scanFraction rest = some ([], rest) := by
  rw [scanFraction]
  rintro s rfl
  exact (h _ rfl).2.1 rfl

theorem scanExponent_of_ends {rest : List Char} (h : NumberEnds rest) :
    scanExponent rest = some ([], rest) := by
  cases rest with
  | nil => rfl
  | cons c rest =>
      obtain ⟨-, -, he, hE⟩ := h c rfl
      rw [scanExponent, if_neg (by simp [he, hE])]

theorem digits_span {digits rest : List Char} (hdigits : ∀ c ∈ digits, c.isDigit)
    (hrest : ∀ c ∈ rest.head?, c.isDigit = false) :
    (digits ++ rest).takeWhile Char.isDigit = digits ∧
      (digits ++ rest).dropWhile Char.isDigit = rest := by
  rw [List.takeWhile_append_of_pos hdigits, List.dropWhile_append_of_pos hdigits]
  cases rest with
  | nil => exact ⟨List.append_nil _, rfl⟩
  | cons c rest =>
      have hc : ¬ c.isDigit := by simp [hrest c rfl]
      rw [List.takeWhile_cons_of_neg hc, List.dropWhile_cons_of_neg hc, List.append_nil]
      exact ⟨rfl, rfl⟩

theorem isDigit_encodeNat {n : ℕ} : ∀ c ∈ encodeNat n, c.isDigit :=
  fun _ hc => Text.isDigit_toDigits hc

/-- No digit is missing and no zero is in front. -/
theorem encodeNat_plain (n : ℕ) :
    ¬ (encodeNat n = [] ∨ (encodeNat n).head? = some '0' ∧ 1 < (encodeNat n).length) := by
  have hvalue : digitsValue (encodeNat n) = n := Text.digitsValue_toDigits n
  have hne : encodeNat n ≠ [] := Nat.toDigits_ne_nil
  have hcanonical := (Text.eq_toDigits_iff hne isDigit_encodeNat).mp (by rw [hvalue]; rfl)
  rintro (hnil | ⟨hzero, hlong⟩)
  · exact hne hnil
  · rcases hcanonical with hhead | hshort
    · exact hhead hzero
    · omega

/-- The digits of a number are read as the number. -/
theorem parseUnsigned_encodeNat (readFloat : List Char → Option UInt64) (negative : Bool) (n : ℕ)
    {rest : List Char} (h : NumberEnds rest) :
    parseUnsigned readFloat negative (encodeNat n ++ rest) =
      (numberOf readFloat negative (encodeNat n) []).map fun number => (number, rest) := by
  obtain ⟨htake, hdrop⟩ := digits_span (isDigit_encodeNat (n := n)) fun c hc => (h c hc).1
  rw [parseUnsigned]
  simp only [htake, hdrop, if_neg (encodeNat_plain n), scanFraction_of_ends h,
    scanExponent_of_ends h, Option.bind_eq_bind, Option.bind_some, List.append_nil]
  cases numberOf readFloat negative (encodeNat n) [] <;> rfl

theorem encodeNat_cons (n : ℕ) : ∃ c digits, encodeNat n = c :: digits ∧ c.isDigit := by
  obtain ⟨c, digits, hcons⟩ :=
    List.exists_cons_of_ne_nil (Nat.toDigits_ne_nil (b := 10) (n := n))
  exact ⟨c, digits, hcons, Text.isDigit_toDigits (n := n) (by rw [hcons]; simp)⟩

/-- What a number begins with. -/
def StartsNumber (text : List Char) : Prop := ∃ c rest, text = c :: rest ∧ (c = '-' ∨ c.isDigit)

/-- A number is read as it is printed. An integer below zero has to be one, and for a float it
is up to those who print and read it. -/
def Number.Readable (format : FloatFormat) (readFloat : List Char → Option UInt64) :
    Number → Prop
  | .posInt _ => True
  | .negInt n => n < 0
  | .float bits => StartsNumber (format.text bits) ∧ ∀ rest, NumberEnds rest →
      parseNumber readFloat (format.text bits ++ rest) = some (.float bits, rest)

theorem parseNumber_encodeNat_append (readFloat : List Char → Option UInt64) (n : ℕ)
    (s : List Char) :
    parseNumber readFloat (encodeNat n ++ s) = parseUnsigned readFloat false (encodeNat n ++ s) := by
  obtain ⟨c, digits, hcons, hdigit⟩ := encodeNat_cons n
  rw [parseNumber]
  intro rest hsign
  rw [hcons, List.cons_append] at hsign
  rw [(List.cons.inj hsign).1] at hdigit
  cases hdigit

theorem parseNumber_encodeNat {readFloat : List Char → Option UInt64} {n : ℕ} (hn : n < 2 ^ 64)
    {rest : List Char} (h : NumberEnds rest) :
    parseNumber readFloat (encodeNat n ++ rest) = some (.posInt (.ofNat n), rest) := by
  have hvalue : digitsValue (encodeNat n) = n := Text.digitsValue_toDigits n
  rw [parseNumber_encodeNat_append, parseUnsigned_encodeNat readFloat false n h, numberOf, hvalue,
    if_pos ⟨rfl, rfl, hn⟩]
  rfl

/-- A decimal fraction is read as the float that its text is read as. -/
theorem Number.readable_decimal {format : FloatFormat} {readFloat : List Char → Option UInt64}
    {bits : UInt64} {n : ℕ} {digits : List Char}
    (htext : format.text bits = encodeNat n ++ '.' :: digits) (hne : digits ≠ [])
    (hdigits : ∀ c ∈ digits, c.isDigit)
    (hread : readFloat (encodeNat n ++ '.' :: digits) = some bits) :
    (Number.float bits).Readable format readFloat := by
  obtain ⟨c, whole, hcons, hdigit⟩ := encodeNat_cons n
  refine ⟨⟨c, whole ++ '.' :: digits, by rw [htext, hcons]; rfl, .inr hdigit⟩, ?_⟩
  intro rest hrest
  have hpoint : ∀ c ∈ ('.' :: (digits ++ rest)).head?, c.isDigit = false := by
    rintro _ ⟨⟩
    rfl
  obtain ⟨htake, hdrop⟩ := digits_span (isDigit_encodeNat (n := n)) hpoint
  obtain ⟨hfraction, hafter⟩ := digits_span hdigits fun c hc => (hrest c hc).1
  rw [htext, List.append_assoc, List.cons_append, parseNumber_encodeNat_append, parseUnsigned]
  simp only [htake, hdrop, if_neg (encodeNat_plain n), scanFraction, hfraction, if_neg hne, hafter,
    scanExponent_of_ends hrest, Option.bind_eq_bind, Option.bind_some, List.append_nil, numberOf,
    reduceCtorEq, false_and, if_false, List.nil_append, Bool.false_eq_true, hread, Option.map_some]
  rfl

theorem parseNumber_encode {format : FloatFormat} {readFloat : List Char → Option UInt64}
    {n : Number} (hn : n.Readable format readFloat) {rest : List Char} (h : NumberEnds rest) :
    parseNumber readFloat (n.encode format ++ rest) = some (n, rest) := by
  cases n with
  | posInt n =>
      rw [Number.encode, parseNumber_encodeNat n.toNat_lt h, UInt64.ofNat_toNat]
  | negInt n =>
      have hneg : n.toInt < 0 := Int64.lt_iff_toInt_lt.mp hn
      have hlow := n.le_toInt
      have hpos : 0 < (-n.toInt).toNat := by omega
      have hbound : (-n.toInt).toNat ≤ 2 ^ 63 := by omega
      have hvalue : digitsValue (encodeNat (-n.toInt).toNat) = (-n.toInt).toNat :=
        Text.digitsValue_toDigits _
      have hback : (-(((-n.toInt).toNat : ℕ) : ℤ)) = n.toInt := by omega
      rw [Number.encode, encodeInt, if_neg (by omega), List.cons_append, parseNumber,
        parseUnsigned_encodeNat readFloat true _ h, numberOf, hvalue, if_neg (by simp),
        if_pos ⟨rfl, rfl, hpos, hbound⟩, hback, Int64.ofInt_toInt]
      rfl
  | float bits => exact hn.2 rest h

theorem Number.startsNumber {format : FloatFormat} {readFloat : List Char → Option UInt64}
    {n : Number} (hn : n.Readable format readFloat) : StartsNumber (n.encode format) := by
  cases n with
  | posInt n =>
      obtain ⟨c, digits, hcons, hdigit⟩ := encodeNat_cons n.toNat
      exact ⟨c, digits, hcons, .inr hdigit⟩
  | negInt n =>
      have hneg : n.toInt < 0 := Int64.lt_iff_toInt_lt.mp hn
      rw [Number.encode, encodeInt, if_neg (by omega)]
      exact ⟨_, _, rfl, .inl rfl⟩
  | float bits => exact hn.1

/-! ## Values -/

/-- Containers are nested at most so deep. -/
def Value.NestsWithin : ℕ → Value → Prop
  | 0, .array _ => False
  | 0, .object _ => False
  | depth + 1, .array elements => ∀ x ∈ elements, NestsWithin depth x
  | depth + 1, .object entries => ∀ e ∈ entries, NestsWithin depth e.2
  | _, _ => True

/-- A member of an object, as it is spelt. -/
structure SpeltMember where
  key : String
  value : Value
  before : List Char
  after : List Char
  text : List Char

def SpeltMember.spelling (m : SpeltMember) : List Char :=
  m.before ++ (encodeString m.key ++ (m.after ++ ':' :: m.text))

/-- How a value may be written down. -/
inductive Spells (format : FloatFormat) (readFloat : List Char → Option UInt64) :
    Value → List Char → Prop
  | padded {before after text : List Char} {v : Value} : Blank before → Blank after →
      Spells format readFloat v text → Spells format readFloat v (before ++ (text ++ after))
  | null : Spells format readFloat .null "null".toList
  | bool (b : Bool) : Spells format readFloat (.bool b) (encodeBool b)
  | number {n : Number} : n.Readable format readFloat →
      Spells format readFloat (.number n) (n.encode format)
  | string (s : String) : Spells format readFloat (.string s) (encodeString s)
  | array {space last : List Char} {items : List (Value × List Char)} :
      Blank space → Blank last →
      (∀ item ∈ items, Spells format readFloat item.1 item.2) →
      Spells format readFloat (.array (items.map Prod.fst))
        ('[' :: (space ++ (encodeElements (items.map Prod.snd) ++ (last ++ [']']))))
  | object {space last : List Char} {members : List SpeltMember} :
      Blank space → Blank last →
      (∀ m ∈ members, Blank m.before ∧ Blank m.after) →
      (∀ m ∈ members, Spells format readFloat m.value m.text) →
      Spells format readFloat (.object (members.map fun m => (m.key, m.value)))
        ('{' :: (space ++ (encodeElements (members.map SpeltMember.spelling) ++ (last ++ ['}']))))

variable {format : FloatFormat} {readFloat : List Char → Option UInt64}

theorem skipSpace_skipSpace (s : List Char) : skipSpace (skipSpace s) = skipSpace s :=
  List.dropWhile_idempotent _ s

theorem parseValue_skipSpace (steps depth : ℕ) (s : List Char) :
    parseValue readFloat steps depth (skipSpace s) = parseValue readFloat steps depth s := by
  cases steps with
  | zero => rfl
  | succ steps => rw [parseValue, parseValue, skipSpace_skipSpace]

theorem parseElements_skipSpace (steps depth : ℕ) (s : List Char) :
    parseElements readFloat steps depth (skipSpace s) =
      parseElements readFloat steps depth s := by
  cases steps with
  | zero => rfl
  | succ steps => rw [parseElements, parseElements, parseValue_skipSpace]

theorem parseMembers_skipSpace (steps depth : ℕ) (s : List Char) :
    parseMembers readFloat steps depth (skipSpace s) = parseMembers readFloat steps depth s := by
  cases steps with
  | zero => rfl
  | succ steps => rw [parseMembers, parseMembers, parseKey, skipSpace_skipSpace]; rfl

/-- After white space the text goes on with something that does not end a container. -/
def Begins (text : List Char) : Prop :=
  ∃ blank c rest, text = blank ++ c :: rest ∧ Blank blank ∧ isSpace c = false ∧ c ≠ ']' ∧ c ≠ '}'

theorem begins_cons {c : Char} (h : isSpace c = false ∧ c ≠ ']' ∧ c ≠ '}') (rest : List Char) :
    Begins (c :: rest) := ⟨[], c, rest, rfl, blank_nil, h⟩

theorem Begins.append {text : List Char} (h : Begins text) (more : List Char) :
    Begins (text ++ more) := by
  obtain ⟨blank, c, rest, rfl, hblank, hc⟩ := h
  exact ⟨blank, c, rest ++ more, by rw [List.append_assoc]; rfl, hblank, hc⟩

theorem Begins.pad {text before : List Char} (h : Begins text) (hbefore : Blank before) :
    Begins (before ++ text) := by
  obtain ⟨blank, c, rest, rfl, hblank, hc⟩ := h
  exact ⟨before ++ blank, c, rest, (List.append_assoc ..).symm,
    List.forall_mem_append.mpr ⟨hbefore, hblank⟩, hc⟩

/-- The text is read as the value, and what is left is what comes after but for white space. -/
structure ReadAs (readFloat : List Char → Option UInt64) (v : Value) (text : List Char) :
    Prop where
  begins : Begins text
  read : ∀ (steps depth : ℕ) (rest : List Char), text.length ≤ steps → v.NestsWithin depth →
    NumberEnds rest → ∃ s, parseValue readFloat steps depth (text ++ rest) = some (v, s) ∧
      skipSpace s = skipSpace rest

theorem ReadAs.padded {v : Value} {before text after : List Char}
    (h : ReadAs readFloat v text) (hbefore : Blank before) (hafter : Blank after) :
    ReadAs readFloat v (before ++ (text ++ after)) where
  begins := (h.begins.append after).pad hbefore
  read steps depth rest hsteps hdepth hrest := by
    rw [List.length_append, List.length_append] at hsteps
    obtain ⟨s, hread, hs⟩ := h.read steps depth _ (by omega) hdepth (hrest.append hafter)
    refine ⟨s, ?_, hs.trans (skipSpace_append hafter rest)⟩
    rw [← hread, List.append_assoc, List.append_assoc, ← parseValue_skipSpace,
      skipSpace_append hbefore, parseValue_skipSpace]

/-- Elements that are read one by one are read together. -/
theorem parseElements_of_readAs {items : List (Value × List Char)} (hne : items ≠ [])
    (h : ∀ item ∈ items, ReadAs readFloat item.1 item.2) {steps depth : ℕ}
    (hsteps : (encodeElements (items.map Prod.snd)).length < steps)
    (hdepth : ∀ item ∈ items, item.1.NestsWithin depth) {last : List Char} (hlast : Blank last)
    (rest : List Char) :
    parseElements readFloat steps depth
        (encodeElements (items.map Prod.snd) ++ (last ++ ']' :: rest)) =
      some (items.map Prod.fst, rest) := by
  induction items generalizing steps with
  | nil => exact absurd rfl hne
  | cons item items ih =>
      obtain ⟨steps, rfl⟩ := Nat.exists_eq_succ_of_ne_zero (Nat.ne_of_gt (Nat.zero_lt_of_lt hsteps))
      obtain ⟨hitem, hitems⟩ := List.forall_mem_cons.mp h
      obtain ⟨hfirst, hothers⟩ := List.forall_mem_cons.mp hdepth
      rw [parseElements]
      cases items with
      | nil =>
          have hlength : item.2.length < steps + 1 := hsteps
          obtain ⟨s, hread, hs⟩ := hitem.read steps depth (last ++ ']' :: rest) (by omega) hfirst
            (NumberEnds.append hlast (numberEnds_cons (by decide) rest))
          have hend : skipSpace s = ']' :: rest := by
            rw [hs, skipSpace_append hlast, skipSpace_cons (by decide)]
          rw [List.map_singleton, encodeElements, hread, Option.bind_eq_bind, Option.bind_some]
          simp only [hend]
          rfl
      | cons next items =>
          have hsplit : encodeElements ((item :: next :: items).map Prod.snd) =
              item.2 ++ ',' :: encodeElements ((next :: items).map Prod.snd) := rfl
          rw [hsplit, List.length_append, List.length_cons] at hsteps
          obtain ⟨s, hread, hs⟩ := hitem.read steps depth
            (',' :: (encodeElements ((next :: items).map Prod.snd) ++ (last ++ ']' :: rest)))
            (by omega) hfirst (numberEnds_cons (by decide) _)
          have hnext : skipSpace s =
              ',' :: (encodeElements ((next :: items).map Prod.snd) ++ (last ++ ']' :: rest)) :=
            hs.trans (skipSpace_cons (by decide) _)
          have hlength : (encodeElements ((next :: items).map Prod.snd)).length < steps := by omega
          have hrest := ih (List.cons_ne_nil _ _) hitems hlength hothers
          rw [hsplit, List.append_assoc, List.cons_append, hread, Option.bind_eq_bind,
            Option.bind_some]
          simp only [hnext, hrest, Option.bind_eq_bind, Option.bind_some]
          rfl

theorem parseKey_spelling (m : SpeltMember) (hbefore : Blank m.before) (hafter : Blank m.after)
    (rest : List Char) : parseKey (m.spelling ++ rest) = some (m.key, m.text ++ rest) := by
  have hquote : skipSpace (m.spelling ++ rest) =
      '"' :: (m.key.toList.flatMap escapeChar ++ '"' :: (m.after ++ ':' :: (m.text ++ rest))) := by
    rw [SpeltMember.spelling, List.append_assoc, skipSpace_append hbefore, encodeString,
      List.cons_append, List.cons_append, skipSpace_cons (by decide)]
    simp
  have hcolon : skipSpace (m.after ++ ':' :: (m.text ++ rest)) = ':' :: (m.text ++ rest) := by
    rw [skipSpace_append hafter, skipSpace_cons (by decide)]
  rw [parseKey, hquote]
  simp only [parseString_escaped, Option.bind_eq_bind, Option.bind_some, hcolon]

theorem begins_spelling (m : SpeltMember) (hbefore : Blank m.before) : Begins m.spelling := by
  refine Begins.pad ?_ hbefore
  rw [encodeString, List.cons_append]
  exact begins_cons (by decide) _

theorem parseMembers_of_readAs {members : List SpeltMember} (hne : members ≠ [])
    (hblank : ∀ m ∈ members, Blank m.before ∧ Blank m.after)
    (h : ∀ m ∈ members, ReadAs readFloat m.value m.text) {steps depth : ℕ}
    (hsteps : (encodeElements (members.map SpeltMember.spelling)).length < steps)
    (hdepth : ∀ m ∈ members, m.value.NestsWithin depth) {last : List Char} (hlast : Blank last)
    (rest : List Char) :
    parseMembers readFloat steps depth
        (encodeElements (members.map SpeltMember.spelling) ++ (last ++ '}' :: rest)) =
      some (members.map fun m => (m.key, m.value), rest) := by
  induction members generalizing steps with
  | nil => exact absurd rfl hne
  | cons m members ih =>
      obtain ⟨steps, rfl⟩ := Nat.exists_eq_succ_of_ne_zero (Nat.ne_of_gt (Nat.zero_lt_of_lt hsteps))
      obtain ⟨hitem, hitems⟩ := List.forall_mem_cons.mp h
      obtain ⟨hfirst, hothers⟩ := List.forall_mem_cons.mp hdepth
      obtain ⟨⟨hbefore, hafter⟩, hblanks⟩ := List.forall_mem_cons.mp hblank
      have htext : m.text.length ≤ m.spelling.length := by
        rw [SpeltMember.spelling]
        simp only [List.length_append, List.length_cons]
        omega
      rw [parseMembers]
      cases members with
      | nil =>
          have hlength : m.spelling.length < steps + 1 := hsteps
          obtain ⟨s, hread, hs⟩ := hitem.read steps depth (last ++ '}' :: rest) (by omega) hfirst
            (NumberEnds.append hlast (numberEnds_cons (by decide) rest))
          have hend : skipSpace s = '}' :: rest := by
            rw [hs, skipSpace_append hlast, skipSpace_cons (by decide)]
          rw [List.map_singleton, encodeElements, parseKey_spelling m hbefore hafter,
            Option.bind_eq_bind, Option.bind_some]
          simp only [hread, Option.bind_eq_bind, Option.bind_some, hend]
          rfl
      | cons next members =>
          have hsplit : encodeElements ((m :: next :: members).map SpeltMember.spelling) =
              m.spelling ++ ',' :: encodeElements ((next :: members).map SpeltMember.spelling) :=
            rfl
          rw [hsplit, List.length_append, List.length_cons] at hsteps
          obtain ⟨s, hread, hs⟩ := hitem.read steps depth
            (',' :: (encodeElements ((next :: members).map SpeltMember.spelling) ++
              (last ++ '}' :: rest)))
            (by omega) hfirst (numberEnds_cons (by decide) _)
          have hnext : skipSpace s =
              ',' :: (encodeElements ((next :: members).map SpeltMember.spelling) ++
                (last ++ '}' :: rest)) :=
            hs.trans (skipSpace_cons (by decide) _)
          have hlength :
              (encodeElements ((next :: members).map SpeltMember.spelling)).length < steps := by
            omega
          have hrest := ih (List.cons_ne_nil _ _) hblanks hitems hlength hothers
          rw [hsplit, List.append_assoc, List.cons_append, parseKey_spelling m hbefore hafter,
            Option.bind_eq_bind, Option.bind_some]
          simp only [hread, Option.bind_eq_bind, Option.bind_some, hnext, hrest]
          rfl

/-! ## Every spelling is read -/

/-- A token at the front is not white space. -/
theorem readAs_of_token {v : Value} {c : Char} {text : List Char}
    (hc : isSpace c = false ∧ c ≠ ']' ∧ c ≠ '}')
    (h : ∀ (steps depth : ℕ) (rest : List Char), (c :: text).length ≤ steps + 1 →
      v.NestsWithin depth → NumberEnds rest →
      ∃ s, parseValue readFloat (steps + 1) depth (c :: (text ++ rest)) = some (v, s) ∧
        skipSpace s = skipSpace rest) :
    ReadAs readFloat v (c :: text) where
  begins := begins_cons hc text
  read steps depth rest hsteps hdepth hrest := by
    obtain ⟨steps, rfl⟩ : ∃ n, steps = n + 1 :=
      ⟨steps - 1, by rw [List.length_cons] at hsteps; omega⟩
    exact h steps depth rest hsteps hdepth hrest

theorem readAs_string (s : String) : ReadAs readFloat (.string s) (encodeString s) := by
  refine readAs_of_token (by decide) fun steps depth rest _ _ _ => ⟨rest, ?_, rfl⟩
  rw [parseValue, skipSpace_cons (by decide), List.append_assoc, List.singleton_append]
  simp only [parseString_escaped, Option.map_some]

theorem isSpace_of_isDigit {c : Char} (hc : c.isDigit) : isSpace c = false := by
  by_contra hspace
  rw [Bool.not_eq_false] at hspace
  simp only [isSpace, Bool.or_eq_true, decide_eq_true_eq] at hspace
  rcases hspace with ((rfl | rfl) | rfl) | rfl <;> cases hc

/-- Where no other token begins, a number is read. -/
theorem parseValue_number {c : Char} (hc : c = '-' ∨ c.isDigit) (steps depth : ℕ)
    (s : List Char) :
    parseValue readFloat (steps + 1) depth (c :: s) =
      (parseNumber readFloat (c :: s)).map fun (n, s) => (.number n, s) := by
  have hspace : isSpace c = false := by
    rcases hc with rfl | hdigit
    · rfl
    · exact isSpace_of_isDigit hdigit
  have hother : ∀ d : Char, ¬ (d = '-' ∨ d.isDigit) → c ≠ d := by
    rintro d hd rfl
    exact hd hc
  rw [parseValue, skipSpace_cons hspace]
  split
  · next h => exact absurd (List.cons.inj h).1 (hother 'n' (by decide))
  · next h => exact absurd (List.cons.inj h).1 (hother 't' (by decide))
  · next h => exact absurd (List.cons.inj h).1 (hother 'f' (by decide))
  · next h => exact absurd (List.cons.inj h).1 (hother '"' (by decide))
  · next h => exact absurd (List.cons.inj h).1 (hother '[' (by decide))
  · next h => exact absurd (List.cons.inj h).1 (hother '{' (by decide))
  · rfl

theorem readAs_number {n : Number} (hn : n.Readable format readFloat) :
    ReadAs readFloat (.number n) (n.encode format) := by
  obtain ⟨c, text, htext, hc⟩ := Number.startsNumber hn
  have htoken : isSpace c = false ∧ c ≠ ']' ∧ c ≠ '}' := by
    rcases hc with rfl | hdigit
    · decide
    · refine ⟨isSpace_of_isDigit hdigit, ?_, ?_⟩
      · rintro rfl
        cases hdigit
      · rintro rfl
        cases hdigit
  rw [htext]
  refine readAs_of_token htoken fun steps depth rest _ _ hrest => ⟨rest, ?_, rfl⟩
  have hread := parseNumber_encode hn hrest
  rw [htext, List.cons_append] at hread
  rw [parseValue_number hc, hread]
  rfl

theorem Begins.skipSpace_eq {text : List Char} (h : Begins text) (more : List Char) :
    ∃ c s, skipSpace (text ++ more) = c :: s ∧ c ≠ ']' ∧ c ≠ '}' := by
  obtain ⟨blank, c, rest, rfl, hblank, hspace, hc⟩ := h
  refine ⟨c, rest ++ more, ?_, hc⟩
  rw [List.append_assoc, skipSpace_append hblank, List.cons_append, skipSpace_cons hspace]

theorem begins_encodeElements {texts : List (List Char)} (hne : texts ≠ [])
    (h : ∀ text ∈ texts, Begins text) : Begins (encodeElements texts) := by
  cases texts with
  | nil => exact absurd rfl hne
  | cons text texts =>
      have hfirst := h text List.mem_cons_self
      cases texts with
      | nil => exact hfirst
      | cons next texts => exact hfirst.append _

theorem readAs_array {space last : List Char} {items : List (Value × List Char)}
    (hspace : Blank space) (hlast : Blank last) (h : ∀ item ∈ items, ReadAs readFloat item.1 item.2) :
    ReadAs readFloat (.array (items.map Prod.fst))
      ('[' :: (space ++ (encodeElements (items.map Prod.snd) ++ (last ++ [']'])))) := by
  refine readAs_of_token (by decide) fun steps depth rest hsteps hdepth _ => ⟨rest, ?_, rfl⟩
  obtain ⟨depth, rfl⟩ : ∃ n, depth = n + 1 := by
    cases depth with
    | zero => exact hdepth.elim
    | succ depth => exact ⟨depth, rfl⟩
  rw [parseValue, skipSpace_cons (by decide)]
  simp only [Nat.succ_ne_zero, if_false, Nat.add_sub_cancel]
  rw [List.append_assoc, skipSpace_append hspace, List.append_assoc, List.append_assoc,
    List.singleton_append]
  by_cases hne : items = []
  · subst hne
    simp only [List.map_nil, encodeElements, List.nil_append, skipSpace_append hlast]
    rfl
  · -- The first element does not look like the end.
    have hbegins : Begins (encodeElements (items.map Prod.snd)) := by
      refine begins_encodeElements (fun hnil => hne (List.map_eq_nil_iff.mp hnil)) fun text ht => ?_
      obtain ⟨item, hitem, rfl⟩ := List.mem_map.mp ht
      exact (h item hitem).begins
    obtain ⟨c, s, hskip, hc, -⟩ := hbegins.skipSpace_eq (last ++ ']' :: rest)
    have hlength : (encodeElements (items.map Prod.snd)).length < steps := by
      simp only [List.length_cons, List.length_append, List.length_nil] at hsteps
      omega
    have hnests : ∀ item ∈ items, item.1.NestsWithin depth := fun item hitem =>
      hdepth item.1 (List.mem_map_of_mem hitem)
    have hread := parseElements_of_readAs hne h hlength hnests hlast rest
    rw [← parseElements_skipSpace, hskip] at hread
    rw [hskip]
    split
    · next heq => exact absurd (List.cons.inj heq).1 hc
    · rw [hread]
      rfl

theorem readAs_object {space last : List Char} {members : List SpeltMember}
    (hspace : Blank space) (hlast : Blank last)
    (hblank : ∀ m ∈ members, Blank m.before ∧ Blank m.after)
    (h : ∀ m ∈ members, ReadAs readFloat m.value m.text) :
    ReadAs readFloat (.object (members.map fun m => (m.key, m.value)))
      ('{' :: (space ++
        (encodeElements (members.map SpeltMember.spelling) ++ (last ++ ['}'])))) := by
  refine readAs_of_token (by decide) fun steps depth rest hsteps hdepth _ => ⟨rest, ?_, rfl⟩
  obtain ⟨depth, rfl⟩ : ∃ n, depth = n + 1 := by
    cases depth with
    | zero => exact hdepth.elim
    | succ depth => exact ⟨depth, rfl⟩
  rw [parseValue, skipSpace_cons (by decide)]
  simp only [Nat.succ_ne_zero, if_false, Nat.add_sub_cancel]
  rw [List.append_assoc, skipSpace_append hspace, List.append_assoc, List.append_assoc,
    List.singleton_append]
  by_cases hne : members = []
  · subst hne
    simp only [List.map_nil, encodeElements, List.nil_append, skipSpace_append hlast]
    rfl
  · -- The first key does not look like the end.
    have hbegins : Begins (encodeElements (members.map SpeltMember.spelling)) := by
      refine begins_encodeElements (fun hnil => hne (List.map_eq_nil_iff.mp hnil)) fun text ht => ?_
      obtain ⟨m, hm, rfl⟩ := List.mem_map.mp ht
      exact begins_spelling m (hblank m hm).1
    obtain ⟨c, s, hskip, -, hc⟩ := hbegins.skipSpace_eq (last ++ '}' :: rest)
    have hlength : (encodeElements (members.map SpeltMember.spelling)).length < steps := by
      simp only [List.length_cons, List.length_append, List.length_nil] at hsteps
      omega
    have hnests : ∀ m ∈ members, m.value.NestsWithin depth := fun m hm =>
      hdepth (m.key, m.value) (List.mem_map_of_mem hm)
    have hread := parseMembers_of_readAs hne hblank h hlength hnests hlast rest
    rw [← parseMembers_skipSpace, hskip] at hread
    rw [hskip]
    split
    · next heq => exact absurd (List.cons.inj heq).1 hc
    · rw [hread]
      rfl

theorem readAs_null : ReadAs readFloat .null "null".toList := by
  refine readAs_of_token (c := 'n') (by decide) fun steps depth rest _ _ _ => ⟨rest, ?_, rfl⟩
  rw [parseValue, skipSpace_cons (by decide)]
  rfl

theorem readAs_bool (b : Bool) : ReadAs readFloat (.bool b) (encodeBool b) := by
  cases b with
  | true =>
      refine readAs_of_token (c := 't') (by decide) fun steps depth rest _ _ _ => ⟨rest, ?_, rfl⟩
      rw [parseValue, skipSpace_cons (by decide)]
      rfl
  | false =>
      refine readAs_of_token (c := 'f') (by decide) fun steps depth rest _ _ _ => ⟨rest, ?_, rfl⟩
      rw [parseValue, skipSpace_cons (by decide)]
      rfl

theorem Spells.readAs {v : Value} {text : List Char} (h : Spells format readFloat v text) :
    ReadAs readFloat v text := by
  induction h with
  | padded hbefore hafter _ ih => exact ih.padded hbefore hafter
  | null => exact readAs_null
  | bool b => exact readAs_bool b
  | number hn => exact readAs_number hn
  | string s => exact readAs_string s
  | array hspace hlast _ ih => exact readAs_array hspace hlast ih
  | object hspace hlast hblank _ ih => exact readAs_object hspace hlast hblank ih

/-- **What spells a value is read as the value.** -/
theorem parse_of_spells {v : Value} {text : List Char} (h : Spells format readFloat v text)
    {depth : ℕ} (hdepth : v.NestsWithin depth) : parse readFloat depth text = some v := by
  obtain ⟨s, hread, hs⟩ := h.readAs.read (text.length + 1) depth [] (Nat.le_succ _) hdepth
    (by rintro _ ⟨⟩)
  rw [List.append_nil] at hread
  have hend : skipSpace s = [] := hs
  rw [parse, hread, Option.bind_eq_bind, Option.bind_some]
  simp only [hend, if_true]

/-! ## The compact spelling -/

/-- Every number in the value is read as it is printed. -/
def Value.Readable (format : FloatFormat) (readFloat : List Char → Option UInt64) (v : Value) :
    Prop :=
  ∀ n, Relation.ReflTransGen Child v (.number n) → n.Readable format readFloat

theorem Value.Readable.child {v w : Value} (h : v.Readable format readFloat)
    (hstep : Child v w) : w.Readable format readFloat := fun n hn => h n (.head hstep hn)

theorem encodeValues_eq_map (values : List Value) :
    encodeValues format values = values.map (Value.encode format) := by
  induction values with
  | nil => rfl
  | cons value values ih => rw [encodeValues, ih, List.map_cons]

theorem encodeEntries_eq_map (entries : List (String × Value)) :
    encodeEntries format entries = entries.map fun e => (e.1, e.2.encode format) := by
  induction entries with
  | nil => rfl
  | cons entry entries ih => rw [encodeEntries, ih, List.map_cons]

theorem spells_encode {v : Value} (h : v.Readable format readFloat) :
    Spells format readFloat v (v.encode format) := by
  induction v using Value.induct with
  | hnull => exact .null
  | hbool b => exact .bool b
  | hnumber n => exact .number (h n .refl)
  | hstring s => exact .string s
  | harray elements ih =>
      have hitems := @Spells.array format readFloat [] []
        (elements.map fun x => (x, x.encode format)) blank_nil blank_nil
        (List.forall_mem_map.mpr fun x hx => ih x hx (h.child (.element hx)))
      rw [List.map_map, List.map_map] at hitems
      rw [Value.encode, encodeValues_eq_map, encodeArray]
      simpa [Function.comp_def] using hitems
  | hobject entries ih =>
      have hmembers := @Spells.object format readFloat [] []
        (entries.map fun e => ⟨e.1, e.2, [], [], e.2.encode format⟩)
        blank_nil blank_nil (List.forall_mem_map.mpr fun e _ => ⟨blank_nil, blank_nil⟩)
        (List.forall_mem_map.mpr fun e he => ih e he (h.child (.field he)))
      rw [List.map_map, List.map_map] at hmembers
      rw [Value.encode, encodeEntries_eq_map, encodeObject_eq, List.map_map]
      simpa [Function.comp_def, SpeltMember.spelling] using hmembers

end Json
