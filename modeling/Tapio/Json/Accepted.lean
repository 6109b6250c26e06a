/-
# What is read is a JSON text

The reader of values takes what it reads from the front of a text, and what it takes is a
text of the grammar. A text that is no JSON text is therefore not read at all.
-/
import Tapio.Json.Parse
import Tapio.Json.Text

namespace Json

open Text (toDigit)

/-- What was read is the front of a text, with bytes of this kind. -/
def Consumes (p : List UInt8 → Prop) (s rest : List Char) : Prop :=
  ∃ text, s = text ++ rest ∧ p (utf8 text)

/-! ## White space -/

theorem isSpaceByte_of_isSpace {c : Char} (h : isSpace c) :
    c.toNat < 128 ∧ isSpaceByte (UInt8.ofNat c.toNat) := by
  simp only [isSpace, Bool.or_eq_true, decide_eq_true_eq] at h
  rcases h with ((rfl | rfl) | rfl) | rfl <;> decide

theorem consumes_skipSpace (s : List Char) :
    Consumes (fun bytes => bytes.all isSpaceByte) s (skipSpace s) := by
  refine ⟨s.takeWhile isSpace, List.takeWhile_append_dropWhile.symm, ?_⟩
  have hspace : ∀ c ∈ s.takeWhile isSpace,
      c.toNat < 128 ∧ isSpaceByte (UInt8.ofNat c.toNat) :=
    fun c hc => isSpaceByte_of_isSpace (List.mem_takeWhile_imp hc)
  rw [utf8_of_ascii fun c hc => (hspace c hc).1]
  simp only [List.all_map, List.all_eq_true, Function.comp_apply]
  exact fun c hc => (hspace c hc).2

/-- White space may come first. -/
theorem Consumes.pad {s rest : List Char} (h : Consumes JsonText (skipSpace s) rest) :
    Consumes JsonText s rest := by
  obtain ⟨blank, hblank, hspace⟩ := consumes_skipSpace s
  obtain ⟨text, htext, hjson⟩ := h
  refine ⟨blank ++ text, by rw [List.append_assoc, ← htext, ← hblank], ?_⟩
  have hpadded := @JsonText.padded _ _ [] hspace rfl hjson
  rwa [List.append_nil, ← utf8_append] at hpadded

/-- White space may come last. -/
theorem Consumes.space {s rest : List Char} (h : Consumes JsonText s rest) :
    Consumes JsonText s (skipSpace rest) := by
  obtain ⟨blank, hblank, hspace⟩ := consumes_skipSpace rest
  obtain ⟨text, htext, hjson⟩ := h
  refine ⟨text ++ blank, by rw [List.append_assoc, ← hblank, htext], ?_⟩
  have hpadded := @JsonText.padded [] _ _ rfl hspace hjson
  rwa [List.nil_append, ← utf8_append] at hpadded

/-! ## Strings -/

theorem stringBody_append_char {c : Char} (hquote : c ≠ '"') (hslash : c ≠ '\\')
    {text : List Char} (h : StringBody (utf8 text)) : StringBody (utf8 (c :: text)) := by
  rw [utf8_cons]
  refine (stringBody_of_forall fun b hb => ⟨?_, ?_⟩).append h
  · rintro rfl
    exact hquote (Char.toNat_inj.mp (toNat_eq_of_mem_utf8EncodeChar hb (by decide)))
  · rintro rfl
    exact hslash (Char.toNat_inj.mp (toNat_eq_of_mem_utf8EncodeChar hb (by decide)))

/-- A hexadecimal digit is neither a quote nor a backslash. -/
theorem ne_of_toDigit {c : Char} {n : ℕ} (h : toDigit 16 c = some n) : c ≠ '"' ∧ c ≠ '\\' := by
  constructor
  · rintro rfl
    cases h
  · rintro rfl
    cases h

theorem stringBody_hex4 {a b c d : Char} {n : ℕ} (h : hex4 a b c d = some n) {text : List Char}
    (htext : StringBody (utf8 text)) :
    StringBody (utf8 ('\\' :: 'u' :: a :: b :: c :: d :: text)) := by
  simp only [hex4, Option.bind_eq_bind, Option.bind_eq_some_iff] at h
  obtain ⟨_, ha, _, hb, _, hc, _, hd, -⟩ := h
  have hdigits : StringBody (utf8 (a :: b :: c :: d :: text)) := by
    refine stringBody_append_char (ne_of_toDigit ha).1 (ne_of_toDigit ha).2 ?_
    refine stringBody_append_char (ne_of_toDigit hb).1 (ne_of_toDigit hb).2 ?_
    refine stringBody_append_char (ne_of_toDigit hc).1 (ne_of_toDigit hc).2 ?_
    exact stringBody_append_char (ne_of_toDigit hd).1 (ne_of_toDigit hd).2 htext
  rw [utf8_cons_of_lt (by decide), utf8_cons_of_lt (by decide)]
  exact .escape hdigits

theorem stringBody_unescape {e c : Char} (h : unescape e = some c) {text : List Char}
    (htext : StringBody (utf8 text)) : StringBody (utf8 ('\\' :: e :: text)) := by
  have hascii : e.toNat < 128 := by
    unfold unescape at h
    split at h <;> first | decide | cases h
  rw [utf8_cons_of_lt (by decide), utf8_cons_of_lt hascii]
  exact .escape htext

/-- One more character in front of what is read. -/
theorem eq_some_of_cons {o : Option (List Char × List Char)} {c : Char} {text rest : List Char}
    (h : (o.bind fun (text, rest) => some (c :: text, rest)) = some (text, rest)) :
    ∃ text, o = some (text, rest) := by
  obtain ⟨⟨text', rest'⟩, ho, heq⟩ := Option.bind_eq_some_iff.mp h
  obtain ⟨-, rfl⟩ := Prod.mk.inj (Option.some.inj heq)
  exact ⟨text', ho⟩

theorem Consumes.stringBody {s rest : List Char} (h : Consumes StringBody s rest)
    (front : List Char)
    (hfront : ∀ {text : List Char}, StringBody (utf8 text) → StringBody (utf8 (front ++ text))) :
    Consumes StringBody (front ++ s) rest := by
  obtain ⟨text, rfl, hbody⟩ := h
  exact ⟨front ++ text, (List.append_assoc ..).symm, hfront hbody⟩

theorem consumes_stringBody {steps : ℕ} {s rest text : List Char}
    (h : parseStringBody steps s = some (text, rest)) :
    Consumes StringBody s ('"' :: rest) := by
  induction steps generalizing s text with
  | zero => cases h
  | succ steps ih =>
      cases s with
      | nil => cases h
      | cons c s =>
          rw [parseStringBody.eq_def] at h
          dsimp only at h
          split_ifs at h with hquote hslash hcontrol
          · obtain ⟨-, rfl⟩ := Prod.mk.inj (Option.some.inj h)
            exact ⟨[], by rw [hquote]; rfl, .nil⟩
          · subst hslash
            split at h
            · next a b c d s =>
                obtain ⟨n, hn, h⟩ := Option.bind_eq_some_iff.mp h
                split_ifs at h with hhigh hlow
                · split at h
                  · next a' b' c' d' s _ =>
                      obtain ⟨low, hlow, h⟩ := Option.bind_eq_some_iff.mp h
                      split_ifs at h with hpair
                      obtain ⟨text, hread⟩ := eq_some_of_cons h
                      have hsecond := (ih hread).stringBody
                        ['\\', 'u', a', b', c', d'] (stringBody_hex4 hlow)
                      exact hsecond.stringBody ['\\', 'u', a, b, c, d]
                        (stringBody_hex4 hn)
                  · cases h
                · obtain ⟨text, hread⟩ := eq_some_of_cons h
                  exact (ih hread).stringBody ['\\', 'u', a, b, c, d]
                    (stringBody_hex4 hn)
            · next e s _ =>
                obtain ⟨c, hc, h⟩ := Option.bind_eq_some_iff.mp h
                obtain ⟨text, hread⟩ := eq_some_of_cons h
                exact (ih hread).stringBody ['\\', e] (stringBody_unescape hc)
            · cases h
          · obtain ⟨text, hread⟩ := eq_some_of_cons h
            exact (ih hread).stringBody [c] (stringBody_append_char hquote hslash)

theorem consumes_string {s rest : List Char} {x : String} (h : parseString s = some (x, rest)) :
    Consumes JsonText ('"' :: s) rest := by
  obtain ⟨⟨text, rest'⟩, hread, heq⟩ := Option.map_eq_some_iff.mp h
  obtain ⟨-, rfl⟩ := Prod.mk.inj heq
  obtain ⟨body, rfl, hbody⟩ := consumes_stringBody hread
  refine ⟨'"' :: (body ++ ['"']), by simp, ?_⟩
  have hstring := JsonText.string hbody
  rw [utf8_cons_of_lt (by decide), utf8_append]
  exact hstring

/-! ## Numbers -/

/-- A character of a number or a literal. -/
def WordChar (c : Char) : Prop := c.toNat < 128 ∧ isWordByte (UInt8.ofNat c.toNat)

instance : DecidablePred WordChar := fun _ => inferInstanceAs (Decidable (_ ∧ _))

theorem wordChar_takeWhile (s : List Char) : ∀ c ∈ s.takeWhile Char.isDigit, WordChar c :=
  fun _ hc => isWordByte_of_isDigit (List.mem_takeWhile_imp hc)

theorem scanFraction_eq {s text rest : List Char} (h : scanFraction s = some (text, rest)) :
    s = text ++ rest ∧ ∀ c ∈ text, WordChar c := by
  unfold scanFraction at h
  split at h
  · next s =>
      dsimp only at h
      split_ifs at h
      obtain ⟨rfl, rfl⟩ := Prod.mk.inj (Option.some.inj h)
      exact ⟨congrArg _ List.takeWhile_append_dropWhile.symm,
        List.forall_mem_cons.mpr ⟨by decide, wordChar_takeWhile s⟩⟩
  · obtain ⟨rfl, rfl⟩ := Prod.mk.inj (Option.some.inj h)
    exact ⟨rfl, List.forall_mem_nil _⟩

theorem scanSign_eq (s : List Char) :
    s = (scanSign s).1 ++ (scanSign s).2 ∧ ∀ c ∈ (scanSign s).1, WordChar c := by
  unfold scanSign
  split
  · exact ⟨rfl, List.forall_mem_singleton.mpr (by decide)⟩
  · exact ⟨rfl, List.forall_mem_singleton.mpr (by decide)⟩
  · exact ⟨rfl, List.forall_mem_nil _⟩

theorem scanExponent_eq {s text rest : List Char} (h : scanExponent s = some (text, rest)) :
    s = text ++ rest ∧ ∀ c ∈ text, WordChar c := by
  cases s with
  | nil =>
      obtain ⟨rfl, rfl⟩ := Prod.mk.inj (Option.some.inj h)
      exact ⟨rfl, List.forall_mem_nil _⟩
  | cons c s =>
      obtain ⟨hsign, hword⟩ := scanSign_eq s
      rw [scanExponent] at h
      dsimp only at h
      split_ifs at h with hexponent hdigits
      · obtain ⟨rfl, rfl⟩ := Prod.mk.inj (Option.some.inj h)
        have hc : WordChar c := by
          rcases hexponent with rfl | rfl <;> decide
        refine ⟨?_, List.forall_mem_cons.mpr ⟨hc, List.forall_mem_append.mpr
          ⟨hword, wordChar_takeWhile _⟩⟩⟩
        rw [List.cons_append, List.append_assoc, List.takeWhile_append_dropWhile, ← hsign]
      · obtain ⟨rfl, rfl⟩ := Prod.mk.inj (Option.some.inj h)
        exact ⟨rfl, List.forall_mem_nil _⟩

variable {readFloat : List Char → Option UInt64}

theorem consumes_unsigned {negative : Bool} {s rest : List Char} {n : Number}
    (h : parseUnsigned readFloat negative s = some (n, rest)) :
    ∃ text, s = text ++ rest ∧ text ≠ [] ∧ ∀ c ∈ text, WordChar c := by
  rw [parseUnsigned] at h
  dsimp only at h
  split_ifs at h with hplain
  obtain ⟨⟨fraction, s1⟩, hfraction, h⟩ := Option.bind_eq_some_iff.mp h
  obtain ⟨⟨exponent, s2⟩, hexponent, h⟩ := Option.bind_eq_some_iff.mp h
  obtain ⟨number, -, h⟩ := Option.bind_eq_some_iff.mp h
  obtain ⟨-, rfl⟩ := Prod.mk.inj (Option.some.inj h)
  obtain ⟨hs1, hword1⟩ := scanFraction_eq hfraction
  obtain ⟨hs2, hword2⟩ := scanExponent_eq hexponent
  refine ⟨s.takeWhile Char.isDigit ++ (fraction ++ exponent), ?_, ?_, ?_⟩
  · rw [List.append_assoc, List.append_assoc, ← hs2, ← hs1, List.takeWhile_append_dropWhile]
  · exact List.append_ne_nil_of_left_ne_nil (not_or.mp hplain).1 _
  · exact List.forall_mem_append.mpr
      ⟨wordChar_takeWhile s, List.forall_mem_append.mpr ⟨hword1, hword2⟩⟩

theorem consumes_number {s rest : List Char} {n : Number}
    (h : parseNumber readFloat s = some (n, rest)) : Consumes JsonText s rest := by
  unfold parseNumber at h
  split at h
  · obtain ⟨text, rfl, -, hword⟩ := consumes_unsigned h
    exact ⟨'-' :: text, rfl, jsonText_word (List.cons_ne_nil _ _)
      (List.forall_mem_cons.mpr ⟨by decide, hword⟩)⟩
  · obtain ⟨text, rfl, hne, hword⟩ := consumes_unsigned h
    exact ⟨text, rfl, jsonText_word hne hword⟩

/-! ## Values -/

theorem consumes_key {s rest : List Char} {key : String} (h : parseKey s = some (key, rest)) :
    Consumes JsonText s (':' :: rest) := by
  rw [parseKey] at h
  split at h
  · next s hskip =>
      obtain ⟨⟨key', rest'⟩, hread, h⟩ := Option.bind_eq_some_iff.mp h
      dsimp only at h
      split at h
      · next after hcolon =>
          obtain ⟨-, rfl⟩ := Prod.mk.inj (Option.some.inj h)
          have hkey := (consumes_string hread).space
          rw [hcolon] at hkey
          rw [← hskip] at hkey
          exact hkey.pad
      · cases h
  · cases h

/-- A key and its value, as they stand in an object. -/
def memberText (m : List Char × List Char) : List Char := m.1 ++ ':' :: m.2

/-- The elements of an array up to its end. -/
def ConsumesElements (s rest : List Char) : Prop :=
  ∃ elements : List (List Char), s = encodeElements elements ++ ']' :: rest ∧ elements ≠ [] ∧
    ∀ element ∈ elements, JsonText (utf8 element)

/-- The entries of an object up to its end. -/
def ConsumesMembers (s rest : List Char) : Prop :=
  ∃ members : List (List Char × List Char),
    s = encodeElements (members.map memberText) ++ '}' :: rest ∧ members ≠ [] ∧
      ∀ m ∈ members, JsonText (utf8 m.1) ∧ JsonText (utf8 m.2)

theorem consumes_array {s rest : List Char} {elements : List (List Char)}
    (helements : skipSpace s = encodeElements elements ++ ']' :: rest)
    (hjson : ∀ element ∈ elements, JsonText (utf8 element)) :
    Consumes JsonText ('[' :: s) rest := by
  obtain ⟨blank, hblank, hspace⟩ := consumes_skipSpace s
  refine ⟨'[' :: (blank ++ (encodeElements elements ++ [']'])), ?_, ?_⟩
  · rw [hblank, helements]
    simp
  · have harray := JsonText.array hspace (List.forall_mem_map.mpr hjson)
    rw [← utf8_encodeElements] at harray
    rw [utf8_cons_of_lt (by decide), utf8_append, utf8_append]
    rwa [List.append_assoc] at harray

theorem consumes_object {s rest : List Char} {members : List (List Char × List Char)}
    (hmembers : skipSpace s = encodeElements (members.map memberText) ++ '}' :: rest)
    (hjson : ∀ m ∈ members, JsonText (utf8 m.1) ∧ JsonText (utf8 m.2)) :
    Consumes JsonText ('{' :: s) rest := by
  obtain ⟨blank, hblank, hspace⟩ := consumes_skipSpace s
  refine ⟨'{' :: (blank ++ (encodeElements (members.map memberText) ++ ['}'])), ?_, ?_⟩
  · rw [hblank, hmembers]
    simp
  · have hobject := @JsonText.object _ (members.map fun m => (utf8 m.1, utf8 m.2)) hspace
      (List.forall_mem_map.mpr fun m hm => (hjson m hm).1)
      (List.forall_mem_map.mpr fun m hm => (hjson m hm).2)
    have hkeyed : (members.map fun m => (utf8 m.1, utf8 m.2)).map keyed =
        (members.map memberText).map utf8 := by
      rw [List.map_map, List.map_map]
      refine List.map_congr_left fun m _ => ?_
      simp only [Function.comp_apply, keyed, memberText]
      rw [utf8_append, utf8_cons_of_lt (by decide)]
      rfl
    rw [hkeyed, ← utf8_encodeElements] at hobject
    rw [utf8_cons_of_lt (by decide), utf8_append, utf8_append]
    rwa [List.append_assoc] at hobject

theorem encodeElements_cons (text : List Char) {texts : List (List Char)} (hne : texts ≠ []) :
    encodeElements (text :: texts) = text ++ ',' :: encodeElements texts := by
  cases texts with
  | nil => exact absurd rfl hne
  | cons next texts => rfl

theorem ConsumesElements.one {s rest : List Char} (h : Consumes JsonText s (']' :: rest)) :
    ConsumesElements s rest := by
  obtain ⟨text, rfl, hjson⟩ := h
  exact ⟨[text], rfl, List.cons_ne_nil _ _, List.forall_mem_singleton.mpr hjson⟩

theorem ConsumesElements.cons {s more rest : List Char} (h : Consumes JsonText s (',' :: more))
    (hmore : ConsumesElements more rest) : ConsumesElements s rest := by
  obtain ⟨text, rfl, hjson⟩ := h
  obtain ⟨elements, rfl, hne, helements⟩ := hmore
  refine ⟨text :: elements, ?_, List.cons_ne_nil _ _, List.forall_mem_cons.mpr ⟨hjson, helements⟩⟩
  rw [encodeElements_cons text hne, List.append_assoc, List.cons_append]

theorem ConsumesMembers.one {s value rest : List Char} (hkey : Consumes JsonText s (':' :: value))
    (h : Consumes JsonText value ('}' :: rest)) : ConsumesMembers s rest := by
  obtain ⟨key, rfl, hkey⟩ := hkey
  obtain ⟨text, rfl, hjson⟩ := h
  refine ⟨[(key, text)], ?_, List.cons_ne_nil _ _, List.forall_mem_singleton.mpr ⟨hkey, hjson⟩⟩
  simp [encodeElements, memberText]

theorem ConsumesMembers.cons {s value more rest : List Char}
    (hkey : Consumes JsonText s (':' :: value)) (h : Consumes JsonText value (',' :: more))
    (hmore : ConsumesMembers more rest) : ConsumesMembers s rest := by
  obtain ⟨key, rfl, hkey⟩ := hkey
  obtain ⟨text, rfl, hjson⟩ := h
  obtain ⟨members, rfl, hne, hmembers⟩ := hmore
  refine ⟨(key, text) :: members, ?_, List.cons_ne_nil _ _,
    List.forall_mem_cons.mpr ⟨⟨hkey, hjson⟩, hmembers⟩⟩
  rw [List.map_cons, encodeElements_cons _ (fun hnil => hne (List.map_eq_nil_iff.mp hnil))]
  simp [memberText]

variable (readFloat) in
/-- What one of the three readers takes at a number of steps. -/
structure Takes (steps : ℕ) : Prop where
  value : ∀ {depth : ℕ} {s rest : List Char} {v : Value},
    parseValue readFloat steps depth s = some (v, rest) → Consumes JsonText s rest
  elements : ∀ {depth : ℕ} {s rest : List Char} {elements : List Value},
    parseElements readFloat steps depth s = some (elements, rest) → ConsumesElements s rest
  members : ∀ {depth : ℕ} {s rest : List Char} {entries : List (String × Value)},
    parseMembers readFloat steps depth s = some (entries, rest) → ConsumesMembers s rest

theorem Takes.succ_elements {steps : ℕ} (ih : Takes readFloat steps) {depth : ℕ}
    {s rest : List Char} {elements : List Value}
    (h : parseElements readFloat (steps + 1) depth s = some (elements, rest)) :
    ConsumesElements s rest := by
  rw [parseElements] at h
  obtain ⟨⟨element, s1⟩, hread, h⟩ := Option.bind_eq_some_iff.mp h
  have hfirst := (ih.value hread).space
  dsimp only at h
  split at h
  · next hend =>
      obtain ⟨-, rfl⟩ := Prod.mk.inj (Option.some.inj h)
      rw [hend] at hfirst
      exact .one hfirst
  · next hcomma =>
      obtain ⟨⟨others, s3⟩, hrest, h⟩ := Option.bind_eq_some_iff.mp h
      obtain ⟨-, rfl⟩ := Prod.mk.inj (Option.some.inj h)
      rw [hcomma] at hfirst
      exact .cons hfirst (ih.elements hrest)
  · cases h

theorem Takes.succ_members {steps : ℕ} (ih : Takes readFloat steps) {depth : ℕ}
    {s rest : List Char} {entries : List (String × Value)}
    (h : parseMembers readFloat (steps + 1) depth s = some (entries, rest)) :
    ConsumesMembers s rest := by
  rw [parseMembers] at h
  obtain ⟨⟨key, s1⟩, hkey, h⟩ := Option.bind_eq_some_iff.mp h
  obtain ⟨⟨value, s2⟩, hread, h⟩ := Option.bind_eq_some_iff.mp h
  have hfirst := (ih.value hread).space
  dsimp only at h
  split at h
  · next hend =>
      obtain ⟨-, rfl⟩ := Prod.mk.inj (Option.some.inj h)
      rw [hend] at hfirst
      exact .one (consumes_key hkey) hfirst
  · next hcomma =>
      obtain ⟨⟨others, s3⟩, hrest, h⟩ := Option.bind_eq_some_iff.mp h
      obtain ⟨-, rfl⟩ := Prod.mk.inj (Option.some.inj h)
      rw [hcomma] at hfirst
      exact .cons (consumes_key hkey) hfirst (ih.members hrest)
  · cases h

theorem consumes_literal (word : List Char) (hne : word ≠ []) (hword : word.all (WordChar ·))
    (rest : List Char) : Consumes JsonText (word ++ rest) rest :=
  ⟨word, rfl, jsonText_word hne fun c hc => of_decide_eq_true (List.all_eq_true.mp hword c hc)⟩

theorem Takes.succ_value {steps : ℕ} (ih : Takes readFloat steps) {depth : ℕ}
    {s rest : List Char} {v : Value}
    (h : parseValue readFloat (steps + 1) depth s = some (v, rest)) :
    Consumes JsonText s rest := by
  refine Consumes.pad ?_
  rw [parseValue] at h
  split at h
  · next hskip =>
      obtain ⟨-, rfl⟩ := Prod.mk.inj (Option.some.inj h)
      rw [hskip]
      exact consumes_literal "null".toList (List.cons_ne_nil _ _) (by decide) _
  · next hskip =>
      obtain ⟨-, rfl⟩ := Prod.mk.inj (Option.some.inj h)
      rw [hskip]
      exact consumes_literal "true".toList (List.cons_ne_nil _ _) (by decide) _
  · next hskip =>
      obtain ⟨-, rfl⟩ := Prod.mk.inj (Option.some.inj h)
      rw [hskip]
      exact consumes_literal "false".toList (List.cons_ne_nil _ _) (by decide) _
  · next hskip =>
      obtain ⟨⟨text, rest'⟩, hread, heq⟩ := Option.map_eq_some_iff.mp h
      obtain ⟨-, rfl⟩ := Prod.mk.inj heq
      rw [hskip]
      exact consumes_string hread
  · next s hskip =>
      rw [hskip]
      split_ifs at h with hdepth
      split at h
      · next hend =>
          obtain ⟨-, rfl⟩ := Prod.mk.inj (Option.some.inj h)
          exact @consumes_array _ _ [] hend (List.forall_mem_nil _)
      · obtain ⟨⟨elements, rest'⟩, hread, heq⟩ := Option.map_eq_some_iff.mp h
        obtain ⟨-, rfl⟩ := Prod.mk.inj heq
        obtain ⟨texts, htexts, -, hjson⟩ := ih.elements hread
        exact consumes_array htexts hjson
  · next s hskip =>
      rw [hskip]
      split_ifs at h with hdepth
      split at h
      · next hend =>
          obtain ⟨-, rfl⟩ := Prod.mk.inj (Option.some.inj h)
          exact @consumes_object _ _ [] hend (List.forall_mem_nil _)
      · obtain ⟨⟨entries, rest'⟩, hread, heq⟩ := Option.map_eq_some_iff.mp h
        obtain ⟨-, rfl⟩ := Prod.mk.inj heq
        obtain ⟨texts, htexts, -, hjson⟩ := ih.members hread
        exact consumes_object htexts hjson
  · obtain ⟨⟨n, rest'⟩, hread, heq⟩ := Option.map_eq_some_iff.mp h
    obtain ⟨-, rfl⟩ := Prod.mk.inj heq
    exact consumes_number hread

theorem takes (steps : ℕ) : Takes readFloat steps := by
  induction steps with
  | zero => exact ⟨nofun, nofun, nofun⟩
  | succ steps ih => exact ⟨ih.succ_value, ih.succ_elements, ih.succ_members⟩

/-- **What is read is a JSON text.** -/
theorem jsonText_of_parse {depth : ℕ} {s : List Char} {v : Value}
    (h : parse readFloat depth s = some v) : JsonText (utf8 s) := by
  obtain ⟨⟨value, rest⟩, hread, h⟩ := Option.bind_eq_some_iff.mp h
  dsimp only at h
  split_ifs at h with hend
  obtain ⟨text, htext, hjson⟩ := ((takes _).value hread).space
  rw [hend, List.append_nil] at htext
  rwa [htext]

end Json
