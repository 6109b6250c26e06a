/-
# Readers and what they read

A reader takes a text from the front of its input, or fails and takes nothing. It reads a
grammar if what it takes is a text of the grammar, and if it takes such a text whole
wherever nothing longer could be meant, which depends on what follows. Readers are composed
as the standard library composes them: one after the other, and a separator before.
-/
import Mathlib.Data.List.TakeWhile
import Mathlib.Tactic.SplitIfs

namespace Text

abbrev Reader (α : Type) := StateT (List Char) Option α

variable {α β : Type}

structure Reads (reader : Reader α) (Grammar : List Char → α → Prop)
    (Stop : List Char → Prop) : Prop where
  /-- What is taken is a text of the grammar. -/
  sound : ∀ {s rest : List Char} {a : α}, reader s = some (a, rest) →
    ∃ text, s = text ++ rest ∧ Grammar text a
  /-- A text of the grammar is taken if it stops there. -/
  complete : ∀ {text rest : List Char} {a : α}, Grammar text a → Stop rest →
    reader (text ++ rest) = some (a, rest)

/-! ## Composition -/

/-- One grammar after another. -/
def Then (First : List Char → α → Prop) (Second : α → List Char → β → Prop)
    (text : List Char) (b : β) : Prop :=
  ∃ a front back, text = front ++ back ∧ First front a ∧ Second a back b

theorem Reads.bind {first : Reader α} {second : α → Reader β} {First : List Char → α → Prop}
    {Second : α → List Char → β → Prop} {Stop Stop' : List Char → Prop}
    (hfirst : Reads first First Stop) (hsecond : ∀ a, Reads (second a) (Second a) Stop')
    (hstop : ∀ {a b text rest}, Second a text b → Stop' rest → Stop (text ++ rest)) :
    Reads (first >>= second) (Then First Second) Stop' where
  sound h := by
    obtain ⟨⟨a, mid⟩, ha, hb⟩ := Option.bind_eq_some_iff.mp h
    obtain ⟨front, rfl, hfront⟩ := hfirst.sound ha
    obtain ⟨back, rfl, hback⟩ := (hsecond a).sound hb
    exact ⟨front ++ back, (List.append_assoc ..).symm, a, front, back, rfl, hfront, hback⟩
  complete h hrest := by
    obtain ⟨a, front, back, rfl, hfront, hback⟩ := h
    rw [List.append_assoc]
    refine Option.bind_eq_some_iff.mpr ⟨(a, _), hfirst.complete hfront (hstop hback hrest), ?_⟩
    exact (hsecond a).complete hback hrest

theorem Reads.pure (a : α) (Stop : List Char → Prop) :
    Reads (Pure.pure a) (fun text b => text = [] ∧ b = a) Stop where
  sound h := by
    cases h
    exact ⟨[], rfl, rfl, rfl⟩
  complete h _ := by
    obtain ⟨rfl, rfl⟩ := h
    rfl

/-- A grammar may be written another way, and a text may be required to stop earlier. -/
theorem Reads.congr {reader : Reader α} {Grammar Grammar' : List Char → α → Prop}
    {Stop Stop' : List Char → Prop} (h : Reads reader Grammar Stop)
    (hgrammar : ∀ text a, Grammar text a ↔ Grammar' text a)
    (hstop : ∀ rest, Stop' rest → Stop rest) : Reads reader Grammar' Stop' where
  sound hread := by
    obtain ⟨text, hs, htext⟩ := h.sound hread
    exact ⟨text, hs, (hgrammar text _).mp htext⟩
  complete htext hrest := h.complete ((hgrammar _ _).mpr htext) (hstop _ hrest)

/-- A reader fails on an input without a text of its grammar in front. -/
theorem Reads.eq_none {reader : Reader α} {Grammar : List Char → α → Prop}
    {Stop : List Char → Prop} (h : Reads reader Grammar Stop) {s : List Char}
    (hs : ∀ text rest a, s = text ++ rest → ¬ Grammar text a) : reader s = none := by
  cases hread : reader s with
  | none => rfl
  | some read =>
      obtain ⟨text, heq, htext⟩ := h.sound hread
      exact absurd htext (hs text read.2 read.1 heq)

/-! ## What may be left out -/

/-- A reader, or a value if it fails. -/
def readOr (absent : α) (reader : Reader α) : Reader α := fun s =>
  (reader s).or (some (absent, s))

def Optionally (absent : α) (Grammar : List Char → α → Prop) (text : List Char) (a : α) :
    Prop :=
  Grammar text a ∨ text = [] ∧ a = absent

theorem Reads.optionally {reader : Reader α} {Grammar : List Char → α → Prop}
    {Stop Stop' : List Char → Prop} (h : Reads reader Grammar Stop) (absent : α)
    (hstop : ∀ {rest}, Stop' rest → Stop rest ∧
      ∀ text after a, rest = text ++ after → ¬ Grammar text a) :
    Reads (readOr absent reader) (Optionally absent Grammar) Stop' where
  sound {s rest a} hread := by
    rcases Option.or_eq_some_iff.mp hread with hread | ⟨-, hread⟩
    · obtain ⟨text, hs, htext⟩ := h.sound hread
      exact ⟨text, hs, .inl htext⟩
    · cases hread
      exact ⟨[], rfl, .inr ⟨rfl, rfl⟩⟩
  complete {text rest a} htext hrest := by
    obtain ⟨hstops, hnone⟩ := hstop hrest
    rcases htext with htext | ⟨rfl, rfl⟩
    · rw [readOr, h.complete htext hstops, Option.some_or]
    · rw [List.nil_append, readOr, h.eq_none hnone, Option.none_or]

/-! ## Separators -/

def readGivenChar (target : Char) : Reader Unit
  | [] => none
  | c :: rest => if c = target then some ((), rest) else none

/-- What stands before a grammar. -/
def After (separator : Char) (Grammar : List Char → α → Prop) (text : List Char) (a : α) :
    Prop :=
  ∃ rest, text = separator :: rest ∧ Grammar rest a

/-- A separator, and then a reader. -/
def readAfter (separator : Char) (reader : Reader α) : Reader α := do
  readGivenChar separator
  reader

theorem readGivenChar_self (target : Char) (rest : List Char) :
    readGivenChar target (target :: rest) = some ((), rest) := if_pos rfl

theorem readGivenChar_eq_some {target : Char} {s rest : List Char}
    (h : readGivenChar target s = some ((), rest)) : s = target :: rest := by
  cases s with
  | nil => cases h
  | cons c s =>
      rw [readGivenChar] at h
      split_ifs at h with hc
      obtain ⟨-, hrest⟩ := Prod.mk.inj (Option.some.inj h)
      rw [hc, hrest]

theorem Reads.after {reader : Reader α} {Grammar : List Char → α → Prop}
    {Stop : List Char → Prop} (h : Reads reader Grammar Stop) (separator : Char) :
    Reads (readAfter separator reader) (After separator Grammar) Stop where
  sound hread := by
    obtain ⟨⟨⟨⟩, mid⟩, hseparator, hreader⟩ := Option.bind_eq_some_iff.mp hread
    obtain rfl := readGivenChar_eq_some hseparator
    obtain ⟨text, rfl, htext⟩ := h.sound hreader
    exact ⟨separator :: text, rfl, text, rfl, htext⟩
  complete htext hrest := by
    obtain ⟨text, rfl, htext⟩ := htext
    exact Option.bind_eq_some_iff.mpr
      ⟨((), _), readGivenChar_self separator _, h.complete htext hrest⟩

end Text
