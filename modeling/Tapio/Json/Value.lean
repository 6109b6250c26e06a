/-
# JSON values

The values a JSON parser hands out: an inductive type with two container kinds.
An object is its list of entries in the order the parser's map iterates them.

`Child` steps from a container to what it directly contains, `Field` only from
an object to the values of its entries. `HasKey` asks for an object with a
certain key among everything that a step relation reaches, so the same question
can be put with and without arrays.
-/
import Mathlib.Logic.Relation

namespace Json

/-- A number: an unsigned or a negative 64-bit integer, or the bits of a
float. -/
inductive Number
  | posInt (n : UInt64)
  | negInt (n : Int64)
  | float (bits : UInt64)
  deriving DecidableEq

inductive Value
  | null
  | bool (b : Bool)
  | number (n : Number)
  | string (s : String)
  | array (elements : List Value)
  | object (entries : List (String × Value))

namespace Value

/-- Induction over values: a container may assume the property of everything it
directly contains. -/
theorem induct {motive : Value → Prop} (hnull : motive null)
    (hbool : ∀ b, motive (bool b)) (hnumber : ∀ n, motive (number n))
    (hstring : ∀ s, motive (string s))
    (harray : ∀ elements, (∀ x ∈ elements, motive x) → motive (array elements))
    (hobject : ∀ entries, (∀ e ∈ entries, motive e.2) → motive (object entries)) :
    ∀ v, motive v
  | null => hnull
  | bool b => hbool b
  | number n => hnumber n
  | string s => hstring s
  | array elements =>
      harray elements fun x _hx =>
        induct hnull hbool hnumber hstring harray hobject x
  | object entries =>
      hobject entries fun e _he =>
        induct hnull hbool hnumber hstring harray hobject e.2
termination_by v => sizeOf v
decreasing_by
  · have := List.sizeOf_lt_of_mem _hx
    simp only [array.sizeOf_spec]
    omega
  · obtain ⟨key, child⟩ := e
    have := List.sizeOf_lt_of_mem _he
    simp only [object.sizeOf_spec, Prod.mk.sizeOf_spec] at *
    omega

/-- The values directly inside a container. -/
inductive Child : Value → Value → Prop
  | element {elements : List Value} {x : Value} : x ∈ elements → Child (array elements) x
  | field {entries : List (String × Value)} {e : String × Value} :
      e ∈ entries → Child (object entries) e.2

/-- The values of an object's entries. -/
inductive Field : Value → Value → Prop
  | mk {entries : List (String × Value)} {e : String × Value} :
      e ∈ entries → Field (object entries) e.2

theorem Field.child {v w : Value} (h : Field v w) : Child v w := by
  obtain ⟨he⟩ := h
  exact .field he

/-- Some object that the step relation reaches has a key with the property. -/
def HasKey (step : Value → Value → Prop) (p : String → Bool) (v : Value) : Prop :=
  ∃ entries, Relation.ReflTransGen step v (object entries) ∧ ∃ e ∈ entries, p e.1

theorem HasKey.mono {step step' : Value → Value → Prop}
    (hstep : ∀ v w, step v w → step' v w) {p : String → Bool} {v : Value}
    (h : HasKey step p v) : HasKey step' p v := by
  obtain ⟨entries, hreach, hkey⟩ := h
  exact ⟨entries, Relation.ReflTransGen.mono hstep _ _ hreach, hkey⟩

theorem HasKey.head {step : Value → Value → Prop} {p : String → Bool} {v w : Value}
    (hstep : step v w) (h : HasKey step p w) : HasKey step p v := by
  obtain ⟨entries, hreach, hkey⟩ := h
  exact ⟨entries, .head hstep hreach, hkey⟩

/-- An object has a key along fields when one of its entries has the key or
holds a value that has it. -/
theorem hasKey_field_object (p : String → Bool) (entries : List (String × Value)) :
    HasKey Field p (object entries) ↔
      ∃ e ∈ entries, p e.1 ∨ HasKey Field p e.2 := by
  apply Iff.intro
  · intro ⟨found, hreach, hkey⟩
    rcases Relation.ReflTransGen.cases_head hreach with heq | ⟨w, ⟨he⟩, hrest⟩
    · cases heq
      obtain ⟨e, he, hp⟩ := hkey
      exact ⟨e, he, .inl hp⟩
    · exact ⟨_, he, .inr ⟨found, hrest, hkey⟩⟩
  · rintro ⟨e, he, hp | hrest⟩
    · exact ⟨entries, .refl, e, he, hp⟩
    · exact hrest.head (.mk he)

/-- Along fields, a value that is no object has no key. -/
theorem not_hasKey_field {p : String → Bool} {v : Value}
    (hv : ∀ entries, v ≠ object entries) : ¬ HasKey Field p v := by
  intro ⟨found, hreach, _⟩
  rcases Relation.ReflTransGen.cases_head hreach with heq | ⟨w, hstep, -⟩
  · exact hv found heq
  · cases hstep with
    | mk he => exact hv _ rfl

end Value

end Json
