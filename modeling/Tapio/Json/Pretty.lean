/-
# Writing JSON over several lines

How a pretty serializer writes a value: every element and every entry has a line of its own,
two blanks further in than what it is in. It is one more spelling of the value.
-/
import Tapio.Json.Spelling

namespace Json

/-- The start of a line. -/
def newLine (level : ℕ) : List Char := '\n' :: List.replicate (2 * level) ' '

mutual

def Value.encodePretty (format : FloatFormat) (level : ℕ) : Value → List Char
  | .array [] => "[]".toList
  | .array (element :: rest) =>
      '[' :: (encodeElements (prettyValues format (level + 1) (element :: rest)) ++
        (newLine level ++ [']']))
  | .object [] => "\x7b\x7d".toList
  | .object (entry :: rest) =>
      '{' :: (encodeElements (prettyEntries format (level + 1) (entry :: rest)) ++
        (newLine level ++ ['}']))
  | v => v.encode format

/-- The lines of the elements. -/
def prettyValues (format : FloatFormat) (level : ℕ) : List Value → List (List Char)
  | [] => []
  | value :: rest =>
      (newLine level ++ value.encodePretty format level) :: prettyValues format level rest

def prettyEntries (format : FloatFormat) (level : ℕ) :
    List (String × Value) → List (List Char)
  | [] => []
  | (key, value) :: rest =>
      (newLine level ++ (encodeString key ++ ':' :: ' ' :: value.encodePretty format level)) ::
        prettyEntries format level rest

end

variable {format : FloatFormat} {readFloat : List Char → Option UInt64}

theorem blank_newLine (level : ℕ) : Blank (newLine level) := by
  intro c hc
  rcases List.mem_cons.mp hc with rfl | hc
  · rfl
  · rw [List.eq_of_mem_replicate hc]
    rfl

theorem prettyValues_eq_map (level : ℕ) (values : List Value) :
    prettyValues format level values =
      values.map fun value => newLine level ++ value.encodePretty format level := by
  induction values with
  | nil => rfl
  | cons value values ih => rw [prettyValues, ih, List.map_cons]

theorem prettyEntries_eq_map (level : ℕ) (entries : List (String × Value)) :
    prettyEntries format level entries = entries.map fun e =>
      newLine level ++ (encodeString e.1 ++ ':' :: ' ' :: e.2.encodePretty format level) := by
  induction entries with
  | nil => rfl
  | cons entry entries ih => rw [prettyEntries, ih, List.map_cons]

theorem Spells.pad {v : Value} {text blank : List Char} (h : Spells format readFloat v text)
    (hblank : Blank blank) : Spells format readFloat v (blank ++ text) := by
  have hpadded := Spells.padded hblank blank_nil h
  rwa [List.append_nil] at hpadded

/-- The entries of an object, spelt with a line for each. -/
def prettyMember (format : FloatFormat) (level : ℕ) (e : String × Value) : SpeltMember where
  key := e.1
  value := e.2
  before := newLine level
  after := []
  text := ' ' :: e.2.encodePretty format level

/-- **What is written over several lines spells the value.** -/
theorem spells_encodePretty {v : Value} (h : v.Readable format readFloat) (level : ℕ) :
    Spells format readFloat v (v.encodePretty format level) := by
  induction v using Value.induct generalizing level with
  | hnull => exact .null
  | hbool b => exact .bool b
  | hnumber n => exact .number (h n .refl)
  | hstring s => exact .string s
  | harray elements ih =>
      have hitems := @Spells.array format readFloat [] (newLine level)
        (elements.map fun x =>
          (x, newLine (level + 1) ++ x.encodePretty format (level + 1)))
        blank_nil (blank_newLine level)
        (List.forall_mem_map.mpr fun x hx =>
          (ih x hx (h.child (.element hx)) (level + 1)).pad (blank_newLine _))
      rw [List.map_map, List.map_map] at hitems
      cases elements with
      | nil => exact @Spells.array _ _ [] [] [] blank_nil blank_nil (List.forall_mem_nil _)
      | cons element rest =>
          rw [Value.encodePretty, prettyValues_eq_map]
          simpa [Function.comp_def] using hitems
  | hobject entries ih =>
      have hmembers := @Spells.object format readFloat [] (newLine level)
        (entries.map (prettyMember format (level + 1)))
        blank_nil (blank_newLine level)
        (List.forall_mem_map.mpr fun e _ => ⟨blank_newLine _, blank_nil⟩)
        (List.forall_mem_map.mpr fun e he =>
          (ih e he (h.child (.field he)) (level + 1)).pad blank_space)
      rw [List.map_map, List.map_map] at hmembers
      cases entries with
      | nil =>
          exact @Spells.object _ _ [] [] [] blank_nil blank_nil (List.forall_mem_nil _)
            (List.forall_mem_nil _)
      | cons entry rest =>
          rw [Value.encodePretty, prettyEntries_eq_map]
          simpa [Function.comp_def, SpeltMember.spelling, prettyMember] using hmembers

end Json
