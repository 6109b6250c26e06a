/-
# Optional members

A struct whose optional fields are left out where there is nothing to say. Its fields are
slots, with or without a value. What is read of the object of the slots that have one is
the slots again: a member that is absent or null reads as nothing.
-/
import Tapio.Json.Written

namespace Json

variable {α : Type}

/-! ## Reading -/

/-- An optional member, as it is found. -/
def readSlot (read : Reader α) : Option Value → Option (Option α)
  | none => some none
  | some .null => some none
  | some v => (read v).map some

/-- The optional member with the name. -/
def memberOption (name : String) (read : Reader α) (find : String → Option Value) :
    Option (Option α) :=
  readSlot read (find name)

/-- What was written into a slot is read from it, unless it was null. -/
theorem readSlot_map {write : α → Value} {read : Reader α} {o : Option α}
    (hnull : ∀ x ∈ o, write x ≠ .null) (h : ∀ x ∈ o, read (write x) = some x) :
    readSlot read (o.map write) = some o := by
  cases o with
  | none => rfl
  | some x =>
      have hread : readSlot read (some (write x)) = (read (write x)).map some := by
        rw [readSlot.eq_def]
        split
        · next hnone => cases hnone
        · next hsome => exact absurd (Option.some.inj hsome) (hnull x rfl)
        · next hsome => rw [Option.some.inj hsome]
      rw [Option.map_some, hread, h x rfl, Option.map_some]

/-! ## The object of the slots -/

/-- The slots that have a value. -/
def present (slots : List (String × Option Value)) : List (String × Value) :=
  slots.filterMap fun slot => slot.2.map fun v => (slot.1, v)

theorem mem_present {slots : List (String × Option Value)} {e : String × Value} :
    e ∈ present slots ↔ (e.1, some e.2) ∈ slots := by
  rw [present, List.mem_filterMap]
  constructor
  · rintro ⟨⟨name, o⟩, hslot, hsome⟩
    obtain ⟨v, rfl, rfl⟩ := Option.map_eq_some_iff.mp hsome
    exact hslot
  · exact fun hslot => ⟨_, hslot, rfl⟩

theorem keys_present (slots : List (String × Option Value)) :
    ((present slots).map Prod.fst).Sublist (slots.map Prod.fst) := by
  induction slots with
  | nil => exact .slnil
  | cons slot slots ih =>
      rw [present, List.filterMap_cons]
      cases slot.2 with
      | none => exact ih.cons _
      | some v => exact ih.cons_cons _

theorem lookup_present {slots : List (String × Option Value)}
    (hnodup : (slots.map Prod.fst).Nodup) (name : String) :
    (present slots).lookup name = (slots.lookup name).join := by
  induction slots with
  | nil => rfl
  | cons slot slots ih =>
      obtain ⟨hslot, hslots⟩ := List.nodup_cons.mp hnodup
      have hrest := ih hslots
      rw [present, List.filterMap_cons, List.lookup_cons]
      cases hvalue : slot.2 with
      | none =>
          rw [Option.map_none]
          dsimp only
          refine hrest.trans ?_
          split
          · next hsame =>
              have habsent : slots.lookup name = none := by
                rw [List.lookup_eq_none_iff]
                intro e he
                rw [bne_iff_ne, eq_of_beq hsame]
                intro hkey
                exact hslot (hkey ▸ List.mem_map_of_mem he)
              rw [habsent]
              rfl
          · rfl
      | some v =>
          rw [Option.map_some]
          dsimp only
          rw [List.lookup_cons]
          split
          · rfl
          · exact hrest

/-- A struct is built from the values in its slots. -/
theorem readStruct_present {names : List String} {slots : List (String × Option Value)}
    (hnames : ∀ slot ∈ slots, slot.1 ∈ names) (hnodup : (slots.map Prod.fst).Nodup)
    (build : (String → Option Value) → Option α) :
    readStruct names build (.object (present slots)) =
      build fun name => (slots.lookup name).join := by
  have hkeys := keys_present slots
  rw [readStruct_object (fun e he => hnames _ (mem_present.mp he)) (hkeys.nodup hnodup)]
  exact congrArg build (funext fun name => lookup_present hnodup name)

variable {format : FloatFormat} {readFloat : List Char → Option UInt64} {depth : ℕ}

theorem legible_present {slots : List (String × Option Value)}
    (h : ∀ slot ∈ slots, ∀ v ∈ slot.2, Legible format readFloat depth v) :
    Legible format readFloat (depth + 1) (.object (present slots)) :=
  legible_object fun e he => h _ (mem_present.mp he) e.2 rfl

end Json
