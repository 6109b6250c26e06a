/-
# Building objects and reading them

An object is built by inserting its fields one after the other into a map that is
ordered by key, as a `json!` literal is, and read by key.
-/
import Mathlib.Data.List.Induction
import Tapio.Json.Value

namespace Json

/-- Insert into a map that is ordered by key; a value that the key has is replaced. -/
def insertEntry (key : String) (value : Value) : List (String × Value) → List (String × Value)
  | [] => [(key, value)]
  | entry :: rest =>
      if key = entry.1 then (key, value) :: rest
      else if key < entry.1 then (key, value) :: entry :: rest
      else entry :: insertEntry key value rest

/-- The map with these fields, in the order in which they are inserted. -/
def ofFields (fields : List (String × Value)) : List (String × Value) :=
  fields.foldl (fun entries field => insertEntry field.1 field.2 entries) []

namespace Value

/-- The value that a key has; only an object has keys. -/
def get (value : Value) (key : String) : Option Value :=
  match value with
  | .object entries => entries.lookup key
  | _ => none

/-! How the integer types become numbers. -/

def ofUInt64 (n : UInt64) : Value := .number (.posInt n)

def ofUInt32 (n : UInt32) : Value := ofUInt64 n.toUInt64

def ofUInt16 (n : UInt16) : Value := ofUInt64 n.toUInt64

def ofInt32 (n : Int32) : Value :=
  .number (if n < 0 then .negInt n.toInt64 else .posInt n.toInt64.toUInt64)

end Value

theorem lookup_entry {α : Type} (entry : String × α) (rest : List (String × α)) (k : String) :
    (entry :: rest).lookup k = if k = entry.1 then some entry.2 else rest.lookup k := by
  obtain ⟨key, value⟩ := entry
  by_cases hk : k = key
  · rw [hk, List.lookup_cons_self, if_pos rfl]
  · rw [List.lookup_cons, beq_eq_false_iff_ne.mpr hk, if_neg hk]

theorem lookup_insertEntry (key : String) (value : Value) (entries : List (String × Value))
    (k : String) :
    (insertEntry key value entries).lookup k =
      if k = key then some value else entries.lookup k := by
  induction entries with
  | nil => exact lookup_entry (key, value) [] k
  | cons entry rest ih =>
      rw [insertEntry]
      split
      · next hkey =>
          rw [lookup_entry, lookup_entry]
          by_cases hk : k = key
          · rw [if_pos hk, if_pos hk]
          · rw [if_neg hk, if_neg hk, if_neg (hkey ▸ hk)]
      · next hkey =>
          split
          · exact lookup_entry (key, value) (entry :: rest) k
          · rw [lookup_entry, lookup_entry, ih]
            by_cases hk : k = key
            · rw [if_pos hk, if_pos hk, if_neg (hk ▸ hkey)]
            · rw [if_neg hk, if_neg hk]

theorem mem_of_mem_insertEntry {key : String} {value : Value}
    {entries : List (String × Value)} {e : String × Value}
    (he : e ∈ insertEntry key value entries) : e = (key, value) ∨ e ∈ entries := by
  induction entries with
  | nil => exact .inl (List.mem_singleton.mp he)
  | cons entry rest ih =>
      rw [insertEntry] at he
      split at he
      · exact (List.mem_cons.mp he).imp_right (List.mem_cons_of_mem _)
      · split at he
        · exact List.mem_cons.mp he
        · rcases List.mem_cons.mp he with rfl | hrest
          · exact .inr List.mem_cons_self
          · exact (ih hrest).imp_right (List.mem_cons_of_mem _)

/-- An object has the entries that its fields say, and no others. -/
theorem mem_of_mem_ofFields {fields : List (String × Value)} {e : String × Value}
    (he : e ∈ ofFields fields) : e ∈ fields := by
  have hfold : ∀ (fields entries : List (String × Value)),
      e ∈ fields.foldl (fun entries field => insertEntry field.1 field.2 entries) entries →
        e ∈ entries ∨ e ∈ fields := by
    intro fields
    induction fields with
    | nil => exact fun _ h => .inl h
    | cons field rest ih =>
        intro entries h
        rcases ih _ h with hentry | hrest
        · rcases mem_of_mem_insertEntry hentry with rfl | hmem
          · exact .inr List.mem_cons_self
          · exact .inl hmem
        · exact .inr (List.mem_cons_of_mem _ hrest)
  exact (hfold fields [] he).resolve_left List.not_mem_nil

/-- The last field with a key gives its value. -/
theorem lookup_ofFields_append (fields : List (String × Value)) (key : String) (value : Value)
    (k : String) :
    (ofFields (fields ++ [(key, value)])).lookup k =
      if k = key then some value else (ofFields fields).lookup k := by
  rw [ofFields, List.foldl_append]
  exact lookup_insertEntry key value _ k

/-- **A field is read back** if its key occurs once. -/
theorem lookup_ofFields {fields : List (String × Value)}
    (hnodup : (fields.map Prod.fst).Nodup) {key : String} {value : Value}
    (hmem : (key, value) ∈ fields) : (ofFields fields).lookup key = some value := by
  induction fields using List.reverseRecOn with
  | nil => exact absurd hmem List.not_mem_nil
  | append_singleton fields field ih =>
      obtain ⟨k, v⟩ := field
      rw [List.map_append, List.nodup_append] at hnodup
      rw [lookup_ofFields_append]
      rcases List.mem_append.mp hmem with hfields | hlast
      · have hkey : key ∈ fields.map Prod.fst := List.mem_map_of_mem hfields
        rw [if_neg (hnodup.2.2 key hkey k List.mem_cons_self)]
        exact ih hnodup.1 hfields
      · obtain ⟨rfl, rfl⟩ := Prod.mk.inj (List.mem_singleton.mp hlast)
        exact if_pos rfl

end Json
