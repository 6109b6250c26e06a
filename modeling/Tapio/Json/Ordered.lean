/-
# Values that go through maps

A value that is read without a type has maps for its objects: each is put together entry by
entry, in the order of the keys. A value that was put together in this way before stays as
it is.
-/
import Mathlib.Data.String.Basic
import Tapio.Json.Object

namespace Json

mutual

/-- The value with each of its objects put together entry by entry. -/
def Value.collected : Value → Value
  | .array elements => .array (collectedValues elements)
  | .object entries => .object (ofFields (collectedEntries entries))
  | v => v

def collectedValues : List Value → List Value
  | [] => []
  | x :: rest => x.collected :: collectedValues rest

def collectedEntries : List (String × Value) → List (String × Value)
  | [] => []
  | (key, x) :: rest => (key, x.collected) :: collectedEntries rest

end

/-- The keys of a map in its order. -/
def KeysOrdered (entries : List (String × Value)) : Prop :=
  (entries.map Prod.fst).Pairwise (· < ·)

/-- Every object in the value has its keys in order. -/
def Value.Ordered (v : Value) : Prop :=
  ∀ entries, Relation.ReflTransGen Child v (.object entries) → KeysOrdered entries

theorem Value.Ordered.child {v w : Value} (h : v.Ordered) (hstep : Child v w) : w.Ordered :=
  fun entries hentries => h entries (.head hstep hentries)

theorem insertEntry_of_last {key : String} {value : Value} {entries : List (String × Value)}
    (h : ∀ e ∈ entries, e.1 < key) : insertEntry key value entries = entries ++ [(key, value)] := by
  induction entries with
  | nil => rfl
  | cons entry rest ih =>
      obtain ⟨hentry, hrest⟩ := List.forall_mem_cons.mp h
      rw [insertEntry, if_neg hentry.ne', if_neg hentry.not_gt, ih hrest]
      rfl

theorem ofFields_of_ordered {fields : List (String × Value)} (h : KeysOrdered fields) :
    ofFields fields = fields := by
  induction fields using List.reverseRecOn with
  | nil => rfl
  | append_singleton fields field ih =>
      rw [KeysOrdered, List.map_append, List.pairwise_append] at h
      rw [ofFields, List.foldl_append]
      change insertEntry field.1 field.2 (ofFields fields) = _
      rw [ih h.1]
      refine insertEntry_of_last fun e he => ?_
      exact h.2.2 e.1 (List.mem_map_of_mem he) field.1 List.mem_cons_self

theorem keysOrdered_insertEntry {entries : List (String × Value)} (h : KeysOrdered entries)
    (key : String) (value : Value) : KeysOrdered (insertEntry key value entries) := by
  induction entries with
  | nil => exact List.pairwise_singleton _ _
  | cons entry rest ih =>
      obtain ⟨hentry, hrest⟩ := List.pairwise_cons.mp h
      rw [insertEntry]
      split
      · next hkey =>
          rw [KeysOrdered, List.map_cons, hkey]
          exact h
      · next hne =>
          split
          · next hlt =>
              refine List.pairwise_cons.mpr ⟨fun other hother => ?_, h⟩
              rcases List.mem_cons.mp hother with rfl | hother
              · exact hlt
              · exact hlt.trans (hentry other hother)
          · next hnlt =>
              refine List.pairwise_cons.mpr ⟨fun other hother => ?_, ih hrest⟩
              obtain ⟨e, he, rfl⟩ := List.mem_map.mp hother
              rcases mem_of_mem_insertEntry he with rfl | he
              · exact lt_of_le_of_ne (not_lt.mp hnlt) (Ne.symm hne)
              · exact hentry e.1 (List.mem_map_of_mem he)

/-- An object that was put together has its keys in order. -/
theorem keysOrdered_ofFields (fields : List (String × Value)) : KeysOrdered (ofFields fields) := by
  induction fields using List.reverseRecOn with
  | nil => exact List.Pairwise.nil
  | append_singleton fields field ih =>
      rw [ofFields, List.foldl_append]
      exact keysOrdered_insertEntry ih field.1 field.2

/-- **A value whose objects are in order stays as it is.** -/
theorem Value.collected_of_ordered {v : Value} (h : v.Ordered) : v.collected = v := by
  induction v using Value.induct with
  | hnull => rfl
  | hbool b => rfl
  | hnumber n => rfl
  | hstring s => rfl
  | harray elements ih =>
      have helements : collectedValues elements = elements := by
        have hall : ∀ x ∈ elements, x.collected = x := fun x hx => ih x hx (h.child (.element hx))
        clear ih h
        induction elements with
        | nil => rfl
        | cons x rest ih =>
            obtain ⟨hx, hrest⟩ := List.forall_mem_cons.mp hall
            rw [collectedValues, hx, ih hrest]
      rw [Value.collected, helements]
  | hobject entries ih =>
      have hentries : collectedEntries entries = entries := by
        have hall : ∀ e ∈ entries, e.2.collected = e.2 := fun e he => ih e he (h.child (.field he))
        clear ih h
        induction entries with
        | nil => rfl
        | cons e rest ih =>
            obtain ⟨he, hrest⟩ := List.forall_mem_cons.mp hall
            rw [collectedEntries, he, ih hrest]
      rw [Value.collected, hentries, ofFields_of_ordered (h entries .refl)]

end Json
