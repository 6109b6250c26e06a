/-
# Grouping by a key

A loop that keeps one entry for each key it meets and folds every element into the entry of
its key. The entry of a key is what folding the elements of that key gives, and what the
entries hold together is what the elements bring. The order in which a hash map visits its
entries is unspecified.
-/
import Mathlib.Algebra.BigOperators.Group.List.Basic
import Mathlib.Algebra.Order.Ring.Nat

namespace Grouping

universe u v w

variable {κ : Type u} {ν : Type v} {α : Type w} [DecidableEq κ]

/-- The entry of a key updated, or made from an initial value and updated. -/
def upsert (key : κ) (init : ν) (update : ν → ν) : List (κ × ν) → List (κ × ν)
  | [] => [(key, update init)]
  | (other, value) :: rest =>
      if other = key then (other, update value) :: rest
      else (other, value) :: upsert key init update rest

/-- The entries after a loop over some elements. -/
def groupFrom (key : α → κ) (init : ν) (step : ν → α → ν) (entries : List (κ × ν))
    (xs : List α) : List (κ × ν) :=
  xs.foldl (fun entries x => upsert (key x) init (step · x) entries) entries

def group (key : α → κ) (init : ν) (step : ν → α → ν) (xs : List α) : List (κ × ν) :=
  groupFrom key init step [] xs

/-- An order in which the entries of a hash map may be visited. -/
structure HashOrder where
  visit : {κ : Type} → {ν : Type} → List (κ × ν) → List (κ × ν)
  perm : ∀ {κ ν : Type} (entries : List (κ × ν)), (visit entries).Perm entries

/-! ## The entry of a key -/

theorem lookup_cons (other k : κ) (value : ν) (rest : List (κ × ν)) :
    ((other, value) :: rest).lookup k = if k = other then some value else rest.lookup k := by
  by_cases h : k = other
  · rw [if_pos h, h, List.lookup_cons_self]
  · rw [if_neg h, List.lookup_cons, beq_eq_false_iff_ne.mpr h]

theorem lookup_upsert (key k : κ) (init : ν) (update : ν → ν) (entries : List (κ × ν)) :
    (upsert key init update entries).lookup k =
      if k = key then some (update ((entries.lookup k).getD init)) else entries.lookup k := by
  induction entries with
  | nil => rw [upsert, lookup_cons]; rfl
  | cons entry rest ih =>
      obtain ⟨other, value⟩ := entry
      rw [upsert]
      by_cases hother : other = key
      · rw [if_pos hother, lookup_cons, lookup_cons, hother]
        split <;> rfl
      · rw [if_neg hother, lookup_cons, lookup_cons, ih]
        by_cases hk : k = other
        · rw [if_pos hk, if_pos hk, if_neg (hk ▸ hother)]
        · rw [if_neg hk, if_neg hk]

/-- Folding the elements of a key into its entry. -/
theorem lookup_groupFrom (key : α → κ) (init : ν) (step : ν → α → ν) (entries : List (κ × ν))
    (xs : List α) (k : κ) :
    (groupFrom key init step entries xs).lookup k =
      if xs.filter (key · = k) = [] then entries.lookup k
      else some ((xs.filter (key · = k)).foldl step ((entries.lookup k).getD init)) := by
  induction xs generalizing entries with
  | nil => rfl
  | cons x rest ih =>
      have hstep : groupFrom key init step entries (x :: rest) =
          groupFrom key init step (upsert (key x) init (step · x) entries) rest := rfl
      rw [hstep, ih, lookup_upsert]
      by_cases hx : key x = k
      · simp only [List.filter_cons, hx, decide_true, if_true, List.foldl_cons, reduceCtorEq,
          if_false, Option.getD_some]
        split
        · next hnone => rw [hnone, List.foldl_nil]
        · rfl
      · have hk : ¬ k = key x := fun h => hx h.symm
        simp only [List.filter_cons, hx, hk, decide_false, if_false, Bool.false_eq_true]

theorem lookup_group (key : α → κ) (init : ν) (step : ν → α → ν) (xs : List α) (k : κ) :
    (group key init step xs).lookup k =
      if xs.filter (key · = k) = [] then none
      else some ((xs.filter (key · = k)).foldl step init) :=
  lookup_groupFrom key init step [] xs k

/-! ## All entries -/

theorem forall_mem_upsert {P : ν → Prop} {init : ν} {update : ν → ν} (hinit : P init)
    (hupdate : ∀ value, P value → P (update value)) (key : κ) {entries : List (κ × ν)}
    (hentries : ∀ entry ∈ entries, P entry.2) :
    ∀ entry ∈ upsert key init update entries, P entry.2 := by
  induction entries with
  | nil =>
      rw [upsert, List.forall_mem_singleton]
      exact hupdate init hinit
  | cons entry rest ih =>
      obtain ⟨hfirst, hrest⟩ := List.forall_mem_cons.mp hentries
      rw [upsert]
      split
      · exact List.forall_mem_cons.mpr ⟨hupdate _ hfirst, hrest⟩
      · exact List.forall_mem_cons.mpr ⟨hfirst, ih hrest⟩

/-- What the steps over the elements preserve holds of every entry. -/
theorem forall_mem_group {P : ν → Prop} (key : α → κ) {init : ν} {step : ν → α → ν} {xs : List α}
    (hinit : P init) (hstep : ∀ x ∈ xs, ∀ value, P value → P (step value x)) :
    ∀ entry ∈ group key init step xs, P entry.2 := by
  have hfrom : ∀ entries : List (κ × ν), (∀ entry ∈ entries, P entry.2) →
      ∀ entry ∈ groupFrom key init step entries xs, P entry.2 := by
    induction xs with
    | nil => exact fun _ hentries => hentries
    | cons x rest ih =>
        obtain ⟨hfirst, hrest⟩ := List.forall_mem_cons.mp hstep
        exact fun entries hentries =>
          ih hrest _ (forall_mem_upsert hinit hfirst (key x) hentries)
  exact hfrom [] (List.forall_mem_nil _)

/-! ## All entries together -/

section Measure

variable {init : ν} {measure : ν → ℕ} (hinit : measure init = 0)
include hinit

theorem sum_upsert (key : κ) (update : ν → ν) (amount : ℕ)
    (hupdate : ∀ value, measure (update value) = measure value + amount)
    (entries : List (κ × ν)) :
    ((upsert key init update entries).map fun entry => measure entry.2).sum =
      (entries.map fun entry => measure entry.2).sum + amount := by
  induction entries with
  | nil => simp [upsert, hupdate, hinit]
  | cons entry rest ih =>
      rw [upsert]
      split
      · simp only [List.map_cons, List.sum_cons, hupdate]
        omega
      · simp only [List.map_cons, List.sum_cons, ih]
        omega

/-- What the entries hold together is what the elements bring. -/
theorem sum_group (key : α → κ) {step : ν → α → ν} {amount : α → ℕ}
    (hstep : ∀ value x, measure (step value x) = measure value + amount x) (xs : List α) :
    ((group key init step xs).map fun entry => measure entry.2).sum = (xs.map amount).sum := by
  have hfrom : ∀ entries, ((groupFrom key init step entries xs).map
      fun entry => measure entry.2).sum =
        (entries.map fun entry => measure entry.2).sum + (xs.map amount).sum := by
    induction xs with
    | nil => exact fun _ => rfl
    | cons x rest ih =>
        intro entries
        have hcons : groupFrom key init step entries (x :: rest) =
            groupFrom key init step (upsert (key x) init (step · x) entries) rest := rfl
        rw [hcons, ih, sum_upsert hinit (key x) (step · x) (amount x) (hstep · x), List.map_cons,
          List.sum_cons, Nat.add_assoc]
  rw [group, hfrom]
  exact Nat.zero_add _

/-- The elements of one key bring what its entry holds. -/
theorem measure_foldl {step : ν → α → ν} {amount : α → ℕ}
    (hstep : ∀ value x, measure (step value x) = measure value + amount x) (xs : List α) :
    measure (xs.foldl step init) = (xs.map amount).sum := by
  have hfrom : ∀ value, measure (xs.foldl step value) = measure value + (xs.map amount).sum := by
    induction xs with
    | nil => exact fun _ => rfl
    | cons x rest ih =>
        intro value
        rw [List.foldl_cons, ih, hstep, List.map_cons, List.sum_cons, Nat.add_assoc]
  rw [hfrom, hinit, Nat.zero_add]

/-- The entry of a key holds what its elements bring, and there is none if nothing does. -/
theorem measure_lookup (key : α → κ) {step : ν → α → ν} {amount : α → ℕ}
    (hstep : ∀ value x, measure (step value x) = measure value + amount x) (xs : List α)
    (k : κ) :
    (((group key init step xs).lookup k).map measure).getD 0 =
      ((xs.filter (key · = k)).map amount).sum := by
  rw [lookup_group]
  split
  · next hnone => rw [hnone]; rfl
  · exact measure_foldl hinit hstep _

end Measure

/-- Some keys, one after the other. -/
theorem sum_filter_keys (key : α → κ) (amount : α → ℕ) {keys : List κ} (hkeys : keys.Nodup)
    (xs : List α) :
    (keys.map fun k => ((xs.filter (key · = k)).map amount).sum).sum =
      ((xs.filter (key · ∈ keys)).map amount).sum := by
  induction keys with
  | nil => simp
  | cons k rest ih =>
      obtain ⟨hnew, hrest⟩ := List.nodup_cons.mp hkeys
      rw [List.map_cons, List.sum_cons, ih hrest]
      clear ih
      induction xs with
      | nil => rfl
      | cons x xs ih =>
          by_cases hx : key x = k
          · have hother : key x ∉ rest := hx ▸ hnew
            simp only [List.filter_cons, hx, hnew, List.mem_cons_self, decide_true, decide_false,
              if_true, if_false, Bool.false_eq_true, List.map_cons, List.sum_cons, ← ih]
            omega
          · by_cases hmem : key x ∈ rest
            · simp only [List.filter_cons, List.mem_cons, hx, hmem, decide_true, decide_false,
                if_true, if_false, Bool.false_eq_true, or_true, List.map_cons,
                List.sum_cons] at ih ⊢
              omega
            · simp only [List.filter_cons, List.mem_cons, hx, hmem, decide_false, if_false,
                Bool.false_eq_true, or_false] at ih ⊢
              exact ih

/-- What is summed up over the entries does not depend on the order of the visit. -/
theorem HashOrder.sum_visit (order : HashOrder) {κ ν : Type} (measure : ν → ℕ)
    (entries : List (κ × ν)) :
    ((order.visit entries).map fun entry => measure entry.2).sum =
      (entries.map fun entry => measure entry.2).sum :=
  ((order.perm entries).map _).sum_eq

end Grouping
