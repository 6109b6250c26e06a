/-
# Elements that come late

An element of a stream is late if one that is no less came before it: it repeats an element
or was overtaken. Who remembers only the greatest element so far can tell which elements are
late. Streams are lists, newest first.
-/
import Mathlib.Order.MinMax

namespace Sequences

universe u

variable {α : Type u} [LinearOrder α]

/-- No greater than an element before it. -/
def Late (older : List α) (n : α) : Prop := ∃ m ∈ older, n ≤ m

instance (older : List α) (n : α) : Decidable (Late older n) :=
  inferInstanceAs (Decidable (∃ m ∈ older, n ≤ m))

/-- The late elements of a stream, newest first. -/
def lates : List α → List α
  | [] => []
  | n :: older => if Late older n then n :: lates older else lates older

example : lates [2, 5, 5, 3, 4, 1] = [2, 5, 3] := by decide

/-- The greatest element so far tells what is late. -/
theorem late_iff_le {older : List α} {last : α} (hlast : older.max? = some last) (n : α) :
    Late older n ↔ n ≤ last := by
  obtain ⟨hmem, hle⟩ := List.max?_eq_some_iff.mp hlast
  apply Iff.intro
  · intro ⟨m, hm, hn⟩
    exact hn.trans (hle m hm)
  · exact fun hn => ⟨last, hmem, hn⟩

/-- The greatest element stays the greatest after a late one. -/
theorem max?_cons_of_le {older : List α} {last n : α} (hlast : older.max? = some last)
    (hn : n ≤ last) : (n :: older).max? = some last := by
  rw [List.max?_cons, hlast, Option.elim_some, max_eq_right hn]

/-- Any other element is the greatest. -/
theorem max?_cons_of_lt {older : List α} {last n : α} (hlast : older.max? = some last)
    (hn : last < n) : (n :: older).max? = some n := by
  rw [List.max?_cons, hlast, Option.elim_some, max_eq_left hn.le]

/-- Every repetition of the greatest possible element is late, and its first occurrence is
not. -/
theorem count_lates_top {received : List α} {top : α} (htop : ∀ n ∈ received, n ≤ top) :
    (lates received).count top = received.count top - 1 := by
  induction received with
  | nil => rfl
  | cons n older ih =>
      rw [List.forall_mem_cons] at htop
      have holder := ih htop.2
      have hlate : Late older top ↔ 0 < older.count top := by
        rw [List.count_pos_iff]
        apply Iff.intro
        · intro ⟨m, hm, hle⟩
          exact le_antisymm hle (htop.2 m hm) ▸ hm
        · exact fun hmem => ⟨top, hmem, le_rfl⟩
      by_cases hn : n = top
      · subst hn
        rw [List.count_cons_self, Nat.add_sub_cancel, lates]
        by_cases h : Late older n
        · rw [if_pos h, List.count_cons_self, holder]
          exact Nat.sub_add_cancel (hlate.mp h)
        · have hnone := mt hlate.mpr h
          rw [if_neg h, holder]
          omega
      · rw [List.count_cons_of_ne hn, lates]
        split_ifs
        · rw [List.count_cons_of_ne hn, holder]
        · exact holder

end Sequences
