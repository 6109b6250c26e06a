/-
# Counting gaps in a stream of sequence numbers

A receiver that keeps only the greatest sequence number so far counts a gap for
every number it skips and a regression for every number it has passed already.
The stream may repeat and reorder numbers freely. This module relates the two
counters to the numbers that never arrived.

Streams are lists, newest first, so the first number received is the last
element. `missing` collects the numbers strictly between the first and the
greatest that did not arrive. A number skipped by a jump may still arrive late,
but then it arrives as a regression, and that is why the gaps exceed the missing
numbers by at most the regressions.
-/
import Mathlib.Data.Finset.Interval
import Mathlib.Order.Interval.Finset.Nat

namespace Sequences

/-- What the receiver remembers. -/
structure Tracking where
  /-- The greatest number received. -/
  last : ℕ
  gaps : ℕ
  regressions : ℕ

/-- The receiver after its first number. -/
def Tracking.start (n : ℕ) : Tracking := ⟨n, 0, 0⟩

/-- The receiver after one more number. -/
def Tracking.observe (t : Tracking) (n : ℕ) : Tracking :=
  if t.last < n then { t with last := n, gaps := t.gaps + (n - (t.last + 1)) }
  else { t with regressions := t.regressions + 1 }

/-- The receiver after a stream, if anything was received. -/
def track : List ℕ → Option Tracking
  | [] => none
  | n :: older =>
      match track older with
      | none => some (Tracking.start n)
      | some t => some (t.observe n)

/-- The numbers strictly between two bounds that a stream does not contain. -/
def missing (received : List ℕ) (first last : ℕ) : Finset ℕ :=
  (Finset.Ioo first last).filter (· ∉ received)

/-- What the counters say about a stream that began with `first`. -/
structure Accounts (received : List ℕ) (first : ℕ) (t : Tracking) : Prop where
  first_mem : first ∈ received
  last_mem : t.last ∈ received
  le_last : ∀ n ∈ received, n ≤ t.last
  /-- Jumps lead from the first number to the greatest. -/
  gaps_le : t.gaps + first ≤ t.last
  missing_le : (missing received first t.last).card ≤ t.gaps
  gaps_le_missing : t.gaps ≤ (missing received first t.last).card + t.regressions

theorem accounts_start (n : ℕ) : Accounts [n] n (Tracking.start n) := by
  constructor <;> simp [Tracking.start, missing]

/-- A jump misses exactly the numbers it skips, besides those missed before. -/
theorem missing_jump {received : List ℕ} {first last n : ℕ} (hfirst : first ≤ last)
    (hmem : last ∈ received) (hle : ∀ m ∈ received, m ≤ last) (hjump : last < n) :
    missing (n :: received) first n =
      missing received first last ∪ Finset.Ioo last n := by
  ext m
  simp only [missing, Finset.mem_filter, Finset.mem_Ioo, List.mem_cons, not_or,
    Finset.mem_union]
  apply Iff.intro
  · intro ⟨⟨hlow, hhigh⟩, hne, hout⟩
    rcases lt_trichotomy m last with h | h | h
    · exact .inl ⟨⟨hlow, h⟩, hout⟩
    · exact absurd (h ▸ hmem) hout
    · exact .inr ⟨h, hhigh⟩
  · intro h
    rcases h with ⟨⟨hlow, hhigh⟩, hout⟩ | ⟨hlow, hhigh⟩
    · exact ⟨⟨hlow, by omega⟩, by omega, hout⟩
    · have hout : m ∉ received := fun hm => absurd (hle m hm) (by omega)
      exact ⟨⟨by omega, hhigh⟩, by omega, hout⟩

theorem card_missing_jump {received : List ℕ} {first last n : ℕ} (hfirst : first ≤ last)
    (hmem : last ∈ received) (hle : ∀ m ∈ received, m ≤ last) (hjump : last < n) :
    (missing (n :: received) first n).card =
      (missing received first last).card + (n - (last + 1)) := by
  rw [missing_jump hfirst hmem hle hjump, Finset.card_union_of_disjoint, Nat.card_Ioo]
  · omega
  · apply Finset.disjoint_left.mpr
    intro m hm hm'
    have hlow := (Finset.mem_Ioo.mp (Finset.mem_filter.mp hm).1).2
    have hhigh := (Finset.mem_Ioo.mp hm').1
    omega

/-- A number received late fills at most itself in. -/
theorem card_missing_late (received : List ℕ) (first last n : ℕ) :
    (missing (n :: received) first last).card ≤ (missing received first last).card ∧
      (missing received first last).card ≤
        (missing (n :: received) first last).card + 1 := by
  have herase : missing (n :: received) first last =
      (missing received first last).erase n := by
    ext m
    simp only [missing, Finset.mem_filter, List.mem_cons, not_or, Finset.mem_erase]
    tauto
  rw [herase]
  have hmore : (missing received first last).card - 1 ≤ _ :=
    @Finset.pred_card_le_card_erase _ _ n _
  exact ⟨Finset.card_erase_le, by omega⟩

/-- One more number keeps the account. -/
theorem Accounts.observe {received : List ℕ} {first : ℕ} {t : Tracking}
    (h : Accounts received first t) (n : ℕ) :
    Accounts (n :: received) first (t.observe n) := by
  have hfirst := h.le_last first h.first_mem
  rw [Tracking.observe]
  by_cases hjump : t.last < n
  · rw [if_pos hjump]
    have hcard := card_missing_jump hfirst h.last_mem h.le_last hjump
    have hgaps := h.gaps_le
    have hmissing := h.missing_le
    have hgaps' := h.gaps_le_missing
    apply Accounts.mk
    · exact List.mem_cons_of_mem _ h.first_mem
    · exact List.mem_cons_self
    · intro m hm
      show m ≤ n
      rcases List.mem_cons.mp hm with rfl | hm
      · exact le_rfl
      · exact (h.le_last m hm).trans hjump.le
    · show t.gaps + (n - (t.last + 1)) + first ≤ n
      omega
    · show (missing (n :: received) first n).card ≤ t.gaps + (n - (t.last + 1))
      omega
    · show t.gaps + (n - (t.last + 1)) ≤
        (missing (n :: received) first n).card + t.regressions
      omega
  · rw [if_neg hjump]
    obtain ⟨hless, hmore⟩ := card_missing_late received first t.last n
    have hmissing := h.missing_le
    have hgaps' := h.gaps_le_missing
    apply Accounts.mk
    · exact List.mem_cons_of_mem _ h.first_mem
    · exact List.mem_cons_of_mem _ h.last_mem
    · intro m hm
      show m ≤ t.last
      rcases List.mem_cons.mp hm with rfl | hm
      · omega
      · exact h.le_last m hm
    · exact h.gaps_le
    · show (missing (n :: received) first t.last).card ≤ t.gaps
      omega
    · show t.gaps ≤ (missing (n :: received) first t.last).card + (t.regressions + 1)
      omega

/-- **Gaps bound what is missing.** After any stream that began with `first`, the
receiver knows the greatest number, and its gaps count the missing numbers up to
at most one for each regression. -/
theorem accounts_track (first : ℕ) (later : List ℕ) :
    ∃ t, track (later ++ [first]) = some t ∧ Accounts (later ++ [first]) first t := by
  induction later with
  | nil => exact ⟨Tracking.start first, rfl, accounts_start first⟩
  | cons n later ih =>
      obtain ⟨t, htrack, haccounts⟩ := ih
      refine ⟨t.observe n, ?_, haccounts.observe n⟩
      simp [track, htrack]

end Sequences
