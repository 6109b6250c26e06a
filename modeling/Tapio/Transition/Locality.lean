/-
# Systems whose labels have owners

A system that serves many parties is a fold of a total step over labels, most of
which belong to one party. What a party can observe is a view of the state. If
labels of others leave the view alone and the party's own labels act on the view
alone, then the party sees exactly what it would see without the others.

A quantity to which every label adds its own weight is the other extreme: it
depends on all labels, but only through the sum of what the owners contribute.
-/
import Mathlib.Algebra.BigOperators.Group.Finset.Piecewise

namespace Transition

universe u v w

variable {σ : Type u} {α : Type v} {π : Type w}

/-- Labels that are not owned leave the view alone, and owned ones act on the
view alone. -/
structure LocalView (step : σ → α → σ) (owned : α → Prop) (view : σ → π) : Prop where
  frame : ∀ {s a}, ¬ owned a → view (step s a) = view s
  congr : ∀ {s t a}, owned a → view s = view t → view (step s a) = view (step t a)

namespace LocalView

variable {step : σ → α → σ} {owned : α → Prop} {view : σ → π}

/-- Every label acts on the view alone. -/
theorem step_congr (h : LocalView step owned view) {s t : σ} (a : α)
    (heq : view s = view t) : view (step s a) = view (step t a) := by
  by_cases ha : owned a
  · exact h.congr ha heq
  · rw [h.frame ha, h.frame ha, heq]

theorem foldl_congr (h : LocalView step owned view) {s t : σ} (labels : List α)
    (heq : view s = view t) : view (labels.foldl step s) = view (labels.foldl step t) := by
  induction labels generalizing s t with
  | nil => exact heq
  | cons a rest ih => exact ih (h.step_congr a heq)

/-- **The others do not matter.** A run leaves the view that its owned labels
leave on their own. -/
theorem foldl_filter [DecidablePred owned] (h : LocalView step owned view)
    (labels : List α) (s : σ) :
    view (labels.foldl step s) = view ((labels.filter (owned ·)).foldl step s) := by
  induction labels generalizing s with
  | nil => rfl
  | cons a rest ih =>
      by_cases ha : owned a
      · simpa [ha] using ih (step s a)
      · have hrest := (ih (step s a)).trans (h.foldl_congr _ (h.frame ha))
        simpa [ha] using hrest

/-- Two labels of which at most one is owned leave the same view in either
order. -/
theorem step_comm (h : LocalView step owned view) {a b : α} (hone : ¬ owned a ∨ ¬ owned b)
    (s : σ) : view (step (step s a) b) = view (step (step s b) a) := by
  rcases hone with ha | hb
  · rw [h.frame ha]
    exact h.step_congr b (h.frame ha)
  · rw [h.frame hb]
    exact (h.step_congr a (h.frame hb)).symm

end LocalView

/-! ## Quantities that labels add to -/

section Weights

variable {M : Type*} [AddCommMonoid M]

/-- Where every label adds its weight, a run adds the weights of its labels. -/
theorem foldl_total (step : σ → α → σ) (total : σ → M) (weight : α → M) {J : σ → Prop}
    (hJ : ∀ {s a}, J s → J (step s a))
    (hadd : ∀ {s a}, J s → total (step s a) = total s + weight a)
    {s : σ} (hs : J s) (labels : List α) :
    total (labels.foldl step s) = total s + (labels.map weight).sum := by
  induction labels generalizing s with
  | nil => simp
  | cons a rest ih =>
      rw [List.foldl_cons, ih (hJ hs), hadd hs, List.map_cons, List.sum_cons, add_assoc]

/-- The weights of all labels are the sum of what each owner contributes, if
labels without an owner weigh nothing. -/
theorem sum_weight_owner {κ : Type*} [DecidableEq κ] {owner : α → Option κ} {weight : α → M}
    (hnone : ∀ a, owner a = none → weight a = 0) (labels : List α) {owners : Finset κ}
    (howners : ∀ a ∈ labels, ∀ k ∈ owner a, k ∈ owners) :
    (labels.map weight).sum =
      ∑ k ∈ owners, ((labels.filter (owner · = some k)).map weight).sum := by
  induction labels with
  | nil => simp
  | cons a rest ih =>
      have hrest := ih fun b hb => howners b (List.mem_cons_of_mem a hb)
      have hsplit : ∀ k, (((a :: rest).filter (owner · = some k)).map weight).sum =
          (if owner a = some k then weight a else 0) +
            ((rest.filter (owner · = some k)).map weight).sum := by
        intro k
        by_cases hk : owner a = some k <;> simp [hk]
      rw [List.map_cons, List.sum_cons, hrest]
      simp only [hsplit, Finset.sum_add_distrib]
      congr 1
      cases howner : owner a with
      | none => simp [hnone a howner]
      | some k =>
          have hk : k ∈ owners := howners a List.mem_cons_self k howner
          simp [hk]

end Weights

end Transition
