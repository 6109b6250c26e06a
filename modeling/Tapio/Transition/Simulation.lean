/-
# Simulations

One machine simulates another when every step of the other is matched by steps of its own,
with a relation between their states that the matching keeps. Then every state that the
other reaches is related to one that the first reaches, and what is invariant there can be
read off here.
-/
import Tapio.Transition.Machine

namespace Transition

namespace Machine

universe u v w x

variable {σ : Type u} {α : Type v} {τ : Type w} {β : Type x}

/-- Every step of `M` is matched by a schedule of `N`. -/
structure SimulatedBy (M : Machine σ α) (N : Machine τ β) (R : σ → τ → Prop) : Prop where
  init : R M.init N.init
  step : ∀ {s t : σ} {r : τ} {a : α}, R s r → M.step s a = some t →
    ∃ labels r', N.exec r labels = some r' ∧ R t r'

namespace SimulatedBy

variable {M : Machine σ α} {N : Machine τ β} {R : σ → τ → Prop}

/-- Every run is matched. -/
theorem exec (h : M.SimulatedBy N R) {s t : σ} {r : τ} (hr : R s r) {schedule : List α}
    (hrun : M.exec s schedule = some t) :
    ∃ labels r', N.exec r labels = some r' ∧ R t r' := by
  induction schedule generalizing s r with
  | nil =>
      cases hrun
      exact ⟨[], r, rfl, hr⟩
  | cons a rest ih =>
      obtain ⟨mid, hmid, hrest⟩ := Option.bind_eq_some_iff.mp hrun
      obtain ⟨first, r', hfirst, hr'⟩ := h.step hr hmid
      obtain ⟨second, r'', hsecond, hr''⟩ := ih hr' hrest
      refine ⟨first ++ second, r'', ?_, hr''⟩
      rw [exec_append, hfirst]
      exact hsecond

/-- **Reachable states** are related to reachable states. -/
theorem reachable (h : M.SimulatedBy N R) {s : σ} (hs : M.Reachable s) :
    ∃ r, N.Reachable r ∧ R s r := by
  obtain ⟨schedule, hrun⟩ := hs
  obtain ⟨labels, r, hlabels, hr⟩ := h.exec h.init hrun
  exact ⟨r, ⟨labels, hlabels⟩, hr⟩

end SimulatedBy

end Machine

end Transition
