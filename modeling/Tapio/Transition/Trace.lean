/-
# What a run puts out

A step of a machine may put out elements: messages it sends, events it admits. The trace
of a schedule is what its steps put out, one after the other. A view of the state that
grows in every step by what the step puts out is, at the end of a run, what it was at the
start and the trace after it: nothing is lost on the way, nothing is invented, nothing is
overtaken.
-/
import Tapio.Transition.Machine

namespace Transition

universe u v w

namespace Machine

variable {σ : Type u} {α : Type v} {β : Type w} (M : Machine σ α)

/-- What the steps of a schedule put out, as far as the schedule runs. -/
def trace (out : σ → α → List β) : σ → List α → List β
  | _, [] => []
  | s, a :: rest =>
      match M.step s a with
      | none => []
      | some t => out s a ++ trace out t rest

variable {M}

theorem trace_cons {out : σ → α → List β} {s t : σ} {a : α} (hstep : M.step s a = some t)
    (rest : List α) : M.trace out s (a :: rest) = out s a ++ M.trace out t rest := by
  rw [trace, hstep]

/-- **Growing by the trace.** What every step extends by what it puts out, a run extends by
its trace. -/
theorem exec_trace {J : σ → Prop} (view : σ → List β) {out : σ → α → List β}
    (hJ : ∀ {s a t}, J s → M.step s a = some t → J t)
    (hout : ∀ {s a t}, J s → M.step s a = some t → view t = view s ++ out s a)
    {s t : σ} {schedule : List α} (hs : J s) (hrun : M.exec s schedule = some t) :
    view t = view s ++ M.trace out s schedule := by
  induction schedule generalizing s with
  | nil =>
      cases hrun
      exact (List.append_nil _).symm
  | cons a rest ih =>
      obtain ⟨mid, hmid, hrest⟩ := Option.bind_eq_some_iff.mp hrun
      rw [ih (hJ hs hmid) hrest, hout hs hmid, trace_cons hmid, List.append_assoc]

/-- Steps that put out less have a trace that is part of the other, in the same order. -/
theorem trace_sublist {out out' : σ → α → List β} (hless : ∀ s a, (out s a).Sublist (out' s a))
    (s : σ) (schedule : List α) :
    (M.trace out s schedule).Sublist (M.trace out' s schedule) := by
  induction schedule generalizing s with
  | nil => exact List.Sublist.slnil
  | cons a rest ih =>
      cases hstep : M.step s a with
      | none => simp [trace, hstep]
      | some t =>
          rw [trace_cons hstep, trace_cons hstep]
          exact (hless s a).append (ih t)

/-- What the labels alone decide is put out label by label. -/
theorem trace_label (out : α → List β) {s t : σ} {schedule : List α}
    (hrun : M.exec s schedule = some t) :
    M.trace (fun _ => out) s schedule = schedule.flatMap out := by
  induction schedule generalizing s with
  | nil => rfl
  | cons a rest ih =>
      obtain ⟨mid, hmid, hrest⟩ := Option.bind_eq_some_iff.mp hrun
      rw [trace_cons hmid, ih hrest, List.flatMap_cons]

end Machine

end Transition
