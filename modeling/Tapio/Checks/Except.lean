/-
# Sequences of checks

A validator runs checks one after the other and stops at the first that fails.
These rules turn the success of a sequence into the success of its parts.
-/
import Mathlib.Tactic.Basic

namespace Checks

universe u v

variable {ε : Type u} {α : Type v}

/-- Two checks in sequence pass when both pass. -/
theorem bind_eq_ok_iff {first second : Except ε Unit} :
    (first >>= fun _ => second) = .ok () ↔ first = .ok () ∧ second = .ok () := by
  cases first <;> simp [bind, Except.bind]

/-- A computation that goes on after a first step succeeds when the step does
and the rest succeeds on its result. -/
theorem bind_eq_ok {β : Type v} {γ : Type v} {first : Except ε β}
    {rest : β → Except ε γ} {result : γ} (h : first >>= rest = .ok result) :
    ∃ x, first = .ok x ∧ rest x = .ok result := by
  cases first with
  | error e => cases h
  | ok x => exact ⟨x, rfl, h⟩

/-- It succeeds exactly when both do. -/
theorem bind_ok_iff {β : Type v} {γ : Type v} {first : Except ε β}
    {rest : β → Except ε γ} {result : γ} :
    first >>= rest = .ok result ↔ ∃ x, first = .ok x ∧ rest x = .ok result := by
  apply Iff.intro
  · exact bind_eq_ok
  · rintro ⟨x, rfl, hrest⟩
    exact hrest

/-- After a check, it succeeds exactly when the check passes and the rest succeeds. -/
theorem check_bind_ok_iff {β : Type} {first : Except ε Unit} {rest : Unit → Except ε β}
    {result : β} :
    first >>= rest = .ok result ↔ first = .ok () ∧ rest () = .ok result := by
  cases first <;> simp [bind, Except.bind]

@[simp]
theorem mapError_ok {ε' : Type u} (f : ε → ε') (a : α) :
    (Except.ok a : Except ε α).mapError f = .ok a := rfl

@[simp]
theorem mapError_error {ε' : Type u} (f : ε → ε') (e : ε) :
    (Except.error e : Except ε α).mapError f = .error (f e) :=
  congrArg Except.error rfl

/-- Renaming errors does not change what succeeds. -/
theorem mapError_eq_ok_iff {ε' : Type u} {f : ε → ε'} {x : Except ε α} {a : α} :
    x.mapError f = .ok a ↔ x = .ok a := by
  cases x <;> simp

/-- A check with a failing guard in front passes when the guard does not fire
and the check passes. -/
theorem guard_eq_ok_iff {c : Prop} [Decidable c] {e : ε} {rest : Except ε Unit} :
    (if c then .error e else rest) = .ok () ↔ ¬ c ∧ rest = .ok () := by
  by_cases hc : c <;> simp [hc]

/-- A check of every element of a list passes when it passes on each. -/
theorem forM_eq_ok_iff {check : α → Except ε Unit} {xs : List α} :
    forM xs check = .ok () ↔ ∀ x ∈ xs, check x = .ok () := by
  induction xs with
  | nil => simp [pure, Except.pure]
  | cons x rest ih =>
      rw [List.forM_cons, bind_eq_ok_iff, ih, List.forall_mem_cons]

end Checks
