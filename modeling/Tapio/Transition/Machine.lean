/-
# Labelled machines and what holds along their schedules

A machine is a partial step function with an initial state. Everything the
environment decides (which party moves, whether a write succeeds, what a clock
reads) is part of the label, so a schedule of labels determines one run and a
statement about every run is a statement about every schedule.

Two predicates on schedules carry the results. `Always` says that a property
holds in every state the schedule visits. `EachStep` says that every step the
schedule takes meets a condition on the state it is taken from. The rules at
the end relate the two: a step condition that preserves an inductive invariant
gives `Always`, and a step condition that is exact for the property is
equivalent to it.
-/
import Mathlib.Data.List.Basic

namespace Transition

universe u v

/-- A deterministic labelled machine. A label that is not enabled in a state
has no successor. -/
structure Machine (σ : Type u) (α : Type v) where
  /-- The state every run starts in. -/
  init : σ
  /-- The successor under a label, if the label is enabled. -/
  step : σ → α → Option σ

namespace Machine

variable {σ : Type u} {α : Type v} (M : Machine σ α)

/-- Run a schedule from a state; a label that is not enabled stops the run
without a result. -/
def exec : σ → List α → Option σ
  | s, [] => some s
  | s, a :: rest => (M.step s a).bind fun t => exec t rest

/-- A state some schedule reaches from the initial state. -/
def Reachable (s : σ) : Prop :=
  ∃ schedule, M.exec M.init schedule = some s

/-- The property holds in every state the schedule visits, the first and the
last included. -/
def Always (I : σ → Prop) : σ → List α → Prop
  | s, [] => I s
  | s, a :: rest => I s ∧ ∀ t, M.step s a = some t → Always I t rest

/-- Every step the schedule takes meets the condition on the state it is taken
from. -/
def EachStep (C : σ → α → Prop) : σ → List α → Prop
  | _, [] => True
  | s, a :: rest => ∀ t, M.step s a = some t → C s a ∧ EachStep C t rest

/-- `Always` is decided by running the schedule. -/
instance decidableAlways {I : σ → Prop} [DecidablePred I] :
    (s : σ) → (schedule : List α) → Decidable (M.Always I s schedule)
  | s, [] => inferInstanceAs (Decidable (I s))
  | s, a :: rest =>
      match hstep : M.step s a with
      | none => decidable_of_iff (I s) (by simp [Always, hstep])
      | some t =>
          have : Decidable (M.Always I t rest) := decidableAlways t rest
          decidable_of_iff (I s ∧ M.Always I t rest) (by simp [Always, hstep])

/-- `EachStep` is decided by running the schedule. -/
instance decidableEachStep {C : σ → α → Prop} [∀ s a, Decidable (C s a)] :
    (s : σ) → (schedule : List α) → Decidable (M.EachStep C s schedule)
  | _, [] => isTrue trivial
  | s, a :: rest =>
      match hstep : M.step s a with
      | none => isTrue (by simp [EachStep, hstep])
      | some t =>
          have : Decidable (M.EachStep C t rest) := decidableEachStep t rest
          decidable_of_iff (C s a ∧ M.EachStep C t rest) (by simp [EachStep, hstep])

/-- The machine with only the allowed labels. -/
def restrict (allowed : α → Bool) : Machine σ α where
  init := M.init
  step s a := if allowed a then M.step s a else none

/-- A property that holds initially and that every enabled step preserves. -/
structure Invariant (J : σ → Prop) : Prop where
  /-- The property holds at the start. -/
  init : J M.init
  /-- Every enabled step preserves the property. -/
  step : ∀ {s a t}, J s → M.step s a = some t → J t

variable {M}

@[simp]
theorem exec_nil (s : σ) : M.exec s [] = some s := rfl

@[simp]
theorem exec_cons (s : σ) (a : α) (rest : List α) :
    M.exec s (a :: rest) = (M.step s a).bind fun t => M.exec t rest := rfl

theorem exec_append (s : σ) (first second : List α) :
    M.exec s (first ++ second) =
      (M.exec s first).bind fun t => M.exec t second := by
  induction first generalizing s with
  | nil => rfl
  | cons a rest ih =>
      cases hstep : M.step s a with
      | none => simp [hstep]
      | some t => simpa [hstep] using ih t

/-- An invariant that every enabled step preserves survives a whole run. -/
theorem exec_preserves {J : σ → Prop}
    (hstep : ∀ {s a t}, J s → M.step s a = some t → J t)
    {s t : σ} {schedule : List α} (hs : J s)
    (hrun : M.exec s schedule = some t) : J t := by
  induction schedule generalizing s with
  | nil =>
      cases hrun
      exact hs
  | cons a rest ih =>
      obtain ⟨mid, hmid, hrest⟩ := Option.bind_eq_some_iff.mp hrun
      exact ih (hstep hs hmid) hrest

/-- An invariant holds in every reachable state. -/
theorem Invariant.of_reachable {J : σ → Prop} (hJ : M.Invariant J) {s : σ}
    (hs : M.Reachable s) : J s := by
  obtain ⟨schedule, hrun⟩ := hs
  exact exec_preserves hJ.step hJ.init hrun

/-- A step of a restricted machine is a step under an allowed label. -/
theorem restrict_step {allowed : α → Bool} {s t : σ} {a : α}
    (h : (M.restrict allowed).step s a = some t) : allowed a ∧ M.step s a = some t :=
  Option.ite_none_right_eq_some.mp h

/-- What holds along a schedule holds where it starts. -/
theorem Always.head {I : σ → Prop} {s : σ} {schedule : List α}
    (halways : M.Always I s schedule) : I s := by
  cases schedule with
  | nil => exact halways
  | cons a rest => exact halways.1

theorem Always.mono {I I' : σ → Prop} (himp : ∀ s, I s → I' s) {s : σ}
    {schedule : List α} (halways : M.Always I s schedule) :
    M.Always I' s schedule := by
  induction schedule generalizing s with
  | nil => exact himp s halways
  | cons a rest ih =>
      exact ⟨himp s halways.1, fun t hstep => ih (halways.2 t hstep)⟩

/-- What holds along a schedule holds where it ends. -/
theorem Always.of_exec {I : σ → Prop} {s t : σ} {schedule : List α}
    (halways : M.Always I s schedule) (hrun : M.exec s schedule = some t) : I t := by
  induction schedule generalizing s with
  | nil =>
      cases hrun
      exact halways
  | cons a rest ih =>
      obtain ⟨mid, hmid, hrest⟩ := Option.bind_eq_some_iff.mp hrun
      exact ih (halways.2 mid hmid) hrest

/-- A condition on the labels of a schedule holds at each of its steps. -/
theorem eachStep_of_mem {C : σ → α → Prop} {schedule : List α}
    (hC : ∀ a ∈ schedule, ∀ s, C s a) {s : σ} : M.EachStep C s schedule := by
  induction schedule generalizing s with
  | nil => trivial
  | cons a rest ih =>
      intro t _
      exact ⟨hC a List.mem_cons_self s, ih fun b hb => hC b (List.mem_cons_of_mem a hb)⟩

theorem EachStep.and {C C' : σ → α → Prop} {s : σ} {schedule : List α}
    (hC : M.EachStep C s schedule) (hC' : M.EachStep C' s schedule) :
    M.EachStep (fun s a => C s a ∧ C' s a) s schedule := by
  induction schedule generalizing s with
  | nil => trivial
  | cons a rest ih =>
      intro t ht
      obtain ⟨hfirst, hrest⟩ := hC t ht
      obtain ⟨hfirst', hrest'⟩ := hC' t ht
      exact ⟨⟨hfirst, hfirst'⟩, ih hrest hrest'⟩

/-- A step condition under which every step preserves `J` makes `J` hold along
the whole schedule. -/
theorem always_of_eachStep {J : σ → Prop} {C : σ → α → Prop}
    (hstep : ∀ {s a t}, J s → C s a → M.step s a = some t → J t)
    {s : σ} {schedule : List α} (hs : J s)
    (hcond : M.EachStep C s schedule) : M.Always J s schedule := by
  induction schedule generalizing s with
  | nil => exact hs
  | cons a rest ih =>
      refine ⟨hs, fun t ht => ?_⟩
      obtain ⟨hC, hrest⟩ := hcond t ht
      exact ih (hstep hs hC ht) hrest

/-- A condition under which every step preserves `J` implies, at each step, what `J` and
the condition imply there. -/
theorem eachStep_of_preserved {J : σ → Prop} {C C' : σ → α → Prop}
    (hstep : ∀ {s a t}, J s → C s a → M.step s a = some t → J t)
    (himp : ∀ {s a}, J s → C s a → C' s a) {s : σ} {schedule : List α} (hs : J s)
    (hcond : M.EachStep C s schedule) : M.EachStep C' s schedule := by
  induction schedule generalizing s with
  | nil => trivial
  | cons a rest ih =>
      intro t ht
      obtain ⟨hC, hrest⟩ := hcond t ht
      exact ⟨himp hs hC, ih (hstep hs hC ht) hrest⟩

/-- A property that every enabled step preserves holds along a whole schedule. -/
theorem always_of_preserved {J : σ → Prop}
    (hstep : ∀ {s a t}, J s → M.step s a = some t → J t) {s : σ} (hs : J s)
    (schedule : List α) : M.Always J s schedule := by
  induction schedule generalizing s with
  | nil => exact hs
  | cons a rest ih => exact ⟨hs, fun t ht => ih (hstep hs ht)⟩

/-- An invariant holds along every schedule. -/
theorem Invariant.always {J : σ → Prop} (hJ : M.Invariant J) (schedule : List α) :
    M.Always J M.init schedule :=
  always_of_preserved hJ.step hJ.init schedule

/-- **Exact step conditions.** If, among states satisfying the invariant `J`, a
step from a good state leads to a good state exactly when it meets `C`, then a
schedule stays good exactly when all its steps meet `C`. -/
theorem always_iff_eachStep {J I : σ → Prop} {C : σ → α → Prop}
    (hJ : ∀ {s a t}, J s → M.step s a = some t → J t)
    (hexact : ∀ {s a t}, J s → I s → M.step s a = some t → (I t ↔ C s a))
    {s : σ} (hs : J s) (hI : I s) (schedule : List α) :
    M.Always I s schedule ↔ M.EachStep C s schedule := by
  induction schedule generalizing s with
  | nil => exact ⟨fun _ => trivial, fun _ => hI⟩
  | cons a rest ih =>
      apply Iff.intro
      · intro ⟨_, halways⟩ t ht
        have hIt := (halways t ht).head
        exact ⟨(hexact hs hI ht).mp hIt,
          (ih (hJ hs ht) hIt).mp (halways t ht)⟩
      · intro hcond
        refine ⟨hI, fun t ht => ?_⟩
        obtain ⟨hC, hrest⟩ := hcond t ht
        have hIt := (hexact hs hI ht).mpr hC
        exact (ih (hJ hs ht) hIt).mpr hrest

/-- If from every good state each step is enabled, and leads to a good state and
does what is asked exactly when its label meets `C`, then a schedule stays good
and does so exactly when all its labels meet `C`. -/
theorem always_and_eachStep_iff {I : σ → Prop} {Q : σ → α → Prop} {C : α → Prop}
    {schedule : List α}
    (hexact : ∀ s, I s → ∀ a ∈ schedule, ∃ t, M.step s a = some t ∧ (I t ∧ Q s a ↔ C a))
    {s : σ} (hI : I s) :
    M.Always I s schedule ∧ M.EachStep Q s schedule ↔ ∀ a ∈ schedule, C a := by
  induction schedule generalizing s with
  | nil => exact iff_of_true ⟨hI, trivial⟩ (List.forall_mem_nil _)
  | cons a rest ih =>
      obtain ⟨t, hstep, hlabel⟩ := hexact s hI a List.mem_cons_self
      have hrest := ih (s := t) fun s hs b hb => hexact s hs b (List.mem_cons_of_mem a hb)
      simp only [Always, EachStep, hstep, Option.some.injEq, forall_eq']
      rw [List.forall_mem_cons, ← hlabel]
      apply Iff.intro
      · intro ⟨⟨_, halways⟩, hfirst, heach⟩
        have hIt := halways.head
        exact ⟨⟨hIt, hfirst⟩, (hrest hIt).mp ⟨halways, heach⟩⟩
      · intro ⟨⟨hIt, hfirst⟩, hlabels⟩
        obtain ⟨halways, heach⟩ := (hrest hIt).mpr hlabels
        exact ⟨⟨hI, halways⟩, hfirst, heach⟩

/-- If a state is good exactly when the state before it is and the step to it
meets `C`, then a run ends well exactly when it starts well and all its steps
meet `C`. -/
theorem iff_eachStep_of_exec {J I : σ → Prop} {C : σ → α → Prop}
    (hJ : ∀ {s a t}, J s → M.step s a = some t → J t)
    (hexact : ∀ {s a t}, J s → M.step s a = some t → (I t ↔ I s ∧ C s a))
    {s t : σ} {schedule : List α} (hs : J s) (hrun : M.exec s schedule = some t) :
    I t ↔ I s ∧ M.EachStep C s schedule := by
  induction schedule generalizing s with
  | nil =>
      cases hrun
      exact (and_iff_left trivial).symm
  | cons a rest ih =>
      obtain ⟨mid, hmid, hrest⟩ := Option.bind_eq_some_iff.mp hrun
      rw [ih (hJ hs hmid) hrest, hexact hs hmid, and_assoc]
      simp [EachStep, hmid]

/-- Two step conditions that agree wherever an invariant holds are met by the
same schedules. -/
theorem eachStep_congr {J : σ → Prop} {C C' : σ → α → Prop}
    (hJ : ∀ {s a t}, J s → M.step s a = some t → J t)
    (hagree : ∀ {s a t}, J s → M.step s a = some t → (C s a ↔ C' s a))
    {s : σ} (hs : J s) (schedule : List α) :
    M.EachStep C s schedule ↔ M.EachStep C' s schedule := by
  induction schedule generalizing s with
  | nil => exact Iff.rfl
  | cons a rest ih =>
      refine forall_congr' fun t => forall_congr' fun ht => ?_
      exact and_congr (hagree hs ht) (ih (hJ hs ht))

end Machine

end Transition
