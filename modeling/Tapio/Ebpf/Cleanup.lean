/-
# In-flight entries are cleaned up and fresh

The storage handlers under any config at every invocation, with evictions from the
LRU map at any time. A config gates what is emitted, not what is cleaned up: a
completion leaves no entry behind on any of its paths, and an entry that is found is
the one its last enabled issue since the last completion put there. `EntryEffect`
says what a step can do to one entry; the history of an entry follows from it by
going back through the steps.
-/
import Tapio.Ebpf.Storage
import Tapio.Transition.Machine

namespace Tapio.Ebpf

open Transition

/-- An invocation of a handler, or an eviction. -/
inductive IoStep
  | issue (inv : Invocation) (ctx : TraceEventRawBlockRq)
  | complete (inv : Invocation) (ctx : TraceEventRawBlockRqCompletion)
  | evict (key : IoKey)
  deriving DecidableEq

/-- The maps after a step, and the event it submits. -/
def ioStep (maps : StorageMaps) : IoStep → StorageMaps × Option StorageEvent
  | .issue inv ctx => (traceBlockRqIssue inv ctx maps, none)
  | .complete inv ctx => traceBlockRqComplete inv ctx maps
  | .evict key => ({ maps with inflightIo := maps.inflightIo.delete key }, none)

/-- The step is an enabled issue of the key. -/
def IoStep.Issues (k : IoKey) : IoStep → Prop
  | .issue inv ctx => (inv.enabledConfig tapioFStorage).isSome ∧ ctx.key = some k
  | _ => False

/-- The step is a completion of the key. -/
def IoStep.Completes (k : IoKey) : IoStep → Prop
  | .complete _ ctx => ctx.key = some k
  | _ => False

instance (k : IoKey) : DecidablePred (IoStep.Issues k)
  | .issue _ _ => inferInstanceAs (Decidable (_ ∧ _))
  | .complete _ _ | .evict _ => isFalse nofun

instance (k : IoKey) : DecidablePred (IoStep.Completes k)
  | .complete _ _ => inferInstanceAs (Decidable (_ = _))
  | .issue _ _ | .evict _ => isFalse nofun

/-- A step, with the maps it found and the event it submitted. -/
structure Moment where
  step : IoStep
  before : StorageMaps
  event : Option StorageEvent

structure IoRun where
  maps : StorageMaps
  /-- The steps so far, newest first. -/
  moments : List Moment

/-- Any invocations and evictions, in any order. -/
def ioMachine : Machine IoRun IoStep where
  init := ⟨StorageMaps.empty, []⟩
  step s step := some {
    maps := (ioStep s.maps step).1
    moments := ⟨step, s.maps, (ioStep s.maps step).2⟩ :: s.moments }

/-! ## What a step does to an entry -/

inductive EntryEffect (k : IoKey) (step : IoStep) (before after : Option IoValue) : Prop
  | filled {inv : Invocation} {ctx : TraceEventRawBlockRq} (hstep : step = .issue inv ctx)
      (hissues : step.Issues k) (hbefore : before = none)
      (hafter : after = some (issueValue inv ctx.nrSector k.opcode))
  | marked {existing : IoValue} (hissues : step.Issues k) (hbefore : before = some existing)
      (hafter : after = some { existing with ambiguous := 1 })
  | removed (hafter : after = none)
  | kept (hissues : ¬ step.Issues k) (hcompletes : ¬ step.Completes k)
      (hafter : after = before)

theorem entryEffect_issue (k : IoKey) (maps : StorageMaps) (inv : Invocation)
    (ctx : TraceEventRawBlockRq) :
    EntryEffect k (.issue inv ctx) (maps.inflightIo k)
      ((traceBlockRqIssue inv ctx maps).inflightIo k) := by
  cases hon : inv.enabledConfig tapioFStorage with
  | none =>
      rw [traceBlockRqIssue_disabled hon]
      exact .kept (by simp [IoStep.Issues, hon]) nofun rfl
  | some cfg =>
      cases hop : rwbsOpcode ctx.rwbs with
      | none =>
          rw [traceBlockRqIssue_other hop]
          exact .kept (by simp [IoStep.Issues, TraceEventRawBlockRq.key, hop]) nofun rfl
      | some opcode =>
          rw [traceBlockRqIssue_inflightIo hon hop]
          by_cases hk : k = ioKey ctx.dev ctx.sector ctx.nrSector opcode
          · have hissues : (IoStep.issue inv ctx).Issues k := by
              simp [IoStep.Issues, TraceEventRawBlockRq.key, hon, hop, hk]
            rw [if_pos hk]
            cases hbefore : maps.inflightIo k with
            | none => exact .filled rfl hissues rfl (by rw [hk, ioKey])
            | some existing => exact .marked hissues rfl rfl
          · rw [if_neg hk]
            refine .kept ?_ nofun rfl
            simp [IoStep.Issues, TraceEventRawBlockRq.key, hop, Ne.symm hk]

theorem entryEffect_complete (k : IoKey) (maps : StorageMaps) (inv : Invocation)
    (ctx : TraceEventRawBlockRqCompletion) :
    EntryEffect k (.complete inv ctx) (maps.inflightIo k)
      ((traceBlockRqComplete inv ctx maps).1.inflightIo k) := by
  cases hop : rwbsOpcode ctx.rwbs with
  | none =>
      rw [traceBlockRqComplete_other hop]
      refine .kept nofun ?_ rfl
      simp [IoStep.Completes, TraceEventRawBlockRqCompletion.key, hop]
  | some opcode =>
      rw [traceBlockRqComplete_inflightIo hop, HashMap.delete_apply]
      by_cases hk : k = ioKey ctx.dev ctx.sector ctx.nrSector opcode
      · rw [if_pos hk]
        exact .removed rfl
      · rw [if_neg hk]
        refine .kept nofun ?_ rfl
        simp [IoStep.Completes, TraceEventRawBlockRqCompletion.key, hop, Ne.symm hk]

theorem entryEffect (k : IoKey) (maps : StorageMaps) (step : IoStep) :
    EntryEffect k step (maps.inflightIo k) ((ioStep maps step).1.inflightIo k) := by
  cases step with
  | issue inv ctx => exact entryEffect_issue k maps inv ctx
  | complete inv ctx => exact entryEffect_complete k maps inv ctx
  | evict key =>
      by_cases hk : k = key
      · exact .removed (by simp [ioStep, hk])
      · exact .kept nofun nofun (by simp [ioStep, hk])

/-- A completion of the key leaves no entry, whatever path it takes. -/
theorem inflightIo_of_completes {k : IoKey} {step : IoStep} (hcompletes : step.Completes k)
    (maps : StorageMaps) : (ioStep maps step).1.inflightIo k = none := by
  cases step with
  | complete inv ctx =>
      obtain ⟨opcode, hop, rfl⟩ := Option.map_eq_some_iff.mp hcompletes
      simp [ioStep, traceBlockRqComplete_inflightIo hop]
  | issue inv ctx => cases hcompletes
  | evict key => cases hcompletes

/-! ## Where an entry comes from -/

/-- The entry holds what the issue captured. -/
structure Captured (value : IoValue) (inv : Invocation) (ctx : TraceEventRawBlockRq) :
    Prop where
  issueNs : value.issueNs = inv.ktimeNs
  cgroupId : value.cgroupId = inv.cgroupId
  issuerPid : value.issuerPid = (inv.pidTgid >>> 32).toUInt32
  bytes : value.bytes = ctx.nrSector * 512

/-- The entry was put there by an enabled issue of its key, when there was none and
since the latest completion of the key; it is ambiguous exactly if the key was issued
again since. -/
def FreshEntry (k : IoKey) (value : IoValue) (moments : List Moment) : Prop :=
  ∃ newer inv ctx before event older,
    moments = newer ++ ⟨.issue inv ctx, before, event⟩ :: older ∧
    (IoStep.issue inv ctx).Issues k ∧
    before.inflightIo k = none ∧
    (∀ moment ∈ newer, ¬ moment.step.Completes k) ∧
    Captured value inv ctx ∧
    value.ambiguous = if ∃ moment ∈ newer, moment.step.Issues k then 1 else 0

/-- What the map holds is cleaned up and fresh, and what was submitted came from
entries that were not ambiguous. -/
structure CleanAndFresh (s : IoRun) : Prop where
  /-- The entry of a key is gone after a completion of the key. -/
  clean : ∀ k, ∀ latest ∈ s.moments.head?, latest.step.Completes k →
    s.maps.inflightIo k = none
  fresh : ∀ k, ∀ value ∈ s.maps.inflightIo k, FreshEntry k value s.moments
  unambiguous : ∀ moment ∈ s.moments, ∀ event ∈ moment.event,
    ∃ k value, moment.step.Completes k ∧ moment.before.inflightIo k = some value ∧
      value.ambiguous = 0 ∧
      ∃ inv cfg error severity, event = storageEvent inv cfg k value error severity

theorem captured_issueValue (inv : Invocation) (ctx : TraceEventRawBlockRq)
    (opcode : UInt8) : Captured (issueValue inv ctx.nrSector opcode) inv ctx :=
  ⟨rfl, rfl, rfl, rfl⟩

theorem freshEntry_filled {k : IoKey} {inv : Invocation} {ctx : TraceEventRawBlockRq}
    (hissues : (IoStep.issue inv ctx).Issues k) {maps : StorageMaps}
    (hnone : maps.inflightIo k = none) (event : Option StorageEvent)
    (older : List Moment) :
    FreshEntry k (issueValue inv ctx.nrSector k.opcode)
      (⟨.issue inv ctx, maps, event⟩ :: older) :=
  ⟨[], inv, ctx, maps, event, older, rfl, hissues, hnone, List.forall_mem_nil _,
    captured_issueValue inv ctx k.opcode, by simp [issueValue]⟩

/-- An entry that another enabled issue finds is fresh with the mark set. -/
theorem FreshEntry.marked {k : IoKey} {value : IoValue} {moments : List Moment}
    (hfresh : FreshEntry k value moments) {moment : Moment}
    (hissues : moment.step.Issues k) (hcompletes : ¬ moment.step.Completes k) :
    FreshEntry k { value with ambiguous := 1 } (moment :: moments) := by
  obtain ⟨newer, inv, ctx, before, event, older, rfl, hissue, hnone, hnewer, hcaptured, -⟩ :=
    hfresh
  refine ⟨moment :: newer, inv, ctx, before, event, older, rfl, hissue, hnone, ?_,
    { hcaptured with }, ?_⟩
  · exact List.forall_mem_cons.mpr ⟨hcompletes, hnewer⟩
  · rw [if_pos ⟨moment, List.mem_cons_self, hissues⟩]

/-- An entry that a step leaves alone stays fresh. -/
theorem FreshEntry.kept {k : IoKey} {value : IoValue} {moments : List Moment}
    (hfresh : FreshEntry k value moments) {moment : Moment}
    (hissues : ¬ moment.step.Issues k) (hcompletes : ¬ moment.step.Completes k) :
    FreshEntry k value (moment :: moments) := by
  obtain ⟨newer, inv, ctx, before, event, older, rfl, hissue, hnone, hnewer, hcaptured,
    hambiguous⟩ := hfresh
  refine ⟨moment :: newer, inv, ctx, before, event, older, rfl, hissue, hnone, ?_,
    hcaptured, ?_⟩
  · exact List.forall_mem_cons.mpr ⟨hcompletes, hnewer⟩
  · simpa [hissues] using hambiguous

/-- A step submits an event only if it is a completion that finds an entry without the
mark. -/
theorem unambiguous_of_event {maps : StorageMaps} {step : IoStep} {event : StorageEvent}
    (hevent : (ioStep maps step).2 = some event) :
    ∃ k value, step.Completes k ∧ maps.inflightIo k = some value ∧ value.ambiguous = 0 ∧
      ∃ inv cfg error severity, event = storageEvent inv cfg k value error severity := by
  cases step with
  | complete inv ctx =>
      cases hop : rwbsOpcode ctx.rwbs with
      | none =>
          rw [ioStep, traceBlockRqComplete_other hop] at hevent
          cases hevent
      | some opcode =>
          obtain ⟨cfg, value, severity, -, hvalue, hambiguous, -, hfilled⟩ :=
            traceBlockRqComplete_event hop hevent
          exact ⟨_, value, by simp [IoStep.Completes, TraceEventRawBlockRqCompletion.key, hop],
            hvalue, hambiguous, inv, cfg, ctx.error, severity, hfilled⟩
  | issue inv ctx => cases hevent
  | evict key => cases hevent

theorem freshEntry_step {s : IoRun}
    (hs : ∀ k, ∀ value ∈ s.maps.inflightIo k, FreshEntry k value s.moments) (step : IoStep)
    (event : Option StorageEvent) (k : IoKey) {value : IoValue}
    (hvalue : (ioStep s.maps step).1.inflightIo k = some value) :
    FreshEntry k value (⟨step, s.maps, event⟩ :: s.moments) := by
  have heffect := entryEffect k s.maps step
  rw [hvalue] at heffect
  cases heffect with
  | filled hstep hissues hbefore hafter =>
      subst hstep
      obtain rfl := Option.some.inj hafter
      exact freshEntry_filled hissues hbefore event s.moments
  | marked hissues hbefore hafter =>
      obtain rfl := Option.some.inj hafter
      refine (hs k _ hbefore).marked hissues fun hcompletes => ?_
      rw [inflightIo_of_completes hcompletes] at hvalue
      cases hvalue
  | removed hafter => cases hafter
  | kept hissues hcompletes hafter => exact (hs k value hafter.symm).kept hissues hcompletes

theorem cleanAndFresh_init : CleanAndFresh ioMachine.init where
  clean k latest hlatest := absurd hlatest (by simp [ioMachine])
  fresh k value hvalue := absurd hvalue (by simp [ioMachine, StorageMaps.empty])
  unambiguous := List.forall_mem_nil _

theorem cleanAndFresh_invariant : ioMachine.Invariant CleanAndFresh where
  init := cleanAndFresh_init
  step := by
    intro s step t hs hstep
    cases hstep
    apply CleanAndFresh.mk
    · rintro k _ ⟨⟩ hcompletes
      exact inflightIo_of_completes hcompletes s.maps
    · intro k value hvalue
      exact freshEntry_step hs.fresh step _ k hvalue
    · refine List.forall_mem_cons.mpr ⟨fun event hevent => ?_, hs.unambiguous⟩
      exact unambiguous_of_event hevent

/-- **Cleaned up and fresh.** In every state of every run, whatever the configs, the
reservations and the evictions were. -/
theorem cleanAndFresh (steps : List IoStep) :
    ioMachine.Always CleanAndFresh ioMachine.init steps :=
  cleanAndFresh_invariant.always steps

end Tapio.Ebpf
