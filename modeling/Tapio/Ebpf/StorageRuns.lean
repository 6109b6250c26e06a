/-
# Runs of the storage probe

A run issues and completes block requests in any order, with storage enabled at
every invocation and no eviction. The requests are distinct objects; the
tracepoints show only their keys, which requests in flight may share.

The state pairs the probe's maps with the history the probe cannot see. The
invariant `Tracks` is the refinement between the two: every in-flight entry is
the slot that the history leaves under its key, and the ambiguity counter is the
number of completions that found an ambiguous slot. What the probe gets right and
wrong about requests is then read off the history.
-/
import Tapio.Correlation.History
import Tapio.Ebpf.Storage
import Tapio.Transition.Machine

namespace Tapio.Ebpf

open Transition Correlation

/-- A read or write request. The tracepoints never show `id`, so two requests
may agree in everything the probe can see. -/
structure Request where
  id : ℕ
  dev : UInt32
  sector : UInt64
  nrSector : UInt32
  rwbs : String
  opcode : UInt8
  rwbs_opcode : rwbsOpcode rwbs = some opcode
  /-- The invocation that sees the request issued. -/
  issue : Invocation
  deriving DecidableEq

namespace Request

def key (r : Request) : IoKey := ioKey r.dev r.sector r.nrSector r.opcode

def issueContext (r : Request) : TraceEventRawBlockRq where
  dev := r.dev
  sector := r.sector
  nrSector := r.nrSector
  rwbs := r.rwbs

def completionContext (r : Request) (error : Int32) : TraceEventRawBlockRqCompletion where
  dev := r.dev
  sector := r.sector
  nrSector := r.nrSector
  error := error
  rwbs := r.rwbs

@[simp] theorem rwbsOpcode_issueContext (r : Request) :
    rwbsOpcode r.issueContext.rwbs = some r.opcode := r.rwbs_opcode

@[simp] theorem rwbsOpcode_completionContext (r : Request) (error : Int32) :
    rwbsOpcode (r.completionContext error).rwbs = some r.opcode := r.rwbs_opcode

end Request

/-- What a completion of a request submitted. -/
structure Completion where
  request : Request
  /-- The invocation that saw the request complete. -/
  invocation : Invocation
  event : Option StorageEvent

/-- The maps, with the history behind them and every completion so far. -/
structure StorageRun where
  maps : StorageMaps
  /-- Issues and completions, newest first. -/
  history : List (Event Request)
  /-- What the completions submitted, newest first. -/
  completed : List Completion

/-- One invocation of a handler. -/
inductive StorageStep
  | issue (r : Request)
  | complete (r : Request) (error : Int32) (inv : Invocation)
  /-- An issue that is neither a read nor a write. -/
  | issueOther (inv : Invocation) (ctx : TraceEventRawBlockRq)
  /-- A completion that is neither a read nor a write. -/
  | completeOther (inv : Invocation) (ctx : TraceEventRawBlockRqCompletion)

/-- Storage is enabled under a valid layout version. -/
abbrev Invocation.StorageEnabled (inv : Invocation) : Prop :=
  (inv.enabledConfig tapioFStorage).isSome

/-- The effect of an invocation. A request is issued once, and completed at most
once after its issue. -/
def storageStep (s : StorageRun) : StorageStep → Option StorageRun
  | .issue r =>
      if r.issue.StorageEnabled ∧ r ∉ issued s.history then
        some { s with
          maps := traceBlockRqIssue r.issue r.issueContext s.maps
          history := .issue r :: s.history }
      else none
  | .complete r error inv =>
      if inv.StorageEnabled ∧ r ∈ inFlight s.history then
        let result := traceBlockRqComplete inv (r.completionContext error) s.maps
        some {
          maps := result.1
          history := .complete r :: s.history
          completed := ⟨r, inv, result.2⟩ :: s.completed }
      else none
  | .issueOther inv ctx =>
      if rwbsOpcode ctx.rwbs = none then
        some { s with maps := traceBlockRqIssue inv ctx s.maps }
      else none
  | .completeOther inv ctx =>
      if rwbsOpcode ctx.rwbs = none then
        some { s with maps := (traceBlockRqComplete inv ctx s.maps).1 }
      else none

/-- The probe from load on. -/
def storageMachine : Machine StorageRun StorageStep where
  init := ⟨StorageMaps.empty, [], []⟩
  step := storageStep

/-! ## What a step does -/

theorem storageStep_issue {s t : StorageRun} {r : Request}
    (hstep : storageStep s (.issue r) = some t) :
    r.issue.StorageEnabled ∧ r ∉ issued s.history ∧
      t = { s with
        maps := traceBlockRqIssue r.issue r.issueContext s.maps
        history := .issue r :: s.history } := by
  obtain ⟨⟨hon, hfresh⟩, ht⟩ := Option.ite_none_right_eq_some.mp hstep
  exact ⟨hon, hfresh, (Option.some.inj ht).symm⟩

theorem storageStep_complete {s t : StorageRun} {r : Request} {error : Int32}
    {inv : Invocation} (hstep : storageStep s (.complete r error inv) = some t) :
    inv.StorageEnabled ∧ r ∈ inFlight s.history ∧
      t = {
        maps := (traceBlockRqComplete inv (r.completionContext error) s.maps).1
        history := .complete r :: s.history
        completed :=
          ⟨r, inv, (traceBlockRqComplete inv (r.completionContext error) s.maps).2⟩ ::
            s.completed } := by
  obtain ⟨⟨hon, hr⟩, ht⟩ := Option.ite_none_right_eq_some.mp hstep
  exact ⟨hon, hr, (Option.some.inj ht).symm⟩

/-- Issues of other operations change nothing. -/
theorem storageStep_issueOther {s t : StorageRun} {inv : Invocation}
    {ctx : TraceEventRawBlockRq}
    (hstep : storageStep s (.issueOther inv ctx) = some t) : t = s := by
  obtain ⟨hop, ht⟩ := Option.ite_none_right_eq_some.mp hstep
  rw [traceBlockRqIssue_other hop] at ht
  exact (Option.some.inj ht).symm

/-- Completions of other operations change nothing. -/
theorem storageStep_completeOther {s t : StorageRun} {inv : Invocation}
    {ctx : TraceEventRawBlockRqCompletion}
    (hstep : storageStep s (.completeOther inv ctx) = some t) : t = s := by
  obtain ⟨hop, ht⟩ := Option.ite_none_right_eq_some.mp hstep
  rw [traceBlockRqComplete_other hop] at ht
  exact (Option.some.inj ht).symm

/-! ## The maps track the history -/

/-- The entry a slot is stored as. -/
def entryOfSlot (occupied : Slot Request) : IoValue :=
  { issueValue occupied.holder.issue occupied.holder.nrSector occupied.holder.opcode with
    ambiguous := if occupied.ambiguous then 1 else 0 }

/-- The maps are determined by the history as a prober with one slot per key
sees it. -/
structure Tracks (s : StorageRun) : Prop where
  wellFormed : WellFormed s.history
  inflightIo : ∀ k, s.maps.inflightIo k = (slot Request.key k s.history).map entryOfSlot
  ambiguousIo : s.maps.tapioMetrics metricStorageAmbiguousIo =
    ambiguousCompletions Request.key s.history

theorem Tracks.issue {s : StorageRun} {r : Request} (hs : Tracks s)
    (hon : r.issue.StorageEnabled) (hfresh : r ∉ issued s.history) :
    Tracks { s with
      maps := traceBlockRqIssue r.issue r.issueContext s.maps
      history := .issue r :: s.history } := by
  obtain ⟨cfg, hcfg⟩ := Option.isSome_iff_exists.mp hon
  refine ⟨⟨hfresh, hs.wellFormed⟩, fun k => ?_, ?_⟩
  · rw [traceBlockRqIssue_inflightIo hcfg r.rwbsOpcode_issueContext, slot_issue, hs.inflightIo k]
    change (if k = r.key then _ else _) = _
    by_cases hk : r.key = k
    · subst hk
      cases hslot : slot Request.key r.key s.history with
      | none => simp [entryOfSlot, issueValue, Request.issueContext]
      | some occupied => simp [entryOfSlot, issueValue]
    · simp [hk, Ne.symm hk]
  · rw [traceBlockRqIssue_metrics]
    exact hs.ambiguousIo

theorem Tracks.complete {s : StorageRun} {r : Request} {error : Int32}
    {inv : Invocation} {completed : List Completion} (hs : Tracks s)
    (hon : inv.StorageEnabled) (hr : r ∈ inFlight s.history) :
    Tracks {
      maps := (traceBlockRqComplete inv (r.completionContext error) s.maps).1
      history := .complete r :: s.history
      completed := completed } := by
  obtain ⟨cfg, hcfg⟩ := Option.isSome_iff_exists.mp hon
  refine ⟨⟨hr, hs.wellFormed⟩, fun k => ?_, ?_⟩
  · rw [traceBlockRqComplete_inflightIo (r.rwbsOpcode_completionContext error),
      slot_complete, HashMap.delete_apply, hs.inflightIo k]
    change (if k = r.key then _ else _) = _
    by_cases hk : r.key = k
    · simp [hk]
    · simp [hk, Ne.symm hk]
  · rw [traceBlockRqComplete_ambiguousIo hcfg (r.rwbsOpcode_completionContext error),
      hs.ambiguousIo, ambiguousCompletions_complete]
    change _ + (if (s.maps.inflightIo r.key).any _ then 1 else 0) = _
    rw [hs.inflightIo, slot]
    rcases pending Request.key r.key s.history with _ | ⟨_, _ | ⟨_, _⟩⟩
    · simp [Slot.ofPending]
    · simp [Slot.ofPending, entryOfSlot]
    · simp [Slot.ofPending, entryOfSlot]

/-- The maps track the history in every run. -/
theorem tracks_invariant : storageMachine.Invariant Tracks where
  init := ⟨trivial, fun _ => rfl, rfl⟩
  step := by
    intro s a t hs hstep
    cases a with
    | issue r =>
        obtain ⟨hon, hfresh, rfl⟩ := storageStep_issue hstep
        exact hs.issue hon hfresh
    | complete r error inv =>
        obtain ⟨hon, hr, rfl⟩ := storageStep_complete hstep
        exact hs.complete hon hr
    | issueOther inv ctx =>
        obtain rfl := storageStep_issueOther hstep
        exact hs
    | completeOther inv ctx =>
        obtain rfl := storageStep_completeOther hstep
        exact hs

/-! ## Attribution -/

/-- The event describes this request: its latency runs from the issue of the
request to this invocation, and its context is the one captured at that
issue. -/
def Describes (evt : StorageEvent) (r : Request) (inv : Invocation) : Prop :=
  evt.latencyNs = inv.ktimeNs - r.issue.ktimeNs ∧
    evt.cgroupId = r.issue.cgroupId ∧
    evt.pid = (r.issue.pidTgid >>> 32).toUInt32 ∧
    evt.bytes = r.nrSector * 512

instance (evt : StorageEvent) (r : Request) (inv : Invocation) :
    Decidable (Describes evt r inv) :=
  inferInstanceAs (Decidable (_ ∧ _))

/-- Every submitted event describes the request whose completion submitted
it. -/
def RightlyAttributed (s : StorageRun) : Prop :=
  ∀ c ∈ s.completed, ∀ evt ∈ c.event, Describes evt c.request c.invocation

instance : DecidablePred RightlyAttributed := fun s =>
  inferInstanceAs (Decidable (∀ c ∈ s.completed, ∀ evt ∈ c.event, _))

/-- No request is issued under a key while another one is in flight under it of
which the map holds no entry. -/
def SafeStep (s : StorageRun) : StorageStep → Prop
  | .issue r =>
      ∀ q ∈ inFlight s.history, q.key = r.key → s.maps.inflightIo r.key ≠ none
  | _ => True

instance (s : StorageRun) : (a : StorageStep) → Decidable (SafeStep s a)
  | .issue r =>
      inferInstanceAs (Decidable (∀ q ∈ inFlight s.history, q.key = r.key → _))
  | .complete .. => isTrue trivial
  | .issueOther .. => isTrue trivial
  | .completeOther .. => isTrue trivial

/-- The map is empty under a key exactly when nothing is pending under it. -/
theorem Tracks.inflightIo_eq_none {s : StorageRun} (hs : Tracks s) (k : IoKey) :
    s.maps.inflightIo k = none ↔ pending Request.key k s.history = [] := by
  rw [hs.inflightIo, slot, Option.map_eq_none_iff]
  rcases pending Request.key k s.history with _ | ⟨_, _ | ⟨_, _⟩⟩
  · simp [Slot.ofPending]
  · simp [Slot.ofPending]
  · simp [Slot.ofPending]

theorem Tracks.safeStep_iff {s : StorageRun} (hs : Tracks s) (r : Request) :
    SafeStep s (.issue r) ↔ SafeIssue Request.key r s.history := by
  simp only [SafeStep, SafeIssue, ne_eq, hs.inflightIo_eq_none]

/-- The event of a completion is filled from the holder of an unambiguous
slot. -/
theorem Tracks.event_holder {s : StorageRun} (hs : Tracks s) {r : Request}
    {error : Int32} {inv : Invocation} {evt : StorageEvent}
    (hevt : (traceBlockRqComplete inv (r.completionContext error) s.maps).2 = some evt) :
    ∃ q, slot Request.key r.key s.history = some ⟨q, false⟩ ∧ Describes evt q inv := by
  obtain ⟨cfg, value, severity, -, hvalue, hamb, -, rfl⟩ :=
    traceBlockRqComplete_event (r.rwbsOpcode_completionContext error) hevt
  change s.maps.inflightIo r.key = some value at hvalue
  rw [hs.inflightIo] at hvalue
  obtain ⟨⟨q, ambiguous⟩, hslot, rfl⟩ := Option.map_eq_some_iff.mp hvalue
  cases ambiguous with
  | true => simp [entryOfSlot] at hamb
  | false => exact ⟨q, hslot, rfl, rfl, rfl, rfl⟩

/-- A completion after safe issues only submits an event about itself. -/
theorem Tracks.describes_of_unorphaned {s : StorageRun} (hs : Tracks s)
    (hsafe : Unorphaned Request.key s.history) {r : Request}
    (hr : r ∈ inFlight s.history) {error : Int32} {inv : Invocation} {evt : StorageEvent}
    (hevt : (traceBlockRqComplete inv (r.completionContext error) s.maps).2 = some evt) :
    Describes evt r inv := by
  obtain ⟨q, hslot, hdesc⟩ := hs.event_holder hevt
  rwa [holder_eq_of_unorphaned Request.key hsafe hr hslot] at hdesc

/-- A safe step keeps every event rightly attributed. -/
theorem rightlyAttributed_step {s t : StorageRun} {a : StorageStep}
    (hs : Tracks s ∧ Unorphaned Request.key s.history ∧ RightlyAttributed s)
    (hsafe : SafeStep s a) (hstep : storageMachine.step s a = some t) :
    Tracks t ∧ Unorphaned Request.key t.history ∧ RightlyAttributed t := by
  obtain ⟨htracks, hunorphaned, hright⟩ := hs
  refine ⟨tracks_invariant.step htracks hstep, ?_⟩
  cases a with
  | issue r =>
      obtain ⟨-, -, rfl⟩ := storageStep_issue hstep
      exact ⟨⟨(htracks.safeStep_iff r).mp hsafe, hunorphaned⟩, hright⟩
  | complete r error inv =>
      obtain ⟨-, hr, rfl⟩ := storageStep_complete hstep
      refine ⟨hunorphaned, fun c hc evt hevt => ?_⟩
      rcases List.mem_cons.mp hc with rfl | hc
      · exact htracks.describes_of_unorphaned hunorphaned hr hevt
      · exact hright c hc evt hevt
  | issueOther inv ctx =>
      obtain rfl := storageStep_issueOther hstep
      exact ⟨hunorphaned, hright⟩
  | completeOther inv ctx =>
      obtain rfl := storageStep_completeOther hstep
      exact ⟨hunorphaned, hright⟩

/-- **Safe issues are enough.** In every run whose issues are safe, every event
submitted so far describes the request whose completion submitted it. -/
theorem rightlyAttributed_of_safe (schedule : List StorageStep)
    (hsafe : storageMachine.EachStep SafeStep storageMachine.init schedule) :
    storageMachine.Always RightlyAttributed storageMachine.init schedule := by
  have hinit : Tracks storageMachine.init ∧
      Unorphaned Request.key storageMachine.init.history ∧
      RightlyAttributed storageMachine.init :=
    ⟨tracks_invariant.init, trivial, fun c hc => absurd hc List.not_mem_nil⟩
  exact (Machine.always_of_eachStep rightlyAttributed_step hinit hsafe).mono
    fun _ hs => hs.2.2

/-- Storage alone is enabled, with a latency warning at 50 ms. -/
def storageOnlyConfig : TapioConfig :=
  { TapioConfig.default with
    abiVersion := tapioConfigAbiVersion
    generation := 1
    flags := tapioFStorage
    slowIoThresholdNs := 50000000 }

/-- An invocation under that config, in the cgroup and process of a number. -/
def invocationAt (ktimeNs task : UInt64) : Invocation where
  configMap := some storageOnlyConfig
  ktimeNs := ktimeNs
  cgroupId := task
  pidTgid := task <<< 32
  comm := List.Vector.replicate 16 0
  ringbufFree := true

/-- Reads of one and the same range, by different tasks at different times. -/
def sameRead (id : ℕ) (ktimeNs task : UInt64) : Request where
  id := id
  dev := (8 : UInt32) <<< 20
  sector := 2048
  nrSector := 8
  rwbs := "R"
  opcode := opRead
  rwbs_opcode := by decide
  issue := invocationAt ktimeNs task

/-- Two overlapping reads complete, and only then is their range read again. -/
def drainedSchedule : List StorageStep :=
  [.issue (sameRead 0 100 1), .issue (sameRead 1 200 2),
    .complete (sameRead 0 100 1) 0 (invocationAt 300 1),
    .complete (sameRead 1 200 2) 0 (invocationAt 60000000 2),
    .issue (sameRead 2 60000100 3),
    .complete (sameRead 2 60000100 3) (-5) (invocationAt 60000200 3)]

/-- The range is read again while the second of two overlapping reads is still
in flight, and that second read completes next. -/
def reusedSchedule : List StorageStep :=
  [.issue (sameRead 0 100 1), .issue (sameRead 1 200 2),
    .complete (sameRead 0 100 1) 0 (invocationAt 300 1),
    .issue (sameRead 2 400 3),
    .complete (sameRead 1 200 2) (-5) (invocationAt 60000000 2)]

theorem rightlyAttributed_drained :
    (storageMachine.exec storageMachine.init drainedSchedule).isSome ∧
      storageMachine.Always RightlyAttributed storageMachine.init drainedSchedule :=
  ⟨by decide, rightlyAttributed_of_safe drainedSchedule (by decide)⟩

/-- The completion of the second read reports the issue time, the cgroup and the
process of the third. -/
theorem not_rightlyAttributed_reused :
    ¬ storageMachine.Always RightlyAttributed storageMachine.init reusedSchedule := by
  decide

/-- **An unsafe issue is a wrong event in waiting.** After it, some other request
is in flight whose completion with an error reports the newly issued one. -/
theorem misattributed_of_unsafe {s t : StorageRun} (hs : storageMachine.Reachable s)
    {r : Request} (hrisky : ¬ SafeStep s (.issue r))
    (hstep : storageMachine.step s (.issue r) = some t) :
    ∃ q ∈ inFlight t.history, q ≠ r ∧
      ∀ (error : Int32) (inv : Invocation), inv.StorageEnabled → error ≠ 0 →
        inv.ringbufFree → ∃ evt u,
          storageMachine.step t (.complete q error inv) = some u ∧
          u.completed = ⟨q, inv, some evt⟩ :: t.completed ∧ Describes evt r inv := by
  have htracks := tracks_invariant.of_reachable hs
  have htracks' := tracks_invariant.step htracks hstep
  obtain ⟨-, hfresh, rfl⟩ := storageStep_issue hstep
  rw [htracks.safeStep_iff] at hrisky
  obtain ⟨hslot, q, hq, hne, hkey⟩ := slot_of_unsafe Request.key hfresh hrisky
  refine ⟨q, hq, hne, fun error inv hon herror hfree => ?_⟩
  obtain ⟨cfg, hcfg⟩ := Option.isSome_iff_exists.mp hon
  have hvalue := htracks'.inflightIo q.key
  simp only [hkey, hslot, Option.map_some] at hvalue
  rw [← hkey] at hvalue
  have hevent := traceBlockRqComplete_error hcfg (q.rwbsOpcode_completionContext error) hvalue rfl
    herror hfree
  refine ⟨_, _, if_pos ⟨hon, hq⟩,
    congrArg (fun e => (⟨q, inv, e⟩ : Completion) :: _) hevent, ?_⟩
  exact ⟨rfl, rfl, rfl, rfl⟩

/-! ## Counting ambiguous completions -/

/-- The ambiguity counter is the number of completed requests that shared their
key with another request while in flight. -/
def AmbiguityCounted (s : StorageRun) : Prop :=
  s.maps.tapioMetrics metricStorageAmbiguousIo = sharedCompletions Request.key s.history

instance : DecidablePred AmbiguityCounted := fun _ => Nat.decEq _ _

/-- A completed request that shared its key finds at least two issues of that
key since the latest completion under it. -/
def CountedStep (s : StorageRun) : StorageStep → Prop
  | .complete r _ _ =>
      Shared Request.key r s.history →
        2 ≤ (pending Request.key r.key s.history).length
  | _ => True

theorem ambiguityCounted_step {s t : StorageRun} {a : StorageStep} (hs : Tracks s)
    (hcounted : AmbiguityCounted s) (hstep : storageMachine.step s a = some t) :
    AmbiguityCounted t ↔ CountedStep s a := by
  have ht := tracks_invariant.step hs hstep
  cases a with
  | issue r =>
      obtain ⟨-, -, rfl⟩ := storageStep_issue hstep
      simpa [CountedStep, AmbiguityCounted, sharedCompletions, completions] using hcounted
  | complete r error inv =>
      obtain ⟨-, hr, rfl⟩ := storageStep_complete hstep
      have hshared := shared_of_pending Request.key hs.wellFormed hr
      have hold := hs.ambiguousIo
      have hnew := ht.ambiguousIo
      rw [hcounted] at hold
      simp only [ambiguousCompletions_complete] at hnew
      simp only [AmbiguityCounted, sharedCompletions_complete, hnew, hold, CountedStep]
      by_cases hpend : 2 ≤ (pending Request.key r.key s.history).length
      · simp [hpend, hshared hpend]
      · by_cases hsh : Shared Request.key r s.history <;> simp [hpend, hsh]
  | issueOther inv ctx =>
      obtain rfl := storageStep_issueOther hstep
      exact iff_of_true hcounted trivial
  | completeOther inv ctx =>
      obtain rfl := storageStep_completeOther hstep
      exact iff_of_true hcounted trivial

/-- **The counter is exact when shared completions find two issues.** A run
keeps the ambiguity counter equal to the number of completions of requests that
shared their key exactly when each of these completions finds at least two
issues of its key since the latest completion under it. -/
theorem ambiguityCounted_iff (schedule : List StorageStep) :
    storageMachine.Always AmbiguityCounted storageMachine.init schedule ↔
      storageMachine.EachStep CountedStep storageMachine.init schedule :=
  Machine.always_iff_eachStep tracks_invariant.step ambiguityCounted_step
    tracks_invariant.init rfl schedule

/-- The second of two overlapping reads finds no entry when it completes, and is
dropped without being counted. -/
theorem not_ambiguityCounted_overlapping :
    ¬ storageMachine.Always AmbiguityCounted storageMachine.init
      [.issue (sameRead 0 100 1), .issue (sameRead 1 200 2),
        .complete (sameRead 0 100 1) 0 (invocationAt 300 1),
        .complete (sameRead 1 200 2) 0 (invocationAt 400 2)] := by
  decide

end Tapio.Ebpf
