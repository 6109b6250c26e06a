/-
# Totals are conserved and rejections are atomic

Beside the controller stands a ledger of the calls it has served and of their
outcomes. The four totals are what the ledger adds up to, and a call that is
rejected leaves its mark on the two rejection totals at most.
-/
import Tapio.Controller.Calls
import Tapio.Transition.Machine

namespace Tapio.Controller

open Wire Transition

/-- A call that was served. -/
structure Call where
  request : Request
  outcome : WireResult Unit

/-- The events a call reports. -/
def Call.eventCount (call : Call) : ℕ :=
  match call.request with
  | .events batch => batch.events.length
  | _ => 0

/-- The call reports a batch that was accepted. -/
def Call.acceptedBatch (call : Call) : Bool := call.request.isEvents && call.outcome.isOk

/-- The call reports a batch that was rejected. -/
def Call.rejectedBatch (call : Call) : Bool := call.request.isEvents && !call.outcome.isOk

structure ServedRun where
  controller : InnerState
  /-- The calls so far, newest first. -/
  calls : List Call

def serve (s : ServedRun) (request : Request) : ServedRun where
  controller := handle request s.controller
  calls := ⟨request, request.outcome s.controller⟩ :: s.calls

/-- Any calls, in any order. -/
def serviceMachine (config : ConfigResponse) (startedAt : SystemTime) :
    Machine ServedRun Request where
  init := ⟨InnerState.new config startedAt, []⟩
  step s request := some (serve s request)

/-- Every batch is in one of the batch totals, and its events in the event total
that goes with it. -/
structure Conserved (s : ServedRun) : Prop where
  batches : s.controller.batchesAcceptedTotal + s.controller.batchesRejectedTotal =
    s.calls.countP (·.request.isEvents)
  acceptedEvents : s.controller.acceptedEventsTotal =
    ((s.calls.filter Call.acceptedBatch).map Call.eventCount).sum
  rejectedEvents : s.controller.rejectedEventsTotal =
    ((s.calls.filter Call.rejectedBatch).map Call.eventCount).sum

/-- A rejected call changes the rejection totals at most, and a call that reads
changes nothing. -/
def RejectionsAtomic (inner : InnerState) : Prop :=
  ∀ request : Request,
    (∀ error, request.outcome inner = .error error →
      ∃ rejectedEvents rejectedBatches,
        handle request inner = { inner with
          rejectedEventsTotal := rejectedEvents
          batchesRejectedTotal := rejectedBatches }) ∧
      (request.reads = true → handle request inner = inner)

theorem rejectionsAtomic (inner : InnerState) : RejectionsAtomic inner := by
  intro request
  have hhandled := handled request inner
  generalize request.outcome inner = outcome, handle request inner = after at hhandled ⊢
  cases hhandled with
  | registered hvalid => exact ⟨nofun, nofun⟩
  | heard hvalid => exact ⟨nofun, nofun⟩
  | accepted hvalid => exact ⟨nofun, nofun⟩
  | rejected hinvalid => exact ⟨fun _ _ => ⟨_, _, rfl⟩, nofun⟩
  | refused hevents => exact ⟨fun _ _ => ⟨_, _, rfl⟩, fun _ => rfl⟩
  | read hreads => exact ⟨fun _ _ => ⟨_, _, rfl⟩, fun _ => rfl⟩

theorem conserved_new (config : ConfigResponse) (startedAt : SystemTime) :
    Conserved (serviceMachine config startedAt).init :=
  ⟨rfl, rfl, rfl⟩

/-- A call that is not a batch adds nothing to the totals. -/
theorem Conserved.of_other {s t : ServedRun} {call : Call} (hs : Conserved s)
    (hcalls : t.calls = call :: s.calls) (hother : call.request.isEvents = false)
    (haccepted : t.controller.acceptedEventsTotal = s.controller.acceptedEventsTotal)
    (hrejected : t.controller.rejectedEventsTotal = s.controller.rejectedEventsTotal)
    (hbatchesAccepted :
      t.controller.batchesAcceptedTotal = s.controller.batchesAcceptedTotal)
    (hbatchesRejected :
      t.controller.batchesRejectedTotal = s.controller.batchesRejectedTotal) :
    Conserved t := by
  have hfirst : call.acceptedBatch = false := by rw [Call.acceptedBatch, hother, Bool.false_and]
  have hsecond : call.rejectedBatch = false := by rw [Call.rejectedBatch, hother, Bool.false_and]
  apply Conserved.mk
  · rw [hbatchesAccepted, hbatchesRejected, hcalls, hs.batches]
    simp [hother]
  · rw [haccepted, hcalls, hs.acceptedEvents]
    simp [hfirst]
  · rw [hrejected, hcalls, hs.rejectedEvents]
    simp [hsecond]

theorem conserved_serve {s : ServedRun} (hs : Conserved s) (request : Request) :
    Conserved (serve s request) := by
  have hhandled := handled request s.controller
  unfold serve
  generalize request.outcome s.controller = outcome,
    handle request s.controller = after at hhandled ⊢
  cases hhandled with
  | registered hvalid => exact hs.of_other rfl rfl rfl rfl rfl rfl
  | heard hvalid => exact hs.of_other rfl rfl rfl rfl rfl rfl
  | accepted hvalid =>
      apply Conserved.mk
      · rw [List.countP_cons_of_pos rfl, ← hs.batches]
        exact Nat.add_right_comm ..
      · rw [List.filter_cons_of_pos rfl, List.map_cons, List.sum_cons, ← hs.acceptedEvents]
        exact Nat.add_comm ..
      · rw [List.filter_cons_of_neg Bool.false_ne_true]
        exact hs.rejectedEvents
  | rejected hinvalid =>
      apply Conserved.mk
      · rw [List.countP_cons_of_pos rfl, ← hs.batches]
        rfl
      · rw [List.filter_cons_of_neg Bool.false_ne_true]
        exact hs.acceptedEvents
      · rw [List.filter_cons_of_pos rfl, List.map_cons, List.sum_cons, ← hs.rejectedEvents]
        exact Nat.add_comm ..
  | refused hevents => exact hs.of_other rfl hevents rfl rfl rfl rfl
  | read hreads =>
      have hother : request.isEvents = false := by
        cases request with
        | events batch => cases hreads
        | hello _ _ | config _ _ | heartbeat _ _ | status _ => rfl
      exact hs.of_other rfl hother rfl rfl rfl rfl

/-- **Conserved totals, atomic rejections.** In every state of every run, the
totals are what the calls so far add up to, and no call that is rejected or only
reads would change anything but the rejection totals. -/
theorem conserved_and_atomic (config : ConfigResponse) (startedAt : SystemTime)
    (requests : List Request) :
    (serviceMachine config startedAt).Always
      (fun s => Conserved s ∧ RejectionsAtomic s.controller)
      (serviceMachine config startedAt).init requests := by
  have hinvariant : (serviceMachine config startedAt).Invariant Conserved := by
    refine ⟨conserved_new config startedAt, fun {s request t} hs hstep => ?_⟩
    cases hstep
    exact conserved_serve hs request
  exact (hinvariant.always requests).mono fun s hs => ⟨hs, rejectionsAtomic s.controller⟩

end Tapio.Controller
