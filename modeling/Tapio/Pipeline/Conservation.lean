/-
# Every record is somewhere

In every state of the pipeline the records that the probes have submitted can be counted
off: each is in a ring buffer, or was no anomaly, or waits for its call of `send`, or is on
its way in the sink, or was delivered, or was counted as dropped. No record is malformed,
and none is lost without a trace, provided the agent was started with an identity that the
controller accepts. What was delivered the controller has accepted.
-/
import Tapio.Pipeline.Provenance

namespace Tapio.Pipeline

open Layout Agent Ebpf Sink Wire Controller Transition

/-! ## Places -/

def Observer.all : List Observer := [.network, .container, .storage, .nodePmc]

/-- A total over the observers. -/
def total (count : Observer → ℕ) : ℕ := (Observer.all.map count).sum

/-- The records of an observer that were no anomalies. -/
def dismissed (p : PipelineParams) (s : PipelineRun) (observer : Observer) : ℕ :=
  (s.loops observer).taken.countP
    fun taken => ((p.surface.loop observer).anomalyOf taken).isNone

/-- The calls of `send` that a tick has still to make. -/
def pending (s : PipelineRun) (observer : Observer) : ℕ :=
  (s.loops observer).sent.length - s.called observer

/-- The events that have left the sink through an exit. -/
def leftThrough (s : PipelineRun) (exit : Exit) : ℕ :=
  s.delivery.sink.left.countP (·.2 = exit)

/-- The identity that the agent was started with passes the validation. -/
def Identified (p : PipelineParams) : Prop :=
  Text.trim p.sink.controller.agentId ≠ "" ∧ Text.trim p.sink.controller.nodeName ≠ ""

instance (p : PipelineParams) : Decidable (Identified p) :=
  inferInstanceAs (Decidable (_ ∧ _))

/-- The balance of a state. -/
structure Conserved (p : PipelineParams) (s : PipelineRun) : Prop where
  /-- Every record that was submitted is in one place. -/
  records :
    total (fun observer => (submittedBy s.kernel observer).length) =
      total (fun observer => (s.loops observer).ring.length) + total (dismissed p s) +
        total (pending s) + s.delivery.sink.inTransit.length + leftThrough s .delivered +
        leftThrough s .counted
  /-- No record is malformed. -/
  malformed : ∀ observer,
    (s.loops observer).metrics.malformedEventsTotal [(p.surface.loop observer).observer] = 0
  /-- The drops are what the sink counts. -/
  drops : s.delivery.sink.metrics.sinkDropsTotal = leftThrough s .counted
  /-- The controller has accepted what was delivered. -/
  accepted : leftThrough s .delivered ≤ s.delivery.controller.acceptedEventsTotal

/-! ## The sink's part -/

/-- The accounts of the sink and of the network. -/
structure Balanced (p : PipelineParams) (s : PipelineRun) : Prop where
  sound : Sound s.delivery.sink
  clean : Identified p → Clean p.sink s.delivery.sink
  calls : s.delivery.sink.admitted = total s.called
  accounts : Controller.Accounts s.delivery

theorem total_update (count : Observer → ℕ) (observer : Observer) :
    total (Function.update count observer (count observer + 1)) = total count + 1 := by
  cases observer <;> simp [total, Observer.all, Function.update] <;> omega

/-- Only `send` admits events. -/
theorem admitted_of_step {p : SinkParams} {s t : SinkState} {a : SinkStep}
    (hstep : sinkStep p s a = some t) (hsend : isSend (.sink a) = false) :
    t.admitted = s.admitted := by
  cases stepped_of_step hstep with
  | send occurrence => cases hsend
  | recvEvent hphase hqueue => exact flushIfFull_admitted p _ _
  | @finish cause lastError hphase => cases cause <;> rfl
  | _ => rfl

/-- A call with an event that can be sent is admitted, whatever becomes of the event. -/
theorem send_admitted (p : SinkParams) (s : SinkState) {occurrence : Sink.Occurrence}
    {event : WireEvent} (hevent : occurrenceToWireEvent occurrence = .ok event) :
    (s.send p occurrence).admitted = s.admitted + 1 := by
  unfold SinkState.send SinkState.tryEnqueueControllerEvent
  rw [hevent]
  dsimp only
  split
  · split <;> rfl
  · rfl


section

variable {p : PipelineParams} {s : PipelineRun}

/-- A step of the sink that puts nothing into the queue. -/
theorem Balanced.delivery (h : Balanced p s) {step : DeliveryStep} (hsend : isSend step = false)
    {delivery : DeliveryRun} (hstep : deliveryStep p.sink s.delivery step = some delivery) :
    Balanced p { s with delivery := delivery } := by
  have haccounts := accounts_of_step h.accounts hstep
  rcases sink_of_deliveryStep hsend hstep with hsame | ⟨step, hother, hsink⟩
  · exact ⟨hsame ▸ h.sound, fun hid => hsame ▸ h.clean hid, hsame ▸ h.calls, haccounts⟩
  · refine ⟨sound_of_step h.sound hsink, fun hid => ?_, ?_, haccounts⟩
    · refine (entry_of_step h.sound.batched hsink).clean_iff.mpr ⟨h.clean hid, ?_⟩
      rw [enqueued_of_not_send p.sink s.delivery.sink hother]
      nofun
    · exact (admitted_of_step hsink hother).trans h.calls

/-- A call of `send` with an event that the controller can accept. -/
theorem Balanced.call (h : Balanced p s) {observer : Observer} {occurrence : Common.Occurrence}
    {wire : WireEvent} (hwire : wireOf occurrence = some wire)
    (hvalid : wire.validate = .ok ()) {delivery : DeliveryRun}
    (hstep : deliveryStep p.sink s.delivery (.sink (.send occurrence.forSink)) = some delivery) :
    Balanced p { s with
      delivery := delivery
      called := Function.update s.called observer (s.called observer + 1) } := by
  have hsink := sink_of_call hstep
  have hevent : occurrenceToWireEvent occurrence.forSink = .ok wire := by
    rw [wireOf] at hwire
    cases hresult : occurrenceToWireEvent occurrence.forSink with
    | error error =>
        rw [hresult] at hwire
        cases hwire
    | ok event =>
        rw [hresult] at hwire
        exact congrArg Except.ok (Option.some.inj hwire)
  refine ⟨sound_of_step h.sound hsink, fun hid => ?_, ?_, accounts_of_step h.accounts hstep⟩
  · refine (entry_of_step h.sound.batched hsink).clean_iff.mpr ⟨h.clean hid, fun event hmem => ?_⟩
    rw [enqueued] at hmem
    split at hmem
    · rw [hevent] at hmem
      obtain rfl := Option.some.inj hmem
      exact ⟨hid.1, hid.2, hvalid⟩
    · cases hmem
  · have hsent : delivery.sink = s.delivery.sink.send p.sink occurrence.forSink :=
      (Option.some.inj hsink).symm
    show delivery.sink.admitted = _
    rw [hsent, send_admitted p.sink _ hevent, total_update, h.calls]

end

theorem balanced_init (p : PipelineParams) : Balanced p (pipelineMachine p).init where
  sound := sound_new
  clean := fun _ => ⟨List.forall_mem_nil _, List.forall_mem_nil _⟩
  calls := rfl
  accounts := accounts_init p.sink p.config p.startedAt

/-- What becomes of the calls does not change where they come from, and the sink's accounts
rest on that. -/
theorem balanced_invariant (p : PipelineParams) :
    (pipelineMachine p).Invariant fun s => Carried p s ∧ Balanced p s where
  init := ⟨carried_init p, balanced_init p⟩
  step := by
    intro s a t ⟨hcarried, h⟩ hstep
    refine ⟨(carried_invariant p).step hcarried hstep, ?_⟩
    cases a with
    | kernel step =>
        cases hstep
        exact ⟨h.sound, h.clean, h.calls, h.accounts⟩
    | tick observer readings around =>
        obtain ⟨-, hstep⟩ := Option.ite_none_right_eq_some.mp hstep
        cases hstep
        exact ⟨h.sound, h.clean, h.calls, h.accounts⟩
    | call observer =>
        simp only [pipelineMachine, pipelineStep] at hstep
        split at hstep
        · cases hstep
        · next occurrence result hnext =>
            obtain ⟨delivery, hdelivery, rfl⟩ := Option.map_eq_some_iff.mp hstep
            obtain ⟨-, wire, hwire, -, hvalid⟩ := hcarried.next_call hnext
            exact h.call hwire hvalid hdelivery
    | delivery step =>
        obtain ⟨hsend, hstep⟩ := Option.ite_none_left_eq_some.mp hstep
        obtain ⟨delivery, hdelivery, rfl⟩ := Option.map_eq_some_iff.mp hstep
        exact h.delivery (Bool.eq_false_iff.mpr hsend) hdelivery

/-! ## The balance -/

section

variable {p : PipelineParams} {s : PipelineRun}

/-- Where the records of one observer are. -/
theorem Carried.records (h : Carried p s) (observer : Observer) :
    (submittedBy s.kernel observer).length = (s.loops observer).ring.length +
      dismissed p s observer + pending s observer + s.called observer := by
  have harrived : (submittedBy s.kernel observer).length = (s.loops observer).arrived.length := by
    rw [h.arrived observer, List.length_map]
  have horder : (s.loops observer).arrived.length =
      (s.loops observer).taken.length + (s.loops observer).ring.length := by
    rw [(h.loops observer).order, List.length_append, List.length_map]
  have hsent : (s.loops observer).sent.length =
      (s.loops observer).taken.countP
        fun taken => ((p.surface.loop observer).anomalyOf taken).isSome := by
    have hcalls := congrArg List.length (h.loops observer).counted.sent
    simpa [ObserverLoop.anomalies, List.length_filterMap_eq_countP] using hcalls
  have hsplit := List.length_eq_countP_add_countP
    (fun taken => ((p.surface.loop observer).anomalyOf taken).isSome)
    (l := (s.loops observer).taken)
  have hdismissed : dismissed p s observer = (s.loops observer).taken.countP
      fun taken => ¬ ((p.surface.loop observer).anomalyOf taken).isSome := by
    rw [dismissed]
    congr 1
    funext taken
    cases (p.surface.loop observer).anomalyOf taken <;> rfl
  have hcalled := h.called observer
  rw [pending]
  omega

/-- No record is too short for its observer. -/
theorem Carried.malformed (h : Carried p s) (observer : Observer) :
    (s.loops observer).metrics.malformedEventsTotal [(p.surface.loop observer).observer] = 0 := by
  rw [(h.loops observer).counted.malformed, List.countP_eq_zero]
  intro taken htaken
  obtain ⟨event, hevent, hrecord⟩ := h.taken_submitted htaken
  obtain ⟨rfl, -⟩ := h.source_submitted hevent
  rw [hrecord, record_not_tooShort]
  exact Bool.false_ne_true

/-- Where the events are that `send` was called with. -/
theorem Balanced.events (h : Balanced p s) (hid : Identified p) :
    total s.called = s.delivery.sink.inTransit.length + leftThrough s .delivered +
      leftThrough s .counted := by
  have hlength := h.sound.balanced.length_eq
  simp only [SinkState.ledger, List.length_append, List.length_map, List.length_range] at hlength
  have hleft : ∀ left : List (ℕ × Exit), (∀ entry ∈ left, entry.2 ≠ .refused) →
      left.length = left.countP (·.2 = .delivered) + left.countP (·.2 = .counted) := by
    intro left hnone
    induction left with
    | nil => rfl
    | cons entry rest ih =>
        obtain ⟨hfirst, hrest⟩ := List.forall_mem_cons.mp hnone
        have hlater := ih hrest
        rcases entry with ⟨number, _ | _ | _⟩
        · simp
          omega
        · simp
          omega
        · exact absurd rfl hfirst
  have hexits := hleft s.delivery.sink.left (h.clean hid).1
  have hcalls := h.calls
  rw [leftThrough, leftThrough]
  omega

theorem conserved (hcarried : Carried p s) (h : Balanced p s) (hid : Identified p) :
    Conserved p s where
  records := by
    have hevents := h.events hid
    have hnetwork := hcarried.records .network
    have hcontainer := hcarried.records .container
    have hstorage := hcarried.records .storage
    have hnodePmc := hcarried.records .nodePmc
    simp only [total, Observer.all, List.map_cons, List.map_nil, List.sum_cons, List.sum_nil]
      at hevents ⊢
    omega
  malformed := hcarried.malformed
  drops := h.sound.drops
  accepted := h.accounts.total

end

/-- **Every record is somewhere.** In every run of an agent with an identity, in every state,
the records that the probes have submitted are counted off without remainder, none was
malformed, the drops are exported, and what was delivered the controller has accepted. -/
theorem conserved_always (p : PipelineParams) (hid : Identified p) (steps : List PipelineStep) :
    (pipelineMachine p).Always (Conserved p) (pipelineMachine p).init steps :=
  ((balanced_invariant p).always steps).mono fun _ ⟨hcarried, h⟩ => conserved hcarried h hid

/-- An agent on a node, and a controller with the built-in config. -/
def worker1 : PipelineParams where
  surface := ⟨.little, fun _ => 0, 1700000000000000000⟩
  sink := sinkOf "node/worker-1"
  config := ConfigResponse.defaultV1
  startedAt := 0

/-- The container probe is enabled, a process is killed for its memory, and the agent reports
it in a batch that is lost once before the controller answers. -/
def victimReported : List PipelineStep := [
  .kernel (.rewrite .container { TapioConfig.default with
    abiVersion := tapioConfigAbiVersion
    generation := 17
    flags := tapioFContainer }),
  .kernel (.invoke (.markVictim ⟨4242, 100, 20, 3⟩)
    ⟨none, 1000000000, 42, 0, List.Vector.replicate 16 0, true⟩),
  .tick .container none fun _ =>
    ⟨"01HZX", 0, some 536870912, ⟨.nan, .nan, .nan⟩, .ok ()⟩,
  .call .container,
  .delivery (.sink .readLimits),
  .delivery (.sink .recv),
  .delivery (.sink .readLimits),
  .delivery (.sink .timeout),
  .delivery (.post 1700000002000000000 fun attempt =>
    if attempt = 0 then .lost "connect: connection refused" else .answered none),
  .delivery (.sink .finish)]

theorem conserved_always_victimReported :
    ∃ s ∈ (pipelineMachine worker1).exec (pipelineMachine worker1).init victimReported,
      Conserved worker1 s ∧ leftThrough s .delivered = 1 := by
  have hends : ∃ s ∈ (pipelineMachine worker1).exec (pipelineMachine worker1).init
      victimReported, leftThrough s .delivered = 1 := by decide +kernel
  obtain ⟨s, hrun, hdelivered⟩ := hends
  exact ⟨s, hrun, (conserved_always worker1 (by decide +kernel) victimReported).of_exec hrun,
    hdelivered⟩

end Tapio.Pipeline
