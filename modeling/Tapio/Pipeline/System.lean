/-
# The whole pipeline

From the probes to the controller: the probes of the four observers submit events into one
ring buffer each, under config maps that userspace may rewrite at any time; every observer
drains its ring buffer tick by tick and sends an occurrence of each anomaly; the four send
through one controller sink, whose worker posts batches over a network that loses; and the
controller accepts or rejects them. The parties take their steps in any order.

A tick makes its calls of `send` one after the other, and the calls of other observers may
come in between, so a call is a step of its own. An observer does not begin its next tick
before the last one has made all its calls.
-/
import Tapio.Controller.Delivery
import Tapio.Pipeline.Records
import Tapio.Sink.Order

namespace Tapio.Pipeline

open Layout Agent Ebpf Sink Wire Controller Transition

structure PipelineParams where
  surface : Surface
  sink : SinkParams
  /-- What the controller serves, and when it has started. -/
  config : ConfigResponse
  startedAt : SystemTime

structure PipelineRun where
  kernel : KernelRun
  loops : Observer → LoopState
  /-- How many of the calls that the loop of an observer makes have been made. -/
  called : Observer → ℕ
  delivery : DeliveryRun

inductive PipelineStep
  | kernel (step : KernelStep)
  | tick (observer : Observer) (readings : Option ObserverLoop.Readings)
      (around : ℕ → Surroundings)
  /-- The next call of `sink.send` of an observer. -/
  | call (observer : Observer)
  /-- A step of the sink, the network or the controller. -/
  | delivery (step : DeliveryStep)

/-- The events that a step of the kernel submits, and the observer whose they are. -/
def submission (kernel : KernelRun) : KernelStep → Option (Observer × List KernelEvent)
  | .invoke call inv =>
      some (call.observer,
        (call.run { inv with configMap := some (kernel.configs call.observer) } kernel.maps).2)
  | _ => none

/-- The events arrive in the ring buffer of their observer. -/
def arrive (p : Surface) (loops : Observer → LoopState) :
    Option (Observer × List KernelEvent) → Observer → LoopState
  | none => loops
  | some (observer, events) =>
      Function.update loops observer
        (loopStep (p.loop observer) (loops observer) (.arrive (events.map (record p.endian))))

/-- Whether a step sends an occurrence to the sink. -/
def isSend : DeliveryStep → Bool
  | .sink (.send _) => true
  | _ => false

def pipelineStep (p : PipelineParams) (s : PipelineRun) : PipelineStep → Option PipelineRun
  | .kernel step =>
      some { s with
        kernel := kernelStep s.kernel step
        loops := arrive p.surface s.loops (submission s.kernel step) }
  | .tick observer readings around =>
      if s.called observer = (s.loops observer).sent.length then
        some { s with
          loops := Function.update s.loops observer
            (loopStep (p.surface.loop observer) (s.loops observer) (.tick readings around)) }
      else none
  | .call observer =>
      match (s.loops observer).sent[s.called observer]? with
      | none => none
      | some (occurrence, _) =>
          (deliveryStep p.sink s.delivery (.sink (.send occurrence.forSink))).map fun delivery =>
            { s with
              delivery := delivery
              called := Function.update s.called observer (s.called observer + 1) }
  | .delivery step =>
      if isSend step then none
      else (deliveryStep p.sink s.delivery step).map fun delivery =>
        { s with delivery := delivery }

def pipelineMachine (p : PipelineParams) : Machine PipelineRun PipelineStep where
  init :=
    ⟨kernelMachine.init, fun _ => LoopState.new TapioMetrics.new, fun _ => 0,
      (deliveryMachine p.sink p.config p.startedAt).init⟩
  step := pipelineStep p

/-! ## What the past of a run amounts to -/

/-- The events that the probes of an observer have submitted, oldest first. -/
def submittedBy (kernel : KernelRun) (observer : Observer) : List KernelEvent :=
  kernel.invoked.reverse.flatMap fun m => if m.call.observer = observer then m.events else []

/-- The occurrences that an observer has sent, oldest first. -/
def PipelineRun.calls (s : PipelineRun) (observer : Observer) : List Common.Occurrence :=
  ((s.loops observer).sent.map Prod.fst).take (s.called observer)

/-- The events of an observer that have got into the sink's queue, in order. -/
def PipelineRun.streamOf (s : PipelineRun) (observer : Observer) : List WireEvent :=
  s.delivery.sink.stream.filter fun event => event.observer = wireName observer

/-- The part of a submission that concerns an observer. -/
def concerning (observer : Observer) : Option (Observer × List KernelEvent) → List KernelEvent
  | some (source, events) => if source = observer then events else []
  | none => []

theorem submittedBy_kernelStep (kernel : KernelRun) (step : KernelStep) (observer : Observer) :
    submittedBy (kernelStep kernel step) observer =
      submittedBy kernel observer ++ concerning observer (submission kernel step) := by
  cases step with
  | invoke call inv => simp [submittedBy, kernelStep, submission, concerning]
  | _ => exact (List.append_nil _).symm

theorem arrive_eq (p : Surface) (loops : Observer → LoopState)
    (submitted : Option (Observer × List KernelEvent)) (observer : Observer) :
    arrive p loops submitted observer =
      loopStep (p.loop observer) (loops observer)
        (.arrive ((concerning observer submitted).map (record p.endian))) := by
  rcases submitted with _ | ⟨source, events⟩
  · simp [arrive, concerning, loopStep]
  · by_cases hsource : source = observer
    · subst hsource
      simp [arrive, concerning]
    · simp [arrive, concerning, hsource, Function.update_of_ne (Ne.symm hsource), loopStep]

/-! ## Steps of an observer -/

/-- What a step of the loop does to the past: it adds to what has been taken and leaves what
has arrived. -/
structure Later (s t : LoopState) : Prop where
  taken : s.taken <+: t.taken
  arrived : t.arrived = s.arrived

theorem Later.trans {s t u : LoopState} (h : Later s t) (h' : Later t u) : Later s u :=
  ⟨h.taken.trans h'.taken, h'.arrived.trans h.arrived⟩

theorem later_drain (p : ObserverLoop) (around : ℕ → Surroundings) (s : LoopState) (count : ℕ)
    (ring : List Record) : Later s (p.drain around s count ring).1 := by
  induction ring generalizing s count with
  | nil => exact ⟨List.prefix_rfl, rfl⟩
  | cons data rest ih =>
      obtain ⟨hframe, htaken⟩ := p.handleRecord_frame s data (around count)
      have hlater : Later s (p.handleRecord s data (around count)) := by
        refine ⟨?_, congrArg Elsewhere.arrived hframe⟩
        rw [htaken]
        exact List.prefix_append _ _
      rw [ObserverLoop.drain]
      split
      · exact ⟨hlater.taken, hlater.arrived⟩
      · exact hlater.trans (ih _ _)

theorem later_tick (p : ObserverLoop) (s : LoopState) (readings : Option ObserverLoop.Readings)
    (around : ℕ → Surroundings) : Later s (p.tick s readings around) := by
  have hcap : ∀ (s : LoopState) (count : ℕ), Later s (p.countCap s count) := by
    intro s count
    simp only [ObserverLoop.countCap]
    split <;> exact ⟨List.prefix_rfl, rfl⟩
  have hcounters : ∀ (s : LoopState) (readings : ObserverLoop.Readings),
      Later s (p.checkCounters s readings) := by
    intro s readings
    have hhandling := p.checkCounters_handling s readings
    have htaken : (p.checkCounters s readings).taken = s.taken :=
      congrArg Handling.taken hhandling
    exact ⟨htaken ▸ List.prefix_rfl, congrArg Handling.arrived hhandling⟩
  have hcounted : Later s { s with tickCount := s.tickCount + 1 } := ⟨List.prefix_rfl, rfl⟩
  unfold ObserverLoop.tick
  dsimp only
  cases readings with
  | none => exact (hcounted.trans (later_drain p around _ 0 _)).trans (hcap _ _)
  | some readings =>
      dsimp only
      split
      · exact ((hcounted.trans (hcounters _ readings)).trans
          (later_drain p around _ 0 _)).trans (hcap _ _)
      · exact (hcounted.trans (later_drain p around _ 0 _)).trans (hcap _ _)

/-- A tick only adds to the calls that a loop makes. -/
theorem sent_prefix_tick {p : ObserverLoop} {s : LoopState} (h : LoopInvariant p s)
    (readings : Option ObserverLoop.Readings) (around : ℕ → Surroundings) :
    s.sent.map Prod.fst <+: (p.tick s readings around).sent.map Prod.fst := by
  rw [h.counted.sent, (h.tick readings around).counted.sent]
  exact ((later_tick p s readings around).taken.filterMap _).map _

/-! ## Steps of the sink and the network -/

theorem postNext_of_deliveryStep {p : SinkParams} {s t : DeliveryRun} {sentAtUnixNanos : UInt64}
    {fates : ℕ → Fate} (hstep : deliveryStep p s (.post sentAtUnixNanos fates) = some t) :
    ∃ replies, sinkStep p s.sink (.post sentAtUnixNanos replies) = some t.sink := by
  simp only [deliveryStep] at hstep
  split at hstep
  · next cause events rest lastError hphase =>
      cases hstep
      have hpost : ∀ replies, sinkStep p s.sink (.post sentAtUnixNanos replies) =
          some (s.sink.postNext p cause events rest lastError sentAtUnixNanos replies) := by
        intro replies
        rw [sinkStep, hphase]
      exact ⟨_, hpost _⟩
  · cases hstep

/-- What a step other than a call of `send` does to the sink. -/
theorem sink_of_deliveryStep {p : SinkParams} {s t : DeliveryRun} {a : DeliveryStep}
    (hsend : isSend a = false) (hstep : deliveryStep p s a = some t) :
    t.sink = s.sink ∨
      ∃ step, isSend (.sink step) = false ∧ sinkStep p s.sink step = some t.sink := by
  cases a with
  | sink step =>
      obtain ⟨-, hstep⟩ := Option.ite_none_left_eq_some.mp hstep
      obtain ⟨sink, hsink, rfl⟩ := Option.map_eq_some_iff.mp hstep
      exact .inr ⟨step, hsend, hsink⟩
  | post sentAtUnixNanos fates =>
      obtain ⟨replies, hsink⟩ := postNext_of_deliveryStep hstep
      exact .inr ⟨.post sentAtUnixNanos replies, rfl, hsink⟩
  | arrive index =>
      simp only [deliveryStep] at hstep
      split at hstep
      · obtain ⟨-, hstep⟩ := Option.ite_none_right_eq_some.mp hstep
        cases hstep
        exact .inl rfl
      · cases hstep
  | request request =>
      obtain ⟨-, hstep⟩ := Option.ite_none_left_eq_some.mp hstep
      cases hstep
      exact .inl rfl

/-- What a call of `send` does. -/
theorem sink_of_call {p : SinkParams} {s t : DeliveryRun} {occurrence : Sink.Occurrence}
    (hstep : deliveryStep p s (.sink (.send occurrence)) = some t) :
    sinkStep p s.sink (.send occurrence) = some t.sink := by
  have hpost : ¬ isPost (.send occurrence) = true := Bool.false_ne_true
  rw [deliveryStep, if_neg hpost] at hstep
  obtain ⟨sink, hsink, rfl⟩ := Option.map_eq_some_iff.mp hstep
  exact hsink

theorem enqueued_of_not_send (p : SinkParams) (s : SinkState) {step : SinkStep}
    (hsend : isSend (.sink step) = false) : enqueued p s step = none := by
  cases step with
  | send occurrence => cases hsend
  | _ => rfl

/-- Only `send` puts events into the stream. -/
theorem stream_of_deliveryStep {p : SinkParams} {s t : DeliveryRun} {a : DeliveryStep}
    (hsend : isSend a = false) (hstep : deliveryStep p s a = some t) :
    t.sink.stream = s.sink.stream := by
  rcases sink_of_deliveryStep hsend hstep with hsame | ⟨step, hother, hsink⟩
  · rw [hsame]
  · rw [stream_of_step hsink, enqueued_of_not_send p s.sink hother]
    exact List.append_nil _

/-- What a call of `send` does to the stream. -/
theorem stream_of_call {p : SinkParams} {s t : DeliveryRun} {occurrence : Common.Occurrence}
    (hstep : deliveryStep p s (.sink (.send occurrence.forSink)) = some t) :
    t.sink.stream = s.sink.stream ∨
      t.sink.stream = s.sink.stream ++ (wireOf occurrence).toList := by
  have hstream := stream_of_step (sink_of_call hstep)
  rw [enqueued] at hstream
  split at hstream
  · exact .inr hstream
  · exact .inl (hstream.trans (List.append_nil _))

end Tapio.Pipeline
