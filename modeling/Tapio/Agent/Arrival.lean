/-
# What the observers emit arrives

The facts of an occurrence are a flat object. A batch of such events is posted as text, and
the controller accepts all of it. The floats among the facts, a latency or a ratio, may be
read as others than were printed; that does not matter to what is checked and counted.
-/
import Tapio.Agent.Evidence
import Tapio.Controller.Router

namespace Tapio.Agent

open Sink Wire Json Controller

/-! ## Flat facts -/

theorem flatData_of_emitted {f64Bits : ℚ → UInt64} {id : String} {e : ObservedEvent}
    {occurrence : Common.Occurrence} (h : e.emitted f64Bits id = some occurrence) :
    ∃ fields floats, occurrence.data = some (.object (ofFields fields)) ∧
      ∀ field ∈ fields, Scalar floats field.2 := by
  cases e with
  | network event nowNanos =>
      obtain ⟨anomaly, -, rfl⟩ := Option.map_eq_some_iff.mp h
      exact ⟨_, [], rfl, Network.scalar_data event anomaly.ebpfEventType⟩
  | container event bootOffsetNs enriched =>
      obtain ⟨anomaly, -, rfl⟩ := Option.map_eq_some_iff.mp h
      exact ⟨_, [], rfl, Container.scalar_data event enriched⟩
  | storage event bootOffsetNs =>
      obtain ⟨anomaly, -, rfl⟩ := Option.map_eq_some_iff.mp h
      exact ⟨_, _, rfl, Storage.scalar_data f64Bits event⟩
  | nodePmc event bootOffsetNs thresholds =>
      obtain ⟨anomaly, -, rfl⟩ := Option.map_eq_some_iff.mp h
      exact ⟨_, _, rfl,
        NodePmc.scalar_fields f64Bits (buildOccurrence event anomaly bootOffsetNs).data⟩

/-- The wire event is what the sink makes of what an observer emits of the event. -/
def ObservedEvent.SentAs (f64Bits : ℚ → UInt64) (e : ObservedEvent) (event : WireEvent) : Prop :=
  ∃ id occurrence, e.emitted f64Bits id = some occurrence ∧
    occurrenceToWireEvent occurrence.forSink = .ok event

variable {f64Bits : ℚ → UInt64}

theorem facts_of_sent {occurrence : Sink.Occurrence} {event : WireEvent}
    (h : occurrenceToWireEvent occurrence = .ok event) :
    event.facts = occurrence.data.getD (.object []) := by
  rw [occurrenceToWireEvent] at h
  cases hobserver : observerFromType occurrence.occurrenceType with
  | error e =>
      rw [hobserver] at h
      cases h
  | ok observer =>
      rw [hobserver] at h
      cases h
      rfl

theorem writable_of_sentAs {e : ObservedEvent} {event : WireEvent} (h : e.SentAs f64Bits event) :
    Writable maxFactsDepth event.facts := by
  obtain ⟨id, occurrence, hemitted, hsent⟩ := h
  obtain ⟨fields, floats, hdata, hscalar⟩ := flatData_of_emitted hemitted
  have hfacts : event.facts = .object (ofFields fields) := by
    rw [facts_of_sent hsent, Common.Occurrence.forSink, hdata]
    rfl
  rw [hfacts]
  exact writable_ofFields hscalar

theorem exists_acceptable {id : String} {e : ObservedEvent} {occurrence : Common.Occurrence}
    (h : e.emitted f64Bits id = some occurrence) :
    ∃ event, Acceptable occurrence e.configGeneration event := by
  cases e with
  | network event nowNanos =>
      obtain ⟨anomaly, hanomaly, rfl⟩ := Option.map_eq_some_iff.mp h
      exact Network.acceptable_of_classify id nowNanos hanomaly
  | container event bootOffsetNs enriched =>
      obtain ⟨anomaly, hanomaly, rfl⟩ := Option.map_eq_some_iff.mp h
      exact (Container.acceptable_of_classify id bootOffsetNs enriched hanomaly).imp fun _ => And.left
  | storage event bootOffsetNs =>
      obtain ⟨anomaly, hanomaly, rfl⟩ := Option.map_eq_some_iff.mp h
      exact (Storage.acceptable_of_classify f64Bits id bootOffsetNs hanomaly).imp fun _ => And.left
  | nodePmc event bootOffsetNs thresholds =>
      obtain ⟨anomaly, hanomaly, rfl⟩ := Option.map_eq_some_iff.mp h
      exact (NodePmc.acceptable_of_classify f64Bits id bootOffsetNs hanomaly).imp fun _ => And.left

theorem validate_of_sentAs {e : ObservedEvent} {event : WireEvent} (h : e.SentAs f64Bits event) :
    event.validate = .ok () := by
  obtain ⟨id, occurrence, hemitted, hsent⟩ := h
  obtain ⟨accepted, hacceptable⟩ := exists_acceptable hemitted
  have hsame : accepted = event := Except.ok.inj (hacceptable.sent.symm.trans hsent)
  exact hsame ▸ hacceptable.accepted

/-! ## The controller's answer -/

/-- **What the observers emit arrives**: if the framework reads what was written, up to the
floats, the controller reads the batch that was posted and accepts all of its events. -/
theorem route_of_sentAs {framework : Framework} {format : FloatFormat}
    {rounded : UInt64 → UInt64} (hframework : framework.ReadsBack format rounded)
    (f64Bits : ℚ → UInt64) {sent : List WireEvent}
    (h : ∀ event ∈ sent, ∃ e : ObservedEvent, e.SentAs f64Bits event)
    (worker : Worker) (controller : ControllerConfig) (sentAtUnixNanos : UInt64)
    (now : SystemTime) (inner : InnerState) (hagent : Text.trim controller.agentId ≠ "")
    (hnode : Text.trim controller.nodeName ≠ "") (hne : sent ≠ [])
    (hmax : sent.length ≤ inner.config.batching.maxBatchEvents.toNat)
    (hsize : ((worker.request controller sentAtUnixNanos sent).toVec format).length ≤
      maxRequestBodyBytes) :
    let request := worker.request controller sentAtUnixNanos sent
    framework.readEvents (request.toVec format) = some (request.mapFloats rounded) ∧
      route framework now (posted "/v1/events" (request.toVec format)) inner =
        (updateSequenceTracking controller.agentId worker.sequence
          { inner with
            acceptedEventsTotal := inner.acceptedEventsTotal + sent.length
            batchesAcceptedTotal := inner.batchesAcceptedTotal + 1 },
          ⟨200, none, EventBatchResponse.encode {
            wireVersion := Wire.wireVersion
            accepted := UInt64.ofNat sent.length
            rejected := 0
            nextConfigVersion := inner.config.version }⟩) := by
  intro request
  have hwritable : request.Writable := by
    intro event hevent
    obtain ⟨e, hsent⟩ := h event hevent
    exact writable_of_sentAs hsent
  have hvalid : request.validate inner.config.batching.maxBatchEvents.toNat = .ok () := by
    rw [EventBatchRequest.validate_ok_iff]
    refine ⟨rfl, hagent, hnode, hne, hmax, fun event hevent => ?_⟩
    obtain ⟨e, hsent⟩ := h event hevent
    exact validate_of_sentAs hsent
  have hrecord : recordEventBatch request inner = (updateSequenceTracking controller.agentId
      worker.sequence
      { inner with
        acceptedEventsTotal := inner.acceptedEventsTotal + sent.length
        batchesAcceptedTotal := inner.batchesAcceptedTotal + 1 },
      .ok ⟨Wire.wireVersion, UInt64.ofNat sent.length, 0, inner.config.version⟩) := by
    rw [recordEventBatch, hvalid]
    rfl
  refine ⟨hframework.events request hwritable, ?_⟩
  rw [route_eventBatchRequest hframework now inner hwritable hsize, hrecord, answerWith]

/-! ## A float that is read as another -/

/-- An exit that no signal and no memory limit had a part in. -/
def abnormalExit : ContainerEvent where
  configGeneration := 3
  memoryLimit := 0
  memoryUsage := 0
  timestampNs := 5000000000
  cgroupId := 7
  eventType := containerEventExit
  pid := 77
  tid := 77
  exitCode := 2
  signal := 0

def abnormalExitEvent : WireEvent where
  eventType := "kernel.container.abnormal_exit"
  timestampUnixNanos := 1700000005000000000
  observer := "container"
  severity := .warning
  facts := .object (ofFields (Container.data abnormalExit none))

/-- A processor that stands still for 1400 of 1500 cycles. -/
def stalled : PmcEvent where
  configGeneration := 3
  cpu := 2
  cycles := 1500
  instructions := 750
  stallCycles := 1400
  timestamp := 6000000000

/-- The bits of 0.5, of 93.33333333333333 and of the float below. -/
def half : UInt64 := 4602678819172646912

def stallPrinted : UInt64 := 4636268166393451861

def stallRead : UInt64 := 4636268166393451860

def stalledEvent : WireEvent where
  eventType := "kernel.node.cpu_stall"
  timestampUnixNanos := 1700000006000000000
  observer := "node"
  severity := .critical
  facts := .object (ofFields [
    ("cpu", .ofUInt32 2),
    ("config_generation", .ofUInt32 3),
    ("cycles", .ofUInt64 1500),
    ("instructions", .ofUInt64 750),
    ("stall_cycles", .ofUInt64 1400),
    ("ipc", .number (.float half)),
    ("stall_pct", .number (.float stallPrinted)),
    ("timestamp_ns", .ofUInt64 6000000000)])

def stalledBits (x : ℚ) : UInt64 := if x = 1 / 2 then half else stallPrinted

/-- Both floats as they are printed. -/
def stalledFormat : FloatFormat where
  text bits :=
    if bits = half then encodeNat 0 ++ ['.', '5']
    else encodeNat 93 ++ '.' :: List.replicate 14 '3'
  text_ne_nil bits := by split <;> simp

def stalledRounded (bits : UInt64) : UInt64 := if bits = half then half else stallRead

def stalledRead (text : List Char) : Option UInt64 :=
  if text = encodeNat 0 ++ ['.', '5'] then some half else some stallRead

theorem text_stalledRounded (bits : UInt64) :
    stalledFormat.text (stalledRounded bits) = stalledFormat.text bits := by
  have hne : stallRead ≠ half := by decide
  by_cases hbits : bits = half <;> simp [stalledFormat, stalledRounded, hbits, hne]

theorem readable_stalledRounded (bits : UInt64) :
    (Number.float (stalledRounded bits)).Readable stalledFormat stalledRead := by
  rw [stalledRounded]
  split
  · exact Number.readable_decimal rfl (by decide) (by simp) rfl
  · exact Number.readable_decimal rfl (by decide) (by simp) rfl

/-- A framework that reads 93.33333333333333 as the float below. -/
def stalledFramework : Framework := .strict stalledRead fun _ => ""

/-- The fifth batch of a worker. -/
def fifthBatch : EventBatchRequest :=
  (Worker.mk 4 []).request ⟨"node/worker-1", "worker-1"⟩ 1700000007000000000
    [abnormalExitEvent, stalledEvent]

theorem length_utf8_le {text : List Char} {bound : ℕ}
    (h : (text.all fun c => c.toNat < 128) ∧ text.length ≤ bound) : (utf8 text).length ≤ bound :=
  (byteLen_of_ascii h.1).trans_le h.2

theorem length_fifthBatch : (fifthBatch.toVec stalledFormat).length ≤ maxRequestBodyBytes :=
  length_utf8_le (by decide +kernel)

theorem sentAs_abnormalExitEvent :
    (ObservedEvent.container abnormalExit 1700000000000000000 none).SentAs stalledBits
      abnormalExitEvent :=
  ⟨"01J", _, rfl, rfl⟩

theorem sentAs_stalledEvent :
    (ObservedEvent.nodePmc stalled 1700000000000000000 .default).SentAs stalledBits
      stalledEvent := by
  have hclassify : classify stalled .default = some {
      eventType := nodeCpuStall
      severity := .critical
      outcome := .inProgress
      errorCode := "CPU_STALL"
      errorMessage := "CPU 2 stall 93.3% (ipc=0.50)" } := by decide +kernel
  have hipc : stalledBits stalled.ipc = half := by decide +kernel
  have hstall : stalledBits stalled.stallPct = stallPrinted := by decide +kernel
  refine ⟨"01J", _, congrArg (Option.map _) hclassify, ?_⟩
  simp only [NodePmc.document, NodePmc.fields, buildOccurrence, hipc, hstall]
  rfl

theorem route_of_sentAs_fifthBatch :
    stalledFramework.readEvents (fifthBatch.toVec stalledFormat) =
        some (fifthBatch.mapFloats stalledRounded) ∧
      route stalledFramework 0 (posted "/v1/events" (fifthBatch.toVec stalledFormat))
          (InnerState.new ConfigResponse.defaultV1 0) =
        (updateSequenceTracking "node/worker-1" 4
          { InnerState.new ConfigResponse.defaultV1 0 with
            acceptedEventsTotal := 2
            batchesAcceptedTotal := 1 },
          ⟨200, none, EventBatchResponse.encode ⟨"tapio-wire/v1", 2, 0, "1"⟩⟩) := by
  have hframework : stalledFramework.ReadsBack stalledFormat stalledRounded :=
    Framework.readsBack_strict text_stalledRounded readable_stalledRounded _
  refine route_of_sentAs hframework stalledBits ?_ ⟨4, []⟩ ⟨"node/worker-1", "worker-1"⟩
    1700000007000000000 0 (InnerState.new ConfigResponse.defaultV1 0) (by decide) (by decide)
    (List.cons_ne_nil _ _) (by decide) length_fifthBatch
  exact List.forall_mem_cons.mpr ⟨⟨_, sentAs_abnormalExitEvent⟩,
    List.forall_mem_singleton.mpr ⟨_, sentAs_stalledEvent⟩⟩

end Tapio.Agent
