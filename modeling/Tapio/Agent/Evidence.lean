/-
# What the observers emit is acceptable evidence

An event that an observer classifies becomes an occurrence, which the controller sink
turns into a wire event, which the controller validates. Whatever the event holds, the
occurrence is valid, the sink can turn it into a wire event, and the controller accepts
that: one event that is refused would take its whole batch with it.

The result rests on what the occurrences of all observers have in common. Their types
have three segments and begin with `kernel`, and their facts are a flat object without
reasoning keys.
-/
import Tapio.Agent.Container
import Tapio.Agent.Network
import Tapio.Agent.Storage
import Tapio.Sink.Timestamps
import Tapio.Wire.Reasoning

namespace Tapio.Agent

open Sink Wire Json

/-! ## Flat facts and kernel types -/

/-- Fields with keys of their own that interpret nothing, and without objects in them. -/
structure PlainFields (fields : List (String × Value)) : Prop where
  nodup : (fields.map Prod.fst).Nodup
  keys : ∀ e ∈ fields, isReasoningKey e.1 = false
  values : ∀ e ∈ fields, ∀ entries, e.2 ≠ .object entries

theorem rejectReasoningFields_of_plain {fields : List (String × Value)}
    (hplain : PlainFields fields) (path : String) :
    rejectReasoningFields path (.object (ofFields fields)) = .ok () := by
  rw [rejectReasoningFields, rejectReasoningEntries_ok_iff]
  intro e he
  have hfield := mem_of_mem_ofFields he
  refine ⟨hplain.keys e hfield, ?_⟩
  rw [rejectReasoningFields_ok_iff]
  exact Value.not_hasKey_field (hplain.values e hfield)

/-- A type of the kernel's whose middle segment is the observer. -/
structure KernelType (observer eventType : String) : Prop where
  segments : Text.split eventType '.' =
    ["kernel", observer, (Text.split eventType '.').getLastD ""]
  anomaly : (Text.split eventType '.').getLastD "" ≠ ""
  observer : Text.trim observer ≠ ""
  kernel : Text.startsWith eventType "kernel."
  nonblank : Text.trim eventType ≠ ""

instance (observer eventType : String) : Decidable (KernelType observer eventType) :=
  decidable_of_iff
    (Text.split eventType '.' = ["kernel", observer, (Text.split eventType '.').getLastD ""] ∧
      (Text.split eventType '.').getLastD "" ≠ "" ∧ Text.trim observer ≠ "" ∧
      Text.startsWith eventType "kernel." ∧ Text.trim eventType ≠ "")
    ⟨fun ⟨hsegments, hanomaly, hobserver, hkernel, hnonblank⟩ =>
      ⟨hsegments, hanomaly, hobserver, hkernel, hnonblank⟩,
      fun h => ⟨h.segments, h.anomaly, h.observer, h.kernel, h.nonblank⟩⟩

theorem KernelType.wellTyped {observer eventType : String} (h : KernelType observer eventType) :
    Common.Occurrence.WellTyped eventType := by
  rw [Common.Occurrence.WellTyped, h.segments]
  refine ⟨rfl, fun segment hmem => ?_⟩
  simp only [List.mem_cons, List.not_mem_nil, or_false] at hmem
  rcases hmem with rfl | rfl | rfl
  · decide
  · exact Text.ne_empty_of_trim_ne h.observer
  · exact h.anomaly

theorem KernelType.observerFromType {observer eventType : String}
    (h : KernelType observer eventType) : observerFromType eventType = .ok observer := by
  rw [Sink.observerFromType, h.segments]
  exact if_pos ⟨rfl, Text.ne_empty_of_trim_ne h.observer⟩

/-! ## Acceptable occurrences -/

/-- The occurrence is valid, the sink can turn it into a wire event, and the controller
accepts that, with the observer of its type and the generation of the config. -/
structure Acceptable (occurrence : Common.Occurrence) (configGeneration : UInt32)
    (event : WireEvent) : Prop where
  valid : occurrence.validate = .ok ()
  sent : occurrenceToWireEvent occurrence.forSink = .ok event
  accepted : event.validate = .ok ()
  observer : (Text.split event.eventType '.')[1]? = some event.observer
  generation : event.facts.get "config_generation" = some (.ofUInt32 configGeneration)

/-- What the occurrences of all observers have in common makes them acceptable. -/
theorem acceptable_of_kernelType {observer eventType : String}
    (htype : KernelType observer eventType) {fields : List (String × Value)}
    (hplain : PlainFields fields) {configGeneration : UInt32}
    (hgeneration : ("config_generation", .ofUInt32 configGeneration) ∈ fields)
    (id timestamp code message : String) (severity : Severity) (outcome : Outcome) :
    ∃ event,
      Acceptable (((Common.Occurrence.new id timestamp eventType severity outcome).withError
        code message).withData (.object (ofFields fields))) configGeneration event ∧
      event.timestampUnixNanos = timestampToUnixNanos timestamp := by
  refine ⟨⟨eventType, timestampToUnixNanos timestamp, observer, mapSeverity severity,
    .object (ofFields fields)⟩, ⟨?_, ?_, ?_, ?_, ?_⟩, rfl⟩
  · have hsource : "tapio" ≠ "" := by decide
    have hprotocol : "1.0" ≠ "" := by decide
    rw [Common.Occurrence.validate_ok_iff]
    exact ⟨hsource, ⟨Text.ne_empty_of_trim_ne htype.nonblank, htype.wellTyped⟩, hprotocol⟩
  · rw [occurrenceToWireEvent]
    change (Sink.observerFromType eventType >>= _) = _
    rw [htype.observerFromType]
    rfl
  · rw [WireEvent.validate_ok_iff]
    exact ⟨htype.nonblank, htype.observer, htype.kernel, rejectReasoningFields_of_plain hplain _⟩
  · change (Text.split eventType '.')[1]? = _
    rw [htype.segments]
    rfl
  · exact lookup_ofFields hplain.nodup hgeneration

/-! ## The observers -/

namespace Container

theorem kernelType_of_classify {event : ContainerEvent} {anomaly : ClassifiedAnomaly}
    (h : classify event = some anomaly) : KernelType "container" anomaly.eventType := by
  have htypes : ∀ eventType ∈ [containerOomKill, containerAbnormalExit],
      KernelType "container" eventType := by decide +kernel
  refine htypes _ ?_
  unfold classify at h
  split at h
  · cases h
    simp
  · split at h
    · split at h
      · cases h
      · cases h
        simp
    · cases h

theorem plainFields_data (event : ContainerEvent) (enriched : Option UInt64) :
    PlainFields (data event enriched) where
  nodup := by simp [data]
  keys := by
    simp only [data, List.forall_mem_cons]
    decide
  values := by simp [data, Value.ofUInt32, Value.ofUInt64, Value.ofInt32]

theorem acceptable_of_classify (id : String) (bootOffsetNs : UInt64)
    (enriched : Option UInt64) {event : ContainerEvent} {anomaly : ClassifiedAnomaly}
    (h : classify event = some anomaly) :
    ∃ wire, Acceptable (buildOccurrence id event anomaly bootOffsetNs enriched)
        event.configGeneration wire ∧
      wire.timestampUnixNanos =
        timestampToUnixNanos (unixNanosToRfc3339 (bootOffsetNs + event.timestampNs)) := by
  have hgeneration : ("config_generation", Value.ofUInt32 event.configGeneration) ∈
      data event enriched := by simp [data]
  exact acceptable_of_kernelType (kernelType_of_classify h) (plainFields_data event enriched)
    hgeneration id _ anomaly.errorCode anomaly.errorMessage anomaly.severity anomaly.outcome

end Container

namespace Network

theorem kernelType_of_classify {event : NetworkEvent} {anomaly : ClassifiedAnomaly}
    (h : classify event = some anomaly) : KernelType "network" anomaly.eventType := by
  have htypes : ∀ eventType ∈ [networkConnectionRefused, networkConnectionTimeout,
      networkRetransmitSpike, networkRttDegradation], KernelType "network" eventType := by
    decide +kernel
  refine htypes _ ?_
  unfold classify at h
  repeat' split at h
  all_goals cases h
  all_goals simp

theorem plainFields_data (event : NetworkEvent) (ebpfEventType : UInt8) :
    PlainFields (data event ebpfEventType) := by
  unfold data typeData
  repeat' split
  all_goals
    constructor
    · simp
    · simp only [List.cons_append, List.nil_append, List.forall_mem_cons]
      decide
    · simp [Value.ofUInt16, Value.ofUInt32, Value.ofUInt64]

theorem acceptable_of_classify (id : String) (nowNanos : UInt64) {event : NetworkEvent}
    {anomaly : ClassifiedAnomaly} (h : classify event = some anomaly) :
    ∃ wire, Acceptable (buildOccurrence id nowNanos event anomaly) event.configGeneration
      wire := by
  have hgeneration : ("config_generation", Value.ofUInt32 event.configGeneration) ∈
      data event anomaly.ebpfEventType := by simp [data]
  obtain ⟨wire, hwire, -⟩ := acceptable_of_kernelType (kernelType_of_classify h)
    (plainFields_data event anomaly.ebpfEventType) hgeneration id (unixNanosToRfc3339 nowNanos)
    anomaly.errorCode anomaly.errorMessage anomaly.severity anomaly.outcome
  exact ⟨wire, hwire⟩

end Network

namespace Storage

theorem kernelType_of_classify {event : StorageEvent} {anomaly : ClassifiedAnomaly}
    (h : classify event = some anomaly) : KernelType "storage" anomaly.eventType := by
  have htypes : ∀ eventType ∈ [storageIoError, storageLatencySpike],
      KernelType "storage" eventType := by decide +kernel
  refine htypes _ ?_
  unfold classify at h
  split at h
  all_goals cases h
  all_goals simp

theorem plainFields_data (f64Bits : ℚ → UInt64) (event : StorageEvent) :
    PlainFields (data f64Bits event) where
  nodup := by simp [data]
  keys := by
    simp only [data, List.forall_mem_cons]
    decide
  values := by simp [data, Value.ofUInt32, Value.ofUInt64, Value.ofInt32]

theorem acceptable_of_classify (f64Bits : ℚ → UInt64) (id : String) (bootOffsetNs : UInt64)
    {event : StorageEvent} {anomaly : ClassifiedAnomaly} (h : classify event = some anomaly) :
    ∃ wire, Acceptable (buildOccurrence f64Bits id event anomaly bootOffsetNs)
        event.configGeneration wire ∧
      wire.timestampUnixNanos =
        timestampToUnixNanos (unixNanosToRfc3339 (bootOffsetNs + event.timestampNs)) := by
  have hgeneration : ("config_generation", Value.ofUInt32 event.configGeneration) ∈
      data f64Bits event := by simp [data]
  exact acceptable_of_kernelType (kernelType_of_classify h) (plainFields_data f64Bits event)
    hgeneration id _ anomaly.errorCode anomaly.errorMessage anomaly.severity anomaly.outcome

end Storage

/-! ### PMC samples -/

namespace NodePmc

def fields (f64Bits : ℚ → UInt64) (data : PmcData) : List (String × Value) := [
  ("cpu", .ofUInt32 data.cpu),
  ("config_generation", .ofUInt32 data.configGeneration),
  ("cycles", .ofUInt64 data.cycles),
  ("instructions", .ofUInt64 data.instructions),
  ("stall_cycles", .ofUInt64 data.stallCycles),
  ("ipc", .number (.float (f64Bits data.ipc))),
  ("stall_pct", .number (.float (f64Bits data.stallPct))),
  ("timestamp_ns", .ofUInt64 data.timestampNs)]

/-- The occurrence as a document. -/
def document (f64Bits : ℚ → UInt64) (id : String) (occurrence : PmcOccurrence) :
    Common.Occurrence :=
  Common.Occurrence.new id occurrence.timestamp occurrence.occurrenceType occurrence.severity
      occurrence.outcome
    |>.withError occurrence.errorCode occurrence.errorMessage
    |>.withData (.object (ofFields (fields f64Bits occurrence.data)))

theorem kernelType_of_classify {event : PmcEvent} {thresholds : PmcThresholds}
    {anomaly : ClassifiedAnomaly} (h : classify event thresholds = some anomaly) :
    KernelType "node" anomaly.eventType := by
  have htypes : ∀ eventType ∈ [nodeCpuStall, nodeMemoryPressure, nodeIpcDegradation],
      KernelType "node" eventType := by decide +kernel
  obtain ⟨pmcClass, -, rfl⟩ := Option.map_eq_some_iff.mp h
  refine htypes _ ?_
  cases pmcClass <;> simp [PmcFigures.anomaly]

theorem plainFields_fields (f64Bits : ℚ → UInt64) (data : PmcData) :
    PlainFields (fields f64Bits data) where
  nodup := by simp [fields]
  keys := by
    simp only [fields, List.forall_mem_cons]
    decide
  values := by simp [fields, Value.ofUInt32, Value.ofUInt64]

/-- The data is a flat object. -/
theorem scalar_fields (f64Bits : ℚ → UInt64) (data : PmcData) :
    ∀ e ∈ fields f64Bits data, Scalar [f64Bits data.ipc, f64Bits data.stallPct] e.2 := by
  simp only [fields, List.forall_mem_cons]
  exact ⟨.ofUInt64 _, .ofUInt64 _, .ofUInt64 _, .ofUInt64 _, .ofUInt64 _,
    .float List.mem_cons_self, .float (List.mem_cons_of_mem _ List.mem_cons_self), .ofUInt64 _,
    List.forall_mem_nil _⟩

theorem acceptable_of_classify (f64Bits : ℚ → UInt64) (id : String) (bootOffsetNs : UInt64)
    {event : PmcEvent} {thresholds : PmcThresholds} {anomaly : ClassifiedAnomaly}
    (h : classify event thresholds = some anomaly) :
    ∃ wire, Acceptable (document f64Bits id (buildOccurrence event anomaly bootOffsetNs))
        event.configGeneration wire ∧
      wire.timestampUnixNanos =
        timestampToUnixNanos (unixNanosToRfc3339 (bootOffsetNs + event.timestamp)) := by
  have hgeneration : ("config_generation", Value.ofUInt32 event.configGeneration) ∈
      fields f64Bits (buildOccurrence event anomaly bootOffsetNs).data := by
    simp [fields, buildOccurrence]
  exact acceptable_of_kernelType (kernelType_of_classify h) (plainFields_fields f64Bits _)
    hgeneration id _ anomaly.errorCode anomaly.errorMessage anomaly.severity anomaly.outcome

end NodePmc

/-! ## All observers -/

/-- An event with what its observer classifies and builds it with besides. -/
inductive ObservedEvent
  | network (event : NetworkEvent) (nowNanos : UInt64)
  | container (event : ContainerEvent) (bootOffsetNs : UInt64) (enriched : Option UInt64)
  | storage (event : StorageEvent) (bootOffsetNs : UInt64)
  | nodePmc (event : PmcEvent) (bootOffsetNs : UInt64) (thresholds : PmcThresholds)

namespace ObservedEvent

def configGeneration : ObservedEvent → UInt32
  | .network event _ => event.configGeneration
  | .container event _ _ => event.configGeneration
  | .storage event _ => event.configGeneration
  | .nodePmc event _ _ => event.configGeneration

/-- The boot offset and the time of the event, for the observers that report it. -/
def kernelTime : ObservedEvent → Option (UInt64 × UInt64)
  | .network _ _ => none
  | .container event bootOffsetNs _ => some (bootOffsetNs, event.timestampNs)
  | .storage event bootOffsetNs => some (bootOffsetNs, event.timestampNs)
  | .nodePmc event bootOffsetNs _ => some (bootOffsetNs, event.timestamp)

/-- What its observer emits of an event. -/
def emitted (f64Bits : ℚ → UInt64) (id : String) : ObservedEvent → Option Common.Occurrence
  | .network event nowNanos =>
      (Network.classify event).map fun anomaly =>
        Network.buildOccurrence id nowNanos event anomaly
  | .container event bootOffsetNs enriched =>
      (Container.classify event).map fun anomaly =>
        Container.buildOccurrence id event anomaly bootOffsetNs enriched
  | .storage event bootOffsetNs =>
      (Storage.classify event).map fun anomaly =>
        Storage.buildOccurrence f64Bits id event anomaly bootOffsetNs
  | .nodePmc event bootOffsetNs thresholds =>
      (classify event thresholds).map fun anomaly =>
        NodePmc.document f64Bits id (buildOccurrence event anomaly bootOffsetNs)

end ObservedEvent

/-- The time of an occurrence that is written of a boot offset and a time since boot. -/
theorem kernelTime_read (bootOffsetNs time : UInt64) :
    (timestampToUnixNanos (unixNanosToRfc3339 (bootOffsetNs + time))).toNat =
      (bootOffsetNs.toNat + time.toNat) % 2 ^ 64 := by
  obtain ⟨year, month, day, clock, fraction, hwritten, htext⟩ :=
    exists_writtenMoment (bootOffsetNs + time)
  rw [htext, hwritten.read, UInt64.toNat_add]

/-- **Everything the observers emit is acceptable evidence**, and it has the time of the
kernel's event where the observer reports that. -/
theorem acceptable_of_emitted (f64Bits : ℚ → UInt64) (id : String) (e : ObservedEvent)
    {occurrence : Common.Occurrence} (h : e.emitted f64Bits id = some occurrence) :
    ∃ event, Acceptable occurrence e.configGeneration event ∧
      ∀ bootOffsetNs time, e.kernelTime = some (bootOffsetNs, time) →
        event.timestampUnixNanos.toNat = (bootOffsetNs.toNat + time.toNat) % 2 ^ 64 := by
  cases e with
  | network event nowNanos =>
      obtain ⟨anomaly, hanomaly, rfl⟩ := Option.map_eq_some_iff.mp h
      obtain ⟨wire, hwire⟩ := Network.acceptable_of_classify id nowNanos hanomaly
      exact ⟨wire, hwire, nofun⟩
  | container event bootOffsetNs enriched =>
      obtain ⟨anomaly, hanomaly, rfl⟩ := Option.map_eq_some_iff.mp h
      obtain ⟨wire, hwire, htime⟩ :=
        Container.acceptable_of_classify id bootOffsetNs enriched hanomaly
      refine ⟨wire, hwire, ?_⟩
      rintro _ _ ⟨⟩
      rw [htime, kernelTime_read]
  | storage event bootOffsetNs =>
      obtain ⟨anomaly, hanomaly, rfl⟩ := Option.map_eq_some_iff.mp h
      obtain ⟨wire, hwire, htime⟩ :=
        Storage.acceptable_of_classify f64Bits id bootOffsetNs hanomaly
      refine ⟨wire, hwire, ?_⟩
      rintro _ _ ⟨⟩
      rw [htime, kernelTime_read]
  | nodePmc event bootOffsetNs thresholds =>
      obtain ⟨anomaly, hanomaly, rfl⟩ := Option.map_eq_some_iff.mp h
      obtain ⟨wire, hwire, htime⟩ :=
        NodePmc.acceptable_of_classify f64Bits id bootOffsetNs hanomaly
      refine ⟨wire, hwire, ?_⟩
      rintro _ _ ⟨⟩
      rw [htime, kernelTime_read]

/-- A process that was killed by a signal. -/
def killedExit : ContainerEvent where
  configGeneration := 17
  memoryLimit := 0
  memoryUsage := 0
  timestampNs := 1000000000
  cgroupId := 42
  eventType := containerEventExit
  pid := 1234
  tid := 1234
  exitCode := 0
  signal := 9

theorem acceptable_of_emitted_killedExit :
    ∃ occurrence event,
      (ObservedEvent.container killedExit 1700000000000000000 (some 536870912)).emitted
        (fun _ => 0) "01HZX" = some occurrence ∧
      Acceptable occurrence 17 event ∧ event.timestampUnixNanos.toNat = 1700000001000000000 := by
  obtain ⟨event, hacceptable, htime⟩ := acceptable_of_emitted (fun _ => 0) "01HZX"
    (.container killedExit 1700000000000000000 (some 536870912)) rfl
  exact ⟨_, event, rfl, hacceptable, htime _ _ rfl⟩

end Tapio.Agent
