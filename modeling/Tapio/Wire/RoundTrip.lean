/-
# What is sent is what is received

Every message of the protocol is read from its serialization as the message it was. The
facts of an event are any value that its sender holds in memory: its objects are maps, it is
not nested deeper than the reader goes, and its floats are read as they are printed. The
steps of an exchange can so hand over the messages themselves.
-/
import Tapio.Json.Ordered
import Tapio.Json.Written
import Tapio.Wire.Deserialize
import Tapio.Wire.EventEncoding
import Tapio.Wire.RequestEncoding
import Tapio.Wire.ResponseEncoding

namespace Tapio.Wire

open Json

variable {format : FloatFormat} {readFloat : List Char → Option UInt64} {depth : ℕ}

/-! ## Registrations -/

def HelloRequest.toValue (req : HelloRequest) : Value :=
  .object [
    ("wire_version", .string req.wireVersion),
    ("agent_id", .string req.agentId),
    ("node_name", .string req.nodeName),
    ("tapio_version", .string req.tapioVersion),
    ("kernel_release", .string req.kernelRelease),
    ("arch", .string req.arch),
    ("capabilities", .array (req.capabilities.map .string)),
    ("object_sizes", .ofMap .ofUInt64 req.objectSizes),
    ("map_counts", .ofMap .ofUInt64 req.mapCounts)]

theorem HelloRequest.writtenAs (req : HelloRequest) :
    WrittenAs format readFloat (depth + 2) req.toValue req.encode := by
  refine writtenAs_object ?_
  have hcapabilities : WrittenAs format readFloat (depth + 1)
      (.array (req.capabilities.map .string)) (encodeArray (req.capabilities.map encodeString)) :=
    writtenAs_array fun s _ => writtenAs_string s
  have hmap (map : BTreeMap String UInt64) : WrittenAs format readFloat (depth + 1)
      (.ofMap .ofUInt64 map) (encodeMap (fun n => encodeNat n.toNat) map) :=
    writtenAs_ofMap writtenAs_ofUInt64 map
  simp [SameKey, hcapabilities, hmap]

theorem HelloRequest.deserialize_toValue (req : HelloRequest) :
    deserialize req.toValue = some req := by
  have hcapabilities : readList readString (.array (req.capabilities.map .string)) =
      some req.capabilities :=
    readList_map fun s _ => readString_string s
  have hmap (map : BTreeMap String UInt64) : readMap readUInt64 (.ofMap .ofUInt64 map) = some map :=
    readMap_ofMap readUInt64_ofUInt64 map
  rw [deserialize, toValue, readStruct_object (by simp [names]) (by simp)]
  simp [member, memberOr, lookup_entry, hcapabilities, hmap]

def HelloResponse.toValue (res : HelloResponse) : Value :=
  .object [
    ("wire_version", .string res.wireVersion),
    ("accepted", .bool res.accepted),
    ("controller_id", .string res.controllerId),
    ("config_version", .string res.configVersion),
    ("send_interval_ms", .ofUInt64 res.sendIntervalMs),
    ("max_batch_events", .ofUInt64 res.maxBatchEvents)]

theorem HelloResponse.writtenAs (res : HelloResponse) :
    WrittenAs format readFloat (depth + 1) res.toValue res.encode := by
  refine writtenAs_object ?_
  simp [SameKey, fields]

theorem HelloResponse.deserialize_toValue (res : HelloResponse) :
    deserialize res.toValue = some res := by
  rw [deserialize, toValue, readStruct_object (by simp [names]) (by simp)]
  simp [member, lookup_entry]

/-! ## Configs -/

def CompiledNetwork.toValue (network : CompiledNetwork) : Value :=
  .object [
    ("enabled", .bool network.enabled),
    ("rtt_spike_ratio", .ofUInt32 network.rttSpikeRatio),
    ("rtt_spike_abs_us", .ofUInt32 network.rttSpikeAbsUs),
    ("rtt_min_baseline_samples", .ofUInt32 network.rttMinBaselineSamples),
    ("conn_refused_window_ns", .ofUInt64 network.connRefusedWindowNs),
    ("conn_refused_min_count", .ofUInt32 network.connRefusedMinCount)]

def CompiledStorage.toValue (storage : CompiledStorage) : Value :=
  .object [
    ("enabled", .bool storage.enabled),
    ("slow_io_warning_ns", .ofUInt64 storage.slowIoWarningNs),
    ("slow_io_critical_ns", .ofUInt64 storage.slowIoCriticalNs)]

def CompiledContainer.toValue (container : CompiledContainer) : Value :=
  .object [
    ("enabled", .bool container.enabled),
    ("ignore_exit_codes", .array (container.ignoreExitCodes.map .ofInt32))]

def CompiledNodePmc.toValue (nodePmc : CompiledNodePmc) : Value :=
  .object [
    ("enabled", .bool nodePmc.enabled),
    ("stall_warning_permille", .ofUInt32 nodePmc.stallWarningPermille),
    ("stall_critical_permille", .ofUInt32 nodePmc.stallCriticalPermille),
    ("ipc_degradation_milli", .ofUInt32 nodePmc.ipcDegradationMilli)]

def CompiledConfig.toValue (config : CompiledConfig) : Value :=
  .object [
    ("network", config.network.toValue),
    ("storage", config.storage.toValue),
    ("container", config.container.toValue),
    ("node_pmc", config.nodePmc.toValue)]

def BatchingConfig.toValue (batching : BatchingConfig) : Value :=
  .object [
    ("send_interval_ms", .ofUInt64 batching.sendIntervalMs),
    ("max_batch_events", .ofUInt64 batching.maxBatchEvents)]

def ConfigResponse.toValue (res : ConfigResponse) : Value :=
  .object [
    ("wire_version", .string res.wireVersion),
    ("version", .string res.version),
    ("config_hash", .string res.configHash),
    ("config", res.config.toValue),
    ("batching", res.batching.toValue)]

theorem CompiledNetwork.writtenAs (network : CompiledNetwork) :
    WrittenAs format readFloat (depth + 1) network.toValue network.encode := by
  refine writtenAs_object ?_
  simp [SameKey]

theorem CompiledStorage.writtenAs (storage : CompiledStorage) :
    WrittenAs format readFloat (depth + 1) storage.toValue storage.encode := by
  refine writtenAs_object ?_
  simp [SameKey]

theorem CompiledContainer.writtenAs (container : CompiledContainer) :
    WrittenAs format readFloat (depth + 2) container.toValue container.encode := by
  refine writtenAs_object ?_
  have hcodes : WrittenAs format readFloat (depth + 1)
      (.array (container.ignoreExitCodes.map .ofInt32))
      (encodeArray (container.ignoreExitCodes.map fun code => encodeInt code.toInt)) :=
    writtenAs_array fun code _ => writtenAs_ofInt32 code
  simp [SameKey, hcodes]

theorem CompiledNodePmc.writtenAs (nodePmc : CompiledNodePmc) :
    WrittenAs format readFloat (depth + 1) nodePmc.toValue nodePmc.encode := by
  refine writtenAs_object ?_
  simp [SameKey]

theorem CompiledConfig.writtenAs (config : CompiledConfig) :
    WrittenAs format readFloat (depth + 3) config.toValue config.encode := by
  refine writtenAs_object ?_
  simp [SameKey, CompiledNetwork.writtenAs, CompiledStorage.writtenAs,
    CompiledContainer.writtenAs, CompiledNodePmc.writtenAs]

theorem BatchingConfig.writtenAs (batching : BatchingConfig) :
    WrittenAs format readFloat (depth + 1) batching.toValue batching.encode := by
  refine writtenAs_object ?_
  simp [SameKey]

theorem ConfigResponse.writtenAs (res : ConfigResponse) :
    WrittenAs format readFloat (depth + 4) res.toValue res.encode := by
  refine writtenAs_object ?_
  simp [SameKey, fields, CompiledConfig.writtenAs, BatchingConfig.writtenAs]

theorem CompiledNetwork.deserialize_toValue (network : CompiledNetwork) :
    deserialize network.toValue = some network := by
  rw [deserialize, toValue, readStruct_object (by simp [names]) (by simp)]
  simp [member, lookup_entry]

theorem CompiledStorage.deserialize_toValue (storage : CompiledStorage) :
    deserialize storage.toValue = some storage := by
  rw [deserialize, toValue, readStruct_object (by simp [names]) (by simp)]
  simp [member, lookup_entry]

theorem CompiledContainer.deserialize_toValue (container : CompiledContainer) :
    deserialize container.toValue = some container := by
  have hcodes : readList readInt32 (.array (container.ignoreExitCodes.map .ofInt32)) =
      some container.ignoreExitCodes :=
    readList_map fun code _ => readInt32_ofInt32 code
  rw [deserialize, toValue, readStruct_object (by simp [names]) (by simp)]
  simp [member, lookup_entry, hcodes]

theorem CompiledNodePmc.deserialize_toValue (nodePmc : CompiledNodePmc) :
    deserialize nodePmc.toValue = some nodePmc := by
  rw [deserialize, toValue, readStruct_object (by simp [names]) (by simp)]
  simp [member, lookup_entry]

theorem CompiledConfig.deserialize_toValue (config : CompiledConfig) :
    deserialize config.toValue = some config := by
  rw [deserialize, toValue, readStruct_object (by simp [names]) (by simp)]
  simp [member, lookup_entry, CompiledNetwork.deserialize_toValue,
    CompiledStorage.deserialize_toValue, CompiledContainer.deserialize_toValue,
    CompiledNodePmc.deserialize_toValue]

theorem BatchingConfig.deserialize_toValue (batching : BatchingConfig) :
    deserialize batching.toValue = some batching := by
  rw [deserialize, toValue, readStruct_object (by simp [names]) (by simp)]
  simp [member, lookup_entry]

theorem ConfigResponse.deserialize_toValue (res : ConfigResponse) :
    deserialize res.toValue = some res := by
  rw [deserialize, toValue, readStruct_object (by simp [names]) (by simp)]
  simp [member, memberOr, lookup_entry, CompiledConfig.deserialize_toValue,
    BatchingConfig.deserialize_toValue]

/-! ## Heartbeats -/

def ObserverStatus.toValue : ObserverStatus → Value
  | .running => .string "running"
  | .disabled => .string "disabled"
  | .degraded => .string "degraded"
  | .failed => .string "failed"

def DegradedReason.toValue : DegradedReason → Value
  | .unconfigured => .string "unconfigured"
  | .unknown => .string "unknown"

def HeartbeatCounters.toValue (counters : HeartbeatCounters) : Value :=
  .object [
    ("events_total", .ofUInt64 counters.eventsTotal),
    ("malformed_events_total", .ofUInt64 counters.malformedEventsTotal),
    ("lost_events_total", .ofUInt64 counters.lostEventsTotal),
    ("correlation_drops_total", .ofUInt64 counters.correlationDropsTotal),
    ("sink_drops_total", .ofUInt64 counters.sinkDropsTotal),
    ("controller_send_failures_total", .ofUInt64 counters.controllerSendFailuresTotal)]

def HeartbeatRequest.toValue (req : HeartbeatRequest) : Value :=
  .object [
    ("wire_version", .string req.wireVersion),
    ("agent_id", .string req.agentId),
    ("node_name", .string req.nodeName),
    ("config_version", .string req.configVersion),
    ("config_hash", .string req.configHash),
    ("uptime_seconds", .ofUInt64 req.uptimeSeconds),
    ("observers", .ofMap ObserverStatus.toValue req.observers),
    ("counters", req.counters.toValue),
    ("degraded_reasons", .array (req.degradedReasons.map DegradedReason.toValue))]

def HeartbeatResponse.toValue (res : HeartbeatResponse) : Value :=
  .object [
    ("wire_version", .string res.wireVersion),
    ("accepted", .bool res.accepted),
    ("next_config_version", .string res.nextConfigVersion)]

theorem ObserverStatus.writtenAs (status : ObserverStatus) :
    WrittenAs format readFloat depth status.toValue status.encode := by
  cases status <;> exact writtenAs_string _

theorem DegradedReason.writtenAs (reason : DegradedReason) :
    WrittenAs format readFloat depth reason.toValue reason.encode := by
  cases reason <;> exact writtenAs_string _

theorem HeartbeatCounters.writtenAs (counters : HeartbeatCounters) :
    WrittenAs format readFloat (depth + 1) counters.toValue counters.encode := by
  refine writtenAs_object ?_
  simp [SameKey]

theorem HeartbeatRequest.writtenAs (req : HeartbeatRequest) :
    WrittenAs format readFloat (depth + 2) req.toValue req.encode := by
  refine writtenAs_object ?_
  have hobservers : WrittenAs format readFloat (depth + 1)
      (.ofMap ObserverStatus.toValue req.observers)
      (encodeMap ObserverStatus.encode req.observers) :=
    writtenAs_ofMap ObserverStatus.writtenAs req.observers
  have hreasons : WrittenAs format readFloat (depth + 1)
      (.array (req.degradedReasons.map DegradedReason.toValue))
      (encodeArray (req.degradedReasons.map DegradedReason.encode)) :=
    writtenAs_array fun reason _ => reason.writtenAs
  simp [SameKey, hobservers, hreasons, HeartbeatCounters.writtenAs]

theorem HeartbeatResponse.writtenAs (res : HeartbeatResponse) :
    WrittenAs format readFloat (depth + 1) res.toValue res.encode := by
  refine writtenAs_object ?_
  simp [SameKey, fields]

theorem ObserverStatus.deserialize_toValue (status : ObserverStatus) :
    deserialize status.toValue = some status := by
  cases status <;> rfl

theorem DegradedReason.deserialize_toValue (reason : DegradedReason) :
    deserialize reason.toValue = some reason := by
  cases reason <;> rfl

theorem HeartbeatCounters.deserialize_toValue (counters : HeartbeatCounters) :
    deserialize counters.toValue = some counters := by
  rw [deserialize, toValue, readStruct_object (by simp [names]) (by simp)]
  simp [member, lookup_entry]

theorem HeartbeatRequest.deserialize_toValue (req : HeartbeatRequest) :
    deserialize req.toValue = some req := by
  have hobservers : readMap ObserverStatus.deserialize
      (.ofMap ObserverStatus.toValue req.observers) = some req.observers :=
    readMap_ofMap ObserverStatus.deserialize_toValue req.observers
  have hreasons : readList DegradedReason.deserialize
      (.array (req.degradedReasons.map DegradedReason.toValue)) = some req.degradedReasons :=
    readList_map fun reason _ => reason.deserialize_toValue
  rw [deserialize, toValue, readStruct_object (by simp [names]) (by simp)]
  simp [member, memberOr, lookup_entry, hobservers, hreasons,
    HeartbeatCounters.deserialize_toValue]

theorem HeartbeatResponse.deserialize_toValue (res : HeartbeatResponse) :
    deserialize res.toValue = some res := by
  rw [deserialize, toValue, readStruct_object (by simp [names]) (by simp)]
  simp [member, lookup_entry]

/-! ## Events -/

def EventSeverity.toValue : EventSeverity → Value
  | .debug => .string "debug"
  | .info => .string "info"
  | .warning => .string "warning"
  | .error => .string "error"
  | .critical => .string "critical"

def WireEvent.toValue (event : WireEvent) : Value :=
  .object [
    ("type", .string event.eventType),
    ("timestamp_unix_nanos", .ofUInt64 event.timestampUnixNanos),
    ("observer", .string event.observer),
    ("severity", event.severity.toValue),
    ("facts", event.facts)]

def EventBatchRequest.toValue (req : EventBatchRequest) : Value :=
  .object [
    ("wire_version", .string req.wireVersion),
    ("agent_id", .string req.agentId),
    ("node_name", .string req.nodeName),
    ("sequence", .ofUInt64 req.sequence),
    ("sent_at_unix_nanos", .ofUInt64 req.sentAtUnixNanos),
    ("events", .array (req.events.map WireEvent.toValue))]

def EventBatchResponse.toValue (res : EventBatchResponse) : Value :=
  .object [
    ("wire_version", .string res.wireVersion),
    ("accepted", .ofUInt64 res.accepted),
    ("rejected", .ofUInt64 res.rejected),
    ("next_config_version", .string res.nextConfigVersion)]

/-- How deep the facts of an event may be nested: a request, its list of events and the event
are around them. -/
def maxFactsDepth : ℕ := maxDepth - 3

/-- Facts that arrive as they were sent. -/
structure Portable (format : FloatFormat) (readFloat : List Char → Option UInt64)
    (facts : Value) : Prop where
  ordered : facts.Ordered
  legible : Legible format readFloat maxFactsDepth facts

theorem EventSeverity.writtenAs (severity : EventSeverity) :
    WrittenAs format readFloat depth severity.toValue severity.encode := by
  cases severity <;> exact writtenAs_string _

theorem WireEvent.writtenAs {event : WireEvent}
    (h : WrittenAs format readFloat depth event.facts (event.facts.encode format)) :
    WrittenAs format readFloat (depth + 1) event.toValue (event.encode format) := by
  refine writtenAs_object ?_
  simp [SameKey, EventSeverity.writtenAs, h]

theorem EventBatchRequest.writtenAs {req : EventBatchRequest}
    (h : ∀ event ∈ req.events, Portable format readFloat event.facts) :
    WrittenAs format readFloat maxDepth req.toValue (req.encode format) := by
  refine writtenAs_object ?_
  have hevents : WrittenAs format readFloat 126 (.array (req.events.map WireEvent.toValue))
      (encodeArray (req.events.map (WireEvent.encode format))) :=
    writtenAs_array fun event hevent =>
      WireEvent.writtenAs ⟨rfl, (h event hevent).legible⟩
  simp [SameKey, hevents]

theorem EventBatchResponse.writtenAs (res : EventBatchResponse) :
    WrittenAs format readFloat (depth + 1) res.toValue res.encode := by
  refine writtenAs_object ?_
  simp [SameKey, fields]

theorem EventSeverity.deserialize_toValue (severity : EventSeverity) :
    deserialize severity.toValue = some severity := by
  cases severity <;> rfl

theorem WireEvent.deserialize_toValue (event : WireEvent) :
    deserialize event.toValue = some event := by
  rw [deserialize, toValue, readStruct_object (by simp [names]) (by simp)]
  simp [member, lookup_entry, EventSeverity.deserialize_toValue, readAny]

theorem EventBatchRequest.deserialize_toValue (req : EventBatchRequest) :
    deserialize req.toValue = some req := by
  have hevents : readList WireEvent.deserialize (.array (req.events.map WireEvent.toValue)) =
      some req.events :=
    readList_map fun event _ => event.deserialize_toValue
  rw [deserialize, toValue, readStruct_object (by simp [names]) (by simp)]
  simp [member, lookup_entry, hevents]

theorem EventBatchResponse.deserialize_toValue (res : EventBatchResponse) :
    deserialize res.toValue = some res := by
  rw [deserialize, toValue, readStruct_object (by simp [names]) (by simp)]
  simp [member, lookup_entry]

/-- An event whose facts have gone through maps. -/
def WireEvent.collected (event : WireEvent) : WireEvent :=
  { event with facts := event.facts.collected }

theorem WireEvent.collected_of_ordered {event : WireEvent} (h : event.facts.Ordered) :
    event.collected = event := by
  rw [collected, Value.collected_of_ordered h]

/-- A batch read from the body of a request. Its facts go through maps. -/
def EventBatchRequest.fromSliceStrict (readFloat : List Char → Option UInt64)
    (body : List UInt8) : Option EventBatchRequest :=
  (Json.fromSliceStrict readFloat deserialize body).map fun req =>
    { req with events := req.events.map WireEvent.collected }

theorem EventBatchRequest.fromSliceStrict_toVec {req : EventBatchRequest}
    (h : ∀ event ∈ req.events, Portable format readFloat event.facts) :
    fromSliceStrict readFloat (req.toVec format) = some req := by
  have hevents : req.events.map WireEvent.collected = req.events := by
    rw [List.map_congr_left fun event hevent =>
      WireEvent.collected_of_ordered (h event hevent).ordered, List.map_id']
  rw [fromSliceStrict, toVec, fromSliceStrict_of_writtenAs format (writtenAs h),
    deserialize_toValue, Option.map_some, hevents]

/-! ## All messages -/

theorem HelloRequest.fromSliceStrict_encode (req : HelloRequest) :
    fromSliceStrict readFloat deserialize (utf8 req.encode) = some req := by
  rw [fromSliceStrict_of_writtenAs integerFormat req.writtenAs, req.deserialize_toValue]

theorem HelloResponse.fromSliceStrict_encode (res : HelloResponse) :
    fromSliceStrict readFloat deserialize (utf8 res.encode) = some res := by
  rw [fromSliceStrict_of_writtenAs integerFormat res.writtenAs, res.deserialize_toValue]

theorem ConfigResponse.fromSliceStrict_encode (res : ConfigResponse) :
    fromSliceStrict readFloat deserialize (utf8 res.encode) = some res := by
  rw [fromSliceStrict_of_writtenAs integerFormat res.writtenAs, res.deserialize_toValue]

theorem HeartbeatRequest.fromSliceStrict_encode (req : HeartbeatRequest) :
    fromSliceStrict readFloat deserialize (utf8 req.encode) = some req := by
  rw [fromSliceStrict_of_writtenAs integerFormat req.writtenAs, req.deserialize_toValue]

theorem HeartbeatResponse.fromSliceStrict_encode (res : HeartbeatResponse) :
    fromSliceStrict readFloat deserialize (utf8 res.encode) = some res := by
  rw [fromSliceStrict_of_writtenAs integerFormat res.writtenAs, res.deserialize_toValue]

theorem EventBatchResponse.fromSliceStrict_encode (res : EventBatchResponse) :
    fromSliceStrict readFloat deserialize (utf8 res.encode) = some res := by
  rw [fromSliceStrict_of_writtenAs integerFormat res.writtenAs, res.deserialize_toValue]

/-- **What is sent is what is received**, for every message of the protocol. -/
theorem messages_readBack (format : FloatFormat) (readFloat : List Char → Option UInt64) :
    (∀ req : HelloRequest,
      fromSliceStrict readFloat HelloRequest.deserialize (utf8 req.encode) = some req) ∧
    (∀ res : HelloResponse,
      fromSliceStrict readFloat HelloResponse.deserialize (utf8 res.encode) = some res) ∧
    (∀ res : ConfigResponse,
      fromSliceStrict readFloat ConfigResponse.deserialize (utf8 res.encode) = some res) ∧
    (∀ req : HeartbeatRequest,
      fromSliceStrict readFloat HeartbeatRequest.deserialize (utf8 req.encode) = some req) ∧
    (∀ res : HeartbeatResponse,
      fromSliceStrict readFloat HeartbeatResponse.deserialize (utf8 res.encode) = some res) ∧
    (∀ req : EventBatchRequest,
      (∀ event ∈ req.events, Portable format readFloat event.facts) →
        EventBatchRequest.fromSliceStrict readFloat (req.toVec format) = some req) ∧
    ∀ res : EventBatchResponse,
      fromSliceStrict readFloat EventBatchResponse.deserialize (utf8 res.encode) = some res := by
  exact ⟨HelloRequest.fromSliceStrict_encode, HelloResponse.fromSliceStrict_encode,
    ConfigResponse.fromSliceStrict_encode, HeartbeatRequest.fromSliceStrict_encode,
    HeartbeatResponse.fromSliceStrict_encode, fun req => EventBatchRequest.fromSliceStrict_toVec,
    EventBatchResponse.fromSliceStrict_encode⟩

/-- A batch of one event that reports two ports. -/
def portsBatch : EventBatchRequest where
  wireVersion := Wire.wireVersion
  agentId := "node/worker-1"
  nodeName := "worker-1"
  sequence := 7
  sentAtUnixNanos := 1700000000000000000
  events := [{
    eventType := "kernel.network.retransmit_spike"
    timestampUnixNanos := 1700000000000000000
    observer := "network"
    severity := .warning
    facts := .object (ofFields [("src_port", .ofUInt64 40000), ("dst_port", .ofUInt64 443)]) }]

theorem messages_readBack_portsBatch :
    EventBatchRequest.fromSliceStrict (fun _ => none)
      (portsBatch.toVec integerFormat) = some portsBatch := by
  have hscalar : ∀ field ∈ [("src_port", Value.ofUInt64 40000), ("dst_port", .ofUInt64 443)],
      Scalar [] field.2 :=
    List.forall_mem_cons.mpr ⟨.ofUInt64 _, List.forall_mem_singleton.mpr (.ofUInt64 _)⟩
  refine (messages_readBack _ _).2.2.2.2.2.1 portsBatch (List.forall_mem_singleton.mpr ?_)
  exact ⟨ordered_ofFields hscalar, legible_ofFields hscalar
    (List.forall_mem_nil _)⟩

end Tapio.Wire
