/-
# The messages read from JSON

How the payloads of the protocol are deserialized. The types take the members they know
and pass over the others. Two enumerations have only the variants they name, the
degraded reasons also have one for every other name.
-/
import Tapio.Json.Typed
import Tapio.Wire.Messages

namespace Tapio.Wire

open Json

/-! ## Enumerations -/

def ObserverStatus.named : String → Option ObserverStatus
  | "running" => some .running
  | "disabled" => some .disabled
  | "degraded" => some .degraded
  | "failed" => some .failed
  | _ => none

def ObserverStatus.deserialize : Reader ObserverStatus := readVariant named

/-- A name that is not known is the catch-all. -/
def DegradedReason.named : String → Option DegradedReason
  | "unconfigured" => some .unconfigured
  | _ => some .unknown

def DegradedReason.deserialize : Reader DegradedReason := readVariant named

def EventSeverity.named : String → Option EventSeverity
  | "debug" => some .debug
  | "info" => some .info
  | "warning" => some .warning
  | "error" => some .error
  | "critical" => some .critical
  | _ => none

def EventSeverity.deserialize : Reader EventSeverity := readVariant named

/-! ## Hello -/

def HelloRequest.names : List String :=
  ["wire_version", "agent_id", "node_name", "tapio_version", "kernel_release", "arch",
    "capabilities", "object_sizes", "map_counts"]

def HelloRequest.deserialize : Reader HelloRequest :=
  readStruct names fun find => do
    some {
      wireVersion := ← member "wire_version" readString find
      agentId := ← member "agent_id" readString find
      nodeName := ← member "node_name" readString find
      tapioVersion := ← member "tapio_version" readString find
      kernelRelease := ← member "kernel_release" readString find
      arch := ← member "arch" readString find
      capabilities := ← memberOr "capabilities" [] (readList readString) find
      objectSizes := ← memberOr "object_sizes" ∅ (readMap readUInt64) find
      mapCounts := ← memberOr "map_counts" ∅ (readMap readUInt64) find }

def HelloResponse.names : List String :=
  ["wire_version", "accepted", "controller_id", "config_version", "send_interval_ms",
    "max_batch_events"]

def HelloResponse.deserialize : Reader HelloResponse :=
  readStruct names fun find => do
    some {
      wireVersion := ← member "wire_version" readString find
      accepted := ← member "accepted" readBool find
      controllerId := ← member "controller_id" readString find
      configVersion := ← member "config_version" readString find
      sendIntervalMs := ← member "send_interval_ms" readUInt64 find
      maxBatchEvents := ← member "max_batch_events" readUInt64 find }

/-! ## Config -/

def CompiledNetwork.names : List String :=
  ["enabled", "rtt_spike_ratio", "rtt_spike_abs_us", "rtt_min_baseline_samples",
    "conn_refused_window_ns", "conn_refused_min_count"]

def CompiledNetwork.deserialize : Reader CompiledNetwork :=
  readStruct names fun find => do
    some {
      enabled := ← member "enabled" readBool find
      rttSpikeRatio := ← member "rtt_spike_ratio" readUInt32 find
      rttSpikeAbsUs := ← member "rtt_spike_abs_us" readUInt32 find
      rttMinBaselineSamples := ← member "rtt_min_baseline_samples" readUInt32 find
      connRefusedWindowNs := ← member "conn_refused_window_ns" readUInt64 find
      connRefusedMinCount := ← member "conn_refused_min_count" readUInt32 find }

def CompiledStorage.names : List String :=
  ["enabled", "slow_io_warning_ns", "slow_io_critical_ns"]

def CompiledStorage.deserialize : Reader CompiledStorage :=
  readStruct names fun find => do
    some {
      enabled := ← member "enabled" readBool find
      slowIoWarningNs := ← member "slow_io_warning_ns" readUInt64 find
      slowIoCriticalNs := ← member "slow_io_critical_ns" readUInt64 find }

def CompiledContainer.names : List String := ["enabled", "ignore_exit_codes"]

def CompiledContainer.deserialize : Reader CompiledContainer :=
  readStruct names fun find => do
    some {
      enabled := ← member "enabled" readBool find
      ignoreExitCodes := ← member "ignore_exit_codes" (readList readInt32) find }

def CompiledNodePmc.names : List String :=
  ["enabled", "stall_warning_permille", "stall_critical_permille", "ipc_degradation_milli"]

def CompiledNodePmc.deserialize : Reader CompiledNodePmc :=
  readStruct names fun find => do
    some {
      enabled := ← member "enabled" readBool find
      stallWarningPermille := ← member "stall_warning_permille" readUInt32 find
      stallCriticalPermille := ← member "stall_critical_permille" readUInt32 find
      ipcDegradationMilli := ← member "ipc_degradation_milli" readUInt32 find }

def CompiledConfig.names : List String := ["network", "storage", "container", "node_pmc"]

def CompiledConfig.deserialize : Reader CompiledConfig :=
  readStruct names fun find => do
    some {
      network := ← member "network" CompiledNetwork.deserialize find
      storage := ← member "storage" CompiledStorage.deserialize find
      container := ← member "container" CompiledContainer.deserialize find
      nodePmc := ← member "node_pmc" CompiledNodePmc.deserialize find }

def BatchingConfig.names : List String := ["send_interval_ms", "max_batch_events"]

def BatchingConfig.deserialize : Reader BatchingConfig :=
  readStruct names fun find => do
    some {
      sendIntervalMs := ← member "send_interval_ms" readUInt64 find
      maxBatchEvents := ← member "max_batch_events" readUInt64 find }

def ConfigResponse.names : List String :=
  ["wire_version", "version", "config_hash", "config", "batching"]

def ConfigResponse.deserialize : Reader ConfigResponse :=
  readStruct names fun find => do
    some {
      wireVersion := ← member "wire_version" readString find
      version := ← member "version" readString find
      configHash := ← memberOr "config_hash" "" readString find
      config := ← member "config" CompiledConfig.deserialize find
      batching := ← member "batching" BatchingConfig.deserialize find }

/-! ## Heartbeat -/

def HeartbeatCounters.names : List String :=
  ["events_total", "malformed_events_total", "lost_events_total",
    "correlation_drops_total", "sink_drops_total", "controller_send_failures_total"]

def HeartbeatCounters.deserialize : Reader HeartbeatCounters :=
  readStruct names fun find => do
    some {
      eventsTotal := ← member "events_total" readUInt64 find
      malformedEventsTotal := ← member "malformed_events_total" readUInt64 find
      lostEventsTotal := ← member "lost_events_total" readUInt64 find
      correlationDropsTotal := ← member "correlation_drops_total" readUInt64 find
      sinkDropsTotal := ← member "sink_drops_total" readUInt64 find
      controllerSendFailuresTotal :=
        ← member "controller_send_failures_total" readUInt64 find }

def HeartbeatRequest.names : List String :=
  ["wire_version", "agent_id", "node_name", "config_version", "config_hash",
    "uptime_seconds", "observers", "counters", "degraded_reasons"]

def HeartbeatRequest.deserialize : Reader HeartbeatRequest :=
  readStruct names fun find => do
    some {
      wireVersion := ← member "wire_version" readString find
      agentId := ← member "agent_id" readString find
      nodeName := ← member "node_name" readString find
      configVersion := ← member "config_version" readString find
      configHash := ← memberOr "config_hash" "" readString find
      uptimeSeconds := ← member "uptime_seconds" readUInt64 find
      observers := ← member "observers" (readMap ObserverStatus.deserialize) find
      counters := ← member "counters" HeartbeatCounters.deserialize find
      degradedReasons :=
        ← memberOr "degraded_reasons" [] (readList DegradedReason.deserialize) find }

def HeartbeatResponse.names : List String :=
  ["wire_version", "accepted", "next_config_version"]

def HeartbeatResponse.deserialize : Reader HeartbeatResponse :=
  readStruct names fun find => do
    some {
      wireVersion := ← member "wire_version" readString find
      accepted := ← member "accepted" readBool find
      nextConfigVersion := ← member "next_config_version" readString find }

/-! ## Events -/

def WireEvent.names : List String :=
  ["type", "timestamp_unix_nanos", "observer", "severity", "facts"]

def WireEvent.deserialize : Reader WireEvent :=
  readStruct names fun find => do
    some {
      eventType := ← member "type" readString find
      timestampUnixNanos := ← member "timestamp_unix_nanos" readUInt64 find
      observer := ← member "observer" readString find
      severity := ← member "severity" EventSeverity.deserialize find
      facts := ← member "facts" readAny find }

def EventBatchRequest.names : List String :=
  ["wire_version", "agent_id", "node_name", "sequence", "sent_at_unix_nanos", "events"]

def EventBatchRequest.deserialize : Reader EventBatchRequest :=
  readStruct names fun find => do
    some {
      wireVersion := ← member "wire_version" readString find
      agentId := ← member "agent_id" readString find
      nodeName := ← member "node_name" readString find
      sequence := ← member "sequence" readUInt64 find
      sentAtUnixNanos := ← member "sent_at_unix_nanos" readUInt64 find
      events := ← member "events" (readList WireEvent.deserialize) find }

def EventBatchResponse.names : List String :=
  ["wire_version", "accepted", "rejected", "next_config_version"]

def EventBatchResponse.deserialize : Reader EventBatchResponse :=
  readStruct names fun find => do
    some {
      wireVersion := ← member "wire_version" readString find
      accepted := ← member "accepted" readUInt64 find
      rejected := ← member "rejected" readUInt64 find
      nextConfigVersion := ← member "next_config_version" readString find }

end Tapio.Wire
