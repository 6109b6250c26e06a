/-
# The storage observer

What the observer makes of a storage event, and the occurrence it reports. The probe has
filtered already, so every event is an anomaly.
-/
import Tapio.Common.Document
import Tapio.Common.EventText
import Tapio.Json.Written

namespace Tapio.Agent

def storageIoError : String := "kernel.storage.io_error"
def storageLatencySpike : String := "kernel.storage.latency_spike"

namespace Storage

open Sink Json

def classify (event : StorageEvent) : Option ClassifiedAnomaly :=
  if event.hasError then
    some {
      eventType := storageIoError
      severity := .critical
      outcome := .failure
      errorCode := "IO_ERROR"
      errorMessage :=
        "I/O error on " ++ toString event.devMajor ++ ":" ++ toString event.devMinor ++
          " (error=" ++ toString event.errorCode ++ ", " ++ opName event.opcode ++ ")" }
  else
    some {
      eventType := storageLatencySpike
      severity := if event.severity = storageSeverityCritical then .critical else .warning
      outcome := .inProgress
      errorCode := "LATENCY_SPIKE"
      errorMessage :=
        "I/O latency " ++ fixed 1 event.latencyMs ++ "ms on " ++ toString event.devMajor ++
          ":" ++ toString event.devMinor ++ " (" ++ opName event.opcode ++ ")" }

/-- `f64Bits` gives the floating-point number for a rational. -/
def data (f64Bits : ℚ → UInt64) (event : StorageEvent) : List (String × Value) := [
  ("config_generation", .ofUInt32 event.configGeneration),
  ("pid", .ofUInt32 event.pid),
  ("comm", .string (commStr event.comm)),
  ("dev_major", .ofUInt32 event.devMajor),
  ("dev_minor", .ofUInt32 event.devMinor),
  ("sector", .ofUInt64 event.sector),
  ("bytes", .ofUInt32 event.bytes),
  ("latency_ms", .number (.float (f64Bits event.latencyMs))),
  ("opcode", .string (opName event.opcode)),
  ("error_code", .ofInt32 event.errorCode),
  ("cgroup_id", .ofUInt64 event.cgroupId),
  ("timestamp_ns", .ofUInt64 event.timestampNs)]

def buildOccurrence (f64Bits : ℚ → UInt64) (id : String) (event : StorageEvent)
    (anomaly : ClassifiedAnomaly) (bootOffsetNs : UInt64) : Common.Occurrence :=
  let wallNs := bootOffsetNs + event.timestampNs
  Common.Occurrence.newAt id anomaly.eventType anomaly.severity anomaly.outcome wallNs
    |>.withError anomaly.errorCode anomaly.errorMessage
    |>.withData (.object (ofFields (data f64Bits event)))

/-- The data is a flat object. -/
theorem scalar_data (f64Bits : ℚ → UInt64) (event : StorageEvent) :
    ∀ e ∈ data f64Bits event, Scalar [f64Bits event.latencyMs] e.2 := by
  simp only [data, List.forall_mem_cons]
  exact ⟨.ofUInt64 _, .ofUInt64 _, .string _, .ofUInt64 _, .ofUInt64 _, .ofUInt64 _, .ofUInt64 _,
    .float List.mem_cons_self, .string _, .ofInt32 _, .ofUInt64 _, .ofUInt64 _,
    List.forall_mem_nil _⟩

end Storage

end Tapio.Agent
