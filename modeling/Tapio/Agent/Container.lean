/-
# The container observer

What the observer makes of a container event: whether it is an anomaly, and the
occurrence it reports. What the lookup of the memory limit comes to is given.
-/
import Tapio.Common.Document
import Tapio.Common.Ebpf
import Tapio.Json.Written

namespace Tapio.Agent

def containerOomKill : String := "kernel.container.oom_kill"
def containerAbnormalExit : String := "kernel.container.abnormal_exit"

namespace Container

open Sink Json

/-- OOM kills are anomalies, and so are exits with a code or a signal. -/
def classify (event : ContainerEvent) : Option ClassifiedAnomaly :=
  if event.eventType = containerEventOom then
    some {
      eventType := containerOomKill
      severity := .critical
      outcome := .failure
      errorCode := "OOM_KILL"
      errorMessage :=
        "OOM kill pid=" ++ toString event.pid ++ " (usage=" ++
          toString (event.memoryUsage / 1024 / 1024) ++ "MB, limit=" ++
          toString (event.memoryLimit / 1024 / 1024) ++ "MB)" }
  else if event.eventType = containerEventExit then
    if event.exitCode = 0 ∧ event.signal = 0 then none
    else
      some {
        eventType := containerAbnormalExit
        severity := if event.signal ≠ 0 then .error else .warning
        outcome := .failure
        errorCode := "ABNORMAL_EXIT"
        errorMessage :=
          "Abnormal exit pid=" ++ toString event.pid ++ " (code=" ++ toString event.exitCode ++
            ", signal=" ++ toString event.signal ++ ")" }
  else none

/-- The limit that is reported; zero in the event asks for the one that is looked up. -/
def memoryLimit (event : ContainerEvent) (enriched : Option UInt64) : UInt64 :=
  if event.memoryLimit = 0 then enriched.getD 0 else event.memoryLimit

def data (event : ContainerEvent) (enriched : Option UInt64) : List (String × Value) := [
  ("pid", .ofUInt32 event.pid),
  ("config_generation", .ofUInt32 event.configGeneration),
  ("tid", .ofUInt32 event.tid),
  ("exit_code", .ofInt32 event.exitCode),
  ("signal", .ofInt32 event.signal),
  ("memory_usage_bytes", .ofUInt64 event.memoryUsage),
  ("memory_limit_bytes", .ofUInt64 (memoryLimit event enriched)),
  ("cgroup_id", .ofUInt64 event.cgroupId),
  ("timestamp_ns", .ofUInt64 event.timestampNs)]

def buildOccurrence (id : String) (event : ContainerEvent) (anomaly : ClassifiedAnomaly)
    (bootOffsetNs : UInt64) (enriched : Option UInt64) : Common.Occurrence :=
  let wallNs := bootOffsetNs + event.timestampNs
  Common.Occurrence.newAt id anomaly.eventType anomaly.severity anomaly.outcome wallNs
    |>.withError anomaly.errorCode anomaly.errorMessage
    |>.withData (.object (ofFields (data event enriched)))

theorem lookup_data {event : ContainerEvent} {enriched : Option UInt64} {key : String}
    {value : Value} (hmem : (key, value) ∈ data event enriched) :
    (ofFields (data event enriched)).lookup key = some value :=
  lookup_ofFields (by simp [data]) hmem

/-- The data is a flat object. -/
theorem scalar_data (event : ContainerEvent) (enriched : Option UInt64) :
    ∀ e ∈ data event enriched, Scalar [] e.2 := by
  simp only [data, List.forall_mem_cons]
  exact ⟨.ofUInt64 _, .ofUInt64 _, .ofUInt64 _, .ofInt32 _, .ofInt32 _, .ofUInt64 _, .ofUInt64 _,
    .ofUInt64 _, .ofUInt64 _, List.forall_mem_nil _⟩

end Container

end Tapio.Agent
