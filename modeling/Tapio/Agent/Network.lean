/-
# The network observer

What the observer makes of a network event: whether it is an anomaly, and the occurrence
it reports. Each type of event has fields of its own.
-/
import Tapio.Common.Document
import Tapio.Common.EventText
import Tapio.Json.Written

namespace Tapio.Agent

def networkConnectionRefused : String := "kernel.network.connection_refused"
def networkConnectionTimeout : String := "kernel.network.connection_timeout"
def networkRetransmitSpike : String := "kernel.network.retransmit_spike"
def networkRttDegradation : String := "kernel.network.rtt_degradation"

namespace Network

open Sink Json

structure ClassifiedAnomaly extends Agent.ClassifiedAnomaly where
  ebpfEventType : UInt8

/-- `{src_ip}:{src_port} → {dst_ip}:{dst_port}`. -/
def endpoints (event : NetworkEvent) : String :=
  event.srcIpStr ++ ":" ++ toString event.srcPort ++ " → " ++ event.dstIpStr ++ ":" ++
    toString event.dstPort

def classify (event : NetworkEvent) : Option ClassifiedAnomaly :=
  if event.eventType = netEventRstReceived then
    some {
      eventType := networkConnectionRefused
      severity := .warning
      outcome := .failure
      errorCode := "RST_RECEIVED"
      errorMessage := "TCP RST " ++ endpoints event
      ebpfEventType := event.eventType }
  else if event.eventType = netEventRetransmit then
    some {
      eventType := networkRetransmitSpike
      severity := .warning
      outcome := .failure
      errorCode := "RETRANSMIT"
      errorMessage :=
        "TCP retransmit " ++ endpoints event ++ " (total=" ++ toString event.totalRetrans ++
          ", cwnd=" ++ toString event.sndCwnd ++ ")"
      ebpfEventType := event.eventType }
  else if event.eventType = netEventRttSpike then
    some {
      eventType := networkRttDegradation
      severity := .warning
      outcome := .inProgress
      errorCode := "RTT_SPIKE"
      errorMessage :=
        "RTT spike " ++ endpoints event ++ " (baseline=" ++ toString event.rttBaselineMs ++
          "ms, current=" ++ toString event.rttCurrentMs ++ "ms)"
      ebpfEventType := event.eventType }
  else if event.eventType = netEventStateChange then
    if event.oldState = tcpSynSent ∧ event.newState = tcpClose then
      some {
        eventType := networkConnectionTimeout
        severity := .error
        outcome := .failure
        errorCode := "SYN_TIMEOUT"
        errorMessage :=
          "Connection timeout to " ++ event.dstIpStr ++ ":" ++ toString event.dstPort ++
            " (SYN_SENT→CLOSE)"
        ebpfEventType := event.eventType }
    else none
  else none

/-- The fields that only events of one type have. -/
def typeData (event : NetworkEvent) (ebpfEventType : UInt8) : List (String × Value) :=
  if ebpfEventType = netEventStateChange then [
    ("old_state", .string (tcpStateName event.oldState)),
    ("new_state", .string (tcpStateName event.newState))]
  else if ebpfEventType = netEventRstReceived then []
  else if ebpfEventType = netEventRetransmit then [
    ("total_retrans", .ofUInt16 event.totalRetrans),
    ("snd_cwnd", .ofUInt16 event.sndCwnd)]
  else if ebpfEventType = netEventRttSpike then [
    ("baseline_ms", .ofUInt16 event.rttBaselineMs),
    ("current_ms", .ofUInt16 event.rttCurrentMs)]
  else []

def data (event : NetworkEvent) (ebpfEventType : UInt8) : List (String × Value) := [
  ("pid", .ofUInt32 event.pid),
  ("config_generation", .ofUInt32 event.configGeneration),
  ("comm", .string (commStr event.comm)),
  ("src_ip", .string event.srcIpStr),
  ("dst_ip", .string event.dstIpStr),
  ("src_port", .ofUInt16 event.srcPort),
  ("dst_port", .ofUInt16 event.dstPort),
  ("family", .string (if event.isIpv6 then "ipv6" else "ipv4")),
  ("protocol", .string "tcp")] ++ typeData event ebpfEventType

/-- The occurrence has the time of the clock when it is built, not that of the event. -/
def buildOccurrence (id : String) (nowNanos : UInt64) (event : NetworkEvent)
    (anomaly : ClassifiedAnomaly) : Common.Occurrence :=
  Common.Occurrence.new id (unixNanosToRfc3339 nowNanos) anomaly.eventType anomaly.severity
      anomaly.outcome
    |>.withError anomaly.errorCode anomaly.errorMessage
    |>.withData (.object (ofFields (data event anomaly.ebpfEventType)))

/-- The data is a flat object. -/
theorem scalar_data (event : NetworkEvent) (ebpfEventType : UInt8) :
    ∀ e ∈ data event ebpfEventType, Scalar [] e.2 := by
  have hpair {a b : String × Value} (ha : Scalar [] a.2) (hb : Scalar [] b.2) :
      ∀ e ∈ [a, b], Scalar [] e.2 :=
    List.forall_mem_cons.mpr ⟨ha, List.forall_mem_singleton.mpr hb⟩
  have htype : ∀ e ∈ typeData event ebpfEventType, Scalar [] e.2 := by
    unfold typeData
    split_ifs
    · exact hpair (.string _) (.string _)
    · exact List.forall_mem_nil _
    · exact hpair (.ofUInt64 _) (.ofUInt64 _)
    · exact hpair (.ofUInt64 _) (.ofUInt64 _)
    · exact List.forall_mem_nil _
  rw [data, List.forall_mem_append]
  refine ⟨?_, htype⟩
  simp only [List.forall_mem_cons]
  exact ⟨.ofUInt64 _, .ofUInt64 _, .string _, .string _, .string _, .ofUInt64 _, .ofUInt64 _,
    .string _, .string _, List.forall_mem_nil _⟩

end Network

end Tapio.Agent
