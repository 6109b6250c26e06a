/-
# The status as JSON

What the controller reports of itself and its agents.
-/
import Tapio.Wire.RequestEncoding

namespace Tapio.Wire

open Json

def encodeOption {α : Type} (encode : α → List Char) : Option α → List Char
  | none => "null".toList
  | some x => encode x

def AgentStatus.encode (agent : AgentStatus) : List Char :=
  encodeObject [
    ("agent_id", encodeString agent.agentId),
    ("node_name", encodeString agent.nodeName),
    ("tapio_version", encodeString agent.tapioVersion),
    ("registered_at_unix", encodeNat agent.registeredAtUnix),
    ("last_heartbeat_age_seconds", encodeOption encodeNat agent.lastHeartbeatAgeSeconds),
    ("reported_config_version", encodeString agent.reportedConfigVersion),
    ("reported_counters", agent.reportedCounters.encode),
    ("observers", encodeMap ObserverStatus.encode agent.observers),
    ("sequence", encodeObject [
      ("last_seen", encodeOption (fun seen : UInt64 => encodeNat seen.toNat)
        agent.sequence.lastSeen),
      ("gaps_total", encodeNat agent.sequence.gapsTotal.toNat),
      ("regressions_total", encodeNat agent.sequence.regressionsTotal.toNat)])]

def StatusResponse.encode (res : StatusResponse) : List Char :=
  encodeObject [
    ("wire_version", encodeString res.wireVersion),
    ("controller_id", encodeString res.controllerId),
    ("started_at_unix", encodeNat res.startedAtUnix),
    ("config", encodeObject [
      ("version", encodeString res.config.version),
      ("config_hash", encodeString res.config.configHash)]),
    ("totals", encodeObject [
      ("accepted_events_total", encodeNat res.totals.acceptedEventsTotal),
      ("rejected_events_total", encodeNat res.totals.rejectedEventsTotal),
      ("batches_accepted_total", encodeNat res.totals.batchesAcceptedTotal),
      ("batches_rejected_total", encodeNat res.totals.batchesRejectedTotal)]),
    ("agents", encodeArray (res.agents.map AgentStatus.encode))]

end Tapio.Wire
