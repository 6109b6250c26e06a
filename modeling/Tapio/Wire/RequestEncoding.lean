/-
# Registrations and heartbeats as JSON

The bodies that an agent posts besides its event batches.
-/
import Tapio.Json.Encode
import Tapio.Wire.Messages

namespace Tapio.Wire

open Json

def ObserverStatus.encode : ObserverStatus → List Char
  | .running => encodeString "running"
  | .disabled => encodeString "disabled"
  | .degraded => encodeString "degraded"
  | .failed => encodeString "failed"

def DegradedReason.encode : DegradedReason → List Char
  | .unconfigured => encodeString "unconfigured"
  | .unknown => encodeString "unknown"

/-- A map is written as an object, in the order of its keys. -/
def encodeMap {ν : Type} (encode : ν → List Char) (map : BTreeMap String ν) : List Char :=
  encodeObject (map.toList.map fun (key, value) => (key, encode value))

def HelloRequest.encode (req : HelloRequest) : List Char :=
  encodeObject [
    ("wire_version", encodeString req.wireVersion),
    ("agent_id", encodeString req.agentId),
    ("node_name", encodeString req.nodeName),
    ("tapio_version", encodeString req.tapioVersion),
    ("kernel_release", encodeString req.kernelRelease),
    ("arch", encodeString req.arch),
    ("capabilities", encodeArray (req.capabilities.map encodeString)),
    ("object_sizes", encodeMap (fun size => encodeNat size.toNat) req.objectSizes),
    ("map_counts", encodeMap (fun count => encodeNat count.toNat) req.mapCounts)]

def HeartbeatCounters.encode (counters : HeartbeatCounters) : List Char :=
  encodeObject [
    ("events_total", encodeNat counters.eventsTotal.toNat),
    ("malformed_events_total", encodeNat counters.malformedEventsTotal.toNat),
    ("lost_events_total", encodeNat counters.lostEventsTotal.toNat),
    ("correlation_drops_total", encodeNat counters.correlationDropsTotal.toNat),
    ("sink_drops_total", encodeNat counters.sinkDropsTotal.toNat),
    ("controller_send_failures_total", encodeNat counters.controllerSendFailuresTotal.toNat)]

def HeartbeatRequest.encode (req : HeartbeatRequest) : List Char :=
  encodeObject [
    ("wire_version", encodeString req.wireVersion),
    ("agent_id", encodeString req.agentId),
    ("node_name", encodeString req.nodeName),
    ("config_version", encodeString req.configVersion),
    ("config_hash", encodeString req.configHash),
    ("uptime_seconds", encodeNat req.uptimeSeconds.toNat),
    ("observers", encodeMap ObserverStatus.encode req.observers),
    ("counters", req.counters.encode),
    ("degraded_reasons", encodeArray (req.degradedReasons.map DegradedReason.encode))]

end Tapio.Wire
