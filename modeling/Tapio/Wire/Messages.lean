/-
# The messages between agent and controller

Requests and responses of the wire protocol, each with the validation its
receiver runs. A validation is a sequence of checks that stops at the first
failure; its `_ok_iff` theorem lists the conditions it amounts to.
-/
import Std.Data.ExtTreeMap
import Tapio.Checks.Except
import Tapio.Json.Value
import Tapio.Text.Rust
import Tapio.Wire.Config

namespace Tapio

/-- An ordered map; two maps with the same content are equal. -/
abbrev BTreeMap (κ ν : Type) [Ord κ] := Std.ExtTreeMap κ ν compare

end Tapio

namespace Tapio.Wire

def wireVersion : String := "tapio-wire/v1"

/-- Why a message is not acceptable. -/
inductive WireError
  | unsupportedVersion (version : String)
  | missingField (field : String)
  | invalidField (field reason : String)
  | reasoningField (path : String)
  deriving DecidableEq

abbrev WireResult := Except WireError

/-! ## Checks -/

def validateWireVersion (version : String) : WireResult Unit :=
  if version = wireVersion then .ok () else .error (.unsupportedVersion version)

/-- The field is not blank. -/
def required (field value : String) : WireResult Unit :=
  if Text.trim value = "" then .error (.missingField field) else .ok ()

def boundedNonzero (field : String) (value : UInt64) : WireResult Unit :=
  if value = 0 then .error (.invalidField field "must be greater than zero") else .ok ()

@[simp]
theorem validateWireVersion_ok_iff (version : String) :
    validateWireVersion version = .ok () ↔ version = wireVersion := by
  by_cases hv : version = wireVersion <;> simp [validateWireVersion, hv]

@[simp]
theorem required_ok_iff (field value : String) :
    required field value = .ok () ↔ Text.trim value ≠ "" := by
  by_cases hv : Text.trim value = "" <;> simp [required, hv]

@[simp]
theorem boundedNonzero_ok_iff (field : String) (value : UInt64) :
    boundedNonzero field value = .ok () ↔ value ≠ 0 := by
  by_cases hv : value = 0 <;> simp [boundedNonzero, hv]

/-! ## Hello -/

structure HelloRequest where
  wireVersion : String
  agentId : String
  nodeName : String
  tapioVersion : String
  kernelRelease : String
  arch : String
  capabilities : List String
  objectSizes : BTreeMap String UInt64
  mapCounts : BTreeMap String UInt64
  deriving DecidableEq

def HelloRequest.validate (req : HelloRequest) : WireResult Unit := do
  validateWireVersion req.wireVersion
  required "agent_id" req.agentId
  required "node_name" req.nodeName
  required "tapio_version" req.tapioVersion
  required "kernel_release" req.kernelRelease
  required "arch" req.arch

structure HelloResponse where
  wireVersion : String
  accepted : Bool
  controllerId : String
  configVersion : String
  sendIntervalMs : UInt64
  maxBatchEvents : UInt64
  deriving DecidableEq

def HelloResponse.validate (res : HelloResponse) : WireResult Unit := do
  validateWireVersion res.wireVersion
  required "controller_id" res.controllerId
  required "config_version" res.configVersion
  boundedNonzero "send_interval_ms" res.sendIntervalMs
  boundedNonzero "max_batch_events" res.maxBatchEvents

/-! ## Config -/

structure BatchingConfig where
  sendIntervalMs : UInt64
  maxBatchEvents : UInt64
  deriving DecidableEq

structure ConfigResponse where
  wireVersion : String
  version : String
  configHash : String
  config : CompiledConfig
  batching : BatchingConfig
  deriving DecidableEq

/-- The built-in response of version 1. -/
def ConfigResponse.defaultV1 : ConfigResponse where
  wireVersion := Wire.wireVersion
  version := "1"
  configHash := ""
  config := {
    network := {
      enabled := true
      rttSpikeRatio := 2
      rttSpikeAbsUs := 500000
      rttMinBaselineSamples := 5
      connRefusedWindowNs := 0
      connRefusedMinCount := 0 }
    storage := {
      enabled := true
      slowIoWarningNs := 50000000
      slowIoCriticalNs := 200000000 }
    container := { enabled := true, ignoreExitCodes := [] }
    nodePmc := {
      enabled := true
      stallWarningPermille := 200
      stallCriticalPermille := 400
      ipcDegradationMilli := 1000 } }
  batching := { sendIntervalMs := 1000, maxBatchEvents := 256 }

def ConfigResponse.validate (res : ConfigResponse) : WireResult Unit := do
  validateWireVersion res.wireVersion
  required "version" res.version
  boundedNonzero "config.storage.slow_io_warning_ns" res.config.storage.slowIoWarningNs
  boundedNonzero "config.storage.slow_io_critical_ns" res.config.storage.slowIoCriticalNs
  boundedNonzero "batching.send_interval_ms" res.batching.sendIntervalMs
  boundedNonzero "batching.max_batch_events" res.batching.maxBatchEvents

/-- The accepted hello response, with the limits of the active config. -/
def HelloResponse.fromConfig (controllerId : String) (config : ConfigResponse) :
    HelloResponse where
  wireVersion := Wire.wireVersion
  accepted := true
  controllerId := controllerId
  configVersion := config.version
  sendIntervalMs := config.batching.sendIntervalMs
  maxBatchEvents := config.batching.maxBatchEvents

/-! ## Heartbeat -/

inductive ObserverStatus
  | running
  | disabled
  | degraded
  | failed
  deriving DecidableEq

inductive DegradedReason
  | unconfigured
  | unknown
  deriving DecidableEq

structure HeartbeatCounters where
  eventsTotal : UInt64
  malformedEventsTotal : UInt64
  lostEventsTotal : UInt64
  correlationDropsTotal : UInt64
  sinkDropsTotal : UInt64
  controllerSendFailuresTotal : UInt64
  deriving DecidableEq

structure HeartbeatRequest where
  wireVersion : String
  agentId : String
  nodeName : String
  configVersion : String
  configHash : String
  uptimeSeconds : UInt64
  observers : BTreeMap String ObserverStatus
  counters : HeartbeatCounters
  degradedReasons : List DegradedReason
  deriving DecidableEq

def HeartbeatRequest.validate (req : HeartbeatRequest) : WireResult Unit := do
  validateWireVersion req.wireVersion
  required "agent_id" req.agentId
  required "node_name" req.nodeName
  required "config_version" req.configVersion
  if req.observers.isEmpty then .error (.missingField "observers") else .ok ()

structure HeartbeatResponse where
  wireVersion : String
  accepted : Bool
  nextConfigVersion : String
  deriving DecidableEq

/-- The answer to an accepted heartbeat. -/
def HeartbeatResponse.ofAccepted (nextConfigVersion : String) : HeartbeatResponse where
  wireVersion := Wire.wireVersion
  accepted := true
  nextConfigVersion := nextConfigVersion

def HeartbeatResponse.validate (res : HeartbeatResponse) : WireResult Unit := do
  validateWireVersion res.wireVersion
  required "next_config_version" res.nextConfigVersion

/-! ## Events -/

inductive EventSeverity
  | debug
  | info
  | warning
  | error
  | critical
  deriving DecidableEq

structure WireEvent where
  eventType : String
  timestampUnixNanos : UInt64
  observer : String
  severity : EventSeverity
  facts : Json.Value

/-- The keys of fields that interpret instead of reporting. -/
def isReasoningKey (key : String) : Bool :=
  match key with
  | "reasoning" | "root_cause" | "rootCause" | "causal_chain" | "causalChain"
  | "explanation" | "possible_causes" | "possibleCauses" | "suggested_fix"
  | "suggestedFix" | "remediation" | "recommendation" => true
  | _ => false

mutual

/-- Reject reasoning keys in an object and in the objects its entries hold. -/
def rejectReasoningFields (path : String) : Json.Value → WireResult Unit
  | .object map => rejectReasoningEntries path map
  | _ => .ok ()

/-- The loop over the entries of an object. -/
def rejectReasoningEntries (path : String) :
    List (String × Json.Value) → WireResult Unit
  | [] => .ok ()
  | (key, child) :: rest =>
      if isReasoningKey key then .error (.reasoningField (path ++ "." ++ key))
      else do
        rejectReasoningFields (path ++ "." ++ key) child
        rejectReasoningEntries path rest

end

def WireEvent.validate (event : WireEvent) : WireResult Unit := do
  required "type" event.eventType
  required "observer" event.observer
  if ¬ Text.startsWith event.eventType "kernel." then
    .error (.invalidField "type" "must be a kernel.* event")
  else
    rejectReasoningFields "$" event.facts

structure EventBatchRequest where
  wireVersion : String
  agentId : String
  nodeName : String
  sequence : UInt64
  sentAtUnixNanos : UInt64
  events : List WireEvent

def EventBatchRequest.validate (req : EventBatchRequest) (maxBatchEvents : ℕ) :
    WireResult Unit := do
  validateWireVersion req.wireVersion
  required "agent_id" req.agentId
  required "node_name" req.nodeName
  if req.events.isEmpty then .error (.missingField "events")
  else if req.events.length > maxBatchEvents then
    .error (.invalidField "events" "batch exceeds max_batch_events")
  else
    forM req.events WireEvent.validate

structure EventBatchResponse where
  wireVersion : String
  accepted : UInt64
  rejected : UInt64
  nextConfigVersion : String
  deriving DecidableEq

def EventBatchResponse.validate (res : EventBatchResponse) : WireResult Unit := do
  validateWireVersion res.wireVersion
  required "next_config_version" res.nextConfigVersion

/-! ## Status -/

structure StatusConfig where
  version : String
  configHash : String
  deriving DecidableEq

def StatusConfig.validate (config : StatusConfig) : WireResult Unit :=
  required "config.version" config.version

/-- Counted without a bound: the words of the source last for 2 ^ 64 batches and events. -/
structure StatusTotals where
  acceptedEventsTotal : ℕ
  rejectedEventsTotal : ℕ
  batchesAcceptedTotal : ℕ
  batchesRejectedTotal : ℕ
  deriving DecidableEq

structure SequenceStatus where
  lastSeen : Option UInt64
  gapsTotal : UInt64
  regressionsTotal : UInt64
  deriving DecidableEq

structure AgentStatus where
  agentId : String
  nodeName : String
  tapioVersion : String
  registeredAtUnix : ℕ
  lastHeartbeatAgeSeconds : Option ℕ
  reportedConfigVersion : String
  reportedCounters : HeartbeatCounters
  observers : BTreeMap String ObserverStatus
  sequence : SequenceStatus
  deriving DecidableEq

def AgentStatus.validate (agent : AgentStatus) : WireResult Unit := do
  required "agent_id" agent.agentId
  required "node_name" agent.nodeName
  required "tapio_version" agent.tapioVersion

structure StatusResponse where
  wireVersion : String
  controllerId : String
  startedAtUnix : ℕ
  config : StatusConfig
  totals : StatusTotals
  agents : List AgentStatus
  deriving DecidableEq

def StatusResponse.validate (res : StatusResponse) : WireResult Unit := do
  validateWireVersion res.wireVersion
  required "controller_id" res.controllerId
  res.config.validate
  forM res.agents AgentStatus.validate

/-! ## What the validations amount to -/

open Checks

theorem WireEvent.validate_ok_iff (event : WireEvent) :
    event.validate = .ok () ↔
      Text.trim event.eventType ≠ "" ∧ Text.trim event.observer ≠ "" ∧
        Text.startsWith event.eventType "kernel." ∧
        rejectReasoningFields "$" event.facts = .ok () := by
  simp [WireEvent.validate, bind_eq_ok_iff, guard_eq_ok_iff]

theorem EventBatchRequest.validate_ok_iff (req : EventBatchRequest) (maxBatchEvents : ℕ) :
    req.validate maxBatchEvents = .ok () ↔
      req.wireVersion = Wire.wireVersion ∧ Text.trim req.agentId ≠ "" ∧
        Text.trim req.nodeName ≠ "" ∧ req.events ≠ [] ∧
        req.events.length ≤ maxBatchEvents ∧
        ∀ event ∈ req.events, event.validate = .ok () := by
  simp [EventBatchRequest.validate, bind_eq_ok_iff, guard_eq_ok_iff, forM_eq_ok_iff]

theorem HeartbeatRequest.validate_ok_iff (req : HeartbeatRequest) :
    req.validate = .ok () ↔
      req.wireVersion = Wire.wireVersion ∧ Text.trim req.agentId ≠ "" ∧
        Text.trim req.nodeName ≠ "" ∧ Text.trim req.configVersion ≠ "" ∧
        req.observers.isEmpty = false := by
  simp [HeartbeatRequest.validate, bind_eq_ok_iff]

theorem HelloRequest.validate_ok_iff (req : HelloRequest) :
    req.validate = .ok () ↔
      req.wireVersion = Wire.wireVersion ∧ Text.trim req.agentId ≠ "" ∧
        Text.trim req.nodeName ≠ "" ∧ Text.trim req.tapioVersion ≠ "" ∧
        Text.trim req.kernelRelease ≠ "" ∧ Text.trim req.arch ≠ "" := by
  simp [HelloRequest.validate, bind_eq_ok_iff]

theorem HelloResponse.validate_ok_iff (res : HelloResponse) :
    res.validate = .ok () ↔
      res.wireVersion = Wire.wireVersion ∧ Text.trim res.controllerId ≠ "" ∧
        Text.trim res.configVersion ≠ "" ∧ res.sendIntervalMs ≠ 0 ∧
        res.maxBatchEvents ≠ 0 := by
  simp [HelloResponse.validate, bind_eq_ok_iff]

theorem HeartbeatResponse.validate_ok_iff (res : HeartbeatResponse) :
    res.validate = .ok () ↔
      res.wireVersion = Wire.wireVersion ∧ Text.trim res.nextConfigVersion ≠ "" := by
  simp [HeartbeatResponse.validate, bind_eq_ok_iff]

theorem EventBatchResponse.validate_ok_iff (res : EventBatchResponse) :
    res.validate = .ok () ↔
      res.wireVersion = Wire.wireVersion ∧ Text.trim res.nextConfigVersion ≠ "" := by
  simp [EventBatchResponse.validate, bind_eq_ok_iff]

theorem AgentStatus.validate_ok_iff (agent : AgentStatus) :
    agent.validate = .ok () ↔
      Text.trim agent.agentId ≠ "" ∧ Text.trim agent.nodeName ≠ "" ∧
        Text.trim agent.tapioVersion ≠ "" := by
  simp [AgentStatus.validate, bind_eq_ok_iff]

theorem StatusResponse.validate_ok_iff (res : StatusResponse) :
    res.validate = .ok () ↔
      res.wireVersion = Wire.wireVersion ∧ Text.trim res.controllerId ≠ "" ∧
        Text.trim res.config.version ≠ "" ∧
        ∀ agent ∈ res.agents, agent.validate = .ok () := by
  simp [StatusResponse.validate, StatusConfig.validate, bind_eq_ok_iff, forM_eq_ok_iff]

end Tapio.Wire
