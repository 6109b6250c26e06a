/-
# The controller's state

The registry of agents, their latest heartbeats, the sequence tracking of their
event batches, and the totals. Every operation takes the state and gives the
state back together with its answer; an operation that rejects its request
answers with the error. Clock readings are arguments.
-/
import Tapio.Numeric.Saturating
import Tapio.Wire.Messages

namespace Tapio.Controller

open Wire Numeric

def controllerId : String := "tapio-controller/default"

/-- An instant, in nanoseconds since the epoch. -/
abbrev SystemTime := ℤ

/-- Whole seconds since the epoch; zero before it. -/
def unixSeconds (time : SystemTime) : ℕ := (time / 1000000000).toNat

structure RegisteredAgent where
  hello : HelloRequest
  registeredAt : SystemTime

structure StoredHeartbeat where
  heartbeat : HeartbeatRequest
  seenAt : SystemTime

structure SequenceTracking where
  lastSeen : Option UInt64
  gapsTotal : UInt64
  regressionsTotal : UInt64
  deriving DecidableEq

def SequenceTracking.default : SequenceTracking := ⟨none, 0, 0⟩

/-- The totals are counted without a bound. Those of the source are words of 64 bits, so both
agree while fewer than 2 ^ 64 batches and events have been posted. -/
structure InnerState where
  config : ConfigResponse
  startedAt : SystemTime
  agents : BTreeMap String RegisteredAgent
  lastHeartbeats : BTreeMap String StoredHeartbeat
  sequences : BTreeMap String SequenceTracking
  acceptedEventsTotal : ℕ
  rejectedEventsTotal : ℕ
  batchesAcceptedTotal : ℕ
  batchesRejectedTotal : ℕ

/-- A controller that has just started. -/
def InnerState.new (config : ConfigResponse) (startedAt : SystemTime) : InnerState where
  config := config
  startedAt := startedAt
  agents := ∅
  lastHeartbeats := ∅
  sequences := ∅
  acceptedEventsTotal := 0
  rejectedEventsTotal := 0
  batchesAcceptedTotal := 0
  batchesRejectedTotal := 0

/-! ## Operations -/

def registerAgent (hello : HelloRequest) (now : SystemTime) (inner : InnerState) :
    InnerState × WireResult HelloResponse :=
  match hello.validate with
  | .error e => (inner, .error e)
  | .ok () =>
      ({ inner with
          agents := inner.agents.insert hello.agentId ⟨hello, now⟩
          sequences := inner.sequences.insert hello.agentId SequenceTracking.default },
        .ok (HelloResponse.fromConfig controllerId inner.config))

def configFor (agentId nodeName : String) (inner : InnerState) : WireResult ConfigResponse :=
  if Text.trim agentId = "" then .error (.missingField "agent_id")
  else if Text.trim nodeName = "" then .error (.missingField "node_name")
  else .ok inner.config

def recordHeartbeat (heartbeat : HeartbeatRequest) (now : SystemTime) (inner : InnerState) :
    InnerState × WireResult HeartbeatResponse :=
  match heartbeat.validate with
  | .error e => (inner, .error e)
  | .ok () =>
      ({ inner with
          lastHeartbeats := inner.lastHeartbeats.insert heartbeat.agentId ⟨heartbeat, now⟩ },
        .ok (HeartbeatResponse.ofAccepted inner.config.version))

/-- The tracking of one agent after one more accepted batch. -/
def SequenceTracking.observe (tracking : SequenceTracking) (sequence : UInt64) :
    SequenceTracking :=
  match tracking.lastSeen with
  | none => { tracking with lastSeen := some sequence }
  | some lastSeen =>
      if sequence = saturatingAdd lastSeen 1 then
        { tracking with lastSeen := some sequence }
      else if sequence > saturatingAdd lastSeen 1 then
        { tracking with
          gapsTotal := saturatingAdd tracking.gapsTotal
            (saturatingSub sequence (saturatingAdd lastSeen 1))
          lastSeen := some sequence }
      else
        { tracking with
          regressionsTotal := saturatingAdd tracking.regressionsTotal 1 }

def updateSequenceTracking (agentId : String) (sequence : UInt64) (inner : InnerState) :
    InnerState :=
  let tracking := (inner.sequences[agentId]?).getD SequenceTracking.default
  { inner with sequences := inner.sequences.insert agentId (tracking.observe sequence) }

/-- The limit on a batch is read under a lock of its own, before the update. The config
never changes, so that it is the limit at the update, too. -/
def recordEventBatch (batch : EventBatchRequest) (inner : InnerState) :
    InnerState × WireResult EventBatchResponse :=
  match batch.validate inner.config.batching.maxBatchEvents.toNat with
  | .ok () =>
      let inner := updateSequenceTracking batch.agentId batch.sequence
        { inner with
          acceptedEventsTotal := inner.acceptedEventsTotal + batch.events.length
          batchesAcceptedTotal := inner.batchesAcceptedTotal + 1 }
      (inner, .ok {
        wireVersion := Wire.wireVersion
        accepted := UInt64.ofNat batch.events.length
        rejected := 0
        nextConfigVersion := inner.config.version })
  | .error e =>
      ({ inner with
          rejectedEventsTotal := inner.rejectedEventsTotal + batch.events.length
          batchesRejectedTotal := inner.batchesRejectedTotal + 1 },
        .error e)

/-! ## Reports -/

/-- The registered agents without a heartbeat of at most the given age, in
nanoseconds. -/
def staleAgents (maxAge : ℕ) (now : SystemTime) (inner : InnerState) : List String :=
  inner.agents.keys.filter fun agentId =>
    match inner.lastHeartbeats[agentId]? with
    | none => true
    | some stored => now < stored.seenAt ∨ now - stored.seenAt > maxAge

/-- The registered agents whose latest heartbeat does not report the hash. -/
def unconvergedAgents (targetHash : String) (inner : InnerState) : List String :=
  inner.agents.keys.filter fun agentId =>
    match inner.lastHeartbeats[agentId]? with
    | none => true
    | some stored => stored.heartbeat.configHash ≠ targetHash

def zeroHeartbeatCounters : HeartbeatCounters := ⟨0, 0, 0, 0, 0, 0⟩

/-- The status entry of a registered agent. -/
def agentStatus (now : SystemTime) (inner : InnerState) (agentId : String)
    (registered : RegisteredAgent) : AgentStatus :=
  let heartbeat := inner.lastHeartbeats[agentId]?
  let sequence := (inner.sequences[agentId]?).getD SequenceTracking.default
  { agentId := registered.hello.agentId
    nodeName := registered.hello.nodeName
    tapioVersion := registered.hello.tapioVersion
    registeredAtUnix := unixSeconds registered.registeredAt
    lastHeartbeatAgeSeconds := heartbeat.map fun stored =>
      ((now - stored.seenAt) / 1000000000).toNat
    reportedConfigVersion := (heartbeat.map (·.heartbeat.configVersion)).getD ""
    reportedCounters := (heartbeat.map (·.heartbeat.counters)).getD zeroHeartbeatCounters
    observers := (heartbeat.map (·.heartbeat.observers)).getD ∅
    sequence := ⟨sequence.lastSeen, sequence.gapsTotal, sequence.regressionsTotal⟩ }

def status (now : SystemTime) (inner : InnerState) : StatusResponse where
  wireVersion := Wire.wireVersion
  controllerId := controllerId
  startedAtUnix := unixSeconds inner.startedAt
  config := ⟨inner.config.version, inner.config.configHash⟩
  totals := ⟨inner.acceptedEventsTotal, inner.rejectedEventsTotal,
    inner.batchesAcceptedTotal, inner.batchesRejectedTotal⟩
  agents := inner.agents.toList.map fun (agentId, registered) =>
    agentStatus now inner agentId registered

/-! ## Requests -/

/-- The HTTP status of an error. -/
def errorStatus : WireError → ℕ
  | .unsupportedVersion _ => 400
  | .missingField _ => 400
  | .invalidField _ _ => 400
  | .reasoningField _ => 422

/-- A request to the controller, with the clock reading it is handled at where
it needs one. -/
inductive Request
  | hello (hello : HelloRequest) (now : SystemTime)
  | config (agentId nodeName : String)
  | heartbeat (heartbeat : HeartbeatRequest) (now : SystemTime)
  | events (batch : EventBatchRequest)
  | status (now : SystemTime)

/-- The agent a request claims to come from. -/
def Request.agentId : Request → Option String
  | .hello req _ => some req.agentId
  | .config agentId _ => some agentId
  | .heartbeat req _ => some req.agentId
  | .events batch => some batch.agentId
  | .status _ => none

/-- The state after a request. -/
def handle (request : Request) (inner : InnerState) : InnerState :=
  match request with
  | .hello req now => (registerAgent req now inner).1
  | .config _ _ => inner
  | .heartbeat req now => (recordHeartbeat req now inner).1
  | .events batch => (recordEventBatch batch inner).1
  | .status _ => inner

@[simp]
theorem registerAgent_config (hello : HelloRequest) (now : SystemTime)
    (inner : InnerState) : (registerAgent hello now inner).1.config = inner.config := by
  rw [registerAgent]
  split <;> rfl

@[simp]
theorem recordHeartbeat_config (heartbeat : HeartbeatRequest) (now : SystemTime)
    (inner : InnerState) : (recordHeartbeat heartbeat now inner).1.config = inner.config := by
  rw [recordHeartbeat]
  split <;> rfl

@[simp]
theorem recordEventBatch_config (batch : EventBatchRequest) (inner : InnerState) :
    (recordEventBatch batch inner).1.config = inner.config := by
  rw [recordEventBatch]
  split <;> rfl

/-- No request changes the config that is served. -/
@[simp]
theorem handle_config (request : Request) (inner : InnerState) :
    (handle request inner).config = inner.config := by
  cases request <;> simp [handle]

/-- A heartbeat touches no sequence tracking. -/
@[simp]
theorem recordHeartbeat_sequences (heartbeat : HeartbeatRequest) (now : SystemTime)
    (inner : InnerState) :
    (recordHeartbeat heartbeat now inner).1.sequences = inner.sequences := by
  rw [recordHeartbeat]
  split <;> rfl

/-- A hello of another agent, or one that is refused, leaves an agent's tracking alone. -/
theorem registerAgent_sequences_of_not {hello : HelloRequest} {agentId : String}
    (hnot : ¬ (hello.agentId = agentId ∧ hello.validate = .ok ())) (now : SystemTime)
    (inner : InnerState) :
    (registerAgent hello now inner).1.sequences[agentId]? = inner.sequences[agentId]? := by
  rw [registerAgent]
  split
  · rfl
  · next hvalid =>
      have hne : hello.agentId ≠ agentId := fun h => hnot ⟨h, hvalid⟩
      simp [Std.ExtTreeMap.getElem?_insert, hne]

/-- So does a batch. -/
theorem recordEventBatch_sequences_of_not {batch : EventBatchRequest} {agentId : String}
    {inner : InnerState} (hnot : ¬ (batch.agentId = agentId ∧
      batch.validate inner.config.batching.maxBatchEvents.toNat = .ok ())) :
    (recordEventBatch batch inner).1.sequences[agentId]? = inner.sequences[agentId]? := by
  rw [recordEventBatch]
  split
  · next hvalid =>
      have hne : batch.agentId ≠ agentId := fun h => hnot ⟨h, hvalid⟩
      simp [updateSequenceTracking, Std.ExtTreeMap.getElem?_insert, hne]
  · rfl

/-- A request of another agent leaves an agent's sequence tracking alone. -/
theorem handle_sequences_of_ne {request : Request} {agentId : String}
    (hother : request.agentId ≠ some agentId) (inner : InnerState) :
    (handle request inner).sequences[agentId]? = inner.sequences[agentId]? := by
  cases request with
  | hello req now =>
      exact registerAgent_sequences_of_not (fun h => hother (congrArg some h.1)) now inner
  | heartbeat req now => simp [handle]
  | events batch =>
      exact recordEventBatch_sequences_of_not fun h => hother (congrArg some h.1)
  | config _ _ => rfl
  | status _ => rfl

/-- An accepted hello resets the agent's sequence tracking. -/
theorem registerAgent_sequences {hello : HelloRequest} (hvalid : hello.validate = .ok ())
    (now : SystemTime) (inner : InnerState) :
    (registerAgent hello now inner).1.sequences[hello.agentId]? =
      some SequenceTracking.default := by
  simp [registerAgent, hvalid]

/-- An accepted batch is observed by its agent's tracking. -/
theorem recordEventBatch_sequences {batch : EventBatchRequest} {inner : InnerState}
    (hvalid : batch.validate inner.config.batching.maxBatchEvents.toNat = .ok ()) :
    (recordEventBatch batch inner).1.sequences[batch.agentId]? =
      some (((inner.sequences[batch.agentId]?).getD SequenceTracking.default).observe
        batch.sequence) := by
  simp [recordEventBatch, hvalid, updateSequenceTracking]

/-- No request removes an agent from the registry. -/
theorem handle_agents_mono {agentId : String} {inner : InnerState}
    (hregistered : agentId ∈ inner.agents) (request : Request) :
    agentId ∈ (handle request inner).agents := by
  cases request with
  | hello req now =>
      simp only [handle, registerAgent]
      split
      · exact hregistered
      · exact Std.ExtTreeMap.mem_insert.mpr (.inr hregistered)
  | config agentId nodeName => exact hregistered
  | heartbeat req now =>
      simp only [handle, recordHeartbeat]
      split <;> exact hregistered
  | events batch =>
      simp only [handle, recordEventBatch]
      split <;> exact hregistered
  | status now => exact hregistered

/-! ## Who is reported -/

/-- A stale agent is registered and has not been heard of within the age. -/
theorem mem_staleAgents_iff {maxAge : ℕ} {now : SystemTime} {inner : InnerState}
    {agentId : String} :
    agentId ∈ staleAgents maxAge now inner ↔
      agentId ∈ inner.agents ∧ ∀ stored ∈ inner.lastHeartbeats[agentId]?,
        now < stored.seenAt ∨ now - stored.seenAt > maxAge := by
  rw [staleAgents, List.mem_filter, Std.ExtTreeMap.mem_keys]
  cases inner.lastHeartbeats[agentId]? <;> simp

/-- An unconverged agent is registered and has not reported the hash last. -/
theorem mem_unconvergedAgents_iff {targetHash : String} {inner : InnerState}
    {agentId : String} :
    agentId ∈ unconvergedAgents targetHash inner ↔
      agentId ∈ inner.agents ∧ ∀ stored ∈ inner.lastHeartbeats[agentId]?,
        stored.heartbeat.configHash ≠ targetHash := by
  rw [unconvergedAgents, List.mem_filter, Std.ExtTreeMap.mem_keys]
  cases inner.lastHeartbeats[agentId]? <;> simp

end Tapio.Controller
