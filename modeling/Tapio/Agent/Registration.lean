/-
# The registration task

The agent says hello until the controller accepts, then sends heartbeats, and
says hello again when a heartbeat is answered with a rejection. A hello or a
heartbeat without an acceptable answer is counted and changes nothing else.
-/
import Tapio.Agent.Client
import Tapio.Agent.Heartbeat

namespace Tapio.Agent

open Wire

/-- The version of the package, which a hello reports. -/
def packageVersion : String := "4.0.0"

/-- The content of the release file, if it can be read and is not blank. -/
def kernelReleaseFrom (contents : Option String) : String :=
  ((contents.map Text.trim).filter (· ≠ "")).getD "unknown"

def buildHelloRequest (controller : ControllerConfig) (kernelRelease arch : String) :
    HelloRequest where
  wireVersion := wireVersion
  agentId := controller.agentId
  nodeName := controller.nodeName
  tapioVersion := packageVersion
  kernelRelease := kernelRelease
  arch := arch
  capabilities := []
  objectSizes := ∅
  mapCounts := ∅

def buildHeartbeatRequest (controller : ControllerConfig) (uptimeSeconds : UInt64)
    (counters : HeartbeatCounters) (applied : Option AppliedConfigIdentity) :
    HeartbeatRequest :=
  buildHeartbeat {
    agentId := controller.agentId
    nodeName := controller.nodeName
    uptimeSeconds := uptimeSeconds
    observers := observerStatuses applied
    counters := counters
    controllerMode := true
    activeConfig := applied }

/-- `controller_send_failures_total` by request. -/
structure SendFailures where
  hello : ℕ
  heartbeat : ℕ
  deriving DecidableEq

inductive HeartbeatDecision
  | continue_
  | reRegister
  deriving DecidableEq

def classifyHeartbeatResult (result : Except ExchangeError HeartbeatResponse)
    (failures : SendFailures) : HeartbeatDecision × SendFailures :=
  match result with
  | .ok response =>
      if response.accepted then (.continue_, failures)
      else (.reRegister, { failures with heartbeat := failures.heartbeat + 1 })
  | .error _ => (.continue_, { failures with heartbeat := failures.heartbeat + 1 })

/-- Which of the two inner loops of `registration_loop` is running. -/
inductive RegistrationPhase
  | hello
  | heartbeat
  deriving DecidableEq

structure Registration where
  phase : RegistrationPhase
  state : ControllerState
  failures : SendFailures
  deriving DecidableEq

def Registration.new : Registration := ⟨.hello, ControllerState.new "0", ⟨0, 0⟩⟩

/-- The end of a hello. -/
def Registration.helloResult (r : Registration)
    (result : Except ExchangeError HelloResponse) : Registration :=
  match result with
  | .ok response =>
      if response.accepted then
        { r with
          phase := .heartbeat
          state := (r.state.setBatching response.sendIntervalMs
            response.maxBatchEvents).setConfigVersion response.configVersion }
      else { r with failures := { r.failures with hello := r.failures.hello + 1 } }
  | .error _ => { r with failures := { r.failures with hello := r.failures.hello + 1 } }

/-- The end of a heartbeat. -/
def Registration.heartbeatResult (r : Registration)
    (result : Except ExchangeError HeartbeatResponse) : Registration :=
  match classifyHeartbeatResult result r.failures with
  | (.continue_, failures) => { r with failures := failures }
  | (.reRegister, failures) => { r with phase := .hello, failures := failures }

/-- The end of an exchange without an answer. -/
def Registration.failed (r : Registration) (error : ExchangeError) : Registration :=
  match r.phase with
  | .hello => r.helloResult (.error error)
  | .heartbeat => r.heartbeatResult (.error error)

/-- Only a rejection makes the agent say hello again. -/
theorem heartbeatResult_phase_iff (r : Registration)
    (result : Except ExchangeError HeartbeatResponse) :
    (r.heartbeatResult result).phase = .hello ↔
      r.phase = .hello ∨ ∃ response, result = .ok response ∧ response.accepted = false := by
  cases result with
  | error e => simp [Registration.heartbeatResult, classifyHeartbeatResult]
  | ok response =>
      cases haccepted : response.accepted <;>
        simp [Registration.heartbeatResult, classifyHeartbeatResult, haccepted]

end Tapio.Agent
