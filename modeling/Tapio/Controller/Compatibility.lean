/-
# Agent and controller accept each other's messages

What the agent builds passes the validation that the controller runs, and what the
controller answers passes the validation that the receiving side runs, for a controller
that serves a valid profile after any requests and for an agent at any time of its life.

The identity in a heartbeat needs that whatever the poll loop has applied has a
generation as its version, and the status needs that every stored hello was validated.
-/
import Tapio.Agent.Process
import Tapio.Agent.Registration
import Tapio.Controller.ConfigEndpoint
import Tapio.Controller.Isolation
import Tapio.Controller.Polling
import Tapio.Profile.Compile

namespace Tapio.Controller

open Wire Agent Profile Transition

/-! ## What the agent builds -/

/-- The targets that `std::env::consts::ARCH` is the name of. -/
inductive TargetArch
  | x86
  | x86_64
  | arm
  | aarch64
  | m68k
  | mips
  | mips32r6
  | mips64
  | mips64r6
  | csky
  | powerpc
  | powerpc64
  | riscv32
  | riscv64
  | s390x
  | sparc
  | sparc64
  | hexagon
  | loongarch32
  | loongarch64

def TargetArch.name : TargetArch → String
  | x86 => "x86"
  | x86_64 => "x86_64"
  | arm => "arm"
  | aarch64 => "aarch64"
  | m68k => "m68k"
  | mips => "mips"
  | mips32r6 => "mips32r6"
  | mips64 => "mips64"
  | mips64r6 => "mips64r6"
  | csky => "csky"
  | powerpc => "powerpc"
  | powerpc64 => "powerpc64"
  | riscv32 => "riscv32"
  | riscv64 => "riscv64"
  | s390x => "s390x"
  | sparc => "sparc"
  | sparc64 => "sparc64"
  | hexagon => "hexagon"
  | loongarch32 => "loongarch32"
  | loongarch64 => "loongarch64"

theorem TargetArch.trim_name_ne (arch : TargetArch) : Text.trim arch.name ≠ "" := by
  cases arch <;> decide

/-- Whatever the release file holds, something is reported of it. -/
theorem trim_kernelReleaseFrom_ne (contents : Option String) :
    Text.trim (kernelReleaseFrom contents) ≠ "" := by
  rw [kernelReleaseFrom]
  cases hrelease : (contents.map Text.trim).filter (· ≠ "") with
  | none => decide
  | some release =>
      obtain ⟨hmap, hne⟩ := Option.filter_eq_some_iff.mp hrelease
      obtain ⟨content, -, rfl⟩ := Option.map_eq_some_iff.mp hmap
      rw [Option.getD_some, Text.trim_trim]
      exact of_decide_eq_true hne

theorem buildHelloRequest_validate {controller : ControllerConfig}
    (hagent : Text.trim controller.agentId ≠ "") (hnode : Text.trim controller.nodeName ≠ "")
    (release : Option String) (arch : TargetArch) :
    (buildHelloRequest controller (kernelReleaseFrom release) arch.name).validate = .ok () := by
  have hpackage : Text.trim packageVersion ≠ "" := by decide
  rw [HelloRequest.validate_ok_iff]
  exact ⟨rfl, hagent, hnode, hpackage, trim_kernelReleaseFrom_ne release, arch.trim_name_ne⟩

/-- A generation in words is not blank. -/
theorem trim_generation_ne (generation : UInt32) : Text.trim (toString generation) ≠ "" := by
  rw [Text.trim_toString]
  exact Text.toString_ne_empty generation

/-- The version that a heartbeat reports is a generation, or zero before the first config. -/
theorem trim_configVersion_ne {s : AgentRun} (hs : agentMachine.Reachable s) :
    ∀ identity ∈ s.agent.activeConfig, Text.trim identity.version ≠ "" := by
  have howned : Owned s := owned_invariant.of_reachable hs
  intro identity hidentity
  rw [howned.identity] at hidentity
  obtain ⟨accepted, -, rfl⟩ := Option.map_eq_some_iff.mp hidentity
  exact trim_generation_ne accepted.generation

theorem observerStatuses_isEmpty (applied : Option AppliedConfigIdentity) :
    (observerStatuses applied).isEmpty = false := by
  have hnetwork : ("network", tapioFNetwork) ∈ observers := List.mem_cons_self
  have hstatus : (observerStatuses applied)["network"]? =
      some (observerStatus applied tapioFNetwork) := observerStatuses_get hnetwork
  rw [Std.ExtTreeMap.isEmpty_eq_false_iff]
  intro hempty
  rw [hempty, Std.ExtTreeMap.getElem?_empty] at hstatus
  cases hstatus

theorem buildHeartbeatRequest_validate {controller : ControllerConfig}
    (hagent : Text.trim controller.agentId ≠ "") (hnode : Text.trim controller.nodeName ≠ "")
    {s : AgentRun} (hs : agentMachine.Reachable s) (uptimeSeconds : UInt64)
    (counters : HeartbeatCounters) :
    (buildHeartbeatRequest controller uptimeSeconds counters s.agent.activeConfig).validate =
      .ok () := by
  have hversion := trim_configVersion_ne hs
  rw [HeartbeatRequest.validate_ok_iff]
  refine ⟨rfl, hagent, hnode, ?_, observerStatuses_isEmpty s.agent.activeConfig⟩
  cases hactive : s.agent.activeConfig with
  | none =>
      have hzero : Text.trim "0" ≠ "" := by decide
      exact hzero
  | some identity => exact hversion identity hactive

/-! ## What the controller answers -/

/-- Every stored hello passed its validation. -/
def HellosValid (inner : InnerState) : Prop :=
  ∀ (agentId : String) (registered : RegisteredAgent),
    inner.agents[agentId]? = some registered →
    registered.hello.validate = .ok ()

theorem hellosValid_new (config : ConfigResponse) (startedAt : SystemTime) :
    HellosValid (InnerState.new config startedAt) := by
  intro agentId registered h
  rw [InnerState.new, Std.ExtTreeMap.getElem?_empty] at h
  cases h

theorem hellosValid_handle {inner : InnerState} (hinner : HellosValid inner)
    (request : Request) : HellosValid (handle request inner) := by
  cases request with
  | hello req now =>
      rw [handle, registerAgent]
      split
      · exact hinner
      · next hvalid =>
          intro agentId registered h
          rw [Std.ExtTreeMap.getElem?_insert] at h
          split at h
          · cases h
            exact hvalid
          · exact hinner agentId registered h
  | config agentId nodeName => exact hinner
  | heartbeat req now =>
      rw [handle, recordHeartbeat]
      split <;> exact hinner
  | events batch =>
      rw [handle, recordEventBatch]
      split <;> exact hinner
  | status now => exact hinner

/-- The controller has a config that it may promise, and has validated what it stores. -/
structure Compatible (inner : InnerState) : Prop where
  version : Text.trim inner.config.version ≠ ""
  interval : inner.config.batching.sendIntervalMs ≠ 0
  batch : inner.config.batching.maxBatchEvents ≠ 0
  hellos : HellosValid inner

theorem compatible_serveAll (sha256 : Digest) (profile : ValidatedProfile)
    (generation : UInt32) (startedAt : SystemTime) (requests : List Request) :
    Compatible (serveAll (configResponseFromCompiled sha256 (compile profile) generation)
      startedAt requests) := by
  refine requests.foldlRecOn serveNext ?_ fun inner hinner request _ => ?_
  · exact ⟨trim_generation_ne generation, by simp [InnerState.new, configResponseFromCompiled],
      by simp [InnerState.new, configResponseFromCompiled], hellosValid_new _ _⟩
  · obtain ⟨hversion, hinterval, hbatch, hhellos⟩ := hinner
    rw [← handle_config request inner] at hversion hinterval hbatch
    exact ⟨hversion, hinterval, hbatch, hellosValid_handle hhellos request⟩

theorem Compatible.helloResponse {inner : InnerState} (hinner : Compatible inner) :
    (HelloResponse.fromConfig controllerId inner.config).validate = .ok () := by
  have hcontroller : Text.trim controllerId ≠ "" := by decide
  rw [HelloResponse.validate_ok_iff]
  exact ⟨rfl, hcontroller, hinner.version, hinner.interval, hinner.batch⟩

/-- The entry of an agent is as valid as its hello was. -/
theorem agentStatus_validate {registered : RegisteredAgent}
    (hvalid : registered.hello.validate = .ok ()) (now : SystemTime) (inner : InnerState)
    (agentId : String) : (agentStatus now inner agentId registered).validate = .ok () := by
  obtain ⟨-, hagent, hnode, hversion, -, -⟩ := (HelloRequest.validate_ok_iff _).mp hvalid
  rw [AgentStatus.validate_ok_iff]
  exact ⟨hagent, hnode, hversion⟩

theorem Compatible.status {inner : InnerState} (hinner : Compatible inner) (now : SystemTime) :
    (status now inner).validate = .ok () := by
  have hcontroller : Text.trim controllerId ≠ "" := by decide
  rw [StatusResponse.validate_ok_iff]
  refine ⟨rfl, hcontroller, hinner.version, fun agent hagent => ?_⟩
  obtain ⟨⟨agentId, registered⟩, hmem, rfl⟩ := List.mem_map.mp hagent
  have hstored : inner.agents[agentId]? = some registered :=
    Std.ExtTreeMap.mem_toList_iff_getElem?_eq_some.mp hmem
  exact agentStatus_validate (hinner.hellos agentId registered hstored) now inner agentId

/-- Each answer passes the validation that its receiver runs. -/
structure AnswersValid (inner : InnerState) : Prop where
  hello : ∀ req now response, (registerAgent req now inner).2 = .ok response →
    response.validate = .ok ()
  heartbeat : ∀ req now response, (recordHeartbeat req now inner).2 = .ok response →
    response.validate = .ok ()
  events : ∀ batch response, (recordEventBatch batch inner).2 = .ok response →
    response.validate = .ok ()
  status : ∀ now, (status now inner).validate = .ok ()

theorem Compatible.answersValid {inner : InnerState} (hinner : Compatible inner) :
    AnswersValid inner where
  hello req now response h := by
    rw [registerAgent] at h
    split at h
    · cases h
    · cases h
      exact hinner.helloResponse
  heartbeat req now response h := by
    rw [recordHeartbeat] at h
    split at h
    · cases h
    · cases h
      rw [HeartbeatResponse.validate_ok_iff]
      exact ⟨rfl, hinner.version⟩
  events batch response h := by
    rw [recordEventBatch] at h
    split at h
    · cases h
      rw [EventBatchResponse.validate_ok_iff]
      exact ⟨rfl, hinner.version⟩
    · cases h
  status := hinner.status

/-- What the agent builds passes the validation that the controller runs. -/
structure RequestsValid (controller : ControllerConfig) (s : AgentRun) : Prop where
  hello : ∀ (release : Option String) (arch : TargetArch),
    (buildHelloRequest controller (kernelReleaseFrom release) arch.name).validate = .ok ()
  heartbeat : ∀ uptimeSeconds counters,
    (buildHeartbeatRequest controller uptimeSeconds counters s.agent.activeConfig).validate =
      .ok ()

/-- **Agent and controller accept each other's messages**, in every state that either can
reach. -/
theorem messagesAccepted (sha256 : Digest) (profile : ValidatedProfile) (generation : UInt32)
    (startedAt : SystemTime) (requests : List Request) {controller : ControllerConfig}
    (hagent : Text.trim controller.agentId ≠ "") (hnode : Text.trim controller.nodeName ≠ "")
    {s : AgentRun} (hs : agentMachine.Reachable s) :
    RequestsValid controller s ∧
      AnswersValid (serveAll (configResponseFromCompiled sha256 (compile profile) generation)
        startedAt requests) := by
  apply And.intro
  · exact ⟨buildHelloRequest_validate hagent hnode, buildHeartbeatRequest_validate hagent hnode hs⟩
  · exact (compatible_serveAll sha256 profile generation startedAt requests).answersValid

/-! ## A first exchange -/

def firstAgent : ControllerConfig := ⟨"node/worker-1", "worker-1"⟩

/-- What a controller with the built-in profile serves. -/
def builtinResponse : ConfigResponse :=
  configResponseFromCompiled storageDigest (compile ⟨productionDefault, productionDefault_inRange⟩) 1

/-- The storage observer registers its map, and the first poll is answered. -/
def firstPoll : List AgentStep := [
  .load "storage" (some 10),
  .register "storage" true true,
  .poll (.response 200 (.ok builtinResponse)) fun _ => true]

/-- The agent after its first poll. -/
def polledAgent : AgentRun := (agentMachine.exec agentMachine.init firstPoll).getD agentMachine.init

theorem reachable_polledAgent : agentMachine.Reachable polledAgent := by
  have hrun : (agentMachine.exec agentMachine.init firstPoll).isSome := by decide +kernel
  obtain ⟨s, hs⟩ := Option.isSome_iff_exists.mp hrun
  exact ⟨firstPoll, by rw [polledAgent, hs, Option.getD_some]⟩

/-- The agent says hello, fetches its config and reports it; someone asks for the status. -/
def firstRequests : List Request := [
  .hello (buildHelloRequest firstAgent (kernelReleaseFrom (some "6.8.0-45-generic\n"))
    TargetArch.x86_64.name) 1000000000,
  .config "node/worker-1" "worker-1",
  .heartbeat (buildHeartbeatRequest firstAgent 30 zeroHeartbeatCounters
    polledAgent.agent.activeConfig) 31000000000,
  .status 32000000000]

/-- The config is applied, and the controller has stored the agent with the heartbeat that
reports it. -/
theorem messagesAccepted_firstPoll :
    (polledAgent.agent.activeConfig.map (fun identity => (identity.version, identity.flags)) =
        some ("1", 15) ∧
      (status 32000000000 (serveAll builtinResponse 0 firstRequests)).agents.map
          (fun agent => (agent.agentId, agent.reportedConfigVersion)) =
        [("node/worker-1", "1")]) ∧
    RequestsValid firstAgent polledAgent ∧
      AnswersValid (serveAll builtinResponse 0 firstRequests) := by
  refine ⟨⟨by decide +kernel, by decide +kernel⟩, ?_⟩
  exact messagesAccepted storageDigest ⟨productionDefault, productionDefault_inRange⟩ 1 0
    firstRequests (by decide) (by decide) reachable_polledAgent

end Tapio.Controller
