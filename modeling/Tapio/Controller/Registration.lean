/-
# Registration across restarts

One agent's registration task and one controller that may be restarted at any
moment, with an empty registry, an epoch later. A request of the agent may reach
the controller of a later epoch, an answer may reach the agent after the
controller that gave it is gone, and a message that never arrives is lost. The
agent waits for one exchange at a time and may give it up; a late answer to an
exchange that is over is not read any more.

An agent is invisible when it is not in the registry: the status and both lists
of agents go through the registry. A controller answers the heartbeat of an agent
that it does not know as it answers any other, and so an agent that was
registered before a restart stays invisible after it.
-/
import Tapio.Agent.Registration
import Tapio.Controller.State
import Tapio.Transition.Machine

namespace Tapio.Controller

open Wire Agent Transition

/-- What the registration task asks the controller. -/
inductive AgentRequest
  | hello (req : HelloRequest)
  | heartbeat (req : HeartbeatRequest)

inductive AgentReply
  | hello (reply : HttpReply HelloResponse)
  | heartbeat (reply : HttpReply HeartbeatResponse)

/-- An answer on its way, with the exchange it belongs to and the epoch of the
controller that gave it. -/
structure Answer where
  exchange : ℕ
  epoch : ℕ
  reply : AgentReply

structure RegistrationRun where
  agent : Registration
  /-- The number of the agent's latest exchange. -/
  exchange : ℕ
  /-- Whether the agent still waits for it to end. -/
  waiting : Bool
  requests : List (ℕ × AgentRequest)
  answers : List Answer
  controller : InnerState
  epoch : ℕ
  /-- How the agent's most recent heartbeat was answered, and in which epoch. -/
  heartbeatAnswer : Option (ℕ × Bool)

inductive RegistrationStep
  /-- The agent says hello, with what it has read of the kernel's release file. -/
  | sendHello (release : Option String) (arch : String)
  | sendHeartbeat (uptimeSeconds : UInt64) (counters : HeartbeatCounters)
      (applied : Option AppliedConfigIdentity)
  /-- A request reaches the running controller. -/
  | handle (index : ℕ) (now : SystemTime)
  /-- An answer reaches the agent. -/
  | receive (index : ℕ)
  | giveUp (error : String)
  | restart (config : ConfigResponse) (startedAt : SystemTime)
  /-- The controller handles a request of somebody else. -/
  | other (request : Request)

def AgentRequest.validate : AgentRequest → WireResult Unit
  | .hello req => req.validate
  | .heartbeat req => req.validate

/-- The result of a handler as it arrives. The body of an error is no response. -/
def httpReply {β : Type} : WireResult β → HttpReply β
  | .ok response => .response 200 (.ok response)
  | .error error => .response (errorStatus error) (.error "missing field")

/-- The controller's side of an exchange. -/
def answerRequest (request : AgentRequest) (now : SystemTime) (inner : InnerState) :
    InnerState × AgentReply :=
  match request with
  | .hello req =>
      ((registerAgent req now inner).1, .hello (httpReply (registerAgent req now inner).2))
  | .heartbeat req =>
      ((recordHeartbeat req now inner).1,
        .heartbeat (httpReply (recordHeartbeat req now inner).2))

/-- The agent begins an exchange; a request that is not valid is not sent. -/
def RegistrationRun.send (s : RegistrationRun) (request : AgentRequest) : RegistrationRun :=
  match request.validate with
  | .error error => { s with agent := s.agent.failed (.invalidRequest error) }
  | .ok () =>
      { s with
        exchange := s.exchange + 1
        waiting := true
        requests := (s.exchange + 1, request) :: s.requests }

/-- How a heartbeat was answered, from the result of the exchange. -/
def heartbeatAnswerOf (epoch : ℕ) (result : Except ExchangeError HeartbeatResponse) :
    Option (ℕ × Bool) :=
  match result with
  | .ok response => some (epoch, response.accepted)
  | .error _ => none

/-- The agent reads an answer. -/
def RegistrationRun.read (s : RegistrationRun) (answer : Answer) : RegistrationRun :=
  match answer.reply with
  | .hello reply =>
      { s with
        agent := s.agent.helloResult (acceptReply HelloResponse.validate reply)
        waiting := false }
  | .heartbeat reply =>
      { s with
        agent := s.agent.heartbeatResult (acceptReply HeartbeatResponse.validate reply)
        waiting := false
        heartbeatAnswer :=
          heartbeatAnswerOf answer.epoch (acceptReply HeartbeatResponse.validate reply) }

def registrationStep (agentConfig : ControllerConfig) (s : RegistrationRun) :
    RegistrationStep → Option RegistrationRun
  | .sendHello release arch =>
      if s.agent.phase = .hello ∧ s.waiting = false then
        some (s.send (.hello (buildHelloRequest agentConfig (kernelReleaseFrom release) arch)))
      else none
  | .sendHeartbeat uptimeSeconds counters applied =>
      if s.agent.phase = .heartbeat ∧ s.waiting = false then
        some (RegistrationRun.send { s with heartbeatAnswer := none }
          (.heartbeat (buildHeartbeatRequest agentConfig uptimeSeconds counters applied)))
      else none
  | .handle index now =>
      match s.requests[index]? with
      | some (exchange, request) =>
          some { s with
            requests := s.requests.eraseIdx index
            answers := ⟨exchange, s.epoch, (answerRequest request now s.controller).2⟩ ::
              s.answers
            controller := (answerRequest request now s.controller).1 }
      | none => none
  | .receive index =>
      match s.answers[index]? with
      | some answer =>
          if s.waiting = true ∧ answer.exchange = s.exchange then
            some (RegistrationRun.read { s with answers := s.answers.eraseIdx index } answer)
          else none
      | none => none
  | .giveUp error =>
      if s.waiting = true then
        some { s with agent := s.agent.failed (.transport error), waiting := false }
      else none
  | .restart config startedAt =>
      some { s with controller := InnerState.new config startedAt, epoch := s.epoch + 1 }
  | .other request => some { s with controller := handle request s.controller }

def registrationMachine (agentConfig : ControllerConfig) (config : ConfigResponse)
    (startedAt : SystemTime) : Machine RegistrationRun RegistrationStep where
  init := {
    agent := Registration.new
    exchange := 0
    waiting := false
    requests := []
    answers := []
    controller := InnerState.new config startedAt
    epoch := 0
    heartbeatAnswer := none }
  step := registrationStep agentConfig

/-- An agent whose latest heartbeat the running controller accepted is in its
registry. -/
def Visible (agentConfig : ControllerConfig) (s : RegistrationRun) : Prop :=
  s.agent.phase = .heartbeat → s.heartbeatAnswer = some (s.epoch, true) →
    agentConfig.agentId ∈ s.controller.agents

instance (agentConfig : ControllerConfig) : DecidablePred (Visible agentConfig) := fun _ =>
  inferInstanceAs (Decidable (_ → _ → _))

/-! ## When the agent stays visible -/

/-- The controller handles the agent's heartbeats only once the agent is in its
registry. -/
def HeartbeatsFromRegistered (s : RegistrationRun) : RegistrationStep → Prop
  | .handle index _ =>
      match s.requests[index]? with
      | some (_, .heartbeat req) => req.agentId ∈ s.controller.agents
      | _ => True
  | _ => True

instance (s : RegistrationRun) (a : RegistrationStep) :
    Decidable (HeartbeatsFromRegistered s a) := by
  unfold HeartbeatsFromRegistered
  split
  · split <;> infer_instance
  · infer_instance

/-- The reply accepts a heartbeat. -/
def AgentReply.AcceptsHeartbeat : AgentReply → Prop
  | .hello _ => False
  | .heartbeat reply =>
      ∃ response, acceptReply HeartbeatResponse.validate reply = .ok response ∧
        response.accepted = true

/-- Whoever was accepted in the running epoch is registered. -/
structure Known (agentConfig : ControllerConfig) (s : RegistrationRun) : Prop where
  /-- The heartbeats in flight are the agent's. -/
  requests : ∀ entry ∈ s.requests, ∀ req, entry.2 = .heartbeat req →
    req.agentId = agentConfig.agentId
  answers : ∀ answer ∈ s.answers, answer.epoch ≤ s.epoch ∧
    (answer.epoch = s.epoch → answer.reply.AcceptsHeartbeat →
      agentConfig.agentId ∈ s.controller.agents)
  latest : ∀ epoch accepted, s.heartbeatAnswer = some (epoch, accepted) → epoch ≤ s.epoch ∧
    (epoch = s.epoch → accepted = true → agentConfig.agentId ∈ s.controller.agents)

theorem Known.visible {agentConfig : ControllerConfig} {s : RegistrationRun}
    (h : Known agentConfig s) : Visible agentConfig s := fun _ hanswer =>
  (h.latest s.epoch true hanswer).2 rfl rfl

theorem answerRequest_state (request : AgentRequest) (now : SystemTime) (inner : InnerState) :
    (answerRequest request now inner).1 =
      match request with
      | .hello req => handle (.hello req now) inner
      | .heartbeat req => handle (.heartbeat req now) inner := by
  cases request <;> rfl

theorem answerRequest_agents_mono {agentId : String} {inner : InnerState}
    (hregistered : agentId ∈ inner.agents) (request : AgentRequest) (now : SystemTime) :
    agentId ∈ (answerRequest request now inner).1.agents := by
  rw [answerRequest_state]
  cases request <;> exact handle_agents_mono hregistered _

/-- Beginning an exchange touches neither the controller nor what has come back
from it. -/
theorem send_frame (s : RegistrationRun) (request : AgentRequest) :
    (s.send request).answers = s.answers ∧ (s.send request).controller = s.controller ∧
      (s.send request).epoch = s.epoch ∧
      (s.send request).heartbeatAnswer = s.heartbeatAnswer := by
  rw [RegistrationRun.send]
  split <;> exact ⟨rfl, rfl, rfl, rfl⟩

theorem send_requests {s : RegistrationRun} {request : AgentRequest}
    {entry : ℕ × AgentRequest} (h : entry ∈ (s.send request).requests) :
    entry.2 = request ∨ entry ∈ s.requests := by
  rw [RegistrationRun.send] at h
  split at h
  · exact .inr h
  · exact (List.mem_cons.mp h).imp (congrArg Prod.snd) id

theorem Known.send {agentConfig : ControllerConfig} {s : RegistrationRun}
    (h : Known agentConfig s) {request : AgentRequest}
    (hagent : ∀ req, request = .heartbeat req → req.agentId = agentConfig.agentId) :
    Known agentConfig (s.send request) := by
  obtain ⟨hanswers, hcontroller, hepoch, hlatest⟩ := send_frame s request
  apply Known.mk
  · intro entry hentry req hreq
    rcases send_requests hentry with hnew | hold
    · exact hagent req (hnew.symm.trans hreq)
    · exact h.requests entry hold req hreq
  · rw [hanswers, hcontroller, hepoch]
    exact h.answers
  · rw [hlatest, hcontroller, hepoch]
    exact h.latest

theorem Known.forget {agentConfig : ControllerConfig} {s : RegistrationRun}
    (h : Known agentConfig s) : Known agentConfig { s with heartbeatAnswer := none } where
  requests := h.requests
  answers := h.answers
  latest := nofun

/-- An answer that is read becomes the latest, if it is to a heartbeat. -/
theorem Known.read {agentConfig : ControllerConfig} {s : RegistrationRun}
    (h : Known agentConfig s) {index : ℕ} {answer : Answer}
    (hanswer : s.answers[index]? = some answer) :
    Known agentConfig
      (RegistrationRun.read { s with answers := s.answers.eraseIdx index } answer) := by
  have hmem := List.mem_of_getElem? hanswer
  have hrest : ∀ other ∈ s.answers.eraseIdx index, other ∈ s.answers :=
    fun other => List.mem_of_mem_eraseIdx
  obtain ⟨hle, haccepted⟩ := h.answers answer hmem
  rw [RegistrationRun.read]
  cases hreply : answer.reply with
  | hello reply =>
      exact ⟨h.requests, fun other hother => h.answers other (hrest other hother), h.latest⟩
  | heartbeat reply =>
      refine ⟨h.requests, fun other hother => h.answers other (hrest other hother), ?_⟩
      intro epoch accepted hlatest
      cases hresult : acceptReply HeartbeatResponse.validate reply with
      | error e => simp [heartbeatAnswerOf, hresult] at hlatest
      | ok response =>
          obtain ⟨rfl, rfl⟩ : answer.epoch = epoch ∧ response.accepted = accepted := by
            simpa [heartbeatAnswerOf, hresult] using hlatest
          refine ⟨hle, fun hepoch haccepts => haccepted hepoch ?_⟩
          rw [hreply]
          exact ⟨response, hresult, haccepts⟩

/-- After a restart nothing that has come back is from the running epoch. -/
theorem Known.restart {agentConfig : ControllerConfig} {s : RegistrationRun}
    (h : Known agentConfig s) (config : ConfigResponse) (startedAt : SystemTime) :
    Known agentConfig
      { s with controller := InnerState.new config startedAt, epoch := s.epoch + 1 } := by
  refine ⟨h.requests, fun answer hanswer => ?_, fun epoch accepted hlatest => ?_⟩
  · have hle := (h.answers answer hanswer).1
    exact ⟨Nat.le_succ_of_le hle, fun heq => absurd heq (Nat.lt_succ_of_le hle).ne⟩
  · have hle := (h.latest epoch accepted hlatest).1
    exact ⟨Nat.le_succ_of_le hle, fun heq => absurd heq (Nat.lt_succ_of_le hle).ne⟩

/-- A registry that keeps what it has keeps the agent known. -/
theorem Known.of_mono {agentConfig : ControllerConfig} {s : RegistrationRun}
    (h : Known agentConfig s) {controller : InnerState}
    (hmono : agentConfig.agentId ∈ s.controller.agents →
      agentConfig.agentId ∈ controller.agents) :
    Known agentConfig { s with controller := controller } := by
  refine ⟨h.requests, fun answer hanswer => ?_, fun epoch accepted hlatest => ?_⟩
  · obtain ⟨hle, haccepted⟩ := h.answers answer hanswer
    exact ⟨hle, fun hepoch haccepts => hmono (haccepted hepoch haccepts)⟩
  · obtain ⟨hle, haccepted⟩ := h.latest epoch accepted hlatest
    exact ⟨hle, fun hepoch haccepts => hmono (haccepted hepoch haccepts)⟩

/-- A heartbeat that is handled while the agent is registered may be accepted. -/
theorem Known.handle {agentConfig : ControllerConfig} {s : RegistrationRun}
    (h : Known agentConfig s) {index exchange : ℕ} {request : AgentRequest} {now : SystemTime}
    (hrequest : s.requests[index]? = some (exchange, request))
    (hregistered : HeartbeatsFromRegistered s (.handle index now)) :
    Known agentConfig { s with
      requests := s.requests.eraseIdx index
      answers := ⟨exchange, s.epoch, (answerRequest request now s.controller).2⟩ :: s.answers
      controller := (answerRequest request now s.controller).1 } := by
  have hmono : agentConfig.agentId ∈ s.controller.agents →
      agentConfig.agentId ∈ (answerRequest request now s.controller).1.agents :=
    fun hmem => answerRequest_agents_mono hmem request now
  have hkept := h.of_mono hmono
  refine ⟨fun entry hentry => h.requests entry (List.mem_of_mem_eraseIdx hentry), ?_,
    hkept.latest⟩
  intro answer hanswer
  rcases List.mem_cons.mp hanswer with rfl | hold
  · refine ⟨le_rfl, fun _ haccepts => hmono ?_⟩
    cases request with
    | hello req => exact haccepts.elim
    | heartbeat req =>
        have hagent := h.requests _ (List.mem_of_getElem? hrequest) req rfl
        rw [← hagent]
        simpa [HeartbeatsFromRegistered, hrequest] using hregistered
  · exact hkept.answers answer hold

theorem known_of_step {agentConfig : ControllerConfig} {s t : RegistrationRun}
    {a : RegistrationStep} (h : Known agentConfig s) (hregistered : HeartbeatsFromRegistered s a)
    (hstep : registrationStep agentConfig s a = some t) : Known agentConfig t := by
  cases a with
  | sendHello release arch =>
      obtain ⟨-, hstep⟩ := Option.ite_none_right_eq_some.mp hstep
      cases hstep
      exact h.send nofun
  | sendHeartbeat uptimeSeconds counters applied =>
      obtain ⟨-, hstep⟩ := Option.ite_none_right_eq_some.mp hstep
      cases hstep
      refine h.forget.send fun req hreq => ?_
      cases hreq
      rfl
  | handle index now =>
      simp only [registrationStep] at hstep
      split at hstep
      · next exchange request hrequest =>
          cases hstep
          exact h.handle hrequest hregistered
      · cases hstep
  | receive index =>
      simp only [registrationStep] at hstep
      split at hstep
      · next answer hanswer =>
          obtain ⟨-, hstep⟩ := Option.ite_none_right_eq_some.mp hstep
          cases hstep
          exact h.read hanswer
      · cases hstep
  | giveUp error =>
      obtain ⟨-, hstep⟩ := Option.ite_none_right_eq_some.mp hstep
      cases hstep
      exact ⟨h.requests, h.answers, h.latest⟩
  | restart config startedAt =>
      cases hstep
      exact h.restart config startedAt
  | other request =>
      cases hstep
      exact h.of_mono fun hmem => handle_agents_mono hmem request

/-- **When an agent stays visible.** In every run in which no controller handles a
heartbeat of the agent before it has the agent in its registry, the agent is
visible whenever the running controller has accepted its latest heartbeat. -/
theorem visible_of_registered (agentConfig : ControllerConfig) (config : ConfigResponse)
    (startedAt : SystemTime) (schedule : List RegistrationStep)
    (hregistered : (registrationMachine agentConfig config startedAt).EachStep
      HeartbeatsFromRegistered (registrationMachine agentConfig config startedAt).init schedule) :
    (registrationMachine agentConfig config startedAt).Always (Visible agentConfig)
      (registrationMachine agentConfig config startedAt).init schedule := by
  have hinit : Known agentConfig (registrationMachine agentConfig config startedAt).init := by
    constructor <;> nofun
  have hknown := Machine.always_of_eachStep known_of_step hinit hregistered
  exact hknown.mono fun _ => Known.visible

/-- The agent that the schedules below are about. -/
def workerAgent : ControllerConfig := ⟨"node/worker-1", "worker-1"⟩

def workerMachine : Machine RegistrationRun RegistrationStep :=
  registrationMachine workerAgent ConfigResponse.defaultV1 0

/-- The agent says hello and is accepted. -/
def registering : List RegistrationStep :=
  [.sendHello (some "6.8.0\n") "x86_64", .handle 0 0, .receive 0]

/-- The agent sends a heartbeat and reads the answer. -/
def beating : List RegistrationStep :=
  [.sendHeartbeat 30 zeroHeartbeatCounters none, .handle 0 1000000000, .receive 0]

theorem visible_beating :
    (workerMachine.exec workerMachine.init (registering ++ beating)).isSome ∧
      workerMachine.Always (Visible workerAgent) workerMachine.init
        (registering ++ beating) :=
  ⟨by decide +kernel,
    visible_of_registered workerAgent ConfigResponse.defaultV1 0 _ (by decide +kernel)⟩

/-- The controller is restarted between two heartbeats, and the second is accepted
all the same. -/
theorem not_visible_restarted :
    ¬ workerMachine.Always (Visible workerAgent) workerMachine.init
      (registering ++ beating ++ [.restart ConfigResponse.defaultV1 0] ++ beating) := by
  decide +kernel

/-! ## Why a heartbeat does not register -/

theorem ofAccepted_accepted {version : String} (hversion : Text.trim version ≠ "") :
    acceptReply HeartbeatResponse.validate (httpReply (.ok (HeartbeatResponse.ofAccepted
      version))) = .ok (HeartbeatResponse.ofAccepted version) := by
  have hvalid : (HeartbeatResponse.ofAccepted version).validate = .ok () := by
    simp [HeartbeatResponse.validate, HeartbeatResponse.ofAccepted, Checks.bind_eq_ok_iff,
      hversion]
  simp [httpReply, acceptReply, acceptBody, isSuccess, hvalid, bind, Except.bind, pure,
    Except.pure]

/-- A valid heartbeat that reaches a controller without the agent, and whose answer
reaches the agent, leaves the agent invisible. -/
theorem invisible_of_unregistered {agentConfig : ControllerConfig}
    {s t u : RegistrationRun} {index : ℕ} {now : SystemTime} {req : HeartbeatRequest}
    (hphase : s.agent.phase = .heartbeat)
    (hrequest : s.requests[index]? = some (s.exchange, .heartbeat req))
    (hvalid : req.validate = .ok ()) (hversion : Text.trim s.controller.config.version ≠ "")
    (hunknown : agentConfig.agentId ∉ s.controller.agents)
    (hhandle : registrationStep agentConfig s (.handle index now) = some t)
    (hreceive : registrationStep agentConfig t (.receive 0) = some u) :
    ¬ Visible agentConfig u := by
  obtain ⟨hreply, hagents⟩ :
      (answerRequest (.heartbeat req) now s.controller).2 =
          .heartbeat (httpReply (.ok
            (HeartbeatResponse.ofAccepted s.controller.config.version))) ∧
        (answerRequest (.heartbeat req) now s.controller).1.agents = s.controller.agents := by
    simp [answerRequest, recordHeartbeat, hvalid]
  simp only [registrationStep, hrequest, Option.some.injEq] at hhandle
  subst hhandle
  simp only [registrationStep, List.getElem?_cons_zero] at hreceive
  obtain ⟨-, hread⟩ := Option.ite_none_right_eq_some.mp hreceive
  cases hread
  intro hvisible
  apply hunknown
  rw [← hagents]
  simp only [RegistrationRun.read, hreply, ofAccepted_accepted hversion, Visible] at hvisible
  apply hvisible
  · exact hphase
  · rfl

/-- An agent that is not in the registry is in neither list, whatever the age and
the hash that are asked for. -/
theorem unreported_of_unregistered {agentId : String} {inner : InnerState}
    (hunknown : agentId ∉ inner.agents) (maxAge : ℕ) (now : SystemTime)
    (targetHash : String) :
    agentId ∉ staleAgents maxAge now inner ∧ agentId ∉ unconvergedAgents targetHash inner := by
  apply And.intro
  · intro hstale
    exact hunknown (mem_staleAgents_iff.mp hstale).1
  · intro hunconverged
    exact hunknown (mem_unconvergedAgents_iff.mp hunconverged).1

end Tapio.Controller
