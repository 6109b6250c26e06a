/-
# Convergence and what it is read from

An agent counts as converged on a config hash when its stored heartbeat carries that
hash. A hello starts a new incarnation of the agent, which has reported nothing yet.
It resets the agent's sequence tracking, but the stored heartbeat stays, and with it
what the previous incarnation reported.
-/
import Tapio.Agent.Registration
import Tapio.Controller.Totals

namespace Tapio.Controller

open Wire Transition

/-- The heartbeats of an agent accepted since its latest accepted hello, newest
first, from the calls, newest first. -/
def heartbeatsSinceHello (agentId : String) : List Call → List HeartbeatRequest
  | [] => []
  | ⟨.hello hello _, .ok ()⟩ :: earlier =>
      if hello.agentId = agentId then [] else heartbeatsSinceHello agentId earlier
  | ⟨.heartbeat heartbeat _, .ok ()⟩ :: earlier =>
      if heartbeat.agentId = agentId then heartbeat :: heartbeatsSinceHello agentId earlier
      else heartbeatsSinceHello agentId earlier
  | _ :: earlier => heartbeatsSinceHello agentId earlier

/-- A registered agent is missing from the unconverged ones only if its latest
heartbeat since its latest hello carried the hash. -/
def ConvergedOnEvidence (s : ServedRun) : Prop :=
  ∀ (agentId targetHash : String), agentId ∈ s.controller.agents →
    agentId ∉ unconvergedAgents targetHash s.controller →
      ∃ latest ∈ (heartbeatsSinceHello agentId s.calls).head?,
        latest.configHash = targetHash

/-- A hello that is accepted comes from an agent of which no heartbeat is stored. -/
def HellosUnheard (s : ServedRun) : Request → Prop
  | .hello hello _ =>
      hello.validate = .ok () → s.controller.lastHeartbeats[hello.agentId]? = none
  | _ => True

/-- What the latest hello left standing is the stored heartbeat. -/
def LatestStored (s : ServedRun) : Prop :=
  ∀ (agentId : String), ∀ latest ∈ (heartbeatsSinceHello agentId s.calls).head?,
    (s.controller.lastHeartbeats[agentId]?).map (·.heartbeat) = some latest

/-- With the latest heartbeat stored, convergence rests on evidence when no registered
agent has a stored heartbeat from before its latest hello. -/
theorem convergedOnEvidence_iff {s : ServedRun} (hs : LatestStored s) :
    ConvergedOnEvidence s ↔
      ∀ agentId ∈ s.controller.agents, heartbeatsSinceHello agentId s.calls = [] →
        s.controller.lastHeartbeats[agentId]? = none := by
  apply Iff.intro
  · intro hconverged agentId hregistered hsince
    cases hstored : s.controller.lastHeartbeats[agentId]? with
    | none => rfl
    | some stored =>
        have hout : agentId ∉ unconvergedAgents stored.heartbeat.configHash s.controller :=
          fun hmem => (mem_unconvergedAgents_iff.mp hmem).2 stored hstored rfl
        obtain ⟨latest, hlatest, -⟩ := hconverged agentId _ hregistered hout
        rw [hsince] at hlatest
        cases hlatest
  · intro hfresh agentId targetHash hregistered hout
    obtain ⟨stored, hstored, hhash⟩ : ∃ stored ∈ s.controller.lastHeartbeats[agentId]?,
        stored.heartbeat.configHash = targetHash := by
      by_contra hnone
      refine hout (mem_unconvergedAgents_iff.mpr ⟨hregistered, fun stored hstored hhash => ?_⟩)
      exact hnone ⟨stored, hstored, hhash⟩
    cases hsince : heartbeatsSinceHello agentId s.calls with
    | nil =>
        rw [hfresh agentId hregistered hsince] at hstored
        cases hstored
    | cons latest earlier =>
        have hlatest := hs agentId latest (by rw [hsince]; rfl)
        rw [hstored] at hlatest
        obtain rfl := Option.some.inj hlatest
        exact ⟨stored.heartbeat, rfl, hhash⟩

/-! ## What a call does to the evidence -/

/-- The heartbeats since the latest hello after one more call. -/
inductive Evidence (s t : ServedRun) (agentId : String) : Request → Prop
  | restarted {now : SystemTime} {hello : HelloRequest} (hvalid : hello.validate = .ok ())
      (hown : hello.agentId = agentId) (hregistered : agentId ∈ t.controller.agents)
      (hsince : heartbeatsSinceHello agentId t.calls = [])
      (hstored : t.controller.lastHeartbeats[agentId]? =
        s.controller.lastHeartbeats[agentId]?) : Evidence s t agentId (.hello hello now)
  | heard {now : SystemTime} {heartbeat : HeartbeatRequest}
      (hsince : heartbeatsSinceHello agentId t.calls =
        heartbeat :: heartbeatsSinceHello agentId s.calls)
      (hstored : t.controller.lastHeartbeats[agentId]? = some ⟨heartbeat, now⟩) :
      Evidence s t agentId (.heartbeat heartbeat now)
  | same {request : Request}
      (hregistered : agentId ∈ t.controller.agents ↔ agentId ∈ s.controller.agents)
      (hsince : heartbeatsSinceHello agentId t.calls = heartbeatsSinceHello agentId s.calls)
      (hstored : t.controller.lastHeartbeats[agentId]? =
        s.controller.lastHeartbeats[agentId]?)
      (hother : ∀ hello now, request = .hello hello now → hello.validate = .ok () →
        hello.agentId ≠ agentId) : Evidence s t agentId request

theorem evidence_serve (s : ServedRun) (request : Request) (agentId : String) :
    Evidence s (serve s request) agentId request := by
  have hhandled := handled request s.controller
  unfold serve
  generalize houtcome : request.outcome s.controller = outcome,
    handle request s.controller = after at hhandled ⊢
  cases hhandled with
  | @registered hello now hvalid =>
      by_cases hown : hello.agentId = agentId
      · exact .restarted hvalid hown (by simp [hown]) (by simp [heartbeatsSinceHello, hown]) rfl
      · refine .same (by simp [hown]) (by simp [heartbeatsSinceHello, hown]) rfl ?_
        rintro _ _ ⟨⟩ -
        exact hown
  | @heard heartbeat now hvalid =>
      by_cases hown : heartbeat.agentId = agentId
      · exact .heard (by simp [heartbeatsSinceHello, hown]) (by simp [hown])
      · exact .same Iff.rfl (by simp [heartbeatsSinceHello, hown])
          (by simp [Std.ExtTreeMap.getElem?_insert, hown]) (by rintro _ _ ⟨⟩)
  | accepted hvalid => exact .same Iff.rfl rfl rfl (by rintro _ _ ⟨⟩)
  | rejected hinvalid => exact .same Iff.rfl rfl rfl (by rintro _ _ ⟨⟩)
  | refused hevents =>
      cases request with
      | hello hello now =>
          refine .same Iff.rfl rfl rfl ?_
          rintro _ _ ⟨⟩ hvalid
          simp [Request.outcome, registerAgent, hvalid, Except.map] at houtcome
      | heartbeat heartbeat now => exact .same Iff.rfl rfl rfl (by rintro _ _ ⟨⟩)
      | events batch => cases hevents
      | config _ _ | status _ => exact .same Iff.rfl rfl rfl (by rintro _ _ ⟨⟩)
  | read hreads =>
      cases request with
      | config _ _ | status _ => exact .same Iff.rfl rfl rfl (by rintro _ _ ⟨⟩)
      | hello _ _ | heartbeat _ _ | events _ => cases hreads

/-- The latest heartbeat stays the stored one. -/
theorem latestStored_serve {s : ServedRun} (hs : LatestStored s) (request : Request) :
    LatestStored (serve s request) := by
  intro agentId latest hlatest
  cases evidence_serve s request agentId with
  | restarted hvalid hown hregistered hsince hstored =>
      rw [hsince] at hlatest
      cases hlatest
  | heard hsince hstored =>
      rw [hsince] at hlatest
      obtain rfl := Option.some.inj hlatest
      rw [hstored, Option.map_some]
  | same hregistered hsince hstored hother =>
      rw [hsince] at hlatest
      rw [hstored]
      exact hs agentId latest hlatest

theorem latestStored_new (config : ConfigResponse) (startedAt : SystemTime) :
    LatestStored (serviceMachine config startedAt).init :=
  nofun

theorem convergedOnEvidence_new (config : ConfigResponse) (startedAt : SystemTime) :
    ConvergedOnEvidence (serviceMachine config startedAt).init := by
  intro agentId targetHash hregistered
  simp [serviceMachine, InnerState.new] at hregistered

/-- A call after which convergence still rests on evidence is one that is no hello of
an agent already heard. -/
theorem convergedOnEvidence_serve {s : ServedRun} (hs : LatestStored s)
    (hconverged : ConvergedOnEvidence s) (request : Request) :
    ConvergedOnEvidence (serve s request) ↔ HellosUnheard s request := by
  rw [convergedOnEvidence_iff hs] at hconverged
  rw [convergedOnEvidence_iff (latestStored_serve hs request)]
  apply Iff.intro
  · intro hafter
    cases request with
    | hello hello now =>
        intro hvalid
        cases evidence_serve s (.hello hello now) hello.agentId with
        | restarted _ _ hregistered hsince hstored =>
            rw [← hstored]
            exact hafter _ hregistered hsince
        | same _ _ _ hother => exact absurd rfl (hother hello now rfl hvalid)
    | config _ _ | heartbeat _ _ | events _ | status _ => exact trivial
  · intro hunheard agentId hregistered' hsince'
    cases evidence_serve s request agentId with
    | @restarted now hello hvalid hown hregistered hsince hstored =>
        rw [hstored, ← hown]
        exact hunheard hvalid
    | heard hsince hstored =>
        rw [hsince] at hsince'
        cases hsince'
    | same hregistered hsince hstored hother =>
        rw [hstored]
        exact hconverged agentId (hregistered.mp hregistered') (hsince.symm.trans hsince')

/-- **Convergence on evidence.** In every state of a run, convergence is read from a
heartbeat since the agent's latest hello, exactly if no hello that was accepted came
from an agent of which a heartbeat was stored. -/
theorem convergedOnEvidence_iff_hellosUnheard (config : ConfigResponse)
    (startedAt : SystemTime) (requests : List Request) :
    (serviceMachine config startedAt).Always ConvergedOnEvidence
        (serviceMachine config startedAt).init requests ↔
      (serviceMachine config startedAt).EachStep HellosUnheard
        (serviceMachine config startedAt).init requests := by
  refine Machine.always_iff_eachStep (J := LatestStored) (fun {s request t} hs hstep => ?_)
    (fun {s request t} hs hconverged hstep => ?_) (latestStored_new config startedAt)
    (convergedOnEvidence_new config startedAt) requests
  · cases hstep
    exact latestStored_serve hs request
  · cases hstep
    exact convergedOnEvidence_serve hs hconverged request

/-- A converged agent is restarted and says hello again. -/
def restartedAgent : List Request :=
  let agent : Agent.ControllerConfig := ⟨"node/worker-1", "worker-1"⟩
  [.hello (Agent.buildHelloRequest agent "6.8.0" "x86_64") 0,
    .heartbeat (Agent.buildHeartbeatRequest agent 30 zeroHeartbeatCounters
      (some ⟨"1", "sha256:aa", 15⟩)) 30000000000,
    .hello (Agent.buildHelloRequest agent "6.8.0" "x86_64") 60000000000]

/-- After its second hello the agent has reported nothing, and is not listed. -/
theorem not_convergedOnEvidence_restarted :
    ¬ (serviceMachine ConfigResponse.defaultV1 0).Always ConvergedOnEvidence
      (serviceMachine ConfigResponse.defaultV1 0).init restartedAgent := by
  intro halways
  have hstale : ¬ (serviceMachine ConfigResponse.defaultV1 0).Always
      (fun s => "node/worker-1" ∈ s.controller.agents →
        "node/worker-1" ∉ unconvergedAgents "sha256:aa" s.controller →
          (heartbeatsSinceHello "node/worker-1" s.calls).head? ≠ none)
      (serviceMachine ConfigResponse.defaultV1 0).init restartedAgent := by
    decide +kernel
  refine hstale (halways.mono fun s hs hregistered hout hnone => ?_)
  obtain ⟨latest, hlatest, -⟩ := hs _ _ hregistered hout
  rw [hnone] at hlatest
  cases hlatest

end Tapio.Controller
