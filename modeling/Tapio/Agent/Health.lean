/-
# Reported health and initialised observers

A heartbeat calls an observer running when its flag is set in the applied
config. Whether the observer has loaded, initialised its map and registered is
not asked. This module says exactly which runs keep the report honest.
-/
import Tapio.Agent.Descriptors

namespace Tapio.Agent

open Wire Transition

/-- The carrier name of an observer in a heartbeat. -/
def carrierOf (observer : String) : String :=
  if observer = "node" then "node_pmc" else observer

/-- The observer's carrier is registered, its map is open, and the config in it
has the flag set. -/
def CarrierEnabled (s : AgentRun) (observer : String) (flag : UInt64) : Prop :=
  ∃ c ∈ s.agent.carriers.carriers, c.observer = observer ∧
    s.agent.kernel.fds c.mapFd = some (.configMap observer) ∧
    (s.agent.kernel.configMaps observer).flags &&& flag ≠ 0

/-- What a heartbeat would report as running now is registered and enabled. -/
def HeartbeatHonest (s : AgentRun) : Prop :=
  ∀ o ∈ observers, (observerStatuses s.agent.activeConfig)[o.1]? = some .running →
    CarrierEnabled s (carrierOf o.1) o.2

instance (s : AgentRun) (observer : String) (flag : UInt64) :
    Decidable (CarrierEnabled s observer flag) :=
  inferInstanceAs (Decidable (∃ c ∈ s.agent.carriers.carriers, _))

instance : DecidablePred HeartbeatHonest := fun s =>
  inferInstanceAs (Decidable (∀ o ∈ observers,
    (observerStatuses s.agent.activeConfig)[o.1]? = some .running →
      CarrierEnabled s (carrierOf o.1) o.2))

/-- A poll that accepts a config enables only observers that are registered and
have not returned, and whose map has the flag already or is written; and an
observer returns only while its flag is not set in the applied config. -/
def HonestStep (s : AgentRun) : AgentStep → Prop
  | .poll reply ok =>
      ∀ a ∈ acceptedConfig reply, ∀ o ∈ observers, a.tapioConfig.flags &&& o.2 ≠ 0 →
        ∃ c ∈ s.agent.carriers.carriers, c.observer = carrierOf o.1 ∧
          s.phases c.observer ≠ .returned ∧
          ((s.agent.kernel.configMaps c.observer).flags &&& o.2 ≠ 0 ∨
            ∃ w ∈ s.agent.carriers.carriers, w.mapFd = c.mapFd ∧ ok w)
  | .observerReturn observer =>
      ∀ o ∈ observers, carrierOf o.1 = observer →
        ∀ identity ∈ s.agent.activeConfig, identity.flags &&& o.2 = 0
  | _ => True

theorem Owned.carrierEnabled_iff {s : AgentRun} (hs : Owned s) (observer : String)
    (flag : UInt64) :
    CarrierEnabled s observer flag ↔ ∃ fd, s.phases observer = .registered fd ∧
      (s.agent.kernel.configMaps observer).flags &&& flag ≠ 0 := by
  apply Iff.intro
  · rintro ⟨c, hc, rfl, hfd, hflag⟩
    refine ⟨c.mapFd, ?_, hflag⟩
    rcases hs.carriers c hc with h | h
    · exact h
    · exact absurd h ((hs.entry_iff hc).mp hfd)
  · intro ⟨fd, hphase, hflag⟩
    exact ⟨_, hs.complete observer fd hphase, rfl, (hs.denotes _ _).mpr (.inr hphase), hflag⟩

/-- The report is honest when every observer that the applied config enables is
registered and has its flag in its map. -/
theorem Owned.heartbeatHonest_iff {s : AgentRun} (hs : Owned s) :
    HeartbeatHonest s ↔ ∀ o ∈ observers, ∀ identity ∈ s.agent.activeConfig,
      identity.flags &&& o.2 ≠ 0 → ∃ fd, s.phases (carrierOf o.1) = .registered fd ∧
        (s.agent.kernel.configMaps (carrierOf o.1)).flags &&& o.2 ≠ 0 := by
  refine forall₂_congr fun o ho => ?_
  rw [observerStatuses_get ho, Option.some.injEq, observerStatus_running_iff,
    hs.carrierEnabled_iff]
  simp only [forall_exists_index, and_imp]

/-- A step keeps the report honest if it moves only an observer that the applied
config does not enable. -/
theorem heartbeatHonest_of_frame {s t : AgentRun} {moved : Option String} (hs : Owned s)
    (ht : Owned t) (hframe : Frame s t moved) (hhonest : HeartbeatHonest s)
    (hmoved : ∀ o ∈ observers, moved = some (carrierOf o.1) →
      ∀ identity ∈ s.agent.activeConfig, identity.flags &&& o.2 = 0) :
    HeartbeatHonest t := by
  rw [hs.heartbeatHonest_iff] at hhonest
  rw [ht.heartbeatHonest_iff, hframe.activeConfig]
  intro o ho identity hidentity hflag
  have hne : moved ≠ some (carrierOf o.1) := fun h => hflag (hmoved o ho h identity hidentity)
  rw [hframe.phases _ hne, hframe.configMaps _ hne]
  exact hhonest o ho identity hidentity hflag

/-- An observer that is still loading is not reported as running by an honest
report. -/
theorem not_enabled_of_loading {s : AgentRun} (hs : Owned s) (hhonest : HeartbeatHonest s)
    {o : String × UInt64} (ho : o ∈ observers)
    (hphase : s.phases (carrierOf o.1) = .notStarted ∨
      ∃ m, s.phases (carrierOf o.1) = .loaded m) :
    ∀ identity ∈ s.agent.activeConfig, identity.flags &&& o.2 = 0 := by
  intro identity hidentity
  by_contra hflag
  obtain ⟨fd, hregistered, -⟩ := hs.heartbeatHonest_iff.mp hhonest o ho identity hidentity hflag
  rcases hphase with h | ⟨m, h⟩ <;> simp [h] at hregistered

theorem heartbeatHonest_return_iff {s t : AgentRun} {observer : String} (hs : Owned s)
    (ht : Owned t) (hhonest : HeartbeatHonest s)
    (hstep : agentStep s (.observerReturn observer) = some t) :
    HeartbeatHonest t ↔ HonestStep s (.observerReturn observer) := by
  have hframe := hs.frame rfl hstep
  apply Iff.intro
  · intro hhonest' o ho hcarrier identity hidentity
    by_contra hflag
    rw [← hframe.activeConfig] at hidentity
    obtain ⟨fd, hphase', -⟩ :=
      ht.heartbeatHonest_iff.mp hhonest' o ho identity hidentity hflag
    cases stepped_of_agentStep hstep with
    | returned hphase => simp [AgentRun.setPhase, hcarrier] at hphase'
  · intro hdisabled
    exact heartbeatHonest_of_frame hs ht hframe hhonest fun o ho h =>
      hdisabled o ho (Option.some.inj h).symm

theorem heartbeatHonest_poll_iff {s : AgentRun} (hs : Owned s)
    {reply : HttpReply ConfigResponse} {accepted : AcceptedConfig}
    (h : acceptedConfig reply = some accepted) (ok : ConfigCarrier → Bool) :
    HeartbeatHonest (s.poll reply ok) ↔ HonestStep s (.poll reply ok) := by
  have hactive : (s.poll reply ok).agent.activeConfig = some accepted.identity := by
    simp [AgentRun.poll, pollOnce_of_some h]
  rw [(hs.poll reply ok).heartbeatHonest_iff, hactive]
  simp only [HonestStep, h, Option.mem_def, Option.some.injEq, forall_eq',
    AgentRun.poll_configMaps h, AcceptedConfig.identity]
  refine forall₂_congr fun o ho => forall_congr' fun hflag => ?_
  apply Iff.intro
  · rintro ⟨fd, hphase, henabled⟩
    refine ⟨_, hs.complete _ fd hphase, rfl, by simp [show s.phases _ = _ from hphase], ?_⟩
    split at henabled
    · next hwritten =>
        obtain ⟨w, hw, hfd, hok⟩ := hwritten
        refine .inr ⟨w, hw, ?_, hok⟩
        have hholder := (hs.denotes _ _).mp hfd
        rw [show s.phases _ = _ from hphase] at hholder
        simpa [eq_comm] using hholder
    · exact .inl henabled
  · rintro ⟨c, hc, hcarrier, hphase, henabled⟩
    have hfd := (hs.entry_iff hc).mpr hphase
    have hregistered := (hs.carriers c hc).resolve_right hphase
    rw [← hcarrier]
    refine ⟨c.mapFd, hregistered, ?_⟩
    split
    · exact hflag
    · next hunwritten =>
        refine henabled.resolve_right ?_
        rintro ⟨w, hw, hsame, hok⟩
        exact hunwritten ⟨w, hw, hsame ▸ hfd, hok⟩

theorem heartbeatHonest_step {s t : AgentRun} {a : AgentStep} (hs : Owned s)
    (hhonest : HeartbeatHonest s) (hstep : agentMachine.step s a = some t) :
    HeartbeatHonest t ↔ HonestStep s a := by
  have ht := owned_invariant.step hs hstep
  have hkept (hpoll : a.isPoll = false)
      (hreturn : ∀ o, a ≠ .observerReturn o) : HeartbeatHonest t := by
    refine heartbeatHonest_of_frame hs ht (hs.frame hpoll hstep) hhonest fun o ho hmoved => ?_
    exact not_enabled_of_loading hs hhonest ho
      ((phase_of_observer hstep hmoved).resolve_right (hreturn _))
  cases a with
  | openFd fd => exact iff_of_true (hkept rfl (by simp)) trivial
  | closeFd fd => exact iff_of_true (hkept rfl (by simp)) trivial
  | loadFailed observer => exact iff_of_true (hkept rfl (by simp)) trivial
  | load observer configMap => exact iff_of_true (hkept rfl (by simp)) trivial
  | register observer initOk lateOk => exact iff_of_true (hkept rfl (by simp)) trivial
  | observerReturn observer => exact heartbeatHonest_return_iff hs ht hhonest hstep
  | poll reply ok =>
      cases hstep
      cases h : acceptedConfig reply with
      | none =>
          rw [AgentRun.poll_of_none h]
          exact iff_of_true hhonest (by simp [HonestStep, h])
      | some accepted => exact heartbeatHonest_poll_iff hs h ok

/-- **Reported health is honest when polls enable only what is ready.** A run
keeps the report honest exactly when every accepted poll enables only registered
observers whose maps have the flag or are written, and no observer returns while
the applied config enables it. -/
theorem heartbeatHonest_iff_honestSteps (schedule : List AgentStep) :
    agentMachine.Always HeartbeatHonest agentMachine.init schedule ↔
      agentMachine.EachStep HonestStep agentMachine.init schedule :=
  Machine.always_iff_eachStep owned_invariant.step heartbeatHonest_step
    owned_invariant.init (by decide) schedule

/-- The network observer's object cannot be loaded, and the first config makes
the heartbeat report it as running. -/
theorem not_heartbeatHonest_loadFailed :
    ¬ agentMachine.Always HeartbeatHonest agentMachine.init
      [.loadFailed "network", .poll (.response 200 (.ok servedConfig)) fun _ => true] := by
  decide

end Tapio.Agent
