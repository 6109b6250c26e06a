/-
# The reported identity and the maps behind it

A heartbeat reports the hash of the applied config, and the applied config is
meant to be what the kernel runs. The poll loop marks a config as applied after
its fan-out, also when some carriers could not be written, and a registration
counts as successful when its late write fails. This module says exactly which
runs keep the identity true: those in which neither happens.

Observers register and never return here; what returning does is the subject of
the next modules.
-/
import Tapio.Agent.Process

namespace Tapio.Agent

open Wire Transition

/-- The steps of a process whose observers stay. -/
def AgentStep.staying : AgentStep → Bool
  | .observerReturn _ => false
  | _ => true

/-- The agent without observers that return. -/
def stayingMachine : Machine AgentRun AgentStep := agentMachine.restrict AgentStep.staying

/-- Every registered map holds the config that the response compiles to. -/
def MapsHold (s : AgentRun) (a : AcceptedConfig) : Prop :=
  ∀ c ∈ s.agent.carriers.carriers,
    s.agent.kernel.tapioConfigAt c.mapFd =
      (tapioConfigFromCompiled a.response.config a.response.version).toOption

/-- If the agent reports a hash, every registered map holds the config of the
latest applied response with this hash. -/
def IdentityTrue (s : AgentRun) : Prop :=
  ∀ identity ∈ s.agent.activeConfig,
    ∀ a ∈ s.accepted.find? fun a => a.response.configHash = identity.hash, MapsHold s a

instance (s : AgentRun) (a : AcceptedConfig) : Decidable (MapsHold s a) :=
  inferInstanceAs (Decidable (∀ c ∈ s.agent.carriers.carriers, _))

instance : DecidablePred IdentityTrue := fun s =>
  inferInstanceAs (Decidable (∀ identity ∈ s.agent.activeConfig,
    ∀ a ∈ s.accepted.find? fun a => a.response.configHash = identity.hash, MapsHold s a))

/-- A poll that accepts a config fails no write, except to a map that holds the
config already, and a registration that finds a current config does not fail
the late write of it. -/
def WritesStep (s : AgentRun) : AgentStep → Prop
  | .poll reply ok =>
      ∀ a ∈ acceptedConfig reply, ∀ c ∈ s.agent.carriers.carriers,
        ok c ∨ s.agent.kernel.tapioConfigAt c.mapFd = some a.tapioConfig
  | .register observer initOk lateOk =>
      s.phases observer ≠ .loaded none → initOk →
        s.agent.carriers.current ≠ none → lateOk
  | _ => True

/-- No registered observer has returned. -/
def Staying (s : AgentRun) : Prop :=
  ∀ c ∈ s.agent.carriers.carriers, s.phases c.observer = .registered c.mapFd

theorem Staying.holds {s : AgentRun} (hs : Owned s) (hstay : Staying s)
    {c : ConfigCarrier} (hc : c ∈ s.agent.carriers.carriers) :
    s.agent.kernel.tapioConfigAt c.mapFd =
      some (s.agent.kernel.configMaps c.observer) :=
  Kernel.tapioConfigAt_of_fds ((hs.denotes _ _).mpr (.inr (hstay c hc)))

theorem Staying.poll {s : AgentRun} (hstay : Staying s) (reply : HttpReply ConfigResponse)
    (ok : ConfigCarrier → Bool) : Staying (s.poll reply ok) := by
  cases h : acceptedConfig reply with
  | none => rwa [AgentRun.poll_of_none h]
  | some accepted =>
      simp only [AgentRun.poll, pollOnce_of_some h]
      exact hstay

/-- The observers that stay own their descriptors in every run. -/
theorem staying_invariant : stayingMachine.Invariant fun s => Owned s ∧ Staying s where
  init := ⟨owned_invariant.init, fun c hc => absurd hc List.not_mem_nil⟩
  step := by
    intro s a t ⟨hs, hstay⟩ hstep
    obtain ⟨hallowed, hstep⟩ := Machine.restrict_step hstep
    refine ⟨owned_invariant.step hs hstep, ?_⟩
    cases hpoll : a.isPoll with
    | true =>
        cases a with
        | poll reply ok =>
            cases hstep
            exact hstay.poll reply ok
        | _ => cases hpoll
    | false =>
        have hframe := hs.frame hpoll hstep
        intro c hc
        rcases hframe.carriers c hc with hc | hnew
        · have hne : a.observer ≠ some c.observer := by
            intro ho
            rcases phase_of_observer hstep ho with hphase | rfl
            · exact hs.not_registered hphase hc rfl
            · simp [AgentStep.staying] at hallowed
          rw [hframe.phases c.observer hne]
          exact hstay c hc
        · exact hnew

/-- The identity is true when every registered observer's map holds the latest
applied config. -/
theorem identityTrue_iff {s : AgentRun} (hs : Owned s) (hstay : Staying s) :
    IdentityTrue s ↔ ∀ latest ∈ s.accepted.head?, ∀ o fd, s.phases o = .registered fd →
      s.agent.kernel.configMaps o = latest.tapioConfig := by
  rw [IdentityTrue]
  rw [hs.identity]
  cases haccepted : s.accepted with
  | nil => simp
  | cons latest older =>
      have hcompiled := hs.compiled latest (by simp [haccepted])
      simp only [List.head?_cons, Option.map_some, Option.mem_def, Option.some.injEq,
        forall_eq', AcceptedConfig.identity, List.find?_cons, decide_true, MapsHold,
        hcompiled, Except.toOption]
      apply Iff.intro
      · intro hmaps o fd hphase
        have hc := hs.complete o fd hphase
        simpa [hstay.holds hs hc] using hmaps _ hc
      · intro hmaps c hc
        rw [hstay.holds hs hc, hmaps c.observer c.mapFd (hstay c hc)]

/-- A step that registers nobody keeps the identity true. -/
theorem identityTrue_of_frame {s t : AgentRun} {moved : Option String}
    (hs : Owned s) (hstay : Staying s) (ht : Owned t) (hstay' : Staying t)
    (hframe : Frame s t moved)
    (hmoved : ∀ o fd, moved = some o → t.phases o ≠ .registered fd)
    (htrue : IdentityTrue s) : IdentityTrue t := by
  rw [identityTrue_iff hs hstay] at htrue
  rw [identityTrue_iff ht hstay', hframe.accepted]
  intro latest hlatest o fd hphase
  have ho : moved ≠ some o := fun h => hmoved o fd h hphase
  rw [hframe.configMaps o ho]
  exact htrue latest hlatest o fd (hframe.phases o ho ▸ hphase)

/-- After a registration that finds a current config, the identity is true
exactly if the late write succeeds. -/
theorem identityTrue_register_iff {s : AgentRun} (hs : Owned s) (hstay : Staying s)
    {observer : String} {fd : RawFd} (hphase : s.phases observer = .loaded (some fd))
    {lateOk : Bool} (hstay' : Staying (s.register observer fd true lateOk))
    (htrue : IdentityTrue s) :
    IdentityTrue (s.register observer fd true lateOk) ↔
      (s.agent.carriers.current ≠ none → lateOk) := by
  have hfd := (hs.denotes fd observer).mpr (.inl hphase)
  have hframe := hs.frame_register hphase true lateOk
  rw [identityTrue_iff (hs.registerOk hphase lateOk) hstay', hframe.accepted, hs.current]
  rw [identityTrue_iff hs hstay] at htrue
  cases haccepted : s.accepted.head? with
  | none => simp
  | some latest =>
      have habi := tapioConfigFromCompiled_abiVersion
        (hs.compiled latest (List.mem_of_head? haccepted))
      have hself : (s.register observer fd true lateOk).agent.kernel.configMaps observer =
          if lateOk then latest.tapioConfig else TapioConfig.default := by
        rw [AgentRun.register_ok hfd]
        refine (AgentRun.registeredKernel_configMaps hfd lateOk observer).trans ?_
        simp [hs.current, haccepted]
      have hregistered : (s.register observer fd true lateOk).phases observer =
          .registered fd := by
        rw [AgentRun.register_ok hfd]
        exact Function.update_self ..
      simp only [Option.mem_def, Option.some.injEq, forall_eq', Option.map_some, ne_eq,
        reduceCtorEq, not_false_eq_true, forall_const]
      apply Iff.intro
      · intro hmaps
        have hmap := hmaps observer fd hregistered
        rw [hself] at hmap
        by_contra hlate
        rw [if_neg hlate] at hmap
        rw [← hmap] at habi
        exact absurd habi (by decide)
      · intro hlate o fd' ho
        by_cases hsame : o = observer
        · rw [hsame, hself, if_pos hlate]
        · have hne : some observer ≠ some o := fun h => hsame (Option.some.inj h).symm
          rw [hframe.configMaps o hne]
          exact htrue latest haccepted o fd' (hframe.phases o hne ▸ ho)

/-- After a poll that accepts a config, the identity is true exactly if every
map was written or held the config already. -/
theorem identityTrue_poll_iff {s : AgentRun} (hs : Owned s) (hstay : Staying s)
    {reply : HttpReply ConfigResponse} {accepted : AcceptedConfig}
    (h : acceptedConfig reply = some accepted) (ok : ConfigCarrier → Bool)
    (hstay' : Staying (s.poll reply ok)) :
    IdentityTrue (s.poll reply ok) ↔ ∀ c ∈ s.agent.carriers.carriers,
      ok c ∨ s.agent.kernel.tapioConfigAt c.mapFd = some accepted.tapioConfig := by
  have hhead : (s.poll reply ok).accepted.head? = some accepted := by
    simp [AgentRun.poll, h]
  rw [identityTrue_iff (hs.poll reply ok) hstay', hhead]
  simp only [Option.mem_def, Option.some.injEq, forall_eq', AgentRun.poll_configMaps h]
  -- The only carrier that reaches a registered observer's map is its own.
  have hreach : ∀ o fd, s.phases o = .registered fd →
      ((∃ c ∈ s.agent.carriers.carriers,
          s.agent.kernel.fds c.mapFd = some (.configMap o) ∧ ok c) ↔ ok ⟨o, fd⟩) := by
    intro o fd hphase
    apply Iff.intro
    · rintro ⟨c, hc, hfd, hok⟩
      have hregistered := (hs.denotes _ _).mpr (.inr (hstay c hc))
      obtain rfl : c.observer = o := by simpa [hregistered] using hfd
      obtain rfl : c.mapFd = fd := by simpa [hstay c hc] using hphase
      exact hok
    · exact fun hok => ⟨_, hs.complete o fd hphase, (hs.denotes _ _).mpr (.inr hphase), hok⟩
  apply Iff.intro
  · intro hmaps c hc
    have hmap := hmaps c.observer c.mapFd (hstay c hc)
    by_cases hok : ok c
    · exact .inl hok
    · rw [if_neg (mt (hreach _ _ (hstay c hc)).mp hok)] at hmap
      exact .inr (by rw [hstay.holds hs hc, hmap])
  · intro hwritten o fd hphase
    rcases hwritten _ (hs.complete o fd hphase) with hok | hheld
    · rw [if_pos ((hreach o fd hphase).mpr hok)]
    · split
      · rfl
      · rw [hstay.holds hs (hs.complete o fd hphase)] at hheld
        exact Option.some.inj hheld

/-- Registering, and every step that is neither a registration nor a poll, moves
an observer whose map the identity said nothing about. -/
theorem identityTrue_step {s t : AgentRun} {a : AgentStep} (hs : Owned s ∧ Staying s)
    (htrue : IdentityTrue s) (hstep : stayingMachine.step s a = some t) :
    IdentityTrue t ↔ WritesStep s a := by
  obtain ⟨ht, hstay'⟩ := staying_invariant.step hs hstep
  obtain ⟨hs, hstay⟩ := hs
  obtain ⟨hallowed, hstep⟩ := Machine.restrict_step hstep
  have hkept (hpoll : a.isPoll = false)
      (hmoved : ∀ o fd, a.observer = some o → t.phases o ≠ .registered fd) :
      IdentityTrue t :=
    identityTrue_of_frame hs hstay ht hstay' (hs.frame hpoll hstep) hmoved htrue
  cases stepped_of_agentStep hstep with
  | opened hfree => exact iff_of_true (hkept rfl (by simp [AgentStep.observer])) trivial
  | closed hother => exact iff_of_true (hkept rfl (by simp [AgentStep.observer])) trivial
  | returned hphase => simp [AgentStep.staying] at hallowed
  | loadFailed hphase hname | loadedBare hphase hname | loaded hphase hname hfree =>
      refine iff_of_true (hkept rfl ?_) trivial
      rintro o fd ⟨⟩
      simp [AgentRun.setPhase]
  | bare hphase =>
      refine iff_of_true (hkept rfl ?_) (fun hne => absurd hphase hne)
      rintro o fd ⟨⟩
      simp [AgentRun.setPhase]
  | @registered observer fd initOk lateOk hphase =>
      cases initOk with
      | false =>
          rw [AgentRun.register_failed ((hs.denotes fd observer).mpr (.inl hphase))] at *
          refine iff_of_true (hkept rfl ?_) (by simp [WritesStep])
          rintro o fd' ⟨⟩
          simp [AgentRun.setPhase]
      | true =>
          rw [identityTrue_register_iff hs hstay hphase hstay' htrue]
          simp [WritesStep, hphase]
  | @polled reply ok =>
      cases h : acceptedConfig reply with
      | none =>
          rw [AgentRun.poll_of_none h]
          exact iff_of_true htrue (by simp [WritesStep, h])
      | some accepted =>
          rw [identityTrue_poll_iff hs hstay h ok hstay']
          simp [WritesStep, h]

/-- **The identity is true when no write that matters fails.** While observers
stay, a run keeps the reported identity true exactly when every accepted poll
writes each map that does not hold its config yet, and no registration fails the
late write of a current config. -/
theorem identityTrue_iff_writes (schedule : List AgentStep) :
    stayingMachine.Always IdentityTrue stayingMachine.init schedule ↔
      stayingMachine.EachStep WritesStep stayingMachine.init schedule :=
  Machine.always_iff_eachStep staying_invariant.step identityTrue_step
    staying_invariant.init (by decide) schedule

/-- The built-in config as a controller serves it. -/
def servedConfig : ConfigResponse :=
  { ConfigResponse.defaultV1 with configHash := "sha256:v1" }

/-- The network observer registers, and then the first poll fails to write its
map: the hash is reported and the map still holds zeros. -/
theorem not_identityTrue_failedWrite :
    ¬ stayingMachine.Always IdentityTrue stayingMachine.init
      [.load "network" (some 10), .register "network" true true,
        .poll (.response 200 (.ok servedConfig)) fun _ => false] := by
  decide

end Tapio.Agent
