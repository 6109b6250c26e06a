/-
# Conditional and unconditional polling

Two agents poll the same controllers at the same times. One sends the tag of the config
it has applied last and is told when nothing has changed; the other never sends a tag
and applies the config each time. Up to the generation in the kernel configs they stay
alike, through changes of the config, restarts, refusals and failures, provided that the
digests of the configs involved do not collide.
-/
import Tapio.Controller.ConfigEndpoint
import Tapio.Revalidation.Client
import Tapio.Transition.Machine

namespace Tapio.Controller

open Wire Agent Revalidation Transition

/-- A controller process at any time of its life. It serves one config. -/
structure ControllerInstance (sha256 : Digest) where
  compiled : CompiledConfig
  generation : UInt32
  inner : InnerState
  serves : inner.config = configResponseFromCompiled sha256 compiled generation

/-- Whom the last poll contacted, and what it came to. -/
structure LastPoll (sha256 : Digest) where
  contacted : ControllerInstance sha256
  conditional : Except FetchError PollOutcome
  plain : Except FetchError PollOutcome

/-- The two agents. -/
structure TwinRun (sha256 : Digest) where
  conditional : AgentState
  plain : AgentState
  last : Option (LastPoll sha256)

inductive TwinStep (sha256 : Digest)
  | poll (contacted : ControllerInstance sha256) (query : Option String)
  /-- The exchange fails for both, before or after the controller sees it. -/
  | pollFailed (error : String)
  /-- An observer registers its config map with both. -/
  | register (observer : String) (mapFd : RawFd)

/-- The config that a step involves. -/
def TwinStep.compiled {sha256 : Digest} : TwinStep sha256 → Option CompiledConfig
  | .poll contacted _ => some contacted.compiled
  | .pollFailed _ => none
  | .register _ _ => none

/-- A tick of the poll loop with every map write succeeding, and what it returns. -/
def pollWritten (s : AgentState) (reply : HttpReply ConfigResponse) :
    AgentState × Except FetchError PollOutcome :=
  (pollOnce s reply (fun _ => true) true, (fetchOnce s reply (fun _ => true) true).2)

def registerWritten (s : AgentState) (observer : String) (mapFd : RawFd) : AgentState :=
  let ((kernel, carriers), _) :=
    initAndRegisterTapioConfig s.kernel s.carriers observer (some mapFd) TapioConfig.default
      true true
  { s with kernel := kernel, carriers := carriers }

def twinStep {sha256 : Digest} (run : TwinRun sha256) : TwinStep sha256 → TwinRun sha256
  | .poll contacted query =>
      let (conditional, conditionalResult) :=
        pollWritten run.conditional (config query run.conditional.etag contacted.inner)
      let (plain, plainResult) := pollWritten run.plain (config query none contacted.inner)
      ⟨conditional, plain, some ⟨contacted, conditionalResult, plainResult⟩⟩
  | .pollFailed error =>
      ⟨(pollWritten run.conditional (.failed error)).1, (pollWritten run.plain (.failed error)).1,
        none⟩
  | .register observer mapFd =>
      ⟨registerWritten run.conditional observer mapFd, registerWritten run.plain observer mapFd,
        none⟩

/-- An agent that has not applied a config. -/
def unconfigured (kernel : Kernel) (carriers : List ConfigCarrier)
    (thresholds : PmcThresholds) : AgentState where
  kernel := kernel
  carriers := ⟨carriers, none⟩
  pmcThresholds := thresholds
  activeConfig := none
  configVersion := "0"
  etag := none

/-- The two agents, from the same start. -/
def twinMachine (sha256 : Digest) (start : AgentState) :
    Machine (TwinRun sha256) (TwinStep sha256) where
  init := ⟨start, start, none⟩
  step run step := some (twinStep run step)

/-! ## What is compared -/

def eraseGeneration (config : TapioConfig) : TapioConfig := { config with generation := 0 }

def appliedHash (s : AgentState) : Option String :=
  s.activeConfig.map AppliedConfigIdentity.hash

/-- Both hold the same config, and a poll that did not fail has left the hash that the
controller serves. -/
structure Agreement {sha256 : Digest} (run : TwinRun sha256) : Prop where
  hash : appliedHash run.conditional = appliedHash run.plain
  carriers : run.conditional.carriers.carriers = run.plain.carriers.carriers
  configs : ∀ carrier ∈ run.conditional.carriers.carriers,
    (run.conditional.kernel.tapioConfigAt carrier.mapFd).map eraseGeneration =
      (run.plain.kernel.tapioConfigAt carrier.mapFd).map eraseGeneration
  thresholds : run.conditional.pmcThresholds = run.plain.pmcThresholds
  conditionalCurrent : ∀ poll ∈ run.last, ∀ outcome, poll.conditional = .ok outcome →
    appliedHash run.conditional = some poll.contacted.inner.config.configHash
  plainCurrent : ∀ poll ∈ run.last, ∀ outcome, poll.plain = .ok outcome →
    appliedHash run.plain = some poll.contacted.inner.config.configHash

/-- No two of the configs are serialized to different bytes with the same digest. -/
def CollisionFree (sha256 : Digest) (configs : List CompiledConfig) : Prop :=
  ∀ first ∈ configs, ∀ second ∈ configs,
    sha256 first.toVec = sha256 second.toVec → first.toVec = second.toVec

theorem CollisionFree.injOn {sha256 : Digest} {configs : List CompiledConfig}
    (h : CollisionFree sha256 configs) :
    Set.InjOn (configHash sha256) {config | config ∈ configs} :=
  fun first hfirst second hsecond hsame =>
    CompiledConfig.toVec_injective (h first hfirst second hsecond (digest_of_configHash hsame))

/-- Two configs with different digests do not collide, however often they are served. -/
theorem collisionFree_of_pair {sha256 : Digest} {configs : List CompiledConfig}
    {a b : CompiledConfig} (hpair : ∀ config ∈ configs, config = a ∨ config = b)
    (hdistinct : sha256 a.toVec ≠ sha256 b.toVec) : CollisionFree sha256 configs := by
  intro first hfirst second hsecond hsame
  rcases hpair first hfirst with rfl | rfl
  · rcases hpair second hsecond with rfl | rfl
    · rfl
    · exact absurd hsame hdistinct
  · rcases hpair second hsecond with rfl | rfl
    · exact absurd hsame.symm hdistinct
    · rfl

/-! ## The agents as clients -/

/-- The states differ in generations only. -/
structure SameButGeneration (s t : AgentState) : Prop where
  hash : appliedHash s = appliedHash t
  carriers : s.carriers.carriers = t.carriers.carriers
  current : s.carriers.current.map eraseGeneration = t.carriers.current.map eraseGeneration
  fds : s.kernel.fds = t.kernel.fds
  configMaps : ∀ observer,
    eraseGeneration (s.kernel.configMaps observer) =
      eraseGeneration (t.kernel.configMaps observer)
  thresholds : s.pmcThresholds = t.pmcThresholds

/-- The agent has applied the config last. -/
structure HoldsConfig (sha256 : Digest) (config : CompiledConfig) (s : AgentState) : Prop where
  hash : appliedHash s = some (configHash sha256 config)
  etag : s.etag = some (quotedEtag (configHash sha256 config))
  current : s.carriers.current.map eraseGeneration = some (tapioConfigOf config 0)
  thresholds : s.pmcThresholds = pmcThresholdsFromCompiled config
  configMaps : ∀ carrier ∈ s.carriers.carriers, ∀ observer,
    s.kernel.fds carrier.mapFd = some (.configMap observer) →
      eraseGeneration (s.kernel.configMaps observer) = tapioConfigOf config 0

/-- A config that the agents accept when it is served. -/
abbrev ServableConfig := {config : CompiledConfig // NonzeroThresholds config}

def servedReply (sha256 : Digest) (config : CompiledConfig) (generation : UInt32) :
    HttpReply ConfigResponse :=
  .response 200 (.ok (configResponseFromCompiled sha256 config generation))

def pollingClient (sha256 : Digest) : Client AgentState ServableConfig UInt32 String where
  tag config := configHash sha256 config
  apply config generation s := (pollWritten s (servedReply sha256 config generation)).1
  Holds config s := HoldsConfig sha256 config s
  Same := SameButGeneration

/-- What a poll does that is answered with the config. -/
theorem pollWritten_served (sha256 : Digest) (config : ServableConfig) (generation : UInt32)
    (s : AgentState) :
    pollWritten s (servedReply sha256 config generation) =
      ({ kernel := (fanOut (tapioConfigOf config generation) (fun _ => true) s.kernel
            s.carriers.carriers).1
         carriers := { s.carriers with current := some (tapioConfigOf config generation) }
         pmcThresholds := pmcThresholdsFromCompiled config
         activeConfig :=
           some ⟨toString generation, configHash sha256 config, compiledFlags config⟩
         configVersion := toString generation
         etag := some (quotedEtag (configHash sha256 config)) },
        .ok (.applied generation (configHash sha256 config) (compiledFlags config))) := by
  have hreceive : receiveConfig (servedReply sha256 config generation) =
      .ok (some ⟨configResponseFromCompiled sha256 config generation, generation,
        tapioConfigOf config generation⟩) := by
    rw [servedReply, receiveConfig, if_neg (by decide), if_pos rfl,
      acceptConfig_served sha256 config.2]
    rfl
  apply Prod.ext
  · rw [pollWritten, pollOnce_of_some (by rw [acceptedConfig, hreceive])]
    rfl
  · rw [pollWritten, fetchOnce, hreceive]
    rfl

theorem pollingClient_lawful (sha256 : Digest) : (pollingClient sha256).Lawful where
  trans h h' := {
    hash := h.hash.trans h'.hash
    carriers := h.carriers.trans h'.carriers
    current := h.current.trans h'.current
    fds := h.fds.trans h'.fds
    configMaps := fun observer => (h.configMaps observer).trans (h'.configMaps observer)
    thresholds := h.thresholds.trans h'.thresholds }
  apply_congr config generation s t h := by
    simp only [pollingClient, pollWritten_served]
    refine ⟨rfl, h.carriers, rfl, ?_, fun observer => ?_, rfl⟩
    · rw [fanOut_fds, fanOut_fds, h.fds]
    · rw [fanOut_configMaps, fanOut_configMaps, h.carriers, h.fds, apply_ite eraseGeneration,
        apply_ite eraseGeneration, h.configMaps]
  holds_apply config generation s := by
    simp only [pollingClient, pollWritten_served]
    refine ⟨rfl, rfl, rfl, rfl, fun carrier hcarrier observer hfd => ?_⟩
    dsimp only at hcarrier hfd ⊢
    rw [fanOut_fds] at hfd
    rw [fanOut_configMaps, if_pos ⟨carrier, hcarrier, hfd, rfl⟩]
    rfl
  same_apply {config s} generation h := by
    simp only [pollingClient, pollWritten_served] at h ⊢
    refine ⟨h.hash, rfl, h.current, ?_, fun observer => ?_, h.thresholds⟩
    · rw [fanOut_fds]
    · rw [fanOut_configMaps]
      split
      · next hreached =>
          obtain ⟨carrier, hcarrier, hfd, -⟩ := hreached
          exact h.configMaps carrier hcarrier observer hfd
      · rfl

/-! ## Registrations -/

/-- A registration leaves the current config in the map of its carrier. -/
theorem registerWritten_spec (s : AgentState) (observer : String) (mapFd : RawFd) :
    ∃ kernel carriers, registerWritten s observer mapFd =
        { s with kernel := kernel, carriers := carriers } ∧
      kernel.fds = s.kernel.fds ∧ carriers.current = s.carriers.current ∧
      carriers.carriers = (if s.kernel.fds mapFd = none then s.carriers.carriers
        else s.carriers.carriers ++ [⟨observer, mapFd⟩]) ∧
      ∀ o, kernel.configMaps o =
        if s.kernel.fds mapFd = some (.configMap o) then
          s.carriers.current.getD TapioConfig.default
        else s.kernel.configMaps o := by
  obtain ⟨kernel, carriers, hresult, hspec⟩ :=
    initAndRegisterTapioConfig_ok s.kernel s.carriers observer mapFd TapioConfig.default
  refine ⟨kernel, carriers, ?_, hspec⟩
  rw [registerWritten]
  exact congrArg (fun result : Kernel × ConfigCarrierState =>
    { s with kernel := result.1, carriers := result.2 }) hresult

theorem SameButGeneration.register {s t : AgentState} (h : SameButGeneration s t)
    (observer : String) (mapFd : RawFd) :
    SameButGeneration (registerWritten s observer mapFd) (registerWritten t observer mapFd) := by
  obtain ⟨k, cs, hs, hfds, hcurrent, hcarriers, hmaps⟩ := registerWritten_spec s observer mapFd
  obtain ⟨k', cs', ht, hfds', hcurrent', hcarriers', hmaps'⟩ :=
    registerWritten_spec t observer mapFd
  have hlate : eraseGeneration (s.carriers.current.getD TapioConfig.default) =
      eraseGeneration (t.carriers.current.getD TapioConfig.default) := by
    rw [← Option.getD_map eraseGeneration, h.current, Option.getD_map]
  rw [hs, ht]
  refine ⟨h.hash, ?_, ?_, ?_, fun o => ?_, h.thresholds⟩
  · rw [hcarriers, hcarriers', h.carriers, h.fds]
  · rw [hcurrent, hcurrent', h.current]
  · rw [hfds, hfds', h.fds]
  · rw [hmaps, hmaps', apply_ite eraseGeneration, apply_ite eraseGeneration, hlate, h.fds,
      h.configMaps]

theorem HoldsConfig.register {sha256 : Digest} {config : CompiledConfig} {s : AgentState}
    (h : HoldsConfig sha256 config s) (observer : String) (mapFd : RawFd) :
    HoldsConfig sha256 config (registerWritten s observer mapFd) := by
  obtain ⟨k, cs, hs, hfds, hcurrent, hcarriers, hmaps⟩ := registerWritten_spec s observer mapFd
  obtain ⟨current, hsome, herase⟩ := Option.map_eq_some_iff.mp h.current
  rw [hs]
  refine ⟨h.hash, h.etag, hcurrent ▸ h.current, h.thresholds, fun carrier hcarrier o hfd => ?_⟩
  dsimp only at hcarrier hfd ⊢
  rw [hfds] at hfd
  rw [hmaps]
  split
  · rw [hsome]
    exact herase
  · next hother =>
      refine h.configMaps carrier ?_ o hfd
      rw [hcarriers] at hcarrier
      split at hcarrier
      · exact hcarrier
      · rcases List.mem_append.mp hcarrier with hcarrier | hcarrier
        · exact hcarrier
        · rw [List.mem_singleton.mp hcarrier] at hfd
          exact absurd hfd hother

/-! ## Replies -/

theorem pollWritten_error {reply : HttpReply ConfigResponse} {error : FetchError}
    (h : receiveConfig reply = .error error) (s : AgentState) :
    pollWritten s reply = (s, .error error) := by
  rw [pollWritten, pollOnce, fetchOnce, h]

theorem pollWritten_notModified {reply : HttpReply ConfigResponse}
    (h : receiveConfig reply = .ok none) (s : AgentState) :
    pollWritten s reply = (s, .ok .notModified) := by
  rw [pollWritten, pollOnce, fetchOnce, h]

theorem requestedConfig_ok {query : Option String} {inner : InnerState}
    {found : ConfigResponse} (h : requestedConfig query inner = .ok found) :
    found = inner.config := by
  unfold requestedConfig configFor at h
  split at h
  · cases h
  · split at h
    · cases h
    · split_ifs at h
      exact (Except.ok.inj h).symm

/-- A request that names no agent or no node fails, with a tag or without. -/
theorem config_refused {query : Option String} {inner : InnerState} {error : WireError}
    (h : requestedConfig query inner = .error error) (ifNoneMatch : Option String) :
    receiveConfig (config query ifNoneMatch inner) =
      .error (.transport ("HTTP " ++ toString (errorStatus error))) := by
  rw [config, h, receiveConfig]
  cases error <;> rfl

variable {sha256 : Digest}

theorem config_plain {contacted : ControllerInstance sha256} {query : Option String}
    {found : ConfigResponse} (h : requestedConfig query contacted.inner = .ok found) :
    config query none contacted.inner =
      servedReply sha256 contacted.compiled contacted.generation := by
  rw [config, h, requestedConfig_ok h, contacted.serves]
  rfl

theorem config_conditional {contacted : ControllerInstance sha256} {query : Option String}
    {found : ConfigResponse} (h : requestedConfig query contacted.inner = .ok found)
    (held : CompiledConfig) :
    config query (some (quotedEtag (configHash sha256 held))) contacted.inner =
      if configHash sha256 held = configHash sha256 contacted.compiled then
        .response 304 (.error "EOF while parsing a value")
      else servedReply sha256 contacted.compiled contacted.generation := by
  rw [config, h, requestedConfig_ok h, contacted.serves]
  simp only [configResponseFromCompiled, ifNoneMatchMatches_quotedEtag, decide_eq_true_eq]
  rfl

/-- A config with a zero threshold is rejected when it is served. -/
theorem receiveConfig_rejected (sha256 : Digest) {compiled : CompiledConfig}
    (h : ¬ NonzeroThresholds compiled) (generation : UInt32) :
    ∃ error, receiveConfig (servedReply sha256 compiled generation) = .error error := by
  obtain ⟨error, hrejected⟩ := acceptConfig_served_rejected sha256 h generation
  refine ⟨error, ?_⟩
  rw [servedReply, receiveConfig, if_neg (by decide), if_pos rfl, hrejected]
  rfl

/-! ## The two agents -/

/-- The tag an agent sends that holds a config. -/
def etagOf (sha256 : Digest) (held : Option ServableConfig) : Option String :=
  held.map fun config : ServableConfig => quotedEtag (configHash sha256 config.1)

/-- A poll with a tag is a revalidation. -/
theorem pollWritten_conditional {contacted : ControllerInstance sha256} {query : Option String}
    {found : ConfigResponse} (h : requestedConfig query contacted.inner = .ok found)
    (hcompiled : NonzeroThresholds contacted.compiled) (held : Option ServableConfig)
    (s : AgentState) :
    (pollWritten s (config query (etagOf sha256 held) contacted.inner)).1 =
      (pollingClient sha256).revalidate held ⟨contacted.compiled, hcompiled⟩
        contacted.generation s := by
  rw [Client.revalidate]
  cases held with
  | none =>
      rw [etagOf, Option.map_none, config_plain h]
      rfl
  | some held =>
      rw [etagOf, Option.map_some, config_conditional h]
      simp only [Option.map_some, Option.some.injEq, pollingClient]
      split
      · rw [pollWritten_notModified rfl]
      · rfl

/-- The agents hold the same config, and the last poll has left them with what was
served. -/
structure Twinned (configs : List CompiledConfig) (run : TwinRun sha256) : Prop where
  synchronised : ∃ held,
    (pollingClient sha256).Synchronised {config | config.1 ∈ configs} held run.conditional
      run.plain ∧
    run.conditional.etag = etagOf sha256 held
  conditionalCurrent : ∀ poll ∈ run.last, ∀ outcome, poll.conditional = .ok outcome →
    appliedHash run.conditional = some poll.contacted.inner.config.configHash
  plainCurrent : ∀ poll ∈ run.last, ∀ outcome, poll.plain = .ok outcome →
    appliedHash run.plain = some poll.contacted.inner.config.configHash

theorem Twinned.agreement {configs : List CompiledConfig} {run : TwinRun sha256}
    (h : Twinned configs run) : Agreement run := by
  obtain ⟨held, hsync, -⟩ := h.synchronised
  have hsame : SameButGeneration run.conditional run.plain := hsync.same
  refine ⟨hsame.hash, hsame.carriers, fun carrier _ => ?_, hsame.thresholds,
    h.conditionalCurrent, h.plainCurrent⟩
  rw [Kernel.tapioConfigAt, Kernel.tapioConfigAt, hsame.fds]
  split
  · exact congrArg some (hsame.configMaps _)
  · rfl

/-- A poll that fails on both sides leaves both agents as they are. -/
theorem Twinned.failed {configs : List CompiledConfig} {run : TwinRun sha256}
    (h : Twinned configs run) {conditionalReply plainReply : HttpReply ConfigResponse}
    {error error' : FetchError} (hconditional : receiveConfig conditionalReply = .error error)
    (hplain : receiveConfig plainReply = .error error') (contacted : ControllerInstance sha256) :
    Twinned configs ⟨(pollWritten run.conditional conditionalReply).1,
      (pollWritten run.plain plainReply).1,
      some ⟨contacted, (pollWritten run.conditional conditionalReply).2,
        (pollWritten run.plain plainReply).2⟩⟩ := by
  rw [pollWritten_error hconditional, pollWritten_error hplain]
  refine ⟨h.synchronised, ?_, ?_⟩
  · rintro _ ⟨⟩ outcome ⟨⟩
  · rintro _ ⟨⟩ outcome ⟨⟩

/-- A config that is not accepted is not the held one, so that its tag is not sent. -/
theorem config_conditional_rejected {configs : List CompiledConfig}
    (hcollision : CollisionFree sha256 configs) {held : Option ServableConfig}
    (hheld : ∀ config ∈ held, config.1 ∈ configs) {contacted : ControllerInstance sha256}
    (hcontacted : contacted.compiled ∈ configs)
    (hrejected : ¬ NonzeroThresholds contacted.compiled) {query : Option String}
    {found : ConfigResponse} (hfound : requestedConfig query contacted.inner = .ok found) :
    config query (etagOf sha256 held) contacted.inner =
      servedReply sha256 contacted.compiled contacted.generation := by
  cases held with
  | none => exact config_plain hfound
  | some held =>
      rw [etagOf, Option.map_some, config_conditional hfound, if_neg]
      intro hsame
      have hequal := hcollision.injOn (hheld held rfl) hcontacted hsame
      exact hrejected (hequal ▸ held.2)

/-- **One poll.** Whatever the contacted controller serves and answers, both agents hold
the same afterwards. -/
theorem Twinned.poll {configs : List CompiledConfig} (hcollision : CollisionFree sha256 configs)
    {run : TwinRun sha256} (h : Twinned configs run) {contacted : ControllerInstance sha256}
    (hcontacted : contacted.compiled ∈ configs) (query : Option String) :
    Twinned configs (twinStep run (.poll contacted query)) := by
  obtain ⟨held, hsync, hetag⟩ := h.synchronised
  change Twinned configs
    ⟨(pollWritten run.conditional (config query run.conditional.etag contacted.inner)).1,
      (pollWritten run.plain (config query none contacted.inner)).1,
      some ⟨contacted, _, _⟩⟩
  rw [hetag]
  cases hfound : requestedConfig query contacted.inner with
  | error error => exact h.failed (config_refused hfound _) (config_refused hfound _) contacted
  | ok found =>
      by_cases hcompiled : NonzeroThresholds contacted.compiled
      · have hinjective : Set.InjOn (pollingClient sha256).tag {config | config.1 ∈ configs} :=
          fun first hfirst second hsecond hsame =>
            Subtype.ext (hcollision.injOn hfirst hsecond hsame)
        have hafter := hsync.fetch (pollingClient_lawful sha256) hinjective
          (v := ⟨contacted.compiled, hcompiled⟩) hcontacted contacted.generation
        rw [← pollWritten_conditional hfound hcompiled] at hafter
        have hconditional : HoldsConfig sha256 contacted.compiled _ := (hafter.holds _ rfl).1
        have hplain : HoldsConfig sha256 contacted.compiled _ := (hafter.holds _ rfl).2
        have hserved : contacted.inner.config.configHash = configHash sha256 contacted.compiled :=
          congrArg ConfigResponse.configHash contacted.serves
        refine ⟨⟨some ⟨contacted.compiled, hcompiled⟩, ?_, hconditional.etag⟩, ?_, ?_⟩
        · rw [config_plain hfound]
          exact hafter
        · rintro _ ⟨⟩ outcome -
          rw [hserved]
          exact hconditional.hash
        · rintro _ ⟨⟩ outcome -
          rw [hserved, config_plain hfound]
          exact hplain.hash
      · obtain ⟨error, hrejected⟩ :=
          receiveConfig_rejected sha256 hcompiled contacted.generation
        have hplain := config_plain hfound
        have hconditional :=
          config_conditional_rejected hcollision hsync.involved hcontacted hcompiled hfound
        exact h.failed (hconditional ▸ hrejected) (hplain ▸ hrejected) contacted

/-- There is nothing to say of the last poll if there was none. -/
theorem forall_mem_none {α : Type} {p : α → Prop} : ∀ a ∈ (none : Option α), p a :=
  fun _ ha => absurd ha (Option.not_mem_none _)

theorem Twinned.pollFailed {configs : List CompiledConfig} {run : TwinRun sha256}
    (h : Twinned configs run) (error : String) :
    Twinned configs (twinStep run (.pollFailed error)) := by
  change Twinned configs ⟨(pollWritten run.conditional (.failed error)).1,
    (pollWritten run.plain (.failed error)).1, none⟩
  rw [pollWritten_error rfl, pollWritten_error rfl]
  exact ⟨h.synchronised, forall_mem_none, forall_mem_none⟩

theorem Twinned.register {configs : List CompiledConfig} {run : TwinRun sha256}
    (h : Twinned configs run) (observer : String) (mapFd : RawFd) :
    Twinned configs (twinStep run (.register observer mapFd)) := by
  obtain ⟨held, hsync, hetag⟩ := h.synchronised
  refine ⟨⟨held, hsync.both (fun hsame => SameButGeneration.register hsame observer mapFd)
    (fun _ _ hholds => HoldsConfig.register hholds observer mapFd)
    (fun _ _ hholds => HoldsConfig.register hholds observer mapFd), ?_⟩,
    forall_mem_none, forall_mem_none⟩
  obtain ⟨kernel, carriers, hresult, -⟩ := registerWritten_spec run.conditional observer mapFd
  rw [twinStep, hresult]
  exact hetag

/-- **Conditional polling is unconditional polling.** After every step the agent that
sends its tag and the one that never does hold the same config, generations apart, and a
poll that did not fail has left both with the hash that the controller serves. -/
theorem polling_equivalent (sha256 : Digest) (kernel : Kernel) (carriers : List ConfigCarrier)
    (thresholds : PmcThresholds) (schedule : List (TwinStep sha256))
    (hcollision : CollisionFree sha256 (schedule.filterMap TwinStep.compiled)) :
    (twinMachine sha256 (unconfigured kernel carriers thresholds)).Always Agreement
      (twinMachine sha256 (unconfigured kernel carriers thresholds)).init schedule := by
  let configs := schedule.filterMap TwinStep.compiled
  have hinit : Twinned configs
      (twinMachine sha256 (unconfigured kernel carriers thresholds)).init :=
    ⟨⟨none, ⟨⟨rfl, rfl, rfl, rfl, fun _ => rfl, rfl⟩, forall_mem_none, forall_mem_none⟩, rfl⟩,
      forall_mem_none, forall_mem_none⟩
  have hinvolved : (twinMachine sha256 (unconfigured kernel carriers thresholds)).EachStep
      (fun _ step => ∀ compiled ∈ step.compiled, compiled ∈ configs)
      (twinMachine sha256 (unconfigured kernel carriers thresholds)).init schedule :=
    Machine.eachStep_of_mem fun step hstep _ compiled hcompiled =>
      List.mem_filterMap.mpr ⟨step, hstep, hcompiled⟩
  refine (Machine.always_of_eachStep ?_ hinit hinvolved).mono fun _ => Twinned.agreement
  rintro run step _ hrun hinvolved ⟨⟩
  cases step with
  | poll contacted query => exact hrun.poll hcollision (hinvolved _ rfl) query
  | pollFailed error => exact hrun.pollFailed error
  | register observer mapFd => exact hrun.register observer mapFd

/-! ## A run -/

def builtinConfig : CompiledConfig := ConfigResponse.defaultV1.config

/-- The built-in config with higher storage thresholds. -/
def raisedConfig : CompiledConfig :=
  { builtinConfig with storage := ⟨true, 150000000, 400000000⟩ }

/-- The SHA-256 digest of the built-in config. -/
def builtinDigest : List.Vector UInt8 32 :=
  ⟨[
    0x84, 0x5b, 0x71, 0x9f, 0x50, 0x05, 0x2b, 0x22,
    0x2e, 0x79, 0xa6, 0xf0, 0xa9, 0xe0, 0x91, 0xe4,
    0xfe, 0x5c, 0xc6, 0x2f, 0x80, 0x49, 0xf7, 0xa9,
    0x08, 0x9c, 0xf2, 0x01, 0x75, 0xf5, 0xdd, 0xef], rfl⟩

/-- The SHA-256 digest of the raised config. -/
def raisedDigest : List.Vector UInt8 32 :=
  ⟨[
    0x5c, 0x1e, 0xf5, 0x9a, 0x29, 0x0c, 0xec, 0x74,
    0x9f, 0x8e, 0x46, 0xc5, 0x44, 0x2e, 0x58, 0x54,
    0xbc, 0x97, 0x43, 0xd2, 0x8f, 0xfa, 0x9f, 0xcc,
    0x0a, 0x4e, 0xe6, 0xfc, 0x58, 0x16, 0x21, 0x9f], rfl⟩

/-- SHA-256 as far as these two configs are concerned. -/
def storageDigest : Digest := fun bytes =>
  if bytes = builtinConfig.toVec then builtinDigest else raisedDigest

/-- A controller that has just started with a config. -/
def started (sha256 : Digest) (compiled : CompiledConfig) (generation : UInt32) :
    ControllerInstance sha256 where
  compiled := compiled
  generation := generation
  inner := InnerState.new (configResponseFromCompiled sha256 compiled generation) 0
  serves := rfl

def agentQuery : Option String := some "agent_id=node/worker-1&node_name=worker-1"

/-- The config is raised, the controller restarts under another generation, a poll is
lost, and the config is lowered again. -/
def raisedAndLowered : List (TwinStep storageDigest) := [
  .poll (started storageDigest builtinConfig 1) agentQuery,
  .register "storage" 10,
  .poll (started storageDigest raisedConfig 2) agentQuery,
  .poll (started storageDigest raisedConfig 7) agentQuery,
  .pollFailed "connection refused",
  .poll (started storageDigest builtinConfig 1) agentQuery]

def storageKernel : Kernel := Kernel.boot.load "storage" 10

/-- The digest of the raised config is not the one of the built-in config. -/
theorem storageDigest_distinct :
    storageDigest builtinConfig.toVec ≠ storageDigest raisedConfig.toVec := by
  have hraised : raisedConfig.toVec ≠ builtinConfig.toVec :=
    CompiledConfig.toVec_injective.ne (by decide)
  rw [storageDigest, storageDigest, if_pos rfl, if_neg hraised]
  decide

theorem polling_equivalent_raisedAndLowered :
    (twinMachine storageDigest (unconfigured storageKernel [] .default)).Always Agreement
      (twinMachine storageDigest (unconfigured storageKernel [] .default)).init
      raisedAndLowered := by
  exact polling_equivalent storageDigest storageKernel [] .default raisedAndLowered
    (collisionFree_of_pair (by decide +kernel) storageDigest_distinct)

end Tapio.Controller
