/-
# The agent process in controller mode

Observers load their objects, initialise and register their config maps, and
return at some point, which drops the object and closes the map; other parts of
the process open and close descriptors of their own; the poll loop applies what
the controller answers. Every step is one call, and the environment decides the
outcome of every load, map write and request.

`Owned` ties the descriptor table to the observers: a number denotes an
observer's config map exactly while the observer holds it. The carriers' list
only grows, so what it says about an observer that has returned is stale.
-/
import Tapio.Agent.Poll
import Tapio.Transition.Machine

namespace Tapio.Agent

open Wire Transition

/-- The names under which the observers register their carriers. -/
def carrierNames : List String := ["network", "container", "storage", "node_pmc"]

/-- Where an observer's task is. -/
inductive ObserverPhase
  | notStarted
  /-- The object is loaded; its config map, if it has one, is open here. -/
  | loaded (configMap : Option RawFd)
  /-- The carrier is registered under this descriptor. -/
  | registered (mapFd : RawFd)
  | returned
  deriving DecidableEq

structure AgentRun where
  agent : AgentState
  phases : String → ObserverPhase
  /-- The responses the poll loop has applied, newest first. -/
  accepted : List AcceptedConfig

inductive AgentStep
  | openFd (fd : RawFd)
  | closeFd (fd : RawFd)
  | loadFailed (observer : String)
  | load (observer : String) (configMap : Option RawFd)
  | register (observer : String) (initOk lateOk : Bool)
  /-- Any return after the registration: at the end, after an error, or because
  a performance counter could not be opened. -/
  | observerReturn (observer : String)
  | poll (reply : HttpReply ConfigResponse) (ok : ConfigCarrier → Bool)

def AgentRun.setKernel (s : AgentRun) (kernel : Kernel) : AgentRun :=
  { s with agent := { s.agent with kernel := kernel } }

def AgentRun.setPhase (s : AgentRun) (observer : String) (phase : ObserverPhase) :
    AgentRun :=
  { s with phases := Function.update s.phases observer phase }

/-- An observer's task after it has loaded its object with a config map: it
registers, or fails the initial write and drops the object. -/
def AgentRun.register (s : AgentRun) (observer : String) (fd : RawFd)
    (initOk lateOk : Bool) : AgentRun :=
  let ((kernel, carriers), registered) :=
    initAndRegisterTapioConfig s.agent.kernel s.agent.carriers observer (some fd)
      TapioConfig.default initOk lateOk
  if registered then
    { s with agent := { s.agent with kernel := kernel, carriers := carriers } }.setPhase
      observer (.registered fd)
  else (s.setKernel (kernel.close fd)).setPhase observer .returned

/-- One tick of the poll loop. The process keeps a receiver of the thresholds
for itself, so sending them never fails. -/
def AgentRun.poll (s : AgentRun) (reply : HttpReply ConfigResponse)
    (ok : ConfigCarrier → Bool) : AgentRun :=
  { s with
    agent := pollOnce s.agent reply ok true
    accepted := (acceptedConfig reply).toList ++ s.accepted }

def agentStep (s : AgentRun) : AgentStep → Option AgentRun
  | .openFd fd =>
      if s.agent.kernel.fds fd = none then
        some (s.setKernel (s.agent.kernel.open_ fd .other))
      else none
  | .closeFd fd =>
      if s.agent.kernel.fds fd = some .other then
        some (s.setKernel (s.agent.kernel.close fd))
      else none
  | .loadFailed observer =>
      if s.phases observer = .notStarted ∧ observer ∈ carrierNames then
        some (s.setPhase observer .returned)
      else none
  | .load observer none =>
      if s.phases observer = .notStarted ∧ observer ∈ carrierNames then
        some (s.setPhase observer (.loaded none))
      else none
  | .load observer (some fd) =>
      if s.phases observer = .notStarted ∧ observer ∈ carrierNames ∧
          s.agent.kernel.fds fd = none then
        some ((s.setKernel (s.agent.kernel.load observer fd)).setPhase observer
          (.loaded (some fd)))
      else none
  | .register observer initOk lateOk =>
      match s.phases observer with
      | .loaded (some fd) => some (s.register observer fd initOk lateOk)
      | .loaded none => some (s.setPhase observer .returned)
      | _ => none
  | .observerReturn observer =>
      match s.phases observer with
      | .registered fd =>
          some ((s.setKernel (s.agent.kernel.close fd)).setPhase observer .returned)
      | _ => none
  | .poll reply ok => some (s.poll reply ok)

/-- The agent from start on, before any config is applied. -/
def agentMachine : Machine AgentRun AgentStep where
  init := {
    agent := {
      kernel := Kernel.boot
      carriers := ConfigCarrierState.default
      pmcThresholds := .default
      activeConfig := none
      configVersion := "0"
      etag := none }
    phases := fun _ => .notStarted
    accepted := [] }
  step := agentStep

/-! ## What a step can do -/

/-- The steps that the guards allow, each with the state it leads to. -/
inductive AgentStepped (s : AgentRun) : AgentStep → AgentRun → Prop
  | opened {fd : RawFd} (hfree : s.agent.kernel.fds fd = none) :
      AgentStepped s (.openFd fd) (s.setKernel (s.agent.kernel.open_ fd .other))
  | closed {fd : RawFd} (hother : s.agent.kernel.fds fd = some .other) :
      AgentStepped s (.closeFd fd) (s.setKernel (s.agent.kernel.close fd))
  | loadFailed {observer : String} (hphase : s.phases observer = .notStarted)
      (hname : observer ∈ carrierNames) :
      AgentStepped s (.loadFailed observer) (s.setPhase observer .returned)
  | loadedBare {observer : String} (hphase : s.phases observer = .notStarted)
      (hname : observer ∈ carrierNames) :
      AgentStepped s (.load observer none) (s.setPhase observer (.loaded none))
  | loaded {observer : String} {fd : RawFd} (hphase : s.phases observer = .notStarted)
      (hname : observer ∈ carrierNames) (hfree : s.agent.kernel.fds fd = none) :
      AgentStepped s (.load observer (some fd))
        ((s.setKernel (s.agent.kernel.load observer fd)).setPhase observer
          (.loaded (some fd)))
  | bare {observer : String} {initOk lateOk : Bool}
      (hphase : s.phases observer = .loaded none) :
      AgentStepped s (.register observer initOk lateOk) (s.setPhase observer .returned)
  | registered {observer : String} {fd : RawFd} {initOk lateOk : Bool}
      (hphase : s.phases observer = .loaded (some fd)) :
      AgentStepped s (.register observer initOk lateOk) (s.register observer fd initOk lateOk)
  | returned {observer : String} {fd : RawFd} (hphase : s.phases observer = .registered fd) :
      AgentStepped s (.observerReturn observer)
        ((s.setKernel (s.agent.kernel.close fd)).setPhase observer .returned)
  | polled {reply : HttpReply ConfigResponse} {ok : ConfigCarrier → Bool} :
      AgentStepped s (.poll reply ok) (s.poll reply ok)

theorem stepped_of_agentStep {s t : AgentRun} {a : AgentStep} (hstep : agentStep s a = some t) :
    AgentStepped s a t := by
  cases a with
  | openFd fd =>
      obtain ⟨hfree, ht⟩ := Option.ite_none_right_eq_some.mp hstep
      cases ht
      exact .opened hfree
  | closeFd fd =>
      obtain ⟨hother, ht⟩ := Option.ite_none_right_eq_some.mp hstep
      cases ht
      exact .closed hother
  | loadFailed observer =>
      obtain ⟨⟨hphase, hname⟩, ht⟩ := Option.ite_none_right_eq_some.mp hstep
      cases ht
      exact .loadFailed hphase hname
  | load observer configMap =>
      cases configMap with
      | none =>
          obtain ⟨⟨hphase, hname⟩, ht⟩ := Option.ite_none_right_eq_some.mp hstep
          cases ht
          exact .loadedBare hphase hname
      | some fd =>
          obtain ⟨⟨hphase, hname, hfree⟩, ht⟩ := Option.ite_none_right_eq_some.mp hstep
          cases ht
          exact .loaded hphase hname hfree
  | register observer initOk lateOk =>
      match hphase : s.phases observer with
      | .notStarted | .registered _ | .returned => simp [agentStep, hphase] at hstep
      | .loaded none =>
          simp only [agentStep, hphase] at hstep
          cases hstep
          exact .bare hphase
      | .loaded (some fd) =>
          simp only [agentStep, hphase] at hstep
          cases hstep
          exact .registered hphase
  | observerReturn observer =>
      match hphase : s.phases observer with
      | .notStarted | .loaded _ | .returned => simp [agentStep, hphase] at hstep
      | .registered fd =>
          simp only [agentStep, hphase] at hstep
          cases hstep
          exact .returned hphase
  | poll reply ok =>
      cases hstep
      exact .polled

/-! ## What a registration and a poll do -/

/-- A poll that accepts no config changes nothing. -/
theorem AgentRun.poll_of_none {s : AgentRun} {reply : HttpReply ConfigResponse}
    (h : acceptedConfig reply = none) (ok : ConfigCarrier → Bool) : s.poll reply ok = s := by
  simp [AgentRun.poll, h, pollOnce_of_none h]

theorem AgentRun.register_failed {s : AgentRun} {observer : String} {fd : RawFd}
    (hfd : s.agent.kernel.fds fd = some (.configMap observer)) (lateOk : Bool) :
    s.register observer fd false lateOk =
      (s.setKernel (s.agent.kernel.close fd)).setPhase observer .returned := by
  simp [AgentRun.register, initAndRegisterTapioConfig, Kernel.bpfMapUpdateTapioConfig, hfd]

/-- The kernel after the initial and the late write of a registration. -/
def AgentRun.registeredKernel (s : AgentRun) (observer : String) (fd : RawFd)
    (lateOk : Bool) : Kernel :=
  (Agent.register (s.agent.kernel.bpfMapUpdateTapioConfig fd TapioConfig.default true).1
    s.agent.carriers ⟨observer, fd⟩ lateOk).1

theorem AgentRun.register_ok {s : AgentRun} {observer : String} {fd : RawFd}
    (hfd : s.agent.kernel.fds fd = some (.configMap observer)) (lateOk : Bool) :
    s.register observer fd true lateOk =
      { s with
        agent := { s.agent with
          kernel := s.registeredKernel observer fd lateOk
          carriers := s.agent.carriers.push ⟨observer, fd⟩ } }.setPhase observer
        (.registered fd) := by
  simp [AgentRun.register, AgentRun.registeredKernel, initAndRegisterTapioConfig,
    Kernel.bpfMapUpdateTapioConfig_ok hfd]

@[simp]
theorem AgentRun.registeredKernel_fds (s : AgentRun) (observer : String) (fd : RawFd)
    (lateOk : Bool) :
    (s.registeredKernel observer fd lateOk).fds = s.agent.kernel.fds := by
  simp [AgentRun.registeredKernel]

/-- A registration leaves in its map the current config if the late write
succeeds, and the initial config otherwise; it touches no other map. -/
theorem AgentRun.registeredKernel_configMaps {s : AgentRun} {observer : String}
    {fd : RawFd} (hfd : s.agent.kernel.fds fd = some (.configMap observer))
    (lateOk : Bool) (o : String) :
    (s.registeredKernel observer fd lateOk).configMaps o =
      if o = observer then
        if lateOk then s.agent.carriers.current.getD TapioConfig.default
        else TapioConfig.default
      else s.agent.kernel.configMaps o := by
  simp only [AgentRun.registeredKernel, register_configMaps,
    Kernel.bpfMapUpdateTapioConfig_fds, Kernel.bpfMapUpdateTapioConfig_configMaps, hfd,
    Option.some.injEq, Descriptor.configMap.injEq, and_true]
  by_cases ho : o = observer
  · simp [ho]
  · simp [ho, Ne.symm ho]

/-! ## Who holds which descriptor -/

/-- A descriptor denotes an observer's config map exactly while the observer
holds it, carriers belong to observers that are registered or have returned, and
the current config and the reported identity are those of the latest applied
response. -/
structure Owned (s : AgentRun) : Prop where
  denotes : ∀ fd o, s.agent.kernel.fds fd = some (.configMap o) ↔
    s.phases o = .loaded (some fd) ∨ s.phases o = .registered fd
  carriers : ∀ c ∈ s.agent.carriers.carriers,
    s.phases c.observer = .registered c.mapFd ∨ s.phases c.observer = .returned
  complete : ∀ o fd, s.phases o = .registered fd → ⟨o, fd⟩ ∈ s.agent.carriers.carriers
  nodup : (s.agent.carriers.carriers.map ConfigCarrier.observer).Nodup
  current : s.agent.carriers.current = s.accepted.head?.map AcceptedConfig.tapioConfig
  identity : s.agent.activeConfig = s.accepted.head?.map AcceptedConfig.identity
  compiled : ∀ a ∈ s.accepted,
    tapioConfigFromCompiled a.response.config a.response.version = .ok a.tapioConfig

/-- An observer that is still loading has no carrier. -/
theorem Owned.not_registered {s : AgentRun} (hs : Owned s) {observer : String}
    (hphase : s.phases observer = .notStarted ∨ ∃ m, s.phases observer = .loaded m)
    {c : ConfigCarrier} (hc : c ∈ s.agent.carriers.carriers) : c.observer ≠ observer := by
  rintro rfl
  rcases hs.carriers c hc with h | h <;> rcases hphase with h' | ⟨m, h'⟩ <;>
    simp [h] at h'

/-- Opening or closing a descriptor that denotes no config map. -/
theorem Owned.setFd {s : AgentRun} (hs : Owned s) {kernel : Kernel}
    (hfds : ∀ fd o, kernel.fds fd = some (.configMap o) ↔
      s.agent.kernel.fds fd = some (.configMap o)) : Owned (s.setKernel kernel) where
  denotes fd o := (hfds fd o).trans (hs.denotes fd o)
  carriers := hs.carriers
  complete := hs.complete
  nodup := hs.nodup
  current := hs.current
  identity := hs.identity
  compiled := hs.compiled

/-- An observer that has not registered moves to a phase without a carrier,
with its descriptor opened or closed accordingly. -/
theorem Owned.setPhase {s : AgentRun} (hs : Owned s) {observer : String}
    (hphase : s.phases observer = .notStarted ∨ ∃ m, s.phases observer = .loaded m)
    {kernel : Kernel} {phase : ObserverPhase} (hnot : ∀ fd, phase ≠ .registered fd)
    (hother : ∀ fd o, o ≠ observer → (kernel.fds fd = some (.configMap o) ↔
      s.agent.kernel.fds fd = some (.configMap o)))
    (hself : ∀ fd, kernel.fds fd = some (.configMap observer) ↔ phase = .loaded (some fd)) :
    Owned ((s.setKernel kernel).setPhase observer phase) := by
  refine ⟨fun fd o => ?_, fun c hc => ?_, fun o fd ho => ?_, hs.nodup, hs.current,
    hs.identity, hs.compiled⟩
  · by_cases ho : o = observer
    · subst ho
      simpa [AgentRun.setPhase, AgentRun.setKernel, hnot fd] using hself fd
    · simpa [AgentRun.setPhase, AgentRun.setKernel, ho] using
        (hother fd o ho).trans (hs.denotes fd o)
  · have hne := hs.not_registered hphase hc
    simpa [AgentRun.setPhase, AgentRun.setKernel, hne] using hs.carriers c hc
  · by_cases hobserver : o = observer
    · subst hobserver
      exact absurd (by simpa [AgentRun.setPhase] using ho) (hnot fd)
    · refine hs.complete o fd ?_
      simpa [AgentRun.setPhase, AgentRun.setKernel, hobserver] using ho

/-- Closing the descriptor an observer holds takes its map away, and no other. -/
theorem Owned.close_fds {s : AgentRun} (hs : Owned s) {observer : String} {fd : RawFd}
    (hfd : s.agent.kernel.fds fd = some (.configMap observer)) (fd' : RawFd) (o : String) :
    (s.agent.kernel.close fd).fds fd' = some (.configMap o) ↔
      o ≠ observer ∧ s.agent.kernel.fds fd' = some (.configMap o) := by
  by_cases hsame : fd' = fd
  · subst hsame
    simp only [Kernel.close, Function.update_self, hfd, Option.some.injEq,
      Descriptor.configMap.injEq, reduceCtorEq, false_iff, not_and]
    exact fun hne heq => hne heq.symm
  · simp only [Kernel.close, Function.update_of_ne hsame, iff_and_self]
    rintro hfd' rfl
    have h := (hs.denotes fd o).mp hfd
    have h' := (hs.denotes fd' o).mp hfd'
    rcases h with h | h <;> rcases h' with h' | h' <;> simp_all

theorem Owned.registerOk {s : AgentRun} (hs : Owned s) {observer : String} {fd : RawFd}
    (hphase : s.phases observer = .loaded (some fd)) (lateOk : Bool) :
    Owned (s.register observer fd true lateOk) := by
  have hfd := (hs.denotes fd observer).mpr (.inl hphase)
  rw [AgentRun.register_ok hfd]
  have hnew : ∀ c ∈ s.agent.carriers.carriers, c.observer ≠ observer :=
    fun c hc => hs.not_registered (.inr ⟨_, hphase⟩) hc
  refine ⟨fun fd' o => ?_, fun c hc => ?_, fun o fd' ho => ?_, ?_, hs.current, hs.identity,
    hs.compiled⟩
  · by_cases ho : o = observer
    · subst ho
      simpa [AgentRun.setPhase, hphase] using hs.denotes fd' o
    · simpa [AgentRun.setPhase, ho] using hs.denotes fd' o
  · rcases List.mem_append.mp hc with hc | hc
    · simpa [AgentRun.setPhase, hnew c hc] using hs.carriers c hc
    · obtain rfl := List.mem_singleton.mp hc
      simp [AgentRun.setPhase]
  · by_cases hobserver : o = observer
    · subst hobserver
      have hfd' : fd = fd' := by simpa [AgentRun.setPhase] using ho
      exact List.mem_append_right _ (by simp [hfd'])
    · exact List.mem_append_left _
        (hs.complete o fd' (by simpa [AgentRun.setPhase, hobserver] using ho))
  · change ((s.agent.carriers.carriers ++ [_]).map ConfigCarrier.observer).Nodup
    rw [List.map_append, List.nodup_append]
    refine ⟨hs.nodup, by simp, fun o ho o' ho' => ?_⟩
    obtain ⟨c, hc, rfl⟩ := List.mem_map.mp ho
    simp only [List.map_cons, List.map_nil, List.mem_singleton] at ho'
    exact ho' ▸ hnew c hc

theorem Owned.observerReturn {s : AgentRun} (hs : Owned s) {observer : String} {fd : RawFd}
    (hphase : s.phases observer = .registered fd) :
    Owned ((s.setKernel (s.agent.kernel.close fd)).setPhase observer .returned) := by
  have hfd := (hs.denotes fd observer).mpr (.inr hphase)
  refine ⟨fun fd' o => ?_, fun c hc => ?_, fun o fd' ho => ?_, hs.nodup, hs.current,
    hs.identity, hs.compiled⟩
  · refine (hs.close_fds hfd fd' o).trans ?_
    by_cases ho : o = observer
    · simp [AgentRun.setPhase, AgentRun.setKernel, ho]
    · simpa [AgentRun.setPhase, AgentRun.setKernel, ho] using hs.denotes fd' o
  · by_cases hobserver : c.observer = observer
    · exact .inr (by simp [AgentRun.setPhase, hobserver])
    · simpa [AgentRun.setPhase, AgentRun.setKernel, hobserver] using hs.carriers c hc
  · by_cases hobserver : o = observer
    · simp [AgentRun.setPhase, hobserver] at ho
    · refine hs.complete o fd' ?_
      simpa [AgentRun.setPhase, AgentRun.setKernel, hobserver] using ho

theorem Owned.poll {s : AgentRun} (hs : Owned s) (reply : HttpReply ConfigResponse)
    (ok : ConfigCarrier → Bool) : Owned (s.poll reply ok) := by
  cases h : acceptedConfig reply with
  | none => rwa [AgentRun.poll_of_none h]
  | some accepted =>
      simp only [AgentRun.poll, h, pollOnce_of_some h]
      refine ⟨by simpa using hs.denotes, hs.carriers, hs.complete, hs.nodup, rfl, rfl, ?_⟩
      intro a ha
      rcases List.mem_cons.mp ha with rfl | ha
      · exact acceptedConfig_compiled h
      · exact hs.compiled a ha

/-- Loading an object gives the observer its descriptor. -/
theorem Owned.load {s : AgentRun} (hs : Owned s) {observer : String} {fd : RawFd}
    (hphase : s.phases observer = .notStarted) (hfree : s.agent.kernel.fds fd = none) :
    Owned ((s.setKernel (s.agent.kernel.load observer fd)).setPhase observer
      (.loaded (some fd))) := by
  refine hs.setPhase (.inl hphase) (by simp) (fun fd' o ho => ?_) fun fd' => ?_
  · by_cases hsame : fd' = fd
    · simp [Kernel.load, Kernel.open_, hsame, hfree, Ne.symm ho]
    · simp [Kernel.load, Kernel.open_, hsame]
  · by_cases hsame : fd' = fd
    · simp [Kernel.load, Kernel.open_, hsame]
    · simp [Kernel.load, Kernel.open_, hsame, hs.denotes, hphase, Ne.symm hsame]

/-- An observer without a config map moves to another phase without one. -/
theorem Owned.setPhase_bare {s : AgentRun} (hs : Owned s) {observer : String}
    (hphase : s.phases observer = .notStarted ∨ s.phases observer = .loaded none)
    {phase : ObserverPhase} (hbare : phase = .loaded none ∨ phase = .returned) :
    Owned (s.setPhase observer phase) := by
  have hloading : s.phases observer = .notStarted ∨ ∃ m, s.phases observer = .loaded m :=
    hphase.imp_right fun h => ⟨_, h⟩
  refine hs.setPhase hloading ?_ (fun _ _ _ => Iff.rfl) fun fd => ?_
  · rcases hbare with rfl | rfl <;> simp
  · rcases hbare with rfl | rfl <;> rcases hphase with h | h <;> simp [hs.denotes, h]

/-- A registration whose initial write fails closes the descriptor. -/
theorem Owned.registerFailed {s : AgentRun} (hs : Owned s) {observer : String} {fd : RawFd}
    (hphase : s.phases observer = .loaded (some fd)) (lateOk : Bool) :
    Owned (s.register observer fd false lateOk) := by
  have hfd := (hs.denotes fd observer).mpr (.inl hphase)
  rw [AgentRun.register_failed hfd]
  refine hs.setPhase (.inr ⟨_, hphase⟩) (by simp) (fun fd' o ho => ?_) fun fd' => ?_
  · simp [hs.close_fds hfd, ho]
  · simp [hs.close_fds hfd]

/-- Descriptors are owned in every run. -/
theorem owned_invariant : agentMachine.Invariant Owned where
  init := by
    constructor <;> simp [agentMachine, Kernel.boot, ConfigCarrierState.default]
  step := by
    intro s a t hs hstep
    cases stepped_of_agentStep hstep with
    | @opened fd hfree =>
        refine hs.setFd fun fd' o => ?_
        by_cases hsame : fd' = fd
        · simp [Kernel.open_, hsame, hfree]
        · simp [Kernel.open_, hsame]
    | @closed fd hother =>
        refine hs.setFd fun fd' o => ?_
        by_cases hsame : fd' = fd
        · simp [Kernel.close, hsame, hother]
        · simp [Kernel.close, hsame]
    | loadFailed hphase hname => exact hs.setPhase_bare (.inl hphase) (.inr rfl)
    | loadedBare hphase hname => exact hs.setPhase_bare (.inl hphase) (.inl rfl)
    | loaded hphase hname hfree => exact hs.load hphase hfree
    | bare hphase => exact hs.setPhase_bare (.inr hphase) (.inr rfl)
    | @registered observer fd initOk lateOk hphase =>
        cases initOk with
        | true => exact hs.registerOk hphase lateOk
        | false => exact hs.registerFailed hphase lateOk
    | returned hphase => exact hs.observerReturn hphase
    | polled => exact hs.poll ..

/-! ## What a step leaves alone -/

/-- The observer whose task takes the step. -/
def AgentStep.observer : AgentStep → Option String
  | .loadFailed observer => some observer
  | .load observer _ => some observer
  | .register observer _ _ => some observer
  | .observerReturn observer => some observer
  | .openFd _ => none
  | .closeFd _ => none
  | .poll _ _ => none

def AgentStep.isPoll : AgentStep → Bool
  | .poll _ _ => true
  | _ => false

/-- The phases and the config maps of the other observers, and everything the
poll loop owns, stay as they are; a new carrier belongs to an observer that is
now registered. -/
structure Frame (s t : AgentRun) (moved : Option String) : Prop where
  activeConfig : t.agent.activeConfig = s.agent.activeConfig
  accepted : t.accepted = s.accepted
  phases : ∀ o, moved ≠ some o → t.phases o = s.phases o
  configMaps : ∀ o, moved ≠ some o →
    t.agent.kernel.configMaps o = s.agent.kernel.configMaps o
  carriers : ∀ c ∈ t.agent.carriers.carriers,
    c ∈ s.agent.carriers.carriers ∨ t.phases c.observer = .registered c.mapFd

theorem AgentRun.frame_setKernel (s : AgentRun) {observer : Option String}
    {kernel : Kernel} (hmaps : ∀ o, observer ≠ some o →
      kernel.configMaps o = s.agent.kernel.configMaps o) :
    Frame s (s.setKernel kernel) observer where
  activeConfig := rfl
  accepted := rfl
  phases _ _ := rfl
  configMaps := hmaps
  carriers _ hc := .inl hc

theorem AgentRun.frame_setPhase (s : AgentRun) {observer : String} {kernel : Kernel}
    (phase : ObserverPhase)
    (hmaps : ∀ o, o ≠ observer → kernel.configMaps o = s.agent.kernel.configMaps o) :
    Frame s ((s.setKernel kernel).setPhase observer phase) (some observer) where
  activeConfig := rfl
  accepted := rfl
  phases _ ho := Function.update_of_ne (fun h => ho (congrArg some h.symm)) ..
  configMaps o ho := hmaps o fun h => ho (congrArg some h.symm)
  carriers _ hc := .inl hc

theorem Owned.frame_register {s : AgentRun} (hs : Owned s) {observer : String} {fd : RawFd}
    (hphase : s.phases observer = .loaded (some fd)) (initOk lateOk : Bool) :
    Frame s (s.register observer fd initOk lateOk) (some observer) := by
  have hfd := (hs.denotes fd observer).mpr (.inl hphase)
  cases initOk with
  | false =>
      rw [AgentRun.register_failed hfd]
      exact s.frame_setPhase _ fun _ _ => rfl
  | true =>
      rw [AgentRun.register_ok hfd]
      refine ⟨rfl, rfl, fun o ho => ?_, fun o ho => ?_, fun c hc => ?_⟩
      · exact Function.update_of_ne (fun h => ho (congrArg some h.symm)) ..
      · refine (AgentRun.registeredKernel_configMaps hfd lateOk o).trans ?_
        rw [if_neg fun h => ho (congrArg some h.symm)]
      · rcases List.mem_append.mp hc with hc | hc
        · exact .inl hc
        · obtain rfl := List.mem_singleton.mp hc
          exact .inr (Function.update_self ..)

/-- A step other than a poll moves at most one observer. -/
theorem Owned.frame {s t : AgentRun} {a : AgentStep} (hs : Owned s)
    (hpoll : a.isPoll = false) (hstep : agentStep s a = some t) :
    Frame s t a.observer := by
  cases stepped_of_agentStep hstep with
  | opened hfree => exact s.frame_setKernel fun _ _ => rfl
  | closed hother => exact s.frame_setKernel fun _ _ => rfl
  | loadFailed hphase hname => exact s.frame_setPhase _ fun _ _ => rfl
  | loadedBare hphase hname => exact s.frame_setPhase _ fun _ _ => rfl
  | loaded hphase hname hfree => exact s.frame_setPhase _ fun o ho => Function.update_of_ne ho ..
  | bare hphase => exact s.frame_setPhase _ fun _ _ => rfl
  | registered hphase => exact hs.frame_register hphase ..
  | returned hphase => exact s.frame_setPhase _ fun _ _ => rfl
  | polled => cases hpoll

/-- The observer a step moves was still loading, unless it returns. -/
theorem phase_of_observer {s t : AgentRun} {a : AgentStep} {o : String}
    (hstep : agentStep s a = some t) (ho : a.observer = some o) :
    (s.phases o = .notStarted ∨ ∃ m, s.phases o = .loaded m) ∨ a = .observerReturn o := by
  cases stepped_of_agentStep hstep with
  | opened hfree => cases ho
  | closed hother => cases ho
  | loadFailed hphase hname | loadedBare hphase hname | loaded hphase hname hfree =>
      obtain rfl := Option.some.inj ho
      exact .inl (.inl hphase)
  | bare hphase | registered hphase =>
      obtain rfl := Option.some.inj ho
      exact .inl (.inr ⟨_, hphase⟩)
  | returned hphase =>
      obtain rfl := Option.some.inj ho
      exact .inr rfl
  | polled => cases ho

/-- A poll that accepts a config changes exactly the maps that its successful
writes reach. -/
theorem AgentRun.poll_configMaps {s : AgentRun} {reply : HttpReply ConfigResponse}
    {accepted : AcceptedConfig} (h : acceptedConfig reply = some accepted)
    (ok : ConfigCarrier → Bool) (o : String) :
    (s.poll reply ok).agent.kernel.configMaps o =
      if ∃ c ∈ s.agent.carriers.carriers,
          s.agent.kernel.fds c.mapFd = some (.configMap o) ∧ ok c then
        accepted.tapioConfig
      else s.agent.kernel.configMaps o := by
  simp only [AgentRun.poll, pollOnce_of_some h, fanOut_configMaps]

end Tapio.Agent
