/-
# Which config judges a PMC sample

A sample is stamped by the probe with the generation that its config map holds, and
judged later by the observer with the thresholds that it is handed through a channel.
The poll task writes the map first and sends the thresholds afterwards. Samples, both
halves of an application, and drains interleave freely. An occurrence reports the
stamped generation; whether it was judged by that config is a question of the order.
-/
import Tapio.Agent.NodePmc
import Tapio.Agent.Poll
import Tapio.Ebpf.NodePmc
import Tapio.Transition.Machine

namespace Tapio.Agent

open Ebpf Transition Wire

def pmcObserver : String := "node_pmc"

/-- A sample in the ring buffer, with the config whose write the probe has found. -/
structure QueuedSample where
  event : PmcEvent
  stampedBy : Option AcceptedConfig

/-- An occurrence, with the thresholds it was judged with. -/
structure Judgement where
  occurrence : PmcOccurrence
  thresholds : PmcThresholds
  stampedBy : Option AcceptedConfig

structure PmcRun where
  agent : AgentState
  /-- The config that is written to the carriers and whose thresholds are not sent yet. -/
  applying : Option AcceptedConfig
  /-- The config whose write has reached the observer's map last. -/
  carried : Option AcceptedConfig
  /-- The config whose thresholds were sent last. -/
  sent : Option AcceptedConfig
  /-- The ring buffer, oldest first. -/
  ring : List QueuedSample
  metrics : Metrics
  judgements : List Judgement

inductive PmcStep
  /-- The timer fires on a CPU. -/
  | sample (inv : Invocation) (reads : PmcReads)
  /-- The first half of a poll: receive a config and write it to the carriers. -/
  | write (reply : HttpReply ConfigResponse) (ok : ConfigCarrier → Bool)
  /-- The second half: send the thresholds and mark the config as applied. -/
  | send
  /-- The observer takes a sample from the ring buffer. -/
  | drain (bootOffsetNs : UInt64)

/-- The carrier writes of `apply_config`. -/
def AgentState.writeCarriers (s : AgentState) (accepted : AcceptedConfig)
    (ok : ConfigCarrier → Bool) : AgentState :=
  let (kernel, carriers, _failed) := updateAll s.kernel s.carriers accepted.tapioConfig ok
  { s with kernel := kernel, carriers := carriers }

/-- What a poll does once the carriers are written. -/
def AgentState.sendThresholds (s : AgentState) (accepted : AcceptedConfig) : AgentState :=
  { s with
    pmcThresholds := pmcThresholdsFromCompiled accepted.response.config
    etag := some ("\"" ++ accepted.response.configHash ++ "\"")
    activeConfig := some accepted.identity
    configVersion := toString accepted.generation }

/-- The two halves are the poll. -/
theorem sendThresholds_writeCarriers {reply : HttpReply ConfigResponse}
    {accepted : AcceptedConfig} (h : acceptedConfig reply = some accepted) (s : AgentState)
    (ok : ConfigCarrier → Bool) :
    (s.writeCarriers accepted ok).sendThresholds accepted = pollOnce s reply ok true := by
  rw [pollOnce_of_some h]
  rfl

/-- Some write of a fan-out reaches the observer's map. -/
def Reaches (s : AgentState) (ok : ConfigCarrier → Bool) : Prop :=
  ∃ c ∈ s.carriers.carriers, s.kernel.fds c.mapFd = some (.configMap pmcObserver) ∧ ok c

instance (s : AgentState) (ok : ConfigCarrier → Bool) : Decidable (Reaches s ok) :=
  inferInstanceAs (Decidable (∃ c ∈ s.carriers.carriers, _))

/-- The observer's map holds the config after a write that reaches it. -/
theorem configMaps_writeCarriers (s : AgentState) (accepted : AcceptedConfig)
    (ok : ConfigCarrier → Bool) :
    (s.writeCarriers accepted ok).kernel.configMaps pmcObserver =
      if Reaches s ok then accepted.tapioConfig else s.kernel.configMaps pmcObserver :=
  fanOut_configMaps accepted.tapioConfig ok s.kernel s.carriers.carriers pmcObserver

/-- What the probe does when the timer fires. It finds the map as it is. -/
def PmcRun.sampled (run : PmcRun) (inv : Invocation) (reads : PmcReads) :
    Metrics × Option PmcEvent :=
  samplePmc { inv with configMap := some (run.agent.kernel.configMaps pmcObserver) } reads
    run.metrics

def PmcRun.sample (run : PmcRun) (inv : Invocation) (reads : PmcReads) : PmcRun :=
  { run with
    metrics := (run.sampled inv reads).1
    ring := run.ring ++
      ((run.sampled inv reads).2.map fun event => ⟨event, run.carried⟩).toList }

def PmcRun.write (run : PmcRun) (accepted : AcceptedConfig) (ok : ConfigCarrier → Bool) :
    PmcRun :=
  { run with
    agent := run.agent.writeCarriers accepted ok
    applying := some accepted
    carried := if Reaches run.agent ok then some accepted else run.carried }

def PmcRun.send (run : PmcRun) (accepted : AcceptedConfig) : PmcRun :=
  { run with
    agent := run.agent.sendThresholds accepted
    applying := none
    sent := some accepted }

/-- One round of the drain loop. -/
def PmcRun.drain (run : PmcRun) (sample : QueuedSample) (rest : List QueuedSample)
    (bootOffsetNs : UInt64) : PmcRun :=
  match classify sample.event run.agent.pmcThresholds with
  | none => { run with ring := rest }
  | some anomaly =>
      { run with
        ring := rest
        judgements := run.judgements ++ [⟨buildOccurrence sample.event anomaly bootOffsetNs,
          run.agent.pmcThresholds, sample.stampedBy⟩] }

def pmcStep (run : PmcRun) : PmcStep → Option PmcRun
  | .sample inv reads => some (run.sample inv reads)
  | .write reply ok =>
      match run.applying, acceptedConfig reply with
      | none, some accepted => some (run.write accepted ok)
      | none, none => some run
      | some _, _ => none
  | .send => run.applying.map run.send
  | .drain bootOffsetNs =>
      match run.ring with
      | [] => none
      | sample :: rest => some (run.drain sample rest bootOffsetNs)

/-- An agent in controller mode before the first config: the maps hold zeros, and the
thresholds are those of its own configuration. -/
def pmcMachine (fds : RawFd → Option Descriptor) (carriers : List ConfigCarrier)
    (thresholds : PmcThresholds) : Machine PmcRun PmcStep where
  init := {
    agent := {
      kernel := ⟨fds, fun _ => TapioConfig.default⟩
      carriers := ⟨carriers, none⟩
      pmcThresholds := thresholds
      activeConfig := none
      configVersion := "0"
      etag := none }
    applying := none
    carried := none
    sent := none
    ring := []
    metrics := fun _ => 0
    judgements := [] }
  step := pmcStep

/-! ## What is reported and what it takes -/

/-- The thresholds are those of the config that is applied with the reported
generation. -/
def Judgement.ByReported (judgement : Judgement) : Prop :=
  ∃ accepted ∈ judgement.stampedBy,
    accepted.generation = judgement.occurrence.data.configGeneration ∧
      judgement.thresholds = pmcThresholdsFromCompiled accepted.response.config

/-- Every occurrence is judged by the config generation that it reports. -/
def JudgedByReported (run : PmcRun) : Prop := ∀ judgement ∈ run.judgements, judgement.ByReported

/-- The config sent last has the settings of the config that a sample was stamped by; as
long as none is sent, the agent's own thresholds happen to be those. -/
def SentAgrees (thresholds : PmcThresholds) (run : PmcRun) (sample : QueuedSample) : Prop :=
  ∀ stamped ∈ sample.stampedBy,
    match run.sent with
    | some sent => SamePmcSettings sent.response.config.nodePmc stamped.response.config.nodePmc
    | none => thresholds = pmcThresholdsFromCompiled stamped.response.config

/-- No anomalous sample is drained after other settings than those of its config have
been sent, or before those of its config have. -/
def DrainedInTime (thresholds : PmcThresholds) (run : PmcRun) : PmcStep → Prop
  | .drain _ =>
      ∀ sample ∈ run.ring.head?,
        (classify sample.event run.agent.pmcThresholds).isSome → SentAgrees thresholds run sample
  | _ => True

instance (judgement : Judgement) : Decidable judgement.ByReported :=
  inferInstanceAs (Decidable (∃ accepted ∈ judgement.stampedBy, _))

instance : DecidablePred JudgedByReported := fun run =>
  inferInstanceAs (Decidable (∀ judgement ∈ run.judgements, _))

/-! ## The invariant -/

/-- How the maps, the channel and the queue go back to the configs that were applied. -/
structure Traced (thresholds : PmcThresholds) (run : PmcRun) : Prop where
  configMap : run.agent.kernel.configMaps pmcObserver =
    (run.carried.map AcceptedConfig.tapioConfig).getD TapioConfig.default
  carried : ∀ accepted ∈ run.carried, accepted.tapioConfig.generation = accepted.generation
  channel : run.agent.pmcThresholds =
    (run.sent.map fun sent => pmcThresholdsFromCompiled sent.response.config).getD thresholds
  ring : ∀ sample ∈ run.ring, ∃ accepted ∈ sample.stampedBy,
    accepted.generation = sample.event.configGeneration

/-- A sample is stamped with the generation of the config that has reached the map. -/
theorem Traced.sampled {thresholds : PmcThresholds} {run : PmcRun} (h : Traced thresholds run)
    (inv : Invocation) (reads : PmcReads) :
    ∀ event ∈ (run.sampled inv reads).2, ∃ accepted ∈ run.carried,
      accepted.generation = event.configGeneration := by
  intro event hevent
  rw [PmcRun.sampled] at hevent
  cases hon : Invocation.enabledConfig
      { inv with configMap := some (run.agent.kernel.configMaps pmcObserver) }
      tapioFNodePmc with
  | none =>
      rw [samplePmc_disabled hon] at hevent
      cases hevent
  | some cfg =>
      have hstamp := samplePmc_stamped hon event hevent
      obtain ⟨hmap, habi, -⟩ := Invocation.enabledConfig_eq_some_iff.mp hon
      have hcfg : run.agent.kernel.configMaps pmcObserver = cfg := Option.some.inj hmap
      rw [h.configMap] at hcfg
      cases hcarried : run.carried with
      | none =>
          -- the zeros of the start have no valid layout version
          rw [hcarried] at hcfg
          subst hcfg
          exact absurd habi (by decide)
      | some accepted =>
          rw [hcarried] at hcfg
          subst hcfg
          exact ⟨accepted, rfl, (h.carried accepted hcarried).symm.trans hstamp.symm⟩

theorem Traced.sample {thresholds : PmcThresholds} {run : PmcRun} (h : Traced thresholds run)
    (inv : Invocation) (reads : PmcReads) : Traced thresholds (run.sample inv reads) := by
  refine ⟨h.configMap, h.carried, h.channel, fun sample hsample => ?_⟩
  rcases List.mem_append.mp hsample with hsample | hsample
  · exact h.ring sample hsample
  · obtain ⟨event, hevent, rfl⟩ := Option.map_eq_some_iff.mp (Option.mem_toList.mp hsample)
    exact h.sampled inv reads event hevent

theorem Traced.write {thresholds : PmcThresholds} {run : PmcRun} (h : Traced thresholds run)
    {reply : HttpReply ConfigResponse} {accepted : AcceptedConfig}
    (haccepted : acceptedConfig reply = some accepted) (ok : ConfigCarrier → Bool) :
    Traced thresholds (run.write accepted ok) := by
  refine ⟨?_, ?_, h.channel, h.ring⟩
  · rw [PmcRun.write, configMaps_writeCarriers]
    dsimp only
    split
    · rfl
    · exact h.configMap
  · simp only [PmcRun.write]
    split
    · rintro _ ⟨⟩
      exact acceptedConfig_generation haccepted
    · exact h.carried

theorem Traced.send {thresholds : PmcThresholds} {run : PmcRun} (h : Traced thresholds run)
    (accepted : AcceptedConfig) : Traced thresholds (run.send accepted) :=
  ⟨h.configMap, h.carried, rfl, h.ring⟩

theorem Traced.drain {thresholds : PmcThresholds} {run : PmcRun} (h : Traced thresholds run)
    {sample : QueuedSample} {rest : List QueuedSample} (hring : run.ring = sample :: rest)
    (bootOffsetNs : UInt64) : Traced thresholds (run.drain sample rest bootOffsetNs) := by
  have hrest : ∀ s ∈ rest, ∃ accepted ∈ s.stampedBy,
      accepted.generation = s.event.configGeneration :=
    fun s hs => h.ring s (hring ▸ List.mem_cons_of_mem _ hs)
  rw [PmcRun.drain]
  split
  · exact ⟨h.configMap, h.carried, h.channel, hrest⟩
  · exact ⟨h.configMap, h.carried, h.channel, hrest⟩

/-- What the steps of the machine are. -/
theorem pmcStep_cases {run run' : PmcRun} {step : PmcStep} (h : pmcStep run step = some run') :
    (∃ inv reads, step = .sample inv reads ∧ run' = run.sample inv reads) ∨
      (∃ reply ok, step = .write reply ok ∧
        (run' = run ∨ ∃ accepted, acceptedConfig reply = some accepted ∧
          run.applying = none ∧ run' = run.write accepted ok)) ∨
      (∃ accepted, step = .send ∧ run.applying = some accepted ∧ run' = run.send accepted) ∨
      ∃ bootOffsetNs sample rest, step = .drain bootOffsetNs ∧ run.ring = sample :: rest ∧
        run' = run.drain sample rest bootOffsetNs := by
  cases step with
  | sample inv reads => exact .inl ⟨inv, reads, rfl, (Option.some.inj h).symm⟩
  | write reply ok =>
      refine .inr (.inl ⟨reply, ok, rfl, ?_⟩)
      simp only [pmcStep] at h
      split at h
      · next accepted happlying haccepted =>
          exact .inr ⟨accepted, haccepted, happlying, (Option.some.inj h).symm⟩
      · exact .inl (Option.some.inj h).symm
      · cases h
  | send =>
      obtain ⟨accepted, happlying, hsend⟩ := Option.map_eq_some_iff.mp h
      exact .inr (.inr (.inl ⟨accepted, rfl, happlying, hsend.symm⟩))
  | drain bootOffsetNs =>
      simp only [pmcStep] at h
      split at h
      · cases h
      · next sample rest hring =>
          have hevents := (Option.some.inj h).symm
          exact .inr (.inr (.inr ⟨bootOffsetNs, sample, rest, rfl, hring, hevents⟩))

theorem pmcMachine_invariant (fds : RawFd → Option Descriptor) (carriers : List ConfigCarrier)
    (thresholds : PmcThresholds) :
    (pmcMachine fds carriers thresholds).Invariant (Traced thresholds) where
  init := ⟨rfl, fun _ haccepted => absurd haccepted (Option.not_mem_none _), rfl,
    List.forall_mem_nil _⟩
  step {run step run'} h hstep := by
    obtain ⟨inv, reads, -, rfl⟩ | ⟨reply, ok, -, rfl | ⟨accepted, haccepted, -, rfl⟩⟩ |
      ⟨accepted, -, -, rfl⟩ | ⟨bootOffsetNs, sample, rest, -, hring, rfl⟩ := pmcStep_cases hstep
    · exact h.sample inv reads
    · exact h
    · exact h.write haccepted ok
    · exact h.send accepted
    · exact h.drain hring bootOffsetNs

/-! ## The result -/

/-- The channel has the thresholds of a sample's config exactly when the config sent last
has its settings. -/
theorem Traced.sentAgrees_iff {thresholds : PmcThresholds} {run : PmcRun}
    (h : Traced thresholds run) (sample : QueuedSample) :
    SentAgrees thresholds run sample ↔ ∀ stamped ∈ sample.stampedBy,
      run.agent.pmcThresholds = pmcThresholdsFromCompiled stamped.response.config := by
  rw [h.channel, SentAgrees]
  cases run.sent with
  | none => exact Iff.rfl
  | some sent => exact forall₂_congr fun stamped _ => pmcThresholdsFromCompiled_eq_iff.symm

/-- A drain leaves the occurrences well judged exactly when its sample is drained in
time. -/
theorem Traced.judgedByReported_drain {thresholds : PmcThresholds} {run : PmcRun}
    (h : Traced thresholds run) (hjudged : JudgedByReported run) {sample : QueuedSample}
    {rest : List QueuedSample} (hring : run.ring = sample :: rest) (bootOffsetNs : UInt64) :
    JudgedByReported (run.drain sample rest bootOffsetNs) ↔
      DrainedInTime thresholds run (.drain bootOffsetNs) := by
  obtain ⟨accepted, hstamped, hgeneration⟩ := h.ring sample (hring ▸ List.mem_cons_self)
  have hstamped : sample.stampedBy = some accepted := hstamped
  have hjudged : ∀ judgement ∈ run.judgements, judgement.ByReported := hjudged
  simp only [DrainedInTime, hring, List.head?_cons, Option.mem_some_iff, forall_eq']
  rw [h.sentAgrees_iff, hstamped]
  cases hclassify : classify sample.event run.agent.pmcThresholds with
  | none => simpa [PmcRun.drain, hclassify, JudgedByReported] using hjudged
  | some anomaly =>
      simp only [PmcRun.drain, hclassify, JudgedByReported, Option.isSome_some, forall_const,
        Option.mem_some_iff, forall_eq', List.forall_mem_append, List.forall_mem_singleton]
      rw [and_iff_right hjudged, Judgement.ByReported, hstamped]
      simp [buildOccurrence, hgeneration]

/-- **Which config judges.** In a run, every occurrence is judged by the config whose
generation it reports exactly when every anomalous sample is drained in time. -/
theorem judgedByReported_iff_drainedInTime (fds : RawFd → Option Descriptor)
    (carriers : List ConfigCarrier) (thresholds : PmcThresholds) (schedule : List PmcStep) :
    (pmcMachine fds carriers thresholds).Always JudgedByReported
        (pmcMachine fds carriers thresholds).init schedule ↔
      (pmcMachine fds carriers thresholds).EachStep (DrainedInTime thresholds)
        (pmcMachine fds carriers thresholds).init schedule := by
  have hinvariant := pmcMachine_invariant fds carriers thresholds
  refine Machine.always_iff_eachStep hinvariant.step ?_ hinvariant.init (List.forall_mem_nil _)
    schedule
  intro run step run' h hjudged hstep
  obtain ⟨inv, reads, rfl, rfl⟩ | ⟨reply, ok, rfl, rfl | ⟨accepted, -, -, rfl⟩⟩ |
    ⟨accepted, rfl, -, rfl⟩ | ⟨bootOffsetNs, sample, rest, rfl, hring, rfl⟩ := pmcStep_cases hstep
  · exact iff_of_true hjudged trivial
  · exact iff_of_true hjudged trivial
  · exact iff_of_true hjudged trivial
  · exact iff_of_true hjudged trivial
  · exact h.judgedByReported_drain hjudged hring bootOffsetNs

/-! ## Two ways to look at it -/

/-- Applications and samples are kept apart: none is taken while one is under way, every
write reaches the map, and the ring buffer is empty when thresholds are sent. -/
def KeptApart (run : PmcRun) : PmcStep → Prop
  | .sample _ _ => run.applying = none
  | .write reply ok => acceptedConfig reply ≠ none → Reaches run.agent ok
  | .send => run.ring = []
  | .drain _ => True

/-- Whatever is queued was stamped by the config sent last. -/
structure Settled (run : PmcRun) : Prop where
  between : run.applying = none → run.carried = run.sent
  applying : ∀ accepted ∈ run.applying, run.carried = some accepted
  ring : ∀ sample ∈ run.ring, sample.stampedBy = run.sent

theorem Settled.step {run run' : PmcRun} {step : PmcStep} (h : Settled run)
    (hapart : KeptApart run step) (hstep : pmcStep run step = some run') : Settled run' := by
  obtain ⟨inv, reads, rfl, rfl⟩ | ⟨reply, ok, rfl, rfl | ⟨accepted, haccepted, hidle, rfl⟩⟩ |
    ⟨accepted, rfl, happlying, rfl⟩ | ⟨bootOffsetNs, sample, rest, rfl, hring, rfl⟩ :=
    pmcStep_cases hstep
  · refine ⟨h.between, h.applying, fun sample hsample => ?_⟩
    rcases List.mem_append.mp hsample with hsample | hsample
    · exact h.ring sample hsample
    · obtain ⟨event, -, rfl⟩ := Option.map_eq_some_iff.mp (Option.mem_toList.mp hsample)
      exact h.between hapart
  · exact h
  · have hreaches : Reaches run.agent ok := hapart (by simp [haccepted])
    refine ⟨fun hidle => absurd hidle (Option.some_ne_none accepted), ?_, h.ring⟩
    rintro _ ⟨⟩
    exact if_pos hreaches
  · refine ⟨fun _ => h.applying accepted happlying, fun _ hnone => absurd hnone
      (Option.not_mem_none _), ?_⟩
    have hempty : run.ring = [] := hapart
    rw [PmcRun.send, hempty]
    exact List.forall_mem_nil _
  · have hrest : ∀ s ∈ rest, s.stampedBy = run.sent :=
      fun s hs => h.ring s (hring ▸ List.mem_cons_of_mem _ hs)
    rw [PmcRun.drain]
    split
    · exact ⟨h.between, h.applying, hrest⟩
    · exact ⟨h.between, h.applying, hrest⟩

/-- What is stamped by the config sent last is drained in time. -/
theorem Settled.drainedInTime {run : PmcRun} (h : Settled run) (thresholds : PmcThresholds)
    (step : PmcStep) : DrainedInTime thresholds run step := by
  cases step with
  | drain bootOffsetNs =>
      intro sample hsample _ stamped hstamped
      have hsent : run.sent = some stamped :=
        (h.ring sample (List.mem_of_mem_head? hsample)).symm.trans hstamped
      rw [hsent]
      exact ⟨rfl, rfl, rfl⟩
  | _ => trivial

/-- Every occurrence is judged by the config it reports as long as applications and
samples are kept apart. -/
theorem judgedByReported_of_keptApart (fds : RawFd → Option Descriptor)
    (carriers : List ConfigCarrier) (thresholds : PmcThresholds) {schedule : List PmcStep}
    (hapart : (pmcMachine fds carriers thresholds).EachStep KeptApart
      (pmcMachine fds carriers thresholds).init schedule) :
    (pmcMachine fds carriers thresholds).Always JudgedByReported
      (pmcMachine fds carriers thresholds).init schedule := by
  rw [judgedByReported_iff_drainedInTime]
  have hinit : Settled (pmcMachine fds carriers thresholds).init :=
    ⟨fun _ => rfl, fun _ hnone => absurd hnone (Option.not_mem_none _), List.forall_mem_nil _⟩
  refine Machine.eachStep_of_preserved ?_ ?_ hinit hapart
  · exact fun h hapart hstep => h.step hapart hstep
  · exact fun h _ => h.drainedInTime thresholds _

/-- The first config tolerates stalls that the second does not. -/
def tolerantConfig : ConfigResponse :=
  { ConfigResponse.defaultV1 with
    version := "1"
    configHash := "sha256:tolerant"
    config := { ConfigResponse.defaultV1.config with nodePmc := ⟨true, 500, 600, 1000⟩ } }

def strictConfig : ConfigResponse :=
  { ConfigResponse.defaultV1 with version := "2", configHash := "sha256:strict" }

/-- The PMC observer's map is open and registered under this number. -/
def pmcFds : RawFd → Option Descriptor :=
  Function.update (fun _ => none) 10 (some (.configMap pmcObserver))

def timerInvocation : Invocation where
  configMap := none
  ktimeNs := 5000000000
  cgroupId := 1
  pidTgid := 0
  comm := List.Vector.replicate _ 0
  ringbufFree := true

/-- A CPU that stalls for 45 percent of its cycles is sampled under the first config and
judged under the second. -/
theorem not_judgedByReported_superseded :
    ¬ (pmcMachine pmcFds [⟨pmcObserver, 10⟩] .default).Always JudgedByReported
      (pmcMachine pmcFds [⟨pmcObserver, 10⟩] .default).init
      [.write (.response 200 (.ok tolerantConfig)) fun _ => true, .send,
        .sample timerInvocation ⟨0, some 1000, some 2000, some 450⟩,
        .write (.response 200 (.ok strictConfig)) fun _ => true, .send,
        .drain 1700000000000000000] := by
  decide +kernel

end Tapio.Agent
