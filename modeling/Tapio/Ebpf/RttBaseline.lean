/-
# The life of a round-trip-time baseline

Invocations of the state-change handler for any connections, one at a time, under any
configs. An entry of the baseline map is inserted by the first sample of its connection and
changed by the later ones. Beside the maps a run keeps the samples of each connection since
its insertion or its last reset.

The states of an entry are well formed whatever the configs are. Its baseline is an average
of those samples as long as the sums fit into 32 bits: the average is multiplied by its
weight before it is divided, and where the product wraps the baseline falls out of the range
of the samples.
-/
import Tapio.Ebpf.Network
import Tapio.Numeric.Average
import Tapio.Transition.Machine

namespace Tapio.Ebpf

open Numeric Transition

/-! ## Samples -/

/-- An invocation of the handler, with its context and what it reads. -/
structure SockCall where
  inv : Invocation
  args : TraceEventRawInetSockSetState
  srttUs : Option UInt32
  stateRingbufFree : Bool

def SockCall.run (call : SockCall) (maps : NetworkMaps) : NetworkMaps × List NetworkEvent :=
  traceInetSockSetState call.inv call.args call.srttUs call.stateRingbufFree maps

/-- A round-trip time of a connection, and the config it is handled under. -/
structure RttSample where
  cfg : TapioConfig
  key : ConnKey
  rttUs : UInt32
  deriving DecidableEq

/-- The sample that an invocation handles, if any. -/
def SockCall.sample (call : SockCall) : Option RttSample := do
  let cfg ← call.inv.enabledConfig tapioFNetwork
  guard (call.args.protocol = ipprotoTcp)
  let srttUs ← call.srttUs
  let key ← connKey call.args.toEndpoints
  guard (call.args.newstate = tcpState tcpEstablished ∧ srttUs >>> 3 > 0)
  some ⟨cfg, key, srttUs >>> 3⟩

/-- The entry of a connection after a sample. -/
def RttSample.entry (sample : RttSample) (nowNs : UInt64) : Option RttBaseline → RttBaseline
  | none => newBaseline sample.rttUs nowNs
  | some found =>
      let baseline := { found with lastActivityNs := nowNs }
      if found.state = rttStateLearning then learnBaseline sample.cfg baseline sample.rttUs
      else if found.state = rttStateStable then refreshBaseline nowNs baseline sample.rttUs
      else baseline

/-- The maps with another entry of a connection. -/
def NetworkMaps.setBaseline (maps : NetworkMaps) (key : ConnKey) (baseline : RttBaseline) :
    NetworkMaps :=
  { maps with baselineRtt := Function.update maps.baselineRtt key (some baseline) }

/-! ## What a sample does -/

section Track

variable (inv : Invocation) (args : TraceEventRawInetSockSetState) (sample : RttSample)
  (maps : NetworkMaps)

/-- What the handler does with the sample. -/
def RttSample.track : NetworkMaps × Option NetworkEvent :=
  trackRtt inv sample.cfg args sample.key sample.rttUs maps

/-- The maps after the sample. -/
def RttSample.tracked : NetworkMaps :=
  maps.setBaseline sample.key (sample.entry inv.ktimeNs (maps.baselineRtt sample.key))

variable {sample maps} {found : RttBaseline}

theorem RttSample.track_none (hnone : maps.baselineRtt sample.key = none) :
    sample.track inv args maps = (sample.tracked inv maps, none) := by
  simp only [RttSample.track, trackRtt, HashMap.updateNoExist, hnone]
  rw [RttSample.tracked, hnone]
  rfl

theorem RttSample.track_learning (hfound : maps.baselineRtt sample.key = some found)
    (hlearning : found.state = rttStateLearning) :
    sample.track inv args maps = (sample.tracked inv maps, none) := by
  simp only [RttSample.track, trackRtt, hfound, if_pos hlearning]
  rw [RttSample.tracked, hfound, RttSample.entry, if_pos hlearning, HashMap.modify, hfound]
  rfl

theorem RttSample.track_stable (hfound : maps.baselineRtt sample.key = some found)
    (hstable : found.state = rttStateStable) :
    sample.track inv args maps =
      let baseline := sample.entry inv.ktimeNs (maps.baselineRtt sample.key)
      if isRttSpike sample.cfg baseline.baselineUs sample.rttUs then
        submitNetwork inv.ringbufFree
          (rttSpikeEvent inv sample.cfg args baseline.baselineUs sample.rttUs)
          (sample.tracked inv maps)
      else (sample.tracked inv maps, none) := by
  have hlearning : found.state ≠ rttStateLearning := by
    rw [hstable]
    decide
  simp only [RttSample.track, trackRtt, hfound, if_neg hlearning, if_pos hstable]
  rw [RttSample.tracked, hfound, RttSample.entry, if_neg hlearning, if_pos hstable,
    HashMap.modify, hfound]
  rfl

theorem RttSample.track_other (hfound : maps.baselineRtt sample.key = some found)
    (hlearning : found.state ≠ rttStateLearning) (hstable : found.state ≠ rttStateStable) :
    sample.track inv args maps = (sample.tracked inv maps, none) := by
  simp only [RttSample.track, trackRtt, hfound, if_neg hlearning, if_neg hstable]
  rw [RttSample.tracked, hfound, RttSample.entry, if_neg hlearning, if_neg hstable,
    HashMap.modify, hfound]
  rfl

end Track

@[simp]
theorem submitNetwork_baselineRtt (ringbufFree : Bool) (event : NetworkEvent)
    (maps : NetworkMaps) :
    (submitNetwork ringbufFree event maps).1.baselineRtt = maps.baselineRtt := by
  cases ringbufFree <;> rfl

/-- A sample changes the entry of its connection, and no other. -/
theorem RttSample.track_baselineRtt (inv : Invocation) (args : TraceEventRawInetSockSetState)
    (sample : RttSample) (maps : NetworkMaps) :
    (sample.track inv args maps).1.baselineRtt = (sample.tracked inv maps).baselineRtt := by
  cases hfound : maps.baselineRtt sample.key with
  | none => rw [sample.track_none inv args hfound]
  | some found =>
      by_cases hlearning : found.state = rttStateLearning
      · rw [sample.track_learning inv args hfound hlearning]
      · by_cases hstable : found.state = rttStateStable
        · rw [sample.track_stable inv args hfound hstable]
          dsimp only
          split
          · exact submitNetwork_baselineRtt ..
          · rfl
        · rw [sample.track_other inv args hfound hlearning hstable]

/-- Only a sample that finds its entry stable is reported. -/
theorem RttSample.stable_of_track {inv : Invocation} {args : TraceEventRawInetSockSetState}
    {sample : RttSample} {maps : NetworkMaps} {event : NetworkEvent}
    (h : event ∈ (sample.track inv args maps).2) :
    ∃ found, maps.baselineRtt sample.key = some found ∧ found.state = rttStateStable := by
  cases hfound : maps.baselineRtt sample.key with
  | none =>
      rw [sample.track_none inv args hfound] at h
      cases h
  | some found =>
      by_cases hstable : found.state = rttStateStable
      · exact ⟨found, rfl, hstable⟩
      · by_cases hlearning : found.state = rttStateLearning
        · rw [sample.track_learning inv args hfound hlearning] at h
          cases h
        · rw [sample.track_other inv args hfound hlearning hstable] at h
          cases h

/-! ## What an invocation does -/

/-- The first part of the handler, up to `skip_rtt_tracking`. -/
def SockCall.tracking (call : SockCall) (maps : NetworkMaps) : NetworkMaps × Option NetworkEvent :=
  match call.sample with
  | none => (maps, none)
  | some sample => sample.track call.inv call.args maps

theorem SockCall.rttTracking_eq {call : SockCall} {cfg : TapioConfig}
    (hon : call.inv.enabledConfig tapioFNetwork = some cfg)
    (htcp : call.args.protocol = ipprotoTcp) (maps : NetworkMaps) :
    rttTracking call.inv cfg call.args call.srttUs maps = call.tracking maps := by
  unfold rttTracking SockCall.tracking SockCall.sample
  rw [hon]
  cases call.srttUs with
  | none => simp [htcp]
  | some srttUs =>
      cases hkey : connKey call.args.toEndpoints with
      | none => simp [htcp]
      | some key =>
          by_cases hestablished :
              call.args.newstate = tcpState tcpEstablished ∧ srttUs >>> 3 > 0
          · simp [htcp, hestablished, RttSample.track]
          · simp [htcp, hestablished]

theorem SockCall.sample_of_disabled {call : SockCall}
    (hoff : call.inv.enabledConfig tapioFNetwork = none) : call.sample = none := by
  rw [SockCall.sample, hoff]
  rfl

theorem SockCall.sample_of_protocol_ne {call : SockCall}
    (hprotocol : call.args.protocol ≠ ipprotoTcp) : call.sample = none := by
  rw [SockCall.sample]
  cases call.inv.enabledConfig tapioFNetwork with
  | none => rfl
  | some cfg => simp [hprotocol]

/-- An invocation handles its sample, and may report a state change after it. -/
theorem SockCall.run_eq (call : SockCall) (maps : NetworkMaps) :
    (call.run maps).1.baselineRtt = (call.tracking maps).1.baselineRtt ∧
      ∀ event, event.eventType = netEventRttSpike →
        (event ∈ (call.run maps).2 ↔ event ∈ (call.tracking maps).2) := by
  cases hon : call.inv.enabledConfig tapioFNetwork with
  | none =>
      rw [SockCall.run, traceInetSockSetState_disabled hon, SockCall.tracking,
        SockCall.sample_of_disabled hon]
      simp
  | some cfg =>
      by_cases htcp : call.args.protocol = ipprotoTcp
      · rw [SockCall.run, traceInetSockSetState, hon]
        simp only [htcp, ne_eq, not_true, if_false, SockCall.rttTracking_eq hon htcp]
        split
        · refine ⟨submitNetwork_baselineRtt .., fun event htype => ?_⟩
          have hchange : event ∉ (submitNetwork call.stateRingbufFree
              (stateChangeEvent call.inv cfg call.args) (call.tracking maps).1).2 := by
            intro h
            rw [eq_of_submitNetwork h] at htype
            cases htype
          rw [List.mem_append, Option.mem_toList, Option.mem_toList]
          exact or_iff_left hchange
        · exact ⟨rfl, fun event _ => by simp⟩
      · rw [SockCall.run, traceInetSockSetState, hon]
        simp [htcp, SockCall.tracking, SockCall.sample_of_protocol_ne htcp]

/-! ## Runs -/

/-- The average of a learning entry with one more sample. -/
def learnedAverage (found : RttBaseline) (rttUs : UInt32) : UInt32 :=
  wordAverage ((countSample found.sampleCount).toUInt32 - 1)
    (countSample found.sampleCount).toUInt32 found.baselineUs rttUs

/-- Enough samples have been seen with the next one. -/
def LearningEnds (cfg : TapioConfig) (found : RttBaseline) : Prop :=
  learningSamples cfg > 0 ∧ (countSample found.sampleCount).toUInt32 ≥ learningSamples cfg

/-- The sample makes the entry start anew. -/
def Resets (sample : RttSample) (found : RttBaseline) : Prop :=
  found.state = rttStateLearning ∧ LearningEnds sample.cfg found ∧
    learnedAverage found sample.rttUs > 100000

instance (cfg : TapioConfig) (found : RttBaseline) : Decidable (LearningEnds cfg found) :=
  inferInstanceAs (Decidable (_ ∧ _))

instance (sample : RttSample) (found : RttBaseline) : Decidable (Resets sample found) :=
  inferInstanceAs (Decidable (_ ∧ _ ∧ _))

/-- The samples since the insertion or the last reset of the entry, after one more. -/
def RttSample.since (sample : RttSample) (entry : Option RttBaseline) (samples : List UInt32) :
    List UInt32 :=
  match entry with
  | none => [sample.rttUs]
  | some found => if Resets sample found then [] else samples ++ [sample.rttUs]

structure RttRun where
  maps : NetworkMaps
  /-- The samples of each connection since the insertion or the last reset of its entry. -/
  samples : ConnKey → List UInt32

def rttStep (s : RttRun) (call : SockCall) : RttRun where
  maps := (call.run s.maps).1
  samples :=
    match call.sample with
    | none => s.samples
    | some sample =>
        Function.update s.samples sample.key
          (sample.since (s.maps.baselineRtt sample.key) (s.samples sample.key))

def rttMachine : Machine RttRun SockCall where
  init := ⟨NetworkMaps.empty, fun _ => []⟩
  step s call := some (rttStep s call)

/-- Every entry, with the samples of its connection, is in the relation. -/
def Entries (P : RttBaseline → List UInt32 → Prop) (s : RttRun) : Prop :=
  ∀ key entry, s.maps.baselineRtt key = some entry → P entry (s.samples key)

section Step

variable {s : RttRun} {call : SockCall} {sample : RttSample}

theorem rttStep_of_none (hcall : call.sample = none) :
    (rttStep s call).maps.baselineRtt = s.maps.baselineRtt ∧
      (rttStep s call).samples = s.samples := by
  simp only [rttStep, (call.run_eq s.maps).1, SockCall.tracking, hcall]
  exact ⟨trivial, trivial⟩

theorem rttStep_of_some (hcall : call.sample = some sample) :
    (rttStep s call).maps.baselineRtt =
        Function.update s.maps.baselineRtt sample.key
          (some (sample.entry call.inv.ktimeNs (s.maps.baselineRtt sample.key))) ∧
      (rttStep s call).samples =
        Function.update s.samples sample.key
          (sample.since (s.maps.baselineRtt sample.key) (s.samples sample.key)) := by
  simp only [rttStep, (call.run_eq s.maps).1, SockCall.tracking, hcall,
    RttSample.track_baselineRtt]
  exact ⟨rfl, trivial⟩

end Step

theorem entries_init (P : RttBaseline → List UInt32 → Prop) : Entries P rttMachine.init :=
  fun _ _ => nofun

/-- The entry has not been updated for an hour. -/
def Stale (nowNs : UInt64) (found : RttBaseline) : Prop :=
  nowNs - found.lastUpdateNs > staleThresholdNs

instance (nowNs : UInt64) (found : RttBaseline) : Decidable (Stale nowNs found) :=
  inferInstanceAs (Decidable (_ > _))

/-- The average of a stale entry with one more sample. -/
def refreshedAverage (found : RttBaseline) (rttUs : UInt32) : UInt32 :=
  wordAverage 9 10 found.baselineUs rttUs

/-- What a sample does to an entry and to the samples that are kept beside it. -/
inductive SampleEffect (sample : RttSample) (nowNs : UInt64) (samples : List UInt32) :
    Option RttBaseline → RttBaseline → List UInt32 → Prop
  | inserted :
      SampleEffect sample nowNs samples none (newBaseline sample.rttUs nowNs) [sample.rttUs]
  | learned {found : RttBaseline} (hlearning : found.state = rttStateLearning)
      (hends : ¬ LearningEnds sample.cfg found) :
      SampleEffect sample nowNs samples (some found)
        { found with
          lastActivityNs := nowNs
          sampleCount := countSample found.sampleCount
          baselineUs := learnedAverage found sample.rttUs }
        (samples ++ [sample.rttUs])
  | promoted {found : RttBaseline} (hlearning : found.state = rttStateLearning)
      (hends : LearningEnds sample.cfg found)
      (hlow : ¬ learnedAverage found sample.rttUs > 100000) :
      SampleEffect sample nowNs samples (some found)
        { found with
          lastActivityNs := nowNs
          sampleCount := countSample found.sampleCount
          baselineUs := learnedAverage found sample.rttUs
          state := rttStateStable }
        (samples ++ [sample.rttUs])
  | reset {found : RttBaseline} (hresets : Resets sample found) :
      SampleEffect sample nowNs samples (some found)
        { found with
          lastActivityNs := nowNs
          sampleCount := 0
          baselineUs := 0
          state := rttStateLearning }
        []
  | refreshed {found : RttBaseline} (hstable : found.state = rttStateStable)
      (hstale : Stale nowNs found) :
      SampleEffect sample nowNs samples (some found)
        { found with
          lastActivityNs := nowNs
          baselineUs := refreshedAverage found sample.rttUs
          lastUpdateNs := nowNs }
        (samples ++ [sample.rttUs])
  | kept {found : RttBaseline} (hlearning : found.state ≠ rttStateLearning)
      (hfresh : found.state = rttStateStable → ¬ Stale nowNs found) :
      SampleEffect sample nowNs samples (some found) { found with lastActivityNs := nowNs }
        (samples ++ [sample.rttUs])

theorem RttSample.entry_learning {found : RttBaseline} (hlearning : found.state = rttStateLearning)
    (sample : RttSample) (nowNs : UInt64) :
    sample.entry nowNs (some found) =
      if LearningEnds sample.cfg found then
        if learnedAverage found sample.rttUs > 100000 then
          { found with
            lastActivityNs := nowNs
            sampleCount := 0
            baselineUs := 0
            state := rttStateLearning }
        else
          { found with
            lastActivityNs := nowNs
            sampleCount := countSample found.sampleCount
            baselineUs := learnedAverage found sample.rttUs
            state := rttStateStable }
      else
        { found with
          lastActivityNs := nowNs
          sampleCount := countSample found.sampleCount
          baselineUs := learnedAverage found sample.rttUs } := by
  rw [RttSample.entry, if_pos hlearning]
  rfl

theorem RttSample.entry_stable {found : RttBaseline} (hstable : found.state = rttStateStable)
    (sample : RttSample) (nowNs : UInt64) :
    sample.entry nowNs (some found) =
      if Stale nowNs found then
        { found with
          lastActivityNs := nowNs
          baselineUs := refreshedAverage found sample.rttUs
          lastUpdateNs := nowNs }
      else { found with lastActivityNs := nowNs } := by
  have hlearning : found.state ≠ rttStateLearning := by
    rw [hstable]
    decide
  rw [RttSample.entry, if_neg hlearning, if_pos hstable]
  rfl

theorem sampleEffect (sample : RttSample) (nowNs : UInt64) (samples : List UInt32)
    (entry : Option RttBaseline) :
    SampleEffect sample nowNs samples entry (sample.entry nowNs entry)
      (sample.since entry samples) := by
  cases entry with
  | none => exact .inserted
  | some found =>
      by_cases hlearning : found.state = rttStateLearning
      · rw [RttSample.entry_learning hlearning, RttSample.since]
        by_cases hends : LearningEnds sample.cfg found
        · by_cases hhigh : learnedAverage found sample.rttUs > 100000
          · have hresets : Resets sample found := ⟨hlearning, hends, hhigh⟩
            rw [if_pos hends, if_pos hhigh, if_pos hresets]
            exact .reset hresets
          · rw [if_pos hends, if_neg hhigh, if_neg fun h => hhigh h.2.2]
            exact .promoted hlearning hends hhigh
        · rw [if_neg hends, if_neg fun h => hends h.2.1]
          exact .learned hlearning hends
      · have hnot : ¬ Resets sample found := fun h => hlearning h.1
        rw [RttSample.since, if_neg hnot]
        by_cases hstable : found.state = rttStateStable
        · rw [RttSample.entry_stable hstable]
          by_cases hstale : Stale nowNs found
          · rw [if_pos hstale]
            exact .refreshed hstable hstale
          · rw [if_neg hstale]
            exact .kept hlearning fun _ => hstale
        · rw [RttSample.entry, if_neg hlearning, if_neg hstable]
          exact .kept hlearning fun h => absurd h hstable

/-- **One step of an entry.** An invocation leaves an entry and its samples as they were, or
its sample has its effect on them. -/
theorem rttStep_entry (s : RttRun) (call : SockCall) (key : ConnKey) :
    ((rttStep s call).maps.baselineRtt key = s.maps.baselineRtt key ∧
        (rttStep s call).samples key = s.samples key) ∨
      ∃ sample next, call.sample = some sample ∧ sample.key = key ∧
        (rttStep s call).maps.baselineRtt key = some next ∧
        SampleEffect sample call.inv.ktimeNs (s.samples key) (s.maps.baselineRtt key) next
          ((rttStep s call).samples key) := by
  cases hcall : call.sample with
  | none =>
      obtain ⟨hentries, hsamples⟩ := rttStep_of_none (s := s) hcall
      exact .inl ⟨congrFun hentries key, congrFun hsamples key⟩
  | some sample =>
      obtain ⟨hentries, hsamples⟩ := rttStep_of_some (s := s) hcall
      rw [hentries, hsamples]
      by_cases hkey : key = sample.key
      · subst hkey
        rw [Function.update_self, Function.update_self]
        exact .inr ⟨sample, _, rfl, rfl, rfl, sampleEffect ..⟩
      · rw [Function.update_of_ne hkey, Function.update_of_ne hkey]
        exact .inl ⟨rfl, rfl⟩

/-- A relation holds of every entry after an invocation if it held before and the effect of
the sample, if there is one, has it. -/
theorem entries_step {P : RttBaseline → List UInt32 → Prop} {s : RttRun} {call : SockCall}
    (hs : Entries P s)
    (heffect : ∀ sample next after, call.sample = some sample →
      SampleEffect sample call.inv.ktimeNs (s.samples sample.key)
        (s.maps.baselineRtt sample.key) next after → P next after) :
    Entries P (rttStep s call) := by
  intro key entry hentry
  rcases rttStep_entry s call key with ⟨hsame, hsamples⟩ | ⟨sample, next, hcall, rfl, hnext, h⟩
  · rw [hsamples]
    exact hs key entry (hsame ▸ hentry)
  · obtain rfl := Option.some.inj (hnext.symm.trans hentry)
    exact heffect sample next _ hcall h

/-! ## Well-formed entries -/

/-- An entry learns, and counts its samples as far as the counter reaches, or it is stable
and has seen samples. -/
structure WellFormedEntry (entry : RttBaseline) (samples : List UInt32) : Prop where
  state : entry.state = rttStateLearning ∨ entry.state = rttStateStable
  counted : entry.state = rttStateLearning → entry.sampleCount.toNat = min samples.length 255
  sampled : entry.state = rttStateStable → samples ≠ []

theorem toNat_countSample (sampleCount : UInt8) :
    (countSample sampleCount).toNat = min (sampleCount.toNat + 1) 255 := by
  have hmax : uint8Max.toNat = 255 := rfl
  rw [countSample]
  split
  · next hless =>
      rw [UInt8.lt_iff_toNat_lt, hmax] at hless
      rw [UInt8.toNat_add, show (1 : UInt8).toNat = 1 from rfl]
      omega
  · next hfull =>
      rw [UInt8.lt_iff_toNat_lt, hmax] at hfull
      have := sampleCount.toNat_lt
      omega

theorem toNat_learningSamples (cfg : TapioConfig) :
    (learningSamples cfg).toNat = min cfg.rttMinBaselineSamples.toNat 255 := by
  have hmax : uint8Max.toUInt32.toNat = 255 := rfl
  rw [learningSamples]
  split
  · next hlarge =>
      rw [gt_iff_lt, UInt32.lt_iff_toNat_lt, hmax] at hlarge
      omega
  · next hsmall =>
      rw [gt_iff_lt, UInt32.lt_iff_toNat_lt, hmax] at hsmall
      omega

theorem stable_ne_learning : rttStateStable ≠ rttStateLearning := by decide

theorem WellFormedEntry.effect {sample : RttSample} {nowNs : UInt64} {samples after : List UInt32}
    {entry : Option RttBaseline} {next : RttBaseline}
    (h : SampleEffect sample nowNs samples entry next after)
    (hentry : ∀ found ∈ entry, WellFormedEntry found samples) : WellFormedEntry next after := by
  cases h with
  | inserted => exact ⟨.inl rfl, fun _ => rfl, nofun⟩
  | @learned found hlearning hends =>
      refine ⟨.inl hlearning, fun _ => ?_, fun _ => List.concat_ne_nil _ _⟩
      rw [toNat_countSample, (hentry found rfl).counted hlearning, List.length_append]
      simp
      omega
  | promoted hlearning hends hlow =>
      exact ⟨.inr rfl, fun h => absurd h stable_ne_learning, fun _ => List.concat_ne_nil _ _⟩
  | reset hresets => exact ⟨.inl rfl, fun _ => rfl, fun h => absurd h.symm stable_ne_learning⟩
  | refreshed hstable hstale =>
      exact ⟨.inr hstable, fun h => absurd (hstable.symm.trans h) stable_ne_learning,
        fun _ => List.concat_ne_nil _ _⟩
  | @kept found hlearning hfresh =>
      exact ⟨(hentry found rfl).state, fun h => absurd h hlearning,
        fun _ => List.concat_ne_nil _ _⟩

theorem wellFormed_step {s : RttRun} (hs : Entries WellFormedEntry s) (call : SockCall) :
    Entries WellFormedEntry (rttStep s call) :=
  entries_step hs fun sample _ _ _ h =>
    WellFormedEntry.effect h fun found hfound => hs sample.key found hfound

/-- What an invocation does to the entries is well formed. -/
structure StepWellFormed (s : RttRun) (call : SockCall) : Prop where
  /-- The new count divides the sum of a learning entry. -/
  divisor : ∀ sample found, call.sample = some sample →
    s.maps.baselineRtt sample.key = some found → countSample found.sampleCount ≠ 0
  promoted : ∀ key entry, (rttStep s call).maps.baselineRtt key = some entry →
    entry.state = rttStateStable →
      (∃ found, s.maps.baselineRtt key = some found ∧ found.state = rttStateStable) ∨
      ∃ sample, call.sample = some sample ∧ sample.key = key ∧ entry.baselineUs ≤ 100000 ∧
        0 < min sample.cfg.rttMinBaselineSamples.toNat 255 ∧
        min sample.cfg.rttMinBaselineSamples.toNat 255 ≤ entry.sampleCount.toNat
  stays : ∀ key found, s.maps.baselineRtt key = some found → found.state = rttStateStable →
    ∃ entry, (rttStep s call).maps.baselineRtt key = some entry ∧ entry.state = rttStateStable
  reported : ∀ event ∈ (call.run s.maps).2, event.eventType = netEventRttSpike →
    ∃ sample found, call.sample = some sample ∧
      s.maps.baselineRtt sample.key = some found ∧ found.state = rttStateStable

theorem countSample_ne_zero (sampleCount : UInt8) : countSample sampleCount ≠ 0 := by
  intro h
  have hcount := toNat_countSample sampleCount
  rw [h, show (0 : UInt8).toNat = 0 from rfl] at hcount
  omega

/-- An entry that a sample makes stable has a low baseline and enough samples. -/
theorem SampleEffect.promoted_of_stable {sample : RttSample} {nowNs : UInt64}
    {samples after : List UInt32} {entry : Option RttBaseline} {next : RttBaseline}
    (h : SampleEffect sample nowNs samples entry next after)
    (hstable : next.state = rttStateStable) :
    (∃ found, entry = some found ∧ found.state = rttStateStable) ∨
      next.baselineUs ≤ 100000 ∧ 0 < min sample.cfg.rttMinBaselineSamples.toNat 255 ∧
        min sample.cfg.rttMinBaselineSamples.toNat 255 ≤ next.sampleCount.toNat := by
  cases h with
  | inserted => exact absurd hstable.symm stable_ne_learning
  | learned hlearning _ => exact absurd (hstable.symm.trans hlearning) stable_ne_learning
  | promoted _ hends hlow =>
      obtain ⟨hpositive, henough⟩ := hends
      rw [← toNat_learningSamples]
      exact .inr ⟨UInt32.not_lt.mp hlow, UInt32.lt_iff_toNat_lt.mp hpositive,
        UInt32.le_iff_toNat_le.mp henough⟩
  | reset _ => exact absurd hstable.symm stable_ne_learning
  | refreshed hfound _ => exact .inl ⟨_, rfl, hfound⟩
  | kept _ _ => exact .inl ⟨_, rfl, hstable⟩

/-- A stable entry stays stable. -/
theorem SampleEffect.stays_stable {sample : RttSample} {nowNs : UInt64}
    {samples after : List UInt32} {found next : RttBaseline}
    (h : SampleEffect sample nowNs samples (some found) next after)
    (hstable : found.state = rttStateStable) : next.state = rttStateStable := by
  cases h with
  | learned hlearning _ => exact absurd (hstable.symm.trans hlearning) stable_ne_learning
  | promoted _ _ _ => rfl
  | reset hresets => exact absurd (hstable.symm.trans hresets.1) stable_ne_learning
  | refreshed _ _ => exact hstable
  | kept _ _ => exact hstable

theorem stepWellFormed (s : RttRun) (call : SockCall) : StepWellFormed s call where
  divisor := fun _ found _ _ => countSample_ne_zero found.sampleCount
  promoted := by
    intro key entry hentry hstable
    rcases rttStep_entry s call key with ⟨hsame, -⟩ | ⟨sample, next, hcall, hkey, hnext, heffect⟩
    · exact .inl ⟨entry, hsame ▸ hentry, hstable⟩
    · obtain rfl := Option.some.inj (hnext.symm.trans hentry)
      exact (heffect.promoted_of_stable hstable).imp id fun h => ⟨sample, hcall, hkey, h⟩
  stays := by
    intro key found hfound hstable
    rcases rttStep_entry s call key with ⟨hsame, -⟩ | ⟨sample, next, -, -, hnext, heffect⟩
    · exact ⟨found, hsame.trans hfound, hstable⟩
    · rw [hfound] at heffect
      exact ⟨next, hnext, heffect.stays_stable hstable⟩
  reported := by
    intro event hevent hspike
    have htracking := ((call.run_eq s.maps).2 event hspike).mp hevent
    rw [SockCall.tracking] at htracking
    cases hcall : call.sample with
    | none =>
        rw [hcall] at htracking
        cases htracking
    | some sample =>
        rw [hcall] at htracking
        obtain ⟨found, hfound, hstable⟩ := RttSample.stable_of_track htracking
        exact ⟨sample, found, rfl, hfound, hstable⟩

/-- **The states of the baselines.** In every run of the handler every entry is well formed,
and so is what each invocation does to it. -/
theorem baselines_wellFormed (calls : List SockCall) :
    rttMachine.Always (Entries WellFormedEntry) rttMachine.init calls ∧
      rttMachine.EachStep StepWellFormed rttMachine.init calls := by
  apply And.intro
  · refine Machine.always_of_preserved (fun {s call t} hs hstep => ?_) (entries_init _) calls
    cases hstep
    exact wellFormed_step hs call
  · exact Machine.eachStep_of_mem fun call _ s => stepWellFormed s call

/-! ## Averages -/

/-- The value lies between the smallest and the largest of the samples. -/
def Between (samples : List UInt32) (value : UInt32) : Prop :=
  (∃ sample ∈ samples, sample ≤ value) ∧ ∃ sample ∈ samples, value ≤ sample

instance (samples : List UInt32) (value : UInt32) : Decidable (Between samples value) :=
  inferInstanceAs (Decidable (_ ∧ _))

/-- The baseline of an entry that has seen samples since its reset is among them. -/
def InRange (entry : RttBaseline) (samples : List UInt32) : Prop :=
  samples ≠ [] → Between samples entry.baselineUs

/-- The weight of the old average in the next one. -/
def learningWeight (found : RttBaseline) : ℕ := (countSample found.sampleCount).toNat - 1

/-- The average that the sample makes of an entry is that of unbounded integers. -/
def ExactAverage (sample : RttSample) (nowNs : UInt64) (found : RttBaseline) : Prop :=
  (found.state = rttStateLearning →
    (learnedAverage found sample.rttUs).toNat =
      weightedAverage (learningWeight found) found.baselineUs.toNat sample.rttUs.toNat) ∧
  (found.state = rttStateStable → Stale nowNs found →
    (refreshedAverage found sample.rttUs).toNat =
      weightedAverage 9 found.baselineUs.toNat sample.rttUs.toNat)

/-- The weighted baseline and the sample fit into a word together. -/
def FitsWord (sample : RttSample) (nowNs : UInt64) (found : RttBaseline) : Prop :=
  (found.state = rttStateLearning →
    SumFits (learningWeight found) found.baselineUs.toNat sample.rttUs.toNat) ∧
  (found.state = rttStateStable → Stale nowNs found →
    SumFits 9 found.baselineUs.toNat sample.rttUs.toNat)

/-- The condition on the entry that an invocation finds for its sample. -/
def AtFound (P : RttSample → UInt64 → RttBaseline → Prop) (s : RttRun) (call : SockCall) : Prop :=
  ∀ sample ∈ call.sample, ∀ found ∈ s.maps.baselineRtt sample.key,
    P sample call.inv.ktimeNs found

theorem learnedAverage_eq_iff (found : RttBaseline) (rttUs : UInt32) :
    (learnedAverage found rttUs).toNat =
        weightedAverage (learningWeight found) found.baselineUs.toNat rttUs.toNat ↔
      SumFits (learningWeight found) found.baselineUs.toNat rttUs.toNat := by
  have hcount := toNat_countSample found.sampleCount
  have hweight : ((countSample found.sampleCount).toUInt32 - 1).toNat = learningWeight found := by
    rw [UInt32.toNat_sub_of_le, UInt8.toNat_toUInt32, learningWeight]
    · rfl
    · rw [UInt32.le_iff_toNat_le, UInt8.toNat_toUInt32, show (1 : UInt32).toNat = 1 from rfl]
      omega
  have htotal : (countSample found.sampleCount).toUInt32.toNat =
      ((countSample found.sampleCount).toUInt32 - 1).toNat + 1 := by
    rw [hweight, UInt8.toNat_toUInt32, learningWeight]
    omega
  rw [← hweight]
  exact toNat_wordAverage_eq_iff htotal found.baselineUs rttUs

theorem refreshedAverage_eq_iff (found : RttBaseline) (rttUs : UInt32) :
    (refreshedAverage found rttUs).toNat =
        weightedAverage 9 found.baselineUs.toNat rttUs.toNat ↔
      SumFits 9 found.baselineUs.toNat rttUs.toNat := by
  have htotal : (10 : UInt32).toNat = (9 : UInt32).toNat + 1 := rfl
  exact toNat_wordAverage_eq_iff htotal found.baselineUs rttUs

theorem exactAverage_iff (sample : RttSample) (nowNs : UInt64) (found : RttBaseline) :
    ExactAverage sample nowNs found ↔ FitsWord sample nowNs found := by
  rw [ExactAverage, FitsWord, learnedAverage_eq_iff, refreshedAverage_eq_iff]

/-- A value between the samples so far and the next sample is between all of them. -/
theorem Between.append {samples : List UInt32} {average value rttUs : UInt32} {weight : ℕ}
    (h : Between samples average)
    (hvalue : value.toNat = weightedAverage weight average.toNat rttUs.toNat) :
    Between (samples ++ [rttUs]) value := by
  have hlast : rttUs ∈ samples ++ [rttUs] := List.mem_append_right _ List.mem_cons_self
  obtain ⟨⟨low, hlow, hlowle⟩, ⟨high, hhigh, hlehigh⟩⟩ := h
  rw [UInt32.le_iff_toNat_le] at hlowle hlehigh
  apply And.intro
  · rcases Nat.le_total low.toNat rttUs.toNat with hle | hle
    · refine ⟨low, List.mem_append_left _ hlow, ?_⟩
      rw [UInt32.le_iff_toNat_le, hvalue]
      exact le_weightedAverage hlowle hle
    · refine ⟨rttUs, hlast, ?_⟩
      rw [UInt32.le_iff_toNat_le, hvalue]
      exact le_weightedAverage (hle.trans hlowle) (Nat.le_refl _)
  · rcases Nat.le_total high.toNat rttUs.toNat with hle | hle
    · refine ⟨rttUs, hlast, ?_⟩
      rw [UInt32.le_iff_toNat_le, hvalue]
      exact weightedAverage_le (hlehigh.trans hle) (Nat.le_refl _)
    · refine ⟨high, List.mem_append_left _ hhigh, ?_⟩
      rw [UInt32.le_iff_toNat_le, hvalue]
      exact weightedAverage_le hlehigh hle

theorem between_singleton (sample : UInt32) : Between [sample] sample := by
  simp [Between]

/-- What is learned from exact averages is in range, also from the first sample on. -/
theorem between_learned {found : RttBaseline} {samples : List UInt32} {rttUs : UInt32}
    (hwell : WellFormedEntry found samples) (hlearning : found.state = rttStateLearning)
    (hrange : InRange found samples)
    (hexact : (learnedAverage found rttUs).toNat =
      weightedAverage (learningWeight found) found.baselineUs.toNat rttUs.toNat) :
    Between (samples ++ [rttUs]) (learnedAverage found rttUs) := by
  cases samples with
  | nil =>
      have hcount : found.sampleCount.toNat = 0 := hwell.counted hlearning
      have hweight : learningWeight found = 0 := by
        rw [learningWeight, toNat_countSample, hcount]
        rfl
      rw [hweight, weightedAverage, Nat.mul_zero, Nat.zero_add, Nat.div_one] at hexact
      rw [UInt32.toNat_inj.mp hexact]
      exact between_singleton rttUs
  | cons first rest => exact (hrange (List.cons_ne_nil _ _)).append hexact

/-- **One step of a baseline.** Where the average is exact, the baseline stays in the range
of the samples. -/
theorem inRange_effect {sample : RttSample} {nowNs : UInt64} {samples after : List UInt32}
    {entry : Option RttBaseline} {next : RttBaseline}
    (h : SampleEffect sample nowNs samples entry next after)
    (hwell : ∀ found ∈ entry, WellFormedEntry found samples)
    (hrange : ∀ found ∈ entry, InRange found samples)
    (hexact : ∀ found ∈ entry, ExactAverage sample nowNs found) : InRange next after := by
  intro hafter
  cases h with
  | inserted => exact between_singleton sample.rttUs
  | @learned found hlearning _ =>
      exact between_learned (hwell found rfl) hlearning (hrange found rfl)
        ((hexact found rfl).1 hlearning)
  | @promoted found hlearning _ _ =>
      exact between_learned (hwell found rfl) hlearning (hrange found rfl)
        ((hexact found rfl).1 hlearning)
  | reset _ => exact absurd rfl hafter
  | @refreshed found hstable hstale =>
      exact (hrange found rfl ((hwell found rfl).sampled hstable)).append
        ((hexact found rfl).2 hstable hstale)
  | @kept found hlearning hfresh =>
      have hstable := (hwell found rfl).state.resolve_left hlearning
      obtain ⟨⟨low, hlow, hlowle⟩, ⟨high, hhigh, hlehigh⟩⟩ :=
        hrange found rfl ((hwell found rfl).sampled hstable)
      exact ⟨⟨low, List.mem_append_left _ hlow, hlowle⟩,
        ⟨high, List.mem_append_left _ hhigh, hlehigh⟩⟩

/-- **The baseline is an average** in a run exactly if no sum on the way leaves the word. -/
theorem averages_iff (calls : List SockCall) :
    (rttMachine.EachStep (AtFound ExactAverage) rttMachine.init calls ∧
        rttMachine.Always (Entries InRange) rttMachine.init calls) ↔
      rttMachine.EachStep (AtFound FitsWord) rttMachine.init calls := by
  have hfits : AtFound ExactAverage = AtFound FitsWord := by
    funext s call
    simp only [AtFound, exactAverage_iff]
  rw [hfits]
  refine ⟨And.left, fun h => ⟨h, ?_⟩⟩
  have hboth : rttMachine.Always (fun s => Entries WellFormedEntry s ∧ Entries InRange s)
      rttMachine.init calls := by
    refine Machine.always_of_eachStep (fun {s call t} hs hcond hstep => ?_)
      ⟨entries_init _, entries_init _⟩ h
    cases hstep
    refine ⟨wellFormed_step hs.1 call, entries_step hs.2 fun sample next after hsample h => ?_⟩
    exact inRange_effect h (fun found hfound => hs.1 _ found hfound)
      (fun found hfound => hs.2 _ found hfound)
      fun found hfound => (exactAverage_iff ..).mpr (hcond sample hsample found hfound)
  exact hboth.mono fun s hs => hs.2

theorem rttMachine_exec (s : RttRun) (calls : List SockCall) :
    rttMachine.exec s calls = some (calls.foldl rttStep s) := by
  induction calls generalizing s with
  | nil => rfl
  | cons call rest ih => exact ih (rttStep s call)

/-! ## A baseline that wraps -/

/-- A config that learns from as many samples as the counter counts. -/
def longLearning : TapioConfig :=
  { TapioConfig.default with
    abiVersion := tapioConfigAbiVersion
    generation := 1
    flags := tapioFNetwork
    rttMinBaselineSamples := 255 }

/-- A connection that is established with a smoothed round-trip time. -/
def establishedCall (cfg : TapioConfig) (ktimeNs : UInt64) (srttUs : UInt32) : SockCall where
  inv :=
    { configMap := some cfg
      ktimeNs := ktimeNs
      cgroupId := 1
      pidTgid := 0x100000001
      comm := List.Vector.replicate _ 0
      ringbufFree := true }
  args :=
    { sport := 43210
      dport := 443
      family := afInet
      saddr := ⟨[10, 0, 0, 1], rfl⟩
      daddr := ⟨[10, 0, 0, 2], rfl⟩
      saddrV6 := List.Vector.replicate _ 0
      daddrV6 := List.Vector.replicate _ 0
      oldstate := tcpState tcpSynSent
      newstate := tcpState tcpEstablished
      protocol := ipprotoTcp }
  srttUs := some srttUs
  stateRingbufFree := true

def establishedKey : ConnKey :=
  fillConnKeyV4 ⟨[10, 0, 0, 1], rfl⟩ ⟨[10, 0, 0, 2], rfl⟩ 43210 443

/-- Nine samples of the greatest round-trip time. -/
def longestRtts : List SockCall :=
  List.replicate 9 (establishedCall longLearning 1000000000 0xFFFFFFFF)

/-- Nine equal samples of which the average is none of them. -/
theorem not_averages_longestRtts :
    ¬ (rttMachine.EachStep (AtFound ExactAverage) rttMachine.init longestRtts ∧
      rttMachine.Always (Entries InRange) rttMachine.init longestRtts) := by
  intro ⟨_, halways⟩
  have hlast := halways.of_exec (rttMachine_exec _ _)
  have hentry : ((longestRtts.foldl rttStep rttMachine.init).maps.baselineRtt
      establishedKey).map RttBaseline.baselineUs = some 59652322 := by decide +kernel
  have hsamples : (longestRtts.foldl rttStep rttMachine.init).samples establishedKey =
      List.replicate 9 536870911 := by decide +kernel
  obtain ⟨entry, hfound, hbaseline⟩ := Option.map_eq_some_iff.mp hentry
  have hrange := hlast establishedKey entry hfound
  rw [InRange, hsamples, hbaseline] at hrange
  exact absurd (hrange nofun) (by decide)

end Tapio.Ebpf
