/-
# The ticks of an observer

Every observer runs the same loop. On each tick it may read the kernel's counters, and it
then drains its ring buffer, up to a number of records. A record that is too short is
malformed; any other is an event, which may be an anomaly that goes to the sink. What the
sink returns is logged only.

Records arrive between the ticks. Whatever arrives, whatever the counters read and whatever
the sink says, the counts are exact: the records that were taken are those that arrived
first, each was counted once, and the totals that are exported are the largest readings.
-/
import Tapio.Agent.Evidence
import Tapio.Common.Records
import Tapio.Transition.Machine

namespace Tapio.Agent

open Layout Sink Transition

/-! ## Observers -/

/-- A record of a ring buffer. -/
abbrev Record := List UInt8

/-- What an observer takes from elsewhere while it handles a record. -/
structure Surroundings where
  /-- The id of an occurrence, if one is built. -/
  id : String
  nowNanos : UInt64
  /-- What the lookup of a memory limit comes to. -/
  enriched : Option UInt64
  /-- The thresholds that the PMC observer has received last. -/
  thresholds : PmcThresholds
  /-- What `sink.send` returns. -/
  sendResult : Except SinkError Unit

/-- An anomaly with its type and the occurrence that is built of it. -/
structure Anomaly where
  anomalyType : String
  occurrence : Common.Occurrence

/-- What the loops of the observers differ in. -/
structure ObserverLoop where
  observer : String
  /-- The size of an event. -/
  expectedLen : ℕ
  /-- What is made of the event in a record. -/
  anomaly : Surroundings → Record → Option Anomaly
  /-- The label of the counter that only the storage observer reads. -/
  ambiguousReason : Option String

def networkLoop (e : Endian) : ObserverLoop where
  observer := "network"
  expectedLen := Rust.networkEvent.sizeOf
  anomaly around data :=
    let event := NetworkEvent.readUnaligned e data
    (Network.classify event).map fun anomaly =>
      ⟨anomaly.eventType, Network.buildOccurrence around.id around.nowNanos event anomaly⟩
  ambiguousReason := none

def containerLoop (e : Endian) (bootOffsetNs : UInt64) : ObserverLoop where
  observer := "container"
  expectedLen := Rust.containerEvent.sizeOf
  anomaly around data :=
    let event := ContainerEvent.readUnaligned e data
    (Container.classify event).map fun anomaly =>
      ⟨anomaly.eventType,
        Container.buildOccurrence around.id event anomaly bootOffsetNs around.enriched⟩
  ambiguousReason := none

def storageLoop (e : Endian) (f64Bits : ℚ → UInt64) (bootOffsetNs : UInt64) : ObserverLoop where
  observer := "storage"
  expectedLen := Rust.storageEvent.sizeOf
  anomaly around data :=
    let event := StorageEvent.readUnaligned e data
    (Storage.classify event).map fun anomaly =>
      ⟨anomaly.eventType, Storage.buildOccurrence f64Bits around.id event anomaly bootOffsetNs⟩
  ambiguousReason := some "ambiguous_inflight_io"

def nodePmcLoop (e : Endian) (f64Bits : ℚ → UInt64) (bootOffsetNs : UInt64) : ObserverLoop where
  observer := "node_pmc"
  expectedLen := Rust.pmcEvent.sizeOf
  anomaly around data :=
    let event := PmcEvent.readUnaligned e data
    (classify event around.thresholds).map fun anomaly =>
      ⟨anomaly.eventType,
        NodePmc.document f64Bits around.id (buildOccurrence event anomaly bootOffsetNs)⟩
  ambiguousReason := none

/-! ## The loop -/

/-- Counters by the values of their labels, without a bound: the words of the source last for
2 ^ 64 records. -/
abbrev CounterVec := List String → ℕ

def CounterVec.incBy (counters : CounterVec) (labels : List String) (value : ℕ) : CounterVec :=
  Function.update counters labels (counters labels + value)

/-- The metrics that the loops increment. -/
structure TapioMetrics where
  eventsTotal : CounterVec
  anomaliesTotal : CounterVec
  lostEventsTotal : CounterVec
  malformedEventsTotal : CounterVec
  correlationDropsTotal : CounterVec
  drainCapTotal : CounterVec

def TapioMetrics.new : TapioMetrics :=
  ⟨fun _ => 0, fun _ => 0, fun _ => 0, fun _ => 0, fun _ => 0, fun _ => 0⟩

def maxDrainPerTick : ℕ := 2048

def lostEventsCheckInterval : ℕ := 1000

/-- A record that was taken, with what was around. -/
abbrev Taken := Record × Surroundings

/-- The state of a loop. The last fields record the past: what has arrived and what was
taken of it, how much in each tick, and the values that the counters were read as. -/
structure LoopState where
  ring : List Record
  tickCount : ℕ
  prevLost : UInt64
  prevAmbiguous : UInt64
  metrics : TapioMetrics
  /-- The calls of `sink.send`, with their results. -/
  sent : List (Common.Occurrence × Except SinkError Unit)
  arrived : List Record
  taken : List Taken
  drained : List ℕ
  lostReads : List UInt64
  ambiguousReads : List UInt64

def LoopState.new (metrics : TapioMetrics) : LoopState where
  ring := []
  tickCount := 0
  prevLost := 0
  prevAmbiguous := 0
  metrics := metrics
  sent := []
  arrived := []
  taken := []
  drained := []
  lostReads := []
  ambiguousReads := []

namespace ObserverLoop

variable (p : ObserverLoop)

def tooShort (data : Record) : Bool := data.length < p.expectedLen

/-- The anomaly in a record that is long enough. -/
def anomalyOf (taken : Taken) : Option Anomaly :=
  if p.tooShort taken.1 then none else p.anomaly taken.2 taken.1

/-- Count an anomaly and send it. -/
def report (s : LoopState) (around : Surroundings) (anomaly : Anomaly) : LoopState :=
  { s with
    metrics.anomaliesTotal :=
      s.metrics.anomaliesTotal.incBy [p.observer, anomaly.anomalyType] 1
    sent := s.sent ++ [(anomaly.occurrence, around.sendResult)] }

/-- Handle a record that was taken from the ring buffer. -/
def handleRecord (s : LoopState) (data : Record) (around : Surroundings) : LoopState :=
  let s := { s with taken := s.taken ++ [(data, around)] }
  if p.tooShort data then
    { s with metrics.malformedEventsTotal := s.metrics.malformedEventsTotal.incBy [p.observer] 1 }
  else
    let s := { s with metrics.eventsTotal := s.metrics.eventsTotal.incBy [p.observer] 1 }
    match p.anomaly around data with
    | none => s
    | some anomaly => p.report s around anomaly

/-- Take records until the ring buffer is empty or enough have been taken. -/
def drain (around : ℕ → Surroundings) : LoopState → ℕ → List Record → LoopState × ℕ
  | s, count, [] => ({ s with ring := [] }, count)
  | s, count, data :: rest =>
      let s := p.handleRecord s data (around count)
      if maxDrainPerTick ≤ count + 1 then ({ s with ring := rest }, count + 1)
      else drain around s (count + 1) rest

/-- Export by how much the counter of lost events has grown. -/
def checkLost (s : LoopState) (lost : UInt64) : LoopState :=
  let s := { s with lostReads := s.lostReads ++ [lost] }
  if lost > s.prevLost then
    { s with
      metrics.lostEventsTotal :=
        s.metrics.lostEventsTotal.incBy [p.observer] (lost - s.prevLost).toNat
      prevLost := lost }
  else s

/-- The same for the correlations that the storage probe dropped. -/
def checkAmbiguous (reason : String) (s : LoopState) (ambiguous : UInt64) : LoopState :=
  let s := { s with ambiguousReads := s.ambiguousReads ++ [ambiguous] }
  if ambiguous > s.prevAmbiguous then
    { s with
      metrics.correlationDropsTotal :=
        s.metrics.correlationDropsTotal.incBy [p.observer, reason]
          (ambiguous - s.prevAmbiguous).toNat
      prevAmbiguous := ambiguous }
  else s

/-- What `read_percpu_sum` returns for the two counters; zero if the read fails. -/
structure Readings where
  lost : UInt64
  ambiguous : UInt64

def checkCounters (s : LoopState) (readings : Readings) : LoopState :=
  let s := p.checkLost s readings.lost
  match p.ambiguousReason with
  | none => s
  | some reason => p.checkAmbiguous reason s readings.ambiguous

/-- Count a tick that took as many records as a tick may. -/
def countCap (s : LoopState) (count : ℕ) : LoopState :=
  let s := { s with drained := s.drained ++ [count] }
  if maxDrainPerTick ≤ count then
    { s with metrics.drainCapTotal := s.metrics.drainCapTotal.incBy [p.observer] 1 }
  else s

/-- One tick. The counters are read on some of them, if the metrics map was found. -/
def tick (s : LoopState) (readings : Option Readings) (around : ℕ → Surroundings) : LoopState :=
  let s := { s with tickCount := s.tickCount + 1 }
  let s :=
    match readings with
    | some readings =>
        if s.tickCount % lostEventsCheckInterval = 0 then p.checkCounters s readings else s
    | none => s
  let result := p.drain around s 0 s.ring
  p.countCap result.1 result.2

end ObserverLoop

inductive LoopStep
  /-- The probe submits records. -/
  | arrive (records : List Record)
  | tick (readings : Option ObserverLoop.Readings) (around : ℕ → Surroundings)

def loopStep (p : ObserverLoop) (s : LoopState) : LoopStep → LoopState
  | .arrive records => { s with ring := s.ring ++ records, arrived := s.arrived ++ records }
  | .tick readings around => p.tick s readings around

def loopMachine (p : ObserverLoop) : Machine LoopState LoopStep where
  init := LoopState.new TapioMetrics.new
  step s step := some (loopStep p s step)

/-! ## Exact accounting -/

/-- The largest of some readings, zero if there are none. -/
def largest (reads : List UInt64) : UInt64 := reads.foldl max 0

section Accounts

variable (p : ObserverLoop)

/-- The anomalies in the records that were taken, in order. -/
def ObserverLoop.anomalies (taken : List Taken) : List Anomaly := taken.filterMap p.anomalyOf

/-- Each record that was taken was counted once, and each anomaly was counted and sent once. -/
structure Counted (s : LoopState) : Prop where
  malformed : s.metrics.malformedEventsTotal [p.observer] =
    s.taken.countP fun taken => p.tooShort taken.1
  events : s.metrics.eventsTotal [p.observer] =
    s.taken.countP fun taken => !p.tooShort taken.1
  anomalies : ∀ anomalyType, s.metrics.anomaliesTotal [p.observer, anomalyType] =
    (p.anomalies s.taken).countP fun anomaly => anomaly.anomalyType = anomalyType
  sent : s.sent.map Prod.fst = (p.anomalies s.taken).map Anomaly.occurrence

/-- What was taken is what arrived first, and the rest is in the ring buffer. -/
def InOrder (s : LoopState) : Prop := s.arrived = s.taken.map Prod.fst ++ s.ring

/-- No tick took more records than a tick may, and those that took as many were counted. -/
structure Capped (s : LoopState) : Prop where
  total : s.drained.sum = s.taken.length
  bounded : ∀ count ∈ s.drained, count ≤ maxDrainPerTick
  counted : s.metrics.drainCapTotal [p.observer] = s.drained.countP (· = maxDrainPerTick)

/-- What is exported of the kernel's counters is the largest value that was read. -/
structure Exported (s : LoopState) : Prop where
  lost : s.metrics.lostEventsTotal [p.observer] = (largest s.lostReads).toNat
  ambiguous : ∀ reason ∈ p.ambiguousReason,
    s.metrics.correlationDropsTotal [p.observer, reason] = (largest s.ambiguousReads).toNat

structure Accounted (s : LoopState) : Prop where
  counted : Counted p s
  order : InOrder s
  capped : Capped p s
  exported : Exported p s

@[simp]
theorem CounterVec.incBy_self (counters : CounterVec) (labels : List String) (value : ℕ) :
    counters.incBy labels value labels = counters labels + value :=
  Function.update_self ..

theorem CounterVec.incBy_of_ne (counters : CounterVec) {labels labels' : List String}
    (h : labels' ≠ labels) (value : ℕ) : counters.incBy labels value labels' = counters labels' :=
  Function.update_of_ne h ..

/-! ### A record -/

variable {p} {s : LoopState}

theorem ObserverLoop.anomalies_concat (taken : List Taken) (last : Taken) :
    p.anomalies (taken ++ [last]) = p.anomalies taken ++ (p.anomalyOf last).toList := by
  rw [anomalies, anomalies, List.filterMap_append]
  cases h : p.anomalyOf last <;> simp [h]

/-- An anomaly that is reported is the next one. -/
theorem Counted.report (h : Counted p s) {last : Taken} (hlong : p.tooShort last.1 = false)
    {anomaly : Anomaly} (hanomaly : p.anomaly last.2 last.1 = some anomaly) :
    Counted p (p.report
      { s with
        taken := s.taken ++ [last]
        metrics.eventsTotal := s.metrics.eventsTotal.incBy [p.observer] 1 } last.2 anomaly) where
  malformed := by
    simp [ObserverLoop.report, h.malformed, hlong]
  events := by
    simp [ObserverLoop.report, h.events, hlong]
  anomalies := by
    intro anomalyType
    have hnext : p.anomalyOf last = some anomaly := by
      rw [ObserverLoop.anomalyOf, hlong, if_neg Bool.false_ne_true, hanomaly]
    simp only [ObserverLoop.report]
    rw [ObserverLoop.anomalies_concat, hnext, List.countP_append, ← h.anomalies]
    by_cases htype : anomaly.anomalyType = anomalyType
    · subst htype
      simp
    · rw [CounterVec.incBy_of_ne _ (by simpa using Ne.symm htype)]
      simp [htype]
  sent := by
    have hnext : p.anomalyOf last = some anomaly := by
      rw [ObserverLoop.anomalyOf, hlong, if_neg Bool.false_ne_true, hanomaly]
    simp [ObserverLoop.report, ObserverLoop.anomalies_concat, hnext, h.sent]

/-- A record that is no anomaly is counted as malformed or as an event. -/
theorem Counted.counted (h : Counted p s) {last : Taken} (hnone : p.anomalyOf last = none)
    {metrics : TapioMetrics}
    (hmalformed : metrics.malformedEventsTotal [p.observer] =
      s.metrics.malformedEventsTotal [p.observer] + if p.tooShort last.1 then 1 else 0)
    (hevents : metrics.eventsTotal [p.observer] =
      s.metrics.eventsTotal [p.observer] + if p.tooShort last.1 then 0 else 1)
    (hanomalies : metrics.anomaliesTotal = s.metrics.anomaliesTotal) :
    Counted p { s with taken := s.taken ++ [last], metrics := metrics } where
  malformed := by
    rw [hmalformed, h.malformed, List.countP_append]
    simp [List.countP_cons]
  events := by
    rw [hevents, h.events, List.countP_append]
    cases hshort : p.tooShort last.1 <;> simp [hshort]
  anomalies := by
    intro anomalyType
    rw [hanomalies, ObserverLoop.anomalies_concat, hnone, h.anomalies]
    simp
  sent := by
    simp [ObserverLoop.anomalies_concat, hnone, h.sent]

/-- The counts do not depend on what is left in the ring buffer. -/
theorem Counted.setRing (h : Counted p s) (ring : List Record) :
    Counted p { s with ring := ring } :=
  ⟨h.malformed, h.events, h.anomalies, h.sent⟩

/-- **One record** is counted exactly. -/
theorem Counted.handleRecord (h : Counted p s) (data : Record) (around : Surroundings) :
    Counted p (p.handleRecord s data around) := by
  rw [ObserverLoop.handleRecord]
  cases hshort : p.tooShort data with
  | true =>
      have hnone : p.anomalyOf (data, around) = none := by
        rw [ObserverLoop.anomalyOf, hshort, if_pos rfl]
      exact h.counted hnone (by simp [hshort]) (by simp [hshort]) rfl
  | false =>
      cases hanomaly : p.anomaly around data with
      | none =>
          have hnone : p.anomalyOf (data, around) = none := by
            rw [ObserverLoop.anomalyOf, hshort, if_neg Bool.false_ne_true, hanomaly]
          exact h.counted hnone (by simp [hshort]) (by simp [hshort]) rfl
      | some anomaly => exact h.report hshort hanomaly

/-- What handling records leaves alone. -/
structure Elsewhere where
  arrived : List Record
  drained : List ℕ
  prevLost : UInt64
  prevAmbiguous : UInt64
  lostReads : List UInt64
  ambiguousReads : List UInt64
  lostEventsTotal : CounterVec
  correlationDropsTotal : CounterVec
  drainCapTotal : CounterVec

def LoopState.elsewhere (s : LoopState) : Elsewhere where
  arrived := s.arrived
  drained := s.drained
  prevLost := s.prevLost
  prevAmbiguous := s.prevAmbiguous
  lostReads := s.lostReads
  ambiguousReads := s.ambiguousReads
  lostEventsTotal := s.metrics.lostEventsTotal
  correlationDropsTotal := s.metrics.correlationDropsTotal
  drainCapTotal := s.metrics.drainCapTotal

theorem ObserverLoop.handleRecord_frame (s : LoopState) (data : Record) (around : Surroundings) :
    (p.handleRecord s data around).elsewhere = s.elsewhere ∧
      (p.handleRecord s data around).taken = s.taken ++ [(data, around)] := by
  rw [handleRecord]
  cases p.tooShort data with
  | true => exact ⟨rfl, rfl⟩
  | false => cases p.anomaly around data <;> exact ⟨rfl, rfl⟩

/-! ### A tick -/

/-- What a tick takes out of the ring buffer. -/
structure Drained (p : ObserverLoop) (s : LoopState) (count : ℕ) (result : LoopState × ℕ) :
    Prop where
  counted : Counted p result.1
  order : InOrder result.1
  frame : result.1.elsewhere = s.elsewhere
  length : result.1.taken.length + count = s.taken.length + result.2
  bounded : result.2 ≤ maxDrainPerTick

/-- **Draining** takes the oldest records and counts each of them. -/
theorem drained_drain (around : ℕ → Surroundings) {s : LoopState} {count : ℕ}
    {ring : List Record} (hcounted : Counted p s)
    (horder : s.arrived = s.taken.map Prod.fst ++ ring) (hcount : count < maxDrainPerTick) :
    Drained p s count (p.drain around s count ring) := by
  induction ring generalizing s count with
  | nil =>
      exact ⟨hcounted.setRing [], horder, rfl, rfl, hcount.le⟩
  | cons data rest ih =>
      have hnext := hcounted.handleRecord data (around count)
      obtain ⟨hframe, htaken⟩ := p.handleRecord_frame s data (around count)
      have horder' : (p.handleRecord s data (around count)).arrived =
          (p.handleRecord s data (around count)).taken.map Prod.fst ++ rest := by
        have harrived := congrArg Elsewhere.arrived hframe
        simp only [LoopState.elsewhere] at harrived
        rw [harrived, htaken, horder]
        simp
      rw [ObserverLoop.drain]
      by_cases hcap : maxDrainPerTick ≤ count + 1
      · rw [if_pos hcap]
        refine ⟨hnext.setRing rest, horder', hframe, ?_, hcount⟩
        simp only [htaken, List.length_append, List.length_singleton]
        omega
      · rw [if_neg hcap]
        have hrest := ih hnext horder' (Nat.lt_of_not_le hcap)
        have hlength := hrest.length
        rw [htaken, List.length_append, List.length_singleton] at hlength
        exact ⟨hrest.counted, hrest.order, hrest.frame.trans hframe, by omega, hrest.bounded⟩

/-! ### The counters of the kernel -/

/-- What was exported so far is what was read last but for smaller readings. -/
structure Tracking (p : ObserverLoop) (s : LoopState) : Prop where
  lost : s.prevLost = largest s.lostReads
  lostTotal : s.metrics.lostEventsTotal [p.observer] = s.prevLost.toNat
  ambiguous : s.prevAmbiguous = largest s.ambiguousReads
  ambiguousTotal : ∀ reason ∈ p.ambiguousReason,
    s.metrics.correlationDropsTotal [p.observer, reason] = s.prevAmbiguous.toNat

theorem largest_concat (reads : List UInt64) (last : UInt64) :
    largest (reads ++ [last]) = max (largest reads) last := by
  rw [largest, largest, List.foldl_append]
  rfl

theorem max_of_gt {previous current : UInt64} (h : current > previous) :
    max previous current = current :=
  if_pos (UInt64.le_of_lt h)

theorem max_of_not_gt {previous current : UInt64} (h : ¬ current > previous) :
    max previous current = previous := by
  have hle : current ≤ previous := UInt64.not_lt.mp h
  by_cases hge : previous ≤ current
  · rw [UInt64.le_antisymm hge hle]
    exact if_pos (UInt64.le_refl current)
  · exact if_neg hge

/-- The growth of a counter completes what was exported before. -/
theorem toNat_add_growth {previous current : UInt64} (h : current > previous) :
    previous.toNat + (current - previous).toNat = current.toNat := by
  rw [UInt64.toNat_sub_of_le _ _ (UInt64.le_of_lt h)]
  exact Nat.add_sub_cancel' (UInt64.le_iff_toNat_le.mp (UInt64.le_of_lt h))

/-- **One reading.** A larger value is exported up to it, any other leaves what was. -/
theorem Tracking.checkLost (h : Tracking p s) (lost : UInt64) :
    Tracking p (p.checkLost s lost) := by
  simp only [ObserverLoop.checkLost]
  split
  · next hgrown =>
      refine ⟨?_, ?_, h.ambiguous, h.ambiguousTotal⟩
      · rw [largest_concat, ← h.lost, max_of_gt hgrown]
      · simp only [CounterVec.incBy_self, h.lostTotal]
        exact toNat_add_growth hgrown
  · next hsmall =>
      refine ⟨?_, h.lostTotal, h.ambiguous, h.ambiguousTotal⟩
      rw [largest_concat, ← h.lost, max_of_not_gt hsmall]

theorem Tracking.checkAmbiguous (h : Tracking p s) {reason : String}
    (hreason : p.ambiguousReason = some reason) (ambiguous : UInt64) :
    Tracking p (p.checkAmbiguous reason s ambiguous) := by
  simp only [ObserverLoop.checkAmbiguous]
  split
  · next hgrown =>
      refine ⟨h.lost, h.lostTotal, ?_, ?_⟩
      · rw [largest_concat, ← h.ambiguous, max_of_gt hgrown]
      · intro other hother
        obtain rfl := Option.some.inj (hreason.symm.trans hother)
        simp only [CounterVec.incBy_self, h.ambiguousTotal reason hreason]
        exact toNat_add_growth hgrown
  · next hsmall =>
      refine ⟨h.lost, h.lostTotal, ?_, h.ambiguousTotal⟩
      rw [largest_concat, ← h.ambiguous, max_of_not_gt hsmall]

theorem Tracking.checkCounters (h : Tracking p s) (readings : ObserverLoop.Readings) :
    Tracking p (p.checkCounters s readings) := by
  simp only [ObserverLoop.checkCounters]
  cases hreason : p.ambiguousReason with
  | none => exact h.checkLost readings.lost
  | some reason => exact (h.checkLost readings.lost).checkAmbiguous hreason readings.ambiguous

/-- Handling records has nothing to do with the counters of the kernel. -/
theorem Tracking.of_elsewhere (h : Tracking p s) {t : LoopState}
    (hframe : t.elsewhere = s.elsewhere) : Tracking p t := by
  simp only [LoopState.elsewhere, Elsewhere.mk.injEq] at hframe
  obtain ⟨-, -, hlost, hambiguous, hlostReads, hambiguousReads, hlostTotal, hdrops, -⟩ := hframe
  exact ⟨by rw [hlost, hlostReads, h.lost], by rw [hlostTotal, hlost, h.lostTotal],
    by rw [hambiguous, hambiguousReads, h.ambiguous],
    fun reason hreason => by rw [hdrops, hambiguous, h.ambiguousTotal reason hreason]⟩

/-! ### Runs -/

/-- What holds after every step: the accounts, with the last readings that they rest on. -/
structure LoopInvariant (p : ObserverLoop) (s : LoopState) : Prop where
  counted : Counted p s
  order : InOrder s
  capped : Capped p s
  tracking : Tracking p s

theorem loopInvariant_new : LoopInvariant p (LoopState.new TapioMetrics.new) where
  counted := ⟨rfl, rfl, fun _ => rfl, rfl⟩
  order := rfl
  capped := ⟨rfl, List.forall_mem_nil _, rfl⟩
  tracking := ⟨rfl, rfl, rfl, fun _ _ => rfl⟩

theorem LoopInvariant.arrive (h : LoopInvariant p s) (records : List Record) :
    LoopInvariant p
      { s with ring := s.ring ++ records, arrived := s.arrived ++ records } where
  counted := ⟨h.counted.malformed, h.counted.events, h.counted.anomalies, h.counted.sent⟩
  order := by
    have horder := h.order
    rw [InOrder] at horder ⊢
    rw [horder, List.append_assoc]
  capped := ⟨h.capped.total, h.capped.bounded, h.capped.counted⟩
  tracking := ⟨h.tracking.lost, h.tracking.lostTotal, h.tracking.ambiguous,
    h.tracking.ambiguousTotal⟩

/-- What reading the counters of the kernel leaves alone. -/
structure Handling where
  ring : List Record
  arrived : List Record
  taken : List Taken
  drained : List ℕ
  sent : List (Common.Occurrence × Except SinkError Unit)
  malformedEventsTotal : CounterVec
  eventsTotal : CounterVec
  anomaliesTotal : CounterVec
  drainCapTotal : CounterVec

def LoopState.handling (s : LoopState) : Handling where
  ring := s.ring
  arrived := s.arrived
  taken := s.taken
  drained := s.drained
  sent := s.sent
  malformedEventsTotal := s.metrics.malformedEventsTotal
  eventsTotal := s.metrics.eventsTotal
  anomaliesTotal := s.metrics.anomaliesTotal
  drainCapTotal := s.metrics.drainCapTotal

theorem ObserverLoop.checkCounters_handling (p : ObserverLoop) (s : LoopState)
    (readings : Readings) : (p.checkCounters s readings).handling = s.handling := by
  have hlost : ∀ s : LoopState, (p.checkLost s readings.lost).handling = s.handling := by
    intro s
    simp only [checkLost]
    split <;> rfl
  have hambiguous : ∀ (reason : String) (s : LoopState),
      (p.checkAmbiguous reason s readings.ambiguous).handling = s.handling := by
    intro reason s
    simp only [checkAmbiguous]
    split <;> rfl
  simp only [checkCounters]
  split
  · exact hlost s
  · exact (hambiguous _ _).trans (hlost s)

theorem LoopInvariant.checkCounters (h : LoopInvariant p s)
    (readings : ObserverLoop.Readings) : LoopInvariant p (p.checkCounters s readings) := by
  have hframe := p.checkCounters_handling s readings
  simp only [LoopState.handling, Handling.mk.injEq] at hframe
  obtain ⟨hring, harrived, htaken, hdrained, hsent, hmalformed, hevents, hanomalies, hcap⟩ :=
    hframe
  refine ⟨⟨?_, ?_, ?_, ?_⟩, ?_, ⟨?_, ?_, ?_⟩, h.tracking.checkCounters readings⟩
  · rw [hmalformed, htaken, h.counted.malformed]
  · rw [hevents, htaken, h.counted.events]
  · rw [hanomalies, htaken]
    exact h.counted.anomalies
  · rw [hsent, htaken, h.counted.sent]
  · rw [InOrder, harrived, htaken, hring]
    exact h.order
  · rw [hdrained, htaken, h.capped.total]
  · rw [hdrained]
    exact h.capped.bounded
  · rw [hcap, hdrained, h.capped.counted]

/-- A tick counts what it took at its end. -/
theorem Capped.countCap (h : Capped p s) {t : LoopState} {count : ℕ}
    (hframe : t.elsewhere = s.elsewhere) (hlength : t.taken.length = s.taken.length + count)
    (hcount : count ≤ maxDrainPerTick) : Capped p (p.countCap t count) := by
  simp only [LoopState.elsewhere, Elsewhere.mk.injEq] at hframe
  obtain ⟨-, hdrained, -, -, -, -, -, -, hcap⟩ := hframe
  have htotal : (t.drained ++ [count]).sum = t.taken.length := by
    rw [List.sum_append, hdrained, h.total, hlength, List.sum_singleton]
  have hbounded : ∀ n ∈ t.drained ++ [count], n ≤ maxDrainPerTick := by
    intro n hn
    rcases List.mem_append.mp hn with hn | hn
    · exact h.bounded n (hdrained ▸ hn)
    · exact List.mem_singleton.mp hn ▸ hcount
  simp only [ObserverLoop.countCap]
  split
  · next hfull =>
      refine ⟨htotal, hbounded, ?_⟩
      simp only [CounterVec.incBy_self, hcap, h.counted, hdrained]
      simp [Nat.le_antisymm hcount hfull]
  · next hnot =>
      refine ⟨htotal, hbounded, ?_⟩
      have hne : count ≠ maxDrainPerTick := fun h => hnot h.ge
      simp only [hcap, h.counted, hdrained]
      simp [hne]

/-- **One tick** keeps the accounts. -/
theorem LoopInvariant.drain (h : LoopInvariant p s) (around : ℕ → Surroundings) :
    LoopInvariant p (p.countCap (p.drain around s 0 s.ring).1 (p.drain around s 0 s.ring).2) := by
  have hdrained : Drained p s 0 (p.drain around s 0 s.ring) :=
    drained_drain around h.counted h.order (by decide)
  generalize p.drain around s 0 s.ring = result at hdrained
  have hcapped := h.capped.countCap hdrained.frame hdrained.length hdrained.bounded
  have htracking := h.tracking.of_elsewhere hdrained.frame
  have hcounted := hdrained.counted
  refine ⟨?_, ?_, hcapped, ?_⟩
  · simp only [ObserverLoop.countCap]
    split <;> exact ⟨hcounted.malformed, hcounted.events, hcounted.anomalies, hcounted.sent⟩
  · simp only [ObserverLoop.countCap]
    split <;> exact hdrained.order
  · simp only [ObserverLoop.countCap]
    split <;>
      exact ⟨htracking.lost, htracking.lostTotal, htracking.ambiguous, htracking.ambiguousTotal⟩

theorem LoopInvariant.tick (h : LoopInvariant p s) (readings : Option ObserverLoop.Readings)
    (around : ℕ → Surroundings) : LoopInvariant p (p.tick s readings around) := by
  have hcount : LoopInvariant p { s with tickCount := s.tickCount + 1 } :=
    ⟨⟨h.counted.malformed, h.counted.events, h.counted.anomalies, h.counted.sent⟩, h.order,
      ⟨h.capped.total, h.capped.bounded, h.capped.counted⟩,
      ⟨h.tracking.lost, h.tracking.lostTotal, h.tracking.ambiguous, h.tracking.ambiguousTotal⟩⟩
  unfold ObserverLoop.tick
  cases readings with
  | none => exact hcount.drain around
  | some readings =>
      dsimp only
      split
      · exact (hcount.checkCounters readings).drain around
      · exact hcount.drain around

theorem LoopInvariant.accounted (h : LoopInvariant p s) : Accounted p s where
  counted := h.counted
  order := h.order
  capped := h.capped
  exported :=
    { lost := by rw [h.tracking.lostTotal, h.tracking.lost]
      ambiguous := fun reason hreason => by
        rw [h.tracking.ambiguousTotal reason hreason, h.tracking.ambiguous] }

/-- Whatever an observer makes of its events, its accounts are exact in every run. -/
theorem accounted_always (p : ObserverLoop) (steps : List LoopStep) :
    (loopMachine p).Always (Accounted p) (loopMachine p).init steps := by
  refine Machine.Always.mono (fun s => LoopInvariant.accounted) ?_
  refine Machine.always_of_preserved (fun {s step t} hs hstep => ?_) loopInvariant_new steps
  cases hstep
  cases step with
  | arrive records => exact hs.arrive records
  | tick readings around => exact hs.tick readings around

end Accounts

/-- In every run of an observer its accounts are exact after every step. -/
def RunsAccounted (p : ObserverLoop) : Prop :=
  ∀ steps, (loopMachine p).Always (Accounted p) (loopMachine p).init steps

/-- **The accounts of all observers** are exact in every run. -/
theorem observers_accounted (e : Endian) (f64Bits : ℚ → UInt64) (bootOffsetNs : UInt64) :
    RunsAccounted (networkLoop e) ∧ RunsAccounted (containerLoop e bootOffsetNs) ∧
      RunsAccounted (storageLoop e f64Bits bootOffsetNs) ∧
      RunsAccounted (nodePmcLoop e f64Bits bootOffsetNs) :=
  ⟨accounted_always _, accounted_always _, accounted_always _, accounted_always _⟩

end Tapio.Agent
