/-
# PMC samples in userspace

What the PMC observer makes of a sample: whether it is an anomaly under the thresholds
at hand, and the occurrence it reports. The figures of a sample are computed in floating
point, that is with every result rounded. The same figures can be taken exactly, with
nothing rounded, and judged in the same way.
-/
import Tapio.Agent.Config
import Tapio.Common.Occurrence
import Tapio.Sink.Events

namespace Tapio

open Numeric

/-! ## Samples -/

namespace PmcEvent

/-- The instructions for each cycle, with every result rounded by `round`. -/
def ipcWith (round : ℚ → ℚ) (event : PmcEvent) : ℚ :=
  if event.cycles = 0 then 0
  else round (round event.instructions.toNat / round event.cycles.toNat)

def stallPctWith (round : ℚ → ℚ) (event : PmcEvent) : ℚ :=
  if event.cycles = 0 then 0
  else round (round (round event.stallCycles.toNat / round event.cycles.toNat) * 100)

def ipc (event : PmcEvent) : ℚ := event.ipcWith F64.rounded

def stallPct (event : PmcEvent) : ℚ := event.stallPctWith F64.rounded

end PmcEvent

namespace Agent

open Sink Wire

/-- A number with a fixed number of decimals. -/
def fixed (decimals : ℕ) (x : ℚ) : String :=
  let scaled := (F64.roundEven (|x| * 10 ^ decimals)).toNat
  (if x < 0 then "-" else "") ++ toString (scaled / 10 ^ decimals) ++ "." ++
    String.ofList (Text.zeroPad decimals (scaled % 10 ^ decimals))

/-! ## Anomalies -/

inductive Outcome
  | success
  | failure
  | timeout
  | inProgress
  | unknown
  deriving DecidableEq

def nodeCpuStall : String := "kernel.node.cpu_stall"
def nodeMemoryPressure : String := "kernel.node.memory_pressure"
def nodeIpcDegradation : String := "kernel.node.ipc_degradation"

structure ClassifiedAnomaly where
  eventType : String
  severity : Severity
  outcome : Outcome
  errorCode : String
  errorMessage : String
  deriving DecidableEq

/-- What a sample is judged by. -/
structure PmcFigures where
  cpu : UInt32
  ipc : ℚ
  stallPct : ℚ
  /-- Some cycles were counted. -/
  counted : Bool

inductive PmcClass
  | stall
  | pressure
  | degradation
  deriving DecidableEq

/-- The anomaly that is reported for a class. -/
def PmcFigures.anomaly (figures : PmcFigures) : PmcClass → ClassifiedAnomaly
  | .stall => {
      eventType := nodeCpuStall
      severity := .critical
      outcome := .inProgress
      errorCode := "CPU_STALL"
      errorMessage :=
        "CPU " ++ toString figures.cpu ++ " stall " ++ fixed 1 figures.stallPct ++ "% (ipc=" ++
          fixed 2 figures.ipc ++ ")" }
  | .pressure => {
      eventType := nodeMemoryPressure
      severity := .warning
      outcome := .inProgress
      errorCode := "MEMORY_PRESSURE"
      errorMessage :=
        "CPU " ++ toString figures.cpu ++ " memory pressure stall " ++ fixed 1 figures.stallPct ++
          "% (ipc=" ++ fixed 2 figures.ipc ++ ")" }
  | .degradation => {
      eventType := nodeIpcDegradation
      severity := .warning
      outcome := .inProgress
      errorCode := "IPC_DEGRADATION"
      errorMessage :=
        "CPU " ++ toString figures.cpu ++ " low IPC " ++ fixed 2 figures.ipc ++ " (stall " ++
          fixed 1 figures.stallPct ++ "%)" }

/-- The class of the anomaly that the figures show under the thresholds. -/
def PmcFigures.pmcClass (figures : PmcFigures) (thresholds : PmcThresholds) : Option PmcClass :=
  if F64.le thresholds.stallPctCritical (.finite figures.stallPct) then some .stall
  else if F64.le thresholds.stallPctWarning (.finite figures.stallPct) then some .pressure
  else if F64.lt (.finite figures.ipc) thresholds.ipcDegradation ∧ figures.counted then
    some .degradation
  else none

/-- The body of `classify`, of the figures of a sample. -/
def PmcFigures.classify (figures : PmcFigures) (thresholds : PmcThresholds) :
    Option ClassifiedAnomaly :=
  (figures.pmcClass thresholds).map figures.anomaly

/-- The figures of a sample, with every result rounded by `round`. -/
def figuresWith (round : ℚ → ℚ) (event : PmcEvent) : PmcFigures where
  cpu := event.cpu
  ipc := event.ipcWith round
  stallPct := event.stallPctWith round
  counted := event.cycles > 0

def classify (event : PmcEvent) (thresholds : PmcThresholds) : Option ClassifiedAnomaly :=
  (figuresWith F64.rounded event).classify thresholds

/-! ## Occurrences -/

/-- The data of a PMC occurrence. -/
structure PmcData where
  cpu : UInt32
  configGeneration : UInt32
  cycles : UInt64
  instructions : UInt64
  stallCycles : UInt64
  ipc : ℚ
  stallPct : ℚ
  timestampNs : UInt64
  deriving DecidableEq

structure PmcOccurrence where
  occurrenceType : String
  severity : Severity
  outcome : Outcome
  timestamp : String
  errorCode : String
  errorMessage : String
  data : PmcData
  deriving DecidableEq

def buildOccurrence (event : PmcEvent) (anomaly : ClassifiedAnomaly) (bootOffsetNs : UInt64) :
    PmcOccurrence where
  occurrenceType := anomaly.eventType
  severity := anomaly.severity
  outcome := anomaly.outcome
  timestamp := unixNanosToRfc3339 (bootOffsetNs + event.timestamp)
  errorCode := anomaly.errorCode
  errorMessage := anomaly.errorMessage
  data := {
    cpu := event.cpu
    configGeneration := event.configGeneration
    cycles := event.cycles
    instructions := event.instructions
    stallCycles := event.stallCycles
    ipc := event.ipc
    stallPct := event.stallPct
    timestampNs := event.timestamp }

/-! ## The thresholds of a config -/

/-- The settings that the thresholds come from are the same. -/
structure SamePmcSettings (first second : CompiledNodePmc) : Prop where
  warning : first.stallWarningPermille = second.stallWarningPermille
  critical : first.stallCriticalPermille = second.stallCriticalPermille
  ipc : first.ipcDegradationMilli = second.ipcDegradationMilli

instance (first second : CompiledNodePmc) : Decidable (SamePmcSettings first second) :=
  decidable_of_iff (first.stallWarningPermille = second.stallWarningPermille ∧
      first.stallCriticalPermille = second.stallCriticalPermille ∧
      first.ipcDegradationMilli = second.ipcDegradationMilli)
    ⟨fun ⟨hwarning, hcritical, hipc⟩ => ⟨hwarning, hcritical, hipc⟩,
      fun h => ⟨h.warning, h.critical, h.ipc⟩⟩

/-- A word in tenths or thousandths is not rounded to what another one is rounded to. -/
theorem rounded_div_inj {a b : UInt32} {divisor : ℚ} (hone : 1 ≤ divisor)
    (hthousand : divisor ≤ 1000) :
    F64.rounded (a.toNat / divisor) = F64.rounded (b.toNat / divisor) ↔ a = b := by
  have hpos : 0 < divisor := one_pos.trans_le hone
  have hword : ∀ word : UInt32, |(word.toNat : ℚ) / divisor| < 2 ^ 32 := by
    intro word
    have hlt : (word.toNat : ℚ) < 2 ^ 32 := by exact_mod_cast word.toNat_lt
    rw [abs_of_nonneg (div_nonneg (Nat.cast_nonneg _) hpos.le), div_lt_iff₀ hpos]
    exact hlt.trans_le (le_mul_of_one_le_right (by norm_num) hone)
  constructor
  · intro h
    have hstep : (a.toNat : ℚ) / divisor ≠ b.toNat / divisor →
        1 / 1000 ≤ |(a.toNat : ℚ) / divisor - b.toNat / divisor| := by
      intro hne
      have hdiff : (a.toNat : ℤ) - b.toNat ≠ 0 := by
        intro heq
        have hsame : (a.toNat : ℤ) = b.toNat := sub_eq_zero.mp heq
        exact hne (by rw [show (a.toNat : ℚ) = b.toNat by exact_mod_cast hsame])
      have hone : (1 : ℚ) ≤ |(a.toNat : ℚ) - b.toNat| := by
        exact_mod_cast Int.one_le_abs hdiff
      rw [← sub_div, abs_div, abs_of_pos hpos]
      exact div_le_div₀ (abs_nonneg _) hone hpos hthousand
    have hexact := F64.rounded_injOn (hword a) (hword b) hstep h
    rwa [div_left_inj' hpos.ne', Nat.cast_inj, UInt32.toNat_inj] at hexact
  · rintro rfl
    rfl

/-- No two settings come to the same thresholds, rounded as they are. -/
theorem pmcThresholdsFromCompiled_eq_iff {first second : CompiledConfig} :
    pmcThresholdsFromCompiled first = pmcThresholdsFromCompiled second ↔
      SamePmcSettings first.nodePmc second.nodePmc := by
  rw [pmcThresholdsFromCompiled, pmcThresholdsFromCompiled, pmcThresholdsWith, pmcThresholdsWith,
    PmcThresholds.mk.injEq, F64.finite.injEq, F64.finite.injEq, F64.finite.injEq,
    rounded_div_inj (by norm_num) (by norm_num), rounded_div_inj (by norm_num) (by norm_num),
    rounded_div_inj (by norm_num) (by norm_num)]
  exact ⟨fun ⟨hwarning, hcritical, hipc⟩ => ⟨hwarning, hcritical, hipc⟩,
    fun h => ⟨h.warning, h.critical, h.ipc⟩⟩

end Agent

end Tapio
