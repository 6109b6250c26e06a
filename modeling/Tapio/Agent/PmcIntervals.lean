/-
# PMC samples and sampling intervals

The counters that the PMC probe reads count on from sample to sample, and the classifier
takes each sample as it is. So an anomaly is about everything since the counters were
opened and not about the time since the last sample. The anomaly that the interval calls for
is taken exactly, of the differences of two samples, while the classifier computes in floating
point. The two agree on a sample exactly when, for each threshold that decides about the
interval, neither what had accumulated before nor what rounding adds carries the total to
the other side, and the figures in the message come out the same.
-/
import Tapio.Agent.NodePmc
import Tapio.Ebpf.NodePmc
import Mathlib.Data.List.Chain
import Mathlib.Tactic.FieldSimp
import Mathlib.Tactic.Linarith

namespace Tapio.Agent

open Ebpf Numeric

/-! ## What the counters did between two samples -/

/-- What the counters of a CPU counted over some time. A stall counter that cannot be read
counts as zero, so a difference may be negative. -/
structure PmcCounts where
  cpu : UInt32
  cycles : ℤ
  instructions : ℤ
  stallCycles : ℤ

/-- Everything since the counters were opened. -/
def total (sample : PmcEvent) : PmcCounts where
  cpu := sample.cpu
  cycles := sample.cycles.toNat
  instructions := sample.instructions.toNat
  stallCycles := sample.stallCycles.toNat

/-- The differences of two samples of a CPU. -/
def interval (previous sample : PmcEvent) : PmcCounts where
  cpu := sample.cpu
  cycles := (total sample).cycles - (total previous).cycles
  instructions := (total sample).instructions - (total previous).instructions
  stallCycles := (total sample).stallCycles - (total previous).stallCycles

/-- The figures of what was counted, as the rational numbers they are. -/
def PmcCounts.figures (counts : PmcCounts) : PmcFigures where
  cpu := counts.cpu
  ipc := if counts.cycles = 0 then 0 else counts.instructions / counts.cycles
  stallPct := if counts.cycles = 0 then 0 else counts.stallCycles / counts.cycles * 100
  counted := counts.cycles > 0

/-- The anomaly of a sample, or that there is none, is that of the interval before it. -/
def JudgedByInterval (thresholds : PmcThresholds) (previous sample : PmcEvent) : Prop :=
  classify sample thresholds = (interval previous sample).figures.classify thresholds

/-! ## Which anomaly the figures show -/

def IsStalled (figures : PmcFigures) (percentage : F64) : Prop :=
  F64.le percentage (.finite figures.stallPct)

def IsDegraded (figures : PmcFigures) (ipc : F64) : Prop :=
  F64.lt (.finite figures.ipc) ipc ∧ figures.counted

instance (figures : PmcFigures) (percentage : F64) : Decidable (IsStalled figures percentage) :=
  inferInstanceAs (Decidable (_ = true))

instance (figures : PmcFigures) (ipc : F64) : Decidable (IsDegraded figures ipc) :=
  inferInstanceAs (Decidable (_ ∧ _))

theorem PmcFigures.pmcClass_eq (figures : PmcFigures) (thresholds : PmcThresholds) :
    figures.pmcClass thresholds =
      if IsStalled figures thresholds.stallPctCritical then some .stall
      else if IsStalled figures thresholds.stallPctWarning then some .pressure
      else if IsDegraded figures thresholds.ipcDegradation then some .degradation
      else none :=
  rfl

/-- The figures of a message: the percentage with one decimal and the IPC with two. -/
def SameFigures (first second : PmcFigures) : Prop :=
  fixed 1 first.stallPct = fixed 1 second.stallPct ∧ fixed 2 first.ipc = fixed 2 second.ipc

/-- Two samples on the same side of the thresholds, as far as they decide about the
second. -/
structure SameSides (thresholds : PmcThresholds) (first second : PmcFigures) : Prop where
  critical : IsStalled first thresholds.stallPctCritical ↔
    IsStalled second thresholds.stallPctCritical
  warning : ¬ IsStalled second thresholds.stallPctCritical →
    (IsStalled first thresholds.stallPctWarning ↔ IsStalled second thresholds.stallPctWarning)
  degraded : ¬ IsStalled second thresholds.stallPctCritical →
    ¬ IsStalled second thresholds.stallPctWarning →
      (IsDegraded first thresholds.ipcDegradation ↔ IsDegraded second thresholds.ipcDegradation)

/-- Texts that are cut at a character that does not occur before. -/
theorem append_cons_inj {c : Char} {left left' right right' : List Char} (hleft : c ∉ left)
    (hleft' : c ∉ left') (h : left ++ c :: right = left' ++ c :: right') :
    left = left' ∧ right = right' := by
  have hcut := congrArg (fun text => Text.splitOnce (String.ofList text) c) h
  rw [Text.splitOnce_append hleft, Text.splitOnce_append hleft', Option.some_inj,
    Prod.mk.injEq, String.ofList_inj, String.ofList_inj] at hcut
  exact hcut

/-- A character that no figure contains. -/
structure Separates (c : Char) : Prop where
  digit : c.isDigit = false
  point : c ≠ '.'
  minus : c ≠ '-'

/-- A figure consists of a sign, digits and a point. -/
theorem Separates.not_mem_fixed {c : Char} (hc : Separates c) (decimals : ℕ) (x : ℚ) :
    c ∉ (fixed decimals x).toList := by
  have hnat : ∀ n : ℕ, c ∉ (toString n).toList := by
    intro n hmem
    rw [Nat.toString_eq_repr, Nat.repr, String.toList_ofList] at hmem
    have hdigit := hc.digit
    rw [Text.isDigit_toDigits hmem] at hdigit
    cases hdigit
  have hsign : c ∉ (if x < 0 then "-" else "").toList := by
    split_ifs
    · simpa using hc.minus
    · simp
  simp only [fixed, String.toList_append, String.toList_ofList, List.mem_append, not_or]
  exact ⟨⟨⟨hsign, hnat _⟩, by simpa using hc.point⟩, Text.not_mem_zeroPad hc.digit _ _⟩

/-- Two messages with the same words are the same when their figures are. -/
theorem message_eq_iff {start middle stop : String} {c : Char} {rest : List Char}
    (hmiddle : middle.toList = c :: rest) (hc : Separates c) (d d' : ℕ) (x x' y y' : ℚ) :
    start ++ fixed d x ++ middle ++ fixed d' y ++ stop =
        start ++ fixed d x' ++ middle ++ fixed d' y' ++ stop ↔
      fixed d x = fixed d x' ∧ fixed d' y = fixed d' y' := by
  constructor
  · intro h
    have htext := congrArg String.toList h
    simp only [String.toList_append, hmiddle, List.append_assoc, List.cons_append] at htext
    obtain ⟨hfirst, htext⟩ := append_cons_inj (hc.not_mem_fixed d x) (hc.not_mem_fixed d x')
      (List.append_cancel_left htext)
    have hsecond := List.append_cancel_right (List.append_cancel_left htext)
    exact ⟨String.toList_inj.mp hfirst, String.toList_inj.mp hsecond⟩
  · rintro ⟨hfirst, hsecond⟩
    rw [hfirst, hsecond]

theorem anomaly_eq_iff {first second : PmcFigures} (hcpu : first.cpu = second.cpu)
    (c d : PmcClass) :
    first.anomaly c = second.anomaly d ↔ c = d ∧ SameFigures first second := by
  have hstall : "% (ipc=".toList = '%' :: " (ipc=".toList := by simp
  have hipc : " (stall ".toList = ' ' :: "(stall ".toList := by simp
  have hpercent : Separates '%' := ⟨by decide, by decide, by decide⟩
  have hblank : Separates ' ' := ⟨by decide, by decide, by decide⟩
  have hfields : ∀ (e e' : PmcFigures) (c : PmcClass), e.anomaly c = e'.anomaly c ↔
      (e.anomaly c).errorMessage = (e'.anomaly c).errorMessage := by
    intro e e' c
    cases c <;> simp [PmcFigures.anomaly]
  by_cases hclass : c = d
  · subst hclass
    rw [and_iff_right rfl, hfields]
    cases c with
    | stall =>
        simp only [PmcFigures.anomaly, hcpu]
        exact message_eq_iff hstall hpercent 1 2 _ _ _ _
    | pressure =>
        simp only [PmcFigures.anomaly, hcpu]
        exact message_eq_iff hstall hpercent 1 2 _ _ _ _
    | degradation =>
        simp only [PmcFigures.anomaly, hcpu]
        exact (message_eq_iff hipc hblank 2 1 _ _ _ _).trans and_comm
  · refine iff_of_false (fun h => ?_) fun h => hclass h.1
    have htypes : nodeCpuStall ≠ nodeMemoryPressure ∧ nodeCpuStall ≠ nodeIpcDegradation ∧
        nodeMemoryPressure ≠ nodeIpcDegradation := by decide
    have htype := congrArg ClassifiedAnomaly.eventType h
    cases c <;> cases d <;> simp_all [PmcFigures.anomaly]

theorem pmcClass_eq_iff (thresholds : PmcThresholds) (first second : PmcFigures) :
    first.pmcClass thresholds = second.pmcClass thresholds ↔
      SameSides thresholds first second := by
  rw [PmcFigures.pmcClass_eq, PmcFigures.pmcClass_eq]
  constructor
  · intro h
    constructor <;> grind
  · intro h
    obtain ⟨hcritical, hwarning, hdegraded⟩ := h
    grind

theorem classify_eq_iff {thresholds : PmcThresholds} {first second : PmcFigures}
    (hcpu : first.cpu = second.cpu) :
    first.classify thresholds = second.classify thresholds ↔
      SameSides thresholds first second ∧
        (second.pmcClass thresholds ≠ none → SameFigures first second) := by
  rw [PmcFigures.classify, PmcFigures.classify, ← pmcClass_eq_iff]
  cases hsecond : second.pmcClass thresholds with
  | none => simp
  | some d =>
      rw [Option.map_some, Option.map_eq_some_iff]
      constructor
      · rintro ⟨c, hfirst, hsame⟩
        obtain ⟨rfl, hfigures⟩ := (anomaly_eq_iff hcpu c d).mp hsame
        exact ⟨hfirst, fun _ => hfigures⟩
      · rintro ⟨hfirst, hfigures⟩
        exact ⟨d, hfirst, (anomaly_eq_iff hcpu d d).mpr ⟨rfl, hfigures nofun⟩⟩

/-! ## What has accumulated, what the interval adds and what rounding adds -/

/-- By how much the stalls exceed a percentage of the cycles, in hundredths of a cycle. -/
def stallSurplus (counts : PmcCounts) (percentage : ℚ) : ℚ :=
  counts.stallCycles * 100 - percentage * counts.cycles

/-- By how much the instructions exceed a number for each cycle. -/
def ipcSurplus (counts : PmcCounts) (ipc : ℚ) : ℚ := counts.instructions - ipc * counts.cycles

/-- By how much floating point exceeds the percentage of the total, over its cycles. -/
def stallRounding (sample : PmcEvent) : ℚ :=
  (sample.stallPct - (total sample).figures.stallPct) * (total sample).cycles

def ipcRounding (sample : PmcEvent) : ℚ :=
  (sample.ipc - (total sample).figures.ipc) * (total sample).cycles

/-- What had accumulated before the interval, with what rounding adds, covers what the
interval lacks of a percentage. -/
def CoversStall (previous sample : PmcEvent) : F64 → Prop
  | .finite percentage =>
      -stallSurplus (interval previous sample) percentage ≤
        stallSurplus (total previous) percentage + stallRounding sample
  | .infinite negative => negative
  | .nan => False

/-- What had accumulated before the interval, with what rounding adds, is less than what the
interval lacks of a number for each cycle. -/
def LacksIpc (previous sample : PmcEvent) : F64 → Prop
  | .finite ipc =>
      ipcSurplus (total previous) ipc + ipcRounding sample <
        -ipcSurplus (interval previous sample) ipc
  | .infinite negative => !negative
  | .nan => False

/-- What had accumulated before the interval leaves the total on the interval's side of the
thresholds that decide about the interval. -/
structure LeavesSides (thresholds : PmcThresholds) (previous sample : PmcEvent) : Prop where
  critical : IsStalled (interval previous sample).figures thresholds.stallPctCritical ↔
    CoversStall previous sample thresholds.stallPctCritical
  warning : ¬ IsStalled (interval previous sample).figures thresholds.stallPctCritical →
    (IsStalled (interval previous sample).figures thresholds.stallPctWarning ↔
      CoversStall previous sample thresholds.stallPctWarning)
  degraded : ¬ IsStalled (interval previous sample).figures thresholds.stallPctCritical →
    ¬ IsStalled (interval previous sample).figures thresholds.stallPctWarning →
      (IsDegraded (interval previous sample).figures thresholds.ipcDegradation ↔
        LacksIpc previous sample thresholds.ipcDegradation)

/-- What came before the interval changes neither the class nor the figures that are
reported. -/
structure Undisturbed (thresholds : PmcThresholds) (previous sample : PmcEvent) : Prop where
  sides : sample.cycles ≠ 0 → LeavesSides thresholds previous sample
  figures : (interval previous sample).figures.pmcClass thresholds ≠ none →
    SameFigures (figuresWith F64.rounded sample) (interval previous sample).figures

/-- The total is what it was and what the interval adds. -/
theorem total_eq_add (previous sample : PmcEvent) :
    (total sample).cycles = (total previous).cycles + (interval previous sample).cycles ∧
      (total sample).instructions =
        (total previous).instructions + (interval previous sample).instructions ∧
      (total sample).stallCycles =
        (total previous).stallCycles + (interval previous sample).stallCycles := by
  simp [interval]

section Busy

variable {sample : PmcEvent} (hcycles : sample.cycles ≠ 0)
include hcycles

theorem total_cycles_pos : 0 < (total sample).cycles := by
  have hne : sample.cycles.toNat ≠ 0 := fun heq => hcycles (UInt64.toNat_inj.mp heq)
  change (0 : ℤ) < sample.cycles.toNat
  exact_mod_cast Nat.pos_of_ne_zero hne

/-- The percentage of a sample, over its cycles. -/
theorem stallPct_mul_cycles :
    sample.stallPct * (total sample).cycles =
      (total sample).stallCycles * 100 + stallRounding sample := by
  have hne := (total_cycles_pos hcycles).ne'
  have hpos : ((total sample).cycles : ℚ) ≠ 0 := by exact_mod_cast hne
  rw [stallRounding, PmcCounts.figures]
  simp only [if_neg hne]
  field_simp
  ring

theorem ipc_mul_cycles :
    sample.ipc * (total sample).cycles = (total sample).instructions + ipcRounding sample := by
  have hne := (total_cycles_pos hcycles).ne'
  have hpos : ((total sample).cycles : ℚ) ≠ 0 := by exact_mod_cast hne
  rw [ipcRounding, PmcCounts.figures]
  simp only [if_neg hne]
  field_simp
  ring

/-- The total is stalled when the surplus before the interval covers its shortfall. -/
theorem isStalled_iff (previous : PmcEvent) (percentage : F64) :
    IsStalled (figuresWith F64.rounded sample) percentage ↔
      CoversStall previous sample percentage := by
  cases percentage with
  | nan => simp [IsStalled, CoversStall, F64.le, F64.lt]
  | infinite negative => cases negative <;> simp [IsStalled, CoversStall, F64.le, F64.lt]
  | finite p =>
      have hpos : (0 : ℚ) < (total sample).cycles := by exact_mod_cast total_cycles_pos hcycles
      have hfigure : (figuresWith F64.rounded sample).stallPct = sample.stallPct := rfl
      obtain ⟨hsum, -, hstalls⟩ := total_eq_add previous sample
      rw [IsStalled, hfigure, F64.finite_le_finite, decide_eq_true_eq,
        ← mul_le_mul_iff_left₀ hpos, stallPct_mul_cycles hcycles, CoversStall, stallSurplus,
        stallSurplus, hsum, hstalls]
      push_cast
      constructor <;> intro h <;> linarith

theorem isDegraded_iff (previous : PmcEvent) (ipc : F64) :
    IsDegraded (figuresWith F64.rounded sample) ipc ↔ LacksIpc previous sample ipc := by
  have hcounted : (figuresWith F64.rounded sample).counted := by
    simpa [figuresWith] using UInt64.pos_iff_ne_zero.mpr hcycles
  rw [IsDegraded, and_iff_left hcounted]
  cases ipc with
  | nan => simp [LacksIpc, F64.lt]
  | infinite negative => cases negative <;> simp [LacksIpc, F64.lt]
  | finite p =>
      have hpos : (0 : ℚ) < (total sample).cycles := by exact_mod_cast total_cycles_pos hcycles
      have hfigure : (figuresWith F64.rounded sample).ipc = sample.ipc := rfl
      obtain ⟨hsum, hinstructions, -⟩ := total_eq_add previous sample
      rw [hfigure, F64.finite_lt_finite, decide_eq_true_eq, ← mul_lt_mul_iff_left₀ hpos,
        ipc_mul_cycles hcycles, LacksIpc, ipcSurplus, ipcSurplus, hsum, hinstructions]
      push_cast
      constructor <;> intro h <;> linarith

end Busy

/-- Without any cycles the total and the interval read the same. -/
theorem sameSides_of_cycles_eq_zero {previous sample : PmcEvent}
    (hmono : previous.cycles ≤ sample.cycles) (hcycles : sample.cycles = 0)
    (thresholds : PmcThresholds) :
    SameSides thresholds (figuresWith F64.rounded sample) (interval previous sample).figures := by
  have hprevious : previous.cycles = 0 := UInt64.le_zero_iff.mp (hcycles ▸ hmono)
  have hinterval : (interval previous sample).cycles = 0 := by
    simp [interval, total, hcycles, hprevious]
  have hstallPct : (figuresWith F64.rounded sample).stallPct =
      (interval previous sample).figures.stallPct := by
    simp [figuresWith, PmcEvent.stallPctWith, PmcCounts.figures, hcycles, hinterval]
  have hidle : (figuresWith F64.rounded sample).counted = false ∧
      (interval previous sample).figures.counted = false := by
    simp [figuresWith, PmcCounts.figures, hcycles, hinterval]
  have hstalled : ∀ percentage, IsStalled (figuresWith F64.rounded sample) percentage ↔
      IsStalled (interval previous sample).figures percentage := by
    intro percentage
    rw [IsStalled, IsStalled, hstallPct]
  refine ⟨hstalled _, fun _ => hstalled _, fun _ _ => ?_⟩
  simp [IsDegraded, hidle.1, hidle.2]

theorem sameSides_iff {previous sample : PmcEvent} (hmono : previous.cycles ≤ sample.cycles)
    (thresholds : PmcThresholds) :
    SameSides thresholds (figuresWith F64.rounded sample) (interval previous sample).figures ↔
      (sample.cycles ≠ 0 → LeavesSides thresholds previous sample) := by
  by_cases hcycles : sample.cycles = 0
  · exact iff_of_true (sameSides_of_cycles_eq_zero hmono hcycles thresholds)
      fun hne => absurd hcycles hne
  · have hstalled := isStalled_iff hcycles previous
    have hdegraded := isDegraded_iff hcycles previous
    constructor
    · rintro ⟨hcritical, hwarning, hlow⟩ -
      refine ⟨?_, fun hc => ?_, fun hc hw => ?_⟩
      · rw [← hstalled, hcritical]
      · rw [← hstalled, hwarning hc]
      · rw [← hdegraded, hlow hc hw]
    · intro hleaves
      obtain ⟨hcritical, hwarning, hlow⟩ := hleaves hcycles
      refine ⟨?_, fun hc => ?_, fun hc hw => ?_⟩
      · rw [hstalled, hcritical]
      · rw [hstalled, hwarning hc]
      · rw [hdegraded, hlow hc hw]

theorem judgedByInterval_iff {previous sample : PmcEvent}
    (hmono : previous.cycles ≤ sample.cycles) (thresholds : PmcThresholds) :
    JudgedByInterval thresholds previous sample ↔ Undisturbed thresholds previous sample := by
  have hcpu : (figuresWith F64.rounded sample).cpu = (interval previous sample).figures.cpu := rfl
  rw [JudgedByInterval, classify, classify_eq_iff hcpu, sameSides_iff hmono]
  exact ⟨fun ⟨hsides, hfigures⟩ => ⟨hsides, hfigures⟩, fun ⟨hsides, hfigures⟩ => ⟨hsides, hfigures⟩⟩

/-! ## The samples of a CPU -/

/-- The samples of one CPU, of the firings of the timers of all. -/
def cpuSamples (cpu : UInt32) (firings : List (Invocation × PmcReads)) : List PmcEvent :=
  (firings.filter (·.2.cpu = cpu)).filterMap fun (inv, reads) =>
    (samplePmc inv reads fun _ => 0).2

/-- What a counter of a CPU reads as at the firings at which it can be read. -/
def readings (cpu : UInt32) (firings : List (Invocation × PmcReads))
    (counter : PmcReads → Option UInt64) : List UInt64 :=
  (firings.filter (·.2.cpu = cpu)).filterMap fun (_, reads) => counter reads

/-- The counters of a CPU never count back, whether or not each of them can be read. -/
structure MonotoneCounters (cpu : UInt32) (firings : List (Invocation × PmcReads)) : Prop where
  cycles : (readings cpu firings PmcReads.cycles).Pairwise (· ≤ ·)
  instructions : (readings cpu firings PmcReads.instructions).Pairwise (· ≤ ·)
  stalls : (readings cpu firings PmcReads.stalls).Pairwise (· ≤ ·)

instance (cpu : UInt32) (firings : List (Invocation × PmcReads)) :
    Decidable (MonotoneCounters cpu firings) :=
  decidable_of_iff ((readings cpu firings PmcReads.cycles).Pairwise (· ≤ ·) ∧
      (readings cpu firings PmcReads.instructions).Pairwise (· ≤ ·) ∧
      (readings cpu firings PmcReads.stalls).Pairwise (· ≤ ·))
    ⟨fun ⟨hcycles, hinstructions, hstalls⟩ => ⟨hcycles, hinstructions, hstalls⟩,
      fun h => ⟨h.cycles, h.instructions, h.stalls⟩⟩

/-- A sample holds the cycles that were read. -/
theorem cycles_of_samplePmc {inv : Invocation} {reads : PmcReads} {metrics : Metrics}
    {event : PmcEvent} (h : (samplePmc inv reads metrics).2 = some event) :
    reads.cycles = some event.cycles := by
  unfold samplePmc at h
  split at h
  · cases h
  · dsimp only at h
    split at h
    · split at h
      · cases h
      next hreadable =>
        obtain rfl := Option.some.inj h
        cases hcycles : reads.cycles with
        | none => exact absurd (.inl (by rw [hcycles]; decide)) hreadable
        | some counter => simp [pmcEvent, readPmc]
    · cases h

theorem sublist_readings (cpu : UInt32) (firings : List (Invocation × PmcReads)) :
    ((cpuSamples cpu firings).map PmcEvent.cycles).Sublist
      (readings cpu firings PmcReads.cycles) := by
  rw [cpuSamples, readings]
  induction firings.filter (·.2.cpu = cpu) with
  | nil => exact List.Sublist.slnil
  | cons firing firings ih =>
      obtain ⟨inv, reads⟩ := firing
      rw [List.filterMap_cons, List.filterMap_cons]
      dsimp only
      cases hsample : (samplePmc inv reads fun _ => 0).2 with
      | none =>
          cases reads.cycles with
          | none => exact ih
          | some counter => exact ih.cons _
      | some event =>
          rw [cycles_of_samplePmc hsample]
          exact ih.cons_cons _

/-- From sample to sample the cycles never decrease. -/
theorem MonotoneCounters.isChain_cycles {cpu : UInt32} {firings : List (Invocation × PmcReads)}
    (h : MonotoneCounters cpu firings) :
    (cpuSamples cpu firings).IsChain fun previous sample => previous.cycles ≤ sample.cycles :=
  (List.pairwise_map.mp (h.cycles.sublist (sublist_readings cpu firings))).isChain

/-- The timer of CPU 3 fires while PMC sampling is enabled. -/
def firing (cycles instructions stalls : Option UInt64) : Invocation × PmcReads where
  fst := {
    configMap := some {
      abiVersion := tapioConfigAbiVersion
      generation := 7
      flags := tapioFNodePmc
      slowIoThresholdNs := 50000000
      ioLatencyCriticalNs := 200000000
      connRefusedWindowNs := 0
      connRefusedMinCount := 0
      rttSpikeMultiplier := 2
      rttSpikeAbsUs := 500000
      rttMinBaselineSamples := 5
      ignoreExitCount := 0
      ignoreExitCodes := List.Vector.replicate 16 0 }
    ktimeNs := 100000000
    cgroupId := 1
    pidTgid := 0
    comm := List.Vector.replicate 16 0
    ringbufFree := true }
  snd := ⟨3, cycles, instructions, stalls⟩

/-- A CPU that stalls and goes on stalling; once the cycles cannot be read, and once the
stalls. -/
def steadyFirings : List (Invocation × PmcReads) := [
  firing (some 1000000000) (some 1000000000) (some 500000000),
  firing none (some 1500000000) (some 750000000),
  firing (some 2000000000) (some 2000000000) (some 1000000000),
  firing (some 3000000000) (some 3000000000) none,
  firing (some 4000000000) (some 4000000000) (some 2000000000)]

/-- A CPU that stalls for a tenth of the time it had been running well. -/
def turningFirings : List (Invocation × PmcReads) := [
  firing (some 1000000000) (some 2000000000) (some 0),
  firing (some 1100000000) (some 2000000000) (some 100000000)]

end Tapio.Agent
