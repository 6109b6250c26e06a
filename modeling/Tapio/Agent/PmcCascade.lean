/-
# PMC samples and the operator's thresholds

The operator's percentages and ratio become integers on the wire and numbers again in the
agent. A sample that counted cycles is judged by comparing products of integers, as the
operator would. A sample of an idle CPU should be no anomaly, and its stall percentage is
zero; but the first two tests run on it as well, and a warning threshold below half a tenth
of a percent is compiled to zero, which it reaches. All of this is with the arithmetic read as
exact: the products and quotients of floating point with nothing rounded.
-/
import Tapio.Agent.NodePmc
import Tapio.Profile.Compile

namespace Tapio.Agent

open Numeric Profile Wire

/-! ## The operator's judgement -/

/-- The type of the anomaly in a sample, in whole numbers. -/
def operatorJudgement (config : CompiledConfig) (event : PmcEvent) : Option String :=
  let cycles := event.cycles.toNat
  if cycles = 0 then none
  else if 1000 * event.stallCycles.toNat ≥ config.nodePmc.stallCriticalPermille.toNat * cycles then
    some nodeCpuStall
  else if 1000 * event.stallCycles.toNat ≥ config.nodePmc.stallWarningPermille.toNat * cycles then
    some nodeMemoryPressure
  else if 1000 * event.instructions.toNat < config.nodePmc.ipcDegradationMilli.toNat * cycles then
    some nodeIpcDegradation
  else none

/-- `classify` under the thresholds of a config, with exact arithmetic. -/
def classifyExact (config : CompiledConfig) (event : PmcEvent) : Option ClassifiedAnomaly :=
  (figuresWith id event).classify (pmcThresholdsWith id config)

/-- Under the thresholds that are installed for a config, a sample is judged as the operator
asked. -/
def JudgedByOperator (config : CompiledConfig) (event : PmcEvent) : Prop :=
  (classifyExact config event).map ClassifiedAnomaly.eventType = operatorJudgement config event

instance (config : CompiledConfig) (event : PmcEvent) : Decidable (JudgedByOperator config event) :=
  inferInstanceAs (Decidable (_ = _))

/-! ## The tests in whole numbers -/

theorem eventType_classifyExact (config : CompiledConfig) (event : PmcEvent) :
    (classifyExact config event).map ClassifiedAnomaly.eventType =
      if (config.nodePmc.stallCriticalPermille.toNat : ℚ) / 10 ≤ event.stallPctWith id then
        some nodeCpuStall
      else if (config.nodePmc.stallWarningPermille.toNat : ℚ) / 10 ≤ event.stallPctWith id then
        some nodeMemoryPressure
      else if event.ipcWith id < (config.nodePmc.ipcDegradationMilli.toNat : ℚ) / 1000 ∧
          event.cycles > 0 then
        some nodeIpcDegradation
      else none := by
  rw [classifyExact, PmcFigures.classify, PmcFigures.pmcClass]
  simp only [figuresWith, pmcThresholdsWith, id_eq, F64.finite_le_finite, F64.finite_lt_finite,
    decide_eq_true_eq]
  split_ifs <;> rfl

section Busy

variable {event : PmcEvent} (hcycles : event.cycles ≠ 0)
include hcycles

theorem cycles_pos : (0 : ℚ) < event.cycles.toNat := by
  have hpos : 0 < event.cycles.toNat := UInt64.pos_iff_ne_zero.mpr hcycles
  exact_mod_cast hpos

/-- A percentage reaches a number of tenths when the products are in order. -/
theorem tenths_le_stallPct_iff (permille : ℕ) :
    (permille : ℚ) / 10 ≤ event.stallPctWith id ↔
      permille * event.cycles.toNat ≤ 1000 * event.stallCycles.toNat := by
  have hpos := cycles_pos hcycles
  simp only [PmcEvent.stallPctWith, if_neg hcycles, id_eq]
  rw [div_mul_eq_mul_div, le_div_iff₀ hpos, div_mul_eq_mul_div, div_le_iff₀ (by norm_num)]
  have hright : (event.stallCycles.toNat : ℚ) * 100 * 10 =
      ((1000 * event.stallCycles.toNat : ℕ) : ℚ) := by
    push_cast
    ring
  rw [hright]
  exact_mod_cast Iff.rfl

theorem ipc_lt_thousandths_iff (milli : ℕ) :
    event.ipcWith id < (milli : ℚ) / 1000 ↔
      1000 * event.instructions.toNat < milli * event.cycles.toNat := by
  have hpos := cycles_pos hcycles
  simp only [PmcEvent.ipcWith, if_neg hcycles, id_eq]
  rw [div_lt_div_iff₀ hpos (by norm_num), mul_comm _ (1000 : ℚ)]
  exact_mod_cast Iff.rfl

/-- A sample that counted cycles is judged as the operator asked, under any config. -/
theorem judgedByOperator_of_cycles (config : CompiledConfig) : JudgedByOperator config event := by
  have hne : event.cycles.toNat ≠ 0 := (UInt64.pos_iff_ne_zero.mpr hcycles).ne'
  have hpos : event.cycles > 0 := UInt64.pos_iff_ne_zero.mpr hcycles
  rw [JudgedByOperator, eventType_classifyExact]
  simp only [operatorJudgement, ge_iff_le, if_neg hne, hpos, and_true,
    tenths_le_stallPct_iff hcycles, ipc_lt_thousandths_iff hcycles]

end Busy

/-! ## Idle samples -/

/-- An idle sample is judged as the operator asked where both percentages are above zero. -/
theorem judgedByOperator_idle_iff {event : PmcEvent} (hcycles : event.cycles = 0)
    (config : CompiledConfig) :
    JudgedByOperator config event ↔
      0 < config.nodePmc.stallWarningPermille.toNat ∧
        0 < config.nodePmc.stallCriticalPermille.toNat := by
  have htenths : ∀ permille : ℕ, (permille : ℚ) / 10 ≤ 0 ↔ permille = 0 := by
    intro permille
    rw [div_le_iff₀ (by norm_num), zero_mul]
    exact_mod_cast Nat.le_zero
  have hstall : event.stallPctWith id = 0 := if_pos hcycles
  have hidle : ¬ (0 : UInt64) > 0 := UInt64.lt_irrefl 0
  rw [JudgedByOperator, eventType_classifyExact, operatorJudgement, hcycles, hstall]
  simp only [htenths, hidle, and_false, if_false, UInt64.toNat_zero, if_true]
  split_ifs with hcritical hwarning <;> simp [Nat.pos_iff_ne_zero, *]

/-- A percentage is compiled to at least one tenth when it is half a tenth or more. -/
theorem scaled_pos_iff {x : F64} (hx : Bounded x 100) :
    0 < (scaledWith F64.mul x 10).toNat ↔ F64.le (.finite (1 / 20)) x := by
  obtain ⟨value, rfl, hnonneg, hexact⟩ :=
    scaledWith_mul_of_bounded hx (by norm_num : (0 : ℚ) ≤ 10) (by norm_num)
  have hround : F64.roundRat (value * 10) = ⌊value * 10 + 1 / 2⌋ :=
    F64.roundRat_of_nonneg (by linarith)
  rw [F64.finite_le_finite, decide_eq_true_eq, ← Int.natCast_pos, hexact, hround, Int.lt_iff_add_one_le, Int.le_floor]
  apply Iff.intro
  · intro h
    push_cast at h
    linarith
  · intro h
    push_cast
    linarith

/-- The critical percentage is compiled to no less than the warning percentage. -/
theorem stallWarningPermille_le (validated : ValidatedProfile) :
    (compileWith F64.mul validated).nodePmc.stallWarningPermille.toNat ≤
      (compileWith F64.mul validated).nodePmc.stallCriticalPermille.toNat := by
  have hrange := validated.inRange.nodePmc
  have hten : (0 : ℚ) ≤ 10 := by norm_num
  obtain ⟨warning, hwarning, hnonneg, hwarningPermille⟩ :=
    scaledWith_mul_of_bounded hrange.warning hten (by norm_num)
  obtain ⟨critical, hcritical, -, hcriticalPermille⟩ :=
    scaledWith_mul_of_bounded hrange.critical hten (by norm_num)
  have horder : warning ≤ critical := by
    have hlt := hrange.order
    rw [hwarning, hcritical] at hlt
    simpa [F64.lt] using hlt
  have hmono := F64.roundRat_mono (mul_nonneg hnonneg hten)
    (mul_le_mul_of_nonneg_right horder hten)
  rw [← hwarningPermille, ← hcriticalPermille] at hmono
  exact_mod_cast hmono

/-- **Samples are judged by the operator's thresholds** under what is compiled of a validated
profile, except for idle samples under a warning threshold that is rounded to zero. -/
theorem judgedByOperator_iff (validated : ValidatedProfile) (event : PmcEvent) :
    JudgedByOperator (compileWith F64.mul validated) event ↔
      (event.cycles = 0 → F64.le (.finite (1 / 20)) validated.resolved.nodePmc.stallPctWarning) := by
  by_cases hcycles : event.cycles = 0
  · have horder := stallWarningPermille_le validated
    have hwarning : (compileWith F64.mul validated).nodePmc.stallWarningPermille =
        scaledWith F64.mul validated.resolved.nodePmc.stallPctWarning 10 := rfl
    rw [judgedByOperator_idle_iff hcycles, ← scaled_pos_iff validated.inRange.nodePmc.warning,
      ← hwarning]
    apply Iff.intro
    · exact fun h _ => h.1
    · exact fun h => ⟨h hcycles, (h hcycles).trans_le horder⟩
  · exact iff_of_true (judgedByOperator_of_cycles hcycles _) fun h => absurd h hcycles

/-! ## An operator who asks for every stall -/

/-- A profile with the least warning threshold. -/
def warnsAtZero : EvidenceProfile where
  apiVersion := some "tapio.false.systems/v0"
  kind := some "EvidenceProfile"
  base := some "production-default"
  overrides := { ProfileOverrides.default with
    nodePmc := { enabled := none, stallPct := ⟨some (.finite 0), none⟩, ipcDegradation := none } }

def idleSample : PmcEvent where
  configGeneration := 17
  cpu := 0
  cycles := 0
  instructions := 0
  stallCycles := 0
  timestamp := 1000000000

/-- An idle CPU is under memory pressure. -/
theorem not_judgedByOperator_warnsAtZero :
    ∃ validated, validate warnsAtZero BuiltinSet.v0 = .ok validated ∧
      (classifyExact (compileWith F64.mul validated) idleSample).map
        ClassifiedAnomaly.eventType = some nodeMemoryPressure ∧
      ¬ JudgedByOperator (compileWith F64.mul validated) idleSample := by
  have hpressure : ((validate warnsAtZero BuiltinSet.v0).toOption.any fun validated =>
      decide ((classifyExact (compileWith F64.mul validated) idleSample).map
        ClassifiedAnomaly.eventType = some nodeMemoryPressure) &&
        !decide (JudgedByOperator (compileWith F64.mul validated) idleSample)) := by
    decide +kernel
  cases h : validate warnsAtZero BuiltinSet.v0 with
  | error error =>
      rw [h] at hpressure
      cases hpressure
  | ok validated =>
      rw [h] at hpressure
      simpa [Except.toOption] using hpressure

end Tapio.Agent
