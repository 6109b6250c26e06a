/-
# Storage severity, end to end

From an operator's thresholds to the occurrences of the storage observer. The decision is
taken in parts: the profile is merged and compiled, the agent carries the config to the
kernel, the probe compares a latency with the thresholds, and the observer classifies the
event by the severity that the probe left in it. Together they compare the latency with
the merged thresholds in milliseconds, both of them inclusive.
-/
import Tapio.Agent.Storage
import Tapio.Ebpf.Storage
import Tapio.Profile.Delivery

namespace Tapio.Agent

open Ebpf Profile Sink Controller

/-- The occurrence of the storage observer for a completion. -/
def completionOccurrence (f64Bits : ℚ → UInt64) (id : String) (bootOffsetNs : UInt64)
    (inv : Invocation) (ctx : TraceEventRawBlockRqCompletion) (maps : StorageMaps) :
    Option Common.Occurrence :=
  (traceBlockRqComplete inv ctx maps).2.bind fun event =>
    (Storage.classify event).map fun anomaly =>
      Storage.buildOccurrence f64Bits id event anomaly bootOffsetNs

/-- What thresholds in milliseconds say about a kernel error and a latency in
nanoseconds. -/
def thresholdVerdict (warningMs criticalMs : ℕ) (error : Int32) (latencyNs : ℕ) :
    Option (String × Severity) :=
  if error ≠ 0 then some (storageIoError, .critical)
  else if criticalMs * 1000000 ≤ latencyNs then some (storageLatencySpike, .critical)
  else if warningMs * 1000000 ≤ latencyNs then some (storageLatencySpike, .warning)
  else none

/-- How severe a verdict is. -/
def verdictRank : Option (String × Severity) → ℕ
  | none => 0
  | some (_, .debug) => 1
  | some (_, .info) => 2
  | some (_, .warning) => 3
  | some (_, .error) => 4
  | some (_, .critical) => 5

/-- A longer latency is not less severe. -/
theorem verdictRank_mono (warningMs criticalMs : ℕ) {latencyNs latencyNs' : ℕ}
    (h : latencyNs ≤ latencyNs') :
    verdictRank (thresholdVerdict warningMs criticalMs 0 latencyNs) ≤
      verdictRank (thresholdVerdict warningMs criticalMs 0 latencyNs') := by
  have hbound : ∀ latency, verdictRank (thresholdVerdict warningMs criticalMs 0 latency) ≤ 5 := by
    intro latency
    unfold thresholdVerdict
    split_ifs <;> simp [verdictRank]
  by_cases hcritical : criticalMs * 1000000 ≤ latencyNs'
  · have htop : thresholdVerdict warningMs criticalMs 0 latencyNs' =
        some (storageLatencySpike, .critical) := by
      simp [thresholdVerdict, hcritical]
    rw [htop]
    exact hbound latencyNs
  · have hbelow : ¬ criticalMs * 1000000 ≤ latencyNs := by omega
    by_cases hwarning : warningMs * 1000000 ≤ latencyNs
    · have hwarning' : warningMs * 1000000 ≤ latencyNs' := by omega
      simp [thresholdVerdict, hcritical, hbelow, hwarning, hwarning']
    · have hnone : thresholdVerdict warningMs criticalMs 0 latencyNs = none := by
        simp [thresholdVerdict, hbelow, hwarning]
      rw [hnone]
      exact Nat.zero_le _

/-! ## The stages -/

/-- What the probe and the observer make of a completion together. -/
def stagedVerdict (cfg : TapioConfig) (error : Int32) (latencyNs : UInt64) :
    Option (String × Severity) :=
  (completionSeverity cfg error latencyNs).map fun severity =>
    if error ≠ 0 then (storageIoError, .critical)
    else (storageLatencySpike,
      if severity = storageSeverityCritical then .critical else .warning)

/-- An unambiguous completion is reported as the staged verdict says. -/
theorem completionOccurrence_verdict (f64Bits : ℚ → UInt64) (id : String)
    (bootOffsetNs : UInt64) {inv : Invocation} {ctx : TraceEventRawBlockRqCompletion}
    {maps : StorageMaps} {cfg : TapioConfig} {opcode : UInt8} {value : IoValue}
    (hon : inv.enabledConfig tapioFStorage = some cfg)
    (hop : rwbsOpcode ctx.rwbs = some opcode)
    (hvalue : maps.inflightIo (ioKey ctx.dev ctx.sector ctx.nrSector opcode) = some value)
    (hamb : value.ambiguous = 0) (hfree : inv.ringbufFree) :
    (completionOccurrence f64Bits id bootOffsetNs inv ctx maps).map
        (fun occurrence => (occurrence.occurrenceType, occurrence.severity)) =
      stagedVerdict cfg ctx.error (inv.ktimeNs - value.issueNs) := by
  have hevent : (traceBlockRqComplete inv ctx maps).2 =
      (completionSeverity cfg ctx.error (inv.ktimeNs - value.issueNs)).map
        (storageEvent inv cfg (ioKey ctx.dev ctx.sector ctx.nrSector opcode) value ctx.error) := by
    simp only [traceBlockRqComplete, hop, hvalue, hon, hamb, hfree, ne_eq, not_true_eq_false,
      if_false, if_true]
    cases completionSeverity cfg ctx.error (inv.ktimeNs - value.issueNs) with
    | none => rfl
    | some severity => rfl
  rw [completionOccurrence, hevent, stagedVerdict]
  cases completionSeverity cfg ctx.error (inv.ktimeNs - value.issueNs) with
  | none => rfl
  | some severity =>
      rw [Option.map_some, Option.bind_some, Option.map_some, Option.map_map]
      by_cases herror : ctx.error = 0
      · rw [Storage.classify, if_neg (by simp [StorageEvent.hasError, storageEvent, herror])]
        simp only [herror, ne_eq, not_true_eq_false, if_false]
        rfl
      · rw [Storage.classify, if_pos (by simp [StorageEvent.hasError, storageEvent, herror]),
          if_pos herror]
        rfl

/-- Under the thresholds of a profile the stages decide as the profile says. -/
theorem stagedVerdict_eq {cfg : TapioConfig} {warningMs criticalMs : ℕ}
    (hwarning : cfg.slowIoThresholdNs.toNat = warningMs * 1000000)
    (hcritical : cfg.ioLatencyCriticalNs.toNat = criticalMs * 1000000)
    (horder : 0 < cfg.slowIoThresholdNs ∧ cfg.slowIoThresholdNs ≤ cfg.ioLatencyCriticalNs)
    (error : Int32) (latencyNs : UInt64) :
    stagedVerdict cfg error latencyNs =
      thresholdVerdict warningMs criticalMs error latencyNs.toNat := by
  obtain ⟨hpositive, hle⟩ := horder
  rw [UInt64.le_iff_toNat_le, hwarning, hcritical] at hle
  have hcriticalPositive : cfg.ioLatencyCriticalNs > 0 := by
    rw [gt_iff_lt, UInt64.lt_iff_toNat_lt] at *
    omega
  by_cases herror : error = 0
  · have hatCritical : latencyNs ≥ cfg.ioLatencyCriticalNs ↔
        criticalMs * 1000000 ≤ latencyNs.toNat := by
      rw [ge_iff_le, UInt64.le_iff_toNat_le, hcritical]
    have hatWarning : latencyNs ≥ cfg.slowIoThresholdNs ↔
        warningMs * 1000000 ≤ latencyNs.toNat := by
      rw [ge_iff_le, UInt64.le_iff_toNat_le, hwarning]
    have hslow : cfg.slowIoThresholdNs > 0 := hpositive
    simp only [stagedVerdict, completionSeverity, thresholdVerdict, herror, hatCritical,
      hatWarning, hcriticalPositive, hslow, ne_eq, not_true_eq_false, if_false, true_and]
    split_ifs <;> simp [storageSeverityCritical, storageSeverityWarning]
  · simp [stagedVerdict, completionSeverity, thresholdVerdict, herror]

/-- **The severity is that of the operator's thresholds**, and it does not fall as the
latency grows. -/
theorem storageSeverity_thresholds (f64Bits : ℚ → UInt64) (id : String)
    (bootOffsetNs : UInt64) {profile : EvidenceProfile} {validated : ValidatedProfile}
    (hvalid : validate profile BuiltinSet.v0 = .ok validated)
    (henabled : validated.resolved.storage.enabled) {generation : String}
    {cfg : TapioConfig}
    (hcarried : tapioConfigFromCompiled (compile validated) generation = .ok cfg)
    {inv : Invocation} (hconfig : inv.configMap = some cfg) (hfree : inv.ringbufFree)
    {ctx : TraceEventRawBlockRqCompletion} {maps : StorageMaps} {opcode : UInt8}
    {value : IoValue} (hop : rwbsOpcode ctx.rwbs = some opcode)
    (hvalue : maps.inflightIo (ioKey ctx.dev ctx.sector ctx.nrSector opcode) = some value)
    (hamb : value.ambiguous = 0) :
    (completionOccurrence f64Bits id bootOffsetNs inv ctx maps).map
        (fun occurrence => (occurrence.occurrenceType, occurrence.severity)) =
      thresholdVerdict profile.overrides.warningMs.toNat profile.overrides.criticalMs.toNat
        ctx.error (inv.ktimeNs - value.issueNs).toNat ∧
    ∀ latencyNs latencyNs', latencyNs ≤ latencyNs' →
      verdictRank (thresholdVerdict profile.overrides.warningMs.toNat
        profile.overrides.criticalMs.toNat 0 latencyNs) ≤
      verdictRank (thresholdVerdict profile.overrides.warningMs.toNat
        profile.overrides.criticalMs.toNat 0 latencyNs') := by
  obtain ⟨parsed, rfl⟩ := eq_tapioConfigOf hcarried
  have hdelivered := delivered_compile (validate_v0 hvalid) parsed
  have hon : inv.enabledConfig tapioFStorage = some (tapioConfigOf (compile validated) parsed) :=
    Invocation.enabledConfig_eq_some_iff.mpr
      ⟨hconfig, rfl, (compiledFlags_exact (compile validated)).2.1.mpr henabled⟩
  rw [completionOccurrence_verdict f64Bits id bootOffsetNs hon hop hvalue hamb hfree,
    stagedVerdict_eq hdelivered.warning hdelivered.critical hdelivered.order]
  exact ⟨rfl, fun _ _ h => verdictRank_mono _ _ h⟩

/-- A read of a first disk. -/
def diskRead : TraceEventRawBlockRqCompletion where
  dev := 0x800010
  sector := 2048
  nrSector := 8
  error := 0
  rwbs := "RA"

def diskReadValue : IoValue where
  issueNs := 1000
  cgroupId := 3
  bytes := 4096
  issuerPid := 4242
  opcode := opRead
  ambiguous := 0

/-- The maps while it is in flight. -/
def diskReadMaps : StorageMaps :=
  { StorageMaps.empty with
    inflightIo := fun key =>
      if key = ioKey diskRead.dev diskRead.sector diskRead.nrSector opRead then
        some diskReadValue
      else none }

/-- Its completion after a fifth of a second. -/
def diskReadDone (cfg : TapioConfig) : Invocation where
  configMap := some cfg
  ktimeNs := 200001000
  cgroupId := 3
  pidTgid := 0
  comm := List.Vector.replicate 16 0
  ringbufFree := true

/-- A fifth of a second is a warning for who asked for warnings from 150 ms on. -/
theorem storageSeverity_thresholds_slowDisks :
    ∃ validated cfg, validate slowDisks BuiltinSet.v0 = .ok validated ∧
      tapioConfigFromCompiled (compile validated) "7" = .ok cfg ∧
      (completionOccurrence (fun _ => 0) "01" 0 (diskReadDone cfg) diskRead diskReadMaps).map
        (fun occurrence => (occurrence.occurrenceType, occurrence.severity)) =
          some (storageLatencySpike, .warning) := by
  have hvalid : (validate slowDisks BuiltinSet.v0).isOk := by decide +kernel
  cases h : validate slowDisks BuiltinSet.v0 with
  | error error =>
      rw [h] at hvalid
      cases hvalid
  | ok validated =>
      have hparse : Text.parseU32 "7" = some 7 := by decide +kernel
      have hcarried : tapioConfigFromCompiled (compile validated) "7" =
          .ok (tapioConfigOf (compile validated) 7) := by
        rw [tapioConfigFromCompiled, hparse]
        rfl
      have henabled : validated.resolved.storage.enabled := by
        rw [(validate_v0 h).storage]
        decide
      have hop : rwbsOpcode diskRead.rwbs = some opRead := by decide
      have hvalue : diskReadMaps.inflightIo
          (ioKey diskRead.dev diskRead.sector diskRead.nrSector opRead) = some diskReadValue := by
        decide
      have hconfig : (diskReadDone (tapioConfigOf (compile validated) 7)).configMap =
          some (tapioConfigOf (compile validated) 7) := rfl
      have hverdict := (storageSeverity_thresholds (fun _ => 0) "01" 0 h henabled hcarried
        hconfig rfl hop hvalue rfl).1
      have hwarning : thresholdVerdict slowDisks.overrides.warningMs.toNat
          slowDisks.overrides.criticalMs.toNat diskRead.error
            ((200001000 : UInt64) - diskReadValue.issueNs).toNat =
              some (storageLatencySpike, .warning) := by
        decide
      exact ⟨validated, _, rfl, hcarried, hverdict.trans hwarning⟩

end Tapio.Agent
