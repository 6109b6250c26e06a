/-
# Which exits the ignore list hides

The list of exit codes that an operator wants ignored, from the profile to the scan in
the kernel. The scan finds a code exactly if the profile lists it. It looks at the code
whatever the signal is, and a death by a signal has code zero: a list with a zero in it
hides every such death.
-/
import Tapio.Controller.ConfigEndpoint
import Tapio.Ebpf.Container
import Tapio.Profile.Compile

namespace Tapio.Ebpf

open Agent Controller Profile

/-! ## The list on its way -/

/-- The slots in use hold the codes. -/
theorem take_ignoreExitCodeSlots {codes : List Int32}
    (hcount : codes.length ≤ tapioConfigMaxIgnoreExitCodes) :
    (ignoreExitCodeSlots codes).toList.take codes.length = codes := by
  apply List.ext_getElem?
  intro index
  rw [ignoreExitCodeSlots, List.Vector.toList_ofFn, List.getElem?_take, List.getElem?_ofFn]
  by_cases hindex : index < codes.length
  · simp [hindex, hindex.trans_le hcount]
  · simp [hindex]

/-- The count of the slots in use is the number of codes, and the clamp leaves it. -/
theorem clamp_ignoreExitCount {config : Wire.CompiledConfig}
    (hcount : config.container.ignoreExitCodes.length ≤ tapioConfigMaxIgnoreExitCodes)
    (generation : UInt32) :
    (tapioClampIgnoreExitCount (tapioConfigOf config generation).ignoreExitCount).toNat =
      config.container.ignoreExitCodes.length := by
  have hword : (UInt32.ofNat config.container.ignoreExitCodes.length).toNat =
      config.container.ignoreExitCodes.length :=
    UInt32.toNat_ofNat_of_lt' (hcount.trans_lt (by decide))
  rw [tapioConfigOf, Nat.min_eq_left hcount, tapioClampIgnoreExitCount, if_neg, hword]
  rw [gt_iff_lt, UInt32.lt_iff_toNat_lt, hword]
  exact Nat.not_lt.mpr hcount

/-- A code is ignored exactly if the compiled config lists it. -/
theorem isIgnoredExit_iff {config : Wire.CompiledConfig}
    (hcount : config.container.ignoreExitCodes.length ≤ tapioConfigMaxIgnoreExitCodes)
    (generation : UInt32) (code : Int32) :
    isIgnoredExit (tapioConfigOf config generation) code ↔
      code ∈ config.container.ignoreExitCodes := by
  rw [isIgnoredExit, clamp_ignoreExitCount hcount, tapioConfigOf,
    take_ignoreExitCodeSlots hcount]
  simp

/-! ## What is hidden -/

/-- The exit is abnormal. -/
def Abnormal (exitStatus : UInt32) : Prop := exitCodeOf exitStatus ≠ 0 ∨ signalOf exitStatus ≠ 0

/-- The exit code is one that the profile lists. -/
def Listed (profile : ValidatedProfile) (exitStatus : UInt32) : Prop :=
  exitCodeOf exitStatus ∈ (compile profile).container.ignoreExitCodes

instance : DecidablePred Abnormal := fun _ => inferInstanceAs (Decidable (_ ∨ _))

instance (profile : ValidatedProfile) : DecidablePred (Listed profile) := fun _ =>
  inferInstanceAs (Decidable (_ ∈ _))

/-- The exit handler under the config of a profile, with room in the ring buffer. -/
def exitUnder (profile : ValidatedProfile) (generation : UInt32) (inv : Invocation)
    (ctx : TraceEventRawSchedProcessExit) (exitStatus : UInt32) (metrics : Metrics) :
    Option ContainerEvent :=
  (handleExit
    { inv with
      configMap := some (tapioConfigOf (compile profile) generation)
      ringbufFree := true }
    ctx (some exitStatus) metrics).2

/-- Exactly the abnormal exits are reported that are not both without a signal and with
a listed code. -/
def SignalDeathsReported (profile : ValidatedProfile) (generation : UInt32)
    (inv : Invocation) (ctx : TraceEventRawSchedProcessExit) (exitStatus : UInt32)
    (metrics : Metrics) : Prop :=
  (exitUnder profile generation inv ctx exitStatus metrics).isSome ↔
    Abnormal exitStatus ∧ ¬ (signalOf exitStatus = 0 ∧ Listed profile exitStatus)

/-- An exit is reported exactly if it is abnormal and its code is not listed. -/
theorem exitUnder_isSome {profile : ValidatedProfile}
    (henabled : profile.resolved.container.enabled) (generation : UInt32) (inv : Invocation)
    (ctx : TraceEventRawSchedProcessExit) (exitStatus : UInt32) (metrics : Metrics) :
    (exitUnder profile generation inv ctx exitStatus metrics).isSome ↔
      Abnormal exitStatus ∧ ¬ Listed profile exitStatus := by
  have hcount : (compile profile).container.ignoreExitCodes.length ≤
      tapioConfigMaxIgnoreExitCodes := by
    rw [compile, compileWith, List.length_map]
    exact profile.inRange.container.count
  have hflag : (tapioConfigOf (compile profile) generation).flags &&& tapioFContainer ≠ 0 :=
    (compiledFlags_exact (compile profile)).2.2.1.mpr henabled
  have hon : Invocation.enabledConfig
      { inv with
        configMap := some (tapioConfigOf (compile profile) generation)
        ringbufFree := true } tapioFContainer =
      some (tapioConfigOf (compile profile) generation) :=
    Invocation.enabledConfig_eq_some_iff.mpr ⟨rfl, rfl, hflag⟩
  have hlisted := isIgnoredExit_iff hcount generation (exitCodeOf exitStatus)
  rw [exitUnder, handleExit_event hon, Option.isSome_ite, ← Bool.not_eq_true, hlisted,
    Decidable.not_and_iff_or_not]
  simp [Abnormal, Listed]

/-- **Signal deaths and the ignore list.** The exits are reported as they should be
exactly where a signal does not come with a listed code. -/
theorem signalDeathsReported_iff {profile : ValidatedProfile}
    (henabled : profile.resolved.container.enabled) (generation : UInt32) (inv : Invocation)
    (ctx : TraceEventRawSchedProcessExit) (exitStatus : UInt32) (metrics : Metrics) :
    SignalDeathsReported profile generation inv ctx exitStatus metrics ↔
      ¬ (signalOf exitStatus ≠ 0 ∧ Listed profile exitStatus) := by
  rw [SignalDeathsReported, exitUnder_isSome henabled]
  by_cases hsignal : signalOf exitStatus = 0
  · simp [hsignal]
  · have habnormal : Abnormal exitStatus := .inr hsignal
    simp [hsignal, habnormal]

instance (profile : ValidatedProfile) (generation : UInt32) (inv : Invocation)
    (ctx : TraceEventRawSchedProcessExit) (exitStatus : UInt32) (metrics : Metrics) :
    Decidable (SignalDeathsReported profile generation inv ctx exitStatus metrics) :=
  inferInstanceAs (Decidable (_ ↔ _))

/-- An exit of the process that the examples are about. -/
def exitInvocation : Invocation where
  configMap := none
  ktimeNs := 1000000000
  cgroupId := 77
  pidTgid := 20233590936167
  comm := List.Vector.replicate _ 0
  ringbufFree := true

/-- A kill is reported where no codes are ignored. -/
theorem signalDeathsReported_productionDefault :
    SignalDeathsReported ⟨productionDefault, productionDefault_inRange⟩ 1 exitInvocation ⟨4711⟩
      9 (fun _ => 0) :=
  (signalDeathsReported_iff rfl 1 exitInvocation ⟨4711⟩ 9 fun _ => 0).mpr (by decide +kernel)

/-- A profile that ignores clean exits. -/
def ignoresZero : EvidenceProfile where
  apiVersion := some "tapio.false.systems/v0"
  kind := some "EvidenceProfile"
  base := some "production-default"
  overrides := { ProfileOverrides.default with
    container := { enabled := none, ignoreExitCodes := some [0] } }

/-- A kill is not reported where exit code zero is ignored. -/
theorem not_signalDeathsReported_ignoresZero :
    ∃ validated, validate ignoresZero BuiltinSet.v0 = .ok validated ∧
      validated.resolved.container.enabled ∧
      ¬ SignalDeathsReported validated 1 exitInvocation ⟨4711⟩ 9 (fun _ => 0) := by
  have hhidden : ((validate ignoresZero BuiltinSet.v0).toOption.any fun validated =>
      validated.resolved.container.enabled &&
        !decide (SignalDeathsReported validated 1 exitInvocation ⟨4711⟩ 9 fun _ => 0)) := by
    decide +kernel
  cases h : validate ignoresZero BuiltinSet.v0 with
  | error error =>
      rw [h] at hhidden
      cases hhidden
  | ok validated =>
      rw [h] at hhidden
      simpa [Except.toOption] using hhidden

end Tapio.Ebpf
