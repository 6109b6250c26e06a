/-
# Validating a profile

The base profile with the overrides applied field by field, each checked before it is
taken over. The checks stop at the first failure. A validated profile is in range,
since its base was and every check passed.
-/
import Mathlib.Data.List.Nodup
import Tapio.Checks.Except
import Tapio.Profile.Document

namespace Tapio.Profile

open Numeric Checks

/-- An integer in a closed range. -/
def checkRange (field : FieldPath) (value lo hi : ℤ) (range : String) :
    Except ProfileError Unit :=
  if lo ≤ value ∧ value ≤ hi then .ok () else .error (.outOfRange field (.integer value) range)

/-- A finite number in a closed range. -/
def validateFiniteRange (field : FieldPath) (value : F64) (min max : ℚ) (range : String) :
    Except ProfileError Unit :=
  if value.isFinite then
    if value.lt (.finite min) ∨ (F64.finite max).lt value then
      .error (.outOfRange field (.float value) range)
    else .ok ()
  else .error (.notFinite field)

/-- The overridden value, if it passes the check, or else the inherited one. -/
def overrideWith {α : Type} (input : Option α) (inherited : α)
    (check : α → Except ProfileError Unit) : Except ProfileError α :=
  match input with
  | none => .ok inherited
  | some value => do
      check value
      return value

def validateEnvelope (profile : EvidenceProfile) : Except ProfileError Unit :=
  if profile.apiVersion ≠ some apiVersion then
    .error (.unsupportedApiVersion "apiVersion" profile.apiVersion apiVersion)
  else if profile.kind ≠ some kind then
    .error (.unsupportedKind "kind" profile.kind kind)
  else .ok ()

def isAsciiLowercase (byte : UInt8) : Bool := 97 ≤ byte && byte ≤ 122

def isAsciiDigit (byte : UInt8) : Bool := 48 ≤ byte && byte ≤ 57

/-- The byte of a hyphen. -/
def hyphen : UInt8 := 45

def validProfileName (value : String) : Bool :=
  match value.toByteArray.data.toList with
  | [] => false
  | first :: rest =>
      rest.length < 63 && isAsciiLowercase first && (first :: rest).getLast? != some hyphen &&
        rest.all fun byte => isAsciiLowercase byte || isAsciiDigit byte || byte == hyphen

def applyNetwork (input : NetworkOverride) (resolved : ResolvedNetwork) :
    Except ProfileError ResolvedNetwork := do
  let ratio ← overrideWith input.rttSpike.ratio resolved.rttSpikeRatio fun ratio =>
    checkRange "overrides.network.rtt_spike.ratio" ratio.toNat 1 100 ratioRange
  let absMs ← overrideWith input.rttSpike.absMs resolved.rttSpikeAbsMs fun absMs =>
    checkRange "overrides.network.rtt_spike.abs_ms" absMs.toNat 1 maxRttAbsMs absMsRange
  return { resolved with
    enabled := input.enabled.getD resolved.enabled
    rttSpikeRatio := ratio
    rttSpikeAbsMs := absMs }

def applyStorage (input : StorageOverride) (resolved : ResolvedStorage) :
    Except ProfileError ResolvedStorage := do
  let warningMs ← overrideWith input.slowIo.warningMs resolved.slowIoWarningMs
    fun warningMs =>
      checkRange "overrides.storage.slow_io.warning_ms" warningMs.toNat 1 maxWarningMs
        warningMsRange
  let criticalMs ← overrideWith input.slowIo.criticalMs resolved.slowIoCriticalMs
    fun criticalMs =>
      checkRange "overrides.storage.slow_io.critical_ms" criticalMs.toNat 1 maxCriticalMs
        criticalMsRange
  if criticalMs < warningMs then
    .error (.thresholdOrder "overrides.storage.slow_io" (.integer warningMs.toNat)
      (.integer criticalMs.toNat))
  else
    return {
      enabled := input.enabled.getD resolved.enabled
      slowIoWarningMs := warningMs
      slowIoCriticalMs := criticalMs }

/-- The codes in the order of their first occurrence. The table of the codes seen so far
holds those that have been checked. -/
def checkExitCodes (checked : List UInt8) : List Int32 → Except ProfileError (List UInt8)
  | [] => .ok checked
  | code :: rest => do
      checkRange "overrides.container.ignore_exit_codes" code.toInt 0 255 exitCodeRange
      let code := code.toUInt32.toUInt8
      if code ∈ checked then checkExitCodes checked rest
      else checkExitCodes (checked ++ [code]) rest

def applyContainer (input : ContainerOverride) (resolved : ResolvedContainer) :
    Except ProfileError ResolvedContainer :=
  let enabled := input.enabled.getD resolved.enabled
  match input.ignoreExitCodes with
  | none => .ok { resolved with enabled }
  | some codes =>
      if codes.length > maxIgnoreExitCodes then
        .error (.tooManyIgnoreExitCodes "overrides.container.ignore_exit_codes" codes.length)
      else do
        let ignoreExitCodes ← checkExitCodes [] codes
        return { enabled, ignoreExitCodes }

def applyNodePmc (input : NodePmcOverride) (resolved : ResolvedNodePmc) :
    Except ProfileError ResolvedNodePmc := do
  let warning ← overrideWith input.stallPct.warning resolved.stallPctWarning fun warning =>
    validateFiniteRange "overrides.node_pmc.stall_pct.warning" warning 0 100 stallPctRange
  let critical ← overrideWith input.stallPct.critical resolved.stallPctCritical fun critical =>
    validateFiniteRange "overrides.node_pmc.stall_pct.critical" critical 0 100 stallPctRange
  if critical.lt warning then
    .error (.thresholdOrder "overrides.node_pmc.stall_pct" (.float warning) (.float critical))
  else do
    let ipc ← overrideWith input.ipcDegradation resolved.ipcDegradation fun ipc =>
      validateFiniteRange "overrides.node_pmc.ipc_degradation" ipc 0 16 ipcDegradationRange
    return {
      enabled := input.enabled.getD resolved.enabled
      stallPctWarning := warning
      stallPctCritical := critical
      ipcDegradation := ipc }

/-- The base profile of a document. -/
def resolveBase (profile : EvidenceProfile) (builtins : BuiltinSet) :
    Except ProfileError ResolvedProfile :=
  match profile.base with
  | none => .error (.missingBase "base")
  | some name =>
      if validProfileName name then
        match builtins.profiles[name]? with
        | some base => .ok base
        | none => .error (.unknownBase "base" name builtins.profiles.keys)
      else .error (.invalidProfileName "base" name)

/-- The base profile with the overrides applied. -/
def applyOverrides (overrides : ProfileOverrides) (base : ResolvedProfile) :
    Except ProfileError ResolvedProfile := do
  let network ← applyNetwork overrides.network base.network
  let storage ← applyStorage overrides.storage base.storage
  let container ← applyContainer overrides.container base.container
  let nodePmc ← applyNodePmc overrides.nodePmc base.nodePmc
  return { network, storage, container, nodePmc }

/-! ## What passes the checks -/

@[simp]
theorem checkRange_ok_iff {field : FieldPath} {value lo hi : ℤ} {range : String} :
    checkRange field value lo hi range = .ok () ↔ lo ≤ value ∧ value ≤ hi := by
  by_cases hrange : lo ≤ value ∧ value ≤ hi <;> simp [checkRange, hrange]

theorem validateFiniteRange_ok_iff {field : FieldPath} {value : F64} {min max : ℚ}
    {range : String} :
    validateFiniteRange field value min max range = .ok () ↔
      ∃ x, value = .finite x ∧ min ≤ x ∧ x ≤ max := by
  cases value with
  | nan => simp [validateFiniteRange, F64.isFinite]
  | infinite negative => simp [validateFiniteRange, F64.isFinite]
  | finite x => simp [validateFiniteRange, F64.isFinite, F64.lt]

/-- A field is the overridden value, which passes its check, or the inherited one. -/
theorem overrideWith_ok_iff {α : Type} {input : Option α} {inherited value : α}
    {check : α → Except ProfileError Unit} :
    overrideWith input inherited check = .ok value ↔
      (∀ overridden ∈ input, check overridden = .ok ()) ∧ value = input.getD inherited := by
  cases input with
  | none => simp [overrideWith, eq_comm]
  | some overridden =>
      rw [overrideWith]
      cases hcheck : check overridden <;> simp [bind, Except.bind, pure, Except.pure, hcheck,
        eq_comm]

/-- What holds of the inherited value and of every value that passes the check holds of
the field. -/
theorem overrideWith_holds {α : Type} {input : Option α} {inherited value : α}
    {check : α → Except ProfileError Unit} {P : α → Prop} (hinherited : P inherited)
    (hcheck : ∀ overridden, check overridden = .ok () → P overridden)
    (h : overrideWith input inherited check = .ok value) : P value := by
  obtain ⟨hpassed, rfl⟩ := overrideWith_ok_iff.mp h
  cases input with
  | none => exact hinherited
  | some overridden => exact hcheck overridden (hpassed overridden rfl)

theorem natRange_of_checkRange {field : FieldPath} {value lo hi : ℕ} {range : String}
    (h : checkRange field value lo hi range = .ok ()) : lo ≤ value ∧ value ≤ hi := by
  obtain ⟨hlo, hhi⟩ := checkRange_ok_iff.mp h
  exact ⟨Int.ofNat_le.mp hlo, Int.ofNat_le.mp hhi⟩

/-! ## What the overrides make of a base in range -/

theorem applyNetwork_ok {input : NetworkOverride} {base result : ResolvedNetwork}
    (hbase : base.InRange) (h : applyNetwork input base = .ok result) :
    result.InRange ∧ result = { base with
      enabled := input.enabled.getD base.enabled
      rttSpikeRatio := input.rttSpike.ratio.getD base.rttSpikeRatio
      rttSpikeAbsMs := input.rttSpike.absMs.getD base.rttSpikeAbsMs } := by
  obtain ⟨ratio, hratio, h⟩ := bind_eq_ok h
  obtain ⟨absMs, habsMs, h⟩ := bind_eq_ok h
  cases h
  apply And.intro
  · apply ResolvedNetwork.InRange.mk
    · exact overrideWith_holds (P := fun ratio => 1 ≤ ratio.toNat ∧ ratio.toNat ≤ 100) hbase.ratio
        (fun _ hcheck => natRange_of_checkRange hcheck) hratio
    · exact overrideWith_holds (P := fun absMs => 1 ≤ absMs.toNat ∧ absMs.toNat ≤ maxRttAbsMs)
        hbase.absMs (fun _ hcheck => natRange_of_checkRange hcheck) habsMs
  · rw [(overrideWith_ok_iff.mp hratio).2, (overrideWith_ok_iff.mp habsMs).2]

theorem applyStorage_ok {input : StorageOverride} {base result : ResolvedStorage}
    (hbase : base.InRange) (h : applyStorage input base = .ok result) :
    result.InRange ∧ result = {
      enabled := input.enabled.getD base.enabled
      slowIoWarningMs := input.slowIo.warningMs.getD base.slowIoWarningMs
      slowIoCriticalMs := input.slowIo.criticalMs.getD base.slowIoCriticalMs } := by
  obtain ⟨warningMs, hwarning, h⟩ := bind_eq_ok h
  obtain ⟨criticalMs, hcritical, h⟩ := bind_eq_ok h
  split at h
  · cases h
  · next horder =>
      cases h
      apply And.intro
      · apply ResolvedStorage.InRange.mk
        · exact overrideWith_holds (P := fun ms => 1 ≤ ms.toNat ∧ ms.toNat ≤ maxWarningMs)
            hbase.warningMs (fun _ hcheck => natRange_of_checkRange hcheck) hwarning
        · exact overrideWith_holds (P := fun ms => 1 ≤ ms.toNat ∧ ms.toNat ≤ maxCriticalMs)
            hbase.criticalMs (fun _ hcheck => natRange_of_checkRange hcheck) hcritical
        · exact UInt64.not_lt.mp horder
      · rw [(overrideWith_ok_iff.mp hwarning).2, (overrideWith_ok_iff.mp hcritical).2]

/-- The codes that were checked are kept without repetition, and nothing else is. -/
structure Checked (checked : List UInt8) (codes : List Int32) (result : List UInt8) :
    Prop where
  range : ∀ code ∈ codes, 0 ≤ code.toInt ∧ code.toInt ≤ 255
  distinct : result.Nodup
  count : result.length ≤ checked.length + codes.length
  mem : ∀ byte, byte ∈ result ↔ byte ∈ checked ∨ byte ∈ codes.map (·.toUInt32.toUInt8)

theorem checkExitCodes_ok {checked result : List UInt8} {codes : List Int32}
    (hchecked : checked.Nodup) (h : checkExitCodes checked codes = .ok result) :
    Checked checked codes result := by
  induction codes generalizing checked with
  | nil =>
      cases h
      exact ⟨nofun, hchecked, Nat.le_refl _, by simp⟩
  | cons code rest ih =>
      obtain ⟨_, hrange, h⟩ := bind_eq_ok h
      rw [checkRange_ok_iff] at hrange
      dsimp only at h
      split at h
      · next hseen =>
          have hrest := ih hchecked h
          refine ⟨List.forall_mem_cons.mpr ⟨hrange, hrest.range⟩, hrest.distinct, ?_, ?_⟩
          · have := hrest.count
            rw [List.length_cons]
            omega
          · intro byte
            rw [hrest.mem, List.map_cons, List.mem_cons]
            grind
      · next hnew =>
          have happended : (checked ++ [code.toUInt32.toUInt8]).Nodup := by
            rw [← List.concat_eq_append]
            exact List.Nodup.concat hnew hchecked
          have hrest := ih happended h
          refine ⟨List.forall_mem_cons.mpr ⟨hrange, hrest.range⟩, hrest.distinct, ?_, ?_⟩
          · have := hrest.count
            rw [List.length_append, List.length_singleton] at this
            rw [List.length_cons]
            omega
          · intro byte
            rw [hrest.mem, List.map_cons, List.mem_cons, List.mem_append, List.mem_singleton]
            grind

/-- The list of ignored codes, as a set. -/
def ContainerOverride.ignores (input : ContainerOverride) (base : ResolvedContainer)
    (byte : UInt8) : Prop :=
  match input.ignoreExitCodes with
  | none => byte ∈ base.ignoreExitCodes
  | some codes => byte ∈ codes.map (·.toUInt32.toUInt8)

theorem applyContainer_ok {input : ContainerOverride} {base result : ResolvedContainer}
    (hbase : base.InRange) (h : applyContainer input base = .ok result) :
    result.InRange ∧ result.enabled = input.enabled.getD base.enabled ∧
      (∀ byte, byte ∈ result.ignoreExitCodes ↔ input.ignores base byte) ∧
      (∀ codes ∈ input.ignoreExitCodes, ∀ code ∈ codes,
        0 ≤ code.toInt ∧ code.toInt ≤ 255) := by
  simp only [applyContainer] at h
  split at h
  · next hnone =>
      cases h
      exact ⟨⟨hbase.count, hbase.distinct⟩, rfl, by simp [ContainerOverride.ignores, hnone],
        by simp [hnone]⟩
  · next codes hcodes =>
      split at h
      · cases h
      · next hcount =>
          obtain ⟨ignored, hignored, h⟩ := bind_eq_ok h
          cases h
          have hchecked := checkExitCodes_ok List.nodup_nil hignored
          refine ⟨⟨?_, hchecked.distinct⟩, rfl, fun byte => ?_, ?_⟩
          · have := hchecked.count
            rw [List.length_nil] at this
            dsimp only
            omega
          · rw [hchecked.mem byte, ContainerOverride.ignores, hcodes]
            simp
          · rw [hcodes]
            rintro _ ⟨⟩
            exact hchecked.range

theorem bounded_of_validateFiniteRange {field : FieldPath} {value : F64} {max : ℚ}
    {range : String} (h : validateFiniteRange field value 0 max range = .ok ()) :
    Bounded value max :=
  validateFiniteRange_ok_iff.mp h

theorem applyNodePmc_ok {input : NodePmcOverride} {base result : ResolvedNodePmc}
    (hbase : base.InRange) (h : applyNodePmc input base = .ok result) :
    result.InRange ∧ result = {
      enabled := input.enabled.getD base.enabled
      stallPctWarning := input.stallPct.warning.getD base.stallPctWarning
      stallPctCritical := input.stallPct.critical.getD base.stallPctCritical
      ipcDegradation := input.ipcDegradation.getD base.ipcDegradation } := by
  obtain ⟨warning, hwarning, h⟩ := bind_eq_ok h
  obtain ⟨critical, hcritical, h⟩ := bind_eq_ok h
  split at h
  · cases h
  · next horder =>
      obtain ⟨ipc, hipc, h⟩ := bind_eq_ok h
      cases h
      apply And.intro
      · apply ResolvedNodePmc.InRange.mk
        · exact overrideWith_holds (P := fun x => Bounded x 100) hbase.warning
            (fun _ hcheck => bounded_of_validateFiniteRange hcheck) hwarning
        · exact overrideWith_holds (P := fun x => Bounded x 100) hbase.critical
            (fun _ hcheck => bounded_of_validateFiniteRange hcheck) hcritical
        · exact overrideWith_holds (P := fun x => Bounded x 16) hbase.ipc
            (fun _ hcheck => bounded_of_validateFiniteRange hcheck) hipc
        · exact Bool.eq_false_iff.mpr horder
      · rw [(overrideWith_ok_iff.mp hwarning).2, (overrideWith_ok_iff.mp hcritical).2,
          (overrideWith_ok_iff.mp hipc).2]

/-! ## Validation -/

/-- The base profile that a document names, with its overrides applied. -/
def resolve (profile : EvidenceProfile) (builtins : BuiltinSet) :
    Except ProfileError ResolvedProfile := do
  validateEnvelope profile
  let base ← resolveBase profile builtins
  applyOverrides profile.overrides base

/-- A resolved field is the overridden one or, without an override, that of the base. -/
structure Merged (overrides : ProfileOverrides) (base resolved : ResolvedProfile) :
    Prop where
  network : resolved.network = { base.network with
    enabled := overrides.network.enabled.getD base.network.enabled
    rttSpikeRatio := overrides.network.rttSpike.ratio.getD base.network.rttSpikeRatio
    rttSpikeAbsMs := overrides.network.rttSpike.absMs.getD base.network.rttSpikeAbsMs }
  storage : resolved.storage = {
    enabled := overrides.storage.enabled.getD base.storage.enabled
    slowIoWarningMs :=
      overrides.storage.slowIo.warningMs.getD base.storage.slowIoWarningMs
    slowIoCriticalMs :=
      overrides.storage.slowIo.criticalMs.getD base.storage.slowIoCriticalMs }
  container : resolved.container.enabled =
    overrides.container.enabled.getD base.container.enabled
  ignoreExitCodes : ∀ byte, byte ∈ resolved.container.ignoreExitCodes ↔
    overrides.container.ignores base.container byte
  exitCodeRange : ∀ codes ∈ overrides.container.ignoreExitCodes, ∀ code ∈ codes,
    0 ≤ code.toInt ∧ code.toInt ≤ 255
  nodePmc : resolved.nodePmc = {
    enabled := overrides.nodePmc.enabled.getD base.nodePmc.enabled
    stallPctWarning := overrides.nodePmc.stallPct.warning.getD base.nodePmc.stallPctWarning
    stallPctCritical :=
      overrides.nodePmc.stallPct.critical.getD base.nodePmc.stallPctCritical
    ipcDegradation := overrides.nodePmc.ipcDegradation.getD base.nodePmc.ipcDegradation }

theorem applyOverrides_ok {overrides : ProfileOverrides} {base resolved : ResolvedProfile}
    (hbase : base.InRange) (h : applyOverrides overrides base = .ok resolved) :
    resolved.InRange ∧ Merged overrides base resolved := by
  obtain ⟨network, hnetwork, h⟩ := bind_eq_ok h
  obtain ⟨storage, hstorage, h⟩ := bind_eq_ok h
  obtain ⟨container, hcontainer, h⟩ := bind_eq_ok h
  obtain ⟨nodePmc, hnodePmc, h⟩ := bind_eq_ok h
  cases h
  obtain ⟨hnetworkRange, hnetwork⟩ := applyNetwork_ok hbase.network hnetwork
  obtain ⟨hstorageRange, hstorage⟩ := applyStorage_ok hbase.storage hstorage
  obtain ⟨hcontainerRange, henabled, hignored, hcodes⟩ :=
    applyContainer_ok hbase.container hcontainer
  obtain ⟨hnodePmcRange, hnodePmc⟩ := applyNodePmc_ok hbase.nodePmc hnodePmc
  exact ⟨⟨hnetworkRange, hstorageRange, hcontainerRange, hnodePmcRange⟩,
    ⟨hnetwork, hstorage, henabled, hignored, hcodes, hnodePmc⟩⟩

/-- The base that is resolved is one of the builtin ones. -/
theorem resolveBase_ok {profile : EvidenceProfile} {builtins : BuiltinSet}
    {base : ResolvedProfile} (h : resolveBase profile builtins = .ok base) :
    ∃ name, profile.base = some name ∧ builtins.profiles[name]? = some base := by
  rw [resolveBase] at h
  split at h
  · cases h
  · next name hname =>
      split at h
      · split at h
        · next hfound =>
            cases h
            exact ⟨name, hname, hfound⟩
        · cases h
      · cases h

theorem resolve_ok {profile : EvidenceProfile} {builtins : BuiltinSet}
    {resolved : ResolvedProfile} (h : resolve profile builtins = .ok resolved) :
    resolved.InRange ∧ ∃ name base, profile.base = some name ∧
      builtins.profiles[name]? = some base ∧ Merged profile.overrides base resolved := by
  obtain ⟨_, -, h⟩ := bind_eq_ok h
  obtain ⟨base, hbase, h⟩ := bind_eq_ok h
  obtain ⟨name, hname, hfound⟩ := resolveBase_ok hbase
  obtain ⟨hrange, hmerged⟩ := applyOverrides_ok (builtins.inRange name base hfound) h
  exact ⟨hrange, name, base, hname, hfound, hmerged⟩

def validate (profile : EvidenceProfile) (builtins : BuiltinSet) :
    Except ProfileError ValidatedProfile :=
  match h : resolve profile builtins with
  | .error error => .error error
  | .ok resolved => .ok ⟨resolved, (resolve_ok h).1⟩

theorem validate_ok_iff {profile : EvidenceProfile} {builtins : BuiltinSet}
    {validated : ValidatedProfile} :
    validate profile builtins = .ok validated ↔
      resolve profile builtins = .ok validated.resolved := by
  cases validated with
  | mk resolved inRange =>
      rw [validate]
      split <;> simp [*]

/-- Against the builtin profiles of version 0, the base is the production default. -/
theorem validate_v0 {profile : EvidenceProfile} {validated : ValidatedProfile}
    (h : validate profile BuiltinSet.v0 = .ok validated) :
    Merged profile.overrides productionDefault validated.resolved := by
  obtain ⟨-, name, base, -, hfound, hmerged⟩ := resolve_ok (validate_ok_iff.mp h)
  rw [BuiltinSet.v0, Std.ExtTreeMap.getElem?_insert] at hfound
  split at hfound
  · exact Option.some.inj hfound ▸ hmerged
  · simp at hfound

end Tapio.Profile
