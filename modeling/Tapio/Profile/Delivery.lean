/-
# From the operator's profile to the kernel

A profile that passes validation is compiled, served by a controller, accepted by the
agent and written to the kernel. `Delivered` says what must come out at the end in
terms of what the operator wrote: every quantity is the merged one in kernel units, as
a number, so that nothing wrapped on the way.
-/
import Tapio.Controller.ConfigEndpoint
import Tapio.Profile.Compile

namespace Tapio.Profile

open Numeric Wire Agent Controller

/-! ## What the operator means -/

def ProfileOverrides.warningMs (overrides : ProfileOverrides) : UInt64 :=
  overrides.storage.slowIo.warningMs.getD productionDefault.storage.slowIoWarningMs

def ProfileOverrides.criticalMs (overrides : ProfileOverrides) : UInt64 :=
  overrides.storage.slowIo.criticalMs.getD productionDefault.storage.slowIoCriticalMs

def ProfileOverrides.ratio (overrides : ProfileOverrides) : UInt32 :=
  overrides.network.rttSpike.ratio.getD productionDefault.network.rttSpikeRatio

def ProfileOverrides.absMs (overrides : ProfileOverrides) : UInt32 :=
  overrides.network.rttSpike.absMs.getD productionDefault.network.rttSpikeAbsMs

def ProfileOverrides.stallPctWarning (overrides : ProfileOverrides) : F64 :=
  overrides.nodePmc.stallPct.warning.getD productionDefault.nodePmc.stallPctWarning

def ProfileOverrides.stallPctCritical (overrides : ProfileOverrides) : F64 :=
  overrides.nodePmc.stallPct.critical.getD productionDefault.nodePmc.stallPctCritical

def ProfileOverrides.ipcDegradation (overrides : ProfileOverrides) : F64 :=
  overrides.nodePmc.ipcDegradation.getD productionDefault.nodePmc.ipcDegradation

/-- The bits of the enabled observers, and no others. -/
structure FlagsOf (overrides : ProfileOverrides) (flags : UInt64) : Prop where
  network : flags &&& tapioFNetwork ≠ 0 ↔
    overrides.network.enabled.getD productionDefault.network.enabled
  storage : flags &&& tapioFStorage ≠ 0 ↔
    overrides.storage.enabled.getD productionDefault.storage.enabled
  container : flags &&& tapioFContainer ≠ 0 ↔
    overrides.container.enabled.getD productionDefault.container.enabled
  nodePmc : flags &&& tapioFNodePmc ≠ 0 ↔
    overrides.nodePmc.enabled.getD productionDefault.nodePmc.enabled
  others :
    flags &&& ~~~(tapioFNetwork ||| tapioFStorage ||| tapioFContainer ||| tapioFNodePmc) = 0

/-- The kernel config is what the operator wrote. -/
structure Delivered (overrides : ProfileOverrides) (generation : UInt32)
    (config : TapioConfig) : Prop where
  abiVersion : config.abiVersion = tapioConfigAbiVersion
  generation : config.generation = generation
  flags : FlagsOf overrides config.flags
  warning : config.slowIoThresholdNs.toNat = overrides.warningMs.toNat * 1000000
  critical : config.ioLatencyCriticalNs.toNat = overrides.criticalMs.toNat * 1000000
  order : 0 < config.slowIoThresholdNs ∧ config.slowIoThresholdNs ≤ config.ioLatencyCriticalNs
  absUs : config.rttSpikeAbsUs.toNat = overrides.absMs.toNat * 1000
  ratio : config.rttSpikeMultiplier = overrides.ratio
  samples : config.rttMinBaselineSamples = productionDefault.network.rttMinBaselineSamples

/-- A threshold in finer units is the floating-point product with the factor, a finite
number, rounded to an integer that fits its word. -/
def ScaledTo (x : F64) (factor : ℚ) (result : UInt32) : Prop :=
  ∃ product, x.mulNearest (.finite factor) = .finite product ∧
    (result.toNat : ℤ) = F64.roundRat product

/-- The thresholds that are judged in userspace are what the operator wrote. -/
structure PmcDelivered (overrides : ProfileOverrides) (nodePmc : CompiledNodePmc) :
    Prop where
  warning : ScaledTo overrides.stallPctWarning 10 nodePmc.stallWarningPermille
  critical : ScaledTo overrides.stallPctCritical 10 nodePmc.stallCriticalPermille
  ipc : ScaledTo overrides.ipcDegradation 1000 nodePmc.ipcDegradationMilli

/-! ## The chain -/

theorem nonzeroThresholds_compile (profile : ValidatedProfile) :
    NonzeroThresholds (compile profile) := by
  have hwarning := profile.inRange.storage.warningMs
  have hcritical := profile.inRange.storage.criticalMs
  apply And.intro
  · intro hzero
    have hvalue := compile_slowIoWarningNs profile
    rw [hzero, UInt64.toNat_zero] at hvalue
    omega
  · intro hzero
    have hvalue := compile_slowIoCriticalNs profile
    rw [hzero, UInt64.toNat_zero] at hvalue
    omega

theorem flagsOf_compile {overrides : ProfileOverrides} {validated : ValidatedProfile}
    (hmerged : Merged overrides productionDefault validated.resolved) :
    FlagsOf overrides (compiledFlags (compile validated)) := by
  obtain ⟨hnetwork, hstorage, hcontainer, hnodePmc, hothers⟩ :=
    compiledFlags_exact (compile validated)
  refine ⟨hnetwork.trans ?_, hstorage.trans ?_, hcontainer.trans ?_, hnodePmc.trans ?_, hothers⟩
  · rw [compile, compileWith, hmerged.network]
  · rw [compile, compileWith, hmerged.storage]
  · rw [compile, compileWith, hmerged.container]
  · rw [compile, compileWith, hmerged.nodePmc]

theorem delivered_compile {overrides : ProfileOverrides} {validated : ValidatedProfile}
    (hmerged : Merged overrides productionDefault validated.resolved) (generation : UInt32) :
    Delivered overrides generation (tapioConfigOf (compile validated) generation) := by
  have hwarning := compile_slowIoWarningNs validated
  have hcritical := compile_slowIoCriticalNs validated
  have hrange := validated.inRange.storage.warningMs
  have horder : validated.resolved.storage.slowIoWarningMs.toNat ≤
      validated.resolved.storage.slowIoCriticalMs.toNat :=
    validated.inRange.storage.order
  refine ⟨rfl, rfl, flagsOf_compile hmerged, ?_, ?_, ⟨?_, ?_⟩, ?_, ?_, ?_⟩
  · rw [tapioConfigOf, hwarning, hmerged.storage]
    rfl
  · rw [tapioConfigOf, hcritical, hmerged.storage]
    rfl
  · rw [UInt64.lt_iff_toNat_lt, tapioConfigOf, hwarning, UInt64.toNat_zero]
    omega
  · rw [UInt64.le_iff_toNat_le, tapioConfigOf, hwarning, hcritical]
    omega
  · rw [tapioConfigOf, compile_rttSpikeAbsUs, hmerged.network]
    rfl
  · rw [tapioConfigOf, compile, compileWith, hmerged.network]
    rfl
  · rw [tapioConfigOf, compile, compileWith, hmerged.network]

theorem pmcDelivered_compile {overrides : ProfileOverrides} {validated : ValidatedProfile}
    (hmerged : Merged overrides productionDefault validated.resolved) :
    PmcDelivered overrides (compile validated).nodePmc := by
  have hrange := validated.inRange.nodePmc
  have hten : (0 : ℚ) ≤ 10 := by norm_num
  have hthousand : (0 : ℚ) ≤ 1000 := by norm_num
  have hwarning := scaledWith_mulNearest_of_bounded hrange.warning hten (by norm_num)
  have hcritical := scaledWith_mulNearest_of_bounded hrange.critical hten (by norm_num)
  have hipc := scaledWith_mulNearest_of_bounded hrange.ipc hthousand (by norm_num)
  rw [hmerged.nodePmc] at hwarning hcritical hipc
  rw [compile, compileWith, hmerged.nodePmc]
  exact ⟨hwarning, hcritical, hipc⟩

/-- **Every profile reaches the kernel unchanged.** The response that a controller
serves for a validated profile is accepted by the agent, which writes to every carrier
the config that the operator wrote, in kernel units. -/
theorem profile_delivered (sha256 : Digest) (generation : UInt32)
    {profile : EvidenceProfile} {validated : ValidatedProfile}
    (hvalid : validate profile BuiltinSet.v0 = .ok validated) :
    ∃ accepted,
      receiveConfig (.response 200
        (.ok (configResponseFromCompiled sha256 (compile validated) generation))) =
          .ok (some accepted) ∧
      accepted.generation = generation ∧
      Delivered profile.overrides generation accepted.tapioConfig ∧
      PmcDelivered profile.overrides accepted.response.config.nodePmc ∧
      ∀ (s : AgentState) (carrier : ConfigCarrier) (observer : String),
        carrier ∈ s.carriers.carriers →
        s.kernel.fds carrier.mapFd = some (.configMap observer) →
        (pollOnce s (.response 200
          (.ok (configResponseFromCompiled sha256 (compile validated) generation)))
            (fun _ => true) true).kernel.configMaps observer = accepted.tapioConfig := by
  have hmerged := validate_v0 hvalid
  have haccepted := acceptConfig_served sha256 (nonzeroThresholds_compile validated) generation
  have hreceive : receiveConfig (.response 200
      (.ok (configResponseFromCompiled sha256 (compile validated) generation))) =
        .ok (some ⟨configResponseFromCompiled sha256 (compile validated) generation, generation,
          tapioConfigOf (compile validated) generation⟩) := by
    rw [receiveConfig, if_neg (by decide), if_pos rfl, haccepted]
    rfl
  refine ⟨_, hreceive, rfl, delivered_compile hmerged generation, pmcDelivered_compile hmerged,
    fun s carrier observer hcarrier hfd => ?_⟩
  rw [pollOnce_of_some (by rw [acceptedConfig, hreceive])]
  dsimp only
  rw [fanOut_configMaps, if_pos ⟨carrier, hcarrier, hfd, rfl⟩]

/-- A profile that raises the storage thresholds. -/
def slowDisks : EvidenceProfile where
  apiVersion := some "tapio.false.systems/v0"
  kind := some "EvidenceProfile"
  base := some "production-default"
  overrides := { ProfileOverrides.default with
    storage := { enabled := none, slowIo := ⟨some 150, some 400⟩ } }

/-- The SHA-256 digest of what `slowDisks` compiles to, whatever is digested. -/
def slowDisksDigest : Digest := fun _ =>
  ⟨[
    0x5c, 0x1e, 0xf5, 0x9a, 0x29, 0x0c, 0xec, 0x74,
    0x9f, 0x8e, 0x46, 0xc5, 0x44, 0x2e, 0x58, 0x54,
    0xbc, 0x97, 0x43, 0xd2, 0x8f, 0xfa, 0x9f, 0xcc,
    0x0a, 0x4e, 0xe6, 0xfc, 0x58, 0x16, 0x21, 0x9f], by decide⟩

theorem profile_delivered_slowDisks :
    ∃ validated, validate slowDisks BuiltinSet.v0 = .ok validated ∧
      ∃ accepted,
        receiveConfig (.response 200
          (.ok (configResponseFromCompiled slowDisksDigest (compile validated) 7))) =
            .ok (some accepted) ∧
        accepted.generation = 7 ∧
        Delivered slowDisks.overrides 7 accepted.tapioConfig := by
  have hvalid : (validate slowDisks BuiltinSet.v0).isOk := by decide +kernel
  cases h : validate slowDisks BuiltinSet.v0 with
  | error error =>
      rw [h] at hvalid
      cases hvalid
  | ok validated =>
      obtain ⟨accepted, hreceive, hgeneration, hdelivered, -⟩ :=
        profile_delivered slowDisksDigest 7 h
      exact ⟨validated, rfl, accepted, hreceive, hgeneration, hdelivered⟩

end Tapio.Profile
