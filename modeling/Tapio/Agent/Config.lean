/-
# From the compiled config to the kernel's

What the agent derives from an accepted config response: the `TapioConfig` that
goes into every observer's map, and the thresholds of the PMC observer, which
are judged in userspace, in floating point.
-/
import Mathlib.Data.Vector.Defs
import Tapio.Common.Ebpf
import Tapio.Numeric.Binary64
import Tapio.Text.Rust
import Tapio.Wire.Config

namespace Tapio.Agent

open Numeric Wire

inductive CompiledConfigError
  | invalidGeneration (value : String)
  deriving DecidableEq

/-- The enable bits of the observers. -/
def compiledFlags (config : CompiledConfig) : UInt64 :=
  (if config.network.enabled then tapioFNetwork else 0) |||
    (if config.storage.enabled then tapioFStorage else 0) |||
    (if config.container.enabled then tapioFContainer else 0) |||
    (if config.nodePmc.enabled then tapioFNodePmc else 0)

/-- Copy the codes into the zero-initialised slots, as far as they fit. -/
def ignoreExitCodeSlots (codes : List Int32) :
    List.Vector Int32 tapioConfigMaxIgnoreExitCodes :=
  List.Vector.ofFn fun slot => codes.getD slot 0

def tapioConfigFromCompiled (config : CompiledConfig) (generation : String) :
    Except CompiledConfigError TapioConfig :=
  match Text.parseU32 generation with
  | none => .error (.invalidGeneration generation)
  | some generation =>
      .ok {
        abiVersion := tapioConfigAbiVersion
        generation := generation
        flags := compiledFlags config
        slowIoThresholdNs := config.storage.slowIoWarningNs
        ioLatencyCriticalNs := config.storage.slowIoCriticalNs
        connRefusedWindowNs := config.network.connRefusedWindowNs
        connRefusedMinCount := config.network.connRefusedMinCount
        rttSpikeMultiplier := config.network.rttSpikeRatio
        rttSpikeAbsUs := config.network.rttSpikeAbsUs
        rttMinBaselineSamples := config.network.rttMinBaselineSamples
        ignoreExitCount :=
          UInt32.ofNat
            (min config.container.ignoreExitCodes.length tapioConfigMaxIgnoreExitCodes)
        ignoreExitCodes := ignoreExitCodeSlots config.container.ignoreExitCodes }

structure PmcThresholds where
  stallPctWarning : F64
  stallPctCritical : F64
  ipcDegradation : F64
  deriving DecidableEq

/-- The thresholds of an agent without a config file. -/
def PmcThresholds.default : PmcThresholds where
  stallPctWarning := .finite 20
  stallPctCritical := .finite 40
  ipcDegradation := .finite 1

/-- The thresholds with every result rounded by `round`, or exact with the identity. -/
def pmcThresholdsWith (round : ℚ → ℚ) (config : CompiledConfig) : PmcThresholds where
  stallPctWarning := .finite (round (config.nodePmc.stallWarningPermille.toNat / 10))
  stallPctCritical := .finite (round (config.nodePmc.stallCriticalPermille.toNat / 10))
  ipcDegradation := .finite (round (config.nodePmc.ipcDegradationMilli.toNat / 1000))

def pmcThresholdsFromCompiled (config : CompiledConfig) : PmcThresholds :=
  pmcThresholdsWith F64.rounded config

/-- The thresholds of the agent's config file that the kernel judges by. -/
structure Thresholds where
  rttSpikeRatio : UInt64
  rttSpikeAbsUs : UInt64
  ioLatencyWarningNs : UInt64
  ioLatencyCriticalNs : UInt64

def Thresholds.default : Thresholds where
  rttSpikeRatio := 2
  rttSpikeAbsUs := 500000
  ioLatencyWarningNs := 50000000
  ioLatencyCriticalNs := 200000000

/-- Without a controller the config is made of these, clamped to the kernel's words. -/
def Thresholds.tapioConfig (thresholds : Thresholds) : TapioConfig where
  abiVersion := tapioConfigAbiVersion
  generation := 1
  flags := tapioFNetwork ||| tapioFStorage ||| tapioFContainer ||| tapioFNodePmc
  slowIoThresholdNs := thresholds.ioLatencyWarningNs
  ioLatencyCriticalNs := thresholds.ioLatencyCriticalNs
  connRefusedWindowNs := 0
  connRefusedMinCount := 0
  rttSpikeMultiplier := (min thresholds.rttSpikeRatio 0xFFFFFFFF).toUInt32
  rttSpikeAbsUs := (min thresholds.rttSpikeAbsUs 0xFFFFFFFF).toUInt32
  rttMinBaselineSamples := 5
  ignoreExitCount := 0
  ignoreExitCodes := List.Vector.replicate _ 0

/-- A config the agent writes on behalf of a response has the expected layout
version. -/
theorem tapioConfigFromCompiled_abiVersion {config : CompiledConfig}
    {generation : String} {result : TapioConfig}
    (h : tapioConfigFromCompiled config generation = .ok result) :
    result.abiVersion = tapioConfigAbiVersion := by
  unfold tapioConfigFromCompiled at h
  split at h
  · cases h
  · exact Except.ok.inj h ▸ rfl

/-- Each enable bit is set for its observer, and no other bit. -/
theorem compiledFlags_exact (config : CompiledConfig) :
    (compiledFlags config &&& tapioFNetwork ≠ 0 ↔ config.network.enabled) ∧
    (compiledFlags config &&& tapioFStorage ≠ 0 ↔ config.storage.enabled) ∧
    (compiledFlags config &&& tapioFContainer ≠ 0 ↔ config.container.enabled) ∧
    (compiledFlags config &&& tapioFNodePmc ≠ 0 ↔ config.nodePmc.enabled) ∧
    compiledFlags config &&&
      ~~~(tapioFNetwork ||| tapioFStorage ||| tapioFContainer ||| tapioFNodePmc) = 0 := by
  rw [compiledFlags]
  cases config.network.enabled <;> cases config.storage.enabled <;>
    cases config.container.enabled <;> cases config.nodePmc.enabled <;> decide

end Tapio.Agent
