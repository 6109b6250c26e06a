/-
# The compiled config as JSON

The serialization of a compiled config, over which its hash is taken. Different configs
are serialized differently.
-/
import Tapio.Json.Unambiguous
import Tapio.Wire.Config

namespace Tapio.Wire

open Json

def CompiledNetwork.encode (network : CompiledNetwork) : List Char :=
  encodeObject [
    ("enabled", encodeBool network.enabled),
    ("rtt_spike_ratio", encodeNat network.rttSpikeRatio.toNat),
    ("rtt_spike_abs_us", encodeNat network.rttSpikeAbsUs.toNat),
    ("rtt_min_baseline_samples", encodeNat network.rttMinBaselineSamples.toNat),
    ("conn_refused_window_ns", encodeNat network.connRefusedWindowNs.toNat),
    ("conn_refused_min_count", encodeNat network.connRefusedMinCount.toNat)]

def CompiledStorage.encode (storage : CompiledStorage) : List Char :=
  encodeObject [
    ("enabled", encodeBool storage.enabled),
    ("slow_io_warning_ns", encodeNat storage.slowIoWarningNs.toNat),
    ("slow_io_critical_ns", encodeNat storage.slowIoCriticalNs.toNat)]

def CompiledContainer.encode (container : CompiledContainer) : List Char :=
  encodeObject [
    ("enabled", encodeBool container.enabled),
    ("ignore_exit_codes",
      encodeArray (container.ignoreExitCodes.map fun code => encodeInt code.toInt))]

def CompiledNodePmc.encode (nodePmc : CompiledNodePmc) : List Char :=
  encodeObject [
    ("enabled", encodeBool nodePmc.enabled),
    ("stall_warning_permille", encodeNat nodePmc.stallWarningPermille.toNat),
    ("stall_critical_permille", encodeNat nodePmc.stallCriticalPermille.toNat),
    ("ipc_degradation_milli", encodeNat nodePmc.ipcDegradationMilli.toNat)]

def CompiledConfig.encode (config : CompiledConfig) : List Char :=
  encodeObject [
    ("network", config.network.encode),
    ("storage", config.storage.encode),
    ("container", config.container.encode),
    ("node_pmc", config.nodePmc.encode)]

/-- `serde_json::to_vec`. These types cannot fail to serialize. -/
def CompiledConfig.toVec (config : CompiledConfig) : List UInt8 := utf8 config.encode

/-! ## What the serialization determines -/

theorem unambiguous_word32 : Unambiguous fun n : UInt32 => encodeNat n.toNat :=
  unambiguous_encodeNat.comp fun _ _ => UInt32.toNat_inj.mp

theorem unambiguous_word64 : Unambiguous fun n : UInt64 => encodeNat n.toNat :=
  unambiguous_encodeNat.comp fun _ _ => UInt64.toNat_inj.mp

theorem CompiledNetwork.unambiguous_encode : Unambiguous CompiledNetwork.encode := by
  refine unambiguous_object [
    .of "enabled" CompiledNetwork.enabled unambiguous_encodeBool,
    .of "rtt_spike_ratio" rttSpikeRatio unambiguous_word32,
    .of "rtt_spike_abs_us" rttSpikeAbsUs unambiguous_word32,
    .of "rtt_min_baseline_samples" rttMinBaselineSamples unambiguous_word32,
    .of "conn_refused_window_ns" connRefusedWindowNs unambiguous_word64,
    .of "conn_refused_min_count" connRefusedMinCount unambiguous_word32]
    (fun _ => rfl) fun a b hfields => ?_
  cases a
  cases b
  simpa [Field.of] using hfields

theorem CompiledStorage.unambiguous_encode : Unambiguous CompiledStorage.encode := by
  refine unambiguous_object [
    .of "enabled" CompiledStorage.enabled unambiguous_encodeBool,
    .of "slow_io_warning_ns" slowIoWarningNs unambiguous_word64,
    .of "slow_io_critical_ns" slowIoCriticalNs unambiguous_word64]
    (fun _ => rfl) fun a b hfields => ?_
  cases a
  cases b
  simpa [Field.of] using hfields

theorem CompiledContainer.unambiguous_encode : Unambiguous CompiledContainer.encode := by
  have hcode : Unambiguous fun code : Int32 => encodeInt code.toInt :=
    unambiguous_encodeInt.comp fun _ _ => Int32.toInt_inj.mp
  have hcodes := unambiguous_array hcode fun code =>
    fun tail rest => encodeInt_append_ne (by decide) (by decide) code.toInt rest tail
  refine unambiguous_object [
    .of "enabled" CompiledContainer.enabled unambiguous_encodeBool,
    .of "ignore_exit_codes" ignoreExitCodes hcodes]
    (fun _ => rfl) fun a b hfields => ?_
  cases a
  cases b
  simpa [Field.of] using hfields

theorem CompiledNodePmc.unambiguous_encode : Unambiguous CompiledNodePmc.encode := by
  refine unambiguous_object [
    .of "enabled" CompiledNodePmc.enabled unambiguous_encodeBool,
    .of "stall_warning_permille" stallWarningPermille unambiguous_word32,
    .of "stall_critical_permille" stallCriticalPermille unambiguous_word32,
    .of "ipc_degradation_milli" ipcDegradationMilli unambiguous_word32]
    (fun _ => rfl) fun a b hfields => ?_
  cases a
  cases b
  simpa [Field.of] using hfields

theorem CompiledConfig.unambiguous_encode : Unambiguous CompiledConfig.encode := by
  refine unambiguous_object [
    .of "network" CompiledConfig.network CompiledNetwork.unambiguous_encode,
    .of "storage" CompiledConfig.storage CompiledStorage.unambiguous_encode,
    .of "container" CompiledConfig.container CompiledContainer.unambiguous_encode,
    .of "node_pmc" CompiledConfig.nodePmc CompiledNodePmc.unambiguous_encode]
    (fun _ => rfl) fun a b hfields => ?_
  cases a
  cases b
  simpa [Field.of] using hfields

/-- Different configs are serialized to different bytes. -/
theorem CompiledConfig.toVec_injective : Function.Injective CompiledConfig.toVec := by
  intro a b hbytes
  exact CompiledConfig.unambiguous_encode.injective (utf8_injective hbytes)

end Tapio.Wire
