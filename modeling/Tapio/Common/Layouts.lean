/-
# The layouts of the shared records

The five records that pass between the kernel and the agent, as the C headers and programs
declare them and as the agent mirrors them. The mirrors have the sizes of the originals,
and each side reads of a field what the other wrote to it. One Lean record can therefore
stand for both sides, which is how the probes and the observers are modelled.
-/
import Tapio.Common.Ebpf
import Tapio.Layout.Struct

namespace Tapio

open Layout

/-! ## As the kernel declares them -/

namespace C

def tapioConfig : Struct where
  packed := false
  fields := [
    ("abi_version", .scalar .u32),
    ("generation", .scalar .u32),
    ("flags", .scalar .u64),
    ("slow_io_threshold_ns", .scalar .u64),
    ("io_latency_critical_ns", .scalar .u64),
    ("conn_refused_window_ns", .scalar .u64),
    ("conn_refused_min_count", .scalar .u32),
    ("rtt_spike_multiplier", .scalar .u32),
    ("rtt_spike_abs_us", .scalar .u32),
    ("rtt_min_baseline_samples", .scalar .u32),
    ("ignore_exit_count", .scalar .u32),
    ("ignore_exit_codes", .array .i32 tapioConfigMaxIgnoreExitCodes),
    ("_pad", .scalar .u32)]

def networkEvent : Struct where
  packed := true
  fields := [
    ("config_generation", .scalar .u32),
    ("pid", .scalar .u32),
    ("src_ip", .scalar .u32),
    ("dst_ip", .scalar .u32),
    ("src_ipv6", .array .u8 16),
    ("dst_ipv6", .array .u8 16),
    ("src_port", .scalar .u16),
    ("dst_port", .scalar .u16),
    ("family", .scalar .u16),
    ("protocol", .scalar .u8),
    ("event_type", .scalar .u8),
    ("old_state", .scalar .u16),
    ("new_state", .scalar .u16),
    ("rtt_baseline_ms", .scalar .u16),
    ("rtt_current_ms", .scalar .u16),
    ("total_retrans", .scalar .u16),
    ("snd_cwnd", .scalar .u16),
    ("comm", .array .u8 16)]

def containerEvent : Struct where
  packed := true
  fields := [
    ("config_generation", .scalar .u32),
    ("memory_limit", .scalar .u64),
    ("memory_usage", .scalar .u64),
    ("timestamp_ns", .scalar .u64),
    ("cgroup_id", .scalar .u64),
    ("type", .scalar .u32),
    ("pid", .scalar .u32),
    ("tid", .scalar .u32),
    ("exit_code", .scalar .i32),
    ("signal", .scalar .i32)]

def storageEvent : Struct where
  packed := false
  fields := [
    ("config_generation", .scalar .u32),
    ("_pad0", .scalar .u32),
    ("timestamp_ns", .scalar .u64),
    ("latency_ns", .scalar .u64),
    ("cgroup_id", .scalar .u64),
    ("sector", .scalar .u64),
    ("dev_major", .scalar .u32),
    ("dev_minor", .scalar .u32),
    ("bytes", .scalar .u32),
    ("pid", .scalar .u32),
    ("error_code", .scalar .i32),
    ("opcode", .scalar .u8),
    ("severity", .scalar .u8),
    ("comm", .array .u8 16),
    ("_pad", .array .u8 2)]

def pmcEvent : Struct where
  packed := true
  fields := [
    ("config_generation", .scalar .u32),
    ("cpu", .scalar .u32),
    ("cycles", .scalar .u64),
    ("instructions", .scalar .u64),
    ("stall_cycles", .scalar .u64),
    ("timestamp", .scalar .u64)]

end C

/-! ## As the agent declares them -/

namespace Rust

def tapioConfig : Struct where
  packed := false
  fields := [
    ("abi_version", .scalar .u32),
    ("generation", .scalar .u32),
    ("flags", .scalar .u64),
    ("slow_io_threshold_ns", .scalar .u64),
    ("io_latency_critical_ns", .scalar .u64),
    ("conn_refused_window_ns", .scalar .u64),
    ("conn_refused_min_count", .scalar .u32),
    ("rtt_spike_multiplier", .scalar .u32),
    ("rtt_spike_abs_us", .scalar .u32),
    ("rtt_min_baseline_samples", .scalar .u32),
    ("ignore_exit_count", .scalar .u32),
    ("ignore_exit_codes", .array .i32 tapioConfigMaxIgnoreExitCodes),
    ("_pad", .scalar .u32)]

def networkEvent : Struct where
  packed := true
  fields := [
    ("config_generation", .scalar .u32),
    ("pid", .scalar .u32),
    ("src_ip", .scalar .u32),
    ("dst_ip", .scalar .u32),
    ("src_ipv6", .array .u8 16),
    ("dst_ipv6", .array .u8 16),
    ("src_port", .scalar .u16),
    ("dst_port", .scalar .u16),
    ("family", .scalar .u16),
    ("protocol", .scalar .u8),
    ("event_type", .scalar .u8),
    ("old_state", .scalar .u16),
    ("new_state", .scalar .u16),
    ("rtt_baseline_ms", .scalar .u16),
    ("rtt_current_ms", .scalar .u16),
    ("total_retrans", .scalar .u16),
    ("snd_cwnd", .scalar .u16),
    ("comm", .array .u8 16)]

def containerEvent : Struct where
  packed := true
  fields := [
    ("config_generation", .scalar .u32),
    ("memory_limit", .scalar .u64),
    ("memory_usage", .scalar .u64),
    ("timestamp_ns", .scalar .u64),
    ("cgroup_id", .scalar .u64),
    ("event_type", .scalar .u32),
    ("pid", .scalar .u32),
    ("tid", .scalar .u32),
    ("exit_code", .scalar .i32),
    ("signal", .scalar .i32)]

def storageEvent : Struct where
  packed := false
  fields := [
    ("config_generation", .scalar .u32),
    ("_pad0", .scalar .u32),
    ("timestamp_ns", .scalar .u64),
    ("latency_ns", .scalar .u64),
    ("cgroup_id", .scalar .u64),
    ("sector", .scalar .u64),
    ("dev_major", .scalar .u32),
    ("dev_minor", .scalar .u32),
    ("bytes", .scalar .u32),
    ("pid", .scalar .u32),
    ("error_code", .scalar .i32),
    ("opcode", .scalar .u8),
    ("severity", .scalar .u8),
    ("comm", .array .u8 16),
    ("_pad", .array .u8 2)]

def pmcEvent : Struct where
  packed := true
  fields := [
    ("config_generation", .scalar .u32),
    ("cpu", .scalar .u32),
    ("cycles", .scalar .u64),
    ("instructions", .scalar .u64),
    ("stall_cycles", .scalar .u64),
    ("timestamp", .scalar .u64)]

/-- The one field that the agent calls by another name, since `type` is a keyword. -/
def fieldName (name : String) : String := if name = "type" then "event_type" else name

end Rust

/-! ## The mirrors -/

theorem mirrors_tapioConfig :
    Mirrors id Rust.tapioConfig C.tapioConfig ∧
      Mirrors Rust.fieldName C.tapioConfig Rust.tapioConfig := by
  decide

theorem mirrors_networkEvent : Mirrors Rust.fieldName C.networkEvent Rust.networkEvent := by
  decide

theorem mirrors_containerEvent :
    Mirrors Rust.fieldName C.containerEvent Rust.containerEvent := by
  decide

theorem mirrors_storageEvent : Mirrors Rust.fieldName C.storageEvent Rust.storageEvent := by
  decide

theorem mirrors_pmcEvent : Mirrors Rust.fieldName C.pmcEvent Rust.pmcEvent := by
  decide

/-- **The kernel and the agent read the same bytes the same way**: the config as the agent
writes it and as the kernel would, and the events as the kernel writes them. -/
theorem records_sameBytes :
    SameBytes id Rust.tapioConfig C.tapioConfig ∧
    SameBytes Rust.fieldName C.tapioConfig Rust.tapioConfig ∧
    SameBytes Rust.fieldName C.networkEvent Rust.networkEvent ∧
    SameBytes Rust.fieldName C.containerEvent Rust.containerEvent ∧
    SameBytes Rust.fieldName C.storageEvent Rust.storageEvent ∧
    SameBytes Rust.fieldName C.pmcEvent Rust.pmcEvent :=
  ⟨sameBytes_of_mirrors mirrors_tapioConfig.1, sameBytes_of_mirrors mirrors_tapioConfig.2,
    sameBytes_of_mirrors mirrors_networkEvent, sameBytes_of_mirrors mirrors_containerEvent,
    sameBytes_of_mirrors mirrors_storageEvent, sameBytes_of_mirrors mirrors_pmcEvent⟩

/-! ## The modelled records -/

/-- The config with its padding. -/
def TapioConfig.assignment (config : TapioConfig) (pad : UInt32) :
    Assignment Rust.tapioConfig where
  values := [
    ("abi_version", ⟨.scalar .u32, config.abiVersion⟩),
    ("generation", ⟨.scalar .u32, config.generation⟩),
    ("flags", ⟨.scalar .u64, config.flags⟩),
    ("slow_io_threshold_ns", ⟨.scalar .u64, config.slowIoThresholdNs⟩),
    ("io_latency_critical_ns", ⟨.scalar .u64, config.ioLatencyCriticalNs⟩),
    ("conn_refused_window_ns", ⟨.scalar .u64, config.connRefusedWindowNs⟩),
    ("conn_refused_min_count", ⟨.scalar .u32, config.connRefusedMinCount⟩),
    ("rtt_spike_multiplier", ⟨.scalar .u32, config.rttSpikeMultiplier⟩),
    ("rtt_spike_abs_us", ⟨.scalar .u32, config.rttSpikeAbsUs⟩),
    ("rtt_min_baseline_samples", ⟨.scalar .u32, config.rttMinBaselineSamples⟩),
    ("ignore_exit_count", ⟨.scalar .u32, config.ignoreExitCount⟩),
    ("ignore_exit_codes", ⟨.array .i32 _, config.ignoreExitCodes⟩),
    ("_pad", ⟨.scalar .u32, pad⟩)]
  fits := rfl

theorem TapioConfig.assignment_injective (pad : UInt32) :
    Function.Injective fun config : TapioConfig => (config.assignment pad).values := by
  intro config config' h
  cases config
  cases config'
  simp only [assignment, List.cons.injEq, Prod.mk.injEq, Sigma.mk.injEq, heq_eq_eq] at h
  simp only [TapioConfig.mk.injEq]
  tauto

def NetworkEvent.assignment (event : NetworkEvent) : Assignment C.networkEvent where
  values := [
    ("config_generation", ⟨.scalar .u32, event.configGeneration⟩),
    ("pid", ⟨.scalar .u32, event.pid⟩),
    ("src_ip", ⟨.scalar .u32, event.srcIp⟩),
    ("dst_ip", ⟨.scalar .u32, event.dstIp⟩),
    ("src_ipv6", ⟨.array .u8 _, event.srcIpv6⟩),
    ("dst_ipv6", ⟨.array .u8 _, event.dstIpv6⟩),
    ("src_port", ⟨.scalar .u16, event.srcPort⟩),
    ("dst_port", ⟨.scalar .u16, event.dstPort⟩),
    ("family", ⟨.scalar .u16, event.family⟩),
    ("protocol", ⟨.scalar .u8, event.protocol⟩),
    ("event_type", ⟨.scalar .u8, event.eventType⟩),
    ("old_state", ⟨.scalar .u16, event.oldState⟩),
    ("new_state", ⟨.scalar .u16, event.newState⟩),
    ("rtt_baseline_ms", ⟨.scalar .u16, event.rttBaselineMs⟩),
    ("rtt_current_ms", ⟨.scalar .u16, event.rttCurrentMs⟩),
    ("total_retrans", ⟨.scalar .u16, event.totalRetrans⟩),
    ("snd_cwnd", ⟨.scalar .u16, event.sndCwnd⟩),
    ("comm", ⟨.array .u8 _, event.comm⟩)]
  fits := rfl

theorem NetworkEvent.assignment_injective :
    Function.Injective fun event : NetworkEvent => event.assignment.values := by
  intro event event' h
  cases event
  cases event'
  simp only [assignment, List.cons.injEq, Prod.mk.injEq, Sigma.mk.injEq, heq_eq_eq] at h
  simp only [NetworkEvent.mk.injEq]
  tauto

def ContainerEvent.assignment (event : ContainerEvent) : Assignment C.containerEvent where
  values := [
    ("config_generation", ⟨.scalar .u32, event.configGeneration⟩),
    ("memory_limit", ⟨.scalar .u64, event.memoryLimit⟩),
    ("memory_usage", ⟨.scalar .u64, event.memoryUsage⟩),
    ("timestamp_ns", ⟨.scalar .u64, event.timestampNs⟩),
    ("cgroup_id", ⟨.scalar .u64, event.cgroupId⟩),
    ("type", ⟨.scalar .u32, event.eventType⟩),
    ("pid", ⟨.scalar .u32, event.pid⟩),
    ("tid", ⟨.scalar .u32, event.tid⟩),
    ("exit_code", ⟨.scalar .i32, event.exitCode⟩),
    ("signal", ⟨.scalar .i32, event.signal⟩)]
  fits := rfl

theorem ContainerEvent.assignment_injective :
    Function.Injective fun event : ContainerEvent => event.assignment.values := by
  intro event event' h
  cases event
  cases event'
  simp only [assignment, List.cons.injEq, Prod.mk.injEq, Sigma.mk.injEq, heq_eq_eq] at h
  simp only [ContainerEvent.mk.injEq]
  tauto

def StorageEvent.assignment (event : StorageEvent) (pad0 : UInt32) (pad : List.Vector UInt8 2) :
    Assignment C.storageEvent where
  values := [
    ("config_generation", ⟨.scalar .u32, event.configGeneration⟩),
    ("_pad0", ⟨.scalar .u32, pad0⟩),
    ("timestamp_ns", ⟨.scalar .u64, event.timestampNs⟩),
    ("latency_ns", ⟨.scalar .u64, event.latencyNs⟩),
    ("cgroup_id", ⟨.scalar .u64, event.cgroupId⟩),
    ("sector", ⟨.scalar .u64, event.sector⟩),
    ("dev_major", ⟨.scalar .u32, event.devMajor⟩),
    ("dev_minor", ⟨.scalar .u32, event.devMinor⟩),
    ("bytes", ⟨.scalar .u32, event.bytes⟩),
    ("pid", ⟨.scalar .u32, event.pid⟩),
    ("error_code", ⟨.scalar .i32, event.errorCode⟩),
    ("opcode", ⟨.scalar .u8, event.opcode⟩),
    ("severity", ⟨.scalar .u8, event.severity⟩),
    ("comm", ⟨.array .u8 _, event.comm⟩),
    ("_pad", ⟨.array .u8 _, pad⟩)]
  fits := rfl

theorem StorageEvent.assignment_injective (pad0 : UInt32) (pad : List.Vector UInt8 2) :
    Function.Injective fun event : StorageEvent => (event.assignment pad0 pad).values := by
  intro event event' h
  cases event
  cases event'
  simp only [assignment, List.cons.injEq, Prod.mk.injEq, Sigma.mk.injEq, heq_eq_eq] at h
  simp only [StorageEvent.mk.injEq]
  tauto

def PmcEvent.assignment (event : PmcEvent) : Assignment C.pmcEvent where
  values := [
    ("config_generation", ⟨.scalar .u32, event.configGeneration⟩),
    ("cpu", ⟨.scalar .u32, event.cpu⟩),
    ("cycles", ⟨.scalar .u64, event.cycles⟩),
    ("instructions", ⟨.scalar .u64, event.instructions⟩),
    ("stall_cycles", ⟨.scalar .u64, event.stallCycles⟩),
    ("timestamp", ⟨.scalar .u64, event.timestamp⟩)]
  fits := rfl

theorem PmcEvent.assignment_injective :
    Function.Injective fun event : PmcEvent => event.assignment.values := by
  intro event event' h
  cases event
  cases event'
  simp only [assignment, List.cons.injEq, Prod.mk.injEq, Sigma.mk.injEq, heq_eq_eq] at h
  simp only [PmcEvent.mk.injEq]
  tauto

/-- What the one side reads determines the record of the other. -/
structure RecordsDetermined (e : Endian) : Prop where
  config : ∀ pad mem, mem.length = Rust.tapioConfig.sizeOf →
    Function.Injective fun config : TapioConfig =>
      C.tapioConfig.read e (Rust.tapioConfig.write e (config.assignment pad) mem)
  network : ∀ mem, mem.length = C.networkEvent.sizeOf →
    Function.Injective fun event : NetworkEvent =>
      Rust.networkEvent.read e (C.networkEvent.write e event.assignment mem)
  container : ∀ mem, mem.length = C.containerEvent.sizeOf →
    Function.Injective fun event : ContainerEvent =>
      Rust.containerEvent.read e (C.containerEvent.write e event.assignment mem)
  storage : ∀ pad0 pad mem, mem.length = C.storageEvent.sizeOf →
    Function.Injective fun event : StorageEvent =>
      Rust.storageEvent.read e (C.storageEvent.write e (event.assignment pad0 pad) mem)
  pmc : ∀ mem, mem.length = C.pmcEvent.sizeOf →
    Function.Injective fun event : PmcEvent =>
      Rust.pmcEvent.read e (C.pmcEvent.write e event.assignment mem)

theorem recordsDetermined (e : Endian) : RecordsDetermined e where
  config pad _ := mirrors_tapioConfig.1.injective (TapioConfig.assignment_injective pad) e
  network _ := mirrors_networkEvent.injective NetworkEvent.assignment_injective e
  container _ := mirrors_containerEvent.injective ContainerEvent.assignment_injective e
  storage pad0 pad _ :=
    mirrors_storageEvent.injective (StorageEvent.assignment_injective pad0 pad) e
  pmc _ := mirrors_pmcEvent.injective PmcEvent.assignment_injective e

end Tapio
