/-
# What a probe invocation reads and writes

The kernel runs a probe to completion with one set of answers from its helpers:
the content of the config map, the clock, the current task, and whether the ring
buffer has room. `Invocation` collects these answers, so a handler is a function
of the invocation, the tracepoint context and the maps.

Hash maps are partial functions. An update with `BPF_NOEXIST` fails exactly on a
present key: a full LRU map makes room by evicting, and evictions are steps of
their own where a run has any. Metrics are kept as the sum over the CPUs, which
is what userspace reads.
-/
import Mathlib.Logic.Function.Basic
import Tapio.Common.Ebpf

namespace Tapio.Ebpf

universe u v

/-- The helpers' answers during one invocation. -/
structure Invocation where
  /-- The element the lookup in `tapio_config` finds. -/
  configMap : Option TapioConfig
  ktimeNs : UInt64
  cgroupId : UInt64
  pidTgid : UInt64
  comm : List.Vector UInt8 16
  /-- Whether a ring-buffer reservation succeeds. -/
  ringbufFree : Bool
  deriving DecidableEq

/-- The config snapshot of an invocation, if the map holds the expected layout
version. -/
def tapioConfigSnapshot (configMap : Option TapioConfig) : Option TapioConfig :=
  configMap.filter TapioConfig.hasValidAbi

/-- The snapshot, if the observer's flag is set in it. -/
def Invocation.enabledConfig (inv : Invocation) (flag : UInt64) : Option TapioConfig :=
  (tapioConfigSnapshot inv.configMap).filter fun cfg => cfg.flags &&& flag != 0

/-- The enabling config is the element of the map, of the expected layout version and
with the flag set. -/
theorem Invocation.enabledConfig_eq_some_iff {inv : Invocation} {flag : UInt64}
    {cfg : TapioConfig} :
    inv.enabledConfig flag = some cfg ↔
      inv.configMap = some cfg ∧ cfg.abiVersion = tapioConfigAbiVersion ∧
        cfg.flags &&& flag ≠ 0 := by
  simp [Invocation.enabledConfig, tapioConfigSnapshot, TapioConfig.hasValidAbi,
    Option.filter_eq_some_iff]

/-! ## Hash maps -/

/-- The content of a hash map. -/
abbrev HashMap (κ : Type u) (ν : Type v) := κ → Option ν

namespace HashMap

variable {κ : Type u} {ν : Type v} [DecidableEq κ]

/-- The map without any element. -/
def empty : HashMap κ ν := fun _ => none

/-- Update with `BPF_NOEXIST`: nothing on a present key. -/
def updateNoExist (m : HashMap κ ν) (key : κ) (value : ν) : Option (HashMap κ ν) :=
  match m key with
  | none => some (Function.update m key (some value))
  | some _ => none

/-- Write through the pointer a lookup returned. -/
def modify (m : HashMap κ ν) (key : κ) (f : ν → ν) : HashMap κ ν :=
  Function.update m key ((m key).map f)

def delete (m : HashMap κ ν) (key : κ) : HashMap κ ν :=
  Function.update m key none

omit [DecidableEq κ] in
@[simp]
theorem empty_apply (k : κ) : (empty : HashMap κ ν) k = none := rfl

@[simp]
theorem modify_apply (m : HashMap κ ν) (key k : κ) (f : ν → ν) :
    m.modify key f k = if k = key then (m key).map f else m k :=
  Function.update_apply ..

@[simp]
theorem delete_apply (m : HashMap κ ν) (key k : κ) :
    m.delete key k = if k = key then none else m k :=
  Function.update_apply ..

/-- Deleting an absent key changes nothing. -/
theorem delete_of_none {m : HashMap κ ν} {key : κ} (h : m key = none) :
    m.delete key = m := by
  rw [delete, ← h, Function.update_eq_self]

end HashMap

/-! ## Metrics -/

def metricLostEvents : UInt32 := 0
def metricStorageAmbiguousIo : UInt32 := 1

/-- The number of slots of `tapio_metrics`. -/
def tapioMetricsMaxEntries : UInt32 := 512

/-- The counters, summed over the CPUs. -/
abbrev Metrics := UInt32 → ℕ

/-- Increment a counter; an index outside the map is ignored. -/
def metricInc (index : UInt32) (metrics : Metrics) : Metrics :=
  if index < tapioMetricsMaxEntries then
    Function.update metrics index (metrics index + 1)
  else metrics

end Tapio.Ebpf
