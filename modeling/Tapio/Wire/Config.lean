/-
# The compiled config on the wire

What a profile compiles to: per observer whether it is enabled, and its
thresholds in kernel units.
-/
import Mathlib.Tactic.TypeStar

namespace Tapio.Wire

structure CompiledNetwork where
  enabled : Bool
  rttSpikeRatio : UInt32
  rttSpikeAbsUs : UInt32
  rttMinBaselineSamples : UInt32
  connRefusedWindowNs : UInt64
  connRefusedMinCount : UInt32
  deriving DecidableEq

structure CompiledStorage where
  enabled : Bool
  slowIoWarningNs : UInt64
  slowIoCriticalNs : UInt64
  deriving DecidableEq

structure CompiledContainer where
  enabled : Bool
  ignoreExitCodes : List Int32
  deriving DecidableEq

structure CompiledNodePmc where
  enabled : Bool
  stallWarningPermille : UInt32
  stallCriticalPermille : UInt32
  ipcDegradationMilli : UInt32
  deriving DecidableEq

structure CompiledConfig where
  network : CompiledNetwork
  storage : CompiledStorage
  container : CompiledContainer
  nodePmc : CompiledNodePmc
  deriving DecidableEq

end Tapio.Wire
