/-
# The records shared by the probes and the agent

`TapioConfig` is the runtime config that the agent writes into each observer's
`tapio_config` map and every probe reads back, and the events are what the probes
put in their ring buffers. Both sides mirror the same C layouts, so one definition
serves both; explicit padding is left out, since no code reads it.
-/
import Mathlib.Data.Vector.Basic

namespace Tapio

/-- The layout version a probe insists on. -/
def tapioConfigAbiVersion : UInt32 := 2

def tapioFNetwork : UInt64 := (1 : UInt64) <<< 0
def tapioFStorage : UInt64 := (1 : UInt64) <<< 1
def tapioFContainer : UInt64 := (1 : UInt64) <<< 2
def tapioFNodePmc : UInt64 := (1 : UInt64) <<< 3

/-- The number of slots for ignored exit codes. -/
abbrev tapioConfigMaxIgnoreExitCodes : ℕ := 16

/-- The agent-to-kernel runtime config. -/
structure TapioConfig where
  abiVersion : UInt32
  generation : UInt32
  flags : UInt64
  /-- Storage latency warning; zero is inert. -/
  slowIoThresholdNs : UInt64
  /-- Storage latency critical; zero is inert. -/
  ioLatencyCriticalNs : UInt64
  connRefusedWindowNs : UInt64
  connRefusedMinCount : UInt32
  rttSpikeMultiplier : UInt32
  rttSpikeAbsUs : UInt32
  rttMinBaselineSamples : UInt32
  ignoreExitCount : UInt32
  ignoreExitCodes : List.Vector Int32 tapioConfigMaxIgnoreExitCodes
  deriving DecidableEq

namespace TapioConfig

/-- The all-zero config, which no probe accepts. -/
def default : TapioConfig where
  abiVersion := 0
  generation := 0
  flags := 0
  slowIoThresholdNs := 0
  ioLatencyCriticalNs := 0
  connRefusedWindowNs := 0
  connRefusedMinCount := 0
  rttSpikeMultiplier := 0
  rttSpikeAbsUs := 0
  rttMinBaselineSamples := 0
  ignoreExitCount := 0
  ignoreExitCodes := List.Vector.replicate _ 0

def hasValidAbi (config : TapioConfig) : Bool :=
  config.abiVersion == tapioConfigAbiVersion

end TapioConfig

/-! ## Storage events -/

def opRead : UInt8 := 0
def opWrite : UInt8 := 1

def storageSeverityWarning : UInt8 := 1
def storageSeverityCritical : UInt8 := 2

/-- What the storage probe reports of an anomalous completion. -/
structure StorageEvent where
  configGeneration : UInt32
  timestampNs : UInt64
  latencyNs : UInt64
  cgroupId : UInt64
  sector : UInt64
  devMajor : UInt32
  devMinor : UInt32
  bytes : UInt32
  pid : UInt32
  errorCode : Int32
  opcode : UInt8
  severity : UInt8
  comm : List.Vector UInt8 16
  deriving DecidableEq

/-! ## Network events -/

def netEventStateChange : UInt8 := 0
def netEventRstReceived : UInt8 := 1
def netEventRetransmit : UInt8 := 2
def netEventRttSpike : UInt8 := 3

def afInet : UInt16 := 2
def afInet6 : UInt16 := 10

def tcpEstablished : UInt16 := 1
def tcpSynSent : UInt16 := 2
def tcpSynRecv : UInt16 := 3
def tcpFinWait1 : UInt16 := 4
def tcpFinWait2 : UInt16 := 5
def tcpTimeWait : UInt16 := 6
def tcpClose : UInt16 := 7
def tcpCloseWait : UInt16 := 8
def tcpLastAck : UInt16 := 9
def tcpListen : UInt16 := 10

/-- What the network probe reports. Each event type uses its own fields and leaves
the others zero. -/
structure NetworkEvent where
  configGeneration : UInt32
  pid : UInt32
  srcIp : UInt32
  dstIp : UInt32
  srcIpv6 : List.Vector UInt8 16
  dstIpv6 : List.Vector UInt8 16
  srcPort : UInt16
  dstPort : UInt16
  family : UInt16
  protocol : UInt8
  eventType : UInt8
  oldState : UInt16
  newState : UInt16
  rttBaselineMs : UInt16
  rttCurrentMs : UInt16
  totalRetrans : UInt16
  sndCwnd : UInt16
  comm : List.Vector UInt8 16
  deriving DecidableEq

/-! ## Container events -/

def containerEventOom : UInt32 := 0
def containerEventExit : UInt32 := 1

/-- What the container probe reports of a process that was killed or exited. -/
structure ContainerEvent where
  configGeneration : UInt32
  memoryLimit : UInt64
  memoryUsage : UInt64
  timestampNs : UInt64
  cgroupId : UInt64
  eventType : UInt32
  pid : UInt32
  tid : UInt32
  exitCode : Int32
  signal : Int32
  deriving DecidableEq

/-! ## PMC events -/

/-- A sample of the hardware counters of one CPU. -/
structure PmcEvent where
  configGeneration : UInt32
  cpu : UInt32
  cycles : UInt64
  instructions : UInt64
  stallCycles : UInt64
  timestamp : UInt64
  deriving DecidableEq

end Tapio
