/-
# Events in words

The fields of an event that are reported as texts: the name of the process, the
addresses, and the numbers that stand for states and operations.
-/
import Tapio.Common.Ebpf
import Tapio.Numeric.Binary64
import Tapio.Text.IpAddress

namespace Tapio

open Numeric

/-- A process name, up to the first NUL byte. -/
def commStr (comm : List.Vector UInt8 16) : String :=
  let name := comm.toList.takeWhile (· ≠ 0)
  (String.fromUTF8? ⟨name.toArray⟩).getD "<invalid>"

namespace NetworkEvent

def isIpv6 (event : NetworkEvent) : Bool := event.family = afInet6

/-- The octets of an address of version 4, the least significant first. -/
def ipv4Str (ip : UInt32) : String :=
  Text.formatIpv4 [ip.toUInt8, (ip >>> 8).toUInt8, (ip >>> 16).toUInt8, (ip >>> 24).toUInt8]

def srcIpStr (event : NetworkEvent) : String :=
  if event.isIpv6 then Text.formatIpv6 event.srcIpv6.toList else ipv4Str event.srcIp

def dstIpStr (event : NetworkEvent) : String :=
  if event.isIpv6 then Text.formatIpv6 event.dstIpv6.toList else ipv4Str event.dstIp

end NetworkEvent

def tcpStateName (state : UInt16) : String :=
  let names := [
    (tcpEstablished, "ESTABLISHED"),
    (tcpSynSent, "SYN_SENT"),
    (tcpSynRecv, "SYN_RECV"),
    (tcpFinWait1, "FIN_WAIT1"),
    (tcpFinWait2, "FIN_WAIT2"),
    (tcpTimeWait, "TIME_WAIT"),
    (tcpClose, "CLOSE"),
    (tcpCloseWait, "CLOSE_WAIT"),
    (tcpLastAck, "LAST_ACK"),
    (tcpListen, "LISTEN")]
  (names.lookup state).getD "UNKNOWN"

namespace StorageEvent

/-- The latency in milliseconds, as floating point computes it. -/
def latencyMs (event : StorageEvent) : ℚ :=
  F64.rounded (F64.rounded event.latencyNs.toNat / 1000000)

def hasError (event : StorageEvent) : Bool := event.errorCode ≠ 0

end StorageEvent

def opName (opcode : UInt8) : String :=
  if opcode = opRead then "read" else if opcode = opWrite then "write" else "unknown"

end Tapio
