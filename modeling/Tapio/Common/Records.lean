/-
# Events read from ring-buffer records

The agent reads an event out of the bytes of a record, field by field at the offsets of the
layout. What is read of the bytes that a probe wrote is the event that it wrote.
-/
import Tapio.Common.Layouts

namespace Tapio

open Layout

/-- The value of a type at an offset. -/
def valueAt (e : Endian) (data : List UInt8) (type : FieldType) (offset : ℕ) : type.Value :=
  type.decode e (loadAt data offset type.size)

def NetworkEvent.readUnaligned (e : Endian) (data : List UInt8) : NetworkEvent where
  configGeneration := valueAt e data (.scalar .u32) 0
  pid := valueAt e data (.scalar .u32) 4
  srcIp := valueAt e data (.scalar .u32) 8
  dstIp := valueAt e data (.scalar .u32) 12
  srcIpv6 := valueAt e data (.array .u8 16) 16
  dstIpv6 := valueAt e data (.array .u8 16) 32
  srcPort := valueAt e data (.scalar .u16) 48
  dstPort := valueAt e data (.scalar .u16) 50
  family := valueAt e data (.scalar .u16) 52
  protocol := valueAt e data (.scalar .u8) 54
  eventType := valueAt e data (.scalar .u8) 55
  oldState := valueAt e data (.scalar .u16) 56
  newState := valueAt e data (.scalar .u16) 58
  rttBaselineMs := valueAt e data (.scalar .u16) 60
  rttCurrentMs := valueAt e data (.scalar .u16) 62
  totalRetrans := valueAt e data (.scalar .u16) 64
  sndCwnd := valueAt e data (.scalar .u16) 66
  comm := valueAt e data (.array .u8 16) 68

def ContainerEvent.readUnaligned (e : Endian) (data : List UInt8) : ContainerEvent where
  configGeneration := valueAt e data (.scalar .u32) 0
  memoryLimit := valueAt e data (.scalar .u64) 4
  memoryUsage := valueAt e data (.scalar .u64) 12
  timestampNs := valueAt e data (.scalar .u64) 20
  cgroupId := valueAt e data (.scalar .u64) 28
  eventType := valueAt e data (.scalar .u32) 36
  pid := valueAt e data (.scalar .u32) 40
  tid := valueAt e data (.scalar .u32) 44
  exitCode := valueAt e data (.scalar .i32) 48
  signal := valueAt e data (.scalar .i32) 52

def StorageEvent.readUnaligned (e : Endian) (data : List UInt8) : StorageEvent where
  configGeneration := valueAt e data (.scalar .u32) 0
  timestampNs := valueAt e data (.scalar .u64) 8
  latencyNs := valueAt e data (.scalar .u64) 16
  cgroupId := valueAt e data (.scalar .u64) 24
  sector := valueAt e data (.scalar .u64) 32
  devMajor := valueAt e data (.scalar .u32) 40
  devMinor := valueAt e data (.scalar .u32) 44
  bytes := valueAt e data (.scalar .u32) 48
  pid := valueAt e data (.scalar .u32) 52
  errorCode := valueAt e data (.scalar .i32) 56
  opcode := valueAt e data (.scalar .u8) 60
  severity := valueAt e data (.scalar .u8) 61
  comm := valueAt e data (.array .u8 16) 62

def PmcEvent.readUnaligned (e : Endian) (data : List UInt8) : PmcEvent where
  configGeneration := valueAt e data (.scalar .u32) 0
  cpu := valueAt e data (.scalar .u32) 4
  cycles := valueAt e data (.scalar .u64) 8
  instructions := valueAt e data (.scalar .u64) 16
  stallCycles := valueAt e data (.scalar .u64) 24
  timestamp := valueAt e data (.scalar .u64) 32

/-! ## What was written is read -/

theorem NetworkEvent.readUnaligned_write (e : Endian) (event : NetworkEvent) {mem : List UInt8}
    (hmem : mem.length = C.networkEvent.sizeOf) :
    readUnaligned e (C.networkEvent.write e event.assignment mem) = event := by
  have hread : ∀ data, C.networkEvent.read e data = (readUnaligned e data).assignment.values :=
    fun _ => rfl
  exact assignment_injective ((hread _).symm.trans (Struct.read_write e event.assignment hmem))

theorem ContainerEvent.readUnaligned_write (e : Endian) (event : ContainerEvent)
    {mem : List UInt8} (hmem : mem.length = C.containerEvent.sizeOf) :
    readUnaligned e (C.containerEvent.write e event.assignment mem) = event := by
  have hread : ∀ data, C.containerEvent.read e data = (readUnaligned e data).assignment.values :=
    fun _ => rfl
  exact assignment_injective ((hread _).symm.trans (Struct.read_write e event.assignment hmem))

theorem StorageEvent.readUnaligned_write (e : Endian) (event : StorageEvent) (pad0 : UInt32)
    (pad : List.Vector UInt8 2) {mem : List UInt8} (hmem : mem.length = C.storageEvent.sizeOf) :
    readUnaligned e (C.storageEvent.write e (event.assignment pad0 pad) mem) = event := by
  have hread : ∀ data, C.storageEvent.read e data = ((readUnaligned e data).assignment
      (valueAt e data (.scalar .u32) 4) (valueAt e data (.array .u8 2) 78)).values :=
    fun _ => rfl
  have hvalues := (hread _).symm.trans (Struct.read_write e (event.assignment pad0 pad) hmem)
  cases event
  simp only [assignment, List.cons.injEq, Prod.mk.injEq, Sigma.mk.injEq, heq_eq_eq] at hvalues
  rw [readUnaligned, StorageEvent.mk.injEq]
  tauto

theorem PmcEvent.readUnaligned_write (e : Endian) (event : PmcEvent) {mem : List UInt8}
    (hmem : mem.length = C.pmcEvent.sizeOf) :
    readUnaligned e (C.pmcEvent.write e event.assignment mem) = event := by
  have hread : ∀ data, C.pmcEvent.read e data = (readUnaligned e data).assignment.values :=
    fun _ => rfl
  exact assignment_injective ((hread _).symm.trans (Struct.read_write e event.assignment hmem))

end Tapio
