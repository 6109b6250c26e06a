/-
# From a probe's event to the wire

What a probe submits reaches its observer as the bytes of a record. The observer takes the
event out of them, and if it is an anomaly makes an occurrence of it, which the controller
sink turns into a wire event. Of a record that a probe wrote this succeeds: the record is
long enough, the event in it is the probe's, and what becomes of an anomaly is acceptable
to the controller and carries the generation that the probe stamped.
-/
import Tapio.Agent.Ticks
import Tapio.Ebpf.Emission

namespace Tapio.Pipeline

open Layout Agent Ebpf Wire

/-! ## Records -/

/-- Memory of the ring buffer that a probe has cleared. -/
def cleared (layout : Struct) : List UInt8 := List.replicate layout.sizeOf 0

theorem length_cleared (layout : Struct) : (cleared layout).length = layout.sizeOf :=
  List.length_replicate

/-- The bytes that a probe submits: it clears the memory and fills in the event. -/
def record (e : Endian) : KernelEvent → Record
  | .network event => C.networkEvent.write e event.assignment (cleared C.networkEvent)
  | .container event => C.containerEvent.write e event.assignment (cleared C.containerEvent)
  | .storage event =>
      C.storageEvent.write e (event.assignment 0 (List.Vector.replicate 2 0))
        (cleared C.storageEvent)
  | .nodePmc event => C.pmcEvent.write e event.assignment (cleared C.pmcEvent)

/-- The observer whose probes submit an event. -/
def source : KernelEvent → Observer
  | .network _ => .network
  | .container _ => .container
  | .storage _ => .storage
  | .nodePmc _ => .nodePmc

/-- A handler submits events of its own observer. -/
theorem source_of_mem_run {call : HandlerCall} {inv : Invocation} {maps : KernelMaps}
    {event : KernelEvent} (h : event ∈ (call.run inv maps).2) : source event = call.observer := by
  cases call with
  | blockRqIssue ctx => cases h
  | _ =>
      obtain ⟨inner, -, rfl⟩ := List.mem_map.mp h
      rfl

/-! ## The observers' loops -/

/-- What all loops share: the byte order of the machine, the encoding of the floats in the
occurrences, and the offset from boot time to wall time. -/
structure Surface where
  endian : Endian
  f64Bits : ℚ → UInt64
  bootOffsetNs : UInt64

def Surface.loop (p : Surface) : Observer → ObserverLoop
  | .network => networkLoop p.endian
  | .container => containerLoop p.endian p.bootOffsetNs
  | .storage => storageLoop p.endian p.f64Bits p.bootOffsetNs
  | .nodePmc => nodePmcLoop p.endian p.f64Bits p.bootOffsetNs

/-- The observer in the types of its occurrences. -/
def wireName : Observer → String
  | .network => "network"
  | .container => "container"
  | .storage => "storage"
  | .nodePmc => "node"

theorem wireName_injective {o o' : Observer} (h : wireName o = wireName o') : o = o' := by
  cases o <;> cases o' <;> first | rfl | exact absurd h (by decide)

/-- A record is exactly as long as its observer expects. -/
theorem record_not_tooShort (p : Surface) (event : KernelEvent) :
    (p.loop (source event)).tooShort (record p.endian event) = false := by
  have hlong : ∀ {length expected : ℕ}, length = expected → (length < expected : Bool) = false :=
    fun h => decide_eq_false h.ge.not_gt
  cases event with
  | network event =>
      exact hlong (Struct.length_write _ _ (length_cleared _))
  | container event =>
      exact hlong (Struct.length_write _ _ (length_cleared _))
  | storage event =>
      exact hlong (Struct.length_write _ _ (length_cleared _))
  | nodePmc event =>
      exact hlong (Struct.length_write _ _ (length_cleared _))

/-! ## From the record to the wire -/

/-- The event with what its observer takes from around it. -/
def observed (p : Surface) (around : Surroundings) : KernelEvent → ObservedEvent
  | .network event => .network event around.nowNanos
  | .container event => .container event p.bootOffsetNs around.enriched
  | .storage event => .storage event p.bootOffsetNs
  | .nodePmc event => .nodePmc event p.bootOffsetNs around.thresholds

/-- **What an observer makes of a record** is what it makes of the event in it. -/
theorem anomaly_record (p : Surface) (around : Surroundings) (event : KernelEvent) :
    ((p.loop (source event)).anomaly around (record p.endian event)).map Anomaly.occurrence =
      (observed p around event).emitted p.f64Bits around.id := by
  cases event with
  | network event =>
      simp [Surface.loop, source, networkLoop, record, observed, ObservedEvent.emitted,
        NetworkEvent.readUnaligned_write p.endian event (length_cleared _), Option.map_map,
        Function.comp_def]
  | container event =>
      simp [Surface.loop, source, containerLoop, record, observed, ObservedEvent.emitted,
        ContainerEvent.readUnaligned_write p.endian event (length_cleared _), Option.map_map,
        Function.comp_def]
  | storage event =>
      simp [Surface.loop, source, storageLoop, record, observed, ObservedEvent.emitted,
        StorageEvent.readUnaligned_write p.endian event _ _ (length_cleared _), Option.map_map,
        Function.comp_def]
  | nodePmc event =>
      simp [Surface.loop, source, nodePmcLoop, record, observed, ObservedEvent.emitted,
        PmcEvent.readUnaligned_write p.endian event (length_cleared _), Option.map_map,
        Function.comp_def]

/-- The wire event of an occurrence, if it has one. -/
def wireOf (occurrence : Common.Occurrence) : Option WireEvent :=
  (Sink.occurrenceToWireEvent occurrence.forSink).toOption

/-- The observer of a wire event is the one of the type. -/
theorem observer_of_sent {occurrence : Sink.Occurrence} {wire : WireEvent}
    (h : Sink.occurrenceToWireEvent occurrence = .ok wire) :
    Sink.observerFromType occurrence.occurrenceType = .ok wire.observer := by
  rw [Sink.occurrenceToWireEvent] at h
  cases hobserver : Sink.observerFromType occurrence.occurrenceType with
  | error error =>
      rw [hobserver] at h
      cases h
  | ok observer =>
      rw [hobserver] at h
      cases h
      rfl

/-- **What an observer emits** has a type that names the observer, and a wire event that the
controller accepts. -/
theorem acceptable_of_observed {p : Surface} {around : Surroundings} {event : KernelEvent}
    {occurrence : Common.Occurrence}
    (h : (observed p around event).emitted p.f64Bits around.id = some occurrence) :
    KernelType (wireName (source event)) occurrence.occurrenceType ∧
      ∃ wire, Agent.Acceptable occurrence event.configGeneration wire := by
  cases event with
  | network event =>
      obtain ⟨anomaly, hanomaly, rfl⟩ := Option.map_eq_some_iff.mp h
      exact ⟨Network.kernelType_of_classify hanomaly,
        Network.acceptable_of_classify around.id around.nowNanos hanomaly⟩
  | container event =>
      obtain ⟨anomaly, hanomaly, rfl⟩ := Option.map_eq_some_iff.mp h
      obtain ⟨wire, hwire, -⟩ :=
        Container.acceptable_of_classify around.id p.bootOffsetNs around.enriched hanomaly
      exact ⟨Container.kernelType_of_classify hanomaly, wire, hwire⟩
  | storage event =>
      obtain ⟨anomaly, hanomaly, rfl⟩ := Option.map_eq_some_iff.mp h
      obtain ⟨wire, hwire, -⟩ :=
        Storage.acceptable_of_classify p.f64Bits around.id p.bootOffsetNs hanomaly
      exact ⟨Storage.kernelType_of_classify hanomaly, wire, hwire⟩
  | nodePmc event =>
      obtain ⟨anomaly, hanomaly, rfl⟩ := Option.map_eq_some_iff.mp h
      obtain ⟨wire, hwire, -⟩ :=
        NodePmc.acceptable_of_classify p.f64Bits around.id p.bootOffsetNs hanomaly
      exact ⟨NodePmc.kernelType_of_classify hanomaly, wire, hwire⟩

/-- A wire event is what became of an event: of an anomaly that the event's observer found
in it, in some surroundings. -/
structure Evidence (p : Surface) (event : KernelEvent) (wire : WireEvent) : Prop where
  emitted : ∃ around occurrence,
    (observed p around event).emitted p.f64Bits around.id = some occurrence ∧
      Agent.Acceptable occurrence event.configGeneration wire
  observer : wire.observer = wireName (source event)

/-- **Every anomaly has a wire event**, and that is evidence of the event. -/
theorem evidence_of_anomaly {p : Surface} {around : Surroundings} {event : KernelEvent}
    {anomaly : Anomaly}
    (h : (p.loop (source event)).anomalyOf (record p.endian event, around) = some anomaly) :
    ∃ wire, wireOf anomaly.occurrence = some wire ∧ Evidence p event wire := by
  rw [ObserverLoop.anomalyOf] at h
  rw [record_not_tooShort, if_neg Bool.false_ne_true] at h
  have hemitted : (observed p around event).emitted p.f64Bits around.id =
      some anomaly.occurrence := by
    rw [← anomaly_record, h]
    rfl
  obtain ⟨htype, wire, hacceptable⟩ := acceptable_of_observed hemitted
  have hobserver := observer_of_sent hacceptable.sent
  rw [show anomaly.occurrence.forSink.occurrenceType = anomaly.occurrence.occurrenceType from rfl,
    htype.observerFromType] at hobserver
  refine ⟨wire, ?_, ⟨around, _, hemitted, hacceptable⟩, (Except.ok.inj hobserver).symm⟩
  rw [wireOf]
  rw [hacceptable.sent]
  rfl

end Tapio.Pipeline
