/-
# Events with other floats

A float among the facts of an event may be read as another one than was written. No check of
a batch looks at a number, so a batch passes them as it was read if it does as it was sent.
-/
import Tapio.Json.Numbers
import Tapio.Wire.RoundTrip

namespace Tapio.Wire

open Json Checks

variable {rounded : UInt64 → UInt64}

def WireEvent.mapFloats (rounded : UInt64 → UInt64) (event : WireEvent) : WireEvent :=
  { event with facts := event.facts.mapFloats rounded }

def EventBatchRequest.mapFloats (rounded : UInt64 → UInt64) (req : EventBatchRequest) :
    EventBatchRequest :=
  { req with events := req.events.map (WireEvent.mapFloats rounded) }

/-! ## Checks -/

theorem rejectReasoningEntries_map {f : Number → Number} {entries : List (String × Value)}
    (h : ∀ e ∈ entries, ∀ path,
      rejectReasoningFields path (e.2.mapNumbers f) = rejectReasoningFields path e.2)
    (path : String) :
    rejectReasoningEntries path (entries.map fun e => (e.1, e.2.mapNumbers f)) =
      rejectReasoningEntries path entries := by
  induction entries with
  | nil => rfl
  | cons e rest ih =>
      obtain ⟨he, hrest⟩ := List.forall_mem_cons.mp h
      rw [List.map_cons, rejectReasoningEntries, rejectReasoningEntries, he, ih hrest]

/-- The facts are looked through for keys only. -/
theorem rejectReasoningFields_mapNumbers (f : Number → Number) (path : String) (facts : Value) :
    rejectReasoningFields path (facts.mapNumbers f) = rejectReasoningFields path facts := by
  induction facts using Value.induct generalizing path with
  | hobject entries ih =>
      rw [Value.mapNumbers, mapNumbersEntries_eq_map, rejectReasoningFields,
        rejectReasoningFields]
      exact rejectReasoningEntries_map (fun e he path => ih e he path) path
  | hnull => rfl
  | hbool b => rfl
  | hnumber n => rfl
  | hstring s => rfl
  | harray elements _ => rfl

theorem WireEvent.validate_mapFloats (event : WireEvent) :
    (event.mapFloats rounded).validate = event.validate := by
  rw [validate, validate, mapFloats, Value.mapFloats]
  dsimp only
  rw [rejectReasoningFields_mapNumbers]

/-- **The checks do not look at floats.** -/
theorem EventBatchRequest.validate_mapFloats (req : EventBatchRequest) (maxBatchEvents : ℕ) :
    (req.mapFloats rounded).validate maxBatchEvents = req.validate maxBatchEvents := by
  rw [validate, validate, mapFloats]
  simp only [List.isEmpty_map, List.length_map, List.forM_map, WireEvent.validate_mapFloats]

/-! ## Batches that are read -/

variable {format : FloatFormat} {readFloat : List Char → Option UInt64}

/-- The facts of all events can be written. -/
def EventBatchRequest.Writable (req : EventBatchRequest) : Prop :=
  ∀ event ∈ req.events, Json.Writable maxFactsDepth event.facts

theorem EventBatchRequest.toVec_mapFloats
    (h : ∀ bits, format.text (rounded bits) = format.text bits) (req : EventBatchRequest) :
    (req.mapFloats rounded).toVec format = req.toVec format := by
  have hevent : ∀ event ∈ req.events,
      (event.mapFloats rounded).encode format = event.encode format := by
    intro event _
    have hfacts := Value.encode_mapNumbers (Number.encode_mapFloat h) event.facts
    rw [WireEvent.encode, WireEvent.encode, WireEvent.mapFloats, Value.mapFloats, hfacts]
  rw [toVec, toVec, encode, encode, mapFloats, List.map_map]
  dsimp only [Function.comp_def]
  rw [List.map_congr_left hevent]

/-- **A batch is read with its floats rounded** as their texts are. -/
theorem EventBatchRequest.fromSliceStrict_toVec_mapFloats {req : EventBatchRequest}
    (hreq : req.Writable) (htext : ∀ bits, format.text (rounded bits) = format.text bits)
    (hread : ∀ bits, (Number.float (rounded bits)).Readable format readFloat) :
    fromSliceStrict readFloat (req.toVec format) = some (req.mapFloats rounded) := by
  rw [← toVec_mapFloats htext]
  refine fromSliceStrict_toVec (List.forall_mem_map.mpr fun event hevent => ?_)
  have hfacts := hreq event hevent
  exact ⟨hfacts.ordered.mapNumbers _, hfacts.legible_mapFloats hread⟩

end Tapio.Wire
