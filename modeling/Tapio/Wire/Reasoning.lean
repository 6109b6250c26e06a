/-
# The boundary between facts and reasoning

An event carries facts, and its facts must not carry the fields that interpret
them. `rejectReasoningFields` looks for such fields along the entries of nested
objects and stops at every other value, arrays included. So the boundary is
complete for facts without arrays of objects, and the theorems below say exactly
where it is not.
-/
import Tapio.Wire.Messages

namespace Tapio.Wire

open Json Checks

/-- A reasoning key occurs somewhere inside the value, at any depth and through
arrays as well as objects. -/
def HasReasoning (facts : Value) : Prop :=
  facts.HasKey Value.Child isReasoningKey

/-- A reasoning key occurs in an object that nested objects alone lead to. -/
def ReachesReasoning (facts : Value) : Prop :=
  facts.HasKey Value.Field isReasoningKey

theorem ReachesReasoning.hasReasoning {facts : Value} (h : ReachesReasoning facts) :
    HasReasoning facts :=
  h.mono fun _ _ => Value.Field.child

theorem rejectReasoningEntries_ok_iff (path : String) (map : List (String × Value)) :
    rejectReasoningEntries path map = .ok () ↔
      ∀ e ∈ map, isReasoningKey e.1 = false ∧
        rejectReasoningFields (path ++ "." ++ e.1) e.2 = .ok () := by
  induction map with
  | nil => simp [rejectReasoningEntries]
  | cons e rest ih =>
      obtain ⟨key, child⟩ := e
      simp [rejectReasoningEntries, guard_eq_ok_iff, bind_eq_ok_iff, ih, and_assoc]

/-- A value that is no object is accepted, and nested objects lead nowhere in
it. -/
theorem rejectReasoningFields_of_ne {facts : Value} (path : String)
    (hfacts : ∀ map, facts ≠ .object map) :
    rejectReasoningFields path facts = .ok () ↔ ¬ ReachesReasoning facts := by
  refine iff_of_true ?_ (Value.not_hasKey_field hfacts)
  cases facts with
  | object map => exact absurd rfl (hfacts map)
  | _ => simp [rejectReasoningFields]

/-- The recursion accepts exactly the values without a reasoning key along
nested objects. -/
theorem rejectReasoningFields_ok_iff (facts : Value) (path : String) :
    rejectReasoningFields path facts = .ok () ↔ ¬ ReachesReasoning facts := by
  induction facts using Value.induct generalizing path with
  | hobject map ih =>
      rw [rejectReasoningFields, rejectReasoningEntries_ok_iff, ReachesReasoning,
        Value.hasKey_field_object]
      push Not
      refine forall₂_congr fun e he => ?_
      rw [ih e he, ← Bool.not_eq_true, ReachesReasoning]
  | hnull => exact rejectReasoningFields_of_ne path (by simp)
  | hbool b => exact rejectReasoningFields_of_ne path (by simp)
  | hnumber n => exact rejectReasoningFields_of_ne path (by simp)
  | hstring s => exact rejectReasoningFields_of_ne path (by simp)
  | harray elements _ => exact rejectReasoningFields_of_ne path (by simp)

/-- The checks of a batch that do not look at the facts of its events. -/
structure PassesOtherChecks (req : EventBatchRequest) (maxBatchEvents : ℕ) : Prop where
  version : req.wireVersion = Wire.wireVersion
  agentId : Text.trim req.agentId ≠ ""
  nodeName : Text.trim req.nodeName ≠ ""
  nonempty : req.events ≠ []
  size : req.events.length ≤ maxBatchEvents
  eventType : ∀ event ∈ req.events, Text.trim event.eventType ≠ ""
  observer : ∀ event ∈ req.events, Text.trim event.observer ≠ ""
  kernelType : ∀ event ∈ req.events, Text.startsWith event.eventType "kernel."

theorem EventBatchRequest.validate_iff_reaches (req : EventBatchRequest)
    (maxBatchEvents : ℕ) :
    req.validate maxBatchEvents = .ok () ↔
      PassesOtherChecks req maxBatchEvents ∧
        ∀ event ∈ req.events, ¬ ReachesReasoning event.facts := by
  simp only [EventBatchRequest.validate_ok_iff, WireEvent.validate_ok_iff,
    rejectReasoningFields_ok_iff]
  apply Iff.intro
  · intro ⟨hversion, hagent, hnode, hne, hsize, hevents⟩
    exact ⟨⟨hversion, hagent, hnode, hne, hsize, fun e he => (hevents e he).1,
      fun e he => (hevents e he).2.1, fun e he => (hevents e he).2.2.1⟩,
      fun e he => (hevents e he).2.2.2⟩
  · intro ⟨h, hfacts⟩
    exact ⟨h.version, h.agentId, h.nodeName, h.nonempty, h.size, fun e he =>
      ⟨h.eventType e he, h.observer e he, h.kernelType e he, hfacts e he⟩⟩

/-- The boundary is complete for a batch: if it is accepted, no reasoning key
occurs anywhere inside the facts of its events, and if none does and the other
checks pass, it is accepted. -/
def BoundaryComplete (req : EventBatchRequest) (maxBatchEvents : ℕ) : Prop :=
  (req.validate maxBatchEvents = .ok () →
      ∀ event ∈ req.events, ¬ HasReasoning event.facts) ∧
    (PassesOtherChecks req maxBatchEvents →
      (∀ event ∈ req.events, ¬ HasReasoning event.facts) →
        req.validate maxBatchEvents = .ok ())

/-- **The boundary leaks below arrays, and nowhere else.** It is complete for a
batch exactly when it is not the case that the batch passes the other checks,
carries a reasoning key somewhere, and carries none that nested objects alone
lead to. -/
theorem boundaryComplete_iff (req : EventBatchRequest) (maxBatchEvents : ℕ) :
    BoundaryComplete req maxBatchEvents ↔
      ¬ (PassesOtherChecks req maxBatchEvents ∧
        (∃ event ∈ req.events, HasReasoning event.facts) ∧
        ∀ event ∈ req.events, ¬ ReachesReasoning event.facts) := by
  rw [BoundaryComplete, EventBatchRequest.validate_iff_reaches]
  apply Iff.intro
  · intro ⟨hsound, _⟩ ⟨hother, ⟨event, he, hreasoning⟩, hreach⟩
    exact hsound ⟨hother, hreach⟩ event he hreasoning
  · intro hleak
    refine ⟨fun ⟨hother, hreach⟩ event he hreasoning => ?_, fun hother hclean => ?_⟩
    · exact hleak ⟨hother, ⟨event, he, hreasoning⟩, hreach⟩
    · exact ⟨hother, fun event he h => hclean event he h.hasReasoning⟩

/-- A batch whose only event hides a reasoning field in an array. -/
def arrayBatch : EventBatchRequest where
  wireVersion := Wire.wireVersion
  agentId := "node/worker-1"
  nodeName := "worker-1"
  sequence := 1
  sentAtUnixNanos := 0
  events := [{
    eventType := "kernel.network.connection_refused"
    timestampUnixNanos := 0
    observer := "network"
    severity := .warning
    facts := .object
      [("causes", .array [.object [("reasoning", .string "upstream outage")]])] }]

/-- The batch is accepted, with its reasoning field. -/
theorem not_boundaryComplete_array : ¬ BoundaryComplete arrayBatch 256 := by
  intro ⟨hsound, _⟩
  refine hsound (by decide) _ List.mem_cons_self
    ⟨[("reasoning", .string "upstream outage")], ?_, _, List.mem_cons_self, by decide⟩
  exact .head (.field List.mem_cons_self) (.single (.element List.mem_cons_self))

end Tapio.Wire
