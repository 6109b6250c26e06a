/-
# Occurrences as texts

The document that the file sink writes of an occurrence, over several lines, and how the
tools read it back. A block that nothing fills is never written and passed over when it is
read. An occurrence comes back as it was when its data is what a sender holds in memory: no
null, objects that are maps, and floats that are read as they are printed.
-/
import Tapio.Common.Document
import Tapio.Json.Optional
import Tapio.Json.Pretty

namespace Tapio.Common

open Agent Json Sink

/-! ## Enumerations -/

def severityName : Severity → String
  | .debug => "debug"
  | .info => "info"
  | .warning => "warning"
  | .error => "error"
  | .critical => "critical"

def outcomeName : Outcome → String
  | .success => "success"
  | .failure => "failure"
  | .timeout => "timeout"
  | .inProgress => "in_progress"
  | .unknown => "unknown"

def severityNamed : String → Option Severity
  | "debug" => some .debug
  | "info" => some .info
  | "warning" => some .warning
  | "error" => some .error
  | "critical" => some .critical
  | _ => none

def outcomeNamed : String → Option Outcome
  | "success" => some .success
  | "failure" => some .failure
  | "timeout" => some .timeout
  | "in_progress" => some .inProgress
  | "unknown" => some .unknown
  | _ => none

theorem readVariant_severityName (severity : Severity) :
    readVariant severityNamed (.string (severityName severity)) = some severity := by
  cases severity <;> rfl

theorem readVariant_outcomeName (outcome : Outcome) :
    readVariant outcomeNamed (.string (outcomeName outcome)) = some outcome := by
  cases outcome <;> rfl

/-! ## Documents -/

def OccurrenceError.toValue (error : OccurrenceError) : Value :=
  .object [("code", .string error.code), ("message", .string error.message)]

def OccurrenceError.names : List String :=
  ["code", "message", "what_failed", "why_it_matters", "possible_causes", "suggested_fix"]

def OccurrenceError.deserialize : Reader OccurrenceError :=
  readStruct names fun find => do
    some {
      code := ← member "code" readString find
      message := ← member "message" readString find }

namespace Occurrence

def slots (occurrence : Occurrence) : List (String × Option Value) := [
  ("id", some (.string occurrence.id)),
  ("timestamp", some (.string occurrence.timestamp)),
  ("source", some (.string occurrence.source)),
  ("type", some (.string occurrence.occurrenceType)),
  ("severity", some (.string (severityName occurrence.severity))),
  ("outcome", some (.string (outcomeName occurrence.outcome))),
  ("protocol_version", some (.string occurrence.protocolVersion)),
  ("error", occurrence.error.map OccurrenceError.toValue),
  ("data", occurrence.data)]

def names : List String :=
  ["id", "timestamp", "source", "type", "severity", "outcome", "protocol_version", "error",
    "context", "reasoning", "history", "data"]

def toValue (occurrence : Occurrence) : Value := .object (present occurrence.slots)

def deserialize : Reader Occurrence :=
  readStruct names fun find => do
    some {
      id := ← member "id" readString find
      timestamp := ← member "timestamp" readString find
      source := ← member "source" readString find
      occurrenceType := ← member "type" readString find
      severity := ← member "severity" (readVariant severityNamed) find
      outcome := ← member "outcome" (readVariant outcomeNamed) find
      protocolVersion := ← member "protocol_version" readString find
      error := ← memberOption "error" OccurrenceError.deserialize find
      data := ← memberOption "data" readAny find }

/-- `serde_json::to_vec_pretty`, as a text. -/
def toStringPretty (format : FloatFormat) (occurrence : Occurrence) : String :=
  String.ofList (occurrence.toValue.encodePretty format 0)

/-- `serde_json::from_str`; the objects of the data go through maps. -/
def fromStr (readFloat : List Char → Option UInt64) (text : String) : Option Occurrence :=
  ((parse readFloat maxDepth text.toList).bind deserialize).map fun occurrence =>
    { occurrence with data := occurrence.data.map Value.collected }

/-! ## What is written is what is read -/

variable {format : FloatFormat} {readFloat : List Char → Option UInt64}

/-- Data that is read as it was written. -/
structure Lasting (format : FloatFormat) (readFloat : List Char → Option UInt64) (data : Value) :
    Prop where
  notNull : data ≠ .null
  ordered : data.Ordered
  legible : Legible format readFloat (maxDepth - 1) data

theorem deserialize_error (error : OccurrenceError) :
    OccurrenceError.deserialize error.toValue = some error := by
  rw [OccurrenceError.deserialize, OccurrenceError.toValue,
    readStruct_object (by simp [OccurrenceError.names]) (by simp)]
  simp [member, lookup_entry]

theorem legible_error (error : OccurrenceError) :
    Legible format readFloat (maxDepth - 1) error.toValue := by
  refine @legible_object format readFloat (maxDepth - 2) _ ?_
  simp

theorem deserialize_toValue {occurrence : Occurrence}
    (hdata : ∀ data ∈ occurrence.data, data ≠ .null) :
    deserialize occurrence.toValue = some occurrence := by
  have herror : readSlot OccurrenceError.deserialize
      (occurrence.error.map OccurrenceError.toValue) = some occurrence.error :=
    readSlot_map nofun fun error _ => deserialize_error error
  have hread : readSlot readAny occurrence.data = some occurrence.data := by
    have hslot := @readSlot_map Value (fun v => v) readAny occurrence.data hdata fun _ _ => rfl
    rwa [Option.map_id'] at hslot
  rw [deserialize, toValue, readStruct_present (by simp [slots, names]) (by simp [slots])]
  simp [slots, member, memberOption, lookup_entry, readVariant_severityName,
    readVariant_outcomeName, herror, hread]

theorem legible_toValue {occurrence : Occurrence}
    (hdata : ∀ data ∈ occurrence.data, Lasting format readFloat data) :
    Legible format readFloat maxDepth occurrence.toValue := by
  have herror : ∀ v ∈ occurrence.error.map OccurrenceError.toValue,
      Legible format readFloat (maxDepth - 1) v := by
    intro v hv
    obtain ⟨error, -, rfl⟩ := Option.map_eq_some_iff.mp hv
    exact legible_error error
  have hstring : ∀ text : String,
      ∀ v ∈ some (Value.string text), Legible format readFloat (maxDepth - 1) v := by
    rintro text _ ⟨⟩
    exact legible_string text
  have hlegible : ∀ v ∈ occurrence.data, Legible format readFloat (maxDepth - 1) v :=
    fun v hv => (hdata v hv).legible
  refine @legible_present format readFloat (maxDepth - 1) _ ?_
  simp only [slots, List.forall_mem_cons]
  exact ⟨hstring _, hstring _, hstring _, hstring _, hstring _, hstring _, hstring _, herror,
    hlegible, List.forall_mem_nil _⟩

/-- **A document is read as the occurrence it was written of.** -/
theorem fromStr_toStringPretty {occurrence : Occurrence}
    (hdata : ∀ data ∈ occurrence.data, Lasting format readFloat data) :
    fromStr readFloat (occurrence.toStringPretty format) = some occurrence := by
  have hlegible := legible_toValue hdata
  have hspells := spells_encodePretty hlegible.readable 0
  have hcollected : occurrence.data.map Value.collected = occurrence.data := by
    cases hvalue : occurrence.data with
    | none => rfl
    | some data => rw [Option.map_some, Value.collected_of_ordered (hdata data hvalue).ordered]
  rw [fromStr, toStringPretty, String.toList_ofList, parse_of_spells hspells hlegible.nests,
    Option.bind_some, deserialize_toValue fun data hmem => (hdata data hmem).notNull,
    Option.map_some, hcollected]

end Occurrence

end Tapio.Common
