/-
# Occurrences as documents

The structured event that the agent emits and the tools read back: its fields as far as
anything fills them, its builders and its validation. The id and the clock are given.
-/
import Tapio.Agent.NodePmc

namespace Tapio.Common

open Sink Agent

structure OccurrenceError where
  code : String
  message : String
  deriving DecidableEq

structure Occurrence where
  id : String
  timestamp : String
  source : String
  occurrenceType : String
  severity : Severity
  outcome : Outcome
  protocolVersion : String
  error : Option OccurrenceError
  data : Option Json.Value

namespace Occurrence

/-- A new occurrence at a time in words. -/
def new (id timestamp occurrenceType : String) (severity : Severity) (outcome : Outcome) :
    Occurrence where
  id := id
  timestamp := timestamp
  source := "tapio"
  occurrenceType := occurrenceType
  severity := severity
  outcome := outcome
  protocolVersion := "1.0"
  error := none
  data := none

/-- A new occurrence at a time in nanoseconds. -/
def newAt (id occurrenceType : String) (severity : Severity) (outcome : Outcome)
    (wallNs : UInt64) : Occurrence :=
  new id (unixNanosToRfc3339 wallNs) occurrenceType severity outcome

def withError (occurrence : Occurrence) (code message : String) : Occurrence :=
  { occurrence with error := some ⟨code, message⟩ }

def withData (occurrence : Occurrence) (data : Json.Value) : Occurrence :=
  { occurrence with data := some data }

/-- What the controller sink reads of an occurrence. -/
def forSink (occurrence : Occurrence) : Sink.Occurrence where
  timestamp := occurrence.timestamp
  occurrenceType := occurrence.occurrenceType
  severity := occurrence.severity
  data := occurrence.data

/-- A type of exactly three segments, none of them empty. -/
def WellTyped (occurrenceType : String) : Prop :=
  (Text.split occurrenceType '.').length = 3 ∧ ∀ segment ∈ Text.split occurrenceType '.',
    segment ≠ ""

instance : DecidablePred WellTyped := fun _ => inferInstanceAs (Decidable (_ ∧ _))

def sourceErrors (source : String) : List String :=
  if source = "" then ["source is required"] else []

def typeErrors (occurrenceType : String) : List String :=
  if occurrenceType = "" then ["type is required"]
  else if WellTyped occurrenceType then []
  else ["type must have exactly 3 non-empty dot-separated segments"]

def protocolErrors (protocolVersion : String) : List String :=
  if protocolVersion = "" then ["protocol_version is required"] else []

/-- All that is wrong with an occurrence. -/
def validate (occurrence : Occurrence) : Except (List String) Unit :=
  let errors := sourceErrors occurrence.source ++ typeErrors occurrence.occurrenceType ++
    protocolErrors occurrence.protocolVersion
  if errors = [] then .ok () else .error errors

theorem typeErrors_eq_nil_iff (occurrenceType : String) :
    typeErrors occurrenceType = [] ↔ occurrenceType ≠ "" ∧ WellTyped occurrenceType := by
  unfold typeErrors
  split
  · next hempty => simp [hempty]
  · next hne =>
      split
      · next htyped => simp [hne, htyped]
      · next htyped => simp [htyped]

theorem validate_ok_iff (occurrence : Occurrence) :
    occurrence.validate = .ok () ↔
      occurrence.source ≠ "" ∧
        (occurrence.occurrenceType ≠ "" ∧ WellTyped occurrence.occurrenceType) ∧
        occurrence.protocolVersion ≠ "" := by
  have hsource : sourceErrors occurrence.source = [] ↔ occurrence.source ≠ "" := by
    simp [sourceErrors]
  have hprotocol : protocolErrors occurrence.protocolVersion = [] ↔
      occurrence.protocolVersion ≠ "" := by
    simp [protocolErrors]
  rw [← hsource, ← hprotocol, ← typeErrors_eq_nil_iff]
  simp [validate]

end Occurrence

end Tapio.Common
