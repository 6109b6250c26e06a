/-
# From occurrences to wire events

What the controller sink makes of an occurrence: the observer is the middle
segment of its type, the timestamp is parsed back into nanoseconds, and the data
become the facts. The parser gives zero for a text it cannot read.
-/
import Tapio.Numeric.Saturating
import Tapio.Text.Rust
import Tapio.Wire.Messages

namespace Tapio.Sink

open Wire Numeric

inductive Severity
  | debug
  | info
  | warning
  | error
  | critical
  deriving DecidableEq

structure Occurrence where
  timestamp : String
  occurrenceType : String
  severity : Severity
  data : Option Json.Value

inductive SinkError
  | connection (error : String)
  | send (error : String)
  | serialization (error : String)
  deriving DecidableEq

/-! ## Timestamps -/

def parseDate (date : String) : Option (Int64 × Int64 × Int64) :=
  match Text.split date '-' with
  | year :: month :: day :: _ => do
      return (← Text.parseI64 year, ← Text.parseI64 month, ← Text.parseI64 day)
  | _ => none

def parseTime (time : String) : Option (UInt64 × UInt64 × UInt64) :=
  match Text.split time ':' with
  | hour :: minute :: second :: _ => do
      return (← Text.parseU64 hour, ← Text.parseU64 minute, ← Text.parseU64 second)
  | _ => none

/-- The leading digits, at most nine of them, padded with zeros to nine. -/
def fractionNanos (fraction : String) : UInt64 :=
  let digits := (fraction.toList.take 9).takeWhile Char.isDigit
  let value := digits.foldl
    (fun value digit =>
      saturatingAdd (saturatingMul value 10) (UInt64.ofNat (digit.toNat - '0'.toNat))) 0
  (List.replicate (9 - digits.length) ()).foldl (fun value _ => saturatingMul value 10) value

/-- The days from the epoch to a date of the Gregorian calendar. -/
def daysFromCivil (year month day : Int64) : Int64 :=
  let year := year - if month ≤ 2 then 1 else 0
  let era := (if year ≥ 0 then year else year - 399) / 400
  let yoe := year - era * 400
  let month := month + if month > 2 then -3 else 9
  let doy := (153 * month + 2) / 5 + day - 1
  let doe := yoe * 365 + yoe / 4 - yoe / 100 + doy
  era * 146097 + doe - 719468

def timestampToUnixNanos (timestamp : String) : UInt64 :=
  match Text.splitOnce timestamp 'T' with
  | none => 0
  | some (date, time) =>
      match parseDate date with
      | none => 0
      | some (year, month, day) =>
          let time :=
            ((Text.stripSuffix time "+00:00").or (Text.stripSuffix time "Z")).getD time
          let (clock, fraction) := (Text.splitOnce time '.').getD (time, "")
          match parseTime clock with
          | none => 0
          | some (hour, minute, second) =>
              let days := daysFromCivil year month day
              if days < 0 then 0
              else
                saturatingAdd
                  (saturatingMul
                    (saturatingAdd (saturatingMul days.toUInt64 86400)
                      (hour * 3600 + minute * 60 + second))
                    1000000000)
                  (fractionNanos fraction)

/-! ## Events -/

def observerFromType (eventType : String) : Except SinkError String :=
  match Text.split eventType '.' with
  | [kernel, observer, _] =>
      if kernel = "kernel" ∧ observer ≠ "" then .ok observer
      else .error (.serialization ("invalid kernel event type: " ++ eventType))
  | _ => .error (.serialization ("invalid kernel event type: " ++ eventType))

def mapSeverity : Severity → EventSeverity
  | .debug => .debug
  | .info => .info
  | .warning => .warning
  | .error => .error
  | .critical => .critical

def occurrenceToWireEvent (occurrence : Occurrence) : Except SinkError WireEvent := do
  let observer ← observerFromType occurrence.occurrenceType
  return {
    eventType := occurrence.occurrenceType
    timestampUnixNanos := timestampToUnixNanos occurrence.timestamp
    observer := observer
    severity := mapSeverity occurrence.severity
    facts := occurrence.data.getD (.object []) }

end Tapio.Sink
