/-
# The request of an OTLP export

A batch becomes one request: a resource that names the service, and a log record for every
occurrence.
-/
import Tapio.Agent.Registration
import Tapio.Common.Document

namespace Tapio.Sink

/-! ## Messages -/

structure AnyValue where
  stringValue : String
  deriving DecidableEq

structure KeyValue where
  key : String
  value : Option AnyValue
  deriving DecidableEq

structure LogRecord where
  timeUnixNano : UInt64
  severityNumber : Int32
  body : Option AnyValue
  attributes : List KeyValue
  deriving DecidableEq

structure ScopeLogs where
  logRecords : List LogRecord

structure Resource where
  attributes : List KeyValue

structure ResourceLogs where
  resource : Option Resource
  scopeLogs : List ScopeLogs

structure ExportLogsServiceRequest where
  resourceLogs : List ResourceLogs

/-! ## Log records -/

inductive SeverityNumber
  | info
  | warn
  | error
  | fatal

def SeverityNumber.toInt32 : SeverityNumber → Int32
  | info => 9
  | warn => 13
  | error => 17
  | fatal => 21

def severityToOtlp : Severity → Int32
  | .debug | .info => SeverityNumber.info.toInt32
  | .warning => SeverityNumber.warn.toInt32
  | .error => SeverityNumber.error.toInt32
  | .critical => SeverityNumber.fatal.toInt32

def kv (key val : String) : KeyValue := ⟨key, some ⟨val⟩⟩

structure Entity where
  kind : String
  name : Option String

/-- What is known of the place of an occurrence. The observers leave it empty. -/
structure Context where
  node : Option String
  ns : Option String
  entities : List Entity

structure PlacedOccurrence extends Common.Occurrence where
  context : Option Context

def entityAttribute (entity : Entity) : Option KeyValue :=
  if entity.kind = "pod" then entity.name.map (kv "k8s.pod.name") else none

def contextAttributes (context : Context) : List KeyValue :=
  (context.node.map (kv "k8s.node.name")).toList ++
    (context.ns.map (kv "k8s.namespace.name")).toList ++
    context.entities.filterMap entityAttribute

/-- `parse` reads a timestamp, and gives its nanoseconds unless they leave 64 bits. -/
def timeUnixNano (parse : String → Option (Option Int64)) (timestamp : String) : UInt64 :=
  ((parse timestamp).map fun nanos => (nanos.getD 0).toUInt64).getD 0

def occurrenceToLogRecord (parse : String → Option (Option Int64)) (occ : PlacedOccurrence) :
    LogRecord where
  timeUnixNano := timeUnixNano parse occ.timestamp
  severityNumber := severityToOtlp occ.severity
  body := some ⟨(occ.error.map (·.message)).getD ""⟩
  attributes :=
    [kv "occurrence.id" occ.id, kv "anomaly.type" occ.occurrenceType,
      kv "tapio.source" occ.source] ++ (occ.context.map contextAttributes).getD []

def exportRequest (parse : String → Option (Option Int64)) (batch : List PlacedOccurrence) :
    ExportLogsServiceRequest where
  resourceLogs :=
    [{ resource := some
        ⟨[kv "service.name" "tapio", kv "service.version" Agent.packageVersion]⟩
       scopeLogs := [⟨batch.map (occurrenceToLogRecord parse)⟩] }]

end Tapio.Sink
