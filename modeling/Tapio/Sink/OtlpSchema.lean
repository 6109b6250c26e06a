/-
# The schema of an OTLP request

The messages of a request as fields with the tags and types that the collectors know.
Whatever its texts, a request that is written by the schema is read by it as it was.
-/
import Tapio.Protobuf.Schema
import Tapio.Sink.OtlpRequest

namespace Tapio.Sink

open Protobuf

def AnyValue.schema : Schema AnyValue where
  fields value := fieldsAt (tag 1) (scalarValues .ofString "" value.stringValue)
  read fields := do return ⟨← readLast WireValue.toString? "" (valuesOf (tag 1) fields)⟩
  read_fields value _ := by
    rw [valuesOf_fieldsAt, readLast_scalarValues toString?_ofString]
    rfl

def KeyValue.schema : Schema KeyValue where
  fields pair :=
    fieldsAt (tag 1) (scalarValues .ofString "" pair.key) ++
      fieldsAt (tag 2) (AnyValue.schema.optionalValues pair.value)
  read fields := do
    return {
      key := ← readLast WireValue.toString? "" (valuesOf (tag 1) fields)
      value := ← AnyValue.schema.readOptional (valuesOf (tag 2) fields) }
  read_fields pair h := by
    have hvalue : AnyValue.schema.readOptional (AnyValue.schema.optionalValues pair.value) =
        some pair.value :=
      Schema.readOptional_optionalValues (fun _ => List.mem_append_right _) h
    simp (disch := decide) only [valuesOf_append, valuesOf_fieldsAt, valuesOf_fieldsAt_of_ne,
      List.append_nil, List.nil_append, readLast_scalarValues toString?_ofString, hvalue]
    rfl

def LogRecord.schema : Schema LogRecord where
  fields record :=
    fieldsAt (tag 1) (scalarValues .fixed64 0 record.timeUnixNano) ++
      (fieldsAt (tag 2) (scalarValues .ofInt32 0 record.severityNumber) ++
        (fieldsAt (tag 5) (AnyValue.schema.optionalValues record.body) ++
          fieldsAt (tag 6) (KeyValue.schema.repeatedValues record.attributes)))
  read fields := do
    return {
      timeUnixNano := ← readLast WireValue.toFixed64? 0 (valuesOf (tag 1) fields)
      severityNumber := ← readLast WireValue.toInt32? 0 (valuesOf (tag 2) fields)
      body := ← AnyValue.schema.readOptional (valuesOf (tag 5) fields)
      attributes := ← KeyValue.schema.readRepeated (valuesOf (tag 6) fields) }
  read_fields record h := by
    have hbody : AnyValue.schema.readOptional (AnyValue.schema.optionalValues record.body) =
        some record.body :=
      Schema.readOptional_optionalValues (fun _ hmem => List.mem_append_right _
        (List.mem_append_right _ (List.mem_append_left _ hmem))) h
    have hattributes :
        KeyValue.schema.readRepeated (KeyValue.schema.repeatedValues record.attributes) =
          some record.attributes :=
      Schema.readRepeated_repeatedValues (fun _ hmem => List.mem_append_right _
        (List.mem_append_right _ (List.mem_append_right _ hmem))) h
    simp (disch := decide) only [valuesOf_append, valuesOf_fieldsAt, valuesOf_fieldsAt_of_ne,
      List.append_nil, List.nil_append, readLast_scalarValues toFixed64?_fixed64,
      readLast_scalarValues toInt32?_ofInt32, hbody, hattributes]
    rfl

def ScopeLogs.schema : Schema ScopeLogs where
  fields logs := fieldsAt (tag 2) (LogRecord.schema.repeatedValues logs.logRecords)
  read fields := do return ⟨← LogRecord.schema.readRepeated (valuesOf (tag 2) fields)⟩
  read_fields logs h := by
    rw [valuesOf_fieldsAt, Schema.readRepeated_repeatedValues (fun _ => id) h]
    rfl

def Resource.schema : Schema Resource where
  fields resource := fieldsAt (tag 1) (KeyValue.schema.repeatedValues resource.attributes)
  read fields := do return ⟨← KeyValue.schema.readRepeated (valuesOf (tag 1) fields)⟩
  read_fields resource h := by
    rw [valuesOf_fieldsAt, Schema.readRepeated_repeatedValues (fun _ => id) h]
    rfl

def ResourceLogs.schema : Schema ResourceLogs where
  fields logs :=
    fieldsAt (tag 1) (Resource.schema.optionalValues logs.resource) ++
      fieldsAt (tag 2) (ScopeLogs.schema.repeatedValues logs.scopeLogs)
  read fields := do
    return {
      resource := ← Resource.schema.readOptional (valuesOf (tag 1) fields)
      scopeLogs := ← ScopeLogs.schema.readRepeated (valuesOf (tag 2) fields) }
  read_fields logs h := by
    have hresource : Resource.schema.readOptional (Resource.schema.optionalValues logs.resource) =
        some logs.resource :=
      Schema.readOptional_optionalValues (fun _ => List.mem_append_left _) h
    have hscopes : ScopeLogs.schema.readRepeated (ScopeLogs.schema.repeatedValues logs.scopeLogs) =
        some logs.scopeLogs :=
      Schema.readRepeated_repeatedValues (fun _ => List.mem_append_right _) h
    simp (disch := decide) only [valuesOf_append, valuesOf_fieldsAt, valuesOf_fieldsAt_of_ne,
      List.append_nil, List.nil_append, hresource, hscopes]
    rfl

def ExportLogsServiceRequest.schema : Schema ExportLogsServiceRequest where
  fields request := fieldsAt (tag 1) (ResourceLogs.schema.repeatedValues request.resourceLogs)
  read fields := do return ⟨← ResourceLogs.schema.readRepeated (valuesOf (tag 1) fields)⟩
  read_fields request h := by
    rw [valuesOf_fieldsAt, Schema.readRepeated_repeatedValues (fun _ => id) h]
    rfl

end Tapio.Sink
