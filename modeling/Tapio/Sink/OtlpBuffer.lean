/-
# The buffer of the OTLP sink

`send` and `flush` take the whole buffer out under a lock and export it after the lock has
been released, so several exports can be making their attempts at a time, in any order of
steps. What was sent is what the batches hold, one batch after the other, and then the
buffer: the branch that drops the oldest of a full buffer is never taken, since a buffer that
has the size of a batch is taken out at once. Every batch is with the call that took it until
that returns what the export alone would have returned.
-/
import Mathlib.Data.List.Perm.Basic
import Tapio.Sink.Otlp
import Tapio.Sink.OtlpRequest
import Tapio.Transit.Fifo
import Tapio.Transition.Trace

namespace Tapio.Sink

open Transit Transition

/-- The sink, and what its crates do: read a timestamp, write a message, compress it. -/
structure OtlpParams where
  sink : OtlpSink
  batchSize : ℕ
  flushInterval : ℕ
  parse : String → Option (Option Int64)
  encodeToVec : ExportLogsServiceRequest → List UInt8
  gzip : List UInt8 → Except SinkError (List UInt8)

def maxBufferMultiplier : ℕ := 10

def OtlpParams.maxBuffer (p : OtlpParams) : ℕ := p.batchSize * maxBufferMultiplier

def OtlpParams.requestBytes (p : OtlpParams) (batch : List PlacedOccurrence) : List UInt8 :=
  p.encodeToVec (exportRequest p.parse batch)

/-- An export of a batch, as if it were the only one. -/
def OtlpParams.exportBatch (p : OtlpParams) (network : ℕ → Network)
    (batch : List PlacedOccurrence) : Except SinkError Unit :=
  p.sink.exportBatch (fun _ => p.gzip (p.requestBytes batch)) network
    (batch.map fun occ => occ.forSink)

/-! ## One attempt at a time -/

/-- What an attempt decides, if it is not followed by another. -/
def OtlpSink.attempt (sink : OtlpSink) (network : Network) (body : List UInt8) (attempt : ℕ) :
    Option (Except SinkError Unit) :=
  match sink.httpPost network sink.logsUrl body with
  | .ok status =>
      if 200 ≤ status ∧ status < 300 then some (.ok ())
      else if status = 429 ∨ 500 ≤ status then
        if attempt < sink.retryBackoffMs.length then none
        else some (.error (.send "OTLP export: retries exhausted"))
      else some (.error (.send ("OTLP export failed: HTTP " ++ toString status)))
  | .error e => if attempt < sink.retryBackoffMs.length then none else some (.error e)

/-- A call that has taken the buffer. -/
structure Export where
  batch : List PlacedOccurrence
  body : List UInt8
  /-- What its attempts have met. -/
  met : List Network

/-- A call that has returned. -/
structure Exported where
  batch : List PlacedOccurrence
  met : List Network
  result : Except SinkError Unit

structure OtlpState where
  buffer : List PlacedOccurrence
  lastFlush : ℕ
  exporting : List Export
  returned : List Exported

/-- The start of an export, up to its first attempt. -/
def OtlpParams.startExport (p : OtlpParams) (s : OtlpState) (batch : List PlacedOccurrence) :
    OtlpState :=
  if batch.isEmpty then { s with returned := s.returned ++ [⟨batch, [], .ok ()⟩] }
  else
    match p.gzip (p.requestBytes batch) with
    | .error e => { s with returned := s.returned ++ [⟨batch, [], .error e⟩] }
    | .ok body => { s with exporting := s.exporting ++ [⟨batch, body, []⟩] }

/-- A call takes the buffer. -/
def OtlpState.take (s : OtlpState) (p : OtlpParams) (now : ℕ) : OtlpState :=
  p.startExport { s with buffer := [], lastFlush := now } s.buffer

/-- The number of the oldest occurrences that `send` drains from a full buffer. -/
def OtlpState.drainCount (s : OtlpState) (p : OtlpParams) : ℕ :=
  if p.maxBuffer ≤ s.buffer.length then s.buffer.length - p.batchSize else 0

def OtlpState.push (s : OtlpState) (p : OtlpParams) (occ : PlacedOccurrence) : OtlpState :=
  { s with buffer := s.buffer.drop (s.drainCount p) ++ [occ] }

def OtlpState.shouldFlush (s : OtlpState) (p : OtlpParams) (now : ℕ) : Bool :=
  p.batchSize ≤ s.buffer.length || p.flushInterval ≤ now - s.lastFlush

/-- The clock is read again when the buffer is taken. -/
def OtlpState.send (s : OtlpState) (p : OtlpParams) (occ : PlacedOccurrence) (now later : ℕ) :
    OtlpState :=
  if (s.push p occ).shouldFlush p now then (s.push p occ).take p later else s.push p occ

def OtlpState.flush (s : OtlpState) (p : OtlpParams) (now : ℕ) : OtlpState :=
  if s.buffer.isEmpty then s else s.take p now

/-- One of the exports makes its next attempt. -/
def OtlpState.attempt (s : OtlpState) (p : OtlpParams) (index : ℕ) (e : Export)
    (network : Network) : OtlpState :=
  match p.sink.attempt network e.body e.met.length with
  | none =>
      { s with exporting := s.exporting.set index { e with met := e.met ++ [network] } }
  | some result =>
      { s with
        exporting := s.exporting.eraseIdx index
        returned := s.returned ++ [⟨e.batch, e.met ++ [network], result⟩] }

inductive OtlpStep
  | send (occ : PlacedOccurrence) (now later : ℕ)
  | flush (now : ℕ)
  /-- The export that is at the index among those under way. -/
  | attempt (index : ℕ) (network : Network)

def otlpStep (p : OtlpParams) (s : OtlpState) : OtlpStep → Option OtlpState
  | .send occ now later => some (s.send p occ now later)
  | .flush now => some (s.flush p now)
  | .attempt index network =>
      (s.exporting[index]?).map fun e => s.attempt p index e network

def OtlpState.new (now : ℕ) : OtlpState := ⟨[], now, [], []⟩

end Tapio.Sink
