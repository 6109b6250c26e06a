/-
# The controller sink

`send` puts an event into a bounded queue. A worker thread takes events out of it
into a buffer and, when the buffer is full, on request, after a timeout and at
the end, splits the buffer into batches and posts them, each a few times if need
be. Everything that is lost on the way is meant to be counted.

Every step of the worker loop and every call is one step here. What the clock and
the network decide is part of the step: when a timeout fires, and what each
attempt to post comes back with. The lengths of the JSON encodings, which splitting
estimates a request's size by, are parameters.

The ledger beside the code's own state numbers the `send` calls that return `Ok`
and records how each of their events leaves.
-/
import Tapio.Agent.Client
import Tapio.Sink.Events
import Tapio.Transit.Ledger

namespace Tapio.Sink

open Wire Numeric Agent Transit

def defaultQueueCapacity : ℕ := 4096

def defaultMaxRequestBytes : UInt64 := 256 * 1024

def maxRetries : ℕ := 3

/-- The bound on the number of events that the worker validates its requests
with. -/
def usizeMax : ℕ := 2 ^ 64 - 1

structure SinkParams where
  controller : ControllerConfig
  queueCapacity : ℕ
  maxRequestBytes : UInt64
  /-- The length of an event's encoding. -/
  serializedEventLen : WireEvent → UInt64
  /-- The length of the encoding of a request without events. -/
  serializedEmptyBatchLen : UInt64

/-- The ways an event leaves the sink. -/
inductive Exit
  /-- It was part of a batch of which a POST got a success status. -/
  | delivered
  /-- It was counted in `sink_drops_total`. -/
  | counted
  /-- It was part of a batch that the worker itself did not let pass. -/
  | refused
  deriving DecidableEq

abbrev QueuedEvent := Item WireEvent

inductive WorkerMessage
  | event (event : QueuedEvent)
  | flush

structure Worker where
  sequence : UInt64
  buffer : List QueuedEvent

/-- `sink_drops_total` of the sink by reason, and `controller_send_failures_total`
of the events. -/
structure SinkMetrics where
  queueFull : ℕ
  workerStopped : ℕ
  sendFailed : ℕ
  eventSendFailures : ℕ

def SinkMetrics.sinkDropsTotal (metrics : SinkMetrics) : ℕ :=
  metrics.queueFull + metrics.workerStopped + metrics.sendFailed

/-- Why the worker flushes its buffer. -/
inductive FlushCause
  | batchFull
  | requested
  | timedOut
  | disconnected
  deriving DecidableEq

/-- Where the worker is in its loop. -/
inductive WorkerPhase
  | readingLimits
  /-- In `recv_timeout`, with the limit on the number of events it has read. -/
  | waiting (maxBatchEvents : UInt64)
  /-- Posting the batches of a flush that are left. -/
  | flushing (cause : FlushCause) (batches : List (List QueuedEvent))
      (lastError : Option ExchangeError)
  | stopped

structure SinkState where
  /-- Whether the sending end of the queue still exists. -/
  tx : Bool
  queue : List WorkerMessage
  state : ControllerState
  worker : Worker
  phase : WorkerPhase
  metrics : SinkMetrics
  /-- The answers to the flush requests, newest first. -/
  acks : List (Except ExchangeError Unit)
  /-- The batches the worker has numbered, oldest first. -/
  made : List EventBatchRequest
  admitted : ℕ
  left : List (ℕ × Exit)

/-! ## Splitting the buffer -/

/-- The comma before an event that is not the first. -/
def separatorLen (current : List QueuedEvent) : UInt64 := if current.isEmpty then 0 else 1

/-- The estimated length of a batch with one more event. -/
def candidateLen (p : SinkParams) (current : List QueuedEvent) (currentLen : UInt64)
    (item : QueuedEvent) : UInt64 :=
  saturatingAdd (saturatingAdd currentLen (separatorLen current))
    (p.serializedEventLen item.content)

/-- Whether a batch ends before the next event. -/
def cutsBefore (p : SinkParams) (maxBatchEvents : UInt64) (current : List QueuedEvent)
    (currentLen : UInt64) (item : QueuedEvent) : Bool :=
  ! current.isEmpty &&
    (maxBatchEvents.toNat ≤ current.length ||
      p.maxRequestBytes < candidateLen p current currentLen item)

/-- The loop of `split_events_by_size`, with the batch it is filling and that
batch's estimated length. -/
def splitLoop (p : SinkParams) (maxBatchEvents : UInt64) :
    List QueuedEvent → (current : List QueuedEvent) → (currentLen : UInt64) →
      List (List QueuedEvent)
  | [], current, _ => if current.isEmpty then [] else [current]
  | item :: rest, current, currentLen =>
      if cutsBefore p maxBatchEvents current currentLen item then
        current ::
          splitLoop p maxBatchEvents rest [item]
            (candidateLen p [] p.serializedEmptyBatchLen item)
      else
        splitLoop p maxBatchEvents rest (current ++ [item])
          (candidateLen p current currentLen item)

def splitEventsBySize (p : SinkParams) (events : List QueuedEvent)
    (maxBatchEvents : UInt64) : List (List QueuedEvent) :=
  splitLoop p maxBatchEvents events [] p.serializedEmptyBatchLen

/-! ## Posting a batch -/

/-- The next request, under the next sequence number. -/
def Worker.request (worker : Worker) (controller : ControllerConfig)
    (sentAtUnixNanos : UInt64) (events : List WireEvent) : EventBatchRequest where
  wireVersion := Wire.wireVersion
  agentId := controller.agentId
  nodeName := controller.nodeName
  sequence := worker.sequence
  sentAtUnixNanos := sentAtUnixNanos
  events := events

/-- What becomes of a request. -/
inductive BatchOutcome
  /-- The worker's own validation failed, and nothing was posted. -/
  | refused (error : WireError)
  /-- A POST got a success status; what its body came to. -/
  | answered (response : Except ExchangeError EventBatchResponse)
  /-- No attempt got a success status; the error of the last. -/
  | exhausted (error : ExchangeError)

/-- How the events of a batch leave. -/
def BatchOutcome.exit : BatchOutcome → Exit
  | .refused _ => .refused
  | .answered _ => .delivered
  | .exhausted _ => .counted

/-- One attempt to post: the answer under a success status, or why there is
none. -/
def attemptResult : HttpReply EventBatchResponse →
    Except ExchangeError (Except ExchangeError EventBatchResponse)
  | .response status body =>
      if isSuccess status then .ok (acceptBody EventBatchResponse.validate body)
      else .error (.http status)
  | .failed error => .error (.transport error)

/-- The loop over the attempts, with the number of the next one and of the
retries after it. -/
def postAttempts (replies : ℕ → HttpReply EventBatchResponse) :
    (attempt retries : ℕ) → BatchOutcome
  | attempt, 0 =>
      match attemptResult (replies attempt) with
      | .ok response => .answered response
      | .error error => .exhausted error
  | attempt, retries + 1 =>
      match attemptResult (replies attempt) with
      | .ok response => .answered response
      | .error _ => postAttempts replies (attempt + 1) retries

/-- Validate a request and post it. -/
def postRequest (request : EventBatchRequest) (retry : Bool)
    (replies : ℕ → HttpReply EventBatchResponse) : BatchOutcome :=
  match request.validate usizeMax with
  | .error error => .refused error
  | .ok () => postAttempts replies 0 (if retry then maxRetries else 0)

def dropFailedBatch (metrics : SinkMetrics) (eventCount : ℕ) : SinkMetrics :=
  { metrics with
    eventSendFailures := metrics.eventSendFailures + 1
    sendFailed := metrics.sendFailed + eventCount }

/-- A request has taken its sequence number. -/
def SinkState.number (s : SinkState) (request : EventBatchRequest) : SinkState :=
  { s with
    worker := { s.worker with sequence := saturatingAdd s.worker.sequence 1 }
    made := s.made ++ [request] }

/-- The end of `send_event_batch_with_retries`. Only a batch that was posted in
vain is counted. -/
def SinkState.settle (s : SinkState) (events : List QueuedEvent) (outcome : BatchOutcome) :
    SinkState :=
  { s with
    metrics :=
      match outcome with
      | .exhausted _ => dropFailedBatch s.metrics events.length
      | .refused _ | .answered _ => s.metrics
    left := Ledger.leaving events outcome.exit ++ s.left }

def BatchOutcome.result : BatchOutcome → Except ExchangeError Unit
  | .refused error => .error (.invalidRequest error)
  | .answered response => response.map fun _ => ()
  | .exhausted error => .error error

def SinkState.nextRequest (p : SinkParams) (s : SinkState) (events : List QueuedEvent)
    (sentAtUnixNanos : UInt64) : EventBatchRequest :=
  s.worker.request p.controller sentAtUnixNanos (events.map (·.content))

def SinkState.sendEventBatchWithRetries (p : SinkParams) (s : SinkState)
    (events : List QueuedEvent) (retry : Bool) (sentAtUnixNanos : UInt64)
    (replies : ℕ → HttpReply EventBatchResponse) : SinkState × Except ExchangeError Unit :=
  let request := s.nextRequest p events sentAtUnixNanos
  let outcome := postRequest request retry replies
  ((s.number request).settle events outcome, outcome.result)

/-! ## The calls and the worker loop -/

/-- What trying to put a message into the queue comes to. -/
inductive TrySend
  | ok
  | full
  | disconnected
  deriving DecidableEq

/-- The receiving end of the queue goes away when the worker stops. -/
def SinkState.trySend (p : SinkParams) (s : SinkState) : TrySend :=
  match s.phase with
  | .stopped => .disconnected
  | _ => if s.queue.length < p.queueCapacity then .ok else .full

/-- An event is dropped and counted. -/
def SinkState.dropEvent (s : SinkState) (metrics : SinkMetrics) : SinkState :=
  { s with
    metrics := metrics
    admitted := s.admitted + 1
    left := (s.admitted, .counted) :: s.left }

def SinkState.tryEnqueueControllerEvent (p : SinkParams) (s : SinkState)
    (event : WireEvent) : SinkState :=
  match s.trySend p with
  | .ok =>
      { s with
        queue := s.queue ++ [.event ⟨s.admitted, event⟩]
        admitted := s.admitted + 1 }
  | .full => s.dropEvent { s.metrics with queueFull := s.metrics.queueFull + 1 }
  | .disconnected =>
      s.dropEvent { s.metrics with workerStopped := s.metrics.workerStopped + 1 }

def SinkState.send (p : SinkParams) (s : SinkState) (occurrence : Occurrence) : SinkState :=
  match occurrenceToWireEvent occurrence with
  | .error _ => s
  | .ok event =>
      if s.tx then s.tryEnqueueControllerEvent p event
      else s.dropEvent { s.metrics with workerStopped := s.metrics.workerStopped + 1 }

/-- Take the buffer and split it; an empty buffer has no batches. -/
def SinkState.startFlush (p : SinkParams) (s : SinkState) (cause : FlushCause)
    (maxBatchEvents : UInt64) : SinkState :=
  { s with
    worker := { s.worker with buffer := [] }
    phase := .flushing cause (splitEventsBySize p s.worker.buffer maxBatchEvents) none }

/-- An event is taken out of the queue, of which the rest remains. -/
def SinkState.push (s : SinkState) (event : QueuedEvent) (rest : List WorkerMessage) :
    SinkState :=
  { s with queue := rest, worker := { s.worker with buffer := s.worker.buffer ++ [event] } }

/-- After an event has arrived. -/
def SinkState.flushIfFull (p : SinkParams) (s : SinkState) (maxBatchEvents : UInt64) :
    SinkState :=
  if s.worker.buffer.length ≥ maxBatchEvents.toNat then s.startFlush p .batchFull maxBatchEvents
  else { s with phase := .readingLimits }

/-- The result of a flush. -/
def flushResult (lastError : Option ExchangeError) : Except ExchangeError Unit :=
  match lastError with
  | some error => .error error
  | none => .ok ()

/-- The flush has posted all its batches. -/
def SinkState.finishFlush (s : SinkState) (cause : FlushCause)
    (lastError : Option ExchangeError) : SinkState :=
  match cause with
  | .requested => { s with phase := .readingLimits, acks := flushResult lastError :: s.acks }
  | .disconnected => { s with phase := .stopped }
  | .batchFull | .timedOut => { s with phase := .readingLimits }

/-- The last flush posts each batch once, every other one retries. -/
def FlushCause.retry (cause : FlushCause) : Bool := cause ≠ .disconnected

inductive SinkStep
  /-- Another task sets the limits that a hello was answered with. -/
  | setBatching (sendIntervalMs maxBatchEvents : UInt64)
  | send (occurrence : Occurrence)
  /-- A flush call gets its message into the queue. -/
  | flush
  /-- The sink is dropped. -/
  | drop
  | readLimits
  | recv
  | timeout
  | disconnected
  | post (sentAtUnixNanos : UInt64) (replies : ℕ → HttpReply EventBatchResponse)
  | finish

/-- The loop of a flush keeps the error of the last batch that failed. -/
def newestError (result : Except ExchangeError Unit) (lastError : Option ExchangeError) :
    Option ExchangeError :=
  match result with
  | .error error => some error
  | .ok () => lastError

/-- Post the next batch of a flush. -/
def SinkState.postNext (p : SinkParams) (s : SinkState) (cause : FlushCause)
    (events : List QueuedEvent) (rest : List (List QueuedEvent))
    (lastError : Option ExchangeError) (sentAtUnixNanos : UInt64)
    (replies : ℕ → HttpReply EventBatchResponse) : SinkState :=
  let sent := s.sendEventBatchWithRetries p events cause.retry sentAtUnixNanos replies
  { sent.1 with phase := .flushing cause rest (newestError sent.2 lastError) }

def sinkStep (p : SinkParams) (s : SinkState) : SinkStep → Option SinkState
  | .setBatching sendIntervalMs maxBatchEvents =>
      some { s with state := s.state.setBatching sendIntervalMs maxBatchEvents }
  | .send occurrence => some (s.send p occurrence)
  | .flush =>
      if s.tx ∧ s.trySend p = .ok then some { s with queue := s.queue ++ [.flush] } else none
  | .drop => some { s with tx := false }
  | .readLimits =>
      match s.phase with
      | .readingLimits => some { s with phase := .waiting s.state.maxBatchEvents }
      | _ => none
  | .recv =>
      match s.phase, s.queue with
      | .waiting maxBatchEvents, .event event :: rest =>
          some ((s.push event rest).flushIfFull p maxBatchEvents)
      | .waiting maxBatchEvents, .flush :: rest =>
          some (SinkState.startFlush p { s with queue := rest } .requested maxBatchEvents)
      | _, _ => none
  | .timeout =>
      match s.phase with
      | .waiting maxBatchEvents => some (s.startFlush p .timedOut maxBatchEvents)
      | _ => none
  | .disconnected =>
      match s.phase, s.queue, s.tx with
      | .waiting maxBatchEvents, [], false =>
          some (s.startFlush p .disconnected maxBatchEvents)
      | _, _, _ => none
  | .post sentAtUnixNanos replies =>
      match s.phase with
      | .flushing cause (events :: rest) lastError =>
          some (s.postNext p cause events rest lastError sentAtUnixNanos replies)
      | _ => none
  | .finish =>
      match s.phase with
      | .flushing cause [] lastError => some (s.finishFlush cause lastError)
      | _ => none

def SinkState.new : SinkState where
  tx := true
  queue := []
  state := ControllerState.new "0"
  worker := ⟨1, []⟩
  phase := .readingLimits
  metrics := ⟨0, 0, 0, 0⟩
  acks := []
  made := []
  admitted := 0
  left := []

end Tapio.Sink
