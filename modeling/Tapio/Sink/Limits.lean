/-
# The limits that a hello sets

The worker of the controller sink takes its limit on the number of events from what the
registration task has installed. Two things follow from how the two tasks share it.

The worker reads the limit once for each turn of its loop and then waits. A limit that is
installed while it waits, or while it posts, comes too late for what it has in hand: the
batches that follow are within the new limit when what is in hand already is.

Nothing but the range of the number caps the limit either, and the buffer is emptied when
it is as long as the limit. So what is held is bounded by what the hellos promise and by
nothing of the agent's own.
-/
import Tapio.Agent.Registration
import Tapio.Sink.SilentLoss

namespace Tapio.Sink

open Wire Agent Transit Transition

/-! ## The sink beside the registration task -/

/-- The sink and the registration task, which share the limits, and the limit of the last
hello that was accepted and installed. -/
structure RegisteredSink where
  sink : SinkState
  phase : RegistrationPhase
  failures : SendFailures
  installed : Option UInt64

inductive RegisteredStep
  /-- A step of the sink other than a change of its limits. -/
  | sink (step : SinkStep)
  | hello (reply : HttpReply HelloResponse)
  | heartbeat (reply : HttpReply HeartbeatResponse)

def RegisteredSink.registration (s : RegisteredSink) : Registration :=
  ⟨s.phase, s.sink.state, s.failures⟩

/-- The registration task has ended an exchange. -/
def RegisteredSink.register (s : RegisteredSink) (r : Registration) : RegisteredSink :=
  { s with
    sink := { s.sink with state := r.state }
    phase := r.phase
    failures := r.failures }

/-- The limit that an answer to a hello promises, if the hello is accepted. -/
def promisedLimit (reply : HttpReply HelloResponse) : Option UInt64 :=
  match acceptReply HelloResponse.validate reply with
  | .ok response => if response.accepted then some response.maxBatchEvents else none
  | .error _ => none

def registeredStep (p : SinkParams) (s : RegisteredSink) : RegisteredStep → Option RegisteredSink
  | .sink (.setBatching _ _) => none
  | .sink step => (sinkStep p s.sink step).map fun sink => { s with sink := sink }
  | .hello reply =>
      match s.phase with
      | .hello =>
          some { s.register (s.registration.helloResult
              (acceptReply HelloResponse.validate reply)) with
            installed := (promisedLimit reply).or s.installed }
      | .heartbeat => none
  | .heartbeat reply =>
      match s.phase with
      | .heartbeat =>
          some (s.register (s.registration.heartbeatResult
            (acceptReply HeartbeatResponse.validate reply)))
      | .hello => none

def RegisteredSink.new : RegisteredSink := ⟨SinkState.new, .hello, ⟨0, 0⟩, none⟩

def registeredMachine (p : SinkParams) : Machine RegisteredSink RegisteredStep where
  init := RegisteredSink.new
  step := registeredStep p

/-- What a step does to the sink and to the installed limit. -/
inductive RegisteredStepped (p : SinkParams) (s : RegisteredSink) :
    RegisteredStep → RegisteredSink → Prop
  | sink {step : SinkStep} {sink : SinkState} (hstep : Stepped p s.sink step sink)
      (hstate : sink.state = s.sink.state) :
      RegisteredStepped p s (.sink step) { s with sink := sink }
  | kept {a : RegisteredStep} {t : RegisteredSink} (hsink : t.sink = s.sink)
      (hinstalled : t.installed = s.installed) : RegisteredStepped p s a t
  | installed {reply : HttpReply HelloResponse} {limit : UInt64} {t : RegisteredSink}
      (hpromised : promisedLimit reply = some limit) (hnonzero : limit ≠ 0)
      (hphase : t.sink.phase = s.sink.phase) (hworker : t.sink.worker = s.sink.worker)
      (hqueue : t.sink.queue = s.sink.queue) (hmax : t.sink.state.maxBatchEvents = limit)
      (hinstalled : t.installed = some limit) : RegisteredStepped p s (.hello reply) t

theorem acceptReply_ok {β : Type} {validate : β → WireResult Unit} {reply : HttpReply β}
    {response : β} (h : acceptReply validate reply = .ok response) :
    validate response = .ok () := by
  cases reply with
  | failed error => cases h
  | response status body =>
      rw [acceptReply] at h
      split at h
      · cases body with
        | error e => cases h
        | ok decoded =>
            cases hvalid : validate decoded with
            | error e => simp [acceptBody, hvalid, bind, Except.bind] at h
            | ok =>
                simp only [acceptBody, hvalid, Checks.mapError_ok, bind, Except.bind, pure,
                  Except.pure, Except.ok.injEq] at h
                rw [← h, hvalid]
      · cases h

theorem toNat_pos {n : UInt64} (h : n ≠ 0) : 0 < n.toNat :=
  UInt64.lt_iff_toNat_lt.mp (UInt64.pos_iff_ne_zero.mpr h)

theorem max_one_of_ne_zero {n : UInt64} (h : n ≠ 0) : max n 1 = n := by
  show (if n ≤ 1 then 1 else n) = n
  split
  · next hle =>
      have hone := UInt64.le_iff_toNat_le.mp hle
      exact UInt64.toNat_inj.mp (Nat.le_antisymm (toNat_pos h) hone)
  · rfl

/-- An accepted promise is not zero, and it is what the worker reads from then on. -/
theorem promisedLimit_spec {reply : HttpReply HelloResponse} {limit : UInt64}
    (h : promisedLimit reply = some limit) (r : Registration) :
    limit ≠ 0 ∧ (r.helloResult (acceptReply HelloResponse.validate reply)).state.maxBatchEvents =
      limit := by
  rw [promisedLimit] at h
  cases hreply : acceptReply HelloResponse.validate reply with
  | error error => simp [hreply] at h
  | ok response =>
      obtain ⟨haccepted, rfl⟩ : response.accepted = true ∧ response.maxBatchEvents = limit := by
        simpa [hreply] using h
      have hvalid := acceptReply_ok hreply
      have hnonzero : response.maxBatchEvents ≠ 0 := by
        simp only [HelloResponse.validate, Checks.bind_eq_ok_iff, boundedNonzero_ok_iff] at hvalid
        exact hvalid.2.2.2.2
      refine ⟨hnonzero, ?_⟩
      simp only [Registration.helloResult, haccepted, if_true, ControllerState.setConfigVersion,
        ControllerState.setBatching]
      exact max_one_of_ne_zero hnonzero

/-- Without a promise the limits stay. -/
theorem helloResult_state_of_not_promised {reply : HttpReply HelloResponse}
    (h : promisedLimit reply = none) (r : Registration) :
    (r.helloResult (acceptReply HelloResponse.validate reply)).state = r.state := by
  rw [promisedLimit] at h
  cases hreply : acceptReply HelloResponse.validate reply with
  | error error => rfl
  | ok response =>
      have hrejected : response.accepted = false := by simpa [hreply] using h
      simp [Registration.helloResult, hrejected]

theorem heartbeatResult_state (r : Registration)
    (result : Except ExchangeError HeartbeatResponse) :
    (r.heartbeatResult result).state = r.state := by
  rw [Registration.heartbeatResult]
  split <;> rfl

/-- Only the registration task changes the limits. -/
theorem state_of_stepped {p : SinkParams} {s t : SinkState} {a : SinkStep}
    (hstep : Stepped p s a t) (hown : ∀ interval limit, a ≠ .setBatching interval limit) :
    t.state = s.state := by
  cases hstep with
  | setBatching interval limit => exact absurd rfl (hown interval limit)
  | send occurrence =>
      unfold SinkState.send SinkState.tryEnqueueControllerEvent
      repeat' split
      all_goals rfl
  | recvEvent =>
      rw [SinkState.flushIfFull]
      split <;> rfl
  | @finish cause => cases cause <;> rfl
  | _ => rfl

theorem registeredStepped_of_step {p : SinkParams} {s t : RegisteredSink} {a : RegisteredStep}
    (hstep : registeredStep p s a = some t) : RegisteredStepped p s a t := by
  unfold registeredStep at hstep
  split at hstep
  · cases hstep
  · next step hown =>
      obtain ⟨sink, hsink, rfl⟩ := Option.map_eq_some_iff.mp hstep
      have hstepped := stepped_of_step hsink
      exact .sink hstepped (state_of_stepped hstepped hown)
  · next reply =>
      split at hstep
      · cases hstep
        cases hpromised : promisedLimit reply with
        | none =>
            refine .kept ?_ rfl
            rw [RegisteredSink.register, helloResult_state_of_not_promised hpromised]
            rfl
        | some limit =>
            obtain ⟨hnonzero, hmax⟩ := promisedLimit_spec hpromised s.registration
            exact .installed hpromised hnonzero rfl rfl rfl hmax rfl
      · cases hstep
  · split at hstep
    · cases hstep
      refine .kept ?_ rfl
      rw [RegisteredSink.register, heartbeatResult_state]
      rfl
    · cases hstep

/-! ## Batches within the installed limit -/

/-- The batches that can still come of what the worker has in hand are within the limit. -/
def SinkState.InHandWithin (s : SinkState) (limit : ℕ) : Prop :=
  match s.phase with
  | .waiting maxBatchEvents =>
      maxBatchEvents.toNat ≤ limit ∨
        (s.worker.buffer.length ≤ limit ∧ maxBatchEvents.toNat ≠ s.worker.buffer.length + 1)
  | .flushing _ batches _ => ∀ batch ∈ batches, batch.length ≤ limit
  | .readingLimits | .stopped => True

instance (s : SinkState) (limit : ℕ) : Decidable (s.InHandWithin limit) :=
  match hphase : s.phase with
  | .waiting maxBatchEvents =>
      decidable_of_iff (maxBatchEvents.toNat ≤ limit ∨ (s.worker.buffer.length ≤ limit ∧
        maxBatchEvents.toNat ≠ s.worker.buffer.length + 1))
        (by simp only [SinkState.InHandWithin, hphase])
  | .flushing _ batches _ =>
      decidable_of_iff (∀ batch ∈ batches, batch.length ≤ limit)
        (by simp only [SinkState.InHandWithin, hphase])
  | .readingLimits | .stopped => isTrue (by simp only [SinkState.InHandWithin, hphase])

/-- The limit that a step installs. -/
def RegisteredStep.installs : RegisteredStep → Option UInt64
  | .hello reply => promisedLimit reply
  | .sink _ | .heartbeat _ => none

/-- A limit is installed at a time at which the worker has nothing in hand that exceeds
it. -/
def InstallsInTime (s : RegisteredSink) (a : RegisteredStep) : Prop :=
  ∀ limit ∈ a.installs, s.sink.InHandWithin limit.toNat

instance (s : RegisteredSink) (a : RegisteredStep) : Decidable (InstallsInTime s a) :=
  Option.decidableForallMem a.installs

/-- The batch whose POST a step starts. -/
def postedBatch (p : SinkParams) (s : RegisteredSink) (a : RegisteredStep) :
    Option (List QueuedEvent) :=
  match a, s.sink.phase with
  | .sink (.post sentAtUnixNanos _), .flushing _ (events :: _) _ =>
      if (s.sink.nextRequest p events sentAtUnixNanos).validate usizeMax = .ok () then some events
      else none
  | _, _ => none

/-- A batch whose POST starts is within the installed limit. -/
def PostsWithinLimit (p : SinkParams) (s : RegisteredSink) (a : RegisteredStep) : Prop :=
  ∀ events ∈ postedBatch p s a, ∀ limit ∈ s.installed, events.length ≤ limit.toNat

instance (p : SinkParams) (s : RegisteredSink) (a : RegisteredStep) :
    Decidable (PostsWithinLimit p s a) :=
  have (events : List QueuedEvent) :
      Decidable (∀ limit ∈ s.installed, events.length ≤ limit.toNat) :=
    Option.decidableForallMem s.installed
  Option.decidableForallMem (postedBatch p s a)

/-- The worker reads the installed limit next, and has nothing in hand that exceeds it. -/
structure WithinInstalled (s : RegisteredSink) (limit : ℕ) : Prop where
  pos : 0 < limit
  read : s.sink.state.maxBatchEvents.toNat ≤ limit
  inHand : s.sink.InHandWithin limit

/-- A flush makes batches within what it works with and within what there is. -/
theorem startFlush_inHandWithin (p : SinkParams) {s : SinkState} {maxBatchEvents : UInt64}
    {limit : ℕ} (hpos : 0 < limit)
    (h : maxBatchEvents.toNat ≤ limit ∨ s.worker.buffer.length ≤ limit) (cause : FlushCause) :
    (s.startFlush p cause maxBatchEvents).InHandWithin limit := by
  intro batch hbatch
  cases h with
  | inl hlimit =>
      have hbounds := (splitEventsBySize_bounds p _ maxBatchEvents batch hbatch).2
      omega
  | inr hbuffer =>
      have hflat := flatten_splitEventsBySize p s.worker.buffer maxBatchEvents
      have hle := (List.sublist_flatten_of_mem hbatch).length_le
      rw [hflat] at hle
      exact hle.trans hbuffer

/-- An event has arrived: the buffer is flushed when it is as long as the limit. -/
theorem flushIfFull_inHandWithin (p : SinkParams) {s : SinkState} {maxBatchEvents : UInt64}
    {limit : ℕ} (hpos : 0 < limit)
    (h : maxBatchEvents.toNat ≤ limit ∨
      (s.worker.buffer.length ≤ limit ∧ maxBatchEvents.toNat ≠ s.worker.buffer.length + 1))
    (event : QueuedEvent) (rest : List WorkerMessage) :
    ((s.push event rest).flushIfFull p maxBatchEvents).InHandWithin limit := by
  rw [SinkState.flushIfFull]
  split
  · next hfull =>
      refine startFlush_inHandWithin p hpos ?_ .batchFull
      rw [SinkState.push, List.length_append, List.length_singleton] at hfull
      omega
  · trivial

/-- A step of the sink works with limits it has read. -/
theorem inHandWithin_of_step {p : SinkParams} {s t : SinkState} {a : SinkStep} {limit : ℕ}
    (hpos : 0 < limit) (hread : s.state.maxBatchEvents.toNat ≤ limit)
    (hs : s.InHandWithin limit) (hstep : Stepped p s a t) : t.InHandWithin limit := by
  cases hstep with
  | setBatching => exact hs
  | send occurrence =>
      obtain ⟨hphase, hworker, -⟩ := send_worker p s occurrence
      rw [SinkState.InHandWithin, hphase, hworker]
      exact hs
  | flush => exact hs
  | drop => exact hs
  | readLimits => exact .inl hread
  | recvEvent hphase hqueue =>
      rw [SinkState.InHandWithin, hphase] at hs
      exact flushIfFull_inHandWithin p hpos hs _ _
  | recvFlush hphase hqueue =>
      rw [SinkState.InHandWithin, hphase] at hs
      exact startFlush_inHandWithin p hpos (hs.imp_right And.left) .requested
  | timeout hphase =>
      rw [SinkState.InHandWithin, hphase] at hs
      exact startFlush_inHandWithin p hpos (hs.imp_right And.left) .timedOut
  | disconnected hphase =>
      rw [SinkState.InHandWithin, hphase] at hs
      exact startFlush_inHandWithin p hpos (hs.imp_right And.left) .disconnected
  | post sentAtUnixNanos replies hphase =>
      rw [SinkState.InHandWithin, hphase] at hs
      exact fun batch hbatch => hs batch (List.mem_cons_of_mem _ hbatch)
  | @finish cause lastError hphase => cases cause <;> trivial

theorem withinInstalled_of_step {p : SinkParams} {s t : RegisteredSink} {a : RegisteredStep}
    (hs : ∀ limit ∈ s.installed, WithinInstalled s limit.toNat) (hin : InstallsInTime s a)
    (hstep : registeredStep p s a = some t) :
    ∀ limit ∈ t.installed, WithinInstalled t limit.toNat := by
  cases registeredStepped_of_step hstep with
  | sink hsink hstate =>
      intro limit hlimit
      obtain ⟨hpos, hread, hinHand⟩ := hs limit hlimit
      exact ⟨hpos, hstate ▸ hread, inHandWithin_of_step hpos hread hinHand hsink⟩
  | kept hsink hinstalled =>
      rw [hinstalled]
      intro limit hlimit
      obtain ⟨hpos, hread, hinHand⟩ := hs limit hlimit
      exact ⟨hpos, hsink ▸ hread, hsink ▸ hinHand⟩
  | @installed reply limit _ hpromised hnonzero hphase hworker hqueue hmax hinstalled =>
      rw [hinstalled]
      rintro _ ⟨⟩
      refine ⟨toNat_pos hnonzero, (congrArg UInt64.toNat hmax).le, ?_⟩
      rw [SinkState.InHandWithin, hphase, hworker]
      exact hin limit hpromised

/-- What the worker posts next is what it has in hand. -/
theorem postsWithinLimit_of_within {p : SinkParams} {s : RegisteredSink} {a : RegisteredStep}
    (hs : ∀ limit ∈ s.installed, WithinInstalled s limit.toNat) : PostsWithinLimit p s a := by
  intro events hevents limit hlimit
  have hinHand := (hs limit hlimit).inHand
  unfold postedBatch at hevents
  split at hevents
  · next hphase =>
      obtain ⟨-, heq⟩ := Option.ite_none_right_eq_some.mp hevents
      cases heq
      rw [SinkState.InHandWithin, hphase] at hinHand
      exact hinHand events List.mem_cons_self
  · exact absurd hevents (Option.not_mem_none _)

/-- **Batches are within the installed limit** in every run in which each limit is
installed while the worker has nothing in hand that exceeds it. -/
theorem postsWithinLimit (p : SinkParams) {schedule : List RegisteredStep}
    (hinTime : (registeredMachine p).EachStep InstallsInTime RegisteredSink.new schedule) :
    (registeredMachine p).EachStep (PostsWithinLimit p) RegisteredSink.new schedule :=
  Machine.eachStep_of_preserved (M := registeredMachine p) withinInstalled_of_step
    (fun hs _ => postsWithinLimit_of_within hs) (fun _ h => absurd h (Option.not_mem_none _))
    hinTime

/-- A hello that is accepted with the given limit. -/
def helloAccepted (maxBatchEvents : UInt64) : HttpReply HelloResponse :=
  .response 200 (.ok ⟨Wire.wireVersion, true, "tapio-controller", "1", 1000, maxBatchEvents⟩)

/-- One event on its way from a call into the buffer. -/
def buffering : List RegisteredStep :=
  [.sink (.send connectionRefused), .sink .readLimits, .sink .recv]

/-- What is buffered is flushed after a timeout, and the first batch of it is posted. -/
def flushing : List RegisteredStep :=
  [.sink .timeout, .sink (.post 1700000001000000000 fun _ => .failed "read: timed out")]

/-- The second batch of a flush is posted, and the flush ends. -/
def postingRest : List RegisteredStep :=
  [.sink (.post 1700000002000000000 fun _ => .failed "read: timed out"), .sink .finish]

/-- Two events are buffered, and the worker waits with the limit it started with when a
hello promises a limit of two; a third event ends the waiting. -/
def promisedInTime : List RegisteredStep :=
  buffering ++ buffering ++ [.sink .readLimits, .hello (helloAccepted 2),
    .sink (.send (connectionRefusedBy 6379)), .sink .recv, .sink .readLimits]

theorem postsWithinLimit_promisedInTime :
    ((registeredMachine (sinkOf "node/worker-1")).exec RegisteredSink.new
        (promisedInTime ++ flushing ++ postingRest)).map
        (fun s => s.sink.made.map (·.events.length)) = some [2, 1] ∧
      (registeredMachine (sinkOf "node/worker-1")).EachStep
        (PostsWithinLimit (sinkOf "node/worker-1")) RegisteredSink.new
        (promisedInTime ++ flushing ++ postingRest) :=
  ⟨by decide +kernel, postsWithinLimit _ (by decide +kernel)⟩

/-- Two events are buffered, and the worker waits with the limit it started with when a
hello promises a limit of one. -/
theorem not_postsWithinLimit_helloWhileWaiting :
    ¬ ∀ (p : SinkParams) (schedule : List RegisteredStep),
      (registeredMachine p).EachStep (PostsWithinLimit p) RegisteredSink.new schedule := by
  intro h
  have hrun := h (sinkOf "node/worker-1")
    (buffering ++ buffering ++ (.sink .readLimits :: .hello (helloAccepted 1) :: flushing))
  exact absurd hrun (by decide +kernel)

/-! ## What the sink holds -/

/-- The number of events in the queue. -/
def SinkState.queued (s : SinkState) : ℕ := (s.queue.filterMap WorkerMessage.payload).length

/-- The number of events in the buffer and in the queue. -/
def SinkState.held (s : SinkState) : ℕ := s.worker.buffer.length + s.queued

/-- No hello promises more than the limit. -/
def InstallsAtMost (limit : UInt64) (_ : RegisteredSink) (a : RegisteredStep) : Prop :=
  ∀ promised ∈ a.installs, promised ≤ limit

instance (limit : UInt64) (s : RegisteredSink) (a : RegisteredStep) :
    Decidable (InstallsAtMost limit s a) :=
  Option.decidableForallMem a.installs

/-- The limits in use are below the bound, and so is the buffer. -/
structure Bounded (p : SinkParams) (bound : ℕ) (s : SinkState) : Prop where
  read : s.state.maxBatchEvents.toNat ≤ bound
  waits : ∀ maxBatchEvents, s.phase = .waiting maxBatchEvents → maxBatchEvents.toNat ≤ bound
  buffer : s.worker.buffer.length < bound
  queue : s.queued ≤ p.queueCapacity

theorem queued_of_event {s : SinkState} {event : QueuedEvent} {rest : List WorkerMessage}
    (hqueue : s.queue = .event event :: rest) :
    s.queued = (rest.filterMap WorkerMessage.payload).length + 1 := by
  rw [SinkState.queued, hqueue]
  rfl

theorem queued_of_flush {s : SinkState} {rest : List WorkerMessage}
    (hqueue : s.queue = .flush :: rest) :
    s.queued = (rest.filterMap WorkerMessage.payload).length := by
  rw [SinkState.queued, hqueue]
  rfl

/-- An event gets into the queue only where there is room. -/
theorem send_queued_le (p : SinkParams) {s : SinkState} (hs : s.queued ≤ p.queueCapacity)
    (occurrence : Occurrence) : (s.send p occurrence).queued ≤ p.queueCapacity := by
  unfold SinkState.send
  split
  · exact hs
  · split
    · unfold SinkState.tryEnqueueControllerEvent
      split
      · next htry =>
          have hroom : s.queue.length < p.queueCapacity := by
            unfold SinkState.trySend at htry
            split at htry
            · cases htry
            · by_contra hfull
              rw [if_neg hfull] at htry
              cases htry
          have hle : s.queued ≤ s.queue.length := List.length_filterMap_le _ _
          simp only [SinkState.queued, List.filterMap_append, List.length_append,
            List.filterMap_cons, List.filterMap_nil, WorkerMessage.payload, List.length_singleton]
          simp only [SinkState.queued] at hle
          omega
      · exact hs
      · exact hs
    · exact hs

theorem bounded_startFlush {p : SinkParams} {bound : ℕ} {s : SinkState} (hs : Bounded p bound s)
    (cause : FlushCause) (maxBatchEvents : UInt64) :
    Bounded p bound (s.startFlush p cause maxBatchEvents) :=
  ⟨hs.read, nofun, Nat.zero_lt_of_lt hs.buffer, hs.queue⟩

/-- A buffer that is not flushed is shorter than the limit the worker works with. -/
theorem bounded_flushIfFull {p : SinkParams} {bound : ℕ} {s : SinkState} (hs : Bounded p bound s)
    {maxBatchEvents : UInt64} (hlimit : maxBatchEvents.toNat ≤ bound) {event : QueuedEvent}
    {rest : List WorkerMessage} (hqueue : s.queue = .event event :: rest) :
    Bounded p bound ((s.push event rest).flushIfFull p maxBatchEvents) := by
  have hqueued := queued_of_event hqueue
  have hle := hs.queue
  have hrest : (rest.filterMap WorkerMessage.payload).length ≤ p.queueCapacity := by omega
  rw [SinkState.flushIfFull]
  split
  · exact ⟨hs.read, by rintro _ ⟨⟩, Nat.zero_lt_of_lt hs.buffer, hrest⟩
  · next hfull =>
      have hbuffer := Nat.lt_of_lt_of_le (Nat.lt_of_not_le hfull) hlimit
      exact ⟨hs.read, by rintro _ ⟨⟩, hbuffer, hrest⟩

theorem bounded_of_step {p : SinkParams} {bound : ℕ} {s t : SinkState} {a : SinkStep}
    (hs : Bounded p bound s) (hstep : Stepped p s a t) (hstate : t.state = s.state) :
    Bounded p bound t := by
  have hread : t.state.maxBatchEvents.toNat ≤ bound := hstate ▸ hs.read
  cases hstep with
  | setBatching => exact ⟨hread, hs.waits, hs.buffer, hs.queue⟩
  | send occurrence =>
      obtain ⟨hphase, hworker, -⟩ := send_worker p s occurrence
      exact ⟨hread, hphase ▸ hs.waits, hworker ▸ hs.buffer, send_queued_le p hs.queue occurrence⟩
  | flush =>
      refine ⟨hread, hs.waits, hs.buffer, ?_⟩
      have hsame : (s.queue ++ [WorkerMessage.flush]).filterMap WorkerMessage.payload =
          s.queue.filterMap WorkerMessage.payload := by
        rw [List.filterMap_append]
        exact List.append_nil _
      rw [SinkState.queued, hsame]
      exact hs.queue
  | drop => exact ⟨hread, hs.waits, hs.buffer, hs.queue⟩
  | readLimits =>
      refine ⟨hread, ?_, hs.buffer, hs.queue⟩
      rintro _ ⟨⟩
      exact hread
  | recvEvent hphase hqueue => exact bounded_flushIfFull hs (hs.waits _ hphase) hqueue
  | @recvFlush _ rest hphase hqueue =>
      have hrest : Bounded p bound { s with queue := rest } :=
        ⟨hs.read, hs.waits, hs.buffer, le_of_eq_of_le (queued_of_flush hqueue).symm hs.queue⟩
      exact bounded_startFlush hrest .requested _
  | timeout hphase => exact bounded_startFlush hs .timedOut _
  | disconnected hphase => exact bounded_startFlush hs .disconnected _
  | post => exact ⟨hread, nofun, hs.buffer, hs.queue⟩
  | @finish cause => cases cause <;> exact ⟨hread, nofun, hs.buffer, hs.queue⟩

theorem bounded_of_registeredStep {p : SinkParams} {limit : UInt64} {s t : RegisteredSink}
    {a : RegisteredStep} (hs : Bounded p (max 256 limit.toNat) s.sink)
    (hle : InstallsAtMost limit s a) (hstep : registeredStep p s a = some t) :
    Bounded p (max 256 limit.toNat) t.sink := by
  cases registeredStepped_of_step hstep with
  | sink hsink hstate => exact bounded_of_step hs hsink hstate
  | kept hsink => exact hsink ▸ hs
  | @installed reply promised _ hpromised _ hphase hworker hqueue hmax =>
      have hlimit := UInt64.le_iff_toNat_le.mp (hle promised hpromised)
      refine ⟨?_, hphase ▸ hs.waits, hworker ▸ hs.buffer, ?_⟩
      · rw [hmax]
        exact hlimit.trans (le_max_right _ _)
      · rw [SinkState.queued, hqueue]
        exact hs.queue

/-- **What the sink holds is bounded by what the hellos promise**: by the capacity of the
queue and the largest limit, or the one the agent starts with. -/
theorem held_le (p : SinkParams) (limit : UInt64) {schedule : List RegisteredStep}
    (hle : (registeredMachine p).EachStep (InstallsAtMost limit) RegisteredSink.new schedule) :
    (registeredMachine p).Always
      (fun s => s.sink.held ≤ p.queueCapacity + max 256 limit.toNat)
      RegisteredSink.new schedule := by
  have hnew : Bounded p (max 256 limit.toNat) RegisteredSink.new.sink := by
    refine ⟨le_max_left _ _, nofun, ?_, Nat.zero_le _⟩
    exact Nat.lt_of_lt_of_le (by decide) (le_max_left _ _)
  have halways := Machine.always_of_eachStep (M := registeredMachine p)
    (J := fun s => Bounded p (max 256 limit.toNat) s.sink) bounded_of_registeredStep hnew hle
  refine halways.mono fun s hs => ?_
  have hbuffer := hs.buffer
  have hqueue := hs.queue
  rw [SinkState.held]
  omega

/-! ## Without a promise there is no bound -/

/-- The worker has buffered what there was, under the largest limit there is. -/
structure Filling (size : ℕ) (s : RegisteredSink) : Prop where
  tx : s.sink.tx = true
  queue : s.sink.queue = []
  phase : s.sink.phase = .readingLimits
  read : s.sink.state.maxBatchEvents.toNat = UInt64.size - 1
  buffer : s.sink.worker.buffer.length = size

/-- One more event is buffered and stays there. -/
theorem filling_buffering {p : SinkParams} (hcapacity : 0 < p.queueCapacity) {size : ℕ}
    (hsize : size + 1 < UInt64.size - 1) {s : RegisteredSink} (hs : Filling size s) :
    ∃ t, (registeredMachine p).exec s buffering = some t ∧ Filling (size + 1) t := by
  obtain ⟨event, hevent⟩ : ∃ event, occurrenceToWireEvent connectionRefused = .ok event :=
    ⟨_, rfl⟩
  obtain ⟨⟨tx, queue, state, ⟨sequence, buffer⟩, phase, metrics, acks, made, admitted, left⟩,
    registration, failures, installed⟩ := s
  obtain ⟨rfl, rfl, rfl, hread, hbuffer⟩ := hs
  have hroom : ¬ state.maxBatchEvents.toNat ≤ buffer.length + 1 :=
    Nat.not_le_of_lt (hread ▸ hbuffer ▸ hsize)
  refine ⟨⟨⟨true, [], state, ⟨sequence, buffer ++ [⟨admitted, event⟩]⟩, .readingLimits, metrics,
    acks, made, admitted + 1, left⟩, registration, failures, installed⟩, ?_, rfl, rfl, rfl, hread,
    List.length_append.trans (congrArg (· + 1) hbuffer)⟩
  simp [registeredMachine, buffering, registeredStep, sinkStep, SinkState.send, hevent,
    SinkState.tryEnqueueControllerEvent, SinkState.trySend, hcapacity, SinkState.push,
    SinkState.flushIfFull, hroom]

/-- The buffer can be filled up to any size below the limit. -/
theorem exists_filling {p : SinkParams} (hcapacity : 0 < p.queueCapacity) (size : ℕ)
    (hsize : size < UInt64.size - 1) :
    ∃ schedule s, (registeredMachine p).exec RegisteredSink.new schedule = some s ∧
      Filling size s := by
  induction size with
  | zero =>
      refine ⟨[.hello (helloAccepted 0xFFFFFFFFFFFFFFFF)], _, rfl, rfl, rfl, rfl, ?_, rfl⟩
      decide
  | succ size ih =>
      obtain ⟨schedule, s, hrun, hs⟩ := ih (by omega)
      obtain ⟨t, hmore, ht⟩ := filling_buffering hcapacity hsize hs
      refine ⟨schedule ++ buffering, t, ?_, ht⟩
      rw [Machine.exec_append, hrun]
      exact hmore

theorem held_le_hello :
    (registeredMachine (sinkOf "node/worker-1")).Always
      (fun s => s.sink.held ≤ defaultQueueCapacity + max 256 (64 : UInt64).toNat)
      RegisteredSink.new (.hello (helloAccepted 64) :: buffering ++ buffering) :=
  held_le (sinkOf "node/worker-1") 64 (by decide +kernel)

/-- Only the range of the number that a controller sends bounds what the sink holds. -/
theorem held_unbounded :
    ¬ ∃ bound, bound + 1 < UInt64.size - 1 ∧ ∀ schedule,
      (registeredMachine (sinkOf "node/worker-1")).Always (fun s => s.sink.held ≤ bound)
        RegisteredSink.new schedule := by
  rintro ⟨bound, hbound, h⟩
  obtain ⟨schedule, s, hrun, hs⟩ :=
    exists_filling (p := sinkOf "node/worker-1") (by decide) (bound + 1) hbound
  have hheld := (h schedule).of_exec hrun
  have hbuffer := hs.buffer
  rw [SinkState.held] at hheld
  omega

end Tapio.Sink
