/-
# The steps of the controller sink

The sink as a machine, what each of its steps can do, and what the two functions
amount to that decide about an event: splitting keeps every event and its place,
and the worker refuses a batch exactly when one of its events, or the identity it
is sent under, does not pass the validation.
-/
import Tapio.Sink.Controller
import Tapio.Transition.Machine

namespace Tapio.Sink

open Wire Numeric Agent Transit Transition

/-- The sink over its whole life. -/
def sinkMachine (p : SinkParams) : Machine SinkState SinkStep where
  init := SinkState.new
  step := sinkStep p

/-! ## What a step can do -/

/-- The steps with their guards and results. -/
inductive Stepped (p : SinkParams) (s : SinkState) : SinkStep → SinkState → Prop
  | setBatching (sendIntervalMs maxBatchEvents : UInt64) :
      Stepped p s (.setBatching sendIntervalMs maxBatchEvents)
        { s with state := s.state.setBatching sendIntervalMs maxBatchEvents }
  | send (occurrence : Occurrence) : Stepped p s (.send occurrence) (s.send p occurrence)
  | flush (htx : s.tx = true) :
      Stepped p s .flush { s with queue := s.queue ++ [.flush] }
  | drop : Stepped p s .drop { s with tx := false }
  | readLimits (hphase : s.phase = .readingLimits) :
      Stepped p s .readLimits { s with phase := .waiting s.state.maxBatchEvents }
  | recvEvent {maxBatchEvents : UInt64} {event : QueuedEvent} {rest : List WorkerMessage}
      (hphase : s.phase = .waiting maxBatchEvents) (hqueue : s.queue = .event event :: rest) :
      Stepped p s .recv ((s.push event rest).flushIfFull p maxBatchEvents)
  | recvFlush {maxBatchEvents : UInt64} {rest : List WorkerMessage}
      (hphase : s.phase = .waiting maxBatchEvents) (hqueue : s.queue = .flush :: rest) :
      Stepped p s .recv
        (SinkState.startFlush p { s with queue := rest } .requested maxBatchEvents)
  | timeout {maxBatchEvents : UInt64} (hphase : s.phase = .waiting maxBatchEvents) :
      Stepped p s .timeout (s.startFlush p .timedOut maxBatchEvents)
  | disconnected {maxBatchEvents : UInt64} (hphase : s.phase = .waiting maxBatchEvents)
      (hqueue : s.queue = []) (htx : s.tx = false) :
      Stepped p s .disconnected (s.startFlush p .disconnected maxBatchEvents)
  | post {cause : FlushCause} {events : List QueuedEvent} {rest : List (List QueuedEvent)}
      {lastError : Option ExchangeError} (sentAtUnixNanos : UInt64)
      (replies : ℕ → HttpReply EventBatchResponse)
      (hphase : s.phase = .flushing cause (events :: rest) lastError) :
      Stepped p s (.post sentAtUnixNanos replies)
        (s.postNext p cause events rest lastError sentAtUnixNanos replies)
  | finish {cause : FlushCause} {lastError : Option ExchangeError}
      (hphase : s.phase = .flushing cause [] lastError) :
      Stepped p s .finish (s.finishFlush cause lastError)

theorem stepped_of_step {p : SinkParams} {s t : SinkState} {a : SinkStep}
    (hstep : sinkStep p s a = some t) : Stepped p s a t := by
  unfold sinkStep at hstep
  split at hstep
  · cases hstep
    exact .setBatching _ _
  · cases hstep
    exact .send _
  · obtain ⟨hopen, hstep⟩ := Option.ite_none_right_eq_some.mp hstep
    cases hstep
    exact .flush hopen.1
  · cases hstep
    exact .drop
  · split at hstep
    · next hphase =>
        cases hstep
        exact .readLimits hphase
    · cases hstep
  · split at hstep
    · next hphase hqueue =>
        cases hstep
        exact .recvEvent hphase hqueue
    · next hphase hqueue =>
        cases hstep
        exact .recvFlush hphase hqueue
    · cases hstep
  · split at hstep
    · next hphase =>
        cases hstep
        exact .timeout hphase
    · cases hstep
  · split at hstep
    · next hphase hqueue htx =>
        cases hstep
        exact .disconnected hphase hqueue htx
    · cases hstep
  · split at hstep
    · next hphase =>
        cases hstep
        exact .post _ _ hphase
    · cases hstep
  · split at hstep
    · next hphase =>
        cases hstep
        exact .finish hphase
    · cases hstep

/-- `send` leaves the worker alone. -/
theorem send_worker (p : SinkParams) (s : SinkState) (occurrence : Occurrence) :
    (s.send p occurrence).phase = s.phase ∧ (s.send p occurrence).worker = s.worker ∧
      (s.send p occurrence).tx = s.tx := by
  unfold SinkState.send SinkState.tryEnqueueControllerEvent
  split
  · exact ⟨rfl, rfl, rfl⟩
  · split
    · split <;> exact ⟨rfl, rfl, rfl⟩
    · exact ⟨rfl, rfl, rfl⟩

/-- Without a sending end nothing gets into the queue. -/
theorem send_queue_of_closed (p : SinkParams) {s : SinkState} (htx : s.tx = false)
    (occurrence : Occurrence) : (s.send p occurrence).queue = s.queue := by
  rw [SinkState.send]
  rw [htx]
  split <;> rfl

/-! ## Splitting keeps every event -/

theorem flatten_splitLoop (p : SinkParams) (maxBatchEvents : UInt64)
    (events current : List QueuedEvent) (currentLen : UInt64) :
    (splitLoop p maxBatchEvents events current currentLen).flatten = current ++ events := by
  induction events generalizing current currentLen with
  | nil =>
      rw [splitLoop]
      split
      · next hempty => simp [List.isEmpty_iff.mp hempty]
      · simp
  | cons item rest ih =>
      rw [splitLoop]
      split
      · simp [ih]
      · simp [ih]

/-- The batches are the events in order. -/
theorem flatten_splitEventsBySize (p : SinkParams) (events : List QueuedEvent)
    (maxBatchEvents : UInt64) :
    (splitEventsBySize p events maxBatchEvents).flatten = events :=
  flatten_splitLoop p maxBatchEvents events [] _

theorem splitLoop_bounds (p : SinkParams) (maxBatchEvents : UInt64)
    (events current : List QueuedEvent) (currentLen : UInt64)
    (hcurrent : current.length ≤ max 1 maxBatchEvents.toNat) :
    ∀ batch ∈ splitLoop p maxBatchEvents events current currentLen,
      batch ≠ [] ∧ batch.length ≤ max 1 maxBatchEvents.toNat := by
  induction events generalizing current currentLen with
  | nil =>
      intro batch hbatch
      rw [splitLoop] at hbatch
      split at hbatch
      · cases hbatch
      · next hne =>
          obtain rfl := List.mem_singleton.mp hbatch
          exact ⟨fun h => hne (by simp [h]), hcurrent⟩
  | cons item rest ih =>
      intro batch hbatch
      rw [splitLoop] at hbatch
      split at hbatch
      · next hcut =>
          rcases List.mem_cons.mp hbatch with rfl | hlater
          · exact ⟨fun h => by simp [h, cutsBefore] at hcut, hcurrent⟩
          · exact ih [item] _ (le_max_left _ _) batch hlater
      · next hfits =>
          have hroom : (current ++ [item]).length ≤ max 1 maxBatchEvents.toNat := by
            rw [List.length_append, List.length_singleton]
            by_cases hempty : current = []
            · rw [hempty]
              exact le_max_left _ _
            · have hlt : current.length < maxBatchEvents.toNat := by
                by_contra hge
                apply hfits
                simp [cutsBefore, hempty, not_lt.mp hge]
              omega
          exact ih (current ++ [item]) _ hroom batch hbatch

/-- No batch is empty, and none is larger than the limit, except that a limit of
zero still lets single events through. -/
theorem splitEventsBySize_bounds (p : SinkParams) (events : List QueuedEvent)
    (maxBatchEvents : UInt64) :
    ∀ batch ∈ splitEventsBySize p events maxBatchEvents,
      batch ≠ [] ∧ batch.length ≤ max 1 maxBatchEvents.toNat :=
  splitLoop_bounds p maxBatchEvents events [] _ (by simp)

/-! ## What the worker refuses -/

/-- The event and the identity it is sent under pass the validation. -/
def Acceptable (p : SinkParams) (event : WireEvent) : Prop :=
  Text.trim p.controller.agentId ≠ "" ∧ Text.trim p.controller.nodeName ≠ "" ∧
    event.validate = .ok ()

instance (p : SinkParams) (event : WireEvent) : Decidable (Acceptable p event) :=
  inferInstanceAs (Decidable (_ ∧ _ ∧ _))

theorem nextRequest_validate (p : SinkParams) {events : List QueuedEvent}
    (hne : events ≠ []) (hlength : events.length ≤ usizeMax) (s : SinkState)
    (sentAtUnixNanos : UInt64) :
    (s.nextRequest p events sentAtUnixNanos).validate usizeMax = .ok () ↔
      ∀ item ∈ events, Acceptable p item.content := by
  rw [EventBatchRequest.validate_ok_iff]
  obtain ⟨first, hfirst⟩ := List.exists_mem_of_ne_nil events hne
  apply Iff.intro
  · intro ⟨_, hagent, hnode, _, _, hevents⟩ item hitem
    exact ⟨hagent, hnode, hevents item.content (List.mem_map_of_mem hitem)⟩
  · intro hall
    refine ⟨rfl, (hall first hfirst).1, (hall first hfirst).2.1, ?_, ?_, ?_⟩
    · exact fun h => hne (List.map_eq_nil_iff.mp h)
    · simpa [SinkState.nextRequest, Worker.request] using hlength
    · intro event hevent
      obtain ⟨item, hitem, rfl⟩ := List.mem_map.mp hevent
      exact (hall item hitem).2.2

theorem postAttempts_ne_refused (replies : ℕ → HttpReply EventBatchResponse)
    (attempt retries : ℕ) (error : WireError) :
    postAttempts replies attempt retries ≠ .refused error := by
  induction retries generalizing attempt with
  | zero =>
      rw [postAttempts]
      split
      · nofun
      · nofun
  | succ retries ih =>
      rw [postAttempts]
      split
      · nofun
      · exact ih _

/-- Exactly the batches that do not pass the validation are refused. -/
theorem postRequest_exit (request : EventBatchRequest) (retry : Bool)
    (replies : ℕ → HttpReply EventBatchResponse) :
    (postRequest request retry replies).exit = .refused ↔
      ¬ request.validate usizeMax = .ok () := by
  rw [postRequest]
  split
  · next error hinvalid => simp [hinvalid, BatchOutcome.exit]
  · next hvalid =>
      have hposted := postAttempts_ne_refused replies 0 (if retry then maxRetries else 0)
      cases houtcome : postAttempts replies 0 (if retry then maxRetries else 0) with
      | refused error => exact absurd houtcome (hposted error)
      | answered response => simp [hvalid, BatchOutcome.exit]
      | exhausted error => simp [hvalid, BatchOutcome.exit]

end Tapio.Sink
