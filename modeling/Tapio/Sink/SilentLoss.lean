/-
# No silent loss in the controller sink

Every event for which `send` returned `Ok` should leave the sink delivered or
counted. The sink's runs keep a balanced ledger: each of these events is in the
batches of a flush, in the buffer or in the queue, or it has left through one
exit. But one exit is silent. A batch that fails the worker's own validation is
dropped by an early return that counts nothing, and since a batch is validated
as a whole it takes every other event in it along.

So nothing is lost silently in a run exactly when every event that gets into the
queue passes the validation, and the process has been started with an agent id
and a node name that do.
-/
import Tapio.Sink.Steps

namespace Tapio.Sink

open Wire Numeric Agent Transit Transition

/-! ## The sink keeps a ledger -/

/-- The batches of the flush in progress. -/
def WorkerPhase.batches : WorkerPhase → List (List QueuedEvent)
  | .flushing _ batches _ => batches
  | _ => []

def WorkerMessage.payload : WorkerMessage → Option QueuedEvent
  | .event item => some item
  | .flush => none

/-- The events on their way: in a flush, in the buffer and in the queue. -/
def SinkState.inTransit (s : SinkState) : List QueuedEvent :=
  s.phase.batches.flatten ++ s.worker.buffer ++ s.queue.filterMap WorkerMessage.payload

def SinkState.ledger (s : SinkState) : Ledger WireEvent Exit :=
  ⟨s.admitted, s.inTransit, s.left⟩

/-- The batches of a flush are such that only their events decide about their
validation. -/
def WorkerPhase.WellBatched (phase : WorkerPhase) : Prop :=
  ∀ batch ∈ phase.batches, batch ≠ [] ∧ batch.length ≤ usizeMax

/-- The event that a step puts into the queue. -/
def enqueued (p : SinkParams) (s : SinkState) : SinkStep → Option WireEvent
  | .send occurrence =>
      if s.tx ∧ s.trySend p = .ok then (occurrenceToWireEvent occurrence).toOption else none
  | _ => none

/-- What a step enters into the ledger, given the event it puts into the
queue. -/
inductive Entry (p : SinkParams) (s t : SinkState) : Option WireEvent → Prop
  | nothing (hledger : t.ledger = s.ledger) (hmetrics : t.metrics = s.metrics) :
      Entry p s t none
  | enter (event : WireEvent) (hledger : t.ledger = s.ledger.enter event)
      (hmetrics : t.metrics = s.metrics) : Entry p s t (some event)
  | turnAway (hledger : t.ledger = s.ledger.turnAway .counted)
      (hdrops : t.metrics.sinkDropsTotal = s.metrics.sinkDropsTotal + 1) : Entry p s t none
  | leave (batch : List QueuedEvent) (exit : Exit) (hne : batch ≠ [])
      (hsplit : s.inTransit = batch ++ t.inTransit)
      (hledger : t.ledger = s.ledger.leave batch t.inTransit exit)
      (hrefused : exit = .refused ↔ ¬ ∀ item ∈ batch, Acceptable p item.content)
      (hdrops : t.metrics.sinkDropsTotal =
        s.metrics.sinkDropsTotal + if exit = .counted then batch.length else 0) :
      Entry p s t none

theorem startFlush_inTransit (p : SinkParams) {s : SinkState} (hidle : s.phase.batches = [])
    (cause : FlushCause) (maxBatchEvents : UInt64) :
    (s.startFlush p cause maxBatchEvents).inTransit = s.inTransit := by
  show (splitEventsBySize p s.worker.buffer maxBatchEvents).flatten ++ [] ++ _ =
    s.phase.batches.flatten ++ s.worker.buffer ++ _
  rw [hidle, flatten_splitEventsBySize, List.append_nil]
  rfl

theorem flushIfFull_inTransit (p : SinkParams) {s : SinkState}
    (hidle : s.phase.batches = []) (maxBatchEvents : UInt64) :
    (s.flushIfFull p maxBatchEvents).inTransit = s.inTransit := by
  rw [SinkState.flushIfFull]
  split
  · exact startFlush_inTransit p hidle .batchFull maxBatchEvents
  · unfold SinkState.inTransit
    rw [hidle]
    rfl

@[simp]
theorem flushIfFull_admitted (p : SinkParams) (s : SinkState) (maxBatchEvents : UInt64) :
    (s.flushIfFull p maxBatchEvents).admitted = s.admitted := by
  rw [SinkState.flushIfFull]
  split <;> rfl

@[simp]
theorem flushIfFull_left (p : SinkParams) (s : SinkState) (maxBatchEvents : UInt64) :
    (s.flushIfFull p maxBatchEvents).left = s.left := by
  rw [SinkState.flushIfFull]
  split <;> rfl

@[simp]
theorem flushIfFull_metrics (p : SinkParams) (s : SinkState) (maxBatchEvents : UInt64) :
    (s.flushIfFull p maxBatchEvents).metrics = s.metrics := by
  rw [SinkState.flushIfFull]
  split <;> rfl

/-- The event taken out of the queue is at the end of the buffer. -/
theorem push_inTransit {s : SinkState} {event : QueuedEvent} {rest : List WorkerMessage}
    (hqueue : s.queue = .event event :: rest) :
    (s.push event rest).inTransit = s.inTransit := by
  simp [SinkState.push, SinkState.inTransit, hqueue, WorkerMessage.payload]

/-- A step that moves events on, if anything. -/
theorem Entry.of_moved {p : SinkParams} {s t : SinkState} (hadmitted : t.admitted = s.admitted)
    (hleft : t.left = s.left) (hmetrics : t.metrics = s.metrics)
    (hinTransit : t.inTransit = s.inTransit) : Entry p s t none := by
  apply Entry.nothing
  · unfold SinkState.ledger
    rw [hadmitted, hleft, hinTransit]
  · exact hmetrics

theorem Entry.of_dropped {p : SinkParams} {s : SinkState} {metrics : SinkMetrics}
    (hdrops : metrics.sinkDropsTotal = s.metrics.sinkDropsTotal + 1) :
    Entry p s (s.dropEvent metrics) none :=
  .turnAway rfl hdrops

theorem settle_drops (s : SinkState) (events : List QueuedEvent) (outcome : BatchOutcome) :
    (s.settle events outcome).metrics.sinkDropsTotal =
      s.metrics.sinkDropsTotal + if outcome.exit = .counted then events.length else 0 := by
  cases outcome with
  | refused error => rfl
  | answered response => rfl
  | exhausted error =>
      show s.metrics.queueFull + s.metrics.workerStopped +
        (s.metrics.sendFailed + events.length) = _
      rw [← Nat.add_assoc]
      rfl

/-- A batch leaves as a whole. -/
theorem postNext_entry (p : SinkParams) {s : SinkState} (hbatched : s.phase.WellBatched)
    {cause : FlushCause} {events : List QueuedEvent} {rest : List (List QueuedEvent)}
    {lastError : Option ExchangeError}
    (hphase : s.phase = .flushing cause (events :: rest) lastError)
    (sentAtUnixNanos : UInt64) (replies : ℕ → HttpReply EventBatchResponse) :
    Entry p s (s.postNext p cause events rest lastError sentAtUnixNanos replies) none := by
  obtain ⟨hne, hlength⟩ := hbatched events (by rw [hphase]; exact List.mem_cons_self)
  have hvalid := nextRequest_validate p hne hlength s sentAtUnixNanos
  have hexit := postRequest_exit (s.nextRequest p events sentAtUnixNanos) cause.retry replies
  apply Entry.leave events _ hne
  · show s.phase.batches.flatten ++ _ ++ _ = events ++ (rest.flatten ++ _ ++ _)
    rw [hphase]
    simp [WorkerPhase.batches]
    rfl
  · rfl
  · exact hexit.trans (not_congr hvalid)
  · exact settle_drops _ _ _

theorem tryEnqueue_ok {p : SinkParams} {s : SinkState} (htry : s.trySend p = .ok)
    (event : WireEvent) :
    Entry p s (s.tryEnqueueControllerEvent p event) (some event) := by
  rw [SinkState.tryEnqueueControllerEvent]
  rw [htry]
  apply Entry.enter
  · simp [SinkState.ledger, SinkState.inTransit, Ledger.enter, WorkerMessage.payload]
  · rfl

theorem tryEnqueue_dropped {p : SinkParams} {s : SinkState} (htry : s.trySend p ≠ .ok)
    (event : WireEvent) : Entry p s (s.tryEnqueueControllerEvent p event) none := by
  rw [SinkState.tryEnqueueControllerEvent]
  cases hresult : s.trySend p with
  | ok => exact absurd hresult htry
  | full =>
      apply Entry.of_dropped
      simp only [SinkMetrics.sinkDropsTotal]
      omega
  | disconnected =>
      apply Entry.of_dropped
      simp only [SinkMetrics.sinkDropsTotal]
      omega

/-- An event of `send` is put into the queue or dropped and counted. -/
theorem send_entry (p : SinkParams) (s : SinkState) (occurrence : Occurrence) :
    Entry p s (s.send p occurrence) (enqueued p s (.send occurrence)) := by
  simp only [SinkState.send, enqueued]
  cases hevent : occurrenceToWireEvent occurrence with
  | error e =>
      simp only [Except.toOption, ite_self]
      exact .of_moved rfl rfl rfl rfl
  | ok event =>
      by_cases htx : s.tx = true
      · by_cases htry : s.trySend p = .ok
        · simpa [htx, htry, Except.toOption] using tryEnqueue_ok htry event
        · simpa [htx, htry] using tryEnqueue_dropped htry event
      · have hdropped : Entry p s (s.dropEvent
            { s.metrics with workerStopped := s.metrics.workerStopped + 1 }) none := by
          apply Entry.of_dropped
          simp only [SinkMetrics.sinkDropsTotal]
          omega
        simpa [htx] using hdropped

/-- A phase without batches may follow another. -/
theorem inTransit_of_idle {s : SinkState} (hidle : s.phase.batches = [])
    {phase : WorkerPhase} (hidle' : phase.batches = []) :
    SinkState.inTransit { s with phase := phase } = s.inTransit := by
  unfold SinkState.inTransit
  rw [hidle, hidle']

theorem finishFlush_entry (p : SinkParams) {s : SinkState} {cause : FlushCause}
    {lastError : Option ExchangeError} (hphase : s.phase = .flushing cause [] lastError) :
    Entry p s (s.finishFlush cause lastError) none := by
  have hidle : s.phase.batches = [] := congrArg WorkerPhase.batches hphase
  cases cause <;> exact .of_moved rfl rfl rfl (inTransit_of_idle hidle rfl)

theorem flushRequest_inTransit {s : SinkState} {rest : List WorkerMessage}
    (hqueue : s.queue = .flush :: rest) :
    SinkState.inTransit { s with queue := rest } = s.inTransit := by
  unfold SinkState.inTransit
  rw [hqueue, List.filterMap_cons_none rfl]

/-- **One step, one entry.** -/
theorem entry_of_step {p : SinkParams} {s t : SinkState} {a : SinkStep}
    (hbatched : s.phase.WellBatched) (hstep : sinkStep p s a = some t) :
    Entry p s t (enqueued p s a) := by
  cases stepped_of_step hstep with
  | setBatching sendIntervalMs maxBatchEvents => exact .of_moved rfl rfl rfl rfl
  | send occurrence => exact send_entry p s occurrence
  | flush htx =>
      refine .of_moved rfl rfl rfl ?_
      simp [SinkState.inTransit, WorkerMessage.payload]
  | drop => exact .of_moved rfl rfl rfl rfl
  | readLimits hphase =>
      exact .of_moved rfl rfl rfl
        (inTransit_of_idle (congrArg WorkerPhase.batches hphase) rfl)
  | @recvEvent maxBatchEvents event rest hphase hqueue =>
      have hidle : (s.push event rest).phase.batches = [] :=
        congrArg WorkerPhase.batches hphase
      apply Entry.of_moved
      · exact flushIfFull_admitted p _ _
      · exact flushIfFull_left p _ _
      · exact flushIfFull_metrics p _ _
      · exact (flushIfFull_inTransit p hidle _).trans (push_inTransit hqueue)
  | @recvFlush maxBatchEvents rest hphase hqueue =>
      have hidle : WorkerPhase.batches (SinkState.phase { s with queue := rest }) = [] :=
        congrArg WorkerPhase.batches hphase
      exact .of_moved rfl rfl rfl
        ((startFlush_inTransit p hidle _ _).trans (flushRequest_inTransit hqueue))
  | timeout hphase =>
      exact .of_moved rfl rfl rfl
        (startFlush_inTransit p (congrArg WorkerPhase.batches hphase) _ _)
  | disconnected hphase hqueue htx =>
      exact .of_moved rfl rfl rfl
        (startFlush_inTransit p (congrArg WorkerPhase.batches hphase) _ _)
  | post sentAtUnixNanos replies hphase =>
      exact postNext_entry p hbatched hphase sentAtUnixNanos replies
  | finish hphase => exact finishFlush_entry p hphase

/-! ## What holds in every state -/

/-- The worker has seen the queue empty and its sending end gone. -/
def WorkerPhase.closing : WorkerPhase → Prop
  | .flushing .disconnected _ _ => True
  | .stopped => True
  | _ => False

structure Sound (s : SinkState) : Prop where
  batched : s.phase.WellBatched
  /-- Nothing arrives any more behind the batches of the last flush. -/
  closed : s.phase.closing → s.tx = false ∧ s.queue = [] ∧ s.worker.buffer = []
  balanced : s.ledger.Balanced
  /-- The counter counts the events that left through it. -/
  drops : s.metrics.sinkDropsTotal = s.left.countP (·.2 = .counted)

theorem wellBatched_of_idle {phase : WorkerPhase} (hidle : phase.batches = []) :
    phase.WellBatched := by
  rw [WorkerPhase.WellBatched]
  rw [hidle]
  nofun

theorem startFlush_wellBatched (p : SinkParams) (s : SinkState) (cause : FlushCause)
    (maxBatchEvents : UInt64) : (s.startFlush p cause maxBatchEvents).phase.WellBatched := by
  intro batch hbatch
  obtain ⟨hne, hlength⟩ := splitEventsBySize_bounds p s.worker.buffer maxBatchEvents batch hbatch
  refine ⟨hne, hlength.trans (max_le (by decide) ?_)⟩
  exact toNat_le_u64Max maxBatchEvents

theorem flushIfFull_wellBatched (p : SinkParams) (s : SinkState) (maxBatchEvents : UInt64) :
    (s.flushIfFull p maxBatchEvents).phase.WellBatched := by
  rw [SinkState.flushIfFull]
  split
  · exact startFlush_wellBatched p s .batchFull maxBatchEvents
  · exact wellBatched_of_idle rfl

theorem flushIfFull_not_closing (p : SinkParams) (s : SinkState) (maxBatchEvents : UInt64) :
    ¬ (s.flushIfFull p maxBatchEvents).phase.closing := by
  rw [SinkState.flushIfFull]
  split <;> exact id

theorem batched_of_step {p : SinkParams} {s t : SinkState} {a : SinkStep}
    (hbatched : s.phase.WellBatched) (hstep : sinkStep p s a = some t) :
    t.phase.WellBatched := by
  cases stepped_of_step hstep with
  | setBatching sendIntervalMs maxBatchEvents => exact hbatched
  | send occurrence =>
      rw [(send_worker p s occurrence).1]
      exact hbatched
  | flush htx => exact hbatched
  | drop => exact hbatched
  | readLimits hphase => exact wellBatched_of_idle rfl
  | recvEvent hphase hqueue => exact flushIfFull_wellBatched p _ _
  | recvFlush hphase hqueue => exact startFlush_wellBatched p _ _ _
  | timeout hphase => exact startFlush_wellBatched p _ _ _
  | disconnected hphase hqueue htx => exact startFlush_wellBatched p _ _ _
  | post sentAtUnixNanos replies hphase =>
      intro batch hbatch
      apply hbatched batch
      rw [hphase]
      exact List.mem_cons_of_mem _ hbatch
  | @finish cause lastError hphase =>
      apply wellBatched_of_idle
      cases cause <;> rfl

theorem closed_of_step {p : SinkParams} {s t : SinkState} {a : SinkStep}
    (hclosed : s.phase.closing → s.tx = false ∧ s.queue = [] ∧ s.worker.buffer = [])
    (hstep : sinkStep p s a = some t) (hclosing : t.phase.closing) :
    t.tx = false ∧ t.queue = [] ∧ t.worker.buffer = [] := by
  cases stepped_of_step hstep with
  | setBatching sendIntervalMs maxBatchEvents => exact hclosed hclosing
  | send occurrence =>
      obtain ⟨hphase, hworker, htx⟩ := send_worker p s occurrence
      rw [hphase] at hclosing
      obtain ⟨hgone, hqueue, hbuffer⟩ := hclosed hclosing
      rw [hworker, htx, send_queue_of_closed p hgone]
      exact ⟨hgone, hqueue, hbuffer⟩
  | flush htx => exact absurd (hclosed hclosing).1 (by simp [htx])
  | drop => exact ⟨rfl, (hclosed hclosing).2⟩
  | readLimits hphase => exact hclosing.elim
  | recvEvent hphase hqueue => exact absurd hclosing (flushIfFull_not_closing p _ _)
  | recvFlush hphase hqueue => exact hclosing.elim
  | timeout hphase => exact hclosing.elim
  | disconnected hphase hqueue htx => exact ⟨htx, hqueue, rfl⟩
  | @post cause events rest lastError sentAtUnixNanos replies hphase =>
      apply hclosed
      rw [hphase]
      cases cause <;> exact hclosing
  | @finish cause lastError hphase =>
      cases cause with
      | disconnected => exact hclosed (by rw [hphase]; trivial)
      | batchFull => exact hclosing.elim
      | requested => exact hclosing.elim
      | timedOut => exact hclosing.elim

/-- An entry keeps the balance, and the counter in step with it. -/
theorem Entry.accounts {p : SinkParams} {s t : SinkState} {event : Option WireEvent}
    (hentry : Entry p s t event) (hbalanced : s.ledger.Balanced)
    (hdrops : s.metrics.sinkDropsTotal = s.left.countP (·.2 = .counted)) :
    t.ledger.Balanced ∧
      t.metrics.sinkDropsTotal = t.left.countP (·.2 = .counted) := by
  have hleft : t.left = t.ledger.left := rfl
  cases hentry with
  | nothing hledger hmetrics =>
      rw [hleft, hledger, hmetrics]
      exact ⟨hbalanced, hdrops⟩
  | enter event hledger hmetrics =>
      rw [hleft, hledger, hmetrics]
      exact ⟨hbalanced.enter event, hdrops⟩
  | turnAway hledger hcount =>
      rw [hleft, hledger, hcount, hdrops]
      exact ⟨hbalanced.turnAway .counted, by simp [Ledger.turnAway, SinkState.ledger]⟩
  | leave batch exit hne hsplit hledger hrefused hcount =>
      rw [hleft, hledger, hcount, hdrops]
      refine ⟨hbalanced.leave hsplit exit, ?_⟩
      simp only [Ledger.leave, SinkState.ledger, List.countP_append, Ledger.countP_leaving]
      exact Nat.add_comm _ _

theorem sound_new : Sound SinkState.new where
  batched := wellBatched_of_idle rfl
  closed hclosing := hclosing.elim
  balanced := Ledger.balanced_empty
  drops := rfl

/-- Every step keeps the accounts. -/
theorem sound_of_step {p : SinkParams} {s t : SinkState} {a : SinkStep} (hs : Sound s)
    (hstep : sinkStep p s a = some t) : Sound t := by
  obtain ⟨hbalanced, hdrops⟩ :=
    (entry_of_step hs.batched hstep).accounts hs.balanced hs.drops
  exact ⟨batched_of_step hs.batched hstep, closed_of_step hs.closed hstep, hbalanced, hdrops⟩

/-! ## When nothing is lost silently -/

/-- Every event that `send` took is in one of two classes: it was delivered, or it
was counted once. -/
def NoSilentLoss (s : SinkState) : Prop :=
  s.metrics.sinkDropsTotal = s.left.countP (·.2 = .counted) ∧
    ∀ number < s.admitted,
      ((number, .delivered) ∈ s.left ∧ s.left.count (number, .counted) = 0) ∨
        ((number, .delivered) ∉ s.left ∧ s.left.count (number, .counted) = 1)

/-- The sink is dropped and the worker joined. -/
def Joined (s : SinkState) : Prop := s.tx = false ∧ s.phase = .stopped

instance (s : SinkState) : Decidable (Joined s) :=
  match hphase : s.phase with
  | .stopped => decidable_of_iff (s.tx = false) (by simp [Joined, hphase])
  | .readingLimits | .waiting _ | .flushing _ _ _ => isFalse (by simp [Joined, hphase])

/-- Nothing has been refused, and nothing on its way will be. -/
def Clean (p : SinkParams) (s : SinkState) : Prop :=
  (∀ entry ∈ s.left, entry.2 ≠ .refused) ∧
    ∀ item ∈ s.inTransit, Acceptable p item.content

/-- A step is safe when the event it puts into the queue, if any, will pass the
validation. -/
def EnqueuesAcceptable (p : SinkParams) (s : SinkState) (a : SinkStep) : Prop :=
  ∀ event ∈ enqueued p s a, Acceptable p event

instance (p : SinkParams) (s : SinkState) (a : SinkStep) :
    Decidable (EnqueuesAcceptable p s a) :=
  inferInstanceAs (Decidable (∀ event ∈ enqueued p s a, _))

instance (s : SinkState) : Decidable (NoSilentLoss s) :=
  inferInstanceAs (Decidable (_ ∧ ∀ number < s.admitted, _))

/-- A step keeps the sink clean when it is safe, and nothing cleans a sink that is
not. -/
theorem Entry.clean_iff {p : SinkParams} {s t : SinkState} {event : Option WireEvent}
    (hentry : Entry p s t event) :
    Clean p t ↔ Clean p s ∧ ∀ e ∈ event, Acceptable p e := by
  have hin : t.inTransit = t.ledger.inTransit := rfl
  have hleft : t.left = t.ledger.left := rfl
  unfold Clean
  cases hentry with
  | nothing hledger hmetrics =>
      rw [hin, hleft, hledger]
      simp [SinkState.ledger]
  | enter event hledger hmetrics =>
      rw [hin, hleft, hledger]
      simp [SinkState.ledger, Ledger.enter, or_imp, forall_and, and_assoc]
  | turnAway hledger hcount =>
      rw [hin, hleft, hledger]
      simp [SinkState.ledger, Ledger.turnAway]
  | leave batch exit hne hsplit hledger hrefused hcount =>
      have hbatch : (∀ entry ∈ Ledger.leaving batch exit, entry.2 ≠ .refused) ↔
          ∀ item ∈ batch, Acceptable p item.content := by
        rw [← not_not (a := ∀ item ∈ batch, _), ← hrefused]
        apply Iff.intro
        · intro hnone hexit
          obtain ⟨entry, hmem, heq⟩ := Ledger.leaving_ne_nil hne exit
          exact hnone entry hmem (heq.trans hexit)
        · intro hexit entry hmem heq
          exact hexit ((Ledger.mem_leaving hmem).symm.trans heq)
      rw [hleft, hledger, hsplit]
      simp only [Ledger.leave, SinkState.ledger, List.forall_mem_append, hbatch]
      simp [and_assoc, and_comm]

/-- In the end, lost silently means refused. -/
theorem noSilentLoss_iff_clean (p : SinkParams) {s : SinkState} (hs : Sound s)
    (hjoined : Joined s) : NoSilentLoss s ↔ Clean p s := by
  obtain ⟨htx, hstopped⟩ := hjoined
  have hempty : s.inTransit = [] := by
    obtain ⟨-, hqueue, hbuffer⟩ := hs.closed (by rw [hstopped]; trivial)
    rw [SinkState.inTransit]
    rw [hstopped, hqueue, hbuffer]
    rfl
  apply Iff.intro
  · intro ⟨_, hclasses⟩
    refine ⟨fun ⟨number, exit⟩ hentry hexit => ?_, by simp [hempty]⟩
    obtain rfl : exit = .refused := hexit
    rcases hclasses number (hs.balanced.lt_admitted hentry) with ⟨hdelivered, _⟩ | ⟨_, hcounted⟩
    · exact absurd (hs.balanced.exit_unique hentry hdelivered) (by decide)
    · have hmem : (number, Exit.counted) ∈ s.left :=
        List.count_pos_iff.mp (by omega)
      exact absurd (hs.balanced.exit_unique hentry hmem) (by decide)
  · intro ⟨hnone, _⟩
    refine ⟨hs.drops, fun number hnumber => ?_⟩
    obtain ⟨exit, hentry⟩ := hs.balanced.mem_left hempty hnumber
    cases exit with
    | delivered =>
        refine .inl ⟨hentry, List.count_eq_zero.mpr fun hmem => ?_⟩
        exact absurd (hs.balanced.exit_unique hentry hmem) (by decide)
    | counted =>
        refine .inr ⟨fun hmem => ?_, hs.balanced.count_left hentry⟩
        exact absurd (hs.balanced.exit_unique hentry hmem) (by decide)
    | refused => exact absurd rfl (hnone _ hentry)

/-- **When nothing is lost silently.** A run that ends with the sink dropped and
the worker joined has delivered or counted every event that `send` took exactly
when every event that got into the queue passes the validation that its batch
goes through. -/
theorem noSilentLoss_iff (p : SinkParams) {schedule : List SinkStep} {s : SinkState}
    (hrun : (sinkMachine p).exec SinkState.new schedule = some s) (hjoined : Joined s) :
    NoSilentLoss s ↔
      (sinkMachine p).EachStep (EnqueuesAcceptable p) SinkState.new schedule := by
  have hsound : Sound s := Machine.exec_preserves sound_of_step sound_new hrun
  have hclean : Clean p SinkState.new := by
    constructor <;> nofun
  rw [noSilentLoss_iff_clean p hsound hjoined,
    Machine.iff_eachStep_of_exec sound_of_step
      (fun hs hstep => (entry_of_step hs.batched hstep).clean_iff) sound_new hrun]
  exact and_iff_right hclean

/-- A refused connection, as the network observer reports it. -/
def connectionRefused : Occurrence where
  timestamp := "2023-11-14T22:13:20.123456789+00:00"
  occurrenceType := "kernel.network.connection_refused"
  severity := .warning
  data := some (.object [("dst_port", .number (.posInt 5432))])

/-- The same for a connection to another port. -/
def connectionRefusedBy (port : UInt64) : Occurrence :=
  { connectionRefused with data := some (.object [("dst_port", .number (.posInt port))]) }

/-- A sink of an agent with the given id, with the lengths of the encodings of a refused
connection to a port of four digits and of a request without events. -/
def sinkOf (agentId : String) : SinkParams where
  controller := ⟨agentId, "worker-1"⟩
  queueCapacity := defaultQueueCapacity
  maxRequestBytes := defaultMaxRequestBytes
  serializedEventLen := fun _ => 155
  serializedEmptyBatchLen := 118

/-- A sink with room for two events in its queue. -/
def shortQueue : SinkParams := { sinkOf "node/worker-1" with queueCapacity := 2 }

/-- The answer to a batch of which all events are accepted. -/
def allAccepted (accepted : UInt64) : HttpReply EventBatchResponse :=
  .response 200 (.ok ⟨Wire.wireVersion, accepted, 0, "cfg-7"⟩)

/-- Of three events that are sent before the worker reads, the first two make a batch. A
fourth is posted after a timeout, and a fifth waits in the queue. -/
def twoBatches : List SinkStep :=
  [.setBatching 1000 2, .send (connectionRefusedBy 5432), .send (connectionRefusedBy 6379),
    .send (connectionRefusedBy 3306), .readLimits, .recv, .readLimits, .recv,
    .post 1700000001000000000 (fun _ => allAccepted 2), .finish,
    .send (connectionRefusedBy 8080), .readLimits, .recv, .readLimits, .timeout,
    .post 1700000002000000000 (fun _ => .failed "read: timed out"), .finish,
    .send (connectionRefusedBy 9092)]

/-- The sink is dropped, and the worker posts what it has. -/
def dropping (reply : HttpReply EventBatchResponse) : List SinkStep :=
  [.drop, .readLimits, .recv, .readLimits, .disconnected,
    .post 1700000003000000000 (fun _ => reply), .finish]

/-- Three events are delivered, one is counted at the queue and one after its retries. -/
theorem noSilentLoss_twoBatches :
    ∃ s ∈ (sinkMachine shortQueue).exec SinkState.new (twoBatches ++ dropping (allAccepted 1)),
      s.metrics.queueFull = 1 ∧ s.metrics.sendFailed = 1 ∧ s.admitted = 5 ∧ NoSilentLoss s := by
  have hends : ∃ s ∈ (sinkMachine shortQueue).exec SinkState.new
      (twoBatches ++ dropping (allAccepted 1)),
      (s.metrics.queueFull = 1 ∧ s.metrics.sendFailed = 1 ∧ s.admitted = 5) ∧ Joined s := by
    decide +kernel
  obtain ⟨s, hrun, ⟨hfull, hfailed, hadmitted⟩, hjoined⟩ := hends
  have hsilent := (noSilentLoss_iff _ hrun hjoined).mpr (by decide +kernel)
  exact ⟨s, hrun, hfull, hfailed, hadmitted, hsilent⟩

/-- Under an empty agent id the event is neither posted nor counted. -/
theorem not_noSilentLoss_emptyAgentId :
    ∃ s ∈ (sinkMachine (sinkOf "")).exec SinkState.new
      (.send connectionRefused :: dropping (.failed "read: timed out")),
      Joined s ∧ ¬ NoSilentLoss s := by
  decide +kernel

end Tapio.Sink
