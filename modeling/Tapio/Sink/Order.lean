/-
# The controller sink keeps the order

What the worker has put into batches, batch after batch, and what is still on its way are
the events that got into the queue, in the order in which they did. So no event is posted
under two sequence numbers, and none overtakes another.
-/
import Tapio.Sink.SilentLoss
import Tapio.Transition.Trace

namespace Tapio.Sink

open Wire Agent Transit Transition

/-- The events of the batches made so far, and those that wait for theirs. -/
def SinkState.stream (s : SinkState) : List WireEvent :=
  s.made.flatMap (·.events) ++ s.inTransit.map (·.content)

/-- What a step does to the batches it does not make. -/
theorem stream_of_moved {s t : SinkState} (hmade : t.made = s.made)
    (hinTransit : t.inTransit = s.inTransit) : t.stream = s.stream := by
  rw [SinkState.stream]
  rw [hmade, hinTransit]
  rfl

@[simp]
theorem flushIfFull_made (p : SinkParams) (s : SinkState) (maxBatchEvents : UInt64) :
    (s.flushIfFull p maxBatchEvents).made = s.made := by
  rw [SinkState.flushIfFull]
  split <;> rfl

theorem tryEnqueue_stream (p : SinkParams) (s : SinkState) (event : WireEvent) :
    (s.tryEnqueueControllerEvent p event).stream =
      s.stream ++ if s.trySend p = .ok then [event] else [] := by
  rw [SinkState.tryEnqueueControllerEvent]
  cases s.trySend p with
  | ok => simp [SinkState.stream, SinkState.inTransit, WorkerMessage.payload]
  | full => exact (stream_of_moved rfl rfl).trans (List.append_nil _).symm
  | disconnected => exact (stream_of_moved rfl rfl).trans (List.append_nil _).symm

/-- An event that is dropped at the door does not get into the stream. -/
theorem send_stream (p : SinkParams) (s : SinkState) (occurrence : Occurrence) :
    (s.send p occurrence).stream = s.stream ++ (enqueued p s (.send occurrence)).toList := by
  simp only [SinkState.send, enqueued]
  cases hevent : occurrenceToWireEvent occurrence with
  | error e => simp [Except.toOption]
  | ok event =>
      by_cases htx : s.tx = true
      · simp only [htx, true_and, if_true, Except.toOption]
        rw [tryEnqueue_stream]
        split <;> rfl
      · rw [if_neg (fun hopen => htx hopen.1), Option.toList_none, List.append_nil]
        simp only [htx]
        exact stream_of_moved rfl rfl

/-- Posting turns the first waiting events into a batch. -/
theorem postNext_stream (p : SinkParams) {s : SinkState} {cause : FlushCause}
    {events : List QueuedEvent} {rest : List (List QueuedEvent)}
    {lastError : Option ExchangeError}
    (hphase : s.phase = .flushing cause (events :: rest) lastError)
    (sentAtUnixNanos : UInt64) (replies : ℕ → HttpReply EventBatchResponse) :
    (s.postNext p cause events rest lastError sentAtUnixNanos replies).stream = s.stream := by
  have hmade : (s.postNext p cause events rest lastError sentAtUnixNanos replies).made =
      s.made ++ [s.nextRequest p events sentAtUnixNanos] := rfl
  have hnext : (s.nextRequest p events sentAtUnixNanos).events = events.map (·.content) := rfl
  have hafter : (s.postNext p cause events rest lastError sentAtUnixNanos replies).inTransit =
      rest.flatten ++ s.worker.buffer ++ s.queue.filterMap WorkerMessage.payload := rfl
  have hbefore : s.inTransit = events ++
      (rest.flatten ++ s.worker.buffer ++ s.queue.filterMap WorkerMessage.payload) := by
    rw [SinkState.inTransit]
    rw [hphase]
    simp [WorkerPhase.batches]
  have hcontents : ∀ later : List QueuedEvent, (events ++ later).map (·.content) =
      events.map (·.content) ++ later.map (·.content) := fun _ => List.map_append
  rw [SinkState.stream, SinkState.stream]
  rw [hmade, hafter, hbefore, List.flatMap_append, List.flatMap_singleton, hnext,
    List.append_assoc, hcontents]

/-- **One step** extends the stream by the event it puts into the queue, if any. -/
theorem stream_of_step {p : SinkParams} {s t : SinkState} {a : SinkStep}
    (hstep : sinkStep p s a = some t) : t.stream = s.stream ++ (enqueued p s a).toList := by
  have hmoved : ∀ {t : SinkState}, t.stream = s.stream → t.stream = s.stream ++ [] :=
    fun h => h.trans (List.append_nil _).symm
  cases stepped_of_step hstep with
  | setBatching sendIntervalMs maxBatchEvents => exact hmoved rfl
  | send occurrence => exact send_stream p s occurrence
  | flush htx =>
      refine hmoved (stream_of_moved rfl ?_)
      simp [SinkState.inTransit, WorkerMessage.payload]
  | drop => exact hmoved rfl
  | readLimits hphase =>
      exact hmoved (stream_of_moved rfl
        (inTransit_of_idle (congrArg WorkerPhase.batches hphase) rfl))
  | @recvEvent maxBatchEvents event rest hphase hqueue =>
      have hidle : (s.push event rest).phase.batches = [] :=
        congrArg WorkerPhase.batches hphase
      refine hmoved (stream_of_moved (flushIfFull_made p _ _) ?_)
      exact (flushIfFull_inTransit p hidle _).trans (push_inTransit hqueue)
  | @recvFlush maxBatchEvents rest hphase hqueue =>
      have hidle : WorkerPhase.batches (SinkState.phase { s with queue := rest }) = [] :=
        congrArg WorkerPhase.batches hphase
      exact hmoved (stream_of_moved rfl
        ((startFlush_inTransit p hidle _ _).trans (flushRequest_inTransit hqueue)))
  | timeout hphase =>
      exact hmoved (stream_of_moved rfl
        (startFlush_inTransit p (congrArg WorkerPhase.batches hphase) _ _))
  | disconnected hphase hqueue htx =>
      exact hmoved (stream_of_moved rfl
        (startFlush_inTransit p (congrArg WorkerPhase.batches hphase) _ _))
  | post sentAtUnixNanos replies hphase =>
      exact hmoved (postNext_stream p hphase sentAtUnixNanos replies)
  | @finish cause lastError hphase =>
      have hidle : s.phase.batches = [] := congrArg WorkerPhase.batches hphase
      refine hmoved ?_
      cases cause <;> exact stream_of_moved rfl (inTransit_of_idle hidle rfl)

/-- The events that got into the queue along a schedule. -/
def enqueuedAlong (p : SinkParams) (schedule : List SinkStep) : List WireEvent :=
  (sinkMachine p).trace (fun s a => (enqueued p s a).toList) SinkState.new schedule

/-- The wire event that a step offers to the sink. -/
def offered : SinkStep → Option WireEvent
  | .send occurrence => (occurrenceToWireEvent occurrence).toOption
  | _ => none

theorem enqueued_sublist_offered (p : SinkParams) (s : SinkState) (a : SinkStep) :
    (enqueued p s a).toList.Sublist (offered a).toList := by
  cases a with
  | send occurrence =>
      rw [enqueued]
      split
      · exact List.Sublist.refl _
      · exact List.nil_sublist _
  | _ => exact List.Sublist.slnil

/-- **The sink keeps the order.** In every run the batches hold, one after the other, the
first of the events that got into the queue, the others wait in the same order, and both
together are part of what was sent, in the order in which it was. -/
theorem stream_eq_enqueuedAlong (p : SinkParams) {schedule : List SinkStep} {s : SinkState}
    (hrun : (sinkMachine p).exec SinkState.new schedule = some s) :
    s.made.flatMap (·.events) ++ s.inTransit.map (·.content) = enqueuedAlong p schedule ∧
      (enqueuedAlong p schedule).Sublist (schedule.filterMap offered) := by
  apply And.intro
  · exact Machine.exec_trace (J := fun _ => True) SinkState.stream
      (fun _ _ => trivial) (fun _ hstep => stream_of_step hstep) trivial hrun
  · have hlabels : (sinkMachine p).trace (fun _ a => (offered a).toList) SinkState.new schedule =
        schedule.filterMap offered := by
      rw [Machine.trace_label (fun a => (offered a).toList) hrun,
        List.filterMap_eq_flatMap_toList]
    rw [← hlabels]
    exact Machine.trace_sublist (enqueued_sublist_offered p) SinkState.new schedule

/-- Five events are sent: two and one make the batches, one waits, one found no room. -/
theorem stream_eq_enqueuedAlong_twoBatches :
    ∃ s ∈ (sinkMachine shortQueue).exec SinkState.new twoBatches,
      s.made.map (·.events.length) = [2, 1] ∧ s.inTransit.length = 1 ∧
        s.made.flatMap (·.events) ++ s.inTransit.map (·.content) =
          enqueuedAlong shortQueue twoBatches ∧
        (enqueuedAlong shortQueue twoBatches).Sublist (twoBatches.filterMap offered) := by
  have hends : ∃ s ∈ (sinkMachine shortQueue).exec SinkState.new twoBatches,
      s.made.map (·.events.length) = [2, 1] ∧ s.inTransit.length = 1 := by decide +kernel
  obtain ⟨s, hrun, hmade, hwaiting⟩ := hends
  exact ⟨s, hrun, hmade, hwaiting, stream_eq_enqueuedAlong _ hrun⟩

end Tapio.Sink
