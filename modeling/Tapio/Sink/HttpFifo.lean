/-
# The buffer of the HTTP sink

The buffer is a bounded queue. Beside the sink runs a queue with its past, which records
what every `send` pushes and every segment that is removed: trimmed from a full buffer, or
taken as a batch. Whatever the calls, the clocks and the outcomes of the POSTs, the buffer is
what waits in that queue, the batches are its segments, and no occurrence is in two.
-/
import Mathlib.Data.List.Perm.Basic
import Tapio.Sink.Http
import Tapio.Transit.Fifo

namespace Tapio.Sink

open Transit Transition

/-- Why a segment was removed from the buffer. -/
inductive Removal
  /-- The buffer was full. With what had been pushed by then, and what was kept. -/
  | trimmed (pushed kept : List SentOccurrence)
  | batch

def Removal.isBatch : Removal → Bool
  | .batch => true
  | .trimmed _ _ => false

/-- The sink with its record. -/
structure HttpRun where
  sink : HttpState
  queue : Fifo Removal SentOccurrence
  /-- What `send` was called with. -/
  sent : List Occurrence

/-- The record of a `send` that makes room. -/
def HttpRun.trim (p : HttpParams) (run : HttpRun) : Fifo Removal SentOccurrence :=
  let drained := run.sink.inner.drainCount p
  if drained = 0 then run.queue
  else
    run.queue.leave (.trimmed run.queue.entered (run.queue.waiting.drop drained)) drained

def HttpRun.record (p : HttpParams) (run : HttpRun) : HttpStep → Fifo Removal SentOccurrence
  | .send occurrence now later =>
      let pushed := run.sink.push p occurrence
      let queue := (run.trim p).enter ⟨run.sink.admitted, occurrence⟩
      if pushed.inner.shouldFlush p now (later - pushed.inner.lastFlush) then
        queue.leaveAll .batch
      else queue
  | .flush _ => if run.sink.inner.buffer.isEmpty then run.queue else run.queue.leaveAll .batch
  | .post _ _ _ => run.queue

def HttpStep.sent : HttpStep → List Occurrence
  | .send occurrence _ _ => [occurrence]
  | .flush _ | .post _ _ _ => []

def httpRunMachine (p : HttpParams) (started : ℕ) : Machine HttpRun HttpStep where
  init := ⟨HttpState.new started, Fifo.empty, []⟩
  step run a :=
    (httpStep p run.sink a).map fun sink => ⟨sink, run.record p a, run.sent ++ a.sent⟩

/-- The record does not keep the sink from any run. -/
theorem exists_run_of_exec {p : HttpParams} {started : ℕ} {run : HttpRun} {t : HttpState}
    {schedule : List HttpStep}
    (h : (httpMachine p started).exec run.sink schedule = some t) :
    ∃ run', (httpRunMachine p started).exec run schedule = some run' ∧ run'.sink = t := by
  induction schedule generalizing run with
  | nil =>
      cases h
      exact ⟨run, rfl, rfl⟩
  | cons a rest ih =>
      obtain ⟨mid, hmid, hrest⟩ := Option.bind_eq_some_iff.mp h
      have hstep : (httpRunMachine p started).step run a =
          some ⟨mid, run.record p a, run.sent ++ a.sent⟩ := by
        change (httpStep p run.sink a).map _ = _
        rw [show httpStep p run.sink a = some mid from hmid]
        rfl
      obtain ⟨run', hrun', heq⟩ := @ih ⟨mid, run.record p a, run.sent ++ a.sent⟩ hrest
      exact ⟨run', by rw [Machine.exec_cons, hstep, Option.bind_some, hrun'], heq⟩

/-! ## A bounded queue -/

/-- The batches that calls have taken. -/
def HttpState.batches (s : HttpState) : List (List SentOccurrence) :=
  s.returned.map (·.batch) ++ s.posting.map (·.batch)

/-- What was trimmed is the oldest part of the buffer as it was, and as many were kept as a
batch should have. -/
def TrimsOldest (p : HttpParams) (queue : Fifo Removal SentOccurrence) : Prop :=
  ∀ pushed kept items, (Removal.trimmed pushed kept, items) ∈ queue.left →
    kept.length = p.bufferSize ∧ items ++ kept <:+ pushed ∧ pushed <+: queue.entered

structure BoundedFifo (p : HttpParams) (run : HttpRun) : Prop where
  /-- What was pushed is what was sent, numbered on. -/
  pushed : run.queue.entered.map (·.content) = run.sent
  numbered : run.queue.entered.map (·.number) = List.range run.sink.admitted
  order : run.queue.entered = run.queue.gone ++ run.sink.inner.buffer
  bounded : run.sink.inner.buffer.length ≤ p.maxBuffer
  trims : TrimsOldest p run.queue
  trimmed : run.sink.trimmed = (run.queue.segments fun reason => !reason.isBatch).flatten
  batches : run.sink.batches.Perm (run.queue.segments Removal.isBatch)
  disjoint : run.queue.left.Pairwise fun first second => first.2.Disjoint second.2

/-- The sink agrees with its record. -/
structure Recorded (p : HttpParams) (run : HttpRun) : Prop where
  pushed : run.queue.entered.map (·.content) = run.sent
  numbered : run.queue.entered.map (·.number) = List.range run.sink.admitted
  waiting : run.queue.waiting = run.sink.inner.buffer
  inOrder : run.queue.InOrder
  bounded : run.sink.inner.buffer.length ≤ p.maxBuffer
  trims : TrimsOldest p run.queue
  trimmed : run.sink.trimmed = (run.queue.segments fun reason => !reason.isBatch).flatten
  batches : run.sink.batches.Perm (run.queue.segments Removal.isBatch)

theorem Recorded.boundedFifo {p : HttpParams} {run : HttpRun} (h : Recorded p run) :
    BoundedFifo p run where
  pushed := h.pushed
  numbered := h.numbered
  order := h.inOrder.trans (congrArg _ h.waiting)
  bounded := h.bounded
  trims := h.trims
  trimmed := h.trimmed
  batches := h.batches
  disjoint := by
    refine h.inOrder.pairwise_disjoint (List.Nodup.of_map (·.number) ?_)
    rw [h.numbered]
    exact List.nodup_range

theorem recorded_new (p : HttpParams) (started : ℕ) :
    Recorded p (httpRunMachine p started).init where
  pushed := rfl
  numbered := rfl
  waiting := rfl
  inOrder := Fifo.inOrder_empty
  bounded := Nat.zero_le _
  trims := fun _ _ _ h => absurd h List.not_mem_nil
  trimmed := rfl
  batches := List.Perm.nil

/-! ## One step -/

variable {p : HttpParams} {run : HttpRun}

/-- As many occurrences stay in a full buffer as a batch should have. -/
theorem length_drop_drainCount {inner : HttpInner} (h : inner.drainCount p ≠ 0) :
    (inner.buffer.drop (inner.drainCount p)).length = p.bufferSize := by
  have hpos := p.bufferSize_pos
  rw [HttpInner.drainCount, HttpParams.maxBuffer] at h ⊢
  rw [List.length_drop]
  split_ifs at h ⊢ <;> omega

/-- There is room after the draining. -/
theorem length_drop_lt {inner : HttpInner} (h : inner.buffer.length ≤ p.maxBuffer) :
    (inner.buffer.drop (inner.drainCount p)).length < p.maxBuffer := by
  have hpos := p.bufferSize_pos
  rw [HttpParams.maxBuffer] at h ⊢
  rw [List.length_drop, HttpInner.drainCount, HttpParams.maxBuffer]
  split_ifs <;> omega

theorem trim_entered : (run.trim p).entered = run.queue.entered := by
  rw [HttpRun.trim]
  split_ifs <;> rfl

theorem Recorded.trim_waiting (h : Recorded p run) :
    (run.trim p).waiting = run.sink.inner.buffer.drop (run.sink.inner.drainCount p) := by
  rw [HttpRun.trim]
  split_ifs with hnone
  · rw [hnone, List.drop_zero, h.waiting]
  · rw [Fifo.leave, h.waiting]

theorem Recorded.trim_inOrder (h : Recorded p run) : (run.trim p).InOrder := by
  rw [HttpRun.trim]
  split_ifs
  · exact h.inOrder
  · exact h.inOrder.leave _ _

/-- A `send` on a full buffer trims the oldest. -/
theorem Recorded.trim_trims (h : Recorded p run) : TrimsOldest p (run.trim p) := by
  rw [HttpRun.trim]
  split_ifs with hfull
  · exact h.trims
  · intro pushed kept items hmem
    rcases List.mem_append.mp hmem with hold | hnew
    · exact h.trims pushed kept items hold
    · cases List.mem_singleton.mp hnew
      refine ⟨?_, ?_, List.prefix_refl _⟩
      · rw [h.waiting]
        exact length_drop_drainCount hfull
      · rw [List.take_append_drop]
        exact ⟨run.queue.gone, h.inOrder.symm⟩

theorem Recorded.trim_trimmed (h : Recorded p run) :
    run.sink.trimmed ++ run.sink.inner.buffer.take (run.sink.inner.drainCount p) =
      ((run.trim p).segments fun reason => !reason.isBatch).flatten := by
  rw [HttpRun.trim]
  split_ifs with hnone
  · rw [hnone, List.take_zero, List.append_nil, h.trimmed]
  · rw [Fifo.segments_leave, List.flatten_append, ← h.trimmed, h.waiting]
    simp [Removal.isBatch]

theorem trim_batches :
    (run.trim p).segments Removal.isBatch = run.queue.segments Removal.isBatch := by
  rw [HttpRun.trim]
  split_ifs
  · rfl
  · rw [Fifo.segments_leave]
    exact List.append_nil _

/-- Pushing an occurrence keeps the record. -/
theorem Recorded.push (h : Recorded p run) (occurrence : Occurrence) :
    Recorded p ⟨run.sink.push p occurrence,
      (run.trim p).enter ⟨run.sink.admitted, occurrence⟩, run.sent ++ [occurrence]⟩ where
  pushed := by
    rw [Fifo.enter, trim_entered, List.map_append, h.pushed]
    rfl
  numbered := by
    rw [Fifo.enter, trim_entered, List.map_append, h.numbered]
    exact List.range_succ.symm
  waiting := by
    rw [Fifo.enter, h.trim_waiting]
    rfl
  inOrder := h.trim_inOrder.enter _
  bounded := by
    rw [HttpState.push, List.length_append, List.length_singleton]
    exact length_drop_lt h.bounded
  trims := by
    intro pushed kept items hmem
    obtain ⟨hlength, hsuffix, hstart⟩ := h.trim_trims pushed kept items hmem
    exact ⟨hlength, hsuffix, hstart.trans (List.prefix_append _ _)⟩
  trimmed := h.trim_trimmed
  batches := by
    have hsame : run.sink.batches.Perm ((run.trim p).segments Removal.isBatch) := by
      rw [trim_batches]
      exact h.batches
    exact hsame

/-- Taking the buffer keeps it. -/
theorem Recorded.take (h : Recorded p run) (call : HttpCall) (now : ℕ) :
    Recorded p ⟨run.sink.take call now, run.queue.leaveAll .batch, run.sent⟩ where
  pushed := h.pushed
  numbered := h.numbered
  waiting := run.queue.waiting_leaveAll .batch
  inOrder := h.inOrder.leave _ _
  bounded := Nat.zero_le _
  trims := by
    intro pushed kept items hmem
    rcases List.mem_append.mp hmem with hold | hnew
    · exact h.trims pushed kept items hold
    · cases List.mem_singleton.mp hnew
  trimmed := by
    rw [Fifo.segments_leaveAll]
    exact h.trimmed.trans (by simp [Removal.isBatch])
  batches := by
    have htaken : (run.sink.take call now).batches =
        run.sink.batches ++ [run.sink.inner.buffer] := by
      simp [HttpState.batches, HttpState.take]
    rw [htaken, Fifo.segments_leaveAll, h.waiting]
    exact h.batches.append_right _

theorem countWrite_inner (s : HttpState) (r : Returned) :
    (s.countWrite r).inner = s.inner ∧ (s.countWrite r).batches = s.batches := by
  rw [HttpState.countWrite]
  split <;> exact ⟨rfl, rfl⟩

/-- A batch that was posting is one of a call that has returned. -/
theorem post_batches {s : HttpState} {index : ℕ} {posting : Posting}
    (hposting : s.posting[index]? = some posting) (outcome : PostOutcome) (now : ℕ) :
    (s.post index posting outcome now).batches.Perm s.batches := by
  obtain ⟨hindex, rfl⟩ := List.getElem?_eq_some_iff.mp hposting
  have hmoved := (List.getElem_cons_eraseIdx_perm hindex).map Posting.batch
  rw [HttpState.post, (countWrite_inner _ _).2, HttpState.batches, HttpState.batches,
    List.map_append, List.append_assoc]
  exact hmoved.append_left _

theorem Recorded.post (h : Recorded p run) {index : ℕ} {posting : Posting}
    (hposting : run.sink.posting[index]? = some posting) (outcome : PostOutcome) (now : ℕ) :
    Recorded p ⟨run.sink.post index posting outcome now, run.queue, run.sent⟩ := by
  have hbuffer : (run.sink.post index posting outcome now).inner.buffer =
      run.sink.inner.buffer := by
    rw [HttpState.post, (countWrite_inner _ _).1]
    exact afterPost_buffer _ _ _
  have hcounted := countWrite_numbers
    { run.sink with
      inner := run.sink.inner.afterPost outcome now
      posting := run.sink.posting.eraseIdx index
      returned := run.sink.returned ++ [⟨posting.call, posting.batch, outcome⟩] }
    ⟨posting.call, posting.batch, outcome⟩
  refine ⟨h.pushed, ?_, h.waiting.trans hbuffer.symm, h.inOrder, ?_, h.trims, ?_,
    (post_batches hposting outcome now).trans h.batches⟩
  · rw [HttpState.post, hcounted.2.1]
    exact h.numbered
  · rw [hbuffer]
    exact h.bounded
  · rw [HttpState.post, hcounted.2.2.2]
    exact h.trimmed

/-- One step keeps the record. -/
theorem Recorded.step {started : ℕ} {run' : HttpRun} {a : HttpStep} (h : Recorded p run)
    (hstep : (httpRunMachine p started).step run a = some run') : Recorded p run' := by
  obtain ⟨sink, hsink, rfl⟩ := Option.map_eq_some_iff.mp hstep
  cases a with
  | send occurrence now later =>
      cases hsink
      have hpushed := h.push occurrence
      rw [HttpState.send, HttpRun.record]
      split_ifs
      · exact hpushed.take .send now
      · exact ⟨hpushed.pushed, hpushed.numbered, hpushed.waiting, hpushed.inOrder,
          hpushed.bounded, hpushed.trims, hpushed.trimmed, hpushed.batches⟩
  | flush now =>
      cases hsink
      rw [HttpState.flush, HttpRun.record, HttpStep.sent, List.append_nil]
      split_ifs
      · exact h
      · exact h.take .flush now
  | post index outcome now =>
      obtain ⟨posting, hposting, rfl⟩ := Option.map_eq_some_iff.mp hsink
      rw [HttpRun.record, HttpStep.sent, List.append_nil]
      exact h.post hposting outcome now

/-- **The buffer is a bounded queue.** In every run what was pushed is what was removed,
segment after segment, and then the buffer; trimming removes the oldest, and no occurrence is
in two batches. -/
theorem boundedFifo_always (p : HttpParams) (started : ℕ) (schedule : List HttpStep) :
    (httpRunMachine p started).Always (BoundedFifo p) (httpRunMachine p started).init
      schedule :=
  Machine.Always.mono (fun _ => Recorded.boundedFifo)
    (Machine.always_of_preserved Recorded.step (recorded_new p started) schedule)

end Tapio.Sink
