/-
# What becomes of what the OTLP sink was sent

Beside the sink runs a queue with its past, which records what every `send` pushes and every
segment that is removed from the buffer. In every run the segments are the batches, nothing
was dropped from a full buffer, and a batch whose call has returned without an error is one
that the collector has accepted and can read.
-/
import Tapio.Sink.OtlpBuffer
import Tapio.Sink.OtlpSchema

namespace Tapio.Sink

open Transit Transition

/-! ## An export among others -/

theorem attempt_eq_none {sink : OtlpSink} {network : Network} {body : List UInt8} {attempt : ℕ}
    (h : sink.attempt network body attempt = none) : attempt < sink.retryBackoffMs.length := by
  rw [OtlpSink.attempt] at h
  split at h
  · split_ifs at h with hok hretry hmore
    exact hmore
  · split_ifs at h with hmore
    exact hmore

/-- An attempt decides, or leaves it to those that follow. -/
theorem exportFrom_cons {sink : OtlpSink} {network : ℕ → Network} {body : List UInt8}
    {attempt backoff : ℕ} {backoffs : List ℕ}
    (hbackoffs : attempt + backoffs.length = sink.retryBackoffMs.length) :
    sink.exportFrom network body attempt (backoff :: backoffs) =
      (sink.attempt (network attempt) body attempt).getD
        (sink.exportFrom network body (attempt + 1) backoffs) := by
  rw [OtlpSink.exportFrom, OtlpSink.attempt]
  cases sink.httpPost (network attempt) sink.logsUrl body with
  | ok status =>
      dsimp only
      split_ifs with hok hretry hmore
      · rfl
      · rfl
      · obtain rfl : backoffs = [] := by
          rw [← List.length_eq_zero_iff]
          omega
        rfl
      · rfl
  | error e =>
      dsimp only
      split_ifs <;> rfl

/-- After attempts that decided nothing, the one that decides gives the result. -/
theorem exportFrom_of_attempts {sink : OtlpSink} {network : ℕ → Network} {body : List UInt8}
    {result : Except SinkError Unit} (count : ℕ) {attempt : ℕ} {backoffs : List ℕ}
    (hnone : ∀ i, attempt ≤ i → i < attempt + count → sink.attempt (network i) body i = none)
    (hsome : sink.attempt (network (attempt + count)) body (attempt + count) = some result)
    (hbackoffs : attempt + backoffs.length = sink.retryBackoffMs.length + 1)
    (hmore : attempt + count ≤ sink.retryBackoffMs.length) :
    sink.exportFrom network body attempt backoffs = result := by
  induction count generalizing attempt backoffs with
  | zero =>
      cases backoffs with
      | nil =>
          rw [List.length_nil] at hbackoffs
          omega
      | cons backoff backoffs =>
          rw [List.length_cons] at hbackoffs
          rw [exportFrom_cons (by omega)]
          rw [Nat.add_zero] at hsome
          rw [hsome]
          rfl
  | succ count ih =>
      cases backoffs with
      | nil =>
          rw [List.length_nil] at hbackoffs
          omega
      | cons backoff backoffs =>
          rw [List.length_cons] at hbackoffs
          rw [exportFrom_cons (by omega), hnone attempt (Nat.le_refl _) (by omega),
            Option.getD_none]
          refine ih (fun i hfrom hto => hnone i (by omega) (by omega)) ?_ (by omega) (by omega)
          rw [show attempt + 1 + count = attempt + (count + 1) by omega]
          exact hsome

/-- The POST is answered with success. -/
def OtlpSink.Answered (sink : OtlpSink) (network : Network) (body : List UInt8) : Prop :=
  ∃ status, sink.httpPost network sink.logsUrl body = .ok status ∧ 200 ≤ status ∧ status < 300

/-- Success decides, whichever attempt it is. -/
theorem attempt_eq_ok_iff {sink : OtlpSink} {network : Network} {body : List UInt8}
    {attempt : ℕ} :
    sink.attempt network body attempt = some (.ok ()) ↔ sink.Answered network body := by
  rw [OtlpSink.attempt, OtlpSink.Answered]
  cases hpost : sink.httpPost network sink.logsUrl body with
  | ok status =>
      dsimp only
      split_ifs with hok hretry hmore
      · exact iff_of_true rfl ⟨status, rfl, hok⟩
      all_goals
        refine iff_of_false (by simp) ?_
        rintro ⟨answered, hanswered, hstatus⟩
        obtain rfl := Except.ok.inj hanswered
        exact hok hstatus
  | error e =>
      refine iff_of_false ?_ (by rintro ⟨_, h, -⟩; cases h)
      dsimp only
      split_ifs <;> simp

/-- What a call returned is what its export would have returned as the only one. -/
def Exported.Alone (p : OtlpParams) (r : Exported) : Prop :=
  ∀ network : ℕ → Network, (∀ i met, r.met[i]? = some met → network i = met) →
    p.exportBatch network r.batch = r.result

/-- An export under way has made no attempt that decides. -/
structure Export.UnderWay (p : OtlpParams) (e : Export) : Prop where
  nonempty : e.batch ≠ []
  body : p.gzip (p.requestBytes e.batch) = .ok e.body
  undecided : ∀ i met, e.met[i]? = some met → p.sink.attempt met e.body i = none

/-- What a call has done that has returned. -/
structure Exported.Finished (p : OtlpParams) (r : Exported) : Prop where
  alone : r.Alone p
  attempts : r.met.length ≤ p.sink.retryBackoffMs.length + 1
  /-- It returns without an error if an attempt was answered with success, and only then. -/
  accepted : r.result = .ok () ↔ ∃ met ∈ r.met, ∃ body,
    p.gzip (p.requestBytes r.batch) = .ok body ∧ p.sink.Answered met body

theorem Export.UnderWay.length_le {p : OtlpParams} {e : Export} (h : e.UnderWay p) :
    e.met.length ≤ p.sink.retryBackoffMs.length := by
  by_contra hlong
  have hlast : e.met[p.sink.retryBackoffMs.length]? =
      some e.met[p.sink.retryBackoffMs.length] := List.getElem?_eq_getElem (by omega)
  exact absurd (attempt_eq_none (h.undecided _ _ hlast)) (Nat.lt_irrefl _)

theorem Export.UnderWay.next {p : OtlpParams} {e : Export} (h : e.UnderWay p) {network : Network}
    (hnone : p.sink.attempt network e.body e.met.length = none) :
    Export.UnderWay p { e with met := e.met ++ [network] } where
  nonempty := h.nonempty
  body := h.body
  undecided i met hmet := by
    rw [List.getElem?_append] at hmet
    split_ifs at hmet with hold
    · exact h.undecided i met hmet
    · obtain ⟨hi, rfl⟩ := List.getElem?_eq_some_iff.mp hmet
      rw [List.length_singleton] at hi
      obtain rfl : i = e.met.length := by omega
      simpa using hnone

theorem Export.UnderWay.finish {p : OtlpParams} {e : Export} (h : e.UnderWay p)
    {network : Network} {result : Except SinkError Unit}
    (hsome : p.sink.attempt network e.body e.met.length = some result) :
    Exported.Finished p ⟨e.batch, e.met ++ [network], result⟩ where
  alone networks hnetworks := by
    have hlast : networks e.met.length = network := hnetworks _ _ (by simp)
    have hempty : (e.batch.map fun occ => occ.forSink).isEmpty = false := by
      simpa using h.nonempty
    rw [OtlpParams.exportBatch, OtlpSink.exportBatch, hempty, if_neg Bool.false_ne_true, h.body]
    refine exportFrom_of_attempts e.met.length (fun i _ hi => ?_) ?_ ?_ ?_
    · rw [Nat.zero_add] at hi
      have hmet := List.getElem?_eq_getElem hi
      rw [hnetworks i e.met[i] ((List.getElem?_append_left hi).trans hmet)]
      exact h.undecided i _ hmet
    · rw [Nat.zero_add, hlast]
      exact hsome
    · rw [Nat.zero_add, List.length_cons]
    · rw [Nat.zero_add]
      exact h.length_le
  attempts := by
    rw [List.length_append, List.length_singleton]
    exact Nat.succ_le_succ h.length_le
  accepted := by
    apply Iff.intro
    · intro hok
      cases hok
      exact ⟨network, List.mem_append_right _ List.mem_cons_self, e.body, h.body,
        attempt_eq_ok_iff.mp hsome⟩
    · rintro ⟨met, hmet, body, hbody, hanswered⟩
      obtain rfl := Except.ok.inj (h.body.symm.trans hbody)
      rcases List.mem_append.mp hmet with hold | hnew
      · -- An attempt that was followed by another was not answered with success.
        obtain ⟨i, hi⟩ := List.getElem?_of_mem hold
        have hnone := h.undecided i met hi
        rw [attempt_eq_ok_iff.mpr hanswered] at hnone
        cases hnone
      · obtain rfl := List.mem_singleton.mp hnew
        exact Option.some.inj (hsome.symm.trans (attempt_eq_ok_iff.mpr hanswered))

/-! ## The record -/

/-- Why a segment was removed from the buffer. -/
inductive OtlpRemoval
  | overflow
  | exported
  deriving DecidableEq

/-- The sink with its record. -/
structure OtlpRun where
  sink : OtlpState
  queue : Fifo OtlpRemoval PlacedOccurrence

def OtlpRun.drain (p : OtlpParams) (run : OtlpRun) : Fifo OtlpRemoval PlacedOccurrence :=
  if run.sink.drainCount p = 0 then run.queue
  else run.queue.leave .overflow (run.sink.drainCount p)

def OtlpRun.record (p : OtlpParams) (run : OtlpRun) :
    OtlpStep → Fifo OtlpRemoval PlacedOccurrence
  | .send occ now _ =>
      if (run.sink.push p occ).shouldFlush p now then
        ((run.drain p).enter occ).leaveAll .exported
      else (run.drain p).enter occ
  | .flush _ =>
      if run.sink.buffer.isEmpty then run.queue else run.queue.leaveAll .exported
  | .attempt _ _ => run.queue

def otlpMachine (p : OtlpParams) (started : ℕ) : Machine OtlpRun OtlpStep where
  init := ⟨OtlpState.new started, Fifo.empty⟩
  step run a := (otlpStep p run.sink a).map fun sink => ⟨sink, run.record p a⟩

/-- What the calls were given, or are still exporting. -/
def OtlpState.batches (s : OtlpState) : List (List PlacedOccurrence) :=
  s.returned.map (·.batch) ++ s.exporting.map (·.batch)

/-- The sink agrees with its record, and no segment overflowed. -/
structure OtlpKept (p : OtlpParams) (run : OtlpRun) : Prop where
  waiting : run.queue.waiting = run.sink.buffer
  inOrder : run.queue.InOrder
  bounded : run.sink.buffer.length < max 1 p.batchSize
  removed : ∀ segment ∈ run.queue.left, segment.1 = .exported ∧ segment.2 ≠ []
  batches : run.sink.batches.Perm (run.queue.left.map Prod.snd)
  underWay : ∀ e ∈ run.sink.exporting, e.UnderWay p
  finished : ∀ r ∈ run.sink.returned, r.Finished p

theorem otlpKept_new (p : OtlpParams) (started : ℕ) : OtlpKept p (otlpMachine p started).init where
  waiting := rfl
  inOrder := Fifo.inOrder_empty
  bounded := Nat.lt_of_lt_of_le Nat.one_pos (Nat.le_max_left _ _)
  removed := List.forall_mem_nil _
  batches := List.Perm.nil
  underWay := List.forall_mem_nil _
  finished := List.forall_mem_nil _

variable {p : OtlpParams} {run : OtlpRun}

/-- A buffer that is shorter than a batch does not overflow. -/
theorem OtlpKept.drainCount_eq (h : OtlpKept p run) : run.sink.drainCount p = 0 := by
  have hbounded := h.bounded
  rw [OtlpState.drainCount, OtlpParams.maxBuffer, maxBufferMultiplier]
  split_ifs <;> omega

theorem OtlpKept.push (h : OtlpKept p run) (occ : PlacedOccurrence) :
    run.sink.push p occ = { run.sink with buffer := run.sink.buffer ++ [occ] } := by
  rw [OtlpState.push, h.drainCount_eq, List.drop_zero]

theorem OtlpKept.drain (h : OtlpKept p run) : run.drain p = run.queue := by
  rw [OtlpRun.drain, if_pos h.drainCount_eq]

/-- A batch that a call takes is with it, or it has returned. -/
theorem OtlpKept.startExport {s : OtlpState} {queue : Fifo OtlpRemoval PlacedOccurrence}
    {batch : List PlacedOccurrence} (hbatch : batch ≠ [])
    (hbatches : s.batches.Perm (queue.left.map Prod.snd))
    (hunderWay : ∀ e ∈ s.exporting, e.UnderWay p)
    (hfinished : ∀ r ∈ s.returned, r.Finished p) :
    (p.startExport s batch).batches.Perm (queue.left.map Prod.snd ++ [batch]) ∧
      (∀ e ∈ (p.startExport s batch).exporting, e.UnderWay p) ∧
      (∀ r ∈ (p.startExport s batch).returned, r.Finished p) ∧
      (p.startExport s batch).buffer = s.buffer := by
  have hempty : batch.isEmpty = false := by simpa using hbatch
  rw [OtlpParams.startExport, hempty, if_neg Bool.false_ne_true]
  cases hbody : p.gzip (p.requestBytes batch) with
  | ok body =>
      refine ⟨?_, ?_, hfinished, rfl⟩
      · rw [OtlpState.batches, List.map_append, ← List.append_assoc]
        exact hbatches.append_right _
      · intro e he
        rcases List.mem_append.mp he with hold | hnew
        · exact hunderWay e hold
        · cases List.mem_singleton.mp hnew
          exact ⟨hbatch, hbody, fun i met hmet => by simp at hmet⟩
  | error e =>
      refine ⟨?_, hunderWay, ?_, rfl⟩
      · rw [OtlpState.batches, List.map_append, List.append_assoc]
        exact (List.perm_append_comm.append_left _).trans
          (by rw [← List.append_assoc]; exact hbatches.append_right _)
      · intro r hr
        rcases List.mem_append.mp hr with hold | hnew
        · exact hfinished r hold
        · cases List.mem_singleton.mp hnew
          refine ⟨fun network _ => ?_, Nat.zero_le _,
            iff_of_false (by simp) (by rintro ⟨met, hmet, -⟩; cases hmet)⟩
          have hmap : (batch.map fun occ => occ.forSink).isEmpty = false := by simpa using hbatch
          rw [OtlpParams.exportBatch, OtlpSink.exportBatch, hmap, if_neg Bool.false_ne_true, hbody]
          rfl

/-- Taking the buffer keeps the record. -/
theorem OtlpKept.take {s : OtlpState} {queue : Fifo OtlpRemoval PlacedOccurrence}
    (hwaiting : queue.waiting = s.buffer) (hinOrder : queue.InOrder) (hbuffer : s.buffer ≠ [])
    (hremoved : ∀ segment ∈ queue.left, segment.1 = .exported ∧ segment.2 ≠ [])
    (hbatches : s.batches.Perm (queue.left.map Prod.snd))
    (hunderWay : ∀ e ∈ s.exporting, e.UnderWay p)
    (hfinished : ∀ r ∈ s.returned, r.Finished p) (now : ℕ) :
    OtlpKept p ⟨s.take p now, queue.leaveAll .exported⟩ := by
  obtain ⟨hperm, hexporting, hreturned, hrest⟩ :=
    OtlpKept.startExport (s := { s with buffer := [], lastFlush := now })
      hbuffer hbatches hunderWay hfinished
  have hleft : (queue.leaveAll .exported).left = queue.left ++ [(.exported, s.buffer)] := by
    rw [Fifo.leaveAll, Fifo.leave, List.take_length, hwaiting]
  refine ⟨?_, hinOrder.leave _ _, ?_, ?_, ?_, hexporting, hreturned⟩
  · rw [Fifo.waiting_leaveAll]
    exact hrest.symm
  · rw [OtlpState.take, hrest]
    exact Nat.lt_of_lt_of_le Nat.one_pos (Nat.le_max_left _ _)
  · rw [hleft]
    intro segment hmem
    rcases List.mem_append.mp hmem with hold | hnew
    · exact hremoved segment hold
    · cases List.mem_singleton.mp hnew
      exact ⟨rfl, hbuffer⟩
  · rw [hleft, List.map_append]
    exact hperm

theorem OtlpKept.send (h : OtlpKept p run) (occ : PlacedOccurrence) (now later : ℕ) :
    OtlpKept p ⟨run.sink.send p occ now later, run.record p (.send occ now later)⟩ := by
  rw [OtlpState.send, OtlpRun.record, h.drain, h.push]
  split_ifs with hdue
  · have hwaiting : (run.queue.enter occ).waiting = run.sink.buffer ++ [occ] :=
      congrArg (· ++ [occ]) h.waiting
    exact OtlpKept.take (s := { run.sink with buffer := run.sink.buffer ++ [occ] }) hwaiting
      (h.inOrder.enter occ) (List.append_ne_nil_of_right_ne_nil _ (List.cons_ne_nil _ _))
      h.removed h.batches h.underWay h.finished later
  · refine ⟨congrArg (· ++ [occ]) h.waiting, h.inOrder.enter occ, ?_, h.removed, h.batches,
      h.underWay, h.finished⟩
    rw [OtlpState.shouldFlush, Bool.or_eq_true, not_or, decide_eq_true_iff, not_le] at hdue
    exact Nat.lt_of_lt_of_le hdue.1 (Nat.le_max_right _ _)

theorem OtlpKept.flush (h : OtlpKept p run) (now : ℕ) :
    OtlpKept p ⟨run.sink.flush p now, run.record p (.flush now)⟩ := by
  rw [OtlpState.flush, OtlpRun.record]
  split_ifs with hempty
  · exact h
  · exact OtlpKept.take h.waiting h.inOrder (by simpa using hempty) h.removed h.batches
      h.underWay h.finished now

theorem map_set_of_eq {α β : Type} {f : α → β} {l : List α} {index : ℕ} {a b : α}
    (hindex : l[index]? = some a) (hsame : f b = f a) : (l.set index b).map f = l.map f := by
  induction l generalizing index with
  | nil => rfl
  | cons x l ih =>
      cases index with
      | zero =>
          cases hindex
          exact congrArg (· :: l.map f) hsame
      | succ index => exact congrArg (f x :: ·) (ih hindex)

/-- An export that goes on has its batch as before; one that returns hands it over. -/
theorem OtlpKept.attempt (h : OtlpKept p run) {index : ℕ} {e : Export}
    (hindex : run.sink.exporting[index]? = some e) (network : Network) :
    OtlpKept p ⟨run.sink.attempt p index e network, run.queue⟩ := by
  have he := h.underWay e (List.mem_of_getElem? hindex)
  rw [OtlpState.attempt]
  cases hattempt : p.sink.attempt network e.body e.met.length with
  | none =>
      refine ⟨h.waiting, h.inOrder, h.bounded, h.removed, ?_, ?_, h.finished⟩
      · have hsame : (run.sink.exporting.set index { e with met := e.met ++ [network] }).map
            Export.batch = run.sink.exporting.map Export.batch := map_set_of_eq hindex rfl
        exact (List.Perm.of_eq (congrArg (run.sink.returned.map Exported.batch ++ ·) hsame)).trans
          h.batches
      · intro other hother
        rcases List.mem_or_eq_of_mem_set hother with hold | rfl
        · exact h.underWay other hold
        · exact he.next hattempt
  | some result =>
      refine ⟨h.waiting, h.inOrder, h.bounded, h.removed, ?_, ?_, ?_⟩
      · obtain ⟨hlt, rfl⟩ := List.getElem?_eq_some_iff.mp hindex
        have hmoved := (List.getElem_cons_eraseIdx_perm hlt).map Export.batch
        rw [OtlpState.batches, List.map_append, List.append_assoc]
        exact (hmoved.append_left _).trans h.batches
      · intro other hother
        exact h.underWay other (List.mem_of_mem_eraseIdx hother)
      · intro r hr
        rcases List.mem_append.mp hr with hold | hnew
        · exact h.finished r hold
        · cases List.mem_singleton.mp hnew
          exact he.finish hattempt

/-- One step keeps the record. -/
theorem OtlpKept.step {started : ℕ} {run' : OtlpRun} {a : OtlpStep} (h : OtlpKept p run)
    (hstep : (otlpMachine p started).step run a = some run') : OtlpKept p run' := by
  obtain ⟨sink, hsink, rfl⟩ := Option.map_eq_some_iff.mp hstep
  cases a with
  | send occ now later =>
      cases hsink
      exact h.send occ now later
  | flush now =>
      cases hsink
      exact h.flush now
  | attempt index network =>
      obtain ⟨e, hindex, rfl⟩ := Option.map_eq_some_iff.mp hsink
      exact h.attempt hindex network

/-! ## Along a run -/

def OtlpStep.sent : OtlpStep → List PlacedOccurrence
  | .send occ _ _ => [occ]
  | .flush _ | .attempt _ _ => []

theorem entered_of_step {started : ℕ} {run' : OtlpRun} {a : OtlpStep}
    (hstep : (otlpMachine p started).step run a = some run') :
    run'.queue.entered = run.queue.entered ++ a.sent := by
  obtain ⟨sink, -, rfl⟩ := Option.map_eq_some_iff.mp hstep
  have hdrain : (run.drain p).entered = run.queue.entered := by
    rw [OtlpRun.drain]
    split_ifs <;> rfl
  cases a with
  | send occ now later =>
      rw [OtlpRun.record, OtlpStep.sent, ← hdrain]
      split_ifs <;> rfl
  | flush now =>
      rw [OtlpRun.record, OtlpStep.sent, List.append_nil]
      split_ifs <;> rfl
  | attempt index network => exact (List.append_nil _).symm

/-- The sink has lost nothing: what was sent is what the batches hold and the buffer. -/
structure OtlpAccounted (p : OtlpParams) (sent : List PlacedOccurrence) (s : OtlpState) :
    Prop where
  order : ∃ batches, s.batches.Perm batches ∧ sent = batches.flatten ++ s.buffer
  bounded : s.buffer.length < max 1 p.batchSize
  nonempty : ∀ batch ∈ s.batches, batch ≠ []
  alone : ∀ r ∈ s.returned, r.Alone p
  attempts : ∀ r ∈ s.returned, r.met.length ≤ p.sink.retryBackoffMs.length + 1

theorem otlpKept_of_exec {started : ℕ} {schedule : List OtlpStep}
    (hrun : (otlpMachine p started).exec (otlpMachine p started).init schedule = some run) :
    OtlpKept p run :=
  Machine.exec_preserves OtlpKept.step (otlpKept_new p started) hrun

/-- **The buffer loses nothing.** Whatever the calls, the clocks and the order of the attempts,
what was sent is in the batches, one after the other, and in the buffer. No call returns
something else than its export alone would have. -/
theorem otlpAccounted_always {started : ℕ} {schedule : List OtlpStep}
    (hrun : (otlpMachine p started).exec (otlpMachine p started).init schedule = some run) :
    OtlpAccounted p (schedule.flatMap OtlpStep.sent) run.sink := by
  have h := otlpKept_of_exec hrun
  have hentered : run.queue.entered = schedule.flatMap OtlpStep.sent := by
    have hgrown := Machine.exec_trace (J := fun _ => True) (fun run : OtlpRun => run.queue.entered)
      (fun _ _ => trivial) (fun _ hstep => entered_of_step hstep) trivial hrun
    rw [Machine.trace_label OtlpStep.sent hrun] at hgrown
    exact hgrown
  refine ⟨⟨run.queue.left.map Prod.snd, h.batches, ?_⟩, h.bounded, fun batch hbatch => ?_,
    fun r hr => (h.finished r hr).alone, fun r hr => (h.finished r hr).attempts⟩
  · rw [← hentered, h.inOrder, Fifo.gone, h.waiting, List.flatMap]
  · obtain ⟨segment, hsegment, rfl⟩ := List.mem_map.mp (h.batches.mem_iff.mp hbatch)
    exact (h.removed segment hsegment).2

/-- An occurrence without an error, and its request as it is and compressed. -/
def placedOomKill : PlacedOccurrence :=
  { Common.Occurrence.new "01K5" "2026-01-02T03:04:05Z" "kernel.container.oom_kill" .critical
      .failure with
    context := none }

def oomRequest : List UInt8 :=
  [10, 167, 1, 10, 53, 10, 23, 10, 12, 115, 101, 114, 118, 105, 99, 101, 46, 110, 97, 109, 101,
    18, 7, 10, 5, 116, 97, 112, 105, 111, 10, 26, 10, 15, 115, 101, 114, 118, 105, 99, 101, 46,
    118, 101, 114, 115, 105, 111, 110, 18, 7, 10, 5, 52, 46, 48, 46, 48, 18, 110, 18, 108, 9, 0,
    50, 150, 28, 242, 202, 134, 24, 16, 21, 42, 0, 50, 23, 10, 13, 111, 99, 99, 117, 114, 114,
    101, 110, 99, 101, 46, 105, 100, 18, 6, 10, 4, 48, 49, 75, 53, 50, 43, 10, 12, 97, 110, 111,
    109, 97, 108, 121, 46, 116, 121, 112, 101, 18, 27, 10, 25, 107, 101, 114, 110, 101, 108, 46,
    99, 111, 110, 116, 97, 105, 110, 101, 114, 46, 111, 111, 109, 95, 107, 105, 108, 108, 50, 23,
    10, 12, 116, 97, 112, 105, 111, 46, 115, 111, 117, 114, 99, 101, 18, 7, 10, 5, 116, 97, 112,
    105, 111]

def oomCompressed : List UInt8 :=
  [31, 139, 8, 0, 0, 0, 0, 0, 0, 255, 227, 90, 206, 200, 101, 202, 37, 206, 197, 83, 156, 90, 84,
    150, 153, 156, 170, 151, 151, 152, 155, 42, 196, 206, 197, 90, 146, 88, 144, 153, 207, 37,
    197, 197, 15, 147, 40, 75, 45, 42, 206, 204, 207, 3, 201, 153, 232, 25, 232, 25, 8, 229, 9,
    229, 112, 50, 24, 77, 147, 249, 116, 170, 77, 66, 64, 84, 139, 193, 72, 156, 139, 55, 63, 57,
    185, 180, 168, 40, 53, 15, 168, 62, 51, 69, 136, 141, 139, 197, 192, 208, 219, 212, 72, 155,
    139, 39, 49, 47, 63, 55, 49, 167, 82, 175, 164, 178, 32, 85, 72, 154, 75, 50, 59, 181, 40, 47,
    53, 71, 47, 57, 63, 175, 36, 49, 51, 47, 181, 72, 47, 63, 63, 55, 62, 59, 51, 39, 7, 104, 10,
    15, 216, 110, 189, 226, 252, 210, 162, 100, 132, 91, 0, 236, 72, 205, 165, 170, 0, 0, 0]

def oomParams : OtlpParams where
  sink := ⟨"http://127.0.0.1:4318", none, [500, 1000, 2000]⟩
  batchSize := 1
  flushInterval := 5000000000
  parse _ := some (some 1767323045000000000)
  encodeToVec := ExportLogsServiceRequest.schema.encode
  gzip bytes := if bytes = oomRequest then .ok oomCompressed else .error (.serialization "")

/-- Two exports: the first is put off, and overtaken by the second. -/
def twoExports : List OtlpStep :=
  [.send placedOomKill 1 1, .send placedOomKill 2 2,
    .attempt 0 fun _ _ _ => .ok "HTTP/1.1 503 Service Unavailable\r\n",
    .attempt 1 fun _ _ _ => .ok "HTTP/1.1 200 OK\r\n",
    .attempt 0 fun _ _ _ => .ok "HTTP/1.1 200 OK\r\n"]

theorem otlpAccounted_always_twoExports :
    ∃ run ∈ (otlpMachine oomParams 0).exec (otlpMachine oomParams 0).init twoExports,
      OtlpAccounted oomParams [placedOomKill, placedOomKill] run.sink := by
  have hends : ((otlpMachine oomParams 0).exec (otlpMachine oomParams 0).init
      twoExports).isSome := by decide +kernel
  obtain ⟨run, hrun⟩ := Option.isSome_iff_exists.mp hends
  exact ⟨run, hrun, otlpAccounted_always hrun⟩

/-! ## At the collector -/

/-- The collector has answered a POST with success, and what it was sent reads as the request
of the batch. -/
def OtlpParams.Accepted (p : OtlpParams) (gunzip : List UInt8 → Option (List UInt8))
    (decode : List UInt8 → Option ExportLogsServiceRequest) (met : Network)
    (batch : List PlacedOccurrence) : Prop :=
  ∃ body, p.sink.Answered met body ∧
    (gunzip body).bind decode = some (exportRequest p.parse batch)

/-- **What is returned as exported has been accepted.** In every run, a call that has taken a
batch returns without an error only if the collector answered with success a request in which
it can read the whole batch; and a call that returns an error had no such answer. What is
compressed is supposed to be restored, and what is encoded to be decoded. -/
theorem otlpAccepted_always {started : ℕ} {gunzip : List UInt8 → Option (List UInt8)}
    {decode : List UInt8 → Option ExportLogsServiceRequest}
    (hgzip : ∀ bytes body, p.gzip bytes = .ok body → gunzip body = some bytes)
    (hdecode : ∀ request, (p.encodeToVec request).length < 2 ^ 64 →
      decode (p.encodeToVec request) = some request)
    {schedule : List OtlpStep}
    (hrun : (otlpMachine p started).exec (otlpMachine p started).init schedule = some run) :
    ∀ r ∈ run.sink.returned, (p.requestBytes r.batch).length < 2 ^ 64 →
      (r.result = .ok () → ∃ met ∈ r.met, p.Accepted gunzip decode met r.batch) ∧
        (r.result ≠ .ok () → ∀ met ∈ r.met, ∀ body, p.gzip (p.requestBytes r.batch) = .ok body →
          ¬ p.sink.Answered met body) := by
  intro r hr hlength
  have haccepted := ((otlpKept_of_exec hrun).finished r hr).accepted
  apply And.intro
  · intro hok
    obtain ⟨met, hmet, body, hbody, hanswered⟩ := haccepted.mp hok
    refine ⟨met, hmet, body, hanswered, ?_⟩
    rw [hgzip _ _ hbody, Option.bind_some]
    exact hdecode _ hlength
  · intro herror met hmet body hbody hanswered
    exact herror (haccepted.mpr ⟨met, hmet, body, hbody, hanswered⟩)

theorem otlpAccepted_always_twoExports :
    ∃ run ∈ (otlpMachine oomParams 0).exec (otlpMachine oomParams 0).init twoExports,
      ∃ r ∈ run.sink.returned, ∃ met ∈ r.met,
        oomParams.Accepted (fun body => if body = oomCompressed then some oomRequest else none)
          ExportLogsServiceRequest.schema.decode met r.batch := by
  have hends : ∃ run ∈ (otlpMachine oomParams 0).exec (otlpMachine oomParams 0).init twoExports,
      ∃ r ∈ run.sink.returned, r.result.isOk ∧
        (oomParams.requestBytes r.batch).length < 2 ^ 64 := by decide +kernel
  obtain ⟨run, hrun, r, hr, hok, hlength⟩ := hends
  have hgzip : ∀ bytes body, oomParams.gzip bytes = .ok body →
      (if body = oomCompressed then some oomRequest else none) = some bytes := by
    intro bytes body hbody
    simp only [oomParams] at hbody
    split_ifs at hbody with hbytes
    · obtain rfl := Except.ok.inj hbody
      rw [if_pos rfl, hbytes]
  have hresult : r.result = .ok () := by
    cases hcase : r.result with
    | ok done => rfl
    | error e =>
        rw [hcase] at hok
        cases hok
  exact ⟨run, hrun, r, hr, (otlpAccepted_always hgzip
    (fun _ => ExportLogsServiceRequest.schema.decode_encode) hrun r hr hlength).1 hresult⟩

end Tapio.Sink
