/-
# The HTTP sink

`send` puts an occurrence into a buffer under a lock, and takes the whole buffer out when
it is due; the batch is posted after the lock has been released, so several calls can be
posting at a time. `flush` takes the buffer out at once. The sink is one of those that the
agent's `MultiSink` sends to, which counts the results of `send`.

A batch that is lost makes the call that took it return an error. What is trimmed from a
full buffer is counted nowhere: the oldest occurrences are gone, and the call that trimmed
them returns `Ok`. So no occurrence is lost silently exactly in the runs in which no `send`
finds the buffer full.
-/
import Tapio.Sink.Events
import Tapio.Transit.Ledger
import Tapio.Transition.Machine

namespace Tapio.Sink

open Transit Transition

/-- One second, in nanoseconds. -/
def initialBackoff : ℕ := 1000000000

def maxBackoff : ℕ := 60 * 1000000000

structure HttpParams where
  bufferSize : ℕ
  flushInterval : ℕ
  bufferSize_pos : 1 ≤ bufferSize

def HttpParams.maxBuffer (p : HttpParams) : ℕ := p.bufferSize * 10

/-- An occurrence with the number of the `send` that took it. -/
abbrev SentOccurrence := Item Occurrence

structure HttpInner where
  buffer : List SentOccurrence
  lastFlush : ℕ
  nextRetry : ℕ
  backoff : ℕ

inductive HttpCall
  | send
  | flush
  deriving DecidableEq

/-- What becomes of a batch. -/
inductive PostOutcome
  | unserializable (error : String)
  | posted
  | failed (error : String)
  deriving DecidableEq

/-- A call that has taken the buffer and released the lock. -/
structure Posting where
  call : HttpCall
  batch : List SentOccurrence

/-- A call that has returned, and what became of the batch it took. -/
structure Returned where
  call : HttpCall
  batch : List SentOccurrence
  outcome : PostOutcome

/-- The result of `post_batch`. -/
def Returned.result (r : Returned) : Except SinkError Unit :=
  match r.outcome with
  | .unserializable error => .error (.serialization error)
  | .posted => .ok ()
  | .failed error =>
      .error (.send ("http sink: send failed, dropped " ++ toString r.batch.length ++
        " events: " ++ error))

/-- The sink and the counters of the agent that concern it. -/
structure HttpState where
  inner : HttpInner
  posting : List Posting
  /-- The calls that took a batch and have returned. -/
  returned : List Returned
  /-- What has been trimmed from a full buffer. -/
  trimmed : List SentOccurrence
  /-- `sink_writes_total` of this sink by result. -/
  writesOk : ℕ
  writesErr : ℕ
  /-- `sink_drops_total` of this sink. -/
  sinkDropsTotal : ℕ
  admitted : ℕ

/-! ## The calls -/

/-- The number of the oldest occurrences that `send` drains from a full buffer. -/
def HttpInner.drainCount (p : HttpParams) (inner : HttpInner) : ℕ :=
  if p.maxBuffer ≤ inner.buffer.length then inner.buffer.length - p.bufferSize else 0

/-- The buffer is due: the backoff is over, and it is long or old enough. -/
def HttpInner.shouldFlush (p : HttpParams) (inner : HttpInner) (now elapsed : ℕ) : Bool :=
  inner.nextRetry ≤ now &&
    (p.bufferSize ≤ inner.buffer.length || p.flushInterval ≤ elapsed)

/-- Make room for an occurrence and put it into the buffer. -/
def HttpState.push (p : HttpParams) (s : HttpState) (occurrence : Occurrence) : HttpState :=
  { s with
    inner := { s.inner with
      buffer := s.inner.buffer.drop (s.inner.drainCount p) ++ [⟨s.admitted, occurrence⟩] }
    trimmed := s.trimmed ++ s.inner.buffer.take (s.inner.drainCount p)
    admitted := s.admitted + 1 }

/-- A call takes the buffer. -/
def HttpState.take (s : HttpState) (call : HttpCall) (now : ℕ) : HttpState :=
  { s with
    inner := { s.inner with buffer := [], lastFlush := now }
    posting := s.posting ++ [Posting.mk call s.inner.buffer] }

/-- The part of `send` under the lock. Without a batch to post the call returns. The clock
is read twice. -/
def HttpState.send (p : HttpParams) (s : HttpState) (occurrence : Occurrence)
    (now later : ℕ) : HttpState :=
  let pushed := s.push p occurrence
  if pushed.inner.shouldFlush p now (later - pushed.inner.lastFlush) then pushed.take .send now
  else { pushed with writesOk := pushed.writesOk + 1 }

/-- The part of `flush` under the lock. -/
def HttpState.flush (s : HttpState) (now : ℕ) : HttpState :=
  if s.inner.buffer.isEmpty then s else s.take .flush now

/-- A failed POST puts the next one off, a successful one ends the backing off. -/
def HttpInner.afterPost (inner : HttpInner) (outcome : PostOutcome) (now : ℕ) : HttpInner :=
  match outcome with
  | .unserializable _ => inner
  | .posted => { inner with backoff := initialBackoff }
  | .failed _ =>
      { inner with
        nextRetry := now + inner.backoff
        backoff := min (inner.backoff * 2) maxBackoff }

/-- The result of a `send` that took a batch, as `MultiSink` counts it. -/
def HttpState.countWrite (s : HttpState) (r : Returned) : HttpState :=
  match r.call, r.result with
  | .send, .ok () => { s with writesOk := s.writesOk + 1 }
  | .send, .error _ => { s with writesErr := s.writesErr + 1 }
  | .flush, _ => s

/-- A call posts its batch and returns. -/
def HttpState.post (s : HttpState) (index : ℕ) (posting : Posting) (outcome : PostOutcome)
    (now : ℕ) : HttpState :=
  let r : Returned := ⟨posting.call, posting.batch, outcome⟩
  HttpState.countWrite
    { s with
      inner := s.inner.afterPost outcome now
      posting := s.posting.eraseIdx index
      returned := s.returned ++ [r] } r

inductive HttpStep
  | send (occurrence : Occurrence) (now later : ℕ)
  | flush (now : ℕ)
  /-- The call that is at the index among those posting. -/
  | post (index : ℕ) (outcome : PostOutcome) (now : ℕ)

def httpStep (p : HttpParams) (s : HttpState) : HttpStep → Option HttpState
  | .send occurrence now later => some (s.send p occurrence now later)
  | .flush now => some (s.flush now)
  | .post index outcome now =>
      (s.posting[index]?).map fun posting => s.post index posting outcome now

/-- A sink that has just been built. -/
def HttpState.new (now : ℕ) : HttpState where
  inner := ⟨[], now, now, initialBackoff⟩
  posting := []
  returned := []
  trimmed := []
  writesOk := 0
  writesErr := 0
  sinkDropsTotal := 0
  admitted := 0

def httpMachine (p : HttpParams) (started : ℕ) : Machine HttpState HttpStep where
  init := HttpState.new started
  step := httpStep p

/-! ## Where an occurrence is -/

def Has (batch : List SentOccurrence) (number : ℕ) : Prop := number ∈ batch.map (·.number)

instance (batch : List SentOccurrence) (number : ℕ) : Decidable (Has batch number) :=
  inferInstanceAs (Decidable (_ ∈ _))

/-- The occurrence is accounted for where an operator can see it, if it has left the
buffer other than in a batch that is being posted or was posted. -/
def Accounted (s : HttpState) (number : ℕ) : Prop :=
  Has s.inner.buffer number ∨
    (∃ posting ∈ s.posting, Has posting.batch number) ∨
    (∃ r ∈ s.returned, Has r.batch number ∧ (r.outcome = .posted ∨ r.result ≠ .ok ())) ∨
    (Has s.trimmed number ∧ s.trimmed.length ≤ s.sinkDropsTotal)

/-- Nothing that `send` took is lost silently. -/
def NothingLostSilently (s : HttpState) : Prop := ∀ number < s.admitted, Accounted s number

/-- A `send` finds room in the buffer. -/
def FindsRoom (p : HttpParams) (s : HttpState) : HttpStep → Prop
  | .send _ _ _ => s.inner.buffer.length < p.maxBuffer
  | _ => True

/-! ## Everything is somewhere -/

/-- The numbers of everything that was sent, by where it is. -/
def HttpState.numbers (s : HttpState) : List ℕ :=
  s.trimmed.map (·.number) ++ (s.returned.flatMap (·.batch)).map (·.number) ++
    (s.posting.flatMap (·.batch)).map (·.number) ++ s.inner.buffer.map (·.number)

/-- Everything that was sent is in one place only, and nothing was counted as dropped. -/
structure Complete (s : HttpState) : Prop where
  once : ∀ number, s.numbers.count number = if number < s.admitted then 1 else 0
  uncounted : s.sinkDropsTotal = 0

theorem complete_new (now : ℕ) : Complete (HttpState.new now) :=
  ⟨fun number => (if_neg (Nat.not_lt_zero number)).symm, rfl⟩

/-- Taking the buffer moves what is in it. -/
theorem take_numbers (s : HttpState) (call : HttpCall) (now : ℕ) :
    (s.take call now).numbers = s.numbers := by
  simp [HttpState.take, HttpState.numbers]

theorem push_numbers (p : HttpParams) (s : HttpState) (occurrence : Occurrence) (number : ℕ) :
    (s.push p occurrence).numbers.count number =
      s.numbers.count number + if number = s.admitted then 1 else 0 := by
  have hbuffer := congrArg (fun l => (l.map (·.number)).count number)
    (List.take_append_drop (s.inner.drainCount p) s.inner.buffer)
  have hnew : [s.admitted].count number = if number = s.admitted then 1 else 0 := by
    rw [List.count_singleton]
    by_cases heq : number = s.admitted
    · rw [if_pos heq, heq, beq_self_eq_true, if_pos rfl]
    · rw [if_neg heq, if_neg fun h => heq (beq_iff_eq.mp h).symm]
  simp only [List.map_append, List.count_append] at hbuffer
  simp only [HttpState.push, HttpState.numbers, List.map_append, List.count_append, List.map_cons,
    List.map_nil, hnew]
  omega

theorem complete_push {s : HttpState} (hs : Complete s) (p : HttpParams)
    (occurrence : Occurrence) : Complete (s.push p occurrence) := by
  refine ⟨fun number => ?_, hs.uncounted⟩
  rw [push_numbers, hs.once]
  show _ = if number < s.admitted + 1 then 1 else 0
  split <;> split <;> split <;> omega

theorem countWrite_numbers (s : HttpState) (r : Returned) :
    (s.countWrite r).numbers = s.numbers ∧ (s.countWrite r).admitted = s.admitted ∧
      (s.countWrite r).sinkDropsTotal = s.sinkDropsTotal ∧
      (s.countWrite r).trimmed = s.trimmed := by
  rw [HttpState.countWrite]
  split <;> exact ⟨rfl, rfl, rfl, rfl⟩

theorem afterPost_buffer (inner : HttpInner) (outcome : PostOutcome) (now : ℕ) :
    (inner.afterPost outcome now).buffer = inner.buffer := by
  cases outcome <;> rfl

/-- A batch that was posting belongs to a call that has returned. -/
theorem post_numbers {s : HttpState} {index : ℕ} {posting : Posting}
    (hposting : s.posting[index]? = some posting) (outcome : PostOutcome) (now number : ℕ) :
    (s.post index posting outcome now).numbers.count number = s.numbers.count number := by
  obtain ⟨hindex, rfl⟩ := List.getElem?_eq_some_iff.mp hposting
  have hsplit : s.posting.take index ++ s.posting[index] :: s.posting.drop (index + 1) =
      s.posting := by
    rw [← List.drop_eq_getElem_cons hindex, List.take_append_drop]
  have hmoved := congrArg (fun l => ((l.flatMap (·.batch)).map (·.number)).count number) hsplit
  simp only [List.flatMap_append, List.flatMap_cons, List.map_append, List.count_append] at hmoved
  rw [HttpState.post, (countWrite_numbers _ _).1]
  simp only [HttpState.numbers, afterPost_buffer, List.eraseIdx_eq_take_drop_succ,
    List.flatMap_append, List.flatMap_cons, List.flatMap_nil, List.append_nil, List.map_append,
    List.count_append]
  omega

theorem complete_of_step {p : HttpParams} {s t : HttpState} {a : HttpStep} (hs : Complete s)
    (hstep : httpStep p s a = some t) : Complete t := by
  cases a with
  | send occurrence now later =>
      cases hstep
      have hpushed := complete_push hs p occurrence
      rw [HttpState.send]
      split
      · refine ⟨fun number => ?_, hpushed.uncounted⟩
        rw [take_numbers]
        exact hpushed.once number
      · exact ⟨hpushed.once, hpushed.uncounted⟩
  | flush now =>
      cases hstep
      rw [HttpState.flush]
      split
      · exact hs
      · refine ⟨fun number => ?_, hs.uncounted⟩
        rw [take_numbers]
        exact hs.once number
  | post index outcome now =>
      obtain ⟨posting, hposting, rfl⟩ := Option.map_eq_some_iff.mp hstep
      refine ⟨fun number => ?_, ?_⟩
      · rw [post_numbers hposting, hs.once, HttpState.post, (countWrite_numbers _ _).2.1]
      · rw [HttpState.post, (countWrite_numbers _ _).2.2.1]
        exact hs.uncounted

/-! ## When nothing is lost silently -/

/-- A call that lost its batch returned an error. -/
theorem posted_or_result_ne_ok (r : Returned) : r.outcome = .posted ∨ r.result ≠ .ok () := by
  rw [Returned.result]
  cases r.outcome with
  | unserializable error => exact .inr nofun
  | posted => exact .inl rfl
  | failed error => exact .inr nofun

/-- What has been trimmed is nowhere else. -/
theorem not_elsewhere_of_trimmed {s : HttpState} (hs : Complete s) {number : ℕ}
    (htrimmed : Has s.trimmed number) :
    number < s.admitted ∧ ¬ Has s.inner.buffer number ∧
      (∀ posting ∈ s.posting, ¬ Has posting.batch number) ∧
      ∀ r ∈ s.returned, ¬ Has r.batch number := by
  have honce := hs.once number
  have hfirst := List.count_pos_iff.mpr htrimmed
  simp only [HttpState.numbers, List.count_append] at honce
  have hrest : ((s.returned.flatMap (·.batch)).map (·.number)).count number = 0 ∧
      ((s.posting.flatMap (·.batch)).map (·.number)).count number = 0 ∧
      (s.inner.buffer.map (·.number)).count number = 0 ∧ number < s.admitted := by
    split at honce <;> omega
  obtain ⟨hreturned, hposting, hbuffer, hadmitted⟩ := hrest
  rw [List.count_eq_zero, List.map_flatMap, List.mem_flatMap] at hreturned hposting
  exact ⟨hadmitted, List.count_eq_zero.mp hbuffer,
    fun posting hmem hhas => hposting ⟨posting, hmem, hhas⟩,
    fun r hmem hhas => hreturned ⟨r, hmem, hhas⟩⟩

/-- What is lost silently is what is trimmed. -/
theorem nothingLostSilently_iff_trimmed {s : HttpState} (hs : Complete s) :
    NothingLostSilently s ↔ s.trimmed = [] := by
  constructor
  · intro hall
    by_contra hne
    obtain ⟨item, hitem⟩ := List.exists_mem_of_ne_nil _ hne
    have htrimmed : Has s.trimmed item.number := List.mem_map_of_mem hitem
    obtain ⟨hadmitted, hbuffer, hposting, hreturned⟩ := not_elsewhere_of_trimmed hs htrimmed
    rcases hall _ hadmitted with h | ⟨posting, hmem, h⟩ | ⟨r, hmem, h, -⟩ | ⟨-, hcounted⟩
    · exact hbuffer h
    · exact hposting posting hmem h
    · exact hreturned r hmem h
    · rw [hs.uncounted, Nat.le_zero, List.length_eq_zero_iff] at hcounted
      exact hne hcounted
  · intro hnone number hnumber
    have honce := hs.once number
    rw [if_pos hnumber] at honce
    have hmem : number ∈ s.numbers := List.count_pos_iff.mp (by omega)
    simp only [HttpState.numbers, hnone, List.map_nil, List.nil_append, List.mem_append,
      List.map_flatMap, List.mem_flatMap] at hmem
    rcases hmem with (⟨r, hr, h⟩ | ⟨posting, hposting, h⟩) | h
    · exact .inr (.inr (.inl ⟨r, hr, h, posted_or_result_ne_ok r⟩))
    · exact .inr (.inl ⟨posting, hposting, h⟩)
    · exact .inl h

/-- Occurrences are drained exactly from a full buffer. -/
theorem take_drainCount_eq_nil_iff (p : HttpParams) (inner : HttpInner) :
    inner.buffer.take (inner.drainCount p) = [] ↔ inner.buffer.length < p.maxBuffer := by
  have hpos := p.bufferSize_pos
  rw [List.take_eq_nil_iff, ← List.length_eq_zero_iff, HttpInner.drainCount, HttpParams.maxBuffer]
  split <;> omega

theorem trimmed_of_step {p : HttpParams} {s t : HttpState} {a : HttpStep}
    (hstep : httpStep p s a = some t) : t.trimmed = [] ↔ s.trimmed = [] ∧ FindsRoom p s a := by
  cases a with
  | send occurrence now later =>
      cases hstep
      have hpushed : (s.send p occurrence now later).trimmed =
          s.trimmed ++ s.inner.buffer.take (s.inner.drainCount p) := by
        rw [HttpState.send]
        split <;> rfl
      rw [hpushed, List.append_eq_nil_iff, take_drainCount_eq_nil_iff]
      rfl
  | flush now =>
      cases hstep
      rw [HttpState.flush]
      split <;> exact (and_iff_left trivial).symm
  | post index outcome now =>
      obtain ⟨posting, -, rfl⟩ := Option.map_eq_some_iff.mp hstep
      rw [HttpState.post, (countWrite_numbers _ _).2.2.2]
      exact (and_iff_left trivial).symm

/-- **When nothing is lost silently.** Along a run everything that was sent is accounted
for exactly when no `send` of the run finds the buffer full. -/
theorem nothingLostSilently_iff (p : HttpParams) (started : ℕ) (schedule : List HttpStep) :
    (httpMachine p started).Always NothingLostSilently (HttpState.new started) schedule ↔
      (httpMachine p started).EachStep (FindsRoom p) (HttpState.new started) schedule := by
  have hnew := complete_new started
  refine Machine.always_iff_eachStep (M := httpMachine p started) complete_of_step ?_ hnew
    ((nothingLostSilently_iff_trimmed hnew).mpr rfl) schedule
  intro s a t hs hgood hstep
  rw [nothingLostSilently_iff_trimmed (complete_of_step hs hstep), trimmed_of_step hstep]
  exact and_iff_right ((nothingLostSilently_iff_trimmed hs).mp hgood)

instance (s : HttpState) (number : ℕ) : Decidable (Accounted s number) :=
  inferInstanceAs (Decidable (_ ∨ (∃ posting ∈ s.posting, _) ∨ (∃ r ∈ s.returned, _) ∨ _))

instance (s : HttpState) : Decidable (NothingLostSilently s) :=
  inferInstanceAs (Decidable (∀ number < s.admitted, _))

/-- A container that was killed, as the container observer reports it. -/
def oomKill : Occurrence where
  timestamp := "2023-11-14T22:13:20+00:00"
  occurrenceType := "kernel.container.oom_kill"
  severity := .critical
  data := none

/-- The first POST fails, and the sink backs off. Of the eleven occurrences that are sent in
the meantime nine are trimmed, and every `send` returns `Ok`. -/
def backingOff : List HttpStep :=
  .send oomKill 5 5 :: .post 0 (.failed "connect: refused") 6 ::
    List.replicate 11 (.send oomKill 7 7)

theorem not_nothingLostSilently_backingOff :
    ¬ ∀ (p : HttpParams) (started : ℕ) (schedule : List HttpStep),
      (httpMachine p started).Always NothingLostSilently (HttpState.new started) schedule := by
  intro h
  exact absurd (h ⟨1, 1000000000, Nat.le_refl 1⟩ 0 backingOff) (by decide +kernel)

/-! ## The counter of failed writes -/

/-- A `send` that lost the batch it took. -/
def Returned.isFailedWrite (r : Returned) : Bool := r.call = .send ∧ r.outcome ≠ .posted

theorem countWrite_writesErr (s : HttpState) (r : Returned) :
    (s.countWrite r).writesErr = s.writesErr + if r.isFailedWrite then 1 else 0 := by
  obtain ⟨call, batch, outcome⟩ := r
  cases call <;> cases outcome <;> rfl

theorem countWrite_returned (s : HttpState) (r : Returned) :
    (s.countWrite r).returned = s.returned := by
  rw [HttpState.countWrite]
  split <;> rfl

/-- Every `send` that lost the batch it took is counted under `result="err"`. -/
theorem writesErr_always (p : HttpParams) (started : ℕ) (schedule : List HttpStep) :
    (httpMachine p started).Always
      (fun s => s.writesErr = s.returned.countP Returned.isFailedWrite)
      (HttpState.new started) schedule := by
  refine Machine.always_of_preserved (M := httpMachine p started)
    (J := fun s => s.writesErr = s.returned.countP Returned.isFailedWrite) ?_ rfl schedule
  intro s a t hs hstep
  cases a with
  | send occurrence now later =>
      cases hstep
      rw [HttpState.send]
      split <;> exact hs
  | flush now =>
      cases hstep
      rw [HttpState.flush]
      split <;> exact hs
  | post index outcome now =>
      obtain ⟨posting, -, rfl⟩ := Option.map_eq_some_iff.mp hstep
      rw [HttpState.post, countWrite_writesErr, countWrite_returned]
      show s.writesErr + _ = (s.returned ++ [_]).countP _
      rw [List.countP_append, List.countP_singleton, hs]

end Tapio.Sink
