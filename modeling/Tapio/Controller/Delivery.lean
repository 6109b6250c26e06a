/-
# Batches over a network that loses

One agent's sink and one controller, connected by the attempts that the worker makes to
post a batch. What becomes of an attempt is up to the network: the request is lost, or it
is still on its way when the agent gives up and may arrive at any later time, or the
controller answers, and the body of the answer may be cut off. The worker tries again
until an attempt gets a success status or its attempts are used up, so that a batch can
be accepted more than once.

Other agents, and the other tasks of this one, may send whatever they like at any time,
except that nobody else reports events under the agent's id.
-/
import Tapio.Controller.Calls
import Tapio.Controller.Sequences
import Tapio.Transition.Simulation

namespace Tapio.Controller

open Wire Numeric Agent Sink Transition

/-! ## One attempt -/

/-- What becomes of one attempt to post a batch. -/
inductive Fate
  /-- The request does not leave the agent, or is lost. -/
  | lost (error : String)
  /-- The agent gives up while the request is on its way. -/
  | unanswered (error : String)
  /-- The request is turned away before the batch is looked at. -/
  | turnedAway (status : ℕ) (failure : isSuccess status = false)
  /-- The controller answers; why the body is not decoded, if it is not. -/
  | answered (undecoded : Option String)

/-- The two parties and the requests between them. Batches go by their position among those
that the worker has made; the last three fields record the past. -/
structure DeliveryRun where
  sink : SinkState
  controller : InnerState
  /-- Requests that the agent has given up on and that may still arrive. -/
  inFlight : List ℕ
  /-- One entry for each time a batch was accepted, newest first. -/
  accepted : List ℕ
  /-- One entry for each attempt, newest first. -/
  attempted : List ℕ
  /-- How the batches left the sink, oldest first. -/
  exits : List Exit

/-- The answer to a batch. -/
def answerTo (result : WireResult EventBatchResponse) (undecoded : Option String) :
    HttpReply EventBatchResponse :=
  match result with
  | .error error => .response (errorStatus error) (.error (undecoded.getD ""))
  | .ok response =>
      .response 200 (match undecoded with
        | none => .ok response
        | some error => .error error)

/-- The controller handles a batch. -/
def DeliveryRun.handleBatch (s : DeliveryRun) (index : ℕ) (batch : EventBatchRequest) :
    DeliveryRun × WireResult EventBatchResponse :=
  let result := recordEventBatch batch s.controller
  ({ s with
      controller := result.1
      accepted :=
        match result.2 with
        | .ok _ => index :: s.accepted
        | .error _ => s.accepted },
    result.2)

/-- One attempt, and what it comes back with. -/
def DeliveryRun.attempt (s : DeliveryRun) (index : ℕ) (batch : EventBatchRequest)
    (fate : Fate) : DeliveryRun × HttpReply EventBatchResponse :=
  let s := { s with attempted := index :: s.attempted }
  match fate with
  | .lost error => (s, .failed error)
  | .unanswered error => ({ s with inFlight := index :: s.inFlight }, .failed error)
  | .turnedAway status _ => (s, .response status (.error ""))
  | .answered undecoded =>
      let handled := s.handleBatch index batch
      (handled.1, answerTo handled.2 undecoded)

/-- The attempts, until one gets a success status or no retry is left, with what they come
back with. -/
def DeliveryRun.attempts (index : ℕ) (batch : EventBatchRequest) :
    (fates : ℕ → Fate) → (retries : ℕ) → DeliveryRun →
      DeliveryRun × List (HttpReply EventBatchResponse)
  | fates, 0, s =>
      let attempted := s.attempt index batch (fates 0)
      (attempted.1, [attempted.2])
  | fates, retries + 1, s =>
      let attempted := s.attempt index batch (fates 0)
      match attemptResult attempted.2 with
      | .ok _ => (attempted.1, [attempted.2])
      | .error _ =>
          let rest := DeliveryRun.attempts index batch (fun i => fates (i + 1)) retries attempted.1
          (rest.1, attempted.2 :: rest.2)

/-- The answer of each attempt; there are no further attempts. -/
def repliesOf (replies : List (HttpReply EventBatchResponse)) (attempt : ℕ) :
    HttpReply EventBatchResponse :=
  (replies[attempt]?).getD (.failed "")

/-- The retries that a flush allows each batch. -/
def retriesOf (cause : FlushCause) : ℕ := if cause.retry then maxRetries else 0

/-- A batch that passes the worker's own validation is posted. -/
def DeliveryRun.exchange (s : DeliveryRun) (index : ℕ) (batch : EventBatchRequest)
    (cause : FlushCause) (fates : ℕ → Fate) :
    DeliveryRun × List (HttpReply EventBatchResponse) :=
  match batch.validate usizeMax with
  | .error _ => (s, [])
  | .ok () => DeliveryRun.attempts index batch fates (retriesOf cause) s

/-- Post the next batch of a flush. -/
def DeliveryRun.post (p : SinkParams) (s : DeliveryRun) (cause : FlushCause)
    (events : List QueuedEvent) (rest : List (List QueuedEvent))
    (lastError : Option ExchangeError) (sentAtUnixNanos : UInt64) (fates : ℕ → Fate) :
    DeliveryRun :=
  let batch := s.sink.nextRequest p events sentAtUnixNanos
  let exchanged := s.exchange s.sink.made.length batch cause fates
  let replies := repliesOf exchanged.2
  { exchanged.1 with
    sink := s.sink.postNext p cause events rest lastError sentAtUnixNanos replies
    exits := s.exits ++ [(postRequest batch cause.retry replies).exit] }

/-! ## The machine -/

inductive DeliveryStep
  /-- A step of the sink other than a post. -/
  | sink (step : SinkStep)
  | post (sentAtUnixNanos : UInt64) (fates : ℕ → Fate)
  /-- A request that the agent has given up on arrives. -/
  | arrive (index : ℕ)
  | request (request : Request)

/-- Whether a step of the sink posts a batch. -/
def isPost : SinkStep → Bool
  | .post _ _ => true
  | _ => false

def deliveryStep (p : SinkParams) (s : DeliveryRun) : DeliveryStep → Option DeliveryRun
  | .sink step =>
      if isPost step then none
      else (sinkStep p s.sink step).map fun sink => { s with sink := sink }
  | .post sentAtUnixNanos fates =>
      match s.sink.phase with
      | .flushing cause (events :: rest) lastError =>
          some (s.post p cause events rest lastError sentAtUnixNanos fates)
      | _ => none
  | .arrive index =>
      match s.sink.made[index]? with
      | some batch =>
          if index ∈ s.inFlight then
            some ({ s with inFlight := s.inFlight.erase index }.handleBatch index batch).1
          else none
      | none => none
  | .request request =>
      if request.reportsEventsOf p.controller.agentId then none
      else some { s with controller := handle request s.controller }

def deliveryMachine (p : SinkParams) (config : ConfigResponse) (startedAt : SystemTime) :
    Machine DeliveryRun DeliveryStep where
  init := ⟨SinkState.new, InnerState.new config startedAt, [], [], [], []⟩
  step := deliveryStep p

/-! ## What the attempts amount to -/

/-- From one state to another a batch of a size was tried, was accepted and was left on its
way a number of times, and nothing else happened. -/
structure Tried (index size tries hits strays : ℕ) (s t : DeliveryRun) : Prop where
  attempted : t.attempted = List.replicate tries index ++ s.attempted
  accepted : t.accepted = List.replicate hits index ++ s.accepted
  inFlight : t.inFlight = List.replicate strays index ++ s.inFlight
  bounded : hits + strays ≤ tries
  total : t.controller.acceptedEventsTotal = s.controller.acceptedEventsTotal + hits * size
  exits : t.exits = s.exits

theorem Tried.refl (index size : ℕ) (s : DeliveryRun) : Tried index size 0 0 0 s s :=
  ⟨rfl, rfl, rfl, le_rfl, by simp, rfl⟩

theorem Tried.trans {index size tries hits strays tries' hits' strays' : ℕ}
    {s t u : DeliveryRun} (h : Tried index size tries hits strays s t)
    (h' : Tried index size tries' hits' strays' t u) :
    Tried index size (tries' + tries) (hits' + hits) (strays' + strays) s u where
  attempted := by
    rw [h'.attempted, h.attempted, ← List.append_assoc, List.replicate_append_replicate]
  accepted := by
    rw [h'.accepted, h.accepted, ← List.append_assoc, List.replicate_append_replicate]
  inFlight := by
    rw [h'.inFlight, h.inFlight, ← List.append_assoc, List.replicate_append_replicate]
  bounded := by
    have hfirst := h.bounded
    have hsecond := h'.bounded
    omega
  total := by
    rw [h'.total, h.total, Nat.add_mul]
    omega
  exits := h'.exits.trans h.exits

/-- The controller accepts a batch, or rejects it and keeps its totals. -/
theorem handleBatch_cases (s : DeliveryRun) (index : ℕ) (batch : EventBatchRequest) :
    (∃ response, (s.handleBatch index batch).2 = .ok response ∧
        (s.handleBatch index batch).1.accepted = index :: s.accepted ∧
        (s.handleBatch index batch).1.controller.acceptedEventsTotal =
          s.controller.acceptedEventsTotal + batch.events.length) ∨
      ∃ error, (s.handleBatch index batch).2 = .error error ∧
        (s.handleBatch index batch).1.accepted = s.accepted ∧
        (s.handleBatch index batch).1.controller.acceptedEventsTotal =
          s.controller.acceptedEventsTotal := by
  cases hvalid : batch.validate s.controller.config.batching.maxBatchEvents.toNat with
  | error e => exact .inr ⟨e, by simp [DeliveryRun.handleBatch, recordEventBatch, hvalid]⟩
  | ok _ =>
      refine .inl ⟨⟨Wire.wireVersion, UInt64.ofNat batch.events.length, 0,
        s.controller.config.version⟩, ?_⟩
      simp [DeliveryRun.handleBatch, recordEventBatch, hvalid, updateSequenceTracking]

theorem isSuccess_errorStatus (error : WireError) : isSuccess (errorStatus error) = false := by
  cases error <;> rfl

/-- **One attempt** has a success status only if the controller has accepted the batch. -/
theorem tried_attempt (s : DeliveryRun) (index : ℕ) (batch : EventBatchRequest) (fate : Fate) :
    ∃ hits strays,
      Tried index batch.events.length 1 hits strays s (s.attempt index batch fate).1 ∧
      (∀ response, attemptResult (s.attempt index batch fate).2 = .ok response →
        1 ≤ hits) := by
  cases fate with
  | lost error => exact ⟨0, 0, ⟨rfl, rfl, rfl, Nat.zero_le _, by simp [DeliveryRun.attempt], rfl⟩,
      nofun⟩
  | unanswered error =>
      exact ⟨0, 1, ⟨rfl, rfl, rfl, le_rfl, by simp [DeliveryRun.attempt], rfl⟩, nofun⟩
  | turnedAway status failure =>
      refine ⟨0, 0, ⟨rfl, rfl, rfl, Nat.zero_le _, by simp [DeliveryRun.attempt], rfl⟩, ?_⟩
      intro response hresult
      rw [DeliveryRun.attempt, attemptResult, failure] at hresult
      cases hresult
  | answered undecoded =>
      let s' : DeliveryRun := { s with attempted := index :: s.attempted }
      rcases handleBatch_cases s' index batch with
        ⟨response, -, haccepted, htotal⟩ | ⟨error, hresult, haccepted, htotal⟩
      · refine ⟨1, 0, ⟨rfl, haccepted, rfl, le_rfl, ?_, rfl⟩, fun _ _ => le_rfl⟩
        rw [Nat.one_mul]
        exact htotal
      · refine ⟨0, 0, ⟨rfl, haccepted, rfl, Nat.zero_le _, ?_, rfl⟩, ?_⟩
        · rw [Nat.zero_mul]
          exact htotal
        · intro response hanswer
          have hreply : (s.attempt index batch (.answered undecoded)).2 =
              .response (errorStatus error) (.error (undecoded.getD "")) := by
            show answerTo (s'.handleBatch index batch).2 undecoded = _
            rw [hresult, answerTo]
          rw [hreply, attemptResult, isSuccess_errorStatus] at hanswer
          cases hanswer

/-- The number of an attempt does not matter. -/
theorem postAttempts_succ (replies : ℕ → HttpReply EventBatchResponse) (attempt retries : ℕ) :
    postAttempts replies (attempt + 1) retries =
      postAttempts (fun i => replies (i + 1)) attempt retries := by
  induction retries generalizing attempt with
  | zero => rfl
  | succ retries ih =>
      rw [postAttempts, postAttempts, ih]

/-- **All attempts** of a batch together are at most one more than the retries, and get a
success status only if the controller has accepted the batch. -/
theorem tried_attempts (index : ℕ) (batch : EventBatchRequest) (fates : ℕ → Fate)
    (retries : ℕ) (s : DeliveryRun) :
    ∃ tries hits strays, tries ≤ retries + 1 ∧
      Tried index batch.events.length tries hits strays s
        (DeliveryRun.attempts index batch fates retries s).1 ∧
      ∀ response, postAttempts (repliesOf (DeliveryRun.attempts index batch fates retries s).2)
        0 retries = .answered response → 1 ≤ hits := by
  induction retries generalizing fates s with
  | zero =>
      obtain ⟨hits, strays, htried, hsuccess⟩ := tried_attempt s index batch (fates 0)
      refine ⟨1, hits, strays, le_rfl, htried, fun response hanswered => ?_⟩
      rw [DeliveryRun.attempts, postAttempts] at hanswered
      split at hanswered
      · next response' hresult => exact hsuccess response' hresult
      · cases hanswered
  | succ retries ih =>
      obtain ⟨hits, strays, htried, hsuccess⟩ := tried_attempt s index batch (fates 0)
      rw [DeliveryRun.attempts]
      cases hresult : attemptResult (s.attempt index batch (fates 0)).2 with
      | ok response =>
          exact ⟨1, hits, strays, by omega, htried, fun _ _ => hsuccess response hresult⟩
      | error error =>
          obtain ⟨tries', hits', strays', hle, htried', hsuccess'⟩ :=
            ih (fun i => fates (i + 1)) (s.attempt index batch (fates 0)).1
          refine ⟨tries' + 1, hits' + hits, strays' + strays, by omega,
            htried.trans htried', fun response hanswered => ?_⟩
          rw [postAttempts] at hanswered
          have hfirst : attemptResult (repliesOf ((s.attempt index batch (fates 0)).2 ::
              (DeliveryRun.attempts index batch (fun i => fates (i + 1)) retries
                (s.attempt index batch (fates 0)).1).2) 0) = .error error := hresult
          simp only [hfirst] at hanswered
          rw [postAttempts_succ] at hanswered
          have hone := hsuccess' response hanswered
          omega

theorem answered_of_exit {outcome : BatchOutcome} (h : outcome.exit = .delivered) :
    ∃ response, outcome = .answered response := by
  cases outcome with
  | answered response => exact ⟨response, rfl⟩
  | refused error => cases h
  | exhausted error => cases h

theorem refused_of_exit {outcome : BatchOutcome} (h : outcome.exit = .refused) :
    ∃ error, outcome = .refused error := by
  cases outcome with
  | refused error => exact ⟨error, rfl⟩
  | answered response => cases h
  | exhausted error => cases h

/-- **A batch** leaves as delivered only if the controller has accepted it, and as refused
only if it has not been tried. -/
theorem tried_exchange (s : DeliveryRun) (index : ℕ) (batch : EventBatchRequest)
    (cause : FlushCause) (fates : ℕ → Fate) {exit : Exit}
    (hexit : (postRequest batch cause.retry
      (repliesOf (s.exchange index batch cause fates).2)).exit = exit) :
    ∃ tries hits strays, tries ≤ maxRetries + 1 ∧
      Tried index batch.events.length tries hits strays s
        (s.exchange index batch cause fates).1 ∧
      (exit = .delivered → 1 ≤ hits) ∧ (exit = .refused → tries = 0) := by
  subst hexit
  rw [DeliveryRun.exchange, postRequest]
  cases hvalid : batch.validate usizeMax with
  | error error =>
      refine ⟨0, 0, 0, Nat.zero_le _, Tried.refl _ _ s, fun hexit => ?_, fun _ => rfl⟩
      cases hexit
  | ok _ =>
      obtain ⟨tries, hits, strays, htries, htried, hanswered⟩ :=
        tried_attempts index batch fates (retriesOf cause) s
      have hretries : retriesOf cause ≤ maxRetries := by
        rw [retriesOf]
        split <;> omega
      refine ⟨tries, hits, strays, by omega, htried, fun hexit => ?_, fun hexit => ?_⟩
      · obtain ⟨response, houtcome⟩ := answered_of_exit hexit
        exact hanswered response houtcome
      · obtain ⟨error, houtcome⟩ := refused_of_exit hexit
        exact absurd houtcome (postAttempts_ne_refused _ _ _ error)

/-! ## Every state -/

/-- What the agent takes for delivered the controller has accepted, what the worker has
refused the controller has never seen, and no batch is accepted more often than the worker
may try it. -/
structure AtLeastOnce (s : DeliveryRun) : Prop where
  delivered : ∀ index, s.exits[index]? = some .delivered → index ∈ s.accepted
  refused : ∀ index, s.exits[index]? = some .refused → index ∉ s.accepted
  bounded : ∀ index, s.accepted.count index ≤ maxRetries + 1
  /-- So the agent never counts more events as delivered than the controller as accepted. -/
  total : s.sink.left.countP (·.2 = .delivered) ≤ s.controller.acceptedEventsTotal

structure Accounts (s : DeliveryRun) : Prop where
  exits : s.exits.length = s.sink.made.length
  made : ∀ index ∈ s.attempted, index < s.sink.made.length
  budget : ∀ index,
    s.accepted.count index + s.inFlight.count index ≤ s.attempted.count index
  attempts : ∀ index, s.attempted.count index ≤ maxRetries + 1
  delivered : ∀ index, s.exits[index]? = some .delivered → index ∈ s.accepted
  refused : ∀ index, s.exits[index]? = some .refused → index ∉ s.attempted
  total : s.sink.left.countP (·.2 = .delivered) ≤ s.controller.acceptedEventsTotal

theorem Accounts.atLeastOnce {s : DeliveryRun} (h : Accounts s) : AtLeastOnce s where
  delivered := h.delivered
  refused := by
    intro index hrefused haccepted
    have hpositive := List.count_pos_iff.mpr haccepted
    have hnone := List.count_eq_zero.mpr (h.refused index hrefused)
    have hbudget := h.budget index
    omega
  bounded := by
    intro index
    have hbudget := h.budget index
    have hattempts := h.attempts index
    omega
  total := h.total

theorem accounts_init (p : SinkParams) (config : ConfigResponse) (startedAt : SystemTime) :
    Accounts (deliveryMachine p config startedAt).init where
  exits := rfl
  made := nofun
  budget := fun _ => le_rfl
  attempts := fun _ => Nat.zero_le _
  delivered := nofun
  refused := nofun
  total := Nat.zero_le _

/-- Only posting delivers events or makes a batch. -/
theorem left_of_step {p : SinkParams} {s t : SinkState} {a : SinkStep}
    (hstep : sinkStep p s a = some t) (hpost : isPost a = false) :
    t.left.countP (·.2 = .delivered) = s.left.countP (·.2 = .delivered) ∧ t.made = s.made := by
  cases stepped_of_step hstep with
  | send occurrence =>
      unfold SinkState.send SinkState.tryEnqueueControllerEvent
      split
      · exact ⟨rfl, rfl⟩
      · split
        · split <;> simp [SinkState.dropEvent]
        · simp [SinkState.dropEvent]
  | recvEvent hphase hqueue =>
      rw [SinkState.flushIfFull]
      split <;> exact ⟨rfl, rfl⟩
  | post sentAtUnixNanos replies hphase => cases hpost
  | @finish cause lastError hphase => cases cause <;> exact ⟨rfl, rfl⟩
  | _ => exact ⟨rfl, rfl⟩

theorem accounts_sink {p : SinkParams} {s : DeliveryRun} (h : Accounts s) {a : SinkStep}
    (hpost : isPost a = false) {sink : SinkState} (hstep : sinkStep p s.sink a = some sink) :
    Accounts { s with sink := sink } := by
  obtain ⟨hleft, hmade⟩ := left_of_step hstep hpost
  refine ⟨?_, ?_, h.budget, h.attempts, h.delivered, h.refused, ?_⟩
  · exact h.exits.trans (congrArg List.length hmade.symm)
  · intro index hindex
    exact (h.made index hindex).trans_eq (congrArg List.length hmade.symm)
  · exact hleft.trans_le h.total

/-- What a post does to the sink. -/
theorem postNext_left (p : SinkParams) (s : SinkState) (cause : FlushCause)
    (events : List QueuedEvent) (rest : List (List QueuedEvent))
    (lastError : Option ExchangeError) (sentAtUnixNanos : UInt64)
    (replies : ℕ → HttpReply EventBatchResponse) :
    let batch := s.nextRequest p events sentAtUnixNanos
    (s.postNext p cause events rest lastError sentAtUnixNanos replies).left.countP
        (·.2 = .delivered) =
      (if (postRequest batch cause.retry replies).exit = .delivered then batch.events.length
        else 0) + s.left.countP (·.2 = .delivered) := by
  intro batch
  have hleft : (s.postNext p cause events rest lastError sentAtUnixNanos replies).left =
      Transit.Ledger.leaving events (postRequest batch cause.retry replies).exit ++ s.left := rfl
  have hlength : batch.events.length = events.length := by
    simp [batch, SinkState.nextRequest, Worker.request]
  rw [hleft, List.countP_append, Transit.Ledger.countP_leaving, hlength]

/-- The attempts of the next batch, of which there have been none. -/
theorem Accounts.of_tried {s t : DeliveryRun} (h : Accounts s)
    {sink : SinkState} {exit : Exit} {size tries hits strays : ℕ}
    (htried : Tried s.sink.made.length size tries hits strays s t)
    (htries : tries ≤ maxRetries + 1) (hdelivered : exit = .delivered → 1 ≤ hits)
    (hrefused : exit = .refused → tries = 0)
    (hmade : sink.made.length = s.sink.made.length + 1)
    (hleft : sink.left.countP (·.2 = .delivered) =
      (if exit = .delivered then size else 0) + s.sink.left.countP (·.2 = .delivered)) :
    Accounts { t with sink := sink, exits := s.exits ++ [exit] } := by
  have hfresh : s.attempted.count s.sink.made.length = 0 :=
    List.count_eq_zero.mpr fun hmem => (h.made _ hmem).false
  have hcount : ∀ (count index : ℕ), (List.replicate count s.sink.made.length).count index =
      if s.sink.made.length = index then count else 0 := by
    intro count index
    rw [List.count_replicate]
    simp
  apply Accounts.mk
  · simp [h.exits, hmade]
  · intro index hindex
    simp only [htried.attempted] at hindex
    simp only [hmade]
    rcases List.mem_append.mp hindex with hnew | hold
    · have heq := List.eq_of_mem_replicate hnew
      omega
    · exact (h.made index hold).trans (Nat.lt_succ_self _)
  · intro index
    simp only [htried.attempted, htried.accepted, htried.inFlight, List.count_append, hcount]
    have hbudget := h.budget index
    have hbounded := htried.bounded
    split <;> omega
  · intro index
    simp only [htried.attempted, List.count_append, hcount]
    split
    · next heq =>
        rw [← heq, hfresh]
        omega
    · simpa using h.attempts index
  · intro index hexit
    simp only [htried.accepted]
    simp only [List.getElem?_append] at hexit
    split at hexit
    · exact List.mem_append_right _ (h.delivered index hexit)
    · next hge =>
        rw [List.getElem?_singleton] at hexit
        obtain ⟨hindex, hexit⟩ := Option.ite_none_right_eq_some.mp hexit
        have heq : index = s.sink.made.length := by
          have hlength := h.exits
          omega
        refine List.mem_append_left _ (List.mem_replicate.mpr ⟨?_, heq⟩)
        have hhits := hdelivered (Option.some.inj hexit)
        omega
  · intro index hexit
    simp only [htried.attempted]
    simp only [List.getElem?_append] at hexit
    split at hexit
    · next hlt =>
        intro hmem
        rcases List.mem_append.mp hmem with hnew | hold
        · have heq := List.eq_of_mem_replicate hnew
          have hlength := h.exits
          omega
        · exact h.refused index hexit hold
    · next hge =>
        rw [List.getElem?_singleton] at hexit
        obtain ⟨hindex, hexit⟩ := Option.ite_none_right_eq_some.mp hexit
        have hlength := h.exits
        rw [hrefused (Option.some.inj hexit)]
        intro hmem
        have hlt := h.made index (by simpa using hmem)
        omega
  · have htotal := h.total
    simp only [hleft, htried.total]
    split
    · next hexit =>
        have hsize : size ≤ hits * size := Nat.le_mul_of_pos_left size (hdelivered hexit)
        omega
    · omega

theorem accounts_post (p : SinkParams) {s : DeliveryRun} (h : Accounts s) (cause : FlushCause)
    (events : List QueuedEvent) (rest : List (List QueuedEvent))
    (lastError : Option ExchangeError) (sentAtUnixNanos : UInt64) (fates : ℕ → Fate) :
    Accounts (s.post p cause events rest lastError sentAtUnixNanos fates) := by
  let batch := s.sink.nextRequest p events sentAtUnixNanos
  let replies := repliesOf (s.exchange s.sink.made.length batch cause fates).2
  obtain ⟨tries, hits, strays, htries, htried, hdelivered, hrefused⟩ :=
    tried_exchange s s.sink.made.length batch cause fates rfl
  have hmade : (s.sink.postNext p cause events rest lastError sentAtUnixNanos
      replies).made.length = s.sink.made.length + 1 := List.length_append
  exact h.of_tried htried htries hdelivered hrefused hmade
    (postNext_left p s.sink cause events rest lastError sentAtUnixNanos replies)

/-- A request that arrives late. -/
theorem accounts_arrive {s : DeliveryRun} (h : Accounts s) {index : ℕ}
    (hindex : index ∈ s.inFlight) (batch : EventBatchRequest) :
    Accounts ({ s with inFlight := s.inFlight.erase index }.handleBatch index batch).1 := by
  let s' : DeliveryRun := { s with inFlight := s.inFlight.erase index }
  have hstray : ∀ i, s.inFlight.count i =
      (s.inFlight.erase index).count i + if index = i then 1 else 0 := by
    intro i
    have hpositive := List.count_pos_iff.mpr hindex
    rw [List.count_erase]
    by_cases heq : index = i
    · subst heq
      simp
      omega
    · simp [heq]
  rcases handleBatch_cases s' index batch with
    ⟨response, -, haccepted, htotal⟩ | ⟨error, -, haccepted, htotal⟩
  · refine ⟨h.exits, h.made, fun i => ?_, h.attempts, fun i hi => ?_, h.refused, ?_⟩
    · have hbudget := h.budget i
      have hi := hstray i
      show (s'.handleBatch index batch).1.accepted.count i + (s.inFlight.erase index).count i ≤ _
      rw [haccepted, List.count_cons]
      simp only [beq_iff_eq]
      show List.count i s.accepted + _ + _ ≤ List.count i s.attempted
      omega
    · rw [haccepted]
      exact List.mem_cons_of_mem _ (h.delivered i hi)
    · rw [htotal]
      exact h.total.trans (Nat.le_add_right _ _)
  · refine ⟨h.exits, h.made, fun i => ?_, h.attempts, fun i hi => ?_, h.refused, ?_⟩
    · have hbudget := h.budget i
      have hi := hstray i
      show (s'.handleBatch index batch).1.accepted.count i + (s.inFlight.erase index).count i ≤ _
      rw [haccepted]
      show List.count i s.accepted + _ ≤ List.count i s.attempted
      omega
    · rw [haccepted]
      exact h.delivered i hi
    · rw [htotal]
      exact h.total

/-- Other requests accept no events of the agent; they may accept those of others. -/
theorem handle_acceptedEventsTotal (request : Request) (inner : InnerState) :
    inner.acceptedEventsTotal ≤ (handle request inner).acceptedEventsTotal := by
  have hhandled := handled request inner
  generalize handle request inner = after at hhandled
  generalize request.outcome inner = outcome at hhandled
  cases hhandled with
  | accepted hvalid => exact Nat.le_add_right _ _
  | _ => exact le_rfl

theorem accounts_of_step {p : SinkParams} {s t : DeliveryRun} {a : DeliveryStep}
    (h : Accounts s) (hstep : deliveryStep p s a = some t) : Accounts t := by
  cases a with
  | sink step =>
      obtain ⟨hpost, hstep⟩ := Option.ite_none_left_eq_some.mp hstep
      obtain ⟨sink, hsink, rfl⟩ := Option.map_eq_some_iff.mp hstep
      exact accounts_sink h (Bool.eq_false_iff.mpr hpost) hsink
  | post sentAtUnixNanos fates =>
      simp only [deliveryStep] at hstep
      split at hstep
      · cases hstep
        exact accounts_post p h _ _ _ _ _ _
      · cases hstep
  | arrive index =>
      simp only [deliveryStep] at hstep
      split at hstep
      · obtain ⟨hindex, hstep⟩ := Option.ite_none_right_eq_some.mp hstep
        cases hstep
        exact accounts_arrive h hindex _
      · cases hstep
  | request request =>
      obtain ⟨-, hstep⟩ := Option.ite_none_left_eq_some.mp hstep
      cases hstep
      exact ⟨h.exits, h.made, h.budget, h.attempts, h.delivered, h.refused,
        h.total.trans (handle_acceptedEventsTotal request s.controller)⟩

/-- **At least once, and not too often.** In every run, whatever is lost, late or cut off,
what the sink reports as delivered the controller has accepted, and no batch is accepted
more than four times. -/
theorem atLeastOnce_always (p : SinkParams) (config : ConfigResponse) (startedAt : SystemTime)
    (steps : List DeliveryStep) :
    (deliveryMachine p config startedAt).Always AtLeastOnce
      (deliveryMachine p config startedAt).init steps :=
  Machine.Always.mono (fun _ => Accounts.atLeastOnce)
    (Machine.always_of_preserved (J := Accounts) (fun hs hstep => accounts_of_step hs hstep)
      (accounts_init p config startedAt) steps)

end Tapio.Controller
