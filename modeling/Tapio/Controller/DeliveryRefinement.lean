/-
# The attempts refine the reports

The network between the sink and the controller in two models. In the one, any batch the
worker has let pass may reach the controller at any time and any number of times. In the
other, requests are sent by the attempts of the worker, each reaches the controller once
at most, and what an attempt comes back with depends on what the controller did. The second
does nothing that the first cannot do, so what holds in every run of the first, such as what
the sequence counters say about the batches that are missing, holds of the attempts.
-/
import Tapio.Agent.Registration
import Tapio.Controller.Delivery

namespace Tapio.Controller

open Wire Numeric Agent Sink Transition

/-- The two models agree about the parties, and about the batches accepted since the agent's
latest accepted hello. What is in flight has been let pass. -/
structure Refines (s : DeliveryRun) (r : ReportingRun) : Prop where
  sink : r.sink = s.sink
  controller : r.controller = s.controller
  accepted : r.accepted <+: s.accepted
  inFlight : ∀ index ∈ s.inFlight, ∃ batch, s.sink.made[index]? = some batch ∧
    batch.validate usizeMax = .ok ()

/-- The same agreement, with the batches that were accepted before that hello. -/
structure Agrees (earlier : List ℕ) (s : DeliveryRun) (r : ReportingRun) : Prop where
  sink : r.sink = s.sink
  controller : r.controller = s.controller
  accepted : r.accepted ++ earlier = s.accepted
  inFlight : ∀ index ∈ s.inFlight, ∃ batch, s.sink.made[index]? = some batch ∧
    batch.validate usizeMax = .ok ()

theorem refines_iff_agrees {s : DeliveryRun} {r : ReportingRun} :
    Refines s r ↔ ∃ earlier, Agrees earlier s r := by
  constructor
  · rintro ⟨hsink, hcontroller, ⟨earlier, haccepted⟩, hinFlight⟩
    exact ⟨earlier, hsink, hcontroller, haccepted, hinFlight⟩
  · rintro ⟨earlier, hsink, hcontroller, haccepted, hinFlight⟩
    exact ⟨hsink, hcontroller, ⟨earlier, haccepted⟩, hinFlight⟩

/-- The part of the agreement that a batch on its way does not touch. -/
structure Follows (earlier : List ℕ) (s : DeliveryRun) (r : ReportingRun) : Prop where
  controller : r.controller = s.controller
  accepted : r.accepted ++ earlier = s.accepted

section

variable {p : SinkParams} {config : ConfigResponse} {startedAt : SystemTime}
variable {earlier : List ℕ} {s : DeliveryRun} {r : ReportingRun}
variable {index : ℕ} {batch : EventBatchRequest}

/-- A batch that the controller handles is one that is delivered. -/
theorem Follows.handleBatch (h : Follows earlier s r) (hmade : r.sink.made[index]? = some batch)
    (hvalid : batch.validate usizeMax = .ok ()) :
    ∃ r', reportingStep p r (.deliver index) = some r' ∧ r'.sink = r.sink ∧
      Follows earlier (s.handleBatch index batch).1 r' := by
  refine ⟨r.receive index batch, ?_, receive_sink r index batch, ?_⟩
  · rw [reportingStep, hmade]
    exact if_pos hvalid
  · rw [ReportingRun.receive, DeliveryRun.handleBatch]
    rw [h.controller]
    cases hresult : recordEventBatch batch s.controller with
    | mk controller result =>
        cases result with
        | error error => exact ⟨rfl, h.accepted⟩
        | ok response => exact ⟨rfl, congrArg (index :: ·) h.accepted⟩

theorem Follows.attempt (h : Follows earlier s r) (hmade : r.sink.made[index]? = some batch)
    (hvalid : batch.validate usizeMax = .ok ()) (fate : Fate) :
    ∃ labels r', (reportingMachine p config startedAt).exec r labels = some r' ∧
      r'.sink = r.sink ∧ Follows earlier (s.attempt index batch fate).1 r' := by
  cases fate with
  | lost error => exact ⟨[], r, rfl, rfl, h.controller, h.accepted⟩
  | unanswered error => exact ⟨[], r, rfl, rfl, h.controller, h.accepted⟩
  | turnedAway status failure => exact ⟨[], r, rfl, rfl, h.controller, h.accepted⟩
  | answered undecoded =>
      have h' : Follows earlier { s with attempted := index :: s.attempted } r :=
        ⟨h.controller, h.accepted⟩
      obtain ⟨r', hstep, hsink, hfollows⟩ := h'.handleBatch (p := p) hmade hvalid
      refine ⟨[.deliver index], r', ?_, hsink, hfollows⟩
      exact Option.bind_eq_some_iff.mpr ⟨r', hstep, rfl⟩

/-- **The attempts** to post a batch deliver it some number of times. -/
theorem Follows.attempts (h : Follows earlier s r) (hmade : r.sink.made[index]? = some batch)
    (hvalid : batch.validate usizeMax = .ok ()) (fates : ℕ → Fate) (retries : ℕ) :
    ∃ labels r', (reportingMachine p config startedAt).exec r labels = some r' ∧
      r'.sink = r.sink ∧
      Follows earlier (DeliveryRun.attempts index batch fates retries s).1 r' := by
  induction retries generalizing s r fates with
  | zero => exact h.attempt hmade hvalid (fates 0)
  | succ retries ih =>
      obtain ⟨first, r', hfirst, hsink, hfollows⟩ : ∃ labels r',
          (reportingMachine p config startedAt).exec r labels = some r' ∧ r'.sink = r.sink ∧
          Follows earlier (s.attempt index batch (fates 0)).1 r' := h.attempt hmade hvalid (fates 0)
      rw [DeliveryRun.attempts]
      cases attemptResult (s.attempt index batch (fates 0)).2 with
      | ok response => exact ⟨first, r', hfirst, hsink, hfollows⟩
      | error error =>
          obtain ⟨second, r'', hsecond, hsink', hfollows'⟩ :=
            ih hfollows (hsink ▸ hmade) fun i => fates (i + 1)
          refine ⟨first ++ second, r'', ?_, hsink'.trans hsink, hfollows'⟩
          rw [Machine.exec_append, hfirst]
          exact hsecond

end

theorem inFlight_exchange (s : DeliveryRun) (index : ℕ) (batch : EventBatchRequest)
    (cause : FlushCause) (fates : ℕ → Fate) :
    ∀ i ∈ (s.exchange index batch cause fates).1.inFlight, i ∈ s.inFlight ∨
      (i = index ∧ batch.validate usizeMax = .ok ()) := by
  intro i hi
  rw [DeliveryRun.exchange] at hi
  cases hvalid : batch.validate usizeMax with
  | error error =>
      rw [hvalid] at hi
      exact .inl hi
  | ok _ =>
      rw [hvalid] at hi
      obtain ⟨tries, hits, strays, -, htried, -⟩ :=
        tried_attempts index batch fates (retriesOf cause) s
      simp only [htried.inFlight] at hi
      rcases List.mem_append.mp hi with hnew | hold
      · exact .inr ⟨List.eq_of_mem_replicate hnew, rfl⟩
      · exact .inl hold

/-- Batches are only added. -/
theorem made_getElem_of_step {p : SinkParams} {s t : SinkState} {a : SinkStep}
    (hstep : sinkStep p s a = some t) {index : ℕ} {batch : EventBatchRequest}
    (hmade : s.made[index]? = some batch) : t.made[index]? = some batch := by
  rcases made_of_step hstep with ⟨hsame, -⟩ | ⟨events, sentAt, hadded, -⟩
  · rw [hsame]
    exact hmade
  · rw [hadded, List.getElem?_append_left (List.getElem?_eq_some_iff.mp hmade).1]
    exact hmade

section

variable {p : SinkParams} {config : ConfigResponse} {startedAt : SystemTime}
variable {earlier : List ℕ} {s : DeliveryRun} {r : ReportingRun}

theorem Agrees.sinkStep (h : Agrees earlier s r) {a : SinkStep} {sink : SinkState}
    (hstep : Sink.sinkStep p s.sink a = some sink) :
    ∃ r', reportingStep p r (.sink a) = some r' ∧ Agrees earlier { s with sink := sink } r' := by
  refine ⟨{ r with sink := sink }, ?_, rfl, h.controller, h.accepted, ?_⟩
  · rw [reportingStep, h.sink, hstep]
    rfl
  · intro index hindex
    obtain ⟨batch, hmade, hvalid⟩ := h.inFlight index hindex
    exact ⟨batch, made_getElem_of_step hstep hmade, hvalid⟩

theorem Agrees.post (h : Agrees earlier s r) {cause : FlushCause} {events : List QueuedEvent}
    {rest : List (List QueuedEvent)} {lastError : Option ExchangeError}
    (hphase : s.sink.phase = .flushing cause (events :: rest) lastError)
    (sentAtUnixNanos : UInt64) (fates : ℕ → Fate) :
    ∃ labels r', (reportingMachine p config startedAt).exec r labels = some r' ∧
      Agrees earlier (s.post p cause events rest lastError sentAtUnixNanos fates) r' := by
  rw [DeliveryRun.post]
  have hmade : ∀ replies, (s.sink.postNext p cause events rest lastError sentAtUnixNanos
      replies).made = s.sink.made ++ [s.sink.nextRequest p events sentAtUnixNanos] := fun _ => rfl
  have hstep : ∀ replies, Sink.sinkStep p s.sink (.post sentAtUnixNanos replies) =
      some (s.sink.postNext p cause events rest lastError sentAtUnixNanos replies) := by
    intro replies
    rw [Sink.sinkStep, hphase]
  have hflight := inFlight_exchange s s.sink.made.length
    (s.sink.nextRequest p events sentAtUnixNanos) cause fates
  generalize s.sink.nextRequest p events sentAtUnixNanos = batch at hmade hflight ⊢
  have hfollows : ∀ posted : ReportingRun, Follows earlier s posted →
      posted.sink.made[s.sink.made.length]? = some batch →
      ∃ labels r', (reportingMachine p config startedAt).exec posted labels = some r' ∧
        r'.sink = posted.sink ∧
        Follows earlier (s.exchange s.sink.made.length batch cause fates).1 r' := by
    intro posted hstart hnew
    rw [DeliveryRun.exchange]
    cases hvalid : batch.validate usizeMax with
    | error error => exact ⟨[], posted, rfl, rfl, hstart⟩
    | ok _ => exact hstart.attempts hnew hvalid fates (retriesOf cause)
  generalize s.exchange s.sink.made.length batch cause fates = exchanged at hfollows hflight ⊢
  obtain ⟨posted, hposted, hagrees⟩ := h.sinkStep (hstep (repliesOf exchanged.2))
  have hnew : (s.sink.postNext p cause events rest lastError sentAtUnixNanos
      (repliesOf exchanged.2)).made[s.sink.made.length]? = some batch := by
    rw [hmade, List.getElem?_concat_length]
  obtain ⟨labels, r', hlabels, hsink, hcontroller, haccepted⟩ :=
    hfollows posted ⟨hagrees.controller, hagrees.accepted⟩ (hagrees.sink ▸ hnew)
  refine ⟨.sink (.post sentAtUnixNanos (repliesOf exchanged.2)) :: labels, r', ?_, ?_⟩
  · exact Option.bind_eq_some_iff.mpr ⟨posted, hposted, hlabels⟩
  · refine ⟨hsink.trans hagrees.sink, hcontroller, haccepted, fun i hi => ?_⟩
    rcases hflight i hi with hold | ⟨rfl, hvalid⟩
    · obtain ⟨older, hat, hvalid⟩ := h.inFlight i hold
      exact ⟨older, made_getElem_of_step (hstep _) hat, hvalid⟩
    · exact ⟨batch, hnew, hvalid⟩

theorem Agrees.arrive (h : Agrees earlier s r) {index : ℕ} {batch : EventBatchRequest}
    (hmade : s.sink.made[index]? = some batch) (hindex : index ∈ s.inFlight) :
    ∃ r', reportingStep p r (.deliver index) = some r' ∧ Agrees earlier
      ({ s with inFlight := s.inFlight.erase index }.handleBatch index batch).1 r' := by
  obtain ⟨found, hfound, hvalid⟩ := h.inFlight index hindex
  obtain rfl := Option.some.inj (hmade.symm.trans hfound)
  have hfollows : Follows earlier { s with inFlight := s.inFlight.erase index } r :=
    ⟨h.controller, h.accepted⟩
  have hsent : r.sink.made[index]? = some batch := by
    rw [h.sink]
    exact hmade
  obtain ⟨r', hstep, hsink, hcontroller, haccepted⟩ :=
    hfollows.handleBatch (p := p) hsent hvalid
  refine ⟨r', hstep, hsink.trans h.sink, hcontroller, haccepted, fun i hi => ?_⟩
  exact h.inFlight i (List.mem_of_mem_erase hi)

/-- A hello of the agent that is accepted leaves behind what was accepted so far. -/
theorem Agrees.request (h : Agrees earlier s r) {request : Request}
    (hother : ¬ request.reportsEventsOf p.controller.agentId) :
    ∃ r', reportingStep p r (.request request) = some r' ∧
      Agrees (if request.registers p.controller.agentId then s.accepted else earlier)
        { s with controller := handle request s.controller } r' := by
  refine ⟨_, if_neg hother, h.sink, congrArg (handle request) h.controller, ?_, h.inFlight⟩
  split
  · exact List.nil_append _
  · exact h.accepted

/-- Whether a step is a hello of an agent that the controller accepts. -/
def DeliveryStep.registers (agentId : String) : DeliveryStep → Bool
  | .request req => req.registers agentId
  | .sink _ | .post _ _ | .arrive _ => false

/-- A step over the network is matched by steps of the reports. -/
theorem Agrees.step {t : DeliveryRun} {a : DeliveryStep} (h : Agrees earlier s r)
    (hstep : (deliveryMachine p config startedAt).step s a = some t) :
    ∃ labels r', (reportingMachine p config startedAt).exec r labels = some r' ∧
      Agrees (if a.registers p.controller.agentId then t.accepted else earlier) t r' := by
  have hone : ∀ {label : ReportingStep} {r' : ReportingRun},
      reportingStep p r label = some r' →
      (reportingMachine p config startedAt).exec r [label] = some r' :=
    fun hlabel => Option.bind_eq_some_iff.mpr ⟨_, hlabel, rfl⟩
  cases a with
  | sink step =>
      obtain ⟨-, hstep⟩ := Option.ite_none_left_eq_some.mp hstep
      obtain ⟨sink, hsink, rfl⟩ := Option.map_eq_some_iff.mp hstep
      obtain ⟨r', hlabel, hagrees⟩ := h.sinkStep hsink
      exact ⟨[.sink step], r', hone hlabel, hagrees⟩
  | post sentAtUnixNanos fates =>
      simp only [deliveryMachine, deliveryStep] at hstep
      split at hstep
      · next hphase =>
          cases hstep
          exact h.post hphase sentAtUnixNanos fates
      · cases hstep
  | arrive index =>
      simp only [deliveryMachine, deliveryStep] at hstep
      split at hstep
      · next batch hmade =>
          obtain ⟨hindex, hstep⟩ := Option.ite_none_right_eq_some.mp hstep
          cases hstep
          obtain ⟨r', hlabel, hagrees⟩ := h.arrive (p := p) hmade hindex
          exact ⟨[.deliver index], r', hone hlabel, hagrees⟩
      · cases hstep
  | request request =>
      obtain ⟨hother, hstep⟩ := Option.ite_none_left_eq_some.mp hstep
      cases hstep
      obtain ⟨r', hlabel, hagrees⟩ := h.request (p := p) hother
      exact ⟨[.request request], r', hone hlabel, hagrees⟩

end

/-- **The attempts refine the reports.** Every step over the network that loses is matched
by steps of the machine in which batches may arrive at any time and any number of times. -/
theorem delivery_simulated (p : SinkParams) (config : ConfigResponse) (startedAt : SystemTime) :
    (deliveryMachine p config startedAt).SimulatedBy (reportingMachine p config startedAt)
      Refines where
  init := ⟨rfl, rfl, List.prefix_rfl, nofun⟩
  step := by
    intro s t r a hrefines hstep
    obtain ⟨earlier, hagrees⟩ := refines_iff_agrees.mp hrefines
    obtain ⟨labels, r', hlabels, hagrees'⟩ := hagrees.step hstep
    exact ⟨labels, r', hlabels, refines_iff_agrees.mpr ⟨_, hagrees'⟩⟩

/-! ## What the counters say of the attempts -/

/-- The run as the reports know it, with the batches accepted since the latest hello. -/
def DeliveryRun.reported (s : DeliveryRun) (accepted : List ℕ) : ReportingRun :=
  ⟨s.sink, s.controller, accepted⟩

/-- If nothing was accepted, nothing is tracked; otherwise the counters bound the loss since
the first accepted batch. -/
def LossTold (p : SinkParams) (s : ReportingRun) : Prop :=
  match s.accepted.getLast? with
  | none => s.tracking p = .default
  | some first => LossBounded s (s.tracking p) first

theorem Reporting.lossTold {p : SinkParams} {s : ReportingRun} (hs : Reporting p s)
    (hfew : s.sink.made.length < u64Max) : LossTold p s := by
  rw [LossTold]
  cases hfirst : s.accepted.getLast? with
  | none =>
      have htracked := hs.tracked hfew
      rwa [ReportingRun.received, List.getLast?_eq_none_iff.mp hfirst] at htracked
  | some first => exact hs.boundedLoss hfew hfirst

/-- A run, and the batches that were accepted before the agent's latest accepted hello. -/
structure HelloRun where
  run : DeliveryRun
  earlier : List ℕ

def helloMachine (p : SinkParams) (config : ConfigResponse) (startedAt : SystemTime) :
    Machine HelloRun DeliveryStep where
  init := ⟨(deliveryMachine p config startedAt).init, []⟩
  step s a := (deliveryStep p s.run a).map fun run =>
    ⟨run, if a.registers p.controller.agentId then run.accepted else s.earlier⟩

/-- Every run is one with its past recorded. -/
theorem exec_helloMachine (p : SinkParams) (config : ConfigResponse) (startedAt : SystemTime)
    (s : HelloRun) (schedule : List DeliveryStep) :
    ((helloMachine p config startedAt).exec s schedule).map HelloRun.run =
      (deliveryMachine p config startedAt).exec s.run schedule := by
  induction schedule generalizing s with
  | nil => rfl
  | cons a rest ih =>
      have hstep : (helloMachine p config startedAt).step s a =
          ((deliveryMachine p config startedAt).step s.run a).map fun run =>
            ⟨run, if a.registers p.controller.agentId then run.accepted else s.earlier⟩ := rfl
      rw [Machine.exec_cons, Machine.exec_cons, hstep]
      cases (deliveryMachine p config startedAt).step s.run a with
      | none => rfl
      | some run => exact ih _

theorem hello_simulated (p : SinkParams) (config : ConfigResponse) (startedAt : SystemTime) :
    (helloMachine p config startedAt).SimulatedBy (reportingMachine p config startedAt)
      (fun s r => Agrees s.earlier s.run r) where
  init := ⟨rfl, rfl, rfl, nofun⟩
  step := by
    intro s t r a hagrees hstep
    obtain ⟨run, hrun, rfl⟩ := Option.map_eq_some_iff.mp hstep
    exact hagrees.step hrun

/-- **The counters bound the loss over the network**, whatever becomes of the attempts: in
every run they tell of the batches that were accepted since the agent's latest accepted
hello. -/
theorem lossTold_sinceHello (p : SinkParams) (config : ConfigResponse) (startedAt : SystemTime)
    {schedule : List DeliveryStep} {s : DeliveryRun}
    (hrun : (deliveryMachine p config startedAt).exec
      (deliveryMachine p config startedAt).init schedule = some s)
    (hfew : s.sink.made.length < u64Max) :
    ∃ earlier since, (helloMachine p config startedAt).exec
        (helloMachine p config startedAt).init schedule = some ⟨s, earlier⟩ ∧
      since ++ earlier = s.accepted ∧ LossTold p (s.reported since) := by
  have hrecorded := exec_helloMachine p config startedAt
    (helloMachine p config startedAt).init schedule
  obtain ⟨⟨run, earlier⟩, hhello, heq⟩ := Option.map_eq_some_iff.mp (hrecorded.trans hrun)
  obtain rfl : run = s := heq
  obtain ⟨r, hr, hagrees⟩ :=
    (hello_simulated p config startedAt).reachable ⟨schedule, hhello⟩
  have hs := (reporting_invariant p config startedAt).of_reachable hr
  have hreported : r = run.reported r.accepted := by
    rw [DeliveryRun.reported, ← hagrees.sink, ← hagrees.controller]
  refine ⟨earlier, r.accepted, hhello, hagrees.accepted, ?_⟩
  rw [← hreported]
  exact hs.lossTold (hagrees.sink ▸ hfew)

/-- A batch of one event whose attempts meet the fates. -/
def attempted (fates : ℕ → Fate) : List DeliveryStep :=
  [.sink (.send connectionRefused), .sink .readLimits, .sink .recv,
    .post 1700000001000000000 fates, .sink .finish]

/-- After a first batch the agent says hello again. Of the three batches that follow, the
first is answered, the second is lost four times, and the answer to the third is cut off. -/
def helloBetween : List DeliveryStep :=
  .sink (.setBatching 1000 1) :: attempted (fun _ => .answered none) ++
    .request (.hello (buildHelloRequest ⟨"node/worker-1", "worker-1"⟩ "6.8.0" "x86_64")
      1700000002000000000) ::
    attempted (fun _ => .answered none) ++ attempted (fun _ => .lost "connect: refused") ++
    attempted (fun _ => .answered (some "EOF while parsing an object"))

theorem lossTold_sinceHello_helloBetween :
    ∃ s ∈ (deliveryMachine (sinkOf "node/worker-1") ConfigResponse.defaultV1 0).exec
        (deliveryMachine (sinkOf "node/worker-1") ConfigResponse.defaultV1 0).init helloBetween,
      s.accepted = [3, 1, 0] ∧ LossTold (sinkOf "node/worker-1") (s.reported [3, 1]) := by
  have hends : ∃ s ∈ (helloMachine (sinkOf "node/worker-1") ConfigResponse.defaultV1 0).exec
      (helloMachine (sinkOf "node/worker-1") ConfigResponse.defaultV1 0).init helloBetween,
      s.run.sink.made.length < u64Max ∧ s.run.accepted = [3, 1, 0] ∧ s.earlier = [0] := by
    decide +kernel
  obtain ⟨⟨s, past⟩, hhello, hfew, haccepted, rfl⟩ := hends
  have hrun := exec_helloMachine (sinkOf "node/worker-1") ConfigResponse.defaultV1 0
    (helloMachine (sinkOf "node/worker-1") ConfigResponse.defaultV1 0).init helloBetween
  rw [Option.mem_def.mp hhello] at hrun
  obtain ⟨earlier, since, hexec, hsplit, htold⟩ := lossTold_sinceHello _ _ _ hrun.symm hfew
  obtain ⟨-, rfl⟩ := HelloRun.mk.inj (Option.some.inj (hhello.symm.trans hexec))
  rw [show s.accepted = [3, 1, 0] from haccepted] at hsplit
  obtain rfl : since = [3, 1] := (List.append_left_inj [0]).mp hsplit
  exact ⟨s, hrun.symm, haccepted, htold⟩

end Tapio.Controller
