/-
# Sequence numbers bound the loss

One agent's sink and one controller, with a network between them that may lose,
repeat, delay and reorder every request: any batch the worker has made and let
pass may reach the controller at any time and any number of times. Other agents,
and the other tasks of this one, may send whatever they like, except that nobody
else reports events under the agent's id.

The batches are named by their position among those the worker has made, so that
two batches can be told apart without looking at their sequence numbers. What the
run remembers besides the two parties' own states is which batches were accepted
since the agent's latest accepted hello.
-/
import Tapio.Controller.State
import Tapio.Sequences.Tracking
import Tapio.Sink.SilentLoss

namespace Tapio.Controller

open Wire Numeric Sink Transition Sequences

structure ReportingRun where
  sink : SinkState
  controller : InnerState
  /-- The batches accepted since the agent's latest accepted hello, newest first. -/
  accepted : List ℕ

inductive ReportingStep
  | sink (step : SinkStep)
  /-- A copy of a batch reaches the controller. -/
  | deliver (index : ℕ)
  | request (request : Request)

/-- Whether a request reports events under an agent's id. -/
def Request.reportsEventsOf (agentId : String) : Request → Bool
  | .events batch => batch.agentId = agentId
  | _ => false

/-- Whether a request is a hello of an agent that the controller accepts. -/
def Request.registers (agentId : String) : Request → Bool
  | .hello req _ => req.agentId = agentId ∧ req.validate = .ok ()
  | _ => false

def ReportingRun.receive (s : ReportingRun) (index : ℕ) (batch : EventBatchRequest) :
    ReportingRun :=
  match recordEventBatch batch s.controller with
  | (controller, .ok _) =>
      { s with controller := controller, accepted := index :: s.accepted }
  | (controller, .error _) => { s with controller := controller }

def reportingStep (p : SinkParams) (s : ReportingRun) : ReportingStep → Option ReportingRun
  | .sink step => (sinkStep p s.sink step).map fun sink => { s with sink := sink }
  | .deliver index =>
      match s.sink.made[index]? with
      | some batch =>
          if batch.validate usizeMax = .ok () then some (s.receive index batch) else none
      | none => none
  | .request request =>
      if request.reportsEventsOf p.controller.agentId then none
      else some { s with
        controller := handle request s.controller
        accepted := if request.registers p.controller.agentId then [] else s.accepted }

def reportingMachine (p : SinkParams) (config : ConfigResponse) (startedAt : SystemTime) :
    Machine ReportingRun ReportingStep where
  init := ⟨SinkState.new, InnerState.new config startedAt, []⟩
  step := reportingStep p

/-! ## The worker's numbers -/

/-- The worker numbers its batches from one on, as far as the numbers go. -/
structure Numbered (p : SinkParams) (s : SinkState) : Prop where
  next : s.worker.sequence.toNat = min (s.made.length + 1) u64Max
  batch : ∀ {index : ℕ} {batch : EventBatchRequest}, s.made[index]? = some batch →
    batch.agentId = p.controller.agentId ∧ batch.sequence.toNat = min (index + 1) u64Max

/-- Only posting makes a batch. -/
theorem made_of_step {p : SinkParams} {s t : SinkState} {a : SinkStep}
    (hstep : sinkStep p s a = some t) :
    (t.made = s.made ∧ t.worker.sequence = s.worker.sequence) ∨
      ∃ events sentAtUnixNanos,
        t.made = s.made ++ [s.nextRequest p events sentAtUnixNanos] ∧
          t.worker.sequence = saturatingAdd s.worker.sequence 1 := by
  cases stepped_of_step hstep with
  | setBatching sendIntervalMs maxBatchEvents => exact .inl ⟨rfl, rfl⟩
  | send occurrence =>
      refine .inl ⟨?_, congrArg Worker.sequence (send_worker p s occurrence).2.1⟩
      unfold SinkState.send SinkState.tryEnqueueControllerEvent
      split
      · rfl
      · split
        · split <;> rfl
        · rfl
  | flush htx => exact .inl ⟨rfl, rfl⟩
  | drop => exact .inl ⟨rfl, rfl⟩
  | readLimits hphase => exact .inl ⟨rfl, rfl⟩
  | recvEvent hphase hqueue =>
      left
      rw [SinkState.flushIfFull]
      split <;> exact ⟨rfl, rfl⟩
  | recvFlush hphase hqueue => exact .inl ⟨rfl, rfl⟩
  | timeout hphase => exact .inl ⟨rfl, rfl⟩
  | disconnected hphase hqueue htx => exact .inl ⟨rfl, rfl⟩
  | @post cause events rest lastError sentAtUnixNanos replies hphase =>
      exact .inr ⟨events, sentAtUnixNanos, rfl, rfl⟩
  | @finish cause lastError hphase => cases cause <;> exact .inl ⟨rfl, rfl⟩

theorem numbered_new (p : SinkParams) : Numbered p SinkState.new where
  next := rfl
  batch := nofun

theorem numbered_of_step {p : SinkParams} {s t : SinkState} {a : SinkStep}
    (hs : Numbered p s) (hstep : sinkStep p s a = some t) : Numbered p t := by
  rcases made_of_step hstep with ⟨hmade, hsequence⟩ | ⟨events, sentAt, hmade, hsequence⟩
  · apply Numbered.mk
    · rw [hmade, hsequence]
      exact hs.next
    · rw [hmade]
      exact hs.batch
  · apply Numbered.mk
    · rw [hmade, hsequence, saturatingAdd_toNat, hs.next, List.length_append]
      simp
      omega
    · intro index batch hbatch
      rw [hmade, List.getElem?_append] at hbatch
      split at hbatch
      · exact hs.batch hbatch
      · next hge =>
          rw [List.getElem?_singleton] at hbatch
          obtain ⟨hindex, hnew⟩ := Option.ite_none_right_eq_some.mp hbatch
          obtain rfl := Option.some.inj hnew
          obtain rfl : index = s.made.length := by omega
          exact ⟨rfl, hs.next⟩

/-! ## The controller's counters -/

/-- The counters of the controller are those of the abstract receiver, as far as
regressions fit into a word. -/
structure Tracks (tracking : SequenceTracking) (t : Tracking) : Prop where
  last : ∃ last, tracking.lastSeen = some last ∧ last.toNat = t.last
  gaps : tracking.gapsTotal.toNat = t.gaps
  regressions : tracking.regressionsTotal.toNat = min t.regressions u64Max

theorem tracks_first (sequence : UInt64) :
    Tracks (SequenceTracking.default.observe sequence) (Tracking.start sequence.toNat) where
  last := ⟨sequence, rfl, rfl⟩
  gaps := rfl
  regressions := rfl

/-- The three cases of the controller are the two of the receiver, as long as the
numbers stay below the greatest word. -/
theorem Tracks.observe {tracking : SequenceTracking} {t : Tracking} (h : Tracks tracking t)
    {sequence : UInt64} (hlast : t.last < u64Max)
    (hgaps : (t.observe sequence.toNat).gaps ≤ u64Max) :
    Tracks (tracking.observe sequence) (t.observe sequence.toNat) := by
  obtain ⟨last, hseen, hvalue⟩ := h.last
  have hnext : (saturatingAdd last 1).toNat = t.last + 1 := by
    rw [saturatingAdd_toNat, hvalue]
    exact min_eq_left hlast
  have heq : sequence = saturatingAdd last 1 ↔ sequence.toNat = t.last + 1 := by
    rw [← UInt64.toNat_inj, hnext]
  have hgt : sequence > saturatingAdd last 1 ↔ t.last + 1 < sequence.toNat := by
    rw [gt_iff_lt, UInt64.lt_iff_toNat_lt, hnext]
  have hobserve : tracking.observe sequence =
      if sequence = saturatingAdd last 1 then { tracking with lastSeen := some sequence }
      else if sequence > saturatingAdd last 1 then
        { tracking with
          gapsTotal := saturatingAdd tracking.gapsTotal
            (saturatingSub sequence (saturatingAdd last 1))
          lastSeen := some sequence }
      else
        { tracking with
          regressionsTotal := saturatingAdd tracking.regressionsTotal 1 } := by
    rw [SequenceTracking.observe]
    rw [hseen]
  unfold Tracking.observe at hgaps ⊢
  rw [hobserve]
  rcases lt_trichotomy sequence.toNat (t.last + 1) with hlate | hinOrder | hjump
  · rw [if_neg (by omega : ¬ t.last < sequence.toNat), if_neg (by rw [heq]; omega),
      if_neg (by rw [hgt]; omega)]
    refine ⟨⟨last, hseen, hvalue⟩, h.gaps, ?_⟩
    show (saturatingAdd tracking.regressionsTotal 1).toNat = min (t.regressions + 1) u64Max
    rw [saturatingAdd_toNat, h.regressions, UInt64.toNat_one]
    omega
  · rw [if_pos (by omega : t.last < sequence.toNat), if_pos (heq.mpr hinOrder)]
    refine ⟨⟨sequence, rfl, rfl⟩, ?_, h.regressions⟩
    show tracking.gapsTotal.toNat = t.gaps + (sequence.toNat - (t.last + 1))
    rw [h.gaps]
    omega
  · have hlt : t.last < sequence.toNat := by omega
    rw [if_pos hlt, if_neg (by rw [heq]; omega), if_pos (hgt.mpr hjump)]
    rw [if_pos hlt] at hgaps
    refine ⟨⟨sequence, rfl, rfl⟩, ?_, h.regressions⟩
    show (saturatingAdd tracking.gapsTotal _).toNat = t.gaps + (sequence.toNat - (t.last + 1))
    rw [saturatingAdd_toNat, saturatingSub_toNat, h.gaps, hnext]
    exact min_eq_left hgaps

/-! ## What holds in every state -/

/-- The controller's tracking of the agent. -/
def ReportingRun.tracking (p : SinkParams) (s : ReportingRun) : SequenceTracking :=
  (s.controller.sequences[p.controller.agentId]?).getD SequenceTracking.default

/-- The numbers of the accepted batches. -/
def ReportingRun.received (s : ReportingRun) : List ℕ := s.accepted.map (· + 1)

/-- The controller has tracked the accepted batches, if any. -/
def Tracked (tracking : SequenceTracking) (received : List ℕ) : Prop :=
  match track received with
  | none => tracking = SequenceTracking.default
  | some t => Tracks tracking t

structure Reporting (p : SinkParams) (s : ReportingRun) : Prop where
  numbered : Numbered p s.sink
  made : ∀ index ∈ s.accepted, index < s.sink.made.length
  tracked : s.sink.made.length < u64Max → Tracked (s.tracking p) s.received

/-- One more accepted batch is tracked. -/
theorem Tracked.cons {tracking : SequenceTracking} {received : List ℕ} {bound : ℕ}
    (h : Tracked tracking received) (hle : ∀ n ∈ received, n ≤ bound)
    (hbound : bound < u64Max) (sequence : UInt64) :
    Tracked (tracking.observe sequence) (sequence.toNat :: received) := by
  unfold Tracked at h ⊢
  rw [track]
  cases htrack : track received with
  | none =>
      rw [htrack] at h
      obtain rfl : tracking = SequenceTracking.default := h
      exact tracks_first sequence
  | some t =>
      rw [htrack] at h
      have hne : received ≠ [] := by
        rintro rfl
        cases htrack
      obtain ⟨later, first, rfl⟩ : ∃ later first, received = later ++ [first] :=
        ⟨received.dropLast, received.getLast hne, (List.dropLast_append_getLast hne).symm⟩
      obtain ⟨t', htrack', haccounts⟩ := accounts_track first later
      obtain rfl : t = t' := Option.some.inj (htrack.symm.trans htrack')
      have hlast := (hle t.last haccounts.last_mem).trans_lt hbound
      have hobserved := haccounts.observe sequence.toNat
      have hword : (t.observe sequence.toNat).last ≤ u64Max := by
        rw [Tracking.observe]
        split
        · exact toNat_le_u64Max sequence
        · exact hlast.le
      have hgaps := hobserved.gaps_le
      exact h.observe hlast (by omega)

/-- What a copy of a batch does to the controller's tracking of the agent. -/
theorem receive_cases (p : SinkParams) (s : ReportingRun) (index : ℕ)
    {batch : EventBatchRequest} (hagent : batch.agentId = p.controller.agentId) :
    ((s.receive index batch).accepted = s.accepted ∧
        (s.receive index batch).tracking p = s.tracking p) ∨
      ((s.receive index batch).accepted = index :: s.accepted ∧
        (s.receive index batch).tracking p = (s.tracking p).observe batch.sequence) := by
  cases hvalid : batch.validate s.controller.config.batching.maxBatchEvents.toNat with
  | error e =>
      left
      simp [ReportingRun.receive, ReportingRun.tracking, recordEventBatch, hvalid]
  | ok _ =>
      right
      have hreceive : s.receive index batch =
          { s with
            controller := (recordEventBatch batch s.controller).1
            accepted := index :: s.accepted } := by
        simp [ReportingRun.receive, recordEventBatch, hvalid]
      rw [hreceive]
      apply And.intro rfl
      rw [ReportingRun.tracking, ReportingRun.tracking, ← hagent,
        recordEventBatch_sequences hvalid]
      rfl

theorem receive_sink (s : ReportingRun) (index : ℕ) (batch : EventBatchRequest) :
    (s.receive index batch).sink = s.sink := by
  rw [ReportingRun.receive]
  split <;> rfl

/-- A request that does not report the agent's events leaves the tracking alone,
unless it is a hello that resets it. -/
theorem request_tracking {agentId : String} {request : Request}
    (hother : request.reportsEventsOf agentId = false) (inner : InnerState) :
    (handle request inner).sequences[agentId]? =
      if request.registers agentId then some SequenceTracking.default
      else inner.sequences[agentId]? := by
  by_cases hagent : request.agentId = some agentId
  · cases request with
    | hello req now =>
        obtain rfl : req.agentId = agentId := Option.some.inj hagent
        simp only [handle, Request.registers, true_and, decide_eq_true_eq]
        split
        · next hvalid => exact registerAgent_sequences hvalid now inner
        · next hinvalid => exact registerAgent_sequences_of_not (mt And.right hinvalid) now inner
    | config agentId nodeName => rfl
    | heartbeat req now => simp [handle, Request.registers]
    | events batch =>
        obtain rfl : batch.agentId = agentId := Option.some.inj hagent
        simp [Request.reportsEventsOf] at hother
    | status now => rfl
  · rw [handle_sequences_of_ne hagent, if_neg]
    cases request with
    | hello req now =>
        intro hregisters
        simp only [Request.registers, decide_eq_true_eq] at hregisters
        exact hagent (congrArg some hregisters.1)
    | config _ _ | heartbeat _ _ | events _ | status _ => rintro ⟨⟩

/-- Nothing accepted is nothing tracked. -/
theorem tracked_nil : Tracked SequenceTracking.default [] := rfl

theorem made_length_le {p : SinkParams} {s t : SinkState} {a : SinkStep}
    (hstep : sinkStep p s a = some t) : s.made.length ≤ t.made.length := by
  rcases made_of_step hstep with ⟨hmade, -⟩ | ⟨events, sentAt, hmade, -⟩
  · rw [hmade]
  · simp [hmade]

theorem reporting_sink {p : SinkParams} {s : ReportingRun} {sink : SinkState} {a : SinkStep}
    (hs : Reporting p s) (hstep : sinkStep p s.sink a = some sink) :
    Reporting p { s with sink := sink } := by
  have hle := made_length_le hstep
  refine ⟨numbered_of_step hs.numbered hstep, ?_, fun hfew => ?_⟩
  · exact fun index hindex => (hs.made index hindex).trans_le hle
  · exact hs.tracked (hle.trans_lt hfew)

theorem reporting_deliver {p : SinkParams} {s : ReportingRun} {index : ℕ}
    {batch : EventBatchRequest} (hs : Reporting p s)
    (hmade : s.sink.made[index]? = some batch) : Reporting p (s.receive index batch) := by
  obtain ⟨hagent, hsequence⟩ := hs.numbered.batch hmade
  have hindex : index < s.sink.made.length := (List.getElem?_eq_some_iff.mp hmade).1
  rcases receive_cases p s index hagent with ⟨haccepted, htracking⟩ | ⟨haccepted, htracking⟩
  · refine ⟨?_, ?_, ?_⟩
    · rw [receive_sink]
      exact hs.numbered
    · rw [receive_sink, haccepted]
      exact hs.made
    · rw [receive_sink, htracking, ReportingRun.received, haccepted]
      exact hs.tracked
  · refine ⟨?_, ?_, ?_⟩
    · rw [receive_sink]
      exact hs.numbered
    · rw [receive_sink, haccepted]
      exact List.forall_mem_cons.mpr ⟨hindex, hs.made⟩
    · rw [receive_sink, htracking, ReportingRun.received, haccepted, List.map_cons]
      intro hfew
      have hnumber : index + 1 = batch.sequence.toNat := by omega
      rw [hnumber]
      refine (hs.tracked hfew).cons (fun n hn => ?_) hfew batch.sequence
      obtain ⟨i, hi, rfl⟩ := List.mem_map.mp hn
      exact hs.made i hi

theorem reporting_request {p : SinkParams} {s : ReportingRun} {request : Request}
    (hs : Reporting p s) (hother : request.reportsEventsOf p.controller.agentId = false) :
    Reporting p { s with
      controller := handle request s.controller
      accepted := if request.registers p.controller.agentId then [] else s.accepted } := by
  have htracking := request_tracking hother s.controller
  by_cases hregisters : request.registers p.controller.agentId
  · rw [if_pos hregisters] at htracking ⊢
    refine ⟨hs.numbered, nofun, fun _ => ?_⟩
    rw [ReportingRun.tracking]
    rw [htracking]
    exact tracked_nil
  · rw [if_neg hregisters] at htracking ⊢
    refine ⟨hs.numbered, hs.made, fun hfew => ?_⟩
    rw [ReportingRun.tracking]
    rw [htracking]
    exact hs.tracked hfew

theorem reporting_invariant (p : SinkParams) (config : ConfigResponse)
    (startedAt : SystemTime) :
    (reportingMachine p config startedAt).Invariant (Reporting p) where
  init := by
    refine ⟨numbered_new p, nofun, fun _ => ?_⟩
    rw [ReportingRun.tracking]
    simp only [reportingMachine, InnerState.new, Std.ExtTreeMap.getElem?_empty]
    exact tracked_nil
  step := by
    intro s a t hs hstep
    cases a with
    | sink step =>
        obtain ⟨sink, hsink, rfl⟩ := Option.map_eq_some_iff.mp hstep
        exact reporting_sink hs hsink
    | deliver index =>
        simp only [reportingMachine, reportingStep] at hstep
        split at hstep
        · next batch hmade =>
            obtain ⟨-, hstep⟩ := Option.ite_none_right_eq_some.mp hstep
            cases hstep
            exact reporting_deliver hs hmade
        · cases hstep
    | request request =>
        obtain ⟨hother, hstep⟩ := Option.ite_none_left_eq_some.mp hstep
        cases hstep
        exact reporting_request hs (Bool.eq_false_iff.mpr hother)

/-! ## Gaps bound the loss -/

/-- The sequence number of a batch. -/
def ReportingRun.sequenceOf (s : ReportingRun) (index : ℕ) : UInt64 :=
  ((s.sink.made[index]?).map (·.sequence)).getD 0

/-- The batches with a number strictly between two that have not been
accepted. -/
def ReportingRun.unaccepted (s : ReportingRun) (first last : UInt64) : Finset ℕ :=
  (Finset.range s.sink.made.length).filter fun index =>
    first < s.sequenceOf index ∧ s.sequenceOf index < last ∧ index ∉ s.accepted

/-- What the counters say about the batches since the first accepted one. -/
structure LossBounded (s : ReportingRun) (tracking : SequenceTracking) (first : ℕ) : Prop where
  distinct : ∀ i < s.sink.made.length, ∀ j < s.sink.made.length,
    s.sequenceOf i = s.sequenceOf j → i = j
  /-- The last number seen is the greatest accepted one, and the counters bound
  the batches missing before it. -/
  bounds : ∃ last, tracking.lastSeen = some last ∧
    (∃ index ∈ s.accepted, s.sequenceOf index = last) ∧
    (∀ index ∈ s.accepted, s.sequenceOf index ≤ last) ∧
    tracking.gapsTotal.toNat ≤
      (s.unaccepted (s.sequenceOf first) last).card + tracking.regressionsTotal.toNat ∧
    (s.unaccepted (s.sequenceOf first) last).card ≤ tracking.gapsTotal.toNat ∧
    (tracking.regressionsTotal = 0 →
      (s.unaccepted (s.sequenceOf first) last).card = tracking.gapsTotal.toNat)

theorem sequenceOf_toNat {p : SinkParams} {s : ReportingRun} (hs : Numbered p s.sink)
    (hfew : s.sink.made.length < u64Max) {index : ℕ} (hindex : index < s.sink.made.length) :
    (s.sequenceOf index).toNat = index + 1 := by
  have hmade := List.getElem?_eq_getElem hindex
  obtain ⟨-, hsequence⟩ := hs.batch hmade
  rw [ReportingRun.sequenceOf]
  rw [hmade]
  show (s.sink.made[index]).sequence.toNat = index + 1
  omega

/-- The batches not accepted are the numbers that are missing. -/
theorem card_unaccepted {p : SinkParams} {s : ReportingRun} (hs : Reporting p s)
    (hfew : s.sink.made.length < u64Max) {first : ℕ} (hfirst : first ∈ s.accepted)
    {last : UInt64} (hlast : last.toNat ≤ s.sink.made.length) :
    (s.unaccepted (s.sequenceOf first) last).card =
      (missing s.received (first + 1) last.toNat).card := by
  have hnumber := sequenceOf_toNat hs.numbered hfew (hs.made first hfirst)
  have himage : missing s.received (first + 1) last.toNat =
      (s.unaccepted (s.sequenceOf first) last).image (· + 1) := by
    ext n
    simp only [missing, Finset.mem_filter, Finset.mem_Ioo, ReportingRun.unaccepted,
      Finset.mem_image, Finset.mem_range, UInt64.lt_iff_toNat_lt, hnumber]
    apply Iff.intro
    · rintro ⟨⟨hlow, hhigh⟩, hout⟩
      have hindex : n - 1 < s.sink.made.length := by omega
      have hsequence := sequenceOf_toNat hs.numbered hfew hindex
      refine ⟨n - 1, ⟨hindex, by omega, by omega, fun haccepted => hout ?_⟩, by omega⟩
      exact List.mem_map.mpr ⟨n - 1, haccepted, by omega⟩
    · rintro ⟨index, ⟨hindex, hlow, hhigh, hout⟩, rfl⟩
      have hsequence := sequenceOf_toNat hs.numbered hfew hindex
      refine ⟨⟨by omega, by omega⟩, fun hreceived => hout ?_⟩
      obtain ⟨i, haccepted, hi⟩ := List.mem_map.mp hreceived
      obtain rfl : i = index := by omega
      exact haccepted
  rw [himage, Finset.card_image_of_injective _ (add_left_injective 1)]

/-- The tracked numbers bound the loss. -/
theorem Reporting.boundedLoss {p : SinkParams} {s : ReportingRun} (hs : Reporting p s)
    (hfew : s.sink.made.length < u64Max) {first : ℕ}
    (hfirst : s.accepted.getLast? = some first) : LossBounded s (s.tracking p) first := by
  obtain ⟨later, hlater⟩ := List.getLast?_eq_some_iff.mp hfirst
  have hmem : first ∈ s.accepted := by simp [hlater]
  have hreceived : s.received = later.map (· + 1) ++ [first + 1] := by
    simp [ReportingRun.received, hlater]
  obtain ⟨t, htrack, haccounts⟩ := accounts_track (first + 1) (later.map (· + 1))
  rw [← hreceived] at htrack haccounts
  have htracked := hs.tracked hfew
  rw [Tracked] at htracked
  rw [htrack] at htracked
  obtain ⟨last, hseen, hvalue⟩ := htracked.last
  have hnumber := fun index hindex => sequenceOf_toNat hs.numbered hfew (hs.made index hindex)
  obtain ⟨greatest, hgreatest, hlast⟩ := List.mem_map.mp haccounts.last_mem
  have hword : last.toNat ≤ s.sink.made.length := by
    have := hs.made greatest hgreatest
    omega
  have hcard := card_unaccepted hs hfew hmem hword
  rw [hvalue] at hcard
  have hgaps := htracked.gaps
  have hregressions := htracked.regressions
  have hmissing := haccounts.missing_le
  have hmissing' := haccounts.gaps_le_missing
  have hgapsWord := toNat_le_u64Max (s.tracking p).gapsTotal
  apply LossBounded.mk
  · intro i hi j hj hij
    have hi' := sequenceOf_toNat hs.numbered hfew hi
    have hj' := sequenceOf_toNat hs.numbered hfew hj
    rw [hij] at hi'
    omega
  · refine ⟨last, hseen, ⟨greatest, hgreatest, ?_⟩, ?_, ?_, ?_, ?_⟩
    · rw [← UInt64.toNat_inj, hnumber greatest hgreatest, hvalue]
      exact hlast
    · intro index hindex
      rw [UInt64.le_iff_toNat_le, hnumber index hindex, hvalue]
      exact haccounts.le_last _ (List.mem_map_of_mem hindex)
    · omega
    · omega
    · intro hnone
      rw [hnone, UInt64.toNat_zero] at hregressions
      have hpositive : 0 < u64Max := by decide
      omega

/-- **Sequence counters bound the loss.** In every run in which the worker has not
used up its numbers, distinct batches have distinct numbers, the last number seen
is the greatest accepted one, and the batches that have not been accepted between
the first and the last are at most the gaps and at least the gaps less the
regressions. -/
theorem lossBounded (p : SinkParams) (config : ConfigResponse) (startedAt : SystemTime)
    {s : ReportingRun} (hreach : (reportingMachine p config startedAt).Reachable s)
    (hfew : s.sink.made.length < u64Max) {first : ℕ}
    (hfirst : s.accepted.getLast? = some first) :
    LossBounded s (s.tracking p) first := by
  have hs := (reporting_invariant p config startedAt).of_reachable hreach
  exact hs.boundedLoss hfew hfirst

/-- The worker posts three batches of one event each. -/
def threeBatches : List ReportingStep :=
  .sink (.setBatching 1000 1) :: (List.replicate 3 [
    .sink (.send connectionRefused), .sink .readLimits, .sink .recv,
    .sink (.post 1700000001000000000 fun _ => .failed "read: timed out"),
    .sink .finish]).flatten

/-- The first batch arrives, the third overtakes the second, and the third arrives
once more. -/
def overtaken : List ReportingStep :=
  threeBatches ++ [.deliver 0, .deliver 2, .deliver 1, .deliver 2]

theorem lossBounded_overtaken :
    ∃ s ∈ (reportingMachine (sinkOf "node/worker-1") ConfigResponse.defaultV1 0).exec
        (reportingMachine (sinkOf "node/worker-1") ConfigResponse.defaultV1 0).init overtaken,
      LossBounded s (s.tracking (sinkOf "node/worker-1")) 0 := by
  have hends : ∃ s ∈ (reportingMachine (sinkOf "node/worker-1") ConfigResponse.defaultV1
      0).exec (reportingMachine (sinkOf "node/worker-1") ConfigResponse.defaultV1 0).init
      overtaken, s.sink.made.length < u64Max ∧ s.accepted.getLast? = some 0 := by
    decide +kernel
  obtain ⟨s, hrun, hfew, hfirst⟩ := hends
  exact ⟨s, hrun, lossBounded _ _ _ ⟨overtaken, hrun⟩ hfew hfirst⟩

end Tapio.Controller
