/-
# Repeats and late arrivals

The controller counts a regression for every accepted batch whose number is not above those
before it, since the latest hello of its agent. It asks first whether the number is the
next one, and the next one after the greatest word is, saturated, that word again: a repeat
of the greatest word is taken for the next number and not counted.

Any requests of any agents, in any order. Beside the controller a run keeps the numbers that
it has accepted from one agent since that agent's latest accepted hello, newest first.
-/
import Tapio.Controller.Calls
import Tapio.Sequences.Late
import Tapio.Transition.Machine

namespace Tapio.Controller

open Wire Numeric Transition Sequences

structure TrackedRun where
  controller : InnerState
  /-- The numbers accepted from the agent since its latest accepted hello, newest first. -/
  accepted : List UInt64

/-- The accepted numbers of an agent after a request. -/
def acceptedAfter (agentId : String) (request : Request) (s : TrackedRun) : List UInt64 :=
  match request with
  | .hello req _ =>
      if req.agentId = agentId ∧ req.validate = .ok () then [] else s.accepted
  | .events batch =>
      if batch.agentId = agentId ∧
          batch.validate s.controller.config.batching.maxBatchEvents.toNat = .ok () then
        batch.sequence :: s.accepted
      else s.accepted
  | _ => s.accepted

def trackedMachine (agentId : String) (config : ConfigResponse) (startedAt : SystemTime) :
    Machine TrackedRun Request where
  init := ⟨InnerState.new config startedAt, []⟩
  step s request := some ⟨handle request s.controller, acceptedAfter agentId request s⟩

/-- The controller's tracking of an agent, as its status shows it. -/
def TrackedRun.tracking (s : TrackedRun) (agentId : String) : SequenceTracking :=
  (s.controller.sequences[agentId]?).getD SequenceTracking.default

/-- The numbers of a stream, unbounded. -/
def numbers (accepted : List UInt64) : List ℕ := accepted.map UInt64.toNat

/-- Every number that is not above those before it is counted, and the last one seen is the
greatest. -/
structure RegressionsExact (tracking : SequenceTracking) (accepted : List UInt64) : Prop where
  regressions : tracking.regressionsTotal.toNat = (lates (numbers accepted)).length
  lastSeen : tracking.lastSeen.map UInt64.toNat = (numbers accepted).max?

/-- The greatest word came no more than once, and the regressions fit into a word. -/
structure Countable (accepted : List UInt64) : Prop where
  greatest : (numbers accepted).count u64Max ≤ 1
  few : (lates (numbers accepted)).length ≤ u64Max

/-! ## What is counted -/

/-- The counter holds the late numbers but for the greatest word. -/
structure Counts (tracking : SequenceTracking) (accepted : List UInt64) : Prop where
  regressions : tracking.regressionsTotal.toNat =
    min ((lates (numbers accepted)).countP (· ≠ u64Max)) u64Max
  lastSeen : tracking.lastSeen.map UInt64.toNat = (numbers accepted).max?

@[simp]
theorem numbers_cons (sequence : UInt64) (accepted : List UInt64) :
    numbers (sequence :: accepted) = sequence.toNat :: numbers accepted := rfl

theorem counts_default : Counts SequenceTracking.default [] := ⟨rfl, rfl⟩

/-- A number above the last one seen, or the greatest word once more, moves on. -/
theorem Counts.advance {tracking : SequenceTracking} {accepted : List UInt64}
    {last : ℕ} (h : Counts tracking accepted) (hmax : (numbers accepted).max? = some last)
    {sequence : UInt64}
    (hadvance : last < sequence.toNat ∨ last = u64Max ∧ sequence.toNat = u64Max)
    (gapsTotal : UInt64) :
    Counts { tracking with lastSeen := some sequence, gapsTotal := gapsTotal }
      (sequence :: accepted) := by
  have hlate := late_iff_le hmax sequence.toNat
  rcases hadvance with hlt | ⟨hlast, hsequence⟩
  · apply Counts.mk
    · rw [numbers_cons, lates, if_neg (mt hlate.mp (by omega))]
      exact h.regressions
    · exact (max?_cons_of_lt hmax hlt).symm
  · apply Counts.mk
    · rw [numbers_cons, lates, if_pos (hlate.mpr (by omega)),
        List.countP_cons_of_neg (by simpa using hsequence)]
      exact h.regressions
    · refine Eq.trans ?_ (max?_cons_of_le hmax (by omega)).symm
      exact congrArg some (hsequence.trans hlast.symm)

/-- A late number below the greatest word is counted. -/
theorem Counts.regress {tracking : SequenceTracking} {accepted : List UInt64}
    {last : ℕ} (h : Counts tracking accepted) (hmax : (numbers accepted).max? = some last)
    {sequence : UInt64} (hle : sequence.toNat ≤ last) (hbelow : sequence.toNat < u64Max) :
    Counts { tracking with
      regressionsTotal := saturatingAdd tracking.regressionsTotal 1 }
      (sequence :: accepted) := by
  apply Counts.mk
  · rw [numbers_cons, lates, if_pos ((late_iff_le hmax _).mpr hle),
      List.countP_cons_of_pos (by simpa using hbelow.ne), saturatingAdd_toNat,
      h.regressions, UInt64.toNat_one]
    omega
  · exact h.lastSeen.trans (hmax.trans (max?_cons_of_le hmax hle).symm)

/-- **One number.** It is the next, it jumps, or it is late; the repeated greatest word is
late and taken for the next. -/
theorem Counts.observe {tracking : SequenceTracking} {accepted : List UInt64}
    (h : Counts tracking accepted) (sequence : UInt64) :
    Counts (tracking.observe sequence) (sequence :: accepted) := by
  have hsequence := toNat_le_u64Max sequence
  rw [SequenceTracking.observe]
  cases hseen : tracking.lastSeen with
  | none =>
      have hmax := h.lastSeen
      rw [hseen, Option.map_none, eq_comm, List.max?_eq_none_iff, numbers,
        List.map_eq_nil_iff] at hmax
      subst hmax
      exact ⟨h.regressions, rfl⟩
  | some lastSeen =>
      have hmax : (numbers accepted).max? = some lastSeen.toNat := by
        rw [← h.lastSeen, hseen]
        rfl
      have hlast := toNat_le_u64Max lastSeen
      have hnext : (saturatingAdd lastSeen 1).toNat = min (lastSeen.toNat + 1) u64Max := by
        rw [saturatingAdd_toNat, UInt64.toNat_one]
      dsimp only
      split_ifs with heq hgt
      · rw [heq, hnext] at hsequence
        refine h.advance hmax ?_ tracking.gapsTotal
        rw [heq, hnext]
        omega
      · rw [gt_iff_lt, UInt64.lt_iff_toNat_lt, hnext] at hgt
        exact h.advance hmax (by omega) _
      · rw [← UInt64.toNat_inj, hnext] at heq
        rw [gt_iff_lt, UInt64.lt_iff_toNat_lt, hnext] at hgt
        rw [← hseen]
        exact h.regress hmax (by omega) (by omega)

/-- The counter is exact as long as the late greatest words are none and the others fit. -/
theorem Counts.exact_iff {tracking : SequenceTracking} {accepted : List UInt64}
    (h : Counts tracking accepted) :
    RegressionsExact tracking accepted ↔ Countable accepted := by
  have htop : (lates (numbers accepted)).count u64Max =
      (numbers accepted).count u64Max - 1 := by
    apply count_lates_top
    intro n hn
    obtain ⟨sequence, -, rfl⟩ := List.mem_map.mp hn
    exact toNat_le_u64Max sequence
  have hsplit : (lates (numbers accepted)).length =
      (lates (numbers accepted)).count u64Max +
        (lates (numbers accepted)).countP (· ≠ u64Max) := by
    rw [List.count, List.length_eq_countP_add_countP (· == u64Max)]
    congr 2
    funext n
    simp
  have hregressions := h.regressions
  apply Iff.intro
  · intro hexact
    have := hexact.regressions
    exact ⟨by omega, by omega⟩
  · intro hcountable
    have hgreatest := hcountable.greatest
    have hfew := hcountable.few
    exact ⟨by omega, h.lastSeen⟩

/-! ## Runs -/

theorem counts_init (agentId : String) (config : ConfigResponse) (startedAt : SystemTime) :
    Counts ((trackedMachine agentId config startedAt).init.tracking agentId) [] :=
  counts_default

/-- One request. An accepted hello of the agent starts the count afresh, an accepted batch
of it is observed, and nothing else touches its tracking. -/
theorem counts_of_step {agentId : String} {config : ConfigResponse} {startedAt : SystemTime}
    {s t : TrackedRun} {request : Request} (hs : Counts (s.tracking agentId) s.accepted)
    (hstep : (trackedMachine agentId config startedAt).step s request = some t) :
    Counts (t.tracking agentId) t.accepted := by
  obtain rfl := Option.some.inj hstep
  simp only [TrackedRun.tracking] at hs ⊢
  cases request with
  | hello req now =>
      rw [acceptedAfter, handle]
      split_ifs with haccepted
      · obtain ⟨rfl, hvalid⟩ := haccepted
        rw [registerAgent_sequences hvalid]
        exact counts_default
      · rw [registerAgent_sequences_of_not haccepted]
        exact hs
  | config agentId nodeName => exact hs
  | heartbeat req now =>
      simpa [acceptedAfter, handle] using hs
  | events batch =>
      rw [acceptedAfter, handle]
      split_ifs with haccepted
      · obtain ⟨rfl, hvalid⟩ := haccepted
        rw [recordEventBatch_sequences hvalid]
        exact hs.observe batch.sequence
      · rw [recordEventBatch_sequences_of_not haccepted]
        exact hs
  | status now => exact hs

/-- **Regressions.** After any requests of any agents, the regressions of an agent are the
late numbers of its accepted batches since its latest accepted hello, and the last number
seen is the greatest, if and only if they could be counted. -/
theorem regressionsExact_iff_countable (agentId : String) (config : ConfigResponse)
    (startedAt : SystemTime) (requests : List Request) :
    (trackedMachine agentId config startedAt).Always
      (fun s => RegressionsExact (s.tracking agentId) s.accepted ↔ Countable s.accepted)
      (trackedMachine agentId config startedAt).init requests := by
  have hcounts := Machine.always_of_preserved
    (M := trackedMachine agentId config startedAt) (fun hs hstep => counts_of_step hs hstep)
    (counts_init agentId config startedAt) requests
  exact hcounts.mono fun s hs => hs.exact_iff

/-! ## A repeat that is not counted -/

def helloReq : HelloRequest where
  wireVersion := Wire.wireVersion
  agentId := "node/worker-1"
  nodeName := "worker-1"
  tapioVersion := "4.0.0"
  kernelRelease := "6.8.0"
  arch := "x86_64"
  capabilities := ["network"]
  objectSizes := ∅
  mapCounts := ∅

def eventBatchWithSequence (sequence : UInt64) : EventBatchRequest where
  wireVersion := Wire.wireVersion
  agentId := "node/worker-1"
  nodeName := "worker-1"
  sequence := sequence
  sentAtUnixNanos := 10
  events := [{
    eventType := "kernel.network.connection_refused"
    timestampUnixNanos := 9
    observer := "network"
    severity := .warning
    facts := .object [("protocol", .string "tcp")] }]

/-- The agent says hello and reports two batches under the greatest number. -/
def greatestTwice : List Request :=
  [.hello helloReq 0, .events (eventBatchWithSequence (UInt64.ofNat u64Max)),
    .events (eventBatchWithSequence (UInt64.ofNat u64Max))]

/-- The repeat is not counted. -/
theorem not_regressionsExact_greatestTwice :
    ∃ s ∈ (trackedMachine "node/worker-1" ConfigResponse.defaultV1 0).exec
        (trackedMachine "node/worker-1" ConfigResponse.defaultV1 0).init greatestTwice,
      s.accepted = [UInt64.ofNat u64Max, UInt64.ofNat u64Max] ∧
        s.tracking "node/worker-1" = ⟨some (UInt64.ofNat u64Max), 0, 0⟩ ∧
          ¬ RegressionsExact (s.tracking "node/worker-1") s.accepted := by
  have hends : ∃ s ∈ (trackedMachine "node/worker-1" ConfigResponse.defaultV1 0).exec
      (trackedMachine "node/worker-1" ConfigResponse.defaultV1 0).init greatestTwice,
      s.accepted = [UInt64.ofNat u64Max, UInt64.ofNat u64Max] ∧
        s.tracking "node/worker-1" = ⟨some (UInt64.ofNat u64Max), 0, 0⟩ := by
    decide +kernel
  obtain ⟨s, hrun, haccepted, htracking⟩ := hends
  refine ⟨s, hrun, haccepted, htracking, fun hexact => ?_⟩
  have hregressions := hexact.regressions
  rw [haccepted, htracking] at hregressions
  exact absurd hregressions (by decide +kernel)

end Tapio.Controller
