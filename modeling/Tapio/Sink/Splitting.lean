/-
# Splitting the buffer

`split_events_by_size` fills one batch after the other. It carries an estimate of the
current batch's size: the length of a request without events, and the lengths of the
events with a comma between each two. A batch ends before an event that would take it
beyond the limit on the number of events or on the estimated size.

The batches are a greedy partition of the buffer: nothing is lost or reordered, no limit
is exceeded except by an event that is too large on its own, and no batch ends early.
-/
import Tapio.Sink.Steps
import Tapio.Wire.EventEncoding

namespace Tapio.Sink

open Wire Numeric Agent Json

/-- The length of a vector. -/
def vecLen (bytes : List UInt8) : UInt64 := UInt64.ofNat (min bytes.length u64Max)

def emptyBatch : EventBatchRequest where
  wireVersion := Wire.wireVersion
  agentId := "agent"
  nodeName := "node"
  sequence := 1
  sentAtUnixNanos := 0
  events := []

/-- The sink with the lengths that splitting works with. -/
def encodingParams (format : FloatFormat) (controller : ControllerConfig) (queueCapacity : ℕ)
    (maxRequestBytes : UInt64) : SinkParams where
  controller := controller
  queueCapacity := queueCapacity
  maxRequestBytes := maxRequestBytes
  serializedEventLen event := vecLen (event.toVec format)
  serializedEmptyBatchLen := vecLen (emptyBatch.toVec format)

/-! ## What splitting estimates -/

theorem vecLen_toNat (bytes : List UInt8) : (vecLen bytes).toNat = min bytes.length u64Max := by
  have hlt : min bytes.length u64Max < 2 ^ 64 := by
    unfold u64Max
    omega
  exact UInt64.toNat_ofNat_of_lt' hlt

/-- The length of a batch under the made-up header. -/
def estimatedLen (format : FloatFormat) (batch : List QueuedEvent) : ℕ :=
  emptyBatch.envelopeLen format + eventsLen format (batch.map (·.content))

theorem estimatedLen_append (format : FloatFormat) (batch : List QueuedEvent)
    (item : QueuedEvent) :
    estimatedLen format (batch ++ [item]) =
      estimatedLen format batch + (if batch.isEmpty then 0 else 1) +
        (item.content.toVec format).length := by
  cases batch with
  | nil => simp [estimatedLen, eventsLen]
  | cons first rest =>
      simp [estimatedLen, eventsLen]
      omega

theorem estimatedLen_le_append (format : FloatFormat) (batch more : List QueuedEvent) :
    estimatedLen format batch ≤ estimatedLen format (batch ++ more) := by
  simp only [estimatedLen, eventsLen, List.map_append, List.sum_append, List.length_append]
  omega

/-- The splitting works with the lengths of the encodings. -/
structure Encodes (format : FloatFormat) (p : SinkParams) : Prop where
  event : ∀ event, p.serializedEventLen event = vecLen (event.toVec format)
  emptyBatch : p.serializedEmptyBatchLen = vecLen (emptyBatch.toVec format)

theorem encodingParams_encodes (format : FloatFormat) (controller : ControllerConfig)
    (queueCapacity : ℕ) (maxRequestBytes : UInt64) :
    Encodes format (encodingParams format controller queueCapacity maxRequestBytes) :=
  ⟨fun _ => rfl, rfl⟩

section Splitting

variable {format : FloatFormat} {p : SinkParams} (hp : Encodes format p)

/-- The loop carries the estimated length of the batch it is filling. -/
def Estimated (format : FloatFormat) (current : List QueuedEvent) (currentLen : UInt64) : Prop :=
  currentLen.toNat = min (estimatedLen format current) u64Max

include hp

theorem estimated_nil : Estimated format [] p.serializedEmptyBatchLen := by
  have hempty : (Sink.emptyBatch.toVec format).length = estimatedLen format [] :=
    EventBatchRequest.toVec_length format Sink.emptyBatch
  rw [Estimated, hp.emptyBatch, vecLen_toNat, hempty]

theorem estimated_candidateLen {current : List QueuedEvent} {currentLen : UInt64}
    (hcurrent : Estimated format current currentLen) (item : QueuedEvent) :
    Estimated format (current ++ [item]) (candidateLen p current currentLen item) := by
  have hseparator : (separatorLen current).toNat = if current.isEmpty then 0 else 1 := by
    rw [separatorLen]
    split <;> rfl
  rw [Estimated, candidateLen, saturatingAdd_toNat, saturatingAdd_toNat, hcurrent, hseparator,
    hp.event, vecLen_toNat, estimatedLen_append]
  omega

/-- A batch ends before an event exactly if it is full or would be estimated too long with
the event. -/
theorem cutsBefore_iff {maxBatchEvents : UInt64} {current : List QueuedEvent}
    {currentLen : UInt64} (hcurrent : Estimated format current currentLen)
    (item : QueuedEvent) :
    cutsBefore p maxBatchEvents current currentLen item ↔
      current ≠ [] ∧ (maxBatchEvents.toNat ≤ current.length ∨
        p.maxRequestBytes.toNat < min (estimatedLen format (current ++ [item])) u64Max) := by
  have hcandidate := estimated_candidateLen hp hcurrent item
  rw [Estimated] at hcandidate
  rw [cutsBefore, ← hcandidate]
  simp [UInt64.lt_iff_toNat_lt]

/-- A batch of several events is not estimated too long. -/
theorem estimatedLen_of_mem_splitLoop {maxBatchEvents : UInt64} {events : List QueuedEvent}
    {current : List QueuedEvent} {currentLen : UInt64}
    (hcurrent : Estimated format current currentLen)
    (hfits : current.length ≤ 1 ∨
      min (estimatedLen format current) u64Max ≤ p.maxRequestBytes.toNat) :
    ∀ batch ∈ splitLoop p maxBatchEvents events current currentLen,
      batch.length ≤ 1 ∨ min (estimatedLen format batch) u64Max ≤ p.maxRequestBytes.toNat := by
  induction events generalizing current currentLen with
  | nil =>
      intro batch hbatch
      rw [splitLoop] at hbatch
      split at hbatch
      · cases hbatch
      · exact List.mem_singleton.mp hbatch ▸ hfits
  | cons item rest ih =>
      intro batch hbatch
      rw [splitLoop] at hbatch
      split at hbatch
      · rcases List.mem_cons.mp hbatch with rfl | hlater
        · exact hfits
        · exact ih (estimated_candidateLen hp (estimated_nil hp) item) (.inl (Nat.le_refl 1))
            batch hlater
      · next hkeeps =>
          rw [cutsBefore_iff hp hcurrent] at hkeeps
          refine ih (estimated_candidateLen hp hcurrent item) ?_ batch hbatch
          by_cases hempty : current = []
          · exact .inl (by simp [hempty])
          · exact .inr (not_lt.mp fun hlong => hkeeps ⟨hempty, .inr hlong⟩)

/-- Events that fit into one batch stay together. -/
theorem splitLoop_whole {maxBatchEvents : UInt64} {events current : List QueuedEvent}
    {currentLen : UInt64} (hcurrent : Estimated format current currentLen)
    (hcount : (current ++ events).length ≤ maxBatchEvents.toNat)
    (hsize : estimatedLen format (current ++ events) ≤ p.maxRequestBytes.toNat) :
    splitLoop p maxBatchEvents events current currentLen =
      if (current ++ events).isEmpty then [] else [current ++ events] := by
  induction events generalizing current currentLen with
  | nil => rw [splitLoop, List.append_nil]
  | cons item rest ih =>
      have hassoc : current ++ [item] ++ rest = current ++ item :: rest :=
        (List.append_cons ..).symm
      have hkeeps : ¬ cutsBefore p maxBatchEvents current currentLen item := by
        rw [cutsBefore_iff hp hcurrent]
        have hprefix := estimatedLen_le_append format (current ++ [item]) rest
        rw [hassoc] at hprefix
        rw [List.length_append, List.length_cons] at hcount
        omega
      rw [splitLoop, if_neg hkeeps, ih (estimated_candidateLen hp hcurrent item), hassoc]
      · rwa [hassoc]
      · rwa [hassoc]

theorem splitEventsBySize_whole {maxBatchEvents : UInt64} {events : List QueuedEvent}
    (hne : events ≠ []) (hcount : events.length ≤ maxBatchEvents.toNat)
    (hsize : estimatedLen format events ≤ p.maxRequestBytes.toNat) :
    splitEventsBySize p events maxBatchEvents = [events] := by
  have hstart : ([] ++ events : List QueuedEvent) = events := List.nil_append events
  have hsplit := splitLoop_whole hp (estimated_nil hp) (hstart.symm ▸ hcount)
    (hstart.symm ▸ hsize)
  rwa [hstart, if_neg (by simpa using hne)] at hsplit

/-- An event that leaves no room for another one is a batch of its own. -/
theorem splitEventsBySize_cons {maxBatchEvents : UInt64} {first second : QueuedEvent}
    (hfull : p.maxRequestBytes.toNat < min (estimatedLen format [first, second]) u64Max)
    (rest : List QueuedEvent) :
    splitEventsBySize p (first :: second :: rest) maxBatchEvents =
      [first] :: splitEventsBySize p (second :: rest) maxBatchEvents := by
  have hempty := estimated_nil hp
  have hfirst := estimated_candidateLen hp hempty first
  have hjoins (item : QueuedEvent) :
      ¬ cutsBefore p maxBatchEvents [] p.serializedEmptyBatchLen item := by
    rw [cutsBefore_iff hp hempty]
    exact fun h => h.1 rfl
  have hcuts : cutsBefore p maxBatchEvents [first]
      (candidateLen p [] p.serializedEmptyBatchLen first) second := by
    exact (cutsBefore_iff hp hfirst second).mpr ⟨List.cons_ne_nil _ _, .inr hfull⟩
  rw [splitEventsBySize, splitLoop, if_neg (hjoins first), List.nil_append, splitLoop,
    if_pos hcuts, splitEventsBySize, splitLoop, if_neg (hjoins second), List.nil_append]

end Splitting

/-! ## A greedy partition -/

/-- The size that the loop estimates, in the range of a word. -/
def estimatedSize (format : FloatFormat) (batch : List QueuedEvent) : ℕ :=
  min (estimatedLen format batch) u64Max

/-- The events fit into no batch together with the first of the next one. -/
def NoRoomForNext (format : FloatFormat) (maxBatchEvents maxRequestBytes : ℕ)
    (batch next : List QueuedEvent) : Prop :=
  ∀ item ∈ next.head?, maxBatchEvents < (batch ++ [item]).length ∨
    maxRequestBytes < estimatedSize format (batch ++ [item])

structure GreedyPartition (format : FloatFormat) (maxBatchEvents maxRequestBytes : ℕ)
    (events : List QueuedEvent) (batches : List (List QueuedEvent)) : Prop where
  flatten : batches.flatten = events
  nonempty : ∀ batch ∈ batches, batch ≠ []
  count : ∀ batch ∈ batches, batch.length ≤ maxBatchEvents
  size : ∀ batch ∈ batches, 2 ≤ batch.length →
    estimatedSize format batch ≤ maxRequestBytes
  single : ∀ batch ∈ batches, maxRequestBytes < estimatedSize format batch →
    batch.length = 1
  necessary : batches.IsChain (NoRoomForNext format maxBatchEvents maxRequestBytes)

/-- The first batch starts with what the loop has filled in. -/
theorem splitLoop_eq_cons (p : SinkParams) (maxBatchEvents : UInt64)
    (events : List QueuedEvent) {current : List QueuedEvent} (hcurrent : current ≠ [])
    (currentLen : UInt64) :
    ∃ more rest, splitLoop p maxBatchEvents events current currentLen =
      (current ++ more) :: rest := by
  induction events generalizing current currentLen with
  | nil => exact ⟨[], [], by simp [splitLoop, hcurrent]⟩
  | cons item events ih =>
      rw [splitLoop]
      split
      · exact ⟨[], _, by rw [List.append_nil]⟩
      · have hfilled : current ++ [item] ≠ [] := by simp
        obtain ⟨more, rest, hsplit⟩ := ih hfilled _
        exact ⟨item :: more, rest, by rw [hsplit, List.append_assoc]; rfl⟩

/-- The loop ends a batch only where the next event has no room. -/
theorem isChain_splitLoop {format : FloatFormat} {p : SinkParams} (hp : Encodes format p)
    {maxBatchEvents : UInt64} {events current : List QueuedEvent} {currentLen : UInt64}
    (hcurrent : Estimated format current currentLen) :
    (splitLoop p maxBatchEvents events current currentLen).IsChain
      (NoRoomForNext format maxBatchEvents.toNat p.maxRequestBytes.toNat) := by
  induction events generalizing current currentLen with
  | nil =>
      rw [splitLoop]
      split
      · exact .nil
      · exact .singleton current
  | cons item events ih =>
      rw [splitLoop]
      split
      · next hcut =>
          have hrest := ih (estimated_candidateLen hp (estimated_nil hp) item)
          obtain ⟨more, rest, hsplit⟩ := splitLoop_eq_cons p maxBatchEvents events
            (List.cons_ne_nil item []) (candidateLen p [] p.serializedEmptyBatchLen item)
          rw [List.nil_append] at hrest
          rw [hsplit] at hrest ⊢
          apply List.IsChain.cons_cons _ hrest
          intro next hnext
          obtain rfl : item = next := by simpa using hnext
          rw [List.length_append, List.length_singleton]
          exact ((cutsBefore_iff hp hcurrent item).mp hcut).2.imp_left Nat.lt_succ_of_le
      · exact ih (estimated_candidateLen hp hcurrent item)

/-- **Splitting is a lossless greedy partition.** -/
theorem greedyPartition_splitEventsBySize (format : FloatFormat)
    (controller : ControllerConfig) (queueCapacity : ℕ) (events : List QueuedEvent)
    {maxBatchEvents : UInt64} (hevents : 1 ≤ maxBatchEvents) (maxRequestBytes : UInt64) :
    GreedyPartition format maxBatchEvents.toNat maxRequestBytes.toNat events
      (splitEventsBySize
        (encodingParams format controller queueCapacity maxRequestBytes) events
        maxBatchEvents) := by
  have hp := encodingParams_encodes format controller queueCapacity maxRequestBytes
  set p := encodingParams format controller queueCapacity maxRequestBytes
  have hbounds := splitEventsBySize_bounds p events maxBatchEvents
  have hone : 1 ≤ maxBatchEvents.toNat := UInt64.le_iff_toNat_le.mp hevents
  have hsize : ∀ batch ∈ splitEventsBySize p events maxBatchEvents,
      batch.length ≤ 1 ∨ estimatedSize format batch ≤ maxRequestBytes.toNat :=
    estimatedLen_of_mem_splitLoop hp (estimated_nil hp) (.inl (Nat.zero_le 1))
  apply GreedyPartition.mk
  · exact flatten_splitEventsBySize p events maxBatchEvents
  · exact fun batch hbatch => (hbounds batch hbatch).1
  · intro batch hbatch
    have := (hbounds batch hbatch).2
    omega
  · intro batch hbatch hseveral
    exact (hsize batch hbatch).resolve_left (by omega)
  · intro batch hbatch hlarge
    have hle := (hsize batch hbatch).resolve_right (by omega)
    have hpos := List.length_pos_of_ne_nil (hbounds batch hbatch).1
    omega
  · exact isChain_splitLoop hp (estimated_nil hp)

/-- A format for values without floats. -/
def noFloats : FloatFormat := ⟨fun _ => ['0'], fun _ => List.cons_ne_nil _ _⟩

def httpRefused : WireEvent where
  eventType := "kernel.network.connection_refused"
  timestampUnixNanos := 1700000000123456789
  observer := "network"
  severity := .warning
  facts := .object [("dst_addr", .string "10.96.0.1"), ("dst_port", .number (.posInt 80)),
    ("protocol", .string "tcp"), ("src_addr", .string "10.0.0.4")]

/-- Three events of 215 bytes under limits of two events and of 800 bytes. -/
theorem greedyPartition_three :
    ((splitEventsBySize (encodingParams noFloats ⟨"node/worker-1", "worker-1"⟩ 4096 800)
        (List.replicate 3 ⟨0, httpRefused⟩) 2).map List.length = [2, 1]) ∧
      GreedyPartition noFloats (2 : UInt64).toNat (800 : UInt64).toNat
        (List.replicate 3 ⟨0, httpRefused⟩)
        (splitEventsBySize (encodingParams noFloats ⟨"node/worker-1", "worker-1"⟩ 4096 800)
          (List.replicate 3 ⟨0, httpRefused⟩) 2) := by
  have htwo : (1 : UInt64) ≤ 2 := by decide
  exact ⟨by decide +kernel, greedyPartition_splitEventsBySize noFloats _ _ _ htwo 800⟩

end Tapio.Sink
