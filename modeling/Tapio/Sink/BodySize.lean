/-
# How large the posted batches are

The worker splits its buffer so that no request is larger than `max_request_bytes`, by
default what the controller accepts as a body. A batch's size is estimated from the
encodings of its events and from that of a request without events under made-up
identifiers, the first sequence number and no clock. The posted request has the agent's
own identifiers, its sequence number and the time.

The bodies of a flush stay within the limit if and only if no batch of several events is
filled so far that what its header takes more than the made-up one goes beyond the limit.
Over all buffers, several events can overfill a request if and only if its header is longer,
apart from limits that leave no room for two events in the first place.
-/
import Tapio.Sink.Splitting

namespace Tapio.Sink

open Wire Numeric Agent Transit Transition Json

/-- What the controller accepts as the body of a request. -/
def maxRequestBodyBytes : ℕ := 262144

/-- No vector has more bytes. -/
def isizeMax : ℕ := 2 ^ 63 - 1

/-! ## The requests of a flush -/

/-- The worker after it has numbered some requests. -/
def Worker.after (worker : Worker) (numbered : ℕ) : Worker :=
  { worker with sequence := (fun sequence => saturatingAdd sequence 1)^[numbered] worker.sequence }

/-- The requests that batches become, with the readings of the clock. -/
def Worker.batchRequests (worker : Worker) (controller : ControllerConfig) (clock : ℕ → UInt64)
    (batches : List (List QueuedEvent)) : List EventBatchRequest :=
  batches.mapIdx fun i batch =>
    (worker.after i).request controller (clock i) (batch.map (·.content))

/-- The requests of `flush_buffer`. -/
def Worker.flushRequests (p : SinkParams) (worker : Worker) (maxBatchEvents : UInt64)
    (clock : ℕ → UInt64) : List EventBatchRequest :=
  worker.batchRequests p.controller clock (splitEventsBySize p worker.buffer maxBatchEvents)

/-- The header of a request of a flush. -/
def Worker.header (worker : Worker) (controller : ControllerConfig) (clock : ℕ → UInt64)
    (i : ℕ) : EventBatchRequest :=
  (worker.after i).request controller (clock i) []

theorem batchRequests_cons (worker : Worker) (controller : ControllerConfig)
    (clock : ℕ → UInt64) (batch : List QueuedEvent) (rest : List (List QueuedEvent)) :
    worker.batchRequests controller clock (batch :: rest) =
      worker.request controller (clock 0) (batch.map (·.content)) ::
        (worker.after 1).batchRequests controller (fun i => clock (i + 1)) rest :=
  List.mapIdx_cons

/-- Post as many batches. -/
def posts (clock : ℕ → UInt64) (replies : ℕ → ℕ → HttpReply EventBatchResponse) (n : ℕ) :
    List SinkStep :=
  (List.range n).map fun i => .post (clock i) (replies i)

theorem posts_succ (clock : ℕ → UInt64) (replies : ℕ → ℕ → HttpReply EventBatchResponse) (n : ℕ) :
    posts clock replies (n + 1) =
      .post (clock 0) (replies 0) ::
        posts (fun i => clock (i + 1)) (fun i => replies (i + 1)) n := by
  rw [posts, List.range_succ_eq_map, List.map_cons, List.map_map]
  rfl

/-- Posting numbers the requests of the batches that are left. -/
theorem exec_posts (p : SinkParams) {cause : FlushCause} {batches : List (List QueuedEvent)}
    {lastError : Option ExchangeError} {s : SinkState}
    (hphase : s.phase = .flushing cause batches lastError) (clock : ℕ → UInt64)
    (replies : ℕ → ℕ → HttpReply EventBatchResponse) :
    ∃ t, (sinkMachine p).exec s (posts clock replies batches.length) = some t ∧
      (∃ error, t.phase = .flushing cause [] error) ∧
      t.made = s.made ++ s.worker.batchRequests p.controller clock batches := by
  induction batches generalizing s lastError clock replies with
  | nil => exact ⟨s, rfl, ⟨lastError, hphase⟩, (List.append_nil _).symm⟩
  | cons batch rest ih =>
      let next := s.postNext p cause batch rest lastError (clock 0) (replies 0)
      have hstep : (sinkMachine p).step s (.post (clock 0) (replies 0)) = some next := by
        change sinkStep p s (.post (clock 0) (replies 0)) = some next
        simp only [sinkStep, hphase]
        rfl
      have hmade : next.made =
          s.made ++ [s.worker.request p.controller (clock 0) (batch.map (·.content))] := rfl
      have hworker : next.worker = s.worker.after 1 := rfl
      obtain ⟨t, hrun, hend, ht⟩ :=
        ih (s := next) rfl (fun i => clock (i + 1)) (fun i => replies (i + 1))
      refine ⟨t, ?_, hend, ?_⟩
      · rw [List.length_cons, posts_succ, Machine.exec_cons, hstep]
        exact hrun
      · rw [ht, hmade, hworker, batchRequests_cons, List.append_assoc]
        rfl

/-- **A flush posts its requests**, one for each batch, and none is left. -/
theorem exec_flush (p : SinkParams) (s : SinkState) (cause : FlushCause)
    (maxBatchEvents : UInt64) (clock : ℕ → UInt64)
    (replies : ℕ → ℕ → HttpReply EventBatchResponse) :
    ∃ t, (sinkMachine p).exec (s.startFlush p cause maxBatchEvents)
        (posts clock replies (splitEventsBySize p s.worker.buffer maxBatchEvents).length) =
          some t ∧
      (∃ error, t.phase = .flushing cause [] error) ∧
      t.made = s.made ++ s.worker.flushRequests p maxBatchEvents clock :=
  exec_posts p (s := s.startFlush p cause maxBatchEvents) rfl clock replies

/-! ## When the bodies fit -/

/-- The length of the body of a request of which these are the events. -/
def bodyLen (format : FloatFormat) (header : EventBatchRequest) (events : List WireEvent) : ℕ :=
  (EventBatchRequest.toVec format { header with events := events }).length

theorem bodyLen_eq (format : FloatFormat) (header : EventBatchRequest)
    (events : List WireEvent) :
    bodyLen format header events = header.envelopeLen format + eventsLen format events :=
  EventBatchRequest.toVec_length format { header with events := events }

/-- Every request that a flush posts has a body within the limit, if each of its events
alone would have. A request is posted if it passes the worker's own validation. -/
def BodiesFit (format : FloatFormat) (p : SinkParams) (worker : Worker) (maxBatchEvents : UInt64)
    (clock : ℕ → UInt64) : Prop :=
  ∀ request ∈ worker.flushRequests p maxBatchEvents clock,
    request.validate usizeMax = .ok () → (request.toVec format).length ≤ isizeMax →
      (∀ event ∈ request.events, bodyLen format request [event] ≤ p.maxRequestBytes.toNat) →
        (request.toVec format).length ≤ p.maxRequestBytes.toNat

/-- A batch that is posted, although no event alone would go beyond the limit. -/
structure Postable (format : FloatFormat) (maxRequestBytes : UInt64) (header : EventBatchRequest)
    (batch : List QueuedEvent) : Prop where
  valid : EventBatchRequest.validate
    { header with events := batch.map (·.content) } usizeMax = .ok ()
  built : bodyLen format header (batch.map (·.content)) ≤ isizeMax
  alone : ∀ event ∈ batch.map (·.content), bodyLen format header [event] ≤ maxRequestBytes.toNat

/-- By how much a header is longer than the made-up one. -/
def headerExcess (format : FloatFormat) (header : EventBatchRequest) : ℕ :=
  header.envelopeLen format - emptyBatch.envelopeLen format

/-- What the estimate of a batch leaves of the limit. -/
def room (format : FloatFormat) (maxRequestBytes : UInt64) (batch : List QueuedEvent) : ℕ :=
  maxRequestBytes.toNat - estimatedLen format batch

/-- A batch that the splitter kept together fits when it leaves room for its header. -/
theorem bodyLen_le_iff {format : FloatFormat} {maxRequestBytes : UInt64}
    {header : EventBatchRequest} {batch : List QueuedEvent}
    (hestimate : min (estimatedLen format batch) u64Max ≤ maxRequestBytes.toNat)
    (hbuilt : bodyLen format header (batch.map (·.content)) ≤ isizeMax) :
    bodyLen format header (batch.map (·.content)) ≤ maxRequestBytes.toNat ↔
      headerExcess format header ≤ room format maxRequestBytes batch := by
  have hword : isizeMax < u64Max := by decide
  have hbody := bodyLen_eq format header (batch.map (·.content))
  rw [headerExcess, room, estimatedLen]
  rw [estimatedLen] at hestimate
  constructor <;> intro h <;> omega

/-- Every request of a flush is that of one of its batches. -/
theorem mem_flushRequests_iff {p : SinkParams} {worker : Worker} {maxBatchEvents : UInt64}
    {clock : ℕ → UInt64} {request : EventBatchRequest} :
    request ∈ worker.flushRequests p maxBatchEvents clock ↔
      ∃ i batch, (splitEventsBySize p worker.buffer maxBatchEvents)[i]? = some batch ∧
        { worker.header p.controller clock i with events := batch.map (·.content) } = request := by
  constructor
  · intro h
    obtain ⟨i, hi, heq⟩ := List.mem_mapIdx.mp h
    exact ⟨i, _, List.getElem?_eq_getElem hi, heq⟩
  · rintro ⟨i, batch, hbatch, heq⟩
    obtain ⟨hi, rfl⟩ := List.getElem?_eq_some_iff.mp hbatch
    exact List.mem_mapIdx.mpr ⟨i, hi, heq⟩

/-- A header is longer than the made-up one, and the limits leave room for two events of
which only the estimate fits. -/
structure CanOverfill (format : FloatFormat) (maxRequestBytes maxBatchEvents : UInt64)
    (header : EventBatchRequest) : Prop where
  agent : Text.trim header.agentId ≠ ""
  node : Text.trim header.nodeName ≠ ""
  several : 2 ≤ maxBatchEvents.toNat
  longer : emptyBatch.envelopeLen format < header.envelopeLen format
  alone : header.envelopeLen format + minEventLen ≤ maxRequestBytes.toNat
  estimated : emptyBatch.envelopeLen format + (2 * minEventLen + 1) ≤ maxRequestBytes.toNat
  limit : maxRequestBytes.toNat < isizeMax
  built : header.envelopeLen format + (2 * minEventLen + 1) ≤ isizeMax

theorem eventsLen_singleton (format : FloatFormat) (event : WireEvent) :
    eventsLen format [event] = (event.toVec format).length := by
  simp [eventsLen]

theorem eventsLen_pair (format : FloatFormat) (first second : WireEvent) :
    eventsLen format [first, second] =
      (first.toVec format).length + (second.toVec format).length + 1 := by
  simp [eventsLen]

/-- Events that pass the validation take as much as the shortest at least. -/
theorem two_minEventLen_le {format : FloatFormat} {events : List WireEvent}
    (hvalid : ∀ event ∈ events, event.validate = .ok ()) (hseveral : 2 ≤ events.length) :
    2 * minEventLen + 1 ≤ eventsLen format events := by
  obtain ⟨first, second, rest, rfl⟩ : ∃ first second rest, events = first :: second :: rest := by
    match events, hseveral with
    | first :: second :: rest, _ => exact ⟨first, second, rest, rfl⟩
  have hfirst := minEventLen_le format (hvalid first List.mem_cons_self)
  have hsecond := minEventLen_le format (hvalid second (by simp))
  simp only [eventsLen, List.map_cons, List.sum_cons, List.length_cons]
  omega

/-- A flush that posts a body beyond the limit has a header that allows it. -/
theorem canOverfill_of_tooLong {format : FloatFormat} {p : SinkParams} (hp : Encodes format p)
    {worker : Worker} {maxBatchEvents : UInt64} {clock : ℕ → UInt64}
    (hlong : ¬ BodiesFit format p worker maxBatchEvents clock) :
    ∃ i, CanOverfill format p.maxRequestBytes maxBatchEvents
      (worker.header p.controller clock i) := by
  simp only [BodiesFit, not_forall, not_le] at hlong
  obtain ⟨request, hrequest, hbreaks⟩ := hlong
  obtain ⟨i, batch, hbatch, rfl⟩ := mem_flushRequests_iff.mp hrequest
  set header := worker.header p.controller clock i
  obtain ⟨hvalid, hbuilt, halone, hlong⟩ := hbreaks
  have hmem := List.mem_of_getElem? hbatch
  have hbody : bodyLen format header (batch.map (·.content)) =
      header.envelopeLen format + eventsLen format (batch.map (·.content)) :=
    bodyLen_eq format header _
  change bodyLen format header (batch.map (·.content)) ≤ isizeMax at hbuilt
  change p.maxRequestBytes.toNat < bodyLen format header (batch.map (·.content)) at hlong
  change ∀ event ∈ batch.map (·.content),
    bodyLen format header [event] ≤ p.maxRequestBytes.toNat at halone
  obtain ⟨-, hagent, hnode, -, -, hevents⟩ := (EventBatchRequest.validate_ok_iff _ _).mp hvalid
  change ∀ event ∈ batch.map (·.content), event.validate = .ok () at hevents
  obtain ⟨hne, hcount⟩ := splitEventsBySize_bounds p _ _ batch hmem
  obtain ⟨first, hfirst⟩ := List.exists_mem_of_ne_nil batch hne
  have hfirst : first.content ∈ batch.map (·.content) := List.mem_map_of_mem hfirst
  -- A single event is what the premise is about.
  have hseveral : 2 ≤ batch.length := by
    by_contra hsingle
    obtain ⟨item, hitem⟩ : ∃ item, batch = [item] := by
      rw [← List.length_eq_one_iff]
      have := List.length_pos_of_ne_nil hne
      omega
    rw [hitem] at hlong halone
    exact absurd (halone item.content List.mem_cons_self) (not_le.mpr hlong)
  have hestimate : min (estimatedLen format batch) u64Max ≤ p.maxRequestBytes.toNat :=
    (estimatedLen_of_mem_splitLoop hp (estimated_nil hp) (.inl (Nat.zero_le 1)) batch
      hmem).resolve_left (by omega)
  have hpair : 2 * minEventLen + 1 ≤ eventsLen format (batch.map (·.content)) :=
    two_minEventLen_le hevents (by simpa using hseveral)
  have hshortest := minEventLen_le format (hevents _ hfirst)
  have hone := halone _ hfirst
  rw [bodyLen_eq, eventsLen_singleton] at hone
  rw [estimatedLen] at hestimate
  have hword : isizeMax < u64Max := by decide
  have hcan : CanOverfill format p.maxRequestBytes maxBatchEvents header := by
    refine ⟨hagent, hnode, ?_, ?_, ?_, ?_, ?_, ?_⟩
    all_goals omega
  exact ⟨i, hcan⟩

/-- An event whose encoding takes up the limit is a batch of its own. -/
theorem splitEventsBySize_full {format : FloatFormat} {p : SinkParams} (hp : Encodes format p)
    {maxBatchEvents : UInt64} {full : QueuedEvent}
    (hfull : (full.content.toVec format).length = p.maxRequestBytes.toNat)
    (hlimit : p.maxRequestBytes.toNat < u64Max) {events : List QueuedEvent} (hne : events ≠ [])
    (n : ℕ) :
    splitEventsBySize p (List.replicate n full ++ events) maxBatchEvents =
      List.replicate n [full] ++ splitEventsBySize p events maxBatchEvents := by
  have hcut (next : QueuedEvent) :
      p.maxRequestBytes.toNat < min (estimatedLen format [full, next]) u64Max := by
    have hpair := eventsLen_pair format full.content next.content
    have hestimate : estimatedLen format [full, next] =
        emptyBatch.envelopeLen format + eventsLen format [full.content, next.content] := rfl
    omega
  induction n with
  | zero => rfl
  | succ n ih =>
      obtain ⟨next, rest, hrest⟩ :
          ∃ next rest, List.replicate n full ++ events = next :: rest := by
        apply List.exists_cons_of_ne_nil
        simp [hne]
      rw [List.replicate_succ, List.replicate_succ, List.cons_append, List.cons_append, ← ih,
        hrest]
      exact splitEventsBySize_cons hp (hcut next) rest

/-- A batch whose events fit alone, but not together. -/
theorem not_bodiesFit_of_batch {format : FloatFormat} {p : SinkParams} {worker : Worker}
    {maxBatchEvents : UInt64} {clock : ℕ → UInt64} {i : ℕ} {batch : List QueuedEvent}
    (hbatch : (splitEventsBySize p worker.buffer maxBatchEvents)[i]? = some batch)
    (hvalid : EventBatchRequest.validate
      { worker.header p.controller clock i with events := batch.map (·.content) } usizeMax = .ok ())
    (hbuilt : bodyLen format (worker.header p.controller clock i) (batch.map (·.content)) ≤
      isizeMax)
    (halone : ∀ event ∈ batch.map (·.content),
      bodyLen format (worker.header p.controller clock i) [event] ≤ p.maxRequestBytes.toNat)
    (hlong : p.maxRequestBytes.toNat <
      bodyLen format (worker.header p.controller clock i) (batch.map (·.content))) :
    ¬ BodiesFit format p worker maxBatchEvents clock := by
  intro hfit
  have hposted : _ ∈ worker.flushRequests p maxBatchEvents clock :=
    mem_flushRequests_iff.mpr ⟨i, batch, hbatch, rfl⟩
  exact absurd (hfit _ hposted hvalid hbuilt halone) (not_le.mpr hlong)

/-- Two events that overfill the request that a flush posts under a given header. -/
theorem exists_tooLong {format : FloatFormat} {p : SinkParams} (hp : Encodes format p)
    {sequence : UInt64} {maxBatchEvents : UInt64} {clock : ℕ → UInt64} {i : ℕ}
    (h : CanOverfill format p.maxRequestBytes maxBatchEvents
      (Worker.header ⟨sequence, []⟩ p.controller clock i)) :
    ∃ buffer, ¬ BodiesFit format p ⟨sequence, buffer⟩ maxBatchEvents clock := by
  set header := Worker.header ⟨sequence, []⟩ p.controller clock i
  obtain ⟨hagent, hnode, hseveral, hlonger, halone, hestimated, hlimit, hbuilt⟩ := h
  have hword : isizeMax < u64Max := by decide
  -- The first event is as short as can be, the second takes the batch just over the limit.
  let total := max (p.maxRequestBytes.toNat - header.envelopeLen format + 1) (2 * minEventLen + 1)
  obtain ⟨first, hfirst, hfirstLen⟩ := exists_event format (Nat.le_refl minEventLen)
  have hroom : minEventLen ≤ total - 1 - minEventLen := by omega
  obtain ⟨second, hsecond, hsecondLen⟩ := exists_event format hroom
  have hfilled : minEventLen ≤ p.maxRequestBytes.toNat := by omega
  obtain ⟨filler, -, hfiller⟩ := exists_event format hfilled
  have hpair : eventsLen format [first, second] = total := by
    rw [eventsLen_pair]
    omega
  let batch : List QueuedEvent := [⟨0, first⟩, ⟨0, second⟩]
  let full : QueuedEvent := ⟨0, filler⟩
  have hfull : (full.content.toVec format).length = p.maxRequestBytes.toNat := hfiller
  let buffer : List QueuedEvent := List.replicate i full ++ batch
  have hsplit : splitEventsBySize p buffer maxBatchEvents =
      List.replicate i [full] ++ [batch] := by
    have hfits : estimatedLen format batch ≤ p.maxRequestBytes.toNat := by
      change emptyBatch.envelopeLen format + eventsLen format [first, second] ≤ _
      omega
    have hcount : batch.length ≤ maxBatchEvents.toNat := hseveral
    have hword : p.maxRequestBytes.toNat < u64Max := by omega
    rw [splitEventsBySize_full hp hfull hword (List.cons_ne_nil _ _),
      splitEventsBySize_whole hp (List.cons_ne_nil _ _) hcount hfits]
  have hbody : bodyLen format header [first, second] = header.envelopeLen format + total := by
    rw [bodyLen_eq, hpair]
  have htwo : 2 ≤ usizeMax := by decide
  have hbatch : (splitEventsBySize p buffer maxBatchEvents)[i]? = some batch := by
    simp [hsplit]
  refine ⟨buffer, not_bodiesFit_of_batch hbatch ?_ ?_ ?_ ?_⟩
  · rw [EventBatchRequest.validate_ok_iff]
    refine ⟨rfl, hagent, hnode, List.cons_ne_nil _ _, htwo, ?_⟩
    simp [batch, hfirst, hsecond]
  · change bodyLen format header [first, second] ≤ _
    omega
  · change ∀ event ∈ [first, second], bodyLen format header [event] ≤ p.maxRequestBytes.toNat
    intro event hevent
    rw [bodyLen_eq, eventsLen_singleton]
    rcases List.mem_pair.mp hevent with rfl | rfl
    · omega
    · omega
  · change _ < bodyLen format header [first, second]
    omega

/-- **The bodies of every flush fit exactly if no header allows overfilling.** -/
theorem forall_bodiesFit_iff (format : FloatFormat) (controller : ControllerConfig)
    (queueCapacity : ℕ) (maxRequestBytes sequence maxBatchEvents : UInt64)
    (clock : ℕ → UInt64) :
    (∀ buffer, BodiesFit format (encodingParams format controller queueCapacity maxRequestBytes)
        ⟨sequence, buffer⟩ maxBatchEvents clock) ↔
      ∀ i, ¬ CanOverfill format maxRequestBytes maxBatchEvents
        (Worker.header ⟨sequence, []⟩ controller clock i) := by
  have hp := encodingParams_encodes format controller queueCapacity maxRequestBytes
  apply Iff.intro
  · intro hfits i hcan
    obtain ⟨buffer, hlong⟩ := exists_tooLong hp hcan
    exact hlong (hfits buffer)
  · intro hnone buffer
    by_contra hlong
    obtain ⟨i, hcan⟩ := canOverfill_of_tooLong hp hlong
    exact hnone i hcan

/-! ## A flush of many small events -/

/-- What a burst of refused connections leaves in the buffer. -/
def refusals (count : ℕ) : List QueuedEvent :=
  (List.range count).map fun number => ⟨number, httpRefused⟩

theorem refusals_contents (count : ℕ) :
    (refusals count).map (·.content) = List.replicate count httpRefused := by
  have hconst : (List.range count).map (fun _ => httpRefused) =
      List.replicate (List.range count).length httpRefused := List.map_const'
  rw [List.length_range] at hconst
  rw [refusals, List.map_map]
  exact hconst

def defaultSink : SinkParams :=
  encodingParams noFloats ⟨"node/worker-1", "worker-1"⟩ defaultQueueCapacity
    defaultMaxRequestBytes

/-! How long the parts of its request are. -/

theorem envelopeLen_refusals :
    (Worker.header ⟨1, []⟩ defaultSink.controller (fun _ => 1700000001000000000) 0).envelopeLen
      noFloats = 148 :=
  byteLen_eq_of_ascii (by decide +kernel)

theorem envelopeLen_emptyBatch : emptyBatch.envelopeLen noFloats = 118 :=
  byteLen_eq_of_ascii (by decide +kernel)

theorem length_httpRefused : (httpRefused.toVec noFloats).length = 215 := by
  have hlen : byteLen (httpRefused.encode noFloats) = 215 :=
    byteLen_eq_of_ascii (by decide +kernel)
  exact hlen

theorem eventsLen_refusals (count : ℕ) :
    eventsLen noFloats ((refusals count).map (·.content)) = 216 * count - 1 := by
  rw [refusals_contents, eventsLen, List.map_replicate, List.sum_replicate_nat,
    List.length_replicate, length_httpRefused]
  omega

theorem eq_of_mem_refusals {count : ℕ} {event : WireEvent}
    (h : event ∈ (refusals count).map (·.content)) : event = httpRefused := by
  rw [refusals_contents] at h
  exact List.eq_of_mem_replicate h

theorem length_refusals (count : ℕ) : (refusals count).length = count := by
  rw [refusals, List.length_map, List.length_range]

/-- A burst that is estimated to fit is one batch. -/
theorem splitEventsBySize_refusals {count : ℕ} (hne : refusals count ≠ [])
    (hcount : count ≤ 2000) (hestimate : 118 + (216 * count - 1) ≤ 262144) :
    splitEventsBySize defaultSink (refusals count) 2000 = [refusals count] := by
  have hlimit : defaultSink.maxRequestBytes.toNat = 262144 := by decide
  have hp : Encodes noFloats defaultSink := encodingParams_encodes _ _ _ _
  apply splitEventsBySize_whole hp hne
  · rw [length_refusals]
    exact hcount
  · rw [estimatedLen, envelopeLen_emptyBatch, eventsLen_refusals, hlimit]
    exact hestimate

/-- A burst that is estimated to fit into one batch goes beyond the limit. -/
theorem not_bodiesFit_refusals {count : ℕ} (hcount : count ≤ 2000)
    (hestimate : 118 + (216 * count - 1) ≤ 262144) (hlong : 262144 < 148 + (216 * count - 1)) :
    ¬ BodiesFit noFloats defaultSink ⟨1, refusals count⟩ 2000 (fun _ => 1700000001000000000) := by
  have hlimit : defaultSink.maxRequestBytes.toNat = 262144 := by decide
  let header := Worker.header ⟨1, []⟩ defaultSink.controller (fun _ => 1700000001000000000) 0
  have hheader : header.envelopeLen noFloats = 148 := envelopeLen_refusals
  have hbuffer : refusals count ≠ [] := by
    apply List.ne_nil_of_length_pos
    rw [length_refusals]
    omega
  have hsplit := splitEventsBySize_refusals hbuffer hcount hestimate
  have hbody : bodyLen noFloats header ((refusals count).map (·.content)) =
      148 + (216 * count - 1) := by
    rw [bodyLen_eq, hheader, eventsLen_refusals]
  refine not_bodiesFit_of_batch (i := 0) (by rw [hsplit]; rfl) ?_ ?_ ?_ ?_
  · have hagent : Text.trim "node/worker-1" ≠ "" := by decide
    have hnode : Text.trim "worker-1" ≠ "" := by decide
    have hevent : httpRefused.validate = .ok () := by decide +kernel
    have hword : 2000 ≤ usizeMax := by decide
    rw [EventBatchRequest.validate_ok_iff]
    refine ⟨rfl, hagent, hnode, fun h => hbuffer (List.map_eq_nil_iff.mp h), ?_, ?_⟩
    · rw [List.length_map, length_refusals]
      omega
    · exact fun event hmem => eq_of_mem_refusals hmem ▸ hevent
  · have hvector : 500000 ≤ isizeMax := by decide
    change bodyLen noFloats header _ ≤ _
    omega
  · intro event hmem
    change bodyLen noFloats header [event] ≤ _
    rw [eq_of_mem_refusals hmem, bodyLen_eq, eventsLen_singleton, hheader, length_httpRefused]
    decide
  · change _ < bodyLen noFloats header _
    omega

end Tapio.Sink
