/-
# Exchanges from end to end

A request of the agent is written as text, read and served by the controller, and the answer
is written as text and read by the agent. If both sides read what the other one wrote, up to
the floats among facts, then over a connection that brings the whole answer the agent learns
exactly what the controller's operation came to: the exchange amounts to a call of the
operation.
-/
import Tapio.Agent.Arrival
import Tapio.Agent.Exchange
import Tapio.Controller.Delivery
import Tapio.Controller.Polling
import Tapio.Json.Accepted

namespace Tapio.Agent

open Json Sink Wire Controller

/-! ## Answers that arrive as a whole -/

/-- The connection brings the whole response, and its head is in ASCII. -/
structure Connection.Delivers (connection : Connection) (full : FullResponse) : Prop where
  arrived : connection.chunks.flatten = full.bytes
  chunk_ne_nil : ∀ chunk ∈ connection.chunks, chunk ≠ []
  ending : connection.ending = .closed ∨ ∃ error, connection.ending = .reset error
  reason : ∀ b ∈ full.reason, b.toNat < 128
  headers : ∀ header ∈ full.headers, ∀ b ∈ header, b.toNat < 128

/-- Nothing is refused that fits. -/
theorem readToEnd_of_fits {max : ℕ} {ending : ConnectionEnd} {chunks : List (List UInt8)}
    {response : List UInt8} (hchunks : ∀ chunk ∈ chunks, chunk ≠ [])
    (hending : ending = .closed ∨ ∃ error, ending = .reset error)
    (hne : response ++ chunks.flatten ≠ [])
    (hmax : (response ++ chunks.flatten).length ≤ max) :
    readToEnd max ending chunks response = .ok (response ++ chunks.flatten) := by
  induction chunks generalizing response with
  | nil =>
      rw [List.flatten_nil, List.append_nil] at hne ⊢
      rcases hending with rfl | ⟨error, rfl⟩
      · rfl
      · exact if_neg hne
  | cons chunk chunks ih =>
      obtain ⟨hchunk, hrest⟩ := List.forall_mem_cons.mp hchunks
      rw [List.flatten_cons, ← List.append_assoc] at hne hmax ⊢
      have hlength : ¬ (response ++ chunk).length > max := by
        rw [List.length_append] at hmax
        omega
      rw [readToEnd, if_neg hchunk, if_neg hlength, ih hrest hne hmax]

theorem FullResponse.ascii_statusLine {full : FullResponse}
    (hreason : ∀ b ∈ full.reason, b.toNat < 128) : ∀ b ∈ full.statusLine, b.toNat < 128 := by
  rw [statusLine, List.forall_mem_append, utf8_of_ascii fun c hc => (mem_version hc).2]
  refine ⟨List.forall_mem_map.mpr fun c hc => ?_, hreason⟩
  have hc := (mem_version hc).2
  rw [UInt8.toNat_ofNat']
  omega

/-- The text of bytes in ASCII. -/
theorem exists_utf8_of_ascii {bytes : List UInt8} (h : ∀ b ∈ bytes, b.toNat < 128) :
    ∃ text, utf8 text = bytes := by
  refine ⟨bytes.map fun b => Char.ofNat b.toNat, ?_⟩
  have hchar : ∀ b ∈ bytes, (Char.ofNat b.toNat).toNat = b.toNat := fun b hb =>
    Text.toNat_ofNat_of_lt (h b hb)
  rw [utf8_of_ascii (List.forall_mem_map.mpr fun b hb => (hchar b hb).trans_lt (h b hb)),
    List.map_map]
  refine (List.map_congr_left fun b hb => ?_).trans (List.map_id bytes)
  rw [Function.comp_apply, hchar b hb, UInt8.ofNat_toNat]
  rfl

/-- The head of a response in ASCII gives its status. -/
theorem FullResponse.parseHead_statusLine (full : FullResponse) {others : List UInt8}
    (hascii : ∀ b ∈ full.statusLine ++ others, b.toNat < 128) :
    parseHead (full.statusLine ++ others) = .ok full.status := by
  rw [statusLine, List.append_assoc] at hascii ⊢
  obtain ⟨more, hmore⟩ := exists_utf8_of_ascii fun b hb =>
    hascii b (List.mem_append_right _ hb)
  have hfeed : '\n' ∉ full.version := fun hc => absurd (mem_version hc).1 (by decide)
  have hreturn : '\r' ∉ full.version := fun hc => absurd (mem_version hc).1 (by decide)
  obtain ⟨rest, others', hlines⟩ := lines_front full.version_ne_nil hfeed hreturn more
  rw [← hmore, ← utf8_append, parseHead, fromUTF8?_utf8]
  simp only [hlines]
  exact full.parseStatus_version rest

/-- The head of the bytes of a response ends where the lines do. -/
theorem FullResponse.splitHead_bytes {full : FullResponse}
    (hreason : ∀ b ∈ full.reason, b.toNat < 128)
    (hheaders : ∀ header ∈ full.headers, ∀ b ∈ header, b.toNat < 128) :
    ∃ others, splitHead full.bytes = some (full.statusLine ++ others, full.body) ∧
      ∀ b ∈ full.statusLine ++ others, b.toNat < 128 := by
  have hstatus : 13 ∉ full.statusLine := by
    rw [statusLine, List.mem_append, not_or, utf8_of_ascii fun c hc => (mem_version hc).2]
    refine ⟨fun hmem => ?_, full.reason_line.1⟩
    obtain ⟨c, hc, hbyte⟩ := List.mem_map.mp hmem
    have hrange := mem_version hc
    have hvalue := congrArg UInt8.toNat hbyte
    rw [UInt8.toNat_ofNat'] at hvalue
    simp at hvalue
    omega
  obtain ⟨others, hsplit⟩ := splitHead_lines hstatus
    (fun header hheader => ⟨(full.header_line header hheader).1,
      (full.header_line header hheader).2.1⟩) full.body
  refine ⟨others, hsplit, ?_⟩
  have hcrlf : ∀ b ∈ crlf, b.toNat < 128 := by simp [crlf]
  have hlines : ∀ b ∈ (full.statusLine :: full.headers).flatMap (fun line => line ++ crlf),
      b.toNat < 128 := by
    intro b hb
    obtain ⟨line, hline, hb⟩ := List.mem_flatMap.mp hb
    rcases List.mem_append.mp hb with hb | hb
    · rcases List.mem_cons.mp hline with rfl | hheader
      · exact ascii_statusLine hreason b hb
      · exact hheaders line hheader b hb
    · exact hcrlf b hb
  -- The head and the blank line after it are the lines and the blank line.
  have hwhole := eq_of_splitHead hsplit
  have hhead := List.append_cancel_right hwhole
  intro b hb
  have hmem := hhead ▸ List.mem_append_left (crlf ++ crlf) hb
  rcases List.mem_append.mp hmem with hline | hblank
  · exact hlines b hline
  · exact hcrlf b hblank

theorem Connection.Delivers.reply_eq {β : Type} {connection : Connection} {full : FullResponse}
    (h : connection.Delivers full) {maxResponseBytes : ℕ}
    (hmax : full.bytes.length ≤ maxResponseBytes) (decode : List UInt8 → Except String β) :
    connection.reply maxResponseBytes decode = .response full.status (decode full.body) := by
  obtain ⟨others, hsplit, hascii⟩ := FullResponse.splitHead_bytes h.reason h.headers
  have hne : full.bytes ≠ [] := by
    intro hnil
    rw [hnil] at hsplit
    cases hsplit
  have hread : readToEnd maxResponseBytes connection.ending connection.chunks [] =
      .ok full.bytes := by
    rw [← h.arrived] at hne hmax ⊢
    exact readToEnd_of_fits h.chunk_ne_nil h.ending hne hmax
  have hresponse : readResponse maxResponseBytes connection = .ok ⟨full.status, full.body⟩ := by
    rw [readResponse, hread]
    simp only [bind, Except.bind, hsplit, full.parseHead_statusLine hascii]
    rfl
  rw [reply, hresponse]

/-! ## What the agent learns -/

/-- The decoders of the answers. -/
structure Decoders where
  hello : Decoder HelloResponse
  heartbeat : Decoder HeartbeatResponse
  events : Decoder EventBatchResponse
  config : Decoder ConfigResponse

/-- Answers are decoded as they were written. -/
structure Decoders.ReadBack (decoders : Decoders) : Prop where
  hello : ∀ res : HelloResponse, decoders.hello.fromSlice (utf8 res.encode) = .ok res
  heartbeat : ∀ res : HeartbeatResponse,
    decoders.heartbeat.fromSlice (utf8 res.encode) = .ok res
  events : ∀ res : EventBatchResponse, decoders.events.fromSlice (utf8 res.encode) = .ok res
  config : ∀ res : ConfigResponse, decoders.config.fromSlice (utf8 res.encode) = .ok res

/-- The connection brings the answer, and no more than the agent takes. -/
structure Connection.Brings (connection : Connection) (answer : HttpAnswer)
    (maxResponseBytes : ℕ) : Prop where
  delivered : ∃ full, connection.Delivers full ∧ full.status = answer.status ∧
    full.body = utf8 answer.body ∧ full.bytes.length ≤ maxResponseBytes

theorem Connection.Brings.reply_eq {β : Type} {connection : Connection} {answer : HttpAnswer}
    {maxResponseBytes : ℕ} (h : connection.Brings answer maxResponseBytes)
    (decode : List UInt8 → Except String β) :
    connection.reply maxResponseBytes decode =
      .response answer.status (decode (utf8 answer.body)) := by
  obtain ⟨full, hdelivers, hstatus, hbody, hmax⟩ := h.delivered
  rw [hdelivers.reply_eq hmax, hstatus, hbody]

/-- What the agent makes of the outcome of an operation. -/
def learned {β : Type} (validate : β → WireResult Unit) : WireResult β → Except ExchangeError β
  | .ok response => acceptBody validate (.ok response)
  | .error error => .error (.http (errorStatus error))

theorem not_isSuccess_errorStatus (error : WireError) : isSuccess (errorStatus error) = false := by
  cases error <;> rfl

/-- The answer to a call tells the agent what the call came to. -/
theorem acceptReply_of_brings {β : Type} {encode : β → List Char} (validate : β → WireResult Unit)
    {decoder : Decoder β}
    (hdecode : ∀ response, decoder.fromSlice (utf8 (encode response)) = .ok response)
    {result : WireResult β} {connection : Connection} {maxResponseBytes : ℕ}
    (h : connection.Brings (answerWith encode result) maxResponseBytes) :
    acceptReply validate (connection.reply maxResponseBytes decoder.fromSlice) =
      learned validate result := by
  rw [h.reply_eq]
  cases result with
  | ok response =>
      rw [answerWith, hdecode]
      rfl
  | error error =>
      exact if_neg (Bool.eq_false_iff.mp (not_isSuccess_errorStatus error))

/-- The answer to a batch tells the worker as much as the operation returned. -/
theorem attemptResult_of_brings {decoder : Decoder EventBatchResponse}
    (hdecode : ∀ response : EventBatchResponse,
      decoder.fromSlice (utf8 response.encode) = .ok response)
    {result : WireResult EventBatchResponse} {connection : Connection}
    (h : connection.Brings (answerWith EventBatchResponse.encode result)
      maxEventsResponseBytes) :
    attemptResult (postOver decoder connection) = attemptResult (answerTo result none) := by
  rw [postOver, h.reply_eq]
  cases result with
  | ok response =>
      rw [answerWith, hdecode]
      rfl
  | error error =>
      have hstatus := Bool.eq_false_iff.mp (not_isSuccess_errorStatus error)
      exact (if_neg hstatus).trans (if_neg hstatus).symm

theorem errorStatus_ne (error : WireError) : errorStatus error ≠ 304 ∧ errorStatus error ≠ 200 := by
  cases error <;> simp [errorStatus]

/-! ## The exchanges -/

/-- A request for the config. -/
def polled (query ifNoneMatch : Option String) : HttpRequest where
  method := .get
  path := "/v1/agents/config"
  query := query
  json := false
  ifNoneMatch := ifNoneMatch
  body := []

/-- The answer to a request for the config tells the agent as much as the operation returned. -/
theorem receiveConfig_of_brings {decoder : Decoder ConfigResponse}
    (hdecode : ∀ response : ConfigResponse,
      decoder.fromSlice (utf8 response.encode) = .ok response)
    {query ifNoneMatch : Option String} {inner : InnerState} {connection : Connection}
    (h : connection.Brings (configAnswer (polled query ifNoneMatch) inner)
      defaultMaxResponseBytes) :
    receiveConfig (connection.reply defaultMaxResponseBytes decoder.fromSlice) =
      receiveConfig (config query ifNoneMatch inner) := by
  rw [h.reply_eq, configAnswer, config]
  dsimp only [polled]
  cases requestedConfig query inner with
  | error error =>
      obtain ⟨hunmodified, hok⟩ := errorStatus_ne error
      exact ((if_neg hunmodified).trans (if_neg hok)).trans
        ((if_neg hunmodified).trans (if_neg hok)).symm
  | ok config =>
      dsimp only
      by_cases hmatches : ifNoneMatchMatches ifNoneMatch (quotedEtag config.configHash)
      · simp only [hmatches, if_true]
        rfl
      · simp only [hmatches, Bool.false_eq_true, if_false, hdecode]

/-- A body is posted on a connection that brings the answer to it. -/
structure Connection.Posts (framework : Framework) (now : SystemTime) (inner : InnerState)
    (path : String) (body : List UInt8) (maxResponseBytes : ℕ) (connection : Connection) :
    Prop where
  fits : body.length ≤ maxRequestBodyBytes
  brings : connection.Brings (route framework now (posted path body) inner).2 maxResponseBytes

section

variable {framework : Framework} {format : FloatFormat} {rounded : UInt64 → UInt64}
  (hframework : framework.ReadsBack format rounded) {decoders : Decoders}
  (hdecoders : decoders.ReadBack) {now : SystemTime} {inner : InnerState}
  {connection : Connection}
include hframework hdecoders

theorem helloOnce_posts (controller : ControllerConfig) (kernelRelease arch : String)
    (h : connection.Posts framework now inner "/v1/agents/hello"
      (utf8 (buildHelloRequest controller kernelRelease arch).encode) maxHelloResponseBytes) :
    helloOnce decoders.hello controller kernelRelease arch connection =
      ((buildHelloRequest controller kernelRelease arch).validate.mapError
        .invalidRequest).bind fun _ => learned HelloResponse.validate
          (registerAgent (buildHelloRequest controller kernelRelease arch) now inner).2 := by
  have hbrings := h.brings
  rw [route_helloRequest hframework now inner h.fits] at hbrings
  have hlearned := acceptReply_of_brings HelloResponse.validate hdecoders.hello hbrings
  rw [helloOnce]
  exact congrArg _ (funext fun _ => hlearned)

theorem heartbeatOnce_posts (controller : ControllerConfig) (uptimeSeconds : UInt64)
    (counters : HeartbeatCounters) (applied : Option AppliedConfigIdentity)
    (h : connection.Posts framework now inner "/v1/agents/heartbeat"
      (utf8 (buildHeartbeatRequest controller uptimeSeconds counters applied).encode)
      maxHeartbeatResponseBytes) :
    heartbeatOnce decoders.heartbeat controller uptimeSeconds counters applied connection =
      ((buildHeartbeatRequest controller uptimeSeconds counters applied).validate.mapError
        .invalidRequest).bind fun _ => learned HeartbeatResponse.validate
          (recordHeartbeat (buildHeartbeatRequest controller uptimeSeconds counters applied) now
            inner).2 := by
  have hbrings := h.brings
  rw [route_heartbeatRequest hframework now inner h.fits] at hbrings
  have hlearned := acceptReply_of_brings HeartbeatResponse.validate hdecoders.heartbeat hbrings
  rw [heartbeatOnce]
  exact congrArg _ (funext fun _ => hlearned)

theorem postOver_posts {batch : EventBatchRequest} (hbatch : batch.Writable)
    (h : connection.Posts framework now inner "/v1/events" (batch.toVec format)
      maxEventsResponseBytes) :
    attemptResult (postOver decoders.events connection) =
      attemptResult (answerTo (recordEventBatch batch inner).2 none) := by
  have hbrings := h.brings
  rw [route_eventBatchRequest hframework now inner hbatch h.fits] at hbrings
  exact attemptResult_of_brings hdecoders.events hbrings

end

theorem fetchOver_polled {decoders : Decoders} (hdecoders : decoders.ReadBack)
    {framework : Framework} {now : SystemTime} {inner : InnerState} {connection : Connection}
    (s : AgentState) (query ifNoneMatch : Option String) (ok : ConfigCarrier → Bool)
    (receiver : Bool)
    (h : connection.Brings (route framework now (polled query ifNoneMatch) inner).2
      defaultMaxResponseBytes) :
    fetchOver decoders.config s connection ok receiver =
      fetchOnce s (config query ifNoneMatch inner) ok receiver := by
  have hreceived := receiveConfig_of_brings hdecoders.config h
  rw [fetchOver, fetchOnce, hreceived, fetchOnce]

/-- **An exchange is a call.** Where the texts are read that were written, the agent learns over
a connection that brings the answer what the operation of the controller came to, and the
operation has had its effect. -/
theorem exchange_is_call {framework : Framework} {format : FloatFormat}
    {rounded : UInt64 → UInt64} (hframework : framework.ReadsBack format rounded)
    {decoders : Decoders} (hdecoders : decoders.ReadBack) (now : SystemTime)
    (inner : InnerState) (connection : Connection) :
    (∀ controller kernelRelease arch,
      let req := buildHelloRequest controller kernelRelease arch
      connection.Posts framework now inner "/v1/agents/hello" (utf8 req.encode)
          maxHelloResponseBytes →
        helloOnce decoders.hello controller kernelRelease arch connection =
          ((req.validate.mapError .invalidRequest).bind fun _ =>
            learned HelloResponse.validate (registerAgent req now inner).2) ∧
        (route framework now (posted "/v1/agents/hello" (utf8 req.encode)) inner).1 =
          (registerAgent req now inner).1) ∧
    (∀ controller uptimeSeconds counters applied,
      let req := buildHeartbeatRequest controller uptimeSeconds counters applied
      connection.Posts framework now inner "/v1/agents/heartbeat" (utf8 req.encode)
          maxHeartbeatResponseBytes →
        heartbeatOnce decoders.heartbeat controller uptimeSeconds counters applied connection =
          ((req.validate.mapError .invalidRequest).bind fun _ =>
            learned HeartbeatResponse.validate (recordHeartbeat req now inner).2) ∧
        (route framework now (posted "/v1/agents/heartbeat" (utf8 req.encode)) inner).1 =
          (recordHeartbeat req now inner).1) ∧
    (∀ batch : EventBatchRequest, batch.Writable →
      connection.Posts framework now inner "/v1/events" (batch.toVec format)
          maxEventsResponseBytes →
        attemptResult (postOver decoders.events connection) =
          attemptResult (answerTo (recordEventBatch batch inner).2 none) ∧
        (route framework now (posted "/v1/events" (batch.toVec format)) inner).1 =
          (recordEventBatch batch inner).1) ∧
    ∀ s query ifNoneMatch ok receiver,
      connection.Brings (route framework now (polled query ifNoneMatch) inner).2
          defaultMaxResponseBytes →
        fetchOver decoders.config s connection ok receiver =
          fetchOnce s (config query ifNoneMatch inner) ok receiver := by
  refine ⟨?_, ?_, ?_, ?_⟩
  · intro controller kernelRelease arch req h
    exact ⟨helloOnce_posts hframework hdecoders controller kernelRelease arch h,
      by rw [route_helloRequest hframework now inner h.fits]⟩
  · intro controller uptimeSeconds counters applied req h
    exact ⟨heartbeatOnce_posts hframework hdecoders controller uptimeSeconds counters applied h,
      by rw [route_heartbeatRequest hframework now inner h.fits]⟩
  · intro batch hbatch h
    exact ⟨postOver_posts hframework hdecoders hbatch h,
      by rw [route_eventBatchRequest hframework now inner hbatch h.fits]⟩
  · exact fun s query ifNoneMatch ok receiver =>
      fetchOver_polled hdecoders s query ifNoneMatch ok receiver

/-! ## A conversation -/

/-- A decoder that reads strictly. -/
def Decoder.strict {β : Type} (read : Reader β) : Decoder β where
  fromSlice body :=
    match fromSliceStrict stalledRead read body with
    | some response => .ok response
    | none => .error ""
  jsonText := by
    intro body response h
    split at h
    · next found hread =>
        obtain ⟨text, htext, hvalue⟩ := Option.bind_eq_some_iff.mp hread
        obtain ⟨v, hparse, -⟩ := Option.bind_eq_some_iff.mp hvalue
        have hjson := jsonText_of_parse hparse
        rwa [utf8_of_fromUTF8? htext] at hjson
    · cases h

theorem Decoder.fromSlice_strict {β : Type} {read : Reader β} {body : List UInt8} {response : β}
    (h : fromSliceStrict stalledRead read body = some response) :
    (Decoder.strict read).fromSlice body = .ok response := by
  simp only [strict, h]

def strictDecoders : Decoders where
  hello := .strict HelloResponse.deserialize
  heartbeat := .strict HeartbeatResponse.deserialize
  events := .strict EventBatchResponse.deserialize
  config := .strict ConfigResponse.deserialize

theorem readBack_strictDecoders : strictDecoders.ReadBack := by
  have hhello : strictDecoders.hello = .strict HelloResponse.deserialize := rfl
  have hheartbeat : strictDecoders.heartbeat = .strict HeartbeatResponse.deserialize := rfl
  have hevents : strictDecoders.events = .strict EventBatchResponse.deserialize := rfl
  have hconfig : strictDecoders.config = .strict ConfigResponse.deserialize := rfl
  constructor
  · intro res
    rw [hhello, Decoder.fromSlice_strict res.fromSliceStrict_encode]
  · intro res
    rw [hheartbeat, Decoder.fromSlice_strict res.fromSliceStrict_encode]
  · intro res
    rw [hevents, Decoder.fromSlice_strict res.fromSliceStrict_encode]
  · intro res
    rw [hconfig, Decoder.fromSlice_strict res.fromSliceStrict_encode]

/-- A connection that brings an answer with the body. -/
def wholeConnection (body : List UInt8) : Connection := ⟨[(okAnswer body).bytes], .closed⟩

theorem length_okAnswer (body : List UInt8) : (okAnswer body).bytes.length = body.length + 24 := by
  have hstatusLine : (okAnswer body).statusLine.length = 15 := by
    have hversion : (utf8 ("HTTP/1.1 ".toList ++ Nat.toDigits 10 200)).length = 12 := by
      decide +kernel
    rw [FullResponse.statusLine, List.length_append]
    exact congrArg (· + 3) hversion
  have hheaders : (okAnswer body).headers = [[88, 58, 49]] := rfl
  have hbody : (okAnswer body).body = body := rfl
  rw [FullResponse.bytes, hheaders, hbody]
  simp [hstatusLine, crlf]
  omega

theorem brings_wholeConnection (etag : Option String) {body : List Char} {maxResponseBytes : ℕ}
    (hmax : (utf8 body).length + 24 ≤ maxResponseBytes) :
    (wholeConnection (utf8 body)).Brings ⟨200, etag, body⟩ maxResponseBytes := by
  have hreason : ∀ b ∈ ([32, 79, 75] : List UInt8), b.toNat < 128 := by simp
  have hheaders : ∀ header ∈ ([[88, 58, 49]] : List (List UInt8)), ∀ b ∈ header,
      b.toNat < 128 := by simp
  refine ⟨okAnswer (utf8 body), ⟨?_, ?_, .inl rfl, hreason, hheaders⟩, rfl, rfl,
    by rwa [length_okAnswer]⟩
  · exact List.append_nil _
  · refine List.forall_mem_singleton.mpr fun hnil => ?_
    have hlength := length_okAnswer (utf8 body)
    rw [hnil] at hlength
    cases hlength

theorem posts_wholeConnection {framework : Framework} {now : SystemTime} {inner : InnerState}
    {path : String} {body : List UInt8} {answer : List Char} {maxResponseBytes : ℕ}
    (hfits : body.length ≤ maxRequestBodyBytes)
    (hanswer : (route framework now (posted path body) inner).2 = ⟨200, none, answer⟩)
    (hmax : (utf8 answer).length + 24 ≤ maxResponseBytes) :
    (wholeConnection (utf8 answer)).Posts framework now inner path body maxResponseBytes :=
  ⟨hfits, hanswer ▸ brings_wholeConnection none hmax⟩

def workerOne : ControllerConfig := ⟨"node/worker-1", "worker-1"⟩

/-- What a controller serves that is not given a profile. -/
def served : ConfigResponse :=
  { ConfigResponse.defaultV1 with
    configHash := "sha256:845b719f50052b222e79a6f0a9e091e4fe5cc62f8049f7a9089cf20175f5ddef" }

def workerHello : HelloRequest := buildHelloRequest workerOne "6.8.0-45-generic" "x86_64"

def welcome : HelloResponse := .fromConfig controllerId served

/-- The heartbeat of an agent that has applied what is served. -/
def workerHeartbeat : HeartbeatRequest :=
  buildHeartbeatRequest workerOne 30 zeroHeartbeatCounters (some ⟨"1", served.configHash, 15⟩)

def heard : HeartbeatResponse := .ofAccepted "1"

def counted : EventBatchResponse := ⟨"tapio-wire/v1", 2, 0, "1"⟩

/-- The controller before the hello, after it and after the heartbeat. -/
def unvisited : InnerState := InnerState.new served 0

def greeted : InnerState := (registerAgent workerHello 1000000000 unvisited).1

def reported : InnerState := (recordHeartbeat workerHeartbeat 31000000000 greeted).1

theorem registerAgent_workerHello :
    (registerAgent workerHello 1000000000 unvisited).2 = .ok welcome := by
  rfl

theorem recordHeartbeat_workerHeartbeat :
    (recordHeartbeat workerHeartbeat 31000000000 greeted).2 = .ok heard := by
  rfl

theorem recordEventBatch_fifthBatch : (recordEventBatch fifthBatch reported).2 = .ok counted := by
  rfl

theorem length_workerHello : (utf8 workerHello.encode).length ≤ maxRequestBodyBytes :=
  length_utf8_le (by decide +kernel)

theorem length_workerHeartbeat : (utf8 workerHeartbeat.encode).length ≤ maxRequestBodyBytes :=
  length_utf8_le (by decide +kernel)

theorem length_welcome : (utf8 welcome.encode).length + 24 ≤ maxHelloResponseBytes :=
  Nat.add_le_of_le_sub (by decide) (length_utf8_le (by decide +kernel))

theorem length_heard : (utf8 heard.encode).length + 24 ≤ maxHeartbeatResponseBytes :=
  Nat.add_le_of_le_sub (by decide) (length_utf8_le (by decide +kernel))

theorem length_counted : (utf8 counted.encode).length + 24 ≤ maxEventsResponseBytes :=
  Nat.add_le_of_le_sub (by decide) (length_utf8_le (by decide +kernel))

theorem length_served : (utf8 served.encode).length + 24 ≤ defaultMaxResponseBytes :=
  Nat.add_le_of_le_sub (by decide) (length_utf8_le (by decide +kernel))

theorem readsBack_stalledFramework : stalledFramework.ReadsBack stalledFormat stalledRounded :=
  Framework.readsBack_strict text_stalledRounded readable_stalledRounded _

theorem posts_workerHello :
    (wholeConnection (utf8 welcome.encode)).Posts stalledFramework 1000000000 unvisited
      "/v1/agents/hello" (utf8 workerHello.encode) maxHelloResponseBytes := by
  refine posts_wholeConnection length_workerHello ?_ length_welcome
  rw [route_helloRequest readsBack_stalledFramework _ _ length_workerHello,
    registerAgent_workerHello]
  rfl

theorem posts_workerHeartbeat :
    (wholeConnection (utf8 heard.encode)).Posts stalledFramework 31000000000 greeted
      "/v1/agents/heartbeat" (utf8 workerHeartbeat.encode) maxHeartbeatResponseBytes := by
  refine posts_wholeConnection length_workerHeartbeat ?_ length_heard
  rw [route_heartbeatRequest readsBack_stalledFramework _ _ length_workerHeartbeat,
    recordHeartbeat_workerHeartbeat]
  rfl

theorem writable_fifthBatch : fifthBatch.Writable :=
  List.forall_mem_cons.mpr ⟨writable_of_sentAs sentAs_abnormalExitEvent,
    List.forall_mem_singleton.mpr (writable_of_sentAs sentAs_stalledEvent)⟩

theorem posts_fifthBatch :
    (wholeConnection (utf8 counted.encode)).Posts stalledFramework 32000000000 reported
      "/v1/events" (fifthBatch.toVec stalledFormat) maxEventsResponseBytes := by
  refine posts_wholeConnection length_fifthBatch ?_ length_counted
  rw [route_eventBatchRequest readsBack_stalledFramework _ _ writable_fifthBatch
    length_fifthBatch, recordEventBatch_fifthBatch]
  rfl

theorem requestedConfig_reported : requestedConfig agentQuery reported = .ok served := by
  rfl

theorem brings_served :
    (wholeConnection (utf8 served.encode)).Brings
      (route stalledFramework 33000000000 (polled agentQuery none) reported).2
      defaultMaxResponseBytes := by
  have hroute : (route stalledFramework 33000000000 (polled agentQuery none) reported).2 =
      configAnswer (polled agentQuery none) reported := rfl
  have hvisible : isVisibleAscii (quotedEtag served.configHash) := by decide +kernel
  have hanswer : configAnswer (polled agentQuery none) reported =
      ⟨200, some (quotedEtag served.configHash), served.encode⟩ := by
    have hrequested : requestedConfig (polled agentQuery none).query reported = .ok served :=
      requestedConfig_reported
    simp only [configAnswer, hrequested, hvisible, if_true]
    rfl
  rw [hroute, hanswer]
  exact brings_wholeConnection _ length_served

theorem exchange_is_call_conversation :
    helloOnce strictDecoders.hello workerOne "6.8.0-45-generic" "x86_64"
        (wholeConnection (utf8 welcome.encode)) = .ok welcome ∧
      heartbeatOnce strictDecoders.heartbeat workerOne 30 zeroHeartbeatCounters
          (some ⟨"1", served.configHash, 15⟩) (wholeConnection (utf8 heard.encode)) =
        .ok heard ∧
      attemptResult (postOver strictDecoders.events (wholeConnection (utf8 counted.encode))) =
        .ok (.ok counted) ∧
      (fetchOver strictDecoders.config (unconfigured storageKernel [] .default)
        (wholeConnection (utf8 served.encode)) (fun _ => true) true).2 =
          .ok (.applied 1 served.configHash 15) := by
  have hexchange := @exchange_is_call _ _ _ readsBack_stalledFramework _ readBack_strictDecoders
  refine ⟨?_, ?_, ?_, ?_⟩
  · refine ((hexchange _ _ _).1 workerOne "6.8.0-45-generic" "x86_64"
      posts_workerHello).1.trans ?_
    exact congrArg (learned HelloResponse.validate) registerAgent_workerHello
  · refine ((hexchange _ _ _).2.1 workerOne 30 zeroHeartbeatCounters _
      posts_workerHeartbeat).1.trans ?_
    exact congrArg (learned HeartbeatResponse.validate) recordHeartbeat_workerHeartbeat
  · refine ((hexchange _ _ _).2.2.1 fifthBatch writable_fifthBatch posts_fifthBatch).1.trans ?_
    rw [recordEventBatch_fifthBatch]
    rfl
  · refine (congrArg Prod.snd ((hexchange _ _ _).2.2.2 _ agentQuery none _ true
      brings_served)).trans ?_
    rw [config, requestedConfig_reported]
    rfl

end Tapio.Agent
