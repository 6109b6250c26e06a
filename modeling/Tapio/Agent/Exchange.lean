/-
# The agent's requests over a connection

A hello, a heartbeat, a poll for the config and a batch of events, each as an exchange
with the controller over one connection. An answer that is cut off is an error of the
exchange, whatever it was to be and wherever it is cut.
-/
import Tapio.Agent.Httpc
import Tapio.Agent.Poll
import Tapio.Agent.Registration
import Tapio.Sink.Controller
import Tapio.Wire.ResponseEncoding

namespace Tapio.Agent

open Json Sink Wire

/-! ## The requests -/

def maxHelloResponseBytes : ℕ := 16 * 1024

def maxHeartbeatResponseBytes : ℕ := 16 * 1024

def maxEventsResponseBytes : ℕ := 16 * 1024

def defaultMaxResponseBytes : ℕ := 1024 * 1024

/-- How a body is decoded. Only a JSON text is. -/
structure Decoder (β : Type) where
  fromSlice : List UInt8 → Except String β
  jsonText : ∀ {body : List UInt8} {response : β}, fromSlice body = .ok response → JsonText body

def helloOnce (decoder : Decoder HelloResponse) (controller : ControllerConfig)
    (kernelRelease arch : String) (connection : Connection) :
    Except ExchangeError HelloResponse := do
  (buildHelloRequest controller kernelRelease arch).validate.mapError .invalidRequest
  acceptReply HelloResponse.validate
    (connection.reply maxHelloResponseBytes decoder.fromSlice)

def heartbeatOnce (decoder : Decoder HeartbeatResponse) (controller : ControllerConfig)
    (uptimeSeconds : UInt64) (counters : HeartbeatCounters)
    (applied : Option AppliedConfigIdentity) (connection : Connection) :
    Except ExchangeError HeartbeatResponse := do
  (buildHeartbeatRequest controller uptimeSeconds counters applied).validate.mapError
    .invalidRequest
  acceptReply HeartbeatResponse.validate
    (connection.reply maxHeartbeatResponseBytes decoder.fromSlice)

/-- `fetch_once` over a connection. -/
def fetchOver (decoder : Decoder ConfigResponse) (s : AgentState) (connection : Connection)
    (ok : ConfigCarrier → Bool) (receiver : Bool) :
    AgentState × Except FetchError PollOutcome :=
  fetchOnce s (connection.reply defaultMaxResponseBytes decoder.fromSlice) ok receiver

/-- The answer to one POST of a batch. -/
def postOver (decoder : Decoder EventBatchResponse) (connection : Connection) :
    HttpReply EventBatchResponse :=
  connection.reply maxEventsResponseBytes decoder.fromSlice

/-! ## Answers that are cut off -/

/-- What the controller answers: under a success status the response object, or no body,
and no body under status 304. -/
structure Answers {β : Type} (encode : β → List Char) (full : FullResponse) : Prop where
  success : isSuccess full.status → full.body = [] ∨ ∃ response, full.body = utf8 (encode response)
  notModified : full.status = 304 → full.body = []

/-- A connection that ends before an answer has arrived. -/
def CutOff {β : Type} (encode : β → List Char) (connection : Connection) : Prop :=
  ∃ full, Answers encode full ∧ connection.Truncates full

section

variable {β : Type} {encode : β → List Char} {connection : Connection}

/-- An answer that is cut off has no success status, or a body that is not decoded, and
its status is not 304. -/
theorem CutOff.reply_cases (h : CutOff encode connection)
    (hencode : ∀ response, Uncut (utf8 (encode response))) (maxResponseBytes : ℕ)
    (decoder : Decoder β) :
    (∃ error, connection.reply maxResponseBytes decoder.fromSlice = .failed error) ∨
      ∃ status body, connection.reply maxResponseBytes decoder.fromSlice =
          .response status body ∧
        status ≠ 304 ∧ (isSuccess status → ∃ error, body = .error error) := by
  obtain ⟨full, hanswers, htruncates⟩ := h
  rcases htruncates.reply_cases maxResponseBytes decoder.fromSlice with
    hfailed | ⟨body, hfront, hproper, hreply⟩
  · exact .inl hfailed
  · refine .inr ⟨full.status, decoder.fromSlice body, hreply, ?_, ?_⟩
    · intro hstatus
      rw [hanswers.notModified hstatus] at hfront hproper
      exact hproper (List.prefix_nil.mp hfront)
    · intro hsuccess
      rcases hanswers.success hsuccess with hnone | ⟨response, hbody⟩
      · rw [hnone] at hfront hproper
        exact absurd (List.prefix_nil.mp hfront) hproper
      · rw [hbody] at hfront hproper
        cases hdecoded : decoder.fromSlice body with
        | error e => exact ⟨e, rfl⟩
        | ok found =>
            exact absurd (decoder.jsonText hdecoded) (hencode response body hfront hproper)

theorem CutOff.acceptReply_error (h : CutOff encode connection)
    (hencode : ∀ response, Uncut (utf8 (encode response))) (maxResponseBytes : ℕ)
    (decoder : Decoder β) (validate : β → WireResult Unit) :
    ∃ error, acceptReply validate (connection.reply maxResponseBytes decoder.fromSlice) =
      .error error := by
  rcases h.reply_cases hencode maxResponseBytes decoder with
    ⟨error, hreply⟩ | ⟨status, body, hreply, -, hbody⟩
  · exact ⟨.transport error, by rw [hreply]; rfl⟩
  · rw [hreply, acceptReply]
    split
    · next hsuccess =>
        obtain ⟨error, rfl⟩ := hbody hsuccess
        exact ⟨.decode error, rfl⟩
    · exact ⟨.http status, rfl⟩

/-- Whatever becomes of the request, there is no acceptable answer. -/
theorem CutOff.request_error (h : CutOff encode connection)
    (hencode : ∀ response, Uncut (utf8 (encode response))) (maxResponseBytes : ℕ)
    (decoder : Decoder β) (validate : β → WireResult Unit) (request : WireResult Unit) :
    ∃ error, (do
      request.mapError .invalidRequest
      acceptReply validate (connection.reply maxResponseBytes decoder.fromSlice)) =
        (.error error : Except ExchangeError β) := by
  obtain ⟨error, hreply⟩ := h.acceptReply_error hencode maxResponseBytes decoder validate
  rw [hreply]
  cases request with
  | error e => exact ⟨.invalidRequest e, rfl⟩
  | ok _ => exact ⟨error, rfl⟩

end

theorem helloOnce_cutOff (decoder : Decoder HelloResponse) (controller : ControllerConfig)
    (kernelRelease arch : String) {connection : Connection}
    (h : CutOff HelloResponse.encode connection) :
    ∃ error, helloOnce decoder controller kernelRelease arch connection = .error error := by
  have hencode : ∀ response : HelloResponse, Uncut (utf8 response.encode) :=
    fun response => uncut_encodeObject response.jsonText_fields
  exact h.request_error hencode maxHelloResponseBytes decoder HelloResponse.validate
    (buildHelloRequest controller kernelRelease arch).validate

theorem heartbeatOnce_cutOff (decoder : Decoder HeartbeatResponse)
    (controller : ControllerConfig) (uptimeSeconds : UInt64) (counters : HeartbeatCounters)
    (applied : Option AppliedConfigIdentity) {connection : Connection}
    (h : CutOff HeartbeatResponse.encode connection) :
    ∃ error, heartbeatOnce decoder controller uptimeSeconds counters applied connection =
      .error error := by
  have hencode : ∀ response : HeartbeatResponse, Uncut (utf8 response.encode) :=
    fun response => uncut_encodeObject response.jsonText_fields
  exact h.request_error hencode maxHeartbeatResponseBytes decoder HeartbeatResponse.validate
    (buildHeartbeatRequest controller uptimeSeconds counters applied).validate

/-- Nothing is applied either. -/
theorem fetchOver_cutOff (decoder : Decoder ConfigResponse) (s : AgentState)
    (ok : ConfigCarrier → Bool) (receiver : Bool) {connection : Connection}
    (h : CutOff ConfigResponse.encode connection) :
    ∃ error, fetchOver decoder s connection ok receiver = (s, .error error) := by
  have hreceive : ∃ error, receiveConfig
      (connection.reply defaultMaxResponseBytes decoder.fromSlice) = .error error := by
    rcases h.reply_cases (fun response => uncut_encodeObject response.jsonText_fields)
      defaultMaxResponseBytes decoder with
      ⟨error, hreply⟩ | ⟨status, body, hreply, hstatus, hbody⟩
    · exact ⟨.transport error, by rw [hreply]; rfl⟩
    · rw [hreply, receiveConfig, if_neg hstatus]
      split
      · next hok =>
          obtain ⟨error, rfl⟩ := hbody (hok ▸ rfl)
          exact ⟨.rejected (.decode error), rfl⟩
      · exact ⟨_, rfl⟩
  obtain ⟨error, hreceive⟩ := hreceive
  exact ⟨error, by rw [fetchOver, fetchOnce, hreceive]⟩

/-- One attempt to post a batch does not deliver it. -/
theorem attemptResult_cutOff (decoder : Decoder EventBatchResponse) {connection : Connection}
    (h : CutOff EventBatchResponse.encode connection) (response : EventBatchResponse) :
    attemptResult (postOver decoder connection) ≠ .ok (.ok response) := by
  rw [postOver]
  rcases h.reply_cases (fun response => uncut_encodeObject response.jsonText_fields)
    maxEventsResponseBytes decoder with
    ⟨error, hreply⟩ | ⟨status, body, hreply, -, hbody⟩
  · rw [hreply]
    nofun
  · rw [hreply, attemptResult]
    split
    · next hsuccess =>
        obtain ⟨error, rfl⟩ := hbody hsuccess
        nofun
    · nofun

/-- Without an answer that is accepted, all attempts together fail. -/
theorem postAttempts_error {replies : ℕ → HttpReply EventBatchResponse}
    (h : ∀ attempt response, attemptResult (replies attempt) ≠ .ok (.ok response))
    (attempt retries : ℕ) :
    ∃ error, (postAttempts replies attempt retries).result = .error error := by
  induction retries generalizing attempt with
  | zero =>
      rw [postAttempts]
      split
      · next response hattempt =>
          cases response with
          | error e => exact ⟨e, rfl⟩
          | ok response => exact absurd hattempt (h attempt response)
      · next error _ => exact ⟨error, rfl⟩
  | succ retries ih =>
      rw [postAttempts]
      split
      · next response hattempt =>
          cases response with
          | error e => exact ⟨e, rfl⟩
          | ok response => exact absurd hattempt (h attempt response)
      · exact ih (attempt + 1)

theorem sendEventBatch_cutOff (decoder : Decoder EventBatchResponse) (p : SinkParams)
    (s : SinkState) (events : List QueuedEvent) (retry : Bool) (sentAtUnixNanos : UInt64)
    {connections : ℕ → Connection}
    (h : ∀ attempt, CutOff EventBatchResponse.encode (connections attempt)) :
    ∃ error, (s.sendEventBatchWithRetries p events retry sentAtUnixNanos fun attempt =>
      postOver decoder (connections attempt)).2 = .error error := by
  rw [SinkState.sendEventBatchWithRetries, postRequest]
  cases (s.nextRequest p events sentAtUnixNanos).validate usizeMax with
  | error e => exact ⟨.invalidRequest e, rfl⟩
  | ok _ =>
      exact postAttempts_error (fun attempt => attemptResult_cutOff decoder (h attempt)) 0 _

/-- **An answer that is cut off is not acted on.** The hello and the heartbeat are not
accepted, the config is neither applied nor taken as unmodified, and the batch is not
delivered by an attempt, nor by all of them. -/
theorem cutOff_failed (hello : Decoder HelloResponse) (heartbeat : Decoder HeartbeatResponse)
    (config : Decoder ConfigResponse) (events : Decoder EventBatchResponse) :
    (∀ controller kernelRelease arch connection, CutOff HelloResponse.encode connection →
      ∃ error, helloOnce hello controller kernelRelease arch connection = .error error) ∧
    (∀ controller uptimeSeconds counters applied connection,
      CutOff HeartbeatResponse.encode connection →
      ∃ error, heartbeatOnce heartbeat controller uptimeSeconds counters applied connection =
        .error error) ∧
    (∀ s ok receiver connection, CutOff ConfigResponse.encode connection →
      ∃ error, fetchOver config s connection ok receiver = (s, .error error)) ∧
    (∀ connection, CutOff EventBatchResponse.encode connection →
      ∀ response, attemptResult (postOver events connection) ≠ .ok (.ok response)) ∧
    ∀ p s queued retry sentAtUnixNanos (connections : ℕ → Connection),
      (∀ attempt, CutOff EventBatchResponse.encode (connections attempt)) →
      ∃ error, (SinkState.sendEventBatchWithRetries p s queued retry sentAtUnixNanos
        fun attempt => postOver events (connections attempt)).2 = .error error := by
  refine ⟨?_, ?_, ?_, ?_, ?_⟩
  · exact fun controller kernelRelease arch _ =>
      helloOnce_cutOff hello controller kernelRelease arch
  · exact fun controller uptimeSeconds counters applied _ =>
      heartbeatOnce_cutOff heartbeat controller uptimeSeconds counters applied
  · exact fun s ok receiver _ => fetchOver_cutOff config s ok receiver
  · exact fun _ => attemptResult_cutOff events
  · exact fun p s queued retry sentAtUnixNanos _ =>
      sendEventBatch_cutOff events p s queued retry sentAtUnixNanos

/-! ## Answers without their last byte -/

/-- A decoder that knows one text. -/
def Decoder.only {β : Type} (encode : β → List Char) (response : β)
    (h : JsonText (utf8 (encode response))) : Decoder β where
  fromSlice body :=
    if body = utf8 (encode response) then .ok response else .error "EOF while parsing an object"
  jsonText := by
    intro body found hdecoded
    split at hdecoded
    · next hbody => exact hbody ▸ h
    · cases hdecoded

def okAnswer (body : List UInt8) : FullResponse where
  status := 200
  reason := [32, 79, 75]
  headers := [[88, 58, 49]]
  body := body
  status_range := by decide
  reason_line := by decide
  header_line := by decide

/-- With its last byte an answer is read. -/
example :
    (readResponse maxHelloResponseBytes ⟨[(okAnswer [123, 125]).bytes], .closed⟩).toOption.map
      (fun response => (response.status, response.body)) = some (200, [123, 125]) := by
  decide +kernel

/-- A connection that is reset before the last byte. -/
def lastByteLost (full : FullResponse) : Connection :=
  ⟨[full.bytes.dropLast], .reset "Connection reset by peer (os error 104)"⟩

theorem lastByteLost_truncates (full : FullResponse) : (lastByteLost full).Truncates full := by
  have hlength : 4 ≤ full.bytes.length := by
    simp [FullResponse.bytes, crlf]
    omega
  have hshorter : full.bytes.dropLast.length + 1 = full.bytes.length := by
    rw [List.length_dropLast]
    omega
  constructor
  · simpa [lastByteLost] using List.dropLast_prefix full.bytes
  · intro hsame
    have hflatten : full.bytes.dropLast = full.bytes := by simpa [lastByteLost] using hsame
    rw [hflatten] at hshorter
    omega
  · intro chunk hchunk hnil
    rw [List.mem_singleton.mp hchunk] at hnil
    rw [hnil] at hshorter
    simp at hshorter
    omega
  · exact .inr ⟨⟨_, rfl⟩, List.cons_ne_nil _ _⟩

theorem cutOff_lastByteLost {β : Type} (encode : β → List Char) (response : β) :
    CutOff encode (lastByteLost (okAnswer (utf8 (encode response)))) := by
  refine ⟨_, ⟨fun _ => .inr ⟨response, rfl⟩, ?_⟩, lastByteLost_truncates _⟩
  intro hstatus
  cases hstatus

/-- The answers to the built-in config, each without its last byte. -/
theorem cutOff_failed_lastByteLost :
    let config := ConfigResponse.defaultV1
    let hello := HelloResponse.fromConfig "controller" config
    let heartbeat := HeartbeatResponse.ofAccepted "1"
    let events : EventBatchResponse := ⟨wireVersion, 1, 0, "1"⟩
    (∃ error, helloOnce (.only HelloResponse.encode hello
        (jsonText_encodeObject hello.jsonText_fields)) ⟨"agent", "node"⟩ "6.8" "x86_64"
        (lastByteLost (okAnswer (utf8 hello.encode))) = .error error) ∧
      (∃ error, heartbeatOnce (.only HeartbeatResponse.encode heartbeat
        (jsonText_encodeObject heartbeat.jsonText_fields)) ⟨"agent", "node"⟩ 60
        ⟨0, 0, 0, 0, 0, 0⟩ none
        (lastByteLost (okAnswer (utf8 heartbeat.encode))) = .error error) ∧
      (∃ error, (fetchOver (.only ConfigResponse.encode config
        (jsonText_encodeObject config.jsonText_fields))
        ⟨.boot, .default, pmcThresholdsFromCompiled config.config, none, "0", none⟩
        (lastByteLost (okAnswer (utf8 config.encode))) (fun _ => true) true).2 =
          .error error) ∧
      ∀ response, attemptResult (postOver (.only EventBatchResponse.encode events
        (jsonText_encodeObject events.jsonText_fields))
        (lastByteLost (okAnswer (utf8 events.encode)))) ≠ .ok (.ok response) := by
  intro config hello heartbeat events
  obtain ⟨hhello, hheartbeat, hfetch, hattempt, -⟩ := cutOff_failed
    (.only HelloResponse.encode hello (jsonText_encodeObject hello.jsonText_fields))
    (.only HeartbeatResponse.encode heartbeat (jsonText_encodeObject heartbeat.jsonText_fields))
    (.only ConfigResponse.encode config (jsonText_encodeObject config.jsonText_fields))
    (.only EventBatchResponse.encode events (jsonText_encodeObject events.jsonText_fields))
  refine ⟨hhello _ _ _ _ (cutOff_lastByteLost _ hello),
    hheartbeat _ _ _ _ _ (cutOff_lastByteLost _ heartbeat), ?_,
    hattempt _ (cutOff_lastByteLost _ events)⟩
  obtain ⟨error, hfetch⟩ := hfetch _ _ _ _ (cutOff_lastByteLost _ config)
  exact ⟨error, congrArg Prod.snd hfetch⟩

end Tapio.Agent
