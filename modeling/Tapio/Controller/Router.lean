/-
# The controller over HTTP

Which operation a request reaches, how its body is read, and the status and the body of the
answer. A request either amounts to one call of an operation, and then does what the call
does, or to none, and then it leaves the state as it is.
-/
import Tapio.Controller.Calls
import Tapio.Controller.ConfigEndpoint
import Tapio.Sink.BodySize
import Tapio.Wire.Floats
import Tapio.Wire.StatusEncoding

namespace Tapio.Controller

open Wire Sink Json

/-! ## Requests and answers -/

inductive Method
  | get
  | head
  | post
  | other
  deriving DecidableEq

/-- A request as the routes see it. -/
structure HttpRequest where
  method : Method
  path : String
  query : Option String
  /-- Whether the content type is that of JSON. -/
  json : Bool
  ifNoneMatch : Option String
  body : List UInt8

structure HttpAnswer where
  status : ℕ
  etag : Option String
  body : List Char

/-- The framework: how it reads the bodies, and what it says of one that it does not read. -/
structure Framework where
  readHello : List UInt8 → Option HelloRequest
  readHeartbeat : List UInt8 → Option HeartbeatRequest
  readEvents : List UInt8 → Option EventBatchRequest
  rejection : List UInt8 → String

inductive ApiError
  | wire (error : WireError)
  | malformedJson (message : String)
  | payloadTooLarge (message : String)

def ApiError.status : ApiError → ℕ
  | .wire error => errorStatus error
  | .malformedJson _ => 400
  | .payloadTooLarge _ => 413

def errorEnvelope : WireError → String × String
  | .unsupportedVersion version => ("UNSUPPORTED_VERSION", "unsupported wire version " ++ version)
  | .missingField field => ("MISSING_FIELD", field ++ " is required")
  | .invalidField field reason => ("INVALID_FIELD", field ++ ": " ++ reason)
  | .reasoningField field =>
      ("REASONING_FIELD", "event facts contain reasoning field " ++ field)

def encodeEnvelope (code message : String) : List Char :=
  encodeObject [
    ("error", encodeObject [("code", encodeString code), ("message", encodeString message)])]

def ApiError.body : ApiError → List Char
  | .wire error => encodeEnvelope (errorEnvelope error).1 (errorEnvelope error).2
  | .malformedJson message => encodeEnvelope "MALFORMED_JSON" message
  | .payloadTooLarge message => encodeEnvelope "PAYLOAD_TOO_LARGE" message

def ApiError.answer (error : ApiError) : HttpAnswer := ⟨error.status, none, error.body⟩

/-- The content type is looked at first, then the length of the body, then the body. -/
def jsonPayload {α : Type} (framework : Framework) (read : List UInt8 → Option α)
    (request : HttpRequest) : Except ApiError α :=
  if request.json = false then .error (.malformedJson (framework.rejection request.body))
  else if maxRequestBodyBytes < request.body.length then
    .error (.payloadTooLarge (framework.rejection request.body))
  else
    match read request.body with
    | none => .error (.malformedJson (framework.rejection request.body))
    | some payload => .ok payload

/-- An answer with the response of an operation. -/
def answerWith {β : Type} (encode : β → List Char) : WireResult β → HttpAnswer
  | .ok response => ⟨200, none, encode response⟩
  | .error error => (ApiError.wire error).answer

/-- A handler that reads a payload and calls an operation with it. -/
def withPayload {α β : Type} (framework : Framework) (read : List UInt8 → Option α)
    (encode : β → List Char) (operation : α → InnerState → InnerState × WireResult β)
    (request : HttpRequest) (inner : InnerState) : InnerState × HttpAnswer :=
  match jsonPayload framework read request with
  | .error error => (inner, error.answer)
  | .ok payload =>
      ((operation payload inner).1, answerWith encode (operation payload inner).2)

/-! ## The routes -/

/-- The answer to a request for the config. The tag is left out if no header can hold it. -/
def configAnswer (request : HttpRequest) (inner : InnerState) : HttpAnswer :=
  match requestedConfig request.query inner with
  | .error error => (ApiError.wire error).answer
  | .ok config =>
      let etag := quotedEtag config.configHash
      let tag := if isVisibleAscii etag then some etag else none
      if ifNoneMatchMatches request.ifNoneMatch etag then ⟨304, tag, []⟩
      else ⟨200, tag, config.encode⟩

def methodNotAllowed : HttpAnswer := ⟨405, none, []⟩

def notFound : HttpAnswer :=
  ⟨404, none, encodeEnvelope "UNKNOWN_ENDPOINT" "unknown tapio-controller endpoint"⟩

/-- A route for GET is one for HEAD, too, and answers that without the body. -/
def getOnly (method : Method) (answer : HttpAnswer) : HttpAnswer :=
  match method with
  | .get => answer
  | .head => { answer with body := [] }
  | _ => methodNotAllowed

def route (framework : Framework) (now : SystemTime) (request : HttpRequest)
    (inner : InnerState) : InnerState × HttpAnswer :=
  match request.path with
  | "/v1/agents/hello" =>
      if request.method = .post then
        withPayload framework framework.readHello HelloResponse.encode
          (fun hello => registerAgent hello now) request inner
      else (inner, methodNotAllowed)
  | "/v1/agents/config" => (inner, getOnly request.method (configAnswer request inner))
  | "/v1/agents/heartbeat" =>
      if request.method = .post then
        withPayload framework framework.readHeartbeat HeartbeatResponse.encode
          (fun heartbeat => recordHeartbeat heartbeat now) request inner
      else (inner, methodNotAllowed)
  | "/v1/events" =>
      if request.method = .post then
        withPayload framework framework.readEvents EventBatchResponse.encode recordEventBatch
          request inner
      else (inner, methodNotAllowed)
  | "/v1/status" =>
      (inner, getOnly request.method ⟨200, none, StatusResponse.encode (status now inner)⟩)
  | _ => (inner, notFound)

/-! ## What is posted -/

/-- A body that is posted as JSON. -/
def posted (path : String) (body : List UInt8) : HttpRequest where
  method := .post
  path := path
  query := none
  json := true
  ifNoneMatch := none
  body := body

theorem jsonPayload_posted {α : Type} (framework : Framework) {read : List UInt8 → Option α}
    {body : List UInt8} {payload : α} (hsize : body.length ≤ maxRequestBodyBytes)
    (hread : read body = some payload) (path : String) :
    jsonPayload framework read (posted path body) = .ok payload := by
  have hfits : ¬ maxRequestBodyBytes < (posted path body).body.length := Nat.not_lt.mpr hsize
  have hbody : read (posted path body).body = some payload := hread
  rw [jsonPayload, if_neg (by simp [posted]), if_neg hfits, hbody]

theorem withPayload_posted {α β : Type} (framework : Framework) {read : List UInt8 → Option α}
    (encode : β → List Char) (operation : α → InnerState → InnerState × WireResult β)
    {body : List UInt8} {payload : α} (hsize : body.length ≤ maxRequestBodyBytes)
    (hread : read body = some payload) (path : String) (inner : InnerState) :
    withPayload framework read encode operation (posted path body) inner =
      ((operation payload inner).1, answerWith encode (operation payload inner).2) := by
  rw [withPayload, jsonPayload_posted framework hsize hread]

/-- What was written is read: a hello and a heartbeat as they were, and a batch with its floats
rounded. -/
structure Framework.ReadsBack (framework : Framework) (format : FloatFormat)
    (rounded : UInt64 → UInt64) : Prop where
  hello : ∀ req : HelloRequest, framework.readHello (utf8 req.encode) = some req
  heartbeat : ∀ req : HeartbeatRequest, framework.readHeartbeat (utf8 req.encode) = some req
  events : ∀ req : EventBatchRequest, req.Writable →
    framework.readEvents (req.toVec format) = some (req.mapFloats rounded)

/-- A framework that reads strictly. -/
def Framework.strict (readFloat : List Char → Option UInt64) (rejection : List UInt8 → String) :
    Framework where
  readHello := fromSliceStrict readFloat HelloRequest.deserialize
  readHeartbeat := fromSliceStrict readFloat HeartbeatRequest.deserialize
  readEvents := EventBatchRequest.fromSliceStrict readFloat
  rejection := rejection

theorem Framework.readsBack_strict {format : FloatFormat} {readFloat : List Char → Option UInt64}
    {rounded : UInt64 → UInt64} (htext : ∀ bits, format.text (rounded bits) = format.text bits)
    (hread : ∀ bits, (Number.float (rounded bits)).Readable format readFloat)
    (rejection : List UInt8 → String) :
    (strict readFloat rejection).ReadsBack format rounded := by
  have hevents : (strict readFloat rejection).readEvents =
      EventBatchRequest.fromSliceStrict readFloat := rfl
  refine ⟨HelloRequest.fromSliceStrict_encode, HeartbeatRequest.fromSliceStrict_encode, ?_⟩
  intro req hreq
  rw [hevents]
  exact EventBatchRequest.fromSliceStrict_toVec_mapFloats hreq htext hread

theorem route_hello (framework : Framework) (now : SystemTime) (body : List UInt8)
    (inner : InnerState) :
    route framework now (posted "/v1/agents/hello" body) inner =
      withPayload framework framework.readHello HelloResponse.encode
        (fun hello => registerAgent hello now) (posted "/v1/agents/hello" body) inner := rfl

theorem route_heartbeat (framework : Framework) (now : SystemTime) (body : List UInt8)
    (inner : InnerState) :
    route framework now (posted "/v1/agents/heartbeat" body) inner =
      withPayload framework framework.readHeartbeat HeartbeatResponse.encode
        (fun heartbeat => recordHeartbeat heartbeat now) (posted "/v1/agents/heartbeat" body)
        inner := rfl

theorem route_events (framework : Framework) (now : SystemTime) (body : List UInt8)
    (inner : InnerState) :
    route framework now (posted "/v1/events" body) inner =
      withPayload framework framework.readEvents EventBatchResponse.encode recordEventBatch
        (posted "/v1/events" body) inner := rfl

/-- No operation looks at the floats of a batch. -/
theorem recordEventBatch_mapFloats (rounded : UInt64 → UInt64) (batch : EventBatchRequest)
    (inner : InnerState) :
    recordEventBatch (batch.mapFloats rounded) inner = recordEventBatch batch inner := by
  rw [recordEventBatch, recordEventBatch, EventBatchRequest.validate_mapFloats]
  simp only [EventBatchRequest.mapFloats, List.length_map]

section

variable {framework : Framework} {format : FloatFormat} {rounded : UInt64 → UInt64}
  (hframework : framework.ReadsBack format rounded) (now : SystemTime) (inner : InnerState)
include hframework

theorem route_helloRequest {req : HelloRequest}
    (h : (utf8 req.encode).length ≤ maxRequestBodyBytes) :
    route framework now (posted "/v1/agents/hello" (utf8 req.encode)) inner =
      ((registerAgent req now inner).1,
        answerWith HelloResponse.encode (registerAgent req now inner).2) := by
  rw [route_hello, withPayload_posted framework HelloResponse.encode _ h (hframework.hello req)]

theorem route_heartbeatRequest {req : HeartbeatRequest}
    (h : (utf8 req.encode).length ≤ maxRequestBodyBytes) :
    route framework now (posted "/v1/agents/heartbeat" (utf8 req.encode)) inner =
      ((recordHeartbeat req now inner).1,
        answerWith HeartbeatResponse.encode (recordHeartbeat req now inner).2) := by
  rw [route_heartbeat, withPayload_posted framework HeartbeatResponse.encode _ h
    (hframework.heartbeat req)]

theorem route_eventBatchRequest {batch : EventBatchRequest} (hbatch : batch.Writable)
    (h : (batch.toVec format).length ≤ maxRequestBodyBytes) :
    route framework now (posted "/v1/events" (batch.toVec format)) inner =
      ((recordEventBatch batch inner).1,
        answerWith EventBatchResponse.encode (recordEventBatch batch inner).2) := by
  rw [route_events, withPayload_posted framework EventBatchResponse.encode _ h
    (hframework.events batch hbatch), recordEventBatch_mapFloats]

end

/-! ## What a request amounts to -/

/-- The call of an operation that a request amounts to, if its payload is read. -/
def asCall (framework : Framework) (now : SystemTime) (request : HttpRequest) : Option Request :=
  match request.path with
  | "/v1/agents/hello" =>
      if request.method = .post then
        (jsonPayload framework framework.readHello request).toOption.map fun hello =>
          .hello hello now
      else none
  | "/v1/agents/config" =>
      if request.method = .get ∨ request.method = .head then do
        let agentId ← queryParam request.query "agent_id"
        let nodeName ← queryParam request.query "node_name"
        return .config agentId nodeName
      else none
  | "/v1/agents/heartbeat" =>
      if request.method = .post then
        (jsonPayload framework framework.readHeartbeat request).toOption.map fun heartbeat =>
          .heartbeat heartbeat now
      else none
  | "/v1/events" =>
      if request.method = .post then
        (jsonPayload framework framework.readEvents request).toOption.map .events
      else none
  | "/v1/status" =>
      if request.method = .get ∨ request.method = .head then some (.status now) else none
  | _ => none

/-- What the answer reports of a call: success, or the status of its error. -/
def Reports (status : ℕ) : WireResult Unit → Prop
  | .ok () => status = 200 ∨ status = 304
  | .error error => status = errorStatus error

/-- What a request does: what its call does, or nothing. -/
structure Serves (inner : InnerState) (called : Option Request) (after : InnerState)
    (answer : HttpAnswer) : Prop where
  state : after = (called.map fun request => handle request inner).getD inner
  reports : ∀ request, called = some request → Reports answer.status (request.outcome inner)
  refused : called = none → answer.status ∈ [400, 404, 405, 413]

theorem status_of_jsonPayload_error {α : Type} {framework : Framework}
    {read : List UInt8 → Option α} {request : HttpRequest} {error : ApiError}
    (h : jsonPayload framework read request = .error error) :
    error.status ∈ [400, 404, 405, 413] := by
  rw [jsonPayload] at h
  split_ifs at h
  · cases h
    exact List.mem_cons_self
  · cases h
    simp [ApiError.status]
  · cases hread : read request.body with
    | none =>
        rw [hread] at h
        cases h
        exact List.mem_cons_self
    | some payload =>
        rw [hread] at h
        cases h

theorem reports_answerWith {β : Type} (encode : β → List Char) (result : WireResult β) :
    Reports (answerWith encode result).status (result.map fun _ => ()) := by
  cases result with
  | ok response => exact .inl rfl
  | error error => exact rfl

/-- A payload that is read is what its operation is called with. -/
theorem serves_withPayload {α β : Type} (framework : Framework) (read : List UInt8 → Option α)
    (encode : β → List Char) {operation : α → InnerState → InnerState × WireResult β}
    {toCall : α → Request} {inner : InnerState}
    (hstate : ∀ payload, handle (toCall payload) inner = (operation payload inner).1)
    (houtcome : ∀ payload,
      (toCall payload).outcome inner = (operation payload inner).2.map fun _ => ())
    (request : HttpRequest) :
    Serves inner ((jsonPayload framework read request).toOption.map toCall)
      (withPayload framework read encode operation request inner).1
      (withPayload framework read encode operation request inner).2 := by
  rw [withPayload]
  cases hpayload : jsonPayload framework read request with
  | error error =>
      exact ⟨rfl, nofun, fun _ => status_of_jsonPayload_error hpayload⟩
  | ok payload =>
      refine ⟨(hstate payload).symm, ?_, nofun⟩
      rintro _ ⟨⟩
      rw [houtcome]
      exact reports_answerWith encode _

theorem serves_methodNotAllowed (inner : InnerState) : Serves inner none inner methodNotAllowed :=
  ⟨rfl, nofun, fun _ => by decide⟩

theorem status_getOnly {method : Method} (hmethod : method = .get ∨ method = .head)
    (answer : HttpAnswer) : (getOnly method answer).status = answer.status := by
  rcases hmethod with rfl | rfl <;> rfl

theorem getOnly_of_not {method : Method} (hmethod : ¬ (method = .get ∨ method = .head))
    (answer : HttpAnswer) : getOnly method answer = methodNotAllowed := by
  cases method with
  | get => exact absurd (.inl rfl) hmethod
  | head => exact absurd (.inr rfl) hmethod
  | post => rfl
  | other => rfl

/-- The answer to a request for the config reports the call, or a parameter that is missing. -/
theorem serves_configAnswer (request : HttpRequest) (inner : InnerState) :
    Serves inner
      (do
        let agentId ← queryParam request.query "agent_id"
        let nodeName ← queryParam request.query "node_name"
        return .config agentId nodeName)
      inner (configAnswer request inner) := by
  rw [configAnswer, requestedConfig]
  cases queryParam request.query "agent_id" with
  | none => exact ⟨rfl, nofun, fun _ => List.mem_cons_self⟩
  | some agentId =>
      cases queryParam request.query "node_name" with
      | none => exact ⟨rfl, nofun, fun _ => List.mem_cons_self⟩
      | some nodeName =>
          refine ⟨rfl, ?_, nofun⟩
          rintro _ ⟨⟩
          dsimp only [Request.outcome]
          cases configFor agentId nodeName inner with
          | error error => exact rfl
          | ok config =>
              dsimp only
              split_ifs
              all_goals simp [Except.map, Reports]

theorem serves_status (now : SystemTime) (inner : InnerState) :
    Serves inner (some (.status now)) inner
      ⟨200, none, StatusResponse.encode (status now inner)⟩ := by
  refine ⟨rfl, ?_, nofun⟩
  rintro _ ⟨⟩
  exact .inl rfl

theorem serves_notFound (inner : InnerState) : Serves inner none inner notFound :=
  ⟨rfl, nofun, fun _ => by decide⟩

/-- A route for GET. -/
theorem serves_getOnly {inner : InnerState} {called : Option Request} {answer : HttpAnswer}
    (h : Serves inner called inner answer) (method : Method) :
    Serves inner (if method = .get ∨ method = .head then called else none) inner
      (getOnly method answer) := by
  split_ifs with hmethod
  · exact ⟨h.state, status_getOnly hmethod answer ▸ h.reports,
      status_getOnly hmethod answer ▸ h.refused⟩
  · rw [getOnly_of_not hmethod]
    exact serves_methodNotAllowed inner

/-- A route for POST. -/
theorem serves_postOnly {inner after : InnerState} {called : Option Request}
    {answer : HttpAnswer} (h : Serves inner called after answer) (method : Method) :
    Serves inner (if method = .post then called else none)
      (if method = .post then (after, answer) else (inner, methodNotAllowed)).1
      (if method = .post then (after, answer) else (inner, methodNotAllowed)).2 := by
  split_ifs
  · exact h
  · exact serves_methodNotAllowed inner

/-- **Every request does what its call does**, and nothing if it amounts to none. -/
theorem serves_route (framework : Framework) (now : SystemTime) (request : HttpRequest)
    (inner : InnerState) :
    Serves inner (asCall framework now request) (route framework now request inner).1
      (route framework now request inner).2 := by
  rw [route, asCall]
  split
  · exact serves_postOnly (serves_withPayload framework _ _ (fun _ => rfl) (fun _ => rfl) request)
      request.method
  · exact serves_getOnly (serves_configAnswer request inner) request.method
  · exact serves_postOnly (serves_withPayload framework _ _ (fun _ => rfl) (fun _ => rfl) request)
      request.method
  · exact serves_postOnly (serves_withPayload framework _ _ (fun _ => rfl) (fun _ => rfl) request)
      request.method
  · exact serves_getOnly (serves_status now inner) request.method
  · exact serves_notFound inner

/-! ## Runs of requests -/

/-- A controller that serves requests, with the answers it has given. -/
structure HttpRun where
  inner : InnerState
  answers : List HttpAnswer

def HttpRun.next (framework : Framework) (run : HttpRun) (arrival : SystemTime × HttpRequest) :
    HttpRun where
  inner := (route framework arrival.1 arrival.2 run.inner).1
  answers := run.answers ++ [(route framework arrival.1 arrival.2 run.inner).2]

def answerAll (framework : Framework) (inner : InnerState)
    (arrivals : List (SystemTime × HttpRequest)) : HttpRun :=
  arrivals.foldl (HttpRun.next framework) ⟨inner, []⟩

/-- The calls that the requests amount to, in their order. -/
def callsIn (framework : Framework) (arrivals : List (SystemTime × HttpRequest)) : List Request :=
  arrivals.filterMap fun arrival => asCall framework arrival.1 arrival.2

/-- The state after calls. -/
def afterCalls (inner : InnerState) (calls : List Request) : InnerState :=
  calls.foldl (fun inner request => handle request inner) inner

theorem answerAll_append (framework : Framework) (inner : InnerState)
    (arrivals : List (SystemTime × HttpRequest)) (arrival : SystemTime × HttpRequest) :
    answerAll framework inner (arrivals ++ [arrival]) =
      (answerAll framework inner arrivals).next framework arrival := by
  rw [answerAll, List.foldl_append]
  rfl

theorem afterCalls_callsIn_append (framework : Framework) (inner : InnerState)
    (arrivals : List (SystemTime × HttpRequest)) (arrival : SystemTime × HttpRequest) :
    afterCalls inner (callsIn framework (arrivals ++ [arrival])) =
      ((asCall framework arrival.1 arrival.2).map fun request =>
        handle request (afterCalls inner (callsIn framework arrivals))).getD
          (afterCalls inner (callsIn framework arrivals)) := by
  rw [callsIn, List.filterMap_append, afterCalls, List.foldl_append]
  cases hcall : asCall framework arrival.1 arrival.2 with
  | none =>
      simp only [List.filterMap_cons, hcall, List.filterMap_nil]
      rfl
  | some request =>
      simp only [List.filterMap_cons, hcall, List.filterMap_nil]
      rfl

theorem length_answers (framework : Framework) (inner : InnerState)
    (arrivals : List (SystemTime × HttpRequest)) :
    (answerAll framework inner arrivals).answers.length = arrivals.length := by
  induction arrivals using List.reverseRecOn with
  | nil => rfl
  | append_singleton arrivals arrival ih =>
      rw [answerAll_append, HttpRun.next, List.length_append, ih, List.length_append]
      rfl

/-- Answers that have been given stay. -/
theorem answers_prefix (framework : Framework) (inner : InnerState)
    (before after : List (SystemTime × HttpRequest)) :
    (answerAll framework inner before).answers <+:
      (answerAll framework inner (before ++ after)).answers := by
  induction after using List.reverseRecOn with
  | nil => rw [List.append_nil]
  | append_singleton after arrival ih =>
      rw [← List.append_assoc, answerAll_append]
      exact ih.trans (List.prefix_append _ _)

theorem inner_answerAll (framework : Framework) (inner : InnerState)
    (arrivals : List (SystemTime × HttpRequest)) :
    (answerAll framework inner arrivals).inner =
      afterCalls inner (callsIn framework arrivals) := by
  induction arrivals using List.reverseRecOn with
  | nil => rfl
  | append_singleton arrivals arrival ih =>
      rw [answerAll_append, HttpRun.next, afterCalls_callsIn_append, ih]
      exact (serves_route framework arrival.1 arrival.2 _).state

/-- **The controller over HTTP is the controller**: requests have the effect of the calls that
they amount to, in their order, and each answer reports what its call came to in the state it
was made in. A request that amounts to no call is refused. -/
theorem answerAll_calls (framework : Framework) (inner : InnerState) :
    (∀ arrivals,
      (answerAll framework inner arrivals).inner =
          afterCalls inner (callsIn framework arrivals) ∧
        (answerAll framework inner arrivals).answers.length = arrivals.length) ∧
    ∀ before now request after, ∃ answer,
      (answerAll framework inner (before ++ (now, request) :: after)).answers[before.length]? =
          some answer ∧
        Serves (afterCalls inner (callsIn framework before)) (asCall framework now request)
          (afterCalls inner (callsIn framework (before ++ [(now, request)]))) answer := by
  refine ⟨fun arrivals =>
    ⟨inner_answerAll framework inner arrivals, length_answers framework inner arrivals⟩, ?_⟩
  intro before now request after
  -- The answer to the request is the last one of the run that ends with it.
  have hanswer : (answerAll framework inner (before ++ [(now, request)])).answers =
      (answerAll framework inner before).answers ++
        [(route framework now request (answerAll framework inner before).inner).2] := by
    rw [answerAll_append]
    rfl
  have hprefix := answers_prefix framework inner (before ++ [(now, request)]) after
  rw [List.append_assoc, List.singleton_append, hanswer] at hprefix
  obtain ⟨more, hmore⟩ := hprefix
  refine ⟨(route framework now request (answerAll framework inner before).inner).2, ?_, ?_⟩
  · have hlength := length_answers framework inner before
    rw [← hmore, List.append_assoc, List.getElem?_append_right (Nat.le_of_eq hlength), hlength,
      Nat.sub_self]
    rfl
  · have hserves := serves_route framework now request (answerAll framework inner before).inner
    rw [inner_answerAll] at hserves ⊢
    refine ⟨?_, hserves.reports, hserves.refused⟩
    rw [afterCalls_callsIn_append]

end Tapio.Controller
