/-
# The MCP server

A loop over the lines of standard input, each a JSON-RPC message, that answers requests
and keeps silent on notifications. Two kinds of line end it early. A line that is not UTF-8
makes reading fail, and with it the whole session. A call of `tapio_recent_anomalies` with
a window that the dates cannot hold panics. Every other line is answered as the protocol
says, and the loop goes on.
-/
import Tapio.Cli.Health
import Tapio.Json.Object
import Tapio.Numeric.Binary64

namespace Tapio.Cli

open Common Grouping Numeric Json

/-! ## JSON -/

/-- How JSON is parsed and printed. -/
structure Serde where
  fromStr : String → Except String Value
  occurrences : OccurrenceFormat
  toString : List Occurrence → Except String String
  toStringPretty : Value → Except String String

/-- A `json!` object. -/
def json (fields : List (String × Value)) : Value := .object (ofFields fields)

def asStr : Value → Option String
  | .string s => some s
  | _ => none

/-- Every number is a float, though maybe another one. -/
def asF64 : Value → Option F64
  | .number (.posInt n) => some (F64.nearest n.toNat)
  | .number (.negInt n) => some (F64.nearest n.toInt)
  | .number (.float bits) => some (F64.ofBits bits)
  | _ => none

def asU64 : Value → Option UInt64
  | .number (.posInt n) => some n
  | _ => none

/-! ## Dates -/

/-- The seconds that a duration can hold, either way. -/
def durationMaxSeconds : ℤ := 9223372036854775

/-- The first and the last nanosecond of a date, from the epoch. -/
def minUtc : ℤ := -8334601228800 * 10 ^ 9
def maxUtc : ℤ := 8210266876800 * 10 ^ 9 - 1

/-- The nanoseconds of a number of seconds; `none` if it panics. -/
def durationSeconds (seconds : Int64) : Option ℤ :=
  if |seconds.toInt| ≤ durationMaxSeconds then some (seconds.toInt * 10 ^ 9) else none

/-- A moment some time before another; `none` if it panics. -/
def subtract (now duration : ℤ) : Option ℤ :=
  if minUtc ≤ now - duration ∧ now - duration ≤ maxUtc then some (now - duration) else none

/-- The moment before which an anomaly is not recent; `none` if it panics. -/
def windowStart (now : ℤ) (minutes : F64) : Option ℤ :=
  (durationSeconds (F64.mulNearest minutes (.finite 60)).toI64).bind (subtract now)

/-- What a line finds when it is handled: the data directory, if it can be listed, the time
and the order of a hash map. -/
structure World where
  dir : Except String DataDir
  now : ℤ
  /-- The clock does not run before the epoch, nor up to the end of the dates. -/
  now_range : 0 ≤ now ∧ now ≤ maxUtc
  order : HashOrder

/-- How a moment is written. -/
abbrev Rfc3339 := ℤ → String

/-! ## Tools -/

/-- The text of a tool's result. -/
def textContent (content : String) : Value :=
  json [("content", .array [json [("type", .string "text"), ("text", .string content)]])]

/-- How the tool compares severities. -/
def severityName : Sink.Severity → String
  | .warning => "warning"
  | .error => "error"
  | .critical => "critical"
  | _ => "other"

/-- The recent anomalies that pass both filters, the latest first. -/
def selectAnomalies (cutoff observer severity : String) (occurrences : List Occurrence) :
    List Occurrence :=
  let recent := occurrences.filter fun occurrence => cutoff ≤ occurrence.timestamp
  let observed :=
    if observer = "all" then recent
    else recent.filter fun occurrence => category occurrence = observer
  let severe :=
    if severity = "all" then observed
    else observed.filter fun occurrence => severityName occurrence.severity = severity
  severe.mergeSort fun a b => b.timestamp ≤ a.timestamp

/-- The latest occurrences, of one observer or of all. -/
def latestOccurrences (observer : Option String) (maxEvents : UInt64)
    (occurrences : List Occurrence) : List Occurrence :=
  let observed :=
    match observer with
    | none => occurrences
    | some observer => occurrences.filter fun occurrence => category occurrence = observer
  (observed.mergeSort fun a b => b.timestamp ≤ a.timestamp).take maxEvents.toNat

def NodeHealth.toJson (health : NodeHealth) : Value :=
  json [
    ("status", .string health.status),
    ("total_anomalies_1h", Value.ofUInt64 (UInt64.ofNat health.totalAnomalies1h)),
    ("total_critical_1h", Value.ofUInt64 (UInt64.ofNat health.totalCritical1h)),
    ("observers", .array (health.observers.map fun (name, count, critical) =>
      json [
        ("name", .string name),
        ("anomalies", Value.ofUInt64 (UInt64.ofNat count)),
        ("critical", Value.ofUInt64 (UInt64.ofNat critical))]))]

def recentAnomaliesName : String := "tapio_recent_anomalies"
def nodeHealthName : String := "tapio_node_health"
def watchStreamName : String := "tapio_watch_stream"

def windowMinutes (args : Value) : F64 := ((args.get "minutes").bind asF64).getD (.finite 5)

/-- The result of a tool or its error; `none` if it panics. -/
def mcpCallTool (serde : Serde) (rfc3339 : Rfc3339) (world : World) (name : String)
    (args : Value) : Option (Except String Value) :=
  if name = recentAnomaliesName then
    let observer := ((args.get "observer").bind asStr).getD "all"
    let severity := ((args.get "severity").bind asStr).getD "all"
    match world.dir with
    | .error error => some (.error error)
    | .ok dir =>
        (windowStart world.now (windowMinutes args)).map fun start =>
          (serde.toString (selectAnomalies (rfc3339 start) observer severity
            (loadOccurrences serde.occurrences dir))).map textContent
  else if name = nodeHealthName then
    match world.dir with
    | .error error => some (.error error)
    | .ok dir =>
        (subtract world.now (3600 * 10 ^ 9)).map fun start =>
          (serde.toStringPretty
            (nodeHealth serde.occurrences world.order dir (rfc3339 start)).toJson).map textContent
  else if name = watchStreamName then
    let observer := (args.get "observer").bind asStr
    let maxEvents := ((args.get "max_events").bind asU64).getD 50
    match world.dir with
    | .error error => some (.error error)
    | .ok dir =>
        some ((serde.toString (latestOccurrences observer maxEvents
          (loadOccurrences serde.occurrences dir))).map textContent)
  else
    some (.ok (json [
      ("content", .array [
        json [("type", .string "text"), ("text", .string ("Unknown tool: " ++ name))]]),
      ("isError", .bool true)]))

/-! ## Messages -/

def mcpResultResponse (id : Option Value) (result : Value) : Value :=
  json [("jsonrpc", .string "2.0"), ("id", id.getD .null), ("result", result)]

def mcpErrorResponse (id : Option Value) (code : Int32) (message : String) : Value :=
  json [
    ("jsonrpc", .string "2.0"),
    ("id", id.getD .null),
    ("error", json [("code", Value.ofInt32 code), ("message", .string message)])]

def cargoPkgVersion : String := "4.0.0"

def initializeResult : Value :=
  json [
    ("protocolVersion", .string "2024-11-05"),
    ("capabilities", json [("tools", json [])]),
    ("serverInfo", json [("name", .string "tapio"), ("version", .string cargoPkgVersion)])]

/-- One of some strings, by default the last. -/
def enumSchema (values : List String) (default : String) : Value :=
  json [
    ("type", .string "string"),
    ("enum", .array (values.map .string)),
    ("default", .string default)]

def toolEntry (name description : String) (properties : Value) : Value :=
  json [
    ("name", .string name),
    ("description", .string description),
    ("inputSchema", json [("type", .string "object"), ("properties", properties)])]

def toolsList : Value :=
  json [("tools", .array [
    toolEntry recentAnomaliesName "Get recent kernel anomalies from the last N minutes"
      (json [
        ("minutes", json [
          ("type", .string "number"),
          ("default", Value.ofUInt64 5),
          ("description", .string "Time window in minutes")]),
        ("observer", enumSchema ["network", "container", "storage", "node", "all"] "all"),
        ("severity", enumSchema ["warning", "error", "critical", "all"] "all")]),
    toolEntry nodeHealthName "Get current node health summary across all observers" (json []),
    toolEntry watchStreamName "Get the most recent anomalies (snapshot, not streaming)"
      (json [
        ("observer", json [
          ("type", .string "string"), ("description", .string "Filter by observer")]),
        ("max_events", json [
          ("type", .string "number"),
          ("default", Value.ofUInt64 50),
          ("description", .string "Maximum events to return")])])])]

def requestMethod (request : Value) : String := ((request.get "method").bind asStr).getD ""

def requestParams (request : Value) : Value := (request.get "params").getD (json [])

def toolName (request : Value) : String :=
  (((requestParams request).get "name").bind asStr).getD ""

def toolArguments (request : Value) : Value :=
  ((requestParams request).get "arguments").getD (json [])

/-- The response to a call that has ended. -/
def callResponse (id : Option Value) (name : String) : Except String Value → Value
  | .ok result => mcpResultResponse id result
  | .error error =>
      mcpErrorResponse id (-32603) ("Tool call failed for '" ++ name ++ "': " ++ error)

/-- The answer to a message, if it gets one; `none` if handling it panics. -/
def mcpHandleRequest (serde : Serde) (rfc3339 : Rfc3339) (world : World) (request : Value) :
    Option (Option Value) :=
  let id := request.get "id"
  let method := requestMethod request
  if id.isSome then
    if method = "initialize" then some (some (mcpResultResponse id initializeResult))
    else if method = "tools/list" then some (some (mcpResultResponse id toolsList))
    else if method = "tools/call" then
      (mcpCallTool serde rfc3339 world (toolName request) (toolArguments request)).map
        fun called => some (callResponse id (toolName request) called)
    else some (some (mcpErrorResponse id (-32601) ("Method not found: " ++ method)))
  else some none

def mcpHandleLine (serde : Serde) (rfc3339 : Rfc3339) (world : World) (line : String) :
    Option (Option Value) :=
  match serde.fromStr line with
  | .error _ => some (some (mcpErrorResponse none (-32700) "Parse error"))
  | .ok request => mcpHandleRequest serde rfc3339 world request

/-! ## The loop -/

/-- The lines of the input, each with its end; the last may lack it. -/
def inputLines : List UInt8 → List (List UInt8)
  | [] => []
  | byte :: rest =>
      if byte = 10 then [byte] :: inputLines rest
      else
        match inputLines rest with
        | [] => [[byte]]
        | line :: lines => (byte :: line) :: lines

/-- The text of a line, if it is UTF-8. -/
def lineText (line : List UInt8) : Option String := String.fromUTF8? line.toByteArray

inductive SessionEnd
  | eof
  | failed (error : String)
  | panicked
  deriving DecidableEq

/-- What is written from a line on, and how the session ends. -/
def serve (serde : Serde) (rfc3339 : Rfc3339) (worlds : ℕ → World) :
    ℕ → List (List UInt8) → List Value × SessionEnd
  | _, [] => ([], .eof)
  | i, line :: rest =>
      match lineText line with
      | none => ([], .failed "stream did not contain valid UTF-8")
      | some text =>
          let trimmed := Text.trim text
          if trimmed = "" then serve serde rfc3339 worlds (i + 1) rest
          else
            match mcpHandleLine serde rfc3339 (worlds i) trimmed with
            | none => ([], .panicked)
            | some response =>
                let later := serve serde rfc3339 worlds (i + 1) rest
                (response.toList ++ later.1, later.2)

/-- The session on some input. Line by line the data directory and the clock may be
others. -/
def cmdMcp (serde : Serde) (rfc3339 : Rfc3339) (worlds : ℕ → World) (stdin : List UInt8) :
    List Value × SessionEnd :=
  serve serde rfc3339 worlds 0 (inputLines stdin)

/-! ## What a message gets -/

/-- A response that echoes the id, with either a result or an error. -/
structure Echoes (id response : Value) : Prop where
  id : response.get "id" = some id
  either : (response.get "result").isSome ≠ (response.get "error").isSome

theorem get_json (fields : List (String × Value)) (key : String) :
    (json fields).get key = (ofFields fields).lookup key :=
  rfl

theorem echoes_mcpResultResponse (id result : Value) :
    Echoes id (mcpResultResponse (some id) result) := by
  apply Echoes.mk <;>
    simp [mcpResultResponse, get_json, ofFields, lookup_insertEntry]

theorem echoes_mcpErrorResponse (id : Option Value) (code : Int32) (message : String) :
    Echoes (id.getD .null) (mcpErrorResponse id code message) := by
  apply Echoes.mk <;>
    simp [mcpErrorResponse, get_json, ofFields, lookup_insertEntry]

theorem echoes_callResponse (id : Value) (name : String) (called : Except String Value) :
    Echoes id (callResponse (some id) name called) := by
  cases called with
  | ok result => exact echoes_mcpResultResponse id result
  | error error => exact echoes_mcpErrorResponse (some id) _ _

/-- A message without an id gets no answer, and one with an id gets one that echoes it. -/
theorem mcpHandleRequest_some {serde : Serde} {rfc3339 : Rfc3339} {world : World}
    {request : Value} {response : Option Value}
    (h : mcpHandleRequest serde rfc3339 world request = some response) :
    match request.get "id" with
    | none => response = none
    | some id => ∃ answer, response = some answer ∧ Echoes id answer := by
  rw [mcpHandleRequest] at h
  cases hid : request.get "id" with
  | none =>
      rw [hid] at h
      exact (Option.some.inj h).symm
  | some id =>
      rw [hid] at h
      dsimp only at h ⊢
      rw [if_pos (Option.isSome_some)] at h
      split at h
      · exact ⟨_, (Option.some.inj h).symm, echoes_mcpResultResponse id _⟩
      · split at h
        · exact ⟨_, (Option.some.inj h).symm, echoes_mcpResultResponse id _⟩
        · split at h
          · obtain ⟨called, -, rfl⟩ := Option.map_eq_some_iff.mp h
            exact ⟨_, rfl, echoes_callResponse id _ called⟩
          · exact ⟨_, (Option.some.inj h).symm, echoes_mcpErrorResponse (some id) _ _⟩

/-! ## When handling panics -/

/-- The message calls for a window that the dates cannot hold. -/
structure WindowOverflows (world : World) (request : Value) : Prop where
  asked : (request.get "id").isSome
  method : requestMethod request = "tools/call"
  tool : toolName request = recentAnomaliesName
  listed : ∃ dir, world.dir = .ok dir
  window : windowStart world.now (windowMinutes (toolArguments request)) = none

/-- The last hour never begins before the first date. -/
theorem subtract_hour (world : World) : (subtract world.now (3600 * 10 ^ 9)).isSome := by
  obtain ⟨hlow, hhigh⟩ := world.now_range
  rw [subtract, if_pos]
  · rfl
  · simp only [minUtc, maxUtc] at *
    omega

theorem mcpCallTool_eq_none_iff {serde : Serde} {rfc3339 : Rfc3339} {world : World}
    {name : String} {args : Value} :
    mcpCallTool serde rfc3339 world name args = none ↔
      name = recentAnomaliesName ∧ (∃ dir, world.dir = .ok dir) ∧
        windowStart world.now (windowMinutes args) = none := by
  rw [mcpCallTool]
  by_cases hrecent : name = recentAnomaliesName
  · rw [if_pos hrecent]
    cases hdir : world.dir with
    | error error => simp
    | ok dir => simp [hrecent]
  · rw [if_neg hrecent]
    simp only [hrecent, false_and, iff_false]
    split_ifs
    · cases world.dir with
      | error error => simp
      | ok dir =>
          dsimp only
          rw [Option.map_eq_none_iff]
          exact Option.ne_none_iff_isSome.mpr (subtract_hour world)
    · cases world.dir <;> simp
    · simp

/-- Only a call for such a window panics. -/
theorem mcpHandleRequest_eq_none_iff {serde : Serde} {rfc3339 : Rfc3339} {world : World}
    {request : Value} :
    mcpHandleRequest serde rfc3339 world request = none ↔ WindowOverflows world request := by
  apply Iff.intro
  · intro h
    rw [mcpHandleRequest] at h
    split_ifs at h with hid hinitialize hlist hcall
    obtain ⟨htool, hlisted, hwindow⟩ := mcpCallTool_eq_none_iff.mp (Option.map_eq_none_iff.mp h)
    exact ⟨hid, hcall, htool, hlisted, hwindow⟩
  · rintro ⟨hid, hcall, htool, hlisted, hwindow⟩
    rw [mcpHandleRequest, if_pos hid, hcall, if_neg (by decide), if_neg (by decide), if_pos rfl,
      Option.map_eq_none_iff]
    exact mcpCallTool_eq_none_iff.mpr ⟨htool, hlisted, hwindow⟩

/-- A window that begins before the first date. -/
example :
    windowStart (1782864000 * 10 ^ 9)
      (windowMinutes (json [("minutes", Value.ofUInt64 18446744073709551615)])) = none := by
  decide +kernel

/-! ## The session -/

/-- The response to what is not JSON: no id, and the code of a parse error. -/
structure ParseError (response : Value) : Prop where
  id : response.get "id" = some .null
  code : (response.get "error").bind (·.get "code") = some (Value.ofInt32 (-32700))

/-- What is due for a line: nothing for a blank one and for a message without an id, a
parse error for what is not JSON, and for a request an answer that echoes its id. -/
inductive Answered (serde : Serde) : List UInt8 → Option Value → Prop
  | blank {line : List UInt8} {text : String} (htext : lineText line = some text)
      (hblank : Text.trim text = "") : Answered serde line none
  | notJson {line : List UInt8} {response : Value}
      (hfull : ∀ text, lineText line = some text → Text.trim text ≠ "")
      (hjson : ∀ text, lineText line = some text → ∀ message,
        serde.fromStr (Text.trim text) ≠ .ok message)
      (hresponse : ParseError response) : Answered serde line (some response)
  | request {line : List UInt8} {text : String} {message id response : Value}
      (htext : lineText line = some text) (hfull : Text.trim text ≠ "")
      (hjson : serde.fromStr (Text.trim text) = .ok message)
      (hid : message.get "id" = some id) (hresponse : Echoes id response) :
      Answered serde line (some response)
  | silent {line : List UInt8} {text : String} {message : Value}
      (htext : lineText line = some text) (hfull : Text.trim text ≠ "")
      (hjson : serde.fromStr (Text.trim text) = .ok message)
      (hid : message.get "id" = none) : Answered serde line none

/-- The session lasts to the end of the input, and every line gets what is due. -/
def Served (serde : Serde) (rfc3339 : Rfc3339) (worlds : ℕ → World) (stdin : List UInt8) :
    Prop :=
  ∃ answers, List.Forall₂ (Answered serde) (inputLines stdin) answers ∧
    cmdMcp serde rfc3339 worlds stdin = (answers.filterMap id, .eof)

/-- A line that does not end the session: text, and no call for a window that the dates
cannot hold. -/
structure Survivable (serde : Serde) (world : World) (line : List UInt8) : Prop where
  isText : (lineText line).isSome
  window : ∀ text message, lineText line = some text → Text.trim text ≠ "" →
    serde.fromStr (Text.trim text) = .ok message → ¬ WindowOverflows world message

theorem parseError_mcpErrorResponse :
    ParseError (mcpErrorResponse none (-32700) "Parse error") := by
  apply ParseError.mk <;>
    simp [mcpErrorResponse, get_json, ofFields, lookup_insertEntry]

/-- What is written for a line is what is due. -/
theorem answered_of_mcpHandleLine {serde : Serde} {rfc3339 : Rfc3339} {world : World}
    {line : List UInt8} {text : String} {response : Option Value}
    (htext : lineText line = some text) (hfull : Text.trim text ≠ "")
    (h : mcpHandleLine serde rfc3339 world (Text.trim text) = some response) :
    Answered serde line response := by
  rw [mcpHandleLine] at h
  split at h
  · next error herror =>
      obtain rfl := Option.some.inj h
      have honly : ∀ other, lineText line = some other → text = other := fun other hother =>
        Option.some.inj (htext.symm.trans hother)
      refine .notJson (fun other hother => ?_) (fun other hother message => ?_)
        parseError_mcpErrorResponse
      · exact honly other hother ▸ hfull
      · rw [← honly other hother, herror]
        exact nofun
  · next message hmessage =>
      have hanswer := mcpHandleRequest_some h
      cases hid : message.get "id" with
      | none =>
          rw [hid] at hanswer
          obtain rfl := hanswer
          exact .silent htext hfull hmessage hid
      | some id =>
          rw [hid] at hanswer
          obtain ⟨answer, rfl, hechoes⟩ := hanswer
          exact .request htext hfull hmessage hid hechoes

theorem mcpHandleLine_eq_none_iff {serde : Serde} (rfc3339 : Rfc3339) {world : World}
    {line : String} :
    mcpHandleLine serde rfc3339 world line = none ↔
      ∃ message, serde.fromStr line = .ok message ∧ WindowOverflows world message := by
  rw [mcpHandleLine]
  split
  · next herror => simp [herror]
  · next message hmessage => simp [hmessage, mcpHandleRequest_eq_none_iff]

section Session

variable {serde : Serde} {rfc3339 : Rfc3339} {worlds : ℕ → World}

/-- A line that ends the session is the last that is handled. -/
theorem survivable_of_serve_eof {line : List UInt8} {rest : List (List UInt8)} {start : ℕ}
    (h : (serve serde rfc3339 worlds start (line :: rest)).2 = .eof) :
    Survivable serde (worlds start) line := by
  rw [serve] at h
  split at h
  · cases h
  · next text htext =>
      refine ⟨by rw [htext]; rfl, fun other message hother hfull hmessage hwindow => ?_⟩
      obtain rfl : text = other := Option.some.inj (htext.symm.trans hother)
      have hpanics := (mcpHandleLine_eq_none_iff rfc3339).mpr ⟨message, hmessage, hwindow⟩
      rw [if_neg hfull, hpanics] at h
      cases h

/-- A line that does not end the session gets what is due, and the session goes on. -/
theorem serve_cons (rfc3339 : Rfc3339) {line : List UInt8} {start : ℕ}
    (h : Survivable serde (worlds start) line) (rest : List (List UInt8)) :
    ∃ answer, Answered serde line answer ∧
      serve serde rfc3339 worlds start (line :: rest) =
        (answer.toList ++ (serve serde rfc3339 worlds (start + 1) rest).1,
          (serve serde rfc3339 worlds (start + 1) rest).2) := by
  obtain ⟨text, htext⟩ := Option.isSome_iff_exists.mp h.isText
  by_cases hblank : Text.trim text = ""
  · refine ⟨none, .blank htext hblank, ?_⟩
    rw [serve, htext]
    dsimp only
    rw [if_pos hblank]
    rfl
  · have hhandled : mcpHandleLine serde rfc3339 (worlds start) (Text.trim text) ≠ none := by
      intro hpanics
      obtain ⟨message, hmessage, hwindow⟩ := (mcpHandleLine_eq_none_iff rfc3339).mp hpanics
      exact h.window text message htext hblank hmessage hwindow
    obtain ⟨answer, hanswer⟩ := Option.ne_none_iff_exists'.mp hhandled
    refine ⟨answer, answered_of_mcpHandleLine htext hblank hanswer, ?_⟩
    rw [serve, htext]
    dsimp only
    rw [if_neg hblank, hanswer]

/-- From any line on, the session lasts if no later line ends it, and every line gets what
is due. -/
theorem serve_answered {lines : List (List UInt8)} {start : ℕ}
    (h : ∀ i line, lines[i]? = some line → Survivable serde (worlds (start + i)) line) :
    ∃ answers, List.Forall₂ (Answered serde) lines answers ∧
      serve serde rfc3339 worlds start lines = (answers.filterMap id, .eof) := by
  induction lines generalizing start with
  | nil => exact ⟨[], .nil, rfl⟩
  | cons line rest ih =>
      have hrest : ∀ i other, rest[i]? = some other →
          Survivable serde (worlds (start + 1 + i)) other := by
        intro i other hother
        have hlater := h (i + 1) other hother
        rwa [Nat.add_comm i 1, ← Nat.add_assoc] at hlater
      obtain ⟨answers, hanswers, hserve⟩ := ih hrest
      have hfirst : Survivable serde (worlds start) line := h 0 line rfl
      obtain ⟨answer, hanswer, hstep⟩ := serve_cons rfc3339 hfirst rest
      refine ⟨answer :: answers, .cons hanswer hanswers, ?_⟩
      rw [hstep, hserve]
      cases answer <;> rfl

/-- A session that lasts has met no line that would have ended it. -/
theorem survivable_of_eof {lines : List (List UInt8)} {start : ℕ}
    (h : (serve serde rfc3339 worlds start lines).2 = .eof) :
    ∀ i line, lines[i]? = some line → Survivable serde (worlds (start + i)) line := by
  induction lines generalizing start with
  | nil => exact fun i line hline => by cases hline
  | cons first rest ih =>
      have hfirst := survivable_of_serve_eof h
      obtain ⟨answer, -, hstep⟩ := serve_cons rfc3339 hfirst rest
      rw [hstep] at h
      intro i line hline
      cases i with
      | zero =>
          obtain rfl := Option.some.inj hline
          exact hfirst
      | succ i =>
          have hlater := ih h i line hline
          rwa [Nat.add_assoc, Nat.add_comm 1 i] at hlater

end Session

/-- **The session ends early exactly on a line that is not text or calls for too long a
window.** -/
theorem served_iff (serde : Serde) (rfc3339 : Rfc3339) (worlds : ℕ → World)
    (stdin : List UInt8) :
    Served serde rfc3339 worlds stdin ↔
      ∀ i line, (inputLines stdin)[i]? = some line → Survivable serde (worlds i) line := by
  apply Iff.intro
  · rintro ⟨answers, -, hrun⟩ i line hline
    have hsurvived := survivable_of_eof (congrArg Prod.snd hrun) i line hline
    rwa [Nat.zero_add] at hsurvived
  · intro h
    refine serve_answered fun i line hline => ?_
    rw [Nat.zero_add]
    exact h i line hline

/-! ## A byte that is not text -/

def initializeText : String :=
  "\x7b\"jsonrpc\":\"2.0\",\"id\":1,\"method\":\"initialize\"\x7d"

/-- A parser of that message. -/
def initializeSerde : Serde where
  fromStr text :=
    if text = initializeText then
      .ok (json [
        ("jsonrpc", .string "2.0"),
        ("id", Value.ofUInt64 1),
        ("method", .string "initialize")])
    else .error "expected value at line 1 column 1"
  occurrences := readsOnly gpuFaultText gpuFault
  toString _ := .ok "[]"
  toStringPretty _ := .ok "null"

/-- Nothing on disk, in the middle of a year. -/
def quietWorld : World where
  dir := .ok none
  now := 1782864000 * 10 ^ 9
  now_range := by decide
  order := insertionOrder

/-- A line of one byte that no UTF-8 text has, and then a request. -/
def garbledInput : List UInt8 := 0xFF :: 10 :: (initializeText ++ "\n").toByteArray.data.toList

/-- The line is not answered with a parse error; the request is not answered at all. -/
theorem not_served_garbledInput :
    ¬ Served initializeSerde (fun _ => "2026-07-01T00:00:00+00:00") (fun _ => quietWorld)
      garbledInput := by
  rintro ⟨answers, -, hrun⟩
  have hlines : inputLines garbledInput =
      [0xFF, 10] :: inputLines (initializeText ++ "\n").toByteArray.data.toList := by
    rw [garbledInput, inputLines, if_neg (by decide), inputLines, if_pos rfl]
  have hgarbled : lineText [0xFF, 10] = none := by decide +kernel
  rw [cmdMcp, hlines, serve, hgarbled] at hrun
  have hend : SessionEnd.failed "stream did not contain valid UTF-8" = .eof :=
    congrArg Prod.snd hrun
  cases hend

end Tapio.Cli
