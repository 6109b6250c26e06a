/-
# The metrics endpoint

One loop accepts connections, and reads one request and writes one response on each. Every
error of a connection ends the loop, although it concerns that connection only, and nothing
starts the loop again. A request is what a single read returns of it, so that a request for
the metrics that arrives in pieces may be taken for another one.
-/
import Tapio.Agent.Httpc
import Tapio.Agent.Metrics

namespace Tapio.Agent

open Metrics Transition

inductive ErrorKind
  | wouldBlock
  | timedOut
  | interrupted
  | connectionReset
  | brokenPipe
  | other
  deriving DecidableEq

/-- A client on an accepted connection, and what the calls on it return. -/
structure Client where
  /-- The bytes that it sends until it closes, resets or falls silent. -/
  sent : List UInt8
  /-- What the read of the request returns. -/
  read : Except ErrorKind (List UInt8)
  /-- What writing the response returns. -/
  writeAll : Except ErrorKind Unit
  /-- A read returns the first bytes, as far as there is room. -/
  read_sent : ∀ request, read = .ok request → request <+: sent.take 1024
  /-- A read returns nothing at the end only. -/
  read_end : read = .ok [] → sent = []

/-! ## The server -/

/-- The first line of the request, if it is text. -/
def firstLine (request : List UInt8) : String :=
  let text := (String.fromUTF8? request.toByteArray).getD ""
  (Text.lines text).head?.getD ""

def notFound : String :=
  "HTTP/1.1 404 Not Found\r\nContent-Length: 9\r\nConnection: close\r\n\r\nnot found"

/-- The response with the encoded metrics. -/
def metricsResponse (metrics : Metrics.TapioMetrics) : String :=
  let body := metrics.encode
  "HTTP/1.1 200 OK\r\nContent-Type: text/plain; version=0.0.4\r\nContent-Length: " ++
    toString body.utf8ByteSize ++ "\r\nConnection: close\r\n\r\n" ++ body

def respond (metrics : Metrics.TapioMetrics) (request : List UInt8) : String :=
  if Text.startsWith (firstLine request) "GET /metrics " then metricsResponse metrics
  else notFound

/-- Read a request and write the response to it. -/
def Client.serve (client : Client) (metrics : Metrics.TapioMetrics) : Except ErrorKind String := do
  let request ← client.read
  let response := respond metrics request
  client.writeAll
  return response

structure Server where
  /-- What `serve_blocking` has returned, if it has. -/
  returned : Option (Except ErrorKind Unit)
  /-- The responses that were written. -/
  responses : List String

/-- What the loop meets in one iteration. -/
structure Iteration where
  shutdown : Bool
  accepted : Except ErrorKind Client
  metrics : Metrics.TapioMetrics

/-- One iteration of the loop. -/
def serveStep (s : Server) (a : Iteration) : Option Server :=
  if s.returned.isSome then none
  else if a.shutdown then some { s with returned := some (.ok ()) }
  else
    match a.accepted with
    | .ok client =>
        match client.serve a.metrics with
        | .ok response => some { s with responses := s.responses ++ [response] }
        | .error e => some { s with returned := some (.error e) }
    | .error .wouldBlock => some s
    | .error e => some { s with returned := some (.error e) }

def serveMachine : Machine Server Iteration where
  init := ⟨none, []⟩
  step := serveStep

/-! ## Staying up -/

/-- A request for the metrics: the request line, header lines and the blank line. -/
def ScrapeRequest (request : List UInt8) : Prop :=
  ∃ version ∈ ["HTTP/1.0", "HTTP/1.1"], ∃ headers : List (List UInt8),
    (∀ header ∈ headers, header ≠ [] ∧ 13 ∉ header ∧ 10 ∉ header) ∧
      request = Json.utf8 ("GET /metrics ".toList ++ version.toList) ++ crlf ++
        (headers.flatMap fun header => header ++ crlf) ++ crlf

/-- A client that asks for the metrics and keeps its connection open. -/
structure Scrapes (client : Client) : Prop where
  request : ScrapeRequest client.sent
  open_read : ∃ request, client.read = .ok request
  open_write : client.writeAll = .ok ()

/-- No signal to shut down, and `accept` does not fail. -/
def Iteration.Undisturbed (a : Iteration) : Prop :=
  a.shutdown = false ∧ ∀ e, a.accepted = .error e → e = .wouldBlock

/-- Who asks for the metrics is sent them. -/
def Answered (s : Server) (a : Iteration) : Prop :=
  ∀ client, a.accepted = .ok client → Scrapes client →
    ∃ t, serveStep s a = some t ∧ t.responses = s.responses ++ [metricsResponse a.metrics]

/-- The loop goes on after every iteration, and who asks for the metrics is sent them. -/
def StaysUp (schedule : List Iteration) : Prop :=
  serveMachine.Always (fun s => s.returned = none) serveMachine.init schedule ∧
    serveMachine.EachStep Answered serveMachine.init schedule

/-- Nothing fails on the connection, and of a request for the metrics the first read returns
the beginning of its line, and text. -/
structure Smooth (client : Client) : Prop where
  read : ∃ request, client.read = .ok request ∧
    (ScrapeRequest client.sent → 13 ≤ request.length ∧ request.toByteArray.IsValidUTF8)
  write : client.writeAll = .ok ()

/-! ## The request -/

/-- What a request for the metrics begins with. -/
def scrapeLine : List Char := "GET /metrics ".toList

theorem scrapeLine_ascii : ∀ c ∈ scrapeLine, c.toNat < 128 := by
  have hall : scrapeLine.all fun c => c.toNat < 128 := by decide +kernel
  exact fun c hc => of_decide_eq_true (List.all_eq_true.mp hall c hc)

theorem length_utf8_scrapeLine : (Json.utf8 scrapeLine).length = 13 := by
  decide +kernel

/-- Of a request for the metrics, so many bytes are the beginning of its line. -/
theorem ScrapeRequest.eq_append {sent request : List UInt8} (hsent : ScrapeRequest sent)
    (hrequest : request <+: sent) (hlength : 13 ≤ request.length) :
    ∃ more, request = Json.utf8 scrapeLine ++ more := by
  obtain ⟨version, -, headers, -, rfl⟩ := hsent
  have hline : Json.utf8 scrapeLine <+: Json.utf8 (scrapeLine ++ version.toList) ++ crlf ++
      (headers.flatMap fun header => header ++ crlf) ++ crlf := by
    rw [Json.utf8_append, List.append_assoc, List.append_assoc, List.append_assoc]
    exact List.prefix_append _ _
  obtain ⟨more, hmore⟩ :=
    List.prefix_of_prefix_length_le hline hrequest (length_utf8_scrapeLine ▸ hlength)
  exact ⟨more, hmore.symm⟩

theorem fromUTF8?_eq_none_iff {bytes : ByteArray} :
    String.fromUTF8? bytes = none ↔ ¬ bytes.IsValidUTF8 := by
  rw [String.fromUTF8?]
  split <;> simp_all

/-- A text whose first line begins as a request for the metrics begins so. -/
theorem scrapeLine_isPrefix {text : String}
    (hline : scrapeLine <+: ((Text.lines text).head?.getD "").toList) :
    scrapeLine <+: text.toList := by
  cases hlines : Text.lines text with
  | nil =>
      rw [hlines] at hline
      exact absurd hline (by decide +kernel)
  | cons line others =>
      rw [hlines, List.head?_cons, Option.getD_some] at hline
      exact hline.trans (Text.lines_isPrefix hlines)

/-- The first line of a text that begins as a request for the metrics begins so. -/
theorem scrapeLine_isPrefix_head {text : String} {rest : List Char}
    (htext : text.toList = scrapeLine ++ rest) :
    scrapeLine <+: ((Text.lines text).head?.getD "").toList := by
  obtain ⟨after, others, hlines⟩ :=
    lines_front (by decide) (by decide) (by decide : '\r' ∉ scrapeLine) rest
  rw [← htext, String.ofList_toList] at hlines
  rw [hlines, List.head?_cons, Option.getD_some]
  exact ⟨after, String.toList_ofList.symm⟩

/-- The first line is that of a request for the metrics if it has arrived, as text. -/
theorem startsWith_firstLine_iff {sent request : List UInt8} (hsent : ScrapeRequest sent)
    (hrequest : request <+: sent) :
    Text.startsWith (firstLine request) "GET /metrics " ↔
      13 ≤ request.length ∧ request.toByteArray.IsValidUTF8 := by
  rw [firstLine, Text.startsWith, List.isPrefixOf_iff_prefix]
  cases htext : String.fromUTF8? request.toByteArray with
  | none =>
      have hinvalid := fromUTF8?_eq_none_iff.mp htext
      refine iff_of_false ?_ fun h => hinvalid h.2
      decide +kernel
  | some text =>
      have hvalid : request.toByteArray.IsValidUTF8 := by
        by_contra hinvalid
        rw [fromUTF8?_eq_none_iff.mpr hinvalid] at htext
        cases htext
      have hbytes := utf8_of_fromUTF8? htext
      rw [Option.getD_some, and_iff_left hvalid]
      apply Iff.intro
      · intro hline
        obtain ⟨more, hmore⟩ := scrapeLine_isPrefix hline
        have hwhole : Json.utf8 (scrapeLine ++ more) = request := by rw [← hbytes, ← hmore]
        rw [← hwhole, Json.utf8_append, List.length_append, length_utf8_scrapeLine]
        exact Nat.le_add_right _ _
      · intro hlength
        obtain ⟨more, hmore⟩ := hsent.eq_append hrequest hlength
        obtain ⟨rest, hrest⟩ := Json.eq_append_of_utf8 scrapeLine_ascii (hbytes.trans hmore)
        exact scrapeLine_isPrefix_head hrest

/-! ## The loop -/

theorem Client.serve_eq_ok_iff {client : Client} {metrics : Metrics.TapioMetrics}
    {response : String} :
    client.serve metrics = .ok response ↔
      (∃ request, client.read = .ok request ∧ respond metrics request = response) ∧
        client.writeAll = .ok () := by
  rw [serve]
  cases client.read with
  | error e => simp [bind, Except.bind]
  | ok request =>
      cases client.writeAll with
      | error e => simp [bind, Except.bind]
      | ok u => simp [bind, Except.bind, pure, Except.pure]

/-- Only the metrics are sent with a status of 200. -/
theorem respond_eq_metricsResponse_iff {metrics : Metrics.TapioMetrics} {request : List UInt8} :
    respond metrics request = metricsResponse metrics ↔
      Text.startsWith (firstLine request) "GET /metrics " := by
  have hfound : "HTTP/1.1 2".toList <+: (metricsResponse metrics).toList := by
    unfold metricsResponse
    generalize metrics.encode = body
    dsimp only
    rw [String.toList_append, String.toList_append, String.toList_append, List.append_assoc,
      List.append_assoc]
    refine List.IsPrefix.trans ?_ (List.prefix_append _ _)
    decide +kernel
  have hother : notFound ≠ metricsResponse metrics := by
    intro h
    rw [← h] at hfound
    exact absurd hfound (by decide +kernel)
  rw [respond]
  split_ifs with hline
  · exact iff_of_true rfl hline
  · exact iff_of_false hother hline

/-- Nothing of a smooth connection ends the loop, and who asks for the metrics on it is sent
them. -/
theorem smooth_iff (client : Client) (metrics : Metrics.TapioMetrics) :
    Smooth client ↔
      (∃ response, client.serve metrics = .ok response) ∧
        (Scrapes client → client.serve metrics = .ok (metricsResponse metrics)) := by
  simp only [Client.serve_eq_ok_iff, respond_eq_metricsResponse_iff]
  apply Iff.intro
  · intro ⟨⟨request, hread, hscrape⟩, hwrite⟩
    have hfront : request <+: client.sent :=
      (client.read_sent request hread).trans (List.take_prefix _ _)
    refine ⟨⟨_, ⟨request, hread, rfl⟩, hwrite⟩, fun h => ⟨⟨request, hread, ?_⟩, hwrite⟩⟩
    exact (startsWith_firstLine_iff h.request hfront).mpr (hscrape h.request)
  · rintro ⟨⟨_, ⟨request, hread, -⟩, hwrite⟩, hanswer⟩
    refine ⟨⟨request, hread, fun hsent => ?_⟩, hwrite⟩
    obtain ⟨⟨request', hread', hline⟩, -⟩ := hanswer ⟨hsent, ⟨request, hread⟩, hwrite⟩
    obtain rfl := Except.ok.inj (hread.symm.trans hread')
    have hfront : request <+: client.sent :=
      (client.read_sent request hread).trans (List.take_prefix _ _)
    exact (startsWith_firstLine_iff hsent hfront).mp hline

/-- An iteration with a connection is what comes of the connection. -/
theorem serveStep_of_connection {s : Server} {a : Iteration} {client : Client}
    (hs : s.returned = none) (hshutdown : a.shutdown = false)
    (haccepted : a.accepted = .ok client) :
    serveStep s a =
      match client.serve a.metrics with
      | .ok response => some { s with responses := s.responses ++ [response] }
      | .error e => some { s with returned := some (.error e) } := by
  rw [serveStep, hs, hshutdown, haccepted]
  rfl

/-- Whoever asked for the metrics was answered if the response was the metrics. -/
theorem answered_iff {s : Server} {a : Iteration} {client : Client} {response : String}
    (haccepted : a.accepted = .ok client)
    (hstep : serveStep s a = some { s with responses := s.responses ++ [response] }) :
    Answered s a ↔ (Scrapes client → response = metricsResponse a.metrics) := by
  apply Iff.intro
  · intro h hscrapes
    obtain ⟨t, ht, hsent⟩ := h client haccepted hscrapes
    obtain rfl := Option.some.inj (hstep.symm.trans ht)
    exact List.singleton_inj.mp (List.append_cancel_left hsent)
  · intro h other hother hscrapes
    obtain rfl := Except.ok.inj (haccepted.symm.trans hother)
    exact ⟨_, hstep, by rw [h hscrapes]⟩

/-- **One iteration** keeps the loop running and answers exactly if its connection is
smooth. -/
theorem smooth_of_step_iff {s : Server} {a : Iteration} (hs : s.returned = none)
    (ha : a.Undisturbed) :
    ∃ t, serveStep s a = some t ∧
      (t.returned = none ∧ Answered s a ↔ ∀ client, a.accepted = .ok client → Smooth client) := by
  cases haccepted : a.accepted with
  | error e =>
      obtain rfl := ha.2 e haccepted
      have hstep : serveStep s a = some s := by
        rw [serveStep, hs, ha.1, haccepted]
        rfl
      refine ⟨s, hstep, iff_of_true ⟨hs, fun client h => ?_⟩ nofun⟩
      exact absurd (haccepted.symm.trans h) nofun
  | ok client =>
      have hstep := serveStep_of_connection hs ha.1 haccepted
      cases hserve : client.serve a.metrics with
      | error e =>
          rw [hserve] at hstep
          refine ⟨_, hstep, iff_of_false (fun h => nomatch h.1) fun h => ?_⟩
          obtain ⟨⟨response, hresponse⟩, -⟩ := (smooth_iff client a.metrics).mp (h client rfl)
          rw [hserve] at hresponse
          cases hresponse
      | ok response =>
          rw [hserve] at hstep
          refine ⟨_, hstep, ?_⟩
          have hsmooth : (∀ other, .ok client = Except.ok (ε := ErrorKind) other → Smooth other) ↔
              Smooth client := by
            simp only [Except.ok.injEq, forall_eq']
          rw [hsmooth, smooth_iff client a.metrics, hserve, answered_iff haccepted hstep]
          simp [hs]

/-- **When the endpoint stays up.** Every connection must be smooth. -/
theorem staysUp_iff {schedule : List Iteration} (h : ∀ a ∈ schedule, a.Undisturbed) :
    StaysUp schedule ↔
      ∀ a ∈ schedule, ∀ client, a.accepted = .ok client → Smooth client := by
  refine Machine.always_and_eachStep_iff (fun s hs a ha => ?_) rfl
  exact smooth_of_step_iff hs (h a ha)

/-! ## A silent client -/

/-- A client that connects and sends nothing until the read times out. -/
def silentClient : Client where
  sent := []
  read := .error .wouldBlock
  writeAll := .ok ()
  read_sent := nofun
  read_end := nofun

def scrapeBytes : List UInt8 :=
  Json.utf8 "GET /metrics HTTP/1.1\r\nHost: node\r\n\r\n".toList

/-- A client whose request arrives as a whole. -/
def scraper : Client where
  sent := scrapeBytes
  read := .ok scrapeBytes
  writeAll := .ok ()
  read_sent := by
    intro request hread
    obtain rfl := Except.ok.inj hread
    rw [List.take_of_length_le (by decide +kernel)]
  read_end := by
    intro hread
    exact absurd (Except.ok.inj hread) (by decide +kernel)

/-- An iteration with a connection of the client. -/
def connectionOf (client : Client) : Iteration := ⟨false, .ok client, .new⟩

theorem undisturbed_connectionOf (client : Client) : (connectionOf client).Undisturbed :=
  ⟨rfl, nofun⟩

theorem smooth_of_connectionOf {client : Client} (h : Smooth client) :
    ∀ accepted, (connectionOf client).accepted = .ok accepted → Smooth accepted := by
  intro accepted haccepted
  obtain rfl := Except.ok.inj haccepted
  exact h

/-- An iteration without a connection. -/
def pause : Iteration := ⟨false, .error .wouldBlock, .new⟩

theorem undisturbed_pause : pause.Undisturbed :=
  ⟨rfl, fun _ he => (Except.error.inj he).symm⟩

/-- A client that asks for something else, of which the first bytes have arrived. -/
def otherClient : Client where
  sent := Json.utf8 "GET /healthz HTTP/1.1\r\n".toList
  read := .ok (Json.utf8 "GET /he".toList)
  writeAll := .ok ()
  read_sent := by
    intro request hread
    obtain rfl := Except.ok.inj hread
    decide +kernel
  read_end := by
    intro hread
    exact absurd (Except.ok.inj hread) (by decide +kernel)

theorem smooth_scraper : Smooth scraper :=
  ⟨⟨scrapeBytes, rfl, fun _ => by decide +kernel⟩, rfl⟩

/-- What it sends is no request for the metrics, whatever is read of it. -/
theorem smooth_otherClient : Smooth otherClient := by
  refine ⟨⟨_, rfl, fun hscrape => ?_⟩, rfl⟩
  obtain ⟨more, hmore⟩ := hscrape.eq_append (List.prefix_refl _) (by decide +kernel)
  have hline := congrArg (List.take 13) hmore
  rw [← length_utf8_scrapeLine, List.take_left] at hline
  exact absurd hline (by decide +kernel)

/-- Two scrapes, between them a pause and a request for something else. -/
theorem staysUp_twoScrapes :
    StaysUp [connectionOf scraper, pause, connectionOf otherClient, connectionOf scraper] := by
  refine (staysUp_iff ?_).mpr ?_
  · simp only [List.forall_mem_cons]
    exact ⟨undisturbed_connectionOf _, undisturbed_pause, undisturbed_connectionOf _,
      undisturbed_connectionOf _, List.forall_mem_nil _⟩
  · simp only [List.forall_mem_cons]
    refine ⟨smooth_of_connectionOf smooth_scraper, fun _ haccepted => ?_,
      smooth_of_connectionOf smooth_otherClient, smooth_of_connectionOf smooth_scraper, ?_⟩
    · cases haccepted
    · exact List.forall_mem_nil _

/-- Silence ends the loop, and the scrape after it is not answered. -/
theorem not_staysUp_silentClient :
    (∀ a ∈ [connectionOf silentClient, connectionOf scraper], a.Undisturbed) ∧
      Scrapes scraper ∧ ¬ StaysUp [connectionOf silentClient, connectionOf scraper] := by
  refine ⟨?_, ⟨?_, ⟨scrapeBytes, rfl⟩, rfl⟩, fun ⟨halways, _⟩ => ?_⟩
  · intro a ha
    rcases List.mem_pair.mp ha with rfl | rfl
    · exact undisturbed_connectionOf silentClient
    · exact undisturbed_connectionOf scraper
  · refine ⟨"HTTP/1.1", by simp, [Json.utf8 "Host: node".toList], ?_, ?_⟩
    · decide +kernel
    · decide +kernel
  · exact nomatch (halways.2 _ rfl).1

end Tapio.Agent
