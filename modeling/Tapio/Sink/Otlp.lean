/-
# The OTLP sink and its endpoint

The endpoint is checked when the sink is made: a scheme and something before the next
slash. It is read once more for every POST, which connects to the address in it, and that
has to be an IP literal: no name is looked up. An endpoint with a host name, as the default
one, is accepted, and then every export fails before it reaches the network.
-/
import Tapio.Sink.Events
import Tapio.Text.SocketAddr

namespace Tapio.Sink

open Text

structure OtlpSink where
  endpoint : String
  authHeader : Option String
  retryBackoffMs : List ℕ

def normalizeHttpEndpoint (endpoint : String) : Except SinkError String :=
  let trimmed := trimEndMatches (trim endpoint) '/'
  if trimmed = "" then .error (.connection "OTLP endpoint is empty")
  else if startsWith trimmed "https://" then
    .error (.connection ("OTLP sink supports plaintext http:// only; " ++
      "use a local collector or TLS-terminating proxy for HTTPS"))
  else
    match stripPrefix trimmed "http://" with
    | none => .error (.connection ("OTLP endpoint must start with http://: " ++ trimmed))
    | some rest =>
        if (split rest '/').headD "" = "" then
          .error (.connection ("OTLP endpoint missing host: " ++ trimmed))
        else .ok trimmed

def OtlpSink.new (endpoint : String) (authHeader : Option String) :
    Except SinkError OtlpSink := do
  let endpoint ← normalizeHttpEndpoint endpoint
  return ⟨endpoint, authHeader, [500, 1000, 2000]⟩

/-! ## A POST -/

/-- What `http_post` takes from a URL. -/
structure PostTarget where
  host : String
  path : String
  addr : String
  deriving DecidableEq

/-- A host without a port is dialled at port 80. -/
def hostAddr (host : String) : String := if ':' ∈ host.toList then host else host ++ ":80"

def postTarget (url : String) : Except SinkError PostTarget :=
  match stripPrefix url "http://" with
  | none => .error (.connection ("OTLP endpoint must use http://: " ++ url))
  | some rest =>
      let (host, path) :=
        match splitOnce rest '/' with
        | some (host, path) => (host, "/" ++ path)
        | none => (rest, "/")
      .ok ⟨host, path, hostAddr host⟩

def requestHead (target : PostTarget) (bodyLength : ℕ) (authHeader : Option String) : String :=
  "POST " ++ target.path ++ " HTTP/1.1\r\nHost: " ++ target.host ++
    "\r\nContent-Type: application/x-protobuf\r\nContent-Encoding: gzip\r\nContent-Length: " ++
    toString bodyLength ++ "\r\n" ++
    (match authHeader with
      | some auth => "Authorization: " ++ auth ++ "\r\n"
      | none => "") ++ "Connection: close\r\n\r\n"

/-- What the network does with a request: the first line of the response, or an error of
connecting, writing or reading. -/
abbrev Network := SocketAddr → String → List UInt8 → Except SinkError String

def parseStatusLine (line : String) : ℕ :=
  (((splitWhitespace line)[1]?).bind parseU16).elim 0 UInt16.toNat

def invalidAddress (addr : String) : SinkError :=
  .connection ("invalid address " ++ addr ++ ": invalid socket address syntax")

def OtlpSink.httpPost (sink : OtlpSink) (network : Network) (url : String) (body : List UInt8) :
    Except SinkError ℕ := do
  let target ← postTarget url
  match parseSocketAddr target.addr with
  | none => .error (invalidAddress target.addr)
  | some addr =>
      let line ← network addr (requestHead target body.length sink.authHeader) body
      return parseStatusLine line

/-! ## An export -/

def OtlpSink.logsUrl (sink : OtlpSink) : String := sink.endpoint ++ "/v1/logs"

/-- The attempts of an export, from a number on. -/
def OtlpSink.exportFrom (sink : OtlpSink) (network : ℕ → Network) (body : List UInt8) :
    ℕ → List ℕ → Except SinkError Unit
  | _, [] => .error (.send "OTLP export: retries exhausted")
  | attempt, _ :: backoffs =>
      match sink.httpPost (network attempt) sink.logsUrl body with
      | .ok status =>
          if 200 ≤ status ∧ status < 300 then .ok ()
          else if status = 429 ∨ 500 ≤ status then
            sink.exportFrom network body (attempt + 1) backoffs
          else .error (.send ("OTLP export failed: HTTP " ++ toString status))
      | .error e =>
          if attempt < sink.retryBackoffMs.length then
            sink.exportFrom network body (attempt + 1) backoffs
          else .error e

/-- `encode` makes the compressed request of a batch. -/
def OtlpSink.exportBatch (sink : OtlpSink)
    (encode : List Occurrence → Except SinkError (List UInt8)) (network : ℕ → Network)
    (batch : List Occurrence) : Except SinkError Unit :=
  if batch.isEmpty then .ok ()
  else do
    let body ← encode batch
    sink.exportFrom network body 0 (0 :: sink.retryBackoffMs)

/-! ## Which endpoints can be dialled -/

/-- The address of the URL for the logs is one, and so a POST fails only if the network
does. -/
structure OtlpSink.Dials (sink : OtlpSink) : Prop where
  address : ∃ target addr, postTarget sink.logsUrl = .ok target ∧
    parseSocketAddr target.addr = some addr
  network : ∀ {network : Network} {body : List UInt8} {e : SinkError},
    sink.httpPost network sink.logsUrl body = .error e →
      ∃ addr head, network addr head body = .error e

/-- What stands between the scheme and the next slash, if the scheme is `http`. -/
def endpointHost (endpoint : String) : Option (List Char) :=
  (stripPrefix (trim endpoint) "http://").map fun rest => rest.toList.takeWhile (· ≠ '/')

/-- An address of version 4, or a socket address. -/
def HostLiteral (host : List Char) : Prop :=
  (∃ ip, Ipv4Text host ip) ∨ ∃ addr, SocketText host addr

/-- Every sink that an endpoint makes can dial. -/
def Dialled (endpoint : String) : Prop :=
  ∀ authHeader sink, OtlpSink.new endpoint authHeader = .ok sink → sink.Dials

/-! ## The two readers of an endpoint -/

theorem httpScheme_toList : "http://".toList = ['h', 't', 't', 'p', ':', '/', '/'] := by decide

theorem stripPrefix_scheme {s : String} {rest : List Char}
    (h : s.toList = "http://".toList ++ rest) :
    stripPrefix s "http://" = some (String.ofList rest) := by
  rw [stripPrefix_eq_some_iff, h, @String.toList_ofList rest]

/-- What is stored: the endpoint without slashes at its end, if it has the scheme and a
host. -/
theorem normalizeHttpEndpoint_ok_iff {endpoint stored : String} :
    normalizeHttpEndpoint endpoint = .ok stored ↔
      stored = trimEndMatches (trim endpoint) '/' ∧
        ∃ rest, stored.toList = "http://".toList ++ rest ∧ rest.takeWhile (· ≠ '/') ≠ [] := by
  rw [normalizeHttpEndpoint]
  generalize trimEndMatches (trim endpoint) '/' = trimmed
  apply Iff.intro
  · intro h
    split_ifs at h
    split at h
    · cases h
    · next rest hrest =>
        split_ifs at h with hhost
        obtain rfl := Except.ok.inj h
        refine ⟨rfl, rest.toList, stripPrefix_eq_some_iff.mp hrest, fun hnil => hhost ?_⟩
        rw [headD_split, hnil]
  · rintro ⟨rfl, rest, hrest, hhost⟩
    have hne : stored ≠ "" := by
      rintro rfl
      cases hrest
    have hplain : startsWith stored "https://" = false := by
      rw [startsWith, hrest, httpScheme_toList]
      rfl
    rw [if_neg hne, if_neg (by rw [hplain]; exact Bool.false_ne_true), stripPrefix_scheme hrest]
    dsimp only
    rw [headD_split, String.toList_ofList, if_neg]
    intro hnil
    exact hhost (String.ofList_injective hnil)

/-- Slashes at the end belong to no host. -/
theorem takeWhile_append_slashes (rest : List Char) {removed : List Char}
    (hremoved : ∀ c ∈ removed, c = '/') :
    (rest ++ removed).takeWhile (· ≠ '/') = rest.takeWhile (· ≠ '/') := by
  have hnone : removed.takeWhile (· ≠ '/') = [] := by
    cases removed with
    | nil => rfl
    | cons c removed => exact List.takeWhile_cons_of_neg (by simp [hremoved c])
  induction rest with
  | nil => exact hnone
  | cons c rest ih => rw [List.cons_append, List.takeWhile_cons, List.takeWhile_cons, ih]

/-- A stored endpoint begins with the scheme and the host, and goes on with a slash if it
goes on. -/
theorem endpointHost_of_normalized {endpoint stored : String}
    (h : normalizeHttpEndpoint endpoint = .ok stored) :
    ∃ host more, endpointHost endpoint = some host ∧ host ≠ [] ∧ '/' ∉ host ∧
      stored.toList = "http://".toList ++ (host ++ more) ∧ ∀ c ∈ more.head?, c = '/' := by
  obtain ⟨rfl, rest, hrest, hhost⟩ := normalizeHttpEndpoint_ok_iff.mp h
  obtain ⟨removed, hsplit, hremoved⟩ := toList_eq_trimEndMatches_append (trim endpoint) '/'
  rw [hrest, List.append_assoc] at hsplit
  refine ⟨rest.takeWhile (· ≠ '/'), rest.dropWhile (· ≠ '/'), ?_, hhost, ?_, ?_, ?_⟩
  · rw [endpointHost, stripPrefix_scheme hsplit, Option.map_some, String.toList_ofList,
      takeWhile_append_slashes rest hremoved]
  · intro hmem
    have hne := List.mem_takeWhile_imp hmem
    simp at hne
  · rw [List.takeWhile_append_dropWhile]
    exact hrest
  · intro c hc
    have hne := List.head?_dropWhile_not (fun c => decide (c ≠ '/')) rest
    rw [hc] at hne
    simpa using hne

/-- An endpoint with a host is accepted. -/
theorem normalized_of_endpointHost {endpoint : String} {host : List Char}
    (hhost : endpointHost endpoint = some host) (hne : host ≠ []) :
    ∃ stored, normalizeHttpEndpoint endpoint = .ok stored := by
  obtain ⟨rest, hstrip, rfl⟩ := Option.map_eq_some_iff.mp hhost
  have hslash : ∀ c ∈ rest.toList.takeWhile (· ≠ '/'), c ≠ '/' := fun c hc => by
    simpa using List.mem_takeWhile_imp hc
  have hfront : "http://".toList ++ rest.toList.takeWhile (· ≠ '/') <+:
      (trimEndMatches (trim endpoint) '/').toList := by
    apply prefix_trimEndMatches
    · rw [stripPrefix_eq_some_iff.mp hstrip]
      exact (List.prefix_append_right_inj _).mpr (List.takeWhile_prefix _)
    · intro c hc
      rw [List.getLast?_append_of_ne_nil _ hne] at hc
      exact hslash c (List.mem_of_getLast? hc)
  obtain ⟨more, hmore⟩ := hfront
  rw [List.append_assoc] at hmore
  refine ⟨_, normalizeHttpEndpoint_ok_iff.mpr ⟨rfl, _, hmore.symm, ?_⟩⟩
  intro hnil
  rw [List.takeWhile_append_of_pos (fun c hc => decide_eq_true (hslash c hc))] at hnil
  exact hne (List.append_eq_nil_iff.mp hnil).1

/-- The URL for the logs leads to the host of the endpoint, at port 80 if none is given. -/
theorem postTarget_logsUrl {sink : OtlpSink} {host more : List Char} (hslash : '/' ∉ host)
    (hendpoint : sink.endpoint.toList = "http://".toList ++ (host ++ more))
    (hmore : ∀ c ∈ more.head?, c = '/') :
    ∃ path, postTarget sink.logsUrl =
      .ok ⟨String.ofList host, path, hostAddr (String.ofList host)⟩ := by
  have hrest : ∃ right, more ++ "/v1/logs".toList = '/' :: right := by
    cases more with
    | nil => exact ⟨_, rfl⟩
    | cons c more =>
        obtain rfl := hmore c rfl
        exact ⟨_, rfl⟩
  obtain ⟨right, hright⟩ := hrest
  have hurl : sink.logsUrl.toList = "http://".toList ++ (host ++ '/' :: right) := by
    rw [OtlpSink.logsUrl, String.toList_append, hendpoint, List.append_assoc, List.append_assoc,
      hright]
  refine ⟨"/" ++ String.ofList right, ?_⟩
  rw [postTarget, stripPrefix_scheme hurl]
  dsimp only
  rw [splitOnce_append hslash]

/-! ## Addresses -/

/-- The port that is added is one. -/
theorem decimalText_80 : DecimalText (2 ^ 16) ['8', '0'] 80 where
  ne_nil := List.cons_ne_nil _ _
  digits c hc := by
    rcases List.mem_pair.mp hc with rfl | rfl
    · rfl
    · rfl
  value := rfl
  lt := by decide

/-- A host with a port, or one to which the port is added, is an address if it is a
literal. -/
theorem parseSocketAddr_hostAddr_iff (host : List Char) :
    (∃ addr, parseSocketAddr (hostAddr (String.ofList host)) = some addr) ↔
      HostLiteral host := by
  simp only [parseSocketAddr_eq_some_iff]
  rw [hostAddr, String.toList_ofList]
  split_ifs with hcolon
  · rw [String.toList_ofList, HostLiteral, or_iff_right]
    rintro ⟨ip, hip⟩
    exact colon_not_mem_ipv4 hip hcolon
  · rw [String.toList_append, String.toList_ofList]
    apply Iff.intro
    · rintro ⟨addr, ⟨front, port, ip, n, heq, hfront, -⟩ |
        ⟨front, scope, port, groups, scopeId, n, heq, hfront, -⟩⟩
      · have hport : ':' ∉ ['8', '0'] := by decide
        have hsame := (List.append_cons_inj_of_notMem hcolon hport).mp heq
        exact .inl ⟨ip, hsame.1 ▸ hfront⟩
      · -- An address of version 6 has colons of its own.
        have hcount := congrArg (List.count ':') heq
        have hown := List.count_pos_iff.mpr (colon_mem_ipv6 hfront)
        have hadded : List.count ':' ":80".toList = 1 := rfl
        rw [List.count_append, List.count_eq_zero.mpr hcolon, hadded] at hcount
        simp only [List.count_cons, List.count_append] at hcount
        simp at hcount
        omega
    · rintro (⟨ip, hip⟩ | ⟨addr, haddr⟩)
      · exact ⟨_, .inl ⟨host, _, ip, 80, rfl, hip, decimalText_80, rfl⟩⟩
      · exact absurd (colon_mem_socket haddr) hcolon

/-! ## Exports -/

/-- A POST to an address is what the network makes of it. -/
theorem httpPost_of_address {sink : OtlpSink} {target : PostTarget} {addr : SocketAddr}
    (htarget : postTarget sink.logsUrl = .ok target)
    (haddr : parseSocketAddr target.addr = some addr) (network : Network) (body : List UInt8) :
    sink.httpPost network sink.logsUrl body =
      (network addr (requestHead target body.length sink.authHeader) body).map
        parseStatusLine := by
  simp only [OtlpSink.httpPost, htarget, haddr, bind, Except.bind]
  cases network addr (requestHead target body.length sink.authHeader) body <;> rfl

/-- A POST to anything else fails before it reaches the network. -/
theorem httpPost_of_no_address {sink : OtlpSink} {target : PostTarget}
    (htarget : postTarget sink.logsUrl = .ok target)
    (haddr : parseSocketAddr target.addr = none) (network : Network) (body : List UInt8) :
    sink.httpPost network sink.logsUrl body = .error (invalidAddress target.addr) := by
  simp only [OtlpSink.httpPost, htarget, haddr, bind, Except.bind]

/-- Where no POST reaches the network, all attempts are made in vain. -/
theorem exportFrom_of_error {sink : OtlpSink} {network : ℕ → Network} {body : List UInt8}
    {e : SinkError} (h : ∀ attempt, sink.httpPost (network attempt) sink.logsUrl body = .error e)
    {attempt : ℕ} {backoffs : List ℕ}
    (hbackoffs : attempt + backoffs.length = sink.retryBackoffMs.length + 1)
    (hne : backoffs ≠ []) : sink.exportFrom network body attempt backoffs = .error e := by
  induction backoffs generalizing attempt with
  | nil => exact absurd rfl hne
  | cons backoff backoffs ih =>
      rw [List.length_cons] at hbackoffs
      rw [OtlpSink.exportFrom, h]
      dsimp only
      split_ifs with hmore
      · refine ih (by omega) ?_
        rintro rfl
        rw [List.length_nil] at hbackoffs
        omega
      · rfl

/-- A sink with an endpoint of this host dials if the host is a literal. -/
theorem dials_iff {sink : OtlpSink} {host more : List Char} (hslash : '/' ∉ host)
    (hendpoint : sink.endpoint.toList = "http://".toList ++ (host ++ more))
    (hmore : ∀ c ∈ more.head?, c = '/') : sink.Dials ↔ HostLiteral host := by
  obtain ⟨path, htarget⟩ := postTarget_logsUrl hslash hendpoint hmore
  rw [← parseSocketAddr_hostAddr_iff]
  apply Iff.intro
  · intro hdials
    obtain ⟨target, addr, htarget', haddr⟩ := hdials.address
    obtain rfl := Except.ok.inj (htarget.symm.trans htarget')
    exact ⟨addr, haddr⟩
  · rintro ⟨addr, haddr⟩
    refine ⟨⟨_, addr, htarget, haddr⟩, fun {network body e} hpost => ?_⟩
    have hanswer : ∀ answer : Except SinkError String,
        answer.map parseStatusLine = .error e → answer = .error e := by
      rintro (e' | line) h
      · cases h
        rfl
      · cases h
    rw [httpPost_of_address htarget haddr] at hpost
    exact ⟨addr, _, hanswer _ hpost⟩

/-- Whoever does not dial loses every batch, whatever the network is like. -/
theorem exportBatch_of_not_literal {sink : OtlpSink} {host more : List Char}
    (hslash : '/' ∉ host) (hendpoint : sink.endpoint.toList = "http://".toList ++ (host ++ more))
    (hmore : ∀ c ∈ more.head?, c = '/') (hliteral : ¬ HostLiteral host)
    {encode : List Occurrence → Except SinkError (List UInt8)} {batch : List Occurrence}
    (hbatch : batch ≠ []) {body : List UInt8} (hbody : encode batch = .ok body)
    (network : ℕ → Network) :
    sink.exportBatch encode network batch =
      .error (invalidAddress (hostAddr (String.ofList host))) := by
  obtain ⟨path, htarget⟩ := postTarget_logsUrl hslash hendpoint hmore
  have haddr := mt (parseSocketAddr_hostAddr_iff host).mp hliteral
  rw [← Option.isSome_iff_exists, Option.not_isSome_iff_eq_none] at haddr
  rw [OtlpSink.exportBatch, if_neg (by simpa using hbatch), hbody]
  refine exportFrom_of_error (fun attempt => ?_) (Nat.zero_add _) (List.cons_ne_nil _ _)
  exact httpPost_of_no_address htarget haddr (network attempt) body

/-- Whoever dials loses a batch only to the network or to the collector's answer. -/
theorem exportFrom_error {sink : OtlpSink} (hdials : sink.Dials) {network : ℕ → Network}
    {body : List UInt8} {e : SinkError} {attempt : ℕ} {backoffs : List ℕ}
    (h : sink.exportFrom network body attempt backoffs = .error e) :
    (∃ attempt addr head, network attempt addr head body = .error e) ∨
      (∃ status : ℕ, e = .send ("OTLP export failed: HTTP " ++ toString status)) ∨
        e = .send "OTLP export: retries exhausted" := by
  induction backoffs generalizing attempt with
  | nil =>
      cases h
      exact .inr (.inr rfl)
  | cons backoff backoffs ih =>
      rw [OtlpSink.exportFrom] at h
      split at h
      · next status hpost =>
          split_ifs at h with hdone hretry
          · exact ih h
          · cases h
            exact .inr (.inl ⟨status, rfl⟩)
      · next e' hpost =>
          split_ifs at h with hretry
          · exact ih h
          · cases h
            obtain ⟨addr, head, hnetwork⟩ := hdials.network hpost
            exact .inl ⟨attempt, addr, head, hnetwork⟩

/-- **Who can be dialled.** An endpoint that is accepted leads to the network if and only if
its host is an IP literal, with a port or, in version 4, without. -/
theorem dialled_iff (endpoint : String) :
    Dialled endpoint ↔
      ∀ host, endpointHost endpoint = some host → host = [] ∨ HostLiteral host := by
  apply Iff.intro
  · intro hdialled host hhost
    by_cases hne : host = []
    · exact .inl hne
    · obtain ⟨stored, hstored⟩ := normalized_of_endpointHost hhost hne
      obtain ⟨host', more, hhost', -, hslash, hendpoint, hmore⟩ :=
        endpointHost_of_normalized hstored
      obtain rfl := Option.some.inj (hhost.symm.trans hhost')
      have hsink : OtlpSink.new endpoint none = .ok ⟨stored, none, [500, 1000, 2000]⟩ := by
        rw [OtlpSink.new, hstored]
        rfl
      exact .inr ((dials_iff hslash hendpoint hmore).mp (hdialled none _ hsink))
  · intro hliteral authHeader sink hsink
    cases hstored : normalizeHttpEndpoint endpoint with
    | error e =>
        rw [OtlpSink.new, hstored] at hsink
        cases hsink
    | ok stored =>
        rw [OtlpSink.new, hstored] at hsink
        obtain rfl := Except.ok.inj hsink
        obtain ⟨host, more, hhost, hne, hslash, hendpoint, hmore⟩ :=
          endpointHost_of_normalized hstored
        exact (dials_iff hslash hendpoint hmore).mpr ((hliteral host hhost).resolve_left hne)

/-- The default of the configuration. -/
def defaultEndpoint : String := "http://localhost:4318"

/-- The default is accepted, and `localhost:4318` is no address. -/
theorem not_dialled_default :
    normalizeHttpEndpoint defaultEndpoint = .ok "http://localhost:4318" ∧
      parseSocketAddr "localhost:4318" = none ∧ ¬ Dialled defaultEndpoint := by
  have hstored : normalizeHttpEndpoint defaultEndpoint = .ok "http://localhost:4318" := by rfl
  have hnone : parseSocketAddr "localhost:4318" = none := by decide +kernel
  refine ⟨hstored, hnone, fun hdialled => ?_⟩
  have hsink : OtlpSink.new defaultEndpoint none =
      .ok ⟨"http://localhost:4318", none, [500, 1000, 2000]⟩ := by
    rw [OtlpSink.new, hstored]
    rfl
  obtain ⟨target, addr, htarget, haddr⟩ := (hdialled none _ hsink).address
  have htarget' : postTarget "http://localhost:4318/v1/logs" =
      .ok ⟨"localhost:4318", "/v1/logs", "localhost:4318"⟩ := by rfl
  obtain rfl := Except.ok.inj (htarget'.symm.trans htarget)
  rw [hnone] at haddr
  cases haddr

end Tapio.Sink
