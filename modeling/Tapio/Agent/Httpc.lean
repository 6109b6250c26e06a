/-
# The HTTP client

How the agent reads a response: everything until the connection ends, however it ends
once something has arrived, then the head up to the blank line and what is left as the
body. The length that the head announces is not looked at. Of the errors only the client's
own words are kept, not what the library adds to them.

What the client makes of a response that is cut off depends on the cut. Before the end
of the blank line there is no response. After it there is one with the status of the
whole and a body that is a proper prefix of the body.
-/
import Mathlib.Data.List.Infix
import Tapio.Agent.Client
import Tapio.Json.Text

namespace Tapio.Agent

/-! ## The client -/

structure HttpResponse where
  status : ℕ
  body : List UInt8

/-- How the reads of a connection end. -/
inductive ConnectionEnd
  | closed
  | reset (error : String)
  | failed (error : String)

/-- What the reads of a connection return, one chunk each, and how they end. -/
structure Connection where
  chunks : List (List UInt8)
  ending : ConnectionEnd

/-- The read loop of `read_response`. -/
def readToEnd (maxResponseBytes : ℕ) (ending : ConnectionEnd) :
    List (List UInt8) → List UInt8 → Except String (List UInt8)
  | [], response =>
      match ending with
      | .closed => .ok response
      | .reset e => if response = [] then .error ("read: " ++ e) else .ok response
      | .failed e => .error ("read: " ++ e)
  | chunk :: chunks, response =>
      if chunk = [] then .ok response
      else if (response ++ chunk).length > maxResponseBytes then
        .error ("response exceeded " ++ toString maxResponseBytes ++ " bytes")
      else readToEnd maxResponseBytes ending chunks (response ++ chunk)

def crlf : List UInt8 := [13, 10]

/-- Cut at the first blank line. -/
def splitHead : List UInt8 → Option (List UInt8 × List UInt8)
  | [] => none
  | b :: rest =>
      if (crlf ++ crlf).isPrefixOf (b :: rest) then some ([], rest.drop 3)
      else (splitHead rest).map fun (head, body) => (b :: head, body)

/-- The nine bytes of the version are ASCII, so the status is the next three bytes. -/
def parseStatus (statusLine : String) : Except String ℕ :=
  if ¬ Text.startsWith statusLine "HTTP/1.1 " ∧ ¬ Text.startsWith statusLine "HTTP/1.0 " then
    .error "bad HTTP version"
  else
    match Text.takeBytes 3 (statusLine.toList.drop 9) with
    | none => .error "bad HTTP status"
    | some code =>
        match Text.parseU16 (String.ofList code) with
        | none => .error "bad HTTP status"
        | some status => .ok status.toNat

def parseHead (head : List UInt8) : Except String ℕ :=
  match String.fromUTF8? head.toByteArray with
  | none => .error "headers utf8"
  | some text =>
      match Text.lines text with
      | [] => .error "missing HTTP status"
      | statusLine :: _ => parseStatus statusLine

def readResponse (maxResponseBytes : ℕ) (connection : Connection) :
    Except String HttpResponse := do
  let response ← readToEnd maxResponseBytes connection.ending connection.chunks []
  match splitHead response with
  | none => .error "bad HTTP response"
  | some (head, body) =>
      let status ← parseHead head
      return ⟨status, body⟩

/-- An exchange with its body decoded. -/
def Connection.reply {β : Type} (connection : Connection) (maxResponseBytes : ℕ)
    (decode : List UInt8 → Except String β) : HttpReply β :=
  match readResponse maxResponseBytes connection with
  | .error e => .failed e
  | .ok response => .response response.status (decode response.body)

/-! ## Responses that are cut off -/

/-- A response as a server sends it: a status of three digits, header lines and a body. -/
structure FullResponse where
  status : ℕ
  /-- What follows the status in its line: the reason. -/
  reason : List UInt8
  headers : List (List UInt8)
  body : List UInt8
  status_range : 100 ≤ status ∧ status < 1000
  reason_line : 13 ∉ reason ∧ 10 ∉ reason
  header_line : ∀ header ∈ headers, header ≠ [] ∧ 13 ∉ header ∧ 10 ∉ header

/-- `HTTP/1.1` and the status. -/
def FullResponse.version (full : FullResponse) : List Char :=
  "HTTP/1.1 ".toList ++ Nat.toDigits 10 full.status

def FullResponse.statusLine (full : FullResponse) : List UInt8 :=
  Json.utf8 full.version ++ full.reason

def FullResponse.bytes (full : FullResponse) : List UInt8 :=
  ((full.statusLine :: full.headers).flatMap fun line => line ++ crlf) ++ crlf ++ full.body

/-- Some bytes of the response have arrived, but not all, when the connection is closed
or reset. -/
structure Connection.Truncates (connection : Connection) (full : FullResponse) : Prop where
  front : connection.chunks.flatten <+: full.bytes
  proper : connection.chunks.flatten ≠ full.bytes
  chunk_ne_nil : ∀ chunk ∈ connection.chunks, chunk ≠ []
  ending : connection.ending = .closed ∨
    (∃ error, connection.ending = .reset error) ∧ connection.chunks ≠ []

/-! ## What is read of them -/

/-- What the loop returns is what has arrived. -/
theorem readToEnd_eq_ok {max : ℕ} {ending : ConnectionEnd} {chunks : List (List UInt8)}
    (hchunks : ∀ chunk ∈ chunks, chunk ≠ []) {response arrived : List UInt8}
    (h : readToEnd max ending chunks response = .ok arrived) :
    arrived = response ++ chunks.flatten := by
  induction chunks generalizing response with
  | nil =>
      rw [List.flatten_nil, List.append_nil]
      cases ending with
      | closed => exact (Except.ok.inj h).symm
      | reset e =>
          simp only [readToEnd] at h
          split at h
          · cases h
          · exact (Except.ok.inj h).symm
      | failed e => cases h
  | cons chunk rest ih =>
      rw [List.forall_mem_cons] at hchunks
      rw [readToEnd, if_neg hchunks.1] at h
      split at h
      · cases h
      · rw [ih hchunks.2 h, List.flatten_cons, List.append_assoc]

/-- What is cut is the whole, with a blank line between its parts. -/
theorem eq_of_splitHead {response head body : List UInt8}
    (h : splitHead response = some (head, body)) :
    response = head ++ (crlf ++ crlf) ++ body := by
  induction response generalizing head with
  | nil => cases h
  | cons b rest ih =>
      rw [splitHead] at h
      split at h
      · next hblank =>
          obtain ⟨rfl, rfl⟩ := Prod.mk.inj (Option.some.inj h)
          exact (List.prefix_iff_eq_append.mp (List.isPrefixOf_iff_prefix.mp hblank)).symm
      · obtain ⟨⟨head', body'⟩, hrest, hcut⟩ := Option.map_eq_some_iff.mp h
        obtain ⟨rfl, rfl⟩ := Prod.mk.inj hcut
        rw [ih hrest]
        rfl

/-- More bytes after the blank line belong to the body. -/
theorem splitHead_append {response head body : List UInt8}
    (h : splitHead response = some (head, body)) (more : List UInt8) :
    splitHead (response ++ more) = some (head, body ++ more) := by
  induction response generalizing head with
  | nil => cases h
  | cons b rest ih =>
      have hlength : 4 ≤ (b :: rest).length := by
        rw [eq_of_splitHead h]
        simp [crlf]
        omega
      -- Whether a blank line begins here does not depend on what comes later.
      have hblank : (crlf ++ crlf).isPrefixOf (b :: (rest ++ more)) =
          (crlf ++ crlf).isPrefixOf (b :: rest) := by
        rw [Bool.eq_iff_iff, List.isPrefixOf_iff_prefix, List.isPrefixOf_iff_prefix]
        constructor
        · intro hprefix
          exact List.prefix_of_prefix_length_le hprefix
            (List.prefix_append (b :: rest) more) hlength
        · intro hprefix
          exact hprefix.trans (List.prefix_append (b :: rest) more)
      rw [splitHead] at h
      rw [List.cons_append, splitHead, hblank]
      split at h
      · next hhere =>
          obtain ⟨rfl, rfl⟩ := Prod.mk.inj (Option.some.inj h)
          rw [if_pos hhere, List.drop_append_of_le_length (Nat.le_of_succ_le_succ hlength)]
      · next hhere =>
          obtain ⟨⟨head', body'⟩, hrest, hcut⟩ := Option.map_eq_some_iff.mp h
          obtain ⟨rfl, rfl⟩ := Prod.mk.inj hcut
          rw [if_neg hhere, ih hrest]
          rfl

/-- The bytes of a line are passed over. -/
theorem splitHead_line {line rest : List UInt8} (hline : 13 ∉ line) :
    splitHead (line ++ rest) =
      (splitHead rest).map fun (head, body) => (line ++ head, body) := by
  induction line with
  | nil => simp
  | cons b line ih =>
      rw [List.mem_cons, not_or] at hline
      have hb : ¬ (crlf ++ crlf).isPrefixOf (b :: (line ++ rest)) := by
        intro hprefix
        exact hline.1 (List.cons_prefix_cons.mp (List.isPrefixOf_iff_prefix.mp hprefix)).1
      rw [List.cons_append, splitHead, if_neg hb, ih hline.2, Option.map_map]
      rfl

/-- An end of a line that is not followed by another one is passed over as well. -/
theorem splitHead_crlf {b : UInt8} (hb : b ≠ 13) (rest : List UInt8) :
    splitHead (crlf ++ b :: rest) =
      (splitHead (b :: rest)).map fun (head, body) => (crlf ++ head, body) := by
  have hreturn : (crlf ++ crlf).isPrefixOf (13 :: 10 :: b :: rest) = false := by
    simp [crlf, List.isPrefixOf, hb.symm]
  have hfeed : (crlf ++ crlf).isPrefixOf (10 :: b :: rest) = false := rfl
  rw [crlf, List.cons_append, List.cons_append, List.nil_append, splitHead,
    if_neg (Bool.eq_false_iff.mp hreturn), splitHead, if_neg (Bool.eq_false_iff.mp hfeed),
    Option.map_map]
  rfl

/-- The head of lines ends at the blank line after them. -/
theorem splitHead_lines {line : List UInt8} {lines : List (List UInt8)} (hline : 13 ∉ line)
    (hlines : ∀ line ∈ lines, line ≠ [] ∧ 13 ∉ line) (body : List UInt8) :
    ∃ others, splitHead (((line :: lines).flatMap fun line => line ++ crlf) ++ crlf ++ body) =
      some (line ++ others, body) := by
  induction lines generalizing line with
  | nil =>
      refine ⟨[], ?_⟩
      have hbytes : ([line].flatMap fun line => line ++ crlf) ++ crlf ++ body =
          line ++ (crlf ++ crlf ++ body) := by
        simp
      rw [hbytes, splitHead_line hline]
      rfl
  | cons next lines ih =>
      rw [List.forall_mem_cons] at hlines
      obtain ⟨others, hothers⟩ := ih hlines.1.2 hlines.2
      obtain ⟨b, later, rfl⟩ := List.exists_cons_of_ne_nil hlines.1.1
      have hb : b ≠ 13 := fun hb => hlines.1.2 (hb ▸ List.mem_cons_self)
      have hbytes : ((line :: (b :: later) :: lines).flatMap fun line => line ++ crlf) ++
          crlf ++ body =
          line ++ (crlf ++ ((((b :: later) :: lines).flatMap fun line => line ++ crlf) ++
            crlf ++ body)) := by
        simp
      refine ⟨crlf ++ (b :: later ++ others), ?_⟩
      rw [hbytes, splitHead_line hline]
      rw [List.flatMap_cons, List.cons_append, List.cons_append, List.cons_append,
        List.cons_append] at hothers ⊢
      rw [splitHead_crlf hb, hothers]
      rfl

theorem FullResponse.mem_version {full : FullResponse} {c : Char} (hc : c ∈ full.version) :
    32 ≤ c.toNat ∧ c.toNat < 128 := by
  rcases List.mem_append.mp hc with hversion | hdigit
  · have hall : "HTTP/1.1 ".toList.all fun c => 32 ≤ c.toNat && c.toNat < 128 := by decide +kernel
    simpa using List.all_eq_true.mp hall c hversion
  · have hrange := Text.isDigit_iff_toNat.mp (Text.isDigit_toDigits hdigit)
    omega

/-- **The body of a response that is cut off** is a proper prefix of the body, and the
head is whole. -/
theorem FullResponse.splitHead_front (full : FullResponse) {front head body : List UInt8}
    (hfront : front <+: full.bytes) (hproper : front ≠ full.bytes)
    (h : splitHead front = some (head, body)) :
    full.statusLine <+: head ∧ body <+: full.body ∧ body ≠ full.body := by
  obtain ⟨more, hmore⟩ := hfront
  have hstatus : 13 ∉ full.statusLine := by
    rw [statusLine, List.mem_append, not_or, Json.utf8_of_ascii fun c hc => (mem_version hc).2]
    refine ⟨fun hmem => ?_, full.reason_line.1⟩
    obtain ⟨c, hc, hreturn⟩ := List.mem_map.mp hmem
    have hrange := mem_version hc
    have hbyte := congrArg UInt8.toNat hreturn
    rw [UInt8.toNat_ofNat'] at hbyte
    simp at hbyte
    omega
  obtain ⟨others, hfull⟩ := splitHead_lines hstatus
    (fun header hheader => ⟨(full.header_line header hheader).1,
      (full.header_line header hheader).2.1⟩) full.body
  have hlonger := splitHead_append h more
  rw [hmore, bytes, hfull] at hlonger
  obtain ⟨rfl, hbody⟩ := Prod.mk.inj (Option.some.inj hlonger)
  refine ⟨List.prefix_append _ _, ⟨more, hbody.symm⟩, fun hsame => ?_⟩
  have hnone : more = [] := by
    rw [hsame] at hbody
    exact List.append_right_eq_self.mp hbody.symm
  rw [hnone, List.append_nil] at hmore
  exact hproper hmore

/-- The bytes that a text was decoded from. -/
theorem utf8_of_fromUTF8? {bytes : List UInt8} {text : String}
    (h : String.fromUTF8? bytes.toByteArray = some text) : Json.utf8 text.toList = bytes := by
  rw [String.fromUTF8?] at h
  split at h
  · next hvalid =>
      obtain rfl := Option.some.inj h
      simp [Json.utf8, String.fromUTF8]
  · cases h

/-- The first line of a text begins as the text does. -/
theorem lines_front {front : List Char} (hne : front ≠ []) (hfeed : '\n' ∉ front)
    (hreturn : '\r' ∉ front) (more : List Char) :
    ∃ rest others, Text.lines (String.ofList (front ++ more)) =
      String.ofList (front ++ rest) :: others := by
  obtain ⟨piece, pieces, hpieces⟩ := Text.splitChars_front hfeed more
  rw [Text.lines, String.toList_ofList, hpieces]
  cases pieces with
  | nil =>
      refine ⟨piece, [], ?_⟩
      rw [Text.linesOfPieces, if_neg (by simp [hne])]
      rfl
  | cons next others =>
      -- A carriage return at the end comes after the front.
      have hline : ∃ rest, Text.stripCarriageReturn (front ++ piece) = front ++ rest := by
        rw [Text.stripCarriageReturn]
        split
        · next hlast =>
            have hpiece : piece ≠ [] := by
              rintro rfl
              rw [List.append_nil] at hlast
              exact hreturn (List.mem_of_getLast? hlast)
            exact ⟨piece.dropLast, List.dropLast_append_of_ne_nil hpiece⟩
        · exact ⟨piece, rfl⟩
      obtain ⟨rest, hline⟩ := hline
      refine ⟨rest, (Text.linesOfPieces (next :: others)).map String.ofList, ?_⟩
      rw [Text.linesOfPieces, hline, List.map_cons]
      exact List.cons_ne_nil _ _

theorem FullResponse.version_ne_nil (full : FullResponse) : full.version ≠ [] :=
  List.append_ne_nil_of_right_ne_nil _ Nat.toDigits_ne_nil

theorem FullResponse.length_digits (full : FullResponse) :
    (Nat.toDigits 10 full.status).length = 3 := by
  have hatMost := (Nat.length_toDigits_le_iff (by decide : 1 < 10) (by decide : 0 < 3)).mpr
    full.status_range.2
  have hmore := mt (Nat.length_toDigits_le_iff (by decide : 1 < 10) (by decide : 0 < 2)).mp
    (Nat.not_lt.mpr full.status_range.1)
  omega

/-- The three digits after the version are the status. -/
theorem FullResponse.parseStatus_version (full : FullResponse) (rest : List Char) :
    parseStatus (String.ofList (full.version ++ rest)) = .ok full.status := by
  have hdigits : ∀ c ∈ Nat.toDigits 10 full.status, c.isDigit := fun c => Text.isDigit_toDigits
  have htext : (String.ofList (full.version ++ rest)).toList = full.version ++ rest :=
    String.toList_ofList
  have hstart : Text.startsWith (String.ofList (full.version ++ rest)) "HTTP/1.1 " = true := by
    rw [Text.startsWith, htext, List.isPrefixOf_iff_prefix]
    exact ⟨Nat.toDigits 10 full.status ++ rest, (List.append_assoc _ _ _).symm⟩
  have htake : Text.takeBytes 3 ((full.version ++ rest).drop 9) =
      some (Nat.toDigits 10 full.status) := by
    have hsize : ∀ c ∈ Nat.toDigits 10 full.status, c.utf8Size = 1 := by
      intro c hc
      have hrange := Text.isDigit_iff_toNat.mp (hdigits c hc)
      rw [Char.utf8Size_eq_one_iff, UInt32.le_iff_toNat_le]
      exact Nat.le_trans hrange.2 (by decide)
    have hdrop : (full.version ++ rest).drop 9 = Nat.toDigits 10 full.status ++ rest := by
      unfold version
      rw [List.append_assoc]
      exact List.drop_left' (by decide +kernel)
    rw [hdrop, ← full.length_digits]
    exact Text.takeBytes_append hsize rest
  have hvalue : Text.digitsValue (Nat.toDigits 10 full.status) < 2 ^ 16 := by
    rw [Text.digitsValue_toDigits]
    exact Nat.lt_trans full.status_range.2 (by decide)
  rw [parseStatus, if_neg (fun hother => hother.1 hstart), htext, htake]
  simp only [Text.parseU16_digits Nat.toDigits_ne_nil hdigits hvalue]
  rw [Text.digitsValue_toDigits] at hvalue ⊢
  rw [UInt16.toNat_ofNat', Nat.mod_eq_of_lt hvalue]

/-- The status of a head that is whole is that of the response. -/
theorem FullResponse.parseHead_eq (full : FullResponse) {head : List UInt8}
    (hhead : full.statusLine <+: head) {status : ℕ} (h : parseHead head = .ok status) :
    status = full.status := by
  obtain ⟨others, rfl⟩ := hhead
  rw [parseHead] at h
  split at h
  · cases h
  · next text htext =>
      have hbytes := utf8_of_fromUTF8? htext
      rw [statusLine, List.append_assoc] at hbytes
      obtain ⟨more, hmore⟩ := Json.eq_append_of_utf8 (fun c hc => (mem_version hc).2) hbytes
      have hfeed : '\n' ∉ full.version := fun hc => absurd (mem_version hc).1 (by decide)
      have hreturn : '\r' ∉ full.version := fun hc => absurd (mem_version hc).1 (by decide)
      obtain ⟨rest, others, hlines⟩ :=
        lines_front full.version_ne_nil hfeed hreturn more
      rw [← hmore, String.ofList_toList] at hlines
      rw [hlines] at h
      exact (Except.ok.inj ((full.parseStatus_version rest).symm.trans h)).symm

/-- **A response that is cut off** is no response, or one with the status of the whole
and a proper prefix of the body. -/
theorem Connection.Truncates.reply_cases {β : Type} {connection : Connection}
    {full : FullResponse} (h : connection.Truncates full) (maxResponseBytes : ℕ)
    (decode : List UInt8 → Except String β) :
    (∃ error, connection.reply maxResponseBytes decode = .failed error) ∨
      ∃ body, body <+: full.body ∧ body ≠ full.body ∧
        connection.reply maxResponseBytes decode = .response full.status (decode body) := by
  rw [reply]
  cases hread : readResponse maxResponseBytes connection with
  | error e => exact .inl ⟨e, rfl⟩
  | ok response =>
      right
      obtain ⟨arrived, harrived, hcut⟩ := Checks.bind_eq_ok hread
      obtain rfl := readToEnd_eq_ok h.chunk_ne_nil harrived
      rw [List.nil_append] at hcut
      split at hcut
      · cases hcut
      · next head body hsplit =>
          obtain ⟨status, hstatus, hresponse⟩ := Checks.bind_eq_ok hcut
          obtain rfl := Except.ok.inj hresponse
          obtain ⟨hhead, hbody, hproper⟩ := full.splitHead_front h.front h.proper hsplit
          obtain rfl := full.parseHead_eq hhead hstatus
          exact ⟨body, hbody, hproper, rfl⟩

end Tapio.Agent
