/-
# Event batches as JSON

The body that an event batch is posted with, and its length: what the request takes
without events, what each event takes, and a comma between each two. An event that
passes the validation has a shortest encoding, and every length from there on occurs.
-/
import Tapio.Json.Length
import Tapio.Wire.Messages

namespace Tapio.Wire

open Json

def EventSeverity.encode : EventSeverity → List Char
  | .debug => encodeString "debug"
  | .info => encodeString "info"
  | .warning => encodeString "warning"
  | .error => encodeString "error"
  | .critical => encodeString "critical"

def WireEvent.encode (format : FloatFormat) (event : WireEvent) : List Char :=
  encodeObject [
    ("type", encodeString event.eventType),
    ("timestamp_unix_nanos", encodeNat event.timestampUnixNanos.toNat),
    ("observer", encodeString event.observer),
    ("severity", event.severity.encode),
    ("facts", event.facts.encode format)]

def EventBatchRequest.encode (format : FloatFormat) (req : EventBatchRequest) : List Char :=
  encodeObject [
    ("wire_version", encodeString req.wireVersion),
    ("agent_id", encodeString req.agentId),
    ("node_name", encodeString req.nodeName),
    ("sequence", encodeNat req.sequence.toNat),
    ("sent_at_unix_nanos", encodeNat req.sentAtUnixNanos.toNat),
    ("events", encodeArray (req.events.map (WireEvent.encode format)))]

/-! `serde_json::to_vec`. These types cannot fail to serialize. -/

def WireEvent.toVec (format : FloatFormat) (event : WireEvent) : List UInt8 :=
  utf8 (event.encode format)

def EventBatchRequest.toVec (format : FloatFormat) (req : EventBatchRequest) : List UInt8 :=
  utf8 (req.encode format)

variable (format : FloatFormat)

/-! ## The length of a batch -/

/-- The events of a batch with the commas between them. -/
def eventsLen (events : List WireEvent) : ℕ :=
  (events.map fun event => (event.toVec format).length).sum + (events.length - 1)

/-- The length of a request that has no events yet. -/
def EventBatchRequest.envelopeLen (req : EventBatchRequest) : ℕ :=
  (EventBatchRequest.toVec format { req with events := [] }).length

theorem EventBatchRequest.toVec_length (req : EventBatchRequest) :
    (req.toVec format).length = req.envelopeLen format + eventsLen format req.events := by
  have hlength (req : EventBatchRequest) :
      (req.toVec format).length = byteLen (req.encode format) :=
    rfl
  have hevents : ((req.events.map (WireEvent.encode format)).map byteLen).sum =
      (req.events.map fun event => (event.toVec format).length).sum := by
    rw [List.map_map]
    rfl
  rw [EventBatchRequest.envelopeLen, eventsLen, hlength, hlength]
  simp only [EventBatchRequest.encode, byteLen_encodeObject, List.map_cons, List.sum_cons,
    fieldLen, byteLen_encodeArray, hevents, List.length_map, List.map_nil, List.sum_nil,
    List.length_cons, List.length_nil]
  omega

/-! ## The length of an event -/

theorem WireEvent.toVec_length (event : WireEvent) :
    (event.toVec format).length =
      66 + byteLen (encodeString event.eventType) +
        byteLen (encodeNat event.timestampUnixNanos.toNat) +
        byteLen (encodeString event.observer) + byteLen event.severity.encode +
        byteLen (event.facts.encode format) := by
  have htype : byteLen (encodeString "type") = 6 := by decide +kernel
  have htimestamp : byteLen (encodeString "timestamp_unix_nanos") = 22 := by decide +kernel
  have hobserver : byteLen (encodeString "observer") = 10 := by decide +kernel
  have hseverity : byteLen (encodeString "severity") = 10 := by decide +kernel
  have hfacts : byteLen (encodeString "facts") = 7 := by decide +kernel
  have hlength : (event.toVec format).length = byteLen (event.encode format) := rfl
  rw [hlength, WireEvent.encode, byteLen_encodeObject]
  simp only [List.map_cons, List.sum_cons, fieldLen, htype, htimestamp, hobserver, hseverity,
    hfacts, List.map_nil, List.sum_nil, List.length_cons, List.length_nil]
  omega

/-- The length of the shortest event that passes the validation. -/
def minEventLen : ℕ := 86

theorem minEventLen_le {event : WireEvent} (hvalid : event.validate = .ok ()) :
    minEventLen ≤ (event.toVec format).length := by
  obtain ⟨-, hobserver, hkernel, -⟩ := event.validate_ok_iff.mp hvalid
  have htype : 7 ≤ event.eventType.toList.length :=
    (List.isPrefixOf_iff_prefix.mp hkernel).length_le
  have hobserver : 1 ≤ event.observer.toList.length := by
    apply List.length_pos_of_ne_nil
    intro hnil
    exact Text.ne_empty_of_trim_ne hobserver (String.toList_eq_nil_iff.mp hnil)
  have hseverity : 6 ≤ byteLen event.severity.encode := by
    cases event.severity <;> decide +kernel
  have htimestamp := byteLen_pos (encodeNat_ne_nil event.timestampUnixNanos.toNat)
  have hfacts := byteLen_pos (event.facts.encode_ne_nil format)
  have htypeLen := length_le_byteLen_encodeString event.eventType
  have hobserverLen := length_le_byteLen_encodeString event.observer
  rw [WireEvent.toVec_length, minEventLen]
  omega

/-- An event whose type is padded. -/
def paddedEvent (padding : ℕ) : WireEvent where
  eventType := String.ofList ("kernel.".toList ++ List.replicate padding 'a')
  timestampUnixNanos := 0
  observer := "a"
  severity := .info
  facts := .number (.posInt 0)

theorem paddedEvent_type (padding : ℕ) :
    (paddedEvent padding).eventType.toList =
      "kernel.".toList ++ List.replicate padding 'a' := String.toList_ofList

theorem paddedEvent_type_chars {padding : ℕ} {c : Char}
    (hc : c ∈ (paddedEvent padding).eventType.toList) : c ∈ "kernel.a".toList := by
  rw [paddedEvent_type, List.mem_append] at hc
  have hletters : "kernel.a".toList = "kernel.".toList ++ ['a'] := by decide
  rw [hletters, List.mem_append]
  exact hc.imp_right fun h => List.mem_singleton.mpr (List.eq_of_mem_replicate h)

theorem paddedEvent_validate (padding : ℕ) : (paddedEvent padding).validate = .ok () := by
  have hobserver : Text.trim "a" ≠ "" := by decide
  have hkernel : Text.startsWith (paddedEvent padding).eventType "kernel." := by
    rw [Text.startsWith, paddedEvent_type]
    exact List.isPrefixOf_iff_prefix.mpr (List.prefix_append _ _)
  have hletters : "kernel.a".toList.all (fun c => ! Text.isWhitespace c) := by decide
  have hvisible : ∀ c ∈ "kernel.a".toList, Text.isWhitespace c = false := by
    intro c hc
    simpa using List.all_eq_true.mp hletters c hc
  have htype : Text.trim (paddedEvent padding).eventType ≠ "" := by
    rw [Text.trim_eq_self fun hne =>
      ⟨hvisible _ (paddedEvent_type_chars (List.head_mem hne)),
        hvisible _ (paddedEvent_type_chars (List.getLast_mem hne))⟩]
    intro hempty
    have hnil := paddedEvent_type padding
    rw [hempty] at hnil
    simp at hnil
  rw [WireEvent.validate_ok_iff]
  exact ⟨htype, hobserver, hkernel, rfl⟩

theorem paddedEvent_toVec_length (padding : ℕ) :
    ((paddedEvent padding).toVec format).length = minEventLen + padding := by
  have htype : byteLen (encodeString (paddedEvent padding).eventType) = 9 + padding := by
    have hletters : "kernel.a".toList.all (fun c => Plain c) := by decide
    have hplain : ∀ c ∈ "kernel.a".toList, Plain c := by
      intro c hc
      simpa using List.all_eq_true.mp hletters c hc
    rw [byteLen_encodeString fun c hc => hplain c (paddedEvent_type_chars hc), paddedEvent_type]
    simp
    omega
  have htimestamp : byteLen (encodeNat 0) = 1 := by decide +kernel
  have hobserver : byteLen (encodeString "a") = 3 := by decide +kernel
  have hseverity : byteLen (EventSeverity.info).encode = 6 := by decide +kernel
  have hfacts : (paddedEvent padding).facts.encode format = encodeNat 0 := rfl
  rw [WireEvent.toVec_length, htype, hfacts]
  change 66 + _ + byteLen (encodeNat 0) + byteLen (encodeString "a") +
    byteLen (EventSeverity.info).encode + byteLen (encodeNat 0) = _
  rw [htimestamp, hobserver, hseverity, minEventLen]
  omega

/-- Every length from the shortest on is that of an event that passes the validation. -/
theorem exists_event {length : ℕ} (h : minEventLen ≤ length) :
    ∃ event : WireEvent, event.validate = .ok () ∧ (event.toVec format).length = length := by
  refine ⟨paddedEvent (length - minEventLen), paddedEvent_validate _, ?_⟩
  rw [paddedEvent_toVec_length]
  omega

end Tapio.Wire
