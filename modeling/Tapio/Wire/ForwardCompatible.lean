/-
# Payloads of a newer sender

A newer sender adds members to the objects of a payload and may put a name that this
side does not know where an enumeration stands. Such a payload is still read, with the
other members unchanged, exactly if every observer status and every event severity is
one that this side knows. A degraded reason may have any name.
-/
import Tapio.Json.Object
import Tapio.Wire.Deserialize

namespace Tapio.Wire

open Json

/-! ## How payloads grow -/

def HelloRequest.Grown : Value → Value → Prop := StructGrown names fun _ => Kept

def HelloResponse.Grown : Value → Value → Prop := StructGrown names fun _ => Kept

def CompiledNetwork.Grown : Value → Value → Prop := StructGrown names fun _ => Kept

def CompiledStorage.Grown : Value → Value → Prop := StructGrown names fun _ => Kept

def CompiledContainer.Grown : Value → Value → Prop := StructGrown names fun _ => Kept

def CompiledNodePmc.Grown : Value → Value → Prop := StructGrown names fun _ => Kept

def CompiledConfig.Grown : Value → Value → Prop :=
  StructGrown names fun
    | "network" => CompiledNetwork.Grown
    | "storage" => CompiledStorage.Grown
    | "container" => CompiledContainer.Grown
    | "node_pmc" => CompiledNodePmc.Grown
    | _ => Kept

def BatchingConfig.Grown : Value → Value → Prop := StructGrown names fun _ => Kept

def ConfigResponse.Grown : Value → Value → Prop :=
  StructGrown names fun
    | "config" => CompiledConfig.Grown
    | "batching" => BatchingConfig.Grown
    | _ => Kept

def HeartbeatCounters.Grown : Value → Value → Prop := StructGrown names fun _ => Kept

/-- The observers keep their names; their statuses and the degraded reasons may be any
strings. -/
def HeartbeatRequest.Grown : Value → Value → Prop :=
  StructGrown names fun
    | "observers" => MapGrown VariantGrown
    | "counters" => HeartbeatCounters.Grown
    | "degraded_reasons" => ListGrown VariantGrown
    | _ => Kept

def HeartbeatResponse.Grown : Value → Value → Prop := StructGrown names fun _ => Kept

def WireEvent.Grown : Value → Value → Prop :=
  StructGrown names fun
    | "severity" => VariantGrown
    | _ => Kept

def EventBatchRequest.Grown : Value → Value → Prop :=
  StructGrown names fun
    | "events" => ListGrown WireEvent.Grown
    | _ => Kept

def EventBatchResponse.Grown : Value → Value → Prop := StructGrown names fun _ => Kept

/-! ## Payloads without enumerations are read the same -/

theorem HelloRequest.unaffected : Unaffected Grown deserialize :=
  unaffected_struct_kept _

theorem HelloResponse.unaffected : Unaffected Grown deserialize :=
  unaffected_struct_kept _

theorem HeartbeatResponse.unaffected : Unaffected Grown deserialize :=
  unaffected_struct_kept _

theorem EventBatchResponse.unaffected : Unaffected Grown deserialize :=
  unaffected_struct_kept _

theorem CompiledNetwork.unaffected : Unaffected Grown deserialize :=
  unaffected_struct_kept _

theorem CompiledStorage.unaffected : Unaffected Grown deserialize :=
  unaffected_struct_kept _

theorem CompiledContainer.unaffected : Unaffected Grown deserialize :=
  unaffected_struct_kept _

theorem CompiledNodePmc.unaffected : Unaffected Grown deserialize :=
  unaffected_struct_kept _

theorem CompiledConfig.unaffected : Unaffected Grown deserialize := by
  apply unaffected_struct
  intro find find' hfind
  rw [member_grown (hfind "network") CompiledNetwork.unaffected,
    member_grown (hfind "storage") CompiledStorage.unaffected,
    member_grown (hfind "container") CompiledContainer.unaffected,
    member_grown (hfind "node_pmc") CompiledNodePmc.unaffected]

theorem BatchingConfig.unaffected : Unaffected Grown deserialize :=
  unaffected_struct_kept _

theorem ConfigResponse.unaffected : Unaffected Grown deserialize := by
  apply unaffected_struct
  intro find find' hfind
  rw [member_grown (hfind "config") CompiledConfig.unaffected,
    member_grown (hfind "batching") BatchingConfig.unaffected,
    member_grown (hfind "wire_version") (unaffected_kept _),
    member_grown (hfind "version") (unaffected_kept _),
    memberOr_grown (hfind "config_hash") (unaffected_kept _)]

/-! ## Heartbeats -/

theorem HeartbeatCounters.unaffected : Unaffected Grown deserialize :=
  unaffected_struct_kept _

/-- Every string that stands for the status of an observer is a status. -/
def HeartbeatRequest.StatusesKnown (v : Value) : Prop :=
  ∀ e ∈ entriesOf (memberValue names v "observers"), ∀ s, e.2 = .string s →
    s ∈ ["running", "disabled", "degraded", "failed"]

/-- The members are the same; an observer's status and a degraded reason are the same
where their values are. -/
structure HeartbeatRequest.Unchanged (v v' : Value) (req req' : HeartbeatRequest) : Prop where
  rest : req' = { req with
    observers := req'.observers, degradedReasons := req'.degradedReasons }
  observers : MapClose VariantClose (entriesOf (memberValue names v "observers"))
    (entriesOf (memberValue names v' "observers")) req.observers req'.observers
  degradedReasons : ListClose VariantClose
    (elementsOf (memberValue names v "degraded_reasons"))
    (elementsOf (memberValue names v' "degraded_reasons"))
    req.degradedReasons req'.degradedReasons

theorem ObserverStatus.reads :
    Reads VariantGrown
      (fun v => ∀ s, v = .string s → s ∈ ["running", "disabled", "degraded", "failed"])
      VariantClose deserialize := by
  have hnamed : ∀ s, (named s).isSome ↔ s ∈ ["running", "disabled", "degraded", "failed"] := by
    intro s
    unfold named
    split <;> simp_all
  have hreads := reads_variant named
  simp only [hnamed] at hreads
  exact hreads

/-- With a catch-all every value is acceptable. -/
theorem DegradedReason.reads :
    Reads VariantGrown (fun _ => True) VariantClose deserialize := by
  have hnamed : ∀ s, (named s).isSome := by
    intro s
    unfold named
    split <;> rfl
  have hreads := reads_variant named
  simp only [hnamed, implies_true] at hreads
  exact hreads

section

variable {v v' : Value} {req req' : HeartbeatRequest}

/-- Only the observers and the degraded reasons of a heartbeat are read anew. -/
theorem HeartbeatRequest.deserialize_grown (h : Grown v v') (hread : deserialize v = some req) :
    member "observers" (readMap ObserverStatus.deserialize) (memberValue names v) =
        some req.observers ∧
      memberOr "degraded_reasons" [] (readList DegradedReason.deserialize)
        (memberValue names v) = some req.degradedReasons ∧
      deserialize v' =
        (member "observers" (readMap ObserverStatus.deserialize) (memberValue names v')).bind
          fun observers =>
            (memberOr "degraded_reasons" [] (readList DegradedReason.deserialize)
              (memberValue names v')).map fun degradedReasons =>
                { req with observers, degradedReasons } := by
  obtain ⟨hbuild, hagain⟩ := readStruct_grown h hread
  have hfind := memberValue_grown h
  simp only [Option.bind_eq_bind, Option.bind_eq_some_iff, Option.some.injEq] at hbuild
  obtain ⟨wireVersion, hwire, agentId, hagent, nodeName, hnode, configVersion, hversion,
    configHash, hhash, uptimeSeconds, huptime, observers, hobservers, counters, hcounters,
    degradedReasons, hreasons, rfl⟩ := hbuild
  refine ⟨hobservers, hreasons, ?_⟩
  rw [deserialize, hagain, member_grown (hfind "wire_version") (unaffected_kept _), hwire,
    member_grown (hfind "agent_id") (unaffected_kept _), hagent,
    member_grown (hfind "node_name") (unaffected_kept _), hnode,
    member_grown (hfind "config_version") (unaffected_kept _), hversion,
    memberOr_grown (hfind "config_hash") (unaffected_kept _), hhash,
    member_grown (hfind "uptime_seconds") (unaffected_kept _), huptime,
    member_grown (hfind "counters") HeartbeatCounters.unaffected, hcounters]
  simp only [Option.bind_eq_bind, Option.bind_some, Option.map_eq_bind, Function.comp_def]

/-- **A heartbeat that has grown** is read exactly if its statuses are known. -/
theorem HeartbeatRequest.reads : Reads Grown StatusesKnown Unchanged deserialize where
  isSome_iff := by
    intro v v' req h hread
    have hfind := memberValue_grown h
    obtain ⟨hobservers, hreasons, hagain⟩ := deserialize_grown h hread
    have hknown := (reads_list DegradedReason.reads).isSome_memberOr
      (fun v x _ => trivial) (hfind "degraded_reasons") hreasons
    obtain ⟨degradedReasons, hreasons'⟩ := Option.isSome_iff_exists.mp hknown
    have hsome : (deserialize v').isSome =
        (member "observers" (readMap ObserverStatus.deserialize)
          (memberValue names v')).isSome := by
      rw [hagain, hreasons']
      cases member "observers" (readMap ObserverStatus.deserialize) (memberValue names v') <;> rfl
    rw [hsome, (reads_map ObserverStatus.reads).isSome_member_iff (hfind "observers") hobservers,
      forall_entriesOf_iff]
    rfl
  close := by
    intro v v' req req' h hread hread'
    have hfind := memberValue_grown h
    obtain ⟨hobservers, hreasons, hagain⟩ := deserialize_grown h hread
    rw [hagain] at hread'
    obtain ⟨observers, hobservers', hrest⟩ := Option.bind_eq_some_iff.mp hread'
    obtain ⟨degradedReasons, hreasons', rfl⟩ := Option.map_eq_some_iff.mp hrest
    constructor
    · rfl
    · obtain ⟨x, x', hx, hx', hclose⟩ :=
        (reads_map ObserverStatus.reads).close_member (hfind "observers")
          hobservers hobservers'
      rw [hx, hx']
      exact hclose
    · exact close_memberOr_list DegradedReason.reads
        (hfind "degraded_reasons") hreasons hreasons'

end

/-! ## Events -/

/-- A string that stands for a severity is a severity. -/
def WireEvent.SeverityKnown (v : Value) : Prop :=
  ∀ s, memberValue names v "severity" = some (.string s) →
    s ∈ ["debug", "info", "warning", "error", "critical"]

/-- The members are the same, the severity where its value is. -/
structure WireEvent.Unchanged (v v' : Value) (event event' : WireEvent) : Prop where
  rest : event' = { event with severity := event'.severity }
  severity : memberValue names v' "severity" = memberValue names v "severity" →
    event'.severity = event.severity

def EventBatchRequest.SeveritiesKnown (v : Value) : Prop :=
  ∀ event ∈ elementsOf (memberValue names v "events"), WireEvent.SeverityKnown event

structure EventBatchRequest.Unchanged (v v' : Value) (req req' : EventBatchRequest) : Prop where
  rest : req' = { req with events := req'.events }
  events : ListClose WireEvent.Unchanged (elementsOf (memberValue names v "events"))
    (elementsOf (memberValue names v' "events")) req.events req'.events

theorem EventSeverity.reads :
    Reads VariantGrown
      (fun v => ∀ s, v = .string s → s ∈ ["debug", "info", "warning", "error", "critical"])
      VariantClose deserialize := by
  have hnamed : ∀ s, (named s).isSome ↔
      s ∈ ["debug", "info", "warning", "error", "critical"] := by
    intro s
    unfold named
    split <;> simp_all
  have hreads := reads_variant named
  simp only [hnamed] at hreads
  exact hreads

/-- Only the severity of an event is read anew. -/
theorem WireEvent.deserialize_grown {v v' : Value} {event : WireEvent} (h : Grown v v')
    (hread : deserialize v = some event) :
    member "severity" EventSeverity.deserialize (memberValue names v) = some event.severity ∧
      deserialize v' =
        (member "severity" EventSeverity.deserialize (memberValue names v')).map
          fun severity => { event with severity } := by
  obtain ⟨hbuild, hagain⟩ := readStruct_grown h hread
  have hfind := memberValue_grown h
  simp only [Option.bind_eq_bind, Option.bind_eq_some_iff, Option.some.injEq] at hbuild
  obtain ⟨eventType, htype, timestampUnixNanos, htimestamp, observer, hobserver, severity,
    hseverity, facts, hfacts, rfl⟩ := hbuild
  refine ⟨hseverity, ?_⟩
  rw [deserialize, hagain, member_grown (hfind "type") (unaffected_kept _), htype,
    member_grown (hfind "timestamp_unix_nanos") (unaffected_kept _), htimestamp,
    member_grown (hfind "observer") (unaffected_kept _), hobserver,
    member_grown (hfind "facts") (unaffected_kept _), hfacts]
  simp only [Option.bind_eq_bind, Option.bind_some, Option.map_eq_bind, Function.comp_def]

theorem WireEvent.reads : Reads Grown SeverityKnown Unchanged deserialize where
  isSome_iff := by
    intro v v' event h hread
    obtain ⟨hseverity, hagain⟩ := deserialize_grown h hread
    rw [hagain, Option.isSome_map,
      EventSeverity.reads.isSome_member_iff (memberValue_grown h "severity") hseverity]
    constructor
    · intro hknown s hs
      exact hknown _ hs s rfl
    · rintro hknown x hx s rfl
      exact hknown s hx
  close := by
    intro v v' event event' h hread hread'
    obtain ⟨hseverity, hagain⟩ := deserialize_grown h hread
    rw [hagain] at hread'
    obtain ⟨severity, hseverity', rfl⟩ := Option.map_eq_some_iff.mp hread'
    constructor
    · rfl
    · intro hsame
      obtain ⟨x, x', hx, hx', hclose⟩ := EventSeverity.reads.close_member
        (memberValue_grown h "severity") hseverity hseverity'
      exact hclose (Option.some.inj (hx'.symm.trans (hsame.trans hx)))

/-- Only the events of a batch are read anew. -/
theorem EventBatchRequest.deserialize_grown {v v' : Value} {req : EventBatchRequest}
    (h : Grown v v') (hread : deserialize v = some req) :
    member "events" (readList WireEvent.deserialize) (memberValue names v) =
        some req.events ∧
      deserialize v' =
        (member "events" (readList WireEvent.deserialize) (memberValue names v')).map
          fun events => { req with events } := by
  obtain ⟨hbuild, hagain⟩ := readStruct_grown h hread
  have hfind := memberValue_grown h
  simp only [Option.bind_eq_bind, Option.bind_eq_some_iff, Option.some.injEq] at hbuild
  obtain ⟨wireVersion, hwire, agentId, hagent, nodeName, hnode, sequence, hsequence,
    sentAtUnixNanos, hsent, events, hevents, rfl⟩ := hbuild
  refine ⟨hevents, ?_⟩
  rw [deserialize, hagain, member_grown (hfind "wire_version") (unaffected_kept _), hwire,
    member_grown (hfind "agent_id") (unaffected_kept _), hagent,
    member_grown (hfind "node_name") (unaffected_kept _), hnode,
    member_grown (hfind "sequence") (unaffected_kept _), hsequence,
    member_grown (hfind "sent_at_unix_nanos") (unaffected_kept _), hsent]
  simp only [Option.bind_eq_bind, Option.bind_some, Option.map_eq_bind, Function.comp_def]

/-- **A batch that has grown** is read exactly if its severities are known. -/
theorem EventBatchRequest.reads : Reads Grown SeveritiesKnown Unchanged deserialize where
  isSome_iff := by
    intro v v' req h hread
    obtain ⟨hevents, hagain⟩ := deserialize_grown h hread
    rw [hagain, Option.isSome_map,
      (reads_list WireEvent.reads).isSome_member_iff (memberValue_grown h "events") hevents,
      forall_elementsOf_iff]
    rfl
  close := by
    intro v v' req req' h hread hread'
    obtain ⟨hevents, hagain⟩ := deserialize_grown h hread
    rw [hagain] at hread'
    obtain ⟨events, hevents', rfl⟩ := Option.map_eq_some_iff.mp hread'
    constructor
    · rfl
    · obtain ⟨x, x', hx, hx', hclose⟩ := (reads_list WireEvent.reads).close_member
        (memberValue_grown h "events") hevents hevents'
      rw [hx, hx']
      exact hclose

/-! ## Payloads -/

inductive PayloadKind
  | helloRequest
  | heartbeatRequest
  | eventBatchRequest
  | configResponse
  | helloResponse
  | heartbeatResponse
  | eventBatchResponse

namespace PayloadKind

/-- The type that a payload is deserialized into. -/
def Payload : PayloadKind → Type
  | helloRequest => HelloRequest
  | heartbeatRequest => HeartbeatRequest
  | eventBatchRequest => EventBatchRequest
  | configResponse => ConfigResponse
  | helloResponse => HelloResponse
  | heartbeatResponse => HeartbeatResponse
  | eventBatchResponse => EventBatchResponse

def deserialize : (kind : PayloadKind) → Reader kind.Payload
  | helloRequest => HelloRequest.deserialize
  | heartbeatRequest => HeartbeatRequest.deserialize
  | eventBatchRequest => EventBatchRequest.deserialize
  | configResponse => ConfigResponse.deserialize
  | helloResponse => HelloResponse.deserialize
  | heartbeatResponse => HeartbeatResponse.deserialize
  | eventBatchResponse => EventBatchResponse.deserialize

/-- The second value is the first with members added and enumerations replaced. -/
def Grown : PayloadKind → Value → Value → Prop
  | helloRequest => HelloRequest.Grown
  | heartbeatRequest => HeartbeatRequest.Grown
  | eventBatchRequest => EventBatchRequest.Grown
  | configResponse => ConfigResponse.Grown
  | helloResponse => HelloResponse.Grown
  | heartbeatResponse => HeartbeatResponse.Grown
  | eventBatchResponse => EventBatchResponse.Grown

/-- The payload is the same, apart from the enumerations whose values were replaced. -/
def Unchanged : (kind : PayloadKind) → Value → Value → kind.Payload → kind.Payload → Prop
  | heartbeatRequest => HeartbeatRequest.Unchanged
  | eventBatchRequest => EventBatchRequest.Unchanged
  | _ => fun _ _ payload payload' => payload' = payload

/-- Every string that stands for an observer status or an event severity is one. -/
def NamesKnown : PayloadKind → Value → Prop
  | heartbeatRequest => HeartbeatRequest.StatusesKnown
  | eventBatchRequest => EventBatchRequest.SeveritiesKnown
  | _ => fun _ => True

/-- Payloads of a kind stay readable when they grow. -/
def ForwardCompatible (kind : PayloadKind) : Prop :=
  ∀ (v v' : Value) (payload : kind.Payload), kind.deserialize v = some payload →
    kind.Grown v v' → ∃ payload', kind.deserialize v' = some payload' ∧
      kind.Unchanged v v' payload payload'

/-- A reader that nothing affects reads every value that has grown. -/
theorem reads_of_unaffected {α : Type} {grown : Value → Value → Prop} {read : Reader α}
    (hread : Unaffected grown read) :
    Reads grown (fun _ => True) (fun _ _ x x' => x' = x) read where
  isSome_iff := by
    intro v v' x h hx
    rw [hread v v' h, hx]
    simp
  close := by
    intro v v' x x' h hx hx'
    rw [hread v v' h] at hx'
    exact Option.some.inj (hx'.symm.trans hx)

theorem reads (kind : PayloadKind) :
    Reads kind.Grown kind.NamesKnown kind.Unchanged kind.deserialize := by
  cases kind with
  | helloRequest => exact reads_of_unaffected HelloRequest.unaffected
  | heartbeatRequest => exact HeartbeatRequest.reads
  | eventBatchRequest => exact EventBatchRequest.reads
  | configResponse => exact reads_of_unaffected ConfigResponse.unaffected
  | helloResponse => exact reads_of_unaffected HelloResponse.unaffected
  | heartbeatResponse => exact reads_of_unaffected HeartbeatResponse.unaffected
  | eventBatchResponse => exact reads_of_unaffected EventBatchResponse.unaffected

/-- **A payload that has grown** is read, with everything else unchanged, exactly if the
observer statuses and the event severities in it are known. -/
theorem deserialize_grown_iff (kind : PayloadKind) {v v' : Value} {payload : kind.Payload}
    (hvalid : kind.deserialize v = some payload) (hgrown : kind.Grown v v') :
    (∃ payload', kind.deserialize v' = some payload' ∧
        kind.Unchanged v v' payload payload') ↔ kind.NamesKnown v' := by
  rw [← (reads kind).isSome_iff hgrown hvalid]
  constructor
  · rintro ⟨payload', hread, -⟩
    exact Option.isSome_iff_exists.mpr ⟨payload', hread⟩
  · intro hsome
    obtain ⟨payload', hread⟩ := Option.isSome_iff_exists.mp hsome
    exact ⟨payload', hread, (reads kind).close hgrown hvalid hread⟩

end PayloadKind

/-! ## A status and a severity of a newer sender -/

/-- A heartbeat whose one observer has the status, with further members and reasons. -/
def heartbeatWith (status : String) (further : List (String × Value)) (reasons : List Value) :
    Value :=
  .object (further ++ [
    ("wire_version", .string wireVersion), ("agent_id", .string "agent"),
    ("node_name", .string "node"), ("config_version", .string "1"),
    ("uptime_seconds", .ofUInt64 60),
    ("observers", .object [("network", .string status)]),
    ("counters", .object (further ++ [
      ("events_total", .ofUInt64 4), ("malformed_events_total", .ofUInt64 0),
      ("lost_events_total", .ofUInt64 0), ("correlation_drops_total", .ofUInt64 0),
      ("sink_drops_total", .ofUInt64 0), ("controller_send_failures_total", .ofUInt64 0)])),
    ("degraded_reasons", .array reasons)])

/-- A batch of one event with the severity. -/
def batchWith (severity : String) : Value :=
  .object [
    ("wire_version", .string wireVersion), ("agent_id", .string "agent"),
    ("node_name", .string "node"), ("sequence", .ofUInt64 1),
    ("sent_at_unix_nanos", .ofUInt64 1),
    ("events", .array [.object [
      ("type", .string "kernel.network.rtt"), ("timestamp_unix_nanos", .ofUInt64 1),
      ("observer", .string "network"), ("severity", .string severity),
      ("facts", .object [])]])]

/-- Heartbeats of which the second has more members, another status and another reason. -/
theorem heartbeatWith_grown (status status' reason reason' : String) :
    PayloadKind.heartbeatRequest.Grown (heartbeatWith status [] [.string reason])
      (heartbeatWith status' [("zone", .string "a")] [.string reason']) := by
  exact .object (.cons ⟨rfl, rfl⟩ (.cons ⟨rfl, rfl⟩ (.cons ⟨rfl, rfl⟩ (.cons ⟨rfl, rfl⟩
    (.cons ⟨rfl, rfl⟩ (.cons ⟨rfl, .object (.cons ⟨rfl, .inr ⟨_, rfl⟩⟩ .nil)⟩
      (.cons ⟨rfl, .object (.cons ⟨rfl, rfl⟩ (.cons ⟨rfl, rfl⟩ (.cons ⟨rfl, rfl⟩
        (.cons ⟨rfl, rfl⟩ (.cons ⟨rfl, rfl⟩ (.cons ⟨rfl, rfl⟩ .nil))))))⟩
        (.cons ⟨rfl, .array (.cons (.inr ⟨_, rfl⟩) .nil)⟩ .nil))))))))

/-- A heartbeat with one more member and a reason that is not known is read. -/
theorem PayloadKind.deserialize_grown_newReason :
    ∃ payload, heartbeatRequest.deserialize
        (heartbeatWith "running" [] [.string "unconfigured"]) = some payload ∧
      ∃ payload', heartbeatRequest.deserialize
          (heartbeatWith "degraded" [("zone", .string "a")] [.string "throttled"]) =
            some payload' ∧
        heartbeatRequest.Unchanged (heartbeatWith "running" [] [.string "unconfigured"])
          (heartbeatWith "degraded" [("zone", .string "a")] [.string "throttled"])
          payload payload' := by
  have hsome : (heartbeatRequest.deserialize
      (heartbeatWith "running" [] [.string "unconfigured"])).isSome := by rfl
  obtain ⟨payload, hvalid⟩ := Option.isSome_iff_exists.mp hsome
  refine ⟨payload, hvalid, (deserialize_grown_iff heartbeatRequest hvalid ?_).mpr ?_⟩
  · exact heartbeatWith_grown _ _ _ _
  · intro e he s hs
    obtain rfl := List.mem_singleton.mp he
    cases hs
    decide

/-- A status `paused` fails the whole heartbeat, a severity `notice` the whole batch. -/
theorem PayloadKind.not_forwardCompatible_newNames :
    heartbeatRequest.deserialize
        (heartbeatWith "paused" [("zone", .string "a")] [.string "unconfigured"]) = none ∧
      eventBatchRequest.deserialize (batchWith "notice") = none ∧
      ¬ heartbeatRequest.ForwardCompatible ∧ ¬ eventBatchRequest.ForwardCompatible := by
  refine ⟨rfl, rfl, ?_, ?_⟩
  · intro hcompatible
    have hsome : (heartbeatRequest.deserialize
        (heartbeatWith "running" [] [.string "unconfigured"])).isSome := by rfl
    obtain ⟨payload, hvalid⟩ := Option.isSome_iff_exists.mp hsome
    obtain ⟨payload', hread, -⟩ := hcompatible _ _ payload hvalid
      (heartbeatWith_grown "running" "paused" "unconfigured" "unconfigured")
    cases hread
  · intro hcompatible
    have hsome : (eventBatchRequest.deserialize (batchWith "info")).isSome := by rfl
    obtain ⟨payload, hvalid⟩ := Option.isSome_iff_exists.mp hsome
    have hgrown : eventBatchRequest.Grown (batchWith "info") (batchWith "notice") :=
      .object (.cons ⟨rfl, rfl⟩ (.cons ⟨rfl, rfl⟩ (.cons ⟨rfl, rfl⟩ (.cons ⟨rfl, rfl⟩
        (.cons ⟨rfl, rfl⟩ (.cons ⟨rfl, .array (.cons (.object (.cons ⟨rfl, rfl⟩
          (.cons ⟨rfl, rfl⟩ (.cons ⟨rfl, rfl⟩ (.cons ⟨rfl, .inr ⟨_, rfl⟩⟩
            (.cons ⟨rfl, rfl⟩ .nil)))))) .nil)⟩ .nil))))))
    obtain ⟨payload', hread, -⟩ := hcompatible _ _ payload hvalid hgrown
    cases hread

end Tapio.Wire
