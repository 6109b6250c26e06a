/-
# The identity in a config request

An agent names itself in the query of its config request, percent-encoded. The
controller takes the values of the query as they stand, so it reads the agent's own
identity exactly when there is nothing in it to encode.
-/
import Tapio.Controller.ConfigEndpoint
import Tapio.Text.Percent

namespace Tapio.Agent

open Controller

/-- The base URL of a controller: it has no query and no fragment of its own. -/
structure BaseUrl where
  text : String
  no_query : '?' ∉ text.toList
  no_fragment : '#' ∉ text.toList

/-- The bytes that `url_component` does not escape: letters, digits, `-`, `_`, `.` and `~`. -/
def isUnreserved (byte : UInt8) : Bool :=
  (0x41 ≤ byte && byte ≤ 0x5A) || (0x61 ≤ byte && byte ≤ 0x7A) ||
    (0x30 ≤ byte && byte ≤ 0x39) || byte == 0x2D || byte == 0x5F || byte == 0x2E || byte == 0x7E

def urlComponent (value : String) : String := Text.percentEncode isUnreserved value

/-- A name and its value in a query. -/
def queryPair (name value : String) : List Char := name.toList ++ '=' :: value.toList

/-- The query that names the agent and its node. -/
def identityQuery (controller : ControllerConfig) : List Char :=
  queryPair "agent_id" (urlComponent controller.agentId) ++
    '&' :: queryPair "node_name" (urlComponent controller.nodeName)

def configUrl (endpoint : BaseUrl) (controller : ControllerConfig) : String :=
  String.ofList (endpoint.text.toList.rdropWhile (· = '/') ++ "/v1/agents/config".toList ++
    '?' :: identityQuery controller)

/-- The query of a URI: what is between the first question mark and the fragment. -/
def uriQuery (uri : String) : Option String :=
  (Text.splitOnce (String.ofList (uri.toList.takeWhile (· ≠ '#'))) '?').map Prod.snd

/-- The controller reads the identity that the agent goes by. -/
def IdentityKept (endpoint : BaseUrl) (controller : ControllerConfig) : Prop :=
  queryParam (uriQuery (configUrl endpoint controller)) "agent_id" = some controller.agentId ∧
    queryParam (uriQuery (configUrl endpoint controller)) "node_name" = some controller.nodeName

/-- Nothing in the text is escaped. -/
def Unreserved (text : String) : Prop := ∀ c ∈ text.toList, Text.Kept isUnreserved c

instance : DecidablePred Unreserved := fun text =>
  List.decidableBAll (Text.Kept isUnreserved) text.toList

/-- An identity that is kept is the one the config is looked up under. -/
theorem requestedConfig_of_identityKept {endpoint : BaseUrl} {controller : ControllerConfig}
    (h : IdentityKept endpoint controller) (inner : InnerState) :
    requestedConfig (uriQuery (configUrl endpoint controller)) inner =
      configFor controller.agentId controller.nodeName inner := by
  simp only [requestedConfig, h.1, h.2]

/-! ## The query of the URL -/

theorem toNat_lt_of_isUnreserved {byte : UInt8} (h : isUnreserved byte) : byte.toNat < 128 := by
  simp only [isUnreserved, Bool.or_eq_true, Bool.and_eq_true, decide_eq_true_eq,
    UInt8.le_iff_toNat_le, beq_iff_eq, ← UInt8.toNat_inj] at h
  have hdigits : (0x7A : UInt8).toNat = 122 ∧ (0x5A : UInt8).toNat = 90 ∧
      (0x39 : UInt8).toNat = 57 ∧ (0x2D : UInt8).toNat = 45 ∧ (0x5F : UInt8).toNat = 95 ∧
      (0x2E : UInt8).toNat = 46 ∧ (0x7E : UInt8).toNat = 126 := by decide
  omega

/-- A character that an encoded component cannot contain. -/
def IsSeparator (c : Char) : Prop := c = '&' ∨ c = '=' ∨ c = '?' ∨ c = '#'

theorem not_isEncoded_of_isSeparator {c : Char} (hc : IsSeparator c) :
    ¬ Text.IsEncoded isUnreserved c := by
  rintro (⟨byte, hkeep, heq⟩ | rfl | hdigit)
  · have hbyte : c.toNat = byte.toNat := by
      rw [heq, Text.toNat_ofNat_of_lt (toNat_lt_of_isUnreserved hkeep)]
    have hreserved : isUnreserved (UInt8.ofNat c.toNat) = false := by
      rcases hc with rfl | rfl | rfl | rfl <;> decide
    rw [hbyte, UInt8.ofNat_toNat, hkeep] at hreserved
    exact Bool.noConfusion hreserved
  · rcases hc with h | h | h | h <;> exact absurd h (by decide)
  · rcases hc with rfl | rfl | rfl | rfl <;> exact absurd hdigit (by decide)

theorem not_mem_urlComponent {c : Char} (hc : IsSeparator c) (value : String) :
    c ∉ (urlComponent value).toList :=
  fun hmem => not_isEncoded_of_isSeparator hc (Text.isEncoded_of_mem_percentEncode hmem)

theorem not_mem_queryPair {c : Char} (hc : c ≠ '=') {name value : String}
    (hname : c ∉ name.toList) (hvalue : c ∉ value.toList) : c ∉ queryPair name value := by
  rw [queryPair, List.mem_append, List.mem_cons, not_or, not_or]
  exact ⟨hname, hc, hvalue⟩

theorem not_mem_identityQuery {c : Char} (hc : c = '?' ∨ c = '#') (controller : ControllerConfig) :
    c ∉ identityQuery controller := by
  have hvalue := not_mem_urlComponent (show IsSeparator c from .inr (.inr hc))
  have hne : c ≠ '=' ∧ c ≠ '&' := by rcases hc with rfl | rfl <;> decide
  have hagent : c ∉ "agent_id".toList := by rcases hc with rfl | rfl <;> simp
  have hnode : c ∉ "node_name".toList := by rcases hc with rfl | rfl <;> simp
  rw [identityQuery, List.mem_append, List.mem_cons, not_or, not_or]
  exact ⟨not_mem_queryPair hne.1 hagent (hvalue _), hne.2,
    not_mem_queryPair hne.1 hnode (hvalue _)⟩

theorem uriQuery_configUrl (endpoint : BaseUrl) (controller : ControllerConfig) :
    uriQuery (configUrl endpoint controller) =
      some (String.ofList (identityQuery controller)) := by
  have hbase : ∀ c ∈ endpoint.text.toList.rdropWhile (· = '/'), c ∈ endpoint.text.toList :=
    fun c hc => (List.rdropWhile_prefix _ _).subset hc
  have hpath : ∀ c, (c = '?' ∨ c = '#') → c ∉ "/v1/agents/config".toList := by
    rintro c (rfl | rfl) <;> simp
  have hleft : '?' ∉ endpoint.text.toList.rdropWhile (· = '/') ++
      "/v1/agents/config".toList := by
    rw [List.mem_append, not_or]
    exact ⟨fun hc => endpoint.no_query (hbase _ hc), hpath _ (.inl rfl)⟩
  have hwhole : '#' ∉ endpoint.text.toList.rdropWhile (· = '/') ++
      "/v1/agents/config".toList ++ '?' :: identityQuery controller := by
    rw [List.mem_append, List.mem_append, List.mem_cons, not_or, not_or, not_or]
    exact ⟨⟨fun hc => endpoint.no_fragment (hbase _ hc), hpath _ (.inr rfl)⟩, by decide,
      not_mem_identityQuery (.inr rfl) controller⟩
  have hkept := List.takeWhile_eq_self_iff.mpr fun c hc =>
    decide_eq_true (p := c ≠ '#') fun heq => hwhole (heq ▸ hc)
  rw [uriQuery, configUrl, String.toList_ofList, hkept, Text.splitOnce_append hleft]
  rfl

/-! ## What the controller reads -/

theorem split_identityQuery (controller : ControllerConfig) :
    Text.split (String.ofList (identityQuery controller)) '&' =
      [String.ofList (queryPair "agent_id" (urlComponent controller.agentId)),
       String.ofList (queryPair "node_name" (urlComponent controller.nodeName))] := by
  have hvalue := not_mem_urlComponent (show IsSeparator '&' from .inl rfl)
  have hagent := not_mem_queryPair (show '&' ≠ '=' by decide)
    (show '&' ∉ "agent_id".toList by simp) (hvalue controller.agentId)
  have hnode := not_mem_queryPair (show '&' ≠ '=' by decide)
    (show '&' ∉ "node_name".toList by simp) (hvalue controller.nodeName)
  rw [Text.split, String.toList_ofList, identityQuery, Text.splitChars_append hagent,
    Text.splitChars_of_not_mem hnode, List.map_cons, List.map_cons, List.map_nil]

theorem splitOnce_queryPair {name : String} (hname : '=' ∉ name.toList) (value : String) :
    Text.splitOnce (String.ofList (queryPair name value)) '=' = some (name, value) := by
  rw [queryPair, Text.splitOnce_append hname, String.ofList_toList, String.ofList_toList]

/-- The controller reads what the agent wrote, and leaves it encoded. -/
theorem queryParam_configUrl (endpoint : BaseUrl) (controller : ControllerConfig) :
    queryParam (uriQuery (configUrl endpoint controller)) "agent_id" =
        some (urlComponent controller.agentId) ∧
      queryParam (uriQuery (configUrl endpoint controller)) "node_name" =
        some (urlComponent controller.nodeName) := by
  have hagent := splitOnce_queryPair (show '=' ∉ "agent_id".toList by simp)
    (urlComponent controller.agentId)
  have hnode := splitOnce_queryPair (show '=' ∉ "node_name".toList by simp)
    (urlComponent controller.nodeName)
  have hother : ¬ "agent_id" = "node_name" := by decide
  simp only [uriQuery_configUrl, queryParam, Option.bind_eq_bind, Option.bind_some,
    split_identityQuery, List.findSome?_cons, hagent, hnode, hother, if_true, if_false, and_self]

theorem urlComponent_eq_self_iff (value : String) :
    urlComponent value = value ↔ Unreserved value :=
  Text.percentEncode_eq_self_iff (fun _ => toNat_lt_of_isUnreserved) value

example : urlComponent "node/worker 1" = "node%2Fworker%201" := by decide

/-- **Exactly the identities with nothing to escape reach the controller as they are.** -/
theorem identityKept_iff (endpoint : BaseUrl) (controller : ControllerConfig) :
    IdentityKept endpoint controller ↔
      Unreserved controller.agentId ∧ Unreserved controller.nodeName := by
  obtain ⟨hagent, hnode⟩ := queryParam_configUrl endpoint controller
  rw [IdentityKept, hagent, hnode, Option.some_inj, Option.some_inj, urlComponent_eq_self_iff,
    urlComponent_eq_self_iff]

/-- An agent that goes by its node's name after a slash is not asked about under that
name. -/
theorem identity_not_kept :
    ¬ ∀ (endpoint : BaseUrl) (controller : ControllerConfig),
      Text.trim controller.agentId ≠ "" → Text.trim controller.nodeName ≠ "" →
        IdentityKept endpoint controller := by
  intro h
  have hkept := h ⟨"http://controller:8080/", by decide, by decide⟩ ⟨"node/worker 1", "worker/1"⟩
    (by decide) (by decide)
  obtain ⟨hagent, -⟩ := queryParam_configUrl ⟨"http://controller:8080/", by decide, by decide⟩
    ⟨"node/worker 1", "worker/1"⟩
  rw [hkept.1, Option.some_inj, eq_comm, urlComponent_eq_self_iff] at hagent
  have hslash : '/' ∈ "node/worker 1".toList := by simp
  exact absurd (hagent '/' hslash) (by decide)

end Tapio.Agent
