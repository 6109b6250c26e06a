/-
# The config endpoint

How a controller builds the response it serves from a compiled config, and how it
answers a request for it: with the response, or with `304 Not Modified` when the
request names the hash of that very config. The digest that the hash is written from
is a parameter.
-/
import Tapio.Agent.Poll
import Tapio.Controller.State
import Tapio.Text.Decimal
import Tapio.Wire.Serialize

namespace Tapio.Controller

open Wire Agent

/-- A digest function, SHA-256 in the source. -/
abbrev Digest := List UInt8 → List.Vector UInt8 32

/-- A byte as two digits, in lower case. -/
def hexByte (byte : UInt8) : List Char :=
  [Nat.digitChar (byte.toNat / 16), Nat.digitChar (byte.toNat % 16)]

/-- `sha256:` and the digest of the serialized config. -/
def configHash (sha256 : Digest) (config : CompiledConfig) : String :=
  "sha256:" ++ String.ofList ((sha256 config.toVec).toList.flatMap hexByte)

def configResponseFromCompiled (sha256 : Digest) (config : CompiledConfig)
    (generation : UInt32) : ConfigResponse where
  wireVersion := Wire.wireVersion
  version := toString generation
  configHash := configHash sha256 config
  config := config
  batching := { sendIntervalMs := 1000, maxBatchEvents := 256 }

/-! ## The request -/

/-- The value of the first pair with the name. It is not decoded. -/
def queryParam (query : Option String) (name : String) : Option String := do
  let query ← query
  (Text.split query '&').findSome? fun pair => do
    let (key, value) ← Text.splitOnce pair '='
    if key = name then some value else none

def quotedEtag (configHash : String) : String := "\"" ++ configHash ++ "\""

/-- A header value that reads as a string. -/
def isVisibleAscii (value : String) : Bool :=
  value.toList.all fun c => (0x20 ≤ c.toNat && c.toNat < 0x7F) || c == '\t'

def ifNoneMatchMatches (ifNoneMatch : Option String) (etag : String) : Bool :=
  match ifNoneMatch.filter isVisibleAscii with
  | none => false
  | some value => Text.trim value = etag

/-- The config a request asks for, if it names an agent and a node. -/
def requestedConfig (query : Option String) (inner : InnerState) :
    WireResult ConfigResponse :=
  match queryParam query "agent_id" with
  | none => .error (.missingField "agent_id")
  | some agentId =>
      match queryParam query "node_name" with
      | none => .error (.missingField "node_name")
      | some nodeName => configFor agentId nodeName inner

/-- `GET /v1/agents/config`. Only a successful answer has a body that reads as a
response. -/
def config (query ifNoneMatch : Option String) (inner : InnerState) :
    HttpReply ConfigResponse :=
  match requestedConfig query inner with
  | .error error => .response (errorStatus error) (.error "missing field")
  | .ok config =>
      if ifNoneMatchMatches ifNoneMatch (quotedEtag config.configHash) then
        .response 304 (.error "EOF while parsing a value")
      else .response 200 (.ok config)

/-! ## What a served config is accepted as -/

/-- The thresholds that a response is not accepted without. -/
def NonzeroThresholds (config : CompiledConfig) : Prop :=
  config.storage.slowIoWarningNs ≠ 0 ∧ config.storage.slowIoCriticalNs ≠ 0

instance : DecidablePred NonzeroThresholds := fun _ =>
  inferInstanceAs (Decidable (_ ∧ _))

/-- The kernel config of a compiled one under a generation. -/
def tapioConfigOf (config : CompiledConfig) (generation : UInt32) : TapioConfig where
  abiVersion := tapioConfigAbiVersion
  generation := generation
  flags := compiledFlags config
  slowIoThresholdNs := config.storage.slowIoWarningNs
  ioLatencyCriticalNs := config.storage.slowIoCriticalNs
  connRefusedWindowNs := config.network.connRefusedWindowNs
  connRefusedMinCount := config.network.connRefusedMinCount
  rttSpikeMultiplier := config.network.rttSpikeRatio
  rttSpikeAbsUs := config.network.rttSpikeAbsUs
  rttMinBaselineSamples := config.network.rttMinBaselineSamples
  ignoreExitCount :=
    UInt32.ofNat (min config.container.ignoreExitCodes.length tapioConfigMaxIgnoreExitCodes)
  ignoreExitCodes := ignoreExitCodeSlots config.container.ignoreExitCodes

/-- A generation that is written into the version is read back from it. -/
theorem tapioConfigFromCompiled_toString (config : CompiledConfig) (generation : UInt32) :
    tapioConfigFromCompiled config (toString generation) =
      .ok (tapioConfigOf config generation) := by
  rw [tapioConfigFromCompiled, Text.parseU32_toString]
  rfl

/-- What the agent carries for a compiled config. -/
theorem eq_tapioConfigOf {config : CompiledConfig} {generation : String} {carried : TapioConfig}
    (h : tapioConfigFromCompiled config generation = .ok carried) :
    ∃ parsed, carried = tapioConfigOf config parsed := by
  rw [tapioConfigFromCompiled] at h
  split at h
  · cases h
  · next parsed _ => exact ⟨parsed, (Except.ok.inj h).symm⟩

theorem configHash_ne_empty (sha256 : Digest) (config : CompiledConfig) :
    configHash sha256 config ≠ "" := by
  intro hempty
  have hlist := congrArg String.toList hempty
  rw [configHash, String.toList_append] at hlist
  exact absurd hlist (List.append_ne_nil_of_left_ne_nil (by decide) _)

theorem configResponse_validate_ok_iff (sha256 : Digest) (config : CompiledConfig)
    (generation : UInt32) :
    (configResponseFromCompiled sha256 config generation).validate = .ok () ↔
      NonzeroThresholds config := by
  have hversion : Text.trim (toString generation) ≠ "" := by
    rw [Text.trim_toString]
    exact Text.toString_ne_empty generation
  simp [ConfigResponse.validate, configResponseFromCompiled, Checks.bind_eq_ok_iff, hversion,
    NonzeroThresholds]

/-- A served config is accepted for what it was compiled from, if its thresholds are not
zero. -/
theorem acceptConfig_served (sha256 : Digest) {config : CompiledConfig}
    (hconfig : NonzeroThresholds config) (generation : UInt32) :
    acceptConfig (.ok (configResponseFromCompiled sha256 config generation)) =
      .ok ⟨configResponseFromCompiled sha256 config generation, generation,
        tapioConfigOf config generation⟩ := by
  have hvalid := (configResponse_validate_ok_iff sha256 config generation).mpr hconfig
  have hversion : parseVersion (configResponseFromCompiled sha256 config generation).version =
      .ok generation := by
    rw [parseVersion, configResponseFromCompiled, Text.parseU32_toString]
  have hhash : rejectEmptyConfigHash
      (configResponseFromCompiled sha256 config generation).configHash = .ok () :=
    if_neg (configHash_ne_empty sha256 config)
  have hcompiled : tapioConfigFromCompiled
      (configResponseFromCompiled sha256 config generation).config
      (configResponseFromCompiled sha256 config generation).version =
        .ok (tapioConfigOf config generation) :=
    tapioConfigFromCompiled_toString config generation
  simp [acceptConfig, bind, Except.bind, pure, Except.pure, hversion, hvalid, hhash,
    hcompiled]

/-- A config without nonzero thresholds is served, but never accepted. -/
theorem acceptConfig_served_rejected (sha256 : Digest) {config : CompiledConfig}
    (hconfig : ¬ NonzeroThresholds config) (generation : UInt32) :
    ∃ error, acceptConfig (.ok (configResponseFromCompiled sha256 config generation)) =
      .error error := by
  have hinvalid := mt (configResponse_validate_ok_iff sha256 config generation).mp hconfig
  have hversion : parseVersion (configResponseFromCompiled sha256 config generation).version =
      .ok generation := by
    rw [parseVersion, configResponseFromCompiled, Text.parseU32_toString]
  cases hvalidate : (configResponseFromCompiled sha256 config generation).validate with
  | ok valid => exact absurd hvalidate hinvalid
  | error error =>
      refine ⟨.rejected (.invalid error), ?_⟩
      simp [acceptConfig, bind, Except.bind, hversion, hvalidate]

/-! ## What a tag tells -/

theorem digitChar_inj : ∀ a < 16, ∀ b < 16, Nat.digitChar a = Nat.digitChar b → a = b := by
  decide

theorem hexByte_injective : Function.Injective hexByte := by
  intro a b hsame
  obtain ⟨hhigh, hlow⟩ : Nat.digitChar (a.toNat / 16) = Nat.digitChar (b.toNat / 16) ∧
      Nat.digitChar (a.toNat % 16) = Nat.digitChar (b.toNat % 16) := by
    simpa [hexByte] using hsame
  have ha := a.toNat_lt
  have hb := b.toNat_lt
  have hquotient := digitChar_inj _ (by omega) _ (by omega) hhigh
  have hremainder := digitChar_inj _ (by omega) _ (by omega) hlow
  exact UInt8.toNat_inj.mp (by omega)

theorem flatMap_hexByte_injective :
    Function.Injective fun bytes : List UInt8 => bytes.flatMap hexByte := by
  intro first second hsame
  induction first generalizing second with
  | nil =>
      cases second with
      | nil => rfl
      | cons byte second => cases hsame
  | cons byte first ih =>
      cases second with
      | nil => cases hsame
      | cons byte' second =>
          obtain ⟨hbyte, hrest⟩ := List.append_inj hsame rfl
          rw [hexByte_injective hbyte, ih hrest]

/-- Equal hashes come from equal digests. -/
theorem digest_of_configHash {sha256 : Digest} {first second : CompiledConfig}
    (hsame : configHash sha256 first = configHash sha256 second) :
    sha256 first.toVec = sha256 second.toVec := by
  rw [configHash, configHash, String.append_right_inj] at hsame
  exact List.Vector.toList_injective
    (flatMap_hexByte_injective (String.ofList_injective hsame))

theorem quotedEtag_inj {first second : String} :
    quotedEtag first = quotedEtag second ↔ first = second := by
  rw [quotedEtag, quotedEtag, String.append_left_inj, String.append_right_inj]

theorem toList_quotedEtag (hash : String) :
    (quotedEtag hash).toList = '"' :: (hash.toList ++ ['"']) := by
  simp [quotedEtag]

/-- A tag reads as a string. -/
theorem isVisibleAscii_quotedEtag (sha256 : Digest) (config : CompiledConfig) :
    isVisibleAscii (quotedEtag (configHash sha256 config)) := by
  have hdigit : ∀ n < 16, 0x20 ≤ (Nat.digitChar n).toNat ∧ (Nat.digitChar n).toNat < 0x7F := by
    decide
  have hbyte : ∀ byte, ∀ c ∈ hexByte byte, 0x20 ≤ c.toNat ∧ c.toNat < 0x7F := by
    intro byte c hc
    have hbound := byte.toNat_lt
    rcases List.mem_pair.mp hc with rfl | rfl
    · exact hdigit _ (by omega)
    · exact hdigit _ (by omega)
  have hquote : 0x20 ≤ '"'.toNat ∧ '"'.toNat < 0x7F := by decide
  have hlabel : ∀ c ∈ "sha256:".toList, 0x20 ≤ c.toNat ∧ c.toNat < 0x7F := by simp
  have hlist : ∀ c ∈ (quotedEtag (configHash sha256 config)).toList,
      0x20 ≤ c.toNat ∧ c.toNat < 0x7F := by
    simp only [toList_quotedEtag, configHash, String.toList_append, String.toList_ofList,
      List.forall_mem_cons, List.forall_mem_append]
    refine ⟨hquote, ⟨hlabel, ?_⟩, hquote, List.forall_mem_nil _⟩
    intro c hc
    obtain ⟨byte, -, hc⟩ := List.mem_flatMap.mp hc
    exact hbyte byte c hc
  rw [isVisibleAscii, List.all_eq_true]
  intro c hc
  simp [hlist c hc]

/-- A tag is quoted, so that there is nothing to trim. -/
theorem trim_quotedEtag (hash : String) : Text.trim (quotedEtag hash) = quotedEtag hash := by
  refine Text.trim_eq_self fun hne => ?_
  have hlast : (quotedEtag hash).toList.getLast hne = '"' := by
    simp [toList_quotedEtag]
  have hfirst : (quotedEtag hash).toList.head hne = '"' := by
    simp [toList_quotedEtag]
  rw [hfirst, hlast]
  decide

/-- **Exact matching.** The tag of a config is recognized as the tag of the config with
the same hash, and of no other. -/
theorem ifNoneMatchMatches_quotedEtag (sha256 : Digest) (held served : CompiledConfig) :
    ifNoneMatchMatches (some (quotedEtag (configHash sha256 held)))
      (quotedEtag (configHash sha256 served)) =
        decide (configHash sha256 held = configHash sha256 served) := by
  rw [ifNoneMatchMatches, Option.filter_some, if_pos (isVisibleAscii_quotedEtag sha256 held)]
  simp only [trim_quotedEtag, quotedEtag_inj]

end Tapio.Controller
