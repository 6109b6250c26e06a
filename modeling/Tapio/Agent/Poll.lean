/-
# The config poll

One tick of the poll loop: fetch the config, check the response, write it to
every carrier, hand the PMC thresholds to their observer, and mark the config as
applied. The outcome of the request and of every map write is an argument. An
error keeps its kind and what its text is built from.
-/
import Tapio.Agent.Carriers
import Tapio.Agent.Client
import Tapio.Agent.Config
import Tapio.Agent.Heartbeat
import Tapio.Checks.Except

namespace Tapio.Agent

open Wire Checks

/-- Why a config response is not applied. -/
inductive ConfigRejection
  | decode (error : String)
  | badVersion (version : String)
  | invalid (error : WireError)
  | missingConfigHash
  | compiled (error : CompiledConfigError)
  deriving DecidableEq

inductive FetchError
  | transport (error : String)
  | rejected (reason : ConfigRejection)
  deriving DecidableEq

inductive PollOutcome
  | applied (generation : UInt32) (hash : String) (flags : UInt64)
  | notModified
  deriving DecidableEq

/-- What the tasks of the agent process share, and the poll loop's etag. -/
structure AgentState where
  kernel : Kernel
  carriers : ConfigCarrierState
  pmcThresholds : PmcThresholds
  activeConfig : Option AppliedConfigIdentity
  configVersion : String
  etag : Option String

/-- A response that passed every check, with what was read out of it. -/
structure AcceptedConfig where
  response : ConfigResponse
  generation : UInt32
  tapioConfig : TapioConfig
  deriving DecidableEq

def rejectEmptyConfigHash (hash : String) : Except FetchError Unit :=
  if hash = "" then .error (.rejected .missingConfigHash) else .ok ()

/-- The version of a response is its generation. -/
def parseVersion (version : String) : Except FetchError UInt32 :=
  match Text.parseU32 version with
  | some generation => .ok generation
  | none => .error (.rejected (.badVersion version))

/-- The checks on the body of a 200 response. -/
def acceptConfig (body : Except String ConfigResponse) : Except FetchError AcceptedConfig := do
  let config ← body.mapError fun e => .rejected (.decode e)
  let generation ← parseVersion config.version
  config.validate.mapError fun e => .rejected (.invalid e)
  rejectEmptyConfigHash config.configHash
  let tapioConfig ←
    (tapioConfigFromCompiled config.config config.version).mapError fun e =>
      .rejected (.compiled e)
  return ⟨config, generation, tapioConfig⟩

/-- The part of `fetch_once` before anything is applied: nothing on an
unmodified config. -/
def receiveConfig : HttpReply ConfigResponse → Except FetchError (Option AcceptedConfig)
  | .failed error => .error (.transport error)
  | .response status body =>
      if status = 304 then .ok none
      else if status = 200 then some <$> acceptConfig body
      else .error (.transport ("HTTP " ++ toString status))

/-- `apply_config`: write the config to every carrier and send the thresholds.
Carriers that could not be written are only logged. Sending fails when no
receiver of the thresholds is left. -/
def applyConfig (s : AgentState) (tapioConfig : TapioConfig) (compiled : CompiledConfig)
    (ok : ConfigCarrier → Bool) (receiver : Bool) : AgentState × Except FetchError Unit :=
  let (kernel, carriers, _failed) := updateAll s.kernel s.carriers tapioConfig ok
  let s := { s with kernel := kernel, carriers := carriers }
  if receiver then
    ({ s with pmcThresholds := pmcThresholdsFromCompiled compiled }, .ok ())
  else (s, .error (.transport "PMC thresholds: channel closed"))

def fetchOnce (s : AgentState) (reply : HttpReply ConfigResponse)
    (ok : ConfigCarrier → Bool) (receiver : Bool) :
    AgentState × Except FetchError PollOutcome :=
  match receiveConfig reply with
  | .error e => (s, .error e)
  | .ok none => (s, .ok .notModified)
  | .ok (some accepted) =>
      match applyConfig s accepted.tapioConfig accepted.response.config ok receiver with
      | (s, .error e) => (s, .error e)
      | (s, .ok ()) =>
          (s, .ok (.applied accepted.generation accepted.response.configHash
            accepted.tapioConfig.flags))

/-- One tick of `poll_loop`. -/
def pollOnce (s : AgentState) (reply : HttpReply ConfigResponse)
    (ok : ConfigCarrier → Bool) (receiver : Bool) : AgentState :=
  match fetchOnce s reply ok receiver with
  | (s, .ok (.applied generation hash flags)) =>
      { s with
        etag := some ("\"" ++ hash ++ "\"")
        activeConfig := some ⟨toString generation, hash, flags⟩
        configVersion := toString generation }
  | (s, .ok .notModified) => s
  | (s, .error _) => s

/-! ## What a poll does -/

/-- The config a reply makes the agent apply, if it makes it apply one. -/
def acceptedConfig (reply : HttpReply ConfigResponse) : Option AcceptedConfig :=
  match receiveConfig reply with
  | .ok accepted => accepted
  | .error _ => none

/-- The identity under which an accepted config is reported. -/
def AcceptedConfig.identity (accepted : AcceptedConfig) : AppliedConfigIdentity where
  version := toString accepted.generation
  hash := accepted.response.configHash
  flags := accepted.tapioConfig.flags

/-- A poll that accepts no config changes nothing. -/
theorem pollOnce_of_none {reply : HttpReply ConfigResponse}
    (h : acceptedConfig reply = none) (s : AgentState) (ok : ConfigCarrier → Bool)
    (receiver : Bool) : pollOnce s reply ok receiver = s := by
  unfold acceptedConfig at h
  rw [pollOnce, fetchOnce]
  split at h
  · next hreceive => simp [hreceive, h]
  · next hreceive => simp [hreceive]

/-- A poll that accepts a config fans it out and marks it as applied, whatever
the writes came to. -/
theorem pollOnce_of_some {reply : HttpReply ConfigResponse} {accepted : AcceptedConfig}
    (h : acceptedConfig reply = some accepted) (s : AgentState)
    (ok : ConfigCarrier → Bool) :
    pollOnce s reply ok true = {
      kernel := (fanOut accepted.tapioConfig ok s.kernel s.carriers.carriers).1
      carriers := { s.carriers with current := some accepted.tapioConfig }
      pmcThresholds := pmcThresholdsFromCompiled accepted.response.config
      activeConfig := some accepted.identity
      configVersion := toString accepted.generation
      etag := some ("\"" ++ accepted.response.configHash ++ "\"") } := by
  rw [acceptedConfig] at h
  rw [pollOnce, fetchOnce]
  split at h
  · next hreceive =>
      subst h
      simp [hreceive, applyConfig, updateAll, AcceptedConfig.identity]
  · cases h

/-- An accepted config is the one its response compiles to. -/
theorem acceptConfig_ok {body : Except String ConfigResponse} {accepted : AcceptedConfig}
    (h : acceptConfig body = .ok accepted) :
    body = .ok accepted.response ∧
      tapioConfigFromCompiled accepted.response.config accepted.response.version =
        .ok accepted.tapioConfig := by
  obtain ⟨config, hbody, h⟩ := bind_eq_ok h
  obtain ⟨generation, -, h⟩ := bind_eq_ok h
  obtain ⟨_, -, h⟩ := bind_eq_ok h
  obtain ⟨_, -, h⟩ := bind_eq_ok h
  obtain ⟨tapioConfig, hcompiled, h⟩ := bind_eq_ok h
  rw [mapError_eq_ok_iff] at hbody hcompiled
  cases h
  exact ⟨hbody, hcompiled⟩

/-- A config is accepted from the body of a successful response. -/
theorem acceptedConfig_eq_some {reply : HttpReply ConfigResponse} {accepted : AcceptedConfig}
    (h : acceptedConfig reply = some accepted) :
    ∃ body, reply = .response 200 body ∧ acceptConfig body = .ok accepted := by
  rw [acceptedConfig] at h
  split at h
  · next hreceive =>
      subst h
      unfold receiveConfig at hreceive
      split at hreceive
      · cases hreceive
      · next status body =>
          split_ifs at hreceive with hunmodified hstatus
          · cases hreceive
          · refine ⟨body, by rw [hstatus], ?_⟩
            cases hfound : acceptConfig body with
            | error e => simp [hfound] at hreceive
            | ok found => simpa [hfound] using hreceive
  · cases h

/-- The config a reply makes the agent apply is the one the response compiles
to. -/
theorem acceptedConfig_compiled {reply : HttpReply ConfigResponse}
    {accepted : AcceptedConfig} (h : acceptedConfig reply = some accepted) :
    tapioConfigFromCompiled accepted.response.config accepted.response.version =
      .ok accepted.tapioConfig := by
  obtain ⟨body, -, hbody⟩ := acceptedConfig_eq_some h
  exact (acceptConfig_ok hbody).2

/-- The kernel config has the generation that the response is applied with. -/
theorem acceptedConfig_generation {reply : HttpReply ConfigResponse}
    {accepted : AcceptedConfig} (h : acceptedConfig reply = some accepted) :
    accepted.tapioConfig.generation = accepted.generation := by
  obtain ⟨body, -, hbody⟩ := acceptedConfig_eq_some h
  obtain ⟨config, -, hbody⟩ := bind_eq_ok hbody
  obtain ⟨generation, hversion, hbody⟩ := bind_eq_ok hbody
  obtain ⟨_, -, hbody⟩ := bind_eq_ok hbody
  obtain ⟨_, -, hbody⟩ := bind_eq_ok hbody
  obtain ⟨tapioConfig, hcompiled, hbody⟩ := bind_eq_ok hbody
  rw [mapError_eq_ok_iff] at hcompiled
  cases hbody
  unfold parseVersion at hversion
  unfold tapioConfigFromCompiled at hcompiled
  cases hparse : Text.parseU32 config.version with
  | none =>
      rw [hparse] at hversion
      cases hversion
  | some parsed =>
      rw [hparse] at hversion hcompiled
      cases hversion
      cases hcompiled
      rfl

/-! ## A failed poll changes nothing -/

/-- A poll changes the state only if it reports that it applied a config, and this it does
only after every check on one response, of which the state then has the identity. -/
structure PollAtomic (s : AgentState) (reply : HttpReply ConfigResponse)
    (ok : ConfigCarrier → Bool) : Prop where
  unchanged : (∀ generation hash flags,
      (fetchOnce s reply ok true).2 ≠ .ok (.applied generation hash flags)) →
    pollOnce s reply ok true = s
  checked : ∀ generation hash flags,
    (fetchOnce s reply ok true).2 = .ok (.applied generation hash flags) →
      ∃ (config : ConfigResponse) (tapioConfig : TapioConfig),
        reply = .response 200 (.ok config) ∧
        Text.parseU32 config.version = some generation ∧ config.validate = .ok () ∧
        config.configHash ≠ "" ∧ hash = config.configHash ∧
        tapioConfigFromCompiled config.config config.version = .ok tapioConfig ∧
        flags = tapioConfig.flags ∧
        (pollOnce s reply ok true).activeConfig =
          some ⟨toString generation, config.configHash, flags⟩ ∧
        (pollOnce s reply ok true).etag = some ("\"" ++ config.configHash ++ "\"") ∧
        (pollOnce s reply ok true).configVersion = toString generation

/-- A response is accepted after all checks. -/
theorem acceptConfig_checked {body : Except String ConfigResponse} {accepted : AcceptedConfig}
    (h : acceptConfig body = .ok accepted) :
    Text.parseU32 accepted.response.version = some accepted.generation ∧
      accepted.response.validate = .ok () ∧ accepted.response.configHash ≠ "" := by
  obtain ⟨config, -, h⟩ := bind_eq_ok h
  obtain ⟨generation, hversion, h⟩ := bind_eq_ok h
  obtain ⟨_, hvalid, h⟩ := bind_eq_ok h
  obtain ⟨_, hhash, h⟩ := bind_eq_ok h
  obtain ⟨tapioConfig, -, h⟩ := bind_eq_ok h
  rw [mapError_eq_ok_iff] at hvalid
  cases h
  refine ⟨?_, hvalid, ?_⟩
  · unfold parseVersion at hversion
    split at hversion
    · next hparse => exact Except.ok.inj hversion ▸ hparse
    · cases hversion
  · intro hempty
    rw [rejectEmptyConfigHash, if_pos hempty] at hhash
    cases hhash

/-- While the thresholds have a receiver, a poll reports that it applied a config exactly if
it accepted one. -/
theorem fetchOnce_applied_iff (s : AgentState) (reply : HttpReply ConfigResponse)
    (ok : ConfigCarrier → Bool) (generation : UInt32) (hash : String) (flags : UInt64) :
    (fetchOnce s reply ok true).2 = .ok (.applied generation hash flags) ↔
      ∃ accepted, acceptedConfig reply = some accepted ∧ accepted.generation = generation ∧
        accepted.response.configHash = hash ∧ accepted.tapioConfig.flags = flags := by
  rw [fetchOnce, acceptedConfig]
  split
  · next hreceive => simp [hreceive]
  · next hreceive => simp [hreceive]
  · next accepted hreceive => simp [hreceive, applyConfig]

/-- **Every poll is atomic**, whatever it receives and whichever map writes fail. -/
theorem pollAtomic (s : AgentState) (reply : HttpReply ConfigResponse)
    (ok : ConfigCarrier → Bool) : PollAtomic s reply ok where
  unchanged := by
    intro hnone
    apply pollOnce_of_none
    cases haccepted : acceptedConfig reply with
    | none => rfl
    | some accepted =>
        exact absurd ((fetchOnce_applied_iff s reply ok _ _ _).mpr
          ⟨accepted, haccepted, rfl, rfl, rfl⟩) (hnone _ _ _)
  checked := by
    intro generation hash flags happlied
    obtain ⟨accepted, haccepted, rfl, rfl, rfl⟩ :=
      (fetchOnce_applied_iff s reply ok _ _ _).mp happlied
    obtain ⟨body, hreply, hbody⟩ := acceptedConfig_eq_some haccepted
    obtain ⟨hversion, hvalid, hhash⟩ := acceptConfig_checked hbody
    obtain ⟨hread, hcompiled⟩ := acceptConfig_ok hbody
    rw [hread] at hreply
    rw [pollOnce_of_some haccepted s ok]
    exact ⟨accepted.response, accepted.tapioConfig, hreply, hversion, hvalid, hhash, rfl, hcompiled,
      rfl, rfl, rfl, rfl⟩

end Tapio.Agent
