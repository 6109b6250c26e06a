/-
# The responses as JSON

The serialization of what the controller answers. Each is an object, so none of them can
be cut off and still be a JSON text.
-/
import Tapio.Json.Text
import Tapio.Wire.Messages
import Tapio.Wire.Serialize

namespace Tapio.Wire

open Json

def HelloResponse.fields (res : HelloResponse) : List (String × List Char) := [
  ("wire_version", encodeString res.wireVersion),
  ("accepted", encodeBool res.accepted),
  ("controller_id", encodeString res.controllerId),
  ("config_version", encodeString res.configVersion),
  ("send_interval_ms", encodeNat res.sendIntervalMs.toNat),
  ("max_batch_events", encodeNat res.maxBatchEvents.toNat)]

def HelloResponse.encode (res : HelloResponse) : List Char := encodeObject res.fields

def HeartbeatResponse.fields (res : HeartbeatResponse) : List (String × List Char) := [
  ("wire_version", encodeString res.wireVersion),
  ("accepted", encodeBool res.accepted),
  ("next_config_version", encodeString res.nextConfigVersion)]

def HeartbeatResponse.encode (res : HeartbeatResponse) : List Char := encodeObject res.fields

def EventBatchResponse.fields (res : EventBatchResponse) : List (String × List Char) := [
  ("wire_version", encodeString res.wireVersion),
  ("accepted", encodeNat res.accepted.toNat),
  ("rejected", encodeNat res.rejected.toNat),
  ("next_config_version", encodeString res.nextConfigVersion)]

def EventBatchResponse.encode (res : EventBatchResponse) : List Char := encodeObject res.fields

def BatchingConfig.encode (batching : BatchingConfig) : List Char :=
  encodeObject [
    ("send_interval_ms", encodeNat batching.sendIntervalMs.toNat),
    ("max_batch_events", encodeNat batching.maxBatchEvents.toNat)]

def ConfigResponse.fields (res : ConfigResponse) : List (String × List Char) := [
  ("wire_version", encodeString res.wireVersion),
  ("version", encodeString res.version),
  ("config_hash", encodeString res.configHash),
  ("config", res.config.encode),
  ("batching", res.batching.encode)]

def ConfigResponse.encode (res : ConfigResponse) : List Char := encodeObject res.fields

/-! ## They are texts -/

theorem CompiledNetwork.jsonText_encode (network : CompiledNetwork) :
    JsonText (utf8 network.encode) := by
  apply jsonText_encodeObject
  simp [jsonText_encodeBool, jsonText_encodeNat]

theorem CompiledStorage.jsonText_encode (storage : CompiledStorage) :
    JsonText (utf8 storage.encode) := by
  apply jsonText_encodeObject
  simp [jsonText_encodeBool, jsonText_encodeNat]

theorem CompiledContainer.jsonText_encode (container : CompiledContainer) :
    JsonText (utf8 container.encode) := by
  have hcodes : JsonText (utf8 (encodeArray
      (container.ignoreExitCodes.map fun code => encodeInt code.toInt))) := by
    apply jsonText_encodeArray
    simp [jsonText_encodeInt]
  apply jsonText_encodeObject
  simp [jsonText_encodeBool, hcodes]

theorem CompiledNodePmc.jsonText_encode (nodePmc : CompiledNodePmc) :
    JsonText (utf8 nodePmc.encode) := by
  apply jsonText_encodeObject
  simp [jsonText_encodeBool, jsonText_encodeNat]

theorem CompiledConfig.jsonText_encode (config : CompiledConfig) :
    JsonText (utf8 config.encode) := by
  apply jsonText_encodeObject
  simp [CompiledNetwork.jsonText_encode, CompiledStorage.jsonText_encode,
    CompiledContainer.jsonText_encode, CompiledNodePmc.jsonText_encode]

theorem BatchingConfig.jsonText_encode (batching : BatchingConfig) :
    JsonText (utf8 batching.encode) := by
  apply jsonText_encodeObject
  simp [jsonText_encodeNat]

theorem HelloResponse.jsonText_fields (res : HelloResponse) :
    ∀ field ∈ res.fields, JsonText (utf8 field.2) := by
  simp [fields, jsonText_encodeString, jsonText_encodeBool, jsonText_encodeNat]

theorem HeartbeatResponse.jsonText_fields (res : HeartbeatResponse) :
    ∀ field ∈ res.fields, JsonText (utf8 field.2) := by
  simp [fields, jsonText_encodeString, jsonText_encodeBool]

theorem EventBatchResponse.jsonText_fields (res : EventBatchResponse) :
    ∀ field ∈ res.fields, JsonText (utf8 field.2) := by
  simp [fields, jsonText_encodeString, jsonText_encodeNat]

theorem ConfigResponse.jsonText_fields (res : ConfigResponse) :
    ∀ field ∈ res.fields, JsonText (utf8 field.2) := by
  simp [fields, jsonText_encodeString, CompiledConfig.jsonText_encode,
    BatchingConfig.jsonText_encode]

end Tapio.Wire
