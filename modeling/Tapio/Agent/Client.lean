/-
# The agent's side of an exchange

What the tasks of the agent that talk to the controller have in common: the
identity the agent goes by, the limits the controller has set, and what an HTTP
exchange comes back with.
-/
import Tapio.Wire.Messages

namespace Tapio.Agent

open Wire

/-- The identity the process was started with. -/
structure ControllerConfig where
  agentId : String
  nodeName : String

/-- What the controller has told the agent, shared by its tasks. -/
structure ControllerState where
  configVersion : String
  sendIntervalMs : UInt64
  maxBatchEvents : UInt64
  deriving DecidableEq

def ControllerState.new (configVersion : String) : ControllerState := ⟨configVersion, 1000, 256⟩

def ControllerState.setBatching (state : ControllerState)
    (sendIntervalMs maxBatchEvents : UInt64) : ControllerState :=
  { state with
    sendIntervalMs := max sendIntervalMs 1
    maxBatchEvents := max maxBatchEvents 1 }

def ControllerState.setConfigVersion (state : ControllerState) (version : String) :
    ControllerState :=
  { state with configVersion := version }

/-- What an HTTP exchange comes back with: a failure of the exchange, or a status
and the decoded body. -/
inductive HttpReply (β : Type)
  | failed (error : String)
  | response (status : ℕ) (body : Except String β)

/-- The statuses that report success. -/
def isSuccess (status : ℕ) : Bool := 200 ≤ status && status ≤ 299

/-- Why an exchange has no acceptable answer. -/
inductive ExchangeError
  | invalidRequest (error : WireError)
  | transport (error : String)
  | http (status : ℕ)
  | decode (error : String)
  | invalidResponse (error : WireError)
  deriving DecidableEq

/-- Decode and validate the body of a successful answer. -/
def acceptBody {β : Type} (validate : β → WireResult Unit) (body : Except String β) :
    Except ExchangeError β := do
  let response ← body.mapError .decode
  (validate response).mapError .invalidResponse
  return response

/-- The answer to a request that is posted once. -/
def acceptReply {β : Type} (validate : β → WireResult Unit) :
    HttpReply β → Except ExchangeError β
  | .failed error => .error (.transport error)
  | .response status body =>
      if isSuccess status then acceptBody validate body else .error (.http status)

end Tapio.Agent
