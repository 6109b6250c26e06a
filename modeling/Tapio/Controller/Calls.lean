/-
# What a call does

Every call to the controller has one of a few effects, whatever its arguments are:
it registers an agent, stores a heartbeat, counts a batch as accepted or as
rejected, or changes nothing. `Handled` lists them together with the outcome of the
call, and the results about runs of calls are case analyses of it.
-/
import Tapio.Controller.State

namespace Tapio.Controller

open Wire

/-- Whether a call is answered or rejected, and with which error. -/
def Request.outcome (request : Request) (inner : InnerState) : WireResult Unit :=
  match request with
  | .hello req now => (registerAgent req now inner).2.map fun _ => ()
  | .config agentId nodeName => (configFor agentId nodeName inner).map fun _ => ()
  | .heartbeat req now => (recordHeartbeat req now inner).2.map fun _ => ()
  | .events batch => (recordEventBatch batch inner).2.map fun _ => ()
  | .status _ => .ok ()

/-- A call that reports an event batch. -/
def Request.isEvents : Request → Bool
  | .events _ => true
  | _ => false

/-- A call that only reads the state. -/
def Request.reads : Request → Bool
  | .config _ _ | .status _ => true
  | .hello _ _ | .heartbeat _ _ | .events _ => false

/-- The effects a call can have on a state, with the outcome of the call. -/
inductive Handled (inner : InnerState) : Request → WireResult Unit → InnerState → Prop
  | registered {hello : HelloRequest} {now : SystemTime} (hvalid : hello.validate = .ok ()) :
      Handled inner (.hello hello now) (.ok ())
        { inner with
          agents := inner.agents.insert hello.agentId ⟨hello, now⟩
          sequences := inner.sequences.insert hello.agentId SequenceTracking.default }
  | heard {heartbeat : HeartbeatRequest} {now : SystemTime}
      (hvalid : heartbeat.validate = .ok ()) :
      Handled inner (.heartbeat heartbeat now) (.ok ())
        { inner with
          lastHeartbeats := inner.lastHeartbeats.insert heartbeat.agentId ⟨heartbeat, now⟩ }
  | accepted {batch : EventBatchRequest}
      (hvalid : batch.validate inner.config.batching.maxBatchEvents.toNat = .ok ()) :
      Handled inner (.events batch) (.ok ())
        (updateSequenceTracking batch.agentId batch.sequence
          { inner with
            acceptedEventsTotal := inner.acceptedEventsTotal + batch.events.length
            batchesAcceptedTotal := inner.batchesAcceptedTotal + 1 })
  | rejected {batch : EventBatchRequest} {error : WireError}
      (hinvalid : batch.validate inner.config.batching.maxBatchEvents.toNat = .error error) :
      Handled inner (.events batch) (.error error)
        { inner with
          rejectedEventsTotal := inner.rejectedEventsTotal + batch.events.length
          batchesRejectedTotal := inner.batchesRejectedTotal + 1 }
  | refused {request : Request} {error : WireError} (hevents : request.isEvents = false) :
      Handled inner request (.error error) inner
  | read {request : Request} {outcome : WireResult Unit} (hreads : request.reads = true) :
      Handled inner request outcome inner

theorem handled (request : Request) (inner : InnerState) :
    Handled inner request (request.outcome inner) (handle request inner) := by
  cases request with
  | hello req now =>
      cases hvalid : req.validate with
      | error e =>
          rw [handle, Request.outcome, registerAgent, hvalid]
          exact .refused rfl
      | ok _ =>
          rw [handle, Request.outcome, registerAgent, hvalid]
          exact .registered hvalid
  | config agentId nodeName => exact .read rfl
  | heartbeat req now =>
      cases hvalid : req.validate with
      | error e =>
          rw [handle, Request.outcome, recordHeartbeat, hvalid]
          exact .refused rfl
      | ok _ =>
          rw [handle, Request.outcome, recordHeartbeat, hvalid]
          exact .heard hvalid
  | events batch =>
      cases hvalid : batch.validate inner.config.batching.maxBatchEvents.toNat with
      | error e =>
          rw [handle, Request.outcome, recordEventBatch, hvalid]
          exact .rejected hvalid
      | ok _ =>
          rw [handle, Request.outcome, recordEventBatch, hvalid]
          exact .accepted hvalid
  | status now => exact .read rfl

end Tapio.Controller
