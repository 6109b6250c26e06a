/-
# What a heartbeat reports

A heartbeat carries the identity of the applied config and a status for each
observer. Both come from `ActiveConfigIdentity`, which the poll loop sets; the
observers themselves have no part in it.
-/
import Tapio.Common.Ebpf
import Tapio.Wire.Messages

namespace Tapio.Agent

open Wire

/-- The observers a heartbeat has a status for, with their flags. -/
def observers : List (String × UInt64) :=
  [("network", tapioFNetwork), ("storage", tapioFStorage), ("container", tapioFContainer),
    ("node", tapioFNodePmc)]

/-- The identity of an applied config. `ActiveConfigIdentity` holds at most
one. -/
structure AppliedConfigIdentity where
  version : String
  hash : String
  flags : UInt64
  deriving DecidableEq

structure HeartbeatSnapshot where
  agentId : String
  nodeName : String
  uptimeSeconds : UInt64
  observers : BTreeMap String ObserverStatus
  counters : HeartbeatCounters
  controllerMode : Bool
  activeConfig : Option AppliedConfigIdentity

def buildHeartbeat (snapshot : HeartbeatSnapshot) : HeartbeatRequest where
  wireVersion := wireVersion
  agentId := snapshot.agentId
  nodeName := snapshot.nodeName
  configVersion :=
    match snapshot.activeConfig with
    | some config => config.version
    | none => "0"
  configHash :=
    match snapshot.activeConfig with
    | some config => config.hash
    | none => ""
  uptimeSeconds := snapshot.uptimeSeconds
  observers := snapshot.observers
  counters := snapshot.counters
  degradedReasons :=
    if snapshot.controllerMode ∧ snapshot.activeConfig = none then [.unconfigured] else []

/-- An observer's status is its flag in the applied config. -/
def observerStatus (activeConfig : Option AppliedConfigIdentity) (flag : UInt64) :
    ObserverStatus :=
  match activeConfig with
  | some config => if config.flags &&& flag ≠ 0 then .running else .disabled
  | none => .disabled

def observerStatuses (activeConfig : Option AppliedConfigIdentity) :
    BTreeMap String ObserverStatus :=
  Std.ExtTreeMap.ofList
    (observers.map fun (observer, flag) => (observer, observerStatus activeConfig flag))
    compare

theorem observerStatus_running_iff (activeConfig : Option AppliedConfigIdentity)
    (flag : UInt64) :
    observerStatus activeConfig flag = .running ↔
      ∃ identity ∈ activeConfig, identity.flags &&& flag ≠ 0 := by
  cases activeConfig with
  | none => simp [observerStatus]
  | some identity =>
      by_cases hflag : identity.flags &&& flag = 0 <;> simp [observerStatus, hflag]

/-- The table's status of an observer is the status of its flag. -/
theorem observerStatuses_get {activeConfig : Option AppliedConfigIdentity}
    {observer : String} {flag : UInt64} (hmem : (observer, flag) ∈ observers) :
    (observerStatuses activeConfig)[observer]? = some (observerStatus activeConfig flag) := by
  have hdistinct : observers.Pairwise fun a b => ¬ compare a.1 b.1 = .eq := by decide
  exact Std.ExtTreeMap.getElem?_ofList_of_mem (Std.ReflCmp.compare_self)
    (List.pairwise_map.mpr hdistinct)
    (List.mem_map_of_mem hmem)

end Tapio.Agent
