/-
# What the carriers' list points at

The list keeps raw descriptor numbers, and no entry is ever removed. An observer
that returns drops its object, which closes its config map, so its number may
come to denote anything. The entries that an update writes through are right as
long as no registered observer has returned, and wrong from then on.
-/
import Tapio.Agent.AppliedIdentity

namespace Tapio.Agent

open Wire Transition

/-- Every entry that an update writes through denotes the open config map of its
observer. -/
def EntriesDenote (s : AgentRun) : AgentStep → Prop
  | .poll reply _ =>
      acceptedConfig reply ≠ none → ∀ c ∈ s.agent.carriers.carriers,
        s.agent.kernel.fds c.mapFd = some (.configMap c.observer)
  | _ => True

/-- No registered observer has returned when an update is made. -/
def NoneReturned (s : AgentRun) : AgentStep → Prop
  | .poll reply _ =>
      acceptedConfig reply ≠ none → ∀ c ∈ s.agent.carriers.carriers,
        s.phases c.observer ≠ .returned
  | _ => True

instance (s : AgentRun) : (a : AgentStep) → Decidable (EntriesDenote s a)
  | .poll reply _ =>
      inferInstanceAs (Decidable (acceptedConfig reply ≠ none →
        ∀ c ∈ s.agent.carriers.carriers, _))
  | .openFd _ => isTrue trivial
  | .closeFd _ => isTrue trivial
  | .loadFailed _ => isTrue trivial
  | .load _ _ => isTrue trivial
  | .register _ _ _ => isTrue trivial
  | .observerReturn _ => isTrue trivial

/-- An entry denotes its observer's map exactly until the observer returns. -/
theorem Owned.entry_iff {s : AgentRun} (hs : Owned s) {c : ConfigCarrier}
    (hc : c ∈ s.agent.carriers.carriers) :
    s.agent.kernel.fds c.mapFd = some (.configMap c.observer) ↔
      s.phases c.observer ≠ .returned := by
  rw [hs.denotes]
  rcases hs.carriers c hc with h | h <;> simp [h]

/-- **Updates write through the right descriptors while nobody has returned.** In
a run, every entry an update writes through denotes its observer's open map
exactly when no update is made after a registered observer has returned. -/
theorem entriesDenote_iff_noneReturned (schedule : List AgentStep) :
    agentMachine.EachStep EntriesDenote agentMachine.init schedule ↔
      agentMachine.EachStep NoneReturned agentMachine.init schedule := by
  refine Machine.eachStep_congr owned_invariant.step ?_ owned_invariant.init schedule
  intro s a t hs hstep
  cases a with
  | poll reply ok =>
      exact forall_congr' fun _ => forall₂_congr fun c hc => hs.entry_iff hc
  | _ => exact Iff.rfl

/-- The PMC observer returns because no performance counter can be opened, the
storage observer's object gets its descriptor, and an update writes through both
entries. -/
theorem not_entriesDenote_reused :
    ¬ agentMachine.EachStep EntriesDenote agentMachine.init
      [.load "node_pmc" (some 10), .register "node_pmc" true true,
        .observerReturn "node_pmc", .load "storage" (some 10),
        .register "storage" true true,
        .poll (.response 200 (.ok servedConfig)) fun _ => true] := by
  decide

end Tapio.Agent
