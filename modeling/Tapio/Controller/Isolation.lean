/-
# Agents do not affect each other's status

What the controller knows about one agent is three map entries under the agent's
id. `AgentView` is that, and `AgentView.serve` what a call of the agent does to it,
as if the controller served nobody else. Every call refines this: it serves the
view of its own agent and leaves the views of the others alone. So the status entry
of an agent, and whether it is listed as unconverged, depend on its own calls only.
The totals are what the agents' calls add up to.
-/
import Mathlib.Data.Finset.Dedup
import Mathlib.Tactic.FinCases
import Tapio.Controller.Calls
import Tapio.Transition.Locality

namespace Tapio.Controller

open Wire Transition

/-! ## What is known about one agent -/

/-- The entries of one agent, and the config that limits its batches. -/
structure AgentView where
  config : ConfigResponse
  registered : Option RegisteredAgent
  heartbeat : Option StoredHeartbeat
  sequence : Option SequenceTracking

def agentView (agentId : String) (inner : InnerState) : AgentView where
  config := inner.config
  registered := inner.agents[agentId]?
  heartbeat := inner.lastHeartbeats[agentId]?
  sequence := inner.sequences[agentId]?

/-- What a call of the agent does to its entries. -/
def AgentView.serve (view : AgentView) : Request → AgentView
  | .hello req now =>
      match req.validate with
      | .error _ => view
      | .ok () =>
          { view with registered := some ⟨req, now⟩, sequence := some SequenceTracking.default }
  | .heartbeat req now =>
      match req.validate with
      | .error _ => view
      | .ok () => { view with heartbeat := some ⟨req, now⟩ }
  | .events batch =>
      match batch.validate view.config.batching.maxBatchEvents.toNat with
      | .error _ => view
      | .ok () =>
          { view with
            sequence :=
              some ((view.sequence.getD SequenceTracking.default).observe batch.sequence) }
  | .config _ _ | .status _ => view

/-- A call serves the view of its own agent. -/
theorem agentView_handle_own {request : Request} {agentId : String}
    (hown : request.agentId = some agentId) (inner : InnerState) :
    agentView agentId (handle request inner) = (agentView agentId inner).serve request := by
  cases request with
  | hello req now =>
      obtain rfl := Option.some.inj hown
      rw [handle, registerAgent, AgentView.serve]
      cases req.validate with
      | error e => rfl
      | ok _ => simp [agentView]
  | config agentId nodeName => rfl
  | heartbeat req now =>
      obtain rfl := Option.some.inj hown
      rw [handle, recordHeartbeat, AgentView.serve]
      cases req.validate with
      | error e => rfl
      | ok _ => simp [agentView]
  | events batch =>
      obtain rfl := Option.some.inj hown
      simp only [handle, recordEventBatch, AgentView.serve, agentView]
      cases batch.validate inner.config.batching.maxBatchEvents.toNat with
      | error e => rfl
      | ok _ => simp [updateSequenceTracking]
  | status now => cases hown

/-- A call leaves the views of the other agents alone. -/
theorem agentView_handle_other {request : Request} {agentId : String}
    (hother : request.agentId ≠ some agentId) (inner : InnerState) :
    agentView agentId (handle request inner) = agentView agentId inner := by
  have hhandled := handled request inner
  generalize request.outcome inner = outcome, handle request inner = after at hhandled ⊢
  cases hhandled with
  | @registered hello now hvalid =>
      have hne : hello.agentId ≠ agentId := fun h => hother (congrArg some h)
      simp [agentView, Std.ExtTreeMap.getElem?_insert, hne]
  | @heard heartbeat now hvalid =>
      have hne : heartbeat.agentId ≠ agentId := fun h => hother (congrArg some h)
      simp [agentView, Std.ExtTreeMap.getElem?_insert, hne]
  | @accepted batch hvalid =>
      have hne : batch.agentId ≠ agentId := fun h => hother (congrArg some h)
      simp [agentView, updateSequenceTracking, Std.ExtTreeMap.getElem?_insert, hne]
  | rejected hinvalid => rfl
  | refused hevents => rfl
  | read hreads => rfl

/-- The state after one more call. -/
def serveNext (inner : InnerState) (request : Request) : InnerState := handle request inner

theorem localView (agentId : String) :
    LocalView serveNext (·.agentId = some agentId) (agentView agentId) where
  frame hother := agentView_handle_other hother _
  congr hown heq := by
    rw [serveNext, serveNext, agentView_handle_own hown, agentView_handle_own hown, heq]

/-! ## What is reported of one agent -/

/-- The entry of an agent in the status. -/
def statusEntry (agentId : String) (now : SystemTime) (inner : InnerState) :
    Option AgentStatus :=
  (status now inner).agents.find? (·.agentId = agentId)

/-- Every agent is registered under the id its hello carries. -/
def Keyed (inner : InnerState) : Prop :=
  ∀ (agentId : String) (registered : RegisteredAgent),
    inner.agents[agentId]? = some registered → registered.hello.agentId = agentId

theorem keyed_new (config : ConfigResponse) (startedAt : SystemTime) :
    Keyed (InnerState.new config startedAt) := by
  intro agentId registered h
  simp [InnerState.new] at h

theorem keyed_handle {inner : InnerState} (hinner : Keyed inner) (request : Request) :
    Keyed (handle request inner) := by
  have hhandled := handled request inner
  generalize request.outcome inner = outcome, handle request inner = after at hhandled ⊢
  cases hhandled with
  | @registered hello now hvalid =>
      intro agentId registered h
      rw [Std.ExtTreeMap.getElem?_insert] at h
      split at h
      · next heq =>
          obtain rfl := Option.some.inj h
          exact Std.LawfulEqCmp.eq_of_compare heq
      · exact hinner agentId registered h
  | heard hvalid => exact hinner
  | accepted hvalid => exact hinner
  | rejected hinvalid => exact hinner
  | refused hevents => exact hinner
  | read hreads => exact hinner

/-- The entry of a registered agent is the one under its id. -/
theorem statusEntry_eq {inner : InnerState} (hinner : Keyed inner) (agentId : String)
    (now : SystemTime) :
    statusEntry agentId now inner =
      (inner.agents[agentId]?).map (agentStatus now inner agentId) := by
  have hentries : ∀ entry ∈ (status now inner).agents, entry.agentId = agentId →
      (inner.agents[agentId]?).map (agentStatus now inner agentId) = some entry := by
    intro entry hentry hid
    obtain ⟨⟨key, registered⟩, hmem, rfl⟩ := List.mem_map.mp hentry
    rw [Std.ExtTreeMap.mem_toList_iff_getElem?_eq_some] at hmem
    obtain rfl : key = agentId := (hinner key registered hmem).symm.trans hid
    rw [hmem, Option.map_some]
  rw [statusEntry]
  cases hfound : (status now inner).agents.find? (·.agentId = agentId) with
  | some entry =>
      have hid : entry.agentId = agentId := by simpa using List.find?_some hfound
      exact (hentries entry (List.mem_of_find?_eq_some hfound) hid).symm
  | none =>
      cases hregistered : inner.agents[agentId]? with
      | none => rfl
      | some registered =>
          have hmem : agentStatus now inner agentId registered ∈ (status now inner).agents :=
            List.mem_map.mpr ⟨(agentId, registered),
              Std.ExtTreeMap.mem_toList_iff_getElem?_eq_some.mpr hregistered, rfl⟩
          have hnone := List.find?_eq_none.mp hfound _ hmem
          exact absurd (decide_eq_true (hinner agentId registered hregistered)) hnone

/-- Equal views make equal entries. -/
theorem statusEntry_congr {first second : InnerState} (hfirst : Keyed first)
    (hsecond : Keyed second) {agentId : String}
    (heq : agentView agentId first = agentView agentId second) (now : SystemTime) :
    statusEntry agentId now first = statusEntry agentId now second := by
  simp only [agentView, AgentView.mk.injEq] at heq
  obtain ⟨-, hregistered, hheartbeat, hsequence⟩ := heq
  rw [statusEntry_eq hfirst, statusEntry_eq hsecond, hregistered]
  refine Option.map_congr fun registered _ => ?_
  simp only [agentStatus, hheartbeat, hsequence]

theorem mem_unconvergedAgents_congr {first second : InnerState} {agentId : String}
    (heq : agentView agentId first = agentView agentId second) (targetHash : String) :
    agentId ∈ unconvergedAgents targetHash first ↔
      agentId ∈ unconvergedAgents targetHash second := by
  simp only [agentView, AgentView.mk.injEq] at heq
  obtain ⟨-, hregistered, hheartbeat, -⟩ := heq
  rw [mem_unconvergedAgents_iff, mem_unconvergedAgents_iff, hheartbeat,
    Std.ExtTreeMap.mem_iff_isSome_getElem?, Std.ExtTreeMap.mem_iff_isSome_getElem?,
    hregistered]

/-! ## What the calls add up to -/

/-- The four counters of the status. -/
def totalCounters : List (StatusTotals → ℕ) :=
  [StatusTotals.acceptedEventsTotal, StatusTotals.rejectedEventsTotal,
    StatusTotals.batchesAcceptedTotal, StatusTotals.batchesRejectedTotal]

def totals (inner : InnerState) : StatusTotals := (status 0 inner).totals

/-- What a call adds to the totals under a config. -/
def addedTotals (config : ConfigResponse) (request : Request) : StatusTotals :=
  totals (handle request (InnerState.new config 0))

/-- Only batches count. -/
theorem totals_handle_other {request : Request} (hother : request.isEvents = false)
    (inner : InnerState) : totals (handle request inner) = totals inner := by
  have hhandled := handled request inner
  generalize request.outcome inner = outcome, handle request inner = after at hhandled ⊢
  cases hhandled with
  | registered hvalid => rfl
  | heard hvalid => rfl
  | accepted hvalid => cases hother
  | rejected hinvalid => cases hother
  | refused hevents => rfl
  | read hreads => rfl

theorem totals_new {counter : StatusTotals → ℕ} (hcounter : counter ∈ totalCounters)
    (config : ConfigResponse) (startedAt : SystemTime) :
    counter (totals (InnerState.new config startedAt)) = 0 := by
  fin_cases hcounter <;> rfl

/-- A call that is not a batch adds nothing. -/
theorem addedTotals_other {counter : StatusTotals → ℕ} (hcounter : counter ∈ totalCounters)
    {request : Request} (hother : request.isEvents = false) (config : ConfigResponse) :
    counter (addedTotals config request) = 0 := by
  rw [addedTotals, totals_handle_other hother]
  exact totals_new hcounter config 0

theorem totals_handle {counter : StatusTotals → ℕ} (hcounter : counter ∈ totalCounters)
    (request : Request) (inner : InnerState) :
    counter (totals (handle request inner)) =
      counter (totals inner) + counter (addedTotals inner.config request) := by
  cases hevents : request.isEvents with
  | false => rw [totals_handle_other hevents, addedTotals_other hcounter hevents, Nat.add_zero]
  | true =>
      cases request with
      | events batch =>
          simp only [addedTotals, handle, recordEventBatch, InnerState.new]
          cases batch.validate inner.config.batching.maxBatchEvents.toNat <;>
            fin_cases hcounter <;> simp [totals, status, updateSequenceTracking]
      | hello _ _ | config _ _ | heartbeat _ _ | status _ => cases hevents

/-! ## Runs of calls -/

/-- The controller after the calls. -/
def serveAll (config : ConfigResponse) (startedAt : SystemTime) (requests : List Request) :
    InnerState :=
  requests.foldl serveNext (InnerState.new config startedAt)

/-- The calls of one agent. -/
def callsOf (agentId : String) (requests : List Request) : List Request :=
  requests.filter (·.agentId = some agentId)

/-- The agents that take part. -/
def callers (requests : List Request) : Finset String :=
  (requests.filterMap Request.agentId).toFinset

theorem keyed_serveAll (config : ConfigResponse) (startedAt : SystemTime)
    (requests : List Request) : Keyed (serveAll config startedAt requests) :=
  requests.foldlRecOn serveNext (keyed_new config startedAt)
    fun _ hinner request _ => keyed_handle hinner request

theorem agentView_serveAll (config : ConfigResponse) (startedAt : SystemTime)
    (requests : List Request) (agentId : String) :
    agentView agentId (serveAll config startedAt requests) =
      agentView agentId (serveAll config startedAt (callsOf agentId requests)) :=
  (localView agentId).foldl_filter requests _

theorem totals_serveAll {counter : StatusTotals → ℕ} (hcounter : counter ∈ totalCounters)
    (config : ConfigResponse) (startedAt : SystemTime) (requests : List Request) :
    counter (totals (serveAll config startedAt requests)) =
      (requests.map fun request => counter (addedTotals config request)).sum := by
  have hrun := foldl_total serveNext (fun inner => counter (totals inner))
    (fun request => counter (addedTotals config request))
    (fun (hinner : _ = config) => (handle_config _ _).trans hinner)
    (fun hinner => hinner ▸ totals_handle hcounter _ _)
    (rfl : (InnerState.new config startedAt).config = config) requests
  rw [serveAll, hrun, totals_new hcounter, Nat.zero_add]

/-- The totals are the sums of what the agents' own runs come to. -/
theorem totals_serveAll_callers {counter : StatusTotals → ℕ}
    (hcounter : counter ∈ totalCounters) (config : ConfigResponse) (startedAt : SystemTime)
    (requests : List Request) :
    counter (totals (serveAll config startedAt requests)) =
      ∑ agentId ∈ callers requests,
        counter (totals (serveAll config startedAt (callsOf agentId requests))) := by
  simp only [totals_serveAll hcounter]
  refine sum_weight_owner (fun request hnone => ?_) requests fun request hmem agentId hid => ?_
  · cases request with
    | status now => exact addedTotals_other hcounter rfl config
    | hello _ _ | config _ _ | heartbeat _ _ | events _ => cases hnone
  · exact List.mem_toFinset.mpr (List.mem_filterMap.mpr ⟨request, hmem, hid⟩)

/-! ## Calls of different agents commute -/

attribute [ext] InnerState

@[simp]
theorem handle_startedAt (request : Request) (inner : InnerState) :
    (handle request inner).startedAt = inner.startedAt := by
  have hhandled := handled request inner
  generalize request.outcome inner = outcome, handle request inner = after at hhandled ⊢
  cases hhandled <;> rfl

/-- A state is its config, its start, the views of all agents and the totals. -/
theorem InnerState.ext_of_views {first second : InnerState}
    (hviews : ∀ agentId, agentView agentId first = agentView agentId second)
    (hstartedAt : first.startedAt = second.startedAt)
    (htotals : ∀ counter ∈ totalCounters, counter (totals first) = counter (totals second)) :
    first = second := by
  simp only [agentView, AgentView.mk.injEq, forall_and] at hviews
  obtain ⟨hconfig, hagents, hheartbeats, hsequences⟩ := hviews
  simp only [totalCounters, List.forall_mem_cons, List.not_mem_nil] at htotals
  obtain ⟨haccepted, hrejected, hbatchesAccepted, hbatchesRejected, -⟩ := htotals
  exact InnerState.ext (hconfig "") hstartedAt (Std.ExtTreeMap.ext_getElem? hagents)
    (Std.ExtTreeMap.ext_getElem? hheartbeats) (Std.ExtTreeMap.ext_getElem? hsequences)
    haccepted hrejected hbatchesAccepted hbatchesRejected

theorem handle_comm {first second : Request} (hne : first.agentId ≠ second.agentId)
    (inner : InnerState) :
    handle first (handle second inner) = handle second (handle first inner) := by
  apply InnerState.ext_of_views
  · intro agentId
    refine (localView agentId).step_comm ?_ inner
    by_cases hsecond : second.agentId = some agentId
    · exact .inr fun hfirst => hne (hfirst.trans hsecond.symm)
    · exact .inl hsecond
  · simp
  · intro counter hcounter
    simp only [totals_handle hcounter, handle_config]
    exact Nat.add_right_comm ..

/-- **Agents are isolated.** The status entry of an agent, and whether it is listed
as unconverged, are what its own calls alone would leave; the totals are the sums
over the agents' own calls; and calls of different agents commute. -/
theorem agents_isolated (config : ConfigResponse) (startedAt : SystemTime)
    (requests : List Request) :
    (∀ agentId now,
      statusEntry agentId now (serveAll config startedAt requests) =
        statusEntry agentId now (serveAll config startedAt (callsOf agentId requests))) ∧
    (∀ agentId targetHash,
      agentId ∈ unconvergedAgents targetHash (serveAll config startedAt requests) ↔
        agentId ∈ unconvergedAgents targetHash
          (serveAll config startedAt (callsOf agentId requests))) ∧
    (∀ counter ∈ totalCounters,
      counter (totals (serveAll config startedAt requests)) =
        ∑ agentId ∈ callers requests,
          counter (totals (serveAll config startedAt (callsOf agentId requests)))) ∧
    (∀ first second : Request, first.agentId ≠ second.agentId → ∀ inner,
      handle first (handle second inner) = handle second (handle first inner)) := by
  have hview := agentView_serveAll config startedAt requests
  refine ⟨fun agentId now => ?_, fun agentId targetHash => ?_, fun counter hcounter => ?_,
    fun first second hne inner => ?_⟩
  · exact statusEntry_congr (keyed_serveAll _ _ _) (keyed_serveAll _ _ _) (hview agentId) now
  · exact mem_unconvergedAgents_congr (hview agentId) targetHash
  · exact totals_serveAll_callers hcounter config startedAt requests
  · exact handle_comm hne inner

end Tapio.Controller
