/-
# Nothing is emitted without a config that enables it

All handlers of all observers, over maps of their own and one config map each, which
userspace may rewrite between any two invocations. An invocation reads its snapshot
once. What it submits carries the generation of that snapshot, and under a snapshot
that does not enable the observer it does nothing, except that the completion of a
block request still forgets the request.
-/
import Tapio.Ebpf.Container
import Tapio.Ebpf.Network
import Tapio.Ebpf.NodePmc
import Tapio.Ebpf.Storage
import Tapio.Transition.Machine

namespace Tapio.Ebpf

open Transition

inductive Observer
  | network
  | container
  | storage
  | nodePmc
  deriving DecidableEq

def Observer.flag : Observer → UInt64
  | .network => tapioFNetwork
  | .container => tapioFContainer
  | .storage => tapioFStorage
  | .nodePmc => tapioFNodePmc

/-- The maps of all observers, apart from the config maps. -/
structure KernelMaps where
  network : NetworkMaps
  container : Metrics
  storage : StorageMaps
  nodePmc : Metrics

inductive KernelEvent
  | network (event : NetworkEvent)
  | container (event : ContainerEvent)
  | storage (event : StorageEvent)
  | nodePmc (event : PmcEvent)

def KernelEvent.configGeneration : KernelEvent → UInt32
  | .network event => event.configGeneration
  | .container event => event.configGeneration
  | .storage event => event.configGeneration
  | .nodePmc event => event.configGeneration

/-- A handler, with its context and what it reads through pointers. -/
inductive HandlerCall
  | inetSockSetState (args : TraceEventRawInetSockSetState) (srttUs : Option UInt32)
      (stateRingbufFree : Bool)
  | tcpReceiveReset (args : TraceEventRawTcpReceiveReset)
  | tcpRetransmitSkb (args : TraceEventRawTcpRetransmitSkb)
  | markVictim (ctx : TraceEventRawMarkVictim)
  | schedProcessExit (ctx : TraceEventRawSchedProcessExit) (taskExitCode : Option UInt32)
  | blockRqIssue (ctx : TraceEventRawBlockRq)
  | blockRqComplete (ctx : TraceEventRawBlockRqCompletion)
  | perfEvent (reads : PmcReads)

def HandlerCall.observer : HandlerCall → Observer
  | .inetSockSetState _ _ _ | .tcpReceiveReset _ | .tcpRetransmitSkb _ => .network
  | .markVictim _ | .schedProcessExit _ _ => .container
  | .blockRqIssue _ | .blockRqComplete _ => .storage
  | .perfEvent _ => .nodePmc

/-- The maps after an invocation, and the events it submits. -/
def HandlerCall.run (call : HandlerCall) (inv : Invocation) (maps : KernelMaps) :
    KernelMaps × List KernelEvent :=
  match call with
  | .inetSockSetState args srttUs stateRingbufFree =>
      let result := traceInetSockSetState inv args srttUs stateRingbufFree maps.network
      ({ maps with network := result.1 }, result.2.map .network)
  | .tcpReceiveReset args =>
      let result := traceTcpReceiveReset inv args maps.network
      ({ maps with network := result.1 }, result.2.map .network)
  | .tcpRetransmitSkb args =>
      let result := traceTcpRetransmitSkb inv args maps.network
      ({ maps with network := result.1 }, result.2.map .network)
  | .markVictim ctx =>
      let result := handleOom inv ctx maps.container
      ({ maps with container := result.1 }, result.2.toList.map .container)
  | .schedProcessExit ctx taskExitCode =>
      let result := handleExit inv ctx taskExitCode maps.container
      ({ maps with container := result.1 }, result.2.toList.map .container)
  | .blockRqIssue ctx => ({ maps with storage := traceBlockRqIssue inv ctx maps.storage }, [])
  | .blockRqComplete ctx =>
      let result := traceBlockRqComplete inv ctx maps.storage
      ({ maps with storage := result.1 }, result.2.toList.map .storage)
  | .perfEvent reads =>
      let result := samplePmc inv reads maps.nodePmc
      ({ maps with nodePmc := result.1 }, result.2.toList.map .nodePmc)

/-- The key of the block request that completes, if it is a read or a write. -/
def HandlerCall.completedKey : HandlerCall → Option IoKey
  | .blockRqComplete ctx => ctx.key
  | _ => none

/-- An invocation, with the config it read and what it did. -/
structure Invoked where
  call : HandlerCall
  snapshot : TapioConfig
  before : KernelMaps
  after : KernelMaps
  events : List KernelEvent

structure KernelRun where
  /-- The element of each observer's config map. -/
  configs : Observer → TapioConfig
  maps : KernelMaps
  /-- The invocations so far, newest first. -/
  invoked : List Invoked

inductive KernelStep
  /-- Userspace rewrites the config map of an observer. -/
  | rewrite (observer : Observer) (config : TapioConfig)
  | invoke (call : HandlerCall) (inv : Invocation)
  | evictIo (key : IoKey)
  | evictRtt (key : ConnKey)

def kernelStep (s : KernelRun) : KernelStep → KernelRun
  | .rewrite observer config =>
      { s with configs := Function.update s.configs observer config }
  | .invoke call inv =>
      let snapshot := s.configs call.observer
      let result := call.run { inv with configMap := some snapshot } s.maps
      { s with
        maps := result.1
        invoked := ⟨call, snapshot, s.maps, result.1, result.2⟩ :: s.invoked }
  | .evictIo key =>
      { s with
        maps.storage.inflightIo := s.maps.storage.inflightIo.delete key }
  | .evictRtt key =>
      { s with
        maps.network.baselineRtt := s.maps.network.baselineRtt.delete key }

/-- From load on, with zeroed config maps. -/
def kernelMachine : Machine KernelRun KernelStep where
  init := ⟨fun _ => TapioConfig.default,
    ⟨NetworkMaps.empty, fun _ => 0, StorageMaps.empty, fun _ => 0⟩, []⟩
  step s step := some (kernelStep s step)

/-- The snapshot has the expected layout version and the observer's flag. -/
def Enables (snapshot : TapioConfig) (observer : Observer) : Prop :=
  snapshot.abiVersion = tapioConfigAbiVersion ∧ snapshot.flags &&& observer.flag ≠ 0

/-- What was submitted was enabled by the snapshot and carries its generation, and
without an enabling snapshot nothing was submitted and nothing changed but for the
deletion of a completed request's entry. -/
structure Judged (m : Invoked) : Prop where
  stamped : ∀ event ∈ m.events,
    Enables m.snapshot m.call.observer ∧ event.configGeneration = m.snapshot.generation
  silent : ¬ Enables m.snapshot m.call.observer →
    m.events = [] ∧
      (m.after = m.before ∨ ∃ key, m.call.completedKey = some key ∧
        m.after = { m.before with
          storage.inflightIo := m.before.storage.inflightIo.delete key })

/-! ## One invocation -/

/-- An enabled invocation stamps what it submits with the generation of its config. -/
theorem run_stamped {call : HandlerCall} {inv : Invocation} {cfg : TapioConfig}
    (hon : inv.enabledConfig call.observer.flag = some cfg) (maps : KernelMaps) :
    ∀ event ∈ (call.run inv maps).2, event.configGeneration = cfg.generation := by
  cases call with
  | inetSockSetState args srttUs stateRingbufFree =>
      exact List.forall_mem_map.mpr (traceInetSockSetState_stamped hon)
  | tcpReceiveReset args => exact List.forall_mem_map.mpr (traceTcpReceiveReset_stamped hon)
  | tcpRetransmitSkb args => exact List.forall_mem_map.mpr (traceTcpRetransmitSkb_stamped hon)
  | markVictim ctx =>
      refine List.forall_mem_map.mpr fun event hevent => ?_
      exact handleOom_stamped hon event (Option.mem_toList.mp hevent)
  | schedProcessExit ctx taskExitCode =>
      refine List.forall_mem_map.mpr fun event hevent => ?_
      exact handleExit_stamped hon event (Option.mem_toList.mp hevent)
  | blockRqIssue ctx => exact List.forall_mem_nil _
  | blockRqComplete ctx =>
      refine List.forall_mem_map.mpr fun event hevent => ?_
      exact traceBlockRqComplete_stamped hon event (Option.mem_toList.mp hevent)
  | perfEvent reads =>
      refine List.forall_mem_map.mpr fun event hevent => ?_
      exact samplePmc_stamped hon event (Option.mem_toList.mp hevent)

/-- An invocation that is not enabled submits nothing and forgets a completed request at
most. -/
theorem run_disabled {call : HandlerCall} {inv : Invocation}
    (hoff : inv.enabledConfig call.observer.flag = none) (maps : KernelMaps) :
    (call.run inv maps).2 = [] ∧
      ((call.run inv maps).1 = maps ∨ ∃ key, call.completedKey = some key ∧
        (call.run inv maps).1 = { maps with
          storage.inflightIo := maps.storage.inflightIo.delete key }) := by
  cases call with
  | inetSockSetState args srttUs stateRingbufFree =>
      rw [HandlerCall.run, traceInetSockSetState_disabled hoff]
      exact ⟨rfl, .inl rfl⟩
  | tcpReceiveReset args =>
      rw [HandlerCall.run, traceTcpReceiveReset_disabled hoff]
      exact ⟨rfl, .inl rfl⟩
  | tcpRetransmitSkb args =>
      rw [HandlerCall.run, traceTcpRetransmitSkb_disabled hoff]
      exact ⟨rfl, .inl rfl⟩
  | markVictim ctx =>
      rw [HandlerCall.run, handleOom_disabled hoff]
      exact ⟨rfl, .inl rfl⟩
  | schedProcessExit ctx taskExitCode =>
      rw [HandlerCall.run, handleExit_disabled hoff]
      exact ⟨rfl, .inl rfl⟩
  | blockRqIssue ctx =>
      rw [HandlerCall.run, traceBlockRqIssue_disabled hoff]
      exact ⟨rfl, .inl rfl⟩
  | blockRqComplete ctx =>
      rcases traceBlockRqComplete_disabled hoff ctx maps.storage with h | ⟨key, hkey, h⟩
      · rw [HandlerCall.run, h]
        exact ⟨rfl, .inl rfl⟩
      · rw [HandlerCall.run, h]
        exact ⟨rfl, .inr ⟨key, hkey, rfl⟩⟩
  | perfEvent reads =>
      rw [HandlerCall.run, samplePmc_disabled hoff]
      exact ⟨rfl, .inl rfl⟩

theorem enabledConfig_of_enables {inv : Invocation} {snapshot : TapioConfig}
    {observer : Observer} (hsnapshot : inv.configMap = some snapshot) :
    inv.enabledConfig observer.flag = some snapshot ↔ Enables snapshot observer := by
  rw [Invocation.enabledConfig_eq_some_iff, and_iff_right hsnapshot, Enables]

theorem judged_run {inv : Invocation} {snapshot : TapioConfig}
    (hsnapshot : inv.configMap = some snapshot) (call : HandlerCall) (maps : KernelMaps) :
    Judged ⟨call, snapshot, maps, (call.run inv maps).1, (call.run inv maps).2⟩ := by
  have hoff : ¬ Enables snapshot call.observer →
      inv.enabledConfig call.observer.flag = none := by
    intro hnot
    refine Option.eq_none_iff_forall_ne_some.mpr fun cfg hcfg => hnot ?_
    obtain ⟨hmap, henables⟩ := Invocation.enabledConfig_eq_some_iff.mp hcfg
    obtain rfl := Option.some.inj (hsnapshot.symm.trans hmap)
    exact henables
  apply Judged.mk
  · intro event hevent
    by_cases henables : Enables snapshot call.observer
    · have hon := (enabledConfig_of_enables hsnapshot).mpr henables
      exact ⟨henables, run_stamped hon maps event hevent⟩
    · rw [(run_disabled (hoff henables) maps).1] at hevent
      cases hevent
  · intro hnot
    exact run_disabled (hoff hnot) maps

/-! ## Runs -/

theorem judged_step {s : KernelRun} (hs : ∀ m ∈ s.invoked, Judged m) (step : KernelStep) :
    ∀ m ∈ (kernelStep s step).invoked, Judged m := by
  cases step with
  | rewrite observer config => exact hs
  | invoke call inv => exact List.forall_mem_cons.mpr ⟨judged_run rfl call s.maps, hs⟩
  | evictIo key => exact hs
  | evictRtt key => exact hs

/-- **Nothing without an enabling config.** In every run, whatever the configs are
rewritten to and when, every invocation so far was judged by the config it read. -/
theorem always_judged (steps : List KernelStep) :
    kernelMachine.Always (fun s => ∀ m ∈ s.invoked, Judged m) kernelMachine.init steps := by
  refine Machine.always_of_preserved (fun {s step t} hs hstep => ?_)
    (List.forall_mem_nil _) steps
  cases hstep
  exact judged_step hs step

end Tapio.Ebpf
