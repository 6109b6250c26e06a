/-
# The container probe

The handlers of `oom/mark_victim` and `sched/sched_process_exit`. An exit status
holds an exit code and, in its low seven bits, a signal; exits without either are not
reported, nor are those whose code is in the config's list.
-/
import Tapio.Ebpf.Helpers

namespace Tapio.Ebpf

/-- The context of `mark_victim`, as far as the handler reads it. -/
structure TraceEventRawMarkVictim where
  pid : Int32
  anonRss : UInt64
  fileRss : UInt64
  shmemRss : UInt64
  deriving DecidableEq

/-- The context of `sched_process_exit`, as far as the handler reads it. -/
structure TraceEventRawSchedProcessExit where
  pid : Int32
  deriving DecidableEq

/-- The exit code in an exit status. -/
def exitCodeOf (exitStatus : UInt32) : Int32 := (exitStatus >>> 8).toInt32

/-- The signal in an exit status. -/
def signalOf (exitStatus : UInt32) : Int32 := (exitStatus &&& 0x7F).toInt32

def tapioClampIgnoreExitCount (count : UInt32) : UInt32 :=
  if count > UInt32.ofNat tapioConfigMaxIgnoreExitCodes then
    UInt32.ofNat tapioConfigMaxIgnoreExitCodes
  else count

/-- The code is in one of the slots in use. -/
def isIgnoredExit (cfg : TapioConfig) (code : Int32) : Bool :=
  (cfg.ignoreExitCodes.toList.take (tapioClampIgnoreExitCount cfg.ignoreExitCount).toNat).any
    (· == code)

/-- Memory is counted in pages of 4096 bytes. The victim's thread, cgroup and limit are
left for userspace to find. -/
def oomEvent (inv : Invocation) (cfg : TapioConfig) (ctx : TraceEventRawMarkVictim) :
    ContainerEvent where
  configGeneration := cfg.generation
  memoryLimit := 0
  memoryUsage := (ctx.anonRss + ctx.fileRss + ctx.shmemRss) * 4096
  timestampNs := inv.ktimeNs
  cgroupId := 0
  eventType := containerEventOom
  pid := ctx.pid.toUInt32
  tid := 0
  exitCode := 137
  signal := 9

def exitEvent (inv : Invocation) (cfg : TapioConfig) (ctx : TraceEventRawSchedProcessExit)
    (exitStatus : UInt32) : ContainerEvent where
  configGeneration := cfg.generation
  memoryLimit := 0
  memoryUsage := 0
  timestampNs := inv.ktimeNs
  cgroupId := inv.cgroupId
  eventType := containerEventExit
  pid := ctx.pid.toUInt32
  tid := (inv.pidTgid &&& 0xFFFFFFFF).toUInt32
  exitCode := exitCodeOf exitStatus
  signal := signalOf exitStatus

/-- Submit an event if there is room for it, and count it as lost otherwise. -/
def submitContainer (ringbufFree : Bool) (event : ContainerEvent) (metrics : Metrics) :
    Metrics × Option ContainerEvent :=
  if ringbufFree then (metrics, some event) else (metricInc metricLostEvents metrics, none)

/-- Tracepoint `mark_victim`. -/
def handleOom (inv : Invocation) (ctx : TraceEventRawMarkVictim) (metrics : Metrics) :
    Metrics × Option ContainerEvent :=
  match inv.enabledConfig tapioFContainer with
  | none => (metrics, none)
  | some cfg => submitContainer inv.ringbufFree (oomEvent inv cfg ctx) metrics

/-- Tracepoint `sched_process_exit`, with what the current task's `exit_code` reads
as. -/
def handleExit (inv : Invocation) (ctx : TraceEventRawSchedProcessExit)
    (taskExitCode : Option UInt32) (metrics : Metrics) : Metrics × Option ContainerEvent :=
  match inv.enabledConfig tapioFContainer with
  | none => (metrics, none)
  | some cfg =>
      match taskExitCode with
      | none => (metrics, none)
      | some exitStatus =>
          if exitCodeOf exitStatus = 0 ∧ signalOf exitStatus = 0 then (metrics, none)
          else if isIgnoredExit cfg (exitCodeOf exitStatus) then (metrics, none)
          else submitContainer inv.ringbufFree (exitEvent inv cfg ctx exitStatus) metrics

/-! ## What is submitted, and under which config -/

@[simp]
theorem submitContainer_event (ringbufFree : Bool) (event : ContainerEvent)
    (metrics : Metrics) :
    (submitContainer ringbufFree event metrics).2 = if ringbufFree then some event else none := by
  cases ringbufFree <;> rfl

theorem handleOom_disabled {inv : Invocation}
    (hoff : inv.enabledConfig tapioFContainer = none) (ctx : TraceEventRawMarkVictim)
    (metrics : Metrics) : handleOom inv ctx metrics = (metrics, none) := by
  rw [handleOom, hoff]

theorem handleOom_stamped {inv : Invocation} {cfg : TapioConfig}
    (hon : inv.enabledConfig tapioFContainer = some cfg) {ctx : TraceEventRawMarkVictim}
    {metrics : Metrics} :
    ∀ event ∈ (handleOom inv ctx metrics).2, event.configGeneration = cfg.generation := by
  intro event hevent
  rw [handleOom, hon, submitContainer_event] at hevent
  obtain rfl := Option.some.inj (Option.mem_ite_none_right.mp hevent).2
  rfl

theorem handleExit_disabled {inv : Invocation}
    (hoff : inv.enabledConfig tapioFContainer = none) (ctx : TraceEventRawSchedProcessExit)
    (taskExitCode : Option UInt32) (metrics : Metrics) :
    handleExit inv ctx taskExitCode metrics = (metrics, none) := by
  rw [handleExit, hoff]

/-- An exit is reported if it is abnormal, its code is not in the list and there is
room. -/
theorem handleExit_event {inv : Invocation} {cfg : TapioConfig}
    (hon : inv.enabledConfig tapioFContainer = some cfg)
    (ctx : TraceEventRawSchedProcessExit) (exitStatus : UInt32) (metrics : Metrics) :
    (handleExit inv ctx (some exitStatus) metrics).2 =
      if ¬ (exitCodeOf exitStatus = 0 ∧ signalOf exitStatus = 0) ∧
          isIgnoredExit cfg (exitCodeOf exitStatus) = false ∧ inv.ringbufFree then
        some (exitEvent inv cfg ctx exitStatus)
      else none := by
  simp only [handleExit, hon]
  by_cases hnormal : exitCodeOf exitStatus = 0 ∧ signalOf exitStatus = 0
  · rw [if_pos hnormal, if_neg fun h => h.1 hnormal]
  · rw [if_neg hnormal]
    cases hignored : isIgnoredExit cfg (exitCodeOf exitStatus) with
    | true => simp
    | false => simp [hnormal]

theorem handleExit_stamped {inv : Invocation} {cfg : TapioConfig}
    (hon : inv.enabledConfig tapioFContainer = some cfg)
    {ctx : TraceEventRawSchedProcessExit} {taskExitCode : Option UInt32}
    {metrics : Metrics} :
    ∀ event ∈ (handleExit inv ctx taskExitCode metrics).2,
      event.configGeneration = cfg.generation := by
  intro event hevent
  cases taskExitCode with
  | none =>
      rw [handleExit, hon] at hevent
      cases hevent
  | some exitStatus =>
      rw [handleExit_event hon] at hevent
      obtain rfl := Option.some.inj (Option.mem_ite_none_right.mp hevent).2
      rfl

end Tapio.Ebpf
