/-
# Processes and their threads

The exit tracepoint fires for each thread of a process. The handler keeps no state and does
not compare the thread with the process, so it reports the death of a process once for each
of its threads, under the thread's id. That is one event about the process exactly if the
process has no other thread than its leader.
-/
import Tapio.Ebpf.ExitFilter
import Mathlib.Data.List.Perm.Basic

namespace Tapio.Ebpf

open Agent

/-! ## Exits -/

/-- A process that dies. The thread that has the id of the process leads it. -/
structure Process where
  pid : UInt32
  threads : List UInt32
  exitStatus : UInt32
  nodup : threads.Nodup
  leader : pid ∈ threads
  deriving DecidableEq

/-- The exit of a thread of a process, with what the handler is given and what it reads. -/
structure ThreadExit where
  process : Process
  inv : Invocation
  ctx : TraceEventRawSchedProcessExit
  taskExitCode : Option UInt32

/-- What the kernel passes for the exit of a thread, under a config that does not ignore it
and with room in the ring buffer. -/
structure ReportableExit (exit : ThreadExit) : Prop where
  thread : exit.ctx.pid.toUInt32 ∈ exit.process.threads
  tgid : (exit.inv.pidTgid >>> 32).toUInt32 = exit.process.pid
  status : exit.taskExitCode = some exit.process.exitStatus
  abnormal : Abnormal exit.process.exitStatus
  observed : ∃ cfg, exit.inv.enabledConfig tapioFContainer = some cfg ∧
    isIgnoredExit cfg (exitCodeOf exit.process.exitStatus) = false
  room : exit.inv.ringbufFree

/-- The exits of all threads of some processes, in any order. -/
structure AllExit (processes : List Process) (exits : List ThreadExit) : Prop where
  distinct : ∀ p ∈ processes, ∀ q ∈ processes, p.pid = q.pid → p = q
  reportable : ∀ exit ∈ exits, ReportableExit exit
  /-- The tracepoint fires once for each thread of a process. -/
  once : ∀ p ∈ processes,
    ((exits.filter (·.process = p)).map (·.ctx.pid.toUInt32)).Perm p.threads

/-- The events that the handler submits for the exits, one after another. -/
def submissions (metrics : Metrics) : List ThreadExit → List (ThreadExit × ContainerEvent)
  | [] => []
  | exit :: rest =>
      let result := handleExit exit.inv exit.ctx exit.taskExitCode metrics
      result.2.toList.map (fun event => (exit, event)) ++ submissions result.1 rest

/-- The events that come from the threads of a process. -/
def eventsOf (process : Process) (metrics : Metrics) (exits : List ThreadExit) :
    List ContainerEvent :=
  ((submissions metrics exits).filter (·.1.process = process)).map Prod.snd

/-- Each process gives one event, which carries its id, and different processes give
different events. -/
structure OneEventEach (processes : List Process) (metrics : Metrics)
    (exits : List ThreadExit) : Prop where
  one : ∀ p ∈ processes, ∃ event, eventsOf p metrics exits = [event] ∧ event.pid = p.pid
  distinct : ∀ p ∈ processes, ∀ q ∈ processes, p ≠ q →
    ∀ event ∈ eventsOf p metrics exits, event ∉ eventsOf q metrics exits

/-! ## One event for each thread -/

/-- The exit of a thread is reported under the id of the thread. -/
theorem ReportableExit.submitted {exit : ThreadExit} (h : ReportableExit exit)
    (metrics : Metrics) :
    ∃ event, (handleExit exit.inv exit.ctx exit.taskExitCode metrics).2 = some event ∧
      event.pid = exit.ctx.pid.toUInt32 := by
  obtain ⟨cfg, hon, hignored⟩ := h.observed
  refine ⟨exitEvent exit.inv cfg exit.ctx exit.process.exitStatus, ?_, rfl⟩
  have habnormal : ¬ (exitCodeOf exit.process.exitStatus = 0 ∧
      signalOf exit.process.exitStatus = 0) := not_and_or.mpr h.abnormal
  rw [h.status, handleExit_event hon, if_pos ⟨habnormal, hignored, h.room⟩]

/-- **An event for every thread**: the threads of a process are reported one by one. -/
theorem pids_eventsOf {exits : List ThreadExit} (h : ∀ exit ∈ exits, ReportableExit exit)
    (process : Process) (metrics : Metrics) :
    (eventsOf process metrics exits).map ContainerEvent.pid =
      (exits.filter (·.process = process)).map (·.ctx.pid.toUInt32) := by
  induction exits generalizing metrics with
  | nil => rfl
  | cons exit rest ih =>
      obtain ⟨hfirst, hrest⟩ := List.forall_mem_cons.mp h
      obtain ⟨event, hevent, hpid⟩ := hfirst.submitted metrics
      have hstep := ih hrest (handleExit exit.inv exit.ctx exit.taskExitCode metrics).1
      simp only [eventsOf] at hstep ⊢
      rw [submissions, hevent]
      by_cases hprocess : exit.process = process
      · simp [hprocess, hpid, hstep]
      · simp [hprocess, hstep]

section Exits

variable {processes : List Process} {exits : List ThreadExit}

theorem AllExit.perm_threads (h : AllExit processes exits) {p : Process} (hp : p ∈ processes)
    (metrics : Metrics) :
    ((eventsOf p metrics exits).map ContainerEvent.pid).Perm p.threads := by
  rw [pids_eventsOf h.reportable]
  exact h.once p hp

theorem AllExit.length_eventsOf (h : AllExit processes exits) {p : Process} (hp : p ∈ processes)
    (metrics : Metrics) : (eventsOf p metrics exits).length = p.threads.length := by
  rw [← (h.perm_threads hp metrics).length_eq, List.length_map]

/-- A process without other threads has its leader only. -/
theorem Process.threads_eq {p : Process} (h : p.threads.length = 1) : p.threads = [p.pid] := by
  obtain ⟨thread, hthread⟩ := List.length_eq_one_iff.mp h
  have hleader := p.leader
  rw [hthread, List.mem_singleton] at hleader
  rw [hthread, hleader]

/-- **One death, one event** exactly if no process has more than one thread. -/
theorem oneEventEach_iff (h : AllExit processes exits) (metrics : Metrics) :
    OneEventEach processes metrics exits ↔ ∀ p ∈ processes, p.threads.length = 1 := by
  apply Iff.intro
  · intro hone p hp
    obtain ⟨event, hevents, -⟩ := hone.one p hp
    rw [← h.length_eventsOf hp metrics, hevents, List.length_singleton]
  · intro hsingle
    have hone : ∀ p ∈ processes,
        ∃ event, eventsOf p metrics exits = [event] ∧ event.pid = p.pid := by
      intro p hp
      obtain ⟨event, hevents⟩ := List.length_eq_one_iff.mp
        ((h.length_eventsOf hp metrics).trans (hsingle p hp))
      have hperm := h.perm_threads hp metrics
      rw [hevents, Process.threads_eq (hsingle p hp), List.map_singleton,
        List.singleton_perm_singleton] at hperm
      exact ⟨event, hevents, hperm⟩
    refine ⟨hone, fun p hp q hq hne event hevent hother => hne (h.distinct p hp q hq ?_)⟩
    obtain ⟨first, hfirst, hpid⟩ := hone p hp
    obtain ⟨second, hsecond, hpid'⟩ := hone q hq
    rw [hfirst, List.mem_singleton] at hevent
    rw [hsecond, List.mem_singleton] at hother
    rw [← hpid, ← hpid', ← hevent, ← hother]

end Exits

/-! ## Killed processes -/

/-- A process with the given other threads that is killed. -/
def killedProcess (pid : UInt32) (others : List UInt32) (hnodup : (pid :: others).Nodup) :
    Process where
  pid := pid
  threads := pid :: others
  exitStatus := 9
  nodup := hnodup
  leader := List.mem_cons_self

def singleThreaded (pid : UInt32) : Process := killedProcess pid [] (List.nodup_singleton pid)

def twoThreaded : Process := killedProcess 4711 [4712] (by decide)

/-- The exit of a thread of the process, under the default config. -/
def killedThread (process : Process) (thread : UInt32) : ThreadExit where
  process := process
  inv :=
    { exitInvocation with
      configMap := some Thresholds.default.tapioConfig
      pidTgid := (process.pid.toUInt64 <<< 32) ||| thread.toUInt64 }
  ctx := ⟨thread.toInt32⟩
  taskExitCode := some process.exitStatus

theorem reportable_killedThread {process : Process} {thread : UInt32}
    (hthread : thread ∈ process.threads) (hstatus : process.exitStatus = 9)
    (htgid : (killedThread process thread).inv.pidTgid >>> 32 = process.pid.toUInt64) :
    ReportableExit (killedThread process thread) where
  thread := by simpa [killedThread] using hthread
  tgid := by
    rw [htgid]
    simp [killedThread]
  status := rfl
  abnormal := by
    rw [killedThread, hstatus]
    decide
  observed := by
    refine ⟨Thresholds.default.tapioConfig, ?_, ?_⟩
    · exact Invocation.enabledConfig_eq_some_iff.mpr ⟨rfl, rfl, by decide⟩
    · rw [killedThread, hstatus]
      decide +kernel
  room := rfl

/-- The exits of the threads of one process. -/
def killedThreads (process : Process) : List ThreadExit :=
  process.threads.map (killedThread process)

/-- Two processes, of which the second exits first. -/
theorem allExit_singleThreaded :
    AllExit [singleThreaded 4711, singleThreaded 4713]
      (killedThreads (singleThreaded 4713) ++ killedThreads (singleThreaded 4711)) where
  distinct := by decide
  reportable := by
    intro exit hexit
    rcases List.mem_append.mp hexit with hfirst | hsecond
    · obtain rfl := List.mem_singleton.mp hfirst
      exact reportable_killedThread List.mem_cons_self rfl (by decide)
    · obtain rfl := List.mem_singleton.mp hsecond
      exact reportable_killedThread List.mem_cons_self rfl (by decide)
  once := by decide

/-- Each with one thread, and one event each. -/
theorem oneEventEach_singleThreaded :
    OneEventEach [singleThreaded 4711, singleThreaded 4713] (fun _ => 0)
      (killedThreads (singleThreaded 4713) ++ killedThreads (singleThreaded 4711)) :=
  (oneEventEach_iff allExit_singleThreaded fun _ => 0).mpr (by decide)

/-- Two threads of one process, two events. -/
theorem not_oneEventEach_twoThreaded :
    AllExit [twoThreaded] (killedThreads twoThreaded) ∧
      ¬ OneEventEach [twoThreaded] (fun _ => 0) (killedThreads twoThreaded) := by
  apply And.intro
  · refine ⟨by simp, ?_, by decide⟩
    intro exit hexit
    obtain ⟨thread, hthread, rfl⟩ := List.mem_map.mp hexit
    have heither : thread = 4711 ∨ thread = 4712 := by
      simpa [twoThreaded, killedProcess] using hthread
    rcases heither with rfl | rfl
    · exact reportable_killedThread hthread rfl (by decide)
    · exact reportable_killedThread hthread rfl (by decide)
  · intro hone
    obtain ⟨event, hevents, -⟩ := hone.one twoThreaded List.mem_cons_self
    have hpids : (eventsOf twoThreaded (fun _ => 0) (killedThreads twoThreaded)).map
        ContainerEvent.pid = [4711, 4712] := by decide +kernel
    rw [hevents] at hpids
    exact absurd (congrArg List.length hpids) (by simp)

end Tapio.Ebpf
