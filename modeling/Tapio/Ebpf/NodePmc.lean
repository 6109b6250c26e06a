/-
# The PMC probe

A timer samples the hardware counters of a CPU. The counters are read after the
reservation, which is discarded if the cycles or the instructions cannot be read;
stalls that cannot be read count as none.
-/
import Tapio.Ebpf.Helpers

namespace Tapio.Ebpf

/-- The CPU and what its counters read as; `none` where a read fails. -/
structure PmcReads where
  cpu : UInt32
  cycles : Option UInt64
  instructions : Option UInt64
  stalls : Option UInt64
  deriving DecidableEq

/-- The value of a counter, or -1 if it cannot be read. -/
def readPmc (counter : Option UInt64) : Int64 :=
  match counter with
  | none => -1
  | some counter => counter.toInt64

def pmcEvent (inv : Invocation) (cfg : TapioConfig) (cpu : UInt32)
    (cycles instructions stalls : Int64) : PmcEvent where
  configGeneration := cfg.generation
  cpu := cpu
  cycles := cycles.toUInt64
  instructions := instructions.toUInt64
  stallCycles := stalls.toUInt64
  timestamp := inv.ktimeNs

/-- Perf event `sample_pmc`. -/
def samplePmc (inv : Invocation) (reads : PmcReads) (metrics : Metrics) :
    Metrics × Option PmcEvent :=
  match inv.enabledConfig tapioFNodePmc with
  | none => (metrics, none)
  | some cfg =>
      if inv.ringbufFree then
        let cycles := readPmc reads.cycles
        let instructions := readPmc reads.instructions
        let stalls := readPmc reads.stalls
        if cycles < 0 ∨ instructions < 0 then (metrics, none)
        else
          (metrics, some (pmcEvent inv cfg reads.cpu cycles instructions
            (if stalls < 0 then 0 else stalls)))
      else (metricInc metricLostEvents metrics, none)

theorem samplePmc_disabled {inv : Invocation}
    (hoff : inv.enabledConfig tapioFNodePmc = none) (reads : PmcReads) (metrics : Metrics) :
    samplePmc inv reads metrics = (metrics, none) := by
  rw [samplePmc, hoff]

theorem samplePmc_stamped {inv : Invocation} {cfg : TapioConfig}
    (hon : inv.enabledConfig tapioFNodePmc = some cfg) {reads : PmcReads}
    {metrics : Metrics} :
    ∀ event ∈ (samplePmc inv reads metrics).2, event.configGeneration = cfg.generation := by
  intro event hevent
  simp only [samplePmc, hon] at hevent
  split at hevent
  · split at hevent
    · cases hevent
    · obtain rfl := Option.some.inj hevent
      rfl
  · cases hevent

end Tapio.Ebpf
