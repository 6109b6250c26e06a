/-
# The storage probe

The two handlers of the block layer tracepoints. `traceBlockRqIssue` remembers
when and by whom a read or write was issued, under a key that concurrent
requests may share, and `traceBlockRqComplete` looks the key up again and
reports the completion if it is anomalous. The theorems after each handler say
what it does to each map, path by path; later modules use them and never unfold
the handlers.
-/
import Mathlib.Tactic.SplitIfs
import Tapio.Ebpf.Helpers

namespace Tapio.Ebpf

/-- The key for requests in flight. -/
structure IoKey where
  devMajor : UInt32
  devMinor : UInt32
  sector : UInt64
  nrSector : UInt32
  opcode : UInt8
  deriving DecidableEq

/-- What is remembered of a request in flight. -/
structure IoValue where
  issueNs : UInt64
  cgroupId : UInt64
  bytes : UInt32
  issuerPid : UInt32
  opcode : UInt8
  /-- One if the key was issued again while this value was present. -/
  ambiguous : UInt8
  deriving DecidableEq

/-- The context of `block_rq_issue`, as far as the handler reads it. -/
structure TraceEventRawBlockRq where
  dev : UInt32
  sector : UInt64
  nrSector : UInt32
  rwbs : String
  deriving DecidableEq

/-- The context of `block_rq_complete`, as far as the handler reads it. -/
structure TraceEventRawBlockRqCompletion where
  dev : UInt32
  sector : UInt64
  nrSector : UInt32
  error : Int32
  rwbs : String
  deriving DecidableEq

/-- The maps of the storage probe. -/
structure StorageMaps where
  inflightIo : HashMap IoKey IoValue
  tapioMetrics : Metrics

/-- The maps as they are loaded. -/
def StorageMaps.empty : StorageMaps where
  inflightIo := HashMap.empty
  tapioMetrics := fun _ => 0

/-- Copy at most `size - 1` characters of a string. -/
def bpfCoreReadStr (size : ℕ) (source : String) : List Char :=
  source.toList.take (size - 1)

/-- The operation type from the first character of the `rwbs` field. -/
def rwbsOpcode (rwbs : String) : Option UInt8 :=
  match bpfCoreReadStr 8 rwbs with
  | 'R' :: _ => some opRead
  | 'W' :: _ => some opWrite
  | _ => none

/-- The key built from the fields of either context. -/
def ioKey (dev : UInt32) (sector : UInt64) (nrSector : UInt32) (opcode : UInt8) : IoKey where
  devMajor := dev >>> 20
  devMinor := dev &&& (((1 : UInt32) <<< 20) - 1)
  sector := sector
  nrSector := nrSector
  opcode := opcode

/-- The key of an issue, if it is a read or a write. -/
def TraceEventRawBlockRq.key (ctx : TraceEventRawBlockRq) : Option IoKey :=
  (rwbsOpcode ctx.rwbs).map (ioKey ctx.dev ctx.sector ctx.nrSector)

/-- The key of a completion, if it is a read or a write. -/
def TraceEventRawBlockRqCompletion.key (ctx : TraceEventRawBlockRqCompletion) :
    Option IoKey :=
  (rwbsOpcode ctx.rwbs).map (ioKey ctx.dev ctx.sector ctx.nrSector)

/-- The value captured when a request is issued. -/
def issueValue (inv : Invocation) (nrSector : UInt32) (opcode : UInt8) : IoValue where
  issueNs := inv.ktimeNs
  cgroupId := inv.cgroupId
  bytes := nrSector * 512
  issuerPid := (inv.pidTgid >>> 32).toUInt32
  opcode := opcode
  ambiguous := 0

/-- Tracepoint `block_rq_issue`: remember the request, or mark the key as
ambiguous if it is already in flight. -/
def traceBlockRqIssue (inv : Invocation) (ctx : TraceEventRawBlockRq)
    (maps : StorageMaps) : StorageMaps :=
  match inv.enabledConfig tapioFStorage with
  | none => maps
  | some _ =>
      match rwbsOpcode ctx.rwbs with
      | none => maps
      | some opcode =>
          let key := ioKey ctx.dev ctx.sector ctx.nrSector opcode
          let value := issueValue inv ctx.nrSector opcode
          match maps.inflightIo.updateNoExist key value with
          | some inflightIo => { maps with inflightIo }
          | none =>
              { maps with
                inflightIo := maps.inflightIo.modify key fun existing =>
                  { existing with ambiguous := 1 } }

/-- The severity of a completion, if it is anomalous. Zero thresholds are
inert. -/
def completionSeverity (cfg : TapioConfig) (errorCode : Int32) (latencyNs : UInt64) :
    Option UInt8 :=
  if errorCode ≠ 0 then some storageSeverityCritical
  else if cfg.ioLatencyCriticalNs > 0 ∧ latencyNs ≥ cfg.ioLatencyCriticalNs then
    some storageSeverityCritical
  else if cfg.slowIoThresholdNs > 0 ∧ latencyNs ≥ cfg.slowIoThresholdNs then
    some storageSeverityWarning
  else none

/-- The event filled in for an anomalous completion. -/
def storageEvent (inv : Invocation) (cfg : TapioConfig) (key : IoKey) (value : IoValue)
    (errorCode : Int32) (severity : UInt8) : StorageEvent where
  configGeneration := cfg.generation
  timestampNs := inv.ktimeNs
  latencyNs := inv.ktimeNs - value.issueNs
  cgroupId := value.cgroupId
  sector := key.sector
  devMajor := key.devMajor
  devMinor := key.devMinor
  bytes := value.bytes
  pid := value.issuerPid
  errorCode := errorCode
  opcode := value.opcode
  severity := severity
  comm := inv.comm

/-- Tracepoint `block_rq_complete`: forget the request, and submit an event if
its completion is anomalous. -/
def traceBlockRqComplete (inv : Invocation) (ctx : TraceEventRawBlockRqCompletion)
    (maps : StorageMaps) : StorageMaps × Option StorageEvent :=
  match rwbsOpcode ctx.rwbs with
  | none => (maps, none)
  | some opcode =>
      let key := ioKey ctx.dev ctx.sector ctx.nrSector opcode
      match maps.inflightIo key with
      | none => (maps, none)
      | some value =>
          let cleared := { maps with inflightIo := maps.inflightIo.delete key }
          match inv.enabledConfig tapioFStorage with
          | none => (cleared, none)
          | some cfg =>
              if value.ambiguous ≠ 0 then
                ({ cleared with
                    tapioMetrics := metricInc metricStorageAmbiguousIo maps.tapioMetrics },
                  none)
              else
                match completionSeverity cfg ctx.error (inv.ktimeNs - value.issueNs) with
                | none => (cleared, none)
                | some severity =>
                    if inv.ringbufFree then
                      (cleared, some (storageEvent inv cfg key value ctx.error severity))
                    else
                      ({ cleared with
                          tapioMetrics := metricInc metricLostEvents maps.tapioMetrics },
                        none)

/-! ## What an issue does -/

theorem traceBlockRqIssue_other {inv : Invocation} {ctx : TraceEventRawBlockRq}
    {maps : StorageMaps} (hop : rwbsOpcode ctx.rwbs = none) :
    traceBlockRqIssue inv ctx maps = maps := by
  rw [traceBlockRqIssue]
  split
  · rfl
  · simp [hop]

/-- An issue under a config that does not enable storage changes nothing. -/
theorem traceBlockRqIssue_disabled {inv : Invocation} {ctx : TraceEventRawBlockRq}
    {maps : StorageMaps} (hoff : inv.enabledConfig tapioFStorage = none) :
    traceBlockRqIssue inv ctx maps = maps := by
  rw [traceBlockRqIssue, hoff]

/-- An issue counts nothing. -/
@[simp]
theorem traceBlockRqIssue_metrics (inv : Invocation) (ctx : TraceEventRawBlockRq)
    (maps : StorageMaps) :
    (traceBlockRqIssue inv ctx maps).tapioMetrics = maps.tapioMetrics := by
  rw [traceBlockRqIssue]
  split
  · rfl
  · split
    · rfl
    · dsimp only
      split <;> rfl

/-- An enabled issue of a read or write fills an empty entry of its key and
marks an occupied one. -/
theorem traceBlockRqIssue_inflightIo {inv : Invocation} {ctx : TraceEventRawBlockRq}
    {maps : StorageMaps} {cfg : TapioConfig} {opcode : UInt8}
    (hon : inv.enabledConfig tapioFStorage = some cfg)
    (hop : rwbsOpcode ctx.rwbs = some opcode) (k : IoKey) :
    (traceBlockRqIssue inv ctx maps).inflightIo k =
      if k = ioKey ctx.dev ctx.sector ctx.nrSector opcode then
        match maps.inflightIo k with
        | none => some (issueValue inv ctx.nrSector opcode)
        | some existing => some { existing with ambiguous := 1 }
      else maps.inflightIo k := by
  simp only [traceBlockRqIssue, hon, hop, HashMap.updateNoExist]
  cases hold : maps.inflightIo (ioKey ctx.dev ctx.sector ctx.nrSector opcode) with
  | none =>
      by_cases hk : k = ioKey ctx.dev ctx.sector ctx.nrSector opcode
      · simp [hk, hold]
      · simp [hk]
  | some existing =>
      by_cases hk : k = ioKey ctx.dev ctx.sector ctx.nrSector opcode
      · simp [hk, hold]
      · simp [hk]

/-! ## What a completion does -/

theorem traceBlockRqComplete_other {inv : Invocation}
    {ctx : TraceEventRawBlockRqCompletion} {maps : StorageMaps}
    (hop : rwbsOpcode ctx.rwbs = none) :
    traceBlockRqComplete inv ctx maps = (maps, none) := by
  simp [traceBlockRqComplete, hop]

/-- A completion of a read or write leaves no entry under its key and touches
no other, on every path. -/
theorem traceBlockRqComplete_inflightIo {inv : Invocation}
    {ctx : TraceEventRawBlockRqCompletion} {maps : StorageMaps} {opcode : UInt8}
    (hop : rwbsOpcode ctx.rwbs = some opcode) :
    (traceBlockRqComplete inv ctx maps).1.inflightIo =
      maps.inflightIo.delete (ioKey ctx.dev ctx.sector ctx.nrSector opcode) := by
  simp only [traceBlockRqComplete, hop]
  split
  · next hnone => exact (HashMap.delete_of_none hnone).symm
  · repeat' split
    all_goals rfl

/-- A completion under a config that does not enable storage deletes its entry at
most. -/
theorem traceBlockRqComplete_disabled {inv : Invocation}
    (hoff : inv.enabledConfig tapioFStorage = none) (ctx : TraceEventRawBlockRqCompletion)
    (maps : StorageMaps) :
    traceBlockRqComplete inv ctx maps = (maps, none) ∨
      ∃ key, ctx.key = some key ∧
        traceBlockRqComplete inv ctx maps =
          ({ maps with inflightIo := maps.inflightIo.delete key }, none) := by
  cases hop : rwbsOpcode ctx.rwbs with
  | none => exact .inl (traceBlockRqComplete_other hop)
  | some opcode =>
      cases hvalue : maps.inflightIo (ioKey ctx.dev ctx.sector ctx.nrSector opcode) with
      | none => exact .inl (by simp [traceBlockRqComplete, hop, hvalue])
      | some value =>
          exact .inr ⟨_, by rw [TraceEventRawBlockRqCompletion.key, hop, Option.map_some],
            by simp [traceBlockRqComplete, hop, hvalue, hoff]⟩

/-- The ambiguity counter moves exactly when an enabled completion finds an
ambiguous entry. -/
theorem traceBlockRqComplete_ambiguousIo {inv : Invocation}
    {ctx : TraceEventRawBlockRqCompletion} {maps : StorageMaps} {cfg : TapioConfig}
    {opcode : UInt8} (hon : inv.enabledConfig tapioFStorage = some cfg)
    (hop : rwbsOpcode ctx.rwbs = some opcode) :
    (traceBlockRqComplete inv ctx maps).1.tapioMetrics metricStorageAmbiguousIo =
      maps.tapioMetrics metricStorageAmbiguousIo +
        if (maps.inflightIo (ioKey ctx.dev ctx.sector ctx.nrSector opcode)).any
          (·.ambiguous ≠ 0) then 1 else 0 := by
  simp only [traceBlockRqComplete, hop, hon]
  split
  · next hnone => simp [hnone]
  · next value hvalue =>
      rw [hvalue, Option.any_some]
      by_cases hamb : value.ambiguous ≠ 0
      · simp [hamb, metricInc, metricStorageAmbiguousIo, tapioMetricsMaxEntries]
      · simp only [hamb, decide_false, Bool.false_eq_true, if_false]
        repeat' split
        all_goals
          simp [metricInc, metricLostEvents, metricStorageAmbiguousIo,
            tapioMetricsMaxEntries]

/-- A submitted event is filled from an unambiguous entry found under the key
of the completion, in an enabled invocation. -/
theorem traceBlockRqComplete_event {inv : Invocation}
    {ctx : TraceEventRawBlockRqCompletion} {maps : StorageMaps} {opcode : UInt8}
    {evt : StorageEvent} (hop : rwbsOpcode ctx.rwbs = some opcode)
    (hevt : (traceBlockRqComplete inv ctx maps).2 = some evt) :
    ∃ cfg value severity,
      inv.enabledConfig tapioFStorage = some cfg ∧
      maps.inflightIo (ioKey ctx.dev ctx.sector ctx.nrSector opcode) = some value ∧
      value.ambiguous = 0 ∧
      completionSeverity cfg ctx.error (inv.ktimeNs - value.issueNs) = some severity ∧
      evt = storageEvent inv cfg (ioKey ctx.dev ctx.sector ctx.nrSector opcode) value
        ctx.error severity := by
  simp only [traceBlockRqComplete, hop] at hevt
  split at hevt
  · simp at hevt
  · next value hvalue =>
      split at hevt
      · simp at hevt
      · next cfg hcfg =>
          by_cases hamb : value.ambiguous = 0
          · simp only [hamb, ne_eq, not_true_eq_false, if_false] at hevt
            split at hevt
            · simp at hevt
            · next severity hsev =>
                cases hfree : inv.ringbufFree with
                | false => simp [hfree] at hevt
                | true =>
                    refine ⟨cfg, value, severity, hcfg, hvalue, hamb, hsev, ?_⟩
                    simpa [hfree] using hevt.symm
          · simp [hamb] at hevt

/-- What an enabled completion submits carries the generation of its config. -/
theorem traceBlockRqComplete_stamped {inv : Invocation} {cfg : TapioConfig}
    (hon : inv.enabledConfig tapioFStorage = some cfg)
    {ctx : TraceEventRawBlockRqCompletion} {maps : StorageMaps} :
    ∀ event ∈ (traceBlockRqComplete inv ctx maps).2,
      event.configGeneration = cfg.generation := by
  intro event hevent
  cases hop : rwbsOpcode ctx.rwbs with
  | none =>
      rw [traceBlockRqComplete_other hop] at hevent
      cases hevent
  | some opcode =>
      obtain ⟨_, _, _, hcfg, -, -, -, rfl⟩ := traceBlockRqComplete_event hop hevent
      obtain rfl := Option.some.inj (hon.symm.trans hcfg)
      rfl

/-- An enabled completion with a kernel error that finds an unambiguous entry
and room in the ring buffer submits a critical event. -/
theorem traceBlockRqComplete_error {inv : Invocation}
    {ctx : TraceEventRawBlockRqCompletion} {maps : StorageMaps} {cfg : TapioConfig}
    {opcode : UInt8} {value : IoValue}
    (hon : inv.enabledConfig tapioFStorage = some cfg)
    (hop : rwbsOpcode ctx.rwbs = some opcode)
    (hvalue : maps.inflightIo (ioKey ctx.dev ctx.sector ctx.nrSector opcode) = some value)
    (hamb : value.ambiguous = 0) (herror : ctx.error ≠ 0) (hfree : inv.ringbufFree) :
    (traceBlockRqComplete inv ctx maps).2 =
      some (storageEvent inv cfg (ioKey ctx.dev ctx.sector ctx.nrSector opcode) value
        ctx.error storageSeverityCritical) := by
  simp [traceBlockRqComplete, hop, hvalue, hon, hamb, completionSeverity, herror, hfree]

end Tapio.Ebpf
