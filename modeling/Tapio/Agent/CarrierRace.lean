/-
# Registrations racing with updates

`register` and `update_all` hold the carriers' lock only while they touch the
bookkeeping; the map writes happen after it is released. Here each call is cut
at its lock: a locked step, then its writes one by one, with every other
`register` call free to move in between. Calls to `update_all` follow one
another, as one task makes them. All writes succeed.

A late write carries the config that was current when its carrier was appended.
If it lands after a newer update has written the same map, that update is lost.
The theorems say that this is the only way to lose one.
-/
import Tapio.Agent.Carriers
import Tapio.Transition.Machine

namespace Tapio.Agent

open Transition

/-- The carriers, and the calls in progress. -/
structure RaceState where
  kernel : Kernel
  carriers : ConfigCarrierState
  /-- The late writes that `register` calls have still to make, each with the
  config it copied under the lock. -/
  late : List (ConfigCarrier × TapioConfig)
  /-- The `update_all` call in progress: its config and the carriers it has
  still to write. -/
  update : Option (TapioConfig × List ConfigCarrier)

/-- The carriers an update in progress has still to write. -/
def RaceState.unwritten (s : RaceState) : List ConfigCarrier :=
  match s.update with
  | none => []
  | some (_, rest) => rest

inductive RaceStep
  | registerLocked (carrier : ConfigCarrier)
  | registerWrite (carrier : ConfigCarrier) (config : TapioConfig)
  | updateLocked (config : TapioConfig)
  | updateWrite
  | updateReturn

/-- One step of one call. A `register` call that finds no current config has no
late write to make. -/
def raceStep (s : RaceState) : RaceStep → Option RaceState
  | .registerLocked carrier =>
      if s.kernel.fds carrier.mapFd = some (.configMap carrier.observer) then
        some { s with
          carriers := s.carriers.push carrier
          late :=
            match s.carriers.current with
            | none => s.late
            | some config => (carrier, config) :: s.late }
      else none
  | .registerWrite carrier config =>
      if (carrier, config) ∈ s.late then
        some { s with
          kernel := (s.kernel.bpfMapUpdateTapioConfig carrier.mapFd config true).1
          late := s.late.erase (carrier, config) }
      else none
  | .updateLocked config =>
      match s.update with
      | none =>
          some { s with
            carriers := { s.carriers with current := some config }
            update := some (config, s.carriers.carriers) }
      | some _ => none
  | .updateWrite =>
      match s.update with
      | some (config, carrier :: rest) =>
          some { s with
            kernel := (s.kernel.bpfMapUpdateTapioConfig carrier.mapFd config true).1
            update := some (config, rest) }
      | _ => none
  | .updateReturn =>
      match s.update with
      | some (_, []) => some { s with update := none }
      | _ => none

/-- The calls of a process whose descriptors stay as they are. -/
def raceMachine (kernel : Kernel) : Machine RaceState RaceStep where
  init := ⟨kernel, ConfigCarrierState.default, [], none⟩
  step := raceStep

@[simp]
theorem raceMachine_step (kernel : Kernel) : (raceMachine kernel).step = raceStep := rfl

/-! ## Calls that nothing interrupts -/

/-- A registration whose late write follows its locked step at once is
`register`. -/
theorem exec_register {kernel : Kernel} {s : RaceState} {carrier : ConfigCarrier}
    {config : TapioConfig}
    (hfd : s.kernel.fds carrier.mapFd = some (.configMap carrier.observer))
    (hcurrent : s.carriers.current = some config) :
    (raceMachine kernel).exec s [.registerLocked carrier, .registerWrite carrier config] =
      some { s with
        kernel := (register s.kernel s.carriers carrier true).1
        carriers := (register s.kernel s.carriers carrier true).2 } := by
  simp [raceStep, hfd, hcurrent, register]

theorem exec_updateWrites (kernel : Kernel) (config : TapioConfig) (s : RaceState)
    (rest : List ConfigCarrier) (hupdate : s.update = some (config, rest)) :
    (raceMachine kernel).exec s (rest.map fun _ => .updateWrite) =
      some { s with
        kernel := (fanOut config (fun _ => true) s.kernel rest).1
        update := some (config, []) } := by
  induction rest generalizing s with
  | nil => simp [fanOut, ← hupdate]
  | cons carrier rest ih =>
      rw [List.map_cons, Machine.exec_cons, raceMachine_step]
      simp only [raceStep, hupdate, Option.bind_some]
      exact ih _ rfl

/-- An update whose writes follow its locked step at once is `updateAll`. -/
theorem exec_updateAll (kernel : Kernel) (config : TapioConfig) {s : RaceState}
    (hupdate : s.update = none) :
    (raceMachine kernel).exec s
        (.updateLocked config ::
          ((s.carriers.carriers.map fun _ => .updateWrite) ++ [.updateReturn])) =
      some { s with
        kernel := (updateAll s.kernel s.carriers config fun _ => true).1
        carriers := (updateAll s.kernel s.carriers config fun _ => true).2.1 } := by
  rw [Machine.exec_cons, raceMachine_step]
  simp only [raceStep, hupdate, Option.bind_some]
  rw [Machine.exec_append, exec_updateWrites kernel config _ _ rfl, Option.bind_some]
  simp only [Machine.exec_cons, Machine.exec_nil, raceMachine_step, raceStep,
    Option.bind_some, updateAll]

/-! ## Lost updates -/

/-- No call is in progress. -/
def Quiet (s : RaceState) : Prop := s.late = [] ∧ s.update = none

/-- If no call is in progress and there is a current config, the map of every
registered carrier holds it. -/
def Converged (s : RaceState) : Prop :=
  Quiet s → ∀ config ∈ s.carriers.current, ∀ c ∈ s.carriers.carriers,
    s.kernel.tapioConfigAt c.mapFd = some config

instance : DecidablePred Quiet := fun _ => inferInstanceAs (Decidable (_ ∧ _))

instance : DecidablePred Converged := fun s =>
  inferInstanceAs
    (Decidable (Quiet s → ∀ config ∈ s.carriers.current, ∀ c ∈ s.carriers.carriers, _))

/-- A late write carries the current config, or lands before the update in
progress writes the same map. -/
def TimelyStep (s : RaceState) : RaceStep → Prop
  | .registerWrite carrier config =>
      s.carriers.current = some config ∨ ∃ r ∈ s.unwritten, r.observer = carrier.observer
  | _ => True

instance (s : RaceState) : (a : RaceStep) → Decidable (TimelyStep s a)
  | .registerWrite .. => inferInstanceAs (Decidable (_ ∨ ∃ r ∈ s.unwritten, _))
  | .registerLocked _ => isTrue trivial
  | .updateLocked _ => isTrue trivial
  | .updateWrite => isTrue trivial
  | .updateReturn => isTrue trivial

/-- What holds in between: the carriers denote their observers' maps, the calls
in progress write to registered carriers, and a map that does not hold the
current config has a write of it ahead. -/
structure Converging (s : RaceState) : Prop where
  denotes : ∀ c ∈ s.carriers.carriers,
    s.kernel.fds c.mapFd = some (.configMap c.observer)
  late : ∀ l ∈ s.late, l.1 ∈ s.carriers.carriers
  unwritten : ∀ c ∈ s.unwritten, c ∈ s.carriers.carriers
  update : ∀ u ∈ s.update, s.carriers.current = some u.1
  ahead : ∀ config ∈ s.carriers.current, ∀ c ∈ s.carriers.carriers,
    s.kernel.configMaps c.observer = config ∨
      (∃ r ∈ s.unwritten, r.observer = c.observer) ∨
      ∃ l ∈ s.late, l.1.observer = c.observer ∧ l.2 = config

theorem Converging.converged {s : RaceState} (hs : Converging s) : Converged s := by
  intro ⟨hlate, hupdate⟩ config hconfig c hc
  rw [Kernel.tapioConfigAt_of_fds (hs.denotes c hc)]
  have hahead := hs.ahead config hconfig c hc
  simpa [RaceState.unwritten, hlate, hupdate] using hahead

theorem Converging.registerLocked {s : RaceState} (hs : Converging s)
    {carrier : ConfigCarrier}
    (hfd : s.kernel.fds carrier.mapFd = some (.configMap carrier.observer)) :
    Converging { s with
      carriers := s.carriers.push carrier
      late :=
        match s.carriers.current with
        | none => s.late
        | some config => (carrier, config) :: s.late } := by
  have hmem : ∀ c ∈ s.carriers.carriers, c ∈ (s.carriers.push carrier).carriers :=
    fun c hc => List.mem_append_left _ hc
  refine ⟨fun c hc => ?_, fun l hl => ?_, fun c hc => hmem c (hs.unwritten c hc),
    hs.update, fun config hconfig c hc => ?_⟩
  · rcases List.mem_append.mp hc with hc | hc
    · exact hs.denotes c hc
    · rw [List.mem_singleton.mp hc]
      exact hfd
  · cases hcurrent : s.carriers.current with
    | none => exact hmem _ (hs.late l (by simpa [hcurrent] using hl))
    | some config =>
        simp only [hcurrent, List.mem_cons] at hl
        rcases hl with rfl | hl
        · exact List.mem_append_right _ List.mem_cons_self
        · exact hmem _ (hs.late l hl)
  · have hcurrent : s.carriers.current = some config := hconfig
    simp only [hcurrent, List.exists_mem_cons_iff]
    rcases List.mem_append.mp hc with hc | hc
    · rcases hs.ahead config hconfig c hc with h | h | h
      · exact .inl h
      · exact .inr (.inl h)
      · exact .inr (.inr (.inr h))
    · rw [List.mem_singleton.mp hc]
      exact .inr (.inr (.inl ⟨rfl, trivial⟩))

theorem Converging.registerWrite {s : RaceState} (hs : Converging s)
    {carrier : ConfigCarrier} {written : TapioConfig} (hmem : (carrier, written) ∈ s.late)
    (htimely : TimelyStep s (.registerWrite carrier written)) :
    Converging { s with
      kernel := (s.kernel.bpfMapUpdateTapioConfig carrier.mapFd written true).1
      late := s.late.erase (carrier, written) } := by
  have hfd := hs.denotes carrier (hs.late _ hmem)
  refine ⟨by simpa using hs.denotes, fun l hl => hs.late l (List.mem_of_mem_erase hl),
    hs.unwritten, hs.update, fun config hconfig c hc => ?_⟩
  have hcurrent : s.carriers.current = some config := hconfig
  simp only [Kernel.bpfMapUpdateTapioConfig_configMaps, hfd, and_true, Option.some.injEq,
    Descriptor.configMap.injEq]
  by_cases hsame : carrier.observer = c.observer
  · rcases htimely with htimely | htimely
    · refine .inl ?_
      rw [hcurrent] at htimely
      simp [hsame, Option.some.inj htimely]
    · exact .inr (.inl (hsame ▸ htimely))
  · rw [if_neg hsame]
    rcases hs.ahead config hconfig c hc with h | h | ⟨l, hl, hobserver, hl2⟩
    · exact .inl h
    · exact .inr (.inl h)
    · refine .inr (.inr ⟨l, (List.mem_erase_of_ne ?_).mpr hl, hobserver, hl2⟩)
      rintro rfl
      exact hsame hobserver

theorem Converging.updateLocked {s : RaceState} (hs : Converging s)
    (config : TapioConfig) :
    Converging { s with
      carriers := { s.carriers with current := some config }
      update := some (config, s.carriers.carriers) } where
  denotes := hs.denotes
  late := hs.late
  unwritten := fun _ hc => hc
  update := by simp
  ahead := fun _ _ c hc => .inr (.inl ⟨c, hc, rfl⟩)

theorem Converging.updateWrite {s : RaceState} (hs : Converging s) {config : TapioConfig}
    {carrier : ConfigCarrier} {rest : List ConfigCarrier}
    (hupdate : s.update = some (config, carrier :: rest)) :
    Converging { s with
      kernel := (s.kernel.bpfMapUpdateTapioConfig carrier.mapFd config true).1
      update := some (config, rest) } := by
  have hunwritten : s.unwritten = carrier :: rest := by simp [RaceState.unwritten, hupdate]
  have hcurrent := hs.update _ hupdate
  have hin := hs.unwritten
  rw [hunwritten] at hin
  have hfd := hs.denotes carrier (hin carrier List.mem_cons_self)
  refine ⟨by simpa using hs.denotes, hs.late,
    fun c hc => hin c (List.mem_cons_of_mem _ hc), by simpa using hcurrent,
    fun config' hconfig' c hc => ?_⟩
  obtain rfl : config = config' := Option.some.inj (hcurrent.symm.trans hconfig')
  simp only [Kernel.bpfMapUpdateTapioConfig_configMaps, hfd, and_true, Option.some.injEq,
    Descriptor.configMap.injEq]
  by_cases hsame : carrier.observer = c.observer
  · exact .inl (by simp [hsame])
  · rw [if_neg hsame]
    rcases hs.ahead config hcurrent c hc with h | ⟨r, hr, hobserver⟩ | h
    · exact .inl h
    · rw [hunwritten] at hr
      rcases List.mem_cons.mp hr with rfl | hr
      · exact absurd hobserver hsame
      · exact .inr (.inl ⟨r, hr, hobserver⟩)
    · exact .inr (.inr h)

theorem Converging.updateReturn {s : RaceState} (hs : Converging s) {config : TapioConfig}
    (hupdate : s.update = some (config, [])) : Converging { s with update := none } where
  denotes := hs.denotes
  late := hs.late
  unwritten := by simp [RaceState.unwritten]
  update := by simp
  ahead := fun config' hconfig' c hc => by
    simpa [RaceState.unwritten, hupdate] using hs.ahead config' hconfig' c hc

theorem converging_step {kernel : Kernel} {s t : RaceState} {a : RaceStep}
    (hs : Converging s) (htimely : TimelyStep s a)
    (hstep : (raceMachine kernel).step s a = some t) : Converging t := by
  rw [raceMachine_step] at hstep
  cases a with
  | registerLocked carrier =>
      obtain ⟨hfd, ht⟩ := Option.ite_none_right_eq_some.mp hstep
      cases ht
      exact hs.registerLocked hfd
  | registerWrite carrier config =>
      obtain ⟨hmem, ht⟩ := Option.ite_none_right_eq_some.mp hstep
      cases ht
      exact hs.registerWrite hmem htimely
  | updateLocked config =>
      match hupdate : s.update with
      | none =>
          simp only [raceStep, hupdate] at hstep
          cases hstep
          exact hs.updateLocked config
      | some u => simp [raceStep, hupdate] at hstep
  | updateWrite =>
      match hupdate : s.update with
      | none => simp [raceStep, hupdate] at hstep
      | some (config, []) => simp [raceStep, hupdate] at hstep
      | some (config, carrier :: rest) =>
          simp only [raceStep, hupdate] at hstep
          cases hstep
          exact hs.updateWrite hupdate
  | updateReturn =>
      match hupdate : s.update with
      | none => simp [raceStep, hupdate] at hstep
      | some (config, carrier :: rest) => simp [raceStep, hupdate] at hstep
      | some (config, []) =>
          simp only [raceStep, hupdate] at hstep
          cases hstep
          exact hs.updateReturn hupdate

/-- **Timely late writes lose no update.** In every run whose late writes are
timely, the registered maps hold the current config whenever no call is in
progress. -/
theorem converged_of_timely (kernel : Kernel) (schedule : List RaceStep)
    (htimely : (raceMachine kernel).EachStep TimelyStep (raceMachine kernel).init
      schedule) :
    (raceMachine kernel).Always Converged (raceMachine kernel).init schedule := by
  have hinit : Converging (raceMachine kernel).init := by
    constructor <;> simp [raceMachine, ConfigCarrierState.default, RaceState.unwritten]
  exact (Machine.always_of_eachStep converging_step hinit htimely).mono
    fun _ hs => hs.converged

/-- **An untimely late write loses one.** It leaves an older config in the map,
with no write of the update in progress ahead. -/
theorem stale_of_untimely {kernel : Kernel} {s t : RaceState} (hs : Converging s)
    {carrier : ConfigCarrier} {config : TapioConfig}
    (huntimely : ¬ TimelyStep s (.registerWrite carrier config))
    (hstep : (raceMachine kernel).step s (.registerWrite carrier config) = some t) :
    t.kernel.tapioConfigAt carrier.mapFd = some config ∧
      t.carriers.current ≠ some config ∧
      ∀ r ∈ t.unwritten, r.observer ≠ carrier.observer := by
  obtain ⟨hmem, ht⟩ := Option.ite_none_right_eq_some.mp hstep
  cases ht
  have hfd := hs.denotes carrier (hs.late _ hmem)
  simp only [TimelyStep, not_or, not_exists, not_and] at huntimely
  refine ⟨?_, huntimely.1, huntimely.2⟩
  rw [Kernel.tapioConfigAt_of_fds (by simpa using hfd),
    Kernel.bpfMapUpdateTapioConfig_configMaps]
  simp [hfd]

/-- Two observers have loaded their objects. -/
def twoObserverKernel : Kernel :=
  (Kernel.boot.load "network" 10).load "storage" 11

/-- The config of a generation, with every observer enabled. -/
def generationConfig (generation : UInt32) : TapioConfig :=
  { TapioConfig.default with
    abiVersion := tapioConfigAbiVersion
    generation := generation
    flags := tapioFNetwork ||| tapioFStorage ||| tapioFContainer ||| tapioFNodePmc }

/-- An observer registers while an update is in progress, and its late write of
the previous config still lands before the update writes its map. -/
def timelySchedule : List RaceStep :=
  [.updateLocked (generationConfig 1), .updateReturn, .registerLocked ⟨"network", 10⟩,
    .updateLocked (generationConfig 2), .registerWrite ⟨"network", 10⟩ (generationConfig 1),
    .updateWrite, .registerLocked ⟨"storage", 11⟩, .updateReturn,
    .registerWrite ⟨"storage", 11⟩ (generationConfig 2)]

/-- The same registration, with the update's write first. -/
def lateSchedule : List RaceStep :=
  [.updateLocked (generationConfig 1), .updateReturn, .registerLocked ⟨"network", 10⟩,
    .updateLocked (generationConfig 2), .updateWrite, .updateReturn,
    .registerWrite ⟨"network", 10⟩ (generationConfig 1)]

theorem converged_timely :
    ((raceMachine twoObserverKernel).exec (raceMachine twoObserverKernel).init
        timelySchedule).isSome ∧
      (raceMachine twoObserverKernel).Always Converged
        (raceMachine twoObserverKernel).init timelySchedule :=
  ⟨by decide, converged_of_timely twoObserverKernel timelySchedule (by decide)⟩

/-- The late write puts the first generation back, and the second is lost. -/
theorem not_converged_late :
    ¬ (raceMachine twoObserverKernel).Always Converged
      (raceMachine twoObserverKernel).init lateSchedule := by
  decide

end Tapio.Agent
