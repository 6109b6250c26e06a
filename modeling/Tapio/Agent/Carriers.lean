/-
# Config carriers and the maps they write

The process holds its observers' `tapio_config` maps by raw descriptor number.
`Kernel` is the kernel's side: what each number denotes at the moment, and what
every config map holds. `ConfigCarrierState` is the agent's side: the registered
carriers and the config to give to late ones. A write goes through the number,
whatever the number denotes by then.
-/
import Mathlib.Logic.Function.Basic
import Tapio.Common.Ebpf

namespace Tapio.Agent

abbrev RawFd := Int32

/-- What an open descriptor number denotes. -/
inductive Descriptor
  /-- The `tapio_config` map of the object this observer has loaded. -/
  | configMap (observer : String)
  | other
  deriving DecidableEq

/-- The descriptor table of the process, and the config maps behind it. -/
structure Kernel where
  fds : RawFd → Option Descriptor
  configMaps : String → TapioConfig

namespace Kernel

/-- Nothing is open; a config map is loaded with zeros. -/
def boot : Kernel where
  fds := fun _ => none
  configMaps := fun _ => TapioConfig.default

def open_ (k : Kernel) (fd : RawFd) (d : Descriptor) : Kernel :=
  { k with fds := Function.update k.fds fd (some d) }

def close (k : Kernel) (fd : RawFd) : Kernel :=
  { k with fds := Function.update k.fds fd none }

/-- Load an observer's object: its fresh config map is zero. -/
def load (k : Kernel) (observer : String) (fd : RawFd) : Kernel :=
  { k.open_ fd (.configMap observer) with
    configMaps := Function.update k.configMaps observer TapioConfig.default }

/-- The config that the map behind a descriptor holds. -/
def tapioConfigAt (k : Kernel) (fd : RawFd) : Option TapioConfig :=
  match k.fds fd with
  | some (.configMap observer) => some (k.configMaps observer)
  | _ => none

/-- Write a config through a descriptor. The write may fail on any descriptor
and does fail on a closed one; the result says whether it succeeded. -/
def bpfMapUpdateTapioConfig (k : Kernel) (fd : RawFd) (config : TapioConfig)
    (ok : Bool) : Kernel × Bool :=
  match k.fds fd with
  | none => (k, false)
  | some d =>
      if ok then
        match d with
        | .configMap observer =>
            ({ k with configMaps := Function.update k.configMaps observer config }, true)
        | .other => (k, true)
      else (k, false)

@[simp]
theorem bpfMapUpdateTapioConfig_fds (k : Kernel) (fd : RawFd) (config : TapioConfig)
    (ok : Bool) : (k.bpfMapUpdateTapioConfig fd config ok).1.fds = k.fds := by
  rw [bpfMapUpdateTapioConfig]
  split
  · rfl
  · split
    · split <;> rfl
    · rfl

/-- A write reaches the map that the descriptor denotes, if it succeeds, and no
other. -/
theorem bpfMapUpdateTapioConfig_configMaps (k : Kernel) (fd : RawFd)
    (config : TapioConfig) (ok : Bool) (observer : String) :
    (k.bpfMapUpdateTapioConfig fd config ok).1.configMaps observer =
      if k.fds fd = some (.configMap observer) ∧ ok then config
      else k.configMaps observer := by
  rw [bpfMapUpdateTapioConfig]
  match hfd : k.fds fd with
  | none => simp
  | some .other => cases ok <;> simp
  | some (.configMap o) =>
      cases ok with
      | false => simp
      | true =>
          by_cases ho : observer = o
          · simp [ho]
          · simp [ho, Ne.symm ho]

theorem bpfMapUpdateTapioConfig_ok {k : Kernel} {fd : RawFd} {observer : String}
    (hfd : k.fds fd = some (.configMap observer)) (config : TapioConfig) (ok : Bool) :
    (k.bpfMapUpdateTapioConfig fd config ok).2 = ok := by
  cases ok <;> simp [bpfMapUpdateTapioConfig, hfd]

theorem tapioConfigAt_of_fds {k : Kernel} {fd : RawFd} {observer : String}
    (hfd : k.fds fd = some (.configMap observer)) :
    k.tapioConfigAt fd = some (k.configMaps observer) := by
  simp [tapioConfigAt, hfd]

end Kernel

/-! ## Carriers -/

structure ConfigCarrier where
  observer : String
  mapFd : RawFd
  deriving DecidableEq

/-- The state behind the carriers' lock. -/
structure ConfigCarrierState where
  carriers : List ConfigCarrier
  current : Option TapioConfig

def ConfigCarrierState.default : ConfigCarrierState := ⟨[], none⟩

/-- The locked part of `register`: append the carrier. What the late write will
use is the `current` of this moment. -/
def ConfigCarrierState.push (state : ConfigCarrierState) (carrier : ConfigCarrier) :
    ConfigCarrierState :=
  { state with carriers := state.carriers ++ [carrier] }

/-- `ConfigCarriers::register`: append the carrier, then write the current
config to it, if there is one. A failing late write is only logged. -/
def register (k : Kernel) (state : ConfigCarrierState) (carrier : ConfigCarrier)
    (lateOk : Bool) : Kernel × ConfigCarrierState :=
  match state.current with
  | none => (k, state.push carrier)
  | some config =>
      ((k.bpfMapUpdateTapioConfig carrier.mapFd config lateOk).1, state.push carrier)

/-- The writes of `update_all`, in order, with the observers whose write
failed. -/
def fanOut (config : TapioConfig) (ok : ConfigCarrier → Bool) :
    Kernel → List ConfigCarrier → Kernel × List String
  | k, [] => (k, [])
  | k, carrier :: rest =>
      let (k, written) := k.bpfMapUpdateTapioConfig carrier.mapFd config (ok carrier)
      let (k, failed) := fanOut config ok k rest
      (k, if written then failed else carrier.observer :: failed)

/-- `ConfigCarriers::update_all`: set the current config, then write it to every
carrier. -/
def updateAll (k : Kernel) (state : ConfigCarrierState) (config : TapioConfig)
    (ok : ConfigCarrier → Bool) : Kernel × ConfigCarrierState × List String :=
  let (k, failed) := fanOut config ok k state.carriers
  (k, { state with current := some config }, failed)

/-- `init_and_register_tapio_config`: the initial write, and the registration if
it succeeds. -/
def initAndRegisterTapioConfig (k : Kernel) (state : ConfigCarrierState)
    (observer : String) (configMap : Option RawFd) (config : TapioConfig)
    (initOk lateOk : Bool) : (Kernel × ConfigCarrierState) × Bool :=
  match configMap with
  | none => ((k, state), false)
  | some mapFd =>
      let (k, written) := k.bpfMapUpdateTapioConfig mapFd config initOk
      if written then (register k state ⟨observer, mapFd⟩ lateOk, true)
      else ((k, state), false)

/-! ## What the operations do -/

@[simp]
theorem register_fds (k : Kernel) (state : ConfigCarrierState) (carrier : ConfigCarrier)
    (lateOk : Bool) : (register k state carrier lateOk).1.fds = k.fds := by
  rw [register]
  split <;> simp

@[simp]
theorem register_snd (k : Kernel) (state : ConfigCarrierState) (carrier : ConfigCarrier)
    (lateOk : Bool) : (register k state carrier lateOk).2 = state.push carrier := by
  rw [register]
  split <;> rfl

/-- A registration writes only to the map of its carrier. -/
theorem register_configMaps (k : Kernel) (state : ConfigCarrierState)
    (carrier : ConfigCarrier) (lateOk : Bool) (observer : String) :
    (register k state carrier lateOk).1.configMaps observer =
      if k.fds carrier.mapFd = some (.configMap observer) ∧ lateOk then
        state.current.getD (k.configMaps observer)
      else k.configMaps observer := by
  rw [register]
  cases state.current with
  | none => simp
  | some config => simp [Kernel.bpfMapUpdateTapioConfig_configMaps]

@[simp]
theorem fanOut_fds (config : TapioConfig) (ok : ConfigCarrier → Bool) (k : Kernel)
    (carriers : List ConfigCarrier) :
    (fanOut config ok k carriers).1.fds = k.fds := by
  induction carriers generalizing k with
  | nil => rfl
  | cons carrier rest ih => simp [fanOut, ih]

/-- A fan-out changes exactly the maps that some successful write reaches. -/
theorem fanOut_configMaps (config : TapioConfig) (ok : ConfigCarrier → Bool) (k : Kernel)
    (carriers : List ConfigCarrier) (observer : String) :
    (fanOut config ok k carriers).1.configMaps observer =
      if ∃ c ∈ carriers, k.fds c.mapFd = some (.configMap observer) ∧ ok c then config
      else k.configMaps observer := by
  induction carriers generalizing k with
  | nil => simp [fanOut]
  | cons carrier rest ih =>
      simp only [fanOut, ih, Kernel.bpfMapUpdateTapioConfig_fds,
        Kernel.bpfMapUpdateTapioConfig_configMaps, List.exists_mem_cons_iff]
      by_cases hrest : ∃ c ∈ rest, k.fds c.mapFd = some (.configMap observer) ∧ ok c
      · simp [hrest]
      · simp [hrest]

/-- A registration whose writes succeed leaves the current config in the map of its
carrier, or the initial one if there is none yet. -/
theorem initAndRegisterTapioConfig_ok (k : Kernel) (state : ConfigCarrierState)
    (observer : String) (mapFd : RawFd) (config : TapioConfig) :
    ∃ k' state', (initAndRegisterTapioConfig k state observer (some mapFd) config true true).1 =
        (k', state') ∧
      k'.fds = k.fds ∧ state'.current = state.current ∧
      state'.carriers =
        (if k.fds mapFd = none then state.carriers else state.carriers ++ [⟨observer, mapFd⟩]) ∧
      ∀ o, k'.configMaps o =
        if k.fds mapFd = some (.configMap o) then state.current.getD config
        else k.configMaps o := by
  cases hfd : k.fds mapFd with
  | none =>
      exact ⟨k, state, by simp [initAndRegisterTapioConfig, Kernel.bpfMapUpdateTapioConfig, hfd],
        rfl, rfl, by simp, by simp⟩
  | some d =>
      refine ⟨(register (k.bpfMapUpdateTapioConfig mapFd config true).1 state
        ⟨observer, mapFd⟩ true).1, state.push ⟨observer, mapFd⟩, ?_, ?_, rfl, ?_, ?_⟩
      · have hwritten : (k.bpfMapUpdateTapioConfig mapFd config true).2 = true := by
          rw [Kernel.bpfMapUpdateTapioConfig, hfd]
          cases d <;> rfl
        simp only [initAndRegisterTapioConfig, hwritten, if_true]
        exact Prod.ext rfl (register_snd _ _ _ _)
      · rw [register_fds, Kernel.bpfMapUpdateTapioConfig_fds]
      · simp [ConfigCarrierState.push]
      · intro o
        rw [register_configMaps, Kernel.bpfMapUpdateTapioConfig_configMaps,
          Kernel.bpfMapUpdateTapioConfig_fds, hfd]
        by_cases ho : d = .configMap o <;> simp [ho]

end Tapio.Agent
