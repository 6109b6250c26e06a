/-
# The evidence profile

What an operator writes, what it is validated against, and what is wrong with it if
it is refused. A base profile is named; the overrides replace single fields of it.
`ResolvedProfile.InRange` is what every base profile and every validated one
satisfies, and both carry it.
-/
import Std.Data.ExtTreeMap
import Tapio.Numeric.Float
import Tapio.Wire.Messages

namespace Tapio.Profile

open Numeric

def apiVersion : String := "tapio.false.systems/v0"
def kind : String := "EvidenceProfile"
def productionDefaultName : String := "production-default"

def ratioRange : String := "1..=100"
def absMsRange : String := "1..=600000"
def warningMsRange : String := "1..=60000"
def criticalMsRange : String := "1..=600000"
def exitCodeRange : String := "0..=255"
def stallPctRange : String := "0.0..=100.0"
def ipcDegradationRange : String := "0.0..=16.0"

def maxRttAbsMs : ℕ := 600000
def maxWarningMs : ℕ := 60000
def maxCriticalMs : ℕ := 600000
def maxIgnoreExitCodes : ℕ := 16

/-! ## What the operator writes -/

structure RttSpikeOverride where
  ratio : Option UInt32
  absMs : Option UInt32

structure NetworkOverride where
  enabled : Option Bool
  rttSpike : RttSpikeOverride

structure SlowIoOverride where
  warningMs : Option UInt64
  criticalMs : Option UInt64

structure StorageOverride where
  enabled : Option Bool
  slowIo : SlowIoOverride

structure ContainerOverride where
  enabled : Option Bool
  ignoreExitCodes : Option (List Int32)

structure StallPctOverride where
  warning : Option F64
  critical : Option F64

structure NodePmcOverride where
  enabled : Option Bool
  stallPct : StallPctOverride
  ipcDegradation : Option F64

structure ProfileOverrides where
  network : NetworkOverride
  storage : StorageOverride
  container : ContainerOverride
  nodePmc : NodePmcOverride

structure EvidenceProfile where
  apiVersion : Option String
  kind : Option String
  base : Option String
  overrides : ProfileOverrides

def ProfileOverrides.default : ProfileOverrides where
  network := ⟨none, none, none⟩
  storage := ⟨none, none, none⟩
  container := ⟨none, none⟩
  nodePmc := ⟨none, ⟨none, none⟩, none⟩

/-! ## What it resolves to -/

structure ResolvedNetwork where
  enabled : Bool
  rttSpikeRatio : UInt32
  rttSpikeAbsMs : UInt32
  rttMinBaselineSamples : UInt32
  connRefusedWindowNs : UInt64
  connRefusedMinCount : UInt32
  deriving DecidableEq

structure ResolvedStorage where
  enabled : Bool
  slowIoWarningMs : UInt64
  slowIoCriticalMs : UInt64
  deriving DecidableEq

structure ResolvedContainer where
  enabled : Bool
  ignoreExitCodes : List UInt8
  deriving DecidableEq

structure ResolvedNodePmc where
  enabled : Bool
  stallPctWarning : F64
  stallPctCritical : F64
  ipcDegradation : F64
  deriving DecidableEq

structure ResolvedProfile where
  network : ResolvedNetwork
  storage : ResolvedStorage
  container : ResolvedContainer
  nodePmc : ResolvedNodePmc
  deriving DecidableEq

structure ResolvedNetwork.InRange (network : ResolvedNetwork) : Prop where
  ratio : 1 ≤ network.rttSpikeRatio.toNat ∧ network.rttSpikeRatio.toNat ≤ 100
  absMs : 1 ≤ network.rttSpikeAbsMs.toNat ∧ network.rttSpikeAbsMs.toNat ≤ maxRttAbsMs

structure ResolvedStorage.InRange (storage : ResolvedStorage) : Prop where
  warningMs : 1 ≤ storage.slowIoWarningMs.toNat ∧ storage.slowIoWarningMs.toNat ≤ maxWarningMs
  criticalMs :
    1 ≤ storage.slowIoCriticalMs.toNat ∧ storage.slowIoCriticalMs.toNat ≤ maxCriticalMs
  order : storage.slowIoWarningMs ≤ storage.slowIoCriticalMs

structure ResolvedContainer.InRange (container : ResolvedContainer) : Prop where
  count : container.ignoreExitCodes.length ≤ maxIgnoreExitCodes
  distinct : container.ignoreExitCodes.Nodup

/-- A finite number between zero and a bound. -/
def Bounded (x : F64) (bound : ℚ) : Prop := ∃ value, x = .finite value ∧ 0 ≤ value ∧ value ≤ bound

structure ResolvedNodePmc.InRange (nodePmc : ResolvedNodePmc) : Prop where
  warning : Bounded nodePmc.stallPctWarning 100
  critical : Bounded nodePmc.stallPctCritical 100
  ipc : Bounded nodePmc.ipcDegradation 16
  order : nodePmc.stallPctCritical.lt nodePmc.stallPctWarning = false

/-- All fields are in their documented ranges and all thresholds in order. -/
structure ResolvedProfile.InRange (profile : ResolvedProfile) : Prop where
  network : profile.network.InRange
  storage : profile.storage.InRange
  container : profile.container.InRange
  nodePmc : profile.nodePmc.InRange

/-- A fully resolved, range-checked profile. -/
structure ValidatedProfile where
  resolved : ResolvedProfile
  inRange : resolved.InRange

def productionDefault : ResolvedProfile where
  network := {
    enabled := true
    rttSpikeRatio := 2
    rttSpikeAbsMs := 500
    rttMinBaselineSamples := 5
    connRefusedWindowNs := 0
    connRefusedMinCount := 0 }
  storage := { enabled := true, slowIoWarningMs := 50, slowIoCriticalMs := 200 }
  container := { enabled := true, ignoreExitCodes := [] }
  nodePmc := {
    enabled := true
    stallPctWarning := .finite 20
    stallPctCritical := .finite 40
    ipcDegradation := .finite 1 }

/-- The production default passes the checks on what overrides it. -/
theorem productionDefault_inRange : productionDefault.InRange where
  network := ⟨by decide, by decide⟩
  storage := ⟨by decide, by decide, by decide⟩
  container := ⟨Nat.zero_le _, List.nodup_nil⟩
  nodePmc :=
    ⟨⟨20, rfl, by norm_num⟩, ⟨40, rfl, by norm_num⟩, ⟨1, rfl, by norm_num⟩,
      by norm_num [productionDefault, F64.lt]⟩

/-- A closed set of named base profiles. -/
structure BuiltinSet where
  profiles : BTreeMap String ResolvedProfile
  inRange : ∀ (name : String) (base : ResolvedProfile),
    profiles[name]? = some base → base.InRange

def BuiltinSet.v0 : BuiltinSet where
  profiles := (∅ : BTreeMap String ResolvedProfile).insert productionDefaultName productionDefault
  inRange := by
    intro name base hbase
    rw [Std.ExtTreeMap.getElem?_insert] at hbase
    split at hbase
    · exact Option.some.inj hbase ▸ productionDefault_inRange
    · simp at hbase

/-! ## What is wrong with it -/

/-- The path of a field in the document. -/
abbrev FieldPath := String

/-- A value as an error quotes it, rendered in decimal. -/
inductive Quoted
  | integer (value : ℤ)
  | float (value : F64)
  deriving DecidableEq

inductive ProfileError
  | unsupportedApiVersion (path : FieldPath) (value : Option String) (expected : String)
  | unsupportedKind (path : FieldPath) (value : Option String) (expected : String)
  | missingBase (path : FieldPath)
  | invalidProfileName (path : FieldPath) (value : String)
  | unknownBase (path : FieldPath) (value : String) (available : List String)
  | outOfRange (path : FieldPath) (value : Quoted) (range : String)
  | notFinite (path : FieldPath)
  | thresholdOrder (path : FieldPath) (warning critical : Quoted)
  | tooManyIgnoreExitCodes (path : FieldPath) (count : ℕ)
  deriving DecidableEq

end Tapio.Profile
