/-
# Compiling a validated profile

Milliseconds become nanoseconds or microseconds, and percentages and ratios become
integers of a finer unit. No product leaves its word, because a validated profile is in
range. The products of percentages and ratios are those of floating point; they can be taken
exactly instead.
-/
import Tapio.Numeric.Binary64
import Tapio.Profile.Validate
import Tapio.Wire.Config

namespace Tapio.Profile

open Numeric Wire

/-- A number in units of a fraction, rounded to an integer, with any product. -/
def scaledWith (mul : F64 → F64 → F64) (x : F64) (factor : ℚ) : UInt32 :=
  ((mul x (.finite factor)).round).toU32

def compileWith (mul : F64 → F64 → F64) (profile : ValidatedProfile) : CompiledConfig where
  network := {
    enabled := profile.resolved.network.enabled
    rttSpikeRatio := profile.resolved.network.rttSpikeRatio
    rttSpikeAbsUs := profile.resolved.network.rttSpikeAbsMs * 1000
    rttMinBaselineSamples := profile.resolved.network.rttMinBaselineSamples
    connRefusedWindowNs := profile.resolved.network.connRefusedWindowNs
    connRefusedMinCount := profile.resolved.network.connRefusedMinCount }
  storage := {
    enabled := profile.resolved.storage.enabled
    slowIoWarningNs := profile.resolved.storage.slowIoWarningMs * 1000000
    slowIoCriticalNs := profile.resolved.storage.slowIoCriticalMs * 1000000 }
  container := {
    enabled := profile.resolved.container.enabled
    ignoreExitCodes :=
      profile.resolved.container.ignoreExitCodes.map (·.toUInt32.toInt32) }
  nodePmc := {
    enabled := profile.resolved.nodePmc.enabled
    stallWarningPermille := scaledWith mul profile.resolved.nodePmc.stallPctWarning 10
    stallCriticalPermille := scaledWith mul profile.resolved.nodePmc.stallPctCritical 10
    ipcDegradationMilli := scaledWith mul profile.resolved.nodePmc.ipcDegradation 1000 }

def compile (profile : ValidatedProfile) : CompiledConfig := compileWith F64.mulNearest profile

/-! ## No overflow -/

theorem compile_rttSpikeAbsUs (profile : ValidatedProfile) :
    (compile profile).network.rttSpikeAbsUs.toNat =
      profile.resolved.network.rttSpikeAbsMs.toNat * 1000 := by
  have hrange := profile.inRange.network.absMs
  rw [maxRttAbsMs] at hrange
  rw [compile, compileWith, UInt32.toNat_mul, Nat.mod_eq_of_lt]
  · rfl
  · rw [show (1000 : UInt32).toNat = 1000 from rfl]
    omega

theorem compile_slowIoWarningNs (profile : ValidatedProfile) :
    (compile profile).storage.slowIoWarningNs.toNat =
      profile.resolved.storage.slowIoWarningMs.toNat * 1000000 := by
  have hrange := profile.inRange.storage.warningMs
  rw [maxWarningMs] at hrange
  rw [compile, compileWith, UInt64.toNat_mul, Nat.mod_eq_of_lt]
  · rfl
  · rw [show (1000000 : UInt64).toNat = 1000000 from rfl]
    omega

theorem compile_slowIoCriticalNs (profile : ValidatedProfile) :
    (compile profile).storage.slowIoCriticalNs.toNat =
      profile.resolved.storage.slowIoCriticalMs.toNat * 1000000 := by
  have hrange := profile.inRange.storage.criticalMs
  rw [maxCriticalMs] at hrange
  rw [compile, compileWith, UInt64.toNat_mul, Nat.mod_eq_of_lt]
  · rfl
  · rw [show (1000000 : UInt64).toNat = 1000000 from rfl]
    omega

/-! ## Thresholds that are judged in userspace -/

/-- A product that is small enough is rounded to the value of the word. -/
theorem scaledWith_of_product {mul : F64 → F64 → F64} {x : F64} {factor product : ℚ}
    (h : mul x (.finite factor) = .finite product) (hnonneg : 0 ≤ product)
    (hle : product ≤ 2 ^ 31) :
    ((scaledWith mul x factor).toNat : ℤ) = F64.roundRat product := by
  have hmono := F64.roundRat_mono hnonneg hle
  have hfits : F64.roundRat (2 ^ 31) < 2 ^ 32 := by decide +kernel
  rw [scaledWith, h]
  exact F64.toU32_round hnonneg (hmono.trans_lt hfits)

section Bounded

variable {x : F64} {bound factor : ℚ} (hx : Bounded x bound) (hfactor : 0 ≤ factor)
  (hfits : bound * factor ≤ 2 ^ 30)
include hx hfactor hfits

/-- With exact products a bounded number is compiled to its multiple, rounded once. -/
theorem scaledWith_mul_of_bounded :
    ∃ value, x = .finite value ∧ 0 ≤ value ∧
      ((scaledWith F64.mul x factor).toNat : ℤ) = F64.roundRat (value * factor) := by
  obtain ⟨value, rfl, hnonneg, hle⟩ := hx
  have hproduct := mul_le_mul_of_nonneg_right hle hfactor
  exact ⟨value, rfl, hnonneg,
    scaledWith_of_product rfl (mul_nonneg hnonneg hfactor) (by linarith)⟩

/-- In floating point the product of a bounded number is finite, and it is the product that
is rounded to an integer. -/
theorem scaledWith_mulNearest_of_bounded :
    ∃ product, x.mulNearest (.finite factor) = .finite product ∧
      ((scaledWith F64.mulNearest x factor).toNat : ℤ) = F64.roundRat product := by
  obtain ⟨value, rfl, hnonneg, hle⟩ := hx
  have hexact := mul_nonneg hnonneg hfactor
  have hupper := mul_le_mul_of_nonneg_right hle hfactor
  have hmagnitude : |value * factor| < 2 ^ (31 : ℤ) := by
    rw [abs_of_nonneg hexact]
    norm_num
    linarith
  have hproduct : F64.mulNearest (.finite value) (.finite factor) =
      .finite (F64.rounded (value * factor)) :=
    F64.nearest_of_lt (hmagnitude.trans (by norm_num))
  have herror := (abs_le.mp (F64.abs_rounded_sub_le (by norm_num) hmagnitude)).2
  have hsmall : (2 : ℚ) ^ (31 - 54 : ℤ) ≤ 1 := by norm_num
  exact ⟨_, hproduct,
    scaledWith_of_product hproduct (F64.rounded_nonneg hexact) (by linarith)⟩

end Bounded

end Tapio.Profile
