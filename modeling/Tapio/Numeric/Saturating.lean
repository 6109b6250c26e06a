/-
# Saturating arithmetic on 64-bit words

Addition and multiplication that stop at the largest word and subtraction that
stops at zero, with their values as natural numbers.
-/
import Mathlib.Algebra.Order.Ring.Nat

namespace Numeric

/-- The largest 64-bit word. -/
def u64Max : ℕ := 2 ^ 64 - 1

def saturatingAdd (a b : UInt64) : UInt64 :=
  if a.toNat + b.toNat ≤ u64Max then a + b else UInt64.ofNat u64Max

def saturatingSub (a b : UInt64) : UInt64 :=
  if b ≤ a then a - b else 0

def saturatingMul (a b : UInt64) : UInt64 :=
  if a.toNat * b.toNat ≤ u64Max then a * b else UInt64.ofNat u64Max

theorem toNat_le_u64Max (a : UInt64) : a.toNat ≤ u64Max :=
  Nat.le_sub_one_of_lt a.toNat_lt

@[simp]
theorem saturatingAdd_toNat (a b : UInt64) :
    (saturatingAdd a b).toNat = min (a.toNat + b.toNat) u64Max := by
  rw [saturatingAdd]
  split
  · next hfits =>
      rw [UInt64.toNat_add, Nat.mod_eq_of_lt (by unfold u64Max at hfits; omega)]
      omega
  · next hover =>
      rw [show (UInt64.ofNat u64Max).toNat = u64Max from rfl]
      omega

@[simp]
theorem saturatingSub_toNat (a b : UInt64) :
    (saturatingSub a b).toNat = a.toNat - b.toNat := by
  rw [saturatingSub]
  split
  · next hle => exact UInt64.toNat_sub_of_le _ _ hle
  · next hlt =>
      have hlt' : ¬ b.toNat ≤ a.toNat := hlt
      rw [UInt64.toNat_zero]
      omega

@[simp]
theorem saturatingMul_toNat (a b : UInt64) :
    (saturatingMul a b).toNat = min (a.toNat * b.toNat) u64Max := by
  rw [saturatingMul]
  split
  · next hfits =>
      rw [UInt64.toNat_mul, Nat.mod_eq_of_lt (by unfold u64Max at hfits; omega)]
      omega
  · next hover =>
      rw [show (UInt64.ofNat u64Max).toNat = u64Max from rfl]
      omega

end Numeric
