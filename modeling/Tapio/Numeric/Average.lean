/-
# Running averages

The average of some samples, updated with one more of them: the old average counts with a
weight, the new sample counts once, and the sum is divided by all that was counted. In
unbounded numbers the new average lies between the old one and the sample. On 32-bit words
the sum may wrap, and what is stored is the average exactly if it does not.
-/
import Mathlib.Algebra.Order.Ring.Nat

namespace Numeric

/-- The average of `weight` samples, with one more sample. -/
def weightedAverage (weight average sample : ℕ) : ℕ := (average * weight + sample) / (weight + 1)

/-- The update on words; `total` is the weight with the new sample. -/
def wordAverage (weight total average sample : UInt32) : UInt32 :=
  (average * weight + sample) / total

/-- The sum that is divided fits into a word. -/
def SumFits (weight average sample : ℕ) : Prop := average * weight + sample < 2 ^ 32

instance (weight average sample : ℕ) : Decidable (SumFits weight average sample) :=
  inferInstanceAs (Decidable (_ < _))

/-- What bounds the average and the sample from below bounds the new average. -/
theorem le_weightedAverage {bound weight average sample : ℕ} (haverage : bound ≤ average)
    (hsample : bound ≤ sample) : bound ≤ weightedAverage weight average sample := by
  rw [weightedAverage, Nat.le_div_iff_mul_le weight.succ_pos, Nat.mul_add_one]
  exact Nat.add_le_add (Nat.mul_le_mul_right weight haverage) hsample

/-- What bounds the average and the sample from above bounds the new average. -/
theorem weightedAverage_le {bound weight average sample : ℕ} (haverage : average ≤ bound)
    (hsample : sample ≤ bound) : weightedAverage weight average sample ≤ bound := by
  apply Nat.div_le_of_le_mul
  rw [Nat.mul_comm (weight + 1), Nat.mul_add_one]
  exact Nat.add_le_add (Nat.mul_le_mul_right weight haverage) hsample

theorem toNat_wordAverage (weight total average sample : UInt32) :
    (wordAverage weight total average sample).toNat =
      (average.toNat * weight.toNat + sample.toNat) % 2 ^ 32 / total.toNat := by
  rw [wordAverage, UInt32.toNat_div, UInt32.toNat_add, UInt32.toNat_mul, Nat.mod_add_mod]

/-- A wrapped sum has a smaller quotient than the sum itself. -/
theorem mod_div_eq_div_iff {sum modulus divisor : ℕ} (hdivisor : 0 < divisor)
    (hle : divisor ≤ modulus) : sum % modulus / divisor = sum / divisor ↔ sum < modulus := by
  apply Iff.intro
  · intro h
    by_contra hlarge
    have hwrapped : sum % modulus + divisor ≤ sum := by
      have hmod : sum % modulus ≤ sum - modulus := by
        rw [Nat.mod_eq_sub_mod (Nat.le_of_not_lt hlarge)]
        exact Nat.mod_le _ _
      omega
    have hquotient := Nat.div_le_div_right (c := divisor) hwrapped
    rw [Nat.add_div_right _ hdivisor, h] at hquotient
    exact Nat.not_succ_le_self _ hquotient
  · intro hsmall
    rw [Nat.mod_eq_of_lt hsmall]

/-- **The word is the average** exactly if the sum fits. -/
theorem toNat_wordAverage_eq_iff {weight total : UInt32} (htotal : total.toNat = weight.toNat + 1)
    (average sample : UInt32) :
    (wordAverage weight total average sample).toNat =
        weightedAverage weight.toNat average.toNat sample.toNat ↔
      SumFits weight.toNat average.toNat sample.toNat := by
  rw [toNat_wordAverage, weightedAverage, ← htotal]
  apply mod_div_eq_div_iff
  · rw [htotal]
    exact Nat.succ_pos _
  · exact total.toNat_lt.le

end Numeric
