/-
# Signed 64-bit words

Words are taken as the integers they stand for. Addition, subtraction and
multiplication agree with the integers' whatever the bounds; division, which truncates,
and comparison do as long as the integers fit.
-/
import Mathlib.Data.Int.Notation
import Mathlib.Data.Nat.Notation

namespace Numeric

/-- The integer is the value of a word. -/
def Fits (a : ℤ) : Prop := -9223372036854775808 ≤ a ∧ a ≤ 9223372036854775807

/-- A literal is the integer it reads as. -/
theorem literal_eq_ofInt (n : ℕ) :
    (no_index (OfNat.ofNat n) : Int64) = Int64.ofInt (no_index (OfNat.ofNat n)) :=
  Int64.ofInt_eq_ofNat.symm

/-- A quotient of numbers that are not negative is rounded down. -/
theorem ofInt_div {a b : ℤ} (ha : Fits a) (hb : Fits b) (hnonneg : 0 ≤ a) :
    Int64.ofInt a / Int64.ofInt b = Int64.ofInt (a / b) := by
  rw [← Int64.ofInt_tdiv ha.1 ha.2 hb.1 hb.2, Int.tdiv_eq_ediv_of_nonneg hnonneg]

theorem ofInt_le_iff {a b : ℤ} (ha : Fits a) (hb : Fits b) :
    Int64.ofInt a ≤ Int64.ofInt b ↔ a ≤ b :=
  Int64.ofInt_le_iff_le ha.1 ha.2 hb.1 hb.2

theorem ofInt_lt_iff {a b : ℤ} (ha : Fits a) (hb : Fits b) :
    Int64.ofInt a < Int64.ofInt b ↔ a < b :=
  Int64.ofInt_lt_iff_lt ha.1 ha.2 hb.1 hb.2

/-- Truncation rounds up what is negative, so it rounds down after a correction. -/
theorem tdiv_sub_of_neg {a b : ℤ} (ha : a < 0) (hb : 0 < b) : (a - (b - 1)).tdiv b = a / b := by
  have hne : b ≠ 0 := by omega
  have hmod := Int.emod_nonneg a hne
  have hmod' := Int.emod_lt_of_pos a hb
  have hsplit : b - 1 - a = b - 1 - a % b + b * -(a / b) := by
    rw [Int.mul_neg]
    have hdivision := Int.emod_add_mul_ediv a b
    omega
  have hquotient : (b - 1 - a) / b = -(a / b) := by
    rw [hsplit, Int.add_mul_ediv_left _ _ hne, Int.ediv_eq_zero_of_lt (by omega) (by omega),
      Int.zero_add]
  calc (a - (b - 1)).tdiv b
      = -(b - 1 - a).tdiv b := by rw [← Int.neg_tdiv, Int.neg_sub]
    _ = -((b - 1 - a) / b) := by rw [Int.tdiv_eq_ediv_of_nonneg (by omega)]
    _ = a / b := by rw [hquotient, Int.neg_neg]

/-- The division that rounds down, as it is written with one that truncates. -/
theorem ofInt_floorDiv {a b c : ℤ} (ha : Fits a) (hb : Fits b) (hpos : 0 < b)
    (hc : c = b - 1) (hfits : a < 0 → Fits (a - c)) :
    (if Int64.ofInt a ≥ Int64.ofInt 0 then Int64.ofInt a
      else Int64.ofInt a - Int64.ofInt c) / Int64.ofInt b = Int64.ofInt (a / b) := by
  subst hc
  have hzero : Fits 0 := ⟨by decide, by decide⟩
  by_cases hnonneg : 0 ≤ a
  · rw [if_pos ((ofInt_le_iff hzero ha).mpr hnonneg), ofInt_div ha hb hnonneg]
  · have hneg := Int.not_le.mp hnonneg
    have hfits' := hfits hneg
    rw [if_neg (mt (ofInt_le_iff hzero ha).mp hnonneg), ← Int64.ofInt_sub,
      ← Int64.ofInt_tdiv hfits'.1 hfits'.2 hb.1 hb.2, tdiv_sub_of_neg hneg hpos]

end Numeric
