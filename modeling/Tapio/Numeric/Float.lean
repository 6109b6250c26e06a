/-
# Floating-point numbers read as exact numbers

A floating-point number is a rational, infinite or not a number, and the arithmetic here is
exact: nothing rounds its results. Comparisons with a value that is not a number are false.
Conversion to a word truncates and saturates.
-/
import Mathlib.Data.Rat.Floor

namespace Numeric

inductive F64
  | nan
  | infinite (negative : Bool)
  | finite (value : ℚ)
  deriving DecidableEq

namespace F64

def isFinite : F64 → Bool
  | .finite _ => true
  | .nan | .infinite _ => false

def lt : F64 → F64 → Bool
  | .finite x, .finite y => x < y
  | .infinite true, .finite _ | .finite _, .infinite false => true
  | .infinite true, .infinite false => true
  | _, _ => false

def le (x y : F64) : Bool := lt x y || (x ≠ .nan && x = y)

theorem finite_lt_finite (x y : ℚ) : lt (.finite x) (.finite y) = decide (x < y) := rfl

theorem finite_le_finite (x y : ℚ) : le (.finite x) (.finite y) = decide (x ≤ y) := by
  simp [le, lt, le_iff_lt_or_eq]

/-- The product; zero times infinity is not a number. -/
def mul : F64 → F64 → F64
  | .finite x, .finite y => .finite (x * y)
  | .finite x, .infinite negative | .infinite negative, .finite x =>
      if x = 0 then .nan else .infinite (negative != decide (x < 0))
  | .infinite x, .infinite y => .infinite (x != y)
  | _, _ => .nan

/-- To the nearest integer, away from zero where there are two. -/
def roundRat (x : ℚ) : ℤ := if 0 ≤ x then ⌊x + 1 / 2⌋ else -⌊-x + 1 / 2⌋

def round : F64 → F64
  | .finite x => .finite (roundRat x)
  | x => x

/-- `as u32`. -/
def toU32 : F64 → UInt32
  | .nan | .infinite true => 0
  | .infinite false => UInt32.ofNat (2 ^ 32 - 1)
  | .finite x => UInt32.ofNat (min ⌊x⌋.toNat (2 ^ 32 - 1))

/-- Rounding a number of at least zero. -/
theorem roundRat_of_nonneg {x : ℚ} (hx : 0 ≤ x) : roundRat x = ⌊x + 1 / 2⌋ :=
  if_pos hx

theorem roundRat_nonneg {x : ℚ} (hx : 0 ≤ x) : 0 ≤ roundRat x := by
  rw [roundRat_of_nonneg hx]
  exact Int.floor_nonneg.mpr (by linarith)

theorem roundRat_mono {x y : ℚ} (hx : 0 ≤ x) (hxy : x ≤ y) : roundRat x ≤ roundRat y := by
  rw [roundRat_of_nonneg hx, roundRat_of_nonneg (hx.trans hxy)]
  exact Int.floor_mono (by linarith)

/-- A rounded number that fits a word is the word's value. -/
theorem toU32_round {x : ℚ} (hx : 0 ≤ x) (hfits : roundRat x < 2 ^ 32) :
    ((round (.finite x)).toU32.toNat : ℤ) = roundRat x := by
  have hnonneg := roundRat_nonneg hx
  have hword : min (roundRat x).toNat (2 ^ 32 - 1) < UInt32.size := by
    change _ < 2 ^ 32
    omega
  rw [round, toU32, Int.floor_intCast, UInt32.toNat_ofNat_of_lt' hword]
  omega

end F64

end Numeric
