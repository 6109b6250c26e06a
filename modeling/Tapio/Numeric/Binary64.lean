/-
# Rounding to binary64

The numbers that 64 bits stand for, and the one that is nearest to an exact result: of two
equally near ones the one with an even significand, and an infinite one from the middle
above the greatest finite one on. What rounding changes is at most half a unit in the last
place of a power of two above the result.
-/
import Mathlib.Data.Int.Log
import Mathlib.Tactic.Linarith
import Mathlib.Tactic.Positivity
import Tapio.Numeric.Float

namespace Numeric

namespace F64

/-- The number with these bits: a sign, eleven bits of exponent, 52 of significand. -/
def ofBits (bits : UInt64) : F64 :=
  let negative := decide (2 ^ 63 ≤ bits.toNat)
  let exponent : ℕ := bits.toNat / 2 ^ 52 % 2 ^ 11
  let fraction : ℕ := bits.toNat % 2 ^ 52
  if exponent = 2047 then
    if fraction = 0 then .infinite negative else .nan
  else
    let magnitude : ℚ :=
      if exponent = 0 then fraction * 2 ^ (-1074 : ℤ)
      else (2 ^ 52 + fraction) * 2 ^ ((exponent : ℤ) - 1075)
    .finite (if negative then -magnitude else magnitude)

/-- To the nearest integer, to the even one where there are two. -/
def roundEven (x : ℚ) : ℤ :=
  let low := ⌊x⌋
  if x - low < 1 / 2 then low
  else if 1 / 2 < x - low then low + 1
  else if low % 2 = 0 then low
  else low + 1

/-- A unit in the last place. -/
def unit (x : ℚ) : ℚ := 2 ^ (max (Int.log 2 |x| - 52) (-1074))

/-- An exact result with the significand rounded, of any magnitude. -/
def rounded (x : ℚ) : ℚ :=
  let magnitude : ℚ := roundEven (|x| / unit x) * unit x
  if x < 0 then -magnitude else magnitude

/-- What an exact result is rounded to. -/
def nearest (x : ℚ) : F64 :=
  if 2 ^ 1024 ≤ |rounded x| then .infinite (x < 0) else .finite (rounded x)

/-- The rounded product. -/
def mulNearest (x y : F64) : F64 :=
  match mul x y with
  | .finite product => nearest product
  | product => product

/-- `as i64`. -/
def toI64 : F64 → Int64
  | .nan => 0
  | .infinite true => Int64.ofInt (-2 ^ 63)
  | .infinite false => Int64.ofInt (2 ^ 63 - 1)
  | .finite x =>
      Int64.ofInt (max (-2 ^ 63) (min (2 ^ 63 - 1) (if 0 ≤ x then ⌊x⌋ else ⌈x⌉)))

/-! ## What rounding changes -/

theorem abs_roundEven_sub_le (x : ℚ) : |(roundEven x : ℚ) - x| ≤ 1 / 2 := by
  have hlow := Int.floor_le x
  have hhigh := Int.lt_floor_add_one x
  unfold roundEven
  dsimp only
  split_ifs with hbelow habove heven <;> rw [abs_le] <;> push_cast <;> constructor <;> linarith

theorem roundEven_nonneg {x : ℚ} (hx : 0 ≤ x) : 0 ≤ roundEven x := by
  have hlow := Int.floor_nonneg.mpr hx
  unfold roundEven
  dsimp only
  split_ifs <;> omega

theorem unit_pos (x : ℚ) : 0 < unit x := zpow_pos two_pos _

/-- The sign is kept apart from the magnitude. -/
theorem abs_rounded_sub (x : ℚ) :
    |rounded x - x| = |roundEven (|x| / unit x) * unit x - (|x|)| := by
  unfold rounded
  dsimp only
  split_ifs with hneg
  · rw [abs_of_neg hneg, ← abs_neg]
    congr 1
    ring
  · rw [abs_of_nonneg (not_lt.mp hneg)]

theorem rounded_nonneg {x : ℚ} (hx : 0 ≤ x) : 0 ≤ rounded x := by
  have hquotient := roundEven_nonneg (div_nonneg (abs_nonneg x) (unit_pos x).le)
  rw [rounded, if_neg (not_lt.mpr hx)]
  exact mul_nonneg (by exact_mod_cast hquotient) (unit_pos x).le

theorem abs_rounded_sub_le_unit (x : ℚ) : |rounded x - x| ≤ unit x / 2 := by
  have hpos := unit_pos x
  have hscaled : |x| = |x| / unit x * unit x := (div_mul_cancel₀ _ hpos.ne').symm
  calc |rounded x - x|
      = |(roundEven (|x| / unit x) - |x| / unit x) * unit x| := by
        rw [abs_rounded_sub, sub_mul, ← hscaled]
    _ = |roundEven (|x| / unit x) - |x| / unit x| * unit x := by rw [abs_mul, abs_of_pos hpos]
    _ ≤ 1 / 2 * unit x := mul_le_mul_of_nonneg_right (abs_roundEven_sub_le _) hpos.le
    _ = unit x / 2 := by ring

/-- Below a power of two the unit is at most that of the numbers just below it. -/
theorem unit_le {x : ℚ} {k : ℤ} (hk : 1 ≤ k) (hx : |x| < 2 ^ k) : unit x ≤ 2 ^ (k - 53) := by
  have hlog : Int.log 2 |x| < k := by
    rcases (abs_nonneg x).eq_or_lt with hzero | hpos
    · rw [← hzero, Int.log_zero_right]
      omega
    · exact (Int.lt_zpow_iff_log_lt one_lt_two hpos).mp (by exact_mod_cast hx)
  exact zpow_le_zpow_right₀ one_le_two (by omega)

theorem abs_rounded_sub_le {x : ℚ} {k : ℤ} (hk : 1 ≤ k) (hx : |x| < 2 ^ k) :
    |rounded x - x| ≤ 2 ^ (k - 54) := by
  calc |rounded x - x|
      ≤ unit x / 2 := abs_rounded_sub_le_unit x
    _ ≤ 2 ^ (k - 53) / 2 := by linarith [unit_le hk hx]
    _ = 2 ^ (k - 54) := by
        rw [div_eq_mul_inv, ← zpow_sub_one₀ two_ne_zero]
        congr 1
        omega

/-- **Far below the greatest finite number nothing overflows.** -/
theorem nearest_of_lt {x : ℚ} (hx : |x| < 2 ^ 200) : nearest x = .finite (rounded x) := by
  have hk : (1 : ℤ) ≤ 200 := by norm_num
  have herror := abs_rounded_sub_le hk (by exact_mod_cast hx)
  have hmagnitude : |rounded x| < 2 ^ 1024 := by
    calc |rounded x|
        = |(rounded x - x) + x| := by rw [sub_add_cancel]
      _ ≤ |rounded x - x| + |x| := abs_add_le _ _
      _ < 2 ^ (200 - 54 : ℤ) + 2 ^ 200 := by linarith
      _ < 2 ^ 201 := by norm_num
      _ ≤ 2 ^ 1024 := pow_le_pow_right₀ one_le_two (by norm_num)
  rw [nearest, if_neg (not_le.mpr hmagnitude)]

/-- Numbers of a word that lie a step apart are rounded to different ones. -/
theorem rounded_injOn {x y : ℚ} (hx : |x| < 2 ^ 32) (hy : |y| < 2 ^ 32)
    (hstep : x ≠ y → 1 / 1000 ≤ |x - y|) (h : rounded x = rounded y) : x = y := by
  have hk : (1 : ℤ) ≤ 32 := by norm_num
  have hfirst := abs_rounded_sub_le hk (by exact_mod_cast hx)
  have hsecond := abs_rounded_sub_le hk (by exact_mod_cast hy)
  by_contra hne
  have hclose : |x - y| ≤ 2 ^ (32 - 54 : ℤ) + 2 ^ (32 - 54 : ℤ) := by
    calc |x - y|
        = |(x - rounded x) + (rounded y - y)| := by rw [h]; ring_nf
      _ ≤ |x - rounded x| + |rounded y - y| := abs_add_le _ _
      _ ≤ 2 ^ (32 - 54 : ℤ) + 2 ^ (32 - 54 : ℤ) := by
        rw [abs_sub_comm x]
        linarith
  have hsmall : (2 : ℚ) ^ (32 - 54 : ℤ) + 2 ^ (32 - 54 : ℤ) < 1 / 1000 := by norm_num
  exact absurd (hstep hne) (not_le.mpr (hclose.trans_lt hsmall))

example : rounded (282 / 1000) * 100 < 282 / 10 := by decide +kernel

end F64

end Numeric
