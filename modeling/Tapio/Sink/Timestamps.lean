/-
# Timestamps on the way to the wire

An occurrence carries its time as text, and the sink reads the text back into
nanoseconds. The two are written independently, in different crates.
-/
import Tapio.Common.Occurrence
import Tapio.Sink.Events

namespace Tapio.Sink

open Text Numeric

/-! ## Days -/

/-- The days to a date are right, in words as in integers. -/
theorem daysFromCivil_ofInt {date : Calendar.Date} (hyear : Plausible date.year)
    (hmonth : 1 ≤ date.month ∧ date.month ≤ 12) :
    daysFromCivil (Int64.ofInt date.year) (Int64.ofInt date.month) (Int64.ofInt date.day) =
      Int64.ofInt (Calendar.daysOfCivil date) := by
  obtain ⟨hlow, hhigh⟩ := hyear
  unfold daysFromCivil
  extract_lets year era yoe month doy doe
  have hyear : year =
      Int64.ofInt (if date.month ≤ 2 then date.year - 1 else date.year) := by
    simp only [year, literal_eq_ofInt,
      ofInt_le_iff (a := date.month) (b := 2) ⟨by omega, by omega⟩ ⟨by decide, by decide⟩]
    split
    · rw [Int64.ofInt_sub]
    · rw [← Int64.ofInt_sub, Int.sub_zero]
  have hmonth : month =
      Int64.ofInt (if date.month > 2 then date.month - 3 else date.month + 9) := by
    simp only [month, literal_eq_ofInt, gt_iff_lt, Int64.neg_ofInt,
      ofInt_lt_iff (a := 2) (b := date.month) ⟨by decide, by decide⟩ ⟨by omega, by omega⟩]
    split
    · rw [← Int64.ofInt_add, Int.sub_eq_add_neg]
    · rw [Int64.ofInt_add]
  generalize hy : (if date.month ≤ 2 then date.year - 1 else date.year) = y at hyear
  generalize hm : (if date.month > 2 then date.month - 3 else date.month + 9) = m at hmonth
  have hyRange : -1000000000001 ≤ y ∧ y ≤ 1000000000000 := by
    split at hy <;> omega
  have hmRange : 0 ≤ m ∧ m < 12 := by
    split at hm <;> omega
  have hera : era = Int64.ofInt (y / 400) := by
    simp only [era, hyear, literal_eq_ofInt]
    exact ofInt_floorDiv ⟨by omega, by omega⟩ ⟨by decide, by decide⟩ (by decide) (by decide)
      fun _ => ⟨by omega, by omega⟩
  have hyoe : yoe = Int64.ofInt (y - y / 400 * 400) := by
    simp only [yoe, hyear, hera, literal_eq_ofInt, Int64.ofInt_sub, Int64.ofInt_mul]
  have hdoy : doy = Int64.ofInt (Calendar.monthStart m + date.day - 1) := by
    simp only [doy, hmonth, monthStart_ofInt hmRange.1 hmRange.2, literal_eq_ofInt 1,
      Int64.ofInt_add, Int64.ofInt_sub]
  have hdoe : doe = Int64.ofInt
      (Calendar.yearStart (y - y / 400 * 400) + (Calendar.monthStart m + date.day - 1)) := by
    simp only [doe, hyoe, hdoy, Int64.mul_comm _ 365]
    rw [yearStart_ofInt (by omega) (by omega), Int64.ofInt_add]
  rw [hera, hdoe, Calendar.daysOfCivil]
  simp only [hy, hm, literal_eq_ofInt, Int64.ofInt_sub, Int64.ofInt_add, Int64.ofInt_mul]

/-! ## The texts -/

theorem parseDate_dateText {year month day : Int64} (hyear : 0 ≤ year.toInt)
    (hmonth : 0 ≤ month.toInt) (hday : 0 ≤ day.toInt) :
    parseDate (String.ofList (dateText year month day)) = some (year, month, day) := by
  have hdash : ∀ width n, '-' ∉ zeroPad width n := not_mem_zeroPad (by decide)
  have hparse : ∀ {n : Int64} (width : ℕ), 0 ≤ n.toInt →
      parseI64 (String.ofList (zeroPad width n.toInt.toNat)) = some n := by
    intro n width hn
    rw [parseI64_digits (zeroPad_ne_nil _ _) (fun _ => isDigit_zeroPad), digitsValue_zeroPad,
      Int.toNat_of_nonneg hn, Int64.ofInt_toInt]
    rw [digitsValue_zeroPad]
    have hbound := n.toInt_lt
    omega
  rw [parseDate, split, String.toList_ofList, dateText, zeroPadInt_of_nonneg hyear,
    zeroPadInt_of_nonneg hmonth, zeroPadInt_of_nonneg hday, splitChars_append (hdash _ _),
    splitChars_append (hdash _ _), splitChars_of_not_mem (hdash _ _)]
  simp only [List.map_cons, List.map_nil, hparse _ hyear, hparse _ hmonth, hparse _ hday]
  rfl

theorem parseTime_clockText (hour minute second : UInt64) :
    parseTime (String.ofList (clockText hour minute second)) = some (hour, minute, second) := by
  have hcolon : ∀ width n, ':' ∉ zeroPad width n := not_mem_zeroPad (by decide)
  have hparse : ∀ (n : UInt64) (width : ℕ),
      parseU64 (String.ofList (zeroPad width n.toNat)) = some n := by
    intro n width
    rw [parseU64_digits (zeroPad_ne_nil _ _) (fun _ => isDigit_zeroPad), digitsValue_zeroPad,
      UInt64.ofNat_toNat]
    rw [digitsValue_zeroPad]
    exact n.toNat_lt
  rw [parseTime, split, String.toList_ofList, clockText, splitChars_append (hcolon _ _),
    splitChars_append (hcolon _ _), splitChars_of_not_mem (hcolon _ _)]
  simp [hparse]

/-! ## The fraction -/

/-- Reading more digits does not make a number smaller. -/
theorem le_foldl_digits (digits : List Char) (value : ℕ) :
    value ≤ digits.foldl (fun value c => 10 * value + (c.toNat - '0'.toNat)) value := by
  induction digits generalizing value with
  | nil => exact le_rfl
  | cons c rest ih =>
      rw [List.foldl_cons]
      exact le_trans (by omega) (ih _)

/-- Digits are read without saturation if their value fits a word. -/
theorem foldl_saturating_digits (digits : List Char) (value : ℕ)
    (hfits : digits.foldl (fun value c => 10 * value + (c.toNat - '0'.toNat)) value < 2 ^ 64) :
    digits.foldl (fun value digit => saturatingAdd (saturatingMul value 10)
        (UInt64.ofNat (digit.toNat - '0'.toNat))) (UInt64.ofNat value) =
      UInt64.ofNat (digits.foldl (fun value c => 10 * value + (c.toNat - '0'.toNat)) value) := by
  induction digits generalizing value with
  | nil => rfl
  | cons c rest ih =>
      rw [List.foldl_cons] at hfits ⊢
      rw [List.foldl_cons]
      have hnext := lt_of_le_of_lt (le_foldl_digits rest _) hfits
      have hsize : UInt64.size = 2 ^ 64 := rfl
      have hstep : saturatingAdd (saturatingMul (UInt64.ofNat value) 10)
          (UInt64.ofNat (c.toNat - '0'.toNat)) =
            UInt64.ofNat (10 * value + (c.toNat - '0'.toNat)) := by
        apply UInt64.toNat_inj.mp
        rw [saturatingAdd_toNat, saturatingMul_toNat, UInt64.toNat_ofNat_of_lt' hnext,
          UInt64.toNat_ofNat_of_lt' (by omega), UInt64.toNat_ofNat_of_lt' (by omega),
          show (10 : UInt64).toNat = 10 from rfl, u64Max]
        omega
      rw [hstep, ih _ hfits]

theorem fractionNanos_zeroPad {nanos : ℕ} (hnanos : nanos < 1000000000) :
    fractionNanos (String.ofList (zeroPad 9 nanos)) = UInt64.ofNat nanos := by
  have hlength : (zeroPad 9 nanos).length = 9 := length_zeroPad (by decide) (by omega)
  have hdigits : (zeroPad 9 nanos).takeWhile Char.isDigit = zeroPad 9 nanos :=
    List.takeWhile_eq_self_iff.mpr fun _ => isDigit_zeroPad
  have hvalue : (zeroPad 9 nanos).foldl (fun value c => 10 * value + (c.toNat - '0'.toNat)) 0 =
      nanos := digitsValue_zeroPad 9 nanos
  have hread := foldl_saturating_digits (zeroPad 9 nanos) 0 (by rw [hvalue]; omega)
  rw [hvalue] at hread
  rw [fractionNanos, String.toList_ofList, List.take_of_length_le hlength.le]
  simp only [hdigits, hlength, Nat.sub_self, List.replicate_zero, List.foldl_nil]
  exact hread

theorem fractionNanos_empty : fractionNanos "" = 0 := by decide

/-! ## The whole trip -/

/-- What is read from a date, a clock and a fraction. -/
theorem timestampToUnixNanos_moment {year month day : Int64} (hyear : 0 ≤ year.toInt)
    (hmonth : 0 ≤ month.toInt) (hday : 0 ≤ day.toInt) {hour minute second : UInt64}
    {time : List Char} (fraction : String)
    (htime : (splitOnce (String.ofList time) '.').getD (String.ofList time, "") =
      (String.ofList (clockText hour minute second), fraction)) :
    timestampToUnixNanos
        (String.ofList (dateText year month day ++ 'T' :: (time ++ "+00:00".toList))) =
      if daysFromCivil year month day < 0 then 0
      else
        saturatingAdd
          (saturatingMul
            (saturatingAdd (saturatingMul (daysFromCivil year month day).toUInt64 86400)
              (hour * 3600 + minute * 60 + second))
            1000000000)
          (fractionNanos fraction) := by
  have hdate : 'T' ∉ dateText year month day := by
    have hletter : ∀ width n, 'T' ∉ zeroPad width n := not_mem_zeroPad (by decide)
    simp [dateText, zeroPadInt_of_nonneg, hyear, hmonth, hday, hletter]
  have hsuffix : stripSuffix (String.ofList (time ++ "+00:00".toList)) "+00:00" =
      some (String.ofList time) := stripSuffix_append time "+00:00".toList
  rw [timestampToUnixNanos, splitOnce_append hdate]
  simp only [parseDate_dateText hyear hmonth hday, hsuffix, Option.or, Option.getD_some, htime,
    parseTime_clockText]

/-- A small count is the same number as a signed word. -/
theorem toInt64_eq_ofInt (n : UInt64) : n.toInt64 = Int64.ofInt n.toNat := by
  rw [Int64.ofInt_eq_ofNat]
  exact congrArg Int64.ofUInt64 (UInt64.ofNat_toNat).symm

/-- The days since 1970, by way of the date. -/
theorem daysFromCivil_civilFromDays {days : UInt64} (hdays : days.toNat ≤ 1000000) :
    ∃ year month day, civilFromDays days.toInt64 = (year, month, day) ∧ 0 ≤ year.toInt ∧
      0 ≤ month.toInt ∧ 0 ≤ day.toInt ∧ daysFromCivil year month day = days.toInt64 := by
  obtain ⟨hmonth, hday⟩ := Calendar.civilOfDays_range days.toNat
  have hyear := Calendar.civilOfDays_year_range (Int.natCast_nonneg days.toNat)
  refine ⟨Int64.ofInt (Calendar.civilOfDays days.toNat).year,
    Int64.ofInt (Calendar.civilOfDays days.toNat).month,
    Int64.ofInt (Calendar.civilOfDays days.toNat).day, ?_, ?_, ?_, ?_, ?_⟩
  · rw [toInt64_eq_ofInt]
    exact civilFromDays_ofInt ⟨by omega, by omega⟩
  · rw [Int64.toInt_ofInt_of_le (by omega) (by omega)]
    exact hyear.1
  · rw [Int64.toInt_ofInt_of_le (by omega) (by omega)]
    omega
  · rw [Int64.toInt_ofInt_of_le (by omega) (by omega)]
    omega
  · rw [daysFromCivil_ofInt ⟨by omega, by omega⟩ hmonth, Calendar.daysOfCivil_civilOfDays,
      toInt64_eq_ofInt]

/-- The parts of a time make it up again, and nothing saturates. -/
theorem recombine (nanos : UInt64) :
    saturatingAdd
      (saturatingMul
        (saturatingAdd (saturatingMul (nanos / 1000000000 / 86400) 86400)
          (nanos / 1000000000 % 86400 / 3600 * 3600 +
            nanos / 1000000000 % 86400 % 3600 / 60 * 60 + nanos / 1000000000 % 86400 % 60))
        1000000000)
      (nanos % 1000000000) = nanos := by
  have hbound := nanos.toNat_lt
  apply UInt64.toNat_inj.mp
  simp only [saturatingAdd_toNat, saturatingMul_toNat, UInt64.toNat_add, UInt64.toNat_mul,
    UInt64.toNat_div, UInt64.toNat_mod, UInt64.toNat_ofNat, u64Max, Nat.reducePow,
    Nat.reduceMod]
  omega

theorem toNat_days_le (nanos : UInt64) : (nanos / 1000000000 / 86400).toNat ≤ 1000000 := by
  have hbound := nanos.toNat_lt
  simp only [UInt64.toNat_div, UInt64.toNat_ofNat, Nat.reducePow, Nat.reduceMod]
  omega

theorem toNat_subsecNanos (nanos : UInt64) :
    (nanos % 1000000000).toUInt32.toNat = (nanos % 1000000000).toNat := by
  simp only [UInt64.toNat_toUInt32, UInt64.toNat_mod, UInt64.toNat_ofNat, Nat.reducePow,
    Nat.reduceMod]
  omega

theorem not_mem_clockText (hour minute second : UInt64) : '.' ∉ clockText hour minute second := by
  have hdot : ∀ width n, '.' ∉ zeroPad width n := not_mem_zeroPad (by decide)
  simp [clockText, hdot]

/-- A time is written as a date, a clock and a fraction of a second. -/
structure WrittenMoment (nanos : UInt64) (year month day : Int64) (time : List Char)
    (fraction : String) : Prop where
  date : civilFromDays (nanos / 1000000000 / 86400).toInt64 = (year, month, day)
  time : (splitOnce (String.ofList time) '.').getD (String.ofList time, "") =
    (String.ofList (clockText (nanos / 1000000000 % 86400 / 3600)
      (nanos / 1000000000 % 86400 % 3600 / 60) (nanos / 1000000000 % 86400 % 60)), fraction)
  fraction : fractionNanos fraction = nanos % 1000000000

/-- What is written of a time. -/
theorem exists_writtenMoment (nanos : UInt64) :
    ∃ year month day time fraction, WrittenMoment nanos year month day time fraction ∧
      unixNanosToRfc3339 nanos =
        String.ofList (dateText year month day ++ 'T' :: (time ++ "+00:00".toList)) := by
  have hsubsec := toNat_subsecNanos nanos
  obtain ⟨⟨year, month, day⟩, hdate⟩ :
      ∃ date, civilFromDays (nanos / 1000000000 / 86400).toInt64 = date := ⟨_, rfl⟩
  rw [unixNanosToRfc3339]
  simp only [hdate]
  split
  -- A whole second has no dot, and is read with an empty fraction.
  · next hwhole =>
      refine ⟨year, month, day, _, "", ⟨hdate, ?_, ?_⟩, rfl⟩
      · rw [splitOnce_of_not_mem (by rw [String.toList_ofList]; exact not_mem_clockText _ _ _)]
        rfl
      · rw [fractionNanos_empty, ← UInt64.toNat_inj, ← hsubsec, hwhole]
        rfl
  · next hpart =>
      refine ⟨year, month, day, _, String.ofList (zeroPad 9 (nanos % 1000000000).toUInt32.toNat),
        ⟨hdate, ?_, ?_⟩, rfl⟩
      · rw [splitOnce_append (not_mem_clockText _ _ _)]
        rfl
      · have hlimit : (nanos % 1000000000).toNat < 1000000000 := by
          rw [UInt64.toNat_mod]
          exact Nat.mod_lt _ (by decide)
        rw [fractionNanos_zeroPad (by omega), hsubsec, UInt64.ofNat_toNat]

/-- What is written of a time is read as the time. -/
theorem WrittenMoment.read {nanos : UInt64} {year month day : Int64} {time : List Char}
    {fraction : String} (h : WrittenMoment nanos year month day time fraction) :
    timestampToUnixNanos
      (String.ofList (dateText year month day ++ 'T' :: (time ++ "+00:00".toList))) = nanos := by
  have hdays := toNat_days_le nanos
  obtain ⟨year', month', day', hdate', hyear, hmonth, hday, hback⟩ :=
    daysFromCivil_civilFromDays hdays
  obtain ⟨rfl, rfl, rfl⟩ : year = year' ∧ month = month' ∧ day = day' := by
    simpa using h.date.symm.trans hdate'
  have hsince : ¬ (nanos / 1000000000 / 86400).toInt64 < 0 := by
    rw [toInt64_eq_ofInt, literal_eq_ofInt, ofInt_lt_iff ⟨by omega, by omega⟩ ⟨by omega, by omega⟩]
    omega
  have hword : (nanos / 1000000000 / 86400).toInt64.toUInt64 = nanos / 1000000000 / 86400 := rfl
  rw [timestampToUnixNanos_moment hyear hmonth hday fraction h.time, hback, if_neg hsince, hword,
    h.fraction]
  exact recombine nanos

/-- **From kernel time to the wire.** Every time that a word holds is read back from the
text that it is written as. -/
theorem timestampToUnixNanos_unixNanosToRfc3339 (nanos : UInt64) :
    timestampToUnixNanos (unixNanosToRfc3339 nanos) = nanos := by
  obtain ⟨year, month, day, time, fraction, hwritten, htext⟩ := exists_writtenMoment nanos
  rw [htext, hwritten.read]

end Tapio.Sink
