/-
# The time of an occurrence

How a time in nanoseconds is written into an occurrence: as a date and a time of day in
UTC, with nine digits of a second if there is a fraction.
-/
import Tapio.Calendar.Successor
import Tapio.Numeric.Signed
import Tapio.Text.Decimal

namespace Tapio

open Text Numeric

def civilFromDays (daysSinceUnixEpoch : Int64) : Int64 × Int64 × Int64 :=
  let z := daysSinceUnixEpoch + 719468
  let era := (if z ≥ 0 then z else z - 146096) / 146097
  let doe := z - era * 146097
  let yoe := (doe - doe / 1460 + doe / 36524 - doe / 146096) / 365
  let year := yoe + era * 400
  let doy := doe - (365 * yoe + yoe / 4 - yoe / 100)
  let mp := (5 * doy + 2) / 153
  let day := doy - (153 * mp + 2) / 5 + 1
  let month := mp + if mp < 10 then 3 else -9
  let year := if month ≤ 2 then year + 1 else year
  (year, month, day)

/-- `{year:04}-{month:02}-{day:02}`. -/
def dateText (year month day : Int64) : List Char :=
  zeroPadInt 4 year.toInt ++ '-' :: (zeroPadInt 2 month.toInt ++ '-' :: zeroPadInt 2 day.toInt)

/-- `{hour:02}:{minute:02}:{second:02}`. -/
def clockText (hour minute second : UInt64) : List Char :=
  zeroPad 2 hour.toNat ++ ':' :: (zeroPad 2 minute.toNat ++ ':' :: zeroPad 2 second.toNat)

def unixNanosToRfc3339 (nanos : UInt64) : String :=
  let secs := nanos / 1000000000
  let subsecNanos := (nanos % 1000000000).toUInt32
  let days := (secs / 86400).toInt64
  let secondsOfDay := secs % 86400
  let (year, month, day) := civilFromDays days
  let hour := secondsOfDay / 3600
  let minute := secondsOfDay % 3600 / 60
  let second := secondsOfDay % 60
  if subsecNanos = 0 then
    String.ofList (dateText year month day ++ 'T' ::
      (clockText hour minute second ++ "+00:00".toList))
  else
    String.ofList (dateText year month day ++ 'T' ::
      ((clockText hour minute second ++ '.' :: zeroPad 9 subsecNanos.toNat) ++
        "+00:00".toList))

example : unixNanosToRfc3339 0 = "1970-01-01T00:00:00+00:00" := by decide +kernel

example : unixNanosToRfc3339 1705314600123456789 = "2024-01-15T10:30:00.123456789+00:00" := by
  decide +kernel

/-! ## The date -/

/-- No quotient that a date is computed from is near the bounds of a word. -/
theorem ofInt_div_of_nonneg {a b : ℤ} (hlow : 0 ≤ a) (hhigh : a ≤ 1000000000000) (hb : Fits b) :
    Int64.ofInt a / Int64.ofInt b = Int64.ofInt (a / b) :=
  ofInt_div ⟨by omega, by omega⟩ hb hlow

theorem yearOfEra_ofInt {doe : ℤ} (hlow : 0 ≤ doe) (hhigh : doe < 146097) :
    (Int64.ofInt doe - Int64.ofInt doe / 1460 + Int64.ofInt doe / 36524 -
        Int64.ofInt doe / 146096) / 365 =
      Int64.ofInt (Calendar.yearOfEra doe) := by
  have hquotient : ∀ {b : ℤ}, Fits b →
      Int64.ofInt doe / Int64.ofInt b = Int64.ofInt (doe / b) := fun hb =>
    ofInt_div_of_nonneg hlow (by omega) hb
  simp only [literal_eq_ofInt]
  rw [hquotient ⟨by decide, by decide⟩, hquotient ⟨by decide, by decide⟩,
    hquotient ⟨by decide, by decide⟩, ← Int64.ofInt_sub, ← Int64.ofInt_add, ← Int64.ofInt_sub,
    ofInt_div_of_nonneg (by omega) (by omega) ⟨by decide, by decide⟩, Calendar.yearOfEra]

theorem yearStart_ofInt {yoe : ℤ} (hlow : 0 ≤ yoe) (hhigh : yoe < 400) :
    365 * Int64.ofInt yoe + Int64.ofInt yoe / 4 - Int64.ofInt yoe / 100 =
      Int64.ofInt (Calendar.yearStart yoe) := by
  simp only [literal_eq_ofInt]
  rw [ofInt_div_of_nonneg hlow (by omega) ⟨by decide, by decide⟩,
    ofInt_div_of_nonneg hlow (by omega) ⟨by decide, by decide⟩, ← Int64.ofInt_mul,
    ← Int64.ofInt_add, ← Int64.ofInt_sub, Calendar.yearStart]

theorem monthOfYear_ofInt {doy : ℤ} (hlow : 0 ≤ doy) (hhigh : doy ≤ 366) :
    (5 * Int64.ofInt doy + 2) / 153 = Int64.ofInt (Calendar.monthOfYear doy) := by
  simp only [literal_eq_ofInt]
  rw [← Int64.ofInt_mul, ← Int64.ofInt_add,
    ofInt_div_of_nonneg (by omega) (by omega) ⟨by decide, by decide⟩, Calendar.monthOfYear]

theorem monthStart_ofInt {mp : ℤ} (hlow : 0 ≤ mp) (hhigh : mp < 12) :
    (153 * Int64.ofInt mp + 2) / 5 = Int64.ofInt (Calendar.monthStart mp) := by
  simp only [literal_eq_ofInt]
  rw [← Int64.ofInt_mul, ← Int64.ofInt_add,
    ofInt_div_of_nonneg (by omega) (by omega) ⟨by decide, by decide⟩, Calendar.monthStart]

/-- **The date is right.** In words as in integers, unless the shift by 719468 days, or by
as many as an era has before that, overflows. -/
theorem civilFromDays_of_fits {days : ℤ} (hfits : Fits (days + 719468))
    (hbefore : days + 719468 < 0 → Fits (days + 719468 - 146096)) :
    civilFromDays (Int64.ofInt days) =
      (Int64.ofInt (Calendar.civilOfDays days).year,
        Int64.ofInt (Calendar.civilOfDays days).month,
        Int64.ofInt (Calendar.civilOfDays days).day) := by
  have hdoeRange := Calendar.dayOfEra_range days
  have hyoeRange := Calendar.yearOfEra_range hdoeRange.1 hdoeRange.2
  have hdoyRange := Calendar.dayOfYear_range days
  have hmpRange := Calendar.monthOfYear_range days
  unfold civilFromDays
  extract_lets z era doe yoe year doy mp day month year'
  have hz : z = Int64.ofInt (days + 719468) := by
    simp only [z, literal_eq_ofInt, Int64.ofInt_add]
  have hera : era = Int64.ofInt (Calendar.eraOfDays days) := by
    simp only [era, hz, literal_eq_ofInt]
    exact ofInt_floorDiv hfits ⟨by decide, by decide⟩ (by decide) (by decide) hbefore
  have hdoe : doe = Int64.ofInt (Calendar.dayOfEra days) := by
    simp only [doe, hz, hera, literal_eq_ofInt, Calendar.dayOfEra, Int64.ofInt_sub,
      Int64.ofInt_mul]
  have hyoe : yoe = Int64.ofInt (Calendar.yearOfEra (Calendar.dayOfEra days)) := by
    simp only [yoe, hdoe]
    exact yearOfEra_ofInt hdoeRange.1 hdoeRange.2
  have hdoy : doy = Int64.ofInt (Calendar.dayOfYear days) := by
    simp only [doy, hyoe, hdoe, yearStart_ofInt hyoeRange.1 hyoeRange.2, Calendar.dayOfYear,
      Int64.ofInt_sub]
  have hmp : mp = Int64.ofInt (Calendar.monthOfYear (Calendar.dayOfYear days)) := by
    simp only [mp, hdoy]
    exact monthOfYear_ofInt hdoyRange.1 hdoyRange.2
  have hday : day = Int64.ofInt (Calendar.civilOfDays days).day := by
    simp only [day, hdoy, hmp, monthStart_ofInt hmpRange.1 hmpRange.2, literal_eq_ofInt 1,
      Calendar.civilOfDays, Int64.ofInt_add, Int64.ofInt_sub]
  have hmonth : month = Int64.ofInt (Calendar.civilOfDays days).month := by
    simp only [month, hmp, literal_eq_ofInt, Int64.neg_ofInt,
      ofInt_lt_iff (a := Calendar.monthOfYear (Calendar.dayOfYear days)) (b := 10)
        ⟨by omega, by omega⟩ ⟨by decide, by decide⟩, Calendar.civilOfDays]
    split
    · rw [Int64.ofInt_add]
    · rw [← Int64.ofInt_add, Int.sub_eq_add_neg]
  have hyear : year' = Int64.ofInt (Calendar.civilOfDays days).year := by
    have hmonthRange := (Calendar.civilOfDays_range days).1
    simp only [year', hmonth, year, hyoe, hera, literal_eq_ofInt,
      ofInt_le_iff (a := (Calendar.civilOfDays days).month) (b := 2)
        ⟨by omega, by omega⟩ ⟨by decide, by decide⟩, Calendar.civilOfDays_year]
    split
    · simp only [Int64.ofInt_add, Int64.ofInt_mul]
    · simp only [Int.add_zero, Int64.ofInt_add, Int64.ofInt_mul]
  rw [hyear, hmonth, hday]

/-- A day that is far from overflowing. -/
def Plausible (days : ℤ) : Prop := -1000000000000 ≤ days ∧ days ≤ 1000000000000

theorem civilFromDays_ofInt {days : ℤ} (hdays : Plausible days) :
    civilFromDays (Int64.ofInt days) =
      (Int64.ofInt (Calendar.civilOfDays days).year,
        Int64.ofInt (Calendar.civilOfDays days).month,
        Int64.ofInt (Calendar.civilOfDays days).day) := by
  obtain ⟨hlow, hhigh⟩ := hdays
  exact civilFromDays_of_fits ⟨by omega, by omega⟩ fun _ => ⟨by omega, by omega⟩

/-! ## The calendar -/

/-- The date a triple of words stands for. -/
def civilDate (date : Int64 × Int64 × Int64) : Calendar.Date :=
  ⟨date.1.toInt, date.2.1.toInt, date.2.2.toInt⟩

/-- From 1970 on, as long as the shifted day fits into a word, the date is right. -/
theorem civilDate_civilFromDays {days : ℤ} (hdays : 0 ≤ days) (hfits : Fits (days + 719468)) :
    civilDate (civilFromDays (Int64.ofInt days)) = Calendar.civilOfDays days := by
  have hrange := Calendar.civilOfDays_range days
  have hyear := Calendar.civilOfDays_year_range hdays
  obtain ⟨-, hhigh⟩ := hfits
  have htoInt : ∀ {n : ℤ}, Fits n → (Int64.ofInt n).toInt = n := fun hn =>
    Int64.toInt_ofInt_of_le hn.1 (Int.lt_of_le_of_lt hn.2 (by decide))
  rw [civilFromDays_of_fits ⟨by omega, hhigh⟩ (by omega), civilDate]
  dsimp only
  rw [htoInt ⟨by omega, by omega⟩, htoInt ⟨by omega, by omega⟩, htoInt ⟨by omega, by omega⟩]

/-- **The Gregorian calendar.** The dates from 1970-01-01 on are those of the calendar, day
by day, as long as the shifted day fits into a word. -/
theorem civilFromDays_calendar :
    civilFromDays 0 = (1970, 1, 1) ∧
      ∀ days : Int64, 0 ≤ days → Fits (days.toInt + 1 + 719468) →
        civilDate (civilFromDays (days + 1)) = (civilDate (civilFromDays days)).next := by
  refine ⟨by decide, fun days hdays hfits => ?_⟩
  have hnonneg : 0 ≤ days.toInt := Int64.le_iff_toInt_le.mp hdays
  have hsucc : days + 1 = Int64.ofInt (days.toInt + 1) := by
    rw [Int64.ofInt_add, Int64.ofInt_toInt]
    rfl
  obtain ⟨-, hhigh⟩ := hfits
  calc civilDate (civilFromDays (days + 1))
      = Calendar.civilOfDays (days.toInt + 1) := by
        rw [hsucc, civilDate_civilFromDays (by omega) ⟨by omega, hhigh⟩]
    _ = (Calendar.civilOfDays days.toInt).next := Calendar.civilOfDays_succ _
    _ = (civilDate (civilFromDays days)).next := by
        rw [← civilDate_civilFromDays hnonneg ⟨by omega, by omega⟩, Int64.ofInt_toInt]

/-- The last day of February 2024 comes after the 28th. -/
theorem civilFromDays_leapDay :
    civilDate (civilFromDays (19781 + 1)) = (civilDate (civilFromDays 19781)).next ∧
      civilDate (civilFromDays (19781 + 1)) = ⟨2024, 2, 29⟩ :=
  ⟨civilFromDays_calendar.2 19781 (by decide) ⟨by decide, by decide⟩, by decide⟩

/-- The day after the last one whose shift fits has no date: its own shift overflows. -/
theorem not_civilFromDays_overflow :
    ¬ ∀ days : Int64, 0 ≤ days → Fits (days.toInt + 719468) →
      civilDate (civilFromDays (days + 1)) = (civilDate (civilFromDays days)).next := by
  intro h
  have hlast := h 9223372036854056339 (by decide) ⟨by decide, by decide⟩
  exact absurd hlast (by decide +kernel)

end Tapio
