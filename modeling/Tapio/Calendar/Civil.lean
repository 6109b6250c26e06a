/-
# Days and dates

The days since 1970-01-01 as dates of the Gregorian calendar and back, over all
integers. Years are counted from March, so that the leap day is the last day of a year,
and in eras of 400 years, which have the same number of days each. Division rounds
down.
-/
import Mathlib.Data.Int.Notation
import Mathlib.Tactic.SplitIfs

namespace Calendar

structure Date where
  year : ℤ
  month : ℤ
  day : ℤ
  deriving DecidableEq

/-- The era in which a day lies. -/
def eraOfDays (days : ℤ) : ℤ := (days + 719468) / 146097

def dayOfEra (days : ℤ) : ℤ := days + 719468 - eraOfDays days * 146097

/-- The year, from 0 on, in which a day of an era lies. -/
def yearOfEra (doe : ℤ) : ℤ := (doe - doe / 1460 + doe / 36524 - doe / 146096) / 365

/-- The day of an era on which a year of it begins. -/
def yearStart (yoe : ℤ) : ℤ := 365 * yoe + yoe / 4 - yoe / 100

/-- The day of its year, from 0 on. -/
def dayOfYear (days : ℤ) : ℤ := dayOfEra days - yearStart (yearOfEra (dayOfEra days))

/-- The month, counted from March, in which a day of a year lies. -/
def monthOfYear (doy : ℤ) : ℤ := (5 * doy + 2) / 153

/-- The day of a year on which a month of it begins. -/
def monthStart (mp : ℤ) : ℤ := (153 * mp + 2) / 5

def civilOfDays (days : ℤ) : Date :=
  let era := eraOfDays days
  let yoe := yearOfEra (dayOfEra days)
  let mp := monthOfYear (dayOfYear days)
  let month := if mp < 10 then mp + 3 else mp - 9
  { year := if month ≤ 2 then yoe + era * 400 + 1 else yoe + era * 400
    month := month
    day := dayOfYear days - monthStart mp + 1 }

def daysOfCivil (date : Date) : ℤ :=
  let year := if date.month ≤ 2 then date.year - 1 else date.year
  let era := year / 400
  let mp := if date.month > 2 then date.month - 3 else date.month + 9
  let doy := monthStart mp + date.day - 1
  era * 146097 + (yearStart (year - era * 400) + doy) - 719468

/-! ## Ranges -/

theorem dayOfEra_range (days : ℤ) : 0 ≤ dayOfEra days ∧ dayOfEra days < 146097 := by
  rw [dayOfEra, eraOfDays]
  omega

theorem yearOfEra_range {doe : ℤ} (hlow : 0 ≤ doe) (hhigh : doe < 146097) :
    0 ≤ yearOfEra doe ∧ yearOfEra doe < 400 := by
  rw [yearOfEra]
  omega

/-- The year in which a day lies has begun. -/
theorem yearStart_le {doe : ℤ} (hlow : 0 ≤ doe) (hhigh : doe < 146097) :
    yearStart (yearOfEra doe) ≤ doe := by
  rw [yearStart]
  by_cases hlast : doe = 146096
  · subst hlast
    decide
  · have hyear : yearOfEra doe = (doe - doe / 1460 + doe / 36524) / 365 := by
      rw [yearOfEra]
      omega
    have hcentury : yearOfEra doe / 100 = doe / 36524 := by omega
    have hcycle : yearOfEra doe / 4 ≤ doe / 1460 := by omega
    omega

/-- The year in which a day lies has not ended. -/
theorem le_yearStart {doe : ℤ} (hlow : 0 ≤ doe) (hhigh : doe < 146097) :
    doe ≤ yearStart (yearOfEra doe) + 366 := by
  rw [yearStart, yearOfEra]
  omega

/-- The month in which a day lies has begun, no more than 31 days ago. -/
theorem monthStart_range (doy : ℤ) :
    monthStart (monthOfYear doy) ≤ doy ∧ doy ≤ monthStart (monthOfYear doy) + 30 := by
  rw [monthStart, monthOfYear]
  omega

theorem dayOfYear_range (days : ℤ) : 0 ≤ dayOfYear days ∧ dayOfYear days ≤ 366 := by
  obtain ⟨hlow, hhigh⟩ := dayOfEra_range days
  have hstart := yearStart_le hlow hhigh
  have hend := le_yearStart hlow hhigh
  rw [dayOfYear]
  omega

theorem monthOfYear_range (days : ℤ) :
    0 ≤ monthOfYear (dayOfYear days) ∧ monthOfYear (dayOfYear days) < 12 := by
  have hday := dayOfYear_range days
  rw [monthOfYear]
  omega

/-- The month is one of twelve, and days are counted from one. -/
theorem civilOfDays_range (days : ℤ) :
    (1 ≤ (civilOfDays days).month ∧ (civilOfDays days).month ≤ 12) ∧
      1 ≤ (civilOfDays days).day ∧ (civilOfDays days).day ≤ 31 := by
  have hmonth := monthOfYear_range days
  have hday := monthStart_range (dayOfYear days)
  simp only [civilOfDays]
  refine ⟨?_, by omega⟩
  split <;> omega

/-- The year is that of the era, but for the months that belong to the next year. -/
theorem civilOfDays_year (days : ℤ) :
    (civilOfDays days).year =
      yearOfEra (dayOfEra days) + eraOfDays days * 400 +
        if (civilOfDays days).month ≤ 2 then 1 else 0 := by
  simp only [civilOfDays]
  split <;> omega

/-- A day since 1970 lies in a year that is not negative, and not beyond the days. -/
theorem civilOfDays_year_range {days : ℤ} (hdays : 0 ≤ days) :
    0 ≤ (civilOfDays days).year ∧ (civilOfDays days).year ≤ days + 3000 := by
  have hyoe := yearOfEra_range (dayOfEra_range days).1 (dayOfEra_range days).2
  have hera : 0 ≤ eraOfDays days ∧ eraOfDays days * 400 ≤ days + 2000 := by
    rw [eraOfDays]
    omega
  rw [civilOfDays_year]
  split <;> omega

/-- **From days to the date and back.** -/
theorem daysOfCivil_civilOfDays (days : ℤ) : daysOfCivil (civilOfDays days) = days := by
  have hyoe := yearOfEra_range (dayOfEra_range days).1 (dayOfEra_range days).2
  have hmonth := monthOfYear_range days
  have hyear : (if (civilOfDays days).month ≤ 2 then (civilOfDays days).year - 1
      else (civilOfDays days).year) = yearOfEra (dayOfEra days) + eraOfDays days * 400 := by
    rw [civilOfDays_year]
    split <;> omega
  have hera : (yearOfEra (dayOfEra days) + eraOfDays days * 400) / 400 = eraOfDays days := by
    omega
  have hmp : (if (civilOfDays days).month > 2 then (civilOfDays days).month - 3
      else (civilOfDays days).month + 9) =
        monthOfYear (dayOfYear days) := by
    simp only [civilOfDays]
    split_ifs <;> omega
  have hday : monthStart (monthOfYear (dayOfYear days)) +
      (civilOfDays days).day - 1 = dayOfYear days := by
    simp only [civilOfDays]
    omega
  rw [daysOfCivil]
  simp only [hyear, hera, hmp, hday, Int.add_sub_cancel]
  rw [dayOfYear, dayOfEra]
  omega

end Calendar
