/-
# The day after

The Gregorian calendar, day by day: after the last day of a month comes the first of the
next, and after the last day of December the first of January. The days since 1970-01-01,
one after another, go through its dates in this order.

In years counted from March the rule is simple: a year has 366 days if the February at its
end has a leap day, and the months before it have the same lengths in every year.
-/
import Mathlib.Tactic.IntervalCases
import Tapio.Calendar.Order

namespace Calendar

/-- Divisible by 4 and not by 100, or by 400. -/
def IsLeap (year : ℤ) : Prop := year % 4 = 0 ∧ year % 100 ≠ 0 ∨ year % 400 = 0

instance (year : ℤ) : Decidable (IsLeap year) :=
  inferInstanceAs (Decidable (_ ∨ _))

def monthLength (year month : ℤ) : ℤ :=
  if month = 2 then if IsLeap year then 29 else 28
  else if month = 4 ∨ month = 6 ∨ month = 9 ∨ month = 11 then 30
  else 31

/-- The next day of the month when there is one, otherwise the first of the next month or
of the next January. -/
def Date.next (date : Date) : Date :=
  if date.day < monthLength date.year date.month then { date with day := date.day + 1 }
  else if date.month < 12 then ⟨date.year, date.month + 1, 1⟩
  else ⟨date.year + 1, 1, 1⟩

example : Date.next ⟨2024, 2, 28⟩ = ⟨2024, 2, 29⟩ := by decide

example : Date.next ⟨2100, 2, 28⟩ = ⟨2100, 3, 1⟩ := by decide

/-! ## Years from March -/

/-- The days of a year that is counted from March. -/
def marchYearLength (year : ℤ) : ℤ := if IsLeap (year + 1) then 366 else 365

/-- The first day of a year lies in it, or in a later one. -/
theorem le_yearOfEra_yearStart {yoe : ℤ} (hlow : 0 ≤ yoe) (hhigh : yoe < 400) :
    yoe ≤ yearOfEra (yearStart yoe) := by
  have hstart : yearStart yoe = 365 * yoe + yoe / 4 - yoe / 100 := rfl
  have hlast : yearStart yoe / 146096 = 0 := by omega
  have hcentury : yearStart yoe / 36524 = yoe / 100 := by omega
  have hcycle : yearStart yoe / 1460 ≤ yoe / 4 := by omega
  rw [yearOfEra]
  omega

/-- A year of an era in which a day lies ends after it. -/
theorem lt_yearStart_succ {doe : ℤ} (hlow : 0 ≤ doe) (hhigh : doe < 146097)
    (hnext : yearOfEra doe + 1 < 400) : doe < yearStart (yearOfEra doe + 1) := by
  have hrange := yearOfEra_range hlow hhigh
  by_contra hle
  have hmono := yearOfEra_mono (Int.not_lt.mp hle)
  have hstart := le_yearOfEra_yearStart (by omega) hnext
  omega

/-- The day on which a year begins. -/
def marchStart (year : ℤ) : ℤ :=
  365 * year + year / 4 - year / 100 + year / 400 - 719468

theorem marchStart_succ (year : ℤ) :
    marchStart (year + 1) = marchStart year + marchYearLength year := by
  simp only [marchStart, marchYearLength, IsLeap]
  split_ifs <;> omega

/-- The first day of a year, by its place in an era. -/
theorem marchStart_of_era (yoe era : ℤ) :
    marchStart (yoe + era * 400) =
      era * 146097 + yearStart yoe + yoe / 400 - 719468 := by
  have hcycle : (yoe + era * 400) / 4 = yoe / 4 + era * 100 := by omega
  have hcentury : (yoe + era * 400) / 100 = yoe / 100 + era * 4 := by omega
  have hera : (yoe + era * 400) / 400 = yoe / 400 + era := by omega
  rw [marchStart, yearStart, hcycle, hcentury, hera]
  omega

/-- A day is counted from the first of its year. -/
theorem marchStart_add (days : ℤ) : marchStart (marchYear days) + dayOfYear days = days := by
  obtain ⟨hlow, hhigh⟩ := dayOfEra_range days
  have hyoe := yearOfEra_range hlow hhigh
  have hdoe : dayOfEra days = days + 719468 - eraOfDays days * 146097 := rfl
  rw [marchYear, marchStart_of_era, dayOfYear]
  omega

/-- A day lies before the first day of the year after. -/
theorem lt_marchStart_succ (days : ℤ) : days < marchStart (marchYear days + 1) := by
  obtain ⟨hlow, hhigh⟩ := dayOfEra_range days
  have hyoe := yearOfEra_range hlow hhigh
  have hend := lt_yearStart_succ hlow hhigh
  have hdoe : dayOfEra days = days + 719468 - eraOfDays days * 146097 := rfl
  rw [marchYear, Int.add_right_comm, marchStart_of_era]
  by_cases hnext : yearOfEra (dayOfEra days) + 1 < 400
  · have := hend hnext
    omega
  · have hlast : yearOfEra (dayOfEra days) + 1 = 400 := by omega
    rw [hlast, show yearStart 400 = 146096 from rfl]
    omega

theorem marchStart_mono {year year' : ℤ} (h : year ≤ year') :
    marchStart year ≤ marchStart year' := by
  rw [marchStart, marchStart]
  omega

/-- A day from the first of a year to before the first of the next lies in that year. -/
theorem marchYear_eq {days year : ℤ} (hlow : marchStart year ≤ days)
    (hhigh : days < marchStart (year + 1)) : marchYear days = year := by
  have hdays := marchStart_add days
  have hdoy := dayOfYear_range days
  have hnext := lt_marchStart_succ days
  rcases Int.lt_trichotomy (marchYear days) year with hlt | heq | hgt
  · have hmono := marchStart_mono (Int.add_one_le_of_lt hlt)
    omega
  · exact heq
  · have hmono := marchStart_mono (Int.add_one_le_of_lt hgt)
    omega

/-! ## The next day -/

/-- The day of a year from March after the last of a month. -/
def monthEnd (year mp : ℤ) : ℤ := if mp < 11 then monthStart (mp + 1) else marchYearLength year

theorem monthLength_ofMarch {year mp : ℤ} (hlow : 0 ≤ mp) (hhigh : mp < 12) :
    monthLength (if mp < 10 then year else year + 1) (if mp < 10 then mp + 3 else mp - 9) =
      monthEnd year mp - monthStart mp := by
  interval_cases mp <;> simp [monthLength, monthEnd, monthStart, marchYearLength]
  split_ifs <;> rfl

/-- A month has a day more if the day after is not past its end. -/
theorem Date.day_lt_ofMarch_iff (year doy : ℤ) (hlow : 0 ≤ doy) (hhigh : doy < 366) :
    (Date.ofMarch year doy).day <
        monthLength (Date.ofMarch year doy).year (Date.ofMarch year doy).month ↔
      doy + 1 < monthEnd year (monthOfYear doy) := by
  have hmp : 0 ≤ monthOfYear doy ∧ monthOfYear doy < 12 := by
    rw [monthOfYear]
    omega
  simp only [Date.ofMarch]
  rw [monthLength_ofMarch hmp.1 hmp.2]
  omega

theorem marchYearLength_range (year : ℤ) :
    365 ≤ marchYearLength year ∧ marchYearLength year ≤ 366 := by
  rw [marchYearLength]
  split_ifs <;> decide

/-- The next day of a year from March lies in the same month, or is the first of the next. -/
theorem monthOfYear_succ {year doy : ℤ} (hnext : doy + 1 < marchYearLength year) :
    monthOfYear (doy + 1) = monthOfYear doy ∧ doy + 1 < monthEnd year (monthOfYear doy) ∨
      monthOfYear (doy + 1) = monthOfYear doy + 1 ∧ monthOfYear doy < 11 ∧
        doy + 1 = monthStart (monthOfYear doy + 1) := by
  have hyear := marchYearLength_range year
  rw [monthEnd, monthStart, monthOfYear, monthOfYear]
  split_ifs <;> omega

/-- Within a year from March the next day has the next date. -/
theorem Date.next_ofMarch {year doy : ℤ} (hlow : 0 ≤ doy)
    (hnext : doy + 1 < marchYearLength year) :
    (Date.ofMarch year doy).next = Date.ofMarch year (doy + 1) := by
  have hyear := marchYearLength_range year
  have hmore := Date.day_lt_ofMarch_iff year doy hlow (by omega)
  rw [Date.next]
  rcases monthOfYear_succ hnext with ⟨hsame, hlt⟩ | ⟨hmonth, hmp, hfirst⟩
  · rw [if_pos (hmore.mpr hlt), Date.ofMarch, Date.ofMarch, hsame]
    dsimp only
    congr 1
    omega
  · have hend : ¬ doy + 1 < monthEnd year (monthOfYear doy) := by
      rw [monthEnd, if_pos hmp]
      omega
    rw [if_neg (mt hmore.mp hend), Date.ofMarch, Date.ofMarch, hmonth, hfirst]
    dsimp only
    split_ifs <;> rw [Date.mk.injEq] <;> omega

/-- After the last day of February comes the first of March. -/
theorem Date.next_ofMarch_last {year doy : ℤ} (hlast : doy + 1 = marchYearLength year) :
    (Date.ofMarch year doy).next = Date.ofMarch (year + 1) 0 := by
  have hyear := marchYearLength_range year
  have hmp : monthOfYear doy = 11 := by
    rw [monthOfYear]
    omega
  have hmore := Date.day_lt_ofMarch_iff year doy (by omega) (by omega)
  have hend : ¬ doy + 1 < monthEnd year (monthOfYear doy) := by
    rw [hmp, monthEnd, if_neg (by decide)]
    omega
  rw [Date.next, if_neg (mt hmore.mp hend), Date.ofMarch, hmp]
  rfl

/-- **The calendar.** The day after has the date after. -/
theorem civilOfDays_succ (days : ℤ) : civilOfDays (days + 1) = (civilOfDays days).next := by
  have hdoy := (dayOfYear_range days).1
  have hdays := marchStart_add days
  have hnext := marchStart_add (days + 1)
  have hend := lt_marchStart_succ days
  have hstart := marchStart_succ (marchYear days)
  rw [civilOfDays_eq_ofMarch, civilOfDays_eq_ofMarch]
  by_cases hlast : dayOfYear days + 1 = marchYearLength (marchYear days)
  · have hafter := marchStart_succ (marchYear days + 1)
    have hlength := marchYearLength_range (marchYear days + 1)
    have hyear : marchYear (days + 1) = marchYear days + 1 :=
      marchYear_eq (by omega) (by omega)
    have hfirst : dayOfYear (days + 1) = 0 := by
      rw [hyear] at hnext
      omega
    rw [Date.next_ofMarch_last hlast, hyear, hfirst]
  · have hyear : marchYear (days + 1) = marchYear days := marchYear_eq (by omega) (by omega)
    have hsucc : dayOfYear (days + 1) = dayOfYear days + 1 := by
      rw [hyear] at hnext
      omega
    rw [Date.next_ofMarch hdoy (by omega), hyear, hsucc]

end Calendar
