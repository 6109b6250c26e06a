/-
# Dates in order

Later days have later dates. Within an era the years are in order, within a year the
months, counted from March, and within a month the days. The two months that belong to the
next year come last.
-/
import Tapio.Calendar.Civil

namespace Calendar

/-- One date is before another: by year, then by month, then by day. -/
def Date.Before (a b : Date) : Prop :=
  a.year < b.year ∨
    a.year = b.year ∧ (a.month < b.month ∨ a.month = b.month ∧ a.day < b.day)

/-- The year, counted from March, in which a day lies. -/
def marchYear (days : ℤ) : ℤ := yearOfEra (dayOfEra days) + eraOfDays days * 400

/-- The date of a day of a year that is counted from March. -/
def Date.ofMarch (year doy : ℤ) : Date where
  year := if monthOfYear doy < 10 then year else year + 1
  month := if monthOfYear doy < 10 then monthOfYear doy + 3 else monthOfYear doy - 9
  day := doy - monthStart (monthOfYear doy) + 1

theorem civilOfDays_eq_ofMarch (days : ℤ) :
    civilOfDays days = Date.ofMarch (marchYear days) (dayOfYear days) := by
  have hrange := monthOfYear_range days
  rw [civilOfDays, Date.ofMarch, marchYear]
  congr 1
  split_ifs <;> omega

theorem yearOfEra_mono {doe doe' : ℤ} (hle : doe ≤ doe') : yearOfEra doe ≤ yearOfEra doe' := by
  have hcommon : doe - doe / 1460 ≤ doe' - doe' / 1460 := by omega
  have hcentury : doe / 36524 ≤ doe' / 36524 := by omega
  have hlast : ∀ d : ℤ, d / 146096 = d / 36524 / 4 := by omega
  rw [yearOfEra, yearOfEra, hlast, hlast]
  exact Int.ediv_le_ediv (by decide) (by omega)

theorem marchYear_mono {days days' : ℤ} (hle : days ≤ days') :
    marchYear days ≤ marchYear days' := by
  have hfirst := dayOfEra_range days
  have hlast := dayOfEra_range days'
  have hyoe := yearOfEra_range hfirst.1 hfirst.2
  have hyoe' := yearOfEra_range hlast.1 hlast.2
  have hera : eraOfDays days ≤ eraOfDays days' := by
    rw [eraOfDays, eraOfDays]
    omega
  rw [marchYear, marchYear]
  rcases Int.lt_or_eq_of_le hera with hlt | heq
  · omega
  · have hdoe : dayOfEra days ≤ dayOfEra days' := by
      rw [dayOfEra, dayOfEra, heq]
      omega
    have hmono := yearOfEra_mono hdoe
    omega

/-- Within a year the days are counted on. -/
theorem dayOfYear_sub {days days' : ℤ} (h : marchYear days = marchYear days') :
    dayOfYear days' - dayOfYear days = days' - days := by
  have hfirst := dayOfEra_range days
  have hlast := dayOfEra_range days'
  have hyoe := yearOfEra_range hfirst.1 hfirst.2
  have hyoe' := yearOfEra_range hlast.1 hlast.2
  rw [marchYear, marchYear] at h
  have hera : eraOfDays days = eraOfDays days' := by omega
  have hyear : yearOfEra (dayOfEra days) = yearOfEra (dayOfEra days') := by omega
  rw [dayOfYear, dayOfYear, hyear, dayOfEra, dayOfEra, hera]
  omega

theorem monthOfYear_mono {doy doy' : ℤ} (hle : doy ≤ doy') :
    monthOfYear doy ≤ monthOfYear doy' := by
  rw [monthOfYear, monthOfYear]
  omega

/-- **Later days have later dates.** -/
theorem civilOfDays_before {days days' : ℤ} (h : days < days') :
    (civilOfDays days).Before (civilOfDays days') := by
  have hyears := marchYear_mono (Int.le_of_lt h)
  have hmp := monthOfYear_range days
  have hmp' := monthOfYear_range days'
  rw [civilOfDays_eq_ofMarch, civilOfDays_eq_ofMarch, Date.Before, Date.ofMarch, Date.ofMarch]
  dsimp only
  rcases Int.lt_or_eq_of_le hyears with hlt | heq
  · split_ifs <;> omega
  · have hcount := dayOfYear_sub heq
    have hmonths : monthOfYear (dayOfYear days) ≤ monthOfYear (dayOfYear days') :=
      monthOfYear_mono (by omega)
    rcases Int.lt_or_eq_of_le hmonths with hlt | hsame
    · split_ifs <;> omega
    · rw [hsame]
      split_ifs <;> omega

theorem Date.Before.asymm {a b : Date} (h : a.Before b) : ¬ b.Before a := by
  rw [Before] at h ⊢
  omega

/-- Dates are in the order of the days. -/
theorem civilOfDays_before_iff {days days' : ℤ} :
    (civilOfDays days).Before (civilOfDays days') ↔ days < days' := by
  apply Iff.intro
  · intro h
    rcases Int.lt_trichotomy days days' with hlt | rfl | hgt
    · exact hlt
    · exact absurd h h.asymm
    · exact absurd h (civilOfDays_before hgt).asymm
  · exact civilOfDays_before

theorem civilOfDays_inj {days days' : ℤ} : civilOfDays days = civilOfDays days' ↔ days = days' :=
  ⟨fun h => by rw [← daysOfCivil_civilOfDays days, h, daysOfCivil_civilOfDays], fun h => h ▸ rfl⟩

/-- No part of a date is negative. -/
structure Date.Natural (date : Date) : Prop where
  year : 0 ≤ date.year
  month : 0 ≤ date.month
  day : 0 ≤ date.day

theorem natural_civilOfDays {days : ℤ} (hdays : 0 ≤ days) : (civilOfDays days).Natural := by
  have hrange := civilOfDays_range days
  have hyear := civilOfDays_year_range hdays
  exact ⟨hyear.1, by omega, by omega⟩

/-- The parts of a date compare as natural numbers. -/
theorem Date.Natural.before_iff {a b : Date} (ha : a.Natural) (hb : b.Natural) :
    a.Before b ↔
      a.year.toNat < b.year.toNat ∨ a.year.toNat = b.year.toNat ∧
        (a.month.toNat < b.month.toNat ∨ a.month.toNat = b.month.toNat ∧
          a.day.toNat < b.day.toNat) := by
  obtain ⟨hyear, hmonth, hday⟩ := ha
  obtain ⟨hyear', hmonth', hday'⟩ := hb
  rw [Before]
  omega

theorem Date.Natural.eq_iff {a b : Date} (ha : a.Natural) (hb : b.Natural) :
    a = b ↔ a.year.toNat = b.year.toNat ∧ a.month.toNat = b.month.toNat ∧
      a.day.toNat = b.day.toNat := by
  obtain ⟨hyear, hmonth, hday⟩ := ha
  obtain ⟨hyear', hmonth', hday'⟩ := hb
  cases a
  cases b
  rw [Date.mk.injEq]
  dsimp only at *
  omega

end Calendar
