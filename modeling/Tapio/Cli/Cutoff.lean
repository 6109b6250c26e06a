/-
# The order of timestamps as texts

The commands compare times as texts: a cutoff that chrono writes with as few digits of a
second as are exact, and the timestamps of occurrences, which have none or nine. The date
and the time of day are as wide in every text. Where the fractions differ in width, the
shorter one ends in the sign of the offset, which comes before the dot and before every
digit, as the end of a number should.
-/
import Tapio.Calendar.Order
import Tapio.Cli.Mcp
import Tapio.Sink.Timestamps
import Tapio.Text.Order

namespace Tapio.Cli

open Calendar Common Text

/-! ## How chrono writes a moment -/

/-- A date in a year of four digits. -/
def dayText (date : Date) : List Char :=
  zeroPad 4 date.year.toNat ++ '-' ::
    (zeroPad 2 date.month.toNat ++ '-' :: zeroPad 2 date.day.toNat)

/-- A time of day. -/
def timeText (secs : ℕ) : List Char :=
  zeroPad 2 (secs / 3600) ++ ':' :: (zeroPad 2 (secs % 3600 / 60) ++ ':' :: zeroPad 2 (secs % 60))

/-- The date and the time of day of a second since 1970. -/
def momentText (secs : ℕ) : List Char :=
  dayText (civilOfDays (secs / 86400 : ℕ)) ++ 'T' :: timeText (secs % 86400)

/-- The offset of UTC. -/
def zone : List Char := "+00:00".toList

/-- The fraction of a second in the shortest of zero, three, six and nine digits that is
exact. -/
def shortestFraction (nanos : ℕ) : List Char :=
  if nanos = 0 then []
  else if nanos % 1000000 = 0 then '.' :: zeroPad 3 (nanos / 1000000)
  else if nanos % 1000 = 0 then '.' :: zeroPad 6 (nanos / 1000)
  else '.' :: zeroPad 9 nanos

/-- `to_rfc3339` of a number of nanoseconds since 1970. -/
def toRfc3339 (nanos : ℕ) : String :=
  String.ofList (momentText (nanos / 1000000000) ++
    (shortestFraction (nanos % 1000000000) ++ zone))

example : toRfc3339 1705314600123000000 = "2024-01-15T10:30:00.123+00:00" := by decide +kernel

/-- The first second that has a year of five digits. -/
def endOfYear9999 : ℕ := 253402300800

/-! ## Moments -/

/-- The parts of a date have at most four and two digits. -/
structure Writable (date : Date) : Prop where
  natural : date.Natural
  year : date.year.toNat < 10 ^ 4
  month : date.month.toNat < 10 ^ 2
  day : date.day.toNat < 10 ^ 2

/-- The texts of two dates compare as the dates do, and those of one date by what follows. -/
theorem dayText_append_lt_iff {a b : Date} (ha : Writable a) (hb : Writable b) {s t : List Char} :
    dayText a ++ s < dayText b ++ t ↔ a.Before b ∨ a = b ∧ s < t := by
  simp only [dayText, List.append_assoc, List.cons_append]
  rw [zeroPad_append_lt_iff (by decide) ha.year hb.year, cons_lt_cons_same,
    zeroPad_append_lt_iff (by decide) ha.month hb.month, cons_lt_cons_same,
    zeroPad_append_lt_iff (by decide) ha.day hb.day, ha.natural.before_iff hb.natural,
    ha.natural.eq_iff hb.natural]
  simp only [and_or_left, or_assoc, and_assoc]

/-- The first day that has a year of five digits. -/
def endOfDates : ℕ := 2932897

theorem writable_civilOfDays {days : ℕ} (hdays : days < endOfDates) :
    Writable (civilOfDays days) := by
  have hrange := civilOfDays_range days
  have hyear : (civilOfDays days).year.toNat < 10 ^ 4 := by
    have hbefore := civilOfDays_before (Int.ofNat_lt.mpr hdays)
    have hlast : civilOfDays endOfDates = ⟨10000, 1, 1⟩ := by decide +kernel
    rw [hlast, Date.Before] at hbefore
    dsimp only at hbefore
    omega
  exact ⟨natural_civilOfDays (Int.natCast_nonneg days), hyear, by omega, by omega⟩

theorem timeText_append_lt_iff {a b : ℕ} (ha : a < 86400) (hb : b < 86400) {s t : List Char} :
    timeText a ++ s < timeText b ++ t ↔ a < b ∨ a = b ∧ s < t := by
  have hsecond : ∀ secs, secs % 60 = secs % 3600 % 60 := by omega
  simp only [timeText, List.append_assoc, List.cons_append]
  rw [zeroPad_append_lt_iff (by decide) (by omega) (by omega), cons_lt_cons_same,
    zeroPad_append_lt_iff (by decide) (by omega) (by omega), cons_lt_cons_same,
    zeroPad_append_lt_iff (by decide) (by omega) (by omega), hsecond a, hsecond b, parts_lt_iff,
    parts_lt_iff]

/-- The texts of two moments compare as the moments do, and those of one moment by what
follows. -/
theorem momentText_append_lt_iff {a b : ℕ} (ha : a < endOfYear9999) (hb : b < endOfYear9999)
    {s t : List Char} :
    momentText a ++ s < momentText b ++ t ↔ a < b ∨ a = b ∧ s < t := by
  rw [endOfYear9999] at ha hb
  have hday : Writable (civilOfDays (a / 86400 : ℕ)) :=
    writable_civilOfDays (by rw [endOfDates]; omega)
  have hday' : Writable (civilOfDays (b / 86400 : ℕ)) :=
    writable_civilOfDays (by rw [endOfDates]; omega)
  simp only [momentText, List.append_assoc, List.cons_append]
  rw [dayText_append_lt_iff hday hday', cons_lt_cons_same,
    timeText_append_lt_iff (by omega) (by omega), civilOfDays_before_iff, civilOfDays_inj,
    Int.ofNat_lt, Int.ofNat_inj, parts_lt_iff]

/-! ## Fractions -/

/-- The fraction of a second in nine digits, if there is one. -/
def nineDigits (nanos : ℕ) : List Char := if nanos = 0 then [] else '.' :: zeroPad 9 nanos

/-- The offset comes before a fraction. -/
theorem zone_lt_dot (rest : List Char) : zone < '.' :: rest := by
  exact List.cons_lt_cons_iff.mpr (Or.inl (by decide))

/-- The offset comes before more digits. -/
theorem not_zeroPad_append_lt_zone (width n : ℕ) (rest : List Char) :
    ¬ zeroPad width n ++ rest < zone := by
  cases h : zeroPad width n with
  | nil => exact absurd h (zeroPad_ne_nil width n)
  | cons c digits =>
      have hdigit : c.isDigit := isDigit_zeroPad (h ▸ List.mem_cons_self)
      have hrange := isDigit_iff_toNat.mp hdigit
      have hsign : ¬ c ≤ '+' := by
        intro hle
        have hnat : c.toNat ≤ '+'.toNat := hle
        have hplus : '+'.toNat = 43 := rfl
        omega
      intro hbefore
      rcases List.cons_lt_cons_iff.mp hbefore with hlt | ⟨rfl, -⟩
      · exact hsign hlt.le
      · exact hsign le_rfl

/-- Against a number with fewer digits, nine digits compare as the numbers do. -/
theorem zeroPad_lt_shorter_iff {width rest n c : ℕ} (hwidth : 0 < width) (hrest : 0 < rest)
    (hn : n < 10 ^ (width + rest)) (hc : c < 10 ^ (width + rest)) (hexact : c % 10 ^ rest = 0) :
    zeroPad (width + rest) n ++ zone < zeroPad width (c / 10 ^ rest) ++ zone ↔ n < c := by
  have hpos : 0 < 10 ^ rest := Nat.pow_pos (by decide)
  have hquotient : ∀ {x : ℕ}, x < 10 ^ (width + rest) → x / 10 ^ rest < 10 ^ width := by
    intro x hx
    rw [Nat.pow_add] at hx
    exact Nat.div_lt_of_lt_mul (Nat.mul_comm _ _ ▸ hx)
  have hwhole : c / 10 ^ rest * 10 ^ rest = c := Nat.div_mul_cancel (Nat.dvd_of_mod_eq_zero hexact)
  rw [zeroPad_add hwidth hrest hn, List.append_assoc,
    zeroPad_append_lt_iff hwidth (hquotient hn) (hquotient hc),
    iff_false_intro (not_zeroPad_append_lt_zone _ _ _), and_false, or_false,
    Nat.div_lt_iff_lt_mul hpos, hwhole]

/-- A timestamp's fraction comes before a shortest one exactly if it is less. -/
theorem nineDigits_lt_shortestFraction_iff {n c : ℕ} (hn : n < 1000000000) (hc : c < 1000000000) :
    nineDigits n ++ zone < shortestFraction c ++ zone ↔ n < c := by
  rw [nineDigits, shortestFraction]
  by_cases hwhole : c = 0
  · rw [if_pos hwhole, hwhole]
    by_cases hzero : n = 0
    · simp [hzero]
    · rw [if_neg hzero]
      exact iff_of_false (zone_lt_dot _).not_gt (Nat.not_lt_zero n)
  rw [if_neg hwhole]
  by_cases hzero : n = 0
  · rw [if_pos hzero, hzero]
    refine iff_of_true ?_ (Nat.pos_of_ne_zero hwhole)
    split_ifs <;> exact zone_lt_dot _
  rw [if_neg hzero]
  split_ifs with hmillis hmicros
  · rw [List.cons_append, List.cons_append, cons_lt_cons_same]
    exact @zeroPad_lt_shorter_iff 3 6 n c (by decide) (by decide) hn hc hmillis
  · rw [List.cons_append, List.cons_append, cons_lt_cons_same]
    exact @zeroPad_lt_shorter_iff 6 3 n c (by decide) (by decide) hn hc hmicros
  · rw [List.cons_append, List.cons_append, cons_lt_cons_same,
      zeroPad_append_lt_iff (by decide) hn hc]
    simp

theorem nineDigits_lt_nineDigits_iff {n m : ℕ} (hn : n < 1000000000) (hm : m < 1000000000) :
    nineDigits n ++ zone < nineDigits m ++ zone ↔ n < m := by
  rw [nineDigits, nineDigits]
  split_ifs with hzero hzero' hzero'
  · simp [hzero, hzero']
  · rw [hzero]
    exact iff_of_true (zone_lt_dot _) (Nat.pos_of_ne_zero hzero')
  · rw [hzero']
    exact iff_of_false (zone_lt_dot _).not_gt (Nat.not_lt_zero n)
  · rw [List.cons_append, List.cons_append, cons_lt_cons_same,
      zeroPad_append_lt_iff (by decide) hn hm]
    simp

/-! ## Timestamps -/

/-- A date of words is written as a date. -/
theorem dateText_ofInt {date : Date} (h : Writable date) :
    dateText (Int64.ofInt date.year) (Int64.ofInt date.month) (Int64.ofInt date.day) =
      dayText date := by
  obtain ⟨⟨hyear, hmonth, hday⟩, hyear', hmonth', hday'⟩ := h
  have hword : ∀ {n : ℤ} (width : ℕ), 0 ≤ n → n.toNat < 10 ^ 4 →
      zeroPadInt width (Int64.ofInt n).toInt = zeroPad width n.toNat := by
    intro n width hlow hhigh
    rw [Int64.toInt_ofInt_of_le (by omega) (by omega), zeroPadInt_of_nonneg hlow]
  rw [dateText, hword _ hyear hyear', hword _ hmonth (by omega), hword _ hday (by omega), dayText]

/-- The timestamp of an occurrence, by its parts. -/
theorem unixNanosToRfc3339_eq (nanos : UInt64) :
    unixNanosToRfc3339 nanos =
      String.ofList (momentText (nanos.toNat / 1000000000) ++
        (nineDigits (nanos.toNat % 1000000000) ++ zone)) := by
  have hdays : (nanos / 1000000000 / 86400).toNat = nanos.toNat / 1000000000 / 86400 := by
    rw [UInt64.toNat_div, UInt64.toNat_div]
    rfl
  have hbound := hdays ▸ Sink.toNat_days_le nanos
  have hsubsec := Sink.toNat_subsecNanos nanos
  have hwritable : Writable (civilOfDays (nanos.toNat / 1000000000 / 86400 : ℕ)) :=
    writable_civilOfDays (by rw [endOfDates]; omega)
  have hdate := @civilFromDays_ofInt (nanos / 1000000000 / 86400).toNat ⟨by omega, by omega⟩
  have hzero : (nanos % 1000000000).toUInt32 = 0 ↔ nanos.toNat % 1000000000 = 0 := by
    rw [← UInt32.toNat_inj, hsubsec, UInt64.toNat_mod]
    exact Iff.rfl
  rw [← Sink.toInt64_eq_ofInt, hdays] at hdate
  rw [UInt64.toNat_mod] at hsubsec
  have hzone : zone = "+00:00".toList := rfl
  rw [unixNanosToRfc3339, hzone]
  simp only [hdate, dateText_ofInt hwritable, hzero, hsubsec, clockText, momentText, timeText,
    nineDigits, UInt64.toNat_div, UInt64.toNat_mod, UInt64.reduceToNat]
  split_ifs
  · simp only [List.append_assoc, List.cons_append, List.nil_append]
  · simp only [List.append_assoc, List.cons_append]

theorem toNat_lt_endOfYear9999 (nanos : UInt64) : nanos.toNat / 1000000000 < endOfYear9999 := by
  have hword := nanos.toNat_lt
  rw [endOfYear9999]
  omega

/-- A time compares by its second first. -/
theorem nanos_lt_iff (a b : ℕ) :
    a / 1000000000 < b / 1000000000 ∨
        a / 1000000000 = b / 1000000000 ∧ a % 1000000000 < b % 1000000000 ↔ a < b := by
  omega

theorem unixNanosToRfc3339_lt_iff {n m : UInt64} :
    unixNanosToRfc3339 n < unixNanosToRfc3339 m ↔ n < m := by
  have hn := Nat.mod_lt n.toNat (by decide : 0 < 1000000000)
  have hm := Nat.mod_lt m.toNat (by decide : 0 < 1000000000)
  rw [unixNanosToRfc3339_eq, unixNanosToRfc3339_eq, String.lt_iff_toList_lt, String.toList_ofList,
    String.toList_ofList,
    momentText_append_lt_iff (toNat_lt_endOfYear9999 n) (toNat_lt_endOfYear9999 m),
    nineDigits_lt_nineDigits_iff hn hm, nanos_lt_iff, UInt64.lt_iff_toNat_lt]

theorem toRfc3339_le_iff {c : ℕ} (hc : c / 1000000000 < endOfYear9999) {n : UInt64} :
    toRfc3339 c ≤ unixNanosToRfc3339 n ↔ c ≤ n.toNat := by
  have hfraction := Nat.mod_lt c (by decide : 0 < 1000000000)
  have hn := Nat.mod_lt n.toNat (by decide : 0 < 1000000000)
  rw [← not_lt, ← not_lt, not_iff_not, unixNanosToRfc3339_eq, toRfc3339, String.lt_iff_toList_lt,
    String.toList_ofList, String.toList_ofList,
    momentText_append_lt_iff (toNat_lt_endOfYear9999 n) hc,
    nineDigits_lt_shortestFraction_iff hn hfraction, nanos_lt_iff]

/-- **Texts are in the order of time.** The timestamps of occurrences compare as their
times do, and a timestamp passes a cutoff exactly if the occurrence is not older. -/
theorem timestamps_in_order (n m : UInt64) {c : ℕ} (hc : c / 1000000000 < endOfYear9999) :
    (unixNanosToRfc3339 n < unixNanosToRfc3339 m ↔ n < m) ∧
      (toRfc3339 c ≤ unixNanosToRfc3339 n ↔ c ≤ n.toNat) :=
  ⟨unixNanosToRfc3339_lt_iff, toRfc3339_le_iff hc⟩

/-- Three digits of a fraction against nine. -/
theorem timestamps_in_order_half :
    (unixNanosToRfc3339 1705314600500000000 < unixNanosToRfc3339 1705314600500000001 ↔
        (1705314600500000000 : UInt64) < 1705314600500000001) ∧
      (toRfc3339 1705314600500000000 ≤ unixNanosToRfc3339 1705314600500000000 ↔
        1705314600500000000 ≤ (1705314600500000000 : UInt64).toNat) :=
  timestamps_in_order 1705314600500000000 1705314600500000001 (by decide)

/-! ## Windows and lists -/

section Written

variable {time : Occurrence → UInt64}

/-- The window of an hour holds the occurrences that are not older than its start. -/
theorem recentOccurrences_written {format : OccurrenceFormat} {dir : DataDir}
    (hwritten : ∀ occurrence ∈ loadOccurrences format dir,
      occurrence.timestamp = unixNanosToRfc3339 (time occurrence))
    {c : ℕ} (hc : c / 1000000000 < endOfYear9999) :
    recentOccurrences format dir (toRfc3339 c) =
      (loadOccurrences format dir).filter fun occurrence => c ≤ (time occurrence).toNat := by
  apply List.filter_congr
  intro occurrence hoccurrence
  rw [hwritten occurrence hoccurrence, decide_eq_decide]
  exact toRfc3339_le_iff hc

/-- The anomalies are listed from the latest on. -/
theorem selectAnomalies_latestFirst {occurrences : List Occurrence}
    (hwritten : ∀ occurrence ∈ occurrences,
      occurrence.timestamp = unixNanosToRfc3339 (time occurrence))
    (cutoff observer severity : String) :
    (selectAnomalies cutoff observer severity occurrences).Pairwise fun a b => time b ≤ time a := by
  have hmem : ∀ occurrence ∈ selectAnomalies cutoff observer severity occurrences,
      occurrence ∈ occurrences := by
    intro occurrence h
    rw [selectAnomalies, List.mem_mergeSort] at h
    split_ifs at h <;> simp only [List.mem_filter] at h
    · exact h.1
    · exact h.1.1
    · exact h.1.1
    · exact h.1.1.1
  have hsorted : (selectAnomalies cutoff observer severity occurrences).Pairwise
      fun a b => b.timestamp ≤ a.timestamp := by
    refine (List.pairwise_mergeSort ?_ ?_ _).imp fun h => of_decide_eq_true h
    · intro a b d hab hbd
      exact decide_eq_true ((of_decide_eq_true hbd).trans (of_decide_eq_true hab))
    · intro a b
      rcases le_total b.timestamp a.timestamp with h | h <;> simp [h]
  refine hsorted.imp_of_mem fun {a b} ha hb h => ?_
  rw [hwritten a (hmem a ha), hwritten b (hmem b hb), ← not_lt, unixNanosToRfc3339_lt_iff] at h
  exact UInt64.not_lt.mp h

end Written

end Tapio.Cli
