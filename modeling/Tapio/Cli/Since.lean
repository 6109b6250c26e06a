/-
# The window of `recent`

`--since` takes a number and a unit, and every other text should be refused with an error.
The text is cut one byte short of its end, which panics where the last character has more
than one; chrono panics on a span that its durations cannot hold, and on a cutoff before its
first date.
-/
import Tapio.Cli.Mcp
import Tapio.Text.Boundary

namespace Tapio.Cli

open Common Text

/-! ## Parsing -/

/-- The nanoseconds of a number of units; `none` if it panics. -/
def durationUnits (unitSeconds : ℤ) (num : Int64) : Option ℤ :=
  if |num.toInt * unitSeconds| ≤ durationMaxSeconds then some (num.toInt * unitSeconds * 10 ^ 9)
  else none

/-- What is made of the two parts of a text. -/
def durationOfParts (s numStr unit : String) : Option (Except String ℤ) :=
  match parseI64 numStr with
  | none => some (.error ("invalid duration number: " ++ numStr))
  | some num =>
      if num ≤ 0 then some (.error ("duration must be positive: " ++ s))
      else if unit = "s" then (durationUnits 1 num).map .ok
      else if unit = "m" then (durationUnits 60 num).map .ok
      else if unit = "h" then (durationUnits 3600 num).map .ok
      else if unit = "d" then (durationUnits 86400 num).map .ok
      else some (.error ("unknown duration unit: " ++ unit ++ " (use s/m/h/d)"))

/-- The nanoseconds of a window; `none` if it panics. -/
def parseDuration (since : String) : Option (Except String ℤ) :=
  let s := trim since
  if s.utf8ByteSize < 2 then some (.error ("invalid duration: " ++ s))
  else
    match takeBytes (s.utf8ByteSize - 1) s.toList with
    | none => none
    | some front =>
        durationOfParts s (String.ofList front) (String.ofList (s.toList.drop front.length))

/-- The moment before which an occurrence is not recent. -/
def recentCutoff (now : ℤ) (since : String) : Option (Except String ℤ) :=
  (parseDuration since).bind fun
    | .error error => some (.error error)
    | .ok duration => (subtract now duration).map .ok

/-! ## What is a window -/

def unitSeconds : Char → Option ℤ
  | 's' => some 1
  | 'm' => some 60
  | 'h' => some 3600
  | 'd' => some 86400
  | _ => none

/-- A positive number and a unit, with whitespace around, and the seconds they stand for. -/
def Spells (since : String) (seconds : ℤ) : Prop :=
  ∃ number unit num size, trim since = String.ofList (number ++ [unit]) ∧
    parseI64 (String.ofList number) = some num ∧ 0 < num ∧ unitSeconds unit = some size ∧
    seconds = num.toInt * size

/-- A span that a duration can hold. -/
def Representable (seconds : ℤ) : Prop := |seconds| ≤ durationMaxSeconds

/-- Exactly the windows are accepted, and nothing panics. -/
structure TotalAndExact (now : ℤ) (since : String) : Prop where
  total : recentCutoff now since ≠ none
  exact : ∀ duration, parseDuration since = some (.ok duration) ↔
    ∃ seconds, Spells since seconds ∧ Representable seconds ∧ duration = seconds * 10 ^ 9
  refused : (¬ ∃ seconds, Spells since seconds ∧ Representable seconds) →
    ∃ error, parseDuration since = some (.error error)

/-- The last character is a single byte, if there is more than a byte. -/
def Cuttable (s : String) : Prop :=
  s.utf8ByteSize < 2 ∨ ∀ c ∈ s.toList.getLast?, c.utf8Size = 1

/-- The cutoff is a date. -/
def Dated (now seconds : ℤ) : Prop :=
  minUtc ≤ now - seconds * 10 ^ 9 ∧ now - seconds * 10 ^ 9 ≤ maxUtc

/-! ## The parts -/

/-- The unit is one character, and a known one is a single byte. -/
theorem utf8Size_of_unitSeconds {unit : Char} {size : ℤ} (h : unitSeconds unit = some size) :
    unit.utf8Size = 1 := by
  unfold unitSeconds at h
  split at h <;> first | rfl | cases h

/-- The units, as the code tries them one after the other. -/
theorem unitSeconds_eq (unit : Char) :
    unitSeconds unit =
      if unit = 's' then some 1
      else if unit = 'm' then some 60
      else if unit = 'h' then some 3600
      else if unit = 'd' then some 86400
      else none := by
  unfold unitSeconds
  split
  · rfl
  · rfl
  · rfl
  · rfl
  · next hsecond hminute hhour hday =>
      rw [if_neg hsecond, if_neg hminute, if_neg hhour, if_neg hday]

theorem durationOfParts_char (s numStr : String) (unit : Char) :
    durationOfParts s numStr (String.ofList [unit]) =
      match parseI64 numStr with
      | none => some (.error ("invalid duration number: " ++ numStr))
      | some num =>
          if num ≤ 0 then some (.error ("duration must be positive: " ++ s))
          else
            match unitSeconds unit with
            | none =>
                some (.error ("unknown duration unit: " ++ String.ofList [unit] ++
                  " (use s/m/h/d)"))
            | some size => (durationUnits size num).map .ok := by
  have hunit : ∀ c : Char, String.ofList [unit] = String.ofList [c] ↔ unit = c := by
    intro c
    rw [String.ofList_inj, List.singleton_inj]
  have hs : String.ofList [unit] = "s" ↔ unit = 's' := hunit 's'
  have hm : String.ofList [unit] = "m" ↔ unit = 'm' := hunit 'm'
  have hh : String.ofList [unit] = "h" ↔ unit = 'h' := hunit 'h'
  have hd : String.ofList [unit] = "d" ↔ unit = 'd' := hunit 'd'
  simp only [durationOfParts, hs, hm, hh, hd, unitSeconds_eq]
  cases parseI64 numStr with
  | none => rfl
  | some num => split_ifs <;> rfl

/-- A positive number and a unit are read as their span. -/
theorem durationOfParts_window {s numStr : String} {unit : Char} {num : Int64} {size : ℤ}
    (hnum : parseI64 numStr = some num) (hpos : 0 < num) (hsize : unitSeconds unit = some size) :
    durationOfParts s numStr (String.ofList [unit]) = (durationUnits size num).map .ok := by
  rw [durationOfParts_char]
  simp only [hnum, hsize, if_neg (Int64.not_le.mpr hpos)]

/-- Other parts are refused. -/
theorem durationOfParts_error {s numStr : String} {unit : Char}
    (h : ¬ ∃ num size, parseI64 numStr = some num ∧ 0 < num ∧ unitSeconds unit = some size) :
    ∃ error, durationOfParts s numStr (String.ofList [unit]) = some (.error error) := by
  rw [durationOfParts_char]
  cases hnum : parseI64 numStr with
  | none => exact ⟨_, rfl⟩
  | some num =>
      by_cases hpos : num ≤ 0
      · simp only [if_pos hpos]
        exact ⟨_, rfl⟩
      · cases hsize : unitSeconds unit with
        | none =>
            simp only [if_neg hpos]
            exact ⟨_, rfl⟩
        | some size => exact absurd ⟨num, size, hnum, Int64.not_le.mp hpos, hsize⟩ h

theorem durationUnits_eq_some_iff {size duration : ℤ} {num : Int64} :
    durationUnits size num = some duration ↔
      Representable (num.toInt * size) ∧ duration = num.toInt * size * 10 ^ 9 := by
  rw [durationUnits, Option.ite_none_right_eq_some, Option.some.injEq,
    eq_comm (b := duration)]
  exact Iff.rfl

theorem durationUnits_eq_none_iff {size : ℤ} {num : Int64} :
    durationUnits size num = none ↔ ¬ Representable (num.toInt * size) := by
  rw [durationUnits, ite_eq_right_iff]
  exact ⟨fun h hrep => Option.some_ne_none _ (h hrep), fun h hrep => absurd hrep h⟩

/-- A number and a unit are accepted if their span is representable. -/
theorem durationOfParts_eq_ok_iff {s numStr : String} {unit : Char} {duration : ℤ} :
    durationOfParts s numStr (String.ofList [unit]) = some (.ok duration) ↔
      ∃ num size, parseI64 numStr = some num ∧ 0 < num ∧ unitSeconds unit = some size ∧
        Representable (num.toInt * size) ∧ duration = num.toInt * size * 10 ^ 9 := by
  apply Iff.intro
  · intro hok
    by_cases h : ∃ num size, parseI64 numStr = some num ∧ 0 < num ∧ unitSeconds unit = some size
    · obtain ⟨num, size, hnum, hpos, hsize⟩ := h
      rw [durationOfParts_window hnum hpos hsize, Option.map_eq_some_iff] at hok
      obtain ⟨span, hspan, hsame⟩ := hok
      cases hsame
      exact ⟨num, size, hnum, hpos, hsize, durationUnits_eq_some_iff.mp hspan⟩
    · obtain ⟨error, herror⟩ := durationOfParts_error (s := s) h
      rw [herror] at hok
      cases hok
  · rintro ⟨num, size, hnum, hpos, hsize, hspan⟩
    rw [durationOfParts_window hnum hpos hsize, durationUnits_eq_some_iff.mpr hspan]
    rfl

/-- They panic if it is not. -/
theorem durationOfParts_eq_none_iff {s numStr : String} {unit : Char} :
    durationOfParts s numStr (String.ofList [unit]) = none ↔
      ∃ num size, parseI64 numStr = some num ∧ 0 < num ∧ unitSeconds unit = some size ∧
        ¬ Representable (num.toInt * size) := by
  apply Iff.intro
  · intro hnone
    by_cases h : ∃ num size, parseI64 numStr = some num ∧ 0 < num ∧ unitSeconds unit = some size
    · obtain ⟨num, size, hnum, hpos, hsize⟩ := h
      rw [durationOfParts_window hnum hpos hsize, Option.map_eq_none_iff] at hnone
      exact ⟨num, size, hnum, hpos, hsize, durationUnits_eq_none_iff.mp hnone⟩
    · obtain ⟨error, herror⟩ := durationOfParts_error (s := s) h
      rw [herror] at hnone
      cases hnone
  · rintro ⟨num, size, hnum, hpos, hsize, hrep⟩
    rw [durationOfParts_window hnum hpos hsize, durationUnits_eq_none_iff.mpr hrep]
    rfl

/-! ## The whole text -/

/-- A text of more than a byte, by its last character. -/
theorem parseDuration_concat {since : String} {front : List Char} {last : Char}
    (htrim : trim since = String.ofList (front ++ [last]))
    (hlong : ¬ (trim since).utf8ByteSize < 2) :
    parseDuration since =
      if last.utf8Size = 1 then
        durationOfParts (trim since) (String.ofList front) (String.ofList [last])
      else none := by
  have hsize : (trim since).utf8ByteSize = String.utf8Len (front ++ [last]) := by
    rw [htrim, String.utf8ByteSize_ofList]
  have hchars : (trim since).toList = front ++ [last] := by
    rw [htrim, String.toList_ofList]
  simp only [parseDuration, if_neg hlong]
  rw [hsize, hchars, takeBytes_concat]
  split_ifs
  · simp only [List.drop_left]
  · rfl

theorem spells_iff {since : String} {front : List Char} {last : Char}
    (htrim : trim since = String.ofList (front ++ [last])) {seconds : ℤ} :
    Spells since seconds ↔
      ∃ num size, parseI64 (String.ofList front) = some num ∧ 0 < num ∧
        unitSeconds last = some size ∧ seconds = num.toInt * size := by
  apply Iff.intro
  · rintro ⟨number, unit, num, size, hspelled, hnum, hpos, hsize, rfl⟩
    rw [htrim, String.ofList_inj] at hspelled
    obtain ⟨rfl, hunit⟩ := List.append_inj' hspelled rfl
    cases hunit
    exact ⟨num, size, hnum, hpos, hsize, rfl⟩
  · rintro ⟨num, size, hnum, hpos, hsize, rfl⟩
    exact ⟨front, last, num, size, htrim, hnum, hpos, hsize, rfl⟩

/-- A window has a digit and a unit, so more than a byte. -/
theorem Spells.not_short {since : String} {seconds : ℤ} (h : Spells since seconds) :
    ¬ (trim since).utf8ByteSize < 2 := by
  obtain ⟨number, unit, num, size, htrim, hnum, -, -, -⟩ := h
  have hne : number ≠ [] := by
    rintro rfl
    cases hnum
  have hfront : 0 < String.utf8Len number :=
    Nat.pos_of_ne_zero (mt String.utf8Len_eq_zero.mp hne)
  have hlast := unit.utf8Size_pos
  rw [htrim, String.utf8ByteSize_ofList]
  simp only [String.utf8Len_append, String.utf8Len_cons, String.utf8Len_nil]
  omega

/-- A text is short or has a last character. -/
theorem exists_concat_of_long {s : String} (hlong : ¬ s.utf8ByteSize < 2) :
    ∃ front last, s = String.ofList (front ++ [last]) := by
  have hne : s.toList ≠ [] := by
    intro h
    rw [← utf8Len_toList, h] at hlong
    exact hlong (by decide)
  refine ⟨s.toList.dropLast, s.toList.getLast hne, ?_⟩
  rw [List.dropLast_append_getLast hne, String.ofList_toList]

theorem cuttable_iff_of_long {since : String} {front : List Char} {last : Char}
    (htrim : trim since = String.ofList (front ++ [last]))
    (hlong : ¬ (trim since).utf8ByteSize < 2) :
    Cuttable (trim since) ↔ last.utf8Size = 1 := by
  rw [Cuttable, or_iff_right hlong, htrim, String.toList_ofList]
  simp

/-- Exactly the representable windows are accepted. -/
theorem parseDuration_eq_ok_iff {since : String} {duration : ℤ} :
    parseDuration since = some (.ok duration) ↔
      ∃ seconds, Spells since seconds ∧ Representable seconds ∧ duration = seconds * 10 ^ 9 := by
  by_cases hshort : (trim since).utf8ByteSize < 2
  · have herror : parseDuration since = some (.error ("invalid duration: " ++ trim since)) :=
      if_pos hshort
    rw [herror]
    refine iff_of_false (by simp) ?_
    rintro ⟨seconds, hspells, -⟩
    exact hspells.not_short hshort
  · obtain ⟨front, last, htrim⟩ := exists_concat_of_long hshort
    simp only [parseDuration_concat htrim hshort, spells_iff htrim]
    split_ifs with hone
    · rw [durationOfParts_eq_ok_iff]
      apply Iff.intro
      · rintro ⟨num, size, hnum, hpos, hsize, hrep, hduration⟩
        exact ⟨_, ⟨num, size, hnum, hpos, hsize, rfl⟩, hrep, hduration⟩
      · rintro ⟨_, ⟨num, size, hnum, hpos, hsize, rfl⟩, hrep, hduration⟩
        exact ⟨num, size, hnum, hpos, hsize, hrep, hduration⟩
    · refine iff_of_false not_false ?_
      rintro ⟨_, ⟨num, size, hnum, hpos, hsize, rfl⟩, -⟩
      exact hone (utf8Size_of_unitSeconds hsize)

/-- Parsing panics on a text that cannot be cut and on a window that is too long. -/
theorem parseDuration_eq_none_iff {since : String} :
    parseDuration since = none ↔
      ¬ Cuttable (trim since) ∨ ∃ seconds, Spells since seconds ∧ ¬ Representable seconds := by
  by_cases hshort : (trim since).utf8ByteSize < 2
  · have herror : parseDuration since = some (.error ("invalid duration: " ++ trim since)) :=
      if_pos hshort
    rw [herror]
    refine iff_of_false (Option.some_ne_none _) ?_
    rintro (hcut | ⟨seconds, hspells, -⟩)
    · exact hcut (Or.inl hshort)
    · exact hspells.not_short hshort
  · obtain ⟨front, last, htrim⟩ := exists_concat_of_long hshort
    simp only [parseDuration_concat htrim hshort, spells_iff htrim,
      cuttable_iff_of_long htrim hshort]
    split_ifs with hone
    · rw [durationOfParts_eq_none_iff]
      apply Iff.intro
      · rintro ⟨num, size, hnum, hpos, hsize, hrep⟩
        exact Or.inr ⟨_, ⟨num, size, hnum, hpos, hsize, rfl⟩, hrep⟩
      · rintro (hcut | ⟨_, ⟨num, size, hnum, hpos, hsize, rfl⟩, hrep⟩)
        · exact absurd hone hcut
        · exact ⟨num, size, hnum, hpos, hsize, hrep⟩
    · exact iff_of_true rfl (Or.inl hone)

theorem recentCutoff_ne_none_iff {now : ℤ} {since : String} :
    recentCutoff now since ≠ none ↔
      parseDuration since ≠ none ∧
        ∀ duration, parseDuration since = some (.ok duration) → subtract now duration ≠ none := by
  rw [recentCutoff]
  rcases parseDuration since with _ | _ | duration <;> simp

/-- **When the window parser is total and exact.** The text must be short or end in a
character of one byte, and a window must be representable and reach back to a date. -/
theorem totalAndExact_iff (now : ℤ) (since : String) :
    TotalAndExact now since ↔
      Cuttable (trim since) ∧
        ∀ seconds, Spells since seconds → Representable seconds ∧ Dated now seconds := by
  have hdated : ∀ seconds, subtract now (seconds * 10 ^ 9) ≠ none ↔ Dated now seconds := by
    intro seconds
    rw [subtract, Dated]
    split_ifs with h
    · exact iff_of_true (Option.some_ne_none _) h
    · exact iff_of_false (fun hne => hne rfl) h
  apply Iff.intro
  · intro h
    obtain ⟨hparsed, hsubtracted⟩ := recentCutoff_ne_none_iff.mp h.total
    rw [Ne, parseDuration_eq_none_iff, not_or, not_not] at hparsed
    refine ⟨hparsed.1, fun seconds hspells => ?_⟩
    have hrep : Representable seconds := by
      by_contra hrep
      exact hparsed.2 ⟨seconds, hspells, hrep⟩
    have hok := parseDuration_eq_ok_iff.mpr ⟨seconds, hspells, hrep, rfl⟩
    exact ⟨hrep, (hdated seconds).mp (hsubtracted _ hok)⟩
  · rintro ⟨hcut, hwindow⟩
    have hparsed : parseDuration since ≠ none := by
      rw [Ne, parseDuration_eq_none_iff]
      rintro (huncut | ⟨seconds, hspells, hrep⟩)
      · exact huncut hcut
      · exact hrep (hwindow seconds hspells).1
    refine ⟨recentCutoff_ne_none_iff.mpr ⟨hparsed, ?_⟩, fun _ => parseDuration_eq_ok_iff, ?_⟩
    · intro duration hok
      obtain ⟨seconds, hspells, -, rfl⟩ := parseDuration_eq_ok_iff.mp hok
      exact (hdated seconds).mpr (hwindow seconds hspells).2
    · intro hnone
      rcases h : parseDuration since with _ | error | duration
      · exact absurd h hparsed
      · exact ⟨error, rfl⟩
      · obtain ⟨seconds, hspells, hrep, -⟩ := parseDuration_eq_ok_iff.mp h
        exact absurd ⟨seconds, hspells, hrep⟩ hnone

/-- Noon on the first of July 2026. -/
def noon : ℤ := 1782907200 * 10 ^ 9

/-- Microseconds panic, and so do spans that no duration holds and cutoffs that no date is. -/
theorem not_totalAndExact_noon :
    ¬ TotalAndExact noon "5µ" ∧ ¬ TotalAndExact noon "9223372036854775807d" ∧
      ¬ TotalAndExact noon "100000000d" :=
  ⟨fun h => h.total (by decide +kernel), fun h => h.total (by decide +kernel),
    fun h => h.total (by decide +kernel)⟩

end Tapio.Cli
