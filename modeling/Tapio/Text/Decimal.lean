/-
# Decimal numbers, written and read

The digits of a number, plain or padded with zeros to a width as in a time stamp, and
what the parsers read from them.
-/
import Tapio.Text.Rust

namespace Text

/-- The digits of a number, padded with zeros to a width. -/
def zeroPad (width n : ℕ) : List Char :=
  List.replicate (width - (Nat.toDigits 10 n).length) '0' ++ Nat.toDigits 10 n

/-- An integer, padded likewise. The sign counts as part of the width. -/
def zeroPadInt (width : ℕ) (n : ℤ) : List Char :=
  if 0 ≤ n then zeroPad width n.toNat else '-' :: zeroPad (width - 1) (-n).toNat

/-! ## Lists of digits -/

theorem digitsValue_eq_ofDigitChars (digits : List Char) :
    digitsValue digits = Nat.ofDigitChars 10 digits 0 :=
  Nat.ofDigitChars_eq_foldl.symm

@[simp]
theorem digitsValue_toDigits (n : ℕ) : digitsValue (Nat.toDigits 10 n) = n := by
  rw [digitsValue_eq_ofDigitChars, Nat.ofDigitChars_ten_toDigits]

theorem isDigit_iff_toNat {c : Char} : c.isDigit ↔ 48 ≤ c.toNat ∧ c.toNat ≤ 57 := by
  simp [Char.isDigit, UInt32.le_iff_toNat_le]

theorem isLower_iff_toNat {c : Char} : c.isLower ↔ 97 ≤ c.toNat ∧ c.toNat ≤ 122 := by
  have hrange : c.isLower = (97 ≤ c.val && c.val ≤ 122) := rfl
  simp [hrange, UInt32.le_iff_toNat_le]

theorem isUpper_iff_toNat {c : Char} : c.isUpper ↔ 65 ≤ c.toNat ∧ c.toNat ≤ 90 := by
  have hrange : c.isUpper = decide (65 ≤ c.val ∧ c.val ≤ 90) := rfl
  simp [hrange, UInt32.le_iff_toNat_le]

theorem isDigit_toDigits {n : ℕ} {c : Char} (hc : c ∈ Nat.toDigits 10 n) : c.isDigit :=
  Nat.isDigit_of_mem_toDigits (by decide) (by decide) hc

@[simp]
theorem digitsValue_zeroPad (width n : ℕ) : digitsValue (zeroPad width n) = n := by
  rw [digitsValue_eq_ofDigitChars, zeroPad, Nat.ofDigitChars_append,
    Nat.ofDigitChars_replicate_zero, Nat.mul_zero, Nat.ofDigitChars_ten_toDigits]

theorem isDigit_zeroPad {width n : ℕ} {c : Char} (hc : c ∈ zeroPad width n) : c.isDigit := by
  rcases List.mem_append.mp hc with hc | hc
  · rw [(List.mem_replicate.mp hc).2]
    rfl
  · exact isDigit_toDigits hc

theorem not_mem_zeroPad {c : Char} (hc : c.isDigit = false) (width n : ℕ) :
    c ∉ zeroPad width n := by
  intro hmem
  rw [isDigit_zeroPad hmem] at hc
  cases hc

theorem zeroPad_ne_nil (width n : ℕ) : zeroPad width n ≠ [] :=
  List.append_ne_nil_of_right_ne_nil _ Nat.toDigits_ne_nil

/-- Numbers that fit the width are padded to exactly that. -/
theorem length_zeroPad {width n : ℕ} (hwidth : 0 < width) (hn : n < 10 ^ width) :
    (zeroPad width n).length = width := by
  have hlength := (Nat.length_toDigits_le_iff (by decide : 1 < 10) hwidth).mpr hn
  rw [zeroPad, List.length_append, List.length_replicate]
  omega

theorem zeroPadInt_of_nonneg {n : ℤ} (hn : 0 ≤ n) (width : ℕ) :
    zeroPadInt width n = zeroPad width n.toNat := if_pos hn

/-! ## Parsing -/

/-- A list of digits is no sign and more digits. -/
theorem ne_cons_of_isDigit {digits : List Char} (hdigits : ∀ c ∈ digits, c.isDigit)
    {sign : Char} (hsign : sign.isDigit = false) (rest : List Char) :
    digits ≠ sign :: rest := by
  rintro rfl
  rw [hdigits sign List.mem_cons_self] at hsign
  cases hsign

/-- Digits with a value below the bound are not refused. -/
theorem digits_accepted {digits : List Char} (hne : digits ≠ [])
    (hdigits : ∀ c ∈ digits, c.isDigit) {bound : ℕ} (hvalue : digitsValue digits < bound) :
    ¬ (digits = [] ∨ ¬ digits.all Char.isDigit ∨ digitsValue digits ≥ bound) := by
  rintro (hempty | hother | hlarge)
  · exact hne hempty
  · exact hother (List.all_eq_true.mpr hdigits)
  · exact Nat.not_lt.mpr hlarge hvalue

theorem parseU16_digits {digits : List Char} (hne : digits ≠ [])
    (hdigits : ∀ c ∈ digits, c.isDigit) (hvalue : digitsValue digits < 2 ^ 16) :
    parseU16 (String.ofList digits) = some (UInt16.ofNat (digitsValue digits)) := by
  have hplus := ne_cons_of_isDigit hdigits (rfl : '+'.isDigit = false)
  rw [parseU16, String.toList_ofList]
  split
  · next rest => exact absurd rfl (hplus rest)
  · exact if_neg (digits_accepted hne hdigits hvalue)

theorem parseU32_digits {digits : List Char} (hne : digits ≠ [])
    (hdigits : ∀ c ∈ digits, c.isDigit) (hvalue : digitsValue digits < 2 ^ 32) :
    parseU32 (String.ofList digits) = some (UInt32.ofNat (digitsValue digits)) := by
  have hplus := ne_cons_of_isDigit hdigits (rfl : '+'.isDigit = false)
  rw [parseU32, String.toList_ofList]
  split
  · next rest => exact absurd rfl (hplus rest)
  · exact if_neg (digits_accepted hne hdigits hvalue)

theorem parseU64_digits {digits : List Char} (hne : digits ≠ [])
    (hdigits : ∀ c ∈ digits, c.isDigit) (hvalue : digitsValue digits < 2 ^ 64) :
    parseU64 (String.ofList digits) = some (UInt64.ofNat (digitsValue digits)) := by
  have hplus := ne_cons_of_isDigit hdigits (rfl : '+'.isDigit = false)
  rw [parseU64, String.toList_ofList]
  split
  · next rest => exact absurd rfl (hplus rest)
  · exact if_neg (digits_accepted hne hdigits hvalue)

theorem parseI64_digits {digits : List Char} (hne : digits ≠ [])
    (hdigits : ∀ c ∈ digits, c.isDigit) (hvalue : digitsValue digits < 2 ^ 63) :
    parseI64 (String.ofList digits) = some (Int64.ofInt (digitsValue digits)) := by
  have hplus := ne_cons_of_isDigit hdigits (rfl : '+'.isDigit = false)
  have hminus := ne_cons_of_isDigit hdigits (rfl : '-'.isDigit = false)
  have hall : digits.all Char.isDigit = true := List.all_eq_true.mpr hdigits
  rw [parseI64, String.toList_ofList]
  split
  next negative found hsigned =>
    split at hsigned
    · next rest => exact absurd rfl (hminus rest)
    · next rest => exact absurd rfl (hplus rest)
    · cases hsigned
      rw [if_neg]
      · simp
      · have hfits :
            ¬ ((digitsValue digits : ℤ) < -2 ^ 63 ∨ (digitsValue digits : ℤ) ≥ 2 ^ 63) := by
          omega
        simpa [hne, hall] using hfits

/-- A word that is written out is read back. -/
theorem parseU32_toString (n : UInt32) : parseU32 (toString n) = some n := by
  have hdigits : toString n = String.ofList (Nat.toDigits 10 n.toNat) :=
    Nat.repr_eq_ofList_toDigits
  rw [hdigits, parseU32_digits Nat.toDigits_ne_nil (fun _ => isDigit_toDigits)]
  · simp
  · rw [digitsValue_toDigits]
    exact n.toNat_lt

theorem not_isWhitespace_of_isDigit {c : Char} (hc : c.isDigit) : isWhitespace c = false := by
  obtain ⟨hlow, hhigh⟩ := Char.isDigit_iff_toNat.mp hc
  rw [show '0'.toNat = 48 from rfl] at hlow
  rw [show '9'.toNat = 57 from rfl] at hhigh
  simp only [isWhitespace, Bool.or_eq_false_iff, Bool.and_eq_false_iff, decide_eq_false_iff_not,
    beq_eq_false_iff_ne]
  omega

/-- A word that is written out has no whitespace to trim. -/
theorem trim_toString (n : UInt32) : trim (toString n) = toString n := by
  have hdigits : (toString n).toList = Nat.toDigits 10 n.toNat := Nat.toList_repr
  have hsolid : ∀ c ∈ (toString n).toList, isWhitespace c = false := by
    rw [hdigits]
    exact fun c hc => not_isWhitespace_of_isDigit (isDigit_toDigits hc)
  exact trim_eq_self fun hne => ⟨hsolid _ (List.head_mem hne), hsolid _ (List.getLast_mem hne)⟩

theorem toString_ne_empty (n : UInt32) : toString n ≠ "" := by
  intro hempty
  have hdigits : (toString n).toList = Nat.toDigits 10 n.toNat := Nat.toList_repr
  rw [hempty] at hdigits
  exact Nat.toDigits_ne_nil hdigits.symm

end Text
