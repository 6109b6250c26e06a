/-
# Numerals, read

A number is read as far as its digits go, in a radix and within limits that are part of the
format. Decimal numerals with zeros in front or without, and hexadecimal digits, are told
apart here once and for all.
-/
import Tapio.Text.Order
import Tapio.Text.Reader

namespace Text

/-- `char::to_digit`. -/
def toDigit (radix : ℕ) (c : Char) : Option ℕ :=
  (if c.isDigit then some (c.toNat - 48)
    else if c.isLower then some (c.toNat - 87)
    else if c.isUpper then some (c.toNat - 55)
    else none).filter (· < radix)

/-- How a number is written: in which radix, with how many digits at most, whether zeros may
come first, and below which bound. -/
structure NumberFormat where
  radix : ℕ
  maxDigits : Option ℕ
  allowZeroPrefix : Bool
  bound : ℕ

def NumberFormat.isDigit (format : NumberFormat) (c : Char) : Bool :=
  (toDigit format.radix c).isSome

def NumberFormat.value (format : NumberFormat) (digits : List Char) : ℕ :=
  digits.foldl (fun value c => value * format.radix + (toDigit format.radix c).getD 0) 0

/-- The digits are a number of the format. -/
def NumberFormat.Allows (format : NumberFormat) (digits : List Char) : Prop :=
  digits ≠ [] ∧ (∀ maxDigits ∈ format.maxDigits, digits.length ≤ maxDigits) ∧
    (format.allowZeroPrefix ∨ digits.head? ≠ some '0' ∨ digits.length ≤ 1) ∧
      format.value digits < format.bound

instance (format : NumberFormat) (digits : List Char) : Decidable (format.Allows digits) :=
  inferInstanceAs (Decidable (_ ∧ _ ∧ _ ∧ _))

/-- Reads as many digits as there are. -/
def readNumber (format : NumberFormat) : Reader ℕ := fun s =>
  let digits := s.takeWhile format.isDigit
  if format.Allows digits then
    some (format.value digits, s.dropWhile format.isDigit)
  else none

def NumberText (format : NumberFormat) (text : List Char) (n : ℕ) : Prop :=
  (∀ c ∈ text, format.isDigit c) ∧ format.Allows text ∧ format.value text = n

/-- No digit comes next. -/
def NoDigit (format : NumberFormat) (rest : List Char) : Prop :=
  ∀ c ∈ rest.head?, format.isDigit c = false

theorem reads_number (format : NumberFormat) :
    Reads (readNumber format) (NumberText format) (NoDigit format) where
  sound {s rest n} h := by
    obtain ⟨hallows, h⟩ := Option.ite_none_right_eq_some.mp h
    obtain ⟨rfl, rfl⟩ := Prod.mk.inj (Option.some.inj h)
    exact ⟨_, List.takeWhile_append_dropWhile.symm,
      fun c hc => List.mem_takeWhile_imp hc, hallows, rfl⟩
  complete {text rest n} htext hrest := by
    obtain ⟨hdigits, hallows, rfl⟩ := htext
    have htake : rest.takeWhile format.isDigit = [] := by
      cases rest with
      | nil => rfl
      | cons c rest => exact List.takeWhile_cons_of_neg (by simp [hrest c rfl])
    have hdrop : rest.dropWhile format.isDigit = rest := by
      cases rest with
      | nil => rfl
      | cons c rest => exact List.dropWhile_cons_of_neg (by simp [hrest c rfl])
    simp only [readNumber]
    rw [List.takeWhile_append_of_pos hdigits, List.dropWhile_append_of_pos hdigits, htake,
      hdrop, List.append_nil, if_pos hallows]

theorem noDigit_cons {format : NumberFormat} {c : Char} (hc : format.isDigit c = false)
    (rest : List Char) : NoDigit format (c :: rest) := by
  rintro _ ⟨⟩
  exact hc

/-! ## Digits -/

def IsHexDigit (c : Char) : Prop :=
  c.isDigit ∨ 'a'.toNat ≤ c.toNat ∧ c.toNat ≤ 'f'.toNat ∨
    'A'.toNat ≤ c.toNat ∧ c.toNat ≤ 'F'.toNat

instance (c : Char) : Decidable (IsHexDigit c) := inferInstanceAs (Decidable (_ ∨ _ ∨ _))

theorem toDigit_of_isDigit {radix : ℕ} (hradix : 10 ≤ radix) {c : Char} (hc : c.isDigit) :
    toDigit radix c = some (digitValue c) := by
  have hlt := digitValue_lt hc
  rw [toDigit, if_pos hc]
  exact Option.filter_some_pos (decide_eq_true (Nat.lt_of_lt_of_le hlt hradix))

theorem toDigit_lt {radix d : ℕ} {c : Char} (h : toDigit radix c = some d) : d < radix :=
  of_decide_eq_true (Option.filter_eq_some_iff.mp h).2

theorem isSome_toDigit_ten (c : Char) : (toDigit 10 c).isSome ↔ c.isDigit := by
  simp only [toDigit, isDigit_iff_toNat, isLower_iff_toNat, isUpper_iff_toNat]
  split_ifs <;> rw [Option.isSome_filter] <;> simp <;> omega

theorem isSome_toDigit_sixteen (c : Char) : (toDigit 16 c).isSome ↔ IsHexDigit c := by
  have ha : 'a'.toNat = 97 := rfl
  have hf : 'f'.toNat = 102 := rfl
  have hA : 'A'.toNat = 65 := rfl
  have hF : 'F'.toNat = 70 := rfl
  simp only [toDigit, isDigit_iff_toNat, isLower_iff_toNat, isUpper_iff_toNat, IsHexDigit]
  split_ifs <;> rw [Option.isSome_filter] <;> simp <;> omega

theorem NumberFormat.value_concat (format : NumberFormat) (digits : List Char) (c : Char) :
    format.value (digits ++ [c]) =
      format.value digits * format.radix + (toDigit format.radix c).getD 0 := by
  rw [value, List.foldl_append, List.foldl_cons, List.foldl_nil, value]

theorem NumberFormat.value_lt (format : NumberFormat) (hradix : 0 < format.radix)
    (digits : List Char) : format.value digits < format.radix ^ digits.length := by
  induction digits using List.reverseRecOn with
  | nil => exact Nat.one_pos
  | append_singleton digits c ih =>
      have hdigit : (toDigit format.radix c).getD 0 < format.radix := by
        cases hc : toDigit format.radix c with
        | none => exact hradix
        | some d => exact toDigit_lt hc
      rw [value_concat, List.length_append, List.length_singleton, Nat.pow_succ]
      have hnext := Nat.mul_le_mul_right format.radix (Nat.succ_le_of_lt ih)
      rw [Nat.succ_mul] at hnext
      omega

theorem NumberFormat.value_decimal (format : NumberFormat) (hradix : format.radix = 10)
    {digits : List Char} (hdigits : ∀ c ∈ digits, c.isDigit) :
    format.value digits = digitsValue digits := by
  rw [value, digitsValue, hradix]
  refine List.foldl_ext _ _ _ fun value c hc => ?_
  rw [toDigit_of_isDigit (Nat.le_refl 10) (hdigits c hc), Option.getD_some, digitValue,
    Nat.mul_comm]

/-! ## Decimal numerals -/

/-- Decimal digits with a value below a bound. Zeros may come first. -/
structure DecimalText (bound : ℕ) (text : List Char) (n : ℕ) : Prop where
  ne_nil : text ≠ []
  digits : ∀ c ∈ text, c.isDigit
  value : digitsValue text = n
  lt : n < bound

theorem numberText_decimal_iff {bound : ℕ} {text : List Char} {n : ℕ} :
    NumberText ⟨10, none, true, bound⟩ text n ↔ DecimalText bound text n := by
  apply Iff.intro
  · rintro ⟨hdigits, ⟨hne, -, -, hlt⟩, hvalue⟩
    have hdecimal : ∀ c ∈ text, c.isDigit := fun c hc =>
      (isSome_toDigit_ten c).mp (hdigits c hc)
    rw [NumberFormat.value_decimal _ rfl hdecimal] at hlt hvalue
    exact ⟨hne, hdecimal, hvalue, hvalue ▸ hlt⟩
  · intro htext
    have hvalue := NumberFormat.value_decimal ⟨10, none, true, bound⟩ rfl htext.digits
    refine ⟨fun c hc => (isSome_toDigit_ten c).mpr (htext.digits c hc),
      ⟨htext.ne_nil, nofun, .inl rfl, ?_⟩, hvalue.trans htext.value⟩
    rw [hvalue, htext.value]
    exact htext.lt

theorem reads_decimal (bound : ℕ) :
    Reads (readNumber ⟨10, none, true, bound⟩) (DecimalText bound)
      (NoDigit ⟨10, none, true, bound⟩) :=
  (reads_number _).congr (fun _ _ => numberText_decimal_iff) fun _ h => h

theorem digitValue_eq_zero_iff {c : Char} (hc : c.isDigit) : digitValue c = 0 ↔ c = '0' := by
  have hrange := isDigit_iff_toNat.mp hc
  have hzero : '0'.toNat = 48 := rfl
  rw [← Char.toNat_inj, digitValue]
  omega

/-- A leading zero leaves the value as small as without it. -/
theorem digitsValue_cons_lt_iff {c : Char} {rest : List Char} (hc : c.isDigit)
    (hrest : ∀ d ∈ rest, d.isDigit) :
    digitsValue (c :: rest) < 10 ^ rest.length ↔ c = '0' := by
  have hlt := digitsValue_lt hrest
  rw [digitsValue_cons, ← digitValue_eq_zero_iff hc]
  apply Iff.intro
  · intro h
    by_contra hne
    have hscaled := Nat.mul_le_mul_right (10 ^ rest.length) (Nat.one_le_iff_ne_zero.mpr hne)
    omega
  · intro hzero
    rw [hzero, Nat.zero_mul, Nat.zero_add]
    exact hlt

/-- Digits are those of their value unless there are zeros in front. -/
theorem eq_toDigits_iff {text : List Char} (hne : text ≠ []) (hdigits : ∀ c ∈ text, c.isDigit) :
    text = Nat.toDigits 10 (digitsValue text) ↔ text.head? ≠ some '0' ∨ text.length ≤ 1 := by
  have hpos := List.length_pos_of_ne_nil (Nat.toDigits_ne_nil (b := 10) (n := digitsValue text))
  have hlength : ∀ {k}, 0 < k →
      ((Nat.toDigits 10 (digitsValue text)).length ≤ k ↔ digitsValue text < 10 ^ k) := fun hk =>
    Nat.length_toDigits_le_iff (by decide) hk
  have hle := (hlength (List.length_pos_of_ne_nil hne)).mpr (digitsValue_lt hdigits)
  have heq : text = Nat.toDigits 10 (digitsValue text) ↔
      text.length = (Nat.toDigits 10 (digitsValue text)).length :=
    ⟨congrArg List.length, fun h =>
      digits_inj hdigits (fun _ => isDigit_toDigits) h (digitsValue_toDigits _).symm⟩
  rw [heq]
  cases text with
  | nil => exact absurd rfl hne
  | cons c rest =>
      rw [List.forall_mem_cons] at hdigits
      have hzero := digitsValue_cons_lt_iff hdigits.1 hdigits.2
      rw [List.length_cons] at hle ⊢
      rw [List.head?_cons, Ne, Option.some_inj]
      by_cases hrest : rest.length = 0
      · exact iff_of_true (by omega) (.inr (by omega))
      · rw [← hzero, ← hlength (Nat.pos_of_ne_zero hrest)]
        omega

end Text
