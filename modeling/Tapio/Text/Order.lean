/-
# Texts in order

Texts are compared character by character. Those that are made of fields of fixed width
compare by the first field in which they differ, and numbers that are padded with zeros to
one width compare as numbers.
-/
import Mathlib.Data.String.Basic
import Mathlib.Tactic.Tauto
import Tapio.Text.Decimal

namespace Text

/-! ## Fields of fixed width -/

section Fields

variable {α : Type*} [LinearOrder α]

/-- A field that is as wide in both texts comes before the rest. -/
theorem append_lt_append_iff {a b s t : List α} (hwidth : a.length = b.length) :
    a ++ s < b ++ t ↔ a < b ∨ a = b ∧ s < t := by
  induction a generalizing b with
  | nil =>
      obtain rfl := List.length_eq_zero_iff.mp hwidth.symm
      simp
  | cons x a ih =>
      cases b with
      | nil => cases hwidth
      | cons y b =>
          rw [List.cons_append, List.cons_append, List.cons_lt_cons_iff, List.cons_lt_cons_iff,
            ih (Nat.succ.inj hwidth), List.cons.injEq]
          tauto

/-- A separator is the same in both texts. -/
theorem cons_lt_cons_same (x : α) {s t : List α} : x :: s < x :: t ↔ s < t := by
  simp

end Fields

/-- A number in two parts compares by the higher one first. -/
theorem parts_lt_iff {unit : ℕ} (a b : ℕ) {rest : Prop} :
    (a / unit < b / unit ∨
        a / unit = b / unit ∧ (a % unit < b % unit ∨ a % unit = b % unit ∧ rest)) ↔
      a < b ∨ a = b ∧ rest := by
  have ha := Nat.div_add_mod a unit
  have hb := Nat.div_add_mod b unit
  rcases Nat.lt_trichotomy (a / unit) (b / unit) with hlt | heq | hgt
  · exact iff_of_true (Or.inl hlt) (Or.inl (Nat.lt_of_div_lt_div hlt))
  · rw [heq] at ha ⊢
    have hless : a % unit < b % unit ↔ a < b := by omega
    have hsame : a % unit = b % unit ↔ a = b := by omega
    simp [hless, hsame]
  · have hmore := Nat.lt_of_div_lt_div hgt
    refine iff_of_false ?_ ?_ <;> omega

/-! ## Digits -/

/-- The value of a digit. -/
def digitValue (c : Char) : ℕ := c.toNat - '0'.toNat

theorem digitsValue_cons (c : Char) (rest : List Char) :
    digitsValue (c :: rest) = digitValue c * 10 ^ rest.length + digitsValue rest := by
  rw [digitsValue_eq_ofDigitChars, digitsValue_eq_ofDigitChars, Nat.ofDigitChars_cons,
    Nat.ofDigitChars_eq_ofDigitChars_zero, Nat.mul_zero, Nat.zero_add, digitValue,
    Nat.mul_comm (10 ^ rest.length)]

theorem digitValue_lt {c : Char} (hc : c.isDigit) : digitValue c < 10 := by
  have hrange := isDigit_iff_toNat.mp hc
  have hzero : '0'.toNat = 48 := rfl
  rw [digitValue]
  omega

theorem digitsValue_lt {digits : List Char} (hdigits : ∀ c ∈ digits, c.isDigit) :
    digitsValue digits < 10 ^ digits.length := by
  induction digits with
  | nil => decide
  | cons c rest ih =>
      have hrest := ih fun d hd => hdigits d (List.mem_cons_of_mem _ hd)
      have hfirst := digitValue_lt (hdigits c List.mem_cons_self)
      have hscaled := Nat.mul_le_mul_right (10 ^ rest.length) (Nat.le_of_lt_succ hfirst)
      rw [digitsValue_cons, List.length_cons, Nat.pow_succ]
      omega

theorem digitValue_lt_iff {c d : Char} (hc : c.isDigit) (hd : d.isDigit) :
    digitValue c < digitValue d ↔ c < d := by
  have hleft := isDigit_iff_toNat.mp hc
  have hright := isDigit_iff_toNat.mp hd
  have hzero : '0'.toNat = 48 := rfl
  rw [digitValue, digitValue, Char.lt_def, UInt32.lt_iff_toNat_lt]
  change c.toNat - '0'.toNat < d.toNat - '0'.toNat ↔ c.toNat < d.toNat
  omega

/-- As many digits compare as their values do. -/
theorem digits_lt_iff {a b : List Char} (ha : ∀ c ∈ a, c.isDigit) (hb : ∀ c ∈ b, c.isDigit)
    (hwidth : a.length = b.length) : a < b ↔ digitsValue a < digitsValue b := by
  induction a generalizing b with
  | nil =>
      obtain rfl := List.length_eq_zero_iff.mp hwidth.symm
      simp
  | cons c a ih =>
      cases b with
      | nil => cases hwidth
      | cons d b =>
          have hrest : a.length = b.length := Nat.succ.inj hwidth
          have ha' : ∀ e ∈ a, e.isDigit := fun e he => ha e (List.mem_cons_of_mem _ he)
          have hb' : ∀ e ∈ b, e.isDigit := fun e he => hb e (List.mem_cons_of_mem _ he)
          have hleft := digitsValue_lt ha'
          have hright := digitsValue_lt hb'
          have hfirst := digitValue_lt_iff (ha c List.mem_cons_self) (hb d List.mem_cons_self)
          rw [List.cons_lt_cons_iff, ih ha' hb' hrest, digitsValue_cons, digitsValue_cons, hrest,
            ← hfirst]
          rw [hrest] at hleft
          rcases lt_trichotomy c d with hlt | rfl | hgt
          · have hscaled := Nat.mul_le_mul_right (10 ^ b.length) (hfirst.mpr hlt)
            rw [Nat.succ_mul] at hscaled
            exact iff_of_true (Or.inl (hfirst.mpr hlt)) (by omega)
          · simp
          · have hfirst' := digitValue_lt_iff (hb d List.mem_cons_self) (ha c List.mem_cons_self)
            have hscaled := Nat.mul_le_mul_right (10 ^ b.length) (hfirst'.mpr hgt)
            rw [Nat.succ_mul] at hscaled
            refine iff_of_false ?_ (by omega)
            rintro (hlt | ⟨rfl, -⟩)
            · exact lt_asymm hgt (hfirst.mp hlt)
            · exact lt_irrefl c hgt

/-! ## Padded numbers -/

theorem zeroPad_inj {width m n : ℕ} : zeroPad width m = zeroPad width n ↔ m = n :=
  ⟨fun h => by rw [← digitsValue_zeroPad width m, h, digitsValue_zeroPad], fun h => h ▸ rfl⟩

section Padded

variable {width m n : ℕ} (hwidth : 0 < width) (hm : m < 10 ^ width) (hn : n < 10 ^ width)
include hwidth hm hn

theorem zeroPad_lt_iff : zeroPad width m < zeroPad width n ↔ m < n := by
  rw [digits_lt_iff (fun _ => isDigit_zeroPad) (fun _ => isDigit_zeroPad)
    (by rw [length_zeroPad hwidth hm, length_zeroPad hwidth hn]), digitsValue_zeroPad,
    digitsValue_zeroPad]

/-- A padded number is a field of fixed width. -/
theorem zeroPad_append_lt_iff {s t : List Char} :
    zeroPad width m ++ s < zeroPad width n ++ t ↔ m < n ∨ m = n ∧ s < t := by
  rw [append_lt_append_iff (by rw [length_zeroPad hwidth hm, length_zeroPad hwidth hn]),
    zeroPad_lt_iff hwidth hm hn, zeroPad_inj]

end Padded

/-- As many digits with the same value are the same. -/
theorem digits_inj {a b : List Char} (ha : ∀ c ∈ a, c.isDigit) (hb : ∀ c ∈ b, c.isDigit)
    (hwidth : a.length = b.length) (hvalue : digitsValue a = digitsValue b) : a = b := by
  rcases lt_trichotomy a b with hlt | heq | hgt
  · exact absurd hvalue ((digits_lt_iff ha hb hwidth).mp hlt).ne
  · exact heq
  · exact absurd hvalue ((digits_lt_iff hb ha hwidth.symm).mp hgt).ne'

theorem digitsValue_append (a b : List Char) :
    digitsValue (a ++ b) = digitsValue a * 10 ^ b.length + digitsValue b := by
  rw [digitsValue_eq_ofDigitChars, Nat.ofDigitChars_append, Nat.ofDigitChars_eq_ofDigitChars_zero,
    digitsValue_eq_ofDigitChars, digitsValue_eq_ofDigitChars, Nat.mul_comm]

/-- The leading digits of a padded number are its quotient, and the others its remainder. -/
theorem zeroPad_add {width rest n : ℕ} (hwidth : 0 < width) (hrest : 0 < rest)
    (hn : n < 10 ^ (width + rest)) :
    zeroPad (width + rest) n = zeroPad width (n / 10 ^ rest) ++ zeroPad rest (n % 10 ^ rest) := by
  have hquotient : n / 10 ^ rest < 10 ^ width := by
    rw [Nat.pow_add] at hn
    exact Nat.div_lt_of_lt_mul (Nat.mul_comm _ _ ▸ hn)
  have hremainder := Nat.mod_lt n (Nat.pow_pos (n := rest) (by decide : 0 < 10))
  apply digits_inj
  · exact fun _ => isDigit_zeroPad
  · intro c hc
    rcases List.mem_append.mp hc with hc | hc
    · exact isDigit_zeroPad hc
    · exact isDigit_zeroPad hc
  · rw [List.length_append, length_zeroPad (by omega) hn, length_zeroPad hwidth hquotient,
      length_zeroPad hrest hremainder]
  · rw [digitsValue_append, digitsValue_zeroPad, digitsValue_zeroPad, digitsValue_zeroPad,
      length_zeroPad hrest hremainder, Nat.mul_comm]
    exact (Nat.div_add_mod n (10 ^ rest)).symm

end Text
