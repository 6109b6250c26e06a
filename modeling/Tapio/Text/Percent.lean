/-
# Percent-encoding

A byte of a text is either kept as a character or written as a percent sign and two
digits. The encoding of a text is the text itself exactly when every character of it is
kept: each byte that is not kept makes the encoding longer than the text.
-/
import Mathlib.Data.List.Basic
import Mathlib.Data.Nat.Notation

namespace Text

/-- The bytes of a text. -/
def bytes (s : String) : List UInt8 := s.toList.flatMap String.utf8EncodeChar

/-- A digit in upper case. -/
def upperHexDigit (n : ℕ) : Char := "0123456789ABCDEF".toList.getD n '0'

def percentEncodeByte (keep : UInt8 → Bool) (byte : UInt8) : List Char :=
  if keep byte then [Char.ofNat byte.toNat]
  else ['%', upperHexDigit (byte.toNat / 16), upperHexDigit (byte.toNat % 16)]

def percentEncode (keep : UInt8 → Bool) (s : String) : String :=
  String.ofList ((bytes s).flatMap (percentEncodeByte keep))

/-- A character that is one byte, and that byte is kept. -/
def Kept (keep : UInt8 → Bool) (c : Char) : Prop := c.toNat < 128 ∧ keep (UInt8.ofNat c.toNat)

instance (keep : UInt8 → Bool) : DecidablePred (Kept keep) := fun _ =>
  inferInstanceAs (Decidable (_ ∧ _))

variable {keep : UInt8 → Bool}

/-- Either a kept byte or one of the characters of an escape. -/
def IsEncoded (keep : UInt8 → Bool) (c : Char) : Prop :=
  (∃ byte, keep byte ∧ c = Char.ofNat byte.toNat) ∨ c = '%' ∨ c ∈ "0123456789ABCDEF".toList

theorem upperHexDigit_mem (n : ℕ) : upperHexDigit n ∈ "0123456789ABCDEF".toList := by
  rw [upperHexDigit, List.getD_eq_getElem?_getD]
  cases hdigit : "0123456789ABCDEF".toList[n]? with
  | none => decide
  | some c => exact List.mem_of_getElem? hdigit

theorem isEncoded_of_mem_percentEncodeByte {byte : UInt8} {c : Char}
    (hc : c ∈ percentEncodeByte keep byte) : IsEncoded keep c := by
  rw [percentEncodeByte] at hc
  split at hc
  · rename_i hkeep
    exact .inl ⟨byte, hkeep, List.mem_singleton.mp hc⟩
  · rcases List.mem_cons.mp hc with hpercent | hc
    · exact .inr (.inl hpercent)
    · refine .inr (.inr ?_)
      rcases List.mem_pair.mp hc with rfl | rfl <;> exact upperHexDigit_mem _

/-- An encoded text has no character that an encoding cannot write. -/
theorem isEncoded_of_mem_percentEncode {s : String} {c : Char}
    (hc : c ∈ (percentEncode keep s).toList) : IsEncoded keep c := by
  rw [percentEncode, String.toList_ofList] at hc
  obtain ⟨byte, -, hc⟩ := List.mem_flatMap.mp hc
  exact isEncoded_of_mem_percentEncodeByte hc

/-! ## Texts that are encoded as themselves -/

theorem toNat_ofNat_of_lt {n : ℕ} (h : n < 128) : (Char.ofNat n).toNat = n := by
  rw [Char.ofNat, dif_pos (Or.inl (by omega))]
  rfl

theorem utf8EncodeChar_of_lt {c : Char} (h : c.toNat < 128) :
    String.utf8EncodeChar c = [UInt8.ofNat c.toNat] := by
  have hsize : c.utf8Size = 1 := by
    rw [Char.utf8Size_eq_one_iff, UInt32.le_iff_toNat_le]
    exact Nat.le_of_lt_succ h
  rw [String.utf8EncodeChar_eq_singleton hsize]
  rfl

theorem bytes_of_lt {s : String} (h : ∀ c ∈ s.toList, c.toNat < 128) :
    bytes s = s.toList.map fun c => UInt8.ofNat c.toNat := by
  rw [bytes, List.flatMap_congr fun c hc => utf8EncodeChar_of_lt (h c hc), List.map_eq_flatMap]

/-- A character of more than one byte has bytes from 128 on only. -/
theorem toNat_lt_of_mem_utf8EncodeChar {c : Char} {byte : UInt8}
    (hbyte : byte ∈ String.utf8EncodeChar c) (h : byte.toNat < 128) : c.toNat < 128 := by
  by_contra hc
  have hval : ¬ c.val.toNat ≤ 0x7f := by
    change ¬ c.toNat < 128 at hc
    change ¬ c.toNat ≤ 127
    omega
  rw [String.utf8EncodeChar] at hbyte
  rw [if_neg hval] at hbyte
  split_ifs at hbyte <;>
    · simp only [List.mem_cons, List.not_mem_nil, or_false] at hbyte
      rcases hbyte with rfl | rfl | rfl | rfl <;> simp at h <;> omega

/-- A text of bytes below 128 has as many bytes as characters. -/
theorem forall_lt_of_bytes {s : String} (h : ∀ byte ∈ bytes s, byte.toNat < 128) :
    ∀ c ∈ s.toList, c.toNat < 128 := by
  intro c hc
  obtain ⟨byte, hbyte⟩ := List.exists_mem_of_ne_nil _ (String.utf8EncodeChar_ne_nil (c := c))
  exact toNat_lt_of_mem_utf8EncodeChar hbyte (h byte (List.mem_flatMap.mpr ⟨c, hc, hbyte⟩))

theorem length_le_length_flatMap_percentEncodeByte (bs : List UInt8) :
    bs.length ≤ (bs.flatMap (percentEncodeByte keep)).length := by
  induction bs with
  | nil => exact Nat.le_refl 0
  | cons byte rest ih =>
      have hbyte : 1 ≤ (percentEncodeByte keep byte).length := by
        rw [percentEncodeByte]
        split <;> simp
      rw [List.flatMap_cons, List.length_append, List.length_cons]
      omega

/-- Nothing of a text that does not grow was escaped. -/
theorem forall_keep_of_length_le {bs : List UInt8}
    (h : (bs.flatMap (percentEncodeByte keep)).length ≤ bs.length) :
    ∀ byte ∈ bs, keep byte := by
  induction bs with
  | nil => exact List.forall_mem_nil _
  | cons byte rest ih =>
      rw [List.flatMap_cons, List.length_append, List.length_cons] at h
      have hrest : rest.length ≤ (rest.flatMap (percentEncodeByte keep)).length := by
        exact length_le_length_flatMap_percentEncodeByte rest
      by_cases hkeep : keep byte
      · have hbyte : (percentEncodeByte keep byte).length = 1 := by
          rw [percentEncodeByte, if_pos hkeep, List.length_singleton]
        exact List.forall_mem_cons.mpr ⟨hkeep, ih (by omega)⟩
      · have hbyte : (percentEncodeByte keep byte).length = 3 := by
          rw [percentEncodeByte, if_neg hkeep]
          rfl
        omega

theorem percentEncodeByte_of_kept {c : Char} (h : Kept keep c) :
    percentEncodeByte keep (UInt8.ofNat c.toNat) = [c] := by
  have hbyte : (UInt8.ofNat c.toNat).toNat = c.toNat := by
    exact UInt8.toNat_ofNat_of_lt (Nat.lt_trans h.1 (by decide))
  rw [percentEncodeByte, if_pos h.2, hbyte, Char.ofNat_toNat]

/-- **Exactly the texts of kept characters are encoded as themselves**, when only
characters of one byte are kept. -/
theorem percentEncode_eq_self_iff (hkeep : ∀ byte, keep byte → byte.toNat < 128)
    (s : String) : percentEncode keep s = s ↔ ∀ c ∈ s.toList, Kept keep c := by
  constructor
  · intro hself
    -- an encoding has characters of one byte only, so the text has as many bytes as characters
    have hlt : ∀ c ∈ s.toList, c.toNat < 128 := by
      intro c hc
      rw [← hself] at hc
      rcases isEncoded_of_mem_percentEncode hc with ⟨byte, hbyte, rfl⟩ | rfl | hdigit
      · have hsmall := hkeep byte hbyte
        rw [toNat_ofNat_of_lt hsmall]
        exact hsmall
      · decide
      · have hall : ∀ d ∈ "0123456789ABCDEF".toList, d.toNat < 128 := by simp
        exact hall c hdigit
    have hbytes := bytes_of_lt hlt
    have hlength : ((bytes s).flatMap (percentEncodeByte keep)).length = (bytes s).length := by
      have htext := congrArg (fun t => t.toList.length) hself
      simp only [percentEncode, String.toList_ofList] at htext
      rw [htext, hbytes, List.length_map]
    have hall := forall_keep_of_length_le (Nat.le_of_eq hlength)
    intro c hc
    refine ⟨hlt c hc, hall _ ?_⟩
    rw [hbytes]
    exact List.mem_map_of_mem hc
  · intro hkept
    rw [percentEncode, bytes_of_lt fun c hc => (hkept c hc).1, List.flatMap_map,
      List.flatMap_congr fun c hc => percentEncodeByte_of_kept (hkept c hc),
      List.flatMap_singleton', String.ofList_toList]

end Text
