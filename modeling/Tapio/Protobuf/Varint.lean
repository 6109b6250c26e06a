/-
# Variable-width integers

Seven bits a byte, the lowest first; the high bit of a byte says that another follows. A
reader takes ten bytes at most, and refuses what does not fit into 64 bits.
-/
import Mathlib.Data.Nat.Notation
import Mathlib.Tactic.NormNum

namespace Protobuf

def varintLimit : ℕ := 10

def encodeVarintWithin : ℕ → ℕ → List UInt8
  | 0, _ => []
  | bytes + 1, value =>
      if value < 128 then [UInt8.ofNat value]
      else UInt8.ofNat (value % 128 + 128) :: encodeVarintWithin bytes (value / 128)

def encodeVarint (value : ℕ) : List UInt8 := encodeVarintWithin varintLimit value

def readVarintWithin : ℕ → List UInt8 → Option (ℕ × List UInt8)
  | 0, _ => none
  | _ + 1, [] => none
  | bytes + 1, byte :: rest =>
      if byte.toNat < 128 then some (byte.toNat, rest)
      else
        (readVarintWithin bytes rest).map fun (high, rest) =>
          (byte.toNat % 128 + 128 * high, rest)

/-- Read an integer from the front. -/
def readVarint (input : List UInt8) : Option (ℕ × List UInt8) :=
  (readVarintWithin varintLimit input).filter fun (value, _) => value < 2 ^ 64

/-! ## What is written is read -/

theorem readVarintWithin_encode {bytes value : ℕ} (h : value < 128 ^ (bytes + 1))
    (rest : List UInt8) :
    readVarintWithin (bytes + 1) (encodeVarintWithin (bytes + 1) value ++ rest) =
      some (value, rest) := by
  induction bytes generalizing value with
  | zero =>
      have hbyte : (UInt8.ofNat value).toNat = value := by
        rw [UInt8.toNat_ofNat']
        omega
      rw [encodeVarintWithin, if_pos (by omega), List.singleton_append, readVarintWithin, hbyte,
        if_pos (by omega)]
  | succ bytes ih =>
      rw [encodeVarintWithin]
      split_ifs with hsmall
      · have hbyte : (UInt8.ofNat value).toNat = value := by
          rw [UInt8.toNat_ofNat']
          omega
        rw [List.singleton_append, readVarintWithin, hbyte, if_pos hsmall]
      · have hbyte : (UInt8.ofNat (value % 128 + 128)).toNat = value % 128 + 128 := by
          rw [UInt8.toNat_ofNat']
          omega
        have hhigh : value / 128 < 128 ^ (bytes + 1) := by
          rw [Nat.pow_succ] at h
          exact Nat.div_lt_of_lt_mul (by omega)
        have hvalue : (value % 128 + 128) % 128 + 128 * (value / 128) = value := by omega
        rw [List.cons_append, readVarintWithin, hbyte, if_neg (by omega), ih hhigh,
          Option.map_some]
        dsimp only
        rw [hvalue]

/-- Reading gives back what was written, and leaves what comes after it. -/
theorem readVarint_encode {value : ℕ} (h : value < 2 ^ 64) (rest : List UInt8) :
    readVarint (encodeVarint value ++ rest) = some (value, rest) := by
  have hfits : value < 128 ^ (9 + 1) := by norm_num at h ⊢; omega
  rw [readVarint, encodeVarint, varintLimit, readVarintWithin_encode hfits, Option.filter_some,
    if_pos (decide_eq_true h)]

theorem length_encodeVarint_pos (value : ℕ) : 0 < (encodeVarint value).length := by
  rw [encodeVarint, varintLimit, encodeVarintWithin]
  split_ifs
  · exact Nat.one_pos
  · exact Nat.succ_pos _

end Protobuf
