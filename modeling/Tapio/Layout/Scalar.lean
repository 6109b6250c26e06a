/-
# Values as bytes

The fixed-width integers that a record may hold, alone or in an array, and their bytes in
memory in either byte order. Reading the bytes of a value gives the value back.
-/
import Mathlib.Data.Nat.Notation
import Mathlib.Data.Vector.Basic

namespace Layout

/-- The order of the bytes of a number. -/
inductive Endian
  | little
  | big
  deriving DecidableEq

/-! ## Numbers -/

/-- The lowest bytes of a number, the lowest first. -/
def lowBytes : ℕ → ℕ → List UInt8
  | 0, _ => []
  | count + 1, n => UInt8.ofNat n :: lowBytes count (n / 256)

/-- The number with these bytes, of which the first is the lowest. -/
def ofLowBytes : List UInt8 → ℕ
  | [] => 0
  | byte :: rest => byte.toNat + 256 * ofLowBytes rest

@[simp]
theorem length_lowBytes (count n : ℕ) : (lowBytes count n).length = count := by
  induction count generalizing n with
  | zero => rfl
  | succ count ih => rw [lowBytes, List.length_cons, ih]

theorem ofLowBytes_lowBytes {count n : ℕ} (h : n < 256 ^ count) :
    ofLowBytes (lowBytes count n) = n := by
  induction count generalizing n with
  | zero => rw [lowBytes, ofLowBytes, Nat.lt_one_iff.mp h]
  | succ count ih =>
      have hhigh : n / 256 < 256 ^ count := by
        rw [Nat.pow_succ] at h
        exact Nat.div_lt_of_lt_mul (by omega)
      have hlow : (UInt8.ofNat n).toNat = n % 256 := UInt8.toNat_ofNat'
      rw [lowBytes, ofLowBytes, ih hhigh, hlow]
      exact Nat.mod_add_div n 256

def Endian.arrange (e : Endian) (bytes : List UInt8) : List UInt8 :=
  match e with
  | .little => bytes
  | .big => bytes.reverse

@[simp]
theorem Endian.length_arrange (e : Endian) (bytes : List UInt8) :
    (e.arrange bytes).length = bytes.length := by
  cases e with
  | little => rfl
  | big => exact List.length_reverse

@[simp]
theorem Endian.arrange_arrange (e : Endian) (bytes : List UInt8) :
    e.arrange (e.arrange bytes) = bytes := by
  cases e with
  | little => rfl
  | big => exact List.reverse_reverse bytes

/-! ## Integer types -/

inductive Scalar
  | u8
  | u16
  | u32
  | u64
  | i32
  deriving DecidableEq

namespace Scalar

def size : Scalar → ℕ
  | u8 => 1
  | u16 => 2
  | u32 | i32 => 4
  | u64 => 8

theorem size_pos (s : Scalar) : 0 < s.size := by
  cases s <;> decide

abbrev Value : Scalar → Type
  | u8 => UInt8
  | u16 => UInt16
  | u32 => UInt32
  | u64 => UInt64
  | i32 => Int32

/-- The bits of a value, read as a natural number. -/
def bits : (s : Scalar) → s.Value → ℕ
  | u8, v => UInt8.toNat v
  | u16, v => UInt16.toNat v
  | u32, v => UInt32.toNat v
  | u64, v => UInt64.toNat v
  | i32, v => (Int32.toUInt32 v).toNat

def ofBits : (s : Scalar) → ℕ → s.Value
  | u8, n => UInt8.ofNat n
  | u16, n => UInt16.ofNat n
  | u32, n => UInt32.ofNat n
  | u64, n => UInt64.ofNat n
  | i32, n => (UInt32.ofNat n).toInt32

theorem bits_lt : ∀ (s : Scalar) (v : s.Value), s.bits v < 256 ^ s.size
  | u8, v => UInt8.toNat_lt v
  | u16, v => UInt16.toNat_lt v
  | u32, v => UInt32.toNat_lt v
  | u64, v => UInt64.toNat_lt v
  | i32, v => UInt32.toNat_lt (Int32.toUInt32 v)

theorem ofBits_bits : ∀ (s : Scalar) (v : s.Value), s.ofBits (s.bits v) = v
  | u8, v => UInt8.ofNat_toNat (x := v)
  | u16, v => UInt16.ofNat_toNat (x := v)
  | u32, v => UInt32.ofNat_toNat (x := v)
  | u64, v => UInt64.ofNat_toNat (x := v)
  | i32, v => by
      rw [bits, ofBits, UInt32.ofNat_toNat]
      exact Int32.toInt32_toUInt32 v

def encode (e : Endian) (s : Scalar) (v : s.Value) : List UInt8 :=
  e.arrange (lowBytes s.size (s.bits v))

def decode (e : Endian) (s : Scalar) (bytes : List UInt8) : s.Value :=
  s.ofBits (ofLowBytes (e.arrange bytes))

@[simp]
theorem length_encode (e : Endian) (s : Scalar) (v : s.Value) :
    (s.encode e v).length = s.size := by
  rw [encode, Endian.length_arrange, length_lowBytes]

theorem decode_encode (e : Endian) (s : Scalar) (v : s.Value) :
    s.decode e (s.encode e v) = v := by
  rw [decode, encode, Endian.arrange_arrange, ofLowBytes_lowBytes (s.bits_lt v), ofBits_bits]

end Scalar

/-! ## Field types -/

/-- The type of a field: an integer, or an array of integers. -/
inductive FieldType
  | scalar (s : Scalar)
  | array (s : Scalar) (count : ℕ)
  deriving DecidableEq

namespace FieldType

def size : FieldType → ℕ
  | scalar s => s.size
  | array s count => count * s.size

/-- The natural alignment: that of an array is that of its elements. -/
def align : FieldType → ℕ
  | scalar s | array s _ => s.size

theorem align_pos (t : FieldType) : 0 < t.align := by
  cases t with
  | scalar s => exact s.size_pos
  | array s count => exact s.size_pos

abbrev Value : FieldType → Type
  | scalar s => s.Value
  | array s count => List.Vector s.Value count

/-- The elements one after the other. -/
def encode (e : Endian) : (t : FieldType) → t.Value → List UInt8
  | scalar s, v => s.encode e v
  | array s _, v => v.toList.flatMap (s.encode e)

/-- The first elements of the bytes. -/
def elements (e : Endian) (s : Scalar) : (count : ℕ) → List UInt8 → List.Vector s.Value count
  | 0, _ => List.Vector.nil
  | count + 1, bytes =>
      s.decode e (bytes.take s.size) ::ᵥ elements e s count (bytes.drop s.size)

def decode (e : Endian) : (t : FieldType) → List UInt8 → t.Value
  | scalar s, bytes => s.decode e bytes
  | array s count, bytes => elements e s count bytes

theorem length_flatMap_encode (e : Endian) (s : Scalar) (vs : List s.Value) :
    (vs.flatMap (s.encode e)).length = vs.length * s.size := by
  induction vs with
  | nil => exact (Nat.zero_mul _).symm
  | cons v rest ih =>
      rw [List.flatMap_cons, List.length_append, ih, Scalar.length_encode, List.length_cons,
        Nat.succ_mul, Nat.add_comm]

@[simp]
theorem length_encode (e : Endian) (t : FieldType) (v : t.Value) :
    (t.encode e v).length = t.size := by
  cases t with
  | scalar s => exact s.length_encode e v
  | array s count =>
      rw [encode, length_flatMap_encode, List.Vector.toList_length]
      rfl

theorem elements_encode (e : Endian) (s : Scalar) {count : ℕ} (v : List.Vector s.Value count) :
    elements e s count (v.toList.flatMap (s.encode e)) = v := by
  induction v with
  | nil => rfl
  | cons ih =>
      rename_i v vs
      have hlength := s.length_encode e v
      rw [List.Vector.toList_cons, List.flatMap_cons, elements,
        List.take_left' hlength, List.drop_left' hlength, ih, Scalar.decode_encode]

/-- The bytes of a value are read as the value. -/
theorem decode_encode (e : Endian) (t : FieldType) (v : t.Value) :
    t.decode e (t.encode e v) = v := by
  cases t with
  | scalar s => exact s.decode_encode e v
  | array s count => exact elements_encode e s v

end FieldType

end Layout
