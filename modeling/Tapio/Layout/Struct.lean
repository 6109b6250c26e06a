/-
# Records in memory

Where the fields of a record lie, under natural alignment with trailing padding or packed
without any, and what is written to memory for a record and read back. The fields of a
record never overlap, so what is written to one is untouched by the others; bytes that no
field covers keep what was there. Two records that place the same types at the same
offsets read each other's bytes.
-/
import Mathlib.Data.List.Pairwise
import Tapio.Layout.Scalar

namespace Layout

/-- A record as declared: its fields in order, and whether it is packed. -/
structure Struct where
  packed : Bool
  fields : List (String × FieldType)
  deriving DecidableEq

/-- A field in its place. -/
structure Slot where
  name : String
  type : FieldType
  offset : ℕ
  deriving DecidableEq

/-- The first byte after a field. -/
def Slot.stop (slot : Slot) : ℕ := slot.offset + slot.type.size

/-- The next multiple of an alignment. -/
def alignUp (offset align : ℕ) : ℕ := (offset + align - 1) / align * align

theorem le_alignUp {align : ℕ} (h : 0 < align) (offset : ℕ) : offset ≤ alignUp offset align := by
  have hdiv := Nat.div_add_mod (offset + align - 1) align
  have hmod := Nat.mod_lt (offset + align - 1) h
  rw [alignUp, Nat.mul_comm]
  omega

namespace Struct

def alignOf (packed : Bool) (type : FieldType) : ℕ := if packed then 1 else type.align

theorem alignOf_pos (packed : Bool) (type : FieldType) : 0 < alignOf packed type := by
  rw [alignOf]
  split
  · exact Nat.one_pos
  · exact type.align_pos

/-- Each field at the first offset that suits it, after the one before. -/
def place (packed : Bool) : ℕ → List (String × FieldType) → List Slot
  | _, [] => []
  | start, (name, type) :: rest =>
      let slot : Slot := ⟨name, type, alignUp start (alignOf packed type)⟩
      slot :: place packed slot.stop rest

def slots (s : Struct) : List Slot := place s.packed 0 s.fields

/-- The alignment of a record is that of its most demanding field. -/
def align (s : Struct) : ℕ := (s.fields.map fun field => alignOf s.packed field.2).foldr max 1

theorem align_pos (s : Struct) : 0 < s.align := by
  rw [align]
  cases s.fields.map fun field => alignOf s.packed field.2 with
  | nil => exact Nat.one_pos
  | cons a rest =>
      have hrest : ∀ aligns : List ℕ, 0 < aligns.foldr max 1 := by
        intro aligns
        induction aligns with
        | nil => exact Nat.one_pos
        | cons b rest ih => exact Nat.lt_of_lt_of_le ih (Nat.le_max_right _ _)
      exact hrest (a :: rest)

/-- Where the last field ends. -/
def stop (s : Struct) : ℕ := (s.slots.map Slot.stop).foldr max 0

def sizeOf (s : Struct) : ℕ := alignUp s.stop s.align

/-! ## Fields apart -/

theorem start_le_offset {packed : Bool} {start : ℕ} {fields : List (String × FieldType)}
    {slot : Slot} (h : slot ∈ place packed start fields) : start ≤ slot.offset := by
  induction fields generalizing start with
  | nil => cases h
  | cons field rest ih =>
      have hfirst := le_alignUp (alignOf_pos packed field.2) start
      rcases List.mem_cons.mp h with rfl | hrest
      · exact hfirst
      · have := ih hrest
        rw [Slot.stop] at this
        dsimp only at this
        omega

/-- Every field ends before the next one begins. -/
theorem place_sorted (packed : Bool) (start : ℕ) (fields : List (String × FieldType)) :
    (place packed start fields).Pairwise fun slot later => slot.stop ≤ later.offset := by
  induction fields generalizing start with
  | nil => exact List.Pairwise.nil
  | cons field rest ih => exact List.pairwise_cons.mpr ⟨fun _ => start_le_offset, ih _⟩

theorem slots_sorted (s : Struct) :
    s.slots.Pairwise fun slot later => slot.stop ≤ later.offset :=
  place_sorted s.packed 0 s.fields

theorem stop_le_sizeOf (s : Struct) {slot : Slot} (h : slot ∈ s.slots) :
    slot.stop ≤ s.sizeOf := by
  have hmax : ∀ (stops : List ℕ), ∀ n ∈ stops, n ≤ stops.foldr max 0 := by
    intro stops
    induction stops with
    | nil => exact nofun
    | cons m rest ih =>
        intro n hn
        rcases List.mem_cons.mp hn with rfl | hrest
        · exact Nat.le_max_left _ _
        · exact Nat.le_trans (ih n hrest) (Nat.le_max_right _ _)
  exact Nat.le_trans (hmax _ _ (List.mem_map_of_mem h)) (le_alignUp s.align_pos s.stop)

end Struct

/-! ## Memory -/

/-- Bytes written over what is there. -/
def storeAt (mem : List UInt8) (offset : ℕ) (bytes : List UInt8) : List UInt8 :=
  mem.take offset ++ bytes ++ mem.drop (offset + bytes.length)

/-- The bytes of a place. -/
def loadAt (mem : List UInt8) (offset size : ℕ) : List UInt8 := (mem.drop offset).take size

section Memory

variable {mem bytes : List UInt8} {offset : ℕ} (h : offset + bytes.length ≤ mem.length)
include h

@[simp]
theorem length_storeAt : (storeAt mem offset bytes).length = mem.length := by
  rw [storeAt, List.length_append, List.length_append, List.length_take, List.length_drop]
  omega

theorem loadAt_storeAt : loadAt (storeAt mem offset bytes) offset bytes.length = bytes := by
  have hlength : (mem.take offset).length = offset := by
    rw [List.length_take]
    omega
  rw [loadAt, storeAt, List.append_assoc, List.drop_left' hlength, List.take_left' rfl]

theorem loadAt_storeAt_of_le {other size : ℕ} (hother : other + size ≤ offset) :
    loadAt (storeAt mem offset bytes) other size = loadAt mem other size := by
  have hlength : (mem.take offset).length = offset := by
    rw [List.length_take]
    omega
  apply List.ext_getElem?
  intro i
  simp only [loadAt, List.getElem?_take, List.getElem?_drop]
  split
  · rw [storeAt, List.append_assoc, List.getElem?_append_left (by omega), List.getElem?_take]
    rw [if_pos (by omega)]
  · rfl

end Memory

/-! ## Writing and reading a record -/

/-- A value with its type. -/
abbrev TypedValue := Σ type : FieldType, type.Value

/-- The field that a named value is for. -/
def fieldOf (value : String × TypedValue) : String × FieldType := (value.1, value.2.1)

/-- A value for every field. -/
structure Assignment (s : Struct) where
  values : List (String × TypedValue)
  fits : values.map fieldOf = s.fields

/-- The value that a slot holds. -/
def Slot.load (e : Endian) (mem : List UInt8) (slot : Slot) : String × TypedValue :=
  (slot.name, ⟨slot.type, slot.type.decode e (loadAt mem slot.offset slot.type.size)⟩)

namespace Struct

/-- The values stored one after the other, each in its slot. -/
def writeFrom (e : Endian) (packed : Bool) :
    ℕ → List (String × TypedValue) → List UInt8 → List UInt8
  | _, [], mem => mem
  | start, (name, value) :: rest, mem =>
      let slot : Slot := ⟨name, value.1, alignUp start (alignOf packed value.1)⟩
      writeFrom e packed slot.stop rest (storeAt mem slot.offset (value.1.encode e value.2))

/-- A record written over what is in memory. -/
def write (s : Struct) (e : Endian) (assignment : Assignment s) (mem : List UInt8) :
    List UInt8 :=
  writeFrom e s.packed 0 assignment.values mem

/-- The fields of the record in memory. -/
def read (s : Struct) (e : Endian) (mem : List UInt8) : List (String × TypedValue) :=
  s.slots.map (Slot.load e mem)

theorem length_writeFrom (e : Endian) (packed : Bool) {start : ℕ}
    {values : List (String × TypedValue)} {mem : List UInt8}
    (h : ∀ slot ∈ place packed start (values.map fieldOf), slot.stop ≤ mem.length) :
    (writeFrom e packed start values mem).length = mem.length := by
  induction values generalizing start mem with
  | nil => rfl
  | cons value rest ih =>
      obtain ⟨hfirst, hrest⟩ := List.forall_mem_cons.mp h
      have hstore : (storeAt mem (alignUp start (alignOf packed value.2.1))
          (value.2.1.encode e value.2.2)).length = mem.length := by
        apply length_storeAt
        rw [FieldType.length_encode]
        exact hfirst
      rw [writeFrom, ih (by rw [hstore]; exact hrest), hstore]

/-- What lies before the first slot is kept. -/
theorem loadAt_writeFrom (e : Endian) (packed : Bool) {start other size : ℕ}
    {values : List (String × TypedValue)} {mem : List UInt8}
    (h : ∀ slot ∈ place packed start (values.map fieldOf), slot.stop ≤ mem.length)
    (hother : other + size ≤ start) :
    loadAt (writeFrom e packed start values mem) other size = loadAt mem other size := by
  induction values generalizing start mem with
  | nil => rfl
  | cons value rest ih =>
      obtain ⟨hfirst, hrest⟩ := List.forall_mem_cons.mp h
      have hbound : alignUp start (alignOf packed value.2.1) +
          (value.2.1.encode e value.2.2).length ≤ mem.length := by
        rw [FieldType.length_encode]
        exact hfirst
      have hstart := le_alignUp (alignOf_pos packed value.2.1) start
      rw [writeFrom, ih, loadAt_storeAt_of_le hbound (Nat.le_trans hother hstart)]
      · rw [length_storeAt hbound]
        exact hrest
      · exact Nat.le_trans (Nat.le_trans hother hstart) (Nat.le_add_right _ _)

/-- Every slot holds what was stored in it. -/
theorem load_writeFrom (e : Endian) (packed : Bool) {start : ℕ}
    {values : List (String × TypedValue)} {mem : List UInt8}
    (h : ∀ slot ∈ place packed start (values.map fieldOf), slot.stop ≤ mem.length) :
    (place packed start (values.map fieldOf)).map
      (Slot.load e (writeFrom e packed start values mem)) = values := by
  induction values generalizing start mem with
  | nil => rfl
  | cons value rest ih =>
      obtain ⟨hfirst, hrest⟩ := List.forall_mem_cons.mp h
      obtain ⟨name, type, v⟩ := value
      have hlength := type.length_encode e v
      have hbound : alignUp start (alignOf packed type) + (type.encode e v).length ≤
          mem.length := by
        rw [hlength]
        exact hfirst
      have hkept : ∀ slot ∈ place packed (alignUp start (alignOf packed type) + type.size)
          (rest.map fieldOf), slot.stop ≤
            (storeAt mem (alignUp start (alignOf packed type)) (type.encode e v)).length := by
        rw [length_storeAt hbound]
        exact hrest
      have hvalue : loadAt (writeFrom e packed (alignUp start (alignOf packed type) + type.size)
          rest (storeAt mem (alignUp start (alignOf packed type)) (type.encode e v)))
          (alignUp start (alignOf packed type)) type.size = type.encode e v := by
        rw [loadAt_writeFrom e packed hkept (Nat.le_refl _)]
        have hstored := loadAt_storeAt hbound
        rwa [hlength] at hstored
      rw [List.map_cons, place]
      simp only [fieldOf, List.map_cons, writeFrom, Slot.stop]
      refine congrArg₂ List.cons ?_ (ih hkept)
      rw [Slot.load, hvalue, FieldType.decode_encode]

section Record

variable {s : Struct} (e : Endian) (assignment : Assignment s) {mem : List UInt8}
  (hmem : mem.length = s.sizeOf)
include hmem

theorem slots_fit : ∀ slot ∈ place s.packed 0 (assignment.values.map fieldOf),
    slot.stop ≤ mem.length := by
  rw [assignment.fits, hmem]
  exact fun _ => s.stop_le_sizeOf

/-- A record is written within its size. -/
theorem length_write : (s.write e assignment mem).length = s.sizeOf :=
  (length_writeFrom e s.packed (slots_fit assignment hmem)).trans hmem

/-- The fields of a written record are read back. -/
theorem read_write : s.read e (s.write e assignment mem) = assignment.values := by
  have hload := load_writeFrom e s.packed (slots_fit assignment hmem)
  rwa [assignment.fits] at hload

end Record

end Struct

/-! ## Two declarations of one record -/

/-- The fields of the one at the places of the other, under other names. -/
def Mirrors (rename : String → String) (written read : Struct) : Prop :=
  read.sizeOf = written.sizeOf ∧
    read.slots = written.slots.map fun slot => { slot with name := rename slot.name }

instance (rename : String → String) (written read : Struct) :
    Decidable (Mirrors rename written read) :=
  inferInstanceAs (Decidable (_ ∧ _))

/-- Whatever is written through the one is read through the other. -/
structure SameBytes (rename : String → String) (written read : Struct) : Prop where
  readBack : ∀ (e : Endian) (assignment : Assignment written) (mem : List UInt8),
    mem.length = written.sizeOf →
      (written.write e assignment mem).length = read.sizeOf ∧
      read.read e (written.write e assignment mem) =
        assignment.values.map fun value => (rename value.1, value.2)
  apartWritten : written.slots.Pairwise fun slot later => slot.stop ≤ later.offset
  apartRead : read.slots.Pairwise fun slot later => slot.stop ≤ later.offset

/-- Mirrors read each other's bytes. -/
theorem sameBytes_of_mirrors {rename : String → String} {written read : Struct}
    (h : Mirrors rename written read) : SameBytes rename written read where
  readBack := by
    intro e assignment mem hmem
    have hread : ∀ bytes, read.read e bytes =
        (written.read e bytes).map fun value => (rename value.1, value.2) := by
      intro bytes
      rw [Struct.read, Struct.read, h.2, List.map_map, List.map_map]
      rfl
    rw [h.1, hread, Struct.read_write e assignment hmem]
    exact ⟨Struct.length_write e assignment hmem, rfl⟩
  apartWritten := written.slots_sorted
  apartRead := read.slots_sorted

/-- Different values are read differently. -/
theorem SameBytes.read_injective {rename : String → String} {written read : Struct}
    (h : SameBytes rename written read) (e : Endian) {mem mem' : List UInt8}
    (hmem : mem.length = written.sizeOf) (hmem' : mem'.length = written.sizeOf)
    {assignment assignment' : Assignment written}
    (hread : read.read e (written.write e assignment mem) =
      read.read e (written.write e assignment' mem')) :
    assignment.values = assignment'.values := by
  rw [(h.readBack e assignment mem hmem).2, (h.readBack e assignment' mem' hmem').2] at hread
  have hvalues : assignment.values.map Prod.snd = assignment'.values.map Prod.snd := by
    have htyped := congrArg (List.map Prod.snd) hread
    rwa [List.map_map, List.map_map] at htyped
  have hnames : assignment.values.map Prod.fst = assignment'.values.map Prod.fst := by
    have hfields := congrArg (List.map Prod.fst) (assignment.fits.trans assignment'.fits.symm)
    rwa [List.map_map, List.map_map] at hfields
  calc assignment.values
      = (assignment.values.map Prod.fst).zip (assignment.values.map Prod.snd) :=
        (List.zip_of_prod rfl rfl)
    _ = (assignment'.values.map Prod.fst).zip (assignment'.values.map Prod.snd) := by
        rw [hnames, hvalues]
    _ = assignment'.values := (List.zip_of_prod rfl rfl).symm

/-- A value of another type that is laid out as a record is determined by what is read. -/
theorem Mirrors.injective {α : Type} {rename : String → String} {written read : Struct}
    (h : Mirrors rename written read) {assignment : α → Assignment written}
    (hassignment : Function.Injective fun a => (assignment a).values) (e : Endian)
    {mem : List UInt8} (hmem : mem.length = written.sizeOf) :
    Function.Injective fun a => read.read e (written.write e (assignment a) mem) :=
  fun _ _ hread => hassignment ((sameBytes_of_mirrors h).read_injective e hmem hmem hread)

end Layout
