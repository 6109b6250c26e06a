/-
# Typed data that is written and read back

A serializer writes typed data as a value, a deserializer reads the data from the value.
Each shape of data comes with the rule that its reader gives back what was written, and a
text with the rule that reading it gives what the value does.
-/
import Tapio.Json.Ordered
import Tapio.Json.Spelling
import Tapio.Json.Typed

namespace Json

variable {α β : Type}

/-! ## Single values -/

@[simp]
theorem readString_string (s : String) : readString (.string s) = some s := rfl

@[simp]
theorem readBool_bool (b : Bool) : readBool (.bool b) = some b := by
  rw [readBool]

@[simp]
theorem readUInt64_ofUInt64 (n : UInt64) : readUInt64 (.ofUInt64 n) = some n := by
  have hlt := n.toNat_lt
  have hbounds : (0 : ℤ) ≤ n.toNat ∧ (n.toNat : ℤ) ≤ 2 ^ 64 - 1 := by omega
  rw [readUInt64, Value.ofUInt64, readInteger, if_pos hbounds, Option.map_some, Int.toNat_natCast,
    UInt64.ofNat_toNat]

@[simp]
theorem readUInt32_ofUInt32 (n : UInt32) : readUInt32 (.ofUInt32 n) = some n := by
  have hlt := n.toNat_lt
  have hbounds : (0 : ℤ) ≤ n.toUInt64.toNat ∧ (n.toUInt64.toNat : ℤ) ≤ 2 ^ 32 - 1 := by
    rw [UInt32.toNat_toUInt64]
    omega
  rw [readUInt32, Value.ofUInt32, Value.ofUInt64, readInteger, if_pos hbounds, Option.map_some,
    Int.toNat_natCast, UInt32.toNat_toUInt64, UInt32.ofNat_toNat]

theorem toNat_toUInt64_toInt64 {n : Int32} (hn : ¬ n < 0) :
    (n.toInt64.toUInt64.toNat : ℤ) = n.toInt := by
  have hpos : 0 ≤ n.toInt := by
    rw [Int32.lt_iff_toInt_lt] at hn
    exact Int.not_lt.mp hn
  have hword : 0 ≤ n.toInt64 := by
    rw [Int64.le_iff_toInt_le, Int32.toInt_toInt64]
    exact hpos
  rw [Int64.toNat_toUInt64_of_le hword, Int64.toNatClampNeg, Int32.toInt_toInt64,
    Int.toNat_of_nonneg hpos]

@[simp]
theorem readInt32_ofInt32 (n : Int32) : readInt32 (.ofInt32 n) = some n := by
  have hlow := n.le_toInt
  have hhigh := n.toInt_lt
  have hbounds : (-2 ^ 31 : ℤ) ≤ n.toInt ∧ n.toInt ≤ 2 ^ 31 - 1 := by omega
  rw [readInt32, Value.ofInt32]
  split
  · rw [readInteger, Int32.toInt_toInt64, if_pos hbounds, Option.map_some, Int32.ofInt_toInt]
  · next hneg =>
      rw [readInteger, toNat_toUInt64_toInt64 hneg, if_pos hbounds, Option.map_some,
        Int32.ofInt_toInt]

variable (format : FloatFormat)

theorem encode_ofUInt64 (n : UInt64) : (Value.ofUInt64 n).encode format = encodeNat n.toNat := rfl

theorem encode_ofUInt32 (n : UInt32) : (Value.ofUInt32 n).encode format = encodeNat n.toNat := by
  rw [Value.ofUInt32, encode_ofUInt64, UInt32.toNat_toUInt64]

theorem encode_ofInt32 (n : Int32) : (Value.ofInt32 n).encode format = encodeInt n.toInt := by
  rw [Value.ofInt32]
  split
  · rw [Value.encode, Number.encode, Int32.toInt_toInt64]
  · next hneg =>
      have hword := toNat_toUInt64_toInt64 hneg
      rw [Value.encode, Number.encode, encodeInt, if_pos (by omega), ← hword, Int.toNat_natCast]

/-! ## Lists and maps -/

theorem readList_map {write : α → Value} {read : Reader α} {xs : List α}
    (h : ∀ x ∈ xs, read (write x) = some x) : readList read (.array (xs.map write)) = some xs := by
  rw [readList, mapM_eq_some_iff_forall₂, List.forall₂_map_left_iff, List.forall₂_same]
  exact h

/-- A map is written as the object of its entries, in the order of its keys. -/
def Value.ofMap (write : α → Value) (map : Std.ExtTreeMap String α compare) : Value :=
  .object (map.toList.map fun e => (e.1, write e.2))

theorem lookup_eq_some_iff_mem {entries : List (String × α)}
    (hnodup : (entries.map Prod.fst).Nodup) {key : String} {x : α} :
    entries.lookup key = some x ↔ (key, x) ∈ entries := by
  rw [List.lookup_eq_some_iff]
  constructor
  · rintro ⟨before, after, rfl, -⟩
    exact List.mem_append_right _ List.mem_cons_self
  · intro hmem
    obtain ⟨before, after, rfl⟩ := List.append_of_mem hmem
    rw [List.map_append, List.nodup_append] at hnodup
    refine ⟨before, after, rfl, fun e he => bne_iff_ne.mpr fun hkey => ?_⟩
    exact hnodup.2.2 e.1 (List.mem_map_of_mem he) key (by simp) hkey.symm

theorem fromEntries_toList (map : Std.ExtTreeMap String α compare) :
    fromEntries map.toList = map := by
  have hnodup : (map.toList.reverse.map Prod.fst).Nodup := by
    rw [List.map_reverse, Std.ExtTreeMap.map_fst_toList_eq_keys]
    exact (List.reverse_perm _).nodup_iff.mpr Std.ExtTreeMap.nodup_keys
  refine Std.ExtTreeMap.ext_getElem? fun key => Option.ext fun x => ?_
  rw [getElem?_fromEntries, lookup_eq_some_iff_mem hnodup, List.mem_reverse,
    Std.ExtTreeMap.mem_toList_iff_getElem?_eq_some]

theorem readMap_ofMap {write : α → Value} {read : Reader α}
    (h : ∀ x, read (write x) = some x) (map : Std.ExtTreeMap String α compare) :
    readMap read (.ofMap write map) = some map := by
  have hentries : (map.toList.map fun e => (e.1, write e.2)).mapM (readEntry read) =
      some map.toList := by
    rw [mapM_eq_some_iff_forall₂, List.forall₂_map_left_iff, List.forall₂_same]
    intro e _
    rw [readEntry, h, Option.map_some]
  rw [Value.ofMap, readMap, hentries, Option.map_some, fromEntries_toList]

/-! ## Structs -/

/-- A struct whose fields have names of their own is built from these fields. -/
theorem readStruct_object {names : List String} {fields : List (String × Value)}
    (hnames : ∀ e ∈ fields, e.1 ∈ names) (hnodup : (fields.map Prod.fst).Nodup)
    (build : (String → Option Value) → Option α) :
    readStruct names build (.object fields) = build fun name => fields.lookup name := by
  have hknown : fields.filter (fun e => names.contains e.1) = fields := by
    rw [List.filter_eq_self]
    intro e he
    exact List.contains_iff_mem.mpr (hnames e he)
  rw [readStruct, structMembers]
  simp only [hknown, if_pos hnodup, Option.bind_some]

theorem encode_object (fields : List (String × Value)) :
    (Value.object fields).encode format =
      encodeObject (fields.map fun e => (e.1, e.2.encode format)) := by
  rw [Value.encode, encodeEntries_eq_map]

theorem encode_array (elements : List Value) :
    (Value.array elements).encode format = encodeArray (elements.map (Value.encode format)) := by
  rw [Value.encode, encodeValues_eq_map]

/-! ## How deep, and which numbers -/

@[simp]
theorem nestsWithin_string (depth : ℕ) (s : String) : (Value.string s).NestsWithin depth := by
  cases depth <;> trivial

@[simp]
theorem nestsWithin_bool (depth : ℕ) (b : Bool) : (Value.bool b).NestsWithin depth := by
  cases depth <;> trivial

@[simp]
theorem nestsWithin_number (depth : ℕ) (n : Number) : (Value.number n).NestsWithin depth := by
  cases depth <;> trivial

theorem nestsWithin_object {depth : ℕ} {fields : List (String × Value)} :
    (Value.object fields).NestsWithin (depth + 1) ↔ ∀ e ∈ fields, e.2.NestsWithin depth := by
  rw [Value.NestsWithin]

theorem nestsWithin_array {depth : ℕ} {elements : List Value} :
    (Value.array elements).NestsWithin (depth + 1) ↔ ∀ x ∈ elements, x.NestsWithin depth := by
  rw [Value.NestsWithin]

section

variable {format} {readFloat : List Char → Option UInt64}

theorem readable_object {fields : List (String × Value)} :
    (Value.object fields).Readable format readFloat ↔
      ∀ e ∈ fields, e.2.Readable format readFloat := by
  constructor
  · exact fun h e he => h.child (.field he)
  · intro h n hreach
    rcases Relation.ReflTransGen.cases_head hreach with heq | ⟨w, hstep, hrest⟩
    · cases heq
    · cases hstep with
      | field he => exact h _ he n hrest

theorem readable_array {elements : List Value} :
    (Value.array elements).Readable format readFloat ↔
      ∀ x ∈ elements, x.Readable format readFloat := by
  constructor
  · exact fun h x hx => h.child (.element hx)
  · intro h n hreach
    rcases Relation.ReflTransGen.cases_head hreach with heq | ⟨w, hstep, hrest⟩
    · cases heq
    · cases hstep with
      | element hx => exact h _ hx n hrest

theorem readable_number {n : Number} :
    (Value.number n).Readable format readFloat ↔ n.Readable format readFloat := by
  constructor
  · exact fun h => h n .refl
  · intro h m hreach
    rcases Relation.ReflTransGen.cases_head hreach with heq | ⟨w, hstep, -⟩
    · cases heq
      exact h
    · cases hstep

@[simp]
theorem readable_string (s : String) : (Value.string s).Readable format readFloat := by
  intro n hreach
  rcases Relation.ReflTransGen.cases_head hreach with heq | ⟨w, hstep, -⟩
  · cases heq
  · cases hstep

@[simp]
theorem readable_bool (b : Bool) : (Value.bool b).Readable format readFloat := by
  intro n hreach
  rcases Relation.ReflTransGen.cases_head hreach with heq | ⟨w, hstep, -⟩
  · cases heq
  · cases hstep

@[simp]
theorem readable_ofUInt64 (n : UInt64) : (Value.ofUInt64 n).Readable format readFloat :=
  readable_number.mpr trivial

@[simp]
theorem readable_ofInt32 (n : Int32) : (Value.ofInt32 n).Readable format readFloat := by
  rw [Value.ofInt32, readable_number]
  split
  · next hneg =>
      rw [Number.Readable, Int64.lt_iff_toInt_lt, Int32.toInt_toInt64]
      exact Int32.lt_iff_toInt_lt.mp hneg
  · trivial

end

/-- The reader gets through the value. -/
structure Legible (format : FloatFormat) (readFloat : List Char → Option UInt64) (depth : ℕ)
    (v : Value) : Prop where
  nests : v.NestsWithin depth
  readable : v.Readable format readFloat

section

variable {format} {readFloat : List Char → Option UInt64} {depth : ℕ}

@[simp]
theorem legible_string (s : String) : Legible format readFloat depth (.string s) :=
  ⟨nestsWithin_string depth s, readable_string s⟩

@[simp]
theorem legible_bool (b : Bool) : Legible format readFloat depth (.bool b) :=
  ⟨nestsWithin_bool depth b, readable_bool b⟩

@[simp]
theorem legible_ofUInt64 (n : UInt64) : Legible format readFloat depth (.ofUInt64 n) :=
  ⟨nestsWithin_number depth _, readable_ofUInt64 n⟩

@[simp]
theorem legible_ofUInt32 (n : UInt32) : Legible format readFloat depth (.ofUInt32 n) :=
  legible_ofUInt64 _

@[simp]
theorem legible_ofInt32 (n : Int32) : Legible format readFloat depth (.ofInt32 n) :=
  ⟨nestsWithin_number depth _, readable_ofInt32 n⟩

theorem legible_array {elements : List Value}
    (h : ∀ x ∈ elements, Legible format readFloat depth x) :
    Legible format readFloat (depth + 1) (.array elements) where
  nests := nestsWithin_array.mpr fun x hx => (h x hx).nests
  readable := readable_array.mpr fun x hx => (h x hx).readable

theorem legible_object {fields : List (String × Value)}
    (h : ∀ e ∈ fields, Legible format readFloat depth e.2) :
    Legible format readFloat (depth + 1) (.object fields) where
  nests := nestsWithin_object.mpr fun e he => (h e he).nests
  readable := readable_object.mpr fun e he => (h e he).readable

end

/-! ## Written values -/

/-- The text is how the value is written, and can be read. -/
structure WrittenAs (format : FloatFormat) (readFloat : List Char → Option UInt64) (depth : ℕ)
    (v : Value) (text : List Char) : Prop where
  encode : v.encode format = text
  legible : Legible format readFloat depth v

section

variable {format} {readFloat : List Char → Option UInt64} {depth : ℕ}

@[simp]
theorem writtenAs_string (s : String) :
    WrittenAs format readFloat depth (.string s) (encodeString s) := ⟨rfl, legible_string s⟩

@[simp]
theorem writtenAs_bool (b : Bool) : WrittenAs format readFloat depth (.bool b) (encodeBool b) :=
  ⟨rfl, legible_bool b⟩

@[simp]
theorem writtenAs_ofUInt64 (n : UInt64) :
    WrittenAs format readFloat depth (.ofUInt64 n) (encodeNat n.toNat) := ⟨rfl, legible_ofUInt64 n⟩

@[simp]
theorem writtenAs_ofUInt32 (n : UInt32) :
    WrittenAs format readFloat depth (.ofUInt32 n) (encodeNat n.toNat) :=
  ⟨encode_ofUInt32 format n, legible_ofUInt32 n⟩

@[simp]
theorem writtenAs_ofInt32 (n : Int32) :
    WrittenAs format readFloat depth (.ofInt32 n) (encodeInt n.toInt) :=
  ⟨encode_ofInt32 format n, legible_ofInt32 n⟩

theorem writtenAs_array {write : α → Value} {text : α → List Char} {xs : List α}
    (h : ∀ x ∈ xs, WrittenAs format readFloat depth (write x) (text x)) :
    WrittenAs format readFloat (depth + 1) (.array (xs.map write)) (encodeArray (xs.map text)) where
  encode := by
    rw [encode_array, List.map_map]
    exact congrArg encodeArray (List.map_congr_left fun x hx => (h x hx).encode)
  legible := legible_array (List.forall_mem_map.mpr fun x hx => (h x hx).legible)

theorem writtenAs_object {fields : List (String × Value)} {texts : List (String × List Char)}
    (h : List.Forall₂ (SameKey fun _ => WrittenAs format readFloat depth) fields texts) :
    WrittenAs format readFloat (depth + 1) (.object fields) (encodeObject texts) where
  encode := by
    have htexts : fields.map (fun e => (e.1, e.2.encode format)) = texts := by
      induction h with
      | nil => rfl
      | cons hsame _ ih => rw [List.map_cons, ih, hsame.2.encode, hsame.1]
    rw [encode_object, htexts]
  legible := by
    have hlegible : ∀ e ∈ fields, Legible format readFloat depth e.2 := by
      induction h with
      | nil => exact List.forall_mem_nil _
      | cons hsame _ ih => exact List.forall_mem_cons.mpr ⟨hsame.2.legible, ih⟩
    exact legible_object hlegible

theorem writtenAs_ofMap {write : α → Value} {text : α → List Char}
    (h : ∀ x, WrittenAs format readFloat depth (write x) (text x))
    (map : Std.ExtTreeMap String α compare) :
    WrittenAs format readFloat (depth + 1) (.ofMap write map)
      (encodeObject (map.toList.map fun (key, x) => (key, text x))) := by
  refine writtenAs_object ?_
  rw [List.forall₂_map_left_iff, List.forall₂_map_right_iff, List.forall₂_same]
  exact fun e _ => ⟨rfl, h e.2⟩

end

/-! ## Flat objects -/

/-- A value that is no container, and whose float is among these if it is one. -/
inductive Scalar (floats : List UInt64) : Value → Prop
  | string (s : String) : Scalar floats (.string s)
  | bool (b : Bool) : Scalar floats (.bool b)
  | ofUInt64 (n : UInt64) : Scalar floats (.ofUInt64 n)
  | ofInt32 (n : Int32) : Scalar floats (.ofInt32 n)
  | float {bits : UInt64} : bits ∈ floats → Scalar floats (.number (.float bits))

section

variable {format} {readFloat : List Char → Option UInt64} {depth : ℕ} {floats : List UInt64}
    {fields : List (String × Value)}

theorem Scalar.ordered {v : Value} (h : Scalar floats v) : v.Ordered := by
  intro entries hreach
  rcases Relation.ReflTransGen.cases_head hreach with rfl | ⟨w, hstep, -⟩
  · cases h
  · cases h with
    | string s => cases hstep
    | bool b => cases hstep
    | ofUInt64 n => cases hstep
    | ofInt32 n => cases hstep
    | float hbits => cases hstep

theorem Scalar.legible {v : Value} (h : Scalar floats v)
    (hfloats : ∀ bits ∈ floats, (Number.float bits).Readable format readFloat) :
    Legible format readFloat depth v := by
  cases h with
  | string s => exact legible_string s
  | bool b => exact legible_bool b
  | ofUInt64 n => exact legible_ofUInt64 n
  | ofInt32 n => exact legible_ofInt32 n
  | float hbits => exact ⟨nestsWithin_number depth _, readable_number.mpr (hfloats _ hbits)⟩

variable (h : ∀ e ∈ fields, Scalar floats e.2)
include h

theorem ordered_ofFields : (Value.object (ofFields fields)).Ordered := by
  intro entries hreach
  rcases Relation.ReflTransGen.cases_head hreach with heq | ⟨w, hstep, hrest⟩
  · cases heq
    exact keysOrdered_ofFields fields
  · cases hstep with
    | field he => exact (h _ (mem_of_mem_ofFields he)).ordered entries hrest

theorem legible_ofFields
    (hfloats : ∀ bits ∈ floats, (Number.float bits).Readable format readFloat) :
    Legible format readFloat (depth + 1) (.object (ofFields fields)) :=
  legible_object fun e he => (h e (mem_of_mem_ofFields he)).legible hfloats

end

/-! ## Texts -/

/-- How deep containers may be nested, one less than the limit of the recursion. -/
def maxDepth : ℕ := 127

/-- Data read from bytes, which are those of a text. Members that a type passes over are read
like the rest, which `serde_json` does not ask of them: their numbers may leave every range,
their strings be no text, and they are nested as deep as they like. -/
def fromSliceStrict (readFloat : List Char → Option UInt64) (read : Reader α)
    (bytes : List UInt8) : Option α := do
  let text ← String.fromUTF8? bytes.toByteArray
  read (← parse readFloat maxDepth text.toList)

variable {format} {readFloat : List Char → Option UInt64}

/-- The bytes of a text are read as the text. -/
theorem fromUTF8?_utf8 (text : List Char) :
    String.fromUTF8? (utf8 text).toByteArray = some (String.ofList text) := by
  have hbytes : (utf8 text).toByteArray = (String.ofList text).toByteArray := by
    ext1
    simp [utf8]
  rw [hbytes, String.fromUTF8?, dif_pos (String.ofList text).isValidUTF8]
  rfl

/-- **What spells a value is read as the value is.** -/
theorem fromSliceStrict_of_spells {v : Value} {text : List Char}
    (h : Spells format readFloat v text) (hdepth : v.NestsWithin maxDepth) (read : Reader α) :
    fromSliceStrict readFloat read (utf8 text) = read v := by
  rw [fromSliceStrict, fromUTF8?_utf8, Option.bind_eq_bind, Option.bind_some,
    String.toList_ofList, parse_of_spells h hdepth, Option.bind_eq_bind, Option.bind_some]

theorem fromSliceStrict_of_writtenAs (format : FloatFormat) {v : Value} {text : List Char}
    (h : WrittenAs format readFloat maxDepth v text) (read : Reader α) :
    fromSliceStrict readFloat read (utf8 text) = read v := by
  obtain ⟨rfl, hlegible⟩ := h
  exact fromSliceStrict_of_spells (spells_encode hlegible.readable) hlegible.nests read

end Json
