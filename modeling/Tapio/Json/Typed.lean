/-
# Typed data read from JSON values

A reader turns a value into typed data or refuses it. A struct is read from the members
that the value has under the struct's names, the other members of an object are passed
over. Written as an array, a struct has its members in order and no others.

The second half says how a reader sees a value that has grown: each relation between a
value and a later one comes with the rule that carries it through the reader of that
shape.
-/
import Mathlib.Algebra.Order.Ring.Nat
import Mathlib.Data.List.Forall2
import Mathlib.Tactic.TypeStar
import Std.Data.ExtTreeMap
import Tapio.Json.Value

namespace Json

variable {α β : Type}

/-- A way to read typed data from a value. -/
abbrev Reader (α : Type) := Value → Option α

/-! ## Readers -/

def readString : Reader String
  | .string s => some s
  | _ => none

def readBool : Reader Bool
  | .bool b => some b
  | _ => none

/-- The integer between the bounds that a number is; a float is none. -/
def readInteger (low high : ℤ) : Reader ℤ
  | .number (.posInt n) => if low ≤ n.toNat ∧ n.toNat ≤ high then some n.toNat else none
  | .number (.negInt n) => if low ≤ n.toInt ∧ n.toInt ≤ high then some n.toInt else none
  | _ => none

def readUInt64 : Reader UInt64 := fun v =>
  (readInteger 0 (2 ^ 64 - 1) v).map fun n => UInt64.ofNat n.toNat

def readUInt32 : Reader UInt32 := fun v =>
  (readInteger 0 (2 ^ 32 - 1) v).map fun n => UInt32.ofNat n.toNat

def readInt32 : Reader Int32 := fun v =>
  (readInteger (-2 ^ 31) (2 ^ 31 - 1) v).map Int32.ofInt

/-- Any value, as it is. -/
def readAny : Reader Value := some

def readList (read : Reader α) : Reader (List α)
  | .array elements => elements.mapM read
  | _ => none

/-- The map with these entries; the last entry with a key stands. -/
def fromEntries (entries : List (String × α)) : Std.ExtTreeMap String α compare :=
  entries.foldl (fun map e => map.insert e.1 e.2) ∅

def readEntry (read : Reader α) (e : String × Value) : Option (String × α) :=
  (read e.2).map fun x => (e.1, x)

/-- An object that is used as a map. -/
def readMap (read : Reader α) : Reader (Std.ExtTreeMap String α compare)
  | .object entries => (entries.mapM (readEntry read)).map fromEntries
  | _ => none

/-- A unit variant: its name, or an object that maps its name to null. -/
def readVariant (named : String → Option α) : Reader α
  | .string s => named s
  | .object [(s, .null)] => named s
  | _ => none

/-- The members that a value has under the names of a struct. A name that an object has
twice is refused, so is an array that is longer than the struct. -/
def structMembers (names : List String) : Value → Option (List (String × Value))
  | .object entries =>
      let known := entries.filter fun e => names.contains e.1
      if (known.map Prod.fst).Nodup then some known else none
  | .array elements =>
      if elements.length ≤ names.length then some (names.zip elements) else none
  | _ => none

/-- The member with the name, which has to be there. -/
def member (name : String) (read : Reader α) (find : String → Option Value) : Option α :=
  (find name).bind read

/-- The member with the name, or its default. -/
def memberOr (name : String) (fallback : α) (read : Reader α)
    (find : String → Option Value) : Option α :=
  match find name with
  | none => some fallback
  | some v => read v

/-- A struct is built from the members found under its names. -/
def readStruct (names : List String) (build : (String → Option Value) → Option α) : Reader α :=
  fun v => (structMembers names v).bind fun known => build fun name => known.lookup name

/-- The elements of a member that is an array. -/
def elementsOf : Option Value → List Value
  | some (.array elements) => elements
  | _ => []

/-- The entries of a member that is an object. -/
def entriesOf : Option Value → List (String × Value)
  | some (.object entries) => entries
  | _ => []

theorem forall_elementsOf_iff {p : Value → Prop} {found : Option Value} :
    (∀ v, found = some v → ∀ x ∈ elementsOf (some v), p x) ↔ ∀ x ∈ elementsOf found, p x := by
  cases found <;> simp [elementsOf]

theorem forall_entriesOf_iff {p : String × Value → Prop} {found : Option Value} :
    (∀ v, found = some v → ∀ e ∈ entriesOf (some v), p e) ↔ ∀ e ∈ entriesOf found, p e := by
  cases found <;> simp [entriesOf]

/-- The value of a struct's member, if the struct has it. -/
def memberValue (names : List String) (v : Value) (name : String) : Option Value :=
  (structMembers names v).bind fun known => known.lookup name

theorem mapM_eq_some_iff_forall₂ {read : α → Option β} {xs : List α} {ys : List β} :
    xs.mapM read = some ys ↔ List.Forall₂ (fun x y => read x = some y) xs ys := by
  induction xs generalizing ys with
  | nil => cases ys <;> simp
  | cons x rest ih =>
      rw [List.mapM_cons, List.forall₂_cons_left_iff]
      constructor
      · intro h
        obtain ⟨y, hy, hrest⟩ := Option.bind_eq_some_iff.mp h
        obtain ⟨ys', hys', hcons⟩ := Option.bind_eq_some_iff.mp hrest
        exact ⟨y, ys', hy, ih.mp hys', (Option.some.inj hcons).symm⟩
      · rintro ⟨y, ys', hy, hrest, rfl⟩
        rw [hy, ih.mpr hrest]
        rfl

/-! ## Values that have grown -/

/-- A value that stays as it is. -/
def Kept (v v' : Value) : Prop := v' = v

/-- Two entries with the same key, whose values are related. -/
def SameKey {γ : Type} (related : String → β → γ → Prop) (e : String × β) (e' : String × γ) :
    Prop :=
  e.1 = e'.1 ∧ related e.1 e.2 e'.2

/-- The members under the names of a struct are related one by one; members with other
names may come and go. -/
inductive StructGrown (names : List String) (grown : String → Value → Value → Prop) :
    Value → Value → Prop
  | object {entries entries' : List (String × Value)} :
      List.Forall₂ (SameKey grown) (entries.filter fun e => names.contains e.1)
        (entries'.filter fun e => names.contains e.1) →
      StructGrown names grown (.object entries) (.object entries')
  | array {xs xs' : List Value} :
      xs.length = xs'.length →
      List.Forall₂ (SameKey grown) (names.zip xs) (names.zip xs') →
      StructGrown names grown (.array xs) (.array xs')

/-- The elements of two arrays are related one by one. -/
inductive ListGrown (grown : Value → Value → Prop) : Value → Value → Prop
  | array {xs xs' : List Value} :
      List.Forall₂ grown xs xs' → ListGrown grown (.array xs) (.array xs')

/-- Two maps have the same keys, with related values. -/
inductive MapGrown (grown : Value → Value → Prop) : Value → Value → Prop
  | object {entries entries' : List (String × Value)} :
      List.Forall₂ (SameKey fun _ => grown) entries entries' →
      MapGrown grown (.object entries) (.object entries')

/-- The value of an enumeration is kept, or some string stands in its place. -/
def VariantGrown (v v' : Value) : Prop := v' = v ∨ ∃ s, v' = .string s

/-! ## What the readers see of it -/

theorem rel_kept_iff {o o' : Option Value} : Option.Rel Kept o o' ↔ o' = o := by
  constructor
  · intro h
    cases h with
    | none => rfl
    | some hkept => exact congrArg some hkept
  · rintro rfl
    cases o' with
    | none => exact .none
    | some v => exact .some rfl

section

variable {γ : Type} {related : String → β → γ → Prop} {xs : List (String × β)}
    {ys : List (String × γ)}

/-- Lookups in two lists whose entries have the same keys. -/
theorem lookup_forall₂ (h : List.Forall₂ (SameKey related) xs ys) (key : String) :
    Option.Rel (related key) (xs.lookup key) (ys.lookup key) := by
  induction h with
  | nil => exact .none
  | @cons e y _ _ hsame _ ih =>
      obtain ⟨k, x⟩ := e
      obtain ⟨k', x'⟩ := y
      obtain ⟨rfl, hrelated⟩ : k = k' ∧ related k x x' := hsame
      by_cases hkey : key = k
      · subst hkey
        rw [List.lookup_cons_self, List.lookup_cons_self]
        exact .some hrelated
      · rw [List.lookup_cons, List.lookup_cons, beq_eq_false_iff_ne.mpr hkey]
        exact ih

theorem keys_forall₂ (h : List.Forall₂ (SameKey related) xs ys) :
    xs.map Prod.fst = ys.map Prod.fst := by
  induction h with
  | nil => rfl
  | cons hsame _ ih => rw [List.map_cons, List.map_cons, hsame.1, ih]

end

/-- The members of a struct that has grown are those of the struct before, related name
by name. -/
theorem structMembers_grown {names : List String} {grown : String → Value → Value → Prop}
    {v v' : Value} (h : StructGrown names grown v v') :
    Option.Rel (fun known known' => ∀ name,
        Option.Rel (grown name) (known.lookup name) (known'.lookup name))
      (structMembers names v) (structMembers names v') := by
  cases h with
  | object hknown =>
      simp only [structMembers, keys_forall₂ hknown]
      split
      · exact .some (lookup_forall₂ hknown)
      · exact .none
  | array hlength hknown =>
      simp only [structMembers, hlength]
      split
      · exact .some (lookup_forall₂ hknown)
      · exact .none

theorem isSome_rel {γ : Type} {related : β → γ → Prop} {o : Option β} {o' : Option γ}
    (h : Option.Rel related o o') : o.isSome = o'.isSome := by
  cases h <;> rfl

theorem rel_some {γ : Type} {related : β → γ → Prop} {x : β} {x' : γ}
    (h : Option.Rel related (some x) (some x')) : related x x' := by
  cases h
  assumption

/-- What is done with two related values, if they are there. -/
theorem bind_rel {γ : Type} {related : α → β → Prop} {o : Option α} {o' : Option β}
    (h : Option.Rel related o o') {f : α → Option γ} {f' : β → Option γ}
    {q : Option γ → Option γ → Prop} (hnone : q none none)
    (hsome : ∀ x x', related x x' → q (f x) (f' x')) :
    q (o.bind f) (o'.bind f') := by
  cases h with
  | none => exact hnone
  | some hrelated => exact hsome _ _ hrelated

theorem memberValue_grown {names : List String} {grown : String → Value → Value → Prop}
    {v v' : Value} (h : StructGrown names grown v v') (name : String) :
    Option.Rel (grown name) (memberValue names v name) (memberValue names v' name) := by
  exact bind_rel (structMembers_grown h) .none fun _ _ hlookup => hlookup name

/-- A struct that is read is built from its members, and so is what it has grown to. -/
theorem readStruct_grown {names : List String} {grown : String → Value → Value → Prop}
    {build : (String → Option Value) → Option α} {v v' : Value} {x : α}
    (h : StructGrown names grown v v') (hread : readStruct names build v = some x) :
    build (memberValue names v) = some x ∧
      readStruct names build v' = build (memberValue names v') := by
  obtain ⟨known, hknown, hbuild⟩ := Option.bind_eq_some_iff.mp hread
  have hmembers := isSome_rel (structMembers_grown h)
  rw [hknown, Option.isSome_some, eq_comm, Option.isSome_iff_exists] at hmembers
  obtain ⟨known', hknown'⟩ := hmembers
  have hfind : memberValue names v = fun name => known.lookup name := by
    funext name
    rw [memberValue, hknown, Option.bind_some]
  have hfind' : memberValue names v' = fun name => known'.lookup name := by
    funext name
    rw [memberValue, hknown', Option.bind_some]
  exact ⟨hfind ▸ hbuild, by rw [readStruct, hknown', Option.bind_some, hfind']⟩

/-- A reader does not tell a value from what it grows to. -/
def Unaffected (grown : Value → Value → Prop) (read : Reader α) : Prop :=
  ∀ v v', grown v v' → read v' = read v

theorem unaffected_kept (read : Reader α) : Unaffected Kept read := by
  intro v v' hkept
  rw [hkept]

section

variable {names : List String} {find find' : String → Option Value}

theorem member_grown {grown : Value → Value → Prop} {name : String} {read : Reader α}
    (hfind : Option.Rel grown (find name) (find' name)) (hread : Unaffected grown read) :
    member name read find' = member name read find := by
  exact bind_rel (q := fun o o' => o' = o) hfind rfl hread

theorem memberOr_grown {grown : Value → Value → Prop} {name : String} {fallback : α}
    {read : Reader α} (hfind : Option.Rel grown (find name) (find' name))
    (hread : Unaffected grown read) :
    memberOr name fallback read find' = memberOr name fallback read find := by
  unfold memberOr
  generalize find name = found at *
  generalize find' name = found' at *
  cases hfind with
  | none => rfl
  | some hgrown => exact hread _ _ hgrown

/-- A struct is read the same if it is built the same from related members. -/
theorem unaffected_struct {grown : String → Value → Value → Prop}
    {build : (String → Option Value) → Option α}
    (hbuild : ∀ find find', (∀ name, Option.Rel (grown name) (find name) (find' name)) →
      build find' = build find) :
    Unaffected (StructGrown names grown) (readStruct names build) := by
  intro v v' h
  exact bind_rel (q := fun o o' => o' = o) (structMembers_grown h) rfl
    fun _ _ hlookup => hbuild _ _ hlookup

/-- A struct whose members keep their values is read the same, however it is built. -/
theorem unaffected_struct_kept (build : (String → Option Value) → Option α) :
    Unaffected (StructGrown names fun _ => Kept) (readStruct names build) := by
  apply unaffected_struct
  intro find find' hfind
  have hsame : find' = find := by
    funext name
    exact rel_kept_iff.mp (hfind name)
  rw [hsame]

end

/-! ## Readers that not every value suits -/

/-- A reader still reads what a value has grown to if it is acceptable, and what it then
reads is close to what it read before. -/
structure Reads (grown : Value → Value → Prop) (acceptable : Value → Prop)
    (close : Value → Value → α → α → Prop) (read : Reader α) : Prop where
  isSome_iff : ∀ {v v' : Value} {x : α}, grown v v' → read v = some x →
    ((read v').isSome ↔ acceptable v')
  close : ∀ {v v' : Value} {x x' : α}, grown v v' → read v = some x → read v' = some x' →
    close v v' x x'

/-- A variant whose value is kept is the same variant. -/
def VariantClose (v v' : Value) (x x' : α) : Prop := v' = v → x' = x

/-- As many elements, each close to the one before. -/
def ListClose (close : Value → Value → α → α → Prop) (vs vs' : List Value)
    (xs xs' : List α) : Prop :=
  xs'.length = xs.length ∧ ∀ (i : ℕ) (v v' : Value) (x x' : α),
    vs[i]? = some v → vs'[i]? = some v' → xs[i]? = some x → xs'[i]? = some x' →
      close v v' x x'

/-- The same keys, each with a value close to the one before. -/
def MapClose (close : Value → Value → α → α → Prop) (vs vs' : List (String × Value))
    (map map' : Std.ExtTreeMap String α compare) : Prop :=
  ∀ key, (key ∈ map' ↔ key ∈ map) ∧ ∀ (v v' : Value) (x x' : α),
    vs.reverse.lookup key = some v → vs'.reverse.lookup key = some v' →
      map[key]? = some x → map'[key]? = some x' → close v v' x x'

/-- A string in the place of a variant has to name one. -/
theorem reads_variant (named : String → Option α) :
    Reads VariantGrown (fun v => ∀ s, v = .string s → (named s).isSome) VariantClose
      (readVariant named) where
  isSome_iff := by
    intro v v' x h hread
    rcases h with rfl | ⟨s, rfl⟩
    · simp only [hread, Option.isSome_some, true_iff]
      rintro s rfl
      exact Option.isSome_iff_exists.mpr ⟨x, hread⟩
    · simp [readVariant]
  close := by
    rintro v v' x x' - hread hread' rfl
    exact Option.some.inj (hread'.symm.trans hread)

theorem isSome_mapM_iff {read : α → Option β} {xs : List α} :
    (xs.mapM read).isSome ↔ ∀ x ∈ xs, (read x).isSome := by
  induction xs with
  | nil => simp
  | cons x rest ih =>
      rw [List.mapM_cons, List.forall_mem_cons, ← ih]
      cases read x with
      | none => simp
      | some y => cases rest.mapM read <;> simp

theorem forall₂_getElem? {related : α → β → Prop} {xs : List α} {ys : List β}
    (h : List.Forall₂ related xs ys) {i : ℕ} {x : α} {y : β} (hx : xs[i]? = some x)
    (hy : ys[i]? = some y) : related x y := by
  obtain ⟨hi, rfl⟩ := List.getElem?_eq_some_iff.mp hx
  obtain ⟨hi', rfl⟩ := List.getElem?_eq_some_iff.mp hy
  exact h.get hi hi'

section

variable {grown : Value → Value → Prop} {acceptable : Value → Prop}
    {close : Value → Value → α → α → Prop} {read : Reader α}

/-- Of values that are read one by one, all that have grown are read if all are
acceptable. -/
theorem Reads.isSome_mapM_iff {f : β → Value}
    (hread : Reads grown acceptable close read) {vs vs' : List β} {xs : List α}
    (hgrown : List.Forall₂ (fun e e' => grown (f e) (f e')) vs vs')
    (hxs : List.Forall₂ (fun e x => read (f e) = some x) vs xs) :
    (∀ e ∈ vs', (read (f e)).isSome) ↔ ∀ e ∈ vs', acceptable (f e) := by
  induction hgrown generalizing xs with
  | nil => simp
  | cons hhead _ ih =>
      cases hxs with
      | cons hx hrest =>
          rw [List.forall_mem_cons, List.forall_mem_cons, ih hrest,
            hread.isSome_iff hhead hx]

theorem reads_list (hread : Reads grown acceptable close read) :
    Reads (ListGrown grown) (fun v => ∀ x ∈ elementsOf (some v), acceptable x)
      (fun v v' => ListClose close (elementsOf (some v)) (elementsOf (some v')))
      (readList read) where
  isSome_iff := by
    intro v v' xs h hxs
    obtain ⟨hgrown⟩ := h
    rw [readList, isSome_mapM_iff]
    exact hread.isSome_mapM_iff (f := id) hgrown (mapM_eq_some_iff_forall₂.mp hxs)
  close := by
    intro v v' xs xs' h hxs hxs'
    obtain ⟨hgrown⟩ := h
    have hall := mapM_eq_some_iff_forall₂.mp hxs
    have hall' := mapM_eq_some_iff_forall₂.mp hxs'
    refine ⟨?_, ?_⟩
    · rw [← hall'.length_eq, ← hall.length_eq, hgrown.length_eq]
    · intro i v v' x x' hv hv' hx hx'
      exact hread.close (forall₂_getElem? hgrown hv hv') (forall₂_getElem? hall hv hx)
        (forall₂_getElem? hall' hv' hx')

end

theorem getElem?_fromEntries (entries : List (String × α)) (key : String) :
    (fromEntries entries)[key]? = entries.reverse.lookup key := by
  have hfold : ∀ map : Std.ExtTreeMap String α compare,
      (entries.foldl (fun map e => map.insert e.1 e.2) map)[key]? =
        (entries.reverse.lookup key).or map[key]? := by
    induction entries with
    | nil => simp
    | cons e rest ih =>
        intro map
        rw [List.foldl_cons, ih, List.reverse_cons, List.lookup_append, Option.or_assoc,
          Std.ExtTreeMap.getElem?_insert]
        congr 1
        obtain ⟨k, x⟩ := e
        by_cases hkey : key = k
        · subst hkey
          rw [List.lookup_cons_self, if_pos Std.ReflCmp.compare_self]
          rfl
        · have hne : compare k key ≠ .eq := by
            intro heq
            exact hkey (Std.LawfulEqCmp.eq_of_compare heq).symm
          rw [List.lookup_cons, beq_eq_false_iff_ne.mpr hkey, if_neg hne]
          rfl
  rw [fromEntries, hfold]
  simp

/-- Entries that are read keep their keys. -/
theorem mapM_readEntry_eq_some_iff {read : Reader α} {entries : List (String × Value)}
    {ys : List (String × α)} :
    entries.mapM (readEntry read) = some ys ↔
      List.Forall₂ (SameKey fun _ v x => read v = some x) entries ys := by
  have hentry : ∀ (e : String × Value) (y : String × α),
      readEntry read e = some y ↔ SameKey (fun _ v x => read v = some x) e y := by
    intro e ⟨key, x⟩
    simp only [readEntry, Option.map_eq_some_iff, Prod.mk.injEq, SameKey]
    constructor
    · rintro ⟨_, hread, hkey, rfl⟩
      exact ⟨hkey, hread⟩
    · rintro ⟨hkey, hread⟩
      exact ⟨x, hread, hkey, rfl⟩
  simp only [mapM_eq_some_iff_forall₂, hentry]

/-- What the map has under a key was read from the last entry with the key. -/
theorem getElem?_readMap {read : Reader α} {entries : List (String × Value)}
    {ys : List (String × α)}
    (h : List.Forall₂ (SameKey fun _ v x => read v = some x) entries ys) (key : String) :
    Option.Rel (fun v x => read v = some x) (entries.reverse.lookup key)
      ((fromEntries ys)[key]?) := by
  rw [getElem?_fromEntries]
  exact lookup_forall₂ (List.forall₂_reverse_iff.mpr h) key

theorem reads_map {grown : Value → Value → Prop} {acceptable : Value → Prop}
    {close : Value → Value → α → α → Prop} {read : Reader α}
    (hread : Reads grown acceptable close read) :
    Reads (MapGrown grown) (fun v => ∀ e ∈ entriesOf (some v), acceptable e.2)
      (fun v v' => MapClose close (entriesOf (some v)) (entriesOf (some v')))
      (readMap read) where
  isSome_iff := by
    intro v v' map h hmap
    obtain ⟨hgrown⟩ := h
    obtain ⟨ys, hys, -⟩ := Option.map_eq_some_iff.mp hmap
    have hall := mapM_readEntry_eq_some_iff.mp hys
    rw [readMap, Option.isSome_map, isSome_mapM_iff]
    simp only [readEntry, Option.isSome_map]
    exact hread.isSome_mapM_iff (hgrown.imp fun _ _ hsame => hsame.2)
      (List.forall₂_map_right_iff.mpr (hall.imp fun _ _ hsame => hsame.2))
  close := by
    intro v v' map map' h hmap hmap'
    obtain ⟨hgrown⟩ := h
    obtain ⟨ys, hys, rfl⟩ := Option.map_eq_some_iff.mp hmap
    obtain ⟨ys', hys', rfl⟩ := Option.map_eq_some_iff.mp hmap'
    intro key
    have hfound := getElem?_readMap (mapM_readEntry_eq_some_iff.mp hys) key
    have hfound' := getElem?_readMap (mapM_readEntry_eq_some_iff.mp hys') key
    have hkey := lookup_forall₂ (List.forall₂_reverse_iff.mpr hgrown) key
    constructor
    · rw [← Std.ExtTreeMap.isSome_getElem?_iff_mem, ← Std.ExtTreeMap.isSome_getElem?_iff_mem,
        ← isSome_rel hfound', ← isSome_rel hfound, isSome_rel hkey]
    · intro v v' x x' hv hv' hx hx'
      simp only [entriesOf] at hv hv'
      rw [hv, hx] at hfound
      rw [hv', hx'] at hfound'
      rw [hv, hv'] at hkey
      have hold := rel_some hfound
      have hnew := rel_some hfound'
      exact hread.close (rel_some hkey) hold hnew

section

variable {grown : Value → Value → Prop} {acceptable : Value → Prop}
    {close : Value → Value → α → α → Prop} {read : Reader α} {name : String}
    {find find' : String → Option Value} {x x' : α}

theorem Reads.isSome_member_iff (hread : Reads grown acceptable close read)
    (hfind : Option.Rel grown (find name) (find' name))
    (hx : member name read find = some x) :
    (member name read find').isSome ↔ ∀ v, find' name = some v → acceptable v := by
  unfold member at *
  generalize find name = found at *
  generalize find' name = found' at *
  cases hfind with
  | none => exact absurd hx (by simp)
  | some hgrown => simpa using hread.isSome_iff hgrown hx

theorem Reads.close_member (hread : Reads grown acceptable close read)
    (hfind : Option.Rel grown (find name) (find' name))
    (hx : member name read find = some x) (hx' : member name read find' = some x') :
    ∃ v v', find name = some v ∧ find' name = some v' ∧ close v v' x x' := by
  unfold member at *
  generalize find name = found at *
  generalize find' name = found' at *
  cases hfind with
  | none => exact absurd hx (by simp)
  | some hgrown => exact ⟨_, _, rfl, rfl, hread.close hgrown hx hx'⟩

/-- A list that may be left out. -/
theorem Reads.isSome_memberOr {fallback : α} (hread : Reads grown acceptable close read)
    (hacceptable : ∀ v, acceptable v) (hfind : Option.Rel grown (find name) (find' name))
    (hx : memberOr name fallback read find = some x) :
    (memberOr name fallback read find').isSome := by
  unfold memberOr at *
  generalize find name = found at *
  generalize find' name = found' at *
  cases hfind with
  | none => rfl
  | some hgrown => exact (hread.isSome_iff hgrown hx).mpr (hacceptable _)

end

theorem close_memberOr_list {grown : Value → Value → Prop} {acceptable : Value → Prop}
    {close : Value → Value → α → α → Prop} {read : Reader α} {name : String}
    {find find' : String → Option Value} {xs xs' : List α}
    (hread : Reads grown acceptable close read)
    (hfind : Option.Rel (ListGrown grown) (find name) (find' name))
    (hxs : memberOr name [] (readList read) find = some xs)
    (hxs' : memberOr name [] (readList read) find' = some xs') :
    ListClose close (elementsOf (find name)) (elementsOf (find' name)) xs xs' := by
  unfold memberOr at *
  generalize find name = found at *
  generalize find' name = found' at *
  cases hfind with
  | none =>
      obtain rfl := Option.some.inj hxs
      obtain rfl := Option.some.inj hxs'
      exact ⟨rfl, fun i v v' x x' hv => absurd hv (by simp [elementsOf])⟩
  | some hgrown => exact (reads_list hread).close hgrown hxs hxs'

end Json
