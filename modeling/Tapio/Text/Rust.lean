/-
# String functions of the standard library

The functions of `str` that the code uses, on the characters of a string: `trim`
removes characters with the Unicode property `White_Space` from both ends,
`split` and `splitOnce` cut at a character, and the parsers read decimal
numbers.
-/
import Mathlib.Algebra.Order.Ring.Nat
import Mathlib.Data.List.DropRight

namespace Text

/-- The Unicode property `White_Space`. -/
def isWhitespace (c : Char) : Bool :=
  (0x09 ≤ c.toNat && c.toNat ≤ 0x0D) || c.toNat == 0x20 || c.toNat == 0x85 ||
    c.toNat == 0xA0 || c.toNat == 0x1680 || (0x2000 ≤ c.toNat && c.toNat ≤ 0x200A) ||
    c.toNat == 0x2028 || c.toNat == 0x2029 || c.toNat == 0x202F || c.toNat == 0x205F ||
    c.toNat == 0x3000

/-- Remove whitespace from both ends. -/
def trim (s : String) : String :=
  String.ofList ((s.toList.dropWhile isWhitespace).rdropWhile isWhitespace)

def startsWith (s pattern : String) : Bool :=
  pattern.toList.isPrefixOf s.toList

/-- The value of a string of decimal digits, most significant first. -/
def digitsValue (digits : List Char) : ℕ :=
  digits.foldl (fun value c => 10 * value + (c.toNat - '0'.toNat)) 0

/-- The pieces between the separators; there is one more piece than separators. -/
def splitChars (separator : Char) : List Char → List (List Char)
  | [] => [[]]
  | c :: rest =>
      if c = separator then [] :: splitChars separator rest
      else
        match splitChars separator rest with
        | [] => [[c]]
        | piece :: pieces => (c :: piece) :: pieces

def split (s : String) (separator : Char) : List String :=
  (splitChars separator s.toList).map String.ofList

/-- Cut at the first separator, if there is one. -/
def splitOnce (s : String) (separator : Char) : Option (String × String) :=
  if separator ∈ s.toList then
    some (String.ofList (s.toList.takeWhile (· ≠ separator)),
      String.ofList ((s.toList.dropWhile (· ≠ separator)).drop 1))
  else none

/-- The characters of the first bytes, if no character is cut. -/
def takeBytes : ℕ → List Char → Option (List Char)
  | 0, _ => some []
  | _ + 1, [] => none
  | n + 1, c :: rest =>
      if c.utf8Size ≤ n + 1 then (takeBytes (n + 1 - c.utf8Size) rest).map (c :: ·) else none

/-- A carriage return before the end of a line is part of the end. -/
def stripCarriageReturn (line : List Char) : List Char :=
  if line.getLast? = some '\r' then line.dropLast else line

/-- `str::lines` on what `split` makes of it: the last piece is a line only if there is
something in it, and it has no end. -/
def linesOfPieces : List (List Char) → List (List Char)
  | [] => []
  | [last] => if last = [] then [] else [last]
  | piece :: pieces => stripCarriageReturn piece :: linesOfPieces pieces

def lines (s : String) : List String :=
  (linesOfPieces (splitChars '\n' s.toList)).map String.ofList

def contains (s pattern : String) : Bool :=
  s.toList.tails.any pattern.toList.isPrefixOf

def stripSuffix (s suffix : String) : Option String :=
  if suffix.toList.isSuffixOf s.toList then
    some (String.ofList (s.toList.take (s.toList.length - suffix.toList.length)))
  else none

def stripPrefix (s pattern : String) : Option String :=
  if startsWith s pattern then some (String.ofList (s.toList.drop pattern.toList.length))
  else none

def trimEndMatches (s : String) (c : Char) : String :=
  String.ofList (s.toList.rdropWhile (· = c))

/-- The pieces between whitespace that are not empty. -/
def splitWhitespace (s : String) : List String :=
  ((s.toList.splitOnP isWhitespace).filter (· ≠ [])).map String.ofList

/-- `str::parse::<u16>`: an optional plus sign and at least one decimal digit,
without overflow. -/
def parseU16 (s : String) : Option UInt16 :=
  let digits :=
    match s.toList with
    | '+' :: rest => rest
    | cs => cs
  if digits = [] ∨ ¬ digits.all Char.isDigit ∨ digitsValue digits ≥ 2 ^ 16 then none
  else some (UInt16.ofNat (digitsValue digits))

/-- `str::parse::<u32>`, likewise. -/
def parseU32 (s : String) : Option UInt32 :=
  let digits :=
    match s.toList with
    | '+' :: rest => rest
    | cs => cs
  if digits = [] ∨ ¬ digits.all Char.isDigit ∨ digitsValue digits ≥ 2 ^ 32 then none
  else some (UInt32.ofNat (digitsValue digits))

/-- `str::parse::<u64>`, likewise. -/
def parseU64 (s : String) : Option UInt64 :=
  let digits :=
    match s.toList with
    | '+' :: rest => rest
    | cs => cs
  if digits = [] ∨ ¬ digits.all Char.isDigit ∨ digitsValue digits ≥ 2 ^ 64 then none
  else some (UInt64.ofNat (digitsValue digits))

/-- `str::parse::<i64>`: the sign may also be a minus. -/
def parseI64 (s : String) : Option Int64 :=
  let (negative, digits) :=
    match s.toList with
    | '-' :: rest => (true, rest)
    | '+' :: rest => (false, rest)
    | cs => (false, cs)
  let value : ℤ := if negative then - digitsValue digits else digitsValue digits
  if digits = [] ∨ ¬ digits.all Char.isDigit ∨ value < - 2 ^ 63 ∨ value ≥ 2 ^ 63 then none
  else some (Int64.ofInt value)

/-- A string that neither begins nor ends with whitespace is trimmed to itself. -/
theorem trim_eq_self {s : String}
    (hends : ∀ hne : s.toList ≠ [], isWhitespace (s.toList.head hne) = false ∧
      isWhitespace (s.toList.getLast hne) = false) : trim s = s := by
  have hfirst : s.toList.dropWhile isWhitespace = s.toList := by
    cases htext : s.toList with
    | nil => rfl
    | cons c rest =>
        have hc : isWhitespace c = false := by simpa [htext] using (hends (by simp [htext])).1
        rw [List.dropWhile_cons_of_neg (Bool.eq_false_iff.mp hc)]
  have hlast : s.toList.rdropWhile isWhitespace = s.toList := by
    rw [List.rdropWhile_eq_self_iff]
    intro hne
    rw [(hends hne).2]
    exact Bool.false_ne_true
  rw [trim, hfirst, hlast, String.ofList_toList]

theorem ne_empty_of_trim_ne {s : String} (h : trim s ≠ "") : s ≠ "" := by
  rintro rfl
  exact h (by decide)

/-- What is trimmed has nothing left to trim. -/
theorem trim_trim (s : String) : trim (trim s) = trim s := by
  rw [trim.eq_1 (trim s), trim, String.toList_ofList]
  set left := s.toList.dropWhile isWhitespace
  have hfirst : (left.rdropWhile isWhitespace).dropWhile isWhitespace =
      left.rdropWhile isWhitespace := by
    rw [List.dropWhile_eq_self_iff]
    intro hlength
    have hleft : 0 < left.length :=
      Nat.lt_of_lt_of_le hlength (List.rdropWhile_prefix isWhitespace left).length_le
    have hhead : (left.rdropWhile isWhitespace)[0] = left[0] :=
      (List.rdropWhile_prefix isWhitespace left).getElem hlength
    rw [hhead]
    exact List.dropWhile_get_zero_not isWhitespace s.toList hleft
  rw [hfirst, List.rdropWhile_idempotent]

/-! ## Cutting what was joined -/

theorem splitOnce_append {left : List Char} {separator : Char} (hleft : separator ∉ left)
    (right : List Char) :
    splitOnce (String.ofList (left ++ separator :: right)) separator =
      some (String.ofList left, String.ofList right) := by
  have hkept : ∀ c ∈ left, decide (c ≠ separator) = true :=
    fun c hc => decide_eq_true fun heq => hleft (heq ▸ hc)
  have htake : (separator :: right).takeWhile (· ≠ separator) = [] :=
    List.takeWhile_cons_of_neg (by simp)
  have hdrop : (separator :: right).dropWhile (· ≠ separator) = separator :: right :=
    List.dropWhile_cons_of_neg (by simp)
  rw [splitOnce, String.toList_ofList, if_pos (by simp), List.takeWhile_append_of_pos hkept,
    List.dropWhile_append_of_pos hkept, htake, hdrop, List.append_nil, List.drop_one,
    List.tail_cons]

theorem splitOnce_of_not_mem {s : String} {separator : Char} (h : separator ∉ s.toList) :
    splitOnce s separator = none := if_neg h

theorem splitChars_of_not_mem {cs : List Char} {separator : Char} (h : separator ∉ cs) :
    splitChars separator cs = [cs] := by
  induction cs with
  | nil => rfl
  | cons c rest ih =>
      obtain ⟨hne, hrest⟩ := not_or.mp (mt List.mem_cons.mpr h)
      rw [splitChars, if_neg (Ne.symm hne), ih hrest]

theorem splitChars_append {left : List Char} {separator : Char} (hleft : separator ∉ left)
    (right : List Char) :
    splitChars separator (left ++ separator :: right) = left :: splitChars separator right := by
  induction left with
  | nil => exact if_pos rfl
  | cons c rest ih =>
      obtain ⟨hne, hrest⟩ := not_or.mp (mt List.mem_cons.mpr hleft)
      rw [List.cons_append, splitChars, if_neg (Ne.symm hne), ih hrest]

/-- Characters without a separator stay together at the front of the first piece. -/
theorem splitChars_front {left : List Char} {separator : Char} (hleft : separator ∉ left)
    (right : List Char) :
    ∃ piece pieces, splitChars separator (left ++ right) = (left ++ piece) :: pieces := by
  by_cases hright : separator ∈ right
  · obtain ⟨piece, rest, rfl, hpiece⟩ := List.eq_append_cons_of_mem hright
    have hboth : separator ∉ left ++ piece := by
      rw [List.mem_append, not_or]
      exact ⟨hleft, hpiece⟩
    rw [← List.append_assoc, splitChars_append hboth]
    exact ⟨piece, _, rfl⟩
  · rw [splitChars_of_not_mem (by simp [hleft, hright])]
    exact ⟨right, [], rfl⟩

/-- The first piece is the beginning. -/
theorem splitChars_isPrefix {separator : Char} {cs piece : List Char} {pieces : List (List Char)}
    (h : splitChars separator cs = piece :: pieces) : piece <+: cs := by
  induction cs generalizing piece pieces with
  | nil =>
      cases h
      exact List.prefix_rfl
  | cons c rest ih =>
      rw [splitChars] at h
      split_ifs at h
      · cases h
        exact List.nil_prefix
      · split at h
        · cases h
          exact List.cons_prefix_cons.mpr ⟨rfl, List.nil_prefix⟩
        · next hrest =>
            cases h
            exact List.cons_prefix_cons.mpr ⟨rfl, ih hrest⟩

theorem stripCarriageReturn_isPrefix (line : List Char) : stripCarriageReturn line <+: line := by
  rw [stripCarriageReturn]
  split_ifs
  · exact List.dropLast_prefix line
  · exact List.prefix_rfl

/-- The first line is the beginning of the text. -/
theorem lines_isPrefix {text line : String} {others : List String}
    (h : lines text = line :: others) : line.toList <+: text.toList := by
  rw [lines] at h
  cases hpieces : splitChars '\n' text.toList with
  | nil =>
      rw [hpieces] at h
      cases h
  | cons piece pieces =>
      rw [hpieces] at h
      have hpiece := splitChars_isPrefix hpieces
      cases pieces with
      | nil =>
          rw [linesOfPieces] at h
          split_ifs at h
          · cases h
          · cases h
            rwa [String.toList_ofList]
      | cons next later =>
          cases h
          rw [String.toList_ofList]
          exact (stripCarriageReturn_isPrefix piece).trans hpiece

/-- As many bytes as there are characters of one byte. -/
theorem takeBytes_append {text : List Char} (h : ∀ c ∈ text, c.utf8Size = 1)
    (rest : List Char) : takeBytes text.length (text ++ rest) = some text := by
  induction text with
  | nil => rw [List.length_nil, takeBytes]
  | cons c text ih =>
      rw [List.forall_mem_cons] at h
      rw [List.length_cons, List.cons_append, takeBytes, h.1, if_pos (Nat.le_add_left 1 _),
        Nat.add_sub_cancel, ih h.2]
      rfl

theorem stripPrefix_eq_some_iff {s pattern rest : String} :
    stripPrefix s pattern = some rest ↔ s.toList = pattern.toList ++ rest.toList := by
  rw [stripPrefix, startsWith]
  apply Iff.intro
  · intro h
    split_ifs at h with hpattern
    obtain rfl := Option.some.inj h
    rw [String.toList_ofList]
    exact (List.prefix_iff_eq_append.mp (List.isPrefixOf_iff_prefix.mp hpattern)).symm
  · intro h
    rw [if_pos (by simp [h]), h, List.drop_left, String.ofList_toList]

/-- What is trimmed from the end is the character. -/
theorem toList_eq_trimEndMatches_append (s : String) (c : Char) :
    ∃ removed, s.toList = (trimEndMatches s c).toList ++ removed ∧ ∀ x ∈ removed, x = c := by
  refine ⟨s.toList.rtakeWhile (· = c), ?_, fun x hx => ?_⟩
  · rw [trimEndMatches, String.toList_ofList, List.rdropWhile_append_rtakeWhile]
  · simpa using List.mem_rtakeWhile_imp hx

/-- Trimming cuts nothing off that ends in another character. -/
theorem prefix_trimEndMatches {s : String} {c : Char} {front : List Char}
    (hfront : front <+: s.toList) (hlast : ∀ x ∈ front.getLast?, x ≠ c) :
    front <+: (trimEndMatches s c).toList := by
  obtain ⟨removed, hsplit, hremoved⟩ := toList_eq_trimEndMatches_append s c
  have hkept : (trimEndMatches s c).toList <+: s.toList := ⟨removed, hsplit.symm⟩
  rcases List.prefix_or_prefix_of_prefix hfront hkept with hwhole | ⟨more, hmore⟩
  · exact hwhole
  · rcases List.eq_nil_or_concat more with rfl | ⟨most, x, rfl⟩
    · rw [List.append_nil] at hmore
      exact hmore ▸ List.prefix_rfl
    · obtain ⟨rest, hrest⟩ := hfront
      rw [← hmore, List.append_assoc, hsplit] at hrest
      have heq := List.append_cancel_left hrest
      have hx : x ∈ removed := by
        rw [← heq]
        simp
      refine absurd (hremoved x hx) (hlast x ?_)
      rw [← hmore]
      simp

/-- The first piece is what stands before the first separator. -/
theorem headD_split (s : String) (separator : Char) :
    (split s separator).headD "" = String.ofList (s.toList.takeWhile (· ≠ separator)) := by
  by_cases hmem : separator ∈ s.toList
  · obtain ⟨left, right, heq, hleft⟩ := List.eq_append_cons_of_mem hmem
    have hkept : ∀ c ∈ left, decide (c ≠ separator) = true :=
      fun c hc => decide_eq_true fun h => hleft (h ▸ hc)
    rw [split, heq, splitChars_append hleft, List.takeWhile_append_of_pos hkept,
      List.takeWhile_cons_of_neg (by simp), List.append_nil]
    rfl
  · have hkept : ∀ c ∈ s.toList, decide (c ≠ separator) = true :=
      fun c hc => decide_eq_true fun h => hmem (h ▸ hc)
    rw [split, splitChars_of_not_mem hmem, List.takeWhile_eq_self_iff.mpr hkept]
    rfl

theorem stripSuffix_append (text suffix : List Char) :
    stripSuffix (String.ofList (text ++ suffix)) (String.ofList suffix) =
      some (String.ofList text) := by
  rw [stripSuffix, String.toList_ofList, String.toList_ofList, if_pos (by simp)]
  simp

end Text
