/-
# Socket addresses, read

`str::parse::<SocketAddr>`: an address of version 4 and a port, or one of version 6 in
brackets, with an optional scope, and a port. Host names are not read.

What is accepted is stated as a grammar: four decimal numbers as they are printed, or eight
groups of hexadecimal digits, the last two of which may be an address of version 4, with
one run of zeros that may be left out. The reader never tries a second way to read the same
text, and it accepts exactly the grammar.
-/
import Tapio.Text.Numeral

namespace Text

/-! ## The reader -/

structure Ipv4Addr where
  a : ℕ
  b : ℕ
  c : ℕ
  d : ℕ
  deriving DecidableEq

inductive SocketAddr
  | v4 (ip : Ipv4Addr) (port : ℕ)
  | v6 (groups : List ℕ) (scopeId port : ℕ)
  deriving DecidableEq

def octetFormat : NumberFormat := ⟨10, some 3, false, 2 ^ 8⟩

def groupFormat : NumberFormat := ⟨16, some 4, true, 2 ^ 16⟩

def portFormat : NumberFormat := ⟨10, none, true, 2 ^ 16⟩

def scopeIdFormat : NumberFormat := ⟨10, none, true, 2 ^ 32⟩

def readIpv4Addr : Reader Ipv4Addr := do
  let a ← readNumber octetFormat
  let b ← readAfter '.' (readNumber octetFormat)
  let c ← readAfter '.' (readNumber octetFormat)
  let d ← readAfter '.' (readNumber octetFormat)
  return ⟨a, b, c, d⟩

/-- The two groups that an address of version 4 takes. -/
def Ipv4Addr.groups (ip : Ipv4Addr) : List ℕ := [ip.a * 256 + ip.b, ip.c * 256 + ip.d]

/-- Every group but the first comes after a colon. -/
def readSeparated {α : Type} (first : Bool) (reader : Reader α) : Reader α :=
  if first then reader else readAfter ':' reader

/-- The groups up to a limit, and whether an address of version 4 ended them. It needs two
groups of what is left. -/
def readGroups : Bool → ℕ → List Char → (List ℕ × Bool) × List Char
  | _, 0, s => (([], false), s)
  | first, left + 1, s =>
      let embedded := if 0 < left then readSeparated first readIpv4Addr s else none
      match embedded with
      | some (ip, s) => ((ip.groups, true), s)
      | none =>
          match readSeparated first (readNumber groupFormat) s with
          | some (group, s) =>
              let ((groups, ipv4), s) := readGroups false left s
              ((group :: groups, ipv4), s)
          | none => (([], false), s)

def readIpv6Addr : Reader (List ℕ) := fun s =>
  let ((head, ipv4), s) := readGroups true 8 s
  if head.length = 8 then some (head, s)
  else if ipv4 then none
  else do
    let (_, s) ← readGivenChar ':' s
    let (_, s) ← readGivenChar ':' s
    let ((tail, _), s) := readGroups true (8 - (head.length + 1)) s
    return (head ++ List.replicate (8 - head.length - tail.length) 0 ++ tail, s)

def readPort : Reader ℕ := readAfter ':' (readNumber portFormat)

def readScopeId : Reader ℕ := readAfter '%' (readNumber scopeIdFormat)

def readSocketAddrV4 : Reader SocketAddr := do
  let ip ← readIpv4Addr
  let port ← readPort
  return .v4 ip port

def readSocketAddrV6 : Reader SocketAddr :=
  readAfter '[' do
    let ip ← readIpv6Addr
    let scopeId ← readOr 0 readScopeId
    let port ← readAfter ']' readPort
    return .v6 ip scopeId port

def parseSocketAddr (s : String) : Option SocketAddr :=
  match (readSocketAddrV4 s.toList).or (readSocketAddrV6 s.toList) with
  | some (addr, []) => some addr
  | _ => none

example : parseSocketAddr "127.0.0.1:4318" = some (.v4 ⟨127, 0, 0, 1⟩ 4318) := by
  decide +kernel

example : parseSocketAddr "[fe80::1:0.0.0.2%3]:80" =
    some (.v6 [0xFE80, 0, 0, 0, 0, 1, 0, 2] 3 80) := by
  decide +kernel

example : parseSocketAddr "localhost:4318" = none := by decide +kernel

/-! ## The grammar -/

/-- A number below 256 as it is printed. -/
def OctetText (text : List Char) (n : ℕ) : Prop := text = Nat.toDigits 10 n ∧ n < 256

/-- One to four hexadecimal digits. -/
structure GroupText (text : List Char) (n : ℕ) : Prop where
  ne_nil : text ≠ []
  length_le : text.length ≤ 4
  digits : ∀ c ∈ text, IsHexDigit c
  value : groupFormat.value text = n

/-! ### Digits -/

theorem numberText_octet_iff {text : List Char} {n : ℕ} :
    NumberText octetFormat text n ↔ OctetText text n := by
  apply Iff.intro
  · rintro ⟨hdigits, ⟨hne, -, hzero, hlt⟩, hvalue⟩
    have hdecimal : ∀ c ∈ text, c.isDigit := fun c hc =>
      (isSome_toDigit_ten c).mp (hdigits c hc)
    rw [NumberFormat.value_decimal _ rfl hdecimal] at hlt hvalue
    rw [octetFormat, or_iff_right Bool.false_ne_true, ← eq_toDigits_iff hne hdecimal,
      hvalue] at hzero
    exact ⟨hzero, hvalue ▸ hlt⟩
  · rintro ⟨htext, hlt⟩
    have hdecimal : ∀ c ∈ text, c.isDigit := fun c hc => isDigit_toDigits (htext ▸ hc)
    have hne : text ≠ [] := htext ▸ Nat.toDigits_ne_nil
    have hdigits : digitsValue text = n := by rw [htext, digitsValue_toDigits]
    have hvalue := (octetFormat.value_decimal rfl hdecimal).trans hdigits
    refine ⟨fun c hc => (isSome_toDigit_ten c).mpr (hdecimal c hc), ⟨hne, ?_, ?_, ?_⟩, hvalue⟩
    · rintro _ ⟨⟩
      rw [htext, Nat.length_toDigits_le_iff (by decide) (by decide)]
      omega
    · rw [octetFormat, or_iff_right Bool.false_ne_true, ← eq_toDigits_iff hne hdecimal, hdigits]
      exact htext
    · rw [hvalue]
      exact hlt

theorem numberText_group_iff {text : List Char} {n : ℕ} :
    NumberText groupFormat text n ↔ GroupText text n := by
  apply Iff.intro
  · rintro ⟨hdigits, ⟨hne, hlength, -, -⟩, hvalue⟩
    exact ⟨hne, hlength 4 rfl, fun c hc => (isSome_toDigit_sixteen c).mp (hdigits c hc), hvalue⟩
  · intro htext
    have hlt := NumberFormat.value_lt groupFormat (by decide) text
    have hpow := Nat.pow_le_pow_right (by decide : 0 < 16) htext.length_le
    refine ⟨fun c hc => (isSome_toDigit_sixteen c).mpr (htext.digits c hc),
      ⟨htext.ne_nil, ?_, .inl rfl, Nat.lt_of_lt_of_le hlt hpow⟩, htext.value⟩
    rintro _ ⟨⟩
    exact htext.length_le

/-! ### Addresses -/

/-- Four octets with dots between them. -/
def Ipv4Text (text : List Char) (ip : Ipv4Addr) : Prop :=
  ∃ a b c d, text = a ++ '.' :: (b ++ '.' :: (c ++ '.' :: d)) ∧
    OctetText a ip.a ∧ OctetText b ip.b ∧ OctetText c ip.c ∧ OctetText d ip.d

/-- What comes before a group. -/
def colonUnless (first : Bool) : List Char := if first then [] else [':']

/-- Groups with colons between them, and an address of version 4 in place of the last two or
not. -/
inductive GroupsText : Bool → List Char → List ℕ → Bool → Prop
  | nil {first : Bool} : GroupsText first [] [] false
  | ipv4 {first : Bool} {text : List Char} {ip : Ipv4Addr} (htext : Ipv4Text text ip) :
      GroupsText first (colonUnless first ++ text) ip.groups true
  | group {first : Bool} {text rest : List Char} {group : ℕ} {groups : List ℕ} {ipv4 : Bool}
      (htext : GroupText text group) (hrest : GroupsText false rest groups ipv4) :
      GroupsText first (colonUnless first ++ (text ++ rest)) (group :: groups) ipv4

/-- Eight groups, or fewer around a double colon that stands for zeros. -/
inductive Ipv6Text : List Char → List ℕ → Prop
  | full {text : List Char} {groups : List ℕ} {ipv4 : Bool}
      (htext : GroupsText true text groups ipv4) (hlength : groups.length = 8) :
      Ipv6Text text groups
  | short {front back : List Char} {head tail : List ℕ} {ipv4 : Bool}
      (hfront : GroupsText true front head false) (hback : GroupsText true back tail ipv4)
      (hlength : head.length + tail.length ≤ 7) :
      Ipv6Text (front ++ ':' :: ':' :: back)
        (head ++ List.replicate (8 - head.length - tail.length) 0 ++ tail)

def SocketV4Text (text : List Char) (addr : SocketAddr) : Prop :=
  ∃ front port ip n, text = front ++ ':' :: port ∧ Ipv4Text front ip ∧
    DecimalText (2 ^ 16) port n ∧ addr = .v4 ip n

def SocketV6Text (text : List Char) (addr : SocketAddr) : Prop :=
  ∃ front scope port groups scopeId n,
    text = '[' :: (front ++ (scope ++ ']' :: ':' :: port)) ∧ Ipv6Text front groups ∧
      Optionally 0 (After '%' (DecimalText (2 ^ 32))) scope scopeId ∧
        DecimalText (2 ^ 16) port n ∧ addr = .v6 groups scopeId n

def SocketText (text : List Char) (addr : SocketAddr) : Prop :=
  SocketV4Text text addr ∨ SocketV6Text text addr

/-! ## What is read -/

theorem reads_octet : Reads (readNumber octetFormat) OctetText (NoDigit octetFormat) :=
  (reads_number octetFormat).congr (fun _ _ => numberText_octet_iff) fun _ h => h

theorem reads_group : Reads (readNumber groupFormat) GroupText (NoDigit groupFormat) :=
  (reads_number groupFormat).congr (fun _ _ => numberText_group_iff) fun _ h => h

theorem reads_ipv4 : Reads readIpv4Addr Ipv4Text (NoDigit octetFormat) := by
  have hnext := reads_octet.after '.'
  have hdot : ∀ {α : Type} {Second : ℕ → List Char → α → Prop} {ip text rest},
      Then (After '.' OctetText) Second text ip → NoDigit octetFormat (text ++ rest) := by
    rintro α Second ip _ rest ⟨n, _, back, rfl, ⟨front, rfl, -⟩, -⟩
    exact noDigit_cons rfl _
  have hend : ∀ {ip ip' : Ipv4Addr} {text rest : List Char}, text = [] ∧ ip' = ip →
      NoDigit octetFormat rest → NoDigit octetFormat (text ++ rest) := by
    rintro _ _ _ _ ⟨rfl, -⟩ hrest
    exact hrest
  have hread : Reads readIpv4Addr _ (NoDigit octetFormat) :=
    reads_octet.bind (fun a => hnext.bind (fun b => hnext.bind (fun c => hnext.bind
      (fun d => Reads.pure (Ipv4Addr.mk a b c d) (NoDigit octetFormat)) hend)
      fun h _ => hdot h) fun h _ => hdot h) fun h _ => hdot h
  refine hread.congr (fun text ip => ?_) fun _ h => h
  apply Iff.intro
  · rintro ⟨_, ta, _, rfl, ha, _, _, _, rfl, ⟨tb, rfl, hb⟩, _, _, _, rfl, ⟨tc, rfl, hc⟩,
      _, _, _, rfl, ⟨td, rfl, hd⟩, rfl, rfl⟩
    exact ⟨ta, tb, tc, td, by simp, ha, hb, hc, hd⟩
  · rintro ⟨ta, tb, tc, td, rfl, ha, hb, hc, hd⟩
    exact ⟨_, ta, _, rfl, ha, _, _, _, rfl, ⟨tb, rfl, hb⟩, _, _, _, rfl, ⟨tc, rfl, hc⟩,
      _, _, _, (List.append_nil _).symm, ⟨td, rfl, hd⟩, rfl, rfl⟩

/-- Nothing that could go on with an address: no digit, no dot, and a colon only before
another. -/
structure Ends (rest : List Char) : Prop where
  head : ∀ c ∈ rest.head?, ¬ IsHexDigit c ∧ c ≠ '.'
  colon : ∀ {after}, rest = ':' :: after → after.head? = some ':'

theorem noDigit_octet {rest : List Char} (h : ∀ c ∈ rest.head?, ¬ IsHexDigit c) :
    NoDigit octetFormat rest := by
  intro c hc
  rw [Bool.eq_false_iff]
  intro hdigit
  exact h c hc (.inl ((isSome_toDigit_ten c).mp hdigit))

theorem noDigit_group {rest : List Char} (h : ∀ c ∈ rest.head?, ¬ IsHexDigit c) :
    NoDigit groupFormat rest := by
  intro c hc
  rw [Bool.eq_false_iff]
  intro hdigit
  exact h c hc ((isSome_toDigit_sixteen c).mp hdigit)

theorem OctetText.digits {text : List Char} {n : ℕ} (h : OctetText text n) :
    ∀ c ∈ text, c.isDigit := fun _ hc => isDigit_toDigits (h.1 ▸ hc)

theorem OctetText.ne_nil {text : List Char} {n : ℕ} (h : OctetText text n) : text ≠ [] :=
  h.1 ▸ Nat.toDigits_ne_nil

/-- Where something that is neither a digit nor a dot follows the digits, there is no address
of version 4. -/
theorem readIpv4Addr_eq_none {text rest : List Char} (htext : ∀ c ∈ text, IsHexDigit c)
    (hrest : ∀ c ∈ rest.head?, ¬ IsHexDigit c ∧ c ≠ '.') :
    readIpv4Addr (text ++ rest) = none := by
  apply reads_ipv4.eq_none
  rintro _ after ip heq ⟨a, b, c, d, rfl, ha, -⟩
  rw [List.append_assoc, List.cons_append] at heq
  rcases List.append_eq_append_iff.mp heq with ⟨more, hmore, hafter⟩ | ⟨more, hmore, hafter⟩
  · cases more with
    | nil => exact (hrest '.' (by rw [hafter]; rfl)).2 rfl
    | cons x more =>
        have hx := ha.digits x (by rw [hmore]; simp)
        exact (hrest x (by rw [hafter]; rfl)).1 (.inl hx)
  · cases more with
    | nil => exact (hrest '.' (by rw [List.nil_append] at hafter; rw [← hafter]; rfl)).2 rfl
    | cons x more =>
        obtain ⟨rfl, -⟩ := List.cons.inj hafter
        exact absurd (htext '.' (by rw [hmore]; simp)) (by decide)

/-! ### Groups -/

theorem readSeparated_colonUnless {α : Type} (first : Bool) (reader : Reader α)
    (s : List Char) : readSeparated first reader (colonUnless first ++ s) = reader s := by
  cases first with
  | true => rfl
  | false => rfl

theorem readSeparated_sound {α : Type} {first : Bool} {reader : Reader α}
    {Grammar : List Char → α → Prop} {Stop : List Char → Prop} (h : Reads reader Grammar Stop)
    {s rest : List Char} {a : α} (hread : readSeparated first reader s = some (a, rest)) :
    ∃ text, s = colonUnless first ++ text ++ rest ∧ Grammar text a := by
  cases first with
  | true => exact h.sound hread
  | false =>
      obtain ⟨_, rfl, text, rfl, htext⟩ := (h.after ':').sound hread
      exact ⟨text, rfl, htext⟩

/-- Where an address ends, no number begins. -/
theorem readSeparated_eq_none {α : Type} {reader : Reader α} {Grammar : List Char → α → Prop}
    {Stop : List Char → Prop} (h : Reads reader Grammar Stop)
    (hgrammar : ∀ {text a}, Grammar text a → ∃ c ∈ text.head?, IsHexDigit c) (first : Bool)
    {rest : List Char} (hrest : Ends rest) : readSeparated first reader rest = none := by
  cases hread : readSeparated first reader rest with
  | none => rfl
  | some read =>
      obtain ⟨text, rfl, htext⟩ := readSeparated_sound h hread
      obtain ⟨c, hc, hhex⟩ := hgrammar htext
      obtain ⟨more, rfl⟩ := List.head?_eq_some_iff.mp hc
      cases first with
      | true => exact absurd hhex (hrest.head c rfl).1
      | false =>
          obtain rfl := Option.some.inj (hrest.colon rfl)
          exact absurd hhex (by decide)

theorem Ipv4Text.head {text : List Char} {ip : Ipv4Addr} (h : Ipv4Text text ip) :
    ∃ c ∈ text.head?, IsHexDigit c := by
  obtain ⟨a, b, c, d, rfl, ha, -⟩ := h
  obtain ⟨x, rest, rfl⟩ := List.exists_cons_of_ne_nil ha.ne_nil
  exact ⟨x, rfl, .inl (ha.digits x List.mem_cons_self)⟩

theorem GroupText.head {text : List Char} {n : ℕ} (h : GroupText text n) :
    ∃ c ∈ text.head?, IsHexDigit c := by
  obtain ⟨x, rest, rfl⟩ := List.exists_cons_of_ne_nil h.ne_nil
  exact ⟨x, rfl, h.digits x List.mem_cons_self⟩

theorem readGroups_sound {first ipv4 : Bool} {left : ℕ} {s rest : List Char} {groups : List ℕ}
    (h : readGroups first left s = ((groups, ipv4), rest)) :
    ∃ text, s = text ++ rest ∧ GroupsText first text groups ipv4 ∧ groups.length ≤ left := by
  induction left generalizing first s groups with
  | zero =>
      cases h
      exact ⟨[], rfl, .nil, Nat.le_refl 0⟩
  | succ left ih =>
      simp only [readGroups] at h
      split at h
      · next ip s' hembedded =>
          cases h
          obtain ⟨hleft, hread⟩ := Option.ite_none_right_eq_some.mp hembedded
          obtain ⟨text, rfl, htext⟩ := readSeparated_sound reads_ipv4 hread
          exact ⟨_, rfl, .ipv4 htext, Nat.succ_le_succ hleft⟩
      · split at h
        · next group s' hread =>
            obtain ⟨text, rfl, htext⟩ := readSeparated_sound reads_group hread
            generalize hmore : readGroups false left s' = more at h
            obtain ⟨⟨groups', ipv4'⟩, rest'⟩ := more
            cases h
            obtain ⟨text', rfl, htext', hlength⟩ := ih hmore
            refine ⟨colonUnless first ++ (text ++ text'), ?_, .group htext htext',
              Nat.succ_le_succ hlength⟩
            simp only [List.append_assoc]
        · cases h
          exact ⟨[], rfl, .nil, Nat.zero_le _⟩

/-- Groups that do not begin an address begin with a colon. -/
theorem GroupsText.head {text rest : List Char} {groups : List ℕ} {ipv4 : Bool}
    (h : GroupsText false text groups ipv4) (hrest : Ends rest) :
    ∀ c ∈ (text ++ rest).head?, ¬ IsHexDigit c ∧ c ≠ '.' := by
  cases h with
  | nil => exact hrest.head
  | ipv4 htext | group htext hrest =>
      rintro _ ⟨⟩
      decide

theorem readGroups_complete {first ipv4 : Bool} {text : List Char} {groups : List ℕ}
    (h : GroupsText first text groups ipv4) {rest : List Char} (hrest : Ends rest) (left : ℕ)
    (hlength : groups.length ≤ left) :
    readGroups first left (text ++ rest) = ((groups, ipv4), rest) := by
  induction h generalizing left with
  | @nil first =>
      cases left with
      | zero => rfl
      | succ left =>
          have hipv4 := readSeparated_eq_none reads_ipv4 Ipv4Text.head first hrest
          have hgroup := readSeparated_eq_none reads_group GroupText.head first hrest
          simp only [readGroups, List.nil_append, hipv4, hgroup, ite_self]
  | @ipv4 first text ip htext =>
      obtain ⟨left, rfl⟩ := Nat.exists_eq_add_of_le' (show 2 ≤ left from hlength)
      have hread : readSeparated first readIpv4Addr (colonUnless first ++ text ++ rest) =
          some (ip, rest) := by
        rw [List.append_assoc, readSeparated_colonUnless]
        exact reads_ipv4.complete htext (noDigit_octet fun c hc => (hrest.head c hc).1)
      simp only [readGroups, hread, Nat.succ_pos, if_true]
  | @group first text more group groups ipv4 htext hmore ih =>
      obtain ⟨left, rfl⟩ := Nat.exists_eq_add_of_le' (show 1 ≤ left by
        rw [List.length_cons] at hlength
        omega)
      have hnext := hmore.head hrest
      have hembedded : readSeparated first readIpv4Addr
          (colonUnless first ++ (text ++ more) ++ rest) = none := by
        rw [List.append_assoc, readSeparated_colonUnless, List.append_assoc]
        exact readIpv4Addr_eq_none htext.digits hnext
      have hread : readSeparated first (readNumber groupFormat)
          (colonUnless first ++ (text ++ more) ++ rest) = some (group, more ++ rest) := by
        rw [List.append_assoc, readSeparated_colonUnless, List.append_assoc]
        exact reads_group.complete htext (noDigit_group fun c hc => (hnext c hc).1)
      simp only [readGroups, hembedded, ite_self, hread,
        ih left (Nat.le_of_succ_le_succ hlength)]

/-! ### Addresses of version 6 -/

theorem ends_cons {c : Char} (hc : ¬ IsHexDigit c ∧ c ≠ '.') (hcolon : c ≠ ':')
    (rest : List Char) : Ends (c :: rest) where
  head := by
    rintro _ ⟨⟩
    exact hc
  colon h := absurd (List.cons.inj h).1 hcolon

/-- A double colon ends the groups before it. -/
theorem ends_doubleColon (rest : List Char) : Ends (':' :: ':' :: rest) where
  head := by
    rintro _ ⟨⟩
    decide
  colon := by
    rintro _ ⟨⟩
    rfl

theorem reads_ipv6 : Reads readIpv6Addr Ipv6Text Ends where
  sound {s rest ip} h := by
    rw [readIpv6Addr] at h
    generalize hhead : readGroups true 8 s = head at h
    obtain ⟨⟨head, ipv4⟩, s'⟩ := head
    obtain ⟨front, rfl, hfront, hlength⟩ := readGroups_sound hhead
    dsimp only at h hlength
    split_ifs at h with hfull hipv4
    · cases h
      exact ⟨front, rfl, .full hfront hfull⟩
    · obtain ⟨⟨⟨⟩, first⟩, hfirst, hmore⟩ := Option.bind_eq_some_iff.mp h
      obtain ⟨⟨⟨⟩, second⟩, hsecond, hlast⟩ := Option.bind_eq_some_iff.mp hmore
      obtain rfl := readGivenChar_eq_some hfirst
      obtain rfl := readGivenChar_eq_some hsecond
      dsimp only at hlast
      generalize htail : readGroups true (8 - (head.length + 1)) second = tail at hlast
      obtain ⟨⟨tail, ipv4'⟩, s''⟩ := tail
      obtain ⟨back, rfl, hback, hlength'⟩ := readGroups_sound htail
      cases hlast
      rw [Bool.not_eq_true] at hipv4
      subst hipv4
      have hfew : head.length + tail.length ≤ 7 := by omega
      refine ⟨front ++ ':' :: ':' :: back, ?_, .short hfront hback hfew⟩
      rw [List.append_assoc]
      rfl
  complete {text rest ip} htext hrest := by
    cases htext with
    | full htext hlength =>
        rw [readIpv6Addr, readGroups_complete htext hrest 8 (Nat.le_of_eq hlength)]
        exact if_pos hlength
    | @short front back head tail ipv4 hfront hback hlength =>
        have hhead := readGroups_complete hfront (ends_doubleColon (back ++ rest)) 8 (by omega)
        have htail := readGroups_complete hback hrest (8 - (head.length + 1)) (by omega)
        rw [List.append_assoc, List.cons_append, List.cons_append, readIpv6Addr, hhead]
        dsimp only
        rw [if_neg (by omega), if_neg Bool.false_ne_true]
        simp only [readGivenChar_self, Option.bind_eq_bind, Option.bind_some, htail]
        rfl

/-! ### Socket addresses -/

theorem reads_port : Reads readPort (After ':' (DecimalText (2 ^ 16))) (NoDigit portFormat) :=
  (reads_decimal _).after ':'

/-- A bracket closes an address. -/
def Closes (rest : List Char) : Prop := ∃ after, rest = ']' :: after

theorem reads_scope : Reads (readOr 0 readScopeId)
    (Optionally 0 (After '%' (DecimalText (2 ^ 32)))) Closes := by
  refine ((reads_decimal _).after '%').optionally 0 ?_
  rintro _ ⟨after, rfl⟩
  refine ⟨noDigit_cons rfl _, ?_⟩
  rintro _ rest n heq ⟨text, rfl, -⟩
  cases heq

/-- The value that is returned adds nothing to the text. -/
theorem stop_pure {α : Type} {Stop : List Char → Prop} {a b : α} {text rest : List Char}
    (h : text = [] ∧ b = a) (hrest : Stop rest) : Stop (text ++ rest) := by
  obtain ⟨rfl, -⟩ := h
  exact hrest

theorem reads_socketAddrV4 : Reads readSocketAddrV4 SocketV4Text (NoDigit portFormat) := by
  have hcolon : ∀ {ip : Ipv4Addr} {addr text rest},
      Then (After ':' (DecimalText (2 ^ 16)))
        (fun n text addr => text = [] ∧ addr = SocketAddr.v4 ip n) text addr →
      NoDigit octetFormat (text ++ rest) := by
    rintro ip addr _ rest ⟨n, _, back, rfl, ⟨port, rfl, -⟩, -⟩
    exact noDigit_cons rfl _
  have hread : Reads readSocketAddrV4 _ (NoDigit portFormat) :=
    reads_ipv4.bind (fun ip => reads_port.bind
      (fun n => Reads.pure (SocketAddr.v4 ip n) (NoDigit portFormat)) stop_pure)
      fun h _ => hcolon h
  refine hread.congr (fun text addr => ?_) fun _ h => h
  apply Iff.intro
  · rintro ⟨ip, front, _, rfl, hfront, n, _, _, rfl, ⟨port, rfl, hport⟩, rfl, rfl⟩
    exact ⟨front, port, ip, n, by rw [List.append_nil], hfront, hport, rfl⟩
  · rintro ⟨front, port, ip, n, rfl, hfront, hport, rfl⟩
    exact ⟨ip, front, _, rfl, hfront, n, _, _, (List.append_nil _).symm, ⟨port, rfl, hport⟩,
      rfl, rfl⟩

theorem reads_socketAddrV6 : Reads readSocketAddrV6 SocketV6Text (NoDigit portFormat) := by
  have hcloses : ∀ {groups : List ℕ} {scopeId : ℕ} {addr text} (rest : List Char),
      Then (After ']' (After ':' (DecimalText (2 ^ 16))))
        (fun n text addr => text = [] ∧ addr = SocketAddr.v6 groups scopeId n) text addr →
      Closes (text ++ rest) := by
    rintro groups scopeId addr _ rest ⟨n, _, back, rfl, ⟨port, rfl, -⟩, -⟩
    exact ⟨_, rfl⟩
  have hends : ∀ {groups : List ℕ} {addr text rest},
      Then (Optionally 0 (After '%' (DecimalText (2 ^ 32))))
        (fun scopeId => Then (After ']' (After ':' (DecimalText (2 ^ 16))))
          fun n text addr => text = [] ∧ addr = SocketAddr.v6 groups scopeId n) text addr →
      Ends (text ++ rest) := by
    rintro groups addr _ rest ⟨scopeId, scope, back, rfl, hscope, hback⟩
    obtain ⟨after, hafter⟩ := hcloses rest hback
    rw [List.append_assoc, hafter]
    rcases hscope with ⟨digits, rfl, -⟩ | ⟨rfl, -⟩
    · exact ends_cons (by decide) (by decide) _
    · exact ends_cons (by decide) (by decide) _
  have hread : Reads readSocketAddrV6 _ (NoDigit portFormat) :=
    Reads.after (reads_ipv6.bind (fun groups => reads_scope.bind (fun scopeId =>
      (reads_port.after ']').bind (fun n => Reads.pure (SocketAddr.v6 groups scopeId n)
        (NoDigit portFormat)) stop_pure) fun h _ => hcloses _ h) fun h _ => hends h) '['
  refine hread.congr (fun text addr => ?_) fun _ h => h
  apply Iff.intro
  · rintro ⟨_, rfl, groups, front, _, rfl, hfront, scopeId, scope, _, rfl, hscope, n, _, _, rfl,
      ⟨_, rfl, port, rfl, hport⟩, rfl, rfl⟩
    exact ⟨front, scope, port, groups, scopeId, n, by rw [List.append_nil], hfront, hscope, hport,
      rfl⟩
  · rintro ⟨front, scope, port, groups, scopeId, n, rfl, hfront, hscope, hport, rfl⟩
    exact ⟨_, rfl, groups, front, _, rfl, hfront, scopeId, scope, _, rfl, hscope, n, _, _,
      (List.append_nil _).symm, ⟨_, rfl, port, rfl, hport⟩, rfl, rfl⟩

theorem SocketV4Text.head {text : List Char} {addr : SocketAddr} (h : SocketV4Text text addr) :
    ∃ c ∈ text.head?, IsHexDigit c := by
  obtain ⟨front, port, ip, n, rfl, hfront, -⟩ := h
  obtain ⟨c, hc, hhex⟩ := hfront.head
  obtain ⟨more, rfl⟩ := List.head?_eq_some_iff.mp hc
  exact ⟨c, rfl, hhex⟩

/-- **What is accepted.** The texts of the grammar and nothing else. -/
theorem parseSocketAddr_eq_some_iff {s : String} {addr : SocketAddr} :
    parseSocketAddr s = some addr ↔ SocketText s.toList addr := by
  have hstop : NoDigit portFormat [] := nofun
  rw [parseSocketAddr]
  apply Iff.intro
  · intro h
    split at h
    · next addr' hread =>
        cases h
        rcases Option.or_eq_some_iff.mp hread with hread | ⟨-, hread⟩
        · obtain ⟨text, hs, htext⟩ := reads_socketAddrV4.sound hread
          rw [hs, List.append_nil]
          exact .inl htext
        · obtain ⟨text, hs, htext⟩ := reads_socketAddrV6.sound hread
          rw [hs, List.append_nil]
          exact .inr htext
    · cases h
  · intro h
    rcases h with htext | htext
    · have hread := reads_socketAddrV4.complete htext hstop
      rw [List.append_nil] at hread
      rw [hread, Option.some_or]
    · have hread := reads_socketAddrV6.complete htext hstop
      have hv4 : readSocketAddrV4 s.toList = none := by
        apply reads_socketAddrV4.eq_none
        intro text after addr' hs hv4
        obtain ⟨c, hc, hhex⟩ := hv4.head
        obtain ⟨more, rfl⟩ := List.head?_eq_some_iff.mp hc
        obtain ⟨front, scope, port, groups, scopeId, n, hbracket, -⟩ := htext
        obtain rfl := (List.cons.inj (hs.symm.trans hbracket)).1
        exact absurd hhex (by decide)
      rw [List.append_nil] at hread
      rw [hv4, Option.none_or, hread]

/-! ### Colons -/

theorem colon_not_mem_ipv4 {text : List Char} {ip : Ipv4Addr} (h : Ipv4Text text ip) :
    ':' ∉ text := by
  obtain ⟨a, b, c, d, rfl, ha, hb, hc, hd⟩ := h
  have hoctet : ∀ {octet n}, OctetText octet n → ':' ∉ octet := fun ho hmem =>
    absurd (ho.digits ':' hmem) (by decide)
  simp [hoctet ha, hoctet hb, hoctet hc, hoctet hd]

theorem colon_mem_groups {text : List Char} {groups : List ℕ} {ipv4 : Bool}
    (h : GroupsText false text groups ipv4) (hne : groups ≠ []) : ':' ∈ text := by
  cases h with
  | nil => exact absurd rfl hne
  | ipv4 htext | group htext hrest => exact List.mem_cons_self

theorem colon_mem_ipv6 {text : List Char} {groups : List ℕ} (h : Ipv6Text text groups) :
    ':' ∈ text := by
  cases h with
  | full htext hlength =>
      cases htext with
      | nil => cases hlength
      | ipv4 htext => cases hlength
      | group htext hrest =>
          refine List.mem_append_right _ (List.mem_append_right _ (colon_mem_groups hrest ?_))
          rintro rfl
          cases hlength
  | short hfront hback hlength => simp

/-- Every socket address has a port. -/
theorem colon_mem_socket {text : List Char} {addr : SocketAddr} (h : SocketText text addr) :
    ':' ∈ text := by
  rcases h with ⟨front, port, ip, n, rfl, -⟩ | ⟨front, scope, port, groups, scopeId, n, rfl, -⟩
  · simp
  · simp

end Text
