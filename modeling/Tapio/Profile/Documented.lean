/-
# The documented profiles

The profiles that are accepted, described field by field without any order of checks, and
what an accepted one resolves to. Ranges are asked of what the operator writes, the order
of two thresholds of what comes out after merging. `validate` accepts exactly these
profiles and resolves them so.
-/
import Tapio.Profile.Validate
import Tapio.Text.Decimal
import Tapio.Text.Percent

namespace Tapio.Profile

open Numeric Checks

/-! ## The description -/

/-- A lowercase letter followed by lowercase letters, digits and hyphens, of which the
last is no hyphen; of 63 characters at most. -/
structure WellFormedName (name : String) : Prop where
  first : ∃ c ∈ name.toList.head?, c.isLower
  chars : ∀ c ∈ name.toList, c.isLower ∨ c.isDigit ∨ c = '-'
  last : name.toList.getLast? ≠ some '-'
  length : name.toList.length ≤ 63

structure DocumentedNetwork (input : NetworkOverride) : Prop where
  ratio : ∀ ratio ∈ input.rttSpike.ratio, 1 ≤ ratio.toNat ∧ ratio.toNat ≤ 100
  absMs : ∀ absMs ∈ input.rttSpike.absMs, 1 ≤ absMs.toNat ∧ absMs.toNat ≤ 600000

structure DocumentedStorage (input : StorageOverride) : Prop where
  warningMs : ∀ ms ∈ input.slowIo.warningMs, 1 ≤ ms.toNat ∧ ms.toNat ≤ 60000
  criticalMs : ∀ ms ∈ input.slowIo.criticalMs, 1 ≤ ms.toNat ∧ ms.toNat ≤ 600000

structure DocumentedContainer (input : ContainerOverride) : Prop where
  count : ∀ codes ∈ input.ignoreExitCodes, codes.length ≤ 16
  range : ∀ codes ∈ input.ignoreExitCodes, ∀ code ∈ codes, 0 ≤ code.toInt ∧ code.toInt ≤ 255

structure DocumentedNodePmc (input : NodePmcOverride) : Prop where
  warning : ∀ x ∈ input.stallPct.warning, Bounded x 100
  critical : ∀ x ∈ input.stallPct.critical, Bounded x 100
  ipc : ∀ x ∈ input.ipcDegradation, Bounded x 16

/-- Nothing is wrong with the overrides by themselves. -/
structure DocumentedOverrides (overrides : ProfileOverrides) : Prop where
  network : DocumentedNetwork overrides.network
  storage : DocumentedStorage overrides.storage
  container : DocumentedContainer overrides.container
  nodePmc : DocumentedNodePmc overrides.nodePmc

/-- The thresholds are in order. -/
structure Ordered (resolved : ResolvedProfile) : Prop where
  slowIo : resolved.storage.slowIoWarningMs ≤ resolved.storage.slowIoCriticalMs
  stallPct : resolved.nodePmc.stallPctWarning.le resolved.nodePmc.stallPctCritical

/-- The overridden fields replaced in a base; the listed codes are kept where they occur
first. -/
def replaced (overrides : ProfileOverrides) (base : ResolvedProfile) : ResolvedProfile where
  network := { base.network with
    enabled := overrides.network.enabled.getD base.network.enabled
    rttSpikeRatio := overrides.network.rttSpike.ratio.getD base.network.rttSpikeRatio
    rttSpikeAbsMs := overrides.network.rttSpike.absMs.getD base.network.rttSpikeAbsMs }
  storage := {
    enabled := overrides.storage.enabled.getD base.storage.enabled
    slowIoWarningMs := overrides.storage.slowIo.warningMs.getD base.storage.slowIoWarningMs
    slowIoCriticalMs :=
      overrides.storage.slowIo.criticalMs.getD base.storage.slowIoCriticalMs }
  container := {
    enabled := overrides.container.enabled.getD base.container.enabled
    ignoreExitCodes := (overrides.container.ignoreExitCodes.map fun codes =>
      (codes.map (·.toUInt32.toUInt8)).eraseDups).getD base.container.ignoreExitCodes }
  nodePmc := {
    enabled := overrides.nodePmc.enabled.getD base.nodePmc.enabled
    stallPctWarning := overrides.nodePmc.stallPct.warning.getD base.nodePmc.stallPctWarning
    stallPctCritical := overrides.nodePmc.stallPct.critical.getD base.nodePmc.stallPctCritical
    ipcDegradation := overrides.nodePmc.ipcDegradation.getD base.nodePmc.ipcDegradation }

/-- A document that names the base and overrides it within the documented bounds. -/
structure Documented (profile : EvidenceProfile) (builtins : BuiltinSet)
    (base : ResolvedProfile) : Prop where
  apiVersion : profile.apiVersion = some "tapio.false.systems/v0"
  kind : profile.kind = some "EvidenceProfile"
  named : ∃ name, profile.base = some name ∧ WellFormedName name ∧
    builtins.profiles[name]? = some base
  overrides : DocumentedOverrides profile.overrides
  ordered : Ordered (replaced profile.overrides base)

/-! ## Names -/

theorem toByteArray_eq_bytes (name : String) :
    name.toByteArray.data.toList = Text.bytes name := by
  rw [← String.utf8Encode_toList, List.utf8Encode, List.toList_data_toByteArray]
  rfl

section Ascii

variable {c : Char} (h : c.toNat < 128)
include h

theorem toNat_ofNat_toNat : (UInt8.ofNat c.toNat).toNat = c.toNat := by
  exact UInt8.toNat_ofNat_of_lt (Nat.lt_trans h (by decide))

theorem isAsciiLowercase_ofNat : isAsciiLowercase (UInt8.ofNat c.toNat) = c.isLower := by
  rw [Bool.eq_iff_iff, Text.isLower_iff_toNat]
  simp only [isAsciiLowercase, Bool.and_eq_true, decide_eq_true_eq, UInt8.le_iff_toNat_le,
    toNat_ofNat_toNat h]
  rfl

theorem isAsciiDigit_ofNat : isAsciiDigit (UInt8.ofNat c.toNat) = c.isDigit := by
  rw [Bool.eq_iff_iff, Text.isDigit_iff_toNat]
  simp only [isAsciiDigit, Bool.and_eq_true, decide_eq_true_eq, UInt8.le_iff_toNat_le,
    toNat_ofNat_toNat h]
  rfl

theorem ofNat_eq_hyphen_iff : UInt8.ofNat c.toNat = hyphen ↔ c = '-' := by
  rw [← UInt8.toNat_inj, toNat_ofNat_toNat h]
  apply Iff.intro
  · intro hvalue
    exact Char.toNat_inj.mp hvalue
  · rintro rfl
    rfl

end Ascii

theorem getLast?_map_ofNat {cs : List Char} (h : ∀ c ∈ cs, c.toNat < 128) :
    (cs.map fun c => UInt8.ofNat c.toNat).getLast? = some hyphen ↔ cs.getLast? = some '-' := by
  rw [List.getLast?_map, Option.map_eq_some_iff]
  apply Iff.intro
  · rintro ⟨c, hlast, hbyte⟩
    rw [hlast, (ofNat_eq_hyphen_iff (h c (List.mem_of_getLast? hlast))).mp hbyte]
  · intro hlast
    exact ⟨'-', hlast, rfl⟩

theorem all_map_ofNat {cs : List Char} (h : ∀ c ∈ cs, c.toNat < 128) :
    ((cs.map fun c => UInt8.ofNat c.toNat).all fun byte =>
      isAsciiLowercase byte || isAsciiDigit byte || byte == hyphen) ↔
        ∀ c ∈ cs, c.isLower ∨ c.isDigit ∨ c = '-' := by
  rw [List.all_map, List.all_eq_true]
  refine forall₂_congr fun c hc => ?_
  simp only [Function.comp_apply, isAsciiLowercase_ofNat (h c hc), isAsciiDigit_ofNat (h c hc),
    Bool.or_eq_true, beq_iff_eq, ofNat_eq_hyphen_iff (h c hc), or_assoc]

/-- The bytes of a name in ASCII are judged as its characters are. -/
theorem validProfileName_of_ascii {name : String} (h : ∀ c ∈ name.toList, c.toNat < 128) :
    validProfileName name ↔ WellFormedName name := by
  rw [validProfileName, toByteArray_eq_bytes, Text.bytes_of_lt h]
  cases hname : name.toList with
  | nil =>
      apply Iff.intro
      · simp
      · intro hwell
        obtain ⟨c, hc, -⟩ := hwell.first
        simp [hname] at hc
  | cons first rest =>
      rw [hname] at h
      have hlast := getLast?_map_ofNat h
      have hall := all_map_ofNat fun c hc => h c (List.mem_cons_of_mem first hc)
      have hfirst := isAsciiLowercase_ofNat (h first List.mem_cons_self)
      rw [List.map_cons] at hlast ⊢
      simp only [Bool.and_eq_true, decide_eq_true_eq, bne_iff_ne, List.length_map, ne_eq, hlast,
        hall, hfirst]
      apply Iff.intro
      · rintro ⟨⟨⟨hlength, hlower⟩, hhyphen⟩, hchars⟩
        refine ⟨⟨first, by rw [hname]; rfl, hlower⟩, ?_, hname ▸ hhyphen, ?_⟩
        · rw [hname]
          exact List.forall_mem_cons.mpr ⟨.inl hlower, hchars⟩
        · rw [hname, List.length_cons]
          omega
      · rintro ⟨⟨c, hc, hlower⟩, hchars, hhyphen, hlength⟩
        rw [hname] at hc hchars hhyphen hlength
        obtain rfl : first = c := Option.some.inj hc
        rw [List.length_cons] at hlength
        exact ⟨⟨⟨by omega, hlower⟩, hhyphen⟩, (List.forall_mem_cons.mp hchars).2⟩

/-- A character that a name may have is one byte. -/
theorem toNat_lt_of_nameChar {c : Char} (h : c.isLower ∨ c.isDigit ∨ c = '-') :
    c.toNat < 128 := by
  rcases h with hlower | hdigit | rfl
  · exact Nat.lt_of_le_of_lt (Text.isLower_iff_toNat.mp hlower).2 (by decide)
  · exact Nat.lt_of_le_of_lt (Text.isDigit_iff_toNat.mp hdigit).2 (by decide)
  · decide

/-- A byte that a name may have is that of a character of one byte. -/
theorem toNat_lt_of_nameByte {byte : UInt8}
    (h : isAsciiLowercase byte || isAsciiDigit byte || byte == hyphen) : byte.toNat < 128 := by
  simp only [isAsciiLowercase, isAsciiDigit, Bool.or_eq_true, Bool.and_eq_true,
    decide_eq_true_eq, UInt8.le_iff_toNat_le, beq_iff_eq] at h
  rcases h with (⟨-, hupper⟩ | ⟨-, hupper⟩) | rfl
  · exact Nat.lt_of_le_of_lt hupper (by decide)
  · exact Nat.lt_of_le_of_lt hupper (by decide)
  · decide

/-- A name is valid exactly when it is well formed. -/
theorem validProfileName_iff (name : String) :
    validProfileName name ↔ WellFormedName name := by
  apply Iff.intro
  · intro hvalid
    have hbytes : ∀ byte ∈ Text.bytes name, byte.toNat < 128 := by
      have hjudged := hvalid
      rw [validProfileName, toByteArray_eq_bytes] at hjudged
      split at hjudged
      · cases hjudged
      · next first rest heq =>
          simp only [Bool.and_eq_true] at hjudged
          obtain ⟨⟨⟨-, hlower⟩, -⟩, hrest⟩ := hjudged
          rw [heq]
          refine List.forall_mem_cons.mpr ⟨?_, fun byte hbyte => ?_⟩
          · exact toNat_lt_of_nameByte (by simp [hlower])
          · exact toNat_lt_of_nameByte (List.all_eq_true.mp hrest byte hbyte)
    exact (validProfileName_of_ascii (Text.forall_lt_of_bytes hbytes)).mp hvalid
  · intro hwell
    exact (validProfileName_of_ascii fun c hc =>
      toNat_lt_of_nameChar (hwell.chars c hc)).mpr hwell

/-! ## Sections -/

variable {overrides : ProfileOverrides} {base : ResolvedProfile}

theorem applyNetwork_ok_iff {result : ResolvedNetwork} :
    applyNetwork overrides.network base.network = .ok result ↔
      DocumentedNetwork overrides.network ∧ result = (replaced overrides base).network := by
  simp only [applyNetwork, bind_ok_iff, overrideWith_ok_iff, checkRange_ok_iff, pure,
    Except.pure, Except.ok.injEq, and_assoc, exists_and_left, exists_eq_left, maxRttAbsMs]
  apply Iff.intro
  · rintro ⟨hratio, habsMs, rfl⟩
    refine ⟨⟨fun ratio h => ?_, fun absMs h => ?_⟩, rfl⟩
    · have := hratio ratio h
      omega
    · have := habsMs absMs h
      omega
  · rintro ⟨hdocumented, rfl⟩
    refine ⟨fun ratio h => ?_, fun absMs h => ?_, rfl⟩
    · have := hdocumented.ratio ratio h
      omega
    · have := hdocumented.absMs absMs h
      omega

/-- A storage section is accepted when its thresholds are, alone and after merging. -/
theorem applyStorage_ok_iff {result : ResolvedStorage} :
    applyStorage overrides.storage base.storage = .ok result ↔
      DocumentedStorage overrides.storage ∧
        result.slowIoWarningMs ≤ result.slowIoCriticalMs ∧
        result = (replaced overrides base).storage := by
  simp only [applyStorage, bind_ok_iff, overrideWith_ok_iff, checkRange_ok_iff, pure,
    Except.pure, and_assoc, exists_and_left, exists_eq_left, maxWarningMs, maxCriticalMs]
  have hguard : ∀ {c : Prop} [Decidable c] {e : ProfileError} {x : ResolvedStorage},
      (if c then Except.error e else .ok x) = .ok result ↔ ¬ c ∧ result = x := by
    intro c _ e x
    split <;> simp [*, eq_comm]
  rw [hguard, UInt64.not_lt]
  apply Iff.intro
  · rintro ⟨hwarning, hcritical, horder, rfl⟩
    refine ⟨⟨fun ms h => ?_, fun ms h => ?_⟩, horder, rfl⟩
    · have := hwarning ms h
      omega
    · have := hcritical ms h
      omega
  · rintro ⟨hdocumented, horder, rfl⟩
    refine ⟨fun ms h => ?_, fun ms h => ?_, horder, rfl⟩
    · have := hdocumented.warningMs ms h
      omega
    · have := hdocumented.criticalMs ms h
      omega

/-- Removing an appended element as well keeps the others. -/
theorem removeAll_concat (bytes checked : List UInt8) (byte : UInt8) :
    bytes.removeAll (checked ++ [byte]) =
      (bytes.removeAll checked).filter fun other => !other == byte := by
  simp only [List.removeAll, List.filter_filter]
  refine List.filter_congr fun other _ => ?_
  simp [Bool.beq_eq_decide_eq, Bool.and_comm]

/-- The table of the codes seen so far makes the loop keep every first occurrence. -/
theorem checkExitCodes_ok_iff {checked result : List UInt8} {codes : List Int32} :
    checkExitCodes checked codes = .ok result ↔
      (∀ code ∈ codes, 0 ≤ code.toInt ∧ code.toInt ≤ 255) ∧
        result = checked ++ ((codes.map (·.toUInt32.toUInt8)).removeAll checked).eraseDups := by
  induction codes generalizing checked with
  | nil => simp [checkExitCodes, eq_comm]
  | cons code rest ih =>
      rw [checkExitCodes, check_bind_ok_iff, checkRange_ok_iff, List.forall_mem_cons,
        List.map_cons]
      simp only [and_assoc]
      refine and_congr_right fun _ => and_congr_right fun _ => ?_
      by_cases hseen : code.toUInt32.toUInt8 ∈ checked
      · have hremoved : (code.toUInt32.toUInt8 :: rest.map (·.toUInt32.toUInt8)).removeAll checked =
            (rest.map (·.toUInt32.toUInt8)).removeAll checked := by
          simp [List.removeAll, hseen]
        rw [if_pos hseen, ih, hremoved]
      · have hkept : (code.toUInt32.toUInt8 :: rest.map (·.toUInt32.toUInt8)).removeAll checked =
            code.toUInt32.toUInt8 :: (rest.map (·.toUInt32.toUInt8)).removeAll checked := by
          simp [List.removeAll, hseen]
        rw [if_neg hseen, ih, hkept, removeAll_concat, List.eraseDups_cons, List.append_assoc,
          List.singleton_append]

theorem applyContainer_ok_iff {result : ResolvedContainer} :
    applyContainer overrides.container base.container = .ok result ↔
      DocumentedContainer overrides.container ∧ result = (replaced overrides base).container := by
  rw [applyContainer]
  cases hcodes : overrides.container.ignoreExitCodes with
  | none =>
      have hdocumented : DocumentedContainer overrides.container :=
        ⟨by simp [hcodes], by simp [hcodes]⟩
      simp [hdocumented, replaced, hcodes, eq_comm]
  | some codes =>
      have hdocumented : DocumentedContainer overrides.container ↔
          codes.length ≤ 16 ∧ ∀ code ∈ codes, 0 ≤ code.toInt ∧ code.toInt ≤ 255 := by
        apply Iff.intro
        · exact fun h => ⟨h.count codes hcodes, h.range codes hcodes⟩
        · rintro ⟨hcount, hrange⟩
          refine ⟨?_, ?_⟩ <;> rw [hcodes] <;> rintro _ ⟨⟩
          · exact hcount
          · exact hrange
      rw [hdocumented]
      dsimp only
      by_cases hcount : codes.length > maxIgnoreExitCodes
      · have hmany : ¬ codes.length ≤ 16 := Nat.not_le.mpr hcount
        simp [hcount, hmany]
      · have hfew : codes.length ≤ 16 := Nat.not_lt.mp hcount
        rw [if_neg hcount, bind_ok_iff]
        simp only [checkExitCodes_ok_iff, hfew, true_and, List.nil_append, pure, Except.pure,
          Except.ok.injEq, and_assoc, exists_and_left, exists_eq_left]
        refine and_congr_right fun _ => ?_
        rw [replaced, hcodes, eq_comm]
        simp [List.removeAll]

/-- A number in a range from zero. -/
theorem validateFiniteRange_zero_ok_iff {field : FieldPath} {value : F64} {max : ℚ}
    {range : String} :
    validateFiniteRange field value 0 max range = .ok () ↔ Bounded value max :=
  validateFiniteRange_ok_iff

/-- Of two numbers in ranges, one is below the other or they are in order. -/
theorem le_of_not_lt {x y : F64} {bound : ℚ} (hx : Bounded x bound) (hy : Bounded y bound) :
    y.lt x = false ↔ x.le y := by
  obtain ⟨x, rfl, -⟩ := hx
  obtain ⟨y, rfl, -⟩ := hy
  simp [F64.lt, F64.le, le_iff_lt_or_eq]

/-- An overridden field is in the range that its base is in. -/
theorem bounded_getD {input : Option F64} {inherited : F64} {bound : ℚ}
    (hinherited : Bounded inherited bound) (h : ∀ x ∈ input, Bounded x bound) :
    Bounded (input.getD inherited) bound := by
  cases input with
  | none => exact hinherited
  | some x => exact h x rfl

theorem applyNodePmc_ok_iff {result : ResolvedNodePmc} (hbase : base.nodePmc.InRange) :
    applyNodePmc overrides.nodePmc base.nodePmc = .ok result ↔
      DocumentedNodePmc overrides.nodePmc ∧
        result.stallPctWarning.le result.stallPctCritical ∧
        result = (replaced overrides base).nodePmc := by
  simp only [applyNodePmc, bind_ok_iff, overrideWith_ok_iff, validateFiniteRange_zero_ok_iff,
    pure, Except.pure, and_assoc, exists_and_left, exists_eq_left]
  apply Iff.intro
  · rintro ⟨hwarning, hcritical, h⟩
    split at h
    · cases h
    · next horder =>
        obtain ⟨ipc, hipc, h⟩ := bind_eq_ok h
        rw [overrideWith_ok_iff] at hipc
        cases h
        have hipc' := fun x hx => validateFiniteRange_zero_ok_iff.mp (hipc.1 x hx)
        refine ⟨⟨hwarning, hcritical, hipc'⟩, ?_, by rw [hipc.2]; rfl⟩
        exact (le_of_not_lt (bounded_getD hbase.warning hwarning)
          (bounded_getD hbase.critical hcritical)).mp (Bool.eq_false_iff.mpr horder)
  · rintro ⟨hdocumented, horder, rfl⟩
    have hlt := (le_of_not_lt (bounded_getD hbase.warning hdocumented.warning)
      (bounded_getD hbase.critical hdocumented.critical)).mpr horder
    refine ⟨hdocumented.warning, hdocumented.critical, ?_⟩
    rw [if_neg (Bool.eq_false_iff.mp hlt)]
    exact bind_ok_iff.mpr ⟨_, overrideWith_ok_iff.mpr
      ⟨fun x hx => validateFiniteRange_zero_ok_iff.mpr (hdocumented.ipc x hx), rfl⟩, rfl⟩

/-! ## The whole document -/

theorem applyOverrides_ok_iff {resolved : ResolvedProfile} (hbase : base.InRange) :
    applyOverrides overrides base = .ok resolved ↔
      (DocumentedOverrides overrides ∧ Ordered (replaced overrides base)) ∧
        resolved = replaced overrides base := by
  simp only [applyOverrides, bind_ok_iff, applyNetwork_ok_iff, applyStorage_ok_iff,
    applyContainer_ok_iff, applyNodePmc_ok_iff hbase.nodePmc, pure, Except.pure,
    Except.ok.injEq, and_assoc]
  apply Iff.intro
  · rintro ⟨_, hnetwork, rfl, _, hstorage, hslowIo, rfl, _, hcontainer, rfl, _, hnodePmc,
      hstallPct, rfl, rfl⟩
    exact ⟨⟨hnetwork, hstorage, hcontainer, hnodePmc⟩, ⟨hslowIo, hstallPct⟩, rfl⟩
  · rintro ⟨hoverrides, hordered, rfl⟩
    exact ⟨_, hoverrides.network, rfl, _, hoverrides.storage, hordered.slowIo, rfl, _,
      hoverrides.container, rfl, _, hoverrides.nodePmc, hordered.stallPct, rfl, rfl⟩

theorem validateEnvelope_ok_iff {profile : EvidenceProfile} :
    validateEnvelope profile = .ok () ↔
      profile.apiVersion = some apiVersion ∧ profile.kind = some kind := by
  rw [validateEnvelope]
  split_ifs <;> simp_all

theorem resolveBase_ok_iff {profile : EvidenceProfile} {builtins : BuiltinSet} :
    resolveBase profile builtins = .ok base ↔
      ∃ name, profile.base = some name ∧ WellFormedName name ∧
        builtins.profiles[name]? = some base := by
  rw [resolveBase]
  cases hname : profile.base with
  | none => simp
  | some name =>
      simp only [← validProfileName_iff, Option.some.injEq, exists_eq_left']
      cases hvalid : validProfileName name with
      | false => simp
      | true =>
          cases hfound : builtins.profiles[name]? with
          | none => simp
          | some found => simp

/-- What is documented is accepted, and resolved as documented, against any builtins. -/
theorem resolve_ok_iff {profile : EvidenceProfile} {builtins : BuiltinSet}
    {resolved : ResolvedProfile} :
    resolve profile builtins = .ok resolved ↔
      ∃ base, Documented profile builtins base ∧ resolved = replaced profile.overrides base := by
  rw [resolve, check_bind_ok_iff, validateEnvelope_ok_iff, bind_ok_iff]
  apply Iff.intro
  · rintro ⟨⟨hversion, hkind⟩, base, hnamed, happlied⟩
    rw [resolveBase_ok_iff] at hnamed
    obtain ⟨name, -, -, hfound⟩ := id hnamed
    obtain ⟨⟨hoverrides, hordered⟩, rfl⟩ :=
      (applyOverrides_ok_iff (builtins.inRange name base hfound)).mp happlied
    exact ⟨base, ⟨hversion, hkind, hnamed, hoverrides, hordered⟩, rfl⟩
  · rintro ⟨base, hdocumented, rfl⟩
    obtain ⟨name, -, -, hfound⟩ := hdocumented.named
    exact ⟨⟨hdocumented.apiVersion, hdocumented.kind⟩, base,
      resolveBase_ok_iff.mpr hdocumented.named,
      (applyOverrides_ok_iff (builtins.inRange name base hfound)).mpr
        ⟨⟨hdocumented.overrides, hdocumented.ordered⟩, rfl⟩⟩

/-- **Exactly the documented profiles are accepted**, and they resolve to the builtin with
the overridden fields replaced. -/
theorem validate_v0_iff (profile : EvidenceProfile) (resolved : ResolvedProfile) :
    (∃ validated, validate profile BuiltinSet.v0 = .ok validated ∧
      validated.resolved = resolved) ↔
        Documented profile BuiltinSet.v0 productionDefault ∧
          resolved = replaced profile.overrides productionDefault := by
  have honly : ∀ base, Documented profile BuiltinSet.v0 base → base = productionDefault := by
    intro base hdocumented
    obtain ⟨name, -, -, hfound⟩ := hdocumented.named
    rw [BuiltinSet.v0, Std.ExtTreeMap.getElem?_insert] at hfound
    split at hfound
    · exact (Option.some.inj hfound).symm
    · simp at hfound
  apply Iff.intro
  · rintro ⟨validated, hvalid, rfl⟩
    obtain ⟨base, hdocumented, hresolved⟩ := resolve_ok_iff.mp (validate_ok_iff.mp hvalid)
    obtain rfl := honly base hdocumented
    exact ⟨hdocumented, hresolved⟩
  · rintro ⟨hdocumented, rfl⟩
    have hresolved := resolve_ok_iff.mpr ⟨productionDefault, hdocumented, rfl⟩
    exact ⟨⟨_, (resolve_ok hresolved).1⟩, validate_ok_iff.mpr hresolved, rfl⟩

end Tapio.Profile
