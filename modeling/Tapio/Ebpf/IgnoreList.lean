/-
# The ignore list as a set

The exit codes an operator wants ignored pass through five representations: the list in
the profile, a list of bytes without repetitions, a list of words, a fixed array of slots
with a count, and the loop in the kernel that scans the slots in use. All of them have
the same members. A slot that is not in use holds zero, which is a code as well; the loop
never reaches it.
-/
import Tapio.Ebpf.ExitFilter

namespace Tapio.Ebpf

open Agent Controller Profile

/-! ## The scan -/

/-- The loop over the slots, with the index of the next one and how many are left. -/
def scanSlots (cfg : TapioConfig) (ignoreCount : UInt32) (code : Int32) :
    (index remaining : ℕ) → Bool
  | _, 0 => false
  | index, remaining + 1 =>
      if ignoreCount.toNat ≤ index then false
      else if cfg.ignoreExitCodes.toList[index]? = some code then true
      else scanSlots cfg ignoreCount code (index + 1) remaining

/-- Whether the loop of `handle_exit` finds a code. -/
def scanIgnoreExitCodes (cfg : TapioConfig) (code : Int32) : Bool :=
  scanSlots cfg (tapioClampIgnoreExitCount cfg.ignoreExitCount) code 0
    tapioConfigMaxIgnoreExitCodes

theorem scanSlots_iff (cfg : TapioConfig) (ignoreCount : UInt32) (code : Int32)
    (index remaining : ℕ) :
    scanSlots cfg ignoreCount code index remaining ↔
      ∃ i, index ≤ i ∧ i < index + remaining ∧ i < ignoreCount.toNat ∧
        cfg.ignoreExitCodes.toList[i]? = some code := by
  induction remaining generalizing index with
  | zero =>
      rw [scanSlots]
      apply iff_of_false Bool.false_ne_true
      rintro ⟨i, hle, hlt, -⟩
      omega
  | succ remaining ih =>
      rw [scanSlots]
      split
      · next hend =>
          apply iff_of_false Bool.false_ne_true
          rintro ⟨i, hle, -, hcount, -⟩
          omega
      · next hopen =>
          split
          · next hfound => exact iff_of_true rfl ⟨index, le_rfl, by omega, by omega, hfound⟩
          · next hother =>
              rw [ih]
              apply Iff.intro
              · rintro ⟨i, hle, hlt, hcount, hslot⟩
                exact ⟨i, by omega, by omega, hcount, hslot⟩
              · rintro ⟨i, hle, hlt, hcount, hslot⟩
                have hne : i ≠ index := by
                  rintro rfl
                  exact hother hslot
                exact ⟨i, by omega, by omega, hcount, hslot⟩

/-- The loop looks at the slots in use. -/
theorem scanIgnoreExitCodes_eq (cfg : TapioConfig) (code : Int32) :
    scanIgnoreExitCodes cfg code = isIgnoredExit cfg code := by
  rw [Bool.eq_iff_iff, scanIgnoreExitCodes, scanSlots_iff, isIgnoredExit, List.any_eq_true]
  simp only [beq_iff_eq, exists_eq_right, List.mem_iff_getElem?, List.getElem?_take]
  apply Iff.intro
  · rintro ⟨i, -, -, hcount, hslot⟩
    exact ⟨i, by rw [if_pos hcount, hslot]⟩
  · rintro ⟨i, hslot⟩
    obtain ⟨hcount, hslot⟩ := Option.ite_none_right_eq_some.mp hslot
    have hbound : i < tapioConfigMaxIgnoreExitCodes :=
      List.Vector.toList_length cfg.ignoreExitCodes ▸ (List.getElem?_eq_some_iff.mp hslot).1
    exact ⟨i, Nat.zero_le i, by omega, hcount, hslot⟩

/-! ## The members -/

/-- The operator lists the code, or does not override the list and the base profile has
it. -/
def OperatorIgnores (profile : EvidenceProfile) (builtins : BuiltinSet) (code : Int32) : Prop :=
  match profile.overrides.container.ignoreExitCodes with
  | some codes => code ∈ codes
  | none => ∃ name base, profile.base = some name ∧ builtins.profiles[name]? = some base ∧
      code ∈ base.container.ignoreExitCodes.map (·.toUInt32.toInt32)

theorem exitCode_toInt (byte : UInt8) : byte.toUInt32.toInt32.toInt = byte.toNat := by
  have hlt := byte.toNat_lt
  change byte.toUInt32.toBitVec.toInt = _
  rw [BitVec.toInt_eq_toNat_of_lt]
  · simp
  · simp
    omega

/-- A code in range is the word of its byte. -/
theorem byte_of_exitCode {code : Int32} (hrange : 0 ≤ code.toInt ∧ code.toInt ≤ 255) :
    code.toUInt32.toUInt8.toUInt32.toInt32 = code := by
  have hword : (code.toUInt32.toNat : ℤ) = code.toInt := by
    have hnonneg : 0 ≤ code.toBitVec.toInt := hrange.1
    have hlt := code.toBitVec.isLt
    change (code.toBitVec.toNat : ℤ) = code.toBitVec.toInt
    rw [BitVec.toInt_eq_toNat_cond] at hnonneg ⊢
    split at hnonneg
    · next hsmall => rw [if_pos hsmall]
    · omega
  rw [← Int32.toInt_inj, exitCode_toInt, UInt32.toNat_toUInt8, Nat.mod_eq_of_lt (by omega), hword]

/-- The compiled list has the members of the operator's. -/
theorem mem_compile_iff {profile : EvidenceProfile} {builtins : BuiltinSet}
    {validated : ValidatedProfile} (hvalid : validate profile builtins = .ok validated)
    (code : Int32) :
    code ∈ (compile validated).container.ignoreExitCodes ↔
      OperatorIgnores profile builtins code := by
  obtain ⟨-, name, base, hname, hbase, hmerged⟩ := resolve_ok (validate_ok_iff.mp hvalid)
  have hmembers := hmerged.ignoreExitCodes
  have hrange := hmerged.exitCodeRange
  rw [compile, compileWith, List.mem_map, OperatorIgnores]
  simp only [hmembers, ContainerOverride.ignores]
  cases hlist : profile.overrides.container.ignoreExitCodes with
  | none =>
      apply Iff.intro
      · rintro ⟨byte, hbyte, hcode⟩
        exact ⟨name, base, hname, hbase, List.mem_map.mpr ⟨byte, hbyte, hcode⟩⟩
      · rintro ⟨name', base', hname', hbase', hcode⟩
        obtain rfl : name = name' := Option.some.inj (hname.symm.trans hname')
        obtain rfl : base = base' := Option.some.inj (hbase.symm.trans hbase')
        exact List.mem_map.mp hcode
  | some codes =>
      have hexact : ∀ listed ∈ codes, listed.toUInt32.toUInt8.toUInt32.toInt32 = listed :=
        fun listed hlisted => byte_of_exitCode (hrange codes hlist listed hlisted)
      apply Iff.intro
      · rintro ⟨byte, hbyte, rfl⟩
        obtain ⟨listed, hlisted, rfl⟩ := List.mem_map.mp hbyte
        rwa [hexact listed hlisted]
      · intro hlisted
        exact ⟨_, List.mem_map_of_mem hlisted, hexact code hlisted⟩

/-- **The ignore list survives every stage as a set.** -/
theorem scanIgnoreExitCodes_iff {profile : EvidenceProfile} {builtins : BuiltinSet}
    {validated : ValidatedProfile} (hvalid : validate profile builtins = .ok validated)
    {generation : String} {cfg : TapioConfig}
    (hcarried : tapioConfigFromCompiled (compile validated) generation = .ok cfg)
    (code : Int32) :
    scanIgnoreExitCodes cfg code ↔ OperatorIgnores profile builtins code := by
  have hcount : (compile validated).container.ignoreExitCodes.length ≤
      tapioConfigMaxIgnoreExitCodes := by
    rw [compile, compileWith, List.length_map]
    exact validated.inRange.container.count
  obtain ⟨parsed, rfl⟩ := eq_tapioConfigOf hcarried
  rw [scanIgnoreExitCodes_eq, isIgnoredExit_iff hcount, mem_compile_iff hvalid]

/-- A profile that lists a code twice. -/
def ignoresRepeated : EvidenceProfile where
  apiVersion := some "tapio.false.systems/v0"
  kind := some "EvidenceProfile"
  base := some "production-default"
  overrides := { ProfileOverrides.default with
    container := { enabled := none, ignoreExitCodes := some [143, 130, 143] } }

/-- Its codes are found, and the zeros in the other slots are not. -/
theorem scanIgnoreExitCodes_repeated :
    ∃ validated cfg, validate ignoresRepeated BuiltinSet.v0 = .ok validated ∧
      tapioConfigFromCompiled (compile validated) "7" = .ok cfg ∧
      scanIgnoreExitCodes cfg 143 ∧ ¬ scanIgnoreExitCodes cfg 0 := by
  have hvalid : (validate ignoresRepeated BuiltinSet.v0).isOk := by decide +kernel
  cases h : validate ignoresRepeated BuiltinSet.v0 with
  | error error =>
      rw [h] at hvalid
      cases hvalid
  | ok validated =>
      have hparse : Text.parseU32 "7" = some 7 := by decide +kernel
      have hcarried : tapioConfigFromCompiled (compile validated) "7" =
          .ok (tapioConfigOf (compile validated) 7) := by
        rw [tapioConfigFromCompiled, hparse]
        rfl
      refine ⟨validated, _, rfl, hcarried, ?_, ?_⟩
      · rw [scanIgnoreExitCodes_iff h hcarried]
        change (143 : Int32) ∈ ([143, 130, 143] : List Int32)
        decide
      · rw [scanIgnoreExitCodes_iff h hcarried]
        change (0 : Int32) ∉ ([143, 130, 143] : List Int32)
        decide

end Tapio.Ebpf
