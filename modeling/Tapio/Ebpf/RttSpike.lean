/-
# When a sample is a spike

A sample of a stable connection stands out if it is more than the configured multiple of
the baseline, or more than the absolute threshold. The handler multiplies in 32 bits. The
ratio comes from the operator, the baseline is learned and then drifts, and where their
product wraps the sample is compared with the rest of it.
-/
import Tapio.Agent.Config
import Tapio.Ebpf.RttBaseline

namespace Tapio.Ebpf

open Agent Numeric Transition

/-! ## The decision -/

/-- The sample is above a threshold, in unbounded integers. A threshold of zero is off. -/
def StandsOut (cfg : TapioConfig) (baselineUs rttUs : UInt32) : Prop :=
  (0 < cfg.rttSpikeMultiplier.toNat ∧
    cfg.rttSpikeMultiplier.toNat * baselineUs.toNat < rttUs.toNat) ∨
  (0 < cfg.rttSpikeAbsUs.toNat ∧ cfg.rttSpikeAbsUs.toNat < rttUs.toNat)

/-- The baseline that the sample is compared with. -/
def RttSample.judgedBaseline (sample : RttSample) (nowNs : UInt64) (found : RttBaseline) : UInt32 :=
  (sample.entry nowNs (some found)).baselineUs

/-- A spike is submitted exactly for a sample that stands out. -/
def SpikeExact (call : SockCall) (maps : NetworkMaps) (sample : RttSample) (found : RttBaseline) :
    Prop :=
  (∃ event ∈ (call.run maps).2, event.eventType = netEventRttSpike) ↔
    StandsOut sample.cfg (sample.judgedBaseline call.inv.ktimeNs found) sample.rttUs

instance (cfg : TapioConfig) (baselineUs rttUs : UInt32) :
    Decidable (StandsOut cfg baselineUs rttUs) :=
  inferInstanceAs (Decidable (_ ∨ _))

instance (call : SockCall) (maps : NetworkMaps) (sample : RttSample) (found : RttBaseline) :
    Decidable (SpikeExact call maps sample found) :=
  inferInstanceAs (Decidable (_ ↔ _))

/-- With room in the ring buffer, a spike is submitted if the test says so. -/
theorem submitted_iff {call : SockCall} {maps : NetworkMaps} {sample : RttSample}
    {found : RttBaseline} (hcall : call.sample = some sample)
    (hfound : maps.baselineRtt sample.key = some found) (hstable : found.state = rttStateStable)
    (hroom : call.inv.ringbufFree) :
    (∃ event ∈ (call.run maps).2, event.eventType = netEventRttSpike) ↔
      isRttSpike sample.cfg (sample.judgedBaseline call.inv.ktimeNs found) sample.rttUs := by
  have htrack : call.tracking maps = sample.track call.inv call.args maps := by
    rw [SockCall.tracking, hcall]
  have hstep := sample.track_stable call.inv call.args hfound hstable
  dsimp only at hstep
  rw [hfound] at hstep
  apply Iff.intro
  · rintro ⟨event, hevent, htype⟩
    have h := ((call.run_eq maps).2 event htype).mp hevent
    rw [htrack, hstep] at h
    by_contra hnot
    rw [RttSample.judgedBaseline] at hnot
    rw [if_neg hnot] at h
    cases h
  · intro hspike
    refine ⟨rttSpikeEvent call.inv sample.cfg call.args
      (sample.judgedBaseline call.inv.ktimeNs found) sample.rttUs, ?_, rfl⟩
    refine ((call.run_eq maps).2 _ rfl).mpr ?_
    rw [htrack, hstep]
    rw [RttSample.judgedBaseline] at hspike ⊢
    rw [if_pos hspike, submitNetwork, if_pos hroom]
    rfl

/-- The test compares with the product modulo `2 ^ 32`. -/
theorem isRttSpike_iff (cfg : TapioConfig) (baselineUs rttUs : UInt32) :
    isRttSpike cfg baselineUs rttUs ↔
      (0 < cfg.rttSpikeMultiplier.toNat ∧
        cfg.rttSpikeMultiplier.toNat * baselineUs.toNat % 2 ^ 32 < rttUs.toNat) ∨
      (0 < cfg.rttSpikeAbsUs.toNat ∧ cfg.rttSpikeAbsUs.toNat < rttUs.toNat) := by
  simp only [isRttSpike, Bool.or_eq_true, Bool.and_eq_true, decide_eq_true_eq, gt_iff_lt,
    UInt32.lt_iff_toNat_lt, UInt32.toNat_mul, Nat.mul_comm]
  rfl

/-! ## When the decision is exact -/

/-- The sample is judged alike by a product and by what is left of it in a word. -/
def JudgedAlike (cfg : TapioConfig) (baselineUs rttUs : UInt32) : Prop :=
  cfg.rttSpikeMultiplier.toNat * baselineUs.toNat < 2 ^ 32 ∨
    rttUs.toNat ≤ cfg.rttSpikeMultiplier.toNat * baselineUs.toNat % 2 ^ 32 ∨
    (0 < cfg.rttSpikeAbsUs.toNat ∧ cfg.rttSpikeAbsUs.toNat < rttUs.toNat)

/-- No sample is above a product that wraps. -/
theorem not_product_lt {ratio baselineUs : ℕ} (hwraps : ¬ ratio * baselineUs < 2 ^ 32)
    (rttUs : UInt32) : ¬ ratio * baselineUs < rttUs.toNat := by
  have hword := rttUs.toNat_lt
  omega

/-- **The spike decision is exact** for a sample if the product fits, if the sample is not
above its rest, or if the absolute threshold decides; and for no other sample. -/
theorem spikeExact_iff {call : SockCall} {maps : NetworkMaps} {sample : RttSample}
    {found : RttBaseline} (hcall : call.sample = some sample)
    (hfound : maps.baselineRtt sample.key = some found) (hstable : found.state = rttStateStable)
    (hroom : call.inv.ringbufFree) :
    SpikeExact call maps sample found ↔
      JudgedAlike sample.cfg (sample.judgedBaseline call.inv.ktimeNs found) sample.rttUs := by
  rw [SpikeExact, submitted_iff hcall hfound hstable hroom, isRttSpike_iff, StandsOut,
    JudgedAlike]
  generalize sample.judgedBaseline call.inv.ktimeNs found = baselineUs
  by_cases hfits : sample.cfg.rttSpikeMultiplier.toNat * baselineUs.toNat < 2 ^ 32
  · simp only [Nat.mod_eq_of_lt hfits, hfits, true_or]
  · have hratio : 0 < sample.cfg.rttSpikeMultiplier.toNat := by
      by_contra hzero
      rw [Nat.le_zero.mp (Nat.le_of_not_lt hzero), Nat.zero_mul] at hfits
      exact hfits (by decide)
    simp only [not_product_lt hfits, hfits, hratio, true_and, and_false, false_or]
    rw [← Nat.not_lt]
    tauto

/-! ## Baselines of stable entries -/

/-- The largest baseline that an update of a stable entry can leave. -/
def maxStableBaseline : ℕ := 429496729

/-- A stable entry has at most that baseline, whatever the samples were. -/
def StableBounded (entry : RttBaseline) (_samples : List UInt32) : Prop :=
  entry.state = rttStateStable → entry.baselineUs.toNat ≤ maxStableBaseline

theorem stableBounded_effect {sample : RttSample} {nowNs : UInt64} {samples after : List UInt32}
    {entry : Option RttBaseline} {next : RttBaseline}
    (h : SampleEffect sample nowNs samples entry next after)
    (hentry : ∀ found ∈ entry, StableBounded found samples) : StableBounded next after := by
  intro hstable
  cases h with
  | inserted => exact absurd hstable.symm stable_ne_learning
  | learned hlearning _ => exact absurd (hstable.symm.trans hlearning) stable_ne_learning
  | promoted _ _ hlow =>
      have hle := UInt32.le_iff_toNat_le.mp (UInt32.not_lt.mp hlow)
      exact hle.trans (by decide)
  | reset _ => exact absurd hstable.symm stable_ne_learning
  | @refreshed found _ _ =>
      have hword := Nat.mod_lt (found.baselineUs.toNat * 9 + sample.rttUs.toNat)
        (Nat.two_pow_pos 32)
      rw [refreshedAverage, toNat_wordAverage]
      exact Nat.div_le_div_right (c := 10) (Nat.le_of_lt_succ hword)
  | @kept found _ _ => exact hentry found rfl hstable

theorem stableBounded_always (calls : List SockCall) :
    rttMachine.Always (Entries StableBounded) rttMachine.init calls := by
  refine Machine.always_of_preserved (fun {s call t} hs hstep => ?_) (entries_init _) calls
  cases hstep
  exact entries_step hs fun sample _ _ _ h =>
    stableBounded_effect h fun found hfound => hs sample.key found hfound

/-- Ratios of up to ten are exact in every run, for every sample. -/
theorem spikeExact_of_ratio_le_ten {calls : List SockCall} {s : RttRun}
    (hrun : rttMachine.exec rttMachine.init calls = some s) {call : SockCall}
    {sample : RttSample} {found : RttBaseline} (hcall : call.sample = some sample)
    (hfound : s.maps.baselineRtt sample.key = some found) (hstable : found.state = rttStateStable)
    (hroom : call.inv.ringbufFree) (hratio : sample.cfg.rttSpikeMultiplier.toNat ≤ 10) :
    SpikeExact call s.maps sample found := by
  have hentries := (stableBounded_always calls).of_exec hrun
  have hbound : StableBounded (sample.entry call.inv.ktimeNs (some found))
      (sample.since (some found) []) := by
    refine stableBounded_effect (sampleEffect sample _ [] (some found)) fun other hother => ?_
    obtain rfl := Option.some.inj hother
    exact hentries sample.key found hfound
  have hstays : (sample.entry call.inv.ktimeNs (some found)).state = rttStateStable :=
    (sampleEffect sample _ [] (some found)).stays_stable hstable
  rw [spikeExact_iff hcall hfound hstable hroom]
  refine .inl (Nat.lt_of_le_of_lt (Nat.mul_le_mul hratio (hbound hstays)) (by decide))

/-! ## A ratio that wraps -/

/-- The thresholds of an operator who wants no spikes by ratio. -/
def wideRatio : Thresholds := { Thresholds.default with rttSpikeRatio := 65536 }

/-- A round-trip time of 65536 microseconds. -/
def steadyCall (cfg : TapioConfig) : SockCall := establishedCall cfg 1000000000 524288

def steadySample (cfg : TapioConfig) : RttSample := ⟨cfg, establishedKey, 65536⟩

/-- A stable entry of the connection of the examples. -/
def steadyBaseline (baselineUs : UInt32) (sampleCount : UInt8) : RttBaseline where
  baselineUs := baselineUs
  sampleCount := sampleCount
  state := rttStateStable
  lastUpdateNs := 1000000000
  lastActivityNs := 1000000000

/-- A sample that is twice the baseline is judged exactly under the default ratio. -/
theorem spikeExact_default :
    SpikeExact (steadyCall Thresholds.default.tapioConfig)
      (NetworkMaps.empty.setBaseline establishedKey (steadyBaseline 32768 5))
      (steadySample Thresholds.default.tapioConfig) (steadyBaseline 32768 5) :=
  (spikeExact_iff (by decide +kernel) (by decide +kernel) rfl rfl).mpr (.inl (by decide +kernel))

/-- Six equal samples. The sixth is reported as a spike of the other five. -/
theorem not_spikeExact_wideRatio :
    ∃ s found, rttMachine.exec rttMachine.init
        (List.replicate 5 (steadyCall wideRatio.tapioConfig)) = some s ∧
      (steadyCall wideRatio.tapioConfig).sample = some (steadySample wideRatio.tapioConfig) ∧
      s.maps.baselineRtt establishedKey = some found ∧ found.state = rttStateStable ∧
      (steadyCall wideRatio.tapioConfig).inv.ringbufFree ∧
      ¬ SpikeExact (steadyCall wideRatio.tapioConfig) s.maps
          (steadySample wideRatio.tapioConfig) found := by
  refine ⟨_, steadyBaseline 65536 5, rttMachine_exec _ _, ?_⟩
  decide +kernel

end Tapio.Ebpf
