import Parp.Watermark

set_option autoImplicit false

/-!
# The time to the watermark

`parp_tier2_predict_ms` between two samples, with the 128-by-64 division it ends in: `watermark.c`
bounds neither the idle time nor the change of the EWMA, so the quotient need not fit in 64 bits.
-/
namespace Parp.PredictionTime

open Watermark

/-- `mul_u64_u64_div_u64`: on x86-64 a `mulq` and a `divq`, which raises a divide error for a
quotient of more than 64 bits (`none`). -/
structure MulDivU64 where
  run : UInt64 → UInt64 → UInt64 → Option UInt64
  quotient : ∀ a mul div, div ≠ 0 → a.toNat * mul.toNat / div.toNat < 2 ^ 64 →
    run a mul div = some (UInt64.ofNat (a.toNat * mul.toNat / div.toNat))
  divideError : ∀ a mul div, 2 ^ 64 ≤ a.toNat * mul.toNat / div.toNat → run a mul div = none

def divq : MulDivU64 where
  run a mul div :=
    if div = 0 ∨ 2 ^ 64 ≤ a.toNat * mul.toNat / div.toNat then none
    else some (UInt64.ofNat (a.toNat * mul.toNat / div.toNat))
  quotient a mul div hdiv hfits := if_neg (by
    rintro (hzero | hlarge)
    · exact hdiv hzero
    · exact absurd hfits (Nat.not_lt.2 hlarge))
  divideError a mul div hlarge := if_pos (.inr hlarge)

/-- `parp_tier2_predict_ms`; `none` when the division traps. -/
def predictMs (mulDiv : MulDivU64) (previousEwma ewma headroom demoteWmark elapsedMs : UInt64) :
    Option ℤ :=
  if headroom ≤ demoteWmark then some 0
  else if elapsedMs = 0 ∨ ewma ≥ previousEwma then some (-1)
  else
    (mulDiv.run (headroom - demoteWmark) elapsedMs (previousEwma - ewma)).map fun predicted =>
      (min predicted.toNat s64Max : ℕ)

/-- A sample after an EWMA, `gapNs` later; the watermark is the effective one. -/
structure SamplePair where
  previousEwma : UInt64
  headroom : UInt64
  demoteWmark : UInt64
  gapNs : UInt64
  deriving DecidableEq

namespace SamplePair

variable (pair : SamplePair)

def ewma : UInt64 := parpTier2EwmaNext pair.previousEwma pair.headroom

def elapsedMs : UInt64 := pair.gapNs / nsecPerMsec

/-- What `parp_tier2_memcg_sample` stores in `predicted_ms`. -/
def predicted (mulDiv : MulDivU64) : Option ℤ :=
  predictMs mulDiv pair.previousEwma pair.ewma pair.headroom pair.demoteWmark pair.elapsedMs

def Falling : Prop :=
  pair.demoteWmark.toNat < pair.headroom.toNat ∧ pair.elapsedMs.toNat ≠ 0 ∧
    pair.ewma.toNat < pair.previousEwma.toNat

def quotient : ℕ :=
  (pair.headroom.toNat - pair.demoteWmark.toNat) * pair.elapsedMs.toNat /
    (pair.previousEwma.toNat - pair.ewma.toNat)

structure Predicts (mulDiv : MulDivU64) : Prop where
  reached : pair.headroom.toNat ≤ pair.demoteWmark.toNat → pair.predicted mulDiv = some 0
  due : pair.predicted mulDiv = some 0 →
    pair.headroom.toNat ≤ pair.demoteWmark.toNat ∨ pair.Falling ∧ pair.quotient = 0
  never : pair.predicted mulDiv = some (-1) ↔
    pair.demoteWmark.toNat < pair.headroom.toNat ∧
      (pair.elapsedMs.toNat = 0 ∨ pair.previousEwma.toNat ≤ pair.ewma.toNat)
  falling : pair.Falling → pair.predicted mulDiv = some (min pair.quotient s64Max : ℕ)
  representable : pair.Falling → pair.quotient < 2 ^ 64

end SamplePair

theorem ewmaNext_toNat (previous sample : UInt64) :
    (parpTier2EwmaNext previous sample).toNat = (15 * previous.toNat + sample.toNat) / 16 := by
  have hshift (w : UInt64) : (w >>> (4 : UInt64)).toNat = w.toNat / 16 := by
    rw [UInt64.toNat_shiftRight]
    exact Nat.shiftRight_eq_div_pow _ 4
  have hmask (w : UInt64) : (w &&& 15).toNat = w.toNat % 16 := by
    rw [UInt64.toNat_and]
    exact Nat.and_two_pow_sub_one_eq_mod _ 4
  have hprevious := previous.toNat_lt
  have hsample := sample.toNat_lt
  have hfifteen : (15 : UInt64).toNat = 15 := rfl
  unfold parpTier2EwmaNext
  dsimp only
  simp only [UInt64.toNat_add, UInt64.toNat_mul, hshift, hmask, hfifteen]
  simp (disch := omega) only [Nat.mod_eq_of_lt]
  omega

theorem ewma_fall (previous sample : UInt64) :
    previous.toNat - (parpTier2EwmaNext previous sample).toNat =
      (previous.toNat - sample.toNat + 15) / 16 := by
  rw [ewmaNext_toNat]
  omega

theorem ewma_lt_iff (previous sample : UInt64) :
    (parpTier2EwmaNext previous sample).toNat < previous.toNat ↔
      sample.toNat < previous.toNat := by
  rw [ewmaNext_toNat]
  omega

section

variable {mulDiv : MulDivU64} {pair : SamplePair}

theorem predicted_reached (h : pair.headroom.toNat ≤ pair.demoteWmark.toNat) :
    pair.predicted mulDiv = some 0 :=
  if_pos (UInt64.le_iff_toNat_le.2 h)

theorem predicted_idle (h : pair.demoteWmark.toNat < pair.headroom.toNat)
    (hidle : pair.elapsedMs.toNat = 0 ∨ pair.previousEwma.toNat ≤ pair.ewma.toNat) :
    pair.predicted mulDiv = some (-1) := by
  have habove : ¬ pair.headroom ≤ pair.demoteWmark := by
    rw [UInt64.le_iff_toNat_le]
    omega
  refine (if_neg habove).trans (if_pos ?_)
  refine hidle.imp (fun hzero => ?_) fun hrise => UInt64.le_iff_toNat_le.2 hrise
  exact UInt64.toNat_inj.1 hzero

theorem predicted_falling (h : pair.Falling) :
    pair.predicted mulDiv =
      (mulDiv.run (pair.headroom - pair.demoteWmark) pair.elapsedMs
        (pair.previousEwma - pair.ewma)).map fun predicted => ((min predicted.toNat s64Max : ℕ) : ℤ) := by
  obtain ⟨habove, hlong, hfall⟩ := h
  have hnot : ¬ pair.headroom ≤ pair.demoteWmark := by
    rw [UInt64.le_iff_toNat_le]
    omega
  have hidle : ¬ (pair.elapsedMs = 0 ∨ pair.ewma ≥ pair.previousEwma) := by
    rintro (hzero | hrise)
    · exact hlong (congrArg UInt64.toNat hzero)
    · exact absurd (UInt64.le_iff_toNat_le.1 hrise) (Nat.not_le.2 hfall)
  exact (if_neg hnot).trans (if_neg hidle)

theorem operands (h : pair.Falling) :
    (pair.headroom - pair.demoteWmark).toNat * pair.elapsedMs.toNat /
        (pair.previousEwma - pair.ewma).toNat = pair.quotient ∧
      pair.previousEwma - pair.ewma ≠ 0 := by
  obtain ⟨habove, -, hfall⟩ := h
  have hsub : (pair.previousEwma - pair.ewma).toNat =
      pair.previousEwma.toNat - pair.ewma.toNat :=
    UInt64.toNat_sub_of_le _ _ (UInt64.le_iff_toNat_le.2 hfall.le)
  refine ⟨?_, fun hzero => ?_⟩
  · rw [hsub, UInt64.toNat_sub_of_le _ _ (UInt64.le_iff_toNat_le.2 habove.le)]
    rfl
  · rw [hzero] at hsub
    change 0 = _ at hsub
    omega

theorem predicted_quotient (h : pair.Falling) (hfits : pair.quotient < 2 ^ 64) :
    pair.predicted mulDiv = some ((min pair.quotient s64Max : ℕ) : ℤ) := by
  obtain ⟨hquotient, hdiv⟩ := operands h
  rw [predicted_falling h, mulDiv.quotient _ _ _ hdiv (hquotient ▸ hfits), hquotient]
  change some (((min (UInt64.ofNat pair.quotient).toNat s64Max : ℕ)) : ℤ) = _
  rw [UInt64.toNat_ofNat_of_lt' hfits]

end

/-- The quotient of a falling pair fits in 64 bits exactly when the time to the watermark, in units
of the idle time, does not exceed `2 ^ 64` steps of the EWMA. -/
theorem quotient_lt_iff {pair : SamplePair} (h : pair.Falling) :
    pair.quotient < 2 ^ 64 ↔
      (pair.headroom.toNat - pair.demoteWmark.toNat) * (pair.gapNs.toNat / 1000000) <
        2 ^ 64 * ((pair.previousEwma.toNat - pair.headroom.toNat + 15) / 16) := by
  have hfall : 0 < pair.previousEwma.toNat - pair.ewma.toNat := Nat.sub_pos_of_lt h.2.2
  have helapsed : pair.elapsedMs.toNat = pair.gapNs.toNat / 1000000 := by
    unfold SamplePair.elapsedMs
    rw [UInt64.toNat_div]
    rfl
  unfold SamplePair.quotient
  rw [Nat.div_lt_iff_lt_mul hfall, helapsed]
  unfold SamplePair.ewma
  rw [ewma_fall]

theorem falling_iff (pair : SamplePair) :
    pair.Falling ↔ pair.demoteWmark.toNat < pair.headroom.toNat ∧ 1000000 ≤ pair.gapNs.toNat ∧
      pair.headroom.toNat < pair.previousEwma.toNat := by
  have helapsed : pair.elapsedMs.toNat = pair.gapNs.toNat / 1000000 := by
    unfold SamplePair.elapsedMs
    rw [UInt64.toNat_div]
    rfl
  unfold SamplePair.Falling
  rw [helapsed]
  unfold SamplePair.ewma
  rw [ewma_lt_iff]
  refine and_congr_right fun _ => and_congr_left fun _ => ?_
  omega

theorem pair_cases (pair : SamplePair) :
    pair.headroom.toNat ≤ pair.demoteWmark.toNat ∨
      (pair.demoteWmark.toNat < pair.headroom.toNat ∧
        (pair.elapsedMs.toNat = 0 ∨ pair.previousEwma.toNat ≤ pair.ewma.toNat)) ∨
      pair.Falling := by
  unfold SamplePair.Falling
  omega

theorem predicts_of_representable (mulDiv : MulDivU64) {pair : SamplePair}
    (h : pair.Falling → pair.quotient < 2 ^ 64) : pair.Predicts mulDiv where
  reached := predicted_reached
  due hdue := by
    rcases pair_cases pair with hreached | ⟨habove, hidle⟩ | hfalling
    · exact .inl hreached
    · rw [predicted_idle habove hidle] at hdue
      cases hdue
    · rw [predicted_quotient hfalling (h hfalling)] at hdue
      have hzero : min pair.quotient s64Max = 0 := Int.ofNat_eq_zero.1 (Option.some.inj hdue)
      have htop : s64Max ≠ 0 := by decide
      exact .inr ⟨hfalling, by omega⟩
  never := by
    refine ⟨fun hnever => ?_, fun hidle => predicted_idle hidle.1 hidle.2⟩
    rcases pair_cases pair with hreached | hidle | hfalling
    · rw [predicted_reached hreached] at hnever
      cases hnever
    · exact hidle
    · rw [predicted_quotient hfalling (h hfalling)] at hnever
      have hsign := Option.some.inj hnever
      omega
  falling hfalling := predicted_quotient hfalling (h hfalling)
  representable := h

/-- A prediction is what the cases say exactly when the headroom above the watermark, times the idle
milliseconds, is less than `2 ^ 64` times the fall of the EWMA. -/
theorem prediction_time_iff (mulDiv : MulDivU64) :
    (∀ previous sample, (parpTier2EwmaNext previous sample).toNat =
      (15 * previous.toNat + sample.toNat) / 16) ∧
    ∀ pair : SamplePair, pair.Predicts mulDiv ↔
      (pair.demoteWmark.toNat < pair.headroom.toNat → 1000000 ≤ pair.gapNs.toNat →
        pair.headroom.toNat < pair.previousEwma.toNat →
        (pair.headroom.toNat - pair.demoteWmark.toNat) * (pair.gapNs.toNat / 1000000) <
          2 ^ 64 * ((pair.previousEwma.toNat - pair.headroom.toNat + 15) / 16)) := by
  refine ⟨ewmaNext_toNat, fun pair => ⟨fun h habove hlong hfall => ?_, fun h => ?_⟩⟩
  · have hfalling := (falling_iff pair).2 ⟨habove, hlong, hfall⟩
    exact (quotient_lt_iff hfalling).1 (h.representable hfalling)
  · refine predicts_of_representable mulDiv fun hfalling => (quotient_lt_iff hfalling).2 ?_
    obtain ⟨habove, hlong, hfall⟩ := (falling_iff pair).1 hfalling
    exact h habove hlong hfall

/-- 16 GiB above a watermark of a page, the EWMA one byte higher, and no sample for two weeks. -/
def idlePair : SamplePair where
  previousEwma := 17179869185
  headroom := 17179869184
  demoteWmark := 4096
  gapNs := 1209600000000000

theorem idle_pair_traps :
    ¬ ∀ pair : SamplePair, pair.Predicts divq := by
  intro h
  have hfalling : idlePair.Falling := by
    unfold SamplePair.Falling
    decide
  have hlarge : ¬ idlePair.quotient < 2 ^ 64 := by decide
  exact hlarge ((h idlePair).representable hfalling)

end Parp.PredictionTime
