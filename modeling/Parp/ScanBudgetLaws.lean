import Mathlib.Data.Nat.Bitwise
import Parp.ScanBudget

set_option autoImplicit false

namespace Parp.ScanBudget

open EffectiveTier ScanBudgetInput TransitionRuns

def scaledUnits (native multiplier : ℕ) : ℕ :=
  min (2 ^ 64 - 1) ((native * multiplier + 16384) / 32768)

theorem mulU64U32Div_toNat (a : UInt64) (mul div : UInt32) :
    (mulU64U32Div a mul div).toNat = a.toNat * mul.toNat / div.toNat % 2 ^ 64 := by
  unfold mulU64U32Div
  rw [UInt64.toNat_ofNat']

theorem remainder_toNat (native : UInt64) (multiplier : UInt32) :
    (((native &&& (parpQ15Scale - 1).toUInt64) * multiplier.toUInt64) &&&
      (parpQ15Scale - 1).toUInt64).toNat = native.toNat * multiplier.toNat % 32768 := by
  have hmask : (parpQ15Scale - 1).toUInt64.toNat = 2 ^ 15 - 1 := by decide
  have hmultiplier : multiplier.toNat < 2 ^ 32 := multiplier.toNat_lt
  have hlow : native.toNat % 2 ^ 15 < 2 ^ 15 := Nat.mod_lt _ (by decide)
  have hsmall : native.toNat % 2 ^ 15 * multiplier.toNat < 2 ^ 64 :=
    calc native.toNat % 2 ^ 15 * multiplier.toNat
        ≤ 2 ^ 15 * 2 ^ 32 := Nat.mul_le_mul hlow.le hmultiplier.le
      _ < 2 ^ 64 := by decide
  rw [UInt64.toNat_and, UInt64.toNat_mul, UInt64.toNat_and, hmask, Nat.and_two_pow_sub_one_eq_mod,
    Nat.and_two_pow_sub_one_eq_mod, UInt32.toNat_toUInt64, Nat.mod_eq_of_lt hsmall, Nat.mod_mul_mod]
  rfl

theorem round_half_up (product : ℕ) :
    (product + 16384) / 32768 =
      if 16384 ≤ product % 32768 then product / 32768 + 1 else product / 32768 := by
  split_ifs <;> omega

def topProduct : ℕ := (2 ^ 64 - 1) * 32768

variable {multiplier : UInt32} {native : UInt64}

theorem limit_toNat (h : parpQ15Scale < multiplier) :
    (mulU64U32Div u64Max parpQ15Scale multiplier).toNat = topProduct / multiplier.toNat := by
  have hscale : 32768 < multiplier.toNat := UInt32.lt_iff_toNat_lt.1 h
  have hquotient : topProduct / multiplier.toNat < 2 ^ 64 := by
    rw [Nat.div_lt_iff_lt_mul (by omega)]
    unfold topProduct
    omega
  rw [mulU64U32Div_toNat]
  exact Nat.mod_eq_of_lt hquotient

theorem product_le_iff (h : parpQ15Scale < multiplier) :
    native.toNat * multiplier.toNat ≤ topProduct ↔
      ¬ mulU64U32Div u64Max parpQ15Scale multiplier < native := by
  have hscale : 32768 < multiplier.toNat := UInt32.lt_iff_toNat_lt.1 h
  rw [UInt64.lt_iff_toNat_lt, limit_toNat h, not_lt, Nat.le_div_iff_mul_le (by omega)]

theorem product_le (h : ¬ parpQ15Scale < multiplier) :
    native.toNat * multiplier.toNat ≤ topProduct := by
  have hscale : multiplier.toNat ≤ 32768 := UInt32.le_iff_toNat_le.1 (UInt32.not_lt.1 h)
  have hnative : native.toNat ≤ 2 ^ 64 - 1 := Nat.le_sub_one_of_lt native.toNat_lt
  exact Nat.mul_le_mul hnative hscale

theorem rounded_toNat {remainder : UInt64} (hfits : native.toNat * multiplier.toNat ≤ topProduct)
    (hremainder : remainder.toNat = native.toNat * multiplier.toNat % 32768) :
    (if remainder ≥ (parpQ15Scale / 2).toUInt64 ∧
        mulU64U32Div native multiplier parpQ15Scale ≠ u64Max then
      mulU64U32Div native multiplier parpQ15Scale + 1
    else mulU64U32Div native multiplier parpQ15Scale).toNat =
      scaledUnits native.toNat multiplier.toNat := by
  have hhalf : (parpQ15Scale / 2).toUInt64.toNat = 16384 := by decide
  have hquotient : (mulU64U32Div native multiplier parpQ15Scale).toNat =
      native.toNat * multiplier.toNat / 32768 := by
    rw [mulU64U32Div_toNat]
    change _ / 32768 % _ = _
    unfold topProduct at hfits
    omega
  have htop : mulU64U32Div native multiplier parpQ15Scale = u64Max ↔
      native.toNat * multiplier.toNat / 32768 = 2 ^ 64 - 1 := by
    rw [← UInt64.toNat_inj, hquotient]
    rfl
  unfold scaledUnits
  rw [round_half_up]
  simp only [ge_iff_le, UInt64.le_iff_toNat_le, hhalf, hremainder, ne_eq, htop]
  unfold topProduct at hfits
  generalize native.toNat * multiplier.toNat = product at *
  split_ifs with hround hup hup
  · rw [UInt64.toNat_add, hquotient]
    change (_ + 1) % _ = _
    omega
  · omega
  · omega
  · omega

theorem parpScaleScanUnits_toNat (native : UInt64) (multiplier : UInt32) :
    (parpScaleScanUnits native multiplier).toNat = scaledUnits native.toNat multiplier.toNat := by
  have hremainder := remainder_toNat native multiplier
  unfold parpScaleScanUnits
  generalize ((native &&& (parpQ15Scale - 1).toUInt64) * multiplier.toUInt64) &&&
    (parpQ15Scale - 1).toUInt64 = remainder at hremainder
  dsimp only
  by_cases hlarge : parpQ15Scale < multiplier
  · by_cases hsaturates : mulU64U32Div u64Max parpQ15Scale multiplier < native
    · rw [if_pos ⟨hlarge, hsaturates⟩]
      have hproduct : topProduct < native.toNat * multiplier.toNat :=
        not_le.1 fun hle => (product_le_iff hlarge).1 hle hsaturates
      change 2 ^ 64 - 1 = scaledUnits _ _
      unfold scaledUnits
      unfold topProduct at hproduct
      omega
    · rw [if_neg fun h => hsaturates h.2]
      have hround := rounded_toNat ((product_le_iff hlarge).2 hsaturates) hremainder
      -- the units are not fewer than the native ones
      rw [if_neg]
      · exact hround
      · rintro ⟨-, hfewer⟩
        rw [UInt64.lt_iff_toNat_lt, hround] at hfewer
        have hscale : 32768 < multiplier.toNat := UInt32.lt_iff_toNat_lt.1 hlarge
        have hmore : native.toNat * 32768 ≤ native.toNat * multiplier.toNat :=
          Nat.mul_le_mul_left _ hscale.le
        have hnative := native.toNat_lt
        unfold scaledUnits at hfewer
        omega
  · rw [if_neg fun h => hlarge h.1, if_neg fun h => hlarge h.1]
    exact rounded_toNat (product_le hlarge) hremainder

theorem scaledUnits_mono (native : ℕ) {multiplier multiplier' : ℕ} (h : multiplier ≤ multiplier') :
    scaledUnits native multiplier ≤ scaledUnits native multiplier' := by
  have hproduct : native * multiplier ≤ native * multiplier' := Nat.mul_le_mul_left _ h
  unfold scaledUnits
  omega

section

variable {config : Config} {input : ParpScanBudgetInput} {params : Params}

/-- The scan budget decides itself: no gate fails, there is something to scan, and the pressure is
not an emergency. -/
def Decides (config : Config) (input : ParpScanBudgetInput) : Prop :=
  parpValidateScanInput config input = .native ∧ input.nativeNrToScan ≠ 0 ∧
    input.pressure ≠ .critical

/-- The units of a decision: the scaled ones, raised to the floor and lowered to the ceiling. -/
def proposedUnits (params : Params) (native : UInt64) (multiplier : UInt32) : UInt64 :=
  lower params native (raise params native (parpScaleScanUnits native multiplier))

inductive Outcome (config : Config) (input : ParpScanBudgetInput) :
    ParpScanBudgetDecision → Prop
  | native (decision : ParpScanBudgetDecision) (hnot : ¬ Decides config input)
      (hnative : decision.nativeNrToScan = input.nativeNrToScan)
      (hproposed : decision.proposedNrToScan = input.nativeNrToScan)
      (happlied : decision.appliedNrToScan = input.nativeNrToScan) : Outcome config input decision
  | decided (decision : ParpScanBudgetDecision) (hdecides : Decides config input)
      (hnative : decision.nativeNrToScan = input.nativeNrToScan)
      (hproposed : decision.proposedNrToScan =
        proposedUnits config.params input.nativeNrToScan (multiplierOf config.params input))
      (happlied : decision.appliedNrToScan =
        if config.scanBudgetMode = .apply ∧ input.domainId = config.scanBudgetApplyDomain then
          decision.proposedNrToScan
        else input.nativeNrToScan) : Outcome config input decision

variable (config input) in
theorem parpComputeScanBudget_outcome :
    Outcome config input (parpComputeScanBudget config input) := by
  unfold parpComputeScanBudget
  by_cases hvalid : parpValidateScanInput config input = .native
  swap
  · exact .native _ (fun h => hvalid h.1) (by simp [hvalid, parpNativeDecision])
      (by simp [hvalid, parpNativeDecision]) (by simp [hvalid, parpNativeDecision])
  by_cases hzero : input.nativeNrToScan = 0
  · exact .native _ (fun h => h.2.1 hzero) (by simp [hvalid, hzero, parpNativeDecision])
      (by simp [hvalid, hzero, parpNativeDecision]) (by simp [hvalid, hzero, parpNativeDecision])
  by_cases hpressure : input.pressure = .critical
  · exact .native _ (fun h => h.2.2 hpressure)
      (by simp [hvalid, hzero, hpressure, parpNativeDecision])
      (by simp [hvalid, hzero, hpressure, parpNativeDecision])
      (by simp [hvalid, hzero, hpressure, parpNativeDecision])
  dsimp only
  rw [if_neg (not_not.2 hvalid), if_neg hzero, if_neg hpressure]
  exact .decided _ ⟨hvalid, hzero, hpressure⟩ rfl rfl rfl

theorem raise_toNat (params : Params) (native proposed : UInt64) :
    (raise params native proposed).toNat =
      if proposed.toNat < params.minimumScanUnits.toNat then
        min native.toNat params.minimumScanUnits.toNat
      else proposed.toNat := by
  unfold raise
  simp only [UInt64.lt_iff_toNat_lt]
  split_ifs <;> omega

theorem maxUnits_toNat (params : Params) (native : UInt64) :
    (maxUnits params native).toNat =
      min (2 ^ 64 - 1) (native.toNat + params.maximumExtraScanUnits.toNat) := by
  unfold maxUnits
  split_ifs with h
  · rw [UInt64.toNat_add]
    omega
  · change 2 ^ 64 - 1 = _
    omega

theorem lower_toNat (params : Params) (native proposed : UInt64) :
    (lower params native proposed).toNat =
      min proposed.toNat (maxUnits params native).toNat := by
  unfold lower
  simp only [gt_iff_lt, UInt64.lt_iff_toNat_lt]
  split_ifs <;> omega

theorem proposedUnits_toNat (params : Params) (native : UInt64) (multiplier : UInt32) :
    (proposedUnits params native multiplier).toNat =
      min (if scaledUnits native.toNat multiplier.toNat < params.minimumScanUnits.toNat then
          min native.toNat params.minimumScanUnits.toNat
        else scaledUnits native.toNat multiplier.toNat)
      (min (2 ^ 64 - 1) (native.toNat + params.maximumExtraScanUnits.toNat)) := by
  unfold proposedUnits
  rw [lower_toNat, raise_toNat, maxUnits_toNat, parpScaleScanUnits_toNat]

theorem proposedUnits_bounds (params : Params) (native : UInt64) (multiplier : UInt32) :
    min native.toNat params.minimumScanUnits.toNat ≤ (proposedUnits params native multiplier).toNat ∧
      (proposedUnits params native multiplier).toNat ≤
        min (2 ^ 64 - 1) (native.toNat + params.maximumExtraScanUnits.toNat) := by
  have hnative := native.toNat_lt
  rw [proposedUnits_toNat]
  split_ifs <;> omega

theorem proposedUnits_eq_zero_iff (params : Params) {native : UInt64} (hnative : native ≠ 0)
    (multiplier : UInt32) :
    proposedUnits params native multiplier = 0 ↔
      params.minimumScanUnits = 0 ∧ native.toNat * multiplier.toNat < 16384 := by
  have hpos : 0 < native.toNat := by
    rw [Nat.pos_iff_ne_zero]
    exact fun h => hnative (UInt64.toNat_inj.1 h)
  rw [← UInt64.toNat_inj, ← UInt64.toNat_inj, proposedUnits_toNat]
  change _ = 0 ↔ _ = 0 ∧ _
  unfold scaledUnits
  split_ifs <;> omega

inductive GateFails (config : Config) (input : ParpScanBudgetInput) : Prop
  | disabled (h : config.scanBudgetMode = .disabled)
  | scope (htarget : input.reclaimScope ≠ .targetMemcg)
      (hproactive : input.reclaimScope ≠ .proactiveMemcg)
  | flag (flag : UInt32) (hflag : flag ∈ [parpScanInputCircuitOk, parpScanInputBindPresent,
      parpScanInputBindValid, parpScanInputPriorPresent, parpScanInputPriorValid,
      parpScanInputGenerationValid, parpScanInputModelCompatible])
      (hmissing : hasFlag input flag = false)
  | bindExpired (h : input.bindExpiryNs ≤ input.nowNs)
  | predictionExpired (h : input.predictionExpiryNs ≤ input.nowNs)
  | config (h : parpScanConfigValid config.params = false)

theorem passes {check : Prop} [Decidable check] {refused rest reason : ParpScanBudgetReason}
    (h : (if check then refused else rest) = reason) (hrefused : refused ≠ reason) :
    ¬ check ∧ rest = reason := by
  by_cases hcheck : check
  · exact absurd ((if_pos hcheck).symm.trans h) hrefused
  · exact ⟨hcheck, (if_neg hcheck).symm.trans h⟩

theorem GateFails.invalid (h : GateFails config input) :
    parpValidateScanInput config input ≠ .native := by
  intro hnative
  obtain ⟨hmode, hrest⟩ := passes hnative nofun
  obtain ⟨hscope, hrest⟩ := passes hrest nofun
  obtain ⟨hcircuit, hrest⟩ := passes hrest nofun
  obtain ⟨hbind, hrest⟩ := passes hrest nofun
  obtain ⟨hbound, hrest⟩ := passes hrest nofun
  obtain ⟨hprior, hrest⟩ := passes hrest nofun
  obtain ⟨hpredicted, hrest⟩ := passes hrest nofun
  obtain ⟨hgeneration, hrest⟩ := passes hrest nofun
  obtain ⟨hmodel, hrest⟩ := passes hrest nofun
  obtain ⟨hconfig, -⟩ := passes hrest nofun
  rw [not_or] at hbound hpredicted
  cases h with
  | disabled h => exact hmode h
  | scope htarget hproactive => exact hscope ⟨htarget, hproactive⟩
  | flag flag hflag hmissing =>
    simp only [List.mem_cons, List.not_mem_nil, or_false] at hflag
    rcases hflag with rfl | rfl | rfl | rfl | rfl | rfl | rfl
    · exact hcircuit hmissing
    · exact hbind hmissing
    · exact hbound.1 hmissing
    · exact hprior hmissing
    · exact hpredicted.1 hmissing
    · exact hgeneration hmissing
    · exact hmodel hmissing
  | bindExpired h => exact hbound.2 h
  | predictionExpired h => exact hpredicted.2 h
  | config h => exact hconfig h

end

def configAfter (events : List ConfigEvent) : Config := after configStep {} events

def Targeted (config : Config) : Prop :=
  config.scanBudgetMode = .apply → config.scanBudgetApplyDomain ≠ 0

theorem configStep_targeted (config : Config) (event : ConfigEvent) (h : Targeted config) :
    Targeted (configStep config event).2 := by
  cases event with
  | mode mode =>
    unfold configStep parpSetScanBudgetMode
    by_cases hrefused : mode = .apply ∧ config.scanBudgetApplyDomain = 0
    · simp only [if_pos hrefused]
      exact h
    · simp only [if_neg hrefused]
      exact fun hmode hzero => hrefused ⟨hmode, hzero⟩
  | applyDomain domainId =>
    unfold configStep parpSetScanBudgetApplyDomain
    by_cases hbusy : config.scanBudgetMode = .apply
    · simp only [if_pos hbusy]
      exact h
    · simp only [if_neg hbusy]
      exact fun hmode => absurd hmode hbusy
  | params params => exact h

theorem configAfter_targeted (events : List ConfigEvent) : Targeted (configAfter events) :=
  after_invariant configStep_targeted (fun h => by cases h) events

/-- The proposed units keep to their bounds, the native units are kept where a gate fails, and only
a configuration without a floor proposes nothing. -/
theorem scan_budget_bounds (events : List ConfigEvent) (input : ParpScanBudgetInput) :
    let config := configAfter events
    let decision := parpComputeScanBudget config input
    let native := input.nativeNrToScan
    min native.toNat config.params.minimumScanUnits.toNat ≤ decision.proposedNrToScan.toNat ∧
    decision.proposedNrToScan.toNat ≤
      min (2 ^ 64 - 1) (native.toNat + config.params.maximumExtraScanUnits.toNat) ∧
    (GateFails config input ∨ input.pressure = .critical →
      decision.proposedNrToScan = native ∧ decision.appliedNrToScan = native) ∧
    (decision.appliedNrToScan ≠ native →
      config.scanBudgetMode = .apply ∧ input.domainId = config.scanBudgetApplyDomain ∧
        input.domainId ≠ 0 ∧ decision.appliedNrToScan = decision.proposedNrToScan) ∧
    (native ≠ 0 → (decision.proposedNrToScan = 0 ↔
      Decides config input ∧ config.params.minimumScanUnits = 0 ∧
        native.toNat * (multiplierOf config.params input).toNat < 16384)) ∧
    (native ≠ 0 → decision.appliedNrToScan = 0 → decision.proposedNrToScan = 0) := by
  intro config decision native
  have hfull := native.toNat_lt
  cases parpComputeScanBudget_outcome config input with
  | native hnot hnative hproposed happlied =>
    refine ⟨?_, ?_, fun _ => ⟨hproposed, happlied⟩, fun h => absurd happlied h, fun hne => ?_,
      fun hne hzero => ?_⟩
    · rw [hproposed]
      exact Nat.min_le_left _ _
    · rw [hproposed]
      change native.toNat ≤ _
      omega
    · exact ⟨fun hzero => absurd (hproposed.symm.trans hzero) hne, fun h => absurd h.1 hnot⟩
    · exact absurd (happlied.symm.trans hzero) hne
  | decided hdecides hnative hproposed happlied =>
    have hbounds := proposedUnits_bounds config.params native (multiplierOf config.params input)
    have hzero := proposedUnits_eq_zero_iff config.params hdecides.2.1
      (multiplierOf config.params input)
    rw [← hproposed] at hbounds hzero
    refine ⟨hbounds.1, hbounds.2, ?_, fun hne => ?_, fun _ => ?_, fun hne hnothing => ?_⟩
    · rintro (hgate | hcritical)
      · exact absurd hdecides.1 hgate.invalid
      · exact absurd hcritical hdecides.2.2
    · by_cases happly : config.scanBudgetMode = .apply ∧
          input.domainId = config.scanBudgetApplyDomain
      · refine ⟨happly.1, happly.2, ?_, happlied.trans (if_pos happly)⟩
        rw [happly.2]
        exact configAfter_targeted events happly.1
      · exact absurd (happlied.trans (if_neg happly)) hne
    · exact ⟨fun h => ⟨hdecides, hzero.1 h⟩, fun h => hzero.2 h.2⟩
    · by_cases happly : config.scanBudgetMode = .apply ∧
          input.domainId = config.scanBudgetApplyDomain
      · exact (happlied.trans (if_pos happly)).symm.trans hnothing
      · exact absurd ((happlied.trans (if_neg happly)).symm.trans hnothing) hne

def starvedEvents : List ConfigEvent :=
  [.params { foregroundMultiplierQ15 := 0, minimumMultiplierQ15 := 0, minimumScanUnits := 0 },
    .applyDomain 37, .mode .apply]

def starvedInput : ParpScanBudgetInput where
  domainId := 37
  reclaimScope := .targetMemcg
  pressure := .low
  nativeNrToScan := 1000
  foreground := true
  appUseScoreQ15 := 30000
  bindExpiryNs := u64Max
  predictionExpiryNs := u64Max
  nowNs := 2
  flags := 127

theorem scan_budget_bounds_starved :
    let config := configAfter starvedEvents
    let decision := parpComputeScanBudget config starvedInput
    decision.proposedNrToScan = 0 ∧ decision.appliedNrToScan = 0 := by
  have hdecides : Decides (configAfter starvedEvents) starvedInput := by
    unfold Decides
    decide +kernel
  have hzero := ((scan_budget_bounds starvedEvents starvedInput).2.2.2.2.1 (by decide)).2
    ⟨hdecides, by decide +kernel, by decide +kernel⟩
  exact ⟨hzero, by decide +kernel⟩

theorem native_reduced_to_zero :
    ¬ ∀ (events : List ConfigEvent) (input : ParpScanBudgetInput), input.nativeNrToScan ≠ 0 →
      (parpComputeScanBudget (configAfter events) input).proposedNrToScan ≠ 0 ∧
        (parpComputeScanBudget (configAfter events) input).appliedNrToScan ≠ 0 := by
  intro h
  have hkept := (h starvedEvents starvedInput (by decide)).1
  exact hkept (by decide +kernel)

section

variable {config : Config} {params : Params}

structure Ordered (params : Params) : Prop where
  foreground : params.foregroundMultiplierQ15 ≤ params.highProbabilityMultiplierQ15
  high : params.highProbabilityMultiplierQ15 ≤ params.mediumProbabilityMultiplierQ15
  medium : params.mediumProbabilityMultiplierQ15 ≤ params.lowProbabilityMultiplierQ15

theorem shipped_ordered : Ordered {} := ⟨by decide, by decide, by decide⟩

theorem clampU32_toNat {lo hi : UInt32} (value : UInt32) (h : lo ≤ hi) :
    (clampU32 value lo hi).toNat = max lo.toNat (min hi.toNat value.toNat) := by
  rw [UInt32.le_iff_toNat_le] at h
  unfold clampU32
  simp only [ge_iff_le, UInt32.le_iff_toNat_le]
  split_ifs <;> omega

theorem underPressure_mono {multiplier multiplier' : UInt32}
    (h : multiplier.toNat ≤ multiplier'.toNat) (hbound : multiplier'.toNat ≤ 65536)
    (pressure : ParpPressureLevel) :
    (underPressure multiplier pressure).toNat ≤ (underPressure multiplier' pressure).toNat := by
  have hscale : parpQ15Scale.toNat = 32768 := rfl
  have hlift : (3 * parpQ15Scale / 4).toNat = 24576 := by decide
  cases pressure with
  | low => exact h
  | critical => exact h
  | medium =>
    have hhalf : ∀ m : UInt32, m.toNat ≤ 65536 →
        ((m + parpQ15Scale + 1) / 2).toNat = (m.toNat + 32769) / 2 := by
      intro m hm
      rw [UInt32.toNat_div, UInt32.toNat_add, UInt32.toNat_add, hscale]
      change ((m.toNat + 32768) % 2 ^ 32 + 1) % 2 ^ 32 / 2 = _
      omega
    change ((multiplier + parpQ15Scale + 1) / 2).toNat ≤ ((multiplier' + parpQ15Scale + 1) / 2).toNat
    rw [hhalf _ (h.trans hbound), hhalf _ hbound]
    omega
  | high =>
    unfold underPressure
    simp only [UInt32.lt_iff_toNat_lt, hlift]
    split_ifs <;> omega

theorem multiplierOf_mono {input input' : ParpScanBudgetInput}
    (hvalid : parpScanConfigValid params = true) (hpressure : input'.pressure = input.pressure)
    (hclass : (classOf params input.foreground input.appUseScoreQ15).1 ≤
      (classOf params input'.foreground input'.appUseScoreQ15).1) :
    (multiplierOf params input).toNat ≤ (multiplierOf params input').toNat := by
  obtain ⟨hrange, hmaximum, -⟩ := of_decide_eq_true hvalid
  have hbound : params.maximumMultiplierQ15.toNat ≤ 65536 := UInt32.le_iff_toNat_le.1 hmaximum
  have hrange' := UInt32.le_iff_toNat_le.1 hrange
  have hclass' := UInt32.le_iff_toNat_le.1 hclass
  unfold multiplierOf
  rw [hpressure]
  refine underPressure_mono ?_ ?_ input.pressure
  · rw [clampU32_toNat _ hrange, clampU32_toNat _ hrange]
    omega
  · rw [clampU32_toNat _ hrange]
    omega

theorem proposedUnits_mono {native : UInt64} {multiplier multiplier' : UInt32}
    (h : multiplier.toNat ≤ multiplier'.toNat) :
    proposedUnits params native multiplier ≤ proposedUnits params native multiplier' := by
  have hscaled := scaledUnits_mono native.toNat h
  rw [UInt64.le_iff_toNat_le, proposedUnits_toNat, proposedUnits_toNat]
  split_ifs <;> omega

theorem proposed_mono {input input' : ParpScanBudgetInput}
    (hgates : parpValidateScanInput config input' = parpValidateScanInput config input)
    (hnative : input'.nativeNrToScan = input.nativeNrToScan)
    (hpressure : input'.pressure = input.pressure)
    (hclass : parpScanConfigValid config.params = true →
      (classOf config.params input.foreground input.appUseScoreQ15).1 ≤
        (classOf config.params input'.foreground input'.appUseScoreQ15).1) :
    (parpComputeScanBudget config input).proposedNrToScan ≤
      (parpComputeScanBudget config input').proposedNrToScan := by
  have hsame : Decides config input' ↔ Decides config input := by
    unfold Decides
    rw [hgates, hnative, hpressure]
  cases parpComputeScanBudget_outcome config input with
  | native hnot _ hproposed _ =>
    cases parpComputeScanBudget_outcome config input' with
    | native _ _ hproposed' _ =>
      rw [hproposed, hproposed']
      exact UInt64.le_of_eq hnative.symm
    | decided hdecides' _ _ _ => exact absurd (hsame.1 hdecides') hnot
  | decided hdecides _ hproposed _ =>
    cases parpComputeScanBudget_outcome config input' with
    | native hnot' _ _ _ => exact absurd (hsame.2 hdecides) hnot'
    | decided _ _ hproposed' _ =>
      have hvalid : parpScanConfigValid config.params = true := by
        rw [← Bool.not_eq_false]
        exact fun h => (GateFails.config h).invalid hdecides.1
      rw [hproposed, hproposed', hnative]
      exact proposedUnits_mono (multiplierOf_mono hvalid hpressure (hclass hvalid))

theorem classOf_score {low high : UInt16} (hordered : Ordered params)
    (hvalid : parpScanConfigValid params = true) (foreground : Bool) (h : low ≤ high) :
    (classOf params foreground high).1 ≤ (classOf params foreground low).1 := by
  obtain ⟨-, -, -, -, -, -, -, hthresholds⟩ := of_decide_eq_true hvalid
  have hhigh := UInt32.le_iff_toNat_le.1 hordered.high
  have hmedium := UInt32.le_iff_toNat_le.1 hordered.medium
  have hscores : low.toUInt32.toNat ≤ high.toUInt32.toNat := UInt16.le_iff_toNat_le.1 h
  rw [UInt32.le_iff_toNat_le] at hthresholds ⊢
  unfold classOf
  simp only [ge_iff_le, UInt32.le_iff_toNat_le]
  split_ifs <;> dsimp only <;> omega

theorem classOf_foreground (hordered : Ordered params) (score score' : UInt16) :
    (classOf params true score).1 ≤ (classOf params false score').1 := by
  have hforeground := UInt32.le_iff_toNat_le.1 hordered.foreground
  have hhigh := UInt32.le_iff_toNat_le.1 hordered.high
  have hmedium := UInt32.le_iff_toNat_le.1 hordered.medium
  rw [UInt32.le_iff_toNat_le]
  unfold classOf
  split_ifs <;> simp_all <;> omega

/-- The likelier an application is used, the less of it is scanned. -/
theorem scan_budget_monotone (config : Config) (hordered : Ordered config.params)
    (input : ParpScanBudgetInput) :
    (∀ low high : UInt16, low ≤ high →
      (parpComputeScanBudget config { input with appUseScoreQ15 := high }).proposedNrToScan ≤
        (parpComputeScanBudget config { input with appUseScoreQ15 := low }).proposedNrToScan) ∧
    (parpComputeScanBudget config { input with foreground := true }).proposedNrToScan ≤
      (parpComputeScanBudget config { input with foreground := false }).proposedNrToScan :=
  ⟨fun _ _ h => proposed_mono rfl rfl rfl fun hvalid => classOf_score hordered hvalid _ h,
    proposed_mono rfl rfl rfl fun _ => classOf_foreground hordered _ _⟩

theorem shipped_monotone :
    (parpComputeScanBudget {} { starvedInput with foreground := true }).proposedNrToScan ≤
      (parpComputeScanBudget {} { starvedInput with foreground := false }).proposedNrToScan ∧
    (parpComputeScanBudget {} { starvedInput with
      foreground := false, appUseScoreQ15 := 30000 }).proposedNrToScan ≤
      (parpComputeScanBudget {} { starvedInput with
        foreground := false, appUseScoreQ15 := 18000 }).proposedNrToScan :=
  ⟨(scan_budget_monotone {} shipped_ordered starvedInput).2,
    (scan_budget_monotone {} shipped_ordered { starvedInput with foreground := false }).1
      18000 30000 (by decide)⟩

end

end Parp.ScanBudget
