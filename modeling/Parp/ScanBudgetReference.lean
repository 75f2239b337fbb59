import Parp.ScanBudgetLaws

set_option autoImplicit false

/-!
# The scan-budget reference

`compute_scan_budget` of `tools/parp/scan_budget_reference.py`, over Python's integers, and that the
kernel's budget is the same, bit by bit.
-/
namespace Parp.ScanBudgetReference

open EffectiveTier ScanBudgetInput ScanBudget

def q15One : ℤ := 32767
def q15Scale : ℤ := 32768
def u64Top : ℤ := 2 ^ 64 - 1

def foregroundMultiplier : ℤ := 16384
def highMultiplier : ℤ := 19661
def mediumMultiplier : ℤ := 26214
def lowMultiplier : ℤ := 39321
def minimumMultiplier : ℤ := 16384
def maximumMultiplier : ℤ := 49152
def highThreshold : ℤ := 24576
def mediumThreshold : ℤ := 12288

/-- The dictionary `compute_scan_budget` returns. -/
structure Budget where
  valid : Bool
  native : ℤ
  proposed : ℤ
  applied : ℤ
  multiplier : ℤ
  reason : ParpScanBudgetReason
  clampMin : Bool
  clampMax : Bool
  deriving DecidableEq

/-- The arguments, with their defaults; each string of the source is the kernel's value of that
name. -/
structure Arguments where
  native : ℤ
  score : ℤ
  foreground : Bool
  pressure : ParpPressureLevel
  mode : ParpScanBudgetMode
  scope : ParpReclaimScope := .targetMemcg
  bindValid : Bool := true
  priorValid : Bool := true
  generationValid : Bool := true
  modelCompatible : Bool := true
  circuitOk : Bool := true
  minimumUnits : ℤ := 1
  maximumExtraUnits : ℤ := 4096
  deriving DecidableEq

/-- `_native`. -/
def nativeBudget (native : ℤ) (reason : ParpScanBudgetReason) : Budget where
  valid := false
  native := native
  proposed := native
  applied := native
  multiplier := q15Scale
  reason := reason
  clampMin := false
  clampMax := false

/-- `_scaled`. -/
def scaled (native multiplier : ℤ) : ℤ :=
  min ((native * multiplier + q15Scale / 2) / 2 ^ 15) u64Top

def refusal (a : Arguments) : Option ParpScanBudgetReason :=
  if a.mode = .disabled then some .disabled
  else if a.scope ≠ .targetMemcg ∧ a.scope ≠ .proactiveMemcg then some .notTargetMemcg
  else
    ([(a.circuitOk, ParpScanBudgetReason.circuitBreaker), (a.bindValid, .staleBind),
      (a.priorValid, .expiredPrior), (a.generationValid, .staleGeneration),
      (a.modelCompatible, .modelVersion)].find? fun check => !check.1).map Prod.snd

def classMultiplier (foreground : Bool) (score : ℤ) : ℤ × ParpScanBudgetReason :=
  if foreground then (foregroundMultiplier, .foreground)
  else if score ≥ highThreshold then (highMultiplier, .highPrior)
  else if score ≥ mediumThreshold then (mediumMultiplier, .mediumPrior)
  else (lowMultiplier, .lowPrior)

def pressed (multiplier : ℤ) : ParpPressureLevel → ℤ
  | .medium => (multiplier + q15Scale + 1) / 2
  | .high => max multiplier (3 * q15Scale / 4)
  | .low | .critical => multiplier

/-- The tail of `compute_scan_budget`, once the multiplier and the reason are found. -/
def decidedBudget (a : Arguments) (native multiplier : ℤ) (reason : ParpScanBudgetReason) :
    Budget :=
  let clampMin := decide (scaled native multiplier < a.minimumUnits)
  let raised := if clampMin then min native a.minimumUnits else scaled native multiplier
  let maxUnits := min (native + a.maximumExtraUnits) u64Top
  let clampMax := decide (raised > maxUnits)
  let proposed := if clampMax then maxUnits else raised
  { valid := true
    native := native
    proposed := proposed
    applied := if a.mode = .apply then proposed else native
    multiplier := multiplier
    reason := reason
    clampMin := clampMin
    clampMax := clampMax }

def computeScanBudget (a : Arguments) : Budget :=
  let native := min (max a.native 0) u64Top
  let score := min (max a.score 0) q15One
  match refusal a with
  | some reason => nativeBudget native reason
  | none =>
    if native = 0 then { nativeBudget 0 .native with valid := true }
    else if a.pressure = .critical then nativeBudget native .pressureBypass
    else
      let (multiplier, reason) := classMultiplier a.foreground score
      let multiplier := min (max multiplier minimumMultiplier) maximumMultiplier
      decidedBudget a native (pressed multiplier a.pressure) reason

def shippedConfig (mode : ParpScanBudgetMode) (applyDomain minimumUnits maximumExtraUnits : UInt64) :
    Config where
  params := { minimumScanUnits := minimumUnits, maximumExtraScanUnits := maximumExtraUnits }
  scanBudgetMode := mode
  scanBudgetApplyDomain := applyDomain

def argumentsOf (mode : ParpScanBudgetMode) (minimumUnits maximumExtraUnits : UInt64)
    (input : ParpScanBudgetInput) : Arguments where
  native := input.nativeNrToScan.toNat
  score := input.appUseScoreQ15.toNat
  foreground := input.foreground
  pressure := input.pressure
  mode := mode
  scope := input.reclaimScope
  bindValid := hasFlag input parpScanInputBindValid && decide (input.nowNs < input.bindExpiryNs)
  priorValid :=
    hasFlag input parpScanInputPriorValid && decide (input.nowNs < input.predictionExpiryNs)
  generationValid := hasFlag input parpScanInputGenerationValid
  modelCompatible := hasFlag input parpScanInputModelCompatible
  circuitOk := hasFlag input parpScanInputCircuitOk
  minimumUnits := minimumUnits.toNat
  maximumExtraUnits := maximumExtraUnits.toNat

def reported (decision : ParpScanBudgetDecision) : Budget where
  valid := decision.valid
  native := decision.nativeNrToScan.toNat
  proposed := decision.proposedNrToScan.toNat
  applied := decision.appliedNrToScan.toNat
  multiplier := decision.multiplierQ15.toNat
  reason := decision.reason
  clampMin := decision.reasonFlags &&& clampMinFlag ≠ 0
  clampMax := decision.reasonFlags &&& clampMaxFlag ≠ 0

/-- `parp_scale_scan_units` over another `mul_u64_u32_div`. -/
def scaleScanUnitsBy (mulDiv : UInt64 → UInt32 → UInt32 → UInt64) (native : UInt64)
    (multiplier : UInt32) : UInt64 :=
  if multiplier > parpQ15Scale ∧ native > mulDiv u64Max parpQ15Scale multiplier then u64Max
  else
    let scaled := mulDiv native multiplier parpQ15Scale
    let remainder := ((native &&& (parpQ15Scale - 1).toUInt64) * multiplier.toUInt64) &&&
      (parpQ15Scale - 1).toUInt64
    let scaled :=
      if remainder ≥ (parpQ15Scale / 2).toUInt64 ∧ scaled ≠ u64Max then scaled + 1 else scaled
    if multiplier > parpQ15Scale ∧ scaled < native then u64Max else scaled

def ExactWhenFits (mulDiv : UInt64 → UInt32 → UInt32 → UInt64) : Prop :=
  ∀ a mul div, div ≠ 0 → a.toNat * mul.toNat / div.toNat < 2 ^ 64 →
    (mulDiv a mul div).toNat = a.toNat * mul.toNat / div.toNat

theorem mulU64U32Div_exact : ExactWhenFits mulU64U32Div := by
  intro a mul div _ hfits
  rw [mulU64U32Div_toNat, Nat.mod_eq_of_lt hfits]

theorem ExactWhenFits.unique {f g : UInt64 → UInt32 → UInt32 → UInt64} (hf : ExactWhenFits f)
    (hg : ExactWhenFits g) {a : UInt64} {mul div : UInt32} (hdiv : div ≠ 0)
    (hfits : a.toNat * mul.toNat / div.toNat < 2 ^ 64) : f a mul div = g a mul div :=
  UInt64.toNat_inj.1 ((hf a mul div hdiv hfits).trans (hg a mul div hdiv hfits).symm)

theorem fits_of_le {product : ℕ} (h : product ≤ topProduct) : product / 32768 < 2 ^ 64 := by
  unfold topProduct at h
  omega

theorem scaleScanUnitsBy_eq {mulDiv : UInt64 → UInt32 → UInt32 → UInt64}
    (hexact : ExactWhenFits mulDiv) (native : UInt64) (multiplier : UInt32) :
    scaleScanUnitsBy mulDiv native multiplier = parpScaleScanUnits native multiplier := by
  have hscale : parpQ15Scale ≠ 0 := by decide
  have hmodel := mulU64U32Div_exact
  by_cases hlarge : parpQ15Scale < multiplier
  · have hmultiplier : 32768 < multiplier.toNat := UInt32.lt_iff_toNat_lt.1 hlarge
    have hlimit : mulDiv u64Max parpQ15Scale multiplier =
        mulU64U32Div u64Max parpQ15Scale multiplier := by
      apply hexact.unique hmodel
      · intro hzero
        rw [hzero] at hmultiplier
        exact absurd hmultiplier (by decide)
      · rw [Nat.div_lt_iff_lt_mul (by omega)]
        change (2 ^ 64 - 1) * 32768 < _
        omega
    unfold scaleScanUnitsBy parpScaleScanUnits
    rw [hlimit]
    by_cases hsaturates : mulU64U32Div u64Max parpQ15Scale multiplier < native
    · rw [if_pos ⟨hlarge, hsaturates⟩, if_pos ⟨hlarge, hsaturates⟩]
    · have hfits := fits_of_le ((product_le_iff hlarge).2 hsaturates)
      rw [hexact.unique hmodel hscale hfits]
  · have hfits := fits_of_le (@product_le multiplier native hlarge)
    unfold scaleScanUnitsBy parpScaleScanUnits
    simp only [gt_iff_lt, hlarge, false_and, if_false]
    rw [hexact.unique hmodel hscale hfits]

theorem scaled_cast (native multiplier : ℕ) :
    scaled native multiplier = (scaledUnits native multiplier : ℕ) := by
  unfold scaled scaledUnits
  change min (((native : ℤ) * multiplier + 16384) / 32768) (2 ^ 64 - 1) = _
  push_cast
  omega

section

variable (mode : ParpScanBudgetMode) (applyDomain minimumUnits maximumExtraUnits : UInt64)
  (input : ParpScanBudgetInput)

theorem fresh_eq_false (flag : Bool) (now expiry : UInt64) :
    (flag && decide (now < expiry)) = false ↔ flag = false ∨ now ≥ expiry := by
  cases flag <;> simp

theorem refusal_argumentsOf (hbind : hasFlag input parpScanInputBindPresent = true)
    (hprior : hasFlag input parpScanInputPriorPresent = true) :
    refusal (argumentsOf mode minimumUnits maximumExtraUnits input) =
      if parpValidateScanInput
          (shippedConfig mode applyDomain minimumUnits maximumExtraUnits) input = .native then none
      else some (parpValidateScanInput
        (shippedConfig mode applyDomain minimumUnits maximumExtraUnits) input) := by
  have hconfig : parpScanConfigValid
      (shippedConfig mode applyDomain minimumUnits maximumExtraUnits).params = true := rfl
  unfold refusal parpValidateScanInput
  rw [hconfig, hbind, hprior]
  change (if mode = _ then _ else if input.reclaimScope ≠ _ ∧ input.reclaimScope ≠ _ then _ else
    _) = if (if mode = _ then _ else _) = _ then _ else some (if mode = _ then _ else _)
  by_cases hmode : mode = .disabled
  · simp only [hmode, if_true, reduceCtorEq, if_false]
  by_cases hscope : input.reclaimScope ≠ .targetMemcg ∧ input.reclaimScope ≠ .proactiveMemcg
  · simp only [hmode, if_false, if_pos hscope, reduceCtorEq]
  simp only [hmode, if_false, if_neg hscope]
  unfold argumentsOf
  cases hcircuit : hasFlag input parpScanInputCircuitOk
  · simp
  cases hbound : hasFlag input parpScanInputBindValid && decide (input.nowNs < input.bindExpiryNs)
  · simp [(fresh_eq_false _ _ _).1 hbound]
  have hfresh := mt (fresh_eq_false _ _ _).2 (ne_false_of_eq_true hbound)
  cases hpredicted : hasFlag input parpScanInputPriorValid &&
      decide (input.nowNs < input.predictionExpiryNs)
  · simp [hfresh, (fresh_eq_false _ _ _).1 hpredicted]
  have hvalid := mt (fresh_eq_false _ _ _).2 (ne_false_of_eq_true hpredicted)
  cases hgeneration : hasFlag input parpScanInputGenerationValid
  · simp [hfresh, hvalid]
  cases hmodel : hasFlag input parpScanInputModelCompatible
  · simp [hfresh, hvalid]
  simp [hfresh, hvalid]

theorem threshold_iff (score : UInt16) (threshold : ℕ) (h : threshold ≤ 32767) :
    min (max (score.toNat : ℤ) 0) q15One ≥ threshold ↔
      score.toUInt32 ≥ UInt32.ofNat threshold := by
  have hword : (UInt32.ofNat threshold).toNat = threshold := by
    rw [UInt32.toNat_ofNat']
    omega
  rw [ge_iff_le, ge_iff_le, UInt32.le_iff_toNat_le, hword, UInt16.toNat_toUInt32]
  unfold q15One
  omega

def classMultipliers : List UInt32 := [16384, 19661, 26214, 39321]

theorem pressed_reference (pressure : ParpPressureLevel) : ∀ multiplier ∈ classMultipliers,
    ((underPressure (clampU32 multiplier 16384 49152) pressure).toNat : ℤ) =
      pressed (min (max (multiplier.toNat : ℤ) minimumMultiplier) maximumMultiplier) pressure := by
  -- one class at a time: the words are too many for a decision over all of them
  intro multiplier hmem
  simp only [classMultipliers, List.mem_cons, List.not_mem_nil, or_false] at hmem
  rcases hmem with rfl | rfl | rfl | rfl <;> cases pressure <;> decide

theorem classOf_reference (foreground : Bool) (score : UInt16) :
    (classOf (shippedConfig mode applyDomain minimumUnits maximumExtraUnits).params foreground
        score).1 ∈ classMultipliers ∧
      classMultiplier foreground (min (max (score.toNat : ℤ) 0) q15One) =
        (((classOf (shippedConfig mode applyDomain minimumUnits maximumExtraUnits).params foreground
          score).1.toNat : ℤ),
        (classOf (shippedConfig mode applyDomain minimumUnits maximumExtraUnits).params foreground
          score).2) := by
  have hhigh : _ ≥ highThreshold ↔ _ ≥ (24576 : UInt32) :=
    threshold_iff score 24576 (by decide)
  have hmedium : _ ≥ mediumThreshold ↔ _ ≥ (12288 : UInt32) :=
    threshold_iff score 12288 (by decide)
  unfold classOf classMultiplier shippedConfig
  simp only [hhigh, hmedium]
  split_ifs <;> exact ⟨by decide, rfl⟩

theorem reported_native (reason : ParpScanBudgetReason) :
    reported (parpNativeDecision input reason) =
      nativeBudget input.nativeNrToScan.toNat reason := by
  have hflags : (0 &&& clampMinFlag ≠ 0) = False ∧ (0 &&& clampMaxFlag ≠ 0) = False := by decide
  simp only [reported, parpNativeDecision, nativeBudget, hflags, decide_false]
  rfl

theorem clamp_flags (low high foreign : Prop) [Decidable low] [Decidable high]
    [Decidable foreign] :
    (((if low then clampMinFlag else 0) ||| (if high then clampMaxFlag else 0) |||
        (if foreign then applyDomainFlag else 0)) &&& clampMinFlag ≠ 0 ↔ low) ∧
      (((if low then clampMinFlag else 0) ||| (if high then clampMaxFlag else 0) |||
        (if foreign then applyDomainFlag else 0)) &&& clampMaxFlag ≠ 0 ↔ high) := by
  by_cases hlow : low <;> by_cases hhigh : high <;> by_cases hforeign : foreign <;>
    simp only [hlow, hhigh, hforeign, if_true, if_false] <;> decide

section

variable (params : Params) (native scaled : UInt64)

theorem raise_cast :
    ((raise params native scaled).toNat : ℤ) =
      if (scaled.toNat : ℤ) < params.minimumScanUnits.toNat then
        min (native.toNat : ℤ) params.minimumScanUnits.toNat
      else scaled.toNat := by
  rw [raise_toNat]
  split_ifs <;> omega

theorem maxUnits_cast :
    ((maxUnits params native).toNat : ℤ) =
      min ((native.toNat : ℤ) + params.maximumExtraScanUnits.toNat) u64Top := by
  rw [maxUnits_toNat]
  unfold u64Top
  omega

theorem lower_cast :
    ((lower params native scaled).toNat : ℤ) =
      if (scaled.toNat : ℤ) > (maxUnits params native).toNat then
        ((maxUnits params native).toNat : ℤ)
      else scaled.toNat := by
  rw [lower_toNat]
  split_ifs <;> omega

end

theorem reported_decided (config : Config) (a : Arguments)
    (hdomain : input.domainId = config.scanBudgetApplyDomain)
    (hmode : a.mode = config.scanBudgetMode)
    (hminimum : a.minimumUnits = config.params.minimumScanUnits.toNat)
    (hextra : a.maximumExtraUnits = config.params.maximumExtraScanUnits.toNat)
    (multiplier : UInt32) (reason : ParpScanBudgetReason) :
    reported
        { valid := true
          nativeNrToScan := input.nativeNrToScan
          proposedNrToScan := proposedUnits config.params input.nativeNrToScan multiplier
          appliedNrToScan :=
            if config.scanBudgetMode = .apply ∧ input.domainId = config.scanBudgetApplyDomain then
              proposedUnits config.params input.nativeNrToScan multiplier
            else input.nativeNrToScan
          multiplierQ15 := multiplier
          confidenceQ15 := parpQ15One
          reason := reason
          reasonFlags :=
            (if parpScaleScanUnits input.nativeNrToScan multiplier <
                config.params.minimumScanUnits then clampMinFlag else 0) |||
            (if raise config.params input.nativeNrToScan
                (parpScaleScanUnits input.nativeNrToScan multiplier) >
                maxUnits config.params input.nativeNrToScan then clampMaxFlag else 0) |||
            (if config.scanBudgetMode = .apply ∧ input.domainId ≠ config.scanBudgetApplyDomain then
              applyDomainFlag
            else 0) } =
      decidedBudget a input.nativeNrToScan.toNat multiplier.toNat reason := by
  have hscaled : scaled input.nativeNrToScan.toNat multiplier.toNat =
      (parpScaleScanUnits input.nativeNrToScan multiplier).toNat := by
    rw [scaled_cast, parpScaleScanUnits_toNat]
  unfold decidedBudget proposedUnits
  simp only [decide_eq_true_eq, hmode, hminimum, hextra, hscaled]
  rw [← raise_cast, ← maxUnits_cast, ← lower_cast]
  generalize hraised : raise _ _ _ = raised
  unfold reported
  rw [Budget.mk.injEq]
  refine ⟨rfl, rfl, rfl, ?_, rfl, rfl, ?_, ?_⟩
  · by_cases happly : config.scanBudgetMode = .apply
    · rw [if_pos ⟨happly, hdomain⟩, if_pos happly]
    · rw [if_neg fun h => happly h.1, if_neg happly]
  · rw [decide_eq_decide]
    refine (clamp_flags _ _ _).1.trans ?_
    rw [UInt64.lt_iff_toNat_lt, Int.ofNat_lt]
  · rw [decide_eq_decide]
    refine (clamp_flags _ _ _).2.trans ?_
    rw [gt_iff_lt, gt_iff_lt, UInt64.lt_iff_toNat_lt, Int.ofNat_lt]

/-- `compute_scan_budget` and `parp_compute_scan_budget` give the same budget; any exact
`mul_u64_u32_div` scales as the kernel's model does. -/
theorem scan_budget_reference_agrees
    (hbind : hasFlag input parpScanInputBindPresent = true)
    (hprior : hasFlag input parpScanInputPriorPresent = true)
    (hdomain : input.domainId = applyDomain) :
    (∀ mulDiv, ExactWhenFits mulDiv → ∀ native multiplier,
      scaleScanUnitsBy mulDiv native multiplier = parpScaleScanUnits native multiplier) ∧
    reported (parpComputeScanBudget
        (shippedConfig mode applyDomain minimumUnits maximumExtraUnits) input) =
      computeScanBudget (argumentsOf mode minimumUnits maximumExtraUnits input) := by
  refine ⟨fun mulDiv hexact => scaleScanUnitsBy_eq hexact, ?_⟩
  have hnative : min (max (argumentsOf mode minimumUnits maximumExtraUnits input).native 0) u64Top =
      input.nativeNrToScan.toNat := by
    have hlt := input.nativeNrToScan.toNat_lt
    change min (max (input.nativeNrToScan.toNat : ℤ) 0) (2 ^ 64 - 1) = _
    omega
  have hzero : (input.nativeNrToScan.toNat : ℤ) = 0 ↔ input.nativeNrToScan = 0 := by
    rw [Int.natCast_eq_zero, ← UInt64.toNat_inj]
    rfl
  obtain ⟨hmem, hclass⟩ := classOf_reference mode applyDomain minimumUnits maximumExtraUnits
    input.foreground input.appUseScoreQ15
  have hmultiplier := pressed_reference input.pressure _ hmem
  change classMultiplier (argumentsOf mode minimumUnits maximumExtraUnits input).foreground
    (min (max (argumentsOf mode minimumUnits maximumExtraUnits input).score 0) q15One) = _ at hclass
  change _ = pressed _ (argumentsOf mode minimumUnits maximumExtraUnits input).pressure
    at hmultiplier
  unfold computeScanBudget parpComputeScanBudget
  rw [refusal_argumentsOf mode applyDomain minimumUnits maximumExtraUnits input hbind hprior]
  simp only [hnative, hclass, hzero, ← hmultiplier]
  by_cases hrefused : parpValidateScanInput
      (shippedConfig mode applyDomain minimumUnits maximumExtraUnits) input = .native
  swap
  · simp only [hrefused, ne_eq, not_false_eq_true, if_true, if_false]
    exact reported_native input _
  simp only [hrefused, ne_eq, not_true_eq_false, if_true, if_false]
  by_cases hempty : input.nativeNrToScan = 0
  · simp only [hempty, if_true]
    change { reported (parpNativeDecision input .native) with valid := true } = _
    rw [reported_native, hempty]
    rfl
  simp only [hempty, if_false]
  change _ = if input.pressure = .critical then _ else _
  by_cases hpressure : input.pressure = .critical
  · simp only [hpressure, if_true]
    exact reported_native input _
  simp only [hpressure, if_false]
  exact reported_decided input (shippedConfig mode applyDomain minimumUnits maximumExtraUnits)
    (argumentsOf mode minimumUnits maximumExtraUnits input) hdomain rfl rfl rfl _ _

/-- A kernel input that passes every check: a foreground application at the top of the range. -/
def topInput : ParpScanBudgetInput where
  domainId := 7
  reclaimScope := .targetMemcg
  nativeNrToScan := u64Max
  appUseScoreQ15 := 100
  bindExpiryNs := 1
  predictionExpiryNs := 1
  flags := 127

theorem scan_budget_reference_agrees_at_top :
    reported (parpComputeScanBudget (shippedConfig .apply 7 1 4096) topInput) =
      computeScanBudget (argumentsOf .apply 1 4096 topInput) :=
  (scan_budget_reference_agrees .apply 7 1 4096 topInput (by decide) (by decide) rfl).2

end

end Parp.ScanBudgetReference
