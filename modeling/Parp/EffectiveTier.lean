import Parp.BinnedScores
import Parp.FolioState

set_option autoImplicit false

/-!
# Effective tier

The scorer, the policy and the classification of `mm/parp/core/effective_tier.c`. Signed machine
integers are `ℤ` with their conversions written out. Statistics, traces and the durations they
record are left out.
-/
namespace Parp.EffectiveTier

open FolioState BinnedScores

def parpTierSchemaVersion : ℕ := 1
def parpTierModelVersion : ℕ := 1
def parpTierScale : ℤ := 256
def parpTierMaxVirtualUpgrade : ℤ := 3
def parpTierPressurePolicyVersion : ℕ := 1
def parpSeverePressurePriority : ℤ := 2
def parpNoProgressLimit : ℕ := 3
def s32Min : ℤ := -2 ^ 31
def s32Top : ℤ := 2 ^ 31 - 1

inductive ParpEffectiveTierMode
  | off | shadow | protectOnly | bidirectional | randomMatched | recencyBaseline
  deriving DecidableEq

inductive ParpTierAction
  | keepReclaim | predictiveUpgrade | keepProtect | predictiveDowngrade | specialNativeProtect
  deriving DecidableEq

inductive ParpTierBypassReason
  | none | disabled | modelInvalid | metadataMissing | stateUnstable | notBoundary | strongNative
  | upgradeBudget | downgradeBudget | repeatUpgrade | repeatDowngrade | pressure | noProgress
  | generationRace | randomUnselected
  deriving DecidableEq

inductive ParpRankScoreBin
  | cold | neutral | hot1 | hot2 | hot3 | invalid
  deriving DecidableEq

inductive ParpTierScorerKind
  | pairwiseLinear | recencyBaseline | randomBaseline
  deriving DecidableEq

inductive ParpTierReclaimContext
  | unknown | kswapd | direct | memcg | proactiveMemcg
  deriving DecidableEq

inductive ParpPressureLevel
  | low | medium | high | critical
  deriving DecidableEq

structure ParpTierPolicy where
  coldThreshold : ℤ
  hotThreshold1 : ℤ
  hotThreshold2 : ℤ
  hotThreshold3 : ℤ
  maxUpgradeTiers : ℕ
  maxDowngradeTiers : ℕ := 1
  requireTwoCold : Bool
  deriving DecidableEq

/-- `struct parp_tier_runtime_config` without the ids that only traces read. -/
structure ParpTierRuntimeConfig where
  sequence : UInt32 := 0
  policy : ParpTierPolicy
  upgradeBatchPages : UInt64
  upgradeEpochPages : UInt64
  downgradeBatchPages : UInt64
  downgradeEpochPages : UInt64
  upgradeRatioPermyriad : UInt32
  downgradeRatioPermyriad : UInt32
  deriving DecidableEq

def ParpTierRuntimeConfig.batchPages (config : ParpTierRuntimeConfig) : Bool → UInt64
  | true => config.upgradeBatchPages
  | false => config.downgradeBatchPages

def ParpTierRuntimeConfig.epochPages (config : ParpTierRuntimeConfig) : Bool → UInt64
  | true => config.upgradeEpochPages
  | false => config.downgradeEpochPages

def ParpTierRuntimeConfig.ratio (config : ParpTierRuntimeConfig) : Bool → UInt32
  | true => config.upgradeRatioPermyriad
  | false => config.downgradeRatioPermyriad

/-- `parp_tier_config` as the kernel starts with it. -/
def parpTierConfig : ParpTierRuntimeConfig where
  policy :=
    { coldThreshold := -48, hotThreshold1 := 48, hotThreshold2 := 96, hotThreshold3 := 144
      maxUpgradeTiers := 2, requireTwoCold := true }
  upgradeBatchPages := 2
  upgradeEpochPages := 8
  downgradeBatchPages := 1
  downgradeEpochPages := 4
  upgradeRatioPermyriad := 100
  downgradeRatioPermyriad := 50

structure ParpGlobalReuseModel where
  modelVersion : ℕ
  featureSchemaVersion : ℕ
  bias : ℤ
  binEdges : Fin parpTierFeatures → List ℤ
  weights : Fin parpTierFeatures → List ℤ

def parpGlobalModel : ParpGlobalReuseModel where
  modelVersion := parpTierModelVersion
  featureSchemaVersion := parpTierSchemaVersion
  bias := 0
  binEdges := ![
    [10, 100, 500, 2000, 10000],
    [10, 100, 500, 2000, 10000],
    [10, 100, 500, 2000, 10000],
    [0, 1, 2, 4, 8],
    [10, 100, 500, 2000, 10000],
    [8, 32, 96, 160, 224]]
  weights := ![
    [64, 48, 24, 0, -32, -64],
    [32, 24, 12, 0, -12, -24],
    [32, 24, 12, 0, -12, -24],
    [24, 12, 0, -12, -24, -36],
    [16, 12, 8, 0, -8, -16],
    [-24, -12, 0, 12, 24, 36]]

/-- The sum over the features; `none` at the first missing one. -/
def scoreTotal (values : Fin parpTierFeatures → ℤ) : Option ℤ :=
  (List.finRange parpTierFeatures).foldlM (fun total feature =>
    if values feature = s64Min then none
    else
      let bin := bin (parpGlobalModel.binEdges feature) (values feature)
      some (total + (parpGlobalModel.weights feature).getD bin 0)) parpGlobalModel.bias

/-- The score, when the function returns `true`. -/
def parpEffectiveTierScoreValues (values : Fin parpTierFeatures → ℤ) : Option ℤ :=
  if parpGlobalModel.modelVersion ≠ parpTierModelVersion ∨
      parpGlobalModel.featureSchemaVersion ≠ parpTierSchemaVersion then none
  else
    match scoreTotal values with
    | some total => if total < s32Min ∨ total > s32Top then none else some total
    | none => none

def parpTierPolicyValid (policy : ParpTierPolicy) : Bool :=
  1 ≤ policy.maxUpgradeTiers ∧ policy.maxUpgradeTiers ≤ 3 ∧ policy.maxDowngradeTiers = 1 ∧
    policy.coldThreshold < policy.hotThreshold1 ∧ policy.hotThreshold1 < policy.hotThreshold2 ∧
    policy.hotThreshold2 < policy.hotThreshold3

/-- The kernel's `clamp`: the upper bound wins when the bounds cross. -/
def clampInt (value lo hi : ℤ) : ℤ :=
  if value ≥ hi then hi else if value ≤ lo then lo else value

/-- The 32 low bits of a `u64` as an `s32`. -/
def toS32 (value : ℕ) : ℤ := Int.bmod value (2 ^ 32)

/-- `div_u64((u64)app_prior_q15 * policy->hot_threshold_2, PARP_Q15_ONE)`: the threshold is
sign-extended to 64 bits before it is multiplied. -/
def priorProduct (appPriorQ15 : UInt16) (hotThreshold2 : ℤ) : ℤ :=
  toS32 (appPriorQ15.toNat * (hotThreshold2 % 2 ^ 64).toNat % 2 ^ 64 / parpQ15One)

def parpEffectiveTierAppPriorBias (appPriorQ15 appRank : UInt16) (foreground : Bool)
    (policy : ParpTierPolicy) : ℤ :=
  if parpTierPolicyValid policy = false ∨ appPriorQ15.toNat > parpQ15One ∨ appRank = 0 then 0
  else
    let bias := priorProduct appPriorQ15 policy.hotThreshold2
    if foreground ∨ appRank.toNat ≤ 2 then
      clampInt (max bias policy.hotThreshold2) 0 policy.hotThreshold2
    else if appRank.toNat ≤ 4 then
      clampInt (max bias policy.hotThreshold1) 0 policy.hotThreshold2
    else if appRank.toNat ≥ 8 then policy.coldThreshold
    else clampInt bias 0 policy.hotThreshold2

def parpEffectiveTierPressureLevel (reclaimPriority : ℤ) (noProgress : Bool)
    (nrToReclaim nrReclaimed : UInt64) : ParpPressureLevel :=
  if noProgress ∨ reclaimPriority ≤ parpSeverePressurePriority then .critical
  else if reclaimPriority ≤ 4 then .high
  else if reclaimPriority ≤ 8 ∨ nrToReclaim > nrReclaimed then .medium
  else .low

def parpTierReclaimContext (isKswapd isMemcgReclaim proactiveReclaim : Bool) :
    ParpTierReclaimContext :=
  if isKswapd then .kswapd
  else if proactiveReclaim then .proactiveMemcg
  else if isMemcgReclaim then .memcg
  else .direct

/-- `up_q8` and `down_q8`. -/
def parpPressurePolicyScales : ParpPressureLevel → ℤ × ℤ
  | .low => (256, 128)
  | .medium => (192, 256)
  | .high => (64, 256)
  | .critical => (0, 0)

def parpEffectiveTierPressureDeltaQ8 (deltaQ8 : ℤ) (level : ParpPressureLevel) : ℤ :=
  let (upQ8, downQ8) := parpPressurePolicyScales level
  (deltaQ8 * if deltaQ8 < 0 then downQ8 else upQ8).tdiv parpTierScale

def parpScoreToDeltaQ8 (score : ℤ) (policy : ParpTierPolicy) : ℤ :=
  if parpTierPolicyValid policy = false then 0
  else if score ≤ policy.coldThreshold then -parpTierScale
  else if score ≥ policy.hotThreshold3 ∧ policy.maxUpgradeTiers = 3 then 3 * parpTierScale
  else if score ≥ policy.hotThreshold2 then (min policy.maxUpgradeTiers 2 : ℕ) * parpTierScale
  else if score ≥ policy.hotThreshold1 then parpTierScale
  else 0

def parpEffectiveTierQ8 (nativeTier deltaTierQ8 : ℤ) : ℤ :=
  if nativeTier < 0 ∨ nativeTier > parpMaxTier then 0
  else
    clampInt (nativeTier * parpTierScale + deltaTierQ8) 0
      ((parpMaxTier + parpTierMaxVirtualUpgrade) * parpTierScale)

/-- `struct parp_tier_decision` without its durations. -/
structure ParpTierDecision where
  features : Fin parpTierFeatures → ℤ := fun _ => 0
  reuseScore : ℤ := 0
  pageReuseScore : ℤ := 0
  appPriorBias : ℤ := 0
  rawDeltaTierQ8 : ℤ := 0
  deltaTierQ8 : ℤ := 0
  fixedDeltaQ8 : ℤ := 0
  binaryBypassDeltaQ8 : ℤ := 0
  pressureAwareDeltaQ8 : ℤ := 0
  effectiveTierQ8 : ℤ := 0
  coldThreshold : ℤ := 0
  hotThreshold1 : ℤ := 0
  hotThreshold2 : ℤ := 0
  hotThreshold3 : ℤ := 0
  folioNrPages : UInt64 := 0
  nativeTier : ℤ := 0
  nativeTierIdx : ℤ := 0
  generationIndex : ℤ := 0
  action : ParpTierAction := .keepReclaim
  bypass : ParpTierBypassReason := .none
  rankScoreBin : ParpRankScoreBin := .cold
  scorerKind : ParpTierScorerKind := .pairwiseLinear
  pressureLevelKernel : ParpPressureLevel := .low
  reclaimContext : ParpTierReclaimContext := .unknown
  pressureBypassReason : ParpTierBypassReason := .none
  pageStateSequence : Fin 2048 := 0
  appPriorQ15 : UInt16 := 0
  appRank : UInt16 := 0
  appId : UInt32 := 0
  predictionGeneration : UInt32 := 0
  pressurePolicyVersion : ℕ := 0
  evaluated : Bool := false
  modelValid : Bool := false
  featuresValid : Bool := false
  nativeProtect : Bool := false
  effectiveProtect : Bool := false
  fixedEffectiveProtect : Bool := false
  pressureAwareEffectiveProtect : Bool := false
  appContextValid : Bool := false
  appPriorChangedProtect : Bool := false
  specialNativeProtect : Bool := false
  actualTierProtect : Bool := false
  reservationActive : Bool := false
  reservationUpgrade : Bool := false

def classifyAction (specialNativeProtect nativeProtect effectiveProtect : Bool) : ParpTierAction :=
  if specialNativeProtect then .specialNativeProtect
  else if nativeProtect = false ∧ effectiveProtect then .predictiveUpgrade
  else if nativeProtect ∧ effectiveProtect = false then .predictiveDowngrade
  else if nativeProtect then .keepProtect
  else .keepReclaim

def rankScoreBin (score : ℤ) (policy : ParpTierPolicy) : ParpRankScoreBin :=
  if score ≤ policy.coldThreshold then .cold
  else if score < policy.hotThreshold1 then .neutral
  else if score < policy.hotThreshold2 then .hot1
  else if score < policy.hotThreshold3 then .hot2
  else .hot3

/-- The policy is `none` for the `NULL` the fault paths pass. -/
def parpEffectiveTierClassify (score : ℤ) (modelValid : Bool) (nativeTier tierIdx : ℤ)
    (specialNativeProtect : Bool) (policy : Option ParpTierPolicy) : ParpTierDecision :=
  let nativeTier := clampInt nativeTier 0 parpMaxTier
  let tierIdx := clampInt tierIdx 0 parpMaxTier
  let nativeProtect : Bool := nativeTier > tierIdx
  match policy.filter fun policy => modelValid && parpTierPolicyValid policy with
  | some policy =>
    let delta := parpScoreToDeltaQ8 score policy
    let effectiveTierQ8 := parpEffectiveTierQ8 nativeTier delta
    let effectiveProtect : Bool := effectiveTierQ8 > tierIdx * parpTierScale
    { evaluated := true
      modelValid := true
      reuseScore := score
      rankScoreBin := rankScoreBin score policy
      nativeTier := nativeTier
      nativeTierIdx := tierIdx
      specialNativeProtect := specialNativeProtect
      rawDeltaTierQ8 := delta
      deltaTierQ8 := delta
      effectiveTierQ8 := effectiveTierQ8
      nativeProtect := nativeProtect
      effectiveProtect := effectiveProtect
      coldThreshold := policy.coldThreshold
      hotThreshold1 := policy.hotThreshold1
      hotThreshold2 := policy.hotThreshold2
      hotThreshold3 := policy.hotThreshold3
      action := classifyAction specialNativeProtect nativeProtect effectiveProtect }
  | none =>
    let effectiveTierQ8 := parpEffectiveTierQ8 nativeTier 0
    let effectiveProtect : Bool := effectiveTierQ8 > tierIdx * parpTierScale
    { evaluated := true
      rankScoreBin := .invalid
      nativeTier := nativeTier
      nativeTierIdx := tierIdx
      specialNativeProtect := specialNativeProtect
      effectiveTierQ8 := effectiveTierQ8
      nativeProtect := nativeProtect
      effectiveProtect := effectiveProtect
      action := classifyAction specialNativeProtect nativeProtect effectiveProtect
      bypass := .modelInvalid }

def parpEffectiveTierActualProtect (mode : ParpEffectiveTierMode) (decision : ParpTierDecision) :
    Bool :=
  if decision.specialNativeProtect then true
  else
    match mode with
    | .protectOnly =>
      decision.nativeProtect || (!decision.nativeProtect && decision.effectiveProtect)
    | .bidirectional | .randomMatched | .recencyBaseline => decision.effectiveProtect
    | .off | .shadow => decision.nativeProtect

def parpEffectiveTierBudgetAllows (used candidates pages absoluteLimit : UInt64)
    (ratioPermyriad : UInt32) : Bool :=
  if pages = 0 ∨ absoluteLimit = 0 ∨ ratioPermyriad = 0 ∨ ratioPermyriad > 10000 ∨
      used > 0xffffffffffffffff - pages ∨ used + pages > absoluteLimit then false
  else
    let ratioLimit := UInt64.ofNat (candidates.toNat * ratioPermyriad.toNat / 10000)
    let ratioLimit := if candidates ≠ 0 ∧ ratioLimit = 0 then 1 else ratioLimit
    used + pages ≤ ratioLimit

def parpEffectiveTierUpgradeGate (severePressure noProgress : Bool) :
    Option ParpTierBypassReason :=
  if severePressure then some .pressure
  else if noProgress then some .noProgress
  else none

def parpDecisionNativeFallback (decision : ParpTierDecision) (bypass : ParpTierBypassReason) :
    ParpTierDecision :=
  { decision with
    deltaTierQ8 := 0
    effectiveTierQ8 := decision.nativeTier * parpTierScale
    effectiveProtect := decision.nativeProtect
    bypass := bypass
    action :=
      if decision.specialNativeProtect then .specialNativeProtect
      else if decision.nativeProtect then .keepProtect
      else .keepReclaim }

def parpEffectiveTierRecencyScore (accessAgeMs : UInt32) (policy : ParpTierPolicy) : ℤ :=
  if accessAgeMs ≤ 100 then policy.hotThreshold2
  else if accessAgeMs ≤ 500 then policy.hotThreshold1
  else if accessAgeMs ≥ 10000 then policy.coldThreshold
  else 0

/-- `bucket` is the keyed hash of the folio and the batch, modulo 10000. -/
def parpRandomScore (config : ParpTierRuntimeConfig) (bucket : UInt32) (nativeTier tierIdx : ℤ) :
    ℤ :=
  if nativeTier = tierIdx + 1 ∧ bucket < config.downgradeRatioPermyriad then
    config.policy.coldThreshold
  else if nativeTier ≤ tierIdx ∧ bucket < config.upgradeRatioPermyriad then
    config.policy.hotThreshold2
  else 0

def parpEffectiveTierActionApplies (mode : ParpEffectiveTierMode) (action : ParpTierAction) :
    Bool :=
  match action, mode with
  | .predictiveUpgrade, .protectOnly => true
  | .predictiveUpgrade, .bidirectional => true
  | .predictiveUpgrade, .randomMatched => true
  | .predictiveUpgrade, .recencyBaseline => true
  | .predictiveDowngrade, .bidirectional => true
  | .predictiveDowngrade, .randomMatched => true
  | .predictiveDowngrade, .recencyBaseline => true
  | _, _ => false

end Parp.EffectiveTier
