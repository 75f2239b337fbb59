import Mathlib.Data.List.FinRange
import Mathlib.Data.List.Infix
import Parp.EffectiveTierOrder
import Parp.IntervalSearch

set_option autoImplicit false

/-!
# The effective-tier reference

`tools/parp/effective_tier/reference.py` beside the classification of
`newkernel_0812/source/overlay/mm/parp/core/effective_tier.c`, which clamps the effective tier to the
last native one.
-/
namespace Parp.EffectiveTierReference

open FolioState EffectiveTier EffectiveTierOrder BinnedScores IntervalSearch

def maxFeatures : ℕ := 6
def maxBins : ℕ := 10
def maxTier : ℤ := 3
def tierScale : ℤ := 256
def missingValue : ℤ := -2 ^ 63
def s16Min : ℤ := -2 ^ 15
def s16Max : ℤ := 2 ^ 15 - 1
def s64Max : ℤ := 2 ^ 63 - 1
def u64Max : ℤ := 2 ^ 64 - 1

structure QuantModel where
  modelName : String
  modelVersion : ℤ
  featureSchemaVersion : ℤ
  featureNames : List String
  bias : ℤ
  coldThreshold : ℤ
  hotThreshold1 : ℤ
  hotThreshold2 : ℤ
  hotThreshold3 : ℤ
  maxUpgradeTiers : ℤ
  maxDowngradeTiers : ℤ
  binEdges : List (List ℤ)
  weights : List (List ℤ)
  deriving DecidableEq

inductive ScoreReason
  | native | modelInvalid | modelVersion | featureSchema | featureCount | missingFeature
  | scoreOverflow | score | noModel
  deriving DecidableEq

structure ScoreResult where
  valid : Bool
  score : ℤ := 0
  modelName : String := "NATIVE"
  reason : ScoreReason := .native
  deriving DecidableEq

structure TierDecision where
  reuseScore : ℤ
  deltaTierQ8 : ℤ
  effectiveTierQ8 : ℤ
  nativeTier : ℤ
  nativeTierIdx : ℤ
  nativeProtect : Bool
  effectiveProtect : Bool
  specialNativeProtect : Bool
  modelValid : Bool
  action : ParpTierAction
  reason : ScoreReason
  folioNrPages : ℤ
  deriving DecidableEq

/-- The texts of the `ModelError` of a model. -/
inductive ModelError
  | modelName | version | featureCount | metadataShape | duplicateName | frontierFeature | rowShape
  | binCount | edgeOrder | edgeRange | weightRange | scalarRange | thresholdOrder | maxUpgrade
  | maxDowngrade | scoreRange
  deriving DecidableEq

def checkRow (edges weights : List ℤ) : Except ModelError Unit :=
  if weights.length ≠ edges.length + 1 then .error .rowShape
  else if weights.length < 1 ∨ maxBins < weights.length then .error .binCount
  else if (edges.zip edges.tail).any fun pair => pair.1 ≥ pair.2 then .error .edgeOrder
  else if edges.any fun value => value < missingValue ∨ value > s64Max then .error .edgeRange
  else if weights.any fun value => value < s16Min ∨ value > s16Max then .error .weightRange
  else .ok ()

/-- The first part of `_validate_model`: names, versions and rows. -/
def checkShape (model : QuantModel) : Except ModelError Unit :=
  if model.modelName ≠ "GLOBAL_REUSE_MODEL" then .error .modelName
  else if model.modelVersion ≤ 0 ∨ model.featureSchemaVersion ≤ 0 then .error .version
  else if model.weights.length < 1 ∨ maxFeatures < model.weights.length then .error .featureCount
  else if model.binEdges.length ≠ model.weights.length ∨
      model.featureNames.length ≠ model.weights.length then .error .metadataShape
  else if model.featureNames.dedup.length ≠ model.featureNames.length then .error .duplicateName
  else if model.featureNames.any fun name =>
      "frontier".toList <:+: name.toList.map Char.toLower then .error .frontierFeature
  else (model.binEdges.zip model.weights).forM fun row => checkRow row.1 row.2

def scalars (model : QuantModel) : List ℤ :=
  [model.bias, model.coldThreshold, model.hotThreshold1, model.hotThreshold2, model.hotThreshold3]

/-- `bias` and the least or the greatest weight of each row. -/
def extremeScore (pick : ℤ → ℤ → ℤ) (model : QuantModel) : ℤ :=
  model.bias + (model.weights.map fun row => row.tail.foldl pick (row.headD 0)).sum

/-- The second part of `_validate_model`: the scalars. -/
def checkScalars (model : QuantModel) : Except ModelError Unit :=
  if (scalars model).any fun value => value < s32Min ∨ value > s32Top then .error .scalarRange
  else if ¬ (model.coldThreshold < model.hotThreshold1 ∧ model.hotThreshold1 < model.hotThreshold2 ∧
      model.hotThreshold2 < model.hotThreshold3) then .error .thresholdOrder
  else if model.maxUpgradeTiers ≠ 1 ∧ model.maxUpgradeTiers ≠ 2 ∧ model.maxUpgradeTiers ≠ 3 then
    .error .maxUpgrade
  else if model.maxDowngradeTiers ≠ 1 then .error .maxDowngrade
  else if extremeScore min model < s32Min ∨ extremeScore max model > s32Top then .error .scoreRange
  else .ok ()

def validateModel (model : QuantModel) : Except ModelError Unit := do
  checkShape model
  checkScalars model

/-- `bin_index`; `none` is its `ModelError`. -/
def binIndex (value : ℤ) (edges : List ℤ) : Option ℕ :=
  if value = missingValue then none else some (bisectLeft edges value)

/-- One turn of the loop of `score_model`. -/
def addWeight (score : ℤ) (row : ℤ × List ℤ × List ℤ) : Option ℤ := do
  let bin ← binIndex row.1 row.2.1
  let weight ← row.2.2[bin]?
  return score + weight

def scoreModel (model : QuantModel) (features : List ℤ)
    (expectedModelVersion expectedSchemaVersion : ℤ) : ScoreResult :=
  match validateModel model with
  | .error _ => { valid := false, modelName := model.modelName, reason := .modelInvalid }
  | .ok () =>
    if model.modelVersion ≠ expectedModelVersion then
      { valid := false, modelName := model.modelName, reason := .modelVersion }
    else if model.featureSchemaVersion ≠ expectedSchemaVersion then
      { valid := false, modelName := model.modelName, reason := .featureSchema }
    else if features.length ≠ model.weights.length then
      { valid := false, modelName := model.modelName, reason := .featureCount }
    else
      match (features.zip (model.binEdges.zip model.weights)).foldlM addWeight model.bias with
      | none => { valid := false, modelName := model.modelName, reason := .missingFeature }
      | some score =>
        if score < s32Min ∨ s32Top < score then
          { valid := false, modelName := model.modelName, reason := .scoreOverflow }
        else
          { valid := true, score := score, modelName := model.modelName, reason := .score }

/-- `score_to_delta_q8`, of a model that is valid. -/
def scoreToDeltaQ8 (score : ℤ) (model : QuantModel) : ℤ :=
  if score ≤ model.coldThreshold then -model.maxDowngradeTiers * tierScale
  else if score ≥ model.hotThreshold3 ∧ model.maxUpgradeTiers = 3 then 3 * tierScale
  else if score ≥ model.hotThreshold2 then min model.maxUpgradeTiers 2 * tierScale
  else if score ≥ model.hotThreshold1 then tierScale
  else 0

/-- `effective_tier_q8`, of a native tier in its range. -/
def effectiveTierQ8 (nativeTier deltaTierQ8 : ℤ) : ℤ :=
  min (max (nativeTier * tierScale + deltaTierQ8) 0) (maxTier * tierScale)

/-- The `ValueError` of `decide_effective_tier`. -/
inductive ValueError
  | nativeTier | tierIdx | folioNrPages
  deriving DecidableEq

def tierAction (specialNativeProtect nativeProtect effectiveProtect : Bool) : ParpTierAction :=
  if specialNativeProtect then .specialNativeProtect
  else if nativeProtect = false ∧ effectiveProtect then .predictiveUpgrade
  else if nativeProtect ∧ effectiveProtect = false then .predictiveDowngrade
  else if nativeProtect then .keepProtect
  else .keepReclaim

/-- `decide_effective_tier`, with the versions it takes by default. -/
def decideEffectiveTier (model : Option QuantModel) (features : List ℤ) (nativeTier tierIdx : ℤ)
    (specialNativeProtect : Bool) (folioNrPages : ℤ) : Except ValueError TierDecision :=
  if nativeTier < 0 ∨ maxTier < nativeTier then .error .nativeTier
  else if tierIdx < 0 ∨ maxTier < tierIdx then .error .tierIdx
  else if folioNrPages < 1 ∨ u64Max < folioNrPages then .error .folioNrPages
  else
    let result : ScoreResult :=
      match model with
      | none => { valid := false, reason := .noModel }
      | some model => scoreModel model features 1 1
    let delta :=
      match model with
      | none => 0
      | some model => if result.valid then scoreToDeltaQ8 result.score model else 0
    let effectiveQ8 := effectiveTierQ8 nativeTier delta
    let nativeProtect := decide (nativeTier > tierIdx)
    let effectiveProtect := decide (effectiveQ8 > tierIdx * tierScale)
    .ok {
      reuseScore := result.score
      deltaTierQ8 := delta
      effectiveTierQ8 := effectiveQ8
      nativeTier := nativeTier
      nativeTierIdx := tierIdx
      nativeProtect := nativeProtect
      effectiveProtect := effectiveProtect
      specialNativeProtect := specialNativeProtect
      modelValid := result.valid
      action := tierAction specialNativeProtect nativeProtect effectiveProtect
      reason := result.reason
      folioNrPages := folioNrPages }

/-- `default_model.json` with the thresholds of a policy. -/
def shippedModel (policy : ParpTierPolicy) : QuantModel where
  modelName := "GLOBAL_REUSE_MODEL"
  modelVersion := 1
  featureSchemaVersion := 1
  featureNames := ["time_since_last_real_access_ms", "previous_real_access_interval_ms",
    "reuse_interval_ema_ms", "consecutive_reclaim_candidate_count",
    "time_in_current_generation_ms", "access_ema_q8"]
  bias := 0
  coldThreshold := policy.coldThreshold
  hotThreshold1 := policy.hotThreshold1
  hotThreshold2 := policy.hotThreshold2
  hotThreshold3 := policy.hotThreshold3
  maxUpgradeTiers := policy.maxUpgradeTiers
  maxDowngradeTiers := policy.maxDowngradeTiers
  binEdges := [[10, 100, 500, 2000, 10000], [10, 100, 500, 2000, 10000],
    [10, 100, 500, 2000, 10000], [0, 1, 2, 4, 8], [10, 100, 500, 2000, 10000],
    [8, 32, 96, 160, 224]]
  weights := [[64, 48, 24, 0, -32, -64], [32, 24, 12, 0, -12, -24], [32, 24, 12, 0, -12, -24],
    [24, 12, 0, -12, -24, -36], [16, 12, 8, 0, -8, -16], [-24, -12, 0, 12, 24, 36]]

/-- `parp_effective_tier_q8`. -/
def parpEffectiveTierQ8 (nativeTier deltaTierQ8 : ℤ) : ℤ :=
  if nativeTier < 0 ∨ nativeTier > parpMaxTier then 0
  else clampInt (nativeTier * parpTierScale + deltaTierQ8) 0 (parpMaxTier * parpTierScale)

def parpEffectiveTierClassify (score : ℤ) (modelValid : Bool) (nativeTier tierIdx : ℤ)
    (specialNativeProtect : Bool) (policy : Option ParpTierPolicy) : ParpTierDecision :=
  let usable := policy.filter fun policy => modelValid && parpTierPolicyValid policy
  let delta := usable.elim 0 (parpScoreToDeltaQ8 score)
  let nativeTier := clampInt nativeTier 0 parpMaxTier
  let tierIdx := clampInt tierIdx 0 parpMaxTier
  let effectiveTierQ8 := parpEffectiveTierQ8 nativeTier delta
  let nativeProtect := decide (nativeTier > tierIdx)
  let effectiveProtect := decide (effectiveTierQ8 > tierIdx * parpTierScale)
  { evaluated := true
    modelValid := usable.isSome
    reuseScore := usable.elim 0 fun _ => score
    rankScoreBin := usable.elim .invalid (rankScoreBin score)
    nativeTier := nativeTier
    nativeTierIdx := tierIdx
    specialNativeProtect := specialNativeProtect
    rawDeltaTierQ8 := delta
    deltaTierQ8 := delta
    effectiveTierQ8 := effectiveTierQ8
    nativeProtect := nativeProtect
    effectiveProtect := effectiveProtect
    coldThreshold := usable.elim 0 ParpTierPolicy.coldThreshold
    hotThreshold1 := usable.elim 0 ParpTierPolicy.hotThreshold1
    hotThreshold2 := usable.elim 0 ParpTierPolicy.hotThreshold2
    hotThreshold3 := usable.elim 0 ParpTierPolicy.hotThreshold3
    action := classifyAction specialNativeProtect nativeProtect effectiveProtect
    bypass := if usable.isSome then .none else .modelInvalid }

/-- The score, then the classification; `unwritten` is what the score holds when the scorer returns
`false`. -/
def parpDecision (policy : ParpTierPolicy) (values : Fin parpTierFeatures → ℤ) (unwritten : ℤ)
    (nativeTier tierIdx : ℤ) (specialNativeProtect : Bool) : ParpTierDecision :=
  parpEffectiveTierClassify ((parpEffectiveTierScoreValues values).getD unwritten)
    (parpEffectiveTierScoreValues values).isSome nativeTier tierIdx specialNativeProtect
    (some policy)

/-- The thresholds are in order and fit an `s32`; one to three tiers up, one down. -/
structure PolicyInRange (policy : ParpTierPolicy) : Prop where
  low : s32Min ≤ policy.coldThreshold
  coldBelow : policy.coldThreshold < policy.hotThreshold1
  hot1Below : policy.hotThreshold1 < policy.hotThreshold2
  hot2Below : policy.hotThreshold2 < policy.hotThreshold3
  high : policy.hotThreshold3 ≤ s32Top
  upgradeLow : 1 ≤ policy.maxUpgradeTiers
  upgradeHigh : policy.maxUpgradeTiers ≤ 3
  downgrade : policy.maxDowngradeTiers = 1

structure DecisionsAgree (reference : TierDecision) (kernel : ParpTierDecision) : Prop where
  modelValid : reference.modelValid = kernel.modelValid
  score : reference.reuseScore = kernel.reuseScore
  deltaQ8 : reference.deltaTierQ8 = kernel.deltaTierQ8
  effectiveQ8 : reference.effectiveTierQ8 = kernel.effectiveTierQ8
  nativeProtect : reference.nativeProtect = kernel.nativeProtect
  effectiveProtect : reference.effectiveProtect = kernel.effectiveProtect
  action : reference.action = kernel.action

section

variable {policy : ParpTierPolicy}

theorem PolicyInRange.valid (h : PolicyInRange policy) : parpTierPolicyValid policy = true :=
  decide_eq_true ⟨h.upgradeLow, h.upgradeHigh, h.downgrade, h.coldBelow, h.hot1Below, h.hot2Below⟩

theorem checkShape_shipped (policy : ParpTierPolicy) : checkShape (shippedModel policy) = .ok () := by
  have hpolicy : checkShape (shippedModel policy) = checkShape (shippedModel parpTierConfig.policy) :=
    rfl
  have hshipped : checkShape (shippedModel parpTierConfig.policy) = .ok () := by decide +kernel
  rw [hpolicy, hshipped]

theorem checkScalars_shipped (h : PolicyInRange policy) :
    checkScalars (shippedModel policy) = .ok () := by
  have hlow := h.low
  have hhigh := h.high
  have hcold := h.coldBelow
  have hhot1 := h.hot1Below
  have hhot2 := h.hot2Below
  have hup := h.upgradeLow
  have hup' := h.upgradeHigh
  have hscalars : ¬ (scalars (shippedModel policy)).any
      (fun value => value < s32Min ∨ value > s32Top) := by
    have hbias : s32Min ≤ 0 ∧ 0 ≤ s32Top := by decide
    simp only [scalars, shippedModel, List.any_cons, List.any_nil, Bool.or_eq_true,
      decide_eq_true_eq, Bool.or_false]
    omega
  have horder : (shippedModel policy).coldThreshold < (shippedModel policy).hotThreshold1 ∧
      (shippedModel policy).hotThreshold1 < (shippedModel policy).hotThreshold2 ∧
        (shippedModel policy).hotThreshold2 < (shippedModel policy).hotThreshold3 :=
    ⟨hcold, hhot1, hhot2⟩
  have hupgrade : ¬ ((policy.maxUpgradeTiers : ℤ) ≠ 1 ∧ (policy.maxUpgradeTiers : ℤ) ≠ 2 ∧
      (policy.maxUpgradeTiers : ℤ) ≠ 3) := by omega
  have hdowngrade : ¬ (policy.maxDowngradeTiers : ℤ) ≠ 1 := by
    rw [h.downgrade]
    decide
  have hscores : ¬ (extremeScore min (shippedModel policy) < s32Min ∨
      extremeScore max (shippedModel policy) > s32Top) := by
    change ¬ (extremeScore min (shippedModel parpTierConfig.policy) < s32Min ∨
      extremeScore max (shippedModel parpTierConfig.policy) > s32Top)
    decide
  unfold checkScalars
  rw [if_neg hscalars, if_neg (not_not.2 horder)]
  exact (if_neg hupgrade).trans ((if_neg hdowngrade).trans (if_neg hscores))

theorem validateModel_shipped (h : PolicyInRange policy) :
    validateModel (shippedModel policy) = .ok () := by
  unfold validateModel
  rw [checkShape_shipped, checkScalars_shipped h]
  rfl

variable (values : Fin parpTierFeatures → ℤ)

theorem rows_shipped (policy : ParpTierPolicy) :
    (List.ofFn values).zip ((shippedModel policy).binEdges.zip (shippedModel policy).weights) =
      (List.finRange parpTierFeatures).map fun feature =>
        (values feature, parpGlobalModel.binEdges feature, parpGlobalModel.weights feature) := by
  have hedges : (shippedModel policy).binEdges =
      (List.finRange parpTierFeatures).map parpGlobalModel.binEdges := rfl
  have hweights : (shippedModel policy).weights =
      (List.finRange parpTierFeatures).map parpGlobalModel.weights := rfl
  rw [List.ofFn_eq_map, hedges, hweights, List.zip_map', List.zip_map']

theorem model_ordered : ∀ feature : Fin parpTierFeatures,
    (parpGlobalModel.binEdges feature).Pairwise (· ≤ ·) := by
  decide

theorem addWeight_eq (sum : ℤ) (feature : Fin parpTierFeatures) :
    addWeight sum (values feature, parpGlobalModel.binEdges feature,
      parpGlobalModel.weights feature) = scoreStep values sum feature := by
  change ((binIndex (values feature) (parpGlobalModel.binEdges feature)).bind fun bin =>
    ((parpGlobalModel.weights feature)[bin]?).bind fun weight => some (sum + weight)) = _
  unfold binIndex scoreStep
  by_cases hmissing : values feature = s64Min
  · have hmissing' : values feature = missingValue := hmissing
    rw [if_pos hmissing, if_pos hmissing']
    rfl
  · have hpresent : values feature ≠ missingValue := hmissing
    have hbin : bisectLeft (parpGlobalModel.binEdges feature) (values feature) =
        bin (parpGlobalModel.binEdges feature) (values feature) :=
      bisectLeft_eq (model_ordered feature) _
    have hinside : bin (parpGlobalModel.binEdges feature) (values feature) <
        (parpGlobalModel.weights feature).length :=
      Nat.lt_of_le_of_lt (bin_le _ _) (model_lengths feature)
    rw [if_neg hmissing, if_neg hpresent, Option.bind_some, hbin,
      List.getElem?_eq_getElem hinside, Option.bind_some]
    unfold weight
    rw [List.getD_eq_getElem?_getD, List.getElem?_eq_getElem hinside, Option.getD_some]

theorem scoreModel_shipped (h : PolicyInRange policy) :
    (scoreModel (shippedModel policy) (List.ofFn values) 1 1).valid =
        (parpEffectiveTierScoreValues values).isSome ∧
      (scoreModel (shippedModel policy) (List.ofFn values) 1 1).score =
        (parpEffectiveTierScoreValues values).getD 0 := by
  have hversion : (shippedModel policy).modelVersion = 1 := rfl
  have hschema : (shippedModel policy).featureSchemaVersion = 1 := rfl
  have hlength : (List.ofFn values).length = (shippedModel policy).weights.length :=
    List.length_ofFn
  have hbounds := modelTotal_bounds values (List.finRange parpTierFeatures)
  have hsix : ((parpTierFeatures : ℕ) : ℤ) = 6 := rfl
  rw [List.length_finRange, hsix] at hbounds
  have hloop : ((List.finRange parpTierFeatures).map fun feature =>
      (values feature, parpGlobalModel.binEdges feature,
        parpGlobalModel.weights feature)).foldlM addWeight (shippedModel policy).bias =
      if ∃ feature, values feature = s64Min then none
      else some (modelTotal values (List.finRange parpTierFeatures)) := by
    rw [List.foldlM_map]
    simp only [addWeight_eq]
    have hsteps := foldlM_scoreStep values (List.finRange parpTierFeatures) parpGlobalModel.bias
    simp only [List.mem_finRange, true_and] at hsteps
    exact hsteps
  unfold scoreModel
  rw [validateModel_shipped h]
  dsimp only
  rw [if_neg (not_not.2 hversion), if_neg (not_not.2 hschema), if_neg (not_not.2 hlength),
    rows_shipped, hloop, parpEffectiveTierScoreValues_eq]
  by_cases hmissing : ∃ feature, values feature = s64Min
  · rw [if_pos hmissing]
    exact ⟨rfl, rfl⟩
  · rw [if_neg hmissing]
    dsimp only
    rw [if_neg (by unfold s32Min s32Top; omega)]
    exact ⟨rfl, rfl⟩

theorem scoreToDeltaQ8_eq (h : PolicyInRange policy) (score : ℤ) :
    scoreToDeltaQ8 score (shippedModel policy) = parpScoreToDeltaQ8 score policy := by
  have hdowngrade : -((policy.maxDowngradeTiers : ℤ)) * tierScale = -parpTierScale := by
    rw [h.downgrade]
    rfl
  have hthree : (policy.maxUpgradeTiers : ℤ) = 3 ↔ policy.maxUpgradeTiers = 3 := by omega
  unfold scoreToDeltaQ8 parpScoreToDeltaQ8
  rw [h.valid, if_neg Bool.true_eq_false.mp]
  have htwo : min (policy.maxUpgradeTiers : ℤ) 2 = (min policy.maxUpgradeTiers 2 : ℕ) := by omega
  change (if score ≤ policy.coldThreshold then -((policy.maxDowngradeTiers : ℤ)) * tierScale
    else if score ≥ policy.hotThreshold3 ∧ (policy.maxUpgradeTiers : ℤ) = 3 then _
    else if _ then min (policy.maxUpgradeTiers : ℤ) 2 * tierScale else _) = _
  rw [hdowngrade, htwo]
  simp only [hthree]
  rfl

theorem effectiveTierQ8_eq {nativeTier : ℤ} (hlow : 0 ≤ nativeTier) (hhigh : nativeTier ≤ 3)
    (delta : ℤ) : effectiveTierQ8 nativeTier delta = parpEffectiveTierQ8 nativeTier delta := by
  have htop : (parpMaxTier : ℤ) = 3 := rfl
  unfold effectiveTierQ8 parpEffectiveTierQ8 clampInt
  rw [if_neg (by omega), htop]
  unfold tierScale maxTier parpTierScale
  split_ifs <;> omega

theorem clampInt_of_mem {value : ℤ} (h : 0 ≤ value ∧ value ≤ 3) :
    clampInt value 0 parpMaxTier = value := by
  have htop : (parpMaxTier : ℤ) = 3 := rfl
  unfold clampInt
  rw [htop]
  split_ifs <;> omega

def referenceDelta (policy : ParpTierPolicy) (score : Option ℤ) : ℤ :=
  score.elim 0 fun score => scoreToDeltaQ8 score (shippedModel policy)

theorem decideEffectiveTier_shipped (h : PolicyInRange policy) {nativeTier tierIdx : ℤ}
    (hnative : 0 ≤ nativeTier ∧ nativeTier ≤ 3) (hidx : 0 ≤ tierIdx ∧ tierIdx ≤ 3)
    (specialNativeProtect : Bool) :
    ∃ reason, decideEffectiveTier (some (shippedModel policy)) (List.ofFn values) nativeTier tierIdx
        specialNativeProtect 1 = .ok {
      reuseScore := (parpEffectiveTierScoreValues values).getD 0
      deltaTierQ8 := referenceDelta policy (parpEffectiveTierScoreValues values)
      effectiveTierQ8 := effectiveTierQ8 nativeTier
        (referenceDelta policy (parpEffectiveTierScoreValues values))
      nativeTier := nativeTier
      nativeTierIdx := tierIdx
      nativeProtect := decide (nativeTier > tierIdx)
      effectiveProtect := decide (effectiveTierQ8 nativeTier
        (referenceDelta policy (parpEffectiveTierScoreValues values)) > tierIdx * tierScale)
      specialNativeProtect := specialNativeProtect
      modelValid := (parpEffectiveTierScoreValues values).isSome
      action := tierAction specialNativeProtect (decide (nativeTier > tierIdx))
        (decide (effectiveTierQ8 nativeTier
          (referenceDelta policy (parpEffectiveTierScoreValues values)) > tierIdx * tierScale))
      reason := reason
      folioNrPages := 1 } := by
  obtain ⟨hvalid, hscore⟩ := scoreModel_shipped values h
  have hdelta : (if (scoreModel (shippedModel policy) (List.ofFn values) 1 1).valid then
      scoreToDeltaQ8 (scoreModel (shippedModel policy) (List.ofFn values) 1 1).score
        (shippedModel policy)
      else 0) = referenceDelta policy (parpEffectiveTierScoreValues values) := by
    rw [hvalid, hscore]
    cases parpEffectiveTierScoreValues values <;> rfl
  refine ⟨(scoreModel (shippedModel policy) (List.ofFn values) 1 1).reason, ?_⟩
  unfold decideEffectiveTier
  rw [if_neg (by unfold maxTier; omega), if_neg (by unfold maxTier; omega), if_neg (by decide)]
  dsimp only
  rw [hdelta, hvalid, hscore]

/-- `decide_effective_tier` and the kernel's scorer and classifier come to one decision. -/
theorem effective_tier_reference_agrees (h : PolicyInRange policy) {nativeTier tierIdx : ℤ}
    (hnative : 0 ≤ nativeTier ∧ nativeTier ≤ 3) (hidx : 0 ≤ tierIdx ∧ tierIdx ≤ 3)
    (specialNativeProtect : Bool) (unwritten : ℤ) :
    ∃ decision, decideEffectiveTier (some (shippedModel policy)) (List.ofFn values) nativeTier
        tierIdx specialNativeProtect 1 = .ok decision ∧
      DecisionsAgree decision
        (parpDecision policy values unwritten nativeTier tierIdx specialNativeProtect) := by
  obtain ⟨reason, hdecision⟩ :=
    decideEffectiveTier_shipped values h hnative hidx specialNativeProtect
  refine ⟨_, hdecision, ?_⟩
  have hdelta : ∀ score, referenceDelta policy (some score) = parpScoreToDeltaQ8 score policy :=
    scoreToDeltaQ8_eq h
  have heffective := effectiveTierQ8_eq hnative.1 hnative.2
  unfold parpDecision parpEffectiveTierClassify
  rw [clampInt_of_mem hnative, clampInt_of_mem hidx]
  cases parpEffectiveTierScoreValues values with
  | none =>
    have hunusable : (some policy).filter
        (fun policy => (none : Option ℤ).isSome && parpTierPolicyValid policy) = none := rfl
    simp only [hunusable, heffective]
    constructor <;> rfl
  | some score =>
    have husable : (some policy).filter
        (fun policy => (some score).isSome && parpTierPolicyValid policy) = some policy := by
      rw [Option.filter_some, Option.isSome_some, Bool.true_and, if_pos h.valid]
    simp only [husable, heffective, hdelta]
    constructor <;> rfl

theorem effective_tier_reference_agrees_shipped :
    ∃ decision, decideEffectiveTier (some (shippedModel parpTierConfig.policy))
        (List.ofFn ![50, 200, 300, 1, 700, 128]) 1 0 false 1 = .ok decision ∧
      DecisionsAgree decision
        (parpDecision parpTierConfig.policy ![50, 200, 300, 1, 700, 128] 7 1 0 false) :=
  effective_tier_reference_agrees ![50, 200, 300, 1, 700, 128]
    ⟨by decide, by decide, by decide, by decide, by decide, by decide, by decide, rfl⟩
    ⟨by decide, by decide⟩ ⟨by decide, by decide⟩ false 7

end

end Parp.EffectiveTierReference
