import Mathlib.Algebra.Order.BigOperators.Group.List
import Parp.FrontierScoreLaws
import Parp.IntervalSearch
import Parp.RunningSums

set_option autoImplicit false

/-!
# The frontier reference

`tools/parp/frontier_score/reference.py` beside `mm/parp/core/frontier_score.c`. The scores agree; the
capacities are scaled by 1/32768 in the reference and by 1/32767 in the kernel.
-/
namespace Parp.FrontierReference

open FrontierScore CheckedWords IntervalSearch RunningSums List

def missingValue : ℤ := -2 ^ 63
def s32Min : ℤ := -2 ^ 31
def s32Max : ℤ := 2 ^ 31 - 1

structure QuantModel where
  appId : ℤ
  modelName : String
  modelVersion : ℤ
  featureSchemaVersion : ℤ
  threshold : ℤ
  binEdges : List (List ℤ)
  weights : List (List ℤ)
  deriving DecidableEq

inductive ScoreReason
  | native | modelVersion | featureSchema | featureCount | missingFeature | scoreOverflow | score
  | noModel
  deriving DecidableEq

structure ScoreResult where
  valid : Bool
  score : ℤ := 0
  wouldPromote : Bool := false
  modelName : String := "NATIVE"
  reason : ScoreReason := .native
  deriving DecidableEq

/-- The records of `default_models.json`. -/
def defaultModels : List QuantModel :=
  [{ appId := 1
     modelName := "WPS_REUSE_MODEL"
     modelVersion := 1
     featureSchemaVersion := 1
     threshold := 94
     binEdges := commonEdges
     weights := [[42, 32, 20, 8, -8, -22], [26, 20, 12, 4, -8, -18], [-20, -8, 4, 16, 28, 40],
       [24, 18, 10, 2, -8, -18], [24, 14, 6, -4, -14, -26], [20, 12, 4, -4, -12, -20],
       [18, 12, 6, 0, -8, -16], [-24, -14, -4, 8, 20, 32]] },
    { appId := 2
      modelName := "QQ_REUSE_MODEL"
      modelVersion := 1
      featureSchemaVersion := 1
      threshold := 100
      binEdges := commonEdges
      weights := [[36, 28, 18, 8, -6, -18], [20, 16, 10, 4, -6, -14], [-16, -6, 4, 14, 24, 34],
        [18, 14, 8, 2, -8, -16], [20, 12, 4, -4, -12, -22], [18, 10, 2, -6, -14, -22],
        [16, 10, 4, -2, -10, -18], [-30, -18, -6, 10, 26, 42]] },
    { appId := 3
      modelName := "FILES_REUSE_MODEL"
      modelVersion := 1
      featureSchemaVersion := 1
      threshold := 88
      binEdges := commonEdges
      weights := [[46, 34, 20, 6, -12, -28], [30, 22, 12, 2, -10, -22], [-22, -10, 2, 16, 30, 44],
        [28, 20, 10, 0, -12, -24], [26, 16, 6, -6, -18, -30], [22, 12, 2, -8, -18, -28],
        [20, 12, 4, -4, -14, -24], [-18, -10, -2, 6, 16, 26]] },
    { appId := 0
      modelName := "GENERIC_REUSE_MODEL"
      modelVersion := 1
      featureSchemaVersion := 1
      threshold := 96
      binEdges := commonEdges
      weights := [[38, 29, 18, 7, -9, -21], [24, 18, 11, 3, -8, -17], [-18, -7, 3, 15, 26, 37],
        [22, 16, 9, 1, -9, -19], [22, 13, 5, -5, -15, -25], [19, 11, 3, -5, -14, -23],
        [17, 11, 5, -2, -10, -19], [-22, -13, -4, 8, 21, 34]] }]

def routeModel (models : List QuantModel) (appId : ℤ) (allowGeneric : Bool) : Option QuantModel :=
  match models.find? fun model => model.appId = appId with
  | some model => some model
  | none => if allowGeneric then models.find? fun model => model.appId = 0 else none

/-- `bin_index`; `none` is its `ModelError`. -/
def binIndex (value : ℤ) (edges : List ℤ) : Option ℕ :=
  if value = missingValue then none else some (bisectLeft edges value)

/-- The loop of `score_model`. A checked row has a weight for each bin. -/
def scoreSum (rows : List (ℤ × List ℤ × List ℤ)) : Option ℤ :=
  rows.foldlM (fun score row => (binIndex row.1 row.2.1).map fun bin => score + row.2.2.getD bin 0) 0

def scoreModel (model : QuantModel) (features : List ℤ)
    (expectedModelVersion expectedSchemaVersion : ℤ) : ScoreResult :=
  if model.modelVersion ≠ expectedModelVersion then
    { valid := false, modelName := model.modelName, reason := .modelVersion }
  else if model.featureSchemaVersion ≠ expectedSchemaVersion then
    { valid := false, modelName := model.modelName, reason := .featureSchema }
  else if features.length ≠ model.weights.length then
    { valid := false, modelName := model.modelName, reason := .featureCount }
  else
    match scoreSum (features.zip (model.binEdges.zip model.weights)) with
    | none => { valid := false, modelName := model.modelName, reason := .missingFeature }
    | some score =>
      if score < s32Min ∨ s32Max < score then
        { valid := false, modelName := model.modelName, reason := .scoreOverflow }
      else
        { valid := true
          score := score
          wouldPromote := score ≥ model.threshold
          modelName := model.modelName
          reason := .score }

/-- `score_for_app`, with the versions it takes by default. -/
def scoreForApp (models : List QuantModel) (appId : ℤ) (features : List ℤ) : ScoreResult :=
  match routeModel models appId true with
  | none => { valid := false, reason := .noModel }
  | some model => scoreModel model features 1 1

/-- The loop of `frontier_for_capacities`: the index, its effective pages and the headroom. -/
def frontierFrom (remaining etaQ15 : ℤ) : ℕ → ℤ → List ℤ → Option (ℕ × ℤ × ℤ)
  | _, _, [] => none
  | index, cumulative, pages :: capacities =>
    if pages < 0 then none
    else
      let effective := pages * etaQ15 / 32768
      if cumulative + effective ≥ remaining then
        some (index, effective, effective - (remaining - cumulative))
      else frontierFrom remaining etaQ15 (index + 1) (cumulative + effective) capacities

def frontierForCapacities (capacities : List ℤ) (remaining etaQ15 : ℤ) : Option (ℕ × ℤ × ℤ) :=
  if remaining ≤ 0 ∨ etaQ15 ≤ 0 ∨ 32768 < etaQ15 then none
  else frontierFrom remaining etaQ15 0 0 capacities

/-- `parp_frontier_score_values`: the score, and the threshold when it is written. -/
def parpFrontierScoreValues (appId : UInt32) (values : List ℤ) : ℤ × Option ℤ :=
  match validModel appId with
  | some model => (score model values, some model.threshold)
  | none => (s32Min, none)

/-- The two sides give one score and one decision; the kernel promotes unless the score is below the
threshold. -/
structure ScoresAgree (appId : UInt32) (values : List ℤ) : Prop where
  valid : (scoreForApp defaultModels appId.toNat values).valid = true
  written : (parpFrontierScoreValues appId values).2.isSome
  score : (scoreForApp defaultModels appId.toNat values).score =
    (parpFrontierScoreValues appId values).1
  decision : (scoreForApp defaultModels appId.toNat values).wouldPromote = true ↔
    ∀ threshold ∈ (parpFrontierScoreValues appId values).2,
      ¬ (parpFrontierScoreValues appId values).1 < threshold

def rowWeight (row : ℤ × List ℤ × List ℤ) : ℤ := row.2.2.getD (bin row.2.1 row.1) 0

variable {rows : List (ℤ × List ℤ × List ℤ)}

theorem scoreSum_eq (hrows : ∀ row ∈ rows, row.1 ≠ missingValue ∧ row.2.1.Pairwise (· ≤ ·)) :
    scoreSum rows = some (rows.map rowWeight).sum := by
  have hfold : ∀ start : ℤ, rows.foldlM (fun score row =>
      (binIndex row.1 row.2.1).map fun bin => score + row.2.2.getD bin 0) start =
        some (start + (rows.map rowWeight).sum) := by
    induction rows with
    | nil => exact fun start => congrArg some (add_zero start).symm
    | cons row rows ih =>
      intro start
      obtain ⟨hvalue, hedges⟩ := hrows row (.head _)
      have hbin : binIndex row.1 row.2.1 = some (bin row.2.1 row.1) := by
        unfold binIndex
        rw [if_neg hvalue, bisectLeft_eq hedges]
        rfl
      rw [foldlM_cons, hbin, map_cons, sum_cons, ← add_assoc]
      exact ih (fun other hmem => hrows other (.tail _ hmem)) _
  have hsum := hfold 0
  rwa [zero_add] at hsum

theorem rowWeight_bounds {row : ℤ × List ℤ × List ℤ}
    (hweights : ∀ weight ∈ row.2.2, -64 ≤ weight ∧ weight ≤ 64) :
    -64 ≤ rowWeight row ∧ rowWeight row ≤ 64 := by
  unfold rowWeight
  rw [getD_eq_getElem?_getD]
  cases hfound : row.2.2[bin row.2.1 row.1]? with
  | none => decide
  | some weight => exact hweights weight (mem_of_getElem? hfound)

theorem rowWeights_fit (hlength : rows.length ≤ 8)
    (hweights : ∀ row ∈ rows, ∀ weight ∈ row.2.2, -64 ≤ weight ∧ weight ≤ 64) :
    s32Min ≤ (rows.map rowWeight).sum ∧ (rows.map rowWeight).sum ≤ s32Max := by
  have hlower := card_nsmul_le_sum (rows.map rowWeight) (-64) (by
    intro weight hmem
    obtain ⟨row, hrow, rfl⟩ := mem_map.1 hmem
    exact (rowWeight_bounds (hweights row hrow)).1)
  have hupper := sum_le_card_nsmul (rows.map rowWeight) 64 (by
    intro weight hmem
    obtain ⟨row, hrow, rfl⟩ := mem_map.1 hmem
    exact (rowWeight_bounds (hweights row hrow)).2)
  rw [length_map, nsmul_eq_mul] at hlower hupper
  unfold s32Min s32Max
  omega

structure SameModel (reference : QuantModel) (kernel : FrontierModel) : Prop where
  modelVersion : reference.modelVersion = 1
  schemaVersion : reference.featureSchemaVersion = 1
  threshold : reference.threshold = kernel.threshold
  binEdges : reference.binEdges = kernel.binEdges
  weights : reference.weights = kernel.weights
  count : reference.weights.length = 8
  ordered : ∀ edges ∈ reference.binEdges, edges.Pairwise (· ≤ ·)
  small : ∀ row ∈ reference.weights, ∀ weight ∈ row, -64 ≤ weight ∧ weight ≤ 64

theorem shipped_sameModel {i : ℕ} (hi : i < 4) : ∃ reference kernel,
    routeModel defaultModels i true = some reference ∧ frontierModels[i]? = some kernel ∧
      SameModel reference kernel := by
  match i, hi with
  | 0, _ => exact ⟨_, _, rfl, rfl, rfl, rfl, rfl, rfl, rfl, rfl, by decide, by decide⟩
  | 1, _ => exact ⟨_, _, rfl, rfl, rfl, rfl, rfl, rfl, rfl, rfl, by decide, by decide⟩
  | 2, _ => exact ⟨_, _, rfl, rfl, rfl, rfl, rfl, rfl, rfl, rfl, by decide, by decide⟩
  | 3, _ => exact ⟨_, _, rfl, rfl, rfl, rfl, rfl, rfl, rfl, rfl, by decide, by decide⟩

theorem routeModel_generic {appId : ℤ} (h : 3 < appId) :
    routeModel defaultModels appId true = routeModel defaultModels 0 true := by
  have hnone : defaultModels.find? (fun model => decide (model.appId = appId)) = none := by
    rw [find?_eq_none]
    intro model hmem
    have hsmall : ∀ model ∈ defaultModels, model.appId ≤ 3 := by decide
    have hle := hsmall model hmem
    simp only [decide_eq_true_eq]
    omega
  unfold routeModel
  rw [hnone]
  rfl

theorem routed (appId : UInt32) : ∃ reference kernel,
    routeModel defaultModels appId.toNat true = some reference ∧
      validModel appId = some kernel ∧ SameModel reference kernel := by
  have hvalid : ∀ kernel ∈ frontierModels,
      kernel.modelVersion = 1 ∧ kernel.featureSchemaVersion = 1 := by decide
  have hroute : routeModel defaultModels appId.toNat true =
      routeModel defaultModels ((if 3 < appId then 0 else appId).toNat : ℕ) true := by
    split_ifs with hlarge
    · exact routeModel_generic (by
        rw [UInt32.lt_iff_toNat_lt] at hlarge
        exact_mod_cast hlarge)
    · rfl
  have hindex : (if 3 < appId then 0 else appId).toNat < 4 := by
    split_ifs with hlarge
    · decide
    · rw [UInt32.lt_iff_toNat_lt] at hlarge
      change ¬ 3 < appId.toNat at hlarge
      omega
  obtain ⟨reference, kernel, hreference, hkernel, hsame⟩ := shipped_sameModel hindex
  refine ⟨reference, kernel, hroute.trans hreference, ?_, hsame⟩
  unfold validModel frontierModel
  rw [hkernel, Option.filter_some, if_pos]
  exact decide_eq_true (hvalid kernel (mem_of_getElem? hkernel))

theorem scores_agree (appId : UInt32) {values : List ℤ} (hlength : values.length = 8)
    (hpresent : ∀ value ∈ values, value ≠ missingValue) : ScoresAgree appId values := by
  obtain ⟨reference, kernel, hreference, hkernel, hsame⟩ := routed appId
  have hrows : ∀ row ∈ values.zip (reference.binEdges.zip reference.weights),
      row.1 ∈ values ∧ row.2.1 ∈ reference.binEdges ∧ row.2.2 ∈ reference.weights := by
    intro row hmem
    obtain ⟨hvalue, hpair⟩ := of_mem_zip (show (row.1, row.2) ∈ _ from hmem)
    exact ⟨hvalue, of_mem_zip (show (row.2.1, row.2.2) ∈ _ from hpair)⟩
  have hsum := scoreSum_eq fun row hmem =>
    ⟨hpresent _ (hrows row hmem).1, hsame.ordered _ (hrows row hmem).2.1⟩
  have hfits := @rowWeights_fit (values.zip (reference.binEdges.zip reference.weights)) (by
    rw [length_zip]
    omega) fun row hmem => hsame.small _ (hrows row hmem).2.2
  have hkernelSum : score kernel values =
      ((values.zip (reference.binEdges.zip reference.weights)).map rowWeight).sum := by
    unfold score
    rw [hsame.binEdges, hsame.weights]
    rfl
  generalize ((values.zip (reference.binEdges.zip reference.weights)).map rowWeight).sum = total
    at hsum hfits hkernelSum
  have hscored : scoreForApp defaultModels appId.toNat values =
      { valid := true
        score := total
        wouldPromote := decide (total ≥ kernel.threshold)
        modelName := reference.modelName
        reason := .score } := by
    unfold scoreForApp
    rw [hreference]
    dsimp only
    unfold scoreModel
    rw [if_neg (not_not.2 hsame.modelVersion), if_neg (not_not.2 hsame.schemaVersion),
      if_neg (by rw [hlength, hsame.count]; exact not_not.2 rfl), hsum, hsame.threshold]
    dsimp only
    rw [if_neg (by omega)]
  have hvalues : parpFrontierScoreValues appId values = (total, some kernel.threshold) := by
    unfold parpFrontierScoreValues
    rw [hkernel]
    exact congrArg (·, _) hkernelSum
  constructor
  · rw [hscored]
  · rw [hvalues]
    rfl
  · rw [hscored, hvalues]
  · rw [hscored, hvalues]
    simp

section

variable (etaQ15 : UInt32)

def kernelPages (pages : UInt64) : ℕ := pages.toNat * etaQ15.toNat / 32767

def referencePages (pages : UInt64) : ℕ := pages.toNat * etaQ15.toNat / 32768

def SameScale (pages : UInt64) : Prop :=
  pages.toNat * etaQ15.toNat / 32767 ≤ pages.toNat * etaQ15.toNat % 32767

/-- The capacities do not cover the demand, or each up to the one that covers it has the same pages by
either scale. -/
def SameUntilCovered (capacities : List UInt64) (demand : UInt64) : Prop :=
  (capacities.map (kernelPages etaQ15)).sum < demand.toNat ∨
    ∀ before pages after, capacities = before ++ pages :: after →
      (before.map (kernelPages etaQ15)).sum < demand.toNat → SameScale etaQ15 pages

def SelectionsAgree (capacities : List UInt64) (demand : UInt64) : Prop :=
  (select capacities demand etaQ15).map (Option.map fun found => (found.1, (found.2.toNat : ℤ))) =
    some ((frontierForCapacities (capacities.map fun pages => (pages.toNat : ℤ)) demand.toNat
      etaQ15.toNat).map fun found => (found.1, found.2.2))

instance (capacities : List UInt64) (demand : UInt64) :
    Decidable (SelectionsAgree etaQ15 capacities demand) :=
  inferInstanceAs (Decidable (_ = _))

variable {etaQ15}

theorem sameScale_iff (pages : UInt64) :
    SameScale etaQ15 pages ↔ kernelPages etaQ15 pages = referencePages etaQ15 pages := by
  unfold SameScale kernelPages referencePages
  omega

theorem referencePages_le (pages : UInt64) : referencePages etaQ15 pages ≤ kernelPages etaQ15 pages :=
  Nat.div_le_div_left (by decide) (by decide)

theorem effectivePages_toNat (heta : etaQ15 ≤ q15One) (pages : UInt64) :
    (effectivePages pages etaQ15).toNat = kernelPages etaQ15 pages := by
  have hscale : etaQ15.toNat ≤ 32767 := UInt32.le_iff_toNat_le.1 heta
  have hpages := pages.toNat_lt
  have hle : kernelPages etaQ15 pages ≤ pages.toNat := by
    unfold kernelPages
    exact Nat.div_le_of_le_mul (Nat.mul_comm 32767 _ ▸ Nat.mul_le_mul_left _ hscale)
  unfold effectivePages
  rw [UInt64.toNat_ofNat']
  exact Nat.mod_eq_of_lt (Nat.lt_of_le_of_lt hle hpages)

theorem selectFrom_covers (heta : etaQ15 ≤ q15One) {demand : UInt64} (capacities : List UInt64) :
    ∀ i cumulative, cumulative.toNat < demand.toNat →
      (selectFrom demand etaQ15 i cumulative capacities).map
          (Option.map fun found => (found.1, found.2.toNat)) =
        some ((covers (demand.toNat - cumulative.toNat) (capacities.map (kernelPages etaQ15))).map
          fun found => (i + found.1, found.2)) := by
  induction capacities with
  | nil => exact fun i cumulative _ => rfl
  | cons pages capacities ih =>
    intro i cumulative hcumulative
    have hmin : min demand cumulative = cumulative :=
      if_neg (by rw [UInt64.le_iff_toNat_le]; omega)
    have hle : cumulative ≤ demand := UInt64.le_iff_toNat_le.2 hcumulative.le
    have hremaining : (demand - cumulative).toNat = demand.toNat - cumulative.toNat :=
      UInt64.toNat_sub_of_le _ _ hle
    have hpages := effectivePages_toNat heta pages
    have hdemand := demand.toNat_lt
    unfold selectFrom
    simp only [hmin, checkedSub_of_le hle, checkedSub_ulongMax, Option.bind_eq_bind,
      Option.bind_some]
    rw [map_cons]
    by_cases hcovers : demand - cumulative ≤ effectivePages pages etaQ15
    · rw [if_pos hcovers, checkedSub_of_le hcovers]
      have henough := UInt64.le_iff_toNat_le.1 hcovers
      rw [hremaining, hpages] at henough
      rw [covers_of_le henough]
      simp [UInt64.toNat_sub_of_le _ _ hcovers, hremaining, hpages]
    · rw [if_neg hcovers]
      have hlt := hcovers
      rw [UInt64.le_iff_toNat_le, hremaining, hpages] at hlt
      have hroom : (ulongMax - cumulative).toNat = 2 ^ 64 - 1 - cumulative.toNat :=
        UInt64.toNat_sub_of_le _ _ (UInt64.le_iff_toNat_le.2 (by
          change _ ≤ 2 ^ 64 - 1
          omega))
      have hmin' : min (effectivePages pages etaQ15) (ulongMax - cumulative) =
          effectivePages pages etaQ15 :=
        if_pos (by rw [UInt64.le_iff_toNat_le, hroom, hpages]; omega)
      have hsum : (cumulative + effectivePages pages etaQ15).toNat =
          cumulative.toNat + kernelPages etaQ15 pages := by
        rw [UInt64.toNat_add, hpages]
        exact Nat.mod_eq_of_lt (by omega)
      rw [hmin', ih _ _ (by omega), covers_of_lt (by omega), hsum, Nat.sub_sub]
      cases covers (demand.toNat - (cumulative.toNat + kernelPages etaQ15 pages))
          (capacities.map (kernelPages etaQ15)) with
      | none => rfl
      | some found => simp [Nat.add_assoc, Nat.add_comm 1]

theorem frontierFrom_covers {remaining : ℕ} (capacities : List UInt64) :
    ∀ (i cumulative : ℕ), cumulative < remaining →
      (frontierFrom remaining etaQ15.toNat i cumulative
          (capacities.map fun pages => (pages.toNat : ℤ))).map (fun found => (found.1, found.2.2)) =
        (covers (remaining - cumulative) (capacities.map (referencePages etaQ15))).map
          fun found => (i + found.1, (found.2 : ℤ)) := by
  induction capacities with
  | nil => exact fun i cumulative _ => rfl
  | cons pages capacities ih =>
    intro i cumulative hcumulative
    have hpages : (pages.toNat : ℤ) * etaQ15.toNat / 32768 =
        (referencePages etaQ15 pages : ℕ) := by
      unfold referencePages
      push_cast
      rfl
    rw [map_cons, map_cons]
    unfold frontierFrom
    rw [if_neg (by omega), hpages]
    dsimp only
    by_cases hcovers : remaining - cumulative ≤ referencePages etaQ15 pages
    · rw [if_pos (by omega), covers_of_le hcovers]
      simp only [Option.map_some, Nat.add_zero, Option.some.injEq, Prod.mk.injEq, true_and]
      omega
    · rw [if_neg (by omega), covers_of_lt (by omega), ← Nat.cast_add, ih _ _ (by omega),
        Nat.sub_sub]
      cases covers (remaining - (cumulative + referencePages etaQ15 pages))
          (capacities.map (referencePages etaQ15)) with
      | none => rfl
      | some found => simp [Nat.add_assoc, Nat.add_comm 1]

def withSurplus (found : ℕ × ℕ) : ℕ × ℤ := (found.1, found.2)

theorem withSurplus_injective : Function.Injective (Option.map withSurplus) := by
  refine Option.map_injective ?_
  rintro ⟨i, surplus⟩ ⟨j, surplus'⟩ h
  simpa [withSurplus] using h

theorem selections_agree_iff {capacities : List UInt64} {demand : UInt64} (hdemand : demand ≠ 0)
    (hpos : etaQ15 ≠ 0) (heta : etaQ15 ≤ q15One) :
    SelectionsAgree etaQ15 capacities demand ↔ SameUntilCovered etaQ15 capacities demand := by
  have hdemand' : 0 < demand.toNat := by
    rw [Nat.pos_iff_ne_zero]
    exact fun h => hdemand (UInt64.toNat_inj.1 h)
  have hpos' : 0 < etaQ15.toNat := by
    rw [Nat.pos_iff_ne_zero]
    exact fun h => hpos (UInt32.toNat_inj.1 h)
  have hscale : etaQ15.toNat ≤ 32767 := UInt32.le_iff_toNat_le.1 heta
  have hkernel : (select capacities demand etaQ15).map
      (Option.map fun found => (found.1, (found.2.toNat : ℤ))) =
        some ((covers demand.toNat (capacities.map (kernelPages etaQ15))).map withSurplus) := by
    have hfound := congrArg (Option.map (Option.map withSurplus))
      (selectFrom_covers heta capacities 0 0 hdemand')
    rw [select_bounded heta hpos _ hdemand]
    simp only [Nat.zero_add] at hfound
    simpa [Option.map_map, Function.comp_def, withSurplus] using hfound
  have hreference : (frontierForCapacities (capacities.map fun pages => (pages.toNat : ℤ))
      demand.toNat etaQ15.toNat).map (fun found => (found.1, found.2.2)) =
        (covers demand.toNat (capacities.map (referencePages etaQ15))).map withSurplus := by
    have hfound := @frontierFrom_covers etaQ15 _ capacities 0 0 hdemand'
    unfold frontierForCapacities
    rw [if_neg (by omega)]
    simp only [Nat.zero_add, Nat.sub_zero, Nat.cast_zero] at hfound
    exact hfound
  unfold SelectionsAgree SameUntilCovered
  rw [hkernel, hreference, Option.some_inj, withSurplus_injective.eq_iff,
    covers_eq_iff (fun pages _ => referencePages_le pages) hdemand']
  unfold SameUntil
  simp only [sameScale_iff]

/-- The scores and decisions agree for every application and every present feature vector; the
selections agree exactly where the scales do, up to the capacity that covers the demand. -/
theorem frontier_reference_agrees (appId : UInt32) {values : List ℤ} (hlength : values.length = 8)
    (hpresent : ∀ value ∈ values, value ≠ missingValue) (capacities : List UInt64)
    {demand : UInt64} (hdemand : demand ≠ 0) {etaQ15 : UInt32} (hpos : etaQ15 ≠ 0)
    (heta : etaQ15 ≤ q15One) :
    ScoresAgree appId values ∧
      (SelectionsAgree etaQ15 capacities demand ↔ SameUntilCovered etaQ15 capacities demand) :=
  ⟨scores_agree appId hlength hpresent, selections_agree_iff hdemand hpos heta⟩

theorem frontier_reference_agrees_at_one_page :
    ScoresAgree 2 (List.replicate 8 0) ∧
      (SelectionsAgree 32767 [1] 1 ↔ SameUntilCovered 32767 [1] 1) :=
  frontier_reference_agrees 2 (by decide) (by decide) [1] (by decide) (by decide) (by decide)

/-- One page at the full efficiency is one page for the kernel and none for the reference. -/
theorem one_page_disagrees :
    select [1] 1 32767 = some (some (0, 0)) ∧ frontierForCapacities [1] 1 32767 = none ∧
      ¬ ∀ (capacities : List UInt64) (demand : UInt64) (etaQ15 : UInt32), demand ≠ 0 →
        etaQ15 ≠ 0 → etaQ15 ≤ q15One → SelectionsAgree etaQ15 capacities demand := by
  refine ⟨by decide, by decide, fun h => ?_⟩
  have hagree := h [1] 1 32767 (by decide) (by decide) (by decide)
  revert hagree
  decide

end

end Parp.FrontierReference
