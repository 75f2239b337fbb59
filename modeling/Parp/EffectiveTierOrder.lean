import Parp.BinnedScores
import Parp.TierModes

set_option autoImplicit false

/-!
# Hotter folios
-/
namespace Parp.EffectiveTierOrder

open FolioState EffectiveTier EffectiveTierScan EffectiveTierSafety TierModes BinnedScores

variable {values values' : Fin parpTierFeatures → ℤ} {policy : ParpTierPolicy}

def scoreStep (values : Fin parpTierFeatures → ℤ) (total : ℤ) (feature : Fin parpTierFeatures) :
    Option ℤ :=
  if values feature = s64Min then none
  else some (total + weight (parpGlobalModel.binEdges feature) (parpGlobalModel.weights feature)
    (values feature))

/-- The score before the loop's `n`-th turn. -/
def partialScore (values : Fin parpTierFeatures → ℤ) (n : ℕ) : Option ℤ :=
  ((List.finRange parpTierFeatures).take n).foldlM (scoreStep values) parpGlobalModel.bias

structure AtLeastAsHot (values values' : Fin parpTierFeatures → ℤ) : Prop where
  accessAge : values' 0 ≤ values 0
  previousInterval : values' 1 ≤ values 1
  reuseEma : values' 2 ≤ values 2
  candidates : values' 3 ≤ values 3
  generationAge : values' 4 ≤ values 4
  accessEma : values 5 ≤ values' 5

def modelTotal (values : Fin parpTierFeatures → ℤ) (features : List (Fin parpTierFeatures)) : ℤ :=
  total parpGlobalModel.binEdges parpGlobalModel.weights values features parpGlobalModel.bias

theorem foldlM_scoreStep (values : Fin parpTierFeatures → ℤ)
    (features : List (Fin parpTierFeatures)) (sum : ℤ) :
    features.foldlM (scoreStep values) sum =
      if ∃ feature ∈ features, values feature = s64Min then none
      else some (total parpGlobalModel.binEdges parpGlobalModel.weights values features sum) := by
  induction features generalizing sum with
  | nil => simp [total]
  | cons feature features ih =>
    rw [List.foldlM_cons]
    by_cases hmissing : values feature = s64Min
    · have hnone : scoreStep values sum feature = none := if_pos hmissing
      simp [hnone, hmissing]
    · have hstep : scoreStep values sum feature = some (sum +
          weight (parpGlobalModel.binEdges feature) (parpGlobalModel.weights feature)
            (values feature)) := if_neg hmissing
      rw [hstep]
      simpa [hmissing, total] using ih _

theorem model_lengths : ∀ feature : Fin parpTierFeatures,
    (parpGlobalModel.binEdges feature).length < (parpGlobalModel.weights feature).length := by
  decide

theorem model_weights {feature : Fin parpTierFeatures} {w : ℤ}
    (h : w ∈ parpGlobalModel.weights feature) : -64 ≤ w ∧ w ≤ 64 := by
  have hall : ∀ feature, (parpGlobalModel.weights feature).all
      fun w => decide (-64 ≤ w ∧ w ≤ 64) := by decide
  exact of_decide_eq_true (List.all_eq_true.1 (hall feature) w h)

theorem modelTotal_bounds (values : Fin parpTierFeatures → ℤ)
    (features : List (Fin parpTierFeatures)) :
    -64 * features.length ≤ modelTotal values features ∧
      modelTotal values features ≤ 64 * features.length := by
  have hbounds : parpGlobalModel.bias + features.length • (-64) ≤ modelTotal values features ∧
      modelTotal values features ≤ parpGlobalModel.bias + features.length • 64 :=
    total_bounds (fun feature _ => model_weights (weight_mem (model_lengths feature) _)) _
  have hbias : parpGlobalModel.bias = 0 := rfl
  rw [nsmul_eq_mul, nsmul_eq_mul, hbias] at hbounds
  omega

theorem parpEffectiveTierScoreValues_eq (values : Fin parpTierFeatures → ℤ) :
    parpEffectiveTierScoreValues values =
      if ∃ feature, values feature = s64Min then none
      else some (modelTotal values (List.finRange parpTierFeatures)) := by
  have hloop : scoreTotal values = _ :=
    foldlM_scoreStep values (List.finRange parpTierFeatures) parpGlobalModel.bias
  have hbounds := modelTotal_bounds values (List.finRange parpTierFeatures)
  have hsix : ((parpTierFeatures : ℕ) : ℤ) = 6 := rfl
  rw [List.length_finRange, hsix] at hbounds
  unfold parpEffectiveTierScoreValues
  rw [if_neg (by decide), hloop]
  simp only [List.mem_finRange, true_and]
  split_ifs with hmissing
  · rfl
  · have hrange : ¬ (modelTotal values (List.finRange parpTierFeatures) < s32Min ∨
        modelTotal values (List.finRange parpTierFeatures) > s32Top) := by
      unfold s32Min s32Top
      omega
    exact if_neg hrange

theorem partialScore_bounds (values : Fin parpTierFeatures → ℤ) (n : ℕ) {sum : ℤ}
    (h : partialScore values n = some sum) : s32Min ≤ sum ∧ sum ≤ s32Top := by
  unfold partialScore at h
  rw [foldlM_scoreStep] at h
  split_ifs at h
  obtain rfl := Option.some.inj h
  have hbounds := modelTotal_bounds values ((List.finRange parpTierFeatures).take n)
  have hlength : ((List.finRange parpTierFeatures).take n).length ≤ 6 := by
    rw [List.length_take, List.length_finRange]
    exact Nat.min_le_right _ _
  change s32Min ≤ modelTotal values _ ∧ modelTotal values _ ≤ s32Top
  unfold s32Min s32Top
  omega

theorem weight_hotter (h : AtLeastAsHot values values') (feature : Fin parpTierFeatures) :
    weight (parpGlobalModel.binEdges feature) (parpGlobalModel.weights feature) (values feature) ≤
      weight (parpGlobalModel.binEdges feature) (parpGlobalModel.weights feature)
        (values' feature) := by
  have hfalling : ∀ feature : Fin parpTierFeatures, feature ≠ 5 →
      (parpGlobalModel.weights feature).Pairwise (· ≥ ·) := by decide
  have hrising : (parpGlobalModel.weights 5).Pairwise (· ≤ ·) := by decide
  by_cases hema : feature = 5
  · subst hema
    exact weight_ordered le_refl hrising (model_lengths 5) h.accessEma
  · refine weight_ordered (r := fun w w' => w ≥ w') le_refl (hfalling feature hema) (model_lengths feature) ?_
    match feature, hema with
    | 0, _ => exact h.accessAge
    | 1, _ => exact h.previousInterval
    | 2, _ => exact h.reuseEma
    | 3, _ => exact h.candidates
    | 4, _ => exact h.generationAge
    | 5, hema => exact absurd rfl hema

theorem score_hotter (h : AtLeastAsHot values values') {score score' : ℤ}
    (hscore : parpEffectiveTierScoreValues values = some score)
    (hscore' : parpEffectiveTierScoreValues values' = some score') : score ≤ score' := by
  rw [parpEffectiveTierScoreValues_eq] at hscore hscore'
  split_ifs at hscore hscore'
  obtain rfl := Option.some.inj hscore
  obtain rfl := Option.some.inj hscore'
  exact total_mono (fun feature _ => weight_hotter h feature) le_rfl

theorem parpScoreToDeltaQ8_mono {score score' : ℤ} (hvalid : parpTierPolicyValid policy = true)
    (h : score ≤ score') :
    parpScoreToDeltaQ8 score policy ≤ parpScoreToDeltaQ8 score' policy := by
  obtain ⟨hone, hthree, -, hcold, hhot, hhotter⟩ := of_decide_eq_true hvalid
  have hscale : parpTierScale = 256 := rfl
  unfold parpScoreToDeltaQ8
  rw [hvalid, hscale]
  split_ifs <;> omega

theorem classify_delta (hvalid : parpTierPolicyValid policy = true) (score nativeTier tierIdx : ℤ)
    (special : Bool) :
    (parpEffectiveTierClassify score true nativeTier tierIdx special (some policy)).rawDeltaTierQ8 =
        parpScoreToDeltaQ8 score policy ∧
      (parpEffectiveTierClassify score true nativeTier tierIdx special
        (some policy)).effectiveProtect =
        decide (clampInt (clampInt nativeTier 0 parpMaxTier * 256 + parpScoreToDeltaQ8 score policy)
          0 1536 > clampInt tierIdx 0 parpMaxTier * 256) :=
  (classify_valid score true nativeTier tierIdx special (by rw [hvalid]; rfl)).2

theorem classify_protects {score score' nativeTier tierIdx : ℤ} {special : Bool}
    (hvalid : parpTierPolicyValid policy = true) (h : score ≤ score')
    (hprotects : (parpEffectiveTierClassify score true nativeTier tierIdx special
      (some policy)).effectiveProtect = true) :
    (parpEffectiveTierClassify score' true nativeTier tierIdx special
      (some policy)).effectiveProtect = true := by
  have hdelta := parpScoreToDeltaQ8_mono hvalid h
  rw [(classify_delta hvalid _ _ _ _).2, decide_eq_true_iff] at hprotects ⊢
  generalize clampInt nativeTier 0 parpMaxTier = tier at *
  generalize clampInt tierIdx 0 parpMaxTier = idx at *
  unfold clampInt at *
  split_ifs at * <;> omega

theorem classify_keeps {score nativeTier tierIdx : ℤ} {special : Bool}
    (hvalid : parpTierPolicyValid policy = true) (h : 0 ≤ parpScoreToDeltaQ8 score policy)
    (hnative : clampInt nativeTier 0 parpMaxTier > clampInt tierIdx 0 parpMaxTier) :
    (parpEffectiveTierClassify score true nativeTier tierIdx special
      (some policy)).effectiveProtect = true := by
  have hbounds := clampTier_bounds nativeTier
  rw [(classify_delta hvalid _ _ _ _).2, decide_eq_true_iff]
  generalize clampInt nativeTier 0 parpMaxTier = tier at *
  generalize clampInt tierIdx 0 parpMaxTier = idx at *
  unfold clampInt
  split_ifs <;> omega

section

variable {ctx : ParpTierScanCtx} {config : ParpTierRuntimeConfig} {input : DecideInput}
  {snapshot snapshot' : ParpTierStateSnapshot}

def gated (ctx : ParpTierScanCtx) (config : ParpTierRuntimeConfig) (input : DecideInput)
    (snapshot : ParpTierStateSnapshot) (decision : ParpTierDecision) : ParpTierDecision :=
  match gateBypass ctx config input snapshot decision with
  | some bypass => parpDecisionNativeFallback decision bypass
  | none => decision

/-- What the gates make of a decision that may only lack the special protection. -/
inductive Gated (ctx : ParpTierScanCtx) (config : ParpTierRuntimeConfig) (input : DecideInput)
    (snapshot : ParpTierStateSnapshot) (decision : ParpTierDecision) : Bool → Prop
  | distant (hcold : decision.rawDeltaTierQ8 < 0) (hboundary : input.nativeTier ≠ input.tierIdx + 1) :
      Gated ctx config input snapshot decision decision.nativeProtect
  | unstable (hnear : ¬ (decision.rawDeltaTierQ8 < 0 ∧ input.nativeTier ≠ input.tierIdx + 1))
      (hdown : decision.action = .predictiveDowngrade) (htwo : config.policy.requireTwoCold = true)
      (hcount : snapshot.consecutiveCandidates.val < 2) :
      Gated ctx config input snapshot decision decision.nativeProtect
  | pressed (hup : decision.action = .predictiveUpgrade)
      (hgate : parpEffectiveTierUpgradeGate ctx.severePressure ctx.noProgress ≠ none) :
      Gated ctx config input snapshot decision decision.nativeProtect
  | open (hnear : ¬ (decision.rawDeltaTierQ8 < 0 ∧ input.nativeTier ≠ input.tierIdx + 1))
      (hsteady : ¬ (decision.action = .predictiveDowngrade ∧
        config.policy.requireTwoCold = true ∧ snapshot.consecutiveCandidates.val < 2))
      (hup : decision.action = .predictiveUpgrade →
        parpEffectiveTierUpgradeGate ctx.severePressure ctx.noProgress = none) :
      Gated ctx config input snapshot decision decision.effectiveProtect

theorem gated_cases (ctx : ParpTierScanCtx) (config : ParpTierRuntimeConfig) (input : DecideInput)
    (snapshot : ParpTierStateSnapshot) (decision : ParpTierDecision) :
    Gated ctx config input snapshot decision
      (gated ctx config input snapshot decision).effectiveProtect := by
  unfold gated gateBypass
  by_cases hdistant : decision.rawDeltaTierQ8 < 0 ∧ input.nativeTier ≠ input.tierIdx + 1
  · rw [if_pos hdistant]
    exact .distant hdistant.1 hdistant.2
  rw [if_neg hdistant]
  by_cases hunstable : decision.action = .predictiveDowngrade ∧
      config.policy.requireTwoCold = true ∧ snapshot.consecutiveCandidates.val < 2
  · rw [if_pos hunstable]
    exact .unstable hdistant hunstable.1 hunstable.2.1 hunstable.2.2
  rw [if_neg hunstable]
  by_cases hup : decision.action = .predictiveUpgrade
  · rw [if_pos hup]
    cases hgate : parpEffectiveTierUpgradeGate ctx.severePressure ctx.noProgress with
    | none => exact .open hdistant hunstable fun _ => hgate
    | some bypass => exact .pressed hup (by rw [hgate]; exact Option.some_ne_none bypass)
  · rw [if_neg hup]
    exact .open hdistant hunstable fun h => absurd h hup

def classified (config : ParpTierRuntimeConfig) (input : DecideInput) (score : ℤ) :
    ParpTierDecision :=
  parpEffectiveTierClassify score true input.nativeTier input.tierIdx false (some config.policy)

theorem classifyAction_iff (native effective : Bool) :
    (classifyAction false native effective = .predictiveDowngrade ↔
      native = true ∧ effective = false) ∧
    (classifyAction false native effective = .predictiveUpgrade ↔
      native = false ∧ effective = true) := by
  cases native <;> cases effective <;> decide

theorem classified_downgrade_iff {score : ℤ} :
    (classified config input score).action = .predictiveDowngrade ↔
      (classified config input score).nativeProtect = true ∧
        (classified config input score).effectiveProtect = false := by
  unfold classified
  rw [classify_action]
  exact (classifyAction_iff _ _).1

theorem classified_upgrade_iff {score : ℤ} :
    (classified config input score).action = .predictiveUpgrade ↔
      (classified config input score).nativeProtect = false ∧
        (classified config input score).effectiveProtect = true := by
  unfold classified
  rw [classify_action]
  exact (classifyAction_iff _ _).2

theorem gated_protects {score score' : ℤ} (hvalid : parpTierPolicyValid config.policy = true)
    (h : score ≤ score')
    (hcount : snapshot'.consecutiveCandidates = snapshot.consecutiveCandidates)
    (hprotects : (gated ctx config input snapshot
      (classified config input score)).effectiveProtect = true) :
    (gated ctx config input snapshot' (classified config input score')).effectiveProtect = true := by
  have hdelta := parpScoreToDeltaQ8_mono hvalid h
  have hraw := (classify_delta hvalid score input.nativeTier input.tierIdx false).1
  have hraw' := (classify_delta hvalid score' input.nativeTier input.tierIdx false).1
  have hnative : (classified config input score').nativeProtect =
      (classified config input score).nativeProtect := by
    unfold classified
    rw [classify_native, classify_native]
  have hkeeps : (classified config input score).nativeProtect = true →
      0 ≤ parpScoreToDeltaQ8 score' config.policy →
        (classified config input score').effectiveProtect = true := by
    intro hprotected hwarm
    unfold classified at hprotected
    rw [classify_native, decide_eq_true_iff] at hprotected
    exact classify_keeps hvalid hwarm hprotected
  have hgated := gated_cases ctx config input snapshot (classified config input score)
  have hgated' := gated_cases ctx config input snapshot' (classified config input score')
  generalize (gated ctx config input snapshot (classified config input score)).effectiveProtect =
    before at hgated hprotects
  generalize (gated ctx config input snapshot' (classified config input score')).effectiveProtect =
    later at hgated' ⊢
  change (classified config input score).rawDeltaTierQ8 = _ at hraw
  change (classified config input score').rawDeltaTierQ8 = _ at hraw'
  have hnever : (classified config input score).nativeProtect = true →
      (classified config input score).action ≠ .predictiveUpgrade := by
    intro hprotected hup
    rw [(classified_upgrade_iff.1 hup).1] at hprotected
    cases hprotected
  cases hgated' with
  | distant hcold' hboundary =>
    have hcold : (classified config input score).rawDeltaTierQ8 < 0 := by omega
    rw [hnative]
    cases hgated with
    | distant => exact hprotects
    | unstable hnear => exact absurd ⟨hcold, hboundary⟩ hnear
    | pressed => exact hprotects
    | «open» hnear => exact absurd ⟨hcold, hboundary⟩ hnear
  | unstable hnear' hdown' => exact (classified_downgrade_iff.1 hdown').1
  | pressed hup' hgate' =>
    have hunprotected := (classified_upgrade_iff.1 hup').1
    rw [hnative] at hunprotected
    cases hgated with
    | distant => exact absurd (hprotects.symm.trans hunprotected) (by decide)
    | unstable => exact absurd (hprotects.symm.trans hunprotected) (by decide)
    | pressed => exact absurd (hprotects.symm.trans hunprotected) (by decide)
    | «open» hnear hsteady hup =>
      exact absurd (hup (classified_upgrade_iff.2 ⟨hunprotected, hprotects⟩)) hgate'
  | «open» hnear' hsteady' hup' =>
    by_contra hunprotected
    rw [Bool.not_eq_true] at hunprotected
    have hdown' : (classified config input score).nativeProtect = true →
        (classified config input score').action = .predictiveDowngrade := fun hprotected =>
      classified_downgrade_iff.2 ⟨hnative.trans hprotected, hunprotected⟩
    have hcold' : (classified config input score).nativeProtect = true →
        (classified config input score').rawDeltaTierQ8 < 0 := by
      intro hprotected
      by_contra hwarm
      rw [hkeeps hprotected (by omega)] at hunprotected
      cases hunprotected
    cases hgated with
    | distant hcold hboundary => exact hnear' ⟨hcold' hprotects, hboundary⟩
    | unstable hnear hdown htwo hcount' =>
      exact hsteady' ⟨hdown' hprotects, htwo, by rwa [hcount]⟩
    | pressed hup => exact hnever hprotects hup
    | «open» =>
      have hkept := classify_protects hvalid h hprotects
      change (classified config input score').effectiveProtect = true at hkept
      rw [hkept] at hunprotected
      cases hunprotected

end

section

variable {ctx : ParpTierScanCtx} {config : ParpTierRuntimeConfig} {input : DecideInput}
  {read read' : CandidateRead}

def FromModel (ctx : ParpTierScanCtx) : Prop :=
  ctx.mode ≠ .randomMatched ∧ ctx.mode ≠ .recencyBaseline

theorem clampInt_mono {lo hi value value' : ℤ} (hrange : lo ≤ hi) (h : value ≤ value') :
    clampInt value lo hi ≤ clampInt value' lo hi := by
  unfold clampInt
  split_ifs <;> omega

variable (config input) in
theorem scoreFolio_hotter (hmodel : FromModel ctx) {score score' : ℤ}
    (hscore : parpEffectiveTierScoreValues read.values = some score)
    (hscore' : parpEffectiveTierScoreValues read'.values = some score') (h : score ≤ score') :
    (scoreFolio ctx config input read).valid = true ∧
      (scoreFolio ctx config input read').valid = true ∧
      (scoreFolio ctx config input read).score ≤ (scoreFolio ctx config input read').score := by
  have hpage : ∀ read : CandidateRead,
      scorePage ctx config input read = parpEffectiveTierScoreValues read.values := by
    intro read
    unfold scorePage
    rw [if_neg hmodel.2, if_neg hmodel.1]
  unfold scoreFolio
  rw [hpage, hpage, hscore, hscore']
  dsimp only
  split_ifs
  · exact ⟨rfl, rfl, clampInt_mono (by decide) (by omega)⟩
  · exact ⟨rfl, rfl, h⟩

theorem judgeRead_protects (hvalid : parpTierPolicyValid config.policy = true)
    (hmodel : FromModel ctx) {score score' : ℤ}
    (hscore : parpEffectiveTierScoreValues read.values = some score)
    (hscore' : parpEffectiveTierScoreValues read'.values = some score') (h : score ≤ score')
    (hcount : read'.snapshot.consecutiveCandidates = read.snapshot.consecutiveCandidates)
    (hprotects : (judgeRead ctx config input read).decision.effectiveProtect = true) :
    (judgeRead ctx config input read').decision.effectiveProtect = true := by
  obtain ⟨hscored, hscored', hle⟩ :=
    scoreFolio_hotter config input hmodel hscore hscore' h
  cases hspecial : input.specialNativeProtect with
  | true =>
    unfold judgeRead at hprotects ⊢
    dsimp only at hprotects ⊢
    rw [if_pos (.inr hspecial), hscored] at hprotects
    rw [if_pos (.inr hspecial), hscored']
    exact classify_protects hvalid hle hprotects
  | false =>
    have hdecision : ∀ read : CandidateRead, (scoreFolio ctx config input read).valid = true →
        (judgeRead ctx config input read).decision =
          gated ctx config input read.snapshot
            (classified config input (scoreFolio ctx config input read).score) := by
      intro read hscored
      unfold judgeRead gated classified
      dsimp only
      rw [hscored, hspecial, if_neg (by decide)]
      cases gateBypass ctx config input read.snapshot (parpEffectiveTierClassify
        (scoreFolio ctx config input read).score true input.nativeTier input.tierIdx false
        (some config.policy)) <;> rfl
    rw [hdecision read hscored] at hprotects
    rw [hdecision read' hscored']
    exact gated_protects hvalid hle hcount hprotects

theorem accepted_valid {readable : Bool} {line : Option ConfigLine} {accepted : ConfigLine}
    (h : setConfigChecked readable line = .ok accepted) (sequence : UInt32) :
    parpTierPolicyValid (accepted.config sequence).policy = true := by
  unfold setConfigChecked at h
  split_ifs at h
  cases line with
  | none => cases h
  | some line =>
    dsimp only at h
    split_ifs at h with hrange
    obtain rfl := Except.ok.inj h
    unfold ConfigLine.OutOfRange at hrange
    simp only [not_or, not_le, ge_iff_le, gt_iff_lt] at hrange
    obtain ⟨hcold, hhot, hhotter, hone, hthree, -⟩ := hrange
    have hone' := UInt32.le_iff_toNat_le.1 (UInt32.not_lt.1 hone)
    have hthree' := UInt32.le_iff_toNat_le.1 (UInt32.not_lt.1 hthree)
    exact decide_eq_true ⟨hone', hthree', rfl, hcold, hhot, hhotter⟩

/-- The hotter a folio is, the higher are its score and its delta, and it is protected wherever a
colder one is. -/
theorem hotter_no_less_protected {readable : Bool} {line : Option ConfigLine}
    {accepted : ConfigLine} (haccepted : setConfigChecked readable line = .ok accepted)
    (sequence : UInt32) (hhot : AtLeastAsHot values values') :
    let config := accepted.config sequence
    (∀ n sum, partialScore values n = some sum → s32Min ≤ sum ∧ sum ≤ s32Top) ∧
    (parpEffectiveTierScoreValues values = none ↔ ∃ feature, values feature = s64Min) ∧
    ∀ score score', parpEffectiveTierScoreValues values = some score →
      parpEffectiveTierScoreValues values' = some score' →
      score ≤ score' ∧
      parpScoreToDeltaQ8 score config.policy ≤ parpScoreToDeltaQ8 score' config.policy ∧
      (∀ nativeTier tierIdx special,
        (parpEffectiveTierClassify score true nativeTier tierIdx special
          (some config.policy)).effectiveProtect = true →
        (parpEffectiveTierClassify score' true nativeTier tierIdx special
          (some config.policy)).effectiveProtect = true) ∧
      ∀ ctx input (read read' : CandidateRead), FromModel ctx → read.values = values →
        read'.values = values' →
        read'.snapshot.consecutiveCandidates = read.snapshot.consecutiveCandidates →
        (judgeRead ctx config input read).decision.effectiveProtect = true →
        (judgeRead ctx config input read').decision.effectiveProtect = true := by
  intro config
  have hvalid := accepted_valid haccepted sequence
  refine ⟨partialScore_bounds values, ?_, fun score score' hscore hscore' => ?_⟩
  · rw [parpEffectiveTierScoreValues_eq]
    split_ifs with hmissing
    · exact ⟨fun _ => hmissing, fun _ => rfl⟩
    · exact ⟨fun h => h.elim, fun h => absurd h hmissing⟩
  · have hle := score_hotter hhot hscore hscore'
    refine ⟨hle, parpScoreToDeltaQ8_mono hvalid hle,
      fun nativeTier tierIdx special hprotects => classify_protects hvalid hle hprotects, ?_⟩
    rintro ctx input read read' hmodel rfl rfl hcount hprotects
    exact judgeRead_protects hvalid hmodel hscore hscore' hle hcount hprotects

def shippedLine : ConfigLine where
  coldThreshold := -48
  hotThreshold1 := 48
  hotThreshold2 := 96
  hotThreshold3 := 144
  maxUpgrade := 2
  requireTwoCold := 1
  upgradeBatchPages := 2
  upgradeEpochPages := 8
  upgradeRatioPermyriad := 100
  downgradeBatchPages := 1
  downgradeEpochPages := 4
  downgradeRatioPermyriad := 50

/-- A folio accessed 600 ms ago, and one accessed 50 ms ago. -/
theorem shipped_hotter : (84 : ℤ) ≤ 132 ∧
    (parpEffectiveTierClassify 132 true 1 1 false
      (some (shippedLine.config 2).policy)).effectiveProtect = true := by
  have haccepted : setConfigChecked true (some shippedLine) = .ok shippedLine := by decide
  have hhot : AtLeastAsHot ![600, 30, 30, 1, 30, 100] ![50, 30, 30, 1, 30, 100] := by
    constructor <;> decide
  have h := (hotter_no_less_protected haccepted 2 hhot).2.2 84 132 (by decide) (by decide)
  exact ⟨h.1, h.2.2.1 1 1 false (by decide)⟩

end

end Parp.EffectiveTierOrder

/-!
# The bias of an application's prior
-/
namespace Parp.EffectiveTierPrior

open FolioState EffectiveTier TierModes EffectiveTierOrder

variable {policy : ParpTierPolicy}

def coldRank : ℕ := 8

/-- What the bias is meant to do. A rank of 0, or a score above `PARP_Q15_ONE`, is no prior. -/
structure SignedAsIntended (policy : ParpTierPolicy) : Prop where
  protects : ∀ appPriorQ15 appRank foreground, foreground = true ∨ appRank.toNat < coldRank →
    0 ≤ parpEffectiveTierAppPriorBias appPriorQ15 appRank foreground policy ∧
      parpEffectiveTierAppPriorBias appPriorQ15 appRank foreground policy ≤ policy.hotThreshold2
  cold : ∀ appPriorQ15 appRank, coldRank ≤ appRank.toNat →
    parpEffectiveTierAppPriorBias appPriorQ15 appRank false policy ≤ 0 ∧
      policy.coldThreshold ≤ parpEffectiveTierAppPriorBias appPriorQ15 appRank false policy
  score : ∀ low high appRank foreground, low ≤ high → high.toNat ≤ parpQ15One →
    parpEffectiveTierAppPriorBias low appRank foreground policy ≤
      parpEffectiveTierAppPriorBias high appRank foreground policy
  rank : ∀ appPriorQ15 first later foreground, first ≠ 0 → first ≤ later →
    parpEffectiveTierAppPriorBias appPriorQ15 later foreground policy ≤
      parpEffectiveTierAppPriorBias appPriorQ15 first foreground policy

variable {hotThreshold2 : ℤ}

theorem priorProduct_eq (appPriorQ15 : UInt16) (h : 0 ≤ hotThreshold2)
    (htop : hotThreshold2 ≤ s32Top) (hprior : appPriorQ15.toNat ≤ parpQ15One) :
    priorProduct appPriorQ15 hotThreshold2 = appPriorQ15.toNat * hotThreshold2 / 32767 := by
  obtain ⟨hot, rfl⟩ := Int.eq_ofNat_of_zero_le h
  have hhot : hot < 2 ^ 31 := by
    unfold s32Top at htop
    omega
  have hproduct : appPriorQ15.toNat * hot ≤ 32767 * hot := Nat.mul_le_mul_right hot hprior
  have hcast : ((hot : ℤ) % 2 ^ 64).toNat = hot := by omega
  have hquotient : appPriorQ15.toNat * hot / 32767 ≤ hot := by omega
  unfold priorProduct toS32
  rw [hcast, Nat.mod_eq_of_lt (by omega)]
  change Int.bmod ((appPriorQ15.toNat * hot / 32767 : ℕ) : ℤ) (2 ^ 32) = _
  rw [Int.bmod_eq_of_le (by omega) (by omega)]
  push_cast
  rfl

theorem priorProduct_bounds (appPriorQ15 : UInt16) (h : 0 ≤ hotThreshold2)
    (htop : hotThreshold2 ≤ s32Top) (hprior : appPriorQ15.toNat ≤ parpQ15One) :
    0 ≤ priorProduct appPriorQ15 hotThreshold2 ∧
      priorProduct appPriorQ15 hotThreshold2 ≤ hotThreshold2 := by
  have hscore : (appPriorQ15.toNat : ℤ) ≤ 32767 := by exact_mod_cast hprior
  have hproduct : (appPriorQ15.toNat : ℤ) * hotThreshold2 ≤ 32767 * hotThreshold2 :=
    Int.mul_le_mul_of_nonneg_right hscore h
  have hpos : 0 ≤ (appPriorQ15.toNat : ℤ) * hotThreshold2 :=
    Int.mul_nonneg (Int.natCast_nonneg _) h
  rw [priorProduct_eq appPriorQ15 h htop hprior]
  omega

theorem priorProduct_mono {low high : UInt16} (h : 0 ≤ hotThreshold2)
    (htop : hotThreshold2 ≤ s32Top) (hscores : low ≤ high) (hprior : high.toNat ≤ parpQ15One) :
    priorProduct low hotThreshold2 ≤ priorProduct high hotThreshold2 := by
  have hle : low.toNat ≤ high.toNat := UInt16.le_iff_toNat_le.1 hscores
  have hproduct : (low.toNat : ℤ) * hotThreshold2 ≤ high.toNat * hotThreshold2 :=
    Int.mul_le_mul_of_nonneg_right (by exact_mod_cast hle) h
  rw [priorProduct_eq low h htop (hle.trans hprior), priorProduct_eq high h htop hprior]
  omega

section

variable {appPriorQ15 appRank : UInt16} {foreground : Bool}

structure Signed (policy : ParpTierPolicy) : Prop where
  valid : parpTierPolicyValid policy = true
  hot : 0 ≤ policy.hotThreshold2
  top : policy.hotThreshold2 ≤ s32Top
  cold : policy.coldThreshold ≤ 0

def bandBias (policy : ParpTierPolicy) (bias : ℤ) (rank : ℕ) (foreground : Bool) : ℤ :=
  if foreground = true ∨ rank ≤ 2 then policy.hotThreshold2
  else if rank ≤ 4 then max bias policy.hotThreshold1
  else if coldRank ≤ rank then policy.coldThreshold
  else bias

theorem bias_none (h : appPriorQ15.toNat > parpQ15One ∨ appRank = 0) :
    parpEffectiveTierAppPriorBias appPriorQ15 appRank foreground policy = 0 :=
  if_pos (.inr h)

theorem Signed.bias (h : Signed policy) (hprior : appPriorQ15.toNat ≤ parpQ15One)
    (hrank : appRank ≠ 0) :
    parpEffectiveTierAppPriorBias appPriorQ15 appRank foreground policy =
      bandBias policy (priorProduct appPriorQ15 policy.hotThreshold2) appRank.toNat foreground := by
  obtain ⟨-, -, -, -, hhot, -⟩ := of_decide_eq_true h.valid
  have hbounds := priorProduct_bounds appPriorQ15 h.hot h.top hprior
  have hnonneg := h.hot
  have hgiven : ¬ (parpTierPolicyValid policy = false ∨ appPriorQ15.toNat > parpQ15One ∨
      appRank = 0) := by
    rintro (hinvalid | hlarge | hzero)
    · rw [h.valid] at hinvalid
      cases hinvalid
    · exact absurd hprior (not_le.2 hlarge)
    · exact hrank hzero
  unfold parpEffectiveTierAppPriorBias
  rw [if_neg hgiven]
  dsimp only
  generalize priorProduct appPriorQ15 policy.hotThreshold2 = bias at *
  unfold bandBias clampInt coldRank
  split_ifs <;> omega

theorem Signed.signedAsIntended (h : Signed policy) : SignedAsIntended policy := by
  obtain ⟨-, -, -, hcoldest, hhot, -⟩ := of_decide_eq_true h.valid
  have hnonneg := h.hot
  have hcold := h.cold
  refine ⟨fun prior rank foreground hnear => ?_, fun prior rank hfar => ?_,
    fun low high rank foreground hscores hhigh => ?_,
    fun prior first later foreground hfirst hranks => ?_⟩
  · by_cases hnone : prior.toNat > parpQ15One ∨ rank = 0
    · rw [bias_none hnone]
      exact ⟨Int.le_refl 0, hnonneg⟩
    · rw [not_or, not_lt] at hnone
      have hbounds := priorProduct_bounds prior h.hot h.top hnone.1
      rw [h.bias hnone.1 hnone.2]
      unfold bandBias coldRank at *
      cases foreground with
      | true => simp only [true_or, if_true]; omega
      | false =>
        simp only [Bool.false_eq_true, false_or] at hnear ⊢
        split_ifs <;> omega
  · by_cases hnone : prior.toNat > parpQ15One ∨ rank = 0
    · rw [bias_none hnone]
      exact ⟨Int.le_refl 0, hcold⟩
    · rw [not_or, not_lt] at hnone
      rw [h.bias hnone.1 hnone.2]
      unfold bandBias coldRank at *
      simp only [Bool.false_eq_true, false_or]
      split_ifs <;> omega
  · have hlow : low.toNat ≤ parpQ15One := (UInt16.le_iff_toNat_le.1 hscores).trans hhigh
    by_cases hrank : rank = 0
    · rw [bias_none (.inr hrank), bias_none (.inr hrank)]
    · have hmono := priorProduct_mono h.hot h.top hscores hhigh
      rw [h.bias hlow hrank, h.bias hhigh hrank]
      unfold bandBias
      split_ifs <;> omega
  · have hlater : later ≠ 0 := by
      rintro rfl
      exact hfirst (UInt16.le_antisymm hranks UInt16.zero_le)
    have hle := UInt16.le_iff_toNat_le.1 hranks
    by_cases hlarge : prior.toNat > parpQ15One
    · rw [bias_none (.inl hlarge), bias_none (.inl hlarge)]
    · have hprior := not_lt.1 hlarge
      have hbounds := priorProduct_bounds prior h.hot h.top hprior
      rw [h.bias hprior hfirst, h.bias hprior hlater]
      unfold bandBias coldRank
      cases foreground with
      | true => simp only [true_or, if_true]; exact Int.le_refl _
      | false =>
        simp only [Bool.false_eq_true, false_or]
        split_ifs <;> omega

theorem SignedAsIntended.thresholds (hvalid : parpTierPolicyValid policy = true)
    (h : SignedAsIntended policy) : 0 ≤ policy.hotThreshold2 ∧ policy.coldThreshold ≤ 0 := by
  refine ⟨(h.protects 0 1 true (.inl rfl)).1.trans (h.protects 0 1 true (.inl rfl)).2, ?_⟩
  have hcold := (h.cold 0 8 (Nat.le_refl 8)).1
  have hbias : parpEffectiveTierAppPriorBias 0 8 false policy = policy.coldThreshold := by
    unfold parpEffectiveTierAppPriorBias
    rw [hvalid]
    rfl
  rwa [hbias] at hcold

/-- What `%d` stores. -/
def Stored (line : ConfigLine) : Prop :=
  s32Min ≤ line.coldThreshold ∧ line.hotThreshold3 ≤ s32Top

instance (line : ConfigLine) : Decidable (Stored line) := inferInstanceAs (Decidable (_ ∧ _))

/-- The setter checks the order of the thresholds and not their signs. -/
theorem prior_bias_signed {readable : Bool} {line : Option ConfigLine} {accepted : ConfigLine}
    (haccepted : setConfigChecked readable line = .ok accepted) (hstored : Stored accepted)
    (sequence : UInt32) :
    SignedAsIntended (accepted.config sequence).policy ↔
      0 ≤ accepted.hotThreshold2 ∧ accepted.coldThreshold ≤ 0 := by
  have hvalid := accepted_valid haccepted sequence
  obtain ⟨-, -, -, -, -, hhotter⟩ := of_decide_eq_true hvalid
  have htop : accepted.hotThreshold2 ≤ s32Top := (Int.le_of_lt hhotter).trans hstored.2
  exact ⟨fun h => h.thresholds hvalid,
    fun h => Signed.signedAsIntended ⟨hvalid, h.1, htop, h.2⟩⟩

theorem shipped_signed : SignedAsIntended (shippedLine.config 2).policy :=
  (prior_bias_signed (show setConfigChecked true (some shippedLine) = .ok shippedLine by decide)
    (by decide) 2).2 (by decide)

def negativeLine : ConfigLine :=
  { shippedLine with
    coldThreshold := -100, hotThreshold1 := -50, hotThreshold2 := -20, hotThreshold3 := -10 }

theorem negative_line_penalizes :
    setConfigChecked true (some negativeLine) = .ok negativeLine ∧
      parpEffectiveTierAppPriorBias 32767 1 true (negativeLine.config 2).policy = -20 ∧
      ¬ SignedAsIntended (negativeLine.config 2).policy := by
  refine ⟨by decide, by decide, fun h => ?_⟩
  have hbias := (h.protects 32767 1 true (.inl rfl)).1
  exact absurd hbias (by decide)

end

end Parp.EffectiveTierPrior
