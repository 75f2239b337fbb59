import Parp.EffectiveTierScan

set_option autoImplicit false

/-!
# What a decision can do
-/
namespace Parp.EffectiveTierSafety

open FolioState EffectiveTier EffectiveTierScan

def nativeDecision (input : DecideInput) : Bool :=
  input.specialNativeProtect ||
    decide (clampInt input.nativeTier 0 parpMaxTier > clampInt input.tierIdx 0 parpMaxTier)

theorem clampTier_bounds (tier : ℤ) :
    0 ≤ clampInt tier 0 parpMaxTier ∧ clampInt tier 0 parpMaxTier ≤ 3 := by
  have htop : ((parpMaxTier : ℕ) : ℤ) = 3 := rfl
  unfold clampInt
  rw [htop]
  split_ifs <;> omega

def Unbiased (decision : ParpTierDecision) : Prop :=
  decision.effectiveProtect = decision.nativeProtect

theorem direction_classifyAction (special native effective : Bool) :
    direction (classifyAction special native effective) =
      if special then none else if native = effective then none else some effective := by
  cases special <;> cases native <;> cases effective <;> rfl

section

variable (score : ℤ) (modelValid : Bool) (nativeTier tierIdx : ℤ) (special : Bool)
  (policy : Option ParpTierPolicy)

theorem classify_special :
    (parpEffectiveTierClassify score modelValid nativeTier tierIdx special
      policy).specialNativeProtect = special := by
  unfold parpEffectiveTierClassify
  dsimp only
  split <;> rfl

theorem classify_native :
    (parpEffectiveTierClassify score modelValid nativeTier tierIdx special policy).nativeProtect =
      decide (clampInt nativeTier 0 parpMaxTier > clampInt tierIdx 0 parpMaxTier) := by
  unfold parpEffectiveTierClassify
  dsimp only
  split <;> rfl

theorem classify_reservation :
    (parpEffectiveTierClassify score modelValid nativeTier tierIdx special
      policy).reservationActive = false := by
  unfold parpEffectiveTierClassify
  dsimp only
  split <;> rfl

theorem classify_action :
    (parpEffectiveTierClassify score modelValid nativeTier tierIdx special policy).action =
      classifyAction special
        (parpEffectiveTierClassify score modelValid nativeTier tierIdx special policy).nativeProtect
        (parpEffectiveTierClassify score modelValid nativeTier tierIdx special
          policy).effectiveProtect := by
  unfold parpEffectiveTierClassify
  dsimp only
  split <;> rfl

theorem effectiveTierQ8_clamped (tier delta : ℤ) :
    parpEffectiveTierQ8 (clampInt tier 0 parpMaxTier) delta =
      clampInt (clampInt tier 0 parpMaxTier * 256 + delta) 0 1536 := by
  have htop : ((parpMaxTier : ℕ) : ℤ) = 3 := rfl
  have hbounds := clampTier_bounds tier
  unfold parpEffectiveTierQ8
  rw [if_neg (by omega)]
  rfl

theorem classify_unscored :
    Unbiased (parpEffectiveTierClassify score false nativeTier tierIdx special policy) := by
  have hbounds := clampTier_bounds nativeTier
  have hbounds' := clampTier_bounds tierIdx
  have hnone : (policy.filter fun policy => false && parpTierPolicyValid policy) = none := by
    cases policy <;> rfl
  unfold Unbiased parpEffectiveTierClassify
  dsimp only
  rw [hnone]
  change decide (parpEffectiveTierQ8 (clampInt nativeTier 0 parpMaxTier) 0 >
    clampInt tierIdx 0 parpMaxTier * parpTierScale) = decide _
  rw [effectiveTierQ8_clamped]
  apply decide_eq_decide.2
  change clampInt _ 0 1536 > _ * 256 ↔ _
  unfold clampInt at hbounds hbounds' ⊢
  split_ifs at * <;> omega

theorem scoreToDelta_nonneg {score : ℤ} {policy : ParpTierPolicy}
    (h : policy.coldThreshold < score) : 0 ≤ parpScoreToDeltaQ8 score policy := by
  have hscale : parpTierScale = 256 := rfl
  unfold parpScoreToDeltaQ8
  rw [hscale]
  split_ifs <;> omega

theorem classify_invalid (hinvalid : (modelValid && policy.any parpTierPolicyValid) = false) :
    parpEffectiveTierClassify score modelValid nativeTier tierIdx special policy =
      parpEffectiveTierClassify score false nativeTier tierIdx special none := by
  have hfilter : (policy.filter fun policy => modelValid && parpTierPolicyValid policy) = none := by
    cases policy with
    | none => rfl
    | some policy =>
      change (modelValid && parpTierPolicyValid policy) = false at hinvalid
      simp [Option.filter, hinvalid]
  unfold parpEffectiveTierClassify
  dsimp only
  rw [hfilter]
  rfl

theorem classify_valid {policy : ParpTierPolicy}
    (hvalid : (modelValid && parpTierPolicyValid policy) = true) :
    (parpEffectiveTierClassify score modelValid nativeTier tierIdx special
        (some policy)).reuseScore = score ∧
      (parpEffectiveTierClassify score modelValid nativeTier tierIdx special
        (some policy)).rawDeltaTierQ8 = parpScoreToDeltaQ8 score policy ∧
      (parpEffectiveTierClassify score modelValid nativeTier tierIdx special
        (some policy)).effectiveProtect =
        decide (clampInt (clampInt nativeTier 0 parpMaxTier * 256 + parpScoreToDeltaQ8 score policy)
          0 1536 > clampInt tierIdx 0 parpMaxTier * 256) := by
  have hfilter : ((some policy).filter fun policy =>
      modelValid && parpTierPolicyValid policy) = some policy := by
    simp [Option.filter, hvalid]
  unfold parpEffectiveTierClassify
  dsimp only
  rw [hfilter, ← effectiveTierQ8_clamped]
  exact ⟨rfl, rfl, rfl⟩

theorem classify_direction :
    direction (parpEffectiveTierClassify score modelValid nativeTier tierIdx special policy).action =
      if special then none
      else if (parpEffectiveTierClassify score modelValid nativeTier tierIdx special
          policy).nativeProtect =
        (parpEffectiveTierClassify score modelValid nativeTier tierIdx special
          policy).effectiveProtect then none
      else some (parpEffectiveTierClassify score modelValid nativeTier tierIdx special
        policy).effectiveProtect := by
  rw [classify_action, direction_classifyAction]

theorem classify_cold {policy : ParpTierPolicy}
    (h : (parpEffectiveTierClassify score modelValid nativeTier tierIdx special
      (some policy)).action = .predictiveDowngrade) :
    (parpEffectiveTierClassify score modelValid nativeTier tierIdx special
        (some policy)).rawDeltaTierQ8 < 0 ∧ score ≤ policy.coldThreshold ∧
      (parpEffectiveTierClassify score modelValid nativeTier tierIdx special
        (some policy)).reuseScore = score := by
  have hbounds := clampTier_bounds nativeTier
  have hbounds' := clampTier_bounds tierIdx
  have hdirection := classify_direction score modelValid nativeTier tierIdx special (some policy)
  rw [h] at hdirection
  change some false = _ at hdirection
  split_ifs at hdirection with hspecial hsame
  have heffective := (Option.some.inj hdirection).symm
  rw [heffective, classify_native] at hsame
  have hnative : clampInt nativeTier 0 parpMaxTier > clampInt tierIdx 0 parpMaxTier := by
    by_contra hle
    exact hsame (decide_eq_false hle)
  cases hvalid : modelValid && parpTierPolicyValid policy with
  | false =>
    rw [classify_invalid _ _ _ _ _ _ hvalid] at heffective
    rw [classify_unscored, classify_native] at heffective
    exact absurd hnative (of_decide_eq_false heffective)
  | true =>
    obtain ⟨hscore, hdelta, hprotect⟩ :=
      classify_valid score modelValid nativeTier tierIdx special hvalid
    rw [hprotect] at heffective
    have hlow := of_decide_eq_false heffective
    have hneg : parpScoreToDeltaQ8 score policy < 0 := by
      by_contra hnonneg
      apply hlow
      generalize clampInt nativeTier 0 parpMaxTier = native at *
      generalize clampInt tierIdx 0 parpMaxTier = idx at *
      unfold clampInt
      split_ifs <;> omega
    refine ⟨hdelta ▸ hneg, ?_, hscore⟩
    by_contra hwarm
    have hnonneg := scoreToDelta_nonneg (not_le.1 hwarm)
    omega

end

section

variable (decision : ParpTierDecision) (bypass : ParpTierBypassReason)

theorem fallback_unbiased : Unbiased (parpDecisionNativeFallback decision bypass) := rfl

theorem fallback_direction :
    direction (parpDecisionNativeFallback decision bypass).action = none := by
  change direction (if decision.specialNativeProtect then .specialNativeProtect
    else if decision.nativeProtect then .keepProtect else .keepReclaim) = none
  split_ifs <;> rfl

end

def Agrees (input : DecideInput) (decision : ParpTierDecision) : Prop :=
  decision.specialNativeProtect = input.specialNativeProtect ∧
    decision.nativeProtect =
      decide (clampInt input.nativeTier 0 parpMaxTier > clampInt input.tierIdx 0 parpMaxTier) ∧
    decision.reservationActive = false

def candidateRead (input : DecideInput) : CandidateRead :=
  parpCandidateFeatures input.features input.now input.runEpoch input.folioGen

structure Ground (input : DecideInput) (config : ParpTierRuntimeConfig)
    (decision : ParpTierDecision) : Prop where
  ordinary : input.specialNativeProtect = false
  configRead : input.config = some config
  valid : (candidateRead input).valid = true
  sides : direction decision.action =
    if decision.nativeProtect = decision.effectiveProtect then none
    else some decision.effectiveProtect
  downgrade : decision.action = .predictiveDowngrade →
    input.nativeTier = input.tierIdx + 1 ∧ decision.reuseScore ≤ config.policy.coldThreshold ∧
      (config.policy.requireTwoCold = true →
        2 ≤ (candidateRead input).snapshot.consecutiveCandidates.val)

/-- A judgement either keeps the native decision or has the ground for its action. -/
inductive Sound (input : DecideInput) (judged : Judgement) : Prop
  | kept (hconfig : judged.config = none) (hdirection : direction judged.decision.action = none)
      (hunbiased : input.specialNativeProtect = false → Unbiased judged.decision)
  | open (config : ParpTierRuntimeConfig) (hconfig : judged.config = some config)
      (hread : judged.read = candidateRead input) (hground : Ground input config judged.decision)

variable {config : ParpTierRuntimeConfig} {upgrade : Bool}

theorem gate_open {ctx : ParpTierScanCtx} {input : DecideInput} {snapshot : ParpTierStateSnapshot}
    {decision : ParpTierDecision} (h : gateBypass ctx config input snapshot decision = none) :
    ¬ (decision.rawDeltaTierQ8 < 0 ∧ input.nativeTier ≠ input.tierIdx + 1) ∧
      ¬ (decision.action = .predictiveDowngrade ∧ config.policy.requireTwoCold ∧
        snapshot.consecutiveCandidates.val < 2) := by
  unfold gateBypass at h
  split at h
  · cases h
  · rename_i hboundary
    split at h
    · cases h
    · rename_i hcandidates
      exact ⟨hboundary, hcandidates⟩

theorem judgeRead_sound (ctx : ParpTierScanCtx) (config : ParpTierRuntimeConfig)
    (input : DecideInput) (hconfig : input.config = some config)
    (hvalid : (candidateRead input).valid = true) :
    Sound input (judgeRead ctx config input (candidateRead input)) ∧
      Agrees input (judgeRead ctx config input (candidateRead input)).decision := by
  unfold judgeRead
  dsimp only
  generalize hscored : scoreFolio ctx config input _ = scored
  have hdirection := classify_direction scored.score scored.valid input.nativeTier input.tierIdx
    input.specialNativeProtect (some config.policy)
  have hspecial := classify_special scored.score scored.valid input.nativeTier input.tierIdx
    input.specialNativeProtect (some config.policy)
  have hnative := classify_native scored.score scored.valid input.nativeTier input.tierIdx
    input.specialNativeProtect (some config.policy)
  have hreserved := classify_reservation scored.score scored.valid input.nativeTier input.tierIdx
    input.specialNativeProtect (some config.policy)
  have hcold := @classify_cold scored.score scored.valid input.nativeTier input.tierIdx
    input.specialNativeProtect config.policy
  have hunscored := classify_unscored scored.score input.nativeTier input.tierIdx
    input.specialNativeProtect (some config.policy)
  split_ifs with hstop
  · refine ⟨.kept rfl ?_ ?_, hspecial, hnative, hreserved⟩
    · rcases hstop with hscore | hstop
      · rw [hdirection, hscore, hunscored]
        simp
      · rw [hdirection, hstop]
        rfl
    · intro hordinary
      rcases hstop with hscore | hstop
      · rw [hscore]
        exact hunscored
      · rw [hordinary] at hstop
        cases hstop
  · have hordinary : input.specialNativeProtect = false := by
      rw [not_or] at hstop
      simpa using hstop.2
    split
    · exact ⟨.kept rfl (fallback_direction _ _) (fun _ => fallback_unbiased _ _),
        hspecial, hnative, hreserved⟩
    · rename_i hgate
      refine ⟨.open config rfl rfl ⟨hordinary, hconfig, hvalid, ?_, ?_⟩,
        hspecial, hnative, hreserved⟩
      · rw [hdirection, hordinary]
        rfl
      · intro hdown
        obtain ⟨hdelta, hscore, hreuse⟩ := hcold hdown
        obtain ⟨hboundary, hcandidates⟩ := gate_open hgate
        refine ⟨?_, hreuse.symm ▸ hscore, ?_⟩
        · by_contra hne
          exact hboundary ⟨hdelta, hne⟩
        · intro htwo
          by_contra hfew
          exact hcandidates ⟨hdown, htwo, not_le.1 hfew⟩

theorem judge_sound (ctx : ParpTierScanCtx) (input : DecideInput) :
    Sound input (judge ctx input) ∧ Agrees input (judge ctx input).decision := by
  have hunscored : ∀ (policy : Option ParpTierPolicy) (bypass : ParpTierBypassReason)
      (read : CandidateRead),
      let judged : Judgement :=
        { decision :=
            { parpEffectiveTierClassify 0 false input.nativeTier input.tierIdx
                input.specialNativeProtect policy with bypass := bypass }
          read := read }
      Sound input judged ∧ Agrees input judged.decision := by
    intro policy bypass read
    have hsame := classify_unscored 0 input.nativeTier input.tierIdx input.specialNativeProtect
      policy
    have hdirection := classify_direction 0 false input.nativeTier input.tierIdx
      input.specialNativeProtect policy
    refine ⟨.kept rfl ?_ (fun _ => hsame), classify_special _ _ _ _ _ _,
      classify_native _ _ _ _ _ _, classify_reservation _ _ _ _ _ _⟩
    change direction (parpEffectiveTierClassify 0 false input.nativeTier input.tierIdx
      input.specialNativeProtect policy).action = none
    rw [hdirection, hsame]
    simp
  unfold judge
  dsimp only
  split
  · exact hunscored none _ _
  · split
    · exact hunscored none _ _
    · rename_i config hconfig
      split
      · exact hunscored none _ _
      · split
        · exact hunscored (some config.policy) _ _
        · rename_i hvalid
          exact judgeRead_sound ctx config input hconfig (eq_true_of_ne_false hvalid)

/-- The counters and the folio are as they were but for the candidate's pages. -/
structure Untouched (ctx : ParpTierScanCtx) (state : ParpEffectiveTierState) (input : DecideInput)
    (reserved : Reserved) : Prop where
  ctx : reserved.ctx = ctx
  state : reserved.state = state
  claimed : reserved.claimed = none
  epochs : reserved.folio.decisionEpochs = input.claim.decisionEpochs
  reservation : reserved.decision.reservationActive = false

/-- A predictive action the mode does not apply is counted in the scan and nowhere else. -/
structure Counted (ctx : ParpTierScanCtx) (state : ParpEffectiveTierState) (input : DecideInput)
    (config : ParpTierRuntimeConfig) (upgrade : Bool) (reserved : Reserved) : Prop where
  direction : direction reserved.decision.action = some upgrade
  applies : parpEffectiveTierActionApplies ctx.mode reserved.decision.action = false
  budget : budgetAllowed ctx state config input.pages false upgrade = true
  ctx : reserved.ctx = ctx.setUsed (ctx.used upgrade + input.pages) upgrade
  state : reserved.state = state
  claimed : reserved.claimed = none
  epochs : reserved.folio.decisionEpochs = input.claim.decisionEpochs
  reservation : reserved.decision.reservationActive = false

/-- An applied action holds its budget in the scan and the epoch, and the folio's epoch claim. -/
structure Applied (ctx : ParpTierScanCtx) (state : ParpEffectiveTierState) (input : DecideInput)
    (config : ParpTierRuntimeConfig) (upgrade : Bool) (reserved : Reserved) : Prop where
  direction : direction reserved.decision.action = some upgrade
  applies : parpEffectiveTierActionApplies ctx.mode reserved.decision.action = true
  budget : budgetAllowed ctx state config input.pages true upgrade = true
  claim : ∃ sequence, reserved.claimed = some sequence ∧
    parpEffectiveTierClaimEpochSequence input.claim upgrade ctx.epochTag
      (some (candidateRead input).snapshot.stateSequence) input.runEpoch =
        (reserved.folio, .ok sequence)
  ctx : reserved.ctx = ctx.setUsed (ctx.used upgrade + input.pages) upgrade
  state : reserved.state = state.setUsed (state.used upgrade + input.pages) upgrade
  reservation : reserved.decision.reservationActive = true
  reservationUpgrade : reserved.decision.reservationUpgrade = upgrade

theorem claim_error {view folio : FolioView} {epochTag : Fin 4096}
    {expected : Option (Fin 2048)} {runEpoch : UInt8} {bypass : ParpTierBypassReason}
    (h : parpEffectiveTierClaimEpochSequence view upgrade epochTag expected runEpoch =
      (folio, .error bypass)) : folio.decisionEpochs = view.decisionEpochs := by
  cases view with
  | missing =>
    obtain ⟨rfl, -⟩ := Prod.mk.inj h
    rfl
  | contended =>
    obtain ⟨rfl, -⟩ := Prod.mk.inj h
    rfl
  | acquired ext =>
    unfold parpEffectiveTierClaimEpochSequence at h
    dsimp only at h
    split at h
    · obtain ⟨rfl, -⟩ := Prod.mk.inj h
      rfl
    · split at h
      · obtain ⟨rfl, -⟩ := Prod.mk.inj h
        rfl
      · split at h
        · obtain ⟨rfl, -⟩ := Prod.mk.inj h
          rfl
        · cases (Prod.mk.inj h).2

def core (decision : ParpTierDecision) : ParpTierAction × Bool × Bool × Bool × ℤ :=
  (decision.action, decision.specialNativeProtect, decision.nativeProtect,
    decision.effectiveProtect, decision.reuseScore)

theorem reserve_cases (ctx : ParpTierScanCtx) (state : ParpEffectiveTierState)
    (config : ParpTierRuntimeConfig) (input : DecideInput) (judged : Judgement) (upgrade : Bool)
    (hread : judged.read = candidateRead input)
    (hdirection : direction judged.decision.action = some upgrade)
    (hreservation : judged.decision.reservationActive = false) :
    let reserved := reserve ctx state config input judged upgrade
    ((∃ bypass, reserved.decision = parpDecisionNativeFallback judged.decision bypass) ∧
      Untouched ctx state input reserved) ∨
    (core reserved.decision = core judged.decision ∧
      Counted ctx state input config upgrade reserved) ∨
    (core reserved.decision = core judged.decision ∧
      Applied ctx state input config upgrade reserved) := by
  dsimp only
  unfold reserve
  dsimp only
  split
  · exact .inl ⟨⟨_, rfl⟩, rfl, rfl, rfl, rfl, hreservation⟩
  · rename_i hbudget
    have hallowed := eq_true_of_ne_false hbudget
    split
    · rename_i happlies
      rw [happlies] at hallowed
      exact .inr (.inl ⟨rfl, hdirection, happlies, hallowed, rfl, rfl, rfl, rfl, hreservation⟩)
    · rename_i happlies
      have happlies := eq_true_of_ne_false happlies
      rw [happlies] at hallowed
      split
      · rename_i folio bypass hclaim
        exact .inl ⟨⟨_, rfl⟩, rfl, rfl, rfl, claim_error hclaim, hreservation⟩
      · rename_i folio sequence hclaim
        rw [hread] at hclaim
        exact .inr (.inr ⟨rfl, hdirection, happlies, hallowed, ⟨sequence, rfl, hclaim⟩,
          rfl, rfl, rfl, rfl⟩)

section

variable {mode : ParpEffectiveTierMode} {decision : ParpTierDecision}

theorem actual_unbiased (h : decision.specialNativeProtect = false → Unbiased decision) :
    parpEffectiveTierActualProtect mode decision =
      (decision.specialNativeProtect || decision.nativeProtect) := by
  unfold parpEffectiveTierActualProtect
  cases hspecial : decision.specialNativeProtect with
  | true => rfl
  | false =>
    have hsame : decision.effectiveProtect = decision.nativeProtect := h hspecial
    cases mode <;> simp [hsame]

theorem direction_some {action : ParpTierAction} {upgrade : Bool}
    (h : direction action = some upgrade) :
    action = if upgrade then .predictiveUpgrade else .predictiveDowngrade := by
  cases action <;> cases h <;> rfl

theorem actual_predictive (mode : ParpEffectiveTierMode) {upgrade : Bool}
    (hspecial : decision.specialNativeProtect = false)
    (hdirection : direction decision.action = some upgrade)
    (hnative : decision.nativeProtect = !upgrade) (heffective : decision.effectiveProtect = upgrade) :
    parpEffectiveTierActualProtect mode decision =
      if parpEffectiveTierActionApplies mode decision.action then upgrade else !upgrade := by
  unfold parpEffectiveTierActualProtect
  rw [direction_some hdirection, hspecial, hnative, heffective]
  cases mode <;> cases upgrade <;> rfl

end

theorem Ground.protects {input : DecideInput} {decision : ParpTierDecision}
    (h : Ground input config decision) (hdirection : direction decision.action = some upgrade) :
    decision.nativeProtect = (!upgrade) ∧ decision.effectiveProtect = upgrade := by
  have hsides := h.sides
  rw [hdirection] at hsides
  split_ifs at hsides with hsame
  have heffective := Option.some.inj hsides
  refine ⟨?_, heffective.symm⟩
  cases hnative : decision.nativeProtect with
  | true =>
    cases upgrade with
    | true => exact absurd (hnative.trans heffective) hsame
    | false => rfl
  | false =>
    cases upgrade with
    | true => rfl
    | false => exact absurd (hnative.trans heffective) hsame

theorem core_copyFeatures (ctx : ParpTierScanCtx) (input : DecideInput) (judged : Judgement)
    (reserved : Reserved) : core (copyFeatures ctx input judged reserved) = core reserved.decision :=
  rfl

theorem Ground.transfer {input : DecideInput} {decision decision' : ParpTierDecision}
    (h : Ground input config decision) (hcore : core decision' = core decision) :
    Ground input config decision' := by
  obtain ⟨haction, hcore⟩ := Prod.mk.inj hcore
  obtain ⟨-, hcore⟩ := Prod.mk.inj hcore
  obtain ⟨hnative, hcore⟩ := Prod.mk.inj hcore
  obtain ⟨heffective, hscore⟩ := Prod.mk.inj hcore
  refine ⟨h.ordinary, h.configRead, h.valid, ?_, ?_⟩
  · rw [haction, hnative, heffective]
    exact h.sides
  · rw [haction, hscore]
    exact h.downgrade

theorem actual_of_core {mode : ParpEffectiveTierMode} {decision decision' : ParpTierDecision}
    (hcore : core decision' = core decision) :
    parpEffectiveTierActualProtect mode decision' = parpEffectiveTierActualProtect mode decision := by
  obtain ⟨-, hcore⟩ := Prod.mk.inj hcore
  obtain ⟨hspecial, hcore⟩ := Prod.mk.inj hcore
  obtain ⟨hnative, hcore⟩ := Prod.mk.inj hcore
  obtain ⟨heffective, -⟩ := Prod.mk.inj hcore
  unfold parpEffectiveTierActualProtect
  rw [hspecial, hnative, heffective]

inductive DecideCase (ctx : ParpTierScanCtx) (state : ParpEffectiveTierState)
    (input : DecideInput) (reserved : Reserved) : Prop
  | kept (huntouched : Untouched (countCandidate ctx input.pages)
        (countEpochCandidate ctx state input.pages) input reserved)
      (hdirection : direction reserved.decision.action = none)
      (hactual : reserved.decision.actualTierProtect = nativeDecision input)
  | counted (config : ParpTierRuntimeConfig) (upgrade : Bool)
      (hcounted : Counted (countCandidate ctx input.pages)
        (countEpochCandidate ctx state input.pages) input config upgrade reserved)
      (hground : Ground input config reserved.decision)
      (hactual : reserved.decision.actualTierProtect = nativeDecision input)
  | applied (config : ParpTierRuntimeConfig) (upgrade : Bool)
      (happlied : Applied (countCandidate ctx input.pages)
        (countEpochCandidate ctx state input.pages) input config upgrade reserved)
      (hground : Ground input config reserved.decision)
      (hnative : nativeDecision input = !upgrade)
      (hactual : reserved.decision.actualTierProtect = upgrade)

theorem nativeDecision_of_agrees {input : DecideInput} {decision : ParpTierDecision}
    (h : Agrees input decision) :
    nativeDecision input = (decision.specialNativeProtect || decision.nativeProtect) := by
  obtain ⟨hspecial, hnative, -⟩ := h
  rw [hspecial, hnative]
  rfl

variable {ctx : ParpTierScanCtx} {state : ParpEffectiveTierState} {input : DecideInput}
  {reserved : Reserved}

theorem reserveJudged_none {judged : Judgement}
    (h : judged.config = none ∨ direction judged.decision.action = none) :
    reserveJudged ctx state input judged =
      { ctx := ctx, state := state, decision := judged.decision, folio := input.claim } := by
  unfold reserveJudged
  rcases h with h | h
  · rw [h]
  · rw [h]
    cases judged.config <;> rfl

theorem reserveJudged_some {judged : Judgement} (hconfig : judged.config = some config)
    (hdirection : direction judged.decision.action = some upgrade) :
    reserveJudged ctx state input judged = reserve ctx state config input judged upgrade := by
  unfold reserveJudged
  rw [hconfig, hdirection]

theorem copyFeatures_actual (ctx : ParpTierScanCtx) (input : DecideInput) (judged : Judgement)
    (reserved : Reserved) :
    (copyFeatures ctx input judged reserved).actualTierProtect =
      parpEffectiveTierActualProtect ctx.mode reserved.decision := rfl

theorem DecideCase.of_untouched (judged : Judgement) {reserved : Reserved}
    (huntouched : Untouched (countCandidate ctx input.pages)
      (countEpochCandidate ctx state input.pages) input reserved)
    (hnative : nativeDecision input =
      (reserved.decision.specialNativeProtect || reserved.decision.nativeProtect))
    (hdirection : direction reserved.decision.action = none)
    (hunbiased : reserved.decision.specialNativeProtect = false → Unbiased reserved.decision) :
    DecideCase ctx state input
      { reserved with decision := copyFeatures ctx input judged reserved } := by
  obtain ⟨hctx, hstate, hclaimed, hepochs, hreservation⟩ := huntouched
  refine .kept ⟨hctx, hstate, hclaimed, hepochs, hreservation⟩ hdirection ?_
  rw [copyFeatures_actual, hnative]
  exact actual_unbiased hunbiased

theorem decide_cases (ctx : ParpTierScanCtx) (state : ParpEffectiveTierState)
    (input : DecideInput) :
    DecideCase ctx state input (parpEffectiveTierDecide ctx state input) := by
  obtain ⟨hsound, hagrees⟩ := judge_sound ctx input
  have hnative := nativeDecision_of_agrees hagrees
  unfold parpEffectiveTierDecide
  dsimp only
  generalize judge ctx input = judged at *
  cases hsound with
  | kept hconfig hdirection hunbiased =>
    rw [reserveJudged_none (.inl hconfig)]
    refine .of_untouched judged ⟨rfl, rfl, rfl, rfl, hagrees.2.2⟩ hnative hdirection ?_
    rw [hagrees.1]
    exact hunbiased
  | «open» config hconfig hread hground =>
    cases hdirection : direction judged.decision.action with
    | none =>
      rw [reserveJudged_none (.inr hdirection)]
      refine .of_untouched judged ⟨rfl, rfl, rfl, rfl, hagrees.2.2⟩ hnative hdirection ?_
      intro _
      have hsides := hground.sides
      rw [hdirection] at hsides
      split_ifs at hsides with hsame
      exact hsame.symm
    | some upgrade =>
      have hspecial := hagrees.1.trans hground.ordinary
      obtain ⟨hprotect, heffective⟩ := hground.protects hdirection
      have hactual := actual_predictive ctx.mode hspecial hdirection hprotect heffective
      have hside : nativeDecision input = !upgrade := by
        rw [hnative, hspecial, hprotect]
        rfl
      have hcases := reserve_cases (countCandidate ctx input.pages)
        (countEpochCandidate ctx state input.pages) config input judged upgrade hread
        hdirection hagrees.2.2
      rw [reserveJudged_some hconfig hdirection]
      generalize reserve (countCandidate ctx input.pages)
        (countEpochCandidate ctx state input.pages) config input judged upgrade = reserved at *
      rcases hcases with ⟨⟨bypass, hdecision⟩, huntouched⟩ | ⟨hcore, hcounted⟩ |
        ⟨hcore, happlied⟩
      · refine .of_untouched judged huntouched ?_ ?_ ?_
        · rw [hdecision]
          exact hnative
        · rw [hdecision]
          exact fallback_direction _ _
        · rw [hdecision]
          exact fun _ => fallback_unbiased _ _
      · have haction : reserved.decision.action = judged.decision.action :=
          congrArg Prod.fst hcore
        have happlies : parpEffectiveTierActionApplies ctx.mode judged.decision.action =
            false := by
          rw [← haction]
          exact hcounted.applies
        refine .counted config upgrade
          ⟨hcounted.direction, hcounted.applies, hcounted.budget, hcounted.ctx, hcounted.state,
            hcounted.claimed, hcounted.epochs, hcounted.reservation⟩
          (hground.transfer ((core_copyFeatures _ _ _ _).trans hcore)) ?_
        rw [copyFeatures_actual, actual_of_core hcore, hactual, happlies, hside]
        rfl
      · have haction : reserved.decision.action = judged.decision.action :=
          congrArg Prod.fst hcore
        have happlies : parpEffectiveTierActionApplies ctx.mode judged.decision.action =
            true := by
          rw [← haction]
          exact happlied.applies
        refine .applied config upgrade
          ⟨happlied.direction, happlied.applies, happlied.budget, happlied.claim, happlied.ctx,
            happlied.state, happlied.reservation, happlied.reservationUpgrade⟩
          (hground.transfer ((core_copyFeatures _ _ _ _).trans hcore)) hside ?_
        rw [copyFeatures_actual, actual_of_core hcore, hactual, happlies]
        rfl

/-- The metadata a candidate may be judged by: written in the current run, certain, and about the
generation the folio is in. -/
structure UsableMetadata (ext : ParpReusePageExt) (now : UInt32) (runEpoch : UInt8)
    (folioGen : ℤ) : Prop where
  initialized : ext.state.initialized = true
  certain : ext.state.uncertain = false
  run : ext.decisionEpochs.stateEpoch = runEpoch
  accessed : ext.lastAccessMs ≠ 0 ∧ (now - ext.lastAccessMs).toNat ≤ s32Max
  entered : ext.generationEnterMs ≠ 0 ∧ (now - ext.generationEnterMs).toNat ≤ s32Max
  generation : (ext.state.generation.val : ℤ) = folioGen

theorem usable_of_valid {view : FolioView} {now : UInt32} {runEpoch : UInt8} {folioGen : ℤ}
    (h : (parpCandidateFeatures view now runEpoch folioGen).valid = true) :
    ∃ ext, view = .acquired ext ∧ UsableMetadata ext now runEpoch folioGen := by
  cases view with
  | missing => cases h
  | contended => cases h
  | acquired ext =>
    have hvalid := of_decide_eq_true h
    obtain ⟨hinit, hcertain, haccess, hgeneration, hlast, henter, hrun, hmoved⟩ := hvalid
    refine ⟨ext, rfl, hinit, hcertain, hrun, ⟨hlast, of_decide_eq_true haccess⟩,
      ⟨henter, of_decide_eq_true hgeneration⟩, ?_⟩
    have hnot := of_decide_eq_false hmoved
    exact not_not.1 hnot

structure Justified (ctx : ParpTierScanCtx) (state : ParpEffectiveTierState) (input : DecideInput)
    (reserved : Reserved) : Prop where
  permitted : parpEffectiveTierActionApplies ctx.mode reserved.decision.action = true
  metadata : ∃ ext, input.features = .acquired ext ∧
    UsableMetadata ext input.now input.runEpoch input.folioGen
  budget : ∃ config upgrade, input.config = some config ∧
    direction reserved.decision.action = some upgrade ∧
    budgetAllowed (countCandidate ctx input.pages) (countEpochCandidate ctx state input.pages)
      config input.pages true upgrade = true
  claim : ∃ upgrade sequence, direction reserved.decision.action = some upgrade ∧
    parpEffectiveTierClaimEpochSequence input.claim upgrade ctx.epochTag
      (some (candidateRead input).snapshot.stateSequence) input.runEpoch =
        (reserved.folio, .ok sequence)

def DowngradeGround (input : DecideInput) (reserved : Reserved) : Prop :=
  input.nativeTier = input.tierIdx + 1 ∧
    ∃ config, input.config = some config ∧
      reserved.decision.reuseScore ≤ config.policy.coldThreshold ∧
      (config.policy.requireTwoCold = true →
        2 ≤ (candidateRead input).snapshot.consecutiveCandidates.val)

/-- Nothing is held after a decision: no reservation, no epoch budget, no claim, and no scan
budget but for a predictive action that the mode does not apply. -/
structure NothingHeld (ctx : ParpTierScanCtx) (state : ParpEffectiveTierState)
    (input : DecideInput) (reserved : Reserved) : Prop where
  reservation : reserved.decision.reservationActive = false
  epochBudget : ∀ upgrade, reserved.state.used upgrade = state.used upgrade
  claim : reserved.claimed = none ∧
    reserved.folio.decisionEpochs = input.claim.decisionEpochs
  scanBudget : ∀ upgrade, direction reserved.decision.action ≠ some upgrade →
    reserved.ctx.used upgrade = ctx.used upgrade

theorem countEpochCandidate_used (ctx : ParpTierScanCtx) (state : ParpEffectiveTierState)
    (pages : UInt64) (upgrade : Bool) :
    (countEpochCandidate ctx state pages).used upgrade = state.used upgrade := by
  unfold countEpochCandidate
  split_ifs <;> cases upgrade <;> rfl

theorem countCandidate_used (ctx : ParpTierScanCtx) (pages : UInt64) (upgrade : Bool) :
    (countCandidate ctx pages).used upgrade = ctx.used upgrade := by
  cases upgrade <;> rfl

theorem setUsed_other (ctx : ParpTierScanCtx) (pages : UInt64) {upgrade other : Bool}
    (h : upgrade ≠ other) : (ctx.setUsed pages upgrade).used other = ctx.used other := by
  cases upgrade <;> cases other <;> first | rfl | exact absurd rfl h

theorem downgradeGround_of_ground {input : DecideInput} {reserved : Reserved}
    (hground : Ground input config reserved.decision)
    (haction : reserved.decision.action = .predictiveDowngrade) :
    DowngradeGround input reserved := by
  obtain ⟨hboundary, hscore, hcandidates⟩ := hground.downgrade haction
  exact ⟨hboundary, config, hground.configRead, hscore, hcandidates⟩

section

variable (hcase : DecideCase ctx state input reserved)

include hcase

theorem decide_notApplied
    (h : parpEffectiveTierActionApplies ctx.mode reserved.decision.action = false) :
    reserved.decision.actualTierProtect = nativeDecision input ∧
      NothingHeld ctx state input reserved := by
  cases hcase with
  | kept huntouched hdirection hactual =>
    obtain ⟨hctx, hstate, hclaimed, hepochs, hreservation⟩ := huntouched
    refine ⟨hactual, hreservation, ?_, ⟨hclaimed, hepochs⟩, ?_⟩
    · intro upgrade
      rw [hstate]
      exact countEpochCandidate_used ctx state input.pages upgrade
    · intro upgrade _
      rw [hctx]
      exact countCandidate_used ctx input.pages upgrade
  | counted config upgrade hcounted hground hactual =>
    refine ⟨hactual, hcounted.reservation, ?_, ⟨hcounted.claimed, hcounted.epochs⟩, ?_⟩
    · intro other
      rw [hcounted.state]
      exact countEpochCandidate_used ctx state input.pages other
    · intro other hother
      have hne : upgrade ≠ other := by
        rintro rfl
        exact hother hcounted.direction
      rw [hcounted.ctx, setUsed_other _ _ hne]
      exact countCandidate_used ctx input.pages other
  | applied config upgrade happlied hground hnative hactual =>
    have happlies : parpEffectiveTierActionApplies ctx.mode reserved.decision.action = true :=
      happlied.applies
    rw [h] at happlies
    cases happlies

theorem decide_justified (h : reserved.decision.actualTierProtect ≠ nativeDecision input) :
    Justified ctx state input reserved := by
  cases hcase with
  | kept huntouched hdirection hactual => exact absurd hactual h
  | counted config upgrade hcounted hground hactual => exact absurd hactual h
  | applied config upgrade happlied hground hnative hactual =>
    obtain ⟨sequence, -, hclaim⟩ := happlied.claim
    exact ⟨happlied.applies, usable_of_valid hground.valid,
      ⟨config, upgrade, hground.configRead, happlied.direction, happlied.budget⟩,
      ⟨upgrade, sequence, happlied.direction, hclaim⟩⟩

theorem decide_downgrade (h : reserved.decision.action = .predictiveDowngrade) :
    DowngradeGround input reserved := by
  cases hcase with
  | kept huntouched hdirection hactual =>
    rw [h] at hdirection
    cases hdirection
  | counted config upgrade hcounted hground hactual => exact downgradeGround_of_ground hground h
  | applied config upgrade happlied hground hnative hactual =>
    exact downgradeGround_of_ground hground h

end

theorem actionApplies_mode {mode : ParpEffectiveTierMode} {action : ParpTierAction}
    (h : mode = .off ∨ mode = .shadow) : parpEffectiveTierActionApplies mode action = false := by
  rcases h with rfl | rfl <;> cases action <;> rfl

theorem decide_protectOnly (hcase : DecideCase ctx state input reserved)
    (hmode : ctx.mode = .protectOnly) (hnative : nativeDecision input = true) :
    reserved.decision.actualTierProtect = true := by
  cases hcase with
  | kept huntouched hdirection hactual => exact hactual.trans hnative
  | counted config upgrade hcounted hground hactual => exact hactual.trans hnative
  | applied config upgrade happlied hground hside hactual =>
    have happlies : parpEffectiveTierActionApplies ctx.mode reserved.decision.action = true :=
      happlied.applies
    rw [hmode, direction_some happlied.direction] at happlies
    cases upgrade with
    | true => exact hactual
    | false => cases happlies

theorem decide_special (hcase : DecideCase ctx state input reserved)
    (hspecial : input.specialNativeProtect = true) :
    reserved.decision.actualTierProtect = true := by
  have hnative : nativeDecision input = true := by
    unfold nativeDecision
    rw [hspecial]
    rfl
  cases hcase with
  | kept huntouched hdirection hactual => exact hactual.trans hnative
  | counted config upgrade hcounted hground hactual => exact hactual.trans hnative
  | applied config upgrade happlied hground hside hactual =>
    rw [hground.ordinary] at hspecial
    cases hspecial

/-- The protection differs from MGLRU's only for a justified predictive action; the modes and the
special folios keep their promises; and any other decision holds nothing. -/
theorem decide_safe (ctx : ParpTierScanCtx) (state : ParpEffectiveTierState) (input : DecideInput) :
    ((parpEffectiveTierDecide ctx state input).decision.actualTierProtect ≠
        nativeDecision input →
      Justified ctx state input (parpEffectiveTierDecide ctx state input)) ∧
    (ctx.mode = .off ∨ ctx.mode = .shadow →
      (parpEffectiveTierDecide ctx state input).decision.actualTierProtect =
        nativeDecision input) ∧
    (ctx.mode = .protectOnly → nativeDecision input = true →
      (parpEffectiveTierDecide ctx state input).decision.actualTierProtect = true) ∧
    (input.specialNativeProtect = true →
      (parpEffectiveTierDecide ctx state input).decision.actualTierProtect = true) ∧
    ((parpEffectiveTierDecide ctx state input).decision.action = .predictiveDowngrade →
      DowngradeGround input (parpEffectiveTierDecide ctx state input)) ∧
    (parpEffectiveTierActionApplies ctx.mode
        (parpEffectiveTierDecide ctx state input).decision.action = false →
      NothingHeld ctx state input (parpEffectiveTierDecide ctx state input)) := by
  have hcase := decide_cases ctx state input
  refine ⟨decide_justified hcase, ?_, decide_protectOnly hcase, decide_special hcase,
    decide_downgrade hcase, fun h => (decide_notApplied hcase h).2⟩
  intro hmode
  exact (decide_notApplied hcase (actionApplies_mode hmode)).1

def hotExt : ParpReusePageExt where
  lastAccessMs := 1000
  previousIntervalMs := 5
  reuseIntervalEmaMs := 5
  generationEnterMs := 1000
  state := { access := 255, initialized := true }
  decisionEpochs := { stateEpoch := 1 }

def hotInput : DecideInput where
  config := some parpTierConfig
  features := .acquired hotExt
  claim := .acquired hotExt
  now := 1005
  runEpoch := 1
  folioGen := 0
  pages := 1
  nativeTier := 0
  tierIdx := 0

def shadowCtx : ParpTierScanCtx where
  mode := .shadow
  enabled := true

/-- `SHADOW` does not apply an upgrade and yet counts its pages in the scan. -/
theorem shadow_upgrade_counted :
    (parpEffectiveTierDecide shadowCtx {} hotInput).decision.action = .predictiveUpgrade ∧
    parpEffectiveTierActionApplies shadowCtx.mode
      (parpEffectiveTierDecide shadowCtx {} hotInput).decision.action = false ∧
    (parpEffectiveTierDecide shadowCtx {} hotInput).ctx.used true ≠ shadowCtx.used true := by
  decide +kernel

end Parp.EffectiveTierSafety
