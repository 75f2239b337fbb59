import Parp.EffectiveTier

set_option autoImplicit false

/-!
# One scan batch

`__parp_effective_tier_prepare`, `_decide`, `_finish` and the epoch claim they take. A folio's
metadata reaches these functions through `FolioView`: what `page_ext` and `write_begin` gave.
-/
namespace Parp.EffectiveTierScan

open FolioState EffectiveTier

/-- No `page_ext`, a `write_begin` that gave up, or the metadata it locked. -/
inductive FolioView
  | missing
  | contended
  | acquired (ext : ParpReusePageExt)
  deriving DecidableEq

def FolioView.decisionEpochs : FolioView → Option DecisionEpochs
  | .acquired ext => some ext.decisionEpochs
  | _ => none

def parpCandidateFeatures (view : FolioView) (now : UInt32) (runEpoch : UInt8) (folioGen : ℤ) :
    CandidateRead :=
  match view with
  | .missing => { valid := false, values := fun _ => 0, snapshot := {}, newState := {} }
  | .contended =>
    { valid := false, values := fun _ => 0, snapshot := { uncertain := true }, newState := {} }
  | .acquired ext => candidateFeatures ext ext.state now runEpoch folioGen

def parpEffectiveTierClaimEpochSequence (view : FolioView) (upgrade : Bool) (epochTag : Fin 4096)
    (expectedSequence : Option (Fin 2048)) (runEpoch : UInt8) :
    FolioView × Except ParpTierBypassReason (Fin 2048) :=
  match view with
  | .missing => (.missing, .error .metadataMissing)
  | .contended => (.contended, .error .stateUnstable)
  | .acquired ext =>
    let ended := ext.endWrite
    if expectedSequence.isSome ∧ expectedSequence ≠ some ext.state.seq then
      (.acquired ended, .error .generationRace)
    else if ext.decisionEpochs.stateEpoch ≠ runEpoch then
      (.acquired ended, .error .stateUnstable)
    else if ext.decisionEpochs.tag upgrade = epochTag then
      (.acquired ended, .error (if upgrade then .repeatUpgrade else .repeatDowngrade))
    else
      (.acquired { ended with
        decisionEpochs := ext.decisionEpochs.setTag epochTag upgrade },
        .ok (ext.state.seq + 2))

/-- The folio after the release, and whether it could be locked. The tag is cleared only while it
is still this claim's. -/
def parpEffectiveTierReleaseEpoch (view : FolioView) (upgrade : Bool) (epochTag : Fin 4096)
    (runEpoch : UInt8) : FolioView × Bool :=
  match view with
  | .missing => (.missing, false)
  | .contended => (.contended, false)
  | .acquired ext =>
    let ended := ext.endWrite
    if ext.decisionEpochs.stateEpoch = runEpoch ∧
        ext.decisionEpochs.tag upgrade = epochTag then
      (.acquired { ended with
        decisionEpochs := ext.decisionEpochs.setTag 0 upgrade }, true)
    else (.acquired ended, true)

def parpSaturatingAdd (left right : UInt64) : UInt64 :=
  left + min right (0xffffffffffffffff - left)

/-- `struct parp_tier_scan_ctx` without the ids and counts that only traces read. -/
structure ParpTierScanCtx where
  epochId : UInt64 := 0
  nrToReclaim : UInt64 := 0
  nrReclaimedBefore : UInt64 := 0
  sourceSeq : UInt64 := 0
  candidatePages : UInt64 := 0
  upgradePages : UInt64 := 0
  downgradePages : UInt64 := 0
  configSequence : UInt32 := 0
  appId : UInt32 := 0
  predictionGeneration : UInt32 := 0
  reclaimPriority : ℤ := 0
  epochTag : Fin 4096 := 0
  mode : ParpEffectiveTierMode := .off
  runEpoch : UInt8 := 0
  pressureLevelKernel : ParpPressureLevel := .low
  reclaimContext : ParpTierReclaimContext := .unknown
  pressureBypassReason : ParpTierBypassReason := .none
  consecutiveNoProgressBatches : UInt16 := 0
  appPriorQ15 : UInt16 := 0
  appRank : UInt16 := 0
  enabled : Bool := false
  severePressure : Bool := false
  noProgress : Bool := false
  appContextValid : Bool := false
  appForeground : Bool := false
  deriving DecidableEq

/-- `lrugen->parp_effective_tier[type]`. -/
structure ParpEffectiveTierState where
  epochId : UInt64 := 0
  sourceSeq : UInt64 := 0
  candidatePages : UInt64 := 0
  upgradePages : UInt64 := 0
  downgradePages : UInt64 := 0
  noProgressRounds : UInt16 := 0
  stateEpoch : UInt8 := 0
  deriving DecidableEq

def ParpTierScanCtx.used (ctx : ParpTierScanCtx) : Bool → UInt64
  | true => ctx.upgradePages
  | false => ctx.downgradePages

def ParpTierScanCtx.setUsed (ctx : ParpTierScanCtx) (pages : UInt64) : Bool → ParpTierScanCtx
  | true => { ctx with upgradePages := pages }
  | false => { ctx with downgradePages := pages }

def ParpEffectiveTierState.used (state : ParpEffectiveTierState) : Bool → UInt64
  | true => state.upgradePages
  | false => state.downgradePages

def ParpEffectiveTierState.setUsed (state : ParpEffectiveTierState) (pages : UInt64) :
    Bool → ParpEffectiveTierState
  | true => { state with upgradePages := pages }
  | false => { state with downgradePages := pages }

/-- What `parp_context_lookup` found for the memcg's domain. -/
structure AppContext where
  appId : UInt32
  predictionGeneration : UInt32
  appPriorQ15 : UInt16
  appRank : UInt16
  foreground : Bool
  deriving DecidableEq

/-- The arguments of `prepare` and the globals it reads; `config` is absent while a writer holds
the configuration. -/
structure PrepareInput where
  mode : ParpEffectiveTierMode
  stateFault : Bool := false
  config : Option ParpTierRuntimeConfig
  appContext : Option AppContext := none
  reclaimPriority : ℤ
  nrToReclaim : UInt64
  nrReclaimed : UInt64
  isKswapd : Bool := false
  isMemcgReclaim : Bool := false
  proactiveReclaim : Bool := false
  minSeq : UInt64
  runEpoch : UInt8
  deriving DecidableEq

def EpochRolls (state : ParpEffectiveTierState) (input : PrepareInput) : Prop :=
  state.epochId = 0 ∨ state.sourceSeq ≠ input.minSeq ∨ state.stateEpoch ≠ input.runEpoch

instance (state : ParpEffectiveTierState) (input : PrepareInput) :
    Decidable (EpochRolls state input) :=
  inferInstanceAs (Decidable (_ ∨ _ ∨ _))

def rollEpoch (state : ParpEffectiveTierState) (input : PrepareInput) : ParpEffectiveTierState :=
  if EpochRolls state input then
    { epochId := if state.epochId + 1 = 0 then 1 else state.epochId + 1
      sourceSeq := input.minSeq
      stateEpoch := input.runEpoch }
  else state

def epochTagOf (epochId : UInt64) : Fin 4096 := Fin.ofNat 4096 epochId.toNat

def skipZeroTag (state : ParpEffectiveTierState) : ParpEffectiveTierState :=
  if epochTagOf state.epochId = 0 then { state with epochId := state.epochId + 1 } else state

def parpEffectiveTierPrepare (state : ParpEffectiveTierState) (input : PrepareInput) :
    ParpTierScanCtx × ParpEffectiveTierState :=
  match input.config with
  | none => ({ mode := input.mode }, state)
  | some config =>
    if input.mode = .off ∨ input.stateFault then ({ mode := input.mode }, state)
    else
      let state := skipZeroTag (rollEpoch state input)
      let noProgress : Bool := state.noProgressRounds.toNat ≥ parpNoProgressLimit
      let level := parpEffectiveTierPressureLevel input.reclaimPriority noProgress
        input.nrToReclaim input.nrReclaimed
      ({ mode := input.mode
         enabled := true
         appId := input.appContext.elim 0 AppContext.appId
         predictionGeneration := input.appContext.elim 0 AppContext.predictionGeneration
         appPriorQ15 := input.appContext.elim 0 AppContext.appPriorQ15
         appRank := input.appContext.elim 0 AppContext.appRank
         appForeground := input.appContext.elim false AppContext.foreground
         appContextValid := input.appContext.isSome
         reclaimPriority := input.reclaimPriority
         nrToReclaim := input.nrToReclaim
         nrReclaimedBefore := input.nrReclaimed
         reclaimContext := parpTierReclaimContext input.isKswapd input.isMemcgReclaim
           input.proactiveReclaim
         sourceSeq := input.minSeq
         configSequence := config.sequence
         runEpoch := input.runEpoch
         severePressure := input.reclaimPriority ≤ parpSeverePressurePriority
         noProgress := noProgress
         consecutiveNoProgressBatches := state.noProgressRounds
         epochId := state.epochId
         epochTag := epochTagOf state.epochId
         pressureLevelKernel := level
         pressureBypassReason :=
           if level = .critical then (if noProgress then .noProgress else .pressure)
           else .none }, state)

def parpEffectiveTierFeedback (state : ParpEffectiveTierState) (stateEpoch runEpoch : UInt8)
    (isolated reclaimed : UInt64) : ParpEffectiveTierState :=
  if runEpoch = 0 ∨ runEpoch ≠ stateEpoch ∨ state.stateEpoch ≠ runEpoch ∨ isolated = 0 then state
  else if reclaimed ≠ 0 then { state with noProgressRounds := 0 }
  else if state.noProgressRounds.toNat < u16Max then
    { state with noProgressRounds := state.noProgressRounds + 1 }
  else state

/-- The folio and the globals a decision reads. The folio's metadata is read twice: for the
features and for the claim. -/
structure DecideInput where
  stateFault : Bool := false
  config : Option ParpTierRuntimeConfig
  appPriorTierProtect : Bool := true
  features : FolioView
  claim : FolioView
  now : UInt32
  runEpoch : UInt8
  folioGen : ℤ
  bucket : UInt32 := 0
  pages : UInt64
  nativeTier : ℤ
  tierIdx : ℤ
  specialNativeProtect : Bool := false

structure Scored where
  score : ℤ := 0
  pageScore : ℤ := 0
  appPriorBias : ℤ := 0
  valid : Bool := false
  appContextCandidate : Bool := false
  deriving DecidableEq

def scorePage (ctx : ParpTierScanCtx) (config : ParpTierRuntimeConfig) (input : DecideInput)
    (read : CandidateRead) : Option ℤ :=
  if ctx.mode = .recencyBaseline then
    some (parpEffectiveTierRecencyScore (UInt32.ofNat (read.values 0).toNat) config.policy)
  else if ctx.mode = .randomMatched then
    some (parpRandomScore config input.bucket input.nativeTier input.tierIdx)
  else parpEffectiveTierScoreValues read.values

def scoreFolio (ctx : ParpTierScanCtx) (config : ParpTierRuntimeConfig) (input : DecideInput)
    (read : CandidateRead) : Scored :=
  match scorePage ctx config input read with
  | none => {}
  | some pageScore =>
    if input.appPriorTierProtect ∧ ctx.appContextValid ∧ ctx.mode ≠ .randomMatched ∧
        ctx.mode ≠ .recencyBaseline then
      let bias := parpEffectiveTierAppPriorBias ctx.appPriorQ15 ctx.appRank ctx.appForeground
        config.policy
      { score := clampInt (pageScore + bias) s32Min s32Top
        pageScore := pageScore
        appPriorBias := bias
        valid := true
        appContextCandidate := true }
    else { score := pageScore, pageScore := pageScore, valid := true }

def gateBypass (ctx : ParpTierScanCtx) (config : ParpTierRuntimeConfig) (input : DecideInput)
    (snapshot : ParpTierStateSnapshot) (decision : ParpTierDecision) :
    Option ParpTierBypassReason :=
  if decision.rawDeltaTierQ8 < 0 ∧ input.nativeTier ≠ input.tierIdx + 1 then
    some (if input.nativeTier ≥ input.tierIdx + 2 then .strongNative else .notBoundary)
  else if decision.action = .predictiveDowngrade ∧ config.policy.requireTwoCold ∧
      snapshot.consecutiveCandidates.val < 2 then some .stateUnstable
  else if decision.action = .predictiveUpgrade then
    parpEffectiveTierUpgradeGate ctx.severePressure ctx.noProgress
  else none

/-- The decision before the budgets; `config` is set when they are looked at. -/
structure Judgement where
  decision : ParpTierDecision
  read : CandidateRead := { valid := false, values := fun _ => 0, snapshot := {}, newState := {} }
  scored : Scored := {}
  config : Option ParpTierRuntimeConfig := none

def judgeRead (ctx : ParpTierScanCtx) (config : ParpTierRuntimeConfig) (input : DecideInput)
    (read : CandidateRead) : Judgement :=
  let scored := scoreFolio ctx config input read
  let decision := parpEffectiveTierClassify scored.score scored.valid input.nativeTier
    input.tierIdx input.specialNativeProtect (some config.policy)
  if scored.valid = false ∨ input.specialNativeProtect then
    { decision := decision, read := read, scored := scored }
  else
    match gateBypass ctx config input read.snapshot decision with
    | some bypass =>
      { decision := parpDecisionNativeFallback decision bypass, read := read, scored := scored }
    | none => { decision := decision, read := read, scored := scored, config := some config }

def judge (ctx : ParpTierScanCtx) (input : DecideInput) : Judgement :=
  let unscored := fun (policy : Option ParpTierPolicy) (bypass : ParpTierBypassReason) =>
    { parpEffectiveTierClassify 0 false input.nativeTier input.tierIdx input.specialNativeProtect
        policy with bypass := bypass }
  if input.stateFault then { decision := unscored none .stateUnstable }
  else
    match input.config with
    | none => { decision := unscored none .modelInvalid }
    | some config =>
      if config.sequence ≠ ctx.configSequence then { decision := unscored none .modelInvalid }
      else
        let read := parpCandidateFeatures input.features input.now input.runEpoch input.folioGen
        if read.valid = false then
          { decision := unscored (some config.policy)
              (if read.snapshot.uncertain then .stateUnstable else .metadataMissing)
            read := read }
        else judgeRead ctx config input read

def direction : ParpTierAction → Option Bool
  | .predictiveUpgrade => some true
  | .predictiveDowngrade => some false
  | _ => none

def budgetBypass : Bool → ParpTierBypassReason
  | true => .upgradeBudget
  | false => .downgradeBudget

/-- The counters, the decision and the folio once the budgets have been looked at; `claimed` is
the sequence of a successful claim. -/
structure Reserved where
  ctx : ParpTierScanCtx
  state : ParpEffectiveTierState
  decision : ParpTierDecision
  folio : FolioView
  claimed : Option (Fin 2048) := none

/-- The budget admits `pages` in the scan and, for an applied action, in the epoch. -/
def budgetAllowed (ctx : ParpTierScanCtx) (state : ParpEffectiveTierState)
    (config : ParpTierRuntimeConfig) (pages : UInt64) (applies upgrade : Bool) : Bool :=
  parpEffectiveTierBudgetAllows (ctx.used upgrade) ctx.candidatePages pages
      (config.batchPages upgrade) (config.ratio upgrade) &&
    (!applies ||
      parpEffectiveTierBudgetAllows (state.used upgrade) state.candidatePages pages
        (config.epochPages upgrade) (config.ratio upgrade))

def reserve (ctx : ParpTierScanCtx) (state : ParpEffectiveTierState)
    (config : ParpTierRuntimeConfig) (input : DecideInput) (judged : Judgement) (upgrade : Bool) :
    Reserved :=
  let decision := judged.decision
  let applies := parpEffectiveTierActionApplies ctx.mode decision.action
  let kept : Reserved := { ctx := ctx, state := state, decision := decision, folio := input.claim }
  if budgetAllowed ctx state config input.pages applies upgrade = false then
    { kept with decision := parpDecisionNativeFallback decision (budgetBypass upgrade) }
  else if applies = false then
    { kept with ctx := ctx.setUsed (ctx.used upgrade + input.pages) upgrade }
  else
    match parpEffectiveTierClaimEpochSequence input.claim upgrade ctx.epochTag
      (some judged.read.snapshot.stateSequence) input.runEpoch with
    | (folio, .error bypass) =>
      { kept with decision := parpDecisionNativeFallback decision bypass, folio := folio }
    | (folio, .ok sequence) =>
      { ctx := ctx.setUsed (ctx.used upgrade + input.pages) upgrade
        state := state.setUsed (state.used upgrade + input.pages) upgrade
        decision := { decision with reservationActive := true, reservationUpgrade := upgrade }
        folio := folio
        claimed := some sequence }

def reserveJudged (ctx : ParpTierScanCtx) (state : ParpEffectiveTierState) (input : DecideInput)
    (judged : Judgement) : Reserved :=
  match judged.config, direction judged.decision.action with
  | some config, some upgrade => reserve ctx state config input judged upgrade
  | _, _ => { ctx := ctx, state := state, decision := judged.decision, folio := input.claim }

def parpEffectiveTierPressureCounterfactuals (ctx : ParpTierScanCtx)
    (decision : ParpTierDecision) : ParpTierDecision :=
  let raw :=
    if decision.modelValid ∧ decision.specialNativeProtect = false then decision.rawDeltaTierQ8
    else 0
  let fixedDelta :=
    if raw < 0 ∧ decision.nativeTier ≠ decision.nativeTierIdx + 1 then 0 else raw
  let pressureDelta := parpEffectiveTierPressureDeltaQ8 fixedDelta ctx.pressureLevelKernel
  let frontier := decision.nativeTierIdx * parpTierScale
  { decision with
    pressureLevelKernel := ctx.pressureLevelKernel
    reclaimContext := ctx.reclaimContext
    pressureBypassReason := ctx.pressureBypassReason
    pressurePolicyVersion := parpTierPressurePolicyVersion
    fixedDeltaQ8 := fixedDelta
    binaryBypassDeltaQ8 := if ctx.pressureLevelKernel = .critical then 0 else fixedDelta
    pressureAwareDeltaQ8 := pressureDelta
    fixedEffectiveProtect := parpEffectiveTierQ8 decision.nativeTier fixedDelta > frontier
    pressureAwareEffectiveProtect :=
      parpEffectiveTierQ8 decision.nativeTier pressureDelta > frontier }

def scorerKind : ParpEffectiveTierMode → ParpTierScorerKind
  | .recencyBaseline => .recencyBaseline
  | .randomMatched => .randomBaseline
  | _ => .pairwiseLinear

def pageOnlyEffectiveProtect (input : DecideInput) (judged : Judgement) : Bool :=
  match input.config with
  | some config =>
    judged.scored.appPriorBias ≠ 0 ∧
      (parpEffectiveTierClassify judged.scored.pageScore judged.scored.valid input.nativeTier
        input.tierIdx input.specialNativeProtect (some config.policy)).effectiveProtect
  | none => false

/-- The code after `copy_features:`. -/
def copyFeatures (ctx : ParpTierScanCtx) (input : DecideInput) (judged : Judgement)
    (reserved : Reserved) : ParpTierDecision :=
  let decision := parpEffectiveTierPressureCounterfactuals ctx
    { reserved.decision with
      pageReuseScore := judged.scored.pageScore
      appPriorBias := judged.scored.appPriorBias
      appId := ctx.appId
      predictionGeneration := ctx.predictionGeneration
      appPriorQ15 := ctx.appPriorQ15
      appRank := ctx.appRank
      appContextValid := judged.scored.appContextCandidate
      appPriorChangedProtect :=
        judged.scored.appContextCandidate ∧ judged.scored.appPriorBias > 0 ∧
          pageOnlyEffectiveProtect input judged = false ∧ reserved.decision.effectiveProtect ∧
          reserved.decision.action = .predictiveUpgrade }
  { decision with
    scorerKind := scorerKind ctx.mode
    features := judged.read.values
    featuresValid := judged.read.valid
    folioNrPages := input.pages
    generationIndex := input.folioGen
    pageStateSequence := reserved.claimed.getD judged.read.snapshot.stateSequence
    actualTierProtect := parpEffectiveTierActualProtect ctx.mode decision }

def countCandidate (ctx : ParpTierScanCtx) (pages : UInt64) : ParpTierScanCtx :=
  { ctx with candidatePages := parpSaturatingAdd ctx.candidatePages pages }

def countEpochCandidate (ctx : ParpTierScanCtx) (state : ParpEffectiveTierState) (pages : UInt64) :
    ParpEffectiveTierState :=
  if ctx.mode ≠ .shadow then
    { state with candidatePages := parpSaturatingAdd state.candidatePages pages }
  else state

def parpEffectiveTierDecide (ctx : ParpTierScanCtx) (state : ParpEffectiveTierState)
    (input : DecideInput) : Reserved :=
  let judged := judge ctx input
  let reserved := reserveJudged (countCandidate ctx input.pages)
    (countEpochCandidate ctx state input.pages) input judged
  { reserved with decision := copyFeatures ctx input judged reserved }

/-- `parp_tier_native_fallback` of `sort_folio`, when the folio changed after its decision. -/
def parpTierNativeFallback (decision : ParpTierDecision) (nativeTier tierIdx : ℤ)
    (specialNativeProtect : Bool) (bypass : ParpTierBypassReason) : ParpTierDecision :=
  let nativeProtect : Bool := nativeTier > tierIdx
  { decision with
    nativeTier := nativeTier
    nativeTierIdx := tierIdx
    specialNativeProtect := specialNativeProtect
    nativeProtect := nativeProtect
    deltaTierQ8 := 0
    effectiveTierQ8 := nativeTier * parpTierScale
    effectiveProtect := nativeProtect
    actualTierProtect := nativeProtect || specialNativeProtect
    bypass := bypass
    action :=
      if specialNativeProtect then .specialNativeProtect
      else if nativeProtect then .keepProtect
      else .keepReclaim }

/-- The counters after a reservation has been closed; `fault` marks the `invariant_fault` branch. -/
structure Closed where
  ctx : ParpTierScanCtx
  state : ParpEffectiveTierState
  decision : ParpTierDecision
  folio : FolioView
  fault : Bool := false

def parpEffectiveTierCancelReservation (ctx : ParpTierScanCtx) (state : ParpEffectiveTierState)
    (decision : ParpTierDecision) (view : FolioView) (runEpoch : UInt8) : Closed :=
  let upgrade := decision.reservationUpgrade
  let pages := decision.folioNrPages
  let closed := { decision with reservationActive := false }
  if decision.reservationActive = false then
    { ctx := ctx, state := state, decision := decision, folio := view }
  else
    match parpEffectiveTierReleaseEpoch view upgrade ctx.epochTag runEpoch with
    | (folio, false) => { ctx := ctx, state := state, decision := closed, folio := folio }
    | (folio, true) =>
      if ctx.used upgrade < pages ∨ state.used upgrade < pages then
        { ctx := ctx, state := state, decision := closed, folio := folio, fault := true }
      else
        { ctx := ctx.setUsed (ctx.used upgrade - pages) upgrade
          state := state.setUsed (state.used upgrade - pages) upgrade
          decision := closed
          folio := folio }

def reservationCommitted (decision : ParpTierDecision) (sortResult : Bool) : Bool :=
  decision.reservationActive &&
    ((decision.reservationUpgrade && sortResult && decision.action = .predictiveUpgrade) ||
      (!decision.reservationUpgrade && decision.action = .predictiveDowngrade))

/-- `__parp_effective_tier_finish` without its traces and the pending action of the folio. -/
def parpEffectiveTierFinish (ctx : ParpTierScanCtx) (state : ParpEffectiveTierState)
    (decision : ParpTierDecision) (view : FolioView) (runEpoch : UInt8) (sortResult : Bool) :
    Closed :=
  if decision.reservationActive ∧ reservationCommitted decision sortResult = false then
    parpEffectiveTierCancelReservation ctx state decision view runEpoch
  else { ctx := ctx, state := state, decision := decision, folio := view }

end Parp.EffectiveTierScan
