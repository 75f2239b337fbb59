import Parp.EffectiveTierSafety
import Parp.TransitionRuns

set_option autoImplicit false

/-!
# Page budgets over runs

Scans of one lruvec and type under the lru lock: any number of scan contexts, each decision closed
before the next operation. `charges` is the record the counters are compared with. A run has one
configuration: `set_config` writes it in mode `OFF` only, once the scans that read it have ended.
-/
namespace Parp.EffectiveTierBudget

open EffectiveTier EffectiveTierScan EffectiveTierSafety
open TransitionRuns

/-- A reservation of the current epoch. `stuck` is one whose epoch claim could not be released. -/
inductive ChargeStatus
  | live | committed | stuck
  deriving DecidableEq

structure Charge where
  scan : ℕ
  upgrade : Bool
  pages : UInt64
  status : ChargeStatus := .live
  deriving DecidableEq

def chargedPages (charges : List Charge) (upgrade : Bool) : ℕ :=
  ((charges.filter fun charge => charge.upgrade = upgrade).map fun charge => charge.pages.toNat).sum

def settle : Option ChargeStatus → List Charge → List Charge
  | some status, charge :: charges => { charge with status := status } :: charges
  | none, _ :: charges => charges
  | _, [] => []

/-- `live` is the decision that has not been finished yet, with its scan. -/
structure BudgetRun where
  state : ParpEffectiveTierState := {}
  ctxs : ℕ → ParpTierScanCtx := fun _ => {}
  live : Option (ℕ × ParpTierDecision) := none
  charges : List Charge := []
  fault : Bool := false

/-- `raced` holds the tiers `sort_folio` read again when the folio changed under the decision. -/
structure CloseInput where
  raced : Option (ℤ × ℤ × Bool) := none
  view : FolioView
  runEpoch : UInt8
  sortResult : Bool := false
  deriving DecidableEq

inductive BudgetOp
  | prepare (scan : ℕ) (input : PrepareInput)
  | decide (scan : ℕ) (input : DecideInput)
  | finish (input : CloseInput)
  | cancel (input : CloseInput)
  | feedback (stateEpoch runEpoch : UInt8) (isolated reclaimed : UInt64)

def readConfig (config : ParpTierRuntimeConfig) (read : Option ParpTierRuntimeConfig) :
    Option ParpTierRuntimeConfig :=
  read.map fun _ => config

def racedDecision (decision : ParpTierDecision) (input : CloseInput) : ParpTierDecision :=
  match input.raced with
  | some (nativeTier, tierIdx, special) =>
    parpTierNativeFallback decision nativeTier tierIdx special .generationRace
  | none => decision

def prepareRun (config : ParpTierRuntimeConfig) (run : BudgetRun) (scan : ℕ)
    (input : PrepareInput) : BudgetRun :=
  let input := { input with config := readConfig config input.config }
  let (ctx, state) := parpEffectiveTierPrepare run.state input
  { run with
    state := state
    ctxs := Function.update run.ctxs scan ctx
    charges := if ctx.enabled ∧ EpochRolls run.state input then [] else run.charges }

def decideRun (config : ParpTierRuntimeConfig) (run : BudgetRun) (scan : ℕ)
    (input : DecideInput) : BudgetRun :=
  let reserved := parpEffectiveTierDecide (run.ctxs scan) run.state
    { input with config := readConfig config input.config }
  { run with
    state := reserved.state
    ctxs := Function.update run.ctxs scan reserved.ctx
    live := some (scan, reserved.decision)
    charges :=
      if reserved.decision.reservationActive then
        { scan := scan, upgrade := reserved.decision.reservationUpgrade, pages := input.pages } ::
          run.charges
      else run.charges }

/-- The run after a decision was closed as `closed`, its charge settled with `status`. -/
def closeRun (run : BudgetRun) (scan : ℕ) (closed : Closed) (active : Bool)
    (status : Option ChargeStatus) : BudgetRun :=
  { run with
    state := closed.state
    ctxs := Function.update run.ctxs scan closed.ctx
    live := none
    charges := if active then settle status run.charges else run.charges
    fault := run.fault || closed.fault }

def cancelStatus (ctx : ParpTierScanCtx) (decision : ParpTierDecision) (input : CloseInput) :
    Option ChargeStatus :=
  if (parpEffectiveTierReleaseEpoch input.view decision.reservationUpgrade ctx.epochTag
      input.runEpoch).2 then none
  else some .stuck

def budgetStep (config : ParpTierRuntimeConfig) (run : BudgetRun) : BudgetOp → Unit × BudgetRun
  | .prepare scan input =>
    match run.live with
    | none => ((), prepareRun config run scan input)
    | some _ => ((), run)
  | .decide scan input =>
    match run.live with
    | none => ((), if (run.ctxs scan).enabled then decideRun config run scan input else run)
    | some _ => ((), run)
  | .finish input =>
    match run.live with
    | none => ((), run)
    | some (scan, decision) =>
      let decision := racedDecision decision input
      ((), closeRun run scan
        (parpEffectiveTierFinish (run.ctxs scan) run.state decision input.view input.runEpoch
          input.sortResult)
        decision.reservationActive
        (if reservationCommitted decision input.sortResult then some .committed
        else cancelStatus (run.ctxs scan) decision input))
  | .cancel input =>
    match run.live with
    | none => ((), run)
    | some (scan, decision) =>
      ((), closeRun run scan
        (parpEffectiveTierCancelReservation (run.ctxs scan) run.state decision input.view
          input.runEpoch)
        decision.reservationActive (cancelStatus (run.ctxs scan) decision input))
  | .feedback stateEpoch runEpoch isolated reclaimed =>
    ((), { run with
      state := parpEffectiveTierFeedback run.state stateEpoch runEpoch isolated reclaimed })

def ratioLimit (candidates : UInt64) (ratio : UInt32) : ℕ :=
  max 1 (candidates.toNat * ratio.toNat / 10000)

def Within (used candidates limit : UInt64) (ratio : UInt32) : Prop :=
  used.toNat ≤ limit.toNat ∧ used.toNat ≤ ratioLimit candidates ratio

theorem within_zero (candidates limit : UInt64) (ratio : UInt32) :
    Within 0 candidates limit ratio :=
  ⟨Nat.zero_le _, Nat.zero_le _⟩

theorem Within.mono {used used' candidates candidates' limit : UInt64} {ratio : UInt32}
    (h : Within used candidates limit ratio) (hused : used'.toNat ≤ used.toNat)
    (hcandidates : candidates.toNat ≤ candidates'.toNat) :
    Within used' candidates' limit ratio := by
  have hratio : candidates.toNat * ratio.toNat / 10000 ≤ candidates'.toNat * ratio.toNat / 10000 :=
    Nat.div_le_div_right (Nat.mul_le_mul_right _ hcandidates)
  have hused' := h.2
  unfold ratioLimit at hused'
  refine ⟨hused.trans h.1, ?_⟩
  unfold ratioLimit
  omega

theorem saturatingAdd_toNat (left right : UInt64) :
    (parpSaturatingAdd left right).toNat =
      left.toNat + min right.toNat (2 ^ 64 - 1 - left.toNat) := by
  have hleft := left.toNat_lt
  have hmax : (0xffffffffffffffff - left : UInt64).toNat = 2 ^ 64 - 1 - left.toNat := by
    rw [UInt64.toNat_sub_of_le]
    · rfl
    · change left.toNat ≤ 2 ^ 64 - 1
      omega
  have hmin : (min right (0xffffffffffffffff - left)).toNat =
      min right.toNat (2 ^ 64 - 1 - left.toNat) := by
    rw [← hmax]
    change (if right ≤ 0xffffffffffffffff - left then right
      else 0xffffffffffffffff - left).toNat = _
    split_ifs with hle
    · exact (Nat.min_eq_left (UInt64.le_iff_toNat_le.1 hle)).symm
    · have hlt := UInt64.lt_iff_toNat_lt.1 (UInt64.not_le.1 hle)
      exact (Nat.min_eq_right hlt.le).symm
  unfold parpSaturatingAdd
  rw [UInt64.toNat_add, hmin]
  omega

theorem within_of_allows {used candidates pages limit : UInt64} {ratio : UInt32}
    (h : parpEffectiveTierBudgetAllows used candidates pages limit ratio = true) :
    (used + pages).toNat = used.toNat + pages.toNat ∧
      Within (used + pages) candidates limit ratio := by
  unfold parpEffectiveTierBudgetAllows at h
  split at h
  · cases h
  · rename_i hbounds
    simp only [not_or] at hbounds
    obtain ⟨-, -, -, hratio, hroom, hlimit⟩ := hbounds
    have hratio' : ratio.toNat ≤ 10000 := UInt32.le_iff_toNat_le.1 (UInt32.not_lt.1 hratio)
    have hlimit' := UInt64.le_iff_toNat_le.1 (UInt64.not_lt.1 hlimit)
    have hpages := pages.toNat_lt
    have hcandidates := candidates.toNat_lt
    have hroom' : used.toNat ≤ 2 ^ 64 - 1 - pages.toNat := by
      have hle := UInt64.le_iff_toNat_le.1 (UInt64.not_lt.1 hroom)
      rw [UInt64.toNat_sub_of_le] at hle
      · exact hle
      · change pages.toNat ≤ 2 ^ 64 - 1
        omega
    have hsum : (used + pages).toNat = used.toNat + pages.toNat := by
      rw [UInt64.toNat_add]
      omega
    have hquotient : candidates.toNat * ratio.toNat / 10000 ≤ candidates.toNat := by
      apply Nat.div_le_of_le_mul
      rw [Nat.mul_comm]
      exact Nat.mul_le_mul_right _ hratio'
    have hquotient' : (UInt64.ofNat (candidates.toNat * ratio.toNat / 10000)).toNat =
        candidates.toNat * ratio.toNat / 10000 :=
      UInt64.toNat_ofNat_of_lt' (hquotient.trans_lt hcandidates)
    have hallowed := UInt64.le_iff_toNat_le.1 (of_decide_eq_true h)
    refine ⟨hsum, hlimit', ?_⟩
    unfold ratioLimit
    split at hallowed
    · have hone : (1 : UInt64).toNat = 1 := rfl
      omega
    · omega

section

variable (ctx : ParpTierScanCtx) (state : ParpEffectiveTierState) (pages : UInt64)

@[simp] theorem ctx_setUsed_used (upgrade other : Bool) :
    (ctx.setUsed pages upgrade).used other = if upgrade = other then pages else ctx.used other := by
  cases upgrade <;> cases other <;> rfl

@[simp] theorem state_setUsed_used (upgrade other : Bool) :
    (state.setUsed pages upgrade).used other =
      if upgrade = other then pages else state.used other := by
  cases upgrade <;> cases other <;> rfl

@[simp] theorem ctx_setUsed_candidates (upgrade : Bool) :
    (ctx.setUsed pages upgrade).candidatePages = ctx.candidatePages := by
  cases upgrade <;> rfl

@[simp] theorem state_setUsed_candidates (upgrade : Bool) :
    (state.setUsed pages upgrade).candidatePages = state.candidatePages := by
  cases upgrade <;> rfl

theorem candidates_le_count :
    ctx.candidatePages.toNat ≤ (countCandidate ctx pages).candidatePages.toNat := by
  change _ ≤ (parpSaturatingAdd _ _).toNat
  rw [saturatingAdd_toNat]
  omega

theorem candidates_le_countEpoch :
    state.candidatePages.toNat ≤ (countEpochCandidate ctx state pages).candidatePages.toNat := by
  unfold countEpochCandidate
  split_ifs
  · change _ ≤ (parpSaturatingAdd _ _).toNat
    rw [saturatingAdd_toNat]
    omega
  · exact le_rfl

theorem allowed_scan {config : ParpTierRuntimeConfig} {applies upgrade : Bool}
    (h : budgetAllowed ctx state config pages applies upgrade = true) :
    parpEffectiveTierBudgetAllows (ctx.used upgrade) ctx.candidatePages pages
      (config.batchPages upgrade) (config.ratio upgrade) = true :=
  (Bool.and_eq_true _ _ ▸ h : _ ∧ _).1

theorem allowed_epoch {config : ParpTierRuntimeConfig} {upgrade : Bool}
    (h : budgetAllowed ctx state config pages true upgrade = true) :
    parpEffectiveTierBudgetAllows (state.used upgrade) state.candidatePages pages
      (config.epochPages upgrade) (config.ratio upgrade) = true :=
  (Bool.and_eq_true _ _ ▸ h : _ ∧ _).2

end

def ScanWithin (config : ParpTierRuntimeConfig) (ctx : ParpTierScanCtx) : Prop :=
  ∀ upgrade, Within (ctx.used upgrade) ctx.candidatePages (config.batchPages upgrade)
    (config.ratio upgrade)

def EpochWithin (config : ParpTierRuntimeConfig) (state : ParpEffectiveTierState) : Prop :=
  ∀ upgrade, Within (state.used upgrade) state.candidatePages (config.epochPages upgrade)
    (config.ratio upgrade)

inductive Charged (ctx : ParpTierScanCtx) (state : ParpEffectiveTierState) (pages : UInt64)
    (reserved : Reserved) : Prop
  | nothing (hactive : reserved.decision.reservationActive = false)
      (hstate : ∀ upgrade, reserved.state.used upgrade = state.used upgrade)
  | reservation (hactive : reserved.decision.reservationActive = true)
      (hctx : reserved.ctx = (countCandidate ctx pages).setUsed
        (ctx.used reserved.decision.reservationUpgrade + pages)
        reserved.decision.reservationUpgrade)
      (hstate : reserved.state = (countEpochCandidate ctx state pages).setUsed
        (state.used reserved.decision.reservationUpgrade + pages)
        reserved.decision.reservationUpgrade)
      (hscan : (ctx.used reserved.decision.reservationUpgrade + pages).toNat =
        (ctx.used reserved.decision.reservationUpgrade).toNat + pages.toNat)
      (hepoch : (state.used reserved.decision.reservationUpgrade + pages).toNat =
        (state.used reserved.decision.reservationUpgrade).toNat + pages.toNat)

theorem readConfig_some {config config' : ParpTierRuntimeConfig}
    {read : Option ParpTierRuntimeConfig} (h : readConfig config read = some config') :
    config' = config := by
  cases read with
  | none => cases h
  | some _ => exact (Option.some.inj h).symm

theorem decide_charged (ctx : ParpTierScanCtx) (state : ParpEffectiveTierState)
    (input : DecideInput) :
    Charged ctx state input.pages (parpEffectiveTierDecide ctx state input) := by
  cases decide_cases ctx state input with
  | kept huntouched hdirection hactual =>
    refine .nothing huntouched.reservation ?_
    intro upgrade
    rw [huntouched.state, countEpochCandidate_used]
  | counted config' upgrade hcase hground hactual =>
    refine .nothing hcase.reservation ?_
    intro other
    rw [hcase.state, countEpochCandidate_used]
  | applied config' upgrade hcase hground hnative hactual =>
    obtain ⟨hsum, -⟩ := within_of_allows (allowed_scan _ _ _ hcase.budget)
    obtain ⟨hsumEpoch, -⟩ := within_of_allows (allowed_epoch _ _ _ hcase.budget)
    have hctx := hcase.ctx
    have hstate := hcase.state
    rw [countCandidate_used] at hsum hctx
    rw [countEpochCandidate_used] at hsumEpoch hstate
    refine .reservation hcase.reservation ?_ ?_ ?_ ?_
    · rw [hcase.reservationUpgrade]
      exact hctx
    · rw [hcase.reservationUpgrade]
      exact hstate
    · rw [hcase.reservationUpgrade]
      exact hsum
    · rw [hcase.reservationUpgrade]
      exact hsumEpoch

variable {config : ParpTierRuntimeConfig} {run : BudgetRun}

theorem decide_budget {ctx : ParpTierScanCtx} {state : ParpEffectiveTierState} {input : DecideInput}
    (hconfig : ∀ config', input.config = some config' → config' = config)
    (hscan : ScanWithin config ctx) (hepoch : EpochWithin config state) :
    ScanWithin config (parpEffectiveTierDecide ctx state input).ctx ∧
      EpochWithin config (parpEffectiveTierDecide ctx state input).state ∧
      Charged ctx state input.pages (parpEffectiveTierDecide ctx state input) := by
  refine (and_assoc.1 ⟨?_, decide_charged ctx state input⟩)
  have hcounted : ScanWithin config (countCandidate ctx input.pages) := by
    intro upgrade
    rw [countCandidate_used]
    exact (hscan upgrade).mono le_rfl (candidates_le_count ctx input.pages)
  have hcountedEpoch : EpochWithin config (countEpochCandidate ctx state input.pages) := by
    intro upgrade
    rw [countEpochCandidate_used]
    exact (hepoch upgrade).mono le_rfl (candidates_le_countEpoch ctx state input.pages)
  cases decide_cases ctx state input with
  | kept huntouched hdirection hactual =>
    rw [huntouched.ctx, huntouched.state]
    exact ⟨hcounted, hcountedEpoch⟩
  | counted config' upgrade hcase hground hactual =>
    obtain rfl := hconfig config' hground.configRead
    obtain ⟨-, hwithin⟩ := within_of_allows (allowed_scan _ _ _ hcase.budget)
    rw [hcase.ctx, hcase.state]
    refine ⟨?_, hcountedEpoch⟩
    intro other
    rw [ctx_setUsed_used, ctx_setUsed_candidates]
    split_ifs with hsame
    · exact hsame ▸ hwithin
    · exact hcounted other
  | applied config' upgrade hcase hground hnative hactual =>
    obtain rfl := hconfig config' hground.configRead
    obtain ⟨-, hwithin⟩ := within_of_allows (allowed_scan _ _ _ hcase.budget)
    obtain ⟨-, hwithinEpoch⟩ := within_of_allows (allowed_epoch _ _ _ hcase.budget)
    refine ⟨?_, ?_⟩
    · rw [hcase.ctx]
      intro other
      rw [ctx_setUsed_used, ctx_setUsed_candidates]
      split_ifs with hsame
      · exact hsame ▸ hwithin
      · exact hcounted other
    · rw [hcase.state]
      intro other
      rw [state_setUsed_used, state_setUsed_candidates]
      split_ifs with hsame
      · exact hsame ▸ hwithinEpoch
      · exact hcountedEpoch other

theorem rollEpoch_used (state : ParpEffectiveTierState) (input : PrepareInput) (upgrade : Bool) :
    (skipZeroTag (rollEpoch state input)).used upgrade =
      if EpochRolls state input then 0 else state.used upgrade := by
  have hskip : ∀ state' : ParpEffectiveTierState,
      (skipZeroTag state').used upgrade = state'.used upgrade := by
    intro state'
    unfold skipZeroTag
    split_ifs <;> cases upgrade <;> rfl
  rw [hskip]
  unfold rollEpoch
  split_ifs <;> cases upgrade <;> rfl

theorem rollEpoch_candidates (state : ParpEffectiveTierState) (input : PrepareInput)
    (h : ¬ EpochRolls state input) :
    (skipZeroTag (rollEpoch state input)).candidatePages = state.candidatePages := by
  unfold rollEpoch skipZeroTag
  rw [if_neg h]
  split_ifs <;> rfl

theorem prepare_used (state : ParpEffectiveTierState) (input : PrepareInput) :
    (∀ upgrade, (parpEffectiveTierPrepare state input).1.used upgrade = 0) ∧
      if (parpEffectiveTierPrepare state input).1.enabled = true ∧ EpochRolls state input then
        ∀ upgrade, (parpEffectiveTierPrepare state input).2.used upgrade = 0
      else
        (∀ upgrade, (parpEffectiveTierPrepare state input).2.used upgrade = state.used upgrade) ∧
          (parpEffectiveTierPrepare state input).2.candidatePages = state.candidatePages := by
  unfold parpEffectiveTierPrepare
  split
  · refine ⟨fun upgrade => by cases upgrade <;> rfl, ?_⟩
    rw [if_neg (fun h => Bool.false_ne_true h.1)]
    exact ⟨fun _ => rfl, rfl⟩
  · split
    · refine ⟨fun upgrade => by cases upgrade <;> rfl, ?_⟩
      rw [if_neg (fun h => Bool.false_ne_true h.1)]
      exact ⟨fun _ => rfl, rfl⟩
    · refine ⟨fun upgrade => by cases upgrade <;> rfl, ?_⟩
      dsimp only
      split_ifs with hrolls
      · intro upgrade
        rw [rollEpoch_used, if_pos hrolls.2]
      · have hkeep : ¬ EpochRolls state input := fun h => hrolls ⟨rfl, h⟩
        refine ⟨?_, rollEpoch_candidates state input hkeep⟩
        intro upgrade
        rw [rollEpoch_used, if_neg hkeep]

theorem chargedPages_cons (charge : Charge) (charges : List Charge) (upgrade : Bool) :
    chargedPages (charge :: charges) upgrade =
      (if charge.upgrade = upgrade then charge.pages.toNat else 0) +
        chargedPages charges upgrade := by
  unfold chargedPages
  by_cases h : charge.upgrade = upgrade
  · simp [h]
  · simp [h]

def LiveCharge (run : BudgetRun) (scan : ℕ) (decision : ParpTierDecision) : Prop :=
  decision.reservationActive = true →
    (∃ older, run.charges =
      { scan := scan, upgrade := decision.reservationUpgrade, pages := decision.folioNrPages } ::
        older) ∧
    decision.folioNrPages.toNat ≤ ((run.ctxs scan).used decision.reservationUpgrade).toNat

/-- The invariant of the runs. The counters equal the charges; that the newest charge is the live
decision's is what a cancel needs. -/
structure BudgetInv (config : ParpTierRuntimeConfig) (run : BudgetRun) : Prop where
  scan : ∀ scan, ScanWithin config (run.ctxs scan)
  epoch : EpochWithin config run.state
  charged : ∀ upgrade, (run.state.used upgrade).toNat = chargedPages run.charges upgrade
  live : ∀ scan decision, run.live = some (scan, decision) → LiveCharge run scan decision
  noFault : run.fault = false

variable {scan : ℕ} {decision : ParpTierDecision}

theorem scanWithin_update {ctxs : ℕ → ParpTierScanCtx} (h : ∀ scan, ScanWithin config (ctxs scan))
    {ctx : ParpTierScanCtx} (hctx : ScanWithin config ctx) :
    ∀ other, ScanWithin config (Function.update ctxs scan ctx other) := by
  intro other
  by_cases hother : other = scan
  · rw [hother, Function.update_self]
    exact hctx
  · rw [Function.update_of_ne hother]
    exact h other

theorem prepareRun_inv
    (h : BudgetInv config run) (hlive : run.live = none) (scan : ℕ) (input : PrepareInput) :
    BudgetInv config (prepareRun config run scan input) := by
  unfold prepareRun
  dsimp only
  generalize hinput : ({ input with config := readConfig config input.config } : PrepareInput) =
    input'
  obtain ⟨hctx, hstate⟩ := prepare_used run.state input'
  have hscan : ScanWithin config (parpEffectiveTierPrepare run.state input').1 := by
    intro upgrade
    rw [hctx]
    exact within_zero _ _ _
  refine ⟨scanWithin_update h.scan hscan, ?_, ?_, ?_, h.noFault⟩
  · intro upgrade
    change Within ((parpEffectiveTierPrepare run.state input').2.used upgrade) _ _ _
    split_ifs at hstate with hrolls
    · rw [hstate]
      exact within_zero _ _ _
    · change Within _ (parpEffectiveTierPrepare run.state input').2.candidatePages _ _
      rw [hstate.1, hstate.2]
      exact h.epoch upgrade
  · intro upgrade
    change ((parpEffectiveTierPrepare run.state input').2.used upgrade).toNat =
      chargedPages (if (parpEffectiveTierPrepare run.state input').1.enabled = true ∧
        EpochRolls run.state input' then [] else run.charges) upgrade
    split_ifs at hstate ⊢ with hrolls
    · rw [hstate]
      rfl
    · rw [hstate.1]
      exact h.charged upgrade
  · intro scan' decision hsome
    change run.live = _ at hsome
    rw [hlive] at hsome
    cases hsome

theorem decideRun_inv (h : BudgetInv config run) (scan : ℕ) (input : DecideInput) :
    BudgetInv config (decideRun config run scan input) := by
  unfold decideRun
  dsimp only
  generalize hinput : ({ input with config := readConfig config input.config } : DecideInput) =
    input'
  have hconfig : ∀ config', input'.config = some config' → config' = config := by
    intro config' hsome
    rw [← hinput] at hsome
    exact readConfig_some hsome
  have hpages : input.pages = input'.pages := by rw [← hinput]
  have hfolio : (parpEffectiveTierDecide (run.ctxs scan) run.state input').decision.folioNrPages =
      input'.pages := rfl
  obtain ⟨hscan, hepoch, hcharged⟩ := decide_budget hconfig (h.scan scan) h.epoch
  rw [hpages]
  generalize parpEffectiveTierDecide (run.ctxs scan) run.state input' = reserved at *
  refine ⟨scanWithin_update h.scan hscan, hepoch, ?_, ?_, h.noFault⟩
  · intro upgrade
    change (reserved.state.used upgrade).toNat = chargedPages (if _ then _ else _) upgrade
    cases hcharged with
    | nothing hactive hstate =>
      rw [hactive, hstate]
      exact h.charged upgrade
    | reservation hactive hctx hstate hscanSum hepochSum =>
      rw [if_pos hactive, chargedPages_cons, hstate, state_setUsed_used, ← h.charged upgrade]
      dsimp only
      split_ifs with hsame
      · rw [hepochSum, hsame]
        omega
      · rw [countEpochCandidate_used]
        omega
  · rintro scan' decision hsome hactive
    obtain ⟨rfl, rfl⟩ := Prod.mk.inj (Option.some.inj hsome)
    cases hcharged with
    | nothing hnone _ =>
      rw [hnone] at hactive
      cases hactive
    | reservation _ hctx hstate hscanSum hepochSum =>
      refine ⟨⟨run.charges, ?_⟩, ?_⟩
      · change (if _ then _ else _) = _
        rw [if_pos hactive, hfolio]
      · change _ ≤ ((Function.update run.ctxs scan reserved.ctx scan).used _).toNat
        rw [Function.update_self, hctx, ctx_setUsed_used, if_pos rfl, hfolio]
        omega

theorem racedDecision_reservation (decision : ParpTierDecision) (input : CloseInput) :
    (racedDecision decision input).reservationActive = decision.reservationActive ∧
      (racedDecision decision input).reservationUpgrade = decision.reservationUpgrade ∧
      (racedDecision decision input).folioNrPages = decision.folioNrPages := by
  unfold racedDecision
  cases input.raced with
  | none => exact ⟨rfl, rfl, rfl⟩
  | some _ => exact ⟨rfl, rfl, rfl⟩

/-- What closing a decision does to the counters, with the status its charge gets. -/
inductive Settled (ctx : ParpTierScanCtx) (state : ParpEffectiveTierState)
    (decision : ParpTierDecision) (closed : Closed) (status : Option ChargeStatus) : Prop
  | kept (hctx : closed.ctx = ctx) (hstate : closed.state = state)
      (hfault : closed.fault = false)
      (hstatus : decision.reservationActive = true → status ≠ none)
  | refunded (hactive : decision.reservationActive = true)
      (hctx : closed.ctx = ctx.setUsed
        (ctx.used decision.reservationUpgrade - decision.folioNrPages)
        decision.reservationUpgrade)
      (hstate : closed.state = state.setUsed
        (state.used decision.reservationUpgrade - decision.folioNrPages)
        decision.reservationUpgrade)
      (hfault : closed.fault = false) (hstatus : status = none)

theorem cancel_settled {ctx : ParpTierScanCtx} {state : ParpEffectiveTierState} (input : CloseInput)
    (hctx : decision.reservationActive = true →
      decision.folioNrPages.toNat ≤ (ctx.used decision.reservationUpgrade).toNat)
    (hstate : decision.reservationActive = true →
      decision.folioNrPages.toNat ≤ (state.used decision.reservationUpgrade).toNat) :
    Settled ctx state decision
      (parpEffectiveTierCancelReservation ctx state decision input.view input.runEpoch)
      (cancelStatus ctx decision input) := by
  unfold parpEffectiveTierCancelReservation cancelStatus
  dsimp only
  by_cases hactive : decision.reservationActive = false
  · rw [if_pos hactive]
    refine .kept rfl rfl rfl ?_
    intro hsome
    rw [hactive] at hsome
    cases hsome
  · have hon : decision.reservationActive = true := eq_true_of_ne_false hactive
    rw [if_neg hactive]
    generalize parpEffectiveTierReleaseEpoch input.view decision.reservationUpgrade ctx.epochTag
      input.runEpoch = released
    cases released with
    | mk folio freed =>
      cases freed with
      | false => exact .kept rfl rfl rfl (fun _ h => by cases h)
      | true =>
        have hroom : ¬ (ctx.used decision.reservationUpgrade < decision.folioNrPages ∨
            state.used decision.reservationUpgrade < decision.folioNrPages) := by
          intro hshort
          cases hshort with
          | inl h =>
            have hlt := UInt64.lt_iff_toNat_lt.1 h
            have hle := hctx hon
            omega
          | inr h =>
            have hlt := UInt64.lt_iff_toNat_lt.1 h
            have hle := hstate hon
            omega
        dsimp only
        rw [if_neg hroom]
        exact .refunded hon rfl rfl rfl rfl

theorem BudgetInv.holds (h : BudgetInv config run) (hlive : run.live = some (scan, decision))
    (hactive : decision.reservationActive = true) :
    decision.folioNrPages.toNat ≤ ((run.ctxs scan).used decision.reservationUpgrade).toNat ∧
      decision.folioNrPages.toNat ≤ (run.state.used decision.reservationUpgrade).toNat := by
  obtain ⟨⟨older, hcharges⟩, hctx⟩ := h.live scan decision hlive hactive
  refine ⟨hctx, ?_⟩
  rw [h.charged, hcharges, chargedPages_cons, if_pos rfl]
  exact Nat.le_add_right _ _

theorem closeRun_inv (h : BudgetInv config run) (hlive : run.live = some (scan, decision))
    {closed : Closed} {status : Option ChargeStatus}
    (hsettled : Settled (run.ctxs scan) run.state decision closed status) :
    BudgetInv config (closeRun run scan closed decision.reservationActive status) := by
  have hnone : ∀ scan' decision', (closeRun run scan closed decision.reservationActive
      status).live = some (scan', decision') → LiveCharge (closeRun run scan closed
        decision.reservationActive status) scan' decision' := by
    intro scan' decision' hsome
    cases hsome
  have hfaults : ∀ fault, fault = false → (run.fault || fault) = false := by
    intro fault hfault
    rw [h.noFault, hfault]
    rfl
  cases hsettled with
  | kept hctx hstate hfault hstatus =>
    refine ⟨?_, ?_, ?_, hnone, hfaults _ hfault⟩
    · apply scanWithin_update h.scan
      rw [hctx]
      exact h.scan scan
    · intro upgrade
      change Within (closed.state.used upgrade) closed.state.candidatePages _ _
      rw [hstate]
      exact h.epoch upgrade
    · intro upgrade
      change (closed.state.used upgrade).toNat =
        chargedPages (if decision.reservationActive = true then _ else _) upgrade
      rw [hstate, h.charged]
      split_ifs with hactive
      · obtain ⟨⟨older, hcharges⟩, -⟩ := h.live scan decision hlive hactive
        cases status with
        | none => exact absurd rfl (hstatus hactive)
        | some status =>
          rw [hcharges]
          change _ = chargedPages (_ :: older) upgrade
          rw [chargedPages_cons, chargedPages_cons]
      · rfl
  | refunded hactive hctx hstate hfault hstatus =>
    obtain ⟨hscanHeld, hepochHeld⟩ := h.holds hlive hactive
    have hscanLeft := UInt64.toNat_sub_of_le _ _ (UInt64.le_iff_toNat_le.2 hscanHeld)
    have hepochLeft := UInt64.toNat_sub_of_le _ _ (UInt64.le_iff_toNat_le.2 hepochHeld)
    refine ⟨?_, ?_, ?_, hnone, hfaults _ hfault⟩
    · apply scanWithin_update h.scan
      rw [hctx]
      intro upgrade
      rw [ctx_setUsed_used, ctx_setUsed_candidates]
      split_ifs with hsame
      · subst hsame
        exact (h.scan scan _).mono (by omega) le_rfl
      · exact h.scan scan upgrade
    · intro upgrade
      change Within (closed.state.used upgrade) closed.state.candidatePages _ _
      rw [hstate, state_setUsed_used, state_setUsed_candidates]
      split_ifs with hsame
      · subst hsame
        exact (h.epoch _).mono (by omega) le_rfl
      · exact h.epoch upgrade
    · intro upgrade
      obtain ⟨⟨older, hcharges⟩, -⟩ := h.live scan decision hlive hactive
      have hbefore := h.charged upgrade
      rw [hcharges, chargedPages_cons] at hbefore
      change (closed.state.used upgrade).toNat =
        chargedPages (if decision.reservationActive = true then _ else _) upgrade
      rw [hstate, state_setUsed_used, if_pos hactive, hstatus, hcharges]
      change _ = chargedPages older upgrade
      dsimp only at hbefore
      split_ifs at hbefore ⊢ with hsame
      · subst hsame
        omega
      · omega

theorem finish_settled {ctx : ParpTierScanCtx} {state : ParpEffectiveTierState} (input : CloseInput)
    (hctx : decision.reservationActive = true →
      decision.folioNrPages.toNat ≤ (ctx.used decision.reservationUpgrade).toNat)
    (hstate : decision.reservationActive = true →
      decision.folioNrPages.toNat ≤ (state.used decision.reservationUpgrade).toNat) :
    Settled ctx state decision
      (parpEffectiveTierFinish ctx state decision input.view input.runEpoch input.sortResult)
      (if reservationCommitted decision input.sortResult then some .committed
      else cancelStatus ctx decision input) := by
  unfold parpEffectiveTierFinish
  by_cases hcommitted : reservationCommitted decision input.sortResult = true
  · rw [if_pos hcommitted, if_neg]
    · exact .kept rfl rfl rfl (fun _ h => by cases h)
    · intro hcancel
      rw [hcommitted] at hcancel
      cases hcancel.2
  · have hopen := Bool.eq_false_of_not_eq_true hcommitted
    rw [if_neg hcommitted]
    split_ifs with hcancel
    · exact cancel_settled input hctx hstate
    · refine .kept rfl rfl rfl ?_
      intro hactive
      exact absurd ⟨hactive, hopen⟩ hcancel

theorem BudgetInv.raced (h : BudgetInv config run) (hlive : run.live = some (scan, decision))
    (input : CloseInput) :
    BudgetInv config { run with live := some (scan, racedDecision decision input) } := by
  refine ⟨h.scan, h.epoch, h.charged, ?_, h.noFault⟩
  intro scan' decision' hsome hactive
  obtain ⟨rfl, rfl⟩ := Prod.mk.inj (Option.some.inj hsome)
  obtain ⟨hon, hupgrade, hpages⟩ := racedDecision_reservation decision input
  rw [hon] at hactive
  rw [hupgrade, hpages]
  exact h.live scan decision hlive hactive

theorem feedback_used (state : ParpEffectiveTierState) (stateEpoch runEpoch : UInt8)
    (isolated reclaimed : UInt64) :
    (∀ upgrade, (parpEffectiveTierFeedback state stateEpoch runEpoch isolated reclaimed).used
      upgrade = state.used upgrade) ∧
    (parpEffectiveTierFeedback state stateEpoch runEpoch isolated reclaimed).candidatePages =
      state.candidatePages := by
  unfold parpEffectiveTierFeedback
  refine ⟨?_, ?_⟩
  · intro upgrade
    split_ifs <;> cases upgrade <;> rfl
  · split_ifs <;> rfl

theorem feedback_inv (h : BudgetInv config run)
    (stateEpoch runEpoch : UInt8) (isolated reclaimed : UInt64) :
    BudgetInv config { run with
      state := parpEffectiveTierFeedback run.state stateEpoch runEpoch isolated reclaimed } := by
  obtain ⟨hused, hcandidates⟩ := feedback_used run.state stateEpoch runEpoch isolated reclaimed
  refine ⟨h.scan, ?_, ?_, h.live, h.noFault⟩
  · intro upgrade
    dsimp only
    rw [hused, hcandidates]
    exact h.epoch upgrade
  · intro upgrade
    dsimp only
    rw [hused]
    exact h.charged upgrade

theorem budgetStep_inv (config : ParpTierRuntimeConfig) (run : BudgetRun) (op : BudgetOp)
    (h : BudgetInv config run) : BudgetInv config (budgetStep config run op).2 := by
  cases hlive : run.live with
  | none =>
    cases op with
    | prepare scan input =>
      simp only [budgetStep, hlive]
      exact prepareRun_inv h hlive scan input
    | decide scan input =>
      simp only [budgetStep, hlive]
      split_ifs
      · exact decideRun_inv h scan input
      · exact h
    | finish input =>
      simp only [budgetStep, hlive]
      exact h
    | cancel input =>
      simp only [budgetStep, hlive]
      exact h
    | feedback stateEpoch runEpoch isolated reclaimed =>
      exact feedback_inv h stateEpoch runEpoch isolated reclaimed
  | some pair =>
    cases pair with
    | mk scan decision =>
      cases op with
      | prepare _ _ =>
        simp only [budgetStep, hlive]
        exact h
      | decide _ _ =>
        simp only [budgetStep, hlive]
        exact h
      | finish input =>
        simp only [budgetStep, hlive]
        have hraced := h.raced hlive input
        apply closeRun_inv hraced rfl
        apply finish_settled
        · intro hactive
          exact (hraced.holds rfl hactive).1
        · intro hactive
          exact (hraced.holds rfl hactive).2
      | cancel input =>
        simp only [budgetStep, hlive]
        apply closeRun_inv h hlive
        apply cancel_settled
        · intro hactive
          exact (h.holds hlive hactive).1
        · intro hactive
          exact (h.holds hlive hactive).2
      | feedback stateEpoch runEpoch isolated reclaimed =>
        exact feedback_inv h stateEpoch runEpoch isolated reclaimed

theorem budgetInv_initial (config : ParpTierRuntimeConfig) : BudgetInv config {} := by
  have hzero : ∀ upgrade, ({} : ParpTierScanCtx).used upgrade = 0 := by
    intro upgrade
    cases upgrade <;> rfl
  have hzeroState : ∀ upgrade, ({} : ParpEffectiveTierState).used upgrade = 0 := by
    intro upgrade
    cases upgrade <;> rfl
  refine ⟨?_, ?_, ?_, ?_, rfl⟩
  · intro scan upgrade
    rw [hzero]
    exact within_zero _ _ _
  · intro upgrade
    rw [hzeroState]
    exact within_zero _ _ _
  · intro upgrade
    rw [hzeroState]
    rfl
  · intro scan decision hsome
    cases hsome

theorem run_inv (config : ParpTierRuntimeConfig) (ops : List BudgetOp) :
    BudgetInv config (after (budgetStep config) {} ops) :=
  after_invariant (budgetStep_inv config) (budgetInv_initial config) ops

def Refunds (run : BudgetRun) (op : BudgetOp) : Prop :=
  match op, run.live with
  | .finish input, some (scan, decision) =>
    decision.reservationActive = true ∧
      reservationCommitted (racedDecision decision input) input.sortResult = false ∧
      cancelStatus (run.ctxs scan) (racedDecision decision input) input = none
  | .cancel input, some (scan, decision) =>
    decision.reservationActive = true ∧ cancelStatus (run.ctxs scan) decision input = none
  | _, _ => False

instance (run : BudgetRun) (op : BudgetOp) : Decidable (Refunds run op) := by
  unfold Refunds
  split <;> infer_instance

theorem refund_restores {ctx : ParpTierScanCtx} {state : ParpEffectiveTierState} {pages : UInt64}
    {reserved : Reserved} (hcharged : Charged ctx state pages reserved)
    (hpages : reserved.decision.folioNrPages = pages)
    (hsame : decision.reservationActive = reserved.decision.reservationActive ∧
      decision.reservationUpgrade = reserved.decision.reservationUpgrade ∧
      decision.folioNrPages = reserved.decision.folioNrPages) {closed : Closed}
    (hsettled : Settled reserved.ctx reserved.state decision closed none)
    (hactive : reserved.decision.reservationActive = true) (upgrade : Bool) :
    closed.ctx.used upgrade = ctx.used upgrade ∧
      closed.state.used upgrade = state.used upgrade := by
  obtain ⟨hon, hupgrade, hfolio⟩ := hsame
  cases hsettled with
  | kept _ _ _ hstatus => exact absurd rfl (hstatus (hon.trans hactive))
  | refunded _ hctxClosed hstateClosed _ _ =>
    cases hcharged with
    | nothing hnone _ =>
      rw [hnone] at hactive
      cases hactive
    | reservation _ hctx hstate _ _ =>
      rw [hupgrade, hfolio, hpages] at hctxClosed hstateClosed
      rw [hctxClosed, hstateClosed, hctx, hstate]
      simp only [ctx_setUsed_used, state_setUsed_used, if_true, countCandidate_used,
        countEpochCandidate_used, UInt64.add_sub_cancel]
      split_ifs with hside
      · rw [hside]
        exact ⟨rfl, rfl⟩
      · exact ⟨rfl, rfl⟩

theorem refund_after_decide (h : BudgetInv config run) {input : DecideInput} {op : BudgetOp}
    (hrefunds : Refunds (decideRun config run scan input) op) (other : ℕ) (upgrade : Bool) :
    ((budgetStep config (decideRun config run scan input) op).2.ctxs other).used upgrade =
        (run.ctxs other).used upgrade ∧
      (budgetStep config (decideRun config run scan input) op).2.state.used upgrade =
        run.state.used upgrade := by
  have hinv := decideRun_inv h scan input
  obtain ⟨read, hread⟩ : ∃ read : DecideInput,
      read = { input with config := readConfig config input.config } := ⟨_, rfl⟩
  obtain ⟨reserved, hreserved⟩ : ∃ reserved,
      reserved = parpEffectiveTierDecide (run.ctxs scan) run.state read := ⟨_, rfl⟩
  have hconfig : ∀ config', read.config = some config' → config' = config := by
    intro config' hsome
    rw [hread] at hsome
    exact readConfig_some hsome
  have hcharged : Charged (run.ctxs scan) run.state input.pages reserved := by
    obtain ⟨-, -, hcharged⟩ := decide_budget hconfig (h.scan scan) h.epoch
    rw [← hreserved, hread] at hcharged
    exact hcharged
  have hpages : reserved.decision.folioNrPages = input.pages := by
    rw [hreserved, hread]
    rfl
  obtain ⟨decided, hdecided⟩ : ∃ decided, decided = decideRun config run scan input := ⟨_, rfl⟩
  have hlive : decided.live = some (scan, reserved.decision) := by
    rw [hdecided, hreserved, hread]
    rfl
  have hctxs : decided.ctxs = Function.update run.ctxs scan reserved.ctx := by
    rw [hdecided, hreserved, hread]
    rfl
  have hstate : decided.state = reserved.state := by
    rw [hdecided, hreserved, hread]
    rfl
  rw [← hdecided] at hrefunds hinv ⊢
  have hself : decided.ctxs scan = reserved.ctx := by rw [hctxs, Function.update_self]
  -- the contexts of the other scans are not touched by either operation
  have hrestored : ∀ decision closed, (decision.reservationActive =
        reserved.decision.reservationActive ∧
      decision.reservationUpgrade = reserved.decision.reservationUpgrade ∧
      decision.folioNrPages = reserved.decision.folioNrPages) →
      Settled (decided.ctxs scan) decided.state decision closed none →
      reserved.decision.reservationActive = true →
      ((Function.update decided.ctxs scan closed.ctx) other).used upgrade =
          (run.ctxs other).used upgrade ∧
        closed.state.used upgrade = run.state.used upgrade := by
    intro decision closed hsame hsettled hactive
    rw [hself, hstate] at hsettled
    obtain ⟨hctx, hepoch⟩ := refund_restores hcharged hpages hsame hsettled hactive upgrade
    refine ⟨?_, hepoch⟩
    by_cases hother : other = scan
    · rw [hother, Function.update_self]
      exact hctx
    · rw [Function.update_of_ne hother, hctxs, Function.update_of_ne hother]
  cases op with
  | prepare _ _ => exact hrefunds.elim
  | decide _ _ => exact hrefunds.elim
  | feedback _ _ _ _ => exact hrefunds.elim
  | finish close =>
    simp only [Refunds, hlive] at hrefunds
    obtain ⟨hactive, hopen, hstatus⟩ := hrefunds
    have hraced := hinv.raced hlive close
    have hsettled := finish_settled close (fun hon => (hraced.holds rfl hon).1)
      (fun hon => (hraced.holds rfl hon).2)
    rw [if_neg (Bool.eq_false_iff.1 hopen), hstatus] at hsettled
    simp only [budgetStep, hlive]
    exact hrestored _ _ (racedDecision_reservation _ close) hsettled hactive
  | cancel close =>
    simp only [Refunds, hlive] at hrefunds
    obtain ⟨hactive, hstatus⟩ := hrefunds
    have hsettled := cancel_settled close (fun hon => (hinv.holds hlive hon).1)
      (fun hon => (hinv.holds hlive hon).2)
    rw [hstatus] at hsettled
    simp only [budgetStep, hlive]
    exact hrestored _ _ ⟨rfl, rfl, rfl⟩ hsettled hactive

/-- At every point of every run the pages of a scan are within its batch limit and ratio, those of
the epoch within the epoch's, the epoch counters are the charges of the epoch, no reservation was
closed through the invariant fault, and a refund restores the counters its decision charged. -/
theorem page_budgets (config : ParpTierRuntimeConfig) (ops : List BudgetOp) :
    (∀ scan, ScanWithin config ((after (budgetStep config) {} ops).ctxs scan)) ∧
    EpochWithin config (after (budgetStep config) {} ops).state ∧
    (∀ upgrade, ((after (budgetStep config) {} ops).state.used upgrade).toNat =
      chargedPages (after (budgetStep config) {} ops).charges upgrade) ∧
    (after (budgetStep config) {} ops).fault = false ∧
    ∀ scan input op,
      Refunds (after (budgetStep config) {} (ops ++ [.decide scan input])) op →
      (after (budgetStep config) {} ops).live = none →
      ∀ other upgrade,
        ((after (budgetStep config) {} (ops ++ [.decide scan input, op])).ctxs other).used
            upgrade = ((after (budgetStep config) {} ops).ctxs other).used upgrade ∧
          (after (budgetStep config) {} (ops ++ [.decide scan input, op])).state.used upgrade =
            (after (budgetStep config) {} ops).state.used upgrade := by
  have hinv := run_inv config ops
  refine ⟨hinv.scan, hinv.epoch, hinv.charged, hinv.noFault, ?_⟩
  intro scan input op hrefunds hlive other upgrade
  rw [after_append] at hrefunds ⊢
  generalize after (budgetStep config) {} ops = run at *
  have hdecided : (budgetStep config run (.decide scan input)).2 =
      if (run.ctxs scan).enabled then decideRun config run scan input else run := by
    simp only [budgetStep, hlive]
  simp only [after_cons, after_nil, hdecided] at hrefunds ⊢
  split_ifs at hrefunds ⊢ with henabled
  · exact refund_after_decide hinv hrefunds other upgrade
  · cases op with
    | prepare _ _ => exact hrefunds.elim
    | decide _ _ => exact hrefunds.elim
    | feedback _ _ _ _ => exact hrefunds.elim
    | finish _ =>
      simp only [Refunds, hlive] at hrefunds
    | cancel _ =>
      simp only [Refunds, hlive] at hrefunds

/-- A protected folio whose move fails gives its page back. -/
example : Refunds (after (budgetStep parpTierConfig) {}
    [.prepare 0 { mode := .protectOnly, config := some parpTierConfig, reclaimPriority := 12,
                  nrToReclaim := 32, nrReclaimed := 0, minSeq := 4, runEpoch := 1 },
      .decide 0 { hotInput with claim := .acquired hotExt.endWrite }])
    (.finish { view := .acquired { hotExt with
                 decisionEpochs := { upgrade := 1, stateEpoch := 1 } },
               runEpoch := 1 }) := by
  decide +kernel

end Parp.EffectiveTierBudget
