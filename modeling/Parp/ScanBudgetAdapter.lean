import Parp.AtomicPrograms
import Parp.ScanBudgetGuard
import Parp.ScanBudgetLaws
import Parp.SnapshotUpdates

set_option autoImplicit false

/-!
# The scan budget of a reclaim

`mm/parp/adapter/scan_budget_adapter.c`: a reclaim asks for its budget while the snapshot, the guard
and the configuration change under it. The sequence number, the counters and the trace are left out.
-/
namespace Parp.ScanBudgetAdapter

open Parp Snapshot SnapshotUpdates ScanBudgetInput EffectiveTier ScanBudget ScanBudgetGuard
  TransitionRuns AtomicPrograms List

structure Memcg where
  isRoot : Bool
  ino : UInt64

def parpMemcgDomainId : Option Memcg → UInt64
  | none => 0
  | some memcg => if memcg.isRoot then 0 else memcg.ino

def parpReclaimScope (targetMemcg : Option Memcg) (globalKswapd proactive : Bool) :
    ParpReclaimScope :=
  if targetMemcg.all Memcg.isRoot then if globalKswapd then .globalKswapd else .globalDirect
  else if proactive then .proactiveMemcg else .targetMemcg

def parpPressureFromPriority (priority : ℤ) : ParpPressureLevel :=
  if priority ≤ 1 then .critical else if priority ≤ 4 then .high
  else if priority ≤ 8 then .medium else .low

/-- The arguments of `parp_adapter_prepare_scan_budget`, and the time it reads. -/
structure Call where
  targetMemcg : Option Memcg
  globalKswapd : Bool := false
  proactive : Bool := false
  reclaimPriority : ℤ
  nativeNrToScan : UInt64
  nowNs : UInt64

def Call.domainId (call : Call) : UInt64 := parpMemcgDomainId call.targetMemcg

def Call.blank (call : Call) : ParpScanBudgetInput where
  domainId := call.domainId
  reclaimScope := parpReclaimScope call.targetMemcg call.globalKswapd call.proactive
  pressure := parpPressureFromPriority call.reclaimPriority
  nativeNrToScan := call.nativeNrToScan
  reclaimPriority := call.reclaimPriority
  nowNs := call.nowNs

def Call.input (call : Call) (active : Active) : ParpScanBudgetInput :=
  parpSnapshotFillScanBudgetInput active call.domainId call.nowNs call.blank

def passed (input : ParpScanBudgetInput) (allowed : Bool) : ParpScanBudgetInput :=
  if allowed then { input with flags := input.flags ||| parpScanInputCircuitOk } else input

def countsAgainst (input : ParpScanBudgetInput) (decision : ParpScanBudgetDecision) : Bool :=
  decide (decision.reason = .circuitBreaker) && hasFlag input parpScanInputCircuitOk

structure Memory where
  config : Config := {}
  active : Active := none
  guards : List ParpScanGuard := parpScanGuards

/-- A module parameter is read wherever the source names it, without a lock. -/
def param {β : Type} (field : Params → β) : Prog Memory β := .get fun m => field m.config.params

def atMost (left right : Params → UInt32) : Prog Memory Bool := do
  let left ← param left
  let right ← param right
  return left ≤ right

def parpScanConfigValidSteps : Prog Memory Bool := do
  unless ← atMost (·.minimumMultiplierQ15) (·.maximumMultiplierQ15) do return false
  unless (← param (·.maximumMultiplierQ15)) ≤ 2 * parpQ15Scale do return false
  unless ← atMost (·.foregroundMultiplierQ15) (·.maximumMultiplierQ15) do return false
  unless ← atMost (·.highProbabilityMultiplierQ15) (·.maximumMultiplierQ15) do return false
  unless ← atMost (·.mediumProbabilityMultiplierQ15) (·.maximumMultiplierQ15) do return false
  unless ← atMost (·.lowProbabilityMultiplierQ15) (·.maximumMultiplierQ15) do return false
  unless (← param (·.highProbabilityThresholdQ15)).toNat ≤ parpQ15One do return false
  atMost (·.mediumProbabilityThresholdQ15) (·.highProbabilityThresholdQ15)

def classSteps (input : ParpScanBudgetInput) : Prog Memory (UInt32 × ParpScanBudgetReason) := do
  let score := input.appUseScoreQ15.toUInt32
  if input.foreground then return (← param (·.foregroundMultiplierQ15), .foreground)
  if score ≥ (← param (·.highProbabilityThresholdQ15)) then
    return (← param (·.highProbabilityMultiplierQ15), .highPrior)
  if score ≥ (← param (·.mediumProbabilityThresholdQ15)) then
    return (← param (·.mediumProbabilityMultiplierQ15), .mediumPrior)
  return (← param (·.lowProbabilityMultiplierQ15), .lowPrior)

def raiseSteps (native proposed : UInt64) : Prog Memory (UInt64 × UInt32) := do
  unless proposed < (← param (·.minimumScanUnits)) do return (proposed, 0)
  let least ← param (·.minimumScanUnits)
  return (if native < least then native else least, clampMinFlag)

/-- The mode is what `parp_validate_scan_input` reads first, and the parameters what it reads last. -/
def parpValidateScanInputSteps (input : ParpScanBudgetInput) : Prog Memory ParpScanBudgetReason := do
  let mode ← Prog.get (·.config.scanBudgetMode)
  let invalid := parpValidateScanInput { scanBudgetMode := mode } input
  if invalid ≠ .native then return invalid
  return if ← parpScanConfigValidSteps then .native else .circuitBreaker

def proposeSteps (input : ParpScanBudgetInput) : Prog Memory ParpScanBudgetDecision := do
  let native := input.nativeNrToScan
  let (multiplier, reason) ← classSteps input
  let low ← param (·.minimumMultiplierQ15)
  let high ← param (·.maximumMultiplierQ15)
  let multiplier := underPressure (clampU32 multiplier low high) input.pressure
  let (raised, minFlag) ← raiseSteps native (parpScaleScanUnits native multiplier)
  let extra ← param (·.maximumExtraScanUnits)
  let most := maxUnits { maximumExtraScanUnits := extra } native
  return {
    valid := true
    nativeNrToScan := native
    proposedNrToScan := if raised > most then most else raised
    appliedNrToScan := native
    multiplierQ15 := multiplier
    confidenceQ15 := parpQ15One
    reason := reason
    reasonFlags := minFlag ||| if raised > most then clampMaxFlag else 0 }

def applySteps (input : ParpScanBudgetInput) (decision : ParpScanBudgetDecision) :
    Prog Memory ParpScanBudgetDecision := do
  unless (← Prog.get (·.config.scanBudgetMode)) = .apply do return decision
  if input.domainId = (← Prog.get (·.config.scanBudgetApplyDomain)) then
    return { decision with appliedNrToScan := decision.proposedNrToScan }
  return { decision with reasonFlags := decision.reasonFlags ||| applyDomainFlag }

/-- `parp_compute_scan_budget`, one step for each read of the configuration. -/
def parpComputeScanBudgetSteps (input : ParpScanBudgetInput) : Prog Memory ParpScanBudgetDecision := do
  let invalid ← parpValidateScanInputSteps input
  if invalid ≠ .native then return parpNativeDecision input invalid
  if input.nativeNrToScan = 0 then return { parpNativeDecision input .native with valid := true }
  if input.pressure = .critical then return parpNativeDecision input .pressureBypass
  let decision ← proposeSteps input
  applySteps input decision

def parpScanBudgetGuardStep (input : ParpScanBudgetInput) (valid : Bool) : Prog Memory Bool :=
  let ask (m : Memory) :=
    parpScanBudgetGuard m.guards input.domainId input.predictionGeneration valid
  .step (fun m => { m with guards := (ask m).2 }) fun m => .ret (ask m).1

def finishSteps (input : ParpScanBudgetInput) : Prog Memory ParpScanBudgetDecision := do
  let decision ← parpComputeScanBudgetSteps input
  if countsAgainst input decision then
    let _ ← parpScanBudgetGuardStep input false
  return decision

def parpAdapterPrepareScanBudget (call : Call) : Prog Memory ParpScanBudgetDecision := do
  let input ← Prog.get fun m => call.input m.active
  let allowed ← parpScanBudgetGuardStep input (ContextValid input)
  finishSteps (passed input allowed)

def parpAdapterApplyScanBudget (decision : ParpScanBudgetDecision) : UInt64 :=
  if decision.appliedNrToScan ≤ u64Max then decision.appliedNrToScan else u64Max

section

variable {active : Active} {call : Call} {input : ParpScanBudgetInput}

theorem fill_keeps (active : Active) (domainId nowNs : UInt64) (input : ParpScanBudgetInput) :
    let filled := parpSnapshotFillScanBudgetInput active domainId nowNs input
    filled.domainId = input.domainId ∧ filled.reclaimScope = input.reclaimScope ∧
    filled.pressure = input.pressure ∧ filled.nativeNrToScan = input.nativeNrToScan ∧
    filled.flags &&& parpScanInputCircuitOk = input.flags &&& parpScanInputCircuitOk := by
  have hother : parpScanInputBindPresent &&& parpScanInputCircuitOk = 0 ∧
      parpScanInputBindValid &&& parpScanInputCircuitOk = 0 ∧
      parpScanInputPriorPresent &&& parpScanInputCircuitOk = 0 ∧
      parpScanInputPriorValid &&& parpScanInputCircuitOk = 0 ∧
      parpScanInputGenerationValid &&& parpScanInputCircuitOk = 0 ∧
      parpScanInputModelCompatible &&& parpScanInputCircuitOk = 0 := by decide
  unfold parpSnapshotFillScanBudgetInput
  repeat' split
  all_goals
    refine ⟨rfl, rfl, rfl, rfl, ?_⟩
    simp [fillMetadata, fillPrior, fillBinding, orFlag_and, and_or_flags, hother]

theorem and_eq_of_ne_zero {flags bit : UInt32} {k : ℕ} (hbit : bit.toNat = 2 ^ k)
    (h : flags &&& bit ≠ 0) : flags &&& bit = bit := by
  have hand : (flags &&& bit).toNat = (flags.toNat.testBit k).toNat * 2 ^ k := by
    rw [UInt32.toNat_and, hbit, Nat.and_two_pow]
  cases htest : flags.toNat.testBit k with
  | true => exact UInt32.toNat_inj.1 (by simp [hand, htest, hbit])
  | false => exact absurd (UInt32.toNat_inj.1 (by simp [hand, htest])) h

theorem contextValid_of_flags (h : ∀ flag ∈ [parpScanInputBindValid, parpScanInputPriorValid,
    parpScanInputGenerationValid, parpScanInputModelCompatible], hasFlag input flag = true) :
    ContextValid input := by
  have hflag (flag : UInt32) (k : ℕ) (hbit : flag.toNat = 2 ^ k)
      (hset : hasFlag input flag = true) : flag &&& input.flags = flag :=
    (UInt32.and_comm _ _).trans (and_eq_of_ne_zero hbit (of_decide_eq_true hset))
  simp only [mem_cons, not_mem_nil, or_false, forall_eq_or_imp, forall_eq] at h
  obtain ⟨hbind, hprior, hgeneration, hmodel⟩ := h
  unfold ContextValid contextFlags
  rw [UInt32.and_comm, and_or_flags, and_or_flags, and_or_flags,
    hflag _ 1 rfl hbind, hflag _ 3 rfl hprior, hflag _ 4 rfl hgeneration, hflag _ 5 rfl hmodel]

/-- A live binding of the domain, and a live prior of its application, of the model in use. -/
def Predicted (active : Active) (domainId nowNs : UInt64) : Prop :=
  ∃ s ∈ active, ∃ binding ∈ s.bindings, ∃ prior ∈ s.priors,
    binding.active = true ∧ binding.domainId = domainId ∧ nowNs < binding.expiresNs ∧
    prior.appId = binding.appId ∧ prior.valid = true ∧ nowNs < s.predictionExpiryNs ∧
    prior.predictionGeneration = s.predictionGeneration ∧
    binding.modelVersion = s.predictionModelVersion.toUInt64 ∧
    prior.modelVersion = s.predictionModelVersion.toUInt64

theorem predicted_of_contextValid (h : ContextValid (call.input active)) :
    Predicted active call.domainId call.nowNs := by
  have hclear : call.blank.flags &&& contextFlags = 0 :=
    (by decide : (0 : UInt32) &&& contextFlags = 0)
  unfold Call.input at h
  cases active with
  | none => exact absurd h (contextValid_clear hclear)
  | some s =>
    cases hb : s.bindings.find? (fun b => b.active && decide (b.domainId = call.domainId)) with
    | none =>
      rw [fill_noBinding hb] at h
      exact absurd h (contextValid_clear hclear)
    | some binding =>
      cases hp : s.priors.find? (fun p => decide (p.appId = binding.appId)) with
      | none =>
        rw [fill_noPrior hb hp] at h
        exact absurd h (contextValid_noPrior hclear)
      | some prior =>
        rw [fill_found hb hp, contextValid_found prior hclear] at h
        obtain ⟨⟨-, hbound⟩, ⟨hvalid, hlive, hgeneration⟩, -, hmodel⟩ := h
        have hmatch := find?_some hb
        rw [Bool.and_eq_true, decide_eq_true_eq] at hmatch
        have happ : prior.appId = binding.appId := by simpa using find?_some hp
        exact ⟨s, rfl, binding, mem_of_find?_eq_some hb, prior, mem_of_find?_eq_some hp,
          hmatch.1, hmatch.2, hbound, happ, hvalid, hlive, hgeneration, hmodel⟩

theorem parpAdapterApplyScanBudget_eq (decision : ParpScanBudgetDecision) :
    parpAdapterApplyScanBudget decision = decision.appliedNrToScan :=
  if_pos (UInt64.le_iff_toNat_le.2 (by
    have := decision.appliedNrToScan.toNat_lt
    change _ ≤ 2 ^ 64 - 1
    omega))

theorem passed_flag {flag : UInt32} (hother : parpScanInputCircuitOk &&& flag = 0) :
    hasFlag (passed input true) flag = hasFlag input flag := by
  unfold hasFlag passed
  rw [if_pos rfl, and_or_flags, hother, UInt32.or_zero]

theorem Call.target_of_scope (hscope : call.blank.reclaimScope = .targetMemcg ∨
    call.blank.reclaimScope = .proactiveMemcg) :
    ∃ memcg, call.targetMemcg = some memcg ∧ memcg.isRoot = false := by
  change parpReclaimScope call.targetMemcg _ _ = _ ∨ parpReclaimScope call.targetMemcg _ _ = _
    at hscope
  unfold parpReclaimScope at hscope
  cases htarget : call.targetMemcg with
  | none => split_ifs at hscope <;> simp_all
  | some memcg => exact ⟨memcg, rfl, by split_ifs at hscope <;> simp_all⟩

theorem param_eval {β : Type} (field : Params → β) (m : Memory) :
    (param field).eval m = field m.config.params := rfl

theorem parpScanConfigValidSteps_eval (m : Memory) :
    parpScanConfigValidSteps.eval m = parpScanConfigValid m.config.params := by
  have hmost : ∀ left right, (atMost left right).eval m =
      decide (left m.config.params ≤ right m.config.params) := fun _ _ => rfl
  unfold parpScanConfigValidSteps parpScanConfigValid
  simp only [Prog.eval_bind, ↓Prog.eval_ite, hmost, param_eval, Prog.eval_pure, decide_eq_true_eq]
  simp only [Bool.decide_and, Bool.if_false_right]

variable (input : ParpScanBudgetInput) (m : Memory)

theorem validateSteps_eval :
    (parpValidateScanInputSteps input).eval m = parpValidateScanInput m.config input := by
  have hdefault : parpScanConfigValid {} = true := by decide
  unfold parpValidateScanInputSteps parpValidateScanInput
  simp only [Prog.eval_bind, Prog.eval_get, ↓Prog.eval_ite, Prog.eval_pure,
    parpScanConfigValidSteps_eval, hdefault]
  cases hvalid : parpScanConfigValid m.config.params <;> grind

theorem classSteps_eval :
    (classSteps input).eval m =
      classOf m.config.params input.foreground input.appUseScoreQ15 := by
  unfold classSteps classOf
  simp only [↓Prog.eval_ite, Prog.eval_bind]
  rfl

theorem raiseSteps_eval (native proposed : UInt64) (m : Memory) :
    (raiseSteps native proposed).eval m =
      (raise m.config.params native proposed,
        if proposed < m.config.params.minimumScanUnits then clampMinFlag else 0) := by
  unfold raiseSteps raise
  rw [Prog.eval_bind]
  change (if proposed < m.config.params.minimumScanUnits then _ else _ : Prog Memory _).eval m = _
  by_cases hless : proposed < m.config.params.minimumScanUnits
  · rw [if_pos hless, if_pos hless, if_pos hless]
    rfl
  · rw [if_neg hless, if_neg hless, if_neg hless]
    rfl

theorem parpComputeScanBudgetSteps_eval :
    (parpComputeScanBudgetSteps input).eval m = parpComputeScanBudget m.config input := by
  unfold parpComputeScanBudgetSteps parpComputeScanBudget
  rw [Prog.eval_bind, validateSteps_eval]
  dsimp only
  by_cases hinvalid : parpValidateScanInput m.config input ≠ .native
  · rw [if_pos hinvalid, if_pos hinvalid]
    rfl
  rw [if_neg hinvalid, if_neg hinvalid]
  by_cases hzero : input.nativeNrToScan = 0
  · rw [if_pos hzero, if_pos hzero]
    rfl
  rw [if_neg hzero, if_neg hzero]
  by_cases hcritical : input.pressure = .critical
  · rw [if_pos hcritical, if_pos hcritical]
    rfl
  rw [if_neg hcritical, if_neg hcritical, Prog.eval_bind]
  unfold proposeSteps applySteps
  simp only [Prog.eval_bind, ↓Prog.eval_ite, Prog.eval_get, Prog.eval_pure, classSteps_eval,
    raiseSteps_eval, param_eval]
  by_cases hmode : m.config.scanBudgetMode = .apply
  · by_cases hdomain : input.domainId = m.config.scanBudgetApplyDomain
    · simp only [hmode, hdomain, if_true, ne_eq, not_true_eq_false, and_false, if_false, and_self, UInt32.or_zero]
      rfl
    · simp only [hmode, hdomain, if_true, ne_eq, not_false_eq_true, and_false, if_false, and_self]
      rfl
  · simp only [hmode, false_and, if_false, UInt32.or_zero]
    rfl

/-- The last two steps read apply mode and then the domain. -/
def AppliedLast (domainId : UInt64) (own : List (Memory × Memory)) : Prop :=
  ∃ front applied matched, own = front ++ [(applied, applied), (matched, matched)] ∧
    applied.config.scanBudgetMode = .apply ∧ domainId = matched.config.scanBudgetApplyDomain

variable {own : List (Memory × Memory)} {domainId : UInt64} {rely : Memory → Memory → Prop}
  {guard : ParpScanGuard}

theorem AppliedLast.prepend (h : AppliedLast domainId own) (before : List (Memory × Memory)) :
    AppliedLast domainId (before ++ own) := by
  obtain ⟨front, applied, matched, rfl, hmode, hdomain⟩ := h
  exact ⟨before ++ front, applied, matched, (append_assoc _ _ _).symm, hmode, hdomain⟩

/-- The input passes the checks, whatever the mode was when it was read. -/
structure Permitted (input : ParpScanBudgetInput) : Prop where
  valid : ∃ mode, parpValidateScanInput { scanBudgetMode := mode } input = .native
  calm : input.pressure ≠ .critical

theorem validateSteps_returns :
    (parpValidateScanInputSteps input).Returns fun invalid => invalid = .native →
      ∃ mode, parpValidateScanInput { scanBudgetMode := mode } input = .native := by
  intro m
  change (if _ then _ else _ : Prog Memory ParpScanBudgetReason).Returns _
  split_ifs with hinvalid
  · exact fun h => absurd h hinvalid
  · exact Prog.returns_rest fun _ _ => ⟨_, not_not.1 hinvalid⟩

theorem classSteps_returns :
    (classSteps input).Returns fun c => c.2 ≠ .circuitBreaker := by
  unfold classSteps
  dsimp only
  split_ifs
  · exact fun _ => nofun
  · intro high
    change (if _ then _ else _ : Prog Memory _).Returns _
    split_ifs
    · exact fun _ => nofun
    · intro medium
      change (if _ then _ else _ : Prog Memory _).Returns _
      split_ifs <;> exact fun _ => nofun

theorem proposeSteps_returns :
    (proposeSteps input).Returns fun decision =>
      decision.reason ≠ .circuitBreaker ∧ decision.appliedNrToScan = input.nativeNrToScan := by
  refine Prog.returns_bind (classSteps_returns input) fun c hc => ?_
  refine Prog.returns_rest fun low => Prog.returns_rest fun high => ?_
  refine Prog.returns_rest fun raised => Prog.returns_rest fun extra => ?_
  exact ⟨hc, rfl⟩

theorem applySteps_ensures (input : ParpScanBudgetInput) (decision : ParpScanBudgetDecision)
    (s : Memory) :
    (applySteps input decision).Ensures rely (fun own applied _ =>
      applied.reason = decision.reason ∧ (applied.appliedNrToScan ≠ decision.appliedNrToScan →
        AppliedLast input.domainId own)) s := by
  intro applied _
  change (if applied.config.scanBudgetMode = .apply then _ else _ : Prog Memory _).Ensures _ _ _
  split_ifs with hmode
  · intro matched _
    change (if input.domainId = matched.config.scanBudgetApplyDomain then _ else _ :
      Prog Memory _).Ensures _ _ _
    split_ifs with hdomain
    · exact ⟨rfl, fun _ => ⟨[], applied, matched, rfl, hmode, hdomain⟩⟩
    · exact ⟨rfl, fun h => absurd rfl h⟩
  · exact ⟨rfl, fun h => absurd rfl h⟩

theorem computeSteps_ensures (input : ParpScanBudgetInput) (s : Memory) :
    (parpComputeScanBudgetSteps input).Ensures rely (fun own decision _ =>
      decision.appliedNrToScan ≠ input.nativeNrToScan →
        decision.reason ≠ .circuitBreaker ∧ Permitted input ∧ AppliedLast input.domainId own) s := by
  have hpost : ∀ (before own : List (Memory × Memory)) (decision : ParpScanBudgetDecision)
      (_ : Memory), (decision.appliedNrToScan ≠ input.nativeNrToScan →
        decision.reason ≠ .circuitBreaker ∧ Permitted input ∧ AppliedLast input.domainId own) →
      decision.appliedNrToScan ≠ input.nativeNrToScan →
        decision.reason ≠ .circuitBreaker ∧ Permitted input ∧
          AppliedLast input.domainId (before ++ own) :=
    fun before _ _ _ h hchanges => (h hchanges).imp_right (.imp_right (·.prepend before))
  refine Prog.ensures_rest hpost (validateSteps_returns input) fun invalid hvalid s => ?_
  dsimp only
  split_ifs with hinvalid hzero hcritical
  · exact fun h => absurd rfl h
  · exact fun h => absurd rfl h
  · exact fun h => absurd rfl h
  · refine Prog.ensures_rest hpost (proposeSteps_returns input) fun decision hdecision s => ?_
    refine (applySteps_ensures input decision s).mono fun own applied _ happlied hchanges => ?_
    rw [← hdecision.2] at hchanges
    exact ⟨happlied.1 ▸ hdecision.1, ⟨hvalid (not_not.1 hinvalid), hcritical⟩,
      happlied.2 hchanges⟩

theorem passed_keeps (allowed : Bool) :
    (passed input allowed).domainId = input.domainId ∧
      (passed input allowed).nativeNrToScan = input.nativeNrToScan := by
  unfold passed
  split_ifs <;> exact ⟨rfl, rfl⟩

theorem Permitted.facts {allowed : Bool} (h : Permitted (passed (call.input active) allowed)) :
    allowed = true ∧ ContextValid (call.input active) ∧
      (∃ memcg, call.targetMemcg = some memcg ∧ memcg.isRoot = false) ∧ 1 < call.reclaimPriority := by
  obtain ⟨⟨mode, hvalid⟩, hcalm⟩ := h
  obtain ⟨-, hscope, hpressure, -, hcircuit⟩ :=
    fill_keeps active call.domainId call.nowNs call.blank
  have hgate := fun flag hflag => Bool.eq_true_of_not_eq_false fun hmissing =>
    (GateFails.flag flag hflag hmissing).invalid hvalid
  cases allowed with
  | false =>
    have hmissing : hasFlag (call.input active) parpScanInputCircuitOk = false :=
      decide_eq_false (not_not.2 (hcircuit.trans
        (by decide : (0 : UInt32) &&& parpScanInputCircuitOk = 0)))
    exact absurd (hgate _ (by decide)) (Bool.eq_false_iff.1 hmissing)
  | true =>
    refine ⟨rfl, contextValid_of_flags fun flag hflag => ?_, call.target_of_scope ?_, ?_⟩
    · simp only [mem_cons, not_mem_nil, or_false] at hflag
      rcases hflag with rfl | rfl | rfl | rfl <;> rw [← passed_flag (by decide)] <;>
        exact hgate _ (by decide)
    · rw [← hscope]
      by_contra hnot
      have hfails : GateFails { scanBudgetMode := mode } (passed (call.input active) true) :=
        .scope (fun h => hnot (.inl h)) fun h => hnot (.inr h)
      exact hfails.invalid hvalid
    · refine Int.not_le.1 fun hlow => hcalm (hpressure.trans ?_)
      exact if_pos hlow

/-- What the other threads do: they leave any configuration, publish, clear and reclaim. -/
inductive Other
  | config (config : Config)
  | snapshot (op : SnapshotOp)
  | guard (event : GuardEvent)

def Memory.other (m : Memory) : Other → Memory
  | .config config => { m with config := config }
  | .snapshot op => { m with active := (snapshotStep m.active op).2 }
  | .guard event => { m with guards := (guardStep m.guards event).2 }

def Reaches (allowed : Other → Prop) (before found : Memory) : Prop :=
  ∃ others : List Other, (∀ other ∈ others, allowed other) ∧
    found = others.foldl Memory.other before

abbrev Reachable : Memory → Prop := Reaches (fun _ => True) {}

theorem Reaches.invariant {allowed : Other → Prop} {I : Memory → Prop} {before found : Memory}
    (h : Reaches allowed before found) (hI : I before)
    (hstep : ∀ m other, I m → allowed other → I (m.other other)) : I found := by
  obtain ⟨others, hallowed, rfl⟩ := h
  exact List.foldlRecOn others Memory.other hI fun m hm other hother =>
    hstep m other hm (hallowed other hother)

theorem tidy_other (m : Memory) (other : Other) (h : Tidy m.guards) :
    Tidy (m.other other).guards := by
  cases other with
  | config config => exact h
  | snapshot op => exact h
  | guard event => exact guardStep_tidy m.guards event h

theorem Reaches.tidy {allowed : Other → Prop} {before found : Memory}
    (h : Reaches allowed before found) (htidy : Tidy before.guards) : Tidy found.guards :=
  h.invariant (I := fun m => Tidy m.guards) htidy fun m other hm _ => tidy_other m other hm

/-- The answer of the guard to a call that was filled from `filled`. -/
def Call.asks (call : Call) (filled asked : Memory) : Bool × List ParpScanGuard :=
  parpScanBudgetGuard asked.guards call.domainId (call.input filled.active).predictionGeneration
    (decide (ContextValid (call.input filled.active)))

theorem finishSteps_ensures (input : ParpScanBudgetInput) (s : Memory) :
    (finishSteps input).Ensures rely (fun own decision _ =>
      decision.appliedNrToScan ≠ input.nativeNrToScan →
        Permitted input ∧ AppliedLast input.domainId own) s := by
  unfold finishSteps
  rw [Prog.ensures_bind]
  refine (computeSteps_ensures input s).mono fun own decision left hdecision => ?_
  by_cases hcounts : countsAgainst input decision = true
  · rw [if_pos hcounts]
    intro found _ hchanges
    have hreason := (Bool.and_eq_true_iff.1 hcounts).1
    exact absurd (of_decide_eq_true hreason) (hdecision hchanges).1
  · rw [if_neg hcounts]
    intro hchanges
    rw [append_nil]
    exact (hdecision hchanges).2

theorem prepare_runs {call : Call} {m left : Memory} {decision : ParpScanBudgetDecision}
    (hrun : (parpAdapterPrepareScanBudget call).Runs rely m own left decision) :
    ∃ filled asked rest, own = (filled, filled) ::
        (asked, { asked with guards := (call.asks filled asked).2 }) :: rest ∧
      rely m filled ∧ rely filled asked ∧ (decision.appliedNrToScan ≠ call.nativeNrToScan →
        Permitted (passed (call.input filled.active) (call.asks filled asked).1) ∧
          AppliedLast call.domainId rest) := by
  cases hrun with
  | @step _ _ _ filled _ rest _ hfilled hrun =>
  cases hrun with
  | @step _ _ _ asked _ rest _ hasked hrun =>
  have hkept := fill_keeps filled.active call.domainId call.nowNs call.blank
  have hdomain : (call.input filled.active).domainId = call.domainId := hkept.1
  have hnative : (call.input filled.active).nativeNrToScan = call.nativeNrToScan := hkept.2.2.2.1
  unfold Call.asks
  rw [← hdomain, ← hnative]
  refine ⟨filled, asked, rest, rfl, hfilled, hasked, ?_⟩
  have hfinished := hrun.ensures (finishSteps_ensures _ _)
  rw [(passed_keeps _ _).1, (passed_keeps _ _).2] at hfinished
  exact hfinished

/-- The steps of a call that may change the scan: it targets a memcg and is not critical, is filled
from a live prediction of the domain, asks a guard that has not tripped, and finds apply mode and
then its domain in the last two reads. -/
structure Justified (call : Call) (own : List (Memory × Memory)) : Prop where
  target : ∃ memcg, call.targetMemcg = some memcg ∧ memcg.isRoot = false
  priority : 1 < call.reclaimPriority
  steps : ∃ filled asked rest, own = (filled, filled) :: asked :: rest ∧
    Predicted filled.active call.domainId call.nowNs ∧
    (∃ guard, guardOf asked.2.guards call.domainId = some guard ∧ guard.tripped = false) ∧
    AppliedLast call.domainId rest

theorem scan_changes_justified {call : Call} {m left : Memory} {own : List (Memory × Memory)}
    {decision : ParpScanBudgetDecision} (hreached : Reachable m)
    (hrun : (parpAdapterPrepareScanBudget call).Runs (Reaches fun _ => True) m own left decision)
    (hchanges : parpAdapterApplyScanBudget decision ≠ call.nativeNrToScan) : Justified call own := by
  obtain ⟨filled, asked, rest, rfl, hfilled, hasked, hfinished⟩ := prepare_runs hrun
  rw [parpAdapterApplyScanBudget_eq] at hchanges
  obtain ⟨hpermitted, hlast⟩ := hfinished hchanges
  obtain ⟨hallowed, hcontext, htarget, hpriority⟩ := hpermitted.facts
  have htidy : Tidy asked.guards := hasked.tidy (hfilled.tidy (hreached.tidy (kept_run []).tidy))
  exact ⟨htarget, hpriority, filled, _, rest, rfl, predicted_of_contextValid hcontext,
    (allowed_iff htidy _ _).1 hallowed, hlast⟩

def reclaimOfSeven : Call where
  targetMemcg := some ⟨false, 7⟩
  reclaimPriority := 12
  nativeNrToScan := 1000
  nowNs := 20

def bindSeven : List Other :=
  [.snapshot (.replaceState
      (some { schemaVersion := 1, modelVersion := 1, predictionGeneration := 1, timestampNs := 1,
              horizonNs := 1, expiryNs := 1000,
              entries := [{ appId := 5, useScoreQ15 := 30000, rank := 1, valid := true }] })
      (.array [{ domainId := 7, appId := 5, bindGeneration := 1, expiresNs := 1000,
                 modelVersion := 1, active := true }])
      ⟨10, ⟨true, 10⟩⟩),
    .config { scanBudgetMode := .apply, scanBudgetApplyDomain := 9 }, .guard (.input 7 1 true)]

/-- The guard is cleared, and the domain of apply mode changed between the last two reads. -/
def racedMoves : List (Memory → Memory) :=
  [id, (·.other (.guard (.clear 7)))] ++ List.replicate 22 id ++
    [(·.other (.config { scanBudgetApplyDomain := 7 }))]

def raced : List (Memory × Memory) × Memory × ParpScanBudgetDecision :=
  (parpAdapterPrepareScanBudget reclaimOfSeven).runUnder racedMoves
    (bindSeven.foldl Memory.other {})

theorem raced_justified : parpAdapterApplyScanBudget raced.2.2 = 600 ∧
    Justified reclaimOfSeven raced.1 := by
  refine ⟨by decide +kernel, scan_changes_justified
    ⟨_, fun _ _ => trivial, rfl⟩
    (Prog.runs_runUnder (fun s => ⟨[], nofun, rfl⟩) _ ?_ _) (by decide +kernel)⟩
  intro move hmove s
  simp only [racedMoves, mem_append, mem_cons, not_mem_nil, or_false,
    mem_replicate] at hmove
  rcases hmove with (⟨rfl | rfl⟩ | ⟨-, rfl⟩) | rfl
  · exact ⟨[], nofun, rfl⟩
  · exact ⟨[.guard (.clear 7)], fun _ _ => trivial, rfl⟩
  · exact ⟨[], nofun, rfl⟩
  · exact ⟨[.config { scanBudgetApplyDomain := 7 }], fun _ _ => trivial, rfl⟩

/-- The other threads neither clear the guard of the domain nor bring it a newer generation. -/
def LeavesTripped (domainId : UInt64) (generation : UInt32) : Other → Prop
  | .guard (.clear other) => other ≠ domainId
  | .guard (.input other newer valid) => other = domainId → valid = true → newer ≤ generation
  | .config _ | .snapshot _ => True

theorem settle_tripped {generation : UInt32} {valid : Bool} (htripped : guard.tripped = true)
    (hold : valid = true → generation ≤ guard.generation) :
    settle guard generation valid = guard := by
  unfold settle
  rw [if_neg fun h => UInt32.not_lt.2 (hold h.1) h.2, if_neg (by simp [htripped])]

theorem guard_stays_tripped {guards : List ParpScanGuard} {generation : UInt32} {valid : Bool}
    (htidy : Tidy guards) (hguard : guardOf guards domainId = some guard)
    (htripped : guard.tripped = true) (hold : valid = true → generation ≤ guard.generation) :
    guardOf (parpScanBudgetGuard guards domainId generation valid).2 domainId = some guard := by
  have hanswer := parpScanBudgetGuard_answer htidy domainId generation valid
  generalize parpScanBudgetGuard guards domainId generation valid = result at hanswer
  cases hanswer with
  | refused => exact hguard
  | counted i slot held hslot hfits hkey hd hdomain hheld hfind =>
    obtain rfl : guard = held := by
      rcases hheld with hheld | ⟨hnone, -⟩
      · exact Option.some.inj (hguard.symm.trans hheld)
      · cases hguard.symm.trans hnone
    rw [guardOf_set_self htidy hslot hfits hd hdomain, settle_tripped htripped hold]

theorem other_leaves {m : Memory} {other : Other} (htidy : Tidy m.guards)
    (hguard : guardOf m.guards domainId = some guard) (htripped : guard.tripped = true)
    (hleaves : LeavesTripped domainId guard.generation other) :
    guardOf (m.other other).guards domainId = some guard := by
  match other with
  | .config config => exact hguard
  | .snapshot op => exact hguard
  | .guard event =>
    by_cases hother : event.domainId = domainId
    · cases event with
      | clear cleared => exact absurd hother hleaves
      | input asked newer valid =>
        obtain rfl : asked = domainId := hother
        exact guard_stays_tripped htidy hguard htripped (hleaves rfl)
    · exact (guardStep_other htidy event hother).trans hguard

/-- The call is itself filled from a valid prediction, of a newer generation. -/
def Call.Renews (call : Call) (generation : UInt32) (own : List (Memory × Memory)) : Prop :=
  ∃ filled rest, own = (filled, filled) :: rest ∧ ContextValid (call.input filled.active) ∧
    generation < (call.input filled.active).predictionGeneration

theorem tripped_keeps_native {call : Call} {m left : Memory} {own : List (Memory × Memory)}
    {decision : ParpScanBudgetDecision} {guard : ParpScanGuard} (hreached : Reachable m)
    (hguard : guardOf m.guards call.domainId = some guard) (htripped : guard.tripped = true)
    (hrun : (parpAdapterPrepareScanBudget call).Runs
      (Reaches (LeavesTripped call.domainId guard.generation)) m own left decision) :
    parpAdapterApplyScanBudget decision = call.nativeNrToScan ∨
      call.Renews guard.generation own := by
  obtain ⟨filled, asked, rest, rfl, hfilled, hasked, hfinished⟩ := prepare_runs hrun
  refine or_iff_not_imp_left.2 fun hchanges => ⟨filled, _, rfl, ?_⟩
  rw [parpAdapterApplyScanBudget_eq] at hchanges
  obtain ⟨hallowed, hcontext, -⟩ := (hfinished hchanges).1.facts
  refine ⟨hcontext, UInt32.not_le.1 fun hold => ?_⟩
  let I := fun m : Memory => Tidy m.guards ∧ guardOf m.guards call.domainId = some guard
  have hstep : ∀ m other, I m → LeavesTripped call.domainId guard.generation other →
      I (m.other other) := fun m other hm hleaves =>
    ⟨tidy_other m other hm.1, other_leaves hm.1 hm.2 htripped hleaves⟩
  have hbefore : I asked := hasked.invariant (hfilled.invariant
    ⟨hreached.tidy (kept_run []).tidy, hguard⟩ hstep) hstep
  obtain ⟨open', hopen, hclosed⟩ := (allowed_iff hbefore.1 _ _).1 hallowed
  have hstays := guard_stays_tripped hbefore.1 hbefore.2 htripped
    fun _ : decide (ContextValid (call.input filled.active)) = true => hold
  obtain rfl := Option.some.inj (hstays.symm.trans hopen)
  exact Bool.false_ne_true (hclosed.symm.trans htripped)

def tripSeven : List Other :=
  bindSeven ++ .config { scanBudgetMode := .apply, scanBudgetApplyDomain := 7 } ::
    List.replicate 3 (.guard (.input 7 1 false))

theorem tripSeven_native :
    let run := (parpAdapterPrepareScanBudget reclaimOfSeven).runUnder []
      (tripSeven.foldl Memory.other {})
    parpAdapterApplyScanBudget run.2.2 = 1000 ∨ reclaimOfSeven.Renews 1 run.1 := by
  have htripped : guardOf (tripSeven.foldl Memory.other {}).guards reclaimOfSeven.domainId =
    some ⟨7, 1, 3, true⟩ := by decide +kernel
  exact tripped_keeps_native ⟨tripSeven, fun _ _ => trivial, rfl⟩ htripped rfl
    (Prog.runs_runUnder (fun s => ⟨[], nofun, rfl⟩) _ nofun _)

end

end Parp.ScanBudgetAdapter
