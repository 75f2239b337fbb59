import Parp.EffectiveTier
import Parp.Snapshot

set_option autoImplicit false

/-!
# Scan-budget inputs

`parp_snapshot_fill_scan_budget_input` of `mm/parp/core/snapshot.c`: what the scan budget reads
from the active snapshot, with one flag for each thing it found.
-/
namespace Parp.ScanBudgetInput

open Snapshot EffectiveTier

inductive ParpReclaimScope
  | unknown | globalKswapd | globalDirect | targetMemcg | proactiveMemcg | memcgHigh
  deriving DecidableEq

def parpScanInputBindPresent : UInt32 := 1
def parpScanInputBindValid : UInt32 := 2
def parpScanInputPriorPresent : UInt32 := 4
def parpScanInputPriorValid : UInt32 := 8
def parpScanInputGenerationValid : UInt32 := 16
def parpScanInputModelCompatible : UInt32 := 32
def parpScanInputCircuitOk : UInt32 := 64

/-- The four flags `parp_adapter_prepare_scan_budget` requires of a valid context. -/
def contextFlags : UInt32 :=
  parpScanInputBindValid ||| parpScanInputPriorValid ||| parpScanInputGenerationValid |||
    parpScanInputModelCompatible

structure ParpScanBudgetInput where
  domainId : UInt64 := 0
  appId : UInt32 := 0
  reclaimScope : ParpReclaimScope := .unknown
  pressure : ParpPressureLevel := .low
  nativeNrToScan : UInt64 := 0
  foreground : Bool := false
  appUseScoreQ15 : UInt16 := 0
  appRank : UInt16 := 0
  foregroundEpochId : UInt64 := 0
  bindGeneration : UInt64 := 0
  bindExpiryNs : UInt64 := 0
  predictionTimestampNs : UInt64 := 0
  predictionExpiryNs : UInt64 := 0
  predictionGeneration : UInt32 := 0
  modelVersion : UInt32 := 0
  reclaimPriority : ℤ := 0
  nowNs : UInt64 := 0
  flags : UInt32 := 0
  deriving DecidableEq

/-- `if (condition) input->flags |= bit`. -/
def orFlag (flags bit : UInt32) (condition : Prop) [Decidable condition] : UInt32 :=
  if condition then flags ||| bit else flags

def fillBinding (binding : ParpBinding) (nowNs : UInt64) (input : ParpScanBudgetInput) :
    ParpScanBudgetInput :=
  { input with
    flags := orFlag (input.flags ||| parpScanInputBindPresent) parpScanInputBindValid
      (binding.bindGeneration ≠ 0 ∧ nowNs < binding.expiresNs)
    appId := binding.appId
    bindGeneration := binding.bindGeneration.toUInt64
    bindExpiryNs := binding.expiresNs
    foregroundEpochId := binding.epochId }

def fillPrior (snapshot : ParpSnapshot) (prior : ParpAppPrior) (nowNs : UInt64)
    (input : ParpScanBudgetInput) : ParpScanBudgetInput :=
  { input with
    flags := orFlag (input.flags ||| parpScanInputPriorPresent) parpScanInputPriorValid
      (prior.valid = true ∧ nowNs < snapshot.predictionExpiryNs ∧
        prior.predictionGeneration = snapshot.predictionGeneration)
    foreground := prior.foreground
    appUseScoreQ15 := prior.useScoreQ15
    appRank := prior.rank }

/-- The tail at the label `metadata`. -/
def fillMetadata (snapshot : ParpSnapshot) (binding : ParpBinding) (prior : Option ParpAppPrior)
    (input : ParpScanBudgetInput) : ParpScanBudgetInput :=
  { input with
    flags := orFlag
      (orFlag input.flags parpScanInputGenerationValid (snapshot.predictionGeneration ≠ 0))
      parpScanInputModelCompatible
      (∃ p ∈ prior, binding.modelVersion = snapshot.predictionModelVersion.toUInt64 ∧
        p.modelVersion = snapshot.predictionModelVersion.toUInt64)
    predictionTimestampNs := snapshot.predictionTimestampNs
    predictionExpiryNs := snapshot.predictionExpiryNs
    predictionGeneration := snapshot.predictionGeneration
    modelVersion := snapshot.predictionModelVersion }

def parpSnapshotFillScanBudgetInput (active : Active) (domainId nowNs : UInt64)
    (input : ParpScanBudgetInput) : ParpScanBudgetInput :=
  match active with
  | none => input
  | some snapshot =>
    match snapshot.bindings.find? (fun b => b.active && decide (b.domainId = domainId)) with
    | none => input
    | some binding =>
      match snapshot.priors.find? (fun p => decide (p.appId = binding.appId)) with
      | none => fillMetadata snapshot binding none (fillBinding binding nowNs input)
      | some prior =>
        fillMetadata snapshot binding (some prior)
          (fillPrior snapshot prior nowNs (fillBinding binding nowNs input))

def ContextValid (input : ParpScanBudgetInput) : Prop := input.flags &&& contextFlags = contextFlags

instance (input : ParpScanBudgetInput) : Decidable (ContextValid input) :=
  inferInstanceAs (Decidable (_ = _))

theorem and_or_flags (a b mask : UInt32) : (a ||| b) &&& mask = (a &&& mask) ||| (b &&& mask) := by
  apply UInt32.toBitVec_inj.1
  simp [BitVec.and_or_distrib_right]

theorem orFlag_and (flags bit mask : UInt32) (condition : Prop) [Decidable condition] :
    orFlag flags bit condition &&& mask =
      (flags &&& mask) ||| (if condition then bit &&& mask else 0) := by
  unfold orFlag
  split_ifs
  · exact and_or_flags flags bit mask
  · simp

theorem contextFlags_all (bound fresh generated compatible : Prop) [Decidable bound]
    [Decidable fresh] [Decidable generated] [Decidable compatible] :
    ((((0 ||| parpScanInputBindPresent &&& contextFlags |||
      if bound then parpScanInputBindValid &&& contextFlags else 0) |||
      parpScanInputPriorPresent &&& contextFlags |||
      if fresh then parpScanInputPriorValid &&& contextFlags else 0) |||
      if generated then parpScanInputGenerationValid &&& contextFlags else 0) |||
      if compatible then parpScanInputModelCompatible &&& contextFlags else 0) = contextFlags ↔
      bound ∧ fresh ∧ generated ∧ compatible := by
  by_cases hb : bound <;> by_cases hf : fresh <;> by_cases hg : generated <;>
    by_cases hc : compatible <;> simp only [hb, hf, hg, hc, if_true, if_false] <;> decide

theorem contextFlags_noPrior (bound generated : Prop) [Decidable bound] [Decidable generated] :
    ((0 ||| parpScanInputBindPresent &&& contextFlags |||
      if bound then parpScanInputBindValid &&& contextFlags else 0) |||
      if generated then parpScanInputGenerationValid &&& contextFlags else 0) ≠ contextFlags := by
  by_cases hb : bound <;> by_cases hg : generated <;>
    simp only [hb, hg, if_true, if_false] <;> decide

variable {snapshot : ParpSnapshot} {binding : ParpBinding} {domainId nowNs : UInt64}

theorem fill_noBinding
    (hb : snapshot.bindings.find? (fun b => b.active && decide (b.domainId = domainId)) = none)
    (input : ParpScanBudgetInput) :
    parpSnapshotFillScanBudgetInput (some snapshot) domainId nowNs input = input := by
  simp only [parpSnapshotFillScanBudgetInput, hb]

theorem fill_noPrior
    (hb : snapshot.bindings.find? (fun b => b.active && decide (b.domainId = domainId)) =
      some binding)
    (hp : snapshot.priors.find? (fun p => decide (p.appId = binding.appId)) = none)
    (input : ParpScanBudgetInput) :
    parpSnapshotFillScanBudgetInput (some snapshot) domainId nowNs input =
      fillMetadata snapshot binding none (fillBinding binding nowNs input) := by
  simp only [parpSnapshotFillScanBudgetInput, hb, hp]

theorem fill_found {prior : ParpAppPrior}
    (hb : snapshot.bindings.find? (fun b => b.active && decide (b.domainId = domainId)) =
      some binding)
    (hp : snapshot.priors.find? (fun p => decide (p.appId = binding.appId)) = some prior)
    (input : ParpScanBudgetInput) :
    parpSnapshotFillScanBudgetInput (some snapshot) domainId nowNs input =
      fillMetadata snapshot binding (some prior)
        (fillPrior snapshot prior nowNs (fillBinding binding nowNs input)) := by
  simp only [parpSnapshotFillScanBudgetInput, hb, hp]

variable {input : ParpScanBudgetInput}

theorem contextValid_found (prior : ParpAppPrior) (hclear : input.flags &&& contextFlags = 0) :
    ContextValid (fillMetadata snapshot binding (some prior)
        (fillPrior snapshot prior nowNs (fillBinding binding nowNs input))) ↔
      (binding.bindGeneration ≠ 0 ∧ nowNs < binding.expiresNs) ∧
      (prior.valid = true ∧ nowNs < snapshot.predictionExpiryNs ∧
        prior.predictionGeneration = snapshot.predictionGeneration) ∧
      snapshot.predictionGeneration ≠ 0 ∧
      binding.modelVersion = snapshot.predictionModelVersion.toUInt64 ∧
        prior.modelVersion = snapshot.predictionModelVersion.toUInt64 := by
  unfold ContextValid fillMetadata fillPrior fillBinding
  simp only [orFlag_and, and_or_flags, hclear, Option.mem_def, Option.some.injEq,
    exists_eq_left']
  exact contextFlags_all _ _ _ _

theorem contextValid_noPrior (hclear : input.flags &&& contextFlags = 0) :
    ¬ ContextValid (fillMetadata snapshot binding none (fillBinding binding nowNs input)) := by
  unfold ContextValid fillMetadata fillBinding
  simp only [orFlag_and, and_or_flags, hclear, Option.mem_def, reduceCtorEq, false_and,
    exists_false, if_false, UInt32.or_zero]
  exact contextFlags_noPrior _ _

theorem contextValid_clear (hclear : input.flags &&& contextFlags = 0) : ¬ ContextValid input := by
  unfold ContextValid
  rw [hclear]
  decide

end Parp.ScanBudgetInput

/-!
# The scan budget

`mm/parp/core/scan_budget.c`: how many units a memory cgroup is scanned for, from the use score of
its application and the pressure.
-/
namespace Parp.ScanBudget

open EffectiveTier ScanBudgetInput

def parpQ15Scale : UInt32 := 32768
def u64Max : UInt64 := 0xffffffffffffffff

inductive ParpScanBudgetMode
  | disabled | observe | apply
  deriving DecidableEq

inductive ParpScanBudgetReason
  | native | foreground | highPrior | mediumPrior | lowPrior | noBind | staleBind | noPrior
  | expiredPrior | staleGeneration | modelVersion | notTargetMemcg | pressureBypass
  | circuitBreaker | clampMin | clampMax | applyDomain | disabled
  deriving DecidableEq

def bit (i : UInt32) : UInt32 := 1 <<< i

def clampMinFlag : UInt32 := bit 14
def clampMaxFlag : UInt32 := bit 15
def applyDomainFlag : UInt32 := bit 16

def hasFlag (input : ParpScanBudgetInput) (flag : UInt32) : Bool := input.flags &&& flag ≠ 0

structure ParpScanBudgetDecision where
  valid : Bool := false
  nativeNrToScan : UInt64 := 0
  proposedNrToScan : UInt64 := 0
  appliedNrToScan : UInt64 := 0
  multiplierQ15 : UInt32 := 0
  confidenceQ15 : ℕ := 0
  reason : ParpScanBudgetReason := .native
  reasonFlags : UInt32 := 0
  deriving DecidableEq

structure Params where
  foregroundMultiplierQ15 : UInt32 := 16384
  highProbabilityMultiplierQ15 : UInt32 := 19661
  mediumProbabilityMultiplierQ15 : UInt32 := 26214
  lowProbabilityMultiplierQ15 : UInt32 := 39321
  minimumMultiplierQ15 : UInt32 := 16384
  maximumMultiplierQ15 : UInt32 := 49152
  highProbabilityThresholdQ15 : UInt32 := 24576
  mediumProbabilityThresholdQ15 : UInt32 := 12288
  minimumScanUnits : UInt64 := 1
  maximumExtraScanUnits : UInt64 := 4096
  deriving DecidableEq

structure Config where
  params : Params := {}
  scanBudgetMode : ParpScanBudgetMode := .observe
  scanBudgetApplyDomain : UInt64 := 0
  deriving DecidableEq

inductive SetErrno
  | eperm | ebusy
  deriving DecidableEq

/-- `mode` is one of the three; any other number is `EINVAL`. -/
def parpSetScanBudgetMode (config : Config) (mode : ParpScanBudgetMode) : Except SetErrno Config :=
  if mode = .apply ∧ config.scanBudgetApplyDomain = 0 then .error .eperm
  else .ok { config with scanBudgetMode := mode }

def parpSetScanBudgetApplyDomain (config : Config) (domainId : UInt64) : Except SetErrno Config :=
  if config.scanBudgetMode = .apply then .error .ebusy
  else .ok { config with scanBudgetApplyDomain := domainId }

inductive ConfigEvent
  | mode (mode : ParpScanBudgetMode)
  | applyDomain (domainId : UInt64)
  /-- The parameters are plain module parameters: nothing checks what is written. -/
  | params (params : Params)
  deriving DecidableEq

def configStep (config : Config) : ConfigEvent → Except SetErrno Unit × Config
  | .mode mode =>
    match parpSetScanBudgetMode config mode with
    | .ok config => (.ok (), config)
    | .error errno => (.error errno, config)
  | .applyDomain domainId =>
    match parpSetScanBudgetApplyDomain config domainId with
    | .ok config => (.ok (), config)
    | .error errno => (.error errno, config)
  | .params params => (.ok (), { config with params := params })

def parpScanConfigValid (params : Params) : Bool :=
  params.minimumMultiplierQ15 ≤ params.maximumMultiplierQ15 ∧
    params.maximumMultiplierQ15 ≤ 2 * parpQ15Scale ∧
    params.foregroundMultiplierQ15 ≤ params.maximumMultiplierQ15 ∧
    params.highProbabilityMultiplierQ15 ≤ params.maximumMultiplierQ15 ∧
    params.mediumProbabilityMultiplierQ15 ≤ params.maximumMultiplierQ15 ∧
    params.lowProbabilityMultiplierQ15 ≤ params.maximumMultiplierQ15 ∧
    params.highProbabilityThresholdQ15.toNat ≤ parpQ15One ∧
    params.mediumProbabilityThresholdQ15 ≤ params.highProbabilityThresholdQ15

def mulU64U32Div (a : UInt64) (mul div : UInt32) : UInt64 :=
  UInt64.ofNat (a.toNat * mul.toNat / div.toNat)

def parpScaleScanUnits (native : UInt64) (multiplier : UInt32) : UInt64 :=
  if multiplier > parpQ15Scale ∧ native > mulU64U32Div u64Max parpQ15Scale multiplier then u64Max
  else
    let scaled := mulU64U32Div native multiplier parpQ15Scale
    let remainder := ((native &&& (parpQ15Scale - 1).toUInt64) * multiplier.toUInt64) &&&
      (parpQ15Scale - 1).toUInt64
    let scaled :=
      if remainder ≥ (parpQ15Scale / 2).toUInt64 ∧ scaled ≠ u64Max then scaled + 1 else scaled
    if multiplier > parpQ15Scale ∧ scaled < native then u64Max else scaled

def parpNativeDecision (input : ParpScanBudgetInput) (reason : ParpScanBudgetReason) :
    ParpScanBudgetDecision where
  valid := false
  nativeNrToScan := input.nativeNrToScan
  proposedNrToScan := input.nativeNrToScan
  appliedNrToScan := input.nativeNrToScan
  multiplierQ15 := parpQ15Scale
  reason := reason

def parpValidateScanInput (config : Config) (input : ParpScanBudgetInput) : ParpScanBudgetReason :=
  if config.scanBudgetMode = .disabled then .disabled
  else if input.reclaimScope ≠ .targetMemcg ∧ input.reclaimScope ≠ .proactiveMemcg then
    .notTargetMemcg
  else if hasFlag input parpScanInputCircuitOk = false then .circuitBreaker
  else if hasFlag input parpScanInputBindPresent = false then .noBind
  else if hasFlag input parpScanInputBindValid = false ∨ input.nowNs ≥ input.bindExpiryNs then .staleBind
  else if hasFlag input parpScanInputPriorPresent = false then .noPrior
  else if hasFlag input parpScanInputPriorValid = false ∨ input.nowNs ≥ input.predictionExpiryNs then
    .expiredPrior
  else if hasFlag input parpScanInputGenerationValid = false then .staleGeneration
  else if hasFlag input parpScanInputModelCompatible = false then .modelVersion
  else if parpScanConfigValid config.params = false then .circuitBreaker
  else .native

/-- The kernel's `clamp`: the upper bound wins when the bounds cross. -/
def clampU32 (value lo hi : UInt32) : UInt32 :=
  if value ≥ hi then hi else if value ≤ lo then lo else value

def classOf (params : Params) (foreground : Bool) (score : UInt16) :
    UInt32 × ParpScanBudgetReason :=
  if foreground then (params.foregroundMultiplierQ15, .foreground)
  else if score.toUInt32 ≥ params.highProbabilityThresholdQ15 then
    (params.highProbabilityMultiplierQ15, .highPrior)
  else if score.toUInt32 ≥ params.mediumProbabilityThresholdQ15 then
    (params.mediumProbabilityMultiplierQ15, .mediumPrior)
  else (params.lowProbabilityMultiplierQ15, .lowPrior)

/-- The multiplier under the pressure. `PARP_PRESSURE_ELEVATED` is `PARP_PRESSURE_MEDIUM`. -/
def underPressure (multiplier : UInt32) : ParpPressureLevel → UInt32
  | .medium => (multiplier + parpQ15Scale + 1) / 2
  | .high => if multiplier < 3 * parpQ15Scale / 4 then 3 * parpQ15Scale / 4 else multiplier
  | .low | .critical => multiplier

def multiplierOf (params : Params) (input : ParpScanBudgetInput) : UInt32 :=
  underPressure
    (clampU32 (classOf params input.foreground input.appUseScoreQ15).1 params.minimumMultiplierQ15
      params.maximumMultiplierQ15) input.pressure

def raise (params : Params) (native proposed : UInt64) : UInt64 :=
  if proposed < params.minimumScanUnits then
    if native < params.minimumScanUnits then native else params.minimumScanUnits
  else proposed

def maxUnits (params : Params) (native : UInt64) : UInt64 :=
  if native.toNat + params.maximumExtraScanUnits.toNat < 2 ^ 64 then
    native + params.maximumExtraScanUnits
  else u64Max

def lower (params : Params) (native proposed : UInt64) : UInt64 :=
  if proposed > maxUnits params native then maxUnits params native else proposed

def parpComputeScanBudget (config : Config) (input : ParpScanBudgetInput) :
    ParpScanBudgetDecision :=
  let params := config.params
  let native := input.nativeNrToScan
  let invalid := parpValidateScanInput config input
  if invalid ≠ .native then parpNativeDecision input invalid
  else if native = 0 then { parpNativeDecision input .native with valid := true }
  else if input.pressure = .critical then parpNativeDecision input .pressureBypass
  else
    let multiplier := multiplierOf params input
    let scaled := parpScaleScanUnits native multiplier
    let raised := raise params native scaled
    let proposed := lower params native raised
    { valid := true
      nativeNrToScan := native
      proposedNrToScan := proposed
      appliedNrToScan :=
        if config.scanBudgetMode = .apply ∧ input.domainId = config.scanBudgetApplyDomain then
          proposed
        else native
      multiplierQ15 := multiplier
      confidenceQ15 := parpQ15One
      reason := (classOf params input.foreground input.appUseScoreQ15).2
      reasonFlags :=
        (if scaled < params.minimumScanUnits then clampMinFlag else 0) |||
        (if raised > maxUnits params native then clampMaxFlag else 0) |||
        (if config.scanBudgetMode = .apply ∧ input.domainId ≠ config.scanBudgetApplyDomain then
          applyDomainFlag
        else 0) }

end Parp.ScanBudget
