import Parp.Internal

set_option autoImplicit false

/-!
# Per-memcg secondary watermarks

`mm/parp/core/watermark.c`. The `atomic64_t` counters are left out: the code only increments and
prints them. What a function reads from outside (page counters, the clock, the sysctls, the
prediction snapshot) is an argument.
-/
namespace Parp.Watermark

inductive ParpTier2WssAction
  | fallback | normal | strengthen | relax
  deriving DecidableEq

def pageSize : UInt64 := 4096
def pageShift : UInt64 := 12
def u64Max : UInt64 := 0xffffffffffffffff
def s64Max : ℕ := 2 ^ 63 - 1
def pageCounterMax : UInt64 := 0x7ffffffffffff

def parpTier2ScaleBase : ℕ := 10000
def parpTier2ReclaimCooldownMs : UInt64 := 250
def parpTier2NoProgressCooldownMs : UInt64 := 1000
def parpTier2WssMinConfidenceQ15 : UInt16 := 16384
def parpTier2WssStrongMaxScale : UInt32 := 1000
def parpTier2WssActionStreak : UInt8 := 2
def u8Max : UInt8 := 255

/-- `struct parp_tier2_memcg` without its lock, its work item and its counters. -/
structure ParpTier2Memcg where
  online : Bool := true
  enabled : Bool := false
  ewmaValid : Bool := false
  allocScale : UInt32 := 100
  demoteScale : UInt32 := 300
  limitBytes : UInt64 := 0
  allocWmarkBytes : UInt64 := 0
  demoteWmarkBytes : UInt64 := 0
  headroomBytes : UInt64 := 0
  ewmaHeadroomBytes : UInt64 := 0
  previousEwmaHeadroomBytes : UInt64 := 0
  lastSampleNs : UInt64 := 0
  scheduledForNs : UInt64 := 0
  reclaimCooldownUntilNs : UInt64 := 0
  predictedMs : ℤ := -1
  effectiveDemoteWmarkBytes : UInt64 := 0
  predictedWorkingsetBytes : UInt64 := 0
  predictedResidentBytes : UInt64 := 0
  predictedGrowthBytes : UInt64 := 0
  workingsetPredictionGeneration : UInt32 := 0
  workingsetConfidenceQ15 : UInt16 := 0
  workingsetRawAction : ParpTier2WssAction := .fallback
  workingsetPolicyAction : ParpTier2WssAction := .fallback
  workingsetAction : ParpTier2WssAction := .fallback
  workingsetActionStreak : UInt8 := 0
  deriving DecidableEq

def parpTier2ScaledWmark (limitBytes : UInt64) (scale : UInt32) (floor : UInt64) : UInt64 :=
  if limitBytes = 0 ∨ scale = 0 then 0
  else max (UInt64.ofNat (limitBytes.toNat * scale.toNat / parpTier2ScaleBase)) floor

def parpTier2EwmaNext (previous sample : UInt64) : UInt64 :=
  let four : UInt64 := 4
  let mask : UInt64 := 15
  let quotient := (previous >>> four) * 15 + (sample >>> four)
  let remainder := (previous &&& mask) * 15 + (sample &&& mask)
  quotient + (remainder >>> four)

/-- Milliseconds until the headroom meets the watermark, `-1` for never. -/
def parpTier2PredictMs (previousEwma ewma headroom demoteWmark elapsedMs : UInt64) : ℤ :=
  if headroom ≤ demoteWmark then 0
  else if elapsedMs = 0 ∨ ewma ≥ previousEwma then -1
  else
    let delta := previousEwma - ewma
    let remaining := headroom - demoteWmark
    min (remaining.toNat * elapsedMs.toNat / delta.toNat) s64Max

def parpTier2LimitBytes (maxPages : UInt64) : UInt64 :=
  if maxPages = pageCounterMax ∨ maxPages > u64Max >>> pageShift then u64Max
  else maxPages <<< pageShift

def parpTier2UsageBytes (pages : UInt64) : UInt64 :=
  if pages > u64Max >>> pageShift then u64Max else pages <<< pageShift

def parpTier2Headroom (limit usage : UInt64) : UInt64 :=
  if limit = u64Max then u64Max else if usage ≥ limit then 0 else limit - usage

/-- The `alloc` and `demote` watermarks. -/
def parpTier2Watermarks (limit : UInt64) (allocScale demoteScale : UInt32) : UInt64 × UInt64 :=
  if limit = 0 ∨ limit = u64Max then (0, 0)
  else
    let alloc := parpTier2ScaledWmark limit allocScale pageSize
    (alloc, max alloc (parpTier2ScaledWmark limit demoteScale pageSize))

def parpTier2WorkingsetAction (limitBytes allocWmarkBytes demoteWmarkBytes headroomBytes
    predictedWorkingsetBytes predictedResidentBytes : UInt64) (confidenceQ15 : UInt16) :
    ParpTier2WssAction :=
  if limitBytes = 0 ∨ limitBytes = u64Max ∨ allocWmarkBytes = 0 ∨ demoteWmarkBytes = 0 ∨
      headroomBytes = u64Max ∨ predictedWorkingsetBytes = 0 ∨
      predictedResidentBytes > predictedWorkingsetBytes ∨
      confidenceQ15 < parpTier2WssMinConfidenceQ15 then .fallback
  else
    let predictedGrowth := predictedWorkingsetBytes - predictedResidentBytes
    let usageWmark := if limitBytes > demoteWmarkBytes then limitBytes - demoteWmarkBytes else 0
    if predictedWorkingsetBytes > usageWmark ∨ headroomBytes ≤ allocWmarkBytes ∨
        predictedGrowth ≥ headroomBytes - allocWmarkBytes then .strengthen
    else
      let predictedHeadroom := headroomBytes - predictedGrowth
      if predictedGrowth ≤ allocWmarkBytes ∧ predictedHeadroom ≥ demoteWmarkBytes then .relax
      else .normal

def parpTier2WorkingsetGuardAction (action : ParpTier2WssAction)
    (headroomBytes demoteWmarkBytes : UInt64) : ParpTier2WssAction :=
  if action = .relax ∧ demoteWmarkBytes ≠ 0 ∧ headroomBytes ≤ demoteWmarkBytes then .normal
  else action

def parpTier2WorkingsetEffectiveAction (policyAction liveAction : ParpTier2WssAction)
    (headroomBytes demoteWmarkBytes : UInt64) : ParpTier2WssAction :=
  let policyAction :=
    if policyAction = .strengthen ∧ liveAction ≠ .strengthen then .normal
    else if policyAction = .relax ∧ liveAction ≠ .relax then .normal
    else policyAction
  parpTier2WorkingsetGuardAction policyAction headroomBytes demoteWmarkBytes

def parpTier2WorkingsetApplyPolicy (policyAction : ParpTier2WssAction) (strengthenEnabled : Bool) :
    ParpTier2WssAction :=
  if policyAction = .strengthen ∧ strengthenEnabled = false then .normal else policyAction

/-- The kernel's `clamp_t`: the upper bound wins when the bounds cross. -/
def clampU64 (value lo hi : UInt64) : UInt64 :=
  if value ≥ hi then hi else if value ≤ lo then lo else value

def parpTier2WorkingsetDemoteWmark (limitBytes allocWmarkBytes demoteWmarkBytes
    predictedWorkingsetBytes predictedResidentBytes : UInt64) (action : ParpTier2WssAction) :
    UInt64 :=
  if action = .relax then allocWmarkBytes
  else if action ≠ .strengthen ∨ limitBytes = 0 ∨ limitBytes = u64Max ∨
      predictedResidentBytes > predictedWorkingsetBytes then demoteWmarkBytes
  else
    let predictedGrowth := predictedWorkingsetBytes - predictedResidentBytes
    let usageWmark := if limitBytes > demoteWmarkBytes then limitBytes - demoteWmarkBytes else 0
    let overflow :=
      if predictedWorkingsetBytes > usageWmark then predictedWorkingsetBytes - usageWmark else 0
    let cap := parpTier2ScaledWmark limitBytes parpTier2WssStrongMaxScale demoteWmarkBytes
    let target := max demoteWmarkBytes predictedGrowth
    let target :=
      if overflow ≥ cap - min cap demoteWmarkBytes then cap
      else max target (demoteWmarkBytes + overflow)
    clampU64 target allocWmarkBytes cap

structure Sysctls where
  tier2PredictEnabled : Bool := true
  wssPredictEnabled : Bool := true
  wssStrengthenEnabled : Bool := false
  predictLatencyMs : ℕ := 100
  predictHorizonRatio : ℕ := 3
  deriving DecidableEq

/-- The values of one `parp_tier2_workingset_update_locked` call; `prediction` is absent when the
snapshot lookup failed. -/
structure WorkingsetInput where
  limit : UInt64
  alloc : UInt64
  demote : UInt64
  headroom : UInt64
  prediction : Option ParpWorkingsetPrediction
  sysctls : Sysctls
  deriving DecidableEq

/-- The streak and the policy action after a generation first seen as `raw`. -/
def noteGeneration (state : ParpTier2Memcg) (raw : ParpTier2WssAction) : ParpTier2Memcg :=
  let streak :=
    if raw = state.workingsetRawAction ∧ state.workingsetActionStreak < u8Max then
      state.workingsetActionStreak + 1
    else 1
  let action :=
    if raw = .normal ∨ raw = .fallback then raw
    else if streak ≥ parpTier2WssActionStreak then raw
    else .normal
  { state with
    workingsetActionStreak := streak
    workingsetRawAction := raw
    workingsetPolicyAction := action }

def rawAction (input : WorkingsetInput) (prediction : ParpWorkingsetPrediction) :
    ParpTier2WssAction :=
  parpTier2WorkingsetAction input.limit input.alloc input.demote input.headroom
    prediction.predictedWorkingsetBytes prediction.predictedResidentBytes prediction.confidenceQ15

def parpTier2WorkingsetUpdateLocked (state : ParpTier2Memcg) (input : WorkingsetInput) :
    ParpTier2Memcg :=
  match input.sysctls.wssPredictEnabled, input.prediction with
  | true, some prediction =>
    let raw := rawAction input prediction
    let state :=
      if prediction.generation ≠ state.workingsetPredictionGeneration then
        noteGeneration state raw
      else state
    let applyPolicyAction := parpTier2WorkingsetApplyPolicy state.workingsetPolicyAction
      input.sysctls.wssStrengthenEnabled
    let action := parpTier2WorkingsetEffectiveAction applyPolicyAction raw input.headroom
      input.demote
    { state with
      workingsetPredictionGeneration := prediction.generation
      predictedWorkingsetBytes := prediction.predictedWorkingsetBytes
      predictedResidentBytes := prediction.predictedResidentBytes
      predictedGrowthBytes :=
        prediction.predictedWorkingsetBytes - prediction.predictedResidentBytes
      workingsetConfidenceQ15 := prediction.confidenceQ15
      workingsetAction := action
      effectiveDemoteWmarkBytes :=
        parpTier2WorkingsetDemoteWmark input.limit input.alloc input.demote
          prediction.predictedWorkingsetBytes prediction.predictedResidentBytes action }
  | _, _ =>
    { state with
      effectiveDemoteWmarkBytes := input.demote
      predictedWorkingsetBytes := 0
      predictedResidentBytes := 0
      predictedGrowthBytes := 0
      workingsetPredictionGeneration := 0
      workingsetConfidenceQ15 := 0
      workingsetRawAction := .fallback
      workingsetPolicyAction := .fallback
      workingsetAction := .fallback
      workingsetActionStreak := 0 }

theorem workingsetUpdate_frame (state : ParpTier2Memcg) (input : WorkingsetInput) :
    let stored := parpTier2WorkingsetUpdateLocked state input
    stored.scheduledForNs = state.scheduledForNs ∧ stored.enabled = state.enabled ∧
      stored.reclaimCooldownUntilNs = state.reclaimCooldownUntilNs ∧
      stored.ewmaHeadroomBytes = state.ewmaHeadroomBytes := by
  unfold parpTier2WorkingsetUpdateLocked
  split
  · dsimp only
    split <;> exact ⟨rfl, rfl, rfl, rfl⟩
  · exact ⟨rfl, rfl, rfl, rfl⟩

def parpTier2WorkingsetStateReset (state : ParpTier2Memcg) : ParpTier2Memcg :=
  { state with
    effectiveDemoteWmarkBytes := 0
    predictedWorkingsetBytes := 0
    predictedResidentBytes := 0
    predictedGrowthBytes := 0
    workingsetPredictionGeneration := 0
    workingsetConfidenceQ15 := 0
    workingsetRawAction := .fallback
    workingsetPolicyAction := .fallback
    workingsetAction := .fallback
    workingsetActionStreak := 0 }

inductive TimerCall
  | modDelayedWork (delayMs : UInt64)
  | cancelDelayedWork
  deriving DecidableEq

def cancelIf (cancel : Bool) : Option TimerCall :=
  if cancel then some .cancelDelayedWork else none

def scheduleDelay (sysctls : Sysctls) (predictedMs : ℤ) : Option UInt64 :=
  let latency : ℤ := sysctls.predictLatencyMs
  if predictedMs = 0 then some 1
  else if predictedMs > 0 ∧ predictedMs ≤ latency * sysctls.predictHorizonRatio then
    some (if predictedMs > latency then UInt64.ofNat (predictedMs - latency).toNat else 1)
  else none

/-- The code from `decide:` to `unlock:`. -/
def sampleDecide (state : ParpTier2Memcg) (nowNs : UInt64) (sysctls : Sysctls) (cancel : Bool) :
    ParpTier2Memcg × Option TimerCall :=
  if state.reclaimCooldownUntilNs ≠ 0 ∧ nowNs < state.reclaimCooldownUntilNs then
    if state.scheduledForNs ≠ 0 then
      ({ state with scheduledForNs := 0 }, some .cancelDelayedWork)
    else (state, cancelIf cancel)
  else
    let state := { state with reclaimCooldownUntilNs := 0 }
    match scheduleDelay sysctls state.predictedMs with
    | some delayMs =>
      let dueNs := nowNs + delayMs * nsecPerMsec
      if state.scheduledForNs = 0 ∨ dueNs < state.scheduledForNs then
        ({ state with scheduledForNs := dueNs }, some (.modDelayedWork delayMs))
      else (state, cancelIf cancel)
    | none =>
      if state.scheduledForNs ≠ 0 then
        ({ state with scheduledForNs := 0 }, some .cancelDelayedWork)
      else (state, cancelIf cancel)

structure SampleInput where
  maxPages : UInt64
  usagePages : UInt64
  nowNs : UInt64
  prediction : Option ParpWorkingsetPrediction := none
  sysctls : Sysctls := {}
  deriving DecidableEq

def sampleLimit (state : ParpTier2Memcg) (limit alloc demote headroom : UInt64) :
    ParpTier2Memcg × Bool :=
  let changed := state.limitBytes ≠ 0 ∧ state.limitBytes ≠ limit
  ({ state with
    ewmaValid := if changed then false else state.ewmaValid
    predictedMs := if changed then -1 else state.predictedMs
    scheduledForNs := if changed then 0 else state.scheduledForNs
    limitBytes := limit
    allocWmarkBytes := alloc
    demoteWmarkBytes := demote
    headroomBytes := headroom }, decide (changed ∧ state.scheduledForNs ≠ 0))

def sampleForecast (state : ParpTier2Memcg) (headroom nowNs : UInt64) (sysctls : Sysctls)
    (cancel : Bool) : ParpTier2Memcg × Option TimerCall :=
  let effectiveDemote := state.effectiveDemoteWmarkBytes
  if effectiveDemote = 0 ∨ headroom = u64Max then
    ({ state with ewmaValid := false, predictedMs := -1, scheduledForNs := 0 },
      cancelIf (state.scheduledForNs ≠ 0))
  else if state.ewmaValid = false then
    sampleDecide { state with
      ewmaValid := true
      previousEwmaHeadroomBytes := headroom
      ewmaHeadroomBytes := headroom
      lastSampleNs := nowNs
      predictedMs := if headroom ≤ effectiveDemote then 0 else -1 }
      nowNs sysctls cancel
  else if headroom > effectiveDemote ∧ nowNs - state.lastSampleNs < nsecPerMsec then
    (state, cancelIf cancel)
  else
    let previous := state.ewmaHeadroomBytes
    let ewma := parpTier2EwmaNext previous headroom
    let elapsedMs := (nowNs - state.lastSampleNs) / nsecPerMsec
    sampleDecide { state with
      previousEwmaHeadroomBytes := previous
      ewmaHeadroomBytes := ewma
      lastSampleNs := nowNs
      predictedMs := parpTier2PredictMs previous ewma headroom effectiveDemote elapsedMs }
      nowNs sysctls cancel

/-- `parp_tier2_memcg_sample` from the lock to the timer call it decides on. -/
def parpTier2MemcgSampleLocked (state : ParpTier2Memcg) (input : SampleInput) :
    ParpTier2Memcg × Option TimerCall :=
  if state.enabled = false ∨ state.online = false then (state, none)
  else
    let limit := parpTier2LimitBytes input.maxPages
    let headroom := parpTier2Headroom limit (parpTier2UsageBytes input.usagePages)
    let (alloc, demote) := parpTier2Watermarks limit state.allocScale state.demoteScale
    let state := parpTier2WorkingsetUpdateLocked state
      { limit := limit, alloc := alloc, demote := demote, headroom := headroom
        prediction := input.prediction, sysctls := input.sysctls }
    let (state, cancel) := sampleLimit state limit alloc demote headroom
    sampleForecast state headroom input.nowNs input.sysctls cancel

end Parp.Watermark
