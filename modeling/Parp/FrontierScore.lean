import Parp.TransitionRuns
import Parp.Words

set_option autoImplicit false

/-!
# The frontier scorer

The shared state of one lruvec and page type, the contexts of its scans and the page extensions of
the folios. A budget subtraction that would wrap gives nothing.
-/
namespace Parp.FrontierScore

open CheckedWords

def q15One : UInt32 := 32767
def batchPages : UInt64 := 128
def epochPages : UInt64 := 512
def pressurePriority : ℤ := 2
def ttlNs : UInt64 := 50 * 1000000
def intMax : ℤ := 2147483647
def u32Max : UInt64 := 4294967295
def ulongMax : UInt64 := 18446744073709551615

structure FolioExt where
  lastAccessNs : UInt64 := 0
  generationEnterNs : UInt64 := 0
  lastSelectedEpoch : UInt64 := 0
  previousIntervalMs : ℤ := 0
  accessEmaQ8 : ℤ := 0
  reuseIntervalEmaMs : ℤ := 0
  inactiveCount : ℤ := 0
  generation : ℤ := 0
deriving DecidableEq

def u64ToMs (ns : UInt64) : UInt64 := min (ns / 1000000) u32Max

/-- An `int` that is set to a `u32`. -/
def intOf (value : UInt64) : ℤ := Int.bmod value.toNat (2 ^ 32)

def saturatingInc (value : ℤ) : ℤ := if value = intMax then value else value + 1

def ema (value sample : ℤ) : ℤ :=
  let sample := min sample intMax
  let old := max value 0
  if old ≠ 0 then old + (sample - old).tdiv 4 else sample

def noteAccess (ext : FolioExt) (now : UInt64) (generation : ℤ) : FolioExt :=
  let previous := ext.lastAccessNs
  let interval := u64ToMs (now - previous)
  let ext :=
    if previous ≠ 0 ∧ previous < now then
      { ext with
        lastAccessNs := now
        previousIntervalMs := intOf interval
        reuseIntervalEmaMs := ema ext.reuseIntervalEmaMs interval.toNat }
    else { ext with lastAccessNs := now }
  let enters := ext.generation ≠ generation ∨ ext.generationEnterNs = 0
  { ext with
    accessEmaQ8 := ema ext.accessEmaQ8 256
    inactiveCount := 0
    generation := generation
    generationEnterNs := if enters then now else ext.generationEnterNs }

structure FrontierModel where
  appId : UInt32
  modelVersion : UInt32 := 1
  featureSchemaVersion : UInt32 := 1
  threshold : ℤ
  binEdges : List (List ℤ)
  weights : List (List ℤ)

def commonEdges : List (List ℤ) :=
  [[10, 100, 500, 2000, 10000], [10, 100, 500, 2000, 10000], [8, 32, 96, 160, 224],
    [10, 100, 500, 2000, 10000], [0, 1, 2, 4, 8], [0, 1, 2, 3, 5], [10, 100, 500, 2000, 10000],
    [4096, 8192, 16384, 24576, 30000]]

def frontierModels : List FrontierModel :=
  [{ appId := 0
     threshold := 96
     binEdges := commonEdges
     weights := [[38, 29, 18, 7, -9, -21], [24, 18, 11, 3, -8, -17], [-18, -7, 3, 15, 26, 37],
       [22, 16, 9, 1, -9, -19], [22, 13, 5, -5, -15, -25], [19, 11, 3, -5, -14, -23],
       [17, 11, 5, -2, -10, -19], [-22, -13, -4, 8, 21, 34]] },
    { appId := 1
      threshold := 94
      binEdges := commonEdges
      weights := [[42, 32, 20, 8, -8, -22], [26, 20, 12, 4, -8, -18], [-20, -8, 4, 16, 28, 40],
        [24, 18, 10, 2, -8, -18], [24, 14, 6, -4, -14, -26], [20, 12, 4, -4, -12, -20],
        [18, 12, 6, 0, -8, -16], [-24, -14, -4, 8, 20, 32]] },
    { appId := 2
      threshold := 100
      binEdges := commonEdges
      weights := [[36, 28, 18, 8, -6, -18], [20, 16, 10, 4, -6, -14], [-16, -6, 4, 14, 24, 34],
        [18, 14, 8, 2, -8, -16], [20, 12, 4, -4, -12, -22], [18, 10, 2, -6, -14, -22],
        [16, 10, 4, -2, -10, -18], [-30, -18, -6, 10, 26, 42]] },
    { appId := 3
      threshold := 88
      binEdges := commonEdges
      weights := [[46, 34, 20, 6, -12, -28], [30, 22, 12, 2, -10, -22], [-22, -10, 2, 16, 30, 44],
        [28, 20, 10, 0, -12, -24], [26, 16, 6, -6, -18, -30], [22, 12, 2, -8, -18, -28],
        [20, 12, 4, -4, -14, -24], [-18, -10, -2, 6, 16, 26]] }]

def frontierModel (appId : UInt32) : Option FrontierModel :=
  frontierModels[(if 3 < appId then 0 else appId).toNat]?

/-- The model of an application that passes `parp_frontier_model_valid`. -/
def validModel (appId : UInt32) : Option FrontierModel :=
  (frontierModel appId).filter fun model =>
    model.modelVersion = 1 ∧ model.featureSchemaVersion = 1

def bin (edges : List ℤ) (value : ℤ) : ℕ := (edges.takeWhile fun edge => edge < value).length

def score (model : FrontierModel) (values : List ℤ) : ℤ :=
  ((values.zip (model.binEdges.zip model.weights)).map fun v => v.2.2.getD (bin v.2.1 v.1) 0).sum

def effectivePages (pages : UInt64) (etaQ15 : UInt32) : UInt64 :=
  UInt64.ofNat (pages.toNat * etaQ15.toNat / q15One.toNat)

/-- The loop of `parp_frontier_select`. -/
def selectFrom (demand : UInt64) (etaQ15 : UInt32) :
    ℕ → UInt64 → List UInt64 → Option (Option (ℕ × UInt64))
  | _, _, [] => some none
  | i, cumulative, capacity :: capacities => do
      let effective := effectivePages capacity etaQ15
      let remaining ← checkedSub demand (min demand cumulative)
      if remaining ≤ effective then
        let headroom ← checkedSub effective remaining
        return some (i, headroom)
      else
        let room ← checkedSub ulongMax cumulative
        selectFrom demand etaQ15 (i + 1) (cumulative + min effective room) capacities

def select (capacities : List UInt64) (demand : UInt64) (etaQ15 : UInt32) :
    Option (Option (ℕ × UInt64)) :=
  if demand = 0 ∨ etaQ15 = 0 ∨ q15One < etaQ15 then some none
  else selectFrom demand etaQ15 0 0 capacities

def budgetMin (headroom appRemaining batchRemaining epochRemaining : UInt64) : UInt64 :=
  min (min headroom appRemaining) (min batchRemaining epochRemaining)

/-- What is read of the generations: `nrPages` by generation and zone. -/
structure Lrugen where
  maxSeq : UInt64
  minSeq : UInt64
  nrPages : ℕ → ℕ → ℤ

/-- The pages of a generation in the zones up to `reclaimIdx`. -/
def capacity (lrugen : Lrugen) (reclaimIdx gen : ℕ) : Option UInt64 :=
  (List.range (reclaimIdx + 1)).foldlM (fun sum zone => do
    let room ← checkedSub ulongMax sum
    return sum + min (UInt64.ofNat (lrugen.nrPages gen zone).toNat) room) 0

def chooseFrontier (lrugen : Lrugen) (reclaimIdx : ℕ) (demand : UInt64) (etaQ15 : UInt32) :
    Option (Option (UInt64 × UInt64)) := do
  let last := lrugen.maxSeq - 2
  let capacities ← (List.range (last.toNat + 1 - lrugen.minSeq.toNat)).mapM fun i : ℕ =>
    capacity lrugen reclaimIdx ((lrugen.minSeq.toNat + i) % 4)
  let chosen ← select capacities demand etaQ15
  return chosen.map fun c => (lrugen.minSeq + UInt64.ofNat c.1, c.2)

inductive Reason
  | score | disabled | notTargetMemcg | pressureBypass | noAppContext | noEfficiency | noDemand
  | noCapacity | notFrontier | metadataMissing | modelInvalid | belowThreshold | budget
  | repeatEpoch | expired
deriving DecidableEq

/-- `parp_frontier_scan_ctx`. -/
structure ScanCtx where
  valid : Bool := false
  reason : Reason := .disabled
  modelVersion : UInt32 := 0
  threshold : ℤ := 0
  efficiencyQ15 : UInt32 := 0
  appReentryQ15 : UInt32 := 0
  appId : UInt32 := 0
  domainId : UInt64 := 0
  epochId : UInt64 := 0
  foregroundEpochId : UInt64 := 0
  validUntilNs : UInt64 := 0
  sourceSeq : UInt64 := 0
  frontierSeq : UInt64 := 0
  remainingDemand : UInt64 := 0
  frontierHeadroom : UInt64 := 0
  appBudget : UInt64 := 0
  batchBudget : UInt64 := 0
  epochBudget : UInt64 := 0
  batchUsed : UInt64 := 0
  appUsed : UInt64 := 0
deriving DecidableEq

/-- `parp_frontier[type]` of the lruvec. -/
structure FrontierState where
  epochId : UInt64 := 0
  foregroundEpochId : UInt64 := 0
  validUntilNs : UInt64 := 0
  sourceSeq : UInt64 := 0
  frontierSeq : UInt64 := 0
  frontierHeadroom : UInt64 := 0
  epochPages : UInt64 := 0
  modelVersion : UInt32 := 0
  efficiencyQ15 : UInt32 := 0
  efficiencySamples : UInt32 := 0
deriving DecidableEq

structure AppContext where
  appId : UInt32
  foregroundEpochId : UInt64
  appPriorQ15 : UInt16

/-- `app` is the answer of `parp_context_lookup`. -/
structure PrepareInput where
  now : UInt64
  targetMemcg : Bool
  reclaimPriority : ℤ
  reclaimIdx : ℕ
  remainingDemand : UInt64
  domainId : UInt64
  app : Option AppContext
  lrugen : Lrugen

def nextEpoch (epochId : UInt64) : UInt64 := if epochId + 1 = 0 then 1 else epochId + 1

def Rolls (state : FrontierState) (ctx : ScanCtx) : Prop :=
  state.epochId = 0 ∨ state.sourceSeq ≠ ctx.sourceSeq ∨
    state.foregroundEpochId ≠ ctx.foregroundEpochId ∨ state.modelVersion ≠ ctx.modelVersion

instance (state : FrontierState) (ctx : ScanCtx) : Decidable (Rolls state ctx) :=
  inferInstanceAs (Decidable (_ ∨ _))

def rollEpoch (state : FrontierState) (ctx : ScanCtx) : FrontierState :=
  if Rolls state ctx then
    { state with
      sourceSeq := ctx.sourceSeq
      foregroundEpochId := ctx.foregroundEpochId
      modelVersion := ctx.modelVersion
      epochPages := 0
      epochId := nextEpoch state.epochId }
  else state

/-- The end of `__parp_frontier_prepare`, once the epoch is known. -/
def admitScan (state : FrontierState) (ctx : ScanCtx) (validUntilNs : UInt64) :
    ScanCtx × FrontierState :=
  let ctx :=
    { ctx with
      epochId := state.epochId
      validUntilNs := validUntilNs
      batchBudget := batchPages
      epochBudget := epochPages
      appBudget := max 1 (effectivePages batchPages ctx.appReentryQ15)
      reason := .score
      valid := true }
  let state :=
    { state with
      validUntilNs := validUntilNs
      frontierSeq := ctx.frontierSeq
      frontierHeadroom := ctx.frontierHeadroom }
  (ctx, state)

/-- `__parp_frontier_prepare`. -/
def prepare (state : FrontierState) (input : PrepareInput) : Option (ScanCtx × FrontierState) :=
  if input.targetMemcg = false then some ({ reason := .notTargetMemcg }, state)
  else
    let ctx : ScanCtx := { domainId := input.domainId }
    if input.reclaimPriority ≤ pressurePriority then
      some ({ ctx with reason := .pressureBypass }, state)
    else if input.remainingDemand = 0 then some ({ ctx with reason := .noDemand }, state)
    else
      match if input.domainId = 0 then none else input.app with
      | none => some ({ ctx with reason := .noAppContext }, state)
      | some app =>
        if state.efficiencySamples = 0 then some ({ ctx with reason := .noEfficiency }, state)
        else
          match validModel app.appId with
          | none => some ({ ctx with reason := .modelInvalid }, state)
          | some model => do
              let ctx :=
                { ctx with
                  threshold := model.threshold
                  modelVersion := model.modelVersion
                  appId := app.appId
                  appReentryQ15 := app.appPriorQ15.toUInt32
                  foregroundEpochId := app.foregroundEpochId
                  sourceSeq := input.lrugen.minSeq
                  remainingDemand := input.remainingDemand
                  efficiencyQ15 := state.efficiencyQ15 }
              match ← chooseFrontier input.lrugen input.reclaimIdx input.remainingDemand
                  state.efficiencyQ15 with
              | none => return ({ ctx with reason := .noCapacity }, state)
              | some (frontierSeq, headroom) =>
                let ctx :=
                  { ctx with frontierSeq := frontierSeq, frontierHeadroom := headroom }
                return admitScan (rollEpoch state ctx) ctx (input.now + ttlNs)

/-- What is read when a folio is considered; `hasExt` when `page_ext_get` finds its extension. -/
structure ConsiderInput where
  folio : ℕ
  pages : UInt64
  now : UInt64
  featureNow : UInt64
  hasExt : Bool
  lrugen : Lrugen

structure Considered where
  ctx : ScanCtx
  state : FrontierState
  ext : FolioExt
  reason : Reason
  wouldPromote : Bool := false

def features (ctx : ScanCtx) (maxSeq now : UInt64) (ext : FolioExt) :
    Option (List ℤ × FolioExt) :=
  if ext.lastAccessNs = 0 ∨ ext.generationEnterNs = 0 ∨ now < ext.lastAccessNs ∨
      now < ext.generationEnterNs then none
  else
    let inactive := saturatingInc ext.inactiveCount
    let access := ema ext.accessEmaQ8 0
    some ([(u64ToMs (now - ext.lastAccessNs)).toNat, max ext.previousIntervalMs 0, access,
      max ext.reuseIntervalEmaMs 0, inactive, min (maxSeq - ctx.sourceSeq).toNat intMax,
      (u64ToMs (now - ext.generationEnterNs)).toNat, ctx.appReentryQ15.toNat],
      { ext with inactiveCount := inactive, accessEmaQ8 := access })

def allowed (ctx : ScanCtx) (state : FrontierState) : Option UInt64 := do
  let app ← checkedSub ctx.appBudget (min ctx.appUsed ctx.appBudget)
  let batch ← checkedSub ctx.batchBudget (min ctx.batchUsed ctx.batchBudget)
  let epoch ← checkedSub ctx.epochBudget (min state.epochPages ctx.epochBudget)
  return budgetMin ctx.frontierHeadroom app batch epoch

def charge (ctx : ScanCtx) (state : FrontierState) (ext : FolioExt) (pages : UInt64) :
    Option Considered :=
  if ext.lastSelectedEpoch = ctx.epochId then some ⟨ctx, state, ext, .repeatEpoch, false⟩
  else do
    let limit ← allowed ctx state
    if limit < pages then return ⟨ctx, state, ext, .budget, false⟩
    else
      let headroom ← checkedSub ctx.frontierHeadroom pages
      return {
        ctx :=
          { ctx with
            frontierHeadroom := headroom
            batchUsed := ctx.batchUsed + pages
            appUsed := ctx.appUsed + pages }
        state := { state with epochPages := state.epochPages + pages }
        ext := { ext with lastSelectedEpoch := ctx.epochId }
        reason := .score
        wouldPromote := true }

def contextValid (now validUntilNs sourceSeq expectedSourceSeq : UInt64) : Prop :=
  validUntilNs ≠ 0 ∧ now < validUntilNs ∧ sourceSeq = expectedSourceSeq

instance (now validUntilNs sourceSeq expectedSourceSeq : UInt64) :
    Decidable (contextValid now validUntilNs sourceSeq expectedSourceSeq) :=
  inferInstanceAs (Decidable (_ ∧ _))

/-- `__parp_frontier_consider`. -/
def consider (ctx : ScanCtx) (state : FrontierState) (ext : FolioExt) (input : ConsiderInput) :
    Option Considered :=
  if ctx.valid = false then some ⟨ctx, state, ext, ctx.reason, false⟩
  else if ¬ contextValid input.now ctx.validUntilNs ctx.sourceSeq input.lrugen.minSeq then
    some ⟨ctx, state, ext, .expired, false⟩
  else if ctx.sourceSeq ≠ ctx.frontierSeq then some ⟨ctx, state, ext, .notFrontier, false⟩
  else
    match if input.hasExt then features ctx input.lrugen.maxSeq input.featureNow ext else none with
    | none => some ⟨ctx, state, ext, .metadataMissing, false⟩
    | some (values, ext) =>
      match validModel ctx.appId with
      | none => some ⟨ctx, state, ext, .modelInvalid, false⟩
      | some model =>
        if score model values < model.threshold then
          some ⟨ctx, state, ext, .belowThreshold, false⟩
        else charge ctx state ext input.pages

/-- `mul_u64_u32_div` on x86-64: a quotient of more than 64 bits raises a divide error (`none`). -/
def mulU64U32Div (a : UInt64) (mul div : UInt32) : Option UInt64 :=
  if div = 0 ∨ 2 ^ 64 ≤ a.toNat * mul.toNat / div.toNat then none
  else some (UInt64.ofNat (a.toNat * mul.toNat / div.toNat))

/-- `parp_frontier_feedback`: the difference of the two ratios is unsigned, and `isolated` is a
divisor of 32 bits. -/
def feedback (state : FrontierState) (isolated reclaimed : UInt64) : Option FrontierState :=
  if isolated = 0 then some state
  else do
    let ratio ← mulU64U32Div reclaimed q15One isolated.toUInt32
    let sample := (min ratio q15One.toUInt64).toUInt32
    return { state with
      efficiencyQ15 :=
        if state.efficiencySamples = 0 then sample
        else state.efficiencyQ15 + (sample - state.efficiencyQ15) / 4
      efficiencySamples := state.efficiencySamples + 1 }

structure System where
  state : FrontierState := {}
  ctxs : List ScanCtx := []
  exts : ℕ → FolioExt := fun _ => {}

inductive Op
  | prepare (input : PrepareInput)
  | consider (scan : ℕ) (input : ConsiderInput)
  | noteAccess (folio : ℕ) (now : UInt64) (generation : ℤ)
  | feedback (isolated reclaimed : UInt64)

structure Event where
  scan : ℕ
  folio : ℕ
  pages : UInt64
  epochId : UInt64
  reason : Reason
  wouldPromote : Bool
deriving DecidableEq

inductive Output
  | prepared (scan : ℕ) (ctx : ScanCtx) (rolled : Bool)
  | decided (event : Event)
  | wrapped
  | silent
deriving DecidableEq

def step (s : System) : Op → Output × System
  | .prepare input =>
    match prepare s.state input with
    | none => (.wrapped, s)
    | some (ctx, state) =>
      (.prepared s.ctxs.length ctx (ctx.valid && decide (Rolls s.state ctx)),
        { s with state := state, ctxs := s.ctxs ++ [ctx] })
  | .consider scan input =>
    match s.ctxs[scan]? with
    | none => (.silent, s)
    | some ctx =>
      match consider ctx s.state (s.exts input.folio) input with
      | none => (.wrapped, s)
      | some done =>
        (.decided ⟨scan, input.folio, input.pages, ctx.epochId, done.reason,
            done.wouldPromote⟩,
          { state := done.state
            ctxs := s.ctxs.set scan done.ctx
            exts := Function.update s.exts input.folio done.ext })
  | .noteAccess folio now generation =>
    (.silent,
      { s with exts := Function.update s.exts folio (noteAccess (s.exts folio) now generation) })
  | .feedback isolated reclaimed =>
    (.silent, { s with state := (feedback s.state isolated reclaimed).getD s.state })

/-!
# The efficiency of a frontier

The moving average of the reclaimed ratio. The difference of a sample and the average has the type
of the average, which is unsigned, so a sample below the average adds a quarter of the words.
-/

open TransitionRuns

section

/-- A call of `parp_frontier_feedback`. -/
structure FeedbackCall where
  isolated : UInt64
  reclaimed : UInt64
  positive : isolated ≠ 0
  small : isolated.toNat < 2 ^ 32

def FeedbackCall.ratio (c : FeedbackCall) : ℕ :=
  c.reclaimed.toNat * q15One.toNat / c.isolated.toNat

def FeedbackCall.sample (c : FeedbackCall) : UInt32 := UInt32.ofNat (min c.ratio q15One.toNat)

/-- Whether the call returned, and the state after it. -/
def feedbackStep (state : FrontierState) (c : FeedbackCall) : Bool × FrontierState :=
  ((feedback state c.isolated c.reclaimed).isSome,
    (feedback state c.isolated c.reclaimed).getD state)

variable {state : FrontierState} {c : FeedbackCall}

theorem sample_toNat (c : FeedbackCall) : c.sample.toNat = min c.ratio 32767 := by
  have hsmall : min c.ratio 32767 < 2 ^ 32 := by omega
  exact UInt32.toNat_ofNat_of_lt' hsmall

theorem sample_le (c : FeedbackCall) : c.sample ≤ q15One := by
  rw [UInt32.le_iff_toNat_le, sample_toNat]
  exact Nat.min_le_right _ _

theorem mulU64U32Div_call (c : FeedbackCall) :
    mulU64U32Div c.reclaimed q15One c.isolated.toUInt32 =
      if 2 ^ 64 ≤ c.ratio then none else some (UInt64.ofNat c.ratio) := by
  have hdiv : c.isolated.toUInt32.toNat = c.isolated.toNat := by
    rw [UInt64.toNat_toUInt32]
    exact Nat.mod_eq_of_lt c.small
  have hpositive : c.isolated.toUInt32 ≠ 0 := by
    intro hzero
    rw [hzero] at hdiv
    exact c.positive (UInt64.toNat_inj.1 hdiv.symm)
  unfold mulU64U32Div FeedbackCall.ratio
  rw [hdiv]
  exact if_congr (or_iff_right hpositive) rfl rfl

theorem feedbackStep_efficiency (state : FrontierState) (c : FeedbackCall) :
    ((feedbackStep state c).1 = true ↔ c.ratio < 2 ^ 64) ∧
    (c.ratio < 2 ^ 64 → (feedbackStep state c).2.efficiencyQ15 =
      if state.efficiencySamples = 0 then c.sample
      else state.efficiencyQ15 + (c.sample - state.efficiencyQ15) / 4) := by
  unfold feedbackStep feedback
  rw [if_neg c.positive, mulU64U32Div_call]
  by_cases hfits : c.ratio < 2 ^ 64
  · have hsample : (min (UInt64.ofNat c.ratio) q15One.toUInt64).toUInt32 = c.sample := by
      rw [← UInt32.toNat_inj, sample_toNat, UInt64.toNat_toUInt32, UInt64.toNat_min,
        UInt64.toNat_ofNat_of_lt' hfits]
      change min c.ratio 32767 % 2 ^ 32 = _
      omega
    rw [if_neg (Nat.not_le.2 hfits)]
    refine ⟨iff_of_true rfl hfits, fun _ => ?_⟩
    rw [← hsample]
    rfl
  · rw [if_pos (Nat.not_lt.1 hfits)]
    exact ⟨iff_of_false nofun hfits, fun h => absurd h hfits⟩

theorem average_rises {old sample : UInt32} (h : old ≤ sample) :
    old ≤ old + (sample - old) / 4 ∧ old + (sample - old) / 4 ≤ sample := by
  have hle := UInt32.le_iff_toNat_le.1 h
  have hbound := sample.toNat_lt
  rw [UInt32.le_iff_toNat_le, UInt32.le_iff_toNat_le, UInt32.toNat_add, UInt32.toNat_div,
    UInt32.toNat_sub_of_le _ _ h]
  change _ ≤ (_ + _ / 4) % _ ∧ (_ + _ / 4) % _ ≤ _
  have hquarter := Nat.div_le_self (sample.toNat - old.toNat) 4
  rw [Nat.mod_eq_of_lt (by omega)]
  omega

theorem average_leaves {old sample : UInt32} (h : sample < old) (hold : old ≤ q15One) :
    q15One < old + (sample - old) / 4 := by
  have hlt := UInt32.lt_iff_toNat_lt.1 h
  have hle := UInt32.le_iff_toNat_le.1 hold
  change old.toNat ≤ 32767 at hle
  rw [UInt32.lt_iff_toNat_lt, UInt32.toNat_add, UInt32.toNat_div, UInt32.toNat_sub]
  change 32767 < (_ + _ / 4) % _
  omega

end

section

/-- What a call should keep: it returns with a Q15 fraction between the last one and the sample,
which no scan is refused for. -/
structure Fraction (state : FrontierState) (c : FeedbackCall) : Prop where
  returns : (feedbackStep state c).1 = true
  bounded : (feedbackStep state c).2.efficiencyQ15 ≤ q15One
  first : state.efficiencySamples = 0 → (feedbackStep state c).2.efficiencyQ15 = c.sample
  between : state.efficiencySamples ≠ 0 →
    state.efficiencyQ15 ≤ (feedbackStep state c).2.efficiencyQ15 ∧
        (feedbackStep state c).2.efficiencyQ15 ≤ c.sample ∨
      c.sample ≤ (feedbackStep state c).2.efficiencyQ15 ∧
        (feedbackStep state c).2.efficiencyQ15 ≤ state.efficiencyQ15
  selects : ∀ (capacities : List UInt64) (demand : UInt64), demand ≠ 0 →
    (feedbackStep state c).2.efficiencyQ15 ≠ 0 →
      select capacities demand (feedbackStep state c).2.efficiencyQ15 =
        selectFrom demand (feedbackStep state c).2.efficiencyQ15 0 0 capacities

/-- The ratio fits in 64 bits, and the sample is not below the average. -/
def Rises (state : FrontierState) (c : FeedbackCall) : Prop :=
  c.ratio < 2 ^ 64 ∧ (state.efficiencySamples = 0 ∨ state.efficiencyQ15 ≤ c.sample)

variable {state : FrontierState} {c : FeedbackCall}

theorem select_bounded {etaQ15 : UInt32} (h : etaQ15 ≤ q15One) (hpos : etaQ15 ≠ 0)
    (capacities : List UInt64) {demand : UInt64} (hdemand : demand ≠ 0) :
    select capacities demand etaQ15 = selectFrom demand etaQ15 0 0 capacities := by
  unfold select
  rw [if_neg]
  rintro (hzero | hzero | hlarge)
  · exact hdemand hzero
  · exact hpos hzero
  · exact UInt32.not_lt.2 h hlarge

theorem fraction_of_rises (h : Rises state c) : Fraction state c := by
  obtain ⟨hfits, hrises⟩ := h
  obtain ⟨hreturns, hstored⟩ := feedbackStep_efficiency state c
  have hefficiency := hstored hfits
  have hsample := sample_le c
  by_cases hfirst : state.efficiencySamples = 0
  · rw [if_pos hfirst] at hefficiency
    have hbounded : (feedbackStep state c).2.efficiencyQ15 ≤ q15One := hefficiency ▸ hsample
    exact ⟨hreturns.2 hfits, hbounded, fun _ => hefficiency, fun hne => absurd hfirst hne,
      fun capacities _ hdemand hpos => select_bounded hbounded hpos capacities hdemand⟩
  · rw [if_neg hfirst] at hefficiency
    have hle := hrises.resolve_left hfirst
    obtain ⟨hlower, hupper⟩ := average_rises hle
    rw [← hefficiency] at hlower hupper
    have hbounded := UInt32.le_trans hupper hsample
    exact ⟨hreturns.2 hfits, hbounded, fun hzero => absurd hzero hfirst,
      fun _ => .inl ⟨hlower, hupper⟩,
      fun capacities _ hdemand hpos => select_bounded hbounded hpos capacities hdemand⟩

theorem rises_of_fraction (h : Fraction state c) (hstate : state.efficiencyQ15 ≤ q15One) :
    Rises state c := by
  obtain ⟨hreturns, hstored⟩ := feedbackStep_efficiency state c
  have hfits := hreturns.1 h.returns
  refine ⟨hfits, ?_⟩
  by_cases hfirst : state.efficiencySamples = 0
  · exact .inl hfirst
  · refine .inr (UInt32.not_lt.1 fun hfalls => ?_)
    have hbounded := h.bounded
    rw [hstored hfits, if_neg hfirst] at hbounded
    exact UInt32.not_lt.2 hbounded (average_leaves hfalls hstate)

/-- From a state within Q15, every call of a run keeps the average a Q15 fraction exactly where every
ratio fits and no sample falls below the average of its time. -/
theorem along_fraction (calls : List FeedbackCall) :
    ∀ state : FrontierState, state.efficiencyQ15 ≤ q15One →
      (Along feedbackStep Fraction state calls ↔ Along feedbackStep Rises state calls) := by
  induction calls with
  | nil => exact fun _ _ => Iff.rfl
  | cons c calls ih =>
    intro state hstate
    constructor
    · rintro ⟨hfraction, hrest⟩
      exact ⟨rises_of_fraction hfraction hstate, (ih _ hfraction.bounded).1 hrest⟩
    · rintro ⟨hrises, hrest⟩
      have hfraction := fraction_of_rises hrises
      exact ⟨hfraction, (ih _ hfraction.bounded).2 hrest⟩

theorem efficiency_fraction (calls : List FeedbackCall) :
    Along feedbackStep Fraction {} calls ↔ Along feedbackStep Rises {} calls :=
  along_fraction calls {} (by decide)

def fallingCalls : List FeedbackCall := [⟨1, 1, by decide, by decide⟩, ⟨1, 0, by decide, by decide⟩]

/-- After them the average is above Q15, and every scan is refused. -/
theorem fallingCalls_leave :
    q15One < (after feedbackStep {} fallingCalls).efficiencyQ15 ∧
      select [1000] 1 (after feedbackStep {} fallingCalls).efficiencyQ15 = some none ∧
        ¬ Along feedbackStep Fraction {} fallingCalls := by
  refine ⟨by decide, by decide, fun h => ?_⟩
  have hsecond := h.2.1.bounded
  revert hsecond
  decide

end

end Parp.FrontierScore
