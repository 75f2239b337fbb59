import Parp.Words
import Parp.SnapshotPublication
import Parp.Tier2Reclaim
import Parp.WatermarkHysteresis

set_option autoImplicit false

/-!
# The action a working-set update applies

The checked functions repeat the code with arithmetic that stops where a word would wrap. They agree
with the code on every prediction a lookup in the published snapshot can return.
-/
namespace Parp.WorkingsetActions

open Watermark WatermarkHysteresis Tier2Reclaim CheckedWords
open Snapshot SnapshotUpdates SnapshotPublication
open TransitionRuns

/-- `a > b ? a - b : 0`. -/
def excessChecked (a b : UInt64) : Option UInt64 := if a > b then checkedSub a b else some 0

/-- `parp_tier2_workingset_action`. -/
def workingsetActionChecked (limitBytes allocWmarkBytes demoteWmarkBytes headroomBytes
    predictedWorkingsetBytes predictedResidentBytes : UInt64) (confidenceQ15 : UInt16) :
    Option ParpTier2WssAction :=
  if limitBytes = 0 ∨ limitBytes = u64Max ∨ allocWmarkBytes = 0 ∨ demoteWmarkBytes = 0 ∨
      headroomBytes = u64Max ∨ predictedWorkingsetBytes = 0 ∨
      predictedResidentBytes > predictedWorkingsetBytes ∨
      confidenceQ15 < parpTier2WssMinConfidenceQ15 then some .fallback
  else do
    let predictedGrowth ← checkedSub predictedWorkingsetBytes predictedResidentBytes
    let usageWmark ← excessChecked limitBytes demoteWmarkBytes
    if predictedWorkingsetBytes > usageWmark ∨ headroomBytes ≤ allocWmarkBytes then
      some .strengthen
    else do
      let reserve ← checkedSub headroomBytes allocWmarkBytes
      if predictedGrowth ≥ reserve then some .strengthen
      else do
        let predictedHeadroom ← checkedSub headroomBytes predictedGrowth
        if predictedGrowth ≤ allocWmarkBytes ∧ predictedHeadroom ≥ demoteWmarkBytes then some .relax
        else some .normal

def strongTargetChecked (cap demoteWmarkBytes overflow target : UInt64) : Option UInt64 := do
  let room ← checkedSub cap (min cap demoteWmarkBytes)
  if overflow ≥ room then some cap
  else do
    let reserve ← checkedAdd demoteWmarkBytes overflow
    some (max target reserve)

/-- `parp_tier2_workingset_demote_wmark`. -/
def workingsetDemoteWmarkChecked (limitBytes allocWmarkBytes demoteWmarkBytes
    predictedWorkingsetBytes predictedResidentBytes : UInt64) (action : ParpTier2WssAction) :
    Option UInt64 :=
  if action = .relax then some allocWmarkBytes
  else if action ≠ .strengthen ∨ limitBytes = 0 ∨ limitBytes = u64Max ∨
      predictedResidentBytes > predictedWorkingsetBytes then some demoteWmarkBytes
  else do
    let predictedGrowth ← checkedSub predictedWorkingsetBytes predictedResidentBytes
    let usageWmark ← excessChecked limitBytes demoteWmarkBytes
    let overflow ← excessChecked predictedWorkingsetBytes usageWmark
    let cap := parpTier2ScaledWmark limitBytes parpTier2WssStrongMaxScale demoteWmarkBytes
    let target ← strongTargetChecked cap demoteWmarkBytes overflow
      (max demoteWmarkBytes predictedGrowth)
    some (clampU64 target allocWmarkBytes cap)

/-- `parp_tier2_workingset_update_locked`. -/
def workingsetUpdateChecked (state : ParpTier2Memcg) (input : WorkingsetInput) :
    Option ParpTier2Memcg :=
  match input.sysctls.wssPredictEnabled, input.prediction with
  | true, some prediction => do
      let raw ← workingsetActionChecked input.limit input.alloc input.demote input.headroom
        prediction.predictedWorkingsetBytes prediction.predictedResidentBytes
        prediction.confidenceQ15
      let state :=
        if prediction.generation ≠ state.workingsetPredictionGeneration then
          noteGeneration state raw
        else state
      let growth ← checkedSub prediction.predictedWorkingsetBytes prediction.predictedResidentBytes
      let applyPolicyAction := parpTier2WorkingsetApplyPolicy state.workingsetPolicyAction
        input.sysctls.wssStrengthenEnabled
      let action := parpTier2WorkingsetEffectiveAction applyPolicyAction raw input.headroom
        input.demote
      let effectiveDemote ← workingsetDemoteWmarkChecked input.limit input.alloc input.demote
        prediction.predictedWorkingsetBytes prediction.predictedResidentBytes action
      some { state with
        workingsetPredictionGeneration := prediction.generation
        predictedWorkingsetBytes := prediction.predictedWorkingsetBytes
        predictedResidentBytes := prediction.predictedResidentBytes
        predictedGrowthBytes := growth
        workingsetConfidenceQ15 := prediction.confidenceQ15
        workingsetAction := action
        effectiveDemoteWmarkBytes := effectiveDemote }
  | _, _ => some (parpTier2WorkingsetUpdateLocked state input)

theorem excessChecked_eq (a b : UInt64) :
    excessChecked a b = some (if a > b then a - b else 0) := by
  unfold excessChecked
  split_ifs with habove
  · exact checkedSub_of_le (UInt64.le_of_lt habove)
  · rfl

theorem workingsetActionChecked_eq (limitBytes allocWmarkBytes demoteWmarkBytes headroomBytes
    predictedWorkingsetBytes predictedResidentBytes : UInt64) (confidenceQ15 : UInt16) :
    workingsetActionChecked limitBytes allocWmarkBytes demoteWmarkBytes headroomBytes
        predictedWorkingsetBytes predictedResidentBytes confidenceQ15 =
      some (parpTier2WorkingsetAction limitBytes allocWmarkBytes demoteWmarkBytes headroomBytes
        predictedWorkingsetBytes predictedResidentBytes confidenceQ15) := by
  unfold workingsetActionChecked parpTier2WorkingsetAction
  split
  · rfl
  · rename_i hguard
    simp only [not_or, gt_iff_lt, UInt64.not_lt] at hguard
    have hresident : predictedResidentBytes ≤ predictedWorkingsetBytes := hguard.2.2.2.2.2.2.1
    dsimp only
    rw [checkedSub_of_le hresident, excessChecked_eq]
    simp only [Option.bind_eq_bind, Option.bind_some]
    generalize ite (limitBytes > demoteWmarkBytes) _ _ = usageWmark
    generalize predictedWorkingsetBytes - predictedResidentBytes = growth
    by_cases hfull : predictedWorkingsetBytes > usageWmark ∨ headroomBytes ≤ allocWmarkBytes
    · have hstrengthen : predictedWorkingsetBytes > usageWmark ∨
          headroomBytes ≤ allocWmarkBytes ∨ growth ≥ headroomBytes - allocWmarkBytes :=
        hfull.imp_right fun hlow => .inl hlow
      rw [if_pos hfull, if_pos hstrengthen]
    · rw [if_neg hfull]
      have hroom : allocWmarkBytes ≤ headroomBytes := by
        rw [not_or, UInt64.not_le] at hfull
        exact UInt64.le_of_lt hfull.2
      rw [checkedSub_of_le hroom, Option.bind_some]
      by_cases hgrowth : growth ≥ headroomBytes - allocWmarkBytes
      · rw [if_pos hgrowth, if_pos (.inr (.inr hgrowth))]
      · have hbelow : growth ≤ headroomBytes := by
          rw [ge_iff_le, UInt64.not_le] at hgrowth
          have hnat := UInt64.lt_iff_toNat_lt.1 hgrowth
          rw [UInt64.toNat_sub_of_le _ _ hroom] at hnat
          exact UInt64.le_iff_toNat_le.2 (by omega)
        have hnot : ¬ (predictedWorkingsetBytes > usageWmark ∨
            headroomBytes ≤ allocWmarkBytes ∨ growth ≥ headroomBytes - allocWmarkBytes) := by
          tauto
        rw [if_neg hgrowth, checkedSub_of_le hbelow, Option.bind_some, if_neg hnot]
        split_ifs <;> rfl

theorem max_toNat (a b : UInt64) : (max a b).toNat = max a.toNat b.toNat := by
  change (if a ≤ b then b else a).toNat = _
  simp only [UInt64.le_iff_toNat_le]
  split_ifs <;> omega

theorem strongCap_toNat {limitBytes : UInt64} (hlimit : limitBytes ≠ 0) (floor : UInt64) :
    (parpTier2ScaledWmark limitBytes parpTier2WssStrongMaxScale floor).toNat =
      max (limitBytes.toNat * 1000 / 10000) floor.toNat := by
  have hbound := limitBytes.toNat_lt
  unfold parpTier2ScaledWmark
  rw [if_neg (not_or.2 ⟨hlimit, by decide⟩), max_toNat, UInt64.toNat_ofNat_of_lt']
  · rfl
  · change limitBytes.toNat * 1000 / 10000 < 2 ^ 64
    omega

theorem le_strongCap {limitBytes : UInt64} (hlimit : limitBytes ≠ 0) (floor : UInt64) :
    floor ≤ parpTier2ScaledWmark limitBytes parpTier2WssStrongMaxScale floor := by
  rw [UInt64.le_iff_toNat_le, strongCap_toNat hlimit]
  exact Nat.le_max_right _ _

theorem reserve_lt {cap demote overflow : UInt64} (hcap : demote ≤ cap)
    (hroom : overflow < cap - min cap demote) :
    demote.toNat + overflow.toNat < cap.toNat := by
  have hmin : min cap demote = demote := by
    change (if cap ≤ demote then cap else demote) = demote
    split_ifs with hle
    · exact UInt64.le_antisymm hle hcap
    · rfl
  rw [hmin, UInt64.lt_iff_toNat_lt, UInt64.toNat_sub_of_le _ _ hcap] at hroom
  rw [UInt64.le_iff_toNat_le] at hcap
  omega

theorem strongTargetChecked_eq {cap demoteWmarkBytes : UInt64} (hcap : demoteWmarkBytes ≤ cap)
    (overflow target : UInt64) :
    strongTargetChecked cap demoteWmarkBytes overflow target =
      some (if overflow ≥ cap - min cap demoteWmarkBytes then cap
        else max target (demoteWmarkBytes + overflow)) := by
  have hmin : min cap demoteWmarkBytes ≤ cap := by
    change (if cap ≤ demoteWmarkBytes then cap else demoteWmarkBytes) ≤ cap
    split_ifs
    · exact UInt64.le_refl _
    · exact hcap
  unfold strongTargetChecked
  rw [checkedSub_of_le hmin]
  simp only [Option.bind_eq_bind, Option.bind_some]
  split_ifs with hroom
  · rfl
  · have hreserve := reserve_lt hcap (UInt64.not_le.1 hroom)
    rw [checkedAdd_of_lt (Nat.lt_trans hreserve cap.toNat_lt)]
    rfl

theorem workingsetDemoteWmarkChecked_eq (limitBytes allocWmarkBytes demoteWmarkBytes
    predictedWorkingsetBytes predictedResidentBytes : UInt64) (action : ParpTier2WssAction) :
    workingsetDemoteWmarkChecked limitBytes allocWmarkBytes demoteWmarkBytes
        predictedWorkingsetBytes predictedResidentBytes action =
      some (parpTier2WorkingsetDemoteWmark limitBytes allocWmarkBytes demoteWmarkBytes
        predictedWorkingsetBytes predictedResidentBytes action) := by
  unfold workingsetDemoteWmarkChecked parpTier2WorkingsetDemoteWmark
  split
  · rfl
  · split
    · rfl
    · rename_i hguard
      simp only [not_or, gt_iff_lt, UInt64.not_lt] at hguard
      obtain ⟨-, hlimit, -, hresident⟩ := hguard
      simp only [checkedSub_of_le hresident, excessChecked_eq, Option.bind_eq_bind,
        Option.bind_some, strongTargetChecked_eq (le_strongCap hlimit demoteWmarkBytes)]

variable (state : ParpTier2Memcg) {input : WorkingsetInput}

/-- No subtraction and no addition of the update wraps when the resident part is within the
predicted working set. -/
theorem workingsetUpdateChecked_eq (input : WorkingsetInput)
    (hresident : ∀ prediction ∈ input.prediction,
      prediction.predictedResidentBytes ≤ prediction.predictedWorkingsetBytes) :
    workingsetUpdateChecked state input = some (parpTier2WorkingsetUpdateLocked state input) := by
  unfold workingsetUpdateChecked
  split
  · rename_i prediction henabled hprediction
    unfold parpTier2WorkingsetUpdateLocked rawAction
    rw [henabled, hprediction]
    dsimp only
    rw [workingsetActionChecked_eq, checkedSub_of_le (hresident prediction hprediction)]
    simp only [Option.bind_eq_bind, Option.bind_some, workingsetDemoteWmarkChecked_eq]
  · rfl

theorem le_clampU64 {bound value lo hi : UInt64} (hvalue : bound ≤ value) (hhi : bound ≤ hi) :
    bound ≤ clampU64 value lo hi := by
  unfold clampU64
  split_ifs with hhigh hlow
  · exact hhi
  · exact UInt64.le_trans hvalue hlow
  · exact hvalue

theorem le_max_left (a b : UInt64) : a ≤ max a b := by
  rw [UInt64.le_iff_toNat_le, max_toNat]
  exact Nat.le_max_left _ _

theorem demoteWmark_strengthen {allocWmarkBytes demoteWmarkBytes : UInt64}
    (halloc : allocWmarkBytes ≤ demoteWmarkBytes)
    (limitBytes predictedWorkingsetBytes predictedResidentBytes : UInt64) :
    demoteWmarkBytes ≤ parpTier2WorkingsetDemoteWmark limitBytes allocWmarkBytes demoteWmarkBytes
        predictedWorkingsetBytes predictedResidentBytes .strengthen ∧
      (parpTier2WorkingsetDemoteWmark limitBytes allocWmarkBytes demoteWmarkBytes
        predictedWorkingsetBytes predictedResidentBytes .strengthen).toNat ≤
        max demoteWmarkBytes.toNat (limitBytes.toNat * 1000 / 10000) := by
  unfold parpTier2WorkingsetDemoteWmark
  rw [if_neg (by decide)]
  split
  · exact ⟨UInt64.le_refl _, Nat.le_max_left _ _⟩
  · rename_i hguard
    simp only [not_or] at hguard
    have hlimit : limitBytes ≠ 0 := hguard.2.1
    have hcap := le_strongCap hlimit demoteWmarkBytes
    dsimp only
    constructor
    · generalize ite (limitBytes > demoteWmarkBytes) _ _ = usageWmark
      generalize ite (predictedWorkingsetBytes > usageWmark) _ _ = overflow
      apply le_clampU64 _ hcap
      split_ifs
      · exact hcap
      · exact UInt64.le_trans (le_max_left _ _) (le_max_left _ _)
    · rw [Nat.max_comm, ← strongCap_toNat hlimit]
      exact UInt64.le_iff_toNat_le.1 (clampU64_bounds _ (UInt64.le_trans halloc hcap)).2

theorem demoteWmark_other {action : ParpTier2WssAction} (hrelax : action ≠ .relax)
    (hstrengthen : action ≠ .strengthen) (limitBytes allocWmarkBytes demoteWmarkBytes
    predictedWorkingsetBytes predictedResidentBytes : UInt64) :
    parpTier2WorkingsetDemoteWmark limitBytes allocWmarkBytes demoteWmarkBytes
      predictedWorkingsetBytes predictedResidentBytes action = demoteWmarkBytes := by
  unfold parpTier2WorkingsetDemoteWmark
  rw [if_neg hrelax, if_pos (.inl hstrengthen)]

variable {policyAction : ParpTier2WssAction} {prediction : ParpWorkingsetPrediction}
  {seen : List ParpTier2WssAction}

theorem applyPolicy_strengthen {strengthenEnabled : Bool}
    (h : parpTier2WorkingsetApplyPolicy policyAction strengthenEnabled = .strengthen) :
    policyAction = .strengthen ∧ strengthenEnabled = true := by
  unfold parpTier2WorkingsetApplyPolicy at h
  split_ifs at h with hoff
  cases strengthenEnabled with
  | true => exact ⟨h, rfl⟩
  | false => exact absurd ⟨h, rfl⟩ hoff

theorem applyPolicy_relax {strengthenEnabled : Bool}
    (h : parpTier2WorkingsetApplyPolicy policyAction strengthenEnabled = .relax) :
    policyAction = .relax := by
  unfold parpTier2WorkingsetApplyPolicy at h
  split_ifs at h
  exact h

theorem effectiveAction_exceptional {policyAction liveAction action : ParpTier2WssAction}
    {headroomBytes demoteWmarkBytes : UInt64}
    (h : parpTier2WorkingsetEffectiveAction policyAction liveAction headroomBytes
      demoteWmarkBytes = action) (hexceptional : Exceptional action) :
    policyAction = action ∧ liveAction = action ∧
      (action = .relax → demoteWmarkBytes = 0 ∨ demoteWmarkBytes < headroomBytes) := by
  have hnormal : action ≠ .normal := by
    rintro rfl
    rcases hexceptional with hcase | hcase <;> cases hcase
  unfold parpTier2WorkingsetEffectiveAction parpTier2WorkingsetGuardAction at h
  dsimp only at h
  split at h
  · exact absurd h.symm hnormal
  · rename_i hstrengthen
    split at h
    · exact absurd h.symm hnormal
    · rename_i hrelax
      split at h
      · exact absurd h.symm hnormal
      · rename_i hguard
        subst h
        refine ⟨rfl, ?_, fun hcase => ?_⟩
        · rcases hexceptional with hcase | hcase
          · rw [hcase]
            exact not_not.1 fun hne => hrelax ⟨hcase, hne⟩
          · rw [hcase]
            exact not_not.1 fun hne => hstrengthen ⟨hcase, hne⟩
        · by_cases hzero : demoteWmarkBytes = 0
          · exact .inl hzero
          · exact .inr (UInt64.not_le.1 fun hle => hguard ⟨hcase, hzero, hle⟩)

theorem rawAction_relax {input : WorkingsetInput} (h : rawAction input prediction = .relax) :
    input.demote ≠ 0 := by
  intro hzero
  unfold rawAction parpTier2WorkingsetAction at h
  rw [if_pos (.inr (.inr (.inr (.inl hzero))))] at h
  cases h

/-- The classifications of the generations first seen since the policy was reset, newest first,
after an update. -/
def noteUpdate (seen : List ParpTier2WssAction) (state : ParpTier2Memcg) (input : WorkingsetInput) :
    List ParpTier2WssAction :=
  match input.sysctls.wssPredictEnabled, input.prediction with
  | true, some prediction =>
    if prediction.generation ≠ state.workingsetPredictionGeneration then
      rawAction input prediction :: seen
    else seen
  | _, _ => []

structure Hysteresis where
  streak : UInt8 := 0
  raw : ParpTier2WssAction := .fallback
  policy : ParpTier2WssAction := .fallback
  deriving DecidableEq

def hysteresisOf (state : ParpTier2Memcg) : Hysteresis where
  streak := state.workingsetActionStreak
  raw := state.workingsetRawAction
  policy := state.workingsetPolicyAction

structure Confirms (hysteresis : Hysteresis) (seen : List ParpTier2WssAction) : Prop where
  once : 1 ≤ hysteresis.streak.toNat → ∃ older, seen = hysteresis.raw :: older
  twice : 2 ≤ hysteresis.streak.toNat → Confirmed hysteresis.raw seen
  policy : Exceptional hysteresis.policy → Confirmed hysteresis.policy seen

theorem confirms_reset : Confirms {} [] where
  once h := absurd h (by decide)
  twice h := absurd h (by decide)
  policy h := by rcases h with h | h <;> cases h

theorem confirms_note {state : ParpTier2Memcg} (h : Confirms (hysteresisOf state) seen)
    (raw : ParpTier2WssAction) :
    Confirms (hysteresisOf (noteGeneration state raw)) (raw :: seen) := by
  have htwice : 2 ≤ (noteGeneration state raw).workingsetActionStreak.toNat →
      Confirmed raw (raw :: seen) := by
    rw [noteGeneration_streak]
    split_ifs with hagain
    · intro hle
      obtain ⟨older, rfl⟩ := h.once (Nat.le_of_succ_le_succ hle)
      exact ⟨older, by rw [hagain.1]; rfl⟩
    · intro hle
      omega
  refine ⟨fun _ => ⟨seen, rfl⟩, htwice, ?_⟩
  change Exceptional (noteGeneration state raw).workingsetPolicyAction →
    Confirmed (noteGeneration state raw).workingsetPolicyAction _
  rw [noteGeneration_policy]
  split_ifs with hheld
  · intro hexceptional
    rcases hexceptional with hcase | hcase <;> cases hcase
  · intro hexceptional
    exact htwice (not_not.1 fun hnot => hheld ⟨hexceptional, hnot⟩)

theorem confirms_update {state : ParpTier2Memcg} (h : Confirms (hysteresisOf state) seen)
    (input : WorkingsetInput) :
    Confirms (hysteresisOf (parpTier2WorkingsetUpdateLocked state input))
      (noteUpdate seen state input) := by
  unfold parpTier2WorkingsetUpdateLocked noteUpdate
  cases input.sysctls.wssPredictEnabled with
  | false => exact confirms_reset
  | true =>
    cases input.prediction with
    | none => exact confirms_reset
    | some prediction =>
      dsimp only
      by_cases hnew : prediction.generation ≠ state.workingsetPredictionGeneration
      · rw [if_pos hnew, if_pos hnew]
        have hnoted := confirms_note h (rawAction input prediction)
        generalize noteGeneration state (rawAction input prediction) = after at hnoted ⊢
        exact hnoted
      · rw [if_neg hnew, if_neg hnew]
        exact h

def LiveAction (input : WorkingsetInput) (action : ParpTier2WssAction) : Prop :=
  input.sysctls.wssPredictEnabled = true ∧
    ∃ prediction, input.prediction = some prediction ∧ rawAction input prediction = action

/-- What an update stores: `seen` is what has been classified up to and with it. -/
structure ActionSafe (seen : List ParpTier2WssAction) (input : WorkingsetInput)
    (stored : ParpTier2Memcg) : Prop where
  strengthen : stored.workingsetAction = .strengthen →
    stored.workingsetPolicyAction = .strengthen ∧ Confirmed .strengthen seen ∧
      input.sysctls.wssStrengthenEnabled = true ∧ LiveAction input .strengthen
  relax : stored.workingsetAction = .relax →
    stored.workingsetPolicyAction = .relax ∧ Confirmed .relax seen ∧ LiveAction input .relax ∧
      input.demote < input.headroom
  relaxedWmark : stored.workingsetAction = .relax →
    stored.effectiveDemoteWmarkBytes = input.alloc
  strongWmark : stored.workingsetAction = .strengthen →
    input.demote ≤ stored.effectiveDemoteWmarkBytes ∧
      stored.effectiveDemoteWmarkBytes.toNat ≤
        max input.demote.toNat (input.limit.toNat * 1000 / 10000)
  plainWmark : stored.workingsetAction ≠ .relax → stored.workingsetAction ≠ .strengthen →
    stored.effectiveDemoteWmarkBytes = input.demote

theorem update_predicted (henabled : input.sysctls.wssPredictEnabled = true)
    (hprediction : input.prediction = some prediction) :
    let stored := parpTier2WorkingsetUpdateLocked state input
    stored.workingsetAction =
        parpTier2WorkingsetEffectiveAction
          (parpTier2WorkingsetApplyPolicy stored.workingsetPolicyAction
            input.sysctls.wssStrengthenEnabled)
          (rawAction input prediction) input.headroom input.demote ∧
      stored.effectiveDemoteWmarkBytes =
        parpTier2WorkingsetDemoteWmark input.limit input.alloc input.demote
          prediction.predictedWorkingsetBytes prediction.predictedResidentBytes
          stored.workingsetAction := by
  unfold parpTier2WorkingsetUpdateLocked
  rw [henabled, hprediction]
  dsimp only
  generalize (if prediction.generation ≠ state.workingsetPredictionGeneration then _
    else state) = after
  exact ⟨rfl, rfl⟩

theorem update_fallback
    (hnone : ¬ (input.sysctls.wssPredictEnabled = true ∧ input.prediction.isSome)) :
    (parpTier2WorkingsetUpdateLocked state input).workingsetAction = .fallback ∧
      (parpTier2WorkingsetUpdateLocked state input).effectiveDemoteWmarkBytes = input.demote := by
  unfold parpTier2WorkingsetUpdateLocked
  split
  · rename_i prediction henabled hprediction
    exact absurd ⟨henabled, by rw [hprediction]; rfl⟩ hnone
  · exact ⟨rfl, rfl⟩

theorem update_safe {state : ParpTier2Memcg} (h : Confirms (hysteresisOf state) seen)
    {input : WorkingsetInput} (halloc : input.alloc ≤ input.demote) :
    ActionSafe (noteUpdate seen state input) input
      (parpTier2WorkingsetUpdateLocked state input) := by
  have hpolicy := (confirms_update h input).policy
  by_cases hpredicted : input.sysctls.wssPredictEnabled = true ∧ input.prediction.isSome
  · obtain ⟨henabled, hsome⟩ := hpredicted
    obtain ⟨prediction, hprediction⟩ := Option.isSome_iff_exists.1 hsome
    obtain ⟨haction, hwmark⟩ := update_predicted state henabled hprediction
    change Exceptional (parpTier2WorkingsetUpdateLocked state input).workingsetPolicyAction → _
      at hpolicy
    generalize parpTier2WorkingsetUpdateLocked state input = stored at haction hwmark hpolicy ⊢
    have hexceptional : ∀ action, stored.workingsetAction = action → Exceptional action →
        parpTier2WorkingsetApplyPolicy stored.workingsetPolicyAction
            input.sysctls.wssStrengthenEnabled = action ∧
          rawAction input prediction = action ∧
          (action = .relax → input.demote = 0 ∨ input.demote < input.headroom) :=
      fun action hstored hcase =>
        effectiveAction_exceptional (haction.symm.trans hstored) hcase
    refine ⟨fun hstored => ?_, fun hstored => ?_, fun hstored => ?_, fun hstored => ?_, ?_⟩
    · obtain ⟨happlied, hlive, -⟩ := hexceptional _ hstored (.inr rfl)
      obtain ⟨hstrengthen, hswitch⟩ := applyPolicy_strengthen happlied
      have hconfirmed := hpolicy (.inr hstrengthen)
      change Confirmed stored.workingsetPolicyAction _ at hconfirmed
      rw [hstrengthen] at hconfirmed
      exact ⟨hstrengthen, hconfirmed, hswitch, henabled, prediction, hprediction, hlive⟩
    · obtain ⟨happlied, hlive, hroom⟩ := hexceptional _ hstored (.inl rfl)
      have hrelax := applyPolicy_relax happlied
      have hconfirmed := hpolicy (.inl hrelax)
      change Confirmed stored.workingsetPolicyAction _ at hconfirmed
      rw [hrelax] at hconfirmed
      exact ⟨hrelax, hconfirmed, ⟨henabled, prediction, hprediction, hlive⟩,
        (hroom rfl).resolve_left (rawAction_relax hlive)⟩
    · rw [hwmark, hstored]
      rfl
    · rw [hwmark, hstored]
      exact demoteWmark_strengthen halloc _ _ _
    · intro hrelax hstrengthen
      rw [hwmark]
      exact demoteWmark_other hrelax hstrengthen _ _ _ _ _
  · obtain ⟨haction, hwmark⟩ := update_fallback state hpredicted
    refine ⟨fun hstored => ?_, fun hstored => ?_, fun hstored => ?_, fun hstored => ?_,
      fun _ _ => hwmark⟩
    all_goals
      rw [haction] at hstored
      cases hstored

def sampleUpdate (state : ParpTier2Memcg) (input : SampleInput) : WorkingsetInput :=
  let limit := parpTier2LimitBytes input.maxPages
  let (alloc, demote) := parpTier2Watermarks limit state.allocScale state.demoteScale
  { limit := limit, alloc := alloc, demote := demote
    headroom := parpTier2Headroom limit (parpTier2UsageBytes input.usagePages)
    prediction := input.prediction, sysctls := input.sysctls }

def sampleUpdateOf (s : ReclaimState) (input : SampleInput) : Option WorkingsetInput :=
  if input.nowNs ≤ s.clockNs ∧ s.memcg.enabled = true ∧ s.memcg.online = true then
    some (sampleUpdate s.memcg input)
  else none

def updateOf (s : ReclaimState) : ReclaimEvent → Option WorkingsetInput
  | .sample input => sampleUpdateOf s input
  | .workUpdate prediction sysctls =>
    match s.worker with
    | .updating _ limit headroom alloc demote =>
      some { limit := limit, alloc := alloc, demote := demote, headroom := headroom
             prediction := prediction, sysctls := sysctls }
    | _ => none
  | .workSample input => if s.worker = .resampling then sampleUpdateOf s input else none
  | _ => none

def resetsPolicy : ReclaimEvent → Bool
  | .enabledWrite _ | .online | .offline | .reset => true
  | _ => false

def noteTurn (seen : List ParpTier2WssAction) (s : ReclaimState) (event : ReclaimEvent) :
    List ParpTier2WssAction :=
  if resetsPolicy event then []
  else (updateOf s event).elim seen fun input => noteUpdate seen s.memcg input

def classified (events : List ReclaimEvent) : List ParpTier2WssAction :=
  (turns reclaimStep {} events).foldl (fun seen turn => noteTurn seen turn.before turn.input) []

theorem sampleDecide_hysteresis (nowNs : UInt64) (sysctls : Sysctls) (cancel : Bool) :
    hysteresisOf (sampleDecide state nowNs sysctls cancel).1 = hysteresisOf state := by
  obtain ⟨scheduledForNs, hkept | ⟨-, hcleared⟩⟩ := sampleDecide_cases state nowNs sysctls cancel
  · rw [hkept]
    rfl
  · rw [hcleared]
    rfl

theorem sampleForecast_hysteresis (headroom nowNs : UInt64) (sysctls : Sysctls) (cancel : Bool) :
    hysteresisOf (sampleForecast state headroom nowNs sysctls cancel).1 = hysteresisOf state := by
  unfold sampleForecast
  dsimp only
  split
  · rfl
  · split
    · exact sampleDecide_hysteresis _ _ _ _
    · split
      · rfl
      · exact sampleDecide_hysteresis _ _ _ _

theorem sample_hysteresis (s : ReclaimState) (input : SampleInput) :
    hysteresisOf (s.sample input).memcg =
      (sampleUpdateOf s input).elim (hysteresisOf s.memcg) fun input =>
        hysteresisOf (parpTier2WorkingsetUpdateLocked s.memcg input) := by
  unfold ReclaimState.sample sampleUpdateOf
  by_cases hnow : input.nowNs ≤ s.clockNs
  · rw [if_pos hnow]
    dsimp only
    unfold parpTier2MemcgSampleLocked
    by_cases hoff : s.memcg.enabled = false ∨ s.memcg.online = false
    · have hnot : ¬ (input.nowNs ≤ s.clockNs ∧ s.memcg.enabled = true ∧ s.memcg.online = true) := by
        rintro ⟨-, henabled, honline⟩
        rcases hoff with hcase | hcase
        · rw [henabled] at hcase
          cases hcase
        · rw [honline] at hcase
          cases hcase
      rw [if_pos hoff, if_neg hnot]
      rfl
    · rw [not_or, Bool.not_eq_false, Bool.not_eq_false] at hoff
      rw [if_neg (by simp [hoff.1, hoff.2]), if_pos ⟨hnow, hoff⟩]
      exact sampleForecast_hysteresis _ _ _ _ _
  · rw [if_neg hnow, if_neg fun h => hnow h.1]
    rfl

theorem cooldown_hysteresis (nowNs nrReclaimed : UInt64) :
    hysteresisOf (PredictWork.predictWorkCooldown state nowNs nrReclaimed) =
      hysteresisOf state := by
  unfold PredictWork.predictWorkCooldown hysteresisOf
  dsimp only

theorem workStep_hysteresis (s : ReclaimState) (event : ReclaimEvent)
    (hwork : ∀ input, event ≠ .sample input) :
    hysteresisOf (workStep s s.worker event).2.memcg =
      (updateOf s event).elim (hysteresisOf s.memcg) fun input =>
        hysteresisOf (parpTier2WorkingsetUpdateLocked s.memcg input) := by
  unfold updateOf
  generalize hphase : s.worker = phase
  unfold workStep
  split
  · split <;> rfl
  · rfl
  · rfl
  · rfl
  · rfl
  · split <;> rfl
  · rfl
  · rfl
  · exact cooldown_hysteresis s.memcg _ _
  · exact sample_hysteresis s _
  · cases event with
    | sample input => exact absurd rfl (hwork input)
    | workUpdate prediction sysctls =>
      rename_i hother _ _ _ _ _
      dsimp only
      split
      · exact (hother _ _ _ _ _ _ _ rfl rfl).elim
      · rfl
    | workSample input =>
      rename_i hother
      dsimp only
      split_ifs with hresampling
      · exact (hother _ hresampling rfl).elim
      · rfl
    | _ => rfl

theorem reclaimStep_hysteresis (s : ReclaimState) (event : ReclaimEvent) :
    hysteresisOf (reclaimStep s event).2.memcg =
      if resetsPolicy event then {}
      else (updateOf s event).elim (hysteresisOf s.memcg) fun input =>
        hysteresisOf (parpTier2WorkingsetUpdateLocked s.memcg input) := by
  cases event with
  | tick nowNs =>
    change hysteresisOf (if _ then _ else _ : ReclaimState).memcg = hysteresisOf s.memcg
    split <;> rfl
  | sample input => exact sample_hysteresis s input
  | timerCall index =>
    unfold reclaimStep
    dsimp only
    split <;> rfl
  | timerFire => rfl
  | enabledWrite enabled => cases enabled <;> rfl
  | online => rfl
  | offline => rfl
  | reset => rfl
  | scaleWrite demote scale =>
    change hysteresisOf (parpTier2ScaleWrite s.memcg demote scale) = hysteresisOf s.memcg
    unfold parpTier2ScaleWrite
    split_ifs <;> rfl
  | _ => exact workStep_hysteresis s _ nofun

theorem noteTurn_confirms {s : ReclaimState} (h : Confirms (hysteresisOf s.memcg) seen)
    (event : ReclaimEvent) :
    Confirms (hysteresisOf (reclaimStep s event).2.memcg) (noteTurn seen s event) := by
  rw [reclaimStep_hysteresis]
  unfold noteTurn
  split_ifs
  · exact confirms_reset
  · cases updateOf s event with
    | none => exact h
    | some input => exact confirms_update h input

theorem classified_concat (events : List ReclaimEvent) (event : ReclaimEvent) :
    classified (events ++ [event]) = noteTurn (classified events) (reclaimAfter events) event := by
  unfold classified
  rw [turns_concat, List.foldl_append]
  rfl

theorem reclaimAfter_confirms (events : List ReclaimEvent) :
    Confirms (hysteresisOf (reclaimAfter events).memcg) (classified events) := by
  induction events using List.reverseRecOn with
  | nil => exact confirms_reset
  | append_singleton events event ih =>
    have hafter : reclaimAfter (events ++ [event]) =
        (reclaimStep (reclaimAfter events) event).2 := after_concat reclaimStep {} events event
    rw [hafter, classified_concat]
    exact noteTurn_confirms ih event

/-- The working-set fields of every reachable snapshot are one valid estimate, or nothing. -/
theorem workingset_reachable {active : Active} (h : Reachable active) :
    WorkingsetAllOrNothing (active.getD {}) := by
  obtain ⟨ops, rfl⟩ := h
  have hstart : WorkingsetAllOrNothing ((none : Active).getD {}) :=
    .inr ⟨rfl, rfl, rfl, rfl, rfl, rfl⟩
  refine after_invariant (I := fun active : Active => WorkingsetAllOrNothing (active.getD {}))
    (fun active op h => ?_) hstart ops
  cases op with
  | updateBinding binding env =>
    change WorkingsetAllOrNothing ((parpSnapshotUpdateBinding active binding env).2.getD {})
    cases halloc : env.allocated with
    | false => rwa [updateBinding_failed active binding env halloc]
    | true =>
      rw [updateBinding_allocated active binding env halloc]
      exact h
  | updatePrior prior env =>
    change WorkingsetAllOrNothing ((parpSnapshotUpdatePrior active prior env).2.getD {})
    by_cases hgen : generationOf active = 0
    · cases halloc : env.allocated with
      | false => rwa [updatePrior_failed active prior env hgen halloc]
      | true =>
        rw [updatePrior_allocated active prior env hgen halloc]
        exact h
    · rwa [updatePrior_busy active prior env hgen]
  | replacePriorBatch batch env =>
    change WorkingsetAllOrNothing ((parpSnapshotReplacePriorBatch active batch env).2.getD {})
    rcases replacePriorBatch_cases active batch env with ⟨e, he⟩ | ⟨b, -, hb, -, hok⟩
    · rwa [he]
    · rw [hok]
      exact workingset_allOrNothing hb _
  | replaceState batch bindings env =>
    change WorkingsetAllOrNothing
      ((parpSnapshotReplaceState active batch bindings env).2.getD {})
    rcases replaceState_cases active batch bindings env with ⟨e, he⟩ | ⟨b, -, hb, -, -, hok⟩
    · rwa [he]
    · rw [hok]
      exact workingset_allOrNothing hb (cloned active env.clone.nowNs)

theorem lookup_resident {active : Active} (h : Reachable active) {policyDomainId nowNs : UInt64}
    (hlookup : parpWorkingsetPredictionLookup active policyDomainId nowNs = some prediction) :
    prediction.predictedResidentBytes ≤ prediction.predictedWorkingsetBytes := by
  have hfields := workingset_reachable h
  cases active with
  | none => cases hlookup
  | some s =>
    unfold parpWorkingsetPredictionLookup at hlookup
    dsimp only at hlookup
    split_ifs at hlookup with hnone
    obtain rfl := Option.some.inj hlookup
    rw [not_or] at hnone
    rcases hfields with ⟨-, -, -, hresident, -⟩ | ⟨hinvalid, -⟩
    · exact hresident
    · exact absurd hinvalid hnone.1

def ArithmeticExact : Prop :=
  ∀ limitBytes allocWmarkBytes demoteWmarkBytes headroomBytes predictedWorkingsetBytes
    predictedResidentBytes : UInt64,
    (∀ confidenceQ15 : UInt16,
      workingsetActionChecked limitBytes allocWmarkBytes demoteWmarkBytes headroomBytes
          predictedWorkingsetBytes predictedResidentBytes confidenceQ15 =
        some (parpTier2WorkingsetAction limitBytes allocWmarkBytes demoteWmarkBytes headroomBytes
          predictedWorkingsetBytes predictedResidentBytes confidenceQ15)) ∧
    ∀ action : ParpTier2WssAction,
      workingsetDemoteWmarkChecked limitBytes allocWmarkBytes demoteWmarkBytes
          predictedWorkingsetBytes predictedResidentBytes action =
        some (parpTier2WorkingsetDemoteWmark limitBytes allocWmarkBytes demoteWmarkBytes
          predictedWorkingsetBytes predictedResidentBytes action)

/-- In every state a run reaches, every update with what a lookup returns applies an action that is
safe, and none of its subtractions and additions wraps. -/
theorem workingset_action_safe (events : List ReclaimEvent) {input : WorkingsetInput}
    (halloc : input.alloc ≤ input.demote) {active : Active} (hactive : Reachable active)
    {policyDomainId nowNs : UInt64}
    (hlookup : input.prediction = parpWorkingsetPredictionLookup active policyDomainId nowNs) :
    let state := (reclaimAfter events).memcg
    let stored := parpTier2WorkingsetUpdateLocked state input
    ActionSafe (noteUpdate (classified events) state input) input stored ∧
      workingsetUpdateChecked state input = some stored ∧ ArithmeticExact := by
  refine ⟨update_safe (reclaimAfter_confirms events) halloc, ?_, ?_⟩
  · apply workingsetUpdateChecked_eq
    intro prediction hprediction
    exact lookup_resident hactive (hlookup.symm.trans hprediction)
  · intro limitBytes allocWmarkBytes demoteWmarkBytes headroomBytes predictedWorkingsetBytes
      predictedResidentBytes
    exact ⟨fun _ => workingsetActionChecked_eq _ _ _ _ _ _ _,
      fun _ => workingsetDemoteWmarkChecked_eq _ _ _ _ _ _⟩

def residentBatch (generation : UInt32) : ParpAppPriorBatch where
  schemaVersion := parpAppPriorBatchSchema
  modelVersion := 1
  predictionGeneration := generation
  flags := parpAppPriorBatchWorkingsetValid
  timestampNs := 5 * nsecPerSec
  horizonNs := nsecPerSec
  expiryNs := 60 * nsecPerSec
  policyDomainId := 9
  predictedWorkingsetBytes := 4096
  predictedResidentBytes := 4096
  workingsetConfidenceQ15 := 32767
  workingsetEstimatorVersion := 1
  entries := [{ appId := 2, useScoreQ15 := 100, rank := 1, valid := true }]

def residentOps (generation : UInt32) : List SnapshotOp :=
  let nowNs := 5 * nsecPerSec
  [.replacePriorBatch (some (residentBatch generation))
    { nowNs := nowNs, clone := { allocated := true, nowNs := nowNs } }]

def residentPrediction (generation : UInt32) : Option ParpWorkingsetPrediction :=
  parpWorkingsetPredictionLookup (after snapshotStep none (residentOps generation)) 9
    (6 * nsecPerSec)

def residentRun : List ReclaimEvent :=
  let measured (generation : UInt32) : SampleInput :=
    { maxPages := 262144, usagePages := 1000, nowNs := 6 * nsecPerSec
      prediction := residentPrediction generation }
  [.tick (6 * nsecPerSec), .enabledWrite true, .sample (measured 1), .sample (measured 2)]

def residentInput : WorkingsetInput where
  limit := 0x40000000
  alloc := 0xa00000
  demote := 0x2000000
  headroom := 0x3f000000
  prediction := residentPrediction 2
  sysctls := {}

/-- The update applies RELAX there. -/
theorem residentInput_safe :
    let state := (reclaimAfter residentRun).memcg
    let stored := parpTier2WorkingsetUpdateLocked state residentInput
    stored.workingsetAction = .relax ∧
      ActionSafe (noteUpdate (classified residentRun) state residentInput) residentInput stored ∧
      workingsetUpdateChecked state residentInput = some stored := by
  obtain ⟨hsafe, hchecked, -⟩ := @workingset_action_safe residentRun residentInput
    (by decide) _ ⟨residentOps 2, rfl⟩ 9 (6 * nsecPerSec) rfl
  exact ⟨by decide +kernel, hsafe, hchecked⟩

end Parp.WorkingsetActions
