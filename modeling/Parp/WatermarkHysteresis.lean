import Parp.Watermark
import Parp.TransitionRuns
import Mathlib.Data.List.Induction

set_option autoImplicit false

/-!
# Working-set hysteresis

Runs of `parp_tier2_workingset_update_locked` with valid predictions. The law compares the stored
policy action with the classifications of the generations first seen so far.
-/
namespace Parp.WatermarkHysteresis

open Watermark TransitionRuns

/-- A call whose prediction is valid: the live values and the prediction itself. -/
structure ValidCall where
  limit : UInt64
  alloc : UInt64
  demote : UInt64
  headroom : UInt64
  strengthenEnabled : Bool
  prediction : ParpWorkingsetPrediction
  deriving DecidableEq

def ValidCall.input (call : ValidCall) : WorkingsetInput where
  limit := call.limit
  alloc := call.alloc
  demote := call.demote
  headroom := call.headroom
  prediction := some call.prediction
  sysctls := { wssStrengthenEnabled := call.strengthenEnabled }

def ValidCall.raw (call : ValidCall) : ParpTier2WssAction := rawAction call.input call.prediction

def updateStep (state : ParpTier2Memcg) (call : ValidCall) : Unit × ParpTier2Memcg :=
  ((), parpTier2WorkingsetUpdateLocked state call.input)

/-- The state `parp_tier2_memcg_online` leaves before the first valid prediction. -/
def startState (state : ParpTier2Memcg) : ParpTier2Memcg := parpTier2WorkingsetStateReset state

/-- The last generation and the classifications of the generations first seen, newest first. -/
structure Observed where
  generation : UInt32 := 0
  actions : List ParpTier2WssAction := []

def Observed.note (seen : Observed) (call : ValidCall) : Observed :=
  if call.prediction.generation ≠ seen.generation then
    ⟨call.prediction.generation, call.raw :: seen.actions⟩
  else seen

def observed (calls : List ValidCall) : Observed := calls.foldl Observed.note {}

/-- The two newest generations were both classified `action` when first seen. -/
def Confirmed (action : ParpTier2WssAction) (actions : List ParpTier2WssAction) : Prop :=
  ∃ older, actions = action :: action :: older

def PolicyLaw (state : ParpTier2Memcg) (actions : List ParpTier2WssAction) : Prop :=
  (state.workingsetPolicyAction = .relax ↔ Confirmed .relax actions) ∧
    (state.workingsetPolicyAction = .strengthen ↔ Confirmed .strengthen actions)

def Exceptional (action : ParpTier2WssAction) : Prop := action = .relax ∨ action = .strengthen

instance (action : ParpTier2WssAction) : Decidable (Exceptional action) :=
  inferInstanceAs (Decidable (_ ∨ _))

/-- A new generation agrees with an exceptional stored one whose streak is at its largest value. -/
def StreakSaturated (state : ParpTier2Memcg) (call : ValidCall) : Prop :=
  call.prediction.generation ≠ state.workingsetPredictionGeneration ∧
    call.raw = state.workingsetRawAction ∧ Exceptional call.raw ∧
    state.workingsetActionStreak = u8Max

instance (state : ParpTier2Memcg) (call : ValidCall) : Decidable (StreakSaturated state call) :=
  inferInstanceAs (Decidable (_ ∧ _ ∧ _ ∧ _))

def noted (state : ParpTier2Memcg) (call : ValidCall) : ParpTier2Memcg :=
  if call.prediction.generation ≠ state.workingsetPredictionGeneration then
    noteGeneration state call.raw
  else state

variable (state : ParpTier2Memcg) (calls : List ValidCall)

theorem update_noted (call : ValidCall) :
    (updateStep state call).2.workingsetPredictionGeneration = call.prediction.generation ∧
      (updateStep state call).2.workingsetRawAction = (noted state call).workingsetRawAction ∧
      (updateStep state call).2.workingsetActionStreak = (noted state call).workingsetActionStreak ∧
      (updateStep state call).2.workingsetPolicyAction =
        (noted state call).workingsetPolicyAction := by
  have henabled : call.input.sysctls.wssPredictEnabled = true := rfl
  have hprediction : call.input.prediction = some call.prediction := rfl
  unfold updateStep parpTier2WorkingsetUpdateLocked noted ValidCall.raw
  rw [henabled, hprediction]
  dsimp only
  generalize (if call.prediction.generation ≠ state.workingsetPredictionGeneration then _
    else state) = after
  exact ⟨rfl, rfl, rfl, rfl⟩

/-- How the hysteresis fields follow the classifications seen so far, newest first. -/
structure Tracks (state : ParpTier2Memcg) (seen : Observed) : Prop where
  generation : state.workingsetPredictionGeneration = seen.generation
  newest : state.workingsetRawAction = seen.actions.headD .fallback
  streakPos : seen.actions ≠ [] → 1 ≤ state.workingsetActionStreak.toNat
  streak : Exceptional state.workingsetRawAction →
    (2 ≤ state.workingsetActionStreak.toNat ↔ Confirmed state.workingsetRawAction seen.actions)
  policy : state.workingsetPolicyAction =
    if Exceptional state.workingsetRawAction ∧ ¬ 2 ≤ state.workingsetActionStreak.toNat then .normal
    else state.workingsetRawAction

theorem tracks_start : Tracks (startState state) {} where
  generation := rfl
  newest := rfl
  streakPos h := absurd rfl h
  streak h := by
    rcases h with h | h <;> cases h
  policy := by
    rw [if_neg]
    · rfl
    · rintro ⟨h | h, -⟩ <;> cases h

theorem noteGeneration_policy (raw : ParpTier2WssAction) :
    (noteGeneration state raw).workingsetPolicyAction =
      if Exceptional raw ∧ ¬ 2 ≤ (noteGeneration state raw).workingsetActionStreak.toNat then .normal
      else raw := by
  change (if raw = .normal ∨ raw = .fallback then raw
    else if (noteGeneration state raw).workingsetActionStreak ≥ parpTier2WssActionStreak then raw
    else .normal) = _
  have hstreak : (noteGeneration state raw).workingsetActionStreak ≥ parpTier2WssActionStreak ↔
      2 ≤ (noteGeneration state raw).workingsetActionStreak.toNat := Iff.rfl
  rw [if_congr hstreak rfl rfl]
  cases raw with
  | fallback => simp [Exceptional]
  | normal => simp [Exceptional]
  | strengthen =>
    by_cases h : 2 ≤ (noteGeneration state .strengthen).workingsetActionStreak.toNat
    · simp [Exceptional, h]
    · simp [Exceptional, h]
  | relax =>
    by_cases h : 2 ≤ (noteGeneration state .relax).workingsetActionStreak.toNat
    · simp [Exceptional, h]
    · simp [Exceptional, h]

theorem noteGeneration_streak (raw : ParpTier2WssAction) :
    (noteGeneration state raw).workingsetActionStreak.toNat =
      if raw = state.workingsetRawAction ∧ state.workingsetActionStreak.toNat < 255 then
        state.workingsetActionStreak.toNat + 1
      else 1 := by
  have hlt : state.workingsetActionStreak < u8Max ↔ state.workingsetActionStreak.toNat < 255 :=
    Iff.rfl
  change (if raw = state.workingsetRawAction ∧ state.workingsetActionStreak < u8Max then
    state.workingsetActionStreak + 1 else 1 : UInt8).toNat = _
  by_cases h : raw = state.workingsetRawAction ∧ state.workingsetActionStreak.toNat < 255
  · rw [if_pos h, if_pos ⟨h.1, hlt.2 h.2⟩, UInt8.toNat_add]
    change (state.workingsetActionStreak.toNat + 1) % 256 = _
    omega
  · rw [if_neg h, if_neg (fun hc => h ⟨hc.1, hlt.1 hc.2⟩)]
    rfl

theorem confirmed_cons (action : ParpTier2WssAction) (actions : List ParpTier2WssAction) :
    Confirmed action (action :: actions) ↔ ∃ older, actions = action :: older := by
  constructor
  · rintro ⟨older, h⟩
    exact ⟨older, (List.cons.inj h).2⟩
  · rintro ⟨older, rfl⟩
    exact ⟨older, rfl⟩

theorem confirmed_of_take {action : ParpTier2WssAction} {actions : List ParpTier2WssAction}
    (h : actions.take 2 = [action, action]) : Confirmed action actions := by
  have hsplit := List.take_append_drop 2 actions
  rw [h] at hsplit
  exact ⟨actions.drop 2, hsplit.symm⟩

theorem tracks_step {state : ParpTier2Memcg} {seen : Observed} (call : ValidCall)
    (h : Tracks state seen) (hsat : ¬ StreakSaturated state call) :
    Tracks (updateStep state call).2 (seen.note call) := by
  obtain ⟨hgen, hraw, hstreak, hpolicy⟩ := update_noted state call
  by_cases hnew : call.prediction.generation ≠ state.workingsetPredictionGeneration
  · have hnoted : noted state call = noteGeneration state call.raw := if_pos hnew
    have hseen : seen.note call = ⟨call.prediction.generation, call.raw :: seen.actions⟩ :=
      if_pos (h.generation ▸ hnew)
    rw [hnoted] at hraw hstreak hpolicy
    change _ = call.raw at hraw
    rw [hseen]
    refine ⟨hgen, hraw, ?_, ?_, ?_⟩
    · intro _
      rw [hstreak, noteGeneration_streak]
      split_ifs <;> omega
    · rw [hraw, hstreak, noteGeneration_streak, confirmed_cons]
      intro hexc
      have hnewest := h.newest
      cases hactions : seen.actions with
      | nil =>
        rw [hactions] at hnewest
        change _ = ParpTier2WssAction.fallback at hnewest
        have hne : call.raw ≠ state.workingsetRawAction := by
          rw [hnewest]
          rintro heq
          rw [heq] at hexc
          rcases hexc with hexc | hexc <;> cases hexc
        simp [hne]
      | cons last older =>
        rw [hactions] at hnewest
        change _ = last at hnewest
        have hpos := h.streakPos (by simp [hactions])
        by_cases heq : call.raw = state.workingsetRawAction
        · have hlt : state.workingsetActionStreak.toNat < 255 := by
            have hne : state.workingsetActionStreak ≠ u8Max := by
              intro hmax
              exact hsat ⟨hnew, heq, hexc, hmax⟩
            have hbound := state.workingsetActionStreak.toNat_lt
            have hne' : state.workingsetActionStreak.toNat ≠ 255 :=
              fun hmax => hne (UInt8.toNat_inj.1 hmax)
            omega
          rw [if_pos ⟨heq, hlt⟩]
          constructor
          · intro _
            exact ⟨older, by rw [heq, hnewest]⟩
          · intro _
            omega
        · rw [if_neg (fun hc => heq hc.1)]
          constructor
          · intro hle
            omega
          · rintro ⟨older', hcons⟩
            exact absurd ((List.cons.inj hcons).1.symm.trans hnewest.symm) heq
    · rw [hpolicy, hraw, hstreak]
      exact noteGeneration_policy state call.raw
  · have hnoted : noted state call = state := if_neg hnew
    have hseen : seen.note call = seen := if_neg (h.generation ▸ hnew)
    rw [hnoted] at hraw hstreak hpolicy
    rw [hseen]
    refine ⟨hgen.trans ((not_not.1 hnew).trans h.generation), ?_, ?_, ?_, ?_⟩
    · rw [hraw, h.newest]
    · rw [hstreak]
      exact h.streakPos
    · rw [hraw, hstreak]
      exact h.streak
    · rw [hpolicy, hraw, hstreak]
      exact h.policy

theorem policyLaw_of_tracks {state : ParpTier2Memcg} {seen : Observed} (h : Tracks state seen) :
    PolicyLaw state seen.actions := by
  have hconfirmed : ∀ action, Exceptional action →
      (state.workingsetPolicyAction = action ↔ Confirmed action seen.actions) := by
    intro action hexc
    have hne : action ≠ .normal := by
      rintro rfl
      rcases hexc with hexc | hexc <;> cases hexc
    rw [h.policy]
    by_cases heq : state.workingsetRawAction = action
    · have hiff := h.streak (heq ▸ hexc)
      rw [heq] at hiff ⊢
      rw [← hiff]
      by_cases hle : 2 ≤ state.workingsetActionStreak.toNat
      · simp [hle]
      · simp [hle, hexc, hne.symm]
    · have hnot : ¬ Confirmed action seen.actions := by
        rintro ⟨older, hactions⟩
        have hnewest := h.newest
        rw [hactions] at hnewest
        exact heq hnewest
      simp only [hnot, iff_false]
      split_ifs
      · exact hne.symm
      · exact heq
  exact ⟨hconfirmed _ (.inl rfl), hconfirmed _ (.inr rfl)⟩

theorem observed_concat (calls : List ValidCall) (call : ValidCall) :
    observed (calls ++ [call]) = (observed calls).note call := by
  simp [observed, List.foldl_append]

theorem tracks_run
    (h : Along updateStep (fun state call => ¬ StreakSaturated state call) (startState state) calls) :
    Tracks (after updateStep (startState state) calls) (observed calls) := by
  induction calls using List.reverseRecOn with
  | nil => exact tracks_start state
  | append_singleton calls call ih =>
    rw [along_append] at h
    have hlast : ¬ StreakSaturated (after updateStep (startState state) calls) call := h.2.1
    rw [after_concat, observed_concat]
    exact tracks_step call (ih h.1) hlast

theorem saturated_breaks {state : ParpTier2Memcg} {seen : Observed} {call : ValidCall}
    (h : Tracks state seen) (hsat : StreakSaturated state call) :
    ¬ PolicyLaw (updateStep state call).2 (seen.note call).actions := by
  obtain ⟨hnew, heq, hexc, hmax⟩ := hsat
  have hstored : state.workingsetActionStreak.toNat = 255 := congrArg UInt8.toNat hmax
  have hconfirmed : Confirmed call.raw seen.actions := by
    rw [heq]
    apply (h.streak (heq ▸ hexc)).1
    omega
  have hseen : (seen.note call).actions = call.raw :: seen.actions := by
    have hnote : seen.note call = ⟨call.prediction.generation, call.raw :: seen.actions⟩ :=
      if_pos (h.generation ▸ hnew)
    rw [hnote]
  have hagain : Confirmed call.raw (seen.note call).actions := by
    obtain ⟨older, hactions⟩ := hconfirmed
    rw [hseen, hactions]
    exact ⟨call.raw :: older, rfl⟩
  have hpolicy : (updateStep state call).2.workingsetPolicyAction = .normal := by
    have hnoted : noted state call = noteGeneration state call.raw := if_pos hnew
    rw [(update_noted state call).2.2.2, hnoted, noteGeneration_policy, noteGeneration_streak]
    apply if_pos
    refine ⟨hexc, ?_⟩
    rw [if_neg (fun hc => absurd hc.2 (by omega))]
    omega
  intro hlaw
  rcases hexc with hraw | hraw
  · have hrelax := hlaw.1.2 (hraw ▸ hagain)
    rw [hpolicy] at hrelax
    cases hrelax
  · have hstrengthen := hlaw.2.2 (hraw ▸ hagain)
    rw [hpolicy] at hstrengthen
    cases hstrengthen

theorem along_of_policyLaw (h : ∀ left right, calls = left ++ right →
      PolicyLaw (after updateStep (startState state) left) (observed left).actions) :
    Along updateStep (fun state call => ¬ StreakSaturated state call) (startState state) calls := by
  induction calls using List.reverseRecOn with
  | nil => trivial
  | append_singleton calls call ih =>
    have hbefore : Along updateStep (fun state call => ¬ StreakSaturated state call)
        (startState state) calls := by
      apply ih
      intro left right hsplit
      exact h left (right ++ [call]) (by rw [hsplit, List.append_assoc])
    have hlaw := h (calls ++ [call]) [] (List.append_nil _).symm
    rw [after_concat, observed_concat] at hlaw
    refine (along_append _ _ _ _ _).2 ⟨hbefore, ?_, trivial⟩
    intro hsat
    exact saturated_breaks (tracks_run state calls hbefore) hsat hlaw

/-- The policy follows the two newest generations in every state of a run exactly when no step of
it finds an agreeing streak at its largest value. -/
theorem policy_follows_generations (state : ParpTier2Memcg) (calls : List ValidCall) :
    (∀ left right, calls = left ++ right →
      PolicyLaw (after updateStep (startState state) left) (observed left).actions) ↔
    Along updateStep (fun state call => ¬ StreakSaturated state call) (startState state) calls := by
  constructor
  · exact along_of_policyLaw state calls
  · rintro h left right rfl
    exact policyLaw_of_tracks (tracks_run state left ((along_append _ _ _ _ _).1 h).1)

def relaxCall (generation : UInt32) : ValidCall where
  limit := 0x40000000
  alloc := 0xa00000
  demote := 0x2000000
  headroom := 0x40000000
  strengthenEnabled := false
  prediction :=
    { predictedWorkingsetBytes := 4096, predictedResidentBytes := 4096, generation := generation
      confidenceQ15 := 32767 }

def relaxCalls (count : ℕ) : List ValidCall :=
  (List.range count).map fun i => relaxCall (UInt32.ofNat (i + 1))

theorem relaxCalls_policy :
    (after updateStep (startState {}) (relaxCalls 255)).workingsetPolicyAction = .relax ∧
    (after updateStep (startState {}) (relaxCalls 256)).workingsetPolicyAction = .normal ∧
    (observed (relaxCalls 256)).actions.take 2 = [.relax, .relax] := by
  decide +kernel

/-- The 256th generation that agrees on RELAX turns the policy back to NORMAL. -/
theorem long_agreement_drops_relax :
    (∀ call ∈ relaxCalls 256, call.prediction.generation ≠ 0 ∧ call.raw = .relax) ∧
    (after updateStep (startState {}) (relaxCalls 255)).workingsetPolicyAction = .relax ∧
    ¬ PolicyLaw (after updateStep (startState {}) (relaxCalls 256))
      (observed (relaxCalls 256)).actions := by
  obtain ⟨hbefore, hpolicy, hnewest⟩ := relaxCalls_policy
  refine ⟨by decide +kernel, hbefore, ?_⟩
  intro hlaw
  have hrelax := hlaw.1.2 (confirmed_of_take hnewest)
  rw [hpolicy] at hrelax
  cases hrelax

end Parp.WatermarkHysteresis
