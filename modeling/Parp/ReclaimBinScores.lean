import Parp.ColdReclaim
import Mathlib.Tactic.IntervalCases

set_option autoImplicit false

namespace Parp.ColdReclaim

open Watermark

def rankFloor (rank : ℕ) (foreground : Bool) : ℕ :=
  if rank = 0 then 0
  else if foreground ∨ rank = 1 then parpQ15One
  else if rank = 2 then 24576
  else if rank = 3 then 20480
  else if rank = 4 then 16384
  else if rank ≤ 6 then 12288
  else if rank ≤ 9 then 8192
  else if rank ≤ 12 then 4096
  else 0

theorem rankFloor_le (rank : ℕ) (foreground : Bool) : rankFloor rank foreground ≤ parpQ15One := by
  have hone : parpQ15One = 32767 := rfl
  unfold rankFloor
  split_ifs <;> omega

theorem rankFloor_succ {rank : ℕ} (hrank : rank ≠ 0) :
    rankFloor (rank + 1) false ≤ rankFloor rank false := by
  by_cases hbanded : rank ≤ 12
  · interval_cases rank
    · exact absurd rfl hrank
    all_goals decide
  · have hlast : rankFloor (rank + 1) false = 0 := by
      unfold rankFloor
      simp only [Bool.false_eq_true, false_or]
      split_ifs <;> omega
    rw [hlast]
    exact Nat.zero_le _

def BetterRank (rank rank' : ℕ) : Prop := rank' ≠ 0 ∧ (rank = 0 ∨ rank' < rank)

theorem rankFloor_mono {rank rank' : ℕ} (h : BetterRank rank rank') (foreground : Bool) :
    rankFloor rank foreground ≤ rankFloor rank' foreground := by
  obtain ⟨hsome, hnone | hless⟩ := h
  · rw [hnone]
    exact Nat.zero_le _
  · cases foreground with
    | true =>
      have htop : rankFloor rank' true = parpQ15One := by
        unfold rankFloor
        rw [if_neg hsome, if_pos (.inl rfl)]
      rw [htop]
      exact rankFloor_le rank true
    | false =>
      induction rank, hless using Nat.le_induction with
      | base => exact rankFloor_succ hsome
      | succ rank hbetter ih => exact (rankFloor_succ (by omega)).trans ih

theorem rankScore_eq (prior rank : UInt16) (foreground : Bool) :
    parpTier2ReclaimRankScoreQ15 prior rank foreground =
      min (max prior.toNat (rankFloor rank.toNat foreground)) parpQ15One := by
  have hfloor := rankFloor_le rank.toNat foreground
  unfold parpTier2ReclaimRankScoreQ15
  dsimp only
  by_cases hrank : rank = 0
  · rw [if_pos (.inl hrank), hrank]
    exact congrArg (min · parpQ15One) (Nat.max_zero _).symm
  · have hsome : rank.toNat ≠ 0 := fun hzero => hrank (UInt16.toNat_inj.1 hzero)
    by_cases hprior : prior.toNat > parpQ15One
    · rw [if_pos (.inr hprior)]
      omega
    · have heq (n : UInt16) : rank = n ↔ rank.toNat = n.toNat := UInt16.toNat_inj.symm
      have hle (n : UInt16) : rank ≤ n ↔ rank.toNat ≤ n.toNat := UInt16.le_iff_toNat_le
      have hband : rankFloor rank.toNat foreground =
          if foreground ∨ rank = 1 then parpQ15One
          else if rank = 2 then 24576
          else if rank = 3 then 20480
          else if rank = 4 then 16384
          else if rank ≤ 6 then 12288
          else if rank ≤ 9 then 8192
          else if rank ≤ 12 then 4096
          else 0 := by
        unfold rankFloor
        rw [if_neg hsome]
        exact if_congr (or_congr_right (heq 1).symm) rfl (if_congr (heq 2).symm rfl
          (if_congr (heq 3).symm rfl (if_congr (heq 4).symm rfl (if_congr (hle 6).symm rfl
            (if_congr (hle 9).symm rfl (if_congr (hle 12).symm rfl rfl))))))
      rw [if_neg (by simp [hrank, hprior]), ← hband]
      omega

theorem rankScore_le (prior rank : UInt16) (foreground : Bool) :
    parpTier2ReclaimRankScoreQ15 prior rank foreground ≤ parpQ15One := by
  rw [rankScore_eq]
  exact Nat.min_le_right _ _

theorem rankScore_mono {prior prior' rank rank' : UInt16} (hprior : prior.toNat ≤ prior'.toNat)
    (hrank : rank' = rank ∨ BetterRank rank.toNat rank'.toNat) (foreground : Bool) :
    parpTier2ReclaimRankScoreQ15 prior rank foreground ≤
      parpTier2ReclaimRankScoreQ15 prior' rank' foreground := by
  have hfloor : rankFloor rank.toNat foreground ≤ rankFloor rank'.toNat foreground := by
    rcases hrank with rfl | hbetter
    · exact Nat.le_refl _
    · exact rankFloor_mono hbetter foreground
  rw [rankScore_eq, rankScore_eq]
  omega

theorem rankScore_foreground (prior : UInt16) {rank : UInt16} (hrank : rank ≠ 0) :
    parpTier2ReclaimRankScoreQ15 prior rank true = parpQ15One := by
  have hsome : rank.toNat ≠ 0 := fun hzero => hrank (UInt16.toNat_inj.1 hzero)
  have hfloor : rankFloor rank.toNat true = parpQ15One := by
    unfold rankFloor
    rw [if_neg hsome, if_pos (.inl rfl)]
  rw [rankScore_eq, hfloor]
  omega

def contextScore (switches : Switches) (app : ParpAppContext) : ℕ :=
  if parpTier2ReclaimWorkloadColdContext switches app then 0
  else parpTier2ReclaimRankScoreQ15 app.appPriorQ15 app.appRank app.foreground

def headroomScore (policy : ParpTier2Memcg) : ℕ :=
  if policy.headroomBytes ≥ policy.limitBytes then parpQ15One
  else policy.headroomBytes.toNat * parpQ15One / policy.limitBytes.toNat

theorem headroomScore_le (policy : ParpTier2Memcg) : headroomScore policy ≤ parpQ15One := by
  unfold headroomScore
  split_ifs with hfull
  · exact Nat.le_refl _
  · rw [ge_iff_le, UInt64.le_iff_toNat_le, Nat.not_le] at hfull
    refine Nat.div_le_of_le_mul ?_
    exact Nat.mul_le_mul_right _ hfull.le

theorem binScore_cases (switches : Switches) (view : MemcgView) :
    parpTier2ReclaimBinScore switches view = none ∨
      (∃ app, view.context = some app ∧
        parpTier2ReclaimBinScore switches view = some (contextScore switches app, true)) ∨
      ∃ policy, view.context = none ∧ parpReclaimBinPolicyMemcg view.ancestors = some policy ∧
        parpTier2ReclaimBinScore switches view = some (headroomScore policy, false) := by
  unfold parpTier2ReclaimBinScore
  split_ifs
  · exact .inl rfl
  · cases hpolicy : parpReclaimBinPolicyMemcg view.ancestors with
    | none => exact .inl rfl
    | some policy =>
      cases hcontext : view.context with
      | some app => exact .inr (.inl ⟨app, rfl, rfl⟩)
      | none =>
        dsimp only
        by_cases hlimit : policy.limitBytes ≠ 0 ∧ policy.limitBytes ≠ u64Max
        · rw [if_pos hlimit]
          exact .inr (.inr ⟨policy, rfl, rfl, rfl⟩)
        · exact .inl (if_neg hlimit)

theorem contextScore_mono (switches : Switches) (app : ParpAppContext) {prior rank : UInt16}
    (hprior : app.appPriorQ15.toNat ≤ prior.toNat)
    (hrank : rank = app.appRank ∨ BetterRank app.appRank.toNat rank.toNat) :
    contextScore switches app ≤
      contextScore switches { app with appPriorQ15 := prior, appRank := rank } := by
  by_cases hcold : parpTier2ReclaimWorkloadColdContext switches app = true
  · unfold contextScore
    rw [if_pos hcold]
    exact Nat.zero_le _
  · have hwarm : ¬ parpTier2ReclaimWorkloadColdContext switches
        { app with appPriorQ15 := prior, appRank := rank } = true := by
      intro hcold'
      refine hcold ?_
      unfold parpTier2ReclaimWorkloadColdContext at hcold' ⊢
      simp only [Bool.and_eq_true, decide_eq_true_eq] at hcold' ⊢
      obtain ⟨hswitches, hlow, hhigh, hconfident, hswappiness, hprior'⟩ := hcold'
      exact ⟨hswitches, hlow, hhigh, hconfident, hswappiness, hprior.trans hprior'⟩
    unfold contextScore
    rw [if_neg hcold, if_neg hwarm]
    exact rankScore_mono hprior hrank app.foreground

def scoreBin (score : ℕ) : ℕ := min (score * memcgNrBins / 2 ^ 15) (memcgNrBins - 1)

theorem scoreBin_mono {score score' : ℕ} (h : score ≤ score') : scoreBin score ≤ scoreBin score' := by
  unfold scoreBin memcgNrBins
  omega

theorem binScored_eq (switches : Switches) (view : MemcgView) :
    parpMemcgReclaimBinScored switches view =
      (parpTier2ReclaimBinScore switches view).map fun scored => (scoreBin scored.1, scored.2) :=
  rfl

section

variable {switches : Switches} {ancestors : List ParpTier2Memcg} {score : ℕ} {backed : Bool}

theorem binScore_context {app : ParpAppContext}
    (h : parpTier2ReclaimBinScore switches ⟨ancestors, some app⟩ = some (score, backed)) :
    score = contextScore switches app ∧ backed = true := by
  rcases binScore_cases switches ⟨ancestors, some app⟩ with hnone | ⟨app', happ, hscore⟩ |
    ⟨policy, happ, -⟩
  · rw [hnone] at h
    cases h
  · cases happ
    rw [hscore] at h
    cases h
    exact ⟨rfl, rfl⟩
  · cases happ

theorem binScore_replace {app : ParpAppContext}
    (h : parpTier2ReclaimBinScore switches ⟨ancestors, some app⟩ = some (score, backed))
    (app' : ParpAppContext) :
    parpTier2ReclaimBinScore switches ⟨ancestors, some app'⟩ =
      some (contextScore switches app', backed) := by
  have hbacked := (binScore_context h).2
  unfold parpTier2ReclaimBinScore at h ⊢
  split_ifs at h ⊢ with hoff
  cases hpolicy : parpReclaimBinPolicyMemcg ancestors with
  | none =>
    rw [hpolicy] at h
    cases h
  | some policy =>
    rw [hbacked]
    rfl

theorem binScore_le (context : Option ParpAppContext)
    (h : parpTier2ReclaimBinScore switches ⟨ancestors, context⟩ = some (score, backed)) :
    score ≤ parpQ15One := by
  rcases binScore_cases switches ⟨ancestors, context⟩ with hnone | ⟨app, -, hscore⟩ |
    ⟨policy, -, -, hscore⟩
  · rw [hnone] at h
    cases h
  · rw [hscore] at h
    cases h
    unfold contextScore
    split_ifs
    · exact Nat.zero_le _
    · exact rankScore_le _ _ _
  · rw [hscore] at h
    cases h
    exact headroomScore_le policy

theorem binScore_ancestor {below above : List ParpTier2Memcg} {policy : ParpTier2Memcg}
    (henabled : policy.enabled = true) (hbelow : ∀ memcg ∈ below, memcg.enabled = false) :
    parpTier2ReclaimBinScore switches ⟨below ++ policy :: above, none⟩ =
      if parpTier2ReclaimBinApplyEnabled switches = true ∧ policy.limitBytes ≠ 0 ∧
          policy.limitBytes ≠ u64Max then some (headroomScore policy, false)
      else none := by
  have hpolicy : parpReclaimBinPolicyMemcg (below ++ policy :: above) = some policy := by
    unfold parpReclaimBinPolicyMemcg
    rw [List.find?_append, List.find?_eq_none.2 (by simpa using hbelow)]
    exact List.find?_cons_of_pos henabled
  unfold parpTier2ReclaimBinScore
  rw [hpolicy]
  by_cases happly : parpTier2ReclaimBinApplyEnabled switches = true
  · rw [if_neg (by simp [happly])]
    by_cases hlimit : policy.limitBytes ≠ 0 ∧ policy.limitBytes ≠ u64Max
    · exact (if_pos hlimit).trans (if_pos ⟨happly, hlimit⟩).symm
    · exact (if_neg hlimit).trans (if_neg fun h => hlimit h.2).symm
  · rw [if_pos (by simp [happly])]
    exact (if_neg fun h => happly h.1).symm

end

/-- Scores are Q15 numbers, in the order of ranks and priors; a ranked foreground application is in
the last bin, a cold context scores 0, and without a context the score is the free part of the
nearest enabled ancestor. -/
theorem reclaim_bin_scores (switches : Switches) (ancestors : List ParpTier2Memcg) :
    (∀ context score backed,
      parpTier2ReclaimBinScore switches ⟨ancestors, context⟩ = some (score, backed) →
        score ≤ parpQ15One) ∧
      (∀ (app : ParpAppContext) (prior rank : UInt16), app.appPriorQ15.toNat ≤ prior.toNat →
        (rank = app.appRank ∨ BetterRank app.appRank.toNat rank.toNat) →
        ∀ score backed,
          parpTier2ReclaimBinScore switches ⟨ancestors, some app⟩ = some (score, backed) →
          ∃ score', parpTier2ReclaimBinScore switches
              ⟨ancestors, some { app with appPriorQ15 := prior, appRank := rank }⟩ =
                some (score', backed) ∧ score ≤ score' ∧ scoreBin score ≤ scoreBin score') ∧
      (∀ app : ParpAppContext, app.foreground = true → app.appRank ≠ 0 →
        ∀ bin backed,
          parpMemcgReclaimBinScored switches ⟨ancestors, some app⟩ = some (bin, backed) →
          bin = memcgNrBins - 1) ∧
      (∀ app, parpTier2ReclaimWorkloadColdContext switches app = true →
        ∀ score backed,
          parpTier2ReclaimBinScore switches ⟨ancestors, some app⟩ = some (score, backed) →
          score = 0) ∧
      ((∀ memcg ∈ ancestors, memcg.enabled = false) →
        parpTier2ReclaimBinScore switches ⟨ancestors, none⟩ = none) ∧
      ∀ below policy above, ancestors = below ++ policy :: above → policy.enabled = true →
        (∀ memcg ∈ below, memcg.enabled = false) →
        parpTier2ReclaimBinScore switches ⟨ancestors, none⟩ =
          if parpTier2ReclaimBinApplyEnabled switches = true ∧ policy.limitBytes ≠ 0 ∧
              policy.limitBytes ≠ u64Max then some (headroomScore policy, false)
          else none := by
  refine ⟨fun context score backed h => binScore_le context h, ?_, ?_, ?_, ?_, ?_⟩
  · intro app prior rank hprior hrank score backed h
    have hscore := (binScore_context h).1
    have hmono := contextScore_mono switches app hprior hrank
    rw [← hscore] at hmono
    exact ⟨_, binScore_replace h _, hmono, scoreBin_mono hmono⟩
  · intro app hforeground hrank bin backed h
    rw [binScored_eq, Option.map_eq_some_iff] at h
    obtain ⟨⟨score, backed'⟩, hscored, hbin⟩ := h
    have hscore := (binScore_context hscored).1
    have hwarm : ¬ parpTier2ReclaimWorkloadColdContext switches app = true := by
      unfold parpTier2ReclaimWorkloadColdContext
      simp [hforeground]
    unfold contextScore at hscore
    rw [if_neg hwarm, hforeground, rankScore_foreground _ hrank] at hscore
    rw [hscore] at hbin
    have htop : scoreBin parpQ15One = memcgNrBins - 1 := by decide
    exact (congrArg Prod.fst hbin).symm.trans htop
  · intro app hcold score backed h
    rw [(binScore_context h).1]
    exact if_pos hcold
  · intro hdisabled
    have hpolicy : parpReclaimBinPolicyMemcg ancestors = none :=
      List.find?_eq_none.2 (by simpa using hdisabled)
    unfold parpTier2ReclaimBinScore
    rw [hpolicy]
    exact ite_self none
  · rintro below policy above rfl henabled hbelow
    exact binScore_ancestor henabled hbelow

end Parp.ColdReclaim
