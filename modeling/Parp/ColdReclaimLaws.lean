import Parp.MemcgLru
import Parp.NodeMemcgs
import Mathlib.Data.List.Induction

set_option autoImplicit false

namespace Parp.ColdReclaim

open PredictAbi TransitionRuns NodeMemcgs MemcgLru

structure SameControl (sc sc' : ScanControl) : Prop where
  priority : sc.priority = sc'.priority
  mayWritepage : sc.mayWritepage = sc'.mayWritepage
  swappiness : sc.parpSwappinessOverride = sc'.parpSwappinessOverride

theorem SameControl.refl (sc : ScanControl) : SameControl sc sc := ⟨rfl, rfl, rfl⟩

theorem SameControl.trans {sc sc' sc'' : ScanControl} (h : SameControl sc sc')
    (h' : SameControl sc' sc'') : SameControl sc sc'' :=
  ⟨h.priority.trans h'.priority, h.mayWritepage.trans h'.mayWritepage,
    h.swappiness.trans h'.swappiness⟩

def PredictionBacked (switches : Switches) (view : MemcgView) (bin : ℕ) : Prop :=
  parpMemcgReclaimBinScored switches view = some (bin, true) ∧ ∃ app, view.context = some app

/-- The profile of an application in the background that is unlikely to come back. -/
structure ColdProfile (threshold : ℕ) (app : ParpAppContext) : Prop where
  background : app.foreground = false
  valid : app.workloadValid = true
  classified : parpPredictWorkloadNone < app.workloadClass ∧
    app.workloadClass ≤ parpPredictWorkloadMixed
  confident : app.workloadConfidenceQ15 ≠ 0
  swappiness : app.workloadSwappiness ≤ 200
  prior : app.appPriorQ15.toNat ≤ threshold

/-- When pressure may be raised on a memcg: what the switches, the score and the context say. -/
structure ColdGate (switches : Switches) (view : MemcgView) (reading : ColdReading) (bin : ℕ) :
    Prop where
  applied : parpTier2ReclaimColdAggressiveApplyEnabled reading.enabled = true
  byBin : parpTier2ReclaimWorkloadApplyEnabled reading.workload = false →
    bin ≤ min reading.enabled.reclaimColdBinMax 7 ∧ PredictionBacked switches view bin
  byProfile : parpTier2ReclaimWorkloadApplyEnabled reading.workload = true →
    ∃ app, reading.context = some app ∧
      ColdProfile (min reading.profile.reclaimColdProbabilityQ15 parpQ15One) app

/-- One memcg of a walk that began with `start`. -/
structure VisitLaw (switches : Switches) (view : MemcgView) (start : ScanControl) (visit : Visit) :
    Prop where
  before : SameControl visit.before start
  restored : SameControl visit.after visit.before
  gated : ∀ during, visit.during = some during → ¬ SameControl during visit.before →
    ColdGate switches view visit.reading visit.bin
  priority : ∀ during, visit.during = some during →
    during.priority ≤ visit.before.priority ∧
      (during.priority < visit.before.priority → 0 ≤ during.priority)

section

variable {reading : ColdReading} {bin : ℕ} {sc : ScanControl} {switches : Switches}

theorem parpMemcgReclaimBinScored_backed {view : MemcgView}
    (h : parpMemcgReclaimBinScored switches view = some (bin, true)) :
    PredictionBacked switches view bin := by
  refine ⟨h, ?_⟩
  obtain ⟨⟨score, backed⟩, hscore, hbin⟩ := Option.map_eq_some_iff.1 h
  obtain rfl : backed = true := (Prod.mk.inj hbin).2
  unfold parpTier2ReclaimBinScore at hscore
  cases hcontext : view.context with
  | some app => exact ⟨app, rfl⟩
  | none =>
    rw [hcontext] at hscore
    split_ifs at hscore
    split at hscore
    · cases hscore
    · dsimp only at hscore
      split_ifs at hscore <;> cases hscore

theorem parpTier2ReclaimWorkloadColdContext_profile {app : ParpAppContext}
    (h : parpTier2ReclaimWorkloadColdContext switches app = true) :
    ColdProfile (min switches.reclaimColdProbabilityQ15 parpQ15One) app := by
  unfold parpTier2ReclaimWorkloadColdContext at h
  simp only [Bool.and_eq_true, Bool.not_eq_true', decide_eq_true_eq] at h
  obtain ⟨⟨⟨-, hbackground⟩, hvalid⟩, habove, hbelow, hconfident, hswappiness, hprior⟩ := h
  exact ⟨hbackground, hvalid, ⟨habove, hbelow⟩, hconfident, hswappiness, hprior⟩

theorem parpTier2ReclaimColdPressure_some {pressure : ColdPressure}
    (h : parpTier2ReclaimColdPressure reading bin = some pressure) :
    parpTier2ReclaimColdAggressiveApplyEnabled reading.enabled = true ∧
      (parpTier2ReclaimWorkloadApplyEnabled reading.workload = false →
        bin ≤ min reading.enabled.reclaimColdBinMax 7) ∧
      (parpTier2ReclaimWorkloadApplyEnabled reading.workload = true →
        ∃ app, reading.context = some app ∧
          ColdProfile (min reading.profile.reclaimColdProbabilityQ15 parpQ15One) app) := by
  unfold parpTier2ReclaimColdPressure at h
  dsimp only at h
  split_ifs at h with happly hbin hworkload
  · refine ⟨Bool.eq_true_of_not_eq_false happly, fun hoff => ?_, fun hon => ?_⟩
    · exact Nat.le_of_not_lt fun hover => hbin ⟨hover, hoff⟩
    · rw [hworkload] at hon
      cases hon
  · refine ⟨Bool.eq_true_of_not_eq_false happly, fun hoff => absurd hoff hworkload, fun _ => ?_⟩
    cases hcontext : reading.context with
    | none =>
      rw [hcontext] at h
      cases h
    | some app =>
      rw [hcontext] at h
      dsimp only at h
      split_ifs at h with hmiss hcold
      exact ⟨app, rfl, parpTier2ReclaimWorkloadColdContext_profile
        (Bool.eq_true_of_not_eq_false hcold)⟩

theorem parpColdReclaimEnter_cases (reading : ColdReading) (bin : ℕ) (sc : ScanControl) :
    parpColdReclaimEnter reading bin sc = (sc, {}) ∨
      ∃ pressure, parpTier2ReclaimColdPressure reading bin = some pressure ∧
        (parpColdReclaimEnter reading bin sc).2 =
          { active := true, priority := sc.priority, mayWritepage := sc.mayWritepage
            swappinessOverride := sc.parpSwappinessOverride } ∧
        (parpColdReclaimEnter reading bin sc).1.priority ≤ sc.priority ∧
        ((parpColdReclaimEnter reading bin sc).1.priority < sc.priority →
          0 ≤ (parpColdReclaimEnter reading bin sc).1.priority) := by
  unfold parpColdReclaimEnter
  cases hpressure : parpTier2ReclaimColdPressure reading bin with
  | none => exact .inl rfl
  | some pressure =>
    refine .inr ⟨pressure, rfl, rfl, ?_⟩
    dsimp only
    split_ifs <;> omega

theorem exit_enter (reading : ColdReading) (bin : ℕ) (sc : ScanControl) (shrunk : Shrunk) :
    SameControl
      (parpColdReclaimExit ((parpColdReclaimEnter reading bin sc).1.count shrunk)
        (parpColdReclaimEnter reading bin sc).2) sc := by
  rcases parpColdReclaimEnter_cases reading bin sc with hquiet | ⟨pressure, -, hcontext, -⟩
  · rw [hquiet]
    exact ⟨rfl, rfl, rfl⟩
  · rw [hcontext]
    exact ⟨rfl, rfl, rfl⟩

theorem skip_enter (hskip : parpColdReclaimSkip (parpColdReclaimEnter reading bin sc).1
    (parpColdReclaimEnter reading bin sc).2 = true) :
    (parpColdReclaimEnter reading bin sc).1 = sc := by
  rcases parpColdReclaimEnter_cases reading bin sc with hquiet | ⟨pressure, -, hcontext, -⟩
  · rw [hquiet]
  · rw [hcontext] at hskip
    simp [parpColdReclaimSkip] at hskip

theorem visitLaw_shrunk {view : MemcgView} {start : ScanControl} (memcg : ℕ) (reading : ColdReading)
    (shrunk : Shrunk) (hstart : SameControl sc start)
    (hbacked : bin < memcgNrBins → parpMemcgReclaimBinScored switches view = some (bin, true)) :
    VisitLaw switches view start
      { memcg := memcg
        reading := reading
        bin := bin
        before := sc
        during := some (parpColdReclaimEnter reading bin sc).1
        after := parpColdReclaimExit ((parpColdReclaimEnter reading bin sc).1.count shrunk)
          (parpColdReclaimEnter reading bin sc).2 } := by
  refine ⟨hstart, exit_enter _ _ _ _, ?_, ?_⟩
  · rintro during hduring hraised
    obtain rfl := Option.some.inj hduring
    rcases parpColdReclaimEnter_cases reading bin sc with hquiet | ⟨pressure, hpressure, -⟩
    · rw [hquiet] at hraised
      exact absurd (SameControl.refl _) hraised
    · obtain ⟨happlied, hbin, hprofile⟩ := parpTier2ReclaimColdPressure_some hpressure
      refine ⟨happlied, fun hoff => ⟨hbin hoff, ?_⟩, hprofile⟩
      have hlast : bin ≤ 7 := Nat.le_trans (hbin hoff) (Nat.min_le_right _ _)
      exact parpMemcgReclaimBinScored_backed (hbacked (Nat.lt_succ_of_le hlast))
  · rintro during hduring
    obtain rfl := Option.some.inj hduring
    rcases parpColdReclaimEnter_cases reading bin sc with hquiet | ⟨pressure, -, -, hpriority⟩
    · rw [hquiet]
      exact ⟨Int.le_refl _, fun hless => absurd hless (Int.lt_irrefl _)⟩
    · exact hpriority

end

section

variable {kind : WalkKind} {start : ScanControl} {walk : NodeWalk}

/-- A walk of `shrink_node_memcgs` so far. -/
structure NodeLaw (readings : ℕ → ℕ → NodeReading) (start : ScanControl)
    (walk : NodeWalk) : Prop where
  control : SameControl walk.sc start
  visits : ∀ visit ∈ walk.visits, ∃ orderedBin,
    visit.reading = (readings orderedBin visit.memcg).cold ∧
      VisitLaw (readings orderedBin visit.memcg).switches (readings orderedBin visit.memcg).view
        start visit

variable {readings : ℕ → ℕ → NodeReading}

theorem scored_backed {reading : NodeReading} (hbacked : reading.scored.2 = true) :
    parpMemcgReclaimBinScored reading.switches reading.view = some (reading.scored.1, true) := by
  unfold NodeReading.scored at hbacked ⊢
  cases hscored : parpMemcgReclaimBinScored reading.switches reading.view with
  | none =>
    rw [hscored] at hbacked
    cases hbacked
  | some scored =>
    rw [hscored] at hbacked
    rw [← show scored.2 = true from hbacked]
    rfl

theorem passedBin_backed (kind : WalkKind) (reading : NodeReading)
    (hbin : (if kind.isOrdered && reading.scored.2 then reading.scored.1 else memcgNrBins) <
      memcgNrBins) :
    parpMemcgReclaimBinScored reading.switches reading.view =
      some (if kind.isOrdered && reading.scored.2 then reading.scored.1 else memcgNrBins, true) := by
  split at hbin
  · rename_i hbacked
    rw [if_pos hbacked]
    exact scored_backed (Bool.and_eq_true_iff.1 hbacked).2
  · exact absurd hbin (Nat.lt_irrefl _)

theorem NodeLaw.shrinkMemcg (h : NodeLaw readings start walk) (orderedBin memcg : ℕ) :
    NodeLaw readings start (shrinkMemcg kind (readings orderedBin memcg) memcg walk) := by
  refine ⟨(exit_enter _ _ _ _).trans h.control, fun visit hvisit => ?_⟩
  rcases List.mem_append.1 hvisit with hearlier | hlast
  · exact h.visits visit hearlier
  · obtain rfl := List.mem_singleton.1 hlast
    exact ⟨orderedBin, rfl, visitLaw_shrunk _ _ _ h.control (passedBin_backed kind _)⟩

theorem NodeLaw.visitMemcg (h : NodeLaw readings start walk) (orderedBin memcg : ℕ) :
    NodeLaw readings start
      (visitMemcg kind orderedBin (readings orderedBin memcg) memcg walk) := by
  unfold NodeMemcgs.visitMemcg
  split_ifs
  · exact h
  · exact h
  · exact ⟨⟨h.control.priority, h.control.mayWritepage, h.control.swappiness⟩, h.visits⟩
  · exact h.shrinkMemcg orderedBin memcg

theorem NodeLaw.nodePass (orderedBin : ℕ) (memcgs : List ℕ) (h : NodeLaw readings start walk) :
    NodeLaw readings start (nodePass kind orderedBin (readings orderedBin) memcgs walk) := by
  induction memcgs generalizing walk with
  | nil => exact h
  | cons memcg memcgs ih =>
    unfold NodeMemcgs.nodePass
    dsimp only
    split
    · exact h.visitMemcg orderedBin memcg
    · exact ih (h.visitMemcg orderedBin memcg)

theorem NodeLaw.nodePasses (memcgs bins : List ℕ) (h : NodeLaw readings start walk) :
    NodeLaw readings start (nodePasses kind readings memcgs bins walk) := by
  induction bins generalizing walk with
  | nil => exact h
  | cons orderedBin bins ih =>
    unfold NodeMemcgs.nodePasses
    dsimp only
    split
    · exact h.nodePass orderedBin memcgs
    · exact ih (h.nodePass orderedBin memcgs)

theorem shrinkNodeMemcgs_law (kind : WalkKind) (readings : ℕ → ℕ → NodeReading) (memcgs : List ℕ)
    (sc : ScanControl) :
    NodeLaw readings sc (shrinkNodeMemcgs kind readings memcgs sc) :=
  NodeLaw.nodePasses memcgs _ ⟨SameControl.refl sc, fun _ hvisit => by cases hvisit⟩

end

section

/-- What one iteration of `shrink_many` reads, the scores of the memcgs with it. -/
structure ScoredReading where
  views : ℕ → Switches × MemcgView
  reading : ManyReading

def ScoredReading.score (input : ScoredReading) (memcg : ℕ) : Option (ℕ × Bool) :=
  parpMemcgReclaimBinScored (input.views memcg).1 (input.views memcg).2

def scoredStep (gen firstBin : ℕ) (s : ManyScan) (input : ScoredReading) : ManyNote × ManyScan :=
  manyStep input.score gen firstBin s input.reading

variable {gen firstBin : ℕ} {start : ScanControl} {s : ManyScan}

def NoteLaw (input : ScoredReading) (start : ScanControl) : ManyNote → Prop
  | .visited visit => visit.reading = input.reading.cold ∧
      VisitLaw (input.views visit.memcg).1 (input.views visit.memcg).2 start visit
  | _ => True

theorem manyVisit_law (input : ScoredReading) (memcg bin : ℕ) (hstart : SameControl s.sc start)
    (hbacked : bin < memcgNrBins → input.score memcg = some (bin, true)) :
    SameControl (manyVisit input.score gen s memcg bin input.reading).2.sc start ∧
      NoteLaw input start (manyVisit input.score gen s memcg bin input.reading).1 := by
  unfold manyVisit
  dsimp only
  split
  · rename_i hskip
    rw [skip_enter hskip]
    refine ⟨hstart, rfl, hstart, SameControl.refl _, fun _ hduring => ?_, fun _ hduring => ?_⟩
    · cases hduring
    · cases hduring
  · exact ⟨(exit_enter _ _ _ _).trans hstart, rfl, visitLaw_shrunk _ _ _ hstart hbacked⟩

theorem scoredStep_law (input : ScoredReading) (hstart : SameControl s.sc start) :
    SameControl (scoredStep gen firstBin s input).2.sc start ∧
      NoteLaw input start (scoredStep gen firstBin s input).1 := by
  unfold scoredStep manyStep
  split
  · exact ⟨hstart, trivial⟩
  cases s.pos with
  | none =>
    dsimp only
    split_ifs <;> exact ⟨hstart, trivial⟩
  | some memcg =>
    dsimp only
    split
    · exact ⟨hstart, trivial⟩
    cases hscore : input.score memcg with
    | none => exact manyVisit_law input memcg _ hstart fun hbin => absurd hbin (Nat.lt_irrefl _)
    | some scored =>
      obtain ⟨scoredBin, predictionBacked⟩ := scored
      dsimp only
      split_ifs with hstale hlower hback
      · exact ⟨hstart, trivial⟩
      · exact ⟨hstart, trivial⟩
      · refine manyVisit_law input memcg _ hstart fun _ => ?_
        rw [hscore, hback]
      · exact manyVisit_law input memcg _ hstart fun hbin => absurd hbin (Nat.lt_irrefl _)

theorem scan_law (gen firstBin : ℕ) (s : ManyScan) (inputs : List ScoredReading) :
    SameControl (after (scoredStep gen firstBin) s inputs).sc s.sc ∧
      ∀ turn ∈ turns (scoredStep gen firstBin) s inputs, NoteLaw turn.input s.sc turn.output := by
  induction inputs using List.reverseRecOn with
  | nil => exact ⟨SameControl.refl _, fun _ hturn => by cases hturn⟩
  | append_singleton inputs input ih =>
    obtain ⟨hcontrol, hnote⟩ := scoredStep_law input ih.1
    rw [after_concat, turns_concat]
    refine ⟨hcontrol, fun turn hturn => ?_⟩
    rcases List.mem_append.1 hturn with hearlier | hlast
    · exact ih.2 turn hearlier
    · obtain rfl := List.mem_singleton.1 hlast
      exact hnote

end

/-- In both walks, on every memcg and whatever is read on the way: pressure is raised behind its
gate, never to a negative priority, and nothing of it is left afterwards. -/
theorem coldPressure_undone :
    (∀ kind readings memcgs sc,
      NodeLaw readings sc (shrinkNodeMemcgs kind readings memcgs sc)) ∧
    ∀ gen firstBin s inputs,
      SameControl (after (scoredStep gen firstBin) s inputs).sc s.sc ∧
        ∀ turn ∈ turns (scoredStep gen firstBin) s inputs, NoteLaw turn.input s.sc turn.output :=
  ⟨shrinkNodeMemcgs_law, scan_law⟩

end Parp.ColdReclaim
