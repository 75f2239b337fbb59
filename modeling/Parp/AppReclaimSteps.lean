import Parp.AppReclaim
import Parp.TransitionRuns

set_option autoImplicit false

namespace Parp.AppReclaim

variable {App Event Vocab : Type}

structure SameCharges (s s' : Controller App Event) : Prop where
  lastApp : s'.lastAppReclaimNs = s.lastAppReclaimNs
  lastGlobal : s'.lastGlobalReclaimNs = s.lastGlobalReclaimNs
  appBytes : s'.appBytes = s.appBytes
  globalBytes : s'.globalBytes = s.globalBytes
  actionTimes : s'.actionTimesNs = s.actionTimesNs
  episodes : s'.actionsPerEpisode = s.actionsPerEpisode

/-- What a tick may do to a state: it moves only what it observes, and takes no abort back. -/
structure Ticked (s s' : Controller App Event) : Prop extends SameCharges s s' where
  lows : s'.lowProbabilityBatches = s.lowProbabilityBatches
  abort : s.abortedReason ≠ none → s'.abortedReason ≠ none

theorem SameCharges.refl (s : Controller App Event) : SameCharges s s :=
  ⟨rfl, rfl, rfl, rfl, rfl, rfl⟩

theorem Ticked.trans {s t u : Controller App Event} (h : Ticked s t) (h' : Ticked t u) :
    Ticked s u where
  lastApp := h'.lastApp.trans h.lastApp
  lastGlobal := h'.lastGlobal.trans h.lastGlobal
  appBytes := h'.appBytes.trans h.appBytes
  globalBytes := h'.globalBytes.trans h.globalBytes
  actionTimes := h'.actionTimes.trans h.actionTimes
  episodes := h'.episodes.trans h.episodes
  lows := h'.lows.trans h.lows
  abort hs := h'.abort (h.abort hs)

theorem observeAfter_ticked (cfg : ReclaimConfig) (s : Controller App Event) (p : PendingAttempt)
    (after1s : ℤ) : Ticked s (observeAfter cfg s p after1s) := by
  unfold observeAfter
  by_cases hp : p.success = true
  · rw [if_pos hp]
    refine ⟨⟨rfl, rfl, rfl, rfl, rfl, rfl⟩, rfl, ?_⟩
    intro habort
    dsimp only
    split_ifs <;> simp [habort]
  · rw [if_neg hp]
    exact ⟨.refl s, rfl, id⟩

theorem tickLoop_ticked (cfg : ReclaimConfig) (nowNs : ℤ) (final : Bool)
    (pending : List PendingAttempt) (after1s : ℕ → ℤ) (s : Controller App Event) :
    Ticked s (tickLoop cfg nowNs final pending after1s s).2 := by
  induction pending generalizing after1s s with
  | nil => exact ⟨.refl s, rfl, id⟩
  | cons p rest ih =>
    unfold tickLoop
    by_cases hdue : nowNs < p.due1sNs ∧ final = false
    · rw [if_pos hdue]
      exact ih after1s s
    · rw [if_neg hdue]
      exact (observeAfter_ticked cfg s p (after1s 0)).trans (ih _ _)

theorem tick_ticked (cfg : ReclaimConfig) (s : Controller App Event) (nowNs : ℤ) (final : Bool)
    (after1s : ℕ → ℤ) : Ticked s (tick cfg s nowNs final after1s) := by
  have h := tickLoop_ticked cfg nowNs final s.pending after1s s
  exact ⟨⟨h.lastApp, h.lastGlobal, h.appBytes, h.globalBytes, h.actionTimes, h.episodes⟩, h.lows,
    h.abort⟩

theorem observeSafety_keeps_abort (cfg : ReclaimConfig) (s : Controller App Event)
    (system : SystemState) (h : s.abortedReason ≠ none) :
    (observeSafety cfg s system).abortedReason ≠ none := by
  unfold observeSafety
  dsimp only
  cases s.rootOomBaseline with
  | none =>
    dsimp only
    split_ifs <;> simp [h]
  | some baseline =>
    dsimp only
    split_ifs <;> simp [h]

theorem ite_some_eq_none {α : Type} (p : Prop) [Decidable p] (a : α) (rest : Option α) :
    (if p then some a else rest) = none ↔ ¬ p ∧ rest = none := by
  by_cases hp : p <;> simp [hp]

section

variable [LinearOrder App] (setup : Setup App Vocab) (s : Controller App Event)
  (batch : Batch App Event Vocab)

theorem entered_keeps_abort (h : s.abortedReason ≠ none) :
    (entered setup s batch).abortedReason ≠ none := by
  apply observeSafety_keeps_abort
  exact (tick_ticked setup.cfg s batch.nowNs false batch.after1s).abort h

theorem entered_lows (app : App) :
    (entered setup s batch).lowProbabilityBatches app =
      if app ∈ setup.ids then
        if probabilityOf setup batch app < setup.cfg.probabilityThreshold then
          s.lowProbabilityBatches app + 1
        else 0
      else s.lowProbabilityBatches app := by
  have htick := (tick_ticked setup.cfg s batch.nowNs false batch.after1s).lows
  unfold entered observeSafety startBatch
  dsimp only
  rw [htick]

theorem entered_sameCharges : SameCharges s (entered setup s batch) := by
  have h := tick_ticked setup.cfg s batch.nowNs false batch.after1s
  exact ⟨h.lastApp, h.lastGlobal, h.appBytes, h.globalBytes, h.actionTimes, h.episodes⟩

theorem firstSorted_mem {candidates : List (Candidate App)} {c : Candidate App}
    (h : firstSorted candidates = some c) : c ∈ candidates := by
  cases candidates with
  | nil => cases h
  | cons first rest =>
    have hfold : ∀ (rest : List (Candidate App)) (best : Candidate App),
        rest.foldl (fun best c => if c.before best then c else best) best ∈ best :: rest := by
      intro rest
      induction rest with
      | nil => simp
      | cons d rest ih =>
        intro best
        rw [List.foldl_cons]
        have hmem := ih (if d.before best then d else best)
        by_cases hbefore : d.before best = true
        · rw [if_pos hbefore] at hmem ⊢
          exact List.mem_cons_of_mem _ hmem
        · rw [if_neg hbefore] at hmem ⊢
          rcases List.mem_cons.1 hmem with heq | hrest
          · rw [heq]
            exact List.mem_cons_self
          · exact List.mem_cons_of_mem _ (List.mem_cons_of_mem _ hrest)
    obtain rfl := Option.some.inj h
    exact hfold rest first

/-- What a sample passed when it became a candidate in state `s`. -/
structure Eligible (setup : Setup App Vocab) (s : Controller App Event)
    (batch : Batch App Event Vocab) (c : Candidate App) : Prop where
  sampled : (c.app, c.activity) ∈ batch.activities
  notCurrent : c.app ≠ batch.currentApp
  notForeground : c.activity.foregroundState ≠ .foreground
  status : c.activity.status = .ok
  running : c.activity.runningState = .runningBackground
  bound : c.app ∈ batch.bindReady
  marked : ∃ path ∈ c.activity.memcgPath, path.Carries setup.marker
  probability : ¬ probabilityOf setup batch c.app ≥ setup.cfg.probabilityThreshold
  lowBatches : setup.cfg.requiredLowProbabilityBatches ≤ s.lowProbabilityBatches c.app
  ema : ∃ ema ∈ c.activity.ema, ¬ ema ≥ setup.cfg.activityThreshold
  lowWindows : setup.cfg.requiredLowActivityWindows ≤ c.activity.lowWindows
  deficit : setup.cfg.minimumHeadroomDeficitBytes ≤ deficitOf setup.cfg batch.system
  request : ∃ ratio ∈ ratioBytes setup.cfg c.activity.memcgCurrentBytes,
    0 < capOf setup.cfg s c.app c.activity ratio ∧
      c.request = min (min setup.cfg.stepBytes (deficitOf setup.cfg batch.system))
        (capOf setup.cfg s c.app c.activity ratio)

theorem eligible_of_evaluate (sample : App × AppActivity)
    (hmem : sample ∈ batch.activities) {c : Candidate App}
    (h : evaluate setup s batch (deficitOf setup.cfg batch.system) sample = .candidate c) :
    Eligible setup s batch c := by
  obtain ⟨app, activity⟩ := sample
  unfold evaluate at h
  dsimp only at h
  cases hreject : candidateRejection setup s batch app activity (probabilityOf setup batch app)
      (deficitOf setup.cfg batch.system) with
  | some reason =>
    rw [hreject] at h
    cases h
  | none =>
    rw [hreject] at h
    cases hratio : ratioBytes setup.cfg activity.memcgCurrentBytes with
    | none =>
      rw [hratio] at h
      cases h
    | some ratio =>
      rw [hratio] at h
      dsimp only at h
      split_ifs at h with hcap
      obtain rfl := Evaluation.candidate.inj h
      unfold candidateRejection at hreject
      simp only [ite_some_eq_none, and_true] at hreject
      obtain ⟨h1, h2, h3, h4, h5, h6, h7, h8, h9, h10, h11, h12⟩ := hreject
      exact {
        sampled := hmem
        notCurrent := fun heq => h1 (.inl heq)
        notForeground := fun heq => h1 (.inr heq)
        status := not_not.1 h2
        running := not_not.1 h3
        bound := not_not.1 h4
        marked := by
          obtain ⟨path, hpath, -, hmark⟩ := not_not.1 h5
          exact ⟨path, hpath, hmark⟩
        probability := h7
        lowBatches := not_lt.1 h8
        ema := not_not.1 h9
        lowWindows := not_lt.1 h10
        deficit := not_lt.1 h12
        request := ⟨ratio, hratio, not_le.1 hcap, rfl⟩ }

theorem eligible_of_first {setup : Setup App Vocab} {s : Controller App Event}
    {batch : Batch App Event Vocab} {c : Candidate App}
    (h : firstSorted ((evaluations setup s batch).filterMap Evaluation.candidate?) = some c) :
    Eligible setup s batch c := by
  obtain ⟨evaluation, hmem, hc⟩ := List.mem_filterMap.1 (firstSorted_mem h)
  obtain ⟨sample, hsample, rfl⟩ := List.mem_map.1 hmem
  cases heval : evaluate setup s batch (deficitOf setup.cfg batch.system) sample with
  | rejected reason =>
    rw [heval] at hc
    cases hc
  | raised =>
    rw [heval] at hc
    cases hc
  | candidate d =>
    rw [heval] at hc
    obtain rfl := Option.some.inj hc
    exact eligible_of_evaluate setup s batch sample hsample heval

section

variable {setup : Setup App Vocab} {s : Controller App Event} {batch : Batch App Event Vocab}
  {c : Candidate App} (h : Eligible setup s batch c)

include h

theorem Eligible.le_step : c.request ≤ setup.cfg.stepBytes := by
  obtain ⟨ratio, -, -, hrequest⟩ := h.request
  rw [hrequest]
  exact (min_le_left _ _).trans (min_le_left _ _)

theorem Eligible.le_deficit : c.request ≤ deficitOf setup.cfg batch.system := by
  obtain ⟨ratio, -, -, hrequest⟩ := h.request
  rw [hrequest]
  exact (min_le_left _ _).trans (min_le_right _ _)

theorem Eligible.le_ratio :
    ∃ ratio ∈ ratioBytes setup.cfg c.activity.memcgCurrentBytes, c.request ≤ ratio := by
  obtain ⟨ratio, hratio, -, hrequest⟩ := h.request
  refine ⟨ratio, hratio, ?_⟩
  unfold capOf at hrequest
  omega

theorem Eligible.le_resident :
    c.request ≤ c.activity.memcgCurrentBytes - setup.cfg.minimumResidentBytes := by
  obtain ⟨ratio, -, -, hrequest⟩ := h.request
  unfold capOf at hrequest
  omega

theorem Eligible.le_app : c.request ≤ setup.cfg.maxPerAppSession - s.appBytes c.app := by
  obtain ⟨ratio, -, -, hrequest⟩ := h.request
  unfold capOf at hrequest
  omega

theorem Eligible.le_global : c.request ≤ setup.cfg.maxGlobalSession - s.globalBytes := by
  obtain ⟨ratio, -, -, hrequest⟩ := h.request
  unfold capOf at hrequest
  omega

theorem Eligible.request_pos (hstep : 0 < setup.cfg.stepBytes)
    (hdeficit : 0 < setup.cfg.minimumHeadroomDeficitBytes) : 0 < c.request := by
  obtain ⟨ratio, -, hcap, hrequest⟩ := h.request
  have hneed := h.deficit
  omega

end

/-- What `_apply` can do with a candidate. -/
inductive ApplyCase (s : Controller App Event) (batch : Batch App Event Vocab)
    (c : Candidate App) : Option (Attempt App Event) → Controller App Event → Prop
  | refused (s' : Controller App Event) (hsame : SameCharges s s') : ApplyCase s batch c none s'
  | failed (s' : Controller App Event) (hsame : SameCharges s s') (hwrite : batch.write ≠ .written) :
      ApplyCase s batch c (some ⟨batch.triggerEventId, c.app, c.activity, c.request, batch.nowNs,
        false⟩) s'
  | succeeded (s' : Controller App Event)
      (hsame : SameCharges (charged s c.app c.request batch.nowNs) s') :
      ApplyCase s batch c (some ⟨batch.triggerEventId, c.app, c.activity, c.request, batch.nowNs,
        true⟩) s'

theorem applyReclaim_cases (setup : Setup App Vocab) (s : Controller App Event)
    (batch : Batch App Event Vocab) (c : Candidate App) :
    ApplyCase s batch c (applyReclaim setup s batch c).1 (applyReclaim setup s batch c).2 := by
  unfold applyReclaim
  by_cases hsafe : ∃ path ∈ c.activity.memcgPath, SafeTarget setup batch path c.activity
  · by_cases hwrite : batch.write = .written
    · simp only [hsafe, hwrite, decide_true, Bool.and_self, if_true]
      exact .succeeded _ ⟨rfl, rfl, rfl, rfl, rfl, rfl⟩
    · simp only [hsafe, hwrite, decide_true, decide_false, Bool.and_false, if_true,
        Bool.false_eq_true, if_false]
      exact .failed _ ⟨rfl, rfl, rfl, rfl, rfl, rfl⟩ hwrite
  · simp only [hsafe, decide_false, Bool.false_and, Bool.false_eq_true, if_false]
    exact .refused _ ⟨rfl, rfl, rfl, rfl, rfl, rfl⟩

end

section

variable [LinearOrder App] [DecidableEq Event]

inductive ObserveCase (setup : Setup App Vocab) (s : Controller App Event)
    (batch : Batch App Event Vocab) : Outcome App Event → Controller App Event → Prop
  | off (o : Outcome App Event) (hnone : o.attempt = none) (hmode : setup.cfg.mode = .off) :
      ObserveCase setup s batch o s
  | skipped (o : Outcome App Event) (hnone : o.attempt = none) :
      ObserveCase setup s batch o (entered setup s batch)
  | ranked (o : Outcome App Event) (hnone : o.attempt = none) :
      ObserveCase setup s batch o (pruned (entered setup s batch) batch.nowNs)
  | applied (o : Outcome App Event) (c : Candidate App)
      (hmode : setup.cfg.mode = .applyBounded) (hready : setup.cfg.preflightReady = true)
      (habort : (entered setup s batch).abortedReason = none)
      (heligible : Eligible setup (entered setup s batch) batch c)
      (hfree : ¬ InCooldownOrRateLimit setup.cfg (pruned (entered setup s batch) batch.nowNs)
        c.app batch.nowNs)
      (hepisode : (entered setup s batch).actionsPerEpisode batch.triggerEventId <
        setup.cfg.maxActionsPerEpisode)
      (hattempt : o.attempt = (applyReclaim setup (episodeCharged
        (pruned (entered setup s batch) batch.nowNs) batch.triggerEventId) batch c).1) :
      ObserveCase setup s batch o (applyReclaim setup (episodeCharged
        (pruned (entered setup s batch) batch.nowNs) batch.triggerEventId) batch c).2

theorem decideCandidate_cases {setup : Setup App Vocab} {s : Controller App Event}
    {batch : Batch App Event Vocab} {c : Candidate App}
    (habort : (entered setup s batch).abortedReason = none)
    (heligible : Eligible setup (entered setup s batch) batch c) :
    ObserveCase setup s batch (decideCandidate setup (entered setup s batch) batch c).1
      (decideCandidate setup (entered setup s batch) batch c).2 := by
  unfold decideCandidate
  dsimp only
  split_ifs with hkey hcool hepisode hshadow hready
  · exact .ranked _ rfl
  · exact .ranked _ rfl
  · exact .ranked _ rfl
  · exact .ranked _ rfl
  · exact .applied _ c hready.1 hready.2 habort heligible hcool (not_le.1 hepisode) rfl
  · exact .ranked _ rfl

theorem observePrediction_cases (setup : Setup App Vocab) (s : Controller App Event)
    (batch : Batch App Event Vocab) :
    ObserveCase setup s batch (observePrediction setup s batch).1
      (observePrediction setup s batch).2 := by
  unfold observePrediction
  by_cases hoff : setup.cfg.mode = .off
  · rw [if_pos hoff]
    exact .off _ rfl hoff
  · rw [if_neg hoff]
    dsimp only
    cases habort : (entered setup s batch).abortedReason with
    | some reason => exact .skipped _ rfl
    | none =>
      dsimp only
      by_cases hraised : (evaluations setup (entered setup s batch) batch).any
          Evaluation.isRaised = true
      · rw [if_pos hraised]
        exact .skipped _ rfl
      · rw [if_neg hraised]
        cases hbest : firstSorted ((evaluations setup (entered setup s batch) batch).filterMap
            Evaluation.candidate?) with
        | none => exact .skipped _ rfl
        | some c => exact decideCandidate_cases habort (eligible_of_first hbest)

end

end Parp.AppReclaim
