import Parp.AppReclaimLimits

set_option autoImplicit false

namespace Parp.AppReclaim

open TransitionRuns Binary64

variable {App Event Vocab : Type} [LinearOrder App] [DecidableEq Event]

def Call.batch? : Call App Event Vocab → Option (Batch App Event Vocab)
  | .observe batch => some batch
  | .tick _ _ _ => none

/-- How many of the latest batches in a row gave `app` a probability below the threshold. -/
def lowRun (setup : Setup App Vocab) (app : App) (calls : List (Call App Event Vocab)) : ℕ :=
  ((calls.filterMap Call.batch?).reverse.takeWhile fun batch =>
    probabilityOf setup batch app < setup.cfg.probabilityThreshold).length

def sessionAfter (setup : Setup App Vocab) (calls : List (Call App Event Vocab)) :
    Controller App Event :=
  after (controllerStep setup) {} calls

structure Gated (setup : Setup App Vocab) (calls : List (Call App Event Vocab))
    (batch : Batch App Event Vocab) (w : Attempt App Event) : Prop where
  single : attempts setup (calls ++ [.observe batch]) = attempts setup calls ++ [w]
  noAbort : ∀ earlier later, calls ++ [.observe batch] = earlier ++ later →
    (sessionAfter setup earlier).abortedReason = none
  mode : setup.cfg.mode = .applyBounded
  preflight : setup.cfg.preflightReady = true
  sampled : (w.app, w.activity) ∈ batch.activities
  notCurrent : w.app ≠ batch.currentApp
  notForeground : w.activity.foregroundState ≠ .foreground
  marked : ∃ path ∈ w.activity.memcgPath, path.Carries setup.marker
  bound : w.app ∈ batch.bindReady
  running : w.activity.runningState = .runningBackground
  status : w.activity.status = .ok
  lowBatches : setup.cfg.requiredLowProbabilityBatches ≤
    lowRun setup w.app (calls ++ [.observe batch])
  ema : ∃ ema ∈ w.activity.ema, ¬ ema ≥ setup.cfg.activityThreshold ∧
    (ema.isNaN = false → setup.cfg.activityThreshold.isNaN = false →
      ema < setup.cfg.activityThreshold)
  lowWindows : setup.cfg.requiredLowActivityWindows ≤ w.activity.lowWindows
  positive : 0 < setup.cfg.stepBytes → 0 < setup.cfg.minimumHeadroomDeficitBytes →
    0 < w.requestedBytes
  leStep : w.requestedBytes ≤ setup.cfg.stepBytes
  leDeficit : w.requestedBytes ≤ deficitOf setup.cfg batch.system
  leRatio : ∃ ratio ∈ ratioBytes setup.cfg w.activity.memcgCurrentBytes, w.requestedBytes ≤ ratio
  leResident : w.requestedBytes ≤ w.activity.memcgCurrentBytes - setup.cfg.minimumResidentBytes
  leApp : w.requestedBytes ≤ setup.cfg.maxPerAppSession -
    requestedOf ((successes (attempts setup calls)).filter fun v => v.app = w.app)
  leGlobal : w.requestedBytes ≤ setup.cfg.maxGlobalSession -
    requestedOf (successes (attempts setup calls))

section

variable (setup : Setup App Vocab)

theorem step_keeps_abort (s : Controller App Event) (call : Call App Event Vocab)
    (h : s.abortedReason ≠ none) : (controllerStep setup s call).2.abortedReason ≠ none := by
  cases call with
  | tick nowNs final after1s => exact (tick_ticked setup.cfg s nowNs final after1s).abort h
  | observe batch =>
    have hentered := entered_keeps_abort setup s batch h
    change (observePrediction setup s batch).2.abortedReason ≠ none
    have hcase := observePrediction_cases setup s batch
    generalize (observePrediction setup s batch).1 = o at hcase
    generalize (observePrediction setup s batch).2 = s' at hcase ⊢
    cases hcase with
    | off hnone hmode => exact h
    | skipped hnone => exact hentered
    | ranked hnone => exact hentered
    | applied c hmode hready habort heligible hfree hepisode hattempt =>
      exact absurd habort hentered

theorem abort_persists (earlier later : List (Call App Event Vocab))
    (h : (sessionAfter setup (earlier ++ later)).abortedReason = none) :
    (sessionAfter setup earlier).abortedReason = none := by
  by_contra habort
  unfold sessionAfter at h
  rw [after_append] at h
  exact after_invariant (fun s call => step_keeps_abort setup s call) habort later h

omit [DecidableEq Event] in
theorem applyReclaim_lows (s : Controller App Event) (batch : Batch App Event Vocab)
    (c : Candidate App) :
    (applyReclaim setup s batch c).2.lowProbabilityBatches = s.lowProbabilityBatches := by
  unfold applyReclaim
  dsimp only
  split_ifs <;> rfl

theorem step_lows (hmode : setup.cfg.mode ≠ .off) (s : Controller App Event)
    (batch : Batch App Event Vocab) :
    (controllerStep setup s (.observe batch)).2.lowProbabilityBatches =
      (entered setup s batch).lowProbabilityBatches := by
  change (observePrediction setup s batch).2.lowProbabilityBatches = _
  have hcase := observePrediction_cases setup s batch
  generalize (observePrediction setup s batch).1 = o at hcase
  generalize (observePrediction setup s batch).2 = s' at hcase ⊢
  cases hcase with
  | off hnone hoff => exact absurd hoff hmode
  | skipped hnone => rfl
  | ranked hnone => rfl
  | applied c happly hready habort heligible hfree hepisode hattempt =>
    exact applyReclaim_lows setup _ batch c

omit [DecidableEq Event] in
theorem lowRun_observe (app : App) (calls : List (Call App Event Vocab))
    (batch : Batch App Event Vocab) :
    lowRun setup app (calls ++ [.observe batch]) =
      if probabilityOf setup batch app < setup.cfg.probabilityThreshold then
        lowRun setup app calls + 1
      else 0 := by
  unfold lowRun
  rw [List.filterMap_append]
  simp only [List.filterMap_cons, Call.batch?, List.filterMap_nil, List.reverse_append,
    List.reverse_singleton, List.singleton_append, List.takeWhile_cons]
  by_cases hlow : probabilityOf setup batch app < setup.cfg.probabilityThreshold
  · simp [hlow]
  · simp [hlow]

theorem lows_after (hmode : setup.cfg.mode ≠ .off) (calls : List (Call App Event Vocab))
    (app : App) :
    (sessionAfter setup calls).lowProbabilityBatches app =
      if app ∈ setup.ids then lowRun setup app calls else 0 := by
  induction calls using List.reverseRecOn with
  | nil => simp [sessionAfter, lowRun]
  | append_singleton calls call ih =>
    unfold sessionAfter at ih ⊢
    rw [after_concat]
    cases call with
    | tick nowNs final after1s =>
      have htick := (tick_ticked setup.cfg (after (controllerStep setup) {} calls) nowNs final
        after1s).lows
      have hsame : lowRun setup app (calls ++ [.tick nowNs final after1s]) =
          lowRun setup app calls := by
        simp [lowRun, Call.batch?]
      rw [hsame, ← ih]
      exact congrFun htick app
    | observe batch =>
      rw [step_lows setup hmode, entered_lows, lowRun_observe]
      by_cases hid : app ∈ setup.ids
      · rw [if_pos hid, if_pos hid, ih, if_pos hid]
      · rw [if_neg hid, if_neg hid, ih, if_neg hid]

end

/-- The call whose write `w` is passed every gate in the state it entered. -/
structure Passed (setup : Setup App Vocab) (s : Controller App Event)
    (batch : Batch App Event Vocab) (w : Attempt App Event) : Prop where
  mode : setup.cfg.mode = .applyBounded
  preflight : setup.cfg.preflightReady = true
  noAbort : (entered setup s batch).abortedReason = none
  noAbortAfter : (controllerStep setup s (.observe batch)).2.abortedReason = none
  eligible : ∃ c, Eligible setup (entered setup s batch) batch c ∧ w.app = c.app ∧
    w.activity = c.activity ∧ w.requestedBytes = c.request

omit [DecidableEq Event] in
theorem applyReclaim_abort (setup : Setup App Vocab) (s : Controller App Event)
    (batch : Batch App Event Vocab) (c : Candidate App) :
    (applyReclaim setup s batch c).2.abortedReason = s.abortedReason := by
  unfold applyReclaim
  dsimp only
  split_ifs <;> rfl

theorem passed_of_attempt (setup : Setup App Vocab) (s : Controller App Event)
    (batch : Batch App Event Vocab) (w : Attempt App Event)
    (hw : (controllerStep setup s (.observe batch)).1.attempt = some w) :
    Passed setup s batch w := by
  change (observePrediction setup s batch).1.attempt = some w at hw
  have hcase := observePrediction_cases setup s batch
  have hstep : (controllerStep setup s (.observe batch)).2 = (observePrediction setup s batch).2 :=
    rfl
  generalize (observePrediction setup s batch).1 = o at hcase hw
  generalize (observePrediction setup s batch).2 = s' at hcase hstep
  cases hcase with
  | off hnone hmode => simp [hnone] at hw
  | skipped hnone => simp [hnone] at hw
  | ranked hnone => simp [hnone] at hw
  | applied c hmode hready habort heligible hfree hepisode hattempt =>
    rw [hattempt] at hw
    refine ⟨hmode, hready, habort, ?_, c, heligible, ?_⟩
    · rw [hstep, applyReclaim_abort]
      exact habort
    · have hcase := applyReclaim_cases setup (episodeCharged
        (pruned (entered setup s batch) batch.nowNs) batch.triggerEventId) batch c
      generalize (applyReclaim setup _ batch c).1 = attempt at hcase hw
      cases hcase with
      | refused _ hsame => cases hw
      | failed _ hsame hwrite =>
        obtain rfl := Option.some.inj hw
        exact ⟨rfl, rfl, rfl⟩
      | succeeded _ hsame =>
        obtain rfl := Option.some.inj hw
        exact ⟨rfl, rfl, rfl⟩

/-- Every write a batch attempts, after any session, has passed every gate. -/
theorem write_gated (setup : Setup App Vocab) (calls : List (Call App Event Vocab))
    (batch : Batch App Event Vocab) (w : Attempt App Event)
    (hw : (controllerStep setup (sessionAfter setup calls) (.observe batch)).1.attempt = some w) :
    Gated setup calls batch w := by
  have hpassed := passed_of_attempt setup (sessionAfter setup calls) batch w hw
  have hmode : setup.cfg.mode ≠ .off := by simp [hpassed.mode]
  have hcharges := entered_sameCharges setup (sessionAfter setup calls) batch
  have hbytes := (bytes_after setup calls).congr hcharges
  have hsingle : attempts setup (calls ++ [.observe batch]) = attempts setup calls ++ [w] := by
    rw [attempts_concat]
    exact congrArg (fun attempt => attempts setup calls ++ attempt.toList) hw
  obtain ⟨c, heligible, happ, hactivity, hrequest⟩ := hpassed.eligible
  obtain ⟨event, app, activity, request, timestampNs, success⟩ := w
  dsimp only at happ hactivity hrequest
  subst happ hactivity hrequest
  exact {
    single := hsingle
    noAbort := by
      intro earlier later hsplit
      apply abort_persists setup earlier later
      rw [← hsplit, sessionAfter, after_concat]
      exact hpassed.noAbortAfter
    mode := hpassed.mode
    preflight := hpassed.preflight
    sampled := heligible.sampled
    notCurrent := heligible.notCurrent
    notForeground := heligible.notForeground
    marked := heligible.marked
    bound := heligible.bound
    running := heligible.running
    status := heligible.status
    lowBatches := by
      have hlows := lows_after setup hmode (calls ++ [.observe batch]) c.app
      rw [sessionAfter, after_concat, step_lows setup hmode] at hlows
      have hle := heligible.lowBatches
      change _ ≤ (entered setup (after (controllerStep setup) {} calls)
        batch).lowProbabilityBatches c.app at hle
      rw [hlows] at hle
      split_ifs at hle
      · exact hle
      · exact hle.trans (Nat.zero_le _)
    ema := by
      obtain ⟨ema, hema, hbelow⟩ := heligible.ema
      exact ⟨ema, hema, hbelow, fun hnan hnan' => lt_of_not_le hnan hnan' hbelow⟩
    lowWindows := heligible.lowWindows
    positive := heligible.request_pos
    leStep := heligible.le_step
    leDeficit := heligible.le_deficit
    leRatio := heligible.le_ratio
    leResident := heligible.le_resident
    leApp := hbytes.appBytes c.app ▸ heligible.le_app
    leGlobal := hbytes.globalBytes ▸ heligible.le_global }

def shippedSetup : Setup ℕ ℕ where
  cfg := { mode := .applyBounded, preflightReady := true }
  ids := [1, 2]

/-- The second low batch of application 2 writes. -/
theorem secondBatch_gated :
    ∃ w, (controllerStep shippedSetup (sessionAfter shippedSetup
        [.observe (idleBatch 1 10000000000 .written)])
        (.observe (idleBatch 2 20000000000 .raised))).1.attempt = some w ∧
      Gated shippedSetup [.observe (idleBatch 1 10000000000 .written)]
        (idleBatch 2 20000000000 .raised) w := by
  have hsome : ((controllerStep shippedSetup (sessionAfter shippedSetup
      [.observe (idleBatch 1 10000000000 .written)])
      (.observe (idleBatch 2 20000000000 .raised))).1.attempt).isSome = true := by decide +kernel
  obtain ⟨w, hw⟩ := Option.isSome_iff_exists.1 hsome
  exact ⟨w, hw, write_gated shippedSetup _ _ w hw⟩

def needlessSetup : Setup ℕ ℕ where
  cfg := {
    mode := .applyBounded
    requiredLowProbabilityBatches := 1
    targetHeadroomBytes := 0
    minimumHeadroomDeficitBytes := 0
    preflightReady := true }
  ids := [1, 2]

def seventhsSetup : Setup ℕ ℕ where
  cfg := {
    mode := .applyBounded
    requiredLowProbabilityBatches := 1
    maxRatio := 0.7
    minimumResidentBytes := 0
    preflightReady := true }
  ids := [1, 2]

def sampledBatch (activity : AppActivity) : Batch ℕ ℕ ℕ :=
  { idleBatch 1 10000000000 .written with activities := [(2, activity)] }

/-- A request of no bytes, a request above the share of the usage that the double `0.7` denotes
(`10 * 0.7` rounds up to 7), and a write for a sample whose EMA is not below the threshold. -/
theorem gates_not_strict :
    (attempts needlessSetup [.observe (idleBatch 1 10000000000 .written)]).map
        Attempt.requestedBytes = [0] ∧
      (attempts seventhsSetup [.observe (sampledBatch { idleActivity with
        memcgCurrentBytes := 10 })]).map Attempt.requestedBytes = [7] ∧
      (seventhsSetup.cfg.maxRatio.toModel.unpack =
        .finite .positive 6305039478318694 (-53) (by decide) ∧
          10 * 6305039478318694 < 7 * 2 ^ 53) ∧
      (attempts boundedSetup [.observe (sampledBatch { idleActivity with
        ema := some (0.0 / 0.0) })]).length = 1 ∧
      ¬ (0.0 / 0.0 : Float) < boundedSetup.cfg.activityThreshold := by
  refine ⟨by decide +kernel, by decide +kernel, ⟨?_, by decide⟩, by decide +kernel,
    by decide +kernel⟩
  rfl

end Parp.AppReclaim
