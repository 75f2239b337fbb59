import Mathlib.Data.List.Chain
import Parp.Test4BReclaim

set_option autoImplicit false

namespace Parp.Test4BReclaim

open AppReclaim TransitionRuns List

variable {App Vocab : Type} [LinearOrder App]

def attempts (setup : Setup App Vocab) (calls : List (Call App Vocab)) : List (Attempt App) :=
  (outputs (controllerStep setup) {} calls).filterMap Outcome.attempt

def successes (writes : List (Attempt App)) : List (Attempt App) :=
  writes.filter fun w => w.success

def requestedOf (writes : List (Attempt App)) : ℤ := (writes.map Attempt.requestedBytes).sum

def sessionAfter (setup : Setup App Vocab) (calls : List (Call App Vocab)) : Controller App :=
  after (controllerStep setup) {} calls

def Call.nowNs : Call App Vocab → ℤ
  | .observe batch => batch.nowNs
  | .tick nowNs _ => nowNs

def Call.batch? : Call App Vocab → Option (Batch App Vocab)
  | .observe batch => if batch.active then some batch else none
  | .tick _ _ => none

/-- How many of the latest batches in a row gave `app` a probability below the threshold. -/
def lowRun (setup : Setup App Vocab) (app : App) (calls : List (Call App Vocab)) : ℕ :=
  ((calls.filterMap Call.batch?).reverse.takeWhile fun batch =>
    probabilityOf setup batch app < setup.cfg.probabilityThreshold).length

def BelowSlice (marker : String) (path : PurePath) : Prop :=
  path.IsRelativeTo cgroupRoot ∧ ".." ∉ path.parts ∧
    ∃ above below, path.parts = above ++ marker :: below ∧ below ≠ []

def MarksSlice (setup : Setup App Vocab) (path : PurePath) : Prop :=
  path.IsRelativeTo cgroupRoot → path.Carries setup.marker → BelowSlice setup.marker path

structure Gated (setup : Setup App Vocab) (calls : List (Call App Vocab)) (batch : Batch App Vocab)
    (w : Attempt App) : Prop where
  noAbort : ∀ earlier later, calls ++ [.observe batch] = earlier ++ later →
    (sessionAfter setup earlier).aborted = none
  sampled : (w.app, w.status) ∈ batch.ballast
  notCurrent : w.app ≠ batch.currentApp
  bound : w.app ∈ batch.bindReady
  allocated : w.status.allocated = true
  expected : w.status.expectedCgroup = some w.path
  actual : w.status.actualCgroup = some w.path
  below : BelowSlice setup.marker w.path
  idle : w.status.state = .backgroundIdle
  quiet : setup.cfg.coldQuietMs * 1000000 ≤ w.status.quietNs w.timestampNs
  lowBatches : setup.cfg.requiredLowProbabilityBatches ≤
    lowRun setup w.app (calls ++ [.observe batch])
  leStep : w.requestedBytes ≤ setup.cfg.stepBytes
  leDeficit : w.requestedBytes ≤ deficitOf setup.cfg batch.system

structure WithinBudget (setup : Setup App Vocab) (calls : List (Call App Vocab)) : Prop where
  count : (attempts setup calls).length ≤ setup.cfg.maxReclaimsPerSession
  bytes : requestedOf (attempts setup calls) ≤ setup.cfg.maxReclaimBytesPerSession
  spaced : (attempts setup calls).IsChain fun a b =>
    setup.cfg.globalCooldownMs * 1000000 ≤ b.timestampNs - a.timestampNs
  gated : ∀ earlier batch later w, calls = earlier ++ .observe batch :: later →
    (controllerStep setup (sessionAfter setup earlier) (.observe batch)).1.attempt = some w →
      Gated setup earlier batch w

section

variable {setup : Setup App Vocab} {s : Controller App} {writes : List (Attempt App)}

structure Ledger (cfg : Test4BReclaimConfig) (writes : List (Attempt App))
    (s : Controller App) : Prop where
  actions : s.actions = (successes writes).length
  bytes : s.bytes = requestedOf (successes writes)
  last : s.lastGlobalNs = ((successes writes).getLast?.map Attempt.timestampNs).getD 0
  timely : ∀ w ∈ successes writes, 0 < w.timestampNs
  countLe : (successes writes).length ≤ cfg.maxReclaimsPerSession
  bytesLe : requestedOf (successes writes) ≤ cfg.maxReclaimBytesPerSession
  spaced : (successes writes).IsChain fun a b =>
    cfg.globalCooldownMs * 1000000 ≤ b.timestampNs - a.timestampNs

omit [LinearOrder App] in
theorem successes_concat (writes : List (Attempt App)) (w : Attempt App) :
    successes (writes ++ [w]) = successes writes ++ if w.success then [w] else [] := by
  unfold successes
  rw [filter_append]
  cases hsuccess : w.success <;> simp [hsuccess]

omit [LinearOrder App] in
theorem requestedOf_concat (writes : List (Attempt App)) (w : Attempt App) :
    requestedOf (writes ++ [w]) = requestedOf writes + w.requestedBytes := by
  simp [requestedOf]

omit [LinearOrder App] in
theorem Ledger.congr {cfg : Test4BReclaimConfig} {s' : Controller App} (h : Ledger cfg writes s)
    (hactions : s'.actions = s.actions) (hbytes : s'.bytes = s.bytes)
    (hlast : s'.lastGlobalNs = s.lastGlobalNs) : Ledger cfg writes s' :=
  { h with
    actions := hactions.trans h.actions
    bytes := hbytes.trans h.bytes
    last := hlast.trans h.last }

theorem Ledger.applied {batch : Batch App Vocab} {w : Attempt App} {s' : Controller App}
    (h : Ledger setup.cfg writes s) (hnow : 0 < batch.nowNs) (hw : Applied setup s batch w s') :
    Ledger setup.cfg (writes ++ [w]) s' := by
  have hsucc := successes_concat writes w
  have hafter := hw.after
  cases hsuccess : w.success with
  | false =>
    rw [hsuccess] at hsucc hafter
    change successes (writes ++ [w]) = successes writes ++ [] at hsucc
    rw [append_nil] at hsucc
    obtain rfl : s' = s := hafter
    exact ⟨hsucc ▸ h.actions, hsucc ▸ h.bytes, hsucc ▸ h.last, hsucc ▸ h.timely,
      hsucc ▸ h.countLe, hsucc ▸ h.bytesLe, hsucc ▸ h.spaced⟩
  | true =>
    rw [hsuccess] at hsucc hafter
    change successes (writes ++ [w]) = successes writes ++ [w] at hsucc
    obtain rfl : s' = charged s w.app w.requestedBytes batch.nowNs := hafter
    have hcount := hw.actions
    have hrequest := hw.request
    unfold requestOf at hrequest
    have hactions := h.actions
    have hbytes := h.bytes
    constructor
    · rw [hsucc, length_append, ← h.actions]
      rfl
    · rw [hsucc, requestedOf_concat, ← h.bytes]
      rfl
    · rw [hsucc, getLast?_concat]
      exact hw.time.symm
    · intro v hv
      rw [hsucc] at hv
      rcases mem_append.1 hv with hold | hnew
      · exact h.timely v hold
      · rw [mem_singleton.1 hnew, hw.time]
        exact hnow
    · rw [hsucc, length_append, ← h.actions]
      exact hcount
    · rw [hsucc, requestedOf_concat, ← h.bytes]
      omega
    · rw [hsucc, isChain_append]
      refine ⟨h.spaced, isChain_singleton w, ?_⟩
      intro a ha b hb
      obtain rfl : w = b := by simpa using hb
      have hlast : s.lastGlobalNs = a.timestampNs := by
        rw [h.last, Option.mem_def.1 ha]
        rfl
      have hpos := h.timely a (mem_of_getLast? ha)
      have hcool := hw.cooldown
      rw [hw.time]
      omega

theorem ledger_step (call : Call App Vocab) (hnow : 0 < call.nowNs)
    (h : Ledger setup.cfg writes s) :
    Ledger setup.cfg (writes ++ (controllerStep setup s call).1.attempt.toList)
      (controllerStep setup s call).2 := by
  cases call with
  | tick nowNs final =>
    change Ledger setup.cfg (writes ++ []) (tick s nowNs final)
    rw [append_nil]
    exact h.congr rfl rfl rfl
  | observe batch =>
    change Ledger setup.cfg (writes ++ (observePrediction setup s batch).1.attempt.toList)
      (observePrediction setup s batch).2
    have hentered : Ledger setup.cfg writes (entered setup s batch) := h.congr rfl rfl rfl
    rcases observe_cases setup s batch with ⟨-, hnone, hsame⟩ | ⟨-, -, hrest⟩
    · rw [hnone, hsame, Option.toList_none, append_nil]
      exact h
    · rcases hrest with ⟨hnone, hsame⟩ | ⟨w, hattempt, hw⟩
      · rw [hnone, hsame, Option.toList_none, append_nil]
        exact hentered
      · rw [hattempt]
        exact hentered.applied hnow hw

theorem attempts_concat (calls : List (Call App Vocab)) (call : Call App Vocab) :
    attempts setup (calls ++ [call]) = attempts setup calls ++
      (controllerStep setup (sessionAfter setup calls) call).1.attempt.toList := by
  unfold attempts sessionAfter
  rw [outputs_concat, filterMap_append]
  cases hattempt : (controllerStep setup (after (controllerStep setup) {} calls) call).1.attempt <;>
    simp [hattempt]

theorem ledger_after (setup : Setup App Vocab) (calls : List (Call App Vocab))
    (hnow : ∀ call ∈ calls, 0 < call.nowNs) :
    Ledger setup.cfg (attempts setup calls) (sessionAfter setup calls) := by
  induction calls using List.reverseRecOn with
  | nil =>
    refine ⟨rfl, rfl, rfl, ?_, Nat.zero_le _, Int.natCast_nonneg _, List.IsChain.nil⟩
    intro w hw
    cases hw
  | append_singleton calls call ih =>
    rw [attempts_concat]
    unfold sessionAfter at ih ⊢
    rw [after_concat]
    exact ledger_step call (hnow call (by simp))
      (ih fun earlier hmem => hnow earlier (mem_append_left _ hmem))

end

section

variable {setup : Setup App Vocab}

omit [LinearOrder App] in
theorem safety_keeps_abort {cfg : Test4BReclaimConfig} {s : Controller App} {system : SystemState}
    (h : s.aborted ≠ none) : (safety cfg s system).aborted ≠ none := by
  unfold safety
  dsimp only
  cases s.rootOomBaseline with
  | none => split_ifs <;> simp [h]
  | some baseline =>
    dsimp only
    split_ifs <;> simp [h]

theorem Applied.noAbortAfter {s s' : Controller App} {batch : Batch App Vocab} {w : Attempt App}
    (hw : Applied setup s batch w s') : s'.aborted = none := by
  rw [hw.after]
  split_ifs
  · exact hw.noAbort
  · exact hw.noAbort

theorem step_keeps_abort (s : Controller App) (call : Call App Vocab) (h : s.aborted ≠ none) :
    (controllerStep setup s call).2.aborted ≠ none := by
  cases call with
  | tick nowNs final => exact h
  | observe batch =>
    have hentered : (entered setup s batch).aborted ≠ none := safety_keeps_abort h
    change (observePrediction setup s batch).2.aborted ≠ none
    rcases observe_cases setup s batch with ⟨-, -, hsame⟩ | ⟨-, -, ⟨-, hsame⟩ | ⟨w, -, hw⟩⟩
    · rw [hsame]
      exact h
    · rw [hsame]
      exact hentered
    · exact absurd hw.noAbort hentered

theorem abort_persists (earlier later : List (Call App Vocab))
    (h : (sessionAfter setup (earlier ++ later)).aborted = none) :
    (sessionAfter setup earlier).aborted = none := by
  by_contra habort
  unfold sessionAfter at h
  rw [after_append] at h
  exact after_invariant step_keeps_abort habort later h

omit [LinearOrder App] in
theorem lowRun_tick (app : App) (calls : List (Call App Vocab)) (nowNs : ℤ) (final : Bool)
    [LinearOrder App] :
    lowRun setup app (calls ++ [.tick nowNs final]) = lowRun setup app calls := by
  simp [lowRun, Call.batch?]

theorem lowRun_observe (app : App) (calls : List (Call App Vocab)) (batch : Batch App Vocab) :
    lowRun setup app (calls ++ [.observe batch]) =
      if batch.active then
        if probabilityOf setup batch app < setup.cfg.probabilityThreshold then
          lowRun setup app calls + 1
        else 0
      else lowRun setup app calls := by
  unfold lowRun
  rw [filterMap_append]
  cases hactive : batch.active with
  | false => simp [Call.batch?, hactive]
  | true =>
    by_cases hlow : probabilityOf setup batch app < setup.cfg.probabilityThreshold
    · simp [Call.batch?, hactive, hlow]
    · simp [Call.batch?, hactive, hlow]

theorem applied_low {s s' : Controller App} {batch : Batch App Vocab} {w : Attempt App}
    (hw : Applied setup s batch w s') : s'.low = s.low := by
  rw [hw.after]
  split_ifs <;> rfl

theorem step_low (s : Controller App) (batch : Batch App Vocab) (hmode : setup.cfg.mode ≠ .off) :
    (controllerStep setup s (.observe batch)).2.low =
      if batch.active then (countLow setup s batch).low else s.low := by
  change (observePrediction setup s batch).2.low = _
  rcases observe_cases setup s batch with ⟨hoff, -, hsame⟩ | ⟨-, hactive, ⟨-, hsame⟩ | ⟨w, -, hw⟩⟩
  · rw [hsame, hoff.resolve_left hmode]
    rfl
  · rw [hsame, hactive]
    rfl
  · rw [applied_low hw, hactive]
    rfl

theorem low_after (hmode : setup.cfg.mode ≠ .off) (calls : List (Call App Vocab)) (app : App) :
    (sessionAfter setup calls).low app = if app ∈ setup.ids then lowRun setup app calls else 0 := by
  induction calls using List.reverseRecOn with
  | nil => simp [sessionAfter, lowRun]
  | append_singleton calls call ih =>
    unfold sessionAfter at ih ⊢
    rw [after_concat]
    cases call with
    | tick nowNs final =>
      rw [lowRun_tick, ← ih]
      rfl
    | observe batch =>
      rw [step_low _ _ hmode, lowRun_observe]
      cases batch.active with
      | false => exact ih
      | true =>
        change (countLow setup _ batch).low app = _
        unfold countLow
        dsimp only
        rw [ih]
        by_cases hid : app ∈ setup.ids
        · simp [hid]
        · simp [hid]

theorem attempt_gated (calls : List (Call App Vocab)) (batch : Batch App Vocab) (w : Attempt App)
    (hmarks : ∀ entry ∈ batch.ballast, ∀ path ∈ entry.2.expectedCgroup, MarksSlice setup path)
    (hattempt : (controllerStep setup (sessionAfter setup calls) (.observe batch)).1.attempt =
      some w) :
    Gated setup calls batch w := by
  have hstep : sessionAfter setup (calls ++ [.observe batch]) =
      (observePrediction setup (sessionAfter setup calls) batch).2 := after_concat ..
  change (observePrediction setup (sessionAfter setup calls) batch).1.attempt = some w at hattempt
  rcases observe_cases setup (sessionAfter setup calls) batch with
    ⟨-, hnone, -⟩ | ⟨hmode, hactive, ⟨hnone, -⟩ | ⟨v, hv, hw⟩⟩
  · rw [hnone] at hattempt
    cases hattempt
  · rw [hnone] at hattempt
    cases hattempt
  · obtain rfl : v = w := Option.some.inj (hv.symm.trans hattempt)
    have hlow := low_after hmode (calls ++ [.observe batch]) v.app
    have hkept : (sessionAfter setup (calls ++ [.observe batch])).low =
        (entered setup (sessionAfter setup calls) batch).low := by
      rw [hstep]
      exact applied_low hw
    have hquiet := hw.eligible.quiet
    have hrequest := hw.request
    unfold requestOf at hrequest
    constructor
    case noAbort =>
      intro earlier later hsplit
      apply abort_persists earlier later
      rw [← hsplit, hstep]
      exact hw.noAbortAfter
    case below =>
      exact hmarks _ hw.eligible.sampled _ hw.eligible.expected hw.eligible.safe.1
        hw.eligible.safe.2.1
    case quiet =>
      rw [hw.time]
      unfold quietMs at hquiet
      omega
    case lowBatches =>
      have hle := hw.eligible.low
      rw [← hkept, hlow] at hle
      split_ifs at hle
      · exact hle
      · exact hle.trans (Nat.zero_le _)
    case leStep => omega
    case leDeficit => omega
    all_goals first
      | exact hw.eligible.sampled
      | exact hw.eligible.notCurrent
      | exact hw.eligible.bound
      | exact hw.eligible.allocated
      | exact hw.eligible.expected
      | exact hw.eligible.actual
      | exact hw.eligible.idle

end

def AllWritten (calls : List (Call App Vocab)) : Prop :=
  ∀ batch, .observe batch ∈ calls → batch.write = .written

def SlicesMarked (setup : Setup App Vocab) (calls : List (Call App Vocab)) : Prop :=
  ∀ batch, .observe batch ∈ calls → ∀ entry ∈ batch.ballast, ∀ path ∈ entry.2.expectedCgroup,
    MarksSlice setup path

theorem attempt_success {setup : Setup App Vocab} {s : Controller App} {call : Call App Vocab}
    {w : Attempt App} (hfull : ∀ batch, call = .observe batch → batch.write = .written)
    (hattempt : (controllerStep setup s call).1.attempt = some w) : w.success = true := by
  cases call with
  | tick nowNs final => cases hattempt
  | observe batch =>
    change (observePrediction setup s batch).1.attempt = some w at hattempt
    rcases observe_cases setup s batch with ⟨-, hnone, -⟩ | ⟨-, -, ⟨hnone, -⟩ | ⟨v, hv, hw⟩⟩
    · rw [hnone] at hattempt
      cases hattempt
    · rw [hnone] at hattempt
      cases hattempt
    · obtain rfl : v = w := Option.some.inj (hv.symm.trans hattempt)
      rw [hw.success, hfull batch rfl]
      rfl

theorem successes_attempts (setup : Setup App Vocab) (calls : List (Call App Vocab))
    (hfull : AllWritten calls) : successes (attempts setup calls) = attempts setup calls := by
  induction calls using List.reverseRecOn with
  | nil => rfl
  | append_singleton calls call ih =>
    have hold := ih fun batch hmem => hfull batch (mem_append_left _ hmem)
    rw [attempts_concat]
    cases hattempt : (controllerStep setup (sessionAfter setup calls) call).1.attempt with
    | none =>
      rw [Option.toList_none, append_nil]
      exact hold
    | some w =>
      have hsuccess : w.success = true := by
        apply attempt_success _ hattempt
        rintro batch rfl
        exact hfull batch (by simp)
      rw [Option.toList_some, successes_concat, hold, hsuccess]
      rfl

/-- A session in which every write comes back in full stays within its budget. -/
theorem session_within_budget (setup : Setup App Vocab) (calls : List (Call App Vocab))
    (hnow : ∀ call ∈ calls, 0 < call.nowNs) (hfull : AllWritten calls)
    (hmarks : SlicesMarked setup calls) : WithinBudget setup calls := by
  have hledger := ledger_after setup calls hnow
  have hall := successes_attempts setup calls hfull
  refine ⟨hall ▸ hledger.countLe, hall ▸ hledger.bytesLe, hall ▸ hledger.spaced, ?_⟩
  rintro earlier batch later w rfl hattempt
  exact attempt_gated earlier batch w (hmarks batch (by simp)) hattempt

def ballastPath : PurePath :=
  { parts := ["sys", "fs", "cgroup", "test4b-experiment.slice", "app-2.scope"] }

def idleBallast (nowNs : ℤ) (write : WriteOutcome) : Batch ℕ ℕ where
  currentApp := 1
  allProbabilities := [{ appKey := some 2, probability := some 0.01 }]
  ballast := [(2, {
    state := .backgroundIdle
    allocated := true
    backgroundSinceNs := nowNs - 5000000000
    expectedCgroup := some ballastPath
    actualCgroup := some ballastPath
    coldBytes := 80 * MIB })]
  bindReady := [2]
  nowNs := nowNs
  system := { available := 1024 * 1024 * 1024, psiFullAvg10 := 0.0, rootOom := 0 }
  write := write

def oneShotSetup : Setup ℕ ℕ where
  cfg := { mode := .applyBounded, preflightReady := true }
  ids := [1, 2]

def writtenSession : List (Call ℕ ℕ) :=
  [.observe (idleBallast 10000000000 .written), .observe (idleBallast 20000000000 .written),
    .observe (idleBallast 40000000000 .written)]

theorem writtenSession_within_budget :
    (attempts oneShotSetup writtenSession).map (fun w => (w.app, w.requestedBytes,
        w.timestampNs)) = [(2, 16777216, 20000000000)] ∧
      WithinBudget oneShotSetup writtenSession := by
  refine ⟨by decide +kernel, session_within_budget oneShotSetup writtenSession (by decide) ?_ ?_⟩
  · intro batch hmem
    simp only [writtenSession, mem_cons, Call.observe.injEq, not_mem_nil, or_false] at hmem
    rcases hmem with rfl | rfl | rfl <;> rfl
  · intro batch hmem entry hentry path hpath
    have hpath : path = ballastPath := by
      simp only [writtenSession, mem_cons, Call.observe.injEq, not_mem_nil,
        or_false] at hmem
      rcases hmem with rfl | rfl | rfl <;>
        simp_all [idleBallast]
    rw [hpath]
    intro _ _
    exact ⟨by decide, by decide, ["sys", "fs", "cgroup"], ["app-2.scope"], rfl, by decide⟩

def failingSession : List (Call ℕ ℕ) :=
  [.observe (idleBallast 10000000000 .written), .observe (idleBallast 20000000000 .raised),
    .observe (idleBallast 20000000001 .short), .observe (idleBallast 20000000002 .raised)]

theorem failingSession_exceeds_budget :
    (∀ call ∈ failingSession, 0 < call.nowNs) ∧
      (failingSession.map Call.nowNs).Pairwise (· ≤ ·) ∧
      (attempts oneShotSetup failingSession).map (fun w => (w.app, w.requestedBytes,
        w.timestampNs)) = [(2, 16777216, 20000000000), (2, 16777216, 20000000001),
          (2, 16777216, 20000000002)] ∧
      ¬ WithinBudget oneShotSetup failingSession := by
  refine ⟨by decide, by decide, by decide +kernel, ?_⟩
  intro h
  have hcount : (attempts oneShotSetup failingSession).length = 3 := by decide +kernel
  have hmost := h.count
  rw [hcount] at hmost
  exact absurd hmost (by decide)

end Parp.Test4BReclaim
