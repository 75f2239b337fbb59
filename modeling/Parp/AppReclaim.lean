import Parp.Binary64
import Mathlib.Data.List.Infix

set_option autoImplicit false

/-!
# The application reclaim controller

`AppReclaimController` of `runtime_monitor/core/app_reclaim_controller.py`. Applications, trigger
events and vocabulary names are strings in the source and only compared here. What a call reads
from the system (the clock, the memory state, directory tests, cgroup counters, the outcome of the
write) comes with the call. The CSV rows are left out, except what the decision row says.
-/
namespace Parp.AppReclaim

open Binary64

inductive Mode
  | off | shadow | applyBounded
  deriving DecidableEq

structure ReclaimConfig where
  mode : Mode := .shadow
  probabilityThreshold : Float := 0.05
  requiredLowProbabilityBatches : ℕ := 2
  activityThreshold : Float := 0.10
  requiredLowActivityWindows : ℕ := 3
  stepBytes : ℤ := 16 * 1024 * 1024
  perAppCooldownMs : ℤ := 10000
  globalCooldownMs : ℤ := 3000
  maxActionsPerEpisode : ℕ := 1
  targetHeadroomBytes : ℤ := 2500 * 1024 * 1024
  minimumHeadroomDeficitBytes : ℤ := 16 * 1024 * 1024
  maxRatio : Float := 0.10
  minimumResidentBytes : ℤ := 64 * 1024 * 1024
  maxActionsPerMinute : ℕ := 3
  maxPerAppSession : ℕ := 64 * 1024 * 1024
  maxGlobalSession : ℕ := 128 * 1024 * 1024
  hardMinAvailableBytes : ℤ := 512 * 1024 * 1024
  psiFullAbortAvg10 : Float := 0.20
  maxNoProgressActions : ℕ := 2
  preflightReady : Bool := false

/-- A `pathlib` path: its root and its parts. -/
structure PurePath where
  root : String := "/"
  parts : List String
  deriving DecidableEq

/-- `str(path)`. -/
def PurePath.str (path : PurePath) : String :=
  if path.root = "" ∧ path.parts = [] then "."
  else path.root ++ String.intercalate "/" path.parts

def PurePath.child (path : PurePath) (name : String) : PurePath :=
  { path with parts := path.parts ++ [name] }

/-- `path.relative_to(base)` does not raise. -/
def PurePath.IsRelativeTo (path base : PurePath) : Prop :=
  path.root = base.root ∧ base.parts <+: path.parts

instance (path base : PurePath) : Decidable (path.IsRelativeTo base) :=
  inferInstanceAs (Decidable (_ ∧ _))

/-- `marker in str(path)`. -/
def PurePath.Carries (path : PurePath) (marker : String) : Prop :=
  marker.toList <:+: path.str.toList

instance (path : PurePath) (marker : String) : Decidable (path.Carries marker) :=
  inferInstanceAs (Decidable (_ <:+: _))

inductive ForegroundState
  | foreground | background
  deriving DecidableEq

inductive RunningState
  | foreground | runningBackground | notRunning
  deriving DecidableEq

inductive SampleStatus
  | ok | partly | unavailable
  deriving DecidableEq

/-- `AppActivity`, the fields a decision reads; `memcgPath` is `none` for an empty path. -/
structure AppActivity where
  memcgPath : Option PurePath
  foregroundState : ForegroundState := .background
  runningState : RunningState := .runningBackground
  memcgCurrentBytes : ℤ
  ema : Option Float
  lowWindows : ℕ
  status : SampleStatus := .ok

/-- One row of `all_probabilities`: its names, `none` where empty, and what `float()` makes of its
probability, `none` where that raises. -/
structure ProbabilityRow (App Vocab : Type) where
  appKey : Option App
  app : Option Vocab := none
  probability : Option Float

/-- What `system_state()` returns: `rootOom` adds up the root's `oom` and `oom_kill` counters and
`psiFullAvg10` is what `_parse_psi_avg10` reads from the `full` line. -/
structure SystemState where
  available : ℤ
  psiFullAvg10 : Float
  rootOom : ℤ

inductive WriteOutcome
  | written | short | raised
  deriving DecidableEq

inductive AbortReason
  | consecutiveReclaimNoProgress | oomEventIncreased | memAvailableBelowHardFloor
  | memoryPsiFullAbortThreshold
  deriving DecidableEq

inductive Rejection
  | foregroundProtected | activitySampleUnavailable | notRunningBackground | appBindInvalid
  | cgroupUnavailable | memoryReclaimUnavailable | lowProbabilityNotStable | activityNotLowStable
  | minimumResidentProtected | noMemoryNeed | sessionBudgetExhausted
  deriving DecidableEq

/-- `_PendingAttempt`, the fields the later observation reads. -/
structure PendingAttempt where
  due1sNs : ℤ
  success : Bool
  memoryBefore : ℤ
  deriving DecidableEq

/-- A write to `memory.reclaim` that was attempted. -/
structure Attempt (App Event : Type) where
  triggerEventId : Event
  app : App
  activity : AppActivity
  requestedBytes : ℤ
  timestampNs : ℤ
  success : Bool

structure Setup (App Vocab : Type) where
  cfg : ReclaimConfig := {}
  ids : List App
  vocabToApp : Vocab → Option App := fun _ => none
  marker : String := "huawei-test.slice"

/-- The mutable fields of the controller; a dictionary read with a default is a total function. -/
structure Controller (App Event : Type) where
  lowProbabilityBatches : App → ℕ := fun _ => 0
  lastForegroundNs : App → ℤ := fun _ => 0
  lastAppReclaimNs : App → Option ℤ := fun _ => none
  lastGlobalReclaimNs : ℤ := 0
  actionTimesNs : List ℤ := []
  appBytes : App → ℤ := fun _ => 0
  globalBytes : ℤ := 0
  actionsPerEpisode : Event → ℕ := fun _ => 0
  noProgressActions : ℕ := 0
  abortedReason : Option AbortReason := none
  pending : List PendingAttempt := []
  rootOomBaseline : Option ℤ := none

/-- A call of `observe_prediction` with what it reads from the system. -/
structure Batch (App Event Vocab : Type) where
  triggerEventId : Event
  currentApp : App
  allProbabilities : List (ProbabilityRow App Vocab)
  activities : List (App × AppActivity)
  bindReady : List App
  nowNs : ℤ
  after1s : ℕ → ℤ := fun _ => 0
  system : SystemState
  isDir : PurePath → Bool := fun _ => true
  isFile : PurePath → Bool := fun _ => true
  isFileAtApply : PurePath → Bool := fun _ => true
  memoryBefore : ℤ := 0
  write : WriteOutcome := .written

structure Candidate (App : Type) where
  probability : Float
  ema : Float
  app : App
  activity : AppActivity
  ageSinceForeground : ℤ
  request : ℤ

inductive Evaluation (App : Type)
  | rejected (reason : Rejection)
  | raised
  | candidate (c : Candidate App)

inductive Decision (App : Type)
  | off
  | aborted (reason : AbortReason)
  | noCandidate (reasons : List Rejection)
  | raised
  | cooldownOrRateLimit (app : App)
  | episodeActionLimit (app : App)
  | wouldReclaim (app : App) (request : ℤ)
  | applyPreflightNotReady (app : App)
  | reclaim (app : App) (request : ℤ)

structure Outcome (App Event : Type) where
  decision : Option (Decision App) := none
  attempt : Option (Attempt App Event) := none

section

variable {App Event : Type}

def observeAfter (cfg : ReclaimConfig) (s : Controller App Event) (p : PendingAttempt)
    (after1s : ℤ) : Controller App Event :=
  if p.success = true then
    let actions := if p.memoryBefore - after1s > 0 then 0 else s.noProgressActions + 1
    { s with
      noProgressActions := actions
      abortedReason :=
        if actions ≥ cfg.maxNoProgressActions then some .consecutiveReclaimNoProgress
        else s.abortedReason }
  else s

/-- The loop over `self.pending`; the readings come in the order of the observations. -/
def tickLoop (cfg : ReclaimConfig) (nowNs : ℤ) (final : Bool) :
    List PendingAttempt → (ℕ → ℤ) → Controller App Event →
      List PendingAttempt × Controller App Event
  | [], _, s => ([], s)
  | p :: rest, after1s, s =>
    if nowNs < p.due1sNs ∧ final = false then
      let (remaining, s) := tickLoop cfg nowNs final rest after1s s
      (p :: remaining, s)
    else
      tickLoop cfg nowNs final rest (fun i => after1s (i + 1)) (observeAfter cfg s p (after1s 0))

def tick (cfg : ReclaimConfig) (s : Controller App Event) (nowNs : ℤ) (final : Bool)
    (after1s : ℕ → ℤ) : Controller App Event :=
  let (remaining, s) := tickLoop cfg nowNs final s.pending after1s s
  { s with pending := remaining }

end

section

variable {App Event Vocab : Type} [LinearOrder App] [DecidableEq Event]

def probabilities (setup : Setup App Vocab) (rows : List (ProbabilityRow App Vocab)) :
    App → Option Float :=
  rows.foldl (fun table row =>
    match row.appKey <|> row.app.bind setup.vocabToApp, row.probability with
    | some app, some probability =>
      if 0.0 ≤ probability ∧ probability ≤ 1.0 then
        Function.update table app (some probability)
      else table
    | _, _ => table) (fun _ => none)

/-- `probabilities.get(app, 1.0)`. -/
def probabilityOf (setup : Setup App Vocab) (batch : Batch App Event Vocab) (app : App) : Float :=
  (probabilities setup batch.allProbabilities app).getD 1.0

def deficitOf (cfg : ReclaimConfig) (system : SystemState) : ℤ :=
  max 0 (cfg.targetHeadroomBytes - system.available)

def startBatch (setup : Setup App Vocab) (s : Controller App Event)
    (batch : Batch App Event Vocab) : Controller App Event :=
  let s := tick setup.cfg s batch.nowNs false batch.after1s
  { s with
    lastForegroundNs := Function.update s.lastForegroundNs batch.currentApp batch.nowNs
    lowProbabilityBatches := fun app =>
      if app ∈ setup.ids then
        if probabilityOf setup batch app < setup.cfg.probabilityThreshold then
          s.lowProbabilityBatches app + 1
        else 0
      else s.lowProbabilityBatches app }

def observeSafety (cfg : ReclaimConfig) (s : Controller App Event) (system : SystemState) :
    Controller App Event :=
  let reason := match s.rootOomBaseline with
    | none => s.abortedReason
    | some baseline =>
      if system.rootOom > baseline then some AbortReason.oomEventIncreased else s.abortedReason
  let reason :=
    if system.available < cfg.hardMinAvailableBytes then some .memAvailableBelowHardFloor
    else reason
  let reason :=
    if system.psiFullAvg10 ≥ cfg.psiFullAbortAvg10 then some .memoryPsiFullAbortThreshold
    else reason
  { s with
    rootOomBaseline := some (s.rootOomBaseline.getD system.rootOom)
    abortedReason := reason }

def entered (setup : Setup App Vocab) (s : Controller App Event) (batch : Batch App Event Vocab) :
    Controller App Event :=
  observeSafety setup.cfg (startBatch setup s batch) batch.system

def reclaimFile (path : PurePath) : PurePath := path.child "memory.reclaim"

def candidateRejection (setup : Setup App Vocab) (s : Controller App Event)
    (batch : Batch App Event Vocab) (app : App) (activity : AppActivity) (probability : Float)
    (deficit : ℤ) : Option Rejection :=
  if app = batch.currentApp ∨ activity.foregroundState = .foreground then
    some .foregroundProtected
  else if activity.status ≠ .ok then some .activitySampleUnavailable
  else if activity.runningState ≠ .runningBackground then some .notRunningBackground
  else if app ∉ batch.bindReady then some .appBindInvalid
  else if ¬ ∃ path ∈ activity.memcgPath,
      batch.isDir path = true ∧ path.Carries setup.marker then some .cgroupUnavailable
  else if ¬ ∃ path ∈ activity.memcgPath, batch.isFile (reclaimFile path) = true then
    some .memoryReclaimUnavailable
  else if probability ≥ setup.cfg.probabilityThreshold then some .lowProbabilityNotStable
  else if s.lowProbabilityBatches app < setup.cfg.requiredLowProbabilityBatches then
    some .lowProbabilityNotStable
  else if ¬ ∃ ema ∈ activity.ema, ¬ ema ≥ setup.cfg.activityThreshold then
    some .activityNotLowStable
  else if activity.lowWindows < setup.cfg.requiredLowActivityWindows then
    some .activityNotLowStable
  else if activity.memcgCurrentBytes ≤ setup.cfg.minimumResidentBytes then
    some .minimumResidentProtected
  else if deficit < setup.cfg.minimumHeadroomDeficitBytes then some .noMemoryNeed
  else none

/-- `int(activity.memcg_current_bytes * self.cfg.max_ratio)`. -/
def ratioBytes (cfg : ReclaimConfig) (memcgCurrentBytes : ℤ) : Option ℤ :=
  truncated (Float.ofInt memcgCurrentBytes * cfg.maxRatio)

/-- The caps of one candidate; `ratio` is its share of the current usage. -/
def capOf (cfg : ReclaimConfig) (s : Controller App Event) (app : App) (activity : AppActivity)
    (ratio : ℤ) : ℤ :=
  min (min ratio (activity.memcgCurrentBytes - cfg.minimumResidentBytes))
    (min (cfg.maxPerAppSession - s.appBytes app) (cfg.maxGlobalSession - s.globalBytes))

/-- One pass of the loop over `activities`. -/
def evaluate (setup : Setup App Vocab) (s : Controller App Event) (batch : Batch App Event Vocab)
    (deficit : ℤ) (sample : App × AppActivity) : Evaluation App :=
  let (app, activity) := sample
  let probability := probabilityOf setup batch app
  match candidateRejection setup s batch app activity probability deficit with
  | some reason => .rejected reason
  | none =>
    match ratioBytes setup.cfg activity.memcgCurrentBytes with
    | none => .raised
    | some ratio =>
      let cap := capOf setup.cfg s app activity ratio
      if cap ≤ 0 then .rejected .sessionBudgetExhausted
      else .candidate {
        probability := probability
        ema := activity.ema.getD 1.0
        app := app
        activity := activity
        ageSinceForeground := batch.nowNs - s.lastForegroundNs app
        request := min (min setup.cfg.stepBytes deficit) cap }

def Candidate.before (a b : Candidate App) : Bool :=
  if a.probability != b.probability then decide (a.probability < b.probability)
  else if a.ema != b.ema then decide (a.ema < b.ema)
  else if a.activity.memcgCurrentBytes ≠ b.activity.memcgCurrentBytes then
    decide (b.activity.memcgCurrentBytes < a.activity.memcgCurrentBytes)
  else if a.ageSinceForeground ≠ b.ageSinceForeground then
    decide (b.ageSinceForeground < a.ageSinceForeground)
  else decide (a.app < b.app)

/-- `sorted(candidates)[0]`. -/
def firstSorted : List (Candidate App) → Option (Candidate App)
  | [] => none
  | first :: rest => some (rest.foldl (fun best c => if c.before best then c else best) first)

/-- The pruning at the head of `_in_cooldown_or_rate_limit`. -/
def pruned (s : Controller App Event) (nowNs : ℤ) : Controller App Event :=
  { s with actionTimesNs := s.actionTimesNs.filter fun item => nowNs - item < 60000000000 }

def InCooldownOrRateLimit (cfg : ReclaimConfig) (s : Controller App Event) (app : App)
    (nowNs : ℤ) : Prop :=
  (s.lastGlobalReclaimNs ≠ 0 ∧
      nowNs - s.lastGlobalReclaimNs < cfg.globalCooldownMs * 1000000) ∨
    (∃ last ∈ s.lastAppReclaimNs app, nowNs - last < cfg.perAppCooldownMs * 1000000) ∨
    s.actionTimesNs.length ≥ cfg.maxActionsPerMinute

instance (cfg : ReclaimConfig) (s : Controller App Event) (app : App) (nowNs : ℤ) :
    Decidable (InCooldownOrRateLimit cfg s app nowNs) :=
  inferInstanceAs (Decidable (_ ∨ _ ∨ _))

def cgroupRoot : PurePath := { parts := ["sys", "fs", "cgroup"] }

def protectedPaths : List PurePath :=
  [cgroupRoot, cgroupRoot.child "system.slice", cgroupRoot.child "user.slice"]

def SafeTarget (setup : Setup App Vocab) (batch : Batch App Event Vocab) (path : PurePath)
    (activity : AppActivity) : Prop :=
  path.IsRelativeTo cgroupRoot ∧ path ∉ protectedPaths ∧ path.Carries setup.marker ∧
    activity.foregroundState ≠ .foreground ∧ batch.isFileAtApply (reclaimFile path) = true

instance (setup : Setup App Vocab) (batch : Batch App Event Vocab) (path : PurePath)
    (activity : AppActivity) : Decidable (SafeTarget setup batch path activity) :=
  inferInstanceAs (Decidable (_ ∧ _ ∧ _ ∧ _ ∧ _))

def charged (s : Controller App Event) (app : App) (request nowNs : ℤ) : Controller App Event :=
  { s with
    lastAppReclaimNs := Function.update s.lastAppReclaimNs app (some nowNs)
    lastGlobalReclaimNs := nowNs
    actionTimesNs := s.actionTimesNs ++ [nowNs]
    appBytes := Function.update s.appBytes app (s.appBytes app + request)
    globalBytes := s.globalBytes + request }

/-- `_apply`. -/
def applyReclaim (setup : Setup App Vocab) (s : Controller App Event)
    (batch : Batch App Event Vocab) (c : Candidate App) :
    Option (Attempt App Event) × Controller App Event :=
  let safe := decide (∃ path ∈ c.activity.memcgPath, SafeTarget setup batch path c.activity)
  let success := safe && decide (batch.write = .written)
  let s := { s with
    pending := s.pending ++ [⟨batch.nowNs + 1000000000, success, batch.memoryBefore⟩] }
  (if safe then
      some ⟨batch.triggerEventId, c.app, c.activity, c.request, batch.nowNs, success⟩
    else none,
    if success then charged s c.app c.request batch.nowNs else s)

def episodeCharged (s : Controller App Event) (event : Event) : Controller App Event :=
  { s with
    actionsPerEpisode :=
      Function.update s.actionsPerEpisode event (s.actionsPerEpisode event + 1) }

def decideCandidate (setup : Setup App Vocab) (s : Controller App Event)
    (batch : Batch App Event Vocab) (c : Candidate App) :
    Outcome App Event × Controller App Event :=
  let s := pruned s batch.nowNs
  if probabilities setup batch.allProbabilities c.app = none then
    ({ decision := some .raised }, s)
  else if InCooldownOrRateLimit setup.cfg s c.app batch.nowNs then
    ({ decision := some (.cooldownOrRateLimit c.app) }, s)
  else if s.actionsPerEpisode batch.triggerEventId ≥ setup.cfg.maxActionsPerEpisode then
    ({ decision := some (.episodeActionLimit c.app) }, s)
  else if setup.cfg.mode = .shadow then
    ({ decision := some (.wouldReclaim c.app c.request) }, s)
  else if setup.cfg.mode = .applyBounded ∧ setup.cfg.preflightReady = true then
    let (attempt, s) := applyReclaim setup (episodeCharged s batch.triggerEventId) batch c
    ({ decision := some (.reclaim c.app c.request), attempt := attempt }, s)
  else ({ decision := some (.applyPreflightNotReady c.app) }, s)

def Evaluation.candidate? : Evaluation App → Option (Candidate App)
  | .candidate c => some c
  | _ => none

def Evaluation.reason? : Evaluation App → Option Rejection
  | .rejected reason => some reason
  | _ => none

def Evaluation.isRaised : Evaluation App → Bool
  | .raised => true
  | _ => false

def evaluations (setup : Setup App Vocab) (s : Controller App Event)
    (batch : Batch App Event Vocab) : List (Evaluation App) :=
  batch.activities.map (evaluate setup s batch (deficitOf setup.cfg batch.system))

def observePrediction (setup : Setup App Vocab) (s : Controller App Event)
    (batch : Batch App Event Vocab) : Outcome App Event × Controller App Event :=
  if setup.cfg.mode = .off then ({ decision := some .off }, s)
  else
    let s := entered setup s batch
    let found := evaluations setup s batch
    match s.abortedReason with
    | some reason => ({ decision := some (.aborted reason) }, s)
    | none =>
      if found.any Evaluation.isRaised then ({ decision := some .raised }, s)
      else
        match firstSorted (found.filterMap Evaluation.candidate?) with
        | none => ({ decision := some (.noCandidate (found.filterMap Evaluation.reason?)) }, s)
        | some c => decideCandidate setup s batch c

inductive Call (App Event Vocab : Type)
  | observe (batch : Batch App Event Vocab)
  | tick (nowNs : ℤ) (final : Bool) (after1s : ℕ → ℤ)

def Call.nowNs : Call App Event Vocab → ℤ
  | .observe batch => batch.nowNs
  | .tick nowNs _ _ => nowNs

def controllerStep (setup : Setup App Vocab) (s : Controller App Event) :
    Call App Event Vocab → Outcome App Event × Controller App Event
  | .observe batch => observePrediction setup s batch
  | .tick nowNs final after1s => ({}, AppReclaim.tick setup.cfg s nowNs final after1s)

end

end Parp.AppReclaim
