import Parp.AppReclaim
import Parp.TransitionRuns

set_option autoImplicit false

/-!
# The one-shot reclaim controller

`Test4BReclaimController`: candidates by the state of their synthetic cold regions. As for the
application controller, what a call reads from the system comes with the call, and the CSV rows are
left out but for what the decision row says.
-/
namespace Parp.Test4BReclaim

open AppReclaim

def MIB : ℤ := 1024 * 1024

structure Test4BReclaimConfig where
  mode : Mode := .shadow
  probabilityThreshold : Float := 0.10
  requiredLowProbabilityBatches : ℕ := 2
  /-- `int(cold_quiet_s * 1000)`. -/
  coldQuietMs : ℤ := 3000
  stepBytes : ℤ := 16 * MIB
  targetHeadroomBytes : ℤ := 2500 * MIB
  minimumHeadroomDeficitBytes : ℤ := 16 * MIB
  perAppCooldownMs : ℤ := 10000
  globalCooldownMs : ℤ := 3000
  maxReclaimsPerSession : ℕ := 1
  maxReclaimBytesPerSession : ℕ := 16 * 1024 * 1024
  hardMinAvailableBytes : ℤ := 512 * MIB
  psiFullAbortAvg10 : Float := 0.20
  preflightReady : Bool := false

inductive BallastState
  | unavailable | partly | created | foregroundAllocating | foregroundActive | backgroundIdle
  | reaccessing | verifying | stopped | error
  deriving DecidableEq

/-- `BallastStatus`, the fields a decision reads; a path is `none` where it is empty. -/
structure BallastStatus where
  state : BallastState := .unavailable
  allocated : Bool := false
  backgroundSinceNs : ℤ := 0
  expectedCgroup : Option PurePath := none
  actualCgroup : Option PurePath := none
  coldBytes : ℤ := 0

def BallastStatus.quietNs (status : BallastStatus) (nowNs : ℤ) : ℤ :=
  if status.backgroundSinceNs = 0 then 0 else max 0 (nowNs - status.backgroundSinceNs)

def quietMs (status : BallastStatus) (nowNs : ℤ) : ℤ := status.quietNs nowNs / 1000000

inductive AbortReason
  | oomEventIncreased | memAvailableBelowHardFloor | memoryPsiFullAbortThreshold
  deriving DecidableEq

inductive BaseReason
  | foregroundProtected | appBindInvalid | ballastWrongCgroup | cgroupUnavailable
  | ballastNotAllocated | ballastNotBackgroundIdle | coldQuietTimeNotReached
  | lowProbabilityNotStable
  deriving DecidableEq

inductive IfNeededReason
  | aborted (reason : AbortReason)
  | sessionBudgetExhausted | globalCooldown | appCooldown
  deriving DecidableEq

structure Setup (App Vocab : Type) where
  cfg : Test4BReclaimConfig := {}
  ids : List App
  appNameToKey : Vocab → Option App := fun _ => none
  /-- The alphanumeric characters of a name in upper case. -/
  canonical : Vocab → Option App := fun _ => none
  marker : String := "test4b-experiment.slice"

/-- A write to `memory.reclaim` that was attempted. -/
structure Attempt (App : Type) where
  app : App
  status : BallastStatus
  path : PurePath
  requestedBytes : ℤ
  timestampNs : ℤ
  success : Bool

structure Pending where
  due : List ℤ
  deriving DecidableEq

structure Controller (App : Type) where
  low : App → ℕ := fun _ => 0
  lastAppNs : App → Option ℤ := fun _ => none
  lastGlobalNs : ℤ := 0
  actions : ℕ := 0
  bytes : ℤ := 0
  pending : List Pending := []
  lastSuccessfulReclaimApp : Option App := none
  aborted : Option AbortReason := none
  rootOomBaseline : Option ℤ := none

/-- A call of `observe_prediction` with what it reads from the system. The write opens
`memory.reclaim` and may raise, or come back short, after some of the request was reclaimed. -/
structure Batch (App Vocab : Type) where
  currentApp : App
  allProbabilities : List (ProbabilityRow App Vocab)
  ballast : List (App × BallastStatus)
  bindReady : List App
  nowNs : ℤ
  /-- No activation file is configured, or it is there. -/
  active : Bool := true
  system : SystemState
  isFile : PurePath → Bool := fun _ => true
  isFileAtApply : PurePath → Bool := fun _ => true
  write : WriteOutcome := .written

inductive Decision (App : Type)
  | skip (reasons : List BaseReason)
  | reclaimCandidate (app : App) (reason : IfNeededReason)
  | wouldReclaimIfNeeded (app : App)
  | wouldReclaim (app : App) (request : ℤ)
  | applyPreflightNotReady (app : App) (request : ℤ)
  | reclaim (app : App) (request : ℤ)

structure Outcome (App : Type) where
  decision : Option (Decision App) := none
  attempt : Option (Attempt App) := none

section

variable {App Vocab : Type} [LinearOrder App]

theorem lawfulApps : LawfulBEq App := inferInstance

attribute [local instance] lawfulApps

def resolve (setup : Setup App Vocab) (row : ProbabilityRow App Vocab) : Option App :=
  row.appKey <|> row.app.bind setup.appNameToKey <|>
    (row.app.bind setup.canonical).filter fun app => app ∈ setup.ids

def probabilities (setup : Setup App Vocab) (rows : List (ProbabilityRow App Vocab)) :
    App → Option Float :=
  rows.foldl (fun table row =>
    match resolve setup row, row.probability with
    | some app, some probability =>
      if 0.0 ≤ probability ∧ probability ≤ 1.0 then
        Function.update table app (some probability)
      else table
    | _, _ => table) (fun _ => none)

/-- `probabilities.get(app, 1.0)`. -/
def probabilityOf (setup : Setup App Vocab) (batch : Batch App Vocab) (app : App) : Float :=
  (probabilities setup batch.allProbabilities app).getD 1.0

def deficitOf (cfg : Test4BReclaimConfig) (system : SystemState) : ℤ :=
  max 0 (cfg.targetHeadroomBytes - system.available)

/-- `tick`: the observations that are due are taken out. -/
def tick (s : Controller App) (nowNs : ℤ) (final : Bool) : Controller App :=
  { s with
    pending := (s.pending.map fun item : Pending =>
      { due := item.due.dropWhile fun due => final || due ≤ nowNs }).filter
        fun item => !item.due.isEmpty }

def countLow (setup : Setup App Vocab) (s : Controller App) (batch : Batch App Vocab) :
    Controller App :=
  { s with
    low := fun app =>
      if app ∈ setup.ids then
        if probabilityOf setup batch app < setup.cfg.probabilityThreshold then s.low app + 1 else 0
      else s.low app }

/-- `_safety`; a reason is never taken back. -/
def safety (cfg : Test4BReclaimConfig) (s : Controller App) (system : SystemState) :
    Controller App :=
  let reason := match s.rootOomBaseline with
    | none => s.aborted
    | some baseline =>
      if system.rootOom > baseline then some AbortReason.oomEventIncreased else s.aborted
  let reason :=
    if system.available < cfg.hardMinAvailableBytes then some .memAvailableBelowHardFloor
    else reason
  let reason :=
    if system.psiFullAvg10 ≥ cfg.psiFullAbortAvg10 then some .memoryPsiFullAbortThreshold
    else reason
  { s with
    rootOomBaseline := some (s.rootOomBaseline.getD system.rootOom)
    aborted := reason }

def entered (setup : Setup App Vocab) (s : Controller App) (batch : Batch App Vocab) :
    Controller App :=
  safety setup.cfg (countLow setup (tick s batch.nowNs false) batch) batch.system

def SafePath (setup : Setup App Vocab) (isFile : PurePath → Bool) (path : PurePath) : Prop :=
  path.IsRelativeTo cgroupRoot ∧ path.Carries setup.marker ∧ path ≠ cgroupRoot ∧
    isFile (reclaimFile path) = true

instance (setup : Setup App Vocab) (isFile : PurePath → Bool) (path : PurePath) :
    Decidable (SafePath setup isFile path) := inferInstanceAs (Decidable (_ ∧ _))

def baseReason (setup : Setup App Vocab) (s : Controller App) (batch : Batch App Vocab)
    (app : App) (status : BallastStatus) : Option BaseReason :=
  if app = batch.currentApp then some .foregroundProtected
  else if app ∉ batch.bindReady then some .appBindInvalid
  else if status.actualCgroup ≠ status.expectedCgroup then some .ballastWrongCgroup
  else if ¬ ∃ path ∈ status.expectedCgroup, SafePath setup batch.isFile path then
    some .cgroupUnavailable
  else if status.allocated = false then some .ballastNotAllocated
  else if status.state ≠ .backgroundIdle then some .ballastNotBackgroundIdle
  else if quietMs status batch.nowNs < setup.cfg.coldQuietMs then some .coldQuietTimeNotReached
  else if probabilityOf setup batch app ≥ setup.cfg.probabilityThreshold ∨
      s.low app < setup.cfg.requiredLowProbabilityBatches then some .lowProbabilityNotStable
  else none

def ifNeededReason (cfg : Test4BReclaimConfig) (s : Controller App) (nowNs : ℤ) (app : App) :
    Option IfNeededReason :=
  match s.aborted with
  | some reason => some (.aborted reason)
  | none =>
    if cfg.maxReclaimsPerSession ≤ s.actions ∨ cfg.maxReclaimBytesPerSession ≤ s.bytes then
      some .sessionBudgetExhausted
    else if s.lastGlobalNs ≠ 0 ∧ nowNs - s.lastGlobalNs < cfg.globalCooldownMs * 1000000 then
      some .globalCooldown
    else if ∃ last ∈ s.lastAppNs app, nowNs - last < cfg.perAppCooldownMs * 1000000 then
      some .appCooldown
    else none

def coldBytes (status : BallastStatus) : ℤ :=
  if status.allocated then (if status.coldBytes = 0 then 80 * MIB else status.coldBytes) else 0

structure Candidate (App : Type) where
  probability : Float
  quietMs : ℤ
  coldBytes : ℤ
  app : App
  status : BallastStatus
  path : PurePath

def Candidate.before (a b : Candidate App) : Bool :=
  if a.probability != b.probability then decide (a.probability < b.probability)
  else if a.quietMs ≠ b.quietMs then decide (b.quietMs < a.quietMs)
  else if a.coldBytes ≠ b.coldBytes then decide (b.coldBytes < a.coldBytes)
  else decide (a.app < b.app)

/-- `sorted(base_candidates)[0]`. -/
def firstSorted : List (Candidate App) → Option (Candidate App)
  | [] => none
  | first :: rest => some (rest.foldl (fun best c => if c.before best then c else best) first)

def evaluate (setup : Setup App Vocab) (s : Controller App) (batch : Batch App Vocab)
    (entry : App × BallastStatus) : BaseReason ⊕ Candidate App :=
  match baseReason setup s batch entry.1 entry.2, entry.2.expectedCgroup with
  | some reason, _ => .inl reason
  | none, none => .inl .cgroupUnavailable
  | none, some path =>
    .inr {
      probability := probabilityOf setup batch entry.1
      quietMs := quietMs entry.2 batch.nowNs
      coldBytes := coldBytes entry.2
      app := entry.1
      status := entry.2
      path := path }

def charged (s : Controller App) (app : App) (request nowNs : ℤ) : Controller App :=
  { s with
    actions := s.actions + 1
    bytes := s.bytes + request
    lastAppNs := Function.update s.lastAppNs app (some nowNs)
    lastGlobalNs := nowNs
    lastSuccessfulReclaimApp := some app
    pending := s.pending ++
      [{ due := [nowNs + 100000000, nowNs + 500000000, nowNs + 1000000000, nowNs + 3000000000] }] }

/-- `_apply`. -/
def applyReclaim (setup : Setup App Vocab) (s : Controller App) (batch : Batch App Vocab)
    (c : Candidate App) (request : ℤ) : Option (Attempt App) × Controller App :=
  if SafePath setup batch.isFileAtApply c.path then
    let success := decide (batch.write = .written)
    (some ⟨c.app, c.status, c.path, request, batch.nowNs, success⟩,
      if success then charged s c.app request batch.nowNs else s)
  else (none, s)

def requestOf (cfg : Test4BReclaimConfig) (s : Controller App) (deficit : ℤ) : ℤ :=
  min (min cfg.stepBytes (cfg.maxReclaimBytesPerSession - s.bytes)) deficit

def decideCandidate (setup : Setup App Vocab) (s : Controller App) (batch : Batch App Vocab)
    (c : Candidate App) : Outcome App × Controller App :=
  let deficit := deficitOf setup.cfg batch.system
  let request := requestOf setup.cfg s deficit
  match ifNeededReason setup.cfg s batch.nowNs c.app with
  | some reason => ({ decision := some (.reclaimCandidate c.app reason) }, s)
  | none =>
    if deficit < setup.cfg.minimumHeadroomDeficitBytes then
      ({ decision := some (.wouldReclaimIfNeeded c.app) }, s)
    else if request ≤ 0 then
      ({ decision := some (.reclaimCandidate c.app .sessionBudgetExhausted) }, s)
    else if setup.cfg.mode = .shadow then
      ({ decision := some (.wouldReclaim c.app request) }, s)
    else if setup.cfg.mode = .applyBounded ∧ setup.cfg.preflightReady = true then
      let (attempt, s) := applyReclaim setup s batch c request
      ({ decision := some (.reclaim c.app request), attempt := attempt }, s)
    else ({ decision := some (.applyPreflightNotReady c.app request) }, s)

def observePrediction (setup : Setup App Vocab) (s : Controller App) (batch : Batch App Vocab) :
    Outcome App × Controller App :=
  if setup.cfg.mode = .off ∨ batch.active = false then ({}, s)
  else
    let s := entered setup s batch
    let found := batch.ballast.map (evaluate setup s batch)
    match firstSorted (found.filterMap Sum.getRight?) with
    | none => ({ decision := some (.skip (found.filterMap Sum.getLeft?)) }, s)
    | some c => decideCandidate setup s batch c

inductive Call (App Vocab : Type)
  | observe (batch : Batch App Vocab)
  | tick (nowNs : ℤ) (final : Bool)

def controllerStep (setup : Setup App Vocab) (s : Controller App) :
    Call App Vocab → Outcome App × Controller App
  | .observe batch => observePrediction setup s batch
  | .tick nowNs final => ({}, tick s nowNs final)

end

/-!
# The budget of a one-shot session
-/

open TransitionRuns

variable {App Vocab : Type} [LinearOrder App]

section

variable {setup : Setup App Vocab} {s : Controller App} {batch : Batch App Vocab}
  {w : Attempt App}

structure Eligible (setup : Setup App Vocab) (s : Controller App) (batch : Batch App Vocab)
    (app : App) (status : BallastStatus) (path : PurePath) : Prop where
  sampled : (app, status) ∈ batch.ballast
  notCurrent : app ≠ batch.currentApp
  bound : app ∈ batch.bindReady
  actual : status.actualCgroup = some path
  expected : status.expectedCgroup = some path
  safe : SafePath setup batch.isFile path
  allocated : status.allocated = true
  idle : status.state = .backgroundIdle
  quiet : setup.cfg.coldQuietMs ≤ quietMs status batch.nowNs
  low : setup.cfg.requiredLowProbabilityBatches ≤ s.low app

variable {c : Candidate App}

theorem firstSorted_mem {candidates : List (Candidate App)} (h : firstSorted candidates = some c) :
    c ∈ candidates := by
  cases candidates with
  | nil => cases h
  | cons first rest =>
    obtain rfl := Option.some.inj h
    clear h
    induction rest using List.reverseRecOn with
    | nil => exact .head _
    | append_singleton rest last ih =>
      rw [List.foldl_concat]
      split_ifs
      · exact List.mem_cons_of_mem _ (List.mem_append_right _ (.head _))
      · rcases List.mem_cons.1 ih with heq | hmem
        · rw [heq]
          exact .head _
        · exact List.mem_cons_of_mem _ (List.mem_append_left _ hmem)

theorem evaluate_eligible
    (h : c ∈ (batch.ballast.map (evaluate setup s batch)).filterMap Sum.getRight?) :
    Eligible setup s batch c.app c.status c.path := by
  rw [List.filterMap_map, List.mem_filterMap] at h
  obtain ⟨entry, hentry, heq⟩ := h
  obtain ⟨app, status⟩ := entry
  unfold Function.comp evaluate at heq
  dsimp only at heq
  cases hreason : baseReason setup s batch app status with
  | some reason =>
    rw [hreason] at heq
    cases heq
  | none =>
    cases hexpected : status.expectedCgroup with
    | none =>
      rw [hreason, hexpected] at heq
      cases heq
    | some path =>
      rw [hreason, hexpected] at heq
      obtain rfl := Option.some.inj heq
      unfold baseReason at hreason
      split_ifs at hreason with hcurrent hbound hwrong hsafe hallocated hidle hquiet hlow
      obtain ⟨other, hother, hsafe⟩ := hsafe
      obtain rfl : path = other := Option.some.inj (hexpected.symm.trans hother)
      refine ⟨hentry, hcurrent, hbound, (not_not.1 hwrong).trans hexpected, hexpected,
        hsafe, by simpa using hallocated, not_not.1 hidle, not_lt.1 hquiet,
        not_lt.1 (not_or.1 hlow).2⟩

structure Applied (setup : Setup App Vocab) (s : Controller App) (batch : Batch App Vocab)
    (w : Attempt App) (s' : Controller App) : Prop where
  eligible : Eligible setup s batch w.app w.status w.path
  noAbort : s.aborted = none
  actions : s.actions < setup.cfg.maxReclaimsPerSession
  cooldown : s.lastGlobalNs = 0 ∨
    setup.cfg.globalCooldownMs * 1000000 ≤ batch.nowNs - s.lastGlobalNs
  request : w.requestedBytes = requestOf setup.cfg s (deficitOf setup.cfg batch.system)
  positive : 0 < w.requestedBytes
  time : w.timestampNs = batch.nowNs
  success : w.success = decide (batch.write = .written)
  after : s' = if w.success then charged s w.app w.requestedBytes batch.nowNs else s

omit [LinearOrder App] in
theorem ifNeededReason_none {app : App} (h : ifNeededReason setup.cfg s batch.nowNs app = none) :
    s.aborted = none ∧ s.actions < setup.cfg.maxReclaimsPerSession ∧ (s.lastGlobalNs = 0 ∨
      setup.cfg.globalCooldownMs * 1000000 ≤ batch.nowNs - s.lastGlobalNs) := by
  unfold ifNeededReason at h
  cases haborted : s.aborted with
  | some reason =>
    rw [haborted] at h
    cases h
  | none =>
    rw [haborted] at h
    dsimp only at h
    split_ifs at h with hbudget hglobal happ
    refine ⟨rfl, not_le.1 (not_or.1 hbudget).1, ?_⟩
    omega

theorem decideCandidate_applied (heligible : Eligible setup s batch c.app c.status c.path)
    (h : (decideCandidate setup s batch c).1.attempt = some w) :
    Applied setup s batch w (decideCandidate setup s batch c).2 := by
  unfold decideCandidate at h ⊢
  dsimp only at h ⊢
  cases hreason : ifNeededReason setup.cfg s batch.nowNs c.app with
  | some reason =>
    rw [hreason] at h
    cases h
  | none =>
    obtain ⟨haborted, hactions, hcooldown⟩ := ifNeededReason_none hreason
    rw [hreason] at h
    dsimp only at h ⊢
    split_ifs at h ⊢ with hneed hpositive hshadow hready
    unfold applyReclaim at h ⊢
    dsimp only at h ⊢
    by_cases hsafe : SafePath setup batch.isFileAtApply c.path
    · rw [if_pos hsafe] at h ⊢
      obtain rfl := Option.some.inj h
      exact ⟨heligible, haborted, hactions, hcooldown, rfl, not_le.1 hpositive, rfl, rfl, rfl⟩
    · rw [if_neg hsafe] at h
      cases h

theorem decideCandidate_none (h : (decideCandidate setup s batch c).1.attempt = none) :
    (decideCandidate setup s batch c).2 = s := by
  unfold decideCandidate at h ⊢
  dsimp only at h ⊢
  cases hreason : ifNeededReason setup.cfg s batch.nowNs c.app with
  | some reason => rfl
  | none =>
    rw [hreason] at h
    dsimp only at h ⊢
    split_ifs at h ⊢ with hneed hpositive hshadow hready
    · rfl
    · rfl
    · rfl
    · unfold applyReclaim at h ⊢
      dsimp only at h ⊢
      split_ifs at h ⊢ with hsafe
      rfl
    · rfl

theorem observe_cases (setup : Setup App Vocab) (s : Controller App) (batch : Batch App Vocab) :
    ((setup.cfg.mode = .off ∨ batch.active = false) ∧
        (observePrediction setup s batch).1.attempt = none ∧
        (observePrediction setup s batch).2 = s) ∨
      (setup.cfg.mode ≠ .off ∧ batch.active = true ∧
        ((observePrediction setup s batch).1.attempt = none ∧
            (observePrediction setup s batch).2 = entered setup s batch ∨
          ∃ w, (observePrediction setup s batch).1.attempt = some w ∧
            Applied setup (entered setup s batch) batch w (observePrediction setup s batch).2)) := by
  unfold observePrediction
  by_cases hoff : setup.cfg.mode = .off ∨ batch.active = false
  · rw [if_pos hoff]
    exact .inl ⟨hoff, rfl, rfl⟩
  · rw [if_neg hoff]
    obtain ⟨hmode, hactive⟩ := not_or.1 hoff
    refine .inr ⟨hmode, by simpa using hactive, ?_⟩
    dsimp only
    cases hbest : firstSorted ((batch.ballast.map (evaluate setup (entered setup s batch)
        batch)).filterMap Sum.getRight?) with
    | none => exact .inl ⟨rfl, rfl⟩
    | some c =>
      have heligible := evaluate_eligible (firstSorted_mem hbest)
      dsimp only
      cases hattempt : (decideCandidate setup (entered setup s batch) batch c).1.attempt with
      | none => exact .inl ⟨rfl, decideCandidate_none hattempt⟩
      | some w => exact .inr ⟨w, rfl, decideCandidate_applied heligible hattempt⟩

end

end Parp.Test4BReclaim
