import Parp.Binary64
import Parp.OrderedDict
import Mathlib.Data.Finset.Basic
import Mathlib.Data.String.Basic

set_option autoImplicit false

/-!
# The debugfs bridge

`PARPDebugfsBridge` of `runtime_monitor/core/parp_bridge.py`: a call of the monitor is taken in the
pieces between which the writer thread may move, the mark and the hand-over of a job apart. What
`_resolve_domain` finds and how a write goes are inputs. The counters and the audit rows other than
their fallback reason are left out.
-/
namespace Parp.DebugfsBridge

open OrderedDict Binary64

inductive BridgeMode
  | off | dryRun | shadowWrite
  deriving DecidableEq

structure App where
  appKey : String
  appId : ℤ
  vocabName : String
  predictionEnabled : Bool := true

structure Config where
  mode : BridgeMode
  shadowWriteReady : Bool
  apps : List App
  /-- The first digits of a SHA-256. -/
  digest : String → String
  modelVersion : ℤ := 401
  priorTtlMs : ℤ := 180000
  minUpdateIntervalNs : ℤ := 0
  maxRetries : ℕ := 2
  queueSize : ℕ := 64

inductive JobType
  | appBind | appPrior
  deriving DecidableEq

/-- `_WriteJob`, with the values the writer reads and the number of its batch. -/
structure WriteJob where
  eventType : JobType
  command : String
  currentApp : String
  currentAppId : ℤ
  domainId : ℤ := 0
  priorGeneration : ℕ := 0
  deriving DecidableEq

inductive Task
  | bind (appKey : String)
  | put (job : WriteJob)
  deriving DecidableEq

/-- Where the writer is: a successful job is confirmed after its pending mark is gone. -/
inductive Writer
  | idle
  | writing (job : WriteJob)
  | confirming (job : WriteJob)
  deriving DecidableEq

/-- What `_last_prediction_signature` spells out: the foreground and the candidates' scores. -/
structure Signature where
  currentId : ℤ
  scores : List (ℤ × ℤ)
  deriving DecidableEq

structure Bridge where
  todo : List Task := []
  queue : List WriteJob := []
  writer : Writer := .idle
  bindGeneration : ℕ := 0
  priorGeneration : ℕ := 0
  lastPredictionNs : ℤ := 0
  lastPredictionSignature : Option Signature := none
  pendingBindings : Finset String := ∅
  requestedBindings : Finset String := ∅
  successfulBindings : Dict String (ℤ × String) := ∅

inductive FallbackReason
  | stalePrediction | invalidValidUntil | noValidCandidate | minUpdateInterval
  | duplicatePrediction
  deriving DecidableEq

/-- A prediction taken over, with the prior commands it hands to the queue. -/
structure Batch where
  signature : Signature
  nowNs : ℤ
  jobs : List WriteJob
  deriving DecidableEq

inductive Event
  | quiet
  | ensured (result : Bool)
  | fallback (reason : FallbackReason)
  | submitted (batch : Batch)
  | accepted (job : WriteJob)
  | queueFull (job : WriteJob)
  deriving DecidableEq

/-- A row of the model's output; `none` stands for a value that does not convert. -/
inductive PredictionRow
  | other
  | row (horizon : Option ℤ) (app : String) (probability : Option Float)

structure PriorCandidate where
  appKey : String
  appId : ℤ
  probability : Float
  rank : ℕ

inductive ValidUntil
  | absent
  | invalid
  | at (ns : ℤ)

/-- `prediction_result`, its texts stripped, with the two clock readings of the call. -/
structure Prediction where
  predictionFormat : String := "horizon"
  status : String := "success"
  validUntilNs : ValidUntil := .absent
  mappedForegroundApp : String := ""
  rows : List PredictionRow := []
  horizonMs : ℤ := 180000
  checkedNs : ℤ
  nowNs : ℤ

def findApp (c : Config) (appKey : String) : Option App := c.apps.find? (·.appKey = appKey)

def findAppByVocab (c : Config) (vocabName : String) : Option App :=
  c.apps.find? (·.vocabName = vocabName)

def finiteProbability (value : Option Float) : Option Float :=
  value.filter fun result => result.isFinite && !(result < 0.0)

def q15One : ℤ := 32767

def q15 (value : Float) : ℤ :=
  max 0 (min q15One ((rounded (value * Float.ofInt q15One)).getD 0))

def rowCandidate (c : Config) (currentId : ℤ) (predictionFormat : String) (seen : List ℤ) :
    PredictionRow → Option (App × Float)
  | .other => none
  | .row horizon app probability =>
    if predictionFormat ≠ "app_probability" ∧ horizon ≠ some 3 then none
    else
      match findAppByVocab c app with
      | none => none
      | some app =>
        if app.predictionEnabled = false then none
        else if app.appId ≤ 0 then none
        else if app.appId = currentId then none
        else if app.appId ∈ seen then none
        else (finiteProbability probability).map fun probability => (app, probability)

def rawCandidates (c : Config) (currentId : ℤ) (predictionFormat : String) :
    List ℤ → List PredictionRow → List (App × Float)
  | _, [] => []
  | seen, row :: rows =>
    match rowCandidate c currentId predictionFormat seen row with
    | none => rawCandidates c currentId predictionFormat seen rows
    | some raw =>
      raw :: rawCandidates c currentId predictionFormat (raw.1.appId :: seen) rows

/-- The order of the sort key `(-probability, app_id)`. -/
def likelier (a b : App × Float) : Bool :=
  b.2 < a.2 || a.2 == b.2 && a.1.appId ≤ b.1.appId

/-- `_normalize_candidates`. -/
def normalizeCandidates (c : Config) (rows : List PredictionRow) (currentId : ℤ)
    (predictionFormat : String) : List PriorCandidate :=
  let raw := rawCandidates c currentId predictionFormat [] rows
  let total := raw.foldl (fun total item => total + item.2) 0.0
  if !total.isFinite || total <= 0.0 then []
  else
    (raw.mergeSort likelier).zipIdx.map fun item =>
      ⟨item.1.1.appKey, item.1.1.appId, item.1.2 / total, item.2 + 1⟩

def foregroundId (c : Config) (p : Prediction) : ℤ :=
  match findAppByVocab c p.mappedForegroundApp with
  | none => 0
  | some app => app.appId

def candidatesOf (c : Config) (p : Prediction) : List PriorCandidate :=
  normalizeCandidates c p.rows (foregroundId c p) p.predictionFormat

def signatureOf (c : Config) (p : Prediction) : Signature :=
  ⟨foregroundId c p, (candidatesOf c p).map fun item => (item.appId, q15 item.probability)⟩

def bindingHash (c : Config) (domainId appId : ℤ) : String :=
  c.digest (":".intercalate [toString domainId, toString appId, toString c.modelVersion])

/-- `_enqueue`: `put_nowait` on a queue of at least one place. -/
def enqueue (c : Config) (s : Bridge) (job : WriteJob) : Event × Bridge :=
  if s.queue.length < max 1 c.queueSize then (.accepted job, { s with queue := s.queue ++ [job] })
  else (.queueFull job, s)

/-- `ensure_binding` up to the hand-over of its job, which is left to do. -/
def ensureBinding (c : Config) (s : Bridge) (appKey : String) (resolved : Option ℤ) :
    Event × Bridge :=
  match findApp c appKey with
  | none => (.ensured false, s)
  | some app =>
    if app.appId ≤ 0 then (.ensured false, s)
    else
      let s := { s with requestedBindings := insert appKey s.requestedBindings }
      match resolved with
      | none => (.ensured false, s)
      | some domainId =>
        let hash := bindingHash c domainId app.appId
        if s.successfulBindings.get? appKey = some (domainId, hash) ∨
            appKey ∈ s.pendingBindings then (.ensured true, s)
        else
          let generation := s.bindGeneration + 1
          let job : WriteJob :=
            { eventType := .appBind
              command := " ".intercalate [toString domainId, toString app.appId,
                toString c.priorTtlMs, toString generation, toString c.modelVersion]
              currentApp := appKey
              currentAppId := app.appId
              domainId := domainId }
          let s := { s with
            bindGeneration := generation
            pendingBindings := insert appKey s.pendingBindings }
          if c.mode = .dryRun then
            (.ensured true, { s with
              pendingBindings := s.pendingBindings.erase appKey
              successfulBindings := s.successfulBindings.set appKey (domainId, hash) })
          else if c.shadowWriteReady = false then
            (.ensured false, { s with pendingBindings := s.pendingBindings.erase appKey })
          else (.quiet, { s with todo := .put job :: s.todo })

/-- The `app_prior` job of a candidate. -/
def priorJob (c : Config) (p : Prediction) (generation : ℕ) (item : PriorCandidate) : WriteJob where
  eventType := .appPrior
  command := " ".intercalate [toString item.appId, toString (q15 item.probability),
    toString item.rank, toString (if p.horizonMs = 0 then 180000 else p.horizonMs),
    toString c.priorTtlMs, toString c.modelVersion]
  currentApp := p.mappedForegroundApp
  currentAppId := foregroundId c p
  priorGeneration := generation

def candidateTasks (c : Config) (p : Prediction) (generation : ℕ) (item : PriorCandidate) :
    List Task :=
  .bind item.appKey ::
    ((findAppByVocab c p.mappedForegroundApp).toList.map fun app => .bind app.appKey) ++
    if c.mode ≠ .dryRun ∧ c.shadowWriteReady = true then [.put (priorJob c p generation item)]
    else []

def jobsOf (tasks : List Task) : List WriteJob :=
  tasks.filterMap fun
    | .bind _ => none
    | .put job => some job

/-- Whether `valid_until_ns` stands against the prediction. -/
def expired (p : Prediction) : Option FallbackReason :=
  match p.validUntilNs with
  | .absent => none
  | .invalid => some .invalidValidUntil
  | .at ns => if ns ≤ p.checkedNs then some .stalePrediction else none

/-- `submit_prediction` up to its loop over the candidates, which is left to do. -/
def submitPrediction (c : Config) (s : Bridge) (p : Prediction) : Event × Bridge :=
  if p.predictionFormat = "visit_window" then (.quiet, s)
  else if c.mode = .off then (.quiet, s)
  else if p.status ≠ "success" then (.quiet, s)
  else
    match expired p with
    | some reason => (.fallback reason, s)
    | none =>
      if (candidatesOf c p).isEmpty then (.fallback .noValidCandidate, s)
      else if s.lastPredictionNs ≠ 0 ∧
          p.nowNs - s.lastPredictionNs < c.minUpdateIntervalNs then
        (.fallback .minUpdateInterval, s)
      else if some (signatureOf c p) = s.lastPredictionSignature then
        (.fallback .duplicatePrediction, s)
      else
        let generation := s.priorGeneration + 1
        let tasks := (candidatesOf c p).flatMap (candidateTasks c p generation)
        (.submitted ⟨signatureOf c p, p.nowNs, jobsOf tasks⟩,
          { s with
            lastPredictionNs := p.nowNs
            lastPredictionSignature := some (signatureOf c p)
            priorGeneration := generation
            todo := tasks })

/-- How one attempt to write ends; `raised` is an exception other than an `OSError`. -/
inductive Attempt
  | written | partialWrite | osError | raised
  deriving DecidableEq

inductive Outcome
  | success | failure | raised
  deriving DecidableEq

/-- The attempts of `_perform_write`, from number `i` on. -/
def tryWrites (attempt : ℕ → Attempt) : ℕ → ℕ → Outcome
  | 0, _ => .failure
  | remaining + 1, i =>
    match attempt i with
    | .written => .success
    | .raised => .raised
    | .partialWrite | .osError => tryWrites attempt remaining (i + 1)

def discardPending (s : Bridge) (job : WriteJob) : Bridge :=
  { s with pendingBindings := s.pendingBindings.erase job.currentApp }

def finishWrite (c : Config) (s : Bridge) (job : WriteJob) (attempt : ℕ → Attempt) : Bridge :=
  match tryWrites attempt (c.maxRetries + 1) 0, job.eventType with
  | .success, .appBind => { discardPending s job with writer := .confirming job }
  | .success, .appPrior => { s with writer := .confirming job }
  | .failure, .appBind => { discardPending s job with writer := .idle }
  | .failure, .appPrior => { s with writer := .idle }
  | .raised, _ => { discardPending s job with writer := .idle }

def confirm (c : Config) (s : Bridge) (job : WriteJob) (raised : Bool) : Bridge :=
  let s := match job.eventType with
    | .appBind =>
      { s with
        successfulBindings := s.successfulBindings.set job.currentApp
          (job.domainId, bindingHash c job.domainId job.currentAppId) }
    | .appPrior => s
  let s := if raised then discardPending s job else s
  { s with writer := .idle }

inductive Input
  | ensureBinding (appKey : String)
  | submitPrediction (p : Prediction)
  | proceed (resolved : Option ℤ)
  | take
  | finish (attempt : ℕ → Attempt)
  | confirm (raised : Bool)

def step (c : Config) (s : Bridge) : Input → Event × Bridge
  | .ensureBinding appKey =>
    if s.todo = [] then (.quiet, { s with todo := [.bind appKey] }) else (.quiet, s)
  | .submitPrediction p => if s.todo = [] then submitPrediction c s p else (.quiet, s)
  | .proceed resolved =>
    match s.todo with
    | [] => (.quiet, s)
    | .bind appKey :: todo => ensureBinding c { s with todo := todo } appKey resolved
    | .put job :: todo => enqueue c { s with todo := todo } job
  | .take =>
    match s.writer, s.queue with
    | .idle, job :: queue => (.quiet, { s with queue := queue, writer := .writing job })
    | _, _ => (.quiet, s)
  | .finish attempt =>
    match s.writer with
    | .writing job => (.quiet, finishWrite c s job attempt)
    | _ => (.quiet, s)
  | .confirm raised =>
    match s.writer with
    | .confirming job => (.quiet, confirm c s job raised)
    | _ => (.quiet, s)

end Parp.DebugfsBridge
