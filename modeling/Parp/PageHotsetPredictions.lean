import Parp.PageHotset

set_option autoImplicit false

/-!
# Page hot-set predictions

`PageHotsetShadow` without background training: what closing a window does to the models, the
runtime states and the pending predictions, and the calls that close windows.
-/
namespace Parp.PageHotset

open OrderedDict

/-- What the constructor has checked; `safeName` ends in a digest of its argument. -/
structure Settings where
  sessionId : String
  safeName : String → String
  windows : Config
  latenessNs : ℤ
  warmupWindows : ℕ
  retrainWindows : ℕ
  historyWindows : ℕ
  baseHotCoverage : Float
  bucketHotCoverage : Float
  fitKmedoids : FitKmedoids
  windowPositive : 0 < windows.windowNs
  latenessNonneg : 0 ≤ latenessNs

structure RuntimeState where
  modelVersion : String := ""
  foregroundEpochId : String := ""
  previousBucket : Option String := none
  currentBucket : Option String := none

structure PageBucketPrediction where
  predictionId : String
  appId : String
  foregroundEpochId : String
  modelVersion : String
  modelTrainedThroughNs : ℤ
  predictionTimeNs : ℤ
  sourceWindowStartNs : ℤ
  sourceWindowEndNs : ℤ
  previousBucket : String
  currentBucket : String
  currentSimilarity : Float
  transitionSource : String
  bucketProbabilities : List (String × Float)
  predictedBucket : String
  confidence : Float
  baseHotPages : Finset PageId
  currentHotPages : Finset PageId
  predictedHotPages : Finset PageId
  globalBaselinePages : Finset PageId
  pageSize : ℤ

structure Trained where
  model : PageBucketModel
  windows : List PageSnapshot

/-- What a resolved row says of the window that resolved it and of the model installed then; its
metrics compare the pages of the window with those of the prediction. -/
structure Resolution where
  actual : PageSnapshot
  installed : Option Trained
  predictedBucket : String
  actualBucket : String

structure Outcome where
  predictionId : String
  appId : String
  modelVersion : String
  resolutionStatus : String
  resolutionTimeNs : ℤ
  causalValid : Bool
  resolution : Option Resolution := none

structure Emitted where
  prediction : PageBucketPrediction
  trained : Trained

structure Predictor where
  shadow : Shadow := {}
  histories : String → List PageSnapshot := fun _ => []
  historyEligible : String → ℕ := fun _ => 0
  eligibleSeen : String → ℕ := fun _ => 0
  lastTrainingCount : String → ℕ := fun _ => 0
  modelSerial : String → ℕ := fun _ => 0
  models : String → Option Trained := fun _ => none
  runtime : String → RuntimeState := fun _ => {}
  pending : Dict String PageBucketPrediction := ∅
  predictionSerial : ℕ := 0
  predictions : List Emitted := []
  outcomes : List Outcome := []
  closed : Bool := false

variable (settings : Settings)

/-- A number in at least `width` digits. -/
def padded (width n : ℕ) : String :=
  let digits := Nat.toDigits 10 n
  String.ofList (List.replicate (width - digits.length) '0' ++ digits)

def predictionId (serial : ℕ) : String := settings.sessionId ++ "-page-p" ++ padded 6 serial

def censored (prediction : PageBucketPrediction) (app reason : String) (timestampNs : ℤ) :
    Outcome where
  predictionId := prediction.predictionId
  appId := app
  modelVersion := prediction.modelVersion
  resolutionStatus := reason
  resolutionTimeNs := timestampNs
  causalValid := false

/-- `_pending.pop(app)` and the outcome of what was pending. -/
def Predictor.settle (s : Predictor) (app : String) (outcome : PageBucketPrediction → Outcome) :
    Predictor :=
  match s.pending.get? app with
  | none => s
  | some prediction =>
    { s with
      pending := s.pending.erase app
      outcomes := s.outcomes ++ [outcome prediction] }

def Predictor.cancelPending (s : Predictor) (app reason : String) (timestampNs : ℤ) : Predictor :=
  s.settle app fun prediction => censored prediction app reason timestampNs

def Predictor.setRuntime (s : Predictor) (app : String) (runtime : RuntimeState) : Predictor :=
  { s with runtime := Function.update s.runtime app runtime }

def Predictor.breakRuntime (s : Predictor) (app reason : String) (timestampNs : ℤ) : Predictor :=
  let s := s.cancelPending app reason timestampNs
  s.setRuntime app
    { s.runtime app with foregroundEpochId := "", previousBucket := none, currentBucket := none }

/-- The prediction was made before the window ended, and the model is still the one installed. -/
def causal (s : Predictor) (app : String) (prediction : PageBucketPrediction)
    (actual : PageSnapshot) : Bool :=
  prediction.modelTrainedThroughNs ≤ prediction.predictionTimeNs ∧
    prediction.predictionTimeNs < actual.windowEndNs ∧
    (s.models app).map (fun trained => trained.model.modelVersion) = some prediction.modelVersion

def resolved (s : Predictor) (app : String) (prediction : PageBucketPrediction)
    (actual : PageSnapshot) (actualBucket : String) (resolutionTimeNs : ℤ) : Outcome where
  predictionId := prediction.predictionId
  appId := app
  modelVersion := prediction.modelVersion
  resolutionStatus := if causal s app prediction actual then "RESOLVED" else "NON_CAUSAL"
  resolutionTimeNs := resolutionTimeNs
  causalValid := causal s app prediction actual
  resolution := some
    { actual := actual
      installed := s.models app
      predictedBucket := prediction.predictedBucket
      actualBucket := actualBucket }

def Predictor.resolvePending (s : Predictor) (app : String) (actual : PageSnapshot)
    (actualBucket : String) (resolutionTimeNs : ℤ) : Predictor :=
  s.settle app fun prediction =>
    resolved s app prediction actual actualBucket resolutionTimeNs

structure Classification where
  status : String
  bucketId : String := unknown
  modelVersion : String := ""
  similarity : Option Float := none
  predictionId : String := ""

/-- The prediction of `ranked[0]`. -/
def makePrediction (serial : ℕ) (app : String) (snapshot : PageSnapshot) (model : PageBucketModel)
    (previousBucket : Option String) (bucket : String) (similarity : Float)
    (distribution : List (String × Float)) (source : String) (best : String × Float)
    (processingTimeNs : ℤ) : PageBucketPrediction where
  predictionId := predictionId settings serial
  appId := app
  foregroundEpochId := snapshot.foregroundEpochId
  modelVersion := model.modelVersion
  modelTrainedThroughNs := model.trainedThroughNs
  predictionTimeNs := processingTimeNs
  sourceWindowStartNs := snapshot.windowStartNs
  sourceWindowEndNs := snapshot.windowEndNs
  previousBucket := previousBucket.getD ""
  currentBucket := bucket
  currentSimilarity := similarity
  transitionSource := source
  bucketProbabilities := distribution
  predictedBucket := best.1
  confidence := best.2
  baseHotPages := model.baseHotPages
  currentHotPages := model.baseHotPages ∪ model.bucketHotPages bucket
  predictedHotPages := model.baseHotPages ∪ model.bucketHotPages best.1
  globalBaselinePages := model.baseHotPages ∪ model.bucketHotPages model.mostCommonBucket
  pageSize := settings.windows.pageSize

/-- The end of `_process_snapshot`, once the bucket has changed. -/
def Predictor.predict (s : Predictor) (app : String) (snapshot : PageSnapshot) (trained : Trained)
    (bucket : String) (similarity : Float) (processingTimeNs : ℤ) (allowPrediction : Bool) :
    Classification × Predictor :=
  let model := trained.model
  let version := model.modelVersion
  let previousBucket := (s.runtime app).previousBucket
  if allowPrediction = false then
    (⟨"BACKLOG_REPLAY", bucket, version, some similarity, ""⟩, s)
  else
    let distribution := model.transitionDistribution previousBucket bucket
    match firstSorted (fun l r => ranksBefore (l.2, l.1) (r.2, r.1)) distribution.1 with
    | none => (⟨"NO_TRANSITION", bucket, version, some similarity, ""⟩, s)
    | some best =>
      let serial := s.predictionSerial + 1
      let prediction := makePrediction settings serial app snapshot model previousBucket bucket
        similarity distribution.1 distribution.2 best processingTimeNs
      (⟨"PREDICTED", bucket, version, some similarity, prediction.predictionId⟩,
        { s with
          predictionSerial := serial
          pending := s.pending.set app prediction
          predictions := s.predictions ++ [⟨prediction, trained⟩] })

def Predictor.enterModel (s : Predictor) (app version : String) (processingTimeNs : ℤ) :
    Predictor :=
  if (s.runtime app).modelVersion ≠ version then
    (s.breakRuntime app "MODEL_REPLACED" processingTimeNs).setRuntime app
      { modelVersion := version }
  else s

def Predictor.enterEpoch (s : Predictor) (app epochId : String) (processingTimeNs : ℤ) :
    Predictor :=
  let runtime := s.runtime app
  if runtime.foregroundEpochId ≠ "" ∧ runtime.foregroundEpochId ≠ epochId then
    (s.cancelPending app "FOREGROUND_EPOCH_END" processingTimeNs).setRuntime app
      { runtime with foregroundEpochId := epochId, previousBucket := none, currentBucket := none }
  else s.setRuntime app { runtime with foregroundEpochId := epochId }

def Predictor.enterBucket (s : Predictor) (app : String) (snapshot : PageSnapshot)
    (bucket : String) (processingTimeNs : ℤ) : Predictor :=
  let runtime := s.runtime app
  if runtime.currentBucket ≠ none then
    (s.resolvePending app snapshot bucket processingTimeNs).setRuntime app
      { runtime with previousBucket := runtime.currentBucket, currentBucket := some bucket }
  else s.setRuntime app { runtime with currentBucket := some bucket }

/-- `_process_snapshot` from the runtime state on, for a window in a bucket of the model. -/
def Predictor.follow (s : Predictor) (app : String) (snapshot : PageSnapshot) (trained : Trained)
    (bucket : String) (similarity : Float) (processingTimeNs : ℤ) (allowPrediction : Bool) :
    Classification × Predictor :=
  let version := trained.model.modelVersion
  let s := (s.enterModel app version processingTimeNs).enterEpoch app snapshot.foregroundEpochId
    processingTimeNs
  if (s.runtime app).currentBucket = some bucket then
    (⟨"SAME_BUCKET", bucket, version, some similarity, ""⟩, s)
  else
    (s.enterBucket app snapshot bucket processingTimeNs).predict settings app snapshot trained
      bucket similarity processingTimeNs allowPrediction

def Predictor.processSnapshot (s : Predictor) (snapshot : PageSnapshot) (processingTimeNs : ℤ)
    (allowPrediction : Bool) : Classification × Predictor :=
  let app := snapshot.appId
  if app = unknown then ({ status := "FOREGROUND_UNKNOWN" }, s)
  else if snapshot.modelEligible = false then
    ({ status := "NOT_ELIGIBLE" }, s.breakRuntime app "INVALID_OR_EMPTY_WINDOW" processingTimeNs)
  else
    match s.models app with
    | none =>
      ({ status := "MODEL_NOT_READY" }, s.breakRuntime app "MODEL_NOT_READY" processingTimeNs)
    | some trained =>
      let (bucket, similarity, reason) := trained.model.classify snapshot.pages
      if bucket = unknown then
        (⟨reason, unknown, trained.model.modelVersion, some similarity, ""⟩,
          s.breakRuntime app "UNKNOWN_ACTUAL" processingTimeNs)
      else
        s.follow settings app snapshot trained bucket similarity processingTimeNs allowPrediction

/-- `while _history_eligible > history_windows and history`. -/
def dropHistory (limit : ℕ) : List PageSnapshot → ℕ → List PageSnapshot × ℕ
  | [], count => ([], count)
  | oldest :: history, count =>
    if limit < count then
      dropHistory limit history (if oldest.modelEligible then count - 1 else count)
    else (oldest :: history, count)

def Predictor.appendHistory (s : Predictor) (snapshot : PageSnapshot) : Predictor :=
  let app := snapshot.appId
  let count := s.historyEligible app + if snapshot.modelEligible then 1 else 0
  let kept := dropHistory settings.historyWindows (s.histories app ++ [snapshot]) count
  { s with
    histories := Function.update s.histories app kept.1
    historyEligible := Function.update s.historyEligible app kept.2 }

def Predictor.installModel (s : Predictor) (app : String) (trained : Trained) (clockNs : ℤ) :
    Predictor :=
  let s := s.cancelPending app "MODEL_REPLACED" clockNs
  { s with
    models := Function.update s.models app (some trained)
    runtime := Function.update s.runtime app { modelVersion := trained.model.modelVersion } }

def Predictor.maybeScheduleTraining (s : Predictor) (app : String) (clockNs : ℤ) : Predictor :=
  let seen := s.eligibleSeen app
  if s.models app = none ∧ seen < settings.warmupWindows ∨
      s.models app ≠ none ∧ seen - s.lastTrainingCount app < settings.retrainWindows then s
  else
    let serial := s.modelSerial app + 1
    let version := settings.safeName app ++ "-v" ++ padded 4 serial
    let windows := s.histories app
    let s :=
      { s with
        modelSerial := Function.update s.modelSerial app serial
        lastTrainingCount := Function.update s.lastTrainingCount app seen }
    match trainPageHotsetModel settings.fitKmedoids app version settings.windows.pageSize windows
      settings.baseHotCoverage settings.bucketHotCoverage with
    | none => s
    | some model => s.installModel app ⟨model, windows⟩ clockNs

/-- The end of `_finalize_window`: the snapshot joins the history of its application. -/
def Predictor.recordSnapshot (s : Predictor) (snapshot : PageSnapshot) (clockNs : ℤ) : Predictor :=
  let app := snapshot.appId
  if app = unknown then s
  else
    let s := s.appendHistory settings snapshot
    let s :=
      if snapshot.modelEligible then
        { s with eligibleSeen := Function.update s.eligibleSeen app (s.eligibleSeen app + 1) }
      else s
    s.maybeScheduleTraining settings app clockNs

def Predictor.finalizeWindow (s : Predictor) (windowStartNs processingTimeNs : ℤ)
    (allowPrediction : Bool) (clockNs : ℤ) : Predictor :=
  let snapshot := snapshot settings.windows s.shadow windowStartNs
  let s := { s with shadow := closeWindow settings.windows s.shadow windowStartNs }
  (s.processSnapshot settings snapshot processingTimeNs allowPrediction).2.recordSnapshot settings
    snapshot clockNs

/-- The windows that `advance` closes: all that end by the cutoff. -/
def readyWindows (next cutoffNs : ℤ) : List ℤ :=
  let windowNs := settings.windows.windowNs
  (List.range ((cutoffNs - next) / windowNs).toNat).map fun index : ℕ => next + index * windowNs

def Predictor.finalizeAll (nowNs : ℤ) (clockNs : ℤ → ℤ) : List ℤ → Predictor → Predictor
  | [], s => s
  | windowStart :: later, s =>
    finalizeAll nowNs clockNs later
      (s.finalizeWindow settings windowStart nowNs (later = []) (clockNs windowStart))

def Predictor.advance (s : Predictor) (nowNs : ℤ) (clockNs : ℤ → ℤ) : Predictor :=
  if s.closed then s
  else
    match s.shadow.nextWindowStartNs with
    | none => s
    | some next =>
      let ready := readyWindows settings next (nowNs - settings.latenessNs)
      if ready = [] then s
      else
        let s := s.finalizeAll settings nowNs clockNs ready
        { s with
          shadow :=
            { s.shadow with
              nextWindowStartNs := some (next + ready.length * settings.windows.windowNs) } }

def Predictor.endSession (s : Predictor) (nowNs : ℤ) : Predictor :=
  { s.pending.items.foldl (fun s item => s.cancelPending item.1 "SESSION_END" nowNs) s with
    closed := true }

def Predictor.close (s : Predictor) (nowNs endNs : ℤ) (clockNs : ℤ → ℤ) : Predictor :=
  if s.closed then s else (s.advance settings nowNs clockNs).endSession endNs

def compacted {α β : Type} [DecidableEq β] (value : α → β) : Option β → List (ℤ × α) →
    List (ℤ × α)
  | _, [] => []
  | last, row :: rows =>
    if last = some (value row.2) then compacted value last rows
    else row :: compacted value (some (value row.2)) rows

def insertRow {α : Type} (changes : List (ℤ × α)) (row : ℤ × α) : List (ℤ × α) :=
  let before := changes.takeWhile fun change => change.1 < row.1
  match changes.dropWhile fun change => change.1 < row.1 with
  | [] => before ++ [row]
  | next :: rows => if next.1 = row.1 then before ++ row :: rows else before ++ row :: next :: rows

def insertChange {α β : Type} [DecidableEq β] (value : α → β) (changes : List (ℤ × α))
    (row : ℤ × α) : List (ℤ × α) :=
  compacted value none (insertRow changes row)

theorem mem_compacted {α β : Type} [DecidableEq β] {value : α → β} {rows : List (ℤ × α)}
    {last : Option β} {row : ℤ × α} (h : row ∈ compacted value last rows) : row ∈ rows := by
  induction rows generalizing last with
  | nil => cases h
  | cons head rows ih =>
    unfold compacted at h
    split_ifs at h with hsame
    · exact .tail _ (ih h)
    · rcases List.mem_cons.1 h with rfl | h
      · exact .head _
      · exact .tail _ (ih h)

theorem mem_insertRow {α : Type} {changes : List (ℤ × α)} {row change : ℤ × α}
    (h : change ∈ insertRow changes row) : change = row ∨ change ∈ changes := by
  have hsplit := List.takeWhile_append_dropWhile (p := fun change => decide (change.1 < row.1))
    (l := changes)
  unfold insertRow at h
  generalize changes.takeWhile _ = before at h hsplit
  generalize changes.dropWhile _ = after at h hsplit
  subst hsplit
  cases after with
  | nil => simpa [or_comm] using h
  | cons next rows =>
    dsimp only at h
    split_ifs at h
    · simp only [List.mem_append, List.mem_cons] at h ⊢
      tauto
    · simp only [List.mem_append, List.mem_cons] at h ⊢
      tauto

def observeForeground (s : Shadow) (timestampNs : ℤ) (app : String) : Shadow :=
  if h : 0 < timestampNs then
    let app := if app = "" then unknown else app
    Shadow.seedWindowStart
      { s with
        foregroundChanges := insertChange id s.foregroundChanges (timestampNs, app)
        foregroundPositive := fun change hmem => by
          rcases mem_insertRow (mem_compacted hmem) with rfl | hmem
          · exact h
          · exact s.foregroundPositive change hmem }
      settings.windows timestampNs
  else s

def setSourceAvailable (s : Shadow) (timestampNs : ℤ) (available : Bool) (reason : String) :
    Shadow :=
  if timestampNs ≤ 0 then s
  else
    Shadow.seedWindowStart
      { s with
        sourceChanges :=
          insertChange Prod.fst s.sourceChanges (timestampNs, available, reason) }
      settings.windows timestampNs

def markSourceGap (s : Shadow) (timestampNs : ℤ) (reason : String) : Shadow :=
  if timestampNs ≤ 0 then s
  else
    let start := timestampNs - timestampNs % settings.windows.windowNs
    (s.invalidate start (if reason = "" then "FILE_EVENT_SOURCE_GAP" else reason)).seedWindowStart
      settings.windows timestampNs

inductive Call
  | observeForeground (timestampNs : ℤ) (app : String)
  | setSourceAvailable (timestampNs : ℤ) (available : Bool) (reason : String)
  | markSourceGap (timestampNs : ℤ) (reason : String)
  | observePageAccess (event : AccessEvent)
  | observePageWindow (window : EbpfFileEvents.PageWindow)
  | advance (nowNs : ℤ) (clockNs : ℤ → ℤ)
  | close (nowNs endNs : ℤ) (clockNs : ℤ → ℤ)

def Predictor.call (s : Predictor) : Call → Predictor
  | .observeForeground timestampNs app =>
    { s with shadow := observeForeground settings s.shadow timestampNs app }
  | .setSourceAvailable timestampNs available reason =>
    { s with shadow := setSourceAvailable settings s.shadow timestampNs available reason }
  | .markSourceGap timestampNs reason =>
    { s with shadow := markSourceGap settings s.shadow timestampNs reason }
  | .observePageAccess event =>
    { s with shadow := (observePageAccess settings.windows s.shadow event).2 }
  | .observePageWindow window =>
    { s with shadow := observePageWindow settings.windows s.shadow window }
  | .advance nowNs clockNs => s.advance settings nowNs clockNs
  | .close nowNs endNs clockNs => s.close settings nowNs endNs clockNs

def Predictor.run (calls : List Call) : Predictor := calls.foldl (Predictor.call settings) {}

end Parp.PageHotset
