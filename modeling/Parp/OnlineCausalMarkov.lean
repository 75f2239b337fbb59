import Mathlib.Data.List.Sort
import Parp.ConsecutiveTriples
import Parp.Binary64
import Parp.OrderedDict

set_option autoImplicit false

/-!
# Online causal workload Markov

`OnlineCausalWorkloadMarkov` of the runtime monitor, enabled: for each application and scope, what
follows two of its workloads. The state that a call leaves behind when it raises is kept, as the
monitor goes on after it.
-/
namespace Parp.OnlineMarkov

open OrderedDict ConsecutiveTriples CorrectRounding

inductive PyError
  | zeroDivision
  | overflow
  | value
  deriving DecidableEq

def trueDivide (count total : ℤ) : Except PyError ℚ :=
  if total = 0 then .error .zeroDivision
  else if 2 ^ 1024 ≤ |binary64 (count / total)| then .error .overflow
  else .ok (binary64 (count / total))

/-- `_fixed_confidence`; a product beyond the doubles is infinite, which `int` does not take. -/
def fixedConfidence (value : ℚ) : Except PyError ℤ :=
  if 2 ^ 1024 ≤ |binary64 (value * 10000)| then .error .overflow
  else .ok (max 0 (min 10000 (roundHalfEven (binary64 (value * 10000)))))

/-- `_boost_level` -/
def boostLevel (confidenceFixed : ℤ) : ℕ :=
  if 8000 ≤ confidenceFixed then 3
  else if 5000 ≤ confidenceFixed then 2
  else if 0 < confidenceFixed then 1
  else 0

/-- The counts of a preloaded table may be negative. -/
abbrev Counter := Dict ℤ ℤ

def Counter.count (counter : Counter) (workload : ℤ) : ℤ := (counter.get? workload).getD 0

def Counter.add (counter : Counter) (workload count : ℤ) : Counter :=
  counter.set workload (counter.count workload + count)

def Counter.total (counter : Counter) : ℤ := counter.values.sum

/-- `_ranked` -/
def ranked (counter : Counter) : List (ℤ × ℤ) :=
  (counter.items.insertionSort fun l r => r.2 < l.2 ∨ l.2 = r.2 ∧ l.1 ≤ r.1).take 4

/-- The entries of a `markov set`. -/
def entries (counter : Counter) (total : ℤ) : Except PyError (List (ℤ × ℤ × ℕ)) :=
  (ranked counter).mapM fun row => do
    let confidence ← trueDivide row.2 total
    let confidenceFixed ← fixedConfidence confidence
    return (row.1, confidenceFixed, boostLevel confidenceFixed)

/-- What the object is made with: whether there is a `debugfs_writer`, and the texts that `int`
takes. -/
structure Settings where
  hasWriter : Bool := false
  isNumeral : String → Bool

/-- An application id and a scope name. -/
abbrev Key := String × String

abbrev Context := ℤ × ℤ

inductive TransitionSource
  | historicalPreload
  | onlineIncremental
  deriving DecidableEq

inductive ResolutionStatus
  | pending
  | resolved
  | unresolved
  deriving DecidableEq

/-- A row of the predictions, told by the number in its id. `confidence` is the quotient of the
confidence counts `count` and `total`. -/
structure Prediction where
  predictionId : ℕ
  timestampNs : ℤ
  appKey : String
  key : Key
  context : Context
  predictedNextWorkloadId : ℤ
  rank : ℕ
  count : ℤ
  total : ℤ
  confidence : ℚ
  confidenceFixed : ℤ
  transitionSource : TransitionSource
  latestTrainingSampleTimeNs : ℤ
  predictionTimeNs : ℤ
  actualNextWorkloadId : Option ℤ := none
  actualNextTimeNs : Option ℤ := none
  resolutionStatus : ResolutionStatus := .pending
  usedFutureInformation : Bool := false
  causalValid : Option Bool := none
  hit : Option Bool := none
  deriving DecidableEq

structure Markov where
  windows : Dict Key (List ℤ) := ∅
  lastSampleNs : Dict Key ℤ := ∅
  transitions : Dict (Key × Context) Counter := ∅
  preloadedKeys : List (Key × Context) := []
  predictions : Dict ℕ Prediction := ∅
  pending : Dict Key (List ℕ) := ∅
  predictionSeq : ℕ := 0
  totalUpdates : ℕ := 0
  totalPredictions : ℕ := 0
  futureInformationRows : ℕ := 0

/-- The arguments of `observe_workload`. -/
structure Sample where
  appKey : String
  appId : String
  scopeName : String
  workloadId : ℤ
  cgroupId : Option ℤ := none
  timestampNs : ℤ

def Sample.key (w : Sample) : Key := (w.appId, w.scopeName)

/-- A row of the preloaded table that `int` can read; the others are skipped. -/
structure PreloadRow where
  key : Key
  context : Context
  nextWorkloadId : ℤ
  count : ℤ

def Markov.window (s : Markov) (key : Key) : List ℤ := (s.windows.get? key).getD []

def Markov.counter (s : Markov) (key : Key) (context : Context) : Counter :=
  (s.transitions.get? (key, context)).getD ∅

def Markov.pendingIds (s : Markov) (key : Key) : List ℕ := (s.pending.get? key).getD []

def Markov.preloadRow (s : Markov) (row : PreloadRow) : Markov :=
  { s with
    transitions := s.transitions.set (row.key, row.context)
      ((s.counter row.key row.context).add row.nextWorkloadId row.count)
    preloadedKeys := (row.key, row.context) :: s.preloadedKeys }

/-- `_preload_transitions` -/
def preloadTransitions (table : List PreloadRow) : Markov := table.foldl Markov.preloadRow {}

section

variable (actual actualTs : ℤ)

def Prediction.resolve (row : Prediction) : Prediction :=
  let future : Bool := row.predictionTimeNs < row.latestTrainingSampleTimeNs
  { row with
    actualNextWorkloadId := some actual
    actualNextTimeNs := some actualTs
    usedFutureInformation := future
    resolutionStatus := .resolved
    causalValid := some (row.latestTrainingSampleTimeNs ≤ row.predictionTimeNs &&
      row.predictionTimeNs < actualTs && !future)
    hit := some (row.predictedNextWorkloadId = actual) }

def Markov.settle (s : Markov) (id : ℕ) : Markov :=
  match s.predictions.get? id with
  | none => s
  | some row =>
    { s with
      predictions := s.predictions.set id (row.resolve actual actualTs)
      futureInformationRows := s.futureInformationRows +
        if (row.resolve actual actualTs).usedFutureInformation then 1 else 0 }

/-- `_resolve_pending` -/
def Markov.resolvePending (s : Markov) (key : Key) : Markov :=
  (s.pendingIds key).foldl (Markov.settle actual actualTs) { s with pending := s.pending.erase key }

end

variable (settings : Settings)

def reportUpdate (counter : Counter) (totalAfter : ℤ) (w : Sample) : Except PyError Unit := do
  let _ ← trueDivide (counter.count w.workloadId) totalAfter
  if settings.hasWriter then
    if !settings.isNumeral w.appId then throw .value
    let _ ← entries counter totalAfter

def Markov.update (s : Markov) (w : Sample) : Markov × Except PyError Unit :=
  match s.window w.key with
  | [prev, current] =>
    let before := s.counter w.key (prev, current)
    let counter := before.add w.workloadId 1
    ({ s with
        transitions := s.transitions.set (w.key, (prev, current)) counter
        totalUpdates := s.totalUpdates + 1 },
      reportUpdate settings counter (before.total + 1) w)
  | _ => (s, .ok ())

def Markov.advance (s : Markov) (w : Sample) : Markov :=
  { s with
    windows := s.windows.set w.key (lastTwo (s.window w.key ++ [w.workloadId]))
    lastSampleNs := s.lastSampleNs.set w.key w.timestampNs }

/-- `_predict`; to look a counter up puts it in. -/
def Markov.predict (s : Markov) (key : Key) (ts : ℤ) (appKey : String) :
    Markov × Except PyError (Option Prediction) :=
  match s.window key with
  | [prev, current] =>
    let counter := s.counter key (prev, current)
    let s := { s with transitions := s.transitions.set (key, (prev, current)) counter }
    match ranked counter with
    | [] => (s, .ok none)
    | (nextId, count) :: _ =>
      let s := { s with predictionSeq := s.predictionSeq + 1 }
      match trueDivide count counter.total with
      | .error e => (s, .error e)
      | .ok confidence =>
        match fixedConfidence confidence with
        | .error e => (s, .error e)
        | .ok confidenceFixed =>
          let row : Prediction :=
            { predictionId := s.predictionSeq
              timestampNs := ts
              appKey
              key
              context := (prev, current)
              predictedNextWorkloadId := nextId
              rank := 1
              count
              total := counter.total
              confidence
              confidenceFixed
              transitionSource :=
                if (key, (prev, current)) ∈ s.preloadedKeys then .historicalPreload
                else .onlineIncremental
              latestTrainingSampleTimeNs := (s.lastSampleNs.get? key).getD 0
              predictionTimeNs := ts }
          ({ s with
              predictions := s.predictions.set row.predictionId row
              totalPredictions := s.totalPredictions + 1 },
            .ok (some row))
  | _ => (s, .ok none)

def Markov.await (s : Markov) (key : Key) : Option Prediction → Markov
  | none => s
  | some row =>
    { s with pending := s.pending.set key (s.pendingIds key ++ [row.predictionId]) }

/-- `_write_current_context_transition` and the workload update: what can raise in them. -/
def Markov.publish (s : Markov) (w : Sample) : Except PyError Unit := do
  if settings.hasWriter then
    match s.window w.key with
    | [prev, current] =>
      let counter := s.counter w.key (prev, current)
      if counter.items ≠ [] then
        if !settings.isNumeral w.appId then throw .value
        let _ ← entries counter counter.total
    | _ => pure ()
    if w.cgroupId.isSome && !settings.isNumeral w.appId then throw .value

/-- `observe_workload` -/
def Markov.observe (s : Markov) (w : Sample) : Markov × Except PyError (Option Prediction) :=
  let updated := (s.resolvePending w.workloadId w.timestampNs w.key).update settings w
  match updated.2 with
  | .error e => (updated.1, .error e)
  | .ok () =>
    let predicted := (updated.1.advance w).predict w.key w.timestampNs w.appKey
    match predicted.2 with
    | .error e => (predicted.1, .error e)
    | .ok prediction =>
      let s := predicted.1.await w.key prediction
      (s, (s.publish settings w).map fun () => prediction)

def Prediction.close (row : Prediction) : Prediction :=
  if row.resolutionStatus = .pending then
    { row with
      resolutionStatus := .unresolved
      usedFutureInformation := false
      causalValid := some false
      hit := none }
  else row

/-- The rows after `close`, before it writes them out. -/
def Markov.closedRows (s : Markov) : List Prediction := s.predictions.values.map Prediction.close

def Markov.run (s : Markov) (calls : List Sample) : Markov :=
  calls.foldl (fun s w => (s.observe settings w).1) s

end Parp.OnlineMarkov
