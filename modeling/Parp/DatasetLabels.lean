import Mathlib.Data.List.Sort
import Mathlib.Data.Prod.Lex
import Mathlib.Data.String.Basic
import Parp.EffectiveTier
import Parp.FallibleFolds
import Parp.IntervalSearch
import Parp.OrderedDict

set_option autoImplicit false

/-!
# Dataset labels

`build_dataset` of `tools/parp/effective_tier/collector.py`: the exported records are joined by
session and folio, and each candidate is labelled with what was accessed after it.
-/
namespace Parp.DatasetLabels

open EffectiveTier IntervalSearch OrderedDict

section

inductive AccessSource
  | pteYoung | markAccessed | fdReference
  deriving DecidableEq

inductive Mode
  | off | shadowEffectiveTier | applyProtectOnly | applyBidirectional | applyRandomMatched
  | applyRecencyBaseline | productAblation | oracleOfflineOnly
  deriving DecidableEq

inductive Split
  | train | validation | test
  deriving DecidableEq

/-- Experiment and session; identifiers are in the form `normalized_id` gives them. -/
abbrev SessionKey := String × String

structure FolioKey where
  experimentId : String
  sessionId : String
  folioCookie : String
  folioLifetimeEpoch : ℤ
  deriving DecidableEq

/-- A time and a source. -/
abbrev AccessPoint := ℤ × AccessSource

/-- `rest` are the fields only the contract reads. -/
structure Candidate (α : Type) where
  experimentId : String
  sessionId : String
  folioCookie : String
  folioLifetimeEpoch : ℤ
  timestampNs : ℤ
  batchId : String
  sourceSeq : ℤ
  nativeTier : ℤ
  nativeTierIdx : ℤ
  nativeProtect : Bool
  effectiveProtect : Bool
  specialNativeProtect : Bool
  action : ParpTierAction
  mode : Mode
  rawTraceLostFlag : Bool := false
  folioNrPages : ℤ
  rest : α
  deriving DecidableEq

structure Access (α : Type) where
  experimentId : String
  sessionId : String
  folioCookie : String
  folioLifetimeEpoch : ℤ
  timestampNs : ℤ
  accessSource : AccessSource
  rest : α
  deriving DecidableEq

structure Telemetry (α : Type) where
  experimentId : String
  sessionId : String
  mode : Mode
  rest : α
  deriving DecidableEq

/-- A record by its `event_kind`. -/
inductive Record (α : Type)
  | candidate (c : Candidate α)
  | access (a : Access α)
  | telemetry (t : Telemetry α)
  | other (kind : String)
  deriving DecidableEq

structure Measurement where
  measured : Bool
  before : Option ℤ
  after : Option ℤ
  delta : Option ℤ
  deriving DecidableEq

structure Session where
  experimentId : String
  sessionId : String
  app : String
  workload : String
  mode : Mode
  pressureLevel : String
  startNs : ℤ
  observationEndNs : ℤ
  tierGateCounter : Measurement
  traceLoss : Measurement
  split : Option Split := none
  deriving DecidableEq

inductive ContractError
  | contract (message : String)
  | unsupportedKind (kind : String)
  | noCandidates | duplicateCandidate | candidateSession | telemetrySession | telemetryMode
  | unmeasuredNotNull | measuredMissing | deltaMismatch | tooManyCandidates
  | outsideObservation | candidateMode | actionQuadrant | unsafeDowngrade | accessNotAfter
  deriving DecidableEq

/-- The checks of `contracts.py` that look at one record. -/
structure Contract (α : Type) where
  validateCandidate : Candidate α → Except ContractError Unit
  validateAccess : Access α → Except ContractError Unit
  validateTelemetry : Telemetry α → Except ContractError Unit

variable {α : Type}

def Candidate.sessionKey (c : Candidate α) : SessionKey := (c.experimentId, c.sessionId)

def Candidate.folioKey (c : Candidate α) : FolioKey :=
  ⟨c.experimentId, c.sessionId, c.folioCookie, c.folioLifetimeEpoch⟩

def Access.folioKey (a : Access α) : FolioKey :=
  ⟨a.experimentId, a.sessionId, a.folioCookie, a.folioLifetimeEpoch⟩

def Telemetry.sessionKey (t : Telemetry α) : SessionKey := (t.experimentId, t.sessionId)

end

inductive IncompleteReason
  | gateNotMeasured | countMismatch | lossNotMeasured | lostNonzero | lossDeltaNonzero | sequenceGap
  deriving DecidableEq

structure Coverage where
  candidateRecords : ℤ
  tierGateCounterMeasured : Bool
  tierGateCounterDelta : Option ℤ
  traceLostMeasured : Bool
  traceLost : Option ℤ
  traceLossBefore : Option ℤ
  traceLossAfter : Option ℤ
  traceLossDelta : Option ℤ
  traceLossDeltaZero : Bool
  traceSequenceGapDetected : Bool
  complete : Bool
  incompleteReasons : List IncompleteReason
  deriving DecidableEq

/-- `_measurement_delta`. -/
def measurementDelta (m : Measurement) :
    Except ContractError (Option ℤ × Option ℤ × Option ℤ) :=
  if m.measured = false then
    if m.before.isSome ∨ m.after.isSome ∨ m.delta.isSome then .error .unmeasuredNotNull
    else .ok (none, none, none)
  else
    match m.before, m.after, m.delta with
    | some before, some after, some delta =>
      if after - before < 0 ∨ after - before ≠ delta then .error .deltaMismatch
      else .ok (some before, some after, some (after - before))
    | _, _, _ => .error .measuredMissing

/-- `_coverage`. -/
def coverage (session : Session) (collected : ℤ) (traceSequenceGap : Bool) :
    Except ContractError Coverage := do
  let gate := session.tierGateCounter
  let traceLost := session.traceLoss.delta
  let lossMeasured := session.traceLoss.measured
  let (traceBefore, traceAfter, traceDelta) ← measurementDelta session.traceLoss
  if gate.measured ∧ ∃ delta ∈ gate.delta, collected > delta then throw .tooManyCandidates
  let traceDeltaZero := lossMeasured && decide (traceDelta = some 0)
  return {
    candidateRecords := collected
    tierGateCounterMeasured := gate.measured
    tierGateCounterDelta := gate.delta
    traceLostMeasured := lossMeasured
    traceLost := traceLost
    traceLossBefore := traceBefore
    traceLossAfter := traceAfter
    traceLossDelta := traceDelta
    traceLossDeltaZero := traceDeltaZero
    traceSequenceGapDetected := traceSequenceGap
    complete := gate.measured && lossMeasured && traceDeltaZero && decide (traceLost = some 0) &&
      decide (gate.delta = some collected) && !traceSequenceGap
    incompleteReasons :=
      (if gate.measured = false then [.gateNotMeasured]
        else if gate.delta ≠ some collected then [.countMismatch] else []) ++
      (if lossMeasured = false then [.lossNotMeasured]
        else if traceLost.getD 0 ≠ 0 then [.lostNonzero] else []) ++
      (if lossMeasured ∧ traceDeltaZero = false then [.lossDeltaNonzero] else []) ++
      (if traceSequenceGap then [.sequenceGap] else []) }

inductive LabelName
  | reuseWithin100ms | reuseWithin500ms | reuseWithin1s | reuseWithin5s
  deriving DecidableEq

/-- `LABEL_WINDOWS_NS`. -/
def labelWindowsNs : List (LabelName × ℤ) :=
  [(.reuseWithin100ms, 100000000), (.reuseWithin500ms, 500000000), (.reuseWithin1s, 1000000000),
    (.reuseWithin5s, 5000000000)]

def rankingHorizonNs : ℤ := 5000000000
def defaultRankingTieMarginNs : ℤ := 10000000

structure RankingTarget where
  nextReuseDelayNs : Option ℤ
  observedWithinHorizon : Bool
  censoredBySessionEnd : Bool
  horizonNs : ℤ := rankingHorizonNs
  tieMarginNs : ℤ := defaultRankingTieMarginNs
  deriving DecidableEq

/-- `_next_access`, on the sorted points of the candidate's folio. -/
def nextAccess (points : List AccessPoint) (candidateNs observationEndNs : ℤ) :
    Option AccessPoint :=
  (points[bisectRight (points.map Prod.fst) candidateNs]?).filter
    fun point => decide (point.1 ≤ observationEndNs)

def labelOf (candidateNs observationEndNs : ℤ) (delay : Option ℤ) (windowNs : ℤ) : Option Bool :=
  if ∃ d ∈ delay, d ≤ windowNs then some true
  else if candidateNs + windowNs ≤ observationEndNs then some false
  else none

/-- `_future_labels`. -/
def futureLabels (candidateNs observationEndNs : ℤ) (access : Option AccessPoint) :
    Except ContractError (List (LabelName × Option Bool) × Option ℤ × Option AccessSource) :=
  let delay := access.map fun point => point.1 - candidateNs
  if ∃ d ∈ delay, d ≤ 0 then .error .accessNotAfter
  else
    .ok (labelWindowsNs.map fun window =>
        (window.1, labelOf candidateNs observationEndNs delay window.2),
      delay, access.map Prod.snd)

/-- `_ranking_target`. -/
def rankingTarget (candidateNs observationEndNs : ℤ) (access : Option AccessPoint) :
    RankingTarget :=
  let delay := access.map fun point => point.1 - candidateNs
  let observed := decide (∃ d ∈ delay, d ≤ rankingHorizonNs)
  let fullHorizon := decide (candidateNs + rankingHorizonNs ≤ observationEndNs)
  { nextReuseDelayNs := if observed then delay else none
    observedWithinHorizon := observed
    censoredBySessionEnd := !observed && !fullHorizon }

section

variable {α : Type}

/-- `quadrant`, as the action of that name. -/
def quadrant (nativeProtect effectiveProtect specialNativeProtect : Bool) : ParpTierAction :=
  let nativeActual := nativeProtect || specialNativeProtect
  let effectiveActual := effectiveProtect || specialNativeProtect
  if nativeActual = false ∧ effectiveActual = false then .keepReclaim
  else if nativeActual = false ∧ effectiveActual then .predictiveUpgrade
  else if nativeActual ∧ effectiveActual then .keepProtect
  else .predictiveDowngrade

/-- What the loop over the records fills; `accesses` is the `defaultdict`. -/
structure Collected (α : Type) where
  candidates : List (Candidate α) := []
  telemetry : List (Telemetry α) := []
  accesses : FolioKey → List AccessPoint := fun _ => []
  accessCount : ℕ := 0

def Collected.addAccess (s : Collected α) (a : Access α) : Collected α :=
  { s with
    accesses := Function.update s.accesses a.folioKey
      (s.accesses a.folioKey ++ [(a.timestampNs, a.accessSource)])
    accessCount := s.accessCount + 1 }

def collect (contract : Contract α) (s : Collected α) :
    Record α → Except ContractError (Collected α)
  | .candidate c => do
      contract.validateCandidate c
      return { s with candidates := s.candidates ++ [c] }
  | .access a => do
      contract.validateAccess a
      return s.addAccess a
  | .telemetry t => do
      contract.validateTelemetry t
      return { s with telemetry := s.telemetry ++ [t] }
  | .other kind => throw (.unsupportedKind kind)

def Candidate.identity (c : Candidate α) : SessionKey × FolioKey × ℤ × String :=
  (c.sessionKey, c.folioKey, c.timestampNs, c.batchId)

/-- `candidates` are sorted by session, time and source sequence. -/
def Candidate.sortKey (c : Candidate α) : (String ×ₗ String) ×ₗ (ℤ ×ₗ ℤ) :=
  toLex (toLex (c.experimentId, c.sessionId), toLex (c.timestampNs, c.sourceSeq))

def sortedCandidates (candidates : List (Candidate α)) : List (Candidate α) :=
  candidates.insertionSort fun c d => c.sortKey ≤ d.sortKey

def sortedPoints (points : List AccessPoint) : List AccessPoint :=
  points.insertionSort fun p q => p.1 ≤ q.1

def judge (c : Candidate α) (session : Session) : Except ContractError Unit :=
  let classified := quadrant c.nativeProtect c.effectiveProtect c.specialNativeProtect
  if c.timestampNs < session.startNs ∨ session.observationEndNs < c.timestampNs then
    .error .outsideObservation
  else if c.mode ≠ session.mode then .error .candidateMode
  else if c.action ≠ classified ∧ ¬ (c.action = .specialNativeProtect ∧ c.specialNativeProtect ∧
      classified = .keepProtect) then .error .actionQuadrant
  else if classified = .predictiveDowngrade ∧
      (c.specialNativeProtect ∨ c.nativeTier ≠ c.nativeTierIdx + 1) then .error .unsafeDowngrade
  else .ok ()

/-- A labelled row; of its session's coverage the source copies seven fields. -/
structure Row (α : Type) where
  candidate : Candidate α
  quadrant : ParpTierAction
  split : Split
  app : String
  workload : String
  mode : Mode
  pressureLevel : String
  labels : List (LabelName × Option Bool)
  nextRealAccessDelayNs : Option ℤ
  nextRealAccessSource : Option AccessSource
  coverage : Coverage
  ranking : RankingTarget
  deriving DecidableEq

/-- The pages of the rows whose label is known, is true, or is censored. -/
structure LabelCount where
  knownBasePages : ℤ
  positiveBasePages : ℤ
  censoredBasePages : ℤ
  deriving DecidableEq

structure Dataset (α : Type) where
  labeled : List (Row α)
  telemetry : List (Telemetry α)
  realAccessEvents : ℕ
  labelCounts : List (LabelName × LabelCount)
  deriving DecidableEq

def labelCandidate (assignSessionSplit : String → String → Split)
    (accesses : FolioKey → List AccessPoint) (sessions : Dict SessionKey Session)
    (coverages : List (SessionKey × Coverage)) (c : Candidate α) :
    Except ContractError (Row α) := do
  let session ← (sessions.get? c.sessionKey).elim (throw .candidateSession) pure
  judge c session
  let access := nextAccess (sortedPoints (accesses c.folioKey)) c.timestampNs
    session.observationEndNs
  let (labels, delay, source) ← futureLabels c.timestampNs session.observationEndNs access
  let coverage ← ((coverages.find? fun e => e.1 = c.sessionKey).map Prod.snd).elim
    (throw .candidateSession) pure
  return {
    candidate := c
    quadrant := quadrant c.nativeProtect c.effectiveProtect c.specialNativeProtect
    split := session.split.getD (assignSessionSplit session.experimentId session.sessionId)
    app := session.app
    workload := session.workload
    mode := session.mode
    pressureLevel := session.pressureLevel
    labels := labels
    nextRealAccessDelayNs := delay
    nextRealAccessSource := source
    coverage := coverage
    ranking := rankingTarget c.timestampNs session.observationEndNs access }

def pagesWith (rows : List (Row α)) (name : LabelName) (p : Option Bool → Bool) : ℤ :=
  ((rows.filter fun row => (row.labels.find? fun label => label.1 = name).any
    fun label => p label.2).map fun row => row.candidate.folioNrPages).sum

def labelCounts (rows : List (Row α)) : List (LabelName × LabelCount) :=
  labelWindowsNs.map fun window =>
    (window.1,
      { knownBasePages := pagesWith rows window.1 Option.isSome
        positiveBasePages := pagesWith rows window.1 (· == some true)
        censoredBasePages := pagesWith rows window.1 Option.isNone })

def checkTelemetry (sessions : Dict SessionKey Session) (t : Telemetry α) :
    Except ContractError Unit :=
  match sessions.get? t.sessionKey with
  | none => .error .telemetrySession
  | some session => if t.mode ≠ session.mode then .error .telemetryMode else .ok ()

def candidateCount (candidates : List (Candidate α)) (key : SessionKey) : ℕ :=
  (candidates.filter fun c => c.sessionKey = key).length

def traceGap (candidates : List (Candidate α)) (key : SessionKey) : Bool :=
  candidates.any fun c => c.rawTraceLostFlag && decide (c.sessionKey = key)

def coverageTable (sessions : Dict SessionKey Session) (candidates : List (Candidate α)) :
    Except ContractError (List (SessionKey × Coverage)) :=
  sessions.items.mapM fun e => do
    let coverage ← coverage e.2 (candidateCount candidates e.1) (traceGap candidates e.1)
    return (e.1, coverage)

def buildDataset (contract : Contract α) (assignSessionSplit : String → String → Split)
    (records : List (Record α)) (sessions : Dict SessionKey Session) :
    Except ContractError (Dataset α) := do
  let found ← records.foldlM (collect contract) {}
  if found.candidates = [] then throw .noCandidates
  if ¬ (found.candidates.map Candidate.identity).Nodup then throw .duplicateCandidate
  if ∃ c ∈ found.candidates, sessions.get? c.sessionKey = none then throw .candidateSession
  found.telemetry.forM (checkTelemetry sessions)
  let coverages ← coverageTable sessions found.candidates
  let labeled ← (sortedCandidates found.candidates).mapM
    (labelCandidate assignSessionSplit found.accesses sessions coverages)
  return {
    labeled := labeled
    telemetry := found.telemetry
    realAccessEvents := found.accessCount
    labelCounts := labelCounts labeled }

end

end Parp.DatasetLabels
