import Mathlib.Data.Prod.Lex
import Parp.FileSegments
import Parp.RowTables

set_option autoImplicit false

/-!
# The dataset build

`real_pipeline.py` of `tools/parp/intra_app_prediction`: the accepted sessions are decoded into tables
one after another, and a checkpoint says which are done. Ratios are rationals.
-/
namespace Parp.DatasetBuild

open OrderedDict RowTables FileSegments

/-- The keys of `ACCEPTED_SESSIONS`. -/
inductive Session
  | wps01 | wps02 | wps03 | files01 | files02
  deriving DecidableEq

def sessionOrder : List Session := [.wps01, .wps02, .wps03, .files01, .files02]

def windowNs : ℤ := 10000000000

def resolutions : List ℤ := [10, 100, 1000]

def expectedRelease : String := "6.17.13-parp-v4-phase27-page-segment+"
def expectedBootId : String := "e095e591-a332-49d2-ba74-6da6e8861a33"
def runtimeSource : String := "RUNTIME_PHASE27B_REAL_FRESH"

structure Metadata where
  bootId : String
  kernelRelease : String
  source : String
  traceLost : ℤ
  applyCountBefore : ℤ
  applyCountAfter : ℤ
  appId : ℤ
  domainId : ℤ
  collectionStartNs : ℤ
  collectionEndNs : ℤ
  fileRegions : ℤ
  anonRegions : ℤ

/-- Device numbers, inode and version. -/
abbrev Identity := ℤ × ℤ × ℤ × ℤ

structure RawEvent where
  eventTime : ℤ
  collectionTime : ℤ
  sampleId : ℤ
  pid : ℤ
  domainId : ℤ
  foregroundEpoch : ℤ
  mmCookie : String
  regionType : String
  alignment : ℤ
  regionStart : ℤ
  regionEnd : ℤ
  logicalStart : ℤ
  nrPages : ℤ
  identity : Identity
  fileSize : ℤ
  filePages : ℤ
  sampleUs : ℤ
  aggregationUs : ℤ
  nrAccesses : ℤ
  age : ℤ

structure OperationEvent where
  operationId : String
  operationType : String
  startNs : ℤ
  endNs : ℤ
  source : String
  confidence : ℚ

/-- What the collector left. `none` is an evidence line that cannot be decoded; `stable_id` of a file and
of a window may be any functions. -/
structure Source where
  manifestHash : String
  metadata : Session → Metadata
  trace : Session → List (Option RawEvent)
  operations : Session → List OperationEvent
  stableFileId : Identity → String
  stableWindowId : String → Session → ℤ → String

def trusted (m : Metadata) : Bool :=
  m.bootId = expectedBootId && m.kernelRelease = expectedRelease && m.source = runtimeSource &&
    m.traceLost = 0 && m.applyCountAfter = m.applyCountBefore

structure WindowRow where
  session : Session
  windowIndex : ℕ
  appId : ℤ
  domainId : ℤ
  bootId : String
  windowStart : ℤ
  windowEnd : ℤ
  partialStart : Bool
  partialEnd : Bool
  isComplete : Bool
  foregroundEpoch : ℤ := 0
  fileCount : ℕ := 0
  activeFileCount : ℕ := 0
  active : List ℕ := [0, 0, 0]
  fileEvents : ℕ := 0
  anonEvents : ℕ := 0

inductive ObservationState
  | notObserved | observedInactive | observedActive
  deriving DecidableEq

structure SegmentKey where
  resolution : ℤ
  session : Session
  windowIndex : ℕ
  fileId : String
  partitionGeneration : ℕ
  segmentId : ℤ
  deriving DecidableEq

structure SegmentRow where
  windowId : String
  spec : SegmentSpec
  summary : CoverageSummary
  lastSeen : ℤ
  sampleCount : ℕ
  observationState : ObservationState
  negativeCandidateCount : ℕ
  notObservedCount : ℕ
  inactiveCount : ℕ
  activeCount : ℕ

structure FileRow where
  identity : Identity
  fileSize : ℤ
  filePages : ℤ
  firstSeen : ℤ
  lastSeen : ℤ
  maxGeneration : ℕ
  fileClass : String

structure PartitionRow where
  filePages : ℤ
  fileSize : ℤ
  firstSeen : ℤ
  lastSeen : ℤ

structure AnonKey where
  session : Session
  windowIndex : ℕ
  domainId : ℤ
  foregroundEpoch : ℤ
  mmCookie : String
  deriving DecidableEq

/-- What `_anon_sweep` sums up. -/
structure AnonSummary where
  total : ℤ := 0
  hot : ℤ := 0
  warm : ℤ := 0
  cold : ℤ := 0
  weightedRatio : ℚ := 0
  meanAge : ℚ := 0
  maxAge : ℤ := 0
  activeRegions : ℕ := 0
  regions : ℕ := 0

structure AnonRow where
  windowId : String
  resolved : AnonSummary
  maxAccess : ℚ
  workingSetDelta : ℤ
  recentlyActiveRatio : ℚ
  coolingRatio : ℚ
  unresolvedBytes : ℤ
  unresolvedRatio : ℚ

structure OperationRow where
  appId : ℤ
  operationType : String
  startNs : ℤ
  endNs : ℤ
  source : String
  confidence : ℚ

/-- `UNIQUE(session,sample_id,pid,region_type,region_start,region_end)` -/
structure RawKey where
  session : Session
  sampleId : ℤ
  pid : ℤ
  regionType : String
  regionStart : ℤ
  regionEnd : ℤ
  deriving DecidableEq

structure FileIndex where
  files : Dict String FileRow := ∅
  partitionHistory : Dict (String × ℕ) PartitionRow := ∅

structure Tables where
  rawEvents : Dict RawKey RawEvent := ∅
  windows : Dict String WindowRow := ∅
  segments : Dict SegmentKey SegmentRow := ∅
  index : FileIndex := {}
  fileSeen : Dict (String × Session × ℤ) Unit := ∅
  anon : Dict AnonKey AnonRow := ∅
  operations : Dict (String × Session) OperationRow := ∅

section

/-- `_reset_session` -/
def Tables.resetSession (t : Tables) (s : Session) : Tables :=
  { t with
    rawEvents := t.rawEvents.filter fun e => e.1.session ≠ s
    segments := t.segments.filter fun e => e.1.session ≠ s
    anon := t.anon.filter fun e => e.1.session ≠ s
    operations := t.operations.filter fun e => e.1.2 ≠ s
    windows := t.windows.filter fun e => e.2.session ≠ s
    fileSeen := t.fileSeen.filter fun e => e.1.2.1 ≠ s }

variable (src : Source) (s : Session)

/-- `range(first, last + 1, WINDOW_NS)` -/
def windowStarts (m : Metadata) : List ℤ :=
  let first := m.collectionStartNs / windowNs * windowNs
  let last := (m.collectionEndNs - 1) / windowNs * windowNs
  (List.range ((last - first) / windowNs + 1).toNat).map fun (i : ℕ) => first + i * windowNs

def windowRows : List (String × WindowRow) :=
  let m := src.metadata s
  (windowStarts m).zipIdx.map fun (start, index) =>
    let stop := start + windowNs
    (src.stableWindowId m.bootId s start,
      { session := s
        windowIndex := index
        appId := m.appId
        domainId := m.domainId
        bootId := m.bootId
        windowStart := start
        windowEnd := stop
        partialStart := start < m.collectionStartNs
        partialEnd := m.collectionEndNs < stop
        isComplete := m.collectionStartNs ≤ start && stop ≤ m.collectionEndNs })

/-- `_create_windows` -/
def Tables.createWindows (t : Tables) : Tables :=
  { t with windows := replaceAll t.windows (windowRows src s) }

def operationRows : List ((String × Session) × OperationRow) :=
  (src.operations s).map fun e => ((e.operationId, s),
    ⟨(src.metadata s).appId, e.operationType, e.startNs, e.endNs, e.source, e.confidence⟩)

/-- `_load_operations` -/
def Tables.loadOperations (t : Tables) : Tables :=
  { t with operations := replaceAll t.operations (operationRows src s) }

def RawEvent.key (r : RawEvent) : RawKey :=
  ⟨s, r.sampleId, r.pid, r.regionType, r.regionStart, r.regionEnd⟩

def rawRows : List (RawKey × RawEvent) := ((src.trace s).filterMap id).map fun r => (r.key s, r)

structure Audit where
  parpInputLines : ℕ
  decoded : ℕ
  parseFailures : ℕ
  fileRecords : ℕ
  anonRecords : ℕ
  criticalSchemaValid : Bool
  summaryCountMatch : Bool

/-- The rows that `_decode_session` writes. -/
def Tables.decodeRows (t : Tables) : Tables :=
  { t with rawEvents := ignoreAll t.rawEvents (rawRows src s) }

/-- The audit of `_decode_session`. -/
def auditOf : Audit :=
  let lines := src.trace s
  let rows := lines.filterMap id
  let failures := lines.length - rows.length
  let fileRecords := (rows.filter fun r => r.regionType = "FILE").length
  let anonRecords := rows.length - fileRecords
  { parpInputLines := lines.length
    decoded := rows.length
    parseFailures := failures
    fileRecords := fileRecords
    anonRecords := anonRecords
    criticalSchemaValid := Float.ofNat failures / Float.ofNat (max 1 lines.length) ≤ 0.001
    summaryCountMatch :=
      (fileRecords : ℤ) = (src.metadata s).fileRegions && (anonRecords : ℤ) = (src.metadata s).anonRegions }

end

/-- The generation, pages and size that each file had last in the window. -/
abbrev Cache := Dict String (ℕ × ℤ × ℤ)

/-- `ORDER BY generation DESC LIMIT 1` -/
def latest (history : Dict (String × ℕ) PartitionRow) (fileId : String) : Option (ℕ × PartitionRow) :=
  ((history.items.filter fun e => e.1.1 = fileId).argmax fun e => e.1.2).map fun e => (e.1.2, e.2)

def previousOf (history : Dict (String × ℕ) PartitionRow) (cache : Cache) (fileId : String) :
    Option (ℕ × ℤ × ℤ) :=
  match cache.get? fileId with
  | some previous => some previous
  | none => (latest history fileId).map fun (generation, row) => (generation, row.filePages, row.fileSize)

def generationOf (previous : Option (ℕ × ℤ × ℤ)) (pages size : ℤ) : ℕ :=
  match previous with
  | none => 1
  | some (generation, previousPages, previousSize) =>
    if (previousPages, previousSize) = (pages, size) then generation else generation + 1

/-- `last_seen=max(last_seen,excluded.last_seen)` -/
def PartitionRow.seenAgain (old new : PartitionRow) : PartitionRow :=
  { old with lastSeen := max old.lastSeen new.lastSeen }

/-- `_partition`: the generation, the cache and the history. -/
def partition (history : Dict (String × ℕ) PartitionRow) (cache : Cache) (fileId : String)
    (pages size timestamp : ℤ) : ℕ × Cache × Dict (String × ℕ) PartitionRow :=
  let generation := generationOf (previousOf history cache fileId) pages size
  (generation, cache.set fileId (generation, pages, size),
    upsert history (fileId, generation) ⟨pages, size, timestamp, timestamp⟩ PartitionRow.seenAgain)

def fileClass (pages : ℤ) : String :=
  if pages < 100 then "SMALL_FILE" else if pages < 10000 then "MEDIUM_FILE" else "LARGE_FILE"

/-- `ON CONFLICT(file_id) DO UPDATE` -/
def FileRow.seenAgain (old new : FileRow) : FileRow :=
  { old with
    fileSize := new.fileSize
    filePages := new.filePages
    firstSeen := min old.firstSeen new.firstSeen
    lastSeen := max old.lastSeen new.lastSeen
    maxGeneration := max old.maxGeneration new.maxGeneration }

/-- The part of `_file_upsert` that writes `files`. -/
def fileUpsert (files : Dict String FileRow) (fileId : String) (identity : Identity)
    (pages size timestamp : ℤ) (generation : ℕ) : Dict String FileRow :=
  upsert files fileId ⟨identity, size, pages, timestamp, timestamp, generation, fileClass pages⟩
    FileRow.seenAgain

section

structure Item where
  interval : IntervalEvidence
  timestamp : ℤ
  sampleId : ℤ

def RawEvent.accepted (r : RawEvent) : Bool :=
  r.alignment = 1 && 0 ≤ r.identity.1 && 0 ≤ r.identity.2.1 && 0 ≤ r.identity.2.2.1 &&
    0 ≤ r.identity.2.2.2 && 0 < r.filePages && 0 ≤ r.fileSize && 0 ≤ r.logicalStart &&
    r.logicalStart + r.nrPages ≤ r.filePages

def RawEvent.ratio (r : RawEvent) : ℚ :=
  let maximum := max 1 ((r.aggregationUs + r.sampleUs - 1) / max 1 r.sampleUs)
  min 1 (max 0 ((r.nrAccesses : ℚ) / maximum))

structure Flush where
  index : FileIndex
  fileSeen : Dict (String × Session × ℤ) Unit
  cache : Cache := ∅
  fileGroups : Dict (String × ℕ × ℤ) (List Item) := ∅
  foregroundEpochs : List ℤ := []

variable (src : Source) (s : Session)

def addFileEvent (acc : Flush) (r : RawEvent) : Except SegmentError Flush :=
  if r.accepted = false then .ok acc
  else
    let fileId := src.stableFileId r.identity
    let (generation, cache, history) :=
      partition acc.index.partitionHistory acc.cache fileId r.filePages r.fileSize r.eventTime
    let files :=
      fileUpsert acc.index.files fileId r.identity r.filePages r.fileSize r.eventTime generation
    (intervalEvidence r.logicalStart (r.logicalStart + r.nrPages) r.ratio r.age).map fun interval =>
      let key := (fileId, generation, r.filePages)
      { index := ⟨files, history⟩
        fileSeen := insertOrIgnore acc.fileSeen ((fileId, s, r.domainId), ())
        cache := cache
        fileGroups := acc.fileGroups.set key
          ((acc.fileGroups.get? key).getD [] ++ [⟨interval, r.eventTime, r.sampleId⟩])
        foregroundEpochs := acc.foregroundEpochs ++ [r.foregroundEpoch] }

/-- One resolution of `_segment_file`: the rows, and how many segments are active. -/
def segmentResolution (windowIndex : ℕ) (windowId fileId : String) (generation : ℕ) (pages : ℤ)
    (items : List Item) (resolution : ℤ) : Except SegmentError (List (SegmentKey × SegmentRow) × ℕ) := do
  let specs ← allSegments pages resolution generation
  let spans ← items.mapM fun item => do
    let first ← pageToSegment item.interval.startPage pages resolution generation
    let last ← pageToSegment (item.interval.endPageExclusive - 1) pages resolution generation
    return (first.segmentId, last.segmentId, item)
  let prepared ← specs.mapM fun spec => do
    let within := (spans.filter fun (first, last, _) =>
      first ≤ spec.segmentId ∧ spec.segmentId ≤ last).map fun span => span.2.2
    let summary ← coverageSummary spec.startPage spec.endPageExclusive (within.map Item.interval)
    let state : ObservationState :=
      if summary.observedUniquePages = 0 then .notObserved
      else if 0 < summary.accessedUniquePages then .observedActive else .observedInactive
    return (spec, summary, state, ((within.map Item.timestamp).max?).getD 0,
      (within.map Item.sampleId).dedup.length)
  let count (state : ObservationState) : ℕ := prepared.countP fun p => p.2.2.1 = state
  let rows := (prepared.filter fun p => ¬ (resolution = 1000 ∧ p.2.2.1 = .notObserved)).map
    fun (spec, summary, state, lastSeen, sampleCount) =>
      ((⟨resolution, s, windowIndex, fileId, generation, spec.segmentId⟩ : SegmentKey),
        (⟨windowId, spec, summary, lastSeen, sampleCount, state, count .notObserved, count .notObserved,
          count .observedInactive, count .observedActive⟩ : SegmentRow))
  return (rows, count .observedActive)

/-- `_segment_file` -/
def segmentFile (windowIndex : ℕ) (windowId : String) (group : (String × ℕ × ℤ) × List Item) :
    Except SegmentError (List (List (SegmentKey × SegmentRow) × ℕ)) :=
  resolutions.mapM
    (segmentResolution s windowIndex windowId group.1.1 group.1.2.1 group.1.2.2 group.2)

/-- The state of the loop of `_anon_sweep`. -/
structure AnonSweep where
  active : List ℕ := []
  previous : Option ℤ := none
  total : ℤ := 0
  hot : ℤ := 0
  warm : ℤ := 0
  cold : ℤ := 0
  weighted : ℚ := 0
  ageWeighted : ℚ := 0
  maxAge : ℤ := 0

/-- Start, end, active ratio and age. -/
abbrev AnonRegion := ℤ × ℤ × ℚ × ℤ

def chosenOf (values : List (ℕ × ℚ × ℤ)) (active : List ℕ) : Option (ℚ × ℤ) :=
  ((values.filter fun v => v.1 ∈ active).argmax fun v => v.2.1).map Prod.snd

def anonTurn (values : List (ℕ × ℚ × ℤ)) (w : AnonSweep) (point : ℤ × ℤ × ℕ) : AnonSweep :=
  let (position, kind, region) := point
  let swept := match w.previous, chosenOf values w.active with
    | some previous, some (ratio, age) =>
      if previous < position then
        let length := position - previous
        { w with
          total := w.total + length
          weighted := w.weighted + length * ratio
          ageWeighted := w.ageWeighted + length * age
          maxAge := max w.maxAge age
          hot := if 1 / 2 ≤ ratio then w.hot + length else w.hot
          warm := if ¬ 1 / 2 ≤ ratio ∧ 0 < ratio then w.warm + length else w.warm
          cold := if ¬ 0 < ratio then w.cold + length else w.cold }
      else w
    | _, _ => w
  { swept with
    active := if kind = -1 then swept.active.filter (· ≠ region) else swept.active ++ [region]
    previous := some position }

/-- `_anon_sweep` -/
def anonSweep (rows : List AnonRegion) : AnonSummary :=
  let kept := rows.zipIdx.filter fun (row, _) => row.1 < row.2.1
  let values := kept.map fun (row, i) => (i, row.2.2.1, row.2.2.2)
  let points := (kept.flatMap fun (row, i) => [(row.1, (1 : ℤ), i), (row.2.1, (-1 : ℤ), i)]).insertionSort
    fun a b => a.1 < b.1 ∨ (a.1 = b.1 ∧ a.2.1 ≤ b.2.1)
  let w := points.foldl (anonTurn values) {}
  { total := w.total
    hot := w.hot
    warm := w.warm
    cold := w.cold
    weightedRatio := if w.total = 0 then 0 else w.weighted / w.total
    meanAge := if w.total = 0 then 0 else w.ageWeighted / w.total
    maxAge := w.maxAge
    activeRegions := values.countP fun v => 0 < v.2.1
    regions := values.length }

def anonRows (windowIndex : ℕ) (windowId : String) (events : List RawEvent) :
    List (AnonKey × AnonRow) :=
  let keyOf (r : RawEvent) : AnonKey := ⟨s, windowIndex, r.domainId, r.foregroundEpoch, r.mmCookie⟩
  let region (r : RawEvent) : AnonRegion := (r.regionStart, r.regionEnd, r.ratio, r.age)
  ((events.map keyOf).dedup).map fun key =>
    let group := events.filter fun r => keyOf r = key
    let resolved := anonSweep ((group.filter fun r => r.alignment = 1).map region)
    let unresolved := (anonSweep ((group.filter fun r => r.alignment ≠ 1).map region)).total
    let total := resolved.total
    (key,
      { windowId := windowId
        resolved := resolved
        maxAccess := if resolved.hot = 0 then resolved.weightedRatio else 1
        workingSetDelta := resolved.hot - resolved.cold
        recentlyActiveRatio := if total = 0 then 0 else ((resolved.hot + resolved.warm : ℤ) : ℚ) / total
        coolingRatio := if total = 0 then 0 else (resolved.cold : ℚ) / total
        unresolvedBytes := unresolved
        unresolvedRatio :=
          if total + unresolved = 0 then 0 else (unresolved : ℚ) / (total + unresolved : ℤ) })

/-- `most_common(1)` -/
def mostCommon (epochs : List ℤ) : ℤ :=
  let counts := epochs.foldl (fun d e => d.set e ((d.get? e).getD 0 + 1)) (∅ : Dict ℤ ℕ)
  ((counts.items.argmax Prod.snd).map Prod.fst).getD 0

structure Pending where
  start : ℤ
  fileEvents : List RawEvent := []
  anonEvents : List RawEvent := []

def Pending.add (w : Pending) (r : RawEvent) : Pending :=
  if r.regionType = "FILE" then { w with fileEvents := w.fileEvents ++ [r] }
  else { w with anonEvents := w.anonEvents ++ [r] }

/-- Index and id of the window that starts at a time. -/
abbrev Lookup := Dict ℤ (ℕ × String)

/-- `_flush_window` of the window that `window_lookup` finds. -/
def flushWindow (lookup : Lookup) (t : Tables) (w : Pending) : Except SegmentError Tables :=
  match lookup.get? w.start with
  | none => .ok t
  | some (windowIndex, windowId) => do
      let acc ← w.fileEvents.foldlM (addFileEvent src s) { index := t.index, fileSeen := t.fileSeen }
      let segmented ← acc.fileGroups.items.mapM (segmentFile s windowIndex windowId)
      let activeAt (i : ℕ) : ℕ := (segmented.map fun rs => ((rs.map Prod.snd)[i]?).getD 0).sum
      let activeFiles := acc.fileGroups.items.countP fun group =>
        group.2.any fun item => 0 < item.interval.activeRatio
      return { t with
        index := acc.index
        fileSeen := acc.fileSeen
        segments := replaceAll t.segments (segmented.flatMap fun rs => rs.flatMap Prod.fst)
        anon := replaceAll t.anon (anonRows s windowIndex windowId w.anonEvents)
        windows := update t.windows windowId fun row =>
          { row with
            foregroundEpoch :=
              mostCommon (acc.foregroundEpochs ++ w.anonEvents.map RawEvent.foregroundEpoch)
            fileCount := acc.fileGroups.items.length
            activeFileCount := activeFiles
            active := [activeAt 0, activeAt 1, activeAt 2]
            fileEvents := w.fileEvents.length
            anonEvents := w.anonEvents.length } }

end

section

structure SessionResult where
  windows : ℕ
  completeWindows : ℕ
  segments : List ℕ
  decoded : ℕ := 0
  fileRecords : ℕ := 0
  anonRecords : ℕ := 0

variable (src : Source) (s : Session)

/-- `SELECT * FROM windows WHERE session=? ORDER BY window_index` -/
def Tables.windowsOf (t : Tables) : List (String × WindowRow) :=
  (t.windows.items.filter fun e => e.2.session = s).insertionSort fun a b =>
    a.2.windowIndex ≤ b.2.windowIndex

def lookupOf (rows : List (String × WindowRow)) : Lookup :=
  rows.foldl (fun d row => d.set row.2.windowStart (row.2.windowIndex, row.1)) ∅

/-- `ORDER BY event_time,collection_time,sample_id,pid,region_start` -/
def RawEvent.sortKey (r : RawEvent) : ℤ ×ₗ ℤ ×ₗ ℤ ×ₗ ℤ ×ₗ ℤ :=
  toLex (r.eventTime, toLex (r.collectionTime, toLex (r.sampleId, toLex (r.pid, r.regionStart))))

def Tables.eventsOf (t : Tables) : List RawEvent :=
  ((t.rawEvents.items.filter fun e => e.1.session = s).map Prod.snd).insertionSort fun a b =>
    a.sortKey ≤ b.sortKey

def pendingWindows (lookup : Lookup) : List RawEvent → Option Pending → List Pending
  | [], none => []
  | [], some w => [w]
  | r :: rest, current =>
    let start := r.eventTime / windowNs * windowNs
    if (lookup.get? start).isNone then pendingWindows lookup rest current
    else match current with
      | none => pendingWindows lookup rest (some (({ start := start } : Pending).add r))
      | some w =>
        if start ≠ w.start then w :: pendingWindows lookup rest (some (({ start := start } : Pending).add r))
        else pendingWindows lookup rest (some (w.add r))

/-- `_build_session`: the result and the tables as they are committed. -/
def buildSession (t : Tables) : Except SegmentError (SessionResult × Tables) := do
  let rows := t.windowsOf s
  let lookup := lookupOf rows
  let t ← (pendingWindows lookup (t.eventsOf s) none).foldlM (flushWindow src s lookup) t
  let t := { t with rawEvents := t.rawEvents.filter fun e => e.1.session ≠ s }
  return ({ windows := rows.length
            completeWindows := rows.countP fun row => row.2.isComplete
            segments := resolutions.map fun resolution =>
              t.segments.items.countP fun e => e.1.session = s ∧ e.1.resolution = resolution }, t)

end

section

structure Checkpoint where
  inputManifestHash : String
  currentSession : Option Session := none
  completedSessions : List Session := []
  sessionResults : Dict Session SessionResult := ∅
  lastSuccessfulStage : String := "INITIALIZED"

def Checkpoint.beginSession (c : Checkpoint) (s : Session) : Checkpoint :=
  { c with
    currentSession := some s
    lastSuccessfulStage := "SESSION_STARTED" }

def Checkpoint.completeSession (c : Checkpoint) (s : Session) (result : SessionResult) : Checkpoint :=
  { c with
    completedSessions :=
      if s ∈ c.completedSessions then c.completedSessions else c.completedSessions ++ [s]
    sessionResults := c.sessionResults.set s result
    currentSession := none
    lastSuccessfulStage := "SESSION_COMPLETE" }

structure Disk where
  tables : Tables := {}
  checkpoint : Option Checkpoint := none
  audits : Dict Session Audit := ∅

/-- The durable effects: a saved checkpoint, a commit or a replaced file each. -/
inductive Point
  | opened
  | begun (s : Session)
  | cleared (s : Session)
  | decoded (s : Session)
  | audited (s : Session)
  | built (s : Session)
  | completed (s : Session)
  deriving DecidableEq

variable (src : Source)

/-- One turn of the loop of `process`: what is on disk after each durable effect, and how it ends unless
an exception ends it. -/
def sessionTurn (s : Session) (c : Checkpoint) (d : Disk) :
    List (Point × Disk) × Option (Checkpoint × Disk) :=
  let c := c.beginSession s
  let begun := { d with checkpoint := some c }
  let cleared := { begun with tables := begun.tables.resetSession s }
  if trusted (src.metadata s) = false then ([(.begun s, begun), (.cleared s, cleared)], none)
  else
    let decoded := { cleared with
      tables := ((cleared.tables.createWindows src s).loadOperations src s).decodeRows src s }
    let audit := auditOf src s
    let audited := { decoded with audits := decoded.audits.set s audit }
    let loaded := [(.begun s, begun), (.cleared s, cleared), (.decoded s, decoded), (.audited s, audited)]
    if audit.criticalSchemaValid = false ∨ audit.summaryCountMatch = false then (loaded, none)
    else match buildSession src s audited.tables with
      | .error _ => (loaded, none)
      | .ok (result, tables) =>
        let built := { audited with tables := tables }
        let c := c.completeSession s { result with
          decoded := audit.decoded
          fileRecords := audit.fileRecords
          anonRecords := audit.anonRecords }
        let completed := { built with checkpoint := some c }
        (loaded ++ [(.built s, built), (.completed s, completed)], some (c, completed))

/-- The loop of `process` over the sessions. What follows it only reads the tables. -/
def processFrom : List Session → Checkpoint → Disk → List (Point × Disk) × Option Disk
  | [], _, d => ([], some d)
  | s :: rest, c, d =>
    if s ∈ c.completedSessions then
      match d.audits.get? s with
      | none => ([], none)
      | some _ => processFrom rest c d
    else match sessionTurn src s c d with
      | (points, none) => (points, none)
      | (points, some (c, d)) =>
        let (later, final) := processFrom rest c d
        (points ++ later, final)

/-- A new `RealDatasetPipeline` and its `process`. -/
def process (d : Disk) : List (Point × Disk) × Option Disk :=
  match d.checkpoint with
  | some c => if c.inputManifestHash ≠ src.manifestHash then ([], none) else processFrom src sessionOrder c d
  | none =>
    let c : Checkpoint := { inputManifestHash := src.manifestHash }
    let opened := { d with checkpoint := some c }
    let (points, final) := processFrom src sessionOrder c opened
    ((.opened, opened) :: points, final)

/-- The work directory after some crashes, each right after a durable effect of the kind `allowed`. -/
inductive Interrupted (allowed : Point → Prop) : Disk → Prop
  | fresh : Interrupted allowed {}
  | crash {d d' : Disk} {point : Point} (h : Interrupted allowed d)
      (hmem : (point, d') ∈ (process src d).1) (hallowed : allowed point) : Interrupted allowed d'

end

end Parp.DatasetBuild
