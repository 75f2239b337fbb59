import Mathlib.Data.Prod.Lex
import Mathlib.Data.String.Basic
import Parp.FileSegments
import Parp.OrderedDict

set_option autoImplicit false

/-!
# Segment labels

`DatasetBuilder.build` of `tools/parp/intra_app_prediction/dataset_builder.py` up to its segment
rows, with the partitions of `file_identity.py`, and the labels `future_labels.py` attaches to them.
-/
namespace Parp.SegmentLabels

open FileSegments OrderedDict List

/-- `stable_key` is `major:minor:inode:version`. -/
structure FileIdentity where
  devMajor : ℤ
  devMinor : ℤ
  inode : ℤ
  fileVersion : ℤ
  deriving DecidableEq

def FileIdentity.stableKey (identity : FileIdentity) : String :=
  ":".intercalate [toString identity.devMajor, toString identity.devMinor, toString identity.inode,
    toString identity.fileVersion]

inductive BuildError
  | negativeIdentity | emptyPartition | invalidWindow | zeroSampleInterval | missingWindow
  | segment (e : SegmentError)
  deriving DecidableEq

structure PartitionRecord where
  filePageCount : ℤ
  fileSizeBytes : ℤ
  partitionGeneration : ℤ
  deriving DecidableEq

abbrev PartitionTracker := Dict FileIdentity PartitionRecord

def PartitionTracker.observe (partitions : PartitionTracker) (identity : FileIdentity)
    (filePageCount fileSizeBytes : ℤ) : Except BuildError (PartitionTracker × ℤ) :=
  if filePageCount ≤ 0 ∨ fileSizeBytes < 0 then .error .emptyPartition
  else
    let generation :=
      match partitions.get? identity with
      | none => 1
      | some old =>
        if (old.filePageCount, old.fileSizeBytes) ≠ (filePageCount, fileSizeBytes) then
          old.partitionGeneration + 1
        else old.partitionGeneration
    .ok (partitions.set identity ⟨filePageCount, fileSizeBytes, generation⟩, generation)

def windowNs : ℤ := 10000000000

def windowBounds (eventTimeNs : ℤ) : Except BuildError (ℤ × ℤ) :=
  if eventTimeNs < 0 then .error .invalidWindow
  else .ok (eventTimeNs / windowNs * windowNs, eventTimeNs / windowNs * windowNs + windowNs)

/-- The fields of a file row that reach the segment rows; `eventTimeNs` is `event_time`. -/
structure FileRow where
  identity : FileIdentity
  fileSizeBytes : ℤ
  filePageCount : ℤ
  logicalStart : ℤ
  nrPages : ℤ
  domainId : ℤ
  appId : String
  sessionId : String
  bootId : String
  nrAccesses : ℤ
  sampleIntervalUs : ℤ
  aggregationIntervalUs : ℤ
  eventTimeNs : ℤ
  age : ℤ := 0
  deriving DecidableEq

structure GroupKey where
  windowId : String
  fileId : String
  identity : FileIdentity
  generation : ℤ
  pages : ℤ
  size : ℤ
  deriving DecidableEq

structure WindowIdentity where
  sessionId : String
  appId : String
  domainId : ℤ
  windowStartNs : ℤ
  windowEndNs : ℤ
  deriving DecidableEq

structure Collecting where
  partitions : PartitionTracker
  fileGroups : Dict GroupKey (List IntervalEvidence) := ∅
  windowIdentity : Dict String WindowIdentity := ∅

/-- The interval of a row: its pages inside the file and how much of its sampling was an access. -/
def evidenceOf (row : FileRow) : Except BuildError IntervalEvidence :=
  if row.sampleIntervalUs = 0 then .error .zeroSampleInterval
  else
    let maxAccess := max 1
      ((row.aggregationIntervalUs + row.sampleIntervalUs - 1).fdiv row.sampleIntervalUs)
    (intervalEvidence row.logicalStart (min row.filePageCount (row.logicalStart + row.nrPages))
      (min 1 ((row.nrAccesses : ℚ) / maxAccess)) row.age).mapError .segment

/-- One file row; `stableId` is the hash of the joined parts. -/
def collectRow (stableId : String → String) (s : Collecting) (row : FileRow) :
    Except BuildError Collecting := do
  let (start, stop) ← windowBounds row.eventTimeNs
  let identity := row.identity
  if min (min identity.devMajor identity.devMinor) (min identity.inode identity.fileVersion) < 0 then
    throw .negativeIdentity
  let (partitions, generation) ← s.partitions.observe identity row.filePageCount row.fileSizeBytes
  let windowId := stableId ("|".intercalate [row.bootId, row.sessionId, row.appId, toString start])
  let key : GroupKey := {
    windowId := windowId
    fileId := stableId identity.stableKey
    identity := identity
    generation := generation
    pages := row.filePageCount
    size := row.fileSizeBytes }
  let interval ← evidenceOf row
  return {
    partitions := partitions
    fileGroups := s.fileGroups.set key ((s.fileGroups.get? key).getD [] ++ [interval])
    windowIdentity := s.windowIdentity.set windowId
      ⟨row.sessionId, row.appId, row.domainId, start, stop⟩ }

/-- A row of a segment: the source copies the fields of the segment and of its summary. -/
structure SegmentRow where
  windowId : String
  fileId : String
  spec : SegmentSpec
  summary : CoverageSummary
  windowStartNs : ℤ
  windowEndNs : ℤ
  sessionId : String
  appId : String
  domainId : ℤ
  coverage_nonneg : 0 ≤ summary.coverageRatio
  weighted_nonneg : 0 ≤ summary.weightedCoverageRatio
  deriving DecidableEq

def segmentRow (windowId fileId : String) (window : WindowIdentity)
    (intervals : List IntervalEvidence) (spec : SegmentSpec) : Except BuildError SegmentRow :=
  match h : coverageSummary spec.startPage spec.endPageExclusive intervals with
  | .error e => .error (.segment e)
  | .ok summary => .ok {
      windowId := windowId
      fileId := fileId
      spec := spec
      summary := summary
      windowStartNs := window.windowStartNs
      windowEndNs := window.windowEndNs
      sessionId := window.sessionId
      appId := window.appId
      domainId := window.domainId
      coverage_nonneg := (summarizes_of_ok h).coverage_mem.1
      weighted_nonneg := (summarizes_of_ok h).weightedCoverage_mem.1 }

def groupRows (windows : Dict String WindowIdentity) (resolution : ℤ)
    (group : GroupKey × List IntervalEvidence) : Except BuildError (List SegmentRow) := do
  let window ← (windows.get? group.1.windowId).elim (throw .missingWindow) pure
  let segments ← (allSegments group.1.pages resolution group.1.generation).mapError .segment
  segments.mapM (segmentRow group.1.windowId group.1.fileId window group.2)

def sortedGroups (groups : Dict GroupKey (List IntervalEvidence)) :
    List (GroupKey × List IntervalEvidence) :=
  groups.items.insertionSort fun g g' =>
    toLex (g.1.windowId, g.1.fileId) ≤ toLex (g'.1.windowId, g'.1.fileId)

/-- `dense[resolution]` before the labels. -/
def denseRows (s : Collecting) (resolution : ℤ) : Except BuildError (List SegmentRow) := do
  let parts ← (sortedGroups s.fileGroups).mapM (groupRows s.windowIdentity resolution)
  return parts.flatten

/-- `build` up to the two tables it hands to `attach_future_labels`. -/
def denseTables (stableId : String → String) (partitions : PartitionTracker)
    (fileRows : List FileRow) :
    Except BuildError (PartitionTracker × List SegmentRow × List SegmentRow) := do
  let s ← fileRows.foldlM (collectRow stableId) ⟨partitions, ∅, ∅⟩
  let dense10 ← denseRows s 10
  let dense100 ← denseRows s 100
  return (s.partitions, dense10, dense100)

def SegmentRow.labelKey (row : SegmentRow) : String × String × ℤ × ℤ :=
  (row.sessionId, row.fileId, row.spec.requestedBins, row.spec.segmentId)

/-- `HORIZONS`, in seconds. -/
def horizons : List ℤ := [10, 30, 60]

structure FutureLabel where
  available : Bool
  access : Option ℤ
  maxCoverage : Option ℚ
  weightedCoverage : Option ℚ
  futureActive50 : Option Bool
  futureActive80 : Option Bool
  deriving DecidableEq

def coverageOf (row : SegmentRow) : ℚ := row.summary.coverageRatio
def weightedOf (row : SegmentRow) : ℚ := row.summary.weightedCoverageRatio

def SegmentRow.limit (row : SegmentRow) (horizon : ℤ) : ℤ :=
  row.windowStartNs + horizon * 1000000000

def futureOf (byStart : Dict ℤ SegmentRow) (row : SegmentRow) (horizon : ℤ) : List SegmentRow :=
  (byStart.filter fun e => row.windowStartNs < e.1 ∧ e.1 ≤ row.limit horizon).values

def labelFrom (available : Bool) (future : List SegmentRow) : FutureLabel :=
  let maxCoverage := largest (future.map coverageOf)
  let maxWeighted := largest (future.map weightedOf)
  if available then
    { available := true
      access := some (if 0 < maxCoverage ∨ 0 < maxWeighted then 1 else 0)
      maxCoverage := some maxCoverage
      weightedCoverage := some maxWeighted
      futureActive50 := some (decide (1 / 2 ≤ maxCoverage))
      futureActive80 := some (decide (4 / 5 ≤ maxCoverage)) }
  else ⟨false, none, none, none, none, none⟩

structure LabeledRow where
  row : SegmentRow
  labels : List (ℤ × FutureLabel)
  deriving DecidableEq

def sortedGroup (group : List SegmentRow) : List SegmentRow :=
  group.insertionSort fun r r' => r.windowStartNs ≤ r'.windowStartNs

def labelGroup (group : List SegmentRow) : List LabeledRow :=
  let sorted := sortedGroup group
  let lastStart := (sorted.getLast?.map SegmentRow.windowStartNs).getD 0
  let byStart := Dict.lastBy SegmentRow.windowStartNs sorted
  sorted.map fun row =>
    ⟨row, horizons.map fun horizon =>
      (horizon, labelFrom (decide (row.limit horizon ≤ lastStart)) (futureOf byStart row horizon))⟩

def attachFutureLabels (rows : List SegmentRow) : List LabeledRow :=
  ((Dict.groupBy SegmentRow.labelKey rows).values.flatMap labelGroup).insertionSort fun l l' =>
    toLex (l.row.windowStartNs, l.row.windowId) ≤ toLex (l'.row.windowStartNs, l'.row.windowId)

/-- `build`, as far as its two dense tables go. -/
def build (stableId : String → String) (partitions : PartitionTracker) (fileRows : List FileRow) :
    Except BuildError (PartitionTracker × List LabeledRow × List LabeledRow) := do
  let (partitions, dense10, dense100) ← denseTables stableId partitions fileRows
  return (partitions, attachFutureLabels dense10, attachFutureLabels dense100)

section

variable {rows : List SegmentRow} {row : SegmentRow} {horizon : ℤ}

def SegmentRow.history (row : SegmentRow) : String × ℤ × String × String × ℤ × ℤ :=
  (row.appId, row.spec.partitionGeneration, row.labelKey)

def Ahead (row : SegmentRow) (horizon : ℤ) (r : SegmentRow) : Prop :=
  row.windowStartNs < r.windowStartNs ∧ r.windowStartNs ≤ row.limit horizon

instance (row : SegmentRow) (horizon : ℤ) : DecidablePred (Ahead row horizon) :=
  fun _ => inferInstanceAs (Decidable (_ ∧ _))

def ownFuture (rows : List SegmentRow) (row : SegmentRow) (horizon : ℤ) : List SegmentRow :=
  rows.filter fun r => r.history = row.history ∧ Ahead row horizon r

def HistoryReaches (rows : List SegmentRow) (row : SegmentRow) (horizon : ℤ) : Prop :=
  ∃ r ∈ rows, r.history = row.history ∧ row.limit horizon ≤ r.windowStartNs

structure LabelExact (rows : List SegmentRow) (row : SegmentRow) (horizon : ℤ)
    (label : FutureLabel) : Prop where
  available : label.available = true ↔ HistoryReaches rows row horizon
  maxCoverage : label.available = true →
    label.maxCoverage = some (largest ((ownFuture rows row horizon).map coverageOf))
  weightedCoverage : label.available = true →
    label.weightedCoverage = some (largest ((ownFuture rows row horizon).map weightedOf))
  access : label.available = true → label.access =
    some (if ∃ r ∈ ownFuture rows row horizon, 0 < coverageOf r ∨ 0 < weightedOf r then 1 else 0)

def Survives (rows : List SegmentRow) (r : SegmentRow) : Prop :=
  (rows.filter fun r' => r'.labelKey = r.labelKey ∧ r'.windowStartNs = r.windowStartNs).getLast? =
    some r

/-- The rows that survive in the horizon are as high as those of the row's own history. -/
structure Matches (measure : SegmentRow → ℚ) (rows : List SegmentRow) (row : SegmentRow)
    (horizon : ℤ) : Prop where
  reached : ∀ r ∈ rows, r.history = row.history → Ahead row horizon r → 0 < measure r →
    ∃ s ∈ rows, Survives rows s ∧ s.labelKey = row.labelKey ∧ Ahead row horizon s ∧
      measure r ≤ measure s
  bounded : ∀ s ∈ rows, Survives rows s → s.labelKey = row.labelKey → Ahead row horizon s →
    0 < measure s → ∃ r ∈ rows, r.history = row.history ∧ Ahead row horizon r ∧
      measure s ≤ measure r

structure UndisturbedAt (rows : List SegmentRow) (row : SegmentRow) (horizon : ℤ) : Prop where
  reaches : (∃ r ∈ rows, r.labelKey = row.labelKey ∧ row.limit horizon ≤ r.windowStartNs) →
    HistoryReaches rows row horizon
  coverage : HistoryReaches rows row horizon → Matches coverageOf rows row horizon
  weighted : HistoryReaches rows row horizon → Matches weightedOf rows row horizon

def Undisturbed (rows : List SegmentRow) : Prop :=
  ∀ row ∈ rows, ∀ horizon ∈ horizons, UndisturbedAt rows row horizon

def LabelsExact (rows : List SegmentRow) : Prop :=
  ∀ labeled ∈ attachFutureLabels rows, ∀ entry ∈ labeled.labels,
    LabelExact rows labeled.row entry.1 entry.2

end

section

variable {rows : List SegmentRow} {row : SegmentRow} {horizon : ℤ}

def groupOf (rows : List SegmentRow) (row : SegmentRow) : List SegmentRow :=
  rows.filter fun r => r.labelKey = row.labelKey

def labelOf (rows : List SegmentRow) (row : SegmentRow) (horizon : ℤ) : FutureLabel :=
  let sorted := sortedGroup (groupOf rows row)
  labelFrom (decide (row.limit horizon ≤ (sorted.getLast?.map SegmentRow.windowStartNs).getD 0))
    (futureOf (Dict.lastBy SegmentRow.windowStartNs sorted) row horizon)

theorem mem_sortedGroup {group : List SegmentRow} {r : SegmentRow} :
    r ∈ sortedGroup group ↔ r ∈ group :=
  (perm_insertionSort _ group).mem_iff

theorem mem_attachFutureLabels {labeled : LabeledRow} :
    labeled ∈ attachFutureLabels rows ↔ labeled.row ∈ rows ∧
      labeled.labels = horizons.map fun horizon => (horizon, labelOf rows labeled.row horizon) := by
  unfold attachFutureLabels
  rw [(perm_insertionSort _ _).mem_iff, mem_flatMap]
  constructor
  · rintro ⟨group, hgroup, hlabeled⟩
    obtain ⟨⟨key, group'⟩, hitem, rfl⟩ := mem_map.1 hgroup
    obtain rfl := Dict.groupBy_mem SegmentRow.labelKey hitem
    obtain ⟨row, hrow, rfl⟩ := mem_map.1 hlabeled
    obtain ⟨hmem, hkey⟩ := mem_filter.1 (mem_sortedGroup.1 hrow)
    obtain rfl : row.labelKey = key := of_decide_eq_true hkey
    exact ⟨hmem, rfl⟩
  · rintro ⟨hmem, hlabels⟩
    obtain ⟨row, labels⟩ := labeled
    dsimp only at hmem hlabels
    subst hlabels
    refine ⟨groupOf rows row, mem_map_of_mem (Dict.mem_groupBy SegmentRow.labelKey hmem), ?_⟩
    have hself : row ∈ sortedGroup (groupOf rows row) :=
      mem_sortedGroup.2 (mem_filter.2 ⟨hmem, decide_eq_true rfl⟩)
    exact mem_map_of_mem hself

theorem limit_le_last (hrow : row ∈ rows) (limit : ℤ) :
    limit ≤ ((sortedGroup (groupOf rows row)).getLast?.map SegmentRow.windowStartNs).getD 0 ↔
      ∃ r ∈ rows, r.labelKey = row.labelKey ∧ limit ≤ r.windowStartNs := by
  have hmem (r : SegmentRow) :
      r ∈ sortedGroup (groupOf rows row) ↔ r ∈ rows ∧ r.labelKey = row.labelKey := by
    rw [mem_sortedGroup, groupOf, mem_filter, decide_eq_true_eq]
  cases hlast : (sortedGroup (groupOf rows row)).getLast? with
  | none =>
    have hself := (hmem row).2 ⟨hrow, rfl⟩
    rw [getLast?_eq_none_iff.1 hlast] at hself
    cases hself
  | some last =>
    have hlast' := (hmem last).1 (mem_of_getLast? hlast)
    have hlargest : ∀ r ∈ sortedGroup (groupOf rows row), r.windowStartNs ≤ last.windowStartNs := by
      have hsorted : (sortedGroup (groupOf rows row)).Pairwise
          fun r r' => r.windowStartNs ≤ r'.windowStartNs := pairwise_insertionSort _ _
      obtain ⟨init, hinit⟩ := getLast?_eq_some_iff.1 hlast
      rw [hinit] at hsorted ⊢
      intro r hr
      rcases mem_append.1 hr with hr | hr
      · exact (pairwise_append.1 hsorted).2.2 r hr last (.head _)
      · rw [mem_singleton.1 hr]
    change limit ≤ last.windowStartNs ↔ _
    constructor
    · exact fun hle => ⟨last, hlast'.1, hlast'.2, hle⟩
    · rintro ⟨r, hr, hkey, hle⟩
      exact hle.trans (hlargest r ((hmem r).2 ⟨hr, hkey⟩))

theorem sortedGroup_start (group : List SegmentRow) (start : ℤ) :
    ((sortedGroup group).filter fun r => r.windowStartNs = start) =
      group.filter fun r => r.windowStartNs = start := by
  have hequal : (group.filter fun r => r.windowStartNs = start).Pairwise
      fun r r' => r.windowStartNs ≤ r'.windowStartNs := by
    refine pairwise_of_forall_mem_list fun r hr r' hr' => ?_
    have hstart : r.windowStartNs = start := of_decide_eq_true (mem_filter.1 hr).2
    have hstart' : r'.windowStartNs = start := of_decide_eq_true (mem_filter.1 hr').2
    exact (hstart.trans hstart'.symm).le
  have hsub : (group.filter fun r => r.windowStartNs = start).Sublist (sortedGroup group) :=
    sublist_insertionSort hequal filter_sublist
  have hfilter := hsub.filter fun r => r.windowStartNs = start
  rw [filter_filter] at hfilter
  simp only [Bool.and_self] at hfilter
  refine (hfilter.eq_of_length ?_).symm
  exact ((perm_insertionSort _ group).filter _).length_eq.symm

theorem mem_futureOf {r : SegmentRow} :
    r ∈ futureOf (Dict.lastBy SegmentRow.windowStartNs (sortedGroup (groupOf rows row))) row horizon ↔
      r ∈ rows ∧ Survives rows r ∧ r.labelKey = row.labelKey ∧ Ahead row horizon r := by
  have hlast (start : ℤ) :
      (Dict.lastBy SegmentRow.windowStartNs (sortedGroup (groupOf rows row))).get? start =
        (rows.filter fun r' => r'.labelKey = row.labelKey ∧ r'.windowStartNs = start).getLast? := by
    rw [Dict.lastBy_get?, sortedGroup_start, groupOf, filter_filter]
    simp only [Bool.decide_and, Bool.and_comm]
  unfold futureOf Dict.values
  rw [mem_map]
  constructor
  · rintro ⟨⟨start, r'⟩, hitem, rfl⟩
    obtain ⟨hitem, hahead⟩ := Dict.mem_filter.1 hitem
    have hget := Dict.get?_of_mem hitem
    rw [hlast] at hget
    obtain ⟨hmem, hr⟩ := mem_filter.1 (mem_of_getLast? hget)
    obtain ⟨hkey, rfl⟩ := of_decide_eq_true hr
    refine ⟨hmem, ?_, hkey, of_decide_eq_true hahead⟩
    unfold Survives
    rw [hkey]
    exact hget
  · rintro ⟨hmem, hsurvives, hkey, hahead⟩
    unfold Survives at hsurvives
    rw [hkey, ← hlast] at hsurvives
    exact ⟨(r.windowStartNs, r),
      Dict.mem_filter.2 ⟨Dict.mem_of_get? hsurvives, decide_eq_true hahead⟩, rfl⟩

end

section

variable {rows rows' : List SegmentRow} {row : SegmentRow} {horizon : ℤ} {measure : SegmentRow → ℚ}

theorem mem_ownFuture {r : SegmentRow} : r ∈ ownFuture rows row horizon ↔
    r ∈ rows ∧ r.history = row.history ∧ Ahead row horizon r := by
  rw [ownFuture, mem_filter, decide_eq_true_eq]

theorem coverageOf_nonneg (r : SegmentRow) : 0 ≤ coverageOf r := r.coverage_nonneg

theorem weightedOf_nonneg (r : SegmentRow) : 0 ≤ weightedOf r := r.weighted_nonneg

variable {future future' : List SegmentRow}

theorem largest_map_le_iff (hmeasure : ∀ r, 0 ≤ measure r) :
    largest (future.map measure) ≤ largest (future'.map measure) ↔
      ∀ r ∈ future, 0 < measure r → ∃ r' ∈ future', measure r ≤ measure r' := by
  have hnonneg : ∀ w ∈ future'.map measure, 0 ≤ w := by
    intro w hw
    obtain ⟨r, -, rfl⟩ := mem_map.1 hw
    exact hmeasure r
  rw [largest_le_iff hnonneg, forall_mem_map]
  simp only [mem_map, exists_exists_and_eq_and]

theorem matches_iff (hmeasure : ∀ r, 0 ≤ measure r) :
    largest ((futureOf (Dict.lastBy SegmentRow.windowStartNs (sortedGroup (groupOf rows row))) row
        horizon).map measure) = largest ((ownFuture rows row horizon).map measure) ↔
      Matches measure rows row horizon := by
  rw [le_antisymm_iff, largest_map_le_iff hmeasure, largest_map_le_iff hmeasure]
  simp only [mem_futureOf, mem_ownFuture]
  constructor
  · rintro ⟨hbounded, hreached⟩
    constructor
    · intro r hr hhistory hahead hpos
      obtain ⟨s, ⟨hs, hsurvives, hkey, hahead'⟩, hle⟩ := hreached r ⟨hr, hhistory, hahead⟩ hpos
      exact ⟨s, hs, hsurvives, hkey, hahead', hle⟩
    · intro s hs hsurvives hkey hahead hpos
      obtain ⟨r, ⟨hr, hhistory, hahead'⟩, hle⟩ := hbounded s ⟨hs, hsurvives, hkey, hahead⟩ hpos
      exact ⟨r, hr, hhistory, hahead', hle⟩
  · rintro ⟨hreached, hbounded⟩
    constructor
    · rintro s ⟨hs, hsurvives, hkey, hahead⟩ hpos
      obtain ⟨r, hr, hhistory, hahead', hle⟩ := hbounded s hs hsurvives hkey hahead hpos
      exact ⟨r, ⟨hr, hhistory, hahead'⟩, hle⟩
    · rintro r ⟨hr, hhistory, hahead⟩ hpos
      obtain ⟨s, hs, hsurvives, hkey, hahead', hle⟩ := hreached r hr hhistory hahead hpos
      exact ⟨s, ⟨hs, hsurvives, hkey, hahead'⟩, hle⟩

theorem labelFrom_available (available : Bool) (future : List SegmentRow) :
    (labelFrom available future).available = available := by
  cases available <;> rfl

theorem labelOf_available (hrow : row ∈ rows) : (labelOf rows row horizon).available = true ↔
    ∃ r ∈ rows, r.labelKey = row.labelKey ∧ row.limit horizon ≤ r.windowStartNs := by
  rw [labelOf, labelFrom_available, decide_eq_true_eq]
  exact limit_le_last hrow _

theorem labelOf_values (h : (labelOf rows row horizon).available = true) :
    labelOf rows row horizon = labelFrom true
      (futureOf (Dict.lastBy SegmentRow.windowStartNs (sortedGroup (groupOf rows row))) row
        horizon) := by
  rw [labelOf, labelFrom_available] at h
  rw [labelOf, h]

theorem labelKey_of_history {r : SegmentRow} (h : r.history = row.history) :
    r.labelKey = row.labelKey := congrArg (fun history => history.2.2) h

theorem labelExact_iff (hrow : row ∈ rows) :
    LabelExact rows row horizon (labelOf rows row horizon) ↔ UndisturbedAt rows row horizon := by
  have hcoverage := @matches_iff rows row horizon coverageOf coverageOf_nonneg
  have hweighted := @matches_iff rows row horizon weightedOf weightedOf_nonneg
  constructor
  · intro h
    constructor
    · exact fun hreaches => h.available.1 ((labelOf_available hrow).2 hreaches)
    · intro hhistory
      have havailable := h.available.2 hhistory
      have hmax := h.maxCoverage havailable
      rw [labelOf_values havailable] at hmax
      exact hcoverage.1 (Option.some.inj hmax)
    · intro hhistory
      have havailable := h.available.2 hhistory
      have hmax := h.weightedCoverage havailable
      rw [labelOf_values havailable] at hmax
      exact hweighted.1 (Option.some.inj hmax)
  · intro h
    have havailable : (labelOf rows row horizon).available = true ↔
        HistoryReaches rows row horizon := by
      rw [labelOf_available hrow]
      exact ⟨h.reaches, fun ⟨r, hr, hhistory, hle⟩ => ⟨r, hr, labelKey_of_history hhistory, hle⟩⟩
    refine ⟨havailable, fun htrue => ?_, fun htrue => ?_, fun htrue => ?_⟩
    · rw [labelOf_values htrue]
      exact congrArg some (hcoverage.2 (h.coverage (havailable.1 htrue)))
    · rw [labelOf_values htrue]
      exact congrArg some (hweighted.2 (h.weighted (havailable.1 htrue)))
    · have hpos : (0 < largest ((ownFuture rows row horizon).map coverageOf) ∨
          0 < largest ((ownFuture rows row horizon).map weightedOf)) ↔
            ∃ r ∈ ownFuture rows row horizon, 0 < coverageOf r ∨ 0 < weightedOf r := by
        rw [largest_pos_iff, largest_pos_iff]
        simp only [mem_map, exists_exists_and_eq_and, ← exists_or, ← and_or_left]
      rw [labelOf_values htrue]
      change some (if 0 < largest _ ∨ 0 < largest _ then (1 : ℤ) else 0) = _
      rw [hcoverage.2 (h.coverage (havailable.1 htrue)),
        hweighted.2 (h.weighted (havailable.1 htrue))]
      simp only [hpos]

theorem labelsExact_iff : LabelsExact rows ↔ Undisturbed rows := by
  constructor
  · intro h row hrow horizon hhorizon
    have hlabeled := h ⟨row, horizons.map fun horizon => (horizon, labelOf rows row horizon)⟩
      (mem_attachFutureLabels.2 ⟨hrow, rfl⟩) _ (mem_map_of_mem hhorizon)
    exact (labelExact_iff hrow).1 hlabeled
  · intro h labeled hlabeled entry hentry
    obtain ⟨hrow, hlabels⟩ := mem_attachFutureLabels.1 hlabeled
    rw [hlabels] at hentry
    obtain ⟨horizon, hhorizon, rfl⟩ := mem_map.1 hentry
    exact (labelExact_iff hrow).2 (h _ hrow horizon hhorizon)

def SameLabels (rows rows' : List SegmentRow) : Prop :=
  ∀ labeled ∈ attachFutureLabels rows, ∀ labeled' ∈ attachFutureLabels rows',
    labeled'.row = labeled.row →
    (∀ r, r.history = labeled.row.history → (r ∈ rows' ↔ r ∈ rows)) →
    labeled'.labels = labeled.labels

theorem largest_congr (hmeasure : ∀ r, 0 ≤ measure r) (h : ∀ r, r ∈ future' ↔ r ∈ future) :
    largest (future'.map measure) = largest (future.map measure) := by
  rw [le_antisymm_iff, largest_map_le_iff hmeasure, largest_map_le_iff hmeasure]
  simp only [h]
  exact ⟨fun r hr _ => ⟨r, hr, le_rfl⟩, fun r hr _ => ⟨r, hr, le_rfl⟩⟩

theorem labelFrom_congr {available : Bool}
    (hcoverage : largest (future.map coverageOf) = largest (future'.map coverageOf))
    (hweighted : largest (future.map weightedOf) = largest (future'.map weightedOf)) :
    labelFrom available future = labelFrom available future' := by
  unfold labelFrom
  rw [hcoverage, hweighted]

theorem LabelExact.same (h : LabelExact rows row horizon (labelOf rows row horizon))
    (h' : LabelExact rows' row horizon (labelOf rows' row horizon))
    (hhistory : ∀ r, r.history = row.history → (r ∈ rows' ↔ r ∈ rows)) :
    labelOf rows' row horizon = labelOf rows row horizon := by
  have hown (r : SegmentRow) : r ∈ ownFuture rows' row horizon ↔ r ∈ ownFuture rows row horizon := by
    rw [mem_ownFuture, mem_ownFuture]
    exact and_congr_left fun hr => hhistory r hr.1
  have hreaches : HistoryReaches rows' row horizon ↔ HistoryReaches rows row horizon :=
    exists_congr fun r => and_congr_left fun hr => hhistory r hr.1
  have havailable : (labelOf rows' row horizon).available = (labelOf rows row horizon).available := by
    rw [Bool.eq_iff_iff, h'.available, h.available, hreaches]
  cases htrue : (labelOf rows row horizon).available with
  | false =>
    rw [htrue] at havailable
    rw [labelOf, labelFrom_available] at havailable htrue
    rw [labelOf, labelOf, havailable, htrue]
    rfl
  | true =>
    rw [htrue] at havailable
    have hcoverage := h'.maxCoverage havailable
    have hweighted := h'.weightedCoverage havailable
    rw [largest_congr coverageOf_nonneg hown, ← h.maxCoverage htrue,
      labelOf_values havailable, labelOf_values htrue] at hcoverage
    rw [largest_congr weightedOf_nonneg hown, ← h.weightedCoverage htrue,
      labelOf_values havailable, labelOf_values htrue] at hweighted
    rw [labelOf_values havailable, labelOf_values htrue]
    exact labelFrom_congr (Option.some.inj hcoverage) (Option.some.inj hweighted)

/-- Over two lists the labels say what the rows' own histories say, and say the same where these
are the same, exactly when both lists are undisturbed. -/
theorem labels_exact_iff_undisturbed (rows rows' : List SegmentRow) :
    (LabelsExact rows ∧ LabelsExact rows' ∧ SameLabels rows rows') ↔
      Undisturbed rows ∧ Undisturbed rows' := by
  rw [← and_assoc, labelsExact_iff, labelsExact_iff]
  refine and_iff_left_of_imp fun h labeled hlabeled labeled' hlabeled' hrow hhistory => ?_
  obtain ⟨hmem, hlabels⟩ := mem_attachFutureLabels.1 hlabeled
  obtain ⟨hmem', hlabels'⟩ := mem_attachFutureLabels.1 hlabeled'
  rw [hrow] at hmem' hlabels'
  rw [hlabels, hlabels']
  refine map_congr_left fun horizon hhorizon => ?_
  have hexact := (labelExact_iff hmem).2 (h.1 _ hmem horizon hhorizon)
  have hexact' := (labelExact_iff hmem').2 (h.2 _ hmem' horizon hhorizon)
  rw [hexact.same hexact' hhistory]

end

def sampleStableId (key : String) : String :=
  if key = "8:5:1:7" then "6fda29f292e79b703cffe7ee"
  else if key = "b1|s1|files|0" then "b4fed37ba47bbc844f916430"
  else if key = "b1|s1|wps|10000000000" then "180c14e16f75c6f37eae26c5"
  else key

def sharedFileRows : List FileRow :=
  [{ identity := ⟨8, 5, 1, 7⟩, fileSizeBytes := 4096, filePageCount := 1, logicalStart := 0
     nrPages := 1, domainId := 901, appId := "files", sessionId := "s1", bootId := "b1"
     nrAccesses := 1, sampleIntervalUs := 5000, aggregationIntervalUs := 100000, eventTimeNs := 0 },
    { identity := ⟨8, 5, 1, 7⟩, fileSizeBytes := 4096, filePageCount := 1, logicalStart := 0
      nrPages := 1, domainId := 902, appId := "wps", sessionId := "s1", bootId := "b1"
      nrAccesses := 20, sampleIntervalUs := 5000, aggregationIntervalUs := 100000
      eventTimeNs := 10000000000 }]

def leaks (rows : List SegmentRow) : Bool :=
  (attachFutureLabels rows).any fun labeled => labeled.labels.any fun entry =>
    entry.2.available && !rows.any fun r => decide (r.history = labeled.row.history ∧
      labeled.row.limit entry.1 ≤ r.windowStartNs)

theorem not_exact_of_leaks {rows : List SegmentRow} (h : leaks rows = true) :
    ¬ LabelsExact rows := by
  intro hexact
  obtain ⟨labeled, hlabeled, hentries⟩ := any_eq_true.1 h
  obtain ⟨entry, hentry, hleak⟩ := any_eq_true.1 hentries
  obtain ⟨havailable, hnone⟩ := (Bool.and_eq_true _ _).mp hleak
  obtain ⟨r, hr, hreaches⟩ := (hexact labeled hlabeled entry hentry).available.1 havailable
  rw [Bool.not_eq_true', any_eq_false] at hnone
  exact hnone r hr (decide_eq_true hreaches)

/-- The second application makes the first one's ten-second label available. -/
theorem shared_file_leaks : ∃ partitions dense10 dense100,
    denseTables sampleStableId ∅ sharedFileRows = .ok (partitions, dense10, dense100) ∧
      ¬ LabelsExact dense10 := by
  have hleaks : (denseTables sampleStableId ∅ sharedFileRows).toOption.any (fun tables =>
      leaks tables.2.1) = true := by decide +kernel
  cases htables : denseTables sampleStableId ∅ sharedFileRows with
  | error e =>
    rw [htables] at hleaks
    cases hleaks
  | ok tables =>
    rw [htables] at hleaks
    exact ⟨tables.1, tables.2.1, tables.2.2, rfl, not_exact_of_leaks hleaks⟩

end Parp.SegmentLabels
