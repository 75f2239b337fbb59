import Mathlib.Algebra.BigOperators.Group.Finset.Basic
import Parp.EbpfPageWindows

set_option autoImplicit false

/-!
# Windows of the page hot set

The page accesses of a window, as single events or as compressed ranges, and the snapshot they are
closed to. A `Counter` of pages is their multiset.
-/
namespace Parp.PageHotset

open EbpfFileEvents MergedIntervals

def maxEventPages : ℤ := 1048576

def unknown : String := "UNKNOWN"

structure PageId where
  deviceMajor : ℕ
  deviceMinor : ℕ
  inode : ℤ
  pageIndex : ℤ
deriving DecidableEq

def pageId (file : FileKey) (page : ℤ) : PageId :=
  ⟨file.deviceMajor, file.deviceMinor, file.inode, page⟩

structure Config where
  windowNs : ℤ
  pageSize : ℤ

/-- The changes have positive times: `observe_foreground` drops the others. -/
structure Shadow where
  windowEvents : ℤ × String → Multiset PageId := fun _ => 0
  windowEventCounts : ℤ × String → ℤ := fun _ => 0
  windowAggregatedRepeats : ℤ × String → ℤ := fun _ => 0
  invalidWindows : ℤ → Finset String := fun _ => ∅
  nextWindowStartNs : Option ℤ := none
  lastFinalizedStartNs : ℤ := -1
  foregroundChanges : List (ℤ × String) := []
  sourceChanges : List (ℤ × Bool × String) := []
  foregroundPositive : ∀ c ∈ foregroundChanges, 0 < c.1 := by exact nofun

def Shadow.invalidate (s : Shadow) (windowStart : ℤ) (reason : String) : Shadow :=
  { s with
    invalidWindows :=
      Function.update s.invalidWindows windowStart (insert reason (s.invalidWindows windowStart)) }

/-- `_window_events[key][page] += 1` for each of the pages. -/
def Shadow.addPages (s : Shadow) (key : ℤ × String) (pages : List PageId) : Shadow :=
  { s with windowEvents := Function.update s.windowEvents key (s.windowEvents key + pages) }

def Shadow.addEvents (s : Shadow) (key : ℤ × String) (events : ℤ) : Shadow :=
  { s with
    windowEventCounts :=
      Function.update s.windowEventCounts key (s.windowEventCounts key + events) }

def Shadow.addRepeats (s : Shadow) (key : ℤ × String) (repeats : ℤ) : Shadow :=
  { s with
    windowAggregatedRepeats :=
      Function.update s.windowAggregatedRepeats key (s.windowAggregatedRepeats key + repeats) }

def Shadow.seedWindowStart (s : Shadow) (cfg : Config) (timestampNs : ℤ) : Shadow :=
  let start := timestampNs - timestampNs % cfg.windowNs
  match s.nextWindowStartNs with
  | none => { s with nextWindowStartNs := some start }
  | some next =>
    if s.lastFinalizedStartNs < 0 then { s with nextWindowStartNs := some (min next start) }
    else s

/-- A `page_access` event. -/
structure AccessEvent where
  timestampNs : ℤ
  app : String
  file : FileKey
  offset : ℤ
  size : ℤ

def observePageAccess (cfg : Config) (s : Shadow) (e : AccessEvent) : Bool × Shadow :=
  if e.timestampNs ≤ 0 ∨ e.app = "" ∨ e.file.inode ≤ 0 ∨ e.offset < 0 ∨ e.size ≤ 0 then (false, s)
  else
    let windowStart := e.timestampNs - e.timestampNs % cfg.windowNs
    if windowStart ≤ s.lastFinalizedStartNs then
      (false, s.invalidate windowStart "LATE_EVENT_AFTER_CLOSE")
    else
      let firstPage := e.offset / cfg.pageSize
      let lastPage := (e.offset + e.size - 1) / cfg.pageSize
      if maxEventPages < lastPage - firstPage + 1 then
        (false, s.invalidate windowStart "PAGE_RANGE_TOO_LARGE")
      else
        let key := (windowStart, e.app)
        let pages := (span (firstPage, lastPage)).map (pageId e.file)
        (true, ((s.addPages key pages).addEvents key 1).seedWindowStart cfg e.timestampNs)

def rangePages (r : PageRange) : List PageId :=
  (span (r.startPageIndex, r.startPageIndex + r.pageCount - 1)).map
    (pageId ⟨r.deviceMajor, r.deviceMinor, r.inode⟩)

def observeRange (key : ℤ × String) (s : Shadow) (r : PageRange) : Shadow :=
  if r.inode ≤ 0 ∨ r.startPageIndex < 0 ∨ r.pageCount ≤ 0 ∨ maxEventPages < r.pageCount then
    s.invalidate key.1 "PAGE_RANGE_INVALID"
  else s.addPages key (rangePages r)

def observePageWindow (cfg : Config) (s : Shadow) (w : PageWindow) : Shadow :=
  if w.windowStartNs ≤ 0 ∨ w.windowStartNs % cfg.windowNs ≠ 0 ∨ w.app = "" ∨
      w.pageSize ≠ cfg.pageSize then s
  else if w.windowStartNs ≤ s.lastFinalizedStartNs then
    s.invalidate w.windowStartNs "LATE_EVENT_AFTER_CLOSE"
  else
    let key := (w.windowStartNs, w.app)
    let s := w.pageRanges.foldl (observeRange key) s
    ((s.addEvents key w.pageAccessEvents).addRepeats key w.repeatedPageHits).seedWindowStart cfg
      w.windowStartNs

/-- The row at the start of the window, and whether there is none or another before its end. -/
def timelineValue {α : Type} (changes : List (ℤ × α)) (startNs endNs : ℤ) :
    Option (ℤ × α) × Bool :=
  let position := (changes.takeWhile fun c => c.1 ≤ startNs).length
  match position with
  | 0 => (none, true)
  | previous + 1 =>
    (changes[previous]?, changes[position]?.any fun next => startNs < next.1 ∧ next.1 < endNs)

/-- `invalid_reasons` is the sorted tuple of the reasons. -/
structure PageSnapshot where
  appId : String
  foregroundEpochId : String
  windowStartNs : ℤ
  windowEndNs : ℤ
  pageSize : ℤ
  pages : Finset PageId
  pageAccessEvents : ℤ
  repeatedPageHits : ℤ
  valid : Bool
  invalidReasons : Finset String

def foreground (s : Shadow) (windowStartNs windowEndNs : ℤ) : String × String × Finset String :=
  let row := timelineValue s.foregroundChanges windowStartNs windowEndNs
  let changed : Finset String := if row.2 then {"FOREGROUND_CHANGED"} else ∅
  match row.1 with
  | none => (unknown, "", insert "FOREGROUND_UNKNOWN" changed)
  | some (timestampNs, app) =>
    (app, app ++ ":" ++ toString timestampNs,
      if app = unknown then insert "FOREGROUND_UNKNOWN" changed else changed)

def sourceReasons (s : Shadow) (windowStartNs windowEndNs : ℤ) : Finset String :=
  let row := timelineValue s.sourceChanges windowStartNs windowEndNs
  let changed : Finset String := if row.2 then {"FILE_EVENT_SOURCE_CHANGED"} else ∅
  match row.1 with
  | none => insert "FILE_EVENT_SOURCE_UNAVAILABLE" changed
  | some (_, true, _) => changed
  | some (_, false, reason) =>
    insert (if reason = "" then "FILE_EVENT_SOURCE_UNAVAILABLE" else reason) changed

def Shadow.repeatedPageHits (s : Shadow) (key : ℤ × String) : ℤ :=
  (∑ p ∈ (s.windowEvents key).toFinset, max 0 (((s.windowEvents key).count p : ℤ) - 1)) +
    s.windowAggregatedRepeats key

/-- The snapshot that `_finalize_window` makes. -/
def snapshot (cfg : Config) (s : Shadow) (windowStartNs : ℤ) : PageSnapshot :=
  let windowEndNs := windowStartNs + cfg.windowNs
  let front := foreground s windowStartNs windowEndNs
  let reasons :=
    s.invalidWindows windowStartNs ∪ front.2.2 ∪ sourceReasons s windowStartNs windowEndNs
  let key := (windowStartNs, front.1)
  let pages := (s.windowEvents key).toFinset
  { appId := front.1
    foregroundEpochId := front.2.1
    windowStartNs := windowStartNs
    windowEndNs := windowEndNs
    pageSize := cfg.pageSize
    pages := pages
    pageAccessEvents := s.windowEventCounts key
    repeatedPageHits := s.repeatedPageHits key
    valid := reasons.erase "NO_PAGE_ACCESS" = ∅
    invalidReasons := if pages = ∅ then insert "NO_PAGE_ACCESS" reasons else reasons }

/-- What `_finalize_window` takes out. -/
def closeWindow (cfg : Config) (s : Shadow) (windowStartNs : ℤ) : Shadow :=
  let key := (windowStartNs, (foreground s windowStartNs (windowStartNs + cfg.windowNs)).1)
  let popped := fun k => k = key ∨ k.1 = windowStartNs ∧ s.windowEvents k ≠ 0
  { s with
    windowEvents := fun k => if popped k then 0 else s.windowEvents k
    windowEventCounts := fun k => if popped k then 0 else s.windowEventCounts k
    windowAggregatedRepeats := fun k => if popped k then 0 else s.windowAggregatedRepeats k
    invalidWindows := Function.update s.invalidWindows windowStartNs ∅
    lastFinalizedStartNs := windowStartNs }

/-!
# Page bucket models

What `train_page_hotset_model` makes of closed windows, and how a model classifies pages and
predicts the next bucket. The clustering itself, `_fit_kmedoids`, is a parameter.
-/

open OrderedDict

def baseOnly : String := "BASE_ONLY"

structure PageBucket where
  bucketId : String
  medoidPages : Finset PageId
  memberCount : ℕ
  hotPages : Finset PageId
  rejectionThreshold : Float

structure PageBucketModel where
  appId : String
  modelVersion : String
  pageSize : ℤ
  trainedThroughNs : ℤ
  trainingWindowCount : ℕ
  baseHotPages : Finset PageId
  buckets : List PageBucket
  selectedK : ℕ
  silhouette : Float
  firstOrder : Dict String (Dict String ℕ) := ∅
  secondOrder : Dict (String × String) (Dict String ℕ) := ∅
  globalNext : Dict String ℕ := ∅

def PageSnapshot.modelEligible (snapshot : PageSnapshot) : Bool :=
  snapshot.valid && snapshot.pages ≠ ∅

def jaccardSimilarity (left right : Finset PageId) : Float :=
  if left = ∅ ∧ right = ∅ then 1.0
  else if left = ∅ ∨ right = ∅ then 0.0
  else Float.ofNat (left ∩ right).card / Float.ofNat (left ∪ right).card

def firstSorted {α : Type} (before : α → α → Bool) : List α → Option α
  | [] => none
  | x :: xs => some (xs.foldl (fun best y => if before y best then y else best) x)

/-- The order of the keys `(-score, name)`. -/
def ranksBefore (left right : Float × String) : Bool :=
  if left.1 == right.1 then left.2 < right.2 else right.1 < left.1

def PageBucketModel.classify (model : PageBucketModel) (pages : Finset PageId) :
    String × Float × String :=
  let residual := pages \ model.baseHotPages
  if residual = ∅ then (baseOnly, 1.0, "BASE_ONLY")
  else
    let scored := model.buckets.map fun bucket =>
      (jaccardSimilarity residual bucket.medoidPages, bucket)
    match firstSorted (fun l r => ranksBefore (l.1, l.2.bucketId) (r.1, r.2.bucketId)) scored with
    | none => (unknown, 0.0, "NO_BUCKETS")
    | some (similarity, bucket) =>
      if similarity + 1e-12 < bucket.rejectionThreshold then
        (unknown, similarity, "BELOW_REJECTION_THRESHOLD")
      else (bucket.bucketId, similarity, "ASSIGNED")

def PageBucketModel.bucketHotPages (model : PageBucketModel) (bucketId : String) :
    Finset PageId :=
  if bucketId = baseOnly then ∅
  else ((model.buckets.find? fun bucket => bucket.bucketId = bucketId).map
    PageBucket.hotPages).getD ∅

def PageBucketModel.transitionDistribution (model : PageBucketModel)
    (previousBucket : Option String) (currentBucket : String) : List (String × Float) × String :=
  let second := (previousBucket.bind fun previous =>
    model.secondOrder.get? (previous, currentBucket)).getD ∅
  let first := (model.firstOrder.get? currentBucket).getD ∅
  let counts := if second.items = [] then first else second
  let source :=
    if second.items ≠ [] then "SECOND_ORDER"
    else if first.items ≠ [] then "FIRST_ORDER_BACKOFF"
    else "NONE"
  let total := counts.values.sum
  if total = 0 then ([], "NONE")
  else
    let sorted := counts.items.insertionSort fun l r => l.1 ≤ r.1
    ((sorted.filter fun item => 0 < item.2).map fun item =>
      (item.1, Float.ofNat item.2 / Float.ofNat total), source)

def PageBucketModel.mostCommonBucket (model : PageBucketModel) : String :=
  let before := fun (l r : String × ℕ) => decide (r.2 < l.2 ∨ l.2 = r.2 ∧ l.1 < r.1)
  ((firstSorted before model.globalNext.items).map Prod.fst).getD ""

structure ClusterCandidate where
  k : ℕ
  medoids : List (Finset PageId)
  assignments : List ℕ
  silhouette : Float

/-- `_fit_kmedoids(page_sets, k, min_cluster_members)`. -/
abbrev FitKmedoids := List (Finset PageId) → ℕ → ℕ → Option ClusterCandidate

/-- `math.ceil(count * coverage)`. -/
def ceilShare (count : ℕ) (coverage : Float) : ℕ := (Float.ofNat count * coverage).ceil.toUInt64.toNat

/-- The pages that at least `required` of the sets hold. -/
def commonPages (sets : List (Finset PageId)) (required : ℕ) : Finset PageId :=
  (sets.foldl (· ∪ ·) ∅).filter fun page => required ≤ sets.countP fun pages => page ∈ pages

def selectCandidate : List ClusterCandidate → Option ClusterCandidate
  | [] => none
  | first :: rest => some (rest.foldl (fun selected candidate =>
    if selected.silhouette + 0.02 < candidate.silhouette then candidate else selected) first)

/-- The bucket of the cluster `index`. -/
def trainBucket (residuals : List (Finset PageId)) (assignments : List ℕ)
    (bucketHotCoverage : Float) (index : ℕ) (medoid : Finset PageId) : PageBucket :=
  let members := ((residuals.zip assignments).filter fun row => row.2 = index).map Prod.fst
  let similarities :=
    (members.map fun pages => jaccardSimilarity pages medoid).mergeSort fun l r => l ≤ r
  let p05Index := (0.05 * Float.ofNat (similarities.length - 1)).floor.toUInt64.toNat
  let lowest := (similarities[p05Index]?).getD 1.0
  { bucketId := "B" ++ toString (index + 1)
    medoidPages := medoid
    memberCount := members.length
    hotPages := commonPages members (max 1 (ceilShare members.length bucketHotCoverage))
    rejectionThreshold := if 0.1 < lowest then lowest else 0.1 }

def addCount (counts : Dict String ℕ) (bucket : String) : Dict String ℕ :=
  counts.set bucket ((counts.get? bucket).getD 0 + 1)

/-- The tables, and the epoch and the buckets that the loop has come from, newest first. -/
structure Transitions where
  first : Dict String (Dict String ℕ) := ∅
  second : Dict (String × String) (Dict String ℕ) := ∅
  globalNext : Dict String ℕ := ∅
  epoch : String := ""
  sequence : List String := []

def noteTransition (model : PageBucketModel) (t : Transitions) (snapshot : PageSnapshot) :
    Transitions :=
  if snapshot.modelEligible = false then { t with epoch := "", sequence := [] }
  else
    let bucket := (model.classify snapshot.pages).1
    if bucket = unknown then { t with epoch := "", sequence := [] }
    else
      let sequence := if snapshot.foregroundEpochId = t.epoch then t.sequence else []
      let t := { t with epoch := snapshot.foregroundEpochId, sequence := sequence }
      match sequence with
      | [] => { t with sequence := [bucket] }
      | last :: older =>
        if last = bucket then t
        else
          let second := match older with
            | [] => t.second
            | before :: _ => t.second.set (before, last)
                (addCount ((t.second.get? (before, last)).getD ∅) bucket)
          { t with
            first := t.first.set last (addCount ((t.first.get? last).getD ∅) bucket)
            second := second
            globalNext := addCount t.globalNext bucket
            sequence := bucket :: sequence }

def buildTransitionTables (model : PageBucketModel) (snapshots : List PageSnapshot) :
    Transitions :=
  snapshots.foldl (noteTransition model) {}

def windowLe (left right : PageSnapshot) : Bool :=
  left.windowStartNs < right.windowStartNs ||
    left.windowStartNs = right.windowStartNs && left.windowEndNs ≤ right.windowEndNs

def trainPageHotsetModel (fitKmedoids : FitKmedoids) (appId modelVersion : String) (pageSize : ℤ)
    (snapshots : List PageSnapshot) (baseHotCoverage bucketHotCoverage : Float) :
    Option PageBucketModel :=
  let ordered := snapshots.mergeSort windowLe
  match ordered.filter PageSnapshot.modelEligible with
  | [] => none
  | earliest :: later =>
    let eligible := earliest :: later
    let baseHot := commonPages (eligible.map PageSnapshot.pages)
      (max 1 (ceilShare eligible.length baseHotCoverage))
    let residuals := (eligible.map fun snapshot => snapshot.pages \ baseHot).filter (· ≠ ∅)
    let minimum := max 10 (ceilShare residuals.length 0.05)
    (selectCandidate ([2, 3, 4, 5].filterMap fun k => fitKmedoids residuals k minimum)).map
      fun selected =>
        let fitted : PageBucketModel :=
          { appId := appId
            modelVersion := modelVersion
            pageSize := pageSize
            trainedThroughNs :=
              later.foldl (fun latest snapshot => max latest snapshot.windowEndNs)
                earliest.windowEndNs
            trainingWindowCount := eligible.length
            baseHotPages := baseHot
            buckets := selected.medoids.mapIdx
              (trainBucket residuals selected.assignments bucketHotCoverage)
            selectedK := selected.k
            silhouette := selected.silhouette }
        let tables := buildTransitionTables fitted ordered
        { fitted with
          firstOrder := tables.first
          secondOrder := tables.second
          globalNext := tables.globalNext }

end Parp.PageHotset
