import Mathlib.Algebra.BigOperators.Ring.Finset
import Mathlib.Algebra.Order.BigOperators.Group.Finset
import Mathlib.Algebra.Order.Field.Basic
import Mathlib.Data.Rat.Cast.Order
import Parp.FallibleFolds
import Parp.IntervalPieces

set_option autoImplicit false

/-!
# File segments and their coverage

`segmenter.py` and `weighted_coverage.py` of `tools/parp/intra_app_prediction`: a file is cut into
bins, and the page intervals seen in a window are summed up bin by bin. Ratios are rationals.
-/
namespace Parp.FileSegments

open FallibleFolds IntervalPieces List

/-- The `ValueError`s. -/
inductive SegmentError
  | emptyFile | requestedBins | segmentId | pageIndex | partitionGeneration | invalidInterval
  | activeRatio | invalidSegment
  deriving DecidableEq

structure SegmentSpec where
  requestedBins : ℤ
  effectiveBins : ℤ
  segmentId : ℤ
  startPage : ℤ
  endPageExclusive : ℤ
  filePageCount : ℤ
  partitionGeneration : ℤ
  deriving DecidableEq

/-- `_validate`. -/
def validate (filePageCount requestedBins : ℤ) : Except SegmentError Unit :=
  if filePageCount ≤ 0 then .error .emptyFile
  else if requestedBins ≤ 0 then .error .requestedBins
  else .ok ()

def segmentBounds (segmentId filePageCount requestedBins : ℤ) : Except SegmentError (ℤ × ℤ) := do
  validate filePageCount requestedBins
  let effective := min requestedBins filePageCount
  if ¬ (0 ≤ segmentId ∧ segmentId < effective) then throw .segmentId
  return ((segmentId * filePageCount + effective - 1) / effective,
    ((segmentId + 1) * filePageCount + effective - 1) / effective)

def pageToSegment (pageIndex filePageCount requestedBins partitionGeneration : ℤ) :
    Except SegmentError SegmentSpec := do
  validate filePageCount requestedBins
  if ¬ (0 ≤ pageIndex ∧ pageIndex < filePageCount) then throw .pageIndex
  if partitionGeneration ≤ 0 then throw .partitionGeneration
  let effective := min requestedBins filePageCount
  let segmentId := min (effective - 1) (pageIndex * effective / filePageCount)
  let (start, stop) ← segmentBounds segmentId filePageCount requestedBins
  return ⟨requestedBins, effective, segmentId, start, stop, filePageCount, partitionGeneration⟩

def allSegments (filePageCount requestedBins partitionGeneration : ℤ) :
    Except SegmentError (List SegmentSpec) := do
  validate filePageCount requestedBins
  let effective := min requestedBins filePageCount
  (List.range effective.toNat).mapM fun segmentId : ℕ => do
    let (start, stop) ← segmentBounds segmentId filePageCount requestedBins
    return ⟨requestedBins, effective, segmentId, start, stop, filePageCount, partitionGeneration⟩

/-- An interval of pages with how active it was, as its checks leave it. -/
structure IntervalEvidence where
  startPage : ℤ
  endPageExclusive : ℤ
  activeRatio : ℚ
  age : ℤ
  start_nonneg : 0 ≤ startPage
  forward : startPage < endPageExclusive
  ratio_nonneg : 0 ≤ activeRatio
  ratio_le_one : activeRatio ≤ 1
  deriving DecidableEq

/-- `IntervalEvidence` with its `__post_init__`. -/
def intervalEvidence (startPage endPageExclusive : ℤ) (activeRatio : ℚ) (age : ℤ) :
    Except SegmentError IntervalEvidence :=
  if hpages : startPage < 0 ∨ endPageExclusive ≤ startPage then .error .invalidInterval
  else if hratio : 0 ≤ activeRatio ∧ activeRatio ≤ 1 then
    .ok ⟨startPage, endPageExclusive, activeRatio, age, by omega, by omega, hratio.1, hratio.2⟩
  else .error .activeRatio

structure CoverageSummary where
  segmentPageCount : ℤ
  observedUniquePages : ℤ
  accessedUniquePages : ℤ
  coverageRatio : ℚ
  weightedAccessPages : ℚ
  weightedCoverageRatio : ℚ
  accessIntensity : ℚ
  meanAge : ℚ
  maxAge : ℤ
  regionCount : ℕ
  deriving DecidableEq

structure Clipped where
  start : ℤ
  stop : ℤ
  weight : ℚ
  age : ℤ
  deriving DecidableEq

def clip (segmentStart segmentEnd : ℤ) (item : IntervalEvidence) : Option Clipped :=
  let start := max segmentStart item.startPage
  let stop := min segmentEnd item.endPageExclusive
  if start < stop then some ⟨start, stop, item.activeRatio, item.age⟩ else none

def pointsOf (clipped : List Clipped) : List ℤ :=
  (clipped.flatMap fun c => [c.start, c.stop]).dedup.insertionSort (· ≤ ·)

structure Sweep where
  observed : ℤ := 0
  accessed : ℤ := 0
  weighted : ℚ := 0
  intensity : ℚ := 0
  deriving DecidableEq

def weightsOn (clipped : List Clipped) (piece : ℤ × ℤ) : List ℚ :=
  (clipped.filter fun c => c.start < piece.2 ∧ piece.1 < c.stop).map Clipped.weight

def sweepTurn (clipped : List Clipped) (s : Sweep) (piece : ℤ × ℤ) : Sweep :=
  let weights := weightsOn clipped piece
  match weights.max? with
  | none => s
  | some maximum =>
    let length := piece.2 - piece.1
    { observed := s.observed + length
      accessed := if 0 < maximum then s.accessed + length else s.accessed
      weighted := s.weighted + length * maximum
      intensity := s.intensity + length * weights.sum / weights.length }

def coverageSummary (segmentStart segmentEnd : ℤ) (intervals : List IntervalEvidence) :
    Except SegmentError CoverageSummary :=
  if segmentStart < 0 ∨ segmentEnd ≤ segmentStart then .error .invalidSegment
  else
    let clipped := intervals.filterMap (clip segmentStart segmentEnd)
    let pageCount := segmentEnd - segmentStart
    if clipped = [] then .ok ⟨pageCount, 0, 0, 0, 0, 0, 0, 0, 0, 0⟩
    else
      let swept := (between (pointsOf clipped)).foldl (sweepTurn clipped) {}
      .ok {
        segmentPageCount := pageCount
        observedUniquePages := swept.observed
        accessedUniquePages := swept.accessed
        coverageRatio := min 1 (swept.accessed / pageCount)
        weightedAccessPages := swept.weighted
        weightedCoverageRatio := min 1 (swept.weighted / pageCount)
        accessIntensity := swept.intensity / pageCount
        meanAge := (clipped.map fun c => (c.age : ℚ)).sum / clipped.length
        maxAge := ((clipped.map Clipped.age).max?).getD 0
        regionCount := clipped.length }

section

variable {filePageCount requestedBins partitionGeneration : ℤ}

/-- Where segment `i` of `bins` begins. -/
def startOf (filePageCount bins i : ℤ) : ℤ := (i * filePageCount + bins - 1) / bins

variable {bins : ℤ}

theorem startOf_le_iff (hbins : 0 < bins) (i page : ℤ) :
    startOf filePageCount bins i ≤ page ↔ i * filePageCount ≤ page * bins := by
  unfold startOf
  rw [← Int.lt_add_one_iff, Int.ediv_lt_iff_lt_mul hbins, add_mul, one_mul]
  omega

theorem startOf_zero (hbins : 0 < bins) : startOf filePageCount bins 0 = 0 := by
  unfold startOf
  rw [zero_mul, zero_add]
  exact Int.ediv_eq_zero_of_lt (by omega) (by omega)

theorem startOf_bins (hbins : 0 < bins) : startOf filePageCount bins bins = filePageCount := by
  unfold startOf
  rw [add_sub_assoc, add_comm, Int.add_mul_ediv_left _ _ hbins.ne',
    Int.ediv_eq_zero_of_lt (by omega) (by omega), zero_add]

theorem startOf_succ (hbins : 0 < bins) (i : ℤ) :
    startOf filePageCount bins i + filePageCount / bins ≤ startOf filePageCount bins (i + 1) ∧
      startOf filePageCount bins (i + 1) ≤
        startOf filePageCount bins i + filePageCount / bins + 1 := by
  have hpages := Int.mul_ediv_add_emod filePageCount bins
  have hrest := Int.emod_lt_of_pos filePageCount hbins
  have hrest' := Int.emod_nonneg filePageCount hbins.ne'
  have hstart := (startOf_le_iff hbins i (startOf filePageCount bins i)).1 le_rfl
  constructor
  · have hnext := (startOf_le_iff hbins (i + 1) (startOf filePageCount bins (i + 1))).1 le_rfl
    have hback : startOf filePageCount bins i ≤
        startOf filePageCount bins (i + 1) - filePageCount / bins := by
      rw [startOf_le_iff hbins]
      rw [add_mul, one_mul] at hnext
      rw [sub_mul, mul_comm (filePageCount / bins)]
      omega
    omega
  · rw [startOf_le_iff hbins, add_mul, add_mul, add_mul, one_mul, one_mul,
      mul_comm (filePageCount / bins)]
    omega

def specOf (filePageCount requestedBins partitionGeneration i : ℤ) : SegmentSpec :=
  ⟨requestedBins, min requestedBins filePageCount, i,
    startOf filePageCount (min requestedBins filePageCount) i,
    startOf filePageCount (min requestedBins filePageCount) (i + 1), filePageCount,
    partitionGeneration⟩

section

variable (hpages : 0 < filePageCount)

include hpages

theorem validate_ok (hbins : 0 < requestedBins) :
    validate filePageCount requestedBins = .ok () := by
  unfold validate
  rw [if_neg (by omega), if_neg (by omega)]

theorem segmentBounds_ok (hbins : 0 < requestedBins) {i : ℤ} (hi : 0 ≤ i)
    (hi' : i < min requestedBins filePageCount) :
    segmentBounds i filePageCount requestedBins =
      .ok (startOf filePageCount (min requestedBins filePageCount) i,
        startOf filePageCount (min requestedBins filePageCount) (i + 1)) := by
  unfold segmentBounds
  rw [validate_ok hpages hbins, ok_bind]
  exact if_neg (not_not.2 ⟨hi, hi'⟩)

theorem allSegments_ok (hbins : 0 < requestedBins) :
    allSegments filePageCount requestedBins partitionGeneration =
      .ok ((List.range (min requestedBins filePageCount).toNat).map fun i : ℕ =>
        specOf filePageCount requestedBins partitionGeneration i) := by
  unfold allSegments
  rw [validate_ok hpages hbins, ok_bind]
  refine mapM_ok fun i hi => ?_
  have hi' := mem_range.1 hi
  rw [segmentBounds_ok hpages hbins (by omega) (by omega)]
  rfl

theorem pageToSegment_ok (hbins : 0 < requestedBins) (hgeneration : 0 < partitionGeneration)
    {page : ℤ} (hpage : 0 ≤ page) (hpage' : page < filePageCount) :
    ∃ i : ℕ, i < (min requestedBins filePageCount).toNat ∧
      pageToSegment page filePageCount requestedBins partitionGeneration =
        .ok (specOf filePageCount requestedBins partitionGeneration i) ∧
      (specOf filePageCount requestedBins partitionGeneration i).startPage ≤ page ∧
      page < (specOf filePageCount requestedBins partitionGeneration i).endPageExclusive := by
  have heffective : 0 < min requestedBins filePageCount := lt_min hbins hpages
  have hnonneg : 0 ≤ page * min requestedBins filePageCount / filePageCount :=
    Int.ediv_nonneg (Int.mul_nonneg hpage heffective.le) hpages.le
  have hless : page * min requestedBins filePageCount / filePageCount <
      min requestedBins filePageCount := by
    rw [Int.ediv_lt_iff_lt_mul hpages, mul_comm]
    exact Int.mul_lt_mul_of_pos_left hpage' heffective
  obtain ⟨i, hi⟩ := Int.eq_ofNat_of_zero_le hnonneg
  have hbelow := Int.ediv_mul_le (page * min requestedBins filePageCount) hpages.ne'
  have habove := Int.lt_ediv_add_one_mul_self (page * min requestedBins filePageCount) hpages
  rw [hi] at hless hbelow habove
  refine ⟨i, by omega, ?_, (startOf_le_iff heffective _ _).2 hbelow, ?_⟩
  · unfold pageToSegment
    rw [validate_ok hpages hbins, ok_bind, if_neg (not_not.2 ⟨hpage, hpage'⟩),
      if_neg (by omega)]
    dsimp only
    rw [hi, min_eq_right (by omega), segmentBounds_ok hpages hbins (by omega) hless]
    rfl
  · exact lt_of_not_ge fun hge => absurd ((startOf_le_iff heffective _ _).1 hge) (not_le.2 habove)

end

/-- Consecutive nonempty ranges over the whole file, of nearly one size. -/
structure Partitions (filePageCount : ℤ) (segments : List SegmentSpec) : Prop where
  nonempty : ∀ s ∈ segments, s.startPage < s.endPageExclusive
  consecutive : segments.IsChain fun s t => s.endPageExclusive = t.startPage
  first : segments.head?.map SegmentSpec.startPage = some 0
  last : segments.getLast?.map SegmentSpec.endPageExclusive = some filePageCount
  balanced : ∀ s ∈ segments, ∀ t ∈ segments,
    s.endPageExclusive - s.startPage ≤ t.endPageExclusive - t.startPage + 1

theorem startOf_strictMono (hbins : 0 < bins) (hle : bins ≤ filePageCount) :
    StrictMono (startOf filePageCount bins) := by
  have hsize : 1 ≤ filePageCount / bins := by
    rw [Int.le_ediv_iff_mul_le hbins]
    omega
  have hstep (i : ℤ) : startOf filePageCount bins i < startOf filePageCount bins (i + 1) := by
    have hnext := (@startOf_succ filePageCount bins hbins i).1
    omega
  exact strictMono_int_of_lt_succ hstep

theorem specOf_start_nonneg (hpages : 0 < filePageCount) (hbins : 0 < requestedBins) (i : ℕ) :
    0 ≤ (specOf filePageCount requestedBins partitionGeneration i).startPage := by
  have heffective : 0 < min requestedBins filePageCount := lt_min hbins hpages
  have hmono := startOf_strictMono heffective (min_le_right requestedBins filePageCount)
  calc 0 = startOf filePageCount (min requestedBins filePageCount) 0 := (startOf_zero heffective).symm
    _ ≤ startOf filePageCount (min requestedBins filePageCount) i :=
        hmono.monotone (Int.natCast_nonneg i)

theorem allSegments_partitions (hpages : 0 < filePageCount) (hbins : 0 < requestedBins) :
    Partitions filePageCount ((List.range (min requestedBins filePageCount).toNat).map fun i : ℕ =>
      specOf filePageCount requestedBins partitionGeneration i) := by
  have heffective : 0 < min requestedBins filePageCount := lt_min hbins hpages
  have hmono := startOf_strictMono heffective (min_le_right requestedBins filePageCount)
  obtain ⟨count, hcount⟩ : ∃ count, (min requestedBins filePageCount).toNat = count + 1 :=
    Nat.exists_eq_succ_of_ne_zero (by omega)
  constructor
  · intro s hs
    obtain ⟨i, -, rfl⟩ := mem_map.1 hs
    exact hmono (lt_add_one (i : ℤ))
  · rw [isChain_map, hcount, isChain_range_succ]
    exact fun i _ => rfl
  · rw [hcount, range_succ_eq_map]
    exact congrArg some (startOf_zero heffective)
  · rw [hcount, range_succ, map_append, getLast?_append]
    have hlast : ((count : ℤ) + 1) = min requestedBins filePageCount := by omega
    refine congrArg some ?_
    change startOf _ _ ((count : ℤ) + 1) = _
    rw [hlast]
    exact startOf_bins heffective
  · intro s hs t ht
    obtain ⟨i, -, rfl⟩ := mem_map.1 hs
    obtain ⟨j, -, rfl⟩ := mem_map.1 ht
    have hi := (@startOf_succ filePageCount _ heffective i).2
    have hj := (@startOf_succ filePageCount _ heffective j).1
    dsimp only [specOf]
    omega

end

section

/-- An interval covers a page. -/
abbrev IntervalEvidence.Covers (item : IntervalEvidence) (page : ℤ) : Prop :=
  item.startPage ≤ page ∧ page < item.endPageExclusive

def weightsAt (intervals : List IntervalEvidence) (page : ℤ) : List ℚ :=
  (intervals.filter fun item => item.Covers page).map IntervalEvidence.activeRatio

def largest (weights : List ℚ) : ℚ := weights.max?.getD 0

def observedOf (weights : List ℚ) : ℤ := if weights = [] then 0 else 1

def accessedOf (weights : List ℚ) : ℤ := if 0 < largest weights then 1 else 0

variable {segmentStart segmentEnd : ℤ} {intervals : List IntervalEvidence}

def clippedAt (clipped : List Clipped) (page : ℤ) : List ℚ :=
  (clipped.filter fun c => c.start ≤ page ∧ page < c.stop).map Clipped.weight

theorem clipped_weights {page : ℤ} (hstart : segmentStart ≤ page) (hend : page < segmentEnd) :
    clippedAt (intervals.filterMap (clip segmentStart segmentEnd)) page =
      weightsAt intervals page := by
  unfold clippedAt weightsAt
  induction intervals with
  | nil => rfl
  | cons item intervals ih =>
    by_cases hmeets : max segmentStart item.startPage < min segmentEnd item.endPageExclusive
    · have hclip : clip segmentStart segmentEnd item = some ⟨max segmentStart item.startPage,
          min segmentEnd item.endPageExclusive, item.activeRatio, item.age⟩ := if_pos hmeets
      have hsame : (max segmentStart item.startPage ≤ page ∧
          page < min segmentEnd item.endPageExclusive) ↔ item.Covers page := by omega
      rw [filterMap_cons_some hclip, filter_cons, filter_cons]
      simp only [hsame]
      by_cases hcovers : item.Covers page
      · rw [if_pos (decide_eq_true hcovers), if_pos (decide_eq_true hcovers), map_cons,
          map_cons, ih]
      · rw [if_neg (by simpa using hcovers), if_neg (by simpa using hcovers), ih]
    · have hclip : clip segmentStart segmentEnd item = none := if_neg hmeets
      have hcovers : ¬ item.Covers page := by omega
      rw [filterMap_cons_none hclip, ih, filter_cons_of_neg (by simpa using hcovers)]

variable {clipped : List Clipped}

theorem clipped_inside {c : Clipped} (hc : c ∈ intervals.filterMap (clip segmentStart segmentEnd)) :
    segmentStart ≤ c.start ∧ c.start < c.stop ∧ c.stop ≤ segmentEnd := by
  obtain ⟨item, -, hitem⟩ := mem_filterMap.1 hc
  unfold clip at hitem
  dsimp only at hitem
  split at hitem
  · rename_i hmeets
    cases hitem
    exact ⟨le_max_left _ _, hmeets, min_le_left _ _⟩
  · cases hitem

theorem pointsOf_sorted (clipped : List Clipped) : (pointsOf clipped).Pairwise (· ≤ ·) :=
  pairwise_insertionSort _ _

theorem mem_pointsOf {x : ℤ} :
    x ∈ pointsOf clipped ↔ ∃ c ∈ clipped, x = c.start ∨ x = c.stop := by
  unfold pointsOf
  rw [(perm_insertionSort _ _).mem_iff]
  simp

theorem weightsOn_eq {piece : ℤ × ℤ} (hpiece : piece ∈ between (pointsOf clipped)) {page : ℤ}
    (hstart : piece.1 ≤ page) (hend : page < piece.2) :
    weightsOn clipped piece = clippedAt clipped page := by
  unfold weightsOn clippedAt
  refine congrArg _ (filter_congr fun c hc => ?_)
  have hapart := between_apart (pointsOf_sorted clipped) hpiece (mem_pointsOf.2 ⟨c, hc, .inl rfl⟩)
  have hapart' := between_apart (pointsOf_sorted clipped) hpiece (mem_pointsOf.2 ⟨c, hc, .inr rfl⟩)
  simp only [decide_eq_decide]
  omega

theorem clippedAt_nil {page : ℤ} (h : ∀ c ∈ clipped, ¬ (c.start ≤ page ∧ page < c.stop)) :
    clippedAt clipped page = [] := by
  unfold clippedAt
  rw [map_eq_nil_iff, filter_eq_nil_iff]
  exact fun c hc hcovers => h c hc (of_decide_eq_true hcovers)

variable {R : Type} [CommRing R]

theorem sum_piece (g : List ℚ → R) {piece : ℤ × ℤ} (hpiece : piece ∈ between (pointsOf clipped)) :
    ((piece.2 - piece.1 : ℤ) : R) * g (weightsOn clipped piece) =
      ∑ page ∈ Finset.Ico piece.1 piece.2, g (clippedAt clipped page) := by
  have hle := between_le (pointsOf_sorted clipped) hpiece
  have hconst : ∑ page ∈ Finset.Ico piece.1 piece.2, g (clippedAt clipped page) =
      ∑ _page ∈ Finset.Ico piece.1 piece.2, g (weightsOn clipped piece) := by
    refine Finset.sum_congr rfl fun page hpage => ?_
    obtain ⟨hstart, hend⟩ := Finset.mem_Ico.1 hpage
    rw [weightsOn_eq hpiece hstart hend]
  have hlength : ((piece.2 - piece.1).toNat : ℤ) = piece.2 - piece.1 :=
    Int.toNat_of_nonneg (by omega)
  rw [hconst, Finset.sum_const, Int.card_Ico, nsmul_eq_mul, ← Int.cast_natCast, hlength]

theorem sum_pieces (g : List ℚ → R) (hnone : g [] = 0)
    (hclipped : clipped = intervals.filterMap (clip segmentStart segmentEnd)) :
    ((between (pointsOf clipped)).map fun piece =>
        ((piece.2 - piece.1 : ℤ) : R) * g (weightsOn clipped piece)).sum =
      ∑ page ∈ Finset.Ico segmentStart segmentEnd, g (weightsAt intervals page) := by
  have hpages : ∑ page ∈ Finset.Ico segmentStart segmentEnd, g (weightsAt intervals page) =
      ∑ page ∈ Finset.Ico segmentStart segmentEnd, g (clippedAt clipped page) := by
    refine Finset.sum_congr rfl fun page hpage => ?_
    obtain ⟨hstart, hend⟩ := Finset.mem_Ico.1 hpage
    rw [hclipped, clipped_weights hstart hend]
  have hinside : ∀ c ∈ clipped, segmentStart ≤ c.start ∧ c.start < c.stop ∧ c.stop ≤ segmentEnd :=
    fun c hc => clipped_inside (hclipped ▸ hc)
  have hmap : ((between (pointsOf clipped)).map fun piece =>
      ((piece.2 - piece.1 : ℤ) : R) * g (weightsOn clipped piece)) =
        (between (pointsOf clipped)).map fun piece =>
          ∑ page ∈ Finset.Ico piece.1 piece.2, g (clippedAt clipped page) :=
    map_congr_left fun piece hpiece => sum_piece g hpiece
  have hsorted := pointsOf_sorted clipped
  have hends : ∀ c ∈ clipped, c.start ∈ pointsOf clipped ∧ c.stop ∈ pointsOf clipped :=
    fun c hc => ⟨mem_pointsOf.2 ⟨c, hc, .inl rfl⟩, mem_pointsOf.2 ⟨c, hc, .inr rfl⟩⟩
  have hpoints : ∀ x ∈ pointsOf clipped, ∃ c ∈ clipped, x = c.start ∨ x = c.stop :=
    fun x hx => mem_pointsOf.1 hx
  rw [hpages, hmap]
  generalize pointsOf clipped = points at hsorted hends hpoints ⊢
  cases points with
  | nil =>
    symm
    refine Finset.sum_eq_zero fun page _ => ?_
    rw [clippedAt_nil fun c hc => absurd (hends c hc).1 not_mem_nil, hnone]
  | cons first points =>
    rw [sum_between _ hsorted]
    refine Finset.sum_subset (Finset.Ico_subset_Ico ?_ ?_) fun page _ houtside => ?_
    · obtain ⟨c, hc, hfirst⟩ := hpoints first (.head _)
      have hbounds := hinside c hc
      omega
    · obtain ⟨c, hc, hlast⟩ := hpoints _ getLastD_mem_cons
      have hbounds := hinside c hc
      omega
    · -- Beyond the points there is no clipped interval.
      rw [Finset.mem_Ico] at houtside
      rw [clippedAt_nil fun c hc hcovers => ?_, hnone]
      have hstart : first ≤ c.start := by
        rcases mem_cons.1 (hends c hc).1 with heq | hmem
        · exact heq.ge
        · exact (pairwise_cons.1 hsorted).1 _ hmem
      have hstop := le_getLastD hsorted (hends c hc).2
      omega

theorem sweepTurn_eq (clipped : List Clipped) (s : Sweep) (piece : ℤ × ℤ) :
    (sweepTurn clipped s piece).observed =
        s.observed + (piece.2 - piece.1) * observedOf (weightsOn clipped piece) ∧
      (sweepTurn clipped s piece).accessed =
        s.accessed + (piece.2 - piece.1) * accessedOf (weightsOn clipped piece) ∧
      (sweepTurn clipped s piece).weighted =
        s.weighted + (piece.2 - piece.1 : ℤ) * largest (weightsOn clipped piece) := by
  unfold sweepTurn observedOf accessedOf largest
  dsimp only
  cases hmax : (weightsOn clipped piece).max? with
  | none =>
    rw [max?_eq_none_iff] at hmax
    simp [hmax]
  | some maximum =>
    have hsome : weightsOn clipped piece ≠ [] := fun hnil => by
      rw [hnil] at hmax
      cases hmax
    dsimp only [Option.getD_some]
    rw [if_neg hsome, mul_one]
    refine ⟨rfl, ?_, rfl⟩
    split_ifs <;> simp

theorem sweep_eq (clipped : List Clipped) (pieces : List (ℤ × ℤ)) (s : Sweep) :
    (pieces.foldl (sweepTurn clipped) s).observed = s.observed +
        (pieces.map fun piece => (piece.2 - piece.1) * observedOf (weightsOn clipped piece)).sum ∧
      (pieces.foldl (sweepTurn clipped) s).accessed = s.accessed +
        (pieces.map fun piece => (piece.2 - piece.1) * accessedOf (weightsOn clipped piece)).sum ∧
      (pieces.foldl (sweepTurn clipped) s).weighted = s.weighted +
        (pieces.map fun piece =>
          ((piece.2 - piece.1 : ℤ) : ℚ) * largest (weightsOn clipped piece)).sum := by
  induction pieces generalizing s with
  | nil => simp
  | cons piece pieces ih =>
    obtain ⟨hobserved, haccessed, hweighted⟩ := sweepTurn_eq clipped s piece
    obtain ⟨ihobserved, ihaccessed, ihweighted⟩ := ih (sweepTurn clipped s piece)
    rw [foldl_cons, ihobserved, ihaccessed, ihweighted, hobserved, haccessed, hweighted]
    simp only [map_cons, sum_cons, add_assoc, and_self]

theorem largest_eq_iff {weights : List ℚ} {maximum : ℚ} (hsome : weights ≠ []) :
    largest weights = maximum ↔ maximum ∈ weights ∧ ∀ w ∈ weights, w ≤ maximum := by
  unfold largest
  rw [← max?_eq_some_iff]
  cases hmax : weights.max? with
  | none => exact absurd (max?_eq_none_iff.1 hmax) hsome
  | some m => simp

theorem largest_pos_iff {weights : List ℚ} : 0 < largest weights ↔ ∃ w ∈ weights, 0 < w := by
  by_cases hnil : weights = []
  · simp [hnil, largest]
  · obtain ⟨hmem, hle⟩ := (largest_eq_iff hnil).1 rfl
    exact ⟨fun hpos => ⟨_, hmem, hpos⟩, fun ⟨w, hw, hpos⟩ => hpos.trans_le (hle w hw)⟩

theorem largest_le_iff {weights weights' : List ℚ} (hnonneg : ∀ w ∈ weights', 0 ≤ w) :
    largest weights ≤ largest weights' ↔ ∀ w ∈ weights, 0 < w → ∃ w' ∈ weights', w ≤ w' := by
  have hbelow {ws : List ℚ} {w : ℚ} (hw : w ∈ ws) : w ≤ largest ws :=
    ((largest_eq_iff (ne_nil_of_mem hw)).1 rfl).2 w hw
  constructor
  · intro hle w hw hpos
    have hnil : weights' ≠ [] := by
      rintro rfl
      exact absurd (hpos.trans_le ((hbelow hw).trans hle)) (lt_irrefl 0)
    exact ⟨_, ((largest_eq_iff hnil).1 rfl).1, (hbelow hw).trans hle⟩
  · intro h
    rcases lt_or_ge 0 (largest weights) with hpos | hneg
    · have hnil : weights ≠ [] := by
        rintro rfl
        exact lt_irrefl 0 hpos
      obtain ⟨w', hw', hle⟩ := h _ ((largest_eq_iff hnil).1 rfl).1 hpos
      exact hle.trans (hbelow hw')
    · refine hneg.trans ?_
      by_cases hnil : weights' = []
      · rw [hnil]
        rfl
      · exact hnonneg _ ((largest_eq_iff hnil).1 rfl).1

theorem observedOf_weightsAt (page : ℤ) : observedOf (weightsAt intervals page) =
    if ∃ item ∈ intervals, item.Covers page then 1 else 0 := by
  have hnil : weightsAt intervals page = [] ↔ ¬ ∃ item ∈ intervals, item.Covers page := by
    simp [weightsAt]
  unfold observedOf
  simp only [hnil]
  split_ifs <;> rfl

theorem accessedOf_weightsAt (page : ℤ) : accessedOf (weightsAt intervals page) =
    if ∃ item ∈ intervals, item.Covers page ∧ 0 < item.activeRatio then 1 else 0 := by
  have hpos : 0 < largest (weightsAt intervals page) ↔
      ∃ item ∈ intervals, item.Covers page ∧ 0 < item.activeRatio := by
    rw [largest_pos_iff]
    simp [weightsAt, and_assoc]
  unfold accessedOf
  simp only [hpos]

theorem largest_weightsAt (page : ℤ) : 0 ≤ largest (weightsAt intervals page) ∧
    largest (weightsAt intervals page) ≤ 1 := by
  by_cases hnil : weightsAt intervals page = []
  · simp [hnil, largest]
  · obtain ⟨hmem, -⟩ := (largest_eq_iff hnil).1 rfl
    obtain ⟨item, -, hitem⟩ := mem_map.1 hmem
    rw [← hitem]
    exact ⟨item.ratio_nonneg, item.ratio_le_one⟩

end

section

variable {segmentStart segmentEnd : ℤ} {intervals : List IntervalEvidence}

noncomputable def observedPages (segmentStart segmentEnd : ℤ) (intervals : List IntervalEvidence) : Finset ℤ :=
  (Finset.Ico segmentStart segmentEnd).filter fun page => ∃ item ∈ intervals, item.Covers page

noncomputable def accessedPages (segmentStart segmentEnd : ℤ) (intervals : List IntervalEvidence) : Finset ℤ :=
  (Finset.Ico segmentStart segmentEnd).filter fun page =>
    ∃ item ∈ intervals, item.Covers page ∧ 0 < item.activeRatio

noncomputable def weightedPages (segmentStart segmentEnd : ℤ) (intervals : List IntervalEvidence) : ℚ :=
  ∑ page ∈ Finset.Ico segmentStart segmentEnd, largest (weightsAt intervals page)

structure Summarizes (segmentStart segmentEnd : ℤ) (intervals : List IntervalEvidence)
    (summary : CoverageSummary) : Prop where
  pages : summary.segmentPageCount = segmentEnd - segmentStart
  observed : summary.observedUniquePages = (observedPages segmentStart segmentEnd intervals).card
  accessed : summary.accessedUniquePages = (accessedPages segmentStart segmentEnd intervals).card
  weighted : summary.weightedAccessPages = weightedPages segmentStart segmentEnd intervals
  coverage : summary.coverageRatio = summary.accessedUniquePages / summary.segmentPageCount
  coverage_mem : 0 ≤ summary.coverageRatio ∧ summary.coverageRatio ≤ 1
  weightedCoverage :
    summary.weightedCoverageRatio = summary.weightedAccessPages / summary.segmentPageCount
  weightedCoverage_mem : 0 ≤ summary.weightedCoverageRatio ∧ summary.weightedCoverageRatio ≤ 1

theorem swept_eq {clipped : List Clipped}
    (hclipped : clipped = intervals.filterMap (clip segmentStart segmentEnd)) :
    ((between (pointsOf clipped)).foldl (sweepTurn clipped) {}).observed =
        (observedPages segmentStart segmentEnd intervals).card ∧
      ((between (pointsOf clipped)).foldl (sweepTurn clipped) {}).accessed =
        (accessedPages segmentStart segmentEnd intervals).card ∧
      ((between (pointsOf clipped)).foldl (sweepTurn clipped) {}).weighted =
        weightedPages segmentStart segmentEnd intervals := by
  obtain ⟨hobserved, haccessed, hweighted⟩ := sweep_eq clipped (between (pointsOf clipped)) {}
  have hcount := sum_pieces observedOf rfl hclipped
  have hcount' := sum_pieces accessedOf rfl hclipped
  have hsum := sum_pieces largest rfl hclipped
  simp only [Int.cast_id, observedOf_weightsAt, accessedOf_weightsAt, Finset.sum_boole]
    at hcount hcount'
  rw [hobserved, haccessed, hweighted, hcount, hcount', hsum]
  exact ⟨zero_add _, zero_add _, zero_add _⟩

theorem card_pages (hend : segmentStart < segmentEnd) :
    ((Finset.Ico segmentStart segmentEnd).card : ℚ) = ((segmentEnd - segmentStart : ℤ) : ℚ) := by
  have hlength : ((segmentEnd - segmentStart).toNat : ℤ) = segmentEnd - segmentStart :=
    Int.toNat_of_nonneg (by omega)
  rw [Int.card_Ico, ← Int.cast_natCast, hlength]

theorem accessed_le (hend : segmentStart < segmentEnd) :
    (((accessedPages segmentStart segmentEnd intervals).card : ℤ) : ℚ) ≤
      ((segmentEnd - segmentStart : ℤ) : ℚ) := by
  rw [← card_pages hend, Int.cast_natCast]
  exact_mod_cast Finset.card_filter_le _ _

theorem weighted_nonneg : 0 ≤ weightedPages segmentStart segmentEnd intervals :=
  Finset.sum_nonneg fun page _ => (largest_weightsAt page).1

theorem weighted_le (hend : segmentStart < segmentEnd) :
    weightedPages segmentStart segmentEnd intervals ≤ ((segmentEnd - segmentStart : ℤ) : ℚ) := by
  calc weightedPages segmentStart segmentEnd intervals
      ≤ (Finset.Ico segmentStart segmentEnd).card • (1 : ℚ) :=
        Finset.sum_le_card_nsmul _ _ _ fun page _ => (largest_weightsAt page).2
    _ = ((segmentEnd - segmentStart : ℤ) : ℚ) := by rw [nsmul_one, card_pages hend]

theorem clamped_quotient {part whole : ℚ} (hnonneg : 0 ≤ part) (hle : part ≤ whole)
    (hwhole : 0 < whole) : min 1 (part / whole) = part / whole ∧ 0 ≤ part / whole ∧
      part / whole ≤ 1 := by
  have hone : part / whole ≤ 1 := (div_le_one hwhole).2 hle
  exact ⟨min_eq_right hone, div_nonneg hnonneg hwhole.le, hone⟩

theorem coverageSummary_ok (hstart : 0 ≤ segmentStart) (hend : segmentStart < segmentEnd)
    (intervals : List IntervalEvidence) :
    ∃ summary, coverageSummary segmentStart segmentEnd intervals = .ok summary ∧
      Summarizes segmentStart segmentEnd intervals summary := by
  obtain ⟨clipped, hclipped⟩ : ∃ clipped, clipped =
      intervals.filterMap (clip segmentStart segmentEnd) := ⟨_, rfl⟩
  obtain ⟨hobserved, haccessed, hweighted⟩ := swept_eq hclipped
  unfold coverageSummary
  rw [if_neg (by omega)]
  dsimp only
  rw [← hclipped]
  by_cases hnone : clipped = []
  · rw [if_pos hnone]
    rw [hnone] at hobserved haccessed hweighted
    refine ⟨_, rfl, rfl, hobserved, haccessed, hweighted, ?_, ⟨le_rfl, zero_le_one⟩, ?_,
      ⟨le_rfl, zero_le_one⟩⟩
    · simp
    · simp
  · have hwhole : (0 : ℚ) < ((segmentEnd - segmentStart : ℤ) : ℚ) :=
      Int.cast_pos.2 (sub_pos.2 hend)
    obtain ⟨hclamp, hmem⟩ := clamped_quotient (Int.cast_nonneg (Int.natCast_nonneg _))
      (@accessed_le _ _ intervals hend) hwhole
    obtain ⟨hclamp', hmem'⟩ :=
      clamped_quotient (@weighted_nonneg _ _ intervals) (weighted_le hend) hwhole
    rw [← haccessed] at hclamp hmem
    rw [← hweighted] at hclamp' hmem'
    rw [if_neg hnone]
    refine ⟨_, rfl, rfl, hobserved, haccessed, hweighted, hclamp, ?_, hclamp', ?_⟩
    · exact hclamp.symm ▸ hmem
    · exact hclamp'.symm ▸ hmem'

theorem summarizes_of_ok {summary : CoverageSummary}
    (h : coverageSummary segmentStart segmentEnd intervals = .ok summary) :
    Summarizes segmentStart segmentEnd intervals summary := by
  by_cases hsegment : segmentStart < 0 ∨ segmentEnd ≤ segmentStart
  · unfold coverageSummary at h
    rw [if_pos hsegment] at h
    cases h
  · obtain ⟨summary', hok, hsummarizes⟩ :=
      @coverageSummary_ok segmentStart segmentEnd (by omega) (by omega) intervals
    rw [h] at hok
    exact Except.ok.inj hok ▸ hsummarizes

end

section

variable {filePageCount requestedBins partitionGeneration : ℤ} {intervals : List IntervalEvidence}

structure Totals where
  observed : ℤ
  accessed : ℤ
  weighted : ℚ
  deriving DecidableEq

def totals (filePageCount requestedBins partitionGeneration : ℤ)
    (intervals : List IntervalEvidence) : Except SegmentError Totals := do
  let segments ← allSegments filePageCount requestedBins partitionGeneration
  let summaries ← segments.mapM fun s => coverageSummary s.startPage s.endPageExclusive intervals
  return {
    observed := (summaries.map CoverageSummary.observedUniquePages).sum
    accessed := (summaries.map CoverageSummary.accessedUniquePages).sum
    weighted := (summaries.map CoverageSummary.weightedAccessPages).sum }

theorem sum_segments {M : Type} [AddCommMonoid M] (f : ℤ → M) (hpages : 0 < filePageCount)
    (hbins : 0 < requestedBins) :
    (((List.range (min requestedBins filePageCount).toNat).map fun i : ℕ =>
        specOf filePageCount requestedBins partitionGeneration i).map fun s =>
          ∑ page ∈ Finset.Ico s.startPage s.endPageExclusive, f page).sum =
      ∑ page ∈ Finset.Ico 0 filePageCount, f page := by
  have heffective : 0 < min requestedBins filePageCount := lt_min hbins hpages
  have hmono := startOf_strictMono heffective (min_le_right requestedBins filePageCount)
  have hnumbered : Monotone fun i : ℕ =>
      startOf filePageCount (min requestedBins filePageCount) i :=
    fun i j hij => hmono.monotone (Int.ofNat_le.2 hij)
  have hsum := sum_range_Ico f hnumbered (min requestedBins filePageCount).toNat
  have hlast : (((min requestedBins filePageCount).toNat : ℕ) : ℤ) =
      min requestedBins filePageCount := Int.toNat_of_nonneg heffective.le
  rw [Nat.cast_zero, startOf_zero heffective, hlast, startOf_bins heffective] at hsum
  rw [map_map, ← hsum]
  rfl

theorem totals_ok (hpages : 0 < filePageCount) (hbins : 0 < requestedBins) :
    totals filePageCount requestedBins partitionGeneration intervals =
      .ok { observed := (observedPages 0 filePageCount intervals).card
            accessed := (accessedPages 0 filePageCount intervals).card
            weighted := weightedPages 0 filePageCount intervals } := by
  have hpartitions := @allSegments_partitions _ _ partitionGeneration hpages hbins
  have hstart (s : SegmentSpec) (hs : s ∈ (List.range (min requestedBins filePageCount).toNat).map
      fun i : ℕ => specOf filePageCount requestedBins partitionGeneration i) : 0 ≤ s.startPage := by
    obtain ⟨i, -, rfl⟩ := mem_map.1 hs
    exact specOf_start_nonneg hpages hbins i
  obtain ⟨summaries, hsummaries⟩ := mapM_returns fun s hs =>
    (coverageSummary_ok (hstart s hs) (hpartitions.nonempty s hs) intervals).imp fun _ h => h.1
  have hrelated := mapM_eq_ok_iff.1 hsummaries
  unfold totals
  rw [allSegments_ok hpages hbins, ok_bind, hsummaries, ok_bind,
    related_map hrelated fun s summary h => (summarizes_of_ok h).observed,
    related_map hrelated fun s summary h => (summarizes_of_ok h).accessed,
    related_map hrelated fun s summary h => (summarizes_of_ok h).weighted]
  unfold observedPages accessedPages weightedPages
  simp only [← Finset.sum_boole]
  rw [sum_segments _ hpages hbins, sum_segments _ hpages hbins, sum_segments _ hpages hbins]
  rfl

end

section

variable {filePageCount requestedBins partitionGeneration : ℤ}

theorem specOf_unique (hpages : 0 < filePageCount) (hbins : 0 < requestedBins) {i j : ℕ} {page : ℤ}
    (hi : (specOf filePageCount requestedBins partitionGeneration i).startPage ≤ page)
    (hi' : page < (specOf filePageCount requestedBins partitionGeneration i).endPageExclusive)
    (hj : (specOf filePageCount requestedBins partitionGeneration j).startPage ≤ page)
    (hj' : page < (specOf filePageCount requestedBins partitionGeneration j).endPageExclusive) :
    j = i := by
  have hmono := startOf_strictMono (lt_min hbins hpages) (min_le_right requestedBins filePageCount)
  have hless : (i : ℤ) < (j : ℤ) + 1 := hmono.lt_iff_lt.1 (hi.trans_lt hj')
  have hless' : (j : ℤ) < (i : ℤ) + 1 := hmono.lt_iff_lt.1 (hj.trans_lt hi')
  omega

/-- The bins cut the file up, a summary counts page by page, and the totals of the segments do not
depend on the number of bins. -/
theorem segments_partition_and_add_up (hpages : 0 < filePageCount)
    (intervals : List IntervalEvidence) :
    (∀ requestedBins, 0 < requestedBins → ∀ partitionGeneration,
      ∃ segments, allSegments filePageCount requestedBins partitionGeneration = .ok segments ∧
        (segments.length : ℤ) = min requestedBins filePageCount ∧
        Partitions filePageCount segments ∧
        (0 < partitionGeneration → ∀ page, 0 ≤ page → page < filePageCount →
          ∃ s ∈ segments,
            pageToSegment page filePageCount requestedBins partitionGeneration = .ok s ∧
            s.startPage ≤ page ∧ page < s.endPageExclusive ∧
            ∀ t ∈ segments, t.startPage ≤ page → page < t.endPageExclusive → t = s)) ∧
    (∀ segmentStart segmentEnd, 0 ≤ segmentStart → segmentStart < segmentEnd →
      ∃ summary, coverageSummary segmentStart segmentEnd intervals = .ok summary ∧
        Summarizes segmentStart segmentEnd intervals summary) ∧
    ∃ total, ∀ requestedBins, 0 < requestedBins → ∀ partitionGeneration,
      totals filePageCount requestedBins partitionGeneration intervals = .ok total := by
  refine ⟨fun requestedBins hbins partitionGeneration => ?_,
    fun segmentStart segmentEnd hstart hend => coverageSummary_ok hstart hend intervals,
    _, fun requestedBins hbins partitionGeneration => totals_ok hpages hbins⟩
  have heffective : 0 < min requestedBins filePageCount := lt_min hbins hpages
  refine ⟨_, allSegments_ok hpages hbins, ?_, allSegments_partitions hpages hbins, ?_⟩
  · rw [length_map, length_range, Int.toNat_of_nonneg heffective.le]
  · intro hgeneration page hpage hpage'
    obtain ⟨i, hi, hok, hstart, hend⟩ :=
      pageToSegment_ok hpages hbins hgeneration hpage hpage'
    refine ⟨_, mem_map_of_mem (mem_range.2 hi), hok, hstart, hend, ?_⟩
    intro t ht htstart htend
    obtain ⟨j, -, rfl⟩ := mem_map.1 ht
    rw [specOf_unique hpages hbins hstart hend htstart htend]

/-- A file of 103 pages whose tail is read half the time. -/
theorem segments_partition_and_add_up_tail : ∃ total, ∀ requestedBins, 0 < requestedBins →
    ∀ partitionGeneration, totals 103 requestedBins partitionGeneration
      [⟨95, 110, 1 / 2, 1, by decide, by decide, one_half_pos.le, one_half_lt_one.le⟩] = .ok total :=
  (segments_partition_and_add_up (by decide) _).2.2

end

end Parp.FileSegments
