import Parp.EvidenceOwners
import Parp.TimeRing

set_option autoImplicit false

/-!
# Windows of a builder

The buckets of a builder are a ring of sixty seconds. Its windows are compared with the sums over
the samples it took.
-/
namespace Parp.EvidenceWindows

open Evidence EvidenceOwners List

variable {κ : Type}

def secondOf (observation : ParpObservation κ) : ℕ :=
  (observation.sample.timestampNs / nsecPerSec).toNat

def accessSum (samples : List (ParpObservation κ)) : ℕ :=
  (samples.map fun observation => observation.sample.nrAccesses.toNat).sum

def activeCount (samples : List (ParpObservation κ)) : ℕ :=
  samples.countP fun observation => observation.sample.nrAccesses ≠ 0

inductive Span
  | ten | thirty | sixty
  deriving DecidableEq

def Span.seconds : Span → ℕ
  | .ten => 10
  | .thirty => 30
  | .sixty => 60

def Span.evidence : Span → ParpWindowStats → UInt64
  | .ten => ParpWindowStats.accessEvidence10s
  | .thirty => ParpWindowStats.accessEvidence30s
  | .sixty => ParpWindowStats.accessEvidence60s

def Span.intervals : Span → ParpWindowStats → UInt32
  | .ten => ParpWindowStats.activeIntervals10s
  | .thirty => ParpWindowStats.activeIntervals30s
  | .sixty => ParpWindowStats.activeIntervals60s

def Span.Has (span : Span) (now second : ℕ) : Prop :=
  second ≤ now ∧ now - second < span.seconds

instance (span : Span) (now second : ℕ) : Decidable (span.Has now second) :=
  inferInstanceAs (Decidable (_ ∧ _))

def Span.samples (span : Span) (nowNs : UInt64) (samples : List (ParpObservation κ)) :
    List (ParpObservation κ) :=
  samples.filter fun observation => span.Has (nowNs / nsecPerSec).toNat (secondOf observation)

/-- The window is the saturating sum and the number of the samples of its seconds. -/
structure ExactSpan (samples : List (ParpObservation κ)) (nowNs : UInt64)
    (windows : ParpWindowStats) (span : Span) : Prop where
  evidence : (span.evidence windows).toNat =
    min (accessSum (span.samples nowNs samples)) (2 ^ 64 - 1)
  intervals : (span.intervals windows).toNat = activeCount (span.samples nowNs samples)

def Exact (samples : List (ParpObservation κ)) (nowNs : UInt64) (windows : ParpWindowStats) :
    Prop :=
  ∀ span, ExactSpan samples nowNs windows span

def Superseded (samples : List (ParpObservation κ)) (observation : ParpObservation κ) : Prop :=
  ∃ later ∈ samples, secondOf observation < secondOf later ∧
    secondOf later % parpWindowBuckets = secondOf observation % parpWindowBuckets

instance (samples : List (ParpObservation κ)) (observation : ParpObservation κ) :
    Decidable (Superseded samples observation) :=
  inferInstanceAs (Decidable (∃ later ∈ samples, _ ∧ _))

/-- The samples of the last minute fit their counter, and each of them that saw an access still has
its bucket. -/
structure Undisturbed (samples : List (ParpObservation κ)) (nowNs : UInt64) : Prop where
  few : activeCount (Span.sixty.samples nowNs samples) < 2 ^ 32
  kept : ∀ observation ∈ Span.sixty.samples nowNs samples, observation.sample.nrAccesses ≠ 0 →
    secondOf observation ≠ 0 ∧ ¬ Superseded samples observation

instance (samples : List (ParpObservation κ)) (nowNs : UInt64) :
    Decidable (Undisturbed samples nowNs) :=
  decidable_of_iff (activeCount (Span.sixty.samples nowNs samples) < 2 ^ 32 ∧
      ∀ observation ∈ Span.sixty.samples nowNs samples, observation.sample.nrAccesses ≠ 0 →
        secondOf observation ≠ 0 ∧ ¬ Superseded samples observation)
    ⟨fun h => ⟨h.1, h.2⟩, fun h => ⟨h.few, h.kept⟩⟩

def Timely (earlier later : ParpObservation κ) : Prop :=
  earlier.sample.timestampNs.toNat ≤ later.sample.timestampNs.toNat + 2 * 10 ^ 9

section

variable {samples : List (ParpObservation κ)} {nowNs : UInt64}

def freshBucket (second : ℕ) : ParpTimeBucket where
  second := UInt64.ofNat second

def addSample (bucket : ParpTimeBucket) (observation : ParpObservation κ) : ParpTimeBucket :=
  bucketAdd bucket bucket.second observation.sample.nrAccesses

theorem freshBucket_second (observation : ParpObservation κ) :
    (freshBucket (secondOf observation)).second = observation.sample.timestampNs / nsecPerSec :=
  UInt64.ofNat_toNat

variable (bucket : ParpTimeBucket) (observation : ParpObservation κ)

theorem addSample_second :
    (addSample bucket observation).second = bucket.second := by
  simp [addSample, bucketAdd]

def sampleRing (κ : Type) : TimeRing (ParpObservation κ) ParpTimeBucket where
  size := parpWindowBuckets
  time := secondOf
  second bucket := bucket.second.toNat
  fresh := freshBucket
  add := addSample
  second_zero := rfl
  second_fresh observation := congrArg UInt64.toNat (freshBucket_second observation)
  second_add bucket observation := congrArg UInt64.toNat (addSample_second bucket observation)

theorem timely_inOrder (h : samples.Pairwise Timely) : (sampleRing κ).InOrder samples := by
  refine h.imp fun {earlier later} htimely hindex => ?_
  change earlier.sample.timestampNs.toNat / 1000000000 % 60 =
    later.sample.timestampNs.toNat / 1000000000 % 60 at hindex
  change earlier.sample.timestampNs.toNat / 1000000000 ≤
    later.sample.timestampNs.toNat / 1000000000
  unfold Timely at htimely
  omega

theorem update_put (buckets : List ParpTimeBucket) (observation : ParpObservation κ) :
    parpUpdateBucket buckets observation.sample.timestampNs observation.sample.nrAccesses =
      (sampleRing κ).put buckets observation := by
  change buckets.modify _ _ = buckets.modify _ _
  congr 1
  funext bucket
  change _ = addSample
    (if bucket.second.toNat ≠ secondOf observation then freshBucket (secondOf observation)
      else bucket) observation
  by_cases hsame : bucket.second = observation.sample.timestampNs / nsecPerSec
  · have htime : ¬ bucket.second.toNat ≠ secondOf observation := by
      rw [hsame]
      exact not_not.2 rfl
    rw [if_neg htime]
    unfold addSample
    rw [hsame]
  · have htime : bucket.second.toNat ≠ secondOf observation :=
      fun heq => hsame (UInt64.toNat_inj.1 heq)
    rw [if_pos htime]
    have hfresh : freshBucket (secondOf observation) =
        { second := observation.sample.timestampNs / nsecPerSec } :=
      congrArg (fun second => ({ second := second } : ParpTimeBucket))
        (freshBucket_second observation)
    unfold addSample
    rw [hfresh]
    simp [bucketAdd, hsame]

theorem buckets_after (h : samples.Pairwise Timely) {builder : ParpBuilder κ}
    (hbuilder : builderOf samples = some builder) :
    builder.buckets = (List.range parpWindowBuckets).map ((sampleRing κ).cell samples) := by
  have hfold : ∀ (rest : List (ParpObservation κ)) (builder : ParpBuilder κ),
      (rest.foldl takeSample builder).buckets =
        rest.foldl (sampleRing κ).put builder.buckets := by
    intro rest
    induction rest with
    | nil => exact fun _ => rfl
    | cons observation rest ih =>
      intro builder
      rw [foldl_cons, foldl_cons, ih, ← update_put]
      rfl
  have hcells := (sampleRing κ).cells_after (timely_inOrder h)
  change _ = (List.range parpWindowBuckets).map _ at hcells
  cases samples with
  | nil => cases hbuilder
  | cons first rest =>
    obtain rfl := Option.some.inj hbuilder
    rw [hfold, ← hcells, foldl_cons, ← update_put]
    rfl

theorem satAdd_toNat (left right : UInt64) :
    (satAdd left right).toNat = min (left.toNat + right.toNat) (2 ^ 64 - 1) := by
  unfold satAdd
  split_ifs with h
  · rw [UInt64.toNat_add, Nat.mod_eq_of_lt h]
    omega
  · rw [Nat.min_eq_right (by omega)]
    rfl

theorem addSample_evidence :
    (addSample bucket observation).evidence.toNat =
      min (bucket.evidence.toNat + observation.sample.nrAccesses.toNat) (2 ^ 64 - 1) := by
  have hfield : (addSample bucket observation).evidence =
      satAdd bucket.evidence observation.sample.nrAccesses.toUInt64 := by
    simp [addSample, bucketAdd]
  rw [hfield, satAdd_toNat, UInt32.toNat_toUInt64]

theorem addSample_intervals :
    (addSample bucket observation).activeIntervals.toNat =
      min (bucket.activeIntervals.toNat + if observation.sample.nrAccesses ≠ 0 then 1 else 0)
        (2 ^ 32 - 1) := by
  have hfield : (addSample bucket observation).activeIntervals =
      if observation.sample.nrAccesses ≠ 0 ∧ bucket.activeIntervals ≠ u32Max then
        bucket.activeIntervals + 1
      else bucket.activeIntervals := by
    simp [addSample, bucketAdd]
  have hlt := bucket.activeIntervals.toNat_lt
  have hmax : bucket.activeIntervals ≠ u32Max → bucket.activeIntervals.toNat < 2 ^ 32 - 1 := by
    intro hne
    have hnat : bucket.activeIntervals.toNat ≠ u32Max.toNat :=
      fun heq => hne (UInt32.toNat_inj.1 heq)
    change bucket.activeIntervals.toNat ≠ 2 ^ 32 - 1 at hnat
    omega
  rw [hfield]
  by_cases hactive : observation.sample.nrAccesses ≠ 0
  · rw [if_pos hactive]
    by_cases hfull : bucket.activeIntervals = u32Max
    · rw [if_neg (fun h => h.2 hfull), hfull]
      rfl
    · have hroom := hmax hfull
      rw [if_pos ⟨hactive, hfull⟩, UInt32.toNat_add]
      change (bucket.activeIntervals.toNat + 1) % 2 ^ 32 = _
      omega
  · rw [if_neg hactive, if_neg (fun h => hactive h.1)]
    omega

theorem accessSum_cons (first : ParpObservation κ) (rest : List (ParpObservation κ)) :
    accessSum (first :: rest) = first.sample.nrAccesses.toNat + accessSum rest := by
  simp [accessSum]

theorem activeCount_cons (first : ParpObservation κ) (rest : List (ParpObservation κ)) :
    activeCount (first :: rest) =
      (if first.sample.nrAccesses ≠ 0 then 1 else 0) + activeCount rest := by
  unfold activeCount
  rw [countP_cons, Nat.add_comm]
  simp

theorem bucket_sums (list : List (ParpObservation κ)) (bucket : ParpTimeBucket) :
    (list.foldl addSample bucket).evidence.toNat =
        min (bucket.evidence.toNat + accessSum list) (2 ^ 64 - 1) ∧
      (list.foldl addSample bucket).activeIntervals.toNat =
        min (bucket.activeIntervals.toNat + activeCount list) (2 ^ 32 - 1) := by
  induction list generalizing bucket with
  | nil =>
    have hevidence := bucket.evidence.toNat_lt
    have hintervals := bucket.activeIntervals.toNat_lt
    change bucket.evidence.toNat = min (bucket.evidence.toNat + 0) _ ∧
      bucket.activeIntervals.toNat = min (bucket.activeIntervals.toNat + 0) _
    omega
  | cons observation rest ih =>
    obtain ⟨hevidence, hintervals⟩ := ih (addSample bucket observation)
    rw [addSample_evidence] at hevidence
    rw [addSample_intervals] at hintervals
    rw [foldl_cons, accessSum_cons, activeCount_cons]
    omega

theorem cell_sums (samples : List (ParpObservation κ)) (r : ℕ) :
    ((sampleRing κ).cell samples r).evidence.toNat =
        min (accessSum ((sampleRing κ).held samples r)) (2 ^ 64 - 1) ∧
      ((sampleRing κ).cell samples r).activeIntervals.toNat =
        min (activeCount ((sampleRing κ).held samples r)) (2 ^ 32 - 1) := by
  obtain ⟨hevidence, hintervals⟩ := bucket_sums ((sampleRing κ).held samples r)
    (freshBucket ((sampleRing κ).latest samples r))
  rw [show (freshBucket ((sampleRing κ).latest samples r)).evidence.toNat = 0 from rfl,
    Nat.zero_add] at hevidence
  rw [show (freshBucket ((sampleRing κ).latest samples r)).activeIntervals.toNat = 0 from rfl,
    Nat.zero_add] at hintervals
  exact ⟨hevidence, hintervals⟩

end

section

variable {samples : List (ParpObservation κ)} {nowNs : UInt64} {span : Span}

def Span.Counts (span : Span) (now : UInt64) (bucket : ParpTimeBucket) : Prop :=
  bucket.second ≠ 0 ∧ span.Has now.toNat bucket.second.toNat

instance (span : Span) (now : UInt64) (bucket : ParpTimeBucket) :
    Decidable (span.Counts now bucket) :=
  inferInstanceAs (Decidable (_ ∧ _))

theorem Span.seconds_le (span : Span) : span.seconds ≤ 60 := by
  cases span <;> decide

theorem collectBucket_span (span : Span) (now : UInt64) (windows : ParpWindowStats)
    (bucket : ParpTimeBucket) :
    span.evidence (collectBucket now windows bucket) =
        span.evidence windows + (if span.Counts now bucket then bucket.evidence else 0) ∧
      span.intervals (collectBucket now windows bucket) =
        span.intervals windows +
          (if span.Counts now bucket then bucket.activeIntervals else 0) := by
  have hlimit := span.seconds_le
  have hle : bucket.second > now ↔ ¬ bucket.second.toNat ≤ now.toNat := by
    rw [gt_iff_lt, UInt64.lt_iff_toNat_lt, Nat.not_le]
  unfold collectBucket Span.Counts Span.Has
  by_cases hearlier : bucket.second.toNat ≤ now.toNat
  · have hage : (now - bucket.second).toNat = now.toNat - bucket.second.toNat :=
      UInt64.toNat_sub_of_le _ _ (UInt64.le_iff_toNat_le.2 hearlier)
    by_cases hout : bucket.second = 0 ∨ now.toNat - bucket.second.toNat ≥ 60
    · rw [if_pos (by simpa [hle, hearlier, UInt64.le_iff_toNat_le, hage] using hout)]
      have hnone : ¬ (bucket.second ≠ 0 ∧ bucket.second.toNat ≤ now.toNat ∧
          now.toNat - bucket.second.toNat < span.seconds) := by
        rintro ⟨hzero, -, hlt⟩
        rcases hout with hzero' | hold
        · exact hzero hzero'
        · omega
      simp [hnone]
    · rw [if_neg (by simpa [hle, hearlier, UInt64.lt_iff_toNat_lt, hage] using hout)]
      rw [not_or] at hout
      have hyounger : ∀ limit : UInt64, now - bucket.second < limit ↔
          now.toNat - bucket.second.toNat < limit.toNat := by
        intro limit
        rw [UInt64.lt_iff_toNat_lt, hage]
      have h10 := hyounger 10
      have h30 := hyounger 30
      change _ ↔ _ < 10 at h10
      change _ ↔ _ < 30 at h30
      have hin : (bucket.second ≠ 0 ∧ bucket.second.toNat ≤ now.toNat ∧
          now.toNat - bucket.second.toNat < span.seconds) ↔
            now.toNat - bucket.second.toNat < span.seconds :=
        ⟨fun h => h.2.2, fun h => ⟨hout.1, hearlier, h⟩⟩
      have hsixty : now.toNat - bucket.second.toNat < 60 := by omega
      simp only [h10, h30, hin]
      cases span with
      | ten =>
        change _ = _ + (if _ < 10 then _ else _) ∧ _ = _ + (if _ < 10 then _ else _)
        by_cases hten : now.toNat - bucket.second.toNat < 10
        · have hthirty : now.toNat - bucket.second.toNat < 30 := by omega
          simp [Span.evidence, Span.intervals, hten, hthirty]
        · simp only [if_neg hten]
          split_ifs
          all_goals simp [Span.evidence, Span.intervals, hten]
      | thirty =>
        change _ = _ + (if _ < 30 then _ else _) ∧ _ = _ + (if _ < 30 then _ else _)
        by_cases hthirty : now.toNat - bucket.second.toNat < 30
        · simp only [if_pos hthirty]
          split_ifs
          all_goals simp [Span.evidence, Span.intervals, hthirty]
        · have hten : ¬ now.toNat - bucket.second.toNat < 10 := by omega
          simp [Span.evidence, Span.intervals, hten, hthirty]
      | sixty =>
        change _ = _ + (if _ < 60 then _ else _) ∧ _ = _ + (if _ < 60 then _ else _)
        split_ifs
        all_goals simp [Span.evidence, Span.intervals, hsixty]
  · simp [hle, hearlier]

theorem collect_sums (span : Span) (now : UInt64) (windows : ParpWindowStats)
    (cells : ℕ → ParpTimeBucket) (n : ℕ) :
    (span.evidence (((List.range n).map cells).foldl (collectBucket now) windows)).toNat =
        ((span.evidence windows).toNat + ∑ r ∈ Finset.range n,
          if span.Counts now (cells r) then (cells r).evidence.toNat else 0) % 2 ^ 64 ∧
      (span.intervals (((List.range n).map cells).foldl (collectBucket now) windows)).toNat =
        ((span.intervals windows).toNat + ∑ r ∈ Finset.range n,
          if span.Counts now (cells r) then (cells r).activeIntervals.toNat else 0) % 2 ^ 32 := by
  induction n with
  | zero =>
    have hevidence := (span.evidence windows).toNat_lt
    have hintervals := (span.intervals windows).toNat_lt
    simp only [range_zero, map_nil, foldl_nil, Finset.range_zero,
      Finset.sum_empty]
    omega
  | succ n ih =>
    obtain ⟨hevidence, hintervals⟩ := ih
    rw [range_succ, map_append, map_singleton, foldl_append, foldl_cons,
      foldl_nil, Finset.sum_range_succ, Finset.sum_range_succ]
    obtain ⟨hlastEvidence, hlastIntervals⟩ := collectBucket_span span now
      (((List.range n).map cells).foldl (collectBucket now) windows) (cells n)
    rw [hlastEvidence, hlastIntervals, UInt64.toNat_add, UInt32.toNat_add, hevidence, hintervals]
    split_ifs
    · omega
    · rw [UInt64.toNat_zero, UInt32.toNat_zero]
      omega

theorem activeCount_eq_sum (list : List (ParpObservation κ)) :
    activeCount list =
      (list.map fun observation => if observation.sample.nrAccesses ≠ 0 then 1 else 0).sum := by
  induction list with
  | nil => rfl
  | cons observation list ih => rw [activeCount_cons, ih, map_cons, sum_cons]

theorem accessSum_le (list : List (ParpObservation κ)) :
    accessSum list ≤ activeCount list * (2 ^ 32 - 1) := by
  induction list with
  | nil => exact Nat.zero_le _
  | cons observation list ih =>
    have hlt := observation.sample.nrAccesses.toNat_lt
    rw [accessSum_cons, activeCount_cons]
    by_cases hactive : observation.sample.nrAccesses = 0
    · rw [hactive, if_neg (not_not.2 rfl), UInt32.toNat_zero]
      omega
    · rw [if_pos hactive]
      omega

def Span.reported (span : Span) (nowNs : UInt64) (samples : List (ParpObservation κ)) :
    List (ParpObservation κ) :=
  samples.filter fun observation =>
    secondOf observation =
        (sampleRing κ).latest samples (secondOf observation % parpWindowBuckets) ∧
      secondOf observation ≠ 0 ∧ span.Has (nowNs / nsecPerSec).toNat (secondOf observation)

theorem counts_iff (span : Span) (now : UInt64) (samples : List (ParpObservation κ)) (r : ℕ) :
    span.Counts now ((sampleRing κ).cell samples r) ↔
      (sampleRing κ).latest samples r ≠ 0 ∧
        span.Has now.toNat ((sampleRing κ).latest samples r) := by
  have hsecond : ((sampleRing κ).cell samples r).second.toNat = (sampleRing κ).latest samples r :=
    (sampleRing κ).second_cell samples r
  unfold Span.Counts
  rw [hsecond, ← hsecond]
  refine and_congr_left' (not_congr ⟨fun h => by rw [h]; rfl, fun h => UInt64.toNat_inj.1 h⟩)

theorem sum_reported (span : Span) (nowNs : UInt64) (samples : List (ParpObservation κ))
    (f : ParpObservation κ → ℕ) :
    (∑ r ∈ Finset.range parpWindowBuckets,
      if span.Counts (nowNs / nsecPerSec) ((sampleRing κ).cell samples r) then
        (((sampleRing κ).held samples r).map f).sum else 0) =
      ((span.reported nowNs samples).map f).sum := by
  have hsum := (sampleRing κ).sum_indices (show 0 < parpWindowBuckets by decide) samples
    (fun r observation => secondOf observation = (sampleRing κ).latest samples r ∧
      secondOf observation ≠ 0 ∧ span.Has (nowNs / nsecPerSec).toNat (secondOf observation)) f
  refine Eq.trans (Finset.sum_congr rfl fun r _ => ?_) hsum
  have hiff := counts_iff span (nowNs / nsecPerSec) samples r
  by_cases hcounts : span.Counts (nowNs / nsecPerSec) ((sampleRing κ).cell samples r)
  · rw [if_pos hcounts]
    refine congrArg (fun list => (List.map f list).sum) (filter_congr fun observation _ => ?_)
    have hlatest := hiff.1 hcounts
    rw [decide_eq_decide, decide_eq_true_eq]
    refine and_congr_right fun _ => ⟨fun htime => ?_, fun h => h.1⟩
    change secondOf observation = _ at htime
    rw [htime]
    exact ⟨rfl, hlatest⟩
  · rw [if_neg hcounts]
    have hnone : (samples.filter fun observation =>
        (sampleRing κ).time observation % (sampleRing κ).size = r ∧
          decide (secondOf observation = (sampleRing κ).latest samples r ∧
            secondOf observation ≠ 0 ∧
              span.Has (nowNs / nsecPerSec).toNat (secondOf observation)) = true) = [] := by
      rw [filter_eq_nil_iff]
      intro observation _ h
      obtain ⟨htime, hrest⟩ := of_decide_eq_true (of_decide_eq_true h).2
      rw [htime] at hrest
      exact hcounts (hiff.2 hrest)
    rw [hnone]
    rfl

theorem held_le (span : Span) (nowNs : UInt64) (samples : List (ParpObservation κ)) {r : ℕ}
    (hcounts : span.Counts (nowNs / nsecPerSec) ((sampleRing κ).cell samples r)) :
    activeCount ((sampleRing κ).held samples r) ≤
      activeCount (Span.sixty.samples nowNs samples) := by
  obtain ⟨-, hle, hlt⟩ := (counts_iff span _ samples r).1 hcounts
  have hlimit := span.seconds_le
  refine (List.Sublist.countP_le ?_)
  refine monotone_filter_right samples fun observation hheld => ?_
  obtain ⟨-, htime⟩ := of_decide_eq_true hheld
  change secondOf observation = _ at htime
  rw [← htime] at hle hlt
  exact decide_eq_true ⟨hle, hlt.trans_le hlimit⟩

theorem reported_le (span : Span) (nowNs : UInt64) (samples : List (ParpObservation κ)) :
    activeCount (span.reported nowNs samples) ≤
      activeCount (Span.sixty.samples nowNs samples) := by
  have hlimit := span.seconds_le
  refine (List.Sublist.countP_le ?_)
  refine monotone_filter_right samples fun observation hreported => ?_
  obtain ⟨-, -, hle, hlt⟩ := of_decide_eq_true hreported
  exact decide_eq_true ⟨hle, hlt.trans_le hlimit⟩

theorem accessSum_lt {list : List (ParpObservation κ)} (h : activeCount list < 2 ^ 32) :
    accessSum list < 2 ^ 64 := by
  have hle := accessSum_le list
  have hproduct : activeCount list * (2 ^ 32 - 1) ≤ (2 ^ 32 - 1) * (2 ^ 32 - 1) :=
    Nat.mul_le_mul_right _ (by omega)
  omega

theorem windows_reported (kind : RegionKind κ) (htimely : samples.Pairwise Timely)
    {builder : ParpBuilder κ} (hbuilder : builderOf samples = some builder)
    (hfew : activeCount (Span.sixty.samples nowNs samples) < 2 ^ 32) (span : Span) :
    (span.evidence (windowsOf kind builder nowNs)).toNat =
        accessSum (span.reported nowNs samples) ∧
      (span.intervals (windowsOf kind builder nowNs)).toNat =
        activeCount (span.reported nowNs samples) := by
  unfold windowsOf parpCollectWindows
  rw [buckets_after htimely hbuilder]
  generalize hstart : ParpWindowStats.mk 0 0 0 0 0 0 builder.firstSeenNs builder.newestNs
    builder.lastAccessNs (builder.newestNs - builder.firstSeenNs) builder.observation.sample.age
    (kind.nrPages builder.observation.key) = start
  have hzero : span.evidence start = 0 ∧ span.intervals start = 0 := by
    rw [← hstart]
    cases span
    all_goals exact ⟨rfl, rfl⟩
  obtain ⟨hevidence, hintervals⟩ := collect_sums span (nowNs / nsecPerSec) start
    ((sampleRing κ).cell samples) parpWindowBuckets
  have hcells : ∀ r, span.Counts (nowNs / nsecPerSec) ((sampleRing κ).cell samples r) →
      ((sampleRing κ).cell samples r).evidence.toNat =
          accessSum ((sampleRing κ).held samples r) ∧
        ((sampleRing κ).cell samples r).activeIntervals.toNat =
          activeCount ((sampleRing κ).held samples r) := by
    intro r hcounts
    have hheld := (held_le span nowNs samples hcounts).trans_lt hfew
    obtain ⟨hcellEvidence, hcellIntervals⟩ := cell_sums samples r
    have hsum := accessSum_lt hheld
    omega
  have hreported := (reported_le span nowNs samples).trans_lt hfew
  rw [hzero.1, UInt64.toNat_zero, Nat.zero_add] at hevidence
  rw [hzero.2, UInt32.toNat_zero, Nat.zero_add] at hintervals
  have hevidenceSum : (∑ r ∈ Finset.range parpWindowBuckets,
      if span.Counts (nowNs / nsecPerSec) ((sampleRing κ).cell samples r) then
        ((sampleRing κ).cell samples r).evidence.toNat else 0) =
      accessSum (span.reported nowNs samples) := by
    refine Eq.trans (Finset.sum_congr rfl fun r _ => ?_) (sum_reported span nowNs samples _)
    split_ifs with hcounts
    · exact (hcells r hcounts).1
    · rfl
  have hintervalsSum : (∑ r ∈ Finset.range parpWindowBuckets,
      if span.Counts (nowNs / nsecPerSec) ((sampleRing κ).cell samples r) then
        ((sampleRing κ).cell samples r).activeIntervals.toNat else 0) =
      activeCount (span.reported nowNs samples) := by
    rw [activeCount_eq_sum]
    refine Eq.trans (Finset.sum_congr rfl fun r _ => ?_) (sum_reported span nowNs samples _)
    split_ifs with hcounts
    · rw [(hcells r hcounts).2, activeCount_eq_sum]
    · rfl
  rw [hevidenceSum, Nat.mod_eq_of_lt (accessSum_lt hreported)] at hevidence
  rw [hintervalsSum, Nat.mod_eq_of_lt hreported] at hintervals
  exact ⟨hevidence, hintervals⟩

theorem latest_iff {observation : ParpObservation κ} (hmem : observation ∈ samples) :
    secondOf observation =
        (sampleRing κ).latest samples (secondOf observation % parpWindowBuckets) ↔
      ¬ Superseded samples observation := by
  have hle : secondOf observation ≤
      (sampleRing κ).latest samples (secondOf observation % parpWindowBuckets) :=
    (sampleRing κ).le_latest hmem
  constructor
  · rintro hlatest ⟨later, hlater, hlt, hindex⟩
    have hbound : secondOf later ≤
        (sampleRing κ).latest samples (secondOf later % parpWindowBuckets) :=
      (sampleRing κ).le_latest hlater
    rw [hindex, ← hlatest] at hbound
    omega
  · intro hnone
    rcases (sampleRing κ).latest_arrived samples (secondOf observation % parpWindowBuckets) with
      hzero | ⟨later, hlater, hindex, htime⟩
    · omega
    · by_contra hne
      refine hnone ⟨later, hlater, ?_, hindex⟩
      change secondOf later = _ at htime
      omega

theorem reported_eq (span : Span) (nowNs : UInt64) (samples : List (ParpObservation κ)) :
    span.reported nowNs samples =
      (span.samples nowNs samples).filter fun observation =>
        secondOf observation = (sampleRing κ).latest samples
          (secondOf observation % parpWindowBuckets) ∧ secondOf observation ≠ 0 := by
  unfold Span.reported Span.samples
  rw [filter_filter]
  refine filter_congr fun observation _ => ?_
  rw [Bool.eq_iff_iff, Bool.and_eq_true, decide_eq_true_eq, decide_eq_true_eq, decide_eq_true_eq,
    and_assoc]

theorem sums_filter (list : List (ParpObservation κ)) (p : ParpObservation κ → Bool)
    (h : ∀ observation ∈ list, observation.sample.nrAccesses ≠ 0 → p observation = true) :
    accessSum (list.filter p) = accessSum list ∧
      activeCount (list.filter p) = activeCount list := by
  induction list with
  | nil => exact ⟨rfl, rfl⟩
  | cons observation list ih =>
    obtain ⟨haccess, hactive⟩ := ih fun other hmem => h other (mem_cons_of_mem _ hmem)
    rw [filter_cons]
    split_ifs with hkept
    · rw [accessSum_cons, accessSum_cons, activeCount_cons, activeCount_cons, haccess, hactive]
      exact ⟨rfl, rfl⟩
    · have hzero : observation.sample.nrAccesses = 0 :=
        by_contra fun hne => hkept (h observation mem_cons_self hne)
      rw [accessSum_cons, activeCount_cons, haccess, hactive, hzero]
      simp

theorem of_activeCount_filter {list : List (ParpObservation κ)} {p : ParpObservation κ → Bool}
    (h : activeCount (list.filter p) = activeCount list) :
    ∀ observation ∈ list, observation.sample.nrAccesses ≠ 0 → p observation = true := by
  have hsplit := countP_eq_countP_filter_add list
    (fun observation => decide (observation.sample.nrAccesses ≠ 0)) p
  have hlost : (list.filter fun observation => !p observation).countP
      (fun observation => decide (observation.sample.nrAccesses ≠ 0)) = 0 := by
    unfold activeCount at h
    omega
  rw [countP_eq_zero] at hlost
  intro observation hmem hactive
  by_contra hkept
  exact hlost observation (mem_filter.2 ⟨hmem, by simp [hkept]⟩) (decide_eq_true hactive)

/-- The windows of a builder are exact if and only if no sample of the last minute was lost. -/
theorem exact_iff (kind : RegionKind κ) (htimely : samples.Pairwise Timely)
    {builder : ParpBuilder κ} (hbuilder : builderOf samples = some builder) (nowNs : UInt64) :
    Exact samples nowNs (windowsOf kind builder nowNs) ↔ Undisturbed samples nowNs := by
  constructor
  · intro hexact
    have hsixty := (hexact .sixty).intervals
    have hfew : activeCount (Span.sixty.samples nowNs samples) < 2 ^ 32 := by
      rw [← hsixty]
      exact UInt32.toNat_lt _
    refine ⟨hfew, fun observation hmem hactive => ?_⟩
    rw [(windows_reported kind htimely hbuilder hfew .sixty).2, reported_eq] at hsixty
    obtain ⟨hlatest, hzero⟩ := of_decide_eq_true
      (of_activeCount_filter hsixty observation hmem hactive)
    exact ⟨hzero, (latest_iff (mem_filter.1 hmem).1).1 hlatest⟩
  · rintro ⟨hfew, hkept⟩ span
    obtain ⟨hevidence, hintervals⟩ := windows_reported kind htimely hbuilder hfew span
    have hlimit := span.seconds_le
    have hsums := sums_filter (span.samples nowNs samples) (fun observation =>
        decide (secondOf observation = (sampleRing κ).latest samples
          (secondOf observation % parpWindowBuckets) ∧ secondOf observation ≠ 0)) (by
      intro observation hmem hactive
      obtain ⟨hsample, hhas⟩ := mem_filter.1 hmem
      obtain ⟨hle, hlt⟩ := of_decide_eq_true hhas
      obtain ⟨hzero, hlatest⟩ := hkept observation
        (mem_filter.2 ⟨hsample, decide_eq_true ⟨hle, hlt.trans_le hlimit⟩⟩) hactive
      exact decide_eq_true ⟨(latest_iff hsample).2 hlatest, hzero⟩)
    rw [← reported_eq] at hsums
    have hsum := accessSum_lt ((reported_le span nowNs samples).trans_lt hfew)
    refine ⟨?_, hintervals.trans hsums.2⟩
    rw [hevidence, ← hsums.1]
    omega

end

end Parp.EvidenceWindows
