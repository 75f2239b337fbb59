import Mathlib.Data.List.Lex
import Mathlib.Data.List.Sort
import Parp.Internal
import Parp.IntervalSearch

set_option autoImplicit false

/-!
# Region evidence

`mm/parp/core/evidence.c`: builders that accumulate DAMON samples of file and anonymous regions, and
the snapshot published from them. The file and the anonymous side differ in the `RegionKind` only.
Keys are compared by `memcmp`; their padding is zero.
-/
namespace Parp.Evidence

open IntervalSearch

def parpWindowBuckets : ℕ := 60
def parpEvidenceTtlNs : UInt64 := 60 * nsecPerSec
def u32Max : UInt32 := 0xffffffff
def u64Max : UInt64 := 0xffffffffffffffff

structure ParpFileRegionKey where
  devMajor : UInt32 := 0
  devMinor : UInt32 := 0
  inode : UInt64 := 0
  fileVersion : UInt64 := 0
  startIndex : UInt64 := 0
  nrPages : UInt32 := 0
  deriving DecidableEq, Inhabited

structure ParpAnonRegionKey where
  domainId : UInt64 := 0
  foregroundEpochId : UInt64 := 0
  mmCookie : UInt64 := 0
  processRole : UInt32 := 0
  vmaSignature : UInt64 := 0
  relativeStartPages : UInt32 := 0
  nrPages : UInt32 := 0
  deriving DecidableEq, Inhabited

/-- `struct parp_damon_sample` without the cookies, ids and flags that evidence does not read. -/
structure ParpDamonSample where
  timestampNs : UInt64 := 0
  sampleId : UInt64 := 0
  regionStart : UInt64 := 0
  regionEnd : UInt64 := 0
  nrAccesses : UInt32 := 0
  age : UInt32 := 0
  sampleIntervalUs : UInt32 := 0
  aggregationIntervalUs : UInt32 := 0
  deriving DecidableEq, Inhabited

/-- `struct parp_file_observation` and `struct parp_anon_observation`: `regionClass` is the backing
class or the anonymous class, and `versionSource` is a file's only. -/
structure ParpObservation (κ : Type) where
  key : κ
  owner : ParpAppContext := {}
  sample : ParpDamonSample := {}
  regionClass : UInt32 := 0
  versionSource : UInt32 := 0
  confidenceQ15 : UInt32 := 0
  deriving DecidableEq, Inhabited

structure ParpTimeBucket where
  second : UInt64 := 0
  evidence : UInt64 := 0
  activeIntervals : UInt32 := 0
  deriving DecidableEq, Inhabited

structure ParpBuilder (κ : Type) where
  observation : ParpObservation κ
  buckets : List ParpTimeBucket := List.replicate parpWindowBuckets {}
  newestNs : UInt64 := 0
  firstSeenNs : UInt64 := 0
  lastAccessNs : UInt64 := 0
  lastSampleId : UInt64 := 0
  deriving DecidableEq

structure ParpWindowStats where
  accessEvidence10s : UInt64 := 0
  accessEvidence30s : UInt64 := 0
  accessEvidence60s : UInt64 := 0
  activeIntervals10s : UInt32 := 0
  activeIntervals30s : UInt32 := 0
  activeIntervals60s : UInt32 := 0
  firstSeenNs : UInt64 := 0
  lastSeenNs : UInt64 := 0
  lastAccessNs : UInt64 := 0
  observedDurationNs : UInt64 := 0
  age : UInt32 := 0
  regionSizePages : UInt32 := 0
  deriving DecidableEq, Inhabited

/-- `struct parp_file_evidence` and `struct parp_anon_evidence`. -/
structure ParpEvidence (κ : Type) where
  domainId : UInt64
  appId : UInt32
  bindGeneration : UInt32
  key : κ
  windows : ParpWindowStats
  regionClass : UInt32
  versionSource : UInt32
  confidenceQ15 : UInt32
  expiresNs : UInt64
  modelVersion : UInt64
  snapshotVersion : UInt64
  deriving DecidableEq

structure ParpDomainAnonEvidence where
  domainId : UInt64
  appId : UInt32
  bindGeneration : UInt32
  modelVersion : UInt64
  observedPages : UInt64 := 0
  activePages10s : UInt64 := 0
  activePages30s : UInt64 := 0
  activePages60s : UInt64 := 0
  coolingPages : UInt64 := 0
  confidenceQ15 : UInt32 := 0
  deriving DecidableEq

structure ParpEvidenceSnapshot where
  version : UInt64
  createdNs : UInt64
  expiresNs : UInt64
  files : List (ParpEvidence ParpFileRegionKey)
  anons : List (ParpEvidence ParpAnonRegionKey)
  domains : List ParpDomainAnonEvidence
  deriving DecidableEq

structure Limits where
  maxFileRegionsPerDomain : UInt32 := 4096
  maxAnonRegionsPerDomain : UInt32 := 2048
  maxTotalRegions : UInt32 := 65536
  deriving DecidableEq

structure RegionKind (κ : Type) where
  domain : ParpObservation κ → UInt64
  nrPages : κ → UInt32
  /-- The builder's observation and a new one are about the same region. -/
  sameRegion : ParpObservation κ → ParpObservation κ → Bool
  perDomain : Limits → UInt32
  /-- The region belongs to the foreground epoch of the context. -/
  sameEpoch : κ → ParpAppContext → Bool

def fileKind : RegionKind ParpFileRegionKey where
  domain observation := observation.owner.domainId
  nrPages key := key.nrPages
  sameRegion observation other :=
    observation.owner.domainId = other.owner.domainId ∧ observation.key = other.key
  perDomain limits := limits.maxFileRegionsPerDomain
  sameEpoch _ _ := true

def anonKind : RegionKind ParpAnonRegionKey where
  domain observation := observation.key.domainId
  nrPages key := key.nrPages
  sameRegion observation other := observation.key = other.key
  perDomain limits := limits.maxAnonRegionsPerDomain
  sameEpoch key context := context.foregroundEpochId = key.foregroundEpochId

inductive EvidenceErrno
  | einval | enomem | enospc | ealready | estale
  deriving DecidableEq

def parpSampleValid (sample : ParpDamonSample) : Bool :=
  sample.timestampNs ≠ 0 ∧ sample.sampleId ≠ 0 ∧ sample.regionStart < sample.regionEnd ∧
    sample.sampleIntervalUs ≠ 0 ∧ sample.aggregationIntervalUs ≠ 0

def satAdd (left right : UInt64) : UInt64 :=
  if left.toNat + right.toNat < 2 ^ 64 then left + right else u64Max

def bucketAdd (bucket : ParpTimeBucket) (second : UInt64) (evidence : UInt32) : ParpTimeBucket :=
  let bucket := if bucket.second ≠ second then { second := second } else bucket
  { bucket with
    evidence := satAdd bucket.evidence evidence.toUInt64
    activeIntervals :=
      if evidence ≠ 0 ∧ bucket.activeIntervals ≠ u32Max then bucket.activeIntervals + 1
      else bucket.activeIntervals }

def parpUpdateBucket (buckets : List ParpTimeBucket) (timestampNs : UInt64) (evidence : UInt32) :
    List ParpTimeBucket :=
  let second := timestampNs / nsecPerSec
  buckets.modify (second.toNat % parpWindowBuckets) fun bucket => bucketAdd bucket second evidence

def collectBucket (nowSecond : UInt64) (windows : ParpWindowStats) (bucket : ParpTimeBucket) :
    ParpWindowStats :=
  if bucket.second = 0 ∨ bucket.second > nowSecond ∨ nowSecond - bucket.second ≥ 60 then windows
  else
    let age := nowSecond - bucket.second
    let windows :=
      { windows with
        accessEvidence60s := windows.accessEvidence60s + bucket.evidence
        activeIntervals60s := windows.activeIntervals60s + bucket.activeIntervals }
    let windows :=
      if age < 30 then
        { windows with
          accessEvidence30s := windows.accessEvidence30s + bucket.evidence
          activeIntervals30s := windows.activeIntervals30s + bucket.activeIntervals }
      else windows
    if age < 10 then
      { windows with
        accessEvidence10s := windows.accessEvidence10s + bucket.evidence
        activeIntervals10s := windows.activeIntervals10s + bucket.activeIntervals }
    else windows

def parpCollectWindows (buckets : List ParpTimeBucket) (nowNs : UInt64)
    (windows : ParpWindowStats) : ParpWindowStats :=
  buckets.foldl (collectBucket (nowNs / nsecPerSec)) windows

structure Table (κ : Type) where
  builders : List (ParpBuilder κ) := []
  capacity : UInt32 := 0
  deriving DecidableEq

section

variable {κ : Type} (kind : RegionKind κ)

def score (confidenceQ15 nrAccesses : UInt32) (timestampNs : UInt64) : UInt64 :=
  confidenceQ15.toUInt64 * 1024 + (min nrAccesses 1023).toUInt64 * 32 + timestampNs / nsecPerSec

def builderScore (builder : ParpBuilder κ) : UInt64 :=
  score builder.observation.confidenceQ15 builder.observation.sample.nrAccesses builder.newestNs

def victim (builders : List (ParpBuilder κ)) (observation : ParpObservation κ)
    (sameDomain : Bool) : Option ℕ :=
  let (weakest, found) := builders.zipIdx.foldl (fun (best : UInt64 × Option ℕ) (builder, i) =>
    if sameDomain ∧ kind.domain builder.observation ≠ kind.domain observation then best
    else if builderScore builder < best.1 then (builderScore builder, some i)
    else best) (u64Max, none)
  if score observation.confidenceQ15 observation.sample.nrAccesses
      observation.sample.timestampNs > weakest then found
  else none

def grow (table : Table κ) (maxTotalRegions : UInt32) (allocated : Bool) :
    Except EvidenceErrno (Table κ) :=
  let capacity :=
    if table.capacity ≠ 0 then min (table.capacity * 2) maxTotalRegions
    else min 64 maxTotalRegions
  if capacity ≤ table.capacity then .error .enospc
  else if allocated = false then .error .enomem
  else .ok { table with capacity := capacity }

def freshBuilder (observation : ParpObservation κ) : ParpBuilder κ where
  observation := observation
  firstSeenNs := observation.sample.timestampNs

def findBuilder (builders : List (ParpBuilder κ)) (observation : ParpObservation κ) :
    Option (ParpBuilder κ × ℕ) :=
  builders.zipIdx.find? fun (builder, _) => kind.sameRegion builder.observation observation

/-- The builder for an observation and its index. A new builder carries the observation at once:
the checks before that never fail on a new builder. `others` counts the builders of the other
kind. -/
def slotFor (limits : Limits) (table : Table κ) (others : ℕ) (observation : ParpObservation κ)
    (allocated : Bool) : Table κ × Except EvidenceErrno (ParpBuilder κ × ℕ) :=
  match findBuilder kind table.builders observation with
  | some found => (table, .ok found)
  | none =>
    let domainFull : Bool :=
      table.builders.countP (fun builder =>
        kind.domain builder.observation = kind.domain observation) ≥
          (kind.perDomain limits).toNat
    let totalFull : Bool := table.builders.length + others ≥ limits.maxTotalRegions.toNat
    let builder := freshBuilder observation
    if domainFull ∨ totalFull then
      match victim kind table.builders observation domainFull with
      | none => (table, .error .enospc)
      | some i => ({ table with builders := table.builders.set i builder }, .ok (builder, i))
    else
      match (if table.builders.length = table.capacity.toNat then
          grow table limits.maxTotalRegions allocated else .ok table) with
      | .error errno => (table, .error errno)
      | .ok table =>
        ({ table with builders := table.builders ++ [builder] },
          .ok (builder, table.builders.length))

def rejects (builder : ParpBuilder κ) (sample : ParpDamonSample) : Option EvidenceErrno :=
  if builder.lastSampleId = sample.sampleId then some .ealready
  else if builder.newestNs ≠ 0 ∧ sample.timestampNs + 2 * nsecPerSec < builder.newestNs then
    some .estale
  else none

def takeSample (builder : ParpBuilder κ) (observation : ParpObservation κ) : ParpBuilder κ :=
  let sample := observation.sample
  { observation := observation
    buckets := parpUpdateBucket builder.buckets sample.timestampNs sample.nrAccesses
    newestNs := max builder.newestNs sample.timestampNs
    firstSeenNs := builder.firstSeenNs
    lastAccessNs := if sample.nrAccesses ≠ 0 then sample.timestampNs else builder.lastAccessNs
    lastSampleId := sample.sampleId }

def tableUpdate (limits : Limits) (table : Table κ) (others : ℕ)
    (observation : ParpObservation κ) (allocated : Bool) : Table κ × Except EvidenceErrno Unit :=
  if parpSampleValid observation.sample = false ∨ kind.nrPages observation.key = 0 then
    (table, .error .einval)
  else
    match (if table.capacity = 0 then grow table limits.maxTotalRegions allocated
        else .ok table) with
    | .error _ => (table, .error .enomem)
    | .ok table =>
      match slotFor kind limits table others observation allocated with
      | (table, .error errno) => (table, .error errno)
      | (table, .ok (builder, i)) =>
        match rejects builder observation.sample with
        | some errno => (table, .error errno)
        | none =>
          ({ table with builders := table.builders.set i (takeSample builder observation) },
            .ok ())

def windowsOf (builder : ParpBuilder κ) (nowNs : UInt64) : ParpWindowStats :=
  parpCollectWindows builder.buckets nowNs {
    firstSeenNs := builder.firstSeenNs
    lastSeenNs := builder.newestNs
    lastAccessNs := builder.lastAccessNs
    observedDurationNs := builder.newestNs - builder.firstSeenNs
    age := builder.observation.sample.age
    regionSizePages := kind.nrPages builder.observation.key }

/-- The entry of a builder that is fresh and whose owner is still bound; `lookup` is
`parp_context_lookup` at the time of the publication. -/
def publishedEntry (lookup : UInt64 → Option ParpAppContext) (nowNs version : UInt64)
    (builder : ParpBuilder κ) : Option (ParpEvidence κ) :=
  let owner := builder.observation.owner
  if nowNs ≥ builder.newestNs + parpEvidenceTtlNs then none
  else
    match lookup owner.domainId with
    | none => none
    | some context =>
      if context.appId ≠ owner.appId ∨ context.bindGeneration ≠ owner.bindGeneration ∨
          kind.sameEpoch builder.observation.key context = false ∨
          context.modelVersion ≠ owner.modelVersion then none
      else
        some {
          domainId := kind.domain builder.observation
          appId := owner.appId
          bindGeneration := owner.bindGeneration
          key := builder.observation.key
          windows := windowsOf kind builder nowNs
          regionClass := builder.observation.regionClass
          versionSource := builder.observation.versionSource
          confidenceQ15 := builder.observation.confidenceQ15
          expiresNs := min owner.bindExpiryNs (builder.newestNs + parpEvidenceTtlNs)
          modelVersion := owner.modelVersion
          snapshotVersion := version }

end

def addToDomain (entry : ParpEvidence ParpAnonRegionKey) (domain : ParpDomainAnonEvidence) :
    ParpDomainAnonEvidence :=
  let pages := entry.key.nrPages.toUInt64
  let active := fun (evidence total : UInt64) => if evidence ≠ 0 then total + pages else total
  { domain with
    observedPages := domain.observedPages + pages
    activePages10s := active entry.windows.accessEvidence10s domain.activePages10s
    activePages30s := active entry.windows.accessEvidence30s domain.activePages30s
    activePages60s := active entry.windows.accessEvidence60s domain.activePages60s
    confidenceQ15 := max domain.confidenceQ15 entry.confidenceQ15 }

def addEntry (domains : List ParpDomainAnonEvidence) (entry : ParpEvidence ParpAnonRegionKey) :
    List ParpDomainAnonEvidence :=
  match domains.findIdx? fun domain => domain.domainId = entry.key.domainId with
  | some i => domains.modify i (addToDomain entry)
  | none =>
    domains ++ [addToDomain entry {
      domainId := entry.key.domainId
      appId := entry.appId
      bindGeneration := entry.bindGeneration
      modelVersion := entry.modelVersion }]

def domainsOf (entries : List (ParpEvidence ParpAnonRegionKey)) : List ParpDomainAnonEvidence :=
  (entries.foldl addEntry []).map fun domain =>
    { domain with coolingPages := domain.observedPages - domain.activePages30s }

def parpCmpU64 (left right : UInt64) : Ordering :=
  if left = right then .eq else if left < right then .lt else .gt

/-- Up to the file: what `parp_file_compare` and `parp_compare_file_point` have in common. -/
def compareFile (entry : ParpEvidence ParpFileRegionKey) (domainId : UInt64)
    (key : ParpFileRegionKey) : Ordering :=
  (parpCmpU64 entry.domainId domainId).then <|
  (parpCmpU64 entry.key.devMajor.toUInt64 key.devMajor.toUInt64).then <|
  (parpCmpU64 entry.key.devMinor.toUInt64 key.devMinor.toUInt64).then <|
  (parpCmpU64 entry.key.inode key.inode).then <|
  parpCmpU64 entry.key.fileVersion key.fileVersion

def parpFileCompare (a b : ParpEvidence ParpFileRegionKey) : Ordering :=
  (compareFile a b.domainId b.key).then (parpCmpU64 a.key.startIndex b.key.startIndex)

def bytesOf (bytes : ℕ) (value : ℕ) : List ℕ :=
  (List.range bytes).map fun i => value / 256 ^ i % 256

/-- The bytes `memcmp` goes through, padding included. -/
def ParpAnonRegionKey.bytes (key : ParpAnonRegionKey) : List ℕ :=
  bytesOf 8 key.domainId.toNat ++ bytesOf 8 key.foregroundEpochId.toNat ++
    bytesOf 8 key.mmCookie.toNat ++ bytesOf 8 key.processRole.toNat ++
    bytesOf 8 key.vmaSignature.toNat ++ bytesOf 4 key.relativeStartPages.toNat ++
    bytesOf 4 key.nrPages.toNat

def parpAnonLe (a b : ParpEvidence ParpAnonRegionKey) : Prop := a.key.bytes ≤ b.key.bytes

instance : DecidableRel parpAnonLe := fun a b =>
  inferInstanceAs (Decidable (a.key.bytes ≤ b.key.bytes))

def parpFileLe (a b : ParpEvidence ParpFileRegionKey) : Prop := parpFileCompare a b ≠ .gt

instance : DecidableRel parpFileLe := fun a b =>
  inferInstanceAs (Decidable (parpFileCompare a b ≠ .gt))

abbrev FileEntry := ParpEvidence ParpFileRegionKey

theorem parpCmpU64_eq (left right : UInt64) : parpCmpU64 left right = compare left right := by
  unfold parpCmpU64
  change _ = compareOfLessAndEq left right
  unfold compareOfLessAndEq
  split_ifs with heq hlt hlt
  · subst heq
    exact absurd hlt (UInt64.lt_irrefl _)
  · rfl
  · rfl
  · rfl

def cmpFile : UInt64 × ParpFileRegionKey → UInt64 × ParpFileRegionKey → Ordering :=
  compareLex (compareOn Prod.fst) <|
  compareLex (compareOn fun file => file.2.devMajor.toUInt64) <|
  compareLex (compareOn fun file => file.2.devMinor.toUInt64) <|
  compareLex (compareOn fun file => file.2.inode) (compareOn fun file => file.2.fileVersion)

instance : Std.TransCmp cmpFile := by
  unfold cmpFile
  infer_instance

theorem compareFile_eq (entry : FileEntry) (domainId : UInt64) (key : ParpFileRegionKey) :
    compareFile entry domainId key = cmpFile (entry.domainId, entry.key) (domainId, key) := by
  simp only [compareFile, parpCmpU64_eq]
  rfl

def cmpStart : UInt64 × ParpFileRegionKey → UInt64 × ParpFileRegionKey → Ordering :=
  compareLex cmpFile (compareOn fun file => file.2.startIndex)

instance : Std.TransCmp cmpStart := by
  unfold cmpStart
  infer_instance

theorem parpFileLe_iff (a b : FileEntry) :
    parpFileLe a b ↔ (cmpStart (a.domainId, a.key) (b.domainId, b.key)).isLE := by
  unfold parpFileLe parpFileCompare
  rw [compareFile_eq, parpCmpU64_eq]
  exact Ordering.ne_gt_iff_isLE

instance : IsTrans FileEntry parpFileLe where
  trans a b c hab hbc := by
    rw [parpFileLe_iff] at *
    exact Std.TransCmp.isLE_trans hab hbc

instance : Std.Total parpFileLe where
  total a b := by
    rw [parpFileLe_iff, parpFileLe_iff]
    cases hle : (cmpStart (a.domainId, a.key) (b.domainId, b.key)).isLE with
    | true => exact .inl rfl
    | false =>
      have hlt := @Std.OrientedCmp.lt_of_not_isLE _ cmpStart _ _ _ (Bool.eq_false_iff.1 hle)
      exact .inr (by rw [hlt]; rfl)

instance : IsTrans (ParpEvidence ParpAnonRegionKey) parpAnonLe := ⟨fun _ _ _ => le_trans⟩

instance : Std.Total parpAnonLe := ⟨fun _ _ => le_total _ _⟩

/-- What `sort()` makes of a list; it need not be stable. -/
structure Sorting {α : Type} (le : α → α → Prop) where
  sort : List α → List α
  perm (l : List α) : (sort l).Perm l
  sorted (l : List α) : (sort l).Pairwise le

def Sorting.insertion {α : Type} (le : α → α → Prop) [DecidableRel le] [Std.Total le]
    [IsTrans α le] : Sorting le where
  sort := List.insertionSort le
  perm := List.perm_insertionSort le
  sorted := List.pairwise_insertionSort le

structure EvidenceState where
  files : Table ParpFileRegionKey := {}
  anons : Table ParpAnonRegionKey := {}
  limits : Limits := {}
  lastPublishNs : UInt64 := 0
  evidenceVersion : UInt64 := 0
  activeEvidence : Option ParpEvidenceSnapshot := none
  deriving DecidableEq

structure Surroundings where
  tableAllocated : Bool := true
  snapshotAllocated : Bool := true
  lookup : UInt64 → Option ParpAppContext
  sortFiles : Sorting parpFileLe := .insertion parpFileLe
  sortAnons : Sorting parpAnonLe := .insertion parpAnonLe

def parpPublishEvidenceLocked (state : EvidenceState) (env : Surroundings) (nowNs : UInt64) :
    EvidenceState × Except EvidenceErrno Unit :=
  if env.snapshotAllocated = false then (state, .error .enomem)
  else
    let version := state.evidenceVersion + 1
    let files := state.files.builders.filterMap (publishedEntry fileKind env.lookup nowNs version)
    let anons := state.anons.builders.filterMap (publishedEntry anonKind env.lookup nowNs version)
    ({ state with
       evidenceVersion := version
       lastPublishNs := nowNs
       activeEvidence := some {
         version := version
         createdNs := nowNs
         expiresNs := nowNs + parpEvidenceTtlNs
         files := env.sortFiles.sort files
         anons := env.sortAnons.sort anons
         domains := domainsOf anons } }, .ok ())

def publishWhenDue (state : EvidenceState) (env : Surroundings) (timestampNs : UInt64) :
    EvidenceState × Except EvidenceErrno Unit :=
  if timestampNs - state.lastPublishNs ≥ nsecPerSec then
    parpPublishEvidenceLocked state env timestampNs
  else (state, .ok ())

def parpEvidenceUpdateFile (state : EvidenceState) (env : Surroundings)
    (observation : ParpObservation ParpFileRegionKey) : EvidenceState × Except EvidenceErrno Unit :=
  match tableUpdate fileKind state.limits state.files state.anons.builders.length observation
    env.tableAllocated with
  | (files, .error errno) => ({ state with files := files }, .error errno)
  | (files, .ok ()) =>
    publishWhenDue { state with files := files } env observation.sample.timestampNs

def parpEvidenceUpdateAnon (state : EvidenceState) (env : Surroundings)
    (observation : ParpObservation ParpAnonRegionKey) : EvidenceState × Except EvidenceErrno Unit :=
  match tableUpdate anonKind state.limits state.anons state.files.builders.length observation
    env.tableAllocated with
  | (anons, .error errno) => ({ state with anons := anons }, .error errno)
  | (anons, .ok ()) =>
    publishWhenDue { state with anons := anons } env observation.sample.timestampNs

def dropDomain {κ : Type} (gone : ParpBuilder κ → Bool) :
    ℕ → ℕ → List (ParpBuilder κ) → List (ParpBuilder κ)
  | 0, _, builders => builders
  | fuel + 1, i, builders =>
    match builders[i]?, builders.getLast? with
    | some builder, some last =>
      if gone builder then dropDomain gone fuel i ((builders.set i last).dropLast)
      else dropDomain gone fuel (i + 1) builders
    | _, _ => builders

def Table.dropDomain {κ : Type} (kind : RegionKind κ) (domainId : UInt64) (table : Table κ) :
    Table κ :=
  { table with
    builders := Evidence.dropDomain (fun builder => kind.domain builder.observation = domainId)
      (table.builders.length + 1) 0 table.builders }

def parpEvidenceDomainOffline (state : EvidenceState) (env : Surroundings) (domainId nowNs : UInt64) :
    EvidenceState × Except EvidenceErrno Unit :=
  parpPublishEvidenceLocked
    { state with
      files := state.files.dropDomain fileKind domainId
      anons := state.anons.dropDomain anonKind domainId } env nowNs

/-- Where `index` stands to the entry's pages. -/
def parpCompareFilePoint (entry : ParpEvidence ParpFileRegionKey) (domainId : UInt64)
    (key : ParpFileRegionKey) (index : UInt64) : Ordering :=
  (compareFile entry domainId key).then <|
    if index < entry.key.startIndex then .gt
    else if index ≥ entry.key.startIndex + entry.key.nrPages.toUInt64 then .lt
    else .eq

/-- The loop of the lookup: the entry between `left` and `right` that holds the point. -/
def searchPoint (files : List (ParpEvidence ParpFileRegionKey)) (domainId : UInt64)
    (key : ParpFileRegionKey) (index : UInt64) : Option (ParpEvidence ParpFileRegionKey) :=
  (bisect (fun i => (files[i]?).elim .gt fun entry => parpCompareFilePoint entry domainId key index)
    0 files.length).bind fun i => files[i]?

/-- `nowNs` is the clock the lookup reads. -/
def parpEvidenceLookupFile (active : Option ParpEvidenceSnapshot) (domainId : UInt64)
    (key : ParpFileRegionKey) (index : UInt64) (nrPages : UInt32) (nowNs : UInt64) :
    Option (ParpEvidence ParpFileRegionKey) :=
  match active with
  | none => none
  | some snapshot =>
    if nowNs ≥ snapshot.expiresNs then none
    else
      (searchPoint snapshot.files domainId key index).filter fun entry =>
        index + nrPages.toUInt64 ≤ entry.key.startIndex + entry.key.nrPages.toUInt64 ∧
          nowNs < entry.expiresNs

end Parp.Evidence
