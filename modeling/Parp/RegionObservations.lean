import Mathlib.Data.List.Sort
import Mathlib.Algebra.Order.Ring.Rat
import Parp.FallibleFolds
import Parp.OrderedDict

set_option autoImplicit false

/-!
# Region observations

`map_event_to_regions` of the region monitor: the bytes of a DAMON event that lie in some VMA, cut
into pieces, and the region that each piece is attributed to. The floats of the event are rationals.
-/
namespace Parp.Region

open OrderedDict FallibleFolds

inductive MappingType
  | file | sharedLibrary | documentFile | anonHeap | anonStack | namedAnon | graphicsDevice
  | otherDevice | unknownAnon
  deriving DecidableEq

def MappingType.value : MappingType → String
  | .file => "FILE"
  | .sharedLibrary => "SHARED_LIBRARY"
  | .documentFile => "DOCUMENT_FILE"
  | .anonHeap => "ANON_HEAP"
  | .anonStack => "ANON_STACK"
  | .namedAnon => "NAMED_ANON"
  | .graphicsDevice => "GRAPHICS_DEVICE"
  | .otherDevice => "OTHER_DEVICE"
  | .unknownAnon => "UNKNOWN_ANON"

inductive IdentityConfidence
  | high | medium | low
  deriving DecidableEq

structure VMARecord where
  processRole : String
  startAddr : ℤ
  endAddr : ℤ
  sizeBytes : ℤ
  permissions : String
  fileOffset : ℤ
  devMajor : ℤ
  devMinor : ℤ
  inode : ℤ
  pathname : String
  anonName : String
  mappingType : MappingType
  deriving DecidableEq

structure DamonEvent where
  timestampNs : ℤ
  targetId : String := ""
  start : ℤ
  stop : ℤ
  nrAccesses : ℚ
  age : ℤ
  rawLine : String := ""

def DamonEvent.sizeBytes (event : DamonEvent) : ℤ := max 0 (event.stop - event.start)

inductive JsonValue
  | text (value : String)
  | number (value : ℤ)

/-- How `json.dumps` writes a character of a text, without `ensure_ascii`. -/
def jsonChar (c : Char) : String :=
  if c = '"' then "\\\""
  else if c = '\\' then "\\\\"
  else if c = '\n' then "\\n"
  else if c = '\r' then "\\r"
  else if c = '\t' then "\\t"
  else if c.toNat = 8 then "\\b"
  else if c.toNat = 12 then "\\f"
  else if c.toNat < 32 then
    "\\u00" ++ (if c.toNat < 16 then "0" else "1") ++ String.ofList (Nat.toDigits 16 (c.toNat % 16))
  else c.toString

def jsonText (text : String) : String := "\"" ++ String.join (text.toList.map jsonChar) ++ "\""

def JsonValue.dump : JsonValue → String
  | .text value => jsonText value
  | .number value => value.repr

def jsonField (field : String × JsonValue) : String := jsonText field.1 ++ ":" ++ field.2.dump

def jsonFields : List (String × JsonValue) → String
  | [] => ""
  | [field] => jsonField field
  | field :: fields => jsonField field ++ "," ++ jsonFields fields

/-- `_stable_json` of the fields in the order of their names. -/
def stableJson (fields : List (String × JsonValue)) : String :=
  "\x7b" ++ jsonFields fields ++ "\x7d"

def vmaSizeBucket (sizeBytes : ℤ) : String :=
  if sizeBytes ≤ 0 then "0"
  else "2^" ++ toString (Float.log2 (Float.ofInt sizeBytes)).floor.toUInt64.toNat

structure PathMetadata where
  pathname : String
  basename : String
  anonName : String
  deriving DecidableEq

structure StableRegion where
  stableKey : String
  canonicalKey : String
  regionType : MappingType
  identityConfidence : IdentityConfidence
  pathMetadata : PathMetadata
  processRole : String
  deriving DecidableEq

def isFile (vma : VMARecord) : Bool :=
  vma.mappingType ∈ [MappingType.file, .sharedLibrary, .documentFile, .graphicsDevice,
    .otherDevice] ∧ vma.inode ≠ 0

/-- The `role_key` of a file region. -/
def fileRole (appId : String) (vma : VMARecord) (bucket : ℤ) : List (String × JsonValue) :=
  [("app_id", .text appId), ("dev_major", .number vma.devMajor),
    ("dev_minor", .number vma.devMinor), ("file_offset_bucket", .number bucket),
    ("inode", .number vma.inode), ("kind", .text "file_role"),
    ("permissions", .text vma.permissions), ("process_role", .text vma.processRole)]

def fileCanonical (vma : VMARecord) (bucket : ℤ) : List (String × JsonValue) :=
  [("dev_major", .number vma.devMajor), ("dev_minor", .number vma.devMinor),
    ("file_offset_bucket", .number bucket), ("inode", .number vma.inode),
    ("kind", .text "file_canonical")]

/-- The `role_key` of an anonymous region. -/
def anonRole (appId : String) (vma : VMARecord) (relativeBucket : ℤ) : List (String × JsonValue) :=
  [("anon_name", .text vma.anonName), ("anon_type", .text vma.mappingType.value),
    ("app_id", .text appId), ("kind", .text "anon_role"), ("permissions", .text vma.permissions),
    ("process_role", .text vma.processRole), ("relative_offset_bucket", .number relativeBucket),
    ("vma_size_bucket", .text (vmaSizeBucket vma.sizeBytes))]

def anonConfidence (vma : VMARecord) : IdentityConfidence :=
  if vma.mappingType = .namedAnon ∧ vma.anonName ≠ "" then .high
  else if vma.mappingType ∈ [MappingType.anonHeap, .anonStack, .graphicsDevice] then .medium
  else .low

def stableRegionForAddress (appId : String) (vma : VMARecord) (address bucketBytes : ℤ) :
    StableRegion :=
  let metadata : PathMetadata :=
    { pathname := vma.pathname
      basename := (vma.pathname.splitOn "/").getLastD ""
      anonName := vma.anonName }
  if isFile vma then
    let fileOffset := vma.fileOffset + max 0 (address - vma.startAddr)
    let bucket := fileOffset / bucketBytes
    { stableKey := stableJson (fileRole appId vma bucket)
      canonicalKey := stableJson (fileCanonical vma bucket)
      regionType := vma.mappingType
      identityConfidence := .high
      pathMetadata := metadata
      processRole := vma.processRole }
  else
    let relativeBucket := max 0 (address - vma.startAddr) / bucketBytes
    { stableKey := stableJson (anonRole appId vma relativeBucket)
      canonicalKey := stableJson (anonRole appId vma relativeBucket)
      regionType := vma.mappingType
      identityConfidence := anonConfidence vma
      pathMetadata := metadata
      processRole := vma.processRole }

structure RegionVocab where
  regions : Dict String ℤ := ∅
  canonicalRegions : Dict String ℤ := ∅
  nextId : ℤ := 1
  nextCanonicalId : ℤ := 1
  corrupted : Bool := false
  error : String := ""

def getId (ids : Dict String ℤ) (nextId : ℤ) (key : String) : ℤ × Dict String ℤ × ℤ :=
  match ids.get? key with
  | some id => (id, ids, nextId)
  | none => (nextId, ids.set key nextId, nextId + 1)

def RegionVocab.getOrCreate (vocab : RegionVocab) (stableKey canonicalKey : String) :
    Except String ((ℤ × ℤ) × RegionVocab) :=
  if vocab.corrupted then .error ("region vocab is corrupted: " ++ vocab.error)
  else
    let canonical := getId vocab.canonicalRegions vocab.nextCanonicalId canonicalKey
    let region := getId vocab.regions vocab.nextId stableKey
    .ok ((region.1, canonical.1),
      { vocab with
        regions := region.2.1
        canonicalRegions := canonical.2.1
        nextId := region.2.2
        nextCanonicalId := canonical.2.2 })

structure VMAIntervalIndex where
  records : List VMARecord
  sorted : records.Pairwise fun earlier later => earlier.startAddr ≤ later.startAddr

/-- `VMAIntervalIndex(records)`. -/
def VMAIntervalIndex.ofRecords (records : List VMARecord) : VMAIntervalIndex where
  records := records.insertionSort fun left right => left.startAddr ≤ right.startAddr
  sorted := by
    have : Std.Total fun left right : VMARecord => left.startAddr ≤ right.startAddr :=
      ⟨fun left right => le_total _ _⟩
    have : IsTrans VMARecord fun left right => left.startAddr ≤ right.startAddr :=
      ⟨fun _ _ _ hab hbc => le_trans hab hbc⟩
    exact List.pairwise_insertionSort _ _

/-- `bisect_right(self.starts, addr)`. -/
def VMAIntervalIndex.bisectRight (index : VMAIntervalIndex) (address : ℤ) : ℕ :=
  (index.records.takeWhile fun record => record.startAddr ≤ address).length

/-- The loop of `overlaps`: each VMA with its common part with the event. -/
def overlapsFrom (start stop : ℤ) : List VMARecord → List (VMARecord × ℤ × ℤ)
  | [] => []
  | record :: records =>
    if stop ≤ record.startAddr then []
    else
      let overlapStart := max start record.startAddr
      let overlapEnd := min stop record.endAddr
      if overlapStart < overlapEnd then
        (record, overlapStart, overlapEnd) :: overlapsFrom start stop records
      else overlapsFrom start stop records

def VMAIntervalIndex.overlaps (index : VMAIntervalIndex) (start stop : ℤ) :
    List (VMARecord × ℤ × ℤ) :=
  if stop ≤ start then []
  else overlapsFrom start stop (index.records.drop (index.bisectRight start - 1))

/-- The inner loop of `map_event_to_regions`, which ends as its cursor only goes forward. -/
def cutBuckets (bucketBytes cursor overlapEnd : ℤ) : List (ℤ × ℤ) :=
  if cursor < overlapEnd then
    let bucketEnd := min overlapEnd ((cursor / bucketBytes + 1) * bucketBytes)
    let observedBytes := max 0 (bucketEnd - cursor)
    if observedBytes ≤ 0 then []
    else (cursor, bucketEnd) :: cutBuckets bucketBytes bucketEnd overlapEnd
  else []
termination_by (overlapEnd - cursor).toNat
decreasing_by
  have : min overlapEnd ((cursor / bucketBytes + 1) * bucketBytes) ≤ overlapEnd := min_le_left _ _
  omega

structure RegionObservation where
  regionId : ℤ
  regionType : MappingType
  stableKey : String
  canonicalKey : String
  weightedAccesses : ℚ
  age : ℤ
  observedBytes : ℤ
  resolutionConfidence : ℚ
  identityConfidence : IdentityConfidence
  processRole : String
  canonicalRegionId : ℤ
  lowResolution : Bool

def eventPieces (event : DamonEvent) (index : VMAIntervalIndex) (bucketBytes : ℤ) :
    List (VMARecord × ℤ × ℤ) :=
  (index.overlaps event.start event.stop).flatMap fun overlap =>
    (cutBuckets bucketBytes overlap.2.1 overlap.2.2).map fun piece => (overlap.1, piece)

def lowResolution (event : DamonEvent) (index : VMAIntervalIndex) (bucketBytes : ℤ) : Bool :=
  let eventBucketCount := max 1 ((event.sizeBytes + bucketBytes - 1) / bucketBytes)
  16 < eventBucketCount ∨ 8 < (index.overlaps event.start event.stop).length

def observe (event : DamonEvent) (bucketBytes : ℤ) (low : Bool) (stable : StableRegion)
    (piece : ℤ × ℤ) (ids : ℤ × ℤ) : RegionObservation :=
  let observedBytes := max 0 (piece.2 - piece.1)
  let contribution : ℚ := observedBytes / event.sizeBytes
  { regionId := ids.1
    regionType := stable.regionType
    stableKey := stable.stableKey
    canonicalKey := stable.canonicalKey
    weightedAccesses := event.nrAccesses * contribution
    age := event.age
    observedBytes := observedBytes
    resolutionConfidence := min 1 (bucketBytes / event.sizeBytes)
    identityConfidence := stable.identityConfidence
    processRole := stable.processRole
    canonicalRegionId := ids.2
    lowResolution := low }

def observePieces (appId : String) (event : DamonEvent) (bucketBytes : ℤ) (low : Bool) :
    RegionVocab → List (VMARecord × ℤ × ℤ) →
      Except String (List RegionObservation × RegionVocab)
  | vocab, [] => .ok ([], vocab)
  | vocab, (vma, piece) :: pieces => do
    let stable := stableRegionForAddress appId vma piece.1 bucketBytes
    let created ← vocab.getOrCreate stable.stableKey stable.canonicalKey
    let rest ← observePieces appId event bucketBytes low created.2 pieces
    return (observe event bucketBytes low stable piece created.1 :: rest.1, rest.2)

def mapEventToRegions (appId : String) (event : DamonEvent) (index : VMAIntervalIndex)
    (vocab : RegionVocab) (bucketBytes : ℤ) :
    Except String (List RegionObservation × RegionVocab) :=
  if event.sizeBytes ≤ 0 then .ok ([], vocab)
  else
    observePieces appId event bucketBytes (lowResolution event index bucketBytes) vocab
      (eventPieces event index bucketBytes)

section

variable {appId : String} {event : DamonEvent} {index : VMAIntervalIndex} {bucketBytes : ℤ}
  {vocab after : RegionVocab} {observations : List RegionObservation} {text : String}

theorem getOrCreate_ok {stableKey canonicalKey : String} {ids : ℤ × ℤ}
    (h : vocab.getOrCreate stableKey canonicalKey = .ok (ids, after)) :
    vocab.corrupted = false ∧ after.corrupted = false := by
  unfold RegionVocab.getOrCreate at h
  split_ifs at h with hcorrupted
  cases h
  exact ⟨eq_false_of_ne_true hcorrupted, eq_false_of_ne_true hcorrupted⟩

variable {pieces : List (VMARecord × ℤ × ℤ)}

/-- What is raised is raised at the first piece, by a corrupted vocabulary. -/
theorem observePieces_error {low : Bool}
    (h : observePieces appId event bucketBytes low vocab pieces = .error text) :
    vocab.corrupted = true ∧ pieces ≠ [] := by
  induction pieces generalizing vocab with
  | nil => cases h
  | cons piece pieces ih =>
    refine ⟨?_, nofun⟩
    rcases bind_eq_error.1 h with hcreated | ⟨created, hcreated, h⟩
    · unfold RegionVocab.getOrCreate at hcreated
      split_ifs at hcreated with hcorrupted
      exact hcorrupted
    · rcases bind_eq_error.1 h with hrest | ⟨rest, -, hdone⟩
      · cases (ih hrest).1.symm.trans (getOrCreate_ok hcreated).2
      · cases hdone

theorem observePieces_ok {low : Bool}
    (h : observePieces appId event bucketBytes low vocab pieces = .ok (observations, after)) :
    after.corrupted = vocab.corrupted ∧ (vocab.corrupted = true → pieces = []) := by
  induction pieces generalizing vocab observations with
  | nil =>
    cases h
    exact ⟨rfl, fun _ => rfl⟩
  | cons piece pieces ih =>
    obtain ⟨created, hcreated, h⟩ := bind_eq_ok.1 h
    obtain ⟨rest, hrest, hdone⟩ := bind_eq_ok.1 h
    cases hdone
    obtain ⟨hread, hread'⟩ := getOrCreate_ok hcreated
    refine ⟨(ih hrest).1.trans (hread'.trans hread.symm), fun hcorrupted => ?_⟩
    cases hread.symm.trans hcorrupted

theorem eventPieces_empty (h : event.sizeBytes ≤ 0) : eventPieces event index bucketBytes = [] := by
  unfold DamonEvent.sizeBytes at h
  unfold eventPieces VMAIntervalIndex.overlaps
  rw [if_pos (by omega)]
  rfl

theorem mapEventToRegions_error
    (h : mapEventToRegions appId event index vocab bucketBytes = .error text) :
    vocab.corrupted = true ∧ eventPieces event index bucketBytes ≠ [] := by
  unfold mapEventToRegions at h
  split_ifs at h
  exact observePieces_error h

theorem mapEventToRegions_ok
    (h : mapEventToRegions appId event index vocab bucketBytes = .ok (observations, after)) :
    after.corrupted = vocab.corrupted ∧
      (vocab.corrupted = true → eventPieces event index bucketBytes = []) := by
  unfold mapEventToRegions at h
  split_ifs at h with hempty
  · cases h
    exact ⟨rfl, fun _ => eventPieces_empty hempty⟩
  · exact observePieces_ok h

end

end Parp.Region
