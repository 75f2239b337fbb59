import Parp.Evidence
import Parp.IntervalPieces
import Parp.Words

set_option autoImplicit false

/-!
# Resolving a DAMON region

`mm/parp/adapter/damon_adapter.c` and `mm/parp/mapping/region_alignment.c`: a sampled region is
aligned to pages and cut at the VMAs it crosses. Each sub-range goes to the file recorder, to the
anonymous recorder or to the account of unresolved bytes. The traces and the observation's flags are
left out.
-/
namespace Parp.RegionResolve

open Evidence CheckedWords

def parpMaxSplitsPerDamonRegion : ℕ := 64
def pageSize : UInt64 := 4096

def vmRead : UInt64 := 0x00000001
def vmWrite : UInt64 := 0x00000002
def vmExec : UInt64 := 0x00000004
def vmShared : UInt64 := 0x00000008
def vmGrowsdown : UInt64 := 0x00000100
def vmDontcopy : UInt64 := 0x00020000
def vmDontdump : UInt64 := 0x04000000

inductive ParpAlignmentStatus
  | alignExact | alignSplitExact | alignPartial | alignAmbiguous | alignStale | alignUnresolved
  deriving DecidableEq

inductive ParpFileVersionSource
  | iversion | generation | metadataHash | weak | unknown
  deriving DecidableEq

inductive ParpBackingClass
  | regularFile | executable | sharedLibrary | shmem | tmpfs | deletedFile | special | unknown
  deriving DecidableEq

inductive ParpAnonClass
  | «private» | shared | heap | stack | shmemStyle | special | unknown
  deriving DecidableEq

def ParpFileVersionSource.code (source : ParpFileVersionSource) : UInt32 :=
  UInt32.ofNat source.ctorIdx

def ParpBackingClass.code (backingClass : ParpBackingClass) : UInt32 :=
  UInt32.ofNat backingClass.ctorIdx

def ParpAnonClass.code (anonClass : ParpAnonClass) : UInt32 := UInt32.ofNat anonClass.ctorIdx

/-- The inode behind a mapping; `iVersion` is there when the inode keeps one. -/
structure Inode where
  devMajor : UInt32 := 0
  devMinor : UInt32 := 0
  iIno : UInt64
  iVersion : Option UInt64 := none
  iGeneration : UInt32 := 0
  iMode : UInt16 := 0
  iSize : UInt64 := 0
  deriving DecidableEq

structure VmFile where
  inode : Inode
  unlinked : Bool := false
  deriving DecidableEq

structure VmAreaStruct where
  vmStart : UInt64
  vmEnd : UInt64
  vmPgoff : UInt64 := 0
  vmFlags : UInt64 := 0
  vmFile : Option VmFile := none
  shmem : Bool := false
  /-- There are no `vm_ops`. -/
  anonymous : Bool := false
  deriving DecidableEq

structure MmStruct where
  vmas : List VmAreaStruct
  startStack : UInt64 := 0
  brk : UInt64 := 0
  startBrk : UInt64 := 0
  proper : ∀ vma ∈ vmas, vma.vmStart < vma.vmEnd
  ordered : vmas.Pairwise fun lower higher => lower.vmEnd ≤ higher.vmStart

def findVma (mm : MmStruct) (addr : UInt64) : Option VmAreaStruct :=
  mm.vmas.find? fun vma => addr < vma.vmEnd

def isPowerOf2 (n : UInt64) : Bool := n ≠ 0 ∧ n &&& (n - 1) = 0

def roundDown (value size : UInt64) : UInt64 := value &&& ~~~(size - 1)

def parpAlignInterval (start stop size : UInt64) : Option (UInt64 × UInt64) :=
  if size = 0 ∨ isPowerOf2 size = false ∨ start ≥ stop then none
  else
    match checkedAdd stop (size - 1) with
    | none => none
    | some tail =>
      if roundDown start size < roundDown tail size then
        some (roundDown start size, roundDown tail size)
      else none

def parpFileRangeFromVma (vmStart vmPgoff start stop size : UInt64) : Option (UInt64 × UInt32) :=
  if size = 0 ∨ isPowerOf2 size = false ∨ start < vmStart ∨ start ≥ stop ∨ start % size ≠ 0 ∨
      stop % size ≠ 0 then none
  else
    let relativePages := (start - vmStart) / size
    let pages := (stop - start) / size
    if pages = 0 ∨ pages > u32Max.toUInt64 then none
    else (checkedAdd vmPgoff relativePages).map fun result => (result, pages.toUInt32)

def parpAnonRangeFromVma (vmStart start stop size : UInt64) : Option (UInt32 × UInt32) :=
  if size = 0 ∨ isPowerOf2 size = false ∨ start < vmStart ∨ start ≥ stop ∨ start % size ≠ 0 ∨
      stop % size ≠ 0 then none
  else
    let relative := (start - vmStart) / size
    let pages := (stop - start) / size
    if relative > u32Max.toUInt64 ∨ pages = 0 ∨ pages > u32Max.toUInt64 then none
    else some (relative.toUInt32, pages.toUInt32)

def parpVmaSignature (anonClass : UInt32) (semanticFlags lengthPages : UInt64)
    (processRole : UInt32) (nameHash : UInt64) : UInt64 :=
  let fields : List UInt64 := [anonClass.toUInt64, semanticFlags,
    UInt64.log2 (lengthPages ||| 1), processRole.toUInt64, nameHash]
  let value : UInt64 := fields.foldl (fun value field =>
    let value := (value ^^^ field) * 0x100000001b3
    value ^^^ (value >>> 32)) 0xcbf29ce484222325
  if value ≠ 0 then value else 1

def parpSegmentsConserve (segments : List (UInt64 × UInt64)) (originalStart originalEnd : UInt64) :
    Bool :=
  if segments = [] ∨ originalStart ≥ originalEnd then false
  else
    let cursor := segments.foldl (fun cursor segment =>
      cursor.bind fun cursor =>
        if segment.1 ≠ cursor ∨ segment.1 ≥ segment.2 then none else some segment.2)
      (some originalStart)
    cursor = some originalEnd

def parpBackingClassify (hasFile shmem deleted executable : Bool) : ParpBackingClass :=
  if shmem then .shmem
  else if hasFile = false then .unknown
  else if deleted then .deletedFile
  else if executable then .executable
  else .regularFile

def parpBackingClass (vma : VmAreaStruct) : ParpBackingClass :=
  parpBackingClassify vma.vmFile.isSome vma.shmem (vma.vmFile.elim false VmFile.unlinked)
    (vma.vmFlags &&& vmExec ≠ 0)

def parpFileVersion (inode : Inode) : UInt64 × ParpFileVersionSource × UInt32 :=
  match inode.iVersion with
  | some version => (version, .iversion, UInt32.ofNat parpQ15One)
  | none =>
    if inode.iGeneration ≠ 0 then (inode.iGeneration.toUInt64, .generation, 28672)
    else
      (parpVmaSignature inode.iMode.toUInt32 inode.iIno inode.iSize 0 0, .weak, 16384)

def parpAnonClassify (mm : MmStruct) (vma : VmAreaStruct) (start stop : UInt64) : ParpAnonClass :=
  if start ≤ mm.startStack ∧ mm.startStack < stop then .stack
  else if start < mm.brk ∧ stop > mm.startBrk then .heap
  else if vma.shmem then .shmemStyle
  else if vma.anonymous then (if vma.vmFlags &&& vmShared ≠ 0 then .shared else .private)
  else .special

structure Unresolved where
  bytes : UInt64
  status : ParpAlignmentStatus
  deriving DecidableEq

structure AdapterState where
  evidence : EvidenceState := {}
  unresolved : List Unresolved := []

def AdapterState.account (state : AdapterState) (bytes : UInt64) (status : ParpAlignmentStatus) :
    AdapterState :=
  { state with unresolved := state.unresolved ++ [⟨bytes, status⟩] }

/-- The sample that is resolved, whose it is, and what the evidence meets on the way. -/
structure Resolution where
  sample : ParpDamonSample
  mmCookie : UInt64
  context : ParpAppContext
  mm : MmStruct
  env : Surroundings

def failedStatus (split : Bool) : ParpAlignmentStatus :=
  if split then .alignPartial else .alignUnresolved

def fileObservation (resolution : Resolution) (vma : VmAreaStruct) (file : VmFile)
    (start stop startIndex : UInt64) (pages : UInt32) : ParpObservation ParpFileRegionKey :=
  let (version, source, confidence) := parpFileVersion file.inode
  let backingClass := parpBackingClass vma
  { key :=
      { devMajor := file.inode.devMajor
        devMinor := file.inode.devMinor
        inode := file.inode.iIno
        fileVersion := version
        startIndex := startIndex
        nrPages := pages }
    owner := resolution.context
    sample := { resolution.sample with regionStart := start, regionEnd := stop }
    regionClass := backingClass.code
    versionSource := source.code
    confidenceQ15 :=
      if backingClass = .shmem ∧ confidence > 24576 then 24576 else confidence }

def parpRecordFile (resolution : Resolution) (vma : VmAreaStruct) (file : VmFile)
    (start stop : UInt64) (split : Bool) (state : AdapterState) : AdapterState :=
  match parpFileRangeFromVma vma.vmStart vma.vmPgoff start stop pageSize with
  | none => state.account (stop - start) .alignUnresolved
  | some (startIndex, pages) =>
    match parpEvidenceUpdateFile state.evidence resolution.env
      (fileObservation resolution vma file start stop startIndex pages) with
    | (evidence, .ok ()) => { state with evidence := evidence }
    | (evidence, .error _) =>
      AdapterState.account { state with evidence := evidence } (stop - start)
        (failedStatus split)

def semanticMask : UInt64 :=
  vmRead ||| vmWrite ||| vmExec ||| vmShared ||| vmGrowsdown ||| vmDontcopy ||| vmDontdump

def anonObservation (resolution : Resolution) (vma : VmAreaStruct) (start stop : UInt64)
    (relative pages : UInt32) : ParpObservation ParpAnonRegionKey :=
  let anonClass := parpAnonClassify resolution.mm vma start stop
  { key :=
      { domainId := resolution.context.domainId
        foregroundEpochId := resolution.context.foregroundEpochId
        mmCookie := resolution.mmCookie
        processRole := 0
        vmaSignature := parpVmaSignature anonClass.code (vma.vmFlags &&& semanticMask)
          ((vma.vmEnd - vma.vmStart) >>> 12) 0 0
        relativeStartPages := relative
        nrPages := pages }
    owner := resolution.context
    sample := { resolution.sample with regionStart := start, regionEnd := stop }
    regionClass := anonClass.code
    confidenceQ15 := UInt32.ofNat parpQ15One }

def parpRecordAnon (resolution : Resolution) (vma : VmAreaStruct) (start stop : UInt64)
    (split : Bool) (state : AdapterState) : AdapterState :=
  match parpAnonRangeFromVma vma.vmStart start stop pageSize with
  | none => state.account (stop - start) .alignUnresolved
  | some (relative, pages) =>
    match parpEvidenceUpdateAnon state.evidence resolution.env
      (anonObservation resolution vma start stop relative pages) with
    | (evidence, .ok ()) => { state with evidence := evidence }
    | (evidence, .error _) =>
      AdapterState.account { state with evidence := evidence } (stop - start)
        (failedStatus split)

inductive Sink
  | file (vma : VmAreaStruct) (file : VmFile)
  | anon (vma : VmAreaStruct)
  | unresolved (status : ParpAlignmentStatus)
  deriving DecidableEq

/-- A sub-range that was passed on; `split` is the region's flag after it. -/
structure Segment where
  start : UInt64
  stop : UInt64
  sink : Sink
  split : Bool
  deriving DecidableEq

def Segment.deliver (resolution : Resolution) (segment : Segment) (state : AdapterState) :
    AdapterState :=
  match segment.sink with
  | .file vma file =>
    parpRecordFile resolution vma file segment.start segment.stop segment.split state
  | .anon vma => parpRecordAnon resolution vma segment.start segment.stop segment.split state
  | .unresolved status => state.account (segment.stop - segment.start) status

structure ResolveState where
  cursor : UInt64
  splits : ℕ := 0
  split : Bool
  segments : List Segment := []
  deriving DecidableEq

def sinkOf (vma : VmAreaStruct) : Sink :=
  match vma.vmFile with
  | some file => .file vma file
  | none => if vma.anonymous then .anon vma else .unresolved .alignUnresolved

def minU64 (left right : UInt64) : UInt64 := if left < right then left else right

def resolveStep (mm : MmStruct) (start stop : UInt64) (state : ResolveState) : ResolveState :=
  let pass := fun (segmentEnd : UInt64) (sink : Sink) (split : Bool) =>
    { cursor := segmentEnd
      splits := state.splits + 1
      split := split
      segments := state.segments ++ [⟨state.cursor, segmentEnd, sink, split⟩] : ResolveState }
  match findVma mm state.cursor with
  | none => pass stop (.unresolved .alignUnresolved) state.split
  | some vma =>
    if state.cursor < vma.vmStart then
      -- a hole before the next VMA
      pass (minU64 stop vma.vmStart) (.unresolved .alignUnresolved) true
    else
      let segmentEnd := minU64 stop vma.vmEnd
      pass segmentEnd (sinkOf vma) (state.split || state.cursor ≠ start || segmentEnd ≠ stop)

def ResolveState.Goes (stop : UInt64) (state : ResolveState) : Prop :=
  state.cursor < stop ∧ state.splits < parpMaxSplitsPerDamonRegion

instance (stop : UInt64) (state : ResolveState) : Decidable (state.Goes stop) :=
  inferInstanceAs (Decidable (_ ∧ _))

def resolveLoop (mm : MmStruct) (start stop : UInt64) : ℕ → ResolveState → ResolveState
  | 0, state => state
  | fuel + 1, state =>
    if state.Goes stop then resolveLoop mm start stop fuel (resolveStep mm start stop state)
    else state

def resolved (sample : ParpDamonSample) (mm : MmStruct) (start stop : UInt64) : ResolveState :=
  resolveLoop mm start stop parpMaxSplitsPerDamonRegion
    { cursor := start, split := start ≠ sample.regionStart || stop ≠ sample.regionEnd }

def passedOn (stop : UInt64) (state : ResolveState) : List Segment :=
  if state.cursor < stop then
    state.segments ++ [⟨state.cursor, stop, .unresolved .alignPartial, state.split⟩]
  else state.segments

def parpResolveRegion (resolution : Resolution) (state : AdapterState) : AdapterState :=
  match parpAlignInterval resolution.sample.regionStart resolution.sample.regionEnd pageSize with
  | none =>
    state.account (resolution.sample.regionEnd - resolution.sample.regionStart)
      .alignUnresolved
  | some (start, stop) =>
    (passedOn stop (resolved resolution.sample resolution.mm start stop)).foldl
      (fun state segment => segment.deliver resolution state) state

end Parp.RegionResolve

/-!
# Regions are conserved
-/
namespace Parp.RegionResolveLaws

open Evidence CheckedWords RegionResolve Tiling List

theorem roundDown_page (value : UInt64) :
    (roundDown value pageSize).toNat = value.toNat / 4096 * 4096 := by
  have hlt := value.toNat_lt
  unfold roundDown
  rw [UInt64.toNat_and]
  have hmask : (~~~(pageSize - 1)).toNat = (2 ^ 52 - 1) <<< 12 := by decide
  rw [hmask]
  have hshift : value.toNat / 4096 * 4096 = (value.toNat >>> 12) <<< 12 := by
    rw [Nat.shiftLeft_eq, Nat.shiftRight_eq_div_pow]
  rw [hshift]
  apply Nat.eq_of_testBit_eq
  intro i
  rw [Nat.testBit_and, Nat.testBit_shiftLeft, Nat.testBit_shiftLeft, Nat.testBit_shiftRight,
    Nat.testBit_two_pow_sub_one]
  by_cases hlow : 12 ≤ i
  · have hindex : 12 + (i - 12) = i := by omega
    rw [hindex]
    by_cases hhigh : i < 64
    · have hin : i - 12 < 52 := by omega
      simp [hlow, hin]
    · have hzero : value.toNat.testBit i = false :=
        Nat.testBit_lt_two_pow (hlt.trans_le (Nat.pow_le_pow_right (by decide) (by omega)))
      simp [hzero]
  · simp [hlow]

theorem align_cases (start stop : UInt64) :
    parpAlignInterval start stop pageSize =
      if start.toNat < stop.toNat ∧ stop.toNat + 4095 < 2 ^ 64 then
        some (roundDown start pageSize, roundDown (stop + 4095) pageSize)
      else none := by
  have hpage : ¬ (pageSize = 0 ∨ isPowerOf2 pageSize = false) := by decide
  unfold parpAlignInterval
  by_cases horder : start.toNat < stop.toNat
  · have hvalid : ¬ (pageSize = 0 ∨ isPowerOf2 pageSize = false ∨ start ≥ stop) := by
      rw [← or_assoc, not_or]
      exact ⟨hpage, UInt64.not_le.2 (UInt64.lt_iff_toNat_lt.2 horder)⟩
    have hmask : pageSize - 1 = 4095 := by decide
    have hnat : (4095 : UInt64).toNat = 4095 := rfl
    rw [if_neg hvalid, hmask]
    by_cases htail : stop.toNat + 4095 < 2 ^ 64
    · rw [checkedAdd_of_lt (by rwa [hnat]), if_pos ⟨horder, htail⟩]
      have hless : roundDown start pageSize < roundDown (stop + 4095) pageSize := by
        rw [UInt64.lt_iff_toNat_lt, roundDown_page, roundDown_page, UInt64.toNat_add, hnat,
          Nat.mod_eq_of_lt htail]
        omega
      exact if_pos hless
    · have hover : checkedAdd stop 4095 = none := by
        unfold checkedAdd
        rw [hnat, if_neg htail]
      rw [hover, if_neg fun h => htail h.2]
  · have hinvalid : pageSize = 0 ∨ isPowerOf2 pageSize = false ∨ start ≥ stop :=
      .inr (.inr (UInt64.not_lt.1 fun h => horder (UInt64.lt_iff_toNat_lt.1 h)))
    rw [if_pos hinvalid, if_neg fun h => horder h.1]

theorem align_some {start stop first last : UInt64}
    (h : parpAlignInterval start stop pageSize = some (first, last)) :
    first.toNat = start.toNat / 4096 * 4096 ∧ last.toNat = (stop.toNat + 4095) / 4096 * 4096 ∧
      first.toNat < last.toNat := by
  rw [align_cases] at h
  split_ifs at h with hvalid
  obtain ⟨rfl, rfl⟩ := Prod.mk.inj (Option.some.inj h)
  have hnat : (4095 : UInt64).toNat = 4095 := rfl
  rw [roundDown_page, roundDown_page, UInt64.toNat_add, hnat, Nat.mod_eq_of_lt hvalid.2]
  omega

section

variable {mm : MmStruct} {start stop : UInt64} {whole : Bool}

inductive Placed (mm : MmStruct) : Segment → Prop
  | file {first last : UInt64} {split : Bool} (vma : VmAreaStruct) (file : VmFile)
      (hmem : vma ∈ mm.vmas) (hfile : vma.vmFile = some file)
      (hinside : vma.vmStart ≤ first ∧ last ≤ vma.vmEnd) :
      Placed mm ⟨first, last, .file vma file, split⟩
  | anon {first last : UInt64} {split : Bool} (vma : VmAreaStruct) (hmem : vma ∈ mm.vmas)
      (hfile : vma.vmFile = none) (hanon : vma.anonymous = true)
      (hinside : vma.vmStart ≤ first ∧ last ≤ vma.vmEnd) :
      Placed mm ⟨first, last, .anon vma, split⟩
  | special {first last : UInt64} {split : Bool} (vma : VmAreaStruct) (hmem : vma ∈ mm.vmas)
      (hfile : vma.vmFile = none) (hanon : vma.anonymous = false)
      (hinside : vma.vmStart ≤ first ∧ last ≤ vma.vmEnd) :
      Placed mm ⟨first, last, .unresolved .alignUnresolved, split⟩
  | hole {first last : UInt64} {split : Bool}
      (hnone : ∀ vma ∈ mm.vmas, vma.vmEnd ≤ first ∨ last ≤ vma.vmStart) :
      Placed mm ⟨first, last, .unresolved .alignUnresolved, split⟩
  | tail {first last : UInt64} {split : Bool} :
      Placed mm ⟨first, last, .unresolved .alignPartial, split⟩

def rangeOf (segment : Segment) : ℕ × ℕ := (segment.start.toNat, segment.stop.toNat)

/-- The invariant of the loop; `whole` says that alignment changed nothing. -/
structure Resolving (mm : MmStruct) (start stop : UInt64) (whole : Bool) (state : ResolveState) :
    Prop where
  le_stop : state.cursor.toNat ≤ stop.toNat
  tiles : Tiles start.toNat state.cursor.toNat (state.segments.map rangeOf)
  steps : state.segments.length = state.splits
  placed : ∀ segment ∈ state.segments, Placed mm segment
  labelled : ∀ segment ∈ state.segments, segment.split = true ∨
    whole = true ∧ segment.start = start ∧ segment.stop = stop
  flag : state.cursor < stop → state.split = true ∨ whole = true ∧ state.cursor = start

theorem findVma_some {addr : UInt64} {vma : VmAreaStruct} (h : findVma mm addr = some vma) :
    vma ∈ mm.vmas ∧ addr < vma.vmEnd ∧
      ∀ other ∈ mm.vmas, other.vmEnd ≤ addr ∨ vma.vmStart ≤ other.vmStart := by
  obtain ⟨hend, before, rest, hvmas, hskipped⟩ := find?_eq_some_iff_append.1 h
  have hordered := mm.ordered
  have hproper := mm.proper
  rw [hvmas] at hordered hproper
  refine ⟨?_, of_decide_eq_true hend, ?_⟩
  · rw [hvmas]
    exact mem_append_right _ mem_cons_self
  rw [hvmas]
  intro other hmem
  rcases mem_append.1 hmem with hbefore | hmem
  · have hnot := hskipped other hbefore
    rw [Bool.not_eq_true', decide_eq_false_iff_not] at hnot
    exact .inl (UInt64.not_lt.1 hnot)
  rcases mem_cons.1 hmem with rfl | hrest
  · exact .inr (UInt64.le_refl _)
  · have hlater := (pairwise_cons.1 (pairwise_append.1 hordered).2.1).1 other hrest
    have hown := hproper vma (mem_append_right _ mem_cons_self)
    exact .inr (UInt64.le_trans (UInt64.le_of_lt hown) hlater)

theorem findVma_none {addr : UInt64} (h : findVma mm addr = none) :
    ∀ vma ∈ mm.vmas, vma.vmEnd ≤ addr := by
  intro vma hmem
  have hnot := find?_eq_none.1 h vma hmem
  rw [decide_eq_true_eq] at hnot
  exact UInt64.not_lt.1 hnot

theorem minU64_toNat (left right : UInt64) :
    (minU64 left right).toNat = min left.toNat right.toNat := by
  unfold minU64
  split_ifs with h
  · rw [UInt64.lt_iff_toNat_lt] at h
    omega
  · rw [UInt64.lt_iff_toNat_lt] at h
    omega

variable {state : ResolveState}

theorem Resolving.pass (h : Resolving mm start stop whole state) {segmentEnd : UInt64} {sink : Sink}
    {split : Bool} (hprogress : state.cursor.toNat < segmentEnd.toNat)
    (hle : segmentEnd.toNat ≤ stop.toNat)
    (hplaced : Placed mm ⟨state.cursor, segmentEnd, sink, split⟩)
    (hlabel : split = true ∨ whole = true ∧ state.cursor = start ∧ segmentEnd = stop) :
    Resolving mm start stop whole
      { cursor := segmentEnd
        splits := state.splits + 1
        split := split
        segments := state.segments ++ [⟨state.cursor, segmentEnd, sink, split⟩] } where
  le_stop := hle
  tiles := by
    rw [map_append, map_singleton]
    exact h.tiles.concat hprogress
  steps := by
    rw [length_append, length_singleton, h.steps]
  placed := by
    intro segment hmem
    rcases mem_append.1 hmem with hold | hnew
    · exact h.placed segment hold
    · rw [mem_singleton.1 hnew]
      exact hplaced
  labelled := by
    intro segment hmem
    rcases mem_append.1 hmem with hold | hnew
    · exact h.labelled segment hold
    · rw [mem_singleton.1 hnew]
      exact hlabel
  flag := by
    intro hlt
    rcases hlabel with hsplit | ⟨-, -, rfl⟩
    · exact .inl hsplit
    · exact (UInt64.lt_irrefl _ hlt).elim

theorem placed_sinkOf {vma : VmAreaStruct} (hmem : vma ∈ mm.vmas) {first last : UInt64}
    (hinside : vma.vmStart ≤ first ∧ last ≤ vma.vmEnd) (split : Bool) :
    Placed mm ⟨first, last, sinkOf vma, split⟩ := by
  unfold sinkOf
  cases hfile : vma.vmFile with
  | some file => exact .file vma file hmem hfile hinside
  | none =>
    cases hanon : vma.anonymous with
    | true => exact .anon vma hmem hfile hanon hinside
    | false => exact .special vma hmem hfile hanon hinside

theorem Resolving.step (h : Resolving mm start stop whole state) (hgoes : state.cursor < stop) :
    Resolving mm start stop whole (resolveStep mm start stop state) := by
  have hcursor := UInt64.lt_iff_toNat_lt.1 hgoes
  unfold resolveStep
  cases hfound : findVma mm state.cursor with
  | none =>
    have hbefore := findVma_none hfound
    refine h.pass hcursor le_rfl (.hole fun vma hmem => .inl (hbefore vma hmem)) ?_
    exact (h.flag hgoes).imp id fun hwhole => ⟨hwhole.1, hwhole.2, rfl⟩
  | some vma =>
    obtain ⟨hmem, hend, hothers⟩ := findVma_some hfound
    rw [UInt64.lt_iff_toNat_lt] at hend
    dsimp only
    by_cases hhole : state.cursor < vma.vmStart
    · rw [if_pos hhole]
      rw [UInt64.lt_iff_toNat_lt] at hhole
      have hstop := minU64_toNat stop vma.vmStart
      refine h.pass (by omega) (by omega) (.hole fun other hother => ?_) (.inl rfl)
      refine (hothers other hother).imp id fun hlater => UInt64.le_iff_toNat_le.2 ?_
      rw [UInt64.le_iff_toNat_le] at hlater
      omega
    · rw [if_neg hhole]
      have hstop := minU64_toNat stop vma.vmEnd
      refine h.pass (by omega) (by omega) (placed_sinkOf hmem ⟨UInt64.not_lt.1 hhole, ?_⟩ _) ?_
      · rw [UInt64.le_iff_toNat_le]
        omega
      · by_cases hsplit : state.split = true ∨ state.cursor ≠ start ∨
          minU64 stop vma.vmEnd ≠ stop
        · left
          simpa only [Bool.or_eq_true, decide_eq_true_eq, or_assoc] using hsplit
        · rw [not_or, not_or, not_not, not_not] at hsplit
          obtain ⟨hnot, hstart, hlast⟩ := hsplit
          rcases h.flag hgoes with htrue | hwhole
          · exact (hnot htrue).elim
          · exact .inr ⟨hwhole.1, hstart, hlast⟩

theorem Resolving.loop (fuel : ℕ) (h : Resolving mm start stop whole state) :
    Resolving mm start stop whole (resolveLoop mm start stop fuel state) := by
  induction fuel generalizing state with
  | zero => exact h
  | succ fuel ih =>
    unfold resolveLoop
    split_ifs with hgoes
    · exact ih (h.step hgoes.1)
    · exact h

theorem resolveStep_splits (mm : MmStruct) (start stop : UInt64) (state : ResolveState) :
    (resolveStep mm start stop state).splits = state.splits + 1 := by
  unfold resolveStep
  cases findVma mm state.cursor with
  | none => rfl
  | some vma =>
    dsimp only
    split_ifs
    · rfl
    · rfl

theorem resolveLoop_ends (mm : MmStruct) (start stop : UInt64) (fuel : ℕ) (state : ResolveState)
    (hfuel : state.splits + fuel = parpMaxSplitsPerDamonRegion) :
    ¬ (resolveLoop mm start stop fuel state).Goes stop ∧
      (resolveLoop mm start stop fuel state).splits ≤ parpMaxSplitsPerDamonRegion := by
  induction fuel generalizing state with
  | zero =>
    change ¬ state.Goes stop ∧ state.splits ≤ _
    refine ⟨fun hgoes => ?_, by omega⟩
    have hlt := hgoes.2
    omega
  | succ fuel ih =>
    unfold resolveLoop
    split_ifs with hgoes
    · refine ih _ ?_
      rw [resolveStep_splits]
      omega
    · exact ⟨hgoes, by omega⟩

theorem resolved_ends (sample : ParpDamonSample) (mm : MmStruct) (start stop : UInt64) :
    ¬ (resolved sample mm start stop).Goes stop ∧
      (resolved sample mm start stop).splits ≤ parpMaxSplitsPerDamonRegion :=
  resolveLoop_ends mm start stop parpMaxSplitsPerDamonRegion _ (Nat.zero_add _)

end

structure Conserved (sample : ParpDamonSample) (mm : MmStruct) (start stop : UInt64)
    (segments : List Segment) : Prop where
  tiles : Tiles start.toNat stop.toNat (segments.map rangeOf)
  covers : ∀ address, (start.toNat ≤ address ∧ address < stop.toNat) ↔
    ∃ segment ∈ segments, segment.start.toNat ≤ address ∧ address < segment.stop.toNat
  disjoint : segments.Pairwise fun earlier later => earlier.stop.toNat ≤ later.start.toNat
  placed : ∀ segment ∈ segments, Placed mm segment
  labelled : ∀ segment ∈ segments, segment.split = true ∨
    segment.start = sample.regionStart ∧ segment.stop = sample.regionEnd

theorem Conserved.of_tiles {sample : ParpDamonSample} {mm : MmStruct} {start stop : UInt64}
    {segments : List Segment} (htiles : Tiles start.toNat stop.toNat (segments.map rangeOf))
    (hplaced : ∀ segment ∈ segments, Placed mm segment)
    (hlabelled : ∀ segment ∈ segments, segment.split = true ∨
      segment.start = sample.regionStart ∧ segment.stop = sample.regionEnd) :
    Conserved sample mm start stop segments where
  tiles := htiles
  covers address := by
    rw [htiles.covers]
    simp [rangeOf]
  disjoint := pairwise_map.1 htiles.disjoint
  placed := hplaced
  labelled := hlabelled

theorem conserve_fold {segments : List (UInt64 × UInt64)} {start stop : UInt64}
    (h : Tiles start.toNat stop.toNat
      (segments.map fun segment => (segment.1.toNat, segment.2.toNat))) :
    segments.foldl (fun cursor segment => cursor.bind fun cursor =>
      if segment.1 ≠ cursor ∨ segment.1 ≥ segment.2 then none else some segment.2) (some start) =
        some stop := by
  induction segments generalizing start with
  | nil =>
    generalize hfirst : start.toNat = first at h
    generalize hlast : stop.toNat = last at h
    cases h
    rw [foldl_nil, UInt64.toNat_inj.1 (hfirst.trans hlast.symm)]
  | cons segment segments ih =>
    rw [map_cons] at h
    generalize hfirst : start.toNat = first at h
    generalize hlast : stop.toNat = last at h
    generalize hpieces : (segments.map fun segment =>
      (segment.1.toNat, segment.2.toNat)) = pieces at h
    generalize hpiece : (segment.1.toNat, segment.2.toNat) = piece at h
    cases h with
    | cons hless hrest =>
      obtain ⟨hstart, hmiddle⟩ := Prod.mk.inj hpiece
      have hsame : segment.1 = start := UInt64.toNat_inj.1 (hstart.trans hfirst.symm)
      have hgood : ¬ (segment.1 ≠ start ∨ segment.1 ≥ segment.2) := by
        rw [not_or, not_not]
        refine ⟨hsame, UInt64.not_le.2 (UInt64.lt_iff_toNat_lt.2 ?_)⟩
        omega
      rw [foldl_cons, Option.bind_some, if_neg hgood]
      refine ih ?_
      rw [hpieces, hmiddle, hlast]
      exact hrest

theorem Conserved.check {sample : ParpDamonSample} {mm : MmStruct} {start stop : UInt64}
    {segments : List Segment} (h : Conserved sample mm start stop segments) (hless : start < stop) :
    parpSegmentsConserve (segments.map fun segment => (segment.start, segment.stop)) start stop =
      true := by
  have hnone : segments ≠ [] := by
    rintro rfl
    rw [UInt64.lt_iff_toNat_lt] at hless
    obtain ⟨segment, hmem, -⟩ := (h.covers start.toNat).1 ⟨le_rfl, hless⟩
    cases hmem
  have hpieces : Tiles start.toNat stop.toNat
      ((segments.map fun segment => (segment.start, segment.stop)).map fun segment =>
        (segment.1.toNat, segment.2.toNat)) := by
    rw [map_map]
    exact h.tiles
  unfold parpSegmentsConserve
  rw [if_neg, conserve_fold hpieces]
  · exact decide_eq_true rfl
  · rintro (hempty | hover)
    · exact hnone (map_eq_nil_iff.1 hempty)
    · exact UInt64.not_le.2 hless hover

theorem resolved_conserved (sample : ParpDamonSample) (mm : MmStruct) {start stop : UInt64}
    (hless : start.toNat < stop.toNat) :
    Conserved sample mm start stop (passedOn stop (resolved sample mm start stop)) := by
  have hinit : Resolving mm start stop (start = sample.regionStart ∧ stop = sample.regionEnd)
      { cursor := start
        split := start ≠ sample.regionStart || stop ≠ sample.regionEnd } := by
    refine ⟨Nat.le_of_lt hless, .nil _, rfl, ?_, ?_, fun _ => ?_⟩
    · exact fun _ hmem => (not_mem_nil hmem).elim
    · exact fun _ hmem => (not_mem_nil hmem).elim
    · by_cases hwhole : start = sample.regionStart ∧ stop = sample.regionEnd
      · exact .inr ⟨decide_eq_true hwhole, rfl⟩
      · left
        rw [not_and_or] at hwhole
        simpa using hwhole
  have hloop : Resolving mm start stop (start = sample.regionStart ∧ stop = sample.regionEnd)
      (resolved sample mm start stop) := hinit.loop parpMaxSplitsPerDamonRegion
  have hlabelled : ∀ segment : Segment, (segment.split = true ∨
      decide (start = sample.regionStart ∧ stop = sample.regionEnd) = true ∧
        segment.start = start ∧ segment.stop = stop) →
      segment.split = true ∨
        segment.start = sample.regionStart ∧ segment.stop = sample.regionEnd := by
    rintro segment (hsplit | ⟨hwhole, hstart, hstop⟩)
    · exact .inl hsplit
    · obtain ⟨hfirst, hlast⟩ := of_decide_eq_true hwhole
      exact .inr ⟨hstart.trans hfirst, hstop.trans hlast⟩
  unfold passedOn
  split_ifs with hrest
  · refine .of_tiles ?_ (fun segment hmem => ?_) fun segment hmem => ?_
    · rw [map_append, map_singleton]
      exact hloop.tiles.concat (UInt64.lt_iff_toNat_lt.1 hrest)
    · rcases mem_append.1 hmem with hold | hnew
      · exact hloop.placed segment hold
      · rw [mem_singleton.1 hnew]
        exact .tail
    · rcases mem_append.1 hmem with hold | hnew
      · exact hlabelled segment (hloop.labelled segment hold)
      · rw [mem_singleton.1 hnew]
        exact hlabelled _ ((hloop.flag hrest).imp id fun h => ⟨h.1, h.2, rfl⟩)
  · have hend : (resolved sample mm start stop).cursor.toNat = stop.toNat := by
      have hle := hloop.le_stop
      rw [UInt64.lt_iff_toNat_lt] at hrest
      omega
    refine .of_tiles ?_ hloop.placed fun segment hmem =>
      hlabelled segment (hloop.labelled segment hmem)
    rw [← hend]
    exact hloop.tiles

/-- A region that cannot be aligned is accounted as a whole. The sub-ranges of any other are the
aligned region, cut into consecutive pieces in at most 64 steps and a tail; each goes where its VMA
belongs, and is marked as split unless it is the whole region. -/
theorem region_resolved (resolution : Resolution) (state : AdapterState) :
    match parpAlignInterval resolution.sample.regionStart resolution.sample.regionEnd pageSize with
    | none =>
      ¬ (resolution.sample.regionStart.toNat < resolution.sample.regionEnd.toNat ∧
          resolution.sample.regionEnd.toNat + 4095 < 2 ^ 64) ∧
        parpResolveRegion resolution state =
          state.account (resolution.sample.regionEnd - resolution.sample.regionStart)
            .alignUnresolved
    | some (start, stop) =>
      start.toNat = resolution.sample.regionStart.toNat / 4096 * 4096 ∧
        stop.toNat = (resolution.sample.regionEnd.toNat + 4095) / 4096 * 4096 ∧
        ¬ (resolved resolution.sample resolution.mm start stop).Goes stop ∧
        (resolved resolution.sample resolution.mm start stop).splits ≤
          parpMaxSplitsPerDamonRegion ∧
        Conserved resolution.sample resolution.mm start stop
          (passedOn stop (resolved resolution.sample resolution.mm start stop)) ∧
        parpSegmentsConserve
          ((passedOn stop (resolved resolution.sample resolution.mm start stop)).map
            fun segment => (segment.start, segment.stop)) start stop = true ∧
        parpResolveRegion resolution state =
          (passedOn stop (resolved resolution.sample resolution.mm start stop)).foldl
            (fun state segment => segment.deliver resolution state) state := by
  unfold parpResolveRegion
  cases haligned : parpAlignInterval resolution.sample.regionStart resolution.sample.regionEnd
    pageSize with
  | none =>
    refine ⟨fun hvalid => ?_, rfl⟩
    rw [align_cases, if_pos hvalid] at haligned
    cases haligned
  | some range =>
    obtain ⟨start, stop⟩ := range
    obtain ⟨hstart, hstop, hless⟩ := align_some haligned
    obtain ⟨hended, hsteps⟩ := resolved_ends resolution.sample resolution.mm start stop
    have hconserved := resolved_conserved resolution.sample resolution.mm hless
    exact ⟨hstart, hstop, hended, hsteps, hconserved,
      hconserved.check (UInt64.lt_iff_toNat_lt.2 hless), rfl⟩

def mappedFile : VmFile := { inode := { iIno := 42 } }

def fileVma : VmAreaStruct := { vmStart := 0x2000, vmEnd := 0x4000, vmFile := some mappedFile }

def anonVma : VmAreaStruct := { vmStart := 0x5000, vmEnd := 0x7000, anonymous := true }

def sparseMm : MmStruct where
  vmas := [fileVma, anonVma]
  proper := by decide
  ordered := by decide

def sparseRegion : Resolution where
  sample := { regionStart := 0x3000, regionEnd := 0x8800 }
  mmCookie := 1
  context := {}
  mm := sparseMm
  env := { lookup := fun _ => none }

/-- A region over a file, a hole, an anonymous VMA and the end of the address space in use. -/
theorem sparseRegion_resolved (state : AdapterState) :
    parpResolveRegion sparseRegion state =
      [⟨0x3000, 0x4000, .file fileVma mappedFile, true⟩,
        ⟨0x4000, 0x5000, .unresolved .alignUnresolved, true⟩, ⟨0x5000, 0x7000, .anon anonVma, true⟩,
        ⟨0x7000, 0x9000, .unresolved .alignUnresolved, true⟩].foldl
        (fun state segment => Segment.deliver sparseRegion segment state) state := by
  have hresolved := region_resolved sparseRegion state
  rw [show parpAlignInterval sparseRegion.sample.regionStart sparseRegion.sample.regionEnd pageSize =
    some (0x3000, 0x9000) by decide +kernel] at hresolved
  obtain ⟨-, -, -, -, -, -, hdelivered⟩ := hresolved
  exact hdelivered

end Parp.RegionResolveLaws
