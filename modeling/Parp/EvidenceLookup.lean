import Parp.EvidenceOwners

set_option autoImplicit false

namespace Parp.EvidenceLookup

open Evidence EvidenceOwners TransitionRuns IntervalSearch

theorem parpCmpU64_eq_iff (left right : UInt64) : parpCmpU64 left right = .eq ↔ left = right := by
  unfold parpCmpU64
  split_ifs with heq hlt <;> simp [heq]

@[mk_iff]
structure OfFile (entry : FileEntry) (domainId : UInt64) (key : ParpFileRegionKey) : Prop where
  domain : entry.domainId = domainId
  devMajor : entry.key.devMajor = key.devMajor
  devMinor : entry.key.devMinor = key.devMinor
  inode : entry.key.inode = key.inode
  fileVersion : entry.key.fileVersion = key.fileVersion

theorem compareFile_eq_iff (entry : FileEntry) (domainId : UInt64) (key : ParpFileRegionKey) :
    compareFile entry domainId key = .eq ↔ OfFile entry domainId key := by
  simp only [compareFile, Ordering.then_eq_eq, parpCmpU64_eq_iff, UInt32.toUInt64_inj]
  exact (ofFile_iff entry domainId key).symm

theorem startIndex_le {a b : FileEntry} {domainId : UInt64} {key : ParpFileRegionKey}
    (hle : parpFileLe a b) (ha : OfFile a domainId key) (hb : OfFile b domainId key) :
    a.key.startIndex ≤ b.key.startIndex := by
  have hsame : compareFile a b.domainId b.key = .eq :=
    (compareFile_eq_iff _ _ _).2
      ⟨ha.domain.trans hb.domain.symm, ha.devMajor.trans hb.devMajor.symm,
        ha.devMinor.trans hb.devMinor.symm, ha.inode.trans hb.inode.symm,
        ha.fileVersion.trans hb.fileVersion.symm⟩
  unfold parpFileLe parpFileCompare parpCmpU64 at hle
  rw [hsame] at hle
  by_contra hnot
  have hlt : b.key.startIndex < a.key.startIndex := UInt64.not_le.1 hnot
  have hne : a.key.startIndex ≠ b.key.startIndex := fun heq => by
    rw [heq] at hlt
    exact UInt64.lt_irrefl _ hlt
  rw [if_neg hne, if_neg (UInt64.not_lt.2 (UInt64.le_of_lt hlt))] at hle
  exact hle rfl

theorem file_between {a b : FileEntry} {domainId : UInt64} {key : ParpFileRegionKey}
    (hle : parpFileLe a b) :
    compareFile a domainId key = .lt ∨ compareFile b domainId key = .gt ∨
      OfFile a domainId key ∧ OfFile b domainId key := by
  have hfiles : (cmpFile (a.domainId, a.key) (b.domainId, b.key)).isLE := by
    rw [parpFileLe_iff] at hle
    unfold cmpStart compareLex at hle
    cases hcase : cmpFile (a.domainId, a.key) (b.domainId, b.key) with
    | lt => rfl
    | eq => rfl
    | gt =>
      rw [hcase] at hle
      cases hle
  rw [compareFile_eq, compareFile_eq, ← compareFile_eq_iff, ← compareFile_eq_iff, compareFile_eq,
    compareFile_eq]
  by_cases hlt : cmpFile (a.domainId, a.key) (domainId, key) = .lt
  · exact .inl hlt
  by_cases hgt : cmpFile (b.domainId, b.key) (domainId, key) = .gt
  · exact .inr (.inl hgt)
  have hupper : (cmpFile (b.domainId, b.key) (domainId, key)).isLE := Ordering.ne_gt_iff_isLE.1 hgt
  have hlower : (cmpFile (domainId, key) (a.domainId, a.key)).isLE := by
    rw [← Std.OrientedCmp.isGE_iff_isLE]
    exact Ordering.ne_lt_iff_isGE.1 hlt
  -- a ≤ b ≤ the file ≤ a
  have ha := Std.OrientedCmp.isLE_antisymm (Std.TransCmp.isLE_trans hfiles hupper) hlower
  have hb := Std.OrientedCmp.isLE_antisymm hupper (Std.TransCmp.isLE_trans hlower hfiles)
  exact .inr (.inr ⟨ha, hb⟩)

structure Query where
  domainId : UInt64
  key : ParpFileRegionKey
  index : UInt64
  nrPages : UInt32
  nowNs : UInt64

def lookupFile (state : EvidenceState) (query : Query) : Option FileEntry :=
  parpEvidenceLookupFile state.activeEvidence query.domainId query.key query.index query.nrPages
    query.nowNs

def stopOf (key : ParpFileRegionKey) : ℕ := key.startIndex.toNat + key.nrPages.toNat

def Query.stop (query : Query) : ℕ := query.index.toNat + query.nrPages.toNat

@[mk_iff]
structure Covers (entry : FileEntry) (query : Query) : Prop where
  file : OfFile entry query.domainId query.key
  start : entry.key.startIndex ≤ query.index
  stop : query.index.toNat < stopOf entry.key

/-- What the lookup is after: an unexpired entry of the file that holds all pages of the query. -/
@[mk_iff]
structure Matches (entry : FileEntry) (query : Query) : Prop where
  file : OfFile entry query.domainId query.key
  start : entry.key.startIndex ≤ query.index
  stop : query.stop ≤ stopOf entry.key
  unexpired : query.nowNs < entry.expiresNs

/-- The entries of the file do not run over, and those that start after one that holds the first
page of the query, and not behind that page, answer the query as that one does. -/
@[mk_iff]
structure Agree (files : List FileEntry) (query : Query) : Prop where
  inRange : ∀ entry ∈ files, OfFile entry query.domainId query.key → stopOf entry.key < 2 ^ 64
  covers : ∀ a ∈ files, ∀ b ∈ files, Covers a query → OfFile b query.domainId query.key →
    a.key.startIndex ≤ b.key.startIndex → b.key.startIndex ≤ query.index → Covers b query
  answers : ∀ a ∈ files, ∀ b ∈ files, Covers a query → Covers b query →
    (Matches a query ↔ Matches b query)

@[mk_iff]
structure Query.Proper (query : Query) : Prop where
  nonempty : query.nrPages ≠ 0
  inRange : query.stop < 2 ^ 64

instance (entry : FileEntry) (domainId : UInt64) (key : ParpFileRegionKey) :
    Decidable (OfFile entry domainId key) :=
  decidable_of_iff' _ (ofFile_iff entry domainId key)

instance (entry : FileEntry) (query : Query) : Decidable (Covers entry query) :=
  decidable_of_iff' _ (covers_iff entry query)

instance (entry : FileEntry) (query : Query) : Decidable (Matches entry query) :=
  decidable_of_iff' _ (matches_iff entry query)

instance (files : List FileEntry) (query : Query) : Decidable (Agree files query) :=
  decidable_of_iff' _ (agree_iff files query)

instance (query : Query) : Decidable query.Proper :=
  decidable_of_iff' _ (query.proper_iff)

section

variable {files : List FileEntry} {query : Query}

theorem end_toNat {key : ParpFileRegionKey} (h : stopOf key < 2 ^ 64) :
    (key.startIndex + key.nrPages.toUInt64).toNat = stopOf key := by
  rw [UInt64.toNat_add, UInt32.toNat_toUInt64]
  exact Nat.mod_eq_of_lt h

variable {entry : FileEntry}

theorem comparePoint_eq_iff
    (hrange : OfFile entry query.domainId query.key → stopOf entry.key < 2 ^ 64) :
    parpCompareFilePoint entry query.domainId query.key query.index = .eq ↔
      Covers entry query := by
  unfold parpCompareFilePoint
  rw [Ordering.then_eq_eq, compareFile_eq_iff]
  constructor
  · rintro ⟨hfile, hpoint⟩
    have hend := end_toNat (hrange hfile)
    split_ifs at hpoint with hbefore hbehind
    refine ⟨hfile, UInt64.not_lt.1 hbefore, ?_⟩
    rw [ge_iff_le, UInt64.le_iff_toNat_le, hend] at hbehind
    omega
  · rintro ⟨hfile, hstart, hstop⟩
    have hend := end_toNat (hrange hfile)
    refine ⟨hfile, ?_⟩
    rw [if_neg (UInt64.not_lt.2 hstart), if_neg]
    rw [ge_iff_le, UInt64.le_iff_toNat_le, hend]
    omega

theorem pair_aligned (h : Agree files query) {a b : FileEntry} (hle : parpFileLe a b)
    (ha : a ∈ files) (hb : b ∈ files) :
    parpCompareFilePoint a query.domainId query.key query.index = .lt ∨
      parpCompareFilePoint b query.domainId query.key query.index = .gt ∨
        parpCompareFilePoint a query.domainId query.key query.index = .eq ∧
          parpCompareFilePoint b query.domainId query.key query.index = .eq := by
  rcases @file_between _ _ query.domainId query.key hle with
    hlt | hgt | ⟨hfileA, hfileB⟩
  · left
    rw [parpCompareFilePoint, hlt]
    rfl
  · right; left
    rw [parpCompareFilePoint, hgt]
    rfl
  · have hstart := startIndex_le hle hfileA hfileB
    by_cases hindex : query.index < b.key.startIndex
    · right; left
      rw [parpCompareFilePoint, (compareFile_eq_iff _ _ _).2 hfileB]
      exact if_pos hindex
    have hstartB := UInt64.not_lt.1 hindex
    have hstartA := UInt64.le_trans hstart hstartB
    by_cases hstop : query.index.toNat < stopOf a.key
    · have hcoversA : Covers a query := ⟨hfileA, hstartA, hstop⟩
      have hcoversB := h.covers a ha b hb hcoversA hfileB hstart hstartB
      exact .inr (.inr ⟨(comparePoint_eq_iff (h.inRange a ha)).2 hcoversA,
        (comparePoint_eq_iff (h.inRange b hb)).2 hcoversB⟩)
    · left
      rw [parpCompareFilePoint, (compareFile_eq_iff _ _ _).2 hfileA]
      have hend := end_toNat (h.inRange a ha hfileA)
      have hbehind : query.index ≥ a.key.startIndex + a.key.nrPages.toUInt64 := by
        rw [ge_iff_le, UInt64.le_iff_toNat_le, hend]
        omega
      change (if _ then _ else if _ then _ else _) = _
      rw [if_neg (UInt64.not_lt.2 hstartA), if_pos hbehind]

theorem agree_aligned (h : Agree files query) (hsorted : files.Pairwise parpFileLe) :
    Aligned (fun i => (files[i]?).elim .gt fun entry =>
      parpCompareFilePoint entry query.domainId query.key query.index) 0 files.length := by
  intro i j _ hij hj
  have hi : i < files.length := hij.trans hj
  simp only [List.getElem?_eq_getElem hi, List.getElem?_eq_getElem hj, Option.elim_some]
  exact pair_aligned h (List.pairwise_iff_getElem.1 hsorted i j hi hj hij)
    (List.getElem_mem hi) (List.getElem_mem hj)

theorem searchPoint_covers (h : Agree files query)
    (hfound : searchPoint files query.domainId query.key query.index = some entry) :
    entry ∈ files ∧ Covers entry query := by
  obtain ⟨i, hsearch, hget⟩ := Option.bind_eq_some_iff.1 hfound
  obtain ⟨-, -, heq⟩ := bisect_sound hsearch
  rw [hget] at heq
  have hmem := List.mem_of_getElem? hget
  exact ⟨hmem, (comparePoint_eq_iff (h.inRange entry hmem)).1 heq⟩

theorem searchPoint_isSome (h : Agree files query) (hsorted : files.Pairwise parpFileLe)
    (hmem : entry ∈ files) (hcovers : Covers entry query) :
    ∃ found, searchPoint files query.domainId query.key query.index = some found := by
  obtain ⟨i, hi, rfl⟩ := List.mem_iff_getElem.1 hmem
  have heq := (comparePoint_eq_iff (h.inRange _ hmem)).2 hcovers
  have hsearch := bisect_complete (agree_aligned h hsorted) (Nat.zero_le i) hi
    (by simpa only [List.getElem?_eq_getElem hi, Option.elim_some] using heq)
  obtain ⟨j, hj⟩ := Option.isSome_iff_exists.1 hsearch
  have hbound := (bisect_sound hj).2.1
  exact ⟨files[j], by
    unfold searchPoint
    rw [hj]
    exact List.getElem?_eq_getElem hbound⟩

theorem fits_iff (hproper : query.Proper) (hcovers : Covers entry query)
    (hrange : stopOf entry.key < 2 ^ 64) :
    (query.index + query.nrPages.toUInt64 ≤ entry.key.startIndex + entry.key.nrPages.toUInt64 ∧
      query.nowNs < entry.expiresNs) ↔ Matches entry query := by
  have hstop : (query.index + query.nrPages.toUInt64).toNat = query.stop := by
    rw [UInt64.toNat_add, UInt32.toNat_toUInt64]
    exact Nat.mod_eq_of_lt hproper.inRange
  rw [UInt64.le_iff_toNat_le, hstop, end_toNat hrange]
  exact ⟨fun ⟨hfits, hunexpired⟩ => ⟨hcovers.file, hcovers.start, hfits, hunexpired⟩,
    fun hmatches => ⟨hmatches.stop, hmatches.unexpired⟩⟩

theorem Matches.covers (hproper : query.Proper) (h : Matches entry query) : Covers entry query := by
  have hpages : query.nrPages.toNat ≠ 0 := fun hzero =>
    hproper.nonempty (UInt32.toNat.inj hzero)
  have hstop := h.stop
  unfold Query.stop at hstop
  exact ⟨h.file, h.start, by omega⟩

/-- The answer is a matching entry, and there is one if any entry matches. -/
structure Complete (files : List FileEntry) (query : Query) (answer : Option FileEntry) :
    Prop where
  found_iff : answer.isSome ↔ ∃ entry ∈ files, Matches entry query
  answer_matches : ∀ entry, answer = some entry → entry ∈ files ∧ Matches entry query

theorem lookup_answer {snapshot : ParpEvidenceSnapshot} (h : Agree snapshot.files query)
    (hsorted : snapshot.files.Pairwise parpFileLe) (hproper : query.Proper)
    (hlive : query.nowNs < snapshot.expiresNs) :
    Complete snapshot.files query (parpEvidenceLookupFile (some snapshot) query.domainId query.key
      query.index query.nrPages query.nowNs) := by
  unfold parpEvidenceLookupFile
  dsimp only
  rw [if_neg (UInt64.not_le.2 hlive)]
  have hsound : ∀ entry,
      (searchPoint snapshot.files query.domainId query.key query.index).filter (fun entry =>
        query.index + query.nrPages.toUInt64 ≤ entry.key.startIndex + entry.key.nrPages.toUInt64 ∧
          query.nowNs < entry.expiresNs) = some entry →
      entry ∈ snapshot.files ∧ Matches entry query := by
    intro entry hanswer
    obtain ⟨hfound, hfits⟩ := Option.filter_eq_some_iff.1 hanswer
    obtain ⟨hmem, hcovers⟩ := searchPoint_covers h hfound
    exact ⟨hmem, (fits_iff hproper hcovers (h.inRange entry hmem hcovers.file)).1
      (of_decide_eq_true hfits)⟩
  refine ⟨⟨fun hsome => ?_, ?_⟩, hsound⟩
  · obtain ⟨entry, hanswer⟩ := Option.isSome_iff_exists.1 hsome
    exact ⟨entry, hsound entry hanswer⟩
  · rintro ⟨entry, hmem, hmatches⟩
    have hcovers := hmatches.covers hproper
    obtain ⟨found, hfound⟩ := searchPoint_isSome h hsorted hmem hcovers
    obtain ⟨hfoundMem, hfoundCovers⟩ := searchPoint_covers h hfound
    have hfoundMatches := (h.answers entry hmem found hfoundMem hcovers hfoundCovers).1 hmatches
    have hfits := (fits_iff hproper hfoundCovers
      (h.inRange found hfoundMem hfoundCovers.file)).2 hfoundMatches
    rw [hfound, Option.isSome_filter, Option.any_some]
    exact decide_eq_true hfits

end

def Sorted (state : EvidenceState) : Prop :=
  ∀ snapshot, state.activeEvidence = some snapshot → snapshot.files.Pairwise parpFileLe

variable {state : EvidenceState}

theorem publish_sorted (h : Sorted state) (env : Surroundings) (nowNs : UInt64) :
    Sorted (parpPublishEvidenceLocked state env nowNs).1 := by
  unfold parpPublishEvidenceLocked
  split_ifs
  · exact h
  · intro snapshot hactive
    obtain rfl := Option.some.inj hactive
    exact env.sortFiles.sorted _

theorem publishWhenDue_sorted (h : Sorted state) (env : Surroundings) (timestampNs : UInt64) :
    Sorted (publishWhenDue state env timestampNs).1 := by
  unfold publishWhenDue
  split_ifs
  · exact publish_sorted h env timestampNs
  · exact h

theorem evidenceStep_sorted (h : Sorted state) (event : EvidenceEvent) :
    Sorted (evidenceStep state event).2 := by
  cases event with
  | updateFile observation env =>
    change Sorted (parpEvidenceUpdateFile state env observation).1
    unfold parpEvidenceUpdateFile
    split
    · exact h
    · refine publishWhenDue_sorted ?_ env _
      exact h
  | updateAnon observation env =>
    change Sorted (parpEvidenceUpdateAnon state env observation).1
    unfold parpEvidenceUpdateAnon
    split
    · exact h
    · refine publishWhenDue_sorted ?_ env _
      exact h
  | publish nowNs env => exact publish_sorted h env nowNs
  | domainOffline domainId nowNs env =>
    refine publish_sorted ?_ env nowNs
    exact h
  | setLimits limits => exact h

theorem evidenceAfter_sorted (events : List EvidenceEvent) : Sorted (evidenceAfter events) := by
  have hstart : Sorted {} := fun _ hactive => by cases hactive
  exact after_invariant (I := Sorted) (fun _ event h => evidenceStep_sorted h event) hstart events

/-- In every run, a lookup the published entries agree on has the right answer. -/
theorem lookup_complete {events : List EvidenceEvent} {snapshot : ParpEvidenceSnapshot}
    (hactive : (evidenceAfter events).activeEvidence = some snapshot) {query : Query}
    (hlive : query.nowNs < snapshot.expiresNs) (hproper : query.Proper)
    (hagree : Agree snapshot.files query) :
    Complete snapshot.files query (lookupFile (evidenceAfter events) query) := by
  unfold lookupFile
  rw [hactive]
  exact lookup_answer hagree (evidenceAfter_sorted events snapshot hactive) hproper hlive

/-- A sample of pages of the file of `regionSample`. -/
def pagesSample (startIndex : UInt64) (nrPages : UInt32) (second sampleId : UInt64) :
    EvidenceEvent :=
  let observation := regionSample 2 3 second sampleId 1
  .updateFile
    { observation with
      key := { observation.key with startIndex := startIndex, nrPages := nrPages } }
    (boundEnv 2 3)

def pagesQuery (index : UInt64) : Query where
  domainId := 7
  key := (regionSample 2 3 102 2 1).key
  index := index
  nrPages := 2
  nowNs := 103 * nsecPerSec

def sideBySide : List EvidenceEvent := [pagesSample 100 10 100 1, pagesSample 110 10 102 2]

theorem sideBySide_complete :
    ∃ found, lookupFile (evidenceAfter sideBySide) (pagesQuery 112) = some found ∧
      found.key.startIndex = 110 := by
  have hready : ∃ snapshot ∈ (evidenceAfter sideBySide).activeEvidence,
      (pagesQuery 112).nowNs < snapshot.expiresNs ∧ Agree snapshot.files (pagesQuery 112) ∧
        (∃ entry ∈ snapshot.files, Matches entry (pagesQuery 112)) ∧
        ∀ entry ∈ snapshot.files, Matches entry (pagesQuery 112) →
          entry.key.startIndex = 110 := by
    decide +kernel
  obtain ⟨snapshot, hactive, hlive, hagree, hmatches, hstart⟩ := hready
  have hcomplete := lookup_complete hactive hlive (by decide) hagree
  obtain ⟨found, hfound⟩ := Option.isSome_iff_exists.1 (hcomplete.found_iff.2 hmatches)
  obtain ⟨hmem, hmatch⟩ := hcomplete.answer_matches found hfound
  exact ⟨found, hfound, hstart found hmem hmatch⟩

def LookupComplete : Prop :=
  ∀ (events : List EvidenceEvent) (snapshot : ParpEvidenceSnapshot),
    (evidenceAfter events).activeEvidence = some snapshot →
      ∀ query : Query, query.nowNs < snapshot.expiresNs →
        Complete snapshot.files query (lookupFile (evidenceAfter events) query)

def nested : List EvidenceEvent := [pagesSample 100 20 100 1, pagesSample 105 5 102 2]

/-- The search looks at the inner region and goes on behind it. -/
theorem nested_not_complete : ¬ LookupComplete := by
  intro h
  have hmissed : ∃ snapshot ∈ (evidenceAfter nested).activeEvidence,
      (pagesQuery 112).nowNs < snapshot.expiresNs ∧
        (∃ entry ∈ snapshot.files, Matches entry (pagesQuery 112)) ∧
        (lookupFile (evidenceAfter nested) (pagesQuery 112)).isNone := by
    decide +kernel
  obtain ⟨snapshot, hactive, hlive, hmatches, hnone⟩ := hmissed
  have hfound := (h nested snapshot hactive (pagesQuery 112) hlive).found_iff.2 hmatches
  rw [Option.isNone_iff_eq_none.1 hnone] at hfound
  cases hfound

end Parp.EvidenceLookup
