import Mathlib.Algebra.BigOperators.Ring.List
import Mathlib.Data.List.TakeWhile
import Mathlib.Tactic.FieldSimp
import Mathlib.Tactic.Ring
import Parp.IntervalPieces
import Parp.RegionObservations
import Std.Data.String.ToInt

set_option autoImplicit false

namespace Parp.Region

open IntervalPieces FallibleFolds List

variable {m n : ℤ} {vma : VMARecord}

theorem jsonFields_number {name : String} (before after : List (String × JsonValue)) :
    jsonFields (before ++ (name, .number m) :: after) =
      jsonFields (before ++ (name, .number n) :: after) ↔ m = n := by
  refine ⟨fun h => ?_, fun h => by rw [h]⟩
  induction before with
  | nil =>
    cases after with
    | nil =>
      change jsonText name ++ ":" ++ m.repr = jsonText name ++ ":" ++ n.repr at h
      exact Int.repr_inj.1 ((String.append_right_inj _).1 h)
    | cons next after =>
      change jsonText name ++ ":" ++ m.repr ++ "," ++ jsonFields (next :: after) =
        jsonText name ++ ":" ++ n.repr ++ "," ++ jsonFields (next :: after) at h
      rw [String.append_left_inj, String.append_left_inj, String.append_right_inj] at h
      exact Int.repr_inj.1 h
  | cons field before ih =>
    refine ih ?_
    cases before with
    | nil => exact (String.append_right_inj _).1 h
    | cons next before => exact (String.append_right_inj _).1 h

theorem stableJson_number (name : String) (before after : List (String × JsonValue)) :
    stableJson (before ++ (name, .number m) :: after) =
      stableJson (before ++ (name, .number n) :: after) ↔ m = n := by
  unfold stableJson
  rw [String.append_left_inj, String.append_right_inj]
  exact jsonFields_number before after

theorem fileRole_inj {appId : String} :
    stableJson (fileRole appId vma m) = stableJson (fileRole appId vma n) ↔ m = n :=
  stableJson_number "file_offset_bucket"
    [("app_id", .text appId), ("dev_major", .number vma.devMajor),
      ("dev_minor", .number vma.devMinor)] _

theorem fileCanonical_inj :
    stableJson (fileCanonical vma m) = stableJson (fileCanonical vma n) ↔ m = n :=
  stableJson_number "file_offset_bucket"
    [("dev_major", .number vma.devMajor), ("dev_minor", .number vma.devMinor)] _

theorem anonRole_inj {appId : String} :
    stableJson (anonRole appId vma m) = stableJson (anonRole appId vma n) ↔ m = n :=
  stableJson_number "relative_offset_bucket"
    [("anon_name", .text vma.anonName), ("anon_type", .text vma.mappingType.value),
      ("app_id", .text appId), ("kind", .text "anon_role"), ("permissions", .text vma.permissions),
      ("process_role", .text vma.processRole)] _

def keyBase (vma : VMARecord) : ℤ :=
  if isFile vma then vma.startAddr - vma.fileOffset else vma.startAddr

theorem sameKeys_iff (appId : String) (vma : VMARecord) (bucketBytes : ℤ) {left right : ℤ}
    (hleft : vma.startAddr ≤ left) (hright : vma.startAddr ≤ right) :
    (stableRegionForAddress appId vma left bucketBytes).stableKey =
          (stableRegionForAddress appId vma right bucketBytes).stableKey ∧
        (stableRegionForAddress appId vma left bucketBytes).canonicalKey =
          (stableRegionForAddress appId vma right bucketBytes).canonicalKey ↔
      (left - keyBase vma) / bucketBytes = (right - keyBase vma) / bucketBytes := by
  unfold stableRegionForAddress keyBase
  rw [max_eq_right (by omega), max_eq_right (by omega)]
  by_cases hfile : isFile vma
  · have hoffset (address : ℤ) : vma.fileOffset + (address - vma.startAddr) =
        address - (vma.startAddr - vma.fileOffset) := by omega
    rw [if_pos hfile, if_pos hfile, if_pos hfile]
    dsimp only
    rw [fileRole_inj, fileCanonical_inj, and_self, hoffset, hoffset]
  · rw [if_neg hfile, if_neg hfile, if_neg hfile]
    dsimp only
    rw [anonRole_inj, and_self]

section

variable {bucketBytes cursor overlapEnd : ℤ}

/-- A piece of a cut interval: in one bucket of the address space, and cut there or at the ends. -/
structure CutPiece (bucketBytes first stop : ℤ) (piece : ℤ × ℤ) : Prop where
  first_le : first ≤ piece.1
  forward : piece.1 < piece.2
  le_stop : piece.2 ≤ stop
  inside : piece.2 ≤ (piece.1 / bucketBytes + 1) * bucketBytes
  begins : piece.1 = first ∨ piece.1 % bucketBytes = 0

theorem bucketEnd_gt (hbucket : 0 < bucketBytes) (cursor : ℤ) :
    cursor < (cursor / bucketBytes + 1) * bucketBytes :=
  Int.lt_ediv_add_one_mul_self cursor hbucket

theorem cutBuckets_of_lt (hbucket : 0 < bucketBytes) (hlt : cursor < overlapEnd) :
    cutBuckets bucketBytes cursor overlapEnd =
      (cursor, min overlapEnd ((cursor / bucketBytes + 1) * bucketBytes)) ::
        cutBuckets bucketBytes (min overlapEnd ((cursor / bucketBytes + 1) * bucketBytes))
          overlapEnd := by
  have hnext := bucketEnd_gt hbucket cursor
  rw [cutBuckets, if_pos hlt]
  dsimp only
  rw [if_neg]
  omega

theorem cutBuckets_of_ge (hge : overlapEnd ≤ cursor) :
    cutBuckets bucketBytes cursor overlapEnd = [] := by
  rw [cutBuckets, if_neg (not_lt.2 hge)]

theorem cutBuckets_spec (hbucket : 0 < bucketBytes) (cursor overlapEnd : ℤ) :
    (∀ piece ∈ cutBuckets bucketBytes cursor overlapEnd,
        CutPiece bucketBytes cursor overlapEnd piece) ∧
      (cutBuckets bucketBytes cursor overlapEnd).Pairwise
        (fun earlier later => earlier.2 ≤ later.1) ∧
      ∀ address, (∃ piece ∈ cutBuckets bucketBytes cursor overlapEnd,
        piece.1 ≤ address ∧ address < piece.2) ↔ cursor ≤ address ∧ address < overlapEnd := by
  induction hlength : (overlapEnd - cursor).toNat using Nat.strong_induction_on
    generalizing cursor with
  | _ length ih =>
    rcases lt_or_ge cursor overlapEnd with hlt | hge
    · have hnext := bucketEnd_gt hbucket cursor
      have hmultiple : ((cursor / bucketBytes + 1) * bucketBytes) % bucketBytes = 0 :=
        Int.mul_emod_left _ _
      rw [cutBuckets_of_lt hbucket hlt]
      generalize hlimit : (cursor / bucketBytes + 1) * bucketBytes = limit at hnext hmultiple
      obtain ⟨hpieces, hordered, hcovers⟩ := ih _ (by omega) (min overlapEnd limit) rfl
      refine ⟨fun piece hpiece => ?_, pairwise_cons.2 ⟨fun piece hpiece =>
        (hpieces piece hpiece).first_le, hordered⟩, fun address => ?_⟩
      · rcases mem_cons.1 hpiece with rfl | hpiece
        · refine ⟨le_rfl, by dsimp only; omega, min_le_left _ _, ?_, .inl rfl⟩
          rw [hlimit]
          exact min_le_right _ _
        · obtain ⟨hfirst, hforward, hstop, hinside, hbegins⟩ := hpieces piece hpiece
          refine ⟨by omega, hforward, hstop, hinside, .inr ?_⟩
          rcases hbegins with hbegins | hbegins
          · rw [hbegins, min_eq_right (by omega)]
            exact hmultiple
          · exact hbegins
      · rw [exists_mem_cons_iff, hcovers]
        omega
    · rw [cutBuckets_of_ge hge]
      refine ⟨nofun, .nil, fun address => ⟨fun h => ?_, fun h => ?_⟩⟩
      · simp at h
      · omega

end

section

variable {records : List VMARecord} {start stop : ℤ}

def VMARecord.Holds (vma : VMARecord) (address : ℤ) : Prop :=
  vma.startAddr ≤ address ∧ address < vma.endAddr

def VMARecord.Apart (left right : VMARecord) : Prop :=
  ∀ address, ¬ (left.Holds address ∧ right.Holds address)

theorem VMARecord.Apart.symm {left right : VMARecord} (h : left.Apart right) :
    right.Apart left := fun address hboth => h address hboth.symm

def Overlap (start stop : ℤ) (overlap : VMARecord × ℤ × ℤ) : Prop :=
  overlap.2.1 = max start overlap.1.startAddr ∧ overlap.2.2 = min stop overlap.1.endAddr ∧
    overlap.2.1 < overlap.2.2

theorem mem_overlapsFrom
    (hsorted : records.Pairwise fun earlier later => earlier.startAddr ≤ later.startAddr)
    {overlap : VMARecord × ℤ × ℤ} : overlap ∈ overlapsFrom start stop records ↔
      overlap.1 ∈ records ∧ Overlap start stop overlap := by
  obtain ⟨vma, first, last⟩ := overlap
  induction records with
  | nil => exact ⟨nofun, fun h => nomatch h.1⟩
  | cons record records ih =>
    obtain ⟨hlater, hsorted'⟩ := pairwise_cons.1 hsorted
    unfold overlapsFrom Overlap
    dsimp only
    split_ifs with hbeyond hsome
    · -- the records are sorted, so none of the others begins before the end either
      refine ⟨nofun, fun ⟨hmem, hfirst, hlast, hlt⟩ => ?_⟩
      have hstart : stop ≤ vma.startAddr := by
        rcases mem_cons.1 hmem with rfl | hmem
        · exact hbeyond
        · exact hbeyond.trans (hlater vma hmem)
      omega
    · rw [mem_cons, ih hsorted', mem_cons]
      constructor
      · rintro (hsame | ⟨hmem, hoverlap⟩)
        · cases hsame
          exact ⟨.inl rfl, rfl, rfl, hsome⟩
        · exact ⟨.inr hmem, hoverlap⟩
      · rintro ⟨rfl | hmem, hoverlap⟩
        · left
          rw [Prod.mk.injEq, Prod.mk.injEq]
          exact ⟨rfl, hoverlap.1, hoverlap.2.1⟩
        · exact .inr ⟨hmem, hoverlap⟩
    · rw [ih hsorted', mem_cons]
      constructor
      · exact fun ⟨hmem, hoverlap⟩ => ⟨.inr hmem, hoverlap⟩
      · rintro ⟨rfl | hmem, hoverlap⟩
        · obtain ⟨hfirst, hlast, hlt⟩ := hoverlap
          rw [hfirst, hlast] at hlt
          exact absurd hlt hsome
        · exact ⟨hmem, hoverlap⟩

theorem overlapsFrom_sublist (start stop : ℤ) (records : List VMARecord) :
    ((overlapsFrom start stop records).map Prod.fst).Sublist records := by
  induction records with
  | nil => exact .refl _
  | cons record records ih =>
    unfold overlapsFrom
    dsimp only
    split_ifs
    · exact nil_sublist _
    · exact ih.cons_cons _
    · exact ih.cons _

/-- The search begins at the last VMA that starts by the event; nothing before it reaches in. -/
def Searchable (index : VMAIntervalIndex) (address : ℤ) : Prop :=
  ∀ vma ∈ index.records.take (index.bisectRight address - 1), vma.endAddr ≤ address

theorem Searchable.mem_drop {index : VMAIntervalIndex} {address : ℤ}
    (h : Searchable index address) {vma : VMARecord} (hmem : vma ∈ index.records)
    (hlate : address < vma.endAddr) :
    vma ∈ index.records.drop (index.bisectRight address - 1) := by
  rw [← take_append_drop (index.bisectRight address - 1) index.records,
    mem_append] at hmem
  exact hmem.resolve_left fun htaken => absurd hlate (not_lt.2 (h vma htaken))

theorem mem_overlaps {index : VMAIntervalIndex} (hnonempty : start < stop)
    {overlap : VMARecord × ℤ × ℤ} : overlap ∈ index.overlaps start stop ↔
      overlap.1 ∈ index.records.drop (index.bisectRight start - 1) ∧
        Overlap start stop overlap := by
  unfold VMAIntervalIndex.overlaps
  rw [if_neg (not_le.2 hnonempty)]
  exact mem_overlapsFrom (index.sorted.sublist (drop_sublist _ _))

theorem overlaps_sublist (index : VMAIntervalIndex) (start stop : ℤ) :
    ((index.overlaps start stop).map Prod.fst).Sublist index.records := by
  unfold VMAIntervalIndex.overlaps
  split_ifs
  · exact nil_sublist _
  · exact (overlapsFrom_sublist _ _ _).trans (drop_sublist _ _)

theorem mem_takeWhile_start {index : VMAIntervalIndex} {vma : VMARecord}
    (hmem : vma ∈ index.records.take (index.bisectRight start - 1)) : vma.startAddr ≤ start := by
  have htaken : vma ∈ index.records.take (index.bisectRight start) :=
    (take_prefix_take_left (Nat.sub_le _ _)).subset hmem
  unfold VMAIntervalIndex.bisectRight at htaken
  rw [← prefix_iff_eq_take.1 (List.takeWhile_prefix _)] at htaken
  simpa using mem_takeWhile_imp htaken

theorem searchable_of_nonempty {index : VMAIntervalIndex}
    (hapart : index.records.Pairwise VMARecord.Apart)
    (hnonempty : ∀ vma ∈ index.records, vma.startAddr < vma.endAddr) (address : ℤ) :
    Searchable index address := by
  intro vma hmem
  by_contra hlate
  have hsplit := takeWhile_append_dropWhile
    (p := fun record : VMARecord => decide (record.startAddr ≤ address)) (l := index.records)
  unfold VMAIntervalIndex.bisectRight at hmem
  rcases eq_nil_or_concat
    (index.records.takeWhile fun record => decide (record.startAddr ≤ address)) with
    hnone | ⟨earlier, last, htaken⟩
  · rw [hnone] at hmem
    cases hmem
  · have hlast : last.startAddr ≤ address := by
      have hmem' : last ∈ index.records.takeWhile fun record => record.startAddr ≤ address := by
        rw [htaken]
        simp
      simpa using mem_takeWhile_imp hmem'
    rw [htaken, concat_eq_append, append_assoc] at hsplit
    rw [htaken, concat_eq_append, length_append, length_singleton,
      Nat.add_sub_cancel, ← hsplit, take_left'  rfl] at hmem
    have hboth := (pairwise_append.1 (hsplit ▸ hapart)).2.2 vma hmem last (by simp)
    have hsorted := (pairwise_append.1 (hsplit ▸ index.sorted)).2.2 vma hmem last (by simp)
    have hfull := hnonempty last (hsplit ▸ by simp)
    refine hboth last.startAddr ⟨⟨hsorted, ?_⟩, le_rfl, hfull⟩
    omega

end

section

variable {event : DamonEvent} {index : VMAIntervalIndex} {bucketBytes : ℤ}
  {piece : VMARecord × ℤ × ℤ} (hbucket : 0 < bucketBytes) (hnonempty : event.start < event.stop)

theorem mem_eventPieces : piece ∈ eventPieces event index bucketBytes ↔
    ∃ overlap ∈ index.overlaps event.start event.stop, overlap.1 = piece.1 ∧
      piece.2 ∈ cutBuckets bucketBytes overlap.2.1 overlap.2.2 := by
  unfold eventPieces
  simp only [mem_flatMap, mem_map]
  constructor
  · rintro ⟨overlap, hoverlap, cut, hcut, rfl⟩
    exact ⟨overlap, hoverlap, rfl, hcut⟩
  · rintro ⟨overlap, hoverlap, hvma, hcut⟩
    exact ⟨overlap, hoverlap, piece.2, hcut, by rw [hvma]⟩

include hbucket hnonempty

theorem piece_spec (hpiece : piece ∈ eventPieces event index bucketBytes) :
    piece.1 ∈ index.records ∧ CutPiece bucketBytes (max event.start piece.1.startAddr)
      (min event.stop piece.1.endAddr) piece.2 := by
  obtain ⟨overlap, hoverlap, hvma, hcut⟩ := mem_eventPieces.1 hpiece
  obtain ⟨hmem, hfirst, hlast, -⟩ := (mem_overlaps hnonempty).1 hoverlap
  rw [← hvma, ← hfirst, ← hlast]
  exact ⟨mem_of_mem_drop hmem, (cutBuckets_spec hbucket _ _).1 _ hcut⟩

theorem pieces_cover (vma : VMARecord) (address : ℤ) :
    (∃ piece ∈ eventPieces event index bucketBytes, piece.1 = vma ∧ piece.2.1 ≤ address ∧
        address < piece.2.2) ↔
      vma ∈ index.records.drop (index.bisectRight event.start - 1) ∧ event.start ≤ address ∧
        address < event.stop ∧ vma.Holds address := by
  constructor
  · rintro ⟨piece, hpiece, rfl, hle, hlt⟩
    obtain ⟨overlap, hoverlap, hvma, hcut⟩ := mem_eventPieces.1 hpiece
    obtain ⟨hmem, hfirst, hlast, -⟩ := (mem_overlaps hnonempty).1 hoverlap
    obtain ⟨hbegin, hend⟩ :=
      ((cutBuckets_spec hbucket _ _).2.2 address).1 ⟨piece.2, hcut, hle, hlt⟩
    rw [← hvma]
    unfold VMARecord.Holds
    exact ⟨hmem, by omega, by omega, by omega, by omega⟩
  · rintro ⟨hmem, hstart, hstop, hholds⟩
    unfold VMARecord.Holds at hholds
    have hoverlap : (vma, max event.start vma.startAddr, min event.stop vma.endAddr) ∈
        index.overlaps event.start event.stop := by
      refine (mem_overlaps hnonempty).2 ⟨hmem, rfl, rfl, ?_⟩
      dsimp only
      omega
    obtain ⟨cut, hcut, hle, hlt⟩ := ((cutBuckets_spec hbucket (max event.start vma.startAddr)
      (min event.stop vma.endAddr)).2.2 address).2 (by omega)
    exact ⟨(vma, cut), mem_eventPieces.2 ⟨_, hoverlap, rfl, hcut⟩, rfl, hle, hlt⟩

theorem pieces_apart (hapart : index.records.Pairwise VMARecord.Apart) :
    Apart ((eventPieces event index bucketBytes).map Prod.snd) := by
  have hvmas : (index.overlaps event.start event.stop).Pairwise
      fun earlier later => earlier.1.Apart later.1 :=
    pairwise_map.1 (hapart.sublist (overlaps_sublist index event.start event.stop))
  unfold Apart eventPieces
  rw [pairwise_map, pairwise_flatMap]
  refine ⟨fun overlap _ => ?_, hvmas.imp_of_mem fun {left right} hleft hright hboth => ?_⟩
  · rw [pairwise_map]
    exact (cutBuckets_spec hbucket _ _).2.1.imp fun hle => .inl hle
  · intro piece hpiece piece' hpiece'
    obtain ⟨cut, hcut, rfl⟩ := mem_map.1 hpiece
    obtain ⟨cut', hcut', rfl⟩ := mem_map.1 hpiece'
    obtain ⟨-, hfirst, hlast, -⟩ := (mem_overlaps hnonempty).1 hleft
    obtain ⟨-, hfirst', hlast', -⟩ := (mem_overlaps hnonempty).1 hright
    have hbounds := (cutBuckets_spec hbucket _ _).1 cut hcut
    have hbounds' := (cutBuckets_spec hbucket _ _).1 cut' hcut'
    have hle := hbounds.first_le
    have hle' := hbounds'.first_le
    have hend := hbounds.le_stop
    have hend' := hbounds'.le_stop
    have hforward := hbounds.forward
    have hforward' := hbounds'.forward
    by_contra hcross
    dsimp only at hcross
    refine hboth (max cut.1 cut'.1) ⟨⟨?_, ?_⟩, ?_, ?_⟩
    · omega
    · omega
    · omega
    · omega

end

section

variable {appId : String} {event : DamonEvent} {bucketBytes : ℤ}

/-- The observation says of the piece how long it is, its share of the accesses, and the keys of
its first byte. -/
structure Observes (appId : String) (event : DamonEvent) (bucketBytes : ℤ)
    (piece : VMARecord × ℤ × ℤ) (observation : RegionObservation) : Prop where
  observedBytes : observation.observedBytes = piece.2.2 - piece.2.1
  weightedAccesses : observation.weightedAccesses =
    event.nrAccesses * (((piece.2.2 - piece.2.1 : ℤ) : ℚ) / event.sizeBytes)
  stableKey : observation.stableKey =
    (stableRegionForAddress appId piece.1 piece.2.1 bucketBytes).stableKey
  canonicalKey : observation.canonicalKey =
    (stableRegionForAddress appId piece.1 piece.2.1 bucketBytes).canonicalKey

variable {pieces : List (VMARecord × ℤ × ℤ)}

theorem observePieces_observe {low : Bool} {vocab after : RegionVocab}
    {observations : List RegionObservation} (hforward : ∀ piece ∈ pieces, piece.2.1 ≤ piece.2.2)
    (h : observePieces appId event bucketBytes low vocab pieces = .ok (observations, after)) :
    List.Forall₂ (Observes appId event bucketBytes) pieces observations := by
  induction pieces generalizing vocab observations with
  | nil =>
    cases h
    exact .nil
  | cons piece pieces ih =>
    have hlength : max 0 (piece.2.2 - piece.2.1) = piece.2.2 - piece.2.1 :=
      max_eq_right (sub_nonneg.2 (hforward piece (.head _)))
    obtain ⟨created, -, h⟩ := bind_eq_ok.1 h
    obtain ⟨rest, hrest, hdone⟩ := bind_eq_ok.1 h
    cases hdone
    refine .cons ⟨hlength, ?_, rfl, rfl⟩ (ih (fun later hlater => hforward later (.tail _ hlater))
      hrest)
    change event.nrAccesses * (((max 0 (piece.2.2 - piece.2.1) : ℤ) : ℚ) / event.sizeBytes) = _
    rw [hlength]

theorem weights_sum {observations : List RegionObservation}
    (h : List.Forall₂ (Observes appId event bucketBytes) pieces observations) :
    (observations.map RegionObservation.weightedAccesses).sum =
      event.nrAccesses * (((pieces.map fun piece => piece.2.2 - piece.2.1).sum : ℤ) : ℚ) /
        event.sizeBytes := by
  induction h with
  | nil => simp
  | cons hobserves _ ih =>
    rw [map_cons, sum_cons, map_cons, sum_cons, ih,
      hobserves.weightedAccesses]
    push_cast
    ring

end

section

variable {appId : String} {event : DamonEvent} {records : List VMARecord} {bucketBytes : ℤ}

instance (vma : VMARecord) (address : ℤ) : Decidable (vma.Holds address) :=
  inferInstanceAs (Decidable (_ ∧ _))

def mappedBytes (event : DamonEvent) (records : List VMARecord) : Finset ℤ :=
  (@Finset.Ico ℤ _ Int.instLocallyFiniteOrder event.start event.stop).filter fun address =>
    ∃ vma ∈ records, vma.Holds address

/-- Every byte of the event that lies in some VMA is attributed once, to its own region. -/
structure Attributes (appId : String) (event : DamonEvent) (records : List VMARecord)
    (bucketBytes : ℤ) (pieces : List (VMARecord × ℤ × ℤ))
    (observations : List RegionObservation) : Prop where
  observes : List.Forall₂ (Observes appId event bucketBytes) pieces observations
  apart : Apart (pieces.map Prod.snd)
  covers : ∀ address, (∃ piece ∈ pieces, piece.2.1 ≤ address ∧ address < piece.2.2) ↔
    address ∈ mappedBytes event records
  weights : (observations.map RegionObservation.weightedAccesses).sum =
    event.nrAccesses * (mappedBytes event records).card / event.sizeBytes
  pure : List.Forall₂ (fun piece observation => ∀ address, piece.2.1 ≤ address →
    address < piece.2.2 → ∀ vma ∈ records, vma.Holds address →
      (stableRegionForAddress appId vma address bucketBytes).stableKey = observation.stableKey ∧
        (stableRegionForAddress appId vma address bucketBytes).canonicalKey =
          observation.canonicalKey) pieces observations

/-- `map_event_to_regions` returns, and the bytes of the event are attributed. -/
def Attributed (appId : String) (event : DamonEvent) (records : List VMARecord)
    (vocab : RegionVocab) (bucketBytes : ℤ) : Prop :=
  ∃ observations after, mapEventToRegions appId event (.ofRecords records) vocab bucketBytes =
      .ok (observations, after) ∧
    Attributes appId event records bucketBytes
      (eventPieces event (.ofRecords records) bucketBytes) observations

def Aligned (event : DamonEvent) (records : List VMARecord) (bucketBytes : ℤ) : Prop :=
  ∀ vma ∈ records, ∀ address, max event.start vma.startAddr < address →
    address < min event.stop vma.endAddr → (address - keyBase vma) % bucketBytes = 0 →
    address % bucketBytes = 0

theorem mem_mappedBytes {address : ℤ} : address ∈ mappedBytes event records ↔
    event.start ≤ address ∧ address < event.stop ∧ ∃ vma ∈ records, vma.Holds address := by
  unfold mappedBytes
  rw [Finset.mem_filter, Finset.mem_Ico, and_assoc]

theorem mem_ofRecords {vma : VMARecord} :
    vma ∈ (VMAIntervalIndex.ofRecords records).records ↔ vma ∈ records :=
  mem_insertionSort _

theorem ofRecords_apart (hapart : records.Pairwise VMARecord.Apart) :
    (VMAIntervalIndex.ofRecords records).records.Pairwise VMARecord.Apart :=
  hapart.perm (perm_insertionSort _ _).symm VMARecord.Apart.symm

theorem holds_unique (hapart : records.Pairwise VMARecord.Apart) {left right : VMARecord}
    (hleft : left ∈ records) (hright : right ∈ records) {address : ℤ} (hl : left.Holds address)
    (hr : right.Holds address) : left = right := by
  by_contra hother
  have hsymm : Std.Symm VMARecord.Apart := ⟨fun _ _ => VMARecord.Apart.symm⟩
  exact hapart.forall hleft hright hother address ⟨hl, hr⟩

theorem forall₂_iff_forall_left {α β : Type} {R P : α → β → Prop} {Q : α → Prop} {xs : List α}
    {ys : List β} (h : List.Forall₂ R xs ys) (hiff : ∀ x ∈ xs, ∀ y, R x y → (P x y ↔ Q x)) :
    List.Forall₂ P xs ys ↔ ∀ x ∈ xs, Q x := by
  induction h with
  | nil => exact ⟨fun _ => nofun, fun _ => .nil⟩
  | cons hpair _ ih =>
    rw [forall₂_cons, forall_mem_cons, ih fun x hx => hiff x (.tail _ hx),
      hiff _ (.head _) _ hpair]

theorem weights_mapped {pieces : List (VMARecord × ℤ × ℤ)} {observations : List RegionObservation}
    (hobserves : List.Forall₂ (Observes appId event bucketBytes) pieces observations)
    (hapart : Apart (pieces.map Prod.snd)) (hforward : ∀ piece ∈ pieces, piece.2.1 ≤ piece.2.2)
    (hcovers : ∀ address, (∃ piece ∈ pieces, piece.2.1 ≤ address ∧ address < piece.2.2) ↔
      address ∈ mappedBytes event records) :
    (observations.map RegionObservation.weightedAccesses).sum =
      event.nrAccesses * (mappedBytes event records).card / event.sizeBytes := by
  have hcard := card_covered hapart
    (fun cut hcut => by
      obtain ⟨piece, hpiece, rfl⟩ := mem_map.1 hcut
      exact hforward piece hpiece)
    (mappedBytes event records) fun address => by
      rw [← hcovers]
      constructor
      · rintro ⟨piece, hpiece, hinside⟩
        exact ⟨piece.2, mem_map_of_mem hpiece, hinside⟩
      · rintro ⟨cut, hcut, hinside⟩
        obtain ⟨piece, hpiece, rfl⟩ := mem_map.1 hcut
        exact ⟨piece, hpiece, hinside⟩
  rw [map_map] at hcard
  rw [weights_sum hobserves]
  change event.nrAccesses * ((pieces.map ((fun cut : ℤ × ℤ => cut.2 - cut.1) ∘ Prod.snd)).sum : ℤ) /
    _ = _
  rw [← hcard, Int.cast_natCast]

theorem DamonEvent.sizeBytes_le (hempty : event.stop ≤ event.start) : event.sizeBytes ≤ 0 := by
  unfold DamonEvent.sizeBytes
  omega

section

variable {vocab after : RegionVocab} {observations : List RegionObservation}
  (hbucket : 0 < bucketBytes) (hnonempty : event.start < event.stop)
  (hapart : records.Pairwise VMARecord.Apart)
  (hmap : mapEventToRegions appId event (.ofRecords records) vocab bucketBytes =
    .ok (observations, after))

include hbucket hnonempty

theorem unbroken_iff (hsearch : Searchable (.ofRecords records) event.start) :
    (∀ piece ∈ eventPieces event (.ofRecords records) bucketBytes, ∀ address,
        piece.2.1 < address → address < piece.2.2 →
          (address - keyBase piece.1) % bucketBytes ≠ 0) ↔ Aligned event records bucketBytes := by
  constructor
  · intro h vma hmem address hfirst hlast hbegins
    have hdrop := hsearch.mem_drop (mem_ofRecords.2 hmem) (by omega)
    obtain ⟨piece, hpiece, rfl, hle, hlt⟩ := (pieces_cover hbucket hnonempty vma address).2
      ⟨hdrop, by omega, by omega, by omega, by omega⟩
    rcases eq_or_lt_of_le hle with hsame | hinside
    · rcases (piece_spec hbucket hnonempty hpiece).2.begins with hedge | hmultiple
      · omega
      · rw [← hsame]
        exact hmultiple
    · exact absurd hbegins (h piece hpiece address hinside hlt)
  · intro h piece hpiece address hinside hlt hbegins
    obtain ⟨hmem, hcut⟩ := piece_spec hbucket hnonempty hpiece
    have hfirst := hcut.first_le
    have hstop := hcut.le_stop
    have hmultiple := h piece.1 (mem_ofRecords.1 hmem) address (by omega) (by omega) hbegins
    -- the next multiple of the bucket size is the end of the piece at the earliest
    have hexact := Int.mul_ediv_add_emod address bucketBytes
    rw [hmultiple, add_zero, mul_comm] at hexact
    have hnext : piece.2.1 / bucketBytes + 1 ≤ address / bucketBytes :=
      Int.add_one_le_of_lt (Int.ediv_lt_of_lt_mul hbucket (by omega))
    have hlimit := Int.mul_le_mul_of_nonneg_right hnext hbucket.le
    have := hcut.inside
    omega

include hapart in
theorem covers_iff :
    (∀ address, (∃ piece ∈ eventPieces event (.ofRecords records) bucketBytes,
        piece.2.1 ≤ address ∧ address < piece.2.2) ↔ address ∈ mappedBytes event records) ↔
      Searchable (.ofRecords records) event.start := by
  have hcover := @pieces_cover _ (.ofRecords records) _ hbucket hnonempty
  have hboth := ofRecords_apart hapart
  rw [← take_append_drop ((VMAIntervalIndex.ofRecords records).bisectRight event.start - 1)
    (VMAIntervalIndex.ofRecords records).records] at hboth
  have hacross := (pairwise_append.1 hboth).2.2
  constructor
  · intro h vma hmem
    by_contra hlate
    have hheld : vma.Holds event.start := ⟨mem_takeWhile_start hmem, not_le.1 hlate⟩
    have hmapped : event.start ∈ mappedBytes event records :=
      mem_mappedBytes.2 ⟨le_rfl, hnonempty, vma, mem_ofRecords.1 (mem_of_mem_take hmem), hheld⟩
    obtain ⟨piece, hpiece, hle, hlt⟩ := (h event.start).2 hmapped
    obtain ⟨hdrop, -, -, hheld'⟩ :=
      (hcover piece.1 event.start).1 ⟨piece, hpiece, rfl, hle, hlt⟩
    exact hacross vma hmem piece.1 hdrop event.start ⟨hheld, hheld'⟩
  · intro h address
    rw [mem_mappedBytes]
    constructor
    · rintro ⟨piece, hpiece, hle, hlt⟩
      obtain ⟨hdrop, hstart, hstop, hheld⟩ :=
        (hcover piece.1 address).1 ⟨piece, hpiece, rfl, hle, hlt⟩
      exact ⟨hstart, hstop, piece.1, mem_ofRecords.1 (mem_of_mem_drop hdrop), hheld⟩
    · rintro ⟨hstart, hstop, vma, hmem, hheld⟩
      have hdrop := h.mem_drop (mem_ofRecords.2 hmem) (hstart.trans_lt hheld.2)
      obtain ⟨piece, hpiece, -, hle, hlt⟩ := (hcover vma address).2 ⟨hdrop, hstart, hstop, hheld⟩
      exact ⟨piece, hpiece, hle, hlt⟩

include hapart in
theorem piece_pure_iff {piece : VMARecord × ℤ × ℤ}
    (hpiece : piece ∈ eventPieces event (.ofRecords records) bucketBytes)
    {observation : RegionObservation} (hobserves : Observes appId event bucketBytes piece observation) :
    (∀ address, piece.2.1 ≤ address → address < piece.2.2 → ∀ vma ∈ records, vma.Holds address →
        (stableRegionForAddress appId vma address bucketBytes).stableKey = observation.stableKey ∧
          (stableRegionForAddress appId vma address bucketBytes).canonicalKey =
            observation.canonicalKey) ↔
      ∀ address, piece.2.1 < address → address < piece.2.2 →
        (address - keyBase piece.1) % bucketBytes ≠ 0 := by
  obtain ⟨hmem, hcut⟩ := piece_spec hbucket hnonempty hpiece
  have hfirst := hcut.first_le
  have hstop := hcut.le_stop
  rw [← one_bucket_iff hbucket, hobserves.stableKey, hobserves.canonicalKey]
  refine forall_congr' fun address => forall_congr' fun hle => forall_congr' fun hlt => ?_
  have hheld : piece.1.Holds address := ⟨by omega, by omega⟩
  rw [← sameKeys_iff appId piece.1 bucketBytes (by omega) (by omega)]
  constructor
  · exact fun h => h piece.1 (mem_ofRecords.1 hmem) hheld
  · intro h vma hvma hheld'
    rw [holds_unique hapart hvma (mem_ofRecords.1 hmem) hheld' hheld]
    exact h

include hmap in
theorem map_observes :
    List.Forall₂ (Observes appId event bucketBytes)
      (eventPieces event (.ofRecords records) bucketBytes) observations := by
  unfold mapEventToRegions DamonEvent.sizeBytes at hmap
  rw [if_neg (by omega)] at hmap
  refine observePieces_observe (fun piece hpiece => ?_) hmap
  exact (piece_spec hbucket hnonempty hpiece).2.forward.le

include hapart hmap in
theorem attributes_nonempty_iff :
    Attributes appId event records bucketBytes
        (eventPieces event (.ofRecords records) bucketBytes) observations ↔
      Searchable (.ofRecords records) event.start ∧ Aligned event records bucketBytes := by
  have hobserves := map_observes hbucket hnonempty hmap
  have hpieces := pieces_apart hbucket hnonempty (ofRecords_apart hapart)
  have hpure := forall₂_iff_forall_left hobserves fun piece hpiece observation hobserved =>
    piece_pure_iff hbucket hnonempty hapart hpiece hobserved
  constructor
  · intro h
    have hsearch := (covers_iff hbucket hnonempty hapart).1 h.covers
    exact ⟨hsearch, (unbroken_iff hbucket hnonempty hsearch).1 (hpure.1 h.pure)⟩
  · rintro ⟨hsearch, haligned⟩
    have hcovers := (covers_iff hbucket hnonempty hapart).2 hsearch
    refine ⟨hobserves, hpieces, hcovers, ?_,
      hpure.2 ((unbroken_iff hbucket hnonempty hsearch).2 haligned)⟩
    refine weights_mapped hobserves hpieces (fun piece hpiece => ?_) hcovers
    exact (piece_spec hbucket hnonempty hpiece).2.forward.le

omit hnonempty in
include hapart hmap in
theorem attributes_ok_iff :
    Attributes appId event records bucketBytes
        (eventPieces event (.ofRecords records) bucketBytes) observations ↔
      (event.start < event.stop → Searchable (.ofRecords records) event.start) ∧
        Aligned event records bucketBytes := by
  rcases lt_or_ge event.start event.stop with hnonempty | hempty
  · rw [attributes_nonempty_iff hbucket hnonempty hapart hmap, forall_prop_of_true hnonempty]
  · have hsize := DamonEvent.sizeBytes_le hempty
    unfold mapEventToRegions at hmap
    rw [if_pos hsize] at hmap
    cases hmap
    have hmapped : mappedBytes event records = ∅ :=
      Finset.eq_empty_of_forall_notMem fun address haddress => by
        obtain ⟨hstart, hstop, -⟩ := mem_mappedBytes.1 haddress
        omega
    rw [eventPieces_empty hsize]
    refine iff_of_true ⟨.nil, .nil, fun address => ?_, ?_, .nil⟩
      ⟨fun hnonempty => absurd hnonempty (not_lt.2 hempty), fun vma _ address hfirst hlast => ?_⟩
    · rw [hmapped]
      simp
    · rw [hmapped]
      simp
    · omega

end

/-- The bytes of an event are attributed to their own regions when every bucket of a VMA that
begins inside the event begins at a multiple of the bucket size, no empty VMA hides another, and a
corrupted vocabulary is not asked. -/
theorem attributes_iff (appId : String) (event : DamonEvent) (records : List VMARecord)
    (vocab : RegionVocab) {bucketBytes : ℤ} (hbucket : 0 < bucketBytes)
    (hapart : records.Pairwise VMARecord.Apart) :
    Attributed appId event records vocab bucketBytes ↔
      (vocab.corrupted = true → mappedBytes event records = ∅) ∧
        (event.start < event.stop → Searchable (.ofRecords records) event.start) ∧
        Aligned event records bucketBytes := by
  cases hmap : mapEventToRegions appId event (.ofRecords records) vocab bucketBytes with
  | error text =>
    obtain ⟨hcorrupted, hpieces⟩ := mapEventToRegions_error hmap
    refine iff_of_false (fun ⟨_, _, hok, _⟩ => by cases hmap.symm.trans hok) ?_
    rintro ⟨hread, hsearch, -⟩
    have hnonempty : event.start < event.stop :=
      not_le.1 fun hempty => hpieces (eventPieces_empty (DamonEvent.sizeBytes_le hempty))
    obtain ⟨piece, hpiece⟩ := exists_mem_of_ne_nil _ hpieces
    have hfirst := ((covers_iff hbucket hnonempty hapart).2 (hsearch hnonempty) piece.2.1).1
      ⟨piece, hpiece, le_rfl, (piece_spec hbucket hnonempty hpiece).2.forward⟩
    rw [hread hcorrupted] at hfirst
    exact absurd hfirst (Finset.notMem_empty _)
  | ok done =>
    constructor
    · rintro ⟨observations, after, hok, h⟩
      refine ⟨fun hcorrupted => ?_, (attributes_ok_iff hbucket hapart hok).1 h⟩
      refine Finset.eq_empty_of_forall_notMem fun address haddress => ?_
      obtain ⟨piece, hpiece, -⟩ := (h.covers address).2 haddress
      rw [(mapEventToRegions_ok hok).2 hcorrupted] at hpiece
      cases hpiece
    · rintro ⟨-, h⟩
      exact ⟨done.1, done.2, hmap, (attributes_ok_iff hbucket hapart hmap).2 h⟩

/-- A shared library mapped from `startAddr` to `endAddr`, from its own start on. -/
def mappedLibrary (startAddr endAddr : ℤ) : VMARecord where
  processRole := "WPS_MAIN"
  startAddr := startAddr
  endAddr := endAddr
  sizeBytes := endAddr - startAddr
  permissions := "r--p"
  fileOffset := 0
  devMajor := 8
  devMinor := 1
  inode := 77
  pathname := "/opt/libfoo.so"
  anonName := ""
  mappingType := .sharedLibrary

def mappedHeap (startAddr endAddr : ℤ) : VMARecord where
  processRole := "WPS_MAIN"
  startAddr := startAddr
  endAddr := endAddr
  sizeBytes := endAddr - startAddr
  permissions := "rw-p"
  fileOffset := 0
  devMajor := 0
  devMinor := 0
  inode := 0
  pathname := "[heap]"
  anonName := "heap"
  mappingType := .anonHeap

def accesses (start stop : ℤ) : DamonEvent where
  timestampNs := 1000000000
  start := start
  stop := stop
  nrAccesses := 8
  age := 2

/-- Across a library and a heap: the library's bucket begins at a multiple of the bucket size, and
the heap's second bucket begins where the event ends. -/
theorem attributes_crossing :
    Attributed "WPS" (accesses 0x120000 0x1a0000)
      [mappedLibrary 0x100000 0x160000, mappedHeap 0x160000 0x1c0000] {} 262144 := by
  have hapart : [mappedLibrary 0x100000 0x160000, mappedHeap 0x160000 0x1c0000].Pairwise
      VMARecord.Apart := by
    refine pairwise_pair.2 fun address hboth => ?_
    obtain ⟨⟨-, hlibrary⟩, hheap, -⟩ := hboth
    dsimp only [mappedLibrary, mappedHeap] at hlibrary hheap
    omega
  refine (attributes_iff _ _ _ _ (by decide) hapart).2 ⟨nofun, fun _ => ?_, ?_⟩
  · refine searchable_of_nonempty (ofRecords_apart hapart) (fun vma hvma => ?_) _
    rw [mem_ofRecords, mem_pair] at hvma
    rcases hvma with rfl | rfl
    · decide
    · decide
  · intro vma hvma address hfirst hlast hbegins
    rw [mem_pair] at hvma
    rcases hvma with rfl | rfl
    · change (address - (0x100000 - 0)) % 262144 = 0 at hbegins
      omega
    · change max 0x120000 0x160000 < address at hfirst
      change address < min 0x1a0000 0x1c0000 at hlast
      change (address - 0x160000) % 262144 = 0 at hbegins
      omega

/-- A library mapped past a multiple of the bucket size: the second bucket of the file begins
inside the one piece. -/
theorem shifted_library_mixes :
    ¬ Attributed "WPS" (accesses 0x140000 0x160000) [mappedLibrary 0x110000 0x190000] {} 262144 := by
  rintro ⟨observations, after, hmap, h⟩
  have haligned := ((attributes_ok_iff (by decide) (pairwise_singleton _ _) hmap).1 h).2
  have hmultiple := haligned (mappedLibrary 0x110000 0x190000) (.head _) 0x150000 (by decide)
    (by decide) (by decide)
  revert hmultiple
  decide

end

end Parp.Region
