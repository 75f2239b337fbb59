import Parp.PageHotset

set_option autoImplicit false

namespace Parp.EbpfFileEvents

open MergedIntervals OrderedDict
open List hiding merge

def filePages (e : FileKey × List (ℤ × ℤ)) : List PageHotset.PageId :=
  (spans e.2).map (PageHotset.pageId e.1)

def groupedPages (grouped : Grouped) : List PageHotset.PageId := grouped.items.flatMap filePages

def accessPages (pageSize : ℤ) (a : PageAccess) : List PageHotset.PageId :=
  (span (a.interval pageSize)).map (PageHotset.pageId (fileKey a.device a.inode))

theorem filePages_concat (file : FileKey) (intervals : List (ℤ × ℤ)) (i : ℤ × ℤ) :
    filePages (file, intervals ++ [i]) =
      filePages (file, intervals) ++ (span i).map (PageHotset.pageId file) := by
  unfold filePages
  rw [spans_append, map_append]
  have hsingle : spans [i] = span i := append_nil _
  rw [hsingle]

theorem appendInterval_pages (grouped : Grouped) (file : FileKey) (i : ℤ × ℤ) :
    (groupedPages (appendInterval grouped file i)).Perm
      (groupedPages grouped ++ (span i).map (PageHotset.pageId file)) := by
  unfold appendInterval
  cases hget : grouped.get? file with
  | none =>
    have hitems : (grouped.set file ([] ++ [i])).items = grouped.items ++ [(file, [i])] :=
      Dict.set_items_new hget _
    unfold groupedPages
    rw [Option.getD_none, hitems, flatMap_append]
    refine List.Perm.append_left _ ?_
    rw [flatMap_singleton]
    exact (filePages_concat file [] i) ▸ .refl _
  | some intervals =>
    obtain ⟨left, right, hitems, hset⟩ := Dict.set_items_old hget (intervals ++ [i])
    unfold groupedPages
    rw [Option.getD_some, hset, hitems, flatMap_append, flatMap_append,
      flatMap_cons, flatMap_cons, filePages_concat, append_assoc,
      append_assoc, append_assoc]
    refine List.Perm.append_left _ (List.Perm.append_left _ ?_)
    exact perm_append_comm

section

open PageHotset

def Proper (grouped : Grouped) : Prop := ∀ e ∈ grouped.items, ∀ i ∈ e.2, i.1 ≤ i.2

def mergedPages (e : FileKey × List (ℤ × ℤ)) : List PageId := filePages (e.1, merge e.2)

theorem pageId_injective (file : FileKey) : Function.Injective (pageId file) := by
  intro p q h
  exact congrArg PageId.pageIndex h

variable {e : FileKey × List (ℤ × ℤ)} {grouped : Grouped}

theorem mem_filePages {p : PageId} :
    p ∈ filePages e ↔ (⟨p.deviceMajor, p.deviceMinor, p.inode⟩ : FileKey) = e.1 ∧
      p.pageIndex ∈ spans e.2 := by
  unfold filePages
  rw [mem_map]
  constructor
  · rintro ⟨q, hq, rfl⟩
    exact ⟨rfl, hq⟩
  · rintro ⟨hfile, hpage⟩
    refine ⟨p.pageIndex, hpage, ?_⟩
    unfold pageId
    rw [← hfile]

theorem mergedPages_nodup (h : ∀ i ∈ e.2, i.1 ≤ i.2) : (mergedPages e).Nodup :=
  (spans_merge_nodup h).map (pageId_injective e.1)

theorem mem_mergedPages (h : ∀ i ∈ e.2, i.1 ≤ i.2) (p : PageId) :
    p ∈ mergedPages e ↔ p ∈ filePages e := by
  unfold mergedPages
  rw [mem_filePages, mem_filePages, mem_spans_merge h]

theorem rangePages_pageRange (file : FileKey) (i : ℤ × ℤ) :
    rangePages (pageRange file i) = (span i).map (pageId file) := by
  unfold rangePages pageRange
  dsimp only
  rw [show i.1 + (i.2 - i.1 + 1) - 1 = i.2 by omega]

theorem ranges_mergedPages (e : FileKey × List (ℤ × ℤ)) :
    ((merge e.2).map (pageRange e.1)).flatMap rangePages = mergedPages e := by
  unfold mergedPages filePages spans
  rw [flatMap_map, map_flatMap]
  exact flatMap_congr fun i _ => rangePages_pageRange e.1 i

theorem compressFile_eq (c : Compressed) (file : FileKey) (intervals : List (ℤ × ℤ)) :
    compressFile c file intervals =
      { ranges := c.ranges ++ (merge intervals).map (pageRange file)
        uniquePageCount := c.uniquePageCount + totalPages (merge intervals)
        repeatedPageHits :=
          c.repeatedPageHits + max 0 (totalPages intervals - totalPages (merge intervals)) } := by
  unfold compressFile
  by_cases hempty : intervals = []
  · subst hempty
    rw [if_pos rfl]
    have hmerge : merge [] = [] := rfl
    have htotal : totalPages [] = 0 := rfl
    rw [hmerge, htotal, map_nil, append_nil]
    simp
  · rw [if_neg hempty]

theorem repeated_eq {intervals : List (ℤ × ℤ)} (file : FileKey) (h : ∀ i ∈ intervals, i.1 ≤ i.2) :
    max 0 (totalPages intervals - totalPages (merge intervals)) =
      ((filePages (file, intervals)).length : ℤ) - (mergedPages (file, intervals)).length := by
  have htotal := spans_length h
  have hunique := spans_length (merge_proper h)
  have hle := (spans_merge_dedup h).length_eq
  have hdedup := (dedup_sublist (spans intervals)).length_le
  unfold totalPages mergedPages filePages
  rw [length_map, length_map, ← htotal, ← hunique]
  dsimp only
  omega

theorem compress_foldl (files : List (FileKey × List (ℤ × ℤ)))
    (h : ∀ e ∈ files, ∀ i ∈ e.2, i.1 ≤ i.2) :
    ∀ c : Compressed,
      (files.foldl (fun c e => compressFile c e.1 e.2) c).ranges.flatMap rangePages =
          c.ranges.flatMap rangePages ++ files.flatMap mergedPages ∧
        (files.foldl (fun c e => compressFile c e.1 e.2) c).repeatedPageHits =
          c.repeatedPageHits + (files.flatMap filePages).length -
            (files.flatMap mergedPages).length := by
  induction files with
  | nil =>
    intro c
    simp
  | cons e files ih =>
    intro c
    obtain ⟨hranges, hrepeated⟩ :=
      ih (fun f hf => h f (.tail e hf)) (compressFile c e.1 e.2)
    rw [foldl_cons, hranges, hrepeated, compressFile_eq]
    dsimp only
    constructor
    · rw [flatMap_append, ranges_mergedPages, flatMap_cons, append_assoc]
    · have hfile : max 0 (totalPages e.2 - totalPages (merge e.2)) =
          ((filePages e).length : ℤ) - (mergedPages e).length :=
        repeated_eq e.1 (h e (.head files))
      rw [hfile, flatMap_cons, flatMap_cons, length_append, length_append]
      push_cast
      omega

theorem compressed_pages (h : Proper grouped) :
    ((compressedPageRanges grouped).ranges.flatMap rangePages : Multiset PageId) =
      (groupedPages grouped : Multiset PageId).dedup := by
  unfold compressedPageRanges
  have hperm := perm_insertionSort (fun e f : FileKey × List (ℤ × ℤ) => fileLe e.1 f.1)
    grouped.items
  have hproper : ∀ e ∈ grouped.items.insertionSort (fun e f => fileLe e.1 f.1),
      ∀ i ∈ e.2, i.1 ≤ i.2 := fun e he => h e (hperm.mem_iff.1 he)
  rw [(compress_foldl _ hproper {}).1]
  change (([] ++ _ : List PageId) : Multiset PageId) = _
  rw [nil_append, Multiset.coe_dedup, Multiset.coe_eq_coe]
  refine (hperm.flatMap_right mergedPages).trans ?_
  refine (perm_ext_iff_of_nodup ?_ (nodup_dedup _)).2 ?_
  · refine nodup_flatMap.2 ⟨fun e he => mergedPages_nodup (h e he), ?_⟩
    have hkeys := pairwise_map.1 grouped.nodup
    refine hkeys.imp ?_
    intro e f hne p hp hq
    exact hne ((mem_filePages.1 hp).1.symm.trans (mem_filePages.1 hq).1)
  · intro p
    unfold groupedPages
    rw [mem_dedup, mem_flatMap, mem_flatMap]
    exact exists_congr fun e => and_congr_right fun he => mem_mergedPages (h e he) p

theorem compressed_repeats (h : Proper grouped) :
    (compressedPageRanges grouped).repeatedPageHits =
      Multiset.card (groupedPages grouped : Multiset PageId) -
        Multiset.card (groupedPages grouped : Multiset PageId).dedup := by
  rw [← compressed_pages h, Multiset.coe_card, Multiset.coe_card]
  unfold compressedPageRanges
  have hperm := perm_insertionSort (fun e f : FileKey × List (ℤ × ℤ) => fileLe e.1 f.1)
    grouped.items
  have hproper : ∀ e ∈ grouped.items.insertionSort (fun e f => fileLe e.1 f.1),
      ∀ i ∈ e.2, i.1 ≤ i.2 := fun e he => h e (hperm.mem_iff.1 he)
  obtain ⟨hranges, hrepeated⟩ := compress_foldl _ hproper {}
  rw [hranges, hrepeated, (hperm.flatMap_right filePages).length_eq]
  change 0 + _ - _ = _ - ((([] ++ _ : List PageId).length : ℕ) : ℤ)
  rw [nil_append, Int.zero_add]
  rfl

theorem compressed_range (h : Proper grouped) {r : PageRange}
    (hr : r ∈ (compressedPageRanges grouped).ranges) :
    ∃ e ∈ grouped.items, ∃ i : ℤ × ℤ, i.1 ≤ i.2 ∧ r = pageRange e.1 i ∧
      ∀ p, i.1 ≤ p → p ≤ i.2 → p ∈ spans e.2 := by
  have hfold : ∀ (files : List (FileKey × List (ℤ × ℤ))) (c : Compressed),
      r ∈ (files.foldl (fun c e => compressFile c e.1 e.2) c).ranges →
        r ∈ c.ranges ∨ ∃ e ∈ files, r ∈ (merge e.2).map (pageRange e.1) := by
    intro files
    induction files with
    | nil => exact fun c hc => .inl hc
    | cons e files ih =>
      intro c hc
      rcases ih _ hc with hmem | ⟨f, hf, hmem⟩
      · replace hmem : r ∈ (compressFile c e.1 e.2).ranges := hmem
        rw [compressFile_eq, mem_append] at hmem
        exact hmem.imp id fun hnew => ⟨e, .head files, hnew⟩
      · exact .inr ⟨f, .tail e hf, hmem⟩
  obtain ⟨e, he, hmem⟩ := (hfold _ {} hr).resolve_left not_mem_nil
  obtain ⟨i, hi, rfl⟩ := mem_map.1 hmem
  have hitem := (mem_insertionSort _).1 he
  refine ⟨e, hitem, i, merge_proper (h e hitem) i hi, rfl, fun p hfirst hlast => ?_⟩
  rw [← mem_spans_merge (h e hitem)]
  exact mem_flatMap.2 ⟨i, hi, mem_span.2 ⟨hfirst, hlast⟩⟩

end

section

open PageHotset

/-- The accesses of a window that one flush takes, with their times, and its chunks. -/
structure Flush where
  accesses : List (PageAccess × ℤ)
  chunks : List (List PageRange)

def heldWindow (pageSize : ℤ) (key : WindowKey) (accesses : List (PageAccess × ℤ)) : PageWindows :=
  accesses.foldl (fun w a => w.aggregate pageSize key a.1) {}

def Flush.window (pageSize : ℤ) (key : WindowKey) (f : Flush) : PageWindows :=
  heldWindow pageSize key f.accesses

def Flush.compressed (pageSize : ℤ) (key : WindowKey) (f : Flush) : Compressed :=
  compressedPageRanges (((f.window pageSize key).ranges.get? key).getD ∅)

def Flush.messages (pageSize : ℤ) (key : WindowKey) (f : Flush) : List PageWindow :=
  chunkMessages pageSize key (((f.window pageSize key).eventCounts.get? key).getD 0)
    (f.compressed pageSize key) f.chunks

variable {pageSize : ℤ} {key : WindowKey}

def groupAccesses (pageSize : ℤ) (accesses : List (PageAccess × ℤ)) : Grouped :=
  accesses.foldl
    (fun g a => appendInterval g (fileKey a.1.device a.1.inode) (a.1.interval pageSize)) ∅

theorem get?_set_self {κ α : Type} [DecidableEq κ] (d : Dict κ α) (k : κ) (v : α) :
    (d.set k v).get? k = some v :=
  Dict.get?_of_mem (Dict.mem_set.2 (.inl rfl))

theorem window_holds (pageSize : ℤ) (key : WindowKey) (accesses : List (PageAccess × ℤ)) :
    ((heldWindow pageSize key accesses).ranges.get? key).getD ∅ =
        groupAccesses pageSize accesses ∧
      ((heldWindow pageSize key accesses).eventCounts.get? key).getD 0 = accesses.length := by
  induction accesses using List.reverseRecOn with
  | nil => exact ⟨rfl, rfl⟩
  | append_singleton accesses a ih =>
    obtain ⟨hranges, hcounts⟩ := ih
    unfold groupAccesses heldWindow
    rw [foldl_concat, foldl_concat, length_append]
    change (((heldWindow pageSize key accesses).aggregate pageSize key a.1).ranges.get? key).getD ∅
        = _ ∧ (((heldWindow pageSize key accesses).aggregate pageSize key
          a.1).eventCounts.get? key).getD 0 = _
    unfold PageWindows.aggregate
    dsimp only
    rw [get?_set_self, get?_set_self, hranges, hcounts]
    exact ⟨rfl, rfl⟩

theorem groupAccesses_pages (pageSize : ℤ) (accesses : List (PageAccess × ℤ)) :
    (groupedPages (groupAccesses pageSize accesses)).Perm
      (accesses.flatMap fun a => accessPages pageSize a.1) := by
  induction accesses using List.reverseRecOn with
  | nil => exact .nil
  | append_singleton accesses a ih =>
    unfold groupAccesses
    rw [foldl_concat, flatMap_append, flatMap_singleton]
    exact (appendInterval_pages _ _ _).trans (ih.append_right _)

theorem interval_proper (hsize : 0 < pageSize) {a : PageAccess} (h : a.Valid) :
    0 ≤ (a.interval pageSize).1 ∧ (a.interval pageSize).1 ≤ (a.interval pageSize).2 := by
  obtain ⟨-, hoffset, hpositive⟩ := h
  exact ⟨Int.ediv_nonneg hoffset (Int.le_of_lt hsize), Int.ediv_le_ediv hsize (by omega)⟩

theorem groupAccesses_proper (hsize : 0 < pageSize) {accesses : List (PageAccess × ℤ)}
    (h : ∀ a ∈ accesses, a.1.Valid) : Proper (groupAccesses pageSize accesses) := by
  induction accesses using List.reverseRecOn with
  | nil => exact nofun
  | append_singleton accesses a ih =>
    have hbefore := ih fun b hb => h b (mem_append_left _ hb)
    have hlast := (interval_proper hsize (h a (mem_append_right _ (.head _)))).2
    unfold groupAccesses
    rw [foldl_concat]
    intro e he i hi
    rcases Dict.mem_set.1 he with rfl | ⟨hold, -⟩
    · rcases mem_append.1 hi with hi | hi
      · cases hget : (groupAccesses pageSize accesses).get? (fileKey a.1.device a.1.inode) with
        | none =>
          unfold groupAccesses at hget
          rw [hget] at hi
          cases hi
        | some intervals =>
          have hmem := Dict.mem_of_get? hget
          unfold groupAccesses at hget
          rw [hget] at hi
          exact hbefore _ hmem i hi
      · obtain rfl := mem_singleton.1 hi
        exact hlast
    · exact hbefore e hold i hi

def Flush.pages (pageSize : ℤ) (f : Flush) : Multiset PageId :=
  (f.accesses.flatMap fun a => accessPages pageSize a.1 : List PageId)

variable {f : Flush}

theorem flush_compressed (pageSize : ℤ) (key : WindowKey) (f : Flush) :
    f.compressed pageSize key = compressedPageRanges (groupAccesses pageSize f.accesses) := by
  unfold Flush.compressed Flush.window
  rw [(window_holds pageSize key f.accesses).1]

theorem flush_pages (hsize : 0 < pageSize) (h : ∀ a ∈ f.accesses, a.1.Valid) :
    ((f.compressed pageSize key).ranges.flatMap rangePages : Multiset PageId) =
      (f.pages pageSize).dedup := by
  rw [flush_compressed, compressed_pages (groupAccesses_proper hsize h)]
  unfold Flush.pages
  rw [Multiset.coe_eq_coe.2 (groupAccesses_pages pageSize f.accesses)]

theorem flush_repeats (hsize : 0 < pageSize) (h : ∀ a ∈ f.accesses, a.1.Valid) :
    (f.compressed pageSize key).repeatedPageHits =
      Multiset.card (f.pages pageSize) - Multiset.card (f.pages pageSize).dedup := by
  rw [flush_compressed, compressed_repeats (groupAccesses_proper hsize h)]
  unfold Flush.pages
  rw [Multiset.coe_eq_coe.2 (groupAccesses_pages pageSize f.accesses)]

theorem flush_range (hsize : 0 < pageSize) (h : ∀ a ∈ f.accesses, a.1.Valid) {r : PageRange}
    (hr : r ∈ (f.compressed pageSize key).ranges) :
    ∃ (file : FileKey) (i : ℤ × ℤ), 0 < file.inode ∧ 0 ≤ i.1 ∧ i.1 ≤ i.2 ∧ r = pageRange file i ∧
      ∀ p, i.1 ≤ p → p ≤ i.2 → pageId file p ∈ f.pages pageSize := by
  rw [flush_compressed] at hr
  obtain ⟨e, he, i, hi, rfl, hrun⟩ := compressed_range (groupAccesses_proper hsize h) hr
  have htouched : ∀ p, i.1 ≤ p → p ≤ i.2 → pageId e.1 p ∈ f.pages pageSize := by
    intro p hfirst hlast
    have hmem : pageId e.1 p ∈ groupedPages (groupAccesses pageSize f.accesses) :=
      mem_flatMap.2 ⟨e, he, mem_map_of_mem (hrun p hfirst hlast)⟩
    exact Multiset.mem_coe.2 ((groupAccesses_pages pageSize f.accesses).mem_iff.1 hmem)
  obtain ⟨a, ha, hpage⟩ := mem_flatMap.1 (Multiset.mem_coe.1 (htouched i.1 (Int.le_refl _) hi))
  obtain ⟨p, hp, heq⟩ := mem_map.1 hpage
  have hinode : a.1.inode = e.1.inode := congrArg PageId.inode heq
  have hpageIndex : p = i.1 := congrArg PageId.pageIndex heq
  have hfirst := (mem_span.1 hp).1
  have hproper := (interval_proper hsize (h a ha)).1
  have hpositive := (h a ha).1
  exact ⟨e.1, i, by omega, by omega, hi, rfl, htouched⟩

/-- A flush as the helper makes it, with its chunks of `pageRangesPerChunk`. -/
def Flush.sent (pageSize : ℤ) (key : WindowKey) (accesses : List (PageAccess × ℤ)) : Flush where
  accesses := accesses
  chunks := slices pageRangesPerChunk
    (compressedPageRanges (((heldWindow pageSize key accesses).ranges.get? key).getD ∅)).ranges

end

end Parp.EbpfFileEvents

namespace Parp.PageHotset

open EbpfFileEvents MergedIntervals List

section

def Shadow.load (s : Shadow) (key : ℤ × String) (pages : Multiset PageId) (events repeats : ℤ) :
    Shadow :=
  { s with
    windowEvents := Function.update s.windowEvents key (s.windowEvents key + pages)
    windowEventCounts := Function.update s.windowEventCounts key (s.windowEventCounts key + events)
    windowAggregatedRepeats :=
      Function.update s.windowAggregatedRepeats key (s.windowAggregatedRepeats key + repeats) }

def Shadow.settled (s : Shadow) : Shadow := { s with nextWindowStartNs := none }

variable {key : ℤ × String}

theorem load_load (s : Shadow) (pages pages' : Multiset PageId)
    (events events' repeats repeats' : ℤ) :
    (s.load key pages events repeats).load key pages' events' repeats' =
      s.load key (pages + pages') (events + events') (repeats + repeats') := by
  unfold Shadow.load
  dsimp only
  simp only [Function.update_self, Function.update_idem, add_assoc]

theorem load_zero (s : Shadow) : s.load key 0 0 0 = s := by
  unfold Shadow.load
  simp only [add_zero, Function.update_eq_self]

theorem seed_settled (cfg : Config) (s : Shadow) (timestampNs : ℤ) :
    (s.seedWindowStart cfg timestampNs).settled = s.settled := by
  unfold Shadow.seedWindowStart
  dsimp only
  split
  · rfl
  · split_ifs
    · rfl
    · rfl

def eventPages (cfg : Config) (e : AccessEvent) : List PageId :=
  (span (e.offset / cfg.pageSize, (e.offset + e.size - 1) / cfg.pageSize)).map (pageId e.file)

/-- An access that the window `(windowStart, app)` gets, with a range that is not too large. -/
structure InWindow (cfg : Config) (key : ℤ × String) (e : AccessEvent) : Prop where
  app : e.app = key.2
  window : e.timestampNs - e.timestampNs % cfg.windowNs = key.1
  inode : 0 < e.file.inode
  offset : 0 ≤ e.offset
  size : 0 < e.size
  pages : (e.offset + e.size - 1) / cfg.pageSize - e.offset / cfg.pageSize + 1 ≤ maxEventPages

variable {cfg : Config}

theorem observeAccess_load {e : AccessEvent} (he : InWindow cfg key e) (happ : key.2 ≠ "")
    (htime : 0 < e.timestampNs) {s : Shadow} (hlast : s.lastFinalizedStartNs < key.1) :
    (observePageAccess cfg s e).2.settled =
      s.settled.load key (eventPages cfg e : List PageId) 1 0 := by
  obtain ⟨hname, hwindow, hinode, hoffset, hsize, hpages⟩ := he
  unfold observePageAccess
  dsimp only
  rw [hname, hwindow, if_neg (by simp only [happ, false_or]; omega), if_neg (by omega),
    if_neg (by omega)]
  dsimp only
  rw [seed_settled]
  unfold Shadow.load
  simp only [add_zero, Function.update_eq_self]
  rfl

theorem load_last {s s' : Shadow} {pages : Multiset PageId} {events repeats : ℤ}
    (h : s'.settled = s.settled.load key pages events repeats) :
    s'.lastFinalizedStartNs = s.lastFinalizedStartNs := by
  have hlast : s'.settled.lastFinalizedStartNs = s'.lastFinalizedStartNs := rfl
  rw [← hlast, h]
  rfl

theorem observeAccesses_load {events : List AccessEvent} (happ : key.2 ≠ "")
    (hevents : ∀ e ∈ events, InWindow cfg key e) (htimes : ∀ e ∈ events, 0 < e.timestampNs) :
    ∀ s : Shadow, s.lastFinalizedStartNs < key.1 →
      (events.foldl (fun s e => (observePageAccess cfg s e).2) s).settled =
        s.settled.load key (events.flatMap (eventPages cfg) : List PageId) events.length 0 := by
  induction events with
  | nil =>
    intro s _
    exact (load_zero s.settled).symm
  | cons e events ih =>
    intro s hlast
    have hstep := observeAccess_load (hevents e (.head events)) happ (htimes e (.head events)) hlast
    have hkept := load_last hstep
    rw [foldl_cons, ih (fun f hf => hevents f (.tail e hf)) (fun f hf => htimes f (.tail e hf))
      _ (hkept ▸ hlast), hstep, load_load, flatMap_cons, Multiset.coe_add, length_cons,
      add_zero]
    push_cast
    rw [add_comm 1]

theorem observeAccesses_some {events : List AccessEvent} (happ : key.2 ≠ "")
    (hevents : ∀ e ∈ events, InWindow cfg key e) :
    ∀ s : Shadow, s.lastFinalizedStartNs < key.1 → ∃ pages count,
      (events.foldl (fun s e => (observePageAccess cfg s e).2) s).settled =
        s.settled.load key pages count 0 := by
  induction events with
  | nil => exact fun s _ => ⟨0, 0, (load_zero s.settled).symm⟩
  | cons e events ih =>
    intro s hlast
    rw [foldl_cons]
    by_cases htime : 0 < e.timestampNs
    · have hstep := observeAccess_load (hevents e (.head events)) happ htime hlast
      obtain ⟨pages, count, hrest⟩ :=
        ih (fun f hf => hevents f (.tail e hf)) _ (load_last hstep ▸ hlast)
      rw [hrest, hstep, load_load]
      exact ⟨_, _, rfl⟩
    · have hstep : (observePageAccess cfg s e).2 = s := by
        unfold observePageAccess
        rw [if_pos (.inl (by omega))]
      rw [hstep]
      exact ih (fun f hf => hevents f (.tail e hf)) s hlast

theorem observeRanges_load {ranges : List PageRange} (hranges : ∀ r ∈ ranges, 0 < r.inode ∧
    0 ≤ r.startPageIndex ∧ 0 < r.pageCount ∧ r.pageCount ≤ maxEventPages) :
    ∀ s : Shadow, ranges.foldl (observeRange key) s =
      s.load key (ranges.flatMap rangePages : List PageId) 0 0 := by
  induction ranges with
  | nil =>
    intro s
    exact (load_zero s).symm
  | cons r ranges ih =>
    intro s
    have hr := hranges r (.head ranges)
    have hstep : observeRange key s r = s.load key (rangePages r : List PageId) 0 0 := by
      unfold observeRange
      rw [if_neg (by omega)]
      unfold Shadow.load
      simp only [add_zero, Function.update_eq_self]
      rfl
    rw [foldl_cons, ih fun q hq => hranges q (.tail r hq), hstep, load_load,
      flatMap_cons, Multiset.coe_add, add_zero]

/-- A message of the window `key` with ranges that are not too large. -/
structure ForWindow (cfg : Config) (key : ℤ × String) (w : PageWindow) : Prop where
  start : w.windowStartNs = key.1
  app : w.app = key.2
  pageSize : w.pageSize = cfg.pageSize
  ranges : ∀ r ∈ w.pageRanges,
    0 < r.inode ∧ 0 ≤ r.startPageIndex ∧ 0 < r.pageCount ∧ r.pageCount ≤ maxEventPages

def messagePages (w : PageWindow) : List PageId := w.pageRanges.flatMap rangePages

theorem observeWindows_load {windows : List PageWindow} (happ : key.2 ≠ "") (hstart : 0 < key.1)
    (haligned : key.1 % cfg.windowNs = 0) (hwindows : ∀ w ∈ windows, ForWindow cfg key w) :
    ∀ s : Shadow, s.lastFinalizedStartNs < key.1 →
      (windows.foldl (observePageWindow cfg) s).settled =
        s.settled.load key (windows.flatMap messagePages : List PageId)
          (windows.map fun w => (w.pageAccessEvents : ℤ)).sum
          (windows.map PageWindow.repeatedPageHits).sum := by
  induction windows with
  | nil =>
    intro s _
    exact (load_zero s.settled).symm
  | cons w windows ih =>
    intro s hlast
    obtain ⟨hwindow, hname, hsize, hranges⟩ := hwindows w (.head windows)
    have hstep : (observePageWindow cfg s w).settled =
        s.settled.load key (messagePages w : List PageId) w.pageAccessEvents
          w.repeatedPageHits := by
      unfold observePageWindow
      rw [hwindow, hname, hsize, if_neg (by
        simp only [happ, haligned, ne_eq, not_true, or_false]; omega), if_neg (by omega)]
      dsimp only
      rw [seed_settled, observeRanges_load hranges]
      have hadd : ∀ s : Shadow, (s.addEvents key w.pageAccessEvents).addRepeats key
          w.repeatedPageHits = s.load key 0 w.pageAccessEvents w.repeatedPageHits := by
        intro s
        unfold Shadow.load
        simp only [add_zero, Function.update_eq_self]
        rfl
      rw [hadd, load_load, add_zero, zero_add, zero_add]
      rfl
    have hkept := load_last hstep
    rw [foldl_cons, ih (fun v hv => hwindows v (.tail w hv)) _ (hkept ▸ hlast), hstep,
      load_load, flatMap_cons, Multiset.coe_add, map_cons, map_cons, sum_cons,
      sum_cons]

end

end Parp.PageHotset
