import Mathlib.Algebra.BigOperators.Ring.Finset
import Parp.PageHotsetLaws

set_option autoImplicit false

namespace Parp.PageHotset

open EbpfFileEvents MergedIntervals List

section

theorem repetitions_eq (M : Multiset PageId) :
    ∑ p ∈ M.toFinset, max 0 ((M.count p : ℤ) - 1) = Multiset.card M - M.toFinset.card := by
  have hterm : ∀ p ∈ M.toFinset, max 0 ((M.count p : ℤ) - 1) = (M.count p : ℤ) - 1 := by
    intro p hp
    have hpos := Multiset.one_le_count_iff_mem.2 (Multiset.mem_toFinset.1 hp)
    omega
  rw [Finset.sum_congr rfl hterm, Finset.sum_sub_distrib, ← Nat.cast_sum,
    Multiset.toFinset_sum_count_eq, Finset.sum_const, nsmul_eq_mul, mul_one]

theorem repeatedPageHits_load (s : Shadow) (key : ℤ × String) (pages : Multiset PageId)
    (events repeats : ℤ) :
    (s.load key pages events repeats).repeatedPageHits key =
      Multiset.card (s.windowEvents key) + Multiset.card pages -
        (s.windowEvents key + pages).toFinset.card + s.windowAggregatedRepeats key + repeats := by
  unfold Shadow.repeatedPageHits Shadow.load
  dsimp only
  rw [Function.update_self, Function.update_self, repetitions_eq, Multiset.card_add]
  push_cast
  omega

variable {key : ℤ × String}

theorem load_other (s : Shadow) {k : ℤ × String} (hk : k ≠ key) (pages : Multiset PageId)
    (events repeats : ℤ) :
    (s.load key pages events repeats).windowEvents k = s.windowEvents k ∧
      (s.load key pages events repeats).windowEventCounts k = s.windowEventCounts k ∧
      (s.load key pages events repeats).repeatedPageHits k = s.repeatedPageHits k := by
  unfold Shadow.repeatedPageHits Shadow.load
  dsimp only
  rw [Function.update_of_ne hk, Function.update_of_ne hk, Function.update_of_ne hk]
  exact ⟨rfl, rfl, rfl⟩

theorem snapshot_load (cfg : Config) (s : Shadow) (windowStart : ℤ)
    {pages pages' : Multiset PageId} {events repeats repeats' : ℤ}
    (hsame : pages.toFinset = pages'.toFinset)
    (hcount : Multiset.card pages + repeats = Multiset.card pages' + repeats') :
    snapshot cfg (s.load key pages events repeats) windowStart =
      snapshot cfg (s.load key pages' events repeats') windowStart := by
  have hunion : (s.windowEvents key + pages).toFinset = (s.windowEvents key + pages').toFinset := by
    rw [Multiset.toFinset_add, Multiset.toFinset_add, hsame]
  unfold snapshot
  dsimp only
  have hfront : ∀ p e r, foreground (s.load key p e r) windowStart (windowStart + cfg.windowNs) =
      foreground s windowStart (windowStart + cfg.windowNs) := fun _ _ _ => rfl
  have hsource : ∀ p e r, sourceReasons (s.load key p e r) windowStart (windowStart + cfg.windowNs) =
      sourceReasons s windowStart (windowStart + cfg.windowNs) := fun _ _ _ => rfl
  have hinvalid : ∀ p e r, (s.load key p e r).invalidWindows = s.invalidWindows := fun _ _ _ => rfl
  rw [hfront, hfront, hsource, hsource, hinvalid, hinvalid]
  by_cases hk : (windowStart, (foreground s windowStart (windowStart + cfg.windowNs)).1) = key
  · rw [hk, repeatedPageHits_load, repeatedPageHits_load]
    have hevents : ∀ p r, (s.load key p events r).windowEvents key = s.windowEvents key + p :=
      fun _ _ => Function.update_self _ _ _
    have hcounts : ∀ p r, (s.load key p events r).windowEventCounts key =
        s.windowEventCounts key + events := fun _ _ => Function.update_self _ _ _
    rw [hevents, hevents, hcounts, hcounts, hunion]
    congr 1
    omega
  · obtain ⟨hevents, hcounts, hrepeats⟩ := load_other s hk pages events repeats
    obtain ⟨hevents', hcounts', hrepeats'⟩ := load_other s hk pages' events repeats'
    rw [hevents, hcounts, hrepeats, hevents', hcounts', hrepeats']

theorem snapshot_settled (cfg : Config) (s : Shadow) (windowStart : ℤ) :
    snapshot cfg s.settled windowStart = snapshot cfg s windowStart := rfl

end

section

variable {pageSize : ℤ} {key : WindowKey}

theorem chunkMessages_totals (pageSize : ℤ) (key : WindowKey) (eventCount : ℕ) (c : Compressed)
    {chunks : List (List PageRange)} (hne : chunks ≠ []) :
    ((chunkMessages pageSize key eventCount c chunks).map fun w => (w.pageAccessEvents : ℤ)).sum =
        eventCount ∧
      ((chunkMessages pageSize key eventCount c chunks).map PageWindow.repeatedPageHits).sum =
        c.repeatedPageHits := by
  have hrest : ∀ (xs : List (List PageRange)) (i : ℕ), 0 < i → ∀ v : ℤ,
      ((xs.zipIdx i).map fun chunk => if chunk.2 = 0 then v else 0).sum = 0 := by
    intro xs
    induction xs with
    | nil => exact fun _ _ _ => rfl
    | cons x xs ih =>
      intro i hi v
      rw [zipIdx_cons, map_cons, sum_cons, ih (i + 1) (by omega) v,
        if_neg (by dsimp only; omega)]
      rfl
  have htotal : ∀ v : ℤ, (chunks.zipIdx.map fun chunk => if chunk.2 = 0 then v else 0).sum = v := by
    intro v
    obtain ⟨chunk, rest, rfl⟩ := exists_cons_of_ne_nil hne
    rw [zipIdx_cons, map_cons, sum_cons, hrest rest (0 + 1) (by omega) v, if_pos rfl,
      add_zero]
  unfold chunkMessages
  rw [map_map, map_map]
  refine ⟨?_, htotal c.repeatedPageHits⟩
  rw [← htotal eventCount]
  refine congrArg List.sum (map_congr_left fun chunk _ => ?_)
  dsimp only [Function.comp]
  split_ifs
  · rfl
  · rfl

theorem chunkMessages_pages (pageSize : ℤ) (key : WindowKey) (eventCount : ℕ) (c : Compressed)
    (chunks : List (List PageRange)) :
    (chunkMessages pageSize key eventCount c chunks).flatMap PageWindow.pageRanges =
      chunks.flatten := by
  unfold chunkMessages
  rw [flatMap_map]
  change (chunks.zipIdx.flatMap fun chunk => chunk.1) = chunks.flatten
  rw [flatMap_def, zipIdx_map_fst]

theorem mem_chunkMessages {eventCount : ℕ} {c : Compressed} {chunks : List (List PageRange)}
    {w : PageWindow} (h : w ∈ chunkMessages pageSize key eventCount c chunks) :
    w.windowStartNs = key.1 ∧ w.app = key.2 ∧ w.pageSize = pageSize ∧
      ∀ r ∈ w.pageRanges, r ∈ chunks.flatten := by
  obtain ⟨chunk, hchunk, rfl⟩ := mem_map.1 h
  refine ⟨rfl, rfl, rfl, fun r hr => mem_flatten.2 ⟨chunk.1, ?_, hr⟩⟩
  exact (mem_zipIdx hchunk).2.2 ▸ getElem_mem _

variable {f : Flush}

theorem accessPages_ne_nil (hsize : 0 < pageSize) {a : PageAccess} (h : a.Valid) :
    accessPages pageSize a ≠ [] := by
  have hproper := (interval_proper hsize h).2
  have hmem := mem_map_of_mem (f := pageId (fileKey a.device a.inode))
    (mem_span.2 ⟨Int.le_refl _, hproper⟩)
  exact ne_nil_of_mem hmem

theorem flush_messages (hsize : 0 < pageSize) (h : ∀ a ∈ f.accesses, a.1.Valid)
    (hchunks : f.chunks.flatten = (f.compressed pageSize key).ranges) :
    ((f.messages pageSize key).flatMap messagePages : Multiset PageId) =
        (f.pages pageSize).dedup ∧
      ((f.messages pageSize key).map fun w => (w.pageAccessEvents : ℤ)).sum =
        f.accesses.length ∧
      ((f.messages pageSize key).map PageWindow.repeatedPageHits).sum =
        Multiset.card (f.pages pageSize) - Multiset.card (f.pages pageSize).dedup := by
  have hpages := @flush_pages pageSize key f hsize h
  have hcount : ((f.window pageSize key).eventCounts.get? key).getD 0 = f.accesses.length :=
    (window_holds pageSize key f.accesses).2
  have hranges : (f.messages pageSize key).flatMap messagePages =
      (f.compressed pageSize key).ranges.flatMap rangePages := by
    unfold Flush.messages messagePages
    rw [← flatMap_assoc, chunkMessages_pages, hchunks]
  refine ⟨hranges ▸ hpages, ?_⟩
  rw [← flush_repeats hsize h]
  by_cases hne : f.chunks = []
  · have hnone : (f.compressed pageSize key).ranges = [] := by
      rw [← hchunks, hne]
      rfl
    have haccesses : f.accesses = [] := by
      rw [hnone] at hpages
      have hzero := Multiset.dedup_eq_zero.1 hpages.symm
      rw [Flush.pages, Multiset.coe_eq_zero, flatMap_eq_nil_iff] at hzero
      refine eq_nil_iff_forall_not_mem.2 fun a ha => ?_
      exact accessPages_ne_nil hsize (h a ha) (hzero a ha)
    unfold Flush.messages
    rw [hne, haccesses, flush_compressed, haccesses]
    exact ⟨rfl, rfl⟩
  · unfold Flush.messages
    rw [hcount]
    exact chunkMessages_totals pageSize key _ _ hne

theorem flushes_messages (hsize : 0 < pageSize) {flushes : List Flush}
    (h : ∀ f ∈ flushes, ∀ a ∈ f.accesses, a.1.Valid)
    (hchunks : ∀ f ∈ flushes, f.chunks.flatten = (f.compressed pageSize key).ranges) :
    let messages := flushes.flatMap (Flush.messages pageSize key)
    let seen : Multiset PageId :=
      (flushes.flatMap Flush.accesses).flatMap fun a => accessPages pageSize a.1
    (messages.flatMap messagePages : Multiset PageId).toFinset = seen.toFinset ∧
      (messages.map fun w => (w.pageAccessEvents : ℤ)).sum =
        (flushes.flatMap Flush.accesses).length ∧
      Multiset.card (messages.flatMap messagePages : Multiset PageId) +
          (messages.map PageWindow.repeatedPageHits).sum =
        Multiset.card seen := by
  dsimp only
  induction flushes with
  | nil => exact ⟨rfl, rfl, rfl⟩
  | cons f flushes ih =>
    obtain ⟨hsame, hevents, hcard⟩ :=
      ih (fun g hg => h g (.tail f hg)) fun g hg => hchunks g (.tail f hg)
    obtain ⟨hfirst, hfirstEvents, hfirstRepeats⟩ :=
      flush_messages hsize (h f (.head flushes)) (hchunks f (.head flushes))
    have hseen : ((f.accesses.flatMap fun a => accessPages pageSize a.1 : List PageId) :
        Multiset PageId) = f.pages pageSize := rfl
    simp only [flatMap_cons, flatMap_append, map_append, sum_append,
      length_append, ← Multiset.coe_add, Multiset.toFinset_add, Multiset.card_add]
    rw [hfirst, hsame, hevents, hfirstEvents, hfirstRepeats, hseen, Multiset.toFinset_dedup]
    refine ⟨rfl, ?_, ?_⟩
    · push_cast
      rfl
    · push_cast
      omega

end

section

def accessEvent (app : String) (a : PageAccess × ℤ) : AccessEvent where
  timestampNs := a.2
  app := app
  file := fileKey a.1.device a.1.inode
  offset := a.1.offset
  size := a.1.size

/-- The splits of the accesses of a window into flushes and of the flushes into chunks, with no run
of touched pages that is too long. -/
structure Split (cfg : Config) (key : ℤ × String) (flushes : List Flush) : Prop where
  aligned : key.1 % cfg.windowNs = 0
  accesses : ∀ f ∈ flushes, ∀ a ∈ f.accesses,
    a.1.Valid ∧ a.2 - a.2 % cfg.windowNs = key.1
  chunks : ∀ f ∈ flushes, f.chunks.flatten = (f.compressed cfg.pageSize key).ranges
  runs : ∀ (file : FileKey) (first last : ℤ),
    (∀ p, first ≤ p → p ≤ last →
      pageId file p ∈ (flushes.flatMap Flush.accesses).flatMap fun a =>
        accessPages cfg.pageSize a.1) →
      last - first + 1 ≤ maxEventPages

variable {cfg : Config} {key : ℤ × String} {flushes : List Flush}

theorem inWindow_accessEvent (h : Split cfg key flushes) :
    ∀ a ∈ flushes.flatMap Flush.accesses, InWindow cfg key (accessEvent key.2 a) := by
  intro a ha
  obtain ⟨f, hf, haf⟩ := mem_flatMap.1 ha
  obtain ⟨hvalid, hwindow⟩ := h.accesses f hf a haf
  refine ⟨rfl, hwindow, hvalid.1, hvalid.2.1, hvalid.2.2, ?_⟩
  refine h.runs (fileKey a.1.device a.1.inode) _ _ fun p hfirst hlast => ?_
  exact mem_flatMap.2 ⟨a, ha, mem_map_of_mem (mem_span.2 ⟨hfirst, hlast⟩)⟩

theorem forWindow_message (h : Split cfg key flushes) (hsize : 0 < cfg.pageSize) :
    ∀ w ∈ flushes.flatMap (Flush.messages cfg.pageSize key), ForWindow cfg key w := by
  intro w hw
  obtain ⟨f, hf, hwf⟩ := mem_flatMap.1 hw
  obtain ⟨hstart, happ, hpageSize, hranges⟩ := mem_chunkMessages hwf
  refine ⟨hstart, happ, hpageSize, fun r hr => ?_⟩
  have hmem := hranges r hr
  rw [h.chunks f hf] at hmem
  obtain ⟨file, i, hinode, hfirst, hproper, rfl, hrun⟩ :=
    flush_range hsize (fun a ha => (h.accesses f hf a ha).1) hmem
  have hlength : i.2 - i.1 + 1 ≤ maxEventPages := by
    refine h.runs file i.1 i.2 fun p hp hq => ?_
    rw [flatMap_assoc]
    exact mem_flatMap.2 ⟨f, hf, Multiset.mem_coe.1 (hrun p hp hq)⟩
  unfold pageRange
  dsimp only
  omega

theorem eventPages_accessEvents (cfg : Config) (app : String) (accesses : List (PageAccess × ℤ)) :
    (accesses.map (accessEvent app)).flatMap (eventPages cfg) =
      accesses.flatMap fun a => accessPages cfg.pageSize a.1 := by
  rw [flatMap_map]
  rfl

theorem snapshot_other (cfg : Config) (s : Shadow) {windowStart : ℤ}
    (hother : (windowStart, (foreground s windowStart (windowStart + cfg.windowNs)).1) ≠ key)
    (pages : Multiset PageId) (events repeats : ℤ) :
    snapshot cfg (s.load key pages events repeats) windowStart = snapshot cfg s windowStart := by
  obtain ⟨hpages, hcounts, hrepeats⟩ := load_other s hother pages events repeats
  have hfront : foreground (s.load key pages events repeats) windowStart
      (windowStart + cfg.windowNs) = foreground s windowStart (windowStart + cfg.windowNs) := rfl
  unfold snapshot
  dsimp only
  rw [hfront, hpages, hcounts, hrepeats]
  rfl

theorem foreground_unknown (s : Shadow) {windowStart : ℤ} (h : windowStart ≤ 0) (endNs : ℤ) :
    (foreground s windowStart endNs).1 = unknown := by
  have hnone : s.foregroundChanges.takeWhile (fun c => c.1 ≤ windowStart) = [] := by
    cases hchanges : s.foregroundChanges with
    | nil => rfl
    | cons c changes =>
      have hpositive := s.foregroundPositive c (hchanges ▸ .head changes)
      rw [takeWhile_cons_of_neg]
      simp only [decide_eq_true_eq]
      omega
  unfold foreground timelineValue
  rw [hnone]
  rfl

theorem foldl_fixed {α σ : Type} {step : σ → α → σ} {s : σ} {xs : List α}
    (h : ∀ x ∈ xs, step s x = s) : xs.foldl step s = s := by
  induction xs with
  | nil => rfl
  | cons x xs ih =>
    rw [foldl_cons, h x (.head xs)]
    exact ih fun y hy => h y (.tail x hy)

/-- A window closes to the same snapshot from the messages of its flushes, in any order, as from
its accesses as single events, in any order. -/
theorem compressed_windows_agree (hwindow : cfg.windowNs = pageWindowNs)
    (hsize : 0 < cfg.pageSize) (happ : key.2 ≠ "") (hnamed : key.1 ≠ 0 ∨ key.2 ≠ unknown) (h : Split cfg key flushes)
    (s : Shadow) (hopen : s.lastFinalizedStartNs < key.1) {events : List AccessEvent}
    (hevents : events.Perm ((flushes.flatMap Flush.accesses).map (accessEvent key.2)))
    {arrived : List PageWindow}
    (harrived : arrived.Perm (flushes.flatMap (Flush.messages cfg.pageSize key))) :
    snapshot cfg (arrived.foldl (observePageWindow cfg) s) key.1 =
      snapshot cfg (events.foldl (fun s e => (observePageAccess cfg s e).2) s) key.1 := by
  have hin : ∀ e ∈ events, InWindow cfg key e := by
    intro e he
    obtain ⟨a, ha, rfl⟩ := mem_map.1 (hevents.mem_iff.1 he)
    exact inWindow_accessEvent h a ha
  have hpositive : 0 < cfg.windowNs := by
    rw [hwindow]
    decide
  rcases Int.lt_or_le 0 key.1 with hstart | hstart
  · have htimes : ∀ e ∈ events, 0 < e.timestampNs := by
      intro e he
      have hwindow := (hin e he).window
      have hmod := Int.emod_nonneg e.timestampNs (show cfg.windowNs ≠ 0 by omega)
      omega
    have hfor : ∀ w ∈ arrived, ForWindow cfg key w := fun w hw =>
      forWindow_message h hsize w (harrived.mem_iff.1 hw)
    obtain ⟨hsame, hcount, hcard⟩ :=
      flushes_messages hsize (fun f hf a ha => (h.accesses f hf a ha).1) h.chunks
    rw [← snapshot_settled cfg (arrived.foldl _ _), ← snapshot_settled cfg (events.foldl _ _),
      observeWindows_load happ hstart h.aligned hfor s hopen,
      observeAccesses_load happ hin htimes s hopen, (harrived.map _).sum_eq,
      (harrived.map _).sum_eq, Multiset.coe_eq_coe.2 (harrived.flatMap_right messagePages),
      Multiset.coe_eq_coe.2 (hevents.flatMap_right (eventPages cfg)), hevents.length_eq,
      eventPages_accessEvents, length_map, hcount]
    refine snapshot_load cfg s.settled key.1 hsame ?_
    rw [hcard, add_zero]
  · have hkept : arrived.foldl (observePageWindow cfg) s = s := by
      refine foldl_fixed fun w hw => ?_
      have hfor := (forWindow_message h hsize w (harrived.mem_iff.1 hw)).start
      unfold observePageWindow
      rw [if_pos (.inl (by omega))]
    rw [hkept]
    by_cases hzero : key.1 = 0
    · obtain ⟨pages, count, hload⟩ := observeAccesses_some happ hin s hopen
      rw [← snapshot_settled cfg (events.foldl _ _), hload, snapshot_other, snapshot_settled]
      intro heq
      rw [foreground_unknown s.settled hstart] at heq
      exact hnamed.elim (fun hne => hne hzero) fun hne => hne (congrArg Prod.snd heq).symm
    · refine congrArg (fun s => snapshot cfg s key.1) (foldl_fixed fun e he => ?_).symm
      have hbefore := (hin e he).window
      have haligned := h.aligned
      rw [hwindow] at hbefore haligned
      unfold pageWindowNs at hbefore haligned
      unfold observePageAccess
      rw [if_pos (.inl (by omega))]

theorem run_le_touched {file : FileKey} {first last : ℤ} {touched : List PageId}
    (h : ∀ p, first ≤ p → p ≤ last → pageId file p ∈ touched) :
    last - first + 1 ≤ touched.length := by
  by_cases hrun : first ≤ last
  · have hnodup : ((span (first, last)).map (pageId file)).Nodup :=
      (span_nodup (first, last)).map (pageId_injective file)
    have hsubset : (span (first, last)).map (pageId file) ⊆ touched := by
      intro q hq
      obtain ⟨p, hp, rfl⟩ := mem_map.1 hq
      exact h p (mem_span.1 hp).1 (mem_span.1 hp).2
    have hlength := (hnodup.subperm hsubset).length_le
    rw [length_map] at hlength
    have hspan : ((span (first, last)).length : ℤ) = last - first + 1 := span_length hrun
    omega
  · omega

def hostConfig : Config where
  windowNs := pageWindowNs
  pageSize := 4096

def overlappingFlushes : List Flush :=
  [.sent 4096 (1000000000, "MAPS")
    [(⟨1, 7, 0, 8192⟩, 1000000001), (⟨1, 7, 4096, 1⟩, 1000000002)],
   { accesses := [(⟨1, 7, 4096, 1⟩, 1000000003), (⟨1, 9, 0, 1⟩, 1000000003)]
     chunks := [[⟨0, 1, 7, 1, 1⟩], [⟨0, 1, 9, 0, 1⟩]] }]

theorem overlappingFlushes_split :
    Split hostConfig (1000000000, "MAPS") overlappingFlushes where
  aligned := by decide +kernel
  accesses := by decide +kernel
  chunks := by decide +kernel
  runs file first last h := (run_le_touched h).trans (by decide +kernel)

theorem overlappingFlushes_agree :
    snapshot hostConfig ((overlappingFlushes.flatMap
        (Flush.messages 4096 (1000000000, "MAPS"))).foldl (observePageWindow hostConfig) {})
        1000000000 =
      snapshot hostConfig (((overlappingFlushes.flatMap Flush.accesses).map
        (accessEvent "MAPS")).foldl (fun s e => (observePageAccess hostConfig s e).2) {})
        1000000000 :=
  compressed_windows_agree rfl (by decide) (by decide) (.inl (by decide)) overlappingFlushes_split {}
    (by decide) (.refl _) (.refl _)

def firstFlush : List Flush := [.sent 4096 (0, unknown) [(⟨1, 7, 0, 1⟩, 5)]]

theorem firstFlush_split : Split hostConfig (0, unknown) firstFlush where
  aligned := by decide +kernel
  accesses := by decide +kernel
  chunks := by decide +kernel
  runs file first last h := (run_le_touched h).trans (by decide +kernel)

/-- The window at time zero takes events, but no message, of what has the name of no application. -/
theorem firstWindow_disagrees :
    Split hostConfig (0, unknown) firstFlush ∧
      (snapshot hostConfig ((firstFlush.flatMap (Flush.messages 4096 (0, unknown))).foldl
        (observePageWindow hostConfig) {}) 0).pageAccessEvents = 0 ∧
      (snapshot hostConfig (((firstFlush.flatMap Flush.accesses).map (accessEvent unknown)).foldl
        (fun s e => (observePageAccess hostConfig s e).2) {}) 0).pageAccessEvents = 1 :=
  ⟨firstFlush_split, by decide +kernel, by decide +kernel⟩

end

end Parp.PageHotset
