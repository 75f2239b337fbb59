import Parp.DatasetBuild

set_option autoImplicit false

/-!
# What the file index remembers
-/
namespace Parp.DatasetBuild

open OrderedDict RowTables FileSegments FallibleFolds
open List hiding filter_filter

section

variable {history : Dict (String × ℕ) PartitionRow} {f : String}

theorem latest_eq_some {g : ℕ} {row : PartitionRow} :
    latest history f = some (g, row) ↔
      history.get? (f, g) = some row ∧ ∀ g' row', history.get? (f, g') = some row' → g' ≤ g := by
  constructor
  · intro h
    obtain ⟨⟨⟨f', g'⟩, row'⟩, hmax, heq⟩ := Option.map_eq_some_iff.1 h
    obtain ⟨rfl, rfl⟩ := Prod.mk.inj heq
    obtain ⟨hmem, hfile⟩ := mem_filter.1 (argmax_mem hmax)
    obtain rfl : f' = f := by simpa using hfile
    refine ⟨Dict.get?_of_mem hmem, fun g row hget => ?_⟩
    exact le_of_mem_argmax (f := fun e : (String × ℕ) × PartitionRow => e.1.2)
      (mem_filter.2 ⟨Dict.mem_of_get? hget, by simp⟩) hmax
  · rintro ⟨hget, hmost⟩
    have hmem : ((f, g), row) ∈ history.items.filter fun e => e.1.1 = f :=
      mem_filter.2 ⟨Dict.mem_of_get? hget, by simp⟩
    unfold latest
    cases hmax : (history.items.filter fun e => e.1.1 = f).argmax fun e => e.1.2 with
    | none =>
      rw [argmax_eq_none.1 hmax] at hmem
      cases hmem
    | some e =>
      obtain ⟨⟨f', g'⟩, row'⟩ := e
      obtain ⟨hmem', hfile⟩ := mem_filter.1 (argmax_mem hmax)
      obtain rfl : f' = f := by simpa using hfile
      have hget' := Dict.get?_of_mem hmem'
      have hle : g ≤ g' := le_of_mem_argmax
        (f := fun e : (String × ℕ) × PartitionRow => e.1.2) hmem hmax
      obtain rfl : g' = g := le_antisymm (hmost g' row' hget') hle
      rw [hget] at hget'
      cases hget'
      rfl

theorem latest_eq_none : latest history f = none ↔ ∀ g, history.get? (f, g) = none := by
  unfold latest
  rw [Option.map_eq_none_iff, argmax_eq_none, filter_eq_nil_iff]
  constructor
  · intro h g
    cases hget : history.get? (f, g) with
    | none => rfl
    | some row => exact absurd (by simp) (h _ (Dict.mem_of_get? hget))
  · rintro h ⟨⟨f', g⟩, row⟩ hmem hfile
    obtain rfl : f' = f := by simpa using hfile
    have hget := h g
    rw [Dict.get?_of_mem hmem] at hget
    cases hget

variable (new : PartitionRow)

theorem latest_upserted {g : ℕ} (merge : PartitionRow → PartitionRow → PartitionRow)
    (hmost : ∀ g' row', history.get? (f, g') = some row' → g' ≤ g) :
    latest (upsert history (f, g) new merge) f = some (g,
      (history.get? (f, g)).elim new (merge · new)) := by
  refine latest_eq_some.2 ⟨?_, fun g' row' hget => ?_⟩
  · rw [get?_upsert, if_pos rfl]
    cases history.get? (f, g) <;> rfl
  · rw [get?_upsert] at hget
    split_ifs at hget with hsame
    · exact (Prod.mk.inj hsame).2.le
    · exact hmost g' row' hget

theorem latest_upsert :
    ∃ row, latest (upsert history
        (f, generationOf (previousOf history ∅ f) new.filePages new.fileSize) new
        PartitionRow.seenAgain) f =
          some (generationOf (previousOf history ∅ f) new.filePages new.fileSize, row) ∧
      row.filePages = new.filePages ∧ row.fileSize = new.fileSize ∧ new.lastSeen ≤ row.lastSeen := by
  cases hlatest : latest history f with
  | none =>
    have hprevious : previousOf history ∅ f = none := by
      change (latest history f).map _ = none
      rw [hlatest]
      rfl
    have hnone := latest_eq_none.1 hlatest
    have hbelow : ∀ g' row', history.get? (f, g') = some row' → g' ≤ 1 := by simp [hnone]
    rw [hprevious, show generationOf none _ _ = 1 from rfl, latest_upserted new _ hbelow, hnone]
    exact ⟨new, rfl, rfl, rfl, le_rfl⟩
  | some found =>
    obtain ⟨g, row⟩ := found
    obtain ⟨hrow, hmost⟩ := latest_eq_some.1 hlatest
    have hprevious : previousOf history ∅ f = some (g, row.filePages, row.fileSize) := by
      change (latest history f).map _ = _
      rw [hlatest]
      rfl
    rw [hprevious]
    by_cases hsize : (row.filePages, row.fileSize) = (new.filePages, new.fileSize)
    · obtain ⟨hpages, hbytes⟩ := Prod.mk.inj hsize
      have hgeneration : generationOf (some (g, row.filePages, row.fileSize)) new.filePages
          new.fileSize = g := if_pos hsize
      rw [hgeneration, latest_upserted new _ hmost, hrow]
      exact ⟨row.seenAgain new, rfl, hpages, hbytes, le_max_right _ _⟩
    · have hgeneration : generationOf (some (g, row.filePages, row.fileSize)) new.filePages
          new.fileSize = g + 1 := if_neg hsize
      have hfree : history.get? (f, g + 1) = none := by
        cases hget : history.get? (f, g + 1) with
        | none => rfl
        | some row' => exact absurd (hmost _ _ hget) (by omega)
      have hbelow : ∀ g' row', history.get? (f, g') = some row' → g' ≤ g + 1 :=
        fun g' row' hget => (hmost g' row' hget).trans (Nat.le_succ g)
      rw [hgeneration, latest_upserted new _ hbelow, hfree]
      exact ⟨new, rfl, rfl, rfl, le_rfl⟩

theorem latest_upsert_other {f' : String} (hne : f' ≠ f) (g : ℕ) (merge : PartitionRow → PartitionRow → PartitionRow) :
    latest (upsert history (f, g) new merge) f' = latest history f' := by
  have hget : ∀ g', (upsert history (f, g) new merge).get? (f', g') = history.get? (f', g') := by
    intro g'
    rw [get?_upsert, if_neg fun h => hne (Prod.mk.inj h).1]
  cases hlatest : latest history f' with
  | none =>
    rw [latest_eq_none] at hlatest ⊢
    exact fun g' => (hget g').trans (hlatest g')
  | some found =>
    obtain ⟨g₀, row⟩ := found
    rw [latest_eq_some] at hlatest ⊢
    exact ⟨(hget g₀).trans hlatest.1, fun g' row' h => hlatest.2 g' row' ((hget g').symm.trans h)⟩

end

section

variable (src : Source)

def register (index : FileIndex) (r : RawEvent) : ℕ × FileIndex :=
  let fileId := src.stableFileId r.identity
  let (generation, _, history) :=
    partition index.partitionHistory ∅ fileId r.filePages r.fileSize r.eventTime
  (generation,
    ⟨fileUpsert index.files fileId r.identity r.filePages r.fileSize r.eventTime generation, history⟩)

def registerAll (index : FileIndex) (rows : List RawEvent) : FileIndex :=
  rows.foldl (fun index r => (register src index r).2) index

/-- The index knows the event under the generation `g`. -/
structure Absorbs (index : FileIndex) (r : RawEvent) (g : ℕ) : Prop where
  history : ∃ row, latest index.partitionHistory (src.stableFileId r.identity) = some (g, row) ∧
    row.filePages = r.filePages ∧ row.fileSize = r.fileSize ∧ r.eventTime ≤ row.lastSeen
  file : ∃ row, index.files.get? (src.stableFileId r.identity) = some row ∧
    row.filePages = r.filePages ∧ row.fileSize = r.fileSize ∧ row.firstSeen ≤ r.eventTime ∧
    r.eventTime ≤ row.lastSeen ∧ g ≤ row.maxGeneration

/-- The index knows the events under the generations they get one after another from `index`. -/
def AbsorbsAll (known : FileIndex) : FileIndex → List RawEvent → Prop
  | _, [] => True
  | index, r :: rest =>
    Absorbs src known r (register src index r).1 ∧ AbsorbsAll known (register src index r).2 rest

def SameSize (r r' : RawEvent) : Prop :=
  src.stableFileId r.identity = src.stableFileId r'.identity →
    r.filePages = r'.filePages ∧ r.fileSize = r'.fileSize

variable {src}

theorem register_snd (index : FileIndex) (r : RawEvent) : (register src index r).2 =
    ⟨fileUpsert index.files (src.stableFileId r.identity) r.identity r.filePages r.fileSize r.eventTime
        (register src index r).1,
      upsert index.partitionHistory (src.stableFileId r.identity, (register src index r).1)
        ⟨r.filePages, r.fileSize, r.eventTime, r.eventTime⟩ PartitionRow.seenAgain⟩ := rfl

theorem absorbs_register (index : FileIndex) (r : RawEvent) :
    Absorbs src (register src index r).2 r (register src index r).1 := by
  refine ⟨latest_upsert ⟨r.filePages, r.fileSize, r.eventTime, r.eventTime⟩, ?_⟩
  change ∃ row, (fileUpsert index.files _ _ _ _ _ _).get? _ = some row ∧ _
  unfold fileUpsert
  rw [get?_upsert, if_pos rfl]
  cases index.files.get? (src.stableFileId r.identity) with
  | none => exact ⟨_, rfl, rfl, rfl, le_rfl, le_rfl, le_rfl⟩
  | some old =>
    exact ⟨_, rfl, rfl, rfl, min_le_right _ _, le_max_right _ _, le_max_right _ _⟩

variable {index : FileIndex} {r : RawEvent} {g : ℕ}

theorem previousOf_absorbs (h : Absorbs src index r g) :
    previousOf index.partitionHistory ∅ (src.stableFileId r.identity) =
      some (g, r.filePages, r.fileSize) := by
  obtain ⟨row, hlatest, hpages, hsize, -⟩ := h.history
  change (latest _ _).map _ = _
  rw [hlatest, ← hpages, ← hsize]
  rfl

theorem register_absorbed (h : Absorbs src index r g) :
    upsert index.partitionHistory (src.stableFileId r.identity, g)
        ⟨r.filePages, r.fileSize, r.eventTime, r.eventTime⟩ PartitionRow.seenAgain =
          index.partitionHistory ∧
      fileUpsert index.files (src.stableFileId r.identity) r.identity r.filePages r.fileSize r.eventTime
        g = index.files := by
  constructor
  · obtain ⟨row, hlatest, -, -, hseen⟩ := h.history
    refine upsert_absorbed (latest_eq_some.1 hlatest).1 ?_
    unfold PartitionRow.seenAgain
    rw [max_eq_left hseen]
  · obtain ⟨row, hget, hpages, hsize, hfirst, hlast, hgeneration⟩ := h.file
    refine upsert_absorbed hget ?_
    unfold FileRow.seenAgain
    rw [max_eq_left hlast, min_eq_left hfirst, max_eq_left hgeneration]
    cases row
    cases hpages
    cases hsize
    rfl

theorem absorbs_step {r r' : RawEvent} (h : Absorbs src index r g) (hsame : SameSize src r r') :
    Absorbs src (register src index r').2 r g := by
  by_cases hfile : src.stableFileId r.identity = src.stableFileId r'.identity
  · obtain ⟨hpages, hsize⟩ := hsame hfile
    have hgeneration : (register src index r').1 = g := by
      change generationOf (previousOf _ ∅ _) _ _ = g
      rw [← hfile, previousOf_absorbs h]
      exact if_pos (by rw [hpages, hsize])
    obtain ⟨row, hlatest, hrowPages, hrowSize, hseen⟩ := h.history
    obtain ⟨hrow, hmost⟩ := latest_eq_some.1 hlatest
    obtain ⟨old, hget, -, -, hfirst, hlast, hmax⟩ := h.file
    rw [register_snd, hgeneration, ← hfile]
    refine ⟨⟨row.seenAgain ⟨r'.filePages, r'.fileSize, r'.eventTime, r'.eventTime⟩, ?_, hrowPages,
      hrowSize, hseen.trans (le_max_left _ _)⟩, ?_⟩
    · exact (latest_upserted _ _ hmost).trans (by rw [hrow]; rfl)
    · refine ⟨old.seenAgain ⟨r'.identity, r'.fileSize, r'.filePages, r'.eventTime, r'.eventTime, g,
        fileClass r'.filePages⟩, ?_, hpages.symm, hsize.symm, (min_le_left _ _).trans hfirst,
        hlast.trans (le_max_left _ _), hmax.trans (le_max_left _ _)⟩
      change (upsert index.files _ _ _).get? _ = _
      rw [get?_upsert, if_pos rfl, hget]
  · obtain ⟨row, hlatest, hrow⟩ := h.history
    obtain ⟨old, hget, hold⟩ := h.file
    refine ⟨⟨row, ?_, hrow⟩, ⟨old, ?_, hold⟩⟩
    · exact (latest_upsert_other _ hfile _ _).trans hlatest
    · change (upsert index.files _ _ _).get? _ = _
      rw [get?_upsert, if_neg hfile, hget]

theorem absorbsAll_append {known index : FileIndex} {rows rest : List RawEvent} :
    AbsorbsAll src known index (rows ++ rest) ↔
      AbsorbsAll src known index rows ∧
        AbsorbsAll src known (registerAll src index rows) rest := by
  induction rows generalizing index with
  | nil => exact ⟨fun h => ⟨trivial, h⟩, fun h => h.2⟩
  | cons r rows ih =>
    change _ ∧ AbsorbsAll src known _ (rows ++ rest) ↔ (_ ∧ _) ∧ _
    rw [ih, and_assoc]
    rfl

theorem absorbs_registerAll (h : Absorbs src index r g) {rows : List RawEvent}
    (hsame : ∀ r' ∈ rows, SameSize src r r') : Absorbs src (registerAll src index rows) r g := by
  induction rows generalizing index with
  | nil => exact h
  | cons r' rows ih =>
    exact ih (absorbs_step h (hsame r' (.head _))) fun r'' hmem => hsame r'' (.tail _ hmem)

theorem registerAll_absorbs {rows : List RawEvent}
    (hsame : ∀ r ∈ rows, ∀ r' ∈ rows, SameSize src r r') (index : FileIndex) :
    AbsorbsAll src (registerAll src index rows) index rows := by
  induction rows generalizing index with
  | nil => trivial
  | cons r rows ih =>
    refine ⟨absorbs_registerAll (absorbs_register index r) fun r' hmem =>
      hsame r (.head _) r' (.tail _ hmem), ?_⟩
    exact ih (fun r₁ h₁ r₂ h₂ => hsame r₁ (.tail _ h₁) r₂ (.tail _ h₂)) _

end

/-!
# A session that is built again
-/

section

variable {src : Source} {s : Session}

def Cached (acc : Flush) : Prop := ∀ f previous, acc.cache.get? f = some previous →
  previousOf acc.index.partitionHistory ∅ f = some previous

theorem previousOf_cached {acc : Flush} (h : Cached acc) (f : String) :
    previousOf acc.index.partitionHistory acc.cache f =
      previousOf acc.index.partitionHistory ∅ f := by
  unfold previousOf
  cases hget : acc.cache.get? f with
  | none => rfl
  | some previous => exact (h f previous hget).symm

/-- What an accepted event with the generation `g` does to the loop of a window. -/
def Flush.added (src : Source) (s : Session) (acc : Flush) (r : RawEvent) (g : ℕ)
    (interval : IntervalEvidence) : Flush :=
  let fileId := src.stableFileId r.identity
  let key := (fileId, g, r.filePages)
  { index := ⟨fileUpsert acc.index.files fileId r.identity r.filePages r.fileSize r.eventTime g,
      upsert acc.index.partitionHistory (fileId, g)
        ⟨r.filePages, r.fileSize, r.eventTime, r.eventTime⟩ PartitionRow.seenAgain⟩
    fileSeen := insertOrIgnore acc.fileSeen ((fileId, s, r.domainId), ())
    cache := acc.cache.set fileId (g, r.filePages, r.fileSize)
    fileGroups := acc.fileGroups.set key
      ((acc.fileGroups.get? key).getD [] ++ [⟨interval, r.eventTime, r.sampleId⟩])
    foregroundEpochs := acc.foregroundEpochs ++ [r.foregroundEpoch] }

variable {r : RawEvent} {acc acc' : Flush}

theorem addFileEvent_accepted {acc : Flush} (haccepted : r.accepted = true) :
    addFileEvent src s acc r =
      (intervalEvidence r.logicalStart (r.logicalStart + r.nrPages) r.ratio r.age).map
        (acc.added src s r (generationOf (previousOf acc.index.partitionHistory acc.cache
          (src.stableFileId r.identity)) r.filePages r.fileSize)) := by
  unfold addFileEvent
  rw [if_neg (by rw [haccepted]; exact Bool.noConfusion)]
  rfl

theorem addFileEvent_skipped {acc : Flush} (h : r.accepted = false) :
    addFileEvent src s acc r = .ok acc := if_pos h

theorem addFileEvent_cases (hcached : Cached acc) (h : addFileEvent src s acc r = .ok acc') :
    (r.accepted = false ∧ acc' = acc) ∨
      (r.accepted = true ∧ ∃ interval,
        intervalEvidence r.logicalStart (r.logicalStart + r.nrPages) r.ratio r.age = .ok interval ∧
          acc' = acc.added src s r (register src acc.index r).1 interval) := by
  cases haccepted : r.accepted with
  | false =>
    rw [addFileEvent_skipped haccepted] at h
    exact .inl ⟨rfl, (Except.ok.inj h).symm⟩
  | true =>
    rw [addFileEvent_accepted haccepted, previousOf_cached hcached] at h
    obtain ⟨interval, hinterval, heq⟩ := map_eq_ok.1 h
    exact .inr ⟨rfl, interval, hinterval, heq.symm⟩

theorem added_index (acc : Flush) (r : RawEvent) (interval : IntervalEvidence) :
    (acc.added src s r (register src acc.index r).1 interval).index = (register src acc.index r).2 := rfl

theorem added_cached {acc : Flush} (h : Cached acc) (r : RawEvent) (interval : IntervalEvidence) :
    Cached (acc.added src s r (register src acc.index r).1 interval) := by
  intro f previous hget
  change (acc.cache.set _ _).get? f = _ at hget
  rw [added_index]
  rw [Dict.get?_set] at hget
  split_ifs at hget with hfile
  · subst hfile
    cases hget
    exact previousOf_absorbs (absorbs_register acc.index r)
  · have hother := h f previous hget
    change (latest (register src acc.index r).2.partitionHistory f).map _ = _
    rw [register_snd, latest_upsert_other _ hfile]
    exact hother

theorem foldlM_index {rows : List RawEvent} (hcached : Cached acc)
    (h : rows.foldlM (addFileEvent src s) acc = .ok acc') :
    acc'.index = registerAll src acc.index (rows.filter RawEvent.accepted) := by
  induction rows generalizing acc with
  | nil =>
    cases h
    rfl
  | cons r rows ih =>
    rw [foldlM_cons] at h
    obtain ⟨next, hnext, hrest⟩ := bind_eq_ok.1 h
    rcases addFileEvent_cases hcached hnext with ⟨hskip, rfl⟩ | ⟨hacc, interval, -, rfl⟩
    · rw [filter_cons_of_neg (by simp [hskip])]
      exact ih hcached hrest
    · rw [filter_cons_of_pos hacc, ih (added_cached hcached r interval) hrest]
      rfl

theorem foldlM_again {known : FileIndex} {rows : List RawEvent} (hcached : Cached acc)
    (hknown : AbsorbsAll src known acc.index (rows.filter RawEvent.accepted))
    (h : rows.foldlM (addFileEvent src s) acc = .ok acc') :
    rows.foldlM (addFileEvent src s) { acc with index := known } =
      .ok { acc' with index := known } := by
  induction rows generalizing acc with
  | nil =>
    cases h
    rfl
  | cons r rows ih =>
    rw [foldlM_cons] at h ⊢
    obtain ⟨next, hnext, hrest⟩ := bind_eq_ok.1 h
    rcases addFileEvent_cases hcached hnext with ⟨hskip, rfl⟩ | ⟨hacc, interval, hinterval, rfl⟩
    · rw [filter_cons_of_neg (by simp [hskip])] at hknown
      rw [addFileEvent_skipped hskip, ok_bind]
      exact ih hcached hknown hrest
    · rw [filter_cons_of_pos hacc] at hknown
      obtain ⟨habsorbs, hknown⟩ := hknown
      have hgeneration : generationOf (previousOf known.partitionHistory acc.cache
          (src.stableFileId r.identity)) r.filePages r.fileSize = (register src acc.index r).1 := by
        cases hget : acc.cache.get? (src.stableFileId r.identity) with
        | some previous =>
          have hsame : previousOf known.partitionHistory acc.cache (src.stableFileId r.identity) =
              previousOf acc.index.partitionHistory ∅ (src.stableFileId r.identity) := by
            rw [hcached _ _ hget, previousOf, hget]
          rw [hsame]
          rfl
        | none =>
          have hindex : previousOf known.partitionHistory acc.cache (src.stableFileId r.identity) =
              previousOf known.partitionHistory ∅ (src.stableFileId r.identity) := by
            rw [previousOf, hget]
            rfl
          rw [hindex, previousOf_absorbs habsorbs]
          exact if_pos rfl
      have hstep : addFileEvent src s { acc with index := known } r =
          .ok { acc.added src s r (register src acc.index r).1 interval with index := known } := by
        obtain ⟨hhistory, hfiles⟩ := register_absorbed habsorbs
        rw [addFileEvent_accepted hacc, hgeneration, hinterval]
        change Except.ok (Flush.added src s _ r _ interval) = _
        unfold Flush.added
        dsimp only
        rw [hhistory, hfiles]
      rw [hstep, ok_bind]
      exact ih (added_cached hcached r interval) hknown hrest

variable {lookup : Lookup}

theorem cached_start (index : FileIndex) (seen : Dict (String × Session × ℤ) Unit) :
    Cached { index := index, fileSeen := seen } := by
  intro f previous hget
  cases hget

theorem flushWindow_index {t t' : Tables} {w : Pending} (hfound : (lookup.get? w.start).isSome = true)
    (h : flushWindow src s lookup t w = .ok t') :
    t'.index = registerAll src t.index (w.fileEvents.filter RawEvent.accepted) := by
  obtain ⟨⟨windowIndex, windowId⟩, hget⟩ := Option.isSome_iff_exists.1 hfound
  unfold flushWindow at h
  rw [hget] at h
  obtain ⟨acc, hacc, hrest⟩ := bind_eq_ok.1 h
  obtain ⟨segmented, -, heq⟩ := bind_eq_ok.1 hrest
  cases heq
  exact foldlM_index (cached_start _ _) hacc

theorem flushWindow_again {known : FileIndex} {t t' : Tables} {w : Pending}
    (hknown : AbsorbsAll src known t.index (w.fileEvents.filter RawEvent.accepted))
    (h : flushWindow src s lookup t w = .ok t') (hfound : (lookup.get? w.start).isSome = true) :
    flushWindow src s lookup { t with index := known } w = .ok { t' with index := known } := by
  obtain ⟨⟨windowIndex, windowId⟩, hget⟩ := Option.isSome_iff_exists.1 hfound
  unfold flushWindow at h ⊢
  rw [hget] at h ⊢
  obtain ⟨acc, hacc, hrest⟩ := bind_eq_ok.1 h
  obtain ⟨segmented, hsegmented, heq⟩ := bind_eq_ok.1 hrest
  cases heq
  have hagain := foldlM_again (cached_start _ _) hknown hacc
  refine bind_eq_ok.2 ⟨_, hagain, bind_eq_ok.2 ⟨segmented, hsegmented, rfl⟩⟩

end

section

variable {src : Source} {s : Session} {lookup : Lookup}

theorem add_start (w : Pending) (r : RawEvent) : (w.add r).start = w.start := by
  unfold Pending.add
  split_ifs <;> rfl

theorem pendingWindows_found {rows : List RawEvent} {current : Option Pending}
    (hcurrent : ∀ w ∈ current, (lookup.get? w.start).isSome = true) :
    ∀ w ∈ pendingWindows lookup rows current, (lookup.get? w.start).isSome = true := by
  fun_induction pendingWindows lookup rows current with
  | case1 => nofun
  | case2 w => exact fun w' hw' => hcurrent w' (congrArg some (mem_singleton.1 hw').symm)
  | case3 r rest current start hnone ih => exact ih hcurrent
  | case4 r rest start hsome ih =>
    refine ih fun w hw => ?_
    obtain rfl := Option.some.inj hw
    rw [add_start]
    exact Option.isSome_iff_ne_none.2 fun h => hsome (by rw [h]; rfl)
  | case5 r rest start hsome w hnew ih =>
    intro w' hw'
    rcases mem_cons.1 hw' with rfl | hw'
    · exact hcurrent _ rfl
    · refine ih (fun w'' hw'' => ?_) w' hw'
      obtain rfl := Option.some.inj hw''
      rw [add_start]
      exact Option.isSome_iff_ne_none.2 fun h => hsome (by rw [h]; rfl)
  | case6 r rest start hsome w hsame ih =>
    refine ih fun w' hw' => ?_
    obtain rfl := Option.some.inj hw'
    rw [add_start]
    exact hcurrent w rfl

def acceptedOf (windows : List Pending) : List RawEvent :=
  windows.flatMap fun w => w.fileEvents.filter RawEvent.accepted

variable {t t' : Tables}

theorem windows_index {windows : List Pending}
    (hfound : ∀ w ∈ windows, (lookup.get? w.start).isSome = true)
    (h : windows.foldlM (flushWindow src s lookup) t = .ok t') :
    t'.index = registerAll src t.index (acceptedOf windows) := by
  induction windows generalizing t with
  | nil =>
    cases h
    rfl
  | cons w windows ih =>
    rw [foldlM_cons] at h
    obtain ⟨next, hnext, hrest⟩ := bind_eq_ok.1 h
    rw [ih (fun w' hw' => hfound w' (.tail _ hw')) hrest, flushWindow_index (hfound w (.head _)) hnext]
    exact foldl_append.symm

theorem windows_again {windows : List Pending}
    (hfound : ∀ w ∈ windows, (lookup.get? w.start).isSome = true) {known : FileIndex}
    (hknown : AbsorbsAll src known t.index (acceptedOf windows))
    (h : windows.foldlM (flushWindow src s lookup) t = .ok t') :
    windows.foldlM (flushWindow src s lookup) { t with index := known } =
      .ok { t' with index := known } := by
  induction windows generalizing t with
  | nil =>
    cases h
    rfl
  | cons w windows ih =>
    rw [foldlM_cons] at h ⊢
    obtain ⟨next, hnext, hrest⟩ := bind_eq_ok.1 h
    have hsplit := absorbsAll_append.1 hknown
    have hagain := flushWindow_again hsplit.1 hnext (hfound w (.head _))
    rw [hagain, ok_bind]
    refine ih (fun w' hw' => hfound w' (.tail _ hw')) ?_ hrest
    rw [flushWindow_index (hfound w (.head _)) hnext]
    exact hsplit.2

def Tables.acceptedOf (t : Tables) (s : Session) : List RawEvent :=
  DatasetBuild.acceptedOf (pendingWindows (lookupOf (t.windowsOf s)) (t.eventsOf s) none)

theorem buildSession_index {result : SessionResult} (h : buildSession src s t = .ok (result, t')) :
    t'.index = registerAll src t.index (t.acceptedOf s) := by
  obtain ⟨flushed, hflushed, heq⟩ := bind_eq_ok.1 h
  cases heq
  have hindex := windows_index (pendingWindows_found (by simp)) hflushed
  exact hindex

theorem buildSession_again {result : SessionResult} {known : FileIndex}
    (hknown : AbsorbsAll src known t.index (t.acceptedOf s))
    (h : buildSession src s t = .ok (result, t')) :
    buildSession src s { t with index := known } = .ok (result, { t' with index := known }) := by
  obtain ⟨flushed, hflushed, heq⟩ := bind_eq_ok.1 h
  cases heq
  have hagain := windows_again (pendingWindows_found (by simp)) hknown hflushed
  exact bind_eq_ok.2 ⟨_, hagain, rfl⟩

end

/-!
# What a reset leaves
-/

section

variable {src : Source} {s : Session} {lookup : Lookup}

theorem segmentResolution_keys {windowIndex : ℕ} {windowId fileId : String} {generation : ℕ} {pages : ℤ}
    {items : List Item} {resolution : ℤ} {rows : List (SegmentKey × SegmentRow)} {active : ℕ}
    (h : segmentResolution s windowIndex windowId fileId generation pages items resolution =
      .ok (rows, active)) : ∀ row ∈ rows, row.1.session = s := by
  unfold segmentResolution at h
  obtain ⟨specs, -, h⟩ := bind_eq_ok.1 h
  obtain ⟨spans, -, h⟩ := bind_eq_ok.1 h
  obtain ⟨prepared, -, h⟩ := bind_eq_ok.1 h
  cases h
  intro row hrow
  obtain ⟨p, -, rfl⟩ := mem_map.1 hrow
  rfl

theorem segmented_keys {windowIndex : ℕ} {windowId : String}
    {groups : List ((String × ℕ × ℤ) × List Item)}
    {segmented : List (List (List (SegmentKey × SegmentRow) × ℕ))}
    (h : groups.mapM (segmentFile s windowIndex windowId) = .ok segmented) :
    ∀ row ∈ segmented.flatMap fun rs => rs.flatMap Prod.fst, row.1.session = s := by
  intro row hrow
  obtain ⟨rs, hrs, hrow⟩ := mem_flatMap.1 hrow
  obtain ⟨⟨rows, active⟩, hrows, hrow⟩ := mem_flatMap.1 hrow
  obtain ⟨group, -, hfile⟩ := related_right (mapM_eq_ok_iff.1 h) hrs
  obtain ⟨resolution, -, hresolution⟩ := related_right (mapM_eq_ok_iff.1 hfile) hrows
  exact segmentResolution_keys hresolution row hrow

theorem anonRows_keys (windowIndex : ℕ) (windowId : String) (events : List RawEvent) :
    ∀ row ∈ anonRows s windowIndex windowId events, row.1.session = s := by
  intro row hrow
  obtain ⟨key, hkey, rfl⟩ := mem_map.1 hrow
  obtain ⟨r, -, rfl⟩ := mem_map.1 (mem_dedup.1 hkey)
  rfl

theorem foldlM_seen {acc acc' : Flush} {rows : List RawEvent}
    (h : rows.foldlM (addFileEvent src s) acc = .ok acc') :
    acc'.fileSeen.filter (fun e => e.1.2.1 ≠ s) = acc.fileSeen.filter fun e => e.1.2.1 ≠ s := by
  refine foldlM_invariant (I := fun next => next.fileSeen.filter (fun e => e.1.2.1 ≠ s) =
    acc.fileSeen.filter fun e => e.1.2.1 ≠ s) ?_ h rfl
  intro next r next' hnext hsame
  cases haccepted : r.accepted with
  | false =>
    rw [addFileEvent_skipped haccepted] at hnext
    cases hnext
    exact hsame
  | true =>
    rw [addFileEvent_accepted haccepted] at hnext
    obtain ⟨interval, -, rfl⟩ := map_eq_ok.1 hnext
    rw [← hsame]
    have hrow : ∀ row ∈ [((src.stableFileId r.identity, s, r.domainId), ())],
        (fun e : (String × Session × ℤ) × Unit => decide (e.1.2.1 ≠ s)) row = false := by simp
    exact filter_ignoreAll hrow next.fileSeen

def Owned (lookup : Lookup) (s : Session) (t : Tables) : Prop :=
  ∀ start found, lookup.get? start = some found → ∃ row, t.windows.get? found.2 = some row ∧ row.session = s

theorem flushWindow_frame {t t' : Tables} {w : Pending} (howned : Owned lookup s t)
    (h : flushWindow src s lookup t w = .ok t') :
    t'.resetSession s = { t.resetSession s with index := t'.index } ∧ Owned lookup s t' := by
  unfold flushWindow at h
  cases hget : lookup.get? w.start with
  | none =>
    rw [hget] at h
    cases h
    exact ⟨rfl, howned⟩
  | some found =>
    obtain ⟨windowIndex, windowId⟩ := found
    rw [hget] at h
    obtain ⟨acc, hacc, hrest⟩ := bind_eq_ok.1 h
    obtain ⟨segmented, hsegmented, heq⟩ := bind_eq_ok.1 hrest
    cases heq
    obtain ⟨row, hrow, hsession⟩ := howned w.start (windowIndex, windowId) hget
    constructor
    · have hsegmentRows : ∀ row ∈ segmented.flatMap fun rs => rs.flatMap Prod.fst,
          (fun e : SegmentKey × SegmentRow => decide (e.1.session ≠ s)) row = false :=
        fun row hmem => by simp [segmented_keys hsegmented row hmem]
      have hanonRows : ∀ row ∈ anonRows s windowIndex windowId w.anonEvents,
          (fun e : AnonKey × AnonRow => decide (e.1.session ≠ s)) row = false :=
        fun row hmem => by simp [anonRows_keys windowIndex windowId w.anonEvents row hmem]
      have hsegments := filter_replaceAll_keys hsegmentRows (q := fun k => k.session ≠ s)
        (fun _ => rfl) t.segments
      have hanon := filter_replaceAll_keys hanonRows (q := fun k => k.session ≠ s) (fun _ => rfl) t.anon
      have hseen := foldlM_seen hacc
      simp only [Tables.resetSession]
      rw [hsegments, hanon, hseen, filter_update fun old hold => ?_]
      rw [hrow] at hold
      cases hold
      simp [hsession]
    · intro start found hstart
      obtain ⟨old, hold, hsame⟩ := howned start found hstart
      refine ⟨_, (get?_update _ _ _ _).trans (by rw [hold]; rfl), ?_⟩
      split_ifs <;> exact hsame

theorem windows_frame {windows : List Pending} {t t' : Tables} (howned : Owned lookup s t)
    (h : windows.foldlM (flushWindow src s lookup) t = .ok t') :
    t'.resetSession s = { t.resetSession s with index := t'.index } := by
  refine (foldlM_invariant (I := fun next => next.resetSession s =
    { t.resetSession s with index := next.index } ∧ Owned lookup s next) ?_ h ⟨rfl, howned⟩).1
  rintro next w next' hnext ⟨hframe, hnextOwned⟩
  obtain ⟨hstep, howned'⟩ := flushWindow_frame hnextOwned hnext
  rw [hstep, hframe]
  exact ⟨rfl, howned'⟩

theorem lookupOf_owned (t : Tables) : Owned (lookupOf (t.windowsOf s)) s t := by
  have hfrom : ∀ (rows : List (String × WindowRow)) (d : Lookup),
      (∀ row ∈ rows, row ∈ t.windows.items ∧ row.2.session = s) →
      (∀ start found, d.get? start = some found → ∃ row, t.windows.get? found.2 = some row ∧ row.session = s) →
      ∀ start found,
        (rows.foldl (fun d row => d.set row.2.windowStart (row.2.windowIndex, row.1)) d).get? start =
          some found → ∃ row, t.windows.get? found.2 = some row ∧ row.session = s := by
    intro rows
    induction rows with
    | nil => exact fun d _ hd => hd
    | cons row rows ih =>
      intro d hrows hd
      refine ih _ (fun r hr => hrows r (.tail _ hr)) fun start found hget => ?_
      rw [Dict.get?_set] at hget
      split_ifs at hget
      · cases hget
        obtain ⟨hmem, hsession⟩ := hrows row (.head _)
        exact ⟨row.2, Dict.get?_of_mem hmem, hsession⟩
      · exact hd start found hget
  refine hfrom _ _ (fun row hrow => ?_) fun start found hget => by cases hget
  have hmem := (mem_insertionSort _).1 hrow
  obtain ⟨hmem, hsession⟩ := mem_filter.1 hmem
  exact ⟨hmem, by simpa using hsession⟩

theorem buildSession_frame {t t' : Tables} {result : SessionResult}
    (h : buildSession src s t = .ok (result, t')) :
    t'.resetSession s = { t.resetSession s with index := t'.index } := by
  obtain ⟨flushed, hflushed, heq⟩ := bind_eq_ok.1 h
  cases heq
  have hframe := windows_frame (lookupOf_owned t) hflushed
  have hraw : ({ flushed with
      rawEvents := flushed.rawEvents.filter fun e => e.1.session ≠ s } : Tables).resetSession s =
        flushed.resetSession s := by
    simp only [Tables.resetSession, filter_filter]
  rw [hraw]
  exact hframe

end

section

variable (src : Source) (s : Session)

def Tables.load (t : Tables) : Tables :=
  ((t.createWindows src s).loadOperations src s).decodeRows src s

def attempt (t : Tables) : Option Tables :=
  if trusted (src.metadata s) = false then none
  else if (auditOf src s).criticalSchemaValid = false ∨ (auditOf src s).summaryCountMatch = false then none
  else (buildSession src s ((t.resetSession s).load src s)).toOption.map Prod.snd

variable {src s}

theorem resetSession_again (t : Tables) : (t.resetSession s).resetSession s = t.resetSession s := by
  simp only [Tables.resetSession, filter_filter]

theorem windowRows_session (src : Source) (s : Session) : ∀ row ∈ windowRows src s,
    (fun e : String × WindowRow => decide (e.2.session ≠ s)) row = false := by
  intro row hrow
  obtain ⟨⟨start, index⟩, -, rfl⟩ := mem_map.1 hrow
  simp

theorem operationRows_session (src : Source) (s : Session) : ∀ row ∈ operationRows src s,
    (fun e : (String × Session) × OperationRow => decide (e.1.2 ≠ s)) row = false := by
  intro row hrow
  obtain ⟨e, -, rfl⟩ := mem_map.1 hrow
  simp

theorem rawRows_session (src : Source) (s : Session) : ∀ row ∈ rawRows src s,
    (fun e : RawKey × RawEvent => decide (e.1.session ≠ s)) row = false := by
  intro row hrow
  obtain ⟨r, -, rfl⟩ := mem_map.1 hrow
  simp [RawEvent.key]

theorem load_again (t : Tables) :
    (((t.resetSession s).load src s).resetSession s).load src s = (t.resetSession s).load src s := by
  have hwindows := replaceAll_again (windowRows_session src s) t.windows
  have hoperations := replaceAll_again (operationRows_session src s) t.operations
  have hraw := filter_ignoreAll (rawRows_session src s)
    (t.rawEvents.filter fun e => e.1.session ≠ s)
  simp only [Tables.load, Tables.createWindows, Tables.loadOperations, Tables.decodeRows,
    Tables.resetSession]
  rw [hwindows, hoperations, hraw]
  simp only [filter_filter]

theorem attempt_builds {t t' : Tables} (h : attempt src s t = some t') :
    ∃ result, buildSession src s ((t.resetSession s).load src s) = .ok (result, t') := by
  unfold attempt at h
  split_ifs at h
  cases hbuild : buildSession src s ((t.resetSession s).load src s) with
  | error e => rw [hbuild] at h; cases h
  | ok built =>
    rw [hbuild] at h
    cases h
    exact ⟨built.1, rfl⟩

theorem attempt_reset (t : Tables) : attempt src s (t.resetSession s) = attempt src s t := by
  unfold attempt
  rw [resetSession_again]

theorem attempt_load (t : Tables) :
    attempt src s ((t.resetSession s).load src s) = attempt src s t := by
  unfold attempt
  rw [load_again]

end

section

variable (src : Source) (s : Session)

def acceptedRows : List RawEvent := (({} : Tables).load src s).acceptedOf s

def Steady : Prop := ∀ r ∈ acceptedRows src s, ∀ r' ∈ acceptedRows src s, SameSize src r r'

variable {src s}

theorem windowsOf_load (t : Tables) : ((t.resetSession s).load src s).windowsOf s =
    (replaceAll ∅ (windowRows src s)).items.insertionSort fun a b => a.2.windowIndex ≤ b.2.windowIndex := by
  have hpart := part_replaceAll (windowRows_session src s) t.windows
  have hitems : ((t.resetSession s).load src s).windows.items.filter (fun e => e.2.session = s) =
      (replaceAll ∅ (windowRows src s)).items := by
    rw [← hpart]
    refine filter_congr fun e _ => ?_
    simp
  exact congrArg (List.insertionSort _) hitems

theorem eventsOf_load (t : Tables) : ((t.resetSession s).load src s).eventsOf s =
    (({} : Tables).load src s).eventsOf s := by
  have hpart := part_ignoreAll (rawRows_session src s) (q := fun k => k.session ≠ s)
    (fun _ => rfl) t.rawEvents
  have hitems : ((t.resetSession s).load src s).rawEvents.items.filter (fun e => e.1.session = s) =
      (({} : Tables).load src s).rawEvents.items.filter fun e => e.1.session = s := by
    have hflip : (fun e : RawKey × RawEvent => !decide (e.1.session ≠ s)) =
        fun e => decide (e.1.session = s) := by
      funext e
      simp
    rw [hflip] at hpart
    exact congrArg Dict.items hpart
  unfold Tables.eventsOf
  rw [hitems]

theorem acceptedOf_load (t : Tables) :
    ((t.resetSession s).load src s).acceptedOf s = acceptedRows src s := by
  have hempty : (({} : Tables).load src s).windowsOf s = _ := windowsOf_load (s := s) {}
  unfold acceptedRows Tables.acceptedOf
  rw [windowsOf_load, eventsOf_load, hempty]

theorem attempt_again (hsteady : Steady src s) {t t' : Tables} (h : attempt src s t = some t') :
    attempt src s t' = some t' := by
  obtain ⟨result, hok⟩ := attempt_builds h
  have hloaded : (t'.resetSession s).load src s =
      { (t.resetSession s).load src s with index := t'.index } := by
    rw [buildSession_frame hok]
    exact congrArg (fun l : Tables => { l with index := t'.index }) (load_again t)
  have hknown : AbsorbsAll src t'.index ((t.resetSession s).load src s).index
      (((t.resetSession s).load src s).acceptedOf s) := by
    rw [buildSession_index hok, acceptedOf_load]
    exact registerAll_absorbs hsteady _
  unfold attempt at h ⊢
  split_ifs at h ⊢
  rw [hloaded, buildSession_again hknown hok]
  rfl

end

/-!
# Interrupted runs
-/

section

variable (src : Source)

def outcome (todo : List Session) (t : Tables) : Option Tables :=
  todo.foldlM (fun t s => attempt src s t) t

/-- A work directory from which the sessions `todo` lead to `goal`. -/
structure Resumes (done todo : List Session) (goal : Option Tables) (c : Checkpoint) (d : Disk) : Prop where
  checkpoint : d.checkpoint = some c
  hash : c.inputManifestHash = src.manifestHash
  completed : c.completedSessions = done
  audits : ∀ s ∈ done, (d.audits.get? s).isSome = true
  outcome : outcome src todo d.tables = goal

variable {src} {done todo : List Session} {goal : Option Tables} {c : Checkpoint} {d : Disk}

theorem outcome_cons (s : Session) (rest : List Session) (t : Tables) :
    outcome src (s :: rest) t = (attempt src s t).bind (outcome src rest) := rfl

theorem Resumes.same {s : Session} {rest : List Session} (h : Resumes src done (s :: rest) goal c d)
    (c' : Checkpoint) (hhash : c'.inputManifestHash = c.inputManifestHash)
    (hcompleted : c'.completedSessions = c.completedSessions) {audits : Dict Session Audit}
    (haudits : ∀ s ∈ done, (audits.get? s).isSome = true) {t : Tables}
    (ht : attempt src s t = attempt src s d.tables) :
    Resumes src done (s :: rest) goal c' ⟨t, some c', audits⟩ := by
  refine ⟨rfl, hhash.trans h.hash, hcompleted.trans h.completed, haudits, ?_⟩
  rw [← h.outcome, outcome_cons, outcome_cons, ht]

/-- The points of a turn up to the audit. -/
def early (src : Source) (s : Session) (c : Checkpoint) (d : Disk) : List (Point × Disk) :=
  let loaded := (d.tables.resetSession s).load src s
  [(.begun s, ⟨d.tables, some c, d.audits⟩), (.cleared s, ⟨d.tables.resetSession s, some c, d.audits⟩),
    (.decoded s, ⟨loaded, some c, d.audits⟩),
    (.audited s, ⟨loaded, some c, d.audits.set s (auditOf src s)⟩)]

inductive Turned (src : Source) (s : Session) (c : Checkpoint) (d : Disk) :
    List (Point × Disk) × Option (Checkpoint × Disk) → Prop
  | distrusted (h : attempt src s d.tables = none) :
      Turned src s c d ((early src s (c.beginSession s) d).take 2, none)
  | failed (h : attempt src s d.tables = none) :
      Turned src s c d (early src s (c.beginSession s) d, none)
  | finished {t : Tables} (h : attempt src s d.tables = some t) (result : SessionResult) :
      Turned src s c d (early src s (c.beginSession s) d ++
        [(.built s, ⟨t, some (c.beginSession s), d.audits.set s (auditOf src s)⟩),
        (.completed s, ⟨t, some ((c.beginSession s).completeSession s result),
          d.audits.set s (auditOf src s)⟩)],
        some ((c.beginSession s).completeSession s result,
          ⟨t, some ((c.beginSession s).completeSession s result), d.audits.set s (auditOf src s)⟩))

theorem sessionTurn_cases (s : Session) (c : Checkpoint) (d : Disk) :
    Turned src s c d (sessionTurn src s c d) := by
  have hattempt : attempt src s d.tables = if trusted (src.metadata s) = false then none
      else if (auditOf src s).criticalSchemaValid = false ∨ (auditOf src s).summaryCountMatch = false
        then none
      else (buildSession src s ((d.tables.resetSession s).load src s)).toOption.map Prod.snd := rfl
  unfold sessionTurn
  dsimp only
  split_ifs at hattempt ⊢ with htrusted hgates
  · exact .distrusted hattempt
  · exact .failed hattempt
  · split
    · rename_i hbuild
      rw [show buildSession src s ((d.tables.resetSession s).load src s) = .error _ from hbuild]
        at hattempt
      exact .failed hattempt
    · rename_i result tables hbuild
      rw [show buildSession src s ((d.tables.resetSession s).load src s) = .ok (result, tables) from
        hbuild] at hattempt
      exact .finished hattempt _

theorem audits_kept {s : Session} {audits : Dict Session Audit} (audit : Audit)
    (h : ∀ s ∈ done, (audits.get? s).isSome = true) :
    ∀ s' ∈ done ++ [s], ((audits.set s audit).get? s').isSome = true := by
  intro s' hs'
  rw [Dict.get?_set]
  split_ifs with heq
  · rfl
  · refine h s' ((mem_append.1 hs').resolve_right fun hmem => heq (mem_singleton.1 hmem))

theorem Resumes.turn {s : Session} {rest : List Session} (h : Resumes src done (s :: rest) goal c d)
    (hnew : s ∉ done) :
    ((sessionTurn src s c d).2 = none ∧ goal = none ∨
      ∃ c' d', (sessionTurn src s c d).2 = some (c', d') ∧ Resumes src (done ++ [s]) rest goal c' d') ∧
    ∀ point d', (point, d') ∈ (sessionTurn src s c d).1 → (point = .built s → Steady src s) →
      ∃ c', Resumes src done (s :: rest) goal c' d' ∨ Resumes src (done ++ [s]) rest goal c' d' := by
  have hturned : Turned src s c d (sessionTurn src s c d) := sessionTurn_cases s c d
  generalize sessionTurn src s c d = turn at *
  have hset : ∀ audit, ∀ s' ∈ done, ((d.audits.set s audit).get? s').isSome = true :=
    fun audit s' hs' => audits_kept audit h.audits s' (mem_append_left _ hs')
  have hearly : ∀ point d', (point, d') ∈ early src s (c.beginSession s) d →
      Resumes src done (s :: rest) goal (c.beginSession s) d' := by
    intro point d' hmem
    simp only [early, mem_cons, not_mem_nil, or_false, Prod.mk.injEq] at hmem
    rcases hmem with ⟨-, rfl⟩ | ⟨-, rfl⟩ | ⟨-, rfl⟩ | ⟨-, rfl⟩
    · exact h.same (c.beginSession s) rfl rfl h.audits rfl
    · exact h.same (c.beginSession s) rfl rfl h.audits (attempt_reset _)
    · exact h.same (c.beginSession s) rfl rfl h.audits (attempt_load _)
    · exact h.same (c.beginSession s) rfl rfl (hset _) (attempt_load _)
  have hfails : attempt src s d.tables = none → goal = none := by
    intro hnone
    rw [← h.outcome, outcome_cons, hnone]
    rfl
  cases hturned with
  | distrusted hnone =>
    exact ⟨.inl ⟨rfl, hfails hnone⟩, fun point d' hmem _ =>
      ⟨_, .inl (hearly point d' (mem_of_mem_take hmem))⟩⟩
  | failed hnone =>
    exact ⟨.inl ⟨rfl, hfails hnone⟩, fun point d' hmem _ => ⟨_, .inl (hearly point d' hmem)⟩⟩
  | @finished t hsome result =>
    have hcompleted : Resumes src (done ++ [s]) rest goal ((c.beginSession s).completeSession s result)
        ⟨t, some ((c.beginSession s).completeSession s result), d.audits.set s (auditOf src s)⟩ := by
      refine ⟨rfl, h.hash, ?_, audits_kept _ h.audits, ?_⟩
      · have hout : s ∉ c.completedSessions := h.completed ▸ hnew
        exact (if_neg hout).trans (congrArg (· ++ [s]) h.completed)
      · rw [← h.outcome, outcome_cons, hsome]
        rfl
    refine ⟨.inr ⟨_, _, rfl, hcompleted⟩, fun point d' hmem hsteady => ?_⟩
    simp only [mem_append, mem_cons, not_mem_nil, or_false, Prod.mk.injEq] at hmem
    rcases hmem with hmem | ⟨hbuilt, rfl⟩ | ⟨-, rfl⟩
    · exact ⟨_, .inl (hearly point d' hmem)⟩
    · -- the session is built again: the index must not count its sizes twice
      have hagain := attempt_again (hsteady hbuilt) hsome
      exact ⟨_, .inl (h.same (c.beginSession s) rfl rfl (hset _) (hagain.trans hsome.symm))⟩
    · exact ⟨_, .inr hcompleted⟩

theorem processFrom_skips (done' : List Session)
    (hdone : ∀ s ∈ done', s ∈ c.completedSessions ∧ (d.audits.get? s).isSome = true) :
    processFrom src (done' ++ todo) c d = processFrom src todo c d := by
  induction done' with
  | nil => rfl
  | cons s rest ih =>
    obtain ⟨hmem, haudit⟩ := hdone s (.head _)
    obtain ⟨audit, hget⟩ := Option.isSome_iff_exists.1 haudit
    rw [cons_append, processFrom, if_pos hmem, hget]
    exact ih fun s' hs' => hdone s' (.tail _ hs')

theorem Resumes.run (h : Resumes src done todo goal c d) (hnodup : (done ++ todo).Nodup) :
    (processFrom src todo c d).2.map Disk.tables = goal ∧
      ∀ point d', (point, d') ∈ (processFrom src todo c d).1 →
        (∀ s, point = .built s → Steady src s) →
        ∃ done' todo' c', done ++ todo = done' ++ todo' ∧ Resumes src done' todo' goal c' d' := by
  induction todo generalizing done c d with
  | nil => exact ⟨h.outcome, nofun⟩
  | cons s rest ih =>
    have hnew : s ∉ done := fun hmem =>
      (nodup_append.1 hnodup).2.2 s hmem s (.head _) rfl
    have hout : s ∉ c.completedSessions := h.completed ▸ hnew
    obtain ⟨hend, hpoints⟩ := h.turn hnew
    have hpoint : ∀ point d', (point, d') ∈ (sessionTurn src s c d).1 →
        (∀ s, point = .built s → Steady src s) →
        ∃ done' todo' c', done ++ s :: rest = done' ++ todo' ∧ Resumes src done' todo' goal c' d' := by
      intro point d' hmem hsteady
      obtain ⟨c', hbefore | hafter⟩ := hpoints point d' hmem (hsteady s)
      · exact ⟨done, s :: rest, c', rfl, hbefore⟩
      · exact ⟨done ++ [s], rest, c', by simp, hafter⟩
    rw [processFrom, if_neg hout]
    rcases hend with ⟨hnone, hgoal⟩ | ⟨c', d', hsome, hnext⟩
    · cases hturn : sessionTurn src s c d with
      | mk points final =>
        rw [hturn] at hnone hpoint
        cases hnone
        exact ⟨hgoal.symm, hpoint⟩
    · cases hturn : sessionTurn src s c d with
      | mk points final =>
        rw [hturn] at hsome hpoint
        cases hsome
        obtain ⟨hfinal, hlater⟩ := ih hnext (by simpa using hnodup)
        refine ⟨hfinal, fun point d'' hmem hsteady => ?_⟩
        rcases mem_append.1 hmem with hmem | hmem
        · exact hpoint point d'' hmem hsteady
        · obtain ⟨done', todo', c'', hsplit, hresumes⟩ := hlater point d'' hmem hsteady
          exact ⟨done', todo', c'', by rw [← hsplit, append_assoc]; rfl, hresumes⟩

def finalTables (src : Source) : Option Tables := outcome src sessionOrder {}

theorem sessionOrder_nodup : sessionOrder.Nodup := by decide

def Resumable (src : Source) (d : Disk) : Prop :=
  (d.checkpoint = none ∧ d.audits = ∅ ∧ outcome src sessionOrder d.tables = finalTables src) ∨
    ∃ done todo c, sessionOrder = done ++ todo ∧ Resumes src done todo (finalTables src) c d

theorem process_resumable (h : Resumable src d) :
    (process src d).2.map Disk.tables = finalTables src ∧
      ∀ point d', (point, d') ∈ (process src d).1 → (∀ s, point = .built s → Steady src s) →
        Resumable src d' := by
  rcases h with ⟨hnone, haudits, houtcome⟩ | ⟨done, todo, c, hsplit, hresumes⟩
  · have hopened : Resumes src [] sessionOrder (finalTables src) { inputManifestHash := src.manifestHash }
        { d with checkpoint := some { inputManifestHash := src.manifestHash } } :=
      ⟨rfl, rfl, rfl, nofun, houtcome⟩
    obtain ⟨hfinal, hpoints⟩ := hopened.run sessionOrder_nodup
    unfold process
    rw [hnone]
    refine ⟨hfinal, fun point d' hmem hsteady => ?_⟩
    rcases mem_cons.1 hmem with heq | hmem
    · cases heq
      exact .inr ⟨[], sessionOrder, _, rfl, hopened⟩
    · obtain ⟨done, todo, c', hsplit, hresumes⟩ := hpoints point d' hmem hsteady
      exact .inr ⟨done, todo, c', hsplit, hresumes⟩
  · have hskips : processFrom src (done ++ todo) c d = processFrom src todo c d :=
      processFrom_skips done fun s hs => ⟨hresumes.completed ▸ hs, hresumes.audits s hs⟩
    have hprocess : process src d = processFrom src todo c d := by
      unfold process
      rw [hresumes.checkpoint]
      change (if c.inputManifestHash ≠ src.manifestHash then _ else _) = _
      rw [if_neg (not_not.2 hresumes.hash), hsplit, hskips]
    obtain ⟨hfinal, hpoints⟩ := hresumes.run (hsplit ▸ sessionOrder_nodup)
    rw [hprocess]
    refine ⟨hfinal, fun point d' hmem hsteady => ?_⟩
    obtain ⟨done', todo', c', hsplit', hresumes'⟩ := hpoints point d' hmem hsteady
    exact .inr ⟨done', todo', c', hsplit.trans hsplit', hresumes'⟩

theorem interrupted_resumable (h : Interrupted src (fun point => ∀ s, point = .built s → Steady src s) d) :
    Resumable src d := by
  induction h with
  | fresh => exact .inl ⟨rfl, rfl, rfl⟩
  | crash h hmem hallowed ih => exact (process_resumable ih).2 _ _ hmem hallowed

end

/-!
# Generations
-/

section

variable (src : Source)

def changesOf (sizes : List (ℤ × ℤ)) : List (ℤ × ℤ) :=
  sizes.foldl (fun changes size => if changes.getLast? = some size then changes else changes ++ [size]) []

def sizesOf (rows : List RawEvent) (f : String) : List (ℤ × ℤ) :=
  (rows.filter fun r => src.stableFileId r.identity = f).map fun r => (r.filePages, r.fileSize)

def Numbered (index : FileIndex) (rows : List RawEvent) : Prop :=
  ∀ f g, (index.partitionHistory.get? (f, g)).map (fun row => (row.filePages, row.fileSize)) =
    if g = 0 then none else (changesOf (sizesOf src rows f))[g - 1]?

variable {src}

theorem changesOf_snoc (sizes : List (ℤ × ℤ)) (size : ℤ × ℤ) :
    changesOf (sizes ++ [size]) =
      if (changesOf sizes).getLast? = some size then changesOf sizes else changesOf sizes ++ [size] := by
  unfold changesOf
  rw [foldl_append]
  rfl

theorem previousOf_numbered {index : FileIndex} {rows : List RawEvent} (h : Numbered src index rows)
    (f : String) : previousOf index.partitionHistory ∅ f =
      (changesOf (sizesOf src rows f)).getLast?.map fun size =>
        ((changesOf (sizesOf src rows f)).length, size) := by
  have hf := h f
  generalize changesOf (sizesOf src rows f) = changes at *
  change (latest index.partitionHistory f).map _ = _
  rcases eq_nil_or_concat' changes with rfl | ⟨front, last, rfl⟩
  · have hnone : latest index.partitionHistory f = none := by
      refine latest_eq_none.2 fun g => ?_
      have hg := hf g
      rw [getElem?_nil, ite_self] at hg
      exact Option.map_eq_none_iff.1 hg
    rw [hnone]
    rfl
  · have hlast := hf (front.length + 1)
    rw [if_neg (Nat.succ_ne_zero _), Nat.add_sub_cancel, getElem?_concat_length] at hlast
    obtain ⟨row, hrow, hsize⟩ := Option.map_eq_some_iff.1 hlast
    have hlatest : latest index.partitionHistory f = some (front.length + 1, row) := by
      refine latest_eq_some.2 ⟨hrow, fun g row' hget => ?_⟩
      have hg := hf g
      rw [hget] at hg
      by_contra hbeyond
      rw [if_neg (by omega), getElem?_eq_none (by rw [length_append, length_singleton]; omega)]
        at hg
      cases hg
    rw [hlatest, getLast?_concat, length_append, length_singleton, ← hsize]
    rfl

theorem numbered_register {index : FileIndex} {rows : List RawEvent} (h : Numbered src index rows)
    (r : RawEvent) : Numbered src (register src index r).2 (rows ++ [r]) := by
  intro f g
  rw [register_snd]
  change ((upsert index.partitionHistory _ _ _).get? (f, g)).map _ = _
  rw [get?_upsert]
  by_cases hfile : f = src.stableFileId r.identity
  · subst hfile
    have hsizes : sizesOf src (rows ++ [r]) (src.stableFileId r.identity) =
        sizesOf src rows (src.stableFileId r.identity) ++ [(r.filePages, r.fileSize)] := by
      simp [sizesOf]
    have hprevious := previousOf_numbered h (src.stableFileId r.identity)
    have hold := h (src.stableFileId r.identity)
    have hgeneration : (register src index r).1 = generationOf (previousOf index.partitionHistory ∅
      (src.stableFileId r.identity)) r.filePages r.fileSize := rfl
    rw [hsizes, changesOf_snoc, hgeneration, hprevious]
    generalize changesOf (sizesOf src rows (src.stableFileId r.identity)) = changes at *
    have hgenerationOf : generationOf (changes.getLast?.map fun size => (changes.length, size)) r.filePages
        r.fileSize = if changes.getLast? = some (r.filePages, r.fileSize) then changes.length
          else changes.length + 1 := by
      rcases eq_nil_or_concat' changes with rfl | ⟨front, last, rfl⟩
      · rfl
      · rw [getLast?_concat]
        simp only [Option.map_some, Option.some.injEq]
        rfl
    rw [hgenerationOf]
    simp only [Prod.mk.injEq, true_and]
    by_cases hsame : changes.getLast? = some (r.filePages, r.fileSize)
    · rw [if_pos hsame, if_pos hsame]
      split_ifs with hlast hzero hzero
      · -- the generation of a list that has a last element is not zero
        rw [eq_nil_of_length_eq_zero (hlast.symm.trans hzero)] at hsame
        cases hsame
      · have hg := hold g
        rw [hlast, if_neg (hlast ▸ hzero)] at hg
        rw [hlast, ← hg]
        cases hget : index.partitionHistory.get? (src.stableFileId r.identity, changes.length) with
        | some old => rfl
        | none =>
          rw [hget, ← getLast?_eq_getElem?, hsame] at hg
          cases hg
      · have hg := hold g
        rwa [if_pos hzero] at hg
      · have hg := hold g
        rwa [if_neg hzero] at hg
    · rw [if_neg hsame, if_neg hsame]
      by_cases hnext : g = changes.length + 1
      · subst hnext
        have hg := hold (changes.length + 1)
        rw [if_neg (Nat.succ_ne_zero _), Nat.add_sub_cancel, getElem?_eq_none (Nat.le_refl _)] at hg
        rw [if_pos rfl, if_neg (Nat.succ_ne_zero _), Nat.add_sub_cancel, getElem?_concat_length,
          Option.map_eq_none_iff.1 hg]
        rfl
      · rw [if_neg hnext, hold g]
        split_ifs with hzero
        · rfl
        · rcases Nat.lt_or_ge (g - 1) changes.length with hlt | hge
          · rw [getElem?_append_left hlt]
          · rw [getElem?_eq_none hge, getElem?_eq_none]
            rw [length_append, length_singleton]
            omega
  · have hsizes : sizesOf src (rows ++ [r]) f = sizesOf src rows f := by
      simp [sizesOf, Ne.symm hfile]
    rw [if_neg fun heq => hfile (Prod.mk.inj heq).1, hsizes]
    exact h f g

theorem numbered_registerAll (rows : List RawEvent) : Numbered src (registerAll src {} rows) rows := by
  induction rows using List.reverseRecOn with
  | nil =>
    intro f g
    exact (ite_self _).symm
  | append_singleton rows r ih =>
    have hsnoc : registerAll src {} (rows ++ [r]) = (register src (registerAll src {} rows) r).2 := by
      simp [registerAll]
    rw [hsnoc]
    exact numbered_register ih r

theorem outcome_index {todo : List Session} {t t' : Tables} (h : outcome src todo t = some t') :
    t'.index = registerAll src t.index (todo.flatMap (acceptedRows src)) := by
  induction todo generalizing t with
  | nil =>
    cases h
    rfl
  | cons s rest ih =>
    rw [outcome_cons] at h
    obtain ⟨next, hnext, hrest⟩ := Option.bind_eq_some_iff.1 h
    rw [ih hrest, flatMap_cons]
    have hindex : next.index = registerAll src t.index (acceptedRows src s) := by
      obtain ⟨result, hok⟩ := attempt_builds hnext
      exact (buildSession_index hok).trans (congrArg _ (acceptedOf_load t))
    rw [hindex]
    exact foldl_append.symm

/-- After any crashes that spare the gap between the build of a session and its checkpoint, where a file
of the session changes its size, a run leads to the tables of the uninterrupted one, and there the
generations of a file are the changes of its size. -/
theorem interrupted_build_resumes (src : Source) {d : Disk}
    (h : Interrupted src (fun point => ∀ s, point = .built s → Steady src s) d) :
    (process src d).2.map Disk.tables = (process src {}).2.map Disk.tables ∧
      ∀ t, (process src {}).2.map Disk.tables = some t → ∀ f g,
        (t.index.partitionHistory.get? (f, g)).map (fun row => (row.filePages, row.fileSize)) =
          if g = 0 then none
          else (changesOf (sizesOf src (sessionOrder.flatMap (acceptedRows src)) f))[g - 1]? := by
  have hresumable : Resumable src {} := .inl ⟨rfl, rfl, rfl⟩
  have hfresh : (process src {}).2.map Disk.tables = finalTables src := (process_resumable hresumable).1
  refine ⟨(process_resumable (interrupted_resumable h)).1.trans hfresh.symm, fun t ht => ?_⟩
  have hindex : t.index = registerAll src {} (sessionOrder.flatMap (acceptedRows src)) :=
    outcome_index (t := {}) (hfresh.symm.trans ht)
  have hnumbered : Numbered src t.index (sessionOrder.flatMap (acceptedRows src)) :=
    hindex ▸ numbered_registerAll _
  exact hnumbered

end

def diskAt (src : Source) (point : Point) : Disk :=
  (((process src {}).1.find? fun e => e.1 = point).map Prod.snd).getD {}

theorem diskAt_mem {src : Source} {point : Point}
    (h : ((process src {}).1.find? fun e => e.1 = point).isSome = true) :
    (point, diskAt src point) ∈ (process src {}).1 := by
  obtain ⟨e, he⟩ := Option.isSome_iff_exists.1 h
  have hpoint : e.1 = point := by simpa using find?_some he
  have hdisk : diskAt src point = e.2 := by
    unfold diskAt
    rw [he]
    rfl
  rw [hdisk, ← hpoint]
  exact mem_of_find?_eq_some he

def growingEvent (time pages : ℤ) : RawEvent :=
  { eventTime := time, collectionTime := time, sampleId := time, pid := 1, domainId := 1,
    foregroundEpoch := 0, mmCookie := "0", regionType := "FILE", alignment := 1, regionStart := 0,
    regionEnd := 4096, logicalStart := 0, nrPages := 1, identity := (8, 1, 42, 0),
    fileSize := pages * 4096, filePages := pages, sampleUs := 1, aggregationUs := 1, nrAccesses := 1,
    age := 0 }

def growing : Source where
  manifestHash := "manifest"
  metadata s := ⟨expectedBootId, expectedRelease, runtimeSource, 0, 0, 0, 1, 1, 0, windowNs,
    if s = .wps01 then 2 else 0, 0⟩
  trace s := if s = .wps01 then [some (growingEvent 1 1), some (growingEvent 2 2)] else []
  operations _ := []
  stableFileId _ := "a file"
  stableWindowId _ s _ := match s with
    | .wps01 => "wps_01"
    | .wps02 => "wps_02"
    | .wps03 => "wps_03"
    | .files01 => "files_01"
    | .files02 => "files_02"

theorem audited_resumes :
    (process growing (diskAt growing (.audited .wps01))).2.map Disk.tables =
      (process growing {}).2.map Disk.tables :=
  have haudited : Interrupted growing (fun point => ∀ s, point = .built s → Steady growing s)
      (diskAt growing (.audited .wps01)) :=
    .crash .fresh (diskAt_mem (by decide +kernel)) fun s hbuilt => by cases hbuilt
  (interrupted_build_resumes growing haudited).1

/-- A crash in the gap: both sizes of the file are counted again. -/
theorem gap_counts_twice : ¬ ∀ (src : Source) (d : Disk), Interrupted src (fun _ => True) d →
    (process src d).2.map Disk.tables = (process src {}).2.map Disk.tables := by
  intro h
  have hbuilt : Interrupted growing (fun _ => True) (diskAt growing (.built .wps01)) :=
    .crash .fresh (diskAt_mem (by decide +kernel)) trivial
  have hrows := congrArg (Option.map fun t => t.index.partitionHistory.items.length) (h growing _ hbuilt)
  revert hrows
  decide +kernel

end Parp.DatasetBuild
