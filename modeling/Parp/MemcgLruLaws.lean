import Parp.KeyedTable
import Parp.MemcgLru
import Mathlib.Data.List.Induction
import Mathlib.Data.List.TakeWhile
import Mathlib.Tactic.Linarith

set_option autoImplicit false

namespace Parp.MemcgLru

open ColdReclaim TransitionRuns KeyedTable List

section

variable (score : ℕ → Option (ℕ × Bool))

def isStale (entry : LruEntry) : Bool :=
  (score entry.memcg).any fun scored => scored.1 ≠ entry.bin

variable {score}

theorem isStale_none {entry : LruEntry} (h : score entry.memcg = none) :
    isStale score entry = false := by
  rw [isStale, h]
  rfl

theorem isStale_some {entry : LruEntry} {scored : ℕ × Bool} (h : score entry.memcg = some scored) :
    isStale score entry = true ↔ scored.1 ≠ entry.bin := by
  simp [isStale, h]

theorem isStale_moved (score : ℕ → Option (ℕ × Bool)) (seq random : ℕ) (op : MemcgLruOp) (entry : LruEntry) :
    isStale score (moved seq (((score entry.memcg).map Prod.fst).getD random) op entry) = false := by
  unfold isStale
  cases h : score entry.memcg <;> simp [moved, h]

end

theorem entriesFrom_cons (entry : LruEntry) (entries : List LruEntry) (memcg : ℕ) :
    entriesFrom (entry :: entries) memcg =
      if entry.memcg = memcg then entry :: entries else entriesFrom entries memcg := by
  by_cases h : entry.memcg = memcg <;> simp [entriesFrom, h]

theorem nextOf_spec {entries : List LruEntry} {memcg next : ℕ}
    (hkeyed : Keyed LruEntry.memcg entries) (h : nextOf entries memcg = some next) :
    next ≠ memcg ∧ (∃ entry ∈ entries, entry.memcg = next) ∧
      (entriesFrom entries next).length < (entriesFrom entries memcg).length := by
  induction entries with
  | nil => cases h
  | cons entry entries ih =>
    obtain ⟨hentry, hentries⟩ := nodup_cons.1 hkeyed
    unfold nextOf at h ih
    rw [entriesFrom_cons] at h ⊢
    rw [entriesFrom_cons]
    by_cases hat : entry.memcg = memcg
    · -- the iterator is at this entry
      rw [if_pos hat] at h ⊢
      cases entries with
      | nil => cases h
      | cons second rest =>
        obtain rfl : second.memcg = next := by simpa [firstOf] using h
        have hne : entry.memcg ≠ second.memcg := by
          intro heq
          exact hentry (mem_map.2 ⟨second, mem_cons_self, heq.symm⟩)
        refine ⟨hat ▸ hne.symm, ⟨second, by simp, rfl⟩, ?_⟩
        rw [if_neg hne, entriesFrom_cons, if_pos rfl]
        exact Nat.lt_succ_self _
    · rw [if_neg hat] at h ⊢
      obtain ⟨hne, ⟨found, hmem, hfound⟩, hless⟩ := ih hentries h
      have hother : entry.memcg ≠ next := by
        intro heq
        exact hentry (mem_map.2 ⟨found, hmem, hfound.trans heq.symm⟩)
      rw [if_neg hother]
      exact ⟨hne, ⟨found, mem_cons_of_mem _ hmem, hfound⟩, hless⟩

section

variable {lru : Lru} {entry : LruEntry}

def othersOf (entry : LruEntry) (lru : Lru) : List LruEntry :=
  lru.entries.filter fun other => other.memcg ≠ entry.memcg

theorem entries_perm (hkeyed : Keyed LruEntry.memcg lru.entries) (hentry : entry ∈ lru.entries) :
    lru.entries.Perm (entry :: othersOf entry lru) :=
  perm_cons_filter hkeyed hentry

/-- What taking a memcg out, and possibly putting it back, does to the lists. -/
structure Replaced (entry : LruEntry) (placed : Option LruEntry) (lru lru' : Lru) : Prop where
  entries : lru'.entries.Perm (placed.toList ++ othersOf entry lru)
  seq : lru'.seq = seqAfter lru.seq entry.gen lru'.entries

theorem lruGenRotateMemcg_replaced (score : ℕ → Option (ℕ × Bool)) (random : ℕ) (op : MemcgLruOp)
    (hkeyed : Keyed LruEntry.memcg lru.entries) (hentry : entry ∈ lru.entries) :
    Replaced entry
      (some (moved lru.seq (((score entry.memcg).map Prod.fst).getD random) op entry)) lru
      (lruGenRotateMemcg score random op entry.memcg lru) := by
  have hfound : lru.entries.find? (fun other => other.memcg = entry.memcg) = some entry :=
    lookup_of_mem hkeyed hentry rfl
  unfold lruGenRotateMemcg
  rw [hfound]
  refine ⟨?_, rfl⟩
  dsimp only
  split
  · exact List.Perm.refl _
  · exact perm_append_singleton _ _

theorem lruGenReleaseMemcg_replaced (hkeyed : Keyed LruEntry.memcg lru.entries)
    (hentry : entry ∈ lru.entries) :
    Replaced entry none lru (lruGenReleaseMemcg entry.memcg lru) := by
  have hfound : lru.entries.find? (fun other => other.memcg = entry.memcg) = some entry :=
    lookup_of_mem hkeyed hentry rfl
  unfold lruGenReleaseMemcg
  rw [hfound]
  exact ⟨List.Perm.refl _, rfl⟩

theorem segOf_eq (hkeyed : Keyed LruEntry.memcg lru.entries) (hentry : entry ∈ lru.entries) :
    segOf lru entry.memcg = entry.seg := by
  have hfound : lru.entries.find? (fun other => other.memcg = entry.memcg) = some entry :=
    lookup_of_mem hkeyed hentry rfl
  unfold segOf
  rw [hfound]
  rfl

end

section

variable {score : ℕ → Option (ℕ × Bool)} {gen firstBin : ℕ}

structure WellPlaced (gen : ℕ) (s : ManyScan) : Prop where
  keyed : Keyed LruEntry.memcg s.lru.entries
  /-- The generation stays the oldest while it has memcgs. -/
  oldest : ∀ entry ∈ s.lru.entries, entry.gen = gen → s.lru.seq % memcgNrGens = gen
  bin : s.bin < memcgNrBins
  located : ∀ memcg, s.pos = some memcg →
    ∃ entry ∈ s.lru.entries, entry.memcg = memcg ∧ entry.gen = gen ∧ entry.bin = s.bin

structure At (gen : ℕ) (s : ManyScan) (entry : LruEntry) : Prop where
  mem : entry ∈ s.lru.entries
  gen : entry.gen = gen
  bin : entry.bin = s.bin

inductive Placement (score : ℕ → Option (ℕ × Bool)) (gen : ℕ) (entry : LruEntry) :
    ManyNote → Option LruEntry → Prop
  | released : Placement score gen entry (.released entry.memcg) none
  | rebinned {placed : LruEntry} (restarts : Bool) (hmemcg : placed.memcg = entry.memcg)
      (hstale : isStale score entry = true) (hfresh : isStale score placed = false) :
      Placement score gen entry (.rebinned entry.memcg restarts) (some placed)
  | visited {placed : LruEntry} {visit : Visit} (hvisit : visit.memcg = entry.memcg)
      (hmemcg : placed.memcg = entry.memcg) (hentry : isStale score entry = false)
      (hfresh : isStale score placed = false)
      (hmoves : placed.gen ≠ gen ∨ entry.seg ≠ .tail ∧ placed.seg = .tail) :
      Placement score gen entry (.visited visit) (some placed)

inductive Iteration (score : ℕ → Option (ℕ × Bool)) (gen firstBin : ℕ) (s : ManyScan) :
    ManyNote → ManyScan → Prop
  | idle (hreturned : s.returned = true) : Iteration score gen firstBin s .passed s
  | lastBin : Iteration score gen firstBin s .passed { s with returned := true }
  | nextBin (hpos : s.pos = none) (hbin : (s.bin + 1) % memcgNrBins ≠ firstBin) :
      Iteration score gen firstBin s .passed
        (startPass gen s.lru s.sc ((s.bin + 1) % memcgNrBins))
  | stays {entry : LruEntry} {visit : Visit} (sc : ScanControl) (returned : Bool)
      (hat : At gen s entry) (hpos : s.pos = some entry.memcg)
      (hvisit : visit.memcg = entry.memcg) (hfresh : isStale score entry = false) :
      Iteration score gen firstBin s (.visited visit)
        { s with
          sc := sc
          pos := nextOf (s.lru.fifo gen s.bin) entry.memcg
          returned := returned }
  | moves {entry : LruEntry} {placed : Option LruEntry} {note : ManyNote} {lru : Lru}
      (sc : ScanControl) (returned : Bool) (hat : At gen s entry)
      (hreplaced : Replaced entry placed s.lru lru)
      (hplaced : Placement score gen entry note placed) :
      Iteration score gen firstBin s note
        { s with
          lru := lru
          sc := sc
          pos := nextOf (s.lru.fifo gen s.bin) entry.memcg
          returned := returned }
  | restarts {entry : LruEntry} {placed : Option LruEntry} {note : ManyNote} {lru : Lru}
      (hat : At gen s entry) (hreplaced : Replaced entry placed s.lru lru)
      (hplaced : Placement score gen entry note placed) :
      Iteration score gen firstBin s note (startPass gen lru s.sc firstBin)

theorem shrinkOne_op (reading : ManyReading) (seg : MemcgLruSeg) :
    (shrinkOne reading seg).1 = none ∨ (shrinkOne reading seg).1 = some .young ∨
      (shrinkOne reading seg).1 = some .tail ∧ seg ≠ .tail := by
  unfold shrinkOne
  split_ifs with hmin hlow <;> simp_all

theorem moved_young_gen {seq : ℕ} (bin : ℕ) (entry : LruEntry) (h : seq % memcgNrGens = gen) :
    (moved seq bin .young entry).gen ≠ gen := by
  unfold moved memcgNrGens at *
  dsimp only
  omega

theorem manyVisit_iteration {s : ManyScan} {entry : LruEntry} (hs : WellPlaced gen s)
    (hat : At gen s entry) (hpos : s.pos = some entry.memcg)
    (hfresh : isStale score entry = false) (predictionBin : ℕ) (reading : ManyReading) :
    Iteration score gen firstBin s
      (manyVisit score gen s entry.memcg predictionBin reading).1
      (manyVisit score gen s entry.memcg predictionBin reading).2 := by
  unfold manyVisit
  dsimp only
  split
  · exact .stays _ s.returned hat hpos rfl hfresh
  · have hop := shrinkOne_op reading (segOf s.lru entry.memcg)
    rw [segOf_eq hs.keyed hat.mem] at hop ⊢
    generalize shrinkOne reading entry.seg = result at hop ⊢
    obtain ⟨op, shrunk⟩ := result
    rcases hop with rfl | rfl | ⟨rfl, hseg⟩
    · exact .stays _ _ hat hpos rfl hfresh
    · refine .moves _ _ hat
        (lruGenRotateMemcg_replaced score reading.random .young hs.keyed hat.mem) ?_
      refine .visited rfl rfl hfresh (isStale_moved _ _ _ _ _) (.inl ?_)
      exact moved_young_gen _ _ (hs.oldest _ hat.mem hat.gen)
    · refine .moves _ _ hat
        (lruGenRotateMemcg_replaced score reading.random .tail hs.keyed hat.mem) ?_
      exact .visited rfl rfl hfresh (isStale_moved _ _ _ _ _) (.inr ⟨hseg, rfl⟩)

theorem manyStep_iteration {s : ManyScan} (hs : WellPlaced gen s) (reading : ManyReading) :
    Iteration score gen firstBin s (manyStep score gen firstBin s reading).1
      (manyStep score gen firstBin s reading).2 := by
  unfold manyStep
  split
  · exact .idle ‹_›
  cases hpos : s.pos with
  | none =>
    dsimp only
    split
    · rw [← hpos]
      exact .lastBin
    · exact .nextBin hpos ‹_›
  | some memcg =>
    obtain ⟨entry, hmem, rfl, hgen, hbin⟩ := hs.located _ hpos
    have hat : At gen s entry := ⟨hmem, hgen, hbin⟩
    dsimp only
    split
    · exact .moves s.sc s.returned hat (lruGenReleaseMemcg_replaced hs.keyed hmem) .released
    cases hscore : score entry.memcg with
    | none => exact manyVisit_iteration hs hat hpos (isStale_none hscore) _ reading
    | some scored =>
      obtain ⟨scoredBin, predictionBacked⟩ := scored
      have hstale := isStale_some hscore
      rw [hbin] at hstale
      dsimp only
      split
      · have hreplaced :=
          lruGenRotateMemcg_replaced score reading.random .rebin hs.keyed hmem
        have hfresh := isStale_moved score s.lru.seq reading.random .rebin entry
        split
        · exact .restarts hat hreplaced (.rebinned true rfl (hstale.2 ‹_›) hfresh)
        · exact .moves s.sc s.returned hat hreplaced (.rebinned false rfl (hstale.2 ‹_›) hfresh)
      · rename_i hfresh
        refine manyVisit_iteration hs hat hpos ?_ _ reading
        exact Bool.eq_false_iff.2 fun h => hfresh (hstale.1 h)

end

def releasedBy : ManyNote → List ℕ
  | .released memcg => [memcg]
  | .rebinned _ _ => []
  | .visited _ => []
  | .passed => []

def restartedBy : ManyNote → List ℕ
  | .released _ => []
  | .rebinned memcg restarts => if restarts then [memcg] else []
  | .visited _ => []
  | .passed => []

def examinedBy : ManyNote → List ℕ
  | .released _ => []
  | .rebinned memcg _ => [memcg]
  | .visited visit => [visit.memcg]
  | .passed => []

section

variable {score : ℕ → Option (ℕ × Bool)} {gen firstBin : ℕ} {s s' : ManyScan} {lru lru' : Lru}
  {entry : LruEntry} {placed : Option LruEntry} {note : ManyNote}

section

variable (h : Replaced entry placed lru lru')

include h

theorem Replaced.mem_iff (other : LruEntry) :
    other ∈ lru'.entries ↔
      placed = some other ∨ other ∈ lru.entries ∧ other.memcg ≠ entry.memcg := by
  rw [h.entries.mem_iff]
  simp [othersOf]

theorem Replaced.memcgs (hkeyed : Keyed LruEntry.memcg lru.entries) (hentry : entry ∈ lru.entries)
    (hplaced : Placement score gen entry note placed) :
    (lru'.entries.map LruEntry.memcg ++ releasedBy note).Perm (lru.entries.map LruEntry.memcg) := by
  have hbefore := (entries_perm hkeyed hentry).map LruEntry.memcg
  refine ((h.entries.map LruEntry.memcg).append_right _).trans (List.Perm.trans ?_ hbefore.symm)
  cases hplaced with
  | released => exact perm_append_singleton _ _
  | rebinned restarts hmemcg hstale hfresh =>
    rw [releasedBy, append_nil, map_cons, ← hmemcg]
    exact List.Perm.refl _
  | visited hvisit hmemcg hstale hfresh hmoves =>
    rw [releasedBy, append_nil, map_cons, ← hmemcg]
    exact List.Perm.refl _

theorem Replaced.keyed (hkeyed : Keyed LruEntry.memcg lru.entries) (hentry : entry ∈ lru.entries)
    (hplaced : Placement score gen entry note placed) : Keyed LruEntry.memcg lru'.entries := by
  have hall := (h.memcgs hkeyed hentry hplaced).nodup_iff.2 hkeyed
  exact (nodup_append.1 hall).1

theorem Replaced.oldest (hgen : entry.gen = gen) (hseq : lru.seq % memcgNrGens = gen)
    (other : LruEntry) (hother : other ∈ lru'.entries) (hotherGen : other.gen = gen) :
    lru'.seq % memcgNrGens = gen := by
  have hstay : ¬ ∀ entry ∈ lru'.entries, entry.gen ≠ gen := fun hleft => hleft other hother hotherGen
  rw [h.seq, seqAfter, hgen, if_neg fun hempty => hstay hempty.2]
  exact hseq

end

theorem startPass_located (lru : Lru) (sc : ScanControl) (bin memcg : ℕ)
    (h : (startPass gen lru sc bin).pos = some memcg) :
    ∃ entry ∈ lru.entries, entry.memcg = memcg ∧ entry.gen = gen ∧ entry.bin = bin := by
  obtain ⟨entry, hentry, rfl⟩ := Option.map_eq_some_iff.1 h
  obtain ⟨hmem, hplace⟩ := mem_filter.1 (mem_of_mem_head? hentry)
  obtain ⟨hgen, hbin⟩ := of_decide_eq_true hplace
  exact ⟨entry, hmem, rfl, hgen, hbin⟩

theorem keyed_fifo (hkeyed : Keyed LruEntry.memcg lru.entries) (gen bin : ℕ) :
    Keyed LruEntry.memcg (lru.fifo gen bin) :=
  List.Nodup.sublist (filter_sublist.map _) hkeyed

theorem nextOf_located {bin memcg next : ℕ} (hkeyed : Keyed LruEntry.memcg lru.entries)
    (h : nextOf (lru.fifo gen bin) memcg = some next) :
    next ≠ memcg ∧
      ∃ entry ∈ lru.entries, entry.memcg = next ∧ entry.gen = gen ∧ entry.bin = bin := by
  obtain ⟨hne, ⟨entry, hentry, hnext⟩, -⟩ := nextOf_spec (keyed_fifo hkeyed gen bin) h
  obtain ⟨hmem, hplace⟩ := mem_filter.1 hentry
  obtain ⟨hgen, hbin⟩ := of_decide_eq_true hplace
  exact ⟨hne, entry, hmem, hnext, hgen, hbin⟩

theorem Iteration.wellPlaced (h : Iteration score gen firstBin s note s') (hs : WellPlaced gen s)
    (hfirst : firstBin < memcgNrBins) : WellPlaced gen s' := by
  cases h with
  | idle => exact hs
  | lastBin => exact ⟨hs.keyed, hs.oldest, hs.bin, hs.located⟩
  | nextBin =>
    exact ⟨hs.keyed, hs.oldest, Nat.mod_lt _ (by decide), startPass_located _ _ _⟩
  | stays sc returned hat hpos hvisit hfresh =>
    refine ⟨hs.keyed, hs.oldest, hs.bin, fun next hnext => ?_⟩
    exact (nextOf_located hs.keyed hnext).2
  | moves sc returned hat hreplaced hplaced =>
    refine ⟨hreplaced.keyed hs.keyed hat.mem hplaced,
      hreplaced.oldest hat.gen (hs.oldest _ hat.mem hat.gen), hs.bin, fun next hnext => ?_⟩
    obtain ⟨hne, other, hother, rfl, hplace⟩ := nextOf_located hs.keyed hnext
    exact ⟨other, (hreplaced.mem_iff other).2 (.inr ⟨hother, hne⟩), rfl, hplace⟩
  | restarts hat hreplaced hplaced =>
    exact ⟨hreplaced.keyed hs.keyed hat.mem hplaced,
      hreplaced.oldest hat.gen (hs.oldest _ hat.mem hat.gen), hfirst, startPass_located _ _ _⟩

theorem shrinkManyStart_wellPlaced (switches : Switches) (random : ℕ) (sc : ScanControl)
    (hkeyed : Keyed LruEntry.memcg lru.entries) :
    WellPlaced (lru.seq % memcgNrGens) (shrinkManyStart switches random lru sc) where
  keyed := hkeyed
  oldest _ _ _ := rfl
  bin := by
    change firstBinOf switches random < memcgNrBins
    unfold firstBinOf
    split
    · decide
    · exact Nat.mod_lt _ (by decide)
  located := startPass_located _ _ _

end

section

variable {score : ℕ → Option (ℕ × Bool)} {gen firstBin : ℕ} {s s' : ManyScan} {lru lru' : Lru}
  {entry : LruEntry} {placed : Option LruEntry} {note : ManyNote}

def staleCount (score : ℕ → Option (ℕ × Bool)) (gen : ℕ) (entries : List LruEntry) : ℕ :=
  entries.countP fun entry => entry.gen = gen && isStale score entry

def movesLeft (gen : ℕ) (entry : LruEntry) : ℕ :=
  if entry.gen = gen then if entry.seg = .tail then 1 else 2 else 0

def movesOf (gen : ℕ) (entries : List LruEntry) : ℕ := (entries.map (movesLeft gen)).sum

def entriesLeft (gen : ℕ) (s : ManyScan) : ℕ :=
  s.pos.elim 0 fun memcg => (entriesFrom (s.lru.fifo gen s.bin) memcg).length

def rank (score : ℕ → Option (ℕ × Bool)) (gen firstBin : ℕ) (s : ManyScan) : ℕ × ℕ × ℕ × ℕ :=
  (staleCount score gen s.lru.entries, movesOf gen s.lru.entries, (firstBin + 7 - s.bin) % 8,
    entriesLeft gen s)

theorem movesLeft_pos (h : entry.gen = gen) : 0 < movesLeft gen entry := by
  unfold movesLeft
  split_ifs <;> decide

theorem Replaced.counts (score : ℕ → Option (ℕ × Bool)) (gen : ℕ) (h : Replaced entry placed lru lru')
    (hkeyed : Keyed LruEntry.memcg lru.entries) (hentry : entry ∈ lru.entries) :
    staleCount score gen lru'.entries + staleCount score gen [entry] =
        staleCount score gen lru.entries + staleCount score gen placed.toList ∧
      movesOf gen lru'.entries + movesLeft gen entry =
        movesOf gen lru.entries + movesOf gen placed.toList := by
  have hbefore := entries_perm hkeyed hentry
  constructor
  · unfold staleCount
    rw [h.entries.countP_eq, hbefore.countP_eq]
    simp only [countP_append, countP_cons, countP_nil]
    omega
  · unfold movesOf
    rw [(h.entries.map _).sum_eq, (hbefore.map _).sum_eq, map_append, sum_append,
      map_cons, sum_cons]
    omega

theorem Replaced.lowers (h : Replaced entry placed lru lru')
    (hkeyed : Keyed LruEntry.memcg lru.entries) (hentry : entry ∈ lru.entries)
    (hgen : entry.gen = gen) (hplaced : Placement score gen entry note placed) :
    staleCount score gen lru'.entries < staleCount score gen lru.entries ∨
      staleCount score gen lru'.entries ≤ staleCount score gen lru.entries ∧
        movesOf gen lru'.entries < movesOf gen lru.entries := by
  obtain ⟨hstales, hmoves⟩ := h.counts score gen hkeyed hentry
  have hpos := movesLeft_pos hgen
  cases hplaced with
  | released =>
    right
    simp [staleCount, movesOf] at hstales hmoves ⊢
    omega
  | rebinned restarts hmemcg hstale hfresh =>
    left
    simp [staleCount, hgen, hstale, hfresh] at hstales ⊢
    omega
  | @visited placed visit hvisit hmemcg hstale hfresh hmove =>
    right
    have hless : movesLeft gen placed < movesLeft gen entry := by
      rcases hmove with hleft | ⟨hseg, htail⟩
      · rw [movesLeft, if_neg hleft]
        exact hpos
      · unfold movesLeft
        rw [if_pos hgen, if_neg hseg, if_pos htail]
        split_ifs <;> decide
    simp [staleCount, movesOf, hstale, hfresh] at hstales hmoves ⊢
    omega

def Descends : ℕ × ℕ × ℕ × ℕ → ℕ × ℕ × ℕ × ℕ → Prop :=
  Prod.Lex (· < ·) (Prod.Lex (· < ·) (Prod.Lex (· < ·) (· < ·)))

theorem descends_wellFounded : WellFounded Descends :=
  WellFounded.prod_lex Nat.lt_wfRel.wf
    (WellFounded.prod_lex Nat.lt_wfRel.wf (WellFounded.prod_lex Nat.lt_wfRel.wf Nat.lt_wfRel.wf))

theorem descends_of_lowers {stales stales' moves moves' : ℕ} (rest rest' : ℕ × ℕ)
    (h : stales' < stales ∨ stales' ≤ stales ∧ moves' < moves) :
    Descends (stales', moves', rest') (stales, moves, rest) := by
  rcases h with hlower | ⟨hle, hlower⟩
  · exact .left _ _ hlower
  · rcases Nat.lt_or_eq_of_le hle with hless | rfl
    · exact .left _ _ hless
    · exact .right _ (.left _ _ hlower)

theorem entriesLeft_next (hs : WellPlaced gen s) (hat : At gen s entry) :
    (nextOf (s.lru.fifo gen s.bin) entry.memcg).elim 0
        (fun memcg => (entriesFrom (s.lru.fifo gen s.bin) memcg).length) <
      (entriesFrom (s.lru.fifo gen s.bin) entry.memcg).length := by
  have hkeyed := keyed_fifo hs.keyed gen s.bin
  have hmem : entry ∈ s.lru.fifo gen s.bin :=
    mem_filter.2 ⟨hat.mem, decide_eq_true ⟨hat.gen, hat.bin⟩⟩
  cases hnext : nextOf (s.lru.fifo gen s.bin) entry.memcg with
  | some next => exact (nextOf_spec hkeyed hnext).2.2
  | none =>
    refine length_pos_of_ne_nil fun hnil => ?_
    have hall := dropWhile_eq_nil_iff.1 hnil entry hmem
    simp at hall

theorem Iteration.descends (h : Iteration score gen firstBin s note s') (hs : WellPlaced gen s)
    (hfirst : firstBin < memcgNrBins) (hreturned : s.returned = false) :
    s'.returned = true ∨ Descends (rank score gen firstBin s') (rank score gen firstBin s) := by
  cases h with
  | idle hover =>
    rw [hreturned] at hover
    cases hover
  | lastBin => exact .inl rfl
  | nextBin hpos hbin =>
    have hbefore := hs.bin
    unfold memcgNrBins at *
    refine .inr (.right _ (.right _ (.left _ _ ?_)))
    change (firstBin + 7 - (s.bin + 1) % 8) % 8 < (firstBin + 7 - s.bin) % 8
    omega
  | stays sc returned hat hpos hvisit hfresh =>
    refine .inr (.right _ (.right _ (.right _ ?_)))
    have hless := entriesLeft_next hs hat
    unfold entriesLeft
    rw [hpos]
    exact hless
  | moves sc returned hat hreplaced hplaced =>
    exact .inr (descends_of_lowers _ _ (hreplaced.lowers hs.keyed hat.mem hat.gen hplaced))
  | restarts hat hreplaced hplaced =>
    exact .inr (descends_of_lowers _ _ (hreplaced.lowers hs.keyed hat.mem hat.gen hplaced))

end

section

variable (score : ℕ → Option (ℕ × Bool)) {gen firstBin : ℕ} {lru : Lru} {s s' : ManyScan}
  {notes : List ManyNote} {note : ManyNote}

/-- What the iterations of a call that began with `lru` have done to its lists. -/
structure RebinLaw (lru : Lru) (notes : List ManyNote) (s : ManyScan) : Prop where
  restarts_once : (notes.flatMap restartedBy).Nodup
  restarts_stale : ∀ memcg ∈ notes.flatMap restartedBy,
    ∃ entry ∈ lru.entries, entry.memcg = memcg ∧ isStale score entry = true
  settled : ∀ entry ∈ s.lru.entries, entry.memcg ∈ notes.flatMap examinedBy →
    isStale score entry = false
  kept : (s.lru.entries.map LruEntry.memcg ++ notes.flatMap releasedBy).Perm
    (lru.entries.map LruEntry.memcg)

/-- With it, the stale memcgs are still the first ones, and a memcg that is sent back is examined. -/
structure RebinInv (lru : Lru) (notes : List ManyNote) (s : ManyScan) : Prop
    extends RebinLaw score lru notes s where
  stale_first : ∀ entry ∈ s.lru.entries, isStale score entry = true → entry ∈ lru.entries
  restarts_examined : ∀ memcg ∈ notes.flatMap restartedBy, memcg ∈ notes.flatMap examinedBy

variable {score}

/-- The lists after an iteration: an entry is an old one or fresh, and what is examined is fresh. -/
structure Freshens (score : ℕ → Option (ℕ × Bool)) (s : ManyScan) (note : ManyNote)
    (s' : ManyScan) : Prop where
  entries : ∀ entry ∈ s'.lru.entries, entry ∈ s.lru.entries ∨ isStale score entry = false
  examined : ∀ entry ∈ s'.lru.entries, entry.memcg ∈ examinedBy note → isStale score entry = false
  restarted : ∀ memcg ∈ restartedBy note, memcg ∈ examinedBy note ∧
    ∃ entry ∈ s.lru.entries, entry.memcg = memcg ∧ isStale score entry = true
  single : (restartedBy note).Nodup
  memcgs : (s'.lru.entries.map LruEntry.memcg ++ releasedBy note).Perm
    (s.lru.entries.map LruEntry.memcg)

theorem Freshens.quiet (hlru : s'.lru = s.lru) (hexamined : examinedBy note = [])
    (hrestarted : restartedBy note = []) (hreleased : releasedBy note = []) :
    Freshens score s note s' where
  entries entry hentry := .inl (hlru ▸ hentry)
  examined entry _ hmem := by
    rw [hexamined] at hmem
    cases hmem
  restarted memcg hmem := by
    rw [hrestarted] at hmem
    cases hmem
  single := by
    rw [hrestarted]
    exact nodup_nil
  memcgs := by
    rw [hlru, hreleased, append_nil]

theorem Replaced.freshens {entry : LruEntry} {placed : Option LruEntry}
    (h : Replaced entry placed s.lru s'.lru) (hkeyed : Keyed LruEntry.memcg s.lru.entries)
    (hentry : entry ∈ s.lru.entries) (hplaced : Placement score gen entry note placed) :
    Freshens score s note s' where
  entries other hother := by
    rcases (h.mem_iff other).1 hother with rfl | ⟨hold, -⟩
    · right
      cases hplaced with
      | rebinned restarts hmemcg hstale hfresh => exact hfresh
      | visited hvisit hmemcg hstale hfresh hmoves => exact hfresh
    · exact .inl hold
  examined other hother hmem := by
    cases hplaced with
    | released => cases hmem
    | rebinned restarts hmemcg hstale hfresh =>
      rcases (h.mem_iff other).1 hother with hsome | ⟨-, hne⟩
      · obtain rfl := Option.some.inj hsome
        exact hfresh
      · exact absurd (mem_singleton.1 hmem) hne
    | visited hvisit hmemcg hstale hfresh hmoves =>
      rcases (h.mem_iff other).1 hother with hsome | ⟨-, hne⟩
      · obtain rfl := Option.some.inj hsome
        exact hfresh
      · exact absurd ((mem_singleton.1 hmem).trans hvisit) hne
  restarted memcg hmem := by
    cases hplaced with
    | released => cases hmem
    | rebinned restarts hmemcg hstale hfresh =>
      cases restarts with
      | false => cases hmem
      | true =>
        obtain rfl := mem_singleton.1 hmem
        exact ⟨hmem, entry, hentry, rfl, hstale⟩
    | visited hvisit hmemcg hstale hfresh hmoves => cases hmem
  single := by
    cases hplaced with
    | released => exact nodup_nil
    | rebinned restarts hmemcg hstale hfresh => cases restarts <;> simp [restartedBy]
    | visited hvisit hmemcg hstale hfresh hmoves => exact nodup_nil
  memcgs := h.memcgs hkeyed hentry hplaced

theorem Iteration.freshens (h : Iteration score gen firstBin s note s') (hs : WellPlaced gen s) :
    Freshens score s note s' := by
  cases h with
  | idle => exact .quiet rfl rfl rfl rfl
  | lastBin => exact .quiet rfl rfl rfl rfl
  | nextBin => exact .quiet rfl rfl rfl rfl
  | @stays entry visit sc returned hat hpos hvisit hfresh =>
    refine ⟨fun _ hold => .inl hold, fun other hother hmem => ?_, fun _ hmem => (by cases hmem),
      nodup_nil, List.Perm.of_eq (append_nil _)⟩
    -- the memcg is the one of the entry the iteration is at
    have hmemcg : other.memcg = entry.memcg := (mem_singleton.1 hmem).trans hvisit
    obtain rfl := inj_on_of_nodup_map hs.keyed hother hat.mem hmemcg
    exact hfresh
  | moves sc returned hat hreplaced hplaced => exact hreplaced.freshens hs.keyed hat.mem hplaced
  | restarts hat hreplaced hplaced => exact hreplaced.freshens hs.keyed hat.mem hplaced

theorem rebinInv_concat (h : RebinInv score lru notes s) (hstep : Freshens score s note s') :
    RebinInv score lru (notes ++ [note]) s' := by
  have hsettled : ∀ entry ∈ s'.lru.entries, entry.memcg ∈ (notes ++ [note]).flatMap examinedBy →
      isStale score entry = false := by
    intro entry hentry hmem
    rw [flatMap_append, mem_append, flatMap_singleton] at hmem
    rcases hmem with hearlier | hnow
    · rcases hstep.entries entry hentry with hold | hfresh
      · exact h.settled entry hold hearlier
      · exact hfresh
    · exact hstep.examined entry hentry hnow
  refine ⟨⟨?_, ?_, hsettled, ?_⟩, ?_, ?_⟩
  · rw [flatMap_append, flatMap_singleton]
    refine nodup_append.2 ⟨h.restarts_once, hstep.single, ?_⟩
    rintro memcg hearlier _ hnow rfl
    obtain ⟨-, entry, hentry, rfl, hstale⟩ := hstep.restarted memcg hnow
    rw [h.settled entry hentry (h.restarts_examined _ hearlier)] at hstale
    cases hstale
  · intro memcg hmem
    rw [flatMap_append, mem_append, flatMap_singleton] at hmem
    rcases hmem with hearlier | hnow
    · exact h.restarts_stale memcg hearlier
    · obtain ⟨-, entry, hentry, rfl, hstale⟩ := hstep.restarted memcg hnow
      exact ⟨entry, h.stale_first entry hentry hstale, rfl, hstale⟩
  · rw [flatMap_append, flatMap_singleton]
    refine List.Perm.trans ?_ h.kept
    rw [← append_assoc]
    refine List.Perm.trans ?_ (hstep.memcgs.append_right _)
    rw [append_assoc, append_assoc]
    exact perm_append_comm.append_left _
  · intro entry hentry hstale
    rcases hstep.entries entry hentry with hold | hfresh
    · exact h.stale_first entry hold hstale
    · rw [hfresh] at hstale
      cases hstale
  · intro memcg hmem
    rw [flatMap_append, mem_append, flatMap_singleton] at hmem ⊢
    exact hmem.imp (h.restarts_examined memcg) fun hnow => (hstep.restarted memcg hnow).1

theorem rebinInv_run (hs : WellPlaced gen s) (hfirst : firstBin < memcgNrBins)
    (readings : List ManyReading) :
    RebinInv score s.lru (outputs (manyStep score gen firstBin) s readings)
      (after (manyStep score gen firstBin) s readings) := by
  have hplaced (readings : List ManyReading) :
      WellPlaced gen (after (manyStep score gen firstBin) s readings) :=
    after_invariant (I := WellPlaced gen)
      (fun _ reading hs => (manyStep_iteration hs reading).wellPlaced hs hfirst) hs readings
  induction readings using List.reverseRecOn with
  | nil =>
    refine ⟨⟨nodup_nil, fun _ hmem => (by cases hmem), fun _ _ hmem => (by cases hmem), ?_⟩,
      fun _ hentry _ => hentry, fun _ hmem => (by cases hmem)⟩
    exact List.Perm.of_eq (append_nil _)
  | append_singleton readings reading ih =>
    rw [outputs_concat, after_concat]
    exact rebinInv_concat ih
      ((manyStep_iteration (hplaced readings) reading).freshens (hplaced readings))

end

/-- A call of `shrink_many` on any lists, with any reading of each memcg and any scores that stay
as they are, comes to its end; up to there each memcg that was in a wrong bin makes it start over
at most once, and the memcgs it looked at are in their bins. -/
theorem shrinkMany_ends (score : ℕ → Option (ℕ × Bool)) (switches : Switches) (random : ℕ)
    (lru : Lru) (sc : ScanControl) (hkeyed : Keyed LruEntry.memcg lru.entries)
    (supply : ℕ → ManyReading) :
    let step := manyStep score (lru.seq % memcgNrGens) (firstBinOf switches random)
    let start := shrinkManyStart switches random lru sc
    (∃ n, (after step start (firstInputs supply n)).returned = true) ∧
      ∀ readings, RebinLaw score lru (outputs step start readings) (after step start readings) := by
  intro step start
  have hplaced := shrinkManyStart_wellPlaced switches random sc hkeyed
  have hfirst : firstBinOf switches random < memcgNrBins := hplaced.bin
  have hkeep : ∀ s reading, WellPlaced (lru.seq % memcgNrGens) s →
      WellPlaced (lru.seq % memcgNrGens) (step s reading).2 := fun _ reading hs =>
    (manyStep_iteration hs reading).wellPlaced hs hfirst
  refine ⟨?_, fun readings => (rebinInv_run hplaced hfirst readings).toRebinLaw⟩
  refine exists_done (fun s => s.returned = true) descends_wellFounded
    (rank score (lru.seq % memcgNrGens) (firstBinOf switches random)) hkeep ?_ hplaced supply
  intro s reading hs hreturned
  exact (manyStep_iteration hs reading).descends hs hfirst (Bool.eq_false_iff.2 hreturned)

def lateCold : Lru where
  seq := 4
  entries := [{ memcg := 1, gen := 1, bin := 0 }, { memcg := 2, gen := 1, bin := 5 }]

def lateScore (memcg : ℕ) : Option (ℕ × Bool) := if memcg = 2 then some (0, true) else none

def binOrder : Switches where
  applyMode := true
  reclaimBinEnabled := true

theorem lateCold_ends :
    let step := manyStep lateScore 1 0
    let start := shrinkManyStart binOrder 3 lateCold { priority := 12, mayWritepage := true }
    (∃ n, (after step start (firstInputs (fun _ => {}) n)).returned = true) ∧
      ∀ readings,
        RebinLaw lateScore lateCold (outputs step start readings) (after step start readings) :=
  shrinkMany_ends lateScore binOrder 3 lateCold _ (by decide) fun _ => {}

example :
    (outputs (manyStep lateScore 1 0)
      (shrinkManyStart binOrder 3 lateCold { priority := 12, mayWritepage := true })
      (firstInputs (fun _ => {}) 20)).flatMap restartedBy = [2] := by decide

end Parp.MemcgLru
