import Mathlib.Data.Finset.Card
import Mathlib.Data.List.TakeWhile
import Mathlib.Data.String.Basic
import Parp.KeyedBatches
import Parp.RegionObservations

set_option autoImplicit false

/-!
# Region windows

`WindowAggregator` of the region monitor: one open row for each window and application that events
have come for, which a flush by the wall clock writes out. The floats are rationals.
-/
namespace Parp.Region

open OrderedDict List

/-- What the aggregator is made with: `windowNs` is `int(window_ms * 1_000_000)`. -/
structure Settings where
  vocab : RegionVocab := {}
  bucketBytes : ℤ
  windowNs : ℤ
  bucketPositive : 0 < bucketBytes
  windowPositive : 0 < windowNs

structure Cell where
  regionId : ℤ
  regionType : MappingType
  weightedAccesses : ℚ := 0
  accessRate : ℚ := 0
  age : ℤ
  observedBytes : ℤ := 0
  resolutionConfidence : ℚ
  identityConfidence : IdentityConfidence
  processRole : String
  canonicalRegionId : ℤ
  observerProcessCount : ℕ := 0
  observerPids : Finset ℤ := ∅

structure Row where
  windowStartNs : ℤ
  windowEndNs : ℤ
  appId : String
  foregroundEpochId : String
  pidCount : ℤ := 0
  pidRoles : Finset String := ∅
  damonEventCount : ℕ := 0
  mappedEventCount : ℕ := 0
  unmappedEventCount : ℕ := 0
  lowResolutionEventCount : ℕ := 0
  regionSparseVector : Dict ℤ Cell := ∅
  collectionQuality : String := "OK"

/-- The window start and the application of a row. -/
abbrev Key := ℤ × String

def Row.key (row : Row) : Key := (row.windowStartNs, row.appId)

/-- The arguments of `add_event`. -/
structure Added where
  appId : String
  foregroundEpochId : String
  event : DamonEvent
  pid : ℤ
  processRole : String
  index : VMAIntervalIndex

structure Taken where
  added : Added
  observations : List RegionObservation

section

variable (settings : Settings)

def Added.key (added : Added) : Key :=
  (added.event.timestampNs - added.event.timestampNs % settings.windowNs, added.appId)

def Taken.isMapped (taken : Taken) : Bool := taken.observations ≠ []

def Taken.isLow (taken : Taken) : Bool := taken.observations.any RegionObservation.lowResolution

/-- The row that `setdefault` puts in. -/
def newRow (key : Key) (added : Added) : Row where
  windowStartNs := key.1
  windowEndNs := key.1 + settings.windowNs
  appId := key.2
  foregroundEpochId := added.foregroundEpochId

def newCell (observation : RegionObservation) : Cell where
  regionId := observation.regionId
  regionType := observation.regionType
  age := observation.age
  resolutionConfidence := observation.resolutionConfidence
  identityConfidence := observation.identityConfidence
  processRole := observation.processRole
  canonicalRegionId := observation.canonicalRegionId

def noteObservation (pid : ℤ) (cells : Dict ℤ Cell) (observation : RegionObservation) :
    Dict ℤ Cell :=
  let cell := (cells.get? observation.regionId).getD (newCell observation)
  cells.set observation.regionId
    { cell with
      weightedAccesses := cell.weightedAccesses + observation.weightedAccesses
      observedBytes := cell.observedBytes + observation.observedBytes
      resolutionConfidence := min cell.resolutionConfidence observation.resolutionConfidence
      observerPids := insert pid cell.observerPids }

/-- What `add_event` does to the row of its event. -/
def noteEvent (row : Row) (taken : Taken) : Row :=
  { row with
    damonEventCount := row.damonEventCount + 1
    mappedEventCount := row.mappedEventCount + if taken.isMapped then 1 else 0
    unmappedEventCount := row.unmappedEventCount + if taken.isMapped then 0 else 1
    lowResolutionEventCount := row.lowResolutionEventCount + if taken.isLow then 1 else 0
    pidRoles := insert taken.added.processRole row.pidRoles
    pidCount := max row.pidCount 1
    regionSparseVector :=
      taken.observations.foldl (noteObservation taken.added.pid) row.regionSparseVector }

def finishCell (durationS : ℚ) (cell : Cell) : Cell :=
  { cell with
    observerProcessCount := cell.observerPids.card
    observerPids := ∅
    accessRate := cell.weightedAccesses / durationS }

def finishRow (row : Row) : Row :=
  let durationS : ℚ := max (1 / 1000) ((row.windowEndNs - row.windowStartNs) / 1000000000)
  { row with
    regionSparseVector :=
      { items := row.regionSparseVector.items.map fun item => (item.1, finishCell durationS item.2)
        nodup := by
          rw [map_map]
          exact row.regionSparseVector.nodup } }

end

structure WindowAggregator where
  vocab : RegionVocab
  rows : Dict Key Row := ∅
  written : List Row := []
  totalEvents : ℕ := 0
  mappedEvents : ℕ := 0
  unmappedEvents : ℕ := 0
  lowResolutionEvents : ℕ := 0
  closed : Bool := false

section

variable (settings : Settings)

def WindowAggregator.init : WindowAggregator := { vocab := settings.vocab }

def WindowAggregator.take (s : WindowAggregator) (added : Added) :
    Except String (Taken × RegionVocab) := do
  let mapped ← mapEventToRegions added.appId added.event added.index s.vocab settings.bucketBytes
  return (⟨added, mapped.1⟩, mapped.2)

def WindowAggregator.count (s : WindowAggregator) (taken : Taken) (vocab : RegionVocab) :
    WindowAggregator :=
  { s with
    vocab := vocab
    totalEvents := s.totalEvents + 1
    mappedEvents := s.mappedEvents + if taken.isMapped then 1 else 0
    unmappedEvents := s.unmappedEvents + if taken.isMapped then 0 else 1
    lowResolutionEvents := s.lowResolutionEvents + if taken.isLow then 1 else 0 }

def WindowAggregator.note (s : WindowAggregator) (key : Key) (taken : Taken) : WindowAggregator :=
  { s with
    rows := s.rows.set key
      (noteEvent ((s.rows.get? key).getD (newRow settings key taken.added)) taken) }

def WindowAggregator.addEvent (s : WindowAggregator) (added : Added) : WindowAggregator :=
  match s.take settings added with
  | .error _ => { s with totalEvents := s.totalEvents + 1 }
  | .ok (taken, vocab) =>
    let counted := s.count taken vocab
    if s.closed then counted else counted.note settings (added.key settings) taken

/-- `_flush_key`. -/
def WindowAggregator.flushKey (s : WindowAggregator) (key : Key) : WindowAggregator :=
  match s.rows.get? key with
  | none => s
  | some row => { s with rows := s.rows.erase key, written := s.written ++ [finishRow row] }

/-- `sorted(list(self.rows))`. -/
def WindowAggregator.sortedKeys (s : WindowAggregator) : List Key :=
  (s.rows.items.map Prod.fst).insertionSort fun l r => l.1 < r.1 ∨ l.1 = r.1 ∧ l.2 ≤ r.2

def expired (nowNs : ℤ) (key : Key) : Bool := key.1 + settings.windowNs ≤ nowNs

def WindowAggregator.flushExpired (s : WindowAggregator) (nowNs : ℤ) : WindowAggregator :=
  (s.sortedKeys.filter (expired settings nowNs)).foldl WindowAggregator.flushKey s

def WindowAggregator.flushAll (s : WindowAggregator) : WindowAggregator :=
  s.sortedKeys.foldl WindowAggregator.flushKey s

def WindowAggregator.close (s : WindowAggregator) : WindowAggregator :=
  { s.flushAll with closed := true }

/-- A call; `nowNs` is the argument or what `time.time_ns()` says instead. -/
inductive Call
  | addEvent (added : Added)
  | flushExpired (nowNs : ℤ)
  | close

def WindowAggregator.call (s : WindowAggregator) : Call → WindowAggregator
  | .addEvent added => s.addEvent settings added
  | .flushExpired nowNs => s.flushExpired settings nowNs
  | .close => s.close

def run (calls : List Call) : WindowAggregator :=
  calls.foldl (WindowAggregator.call settings) (.init settings)

end

/-!
# Rows of region windows
-/

open KeyedBatches

section

variable {settings : Settings} {key : Key}

def Taken.observes (taken : Taken) (regionId : ℤ) : Bool :=
  taken.observations.any fun observation => observation.regionId = regionId

def observersOf (part : List Taken) (regionId : ℤ) : Finset ℤ :=
  ((part.filter fun taken => taken.observes regionId).map fun taken => taken.added.pid).toFinset

def pidsAt (cells : Dict ℤ Cell) (regionId : ℤ) : Finset ℤ :=
  ((cells.get? regionId).map Cell.observerPids).getD ∅

theorem pidsAt_noteObservation (pid : ℤ) (cells : Dict ℤ Cell) (observation : RegionObservation)
    (regionId : ℤ) : pidsAt (noteObservation pid cells observation) regionId =
      if observation.regionId = regionId then insert pid (pidsAt cells regionId)
      else pidsAt cells regionId := by
  unfold pidsAt noteObservation
  dsimp only
  rw [Dict.get?_set]
  by_cases hsame : observation.regionId = regionId
  · subst hsame
    rw [if_pos rfl, if_pos rfl]
    cases cells.get? observation.regionId <;> rfl
  · rw [if_neg hsame, if_neg fun h => hsame h.symm]

theorem pidsAt_foldl (pid : ℤ) (observations : List RegionObservation) (cells : Dict ℤ Cell)
    (regionId : ℤ) : pidsAt (observations.foldl (noteObservation pid) cells) regionId =
      if observations.any fun observation => observation.regionId = regionId then
        insert pid (pidsAt cells regionId)
      else pidsAt cells regionId := by
  induction observations generalizing cells with
  | nil => rfl
  | cons observation observations ih =>
    rw [foldl_cons, ih, pidsAt_noteObservation, any_cons]
    by_cases hfirst : observation.regionId = regionId
    · rw [if_pos hfirst, decide_eq_true hfirst, Bool.true_or, if_pos rfl, Finset.insert_idem,
        ite_self]
    · rw [if_neg hfirst, decide_eq_false hfirst, Bool.false_or]

theorem observersOf_concat (part : List Taken) (taken : Taken) (regionId : ℤ) :
    observersOf (part ++ [taken]) regionId =
      if taken.observes regionId then insert taken.added.pid (observersOf part regionId)
      else observersOf part regionId := by
  unfold observersOf
  rw [filter_append]
  split_ifs with hobserved
  · rw [filter_cons_of_pos (p := fun taken : Taken => taken.observes regionId) hobserved,
      map_append, toFinset_append, Finset.union_comm]
    rfl
  · rw [filter_cons_of_neg (p := fun taken : Taken => taken.observes regionId) hobserved,
      filter_nil, append_nil]

def rowOf (settings : Settings) (key : Key) : List Taken → Option Row
  | [] => none
  | first :: rest => some ((first :: rest).foldl noteEvent (newRow settings key first.added))

theorem rowOf_concat (part : List Taken) (taken : Taken) :
    rowOf settings key (part ++ [taken]) =
      some (noteEvent ((rowOf settings key part).getD (newRow settings key taken.added)) taken) := by
  cases part with
  | nil => rfl
  | cons first rest =>
    change some (((first :: rest) ++ [taken]).foldl noteEvent _) = _
    rw [foldl_append]
    rfl

theorem rowOf_eq_none_iff {part : List Taken} : rowOf settings key part = none ↔ part = [] := by
  cases part with
  | nil => exact ⟨fun _ => rfl, fun _ => rfl⟩
  | cons first rest => exact ⟨nofun, nofun⟩

structure Describes (key : Key) (part : List Taken) (row : Row) : Prop where
  key : row.key = key
  counted : row.damonEventCount = part.length
  mapped : row.mappedEventCount = part.countP Taken.isMapped
  unmapped : row.unmappedEventCount = part.countP fun taken => !taken.isMapped
  pidCount : row.pidCount = 1
  observers : ∀ regionId, pidsAt row.regionSparseVector regionId = observersOf part regionId

theorem describes_rowOf {part : List Taken} {row : Row} (h : rowOf settings key part = some row) :
    Describes key part row := by
  induction part using List.reverseRecOn generalizing row with
  | nil => cases h
  | append_singleton part taken ih =>
    rw [rowOf_concat] at h
    cases h
    cases hrow : rowOf settings key part with
    | none =>
      rw [rowOf_eq_none_iff.1 hrow]
      refine ⟨rfl, rfl, ?_, ?_, rfl, fun regionId => ?_⟩
      · change 0 + _ = _
        rw [Nat.zero_add, nil_append, countP_singleton]
      · change 0 + _ = _
        rw [Nat.zero_add, nil_append, countP_singleton]
        cases taken.isMapped <;> rfl
      · exact (pidsAt_foldl _ _ _ _).trans (observersOf_concat [] taken regionId).symm
    | some before =>
      have hbefore := ih hrow
      refine ⟨hbefore.key, ?_, ?_, ?_, ?_, fun regionId => ?_⟩
      · change before.damonEventCount + 1 = _
        rw [hbefore.counted, length_append, length_singleton]
      · change before.mappedEventCount + _ = _
        rw [hbefore.mapped, countP_append, countP_singleton]
      · change before.unmappedEventCount + _ = _
        rw [hbefore.unmapped, countP_append, countP_singleton]
        cases taken.isMapped <;> rfl
      · change max before.pidCount 1 = 1
        rw [hbefore.pidCount]
        rfl
      · refine (pidsAt_foldl _ _ _ _).trans ?_
        rw [observersOf_concat, ← hbefore.observers]
        rfl

end

section

variable {settings : Settings} {s : WindowAggregator} {b : Batches Key Taken}

/-- The open rows are those of the pending batches, the written ones those of the written. -/
structure Refines (settings : Settings) (s : WindowAggregator) (b : Batches Key Taken) : Prop where
  rows : ∀ key, s.rows.get? key = rowOf settings key (b.pending key)
  written : List.Forall₂ (fun batch row => ∃ made,
    rowOf settings batch.1 batch.2 = some made ∧ row = finishRow made) b.written s.written

theorem refines_init : Refines settings (.init settings) {} := ⟨fun _ => rfl, .nil⟩

theorem Refines.note (h : Refines settings s b) (key : Key) (taken : Taken) (vocab : RegionVocab) :
    Refines settings ((s.count taken vocab).note settings key taken)
      (b.step (.add key taken)) := by
  refine ⟨fun other => ?_, h.written⟩
  change (s.rows.set key _).get? other =
    rowOf settings other (Function.update b.pending key (b.pending key ++ [taken]) other)
  rw [Dict.get?_set, Function.update_apply]
  by_cases hother : other = key
  · subst hother
    rw [if_pos rfl, if_pos rfl, rowOf_concat, ← h.rows]
    rfl
  · rw [if_neg hother, if_neg hother]
    exact h.rows other

theorem Refines.flushKey (h : Refines settings s b) {key : Key} (hpending : b.pending key ≠ []) :
    Refines settings (s.flushKey key) (b.step (.flush [key])) := by
  obtain ⟨row, hrow⟩ := Option.ne_none_iff_exists'.1 (mt rowOf_eq_none_iff.1 hpending)
  have hflush : s.flushKey key =
      { s with rows := s.rows.erase key, written := s.written ++ [finishRow row] } := by
    unfold WindowAggregator.flushKey
    rw [h.rows, hrow]
  rw [hflush]
  refine ⟨fun other => ?_, ?_⟩
  · change (s.rows.erase key).get? other = _
    rw [Dict.get?_erase]
    by_cases hother : other = key
    · rw [if_pos hother, flush_pending_of_mem b (mem_singleton.2 hother)]
      rfl
    · rw [if_neg hother, flush_pending_of_notMem b (mt mem_singleton.1 hother)]
      exact h.rows other
  · exact rel_append h.written (.cons ⟨row, hrow, rfl⟩ .nil)

theorem Refines.flushKeys (h : Refines settings s b) {keys : List Key} (hnodup : keys.Nodup)
    (hpending : ∀ key ∈ keys, b.pending key ≠ []) :
    Refines settings (keys.foldl WindowAggregator.flushKey s) (b.step (.flush keys)) := by
  induction keys generalizing s b with
  | nil =>
    rw [flush_nil]
    exact h
  | cons key keys ih =>
    obtain ⟨hnot, hnodup'⟩ := nodup_cons.1 hnodup
    rw [foldl_cons, ← flush_cons b hnot]
    refine ih (h.flushKey (hpending key (.head _))) hnodup' fun other hother => ?_
    have hapart : other ∉ [key] := by
      intro hsame
      exact hnot (mem_singleton.1 hsame ▸ hother)
    rw [flush_pending_of_notMem b hapart]
    exact hpending other (.tail _ hother)

theorem sortedKeys_nodup (s : WindowAggregator) : s.sortedKeys.Nodup :=
  ((perm_insertionSort _ _).nodup_iff).2 s.rows.nodup

theorem Refines.mem_sortedKeys (h : Refines settings s b) {key : Key} :
    key ∈ s.sortedKeys ↔ b.pending key ≠ [] := by
  rw [Ne, ← @rowOf_eq_none_iff settings key, ← h.rows]
  refine (mem_insertionSort _).trans ⟨fun hmem hnone => ?_, fun hsome => ?_⟩
  · obtain ⟨item, hitem, rfl⟩ := mem_map.1 hmem
    cases hnone.symm.trans (Dict.get?_of_mem hitem)
  · obtain ⟨row, hrow⟩ := Option.ne_none_iff_exists'.1 hsome
    exact mem_map_of_mem (Dict.mem_of_get? hrow)

variable (settings) in
def stepOf (s : WindowAggregator) : Call → Step Key Taken
  | .addEvent added =>
    match s.take settings added with
    | .error _ => .flush []
    | .ok (taken, _) => .add (added.key settings) taken
  | .flushExpired nowNs => .flush (s.sortedKeys.filter (expired settings nowNs))
  | .close => .flush s.sortedKeys

theorem Refines.allows (h : Refines settings s b) (call : Call) :
    b.Allows (stepOf settings s call) := by
  cases call with
  | addEvent added =>
    unfold stepOf
    dsimp only
    split
    · exact ⟨nodup_nil, nofun⟩
    · trivial
  | flushExpired nowNs =>
    refine ⟨(sortedKeys_nodup s).filter _, fun key hkey => ?_⟩
    exact h.mem_sortedKeys.1 (mem_filter.1 hkey).1
  | close => exact ⟨sortedKeys_nodup s, fun key hkey => h.mem_sortedKeys.1 hkey⟩

theorem Refines.call (h : Refines settings s b) (hopen : s.closed = false) (call : Call) :
    Refines settings (s.call settings call) (b.step (stepOf settings s call)) := by
  cases call with
  | addEvent added =>
    change Refines settings (s.addEvent settings added) _
    unfold WindowAggregator.addEvent stepOf
    dsimp only
    cases s.take settings added with
    | error text =>
      rw [flush_nil]
      exact ⟨h.rows, h.written⟩
    | ok done =>
      dsimp only
      rw [if_neg (by simp [hopen])]
      exact h.note _ _ _
  | flushExpired nowNs =>
    obtain ⟨hnodup, hpending⟩ := h.allows (.flushExpired nowNs)
    exact h.flushKeys hnodup hpending
  | close =>
    obtain ⟨hnodup, hpending⟩ := h.allows .close
    have hflushed := h.flushKeys hnodup hpending
    exact ⟨hflushed.rows, hflushed.written⟩

end

section

variable (settings : Settings)

def Call.isClose : Call → Bool
  | .close => true
  | _ => false

def live (calls : List Call) : List Call := calls.takeWhile fun call => !call.isClose

/-- A corrupted vocabulary refuses an event with bytes in a VMA. -/
def Added.refused (added : Added) : Bool :=
  settings.vocab.corrupted ∧ eventPieces added.event added.index settings.bucketBytes ≠ []

def addedIn (calls : List Call) : List Added :=
  calls.filterMap fun
    | .addEvent added => if added.refused settings then none else some added
    | _ => none

def takenBy (s : WindowAggregator) : Call → List Taken
  | .addEvent added =>
    match s.take settings added with
    | .error _ => []
    | .ok (taken, _) => if s.closed then [] else [taken]
  | _ => []

/-- The events that `add_event` takes from `s` on. -/
def takenFrom (s : WindowAggregator) : List Call → List Taken
  | [] => []
  | call :: calls => takenBy settings s call ++ takenFrom (s.call settings call) calls

def taken (calls : List Call) : List Taken := takenFrom settings (.init settings) calls

/-- The steps of the batches from `s` on. -/
def stepsFrom (s : WindowAggregator) : List Call → List (Step Key Taken)
  | [] => []
  | call :: calls => stepOf settings s call :: stepsFrom (s.call settings call) calls

variable {settings} {s : WindowAggregator} {calls : List Call}

theorem live_not_close : ∀ call ∈ live calls, call.isClose = false := by
  intro call hcall
  simpa using mem_takeWhile_imp hcall

theorem flushKeys_frame (keys : List Key) (s : WindowAggregator) :
    (keys.foldl WindowAggregator.flushKey s).closed = s.closed ∧
      (keys.foldl WindowAggregator.flushKey s).vocab = s.vocab := by
  induction keys generalizing s with
  | nil => exact ⟨rfl, rfl⟩
  | cons key keys ih =>
    rw [foldl_cons, (ih _).1, (ih _).2]
    unfold WindowAggregator.flushKey
    split <;> exact ⟨rfl, rfl⟩

theorem take_cases (settings : Settings) (s : WindowAggregator) (added : Added) :
    (∃ text, s.take settings added = .error text ∧ s.vocab.corrupted = true ∧
      eventPieces added.event added.index settings.bucketBytes ≠ []) ∨
    ∃ taken vocab, s.take settings added = .ok (taken, vocab) ∧ taken.added = added ∧
      vocab.corrupted = s.vocab.corrupted ∧ (s.vocab.corrupted = true →
        eventPieces added.event added.index settings.bucketBytes = []) := by
  unfold WindowAggregator.take
  cases hmap : mapEventToRegions added.appId added.event added.index s.vocab
    settings.bucketBytes with
  | error text => exact .inl ⟨text, rfl, mapEventToRegions_error hmap⟩
  | ok mapped => exact .inr ⟨_, _, rfl, rfl, mapEventToRegions_ok hmap⟩

structure Working (settings : Settings) (s : WindowAggregator) : Prop where
  notClosed : s.closed = false
  vocab : s.vocab.corrupted = settings.vocab.corrupted

theorem Working.call (h : Working settings s) (call : Call) (hcall : call.isClose = false) :
    Working settings (s.call settings call) := by
  cases call with
  | addEvent added =>
    change Working settings (s.addEvent settings added)
    unfold WindowAggregator.addEvent
    rcases take_cases settings s added with ⟨text, htake, -⟩ | ⟨taken, vocab, htake, -, hvocab, -⟩
    · rw [htake]
      exact ⟨h.notClosed, h.vocab⟩
    · rw [htake]
      dsimp only
      rw [if_neg (by simp [h.notClosed])]
      exact ⟨h.notClosed, hvocab.trans h.vocab⟩
  | flushExpired nowNs =>
    obtain ⟨hclosed, hvocab⟩ := flushKeys_frame (s.sortedKeys.filter (expired settings nowNs)) s
    exact ⟨hclosed.trans h.notClosed, (congrArg _ hvocab).trans h.vocab⟩
  | close => cases hcall

theorem takenFrom_cons (s : WindowAggregator) (call : Call) (calls : List Call) :
    takenFrom settings s (call :: calls) =
      takenBy settings s call ++ takenFrom settings (s.call settings call) calls := rfl

theorem stepsFrom_cons (s : WindowAggregator) (call : Call) (calls : List Call) :
    stepsFrom settings s (call :: calls) =
      [stepOf settings s call] ++ stepsFrom settings (s.call settings call) calls := rfl

theorem stepsFrom_append (s : WindowAggregator) (left right : List Call) :
    stepsFrom settings s (left ++ right) =
      stepsFrom settings s left ++
        stepsFrom settings (left.foldl (WindowAggregator.call settings) s) right := by
  induction left generalizing s with
  | nil => rfl
  | cons call left ih => exact congrArg (_ :: ·) (ih _)

theorem stepsFrom_split {before after : List (Step Key Taken)} {step : Step Key Taken}
    (h : stepsFrom settings s calls = before ++ step :: after) :
    ∃ earlier call later, calls = earlier ++ call :: later ∧
      stepsFrom settings s earlier = before ∧
      stepOf settings (earlier.foldl (WindowAggregator.call settings) s) call = step ∧
      stepsFrom settings ((earlier ++ [call]).foldl (WindowAggregator.call settings) s) later =
        after := by
  induction calls generalizing s before with
  | nil => simp [stepsFrom] at h
  | cons call calls ih =>
    cases before with
    | nil =>
      rw [stepsFrom, nil_append, List.cons.injEq] at h
      exact ⟨[], call, calls, rfl, rfl, h.1, h.2⟩
    | cons first before =>
      rw [stepsFrom, cons_append, List.cons.injEq] at h
      obtain ⟨earlier, other, later, rfl, hbefore, hstep, hafter⟩ := ih h.2
      exact ⟨call :: earlier, other, later, rfl, congrArg₂ List.cons h.1 hbefore, hstep, hafter⟩

theorem itemsOf_taken (key : Key) (hopen : Working settings s)
    (hlive : ∀ call ∈ calls, call.isClose = false) :
    itemsOf key (stepsFrom settings s calls) =
      (takenFrom settings s calls).filter fun taken => taken.added.key settings = key := by
  induction calls generalizing s with
  | nil => rfl
  | cons call calls ih =>
    have hcall := hlive call (.head _)
    rw [stepsFrom_cons, itemsOf_append,
      ih (hopen.call call hcall) fun other hother => hlive other (.tail _ hother)]
    rw [takenFrom_cons, filter_append]
    congr 1
    cases call with
    | addEvent added =>
      unfold stepOf takenBy
      dsimp only
      rcases take_cases settings s added with ⟨text, htake, -⟩ | ⟨taken, vocab, htake, rfl, -⟩
      · rw [htake]
        rfl
      · rw [htake]
        dsimp only
        rw [itemsOf_add, if_neg (by simp [hopen.notClosed] : ¬ s.closed = true), filter_singleton,
          Bool.cond_decide]
    | flushExpired nowNs => rfl
    | close => cases hcall

theorem Refines.run {b : Batches Key Taken} {steps : List (Step Key Taken)} (hrun : Run steps b)
    (h : Refines settings s b) (hopen : Working settings s)
    (hlive : ∀ call ∈ calls, call.isClose = false) :
    ∃ b', Run (steps ++ stepsFrom settings s calls) b' ∧
      Refines settings (calls.foldl (WindowAggregator.call settings) s) b' ∧
      Working settings (calls.foldl (WindowAggregator.call settings) s) := by
  induction calls generalizing s b steps with
  | nil =>
    rw [stepsFrom, append_nil]
    exact ⟨b, hrun, h, hopen⟩
  | cons call calls ih =>
    obtain ⟨b', hrun', hrefines, hopen'⟩ := ih (hrun.snoc (h.allows call))
      (h.call hopen.notClosed call) (hopen.call call (hlive call (.head _)))
      fun other hother => hlive other (.tail _ hother)
    refine ⟨b', ?_, hrefines, hopen'⟩
    rw [append_assoc] at hrun'
    exact hrun'

theorem run_live (settings : Settings) (calls : List Call) :
    ∃ b, Run (stepsFrom settings (.init settings) (live calls ++ [.close])) b ∧
      Refines settings (run settings (live calls ++ [.close])) b ∧
      ∀ key, b.pending key = [] := by
  obtain ⟨b, hrun, hrefines, hopen⟩ := @Refines.run settings _ _ _ _ .nil refines_init
    ⟨rfl, rfl⟩ (@live_not_close calls)
  rw [nil_append] at hrun
  have hclose := hrefines.call hopen.notClosed .close
  have hallows := hrefines.allows .close
  refine ⟨b.step (stepOf settings ((live calls).foldl (WindowAggregator.call settings)
    (.init settings)) .close), ?_, ?_, fun key => ?_⟩
  · rw [stepsFrom_append]
    exact hrun.snoc hallows
  · unfold Region.run
    rw [foldl_append]
    exact hclose
  · by_cases hkey : b.pending key = []
    · rw [← hkey]
      exact flush_pending_of_notMem b (mt hrefines.mem_sortedKeys.1 (not_not.2 hkey))
    · exact flush_pending_of_mem b (hrefines.mem_sortedKeys.2 hkey)

theorem sortedKeys_empty (hempty : ∀ key, s.rows.get? key = none) : s.sortedKeys = [] := by
  refine eq_nil_iff_forall_not_mem.2 fun key hkey => ?_
  obtain ⟨item, hitem, rfl⟩ := mem_map.1 ((mem_insertionSort _).1 hkey)
  cases (hempty item.1).symm.trans (Dict.get?_of_mem hitem)

theorem closed_run (hclosed : s.closed = true) (hempty : ∀ key, s.rows.get? key = none)
    (calls : List Call) :
    (calls.foldl (WindowAggregator.call settings) s).written = s.written ∧
      takenFrom settings s calls = [] := by
  induction calls generalizing s with
  | nil => exact ⟨rfl, rfl⟩
  | cons call calls ih =>
    have hstep : (s.call settings call).written = s.written ∧
        (s.call settings call).rows = s.rows ∧ (s.call settings call).closed = true := by
      cases call with
      | addEvent added =>
        change (s.addEvent settings added).written = _ ∧ (s.addEvent settings added).rows = _ ∧
          (s.addEvent settings added).closed = true
        unfold WindowAggregator.addEvent
        cases s.take settings added with
        | error text => exact ⟨rfl, rfl, hclosed⟩
        | ok done =>
          dsimp only
          rw [if_pos hclosed]
          exact ⟨rfl, rfl, hclosed⟩
      | flushExpired nowNs =>
        change (s.flushExpired settings nowNs).written = _ ∧
          (s.flushExpired settings nowNs).rows = _ ∧
          (s.flushExpired settings nowNs).closed = true
        unfold WindowAggregator.flushExpired
        rw [sortedKeys_empty hempty]
        exact ⟨rfl, rfl, hclosed⟩
      | close =>
        change s.close.written = _ ∧ s.close.rows = _ ∧ s.close.closed = true
        unfold WindowAggregator.close WindowAggregator.flushAll
        rw [sortedKeys_empty hempty]
        exact ⟨rfl, rfl, rfl⟩
    obtain ⟨hwritten, hrows, hclosed'⟩ := hstep
    obtain ⟨hrest, htaken⟩ := ih hclosed' fun key => by rw [hrows, hempty]
    refine ⟨hrest.trans hwritten, ?_⟩
    rw [takenFrom_cons, htaken, append_nil]
    cases call with
    | addEvent added =>
      unfold takenBy
      dsimp only
      cases s.take settings added with
      | error text => rfl
      | ok done => exact if_pos hclosed
    | flushExpired nowNs => rfl
    | close => rfl

theorem takenFrom_append (s : WindowAggregator) (left right : List Call) :
    takenFrom settings s (left ++ right) = takenFrom settings s left ++
      takenFrom settings (left.foldl (WindowAggregator.call settings) s) right := by
  induction left generalizing s with
  | nil => rfl
  | cons call left ih =>
    rw [cons_append, takenFrom_cons, takenFrom_cons, ih, append_assoc]
    rfl

theorem run_close (settings : Settings) (calls : List Call) :
    (run settings (calls ++ [.close])).written =
        (run settings (live calls ++ [.close])).written ∧
      taken settings calls = taken settings (live calls) := by
  obtain ⟨b, -, hrefines, hdone⟩ := run_live settings calls
  have hempty : ∀ key, (run settings (live calls ++ [.close])).rows.get? key = none := by
    intro key
    rw [hrefines.rows, hdone]
    rfl
  have hclosed : (run settings (live calls ++ [.close])).closed = true := by
    unfold Region.run
    rw [foldl_append]
    rfl
  have hsplit := takeWhile_append_dropWhile (p := fun call : Call => !call.isClose) (l := calls)
  cases hrest : calls.dropWhile fun call => !call.isClose with
  | nil =>
    rw [hrest, append_nil] at hsplit
    have hsame : live calls = calls := hsplit
    rw [hsame]
    exact ⟨rfl, rfl⟩
  | cons call rest =>
    have hcall := head?_dropWhile_not (fun call : Call => !call.isClose) calls
    rw [hrest] at hcall hsplit
    cases call with
    | addEvent added => simp [Call.isClose] at hcall
    | flushExpired nowNs => simp [Call.isClose] at hcall
    | close =>
      have hcalls : calls = live calls ++ [.close] ++ rest := by
        rw [append_assoc]
        exact hsplit.symm
      obtain ⟨hwritten, -⟩ := @closed_run settings _ hclosed hempty (rest ++ [.close])
      obtain ⟨-, htaken⟩ := @closed_run settings _ hclosed hempty rest
      constructor
      · rw [← hwritten]
        unfold Region.run
        rw [← foldl_append, ← append_assoc, ← hcalls]
      · change takenFrom settings (.init settings) calls = _
        conv_lhs => rw [hcalls]
        rw [takenFrom_append, takenFrom_append]
        change _ ++ [] ++ takenFrom settings (run settings (live calls ++ [.close])) rest = _
        rw [htaken, append_nil, append_nil]
        rfl

end

end Parp.Region
