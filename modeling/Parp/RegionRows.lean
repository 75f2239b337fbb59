import Parp.RegionWindows

set_option autoImplicit false

namespace Parp.Region

open OrderedDict KeyedBatches List

section

variable (settings : Settings)

/-- No event comes for a window and application after a flush that has found that window expired. -/
def NoLate (calls : List Call) : Prop :=
  ∀ before nowNs after, calls = before ++ .flushExpired nowNs :: after →
    ∀ early ∈ addedIn settings before, ∀ late ∈ addedIn settings after, late.key settings = early.key settings →
      nowNs < (early.key settings).1 + settings.windowNs

def OnePid (calls : List Call) : Prop :=
  ∀ left ∈ addedIn settings calls, ∀ right ∈ addedIn settings calls, left.key settings = right.key settings →
    left.pid = right.pid

def ofKey (key : Key) (taken : List Taken) : List Taken :=
  taken.filter fun event => event.added.key settings = key

def pidsOf (part : List Taken) : Finset ℤ := (part.map fun event => event.added.pid).toFinset

structure RowsExact (taken : List Taken) (written : List Row) : Prop where
  unique : (written.map Row.key).Nodup
  counted : ∀ event ∈ taken, ∃ row ∈ written, row.key = event.added.key settings
  events : ∀ row ∈ written, row.damonEventCount = (ofKey settings row.key taken).length
  parts : ∀ row ∈ written, row.damonEventCount = row.mappedEventCount + row.unmappedEventCount
  pids : ∀ row ∈ written, row.pidCount = (pidsOf (ofKey settings row.key taken)).card
  observers : ∀ row ∈ written, ∀ item ∈ row.regionSparseVector.items,
    item.2.observerProcessCount = (observersOf (ofKey settings row.key taken) item.1).card

end

section

variable {settings : Settings} {s : WindowAggregator} {calls : List Call}

theorem takenFrom_added (hopen : Working settings s)
    (hlive : ∀ call ∈ calls, call.isClose = false) :
    (takenFrom settings s calls).map Taken.added = addedIn settings calls := by
  induction calls generalizing s with
  | nil => rfl
  | cons call calls ih =>
    have hcall := hlive call (.head _)
    rw [takenFrom_cons, map_append,
      ih (hopen.call call hcall) fun other hother => hlive other (.tail _ hother)]
    cases call with
    | addEvent added =>
      unfold takenBy addedIn
      rw [filterMap_cons]
      rcases take_cases settings s added with ⟨text, htake, hcorrupted, hpieces⟩ |
        ⟨taken, vocab, htake, rfl, -, hpieces⟩
      · have hrefused : added.refused settings = true :=
          decide_eq_true ⟨hopen.vocab.symm.trans hcorrupted, hpieces⟩
        simp [htake, hrefused]
      · have htaken : taken.added.refused settings = false :=
          decide_eq_false fun h => h.2 (hpieces (hopen.vocab.trans h.1))
        simp [htake, htaken, hopen.notClosed]
    | flushExpired nowNs => rfl
    | close => cases hcall

theorem items_ne_nil_iff (hopen : Working settings s)
    (hlive : ∀ call ∈ calls, call.isClose = false) (key : Key) :
    itemsOf key (stepsFrom settings s calls) ≠ [] ↔
      ∃ added ∈ addedIn settings calls, added.key settings = key := by
  rw [itemsOf_taken key hopen hlive, ← takenFrom_added hopen hlive, Ne, filter_eq_nil_iff]
  simp

theorem itemsOf_close (key : Key) : itemsOf key (stepsFrom settings s (calls ++ [.close])) =
    itemsOf key (stepsFrom settings s calls) := by
  rw [stepsFrom_append, itemsOf_append]
  exact append_nil _

theorem run_before (hlive : ∀ call ∈ calls, call.isClose = false) :
    ∃ b, Run (stepsFrom settings (.init settings) calls) b ∧
      Refines settings (calls.foldl (WindowAggregator.call settings) (.init settings)) b ∧
      Working settings (calls.foldl (WindowAggregator.call settings) (.init settings)) := by
  obtain ⟨b, hrun, hrefines⟩ := @Refines.run settings _ _ _ _ .nil refines_init ⟨rfl, rfl⟩ hlive
  exact ⟨b, hrun, hrefines⟩

theorem begun_or_flushed {b : Batches Key Taken} {steps : List (Step Key Taken)}
    (hrun : Run steps b) {key : Key} (hitems : itemsOf key steps ≠ []) :
    b.pending key ≠ [] ∨ ∃ keys, Step.flush keys ∈ steps ∧ key ∈ keys := by
  rw [← hrun.flushed, or_iff_not_imp_left, not_not]
  intro hpending
  rw [hrun.items, hpending, append_nil] at hitems
  by_contra hnot
  refine hitems (flatMap_eq_nil_iff.2 fun batch hbatch => ?_)
  obtain ⟨hmem, hsame⟩ := mem_filter.1 hbatch
  exact absurd (of_decide_eq_true hsame ▸ mem_map_of_mem hmem) hnot

theorem NoLate.of_timely
    (h : Timely (stepsFrom settings (.init settings) (live calls ++ [.close]))) :
    NoLate settings (live calls) := by
  intro before nowNs after hcalls early hearly late hlate hsame
  by_contra hexpired
  set key := early.key settings
  have hlive : ∀ call ∈ before, call.isClose = false := fun call hcall =>
    live_not_close call (hcalls ▸ mem_append_left _ hcall)
  have hlive' : ∀ call ∈ after, call.isClose = false := fun call hcall =>
    live_not_close call (hcalls ▸ mem_append_right _ (.tail _ hcall))
  obtain ⟨b, hrun, hrefines, hopen⟩ := @run_before settings _ hlive
  rw [hcalls, append_assoc, cons_append, stepsFrom_append, stepsFrom_cons] at h
  set last := (before.foldl (WindowAggregator.call settings) (.init settings)).call settings
    (.flushExpired nowNs)
  have hafter : itemsOf key (stepsFrom settings last (after ++ [.close])) ≠ [] := by
    rw [itemsOf_close, items_ne_nil_iff (hopen.call _ rfl) hlive']
    exact ⟨late, hlate, hsame⟩
  rcases begun_or_flushed hrun ((items_ne_nil_iff ⟨rfl, rfl⟩ hlive key).2
    ⟨early, hearly, rfl⟩) with
    hpending | ⟨keys, hflush, hkey⟩
  · -- the row is open, so that this flush writes it
    refine hafter (h _ _ _ rfl key (mem_filter.2 ⟨hrefines.mem_sortedKeys.2 hpending, ?_⟩))
    exact decide_eq_true (not_lt.1 hexpired)
  · obtain ⟨first, rest, hsplit⟩ := append_of_mem hflush
    rw [hsplit, append_assoc, cons_append] at h
    have hnone := h _ _ _ rfl key hkey
    rw [itemsOf_append, itemsOf_append, append_eq_nil_iff, append_eq_nil_iff] at hnone
    exact hafter hnone.2.2

theorem NoLate.timely (h : NoLate settings (live calls)) :
    Timely (stepsFrom settings (.init settings) (live calls ++ [.close])) := by
  intro before keys after hsteps key hkey
  obtain ⟨earlier, call, later, hcalls, -, hcall, hafter⟩ := stepsFrom_split hsteps
  rw [← hafter]
  rcases eq_nil_or_concat later with rfl | ⟨later', last, rfl⟩
  · rfl
  · rw [concat_eq_append, ← cons_append, ← append_assoc] at hcalls
    obtain ⟨hlive, hlast⟩ := append_inj' hcalls rfl
    cases hlast
    have hopen := hlive ▸ @live_not_close calls
    obtain ⟨-, -, -, hworking⟩ := @run_before settings (earlier ++ [call]) fun other hother =>
      hopen other (by rw [append_cons]; exact mem_append_left later' hother)
    by_contra hlate
    rw [← Ne, concat_eq_append, itemsOf_close, items_ne_nil_iff hworking fun other hother =>
      hopen other (mem_append_right _ (.tail _ hother))] at hlate
    obtain ⟨late, hlate, hlateKey⟩ := hlate
    cases call with
    | addEvent added =>
      unfold stepOf at hcall
      dsimp only at hcall
      split at hcall
      · cases hcall
        cases hkey
      · cases hcall
    | close => cases hopen .close (by simp)
    | flushExpired nowNs =>
      cases hcall
      obtain ⟨hmem, hexpired⟩ := mem_filter.1 hkey
      have hearlier : ∀ call ∈ earlier, call.isClose = false :=
        fun call hcall => hopen call (mem_append_left _ hcall)
      obtain ⟨b, hrun, hrefines, -⟩ := @run_before settings earlier hearlier
      have hitems : itemsOf key (stepsFrom settings (.init settings) earlier) ≠ [] := by
        rw [hrun.items]
        exact fun hnil => hrefines.mem_sortedKeys.1 hmem (append_eq_nil_iff.1 hnil).2
      obtain ⟨early, hearly, rfl⟩ := (items_ne_nil_iff ⟨rfl, rfl⟩ hearlier key).1 hitems
      have hbefore := h earlier nowNs later' hlive early hearly late hlate hlateKey
      exact absurd (of_decide_eq_true hexpired) (not_le.2 hbefore)

end

section

variable {settings : Settings} {calls : List Call}

theorem Refines.written_row {s : WindowAggregator} {b : Batches Key Taken}
    (h : Refines settings s b) {row : Row} (hrow : row ∈ s.written) :
    ∃ batch ∈ b.written, ∃ made, Describes batch.1 batch.2 made ∧ row = finishRow made := by
  have hwritten := h.written
  generalize b.written = batches at hwritten ⊢
  generalize s.written = rows at hwritten hrow
  induction hwritten with
  | nil => cases hrow
  | @cons batch first batches rows hfirst hrest ih =>
    rcases mem_cons.1 hrow with rfl | hrow
    · obtain ⟨made, hmade, rfl⟩ := hfirst
      exact ⟨batch, .head _, made, describes_rowOf hmade, rfl⟩
    · obtain ⟨other, hother, made, hdescribes⟩ := ih hrow
      exact ⟨other, .tail _ hother, made, hdescribes⟩

theorem Refines.written_keys {s : WindowAggregator} {b : Batches Key Taken}
    (h : Refines settings s b) : s.written.map Row.key = b.written.map Prod.fst := by
  have hwritten := h.written
  generalize b.written = batches at hwritten ⊢
  generalize s.written = rows at hwritten ⊢
  induction hwritten with
  | nil => rfl
  | @cons batch first batches rows hfirst _ ih =>
    obtain ⟨made, hmade, rfl⟩ := hfirst
    have hkey : (finishRow made).key = batch.1 := (describes_rowOf hmade).key
    rw [map_cons, map_cons, hkey, ih]

theorem countP_parts (part : List Taken) :
    part.countP Taken.isMapped + part.countP (fun taken => !taken.isMapped) = part.length := by
  induction part with
  | nil => rfl
  | cons taken part ih =>
    rw [countP_cons, countP_cons, length_cons]
    cases taken.isMapped <;> simp <;> omega

theorem Describes.finished {key : Key} {part : List Taken} {made : Row}
    (h : Describes key part made) :
    ∀ item ∈ (finishRow made).regionSparseVector.items,
      item.2.observerProcessCount = (observersOf part item.1).card := by
  intro item hitem
  obtain ⟨⟨regionId, cell⟩, hcell, rfl⟩ := mem_map.1 hitem
  change cell.observerPids.card = _
  have hpids : pidsAt made.regionSparseVector regionId = cell.observerPids := by
    unfold pidsAt
    rw [Dict.get?_of_mem hcell]
    rfl
  rw [← hpids, h.observers]

theorem card_pidsOf_eq_one_iff {part : List Taken} (hpart : part ≠ []) :
    (pidsOf part).card = 1 ↔
      ∀ left ∈ part, ∀ right ∈ part, left.added.pid = right.added.pid := by
  have hmem : ∀ event ∈ part, event.added.pid ∈ pidsOf part := fun event hevent =>
    mem_toFinset.2 (mem_map_of_mem (f := fun event : Taken => event.added.pid) hevent)
  constructor
  · intro hcard left hleft right hright
    obtain ⟨pid, hpid⟩ := Finset.card_eq_one.1 hcard
    rw [hpid] at hmem
    rw [Finset.mem_singleton.1 (hmem left hleft), Finset.mem_singleton.1 (hmem right hright)]
  · intro hsame
    obtain ⟨first, hfirst⟩ := exists_mem_of_ne_nil part hpart
    refine Finset.card_eq_one.2 ⟨first.added.pid, Finset.eq_singleton_iff_unique_mem.2
      ⟨hmem first hfirst, fun pid hpid => ?_⟩⟩
    obtain ⟨event, hevent, rfl⟩ := mem_map.1 (mem_toFinset.1 hpid)
    exact hsame event hevent first hfirst

theorem items_taken (settings : Settings) (calls : List Call) (key : Key) :
    itemsOf key (stepsFrom settings (.init settings) (live calls ++ [.close])) =
      ofKey settings key (taken settings (live calls)) := by
  rw [itemsOf_close, itemsOf_taken key ⟨rfl, rfl⟩ live_not_close]
  rfl

section

variable {s : WindowAggregator} {b : Batches Key Taken} (h : Refines settings s b)
  (hrun : Run (stepsFrom settings (.init settings) (live calls ++ [.close])) b)
  (hdone : ∀ key, b.pending key = [])

include h hrun hdone

theorem rows_unique_iff : (s.written.map Row.key).Nodup ↔ NoLate settings (live calls) := by
  rw [h.written_keys, hrun.nodup_iff_timely hdone]
  exact ⟨NoLate.of_timely, NoLate.timely⟩

theorem rows_counted {event : Taken} (hevent : event ∈ taken settings (live calls)) :
    ∃ row ∈ s.written, row.key = event.added.key settings := by
  have hsome : itemsOf (event.added.key settings)
      (stepsFrom settings (.init settings) (live calls ++ [.close])) ≠ [] := by
    rw [items_taken]
    exact ne_nil_of_mem (mem_filter.2 ⟨hevent, decide_eq_true rfl⟩)
  have hkey := (begun_or_flushed hrun hsome).resolve_left fun hpending => hpending (hdone _)
  rw [← hrun.flushed, ← h.written_keys] at hkey
  exact mem_map.1 hkey

theorem rows_described (hlate : NoLate settings (live calls)) {row : Row} (hrow : row ∈ s.written) :
    ∃ made, Describes row.key (ofKey settings row.key (taken settings (live calls))) made ∧
      row = finishRow made ∧
      ofKey settings row.key (taken settings (live calls)) ≠ [] := by
  obtain ⟨batch, hbatch, made, hdescribes, rfl⟩ := h.written_row hrow
  have hkey : (finishRow made).key = batch.1 := hdescribes.key
  have hnodup := (rows_unique_iff h hrun hdone).2 hlate
  have hitems := hrun.batch_items (h.written_keys ▸ hnodup) hdone hbatch
  rw [items_taken] at hitems
  rw [hkey, hitems]
  exact ⟨made, hdescribes, rfl, hrun.nonempty batch hbatch⟩

end

theorem ofKey_added {event : Taken} {key : Key}
    (h : event ∈ ofKey settings key (taken settings (live calls))) :
    event.added ∈ addedIn settings (live calls) ∧ event.added.key settings = key := by
  obtain ⟨hmem, hkey⟩ := mem_filter.1 h
  refine ⟨?_, of_decide_eq_true hkey⟩
  rw [← @takenFrom_added settings (.init settings) _ ⟨rfl, rfl⟩ (@live_not_close calls)]
  exact mem_map_of_mem hmem

end

/-- The written rows are exact if and only if nothing is late and each row has one process. -/
theorem rows_exact_iff (settings : Settings) (calls : List Call) :
    RowsExact settings (taken settings calls) (run settings (calls ++ [.close])).written ↔
      NoLate settings (live calls) ∧ OnePid settings (live calls) := by
  obtain ⟨hwritten, htaken⟩ := run_close settings calls
  obtain ⟨b, hrun, hrefines, hdone⟩ := run_live settings calls
  rw [hwritten, htaken]
  have hadded := @takenFrom_added settings (.init settings) _ ⟨rfl, rfl⟩ (@live_not_close calls)
  have hpids : ∀ row ∈ (run settings (live calls ++ [.close])).written, row.pidCount = 1 := by
    intro row hrow
    obtain ⟨batch, -, made, hdescribes, rfl⟩ := hrefines.written_row hrow
    exact hdescribes.pidCount
  constructor
  · intro h
    refine ⟨(rows_unique_iff hrefines hrun hdone).1 h.unique, fun left hleft right hright hsame => ?_⟩
    rw [← hadded] at hleft hright
    obtain ⟨first, hfirst, rfl⟩ := mem_map.1 hleft
    obtain ⟨second, hsecond, rfl⟩ := mem_map.1 hright
    obtain ⟨row, hrow, hkey⟩ := h.counted first hfirst
    have hmem : first ∈ ofKey settings row.key (taken settings (live calls)) :=
      mem_filter.2 ⟨hfirst, decide_eq_true hkey.symm⟩
    have hmem' : second ∈ ofKey settings row.key (taken settings (live calls)) :=
      mem_filter.2 ⟨hsecond, decide_eq_true (hsame.symm.trans hkey.symm)⟩
    have hcard := h.pids row hrow
    rw [hpids row hrow] at hcard
    exact (card_pidsOf_eq_one_iff (ne_nil_of_mem hmem)).1 (by exact_mod_cast hcard.symm) first
      hmem second hmem'
  · rintro ⟨hlate, hpid⟩
    refine ⟨(rows_unique_iff hrefines hrun hdone).2 hlate,
      fun event hevent => rows_counted hrefines hrun hdone hevent, fun row hmem => ?_,
      fun row hmem => ?_, fun row hmem => ?_, fun row hmem => ?_⟩
    · obtain ⟨made, hdescribes, hfinish, -⟩ := rows_described hrefines hrun hdone hlate hmem
      rw [← hdescribes.counted]
      rw [hfinish]
      rfl
    · obtain ⟨made, hdescribes, hfinish, -⟩ := rows_described hrefines hrun hdone hlate hmem
      have hparts := hdescribes.counted
      rw [← countP_parts, ← hdescribes.mapped, ← hdescribes.unmapped] at hparts
      rw [hfinish]
      exact hparts
    · obtain ⟨made, hdescribes, hfinish, hpart⟩ := rows_described hrefines hrun hdone hlate hmem
      have hcard := (card_pidsOf_eq_one_iff hpart).2 fun left hleft right hright => by
        obtain ⟨hleft', hleftKey⟩ := ofKey_added hleft
        obtain ⟨hright', hrightKey⟩ := ofKey_added hright
        exact hpid _ hleft' _ hright' (hleftKey.trans hrightKey.symm)
      rw [hpids row hmem, hcard]
      rfl
    · obtain ⟨made, hdescribes, hfinish, -⟩ := rows_described hrefines hrun hdone hlate hmem
      intro item hitem
      rw [hfinish] at hitem
      exact hdescribes.finished item hitem

def unmappedAccess (timestampNs pid : ℤ) : Added where
  appId := "WPS"
  foregroundEpochId := "e1"
  event := { timestampNs := timestampNs, start := 0x1000, stop := 0x2000, nrAccesses := 1, age := 0 }
  pid := pid
  processRole := "main"
  index := .ofRecords []

def secondWindows : Settings where
  bucketBytes := 262144
  windowNs := 1000000000
  bucketPositive := by decide
  windowPositive := by decide

/-- Two processes of an application in one window: their row says one. -/
theorem second_pid_uncounted :
    ¬ RowsExact secondWindows
      (taken secondWindows [.addEvent (unmappedAccess 100 41), .addEvent (unmappedAccess 200 42)])
      (run secondWindows ([.addEvent (unmappedAccess 100 41), .addEvent (unmappedAccess 200 42)] ++
        [.close])).written := by
  intro h
  have hrow : (run secondWindows ([.addEvent (unmappedAccess 100 41),
      .addEvent (unmappedAccess 200 42)] ++ [.close])).written.map
        (fun row => (row.key, row.pidCount)) = [((0, "WPS"), 1)] := by decide
  obtain ⟨row, hrun, hkey⟩ := map_eq_singleton_iff.1 hrow
  rw [Prod.mk.injEq] at hkey
  have hpids := h.pids row (by rw [hrun]; exact .head _)
  rw [hkey.1, hkey.2] at hpids
  have hpair : (pidsOf (ofKey secondWindows (0, "WPS") (taken secondWindows
      [.addEvent (unmappedAccess 100 41), .addEvent (unmappedAccess 200 42)]))).card = 2 := by
    decide
  rw [hpair] at hpids
  exact absurd hpids (by decide)

end Parp.Region
