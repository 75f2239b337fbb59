import Mathlib.Data.List.TakeWhile
import Parp.PageHotsetRuns
import Parp.StepTimeline

set_option autoImplicit false

/-!
# Timelines of the page hot-set shadow
-/
namespace Parp.PageHotset

open EbpfFileEvents StepTimeline List

variable {α β : Type} {value : α → β}

section

variable [DecidableEq β]

theorem compacted_sublist (last : Option β) (rows : List (ℤ × α)) :
    (compacted value last rows).Sublist rows := by
  induction rows generalizing last with
  | nil => exact .refl _
  | cons row rows ih =>
    unfold compacted
    split_ifs
    · exact (ih last).cons _
    · exact (ih _).cons_cons _

theorem compacted_changing (last : Option β) (rows : List (ℤ × α)) :
    (∀ row ∈ (compacted value last rows).head?, last ≠ some (value row.2)) ∧
      Changing value (compacted value last rows) := by
  induction rows generalizing last with
  | nil => exact ⟨nofun, isChain_nil⟩
  | cons row rows ih =>
    unfold compacted
    split_ifs with hsame
    · exact ih last
    · obtain ⟨hhead, hchain⟩ := ih (some (value row.2))
      refine ⟨fun first hfirst => ?_, isChain_cons.2 ⟨fun next hnext => ?_, hchain⟩⟩
      · cases hfirst
        exact hsame
      · exact fun h => hhead next hnext (congrArg some h)

theorem valueAt_compacted (last : Option β) {rows : List (ℤ × α)} (hordered : Ordered rows)
    (t : ℤ) :
    (valueAt value (compacted value last rows) t).or last = (valueAt value rows t).or last := by
  induction rows generalizing last with
  | nil => rfl
  | cons row rows ih =>
    have hrows := List.Pairwise.of_cons hordered
    rw [valueAt_cons hordered]
    unfold compacted
    split_ifs with hsame hle hle
    · rw [ih last hrows, hsame, Option.or_assoc, Option.or_self]
    · rw [ih last hrows, valueAt_eq_none_iff.2]
      exact fun later hlater => (not_le.1 hle).trans (rel_of_pairwise_cons hordered hlater)
    · rw [valueAt_cons (hordered.sublist ((compacted_sublist _ rows).cons_cons _)), if_pos hle,
        ih _ hrows]
    · rw [valueAt_cons (hordered.sublist ((compacted_sublist _ rows).cons_cons _)), if_neg hle]

variable {changes : List (ℤ × α)} {row : ℤ × α}

theorem insertRow_split (hordered : Ordered changes) (hnew : ∀ change ∈ changes, change.1 ≠ row.1) :
    ∃ before after, changes = before ++ after ∧ insertRow changes row = before ++ row :: after ∧
      (∀ change ∈ before, change.1 < row.1) ∧ ∀ change ∈ after, row.1 < change.1 := by
  have hsplit := takeWhile_append_dropWhile (p := fun change => decide (change.1 < row.1))
    (l := changes)
  have hafter : ∀ change ∈ changes.dropWhile fun change => decide (change.1 < row.1),
      row.1 < change.1 := by
    intro change hchange
    have hlate := hordered.of_mem_dropWhile (fun time => decide (time < row.1))
      (fun s t hlt ht => by simpa using hlt.trans (of_decide_eq_true ht)) hchange
    have hmem := (dropWhile_sublist _).mem hchange
    exact lt_of_le_of_ne (not_lt.1 (of_decide_eq_false hlate)) (hnew change hmem).symm
  have hbefore : ∀ change ∈ changes.takeWhile fun change => decide (change.1 < row.1),
      change.1 < row.1 := fun change hchange => by
    simpa using mem_takeWhile_imp hchange
  refine ⟨_, _, hsplit.symm, ?_, hbefore, hafter⟩
  unfold insertRow
  cases hrest : changes.dropWhile fun change => decide (change.1 < row.1) with
  | nil => rfl
  | cons next rows =>
    rw [hrest] at hafter
    exact if_neg (hafter next (.head _)).ne'

theorem insertRow_ordered (hordered : Ordered changes)
    (hnew : ∀ change ∈ changes, change.1 ≠ row.1) :
    Ordered (insertRow changes row) ∧ (row :: changes).Perm (insertRow changes row) := by
  obtain ⟨before, after, rfl, hinsert, hbefore, hafter⟩ := insertRow_split hordered hnew
  rw [hinsert]
  refine ⟨?_, perm_middle.symm⟩
  obtain ⟨hbefore', hafter', hbetween⟩ := pairwise_append.1 hordered
  refine pairwise_append.2 ⟨hbefore', pairwise_cons.2 ⟨hafter, hafter'⟩, ?_⟩
  intro earlier hearlier later hlater
  rcases mem_cons.1 hlater with rfl | hlater
  · exact hbefore earlier hearlier
  · exact hbetween earlier hearlier later hlater

theorem insertChange_spec (hordered : Ordered changes)
    (hnew : ∀ change ∈ changes, change.1 ≠ row.1) :
    Ordered (insertChange value changes row) ∧ Changing value (insertChange value changes row) ∧
      insertChange value changes row ⊆ row :: changes ∧
      ∀ t, valueAt value (insertChange value changes row) t = valueAt value (row :: changes) t := by
  obtain ⟨hordered', hperm⟩ := insertRow_ordered hordered hnew
  have hsublist : (compacted value none (insertRow changes row)).Sublist (insertRow changes row) :=
    compacted_sublist none _
  refine ⟨hordered'.sublist hsublist, (compacted_changing none _).2, fun change hchange =>
    hperm.mem_iff.2 (hsublist.mem hchange), fun t => ?_⟩
  have hcompacted := @valueAt_compacted _ _ value _ none _ hordered' t
  rw [Option.or_none, Option.or_none] at hcompacted
  refine hcompacted.trans (valueAt_perm (hperm.map Prod.fst |>.nodup_iff.2 ?_) hperm).symm
  exact hordered'.distinct

end

/-- What `_timeline_value` reports is what the observations say. -/
structure Shows (value : α → β) (changes observed : List (ℤ × α)) : Prop where
  reported : ∀ startNs endNs, ((timelineValue changes startNs endNs).1.map fun row =>
    value row.2) = valueAt value observed startNs
  changed : ∀ startNs endNs, valueAt value observed startNs ≠ none →
    ((timelineValue changes startNs endNs).2 = true ↔
      ∃ t, startNs < t ∧ t < endNs ∧ valueAt value observed t ≠ valueAt value observed startNs)

theorem timelineValue_append {before after : List (ℤ × α)} {startNs : ℤ} (endNs : ℤ)
    (hbefore : ∀ row ∈ before, row.1 ≤ startNs) (hafter : ∀ row ∈ after, startNs < row.1) :
    timelineValue (before ++ after) startNs endNs =
      (before.getLast?, decide (before = [] ∨ ∃ next ∈ after.head?, next.1 < endNs)) := by
  have htaken : ((before ++ after).takeWhile fun row => decide (row.1 ≤ startNs)) = before := by
    rw [takeWhile_append_of_pos (by simpa using hbefore)]
    cases after with
    | nil => simp
    | cons next after =>
      rw [takeWhile_cons_of_neg (by simpa using hafter next (.head _)), append_nil]
  unfold timelineValue
  rw [htaken]
  rcases eq_nil_or_concat before with rfl | ⟨earlier, last, rfl⟩
  · simp
  · rw [concat_eq_append, length_append, length_singleton, getLast?_concat]
    cases after with
    | nil => simp
    | cons next after => simpa using fun _ => hafter next (.head _)

variable {changes : List (ℤ × α)}

theorem exists_split (hordered : Ordered changes) (t : ℤ) :
    ∃ before after, changes = before ++ after ∧ (∀ row ∈ before, row.1 ≤ t) ∧
      ∀ row ∈ after, t < row.1 := by
  refine ⟨changes.takeWhile fun row => decide (row.1 ≤ t),
    changes.dropWhile fun row => decide (row.1 ≤ t), takeWhile_append_dropWhile.symm,
    fun row hrow => by simpa using mem_takeWhile_imp hrow, fun row hrow => ?_⟩
  have hlate := hordered.of_mem_dropWhile (fun time => decide (time ≤ t))
    (fun s _ hlt ht => by simpa using hlt.le.trans (of_decide_eq_true ht)) hrow
  exact not_le.1 (of_decide_eq_false hlate)

theorem timelineValue_reported (hordered : Ordered changes) (startNs endNs : ℤ) :
    ((timelineValue changes startNs endNs).1.map fun row => value row.2) =
      valueAt value changes startNs := by
  obtain ⟨before, after, rfl, hbefore, hafter⟩ := exists_split hordered startNs
  rw [timelineValue_append endNs hbefore hafter, valueAt_append hordered hbefore hafter]

theorem timelineValue_changed (hordered : Ordered changes) (hchanging : Changing value changes)
    {startNs : ℤ} (endNs : ℤ) (hknown : valueAt value changes startNs ≠ none) :
    (timelineValue changes startNs endNs).2 = true ↔
      ∃ t, startNs < t ∧ t < endNs ∧ valueAt value changes t ≠ valueAt value changes startNs := by
  obtain ⟨before, after, rfl, hbefore, hafter⟩ := exists_split hordered startNs
  have hsome : before ≠ [] := by
    rintro rfl
    exact hknown (valueAt_eq_none_iff.2 hafter)
  have hafter' := (pairwise_append.1 hordered).2.1
  rw [timelineValue_append endNs hbefore hafter, decide_eq_true_iff, or_iff_right hsome]
  constructor
  · rintro ⟨next, hnext, hend⟩
    obtain ⟨rest, rfl⟩ := head?_eq_some_iff.1 hnext
    have hmem : next ∈ before ++ next :: rest := by simp
    refine ⟨next.1, hafter next (.head _), hend, ?_⟩
    rw [valueAt_of_latest hordered.distinct hmem le_rfl fun _ _ hle => hle]
    refine (hchanging.valueAt_ne hordered hmem (hafter next (.head _)) fun other hother hlt => ?_).symm
    rcases mem_append.1 hother with hother | hother
    · exact hbefore other hother
    · rcases mem_cons.1 hother with rfl | hother
      · exact absurd hlt (lt_irrefl _)
      · exact absurd hlt (rel_of_pairwise_cons hafter' hother).not_gt
  · rintro ⟨t, hstart, hend, hdiffers⟩
    by_contra hnone
    refine hdiffers (valueAt_eq_of_still hstart.le fun row hrow hle => ?_)
    rcases mem_append.1 hrow with hrow | hrow
    · exact hbefore row hrow
    · cases after with
      | nil => cases hrow
      | cons next rest =>
        have hlate : endNs ≤ next.1 := not_lt.1 fun hlt => hnone ⟨next, rfl, hlt⟩
        rcases mem_cons.1 hrow with rfl | hrow
        · omega
        · have := rel_of_pairwise_cons hafter' hrow
          omega

theorem shows_iff {changes observed : List (ℤ × α)} (hordered : Ordered changes)
    (hchanging : Changing value changes) :
    Shows value changes observed ↔ ∀ t, valueAt value changes t = valueAt value observed t := by
  constructor
  · intro h t
    rw [← timelineValue_reported hordered t t, h.reported]
  · intro h
    refine ⟨fun startNs endNs => ?_, fun startNs endNs hknown => ?_⟩
    · rw [timelineValue_reported hordered, h]
    · rw [← h] at hknown
      simp only [← h]
      exact timelineValue_changed hordered hchanging endNs hknown

section

variable [DecidableEq β]

def delivered (value : α → β) (observed : List (ℤ × α)) : List (ℤ × α) :=
  observed.foldl (insertChange value) []

theorem delivered_concat (observed : List (ℤ × α)) (row : ℤ × α) :
    delivered value (observed ++ [row]) = insertChange value (delivered value observed) row :=
  foldl_concat _ _ _ _

theorem insertChange_fresh {changes observed : List (ℤ × α)} {row : ℤ × α}
    (hdistinct : ((observed ++ [row]).map Prod.fst).Nodup) (hmem : changes ⊆ observed) :
    ∀ change ∈ changes, change.1 ≠ row.1 := by
  intro change hchange hsame
  rw [map_append, nodup_append] at hdistinct
  exact hdistinct.2.2 change.1 (mem_map_of_mem (hmem hchange)) row.1 (by simp) hsame

variable {observed : List (ℤ × α)}

theorem delivered_spec (hdistinct : (observed.map Prod.fst).Nodup) :
    Ordered (delivered value observed) ∧ Changing value (delivered value observed) ∧
      delivered value observed ⊆ observed := by
  induction observed using List.reverseRecOn with
  | nil => exact ⟨.nil, isChain_nil, List.Subset.refl _⟩
  | append_singleton observed row ih =>
    obtain ⟨hordered, -, hmem⟩ := ih (hdistinct.sublist (by simp))
    rw [delivered_concat]
    obtain ⟨hordered', hchanging', hmem', -⟩ :=
      @insertChange_spec _ _ value _ _ _ hordered (insertChange_fresh hdistinct hmem)
    refine ⟨hordered', hchanging', fun change hchange => ?_⟩
    rcases mem_cons.1 (hmem' hchange) with rfl | hchange
    · simp
    · exact mem_append_left _ (hmem hchange)

theorem delivered_concat_iff {row : ℤ × α} (hdistinct : ((observed ++ [row]).map Prod.fst).Nodup)
    (hshows : Shows value (delivered value observed) observed) :
    Shows value (delivered value (observed ++ [row])) (observed ++ [row]) ↔
      ¬ Splits value observed row := by
  have hearlier : (observed.map Prod.fst).Nodup := hdistinct.sublist (by simp)
  obtain ⟨hordered, hchanging, hmem⟩ := @delivered_spec _ _ value _ _ hearlier
  obtain ⟨hordered', hchanging', -⟩ := @delivered_spec _ _ value _ _ hdistinct
  have hperm : (row :: observed).Perm (observed ++ [row]) :=
    (perm_append_singleton row observed).symm
  have hdistinct' := (hperm.map Prod.fst).nodup_iff.2 hdistinct
  have hinsert := (@insertChange_spec _ _ value _ _ _ hordered
    (insertChange_fresh hdistinct hmem)).2.2.2
  rw [shows_iff hordered' hchanging', ← agree_cons_iff hdistinct' hmem hordered hchanging
    ((shows_iff hordered hchanging).1 hshows)]
  refine forall_congr' fun t => ?_
  rw [delivered_concat, hinsert, valueAt_perm hdistinct' hperm]

theorem delivered_shows_iff (hdistinct : (observed.map Prod.fst).Nodup) :
    (∀ seen, seen <+: observed → Shows value (delivered value seen) seen) ↔
      ∀ seen row later, observed = seen ++ row :: later → ¬ Splits value seen row := by
  constructor
  · rintro h seen row later rfl
    have hseen : seen ++ [row] <+: seen ++ row :: later := ⟨later, by simp⟩
    have hdistinct' := hdistinct.sublist (hseen.sublist.map Prod.fst)
    exact (delivered_concat_iff hdistinct' (h seen ⟨row :: later, rfl⟩)).1 (h _ hseen)
  · intro h seen hseen
    induction seen using List.reverseRecOn with
    | nil => exact (shows_iff .nil isChain_nil).2 fun _ => rfl
    | append_singleton seen row ih =>
      obtain ⟨later, hlater⟩ := hseen
      have hdistinct' := hdistinct.sublist ((List.IsPrefix.sublist ⟨later, hlater⟩).map Prod.fst)
      refine (delivered_concat_iff hdistinct' (ih ⟨row :: later, by simp [← hlater]⟩)).2 ?_
      exact h seen row later (by simp [← hlater])

end

section

def Call.foregroundRow : Call → Option (ℤ × String)
  | .observeForeground timestampNs app =>
    if 0 < timestampNs then some (timestampNs, if app = "" then unknown else app) else none
  | _ => none

def Call.sourceRow : Call → Option (ℤ × Bool × String)
  | .setSourceAvailable timestampNs available reason =>
    if 0 < timestampNs then some (timestampNs, available, reason) else none
  | _ => none

def Shadow.timelines (shadow : Shadow) : List (ℤ × String) × List (ℤ × Bool × String) :=
  (shadow.foregroundChanges, shadow.sourceChanges)

variable {settings : Settings}

theorem seedWindowStart_timelines (cfg : Config) (shadow : Shadow) (timestampNs : ℤ) :
    (shadow.seedWindowStart cfg timestampNs).timelines = shadow.timelines := by
  unfold Shadow.seedWindowStart
  cases shadow.nextWindowStartNs with
  | none => rfl
  | some next =>
    dsimp only
    split_ifs <;> rfl

theorem observeRanges_timelines (key : ℤ × String) (ranges : List PageRange) (shadow : Shadow) :
    (ranges.foldl (observeRange key) shadow).timelines = shadow.timelines := by
  induction ranges generalizing shadow with
  | nil => rfl
  | cons range ranges ih =>
    rw [foldl_cons, ih]
    unfold observeRange
    split_ifs <;> rfl

theorem observePageAccess_timelines (cfg : Config) (shadow : Shadow) (event : AccessEvent) :
    (observePageAccess cfg shadow event).2.timelines = shadow.timelines := by
  unfold observePageAccess
  dsimp only
  split_ifs
  · rfl
  · rfl
  · rfl
  · rw [seedWindowStart_timelines]
    rfl

theorem observePageWindow_timelines (cfg : Config) (shadow : Shadow)
    (window : EbpfFileEvents.PageWindow) :
    (observePageWindow cfg shadow window).timelines = shadow.timelines := by
  unfold observePageWindow
  dsimp only
  split_ifs
  · rfl
  · rfl
  · rw [seedWindowStart_timelines]
    exact observeRanges_timelines _ _ _

theorem maybeScheduleTraining_shadow (s : Predictor) (app : String) (clockNs : ℤ) :
    (s.maybeScheduleTraining settings app clockNs).shadow = s.shadow := by
  unfold Predictor.maybeScheduleTraining
  dsimp only
  split_ifs
  · rfl
  · split
    · rfl
    · exact (settle_keeps _ app _).shadow

theorem recordSnapshot_shadow (s : Predictor) (snapshot : PageSnapshot) (clockNs : ℤ) :
    (s.recordSnapshot settings snapshot clockNs).shadow = s.shadow := by
  unfold Predictor.recordSnapshot
  dsimp only
  split_ifs
  · rfl
  · exact maybeScheduleTraining_shadow _ _ _
  · exact maybeScheduleTraining_shadow _ _ _

theorem finalizeAll_timelines (nowNs : ℤ) (clockNs : ℤ → ℤ) (ready : List ℤ) (s : Predictor) :
    (s.finalizeAll settings nowNs clockNs ready).shadow.timelines = s.shadow.timelines := by
  induction ready generalizing s with
  | nil => rfl
  | cons windowStart later ih =>
    unfold Predictor.finalizeAll
    rw [ih]
    unfold Predictor.finalizeWindow
    dsimp only
    rw [recordSnapshot_shadow, (processSnapshot_keeps settings _ _ _ _).shadow]
    rfl

theorem advance_timelines (s : Predictor) (nowNs : ℤ) (clockNs : ℤ → ℤ) :
    (s.advance settings nowNs clockNs).shadow.timelines = s.shadow.timelines := by
  unfold Predictor.advance
  split_ifs
  · rfl
  · split
    · rfl
    · dsimp only
      split_ifs
      · rfl
      · exact finalizeAll_timelines nowNs clockNs _ s

theorem cancelAll_shadow (nowNs : ℤ) (items : List (String × PageBucketPrediction))
    (s : Predictor) :
    (items.foldl (fun s item => s.cancelPending item.1 "SESSION_END" nowNs) s).shadow =
      s.shadow := by
  induction items generalizing s with
  | nil => rfl
  | cons item items ih =>
    rw [foldl_cons, ih]
    exact (settle_keeps s item.1 _).shadow

theorem close_timelines (s : Predictor) (nowNs endNs : ℤ) (clockNs : ℤ → ℤ) :
    (s.close settings nowNs endNs clockNs).shadow.timelines = s.shadow.timelines := by
  unfold Predictor.close
  split_ifs
  · rfl
  · change (List.foldl _ (s.advance settings nowNs clockNs) _).shadow.timelines = _
    rw [cancelAll_shadow, advance_timelines]

theorem call_timelines (s : Predictor) (call : Call) :
    (s.call settings call).shadow.timelines =
      (call.foregroundRow.toList.foldl (insertChange id) s.shadow.foregroundChanges,
        call.sourceRow.toList.foldl (insertChange Prod.fst) s.shadow.sourceChanges) := by
  cases call with
  | observeForeground timestampNs app =>
    change (observeForeground settings s.shadow timestampNs app).timelines = _
    unfold observeForeground
    by_cases htime : 0 < timestampNs
    · have hrow : Call.foregroundRow (.observeForeground timestampNs app) =
          some (timestampNs, if app = "" then unknown else app) := if_pos htime
      rw [dif_pos htime, hrow]
      exact seedWindowStart_timelines _ _ _
    · have hrow : Call.foregroundRow (.observeForeground timestampNs app) = none := if_neg htime
      rw [dif_neg htime, hrow]
      rfl
  | setSourceAvailable timestampNs available reason =>
    change (setSourceAvailable settings s.shadow timestampNs available reason).timelines = _
    unfold setSourceAvailable
    by_cases htime : 0 < timestampNs
    · have hrow : Call.sourceRow (.setSourceAvailable timestampNs available reason) =
          some (timestampNs, available, reason) := if_pos htime
      rw [if_neg (not_le.2 htime), hrow]
      exact seedWindowStart_timelines _ _ _
    · have hrow : Call.sourceRow (.setSourceAvailable timestampNs available reason) = none :=
        if_neg htime
      rw [if_pos (not_lt.1 htime), hrow]
      rfl
  | markSourceGap timestampNs reason =>
    change (markSourceGap settings s.shadow timestampNs reason).timelines = _
    unfold markSourceGap
    dsimp only
    generalize (if reason = "" then "FILE_EVENT_SOURCE_GAP" else reason) = why
    split_ifs
    · rfl
    · exact seedWindowStart_timelines _ _ _
  | observePageAccess event => exact observePageAccess_timelines _ _ _
  | observePageWindow window => exact observePageWindow_timelines _ _ _
  | advance nowNs clockNs => exact advance_timelines s nowNs clockNs
  | close nowNs endNs clockNs => exact close_timelines s nowNs endNs clockNs

theorem run_timelines (calls : List Call) :
    (Predictor.run settings calls).shadow.timelines =
      (delivered id (calls.filterMap Call.foregroundRow),
        delivered Prod.fst (calls.filterMap Call.sourceRow)) := by
  induction calls using List.reverseRecOn with
  | nil => rfl
  | append_singleton calls call ih =>
    have hforeground := congrArg Prod.fst ih
    have hsource := congrArg Prod.snd ih
    dsimp only [Shadow.timelines] at hforeground hsource
    have hrun : Predictor.run settings (calls ++ [call]) =
        (Predictor.run settings calls).call settings call := foldl_concat _ _ _ _
    have hrow {α : Type} (row : Call → Option α) :
        (calls ++ [call]).filterMap row = calls.filterMap row ++ (row call).toList := by
      rw [filterMap_append]
      cases hcall : row call <;> simp [hcall]
    rw [hrun, call_timelines, hforeground, hsource, hrow, hrow]
    simp only [delivered, foldl_append]

theorem runs_show_iff [DecidableEq β] (changes : Predictor → List (ℤ × α))
    (row : Call → Option (ℤ × α))
    (hrun : ∀ calls, changes (Predictor.run settings calls) =
      delivered value (calls.filterMap row)) {calls : List Call}
    (hdistinct : ((calls.filterMap row).map Prod.fst).Nodup) :
    (∀ seen, seen <+: calls →
        Shows value (changes (Predictor.run settings seen)) (seen.filterMap row)) ↔
      ∀ seen next later, calls.filterMap row = seen ++ next :: later → ¬ Splits value seen next := by
  rw [← delivered_shows_iff hdistinct]
  constructor
  · rintro h seen ⟨later, hlater⟩
    obtain ⟨earlier, rest, rfl, rfl, -⟩ := filterMap_eq_append_iff.1 hlater.symm
    rw [← hrun]
    exact h earlier ⟨rest, rfl⟩
  · intro h seen hseen
    rw [hrun]
    exact h _ (hseen.filterMap row)

/-- Both timelines show what was observed after every call, in whatever order the observations
arrive, as long as none comes between two neighbours of one value with another value. -/
theorem timelines_exact (settings : Settings) (calls : List Call) :
    (((calls.filterMap Call.foregroundRow).map Prod.fst).Nodup →
      ((∀ seen, seen <+: calls →
          Shows id (Predictor.run settings seen).shadow.foregroundChanges
            (seen.filterMap Call.foregroundRow)) ↔
        ∀ seen row later, calls.filterMap Call.foregroundRow = seen ++ row :: later →
          ¬ Splits id seen row)) ∧
      (((calls.filterMap Call.sourceRow).map Prod.fst).Nodup →
        ((∀ seen, seen <+: calls →
            Shows Prod.fst (Predictor.run settings seen).shadow.sourceChanges
              (seen.filterMap Call.sourceRow)) ↔
          ∀ seen row later, calls.filterMap Call.sourceRow = seen ++ row :: later →
            ¬ Splits Prod.fst seen row)) := by
  refine ⟨fun hdistinct => ?_, fun hdistinct => ?_⟩
  · refine runs_show_iff (fun s => s.shadow.foregroundChanges) Call.foregroundRow ?_ hdistinct
    exact fun calls => congrArg Prod.fst (run_timelines calls)
  · refine runs_show_iff (fun s => s.shadow.sourceChanges) Call.sourceRow ?_ hdistinct
    exact fun calls => congrArg Prod.snd (run_timelines calls)

def untrainedSettings : Settings where
  sessionId := "S"
  safeName := id
  windows := ⟨1000, 4096⟩
  latenessNs := 0
  warmupWindows := 20
  retrainWindows := 20
  historyWindows := 200
  baseHotCoverage := 0.8
  bucketHotCoverage := 0.5
  fitKmedoids := fun _ _ _ => none
  windowPositive := by decide
  latenessNonneg := le_rfl

/-- Late arrivals that split nothing: `A` at 20 is before `A` at 30 and after `B`. -/
theorem late_arrivals_show :
    let s := Predictor.run untrainedSettings [.observeForeground 30 "A",
      .setSourceAvailable 40 true "", .observeForeground 10 "B", .setSourceAvailable 20 false "GAP",
      .observeForeground 20 "A"]
    Shows id s.shadow.foregroundChanges [(30, "A"), (10, "B"), (20, "A")] ∧
      Shows Prod.fst s.shadow.sourceChanges [(40, true, ""), (20, false, "GAP")] := by
  have h := timelines_exact untrainedSettings [.observeForeground 30 "A",
    .setSourceAvailable 40 true "", .observeForeground 10 "B", .setSourceAvailable 20 false "GAP",
    .observeForeground 20 "A"]
  refine ⟨(h.1 (by decide)).2 (fun seen row later hsplit => ?_) _ (prefix_refl _),
    (h.2 (by decide)).2 (fun seen row later hsplit => ?_) _ (prefix_refl _)⟩
  · have hlength : 3 = (seen ++ row :: later).length := congrArg List.length hsplit
    match seen with
    | [] => exact fun ⟨_, hmem, _⟩ => nomatch hmem
    | [_] =>
      cases hsplit
      unfold Splits
      decide
    | [_, _] =>
      cases hsplit
      unfold Splits
      decide
    | _ :: _ :: _ :: _ =>
      rw [length_append, length_cons] at hlength
      simp only [length_cons] at hlength
      omega
  · have hlength : 2 = (seen ++ row :: later).length := congrArg List.length hsplit
    match seen with
    | [] => exact fun ⟨_, hmem, _⟩ => nomatch hmem
    | [_] =>
      cases hsplit
      unfold Splits
      decide
    | _ :: _ :: _ =>
      rw [length_append, length_cons] at hlength
      simp only [length_cons] at hlength
      omega

/-- The observation of `A` at 30 was dropped before `B` at 20 arrived. -/
theorem late_arrival_hides :
    ¬ Shows id
      (Predictor.run untrainedSettings [.observeForeground 10 "A", .observeForeground 30 "A",
        .observeForeground 20 "B"]).shadow.foregroundChanges
      [(10, "A"), (30, "A"), (20, "B")] := by
  intro h
  have hreported := h.reported 35 40
  revert hreported
  decide

end

end Parp.PageHotset
