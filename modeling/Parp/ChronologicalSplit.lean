import Mathlib.Algebra.Order.Group.Multiset
import Mathlib.Data.List.Sort
import Mathlib.Data.String.Basic
import Parp.Binary64
import Parp.FallibleFolds
import Parp.OrderedDict

set_option autoImplicit false

/-!
# The chronological split

`chronological_split` of `tools/parp/intra_app_prediction/splitter.py`: sessions are ranked by their
first window, and what starts too soon after the last window of the split before is purged.
-/
namespace Parp.ChronologicalSplit

open CorrectRounding FallibleFolds OrderedDict List

section

/-- A row; `rest` are the fields that the split copies. -/
structure Row (α : Type) where
  windowId : String
  sessionId : String
  windowStartNs : ℤ
  rest : α
  deriving DecidableEq

variable {α : Type}

def sessionsOf (rows : List (Row α)) : Dict String (List (Row α)) := Dict.groupBy Row.sessionId rows

def firstStart (group : List (Row α)) : ℤ := ((group.map Row.windowStartNs).min?).getD 0

def orderedSessions (rows : List (Row α)) : List String :=
  ((sessionsOf rows).items.insertionSort fun l r => firstStart l.2 ≤ firstStart r.2).map Prod.fst

/-- `int(n * x)` for a count and a literal -/
def share (n : ℕ) (x : ℚ) : ℕ := ⌊binary64 (n * binary64 x)⌋.toNat

def splitCounts (n : ℕ) : ℕ × ℕ :=
  let trainCount := max 1 (share n (70 / 100))
  let valCount := max 1 (share n (15 / 100))
  if n ≤ trainCount + valCount then (n - 2, 1) else (trainCount, valCount)

structure SessionSets where
  train : List String
  val : List String
  test : List String
  deriving DecidableEq

def sessionSets (rows : List (Row α)) : SessionSets :=
  let ordered := orderedSessions rows
  let counts := splitCounts ordered.length
  { train := ordered.take counts.1
    val := (ordered.drop counts.1).take counts.2
    test := ordered.drop (counts.1 + counts.2) }

def selected (rows : List (Row α)) (sessions : List String) : List (Row α) :=
  (sessions.flatMap fun s => ((sessionsOf rows).get? s).getD []).insertionSort
    fun l r => l.windowStartNs ≤ r.windowStartNs

def purge (purgeGapNs : ℤ) (previousMax : Option ℤ) (rows : List (Row α)) : List (Row α) :=
  match previousMax with
  | none => rows
  | some m => rows.filter fun row => purgeGapNs ≤ row.windowStartNs - m

/-- What one pass of the loop leaves: the rows, how many were purged, and `previous_max`. -/
structure Kept (α : Type) where
  rows : List (Row α)
  purged : ℕ
  previousMax : ℤ

def keepSplit (rows : List (Row α)) (purgeGapNs : ℤ) (previousMax : Option ℤ)
    (sessions : List String) : Except String (Kept α) :=
  let before := selected rows sessions
  let kept := purge purgeGapNs previousMax before
  match kept.getLast? with
  | none => .error "purge gap removed an entire split"
  | some last => .ok ⟨kept, before.length - kept.length, last.windowStartNs⟩

structure Audit where
  purgeGapNs : ℤ
  purgedWindows : ℕ
  sessionDisjoint : Bool := true
  futureHorizonIsolated : Bool := true
  normalizationSource : String := "train"
  clusteringSource : String := "train"
  sessions : SessionSets
  deriving DecidableEq

structure Split (α : Type) where
  train : List (Row α)
  val : List (Row α)
  test : List (Row α)
  audit : Audit
  deriving DecidableEq

/-- `chronological_split`, with the text of the `ValueError` -/
def chronologicalSplit (rows : List (Row α)) (purgeGapNs : ℤ) : Except String (Split α) :=
  if ¬ (rows.map Row.windowId).Nodup then .error "duplicate window_id"
  else if (orderedSessions rows).length < 3 then .error "at least three sessions are required"
  else do
    let sets := sessionSets rows
    let train ← keepSplit rows purgeGapNs none sets.train
    let val ← keepSplit rows purgeGapNs (some train.previousMax) sets.val
    let test ← keepSplit rows purgeGapNs (some val.previousMax) sets.test
    return {
      train := train.rows
      val := val.rows
      test := test.rows
      audit := {
        purgeGapNs := purgeGapNs
        purgedWindows := train.purged + val.purged + test.purged
        sessions := sets } }

end

section

variable {α : Type} {rows : List (Row α)}

theorem orderedSessions_perm (rows : List (Row α)) :
    (orderedSessions rows).Perm ((sessionsOf rows).items.map Prod.fst) :=
  (perm_insertionSort _ _).map _

theorem orderedSessions_nodup (rows : List (Row α)) : (orderedSessions rows).Nodup :=
  (orderedSessions_perm rows).nodup_iff.2 (sessionsOf rows).nodup

theorem mem_orderedSessions {row : Row α} (h : row ∈ rows) : row.sessionId ∈ orderedSessions rows :=
  (orderedSessions_perm rows).mem_iff.2
    (mem_map_of_mem (f := Prod.fst) (Dict.mem_groupBy Row.sessionId h))

theorem selected_perm (rows : List (Row α)) (sessions : List String) :
    (selected rows sessions).Perm
      (sessions.flatMap fun s => rows.filter fun row => row.sessionId = s) := by
  refine (perm_insertionSort _ _).trans (List.Perm.of_eq ?_)
  exact flatMap_congr fun s _ => Dict.groupBy_get? Row.sessionId rows s

theorem mem_selected {sessions : List String} {row : Row α} :
    row ∈ selected rows sessions ↔ row ∈ rows ∧ row.sessionId ∈ sessions := by
  rw [(selected_perm rows sessions).mem_iff, mem_flatMap]
  constructor
  · rintro ⟨s, hs, hrow⟩
    obtain ⟨hmem, hsession⟩ := mem_filter.1 hrow
    exact ⟨hmem, of_decide_eq_true hsession ▸ hs⟩
  · rintro ⟨hmem, hsession⟩
    exact ⟨row.sessionId, hsession, mem_filter.2 ⟨hmem, by simp⟩⟩

theorem selected_sorted (rows : List (Row α)) (sessions : List String) :
    (selected rows sessions).Pairwise fun l r => l.windowStartNs ≤ r.windowStartNs := by
  have : Std.Total fun l r : Row α => l.windowStartNs ≤ r.windowStartNs := ⟨fun _ _ => le_total _ _⟩
  have : IsTrans (Row α) fun l r => l.windowStartNs ≤ r.windowStartNs := ⟨fun _ _ _ => le_trans⟩
  exact pairwise_insertionSort _ _

theorem sessionSets_append (rows : List (Row α)) :
    (sessionSets rows).train ++ (sessionSets rows).val ++ (sessionSets rows).test =
      orderedSessions rows := by
  unfold sessionSets
  dsimp only
  rw [append_assoc, ← drop_drop, take_append_drop, take_append_drop]

end

section

variable {α : Type} {rows : List (Row α)} {gap : ℤ} {previousMax : Option ℤ} {sessions : List String}
  {kept : Kept α}

/-- `t` is the last start of a row of the sessions. -/
structure EndsAt (rows : List (Row α)) (sessions : List String) (t : ℤ) : Prop where
  reached : ∃ row ∈ rows, row.sessionId ∈ sessions ∧ row.windowStartNs = t
  last : ∀ row ∈ rows, row.sessionId ∈ sessions → row.windowStartNs ≤ t

theorem EndsAt.unique {t t' : ℤ} (h : EndsAt rows sessions t) (h' : EndsAt rows sessions t') :
    t = t' := by
  obtain ⟨row, hrow, hsession, rfl⟩ := h.reached
  obtain ⟨row', hrow', hsession', rfl⟩ := h'.reached
  exact le_antisymm (h'.last row hrow hsession) (h.last row' hrow' hsession')

theorem mem_purge {row : Row α} {selection : List (Row α)} :
    row ∈ purge gap previousMax selection ↔
      row ∈ selection ∧ ∀ m ∈ previousMax, gap ≤ row.windowStartNs - m := by
  cases previousMax with
  | none => exact ⟨fun h => ⟨h, nofun⟩, fun h => h.1⟩
  | some m =>
    change row ∈ List.filter _ _ ↔ _
    rw [mem_filter, decide_eq_true_iff]
    exact and_congr_right fun _ => ⟨fun h m' hm => by cases hm; exact h, fun h => h m rfl⟩

theorem purge_perm (gap : ℤ) (previousMax : Option ℤ) (selection : List (Row α)) :
    ∃ purged, (purge gap previousMax selection ++ purged).Perm selection ∧
      purged.length = selection.length - (purge gap previousMax selection).length := by
  have hsplit : ∃ purged, (purge gap previousMax selection ++ purged).Perm selection := by
    cases previousMax with
    | none => exact ⟨[], by rw [append_nil]; rfl⟩
    | some m => exact ⟨_, filter_append_perm _ selection⟩
  obtain ⟨purged, hperm⟩ := hsplit
  have hlength := hperm.length_eq
  rw [length_append] at hlength
  exact ⟨purged, hperm, by omega⟩

theorem purge_sorted {selection : List (Row α)}
    (h : selection.Pairwise fun l r => l.windowStartNs ≤ r.windowStartNs) :
    (purge gap previousMax selection).Pairwise fun l r => l.windowStartNs ≤ r.windowStartNs := by
  cases previousMax with
  | none => exact h
  | some m => exact h.filter _

structure Keeping (rows : List (Row α)) (gap : ℤ) (previousMax : Option ℤ) (sessions : List String)
    (kept : Kept α) : Prop where
  mem : ∀ row, row ∈ kept.rows ↔
    row ∈ rows ∧ row.sessionId ∈ sessions ∧ ∀ m ∈ previousMax, gap ≤ row.windowStartNs - m
  rest : ∃ purged, (kept.rows ++ purged).Perm (selected rows sessions) ∧ purged.length = kept.purged
  nonempty : kept.rows ≠ []
  ends : EndsAt rows sessions kept.previousMax

theorem keepSplit_keeps (h : keepSplit rows gap previousMax sessions = .ok kept) :
    Keeping rows gap previousMax sessions kept := by
  unfold keepSplit at h
  dsimp only at h
  cases hlast : (purge gap previousMax (selected rows sessions)).getLast? with
  | none => rw [hlast] at h; cases h
  | some last =>
    rw [hlast] at h
    cases h
    have hmem (row : Row α) : row ∈ purge gap previousMax (selected rows sessions) ↔
        row ∈ rows ∧ row.sessionId ∈ sessions ∧ ∀ m ∈ previousMax, gap ≤ row.windowStartNs - m := by
      rw [mem_purge, mem_selected, and_assoc]
    have hlastMem := mem_of_getLast? hlast
    obtain ⟨hlastRow, hlastSession, hlastGap⟩ := (hmem last).1 hlastMem
    refine ⟨hmem, purge_perm gap previousMax _, ne_nil_of_mem hlastMem,
      ⟨⟨last, hlastRow, hlastSession, rfl⟩, fun row hrow hsession => ?_⟩⟩
    by_cases hkept : row ∈ purge gap previousMax (selected rows sessions)
    · -- sorted, so the last one is the greatest
      obtain ⟨front, hfront⟩ := getLast?_eq_some_iff.1 hlast
      have hsorted : (purge gap previousMax (selected rows sessions)).Pairwise fun l r =>
          l.windowStartNs ≤ r.windowStartNs := purge_sorted (selected_sorted rows sessions)
      rw [hfront] at hkept hsorted
      rcases mem_append.1 hkept with hbefore | hsame
      · exact (pairwise_append.1 hsorted).2.2 row hbefore last (.head _)
      · rw [mem_singleton.1 hsame]
    · -- what was purged begins before everything kept
      rw [hmem] at hkept
      by_contra hlater
      refine hkept ⟨hrow, hsession, fun m hm => ?_⟩
      have hgap := hlastGap m hm
      dsimp only at hlater
      omega

end

section

variable {α : Type} {rows : List (Row α)} {gap horizon : ℤ} {split : Split α}

structure Passes (rows : List (Row α)) (gap : ℤ) (split : Split α) : Prop where
  ids : (rows.map Row.windowId).Nodup
  enough : 3 ≤ (orderedSessions rows).length
  kept : ∃ train val test : Kept α,
    Keeping rows gap none (sessionSets rows).train train ∧
    Keeping rows gap (some train.previousMax) (sessionSets rows).val val ∧
    Keeping rows gap (some val.previousMax) (sessionSets rows).test test ∧
    split.train = train.rows ∧ split.val = val.rows ∧ split.test = test.rows ∧
    split.audit.purgedWindows = train.purged + val.purged + test.purged

theorem chronologicalSplit_passes (h : chronologicalSplit rows gap = .ok split) :
    Passes rows gap split := by
  unfold chronologicalSplit at h
  split_ifs at h with hids henough
  obtain ⟨train, htrain, h⟩ := bind_eq_ok.1 h
  obtain ⟨val, hval, h⟩ := bind_eq_ok.1 h
  obtain ⟨test, htest, h⟩ := bind_eq_ok.1 h
  cases h
  exact ⟨hids, not_lt.1 henough, train, val, test, keepSplit_keeps htrain,
    keepSplit_keeps hval, keepSplit_keeps htest, rfl, rfl, rfl, rfl⟩

theorem session_of_kept {previousMax : Option ℤ} {sessions : List String} {kept : Kept α}
    (h : Keeping rows gap previousMax sessions kept) {row : Row α} (hrow : row ∈ kept.rows) :
    row.sessionId ∈ sessions := ((h.mem row).1 hrow).2.1

theorem starts_after {m : ℤ} {sessions : List String} {kept : Kept α}
    (h : Keeping rows gap (some m) sessions kept) {row : Row α} (hrow : row ∈ kept.rows) :
    m + gap ≤ row.windowStartNs := by
  have hgap := ((h.mem row).1 hrow).2.2 m rfl
  omega

theorem starts_before {previousMax : Option ℤ} {sessions : List String} {kept : Kept α}
    (h : Keeping rows gap previousMax sessions kept) {row : Row α} (hrow : row ∈ kept.rows) :
    row.windowStartNs ≤ kept.previousMax :=
  h.ends.last row ((h.mem row).1 hrow).1 (session_of_kept h hrow)

theorem last_kept {previousMax : Option ℤ} {sessions : List String} {kept : Kept α}
    (h : Keeping rows gap previousMax sessions kept) :
    ∃ row ∈ kept.rows, row.windowStartNs = kept.previousMax := by
  obtain ⟨row, hrow, hsession, hlast⟩ := h.ends.reached
  obtain ⟨first, hfirst⟩ := exists_mem_of_ne_nil _ h.nonempty
  refine ⟨row, (h.mem row).2 ⟨hrow, hsession, fun m hm => ?_⟩, hlast⟩
  have hgap := ((h.mem first).1 hfirst).2.2 m hm
  have hbefore := starts_before h hfirst
  omega

/-- Every row is in one split, or purged, and no session is in two splits. -/
structure Partitioned (rows : List (Row α)) (split : Split α) : Prop where
  exact : ∃ purged, (split.train ++ split.val ++ split.test ++ purged).Perm rows ∧
    purged.length = split.audit.purgedWindows
  once : ∀ purged, (split.train ++ split.val ++ split.test ++ purged).Perm rows →
    ((split.train ++ split.val ++ split.test ++ purged).map Row.windowId).Nodup
  disjoint : (∀ r ∈ split.train, ∀ r' ∈ split.val ++ split.test, r.sessionId ≠ r'.sessionId) ∧
    ∀ r ∈ split.val, ∀ r' ∈ split.test, r.sessionId ≠ r'.sessionId
  nonempty : split.train ≠ [] ∧ split.val ≠ [] ∧ split.test ≠ []

/-- No start of `later` is in the label interval of a row of `earlier`. -/
def Apart (horizon : ℤ) (earlier later : List (Row α)) : Prop :=
  ∀ r ∈ earlier, ∀ r' ∈ later,
    ¬ (r.windowStartNs < r'.windowStartNs ∧ r'.windowStartNs ≤ r.windowStartNs + horizon)

def Isolated (horizon : ℤ) (split : Split α) : Prop :=
  Apart horizon split.train (split.val ++ split.test) ∧ Apart horizon split.val split.test

/-- A row of the later sessions starts exactly the gap after the last row of the earlier ones. -/
def Touching (rows : List (Row α)) (gap : ℤ) (earlier later : List String) : Prop :=
  ∃ t, EndsAt rows earlier t ∧ ∃ r ∈ rows, r.sessionId ∈ later ∧ r.windowStartNs = t + gap

structure OnBoundary (rows : List (Row α)) (gap horizon : ℤ) : Prop where
  exact : gap = horizon
  positive : 0 < horizon
  touching : Touching rows gap (sessionSets rows).train (sessionSets rows).val ∨
    Touching rows gap (sessionSets rows).val (sessionSets rows).test

theorem sessions_disjoint (rows : List (Row α)) :
    (∀ s ∈ (sessionSets rows).train, s ∉ (sessionSets rows).val ∧ s ∉ (sessionSets rows).test) ∧
      ∀ s ∈ (sessionSets rows).val, s ∉ (sessionSets rows).test := by
  have hnodup := orderedSessions_nodup rows
  rw [← sessionSets_append, append_assoc, nodup_append, nodup_append] at hnodup
  obtain ⟨-, ⟨-, -, hval⟩, htrain⟩ := hnodup
  refine ⟨fun s hs => ⟨fun hmem => ?_, fun hmem => ?_⟩, fun s hs hmem => hval s hs s hmem rfl⟩
  · exact htrain s hs s (mem_append_left _ hmem) rfl
  · exact htrain s hs s (mem_append_right _ hmem) rfl

theorem selected_append (rows : List (Row α)) :
    (selected rows (sessionSets rows).train ++ selected rows (sessionSets rows).val ++
      selected rows (sessionSets rows).test).Perm rows := by
  refine (((selected_perm rows _).append (selected_perm rows _)).append
    (selected_perm rows _)).trans ?_
  rw [← flatMap_append, ← flatMap_append, sessionSets_append]
  exact Dict.groups_perm Row.sessionId (orderedSessions_nodup rows) fun r hr => mem_orderedSessions hr

theorem Passes.partitioned (h : Passes rows gap split) : Partitioned rows split := by
  obtain ⟨train, val, test, htrain, hval, htest, hsplitTrain, hsplitVal, hsplitTest, hpurged⟩ := h.kept
  obtain ⟨hdisjointTrain, hdisjointVal⟩ := sessions_disjoint rows
  constructor
  · obtain ⟨restTrain, hpermTrain, hlengthTrain⟩ := htrain.rest
    obtain ⟨restVal, hpermVal, hlengthVal⟩ := hval.rest
    obtain ⟨restTest, hpermTest, hlengthTest⟩ := htest.rest
    refine ⟨restTrain ++ restVal ++ restTest, ?_, ?_⟩
    · rw [hsplitTrain, hsplitVal, hsplitTest]
      refine List.Perm.trans ?_ (((hpermTrain.append hpermVal).append hpermTest).trans
        (selected_append rows))
      rw [← Multiset.coe_eq_coe]
      simp only [← Multiset.coe_add]
      abel
    · rw [length_append, length_append, hlengthTrain, hlengthVal, hlengthTest, hpurged]
  · exact fun purged hperm => (hperm.map _).nodup_iff.2 h.ids
  · rw [hsplitTrain, hsplitVal, hsplitTest]
    refine ⟨fun r hr r' hr' heq => ?_, fun r hr r' hr' heq => ?_⟩
    · obtain ⟨hnotVal, hnotTest⟩ := hdisjointTrain _ (session_of_kept htrain hr)
      rcases mem_append.1 hr' with hr' | hr'
      · exact hnotVal (heq ▸ session_of_kept hval hr')
      · exact hnotTest (heq ▸ session_of_kept htest hr')
    · exact hdisjointVal _ (session_of_kept hval hr) (heq ▸ session_of_kept htest hr')
  · rw [hsplitTrain, hsplitVal, hsplitTest]
    exact ⟨htrain.nonempty, hval.nonempty, htest.nonempty⟩

theorem apart_iff {previousMax : Option ℤ} {earlierSessions laterSessions : List String}
    {earlier later : Kept α} (hearlier : Keeping rows gap previousMax earlierSessions earlier)
    (hlater : Keeping rows gap (some earlier.previousMax) laterSessions later) (hgap : horizon ≤ gap) :
    Apart horizon earlier.rows later.rows ↔
      ¬ (gap = horizon ∧ 0 < horizon ∧ Touching rows gap earlierSessions laterSessions) := by
  constructor
  · rintro hapart ⟨rfl, hpos, t, hends, r', hr', hsession, hstart⟩
    obtain rfl := hends.unique hearlier.ends
    obtain ⟨r, hr, hlast⟩ := last_kept hearlier
    have hkept : r' ∈ later.rows :=
      (hlater.mem r').2 ⟨hr', hsession, fun m hm => by cases hm; omega⟩
    exact hapart r hr r' hkept (by omega)
  · rintro hboundary r hr r' hr' ⟨hafter, hwithin⟩
    have hbefore := starts_before hearlier hr
    have hstarts := starts_after hlater hr'
    obtain ⟨hmem, hsession, -⟩ := (hlater.mem r').1 hr'
    exact hboundary ⟨by omega, by omega, earlier.previousMax, hearlier.ends, r', hmem, hsession,
      by omega⟩

theorem apart_twice {earlierSessions midSessions laterSessions : List String} {previousMax : Option ℤ}
    {earlier mid later : Kept α} (hearlier : Keeping rows gap previousMax earlierSessions earlier)
    (hmid : Keeping rows gap (some earlier.previousMax) midSessions mid)
    (hlater : Keeping rows gap (some mid.previousMax) laterSessions later) (hgap : horizon ≤ gap) :
    Apart horizon earlier.rows later.rows := by
  rintro r hr r' hr' ⟨hafter, hwithin⟩
  obtain ⟨between, hbetween, hlast⟩ := last_kept hmid
  have hbefore := starts_before hearlier hr
  have hmidStarts := starts_after hmid hbetween
  have hstarts := starts_after hlater hr'
  omega

theorem apart_append {earlier later later' : List (Row α)} :
    Apart horizon earlier (later ++ later') ↔
      Apart horizon earlier later ∧ Apart horizon earlier later' :=
  ⟨fun h => ⟨fun r hr r' hr' => h r hr r' (mem_append_left _ hr'),
      fun r hr r' hr' => h r hr r' (mem_append_right _ hr')⟩,
    fun h r hr r' hr' => (mem_append.1 hr').elim (h.1 r hr r') (h.2 r hr r')⟩

theorem Passes.isolated_iff (h : Passes rows gap split) (hgap : horizon ≤ gap) :
    Isolated horizon split ↔ ¬ OnBoundary rows gap horizon := by
  obtain ⟨train, val, test, htrain, hval, htest, hsplitTrain, hsplitVal, hsplitTest, -⟩ := h.kept
  unfold Isolated
  rw [hsplitTrain, hsplitVal, hsplitTest, apart_append, apart_iff htrain hval hgap,
    apart_iff hval htest hgap]
  constructor
  · rintro ⟨⟨hnotVal, -⟩, hnotTest⟩ ⟨hsame, hpos, htouching⟩
    rcases htouching with htouching | htouching
    · exact hnotVal ⟨hsame, hpos, htouching⟩
    · exact hnotTest ⟨hsame, hpos, htouching⟩
  · intro hboundary
    exact ⟨⟨fun hval => hboundary ⟨hval.1, hval.2.1, .inl hval.2.2⟩,
      apart_twice htrain hval htest hgap⟩,
      fun htest => hboundary ⟨htest.1, htest.2.1, .inr htest.2.2⟩⟩

/-- A returned split is a partition of the rows by sessions, and keeps the labels of a split apart from
the rows of the later ones unless a row is exactly on the boundary of the gap. -/
theorem split_isolates_iff (h : chronologicalSplit rows gap = .ok split) (hgap : horizon ≤ gap) :
    Partitioned rows split ∧ (Isolated horizon split ↔ ¬ OnBoundary rows gap horizon) :=
  ⟨(chronologicalSplit_passes h).partitioned, (chronologicalSplit_passes h).isolated_iff hgap⟩

def sampleRows (second : ℤ) : List (Row Unit) :=
  [⟨"a-0", "a", 0, ()⟩, ⟨"b-0", "b", second, ()⟩, ⟨"c-0", "c", 200000000000, ()⟩]

def sampleSplit (second : ℤ) : Split Unit where
  train := [⟨"a-0", "a", 0, ()⟩]
  val := [⟨"b-0", "b", second, ()⟩]
  test := [⟨"c-0", "c", 200000000000, ()⟩]
  audit := ⟨60000000000, 0, true, true, "train", "train", ⟨["a"], ["b"], ["c"]⟩⟩

theorem split_isolates_iff_sample :
    Partitioned (sampleRows 70000000000) (sampleSplit 70000000000) ∧
      (Isolated 60000000000 (sampleSplit 70000000000) ↔
        ¬ OnBoundary (sampleRows 70000000000) 60000000000 60000000000) :=
  split_isolates_iff (by decide +kernel) le_rfl

/-- A validation row one minute after the only training row is inside its label interval, and the
audit says that the horizon is isolated. -/
theorem boundary_row_leaks :
    chronologicalSplit (sampleRows 60000000000) 60000000000 = .ok (sampleSplit 60000000000) ∧
      (sampleSplit 60000000000).audit.futureHorizonIsolated = true ∧
      ¬ Isolated 60000000000 (sampleSplit 60000000000) := by
  refine ⟨by decide +kernel, rfl, fun h => ?_⟩
  exact h.1 ⟨"a-0", "a", 0, ()⟩ (.head _) ⟨"b-0", "b", 60000000000, ()⟩ (.head _) (by decide)

end

end Parp.ChronologicalSplit
