import Mathlib.Data.List.Chain
import Mathlib.Data.List.MinMax
import Mathlib.Data.List.Nodup

set_option autoImplicit false

/-!
# Step timelines

Rows of a time and of what holds from then on. The value at a time is that of the latest row that
is not after it, in whatever order the rows stand.
-/
namespace Parp.StepTimeline

open List

variable {τ α β : Type*} [LinearOrder τ] {value : α → β} {rows kept : List (τ × α)}
  {row : τ × α} {t : τ}

def valueAt (value : α → β) (rows : List (τ × α)) (t : τ) : Option β :=
  ((rows.filter fun row => row.1 ≤ t).argmax Prod.fst).map fun row => value row.2

theorem valueAt_eq_none_iff : valueAt value rows t = none ↔ ∀ row ∈ rows, t < row.1 := by
  simp [valueAt]

theorem exists_latest {v : β} (h : valueAt value rows t = some v) :
    ∃ row ∈ rows, row.1 ≤ t ∧ (∀ other ∈ rows, other.1 ≤ t → other.1 ≤ row.1) ∧
      value row.2 = v := by
  obtain ⟨row, hrow, hvalue⟩ := Option.map_eq_some_iff.1 h
  have hmem := mem_filter.1 (argmax_mem hrow)
  refine ⟨row, hmem.1, by simpa using hmem.2, fun other hother hle => ?_, hvalue⟩
  exact le_of_mem_argmax (mem_filter.2 ⟨hother, by simpa using hle⟩) hrow

theorem valueAt_of_latest (hdistinct : (rows.map Prod.fst).Nodup) (hmem : row ∈ rows)
    (hle : row.1 ≤ t) (hlatest : ∀ other ∈ rows, other.1 ≤ t → other.1 ≤ row.1) :
    valueAt value rows t = some (value row.2) := by
  cases hvalue : valueAt value rows t with
  | none => exact absurd hle (not_le.2 (valueAt_eq_none_iff.1 hvalue row hmem))
  | some v =>
    obtain ⟨latest, hlatest', hle', hbest, rfl⟩ := exists_latest hvalue
    have hsame := inj_on_of_nodup_map hdistinct hlatest' hmem
      (le_antisymm (hlatest latest hlatest' hle') (hbest row hmem hle))
    rw [hsame]

theorem valueAt_perm {rows' : List (τ × α)} (hdistinct : (rows.map Prod.fst).Nodup)
    (h : rows.Perm rows') : valueAt value rows t = valueAt value rows' t := by
  cases hvalue : valueAt value rows t with
  | none =>
    symm
    rw [valueAt_eq_none_iff] at hvalue ⊢
    exact fun row hrow => hvalue row (h.mem_iff.2 hrow)
  | some v =>
    obtain ⟨latest, hmem, hle, hlatest, rfl⟩ := exists_latest hvalue
    symm
    refine valueAt_of_latest ((h.map Prod.fst).nodup_iff.1 hdistinct) (h.mem_iff.1 hmem) hle ?_
    exact fun other hother => hlatest other (h.mem_iff.2 hother)

theorem valueAt_eq_of_still {s : τ} (hle : s ≤ t)
    (hstill : ∀ row ∈ rows, row.1 ≤ t → row.1 ≤ s) :
    valueAt value rows t = valueAt value rows s := by
  have hfilter : (rows.filter fun row => row.1 ≤ t) = rows.filter fun row => row.1 ≤ s := by
    refine filter_congr fun row hrow => ?_
    simpa using ⟨hstill row hrow, fun hrow' => hrow'.trans hle⟩
  unfold valueAt
  rw [hfilter]

theorem valueAt_cons_hidden
    (hhidden : t < row.1 ∨ ∃ other ∈ rows, row.1 < other.1 ∧ other.1 ≤ t)
    (hdistinct : (rows.map Prod.fst).Nodup) :
    valueAt value (row :: rows) t = valueAt value rows t := by
  rcases hhidden with hearly | ⟨other, hother, hlater, hother'⟩
  · unfold valueAt
    rw [filter_cons_of_neg (by simpa using hearly)]
  · cases hvalue : valueAt value (row :: rows) t with
    | none =>
      exact absurd hother' (not_le.2 (valueAt_eq_none_iff.1 hvalue other (.tail _ hother)))
    | some v =>
      obtain ⟨latest, hmem, hle, hlatest, rfl⟩ := exists_latest hvalue
      have hafter := hlater.trans_le (hlatest other (.tail _ hother) hother')
      rcases mem_cons.1 hmem with rfl | hmem
      · exact absurd hafter (lt_irrefl _)
      · symm
        exact valueAt_of_latest hdistinct hmem hle fun other hother =>
          hlatest other (.tail _ hother)

def Ordered (rows : List (τ × α)) : Prop :=
  rows.Pairwise fun earlier later => earlier.1 < later.1

theorem Ordered.distinct (h : Ordered rows) : (rows.map Prod.fst).Nodup := by
  refine pairwise_map.2 (h.imp fun hlt => ?_)
  exact hlt.ne

theorem Ordered.of_mem_dropWhile (h : Ordered rows) (early : τ → Bool)
    (hearly : ∀ s t, s < t → early t = true → early s = true)
    (hmem : row ∈ rows.dropWhile fun row => early row.1) : early row.1 = false := by
  induction rows with
  | nil => cases hmem
  | cons first rows ih =>
    obtain ⟨hfirst, hrows⟩ := pairwise_cons.1 h
    rw [dropWhile_cons] at hmem
    split_ifs at hmem with hdropped
    · exact ih hrows hmem
    · rcases mem_cons.1 hmem with rfl | hmem
      · simpa using hdropped
      · by_contra hlate
        exact hdropped (hearly _ _ (hfirst row hmem) (by simpa using hlate))

theorem valueAt_append {before after : List (τ × α)} (hordered : Ordered (before ++ after))
    (hbefore : ∀ row ∈ before, row.1 ≤ t) (hafter : ∀ row ∈ after, t < row.1) :
    valueAt value (before ++ after) t = before.getLast?.map fun row => value row.2 := by
  rcases eq_nil_or_concat before with rfl | ⟨earlier, last, rfl⟩
  · exact valueAt_eq_none_iff.2 hafter
  · rw [concat_eq_append, getLast?_concat, Option.map_some]
    rw [concat_eq_append] at hordered hbefore
    refine valueAt_of_latest hordered.distinct (by simp) (hbefore last (by simp)) ?_
    intro other hother hle
    rcases mem_append.1 hother with hother | hother
    · rcases mem_append.1 hother with hother | hother
      · exact ((pairwise_append.1 (pairwise_append.1 hordered).1).2.2 other hother last
          (by simp)).le
      · rw [mem_singleton.1 hother]
    · exact absurd hle (not_le.2 (hafter other hother))

theorem valueAt_cons (hordered : Ordered (row :: rows)) : valueAt value (row :: rows) t =
    if row.1 ≤ t then (valueAt value rows t).or (some (value row.2)) else none := by
  obtain ⟨hfirst, hrows⟩ := pairwise_cons.1 hordered
  split_ifs with hle
  · cases hvalue : valueAt value rows t with
    | none =>
      have hlater := valueAt_eq_none_iff.1 hvalue
      refine valueAt_of_latest hordered.distinct (.head _) hle fun other hother hother' => ?_
      rcases mem_cons.1 hother with rfl | hother
      · rfl
      · exact absurd hother' (not_le.2 (hlater other hother))
    | some v =>
      obtain ⟨latest, hmem, hle', -, -⟩ := exists_latest hvalue
      rw [valueAt_cons_hidden (.inr ⟨latest, hmem, hfirst latest hmem, hle'⟩)
        (Ordered.distinct hrows), hvalue]
      rfl
  · refine valueAt_eq_none_iff.2 fun other hother => ?_
    rcases mem_cons.1 hother with rfl | hother
    · exact not_le.1 hle
    · exact (not_le.1 hle).trans (hfirst other hother)

def Changing (value : α → β) (rows : List (τ × α)) : Prop :=
  rows.IsChain fun earlier later => value earlier.2 ≠ value later.2

theorem Changing.valueAt_ne (h : Changing value rows) (hordered : Ordered rows)
    (hmem : row ∈ rows) (ht : t < row.1)
    (hbetween : ∀ other ∈ rows, other.1 < row.1 → other.1 ≤ t) :
    valueAt value rows t ≠ some (value row.2) := by
  obtain ⟨before, after, rfl⟩ := append_of_mem hmem
  obtain ⟨-, hrest, hbefore⟩ := pairwise_append.1 hordered
  have hafter := (pairwise_cons.1 hrest).1
  rw [valueAt_append hordered]
  · intro hlast
    obtain ⟨last, hlast, hsame⟩ := Option.map_eq_some_iff.1 hlast
    exact (isChain_append.1 h).2.2 last hlast row rfl hsame
  · exact fun other hother => hbetween other (by simp [hother]) (hbefore other hother row (by simp))
  · intro other hother
    rcases mem_cons.1 hother with rfl | hother
    · exact ht
    · exact ht.trans (hafter other hother)

def Splits (value : α → β) (rows : List (τ × α)) (row : τ × α) : Prop :=
  ∃ before ∈ rows, ∃ after ∈ rows, before.1 < row.1 ∧ row.1 < after.1 ∧
    (∀ other ∈ rows, other.1 ≤ before.1 ∨ after.1 ≤ other.1) ∧
    value before.2 = value after.2 ∧ value row.2 ≠ value before.2

theorem not_agree_of_splits (hdistinct : ((row :: rows).map Prod.fst).Nodup) (hkept : kept ⊆ rows)
    (hordered : Ordered kept) (hchanging : Changing value kept)
    (hagree : ∀ t, valueAt value kept t = valueAt value rows t) (hsplits : Splits value rows row) :
    ∃ t, valueAt value (row :: kept) t ≠ valueAt value (row :: rows) t := by
  obtain ⟨before, hbefore, after, hafter, hlt, hlt', hbetween, hsame, hother⟩ := hsplits
  have hrows : (rows.map Prod.fst).Nodup := (nodup_cons.1 hdistinct).2
  have hshown : valueAt value rows after.1 = some (value after.2) :=
    valueAt_of_latest hrows hafter le_rfl fun _ _ hle => hle
  have hshown' : valueAt value kept before.1 = some (value after.2) := by
    rw [hagree, ← hsame]
    exact valueAt_of_latest hrows hbefore le_rfl fun _ _ hle => hle
  -- the later neighbour has been dropped: it did not change the value before it
  have hdropped : after ∉ kept := by
    intro hmem
    refine hchanging.valueAt_ne hordered hmem (hlt.trans hlt') (fun next hnext hlater => ?_) hshown'
    exact (hbetween next (hkept hnext)).resolve_right (not_le.2 hlater)
  refine ⟨after.1, ?_⟩
  rw [valueAt_cons_hidden (.inr ⟨after, hafter, hlt', le_rfl⟩) hrows, hshown]
  rw [@valueAt_of_latest _ _ _ _ _ _ row _ _ (.head _) hlt'.le]
  · rw [← hsame]
    exact fun h => hother (Option.some.inj h)
  · intro next hnext hle
    rcases mem_cons.1 hnext with rfl | hnext
    · rfl
    · rcases hbetween next (hkept hnext) with hearly | hlate
      · exact hearly.trans hlt.le
      · have hequal := inj_on_of_nodup_map hrows (hkept hnext) hafter (le_antisymm hle hlate)
        exact absurd (hequal ▸ hnext) hdropped
  · refine nodup_cons.2 ⟨fun hmem => (nodup_cons.1 hdistinct).1 ?_, hordered.distinct⟩
    exact map_subset Prod.fst hkept hmem

theorem exists_next {s : τ} (h : ∃ other ∈ rows, s < other.1) :
    ∃ next ∈ rows, s < next.1 ∧ ∀ other ∈ rows, s < other.1 → next.1 ≤ other.1 := by
  obtain ⟨other, hother, hlt⟩ := h
  have hmem : other ∈ rows.filter fun row => s < row.1 :=
    mem_filter.2 ⟨hother, by simpa using hlt⟩
  cases hnext : (rows.filter fun row => s < row.1).argmin Prod.fst with
  | none =>
    rw [argmin_eq_none.1 hnext] at hmem
    cases hmem
  | some next =>
    have hmem' := mem_filter.1 (argmin_mem hnext)
    refine ⟨next, hmem'.1, by simpa using hmem'.2, fun later hlater hlt' => ?_⟩
    exact le_of_mem_argmin (mem_filter.2 ⟨hlater, by simpa using hlt'⟩) hnext

theorem latest_cons (h : ∀ other ∈ rows, other.1 ≤ t → other.1 ≤ row.1) :
    ∀ other ∈ row :: rows, other.1 ≤ t → other.1 ≤ row.1 := by
  intro other hother hle
  rcases mem_cons.1 hother with rfl | hother
  · rfl
  · exact h other hother hle

theorem unsplit_value (hrows : (rows.map Prod.fst).Nodup)
    (hnew : ∀ other ∈ rows, other.1 ≠ row.1)
    (hagree : ∀ t, valueAt value kept t = valueAt value rows t)
    (hsplits : ¬ Splits value rows row) (hlater : ∃ other ∈ rows, row.1 < other.1)
    (hstill : ∀ next ∈ rows, (∀ other ∈ rows, row.1 < other.1 → next.1 ≤ other.1) →
      ∀ other ∈ kept, other.1 ≤ next.1 → other.1 ≤ row.1) :
    valueAt value kept row.1 = some (value row.2) := by
  obtain ⟨next, hnext, hlt, hfirst⟩ := exists_next hlater
  have hshown : valueAt value kept row.1 = some (value next.2) := by
    rw [← valueAt_eq_of_still hlt.le (hstill next hnext hfirst), hagree]
    exact valueAt_of_latest hrows hnext le_rfl fun _ _ hle => hle
  obtain ⟨before, hbefore, hle, hlatest, hsame⟩ := exists_latest ((hagree row.1).symm.trans hshown)
  have hneighbours : ∀ other ∈ rows, other.1 ≤ before.1 ∨ next.1 ≤ other.1 := fun other hother =>
    (le_or_gt other.1 row.1).imp (hlatest other hother) (hfirst other hother)
  rw [hshown]
  by_contra hother
  refine hsplits ⟨before, hbefore, next, hnext, lt_of_le_of_ne hle (hnew before hbefore), hlt,
    hneighbours, hsame, fun hvalue => hother ?_⟩
  rw [hvalue, hsame]

theorem agree_of_not_splits (hdistinct : ((row :: rows).map Prod.fst).Nodup) (hkept : kept ⊆ rows)
    (hordered : Ordered kept) (hagree : ∀ t, valueAt value kept t = valueAt value rows t)
    (hsplits : ¬ Splits value rows row) (t : τ) :
    valueAt value (row :: kept) t = valueAt value (row :: rows) t := by
  have hrows : (rows.map Prod.fst).Nodup := (nodup_cons.1 hdistinct).2
  have hnew : ∀ other ∈ rows, other.1 ≠ row.1 := fun other hother hsame =>
    (nodup_cons.1 hdistinct).1 (mem_map.2 ⟨other, hother, hsame⟩)
  have hdistinct' : ((row :: kept).map Prod.fst).Nodup :=
    nodup_cons.2 ⟨fun hmem => (nodup_cons.1 hdistinct).1
      (map_subset Prod.fst hkept hmem), hordered.distinct⟩
  by_cases hearly : t < row.1
  · rw [valueAt_cons_hidden (.inl hearly) hrows, valueAt_cons_hidden (.inl hearly)
      hordered.distinct, hagree]
  by_cases hlater : ∃ other ∈ rows, row.1 < other.1 ∧ other.1 ≤ t
  · rw [valueAt_cons_hidden (.inr hlater) hrows]
    by_cases hlater' : ∃ other ∈ kept, row.1 < other.1 ∧ other.1 ≤ t
    · rw [valueAt_cons_hidden (.inr hlater') hordered.distinct, hagree]
    · have hstill : ∀ other ∈ kept, other.1 ≤ t → other.1 ≤ row.1 := fun other hother hle =>
        not_lt.1 fun hlt => hlater' ⟨other, hother, hlt, hle⟩
      rw [valueAt_of_latest hdistinct' (.head _) (not_lt.1 hearly) (latest_cons hstill), ← hagree,
        valueAt_eq_of_still (not_lt.1 hearly) hstill]
      symm
      obtain ⟨other, hother, hlt, hle⟩ := hlater
      refine unsplit_value hrows hnew hagree hsplits ⟨other, hother, hlt⟩ fun next hnext hfirst => ?_
      exact fun earlier hearlier hle' =>
        hstill earlier hearlier (hle'.trans ((hfirst other hother hlt).trans hle))
  · have hstill : ∀ other ∈ rows, other.1 ≤ t → other.1 ≤ row.1 := fun other hother hle =>
      not_lt.1 fun hlt => hlater ⟨other, hother, hlt, hle⟩
    rw [valueAt_of_latest hdistinct' (.head _) (not_lt.1 hearly)
      (latest_cons fun other hother => hstill other (hkept hother)),
      valueAt_of_latest hdistinct (.head _) (not_lt.1 hearly) (latest_cons hstill)]

theorem agree_cons_iff (hdistinct : ((row :: rows).map Prod.fst).Nodup) (hkept : kept ⊆ rows)
    (hordered : Ordered kept) (hchanging : Changing value kept)
    (hagree : ∀ t, valueAt value kept t = valueAt value rows t) :
    (∀ t, valueAt value (row :: kept) t = valueAt value (row :: rows) t) ↔
      ¬ Splits value rows row := by
  constructor
  · intro hnew hsplits
    obtain ⟨t, ht⟩ := not_agree_of_splits hdistinct hkept hordered hchanging hagree hsplits
    exact ht (hnew t)
  · exact agree_of_not_splits hdistinct hkept hordered hagree

end Parp.StepTimeline
