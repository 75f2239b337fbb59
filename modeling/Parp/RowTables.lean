import Mathlib.Data.List.Induction
import Parp.OrderedDict

set_option autoImplicit false

/-!
# Tables of rows with a key

The statements of a database that write rows, and what deleting a part and writing it again leaves.
-/
namespace Parp.RowTables

open OrderedDict List

variable {κ α : Type}

theorem dict_ext {d d' : Dict κ α} (h : d.items = d'.items) : d = d' := by
  cases d
  cases d'
  cases h
  rfl

theorem filter_filter (p : κ × α → Bool) (d : Dict κ α) : (d.filter p).filter p = d.filter p :=
  dict_ext (by simp [Dict.filter])

variable [DecidableEq κ]

/-- `INSERT OR REPLACE`: the old row goes away, the new one to the end. -/
def replace (d : Dict κ α) (row : κ × α) : Dict κ α := (d.erase row.1).set row.1 row.2

def replaceAll (d : Dict κ α) (rows : List (κ × α)) : Dict κ α := rows.foldl replace d

/-- `INSERT OR IGNORE` -/
def insertOrIgnore (d : Dict κ α) (row : κ × α) : Dict κ α :=
  match d.get? row.1 with
  | some _ => d
  | none => d.set row.1 row.2

def ignoreAll (d : Dict κ α) (rows : List (κ × α)) : Dict κ α := rows.foldl insertOrIgnore d

/-- `INSERT ... ON CONFLICT DO UPDATE` -/
def upsert (d : Dict κ α) (k : κ) (new : α) (merge : α → α → α) : Dict κ α :=
  match d.get? k with
  | some old => d.set k (merge old new)
  | none => d.set k new

/-- `UPDATE` of the row under a key. -/
def update (d : Dict κ α) (k : κ) (change : α → α) : Dict κ α :=
  match d.get? k with
  | some old => d.set k (change old)
  | none => d

section

theorem replace_items (d : Dict κ α) (row : κ × α) :
    (replace d row).items = d.items.filter (fun e => e.1 ≠ row.1) ++ [row] := by
  have hnone : (d.erase row.1).get? row.1 = none := by
    rw [Dict.get?_erase, if_pos rfl]
  exact Dict.set_items_new hnone row.2

theorem replaceAll_items (d : Dict κ α) (rows : List (κ × α)) :
    (replaceAll d rows).items =
      d.items.filter (fun e => e.1 ∉ rows.map Prod.fst) ++ (replaceAll ∅ rows).items := by
  induction rows generalizing d with
  | nil =>
    change d.items = d.items.filter _ ++ []
    rw [append_nil, filter_eq_self.2 fun e _ => by simp]
  | cons row rows ih =>
    have hempty : (replace ∅ row : Dict κ α).items = [row] := by
      rw [replace_items]
      rfl
    change (replaceAll (replace d row) rows).items = _ ++ (replaceAll (replace ∅ row) rows).items
    rw [ih (replace d row), ih (replace ∅ row), replace_items, hempty, filter_append,
      List.filter_filter, append_assoc]
    congr 2
    funext e
    by_cases hrow : e.1 = row.1
    · simp [hrow]
    · simp [hrow]

theorem mem_replaceAll_empty {rows : List (κ × α)} {e : κ × α}
    (h : e ∈ (replaceAll (∅ : Dict κ α) rows).items) : e ∈ rows := by
  induction rows using List.reverseRecOn with
  | nil => cases h
  | append_singleton rows row ih =>
    have hlast : replaceAll (∅ : Dict κ α) (rows ++ [row]) = replace (replaceAll ∅ rows) row := by
      simp [replaceAll]
    rw [hlast, replace_items] at h
    rcases mem_append.1 h with h | h
    · exact mem_append_left _ (ih (mem_filter.1 h).1)
    · exact mem_append_right _ h

variable {p : κ × α → Bool} {rows : List (κ × α)} (hrows : ∀ row ∈ rows, p row = false)
include hrows

theorem filter_replaceAll (d : Dict κ α) : ((replaceAll d rows).filter p).items =
    (d.filter p).items.filter fun e => e.1 ∉ rows.map Prod.fst := by
  have hnone : (replaceAll (∅ : Dict κ α) rows).items.filter p = [] :=
    filter_eq_nil_iff.2 fun e he => by simp [hrows e (mem_replaceAll_empty he)]
  change (replaceAll d rows).items.filter p = _
  rw [replaceAll_items, filter_append, hnone, append_nil, filter_comm]
  rfl

theorem replaceAll_again (d : Dict κ α) :
    replaceAll ((replaceAll (d.filter p) rows).filter p) rows = replaceAll (d.filter p) rows := by
  apply dict_ext
  rw [replaceAll_items, replaceAll_items (d.filter p), filter_replaceAll hrows, filter_filter,
    List.filter_filter]
  simp

theorem filter_replaceAll_keys {q : κ → Bool} (hq : ∀ e, p e = q e.1) (d : Dict κ α) :
    (replaceAll d rows).filter p = d.filter p := by
  apply dict_ext
  rw [filter_replaceAll hrows]
  refine filter_eq_self.2 fun e he => ?_
  obtain ⟨-, hp⟩ := mem_filter.1 he
  have hout : e.1 ∉ rows.map Prod.fst := by
    intro hmem
    obtain ⟨row, hrow, heq⟩ := mem_map.1 hmem
    have hpart := hrows row hrow
    rw [hq] at hp hpart
    rw [← heq, hpart] at hp
    cases hp
  simpa using hout

theorem part_replaceAll (d : Dict κ α) :
    (replaceAll (d.filter p) rows).filter (fun e => !p e) = replaceAll ∅ rows := by
  apply dict_ext
  change (replaceAll (d.filter p) rows).items.filter _ = _
  rw [replaceAll_items, filter_append]
  have hrest : ((d.filter p).items.filter fun e => e.1 ∉ rows.map Prod.fst).filter (fun e => !p e) = [] := by
    refine filter_eq_nil_iff.2 fun e he => ?_
    have hp := (mem_filter.1 (mem_filter.1 he).1).2
    simp [hp]
  have hpart : (replaceAll (∅ : Dict κ α) rows).items.filter (fun e => !p e) =
      (replaceAll ∅ rows).items :=
    filter_eq_self.2 fun e he => by simp [hrows e (mem_replaceAll_empty he)]
  rw [hrest, hpart, nil_append]

end

section

theorem get?_eq_none {d : Dict κ α} {k : κ} : d.get? k = none ↔ k ∉ d.items.map Prod.fst := by
  constructor
  · intro h hmem
    obtain ⟨e, he, rfl⟩ := mem_map.1 hmem
    rw [Dict.get?_of_mem he] at h
    cases h
  · intro h
    cases hget : d.get? k with
    | none => rfl
    | some v => exact absurd (mem_map_of_mem (f := Prod.fst) (Dict.mem_of_get? hget)) h

theorem ignoreAll_snoc (d : Dict κ α) (rows : List (κ × α)) (row : κ × α) :
    ignoreAll d (rows ++ [row]) = insertOrIgnore (ignoreAll d rows) row := by
  simp [ignoreAll]

variable {p : κ × α → Bool} {rows : List (κ × α)} (hrows : ∀ row ∈ rows, p row = false)
include hrows

theorem filter_ignoreAll (d : Dict κ α) : (ignoreAll d rows).filter p = d.filter p := by
  induction rows using List.reverseRecOn with
  | nil => rfl
  | append_singleton rows row ih =>
    rw [ignoreAll_snoc, ← ih fun r hr => hrows r (mem_append_left _ hr)]
    unfold insertOrIgnore
    cases hget : (ignoreAll d rows).get? row.1 with
    | some old => rfl
    | none =>
      have hout : p (row.1, row.2) = false := hrows row (by simp)
      apply dict_ext
      change ((ignoreAll d rows).set row.1 row.2).items.filter p = _
      rw [Dict.set_items_new hget, filter_append, filter_cons_of_neg (by simp [hout]),
        filter_nil, append_nil]
      rfl

theorem ignoreAll_items {q : κ → Bool} (hq : ∀ e, p e = q e.1) (d : Dict κ α) :
    (ignoreAll (d.filter p) rows).items = (d.filter p).items ++ (ignoreAll ∅ rows).items := by
  induction rows using List.reverseRecOn with
  | nil => exact (append_nil _).symm
  | append_singleton rows row ih =>
    have ih' := ih fun r hr => hrows r (mem_append_left _ hr)
    have hnew : row.1 ∉ (d.filter p).items.map Prod.fst := by
      intro hmem
      obtain ⟨e, he, heq⟩ := mem_map.1 hmem
      have hin := (mem_filter.1 he).2
      have hout := hrows row (by simp)
      rw [hq] at hin hout
      rw [heq, hout] at hin
      cases hin
    have hsame : (ignoreAll (d.filter p) rows).get? row.1 = none ↔
        (ignoreAll ∅ rows).get? row.1 = none := by
      rw [get?_eq_none, get?_eq_none, ih', map_append, mem_append, not_or]
      exact and_iff_right hnew
    rw [ignoreAll_snoc, ignoreAll_snoc]
    unfold insertOrIgnore
    cases hget : (ignoreAll ∅ rows).get? row.1 with
    | some old =>
      cases hget' : (ignoreAll (d.filter p) rows).get? row.1 with
      | some old' => exact ih'
      | none => rw [hsame.1 hget'] at hget; cases hget
    | none =>
      rw [hsame.2 hget]
      change ((ignoreAll (d.filter p) rows).set row.1 row.2).items = _ ++
        ((ignoreAll ∅ rows).set row.1 row.2).items
      rw [Dict.set_items_new (hsame.2 hget), Dict.set_items_new hget, ih', append_assoc]

theorem part_ignoreAll {q : κ → Bool} (hq : ∀ e, p e = q e.1) (d : Dict κ α) :
    (ignoreAll (d.filter p) rows).filter (fun e => !p e) =
      (ignoreAll ∅ rows).filter (fun e => !p e) := by
  apply dict_ext
  change (ignoreAll (d.filter p) rows).items.filter _ = (ignoreAll ∅ rows).items.filter _
  rw [ignoreAll_items hrows hq, filter_append, filter_eq_nil_iff.2, nil_append]
  intro e he
  simp [(mem_filter.1 he).2]

end

theorem filter_update {p : κ × α → Bool} {d : Dict κ α} {k : κ} {change : α → α}
    (hold : ∀ old, d.get? k = some old → p (k, old) = false ∧ p (k, change old) = false) :
    (update d k change).filter p = d.filter p := by
  unfold update
  cases hget : d.get? k with
  | none => rfl
  | some old =>
    obtain ⟨hbefore, hafter⟩ := hold old hget
    obtain ⟨left, right, hsplit, hset⟩ := Dict.set_items_old hget (change old)
    apply dict_ext
    change (d.set k (change old)).items.filter p = d.items.filter p
    rw [hset, hsplit, filter_append, filter_append, filter_cons_of_neg (by simp [hafter]),
      filter_cons_of_neg (by simp [hbefore])]

theorem get?_update (d : Dict κ α) (k : κ) (change : α → α) (k' : κ) :
    (update d k change).get? k' = (d.get? k').map fun v => if k' = k then change v else v := by
  unfold update
  cases hget : d.get? k with
  | none =>
    cases hget' : d.get? k' with
    | none => rfl
    | some v =>
      have hne : k' ≠ k := by
        rintro rfl
        rw [hget] at hget'
        cases hget'
      simp [hne]
  | some old =>
    change (d.set k (change old)).get? k' = _
    rw [Dict.get?_set]
    by_cases hk : k' = k
    · subst hk
      simp [hget]
    · simp [hk]

theorem get?_upsert (d : Dict κ α) (k : κ) (new : α) (merge : α → α → α) (k' : κ) :
    (upsert d k new merge).get? k' =
      if k' = k then some (match d.get? k with | some old => merge old new | none => new)
      else d.get? k' := by
  unfold upsert
  cases hget : d.get? k with
  | none => exact Dict.get?_set d k new k'
  | some old => exact Dict.get?_set d k (merge old new) k'

theorem set_self {d : Dict κ α} {k : κ} {v : α} (h : d.get? k = some v) : d.set k v = d := by
  obtain ⟨left, right, hsplit, hset⟩ := Dict.set_items_old h v
  exact dict_ext (hset.trans hsplit.symm)

theorem upsert_absorbed {d : Dict κ α} {k : κ} {old new : α} {merge : α → α → α}
    (h : d.get? k = some old) (hmerge : merge old new = old) : upsert d k new merge = d := by
  unfold upsert
  rw [h]
  change d.set k (merge old new) = d
  rw [hmerge, set_self h]

end Parp.RowTables
