import Mathlib.Data.List.Nodup

set_option autoImplicit false

/-!
# Insertion-ordered dictionaries

A dictionary is its items in the order of their first insertion; no key occurs twice.
-/
namespace Parp.OrderedDict

structure Dict (κ α : Type) where
  items : List (κ × α)
  nodup : (items.map Prod.fst).Nodup

namespace Dict

open List

variable {κ α : Type}

def empty : Dict κ α := ⟨[], nodup_nil⟩

instance : EmptyCollection (Dict κ α) := ⟨empty⟩

def values (d : Dict κ α) : List α := d.items.map Prod.snd

def filter (p : κ × α → Bool) (d : Dict κ α) : Dict κ α :=
  ⟨d.items.filter p, d.nodup.sublist (filter_sublist.map Prod.fst)⟩

theorem mem_filter {p : κ × α → Bool} {d : Dict κ α} {e : κ × α} :
    e ∈ (d.filter p).items ↔ e ∈ d.items ∧ p e = true := List.mem_filter

variable [DecidableEq κ]

def get? (d : Dict κ α) (k : κ) : Option α := (d.items.find? fun e => e.1 = k).map Prod.snd

/-- `d[k] = v`: an old key keeps its place, a new one goes to the end. -/
def setItems (items : List (κ × α)) (k : κ) (v : α) : List (κ × α) :=
  if k ∈ items.map Prod.fst then items.map fun e => if e.1 = k then (k, v) else e
  else items ++ [(k, v)]

theorem setItems_keys (items : List (κ × α)) (k : κ) (v : α) :
    (setItems items k v).map Prod.fst =
      if k ∈ items.map Prod.fst then items.map Prod.fst else items.map Prod.fst ++ [k] := by
  unfold setItems
  by_cases h : k ∈ items.map Prod.fst
  · rw [if_pos h, if_pos h, map_map]
    apply map_congr_left
    intro e _
    by_cases he : e.1 = k
    · simp [he]
    · simp [he]
  · rw [if_neg h, if_neg h, map_append]
    rfl

def set (d : Dict κ α) (k : κ) (v : α) : Dict κ α where
  items := setItems d.items k v
  nodup := by
    rw [setItems_keys]
    by_cases h : k ∈ d.items.map Prod.fst
    · rw [if_pos h]
      exact d.nodup
    · rw [if_neg h]
      exact d.nodup.append (nodup_singleton k) (by simpa using h)

/-- `d.pop(k, None)`, without its result. -/
def erase (d : Dict κ α) (k : κ) : Dict κ α := d.filter fun e => e.1 ≠ k

variable {d : Dict κ α} {k : κ} {v : α}

theorem mem_erase {e : κ × α} :
    e ∈ (d.erase k).items ↔ e ∈ d.items ∧ e.1 ≠ k := by
  simp [erase, mem_filter]

theorem mem_set {e : κ × α} :
    e ∈ (d.set k v).items ↔ e = (k, v) ∨ e ∈ d.items ∧ e.1 ≠ k := by
  change e ∈ setItems d.items k v ↔ _
  unfold setItems
  by_cases h : k ∈ d.items.map Prod.fst
  · rw [if_pos h, mem_map]
    constructor
    · rintro ⟨f, hf, rfl⟩
      by_cases hk : f.1 = k
      · exact .inl (if_pos hk)
      · rw [if_neg hk]
        exact .inr ⟨hf, hk⟩
    · rintro (rfl | ⟨he, hk⟩)
      · obtain ⟨f, hf, hk⟩ := mem_map.1 h
        exact ⟨f, hf, if_pos hk⟩
      · exact ⟨e, he, if_neg hk⟩
  · rw [if_neg h, mem_append, mem_singleton]
    constructor
    · rintro (he | rfl)
      · exact .inr ⟨he, fun hk => h (hk ▸ mem_map_of_mem he)⟩
      · exact .inl rfl
    · rintro (rfl | ⟨he, -⟩)
      · exact .inr rfl
      · exact .inl he

theorem get?_of_mem (h : (k, v) ∈ d.items) : d.get? k = some v := by
  obtain ⟨items, hnodup⟩ := d
  change (items.find? fun e => e.1 = k).map Prod.snd = some v
  induction items with
  | nil => cases h
  | cons f items ih =>
    obtain ⟨hhead, htail⟩ := nodup_cons.1 hnodup
    rcases mem_cons.1 h with rfl | hrest
    · simp
    · have hne : f.1 ≠ k := by
        intro hk
        exact hhead (hk ▸ mem_map_of_mem (f := Prod.fst) hrest)
      rw [find?_cons_of_neg (by simpa using hne)]
      exact ih htail hrest

theorem mem_of_get? (h : d.get? k = some v) : (k, v) ∈ d.items := by
  unfold get? at h
  obtain ⟨e, hfind, hv⟩ := Option.map_eq_some_iff.1 h
  have hk : e.1 = k := by simpa using find?_some hfind
  obtain ⟨k', v'⟩ := e
  dsimp only at hk hv
  subst hk hv
  exact mem_of_find?_eq_some hfind

theorem get?_set (d : Dict κ α) (k : κ) (v : α) (k' : κ) :
    (d.set k v).get? k' = if k' = k then some v else d.get? k' := by
  by_cases hk : k' = k
  · subst hk
    rw [if_pos rfl]
    exact get?_of_mem (mem_set.2 (.inl rfl))
  · rw [if_neg hk]
    ext w
    constructor
    · intro h
      rcases mem_set.1 (mem_of_get? h) with heq | ⟨hmem, -⟩
      · cases heq
        exact absurd rfl hk
      · exact get?_of_mem hmem
    · intro h
      exact get?_of_mem (mem_set.2 (.inr ⟨mem_of_get? h, hk⟩))

theorem get?_erase (d : Dict κ α) (k k' : κ) :
    (d.erase k).get? k' = if k' = k then none else d.get? k' := by
  by_cases hk : k' = k
  · subst hk
    rw [if_pos rfl]
    refine Option.map_eq_none_iff.2 (find?_eq_none.2 fun e he => ?_)
    simpa using (mem_erase.1 he).2
  · rw [if_neg hk]
    ext w
    constructor
    · intro h
      exact get?_of_mem (mem_erase.1 (mem_of_get? h)).1
    · intro h
      exact get?_of_mem (mem_erase.2 ⟨mem_of_get? h, hk⟩)

theorem erase_perm (h : d.get? k = some v) :
    d.items.Perm ((k, v) :: (d.erase k).items) := by
  obtain ⟨left, right, hsplit⟩ := append_of_mem (mem_of_get? h)
  have hnodup := d.nodup
  rw [hsplit, map_append, map_cons] at hnodup
  obtain ⟨-, hright, hapart⟩ := nodup_append.1 hnodup
  have hkeep : ∀ es : List (κ × α), k ∉ es.map Prod.fst →
      es.filter (fun e => e.1 ≠ k) = es := by
    intro es hnot
    refine filter_eq_self.2 fun e he => ?_
    have hne : e.1 ≠ k := by
      rintro rfl
      exact hnot (mem_map_of_mem he)
    simpa using hne
  have herase : (d.erase k).items = left ++ right := by
    change d.items.filter (fun e => e.1 ≠ k) = _
    rw [hsplit, filter_append, filter_cons_of_neg (by simp),
      hkeep left fun hleft => hapart k hleft k (.head _) rfl, hkeep right (nodup_cons.1 hright).1]
  rw [herase, hsplit]
  exact perm_middle

theorem get?_of_map {β : Type} {d : Dict κ α} {d' : Dict κ β} {g : κ → α → β}
    (h : d'.items = d.items.map fun e => (e.1, g e.1 e.2)) (k : κ) :
    d'.get? k = (d.get? k).map (g k) := by
  unfold get?
  rw [h, find?_map, Option.map_map, Option.map_map]
  change (d.items.find? fun e => e.1 = k).map (fun e => g e.1 e.2) = _
  cases hfind : d.items.find? fun e => e.1 = k with
  | none => rfl
  | some e =>
    have hk : e.1 = k := by simpa using find?_some hfind
    subst hk
    rfl

theorem set_items_map (h : d.get? k = some v) (f : α → α) :
    (d.set k (f v)).items = d.items.map fun e => (e.1, if e.1 = k then f e.2 else e.2) := by
  refine (if_pos (mem_map_of_mem (f := Prod.fst) (mem_of_get? h))).trans ?_
  apply map_congr_left
  rintro ⟨k', v'⟩ hmem
  dsimp only
  by_cases hk : k' = k
  · subst hk
    have hv : v' = v := Option.some.inj ((get?_of_mem hmem).symm.trans h)
    rw [if_pos rfl, if_pos rfl, hv]
  · rw [if_neg hk, if_neg hk]

theorem set_items_new (h : d.get? k = none) (v : α) :
    (d.set k v).items = d.items ++ [(k, v)] := by
  refine if_neg fun hmem => ?_
  obtain ⟨e, he, rfl⟩ := mem_map.1 hmem
  rw [get?_of_mem he] at h
  cases h

theorem set_items_old (h : d.get? k = some v) (w : α) :
    ∃ left right, d.items = left ++ (k, v) :: right ∧
      (d.set k w).items = left ++ (k, w) :: right := by
  have hmem := mem_of_get? h
  obtain ⟨left, right, hsplit⟩ := append_of_mem hmem
  refine ⟨left, right, hsplit, ?_⟩
  have hnodup := d.nodup
  rw [hsplit, map_append, map_cons] at hnodup
  obtain ⟨-, hright, hapart⟩ := nodup_append.1 hnodup
  have hset : (d.set k w).items = d.items.map fun e => if e.1 = k then (k, w) else e :=
    if_pos (mem_map_of_mem (f := Prod.fst) hmem)
  have hkeep : ∀ es : List (κ × α), k ∉ es.map Prod.fst →
      es.map (fun e => if e.1 = k then (k, w) else e) = es := by
    intro es hnot
    refine (map_congr_left fun e he => if_neg ?_).trans (map_id es)
    rintro rfl
    exact hnot (mem_map_of_mem he)
  rw [hset, hsplit, map_append, map_cons, if_pos rfl,
    hkeep left fun hleft => hapart k hleft k (.head _) rfl, hkeep right (nodup_cons.1 hright).1]

section

variable (key : α → κ)

/-- `d.setdefault(key, []).append(x)` for every `x` of a list. -/
def groupBy (xs : List α) : Dict κ (List α) :=
  xs.foldl (fun d x => d.set (key x) ((d.get? (key x)).getD [] ++ [x])) ∅

/-- `{key: x for x in xs}`: the last one under a key stays. -/
def lastBy (xs : List α) : Dict κ α := xs.foldl (fun d x => d.set (key x) x) ∅

theorem groupBy_get? (xs : List α) (k : κ) :
    ((groupBy key xs).get? k).getD [] = xs.filter fun x => key x = k := by
  have hfrom (d : Dict κ (List α)) :
      ((xs.foldl (fun d x => d.set (key x) ((d.get? (key x)).getD [] ++ [x])) d).get? k).getD [] =
        (d.get? k).getD [] ++ xs.filter fun x => key x = k := by
    induction xs generalizing d with
    | nil => simp
    | cons x xs ih =>
      rw [foldl_cons, ih, get?_set]
      by_cases hk : k = key x
      · subst hk
        simp
      · have hother : key x ≠ k := fun h => hk h.symm
        simp [hk, hother]
  exact hfrom ∅

theorem groupBy_mem {xs : List α} {k : κ} {group : List α} :
    (k, group) ∈ (groupBy key xs).items → group = xs.filter (fun x => key x = k) := by
  intro hmem
  have hget := groupBy_get? key xs k
  rw [get?_of_mem hmem] at hget
  exact hget

theorem mem_groupBy {xs : List α} {x : α} (hx : x ∈ xs) :
    (key x, xs.filter fun y => key y = key x) ∈ (groupBy key xs).items := by
  have hget := groupBy_get? key xs (key x)
  cases hgroup : (groupBy key xs).get? (key x) with
  | none =>
    have hmem : x ∈ xs.filter fun y => key y = key x := by simpa using hx
    rw [← hget, hgroup] at hmem
    cases hmem
  | some group =>
    rw [hgroup] at hget
    exact hget ▸ mem_of_get? hgroup

theorem groups_perm {keys : List κ} {xs : List α} (hkeys : keys.Nodup)
    (hall : ∀ x ∈ xs, key x ∈ keys) :
    (keys.flatMap fun k => xs.filter fun x => key x = k).Perm xs := by
  induction keys generalizing xs with
  | nil =>
    cases xs with
    | nil => rfl
    | cons x xs => exact absurd (hall x (.head _)) not_mem_nil
  | cons k keys ih =>
    obtain ⟨hk, hkeys⟩ := nodup_cons.1 hkeys
    have hothers : (keys.flatMap fun k' => xs.filter fun x => key x = k') =
        keys.flatMap fun k' => (xs.filter fun x => ¬ key x = k).filter fun x => key x = k' := by
      refine flatMap_congr fun k' hk' => ?_
      rw [filter_filter]
      refine filter_congr fun x _ => ?_
      by_cases hx : key x = k'
      · have hne : k' ≠ k := fun h => hk (h ▸ hk')
        simp [hx, hne]
      · simp [hx]
    rw [flatMap_cons, hothers]
    refine List.Perm.trans (List.Perm.append_left _ (ih hkeys fun x hx => ?_))
      ((List.Perm.of_eq (by simp)).trans (filter_append_perm (fun x => key x = k) xs))
    obtain ⟨hmem, hne⟩ := List.mem_filter.1 hx
    exact (mem_cons.1 (hall x hmem)).resolve_left (of_decide_eq_true hne)

theorem lastBy_get? (xs : List α) (k : κ) :
    (lastBy key xs).get? k = (xs.filter fun x => key x = k).getLast? := by
  have hfrom (d : Dict κ α) : (xs.foldl (fun d x => d.set (key x) x) d).get? k =
      (xs.filter fun x => key x = k).getLast?.or (d.get? k) := by
    induction xs generalizing d with
    | nil => rfl
    | cons x xs ih =>
      rw [foldl_cons, ih, get?_set]
      by_cases hk : k = key x
      · subst hk
        rw [if_pos rfl, filter_cons_of_pos (by simp), getLast?_cons]
        cases (xs.filter fun y => key y = key x).getLast? <;> rfl
      · have hother : key x ≠ k := fun h => hk h.symm
        rw [if_neg hk, filter_cons_of_neg (by simpa using hother)]
  rw [lastBy, hfrom]
  exact Option.or_none

end

end Dict

end Parp.OrderedDict
