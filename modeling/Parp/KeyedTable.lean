import Parp.TransitionRuns
import Mathlib.Data.List.Nodup

set_option autoImplicit false

namespace Parp.KeyedTable

open List

variable {α κ : Type} [DecidableEq κ] (key : α → κ)

/-- First entry of the table under `k`. -/
def lookup (k : κ) (table : List α) : Option α :=
  table.find? (fun e => key e = k)

def Present (k : κ) (table : List α) : Prop := ∃ e ∈ table, key e = k

instance (k : κ) (table : List α) : Decidable (Present key k table) :=
  inferInstanceAs (Decidable (∃ e ∈ table, key e = k))

def Keyed (table : List α) : Prop := (table.map key).Nodup

instance (table : List α) : Decidable (Keyed key table) :=
  inferInstanceAs (Decidable (table.map key).Nodup)

/-- Overwrite position `slot`, or extend the table by one entry there. -/
def place (slot : ℕ) (entry : α) (table : List α) : List α :=
  if slot < table.length then table.set slot entry else table ++ [entry]

def slotOf (capacity : ℕ) (k : κ) (table : List α) : ℕ :=
  (table.findIdx? (fun e => key e = k)).getD (min table.length (capacity - 1))

def upsert (capacity : ℕ) (entry : α) (table : List α) : List α :=
  place (slotOf key capacity (key entry) table) entry table

/-- The entry under `k` sits in the last slot of a full table and `entry` is a new key. -/
def Evicts (capacity : ℕ) (entry : α) (table : List α) (k : κ) : Prop :=
  ¬ Present key (key entry) table ∧ capacity ≤ table.length ∧ table.getLast?.map key = some k

instance (capacity : ℕ) (entry : α) (table : List α) (k : κ) :
    Decidable (Evicts key capacity entry table k) :=
  inferInstanceAs (Decidable (¬ _ ∧ _ ∧ _ = _))

section

variable {key}

theorem lookup_key {k : κ} {table : List α} {e : α} (h : lookup key k table = some e) : key e = k := by
  simpa using find?_some h

theorem lookup_mem {k : κ} {table : List α} {e : α} (h : lookup key k table = some e) : e ∈ table :=
  mem_of_find?_eq_some h

theorem lookup_eq_none {k : κ} {table : List α} :
    lookup key k table = none ↔ ¬ Present key k table := by
  simp [lookup, Present]

theorem lookup_append (k : κ) (left right : List α) :
    lookup key k (left ++ right) = (lookup key k left).or (lookup key k right) :=
  find?_append

theorem lookup_cons (k : κ) (e : α) (table : List α) :
    lookup key k (e :: table) = if key e = k then some e else lookup key k table := by
  by_cases h : key e = k <;> simp [lookup, h]

theorem lookup_of_mem {k : κ} {table : List α} {e : α} (hkeyed : Keyed key table) (he : e ∈ table)
    (hk : key e = k) : lookup key k table = some e := by
  induction table with
  | nil => cases he
  | cons head table ih =>
    obtain ⟨hhead, htable⟩ := nodup_cons.1 hkeyed
    rw [lookup_cons]
    rcases mem_cons.1 he with rfl | he
    · rw [if_pos hk]
    · have hne : key head ≠ k := by
        intro h
        exact hhead (mem_map.2 ⟨e, he, hk.trans h.symm⟩)
      rw [if_neg hne]
      exact ih htable he

theorem find_and_key (p : α → Bool) (k : κ) {table : List α} (hkeyed : Keyed key table) :
    table.find? (fun e => p e && decide (key e = k)) = (lookup key k table).filter p := by
  induction table with
  | nil => rfl
  | cons head table ih =>
    obtain ⟨hhead, htable⟩ := nodup_cons.1 hkeyed
    rw [lookup_cons]
    by_cases hk : key head = k
    · have habsent : lookup key k table = none := by
        rw [lookup_eq_none]
        rintro ⟨e, he, hek⟩
        exact hhead (mem_map.2 ⟨e, he, hek.trans hk.symm⟩)
      by_cases hp : p head
      · simp [hk, hp, Option.filter]
      · simp [hk, hp, ih htable, habsent, Option.filter]
    · simp [hk, ih htable]

theorem perm_cons_filter {e : α} {table : List α} (hkeyed : Keyed key table) (he : e ∈ table) :
    table.Perm (e :: table.filter fun f => key f ≠ key e) := by
  induction table with
  | nil => cases he
  | cons head table ih =>
    obtain ⟨hhead, htable⟩ := nodup_cons.1 hkeyed
    rcases mem_cons.1 he with rfl | he
    · have hothers : table.filter (fun f => key f ≠ key e) = table := by
        refine filter_eq_self.2 fun f hf => decide_eq_true fun hfe => hhead ?_
        exact mem_map.2 ⟨f, hf, hfe⟩
      rw [filter_cons_of_neg (by simp), hothers]
    · have hne : key head ≠ key e := by
        intro h
        exact hhead (mem_map.2 ⟨e, he, h.symm⟩)
      rw [filter_cons_of_pos (by simpa using hne)]
      exact ((ih htable he).cons head).trans (List.Perm.swap _ _ _)

end

section

variable {key}

theorem findIdx_of_present {k : κ} {table : List α} (h : Present key k table) :
    ∃ i, table.findIdx? (fun e => key e = k) = some i ∧ i < table.length := by
  obtain ⟨i, hi⟩ : ∃ i, table.findIdx? (fun e => key e = k) = some i := by
    rw [← Option.isSome_iff_exists, findIdx?_isSome]
    simpa [Present] using h
  exact ⟨i, hi, (findIdx?_eq_some_iff_findIdx_eq.1 hi).1⟩

variable {capacity : ℕ} {entry : α} {table : List α}

theorem upsert_present (h : Present key (key entry) table) :
    ∃ left old right, table = left ++ old :: right ∧ key old = key entry ∧
      ¬ Present key (key entry) left ∧ upsert key capacity entry table = left ++ entry :: right := by
  induction table with
  | nil => obtain ⟨e, he, -⟩ := h; cases he
  | cons head table ih =>
    by_cases hk : key head = key entry
    · refine ⟨[], head, table, rfl, hk, ?_, ?_⟩
      · rintro ⟨e, he, -⟩
        cases he
      · simp [upsert, slotOf, place, findIdx?_cons, hk]
    · have htail : Present key (key entry) table := by
        obtain ⟨e, he, hek⟩ := h
        rcases mem_cons.1 he with rfl | he
        · exact absurd hek hk
        · exact ⟨e, he, hek⟩
      obtain ⟨left, old, right, hsplit, hold, hleft, hup⟩ := ih htail
      refine ⟨head :: left, old, right, by rw [hsplit, cons_append], hold, ?_, ?_⟩
      · rintro ⟨e, he, hek⟩
        rcases mem_cons.1 he with rfl | he
        · exact hk hek
        · exact hleft ⟨e, he, hek⟩
      · obtain ⟨i, hi, hlt⟩ := findIdx_of_present htail
        have hset : table.set i entry = left ++ entry :: right := by
          simpa [upsert, slotOf, place, hi, hlt] using hup
        simp [upsert, slotOf, place, findIdx?_cons, hk, hi, hlt, hset]

theorem slotOf_absent {k : κ} {table : List α} (h : ¬ Present key k table) :
    slotOf key capacity k table = min table.length (capacity - 1) := by
  have hnone : table.findIdx? (fun e => key e = k) = none := by
    rw [findIdx?_eq_none_iff]
    intro e he
    simpa using fun hk => h ⟨e, he, hk⟩
  rw [slotOf, hnone]
  rfl

theorem upsert_fresh (h : ¬ Present key (key entry) table) (hroom : table.length < capacity) :
    upsert key capacity entry table = table ++ [entry] := by
  rw [upsert, slotOf_absent h, place, if_neg (by omega)]

theorem upsert_full {left : List α} {last : α}
    (h : ¬ Present key (key entry) (left ++ [last])) (hfull : (left ++ [last]).length = capacity) :
    upsert key capacity entry (left ++ [last]) = left ++ [entry] := by
  have hlen : left.length + 1 = capacity := by simpa using hfull
  have hslot : min (left ++ [last]).length (capacity - 1) = left.length := by
    simp
    omega
  rw [upsert, slotOf_absent h, place, hslot, if_pos (by simp)]
  simp

theorem length_upsert_le (hpos : 0 < capacity)
    (hcap : table.length ≤ capacity) : (upsert key capacity entry table).length ≤ capacity := by
  unfold upsert place
  split_ifs with hslot
  · rwa [length_set]
  · by_cases h : Present key (key entry) table
    · obtain ⟨i, hi, hlt⟩ := findIdx_of_present h
      rw [slotOf, hi] at hslot
      exact absurd hlt hslot
    · rw [slotOf_absent h] at hslot
      simp only [length_append, length_singleton]
      omega

theorem mem_upsert {entry e : α} {table : List α}
    (h : e ∈ upsert key capacity entry table) : e = entry ∨ e ∈ table := by
  unfold upsert place at h
  split_ifs at h
  · exact (mem_or_eq_of_mem_set h).symm
  · simpa [or_comm] using h

theorem keyed_upsert (hpos : 0 < capacity)
    (hcap : table.length ≤ capacity) (hkeyed : Keyed key table) :
    Keyed key (upsert key capacity entry table) := by
  by_cases h : Present key (key entry) table
  · obtain ⟨left, old, right, htable, hold, -, hup⟩ := upsert_present h
    rw [hup]
    rw [htable] at hkeyed
    simpa [Keyed, hold] using hkeyed
  · have hkey : key entry ∉ table.map key := by
      simpa [Present] using h
    rcases Nat.lt_or_eq_of_le hcap with hroom | hfull
    · rw [upsert_fresh h hroom, Keyed, map_append, map_singleton]
      exact nodup_append.2 ⟨hkeyed, nodup_singleton _, by
        rintro k hk _ hmem rfl
        exact hkey (mem_singleton.1 hmem ▸ hk)⟩
    · obtain ⟨left, last, rfl⟩ : ∃ left last, table = left ++ [last] :=
        ⟨_, _, (dropLast_append_getLast (ne_nil_of_length_pos (by omega))).symm⟩
      rw [upsert_full h hfull, Keyed, map_append, map_singleton]
      rw [Keyed, map_append] at hkeyed
      refine nodup_append.2 ⟨(nodup_append.1 hkeyed).1, nodup_singleton _, ?_⟩
      rintro k hk _ hmem rfl
      refine hkey ?_
      rw [map_append]
      exact mem_append_left _ (mem_singleton.1 hmem ▸ hk)

theorem lookup_upsert (k : κ) (hpos : 0 < capacity)
    (hcap : table.length ≤ capacity) (hkeyed : Keyed key table) :
    lookup key k (upsert key capacity entry table) =
      if key entry = k then some entry
      else if Evicts key capacity entry table k then none else lookup key k table := by
  by_cases h : Present key (key entry) table
  · obtain ⟨left, old, right, htable, hold, hleft, hup⟩ := upsert_present h
    have hkeep : ¬ Evicts key capacity entry table k := fun hev => hev.1 h
    rw [if_neg hkeep, hup, htable, lookup_append, lookup_append, lookup_cons, lookup_cons, hold]
    by_cases hk : key entry = k
    · rw [← hk, if_pos rfl, if_pos rfl, lookup_eq_none.2 hleft]
      rfl
    · simp only [if_neg hk]
  · rcases Nat.lt_or_eq_of_le hcap with hroom | hfull
    · have hkeep : ¬ Evicts key capacity entry table k := fun hev => by
        have := hev.2.1
        omega
      rw [if_neg hkeep, upsert_fresh h hroom, lookup_append]
      by_cases hk : key entry = k
      · rw [if_pos hk, lookup_eq_none.2 (hk ▸ h)]
        simp [lookup, hk]
      · rw [if_neg hk]
        simp [lookup, hk]
    · obtain ⟨left, last, rfl⟩ : ∃ left last, table = left ++ [last] :=
        ⟨_, _, (dropLast_append_getLast (ne_nil_of_length_pos (by omega))).symm⟩
      have hev : Evicts key capacity entry (left ++ [last]) k ↔ key last = k := by
        simp [Evicts, h, hfull]
      rw [upsert_full h hfull, lookup_append]
      by_cases hk : key entry = k
      · have hleft : ¬ Present key k left := by
          rintro ⟨e, he, hek⟩
          exact h ⟨e, mem_append_left _ he, hek.trans hk.symm⟩
        rw [if_pos hk, lookup_eq_none.2 hleft]
        simp [lookup, hk]
      · rw [if_neg hk]
        by_cases hlast : key last = k
        · have hleft : ¬ Present key k left := by
            rintro ⟨e, he, hek⟩
            rw [Keyed, map_append] at hkeyed
            exact (nodup_append.1 hkeyed).2.2 (key e) (mem_map_of_mem he) (key last)
              (by simp) (hek.trans hlast.symm)
          rw [if_pos (hev.2 hlast), lookup_eq_none.2 hleft]
          simp [lookup, hk]
        · rw [if_neg (fun e => hlast (hev.1 e)), lookup_append]
          simp [lookup, hk, hlast]

theorem lookup_upsert_other {k : κ}
    (hpos : 0 < capacity) (hcap : table.length ≤ capacity) (hkeyed : Keyed key table)
    (hk : key entry ≠ k) (hkeep : ¬ Evicts key capacity entry table k) :
    lookup key k (upsert key capacity entry table) = lookup key k table := by
  rw [lookup_upsert k hpos hcap hkeyed, if_neg hk, if_neg hkeep]

end

section

open TransitionRuns

variable {key} {σ ι ο : Type} {step : σ → ι → ο × σ} {capacity : ℕ}

/-- A transition system that keeps a bounded keyed table and writes at most one entry a step. -/
structure TableSystem (key : α → κ) (capacity : ℕ) (step : σ → ι → ο × σ) (I : σ → Prop)
    (view : σ → List α) (written : σ → ι → Option α) : Prop where
  pos : 0 < capacity
  invariant : ∀ s i, I s → I (step s i).2
  keyed : ∀ s, I s → Keyed key (view s)
  bounded : ∀ s, I s → (view s).length ≤ capacity
  view_step : ∀ s i, I s → view (step s i).2 =
    (written s i).elim (view s) (fun e => upsert key capacity e (view s))

variable {I : σ → Prop} {view : σ → List α} {written : σ → ι → Option α}
  (sys : TableSystem key capacity step I view written)

include sys

theorem TableSystem.lookup_step {s : σ} {i : ι} {k : κ} (hs : I s)
    (hnew : ∀ e ∈ written s i, key e ≠ k) :
    lookup key k (view (step s i).2) =
      if ∃ e ∈ written s i, Evicts key capacity e (view s) k then none else lookup key k (view s) := by
  rw [sys.view_step s i hs]
  cases hw : written s i with
  | none => simp
  | some e =>
    have hne : key e ≠ k := hnew e hw
    have hlookup : lookup key k (upsert key capacity e (view s)) = _ :=
      lookup_upsert k sys.pos (sys.bounded s hs) (sys.keyed s hs)
    rw [if_neg hne] at hlookup
    simpa using hlookup

theorem TableSystem.lookup_after_none {s : σ} {k : κ} (hs : I s) (inputs : List ι)
    (hnew : Along step (fun s i => ∀ e ∈ written s i, key e ≠ k) s inputs)
    (hnone : lookup key k (view s) = none) : lookup key k (view (after step s inputs)) = none := by
  induction inputs generalizing s with
  | nil => exact hnone
  | cons i inputs ih =>
    refine ih (sys.invariant s i hs) hnew.2 ?_
    rw [sys.lookup_step hs hnew.1, hnone, ite_self]

/-- An entry that no later write replaces is found after the run exactly when no later write
evicts it. -/
theorem TableSystem.lookup_after {s : σ} {k : κ} {entry : α} (hs : I s) (inputs : List ι)
    (hnew : Along step (fun s i => ∀ e ∈ written s i, key e ≠ k) s inputs)
    (hentry : lookup key k (view s) = some entry) :
    lookup key k (view (after step s inputs)) =
      if Along step (fun s i => ¬ ∃ e ∈ written s i, Evicts key capacity e (view s) k) s inputs
      then some entry else none := by
  induction inputs generalizing s with
  | nil => simp [Along, hentry]
  | cons i inputs ih =>
    have hstep := sys.lookup_step hs hnew.1
    rw [hentry] at hstep
    by_cases hev : ∃ e ∈ written s i, Evicts key capacity e (view s) k
    · rw [if_pos hev] at hstep
      rw [after_cons, sys.lookup_after_none (sys.invariant s i hs) inputs hnew.2 hstep]
      rw [if_neg (fun h => h.1 hev)]
    · rw [if_neg hev] at hstep
      rw [after_cons, ih (sys.invariant s i hs) hnew.2 hstep]
      exact if_congr ⟨fun h => ⟨hev, h⟩, fun h => h.2⟩ rfl rfl

theorem TableSystem.lookup_standing {s : σ}
    {before later : List ι} {i : ι} {entry : α} (hs : I (after step s before))
    (hwritten : written (after step s before) i = some entry)
    (hnew : Along step (fun s i => ∀ e ∈ written s i, key e ≠ key entry)
      (after step s (before ++ [i])) later) :
    lookup key (key entry) (view (after step s (before ++ i :: later))) =
      if Along step (fun s i => ¬ ∃ e ∈ written s i, Evicts key capacity e (view s) (key entry))
        (after step s (before ++ [i])) later
      then some entry else none := by
  have hsplit : before ++ i :: later = (before ++ [i]) ++ later := by simp
  rw [hsplit, after_append]
  have hnext : I (after step s (before ++ [i])) := by
    rw [after_concat]
    exact sys.invariant _ _ hs
  refine sys.lookup_after hnext later hnew ?_
  rw [after_concat, sys.view_step _ _ hs, hwritten]
  exact (lookup_upsert _ sys.pos (sys.bounded _ hs) (sys.keyed _ hs)).trans (if_pos rfl)

end

end Parp.KeyedTable
