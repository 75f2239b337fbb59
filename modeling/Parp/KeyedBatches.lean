import Mathlib.Data.List.Nodup
import Mathlib.Data.List.Count

set_option autoImplicit false

/-!
# Batches by key

Items are collected under their keys, and flushes write out what some of the keys have pending.
-/
namespace Parp.KeyedBatches

open List

variable {κ α : Type*}

inductive Step (κ α : Type*)
  | add (key : κ) (item : α)
  | flush (keys : List κ)

structure Batches (κ α : Type*) where
  pending : κ → List α := fun _ => []
  written : List (κ × List α) := []

variable [DecidableEq κ]

def Batches.step (b : Batches κ α) : Step κ α → Batches κ α
  | .add key item => { b with pending := Function.update b.pending key (b.pending key ++ [item]) }
  | .flush keys =>
    { pending := fun key => if key ∈ keys then [] else b.pending key
      written := b.written ++ keys.map fun key => (key, b.pending key) }

theorem flush_pending_of_mem (b : Batches κ α) {key : κ} {keys : List κ} (h : key ∈ keys) :
    (b.step (.flush keys)).pending key = [] := if_pos h

theorem flush_pending_of_notMem (b : Batches κ α) {key : κ} {keys : List κ} (h : key ∉ keys) :
    (b.step (.flush keys)).pending key = b.pending key := if_neg h

theorem flush_nil (b : Batches κ α) : b.step (.flush []) = b := by
  change Batches.mk _ (b.written ++ []) = b
  rw [append_nil]
  congr 1

theorem flush_cons (b : Batches κ α) {key : κ} {keys : List κ} (hnot : key ∉ keys) :
    (b.step (.flush [key])).step (.flush keys) = b.step (.flush (key :: keys)) := by
  have hpending : ∀ other ∈ keys, (b.step (.flush [key])).pending other = b.pending other := by
    intro other hother
    refine flush_pending_of_notMem b fun hsame => hnot ?_
    rwa [← mem_singleton.1 hsame]
  have hwritten : keys.map (fun other => (other, (b.step (.flush [key])).pending other)) =
      keys.map fun other => (other, b.pending other) :=
    map_congr_left fun other hother => by rw [hpending other hother]
  change Batches.mk _ ((b.written ++ [(key, b.pending key)]) ++ _) =
    Batches.mk _ (b.written ++ (key, b.pending key) :: _)
  rw [hwritten, append_assoc]
  congr 1
  funext other
  change (if other ∈ keys then [] else if other ∈ [key] then [] else b.pending other) =
    if other ∈ key :: keys then [] else b.pending other
  by_cases hfirst : other = key
  · subst hfirst
    simp
  · simp [hfirst]

def Batches.Allows (b : Batches κ α) : Step κ α → Prop
  | .add _ _ => True
  | .flush keys => keys.Nodup ∧ ∀ key ∈ keys, b.pending key ≠ []

inductive Run : List (Step κ α) → Batches κ α → Prop
  | nil : Run [] {}
  | snoc {steps : List (Step κ α)} {b : Batches κ α} {step : Step κ α} (run : Run steps b)
      (allows : b.Allows step) : Run (steps ++ [step]) (b.step step)

def itemsOf (key : κ) (steps : List (Step κ α)) : List α :=
  steps.filterMap fun
    | .add other item => if other = key then some item else none
    | .flush _ => none

section

variable {steps : List (Step κ α)} {b : Batches κ α}

theorem itemsOf_append (key : κ) (left right : List (Step κ α)) :
    itemsOf key (left ++ right) = itemsOf key left ++ itemsOf key right := filterMap_append

theorem itemsOf_add (key other : κ) (item : α) :
    itemsOf key [Step.add other item] = if other = key then [item] else [] := by
  unfold itemsOf
  split_ifs with hkey <;> simp [hkey]

theorem itemsOf_flush (key : κ) (keys : List κ) : itemsOf key [(Step.flush keys : Step κ α)] = [] :=
  rfl

def writtenOf (key : κ) (b : Batches κ α) : List α :=
  (b.written.filter fun batch => batch.1 = key).flatMap Prod.snd

theorem flushed_filter (key : κ) {keys : List κ} (hnodup : keys.Nodup) (pending : κ → List α) :
    ((keys.map fun key => (key, pending key)).filter fun batch => batch.1 = key).flatMap Prod.snd =
      if key ∈ keys then pending key else [] := by
  induction keys with
  | nil => rfl
  | cons first keys ih =>
    obtain ⟨hnot, hnodup'⟩ := nodup_cons.1 hnodup
    rw [map_cons]
    by_cases hfirst : first = key
    · subst hfirst
      rw [filter_cons_of_pos (by simp), flatMap_cons, ih hnodup', if_neg hnot,
        if_pos (.head _), append_nil]
    · rw [filter_cons_of_neg (by simpa using hfirst), ih hnodup']
      have hmem : key ∈ first :: keys ↔ key ∈ keys :=
        mem_cons.trans (or_iff_right fun h => hfirst h.symm)
      simp only [hmem]

theorem Run.items (h : Run steps b) (key : κ) :
    itemsOf key steps = writtenOf key b ++ b.pending key := by
  induction h with
  | nil => rfl
  | @snoc steps b step _ hallows ih =>
    rw [itemsOf_append, ih]
    cases step with
    | add other item =>
      rw [itemsOf_add]
      change _ = writtenOf key b ++
        Function.update b.pending other (b.pending other ++ [item]) key
      rw [Function.update_apply, append_assoc]
      by_cases hkey : other = key
      · rw [if_pos hkey, if_pos hkey.symm, hkey]
      · rw [if_neg hkey, if_neg (fun h => hkey h.symm), append_nil]
    | flush keys =>
      rw [itemsOf_flush, append_nil]
      change _ = ((b.written ++ keys.map fun key => (key, b.pending key)).filter
        fun batch => batch.1 = key).flatMap Prod.snd ++ if key ∈ keys then [] else b.pending key
      rw [filter_append, flatMap_append, flushed_filter key hallows.1,
        append_assoc]
      unfold writtenOf
      split_ifs <;> simp

theorem Run.nonempty (h : Run steps b) : ∀ batch ∈ b.written, batch.2 ≠ [] := by
  induction h with
  | nil => exact nofun
  | @snoc steps b step _ hallows ih =>
    cases step with
    | add other item => exact ih
    | flush keys =>
      intro batch hbatch
      rcases mem_append.1 hbatch with hbatch | hbatch
      · exact ih batch hbatch
      · obtain ⟨key, hkey, rfl⟩ := mem_map.1 hbatch
        exact hallows.2 key hkey

theorem written_flush (b : Batches κ α) (keys : List κ) :
    (b.step (.flush keys)).written.map Prod.fst = b.written.map Prod.fst ++ keys := by
  change (b.written ++ keys.map fun key => (key, b.pending key)).map Prod.fst = _
  rw [map_append, map_map]
  simp [Function.comp_def]

theorem Run.flushed (h : Run steps b) (key : κ) :
    key ∈ b.written.map Prod.fst ↔ ∃ keys, Step.flush keys ∈ steps ∧ key ∈ keys := by
  induction h with
  | nil => exact ⟨nofun, fun ⟨_, hmem, _⟩ => nomatch hmem⟩
  | @snoc steps b step _ _ ih =>
    cases step with
    | add other item =>
      refine ih.trans (exists_congr fun keys => and_congr_left fun _ => ?_)
      simp
    | flush keys =>
      rw [written_flush, mem_append, ih]
      constructor
      · rintro (⟨keys', hmem, hkey⟩ | hkey)
        · exact ⟨keys', mem_append_left _ hmem, hkey⟩
        · exact ⟨keys, by simp, hkey⟩
      · rintro ⟨keys', hmem, hkey⟩
        rcases mem_append.1 hmem with hmem | hmem
        · exact .inl ⟨keys', hmem, hkey⟩
        · rw [mem_singleton] at hmem
          cases hmem
          exact .inr hkey

end

section

variable {steps : List (Step κ α)} {b : Batches κ α}

def Timely (steps : List (Step κ α)) : Prop :=
  ∀ before keys after, steps = before ++ .flush keys :: after → ∀ key ∈ keys, itemsOf key after = []

theorem Timely.of_concat {step : Step κ α} (h : Timely (steps ++ [step])) : Timely steps := by
  intro before keys after hsplit key hkey
  have hitems := h before keys (after ++ [step]) (by simp [hsplit]) key hkey
  rw [itemsOf_append, append_eq_nil_iff] at hitems
  exact hitems.1

theorem Run.nodup_of_timely (h : Run steps b) (htimely : Timely steps) :
    (b.written.map Prod.fst).Nodup ∧ ∀ key ∈ b.written.map Prod.fst, b.pending key = [] := by
  induction h with
  | nil => exact ⟨nodup_nil, nofun⟩
  | @snoc steps b step hrun hallows ih =>
    obtain ⟨hnodup, hempty⟩ := ih htimely.of_concat
    cases step with
    | add key item =>
      refine ⟨hnodup, fun other hother => ?_⟩
      have hkey : other ≠ key := by
        rintro rfl
        obtain ⟨keys, hflush, hmem⟩ := (hrun.flushed other).1 hother
        obtain ⟨before, after, hsplit⟩ := append_of_mem hflush
        have hnone := htimely before keys (after ++ [.add other item]) (by simp [hsplit]) other
          hmem
        rw [itemsOf_append, itemsOf_add, if_pos rfl] at hnone
        exact cons_ne_nil _ _ (append_eq_nil_iff.1 hnone).2
      change Function.update b.pending key _ other = []
      rw [Function.update_of_ne hkey]
      exact hempty other hother
    | flush keys =>
      rw [written_flush]
      refine ⟨nodup_append.2 ⟨hnodup, hallows.1, ?_⟩, fun key hkey => ?_⟩
      · rintro key hkey other hother rfl
        exact hallows.2 key hother (hempty key hkey)
      · change (if key ∈ keys then [] else b.pending key) = []
        split_ifs with hmem
        · rfl
        · exact hempty key ((mem_append.1 hkey).resolve_right hmem)

def begun (key : κ) (b : Batches κ α) : ℕ :=
  (b.written.map Prod.fst).count key + if b.pending key = [] then 0 else 1

theorem begun_step {step : Step κ α} (hallows : b.Allows step) (key : κ) :
    begun key b ≤ begun key (b.step step) := by
  unfold begun
  cases step with
  | add other item =>
    change _ ≤ (b.written.map Prod.fst).count key +
      if Function.update b.pending other (b.pending other ++ [item]) key = [] then 0 else 1
    rw [Function.update_apply]
    by_cases hkey : key = other
    · subst hkey
      rw [if_pos rfl, if_neg (by simp : ¬ b.pending key ++ [item] = [])]
      split_ifs <;> omega
    · exact Nat.le_of_eq (by rw [if_neg hkey])
  | flush keys =>
    rw [written_flush, count_append]
    change _ ≤ _ + if (if key ∈ keys then [] else b.pending key) = [] then 0 else 1
    by_cases hmem : key ∈ keys
    · have hcount := count_pos_iff.2 hmem
      have hpending := hallows.2 key hmem
      rw [if_neg hpending]
      omega
    · rw [if_neg hmem]
      omega

theorem Run.late_begins (h : Run steps b) {key : κ} (hlate : ∃ before keys after,
    steps = before ++ .flush keys :: after ∧ key ∈ keys ∧ itemsOf key after ≠ []) :
    2 ≤ begun key b := by
  induction h with
  | nil =>
    obtain ⟨before, keys, after, hsplit, -⟩ := hlate
    simp at hsplit
  | @snoc steps b step hrun hallows ih =>
    obtain ⟨before, keys, after, hsplit, hkey, hitems⟩ := hlate
    rcases eq_nil_or_concat after with rfl | ⟨after, last, rfl⟩
    · exact absurd rfl hitems
    · rw [concat_eq_append, ← cons_append, ← append_assoc] at hsplit
      obtain ⟨rfl, hlast⟩ := append_inj' hsplit rfl
      cases hlast
      rw [concat_eq_append, itemsOf_append] at hitems
      by_cases hbefore : itemsOf key after = []
      · rw [hbefore, nil_append] at hitems
        cases step with
        | add other item =>
          have hother : other = key := by
            by_contra hne
            exact hitems ((itemsOf_add key other item).trans (if_neg hne))
          subst hother
          have hwritten : other ∈ b.written.map Prod.fst :=
            (hrun.flushed other).2 ⟨keys, by simp, hkey⟩
          have hcount := count_pos_iff.2 hwritten
          change 2 ≤ (b.written.map Prod.fst).count other +
            if Function.update b.pending other (b.pending other ++ [item]) other = [] then 0
            else 1
          rw [Function.update_self, if_neg (by simp)]
          omega
        | flush keys' => exact absurd (itemsOf_flush key keys') hitems
      · exact Nat.le_trans (ih ⟨before, keys, after, rfl, hkey, hbefore⟩) (begun_step hallows key)

theorem Run.nodup_iff_timely (h : Run steps b) (hdone : ∀ key, b.pending key = []) :
    (b.written.map Prod.fst).Nodup ↔ Timely steps := by
  refine ⟨fun hnodup before keys after hsplit key hkey => ?_, fun h' => (h.nodup_of_timely h').1⟩
  by_contra hitems
  have hbegun := h.late_begins ⟨before, keys, after, hsplit, hkey, hitems⟩
  unfold begun at hbegun
  rw [if_pos (hdone key)] at hbegun
  have hcount := nodup_iff_count_le_one.1 hnodup key
  omega

theorem Run.batch_items (h : Run steps b) (hnodup : (b.written.map Prod.fst).Nodup)
    (hdone : ∀ key, b.pending key = []) {batch : κ × List α} (hbatch : batch ∈ b.written) :
    itemsOf batch.1 steps = batch.2 := by
  rw [h.items, hdone, append_nil]
  unfold writtenOf
  obtain ⟨left, right, hsplit⟩ := append_of_mem hbatch
  rw [hsplit, map_append, map_cons] at hnodup
  obtain ⟨-, hright, hapart⟩ := nodup_append.1 hnodup
  have hother : ∀ batches : List (κ × List α), batch.1 ∉ batches.map Prod.fst →
      batches.filter (fun other => other.1 = batch.1) = [] := by
    intro batches hnot
    refine filter_eq_nil_iff.2 fun other hmem hsame => hnot ?_
    rw [← of_decide_eq_true hsame]
    exact mem_map_of_mem hmem
  rw [hsplit, filter_append, hother left fun hmem => hapart _ hmem _ (.head _) rfl,
    filter_cons_of_pos (by simp), hother right (nodup_cons.1 hright).1]
  simp

end

end Parp.KeyedBatches
