import Mathlib.Algebra.Order.Ring.Int
import Mathlib.Data.List.Dedup
import Mathlib.Data.List.Sort

set_option autoImplicit false

/-!
# Merging closed intervals of integers

Intervals are sorted and joined to the last one where they overlap it or begin right after it.
-/
namespace Parp.MergedIntervals

open List

def span (i : ℤ × ℤ) : List ℤ := (List.range (i.2 - i.1 + 1).toNat).map fun k : ℕ => i.1 + k

def spans (intervals : List (ℤ × ℤ)) : List ℤ := intervals.flatMap span

def LexLe (i j : ℤ × ℤ) : Prop := i.1 < j.1 ∨ i.1 = j.1 ∧ i.2 ≤ j.2

instance : DecidableRel LexLe := fun _ _ => inferInstanceAs (Decidable (_ ∨ _))

instance : Std.Total LexLe where
  total i j := by
    unfold LexLe
    omega

instance : IsTrans (ℤ × ℤ) LexLe where
  trans i j k := by
    unfold LexLe
    omega

def join (merged : List (ℤ × ℤ)) (i : ℤ × ℤ) : List (ℤ × ℤ) :=
  match merged.getLast? with
  | none => [i]
  | some last =>
    if i.1 ≤ last.2 + 1 then merged.dropLast ++ [(last.1, max last.2 i.2)]
    else merged ++ [i]

def merge (intervals : List (ℤ × ℤ)) : List (ℤ × ℤ) :=
  (intervals.insertionSort LexLe).foldl join []

theorem mem_span {i : ℤ × ℤ} {p : ℤ} : p ∈ span i ↔ i.1 ≤ p ∧ p ≤ i.2 := by
  unfold span
  rw [mem_map]
  constructor
  · rintro ⟨k, hk, rfl⟩
    have hlt := mem_range.1 hk
    omega
  · rintro ⟨hfirst, hlast⟩
    refine ⟨(p - i.1).toNat, mem_range.2 ?_, ?_⟩
    · omega
    · omega

theorem span_nodup (i : ℤ × ℤ) : (span i).Nodup := by
  refine List.Nodup.map ?_ nodup_range
  intro k l h
  simpa using h

theorem span_length {i : ℤ × ℤ} (h : i.1 ≤ i.2) : ((span i).length : ℤ) = i.2 - i.1 + 1 := by
  unfold span
  rw [length_map, length_range]
  omega

theorem spans_cons (i : ℤ × ℤ) (intervals : List (ℤ × ℤ)) :
    spans (i :: intervals) = span i ++ spans intervals :=
  flatMap_cons

theorem spans_append (left right : List (ℤ × ℤ)) : spans (left ++ right) = spans left ++ spans right :=
  flatMap_append

theorem mem_spans_concat {intervals : List (ℤ × ℤ)} {i : ℤ × ℤ} {p : ℤ} :
    p ∈ spans (intervals ++ [i]) ↔ p ∈ spans intervals ∨ i.1 ≤ p ∧ p ≤ i.2 := by
  rw [spans_append, mem_append, spans_cons, ← mem_span]
  simp [spans]

theorem spans_perm {left right : List (ℤ × ℤ)} (h : left.Perm right) :
    (spans left).Perm (spans right) :=
  h.flatMap_right span

theorem spans_length {intervals : List (ℤ × ℤ)} (h : ∀ i ∈ intervals, i.1 ≤ i.2) :
    ((spans intervals).length : ℤ) = (intervals.map fun i => i.2 - i.1 + 1).sum := by
  induction intervals with
  | nil => rfl
  | cons i intervals ih =>
    rw [spans_cons, length_append, map_cons, sum_cons,
      ← ih fun j hj => h j (.tail i hj), ← span_length (h i (.head intervals)), Int.natCast_add]

structure Joined (merged taken : List (ℤ × ℤ)) : Prop where
  proper : ∀ i ∈ merged, i.1 ≤ i.2
  apart : merged.Pairwise fun i j => i.2 + 1 < j.1
  starts : ∀ i ∈ merged, ∃ j ∈ taken, i.1 = j.1
  same : ∀ p, p ∈ spans merged ↔ p ∈ spans taken

theorem joined_step {merged taken : List (ℤ × ℤ)} (h : Joined merged taken) {i : ℤ × ℤ}
    (hproper : i.1 ≤ i.2) (hafter : ∀ j ∈ taken, j.1 ≤ i.1) :
    Joined (join merged i) (taken ++ [i]) := by
  rcases eq_nil_or_concat' merged with rfl | ⟨front, last, rfl⟩
  · refine ⟨?_, pairwise_singleton _ _, ?_, ?_⟩
    · intro j hj
      obtain rfl := mem_singleton.1 hj
      exact hproper
    · intro j hj
      obtain rfl := mem_singleton.1 hj
      exact ⟨j, mem_append_right _ (.head _), rfl⟩
    · intro p
      have hnone := h.same p
      rw [mem_spans_concat, ← hnone]
      exact @mem_spans_concat [] i p
  · obtain ⟨hfront, -, hlast⟩ := pairwise_append.1 h.apart
    have hstart : last.1 ≤ i.1 := by
      obtain ⟨j, hj, hfirst⟩ := h.starts last (mem_append_right _ (.head _))
      rw [hfirst]
      exact hafter j hj
    have hends : ∀ j ∈ front, j.2 + 1 < last.1 := fun j hj => hlast j hj last (.head _)
    have hlastProper := h.proper last (mem_append_right _ (.head _))
    unfold join
    rw [getLast?_concat]
    dsimp only
    split_ifs with hjoin
    · rw [dropLast_concat]
      refine ⟨?_, ?_, ?_, ?_⟩
      · intro j hj
        rcases mem_append.1 hj with hj | hj
        · exact h.proper j (mem_append_left _ hj)
        · obtain rfl := mem_singleton.1 hj
          dsimp only
          omega
      · refine pairwise_append.2 ⟨hfront, pairwise_singleton _ _, ?_⟩
        intro j hj k hk
        obtain rfl := mem_singleton.1 hk
        exact hends j hj
      · intro j hj
        rcases mem_append.1 hj with hj | hj
        · obtain ⟨k, hk, hfirst⟩ := h.starts j (mem_append_left _ hj)
          exact ⟨k, mem_append_left _ hk, hfirst⟩
        · obtain rfl := mem_singleton.1 hj
          obtain ⟨k, hk, hfirst⟩ := h.starts last (mem_append_right _ (.head _))
          exact ⟨k, mem_append_left _ hk, hfirst⟩
      · intro p
        have hsame := h.same p
        rw [mem_spans_concat] at hsame
        rw [mem_spans_concat, mem_spans_concat, ← hsame, or_assoc]
        refine or_congr_right ?_
        dsimp only
        omega
    · refine ⟨?_, ?_, ?_, ?_⟩
      · intro j hj
        rcases mem_append.1 hj with hj | hj
        · exact h.proper j hj
        · obtain rfl := mem_singleton.1 hj
          exact hproper
      · refine pairwise_append.2 ⟨h.apart, pairwise_singleton _ _, ?_⟩
        intro j hj k hk
        obtain rfl := mem_singleton.1 hk
        rcases mem_append.1 hj with hj | hj
        · have hend := hends j hj
          omega
        · obtain rfl := mem_singleton.1 hj
          omega
      · intro j hj
        rcases mem_append.1 hj with hj | hj
        · obtain ⟨k, hk, hfirst⟩ := h.starts j hj
          exact ⟨k, mem_append_left _ hk, hfirst⟩
        · obtain rfl := mem_singleton.1 hj
          exact ⟨j, mem_append_right _ (.head _), rfl⟩
      · intro p
        rw [@mem_spans_concat (front ++ [last]), @mem_spans_concat taken, h.same p]

theorem joined_foldl {rest : List (ℤ × ℤ)} (hproper : ∀ i ∈ rest, i.1 ≤ i.2)
    (hsorted : rest.Pairwise LexLe) :
    ∀ {merged taken : List (ℤ × ℤ)}, Joined merged taken →
      (∀ j ∈ taken, ∀ i ∈ rest, j.1 ≤ i.1) → Joined (rest.foldl join merged) (taken ++ rest) := by
  induction rest with
  | nil =>
    intro merged taken h _
    rw [append_nil]
    exact h
  | cons i rest ih =>
    intro merged taken h hafter
    have hstep := joined_step h (hproper i (.head rest)) fun j hj => hafter j hj i (.head rest)
    rw [foldl_cons, append_cons]
    refine ih (fun j hj => hproper j (.tail i hj)) hsorted.of_cons hstep ?_
    intro j hj k hk
    rcases mem_append.1 hj with hj | hj
    · exact hafter j hj k (.tail i hk)
    · obtain rfl := mem_singleton.1 hj
      have hle := rel_of_pairwise_cons hsorted hk
      unfold LexLe at hle
      omega

section

variable {intervals : List (ℤ × ℤ)} (h : ∀ i ∈ intervals, i.1 ≤ i.2)

include h

theorem merge_joined : Joined (merge intervals) (intervals.insertionSort LexLe) := by
  have hnil : Joined [] [] := ⟨nofun, .nil, nofun, fun _ => .rfl⟩
  have hall : ∀ i ∈ intervals.insertionSort LexLe, i.1 ≤ i.2 := by
    intro i hi
    exact h i ((mem_insertionSort _).1 hi)
  exact joined_foldl hall (pairwise_insertionSort LexLe intervals) hnil nofun

theorem merge_proper : ∀ i ∈ merge intervals, i.1 ≤ i.2 :=
  (merge_joined h).proper

theorem mem_spans_merge (p : ℤ) : p ∈ spans (merge intervals) ↔ p ∈ spans intervals := by
  rw [(merge_joined h).same p]
  exact (spans_perm (perm_insertionSort LexLe intervals)).mem_iff

theorem spans_merge_nodup : (spans (merge intervals)).Nodup := by
  refine nodup_flatMap.2 ⟨fun i _ => span_nodup i, (merge_joined h).apart.imp ?_⟩
  intro i j hgap p hi hj
  have hleft := mem_span.1 hi
  have hright := mem_span.1 hj
  omega

theorem spans_merge_dedup : (spans (merge intervals)).Perm (spans intervals).dedup := by
  refine (perm_ext_iff_of_nodup (spans_merge_nodup h) (nodup_dedup _)).2 ?_
  intro p
  rw [mem_spans_merge h, mem_dedup]

end

end Parp.MergedIntervals
