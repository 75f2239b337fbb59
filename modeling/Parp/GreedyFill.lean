import Mathlib.Data.Rat.Floor

set_option autoImplicit false

/-!
# Greedy filling

An amount is spread over a list in order, as much on each element as it holds, until little is left.
-/
namespace GreedyFill

open List

variable {α : Type*} (size : α → ℚ) (least : ℚ)

def fill : List α → ℚ → List (α × ℚ)
  | [], _ => []
  | a :: rest, left =>
    if left < least then []
    else if size a ≤ 0 then fill rest left
    else (a, min (size a) left) :: fill rest (left - min (size a) left)

def taken (used : List (α × ℚ)) : ℚ := (used.map Prod.snd).sum

variable {size least}

theorem fill_sublist (l : List α) (left : ℚ) : ((fill size least l left).map Prod.fst).Sublist l := by
  fun_induction fill size least l left with
  | case1 left => exact .slnil
  | case2 a rest left hlow => exact nil_sublist _
  | case3 a rest left hlow hempty ih => exact ih.cons a
  | case4 a rest left hlow hempty ih => exact ih.cons_cons a

theorem fill_take (hleast : 0 < least) {l : List α} {left : ℚ} {u : α × ℚ}
    (hu : u ∈ fill size least l left) : 0 < u.2 ∧ u.2 ≤ size u.1 := by
  fun_induction fill size least l left with
  | case1 left => cases hu
  | case2 a rest left hlow => cases hu
  | case3 a rest left hlow hempty ih => exact ih hu
  | case4 a rest left hlow hempty ih =>
    rcases mem_cons.1 hu with rfl | hu
    · exact ⟨lt_min (not_le.1 hempty) (hleast.trans_le (not_lt.1 hlow)), min_le_left _ _⟩
    · exact ih hu

theorem taken_cons (u : α × ℚ) (used : List (α × ℚ)) : taken (u :: used) = u.2 + taken used := by
  simp [taken]

theorem taken_le (l : List α) {left : ℚ} (h : 0 ≤ left) : taken (fill size least l left) ≤ left := by
  fun_induction fill size least l left with
  | case1 left => exact h
  | case2 a rest left hlow => exact h
  | case3 a rest left hlow hempty ih => exact ih h
  | case4 a rest left hlow hempty ih =>
    have hrest := ih (sub_nonneg.2 (min_le_right _ _))
    rw [taken_cons]
    linarith

theorem fill_full (hleast : 0 < least) (l : List α) (left : ℚ) :
    ∀ u ∈ (fill size least l left).dropLast, u.2 = size u.1 := by
  fun_induction fill size least l left with
  | case1 left => nofun
  | case2 a rest left hlow => nofun
  | case3 a rest left hlow hempty ih => exact ih
  | case4 a rest left hlow hempty ih =>
    rcases le_or_gt (size a) left with hfits | hover
    · rw [min_eq_left hfits] at ih ⊢
      intro u hu
      cases hused : fill size least rest (left - size a) with
      | nil =>
        rw [hused] at hu
        cases hu
      | cons v used =>
        rw [hused] at hu ih
        rw [dropLast_cons_cons] at hu
        rcases mem_cons.1 hu with rfl | hu
        · rfl
        · exact ih u hu
    · -- nothing is left for the rest
      have hnone : fill size least rest (left - min (size a) left) = [] := by
        rw [min_eq_right hover.le, sub_self]
        cases rest with
        | nil => rfl
        | cons b rest => exact if_pos hleast
      rw [hnone]
      nofun

theorem passed_over {R : α → α → Prop} {l : List α} (hl : l.Pairwise R) {left : ℚ} {a : α} (ha : a ∈ l)
    (hsize : 0 < size a) (hunused : a ∉ (fill size least l left).map Prod.fst) :
    (∀ u ∈ fill size least l left, R u.1 a) ∧ left - taken (fill size least l left) < least := by
  fun_induction fill size least l left with
  | case1 left => cases ha
  | case2 b rest left hlow => exact ⟨nofun, by simpa [taken] using hlow⟩
  | case3 b rest left hlow hempty ih =>
    obtain ⟨-, hrest⟩ := pairwise_cons.1 hl
    rcases mem_cons.1 ha with rfl | ha
    · exact absurd hsize (not_lt.2 hempty)
    · exact ih hrest ha hunused
  | case4 b rest left hlow hempty ih =>
    obtain ⟨hfirst, hrest⟩ := pairwise_cons.1 hl
    rw [map_cons, mem_cons, not_or] at hunused
    have ha := (mem_cons.1 ha).resolve_left hunused.1
    obtain ⟨hbefore, hlittle⟩ := ih hrest ha hunused.2
    refine ⟨fun u hu => ?_, ?_⟩
    · rcases mem_cons.1 hu with rfl | hu
      · exact hfirst a ha
      · exact hbefore u hu
    · rw [taken_cons]
      linarith

theorem sum_eq_of_sublist {part l : List α} (h : part.Sublist l) (hl : l.Nodup) {f : α → ℚ}
    (hf : ∀ a ∈ l, a ∉ part → f a = 0) : (l.map f).sum = (part.map f).sum := by
  induction h with
  | slnil => rfl
  | cons a h ih =>
    obtain ⟨hnew, hnodup⟩ := nodup_cons.1 hl
    rw [map_cons, sum_cons, hf a (.head _) fun hmem => hnew (h.subset hmem), zero_add]
    exact ih hnodup fun b hb => hf b (.tail _ hb)
  | cons_cons a h ih =>
    obtain ⟨hnew, hnodup⟩ := nodup_cons.1 hl
    rw [map_cons, map_cons, sum_cons, sum_cons, ih hnodup fun b hb hout => ?_]
    refine hf b (.tail _ hb) fun hmem => ?_
    rcases mem_cons.1 hmem with rfl | hmem
    · exact hnew hb
    · exact hout hmem

end GreedyFill
