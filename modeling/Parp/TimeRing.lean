import Mathlib.Algebra.BigOperators.Group.Finset.Piecewise
import Mathlib.Algebra.GroupWithZero.Nat

set_option autoImplicit false

/-!
# Rings indexed by time

A ring keeps, at the index of a time modulo its size, what arrived at that time. A cell starts anew
when another time arrives at it. As long as no time arrives at a cell after a later one, a cell
holds all that arrived at its latest time.
-/
namespace Parp

open List

/-- How arrivals `α` are added to cells `γ`. -/
structure TimeRing (α γ : Type) where
  size : ℕ
  time : α → ℕ
  second : γ → ℕ
  fresh : ℕ → γ
  add : γ → α → γ
  second_zero : second (fresh 0) = 0
  second_fresh : ∀ x, second (fresh (time x)) = time x
  second_add : ∀ c x, second (add c x) = second c

namespace TimeRing

variable {α γ : Type} (ring : TimeRing α γ)

def put (cells : List γ) (x : α) : List γ :=
  cells.modify (ring.time x % ring.size) fun cell =>
    ring.add (if ring.second cell ≠ ring.time x then ring.fresh (ring.time x) else cell) x

/-- The latest time that arrived at index `r`, and 0 where none did. -/
def latest (arrivals : List α) (r : ℕ) : ℕ :=
  arrivals.foldl (fun last x =>
    if ring.time x % ring.size = r then max last (ring.time x) else last) 0

/-- What arrived at index `r` at its latest time. -/
def held (arrivals : List α) (r : ℕ) : List α :=
  arrivals.filter fun x => ring.time x % ring.size = r ∧ ring.time x = ring.latest arrivals r

def cell (arrivals : List α) (r : ℕ) : γ :=
  (ring.held arrivals r).foldl ring.add (ring.fresh (ring.latest arrivals r))

def InOrder (arrivals : List α) : Prop :=
  arrivals.Pairwise fun x y =>
    ring.time x % ring.size = ring.time y % ring.size → ring.time x ≤ ring.time y

theorem latest_concat (arrivals : List α) (x : α) (r : ℕ) :
    ring.latest (arrivals ++ [x]) r =
      if ring.time x % ring.size = r then max (ring.latest arrivals r) (ring.time x)
      else ring.latest arrivals r := by
  simp [latest]

variable {arrivals : List α}

theorem le_latest {x : α} (h : x ∈ arrivals) :
    ring.time x ≤ ring.latest arrivals (ring.time x % ring.size) := by
  induction arrivals using List.reverseRecOn with
  | nil => cases h
  | append_singleton arrivals y ih =>
    rw [latest_concat]
    rcases mem_append.1 h with hold | hnew
    · have hle := ih hold
      split_ifs
      all_goals omega
    · rw [mem_singleton.1 hnew, if_pos rfl]
      exact Nat.le_max_right _ _

theorem latest_arrived (arrivals : List α) (r : ℕ) :
    ring.latest arrivals r = 0 ∨
      ∃ x ∈ arrivals, ring.time x % ring.size = r ∧ ring.time x = ring.latest arrivals r := by
  induction arrivals using List.reverseRecOn with
  | nil => exact .inl rfl
  | append_singleton arrivals y ih =>
    rw [latest_concat]
    by_cases hlast : ring.time y % ring.size = r ∧ ring.latest arrivals r ≤ ring.time y
    · rw [if_pos hlast.1, Nat.max_eq_right hlast.2]
      exact .inr ⟨y, by simp, hlast.1, rfl⟩
    · have hsame : (if ring.time y % ring.size = r then
          max (ring.latest arrivals r) (ring.time y) else ring.latest arrivals r) =
            ring.latest arrivals r := by
        split_ifs with hr
        · have hlower : ¬ ring.latest arrivals r ≤ ring.time y := fun hle => hlast ⟨hr, hle⟩
          omega
        · rfl
      rw [hsame]
      rcases ih with hzero | ⟨x, hmem, hx⟩
      · exact .inl hzero
      · exact .inr ⟨x, mem_append_left _ hmem, hx⟩

theorem second_cell (arrivals : List α) (r : ℕ) :
    ring.second (ring.cell arrivals r) = ring.latest arrivals r := by
  have hfold : ∀ (list : List α) (c : γ), ring.second (list.foldl ring.add c) = ring.second c := by
    intro list
    induction list with
    | nil => exact fun _ => rfl
    | cons x list ih => exact fun c => (ih _).trans (ring.second_add c x)
  unfold cell
  rw [hfold]
  rcases ring.latest_arrived arrivals r with hnone | ⟨x, -, -, hx⟩
  · rw [hnone, ring.second_zero]
  · rw [← hx, ring.second_fresh]

theorem cell_concat {x : α} (horder : ring.InOrder (arrivals ++ [x])) (r : ℕ) :
    ring.cell (arrivals ++ [x]) r =
      if ring.time x % ring.size = r then
        ring.add (if ring.second (ring.cell arrivals r) ≠ ring.time x then ring.fresh (ring.time x)
          else ring.cell arrivals r) x
      else ring.cell arrivals r := by
  rw [second_cell]
  by_cases hr : ring.time x % ring.size = r
  · have hle : ring.latest arrivals r ≤ ring.time x := by
      rcases ring.latest_arrived arrivals r with hnone | ⟨y, hmem, hy, hlast⟩
      · omega
      · rw [← hlast]
        exact (pairwise_append.1 horder).2.2 y hmem x (mem_singleton_self x)
          (hy.trans hr.symm)
    have hlatest : ring.latest (arrivals ++ [x]) r = ring.time x := by
      rw [latest_concat, if_pos hr, Nat.max_eq_right hle]
    rw [if_pos hr]
    unfold cell held
    rw [hlatest, filter_append]
    simp only [hr, filter_cons, filter_nil, foldl_append, and_self, decide_true,
      if_true, foldl_cons, foldl_nil]
    split_ifs with hother
    · -- everything at the cell is older than the arrival
      have hnone : (arrivals.filter fun y =>
          ring.time y % ring.size = r ∧ ring.time y = ring.time x) = [] := by
        rw [filter_eq_nil_iff]
        intro y hmem hy
        obtain ⟨hyr, hyx⟩ := of_decide_eq_true hy
        have hbound := ring.le_latest hmem
        rw [hyr] at hbound
        omega
      rw [hnone]
      rfl
    · rw [not_not.1 hother]
  · have hlatest : ring.latest (arrivals ++ [x]) r = ring.latest arrivals r := by
      rw [latest_concat, if_neg hr]
    rw [if_neg hr]
    unfold cell held
    rw [hlatest, filter_append]
    simp [hr]

theorem cells_after (horder : ring.InOrder arrivals) :
    arrivals.foldl ring.put (List.replicate ring.size (ring.fresh 0)) =
      (List.range ring.size).map (ring.cell arrivals) := by
  induction arrivals using List.reverseRecOn with
  | nil =>
    apply ext_getElem?
    intro r
    by_cases hr : r < ring.size
    · simp [hr, cell, held, latest]
    · simp [hr]
  | append_singleton arrivals x ih =>
    rw [foldl_append, ih (pairwise_append.1 horder).1, foldl_cons, foldl_nil]
    apply ext_getElem?
    intro r
    unfold put
    rw [getElem?_modify, getElem?_map, getElem?_map]
    by_cases hr : r < ring.size
    · rw [getElem?_range hr, Option.map_some, Option.map_some, ring.cell_concat horder]
      split_ifs
      all_goals simp_all
    · rw [getElem?_eq_none (by simpa using hr)]
      simp

theorem sum_indices (hsize : 0 < ring.size) (arrivals : List α) (q : ℕ → α → Bool) (f : α → ℕ) :
    (∑ r ∈ Finset.range ring.size,
      ((arrivals.filter fun x => ring.time x % ring.size = r ∧ q r x).map f).sum) =
        ((arrivals.filter fun x => q (ring.time x % ring.size) x).map f).sum := by
  induction arrivals with
  | nil => simp
  | cons x arrivals ih =>
    have hterm : ∀ r, (((x :: arrivals).filter fun x =>
          ring.time x % ring.size = r ∧ q r x).map f).sum =
        (if ring.time x % ring.size = r then
            if q (ring.time x % ring.size) x then f x else 0
          else 0) +
          ((arrivals.filter fun x => ring.time x % ring.size = r ∧ q r x).map f).sum := by
      intro r
      rw [filter_cons]
      by_cases hr : ring.time x % ring.size = r
      · subst hr
        cases q (ring.time x % ring.size) x
        · simp
        · simp
      · simp [hr]
    simp only [hterm]
    rw [Finset.sum_add_distrib, ih, Finset.sum_ite_eq,
      if_pos (Finset.mem_range.2 (Nat.mod_lt _ hsize)), filter_cons]
    cases q (ring.time x % ring.size) x
    · simp
    · simp

end TimeRing

end Parp
