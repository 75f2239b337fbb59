import Mathlib.Algebra.BigOperators.Group.Finset.Basic
import Mathlib.Algebra.Order.Group.Int
import Mathlib.Data.Int.ConditionallyCompleteOrder
import Mathlib.Data.Int.Interval
import Mathlib.Order.ConditionallyCompleteLattice.Basic

set_option autoImplicit false

/-!
# Tilings of an interval

Half-open intervals of natural numbers that follow one another without a gap.
-/
namespace Parp.Tiling

open List

inductive Tiles : ℕ → ℕ → List (ℕ × ℕ) → Prop
  | nil (last : ℕ) : Tiles last last []
  | cons {first middle last : ℕ} {pieces : List (ℕ × ℕ)} (hpiece : first < middle)
      (hrest : Tiles middle last pieces) : Tiles first last ((first, middle) :: pieces)

variable {first middle last : ℕ} {pieces : List (ℕ × ℕ)}

theorem Tiles.le (h : Tiles first last pieces) : first ≤ last := by
  induction h with
  | nil last => exact Nat.le_refl _
  | cons hpiece _ ih => omega

theorem Tiles.concat (h : Tiles first middle pieces) (hpiece : middle < last) :
    Tiles first last (pieces ++ [(middle, last)]) := by
  induction h with
  | nil middle => exact .cons hpiece (.nil last)
  | cons hfirst _ ih => exact .cons hfirst (ih hpiece)

theorem Tiles.bounds (h : Tiles first last pieces) :
    ∀ piece ∈ pieces, first ≤ piece.1 ∧ piece.1 < piece.2 ∧ piece.2 ≤ last := by
  induction h with
  | nil last => exact fun _ hmem => (not_mem_nil hmem).elim
  | cons hpiece hrest ih =>
    intro piece hmem
    have hle := hrest.le
    rcases mem_cons.1 hmem with rfl | hmem
    · exact ⟨Nat.le_refl _, hpiece, hle⟩
    · have hbounds := ih piece hmem
      omega

theorem Tiles.covers (h : Tiles first last pieces) (x : ℕ) :
    (first ≤ x ∧ x < last) ↔ ∃ piece ∈ pieces, piece.1 ≤ x ∧ x < piece.2 := by
  induction h with
  | nil last => simp
  | @cons first middle last pieces hpiece hrest ih =>
    have hle := hrest.le
    simp only [exists_mem_cons_iff, ← ih]
    omega

theorem Tiles.disjoint (h : Tiles first last pieces) :
    pieces.Pairwise fun earlier later => earlier.2 ≤ later.1 := by
  induction h with
  | nil last => exact List.Pairwise.nil
  | cons _ hrest ih =>
    exact pairwise_cons.2 ⟨fun later hmem => (hrest.bounds later hmem).1, ih⟩

end Parp.Tiling

/-!
# Pieces of the integers
-/
namespace Parp.IntervalPieces

open List

def Apart (pieces : List (ℤ × ℤ)) : Prop :=
  pieces.Pairwise fun earlier later => earlier.2 ≤ later.1 ∨ later.2 ≤ earlier.1

theorem card_covered {pieces : List (ℤ × ℤ)} (hapart : Apart pieces)
    (hforward : ∀ piece ∈ pieces, piece.1 ≤ piece.2) (covered : Finset ℤ)
    (hcovers : ∀ x, x ∈ covered ↔ ∃ piece ∈ pieces, piece.1 ≤ x ∧ x < piece.2) :
    (covered.card : ℤ) = (pieces.map fun piece => piece.2 - piece.1).sum := by
  induction pieces generalizing covered with
  | nil =>
    have hempty : covered = ∅ := Finset.eq_empty_of_forall_notMem fun x hx => by
      simpa using (hcovers x).1 hx
    rw [hempty]
    rfl
  | cons first pieces ih =>
    obtain ⟨hfirst, hrest⟩ := pairwise_cons.1 hapart
    have hsplit : covered = Finset.Ico first.1 first.2 ∪
        covered.filter fun x => ∃ piece ∈ pieces, piece.1 ≤ x ∧ x < piece.2 := by
      ext x
      rw [Finset.mem_union, Finset.mem_filter, Finset.mem_Ico, hcovers,
        exists_mem_cons_iff]
      tauto
    have hdisjoint : Disjoint (Finset.Ico first.1 first.2)
        (covered.filter fun x => ∃ piece ∈ pieces, piece.1 ≤ x ∧ x < piece.2) := by
      refine Finset.disjoint_left.2 fun x hx hx' => ?_
      obtain ⟨piece, hpiece, hle, hlt⟩ := (Finset.mem_filter.1 hx').2
      rw [Finset.mem_Ico] at hx
      have := hfirst piece hpiece
      omega
    have hcard := ih hrest (fun piece hpiece => hforward piece (.tail _ hpiece))
      (covered.filter fun x => ∃ piece ∈ pieces, piece.1 ≤ x ∧ x < piece.2) ?_
    · have hlength := hforward first (.head _)
      rw [hsplit, Finset.card_union_of_disjoint hdisjoint, Nat.cast_add, hcard, Int.card_Ico,
        map_cons, sum_cons, Int.toNat_of_nonneg (by omega)]
    · intro x
      rw [Finset.mem_filter, hcovers, exists_mem_cons_iff]
      tauto

section

def between (points : List ℤ) : List (ℤ × ℤ) := points.zip points.tail

variable {points : List ℤ}

theorem between_le (hsorted : points.Pairwise (· ≤ ·)) {piece : ℤ × ℤ}
    (hpiece : piece ∈ between points) : piece.1 ≤ piece.2 := by
  induction points with
  | nil => cases hpiece
  | cons first points ih =>
    obtain ⟨hfirst, hrest⟩ := pairwise_cons.1 hsorted
    cases points with
    | nil => cases hpiece
    | cons second points =>
      rcases mem_cons.1 hpiece with rfl | hlater
      · exact hfirst second (.head _)
      · exact ih hrest hlater

theorem between_apart (hsorted : points.Pairwise (· ≤ ·)) {piece : ℤ × ℤ}
    (hpiece : piece ∈ between points) {x : ℤ} (hx : x ∈ points) : x ≤ piece.1 ∨ piece.2 ≤ x := by
  induction points with
  | nil => cases hx
  | cons first points ih =>
    obtain ⟨hfirst, hrest⟩ := pairwise_cons.1 hsorted
    cases points with
    | nil => cases hpiece
    | cons second points =>
      rcases mem_cons.1 hpiece with rfl | hlater
      · rcases mem_cons.1 hx with rfl | hx
        · exact .inl le_rfl
        · refine .inr ?_
          rcases mem_cons.1 hx with rfl | hx
          · exact le_rfl
          · exact (pairwise_cons.1 hrest).1 x hx
      · rcases mem_cons.1 hx with rfl | hx
        · have hbetween : piece ∈ between (second :: points) := hlater
          exact .inl (hfirst _ (of_mem_zip hbetween).1)
        · exact ih hrest hlater hx

theorem le_getLastD {first : ℤ} (hsorted : (first :: points).Pairwise (· ≤ ·)) {x : ℤ}
    (hx : x ∈ first :: points) : x ≤ points.getLastD first := by
  induction points generalizing first x with
  | nil =>
    rcases mem_cons.1 hx with rfl | hx
    · exact le_rfl
    · cases hx
  | cons second points ih =>
    obtain ⟨hfirst, hrest⟩ := pairwise_cons.1 hsorted
    rw [getLastD_cons]
    rcases mem_cons.1 hx with rfl | hx
    · exact (hfirst second (.head _)).trans (ih hrest (.head _))
    · exact ih hrest hx

variable {M : Type} [AddCommMonoid M]

theorem sum_Ico_append (f : ℤ → M) {first middle last : ℤ} (hle : first ≤ middle)
    (hle' : middle ≤ last) :
    ∑ x ∈ Finset.Ico first middle, f x + ∑ x ∈ Finset.Ico middle last, f x =
      ∑ x ∈ Finset.Ico first last, f x := by
  rw [← Finset.Ico_union_Ico_eq_Ico hle hle',
    Finset.sum_union (Finset.Ico_disjoint_Ico_consecutive first middle last)]

theorem sum_between (f : ℤ → M) {first : ℤ} (hsorted : (first :: points).Pairwise (· ≤ ·)) :
    ((between (first :: points)).map fun piece => ∑ x ∈ Finset.Ico piece.1 piece.2, f x).sum =
      ∑ x ∈ Finset.Ico first (points.getLastD first), f x := by
  induction points generalizing first with
  | nil => simp [between]
  | cons second points ih =>
    obtain ⟨hfirst, hrest⟩ := pairwise_cons.1 hsorted
    have hlast : second ≤ points.getLastD second := le_getLastD hrest (.head _)
    change (∑ x ∈ Finset.Ico first second, f x) + ((between (second :: points)).map fun piece =>
      ∑ x ∈ Finset.Ico piece.1 piece.2, f x).sum = _
    rw [ih hrest, getLastD_cons]
    exact sum_Ico_append f (hfirst second (.head _)) hlast

theorem sum_range_Ico (f : ℤ → M) {start : ℕ → ℤ} (hmono : Monotone start) (count : ℕ) :
    ((List.range count).map fun i => ∑ x ∈ Finset.Ico (start i) (start (i + 1)), f x).sum =
      ∑ x ∈ Finset.Ico (start 0) (start count), f x := by
  induction count with
  | zero => simp
  | succ count ih =>
    rw [range_succ, map_append, sum_append, ih]
    simp only [map_cons, map_nil, sum_cons, sum_nil, add_zero]
    exact sum_Ico_append f (hmono (Nat.zero_le _)) (hmono (Nat.le_succ _))

end

section

variable {width base first stop : ℤ}

theorem bucket_begins (hwidth : 0 < width) {x : ℤ} (hmultiple : (x - base) % width = 0) :
    (x - 1 - base) / width < (x - base) / width := by
  have hexact := Int.mul_ediv_add_emod (x - base) width
  rw [hmultiple, add_zero, mul_comm] at hexact
  refine Int.ediv_lt_of_lt_mul hwidth ?_
  omega

theorem one_bucket_iff (hwidth : 0 < width) :
    (∀ x, first ≤ x → x < stop → (x - base) / width = (first - base) / width) ↔
      ∀ x, first < x → x < stop → (x - base) % width ≠ 0 := by
  constructor
  · intro h x hlt hstop hmultiple
    have hbegins := bucket_begins hwidth hmultiple
    rw [h x hlt.le hstop, h (x - 1) (by omega) (by omega)] at hbegins
    exact absurd hbegins (lt_irrefl _)
  · intro h x hle hstop
    by_contra hother
    have hmono : (first - base) / width ≤ (x - base) / width :=
      Int.ediv_le_ediv hwidth (by omega)
    have hless : (first - base) / width < (x - base) / width :=
      lt_of_le_of_ne hmono fun hsame => hother hsame.symm
    have hbegin : first - base < (x - base) / width * width :=
      Int.lt_mul_of_ediv_lt hwidth hless
    have hinside := Int.ediv_mul_le (x - base) hwidth.ne'
    refine h (base + (x - base) / width * width) (by omega) (by omega) ?_
    rw [add_sub_cancel_left, Int.mul_emod_left]

end

end Parp.IntervalPieces
