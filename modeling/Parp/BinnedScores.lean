import Mathlib.Algebra.Order.Monoid.Defs
import Mathlib.Data.List.Pairwise
import Mathlib.Data.List.TakeWhile

set_option autoImplicit false

/-!
# Additive scores over bins

A feature's value falls into the bin after the edges it is above, a bin has a weight, and the score
is the sum of the weights.
-/
namespace Parp.BinnedScores

variable {α M ι : Type} [LinearOrder α]

def bin (edges : List α) (value : α) : ℕ :=
  (edges.takeWhile fun edge => decide (value > edge)).length

def weight [Zero M] (edges : List α) (weights : List M) (value : α) : M :=
  weights.getD (bin edges value) 0

def total [AddCommMonoid M] (edges : ι → List α) (weights : ι → List M) (values : ι → α)
    (features : List ι) (bias : M) : M :=
  features.foldl (fun sum feature => sum + weight (edges feature) (weights feature) (values feature))
    bias

theorem bin_le (edges : List α) (value : α) : bin edges value ≤ edges.length :=
  (List.takeWhile_prefix _).length_le

theorem bin_mono (edges : List α) {v w : α} (h : v ≤ w) : bin edges v ≤ bin edges w := by
  unfold bin
  induction edges with
  | nil => exact Nat.le_refl 0
  | cons edge edges ih =>
    by_cases hv : v > edge
    · have hw : w > edge := lt_of_lt_of_le hv h
      simpa [List.takeWhile_cons, hv, hw] using ih
    · simp [List.takeWhile_cons, hv]

theorem weight_ordered [Zero M] {r : M → M → Prop} (hrefl : ∀ m, r m m) {edges : List α}
    {weights : List M} (hweights : weights.Pairwise r) (hlength : edges.length < weights.length)
    {v w : α} (h : v ≤ w) : r (weight edges weights v) (weight edges weights w) := by
  have hmono := bin_mono edges h
  have hlast : bin edges w < weights.length := Nat.lt_of_le_of_lt (bin_le edges w) hlength
  have hfirst : bin edges v < weights.length := Nat.lt_of_le_of_lt hmono hlast
  unfold weight
  rw [List.getD_eq_getElem?_getD, List.getD_eq_getElem?_getD, List.getElem?_eq_getElem hlast,
    List.getElem?_eq_getElem hfirst]
  rcases Nat.eq_or_lt_of_le hmono with heq | hlt
  · simp only [heq]
    exact hrefl _
  · exact List.pairwise_iff_getElem.1 hweights _ _ hfirst hlast hlt

theorem weight_mem [Zero M] {edges : List α} {weights : List M}
    (hlength : edges.length < weights.length) (value : α) :
    weight edges weights value ∈ weights := by
  have hbin : bin edges value < weights.length := Nat.lt_of_le_of_lt (bin_le edges value) hlength
  unfold weight
  rw [List.getD_eq_getElem?_getD, List.getElem?_eq_getElem hbin]
  exact List.getElem_mem hbin

variable [AddCommMonoid M] [PartialOrder M] [IsOrderedAddMonoid M] {edges : ι → List α}
  {weights : ι → List M}

theorem total_mono {values values' : ι → α} {features : List ι}
    (h : ∀ feature ∈ features, weight (edges feature) (weights feature) (values feature) ≤
      weight (edges feature) (weights feature) (values' feature)) {bias bias' : M}
    (hbias : bias ≤ bias') :
    total edges weights values features bias ≤ total edges weights values' features bias' := by
  induction features generalizing bias bias' with
  | nil => exact hbias
  | cons feature features ih =>
    exact ih (fun other hother => h other (.tail _ hother))
      (add_le_add hbias (h feature (.head _)))

theorem total_bounds {values : ι → α} {features : List ι} {lo hi : M}
    (h : ∀ feature ∈ features, lo ≤ weight (edges feature) (weights feature) (values feature) ∧
      weight (edges feature) (weights feature) (values feature) ≤ hi) (bias : M) :
    bias + features.length • lo ≤ total edges weights values features bias ∧
      total edges weights values features bias ≤ bias + features.length • hi := by
  induction features generalizing bias with
  | nil => simp [total]
  | cons feature features ih =>
    obtain ⟨hlo, hhi⟩ := h feature (.head _)
    obtain ⟨hlower, hupper⟩ := ih (fun other hother => h other (.tail _ hother))
      (bias + weight (edges feature) (weights feature) (values feature))
    rw [List.length_cons, succ_nsmul', succ_nsmul', ← add_assoc, ← add_assoc]
    exact ⟨(add_le_add_left (add_le_add_right hlo bias) _).trans hlower,
      hupper.trans (add_le_add_left (add_le_add_right hhi bias) _)⟩

end Parp.BinnedScores
