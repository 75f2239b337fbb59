import Mathlib.Algebra.BigOperators.Group.List.Basic
import Mathlib.Algebra.GroupWithZero.Nat

set_option autoImplicit false

/-!
# Running sums that reach a demand

The first of a list of supplies at which the running sum covers a demand, and what is left over
there.
-/
namespace Parp.RunningSums

open List

def covers : ℕ → List ℕ → Option (ℕ × ℕ)
  | _, [] => none
  | demand, supply :: supplies =>
    if demand ≤ supply then some (0, supply - demand)
    else (covers (demand - supply) supplies).map fun found => (found.1 + 1, found.2)

variable {α : Type} {f g : α → ℕ} {demand : ℕ}

theorem covers_of_le {supply : ℕ} (h : demand ≤ supply) (supplies : List ℕ) :
    covers demand (supply :: supplies) = some (0, supply - demand) :=
  if_pos h

theorem covers_of_lt {supply : ℕ} (h : supply < demand) (supplies : List ℕ) :
    covers demand (supply :: supplies) =
      (covers (demand - supply) supplies).map fun found => (found.1 + 1, found.2) :=
  if_neg (Nat.not_le.2 h)

theorem found_succ_inj {x y : Option (ℕ × ℕ)} :
    (x.map fun found => (found.1 + 1, found.2)) = (y.map fun found => (found.1 + 1, found.2)) ↔
      x = y := by
  refine (Option.map_injective ?_).eq_iff
  rintro ⟨i, surplus⟩ ⟨j, surplus'⟩ h
  simpa using h

theorem covers_eq_some_iff {supplies : List ℕ} {index surplus : ℕ} (hdemand : 0 < demand) :
    covers demand supplies = some (index, surplus) ↔ index < supplies.length ∧
      demand + surplus = (supplies.take (index + 1)).sum ∧
        ∀ j < index, (supplies.take (j + 1)).sum < demand := by
  induction supplies generalizing demand index with
  | nil => simp [covers]
  | cons supply supplies ih =>
    by_cases h : demand ≤ supply
    · rw [covers_of_le h]
      cases index with
      | zero =>
        simp only [Option.some.injEq, Prod.mk.injEq, true_and, take_succ_cons, take_zero,
          sum_singleton, length_cons]
        constructor
        · rintro rfl
          exact ⟨by omega, by omega, nofun⟩
        · rintro ⟨-, hsum, -⟩
          omega
      | succ index =>
        have hnot : ¬ supply < demand := by omega
        constructor
        · intro heq
          cases heq
        · rintro ⟨-, -, hearlier⟩
          exact absurd (by simpa using hearlier 0 (Nat.succ_pos _)) hnot
    · have hlt := Nat.not_le.1 h
      rw [covers_of_lt hlt]
      cases index with
      | zero =>
        simp only [Option.map_eq_some_iff, Prod.mk.injEq, Nat.succ_ne_zero, false_and, and_false,
          exists_false, false_iff]
        rintro ⟨-, hsum, -⟩
        simp at hsum
        omega
      | succ index =>
        have hshift :
            ((covers (demand - supply) supplies).map fun found => (found.1 + 1, found.2)) =
            some (index + 1, surplus) ↔ covers (demand - supply) supplies = some (index, surplus) :=
          @found_succ_inj _ (some (index, surplus))
        rw [hshift, ih (by omega)]
        simp only [take_succ_cons, sum_cons, length_cons]
        constructor
        · rintro ⟨hindex, hsum, hearlier⟩
          refine ⟨by omega, by omega, fun j hj => ?_⟩
          cases j with
          | zero => simpa using hlt
          | succ j =>
            have hj' := hearlier j (by omega)
            omega
        · rintro ⟨hindex, hsum, hearlier⟩
          refine ⟨by omega, by omega, fun j hj => ?_⟩
          have hj' := hearlier (j + 1) (by omega)
          omega

theorem covers_eq_none_iff {supplies : List ℕ} (hdemand : 0 < demand) :
    covers demand supplies = none ↔
      ∀ index < supplies.length, (supplies.take (index + 1)).sum < demand := by
  induction supplies generalizing demand with
  | nil => simp [covers]
  | cons supply supplies ih =>
    by_cases h : demand ≤ supply
    · rw [covers_of_le h]
      simp only [reduceCtorEq, false_iff]
      intro hall
      have hfirst := hall 0 (Nat.succ_pos _)
      simp at hfirst
      omega
    · have hlt := Nat.not_le.1 h
      rw [covers_of_lt hlt, Option.map_eq_none_iff, ih (by omega)]
      constructor
      · intro hall index hindex
        cases index with
        | zero => simpa using hlt
        | succ index =>
          have hrest := hall index (Nat.lt_of_succ_lt_succ hindex)
          simp only [take_succ_cons, sum_cons]
          omega
      · intro hall index hindex
        have hrest := hall (index + 1) (Nat.succ_lt_succ hindex)
        simp only [take_succ_cons, sum_cons] at hrest
        omega

theorem covers_lt {items : List α} (hle : ∀ item ∈ items, g item ≤ f item) {larger : ℕ}
    (hdemand : 0 < demand) (hlarger : demand < larger) :
    covers demand (items.map f) = covers larger (items.map g) ↔ (items.map f).sum < demand := by
  induction items generalizing demand larger with
  | nil => simpa [covers] using hdemand
  | cons item items ih =>
    have hfirst := hle item (.head _)
    rw [map_cons, map_cons, sum_cons]
    by_cases h : demand ≤ f item
    · rw [covers_of_le h]
      have hnot : ¬ f item + (items.map f).sum < demand := by omega
      simp only [hnot, iff_false]
      by_cases h' : larger ≤ g item
      · rw [covers_of_le h']
        simp only [Option.some.injEq, Prod.mk.injEq, true_and]
        omega
      · rw [covers_of_lt (Nat.not_le.1 h')]
        cases covers (larger - g item) (items.map g) <;> simp
    · rw [covers_of_lt (Nat.not_le.1 h), covers_of_lt (by omega), found_succ_inj,
        ih (fun other hmem => hle other (.tail _ hmem)) (by omega) (by omega)]
      omega

/-- The two supplies of an item are the same, up to the item at which the first covers the demand.
-/
def SameUntil (f g : α → ℕ) (demand : ℕ) (items : List α) : Prop :=
  ∀ before item after, items = before ++ item :: after → (before.map f).sum < demand →
    f item = g item

theorem sameUntil_cons {item : α} {items : List α} (hdemand : 0 < demand) :
    SameUntil f g demand (item :: items) ↔
      f item = g item ∧ SameUntil f g (demand - f item) items := by
  constructor
  · intro h
    refine ⟨h [] item items rfl hdemand, fun before other after hsplit hsum => ?_⟩
    refine h (item :: before) other after (by rw [hsplit]; rfl) ?_
    rw [map_cons, sum_cons]
    omega
  · rintro ⟨hfirst, hrest⟩ before other after hsplit hsum
    cases before with
    | nil =>
      obtain ⟨rfl, -⟩ := List.cons.inj hsplit
      exact hfirst
    | cons first before =>
      obtain ⟨rfl, htail⟩ := List.cons.inj hsplit
      rw [map_cons, sum_cons] at hsum
      exact hrest before other after htail (by omega)

theorem sameUntil_zero (items : List α) : SameUntil f g 0 items :=
  fun _ _ _ _ hsum => absurd hsum (Nat.not_lt_zero _)

theorem covers_eq_iff {items : List α} (hle : ∀ item ∈ items, g item ≤ f item)
    (hdemand : 0 < demand) :
    covers demand (items.map f) = covers demand (items.map g) ↔
      (items.map f).sum < demand ∨ SameUntil f g demand items := by
  induction items generalizing demand with
  | nil => simp only [map_nil, sum_nil, hdemand, true_or]
  | cons item items ih =>
    have hfirst := hle item (.head _)
    have hrest : ∀ other ∈ items, g other ≤ f other := fun other hmem => hle other (.tail _ hmem)
    rw [map_cons, map_cons, sum_cons, sameUntil_cons hdemand]
    by_cases hcovers : demand ≤ f item
    · have hnot : ¬ f item + (items.map f).sum < demand := by omega
      have hzero : demand - f item = 0 := by omega
      rw [covers_of_le hcovers, hzero]
      simp only [hnot, false_or, sameUntil_zero, and_true]
      by_cases hcovers' : demand ≤ g item
      · rw [covers_of_le hcovers']
        simp only [Option.some.injEq, Prod.mk.injEq, true_and]
        omega
      · rw [covers_of_lt (Nat.not_le.1 hcovers')]
        have hne : f item ≠ g item := by omega
        cases covers (demand - g item) (items.map g) <;> simp [hne]
    · rw [covers_of_lt (Nat.not_le.1 hcovers), covers_of_lt (by omega), found_succ_inj]
      by_cases hsame : f item = g item
      · rw [← hsame, ih hrest (by omega)]
        simp only [true_and]
        refine or_congr_left ?_
        omega
      · rw [covers_lt hrest (by omega) (by omega)]
        simp only [hsame, false_and, or_false]
        omega

end Parp.RunningSums
