import Mathlib.Data.List.TakeWhile
import Mathlib.Order.Lattice
import Mathlib.Tactic.Common

set_option autoImplicit false

/-!
# Binary search with a point comparator

`compare i` tells where the element `i` stands to what is looked for: `.lt` before it, `.gt` after
it, `.eq` on it. A search for an insertion point has no `.eq`: it halves a range for the first place
that is not below.
-/
namespace Parp.IntervalSearch

open List

/-- The search of `left ≤ i < right`. -/
def bisect (compare : ℕ → Ordering) (left right : ℕ) : Option ℕ :=
  bisectFrom compare (right - left) left right
where
  /-- `fuel` is at least the length of what is left. -/
  bisectFrom (compare : ℕ → Ordering) : ℕ → ℕ → ℕ → Option ℕ
    | 0, _, _ => none
    | fuel + 1, left, right =>
      if left < right then
        let middle := left + (right - left) / 2
        match compare middle with
        | .eq => some middle
        | .lt => bisectFrom compare fuel (middle + 1) right
        | .gt => bisectFrom compare fuel left middle
      else none

section

variable {compare : ℕ → Ordering} {left right : ℕ}

def Aligned (compare : ℕ → Ordering) (left right : ℕ) : Prop :=
  ∀ i j, left ≤ i → i < j → j < right →
    compare i = .lt ∨ compare j = .gt ∨ compare i = .eq ∧ compare j = .eq

theorem Aligned.upper (h : Aligned compare left right) {middle : ℕ} (hmiddle : left ≤ middle) :
    Aligned compare middle right :=
  fun i j hi => h i j (Nat.le_trans hmiddle hi)

theorem Aligned.lower (h : Aligned compare left right) {middle : ℕ} (hmiddle : middle ≤ right) :
    Aligned compare left middle :=
  fun i j hi hij hj => h i j hi hij (Nat.lt_of_lt_of_le hj hmiddle)

theorem bisectFrom_sound {fuel i : ℕ} (h : bisect.bisectFrom compare fuel left right = some i) :
    left ≤ i ∧ i < right ∧ compare i = .eq := by
  induction fuel generalizing left right with
  | zero => cases h
  | succ fuel ih =>
    unfold bisect.bisectFrom at h
    split_ifs at h with hlt
    dsimp only at h
    split at h
    · rename_i hmiddle
      obtain rfl := Option.some.inj h
      exact ⟨by omega, by omega, hmiddle⟩
    · obtain ⟨hleft, hright, heq⟩ := ih h
      exact ⟨by omega, hright, heq⟩
    · obtain ⟨hleft, hright, heq⟩ := ih h
      exact ⟨hleft, by omega, heq⟩

theorem bisect_sound {i : ℕ} (h : bisect compare left right = some i) :
    left ≤ i ∧ i < right ∧ compare i = .eq :=
  bisectFrom_sound h

theorem bisectFrom_complete {fuel i : ℕ} (h : Aligned compare left right)
    (hfuel : right - left ≤ fuel) (hleft : left ≤ i) (hright : i < right)
    (heq : compare i = .eq) : (bisect.bisectFrom compare fuel left right).isSome := by
  induction fuel generalizing left right with
  | zero => omega
  | succ fuel ih =>
    have hlt : left < right := by omega
    unfold bisect.bisectFrom
    rw [if_pos hlt]
    dsimp only
    generalize hmiddle : left + (right - left) / 2 = middle
    have hbounds : left ≤ middle ∧ middle < right := by omega
    cases hcase : compare middle with
    | eq => rfl
    | lt =>
      have hi : middle < i := by
        rcases Nat.lt_trichotomy i middle with hi | rfl | hi
        · have halign := h i middle hleft hi hbounds.2
          simp [heq, hcase] at halign
        · simp [heq] at hcase
        · exact hi
      exact ih (h.upper (by omega)) (by omega) hi hright
    | gt =>
      have hi : i < middle := by
        rcases Nat.lt_trichotomy i middle with hi | rfl | hi
        · exact hi
        · simp [heq] at hcase
        · have halign := h middle i hbounds.1 hi hright
          simp [heq, hcase] at halign
      exact ih (h.lower (Nat.le_of_lt hbounds.2)) (by omega) hleft hi

theorem bisect_complete {i : ℕ} (h : Aligned compare left right) (hleft : left ≤ i)
    (hright : i < right) (heq : compare i = .eq) : (bisect compare left right).isSome :=
  bisectFrom_complete h (Nat.le_refl _) hleft hright heq

end

section

/-- The loop over `lo < hi`; `fuel` is at least `hi - lo`. -/
def partitionPoint (below : ℕ → Bool) : ℕ → ℕ → ℕ → ℕ
  | 0, lo, _ => lo
  | fuel + 1, lo, hi =>
    if lo < hi then
      let middle := (lo + hi) / 2
      if below middle then partitionPoint below fuel (middle + 1) hi
      else partitionPoint below fuel lo middle
    else lo

def insertionPoint {α : Type} (below : α → Bool) (xs : List α) : ℕ :=
  partitionPoint (fun i => (xs[i]?).any below) xs.length 0 xs.length

def bisectLeft {α : Type} [LinearOrder α] (xs : List α) (x : α) : ℕ :=
  insertionPoint (fun y => decide (y < x)) xs

def bisectRight {α : Type} [LinearOrder α] (xs : List α) (x : α) : ℕ :=
  insertionPoint (fun y => decide (y ≤ x)) xs

variable {below : ℕ → Bool}

theorem partitionPoint_spec {fuel lo hi : ℕ} (hdown : ∀ i j, i ≤ j → j < hi → below j → below i)
    (hle : lo ≤ hi) (hfuel : hi - lo ≤ fuel) :
    lo ≤ partitionPoint below fuel lo hi ∧ partitionPoint below fuel lo hi ≤ hi ∧
      (∀ i, lo ≤ i → i < partitionPoint below fuel lo hi → below i = true) ∧
      ∀ i, partitionPoint below fuel lo hi ≤ i → i < hi → below i = false := by
  induction fuel generalizing lo hi with
  | zero =>
    change lo ≤ lo ∧ lo ≤ hi ∧ (∀ i, lo ≤ i → i < lo → _) ∧ ∀ i, lo ≤ i → i < hi → _
    exact ⟨Nat.le_refl _, hle, fun i _ _ => by omega, fun i _ _ => by omega⟩
  | succ fuel ih =>
    unfold partitionPoint
    by_cases hlt : lo < hi
    · rw [if_pos hlt]
      dsimp only
      generalize hmiddle : (lo + hi) / 2 = middle
      have hbounds : lo ≤ middle ∧ middle < hi := by omega
      cases hbelow : below middle with
      | true =>
        rw [if_pos rfl]
        obtain ⟨hlower, hupper, hfirst, hlast⟩ :=
          @ih (middle + 1) hi hdown hbounds.2 (by omega)
        refine ⟨by omega, hupper, fun i hi hlt => ?_, hlast⟩
        by_cases hside : i ≤ middle
        · exact hdown i middle hside hbounds.2 hbelow
        · exact hfirst i (by omega) hlt
      | false =>
        rw [if_neg Bool.false_ne_true]
        obtain ⟨hlower, hupper, hfirst, hlast⟩ :=
          ih (fun i j hij hj => hdown i j hij (by omega)) hbounds.1 (by omega)
        refine ⟨hlower, by omega, hfirst, fun i hi hlt => ?_⟩
        by_cases hside : i < middle
        · exact hlast i hi hside
        · rw [Bool.eq_false_iff]
          intro hin
          have hmid := hdown middle i (by omega) hlt hin
          rw [hbelow] at hmid
          exact Bool.false_ne_true hmid
    · rw [if_neg hlt]
      exact ⟨Nat.le_refl _, hle, fun i _ _ => by omega, fun i _ _ => by omega⟩

theorem insertionPoint_eq {α : Type} {below : α → Bool} {xs : List α}
    (hsorted : xs.Pairwise fun a b => below b → below a) :
    insertionPoint below xs = (xs.takeWhile below).length := by
  have hdown : ∀ i j, i ≤ j → j < xs.length → ((xs[j]?).any below : Bool) →
      (xs[i]?).any below := by
    intro i j hij hj hbelow
    have hi : i < xs.length := Nat.lt_of_le_of_lt hij hj
    rw [getElem?_eq_getElem hj, Option.any_some] at hbelow
    rw [getElem?_eq_getElem hi, Option.any_some]
    rcases Nat.eq_or_lt_of_le hij with rfl | hlt
    · exact hbelow
    · exact pairwise_iff_getElem.1 hsorted i j hi hj hlt hbelow
  obtain ⟨-, hle, hfirst, hlast⟩ :=
    partitionPoint_spec hdown (Nat.zero_le _) (Nat.sub_le xs.length 0)
  change insertionPoint below xs ≤ _ at hle
  have hbelow : ∀ a ∈ xs.take (insertionPoint below xs), below a := by
    intro a hmem
    obtain ⟨i, hi, rfl⟩ := mem_take_iff_getElem.1 hmem
    have hin := hfirst i (Nat.zero_le _) (by unfold insertionPoint at hi; omega)
    rwa [getElem?_eq_getElem (by omega), Option.any_some] at hin
  have hrest : (xs.drop (insertionPoint below xs)).takeWhile below = [] := by
    rw [takeWhile_eq_nil_iff]
    intro hpos hin
    rw [length_drop] at hpos
    have hout := hlast (insertionPoint below xs) (Nat.le_refl _) (by omega)
    rw [getElem?_eq_getElem (by omega), Option.any_some] at hout
    rw [get_eq_getElem, getElem_drop] at hin
    simp only [Nat.add_zero, hout] at hin
    exact Bool.false_ne_true hin
  have hsplit : xs.takeWhile below = xs.take (insertionPoint below xs) := by
    conv_lhs => rw [← take_append_drop (insertionPoint below xs) xs]
    rw [takeWhile_append_of_pos hbelow, hrest, append_nil]
  rw [hsplit, length_take, Nat.min_eq_left hle]

variable {α : Type} [LinearOrder α] {xs : List α}

theorem bisectLeft_eq (hsorted : xs.Pairwise (· ≤ ·)) (x : α) :
    bisectLeft xs x = (xs.takeWhile fun y => decide (y < x)).length := by
  refine insertionPoint_eq (hsorted.imp fun {a b} hle hb => ?_)
  simp only [decide_eq_true_eq] at hb ⊢
  exact lt_of_le_of_lt hle hb

theorem bisectRight_eq (hsorted : xs.Pairwise (· ≤ ·)) (x : α) :
    bisectRight xs x = (xs.takeWhile fun y => decide (y ≤ x)).length := by
  refine insertionPoint_eq (hsorted.imp fun {a b} hle hb => ?_)
  simp only [decide_eq_true_eq] at hb ⊢
  exact le_trans hle hb

theorem getElem?_length_takeWhile {β : Type} (p : β → Bool) (ys : List β) :
    ys[(ys.takeWhile p).length]? = ys.find? fun y => !p y := by
  induction ys with
  | nil => rfl
  | cons y ys ih =>
    cases hy : p y with
    | true =>
      rw [takeWhile_cons_of_pos hy, find?_cons_of_neg (by simp [hy]),
        length_cons, getElem?_cons_succ, ih]
    | false =>
      rw [takeWhile_cons_of_neg (by simp [hy]), find?_cons_of_pos (by simp [hy])]
      rfl

theorem getElem?_bisectRight {β : Type} (f : β → α) {ys : List β}
    (hsorted : (ys.map f).Pairwise (· ≤ ·)) (x : α) :
    ys[bisectRight (ys.map f) x]? = ys.find? fun y => decide (x < f y) := by
  rw [bisectRight_eq hsorted, takeWhile_map, length_map, getElem?_length_takeWhile]
  congr 1
  funext y
  change (!decide (f y ≤ x)) = _
  rw [← decide_not, decide_eq_decide]
  exact not_le

theorem find?_after_least {β : Type} {f : β → α} {ys : List β}
    (hsorted : (ys.map f).Pairwise (· ≤ ·)) {x : α} {y : β}
    (h : ys.find? (fun y => decide (x < f y)) = some y) :
    y ∈ ys ∧ x < f y ∧ ∀ z ∈ ys, x < f z → f y ≤ f z := by
  obtain ⟨hy, before, after, rfl, hbefore⟩ := find?_eq_some_iff_append.1 h
  refine ⟨mem_append_right _ (.head _), of_decide_eq_true hy, fun z hz hlt => ?_⟩
  rcases mem_append.1 hz with hz | hz
  · exact absurd (decide_eq_true hlt) (by simpa using hbefore z hz)
  · rw [map_append, map_cons] at hsorted
    have htail := pairwise_cons.1 (pairwise_append.1 hsorted).2.1
    rcases mem_cons.1 hz with rfl | hz
    · exact le_refl _
    · exact htail.1 _ (mem_map_of_mem hz)

end

end Parp.IntervalSearch
