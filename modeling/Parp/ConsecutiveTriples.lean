import Mathlib.Data.List.Basic

set_option autoImplicit false

/-!
# Consecutive triples

The triples of neighbours in a list, told by a window over its last two elements.
-/
namespace Parp.ConsecutiveTriples

variable {α : Type*}

def triples : List α → List (α × α × α)
  | first :: second :: third :: rest => (first, second, third) :: triples (second :: third :: rest)
  | _ => []

def lastTwo (l : List α) : List α := l.drop (l.length - 2)

theorem lastTwo_cons {l : List α} (h : 2 ≤ l.length) (x : α) : lastTwo (x :: l) = lastTwo l := by
  unfold lastTwo
  rw [List.length_cons, Nat.sub_add_comm h]
  rfl

theorem lastTwo_of_length_le {l : List α} (h : l.length ≤ 2) : lastTwo l = l := by
  unfold lastTwo
  rw [Nat.sub_eq_zero_of_le h, List.drop_zero]

theorem lastTwo_slide (l : List α) (x : α) : lastTwo (lastTwo l ++ [x]) = lastTwo (l ++ [x]) := by
  induction l with
  | nil => rfl
  | cons first l ih =>
    rcases Nat.lt_or_ge l.length 2 with hshort | hlong
    · rw [lastTwo_of_length_le (l := first :: l) (by simp; omega)]
    · rw [lastTwo_cons hlong, ih, List.cons_append, lastTwo_cons (by simp; omega)]

def tripleOf (window : List α) (x : α) : List (α × α × α) :=
  match window with
  | [first, second] => [(first, second, x)]
  | _ => []

theorem triples_concat (l : List α) (x : α) :
    triples (l ++ [x]) = triples l ++ tripleOf (lastTwo l) x := by
  induction l with
  | nil => rfl
  | cons first l ih =>
    match l, ih with
    | [], _ => rfl
    | [second], _ => rfl
    | second :: third :: rest, ih =>
      rw [lastTwo_cons (by simp)]
      change (first, second, third) :: triples ((second :: third :: rest) ++ [x]) = _
      rw [ih]
      rfl

end Parp.ConsecutiveTriples
