import Mathlib.Data.List.Lex
import Mathlib.Data.Char
import Mathlib.Order.Lattice

set_option autoImplicit false

/-!
# Ordered maps

A map is its entries in the order of their keys.
-/
namespace Parp.SortedMap

instance linearOrderUInt64 : LinearOrder UInt64 where
  le_refl _ := UInt64.le_refl _
  le_trans _ _ _ := UInt64.le_trans
  le_antisymm _ _ := UInt64.le_antisymm
  le_total := UInt64.le_total
  lt_iff_le_not_ge a b := by
    rw [UInt64.not_le]
    exact ⟨fun h => ⟨UInt64.le_of_lt h, h⟩, And.right⟩
  toDecidableLE := inferInstance
  toDecidableLT := inferInstance
  toDecidableEq := inferInstance

variable {κ α : Type} [LinearOrder κ]

/-- `m.emplace(k, v)` on the entries: a key that is there keeps its value. -/
def emplace (k : κ) (v : α) : List (κ × α) → List (κ × α)
  | [] => [(k, v)]
  | e :: entries =>
    if k < e.1 then (k, v) :: e :: entries
    else if k = e.1 then e :: entries
    else e :: emplace k v entries

variable {entries : List (κ × α)}

theorem mem_emplace {k : κ} {v : α} {e : κ × α} (h : e ∈ emplace k v entries) :
    e = (k, v) ∨ e ∈ entries := by
  induction entries with
  | nil => exact .inl (List.mem_singleton.1 h)
  | cons first entries ih =>
    unfold emplace at h
    split_ifs at h with hlt heq
    · exact List.mem_cons.1 h
    · exact .inr h
    · rcases List.mem_cons.1 h with rfl | h
      · exact .inr (.head _)
      · exact (ih h).imp_right (.tail _)

theorem emplace_ordered (k : κ) (v : α) (h : entries.Pairwise fun a b => a.1 < b.1) :
    (emplace k v entries).Pairwise fun a b => a.1 < b.1 := by
  induction entries with
  | nil => exact List.pairwise_singleton _ _
  | cons first entries ih =>
    obtain ⟨hfirst, hrest⟩ := List.pairwise_cons.1 h
    unfold emplace
    split_ifs with hlt heq
    · refine .cons (fun e he => ?_) h
      rcases List.mem_cons.1 he with rfl | he
      · exact hlt
      · exact hlt.trans (hfirst e he)
    · exact h
    · refine .cons (fun e he => ?_) (ih hrest)
      rcases mem_emplace he with rfl | he
      · exact lt_of_le_of_ne (not_lt.1 hlt) (Ne.symm heq)
      · exact hfirst e he

theorem emplace_last (k : κ) (v : α) (h : ∀ e ∈ entries, e.1 < k) :
    emplace k v entries = entries ++ [(k, v)] := by
  induction entries with
  | nil => rfl
  | cons first entries ih =>
    have hfirst := h first (.head _)
    unfold emplace
    rw [if_neg hfirst.not_gt, if_neg hfirst.ne', ih fun e he => h e (.tail _ he)]
    rfl

/-- `std::map`. -/
structure Map (κ α : Type) [LinearOrder κ] where
  entries : List (κ × α)
  ordered : entries.Pairwise fun a b => a.1 < b.1
deriving DecidableEq

namespace Map

def empty : Map κ α := ⟨[], .nil⟩

instance : EmptyCollection (Map κ α) := ⟨empty⟩

def size (m : Map κ α) : ℕ := m.entries.length

def isEmpty (m : Map κ α) : Bool := m.entries.isEmpty

def find? (m : Map κ α) (k : κ) : Option α := (m.entries.find? fun e => e.1 = k).map Prod.snd

def contains (m : Map κ α) (k : κ) : Bool := (m.find? k).isSome

/-- `*m.begin()`, when there is one. -/
def begin? (m : Map κ α) : Option (κ × α) := m.entries.head?

def emplace (m : Map κ α) (k : κ) (v : α) : Map κ α :=
  ⟨SortedMap.emplace k v m.entries, emplace_ordered k v m.ordered⟩

theorem contains_iff {m : Map κ α} {k : κ} : m.contains k = true ↔ ∃ e ∈ m.entries, e.1 = k := by
  simp [contains, find?]

@[ext] theorem ext {m n : Map κ α} (h : m.entries = n.entries) : m = n := by
  cases m
  cases n
  cases h
  rfl

theorem foldlM_emplace {ε β : Type} (m : Map κ α) (item : κ × α → β)
    (f : Map κ α → β → Except ε (Map κ α))
    (h : ∀ e ∈ m.entries, ∀ n : Map κ α, n.contains e.1 = false →
      f n (item e) = .ok (n.emplace e.1 e.2)) :
    (m.entries.map item).foldlM f empty = .ok m := by
  suffices hsplit : ∀ (left right : List (κ × α)) (n : Map κ α), left ++ right = m.entries →
      n.entries = left → (right.map item).foldlM f n = .ok m from
    hsplit [] m.entries empty rfl rfl
  intro left right
  induction right generalizing left with
  | nil =>
    intro n hsplit hleft
    rw [List.append_nil] at hsplit
    exact congrArg _ (ext (hleft.trans hsplit))
  | cons e right ih =>
    intro n hsplit hleft
    have hordered := m.ordered
    rw [← hsplit, List.pairwise_append] at hordered
    have hbelow : ∀ a ∈ n.entries, a.1 < e.1 := fun a ha =>
      hordered.2.2 a (hleft ▸ ha) e (.head _)
    have hnew : n.contains e.1 = false := by
      rw [← Bool.not_eq_true, contains_iff]
      rintro ⟨a, ha, hae⟩
      exact (hbelow a ha).ne hae
    have hmem : e ∈ m.entries := hsplit ▸ List.mem_append_right _ (.head _)
    rw [List.map_cons, List.foldlM_cons, h e hmem n hnew]
    refine ih (left ++ [e]) _ (by rw [← hsplit, List.append_assoc]; rfl) ?_
    change SortedMap.emplace e.1 e.2 n.entries = _
    rw [← hleft]
    exact emplace_last e.1 e.2 hbelow

end Map

end Parp.SortedMap
