import Mathlib.Algebra.BigOperators.Group.List.Basic
import Mathlib.Data.List.Range
import Mathlib.Algebra.GroupWithZero.Nat

set_option autoImplicit false

/-!
# Sequence numbers over a lossy channel that keeps order

A sender numbers its messages from 1 and queues some of them. A receiver that has a number takes
higher numbers only, and reports how many it missed; without one it starts from what comes first.
-/
namespace Parp.SequenceNumbers

open List

structure Receiver where
  last : ℕ := 0
  accepted : List ℕ := []
  gaps : List ℕ := []

def Receiver.receive (r : Receiver) (n : ℕ) : Receiver :=
  if n ≤ r.last then r
  else
    { last := n
      accepted := r.accepted ++ [n]
      gaps := if r.last ≠ 0 ∧ r.last + 1 < n then r.gaps ++ [n - r.last - 1] else r.gaps }

/-- What became of the numbers up to `next`. -/
structure Ledger (next : ℕ) (arrived lost pending : List ℕ) (r : Receiver) : Prop where
  numbers : (arrived ++ lost ++ pending).Perm (List.range' 1 next)
  sorted : pending.Pairwise (· < ·)
  accepted : r.accepted = arrived
  increasing : arrived.Pairwise (· < ·)
  below : ∀ n ∈ arrived, n ≤ r.last
  last : r.last = 0 ∨ r.last ∈ arrived
  ahead : ∀ n ∈ pending, r.last < n
  counted : r.gaps.sum + arrived.length = r.last
  positive : ∀ g ∈ r.gaps, 0 < g

variable {next : ℕ} {arrived lost pending : List ℕ} {r : Receiver}

theorem ledger_init : Ledger 0 [] [] [] {} :=
  ⟨.nil, .nil, rfl, .nil, nofun, .inl rfl, nofun, rfl, nofun⟩

theorem Ledger.mem_iff (h : Ledger next arrived lost pending r) (n : ℕ) :
    n ∈ arrived ∨ n ∈ lost ∨ n ∈ pending ↔ 1 ≤ n ∧ n ≤ next := by
  have hmem := h.numbers.mem_iff (a := n)
  rw [mem_append, mem_append, or_assoc, mem_range'_1] at hmem
  rw [hmem]
  omega

theorem Ledger.queue (h : Ledger next arrived lost pending r) :
    Ledger (next + 1) arrived lost (pending ++ [next + 1]) r := by
  have hlast : r.last ≤ next := by
    rcases h.last with hzero | hmem
    · omega
    · exact ((h.mem_iff r.last).1 (.inl hmem)).2
  refine { h with numbers := ?_, sorted := ?_, ahead := ?_ }
  · rw [← append_assoc, range'_1_concat, Nat.add_comm 1 next]
    exact h.numbers.append_right _
  · refine pairwise_append.2 ⟨h.sorted, pairwise_singleton _ _, ?_⟩
    intro n hn m hm
    obtain rfl := mem_singleton.1 hm
    have hle := ((h.mem_iff n).1 (.inr (.inr hn))).2
    omega
  · intro n hn
    rcases mem_append.1 hn with hold | hnew
    · exact h.ahead n hold
    · obtain rfl := mem_singleton.1 hnew
      omega

theorem Ledger.lose {left gone right : List ℕ}
    (h : Ledger next arrived lost (left ++ gone ++ right) r) :
    Ledger next arrived (lost ++ gone) (left ++ right) r := by
  have hsub : (left ++ right).Sublist (left ++ gone ++ right) :=
    (sublist_append_left left gone).append (.refl right)
  refine { h with numbers := ?_, sorted := h.sorted.sublist hsub, ahead := ?_ }
  · refine List.Perm.trans (perm_iff_count.2 fun n => ?_) h.numbers
    simp only [count_append]
    omega
  · intro n hn
    exact h.ahead n (hsub.subset hn)

theorem Ledger.started (h : Ledger next arrived lost pending r) (hlost : 1 ∉ lost)
    (hpending : 1 ∉ pending) : r.last ≠ 0 ∨ next = 0 := by
  rcases Nat.eq_zero_or_pos next with hzero | hpos
  · exact .inr hzero
  · rcases (h.mem_iff 1).2 ⟨Nat.le_refl 1, hpos⟩ with harrived | hmem
    · have hle := h.below 1 harrived
      exact .inl (by omega)
    · exact absurd hmem (not_or.2 ⟨hlost, hpending⟩)

theorem Ledger.receive {n : ℕ} (h : Ledger next arrived lost (n :: pending) r) (hlost : 1 ∉ lost) :
    Ledger next (arrived ++ [n]) lost pending (r.receive n) := by
  have hahead := h.ahead n (.head pending)
  obtain ⟨hhead, htail⟩ := pairwise_cons.1 h.sorted
  have hfirst : r.last = 0 → n = 1 := by
    intro hzero
    have hn := (h.mem_iff n).1 (.inr (.inr (.head pending)))
    rcases (h.mem_iff 1).2 ⟨Nat.le_refl 1, by omega⟩ with harrived | hgone | hqueued
    · have hle := h.below 1 harrived
      omega
    · exact absurd hgone hlost
    · rcases mem_cons.1 hqueued with heq | hmem
      · exact heq.symm
      · have hlt := hhead 1 hmem
        omega
  have hcounted := h.counted
  unfold Receiver.receive
  rw [if_neg (by omega)]
  constructor
  · refine List.Perm.trans (perm_iff_count.2 fun m => ?_) h.numbers
    simp only [count_append, count_cons, count_nil]
    omega
  · exact htail
  · rw [h.accepted]
  · refine pairwise_append.2 ⟨h.increasing, pairwise_singleton _ _, ?_⟩
    intro m hm k hk
    obtain rfl := mem_singleton.1 hk
    exact Nat.lt_of_le_of_lt (h.below m hm) hahead
  · intro m hm
    rcases mem_append.1 hm with hold | hnew
    · have hle := h.below m hold
      dsimp only
      omega
    · obtain rfl := mem_singleton.1 hnew
      exact Nat.le_refl m
  · exact .inr (mem_append_right _ (.head _))
  · exact hhead
  · rw [length_append, length_singleton]
    split_ifs with hgap
    · rw [sum_append, sum_singleton]
      dsimp only
      omega
    · dsimp only
      by_cases hzero : r.last = 0
      · have hone := hfirst hzero
        omega
      · omega
  · intro g hg
    dsimp only at hg
    split_ifs at hg with hgap
    · rcases mem_append.1 hg with hold | hnew
      · exact h.positive g hold
      · obtain rfl := mem_singleton.1 hnew
        omega
    · exact h.positive g hg

theorem Ledger.last_eq (h : Ledger next arrived lost pending r) :
    r.last = arrived.getLast?.getD 0 := by
  rcases eq_nil_or_concat' arrived with rfl | ⟨front, n, rfl⟩
  · exact h.last.resolve_right not_mem_nil
  · have hn : n ∈ front ++ [n] := mem_append_right _ (.head _)
    have hle := h.below n hn
    have hpos := ((h.mem_iff n).1 (.inl hn)).1
    rw [getLast?_concat, Option.getD_some]
    rcases mem_append.1 (h.last.resolve_left (by omega)) with hfront | hlast
    · have hlt := (pairwise_append.1 h.increasing).2.2 _ hfront n (.head _)
      omega
    · exact mem_singleton.1 hlast

theorem Ledger.missed (h : Ledger next arrived lost pending r) :
    r.gaps.sum = (lost.filter fun n => n < r.last).length := by
  have hfilter := (h.numbers.filter fun n => n ≤ r.last).length_eq
  have hnext : r.last ≤ next := by
    rcases h.last with hzero | hmem
    · omega
    · exact ((h.mem_iff r.last).1 (.inl hmem)).2
  have hrange : ((List.range' 1 next).filter fun n => n ≤ r.last).length = r.last := by
    obtain ⟨rest, rfl⟩ := Nat.exists_eq_add_of_le hnext
    rw [← range'_append_1, filter_append, length_append]
    have hleft : (List.range' 1 r.last).filter (fun n => n ≤ r.last) = List.range' 1 r.last := by
      rw [filter_eq_self]
      intro n hn
      have hle := mem_range'_1.1 hn
      exact decide_eq_true (by omega)
    have hright : (List.range' (1 + r.last) rest).filter (fun n => n ≤ r.last) = [] := by
      rw [filter_eq_nil_iff]
      intro n hn hle
      have hge := (mem_range'_1.1 hn).1
      have hbelow := of_decide_eq_true hle
      omega
    rw [hleft, hright, length_range']
    rfl
  have harrived : arrived.filter (fun n => n ≤ r.last) = arrived := by
    rw [filter_eq_self]
    exact fun n hn => decide_eq_true (h.below n hn)
  have hpending : pending.filter (fun n => n ≤ r.last) = [] := by
    rw [filter_eq_nil_iff]
    intro n hn hle
    have hgt := h.ahead n hn
    have hbelow := of_decide_eq_true hle
    omega
  have hlost : lost.filter (fun n => n ≤ r.last) = lost.filter fun n => n < r.last := by
    refine filter_congr fun n hn => ?_
    refine decide_eq_decide.2 ⟨fun hle => ?_, Nat.le_of_lt⟩
    -- The last number that was taken was not lost.
    refine Nat.lt_of_le_of_ne hle ?_
    rintro rfl
    rcases h.last with hzero | hmem
    · have hpos := ((h.mem_iff r.last).1 (.inr (.inl hn))).1
      omega
    · have hnodup := h.numbers.nodup_iff.2 nodup_range'
      exact (nodup_append.1 (nodup_append.1 hnodup).1).2.2 _ hmem _ hn rfl
  have hcounted := h.counted
  rw [filter_append, filter_append, length_append, length_append, harrived,
    hpending, hlost, hrange, length_nil] at hfilter
  omega

theorem Ledger.no_gaps (h : Ledger next arrived [] pending r) : r.gaps = [] := by
  have hsum : r.gaps.sum = 0 := h.missed
  rw [eq_nil_iff_forall_not_mem]
  intro g hg
  have hzero := List.sum_eq_zero_iff_forall_eq_nat.1 hsum g hg
  have hpos := h.positive g hg
  omega

end Parp.SequenceNumbers
