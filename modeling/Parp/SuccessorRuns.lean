import Mathlib.Data.List.Perm.Subperm
import Mathlib.Data.List.Chain
import Mathlib.Data.List.Nodup

set_option autoImplicit false

/-!
# Runs of successors

A list is cut into runs in which every element is the successor of the one before it.
-/
namespace Parp.SuccessorRuns

open List

variable {α : Type} (next : α → α)

structure Run (α : Type) where
  start : α
  count : ℕ

namespace Run

def stop (r : Run α) : α := next^[r.count] r.start

def elements (r : Run α) : List α := (List.range r.count).map fun i => next^[i] r.start

theorem elements_one (x : α) : elements next ⟨x, 1⟩ = [x] := rfl

theorem elements_grow (r : Run α) :
    elements next ⟨r.start, r.count + 1⟩ = elements next r ++ [r.stop next] := by
  simp [elements, stop, range_succ]

theorem mem_elements {r : Run α} {x : α} :
    x ∈ r.elements next ↔ ∃ i < r.count, next^[i] r.start = x := by
  unfold elements
  rw [mem_map]
  simp only [mem_range]

theorem start_mem {r : Run α} (h : 0 < r.count) : r.start ∈ r.elements next :=
  (mem_elements next).2 ⟨0, h, rfl⟩

end Run

section

variable [DecidableEq α]

def push (runs : List (Run α)) (x : α) : List (Run α) :=
  match runs.getLast? with
  | none => [⟨x, 1⟩]
  | some last =>
    if last.stop next = x then runs.dropLast ++ [⟨last.start, last.count + 1⟩]
    else runs ++ [⟨x, 1⟩]

def runsOf (xs : List α) : List (Run α) := xs.foldl (push next) []

theorem push_nil (x : α) : push next [] x = [⟨x, 1⟩] := rfl

theorem push_concat (runs : List (Run α)) (last : Run α) (x : α) :
    push next (runs ++ [last]) x =
      if last.stop next = x then runs ++ [⟨last.start, last.count + 1⟩]
      else runs ++ [last] ++ [⟨x, 1⟩] := by
  unfold push
  rw [getLast?_concat, dropLast_concat]

/-- What the cutting keeps: nothing is lost, no run is empty, and no run continues the one before. -/
structure Cuts (xs : List α) (runs : List (Run α)) : Prop where
  lossless : runs.flatMap (Run.elements next) = xs
  positive : ∀ r ∈ runs, 0 < r.count
  broken : runs.IsChain fun a b => a.stop next ≠ b.start

theorem push_cuts {xs : List α} {runs : List (Run α)} (h : Cuts next xs runs) (x : α) :
    Cuts next (xs ++ [x]) (push next runs x) := by
  obtain ⟨hlossless, hpositive, hbroken⟩ := h
  rcases runs.eq_nil_or_concat' with rfl | ⟨runs, last, rfl⟩
  · rw [push_nil]
    subst hlossless
    exact ⟨rfl, fun r hr => by rw [mem_singleton.1 hr]; exact Nat.one_pos,
      isChain_singleton _⟩
  · have hfront : ∀ r ∈ runs, 0 < r.count := fun r hr => hpositive r (mem_append_left _ hr)
    rw [flatMap_append, flatMap_singleton] at hlossless
    rw [push_concat]
    split_ifs with hcontinues
    · refine ⟨?_, fun r hr => ?_, ?_⟩
      · rw [flatMap_append, flatMap_singleton, Run.elements_grow, hcontinues,
          ← append_assoc, hlossless]
      · rcases mem_append.1 hr with hr | hr
        · exact hfront r hr
        · rw [mem_singleton.1 hr]
          exact Nat.succ_pos _
      · -- the start of the last run is the same
        rw [isChain_append] at hbroken ⊢
        refine ⟨hbroken.1, isChain_singleton _, fun a ha b hb => ?_⟩
        obtain rfl := Option.mem_some_iff.1 hb
        exact hbroken.2.2 a ha last (by simp)
    · refine ⟨?_, fun r hr => ?_, ?_⟩
      · rw [flatMap_append, flatMap_append, flatMap_singleton, flatMap_singleton,
          hlossless, Run.elements_one]
      · rcases mem_append.1 hr with hr | hr
        · exact hpositive r hr
        · rw [mem_singleton.1 hr]
          exact Nat.one_pos
      · rw [isChain_append]
        refine ⟨hbroken, isChain_singleton _, fun a ha b hb => ?_⟩
        rw [getLast?_concat] at ha
        obtain rfl := Option.mem_some_iff.1 ha
        obtain rfl := Option.mem_some_iff.1 hb
        exact hcontinues

theorem runsOf_cuts (xs : List α) : Cuts next xs (runsOf next xs) := by
  induction xs using List.reverseRecOn with
  | nil => exact ⟨rfl, nofun, isChain_nil⟩
  | append_singleton xs x ih =>
    unfold runsOf
    rw [foldl_append]
    exact push_cuts next ih x

end

section

variable {next} {xs : List α} {runs : List (Run α)}

def Adjacent (next : α → α) (xs : List α) : Prop :=
  ∀ x ∈ xs, next x ∈ xs → ∃ front back, xs = front ++ x :: next x :: back

theorem Cuts.start_fresh (h : Cuts next xs runs) (hnodup : xs.Nodup) (hadjacent : Adjacent next xs)
    {r : Run α} (hr : r ∈ runs) {x : α} (hx : x ∈ xs) : next x ≠ r.start := by
  intro hstart
  obtain ⟨hlossless, hpositive, hbroken⟩ := h
  obtain ⟨before, after, rfl⟩ := append_of_mem hr
  have hmem : r.start ∈ xs := by
    rw [← hlossless]
    exact mem_flatMap.2 ⟨r, hr, Run.start_mem next (hpositive r hr)⟩
  obtain ⟨front, back, hxs⟩ := hadjacent x hx (hstart ▸ hmem)
  obtain ⟨tail, htail⟩ : ∃ tail, r.elements next = r.start :: tail := by
    obtain ⟨n, hn⟩ : ∃ n, r.count = n + 1 := ⟨r.count - 1, by have := hpositive r hr; omega⟩
    exact ⟨_, by rw [Run.elements, hn, range_succ_eq_map]; rfl⟩
  -- what stands before the start of the run ends with `x`
  have hbefore : before.flatMap (Run.elements next) = front ++ [x] := by
    rw [flatMap_append, flatMap_cons, htail, cons_append, hxs, hstart,
      append_cons front] at hlossless
    rw [hxs, hstart, append_cons front, ← hlossless] at hnodup
    obtain ⟨-, hrest, hapart⟩ := nodup_append.1 hnodup
    exact ((append_cons_inj_of_notMem (fun hin => hapart _ hin _ (.head _) rfl)
      (nodup_cons.1 hrest).1).1 hlossless).1
  rcases before.eq_nil_or_concat' with rfl | ⟨before, previous, rfl⟩
  · exact absurd hbefore (by simp)
  · have hpos := hpositive previous (by simp)
    obtain ⟨n, hn⟩ : ∃ n, previous.count = n + 1 := ⟨previous.count - 1, by omega⟩
    have hlast : next^[n] previous.start = x := by
      have helements : previous.elements next =
          Run.elements next ⟨previous.start, n⟩ ++ [next^[n] previous.start] := by
        have hgrow := Run.elements_grow next ⟨previous.start, n⟩
        rw [← hn] at hgrow
        exact hgrow
      rw [flatMap_append, flatMap_singleton, helements, ← append_assoc] at hbefore
      exact singleton_inj.1 (append_inj_right' hbefore rfl)
    have hstop : previous.stop next = r.start := by
      unfold Run.stop
      rw [hn, Function.iterate_succ_apply', hlast, hstart]
    have hpair := isChain_append.1 hbroken
    exact hpair.2.2 previous (by simp) r (by simp) hstop

theorem Cuts.least (h : Cuts next xs runs) (hnodup : xs.Nodup) (hadjacent : Adjacent next xs)
    {others : List (Run α)} (hsame : (others.flatMap (Run.elements next)).Perm xs) :
    runs.length ≤ others.length := by
  have hstarts : (runs.map Run.start).Nodup := by
    have hall : (runs.flatMap (Run.elements next)).Nodup := h.lossless ▸ hnodup
    obtain ⟨-, hdisjoint⟩ := nodup_flatMap.1 hall
    rw [nodup_iff_pairwise_ne, pairwise_map]
    refine (List.Pairwise.and_mem.1 hdisjoint).imp ?_
    rintro a b ⟨ha, hb, hab⟩ heq
    exact hab (Run.start_mem next (h.positive a ha)) (heq ▸ Run.start_mem next (h.positive b hb))
  have hsubset : runs.map Run.start ⊆ others.map Run.start := by
    intro s hs
    obtain ⟨r, hr, rfl⟩ := mem_map.1 hs
    have hmem : r.start ∈ xs := by
      rw [← h.lossless]
      exact mem_flatMap.2 ⟨r, hr, Run.start_mem next (h.positive r hr)⟩
    obtain ⟨other, hother, helement⟩ := mem_flatMap.1 (hsame.mem_iff.2 hmem)
    obtain ⟨i, hi, hiterate⟩ := (Run.mem_elements next).1 helement
    cases i with
    | zero => exact mem_map.2 ⟨other, hother, hiterate⟩
    | succ i =>
      -- otherwise the start would follow an element
      rw [Function.iterate_succ_apply'] at hiterate
      refine absurd hiterate (h.start_fresh hnodup hadjacent hr (hsame.mem_iff.1 ?_))
      exact mem_flatMap.2 ⟨other, hother, (Run.mem_elements next).2 ⟨i, by omega, rfl⟩⟩
  have hlength := (subperm_of_subset hstarts hsubset).length_le
  rwa [length_map, length_map] at hlength

end

end Parp.SuccessorRuns
