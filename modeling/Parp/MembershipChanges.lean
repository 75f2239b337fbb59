import Mathlib.Data.Finset.Basic
import Mathlib.Data.Finset.Lattice.Lemmas

set_option autoImplicit false

/-!
# Changes of membership

A set that changes by one element at a time, and the record of its changes.
-/
namespace Parp.MembershipChanges

variable {κ : Type} [DecidableEq κ]

structure Toggle (κ : Type) where
  key : κ
  added : Bool

def Toggle.apply (e : Toggle κ) (s : Finset κ) : Finset κ :=
  if e.added then insert e.key s else s.erase e.key

/-- The changes lead from one set to the other, and none of them changes nothing. -/
inductive Chain : Finset κ → List (Toggle κ) → Finset κ → Prop
  | nil (s : Finset κ) : Chain s [] s
  | cons {s t : Finset κ} {e : Toggle κ} {events : List (Toggle κ)} :
      e.added = decide (e.key ∉ s) → Chain (e.apply s) events t → Chain s (e :: events) t

def Alternates : Bool → List Bool → Prop
  | _, [] => True
  | next, flag :: flags => flag = next ∧ Alternates (!next) flags

variable {s t u : Finset κ} {events later : List (Toggle κ)}

theorem Chain.append (h : Chain s events t) (hlater : Chain t later u) :
    Chain s (events ++ later) u := by
  induction h with
  | nil s => exact hlater
  | cons hflag _ ih => exact .cons hflag (ih hlater)

theorem apply_mem_self (e : Toggle κ) (s : Finset κ) : e.key ∈ e.apply s ↔ e.added = true := by
  unfold Toggle.apply
  split_ifs with hadded
  · simp [hadded]
  · simp [hadded]

theorem apply_mem_other {e : Toggle κ} {k : κ} (hk : k ≠ e.key) (s : Finset κ) :
    k ∈ e.apply s ↔ k ∈ s := by
  unfold Toggle.apply
  split_ifs
  · simp [hk]
  · simp [hk]

theorem Chain.alternates (h : Chain s events t) (k : κ) :
    Alternates (decide (k ∉ s)) ((events.filter fun e => e.key = k).map Toggle.added) := by
  induction h with
  | nil s => trivial
  | @cons s t e events hflag _ ih =>
    by_cases hk : e.key = k
    · have hmem := apply_mem_self e s
      subst hk
      rw [List.filter_cons_of_pos (by simp)]
      refine ⟨hflag, ?_⟩
      have hnext : (!decide (e.key ∉ s)) = decide (e.key ∉ e.apply s) := by
        rw [← hflag]
        cases hadded : e.added <;> simp [hmem, hadded]
      rw [hnext]
      exact ih
    · have hsame : decide (k ∉ s) = decide (k ∉ e.apply s) := by
        simp [apply_mem_other (Ne.symm hk)]
      rw [List.filter_cons_of_neg (by simpa using hk), hsame]
      exact ih

theorem Chain.mem_iff (h : Chain s events t) {k : κ} (hk : ∀ e ∈ events, e.key ≠ k) :
    k ∈ s ↔ k ∈ t := by
  induction h with
  | nil s => rfl
  | @cons s t e events _ _ ih =>
    rw [← ih fun e he => hk e (.tail _ he), apply_mem_other (Ne.symm (hk e (.head _)))]

theorem Chain.erase (h : Chain s events t) {k : κ} (hk : ∀ e ∈ events, e.key ≠ k) :
    Chain (s.erase k) events (t.erase k) := by
  induction h with
  | nil s => exact .nil _
  | @cons s t e events hflag _ ih =>
    have hne : e.key ≠ k := hk e (.head _)
    have hsame : e.apply (s.erase k) = (e.apply s).erase k := by
      unfold Toggle.apply
      split_ifs
      · exact (Finset.erase_insert_of_ne hne).symm
      · exact Finset.erase_right_comm
    refine .cons ?_ ?_
    · rw [hflag]
      simp [hne]
    · rw [hsame]
      exact ih fun e he => hk e (.tail _ he)

theorem chain_added {keys : List κ} (hnodup : keys.Nodup) (hnew : ∀ k ∈ keys, k ∉ s) :
    Chain s (keys.map fun k => ⟨k, true⟩) (s ∪ keys.toFinset) := by
  induction keys generalizing s with
  | nil =>
    rw [List.toFinset_nil, Finset.union_empty]
    exact .nil s
  | cons k keys ih =>
    have hunion : s ∪ (k :: keys).toFinset = insert k s ∪ keys.toFinset := by
      rw [List.toFinset_cons, Finset.union_insert, Finset.insert_union]
    rw [hunion]
    refine .cons (by simp [hnew k (.head _)]) (ih (List.nodup_cons.1 hnodup).2 ?_)
    intro k' hk'
    have hne : k' ≠ k := fun hsame => (List.nodup_cons.1 hnodup).1 (hsame ▸ hk')
    exact fun hmem => hnew k' (.tail _ hk') ((Finset.mem_insert.1 hmem).resolve_left hne)

theorem chain_removed {keys : List κ} (hnodup : keys.Nodup) (hold : ∀ k ∈ keys, k ∈ s) :
    Chain s (keys.map fun k => ⟨k, false⟩) (s \ keys.toFinset) := by
  induction keys generalizing s with
  | nil =>
    rw [List.toFinset_nil, Finset.sdiff_empty]
    exact .nil s
  | cons k keys ih =>
    have hdiff : s \ (k :: keys).toFinset = s.erase k \ keys.toFinset := by
      rw [List.toFinset_cons, Finset.sdiff_insert, Finset.erase_sdiff_comm]
    rw [hdiff]
    refine .cons (by simp [hold k (.head _)]) (ih (List.nodup_cons.1 hnodup).2 ?_)
    intro k' hk'
    have hne : k' ≠ k := fun hsame => (List.nodup_cons.1 hnodup).1 (hsame ▸ hk')
    exact Finset.mem_erase.2 ⟨hne, hold k' (.tail _ hk')⟩

end Parp.MembershipChanges
