import Mathlib.Data.List.Basic
import Mathlib.Order.RelClasses

set_option autoImplicit false

namespace Parp.TransitionRuns

variable {σ ι ο : Type}

/-- State reached from `s` after the inputs are taken one after the other. -/
def after (step : σ → ι → ο × σ) (s : σ) (inputs : List ι) : σ :=
  inputs.foldl (fun s i => (step s i).2) s

def outputs (step : σ → ι → ο × σ) : σ → List ι → List ο
  | _, [] => []
  | s, i :: inputs => (step s i).1 :: outputs step (step s i).2 inputs

/-- Every step of the run meets `P` at the state just before it. -/
def Along (step : σ → ι → ο × σ) (P : σ → ι → Prop) : σ → List ι → Prop
  | _, [] => True
  | s, i :: inputs => P s i ∧ Along step P (step s i).2 inputs

instance decidableAlong (step : σ → ι → ο × σ) (P : σ → ι → Prop) [∀ s i, Decidable (P s i)] :
    ∀ s inputs, Decidable (Along step P s inputs)
  | _, [] => .isTrue trivial
  | s, i :: inputs =>
    have := decidableAlong step P (step s i).2 inputs
    inferInstanceAs (Decidable (P s i ∧ Along step P (step s i).2 inputs))

structure Turn (σ ι ο : Type) where
  before : σ
  input : ι
  output : ο

def turns (step : σ → ι → ο × σ) : σ → List ι → List (Turn σ ι ο)
  | _, [] => []
  | s, i :: inputs => ⟨s, i, (step s i).1⟩ :: turns step (step s i).2 inputs

section

variable (step : σ → ι → ο × σ)

@[simp] theorem after_nil (s : σ) : after step s [] = s := rfl

@[simp] theorem after_cons (s : σ) (i : ι) (inputs : List ι) :
    after step s (i :: inputs) = after step (step s i).2 inputs := rfl

theorem after_append (s : σ) (left right : List ι) :
    after step s (left ++ right) = after step (after step s left) right := by
  simp [after, List.foldl_append]

theorem after_concat (s : σ) (inputs : List ι) (i : ι) :
    after step s (inputs ++ [i]) = (step (after step s inputs) i).2 := by
  rw [after_append]
  rfl

theorem outputs_concat (s : σ) (inputs : List ι) (i : ι) :
    outputs step s (inputs ++ [i]) = outputs step s inputs ++ [(step (after step s inputs) i).1] := by
  induction inputs generalizing s with
  | nil => rfl
  | cons j inputs ih => simp [outputs, ih]

theorem outputs_append (s : σ) (left right : List ι) :
    outputs step s (left ++ right) = outputs step s left ++ outputs step (after step s left) right := by
  induction left generalizing s with
  | nil => rfl
  | cons i left ih => simp [outputs, ih]

theorem turns_concat (s : σ) (inputs : List ι) (i : ι) :
    turns step s (inputs ++ [i]) =
      turns step s inputs ++
        [⟨after step s inputs, i, (step (after step s inputs) i).1⟩] := by
  induction inputs generalizing s with
  | nil => rfl
  | cons j inputs ih => simp [turns, ih]

theorem turns_split {s : σ} {inputs : List ι} {left : List (Turn σ ι ο)} {t : Turn σ ι ο}
    {right : List (Turn σ ι ο)} (h : turns step s inputs = left ++ t :: right) :
    ∃ before i rest, inputs = before ++ i :: rest ∧ left = turns step s before ∧
      t = ⟨after step s before, i, (step (after step s before) i).1⟩ := by
  induction inputs generalizing s left with
  | nil => cases left <;> cases h
  | cons j inputs ih =>
    cases left with
    | nil =>
      obtain ⟨rfl, -⟩ := List.cons.inj h
      exact ⟨[], j, inputs, rfl, rfl, rfl⟩
    | cons u left =>
      obtain ⟨rfl, htail⟩ := List.cons.inj h
      obtain ⟨before, i, rest, rfl, rfl, ht⟩ := ih htail
      exact ⟨j :: before, i, rest, rfl, rfl, ht⟩

theorem after_last {β : Type} (get : σ → Option β) (mark : ι → Option β)
    (h : ∀ s i, get (step s i).2 = (mark i).or (get s)) (s : σ) (inputs : List ι) :
    get (after step s inputs) = (inputs.filterMap mark).getLast?.or (get s) := by
  induction inputs generalizing s with
  | nil => rfl
  | cons i inputs ih =>
    rw [after_cons, ih, h]
    cases hmark : mark i with
    | none => rw [List.filterMap_cons_none hmark, Option.none_or]
    | some b =>
      rw [List.filterMap_cons_some hmark, List.getLast?_cons]
      cases (inputs.filterMap mark).getLast? <;> rfl

theorem along_append (P : σ → ι → Prop) (s : σ) (left right : List ι) :
    Along step P s (left ++ right) ↔ Along step P s left ∧ Along step P (after step s left) right := by
  induction left generalizing s with
  | nil => simp [Along]
  | cons i left ih =>
    change P s i ∧ Along step P _ (left ++ right) ↔ _
    rw [ih]
    exact and_assoc.symm

theorem along_mono {P Q : σ → ι → Prop} (h : ∀ s i, P s i → Q s i) (s : σ) (inputs : List ι)
    (hP : Along step P s inputs) : Along step Q s inputs := by
  induction inputs generalizing s with
  | nil => trivial
  | cons i inputs ih => exact ⟨h s i hP.1, ih _ hP.2⟩

theorem along_and {P Q : σ → ι → Prop} (s : σ) (inputs : List ι) (hP : Along step P s inputs)
    (hQ : Along step Q s inputs) : Along step (fun s i => P s i ∧ Q s i) s inputs := by
  induction inputs generalizing s with
  | nil => trivial
  | cons i inputs ih => exact ⟨⟨hP.1, hQ.1⟩, ih _ hP.2 hQ.2⟩

theorem along_of_forall {P : ι → Prop} (s : σ) {inputs : List ι} (h : ∀ i ∈ inputs, P i) :
    Along step (fun _ i => P i) s inputs := by
  induction inputs generalizing s with
  | nil => trivial
  | cons i inputs ih =>
    exact ⟨h i List.mem_cons_self, ih _ fun j hj => h j (List.mem_cons_of_mem _ hj)⟩

theorem along_iff_split (P : σ → ι → Prop) (s : σ) (inputs : List ι) :
    Along step P s inputs ↔
      ∀ left i right, inputs = left ++ i :: right → P (after step s left) i := by
  induction inputs generalizing s with
  | nil => simp [Along]
  | cons j inputs ih =>
    constructor
    · rintro ⟨hj, hrest⟩ left i right hsplit
      cases left with
      | nil =>
        obtain ⟨rfl, -⟩ := List.cons.inj hsplit
        exact hj
      | cons k left =>
        obtain ⟨rfl, htail⟩ := List.cons.inj hsplit
        exact (ih _).1 hrest left i right htail
    · intro h
      refine ⟨h [] j inputs rfl, (ih _).2 ?_⟩
      intro left i right hsplit
      exact h (j :: left) i right (by rw [hsplit, List.cons_append])

end

section

variable {step : σ → ι → ο × σ}

theorem after_invariant {I : σ → Prop} (hstep : ∀ s i, I s → I (step s i).2)
    {s : σ} (hs : I s) (inputs : List ι) : I (after step s inputs) := by
  induction inputs generalizing s with
  | nil => exact hs
  | cons i inputs ih => exact ih (hstep s i hs)

theorem after_invariant_along {I : σ → Prop} {P : σ → ι → Prop}
    (hstep : ∀ s i, I s → P s i → I (step s i).2) {s : σ} (hs : I s) (inputs : List ι)
    (hP : Along step P s inputs) : I (after step s inputs) := by
  induction inputs generalizing s with
  | nil => exact hs
  | cons i inputs ih => exact ih (hstep s i hs hP.1) hP.2

theorem along_of_invariant {I : σ → Prop} {P : σ → ι → Prop}
    (hstep : ∀ s i, I s → I (step s i).2) (hP : ∀ s i, I s → P s i) {s : σ} (hs : I s)
    (inputs : List ι) : Along step P s inputs := by
  induction inputs generalizing s with
  | nil => trivial
  | cons i inputs ih => exact ⟨hP s i hs, ih (hstep s i hs)⟩

theorem le_after {β : Type} [Preorder β] (measure : σ → β)
    (hstep : ∀ s i, measure s ≤ measure (step s i).2) (s : σ) (inputs : List ι) :
    measure s ≤ measure (after step s inputs) := by
  induction inputs generalizing s with
  | nil => exact le_rfl
  | cons i inputs ih => exact (hstep s i).trans (ih _)

end

end Parp.TransitionRuns

/-!
# Runs that end

A machine whose steps descend in a well-founded order until it is done is done after finitely many
of any inputs.
-/
namespace Parp.TransitionRuns

variable {σ ι ο α : Type}

/-- The first `n` inputs of an endless supply. -/
def firstInputs (supply : ℕ → ι) (n : ℕ) : List ι := (List.range n).map supply

theorem firstInputs_succ (supply : ℕ → ι) (n : ℕ) :
    firstInputs supply (n + 1) = supply 0 :: firstInputs (fun k => supply (k + 1)) n := by
  unfold firstInputs
  rw [List.range_succ_eq_map, List.map_cons, List.map_map]
  rfl

theorem exists_done {step : σ → ι → ο × σ} {I : σ → Prop} {r : α → α → Prop} (Done : σ → Prop)
    (hwf : WellFounded r) (rank : σ → α) (hkeep : ∀ s i, I s → I (step s i).2)
    (hdescend : ∀ s i, I s → ¬ Done s → Done (step s i).2 ∨ r (rank (step s i).2) (rank s))
    {s : σ} (hs : I s) (supply : ℕ → ι) : ∃ n, Done (after step s (firstInputs supply n)) := by
  induction hrank : rank s using hwf.induction generalizing s supply with
  | _ a ih =>
    by_cases hdone : Done s
    · exact ⟨0, hdone⟩
    rcases hdescend s (supply 0) hs hdone with hnext | hless
    · refine ⟨1, ?_⟩
      rw [firstInputs_succ]
      exact hnext
    · rw [hrank] at hless
      obtain ⟨n, hn⟩ := ih _ hless (hkeep s (supply 0) hs) (fun k => supply (k + 1)) rfl
      refine ⟨n + 1, ?_⟩
      rw [firstInputs_succ]
      exact hn

end Parp.TransitionRuns
