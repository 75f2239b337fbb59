import Mathlib.Data.List.Basic

set_option autoImplicit false

/-!
# Keyed machines

One store that holds a machine for each key. A step takes the input of one key and may only move the
machine of that key.
-/
namespace Parp.KeyedMachines

variable {σ ι κ τ : Type*}

section

variable [DecidableEq κ]

def own (key : ι → κ) (k : κ) (inputs : List ι) : List ι := inputs.filter fun i => key i = k

variable (key : ι → κ) (k : κ)

theorem own_append (left right : List ι) :
    own key k (left ++ right) = own key k left ++ own key k right := List.filter_append ..

theorem own_cons_self {i : ι} (h : key i = k) (inputs : List ι) :
    own key k (i :: inputs) = i :: own key k inputs := List.filter_cons_of_pos (by simpa using h)

theorem own_cons_other {i : ι} (h : key i ≠ k) (inputs : List ι) :
    own key k (i :: inputs) = own key k inputs := List.filter_cons_of_neg (by simpa using h)

theorem own_own (inputs : List ι) : own key k (own key k inputs) = own key k inputs := by
  simp [own, List.filter_filter]

theorem key_of_mem_own {i : ι} {inputs : List ι} (h : i ∈ own key k inputs) : key i = k := by
  simpa using (List.mem_filter.1 h).2

end

/-- A step moves the machine of its key and no other, in the states that `I` allows. -/
structure Separate (I : σ → Prop) (step : σ → ι → σ) (key : ι → κ) (view : κ → σ → τ)
    (machine : τ → ι → τ) : Prop where
  keeps : ∀ s i, I s → I (step s i)
  moves : ∀ s i, I s → view (key i) (step s i) = machine (view (key i) s) i
  rests : ∀ s i k, I s → key i ≠ k → view k (step s i) = view k s

namespace Separate

variable {I : σ → Prop} {step : σ → ι → σ} {key : ι → κ} {view : κ → σ → τ}
  {machine : τ → ι → τ}

theorem run_keeps (h : Separate I step key view machine) {s : σ} (hs : I s) (inputs : List ι) :
    I (inputs.foldl step s) := by
  induction inputs generalizing s with
  | nil => exact hs
  | cons i inputs ih => exact ih (h.keeps s i hs)

variable [DecidableEq κ]

theorem run_view (h : Separate I step key view machine) {s : σ} (hs : I s) (k : κ)
    (inputs : List ι) :
    view k (inputs.foldl step s) = (own key k inputs).foldl machine (view k s) := by
  induction inputs generalizing s with
  | nil => rfl
  | cons i inputs ih =>
    rw [List.foldl_cons, ih (h.keeps s i hs)]
    by_cases hkey : key i = k
    · subst hkey
      rw [own_cons_self key _ rfl, List.foldl_cons, h.moves s i hs]
    · rw [own_cons_other key k hkey, h.rests s i k hs hkey]

theorem run_own (h : Separate I step key view machine) {s : σ} (hs : I s) (k : κ)
    (inputs : List ι) :
    view k (inputs.foldl step s) = view k ((own key k inputs).foldl step s) := by
  rw [h.run_view hs, h.run_view hs, own_own]

end Separate

end Parp.KeyedMachines
