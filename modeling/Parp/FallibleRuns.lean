import Mathlib

set_option autoImplicit false

/-!
# Runs that may raise

Computations over a state that is kept when they raise.
-/
namespace Parp.FallibleRuns

open Std.Do

section

variable {σ ε α : Type} {P : σ → Prop} {Q : α → σ → Prop} {E : ε → σ → Prop}
  {m : ExceptT ε (StateM σ) α} {s s' : σ}

theorem run_ok (h : ⦃fun s => ⌜P s⌝⦄ m ⦃post⟨fun x s => ⌜Q x s⌝, fun e s => ⌜E e s⌝⟩⦄) (hs : P s)
    {x : α} (hrun : m.run.run s = (.ok x, s')) : Q x s' := by
  have hwp := h s hs
  simp only [WP.wp, PredTrans.apply_pushExcept, PredTrans.apply_pushArg] at hwp
  rw [show (m.run.run s).run = (.ok x, s') from hrun] at hwp
  exact hwp

theorem run_error (h : ⦃fun s => ⌜P s⌝⦄ m ⦃post⟨fun x s => ⌜Q x s⌝, fun e s => ⌜E e s⌝⟩⦄)
    (hs : P s) {e : ε} (hrun : m.run.run s = (.error e, s')) : E e s' := by
  have hwp := h s hs
  simp only [WP.wp, PredTrans.apply_pushExcept, PredTrans.apply_pushArg] at hwp
  rw [show (m.run.run s).run = (.error e, s') from hrun] at hwp
  exact hwp

theorem run_keeps {I : σ → Prop}
    (h : ⦃fun s => ⌜P s⌝⦄ m ⦃post⟨fun _ s => ⌜I s⌝, fun _ s => ⌜I s⌝⟩⦄) (hs : P s) :
    I (m.run.run s).2 := by
  cases hrun : m.run.run s with
  | mk r s' =>
    cases r with
    | ok x => exact run_ok h hs hrun
    | error e => exact run_error h hs hrun

theorem run_map {β : Type} (f : α → β) (m : ExceptT ε (StateM σ) α) (s : σ) :
    (f <$> m).run.run s = ((m.run.run s).1.map f, (m.run.run s).2) := by
  rw [ExceptT.run_map]
  rfl

end

end Parp.FallibleRuns
