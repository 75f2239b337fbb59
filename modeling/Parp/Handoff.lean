import Mathlib.Data.List.Basic

set_option autoImplicit false

/-!
# One-slot handoff

A slot takes a job when it is free, and is free again when the outcome of the job is collected.
-/
namespace Parp.Handoff

variable {J R : Type}

inductive Move (J R : Type) where
  | accept (job : J)
  | start (job : J)
  | finish (job : J)
  | store (job : J) (outcome : R)
  | collect (outcome : R)

inductive Slot (J R : Type) where
  | free
  | queued (job : J)
  | running (job : J)
  | finished (job : J)
  | stored (job : J) (outcome : R)

inductive Moves : Slot J R → Move J R → Slot J R → Prop where
  | accept (job : J) : Moves .free (.accept job) (.queued job)
  | start (job : J) : Moves (.queued job) (.start job) (.running job)
  | finish (job : J) : Moves (.running job) (.finish job) (.finished job)
  | store (job : J) (outcome : R) : Moves (.finished job) (.store job outcome) (.stored job outcome)
  | collect (job : J) (outcome : R) : Moves (.stored job outcome) (.collect outcome) .free

inductive Path (s : Slot J R) : List (Move J R) → Slot J R → Prop where
  | nil : Path s [] s
  | concat {ms : List (Move J R)} {t u : Slot J R} {m : Move J R} (h : Path s ms t)
      (hm : Moves t m u) : Path s (ms ++ [m]) u

theorem Path.append {s t u : Slot J R} {left right : List (Move J R)} (h : Path s left t)
    (h' : Path t right u) : Path s (left ++ right) u := by
  induction h' with
  | nil =>
    rw [List.append_nil]
    exact h
  | concat _ hm ih =>
    rw [← List.append_assoc]
    exact ih.concat hm

theorem Moves.path {s t : Slot J R} {m : Move J R} (h : Moves s m t) : Path s [m] t :=
  Path.nil.concat h

def accepted (ms : List (Move J R)) : List J :=
  ms.filterMap fun m => match m with | .accept job => some job | _ => none

def started (ms : List (Move J R)) : List J :=
  ms.filterMap fun m => match m with | .start job => some job | _ => none

def finished (ms : List (Move J R)) : List J :=
  ms.filterMap fun m => match m with | .finish job => some job | _ => none

def stored (ms : List (Move J R)) : List (J × R) :=
  ms.filterMap fun m => match m with | .store job outcome => some (job, outcome) | _ => none

def collected (ms : List (Move J R)) : List R :=
  ms.filterMap fun m => match m with | .collect outcome => some outcome | _ => none

section

variable (left right : List (Move J R))

theorem accepted_append : accepted (left ++ right) = accepted left ++ accepted right :=
  List.filterMap_append

theorem started_append : started (left ++ right) = started left ++ started right :=
  List.filterMap_append

theorem finished_append : finished (left ++ right) = finished left ++ finished right :=
  List.filterMap_append

theorem stored_append : stored (left ++ right) = stored left ++ stored right :=
  List.filterMap_append

theorem collected_append : collected (left ++ right) = collected left ++ collected right :=
  List.filterMap_append

end

namespace Slot

def waiting : Slot J R → List J
  | .queued job => [job]
  | _ => []

def current : Slot J R → List J
  | .running job => [job]
  | _ => []

def leaving : Slot J R → List J
  | .finished job => [job]
  | _ => []

def kept : Slot J R → List R
  | .stored _ outcome => [outcome]
  | _ => []

def isFree : Slot J R → Bool
  | .free => true
  | _ => false

end Slot

structure Custody (ms : List (Move J R)) (s : Slot J R) : Prop where
  accepted : accepted ms = started ms ++ s.waiting
  started : started ms = finished ms ++ s.current
  finished : finished ms = (stored ms).map Prod.fst ++ s.leaving
  stored : (stored ms).map Prod.snd = collected ms ++ s.kept
  unpolled : (Handoff.accepted ms).length = (collected ms).length + if s.isFree then 0 else 1

theorem path_custody {ms : List (Move J R)} {s : Slot J R} (h : Path .free ms s) :
    Custody ms s := by
  induction h with
  | nil => exact ⟨rfl, rfl, rfl, rfl, rfl⟩
  | @concat ms t u m _ hm ih =>
    obtain ⟨haccepted, hstarted, hfinished, hstored, hunpolled⟩ := ih
    cases hm <;>
      refine ⟨?_, ?_, ?_, ?_, ?_⟩ <;>
      simp only [accepted_append, started_append, finished_append, stored_append,
        collected_append, List.map_append, List.length_append, haccepted, hstarted, hfinished,
        hstored] at hunpolled ⊢ <;>
      simp [Handoff.accepted, Handoff.started, Handoff.finished, Handoff.stored, collected,
        Slot.waiting, Slot.current, Slot.leaving, Slot.kept, Slot.isFree] at hunpolled ⊢ <;>
      omega

end Parp.Handoff
