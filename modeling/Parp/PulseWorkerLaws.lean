import Mathlib.Data.List.Induction
import Parp.PulseWorker
import Parp.TransitionRuns

set_option autoImplicit false

namespace Parp.PulseWorker

open Memshift Handoff TransitionRuns

variable {A : Type} [DecidableEq A] {o : Options} {s s' : Worker A}

def Phase.ticket? : Phase A → Option (Ticket A)
  | .idle => none
  | .entered t => some t
  | .loopHead t _ => some t
  | .pacing t _ _ => some t
  | .lastCheck t _ _ => some t
  | .checked t _ _ => some t
  | .opening t _ _ => some t
  | .writing t _ _ _ => some t
  | .restoring t _ _ _ _ => some t
  | .measuring t _ _ => some t
  | .done t _ => some t

/-- What the pulses of a phase's job made of writing `max` back. -/
def Phase.restores : Phase A → List (Option RestoreOutcome)
  | .idle => []
  | .entered _ => []
  | .loopHead _ r => r.pulses.map PulseRow.restore
  | .pacing _ r _ => r.pulses.map PulseRow.restore
  | .lastCheck _ r _ => r.pulses.map PulseRow.restore
  | .checked _ r _ => r.pulses.map PulseRow.restore
  | .opening _ r _ => r.pulses.map PulseRow.restore
  | .writing _ r _ _ => r.pulses.map PulseRow.restore
  | .restoring _ r _ _ _ => r.pulses.map PulseRow.restore
  | .measuring _ r p => r.pulses.map PulseRow.restore ++ [p.restore]
  | .done _ r => r.pulses.map PulseRow.restore

def Phase.passed : Phase A → Option (Ticket A)
  | .checked t _ _ => some t
  | .opening t _ _ => some t
  | _ => none

def Phase.inFlight : Phase A → Option (Ticket A)
  | .writing t _ _ _ => some t
  | .restoring t _ _ _ _ => some t
  | _ => none

def Phase.isDone : Phase A → Bool
  | .done _ _ => true
  | _ => false

def Output.moves : Output A → List (Move (Ticket A) PulseResult)
  | .moved m => [m]
  | _ => []

def Output.start? : Output A → Option (Ticket A)
  | .started t => some t
  | _ => none

def lacking (t : Ticket A) (r : PulseResult) : ℕ := t.job.want.toNat - r.freed.toNat

inductive Turned (o : Options) (s : Worker A) (due : Bool) : Output A → Worker A → Prop
  | wait (h : s.phase = .idle ∧ s.pending = none ∨ due = false) : Turned o s due .nothing s
  | pick (t : Ticket A) (hphase : s.phase = .idle) (hpending : s.pending = some t) :
      Turned o s due (.moved (.start t))
        { s with pending := none, phase := .entered t, cancel := false, slowCancel := false }
  | begin (t : Ticket A) (r : PulseResult) (hphase : s.phase = .entered t) (hnew : r.pulses = []) :
      Turned o s due .nothing { s with phase := .loopHead t r }
  | pace (t : Ticket A) (r : PulseResult) (n : Bytes) (hphase : s.phase = .loopHead t r)
      (hwant : r.freed < t.job.want) (hflags : ¬ (s.cancel = true ∨ s.brake = true)) :
      Turned o s due .nothing { s with phase := .pacing t r n }
  | paced (t : Ticket A) (r : PulseResult) (n : Bytes) (hphase : s.phase = .pacing t r n) :
      Turned o s due .nothing { s with phase := .lastCheck t r n }
  | back (t : Ticket A) (r : PulseResult) (n : Bytes) (hphase : s.phase = .lastCheck t r n)
      (hflags : s.cancel = true ∨ s.brake = true) :
      Turned o s due .nothing { s with phase := .loopHead t r }
  | pass (t : Ticket A) (r : PulseResult) (n : Bytes) (hphase : s.phase = .lastCheck t r n)
      (hflags : ¬ (s.cancel = true ∨ s.brake = true)) :
      Turned o s due .nothing { s with phase := .checked t r n }
  | clear (t : Ticket A) (r : PulseResult) (n : Bytes) (hphase : s.phase = .checked t r n) :
      Turned o s due .nothing { s with phase := .opening t r n }
  | unopened (t : Ticket A) (r : PulseResult) (n : Bytes) (p : PulseRow)
      (hphase : s.phase = .opening t r n) (hrow : p.restore = none) :
      Turned o s due .nothing { s with phase := .measuring t r p }
  | start (t : Ticket A) (r : PulseResult) (n before target : Bytes) (nowNs : ℕ)
      (hphase : s.phase = .opening t r n) :
      Turned o s due (.started t) { s with
        phase := .writing t r n before
        pulsePath := some t.job.app
        pulseStart := nowNs
        high := Function.update s.high t.job.app (some (.low target)) }
  | wrote (t : Ticket A) (r : PulseResult) (n before : Bytes) (write : WriteOutcome)
      (hphase : s.phase = .writing t r n before) :
      Turned o s due .nothing
        { s with phase := .restoring t r n before write, pulseStart := 0 }
  | restore (t : Ticket A) (r : PulseResult) (n before : Bytes) (write : WriteOutcome)
      (p : PulseRow) (outcome : RestoreOutcome) (hphase : s.phase = .restoring t r n before write)
      (hrow : p.restore = some outcome) :
      Turned o s due .nothing { s with
        phase := .measuring t r p
        high :=
          if outcome = .written then Function.update s.high t.job.app (some .max) else s.high }
  | again (t : Ticket A) (r r' : PulseResult) (p : PulseRow) (hphase : s.phase = .measuring t r p)
      (hrestores : r'.pulses.map PulseRow.restore =
        r.pulses.map PulseRow.restore ++ [p.restore])
      (hfreed : lacking t r' = 0 ∨ lacking t r' < lacking t r) :
      Turned o s due .nothing { s with phase := .loopHead t r' }
  | finish (t : Ticket A) (r : PulseResult) (hticket : s.phase.ticket? = some t)
      (hrunning : s.phase.isDone = false) (hidle : s.phase.inFlight = none)
      (hrestores : r.pulses.map PulseRow.restore = s.phase.restores) :
      Turned o s due (.moved (.finish t)) { s with phase := .done t r }
  | store (t : Ticket A) (r : PulseResult) (hphase : s.phase = .done t r) :
      Turned o s due (.moved (.store t r))
        { s with phase := .idle, completed := some (t, r) }

section

omit [DecidableEq A]

theorem two_le_minPulseOf (o : Options) (j : PulseJob A) : 1 ≤ (minPulseOf o j / 2).toNat := by
  have hmin : MiB ≤ minPulseOf o j := by
    unfold minPulseOf
    split_ifs with h
    · exact o.minBatch_le
    · exact j.minPulse_le.resolve_left h
  have := UInt64.le_iff_toNat_le.1 hmin
  rw [UInt64.toNat_div]
  change 1048576 ≤ _ at this
  change 1 ≤ _ / 2
  omega

theorem lacking_again {t : Ticket A} {r r' : PulseResult} {got : Bytes}
    (hfreed : r'.freed = add r.freed got) (hgot : ¬ got < minPulseOf o t.job / 2) :
    lacking t r' = 0 ∨ lacking t r' < lacking t r := by
  have hleast := two_le_minPulseOf o t.job
  have hle := UInt64.le_iff_toNat_le.1 (UInt64.not_lt.1 hgot)
  have hwant := t.job.want.toNat_lt
  unfold lacking
  rw [hfreed, add_toNat]
  omega

theorem measured_cases (o : Options) (t : Ticket A) (r : PulseResult) (p : PulseRow)
    (after : Option Bytes) : ∃ r', r'.pulses.map PulseRow.restore =
        r.pulses.map PulseRow.restore ++ [p.restore] ∧
      (measured o t r p after = .done t r' ∨
        (measured o t r p after = .loopHead t r' ∧
          (lacking t r' = 0 ∨ lacking t r' < lacking t r))) := by
  cases after with
  | none =>
    unfold measured
    dsimp only
    split_ifs with hrestored hok hgot
    · exact ⟨_, by simp, .inl rfl⟩
    · exact ⟨_, by simp, .inl rfl⟩
    · exact absurd (by decide) hok
    · exact absurd (by decide) hok
  | some current =>
    unfold measured
    dsimp only
    split_ifs with hrestored hok hgot
    · exact ⟨_, by simp, .inl rfl⟩
    · exact ⟨_, by simp, .inl rfl⟩
    · exact ⟨_, by simp, .inl rfl⟩
    · exact ⟨_, by simp, .inr ⟨rfl, lacking_again rfl hgot⟩⟩

end

theorem Turned.ends {due : Bool} {phase : Phase A} (hphase : s.phase = phase)
    (t : Ticket A) (r : PulseResult) (hticket : phase.ticket? = some t)
    (hrunning : phase.isDone = false) (hidle : phase.inFlight = none)
    (hrestores : r.pulses.map PulseRow.restore = phase.restores) :
    Turned o s due (.moved (.finish t)) { s with phase := .done t r } := by
  subst hphase
  exact .finish t r hticket hrunning hidle hrestores

theorem turn_turned (o : Options) (s : Worker A) (reading : Reading) :
    Turned o s reading.due (turn o s reading).1 (turn o s reading).2 := by
  unfold turn
  cases hphase : s.phase with
  | idle =>
    cases hpending : s.pending with
    | none => exact .wait (.inl ⟨hphase, hpending⟩)
    | some t => exact .pick t hphase hpending
  | entered t =>
    cases hcontrol : reading.control <;> cases hcurrent : reading.current <;> dsimp only
    case clear.some current => exact .begin t _ hphase rfl
    all_goals exact .ends hphase t _ rfl rfl rfl rfl
  | loopHead t r =>
    dsimp only
    have hdone : ∀ status, Turned o s reading.due (.moved (.finish t))
        { s with phase := .done t { r with status := status } } := fun status =>
      .ends hphase t _ rfl rfl rfl rfl
    by_cases hwant : r.freed < t.job.want
    · rw [if_neg (not_not.2 hwant)]
      by_cases hflags : s.cancel = true ∨ s.brake = true
      · rw [if_pos hflags]
        exact hdone _
      · rw [if_neg hflags]
        cases reading.limit with
        | none => exact hdone _
        | some limit =>
          dsimp only
          split_ifs
          · exact hdone _
          · exact hdone _
          · exact .pace t r _ hphase hwant hflags
    · rw [if_pos hwant]
      exact hdone r.status
  | pacing t r n =>
    dsimp only
    split_ifs with hgo
    · exact .paced t r n hphase
    · exact .wait (.inr (by simpa using fun hdue => hgo (.inr (.inr hdue))))
  | lastCheck t r n =>
    dsimp only
    by_cases hflags : s.cancel = true ∨ s.brake = true
    · rw [if_pos hflags]
      exact .back t r n hphase hflags
    · rw [if_neg hflags]
      exact .pass t r n hphase hflags
  | checked t r n =>
    dsimp only
    split_ifs
    · exact .ends hphase t _ rfl rfl rfl rfl
    · exact .ends hphase t _ rfl rfl rfl rfl
    · exact .clear t r n hphase
  | opening t r n =>
    cases reading.current with
    | none =>
      exact .ends hphase t _ rfl rfl rfl rfl
    | some before =>
      dsimp only
      split_ifs
      · exact .unopened t r n _ hphase rfl
      · exact .start t r n before _ _ hphase
  | writing t r n before => exact .wrote t r n before _ hphase
  | restoring t r n before write => exact .restore t r n before write _ reading.restore hphase rfl
  | measuring t r p =>
    dsimp only
    obtain ⟨r', hrestores, hdone | ⟨hagain, hfreed⟩⟩ := measured_cases o t r p reading.after
    · rw [hdone]
      exact .ends hphase t r' rfl rfl rfl hrestores
    · rw [hagain]
      exact .again t r r' p hphase hrestores hfreed
  | done t r => exact .store t r hphase

end Parp.PulseWorker

/-!
# Schedules of the pulse worker
-/
namespace Parp.PulseWorker

open Memshift Handoff TransitionRuns

variable {A : Type} [DecidableEq A] {o : Options} {s s' : Worker A}

def workerAfter (o : Options) (inputs : List (Input A)) : Worker A :=
  after (workerStep o) {} inputs

def workerOutputs (o : Options) (inputs : List (Input A)) : List (Output A) :=
  outputs (workerStep o) {} inputs

def movesOf (outs : List (Output A)) : List (Move (Ticket A) PulseResult) :=
  outs.flatMap Output.moves

def startsOf (outs : List (Output A)) : List (Ticket A) := outs.filterMap Output.start?

section

inductive Holds (s : Worker A) : Slot (Ticket A) PulseResult → Prop
  | free (hphase : s.phase = .idle) (hpending : s.pending = none)
      (hcompleted : s.completed = none) : Holds s .free
  | queued {t : Ticket A} (hphase : s.phase = .idle) (hpending : s.pending = some t)
      (hcompleted : s.completed = none) : Holds s (.queued t)
  | running {t : Ticket A} (hphase : s.phase.ticket? = some t) (hrunning : s.phase.isDone = false)
      (hpending : s.pending = none) (hcompleted : s.completed = none) : Holds s (.running t)
  | finished {t : Ticket A} {r : PulseResult} (hphase : s.phase = .done t r)
      (hpending : s.pending = none) (hcompleted : s.completed = none) : Holds s (.finished t)
  | stored {t : Ticket A} {r : PulseResult} (hphase : s.phase = .idle)
      (hpending : s.pending = none) (hcompleted : s.completed = some (t, r)) :
      Holds s (.stored t r)

def Follows (slot : Slot (Ticket A) PulseResult) (next : Output A × Worker A) : Prop :=
  ∃ slot', Path slot next.1.moves slot' ∧ Holds next.2 slot'

variable {slot : Slot (Ticket A) PulseResult}

omit [DecidableEq A] in
theorem Holds.stay (h : Holds s slot) {output : Output A} (hmoves : output.moves = [])
    (hphase : s'.phase = s.phase) (hpending : s'.pending = s.pending)
    (hcompleted : s'.completed = s.completed) : Follows slot (output, s') := by
  refine ⟨slot, hmoves ▸ .nil, ?_⟩
  cases h with
  | free hp hq hc => exact .free (hphase ▸ hp) (hpending ▸ hq) (hcompleted ▸ hc)
  | queued hp hq hc => exact .queued (hphase ▸ hp) (hpending ▸ hq) (hcompleted ▸ hc)
  | running hp hr hq hc =>
    exact .running (hphase ▸ hp) (hphase ▸ hr) (hpending ▸ hq) (hcompleted ▸ hc)
  | finished hp hq hc => exact .finished (hphase ▸ hp) (hpending ▸ hq) (hcompleted ▸ hc)
  | stored hp hq hc => exact .stored (hphase ▸ hp) (hpending ▸ hq) (hcompleted ▸ hc)

omit [DecidableEq A] in
theorem Holds.of_running (h : Holds s slot) {t : Ticket A} (hticket : s.phase.ticket? = some t)
    (hrunning : s.phase.isDone = false) :
    slot = .running t ∧ s.pending = none ∧ s.completed = none := by
  cases h with
  | free hphase hpending hcompleted =>
    rw [hphase] at hticket
    cases hticket
  | queued hphase hpending hcompleted =>
    rw [hphase] at hticket
    cases hticket
  | running hphase _ hpending hcompleted =>
    rw [hphase] at hticket
    cases hticket
    exact ⟨rfl, hpending, hcompleted⟩
  | finished hphase hpending hcompleted =>
    rw [hphase] at hrunning
    cases hrunning
  | stored hphase hpending hcompleted =>
    rw [hphase] at hticket
    cases hticket

omit [DecidableEq A] in
theorem Holds.within (h : Holds s slot) {t : Ticket A} {output : Output A}
    (hmoves : output.moves = []) (hticket : s.phase.ticket? = some t)
    (hrunning : s.phase.isDone = false) (hticket' : s'.phase.ticket? = some t)
    (hrunning' : s'.phase.isDone = false) (hpending : s'.pending = s.pending)
    (hcompleted : s'.completed = s.completed) : Follows slot (output, s') := by
  obtain ⟨rfl, hnone, hempty⟩ := h.of_running hticket hrunning
  exact ⟨.running t, hmoves ▸ .nil,
    .running hticket' hrunning' (hpending.trans hnone) (hcompleted.trans hempty)⟩

theorem turned_follows (h : Holds s slot) {due : Bool} {output : Output A}
    (hturn : Turned o s due output s') : Follows slot (output, s') := by
  cases hturn with
  | wait _ => exact h.stay rfl rfl rfl rfl
  | pick t hphase hpending =>
    cases h with
    | queued _ hqueued hcompleted =>
      obtain rfl := Option.some.inj (hpending.symm.trans hqueued)
      exact ⟨_, (Moves.start t).path, .running rfl rfl rfl hcompleted⟩
    | free _ hnone _ => exact nomatch hpending.symm.trans hnone
    | running hticket _ _ _ =>
      rw [hphase] at hticket
      cases hticket
    | finished hdone _ _ => exact nomatch hphase.symm.trans hdone
    | stored _ hnone _ => exact nomatch hpending.symm.trans hnone
  | begin t r hphase _ => exact h.within rfl (hphase ▸ rfl) (hphase ▸ rfl) rfl rfl rfl rfl
  | pace t r n hphase _ _ => exact h.within rfl (hphase ▸ rfl) (hphase ▸ rfl) rfl rfl rfl rfl
  | paced t r n hphase => exact h.within rfl (hphase ▸ rfl) (hphase ▸ rfl) rfl rfl rfl rfl
  | back t r n hphase _ => exact h.within rfl (hphase ▸ rfl) (hphase ▸ rfl) rfl rfl rfl rfl
  | pass t r n hphase _ => exact h.within rfl (hphase ▸ rfl) (hphase ▸ rfl) rfl rfl rfl rfl
  | clear t r n hphase => exact h.within rfl (hphase ▸ rfl) (hphase ▸ rfl) rfl rfl rfl rfl
  | unopened t r n p hphase _ => exact h.within rfl (hphase ▸ rfl) (hphase ▸ rfl) rfl rfl rfl rfl
  | start t r n before target nowNs hphase =>
    exact h.within rfl (hphase ▸ rfl) (hphase ▸ rfl) rfl rfl rfl rfl
  | wrote t r n before write hphase =>
    exact h.within rfl (hphase ▸ rfl) (hphase ▸ rfl) rfl rfl rfl rfl
  | restore t r n before write p outcome hphase _ =>
    exact h.within rfl (hphase ▸ rfl) (hphase ▸ rfl) rfl rfl rfl rfl
  | again t r r' p hphase _ _ => exact h.within rfl (hphase ▸ rfl) (hphase ▸ rfl) rfl rfl rfl rfl
  | finish t r hticket hrunning _ _ =>
    obtain ⟨rfl, hnone, hempty⟩ := h.of_running hticket hrunning
    exact ⟨_, (Moves.finish t).path, .finished rfl hnone hempty⟩
  | store t r hphase =>
    cases h with
    | finished hdone hpending _ =>
      cases hphase.symm.trans hdone
      exact ⟨_, (Moves.store t r).path, .stored rfl hpending rfl⟩
    | free hidle _ _ => exact nomatch hphase.symm.trans hidle
    | queued hidle _ _ => exact nomatch hphase.symm.trans hidle
    | running _ hrunning _ _ =>
      rw [hphase] at hrunning
      cases hrunning
    | stored hidle _ _ => exact nomatch hphase.symm.trans hidle

theorem step_follows (o : Options) (h : Holds s slot) (input : Input A) :
    Follows slot (workerStep o s input) := by
  cases input with
  | submit job =>
    change Follows slot (submit s job)
    unfold submit
    split_ifs with hbusy
    · exact h.stay rfl rfl rfl rfl
    · simp only [busy, Bool.or_eq_true, not_or, Bool.not_eq_true, Option.isSome_eq_false_iff,
        Option.isNone_iff_eq_none] at hbusy
      obtain ⟨⟨hidle, hpending⟩, hcompleted⟩ := hbusy
      cases h with
      | free hphase _ _ =>
        exact ⟨_, (Moves.accept _).path, .queued hphase rfl hcompleted⟩
      | queued _ hsome _ => exact nomatch hsome.symm.trans hpending
      | running hphase _ _ _ =>
        unfold running at hidle
        cases hp : s.phase <;> rw [hp] at hphase hidle <;> cases hphase <;> cases hidle
      | finished hphase _ _ =>
        unfold running at hidle
        rw [hphase] at hidle
        cases hidle
      | stored _ _ hsome => exact nomatch hsome.symm.trans hcompleted
  | take =>
    change Follows slot (take s)
    unfold take
    cases h with
    | stored hphase hpending hcompleted =>
      rw [hcompleted]
      exact ⟨.free, (Moves.collect _ _).path, .free hphase hpending rfl⟩
    | free hphase hpending hcompleted =>
      rw [hcompleted]
      exact (Holds.free hphase hpending hcompleted).stay rfl rfl rfl rfl
    | queued hphase hpending hcompleted =>
      rw [hcompleted]
      exact (Holds.queued hphase hpending hcompleted).stay rfl rfl rfl rfl
    | running hphase hrunning hpending hcompleted =>
      rw [hcompleted]
      exact (Holds.running hphase hrunning hpending hcompleted).stay rfl rfl rfl rfl
    | finished hphase hpending hcompleted =>
      rw [hcompleted]
      exact (Holds.finished hphase hpending hcompleted).stay rfl rfl rfl rfl
  | cancel slow => exact h.stay rfl rfl rfl rfl
  | setBrake on => exact h.stay rfl rfl rfl rfl
  | slowPulse limitNs nowNs =>
    change Follows slot (slowPulse s limitNs nowNs)
    unfold slowPulse
    split_ifs
    · exact h.stay rfl rfl rfl rfl
    · exact h.stay rfl rfl rfl rfl
  | writeMax app => exact h.stay rfl rfl rfl rfl
  | turn reading => exact turned_follows h (turn_turned o s reading)

theorem worker_path (o : Options) (inputs : List (Input A)) :
    ∃ slot, Path .free (movesOf (workerOutputs o inputs)) slot ∧
      Holds (workerAfter o inputs) slot := by
  induction inputs using List.reverseRecOn with
  | nil => exact ⟨.free, .nil, .free rfl rfl rfl⟩
  | append_singleton inputs input ih =>
    obtain ⟨slot, hpath, hholds⟩ := ih
    obtain ⟨slot', hstep, hholds'⟩ := step_follows o hholds input
    unfold workerOutputs at hpath ⊢
    unfold workerAfter
    refine ⟨slot', ?_, ?_⟩
    · rw [outputs_concat]
      unfold movesOf at hpath ⊢
      rw [List.flatMap_append, List.flatMap_singleton]
      exact hpath.append hstep
    · rw [after_concat]
      exact hholds'

end

end Parp.PulseWorker
