import Parp.PulseWorkerLaws

set_option autoImplicit false

namespace Parp.PulseWorker

open Memshift Handoff TransitionRuns List

variable {A : Type} [DecidableEq A] {o : Options} {s s' : Worker A}

section

variable {P : Ticket A → Bool}

/-- The pulses of the jobs in `P` that may still start. -/
def mayStart (P : Ticket A → Bool) (s : Worker A) : ℕ := s.phase.passed.toList.countP P

/-- The jobs in `P` see a flag when they check it. -/
def Held (P : Ticket A → Bool) (s : Worker A) : Prop :=
  ∀ t, s.phase.ticket? = some t → P t = true → s.cancel = true ∨ s.brake = true

theorem turned_starts (h : Held P s) {due : Bool} {output : Output A}
    (hturn : Turned o s due output s') :
    output.start?.toList.countP P + mayStart P s' ≤ mayStart P s := by
  unfold mayStart
  cases hturn with
  | wait _ => simp [Output.start?]
  | pass t r n hphase hflags =>
    have hout : P t = false := by
      rw [← Bool.not_eq_true]
      exact fun hin => hflags (h t (by rw [hphase]; rfl) hin)
    simp [Output.start?, Phase.passed, hout]
  | clear t r n hphase => simp [Output.start?, Phase.passed, hphase]
  | start t r n before target nowNs hphase => simp [Output.start?, Phase.passed, hphase]
  | pick t hphase hpending => simp [Output.start?, Phase.passed]
  | begin t r hphase _ => simp [Output.start?, Phase.passed]
  | pace t r n hphase _ _ => simp [Output.start?, Phase.passed]
  | paced t r n hphase => simp [Output.start?, Phase.passed]
  | back t r n hphase _ => simp [Output.start?, Phase.passed]
  | unopened t r n p hphase _ => simp [Output.start?, Phase.passed]
  | wrote t r n before write hphase => simp [Output.start?, Phase.passed]
  | restore t r n before write p outcome hphase _ => simp [Output.start?, Phase.passed]
  | again t r r' p hphase _ _ => simp [Output.start?, Phase.passed]
  | finish t r _ _ _ _ => simp [Output.start?, Phase.passed]
  | store t r hphase => simp [Output.start?, Phase.passed]

theorem step_starts (h : Held P s) (input : Input A) :
    (workerStep o s input).1.start?.toList.countP P + mayStart P (workerStep o s input).2 ≤
      mayStart P s := by
  cases input with
  | turn reading => exact turned_starts h (turn_turned o s reading)
  | submit job =>
    change (submit s job).1.start?.toList.countP P + mayStart P (submit s job).2 ≤ _
    unfold submit
    split_ifs <;> simp [Output.start?, mayStart]
  | take =>
    change (take s).1.start?.toList.countP P + mayStart P (take s).2 ≤ _
    unfold take
    cases s.completed <;> simp [Output.start?, mayStart]
  | cancel slow => simp [workerStep, Output.start?, mayStart]
  | setBrake on => simp [workerStep, Output.start?, mayStart]
  | slowPulse limitNs nowNs =>
    change (slowPulse s limitNs nowNs).1.start?.toList.countP P +
      mayStart P (slowPulse s limitNs nowNs).2 ≤ _
    unfold slowPulse
    split_ifs <;> simp [Output.start?, mayStart]
  | writeMax app => simp [workerStep, Output.start?, mayStart]

theorem starts_le {I : Worker A → Prop} (allowed : Input A → Prop) (hheld : ∀ s, I s → Held P s)
    (hkeep : ∀ s input, I s → allowed input → I (workerStep o s input).2)
    (later : List (Input A)) (hs : I s) (hlater : ∀ input ∈ later, allowed input) :
    (startsOf (outputs (workerStep o) s later)).countP P ≤ mayStart P s := by
  induction later generalizing s with
  | nil => exact Nat.zero_le _
  | cons input later ih =>
    have hstep := step_starts (o := o) (hheld s hs) input
    have hrest := ih (hkeep s input hs (hlater input (.head _)))
      fun i hi => hlater i (mem_cons_of_mem _ hi)
    have hsplit : startsOf (outputs (workerStep o) s (input :: later)) =
        (workerStep o s input).1.start?.toList ++
          startsOf (outputs (workerStep o) (workerStep o s input).2 later) := by
      unfold startsOf
      rw [outputs, filterMap_cons]
      cases (workerStep o s input).1.start? <;> rfl
    rw [hsplit, countP_append]
    omega

end

theorem turned_flags {due : Bool} {output : Output A} (hturn : Turned o s due output s') :
    s'.brake = s.brake ∧ s'.jobs = s.jobs ∧
      ((∃ t, s.pending = some t ∧ s'.pending = none ∧ s'.phase.ticket? = some t) ∨
        (s'.pending = s.pending ∧ s'.cancel = s.cancel ∧
          ∀ t, s'.phase.ticket? = some t → s.phase.ticket? = some t)) := by
  cases hturn with
  | wait _ => exact ⟨rfl, rfl, .inr ⟨rfl, rfl, fun _ h => h⟩⟩
  | pick t hphase hpending => exact ⟨rfl, rfl, .inl ⟨t, hpending, rfl, rfl⟩⟩
  | begin t r hphase _ => exact ⟨rfl, rfl, .inr ⟨rfl, rfl, fun _ h => hphase ▸ h⟩⟩
  | pace t r n hphase _ _ => exact ⟨rfl, rfl, .inr ⟨rfl, rfl, fun _ h => hphase ▸ h⟩⟩
  | paced t r n hphase => exact ⟨rfl, rfl, .inr ⟨rfl, rfl, fun _ h => hphase ▸ h⟩⟩
  | back t r n hphase _ => exact ⟨rfl, rfl, .inr ⟨rfl, rfl, fun _ h => hphase ▸ h⟩⟩
  | pass t r n hphase _ => exact ⟨rfl, rfl, .inr ⟨rfl, rfl, fun _ h => hphase ▸ h⟩⟩
  | clear t r n hphase => exact ⟨rfl, rfl, .inr ⟨rfl, rfl, fun _ h => hphase ▸ h⟩⟩
  | unopened t r n p hphase _ => exact ⟨rfl, rfl, .inr ⟨rfl, rfl, fun _ h => hphase ▸ h⟩⟩
  | start t r n before target nowNs hphase =>
    exact ⟨rfl, rfl, .inr ⟨rfl, rfl, fun _ h => hphase ▸ h⟩⟩
  | wrote t r n before write hphase => exact ⟨rfl, rfl, .inr ⟨rfl, rfl, fun _ h => hphase ▸ h⟩⟩
  | restore t r n before write p outcome hphase _ =>
    exact ⟨rfl, rfl, .inr ⟨rfl, rfl, fun _ h => hphase ▸ h⟩⟩
  | again t r r' p hphase _ _ => exact ⟨rfl, rfl, .inr ⟨rfl, rfl, fun _ h => hphase ▸ h⟩⟩
  | finish t r hticket _ _ _ =>
    refine ⟨rfl, rfl, .inr ⟨rfl, rfl, ?_⟩⟩
    intro u hu
    exact hticket.trans hu
  | store t r hphase =>
    refine ⟨rfl, rfl, .inr ⟨rfl, rfl, ?_⟩⟩
    intro u hu
    cases hu

/-- The job with number `k` was cancelled while it ran, or has gone since. -/
structure Spent (k : ℕ) (s : Worker A) : Prop where
  known : k < s.jobs
  notPending : ∀ t, s.pending = some t → t.serial ≠ k
  cancelled : ∀ t, s.phase.ticket? = some t → t.serial = k → s.cancel = true

theorem Spent.step {k : ℕ} (h : Spent k s) (o : Options) (input : Input A) :
    Spent k (workerStep o s input).2 := by
  cases input with
  | turn reading =>
    obtain ⟨-, hjobs, hcase⟩ := turned_flags (turn_turned o s reading)
    change Spent k (turn o s reading).2
    rcases hcase with ⟨t, hpending, hnone, hticket⟩ | ⟨hpending, hcancel, hticket⟩
    · refine ⟨hjobs ▸ h.known, ?_, ?_⟩
      · intro u hu
        rw [hnone] at hu
        cases hu
      · intro u hu hserial
        obtain rfl := Option.some.inj (hticket.symm.trans hu)
        exact absurd hserial (h.notPending t hpending)
    · refine ⟨hjobs ▸ h.known, hpending ▸ h.notPending, ?_⟩
      intro u hu hserial
      rw [hcancel]
      exact h.cancelled u (hticket u hu) hserial
  | submit job =>
    change Spent k (submit s job).2
    unfold submit
    split_ifs with hbusy
    · exact h
    · refine ⟨Nat.lt_succ_of_lt h.known, ?_, h.cancelled⟩
      intro t ht
      obtain rfl := Option.some.inj ht
      exact Nat.ne_of_gt h.known
  | take =>
    change Spent k (take s).2
    unfold take
    cases s.completed with
    | none => exact h
    | some result => exact ⟨h.known, h.notPending, h.cancelled⟩
  | cancel slow => exact ⟨h.known, h.notPending, fun _ _ _ => rfl⟩
  | setBrake on => exact ⟨h.known, h.notPending, h.cancelled⟩
  | slowPulse limitNs nowNs =>
    change Spent k (slowPulse s limitNs nowNs).2
    unfold slowPulse
    split_ifs
    · exact h
    · exact ⟨h.known, h.notPending, h.cancelled⟩
  | writeMax app => exact ⟨h.known, h.notPending, h.cancelled⟩

theorem step_brake (o : Options) (s : Worker A) (input : Input A)
    (hinput : ∀ on, input = .setBrake on → on = true) (h : s.brake = true) :
    (workerStep o s input).2.brake = true := by
  cases input with
  | turn reading => exact (turned_flags (turn_turned o s reading)).1.trans h
  | submit job =>
    change (submit s job).2.brake = true
    unfold submit
    split_ifs
    · exact h
    · exact h
  | take =>
    change (take s).2.brake = true
    unfold take
    cases s.completed with
    | none => exact h
    | some result => exact h
  | cancel slow => exact h
  | setBrake on => exact hinput on rfl
  | slowPulse limitNs nowNs =>
    change (slowPulse s limitNs nowNs).2.brake = true
    unfold slowPulse
    split_ifs
    · exact h
    · exact h
  | writeMax app => exact h

theorem braked_starts (o : Options) (h : s.brake = true) (later : List (Input A))
    (hlater : .setBrake false ∉ later) :
    (startsOf (outputs (workerStep o) s later)).length ≤ mayStart (fun _ => true) s := by
  have hle := starts_le (o := o) (s := s) (P := fun _ => true) (I := fun s => s.brake = true)
    (fun input => ∀ on, input = .setBrake on → on = true)
    (fun _ h _ _ _ => .inr h) (fun s input h hinput => step_brake o s input hinput h) later h
    (by
      rintro input hmem on rfl
      cases on with
      | true => rfl
      | false => exact absurd hmem hlater)
  rwa [countP_true] at hle

theorem cancelled_starts (o : Options) {k : ℕ} (h : Spent k s) (later : List (Input A)) :
    (startsOf (outputs (workerStep o) s later)).countP (fun t => t.serial = k) ≤
      mayStart (fun t => t.serial = k) s :=
  starts_le (fun _ => True)
    (fun _ h t hticket hserial => .inl (h.cancelled t hticket (of_decide_eq_true hserial)))
    (fun _ input h _ => h.step o input) later h fun _ _ => trivial

def Waits (t : Ticket A) (s : Worker A) : Prop :=
  s.phase = .idle ∧ s.pending = some t ∨ s.phase.ticket? = some t

def rank (s : Worker A) : ℕ :=
  let flagged := if s.cancel = true ∨ s.brake = true then 3 else 0
  match s.phase with
  | .idle => match s.pending with
      | some t => 10 * t.job.want.toNat + 13
      | none => 0
  | .entered t => 10 * t.job.want.toNat + 12
  | .loopHead t r => if lacking t r = 0 then 2 else 10 * lacking t r + 10
  | .pacing t r _ => 10 * lacking t r + 9 + flagged
  | .lastCheck t r _ => 10 * lacking t r + 8 + flagged
  | .checked t r _ => 10 * lacking t r + 7
  | .opening t r _ => 10 * lacking t r + 6
  | .writing t r _ _ => 10 * lacking t r + 5
  | .restoring t r _ _ _ => 10 * lacking t r + 4
  | .measuring t r _ => 10 * lacking t r + 3
  | .done _ _ => 1

omit [DecidableEq A] in
theorem rank_loopHead (s : Worker A) {t : Ticket A} {r : PulseResult}
    (hphase : s.phase = .loopHead t r) :
    rank s = if lacking t r = 0 then 2 else 10 * lacking t r + 10 := by
  unfold rank
  rw [hphase]

omit [DecidableEq A] in
theorem two_le_rank {t : Ticket A} (hcurrent : s.phase.ticket? = some t)
    (hrunning : s.phase.isDone = false) : 2 ≤ rank s := by
  unfold rank
  cases hphase : s.phase with
  | idle =>
    rw [hphase] at hcurrent
    cases hcurrent
  | done u r =>
    rw [hphase] at hrunning
    cases hrunning
  | loopHead u r =>
    dsimp only
    split_ifs <;> omega
  | _ =>
    dsimp only
    omega

theorem turned_rank {t : Ticket A} (h : Waits t s) {due : Bool} {output : Output A}
    (hturn : Turned o s due output s') :
    (∃ r, output = .moved (.store t r)) ∨
      Waits t s' ∧ rank s' + (if due = true then 1 else 0) ≤ rank s := by
  have hone : (if due = true then 1 else 0) ≤ 1 := by split_ifs <;> omega
  have hticket : ∀ {phase : Phase A} {u : Ticket A}, s.phase = phase → phase.ticket? = some u →
      u = t := by
    intro phase u hphase hu
    rcases h with ⟨hidle, -⟩ | hcurrent
    · rw [hidle] at hphase
      rw [← hphase] at hu
      cases hu
    · rw [hphase, hu] at hcurrent
      exact Option.some.inj hcurrent
  have hmoves : ∀ {phase : Phase A} {u : Ticket A}, s.phase = phase → phase.ticket? = some u →
      s'.phase.ticket? = some u → rank s' + (if due = true then 1 else 0) ≤ rank s →
      (∃ r, output = .moved (.store t r)) ∨
        Waits t s' ∧ rank s' + (if due = true then 1 else 0) ≤ rank s :=
    fun hphase hu hmoved hless => .inr ⟨.inr (hticket hphase hu ▸ hmoved), hless⟩
  cases hturn with
  | wait hwait =>
    rcases hwait with ⟨hidle, hnone⟩ | hdue
    · rcases h with ⟨-, hpending⟩ | hcurrent
      · exact nomatch hpending.symm.trans hnone
      · rw [hidle] at hcurrent
        cases hcurrent
    · exact .inr ⟨h, by simp [hdue]⟩
  | pick u hphase hpending =>
    rcases h with ⟨-, hqueued⟩ | hcurrent
    · obtain rfl := Option.some.inj (hpending.symm.trans hqueued)
      refine .inr ⟨.inr rfl, ?_⟩
      simp only [rank, hphase, hpending]
      omega
    · rw [hphase] at hcurrent
      cases hcurrent
  | begin u r hphase _ =>
    refine hmoves hphase rfl rfl ?_
    have hle : lacking u r ≤ u.job.want.toNat := Nat.sub_le _ _
    simp only [rank, hphase]
    split_ifs <;> omega
  | pace u r n hphase hwant hflags =>
    refine hmoves hphase rfl rfl ?_
    have hlack : lacking u r ≠ 0 := by
      have := UInt64.lt_iff_toNat_lt.1 hwant
      unfold lacking
      omega
    rw [rank_loopHead s hphase, if_neg hlack]
    simp only [rank, if_neg hflags]
    omega
  | paced u r n hphase => exact hmoves hphase rfl rfl (by simp only [rank, hphase]; omega)
  | back u r n hphase hflags =>
    refine hmoves hphase rfl rfl ?_
    simp only [rank, hphase, if_pos hflags]
    split_ifs <;> omega
  | pass u r n hphase hflags => exact hmoves hphase rfl rfl (by simp only [rank, hphase]; omega)
  | clear u r n hphase => exact hmoves hphase rfl rfl (by simp only [rank, hphase]; omega)
  | unopened u r n p hphase _ => exact hmoves hphase rfl rfl (by simp only [rank, hphase]; omega)
  | start u r n before target nowNs hphase =>
    exact hmoves hphase rfl rfl (by simp only [rank, hphase]; omega)
  | wrote u r n before write hphase =>
    exact hmoves hphase rfl rfl (by simp only [rank, hphase]; omega)
  | restore u r n before write p outcome hphase _ =>
    exact hmoves hphase rfl rfl (by simp only [rank, hphase]; omega)
  | again u r r' p hphase _ hfreed =>
    refine hmoves hphase rfl rfl ?_
    simp only [rank, hphase]
    split_ifs <;> omega
  | finish u r hcurrent hrunning _ _ =>
    obtain rfl := hticket rfl hcurrent
    refine .inr ⟨.inr rfl, ?_⟩
    have hleast := two_le_rank hcurrent hrunning
    change 1 + _ ≤ rank s
    omega
  | store u r hphase =>
    obtain rfl := hticket hphase rfl
    exact .inl ⟨r, rfl⟩

def isDue : Input A → Bool
  | .turn reading => reading.due
  | _ => false

def isFlag : Input A → Bool
  | .cancel _ => true
  | .setBrake _ => true
  | _ => false

omit [DecidableEq A] in
theorem rank_flags (h : s'.phase = s.phase) (hpending : s'.pending = s.pending) :
    rank s' ≤ rank s + 3 := by
  unfold rank
  rw [h, hpending]
  cases s.phase with
  | pacing t r n =>
    dsimp only
    split_ifs <;> omega
  | lastCheck t r n =>
    dsimp only
    split_ifs <;> omega
  | _ => exact Nat.le_add_right _ _

theorem step_rank {t : Ticket A} (h : Waits t s) (input : Input A) :
    (∃ r, (workerStep o s input).1 = .moved (.store t r)) ∨
      Waits t (workerStep o s input).2 ∧
        rank (workerStep o s input).2 + (if isDue input = true then 1 else 0) ≤
          rank s + (if isFlag input = true then 3 else 0) := by
  cases input with
  | turn reading => exact turned_rank h (turn_turned o s reading)
  | submit job =>
    have hbusy : busy s = true := by
      rcases h with ⟨-, hpending⟩ | hticket
      · simp [busy, hpending]
      · unfold busy running
        cases hphase : s.phase <;> rw [hphase] at hticket <;> first | rfl | cases hticket
    refine .inr ?_
    change Waits t (submit s job).2 ∧ rank (submit s job).2 ≤ rank s
    unfold submit
    rw [if_pos hbusy]
    exact ⟨h, Nat.le_refl _⟩
  | take =>
    refine .inr ?_
    change Waits t (take s).2 ∧ rank (take s).2 ≤ rank s
    unfold take
    cases s.completed with
    | none => exact ⟨h, Nat.le_refl _⟩
    | some result => exact ⟨h, Nat.le_refl _⟩
  | cancel slow => exact .inr ⟨h, rank_flags rfl rfl⟩
  | setBrake on => exact .inr ⟨h, rank_flags rfl rfl⟩
  | slowPulse limitNs nowNs =>
    refine .inr ?_
    change Waits t (slowPulse s limitNs nowNs).2 ∧ rank (slowPulse s limitNs nowNs).2 ≤ rank s
    unfold slowPulse
    split_ifs
    · exact ⟨h, Nat.le_refl _⟩
    · exact ⟨h, Nat.le_refl _⟩
  | writeMax app => exact .inr ⟨h, Nat.le_refl _⟩

theorem job_stored (o : Options) {t : Ticket A} (h : Waits t s) (later : List (Input A))
    (hmany : rank s + 3 * later.countP isFlag < later.countP isDue) :
    ∃ r, .store t r ∈ movesOf (outputs (workerStep o) s later) := by
  induction later generalizing s with
  | nil => exact absurd hmany (Nat.not_lt_zero _)
  | cons input later ih =>
    change ∃ r, _ ∈ (workerStep o s input).1.moves ++ movesOf (outputs (workerStep o)
      (workerStep o s input).2 later)
    rcases step_rank (o := o) h input with ⟨r, hstore⟩ | ⟨hwaits, hrank⟩
    · refine ⟨r, mem_append_left _ ?_⟩
      rw [hstore]
      exact .head _
    · rw [countP_cons, countP_cons] at hmany
      have hflag : (if isFlag input = true then 3 else 0) =
          3 * (if isFlag input = true then 1 else 0) := by split_ifs <;> rfl
      obtain ⟨r, hr⟩ := ih hwaits (by omega)
      exact ⟨r, mem_append_right _ hr⟩

section

/-- The pulses of a job under way, with what they made of writing `max` back. -/
def currentPulses (s : Worker A) : List (A × Option RestoreOutcome) :=
  match s.phase.ticket? with
  | some t => s.phase.restores.map fun outcome => (t.job.app, outcome)
  | none => []

def resultPulses (t : Ticket A) (r : PulseResult) : List (A × Option RestoreOutcome) :=
  (r.pulses.map PulseRow.restore).map fun outcome => (t.job.app, outcome)

def storedPulses (outs : List (Output A)) : List (A × Option RestoreOutcome) :=
  (stored (movesOf outs)).flatMap fun result => resultPulses result.1 result.2

def pulsesOf (o : Options) (inputs : List (Input A)) : List (A × Option RestoreOutcome) :=
  storedPulses (workerOutputs o inputs) ++ currentPulses (workerAfter o inputs)

/-- What the last pulse of an application that opened `memory.high` made of writing `max` back. -/
def lastRestore (app : A) (pulses : List (A × Option RestoreOutcome)) : Option RestoreOutcome :=
  (pulses.filterMap fun pulse => if pulse.1 = app then pulse.2 else none).getLast?

/-- `memory.high` was last written to `max`, or the last pulse says why not. -/
def PutBack (pulses : List (A × Option RestoreOutcome)) (s : Worker A) (app : A) : Prop :=
  s.high app = none ∨ s.high app = some .max ∨
    lastRestore app pulses = some .gone ∨ lastRestore app pulses = some .failed

def AllPutBack (pulses : List (A × Option RestoreOutcome)) (s : Worker A) : Prop :=
  ∀ app, (∀ t, s.phase.inFlight = some t → t.job.app ≠ app) → PutBack pulses s app

variable {pulses : List (A × Option RestoreOutcome)} {app : A}

theorem lastRestore_concat (app other : A) (outcome : Option RestoreOutcome) :
    lastRestore app (pulses ++ [(other, outcome)]) =
      (if other = app then outcome else none).or (lastRestore app pulses) := by
  unfold lastRestore
  rw [filterMap_append, filterMap_cons, filterMap_nil]
  cases (if other = app then outcome else none) with
  | none => rw [append_nil, Option.none_or]
  | some outcome => rw [getLast?_concat, Option.some_or]

omit [DecidableEq A] in
theorem currentPulses_eq {t : Ticket A} (h : s.phase.ticket? = some t) :
    currentPulses s = s.phase.restores.map fun outcome => (t.job.app, outcome) := by
  unfold currentPulses
  rw [h]

section

variable (h : AllPutBack (pulses ++ currentPulses s) s)

include h

theorem AllPutBack.same {output : Output A}
    (hpulses : storedPulses [output] ++ currentPulses s' = currentPulses s)
    (hflight : s.phase.inFlight = none ∨ s'.phase.inFlight = s.phase.inFlight)
    (hhigh : s'.high = s.high) :
    AllPutBack (pulses ++ (storedPulses [output] ++ currentPulses s')) s' := by
  intro app happ
  have hold : PutBack (pulses ++ currentPulses s) s app := by
    apply h app
    intro t ht
    rcases hflight with hnone | hsame
    · exact nomatch ht.symm.trans hnone
    · exact happ t (hsame.trans ht)
  rw [hpulses]
  unfold PutBack at hold ⊢
  rwa [hhigh]

theorem AllPutBack.within {output : Output A} (hmoves : stored output.moves = []) {t : Ticket A}
    (hticket : s.phase.ticket? = some t) (hticket' : s'.phase.ticket? = some t)
    (hrestores : s'.phase.restores = s.phase.restores)
    (hflight : s.phase.inFlight = none ∨ s'.phase.inFlight = s.phase.inFlight)
    (hhigh : s'.high = s.high) :
    AllPutBack (pulses ++ (storedPulses [output] ++ currentPulses s')) s' := by
  refine h.same ?_ hflight hhigh
  have hnone : storedPulses [output] = [] := by
    unfold storedPulses movesOf
    rw [flatMap_singleton, hmoves]
    rfl
  rw [hnone, currentPulses_eq hticket, currentPulses_eq hticket', hrestores]
  rfl

theorem AllPutBack.more {output : Output A}
    (hmoves : stored output.moves = []) {t : Ticket A} (outcome : Option RestoreOutcome)
    (hticket : s.phase.ticket? = some t) (hticket' : s'.phase.ticket? = some t)
    (hrestores : s'.phase.restores = s.phase.restores ++ [outcome])
    (hflight : ∀ u, s.phase.inFlight = some u → u = t)
    (hother : ∀ app, app ≠ t.job.app → s'.high app = s.high app)
    (hjob : (outcome = none ∧ s.phase.inFlight = none ∧ s'.high = s.high) ∨
      outcome = some .gone ∨ outcome = some .failed ∨ s'.high t.job.app = some .max) :
    AllPutBack (pulses ++ (storedPulses [output] ++ currentPulses s')) s' := by
  have hnone : storedPulses [output] = [] := by
    unfold storedPulses movesOf
    rw [flatMap_singleton, hmoves]
    rfl
  have hpulses : pulses ++ (storedPulses [output] ++ currentPulses s') =
      (pulses ++ currentPulses s) ++ [(t.job.app, outcome)] := by
    rw [hnone, currentPulses_eq hticket, currentPulses_eq hticket', hrestores, map_append,
      append_assoc]
    rfl
  rw [hpulses]
  intro app happ
  unfold PutBack
  rw [lastRestore_concat]
  by_cases heq : t.job.app = app
  · subst heq
    rw [if_pos rfl]
    rcases hjob with ⟨rfl, hidle, hhigh⟩ | hgone | hfailed | hmax
    · rw [hhigh, Option.none_or]
      exact h _ fun u hu => nomatch hu.symm.trans hidle
    · rw [hgone]
      exact .inr (.inr (.inl rfl))
    · rw [hfailed]
      exact .inr (.inr (.inr rfl))
    · exact .inr (.inl hmax)
  · rw [if_neg heq, Option.none_or, hother app (Ne.symm heq)]
    exact h app fun u hu => by
      rw [hflight u hu]
      exact heq

end

theorem turned_putBack {due : Bool} {output : Output A} (hturn : Turned o s due output s')
    (h : AllPutBack (pulses ++ currentPulses s) s) :
    AllPutBack (pulses ++ (storedPulses [output] ++ currentPulses s')) s' := by
  cases hturn with
  | wait _ => exact h.same rfl (.inr rfl) rfl
  | pick t hphase hpending =>
    exact h.same (by unfold currentPulses; rw [hphase]; rfl) (.inl (hphase ▸ rfl)) rfl
  | begin t r hphase hnew =>
    exact h.within rfl (hphase ▸ rfl) rfl (by rw [hphase]; simp [Phase.restores, hnew])
      (.inl (hphase ▸ rfl)) rfl
  | pace t r n hphase _ _ =>
    exact h.within rfl (hphase ▸ rfl) rfl (hphase ▸ rfl) (.inl (hphase ▸ rfl)) rfl
  | paced t r n hphase =>
    exact h.within rfl (hphase ▸ rfl) rfl (hphase ▸ rfl) (.inl (hphase ▸ rfl)) rfl
  | back t r n hphase _ =>
    exact h.within rfl (hphase ▸ rfl) rfl (hphase ▸ rfl) (.inl (hphase ▸ rfl)) rfl
  | pass t r n hphase _ =>
    exact h.within rfl (hphase ▸ rfl) rfl (hphase ▸ rfl) (.inl (hphase ▸ rfl)) rfl
  | clear t r n hphase =>
    exact h.within rfl (hphase ▸ rfl) rfl (hphase ▸ rfl) (.inl (hphase ▸ rfl)) rfl
  | wrote t r n before write hphase =>
    exact h.within rfl (hphase ▸ rfl) rfl (hphase ▸ rfl) (.inr (hphase ▸ rfl)) rfl
  | again t r r' p hphase hrestores _ =>
    exact h.within rfl (hphase ▸ rfl) rfl (by rw [hphase]; exact hrestores)
      (.inl (hphase ▸ rfl)) rfl
  | finish t r hticket _ hidle hrestores =>
    exact h.within rfl hticket rfl hrestores (.inl hidle) rfl
  | store t r hphase =>
    refine h.same ?_ (.inl (hphase ▸ rfl)) rfl
    have hcurrent : currentPulses s = resultPulses t r := by
      unfold currentPulses
      rw [hphase]
      rfl
    rw [hcurrent]
    exact (append_nil _).trans (append_nil _)
  | unopened t r n p hphase hrow =>
    exact h.more rfl none (hphase ▸ rfl) rfl (by rw [hphase, ← hrow]; rfl)
      (by rw [hphase]; intro u hu; cases hu) (fun _ _ => rfl)
      (.inl ⟨rfl, hphase ▸ rfl, rfl⟩)
  | restore t r n before write p outcome hphase hrow =>
    refine h.more rfl (some outcome) (hphase ▸ rfl) rfl (by rw [hphase, ← hrow]; rfl)
      (by rw [hphase]; intro u hu; exact (Option.some.inj hu).symm) ?_ ?_
    · intro app happ
      dsimp only
      split_ifs
      · exact Function.update_of_ne happ ..
      · rfl
    · cases outcome with
      | gone => exact .inr (.inl rfl)
      | failed => exact .inr (.inr (.inl rfl))
      | written => exact .inr (.inr (.inr (Function.update_self ..)))
  | start t r n before target nowNs hphase =>
    intro app happ
    have hne : app ≠ t.job.app := Ne.symm (happ t rfl)
    have hpulses : storedPulses [.started t] ++ currentPulses { s with
        phase := .writing t r n before
        pulsePath := some t.job.app
        pulseStart := nowNs
        high := Function.update s.high t.job.app (some (.low target)) } = currentPulses s := by
      unfold currentPulses
      rw [hphase]
      rfl
    have hold := h app (by rw [hphase]; intro u hu; cases hu)
    rw [hpulses]
    unfold PutBack at hold ⊢
    dsimp only
    rwa [Function.update_of_ne hne]

theorem step_putBack (o : Options) (s : Worker A) (input : Input A)
    (h : AllPutBack (pulses ++ currentPulses s) s) :
    AllPutBack (pulses ++ (storedPulses [(workerStep o s input).1] ++
      currentPulses (workerStep o s input).2)) (workerStep o s input).2 := by
  cases input with
  | turn reading => exact turned_putBack (turn_turned o s reading) h
  | submit job =>
    change AllPutBack (pulses ++ (storedPulses [(submit s job).1] ++
      currentPulses (submit s job).2)) (submit s job).2
    unfold submit
    split_ifs
    · exact h.same rfl (.inr rfl) rfl
    · exact h.same rfl (.inr rfl) rfl
  | take =>
    change AllPutBack (pulses ++ (storedPulses [(take s).1] ++ currentPulses (take s).2)) (take s).2
    unfold take
    cases s.completed with
    | none => exact h.same rfl (.inr rfl) rfl
    | some result => exact h.same rfl (.inr rfl) rfl
  | cancel slow => exact h.same rfl (.inr rfl) rfl
  | setBrake on => exact h.same rfl (.inr rfl) rfl
  | slowPulse limitNs nowNs =>
    change AllPutBack (pulses ++ (storedPulses [(slowPulse s limitNs nowNs).1] ++
      currentPulses (slowPulse s limitNs nowNs).2)) (slowPulse s limitNs nowNs).2
    unfold slowPulse
    split_ifs
    · exact h.same rfl (.inr rfl) rfl
    · exact h.same rfl (.inr rfl) rfl
  | writeMax app =>
    intro other hother
    have hold := h other hother
    change PutBack (pulses ++ currentPulses s) _ other
    by_cases heq : other = app
    · exact .inr (.inl (heq ▸ Function.update_self ..))
    · unfold PutBack at hold ⊢
      change Function.update s.high app (some .max) other = none ∨
        Function.update s.high app (some .max) other = some .max ∨ _
      rwa [Function.update_of_ne heq]

theorem putBack_after (o : Options) (inputs : List (Input A)) :
    AllPutBack (pulsesOf o inputs) (workerAfter o inputs) := by
  induction inputs using List.reverseRecOn with
  | nil => exact fun _ _ => .inl rfl
  | append_singleton inputs input ih =>
    have hstep := step_putBack o (workerAfter o inputs) input ih
    have hpulses : pulsesOf o (inputs ++ [input]) =
        storedPulses (workerOutputs o inputs) ++
          (storedPulses [(workerStep o (workerAfter o inputs) input).1] ++
            currentPulses (workerStep o (workerAfter o inputs) input).2) := by
      unfold pulsesOf workerAfter workerOutputs
      rw [outputs_concat, after_concat, ← append_assoc]
      congr 1
      unfold storedPulses movesOf
      rw [flatMap_append, stored_append, flatMap_append]
    rw [hpulses]
    unfold workerAfter at hstep ⊢
    rw [after_concat]
    exact hstep

end

section

structure Protocol (o : Options) (inputs : List (Input A)) : Prop where
  distinct : ((accepted (movesOf (workerOutputs o inputs))).map Ticket.serial).Nodup
  results : (stored (movesOf (workerOutputs o inputs))).map Prod.fst <+:
    accepted (movesOf (workerOutputs o inputs))
  taken : collected (movesOf (workerOutputs o inputs)) <+:
    (stored (movesOf (workerOutputs o inputs))).map Prod.snd
  untaken : (accepted (movesOf (workerOutputs o inputs))).length ≤
    (collected (movesOf (workerOutputs o inputs))).length + 1
  completes : ∀ t ∈ accepted (movesOf (workerOutputs o inputs)),
    t ∉ (stored (movesOf (workerOutputs o inputs))).map Prod.fst →
    ∃ bound, ∀ later : List (Input A),
      bound + 3 * later.countP isFlag < later.countP isDue →
        ∃ r, .store t r ∈ movesOf (outputs (workerStep o) (workerAfter o inputs) later)
  cancelled : ∀ earlier slow later t, inputs = earlier ++ .cancel slow :: later →
    (workerAfter o earlier).phase.ticket? = some t →
    (startsOf (outputs (workerStep o) (workerAfter o (earlier ++ [.cancel slow])) later)).countP
        (fun u => u.serial = t.serial) ≤
      if (workerAfter o earlier).phase.passed.isSome then 1 else 0
  braked : ∀ earlier between later, inputs = earlier ++ .setBrake true :: (between ++ later) →
    .setBrake false ∉ between →
    (startsOf (outputs (workerStep o) (workerAfter o (earlier ++ [.setBrake true]))
        between)).length ≤
      if (workerAfter o earlier).phase.passed.isSome then 1 else 0
  putBack : (workerAfter o inputs).phase.inFlight = none →
    ∀ app, PutBack (pulsesOf o inputs) (workerAfter o inputs) app

omit [DecidableEq A] in
theorem mayStart_le (P : Ticket A → Bool) (s : Worker A) :
    mayStart P s ≤ if s.phase.passed.isSome then 1 else 0 := by
  unfold mayStart
  cases s.phase.passed with
  | none => exact Nat.le_refl _
  | some t => exact countP_le_length

theorem turned_accepts {due : Bool} {output : Output A} (hturn : Turned o s due output s') :
    accepted output.moves = [] := by
  cases hturn <;> rfl

theorem step_accepts (o : Options) (s : Worker A) (input : Input A) :
    (accepted (workerStep o s input).1.moves = [] ∧ (workerStep o s input).2.jobs = s.jobs) ∨
      ∃ job, accepted (workerStep o s input).1.moves = [⟨s.jobs, job⟩] ∧
        (workerStep o s input).2.jobs = s.jobs + 1 := by
  cases input with
  | turn reading =>
    have hturn := turn_turned o s reading
    exact .inl ⟨turned_accepts hturn, (turned_flags hturn).2.1⟩
  | submit job =>
    change (accepted (submit s job).1.moves = [] ∧ (submit s job).2.jobs = s.jobs) ∨ ∃ other,
      accepted (submit s job).1.moves = [⟨s.jobs, other⟩] ∧ (submit s job).2.jobs = s.jobs + 1
    unfold submit
    split_ifs
    · exact .inl ⟨rfl, rfl⟩
    · exact .inr ⟨job, rfl, rfl⟩
  | take =>
    left
    change accepted (take s).1.moves = [] ∧ (take s).2.jobs = s.jobs
    unfold take
    cases s.completed with
    | none => exact ⟨rfl, rfl⟩
    | some result => exact ⟨rfl, rfl⟩
  | cancel slow => exact .inl ⟨rfl, rfl⟩
  | setBrake on => exact .inl ⟨rfl, rfl⟩
  | slowPulse limitNs nowNs =>
    left
    change accepted (slowPulse s limitNs nowNs).1.moves = [] ∧
      (slowPulse s limitNs nowNs).2.jobs = s.jobs
    unfold slowPulse
    split_ifs
    · exact ⟨rfl, rfl⟩
    · exact ⟨rfl, rfl⟩
  | writeMax app => exact .inl ⟨rfl, rfl⟩

theorem accepted_serials (o : Options) (inputs : List (Input A)) :
    (accepted (movesOf (workerOutputs o inputs))).map Ticket.serial =
      List.range (workerAfter o inputs).jobs := by
  induction inputs using List.reverseRecOn with
  | nil => rfl
  | append_singleton inputs input ih =>
    unfold workerOutputs workerAfter at ih ⊢
    rw [outputs_concat, after_concat]
    unfold movesOf at ih ⊢
    rw [flatMap_append, flatMap_singleton, accepted_append, map_append, ih]
    rcases step_accepts o (after (workerStep o) {} inputs) input with
      ⟨hnone, hjobs⟩ | ⟨job, hone, hjobs⟩
    · rw [hnone, hjobs]
      exact append_nil _
    · rw [hone, hjobs, range_succ]
      rfl

variable {slot : Slot (Ticket A) PulseResult}

omit [DecidableEq A] in
theorem accepted_of_ticket {moves : List (Move (Ticket A) PulseResult)}
    (hcustody : Custody moves slot) (hholds : Holds s slot) {t : Ticket A}
    (hticket : s.phase.ticket? = some t) : t ∈ accepted moves ∧ s.pending = none := by
  have hstarted : ∀ u, u ∈ started moves → u ∈ accepted moves := fun u hu => by
    rw [hcustody.accepted]
    exact mem_append_left _ hu
  cases hholds with
  | free hphase _ _ =>
    rw [hphase] at hticket
    cases hticket
  | queued hphase _ _ =>
    rw [hphase] at hticket
    cases hticket
  | stored hphase _ _ =>
    rw [hphase] at hticket
    cases hticket
  | running hphase _ hpending _ =>
    obtain rfl := Option.some.inj (hphase.symm.trans hticket)
    refine ⟨hstarted _ ?_, hpending⟩
    rw [hcustody.started]
    exact mem_append_right _ (.head _)
  | finished hphase hpending _ =>
    rw [hphase] at hticket
    obtain rfl := Option.some.inj hticket
    refine ⟨hstarted _ ?_, hpending⟩
    rw [hcustody.started, hcustody.finished]
    exact mem_append_left _ (mem_append_right _ (.head _))

omit [DecidableEq A] in
theorem waits_of_accepted {moves : List (Move (Ticket A) PulseResult)}
    (hcustody : Custody moves slot) (hholds : Holds s slot) {t : Ticket A}
    (haccepted : t ∈ accepted moves) (hstored : t ∉ (stored moves).map Prod.fst) : Waits t s := by
  rw [hcustody.accepted, hcustody.started, hcustody.finished] at haccepted
  simp only [mem_append, hstored, false_or] at haccepted
  cases hholds with
  | free _ _ _ => simp [Slot.leaving, Slot.current, Slot.waiting] at haccepted
  | stored _ _ _ => simp [Slot.leaving, Slot.current, Slot.waiting] at haccepted
  | queued hphase hpending _ =>
    obtain rfl : t = _ := by simpa [Slot.leaving, Slot.current, Slot.waiting] using haccepted
    exact .inl ⟨hphase, hpending⟩
  | running hphase _ _ _ =>
    obtain rfl : t = _ := by simpa [Slot.leaving, Slot.current, Slot.waiting] using haccepted
    exact .inr hphase
  | finished hphase _ _ =>
    obtain rfl : t = _ := by simpa [Slot.leaving, Slot.current, Slot.waiting] using haccepted
    exact .inr (by rw [hphase]; rfl)

/-- Every schedule of the main loop and the thread keeps the protocol. -/
theorem worker_protocol (o : Options) (inputs : List (Input A)) : Protocol o inputs := by
  obtain ⟨slot, hpath, hholds⟩ := worker_path o inputs
  have hcustody := path_custody hpath
  constructor
  case distinct =>
    rw [accepted_serials]
    exact nodup_range
  case results =>
    rw [hcustody.accepted, hcustody.started, hcustody.finished, append_assoc,
      append_assoc]
    exact prefix_append ..
  case taken =>
    rw [hcustody.stored]
    exact prefix_append ..
  case untaken =>
    rw [hcustody.unpolled]
    split_ifs <;> omega
  case completes =>
    intro t haccepted hstored
    have hwaits := waits_of_accepted hcustody hholds haccepted hstored
    exact ⟨rank (workerAfter o inputs), fun later hmany => job_stored o hwaits later hmany⟩
  case cancelled =>
    intro earlier slow later t _ hticket
    obtain ⟨slot, hpath, hholds⟩ := worker_path o earlier
    obtain ⟨haccepted, hpending⟩ := accepted_of_ticket (path_custody hpath) hholds hticket
    have hserial : t.serial ∈ List.range (workerAfter o earlier).jobs := by
      rw [← accepted_serials]
      exact mem_map_of_mem haccepted
    have hafter : workerAfter o (earlier ++ [.cancel slow]) =
        { workerAfter o earlier with
          cancel := true
          slowCancel := (workerAfter o earlier).slowCancel || slow } := after_concat ..
    have hspent : Spent t.serial (workerAfter o (earlier ++ [.cancel slow])) := by
      rw [hafter]
      exact ⟨mem_range.1 hserial, fun u hu => (nomatch hu.symm.trans hpending),
        fun _ _ _ => rfl⟩
    have hmay := mayStart_le (fun u => decide (u.serial = t.serial))
      (workerAfter o (earlier ++ [.cancel slow]))
    rw [hafter] at hmay
    rw [hafter] at hspent ⊢
    exact Nat.le_trans (cancelled_starts o hspent later) hmay
  case braked =>
    intro earlier between later _ hbetween
    have hafter : workerAfter o (earlier ++ [.setBrake true]) =
        { workerAfter o earlier with brake := true } := after_concat ..
    rw [hafter]
    exact Nat.le_trans (braked_starts o rfl between hbetween) (mayStart_le _ _)
  case putBack =>
    intro hidle app
    exact putBack_after o inputs app fun t ht => nomatch ht.symm.trans hidle

def CancelStops (o : Options) (inputs : List (Input ℕ)) : Prop :=
  ∀ earlier slow later t, inputs = earlier ++ .cancel slow :: later →
    Waits t (workerAfter o earlier) →
    (startsOf (outputs (workerStep o) (workerAfter o (earlier ++ [.cancel slow])) later)).countP
      (fun u => u.serial = t.serial) = 0

/-- `memory.high` is at `max` or the last pulse is reported as not restored. -/
def RestoredOrReported (o : Options) (inputs : List (Input ℕ)) : Prop :=
  (workerAfter o inputs).phase.inFlight = none → ∀ app,
    (workerAfter o inputs).high app = none ∨ (workerAfter o inputs).high app = some .max ∨
      lastRestore app (pulsesOf o inputs) = some .failed

def wholeJob : PulseJob ℕ where
  app := 7
  want := 64 * MiB

def roomy (restore : RestoreOutcome) : Input ℕ :=
  .turn { current := some (512 * MiB), limit := some (256 * MiB), restore := restore }

/-- A cancel before the thread picks its job up is forgotten, one after the last check comes too
late for that pulse, and a cgroup that is gone keeps its low limit. -/
theorem cancel_forgotten :
    ¬ CancelStops {} ([.submit wholeJob, .cancel false] ++ List.replicate 7 (roomy .written)) ∧
      ¬ CancelStops {} ([.submit wholeJob] ++ List.replicate 5 (roomy .written) ++
        .cancel false :: List.replicate 2 (roomy .written)) ∧
      ¬ RestoredOrReported {} ([.submit wholeJob] ++ List.replicate 9 (roomy .gone)) := by
  refine ⟨?_, ?_, ?_⟩
  · intro h
    have hstarts := h [.submit wholeJob] false (List.replicate 7 (roomy .written)) ⟨0, wholeJob⟩ rfl
      (.inl ⟨rfl, rfl⟩)
    exact absurd hstarts (by decide +kernel)
  · intro h
    have hstarts := h ([.submit wholeJob] ++ List.replicate 5 (roomy .written)) false
      (List.replicate 2 (roomy .written)) ⟨0, wholeJob⟩ rfl (.inr rfl)
    exact absurd hstarts (by decide +kernel)
  · intro h
    have hrestored := h rfl 7
    exact absurd hrestored (by decide +kernel)

end

end Parp.PulseWorker
