import Mathlib.Data.List.Nodup
import Parp.Binary64
import Parp.TransitionRuns

set_option autoImplicit false

/-!
# The retry scheduler of the browser trial

`retry_core.hpp`, `retry_scheduler.hpp` and the controller's loop as far as it calls the scheduler:
one thread, to which reads and launches come back in any order.
-/
namespace Parp.RetryScheduler

open List

structure Journal where
  complete : Bool := false
  dailyComplete : Bool := false
  oneGeneration : Bool := false
  uidMatches : Bool := false
  peakRows : Bool := false
  dailyRows : Bool := false
  failed : Bool := false
  stopped : Bool := false
  pid : UInt64 := 0
  start : UInt64 := 0
  uid : UInt64 := 0

structure Authority where
  known : Bool := false
  absent : Bool := false
  identityMatches : Bool := false
  singlePidAndMember : Bool := false

structure Refusal where
  runtimeError : Bool := false
  only10108101 : Bool := false
  failedToStart : Bool := false
  outerTimeoutTransport : Bool := false

def explicitRefusal (j : Journal) (r : Refusal) : Bool :=
  r.runtimeError && r.only10108101 && r.failedToStart && !r.outerTimeoutTransport && !j.peakRows &&
    !j.dailyRows

def absence (prior : ℕ) (a : Authority) : ℕ :=
  if (a.known && a.absent) = true then if prior < 1000000 then prior + 1 else prior else 0

def eligible (j : Journal) (r : Refusal) (absent : ℕ) : Bool :=
  if explicitRefusal j r = true then decide (2 ≤ absent)
  else j.complete && j.oneGeneration && j.uidMatches &&
    (decide (2 ≤ absent) || (j.failed && j.stopped))

def fresh (now readStart : Float) : Bool := decide (readStart ≤ now) && decide (now - readStart ≤ 2.5)

def slotBegin (origin : Float) (slot : ℕ) : Float := origin + Float.ofNat slot * 30.0

def slotEnd (origin : Float) (slot : ℕ) : Float :=
  let last := origin + 330.0
  let «end» := origin + Float.ofNat (slot + 1) * 30.0
  if last < «end» then last else «end»

def deadline (now origin : Float) (slot : ℕ) : Bool :=
  decide (1 ≤ slot) && decide (slot ≤ 10) && decide (slotBegin origin slot ≤ now) &&
    decide (now < slotEnd origin slot)

def mayRead (now cooldown : Float) (targetRead targetLaunch : Bool) (active : ℕ) : Bool :=
  !targetRead && !targetLaunch && decide (active < 4) && decide (cooldown ≤ now)

inductive Decision
  | unknown | knownNotEligible | eligible | monitorOnly
  deriving DecidableEq

def decision (j : Journal) (r : Refusal) (absent : ℕ) (a : Authority) (now readStart : Float)
    (sameBoot sameGeneration : Bool) : Decision :=
  if (!sameBoot || !sameGeneration || !a.known || !fresh now readStart) = true then .unknown
  else if (!explicitRefusal j r && !(j.complete && j.oneGeneration && j.uidMatches)) = true then
    .unknown
  else if eligible j r absent = true then .eligible
  else .knownNotEligible

structure CompletedRead where
  generation : UInt64 := 0
  started : Float := -1
  completed : Float := -1
  known : Bool := false
  sameBoot : Bool := false
  journal : Journal := {}
  authority : Authority := {}

structure TargetState where
  generation : UInt64 := 0
  plannedUid : UInt64 := 0
  plannedPid : UInt64 := 0
  plannedStart : UInt64 := 0
  consecutiveAbsent : ℕ := 0
  readInFlight : Bool := false
  launchInFlight : Bool := false
  retryReadAfter : Float := 0
  latest : CompletedRead := {}
  refusal : Refusal := {}

structure SlotDecision where
  resolved : Bool := false
  submitted : Bool := false
  decision : Decision := .unknown
  generation : UInt64 := 0
  observedAt : Float := -1
  readStart : Float := -1

/-- `targets_` and `decisions_`, by target and by slot and target. -/
structure Scheduler where
  targets : ℕ → TargetState := fun _ => {}
  decisions : ℕ → ℕ → SlotDecision := fun _ _ => {}
  origin : Float := -1
  invalid : Bool := false

def Scheduler.setTarget (s : Scheduler) (n : ℕ) (t : TargetState) : Scheduler :=
  { s with targets := Function.update s.targets n t }

def Scheduler.setDecision (s : Scheduler) (slot n : ℕ) (d : SlotDecision) : Scheduler :=
  { s with decisions := Function.update s.decisions slot (Function.update (s.decisions slot) n d) }

def bindPlannedIdentity (s : Scheduler) (n : ℕ) (uid pid start : UInt64) : Scheduler :=
  if 16 ≤ n ∨ uid = 0 ∨ pid = 0 ∨ start = 0 then { s with invalid := true }
  else
    s.setTarget n
      { s.targets n with plannedUid := uid, plannedPid := pid, plannedStart := start }

def initialSubmission (s : Scheduler) (at' : Float) : Scheduler :=
  if at' < 0 then { s with invalid := true }
  else if s.origin < 0 ∨ at' < s.origin then { s with origin := at' }
  else s

def acceptRead (s : Scheduler) (n : ℕ) (read : CompletedRead) (now : Float) : Bool × Scheduler :=
  if read.generation ≠ (s.targets n).generation then (false, s)
  else
    let target := { s.targets n with readInFlight := false }
    if read.sameBoot = false then
      (false, { s.setTarget n { target with consecutiveAbsent := 0 } with invalid := true })
    else if read.known = false ∨ read.started < 0 ∨ read.completed < read.started ∨
        now < read.completed then
      (false, s.setTarget n
        { target with consecutiveAbsent := 0, latest := {}, retryReadAfter := now + 1.0 })
    else
      (true, s.setTarget n { target with
        latest := read
        consecutiveAbsent := absence target.consecutiveAbsent read.authority })

/-- The decision of `consider` before the slot is looked at. -/
def classification (s : Scheduler) (n : ℕ) (now : Float) : Decision :=
  let target := s.targets n
  let read := target.latest
  decision read.journal target.refusal target.consecutiveAbsent read.authority now read.started
    read.sameBoot (read.generation == target.generation && read.known)

def consider (s : Scheduler) (slot n : ℕ) (now : Float) : Decision × Scheduler :=
  if s.invalid = true ∨ s.origin < 0 ∨ deadline now s.origin slot = false then (.unknown, s)
  else
    let record := s.decisions slot n
    if record.submitted = true then (record.decision, s)
    else
      let read := (s.targets n).latest
      let current :=
        if slotBegin s.origin slot ≤ read.started then classification s n now else .unknown
      -- a later stale or unknown read does not erase a decision of this slot
      if current ≠ .unknown ∧ (record.decision ≠ .eligible ∨ current = .eligible) then
        (current, s.setDecision slot n { record with
          decision := current
          resolved := true
          observedAt := now
          readStart := read.started
          generation := (s.targets n).generation })
      else (current, s)

def monitorOnly (s : Scheduler) (slot n : ℕ) (now : Float) : Bool × Scheduler :=
  if slot < 1 ∨ 10 < slot ∨ 16 ≤ n ∨ s.invalid = true ∨ s.origin < 0 ∨
      deadline now s.origin slot = false then (false, s)
  else
    let target := s.targets n
    let read := target.latest
    if read.known = false ∨ read.sameBoot = false ∨ read.generation ≠ target.generation ∨
        fresh now read.started = false ∨ read.started < slotBegin s.origin slot ∨
        read.authority.known = false ∨ read.journal.dailyComplete = false ∨
        read.journal.oneGeneration = false ∨ read.journal.uidMatches = false ∨
        read.journal.uid ≠ target.plannedUid ∨ read.journal.pid ≠ target.plannedPid ∨
        read.journal.start ≠ target.plannedStart then (false, s)
    else if read.authority.absent = false ∧
        (read.authority.identityMatches = false ∨ read.authority.singlePidAndMember = false) then
      (false, s)
    else
      (true, s.setDecision slot n { s.decisions slot n with
        resolved := true
        submitted := false
        decision := .monitorOnly
        generation := target.generation
        observedAt := now
        readStart := read.started })

def beginLaunch (s : Scheduler) (slot n : ℕ) (now : Float) : Bool × Scheduler :=
  let target := s.targets n
  if now < target.retryReadAfter ∨ (s.decisions slot n).submitted = true ∨
      target.launchInFlight = true ∨ target.readInFlight = true then (false, s)
  else
    let (current, s) := consider s slot n now
    if current ≠ .eligible then (false, s)
    else (true, s.setTarget n { s.targets n with launchInFlight := true })

def actualSubmission (s : Scheduler) (slot n : ℕ) (capturedGeneration : UInt64) (gateAt : Float)
    (sameBoot : Bool) : Bool × Scheduler :=
  let target := s.targets n
  if sameBoot = false then (false, { s with invalid := true })
  else if (s.decisions slot n).submitted = true ∨ capturedGeneration ≠ target.generation ∨
      target.launchInFlight = false ∨ deadline gateAt s.origin slot = false then (false, s)
  else
    (true, (s.setDecision slot n { s.decisions slot n with
        submitted := true, resolved := true, decision := .eligible }).setTarget n { target with
      generation := target.generation + 1
      consecutiveAbsent := 0
      latest := {}
      refusal := {}
      launchInFlight := false })

def nextReadFrom (s : Scheduler) (now : Float) (targetCount active : ℕ) : ℕ → ℕ → Option ℕ × ℕ
  | 0, cursor => (none, cursor)
  | count + 1, cursor =>
    let target := s.targets cursor
    let next := (cursor + 1) % targetCount
    if mayRead now target.retryReadAfter target.readInFlight target.launchInFlight active = true
    then (some cursor, next)
    else nextReadFrom s now targetCount active count next

def nextReadTarget (s : Scheduler) (now : Float) (targetCount active cursor : ℕ) :
    Option ℕ × ℕ × Scheduler :=
  if targetCount = 0 ∨ 16 < targetCount then (none, cursor, s)
  else
    match nextReadFrom s now targetCount active targetCount cursor with
    | (none, cursor) => (none, cursor, s)
    | (some n, cursor) => (some n, cursor, s.setTarget n { s.targets n with readInFlight := true })

def covered (s : Scheduler) (targetCount : ℕ) : Bool :=
  !s.invalid && !(decide (targetCount = 0) || decide (16 < targetCount)) &&
    (List.range 10).all fun slot => (List.range targetCount).all fun n =>
      let record := s.decisions (slot + 1) n
      record.resolved && !(decide (record.decision = .eligible) && !record.submitted)

structure Target where
  uid : UInt64
  pid : UInt64
  start : UInt64
  retryTarget : Bool

structure Plan where
  targets : List Target
  fixedBackgroundRoles : Bool

def maySubmit (plan : Plan) (index : ℕ) : Bool :=
  match plan.targets[index]? with
  | none => false
  | some target => !plan.fixedBackgroundRoles || target.retryTarget

def monitorOnlyRole (plan : Plan) (index : ℕ) : Bool :=
  match plan.targets[index]? with
  | none => false
  | some target => plan.fixedBackgroundRoles && !target.retryTarget

structure ReadJob where
  target : ℕ
  generation : UInt64

structure LaunchJob where
  target : ℕ
  slot : ℕ
  generation : UInt64

structure Controller where
  scheduler : Scheduler := {}
  readJobs : List ReadJob := []
  launchJobs : List LaunchJob := []
  readCursor : ℕ := 0

structure Initial where
  /-- The gate passed, the child was reaped and ran. -/
  ran : Bool
  execGateAt : Float
  refusal : Refusal
  broken : Bool

def initialTarget (plan : Plan) (commands : ℕ → Initial) (s : Scheduler) (n : ℕ) : Scheduler :=
  if maySubmit plan n = false then s
  else if (commands n).ran = false then { s with invalid := true }
  else
    let s := initialSubmission s (commands n).execGateAt
    let s := s.setTarget n { s.targets n with refusal := (commands n).refusal }
    if (commands n).broken = true then { s with invalid := true } else s

def boundTargets (plan : Plan) : Scheduler :=
  (List.range plan.targets.length).foldl (fun s n =>
    match plan.targets[n]? with
    | none => s
    | some target => bindPlannedIdentity s n target.uid target.pid target.start) {}

def initialController (plan : Plan) (commands : ℕ → Initial) : Controller where
  scheduler := (List.range plan.targets.length).foldl (initialTarget plan commands)
    (boundTargets plan)

structure LaunchResult where
  /-- The presubmit check held, the gate passed, the child was reaped and ran. -/
  ran : Bool
  execGateAt : Float
  refusal : Refusal
  broken : Bool

inductive Input
  /-- A read comes back; `read` is what it decodes to, less the generation. -/
  | readReady (index : ℕ) (read : CompletedRead) (unreaped : Bool) (now : Float)
  | launchReady (index : ℕ) (result : LaunchResult) (now : Float)
  /-- The loop's visit of a target of a slot. -/
  | visit (slot n : ℕ) (now : Float) (healthy : Bool)
  | dispatch (now : Float) (healthy : Bool)
  | invalidate

inductive Event
  | quiet
  | read (n : ℕ) (read : CompletedRead) (accepted : Bool)
  | begun (slot n : ℕ) (now : Float)
  | submitted (slot n : ℕ)

def Scheduler.invalidateIf (s : Scheduler) (b : Bool) : Scheduler :=
  { s with invalid := s.invalid || b }

def readReady (c : Controller) (index : ℕ) (read : CompletedRead) (unreaped : Bool) (now : Float) :
    Event × Controller :=
  match c.readJobs[index]? with
  | none => (.quiet, c)
  | some job =>
    let read := { read with generation := job.generation }
    let (accepted, s) := acceptRead (c.scheduler.invalidateIf unreaped) job.target read now
    (.read job.target read accepted,
      { c with scheduler := s, readJobs := c.readJobs.eraseIdx index })

def launchReady (c : Controller) (index : ℕ) (result : LaunchResult) (now : Float) :
    Event × Controller :=
  match c.launchJobs[index]? with
  | none => (.quiet, c)
  | some job =>
    let n := job.target
    let (submitted, s) :=
      if result.ran = true then
        actualSubmission c.scheduler job.slot n job.generation result.execGateAt true
      else (false, c.scheduler)
    let s :=
      if submitted = true then s.setTarget n { s.targets n with refusal := result.refusal }
      else s.setTarget n
        { s.targets n with launchInFlight := false, retryReadAfter := now + 1.0 }
    (if submitted = true then .submitted job.slot n else .quiet,
      { c with
        scheduler := s.invalidateIf result.broken
        launchJobs := c.launchJobs.eraseIdx index })

def visit (plan : Plan) (c : Controller) (slot n : ℕ) (now : Float) (healthy : Bool) :
    Event × Controller :=
  if slot < 1 ∨ 10 < slot ∨ plan.targets.length ≤ n then (.quiet, c)
  else if monitorOnlyRole plan n = true then
    (.quiet, { c with scheduler := (monitorOnly c.scheduler slot n now).2 })
  else
    let s := (consider c.scheduler slot n now).2
    if 8 ≤ c.launchJobs.length then (.quiet, { c with scheduler := s })
    else
      match beginLaunch s slot n now with
      | (false, s) => (.quiet, { c with scheduler := s })
      | (true, s) =>
        if healthy = false then (.begun slot n now, { c with scheduler := s.invalidateIf true })
        else
          (.begun slot n now, { c with
            scheduler := s
            launchJobs := c.launchJobs ++ [⟨n, slot, (s.targets n).generation⟩] })

def dispatch (plan : Plan) (c : Controller) (now : Float) (healthy : Bool) : Controller :=
  if 4 ≤ c.readJobs.length then c
  else
    match nextReadTarget c.scheduler now plan.targets.length c.readJobs.length c.readCursor with
    | (none, cursor, s) => { c with scheduler := s, readCursor := cursor }
    | (some n, cursor, s) =>
      if healthy = false then
        { c with scheduler := s.invalidateIf true, readCursor := cursor }
      else
        { c with
          scheduler := s
          readCursor := cursor
          readJobs := c.readJobs ++ [⟨n, (s.targets n).generation⟩] }

def controllerStep (plan : Plan) (c : Controller) : Input → Event × Controller
  | .readReady index read unreaped now => readReady c index read unreaped now
  | .launchReady index result now => launchReady c index result now
  | .visit slot n now healthy => visit plan c slot n now healthy
  | .dispatch now healthy => (.quiet, dispatch plan c now healthy)
  | .invalidate => (.quiet, { c with scheduler := c.scheduler.invalidateIf true })

/-!
# What the scheduler knows of a target
-/

theorem not_lt_of_le {a b : Float} (h : a ≤ b) : ¬b < a := by
  rw [Binary64.le_iff] at h
  rw [Binary64.lt_iff, Binary64.compare_swap]
  intro hlt
  cases hcompare : a.toModel.unpack.compare b.toModel.unpack with
  | none =>
    rw [hcompare] at hlt
    cases hlt
  | some o =>
    rw [hcompare] at h hlt
    cases o with
    | lt => cases hlt
    | eq => cases hlt
    | gt => cases h

variable {j : Journal} {r : Refusal} {absent : ℕ} {a : Authority} {now readStart : Float}
  {sameBoot sameGeneration : Bool}

theorem decision_known
    (h : decision j r absent a now readStart sameBoot sameGeneration ≠ .unknown) :
    sameBoot = true ∧ sameGeneration = true ∧ a.known = true ∧ fresh now readStart = true := by
  unfold decision at h
  split_ifs at h with hunknown <;> simp_all

theorem decision_eligible
    (h : decision j r absent a now readStart sameBoot sameGeneration = .eligible) :
    eligible j r absent = true := by
  unfold decision at h
  split_ifs at h with _ _ heligible
  exact heligible

theorem eligible_cases (h : eligible j r absent = true) :
    2 ≤ absent ∨ (j.failed = true ∧ j.stopped = true) := by
  unfold eligible at h
  split_ifs at h
  · exact .inl (of_decide_eq_true h)
  · simp only [Bool.and_eq_true, Bool.or_eq_true, decide_eq_true_eq] at h
    exact h.2

section

def slotsOf (n : ℕ) (trace : List Event) : List ℕ :=
  trace.filterMap fun
    | .submitted slot m => if m = n then some slot else none
    | _ => none

def recentStep (n : ℕ) (reads : List (CompletedRead × Bool)) : Event → List (CompletedRead × Bool)
  | .read m read accepted => if m = n then (read, accepted) :: reads else reads
  | .submitted _ m => if m = n then [] else reads
  | _ => reads

/-- The reads of a target that came back since its last submission, the newest first, with whether
they were accepted. -/
def recent (n : ℕ) (trace : List Event) : List (CompletedRead × Bool) :=
  trace.foldl (recentStep n) []

def showsAbsent (read : CompletedRead × Bool) : Bool :=
  read.2 && (read.1.authority.known && read.1.authority.absent)

def streak (n : ℕ) (trace : List Event) : ℕ := ((recent n trace).takeWhile showsAbsent).length

def Event.Spares (n : ℕ) : Event → Prop
  | .read m _ _ => m ≠ n
  | .submitted _ m => m ≠ n
  | .quiet | .begun _ _ _ => True

variable {n : ℕ} {trace : List Event} {e : Event}

theorem recent_concat (n : ℕ) (trace : List Event) (e : Event) :
    recent n (trace ++ [e]) = recentStep n (recent n trace) e := by
  simp [recent]

theorem slotsOf_spared (h : e.Spares n) : slotsOf n (trace ++ [e]) = slotsOf n trace := by
  unfold slotsOf
  rw [filterMap_append]
  cases e with
  | quiet => simp
  | begun slot m now => simp
  | read m read accepted => simp
  | submitted slot m =>
    have hne : m ≠ n := h
    simp [hne]

theorem recent_spared (h : e.Spares n) : recent n (trace ++ [e]) = recent n trace := by
  rw [recent_concat]
  cases e with
  | quiet => rfl
  | begun slot m now => rfl
  | read m read accepted => exact if_neg h
  | submitted slot m => exact if_neg h

theorem recent_read (read : CompletedRead) (accepted : Bool) :
    recent n (trace ++ [.read n read accepted]) = (read, accepted) :: recent n trace := by
  rw [recent_concat]
  exact if_pos rfl

theorem slotsOf_read (m : ℕ) (read : CompletedRead) (accepted : Bool) :
    slotsOf n (trace ++ [.read m read accepted]) = slotsOf n trace := by
  simp [slotsOf]

theorem slotsOf_submitted (slot : ℕ) :
    slotsOf n (trace ++ [.submitted slot n]) = slotsOf n trace ++ [slot] := by
  simp [slotsOf]

end

section

/-- A decision was made in its slot, on a read that had started in the slot. -/
structure Observed (origin : Float) (slot : ℕ) (d : SlotDecision) : Prop where
  deadline : deadline d.observedAt origin slot = true
  fresh : fresh d.observedAt d.readStart = true
  inside : ¬d.readStart < slotBegin origin slot
  decided : d.decision ≠ .unknown

/-- The state of a target and its decisions claim what the record shows. -/
structure TargetOk (origin : Float) (invalid : Bool) (n : ℕ) (trace : List Event) (t : TargetState)
    (d : ℕ → SlotDecision) : Prop where
  exclusive : ¬(t.readInFlight = true ∧ t.launchInFlight = true)
  generation : t.generation = UInt64.ofNat (slotsOf n trace).length
  once : (slotsOf n trace).Nodup
  range : ∀ slot ∈ slotsOf n trace, 1 ≤ slot ∧ slot ≤ 10
  submitted : ∀ slot, slot ∈ slotsOf n trace ↔ (d slot).submitted = true
  latest : invalid = false → t.latest.known = true → ∃ rest, recent n trace = (t.latest, true) :: rest
  absent : t.consecutiveAbsent ≤ streak n trace
  observed : ∀ slot, (d slot).resolved = true → Observed origin slot (d slot)

variable {origin : Float} {invalid : Bool} {n : ℕ} {trace : List Event} {e : Event}
variable {t t' : TargetState} {d : ℕ → SlotDecision} (h : TargetOk origin invalid n trace t d)

include h

theorem TargetOk.spared (hspared : e.Spares n) :
    TargetOk origin invalid n (trace ++ [e]) t d where
  exclusive := h.exclusive
  generation := by rw [slotsOf_spared hspared, h.generation]
  once := by rw [slotsOf_spared hspared]; exact h.once
  range := by rw [slotsOf_spared hspared]; exact h.range
  submitted := by rw [slotsOf_spared hspared]; exact h.submitted
  latest := by rw [recent_spared hspared]; exact h.latest
  absent := by unfold streak; rw [recent_spared hspared]; exact h.absent
  observed := h.observed

theorem TargetOk.length_le : (slotsOf n trace).length ≤ 10 := by
  have hsub : slotsOf n trace ⊆ List.range' 1 10 := by
    intro slot hmem
    have hrange := h.range slot hmem
    rw [mem_range'_1]
    omega
  have hle := List.Nodup.length_le_of_subset h.once hsub
  rwa [length_range'] at hle

theorem TargetOk.generation_toNat : t.generation.toNat = (slotsOf n trace).length := by
  have hle := h.length_le
  rw [h.generation, UInt64.toNat_ofNat']
  exact Nat.mod_eq_of_lt (by omega)

theorem TargetOk.flags (hexclusive : ¬(t'.readInFlight = true ∧ t'.launchInFlight = true))
    (hgeneration : t'.generation = t.generation) (hlatest : t'.latest = t.latest)
    (habsent : t'.consecutiveAbsent = t.consecutiveAbsent) :
    TargetOk origin invalid n trace t' d where
  exclusive := hexclusive
  generation := hgeneration.trans h.generation
  once := h.once
  range := h.range
  submitted := h.submitted
  latest := by rw [hlatest]; exact h.latest
  absent := habsent ▸ h.absent
  observed := h.observed

theorem TargetOk.decide {slot : ℕ} {record : SlotDecision}
    (hsubmitted : record.submitted = (d slot).submitted) (hobserved : Observed origin slot record) :
    TargetOk origin invalid n trace t (Function.update d slot record) where
  exclusive := h.exclusive
  generation := h.generation
  once := h.once
  range := h.range
  submitted := by
    intro other
    rw [h.submitted]
    by_cases heq : other = slot
    · rw [heq, Function.update_self, hsubmitted]
    · rw [Function.update_of_ne heq]
  latest := h.latest
  absent := h.absent
  observed := by
    intro other hother
    by_cases heq : other = slot
    · rw [heq, Function.update_self]
      exact hobserved
    · rw [Function.update_of_ne heq] at hother ⊢
      exact h.observed other hother

theorem TargetOk.rejected (read : CompletedRead)
    (hexclusive : ¬(t'.readInFlight = true ∧ t'.launchInFlight = true))
    (hgeneration : t'.generation = t.generation)
    (hlatest : invalid = true ∨ t'.latest.known = false) (habsent : t'.consecutiveAbsent = 0) :
    TargetOk origin invalid n (trace ++ [.read n read false]) t' d where
  exclusive := hexclusive
  generation := by rw [slotsOf_read, hgeneration, h.generation]
  once := by rw [slotsOf_read]; exact h.once
  range := by rw [slotsOf_read]; exact h.range
  submitted := by rw [slotsOf_read]; exact h.submitted
  latest := by
    intro hvalid hknown
    rcases hlatest with hinvalid | hunknown
    · exact absurd (hinvalid.symm.trans hvalid) (by decide)
    · exact absurd (hunknown.symm.trans hknown) (by decide)
  absent := habsent ▸ Nat.zero_le _
  observed := h.observed

theorem TargetOk.accepted (read : CompletedRead)
    (hexclusive : ¬(t'.readInFlight = true ∧ t'.launchInFlight = true))
    (hgeneration : t'.generation = t.generation) (hlatest : t'.latest = read)
    (habsent : t'.consecutiveAbsent = absence t.consecutiveAbsent read.authority) :
    TargetOk origin invalid n (trace ++ [.read n read true]) t' d where
  exclusive := hexclusive
  generation := by rw [slotsOf_read, hgeneration, h.generation]
  once := by rw [slotsOf_read]; exact h.once
  range := by rw [slotsOf_read]; exact h.range
  submitted := by rw [slotsOf_read]; exact h.submitted
  latest := by
    intro _ _
    exact ⟨recent n trace, by rw [recent_read, hlatest]⟩
  absent := by
    have hprior := h.absent
    rw [habsent]
    unfold streak at hprior ⊢
    rw [recent_read]
    unfold absence
    by_cases hshown : (read.authority.known && read.authority.absent) = true
    · have htaken : showsAbsent (read, true) = true := hshown
      rw [if_pos hshown, takeWhile_cons_of_pos htaken, length_cons]
      split_ifs <;> omega
    · rw [if_neg hshown]
      exact Nat.zero_le _
  observed := h.observed

theorem TargetOk.launched {slot : ℕ} {record : SlotDecision} (hnew : (d slot).submitted = false)
    (hslot : 1 ≤ slot ∧ slot ≤ 10) (hobserved : Observed origin slot record)
    (hsubmitted : record.submitted = true)
    (hexclusive : ¬(t'.readInFlight = true ∧ t'.launchInFlight = true))
    (hgeneration : t'.generation = t.generation + 1) (hlatest : t'.latest.known = false)
    (habsent : t'.consecutiveAbsent = 0) :
    TargetOk origin invalid n (trace ++ [.submitted slot n]) t' (Function.update d slot record) := by
  have hfresh : slot ∉ slotsOf n trace := by
    rw [h.submitted, hnew]
    exact Bool.false_ne_true
  refine ⟨hexclusive, ?_, ?_, ?_, ?_, ?_, habsent ▸ Nat.zero_le _, ?_⟩
  · rw [slotsOf_submitted, hgeneration, h.generation, length_append, length_singleton,
      UInt64.ofNat_add]
    rfl
  · rw [slotsOf_submitted]
    exact nodup_append.2 ⟨h.once, nodup_singleton slot, by
      rintro a ha b hb rfl
      rw [mem_singleton] at hb
      exact hfresh (hb ▸ ha)⟩
  · intro other hmem
    rw [slotsOf_submitted, mem_append, mem_singleton] at hmem
    rcases hmem with hmem | rfl
    · exact h.range other hmem
    · exact hslot
  · intro other
    rw [slotsOf_submitted, mem_append, mem_singleton, h.submitted]
    by_cases heq : other = slot
    · rw [heq, Function.update_self, hsubmitted]
      simp
    · rw [Function.update_of_ne heq]
      simp [heq]
  · intro _ hknown
    rw [hlatest] at hknown
    cases hknown
  · intro other hother
    by_cases heq : other = slot
    · rw [heq, Function.update_self]
      exact hobserved
    · rw [Function.update_of_ne heq] at hother ⊢
      exact h.observed other hother

end

end Parp.RetryScheduler
