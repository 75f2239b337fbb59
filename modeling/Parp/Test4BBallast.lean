import Mathlib.Algebra.BigOperators.Fin
import Parp.Test4BReclaim

set_option autoImplicit false

/-!
# Ballast workers and their coordinator

`parp_memory_ballast` as the state machine of its commands and `Test4BBallastCoordinator` over it.
What becomes of a command on its way, and what a worker finds when it executes one, come with the
call. The CSV rows are left out.
-/
namespace Parp.Test4BBallast

open AppReclaim List
open Test4BReclaim (BallastState BallastStatus)

inductive WorkerState
  | created | foregroundAllocating | foregroundActive | backgroundIdle | reaccessing | verifying
  | stopped | error
  deriving DecidableEq

/-- `state_name`. -/
def stateName : WorkerState → BallastState
  | .created => .created
  | .foregroundAllocating => .foregroundAllocating
  | .foregroundActive => .foregroundActive
  | .backgroundIdle => .backgroundIdle
  | .reaccessing => .reaccessing
  | .verifying => .verifying
  | .stopped => .stopped
  | .error => .error

/-- `struct ballast`, the fields a command reads. -/
structure Worker where
  state : WorkerState := .created
  allocated : Bool := false
  backgroundSinceNs : ℕ := 0
  deriving DecidableEq

inductive Command
  | enterForeground | allocate | enterBackground | reaccessHot | reaccessCold | verify | stop
  deriving DecidableEq

/-- `allocate`: whether it answers OK. `works` says that every mapping and the file were made. -/
def allocate (b : Worker) (works : Bool) : Bool × Worker :=
  if b.state ≠ .foregroundActive then (false, b)
  else if b.allocated = true then (false, b)
  else if works = true then (true, { b with allocated := true })
  else (false, { b with state := .error })

/-- `check_region`, twice for a reaccess, and `verify_all`: `works` says that every checksum is the
expected one. -/
def checkRegions (b : Worker) (works : Bool) : Bool × Worker :=
  if b.allocated = false ∨ b.state ≠ .foregroundActive then (false, b)
  else if works = true then (true, b)
  else (false, { b with state := .error })

def command (b : Worker) (c : Command) (works : Bool) (nowNs : ℕ) : Bool × Worker :=
  match c with
  | .enterForeground =>
    if b.state = .error ∨ b.state = .stopped then (false, b)
    else (true, { b with state := .foregroundActive, backgroundSinceNs := 0 })
  | .allocate => allocate b works
  | .enterBackground =>
    if b.allocated = false ∨ b.state ≠ .foregroundActive then (false, b)
    else (true, { b with state := .backgroundIdle, backgroundSinceNs := nowNs })
  | .reaccessHot => checkRegions b works
  | .reaccessCold => checkRegions b works
  | .verify => checkRegions b works
  | .stop => (true, { b with state := .stopped })

structure BallastSpec where
  anonColdBytes : ℕ := 32 * 1024 * 1024
  anonHotBytes : ℕ := 8 * 1024 * 1024
  fileColdBytes : ℕ := 48 * 1024 * 1024
  fileHotBytes : ℕ := 8 * 1024 * 1024

def BallastSpec.totalBytes (spec : BallastSpec) : ℕ :=
  spec.anonColdBytes + spec.anonHotBytes + spec.fileColdBytes + spec.fileHotBytes

structure Config (App : Type) where
  apps : Finset App
  workerSpecs : App → List BallastSpec
  hasWorker : ∀ app ∈ apps, workerSpecs app ≠ []
  maxGlobalBytes : ℕ := 3 * 96 * 1024 * 1024
  externalPreallocated : Bool := false

section

variable {App : Type} (cfg : Config App)

def workerCount (app : App) : ℕ := (cfg.workerSpecs app).length

def appTotalBytes (app : App) : ℕ := ((cfg.workerSpecs app).map BallastSpec.totalBytes).sum

def appColdBytes (app : App) : ℕ :=
  ((cfg.workerSpecs app).map fun spec => spec.anonColdBytes + spec.fileColdBytes).sum

end

/-- A command executed and answered, executed with its answer lost, or not executed. -/
inductive Fate
  | answered | lost | dropped
  deriving DecidableEq

structure Round where
  fate : ℕ → Fate := fun _ => .answered
  works : ℕ → Bool := fun _ => true
  nowNs : ℕ → ℕ := fun _ => 0

/-- What a `refresh` reads besides the workers' states; a path is `none` where it is empty. -/
structure StatusRound where
  answered : ℕ → Bool := fun _ => true
  pid : ℕ → ℕ := fun _ => 1
  cgroup : ℕ → Option PurePath
  expected : Option PurePath

structure Status extends BallastStatus where
  pid : ℕ := 0

/-- A command with the worker it was sent to; `success` says that it was executed and accepted. -/
structure Sent (App : Type) where
  app : App
  worker : ℕ
  command : Command
  success : Bool
  deriving DecidableEq

/-- The coordinator's fields, the workers, and the commands sent in the current call. -/
structure System (App : Type) where
  currentForeground : Option App := none
  allocated : Finset App := ∅
  reclaimed : Finset App := ∅
  statuses : App → Status := fun _ => {}
  workers : App → ℕ → Worker := fun _ _ => {}
  sent : List (Sent App) := []

inductive Reason
  | foregroundUnknown | appNotForeground | appbindMissing | cgroupDisappeared | ballastWrongCgroup
  | alreadyAllocated | appbindMismatch | globalBudgetExceeded
  deriving DecidableEq

inductive EventType
  | appOpen | appSwitch | appMinimize | appClose | other
  deriving DecidableEq

/-- A direct X11 event; a name is `none` where it is empty. -/
structure Event (App : Type) where
  eventType : EventType
  oldApp : Option App := none
  app : Option App := none

/-- What becomes of the commands of one call: `checked` is the refresh before an allocation. -/
structure Readings where
  background : Round := {}
  backgroundChecked : StatusRound
  backgroundStatus : StatusRound
  reaccess : Command → Round := fun _ => {}
  reaccessStatus : StatusRound
  foreground : Round := {}
  foregroundStatus : StatusRound
  checked : StatusRound
  enter : Round := {}
  allocate : Round := {}
  allocatedStatus : StatusRound

inductive Call (App : Type)
  | observeEvent (event : Event App) (foreground : Option App) (bindReady : List App)
      (readings : Readings)
  | tick (foreground : Option App) (bindReady : List App) (readings : Readings)
  | markReclaimed (app : App)

section

variable {App : Type} [DecidableEq App] (cfg : Config App)

def executed (r : Round) (c : Command) (i : ℕ) (b : Worker) : Bool × Worker :=
  if r.fate i = .dropped then (false, b) else command b c (r.works i) (r.nowNs i)

/-- `_worker_command`: every worker is sent the command, whatever the others answer. -/
def workerCommand (s : System App) (app : App) (c : Command) (r : Round) : Bool × System App :=
  (decide (∀ i < workerCount cfg app,
      r.fate i = .answered ∧ (executed r c i (s.workers app i)).1 = true),
    { s with
      workers := Function.update s.workers app fun i =>
        if i < workerCount cfg app then (executed r c i (s.workers app i)).2
        else s.workers app i
      sent := s.sent ++ (List.range (workerCount cfg app)).map fun i =>
        ⟨app, i, c, (executed r c i (s.workers app i)).1⟩ })

def agreed {β : Type} [DecidableEq β] : List β → Option β
  | [] => none
  | x :: rest => if ∀ y ∈ rest, y = x then some x else none

/-- What `refresh` makes of the answers to `STATUS`. -/
def statusOf (s : System App) (app : App) (r : StatusRound) : Status :=
  let indices := List.range (workerCount cfg app)
  let pid := fun i => if r.answered i then r.pid i else 0
  let actual := fun i => if pid i = 0 then none else r.cgroup i
  let state := agreed ((indices.filter fun i => r.answered i).map fun i =>
    stateName (s.workers app i).state)
  { state := if ∀ i ∈ indices, r.answered i = true then state.getD .partly else .unavailable
    allocated := decide (indices ≠ [] ∧
      ∀ i ∈ indices, r.answered i = true ∧ (s.workers app i).allocated = true)
    backgroundSinceNs := ((indices.map fun i =>
      if r.answered i then (s.workers app i).backgroundSinceNs else 0).foldl max 0 : ℕ)
    expectedCgroup := r.expected
    actualCgroup := (agreed (indices.map actual)).join
    coldBytes := appColdBytes cfg app
    pid := ((indices.map pid).find? fun n => 0 < n).getD 0 }

/-- `refresh`; an application without workers keeps its status. -/
def refresh (s : System App) (app : App) (r : StatusRound) : System App :=
  if workerCount cfg app = 0 then s
  else { s with statuses := Function.update s.statuses app (statusOf cfg s app r) }

def allocationReason (s : System App) (app : App) (bindReady : List App) (status : Status) :
    Option Reason :=
  if s.currentForeground = none then some .foregroundUnknown
  else if s.currentForeground ≠ some app then some .appNotForeground
  else if app ∉ bindReady then some .appbindMissing
  else if status.pid = 0 ∨ status.expectedCgroup = none then some .cgroupDisappeared
  else if status.actualCgroup ≠ status.expectedCgroup then some .ballastWrongCgroup
  else if app ∈ s.allocated ∨ status.allocated = true then some .alreadyAllocated
  else if appTotalBytes cfg app = 0 then some .appbindMismatch
  else if cfg.maxGlobalBytes <
      (∑ key ∈ s.allocated, appTotalBytes cfg key) + appTotalBytes cfg app then
    some .globalBudgetExceeded
  else none

def enterForeground (s : System App) (app : App) (readings : Readings) : System App :=
  if app ∉ cfg.apps ∨ app ∉ s.allocated then s
  else
    let (_, s) := workerCommand cfg s app .enterForeground readings.foreground
    refresh cfg s app readings.foregroundStatus

def foregroundAllocateIfSafe (s : System App) (app : App) (bindReady : List App)
    (readings : Readings) : System App :=
  if app ∉ cfg.apps then s
  else
    let s := refresh cfg s app readings.checked
    let status := s.statuses app
    if cfg.externalPreallocated = true then
      if status.allocated = true then
        enterForeground cfg { s with allocated := insert app s.allocated } app readings
      else s
    else
      match allocationReason cfg s app bindReady status with
      | some _ => s
      | none =>
        let (entered, s) := workerCommand cfg s app .enterForeground readings.enter
        if entered = true then
          let (allocated, s) := workerCommand cfg s app .allocate readings.allocate
          if allocated = true then
            refresh cfg { s with allocated := insert app s.allocated } app
              readings.allocatedStatus
          else s
        else s

def enterBackground (s : System App) (app : App) (readings : Readings) : System App :=
  if app ∉ cfg.apps then s
  else
    let s :=
      if app ∉ s.allocated ∧ cfg.externalPreallocated = true then
        let s := refresh cfg s app readings.backgroundChecked
        if (s.statuses app).allocated = true then { s with allocated := insert app s.allocated }
        else s
      else s
    if app ∉ s.allocated then s
    else
      let (_, s) := workerCommand cfg s app .enterBackground readings.background
      refresh cfg s app readings.backgroundStatus

/-- The loop of `_reaccess`, which stops at the first command that fails. -/
def reaccessLoop (app : App) (rounds : Command → Round) : List Command → System App → System App
  | [], s => s
  | c :: rest, s =>
    let (ok, s) := workerCommand cfg s app c (rounds c)
    if ok = true then reaccessLoop app rounds rest s else s

def reaccess (s : System App) (app : App) (readings : Readings) : System App :=
  refresh cfg (reaccessLoop cfg app readings.reaccess
    [.enterForeground, .reaccessHot, .reaccessCold, .verify] s) app readings.reaccessStatus

def foregroundEntered (s : System App) (current : App) (bindReady : List App)
    (readings : Readings) : System App :=
  let s :=
    if current ∈ s.reclaimed then
      let s := reaccess cfg s current readings
      { s with reclaimed := s.reclaimed.erase current }
    else s
  if current ∈ s.allocated then enterForeground cfg s current readings
  else foregroundAllocateIfSafe cfg s current bindReady readings

/-- `_enter_background` of a name that may be empty. -/
def enterBackgroundOf (s : System App) (app : Option App) (readings : Readings) : System App :=
  match app with
  | some app => enterBackground cfg s app readings
  | none => s

def known (foreground : Option App) : Option App := foreground.filter fun app => app ∈ cfg.apps

def switched (s : System App) (oldApp foreground : Option App) (bindReady : List App)
    (readings : Readings) : System App :=
  let s := { s with currentForeground := known cfg foreground }
  let s := if oldApp ≠ s.currentForeground then enterBackgroundOf cfg s oldApp readings else s
  match s.currentForeground with
  | some current => foregroundEntered cfg s current bindReady readings
  | none => s

def observeEvent (s : System App) (event : Event App) (foreground : Option App)
    (bindReady : List App) (readings : Readings) : System App :=
  match event.eventType with
  | .appOpen => switched cfg s event.oldApp foreground bindReady readings
  | .appSwitch => switched cfg s event.oldApp foreground bindReady readings
  | .appMinimize => enterBackgroundOf cfg s event.app readings
  | .appClose => enterBackgroundOf cfg s event.app readings
  | .other => s

def tick (s : System App) (foreground : Option App) (bindReady : List App) (readings : Readings) :
    System App :=
  let s := { s with currentForeground := known cfg foreground }
  match s.currentForeground with
  | some current =>
    if current ∉ s.allocated then foregroundAllocateIfSafe cfg s current bindReady readings else s
  | none => s

def markReclaimed (s : System App) (app : App) : System App :=
  if app ∈ s.allocated then { s with reclaimed := insert app s.reclaimed } else s

def handle (s : System App) : Call App → System App
  | .observeEvent event foreground bindReady readings =>
    observeEvent cfg s event foreground bindReady readings
  | .tick foreground bindReady readings => tick cfg s foreground bindReady readings
  | .markReclaimed app => markReclaimed s app

def coordinatorStep (s : System App) (call : Call App) : List (Sent App) × System App :=
  let s := handle cfg { s with sent := [] } call
  (s.sent, s)

def heldBytes (s : System App) : ℕ :=
  ∑ app ∈ cfg.apps, ∑ i ∈ Finset.range (workerCount cfg app),
    if (s.workers app i).allocated then
      ((cfg.workerSpecs app).map BallastSpec.totalBytes).getD i 0
    else 0

end

/-!
# Steps of the ballast coordinator
-/

open TransitionRuns

theorem command_flag {c : Command} (h : c ≠ .allocate) (b : Worker) (works : Bool) (nowNs : ℕ) :
    (command b c works nowNs).2.allocated = b.allocated := by
  cases c with
  | allocate => exact absurd rfl h
  | enterForeground =>
    simp only [command]
    split_ifs <;> rfl
  | enterBackground =>
    simp only [command]
    split_ifs <;> rfl
  | reaccessHot =>
    simp only [command, checkRegions]
    split_ifs <;> rfl
  | reaccessCold =>
    simp only [command, checkRegions]
    split_ifs <;> rfl
  | verify =>
    simp only [command, checkRegions]
    split_ifs <;> rfl
  | stop => rfl

theorem allocate_flag (b : Worker) (works : Bool) :
    ((allocate b works).1 = true ∧ b.allocated = false ∧ (allocate b works).2.allocated = true) ∨
      ((allocate b works).1 = false ∧ (allocate b works).2.allocated = b.allocated) := by
  unfold allocate
  split_ifs with hstate hflag hworks
  · exact .inr ⟨rfl, rfl⟩
  · exact .inr ⟨rfl, rfl⟩
  · exact .inl ⟨rfl, by simpa using hflag, rfl⟩
  · exact .inr ⟨rfl, rfl⟩

theorem allocate_active {b : Worker} (hstate : b.state = .foregroundActive)
    (hflag : b.allocated = false) (works : Bool) : (allocate b works).1 = works := by
  unfold allocate
  rw [if_neg (not_not.2 hstate), hflag]
  cases works <;> rfl

theorem enterForeground_active {b : Worker} {works : Bool} {nowNs : ℕ}
    (h : (command b .enterForeground works nowNs).1 = true) :
    (command b .enterForeground works nowNs).2.state = .foregroundActive := by
  unfold command at h ⊢
  dsimp only at h ⊢
  split_ifs at h ⊢
  rfl

variable {App : Type} [DecidableEq App] {cfg : Config App}

section

variable {s s' s'' : System App}

structure Quiet (s s' : System App) : Prop where
  allocated : s'.allocated = s.allocated
  flags : ∀ app i, (s'.workers app i).allocated = (s.workers app i).allocated
  foreground : s'.currentForeground = s.currentForeground
  sent : ∃ more, s'.sent = s.sent ++ more ∧ ∀ e ∈ more, e.command ≠ .allocate

omit [DecidableEq App] in
theorem Quiet.refl (s : System App) : Quiet s s :=
  ⟨rfl, fun _ _ => rfl, rfl, [], (append_nil _).symm, by simp⟩

omit [DecidableEq App] in
theorem Quiet.trans (h : Quiet s s') (h' : Quiet s' s'') : Quiet s s'' := by
  obtain ⟨more, hmore, hother⟩ := h.sent
  obtain ⟨more', hmore', hother'⟩ := h'.sent
  refine ⟨h'.allocated.trans h.allocated, fun app i => (h'.flags app i).trans (h.flags app i),
    h'.foreground.trans h.foreground, more ++ more', ?_, ?_⟩
  · rw [hmore', hmore, append_assoc]
  · intro e he
    rcases mem_append.1 he with hold | hnew
    · exact hother e hold
    · exact hother' e hnew

variable (cfg) in
theorem workerCommand_quiet (s : System App) (app : App) {c : Command} (h : c ≠ .allocate)
    (r : Round) : Quiet s (workerCommand cfg s app c r).2 := by
  refine ⟨rfl, ?_, rfl, _, rfl, ?_⟩
  · intro other i
    change (Function.update s.workers app _ other i).allocated = _
    by_cases heq : other = app
    · rw [heq, Function.update_self]
      split_ifs
      · unfold executed
        split_ifs
        · rfl
        · exact command_flag h ..
      · rfl
    · rw [Function.update_of_ne heq]
  · intro e he
    obtain ⟨i, -, rfl⟩ := mem_map.1 he
    exact h

variable (cfg) in
theorem refresh_quiet (s : System App) (app : App) (r : StatusRound) :
    Quiet s (refresh cfg s app r) := by
  unfold refresh
  split_ifs
  · exact .refl s
  · exact ⟨rfl, fun _ _ => rfl, rfl, [], (append_nil _).symm, by simp⟩

theorem enterForeground_quiet (s : System App) (app : App) (readings : Readings) :
    Quiet s (enterForeground cfg s app readings) := by
  unfold enterForeground
  split_ifs
  · exact .refl s
  · exact (workerCommand_quiet cfg s app (by decide) _).trans (refresh_quiet cfg _ app _)

theorem enterBackground_quiet (hevent : cfg.externalPreallocated = false) (s : System App)
    (app : App) (readings : Readings) : Quiet s (enterBackground cfg s app readings) := by
  unfold enterBackground
  have hmode : ¬ (app ∉ s.allocated ∧ cfg.externalPreallocated = true) := by simp [hevent]
  rw [if_neg hmode]
  dsimp only
  have hsent := (workerCommand_quiet cfg s app (c := .enterBackground) (by decide)
    readings.background).trans (refresh_quiet cfg _ app readings.backgroundStatus)
  by_cases hknown : app ∉ cfg.apps
  · rw [if_pos hknown]
    exact .refl s
  · rw [if_neg hknown]
    by_cases hfree : app ∉ s.allocated
    · rw [if_pos hfree]
      exact .refl s
    · rw [if_neg hfree]
      exact hsent

theorem enterBackgroundOf_quiet (hevent : cfg.externalPreallocated = false) (s : System App)
    (app : Option App) (readings : Readings) :
    Quiet s (enterBackgroundOf cfg s app readings) := by
  cases app with
  | none => exact .refl s
  | some app => exact enterBackground_quiet hevent s app readings

theorem reaccessLoop_quiet (app : App) (rounds : Command → Round) {commands : List Command}
    (h : .allocate ∉ commands) (s : System App) :
    Quiet s (reaccessLoop cfg app rounds commands s) := by
  induction commands generalizing s with
  | nil => exact .refl s
  | cons c rest ih =>
    obtain ⟨hne, hrest⟩ := not_or.1 (mt mem_cons.2 h)
    have hquiet := workerCommand_quiet cfg s app (Ne.symm hne) (rounds c)
    unfold reaccessLoop
    dsimp only
    split_ifs
    · exact hquiet.trans (ih hrest _)
    · exact hquiet

variable (cfg) in
theorem reaccess_quiet (s : System App) (app : App) (readings : Readings) :
    Quiet s (reaccess cfg s app readings) :=
  (reaccessLoop_quiet app _ (by decide) s).trans (refresh_quiet cfg _ app _)

end

/-- The application of a call is the foreground's, bound, and its workers are where they belong. -/
structure InPlace (cfg : Config App) (app : App) (foreground : Option App) (bindReady : List App)
    (readings : Readings) : Prop where
  known : app ∈ cfg.apps
  foreground : foreground = some app
  bound : app ∈ bindReady
  cgroup : ∃ path, readings.checked.expected = some path ∧ ∀ i < workerCount cfg app,
    readings.checked.answered i = true ∧ readings.checked.cgroup i = some path

/-- `s` is left for `s'` by a round of `ALLOCATE` to `app` that starts in `before`. -/
structure Allocates (cfg : Config App) (s : System App) (app : App) (readings : Readings)
    (before s' : System App) : Prop where
  quiet : Quiet s before
  free : app ∉ s.allocated
  budget : (∑ key ∈ s.allocated, appTotalBytes cfg key) + appTotalBytes cfg app ≤
    cfg.maxGlobalBytes
  active : ∀ i < workerCount cfg app, (before.workers app i).state = .foregroundActive
  after : Quiet (if (workerCommand cfg before app .allocate readings.allocate).1 = true then
      { (workerCommand cfg before app .allocate readings.allocate).2 with
        allocated := insert app before.allocated }
    else (workerCommand cfg before app .allocate readings.allocate).2) s'

theorem agreed_eq {β : Type} [DecidableEq β] {readings : List β} {x : β}
    (h : agreed readings = some x) : ∀ y ∈ readings, y = x := by
  cases readings with
  | nil => cases h
  | cons first rest =>
    simp only [agreed, Option.ite_none_right_eq_some, Option.some.injEq] at h
    obtain ⟨hall, rfl⟩ := h
    intro y hy
    rcases mem_cons.1 hy with heq | hmem
    · exact heq
    · exact hall y hmem

omit [DecidableEq App] in
theorem actualCgroup_eq {s : System App} {app : App} {r : StatusRound} {path : PurePath}
    (h : (statusOf cfg s app r).actualCgroup = some path) :
    ∀ i < workerCount cfg app, r.answered i = true ∧ r.cgroup i = some path := by
  have hagreed := agreed_eq (Option.join_eq_some_iff.1 h)
  intro i hi
  have hsame := hagreed _ (mem_map.2 ⟨i, mem_range.2 hi, rfl⟩)
  cases hanswered : r.answered i with
  | false => simp [hanswered] at hsame
  | true =>
    dsimp only at hsame
    split_ifs at hsame
    exact ⟨rfl, hsame⟩

theorem allocationReason_none {s : System App} {app : App} {bindReady : List App}
    {status : Status} (h : allocationReason cfg s app bindReady status = none) :
    s.currentForeground = some app ∧ app ∈ bindReady ∧
      (∃ path, status.expectedCgroup = some path ∧ status.actualCgroup = some path) ∧
      app ∉ s.allocated ∧
      (∑ key ∈ s.allocated, appTotalBytes cfg key) + appTotalBytes cfg app ≤
        cfg.maxGlobalBytes := by
  unfold allocationReason at h
  split_ifs at h with hunknown hother hbound hgone hwrong halready hempty hbudget
  obtain ⟨path, hpath⟩ := Option.ne_none_iff_exists'.1 (not_or.1 hgone).2
  exact ⟨not_not.1 hother, hbound, ⟨path, hpath, (not_not.1 hwrong).trans hpath⟩,
    (not_or.1 halready).1, not_lt.1 hbudget⟩

theorem workerCommand_active {s : System App} {app : App} {r : Round}
    {answer : Bool × System App}
    (hanswer : workerCommand cfg s app .enterForeground r = answer) (hok : answer.1 = true) :
    ∀ i < workerCount cfg app, (answer.2.workers app i).state = .foregroundActive := by
  subst hanswer
  intro i hi
  obtain ⟨hfate, hdone⟩ := of_decide_eq_true hok i hi
  change (Function.update s.workers app _ app i).state = _
  rw [Function.update_self, if_pos hi]
  unfold executed at hdone ⊢
  have hsent : ¬ r.fate i = .dropped := by simp [hfate]
  rw [if_neg hsent] at hdone ⊢
  exact enterForeground_active hdone

theorem foregroundAllocateIfSafe_cases (hevent : cfg.externalPreallocated = false)
    (s : System App) (app : App) (bindReady : List App) (readings : Readings) :
    Quiet s (foregroundAllocateIfSafe cfg s app bindReady readings) ∨
      (InPlace cfg app s.currentForeground bindReady readings ∧
        ∃ before, Allocates cfg s app readings before
          (foregroundAllocateIfSafe cfg s app bindReady readings)) := by
  unfold foregroundAllocateIfSafe
  by_cases hknown : app ∉ cfg.apps
  · rw [if_pos hknown]
    exact .inl (.refl s)
  rw [if_neg hknown]
  dsimp only
  have hmode : ¬ cfg.externalPreallocated = true := by simp [hevent]
  rw [if_neg hmode]
  have hchecked := refresh_quiet cfg s app readings.checked
  cases hreason : allocationReason cfg (refresh cfg s app readings.checked) app bindReady
      ((refresh cfg s app readings.checked).statuses app) with
  | some reason => exact .inl hchecked
  | none =>
    obtain ⟨hforeground, hbound, ⟨path, hexpected, hactual⟩, hfree, hbudget⟩ :=
      allocationReason_none hreason
    have hcount : workerCount cfg app ≠ 0 :=
      length_pos_iff.2 (cfg.hasWorker app (not_not.1 hknown)) |>.ne'
    have hstatus : (refresh cfg s app readings.checked).statuses app =
        statusOf cfg s app readings.checked := by
      unfold refresh
      rw [if_neg hcount]
      exact Function.update_self ..
    rw [hstatus] at hexpected hactual
    have hplace : InPlace cfg app s.currentForeground bindReady readings :=
      ⟨not_not.1 hknown, hchecked.foreground ▸ hforeground, hbound, path, hexpected,
        actualCgroup_eq hactual⟩
    have hentered := workerCommand_quiet cfg (refresh cfg s app readings.checked) app
      (c := .enterForeground) (by decide) readings.enter
    dsimp only
    generalize hbefore : workerCommand cfg (refresh cfg s app readings.checked) app
      .enterForeground readings.enter = answer at hentered ⊢
    by_cases hok : answer.1 = true
    · rw [if_pos hok]
      refine .inr ⟨hplace, answer.2, hchecked.trans hentered, ?_, ?_, ?_, ?_⟩
      · exact hchecked.allocated ▸ hfree
      · exact hchecked.allocated ▸ hbudget
      · exact workerCommand_active hbefore hok
      · split_ifs
        · exact refresh_quiet ..
        · exact .refl _
    · rw [if_neg hok]
      exact .inl (hchecked.trans hentered)

end Parp.Test4BBallast
