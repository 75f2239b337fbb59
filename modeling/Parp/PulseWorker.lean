import Parp.Handoff
import Parp.MemshiftCore

set_option autoImplicit false

/-!
# The pulse worker

`PulseWorker`: one thread that lowers `memory.high` of an application and puts it back. A turn of
the thread is what it does between two reads of what the main loop shares with it. What a turn
reads from the system comes with the turn, the time of a pulse and the messages are left out.
-/
namespace Parp.PulseWorker

open Memshift Handoff

structure Options where
  minBatch : Bytes := 8 * MiB
  page : Bytes := 4096
  /-- Checked when the configuration is read. -/
  minBatch_le : MiB ≤ minBatch := by decide

structure PulseJob (A : Type) where
  app : A
  want : Bytes
  /-- 0 stands for `minBatch`. -/
  minPulse : Bytes := 0
  /-- The main loop passes 0 or `tmo_min_step_mb`. -/
  minPulse_le : minPulse = 0 ∨ MiB ≤ minPulse := by decide

structure Ticket (A : Type) where
  serial : ℕ
  job : PulseJob A

def minPulseOf {A : Type} (o : Options) (j : PulseJob A) : Bytes :=
  if j.minPulse = 0 then o.minBatch else j.minPulse

inductive PulseStatus
  | ok | openError | writeError | shortWrite | targetGone
  deriving DecidableEq

/-- What became of writing `max` back: `gone` is `ENOENT` or `ENODEV`. -/
inductive RestoreOutcome
  | written | gone | failed
  deriving DecidableEq

structure PulseRow where
  status : PulseStatus
  requested : Bytes
  before : Bytes
  after : Bytes
  /-- `none` where `memory.high` could not be opened. -/
  restore : Option RestoreOutcome
  deriving DecidableEq

/-- `PulseRow::restored`. -/
def PulseRow.restored (p : PulseRow) : Bool := p.restore != some .failed

inductive JobStatus
  | ok | cancelledProtected | cancelledReadError | cancelledSlow | cancelledBrake | cancelled
  | stopped | atFloor | floorReached | cancelledBrakePulse | restoreFailed | noProgress
  | failed (status : PulseStatus)
  deriving DecidableEq

structure PulseResult where
  status : JobStatus := .ok
  freed : Bytes := 0
  requested : Bytes := 0
  currentBefore : Bytes := 0
  currentAfter : Bytes := 0
  pulses : List PulseRow := []
  deriving DecidableEq

inductive High
  | low (target : Bytes) | max
  deriving DecidableEq

inductive WriteOutcome
  | written | short | error
  deriving DecidableEq

/-- The control file before a pulse: `blocked` is a pause, a protected application or the daemon's
own cgroup. -/
inductive ControlReading
  | clear | blocked | unreadable
  deriving DecidableEq

/-- What one turn of the thread may read; `none` is a read that throws. -/
structure Reading where
  control : ControlReading := .clear
  current : Option Bytes := some 0
  /-- `pulseLimit` of what `memory.stat` leaves above the floor. -/
  limit : Option Bytes := some 0
  /-- The pace allows the next pulse. -/
  due : Bool := true
  /-- The scope's stall since the previous pulse reached `brake_pulse_ms`. -/
  stalled : Bool := false
  opened : Bool := true
  nowNs : ℕ := 1
  write : WriteOutcome := .written
  restore : RestoreOutcome := .written
  /-- `memory.current` after the pulse, if the cgroup is still populated. -/
  after : Option Bytes := some 0

inductive Phase (A : Type)
  | idle
  | entered (t : Ticket A)
  | loopHead (t : Ticket A) (r : PulseResult)
  | pacing (t : Ticket A) (r : PulseResult) (n : Bytes)
  | lastCheck (t : Ticket A) (r : PulseResult) (n : Bytes)
  /-- The last check of the flags has passed. -/
  | checked (t : Ticket A) (r : PulseResult) (n : Bytes)
  | opening (t : Ticket A) (r : PulseResult) (n : Bytes)
  /-- `memory.high` is low and the write may still block. -/
  | writing (t : Ticket A) (r : PulseResult) (n before : Bytes)
  | restoring (t : Ticket A) (r : PulseResult) (n before : Bytes) (write : WriteOutcome)
  | measuring (t : Ticket A) (r : PulseResult) (p : PulseRow)
  | done (t : Ticket A) (r : PulseResult)

structure Worker (A : Type) where
  pending : Option (Ticket A) := none
  completed : Option (Ticket A × PulseResult) := none
  phase : Phase A := .idle
  cancel : Bool := false
  slowCancel : Bool := false
  brake : Bool := false
  /-- 0 while no write is in flight. -/
  pulseStart : ℕ := 0
  cancelSentFor : ℕ := 0
  pulsePath : Option A := none
  /-- What `memory.high` of an application was last written to. -/
  high : A → Option High := fun _ => none
  /-- How many jobs were accepted. -/
  jobs : ℕ := 0

inductive Input (A : Type)
  | submit (job : PulseJob A)
  | take
  | cancel (slow : Bool)
  | setBrake (on : Bool)
  | slowPulse (limitNs nowNs : ℕ)
  /-- The main loop writes `max`, to end a slow pulse or to a cgroup it sees first. -/
  | writeMax (app : A)
  | turn (reading : Reading)

inductive Output (A : Type)
  | moved (m : Move (Ticket A) PulseResult)
  | started (t : Ticket A)
  | refused
  | slow (app : Option A)
  | nothing

section

variable {A : Type} [DecidableEq A]

def pulseBytes (o : Options) (j : PulseJob A) (r : PulseResult) (limit : Bytes) : Bytes :=
  let n := min limit (sub j.want r.freed)
  n - n % o.page

def stoppedStatus (s : Worker A) (r : PulseResult) : JobStatus :=
  if s.slowCancel then .cancelledSlow
  else if s.brake then .cancelledBrake
  else if r.pulses = [] then .cancelled
  else .stopped

/-- What the handler of `execute` reports. -/
def readErrorStatus (r : PulseResult) : JobStatus :=
  if r.pulses = [] then .cancelledReadError else .failed .targetGone

def writeStatus : WriteOutcome → PulseStatus
  | .written => .ok
  | .short => .shortWrite
  | .error => .writeError

def measured (o : Options) (t : Ticket A) (r : PulseResult) (p : PulseRow)
    (after : Option Bytes) : Phase A :=
  let p := match after with
    | some current => { p with after := current }
    | none => { p with after := p.before, status := .targetGone }
  let r := match after with
    | some current => { r with currentAfter := current }
    | none => r
  let got := sub p.before p.after
  let r := { r with
    requested := add r.requested p.requested
    freed := add r.freed got
    pulses := r.pulses ++ [p] }
  if p.restored = false then .done t { r with status := .restoreFailed }
  else if p.status ≠ .ok then .done t { r with status := .failed p.status }
  else if got < minPulseOf o t.job / 2 then .done t { r with status := .noProgress }
  else .loopHead t r

def turn (o : Options) (s : Worker A) (reading : Reading) : Output A × Worker A :=
  match s.phase with
  | .idle =>
    match s.pending with
    | none => (.nothing, s)
    | some t =>
      (.moved (.start t),
        { s with pending := none, phase := .entered t, cancel := false, slowCancel := false })
  | .entered t =>
    match reading.control, reading.current with
    | .clear, some current =>
      (.nothing, { s with
        phase := .loopHead t { currentBefore := current, currentAfter := current } })
    | .blocked, _ =>
      (.moved (.finish t), { s with phase := .done t { status := .cancelledProtected } })
    | _, _ => (.moved (.finish t), { s with phase := .done t { status := .cancelledReadError } })
  | .loopHead t r =>
    if ¬ r.freed < t.job.want then (.moved (.finish t), { s with phase := .done t r })
    else if s.cancel ∨ s.brake then
      (.moved (.finish t), { s with phase := .done t { r with status := stoppedStatus s r } })
    else
      match reading.limit with
      | none =>
        (.moved (.finish t), { s with phase := .done t { r with status := readErrorStatus r } })
      | some limit =>
        let n := pulseBytes o t.job r limit
        if n < minPulseOf o t.job then
          (.moved (.finish t), { s with
            phase := .done t { r with
              status := if r.pulses = [] then .atFloor else .floorReached } })
        else (.nothing, { s with phase := .pacing t r n })
  | .pacing t r n =>
    if s.cancel ∨ s.brake ∨ reading.due then (.nothing, { s with phase := .lastCheck t r n })
    else (.nothing, s)
  | .lastCheck t r n =>
    if s.cancel ∨ s.brake then (.nothing, { s with phase := .loopHead t r })
    else (.nothing, { s with phase := .checked t r n })
  | .checked t r n =>
    if reading.control ≠ .clear then
      (.moved (.finish t), { s with phase := .done t { r with status := .cancelledProtected } })
    else if reading.stalled then
      (.moved (.finish t), { s with phase := .done t { r with status := .cancelledBrakePulse } })
    else (.nothing, { s with phase := .opening t r n })
  | .opening t r n =>
    match reading.current with
    | none =>
      (.moved (.finish t), { s with phase := .done t { r with status := readErrorStatus r } })
    | some before =>
      if reading.opened = false then
        (.nothing, { s with
          phase := .measuring t r
            { status := .openError, requested := n, before, after := 0, restore := none } })
      else
        let target := sub before n
        (.started t, { s with
          phase := .writing t r n before
          pulsePath := some t.job.app
          pulseStart := reading.nowNs
          high := Function.update s.high t.job.app (some (.low (target - target % o.page))) })
  | .writing t r n before =>
    (.nothing, { s with phase := .restoring t r n before reading.write, pulseStart := 0 })
  | .restoring t r n before write =>
    (.nothing, { s with
      phase := .measuring t r {
        status := writeStatus write
        requested := n
        before
        after := 0
        restore := some reading.restore }
      high :=
        if reading.restore = .written then Function.update s.high t.job.app (some .max)
        else s.high })
  | .measuring t r p =>
    let next := measured o t r p reading.after
    (match next with
      | .done t _ => .moved (.finish t)
      | _ => .nothing, { s with phase := next })
  | .done t r => (.moved (.store t r), { s with phase := .idle, completed := some (t, r) })

/-- `running_`. -/
def running (s : Worker A) : Bool :=
  match s.phase with
  | .idle => false
  | _ => true

def busy (s : Worker A) : Bool := running s || s.pending.isSome || s.completed.isSome

def submit (s : Worker A) (job : PulseJob A) : Output A × Worker A :=
  if busy s then (.refused, s)
  else
    let t : Ticket A := ⟨s.jobs, job⟩
    (.moved (.accept t), { s with pending := some t, jobs := s.jobs + 1 })

def take (s : Worker A) : Output A × Worker A :=
  match s.completed with
  | some (_, r) => (.moved (.collect r), { s with completed := none })
  | none => (.nothing, s)

def slowPulse (s : Worker A) (limitNs nowNs : ℕ) : Output A × Worker A :=
  if s.pulseStart = 0 ∨ nowNs - s.pulseStart < limitNs ∨ s.pulseStart = s.cancelSentFor then
    (.slow none, s)
  else (.slow s.pulsePath, { s with cancelSentFor := s.pulseStart })

def workerStep (o : Options) (s : Worker A) : Input A → Output A × Worker A
  | .submit job => submit s job
  | .take => take s
  | .cancel slow => (.nothing, { s with cancel := true, slowCancel := s.slowCancel || slow })
  | .setBrake on => (.nothing, { s with brake := on })
  | .slowPulse limitNs nowNs => slowPulse s limitNs nowNs
  | .writeMax app => (.nothing, { s with high := Function.update s.high app (some .max) })
  | .turn reading => turn o s reading

end

end Parp.PulseWorker
