import Parp.MemshiftCore
import Parp.RollingWindow

set_option autoImplicit false

/-!
# The memory.reclaim daemon

The loop of `memshiftd` in apply mode and its `Worker`. A tick of the loop is one step: whether the
worker is busy is only changed by the loop's own `take` and `submit`. The worker goes on between the
ticks, one step for each of its readings. What is sampled comes with the step; log rows are left out.
-/
namespace Parp.ReclaimDaemon

open Memshift

/-- `std::min`. -/
def lesser (a b : Bytes) : Bytes := if b < a then b else a

/-- `std::max`. -/
def greater (a b : Bytes) : Bytes := if a < b then b else a

def lesserReal (a b : Float) : Float := if b < a then b else a

def greaterReal (a b : Float) : Float := if a < b then b else a

def clamp (x low high : Float) : Float := if x < low then low else if high < x then high else x

def amount (x : Float) : Bytes :=
  if ¬ x.isFinite ∨ x ≤ 0 then 0
  else if Unlimited.toFloat ≤ x then Unlimited
  else x.toUInt64

def delta (now old : Bytes) : Bytes := if old ≤ now then now - old else 0

def stallPercent (a b : Bytes) (dt : Float) : Float :=
  if dt ≤ 0 then 0 else lesserReal 100 ((delta a b).toFloat / (dt * 10000))

structure Options where
  /-- A control file is configured. -/
  control : Bool := true
  allowAnon : Bool := true
  requirePSI : Bool := true
  swappiness : ℤ := -1
  horizonSec : Float := 5
  warmupSec : Float := 30
  cooldownSec : Float := 3
  backoffSec : Float := 30
  alpha : Float := 0.2
  anonWeight : Float := 0.5
  keepRatio : Float := 0.7
  episodeFraction : Float := 0.2
  maxDeclineMBps : Float := 256
  growthGuardMBps : Float := 8
  refaultGuardMBps : Float := 1
  majorGuardPS : Float := 64
  ioSomeLimit : Float := 5
  memoryFullLimit : Float := 2
  appSomeLimit : Float := 2
  reserve : Bytes := 1024 * MiB
  readyFree : Bytes := 256 * MiB
  hysteresis : Bytes := 128 * MiB
  minBatch : Bytes := 8 * MiB
  batch : Bytes := 64 * MiB
  perMinute : Bytes := 1024 * MiB
  appPerMinute : Bytes := 256 * MiB
  swapReserve : Bytes := 256 * MiB
  maxBoost : Bytes := 4096 * MiB
  boostCapFraction : Float := 0.5

structure App where
  name : String
  reclaim : Bool := false
  keep : Bytes := 256 * MiB

structure PSI where
  valid : Bool := false
  some10 : Float := 0
  full10 : Float := 0
  someTotal : Bytes := 0
  fullTotal : Bytes := 0

structure System where
  time : Float := 0
  total : Bytes := 0
  available : Bytes := 0
  free : Bytes := 0
  swapFree : Bytes := 0
  mem : PSI := {}
  io : PSI := {}

structure Sample where
  valid : Bool := false
  device : Bytes := 0
  inode : Bytes := 0
  current : Bytes := 0
  inactiveAnon : Bytes := 0
  inactiveFile : Bytes := 0
  dirty : Bytes := 0
  writeback : Bytes := 0
  swapRoom : Bytes := 0
  low : Bytes := 0
  min : Bytes := 0
  pgfault : Bytes := 0
  major : Bytes := 0
  refault : Bytes := 0
  pgsteal : Bytes := 0
  populated : Bool := false
  psi : PSI := {}

structure Forecast where
  predictedAvailable : Bytes := 0
  declineBytesPS : Float := 0

/-- `EWMAPredictor`. -/
structure Predictor where
  last : Option System := none
  rate : Float := 0

structure Control where
  paused : Bool := false
  protectedApps : List String := []
  boost : Bytes := 0
  «until» : Bytes := 0

structure RollingLimit where
  history : List (Float × Bytes) := []

structure Features where
  now : Sample
  prev : Sample
  age : Float := 0
  growthBytesPS : Float := 0
  refaultBytesPS : Float := 0
  majorPS : Float := 0
  protectedNow : Bool := true
  episodeRoom : Bytes := 0
  minuteRoom : Bytes := 0
  adaptive : Float := 1

structure Budget where
  bytes : Bytes := 0
  coldHint : Bytes := 0
  reason : String

structure Job where
  index : ℕ
  app : App
  features : Features
  requested : Bytes
  expectedDrop : Bytes
  serial : ℕ

structure State where
  previous : Sample := {}
  firstSeen : Float := 0
  lastTime : Float := 0
  nextReclaim : Float := 0
  refaultUntil : Float := 0
  lastPenalty : Float := -1e9
  lastRecovery : Float := 0
  growth : Float := 0
  refaultRate : Float := 0
  majorRate : Float := 0
  adaptive : Float := 1
  episodeCap : Bytes := 0
  episodeSpent : Bytes := 0
  disabled : Bool := false
  rate : RollingLimit := {}

/-- What `open` and `write` may leave in `errno`. -/
inductive Errno
  | EINVAL | EACCES | EPERM | EROFS | EOPNOTSUPP | EAGAIN | EIO | other
  deriving DecidableEq

structure Result where
  index : ℕ
  status : String := ""
  planned : Bytes := 0
  written : Bytes := 0
  err : Option Errno := none
  writeMs : Float := 0
  before : Sample := {}
  after : Sample := {}

def RollingLimit.past (now time : Float) : Bool := decide (60 ≤ now - time)

/-- The charges that `used` keeps, and their saturated sum. -/
def RollingLimit.used (r : RollingLimit) (now : Float) : Bytes × RollingLimit :=
  let history := RollingWindow.live RollingLimit.past now r.history
  (history.foldl (fun sum e => add sum e.2) 0, ⟨history⟩)

def RollingLimit.room (r : RollingLimit) (now : Float) (cap : Bytes) : Bytes × RollingLimit :=
  let (used, r) := r.used now
  (sub cap used, r)

def RollingLimit.charge (r : RollingLimit) (now : Float) (v : Bytes) : RollingLimit :=
  ⟨r.history ++ [(now, v)]⟩

def Predictor.update (p : Predictor) (s : System) (horizon maxRate : Float) :
    Forecast × Predictor :=
  let rate := match p.last with
    | none => p.rate
    | some last =>
      if last.time < s.time then
        let dt := s.time - last.time
        let instant := clamp ((last.available.toFloat - s.available.toFloat) / dt) (-maxRate) maxRate
        let beta := 1 - Float.exp (-dt / 2)
        (1 - beta) * p.rate + beta * instant
      else p.rate
  let decline := clamp rate 0 maxRate
  let futureDrop := lesser (amount (decline * horizon)) (s.total / 4)
  (⟨sub s.available futureDrop, decline⟩, ⟨some s, rate⟩)

def donorBudget (o : Options) (app : App) (f : Features) (s : System)
    (deficit globalRoom pageSize : Bytes) : Budget :=
  let no (why : String) : Budget := ⟨0, 0, why⟩
  if app.reclaim = false ∨ f.protectedNow = true then no "protected"
  else if f.now.valid = false ∨ f.prev.valid = false then no "need_two_samples"
  else if f.now.populated = false then no "empty_cgroup"
  else if f.age < o.warmupSec then no "startup_grace"
  else if o.growthGuardMBps * MiB.toFloat < f.growthBytesPS then no "growing_app"
  else if o.refaultGuardMBps * MiB.toFloat < f.refaultBytesPS ∨ o.majorGuardPS < f.majorPS then
    no "refault_guard"
  else if f.now.psi.valid = true ∧ o.appSomeLimit ≤ f.now.psi.some10 then no "app_psi_guard"
  else
    let fileHint := sub (lesser f.now.inactiveFile f.prev.inactiveFile)
      (add f.now.dirty f.now.writeback)
    let anonHint :=
      if o.allowAnon = true ∧ o.swappiness ≠ 0 then
        lesser (lesser (lesser f.now.inactiveAnon f.prev.inactiveAnon) f.now.swapRoom)
          (sub s.swapFree o.swapReserve)
      else 0
    let cold := add fileHint (amount (o.anonWeight * anonHint.toFloat))
    let keep := greater (greater (greater app.keep f.now.min) f.now.low)
      (amount (o.keepRatio * f.now.current.toFloat))
    let q := lesser (lesser (lesser (lesser (lesser (lesser
      (amount (o.alpha * f.adaptive * cold.toFloat)) (sub f.now.current keep)) f.episodeRoom)
      f.minuteRoom) globalRoom) deficit) o.batch
    if pageSize = 0 then no "invalid_page_size"
    else
      let q := q - q % pageSize
      if q < o.minBatch then ⟨0, cold, "budget_too_small"⟩ else ⟨q, cold, "eligible"⟩

def boostCap (o : Options) (total : Bytes) : Bytes :=
  let capTotal := amount (o.boostCapFraction * total.toFloat)
  sub capTotal (lesser o.reserve capTotal)

def deficit (o : Options) (s : System) (f : Forecast) (boost : Bytes) : Bytes :=
  greater (sub (add o.reserve boost) f.predictedAvailable) (sub o.readyFree s.free)

def pressureBlock (o : Options) (s : System) ( recentIO recentMemFull : Float) : String :=
  if o.requirePSI = true ∧ (s.mem.valid = false ∨ s.io.valid = false) then "psi_unavailable"
  else if o.ioSomeLimit ≤ greaterReal s.io.some10 recentIO then "io_pressure"
  else if o.memoryFullLimit ≤ greaterReal s.mem.full10 recentMemFull then "memory_full_pressure"
  else ""

/-- `file` is what the control file says, `none` where it cannot be read. -/
def controlNow (o : Options) (file : Option Control) (unixSeconds : Bytes) : Option Control :=
  if o.control = false then some {}
  else
    match file with
    | none => none
    | some c =>
      if o.maxBoost < c.boost then none
      else if c.boost ≠ 0 ∧ add unixSeconds 300 < c.«until» then none
      else some c

structure Attempt where
  job : Job
  control : Control
  ownTarget : Bool
  unixSeconds : Bytes
  before : Sample
  machine : System
  bytes : Bytes

inductive Phase
  | idle
  | taken (job : Job)
  /-- What the control file and the check for the daemon itself said. -/
  | allowed (job : Job) (control : Control) (ownTarget : Bool)
  | judged (a : Attempt)
  | written (job : Job) (r : Result)
  | done (job : Job) (r : Result)

structure Worker where
  pending : Option Job := none
  completed : Option Result := none
  phase : Phase := .idle

/-- What a turn of the worker reads; `none` is a reading that throws. -/
structure Reading where
  control : Option Control := some {}
  unixControl : Bytes := 0
  ownTarget : Option Bool := some false
  sample : Option Sample := none
  swapRoom : Option Bytes := none
  machine : Option System := none
  unixSeconds : Bytes := 0
  /-- The `errno` of an `open` that fails. -/
  openError : Option Errno := none
  /-- The `errno` of a `write` that fails. -/
  writeError : Option Errno := none
  /-- The write takes the whole command. -/
  whole : Bool := true
  writeMs : Float := 0

def Phase.running : Phase → Bool
  | .idle => false
  | _ => true

def Worker.busy (w : Worker) : Bool := w.phase.running || w.pending.isSome || w.completed.isSome

def Worker.submit (w : Worker) (job : Job) : Option Worker :=
  if w.busy then none else some { w with pending := some job }

def Worker.take (w : Worker) : Option Result × Worker :=
  (w.completed, { w with completed := none })

def recheck (o : Options) (page : Bytes) (job : Job) (control : Control) (unixSeconds : Bytes)
    (before : Sample) (s : System) : Budget :=
  let fresh := { job.features with now := before }
  let liveBoost := if unixSeconds < control.«until» then control.boost else 0
  let liveBoost := lesser liveBoost (boostCap o s.total)
  let recheck : Forecast := ⟨sub s.available job.expectedDrop, 0⟩
  let liveGap := deficit o s recheck liveBoost
  donorBudget o job.app fresh s (lesser liveGap job.requested) job.requested page

def Worker.turn (o : Options) (page : Bytes) (w : Worker) (reading : Reading) :
    Worker × Option Attempt :=
  let resultOf (job : Job) : Result := { index := job.index, planned := job.requested }
  match w.phase with
  | .idle =>
    match w.pending with
    | none => (w, none)
    | some job => ({ w with pending := none, phase := .taken job }, none)
  | .taken job =>
    match controlNow o reading.control reading.unixControl with
    | none => ({ w with
        phase := .done job { resultOf job with status := "cancelled_read_error" } }, none)
    | some control =>
      if control.paused = true ∨ job.app.name ∈ control.protectedApps then
        ({ w with phase := .done job { resultOf job with status := "cancelled_protected" } }, none)
      else
        match reading.ownTarget with
        | none => ({ w with
            phase := .done job { resultOf job with status := "cancelled_read_error" } }, none)
        | some true => ({ w with
            phase := .done job { resultOf job with status := "cancelled_protected" } }, none)
        | some false => ({ w with phase := .allowed job control false }, none)
  | .allowed job control ownTarget =>
    match reading.sample with
    | none => ({ w with
        phase := .done job { resultOf job with status := "cancelled_read_error" } }, none)
    | some sample =>
      let before := { sample with valid := true }
      let failed := { resultOf job with status := "cancelled_read_error", before := before }
      if before.inode ≠ job.features.now.inode ∨ before.device ≠ job.features.now.device then
        ({ w with phase := .done job failed }, none)
      else
        match reading.swapRoom with
        | none => ({ w with phase := .done job failed }, none)
        | some room =>
        let before := { before with swapRoom := room }
        match reading.machine with
        | none => ({ w with phase := .done job { failed with before := before } }, none)
        | some s =>
          let block := pressureBlock o s 0 0
          if block ≠ "" then
            ({ w with phase := .done job { resultOf job with
              status := "cancelled_" ++ block, before := before } }, none)
          else
            let b := recheck o page job control reading.unixSeconds before s
            let toSubmit := lesser b.bytes job.requested
            if toSubmit = 0 then
              ({ w with phase := .done job { resultOf job with
                status := "cancelled_budget_changed", before := before } }, none)
            else
              ({ w with
                phase := .judged ⟨job, control, ownTarget, reading.unixSeconds, before, s,
                  toSubmit⟩ }, none)
  | .judged a =>
    match reading.openError with
    | some e => ({ w with phase := .written a.job { resultOf a.job with
        status := "open_error", err := some e, before := a.before } }, none)
    | none =>
      let r := { resultOf a.job with
        written := a.bytes, before := a.before, writeMs := reading.writeMs }
      let r := match reading.writeError with
        | some .EAGAIN => { r with status := "partial_or_unmet", err := some .EAGAIN }
        | some e => { r with status := "write_error", err := some e }
        | none =>
          if reading.whole = true then { r with status := "ok" }
          else { r with status := "short_write", err := some Errno.EIO }
      ({ w with phase := .written a.job r }, some a)
  | .written job r =>
    match reading.sample with
    | none => ({ w with phase := .done job r }, none)
    | some sample => ({ w with phase := .done job { r with after := { sample with valid := true } } },
        none)
  | .done _ r => ({ w with phase := .idle, completed := some r }, none)

structure Config where
  o : Options
  apps : List App
  page : Bytes

structure Tick where
  time : Float
  episode : Bool
  sample : ℕ → Option Sample
  accepted : Option Job

structure Daemon where
  worker : Worker := {}
  predictor : Predictor := {}
  states : ℕ → State := fun _ => {}
  globalRate : RollingLimit := {}
  episode : Bool := false
  lastSys : Option System := none
  /-- Sampling failed or the daemon was stopped. -/
  ended : Bool := false
  /-- The ticks, the newest first. -/
  log : List Tick := []
  /-- How many jobs were accepted. -/
  jobs : ℕ := 0
  /-- The writes, the newest first. -/
  attempts : List Attempt := []

/-- What a tick reads; `none` is a reading that throws. -/
structure TickReading where
  /-- `monotonic` when a result is taken. -/
  now : Float := 0
  machine : Option System := none
  control : Option Control := some {}
  unixControl : Bytes := 0
  unixSeconds : Bytes := 0
  /-- The samples of the applications, with their swap room and their check for the daemon. -/
  samples : ℕ → Option Sample := fun _ => none
  /-- A signal has come before the job is submitted. -/
  stopping : Bool := false

inductive Input
  | tick (reading : TickReading)
  | turn (reading : Reading)

def settle (cfg : Config) (now : Float) (state : State) (r : Result) : State :=
  let same := r.before.valid = false ∨
    (state.previous.inode = r.before.inode ∧ state.previous.device = r.before.device)
  if same then
    let state := { state with nextReclaim := greaterReal state.nextReclaim (now + cfg.o.cooldownSec) }
    let poor : Bool := r.before.valid && r.after.valid &&
      decide ((delta r.after.pgsteal r.before.pgsteal).toFloat * cfg.page.toFloat <
        0.1 * r.written.toFloat)
    let state :=
      if r.err.isSome = true ∨ poor = true ∨ 1000 < r.writeMs then
        { state with
          nextReclaim := greaterReal state.nextReclaim (now + cfg.o.backoffSec)
          adaptive := greaterReal 0.125 (state.adaptive * 0.5)
          lastPenalty := now }
      else state
    match r.err with
    | some .EINVAL | some .EACCES | some .EPERM | some .EROFS | some .EOPNOTSUPP =>
      { state with disabled := true }
    | _ => state
  else state

def isReset (prev cur : Sample) : Bool :=
  !prev.valid || prev.inode != cur.inode || prev.device != cur.device ||
    (!prev.populated && cur.populated) || decide (cur.pgfault < prev.pgfault) ||
    decide (cur.refault < prev.refault)

structure Outlook where
  machine : System
  forecast : Forecast
  control : Control
  block : String
  episode : Bool
  gap : Bytes
  workerBusy : Bool

def track (cfg : Config) (s : System) (state : State) (prev cur : Sample) : State × Float :=
  let o := cfg.o
  let appSome := cur.psi.some10
  if prev.valid = true ∧ state.lastTime < s.time then
    let dt := s.time - state.lastTime
    let beta := 1 - Float.exp (-dt / 2)
    let growth := (cur.current.toFloat - prev.current.toFloat) / dt
    let ref := (delta cur.refault prev.refault).toFloat * cfg.page.toFloat / dt
    let maj := (delta cur.major prev.major).toFloat / dt
    let state := { state with
      growth := (1 - beta) * state.growth + beta * growth
      refaultRate := (1 - beta) * state.refaultRate + beta * ref
      majorRate := (1 - beta) * state.majorRate + beta * maj }
    let appSome :=
      if cur.psi.valid = true ∧ prev.psi.valid = true then
        greaterReal appSome (stallPercent cur.psi.someTotal prev.psi.someTotal dt)
      else appSome
    if o.refaultGuardMBps * MiB.toFloat < ref ∨ o.majorGuardPS < maj ∨ o.appSomeLimit ≤ appSome then
      let state := { state with refaultUntil := s.time + o.backoffSec }
      if o.backoffSec ≤ s.time - state.lastPenalty then
        ({ state with adaptive := greaterReal 0.125 (state.adaptive * 0.5), lastPenalty := s.time },
          appSome)
      else (state, appSome)
    else if 60 < s.time - state.lastPenalty ∧ 30 < s.time - state.lastRecovery then
      ({ state with adaptive := lesserReal 1 (state.adaptive + 0.05), lastRecovery := s.time },
        appSome)
    else (state, appSome)
  else (state, appSome)

def share (o : Options) (current : Bytes) : Bytes := amount (o.episodeFraction * current.toFloat)

def restart (s : System) (state : State) (cur : Sample) : State × Sample :=
  if isReset state.previous cur = true then
    ({ rate := state.rate, firstSeen := s.time, lastRecovery := s.time }, {})
  else (state, state.previous)

def refresh (cfg : Config) (v : Outlook) (state : State) (cur : Sample) : State × Sample × Float :=
  let (state, prev) := restart v.machine state cur
  let (state, appSome) := track cfg v.machine state prev cur
  let state :=
    if v.episode = true ∧ state.episodeSpent = 0 then
      { state with episodeCap := greater state.episodeCap (share cfg.o cur.current) }
    else state
  (state, prev, appSome)

def overrule (o : Options) (v : Outlook) (state : State) (b : Budget) : Budget :=
  let s := v.machine
  if v.episode = false ∨ v.gap < o.minBatch then { b with bytes := 0, reason := "reserve_satisfied" }
  else if v.block ≠ "" then { b with bytes := 0, reason := v.block }
  else if state.disabled = true then { b with bytes := 0, reason := "target_disabled" }
  else if s.time < state.refaultUntil then { b with bytes := 0, reason := "refault_backoff" }
  else if s.time < state.nextReclaim then { b with bytes := 0, reason := "cooldown" }
  else if v.workerBusy = true then { b with bytes := 0, reason := "worker_busy" }
  else b

def visitApp (cfg : Config) (v : Outlook) (index : ℕ) (app : App) (sample : Option Sample)
    (state : State) (globalRate : RollingLimit) : State × RollingLimit × Option Job :=
  let o := cfg.o
  let s := v.machine
  match sample with
  | none => ({ state with previous := {} }, globalRate, none)
  | some sample =>
    let cur := { sample with valid := true }
    let (state, prev, appSome) := refresh cfg v state cur
    let (minuteRoom, rate) := state.rate.room s.time o.appPerMinute
    let (globalRoom, globalRate) := globalRate.room s.time o.perMinute
    let features : Features := {
      now := { cur with psi := { cur.psi with some10 := appSome } }
      prev := prev
      age := s.time - state.firstSeen
      growthBytesPS := state.growth
      refaultBytesPS := state.refaultRate
      majorPS := state.majorRate
      protectedNow := decide (app.name ∈ v.control.protectedApps)
      adaptive := state.adaptive
      episodeRoom := sub state.episodeCap state.episodeSpent
      minuteRoom := minuteRoom }
    let b := donorBudget o app features s v.gap globalRoom cfg.page
    let b := overrule o v state b
    let job : Option Job :=
      if b.bytes = 0 then none
      else some {
        index := index
        app := app
        features := features
        requested := b.bytes
        expectedDrop := sub s.available v.forecast.predictedAvailable
        serial := 0 }
    ({ state with rate := rate, previous := cur, lastTime := s.time }, globalRate, job)

def better (best : Option Job) (job : Option Job) : Option Job :=
  match best, job with
  | best, none => best
  | none, some job => some job
  | some best, some job => if best.requested < job.requested then some job else some best

def visitApps (cfg : Config) (v : Outlook) (samples : ℕ → Option Sample) :
    List App → ℕ → (ℕ → State) → RollingLimit → Option Job →
      (ℕ → State) × RollingLimit × Option Job
  | [], _, states, globalRate, best => (states, globalRate, best)
  | app :: apps, i, states, globalRate, best =>
    let (state, globalRate, job) := visitApp cfg v i app (samples i) (states i) globalRate
    visitApps cfg v samples apps (i + 1) (Function.update states i state) globalRate
      (better best job)

def readControl (cfg : Config) (r : TickReading) (block : String) : Control × String :=
  match controlNow cfg.o r.control r.unixControl with
  | none => ({}, "control_invalid")
  | some control =>
    if control.protectedApps.all (fun name => cfg.apps.any fun app => app.name = name) = false then
      (control, "control_invalid")
    else (control, if control.paused = true then "manual_pause" else block)

def look (cfg : Config) (d : Daemon) (r : TickReading) (s : System) (f : Forecast) : Outlook :=
  let o := cfg.o
  let ( recentIO, recentFull) := match d.lastSys with
    | none => (0, 0)
    | some last =>
      let dt := s.time - last.time
      (if s.io.valid = true ∧ last.io.valid = true then
        stallPercent s.io.someTotal last.io.someTotal dt else 0,
      if s.mem.valid = true ∧ last.mem.valid = true then
        stallPercent s.mem.fullTotal last.mem.fullTotal dt else 0)
  let (control, block) := readControl cfg r (pressureBlock o s recentIO recentFull)
  let boost := if r.unixSeconds < control.«until» then control.boost else 0
  let boost := lesser boost (boostCap o s.total)
  let gap := deficit o s f boost
  let episode :=
    if d.episode = false ∧ o.minBatch ≤ gap then true
    else if d.episode = true ∧ add (add o.reserve boost) o.hysteresis ≤ f.predictedAvailable ∧
      o.readyFree ≤ s.free ∧ d.worker.busy = false then false
    else d.episode
  ⟨s, f, control, block, episode, gap, d.worker.busy⟩

def beginEpisode (state : State) : State := { state with episodeSpent := 0, episodeCap := 0 }

def submitBest (cfg : Config) (d : Daemon) (time : Float) (job : Job) : Daemon × Option Job :=
  let job := { job with serial := d.jobs }
  match d.worker.submit job with
  | none => (d, none)
  | some worker =>
    let state := d.states job.index
    let state := { state with
      rate := state.rate.charge time job.requested
      episodeSpent := add state.episodeSpent job.requested
      nextReclaim := time + cfg.o.cooldownSec }
    ({ d with
      worker := worker
      globalRate := d.globalRate.charge time job.requested
      states := Function.update d.states job.index state
      jobs := d.jobs + 1 }, some job)

def takeResult (cfg : Config) (d : Daemon) (now : Float) : Daemon :=
  match d.worker.take with
  | (none, worker) => { d with worker := worker }
  | (some r, worker) => { d with
      worker := worker
      states := Function.update d.states r.index (settle cfg now (d.states r.index) r) }

def tick (cfg : Config) (d : Daemon) (r : TickReading) : Daemon :=
  if d.ended = true then d
  else
    let d := takeResult cfg d r.now
    match r.machine with
    | none => { d with ended := true }
    | some s =>
      let (f, predictor) := d.predictor.update s cfg.o.horizonSec
        (cfg.o.maxDeclineMBps * MiB.toFloat)
      let v := look cfg d r s f
      let states := if d.episode = false ∧ v.episode = true then fun i => beginEpisode (d.states i)
        else d.states
      let (states, globalRate, best) :=
        visitApps cfg v r.samples cfg.apps 0 states d.globalRate none
      let d := { d with
        predictor := predictor
        lastSys := some s
        episode := v.episode
        states := states
        globalRate := globalRate }
      let (d, accepted) := match best with
        | none => (d, none)
        | some job => if r.stopping = true then (d, none) else submitBest cfg d s.time job
      { d with
        log := ⟨s.time, v.episode, fun i => (r.samples i).map ({ · with valid := true }), accepted⟩ ::
          d.log
        ended := r.stopping }

def turn (cfg : Config) (d : Daemon) (reading : Reading) : Daemon :=
  let (worker, attempt) := d.worker.turn cfg.o cfg.page reading
  { d with worker := worker, attempts := attempt.toList ++ d.attempts }

def step (cfg : Config) (d : Daemon) (input : Input) : Unit × Daemon :=
  match input with
  | .tick reading => ((), tick cfg d reading)
  | .turn reading => ((), turn cfg d reading)

end Parp.ReclaimDaemon
