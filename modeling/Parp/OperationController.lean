import Mathlib

set_option autoImplicit false

/-!
# The operation controller

`operation_controller.py` of `parp-userspace-four-ops`: forecasts of operation stages, a trial
`memory.high` and budgeted `memory.reclaim` requests for one cgroup. A call keeps what it did to the
state when it raises; how each of its file accesses ends is an input, by the place of the access.
-/
namespace Parp.OperationController

def u64Max : ℕ := 2 ^ 64 - 1

inductive Limit
  | max
  | bytes (n : ℕ)
  deriving DecidableEq

def Limit.value : Limit → ℕ
  | .max => u64Max
  | .bytes n => n

/-- `memory.high`, `memory.max`, `memory.min` and `memory.low`. -/
structure Cgroup where
  high : Limit
  max : Limit
  min : Limit
  low : Limit

inductive Failure
  | osError (errno : ℕ)
  | error
  deriving DecidableEq

def eagain : ℕ := 11

inductive Site
  | exclusive | owner | ownerAgain | currentHigh | targetWrite | restoreRead | restoreWrite
  | maxLimit | minLimit | lowLimit | usage | usageAfter | refaults | refaultUsage | reclaim
  deriving DecidableEq

inductive Answer
  | raises (failure : Failure)
  | reads (value : ℕ)
  deriving DecidableEq

abbrev Answers := Site → Answer

structure LookupResult where
  wssBytes : List ℕ
  pagefault : List ℕ
  deriving DecidableEq

def LookupResult.validCount (r : LookupResult) : ℕ := r.wssBytes.length

inductive Mode
  | observe | high | reclaim
  deriving DecidableEq

inductive Reason
  | noForecast | insufficientStages | notPositiveOrNotBelowRss | experimentalReuseCandidate
  | experimentalTurnoverCandidate | ambiguousOrThresholdMissing
  | stopped | leaseExpired | forecastHorizonComplete | refaultGuard | limitConflict
  | noObservedProgress
  deriving DecidableEq

structure Decision where
  mode : Mode := .observe
  reason : Reason
  validCount : ℕ := 0
  faultTotal : ℕ := 0
  faultBurst : ℕ := 0
  deriving DecidableEq

/-- `integer` of a number that is at least zero. -/
def integer (value minimum : ℕ) : Option ℕ :=
  if minimum ≤ value ∧ value ≤ u64Max then some value else none

def highTarget (value pageSize : ℕ) : Option ℕ := do
  let value ← integer value 1
  let target ← integer (value + (value + 9) / 10) 0
  integer ((target + pageSize - 1) / pageSize * pageSize) 0

def stable (values : List ℕ) : Bool :=
  match values.min?, values.max? with
  | some least, some most => 0 < least && most - least ≤ least / 10
  | _, _ => false

def classify (result : LookupResult) (rss : ℕ) (reuseFaultMax turnoverBurstMin : Option ℕ) :
    Decision :=
  let w := result.wssBytes
  let f := result.pagefault
  let total := f.sum
  let burst := (f.take 2).max?.getD 0 - (f.drop 2).max?.getD 0
  let decision : Decision := ⟨.observe, .insufficientStages, w.length, total, burst⟩
  if w.length < 2 then decision
  else if w.min?.getD 0 = 0 ∨ rss ≤ w.max?.getD 0 then
    { decision with reason := .notPositiveOrNotBelowRss }
  else if stable w = true ∧ ∃ bound ∈ reuseFaultMax, total ≤ bound then
    { decision with mode := .high, reason := .experimentalReuseCandidate }
  else if 3 ≤ w.length ∧ w.getD 0 0 < w.getD 1 0 ∧ w.getD 0 0 / 10 < w.getD 1 0 - w.getD 0 0 ∧
      stable (w.drop 1) = true ∧ ∃ bound ∈ turnoverBurstMin, 0 < bound ∧ bound ≤ burst then
    { decision with mode := .reclaim, reason := .experimentalTurnoverCandidate }
  else { decision with reason := .ambiguousOrThresholdMissing }

structure Setup where
  apply : Bool
  hasBackend : Bool
  reuseFaultMax : Option ℕ
  turnoverBurstMin : Option ℕ
  leaseSeconds : Float
  batch : ℕ
  pageSize : ℕ
  page_pos : 1 ≤ pageSize
  batch_ge : pageSize ≤ batch
  batch_le : batch ≤ 32 * 1024 ^ 2
  lease_pos : leaseSeconds.isFinite = true ∧ 0 < leaseSeconds
  ready : apply = true →
    hasBackend = true ∧ reuseFaultMax.isSome = true ∧ turnoverBurstMin.isSome = true

def Setup.batchBytes (c : Setup) : ℕ := c.batch / c.pageSize * c.pageSize

structure Anchor where
  appName : String
  sequenceNum : ℤ
  currentOpId : ℤ
  pressureGib : ℤ
  deriving DecidableEq

inductive Effect
  | wroteHigh (found written : Limit)
  | requested (bytes : ℕ)
  deriving DecidableEq

structure Machine where
  cgroup : Cgroup
  generation : ℕ := 0
  seen : List Anchor := []
  savedHigh : Option Limit := none
  appliedHigh : Option Limit := none
  result : Option LookupResult := none
  rss : ℕ := 0
  deadline : Float := 0
  activeStep : Option ℕ := none
  decision : Decision := { reason := .noForecast }
  reservedBytes : ℕ := 0
  lowBudget : ℕ := 0
  budget : ℕ := 0
  noProgress : ℕ := 0
  previewReported : Bool := false
  /-- `refault_time` and `refault_baseline`. -/
  refault : Option (Float × ℕ) := none
  observedDrop : ℕ := 0
  effects : List Effect := []

namespace Machine

variable (s : Machine)

/-- A write to `memory.high` that took effect. -/
def putHigh (value : Limit) : Machine :=
  { s with
    cgroup := { s.cgroup with high := value }
    effects := s.effects ++ [.wroteHigh s.cgroup.high value] }

def forgetHigh : Machine := { s with savedHigh := none, appliedHigh := none }

def saveHigh (current : Limit) : Machine :=
  { s with savedHigh := some (s.savedHigh.getD current) }

def markHigh (target : ℕ) : Machine := { s with appliedHigh := some (.bytes target) }

def closePlan (reason : Reason) : Machine :=
  { s with
    result := none
    activeStep := none
    decision := { reason := reason } }

def request (bytes : ℕ) : Machine := { s with effects := s.effects ++ [.requested bytes] }

def reserve (bytes : ℕ) : Machine := { s with reservedBytes := s.reservedBytes + bytes }

def observeDrop (drop : ℕ) : Machine :=
  { s with
    observedDrop := s.observedDrop + drop
    noProgress := if drop = 0 then s.noProgress + 1 else 0 }

def guardRefault (now : Float) (value drop : ℕ) : Machine :=
  { s with refault := some (now, value), observedDrop := drop }

def openPlan (anchor : Anchor) (result : LookupResult) (rss : ℕ) (decision : Decision)
    (deadline : Float) : Machine :=
  { s with
    seen := anchor :: s.seen
    generation := s.generation + 1
    result := some result
    rss := rss
    decision := decision
    deadline := deadline
    reservedBytes := 0
    lowBudget := 0
    budget := 0
    noProgress := 0
    observedDrop := 0
    refault := none }

def enterStep (step : ℕ) : Machine := { s with activeStep := some step, previewReported := false }

def reportPreview : Machine := { s with previewReported := true }

def setBudget (usage floor : ℕ) : Machine :=
  { s with
    budget := min s.rss usage
    lowBudget := min (min s.rss usage) (usage - floor) }

end Machine

inductive Record
  | stopped (reason : Reason)
  | forecast (generation : ℕ) (decision : Decision)
  | entered (generation step : ℕ)
  | candidate (generation step : ℕ) (mode : Mode) (target : Option ℕ)
  | high (target : ℕ)
  | reclaim (lowStage : Bool) (requested reserved budget lowBudget drop : ℕ) (partially : Bool)
      (floor : ℕ) (stopped : Bool)
  deriving DecidableEq

/-- A call keeps its state when it raises. -/
abbrev Run := ExceptT Failure (StateM Machine)

section

variable (a : Answers)

def access (site : Site) : Run ℕ :=
  match a site with
  | .raises failure => throw failure
  | .reads value => pure value

def readHigh (site : Site) : Run Limit := do
  let _ ← access a site
  return (← get).cgroup.high

def writeHigh (site : Site) (value : Limit) : Run Unit := do
  let _ ← access a site
  modify fun s => s.putHigh value

def limit (site : Site) (which : Cgroup → Limit) : Run ℕ := do
  let _ ← access a site
  return (which (← get).cgroup).value

/-- The write to `memory.reclaim`, and whether it ended early. -/
def writeReclaim (bytes : ℕ) : Run Bool := do
  modify fun s => s.request bytes
  match a .reclaim with
  | .reads _ => return false
  | .raises failure => if failure = .osError eagain then return true else throw failure

end

def checked {α : Type} (o : Option α) : Run α :=
  match o with
  | none => throw .error
  | some x => pure x

section

variable (c : Setup) (a : Answers)

def restoreHigh : Run Unit := do
  match (← get).appliedHigh with
  | none => return
  | some applied =>
    let current ← readHigh a .restoreRead
    if current = applied then
      let saved ← checked (← get).savedHigh
      writeHigh a .restoreWrite saved
    modify Machine.forgetHigh

def stop (reason : Reason) : Run Record := do
  restoreHigh a
  modify fun s => s.closePlan reason
  return .stopped reason

def checkHighOwner (site : Site) : Run Unit := do
  match (← get).appliedHigh with
  | none => return
  | some applied =>
    let current ← readHigh a site
    if current ≠ applied then
      modify Machine.forgetHigh
      throw .error

def setHigh (target : ℕ) : Run Unit := do
  checkHighOwner a .ownerAgain
  let current ← readHigh a .currentHigh
  let admin := (← get).savedHigh.getD current
  let least ← limit a .minLimit Cgroup.min
  let low ← limit a .lowLimit Cgroup.low
  let most ← limit a .maxLimit Cgroup.max
  if min admin.value most < target ∨ target < max least low then throw .error
  modify fun s => s.saveHigh current
  if current ≠ .bytes target then
    modify fun s => s.markHigh target
    writeHigh a .targetWrite (.bytes target)
  modify fun s => s.markHigh target

def refaultStop (now : Float) : Run Bool := do
  match (← get).refault with
  | none =>
    let value ← access a .refaults
    modify fun s => s.guardRefault now value s.observedDrop
    return false
  | some (time, baseline) =>
    if now - time < 1 then return false
    let value ← access a .refaults
    let delta := value - baseline
    let drop := (← get).observedDrop
    let reference ← if drop = 0 then access a .refaultUsage else pure drop
    modify fun s => s.guardRefault now value 0
    return max 1 (reference / c.pageSize / 10) < delta

def stageFloor (result : LookupResult) (active : ℕ) : Option ℕ :=
  if active = 0 then (result.wssBytes.head?).bind fun w => highTarget w c.pageSize
  else (result.wssBytes.drop active).max?

def tickHigh (result : LookupResult) (active : ℕ) : Run (Option Record) := do
  let most ← checked (result.wssBytes.drop active).max?
  let target ← checked (highTarget most c.pageSize)
  let changed := (← get).appliedHigh ≠ some (.bytes target)
  setHigh a target
  return if changed then some (.high target) else none

def requestOf (s : Machine) (active usage floor : ℕ) : ℕ :=
  let budget := if active = 0 then s.lowBudget else s.budget
  min c.batchBytes (min (budget - s.reservedBytes) (usage - floor)) / c.pageSize * c.pageSize

def reclaim (active request usage floor : ℕ) : Run (Option Record) := do
  modify fun s => s.reserve request
  let partially ← writeReclaim a request
  let drop := usage - (← access a .usageAfter)
  modify fun s => s.observeDrop drop
  let s ← get
  if 3 ≤ s.noProgress then
    let _ ← stop a .noObservedProgress
  return some (.reclaim (active = 0) request s.reservedBytes s.budget s.lowBudget drop partially
    floor (3 ≤ s.noProgress))

def tickReclaim (result : LookupResult) (active : ℕ) : Run (Option Record) := do
  restoreHigh a
  let usage ← access a .usage
  let stage ← checked (stageFloor c result active)
  let least ← limit a .minLimit Cgroup.min
  let low ← limit a .lowLimit Cgroup.low
  let floor := max stage (max least low)
  let most ← checked (result.wssBytes.drop active).max?
  if (← limit a .maxLimit Cgroup.max) < most then return some (← stop a .limitConflict)
  let request := requestOf c (← get) active usage floor
  if request = 0 then return none
  reclaim a active request usage floor

def targets (mode : Mode) (result : LookupResult) (active : ℕ) : Run (Option ℕ) :=
  match mode with
  | .observe => return none
  | .high => do
      let most ← checked (result.wssBytes.drop active).max?
      return some (← checked (highTarget most c.pageSize))
  | .reclaim => do return some (← checked (stageFloor c result active))

/-- The ticks of a plan whose lease runs and whose stage `active` was entered. -/
def tickActive (now : Float) (result : LookupResult) (active : ℕ) : Run (Option Record) := do
  let s ← get
  if c.apply = false then
    if s.previewReported then return none
    modify Machine.reportPreview
    return some (.candidate s.generation active s.decision.mode
      (← targets c s.decision.mode result active))
  let _ ← access a .exclusive
  checkHighOwner a .owner
  match s.decision.mode with
  | .observe => return none
  | .high =>
    if ← refaultStop c a now then return some (← stop a .refaultGuard)
    tickHigh c a result active
  | .reclaim =>
    if ← refaultStop c a now then return some (← stop a .refaultGuard)
    tickReclaim c a result active

def tick (now : Float) : Run (Option Record) := do
  let s ← get
  match s.result with
  | none => return none
  | some result =>
    if s.deadline ≤ now then return some (← stop a .leaseExpired)
    match s.activeStep with
    | none => return none
    | some active => tickActive c a now result active

/-- `forecast`, with the answer of its lookup. -/
def forecast (anchor : Anchor) (rssBytes : ℕ) (predicted : Option LookupResult) (now : Float) :
    Run Record := do
  let s ← get
  if s.result.isSome then throw .error
  if anchor ∈ s.seen then throw .error
  let rss ← checked (integer rssBytes 1)
  let result ← checked predicted
  let decision := classify result rss c.reuseFaultMax c.turnoverBurstMin
  modify fun s => s.openPlan anchor result rss decision (now + c.leaseSeconds)
  return .forecast (s.generation + 1) decision

def openingUsage : Run ℕ := do
  if c.hasBackend then access a .usage else return (← get).rss

def openBudget (result : LookupResult) : Run Unit := do
  let usage ← openingUsage c a
  let first ← checked result.wssBytes.head?
  let floor ← if first = 0 then pure 0 else checked (highTarget first c.pageSize)
  modify fun s => s.setBudget usage floor

def enter (generation step : ℕ) (now : Float) : Run Record := do
  let s ← get
  let result ← checked s.result
  if generation ≠ s.generation then throw .error
  if s.deadline ≤ now then return ← stop a .leaseExpired
  if result.validCount < step then throw .error
  if step ≠ (match s.activeStep with | none => 0 | some active => active + 1) then throw .error
  if step = result.validCount then return ← stop a .forecastHorizonComplete
  modify fun s => s.enterStep step
  if step = 0 then openBudget c a result
  return .entered s.generation step

/-- A field that is missing or of another type counts as a number that its check refuses. -/
inductive Event
  | stop
  | forecast (anchor : Anchor) (rssBytes : ℕ) (predicted : Option LookupResult)
  | enter (generation step : ℕ)
  | other

def handle (event : Event) (now : Float) : Run Record :=
  match event with
  | .stop => stop a .stopped
  | .forecast anchor rssBytes predicted => forecast c anchor rssBytes predicted now
  | .enter generation step => enter c a generation step now
  | .other => throw .error

end

inductive Input
  | handle (event : Event) (now : Float) (a : Answers)
  | tick (now : Float) (a : Answers)
  | administratorHigh (value : Limit)
  | administratorLimits (most least low : Limit)

structure Output where
  reply : Except Failure (Option Record)
  effects : List Effect

def perform (m : Run (Option Record)) (s : Machine) : Output × Machine :=
  let r := m.run.run { s with effects := [] }
  (⟨r.1, r.2.effects⟩, r.2)

def step (c : Setup) (s : Machine) : Input → Output × Machine
  | .handle event now a => perform (some <$> handle c a event now) s
  | .tick now a => perform (tick c a now) s
  | .administratorHigh value =>
    (⟨.ok none, []⟩, { s with cgroup := { s.cgroup with high := value } })
  | .administratorLimits most least low =>
    (⟨.ok none, []⟩,
      { s with cgroup := { s.cgroup with max := most, min := least, low := low } })

end Parp.OperationController
