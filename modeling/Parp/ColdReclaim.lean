import Parp.PredictAbi
import Parp.Watermark

set_option autoImplicit false

/-!
# Reclaim bins and prediction-cold pressure

The bin scores of `watermark.c`, and the part of `vmscan.c` that raises the pressure on one memcg
and takes it back. What a score or a decision reads (sysctls, the enabled ancestors, the prediction
context) is an argument; the switches are read again for each question.
-/
namespace Parp.ColdReclaim

open Watermark PredictAbi

def memcgNrBins : ℕ := 8

structure Switches where
  applyMode : Bool := false
  reclaimBinEnabled : Bool := false
  reclaimColdAggressiveEnabled : Bool := false
  reclaimWorkloadEnabled : Bool := false
  reclaimColdBinMax : ℕ := 2
  reclaimColdProbabilityQ15 : ℕ := 327
  deriving DecidableEq

def parpTier2ReclaimBinApplyEnabled (switches : Switches) : Bool :=
  switches.applyMode && switches.reclaimBinEnabled

def parpTier2ReclaimColdAggressiveApplyEnabled (switches : Switches) : Bool :=
  parpTier2ReclaimBinApplyEnabled switches && switches.reclaimColdAggressiveEnabled

def parpTier2ReclaimWorkloadApplyEnabled (switches : Switches) : Bool :=
  parpTier2ReclaimColdAggressiveApplyEnabled switches && switches.reclaimWorkloadEnabled

def parpReclaimBinPolicyMemcg (ancestors : List ParpTier2Memcg) : Option ParpTier2Memcg :=
  ancestors.find? fun memcg => memcg.enabled

def parpTier2ReclaimWorkloadColdContext (switches : Switches) (app : ParpAppContext) : Bool :=
  parpTier2ReclaimBinApplyEnabled switches && switches.reclaimColdAggressiveEnabled &&
    switches.reclaimWorkloadEnabled && !app.foreground && app.workloadValid &&
    decide (app.workloadClass > parpPredictWorkloadNone ∧
      app.workloadClass ≤ parpPredictWorkloadMixed ∧ app.workloadConfidenceQ15 ≠ 0 ∧
      app.workloadSwappiness ≤ 200 ∧
      app.appPriorQ15.toNat ≤ min switches.reclaimColdProbabilityQ15 parpQ15One)

def parpTier2ReclaimRankScoreQ15 (appPriorQ15 appRank : UInt16) (foreground : Bool) : ℕ :=
  if appRank = 0 ∨ appPriorQ15.toNat > parpQ15One then min appPriorQ15.toNat parpQ15One
  else
    let rankFloor :=
      if foreground ∨ appRank = 1 then parpQ15One
      else if appRank = 2 then 24576
      else if appRank = 3 then 20480
      else if appRank = 4 then 16384
      else if appRank ≤ 6 then 12288
      else if appRank ≤ 9 then 8192
      else if appRank ≤ 12 then 4096
      else 0
    max appPriorQ15.toNat rankFloor

/-- What the score of a memcg reads: its ancestors below the root, itself first, and the result of
`parp_context_lookup` for its domain. -/
structure MemcgView where
  ancestors : List ParpTier2Memcg := []
  context : Option ParpAppContext := none
  deriving DecidableEq

def parpTier2ReclaimBinScore (switches : Switches) (view : MemcgView) : Option (ℕ × Bool) :=
  if view.ancestors.isEmpty || !parpTier2ReclaimBinApplyEnabled switches then none
  else
    match parpReclaimBinPolicyMemcg view.ancestors with
    | none => none
    | some policy =>
      match view.context with
      | some app =>
        some (if parpTier2ReclaimWorkloadColdContext switches app then 0
          else parpTier2ReclaimRankScoreQ15 app.appPriorQ15 app.appRank app.foreground, true)
      | none =>
        if policy.limitBytes ≠ 0 ∧ policy.limitBytes ≠ u64Max then
          some (if policy.headroomBytes ≥ policy.limitBytes then parpQ15One
            else policy.headroomBytes.toNat * parpQ15One / policy.limitBytes.toNat, false)
        else none

def parpMemcgReclaimBinScored (switches : Switches) (view : MemcgView) : Option (ℕ × Bool) :=
  (parpTier2ReclaimBinScore switches view).map fun (score, predictionBacked) =>
    (min (score * memcgNrBins / 2 ^ 15) (memcgNrBins - 1), predictionBacked)

/-- The fields of `struct scan_control` the memcg walks use. `priority` is the value of an `s8`. -/
structure ScanControl where
  priority : ℤ
  mayWritepage : Bool
  parpSwappinessOverride : ℕ := 0
  parpColdOnly : Bool := false
  memcgLowReclaim : Bool := false
  memcgLowSkipped : Bool := false
  nrToReclaim : ℕ := 0
  nrScanned : ℕ := 0
  nrReclaimed : ℕ := 0
  deriving DecidableEq

/-- What the decision on one memcg reads: the switches for each of its questions and the prediction
context, looked up again. -/
structure ColdReading where
  enabled : Switches := {}
  workload : Switches := {}
  profile : Switches := {}
  context : Option ParpAppContext := none
  deriving DecidableEq

structure ColdPressure where
  priorityBoost : ℕ
  swappiness : ℕ
  allowWritepage : Bool
  deriving DecidableEq

def binPressure (bin : ℕ) : ColdPressure :=
  if bin = 0 then { priorityBoost := 3, swappiness := 140, allowWritepage := true }
  else if bin = 1 then { priorityBoost := 2, swappiness := 120, allowWritepage := true }
  else { priorityBoost := 1, swappiness := 100, allowWritepage := true }

def parpTier2ReclaimColdPressure (reading : ColdReading) (bin : ℕ) : Option ColdPressure :=
  if parpTier2ReclaimColdAggressiveApplyEnabled reading.enabled = false then none
  else
    let workloadEnabled := parpTier2ReclaimWorkloadApplyEnabled reading.workload
    if bin > min reading.enabled.reclaimColdBinMax 7 ∧ workloadEnabled = false then none
    else if workloadEnabled = false then some (binPressure bin)
    else
      match reading.context with
      | none => none
      | some app =>
        if app.workloadValid = false ∨ app.workloadClass = parpPredictWorkloadNone ∨
            app.workloadClass > parpPredictWorkloadMixed ∨ app.workloadConfidenceQ15 = 0 ∨
            app.workloadSwappiness > 200 then none
        else if parpTier2ReclaimWorkloadColdContext reading.profile app = false then none
        else
          some { binPressure bin with
            swappiness := app.workloadSwappiness.toNat
            allowWritepage := app.workloadAllowWritepage }

/-- `struct parp_cold_reclaim_context` without its statistics. -/
structure ParpColdReclaimContext where
  active : Bool := false
  priority : ℤ := 0
  mayWritepage : Bool := false
  swappinessOverride : ℕ := 0
  deriving DecidableEq

def parpColdReclaimEnter (reading : ColdReading) (bin : ℕ) (sc : ScanControl) :
    ScanControl × ParpColdReclaimContext :=
  match parpTier2ReclaimColdPressure reading bin with
  | none => (sc, {})
  | some pressure =>
    let priorityBoost : ℤ := if sc.priority > 0 then min pressure.priorityBoost sc.priority else 0
    ({ sc with
       priority := sc.priority - priorityBoost
       mayWritepage := sc.mayWritepage || pressure.allowWritepage
       parpSwappinessOverride := pressure.swappiness + 1 },
     { active := true
       priority := sc.priority
       mayWritepage := sc.mayWritepage
       swappinessOverride := sc.parpSwappinessOverride })

def parpColdReclaimExit (sc : ScanControl) (context : ParpColdReclaimContext) : ScanControl :=
  if context.active = false then sc
  else
    { sc with
      priority := context.priority
      mayWritepage := context.mayWritepage
      parpSwappinessOverride := context.swappinessOverride }

def parpColdReclaimSkip (sc : ScanControl) (context : ParpColdReclaimContext) : Bool :=
  sc.parpColdOnly && !context.active

structure Shrunk where
  scanned : ℕ := 0
  reclaimed : ℕ := 0
  deriving DecidableEq

def ScanControl.count (sc : ScanControl) (shrunk : Shrunk) : ScanControl :=
  { sc with
    nrScanned := sc.nrScanned + shrunk.scanned
    nrReclaimed := sc.nrReclaimed + shrunk.reclaimed }

/-- One memcg as a walk met it: the scan control before it, while it was shrunk (if it was) and
after it, and the bin the decision was asked about. -/
structure Visit where
  memcg : ℕ
  reading : ColdReading
  bin : ℕ
  before : ScanControl
  during : Option ScanControl
  after : ScanControl
  deriving DecidableEq

end Parp.ColdReclaim
