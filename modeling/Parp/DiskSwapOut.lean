import Parp.DailyWrite

set_option autoImplicit false

/-!
# The disk swap-out of a daily action

`daily::disk::execute` gives a command, not a number of bytes, so what it may move is bounded before
the command by an estimate of the whole work.
-/
namespace Parp.DiskSwapOut

open Memshift Daily HookPrograms
open DailyWrite (Thrown staleRequest expiredForecast unauthorized)

def Margin : Bytes := 64 * MiB

def PlanningHeadroom : Bytes := 16 * MiB

/-- The uid after a path that begins with `front`. -/
def leafUid (front path : Text) : Option Text :=
  if front.isPrefixOf path then some (path.drop front.length) else none

def digitsOnly (uid : Text) : Bool := uid ≠ [] && uid.all Char.isDigit

def positiveUid (uid : Text) : Bool :=
  match uintValue uid with
  | .ok value => 0 < value
  | .error _ => false

def browserLeaf (path : Text) : Bool :=
  match leafUid (text "100/" ++ browser ++ ['_']) path with
  | none => false
  | some uid => digitsOnly uid && positiveUid uid

/-- The loop of `ownedLeaf` over the workloads. -/
def workloadLeaf (path : Text) : List ℕ → Bool
  | [] => false
  | i :: rest =>
    match leafUid (text "100/" ++ workload i ++ ['_']) path with
    | none => workloadLeaf path rest
    | some uid => if digitsOnly uid then positiveUid uid else workloadLeaf path rest

def ownedLeaf (path : Text) : Bool :=
  browserLeaf path || workloadLeaf path ((List.range 13).map fun i : ℕ => i + 1)

def registeredBrowserGroup (r : Request) : Bool :=
  match r.knownEvent with
  | none => false
  | some event =>
    match event.donors with
    | [donor] =>
      event.schemaVersion = 3 && donor.bundle = browser && !r.members.isEmpty &&
        donor.members = r.members && donor.memberUids = r.memberUids
    | _ => false

def wholeWork (zram anon : Bytes) : Option Bytes :=
  if zram = 0 ∨ Unlimited - anon < zram then none else some (zram + anon)

structure Plan where
  wholeWork : Bytes := 0
  reservation : Bytes := 0
  reason : Text := []
  admitted : Bool := false

def keepFloor (path : Text) (keep : Bytes) (authority : Option Request) : Except Text Bytes :=
  match authority with
  | none => .ok (512 * MiB)
  | some r =>
    if r.groupPath = path && r.keepBytes = keep then do
      if ← capacityAuthority r then return 128 * MiB
      return 512 * MiB
    else .ok (512 * MiB)

def plan (path : Text) (zram anon keep minimum explicitLimit sharedRoom gap swapRoom : Bytes)
    (reserveHeadroom : Bool) (authority : Option Request) : Except Text Plan :=
  let headroom := if reserveHeadroom then PlanningHeadroom else 0
  let p : Plan := { wholeWork := (wholeWork zram anon).getD 0 }
  if !ownedLeaf path then
    .ok { p with reason := text "disk_scope_not_owned_singleton_test_leaf" }
  else
    match wholeWork zram anon with
    | none => .ok { p with reason := text "disk_pool_missing_below_minimum_or_overflow" }
    | some work =>
      if zram < minimum then
        .ok { p with reason := text "disk_pool_missing_below_minimum_or_overflow" }
      else do
        let floor ← keepFloor path keep authority
        if keep < floor ∨ anon < keep then
          return { p with reason := text "disk_keep_floor_not_satisfied" }
        else if Unlimited - Margin - headroom < work then
          return { p with reason := text "disk_reservation_overflow" }
        else
          let p := { p with reservation := work + Margin + headroom }
          let cap := min explicitLimit (min sharedRoom (min gap swapRoom))
          if explicitLimit = 0 ∨ cap < p.reservation then
            return { p with reason := text "whole_work_exceeds_explicit_shared_gap_or_swap_room" }
          else
            return { p with
              admitted := true
              reason := text "owned_whole_work_estimate_admitted_not_physical_limit" }

structure Evidence where
  base : Daily.Evidence := {}
  zramBytes : Bytes := 0
  eswapBytes : Bytes := 0
  ncZramBytes : Bytes := 0
  poolKnown : Bool := false
  deviceSnapshotVerified : Bool := false
  backendEnabled : Bool := false
  oldestProof : Float := 0
  proofReason : Text := []

def changedIdentity (r : Request) (e : Daily.Evidence) : Bool :=
  e.groupDevice ≠ r.groupDevice || e.groupInode ≠ r.groupInode ||
    (r.members.size ≠ 1 && !registeredBrowserGroup r) || e.members ≠ r.members

def staleProof (e : Evidence) (now : Float) : Bool :=
  !e.deviceSnapshotVerified || !e.oldestProof.isFinite || decide (e.oldestProof ≤ 0) ||
    decide (now < e.oldestProof) || decide (2.5 < now - e.oldestProof)

def budgetText (r : Request) (e : Evidence) (limit : Bytes) (p : Plan) : Text :=
  text "fresh_work=" ++ toText p.wholeWork.toNat ++ text ";required_with_margin=" ++
    toText p.reservation.toNat ++ text ";reserved_cap=" ++ toText r.reservedBytes.toNat ++
    text ";explicit_cap=" ++ toText limit.toNat ++ text ";fresh_gap=" ++
    toText e.base.systemGap.toNat ++ text ";swap_room=" ++ toText e.base.swapRoom.toNat

/-- The reason against the command, empty where there is none, and the diagnostic if it is set. -/
def blocked (r : Request) (e : Evidence) (now : Float) (limit : Bytes) :
    Except Text (Text × Option Text) :=
  if r.backend ≠ text "force_swapout" ∨ r.qualification ≠ text "owned_os_snapshot" then
    .ok (text "owned_device_qualification_required", none)
  else if staleRequest r now || expiredForecast r now then
    .ok (text "request_or_forecast_expired", none)
  else if e.base.blocked ≠ [] then .ok (e.base.blocked, none)
  else if changedIdentity r e.base then .ok (text "member_or_group_identity_changed", none)
  else do
    let protectedReason ← pairProtection r e.base
    if protectedReason ≠ [] then return (protectedReason, none)
    else if !e.base.background || !e.base.controlActive then
      return (text "background_or_control_changed", none)
    else if staleProof e now then
      return (text "device_snapshot_unknown_or_expired:" ++ e.proofReason, none)
    else if !e.backendEnabled then return (text "disk_backend_disabled_or_unknown", none)
    else if !e.poolKnown || e.ncZramBytes ≠ 0 then
      return (text "disk_pool_unknown_or_nc_nonzero", none)
    else
      let p ← plan r.groupPath e.zramBytes e.base.rssAnonBytes r.keepBytes r.minBatch limit
        r.reservedBytes e.base.systemGap e.base.swapRoom false (some r)
      return (if p.admitted then [] else p.reason, some (budgetText r e limit p))

inductive Hook
  | probe
  | write (command : Text)
  | feedbackDelay
  | now
  | cancelled
  | finalGap

@[reducible]
def Hook.Answer : Hook → Type
  | probe => Evidence
  | write _ => WriteReceipt
  | feedbackDelay => Unit
  | now => Float
  | cancelled => Bool
  | finalGap => Option Bytes

abbrev Call := HookPrograms.Call Hook Hook.Answer Thrown

/-- The body of `execute`, with the result it fills in. -/
abbrev Exec := HookPrograms.Exec Hook Hook.Answer Thrown Result

def consult (hook : Hook) : Exec hook.Answer := ask hook

def setStatus (status : Text) : Exec Unit := update fun r => { r with status := status }

def feedbackVerified (r : Request) (after : Evidence) (age : Float) : Bool :=
  after.deviceSnapshotVerified && age.isFinite && decide (0 ≤ age) && decide (age ≤ 2.5) &&
    !changedIdentity r after.base && after.base.background && after.base.controlActive &&
    after.base.blocked = [] && after.poolKnown && after.ncZramBytes = 0 &&
    r.keepBytes ≤ after.base.rssAnonBytes

def transition (before after : Evidence) : Bool :=
  before.eswapBytes < after.eswapBytes && after.zramBytes < before.zramBytes

def observeFeedback (r : Request) (before after : Evidence) (age : Float) (out : Result) :
    Result :=
  let verified := feedbackVerified r after age
  let out := { out with
    postAnonBytes := after.base.rssAnonBytes
    diskZramAfter := after.zramBytes
    diskEswapAfter := after.eswapBytes
    feedbackVerified := verified
    status := text (if verified && transition before after then
      "disk_command_accepted_transition_observed" else "disk_command_accepted_effect_unknown") }
  if before.eswapBytes < after.eswapBytes ∧ r.reservedBytes < after.eswapBytes - before.eswapBytes
  then { out with
    status := text "disk_transfer_exceeded_logical_reservation"
    uncertain := true }
  else if !verified || !transition before after then { out with uncertain := true }
  else out

def afterCommand (r : Request) (before : Evidence) (written : WriteReceipt) : Exec Unit := do
  if written.length < 0 then setStatus (text "disk_write_failed_charge_retained")
  else if written.length ≠ 1 then
    update fun out => { out with
      status := text "disk_partial_write_unknown_charge_retained"
      uncertain := true }
  else
    consult .feedbackDelay
    let after ← consult .probe
    update fun out => { out with
      postAnonBytes := after.base.rssAnonBytes
      diskZramAfter := after.zramBytes
      diskEswapAfter := after.eswapBytes }
    let age := (← consult .now) - after.oldestProof
    update (observeFeedback r before after age)

def command (r : Request) (before : Evidence) : Exec Unit := do
  let nominal ← lift (match wholeWork before.zramBytes before.base.rssAnonBytes with
    | none => .error (.exception (text "bad optional access"))
    | some work => .ok work)
  update fun out => { out with
    nominalBytes := nominal
    preAnonBytes := before.base.rssAnonBytes
    diskZramBefore := before.zramBytes
    diskEswapBefore := before.eswapBytes }
  let startedAt ← consult .now
  update fun out => { out with
    startedAt := some startedAt
    writeAttempted := some true }
  let written ← consult (.write (text "1"))
  let returnedAt ← consult .now
  update fun out => { out with
    returnedAt := some returnedAt
    writeMs := some ((returnedAt - startedAt) * 1000)
    writeLength := some written.length
    error := some written.error }
  afterCommand r before written

/-- `blocked` with what it says of the budget. -/
def refusal (r : Request) (e : Evidence) (limit : Bytes) : Exec Text := do
  let now ← consult .now
  let (reason, diagnostic) ← lift ((blocked r e now limit).mapError .exception)
  update fun out => { out with
    diskBudgetDiagnostic := diagnostic.getD out.diskBudgetDiagnostic }
  return reason

/-- The evidence with the gap that `finalGap` tightens; the hook may be left out. -/
def tightened (finalGap : Bool) (e : Evidence) : Exec (Option Evidence) :=
  if finalGap then do
    match ← consult .finalGap with
    | none => return none
    | some gap =>
      return some { e with base := { e.base with systemGap := min e.base.systemGap gap } }
  else return some e

def recheck (r : Request) (limit : Bytes) (before : Evidence) : Exec Unit := do
  if ← consult .cancelled then setStatus (text "disk_rejected:stopping_at_write")
  else
    let final ← refusal r before limit
    if final ≠ [] then setStatus (text "disk_rejected_at_write:" ++ final)
    else if !deadlineAllows r (← consult .now) then
      setStatus (text "disk_rejected:known_future_deadline_at_write")
    else command r before

/-- What the `try` block of `execute` does. -/
def attempt (r : Request) (limit : Bytes) (finalGap : Bool) : Exec Unit := do
  if ← lift ((unauthorized r).mapError .exception) then
    setStatus (text "disk_rejected:known_strength_authority")
  else if ← consult .cancelled then setStatus (text "disk_rejected:stopping")
  else
    let e ← consult .probe
    let reason ← refusal r e limit
    if reason ≠ [] then setStatus (text "disk_rejected:" ++ reason)
    else
      match ← tightened finalGap e with
      | none => setStatus (text "disk_rejected:final_forecast_or_target_unknown")
      | some before => recheck r limit before

/-- The handlers of `execute`. -/
def handled (out : Result) : Except Thrown Unit → Result
  | .ok _ => out
  | .error (.exception what) =>
    { out with
      status :=
        text (if out.writeAttempted.getD false then "disk_write_or_feedback_unknown:"
          else "disk_rejected:") ++ what
      uncertain := out.writeAttempted.getD false }
  | .error .unknown =>
    { out with
      status := text "disk_worker_exception_unknown"
      uncertain := true }

def execute (r : Request) (limit : Bytes) (finalGap : Bool) :
    Program Hook Hook.Answer Thrown Result :=
  (attempt r limit finalGap { request := r }).bind fun back => .ret (handled back.2 back.1)

end Parp.DiskSwapOut
