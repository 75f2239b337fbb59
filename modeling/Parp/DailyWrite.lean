import Parp.DailyAction
import Parp.HookPrograms

set_option autoImplicit false

/-!
# The write of a daily action

`daily::execute` asks its hooks in a fixed order; each of them may answer differently every time it
is asked, and may throw.
-/
namespace Parp.DailyWrite

open Memshift Daily HookPrograms

/-- What a hook throws: a `std::exception` with its text, or anything else. -/
inductive Thrown
  | exception (what : Text)
  | unknown

inductive Hook
  | probe
  | write (payload : Text)
  | feedbackDelay
  | feedback
  | now
  | cancelled
  | ratioForBudget (cap denominator : Bytes)
  | finalGap

@[reducible]
def Hook.Answer : Hook → Type
  | probe => Evidence
  | write _ => WriteReceipt
  | feedbackDelay => Unit
  | feedback => Feedback
  | now => Float
  | cancelled => Bool
  | ratioForBudget _ _ => UInt32
  | finalGap => Option Bytes

abbrev Call := HookPrograms.Call Hook Hook.Answer Thrown

/-- The body of `execute`, with the result it fills in. -/
abbrev Exec := HookPrograms.Exec Hook Hook.Answer Thrown Result

def consult (hook : Hook) : Exec hook.Answer := ask hook

def setStatus (status : String) : Exec Unit := update fun r => { r with status := text status }

def ratioCeiling (r : Request) : Except Text UInt32 := do
  if ← capacityAuthority r then return 95
  if ← strengthAuthority r then return 60
  return 20

def ratioNominal (denominator : Bytes) (ratio : UInt32) : Bytes :=
  denominator / 100 * ratio.toUInt64 + denominator % 100 * ratio.toUInt64 / 100

/-- The loop of `ratioWithin`, from a ratio down. -/
def ratioFrom (cap denominator : Bytes) : ℕ → UInt32
  | 0 => 0
  | n + 1 =>
    if ratioNominal denominator (UInt32.ofNat (n + 1)) ≤ cap then UInt32.ofNat (n + 1)
    else ratioFrom cap denominator n

def ratioWithin (cap denominator : Bytes) (ceiling : UInt32) : UInt32 :=
  if denominator = 0 then 0 else ratioFrom cap denominator (min 95 ceiling).toNat

/-- The cap of `execute`, over what the donor has beyond what it keeps. -/
def writeCap (request : Request) (e : Evidence) (finalGap : Bytes) : Bytes :=
  let donor := min e.rssAnonBytes e.denominatorBytes
  let room := sub (sub donor request.keepBytes) (128 * 1024)
  min request.reservedBytes (min room (min e.systemGap (min finalGap e.swapRoom)))

def staleRequest (r : Request) (now : Float) : Bool :=
  let age := now - r.reservedAt
  !age.isFinite || decide (age < 0) || decide (r.maxAgeSeconds < age)

def expiredForecast (r : Request) (now : Float) : Bool :=
  let age := now - r.forecastSampledAt
  !age.isFinite || decide (age < 0) || decide (r.forecastMaxAgeSeconds ≤ age)

def changedIdentity (r : Request) (e : Evidence) : Bool :=
  e.groupDevice ≠ r.groupDevice || e.groupInode ≠ r.groupInode || e.members.isEmpty ||
    e.members ≠ r.members

def unauthorized (r : Request) : Except Text Bool := do
  if r.knownStrength || r.knownCapacity then return !(← strengthAuthority r)
  return false

def expired (e : Evidence) : Exec Bool :=
  if 0 < e.authorityExpires then do return decide (e.authorityExpires < (← consult .now))
  else return false

/-- `preparationFaultSafe`, where the counters are those of the member. -/
def faultSafe (request : Request) (e : Evidence) (feedback : Feedback) : Option Bool :=
  match e.faultCounters.entries, feedback.faultCounters.entries, request.members.begin? with
  | [(pid, before)], [(pidAfter, after)], some (member, _) =>
    if request.knownStrength && pid = member && pidAfter = member then
      some (before.1 ≤ after.1 && after.2 = before.2 && after.1 - before.1 ≤ 1024)
    else none
  | _, _, _ => none

def observeFeedback (request : Request) (e : Evidence) (feedback : Feedback) (r : Result) :
    Result :=
  let verified := feedback.verified && request.keepBytes ≤ feedback.rssAnonBytes
  { r with
    feedbackVerified := verified
    postAnonBytes := feedback.rssAnonBytes
    feedbackFaults := feedback.faultCounters
    preparationFaultSafe := (faultSafe request e feedback).getD r.preparationFaultSafe
    status := text (if verified then "write_accepted_feedback_verified"
      else "write_accepted_feedback_unknown") }

def receive (startedAt returnedAt : Float) (written : WriteReceipt) (r : Result) : Result :=
  { r with
    returnedAt := some returnedAt
    writeMs := some ((returnedAt - startedAt) * 1000)
    writeLength := some written.length
    error := some written.error }

def afterWrite (request : Request) (e : Evidence) (payload : Text) (written : WriteReceipt) :
    Exec Unit := do
  if written.length < 0 then setStatus "write_failed_charge_retained"
  else if written.length ≠ payload.length then
    update fun r => { r with
      status := text "write_partial_unknown_charge_retained"
      uncertain := true }
  else
    consult .feedbackDelay
    let feedback ← consult .feedback
    update (observeFeedback request e feedback)

def transmit (request : Request) (e : Evidence) (ratio : UInt32) (nominal : Bytes) :
    Exec Unit := do
  let payload := toText ratio.toNat
  update fun r => { r with
    submittedRatio := ratio
    nominalBytes := nominal
    preAnonBytes := e.rssAnonBytes }
  let startedAt ← consult .now
  update fun r => { r with
    startedAt := some startedAt
    writeAttempted := some true }
  let written ← consult (.write payload)
  let returnedAt ← consult .now
  update (receive startedAt returnedAt written)
  afterWrite request e payload written

def recheck (request : Request) (e : Evidence) (ratio : UInt32) (nominal : Bytes) :
    Exec Unit := do
  if ← consult .cancelled then setStatus "rejected:stopping"
  else if ← expired e then setStatus "rejected:device_snapshot_expired_at_write"
  else if staleRequest request (← consult .now) then setStatus "rejected:request_stale_at_write"
  else if expiredForecast request (← consult .now) then setStatus "rejected:forecast_expired_at_write"
  else if !deadlineAllows request (← consult .now) then
    setStatus "rejected:known_future_deadline_at_write"
  else transmit request e ratio nominal

def budgetRatio (request : Request) (e : Evidence) (cap : Bytes) (ceiling : UInt32) :
    Exec UInt32 :=
  if request.knownStrength then pure (ratioWithin cap e.denominatorBytes ceiling)
  else consult (.ratioForBudget cap e.denominatorBytes)

def spend (request : Request) (e : Evidence) (finalGap : Bytes) : Exec Unit := do
  let cap := writeCap request e finalGap
  let ceiling ← lift ((ratioCeiling request).mapError .exception)
  let budgetRatio ← budgetRatio request e cap ceiling
  let ratio := min (min request.plannedRatio ceiling) budgetRatio
  let nominal := ratioNominal e.denominatorBytes ratio
  if ratio = 0 ∨ nominal < request.minBatch ∨ request.reservedBytes < nominal ∨ cap < nominal then
    setStatus "rejected:fresh_budget_or_keep_below_minimum"
  else recheck request e ratio nominal

/-- A hook `finalGap` that is left out changes nothing. -/
def refreshedGap (finalGap : Bool) (e : Evidence) : Exec (Option Bytes) :=
  if finalGap then consult .finalGap else pure (some e.systemGap)

def qualify (request : Request) (finalGap : Bool) (e : Evidence) : Exec Unit := do
  let probedAt ← consult .now
  let forecastAt ← consult .now
  if staleRequest request probedAt then setStatus "rejected:request_stale"
  else if expiredForecast request forecastAt then setStatus "rejected:forecast_expired"
  else if e.blocked ≠ [] then
    update fun r => { r with status := text "rejected:" ++ e.blocked }
  else if changedIdentity request e then setStatus "rejected:member_or_group_identity_changed"
  else if !e.background || !e.controlActive then
    setStatus "rejected:background_or_control_changed"
  else if ← expired e then setStatus "rejected:device_snapshot_expired"
  else
    match ← refreshedGap finalGap e with
    | none => setStatus "rejected:final_forecast_or_target_unknown"
    | some gap => spend request e gap

/-- What the `try` block of `execute` does; the hook `finalGap` may be left out. -/
def attempt (request : Request) (finalGap : Bool) : Exec Unit := do
  if ← lift ((unauthorized request).mapError .exception) then
    setStatus "rejected:known_strength_authority"
  else if ← consult .cancelled then setStatus "rejected:stopping"
  else
    let e ← consult .probe
    update fun r => { r with qualificationDiagnostic := e.qualificationDiagnostic }
    qualify request finalGap e

/-- The handlers of `execute`. -/
def handled (r : Result) : Except Thrown Unit → Result
  | .ok _ => r
  | .error (.exception what) =>
    { r with
      status :=
        text (if r.writeAttempted.getD false then "write_or_feedback_unknown:"
          else "rejected:") ++ what
      uncertain := r.writeAttempted.getD false && r.writeLength.isNone }
  | .error .unknown =>
    { r with
      status := text "worker_exception_unknown"
      uncertain := true }

def conclude (r : Result) : Result :=
  if r.writeAttempted.getD false && (r.writeLength.any fun length => 0 ≤ length) &&
      !r.feedbackVerified then { r with uncertain := true }
  else r

def execute (request : Request) (finalGap : Bool) : Program Hook Hook.Answer Thrown Result :=
  (attempt request finalGap { request := request }).bind fun back =>
    .ret (conclude (handled back.2 back.1))

end Parp.DailyWrite
