import Parp.MemshiftCore
import Parp.SortedMap

set_option autoImplicit false

/-!
# Daily requests

The records a daily action passes between its parties, and the authority of a request.
-/
namespace Parp.Daily

open Memshift SortedMap

/-- Minor and major fault counts of a process. -/
abbrev Faults := UInt64 × UInt64

structure OracleDonor where
  bundle : Text := []
  uid : Text := []
  aaState : Text := []
  members : Map UInt64 UInt64 := ∅
  memberUids : Map UInt64 UInt64 := ∅
  pid : UInt64 := 0
  start : UInt64 := 0
  aaPid : UInt64 := 0
  aaUid : UInt64 := 0
  procStart : UInt64 := 0
  dailyReady : Bool := false
  windowReady : Bool := false
  lifecycleClear : Bool := false
  procVerified : Bool := false
  readyAt : Float := 0
  aaObserved : Float := 0
  windowObserved : Float := 0
  procObserved : Float := 0
  lifecycleObserved : Float := 0

structure OracleRequest where
  id : Text := []
  caseId : Text := []
  launch : Float := 0
  needed : Bytes := 0
  schemaVersion : UInt32 := 1
  donors : List OracleDonor := []
  proofSequence : UInt64 := 0
  planFingerprint : Text := []

structure Request where
  actionId : Text := []
  groupPath : Text := []
  backend : Text := text "force_shrink_anon"
  qualification : Text := text "office_score_adj"
  sequence : UInt64 := 0
  groupDevice : UInt64 := 0
  groupInode : UInt64 := 0
  members : Map UInt64 UInt64 := ∅
  memberUids : Map UInt64 UInt64 := ∅
  reservedBytes : Bytes := 0
  appIndex : ℕ := 0
  keepBytes : Bytes := 0
  minBatch : Bytes := 0
  plannedRatio : UInt32 := 0
  knownLeadSec : Float := 35
  knownCapacity : Bool := false
  knownStrength : Bool := false
  pairedAfter : Text := []
  pairPostAnon : Bytes := 0
  pairFaults : Map UInt64 Faults := ∅
  knownEvent : Option OracleRequest := none
  hardDeadline : Float := 0
  reservedAt : Float := 0
  maxAgeSeconds : Float := 2
  forecastSampledAt : Float := 0
  forecastMaxAgeSeconds : Float := 5

structure Evidence where
  groupDevice : UInt64 := 0
  groupInode : UInt64 := 0
  members : Map UInt64 UInt64 := ∅
  background : Bool := false
  controlActive : Bool := false
  faultCounters : Map UInt64 Faults := ∅
  rssAnonBytes : Bytes := 0
  denominatorBytes : Bytes := 0
  systemGap : Bytes := 0
  swapRoom : Bytes := 0
  authorityExpires : Float := 0
  blocked : Text := []
  qualificationDiagnostic : Text := []

structure Feedback where
  verified : Bool := false
  rssAnonBytes : Bytes := 0
  faultCounters : Map UInt64 Faults := ∅

structure WriteReceipt where
  length : ℤ := -1
  error : ℤ := 0

structure Result where
  request : Request := {}
  status : Text := text "not_submitted"
  qualificationDiagnostic : Text := []
  diskBudgetDiagnostic : Text := []
  writeAttempted : Option Bool := some false
  writeLength : Option ℤ := none
  error : Option ℤ := none
  startedAt : Option Float := none
  returnedAt : Option Float := none
  writeMs : Option Float := none
  submittedRatio : UInt32 := 0
  nominalBytes : Bytes := 0
  preAnonBytes : Bytes := 0
  postAnonBytes : Bytes := 0
  diskZramBefore : Bytes := 0
  diskZramAfter : Bytes := 0
  diskEswapBefore : Bytes := 0
  diskEswapAfter : Bytes := 0
  feedbackVerified : Bool := false
  uncertain : Bool := false
  preparationFaultSafe : Bool := false
  feedbackFaults : Map UInt64 Faults := ∅

def deadlineAllows (r : Request) (now : Float) : Bool :=
  if r.knownEvent.isNone && r.hardDeadline == 0 then true
  else r.hardDeadline.isFinite && decide (0 < r.hardDeadline) && now.isFinite &&
    decide (now < r.hardDeadline) && r.knownEvent.all fun e => r.hardDeadline == e.launch

def target (needed reserve total : Bytes) : Except Text Bytes :=
  if needed = 0 ∨ Unlimited - reserve < needed ∨ total = 0 ∨ total < needed + reserve then
    .error (text "known_future_target_invalid")
  else .ok (needed + reserve)

def browser : Text := text "com.huawei.hmos.browser"

def workload (i : ℕ) : Text := text "io.memscene.scene4.workload.a" ++ toText i

/-- The `owned` flag of `known::validate`. -/
def donorOwned (e : OracleRequest) (d : OracleDonor) : Except Text Bool :=
  if e.schemaVersion = 2 then
    .ok ((List.range 13).any fun i => d.bundle = workload (i + 1))
  else if e.schemaVersion = 3 && d.bundle = browser && !d.members.isEmpty &&
      d.members.find? d.pid = some d.start && d.memberUids.size = d.members.size then
    match d.memberUids.find? d.pid with
    | none => .ok false
    | some memberUid => return memberUid = (← uintValue d.uid)
  else .ok false

/-- One donor of `known::validate`, after the donors in `seen`. -/
def validateDonor (e : OracleRequest) (now : Float) (seen : List OracleDonor) (d : OracleDonor) :
    Except Text Unit := do
  let owned ← donorOwned e d
  let uid ← uintValue d.uid
  if !owned || uid = 0 || d.pid = 0 || d.start = 0 || !d.dailyReady || !d.readyAt.isFinite ||
      decide (d.readyAt ≤ 0) || decide (e.launch ≤ d.readyAt) ||
      seen.any (fun s => s.bundle = d.bundle) || seen.any (fun s => s.uid = d.uid) ||
      seen.any (fun s => s.pid = d.pid) || !d.procVerified || d.procStart ≠ d.start ||
      d.aaPid ≠ d.pid || d.aaUid ≠ uid || !d.windowReady || !d.lifecycleClear ||
      (d.aaState ≠ text "BACKGROUND" && d.aaState ≠ text "FOREGROUND") then
    .error (text "known_future_registered_identity_incomplete")
  if e.schemaVersion = 3 && d.members.entries.any fun m =>
      m.1 = 0 || m.2 = 0 || (d.memberUids.find? m.1).getD 0 = 0 then
    .error (text "known_future_browser_member_identity_incomplete")
  if [d.aaObserved, d.windowObserved, d.procObserved, d.lifecycleObserved].any fun t =>
      !t.isFinite || decide (t ≤ 0) || decide (now < t) || decide (2.5 < now - t) then
    .error (text "known_future_device_proof_expired")

def validateDonors (e : OracleRequest) (now : Float) (seen : List OracleDonor) :
    List OracleDonor → Except Text Unit
  | [] => .ok ()
  | d :: donors => do
      validateDonor e now seen d
      validateDonors e now (d :: seen) donors

def validate (e : OracleRequest) (now : Float) (total reserve : Bytes)
    (preparationSeconds : Float) : Except Text Unit := do
  let _ ← target e.needed reserve total
  if (e.schemaVersion ≠ 2 && e.schemaVersion ≠ 3) || e.id = [] ||
      e.id ≠ e.caseId ++ text "_peak_transition" || e.planFingerprint.length ≠ 64 ||
      !e.planFingerprint.all ("0123456789abcdef".toList.contains ·) || e.proofSequence = 0 ||
      !now.isFinite || !e.launch.isFinite || !preparationSeconds.isFinite ||
      decide (preparationSeconds < 35) || decide (300 < preparationSeconds) ||
      decide (now < e.launch - preparationSeconds) || decide (e.launch ≤ now) ||
      !((e.schemaVersion = 2 && e.donors.length = 13) ||
        (e.schemaVersion = 3 && e.donors.length = 1)) then
    .error (text "known_future_event_unknown_outside_window_or_expired")
  validateDonors e now [] e.donors

def memberMatches (e : OracleRequest) (leaf : Text) (members memberUids : Map UInt64 UInt64) :
    Except Text Bool :=
  match e.donors.find? fun d => leaf = text "100/" ++ d.bundle ++ text "_" ++ d.uid with
  | none => .ok false
  | some d =>
    if e.schemaVersion = 3 && d.bundle = browser then
      if !members.isEmpty && d.members = members && d.memberUids = memberUids &&
          members.find? d.pid = some d.start then
        match memberUids.find? d.pid with
        | none => .ok false
        | some memberUid => return memberUid = (← uintValue d.uid)
      else .ok false
    else .ok (members.entries = [(d.pid, d.start)])

/-- An event may be matched by a browser donor with an unreadable uid: the exception goes on. -/
def strengthAuthority (r : Request) : Except Text Bool :=
  match r.knownEvent with
  | none => .ok false
  | some event =>
    if (r.knownLeadSec != 35 && !r.knownCapacity) || !r.knownStrength ||
        r.qualification ≠ text "owned_os_snapshot" ||
        r.keepBytes < (if r.knownCapacity then 128 else 512) * MiB ||
        (r.knownCapacity && r.minBatch < if event.schemaVersion = 3 then MiB else 64 * MiB) ||
        r.groupInode = 0 || !deadlineAllows r r.reservedAt then .ok false
    else do
      if ← memberMatches event r.groupPath r.members r.memberUids then
        match validate event r.reservedAt Unlimited 0 r.knownLeadSec with
        | .ok _ => return true
        | .error _ => return false
      else return false

def capacityAuthority (r : Request) : Except Text Bool :=
  if r.knownCapacity then strengthAuthority r else .ok false

def pairProtection (r : Request) (e : Evidence) : Except Text Text :=
  if r.pairedAfter = [] then .ok []
  else if r.backend ≠ text "force_swapout" then .ok (text "paired_fault_identity_unknown")
  else do
    if !(← strengthAuthority r) then return text "paired_fault_identity_unknown"
    match r.pairFaults.entries, e.faultCounters.entries, r.members.begin? with
    | [(pairPid, prior)], [(pid, current)], some (member, _) =>
      if pairPid ≠ member || pid ≠ member then return text "paired_fault_identity_unknown"
      else if current.1 < prior.1 || current.2 < prior.2 || prior.2 < current.2 ||
          1024 < current.1 - prior.1 then return text "paired_fault_backoff"
      else if add r.pairPostAnon MiB < e.rssAnonBytes then
        return text "paired_rss_rebound_backoff"
      else return []
    | _, _, _ => return text "paired_fault_identity_unknown"

end Parp.Daily
