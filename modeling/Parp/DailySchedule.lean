import Mathlib.Data.List.Induction
import Mathlib.Data.List.Rotate
import Parp.Binary64
import Parp.DailyAction
import Parp.FallibleFolds

set_option autoImplicit false

/-!
# The schedule of the daily actions

`Schedule` and `PairedDisk` of `daily_action_schedule.hpp`: when an application may act again, and
the one disk request that may follow a preparation.
-/
namespace Parp.Daily

open Memshift List

def sameDonor (x y : OracleDonor) : Bool :=
  x.bundle = y.bundle && x.uid = y.uid && x.pid = y.pid && x.start = y.start &&
    x.members = y.members && x.memberUids = y.memberUids

def sameRegistration (a b : OracleRequest) : Bool :=
  a.schemaVersion = b.schemaVersion && a.id = b.id && a.caseId = b.caseId && a.launch == b.launch &&
    a.needed = b.needed && a.planFingerprint = b.planFingerprint &&
    a.donors.length = b.donors.length && (a.donors.zip b.donors).all fun d => sameDonor d.1 d.2

def verifiedWrite (r : Result) : Bool :=
  if r.uncertain || !r.writeAttempted.getD false || r.writeLength = none || r.error ≠ some 0 ||
      !r.feedbackVerified then false
  else if r.request.backend = text "force_shrink_anon" then
    r.status = text "write_accepted_feedback_verified" && 0 < r.submittedRatio &&
      r.writeLength = some ((toText r.submittedRatio.toNat).length : ℤ)
  else r.request.backend = text "force_swapout" &&
    r.status = text "disk_command_accepted_transition_observed" && r.writeLength = some 1

/-- A known refusal before any write. -/
def ownedQualificationNoWrite (r : Result) : Bool :=
  if r.request.qualification ≠ text "owned_os_snapshot" || r.writeAttempted ≠ some false ||
      r.writeLength ≠ none || r.uncertain then false
  else (r.request.backend = text "force_shrink_anon" &&
      r.status = text "rejected:owned_device_snapshot:aa_background_unknown_or_foreground") ||
    (r.request.backend = text "force_swapout" &&
      r.status = text "disk_rejected:background_or_control_changed")

def verifiedStatus (r : Result) : Bool :=
  !r.uncertain && (r.status = text "write_accepted_feedback_verified" ||
    r.status = text "disk_command_accepted_transition_observed")

/-- `std::max`. -/
def fmax (a b : Float) : Float := if a < b then b else a

def backoffSeconds (r : Result) (cooldown : Float) : Float :=
  if ownedQualificationNoWrite r then fmax 10 cooldown
  else if verifiedStatus r then fmax 10 cooldown
  else 60

structure Schedule where
  appUntil : List Float
  protectionUntil : List Float
  globalUntil : Float := 0
  cursor : ℕ := 0
  halted : Bool := false

namespace Schedule

def start (count : ℕ) : Schedule := ⟨List.replicate count 0, List.replicate count 0, 0, 0, false⟩

def ready (s : Schedule) (untils : List Float) (index : ℕ) (now : Float) : Bool :=
  !s.halted && now.isFinite && decide (s.globalUntil ≤ now) &&
    untils[index]?.any fun until_ => decide (until_ ≤ now)

def eligible (s : Schedule) (appIndex : ℕ) (now : Float) : Bool := s.ready s.appUntil appIndex now

def pairedEligible (s : Schedule) (index : ℕ) (now : Float) : Bool :=
  s.ready s.protectionUntil index now

def halt (s : Schedule) : Schedule := { s with halted := true }

def submitted (s : Schedule) (appIndex : ℕ) : Schedule :=
  if appIndex < s.appUntil.length then { s with cursor := (appIndex + 1) % s.appUntil.length }
  else s

/-- The times of one application move on, never back. -/
def extended (untils : List Float) (index : ℕ) (time : Float) : List Float :=
  untils.modify index fun until_ => fmax until_ time

def defer (s : Schedule) (appIndex : ℕ) (now seconds : Float) : Schedule :=
  if s.appUntil.length ≤ appIndex || !now.isFinite || !seconds.isFinite then s.halt
  else { s with
    appUntil := extended s.appUntil appIndex (now + fmax 0 seconds)
    protectionUntil := extended s.protectionUntil appIndex (now + fmax 0 seconds) }

/-- From where the spacing counts: a validated return of a known-strength write, else the poll. -/
def anchor (result : Result) (polledAt : Float) (knownStrength : Bool) : Except Text Float :=
  if !knownStrength then .ok polledAt
  else do
    if (← strengthAuthority result.request) && verifiedWrite result then
      match result.startedAt, result.returnedAt with
      | some started, some returned =>
        if started.isFinite && returned.isFinite && decide (0 ≤ started) &&
            decide (started ≤ returned) && decide (returned ≤ polledAt) then return returned
        else return polledAt
      | _, _ => return polledAt
    else return polledAt

def complete (s : Schedule) (result : Result) (polledAt cooldown : Float) (knownStrength : Bool) :
    Except Text Schedule :=
  let s := if result.uncertain then s.halt else s
  if s.appUntil.length ≤ result.request.appIndex || !polledAt.isFinite then .ok s.halt
  else
    let untils := extended s.appUntil result.request.appIndex
      (polledAt + backoffSeconds result cooldown)
    (anchor result polledAt knownStrength).map fun anchor =>
      { s with appUntil := untils, globalUntil := fmax s.globalUntil (anchor + 1) }

end Schedule

structure PairedDisk where
  prepared : Option Request := none

namespace PairedDisk

def cancel (_ : PairedDisk) : PairedDisk := {}

def preparation (r : Result) : Request :=
  { r.request with
    pairedAfter := r.request.actionId
    pairPostAnon := r.postAnonBytes
    pairFaults := r.feedbackFaults }

def completed (r : Result) (enabled : Bool) : Except Text PairedDisk :=
  if !enabled then .ok {}
  else do
    if (← strengthAuthority r.request) && verifiedWrite r &&
        r.request.backend = text "force_shrink_anon" && r.postAnonBytes < r.preAnonBytes &&
        r.preparationFaultSafe && r.feedbackFaults.size = 1 then
      return ⟨some (preparation r)⟩
    else return {}

def refresh (p : PairedDisk) (e : Option OracleRequest) (now : Float) : PairedDisk :=
  match p.prepared with
  | none => p
  | some prepared =>
    match e, prepared.knownEvent with
    | some e, some event =>
      if !sameRegistration e event || !deadlineAllows prepared now then p.cancel else p
    | _, _ => p.cancel

/-- The disk request with what it may count on, if it is bound. -/
def bind (p : PairedDisk) (disk : Request) : Except Text (Option Request) :=
  match p.prepared with
  | none => .ok none
  | some prepared =>
    if disk.backend ≠ text "force_swapout" || disk.appIndex ≠ prepared.appIndex ||
        disk.groupPath ≠ prepared.groupPath || disk.groupDevice ≠ prepared.groupDevice ||
        disk.groupInode ≠ prepared.groupInode || disk.members ≠ prepared.members ||
        disk.knownLeadSec != prepared.knownLeadSec ||
        disk.knownCapacity ≠ prepared.knownCapacity || disk.keepBytes ≠ prepared.keepBytes then
      .ok none
    else do
      if !(← strengthAuthority disk) then return none
      match disk.knownEvent, prepared.knownEvent with
      | some event, some registered =>
        if !sameRegistration event registered then return none
        else return some { disk with
          pairedAfter := prepared.pairedAfter
          pairPostAnon := prepared.pairPostAnon
          pairFaults := prepared.pairFaults }
      | _, _ => return none

end PairedDisk

inductive Call
  | submitted (appIndex : ℕ)
  | defer (appIndex : ℕ) (now seconds : Float)
  | complete (result : Result) (polledAt cooldown : Float) (knownStrength : Bool)
  | halt
  | completed (result : Result) (enabled : Bool)
  | cancel
  | refresh (e : Option OracleRequest) (now : Float)

structure Planner where
  schedule : Schedule
  paired : PairedDisk := {}

/-- An exception ends the run. -/
def Planner.call (s : Planner) : Call → Except Text Planner
  | .submitted appIndex => .ok { s with schedule := s.schedule.submitted appIndex }
  | .defer appIndex now seconds => .ok { s with schedule := s.schedule.defer appIndex now seconds }
  | .complete result polledAt cooldown knownStrength => do
    return { s with schedule := ← s.schedule.complete result polledAt cooldown knownStrength }
  | .halt => .ok { s with schedule := s.schedule.halt }
  | .completed result enabled => do
    return { s with paired := ← PairedDisk.completed result enabled }
  | .cancel => .ok { s with paired := s.paired.cancel }
  | .refresh e now => .ok { s with paired := s.paired.refresh e now }

def plan (count : ℕ) (calls : List Call) : Except Text Planner :=
  calls.foldlM Planner.call { schedule := .start count }

section

open Binary64

theorem not_le_fmax_left {until_ now : Float} (h : ¬ until_ ≤ now) (time : Float) :
    ¬ fmax until_ time ≤ now := by
  unfold fmax
  split_ifs with hless
  · exact fun hle => h (le_of_lt_of_le hless hle)
  · exact h

theorem not_le_fmax_right {time now : Float} (h : now < time) (until_ : Float) :
    ¬ fmax until_ time ≤ now := by
  unfold fmax
  split_ifs with hless
  · exact not_le_of_lt h
  · exact fun hle => hless (lt_of_le_of_lt hle h)

theorem le_fmax_left {a : Float} (ha : a ≤ a) (b : Float) : a ≤ fmax a b := by
  unfold fmax
  split_ifs with hless
  · exact le_of_lt hless
  · exact ha

theorem backoff_at_least_ten (r : Result) (cooldown : Float) : 10 ≤ backoffSeconds r cooldown := by
  unfold backoffSeconds
  split_ifs
  · exact le_fmax_left (by decide) cooldown
  · exact le_fmax_left (by decide) cooldown
  · decide

theorem backoff_unverified {r : Result} (hrefusal : ownedQualificationNoWrite r = false)
    (hverified : verifiedStatus r = false) (cooldown : Float) : backoffSeconds r cooldown = 60 := by
  unfold backoffSeconds
  rw [if_neg (by simp [hrefusal]), if_neg (by simp [hverified])]

end

namespace Schedule

section

variable {s s' : Schedule} {now : Float} {untils : List Float} {index : ℕ}

theorem ready_iff :
    s.ready untils index now = true ↔ s.halted = false ∧ now.isFinite = true ∧
      s.globalUntil ≤ now ∧ ∃ until_, untils[index]? = some until_ ∧ until_ ≤ now := by
  simp [ready, Option.any_eq_true, and_assoc]

/-- Nothing that is not eligible becomes eligible at the same time. -/
structure Later (s s' : Schedule) : Prop where
  eligible : ∀ index now, s'.eligible index now = true → s.eligible index now = true
  paired : ∀ index now, s'.pairedEligible index now = true → s.pairedEligible index now = true

theorem Later.refl (s : Schedule) : Later s s := ⟨fun _ _ h => h, fun _ _ h => h⟩

theorem Later.trans {s'' : Schedule} (h : Later s s') (h' : Later s' s'') : Later s s'' :=
  ⟨fun i now hi => h.eligible i now (h'.eligible i now hi),
    fun i now hi => h.paired i now (h'.paired i now hi)⟩

theorem Later.refuses (h : Later s s') (hnot : s.eligible index now = false) :
    s'.eligible index now = false := by
  rw [← Bool.not_eq_true] at hnot ⊢
  exact fun heligible => hnot (h.eligible index now heligible)

theorem Later.refusesPaired (h : Later s s') (hnot : s.pairedEligible index now = false) :
    s'.pairedEligible index now = false := by
  rw [← Bool.not_eq_true] at hnot ⊢
  exact fun heligible => hnot (h.paired index now heligible)

theorem later_of_parts (hhalted : s'.halted = false → s.halted = false)
    (hglobal : ∀ now, s'.globalUntil ≤ now → s.globalUntil ≤ now)
    (happ : ∀ (index : ℕ) now, (∃ u, s'.appUntil[index]? = some u ∧ u ≤ now) →
      ∃ u, s.appUntil[index]? = some u ∧ u ≤ now)
    (hprotection : ∀ (index : ℕ) now, (∃ u, s'.protectionUntil[index]? = some u ∧ u ≤ now) →
      ∃ u, s.protectionUntil[index]? = some u ∧ u ≤ now) : Later s s' := by
  constructor
  · intro index now h
    obtain ⟨hrunning, hfinite, hspaced, huntil⟩ := ready_iff.1 h
    exact ready_iff.2 ⟨hhalted hrunning, hfinite, hglobal now hspaced, happ index now huntil⟩
  · intro index now h
    obtain ⟨hrunning, hfinite, hspaced, huntil⟩ := ready_iff.1 h
    exact ready_iff.2 ⟨hhalted hrunning, hfinite, hglobal now hspaced, hprotection index now huntil⟩

theorem extended_getElem? (untils : List Float) (index : ℕ) (time : Float) (j : ℕ) :
    (extended untils index time)[j]? =
      untils[j]?.map fun until_ => if index = j then fmax until_ time else until_ := by
  unfold extended
  rw [getElem?_modify]
  rfl

theorem extended_later {index j : ℕ} {time now : Float}
    (h : ∃ u, (extended untils index time)[j]? = some u ∧ u ≤ now) :
    ∃ u, untils[j]? = some u ∧ u ≤ now := by
  obtain ⟨u, hu, hle⟩ := h
  rw [extended_getElem?] at hu
  obtain ⟨old, hold, rfl⟩ := Option.map_eq_some_iff.1 hu
  refine ⟨old, hold, ?_⟩
  split_ifs at hle
  · by_contra hnot
    exact not_le_fmax_left hnot time hle
  · exact hle

theorem extended_blocks {time now : Float} (h : now < time) :
    ¬ ∃ u, (extended untils index time)[index]? = some u ∧ u ≤ now := by
  rintro ⟨u, hu, hle⟩
  rw [extended_getElem?] at hu
  obtain ⟨old, -, rfl⟩ := Option.map_eq_some_iff.1 hu
  rw [if_pos rfl] at hle
  exact not_le_fmax_right h old hle

theorem later_halt (s : Schedule) : Later s s.halt :=
  later_of_parts nofun (fun _ h => h) (fun _ _ h => h) fun _ _ h => h

theorem later_submitted (s : Schedule) (index : ℕ) : Later s (s.submitted index) := by
  unfold submitted
  split_ifs
  · exact later_of_parts (fun h => h) (fun _ h => h) (fun _ _ h => h) fun _ _ h => h
  · exact .refl s

theorem later_defer (s : Schedule) (index : ℕ) (now seconds : Float) :
    Later s (s.defer index now seconds) := by
  unfold defer
  split_ifs
  · exact later_halt s
  · exact later_of_parts (fun h => h) (fun _ h => h) (fun _ _ => extended_later)
      fun _ _ => extended_later

variable {result : Result} {polledAt cooldown : Float} {knownStrength : Bool}

theorem complete_cases (h : s.complete result polledAt cooldown knownStrength = .ok s') :
    s' = s.halt ∨ (polledAt.isFinite = true ∧ ∃ time,
      anchor result polledAt knownStrength = .ok time ∧
        s' = { s with
          halted := s.halted || result.uncertain
          appUntil := extended s.appUntil result.request.appIndex
            (polledAt + backoffSeconds result cooldown)
          globalUntil := fmax s.globalUntil (time + 1) }) := by
  unfold complete at h
  have hhalts : (if result.uncertain = true then s.halt else s) =
      { s with halted := s.halted || result.uncertain } := by
    cases result.uncertain with
    | false => simp
    | true => simp [halt]
  rw [hhalts] at h
  dsimp only at h
  split_ifs at h with hrefused
  · left
    exact (Except.ok.inj h).symm
  · right
    simp only [Bool.or_eq_true, decide_eq_true_eq, Bool.not_eq_true', not_or,
      Bool.not_eq_false] at hrefused
    cases hanchor : anchor result polledAt knownStrength with
    | error e =>
      rw [hanchor] at h
      cases h
    | ok time =>
      rw [hanchor] at h
      exact ⟨hrefused.2, time, rfl, (Except.ok.inj h).symm⟩

theorem later_complete
    (h : s.complete result polledAt cooldown knownStrength = .ok s') : Later s s' := by
  rcases complete_cases h with rfl | ⟨-, time, -, rfl⟩
  · exact later_halt s
  · refine later_of_parts (fun hrunning => ?_) (fun now hle => ?_) (fun _ _ => extended_later)
      fun _ _ h => h
    · exact (Bool.or_eq_false_iff.1 hrunning).1
    · by_contra hnot
      exact not_le_fmax_left hnot _ hle

theorem halted_refuses (h : s.halted = true) (index : ℕ) (now : Float) :
    s.eligible index now = false ∧ s.pairedEligible index now = false := by
  unfold eligible pairedEligible ready
  rw [h]
  exact ⟨rfl, rfl⟩

theorem not_ready_of_global (h : ¬ s.globalUntil ≤ now) (untils : List Float) (index : ℕ) :
    s.ready untils index now = false := by
  rw [← Bool.not_eq_true, ready_iff]
  exact fun hready => h hready.2.2.1

theorem not_ready_of_not_finite (h : now.isFinite = false) (untils : List Float) (index : ℕ) :
    s.ready untils index now = false := by
  rw [← Bool.not_eq_true, ready_iff, h]
  exact fun hready => Bool.noConfusion hready.2.1

theorem not_ready_of_until (h : ¬ ∃ u, untils[index]? = some u ∧ u ≤ now) :
    s.ready untils index now = false := by
  rw [← Bool.not_eq_true, ready_iff]
  exact fun hready => h hready.2.2.2

/-- Where the spacing of a completion counts from. -/
def Anchored (result : Result) (polledAt : Float) (knownStrength : Bool) (time : Float) : Prop :=
  time = polledAt ∨ (knownStrength = true ∧ strengthAuthority result.request = .ok true ∧
    verifiedWrite result = true ∧ result.returnedAt = some time ∧ time ≤ polledAt)

theorem anchored_of_anchor {polledAt time : Float} {knownStrength : Bool}
    (h : anchor result polledAt knownStrength = .ok time) :
    Anchored result polledAt knownStrength time := by
  unfold anchor at h
  cases hknown : knownStrength with
  | false =>
    rw [hknown] at h
    exact .inl (Except.ok.inj h).symm
  | true =>
    rw [hknown] at h
    obtain ⟨authority, hauthority, h⟩ := FallibleFolds.bind_eq_ok.1 h
    split_ifs at h with hverified
    · rw [Bool.and_eq_true] at hverified
      cases hstarted : result.startedAt with
      | none =>
        rw [hstarted] at h
        exact .inl (Except.ok.inj h).symm
      | some started =>
        cases hreturned : result.returnedAt with
        | none =>
          rw [hstarted, hreturned] at h
          exact .inl (Except.ok.inj h).symm
        | some returned =>
          rw [hstarted, hreturned] at h
          dsimp only at h
          split_ifs at h with hvalid
          · obtain rfl := Except.ok.inj h
            simp only [Bool.and_eq_true, decide_eq_true_eq] at hvalid
            exact .inr ⟨rfl, by rw [hauthority, hverified.1], hverified.2, hreturned, hvalid.2⟩
          · exact .inl (Except.ok.inj h).symm
    · exact .inl (Except.ok.inj h).symm

theorem complete_spaces (h : s.complete result polledAt cooldown knownStrength = .ok s') :
    ∃ time, Anchored result polledAt knownStrength time ∧ ∀ index now, now < time + 1 →
      s'.eligible index now = false ∧ s'.pairedEligible index now = false := by
  rcases complete_cases h with rfl | ⟨-, time, hanchor, rfl⟩
  · exact ⟨polledAt, .inl rfl, fun index now _ => halted_refuses rfl index now⟩
  · refine ⟨time, anchored_of_anchor hanchor, fun index now hnow => ?_⟩
    have hglobal := not_le_fmax_right hnow s.globalUntil
    constructor
    · apply not_ready_of_global
      exact hglobal
    · apply not_ready_of_global
      exact hglobal

theorem complete_backs_off (h : s.complete result polledAt cooldown knownStrength = .ok s')
    (hnow : now < polledAt + backoffSeconds result cooldown) :
    s'.eligible result.request.appIndex now = false := by
  rcases complete_cases h with rfl | ⟨-, time, -, rfl⟩
  · exact (halted_refuses rfl _ now).1
  · have hblocked := @extended_blocks s.appUntil result.request.appIndex _ now hnow
    exact not_ready_of_until hblocked

theorem defer_backs_off (s : Schedule) (index : ℕ) (time seconds : Float)
    (hnow : now < time + fmax 0 seconds) :
    (s.defer index time seconds).eligible index now = false ∧
      (s.defer index time seconds).pairedEligible index now = false := by
  unfold defer
  split_ifs
  · exact halted_refuses rfl _ now
  · have happ := @extended_blocks s.appUntil index _ now hnow
    have hprotection := @extended_blocks s.protectionUntil index _ now hnow
    exact ⟨not_ready_of_until happ, not_ready_of_until hprotection⟩

theorem defer_halts (s : Schedule) (index : ℕ) {time seconds : Float}
    (h : time.isFinite = false ∨ seconds.isFinite = false) :
    (s.defer index time seconds).halted = true := by
  unfold defer
  rw [if_pos]
  · rfl
  · rcases h with h | h <;> simp [h]

theorem complete_halts (h : s.complete result polledAt cooldown knownStrength = .ok s')
    (hbad : result.uncertain = true ∨ polledAt.isFinite = false) : s'.halted = true := by
  rcases complete_cases h with rfl | ⟨hfinite, time, -, rfl⟩
  · rfl
  · rcases hbad with hbad | hbad
    · dsimp only
      rw [hbad, Bool.or_true]
    · rw [hfinite] at hbad
      cases hbad

end

end Schedule

section

open Schedule

variable {count : ℕ} {s s' : Planner} {call : Call} {prepared : Request} {calls : List Call}
  {p : PairedDisk}

theorem call_later (h : s.call call = .ok s') : Later s.schedule s'.schedule := by
  cases call with
  | submitted index =>
    obtain rfl := Except.ok.inj h
    exact later_submitted _ index
  | defer index now seconds =>
    obtain rfl := Except.ok.inj h
    exact later_defer _ index now seconds
  | complete result polledAt cooldown knownStrength =>
    obtain ⟨schedule, hcomplete, h⟩ := FallibleFolds.bind_eq_ok.1 h
    obtain rfl := Except.ok.inj h
    exact later_complete hcomplete
  | halt =>
    obtain rfl := Except.ok.inj h
    exact later_halt _
  | completed result enabled =>
    obtain ⟨paired, -, h⟩ := FallibleFolds.bind_eq_ok.1 h
    obtain rfl := Except.ok.inj h
    exact .refl _
  | cancel =>
    obtain rfl := Except.ok.inj h
    exact .refl _
  | refresh e now =>
    obtain rfl := Except.ok.inj h
    exact .refl _

theorem plan_split {before after : List Call} (h : plan count (before ++ call :: after) = .ok s) :
    ∃ s₁ s₂, plan count before = .ok s₁ ∧
      s₁.call call = .ok s₂ ∧ Later s₂.schedule s.schedule := by
  unfold plan at h
  rw [foldlM_append] at h
  obtain ⟨s₁, hbefore, h⟩ := FallibleFolds.bind_eq_ok.1 h
  rw [foldlM_cons] at h
  obtain ⟨s₂, hcall, h⟩ := FallibleFolds.bind_eq_ok.1 h
  refine ⟨s₁, s₂, hbefore, hcall, ?_⟩
  exact FallibleFolds.foldlM_invariant (I := fun t => Later s₂.schedule t.schedule)
    (fun _ _ _ hstep hlater => hlater.trans (call_later hstep)) h (.refl _)

/-- An uncertain result, a time that is not finite, or a halt. -/
def Call.Stops : Call → Prop
  | .defer _ now seconds => now.isFinite = false ∨ seconds.isFinite = false
  | .complete result polledAt _ _ => result.uncertain = true ∨ polledAt.isFinite = false
  | .halt => True
  | _ => False

theorem stops_halts (h : s.call call = .ok s') (hstops : call.Stops) :
    s'.schedule.halted = true := by
  cases call with
  | defer index now seconds =>
    obtain rfl := Except.ok.inj h
    exact defer_halts s.schedule index hstops
  | complete result polledAt cooldown knownStrength =>
    obtain ⟨schedule, hcomplete, h⟩ := FallibleFolds.bind_eq_ok.1 h
    obtain rfl := Except.ok.inj h
    exact complete_halts hcomplete hstops
  | halt =>
    obtain rfl := Except.ok.inj h
    rfl
  | submitted | completed | cancel | refresh => exact hstops.elim

/-- The result of the last completion, from which the prepared request was made. -/
structure Prepared (calls : List Call) (prepared : Request) (r : Result) : Prop where
  last : ∃ before after, calls = before ++ .completed r true :: after ∧
    ∀ call ∈ after, ∀ r' enabled, call ≠ .completed r' enabled
  request : prepared = PairedDisk.preparation r
  authority : strengthAuthority r.request = .ok true
  verified : verifiedWrite r = true
  backend : r.request.backend = text "force_shrink_anon"
  reduced : r.postAnonBytes < r.preAnonBytes
  faultSafe : r.preparationFaultSafe = true
  oneMember : r.feedbackFaults.size = 1

theorem prepared_completed {r : Result} {enabled : Bool}
    (h : PairedDisk.completed r enabled = .ok p) (hprepared : p.prepared = some prepared) :
    Prepared (calls ++ [.completed r enabled]) prepared r := by
  unfold PairedDisk.completed at h
  cases enabled with
  | false =>
    obtain rfl := Except.ok.inj h
    cases hprepared
  | true =>
    obtain ⟨authority, hauthority, h⟩ := FallibleFolds.bind_eq_ok.1 h
    split_ifs at h with hsuccess
    · obtain rfl := Except.ok.inj h
      obtain rfl := Option.some.inj hprepared
      simp only [Bool.and_eq_true, decide_eq_true_eq] at hsuccess
      obtain ⟨⟨⟨⟨⟨hauthorized, hverified⟩, hbackend⟩, hreduced⟩, hsafe⟩, hsize⟩ := hsuccess
      have hlast : ∀ call ∈ ([] : List Call), ∀ r' enabled, call ≠ .completed r' enabled :=
        fun call hcall => (not_mem_nil hcall).elim
      exact ⟨⟨calls, [], rfl, hlast⟩, rfl, by rw [hauthority, hauthorized], hverified, hbackend,
        hreduced, hsafe, hsize⟩
    · obtain rfl := Except.ok.inj h
      cases hprepared

theorem Prepared.keep {r : Result} (h : Prepared calls prepared r)
    (hcall : ∀ r' enabled, call ≠ .completed r' enabled) :
    Prepared (calls ++ [call]) prepared r := by
  obtain ⟨before, after, rfl, hafter⟩ := h.last
  refine { h with last := ⟨before, after ++ [call], by simp, fun other hother => ?_⟩ }
  rcases mem_append.1 hother with hother | hother
  · exact hafter other hother
  · rw [mem_singleton.1 hother]
    exact hcall

theorem refresh_prepared {e : Option OracleRequest} {now : Float}
    (h : (p.refresh e now).prepared = some prepared) : p.prepared = some prepared := by
  unfold PairedDisk.refresh at h
  cases hp : p.prepared with
  | none =>
    simp only [hp] at h
    cases h
  | some old =>
    rw [hp] at h
    dsimp only at h
    split at h
    · split_ifs at h
      · cases h
      · exact hp.symm.trans h
    · cases h

theorem plan_prepared (h : plan count calls = .ok s)
    (hprepared : s.paired.prepared = some prepared) : ∃ r, Prepared calls prepared r := by
  induction calls using List.reverseRecOn generalizing s with
  | nil =>
    obtain rfl := Except.ok.inj h
    cases hprepared
  | append_singleton calls call ih =>
    unfold plan at h
    rw [foldlM_append] at h
    obtain ⟨s₁, hcalls, h⟩ := FallibleFolds.bind_eq_ok.1 h
    rw [foldlM_cons] at h
    obtain ⟨s₂, hcall, h⟩ := FallibleFolds.bind_eq_ok.1 h
    obtain rfl := Except.ok.inj h
    -- a call other than a completion keeps what is prepared or drops it
    have hkeep (hsame : s₁.paired.prepared = some prepared)
        (hother : ∀ r' enabled, call ≠ .completed r' enabled) :
        ∃ r, Prepared (calls ++ [call]) prepared r := by
      obtain ⟨r, hr⟩ := ih hcalls hsame
      exact ⟨r, hr.keep hother⟩
    cases call with
    | submitted index =>
      obtain rfl := Except.ok.inj hcall
      exact hkeep hprepared fun r' enabled heq => by cases heq
    | defer index now seconds =>
      obtain rfl := Except.ok.inj hcall
      exact hkeep hprepared fun r' enabled heq => by cases heq
    | complete result polledAt cooldown knownStrength =>
      obtain ⟨schedule, -, hcall⟩ := FallibleFolds.bind_eq_ok.1 hcall
      obtain rfl := Except.ok.inj hcall
      exact hkeep hprepared fun r' enabled heq => by cases heq
    | halt =>
      obtain rfl := Except.ok.inj hcall
      exact hkeep hprepared fun r' enabled heq => by cases heq
    | completed result enabled =>
      obtain ⟨paired, hcompleted, hcall⟩ := FallibleFolds.bind_eq_ok.1 hcall
      obtain rfl := Except.ok.inj hcall
      exact ⟨result, prepared_completed hcompleted hprepared⟩
    | cancel =>
      obtain rfl := Except.ok.inj hcall
      cases hprepared
    | refresh e now =>
      obtain rfl := Except.ok.inj hcall
      exact hkeep (refresh_prepared hprepared) fun r' enabled heq => by cases heq

/-- The request is for what was prepared. -/
structure SameTarget (disk request : Request) : Prop where
  app : disk.appIndex = request.appIndex
  path : disk.groupPath = request.groupPath
  device : disk.groupDevice = request.groupDevice
  inode : disk.groupInode = request.groupInode
  members : disk.members = request.members
  keep : disk.keepBytes = request.keepBytes
  registration : ∃ event registered, disk.knownEvent = some event ∧
    request.knownEvent = some registered ∧ sameRegistration event registered = true

theorem bind_same {disk bound : Request} (h : p.bind disk = .ok (some bound)) :
    ∃ prepared, p.prepared = some prepared ∧ disk.backend = text "force_swapout" ∧
      SameTarget disk prepared := by
  unfold PairedDisk.bind at h
  cases hp : p.prepared with
  | none =>
    rw [hp] at h
    cases h
  | some prepared =>
    rw [hp] at h
    dsimp only at h
    split_ifs at h with hdiffers
    · cases h
    simp only [Bool.or_eq_true, decide_eq_true_eq, not_or, not_not] at hdiffers
    obtain ⟨⟨⟨⟨⟨⟨⟨⟨hbackend, happ⟩, hpath⟩, hdevice⟩, hinode⟩, hmembers⟩, -⟩, -⟩, hkeep⟩ := hdiffers
    obtain ⟨authority, -, h⟩ := FallibleFolds.bind_eq_ok.1 h
    cases authority with
    | false => cases h
    | true =>
      cases hevent : disk.knownEvent with
      | none =>
        rw [hevent] at h
        cases h
      | some event =>
        cases hregistered : prepared.knownEvent with
        | none =>
          rw [hevent, hregistered] at h
          cases h
        | some registered =>
          rw [hevent, hregistered] at h
          dsimp only at h
          cases hsame : sameRegistration event registered with
          | false =>
            rw [hsame] at h
            cases h
          | true =>
            exact ⟨prepared, rfl, hbackend, happ, hpath, hdevice, hinode, hmembers, hkeep,
              event, registered, hevent, hregistered, hsame⟩

/-- What the schedule and the pairing keep to after the calls. -/
structure PlanLaws (calls : List Call) (s : Planner) : Prop where
  backedOff : ∀ before after result polledAt cooldown knownStrength,
    calls = before ++ .complete result polledAt cooldown knownStrength :: after →
    ∀ now < polledAt + backoffSeconds result cooldown,
      s.schedule.eligible result.request.appIndex now = false
  deferred : ∀ before after index time seconds,
    calls = before ++ .defer index time seconds :: after → ∀ now < time + fmax 0 seconds,
      s.schedule.eligible index now = false ∧ s.schedule.pairedEligible index now = false
  spaced : ∀ before after result polledAt cooldown knownStrength,
    calls = before ++ .complete result polledAt cooldown knownStrength :: after →
    ∃ time, Anchored result polledAt knownStrength time ∧ ∀ index, ∀ now < time + 1,
      s.schedule.eligible index now = false ∧ s.schedule.pairedEligible index now = false
  stopped : ∀ call ∈ calls, call.Stops → ∀ index now,
    s.schedule.eligible index now = false ∧ s.schedule.pairedEligible index now = false
  finite : ∀ index now, now.isFinite = false →
    s.schedule.eligible index now = false ∧ s.schedule.pairedEligible index now = false
  paired : ∀ disk bound, s.paired.bind disk = .ok (some bound) → ∃ r,
    Prepared calls (PairedDisk.preparation r) r ∧ disk.backend = text "force_swapout" ∧
      SameTarget disk r.request

/-- Before its back-off no application is eligible, before the spacing none at all, after a halt
never again; and a disk request is bound to the last completed preparation alone. -/
theorem plan_laws {calls : List Call} (h : plan count calls = .ok s) :
    (∀ result cooldown, 10 ≤ backoffSeconds result cooldown ∧
      (ownedQualificationNoWrite result = false → verifiedStatus result = false →
        backoffSeconds result cooldown = 60)) ∧ PlanLaws calls s := by
  refine ⟨fun result cooldown => ⟨backoff_at_least_ten result cooldown,
    fun hrefusal hverified => backoff_unverified hrefusal hverified cooldown⟩, ?_⟩
  constructor
  · rintro before after result polledAt cooldown knownStrength rfl now hnow
    obtain ⟨s₁, s₂, -, hcall, hlater⟩ := plan_split h
    obtain ⟨schedule, hcomplete, hcall⟩ := FallibleFolds.bind_eq_ok.1 hcall
    obtain rfl := Except.ok.inj hcall
    exact hlater.refuses (complete_backs_off hcomplete hnow)
  · rintro before after index time seconds rfl now hnow
    obtain ⟨s₁, s₂, -, hcall, hlater⟩ := plan_split h
    obtain rfl := Except.ok.inj hcall
    obtain ⟨happ, hpaired⟩ := defer_backs_off s₁.schedule index time seconds hnow
    exact ⟨hlater.refuses happ, hlater.refusesPaired hpaired⟩
  · rintro before after result polledAt cooldown knownStrength rfl
    obtain ⟨s₁, s₂, -, hcall, hlater⟩ := plan_split h
    obtain ⟨schedule, hcomplete, hcall⟩ := FallibleFolds.bind_eq_ok.1 hcall
    obtain rfl := Except.ok.inj hcall
    obtain ⟨time, hanchored, hspaced⟩ := complete_spaces hcomplete
    refine ⟨time, hanchored, fun index now hnow => ?_⟩
    obtain ⟨happ, hpaired⟩ := hspaced index now hnow
    exact ⟨hlater.refuses happ, hlater.refusesPaired hpaired⟩
  · intro call hmem hstops index now
    obtain ⟨before, after, rfl⟩ := append_of_mem hmem
    obtain ⟨s₁, s₂, -, hcall, hlater⟩ := plan_split h
    obtain ⟨happ, hpaired⟩ := halted_refuses (stops_halts hcall hstops) index now
    exact ⟨hlater.refuses happ, hlater.refusesPaired hpaired⟩
  · intro index now hfinite
    exact ⟨not_ready_of_not_finite hfinite _ index, not_ready_of_not_finite hfinite _ index⟩
  · intro disk bound hbind
    obtain ⟨prepared, hprepared, hbackend, hsame⟩ := bind_same hbind
    obtain ⟨r, hr⟩ := plan_prepared h hprepared
    obtain rfl := hr.request
    exact ⟨r, hr, hbackend, ⟨hsame.app, hsame.path, hsame.device, hsame.inode, hsame.members,
      hsame.keep, hsame.registration⟩⟩

theorem refused_and_deferred : ∃ s,
    plan 2 [.submitted 0, .complete {} 5 30 false, .defer 1 6 30, .cancel] = .ok s ∧
      (∀ result cooldown, 10 ≤ backoffSeconds result cooldown ∧
        (ownedQualificationNoWrite result = false → verifiedStatus result = false →
          backoffSeconds result cooldown = 60)) ∧
      PlanLaws [.submitted 0, .complete {} 5 30 false, .defer 1 6 30, .cancel] s :=
  ⟨_, rfl, @plan_laws 2 _ _ rfl⟩

end

/-- `scanIndex`; only the scan of the daily actions starts elsewhere than at the first. -/
def scanIndex (position count start : ℕ) (dailyAsync : Bool) : ℕ :=
  if dailyAsync && count ≠ 0 then (start + position) % count else position

/-- The applications in the order in which one tick comes to them. -/
def scan (count start : ℕ) : List ℕ :=
  (List.range count).map fun position => scanIndex position count start true

def Call.submits : Call → Bool
  | .submitted _ => true
  | _ => false

/-- What goes on until a tick, and for which applications its checks end in a submission. -/
structure Tick where
  calls : List { call : Call // call.submits = false }
  takes : ℕ → Bool

/-- `dailyScanStart`. -/
def Planner.scanStart (s : Planner) (knownStrength : Bool) : ℕ :=
  match s.paired.prepared with
  | some prepared => if knownStrength then prepared.appIndex else s.schedule.cursor
  | none => s.schedule.cursor

/-- Each tick submits for the first application that it may, and for no other. -/
def Planner.ticks (knownStrength : Bool) :
    Planner → List Tick → Except Text (List (Option ℕ) × Planner)
  | s, [] => .ok ([], s)
  | s, tick :: rest => do
      let s ← tick.calls.foldlM (fun s call => s.call call) s
      let taken := (scan s.schedule.appUntil.length (s.scanStart knownStrength)).find? tick.takes
      let s := taken.elim s fun appIndex => { s with schedule := s.schedule.submitted appIndex }
      let (later, s) ← s.ticks knownStrength rest
      return (taken :: later, s)

theorem scan_perm (count start : ℕ) : (scan count start).Perm (List.range count) := by
  have hrotate : scan count start = (List.range count).rotate start := by
    refine ext_getElem (by simp [scan]) fun i hi _ => ?_
    have hcount : count ≠ 0 := fun hzero => by simp [scan, hzero] at hi
    simp [scan, scanIndex, hcount, getElem_rotate, Nat.add_comm]
  rw [hrotate]
  exact rotate_perm _ _

theorem call_cursor {s s' : Planner} {call : Call} (h : s.call call = .ok s')
    (hcall : call.submits = false) : s'.schedule.cursor = s.schedule.cursor ∧
      s'.schedule.appUntil.length = s.schedule.appUntil.length := by
  cases call with
  | submitted index => cases hcall
  | defer index now seconds =>
    obtain rfl := Except.ok.inj h
    dsimp only
    unfold Schedule.defer
    split_ifs
    · exact ⟨rfl, rfl⟩
    · exact ⟨rfl, length_modify _ _ _⟩
  | complete result polledAt cooldown knownStrength =>
    obtain ⟨schedule, hcomplete, h⟩ := FallibleFolds.bind_eq_ok.1 h
    obtain rfl := Except.ok.inj h
    rcases Schedule.complete_cases hcomplete with rfl | ⟨-, time, -, rfl⟩
    · exact ⟨rfl, rfl⟩
    · exact ⟨rfl, length_modify _ _ _⟩
  | halt =>
    obtain rfl := Except.ok.inj h
    exact ⟨rfl, rfl⟩
  | completed result enabled =>
    obtain ⟨paired, -, h⟩ := FallibleFolds.bind_eq_ok.1 h
    obtain rfl := Except.ok.inj h
    exact ⟨rfl, rfl⟩
  | cancel =>
    obtain rfl := Except.ok.inj h
    exact ⟨rfl, rfl⟩
  | refresh e now =>
    obtain rfl := Except.ok.inj h
    exact ⟨rfl, rfl⟩

/-- An application that lies `wait` places behind the cursor is taken within `wait + 1` ticks, not
counting those that can take none. -/
theorem taken_within {s s' : Planner} {ticks : List Tick} {taken : List (Option ℕ)}
    {count wait index : ℕ} (h : s.ticks false ticks = .ok (taken, s'))
    (hcount : s.schedule.appUntil.length = count) (hwait : wait < count)
    (hindex : index = (s.schedule.cursor + wait) % count)
    (hticks : wait < ticks.countP (·.takes index))
    (htakes : ∀ tick ∈ ticks, tick.takes index ∨ ∀ other, ¬ tick.takes other) :
    some index ∈ taken := by
  induction ticks generalizing s wait taken with
  | nil => cases hticks
  | cons tick rest ih =>
    obtain ⟨s₁, hcalls, h⟩ := FallibleFolds.bind_eq_ok.1 h
    obtain ⟨⟨later, s₂⟩, hrest, h⟩ := FallibleFolds.bind_eq_ok.1 h
    obtain ⟨rfl, rfl⟩ := Prod.mk.inj (Except.ok.inj h)
    obtain ⟨hcursor, hlength⟩ := FallibleFolds.foldlM_invariant
      (I := fun t : Planner => t.schedule.cursor = s.schedule.cursor ∧
        t.schedule.appUntil.length = s.schedule.appUntil.length)
      (fun t call t' hstep ht => ⟨(call_cursor hstep call.2).1.trans ht.1,
        (call_cursor hstep call.2).2.trans ht.2⟩) hcalls ⟨rfl, rfl⟩
    have hstart : s₁.scanStart false = s.schedule.cursor := by
      unfold Planner.scanStart
      cases s₁.paired.prepared <;> exact hcursor
    rw [hlength, hcount, hstart] at hrest ⊢
    have hrestTakes := fun tick htick => htakes tick (mem_cons_of_mem _ htick)
    rw [countP_cons] at hticks
    rcases htakes tick mem_cons_self with hindexTakes | hnone
    · rw [if_pos hindexTakes] at hticks
      have hat (place : ℕ) : scanIndex place count s.schedule.cursor true =
          (s.schedule.cursor + place) % count := by
        rw [scanIndex, if_pos (by simp; omega)]
      rw [scan, find?_map] at hrest ⊢
      -- what the scan takes does not lie behind the application
      cases hfound : (List.range count).find? (tick.takes ∘ fun place =>
          scanIndex place count s.schedule.cursor true) with
      | none =>
        have hnot := find?_range_eq_none.1 hfound wait hwait
        simp [hat, ← hindex, hindexTakes] at hnot
      | some place =>
        obtain ⟨-, hplace, hearlier⟩ := find?_range_eq_some.1 hfound
        rw [hfound] at hrest
        dsimp only [Option.map_some, Option.elim] at hrest ⊢
        rw [hat] at hrest ⊢
        by_cases hsame : place = wait
        · rw [hsame, ← hindex]
          exact mem_cons_self
        · have hless : place < wait := by
            by_contra hge
            have hnot := hearlier wait (by omega)
            simp [hat, ← hindex, hindexTakes] at hnot
          refine mem_cons_of_mem _ (ih hrest ?_ (show wait - place - 1 < count by omega) ?_
            (by omega) hrestTakes)
          · dsimp only
            unfold Schedule.submitted
            split_ifs <;> exact hlength.trans hcount
          · have hmod : (s.schedule.cursor + place) % count < s₁.schedule.appUntil.length := by
              rw [hlength, hcount]
              exact Nat.mod_lt _ (by omega)
            dsimp only
            rw [Schedule.submitted, if_pos hmod, hlength, hcount, Nat.mod_add_mod, hindex,
              Nat.add_assoc, Nat.mod_add_mod]
            congr 1
            omega
    · rw [find?_eq_none.2 fun other _ => hnone other] at hrest
      rw [if_neg (hnone index)] at hticks
      exact mem_cons_of_mem _ (ih hrest (hlength.trans hcount) hwait (hcursor ▸ hindex)
        hticks hrestTakes)

theorem plan_cursor {count : ℕ} {calls : List Call} {s : Planner} (h : plan count calls = .ok s) :
    s.schedule.appUntil.length = count ∧ (0 < count → s.schedule.cursor < count) := by
  refine FallibleFolds.foldlM_invariant (I := fun s : Planner =>
    s.schedule.appUntil.length = count ∧ (0 < count → s.schedule.cursor < count))
    (fun s call s' hstep hs => ?_) h ⟨length_replicate, id⟩
  cases hcall : call.submits with
  | false =>
    obtain ⟨hcursor, hlength⟩ := call_cursor hstep hcall
    rwa [hcursor, hlength]
  | true =>
    cases call with
    | submitted index =>
      obtain rfl := Except.ok.inj hstep
      dsimp only
      unfold Schedule.submitted
      split_ifs with hindex
      · exact ⟨hs.1, fun hpos => hs.1 ▸ Nat.mod_lt _ (by omega)⟩
      · exact hs
    | _ => cases hcall

/-- After any history, an application that can be taken in every tick that can take one is taken in
one of the next `count` of these ticks. Every scan comes to all of the applications. -/
theorem daily_scans_fair {count index : ℕ} {history : List Call} {s s' : Planner}
    {ticks : List Tick} {taken : List (Option ℕ)} (hplan : plan count history = .ok s)
    (h : s.ticks false ticks = .ok (taken, s')) (hindex : index < count)
    (hticks : count ≤ ticks.countP (·.takes index))
    (htakes : ∀ tick ∈ ticks, tick.takes index ∨ ∀ other, ¬ tick.takes other) :
    some index ∈ taken ∧ ∀ start, (scan count start).Perm (List.range count) := by
  obtain ⟨hlength, hcursor⟩ := plan_cursor hplan
  have hcursor := hcursor (by omega)
  refine ⟨taken_within h hlength (Nat.mod_lt (index + count - s.schedule.cursor) (by omega)) ?_
    ((Nat.mod_lt _ (by omega)).trans_le hticks) htakes, scan_perm count⟩
  rw [Nat.add_mod_mod, show s.schedule.cursor + (index + count - s.schedule.cursor) =
    index + count by omega, Nat.add_mod_right, Nat.mod_eq_of_lt hindex]

theorem scans_of_two : ∃ s s' taken, plan 2 [.submitted 0] = .ok s ∧
    s.ticks false [⟨[⟨.cancel, rfl⟩], fun _ => true⟩, ⟨[], fun _ => false⟩, ⟨[], (· = 0)⟩] =
      .ok (taken, s') ∧ some 0 ∈ taken ∧ ∀ start, (scan 2 start).Perm (List.range 2) := by
  refine ⟨_, _, _, rfl, rfl, ?_⟩
  exact @daily_scans_fair 2 0 [.submitted 0] _ _ [⟨[⟨.cancel, rfl⟩], fun _ => true⟩,
    ⟨[], fun _ => false⟩, ⟨[], (· = 0)⟩] _ rfl rfl (by decide) (by decide) (by simp)

end Parp.Daily
