import Mathlib.Data.List.Induction
import Mathlib.Data.List.ReduceOption
import Parp.PredictWork

set_option autoImplicit false

/-!
# One memcg and its proactive reclaim

The control calls of `watermark.c`, and the work item in the steps in which it reads and locks. A
clock value is read in one step and used in a later one.
-/
namespace Parp.Tier2Reclaim

open Watermark PredictWork TransitionRuns

def parpTier2MemcgOnline (state : ParpTier2Memcg) : ParpTier2Memcg :=
  parpTier2WorkingsetStateReset { state with
    online := true
    ewmaValid := false
    predictedMs := -1
    reclaimCooldownUntilNs := 0 }

def parpTier2MemcgOffline (state : ParpTier2Memcg) : ParpTier2Memcg :=
  parpTier2WorkingsetStateReset { state with
    online := false
    scheduledForNs := 0
    reclaimCooldownUntilNs := 0 }

def parpTier2MemcgReset (state : ParpTier2Memcg) : ParpTier2Memcg :=
  parpTier2WorkingsetStateReset { state with
    enabled := false
    ewmaValid := false
    predictedMs := -1
    scheduledForNs := 0
    reclaimCooldownUntilNs := 0 }

def parpTier2EnabledWrite (state : ParpTier2Memcg) (enabled : Bool) : ParpTier2Memcg :=
  parpTier2WorkingsetStateReset { state with
    enabled := enabled
    ewmaValid := false
    predictedMs := -1
    scheduledForNs := 0
    reclaimCooldownUntilNs := 0 }

/-- The write of `alloc_scale`, or of `demote_scale`. -/
def parpTier2ScaleWrite (state : ParpTier2Memcg) (demote : Bool) (scale : UInt32) :
    ParpTier2Memcg :=
  if scale.toNat > parpTier2ScaleBase then state
  else if demote then { state with demoteScale := scale, ewmaValid := false }
  else { state with allocScale := scale, ewmaValid := false }

def predictWorkPolicy (state : ParpTier2Memcg) (input : WorkingsetInput) : ParpTier2Memcg × Bool :=
  let state := parpTier2WorkingsetUpdateLocked state input
  (state, decide ¬ (state.workingsetAction = .relax ∧
    input.headroom > state.effectiveDemoteWmarkBytes))

def predictWorkDecide (headroom demote : UInt64) (predictedMs : ℤ) (ewma : UInt64) :
    Option UInt64 :=
  if headroom > demote ∧ (predictedMs < 0 ∨ headroom > ewma) then none
  else some (nrToReclaim headroom demote)

/-- `KTIME_MAX`: the monotonic clock counts nanoseconds in a signed word. -/
def ktimeMax : UInt64 := 0x7fffffffffffffff

structure Start where
  memcg : ParpTier2Memcg
  nowNs : UInt64
  runtimeEnabled : Bool
  deriving DecidableEq

inductive Phase
  | idle
  | woken (nowNs : UInt64)
  | cleared (start : Start)
  | measured (start : Start) (limit headroom alloc : UInt64)
  | updating (start : Start) (limit headroom alloc demote : UInt64)
  | deciding (start : Start) (headroom : UInt64) (stored : ParpTier2Memcg)
  | reclaiming
  | reclaimed (nrReclaimed : UInt64)
  | stamped (nrReclaimed nowNs : UInt64)
  | resampling
  deriving DecidableEq

structure ReclaimState where
  memcg : ParpTier2Memcg := {}
  clockNs : UInt64 := 0
  pending : Option PendingWork := none
  inFlight : List TimerCall := []
  worker : Phase := .idle
  deriving DecidableEq

/-- A call of `parp_tier2_reclaim`: the start of its execution, the headroom it re-read, the state
the second locked section left, and the average as read after that. -/
structure Issue where
  start : Start
  headroom : UInt64
  stored : ParpTier2Memcg
  ewma : UInt64
  pages : UInt64
  issuedNs : UInt64
  deriving DecidableEq

inductive Happening
  | issued (issue : Issue)
  | ended (nrReclaimed endNs : UInt64)
  /-- Enabled, online, reset or offline. -/
  | restarted
  deriving DecidableEq

inductive ReclaimEvent
  | tick (nowNs : UInt64)
  | sample (input : SampleInput)
  | timerCall (index : ℕ)
  | timerFire
  | enabledWrite (enabled : Bool)
  | online
  | offline
  | reset
  | scaleWrite (demote : Bool) (scale : UInt32)
  | workStart
  | workClear (runtimeEnabled memcgActive : Bool)
  | workMeasure (maxPages usagePages : UInt64)
  | workDemote
  | workUpdate (prediction : Option ParpWorkingsetPrediction) (sysctls : Sysctls)
  | workDecide
  | workReclaimed (nrReclaimed : UInt64)
  | workStamp
  | workCooldown
  | workSample (input : SampleInput)
  deriving DecidableEq

def ReclaimState.sample (s : ReclaimState) (input : SampleInput) : ReclaimState :=
  if input.nowNs ≤ s.clockNs then
    { s with
      memcg := (parpTier2MemcgSampleLocked s.memcg input).1
      inFlight := s.inFlight ++ (parpTier2MemcgSampleLocked s.memcg input).2.toList }
  else s

/-- A control call that ends with `cancel_delayed_work_sync`. -/
def ReclaimState.cancelled (s : ReclaimState) (memcg : ParpTier2Memcg) : ReclaimState :=
  { s with memcg := memcg, inFlight := s.inFlight ++ [.cancelDelayedWork] }

def workStep (s : ReclaimState) : Phase → ReclaimEvent → Option Happening × ReclaimState
  | .idle, .workStart =>
    match s.pending with
    | some { fired := true, .. } =>
      (none, { s with pending := none, worker := .woken s.clockNs })
    | _ => (none, s)
  | .woken nowNs, .workClear runtimeEnabled memcgActive =>
    let (memcg, goesOn) := predictWorkClear s.memcg nowNs runtimeEnabled memcgActive
    let start := { memcg := s.memcg, nowNs := nowNs, runtimeEnabled := runtimeEnabled }
    (none, { s with memcg := memcg, worker := if goesOn then .cleared start else .idle })
  | .cleared start, .workMeasure maxPages usagePages =>
    let limit := parpTier2LimitBytes maxPages
    let headroom := parpTier2Headroom limit (parpTier2UsageBytes usagePages)
    (none, { s with worker := .measured start limit headroom s.memcg.allocWmarkBytes })
  | .measured start limit headroom alloc, .workDemote =>
    let demote := s.memcg.demoteWmarkBytes
    (none, { s with
      worker := if demote = 0 ∨ headroom = u64Max then .idle
        else .updating start limit headroom alloc demote })
  | .updating start limit headroom alloc demote, .workUpdate prediction sysctls =>
    let (memcg, goesOn) := predictWorkPolicy s.memcg
      { limit := limit, alloc := alloc, demote := demote, headroom := headroom
        prediction := prediction, sysctls := sysctls }
    (none, { s with
      memcg := memcg
      worker := if goesOn then .deciding start headroom memcg else .idle })
  | .deciding start headroom stored, .workDecide =>
    match predictWorkDecide headroom stored.effectiveDemoteWmarkBytes stored.predictedMs
        s.memcg.ewmaHeadroomBytes with
    | none => (none, { s with worker := .idle })
    | some pages =>
      (some (.issued {
        start := start, headroom := headroom, stored := stored
        ewma := s.memcg.ewmaHeadroomBytes, pages := pages, issuedNs := s.clockNs }),
        { s with worker := .reclaiming })
  | .reclaiming, .workReclaimed nrReclaimed =>
    (some (.ended nrReclaimed s.clockNs), { s with worker := .reclaimed nrReclaimed })
  | .reclaimed nrReclaimed, .workStamp =>
    (none, { s with worker := .stamped nrReclaimed s.clockNs })
  | .stamped nrReclaimed nowNs, .workCooldown =>
    (none, { s with
      memcg := predictWorkCooldown s.memcg nowNs nrReclaimed
      worker := .resampling })
  | .resampling, .workSample input => (none, { s.sample input with worker := .idle })
  | _, _ => (none, s)

/-- An event that is not possible in a state leaves it unchanged. Charges and changes of the limit
are in what later samples and measurements read. -/
def reclaimStep (s : ReclaimState) : ReclaimEvent → Option Happening × ReclaimState
  | .tick nowNs =>
    (none, if s.clockNs ≤ nowNs ∧ nowNs ≤ ktimeMax then { s with clockNs := nowNs } else s)
  | .sample input => (none, s.sample input)
  | .timerCall index =>
    match s.inFlight[index]? with
    | some call =>
      (none, { s with pending := timerAfter s.clockNs call, inFlight := s.inFlight.eraseIdx index })
    | none => (none, s)
  | .timerFire => (none, { s with pending := s.pending.map fun work => { work with fired := true } })
  | .enabledWrite true =>
    (some .restarted, { s with memcg := parpTier2EnabledWrite s.memcg true })
  | .enabledWrite false => (none, s.cancelled (parpTier2EnabledWrite s.memcg false))
  | .online => (some .restarted, { s with memcg := parpTier2MemcgOnline s.memcg })
  | .offline => (some .restarted, s.cancelled (parpTier2MemcgOffline s.memcg))
  | .reset => (some .restarted, s.cancelled (parpTier2MemcgReset s.memcg))
  | .scaleWrite demote scale => (none, { s with memcg := parpTier2ScaleWrite s.memcg demote scale })
  | event => workStep s s.worker event

def reclaimAfter (events : List ReclaimEvent) : ReclaimState := after reclaimStep {} events

def happenings (events : List ReclaimEvent) : List Happening :=
  (outputs reclaimStep {} events).reduceOption

/-!
# When a proactive reclaim is issued
-/

structure Start.Active (start : Start) : Prop where
  online : start.memcg.online = true
  enabled : start.memcg.enabled = true
  runtimeEnabled : start.runtimeEnabled = true
  cooledDown : start.memcg.reclaimCooldownUntilNs = 0 ∨
    start.memcg.reclaimCooldownUntilNs ≤ start.nowNs

structure Issue.Justified (issue : Issue) : Prop where
  active : issue.start.Active
  pages : 32 ≤ issue.pages.toNat ∧ issue.pages.toNat ≤ 1024
  pressed : issue.headroom ≤ issue.stored.effectiveDemoteWmarkBytes ∨
    0 ≤ issue.stored.predictedMs ∧ issue.headroom ≤ issue.ewma

def waitNs (nrReclaimed : UInt64) : ℕ := if nrReclaimed ≠ 0 then 250000000 else 1000000000

def Happening.note (last : Option (UInt64 × UInt64)) : Happening → Option (UInt64 × UInt64)
  | .issued _ => last
  | .ended nrReclaimed endNs => some (nrReclaimed, endNs)
  | .restarted => none

def lastEnded (happened : List Happening) : Option (UInt64 × UInt64) :=
  happened.foldl Happening.note none

def Lawful (happened : List Happening) : Prop :=
  ∀ left issue right, happened = left ++ .issued issue :: right →
    issue.Justified ∧ ∀ nrReclaimed endNs, lastEnded left = some (nrReclaimed, endNs) →
      endNs.toNat + waitNs nrReclaimed ≤ issue.issuedNs.toNat

theorem lastEnded_concat (happened : List Happening) (happening : Happening) :
    lastEnded (happened ++ [happening]) = happening.note (lastEnded happened) := by
  simp [lastEnded, List.foldl_append]

theorem lawful_concat {happened : List Happening} {happening : Happening} (h : Lawful happened)
    (hlast : ∀ issue, happening = .issued issue → issue.Justified ∧
      ∀ nrReclaimed endNs, lastEnded happened = some (nrReclaimed, endNs) →
        endNs.toNat + waitNs nrReclaimed ≤ issue.issuedNs.toNat) :
    Lawful (happened ++ [happening]) := by
  intro left issue right hsplit
  rcases List.eq_nil_or_concat right with rfl | ⟨right, last, rfl⟩
  · obtain ⟨rfl, hcons⟩ := List.append_inj' hsplit rfl
    exact hlast issue (List.cons.inj hcons).1
  · rw [List.concat_eq_append, ← List.cons_append, ← List.append_assoc] at hsplit
    exact h left issue right (List.append_inj' hsplit rfl).1

theorem happenings_concat (events : List ReclaimEvent) (event : ReclaimEvent) :
    happenings (events ++ [event]) =
      happenings events ++ (reclaimStep (reclaimAfter events) event).1.toList := by
  unfold happenings
  rw [outputs_concat, List.reduceOption_append]
  congr 1

theorem clampU64_bounds (value : UInt64) {lo hi : UInt64} (h : lo ≤ hi) :
    lo ≤ clampU64 value lo hi ∧ clampU64 value lo hi ≤ hi := by
  unfold clampU64
  split_ifs with hhigh hlow
  · exact ⟨h, UInt64.le_refl _⟩
  · exact ⟨UInt64.le_refl _, h⟩
  · rw [ge_iff_le, UInt64.not_le] at hhigh
    rw [UInt64.not_le] at hlow
    exact ⟨UInt64.le_of_lt hlow, UInt64.le_of_lt hhigh⟩

theorem nrToReclaim_bounds (headroom demote : UInt64) :
    32 ≤ (nrToReclaim headroom demote).toNat ∧ (nrToReclaim headroom demote).toNat ≤ 1024 := by
  have hbounds : swapClusterMax ≤ parpTier2MaxReclaimPages := by decide
  obtain ⟨hlow, hhigh⟩ := clampU64_bounds _ hbounds
  exact ⟨UInt64.le_iff_toNat_le.1 hlow, UInt64.le_iff_toNat_le.1 hhigh⟩

theorem predictWorkDecide_some {headroom demote ewma pages : UInt64} {predictedMs : ℤ}
    (h : predictWorkDecide headroom demote predictedMs ewma = some pages) :
    (32 ≤ pages.toNat ∧ pages.toNat ≤ 1024) ∧
      (headroom ≤ demote ∨ 0 ≤ predictedMs ∧ headroom ≤ ewma) := by
  unfold predictWorkDecide at h
  split_ifs at h with hrecovered
  obtain rfl := Option.some.inj h
  refine ⟨nrToReclaim_bounds headroom demote, ?_⟩
  by_cases habove : headroom > demote
  · rw [not_and, not_or, not_lt, UInt64.not_lt] at hrecovered
    exact .inr (hrecovered habove)
  · exact .inl (UInt64.not_lt.1 habove)

variable {state : ParpTier2Memcg}

theorem predictWorkClear_active {nowNs : UInt64} {runtimeEnabled memcgActive : Bool}
    (h : (predictWorkClear state nowNs runtimeEnabled memcgActive).2 = true) :
    Start.Active { memcg := state, nowNs := nowNs, runtimeEnabled := runtimeEnabled } := by
  simp only [predictWorkClear, Bool.and_eq_true, Bool.not_eq_true', decide_eq_false_iff_not,
    not_and, UInt64.not_lt] at h
  obtain ⟨⟨⟨⟨honline, henabled⟩, hruntime⟩, -⟩, hcooled⟩ := h
  refine ⟨honline, henabled, hruntime, ?_⟩
  by_cases hzero : state.reclaimCooldownUntilNs = 0
  · exact .inl hzero
  · exact .inr (hcooled hzero)

structure SampleFrame (before after : ParpTier2Memcg) (nowNs : UInt64) : Prop where
  enabled : after.enabled = before.enabled
  cooldown : after.reclaimCooldownUntilNs = before.reclaimCooldownUntilNs ∨
    after.reclaimCooldownUntilNs = 0 ∧ before.enabled = true ∧
      before.reclaimCooldownUntilNs ≤ nowNs

theorem SampleFrame.of_before {before mid after : ParpTier2Memcg} {nowNs : UInt64}
    (h : SampleFrame mid after nowNs) (henabled : mid.enabled = before.enabled)
    (hcooldown : mid.reclaimCooldownUntilNs = before.reclaimCooldownUntilNs) :
    SampleFrame before after nowNs where
  enabled := h.enabled.trans henabled
  cooldown := by
    rw [← henabled, ← hcooldown]
    exact h.cooldown

theorem sampleDecide_cases (state : ParpTier2Memcg) (nowNs : UInt64) (sysctls : Sysctls)
    (cancel : Bool) : ∃ scheduledForNs,
      (sampleDecide state nowNs sysctls cancel).1 = { state with scheduledForNs := scheduledForNs } ∨
      ¬(state.reclaimCooldownUntilNs ≠ 0 ∧ nowNs < state.reclaimCooldownUntilNs) ∧
        (sampleDecide state nowNs sysctls cancel).1 =
          { state with reclaimCooldownUntilNs := 0, scheduledForNs := scheduledForNs } := by
  unfold sampleDecide
  by_cases hcooling : state.reclaimCooldownUntilNs ≠ 0 ∧ nowNs < state.reclaimCooldownUntilNs
  · rw [if_pos hcooling]
    by_cases hscheduled : state.scheduledForNs ≠ 0
    · rw [if_pos hscheduled]
      exact ⟨0, .inl rfl⟩
    · rw [if_neg hscheduled]
      exact ⟨state.scheduledForNs, .inl rfl⟩
  · rw [if_neg hcooling]
    dsimp only
    cases scheduleDelay sysctls state.predictedMs with
    | none =>
      dsimp only
      by_cases hscheduled : state.scheduledForNs ≠ 0
      · rw [if_pos hscheduled]
        exact ⟨0, .inr ⟨hcooling, rfl⟩⟩
      · rw [if_neg hscheduled]
        exact ⟨state.scheduledForNs, .inr ⟨hcooling, rfl⟩⟩
    | some delayMs =>
      dsimp only
      by_cases hdue : state.scheduledForNs = 0 ∨
          nowNs + delayMs * nsecPerMsec < state.scheduledForNs
      · rw [if_pos hdue]
        exact ⟨nowNs + delayMs * nsecPerMsec, .inr ⟨hcooling, rfl⟩⟩
      · rw [if_neg hdue]
        exact ⟨state.scheduledForNs, .inr ⟨hcooling, rfl⟩⟩

theorem sampleDecide_frame (henabled : state.enabled = true) (nowNs : UInt64) (sysctls : Sysctls)
    (cancel : Bool) : SampleFrame state (sampleDecide state nowNs sysctls cancel).1 nowNs := by
  obtain ⟨scheduledForNs, hkept | ⟨hcooling, hcleared⟩⟩ :=
    sampleDecide_cases state nowNs sysctls cancel
  · rw [hkept]
    exact ⟨rfl, .inl rfl⟩
  · have hover : state.reclaimCooldownUntilNs ≤ nowNs := by
      rw [not_and, UInt64.not_lt] at hcooling
      by_cases hzero : state.reclaimCooldownUntilNs = 0
      · rw [hzero]
        exact UInt64.zero_le
      · exact hcooling hzero
    rw [hcleared]
    exact ⟨rfl, .inr ⟨rfl, henabled, hover⟩⟩

theorem sampleForecast_frame (henabled : state.enabled = true) (headroom nowNs : UInt64)
    (sysctls : Sysctls) (cancel : Bool) :
    SampleFrame state (sampleForecast state headroom nowNs sysctls cancel).1 nowNs := by
  unfold sampleForecast
  dsimp only
  split
  · exact ⟨rfl, .inl rfl⟩
  · split
    · refine (sampleDecide_frame ?_ _ _ _).of_before rfl rfl
      exact henabled
    · split
      · exact ⟨rfl, .inl rfl⟩
      · refine (sampleDecide_frame ?_ _ _ _).of_before rfl rfl
        exact henabled

theorem sample_frame (state : ParpTier2Memcg) (input : SampleInput) :
    SampleFrame state (parpTier2MemcgSampleLocked state input).1 input.nowNs := by
  unfold parpTier2MemcgSampleLocked
  split_ifs with hoff
  · exact ⟨rfl, .inl rfl⟩
  · rw [not_or, Bool.not_eq_false, Bool.not_eq_false] at hoff
    refine (sampleForecast_frame ?_ _ _ _ _).of_before ?_ ?_
    · exact (workingsetUpdate_frame _ _).2.1.trans hoff.1
    · exact (workingsetUpdate_frame _ _).2.1
    · exact (workingsetUpdate_frame _ _).2.2.1

section

/-- Clock values are not ahead of the clock, and an execution that goes on was active at its
start. -/
def Phase.Timely (clockNs : UInt64) : Phase → Prop
  | .woken nowNs => nowNs ≤ clockNs
  | .stamped _ nowNs => nowNs ≤ clockNs
  | .cleared start => start.Active
  | .measured start _ _ _ => start.Active
  | .updating start _ _ _ _ => start.Active
  | .deciding start _ _ => start.Active
  | _ => True

/-- The wait until `dueNs` is in the cooldown field, or the memcg is disabled. -/
def Cooling (memcg : ParpTier2Memcg) (dueNs : ℕ) : Prop :=
  if memcg.reclaimCooldownUntilNs = 0 then memcg.enabled = false
  else dueNs ≤ memcg.reclaimCooldownUntilNs.toNat

/-- Where the wait of a reclaim that ended at `endNs` stands. -/
def Phase.Waiting (memcg : ParpTier2Memcg) (clockNs nrReclaimed endNs : UInt64) : Phase → Prop
  | .reclaimed got => got = nrReclaimed ∧ endNs ≤ clockNs
  | .stamped got nowNs => got = nrReclaimed ∧ endNs ≤ nowNs
  | .idle | .woken _ | .resampling =>
    endNs.toNat + waitNs nrReclaimed ≤ clockNs.toNat ∨
      Cooling memcg (endNs.toNat + waitNs nrReclaimed)
  | _ => endNs.toNat + waitNs nrReclaimed ≤ clockNs.toNat

/-- What holds between steps; `last` is the reclaim that ended last. -/
structure Law (s : ReclaimState) (last : Option (UInt64 × UInt64)) : Prop where
  clock : s.clockNs ≤ ktimeMax
  timely : s.worker.Timely s.clockNs
  waiting : ∀ nrReclaimed endNs, last = some (nrReclaimed, endNs) →
    s.worker.Waiting s.memcg s.clockNs nrReclaimed endNs

structure StepLaw (last : Option (UInt64 × UInt64)) (result : Option Happening × ReclaimState) :
    Prop where
  law : Law result.2 (result.1.elim last (Happening.note last))
  issued : ∀ issue, result.1 = some (.issued issue) → issue.Justified ∧
    ∀ nrReclaimed endNs, last = some (nrReclaimed, endNs) →
      endNs.toNat + waitNs nrReclaimed ≤ issue.issuedNs.toNat

variable {s s' : ReclaimState} {last : Option (UInt64 × UInt64)} {nrReclaimed endNs : UInt64}

theorem StepLaw.quiet (h : Law s' last) : StepLaw last (none, s') where
  law := h
  issued _ hissued := by cases hissued

theorem Phase.Timely.mono {phase : Phase} {clockNs laterNs : UInt64} (h : phase.Timely clockNs)
    (hle : clockNs ≤ laterNs) : phase.Timely laterNs := by
  cases phase with
  | woken nowNs => exact UInt64.le_trans h hle
  | stamped got nowNs => exact UInt64.le_trans h hle
  | _ => exact h

theorem Phase.Waiting.frame {phase : Phase} {memcg memcg' : ParpTier2Memcg}
    {clockNs laterNs : UInt64} (h : phase.Waiting memcg clockNs nrReclaimed endNs)
    (hle : clockNs ≤ laterNs)
    (hcooling : ∀ dueNs, Cooling memcg dueNs → dueNs ≤ laterNs.toNat ∨ Cooling memcg' dueNs) :
    phase.Waiting memcg' laterNs nrReclaimed endNs := by
  have hnat := UInt64.le_iff_toNat_le.1 hle
  have hover : endNs.toNat + waitNs nrReclaimed ≤ clockNs.toNat ∨
      Cooling memcg (endNs.toNat + waitNs nrReclaimed) →
      endNs.toNat + waitNs nrReclaimed ≤ laterNs.toNat ∨
        Cooling memcg' (endNs.toNat + waitNs nrReclaimed) := by
    rintro (hdone | hcool)
    · exact .inl (Nat.le_trans hdone hnat)
    · exact hcooling _ hcool
  cases phase with
  | reclaimed got => exact ⟨h.1, UInt64.le_trans h.2 hle⟩
  | stamped got nowNs => exact h
  | idle => exact hover h
  | woken nowNs => exact hover h
  | resampling => exact hover h
  | _ => exact Nat.le_trans h hnat

theorem Law.frame (h : Law s last) (hworker : s'.worker = s.worker)
    (hle : s.clockNs ≤ s'.clockNs) (hclock : s'.clockNs ≤ ktimeMax)
    (hcooling : ∀ dueNs, Cooling s.memcg dueNs →
      dueNs ≤ s'.clockNs.toNat ∨ Cooling s'.memcg dueNs) : Law s' last where
  clock := hclock
  timely := by
    rw [hworker]
    exact h.timely.mono hle
  waiting got endNs hlast := by
    rw [hworker]
    exact (h.waiting got endNs hlast).frame hle hcooling

theorem sample_worker (s : ReclaimState) (input : SampleInput) :
    (s.sample input).worker = s.worker := by
  unfold ReclaimState.sample
  split_ifs <;> rfl

theorem Law.sample (h : Law s last) (input : SampleInput) : Law (s.sample input) last := by
  unfold ReclaimState.sample
  split_ifs with hnow
  · refine h.frame rfl (UInt64.le_refl _) h.clock fun dueNs hcool => ?_
    obtain ⟨henabled, hsame | ⟨hzero, hon, hover⟩⟩ := sample_frame s.memcg input
    · right
      unfold Cooling at hcool ⊢
      rw [hsame, henabled]
      exact hcool
    · left
      unfold Cooling at hcool
      split_ifs at hcool
      · rw [hon] at hcool
        cases hcool
      · exact Nat.le_trans hcool
          (UInt64.le_iff_toNat_le.1 (UInt64.le_trans hover hnow))
  · exact h

theorem cooling_over {memcg : ParpTier2Memcg} {nowNs : UInt64} {runtimeEnabled : Bool} {dueNs : ℕ}
    (hcool : Cooling memcg dueNs)
    (hactive : Start.Active { memcg := memcg, nowNs := nowNs, runtimeEnabled := runtimeEnabled }) :
    dueNs ≤ nowNs.toNat := by
  unfold Cooling at hcool
  split_ifs at hcool with hzero
  · exact absurd hactive.enabled (by rw [hcool]; decide)
  · exact Nat.le_trans hcool (UInt64.le_iff_toNat_le.1 (hactive.cooledDown.resolve_left hzero))

theorem cooldown_toNat (memcg : ParpTier2Memcg) {nowNs : UInt64} (hnow : nowNs ≤ ktimeMax)
    (nrReclaimed : UInt64) :
    (predictWorkCooldown memcg nowNs nrReclaimed).reclaimCooldownUntilNs.toNat =
      nowNs.toNat + waitNs nrReclaimed := by
  rw [UInt64.le_iff_toNat_le] at hnow
  change nowNs.toNat ≤ 9223372036854775807 at hnow
  change (nowNs + (if nrReclaimed ≠ 0 then parpTier2ReclaimCooldownMs
    else parpTier2NoProgressCooldownMs) * nsecPerMsec).toNat = _
  unfold waitNs
  rw [UInt64.toNat_add]
  split
  · change (nowNs.toNat + 250000000) % 2 ^ 64 = _
    omega
  · change (nowNs.toNat + 1000000000) % 2 ^ 64 = _
    omega

theorem cooldown_cooling (memcg : ParpTier2Memcg) {nowNs : UInt64} (hnow : nowNs ≤ ktimeMax)
    (hend : endNs ≤ nowNs) :
    Cooling (predictWorkCooldown memcg nowNs nrReclaimed) (endNs.toNat + waitNs nrReclaimed) := by
  have htoNat := cooldown_toNat memcg hnow nrReclaimed
  have hwait : 0 < waitNs nrReclaimed := by
    unfold waitNs
    split <;> omega
  rw [UInt64.le_iff_toNat_le] at hend
  unfold Cooling
  rw [if_neg, htoNat]
  · omega
  · intro hzero
    rw [hzero] at htoNat
    change 0 = _ at htoNat
    omega

theorem workStep_law (h : Law s last) (event : ReclaimEvent) :
    StepLaw last (workStep s s.worker event) := by
  obtain ⟨hclock, htimely, hwaiting⟩ := h
  have hstay : Law s last := ⟨hclock, htimely, hwaiting⟩
  generalize hphase : s.worker = phase at htimely hwaiting
  unfold workStep
  split
  · -- the clock is read
    split
    · exact .quiet ⟨hclock, UInt64.le_refl _, hwaiting⟩
    · exact .quiet hstay
  · rename_i nowNs runtimeEnabled memcgActive
    dsimp only
    by_cases hgoes : (predictWorkClear s.memcg nowNs runtimeEnabled memcgActive).2 = true
    · rw [if_pos hgoes]
      have hactive := predictWorkClear_active hgoes
      refine .quiet ⟨hclock, hactive, fun got endNs hlast => ?_⟩
      rcases hwaiting got endNs hlast with hdone | hcool
      · exact hdone
      · exact Nat.le_trans (cooling_over hcool hactive) (UInt64.le_iff_toNat_le.1 htimely)
    · rw [if_neg hgoes]
      exact .quiet ⟨hclock, trivial, hwaiting⟩
  · exact .quiet ⟨hclock, htimely, hwaiting⟩
  · dsimp only
    split
    · exact .quiet ⟨hclock, trivial, fun got endNs hlast => .inl (hwaiting got endNs hlast)⟩
    · exact .quiet ⟨hclock, htimely, hwaiting⟩
  · dsimp only
    split
    · exact .quiet ⟨hclock, htimely, hwaiting⟩
    · exact .quiet ⟨hclock, trivial, fun got endNs hlast => .inl (hwaiting got endNs hlast)⟩
  · split
    · exact .quiet ⟨hclock, trivial, fun got endNs hlast => .inl (hwaiting got endNs hlast)⟩
    · -- the reclaim
      rename_i hdecide
      refine ⟨⟨hclock, trivial, hwaiting⟩, fun issue hissue => ?_⟩
      obtain rfl := Happening.issued.inj (Option.some.inj hissue)
      obtain ⟨hpages, hpressed⟩ := predictWorkDecide_some hdecide
      exact ⟨⟨htimely, hpages, hpressed⟩, hwaiting⟩
  · refine ⟨⟨hclock, trivial, fun got endNs hlast => ?_⟩, fun _ hissue => by cases hissue⟩
    obtain ⟨rfl, rfl⟩ := Prod.mk.inj (Option.some.inj hlast)
    exact ⟨rfl, UInt64.le_refl _⟩
  · exact .quiet ⟨hclock, UInt64.le_refl _, hwaiting⟩
  · -- the cooldown is set
    refine .quiet ⟨hclock, trivial, fun got endNs hlast => .inr ?_⟩
    obtain ⟨rfl, hend⟩ := hwaiting got endNs hlast
    exact cooldown_cooling _ (UInt64.le_trans htimely hclock) hend
  · rename_i input
    have hsampled := hstay.sample input
    refine .quiet ⟨hsampled.clock, trivial, fun got endNs hlast => ?_⟩
    have hwaited := hsampled.waiting got endNs hlast
    rw [sample_worker, hphase] at hwaited
    exact hwaited
  · exact .quiet hstay

theorem reclaimStep_law (h : Law s last) (event : ReclaimEvent) :
    StepLaw last (reclaimStep s event) := by
  have hsame : ∀ {s'}, s'.worker = s.worker → s'.clockNs = s.clockNs → s'.memcg = s.memcg →
      Law s' last := by
    intro s' hworker hclock hmemcg
    refine h.frame hworker (by rewrite [hclock]; exact UInt64.le_refl _) (hclock ▸ h.clock) ?_
    intro dueNs hcool
    rw [hmemcg]
    exact .inr hcool
  have hrestart : ∀ {s'}, s'.worker = s.worker → s'.clockNs = s.clockNs →
      StepLaw last (some .restarted, s') := by
    intro s' hworker hclock
    refine ⟨⟨hclock ▸ h.clock, ?_, fun _ _ hlast => by cases hlast⟩, fun _ hissue => by cases hissue⟩
    rw [hworker, hclock]
    exact h.timely
  cases event with
  | tick nowNs =>
    unfold reclaimStep
    dsimp only
    split
    · rename_i hnow
      exact .quiet (h.frame rfl hnow.1 hnow.2 fun _ hcool => .inr hcool)
    · exact .quiet h
  | sample input => exact .quiet (h.sample input)
  | timerCall index =>
    unfold reclaimStep
    dsimp only
    split
    · exact .quiet (hsame rfl rfl rfl)
    · exact .quiet h
  | timerFire => exact .quiet (hsame rfl rfl rfl)
  | enabledWrite enabled =>
    cases enabled with
    | true => exact hrestart rfl rfl
    | false => exact .quiet (h.frame rfl (UInt64.le_refl _) h.clock fun _ _ => .inr rfl)
  | online => exact hrestart rfl rfl
  | offline => exact hrestart rfl rfl
  | reset => exact hrestart rfl rfl
  | scaleWrite demote scale =>
    refine .quiet (h.frame rfl (UInt64.le_refl _) h.clock fun _ hcool => .inr ?_)
    change Cooling (parpTier2ScaleWrite s.memcg demote scale) _
    unfold parpTier2ScaleWrite
    split_ifs <;> exact hcool
  | _ => exact workStep_law h _

theorem reclaimAfter_law (events : List ReclaimEvent) :
    Law (reclaimAfter events) (lastEnded (happenings events)) ∧ Lawful (happenings events) := by
  induction events using List.reverseRecOn with
  | nil =>
    refine ⟨⟨by decide, trivial, fun _ _ hlast => by cases hlast⟩, ?_⟩
    intro left issue right hsplit
    cases left <;> cases hsplit
  | append_singleton events event ih =>
    obtain ⟨hlaw, hissued⟩ := reclaimStep_law ih.1 event
    have hafter : reclaimAfter (events ++ [event]) =
        (reclaimStep (reclaimAfter events) event).2 := after_concat reclaimStep {} events event
    rw [happenings_concat, hafter]
    generalize reclaimStep (reclaimAfter events) event = result at *
    obtain ⟨_ | happening, s⟩ := result
    · rw [Option.toList_none, List.append_nil]
      exact ⟨hlaw, ih.2⟩
    · refine ⟨?_, lawful_concat ih.2 fun issue hissue => hissued issue (congrArg some hissue)⟩
      rw [Option.toList_some, lastEnded_concat]
      exact hlaw

end

/-- Every proactive reclaim of every run is justified, bounded and waits for the one before it. -/
theorem reclaims_lawful (events : List ReclaimEvent) : Lawful (happenings events) :=
  (reclaimAfter_law events).2

def execution : List ReclaimEvent :=
  let measured : SampleInput := { maxPages := 262144, usagePages := 262140, nowNs := 5000000 }
  [.tick 5000000, .enabledWrite true, .sample measured, .timerCall 0, .timerFire, .workStart,
    .workClear true true, .workMeasure 262144 262140, .workDemote, .workUpdate none {}, .workDecide]

example : (happenings execution).length = 2 ∧
    ∃ issue, (happenings execution)[1]? = some (.issued issue) ∧ issue.pages = 1024 :=
  ⟨by decide +kernel, _, rfl, by decide +kernel⟩

end Parp.Tier2Reclaim
