import Parp.TransitionRuns
import Parp.Watermark

set_option autoImplicit false

/-!
# The prediction work item

The locked sections of `parp_tier2_predict_work`, and the delayed work as the samples and the work
item drive it.
-/
namespace Parp.PredictWork

open Watermark

def swapClusterMax : UInt64 := 32
def parpTier2MaxReclaimPages : UInt64 := 1024

/-- The first locked section, and whether the work goes on after it. `memcgActive` stands for
`!mem_cgroup_is_root(memcg) && mem_cgroup_online(memcg)`. -/
def predictWorkClear (state : ParpTier2Memcg) (nowNs : UInt64)
    (runtimeEnabled memcgActive : Bool) : ParpTier2Memcg × Bool :=
  let active : Bool := state.online && state.enabled && runtimeEnabled
  let cooling : Bool :=
    state.reclaimCooldownUntilNs ≠ 0 ∧ nowNs < state.reclaimCooldownUntilNs
  ({ state with scheduledForNs := 0 }, active && memcgActive && !cooling)

/-- Pages to ask for when the headroom is `headroom`. -/
def nrToReclaim (headroom demote : UInt64) : UInt64 :=
  let gap := if headroom < demote then demote - headroom else 0
  let pages := if gap ≠ 0 then (gap + (pageSize - 1)) / pageSize else swapClusterMax
  clampU64 pages swapClusterMax parpTier2MaxReclaimPages

/-- The second locked section with the checks around it; `none` when the work returns early. -/
def predictWorkUpdate (state : ParpTier2Memcg) (input : SampleInput) :
    ParpTier2Memcg × Option UInt64 :=
  let limit := parpTier2LimitBytes input.maxPages
  let headroom := parpTier2Headroom limit (parpTier2UsageBytes input.usagePages)
  if state.demoteWmarkBytes = 0 ∨ headroom = u64Max then (state, none)
  else
    let state := parpTier2WorkingsetUpdateLocked state
      { limit := limit, alloc := state.allocWmarkBytes, demote := state.demoteWmarkBytes
        headroom := headroom, prediction := input.prediction, sysctls := input.sysctls }
    let demote := state.effectiveDemoteWmarkBytes
    if state.workingsetAction = .relax ∧ headroom > demote then (state, none)
    else if headroom > demote ∧
        (state.predictedMs < 0 ∨ headroom > state.ewmaHeadroomBytes) then (state, none)
    else (state, some (nrToReclaim headroom demote))

def predictWorkCooldown (state : ParpTier2Memcg) (nowNs reclaimed : UInt64) : ParpTier2Memcg :=
  { state with
    reclaimCooldownUntilNs := nowNs +
      (if reclaimed ≠ 0 then parpTier2ReclaimCooldownMs else parpTier2NoProgressCooldownMs) *
        nsecPerMsec }

/-- Where the work item stands. The work queue runs one instance of it at a time. -/
inductive Worker
  | idle | clearing | updating | reclaiming (pages : UInt64) | resampling
  deriving DecidableEq

/-- A delayed work whose pending bit is set: its timer runs, or has fired. -/
structure PendingWork where
  dueNs : UInt64
  fired : Bool := false
  deriving DecidableEq

/-- `mod_delayed_work` re-arms pending work, with the delay counted from the tick `nowNs` at which
it runs (a jiffy is 1 ms); `cancel_delayed_work` removes it. -/
def timerAfter (nowNs : UInt64) : TimerCall → Option PendingWork
  | .modDelayedWork delayMs => some { dueNs := nowNs + delayMs * nsecPerMsec }
  | .cancelDelayedWork => none

/-- One memcg, its delayed work, and the timer calls of samples that have dropped the lock. -/
structure TimerState where
  memcg : ParpTier2Memcg
  pending : Option PendingWork := none
  inFlight : List TimerCall := []
  worker : Worker := .idle
  deriving DecidableEq

inductive TimerEvent
  | sample (input : SampleInput)
  | timerCall (index : ℕ) (nowNs : UInt64)
  | timerFire
  | workStart
  | workClear (nowNs : UInt64) (runtimeEnabled memcgActive : Bool)
  | workUpdate (input : SampleInput)
  | workReclaim (nowNs reclaimed : UInt64)
  | workSample (input : SampleInput)
  deriving DecidableEq

def TimerState.sample (s : TimerState) (input : SampleInput) : TimerState :=
  { s with
    memcg := (parpTier2MemcgSampleLocked s.memcg input).1
    inFlight := s.inFlight ++ (parpTier2MemcgSampleLocked s.memcg input).2.toList }

def timerStep (s : TimerState) : TimerEvent → Unit × TimerState
  | .sample input => ((), s.sample input)
  | .timerCall index nowNs =>
    match s.inFlight[index]? with
    | some call =>
      ((), { s with pending := timerAfter nowNs call, inFlight := s.inFlight.eraseIdx index })
    | none => ((), s)
  | .timerFire => ((), { s with pending := s.pending.map fun work => { work with fired := true } })
  | .workStart =>
    match s.worker, s.pending with
    | .idle, some { fired := true, .. } => ((), { s with pending := none, worker := .clearing })
    | _, _ => ((), s)
  | .workClear nowNs runtimeEnabled memcgActive =>
    match s.worker with
    | .clearing =>
      let (memcg, goesOn) := predictWorkClear s.memcg nowNs runtimeEnabled memcgActive
      ((), { s with memcg := memcg, worker := if goesOn then .updating else .idle })
    | _ => ((), s)
  | .workUpdate input =>
    match s.worker with
    | .updating =>
      match predictWorkUpdate s.memcg input with
      | (memcg, some pages) => ((), { s with memcg := memcg, worker := .reclaiming pages })
      | (memcg, none) => ((), { s with memcg := memcg, worker := .idle })
    | _ => ((), s)
  | .workReclaim nowNs reclaimed =>
    match s.worker with
    | .reclaiming _ =>
      ((), { s with memcg := predictWorkCooldown s.memcg nowNs reclaimed, worker := .resampling })
    | _ => ((), s)
  | .workSample input =>
    match s.worker with
    | .resampling => ((), { s.sample input with worker := .idle })
    | _ => ((), s)

def quiet (memcg : ParpTier2Memcg) : TimerState where
  memcg := { memcg with scheduledForNs := 0 }

end Parp.PredictWork

/-!
# The prediction timer against `scheduled_for_ns`
-/
namespace Parp.PredictWorkTimer

open Watermark PredictWork TransitionRuns

/-- The work is pending for `dueNs` or earlier. -/
def PendingBy (dueNs : UInt64) (pending : Option PendingWork) : Prop :=
  ∃ work ∈ pending, work.dueNs ≤ dueNs

instance (dueNs : UInt64) : ∀ pending, Decidable (PendingBy dueNs pending)
  | some work => decidable_of_iff (work.dueNs ≤ dueNs) (by simp [PendingBy])
  | none => .isFalse nofun

/-- With no timer call in flight, a scheduled request has work pending in time, or a work item about
to clear it. -/
def TimerLaw (s : TimerState) : Prop :=
  s.memcg.scheduledForNs ≠ 0 → s.inFlight = [] →
    PendingBy s.memcg.scheduledForNs s.pending ∨ s.worker = .clearing

def Covered (s : TimerState) : Prop :=
  s.memcg.scheduledForNs ≠ 0 →
    PendingBy s.memcg.scheduledForNs s.pending ∨ s.worker = .clearing ∨
      ∃ call ∈ s.inFlight, call ≠ .cancelDelayedWork

/-- A sample's timer call is late: it cancels the scheduled request or arms the timer for after its
due time, the work item is not about to clear the request, and every other call in flight cancels. -/
def LateCall (s : TimerState) : TimerEvent → Prop
  | .timerCall index nowNs =>
    s.memcg.scheduledForNs ≠ 0 ∧ s.worker ≠ .clearing ∧
      (∃ call ∈ s.inFlight[index]?, ¬ PendingBy s.memcg.scheduledForNs (timerAfter nowNs call)) ∧
      ∀ call ∈ s.inFlight.eraseIdx index, call = .cancelDelayedWork
  | _ => False

instance (s : TimerState) : ∀ event, Decidable (LateCall s event)
  | .timerCall _ _ => inferInstanceAs (Decidable (_ ∧ _ ∧ _ ∧ _))
  | .sample _ => .isFalse id
  | .timerFire => .isFalse id
  | .workStart => .isFalse id
  | .workClear _ _ _ => .isFalse id
  | .workUpdate _ => .isFalse id
  | .workReclaim _ _ => .isFalse id
  | .workSample _ => .isFalse id

/-- What a sample does to the due time: clears it, keeps it, or sets it with a call that arms the
timer. -/
def Requests (before after : ParpTier2Memcg) (call : Option TimerCall) : Prop :=
  after.scheduledForNs = 0 ∨ after.scheduledForNs = before.scheduledForNs ∨
    ∃ delayMs, call = some (.modDelayedWork delayMs)

variable (state : ParpTier2Memcg) (input : SampleInput)

theorem sampleDecide_requests (nowNs : UInt64) (sysctls : Sysctls) (cancel : Bool) :
    Requests state (sampleDecide state nowNs sysctls cancel).1
      (sampleDecide state nowNs sysctls cancel).2 := by
  unfold sampleDecide
  split
  · split
    · exact .inl rfl
    · exact .inr (.inl rfl)
  · dsimp only
    split
    · rename_i delayMs _
      split
      · exact .inr (.inr ⟨delayMs, rfl⟩)
      · exact .inr (.inl rfl)
    · split
      · exact .inl rfl
      · exact .inr (.inl rfl)

theorem Requests.of_before {before mid after : ParpTier2Memcg} {call : Option TimerCall}
    (h : Requests mid after call)
    (hmid : mid.scheduledForNs = 0 ∨ mid.scheduledForNs = before.scheduledForNs) :
    Requests before after call := by
  rcases h with h | h | h
  · exact .inl h
  · rcases hmid with hmid | hmid
    · exact .inl (h.trans hmid)
    · exact .inr (.inl (h.trans hmid))
  · exact .inr (.inr h)

theorem sampleLimit_scheduled (limit alloc demote headroom : UInt64) :
    (sampleLimit state limit alloc demote headroom).1.scheduledForNs = 0 ∨
      (sampleLimit state limit alloc demote headroom).1.scheduledForNs = state.scheduledForNs := by
  change (if _ then _ else _) = _ ∨ (if _ then _ else _) = _
  split
  · exact .inl rfl
  · exact .inr rfl

theorem sampleForecast_requests (headroom nowNs : UInt64) (sysctls : Sysctls) (cancel : Bool) :
    Requests state (sampleForecast state headroom nowNs sysctls cancel).1
      (sampleForecast state headroom nowNs sysctls cancel).2 := by
  unfold sampleForecast
  dsimp only
  split
  · exact .inl rfl
  · split
    · exact (sampleDecide_requests _ _ _ _).of_before (.inr rfl)
    · split
      · exact .inr (.inl rfl)
      · exact (sampleDecide_requests _ _ _ _).of_before (.inr rfl)

theorem sample_requests :
    Requests state (parpTier2MemcgSampleLocked state input).1
      (parpTier2MemcgSampleLocked state input).2 := by
  unfold parpTier2MemcgSampleLocked
  split
  · exact .inr (.inl rfl)
  · apply (sampleForecast_requests _ _ _ _ _).of_before
    rcases sampleLimit_scheduled _ _ _ _ _ with h | h
    · exact .inl h
    · exact .inr (h.trans (workingsetUpdate_frame _ _).1)

variable {s : TimerState}

theorem Covered.sample (h : Covered s) (input : SampleInput) : Covered (s.sample input) := by
  intro hne
  have hinFlight : (s.sample input).inFlight =
      s.inFlight ++ (parpTier2MemcgSampleLocked s.memcg input).2.toList := rfl
  rcases sample_requests s.memcg input with hzero | hsame | ⟨delayMs, hcall⟩
  · exact absurd hzero hne
  · change (s.sample input).memcg.scheduledForNs = _ at hsame
    rw [hsame] at hne ⊢
    rcases h hne with hpending | hworker | ⟨call, hmem, harms⟩
    · exact .inl hpending
    · exact .inr (.inl hworker)
    · refine .inr (.inr ⟨call, ?_, harms⟩)
      rw [hinFlight]
      exact List.mem_append_left _ hmem
  · refine .inr (.inr ⟨.modDelayedWork delayMs, ?_, nofun⟩)
    rw [hinFlight, hcall]
    exact List.mem_append_right _ (List.mem_singleton_self _)

theorem Covered.of_same {s t : TimerState} (h : Covered s)
    (hsame : t.memcg.scheduledForNs = s.memcg.scheduledForNs) (hinFlight : t.inFlight = s.inFlight)
    (hpending : PendingBy s.memcg.scheduledForNs s.pending →
      PendingBy s.memcg.scheduledForNs t.pending ∨ t.worker = .clearing)
    (hworker : s.worker = .clearing → t.worker = .clearing) : Covered t := by
  unfold Covered
  rw [hsame, hinFlight]
  intro hne
  rcases h hne with hp | hw | hcall
  · exact (hpending hp).imp id .inl
  · exact .inr (.inl (hworker hw))
  · exact .inr (.inr hcall)

theorem Covered.setMemcg (h : Covered s) {memcg : ParpTier2Memcg}
    (hsame : memcg.scheduledForNs = s.memcg.scheduledForNs) : Covered { s with memcg := memcg } :=
  h.of_same hsame rfl .inl id

theorem Covered.setWorker (h : Covered s) (hworker : s.worker ≠ .clearing) (worker : Worker) :
    Covered { s with worker := worker } :=
  h.of_same rfl rfl .inl (fun hw => absurd hw hworker)

theorem Covered.of_unscheduled (h : s.memcg.scheduledForNs = 0) : Covered s :=
  fun hne => absurd h hne

theorem covered_timerCall (h : Covered s) {index : ℕ} {nowNs : UInt64}
    (hlate : ¬ LateCall s (.timerCall index nowNs)) :
    Covered (timerStep s (.timerCall index nowNs)).2 := by
  simp only [timerStep]
  cases hcall : s.inFlight[index]? with
  | none => exact h
  | some call =>
    intro hne
    change s.memcg.scheduledForNs ≠ 0 at hne
    by_cases hworker : s.worker = .clearing
    · exact .inr (.inl hworker)
    · by_cases harms : PendingBy s.memcg.scheduledForNs (timerAfter nowNs call)
      · exact .inl harms
      · by_contra hnone
        apply hlate
        refine ⟨hne, hworker, ⟨call, hcall, harms⟩, ?_⟩
        intro other hmem
        by_contra hother
        exact hnone (.inr (.inr ⟨other, hmem, hother⟩))

theorem predictWorkUpdate_scheduled :
    (predictWorkUpdate state input).1.scheduledForNs = state.scheduledForNs := by
  unfold predictWorkUpdate
  dsimp only
  split
  · rfl
  · split
    · exact (workingsetUpdate_frame _ _).1
    · split <;> exact (workingsetUpdate_frame _ _).1

theorem setCooldown_scheduled (untilNs : UInt64) :
    ({ state with reclaimCooldownUntilNs := untilNs } : ParpTier2Memcg).scheduledForNs =
      state.scheduledForNs := rfl

theorem predictWorkCooldown_scheduled (nowNs reclaimed : UInt64) :
    (predictWorkCooldown state nowNs reclaimed).scheduledForNs = state.scheduledForNs :=
  setCooldown_scheduled state _

theorem pendingBy_fired {dueNs : UInt64} {pending : Option PendingWork}
    (h : PendingBy dueNs pending) :
    PendingBy dueNs (pending.map fun work => { work with fired := true }) := by
  obtain ⟨work, rfl, hdue⟩ := h
  exact ⟨{ work with fired := true }, rfl, hdue⟩

theorem covered_step (s : TimerState) (event : TimerEvent) (h : Covered s)
    (hlate : ¬ LateCall s event) : Covered (timerStep s event).2 := by
  cases event with
  | sample input => exact h.sample input
  | timerCall index nowNs => exact covered_timerCall h hlate
  | timerFire => exact h.of_same rfl rfl (fun hp => .inl (pendingBy_fired hp)) id
  | workStart =>
    simp only [timerStep]
    split
    · exact h.of_same rfl rfl (fun _ => .inr rfl) (fun _ => rfl)
    · exact h
  | workClear nowNs runtimeEnabled memcgActive =>
    simp only [timerStep]
    split
    · exact .of_unscheduled rfl
    · exact h
  | workUpdate input =>
    simp only [timerStep]
    split
    · rename_i hworker
      have hidle : s.worker ≠ .clearing := by
        rw [hworker]
        exact nofun
      have hscheduled := predictWorkUpdate_scheduled s.memcg input
      split
      · rename_i memcg pages heq
        rw [heq] at hscheduled
        exact (h.setMemcg hscheduled).setWorker hidle _
      · rename_i memcg heq
        rw [heq] at hscheduled
        exact (h.setMemcg hscheduled).setWorker hidle _
    · exact h
  | workReclaim nowNs reclaimed =>
    simp only [timerStep]
    split
    · rename_i hworker
      have hidle : s.worker ≠ .clearing := by
        rw [hworker]
        exact nofun
      have hscheduled := predictWorkCooldown_scheduled s.memcg nowNs reclaimed
      exact (h.setMemcg hscheduled).setWorker hidle _
    · exact h
  | workSample input =>
    simp only [timerStep]
    split
    · rename_i hworker
      have hidle : (s.sample input).worker ≠ .clearing := by
        change s.worker ≠ _
        rw [hworker]
        exact nofun
      exact (h.sample input).setWorker hidle _
    · exact h

theorem timerLaw_of_covered (h : Covered s) : TimerLaw s := by
  intro hne hquiet
  rcases h hne with hpending | hworker | ⟨call, hmem, -⟩
  · exact .inl hpending
  · exact .inr hworker
  · rw [hquiet] at hmem
    cases hmem

/-- In a run without late timer calls a scheduled request always has work pending in time. -/
theorem timer_never_late (memcg : ParpTier2Memcg) (events : List TimerEvent)
    (h : Along timerStep (fun s event => ¬ LateCall s event) (quiet memcg) events) :
    ∀ before rest, events = before ++ rest → TimerLaw (after timerStep (quiet memcg) before) := by
  rintro before rest rfl
  have hstart : Covered (quiet memcg) := .of_unscheduled rfl
  have hbefore := ((along_append _ _ _ _ _).1 h).1
  exact timerLaw_of_covered (after_invariant_along covered_step hstart before hbefore)

/-- A sample of a 1 GiB memcg that uses `usagePages`. -/
def gibSample (usagePages nowMs : UInt64) : SampleInput where
  maxPages := 262144
  usagePages := usagePages
  nowNs := nowMs * nsecPerMsec

def enabledMemcg : ParpTier2Memcg where
  enabled := true

def oneReclaim : List TimerEvent :=
  [.sample (gibSample 261144 10), .timerCall 0 10000000, .timerFire, .workStart,
    .workClear 11000000 true true, .workUpdate (gibSample 261144 11), .workReclaim 12000000 32]

theorem oneReclaim_never_late :
    TimerLaw (after timerStep (quiet enabledMemcg) (oneReclaim.take 2)) ∧
      TimerLaw (after timerStep (quiet enabledMemcg) oneReclaim) := by
  have hlaw := timer_never_late enabledMemcg oneReclaim (by decide +kernel)
  exact ⟨hlaw _ (oneReclaim.drop 2) rfl, hlaw _ [] rfl⟩

def lateCancel : List TimerEvent :=
  [.sample (gibSample 261144 10), .timerCall 0 10000000, .sample (gibSample 0 20),
    .sample (gibSample 261144 30), .timerCall 1 30000000, .timerCall 0 31000000]

theorem lateCancel_state :
    (after timerStep (quiet enabledMemcg) lateCancel).memcg.scheduledForNs = 31000000 ∧
    (after timerStep (quiet enabledMemcg) lateCancel).inFlight = [] ∧
    (after timerStep (quiet enabledMemcg) lateCancel).pending = none ∧
    (after timerStep (quiet enabledMemcg) lateCancel).worker = .idle := by
  decide +kernel

theorem late_cancel_loses_timer :
    ¬ TimerLaw (after timerStep (quiet enabledMemcg) lateCancel) := by
  obtain ⟨hscheduled, hinFlight, hpending, hworker⟩ := lateCancel_state
  intro h
  have hne : (after timerStep (quiet enabledMemcg) lateCancel).memcg.scheduledForNs ≠ 0 := by
    rw [hscheduled]
    decide
  rcases h hne hinFlight with ⟨work, hwork, -⟩ | hclearing
  · rw [hpending] at hwork
    cases hwork
  · rw [hworker] at hclearing
    cases hclearing

end Parp.PredictWorkTimer
