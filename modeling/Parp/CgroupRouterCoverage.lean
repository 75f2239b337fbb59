import Parp.CgroupRouter

set_option autoImplicit false

set_option linter.unusedSectionVars false

namespace Parp.CgroupRouter

open TransitionRuns List Function

variable {App Image : Type} [DecidableEq App] {cfg : Config App Image} {s s' : Router App Image}
variable {request : RouteRequest App} {startTime : ℕ}

def Phase.BusyWith (request : RouteRequest App) (startTime : ℕ) : Phase App → Prop
  | .taken other => other = request
  | .commanding other target time => other = request ∧ target = request.expected ∧ time = startTime
  | .polling other target time => other = request ∧ target = request.expected ∧ time = startTime
  | .answering other status => other = request ∧ status.failed
  | .waiting | .leaving _ | .returned => False

def Working (s : Router App Image) (request : RouteRequest App) (startTime : ℕ) : Prop :=
  request ∈ s.enqueuing ∨ request ∈ s.refused ∨ request ∈ s.queue ∨
    s.phase.BusyWith request startTime

def Reported (s : Router App Image) (request : RouteRequest App) : Prop :=
  ∃ status : Status, status.failed ∧ (request, status) ∈ s.results

def Gone (s : Router App Image) (pid startTime : ℕ) : Prop :=
  startTime < s.clock ∧ ∀ p, s.procs pid = some p → p.startTime ≠ startTime

inductive Covered (cfg : Config App Image) (s : Router App Image) (request : RouteRequest App)
    (startTime : ℕ) : Prop
  | working (h : Working s request startTime)
  | reported (h : Reported s request)
  | gone (h : Gone s request.pid startTime)
  | placed (h : Placed cfg s request startTime)

theorem Covered.of_working (h : Covered cfg s request startTime) (hprocs : s'.procs = s.procs)
    (hclock : s'.clock = s.clock) (hresults : ∀ result ∈ s.results, result ∈ s'.results)
    (hworking : Working s request startTime → Covered cfg s' request startTime) :
    Covered cfg s' request startTime := by
  cases h with
  | working h => exact hworking h
  | reported h =>
    obtain ⟨status, hfailed, hmem⟩ := h
    exact .reported ⟨status, hfailed, hresults _ hmem⟩
  | gone h =>
    refine .gone ⟨hclock ▸ h.1, ?_⟩
    rw [hprocs]
    exact h.2
  | placed h =>
    refine .placed ?_
    unfold Placed
    rw [hprocs]
    exact h

theorem Covered.of_process (h : Covered cfg s request startTime)
    (henqueuing : s'.enqueuing = s.enqueuing) (hrefused : s'.refused = s.refused)
    (hqueue : s'.queue = s.queue) (hphase : s'.phase = s.phase) (hresults : s'.results = s.results)
    (hgone : Gone s request.pid startTime → Covered cfg s' request startTime)
    (hplaced : Placed cfg s request startTime → Covered cfg s' request startTime) :
    Covered cfg s' request startTime := by
  cases h with
  | working h =>
    refine .working ?_
    unfold Working
    rw [henqueuing, hrefused, hqueue, hphase]
    exact h
  | reported h =>
    refine .reported ?_
    unfold Reported
    rw [hresults]
    exact h
  | gone h => exact hgone h
  | placed h => exact hplaced h

theorem covered_submit (h : Covered cfg s request startTime) (identity : Identity Image)
    (app : Option App) (role : Role) :
    Covered cfg (submit cfg s identity app role) request startTime := by
  unfold submit
  cases requestOf cfg identity app role with
  | none => exact h
  | some other =>
    dsimp only
    split_ifs
    · exact h
    · exact h.of_working rfl rfl (fun _ h => h) fun h => .working h
    · refine h.of_working rfl rfl (fun _ h => h) ?_
      rintro (h | h | h | h)
      · exact .working (.inl (mem_append_left _ h))
      · exact .working (.inr (.inl h))
      · exact .working (.inr (.inr (.inl h)))
      · exact .working (.inr (.inr (.inr h)))

theorem mem_eraseIdx_or {α : Type} {l : List α} {index : ℕ} {a b : α} (hindex : l[index]? = some a)
    (hmem : b ∈ l) : b = a ∨ b ∈ l.eraseIdx index := by
  obtain ⟨hlt, hget⟩ := List.getElem?_eq_some_iff.1 hindex
  have hperm : (l[index] :: l.eraseIdx index).Perm l := getElem_cons_eraseIdx_perm hlt
  have hcons := hperm.mem_iff.2 hmem
  rwa [hget, mem_cons] at hcons

section

variable (h : Covered cfg s request startTime)

include h

theorem covered_put (index : ℕ) : Covered cfg (put cfg s index) request startTime := by
  unfold put
  cases hindex : s.enqueuing[index]? with
  | none => exact h
  | some other =>
    dsimp only
    split_ifs
    · refine h.of_working rfl rfl (fun _ h => h) ?_
      rintro (h | h | h | h)
      · rcases mem_eraseIdx_or hindex h with rfl | hrest
        · exact .working (.inr (.inr (.inl (by simp))))
        · exact .working (.inl hrest)
      · exact .working (.inr (.inl h))
      · exact .working (.inr (.inr (.inl (mem_append_left _ h))))
      · exact .working (.inr (.inr (.inr h)))
    · refine h.of_working rfl rfl (fun _ h => h) ?_
      rintro (h | h | h | h)
      · rcases mem_eraseIdx_or hindex h with rfl | hrest
        · exact .working (.inr (.inl (by simp)))
        · exact .working (.inl hrest)
      · exact .working (.inr (.inl (mem_append_left _ h)))
      · exact .working (.inr (.inr (.inl h)))
      · exact .working (.inr (.inr (.inr h)))

theorem covered_reportFull (index : ℕ) : Covered cfg (reportFull s index) request startTime := by
  unfold reportFull
  cases hindex : s.refused[index]? with
  | none => exact h
  | some other =>
    dsimp only
    refine h.of_working rfl rfl (fun _ h => mem_append_left _ h) ?_
    rintro (h | h | h | h)
    · exact .working (.inl h)
    · rcases mem_eraseIdx_or hindex h with rfl | hrest
      · exact .reported ⟨.queueFull, by decide, by simp⟩
      · exact .working (.inr (.inl hrest))
    · exact .working (.inr (.inr (.inl h)))
    · exact .working (.inr (.inr (.inr h)))

theorem Covered.phase {phase : Phase App}
    (hbusy : s.phase.BusyWith request startTime →
      Covered cfg { s with phase := phase } request startTime) :
    Covered cfg { s with phase := phase } request startTime := by
  refine h.of_working rfl rfl (fun _ h => h) ?_
  rintro (h | h | h | h)
  · exact .working (.inl h)
  · exact .working (.inr (.inl h))
  · exact .working (.inr (.inr (.inl h)))
  · exact hbusy h

end

variable (cfg) in
theorem observed_cases {pid : ℕ} {statRead : Bool} {p : Process Image} {snapshot : Identity Image}
    (hread : readSnapshot s pid statRead = some (p, snapshot)) (hpid : request.pid = pid) :
    (observed cfg request.expected startTime snapshot).failed ∨
      Placed cfg s request startTime := by
  obtain ⟨hproc, hcgroup, htime⟩ := readSnapshot_eq hread
  unfold observed
  by_cases hreused : snapshot.startTime ≠ some startTime
  · rw [if_pos hreused]
    exact .inl (by decide)
  · rw [if_neg hreused]
    by_cases hinside : insideSlice cfg snapshot.cgroup request.expected.app
    · exact .inr ⟨p, hpid ▸ hproc, htime startTime (not_not.1 hreused), .inl (hcgroup ▸ hinside)⟩
    · rw [if_neg hinside]
      exact .inl (by decide)

section

variable (h : Covered cfg s request startTime)

include h

theorem covered_work (hstart : request.expectedStartTime = some startTime) (reading : Reading) :
    Covered cfg (work cfg s reading) request startTime := by
  unfold work
  cases hphase : s.phase with
  | waiting =>
    dsimp only
    split_ifs
    · apply h.phase
      intro hbusy
      rw [hphase] at hbusy
      exact hbusy.elim
    · cases hqueue : s.queue with
      | nil => exact h
      | cons other rest =>
        refine h.of_working rfl rfl (fun _ h => h) ?_
        rintro (h | h | h | h)
        · exact .working (.inl h)
        · exact .working (.inr (.inl h))
        · rw [hqueue] at h
          rcases mem_cons.1 h with rfl | hrest
          · exact .working (.inr (.inr (.inr rfl)))
          · exact .working (.inr (.inr (.inl hrest)))
        · rw [hphase] at h
          exact h.elim
  | taken other =>
    dsimp only
    have hother : s.phase.BusyWith request startTime → other = request := by
      rw [hphase]
      exact id
    split_ifs
    · apply h.phase
      intro hbusy
      exact .working (.inr (.inr (.inr ⟨hother hbusy, by decide⟩)))
    · by_cases hsame : other = request
      · subst hsame
        rcases route_cases cfg s other reading.statRead hstart with
          ⟨status, hroute, hfailed | hplaced⟩ | hroute
        · rw [hroute]
          exact h.phase fun _ => .working (.inr (.inr (.inr ⟨rfl, hfailed⟩)))
        · rw [hroute]
          exact h.phase fun _ => .placed hplaced
        · rw [hroute]
          exact h.phase fun _ => .working (.inr (.inr (.inr ⟨rfl, rfl, rfl⟩)))
      · cases route cfg s other reading.statRead with
        | inl status => exact h.phase fun hbusy => absurd (hother hbusy) hsame
        | inr target => exact h.phase fun hbusy => absurd (hother hbusy) hsame
  | commanding other target time =>
    dsimp only
    have hbusy : s.phase.BusyWith request startTime →
        other = request ∧ target = request.expected ∧ time = startTime := by
      rw [hphase]
      exact id
    split_ifs
    · exact h.phase fun hb => .working (.inr (.inr (.inr ⟨(hbusy hb).1, by decide⟩)))
    · exact h.phase fun hb => .working (.inr (.inr (.inr ⟨(hbusy hb).1, by decide⟩)))
    · exact h.phase fun hb => .working (.inr (.inr (.inr (hbusy hb))))
  | polling other target time =>
    dsimp only
    have hbusy : s.phase.BusyWith request startTime →
        other = request ∧ target = request.expected ∧ time = startTime := by
      rw [hphase]
      exact id
    cases hread : readSnapshot s other.pid reading.statRead with
    | none =>
      exact h.phase fun hb => .working (.inr (.inr (.inr ⟨(hbusy hb).1, by decide⟩)))
    | some seen =>
      obtain ⟨p, snapshot⟩ := seen
      dsimp only
      split_ifs
      · apply h.phase
        intro hb
        obtain ⟨rfl, rfl, rfl⟩ := hbusy hb
        rcases observed_cases cfg hread rfl with
          hfailed | hplaced
        · exact .working (.inr (.inr (.inr ⟨rfl, hfailed⟩)))
        · exact .placed hplaced
      · exact h
  | answering other status =>
    dsimp only
    refine h.of_working rfl rfl (fun _ h => mem_append_left _ h) ?_
    rintro (h | h | h | h)
    · exact .working (.inl h)
    · exact .working (.inr (.inl h))
    · exact .working (.inr (.inr (.inl h)))
    · rw [hphase] at h
      obtain ⟨rfl, hfailed⟩ := h
      exact .reported ⟨status, hfailed, by simp⟩
  | leaving other =>
    dsimp only
    refine h.of_working rfl rfl (fun _ h => h) ?_
    rintro (h | h | h | h)
    · exact .working (.inl h)
    · exact .working (.inr (.inl h))
    · exact .working (.inr (.inr (.inl h)))
    · rw [hphase] at h
      exact h.elim
  | returned => exact h

theorem covered_spawn (pid : ℕ) (image : Image) (ownerUid : ℕ) (cgroup : Cgroup) :
    Covered cfg (spawn s pid image ownerUid cgroup) request startTime := by
  unfold spawn
  cases hproc : s.procs pid with
  | some p => exact h
  | none =>
    refine h.of_process rfl rfl rfl rfl rfl ?_ ?_
    · rintro ⟨hpast, hothers⟩
      refine .gone ⟨Nat.lt_succ_of_lt hpast, ?_⟩
      intro p hp
      by_cases hpid : request.pid = pid
      · simp only [hpid, update_self, Option.some.injEq] at hp
        rw [← hp]
        exact (Nat.ne_of_lt hpast).symm
      · simp only [update_of_ne hpid] at hp
        exact hothers p hp
    · rintro ⟨p, hp, hrest⟩
      have hpid : request.pid ≠ pid := by
        rintro rfl
        rw [hproc] at hp
        cases hp
      exact .placed ⟨p, by simp [update_of_ne hpid, hp], hrest⟩

theorem covered_changed (hclock : ∀ p, s.procs request.pid = some p → p.startTime < s.clock) (pid : ℕ)
    (change : Process Image → Option (Process Image))
    (htime : ∀ p q, change p = some q → q.startTime = p.startTime)
    (hinside : ∀ p q, s.procs request.pid = some p → request.pid = pid → change p = some q →
      Inside cfg p.cgroup request.expected.app → Inside cfg q.cgroup request.expected.app) :
    Covered cfg (changed s pid change) request startTime := by
  unfold changed
  refine h.of_process rfl rfl rfl rfl rfl ?_ ?_
  · rintro ⟨hpast, hothers⟩
    refine .gone ⟨hpast, ?_⟩
    intro q hq
    by_cases hpid : request.pid = pid
    · simp only [hpid, update_self] at hq
      obtain ⟨p, hp, hchange⟩ := Option.bind_eq_some_iff.1 hq
      rw [htime p q hchange]
      exact hothers p (hpid ▸ hp)
    · simp only [update_of_ne hpid] at hq
      exact hothers q hq
  · rintro ⟨p, hp, hstart, hplace⟩
    by_cases hpid : request.pid = pid
    · cases hchange : change p with
      | some q =>
        refine .placed ⟨q, ?_, (htime p q hchange).trans hstart, ?_⟩
        · simp only [hpid, update_self]
          rw [← hpid, hp]
          exact hchange
        · exact hinside p q hp hpid hchange hplace
      | none =>
        -- it has exited
        refine .gone ⟨hstart ▸ hclock p hp, ?_⟩
        intro q hq
        simp only [hpid, update_self] at hq
        rw [← hpid, hp] at hq
        simp [hchange] at hq
    · exact .placed ⟨p, by simp [update_of_ne hpid, hp], hstart, hplace⟩

end

/-- No submission finds its pid pending under another identity, and nothing takes a process out of
where its last submission wants it. -/
def Faithful (cfg : Config App Image) (s : Router App Image) : Input App Image → Prop
  | .submit identity app role =>
    ∀ request, requestOf cfg identity app role = some request →
      ∀ other ∈ held s, other.pid = request.pid → other = request
  | .move pid cgroup =>
    ∀ p request, s.procs pid = some p → s.last pid = some request →
      Inside cfg p.cgroup request.expected.app → Inside cfg cgroup request.expected.app
  | _ => True

structure Attended (cfg : Config App Image) (s : Router App Image) : Prop where
  marked : Marked s
  clock : ∀ pid p, s.procs pid = some p → p.startTime < s.clock
  heldLast : ∀ request ∈ held s, s.last request.pid = some request
  lastPid : ∀ pid request, s.last pid = some request → request.pid = pid
  covered : ∀ pid request startTime, s.last pid = some request →
    request.expectedStartTime = some startTime → Covered cfg s request startTime

variable (cfg) in
theorem attended_init : Attended cfg ({} : Router App Image) where
  marked := ⟨nodup_nil, fun _ => by simp [held, pidsOf, Phase.request?]⟩
  clock := nofun
  heldLast := nofun
  lastPid := nofun
  covered := nofun

theorem Attended.of_last (h : Attended cfg s) (hmarked : Marked s')
    (hclock : ∀ pid p, s'.procs pid = some p → p.startTime < s'.clock)
    (hheld : ∀ request ∈ held s', request ∈ held s) (hlast : s'.last = s.last)
    (hcovered : ∀ request startTime, s.last request.pid = some request →
      request.expectedStartTime = some startTime → Covered cfg s request startTime →
        Covered cfg s' request startTime) : Attended cfg s' where
  marked := hmarked
  clock := hclock
  heldLast := by
    intro request hrequest
    rw [hlast]
    exact h.heldLast request (hheld request hrequest)
  lastPid := by
    rw [hlast]
    exact h.lastPid
  covered := by
    rw [hlast]
    intro pid request startTime hsome hstart
    have hpid := h.lastPid pid request hsome
    exact hcovered request startTime (hpid ▸ hsome) hstart
      (h.covered pid request startTime hsome hstart)

theorem attended_submit (h : Attended cfg s) (identity : Identity Image) (app : Option App)
    (role : Role) (hfaithful : Faithful cfg s (.submit identity app role)) :
    Attended cfg (submit cfg s identity app role) := by
  have hmarked := marked_step cfg h.marked (.submit identity app role)
  have hcov : ∀ request startTime, Covered cfg s request startTime →
      Covered cfg (submit cfg s identity app role) request startTime :=
    fun _ _ hc => covered_submit hc identity app role
  change Marked (submit cfg s identity app role) at hmarked
  unfold submit at hmarked hcov ⊢
  cases hrequest : requestOf cfg identity app role with
  | none => exact h
  | some request =>
    rw [hrequest] at hmarked hcov
    dsimp only at hmarked hcov ⊢
    by_cases hrefused : request.pid = 0 ∨ s.stopped = true
    · rw [if_pos hrefused]
      exact h
    rw [if_neg hrefused] at hmarked hcov ⊢
    by_cases hpending : request.pid ∈ s.pending
    · rw [if_pos hpending] at hmarked hcov ⊢
      -- what is in hand for the pid is the request itself
      obtain ⟨other, hother, hpid⟩ := List.mem_map.1 ((h.marked.pending _).1 hpending)
      have hsame := hfaithful request hrequest other hother hpid
      subst hsame
      have hlast : Function.update s.last other.pid (some other) = s.last := by
        rw [← h.heldLast other hother, update_eq_self]
      exact h.of_last hmarked h.clock (fun _ h => h) hlast fun r t _ _ hc => hcov r t hc
    · rw [if_neg hpending] at hmarked hcov ⊢
      have hother : ∀ other ∈ held s, other.pid ≠ request.pid := by
        rintro other hmem hpid
        exact hpending ((h.marked.pending _).2 (List.mem_map.2 ⟨other, hmem, hpid⟩))
      refine ⟨hmarked, h.clock, ?_, ?_, ?_⟩
      · intro other hmem
        have hsplit : other ∈ held s ∨ other = request := by
          simp only [held, mem_append, mem_singleton] at hmem ⊢
          tauto
        rcases hsplit with hold | rfl
        · simp only [update_of_ne (hother other hold)]
          exact h.heldLast other hold
        · simp only [update_self]
      · intro pid other hsome
        by_cases hpid : pid = request.pid
        · simp only [hpid, update_self, Option.some.injEq] at hsome
          rw [← hsome, hpid]
        · simp only [update_of_ne hpid] at hsome
          exact h.lastPid pid other hsome
      · intro pid other startTime hsome hstart
        by_cases hpid : pid = request.pid
        · simp only [hpid, update_self, Option.some.injEq] at hsome
          subst hsome
          exact .working (.inl (by simp))
        · simp only [update_of_ne hpid] at hsome
          exact hcov other startTime (h.covered pid other startTime hsome hstart)

variable (cfg) in
theorem work_frame (s : Router App Image) (reading : Reading) :
    (work cfg s reading).procs = s.procs ∧ (work cfg s reading).clock = s.clock ∧
      (work cfg s reading).last = s.last := by
  unfold work
  cases s.phase with
  | waiting =>
    dsimp only
    split_ifs
    · exact ⟨rfl, rfl, rfl⟩
    · cases s.queue <;> exact ⟨rfl, rfl, rfl⟩
  | taken request =>
    dsimp only
    split_ifs
    · exact ⟨rfl, rfl, rfl⟩
    · cases route cfg s request reading.statRead <;> exact ⟨rfl, rfl, rfl⟩
  | commanding request target startTime =>
    dsimp only
    split_ifs <;> exact ⟨rfl, rfl, rfl⟩
  | polling request target startTime =>
    dsimp only
    cases readSnapshot s request.pid reading.statRead with
    | none => exact ⟨rfl, rfl, rfl⟩
    | some seen =>
      dsimp only
      split_ifs <;> exact ⟨rfl, rfl, rfl⟩
  | answering request status => exact ⟨rfl, rfl, rfl⟩
  | leaving request => exact ⟨rfl, rfl, rfl⟩
  | returned => exact ⟨rfl, rfl, rfl⟩

theorem attended_put (h : Attended cfg s) (index : ℕ) : Attended cfg (put cfg s index) := by
  have hmarked := marked_step cfg h.marked (.put index)
  have hcov : ∀ request startTime, Covered cfg s request startTime →
      Covered cfg (put cfg s index) request startTime := fun _ _ hc => covered_put hc index
  change Marked (put cfg s index) at hmarked
  unfold put at hmarked hcov ⊢
  cases hindex : s.enqueuing[index]? with
  | none => exact h
  | some request =>
    have hin : request ∈ s.enqueuing := mem_of_getElem? hindex
    have hsub : ∀ other ∈ s.enqueuing.eraseIdx index, other ∈ s.enqueuing := fun _ hmem =>
      eraseIdx_subset hmem
    rw [hindex] at hmarked hcov
    dsimp only at hmarked hcov ⊢
    split_ifs at hmarked hcov ⊢
    · refine h.of_last hmarked h.clock ?_ rfl fun r t _ _ hc => hcov r t hc
      intro other hmem
      simp only [held, mem_append, mem_singleton] at hmem ⊢
      rcases hmem with hmem | (hmem | rfl) | hmem
      · exact .inl (hsub other hmem)
      · exact .inr (.inl hmem)
      · exact .inl hin
      · exact .inr (.inr hmem)
    · refine h.of_last hmarked h.clock ?_ rfl fun r t _ _ hc => hcov r t hc
      intro other hmem
      simp only [held, mem_append] at hmem ⊢
      exact hmem.imp_left (hsub other)

theorem attended_changed (h : Attended cfg s) (pid : ℕ)
    (change : Process Image → Option (Process Image)) (hmarked : Marked (changed s pid change))
    (htime : ∀ p q, change p = some q → q.startTime = p.startTime)
    (hinside : ∀ p q request, s.procs pid = some p → s.last pid = some request → change p = some q →
      Inside cfg p.cgroup request.expected.app → Inside cfg q.cgroup request.expected.app) :
    Attended cfg (changed s pid change) := by
  refine h.of_last hmarked ?_ (fun _ h => h) rfl ?_
  · intro other q hq
    by_cases hpid : other = pid
    · simp only [changed, hpid, update_self] at hq
      obtain ⟨p, hp, hchange⟩ := Option.bind_eq_some_iff.1 hq
      rw [htime p q hchange]
      exact h.clock pid p hp
    · simp only [changed, update_of_ne hpid] at hq
      exact h.clock other q hq
  · intro request startTime hlast hstart hc
    refine covered_changed hc (h.clock request.pid) pid change htime ?_
    rintro p q hp rfl hchange
    exact hinside p q request hp hlast hchange

theorem attended_step (h : Attended cfg s) (input : Input App Image)
    (hfaithful : Faithful cfg s input) : Attended cfg (moved cfg s input) := by
  have hmarked := marked_step cfg h.marked input
  cases input with
  | submit identity app role => exact attended_submit h identity app role hfaithful
  | put index => exact attended_put h index
  | reportFull index =>
    have hcov : ∀ request startTime, Covered cfg s request startTime →
        Covered cfg (reportFull s index) request startTime :=
      fun _ _ hc => covered_reportFull hc index
    change Attended cfg (reportFull s index)
    change Marked (reportFull s index) at hmarked
    unfold reportFull at hmarked hcov ⊢
    cases hindex : s.refused[index]? with
    | none => exact h
    | some request =>
      rw [hindex] at hmarked hcov
      exact h.of_last hmarked h.clock (fun _ h => h) rfl fun r t _ _ hc => hcov r t hc
  | work reading =>
    obtain ⟨hprocs, hclock, hlast⟩ := work_frame cfg s reading
    refine h.of_last hmarked ?_ ?_ hlast fun r t _ hstart hc => covered_work hc hstart reading
    · change ∀ pid p, (work cfg s reading).procs pid = some p →
        p.startTime < (work cfg s reading).clock
      rw [hprocs, hclock]
      exact h.clock
    · change ∀ request ∈ held (work cfg s reading), request ∈ held s
      intro request hmem
      rcases work_held cfg s reading with ⟨hperm, -⟩ | ⟨other, -, hperm, -⟩
      · exact hperm.mem_iff.1 hmem
      · exact hperm.mem_iff.2 (mem_cons_of_mem _ hmem)
  | stop =>
    refine h.of_last hmarked h.clock (fun _ h => h) rfl fun r t _ _ hc => ?_
    exact hc.of_working rfl rfl (fun _ h => h) fun h => .working h
  | spawn pid image ownerUid cgroup =>
    have hcov : ∀ request startTime, Covered cfg s request startTime →
        Covered cfg (spawn s pid image ownerUid cgroup) request startTime :=
      fun _ _ hc => covered_spawn hc pid image ownerUid cgroup
    change Attended cfg (spawn s pid image ownerUid cgroup)
    change Marked (spawn s pid image ownerUid cgroup) at hmarked
    unfold spawn at hmarked hcov ⊢
    cases hproc : s.procs pid with
    | some p => exact h
    | none =>
      rw [hproc] at hmarked hcov
      refine h.of_last hmarked ?_ (fun _ h => h) rfl fun r t _ _ hc => hcov r t hc
      intro other q hq
      by_cases hpid : other = pid
      · simp only [hpid, update_self, Option.some.injEq] at hq
        rw [← hq]
        exact Nat.lt_succ_self _
      · simp only [update_of_ne hpid] at hq
        exact Nat.lt_succ_of_lt (h.clock other q hq)
  | exec pid image =>
    refine attended_changed h pid _ hmarked ?_ ?_
    · intro p q hq
      rw [← Option.some.inj hq]
    · intro p q request _ _ hq hplace
      rw [← Option.some.inj hq]
      exact hplace
  | exit pid => exact attended_changed h pid _ hmarked nofun nofun
  | move pid cgroup =>
    refine attended_changed h pid _ hmarked ?_ ?_
    · intro p q hq
      rw [← Option.some.inj hq]
    · intro p q request hp hlast hq hplace
      rw [← Option.some.inj hq]
      exact hfaithful p request hp hlast hplace

theorem attended_after (inputs : List (Input App Image))
    (h : Along (routerStep cfg) (Faithful cfg) {} inputs) : Attended cfg (routerAfter cfg inputs) :=
  after_invariant_along (I := Attended cfg) (fun _ input hs hf => attended_step hs input hf)
    (attended_init cfg) inputs h

theorem marked_after (inputs : List (Input App Image)) : Marked (routerAfter cfg inputs) :=
  after_invariant (I := Marked) (fun _ input hs => marked_step cfg hs input)
    (attended_init cfg).marked inputs

end Parp.CgroupRouter

/-!
# Runs of the router
-/
namespace Parp.CgroupRouter

open TransitionRuns

variable {App Image : Type} [DecidableEq App]

def Quiescent (s : Router App Image) : Prop :=
  s.stopped = false ∧ s.enqueuing = [] ∧ s.refused = [] ∧ s.queue = [] ∧ s.phase = .waiting

def Matching (cfg : Config App Image) (s : Router App Image) (pid : ℕ) (p : Process Image)
    (request : RouteRequest App) : Prop :=
  s.last pid = some request ∧ request.expectedStartTime = some p.startTime ∧
    targetForIdentity cfg ⟨pid, p.image, p.cgroup, some p.startTime⟩ = some request.expected

def PendingHeld (s : Router App Image) : Prop :=
  ∀ pid, pid ∈ s.pending ↔ ∃ request ∈ held s, request.pid = pid

/-- Whoever still is what was last submitted is where it belongs, or a failure was reported. -/
def Routed (cfg : Config App Image) (s : Router App Image) : Prop :=
  Quiescent s → ∀ pid p request, s.procs pid = some p → Matching cfg s pid p request →
    Inside cfg p.cgroup request.expected.app ∨ Reported s request

omit [DecidableEq App] in
theorem Quiescent.not_working {s : Router App Image} (h : Quiescent s) (request : RouteRequest App)
    (startTime : ℕ) : ¬Working s request startTime := by
  obtain ⟨-, henqueuing, hrefused, hqueue, hphase⟩ := h
  unfold Working
  rw [henqueuing, hrefused, hqueue, hphase]
  simp [Phase.BusyWith]

theorem Attended.routed {cfg : Config App Image} {s : Router App Image} (h : Attended cfg s) :
    Routed cfg s := by
  intro hquiet pid p request hproc hmatching
  obtain ⟨hlast, hstart, -⟩ := hmatching
  have hpid := h.lastPid pid request hlast
  subst hpid
  cases h.covered request.pid request p.startTime hlast hstart with
  | working hworking => exact absurd hworking (hquiet.not_working request p.startTime)
  | reported hreported => exact .inr hreported
  | gone hgone => exact absurd rfl (hgone.2 p hproc)
  | placed hplaced =>
    obtain ⟨q, hq, -, hinside⟩ := hplaced
    rw [hproc] at hq
    rw [Option.some.inj hq]
    exact .inl hinside

/-- The marks always hold; no process is lost where no submission finds its pid pending under
another identity and nothing takes a process out of where its last submission wants it. -/
theorem routing_attends (cfg : Config App Image) (inputs : List (Input App Image)) :
    PendingHeld (routerAfter cfg inputs) ∧
      (Along (routerStep cfg) (Faithful cfg) {} inputs → Routed cfg (routerAfter cfg inputs)) := by
  refine ⟨?_, fun h => (attended_after inputs h).routed⟩
  intro pid
  rw [(marked_after inputs).pending, pidsOf, List.mem_map]

def twoApps : Config Bool Bool where
  mapProcess := fun identity => some identity.image
  appIds := fun app => if app = true then 2 else 1
  appSlug := fun app => if app = true then "code" else "chrome"
  expectedUid := 1000

def routedRun : List (Input Bool Bool) :=
  [.spawn 7 false 1000 ["app.slice"], .submit ⟨7, false, ["app.slice"], some 0⟩ none .gui, .put 0,
    .work {}, .work {}, .move 7 ["app.slice", "parp-chrome.slice"], .work {}, .work {}, .work {},
    .work {}]

theorem routedRun_attended : PendingHeld (routerAfter twoApps routedRun) ∧
    Quiescent (routerAfter twoApps routedRun) ∧ Routed twoApps (routerAfter twoApps routedRun) := by
  have h := routing_attends twoApps routedRun
  refine ⟨h.1, ⟨rfl, rfl, rfl, rfl, rfl⟩, h.2 ?_⟩
  refine ⟨trivial, ?_, trivial, trivial, trivial, ?_, trivial, trivial, trivial, trivial, trivial⟩
  · intro request _ other hother
    cases hother
  · intro p request hp hlast _
    cases hp
    cases hlast
    exact .inl (by decide)

def droppedRun : List (Input Bool Bool) :=
  [.spawn 7 false 1000 ["app.slice"], .submit ⟨7, false, ["app.slice"], some 0⟩ none .gui, .put 0,
    .exec 7 true, .submit ⟨7, true, ["app.slice"], some 0⟩ none .gui, .work {}, .work {}, .work {},
    .work {}]

/-- The second submission is dropped and the first one is answered: the process stays where it is
and no failure is reported for what it is. -/
theorem droppedRun_lost : ¬Routed twoApps (routerAfter twoApps droppedRun) := by
  intro h
  have hlost := h ⟨rfl, rfl, rfl, rfl, rfl⟩ 7 ⟨true, 1000, ["app.slice"], 0⟩
    ⟨7, ⟨true, 2, .gui⟩, some 0⟩ rfl ⟨rfl, rfl, rfl⟩
  rcases hlost with (hinside | hinside) | ⟨status, -, hmem⟩
  · revert hinside
    decide
  · revert hinside
    decide
  · change (_, status) ∈ [((⟨7, ⟨false, 1, .gui⟩, some 0⟩ : RouteRequest Bool),
      Status.identityChanged)] at hmem
    simp at hmem

end Parp.CgroupRouter
