import Mathlib.Data.Finset.Erase
import Mathlib.Data.Finset.Insert
import Parp.TransitionRuns

set_option autoImplicit false

/-!
# Routing of processes into application slices

`SystemdProcessCgroupRouter`: threads that submit processes, a bounded queue and one worker. A step
is what a thread or the worker does between two accesses to what they share or to `/proc`; the
processes change between any two steps. Texts that only go into a result are left out.
-/
namespace Parp.CgroupRouter

open List

/-- The components of a cgroup path. -/
abbrev Cgroup := List String

inductive Role
  | gui | fixture
  deriving DecidableEq

/-- A process: `startTime` is its own, whoever reads it. -/
structure Process (Image : Type) where
  image : Image
  ownerUid : ℕ
  cgroup : Cgroup
  startTime : ℕ

/-- `ProcessIdentity`; the start time is `none` where it could not be read. -/
structure Identity (Image : Type) where
  pid : ℕ
  image : Image
  cgroup : Cgroup
  startTime : Option ℕ

structure ProcessRouteTarget (App : Type) where
  app : App
  appId : ℕ
  role : Role := .gui
  deriving DecidableEq

structure RouteRequest (App : Type) where
  pid : ℕ
  expected : ProcessRouteTarget App
  expectedStartTime : Option ℕ
  deriving DecidableEq

inductive Status
  | gone | pidReused | identityChanged | foreignUid | alreadyAppScoped | alreadyRouted
  | noStartTime | systemdError | goneAfterRequest | migrated | migrationNotObserved | routerError
  | queueFull
  deriving DecidableEq

def Status.failed (status : Status) : Prop :=
  status ≠ .alreadyAppScoped ∧ status ≠ .alreadyRouted ∧ status ≠ .migrated

instance (status : Status) : Decidable status.failed := inferInstanceAs (Decidable (_ ∧ _))

structure Config (App Image : Type) where
  /-- `mapper.map_process` in upper case. -/
  mapProcess : Identity Image → Option App
  /-- 0 where the application has no identifier. -/
  appIds : App → ℕ
  appSlug : App → String
  fixtureScopeToApp : List (String × App) := []
  expectedUid : ℕ
  queueCapacity : ℕ := 4096

section

variable {App Image : Type} [DecidableEq App] (cfg : Config App Image)

def targetSlice (app : App) : String := "parp-" ++ cfg.appSlug app ++ ".slice"

def insideSlice (cgroup : Cgroup) (app : App) : Prop := targetSlice cfg app ∈ cgroup

instance (cgroup : Cgroup) (app : App) : Decidable (insideSlice cfg cgroup app) :=
  inferInstanceAs (Decidable (_ ∈ _))

/-- `automation-<app>.scope`, with the underscores of the slug as dashes. -/
def insidePrimaryAutomationScope (cgroup : Cgroup) (app : App) : Prop :=
  "automation-" ++ String.ofList ((cfg.appSlug app).toList.map fun c => if c = '_' then '-' else c) ++
    ".scope" ∈ cgroup

instance (cgroup : Cgroup) (app : App) : Decidable (insidePrimaryAutomationScope cfg cgroup app) :=
  inferInstanceAs (Decidable (_ ∈ _))

def isFixture (cgroup : Cgroup) (app : App) : Prop :=
  (∃ entry ∈ cfg.fixtureScopeToApp, entry.1 ∈ cgroup ∧ entry.2 = app) ∨
    ∃ component ∈ cgroup,
      ("parp-route-" ++ cfg.appSlug app ++ "-fixture-").toList.isPrefixOf component.toList = true

instance (cgroup : Cgroup) (app : App) : Decidable (isFixture cfg cgroup app) :=
  inferInstanceAs (Decidable (_ ∨ _))

def targetForIdentity (identity : Identity Image) : Option (ProcessRouteTarget App) :=
  match cfg.mapProcess identity with
  | none => none
  | some app =>
    if cfg.appIds app = 0 then none
    else
      some {
        app := app
        appId := cfg.appIds app
        role := if isFixture cfg identity.cgroup app then .fixture else .gui }

def targetForKnownApp (app : App) (role : Role) : Option (ProcessRouteTarget App) :=
  if cfg.appIds app = 0 then none else some { app := app, appId := cfg.appIds app, role := role }

end

inductive Phase (App : Type)
  | waiting
  | taken (request : RouteRequest App)
  /-- `StartTransientUnit` is called for the target. -/
  | commanding (request : RouteRequest App) (target : ProcessRouteTarget App) (startTime : ℕ)
  | polling (request : RouteRequest App) (target : ProcessRouteTarget App) (startTime : ℕ)
  | answering (request : RouteRequest App) (status : Status)
  | leaving (request : RouteRequest App)
  | returned

structure Router (App Image : Type) where
  procs : ℕ → Option (Process Image) := fun _ => none
  /-- The next process starts at this time. -/
  clock : ℕ := 0
  stopped : Bool := false
  pending : Finset ℕ := ∅
  /-- Requests marked as pending and not yet put. -/
  enqueuing : List (RouteRequest App) := []
  /-- Requests that found the queue full and have not reported it yet. -/
  refused : List (RouteRequest App) := []
  queue : List (RouteRequest App) := []
  phase : Phase App := .waiting
  results : List (RouteRequest App × Status) := []
  /-- What was last submitted for a process. -/
  last : ℕ → Option (RouteRequest App) := fun _ => none

structure Reading where
  /-- The stop flag was read before it was set. -/
  late : Bool := false
  raised : Bool := false
  statRead : Bool := true
  commandOk : Bool := true
  deadline : Bool := false

inductive Input (App Image : Type)
  /-- `submit_created_process` and `submit_exec_process` up to the mark in `_pending`. -/
  | submit (identity : Identity Image) (app : Option App) (role : Role)
  | put (index : ℕ)
  | reportFull (index : ℕ)
  | work (reading : Reading)
  | stop
  | spawn (pid : ℕ) (image : Image) (ownerUid : ℕ) (cgroup : Cgroup)
  | exec (pid : ℕ) (image : Image)
  | exit (pid : ℕ)
  | move (pid : ℕ) (cgroup : Cgroup)

section

variable {App Image : Type} [DecidableEq App] (cfg : Config App Image)

def requestOf (identity : Identity Image) (app : Option App) (role : Role) :
    Option (RouteRequest App) :=
  let target := match app with
    | some app => targetForKnownApp cfg app role
    | none => targetForIdentity cfg identity
  target.map fun target => ⟨identity.pid, target, identity.startTime⟩

def submit (s : Router App Image) (identity : Identity Image) (app : Option App) (role : Role) :
    Router App Image :=
  match requestOf cfg identity app role with
  | none => s
  | some request =>
    if request.pid = 0 ∨ s.stopped = true then s
    else
      let s := { s with last := Function.update s.last request.pid (some request) }
      if request.pid ∈ s.pending then s
      else { s with
        pending := insert request.pid s.pending
        enqueuing := s.enqueuing ++ [request] }

/-- `put_nowait` of a submitting thread. -/
def put (s : Router App Image) (index : ℕ) : Router App Image :=
  match s.enqueuing[index]? with
  | none => s
  | some request =>
    let s := { s with enqueuing := s.enqueuing.eraseIdx index }
    if s.queue.length < max 1 cfg.queueCapacity then { s with queue := s.queue ++ [request] }
    else { s with
      pending := s.pending.erase request.pid
      refused := s.refused ++ [request] }

def reportFull (s : Router App Image) (index : ℕ) : Router App Image :=
  match s.refused[index]? with
  | none => s
  | some request => { s with
      refused := s.refused.eraseIdx index
      results := s.results ++ [(request, .queueFull)] }

/-- `_read_snapshot`. -/
def readSnapshot (s : Router App Image) (pid : ℕ) (statRead : Bool) :
    Option (Process Image × Identity Image) :=
  (s.procs pid).map fun p =>
    (p, ⟨pid, p.image, p.cgroup, if statRead then some p.startTime else none⟩)

/-- `_route` up to the call of systemd: a status, or the target to migrate to. -/
def route (s : Router App Image) (request : RouteRequest App) (statRead : Bool) :
    Status ⊕ ProcessRouteTarget App × ℕ :=
  match readSnapshot s request.pid statRead with
  | none => .inl .gone
  | some (p, snapshot) =>
    if request.expectedStartTime ≠ none ∧ snapshot.startTime ≠ request.expectedStartTime then
      .inl .pidReused
    else
      let target := (targetForIdentity cfg snapshot).or
        (if insideSlice cfg snapshot.cgroup request.expected.app then
          targetForKnownApp cfg request.expected.app request.expected.role
        else none)
      if target ≠ some request.expected then .inl .identityChanged
      else if p.ownerUid ≠ cfg.expectedUid then .inl .foreignUid
      else if insidePrimaryAutomationScope cfg snapshot.cgroup request.expected.app then
        .inl .alreadyAppScoped
      else if insideSlice cfg snapshot.cgroup request.expected.app then .inl .alreadyRouted
      else
        match snapshot.startTime with
        | none => .inl .noStartTime
        | some startTime => .inr (request.expected, startTime)

def observed (target : ProcessRouteTarget App) (startTime : ℕ) (snapshot : Identity Image) :
    Status :=
  if snapshot.startTime ≠ some startTime then .pidReused
  else if insideSlice cfg snapshot.cgroup target.app then .migrated
  else .migrationNotObserved

def work (s : Router App Image) (reading : Reading) : Router App Image :=
  match s.phase with
  | .waiting =>
    if s.stopped = true ∧ reading.late = false then { s with phase := .returned }
    else
      match s.queue with
      | [] => s
      | request :: rest => { s with queue := rest, phase := .taken request }
  | .taken request =>
    if reading.raised = true then { s with phase := .answering request .routerError }
    else
      match route cfg s request reading.statRead with
      | .inl status => { s with phase := .answering request status }
      | .inr (target, startTime) => { s with phase := .commanding request target startTime }
  | .commanding request target startTime =>
    if reading.commandOk = false then { s with phase := .answering request .systemdError }
    -- the deadline may pass before the first reading
    else if reading.deadline = true then { s with phase := .answering request .goneAfterRequest }
    else { s with phase := .polling request target startTime }
  | .polling request target startTime =>
    match readSnapshot s request.pid reading.statRead with
    | none => { s with phase := .answering request .goneAfterRequest }
    | some (_, snapshot) =>
      if insideSlice cfg snapshot.cgroup target.app ∨ reading.deadline = true then
        { s with phase := .answering request (observed cfg target startTime snapshot) }
      else s
  | .answering request status =>
    { s with results := s.results ++ [(request, status)], phase := .leaving request }
  | .leaving request => { s with pending := s.pending.erase request.pid, phase := .waiting }
  | .returned => s

def spawn (s : Router App Image) (pid : ℕ) (image : Image) (ownerUid : ℕ) (cgroup : Cgroup) :
    Router App Image :=
  match s.procs pid with
  | some _ => s
  | none => { s with
      procs := Function.update s.procs pid (some ⟨image, ownerUid, cgroup, s.clock⟩)
      clock := s.clock + 1 }

def changed (s : Router App Image) (pid : ℕ) (change : Process Image → Option (Process Image)) :
    Router App Image :=
  { s with procs := Function.update s.procs pid ((s.procs pid).bind change) }

def moved (s : Router App Image) : Input App Image → Router App Image
  | .submit identity app role => submit cfg s identity app role
  | .put index => put cfg s index
  | .reportFull index => reportFull s index
  | .work reading => work cfg s reading
  | .stop => { s with stopped := true }
  | .spawn pid image ownerUid cgroup => spawn s pid image ownerUid cgroup
  | .exec pid image => changed s pid fun p => some { p with image := image }
  | .exit pid => changed s pid fun _ => none
  | .move pid cgroup => changed s pid fun p => some { p with cgroup := cgroup }

def routerStep (s : Router App Image) (input : Input App Image) : Unit × Router App Image :=
  ((), moved cfg s input)

def routerAfter (inputs : List (Input App Image)) : Router App Image :=
  TransitionRuns.after (routerStep cfg) {} inputs

end

/-!
# What the router has in hand
-/

open TransitionRuns

variable {App Image : Type} [DecidableEq App] {cfg : Config App Image} {s : Router App Image}

def Phase.request? : Phase App → Option (RouteRequest App)
  | .waiting => none
  | .taken request => some request
  | .commanding request _ _ => some request
  | .polling request _ _ => some request
  | .answering request _ => some request
  | .leaving request => some request
  | .returned => none

def held (s : Router App Image) : List (RouteRequest App) :=
  s.enqueuing ++ (s.queue ++ s.phase.request?.toList)

def pidsOf (requests : List (RouteRequest App)) : List ℕ := requests.map RouteRequest.pid

structure Marked (s : Router App Image) : Prop where
  nodup : (pidsOf (held s)).Nodup
  pending : ∀ pid, pid ∈ s.pending ↔ pid ∈ pidsOf (held s)

omit [DecidableEq App] in
theorem Marked.perm {s' : Router App Image} (h : Marked s) (hperm : (held s').Perm (held s))
    (hpending : s'.pending = s.pending) : Marked s' := by
  have hpids : (pidsOf (held s')).Perm (pidsOf (held s)) := hperm.map _
  refine ⟨hpids.nodup_iff.2 h.nodup, ?_⟩
  intro pid
  rw [hpending, hpids.mem_iff]
  exact h.pending pid

omit [DecidableEq App] in
theorem Marked.add {s' : Router App Image} (h : Marked s) {request : RouteRequest App}
    (hperm : (held s').Perm (request :: held s)) (hnew : request.pid ∉ s.pending)
    (hpending : s'.pending = insert request.pid s.pending) : Marked s' := by
  have hpids : (pidsOf (held s')).Perm (request.pid :: pidsOf (held s)) := hperm.map _
  refine ⟨hpids.nodup_iff.2 (nodup_cons.2 ⟨mt (h.pending _).2 hnew, h.nodup⟩), ?_⟩
  intro pid
  rw [hpending, hpids.mem_iff, Finset.mem_insert, mem_cons, h.pending]

omit [DecidableEq App] in
theorem Marked.remove {s' : Router App Image} (h : Marked s) {request : RouteRequest App}
    (hperm : (held s).Perm (request :: held s'))
    (hpending : s'.pending = s.pending.erase request.pid) : Marked s' := by
  have hpids : (pidsOf (held s)).Perm (request.pid :: pidsOf (held s')) := hperm.map _
  have hnodup := nodup_cons.1 (hpids.nodup_iff.1 h.nodup)
  refine ⟨hnodup.2, ?_⟩
  intro pid
  rw [hpending, Finset.mem_erase, h.pending, hpids.mem_iff, mem_cons]
  constructor
  · rintro ⟨hne, heq | hmem⟩
    · exact absurd heq hne
    · exact hmem
  · intro hmem
    exact ⟨fun heq => hnodup.1 (heq ▸ hmem), .inr hmem⟩

variable (cfg) in
theorem work_held (s : Router App Image) (reading : Reading) :
    ((held (work cfg s reading)).Perm (held s) ∧ (work cfg s reading).pending = s.pending) ∨
      ∃ request, s.phase = .leaving request ∧ (held s).Perm (request :: held (work cfg s reading)) ∧
        (work cfg s reading).pending = s.pending.erase request.pid := by
  unfold work
  cases hphase : s.phase with
  | waiting =>
    left
    dsimp only
    split_ifs
    · exact ⟨by simp [held, hphase, Phase.request?], rfl⟩
    · cases hqueue : s.queue with
      | nil => exact ⟨.refl _, rfl⟩
      | cons request rest =>
        refine ⟨?_, rfl⟩
        unfold held
        rw [hphase, hqueue]
        apply List.Perm.append_left
        simp only [Phase.request?, Option.toList_some, Option.toList_none, append_nil]
        exact perm_append_singleton request rest
  | taken request =>
    left
    dsimp only
    have hsame : ∀ phase : Phase App, phase.request? = some request →
        (held { s with phase := phase }).Perm (held s) := by
      intro phase h
      unfold held
      rw [hphase]
      dsimp only
      rw [h]
      exact .refl _
    split_ifs
    · exact ⟨hsame _ rfl, rfl⟩
    · cases route cfg s request reading.statRead with
      | inl status => exact ⟨hsame _ rfl, rfl⟩
      | inr target => exact ⟨hsame _ rfl, rfl⟩
  | commanding request target startTime =>
    left
    dsimp only
    split_ifs <;> exact ⟨by simp [held, hphase, Phase.request?], rfl⟩
  | polling request target startTime =>
    left
    dsimp only
    cases readSnapshot s request.pid reading.statRead with
    | none => exact ⟨by simp [held, hphase, Phase.request?], rfl⟩
    | some snapshot =>
      dsimp only
      split_ifs
      · exact ⟨by simp [held, hphase, Phase.request?], rfl⟩
      · exact ⟨.refl _, rfl⟩
  | answering request status => exact .inl ⟨by simp [held, hphase, Phase.request?], rfl⟩
  | leaving request =>
    refine .inr ⟨request, rfl, ?_, rfl⟩
    unfold held
    rw [hphase]
    simp only [Phase.request?, Option.toList_some, Option.toList_none, append_nil]
    rw [← append_assoc]
    exact perm_append_singleton request _
  | returned => exact .inl ⟨.refl _, rfl⟩

variable (cfg) in
theorem marked_step (h : Marked s) (input : Input App Image) : Marked (moved cfg s input) := by
  cases input with
  | submit identity app role =>
    change Marked (submit cfg s identity app role)
    unfold submit
    cases requestOf cfg identity app role with
    | none => exact h
    | some request =>
      dsimp only
      split_ifs with hrefused hpending
      · exact h
      · exact h.perm (.refl _) rfl
      · refine h.add ?_ hpending rfl
        unfold held
        dsimp only
        rw [append_assoc]
        exact perm_middle
  | put index =>
    change Marked (put cfg s index)
    unfold put
    cases hindex : s.enqueuing[index]? with
    | none => exact h
    | some request =>
      obtain ⟨hlt, hget⟩ := List.getElem?_eq_some_iff.1 hindex
      have herase : (request :: s.enqueuing.eraseIdx index).Perm s.enqueuing := by
        rw [← hget]
        exact getElem_cons_eraseIdx_perm hlt
      have hheld : (request :: (s.enqueuing.eraseIdx index ++
          (s.queue ++ s.phase.request?.toList))).Perm (held s) := herase.append_right _
      dsimp only
      split_ifs
      · refine h.perm (List.Perm.trans ?_ hheld) rfl
        unfold held
        dsimp only
        rw [append_assoc, singleton_append, ← append_assoc, ← append_assoc]
        exact perm_middle
      · exact h.remove hheld.symm rfl
  | reportFull index =>
    change Marked (reportFull s index)
    unfold reportFull
    cases s.refused[index]? with
    | none => exact h
    | some request => exact h.perm (.refl _) rfl
  | work reading =>
    rcases work_held cfg s reading with ⟨hperm, hpending⟩ | ⟨request, -, hperm, hpending⟩
    · exact h.perm hperm hpending
    · exact h.remove hperm hpending
  | stop => exact h.perm (.refl _) rfl
  | spawn pid image ownerUid cgroup =>
    change Marked (spawn s pid image ownerUid cgroup)
    unfold spawn
    cases s.procs pid with
    | none => exact h.perm (.refl _) rfl
    | some p => exact h
  | exec pid image => exact h.perm (.refl _) rfl
  | exit pid => exact h.perm (.refl _) rfl
  | move pid cgroup => exact h.perm (.refl _) rfl

def Inside (cfg : Config App Image) (cgroup : Cgroup) (app : App) : Prop :=
  insideSlice cfg cgroup app ∨ insidePrimaryAutomationScope cfg cgroup app

def Placed (cfg : Config App Image) (s : Router App Image) (request : RouteRequest App)
    (startTime : ℕ) : Prop :=
  ∃ p, s.procs request.pid = some p ∧ p.startTime = startTime ∧
    Inside cfg p.cgroup request.expected.app

omit [DecidableEq App] in
theorem readSnapshot_eq {pid : ℕ} {statRead : Bool} {p : Process Image}
    {snapshot : Identity Image} (h : readSnapshot s pid statRead = some (p, snapshot)) :
    s.procs pid = some p ∧ snapshot.cgroup = p.cgroup ∧
      ∀ startTime, snapshot.startTime = some startTime → p.startTime = startTime := by
  unfold readSnapshot at h
  obtain ⟨q, hq, heq⟩ := Option.map_eq_some_iff.1 h
  obtain ⟨rfl, rfl⟩ := Prod.mk.inj heq
  refine ⟨hq, rfl, ?_⟩
  intro startTime hstart
  dsimp only at hstart
  split_ifs at hstart
  exact Option.some.inj hstart

variable (cfg) in
theorem route_cases (s : Router App Image) (request : RouteRequest App) (statRead : Bool)
    {startTime : ℕ} (hstart : request.expectedStartTime = some startTime) :
    (∃ status, route cfg s request statRead = .inl status ∧
        (status.failed ∨ Placed cfg s request startTime)) ∨
      route cfg s request statRead = .inr (request.expected, startTime) := by
  have hfail : ∀ status : Status, status.failed →
      (∃ other, (Sum.inl status : Status ⊕ ProcessRouteTarget App × ℕ) = .inl other ∧
        (other.failed ∨ Placed cfg s request startTime)) := fun status h => ⟨status, rfl, .inl h⟩
  unfold route
  cases hread : readSnapshot s request.pid statRead with
  | none => exact .inl (hfail _ (by decide))
  | some reading =>
    obtain ⟨p, snapshot⟩ := reading
    obtain ⟨hproc, hcgroup, htime⟩ := readSnapshot_eq hread
    dsimp only
    by_cases hreused : request.expectedStartTime ≠ none ∧
        snapshot.startTime ≠ request.expectedStartTime
    · rw [if_pos hreused]
      exact .inl (hfail _ (by decide))
    · rw [if_neg hreused]
      have hsame : snapshot.startTime = some startTime := by
        by_contra hne
        exact hreused ⟨by simp [hstart], by rwa [hstart]⟩
      have hplaced : Inside cfg snapshot.cgroup request.expected.app →
          Placed cfg s request startTime := fun h =>
        ⟨p, hproc, htime startTime hsame, hcgroup ▸ h⟩
      by_cases hchanged : (targetForIdentity cfg snapshot).or
          (if insideSlice cfg snapshot.cgroup request.expected.app then
            targetForKnownApp cfg request.expected.app request.expected.role
          else none) ≠ some request.expected
      · rw [if_pos hchanged]
        exact .inl (hfail _ (by decide))
      rw [if_neg hchanged]
      by_cases hforeign : p.ownerUid ≠ cfg.expectedUid
      · rw [if_pos hforeign]
        exact .inl (hfail _ (by decide))
      rw [if_neg hforeign]
      split_ifs with hscoped hrouted
      · exact .inl ⟨_, rfl, .inr (hplaced (.inr hscoped))⟩
      · exact .inl ⟨_, rfl, .inr (hplaced (.inl hrouted))⟩
      · rw [hsame]
        exact .inr rfl

end Parp.CgroupRouter
