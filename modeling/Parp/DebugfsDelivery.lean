import Parp.DebugfsBridge
import Parp.TransitionRuns

set_option autoImplicit false

namespace Parp.DebugfsBridge

open TransitionRuns List

def Quiescent (s : Bridge) : Prop := s.todo = [] ∧ s.queue = [] ∧ s.writer = .idle

instance (s : Bridge) : Decidable (Quiescent s) := inferInstanceAs (Decidable (_ ∧ _ ∧ _))

def handed (s : Bridge) (i : Input) : Option WriteJob :=
  match i, s.todo with
  | .proceed _, .put job :: _ => some job
  | _, _ => none

def Room (c : Config) (kind : JobType) (s : Bridge) (i : Input) : Prop :=
  ∀ job ∈ handed s i, job.eventType = kind → s.queue.length < max 1 c.queueSize

def RepeatsInTime (c : Config) (s : Bridge) : Input → Prop
  | .submitPrediction p =>
    s.lastPredictionSignature = some (signatureOf c p) →
      p.nowNs < s.lastPredictionNs + c.priorTtlMs * 1000000
  | _ => True

/-- What `ensure_binding` leaves alone. -/
structure SameCall (s s' : Bridge) : Prop where
  queue : s'.queue = s.queue
  writer : s'.writer = s.writer
  lastPredictionNs : s'.lastPredictionNs = s.lastPredictionNs
  lastPredictionSignature : s'.lastPredictionSignature = s.lastPredictionSignature

theorem erase_insert_subset (a : String) (s : Finset String) : (insert a s).erase a ⊆ s := by
  rw [Finset.erase_insert_eq_erase]
  exact Finset.erase_subset a s

inductive EnsureCase (s : Bridge) (appKey : String) : Event × Bridge → Prop
  | ended {result : Bool} {s' : Bridge} (hsame : SameCall s s') (htodo : s'.todo = s.todo)
      (hpending : s'.pendingBindings ⊆ s.pendingBindings) :
      EnsureCase s appKey (.ensured result, s')
  | marked {job : WriteJob} {s' : Bridge} (hsame : SameCall s s')
      (htodo : s'.todo = .put job :: s.todo) (htype : job.eventType = .appBind)
      (hjob : job.currentApp = appKey)
      (hpending : s'.pendingBindings = insert appKey s.pendingBindings) :
      EnsureCase s appKey (.quiet, s')

variable (c : Config) (s : Bridge) (job : WriteJob)

theorem ensureBinding_cases (appKey : String) (resolved : Option ℤ) :
    EnsureCase s appKey (ensureBinding c s appKey resolved) := by
  have hsame : SameCall s s := ⟨rfl, rfl, rfl, rfl⟩
  unfold ensureBinding
  cases findApp c appKey with
  | none => exact .ended hsame rfl (Finset.Subset.refl _)
  | some app =>
    dsimp only
    by_cases hid : app.appId ≤ 0
    · rw [if_pos hid]
      exact .ended hsame rfl (Finset.Subset.refl _)
    · rw [if_neg hid]
      cases resolved with
      | none => exact .ended ⟨rfl, rfl, rfl, rfl⟩ rfl (Finset.Subset.refl _)
      | some domainId =>
        dsimp only
        split_ifs
        · exact .ended ⟨rfl, rfl, rfl, rfl⟩ rfl (Finset.Subset.refl _)
        · exact .ended ⟨rfl, rfl, rfl, rfl⟩ rfl (erase_insert_subset _ _)
        · exact .ended ⟨rfl, rfl, rfl, rfl⟩ rfl (erase_insert_subset _ _)
        · exact .marked ⟨rfl, rfl, rfl, rfl⟩ rfl rfl rfl rfl

inductive SubmitCase (c : Config) (s : Bridge) (p : Prediction) : Event × Bridge → Prop
  | quiet : SubmitCase c s p (.quiet, s)
  | fallback {reason : FallbackReason} (h : reason ≠ .duplicatePrediction) :
      SubmitCase c s p (.fallback reason, s)
  | duplicate (h : s.lastPredictionSignature = some (signatureOf c p)) :
      SubmitCase c s p (.fallback .duplicatePrediction, s)
  | submitted {batch : Batch} {s' : Bridge} (hsignature : batch.signature = signatureOf c p)
      (hnow : batch.nowNs = p.nowNs) (hjobs : batch.jobs = jobsOf s'.todo)
      (hprior : ∀ job ∈ batch.jobs, job.eventType = .appPrior)
      (hlast : s'.lastPredictionSignature = some (signatureOf c p))
      (htime : s'.lastPredictionNs = p.nowNs) (hqueue : s'.queue = s.queue)
      (hwriter : s'.writer = s.writer) (hpending : s'.pendingBindings = s.pendingBindings) :
      SubmitCase c s p (.submitted batch, s')

theorem mem_jobsOf {tasks : List Task} {job : WriteJob} :
    job ∈ jobsOf tasks ↔ .put job ∈ tasks := by
  unfold jobsOf
  rw [mem_filterMap]
  constructor
  · rintro ⟨task, hmem, h⟩
    cases task with
    | bind appKey => cases h
    | put job' =>
      cases h
      exact hmem
  · intro h
    exact ⟨_, h, rfl⟩

theorem candidateTasks_prior (p : Prediction) (generation : ℕ)
    (item : PriorCandidate) {job : WriteJob} (h : .put job ∈ candidateTasks c p generation item) :
    job.eventType = .appPrior := by
  unfold candidateTasks at h
  rcases mem_append.1 h with h | h
  · simp at h
  · split_ifs at h
    · cases mem_singleton.1 h
      rfl
    · cases h

theorem submitPrediction_cases (p : Prediction) :
    SubmitCase c s p (submitPrediction c s p) := by
  unfold submitPrediction
  dsimp only
  by_cases hformat : p.predictionFormat = "visit_window"
  · rw [if_pos hformat]
    exact .quiet
  rw [if_neg hformat]
  by_cases hoff : c.mode = .off
  · rw [if_pos hoff]
    exact .quiet
  rw [if_neg hoff]
  by_cases hstatus : p.status ≠ "success"
  · rw [if_pos hstatus]
    exact .quiet
  rw [if_neg hstatus]
  cases hexpired : expired p with
  | some reason =>
    apply SubmitCase.fallback
    rintro rfl
    unfold expired at hexpired
    split at hexpired
    · cases hexpired
    · cases hexpired
    · split_ifs at hexpired
      cases hexpired
  | none =>
    dsimp only
    split_ifs with hempty hinterval hduplicate
    · exact .fallback (by decide)
    · exact .fallback (by decide)
    · exact .duplicate hduplicate.symm
    · refine .submitted rfl rfl rfl ?_ rfl rfl rfl rfl rfl
      intro job hjob
      obtain ⟨item, -, hitem⟩ := mem_flatMap.1 (mem_jobsOf.1 hjob)
      exact candidateTasks_prior c p _ item hitem

structure WriterMoved (s s' : Bridge) : Prop where
  todo : s'.todo = s.todo
  lastPredictionNs : s'.lastPredictionNs = s.lastPredictionNs
  lastPredictionSignature : s'.lastPredictionSignature = s.lastPredictionSignature
  pending : s'.pendingBindings ⊆ s.pendingBindings

theorem finishWrite_moved (attempt : ℕ → Attempt) :
    WriterMoved s (finishWrite c s job attempt) ∧ (finishWrite c s job attempt).queue = s.queue ∧
      (job.eventType = .appBind → job.currentApp ∉ (finishWrite c s job attempt).pendingBindings) := by
  have herase := Finset.erase_subset job.currentApp s.pendingBindings
  have hgone := Finset.notMem_erase job.currentApp s.pendingBindings
  unfold finishWrite discardPending
  cases tryWrites attempt (c.maxRetries + 1) 0 with
  | success | failure =>
    cases job.eventType with
    | appBind => exact ⟨⟨rfl, rfl, rfl, herase⟩, rfl, fun _ => hgone⟩
    | appPrior => exact ⟨⟨rfl, rfl, rfl, Finset.Subset.refl _⟩, rfl, nofun⟩
  | raised => exact ⟨⟨rfl, rfl, rfl, herase⟩, rfl, fun _ => hgone⟩

theorem confirm_moved (raised : Bool) :
    WriterMoved s (confirm c s job raised) ∧ (confirm c s job raised).queue = s.queue := by
  have herase := Finset.erase_subset job.currentApp s.pendingBindings
  unfold confirm discardPending
  cases job.eventType with
  | appBind | appPrior =>
    cases raised with
    | true => exact ⟨⟨rfl, rfl, rfl, herase⟩, rfl⟩
    | false => exact ⟨⟨rfl, rfl, rfl, Finset.Subset.refl _⟩, rfl⟩

def Carried (s : Bridge) (appKey : String) : Prop :=
  ∃ job : WriteJob, job.eventType = .appBind ∧ job.currentApp = appKey ∧
    (.put job ∈ s.todo ∨ job ∈ s.queue ∨ s.writer = .writing job)

def Accounted (s : Bridge) : Prop := ∀ appKey ∈ s.pendingBindings, Carried s appKey

theorem Accounted.mono {s s' : Bridge} (h : Accounted s)
    (hpending : s'.pendingBindings ⊆ s.pendingBindings) (htodo : s.todo ⊆ s'.todo)
    (hqueue : s.queue ⊆ s'.queue) (hwriter : s'.writer = s.writer) : Accounted s' := by
  intro appKey hmem
  obtain ⟨job, htype, hjob, hplace⟩ := h appKey (hpending hmem)
  refine ⟨job, htype, hjob, ?_⟩
  rcases hplace with hput | hqueued | hwriting
  · exact .inl (htodo hput)
  · exact .inr (.inl (hqueue hqueued))
  · exact .inr (.inr (hwriter.trans hwriting))

theorem Accounted.move {s s' : Bridge} (h : Accounted s)
    (hpending : s'.pendingBindings = s.pendingBindings)
    (hmove : ∀ job : WriteJob, job.eventType = .appBind →
      .put job ∈ s.todo ∨ job ∈ s.queue ∨ s.writer = .writing job →
      .put job ∈ s'.todo ∨ job ∈ s'.queue ∨ s'.writer = .writing job) : Accounted s' := by
  intro appKey hmem
  obtain ⟨job, htype, hjob, hplace⟩ := h appKey (hpending ▸ hmem)
  exact ⟨job, htype, hjob, hmove job htype hplace⟩

theorem Accounted.written {s s' : Bridge} (h : Accounted s) (hmoved : WriterMoved s s')
    (hqueue : s'.queue = s.queue)
    (hgone : ∀ job, s.writer = .writing job → job.eventType = .appBind →
      job.currentApp ∉ s'.pendingBindings) : Accounted s' := by
  intro app hmem
  obtain ⟨job, htype, hjob, hplace⟩ := h app (hmoved.pending hmem)
  refine ⟨job, htype, hjob, ?_⟩
  rw [hmoved.todo, hqueue]
  rcases hplace with hput | hqueued | hwriting
  · exact .inl hput
  · exact .inr (.inl hqueued)
  · exact absurd (hjob ▸ hmem) (hgone job hwriting htype)

theorem ensureBinding_accounted {s : Bridge} (h : Accounted s) (appKey : String)
    (resolved : Option ℤ) : Accounted (ensureBinding c s appKey resolved).2 := by
  have hcases := ensureBinding_cases c s appKey resolved
  generalize ensureBinding c s appKey resolved = result at *
  cases hcases with
  | ended hsame htodo hpending =>
    exact h.mono hpending (htodo ▸ List.Subset.refl _) (hsame.queue ▸ List.Subset.refl _)
      hsame.writer
  | @marked job s' hsame htodo htype hjob hpending =>
    intro app hmem
    rw [hpending] at hmem
    rcases Finset.mem_insert.1 hmem with rfl | hold
    · exact ⟨job, htype, hjob, .inl (htodo ▸ mem_cons_self)⟩
    · obtain ⟨job', htype', hjob', hplace⟩ := h app hold
      refine ⟨job', htype', hjob', ?_⟩
      dsimp only
      rw [htodo, hsame.queue, hsame.writer]
      exact hplace.imp_left (mem_cons_of_mem _)

theorem step_accounted {c : Config} {s : Bridge} {i : Input} (h : Accounted s)
    (hroom : Room c .appBind s i) : Accounted (step c s i).2 := by
  cases i with
  | ensureBinding appKey =>
    simp only [step]
    split_ifs with htodo
    · exact h.mono (Finset.Subset.refl _) (by simp [htodo]) (List.Subset.refl _) rfl
    · exact h
  | submitPrediction p =>
    simp only [step]
    split_ifs with htodo
    · have hcases := submitPrediction_cases c s p
      generalize submitPrediction c s p = result at *
      cases hcases with
      | quiet | fallback | duplicate => exact h
      | submitted _ _ _ _ _ _ hqueue hwriter hpending =>
        exact h.mono (hpending ▸ Finset.Subset.refl _) (by simp [htodo])
          (hqueue ▸ List.Subset.refl _) hwriter
    · exact h
  | proceed resolved =>
    cases htodo : s.todo with
    | nil =>
      simp only [step, htodo]
      exact h
    | cons task todo =>
      cases task with
      | bind appKey =>
        simp only [step, htodo]
        apply ensureBinding_accounted
        refine h.move rfl fun job _ hplace => hplace.imp_left fun hput => ?_
        rw [htodo] at hput
        exact (mem_cons.1 hput).resolve_left nofun
      | put job =>
        simp only [step, htodo, enqueue]
        by_cases hfull : s.queue.length < max 1 c.queueSize
        · rw [if_pos hfull]
          refine h.move rfl fun job' _ hplace => ?_
          rw [htodo, mem_cons] at hplace
          rcases hplace with (hput | hput) | hqueued | hwriting
          · cases hput
            exact .inr (.inl (mem_append_right _ (mem_singleton_self job)))
          · exact .inl hput
          · exact .inr (.inl (mem_append_left _ hqueued))
          · exact .inr (.inr hwriting)
        · rw [if_neg hfull]
          -- only a prior finds no room here, and it carries no mark
          refine h.move rfl fun job' htype hplace => ?_
          rw [htodo, mem_cons] at hplace
          rcases hplace with (hput | hput) | hplace
          · cases hput
            exact absurd (hroom job (by simp [handed, htodo]) htype) hfull
          · exact .inl hput
          · exact .inr hplace
  | take =>
    simp only [step]
    cases hwriter : s.writer with
    | idle =>
      cases hqueue : s.queue with
      | nil => exact h
      | cons job queue =>
        refine h.move rfl fun job' _ hplace => ?_
        rw [hqueue, hwriter, mem_cons] at hplace
        rcases hplace with hput | (rfl | hqueued) | hwriting
        · exact .inl hput
        · exact .inr (.inr rfl)
        · exact .inr (.inl hqueued)
        · cases hwriting
    | writing job => exact h
    | confirming job => exact h
  | finish attempt =>
    simp only [step]
    cases hwriter : s.writer with
    | idle => exact h
    | writing job =>
      obtain ⟨hmoved, hqueue, hgone⟩ := finishWrite_moved c s job attempt
      refine h.written hmoved hqueue fun job' hwriting => ?_
      cases hwriter.symm.trans hwriting
      exact hgone
    | confirming job => exact h
  | confirm raised =>
    simp only [step]
    cases hwriter : s.writer with
    | idle => exact h
    | writing job => exact h
    | confirming job =>
      obtain ⟨hmoved, hqueue⟩ := confirm_moved c s job raised
      refine h.written hmoved hqueue fun job' hwriting => ?_
      cases hwriter.symm.trans hwriting

/-- The remembered signature is that of a batch whose commands are accepted or still to hand over. -/
def Remembered (events : List Event) (s : Bridge) : Prop :=
  ∀ signature, s.lastPredictionSignature = some signature →
    ∃ batch : Batch, .submitted batch ∈ events ∧ batch.signature = signature ∧
      batch.nowNs = s.lastPredictionNs ∧
      ∀ job ∈ batch.jobs, job.eventType = .appPrior ∧
        (.accepted job ∈ events ∨ .put job ∈ s.todo)

variable {events : List Event}

theorem Remembered.move {s s' : Bridge} {e : Event}
    (h : Remembered events s) (hlast : s'.lastPredictionSignature = s.lastPredictionSignature)
    (htime : s'.lastPredictionNs = s.lastPredictionNs)
    (hmove : ∀ job : WriteJob, job.eventType = .appPrior → .put job ∈ s.todo →
      e = .accepted job ∨ .put job ∈ s'.todo) : Remembered (events ++ [e]) s' := by
  intro signature hsignature
  obtain ⟨batch, hmem, hsame, hnow, hjobs⟩ := h signature (hlast ▸ hsignature)
  refine ⟨batch, mem_append_left _ hmem, hsame, hnow.trans htime.symm, ?_⟩
  intro job hjob
  obtain ⟨htype, hplace⟩ := hjobs job hjob
  refine ⟨htype, ?_⟩
  rcases hplace with haccepted | hput
  · exact .inl (mem_append_left _ haccepted)
  · rcases hmove job htype hput with rfl | hput
    · exact .inl (mem_append_right _ (mem_singleton_self _))
    · exact .inr hput

theorem Remembered.stay {s : Bridge} {e : Event} (h : Remembered events s) :
    Remembered (events ++ [e]) s :=
  h.move rfl rfl fun _ _ hput => .inr hput

theorem Remembered.moved {s s' : Bridge} {e : Event} (h : Remembered events s)
    (hmoved : WriterMoved s s') : Remembered (events ++ [e]) s' :=
  h.move hmoved.lastPredictionSignature hmoved.lastPredictionNs
    fun _ _ hput => .inr (hmoved.todo.symm ▸ hput)

theorem step_remembered {c : Config} {s : Bridge} {i : Input} (h : Remembered events s)
    (hroom : Room c .appPrior s i) : Remembered (events ++ [(step c s i).1]) (step c s i).2 := by
  cases i with
  | ensureBinding appKey =>
    simp only [step]
    split_ifs with htodo
    · exact h.move rfl rfl fun job _ hput => by simp [htodo] at hput
    · exact h.stay
  | submitPrediction p =>
    simp only [step]
    split_ifs with htodo
    · have hcases := submitPrediction_cases c s p
      generalize submitPrediction c s p = result at *
      cases hcases with
      | quiet | fallback | duplicate => exact h.stay
      | @submitted batch s' hsignature hnow hjobs hprior hlast htime _ _ _ =>
        intro signature hremembered
        rw [hlast, Option.some.injEq] at hremembered
        refine ⟨batch, mem_append_right _ (mem_singleton_self _),
          hsignature.trans hremembered, hnow.trans htime.symm, ?_⟩
        intro job hjob
        exact ⟨hprior job hjob, .inr (mem_jobsOf.1 (hjobs ▸ hjob))⟩
    · exact h.stay
  | proceed resolved =>
    cases htodo : s.todo with
    | nil =>
      simp only [step, htodo]
      exact h.stay
    | cons task todo =>
      cases task with
      | bind appKey =>
        simp only [step, htodo]
        have hcases := ensureBinding_cases c { s with todo := todo } appKey resolved
        generalize ensureBinding c { s with todo := todo } appKey resolved = result at *
        have hrest (job : WriteJob) (hput : .put job ∈ s.todo) : .put job ∈ todo := by
          rw [htodo] at hput
          exact (mem_cons.1 hput).resolve_left nofun
        cases hcases with
        | ended hsame hkept hpending =>
          refine h.move hsame.lastPredictionSignature hsame.lastPredictionNs
            fun job _ hput => .inr ?_
          exact hkept.symm ▸ hrest job hput
        | marked hsame hmarked htype hjob hpending =>
          refine h.move hsame.lastPredictionSignature hsame.lastPredictionNs
            fun job _ hput => .inr ?_
          exact hmarked.symm ▸ mem_cons_of_mem _ (hrest job hput)
      | put job =>
        simp only [step, htodo, enqueue]
        by_cases hfull : s.queue.length < max 1 c.queueSize
        · rw [if_pos hfull]
          refine h.move rfl rfl fun job' _ hput => ?_
          rw [htodo] at hput
          rcases mem_cons.1 hput with hput | hput
          · cases hput
            exact .inl rfl
          · exact .inr hput
        · rw [if_neg hfull]
          refine h.move rfl rfl fun job' htype hput => ?_
          rw [htodo] at hput
          rcases mem_cons.1 hput with hput | hput
          · cases hput
            exact absurd (hroom job (by simp [handed, htodo]) htype) hfull
          · exact .inr hput
  | take =>
    simp only [step]
    split
    · exact h.moved ⟨rfl, rfl, rfl, Finset.Subset.refl _⟩
    · exact h.stay
  | finish attempt =>
    simp only [step]
    split
    · exact h.moved (finishWrite_moved c s _ attempt).1
    · exact h.stay
  | confirm raised =>
    simp only [step]
    split
    · exact h.moved (confirm_moved c s _ raised).1
    · exact h.stay

theorem ensureBinding_marks {c : Config} {s : Bridge} {appKey : String} {app : App}
    (hmode : c.mode = .shadowWrite) (hready : c.shadowWriteReady = true)
    (hfind : findApp c appKey = some app) (hid : 0 < app.appId)
    (hnew : s.successfulBindings.get? appKey = none) (hpending : appKey ∉ s.pendingBindings)
    (domainId : ℤ) :
    ∃ job : WriteJob, job.eventType = .appBind ∧ job.currentApp = appKey ∧
      job.domainId = domainId ∧
      (ensureBinding c s appKey (some domainId)).2.todo = .put job :: s.todo ∧
      (ensureBinding c s appKey (some domainId)).2.queue = s.queue := by
  unfold ensureBinding
  rw [hfind]
  dsimp only
  rw [if_neg (not_le.2 hid), if_neg (by simp [hnew, hpending]), if_neg (by simp [hmode]),
    if_neg (by simp [hready])]
  exact ⟨_, rfl, rfl, rfl, rfl, rfl⟩

def Requeues (c : Config) (s : Bridge) : Prop :=
  ∀ appKey app domainId, findApp c appKey = some app → 0 < app.appId →
    s.successfulBindings.get? appKey = none →
    ∃ job : WriteJob, job.eventType = .appBind ∧ job.currentApp = appKey ∧
      job.domainId = domainId ∧
      (after (step c) s [.ensureBinding appKey, .proceed (some domainId), .proceed none]).queue =
        [job]

theorem enqueue_empty {s : Bridge} (h : s.queue = []) (job : WriteJob) :
    (enqueue c s job).2.queue = [job] := by
  unfold enqueue
  rw [if_pos (by simp [h])]
  simp [h]

theorem quiescent_requeues {c : Config} {s : Bridge} (hmode : c.mode = .shadowWrite)
    (hready : c.shadowWriteReady = true) (hquiet : Quiescent s) (hpending : s.pendingBindings = ∅) :
    Requeues c s := by
  intro appKey app domainId hfind hid hnew
  obtain ⟨htodo, hqueue, -⟩ := hquiet
  obtain ⟨job, htype, hjob, hdomain, hput, hkept⟩ := ensureBinding_marks (s := { s with todo := [] })
    hmode hready hfind hid hnew (by simp [hpending]) domainId
  refine ⟨job, htype, hjob, hdomain, ?_⟩
  simp only [after_cons, after_nil, step, htodo, if_true, hput]
  apply enqueue_empty
  exact hkept.trans hqueue

theorem run_remembered (inputs : List Input) (h : Along (step c) (Room c .appPrior) {} inputs) :
    Remembered (outputs (step c) {} inputs) (after (step c) {} inputs) := by
  induction inputs using List.reverseRecOn with
  | nil => exact fun signature hsignature => by cases hsignature
  | append_singleton inputs i ih =>
    obtain ⟨hbefore, hroom, -⟩ := (along_append _ _ _ _ _).1 h
    rw [outputs_concat, after_concat]
    exact step_remembered (ih hbefore) hroom

theorem duplicate_remembered {c : Config} {s : Bridge} {p : Prediction}
    (h : (step c s (.submitPrediction p)).1 = .fallback .duplicatePrediction) :
    s.todo = [] ∧ s.lastPredictionSignature = some (signatureOf c p) := by
  simp only [step] at h
  split_ifs at h with htodo
  have hcases := submitPrediction_cases c s p
  generalize submitPrediction c s p = result at *
  cases hcases with
  | duplicate hsame => exact ⟨htodo, hsame⟩
  | fallback hreason => exact absurd (Event.fallback.inj h) hreason
  | quiet => cases h
  | submitted => cases h

/-- What is delivered over a run, each under the condition on the queue that it needs. -/
structure DeliveryLaws (c : Config) (inputs : List Input) : Prop where
  settles : Along (step c) (Room c .appBind) {} inputs → ∀ left right, inputs = left ++ right →
    Quiescent (after (step c) {} left) →
    (after (step c) {} left).pendingBindings = ∅ ∧
      (c.mode = .shadowWrite → c.shadowWriteReady = true → Requeues c (after (step c) {} left))
  duplicates : Along (step c) (Room c .appPrior) {} inputs →
    Along (step c) (RepeatsInTime c) {} inputs →
    ∀ left p right, inputs = left ++ .submitPrediction p :: right →
      (step c (after (step c) {} left) (.submitPrediction p)).1 = .fallback .duplicatePrediction →
      ∃ batch : Batch, .submitted batch ∈ outputs (step c) {} left ∧
        batch.signature = signatureOf c p ∧ p.nowNs < batch.nowNs + c.priorTtlMs * 1000000 ∧
        ∀ job ∈ batch.jobs, .accepted job ∈ outputs (step c) {} left

theorem bridge_delivers (c : Config) (inputs : List Input) : DeliveryLaws c inputs where
  settles hroom left right hsplit hquiet := by
    subst hsplit
    have hleft := ((along_append _ _ _ _ _).1 hroom).1
    have haccounted := after_invariant_along (fun _ _ h hroom => step_accounted h hroom)
      (show Accounted {} from by simp [Accounted]) left hleft
    have hempty : (after (step c) {} left).pendingBindings = ∅ := by
      apply Finset.eq_empty_of_forall_notMem
      intro appKey hmem
      obtain ⟨job, -, -, hplace⟩ := haccounted appKey hmem
      obtain ⟨htodo, hqueue, hwriter⟩ := hquiet
      rw [htodo, hqueue, hwriter] at hplace
      simp at hplace
    exact ⟨hempty, fun hmode hready => quiescent_requeues hmode hready hquiet hempty⟩
  duplicates hroom htime left p right hsplit hduplicate := by
    subst hsplit
    have hremembered := run_remembered c left ((along_append _ _ _ _ _).1 hroom).1
    obtain ⟨htodo, hsignature⟩ := duplicate_remembered hduplicate
    have hlives := ((along_append _ _ _ _ _).1 htime).2.1 hsignature
    obtain ⟨batch, hmem, hsame, hnow, hjobs⟩ := hremembered _ hsignature
    refine ⟨batch, hmem, hsame, hnow ▸ hlives, ?_⟩
    intro job hjob
    have hplace := (hjobs job hjob).2
    rw [htodo] at hplace
    exact hplace.resolve_right (not_mem_nil)

def narrowConfig : Config where
  mode := .shadowWrite
  shadowWriteReady := true
  apps := [⟨"files", 11, "FILES", true⟩, ⟨"vlc", 12, "VLC", true⟩]
  digest := id
  queueSize := 1

def vlcNext (nowNs : ℤ) : Prediction where
  predictionFormat := "app_probability"
  mappedForegroundApp := "FILES"
  rows := [.row none "VLC" (some 0.5)]
  checkedNs := nowNs
  nowNs := nowNs

def written : List Input := [.take, .finish fun _ => .written, .confirm false]

def bindCall (appKey : String) (domainId : ℤ) : List Input :=
  [.ensureBinding appKey, .proceed (some domainId), .proceed none]

/-- The prediction's bindings and its prior, each written before the next piece of the call. -/
def writtenPrediction (nowNs : ℤ) : List Input :=
  .submitPrediction (vlcNext nowNs) :: .proceed (some 102) :: .proceed none :: written ++
    .proceed (some 101) :: .proceed none :: written ++ .proceed none :: written

/-- A binding that finds the queue full stays marked pending and is not sent again; a prediction whose
prior finds it full, or whose prior has expired, is refused as a duplicate. -/
theorem full_queue_loses :
    (let s := after (step narrowConfig) {} (bindCall "files" 101 ++ bindCall "vlc" 102 ++ written)
     Quiescent s ∧ "vlc" ∈ s.pendingBindings ∧ s.successfulBindings.get? "vlc" = none ∧
       (after (step narrowConfig) s (bindCall "vlc" 102)).queue = []) ∧
      (let call : List Input := [.submitPrediction (vlcNext 1), .proceed (some 102), .proceed none,
        .proceed none, .proceed none]
       let s := after (step narrowConfig) {} (call ++ written)
       Quiescent s ∧ (step narrowConfig s (.submitPrediction (vlcNext 2))).1 =
         .fallback .duplicatePrediction ∧
         (outputs (step narrowConfig) {} (call ++ written)).filterMap (fun
           | .accepted job => some job.eventType
           | _ => none) = [.appBind]) ∧
      (let s := after (step narrowConfig) {} (writtenPrediction 1)
       Quiescent s ∧ (step narrowConfig s
         (.submitPrediction (vlcNext (1 + 180000 * 1000000)))).1 =
           .fallback .duplicatePrediction) := by
  decide +kernel

end Parp.DebugfsBridge
