import Parp.DailyAction
import Parp.Handoff
import Parp.TransitionRuns
import Mathlib.Data.List.Induction

set_option autoImplicit false

/-!
# The daily executor

One resident worker; every step is taken under the mutex, a job runs outside it.
-/
namespace Parp.DailyExecutor

open Memshift Daily TransitionRuns Handoff List

variable {J : Type}

/-- Where the worker thread stands in `loop`. -/
inductive Worker (J : Type) where
  | waiting
  | running (job : J)
  | finished (job : J) (completed : Result)
  | returned

/-- A `std::function` may be empty, so a job of the executor is optional twice over. -/
structure Executor (J : Type) where
  job : Option J := none
  result : Option Result := none
  pending : Request := {}
  cancelled : Bool := false
  stop : Bool := false
  occupied : Bool := false
  halted : Bool := false
  timedOut : Bool := false
  lastSequence : UInt64 := 0
  maxSubmissions : UInt64 := 0
  submissions : UInt64 := 0
  worker : Worker J := .waiting

/-- A call of one thread, with what its callbacks do and whether `try_to_lock` succeeds. -/
inductive Event (J : Type) where
  | submit (request : Request) (job : Option J) (reserveThrows : Bool)
  | loop (outcome : Option Result)
  | poll (locked : Bool)
  | timeout (locked : Bool) (now seconds : Float)
  | join

inductive Effect (J : Type) where
  | refused (request : Request)
  | reserve (request : Request)
  | reserveThrew (request : Request)
  | accepted (request : Request) (job : Option J)
  | started (job : J)
  | ended (job : J) (completed : Result)
  | stored (job : J) (result : Result)
  | polled (result : Result)
  | timedOut (result : Result)
  | joined

def busy (s : Executor J) : Bool :=
  s.occupied || s.halted || s.stop || (s.maxSubmissions ≠ 0 && s.maxSubmissions ≤ s.submissions)

def submit (s : Executor J) (request : Request) (job : Option J) (reserveThrows : Bool) :
    List (Effect J) × Executor J :=
  if busy s || request.sequence ≤ s.lastSequence || request.actionId = [] then
    ([.refused request], s)
  else if reserveThrows then
    ([.reserve request, .reserveThrew request], { s with halted := true })
  else
    ([.reserve request, .accepted request job],
      { s with
        submissions := s.submissions + 1
        pending := request
        lastSequence := request.sequence
        occupied := true
        cancelled := false
        job := job })

def workerException (s : Executor J) : Result :=
  { request := s.pending
    status := text "worker_exception_unknown"
    writeAttempted := none
    uncertain := true }

def afterTimeout (completed : Result) : Result :=
  { completed with
    status := text "completed_after_timeout:" ++ completed.status
    uncertain := true }

def loop (s : Executor J) (outcome : Option Result) : List (Effect J) × Executor J :=
  match s.worker with
  | .waiting =>
    match s.job with
    | some job => ([.started job], { s with job := none, worker := .running job })
    | none => ([], if s.stop then { s with worker := .returned } else s)
  | .running job =>
    let completed := outcome.getD (workerException s)
    ([.ended job completed], { s with worker := .finished job completed })
  | .finished job completed =>
    let completed := if s.timedOut then afterTimeout completed else completed
    ([.stored job completed],
      { s with
        result := some completed
        halted := s.halted || completed.uncertain
        worker := .waiting })
  | .returned => ([], s)

def poll (s : Executor J) (locked : Bool) : List (Effect J) × Executor J :=
  if locked then
    match s.result with
    | some result => ([.polled result], { s with result := none, occupied := false })
    | none => ([], s)
  else ([], s)

def timeout (s : Executor J) (locked : Bool) (now seconds : Float) :
    List (Effect J) × Executor J :=
  if !locked || !s.occupied || s.result.isSome || s.halted || !now.isFinite ||
      decide (now - s.pending.reservedAt < seconds) then ([], s)
  else
    ([.timedOut
      { request := s.pending
        status := text "pending_timeout_unknown_admission_halted"
        writeAttempted := none
        uncertain := true }],
      { s with halted := true, timedOut := true, cancelled := true })

def join (s : Executor J) : List (Effect J) × Executor J :=
  ([.joined], { s with stop := true, cancelled := true })

def step (s : Executor J) : Event J → List (Effect J) × Executor J
  | .submit request job reserveThrows => submit s request job reserveThrows
  | .loop outcome => loop s outcome
  | .poll locked => poll s locked
  | .timeout locked now seconds => timeout s locked now seconds
  | .join => join s

def executor (maximum : UInt64) : Executor J := { maxSubmissions := maximum }

def history (maximum : UInt64) (events : List (Event J)) : List (Effect J) :=
  (outputs step (executor maximum) events).flatten

theorem history_concat (maximum : UInt64) (events : List (Event J)) (event : Event J) :
    history maximum (events ++ [event]) =
      history maximum events ++ (step (after step (executor maximum) events) event).1 := by
  unfold history
  rw [outputs_concat, flatten_append, flatten_singleton]

def accepts (h : List (Effect J)) : List (Request × Option J) :=
  h.filterMap fun e => match e with | .accepted request job => some (request, job) | _ => none

def jobs (h : List (Effect J)) : List J := (accepts h).filterMap Prod.snd

def starts (h : List (Effect J)) : List J :=
  h.filterMap fun e => match e with | .started job => some job | _ => none

def ends (h : List (Effect J)) : List J :=
  h.filterMap fun e => match e with | .ended job _ => some job | _ => none

def stores (h : List (Effect J)) : List (J × Result) :=
  h.filterMap fun e => match e with | .stored job result => some (job, result) | _ => none

def polls (h : List (Effect J)) : List Result :=
  h.filterMap fun e => match e with | .polled result => some result | _ => none

def Halting : Effect J → Prop
  | .stored _ result => result.uncertain = true
  | .timedOut _ | .reserveThrew _ | .joined => True
  | _ => False

section

def move : Effect J → Option (Move (Option J) Result)
  | .accepted _ job => some (.accept job)
  | .started job => some (.start (some job))
  | .ended job _ => some (.finish (some job))
  | .stored job result => some (.store (some job) result)
  | .polled result => some (.collect result)
  | _ => none

def moves (h : List (Effect J)) : List (Move (Option J) Result) := h.filterMap move

theorem moves_append (left right : List (Effect J)) :
    moves (left ++ right) = moves left ++ moves right := filterMap_append

def Idle (s : Executor J) : Prop := s.worker = .waiting ∨ s.worker = .returned ∧ s.stop = true

inductive Holds (s : Executor J) : Slot (Option J) Result → Prop where
  | free (hoccupied : s.occupied = false) (hjob : s.job = none) (hresult : s.result = none)
      (hidle : Idle s) : Holds s .free
  | empty (hoccupied : s.occupied = true) (hjob : s.job = none) (hresult : s.result = none)
      (hidle : Idle s) : Holds s (.queued none)
  | queued {job : J} (hoccupied : s.occupied = true) (hjob : s.job = some job)
      (hresult : s.result = none) (hwaiting : s.worker = .waiting) : Holds s (.queued (some job))
  | running {job : J} (hoccupied : s.occupied = true) (hjob : s.job = none)
      (hresult : s.result = none) (hrunning : s.worker = .running job) :
      Holds s (.running (some job))
  | finished {job : J} {completed : Result} (hoccupied : s.occupied = true) (hjob : s.job = none)
      (hresult : s.result = none) (hfinished : s.worker = .finished job completed) :
      Holds s (.finished (some job))
  | stored {job : Option J} {result : Result} (hoccupied : s.occupied = true)
      (hjob : s.job = none) (hresult : s.result = some result) (hidle : Idle s) :
      Holds s (.stored job result)

def Follows (slot : Slot (Option J) Result) (next : List (Effect J) × Executor J) : Prop :=
  ∃ slot', Path slot (moves next.1) slot' ∧ Holds next.2 slot'

variable {s : Executor J} {slot : Slot (Option J) Result}

theorem Holds.stay (h : Holds s slot) {effects : List (Effect J)} (hmoves : moves effects = [])
    {s' : Executor J} (hjob : s'.job = s.job) (hresult : s'.result = s.result)
    (hoccupied : s'.occupied = s.occupied) (hworker : s'.worker = s.worker)
    (hstop : s.stop = true → s'.stop = true) : Follows slot (effects, s') := by
  have hidle : Idle s → Idle s' := by
    intro h
    unfold Idle
    rw [hworker]
    exact h.imp_right fun hreturned => ⟨hreturned.1, hstop hreturned.2⟩
  refine ⟨slot, hmoves ▸ .nil, ?_⟩
  cases h with
  | free ho hj hr hi => exact .free (hoccupied ▸ ho) (hjob ▸ hj) (hresult ▸ hr) (hidle hi)
  | empty ho hj hr hi => exact .empty (hoccupied ▸ ho) (hjob ▸ hj) (hresult ▸ hr) (hidle hi)
  | queued ho hj hr hw => exact .queued (hoccupied ▸ ho) (hjob ▸ hj) (hresult ▸ hr) (hworker ▸ hw)
  | running ho hj hr hw =>
    exact .running (hoccupied ▸ ho) (hjob ▸ hj) (hresult ▸ hr) (hworker ▸ hw)
  | finished ho hj hr hw =>
    exact .finished (hoccupied ▸ ho) (hjob ▸ hj) (hresult ▸ hr) (hworker ▸ hw)
  | stored ho hj hr hi => exact .stored (hoccupied ▸ ho) (hjob ▸ hj) (hresult ▸ hr) (hidle hi)

theorem Holds.same (h : Holds s slot) {effects : List (Effect J)} (hmoves : moves effects = []) :
    Follows slot (effects, s) := h.stay hmoves rfl rfl rfl rfl id

theorem submit_follows (h : Holds s slot) (request : Request) (job : Option J) (throws : Bool) :
    Follows slot (submit s request job throws) := by
  unfold submit
  split_ifs with hrefused hthrows
  · exact h.same rfl
  · exact h.stay rfl rfl rfl rfl rfl id
  · have hfree : s.occupied = false ∧ s.stop = false := by
      simp only [busy, Bool.or_eq_true, not_or, Bool.not_eq_true] at hrefused
      exact ⟨hrefused.1.1.1.1.1, hrefused.1.1.1.2⟩
    cases h with
    | free _ hjob hresult hidle =>
      have hwaiting : s.worker = .waiting := hidle.resolve_right fun h => by
        rw [hfree.2] at h
        cases h.2
      refine ⟨.queued job, (Moves.accept job).path, ?_⟩
      cases job with
      | none => exact .empty rfl rfl hresult (.inl hwaiting)
      | some job => exact .queued rfl rfl hresult hwaiting
    | empty ho | queued ho | running ho | finished ho | stored ho =>
      rw [hfree.1] at ho
      cases ho

theorem loop_idle (hjob : s.job = none) (hidle : Idle s) (outcome : Option Result) :
    loop s outcome = ([], s) ∨
      s.stop = true ∧ loop s outcome = ([], { s with worker := .returned }) := by
  unfold loop
  rcases hidle with hwaiting | ⟨hreturned, -⟩
  · rw [hwaiting, hjob]
    by_cases hstop : s.stop = true
    · exact .inr ⟨hstop, by rw [if_pos hstop]⟩
    · exact .inl (by rw [if_neg hstop])
  · rw [hreturned]
    exact .inl rfl

theorem loop_follows (h : Holds s slot) (outcome : Option Result) :
    Follows slot (loop s outcome) := by
  cases h with
  | free ho hj hr hi =>
    rcases loop_idle hj hi outcome with hsame | ⟨hstop, hreturn⟩
    · rw [hsame]
      exact (Holds.free ho hj hr hi).same rfl
    · rw [hreturn]
      exact ⟨.free, .nil, .free ho hj hr (.inr ⟨rfl, hstop⟩)⟩
  | empty ho hj hr hi =>
    rcases loop_idle hj hi outcome with hsame | ⟨hstop, hreturn⟩
    · rw [hsame]
      exact (Holds.empty ho hj hr hi).same rfl
    · rw [hreturn]
      exact ⟨.queued none, .nil, .empty ho hj hr (.inr ⟨rfl, hstop⟩)⟩
  | @stored job result ho hj hr hi =>
    rcases loop_idle hj hi outcome with hsame | ⟨hstop, hreturn⟩
    · rw [hsame]
      exact (Holds.stored ho hj hr hi).same rfl
    · rw [hreturn]
      exact ⟨.stored job result, .nil, .stored ho hj hr (.inr ⟨rfl, hstop⟩)⟩
  | queued ho hj hr hw =>
    unfold loop
    rw [hw, hj]
    exact ⟨_, (Moves.start _).path, .running ho rfl hr rfl⟩
  | running ho hj hr hw =>
    unfold loop
    rw [hw]
    exact ⟨_, (Moves.finish _).path, .finished ho hj hr rfl⟩
  | finished ho hj hr hw =>
    unfold loop
    rw [hw]
    exact ⟨_, (Moves.store _ _).path, .stored ho hj rfl (.inl rfl)⟩

theorem poll_follows (h : Holds s slot) (locked : Bool) : Follows slot (poll s locked) := by
  unfold poll
  split_ifs
  · cases h with
    | stored ho hj hr hi =>
      rw [hr]
      exact ⟨.free, (Moves.collect _ _).path, .free rfl hj rfl hi⟩
    | free ho hj hr hi =>
      rw [hr]
      exact (Holds.free ho hj hr hi).same rfl
    | empty ho hj hr hi =>
      rw [hr]
      exact (Holds.empty ho hj hr hi).same rfl
    | queued ho hj hr hw =>
      rw [hr]
      exact (Holds.queued ho hj hr hw).same rfl
    | running ho hj hr hw =>
      rw [hr]
      exact (Holds.running ho hj hr hw).same rfl
    | finished ho hj hr hw =>
      rw [hr]
      exact (Holds.finished ho hj hr hw).same rfl
  · exact h.same rfl

theorem timeout_follows (h : Holds s slot) (locked : Bool) (now seconds : Float) :
    Follows slot (timeout s locked now seconds) := by
  unfold timeout
  split_ifs
  · exact h.same rfl
  · exact h.stay rfl rfl rfl rfl rfl id

theorem step_follows (h : Holds s slot) (event : Event J) : Follows slot (step s event) := by
  cases event with
  | submit request job throws => exact submit_follows h request job throws
  | loop outcome => exact loop_follows h outcome
  | poll locked => exact poll_follows h locked
  | timeout locked now seconds => exact timeout_follows h locked now seconds
  | join => exact h.stay rfl rfl rfl rfl rfl fun _ => rfl

theorem run_follows (maximum : UInt64) (events : List (Event J)) :
    ∃ slot, Path .free (moves (history maximum events)) slot ∧
      Holds (after step (executor maximum) events) slot := by
  induction events using List.reverseRecOn with
  | nil => exact ⟨.free, .nil, .free rfl rfl rfl (.inl rfl)⟩
  | append_singleton events event ih =>
    obtain ⟨slot, hpath, hholds⟩ := ih
    obtain ⟨slot', hmore, hholds'⟩ := step_follows hholds event
    rw [history_concat, moves_append, after_concat]
    exact ⟨slot', hpath.append hmore, hholds'⟩

theorem queued_waits {job : J} (h : Holds s (.queued (some job))) {event : Event J}
    (hevent : ∀ outcome, event ≠ .loop outcome) :
    Holds (step s event).2 (.queued (some job)) := by
  cases h with
  | queued ho hj hr hw =>
    cases event with
    | submit request job' throws =>
      have hbusy : busy s = true := by simp [busy, ho]
      unfold step submit
      rw [hbusy]
      exact .queued ho hj hr hw
    | loop outcome => exact absurd rfl (hevent outcome)
    | poll locked =>
      have hsame : poll s locked = ([], s) := by
        unfold poll
        rw [hr]
        exact ite_self _
      change Holds (poll s locked).2 _
      rw [hsame]
      exact .queued ho hj hr hw
    | timeout locked now seconds =>
      change Holds (timeout s locked now seconds).2 _
      unfold timeout
      split_ifs <;> exact .queued ho hj hr hw
    | join => exact .queued ho hj hr hw

theorem queued_starts {job : J} (h : Holds s (.queued (some job))) (outcome : Option Result) :
    loop s outcome = ([.started job], { s with job := none, worker := .running job }) := by
  cases h with
  | queued ho hj hr hw =>
    unfold loop
    rw [hw, hj]

end

section

theorem accepted_moves (h : List (Effect J)) : accepted (moves h) = (accepts h).map Prod.snd := by
  unfold accepted moves accepts
  rw [filterMap_filterMap, map_filterMap]
  congr 1
  funext e
  cases e <;> rfl

theorem started_moves (h : List (Effect J)) : started (moves h) = (starts h).map some := by
  unfold started moves starts
  rw [filterMap_filterMap, map_filterMap]
  congr 1
  funext e
  cases e <;> rfl

theorem finished_moves (h : List (Effect J)) : finished (moves h) = (ends h).map some := by
  unfold finished moves ends
  rw [filterMap_filterMap, map_filterMap]
  congr 1
  funext e
  cases e <;> rfl

theorem stored_moves (h : List (Effect J)) :
    stored (moves h) = (stores h).map fun p => (some p.1, p.2) := by
  unfold stored moves stores
  rw [filterMap_filterMap, map_filterMap]
  congr 1
  funext e
  cases e <;> rfl

theorem collected_moves (h : List (Effect J)) : collected (moves h) = polls h := by
  unfold collected moves polls
  rw [filterMap_filterMap]
  congr 1
  funext e
  cases e <;> rfl

variable {h : List (Effect J)} {slot : Slot (Option J) Result}

theorem filterMap_some {α : Type} (xs : List α) : (xs.map some).filterMap id = xs := by
  rw [filterMap_map]
  exact List.filterMap_some

variable (hpath : Path .free (moves h) slot)

include hpath

theorem jobs_eq : jobs h = starts h ++ slot.waiting.filterMap id := by
  have hcustody := (path_custody hpath).accepted
  rw [accepted_moves, started_moves] at hcustody
  unfold jobs
  calc (accepts h).filterMap Prod.snd
      = ((accepts h).map Prod.snd).filterMap id := by rw [filterMap_map]; rfl
    _ = starts h ++ slot.waiting.filterMap id := by
        rw [hcustody, filterMap_append, filterMap_some]

theorem ends_started : ends h <+: starts h := by
  have hcustody := (path_custody hpath).started
  rw [started_moves, finished_moves] at hcustody
  have hunmapped : starts h = ends h ++ slot.current.filterMap id := by
    have hjobs := congrArg (List.filterMap id) hcustody
    rw [filterMap_append, filterMap_some, filterMap_some] at hjobs
    exact hjobs
  exact ⟨_, hunmapped.symm⟩

theorem stores_ended : (stores h).map Prod.fst <+: ends h := by
  have hcustody := (path_custody hpath).finished
  rw [finished_moves, stored_moves, map_map] at hcustody
  have hjobs := congrArg (List.filterMap id) hcustody
  rw [filterMap_append, filterMap_some] at hjobs
  have hstored : ((stores h).map (Prod.fst ∘ fun p => (some p.1, p.2))).filterMap id =
      (stores h).map Prod.fst := by
    rw [← filterMap_some ((stores h).map Prod.fst), map_map]
    rfl
  rw [hstored] at hjobs
  exact ⟨_, hjobs.symm⟩

theorem polls_stored : polls h <+: (stores h).map Prod.snd := by
  have hcustody := (path_custody hpath).stored
  rw [stored_moves, collected_moves, map_map] at hcustody
  exact ⟨_, hcustody.symm⟩

theorem accepts_polled : (accepts h).length ≤ (polls h).length + 1 := by
  have hcustody := (path_custody hpath).unpolled
  rw [accepted_moves, collected_moves, length_map] at hcustody
  split_ifs at hcustody <;> omega

end

end Parp.DailyExecutor
