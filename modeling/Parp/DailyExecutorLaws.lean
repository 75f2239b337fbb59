import Parp.DailyExecutor

set_option autoImplicit false

namespace Parp.DailyExecutor

open Memshift Daily TransitionRuns Handoff List

variable {J : Type} {s : Executor J}

theorem history_append (maximum : UInt64) (events later : List (Event J)) :
    history maximum (events ++ later) = history maximum events ++
      (outputs step (after step (executor maximum) events) later).flatten := by
  unfold history
  rw [outputs_append, flatten_append]

@[simp] theorem accepts_append (left right : List (Effect J)) :
    accepts (left ++ right) = accepts left ++ accepts right := filterMap_append

@[simp] theorem starts_append (left right : List (Effect J)) :
    starts (left ++ right) = starts left ++ starts right := filterMap_append

theorem other_starts {event : Event J} (hevent : ∀ outcome, event ≠ .loop outcome) :
    starts (step s event).1 = [] := by
  cases event with
  | submit request job throws =>
    change starts (submit s request job throws).1 = []
    unfold submit
    split_ifs <;> rfl
  | loop outcome => exact absurd rfl (hevent outcome)
  | poll locked =>
    change starts (poll s locked).1 = []
    unfold poll
    split_ifs
    · cases s.result <;> rfl
    · rfl
  | timeout locked now seconds =>
    change starts (timeout s locked now seconds).1 = []
    unfold timeout
    split_ifs <;> rfl
  | join => rfl

theorem queued_next {job : J} (h : Holds s (.queued (some job))) {later : List (Event J)}
    (hloop : ∃ outcome, .loop outcome ∈ later) :
    [job] <+: starts (outputs step s later).flatten := by
  induction later generalizing s with
  | nil =>
    obtain ⟨_, hmem⟩ := hloop
    cases hmem
  | cons event later ih =>
    unfold outputs
    rw [flatten_cons, starts_append]
    by_cases hevent : ∃ outcome, event = .loop outcome
    · obtain ⟨outcome, rfl⟩ := hevent
      have hstart : starts (step s (.loop outcome)).1 = [job] := by
        change starts (loop s outcome).1 = _
        rw [queued_starts h]
        rfl
      rw [hstart]
      exact prefix_append _ _
    · have hother : ∀ outcome, event ≠ .loop outcome := fun outcome h => hevent ⟨outcome, h⟩
      rw [other_starts hother, nil_append]
      refine ih (queued_waits h hother) ?_
      obtain ⟨outcome, hmem⟩ := hloop
      exact ⟨outcome, (mem_cons.1 hmem).resolve_left fun h => hother outcome h.symm⟩

theorem jobs_started (maximum : UInt64) (events later : List (Event J))
    (hloop : ∃ outcome, .loop outcome ∈ later) :
    jobs (history maximum events) <+: starts (history maximum (events ++ later)) := by
  obtain ⟨slot, hpath, hholds⟩ := run_follows maximum events
  rw [history_append, starts_append, jobs_eq hpath, prefix_append_right_inj]
  cases slot with
  | queued job =>
    cases job with
    | none => exact nil_prefix
    | some job => exact queued_next hholds hloop
  | free | running | finished | stored => exact nil_prefix

theorem step_accepts (s : Executor J) (event : Event J) :
    (accepts (step s event).1 = [] ∧ (step s event).2.lastSequence = s.lastSequence ∧
      (step s event).2.submissions = s.submissions ∧
      (step s event).2.maxSubmissions = s.maxSubmissions) ∨
    ∃ request job, (step s event).1 = [.reserve request, .accepted request job] ∧
      busy s = false ∧ s.lastSequence < request.sequence ∧
      (step s event).2.lastSequence = request.sequence ∧
      (step s event).2.submissions = s.submissions + 1 ∧
      (step s event).2.maxSubmissions = s.maxSubmissions := by
  cases event with
  | submit request job throws =>
    simp only [step]
    unfold submit
    split_ifs with hrefused hthrows
    · exact .inl ⟨rfl, rfl, rfl, rfl⟩
    · exact .inl ⟨rfl, rfl, rfl, rfl⟩
    · simp only [Bool.or_eq_true, not_or, Bool.not_eq_true, decide_eq_false_iff_not] at hrefused
      exact .inr ⟨request, job, rfl, hrefused.1.1, UInt64.not_le.1 hrefused.1.2, rfl, rfl, rfl⟩
  | loop outcome =>
    refine .inl ?_
    change accepts (loop s outcome).1 = [] ∧ (loop s outcome).2.lastSequence = _ ∧
      (loop s outcome).2.submissions = _ ∧ (loop s outcome).2.maxSubmissions = _
    unfold loop
    cases s.worker with
    | waiting =>
      cases s.job with
      | some job => exact ⟨rfl, rfl, rfl, rfl⟩
      | none =>
        dsimp only
        split_ifs <;> exact ⟨rfl, rfl, rfl, rfl⟩
    | running | finished | returned => exact ⟨rfl, rfl, rfl, rfl⟩
  | poll locked =>
    simp only [step]
    unfold poll
    split_ifs
    · cases s.result <;> exact .inl ⟨rfl, rfl, rfl, rfl⟩
    · exact .inl ⟨rfl, rfl, rfl, rfl⟩
  | timeout locked now seconds =>
    simp only [step]
    unfold timeout
    split_ifs <;> exact .inl ⟨rfl, rfl, rfl, rfl⟩
  | join => exact .inl ⟨rfl, rfl, rfl, rfl⟩

structure Numbered (maximum : UInt64) (s : Executor J) (h : List (Effect J)) : Prop where
  increasing : (accepts h).Pairwise fun a b => a.1.sequence < b.1.sequence
  last : ∀ a ∈ accepts h, a.1.sequence ≤ s.lastSequence
  length : (accepts h).length ≤ s.lastSequence.toNat
  submissions : s.submissions.toNat = (accepts h).length
  limit : s.maxSubmissions = maximum
  bound : maximum ≠ 0 → (accepts h).length ≤ maximum.toNat

theorem step_numbered {maximum : UInt64} {h : List (Effect J)} (hnumbered : Numbered maximum s h)
    (event : Event J) : Numbered maximum (step s event).2 (h ++ (step s event).1) := by
  rcases step_accepts s event with ⟨hnone, hlast, hsubmissions, hmaximum⟩ |
    ⟨request, job, heffects, hbusy, hsequence, hlast, hsubmissions, hmaximum⟩
  · have hsame : accepts (h ++ (step s event).1) = accepts h := by
      rw [accepts_append, hnone, append_nil]
    exact ⟨hsame ▸ hnumbered.increasing, by rw [hsame, hlast]; exact hnumbered.last,
      by rw [hsame, hlast]; exact hnumbered.length,
      by rw [hsame, hsubmissions]; exact hnumbered.submissions,
      hmaximum.trans hnumbered.limit, by rw [hsame]; exact hnumbered.bound⟩
  · have hmore : accepts (h ++ (step s event).1) = accepts h ++ [(request, job)] := by
      rw [accepts_append, heffects]
      rfl
    have hlength : (accepts h ++ [(request, job)]).length = (accepts h).length + 1 :=
      length_append
    have hbelow := UInt64.lt_iff_toNat_lt.1 hsequence
    have hlength_le := hnumbered.length
    have hcount := hnumbered.submissions
    constructor
    · rw [hmore, pairwise_append]
      refine ⟨hnumbered.increasing, pairwise_singleton _ _, fun a ha b hb => ?_⟩
      rw [mem_singleton.1 hb]
      exact UInt64.lt_of_le_of_lt (hnumbered.last a ha) hsequence
    · intro a ha
      rw [hmore, mem_append, mem_singleton] at ha
      rw [hlast]
      rcases ha with ha | rfl
      · exact UInt64.le_of_lt (UInt64.lt_of_le_of_lt (hnumbered.last a ha) hsequence)
      · exact UInt64.le_refl _
    · rw [hmore, hlast, hlength]
      omega
    · -- the count stays below the last sequence number, so it does not wrap
      have hbound := request.sequence.toNat_lt
      have hone : (1 : UInt64).toNat = 1 := rfl
      rw [hmore, hsubmissions, hlength, UInt64.toNat_add, hcount, hone]
      exact Nat.mod_eq_of_lt (by omega)
    · exact hmaximum.trans hnumbered.limit
    · intro hpositive
      have hroom : s.submissions < s.maxSubmissions := by
        simp only [busy, Bool.or_eq_false_iff, Bool.and_eq_false_iff, decide_eq_false_iff_not,
          hnumbered.limit] at hbusy
        rw [hnumbered.limit]
        exact UInt64.not_le.1 (hbusy.2.resolve_left (by simpa using hpositive))
      have hnat := UInt64.lt_iff_toNat_lt.1 hroom
      rw [hnumbered.limit, hcount] at hnat
      rw [hmore, hlength]
      exact hnat

theorem run_numbered (maximum : UInt64) (events : List (Event J)) :
    Numbered maximum (after step (executor maximum) events) (history maximum events) := by
  induction events using List.reverseRecOn with
  | nil => exact ⟨.nil, nofun, Nat.zero_le _, rfl, rfl, fun _ => Nat.zero_le _⟩
  | append_singleton events event ih =>
    rw [history_concat, after_concat]
    exact step_numbered ih event

def Over (s : Executor J) : Prop := s.halted = true ∨ s.stop = true

theorem step_over (h : Over s) (event : Event J) :
    accepts (step s event).1 = [] ∧ Over (step s event).2 := by
  have hbusy : busy s = true := by
    rcases h with h | h <;> simp [busy, h]
  cases event with
  | submit request job throws =>
    simp only [step]
    unfold submit
    rw [hbusy]
    exact ⟨rfl, h⟩
  | loop outcome =>
    change accepts (loop s outcome).1 = [] ∧ Over (loop s outcome).2
    unfold loop
    cases s.worker with
    | waiting =>
      cases s.job with
      | some job => exact ⟨rfl, h⟩
      | none =>
        dsimp only
        split_ifs <;> exact ⟨rfl, h⟩
    | finished job completed => exact ⟨rfl, h.imp_left fun h => by simp [h]⟩
    | running | returned => exact ⟨rfl, h⟩
  | poll locked =>
    simp only [step]
    unfold poll
    split_ifs
    · cases s.result <;> exact ⟨rfl, h⟩
    · exact ⟨rfl, h⟩
  | timeout locked now seconds =>
    simp only [step]
    unfold timeout
    split_ifs
    · exact ⟨rfl, h⟩
    · exact ⟨rfl, .inl rfl⟩
  | join => exact ⟨rfl, .inr rfl⟩

theorem step_halting {event : Event J} {e : Effect J} (hmem : e ∈ (step s event).1)
    (hhalting : Halting e) : Over (step s event).2 := by
  cases event with
  | submit request job throws =>
    simp only [step] at *
    unfold submit at *
    split_ifs at * with hrefused hthrows
    · rw [mem_singleton.1 hmem] at hhalting
      cases hhalting
    · exact .inl rfl
    · rcases mem_pair.1 hmem with rfl | rfl <;> cases hhalting
  | loop outcome =>
    change e ∈ (loop s outcome).1 at hmem
    change Over (loop s outcome).2
    unfold loop at *
    cases hworker : s.worker with
    | waiting =>
      rw [hworker] at hmem
      cases hjob : s.job with
      | some job =>
        rw [hjob] at hmem
        rw [mem_singleton.1 hmem] at hhalting
        cases hhalting
      | none =>
        rw [hjob] at hmem
        cases hmem
    | running job =>
      rw [hworker] at hmem
      rw [mem_singleton.1 hmem] at hhalting
      cases hhalting
    | finished job completed =>
      rw [hworker] at hmem
      rw [mem_singleton.1 hmem] at hhalting
      refine .inl ?_
      rw [Bool.or_eq_true]
      exact .inr hhalting
    | returned =>
      rw [hworker] at hmem
      cases hmem
  | poll locked =>
    simp only [step] at hmem
    unfold poll at hmem
    split_ifs at hmem
    · cases hresult : s.result with
      | none =>
        rw [hresult] at hmem
        cases hmem
      | some result =>
        rw [hresult] at hmem
        rw [mem_singleton.1 hmem] at hhalting
        cases hhalting
    · cases hmem
  | timeout locked now seconds =>
    simp only [step] at *
    unfold timeout at *
    split_ifs at *
    · cases hmem
    · exact .inl rfl
  | join => exact .inr rfl

theorem run_over (h : Over s) (later : List (Event J)) :
    accepts (outputs step s later).flatten = [] := by
  induction later generalizing s with
  | nil => rfl
  | cons event later ih =>
    obtain ⟨hnone, hover⟩ := step_over h event
    unfold outputs
    rw [flatten_cons, accepts_append, hnone, ih hover]
    rfl

theorem run_halting (maximum : UInt64) (events : List (Event J)) {e : Effect J}
    (hmem : e ∈ history maximum events) (hhalting : Halting e) :
    Over (after step (executor maximum) events) := by
  induction events using List.reverseRecOn with
  | nil => cases hmem
  | append_singleton events event ih =>
    rw [history_concat, mem_append] at hmem
    rw [after_concat]
    rcases hmem with hmem | hmem
    · exact (step_over (ih hmem) event).2
    · exact step_halting hmem hhalting

theorem outputs_reserved (s : Executor J) (events : List (Event J)) :
    ∀ effects ∈ outputs step s events, ∀ request job, .accepted request job ∈ effects →
      effects = [.reserve request, .accepted request job] := by
  induction events generalizing s with
  | nil => exact nofun
  | cons event events ih =>
    intro effects heffects request job hmem
    rcases mem_cons.1 heffects with rfl | hlater
    · have hin : (request, job) ∈ accepts (step s event).1 :=
        mem_filterMap.2 ⟨_, hmem, rfl⟩
      rcases step_accepts s event with ⟨hnone, -⟩ | ⟨request', job', heffects, -⟩
      · rw [hnone] at hin
        cases hin
      · rw [heffects] at hin ⊢
        cases mem_singleton.1 hin
        rfl
    · exact ih _ effects hlater request job hmem

/-- The protocol of the executor, in every interleaving of its threads. -/
theorem executor_protocol (maximum : UInt64) (events : List (Event J)) :
    starts (history maximum events) <+: jobs (history maximum events) ∧
    (∀ later, (∃ outcome, .loop outcome ∈ later) →
      jobs (history maximum events) <+: starts (history maximum (events ++ later))) ∧
    ends (history maximum events) <+: starts (history maximum events) ∧
    (stores (history maximum events)).map Prod.fst <+: ends (history maximum events) ∧
    polls (history maximum events) <+: (stores (history maximum events)).map Prod.snd ∧
    (accepts (history maximum events)).length ≤ (polls (history maximum events)).length + 1 ∧
    ((accepts (history maximum events)).Pairwise fun a b => a.1.sequence < b.1.sequence) ∧
    (maximum ≠ 0 → (accepts (history maximum events)).length ≤ maximum.toNat) ∧
    (∀ effects ∈ outputs step (executor maximum) events, ∀ request job,
      .accepted request job ∈ effects → effects = [.reserve request, .accepted request job]) ∧
    ∀ e ∈ history maximum events, Halting e → ∀ later,
      accepts (history maximum (events ++ later)) = accepts (history maximum events) := by
  obtain ⟨slot, hpath, -⟩ := run_follows maximum events
  have hnumbered := run_numbered maximum events
  refine ⟨⟨_, (jobs_eq hpath).symm⟩, jobs_started maximum events, ends_started hpath,
    stores_ended hpath, polls_stored hpath, accepts_polled hpath, hnumbered.increasing,
    hnumbered.bound, outputs_reserved _ events, fun e hmem hhalting later => ?_⟩
  rw [history_append, accepts_append, run_over (run_halting maximum events hmem hhalting)]
  exact append_nil _

/-- A submission that is started, and none after the join. -/
theorem submission_started :
    let request : Request := { sequence := 1, actionId := text "boost" }
    let events : List (Event ℕ) := [.submit request (some 7) false, .join]
    jobs (history 2 events) <+: starts (history 2 (events ++ [.loop none])) ∧
      (accepts (history 2 events)).length ≤ 2 ∧
      accepts (history 2 (events ++ [.submit { request with sequence := 2 } (some 8) false])) =
        accepts (history 2 events) :=
  have h := executor_protocol 2
    [.submit { sequence := 1, actionId := text "boost" } (some 7) false, .join]
  ⟨h.2.1 _ ⟨none, .head _⟩, h.2.2.2.2.2.2.2.1 (by decide),
    h.2.2.2.2.2.2.2.2.2 .joined (.tail _ (.tail _ (.head _))) trivial _⟩

end Parp.DailyExecutor
