import Mathlib.Data.List.Induction
import Parp.RetrySchedulerSteps

set_option autoImplicit false

namespace Parp.RetryScheduler

open List

variable {plan : Plan} {origin : Float} {trace : List Event} {e : Event} {c c' : Controller}
variable {s s' : Scheduler}

def Begun (origin : Float) (trace : List Event) (slot n : ℕ) : Prop :=
  ∃ earlier now later, trace = earlier ++ .begun slot n now :: later ∧
    (∃ read rest, FreshProof origin slot n now earlier read rest) ∧
    ∀ other, .submitted other n ∉ later

theorem Begun.concat {slot n : ℕ} (h : Begun origin trace slot n)
    (hother : ∀ other, e ≠ .submitted other n) : Begun origin (trace ++ [e]) slot n := by
  obtain ⟨earlier, now, later, rfl, hproof, hlater⟩ := h
  refine ⟨earlier, now, later ++ [e], by simp, hproof, ?_⟩
  intro other hmem
  rcases mem_append.1 hmem with hmem | hmem
  · exact hlater other hmem
  · exact hother other (mem_singleton.1 hmem).symm

theorem begun_last {slot n : ℕ} {now : Float}
    (h : ∃ read rest, FreshProof origin slot n now trace read rest) :
    Begun origin (trace ++ [.begun slot n now]) slot n :=
  ⟨trace, now, [], rfl, h, fun _ => not_mem_nil⟩

structure Launching (plan : Plan) (origin : Float) (trace : List Event) (s : Scheduler)
    (job : LaunchJob) : Prop where
  flag : (s.targets job.target).launchInFlight = true
  role : monitorOnlyRole plan job.target = false
  begun : Begun origin trace job.slot job.target
  resolved : (s.decisions job.slot job.target).resolved = true

theorem Launching.keep {job : LaunchJob} (h : Launching plan origin trace s job)
    (hflag : (s'.targets job.target).launchInFlight = (s.targets job.target).launchInFlight)
    (hresolves : Resolves s s') (hother : ∀ other, e ≠ .submitted other job.target) :
    Launching plan origin (trace ++ [e]) s' job where
  flag := hflag.trans h.flag
  role := h.role
  begun := h.begun.concat hother
  resolved := hresolves.resolved _ _ h.resolved

def Reading (s : Scheduler) (job : ReadJob) : Prop :=
  (s.targets job.target).readInFlight = true ∧ job.generation = (s.targets job.target).generation

structure JobsOk (plan : Plan) (origin : Float) (trace : List Event) (c : Controller) : Prop where
  readOnce : (c.readJobs.map ReadJob.target).Nodup
  reading : ∀ job ∈ c.readJobs, Reading c.scheduler job
  launchOnce : (c.launchJobs.map LaunchJob.target).Nodup
  launching : ∀ job ∈ c.launchJobs, Launching plan origin trace c.scheduler job

def Justified (origin : Float) (trace : List Event) : Prop :=
  ∀ before slot n later, trace = before ++ .submitted slot n :: later → Begun origin before slot n

theorem Justified.concat (h : Justified origin trace)
    (hlast : ∀ slot n, e = .submitted slot n → Begun origin trace slot n) :
    Justified origin (trace ++ [e]) := by
  intro before slot n later hsplit
  cases later using List.reverseRecOn with
  | nil =>
    obtain ⟨rfl, hlist⟩ := append_inj' hsplit rfl
    exact hlast slot n (List.cons.inj hlist).1
  | append_singleton later last =>
    rw [← cons_append, ← append_assoc] at hsplit
    obtain ⟨htrace, -⟩ := append_inj' hsplit rfl
    exact h before slot n later htrace

structure Sound (plan : Plan) (origin : Float) (trace : List Event) (c : Controller) : Prop where
  knows : Knows origin trace c.scheduler
  jobs : JobsOk plan origin trace c
  roles : ∀ n, monitorOnlyRole plan n = true → slotsOf n trace = []
  justified : Justified origin trace

theorem Sound.quiet (h : Sound plan origin trace c) (hevent : ∀ n, slotsOf n [e] = [])
    (hknows : Knows origin (trace ++ [e]) c'.scheduler)
    (hreads : c'.readJobs.Sublist c.readJobs)
    (hreading : ∀ job ∈ c'.readJobs, Reading c.scheduler job → Reading c'.scheduler job)
    (hlaunches : c'.launchJobs.Sublist c.launchJobs)
    (hflags : ∀ job ∈ c'.launchJobs, (c'.scheduler.targets job.target).launchInFlight =
      (c.scheduler.targets job.target).launchInFlight)
    (hresolves : Resolves c.scheduler c'.scheduler) : Sound plan origin (trace ++ [e]) c' := by
  have hother : ∀ slot n, e ≠ .submitted slot n := by
    rintro slot n rfl
    simp [slotsOf] at hevent
  refine ⟨hknows, ⟨?_, ?_, ?_, ?_⟩, ?_, ?_⟩
  · exact (hreads.map _).nodup h.jobs.readOnce
  · intro job hmem
    exact hreading job hmem (h.jobs.reading job (hreads.subset hmem))
  · exact (hlaunches.map _).nodup h.jobs.launchOnce
  · intro job hmem
    exact (h.jobs.launching job (hlaunches.subset hmem)).keep (hflags job hmem) hresolves
      fun other => hother other _
  · intro n hrole
    have hnone := h.roles n hrole
    unfold slotsOf at hnone hevent ⊢
    rw [filterMap_append, hnone, hevent]
    rfl
  · exact h.justified.concat fun slot n heq => absurd heq (hother slot n)

theorem erased_ne {α : Type} {jobs : List α} {target : α → ℕ} (h : (jobs.map target).Nodup)
    {index : ℕ} {job other : α} (hindex : jobs[index]? = some job)
    (hother : other ∈ jobs.eraseIdx index) : target other ≠ target job := by
  obtain ⟨hlt, hget⟩ := List.getElem?_eq_some_iff.1 hindex
  have hperm : (jobs[index] :: jobs.eraseIdx index).Perm jobs := getElem_cons_eraseIdx_perm hlt
  have hnodup := (hperm.map target).nodup_iff.2 h
  rw [hget, map_cons, nodup_cons] at hnodup
  intro heq
  exact hnodup.1 (heq ▸ mem_map_of_mem hother)

theorem sound_readReady (h : Sound plan origin trace c) (index : ℕ) (read : CompletedRead)
    (unreaped : Bool) (now : Float) :
    Sound plan origin (trace ++ [(readReady c index read unreaped now).1])
      (readReady c index read unreaped now).2 := by
  unfold readReady
  cases hindex : c.readJobs[index]? with
  | none =>
    exact h.quiet (fun _ => rfl) (h.knows.spared fun _ => trivial) (.refl _) (fun _ _ h => h)
      (.refl _) (fun _ _ => rfl) ⟨fun _ _ h => h⟩
  | some job =>
    dsimp only
    have hreading := h.jobs.reading job (mem_of_getElem? hindex)
    have hlocal := acceptRead_local (c.scheduler.invalidateIf unreaped) job.target
      { read with generation := job.generation } now
    have htarget := acceptRead_target (c.scheduler.invalidateIf unreaped) job.target
      { read with generation := job.generation } now
    have hknows := acceptRead_knows (h.knows.invalidateIf unreaped)
      { read with generation := job.generation } now hreading.2
    refine h.quiet (fun _ => rfl) hknows (eraseIdx_sublist _ _) ?_ (.refl _) ?_ ?_
    · intro other hmem hold
      have hne := erased_ne h.jobs.readOnce hindex hmem
      unfold Reading
      rw [hlocal.targets other.target hne]
      exact hold
    · intro launch _
      by_cases hsame : launch.target = job.target
      · rw [hsame]
        exact htarget.2.1
      · exact congrArg TargetState.launchInFlight (hlocal.targets launch.target hsame)
    · refine ⟨fun slot n hresolved => ?_⟩
      rw [htarget.2.2]
      exact hresolved

theorem nextReadFrom_free {now : Float} {targetCount active count cursor n next : ℕ}
    (h : nextReadFrom s now targetCount active count cursor = (some n, next)) :
    (s.targets n).readInFlight = false ∧ (s.targets n).launchInFlight = false := by
  induction count generalizing cursor with
  | zero => cases h
  | succ count ih =>
    unfold nextReadFrom at h
    dsimp only at h
    split_ifs at h with hmay
    · obtain ⟨hn, -⟩ := Prod.mk.inj h
      rw [← Option.some.inj hn]
      unfold mayRead at hmay
      simp only [Bool.and_eq_true, Bool.not_eq_true', decide_eq_true_eq] at hmay
      exact hmay.1.1
    · exact ih h

theorem nextReadTarget_cases (s : Scheduler) (now : Float) (targetCount active cursor : ℕ) :
    (∃ next, nextReadTarget s now targetCount active cursor = (none, next, s)) ∨
      ∃ n next, nextReadTarget s now targetCount active cursor =
          (some n, next, s.setTarget n { s.targets n with readInFlight := true }) ∧
        (s.targets n).readInFlight = false ∧ (s.targets n).launchInFlight = false := by
  unfold nextReadTarget
  split_ifs
  · exact .inl ⟨cursor, rfl⟩
  · cases hfrom : nextReadFrom s now targetCount active targetCount cursor with
    | mk found next =>
      cases found with
      | none => exact .inl ⟨next, rfl⟩
      | some n => exact .inr ⟨n, next, rfl, nextReadFrom_free hfrom⟩

variable (h : Sound plan origin trace c)

include h

theorem sound_dispatch (now : Float) (healthy : Bool) :
    Sound plan origin (trace ++ [.quiet]) (dispatch plan c now healthy) := by
  have hsame : ∀ cursor, Sound plan origin (trace ++ [.quiet]) { c with readCursor := cursor } :=
    fun cursor => h.quiet (fun _ => rfl) (h.knows.spared fun _ => trivial) (.refl _)
      (fun _ _ h => h) (.refl _) (fun _ _ => rfl) ⟨fun _ _ h => h⟩
  unfold dispatch
  by_cases hfull : 4 ≤ c.readJobs.length
  · rw [if_pos hfull]
    exact hsame c.readCursor
  · rw [if_neg hfull]
    rcases nextReadTarget_cases c.scheduler now plan.targets.length c.readJobs.length c.readCursor
      with ⟨next, hnone⟩ | ⟨n, next, hsome, hread, hlaunch⟩
    · rw [hnone]
      exact hsame next
    · rw [hsome]
      dsimp only
      set t : TargetState := { c.scheduler.targets n with readInFlight := true } with ht
      have hlocal := setTarget_local c.scheduler n t
      have hknows : Knows origin (trace ++ [.quiet]) (c.scheduler.setTarget n t) := by
        apply h.knows.of_local (e := .quiet) hlocal fun _ _ => trivial
        rw [setTarget_targets_self]
        refine TargetOk.spared (e := .quiet) ((h.knows.targets n).flags ?_ rfl rfl rfl) trivial
        simp [ht, hlaunch]
      -- the jobs in flight are for other targets or keep their flags
      have hkeep : ∀ job ∈ c.readJobs, Reading (c.scheduler.setTarget n t) job := by
        intro job hmem
        have hold := h.jobs.reading job hmem
        have hne : job.target ≠ n := by
          rintro rfl
          rw [hold.1] at hread
          cases hread
        unfold Reading
        rw [hlocal.targets job.target hne]
        exact hold
      have hflags : ∀ m, ((c.scheduler.setTarget n t).targets m).launchInFlight =
          (c.scheduler.targets m).launchInFlight := by
        intro m
        by_cases hm : m = n
        · rw [hm, setTarget_targets_self]
        · rw [hlocal.targets m hm]
      split_ifs
      · exact h.quiet (fun _ => rfl) (hknows.invalidateIf true) (.refl _)
          (fun job hmem _ => hkeep job hmem) (.refl _) (fun job _ => hflags job.target)
          ⟨fun _ _ h => h⟩
      · have hquiet : Sound plan origin (trace ++ [.quiet])
            { c with scheduler := c.scheduler.setTarget n t, readCursor := next } :=
          h.quiet (fun _ => rfl) hknows (.refl _) (fun job hmem _ => hkeep job hmem) (.refl _)
            (fun job _ => hflags job.target) ⟨fun _ _ h => h⟩
        refine { hquiet with jobs := { hquiet.jobs with readOnce := ?_, reading := ?_ } }
        · rw [map_append, nodup_append]
          refine ⟨h.jobs.readOnce, nodup_singleton _, ?_⟩
          rintro m hm k hk rfl
          obtain ⟨job, hjob, rfl⟩ := mem_map.1 hm
          have hflag := (h.jobs.reading job hjob).1
          rw [map_singleton, mem_singleton] at hk
          dsimp only at hk
          rw [hk, hread] at hflag
          cases hflag
        · intro job hmem
          rcases mem_append.1 hmem with hmem | hmem
          · exact hkeep job hmem
          · rw [mem_singleton] at hmem
            subst hmem
            exact ⟨by simp [ht], rfl⟩

theorem sound_launchReady (index : ℕ) (result : LaunchResult) (now : Float) :
    Sound plan origin (trace ++ [(launchReady c index result now).1])
      (launchReady c index result now).2 := by
  unfold launchReady
  cases hindex : c.launchJobs[index]? with
  | none =>
    exact h.quiet (fun _ => rfl) (h.knows.spared fun _ => trivial) (.refl _) (fun _ _ h => h)
      (.refl _) (fun _ _ => rfl) ⟨fun _ _ h => h⟩
  | some job =>
    dsimp only
    have hjob := h.jobs.launching job (mem_of_getElem? hindex)
    have hne : ∀ other ∈ c.launchJobs.eraseIdx index, other.target ≠ job.target :=
      fun other hmem => erased_ne h.jobs.launchOnce hindex hmem
    have hidle : (c.scheduler.targets job.target).readInFlight = false := by
      rw [Bool.eq_false_iff]
      intro hread
      exact (h.knows.targets job.target).exclusive ⟨hread, hjob.flag⟩
    have hcases : (if result.ran = true then
          actualSubmission c.scheduler job.slot job.target job.generation result.execGateAt true
        else (false, c.scheduler)) = (false, c.scheduler) ∨
        ∃ record t, (if result.ran = true then
            actualSubmission c.scheduler job.slot job.target job.generation result.execGateAt true
          else (false, c.scheduler)) =
          (true, (c.scheduler.setDecision job.slot job.target record).setTarget job.target t) ∧
          (c.scheduler.decisions job.slot job.target).submitted = false ∧
          (c.scheduler.targets job.target).launchInFlight = true ∧
          deadline result.execGateAt c.scheduler.origin job.slot = true ∧
          record = { c.scheduler.decisions job.slot job.target with
            submitted := true, resolved := true, decision := .eligible } ∧
          t.readInFlight = (c.scheduler.targets job.target).readInFlight ∧
          t.launchInFlight = false ∧
          t.generation = (c.scheduler.targets job.target).generation + 1 ∧ t.latest = {} ∧
          t.consecutiveAbsent = 0 := by
      split_ifs
      · exact actualSubmission_cases ..
      · exact .inl rfl
    rcases hcases with hfailed | ⟨record, t, hdone, hnew, -, hgate, hrecord, hread, hlaunch,
      hgeneration, hlatest, habsent⟩
    · -- the launch is reset
      rw [hfailed]
      dsimp only
      rw [if_neg Bool.false_ne_true, if_neg Bool.false_ne_true]
      have hlocal := setTarget_local c.scheduler job.target
        { c.scheduler.targets job.target with
          launchInFlight := false, retryReadAfter := now + 1.0 }
      refine h.quiet (fun _ => rfl) (.invalidateIf ?_ _) (.refl _) ?_ (eraseIdx_sublist _ _)
        ?_ ⟨fun _ _ h => h⟩
      · apply h.knows.of_local (e := .quiet) hlocal fun _ _ => trivial
        rw [setTarget_targets_self]
        exact TargetOk.spared (e := .quiet)
          ((h.knows.targets job.target).flags (by simp) rfl rfl rfl) trivial
      · intro other _ hold
        have hother : other.target ≠ job.target := by
          intro heq
          unfold Reading at hold
          rw [heq, hidle] at hold
          cases hold.1
        unfold Reading
        change (((c.scheduler.setTarget job.target _).targets other.target).readInFlight = true ∧ _)
        change _ ∧ other.generation =
          ((c.scheduler.setTarget job.target _).targets other.target).generation
        rw [hlocal.targets other.target hother]
        exact hold
      · intro other hmem
        exact congrArg TargetState.launchInFlight (hlocal.targets other.target (hne other hmem))
    · -- the launch was submitted
      rw [hdone]
      dsimp only
      rw [if_pos rfl, if_pos rfl]
      set s := (c.scheduler.setDecision job.slot job.target record).setTarget job.target t with hs
      set s' := s.setTarget job.target
        { s.targets job.target with refusal := result.refusal } with hs'
      have hlocal : Local job.target c.scheduler (s'.invalidateIf result.broken) :=
        (((setDecision_local ..).trans (setTarget_local ..)).trans (setTarget_local ..)).trans
          (invalidateIf_local ..)
      have htarget : s'.targets job.target = { t with refusal := result.refusal } := by
        simp [hs', hs]
      have hcolumn : (fun slot => s'.decisions slot job.target) =
          Function.update (fun slot => c.scheduler.decisions slot job.target) job.slot record :=
        setDecision_column c.scheduler job.slot job.target record
      have hobserved : Observed origin job.slot record := by
        have hold := (h.knows.targets job.target).observed job.slot hjob.resolved
        rw [hrecord]
        exact ⟨hold.deadline, hold.fresh, hold.inside, nofun⟩
      have hresolves : Resolves c.scheduler (s'.invalidateIf result.broken) :=
        ⟨(setDecision_resolves c.scheduler job.slot job.target (by rw [hrecord])).resolved⟩
      have hspares : ∀ m, m ≠ job.target → (Event.submitted job.slot job.target).Spares m :=
        fun _ hm => Ne.symm hm
      refine ⟨?_, ⟨h.jobs.readOnce, ?_, ((eraseIdx_sublist _ _).map _).nodup
        h.jobs.launchOnce, ?_⟩, ?_, ?_⟩
      · apply h.knows.of_local hlocal hspares
        have hold : TargetOk origin (s'.invalidateIf result.broken).invalid job.target
            (trace ++ [.submitted job.slot job.target]) { t with refusal := result.refusal }
            (Function.update (fun slot => c.scheduler.decisions slot job.target) job.slot
              record) :=
          ((h.knows.targets job.target).weaken hlocal.invalid).launched hnew
            (deadline_range hgate) hobserved (by rw [hrecord])
            (by simp [hlaunch]) hgeneration (by simp [hlatest]) habsent
        rw [← hcolumn, ← htarget] at hold
        exact hold
      · intro other hmem
        have hold := h.jobs.reading other hmem
        have hother : other.target ≠ job.target := by
          intro heq
          unfold Reading at hold
          rw [heq, hidle] at hold
          cases hold.1
        unfold Reading
        dsimp only
        rw [hlocal.targets other.target hother]
        exact hold
      · intro other hmem
        have hother := hne other hmem
        have hold := h.jobs.launching other ((eraseIdx_sublist _ _).subset hmem)
        refine hold.keep (congrArg TargetState.launchInFlight (hlocal.targets _ hother)) hresolves
          ?_
        intro slot heq
        exact hother (Event.submitted.inj heq).2.symm
      · intro n hrole
        have hn : n ≠ job.target := by
          rintro rfl
          rw [hjob.role] at hrole
          cases hrole
        rw [slotsOf_spared (hspares n hn)]
        exact h.roles n hrole
      · apply h.justified.concat
        intro slot n heq
        obtain ⟨rfl, rfl⟩ := Event.submitted.inj heq
        exact hjob.begun

theorem sound_visit (slot n : ℕ) (now : Float) (healthy : Bool) :
    Sound plan origin (trace ++ [(visit plan c slot n now healthy).1])
      (visit plan c slot n now healthy).2 := by
  have hquiet : ∀ s : Scheduler, Knows origin trace s → s.targets = c.scheduler.targets →
      Resolves c.scheduler s → Sound plan origin (trace ++ [.quiet]) { c with scheduler := s } := by
    intro s hknows htargets hresolves
    refine h.quiet (fun _ => rfl) (hknows.spared fun _ => trivial) (.refl _) ?_ (.refl _) ?_
      hresolves
    · intro job _ hold
      unfold Reading
      dsimp only
      rw [htargets]
      exact hold
    · intro job _
      dsimp only
      rw [htargets]
  unfold visit
  by_cases hout : slot < 1 ∨ 10 < slot ∨ plan.targets.length ≤ n
  · rw [if_pos hout]
    exact hquiet c.scheduler h.knows rfl ⟨fun _ _ h => h⟩
  rw [if_neg hout]
  by_cases hrole : monitorOnlyRole plan n = true
  · rw [if_pos hrole]
    exact hquiet _ (monitorOnly_knows h.knows slot n now (h.roles n hrole))
      (monitorOnly_targets ..) (monitorOnly_resolves ..)
  rw [if_neg hrole]
  have hknows := consider_knows h.knows slot n now
  have htargets := consider_targets c.scheduler slot n now
  have hresolves := consider_resolves c.scheduler slot n now
  dsimp only
  generalize (consider c.scheduler slot n now).2 = s at hknows htargets hresolves ⊢
  by_cases hfull : 8 ≤ c.launchJobs.length
  · rw [if_pos hfull]
    exact hquiet s hknows htargets hresolves
  rw [if_neg hfull]
  have hknows' := beginLaunch_knows hknows slot n now
  have hlocal := beginLaunch_local s slot n now
  have hresolves' : Resolves c.scheduler (beginLaunch s slot n now).2 :=
    ⟨fun slot' m hm => (beginLaunch_resolves s slot n now).resolved slot' m
      (hresolves.resolved slot' m hm)⟩
  cases hbegin : (beginLaunch s slot n now).1 with
  | false =>
    have hsame := beginLaunch_false hbegin
    have hpair : beginLaunch s slot n now = (false, (beginLaunch s slot n now).2) :=
      Prod.ext hbegin rfl
    rw [hpair]
    exact hquiet _ hknows' (hsame.trans htargets) hresolves'
  | true =>
    have hpair : beginLaunch s slot n now = (true, (beginLaunch s slot n now).2) :=
      Prod.ext hbegin rfl
    have hbegins := beginLaunch_begins hknows hbegin
    rw [hpair]
    dsimp only
    generalize (beginLaunch s slot n now).2 = s' at hknows' hlocal hresolves' hbegins ⊢
    have hother : ∀ m, m ≠ n → s'.targets m = c.scheduler.targets m := by
      intro m hm
      rw [hlocal.targets m hm, htargets]
    have hreading : ∀ job ∈ c.readJobs, Reading s' job := by
      intro job hmem
      have hold := h.jobs.reading job hmem
      have hne : job.target ≠ n := by
        rintro rfl
        have hidle := hbegins.reading
        rw [htargets, hold.1] at hidle
        cases hidle
      unfold Reading
      rw [hother job.target hne]
      exact hold
    have hnew : ∀ job ∈ c.launchJobs, job.target ≠ n := by
      rintro job hmem rfl
      have hidle := hbegins.idle
      rw [htargets, (h.jobs.launching job hmem).flag] at hidle
      cases hidle
    have hsound : Sound plan origin (trace ++ [.begun slot n now]) { c with scheduler := s' } := by
      refine h.quiet (fun _ => rfl) (hknows'.spared fun _ => trivial) (.refl _)
        (fun job hmem _ => hreading job hmem) (.refl _) ?_ hresolves'
      intro job hmem
      exact congrArg TargetState.launchInFlight (hother job.target (hnew job hmem))
    split_ifs
    · exact { hsound with
        knows := hsound.knows.invalidateIf true
        jobs := { hsound.jobs with launching := fun job hmem =>
          have hold := hsound.jobs.launching job hmem
          ⟨hold.flag, hold.role, hold.begun, hold.resolved⟩ } }
    · refine { hsound with jobs := { hsound.jobs with launchOnce := ?_, launching := ?_ } }
      · rw [map_append, nodup_append]
        refine ⟨h.jobs.launchOnce, nodup_singleton _, ?_⟩
        rintro m hm k hk rfl
        obtain ⟨job, hjob, rfl⟩ := mem_map.1 hm
        rw [map_singleton, mem_singleton] at hk
        exact hnew job hjob hk
      · intro job hmem
        rcases mem_append.1 hmem with hmem | hmem
        · exact hsound.jobs.launching job hmem
        · rw [mem_singleton] at hmem
          subst hmem
          exact ⟨hbegins.flag, Bool.eq_false_iff.2 hrole, begun_last hbegins.proof,
            hbegins.resolved⟩

theorem sound_step (input : Input) :
    Sound plan origin (trace ++ [(controllerStep plan c input).1])
      (controllerStep plan c input).2 := by
  cases input with
  | readReady index read unreaped now => exact sound_readReady h index read unreaped now
  | launchReady index result now => exact sound_launchReady h index result now
  | visit slot n now healthy => exact sound_visit h slot n now healthy
  | dispatch now healthy => exact sound_dispatch h now healthy
  | invalidate =>
    exact h.quiet (fun _ => rfl) ((h.knows.invalidateIf true).spared fun _ => trivial) (.refl _)
      (fun _ _ h => h) (.refl _) (fun _ _ => rfl) ⟨fun _ _ h => h⟩

end Parp.RetryScheduler
