import Parp.RetrySchedulerRuns

set_option autoImplicit false

namespace Parp.RetryScheduler

open TransitionRuns

structure Blank (s : Scheduler) : Prop where
  targets : ∀ n, (s.targets n).readInFlight = false ∧ (s.targets n).generation = 0 ∧
    (s.targets n).latest.known = false ∧ (s.targets n).consecutiveAbsent = 0
  decisions : ∀ slot n, s.decisions slot n = {}

theorem Blank.setTarget {s : Scheduler} (h : Blank s) (n : ℕ) {t : TargetState}
    (ht : t.readInFlight = false ∧ t.generation = 0 ∧ t.latest.known = false ∧
      t.consecutiveAbsent = 0) : Blank (s.setTarget n t) := by
  refine ⟨?_, h.decisions⟩
  intro m
  by_cases hm : m = n
  · rw [hm, setTarget_targets_self]
    exact ht
  · rw [(setTarget_local s n t).targets m hm]
    exact h.targets m

theorem blank_bind {s : Scheduler} (h : Blank s) (n : ℕ) (uid pid start : UInt64) :
    Blank (bindPlannedIdentity s n uid pid start) := by
  unfold bindPlannedIdentity
  split_ifs
  · exact ⟨h.targets, h.decisions⟩
  · exact h.setTarget n (h.targets n)

theorem blank_initialTarget {s : Scheduler} (h : Blank s) (plan : Plan) (commands : ℕ → Initial)
    (n : ℕ) : Blank (initialTarget plan commands s n) := by
  have hsubmitted : Blank (initialSubmission s (commands n).execGateAt) := by
    unfold initialSubmission
    split_ifs <;> exact ⟨h.targets, h.decisions⟩
  unfold initialTarget
  split_ifs
  · exact h
  · exact ⟨h.targets, h.decisions⟩
  · have hset := hsubmitted.setTarget n (t := { (initialSubmission s
      (commands n).execGateAt).targets n with refusal := (commands n).refusal })
      (hsubmitted.targets n)
    exact ⟨hset.targets, hset.decisions⟩
  · exact hsubmitted.setTarget n (hsubmitted.targets n)

theorem foldl_keeps {α β : Type} {P : β → Prop} {f : β → α → β} (hstep : ∀ b a, P b → P (f b a))
    {b : β} (hb : P b) (l : List α) : P (l.foldl f b) := by
  induction l generalizing b with
  | nil => exact hb
  | cons a l ih => exact ih (hstep b a hb)

theorem blank_initial (plan : Plan) (commands : ℕ → Initial) :
    Blank (initialController plan commands).scheduler := by
  apply foldl_keeps (P := Blank) fun s n h => blank_initialTarget h plan commands n
  apply foldl_keeps (P := Blank)
  · intro s n h
    cases plan.targets[n]? with
    | none => exact h
    | some target => exact blank_bind h n _ _ _
  · exact ⟨fun _ => ⟨rfl, rfl, rfl, rfl⟩, fun _ _ => rfl⟩

theorem sound_initial (plan : Plan) (commands : ℕ → Initial) :
    Sound plan (initialController plan commands).scheduler.origin []
      (initialController plan commands) := by
  have hblank := blank_initial plan commands
  refine ⟨⟨rfl, ?_⟩, ⟨List.nodup_nil, nofun, List.nodup_nil, nofun⟩, fun _ _ => rfl, ?_⟩
  · intro n
    obtain ⟨hread, hgeneration, hlatest, habsent⟩ := hblank.targets n
    refine ⟨by simp [hread], hgeneration, List.nodup_nil, nofun, ?_, ?_, ?_, ?_⟩
    · intro slot
      rw [hblank.decisions]
      simp [slotsOf]
    · intro _ hknown
      rw [hlatest] at hknown
      cases hknown
    · rw [habsent]
      exact Nat.zero_le _
    · intro slot hresolved
      rw [hblank.decisions] at hresolved
      cases hresolved
  · intro before slot n later hsplit
    simp at hsplit

section

variable {plan : Plan} {n : ℕ}

def KeepsOpen (n : ℕ) (s s' : Scheduler) : Prop :=
  ∀ slot, (s.decisions slot n).decision = .eligible → (s'.decisions slot n).decision = .eligible

theorem KeepsOpen.of_eq {s s' : Scheduler} (h : s'.decisions = s.decisions) : KeepsOpen n s s' := by
  intro slot hopen
  rw [h]
  exact hopen

theorem KeepsOpen.of_local {m : ℕ} {s s' : Scheduler} (h : Local m s s') (hne : n ≠ m) :
    KeepsOpen n s s' := by
  intro slot hopen
  rw [h.decisions slot n hne]
  exact hopen

theorem setDecision_keepsOpen {s : Scheduler} {slot : ℕ} {d : SlotDecision}
    (h : (s.decisions slot n).decision = .eligible → d.decision = .eligible) :
    KeepsOpen n s (s.setDecision slot n d) := by
  intro other hopen
  rw [congrFun (setDecision_column s slot n d) other]
  by_cases heq : other = slot
  · rw [heq, Function.update_self]
    exact h (heq ▸ hopen)
  · rw [Function.update_of_ne heq]
    exact hopen

theorem consider_keepsOpen (s : Scheduler) (slot m : ℕ) (now : Float) :
    KeepsOpen n s (consider s slot m now).2 := by
  by_cases hm : n = m
  · subst hm
    rcases consider_cases s slot n now with h | ⟨record, h, -, -, -, hkeep⟩
    · rw [h]
      exact fun _ => id
    · rw [h]
      exact setDecision_keepsOpen hkeep
  · exact .of_local (consider_local s slot m now) hm

theorem beginLaunch_keepsOpen (s : Scheduler) (slot m : ℕ) (now : Float) :
    KeepsOpen n s (beginLaunch s slot m now).2 := by
  have hconsider := consider_keepsOpen (n := n) s slot m now
  unfold beginLaunch
  dsimp only
  split_ifs
  · exact fun _ => id
  · exact hconsider
  · exact hconsider

theorem actualSubmission_keepsOpen (s : Scheduler) (slot m : ℕ) (capturedGeneration : UInt64)
    (gateAt : Float) :
    KeepsOpen n s (actualSubmission s slot m capturedGeneration gateAt true).2 := by
  rcases actualSubmission_cases s slot m capturedGeneration gateAt with
    h | ⟨record, t, h, -, -, -, hrecord, -⟩
  · rw [h]
    exact fun _ => id
  · rw [h]
    by_cases hm : n = m
    · subst hm
      have hset : KeepsOpen n s (s.setDecision slot n record) :=
        setDecision_keepsOpen fun _ => by rw [hrecord]
      exact hset
    · exact .of_local ((setDecision_local s slot m record).trans (setTarget_local _ m t)) hm

theorem step_keepsOpen (hrole : monitorOnlyRole plan n = false) (c : Controller) (input : Input) :
    KeepsOpen n c.scheduler (controllerStep plan c input).2.scheduler := by
  cases input with
  | readReady index read unreaped now =>
    change KeepsOpen n c.scheduler (readReady c index read unreaped now).2.scheduler
    unfold readReady
    cases c.readJobs[index]? with
    | none => exact fun _ => id
    | some job =>
      exact .of_eq (acceptRead_target (c.scheduler.invalidateIf unreaped) job.target
        { read with generation := job.generation } now).2.2
  | launchReady index result now =>
    change KeepsOpen n c.scheduler (launchReady c index result now).2.scheduler
    unfold launchReady
    cases c.launchJobs[index]? with
    | none => exact fun _ => id
    | some job =>
      dsimp only
      have hkeep : KeepsOpen n c.scheduler (if result.ran = true then
          actualSubmission c.scheduler job.slot job.target job.generation result.execGateAt true
        else (false, c.scheduler)).2 := by
        split_ifs
        · exact actualSubmission_keepsOpen _ _ _ _ _
        · exact fun _ => id
      generalize (if result.ran = true then
          actualSubmission c.scheduler job.slot job.target job.generation result.execGateAt true
        else (false, c.scheduler)) = outcome at hkeep ⊢
      cases houtcome : outcome.1 with
      | false => exact hkeep
      | true => exact hkeep
  | visit slot m now healthy =>
    change KeepsOpen n c.scheduler (visit plan c slot m now healthy).2.scheduler
    unfold visit
    by_cases hout : slot < 1 ∨ 10 < slot ∨ plan.targets.length ≤ m
    · rw [if_pos hout]
      exact fun _ => id
    rw [if_neg hout]
    by_cases hmonitor : monitorOnlyRole plan m = true
    · rw [if_pos hmonitor]
      refine .of_local (monitorOnly_local ..) ?_
      rintro rfl
      rw [hrole] at hmonitor
      cases hmonitor
    rw [if_neg hmonitor]
    have hconsider := consider_keepsOpen (n := n) c.scheduler slot m now
    dsimp only
    generalize (consider c.scheduler slot m now).2 = s at hconsider ⊢
    by_cases hfull : 8 ≤ c.launchJobs.length
    · rw [if_pos hfull]
      exact hconsider
    rw [if_neg hfull]
    have hbegin := beginLaunch_keepsOpen (n := n) s slot m now
    cases hlaunch : beginLaunch s slot m now with
    | mk begun s' =>
      rw [hlaunch] at hbegin
      have hboth : KeepsOpen n c.scheduler s' := fun other h => hbegin other (hconsider other h)
      cases begun with
      | false => exact hboth
      | true =>
        dsimp only
        split_ifs <;> exact hboth
  | dispatch now healthy =>
    change KeepsOpen n c.scheduler (dispatch plan c now healthy).scheduler
    unfold dispatch
    by_cases hfull : 4 ≤ c.readJobs.length
    · rw [if_pos hfull]
      exact fun _ => id
    rw [if_neg hfull]
    rcases nextReadTarget_cases c.scheduler now plan.targets.length c.readJobs.length
      c.readCursor with ⟨next, hnone⟩ | ⟨m, next, hsome, -, -⟩
    · rw [hnone]
      exact fun _ => id
    · rw [hsome]
      dsimp only
      split_ifs <;> exact .of_eq rfl
  | invalidate => exact fun _ => id

end

section

variable (plan : Plan) (commands : ℕ → Initial) (inputs : List Input)

def controllerAfter : Controller :=
  after (controllerStep plan) (initialController plan commands) inputs

def recordOf : List Event := outputs (controllerStep plan) (initialController plan commands) inputs

def originOf : Float := (initialController plan commands).scheduler.origin

theorem sound_after :
    Sound plan (originOf plan commands) (recordOf plan commands inputs)
      (controllerAfter plan commands inputs) := by
  induction inputs using List.reverseRecOn with
  | nil => exact sound_initial plan commands
  | append_singleton inputs input ih =>
    unfold recordOf controllerAfter
    rw [outputs_concat, after_concat]
    exact sound_step ih input

def slotRecord (slot n : ℕ) : SlotDecision :=
  (controllerAfter plan commands inputs).scheduler.decisions slot n

structure Authorizes : Prop where
  exclusive : ∀ n, ¬(((controllerAfter plan commands inputs).scheduler.targets n).readInFlight ∧
    ((controllerAfter plan commands inputs).scheduler.targets n).launchInFlight)
  apart : ∀ read ∈ (controllerAfter plan commands inputs).readJobs,
    ∀ launch ∈ (controllerAfter plan commands inputs).launchJobs, read.target ≠ launch.target
  generation : ∀ n, ((controllerAfter plan commands inputs).scheduler.targets n).generation.toNat =
    (slotsOf n (recordOf plan commands inputs)).length
  once : ∀ n, (slotsOf n (recordOf plan commands inputs)).Nodup
  justified : Justified (originOf plan commands) (recordOf plan commands inputs)
  staysOpen : ∀ earlier later slot n, inputs = earlier ++ later → monitorOnlyRole plan n = false →
    (slotRecord plan commands earlier slot n).decision = .eligible →
      (slotRecord plan commands inputs slot n).decision = .eligible
  covered : covered (controllerAfter plan commands inputs).scheduler plan.targets.length = true ↔
    (controllerAfter plan commands inputs).scheduler.invalid = false ∧
      1 ≤ plan.targets.length ∧ plan.targets.length ≤ 16 ∧
        ∀ slot n, 1 ≤ slot → slot ≤ 10 → n < plan.targets.length →
          (slotRecord plan commands inputs slot n).resolved = true ∧
            ((slotRecord plan commands inputs slot n).decision = .eligible →
              (slotRecord plan commands inputs slot n).submitted = true)
  observed : ∀ slot n, (slotRecord plan commands inputs slot n).resolved = true →
    Observed (originOf plan commands) slot (slotRecord plan commands inputs slot n)

theorem covered_iff (s : Scheduler) (targetCount : ℕ) :
    covered s targetCount = true ↔ s.invalid = false ∧ 1 ≤ targetCount ∧ targetCount ≤ 16 ∧
      ∀ slot n, 1 ≤ slot → slot ≤ 10 → n < targetCount → (s.decisions slot n).resolved = true ∧
        ((s.decisions slot n).decision = .eligible → (s.decisions slot n).submitted = true) := by
  unfold covered
  simp only [Bool.and_eq_true, Bool.not_eq_true', Bool.or_eq_false_iff, decide_eq_false_iff_not,
    List.all_eq_true, List.mem_range, Bool.and_eq_false_iff, Bool.not_eq_false']
  constructor
  · rintro ⟨⟨hvalid, hsome, hfew⟩, hall⟩
    refine ⟨hvalid, by omega, by omega, ?_⟩
    intro slot n hlow hhigh hn
    have hslot : slot - 1 + 1 = slot := by omega
    have hrecord := hall (slot - 1) (by omega) n hn
    rw [hslot] at hrecord
    exact ⟨hrecord.1, fun heligible => hrecord.2.resolve_left (not_not.2 heligible)⟩
  · rintro ⟨hvalid, hsome, hfew, hall⟩
    refine ⟨⟨hvalid, by omega, by omega⟩, ?_⟩
    intro slot hslot n hn
    have hrecord := hall (slot + 1) n (by omega) (by omega) hn
    exact ⟨hrecord.1, (Decidable.em _).symm.imp_right hrecord.2⟩

theorem relaunch_authorized : Authorizes plan commands inputs := by
  have hsound := sound_after plan commands inputs
  refine ⟨?_, ?_, ?_, ?_, hsound.justified, ?_, covered_iff _ _, ?_⟩
  · exact fun n => (hsound.knows.targets n).exclusive
  · intro read hread launch hlaunch hsame
    have hreading := (hsound.jobs.reading read hread).1
    rw [hsame] at hreading
    exact (hsound.knows.targets launch.target).exclusive
      ⟨hreading, (hsound.jobs.launching launch hlaunch).flag⟩
  · exact fun n => (hsound.knows.targets n).generation_toNat
  · exact fun n => (hsound.knows.targets n).once
  · rintro earlier later slot n rfl hrole hopen
    unfold slotRecord controllerAfter at hopen ⊢
    rw [after_append]
    exact after_invariant (I := fun c => (c.scheduler.decisions slot n).decision = .eligible)
      (fun c input h => step_keepsOpen hrole c input slot h) hopen later
  · exact fun slot n => (hsound.knows.targets n).observed slot

end

end Parp.RetryScheduler
