import Parp.RetryScheduler

set_option autoImplicit false

namespace Parp.RetryScheduler

variable {origin now : Float} {n slot : ℕ} {trace : List Event} {s s' s'' : Scheduler}

/-- A call touches one target and its decisions, and does not make the run valid again. -/
structure Local (n : ℕ) (s s' : Scheduler) : Prop where
  origin : s'.origin = s.origin
  targets : ∀ m, m ≠ n → s'.targets m = s.targets m
  decisions : ∀ slot m, m ≠ n → s'.decisions slot m = s.decisions slot m
  invalid : s.invalid = true → s'.invalid = true

theorem Local.refl (n : ℕ) (s : Scheduler) : Local n s s :=
  ⟨rfl, fun _ _ => rfl, fun _ _ _ => rfl, id⟩

theorem Local.trans (h : Local n s s') (h' : Local n s' s'') : Local n s s'' where
  origin := h'.origin.trans h.origin
  targets m hm := (h'.targets m hm).trans (h.targets m hm)
  decisions slot m hm := (h'.decisions slot m hm).trans (h.decisions slot m hm)
  invalid hinvalid := h'.invalid (h.invalid hinvalid)

@[simp] theorem setTarget_targets_self (s : Scheduler) (n : ℕ) (t : TargetState) :
    (s.setTarget n t).targets n = t := by
  simp [Scheduler.setTarget]

@[simp] theorem setTarget_decisions (s : Scheduler) (n : ℕ) (t : TargetState) :
    (s.setTarget n t).decisions = s.decisions := rfl

@[simp] theorem setDecision_targets (s : Scheduler) (slot n : ℕ) (d : SlotDecision) :
    (s.setDecision slot n d).targets = s.targets := rfl

theorem setDecision_column (s : Scheduler) (slot n : ℕ) (d : SlotDecision) :
    (fun other => (s.setDecision slot n d).decisions other n) =
      Function.update (fun other => s.decisions other n) slot d := by
  funext other
  by_cases heq : other = slot
  · rw [heq, Function.update_self]
    simp [Scheduler.setDecision]
  · rw [Function.update_of_ne heq]
    simp [Scheduler.setDecision, Function.update_of_ne heq]

theorem setTarget_local (s : Scheduler) (n : ℕ) (t : TargetState) : Local n s (s.setTarget n t) :=
  ⟨rfl, fun m hm => by simp [Scheduler.setTarget, Function.update_of_ne hm], fun _ _ _ => rfl, id⟩

theorem setDecision_local (s : Scheduler) (slot n : ℕ) (d : SlotDecision) :
    Local n s (s.setDecision slot n d) := by
  refine ⟨rfl, fun _ _ => rfl, ?_, id⟩
  intro other m hm
  by_cases heq : other = slot
  · simp [Scheduler.setDecision, heq, Function.update_of_ne hm]
  · simp [Scheduler.setDecision, Function.update_of_ne heq]

theorem invalidateIf_local (s : Scheduler) (b : Bool) (n : ℕ) : Local n s (s.invalidateIf b) :=
  ⟨rfl, fun _ _ => rfl, fun _ _ _ => rfl, fun h => by simp [Scheduler.invalidateIf, h]⟩

structure Knows (origin : Float) (trace : List Event) (s : Scheduler) : Prop where
  anchored : s.origin = origin
  targets : ∀ n, TargetOk origin s.invalid n trace (s.targets n) fun slot => s.decisions slot n

theorem TargetOk.weaken {invalid invalid' : Bool} {t : TargetState} {d : ℕ → SlotDecision}
    (h : TargetOk origin invalid n trace t d) (hinvalid : invalid = true → invalid' = true) :
    TargetOk origin invalid' n trace t d := by
  refine { h with latest := ?_ }
  intro hvalid
  apply h.latest
  cases invalid with
  | false => rfl
  | true => exact absurd ((hinvalid rfl).symm.trans hvalid) (by decide)

theorem Knows.of_local (h : Knows origin trace s) (hlocal : Local n s s') {e : Event}
    (hspares : ∀ m, m ≠ n → e.Spares m)
    (htarget : TargetOk origin s'.invalid n (trace ++ [e]) (s'.targets n)
      fun slot => s'.decisions slot n) : Knows origin (trace ++ [e]) s' := by
  refine ⟨hlocal.origin.trans h.anchored, ?_⟩
  intro m
  by_cases hm : m = n
  · rw [hm]
    exact htarget
  · have hold := ((h.targets m).weaken hlocal.invalid).spared (hspares m hm)
    have hcolumn : (fun slot => s'.decisions slot m) = fun slot => s.decisions slot m :=
      funext fun slot => hlocal.decisions slot m hm
    rw [hlocal.targets m hm, hcolumn]
    exact hold

theorem Knows.silent (h : Knows origin trace s) (hlocal : Local n s s')
    (htarget : TargetOk origin s'.invalid n trace (s'.targets n) fun slot => s'.decisions slot n) :
    Knows origin trace s' := by
  refine ⟨hlocal.origin.trans h.anchored, ?_⟩
  intro m
  by_cases hm : m = n
  · rw [hm]
    exact htarget
  · have hcolumn : (fun slot => s'.decisions slot m) = fun slot => s.decisions slot m :=
      funext fun slot => hlocal.decisions slot m hm
    rw [hlocal.targets m hm, hcolumn]
    exact (h.targets m).weaken hlocal.invalid

theorem Knows.spared (h : Knows origin trace s) {e : Event} (hspares : ∀ m, e.Spares m) :
    Knows origin (trace ++ [e]) s :=
  ⟨h.anchored, fun m => (h.targets m).spared (hspares m)⟩

theorem Knows.invalidateIf (h : Knows origin trace s) (b : Bool) :
    Knows origin trace (s.invalidateIf b) :=
  ⟨h.anchored, fun m => (h.targets m).weaken fun hs => by simp [Scheduler.invalidateIf, hs]⟩

theorem acceptRead_local (s : Scheduler) (n : ℕ) (read : CompletedRead) (now : Float) :
    Local n s (acceptRead s n read now).2 := by
  unfold acceptRead
  split_ifs
  · exact .refl n s
  · refine (setTarget_local s n _).trans ⟨rfl, fun _ _ => rfl, fun _ _ _ => rfl, fun _ => rfl⟩
  · exact setTarget_local s n _
  · exact setTarget_local s n _

theorem acceptRead_target (s : Scheduler) (n : ℕ) (read : CompletedRead) (now : Float) :
    let t := (acceptRead s n read now).2.targets n
    t.generation = (s.targets n).generation ∧ t.launchInFlight = (s.targets n).launchInFlight ∧
      (acceptRead s n read now).2.decisions = s.decisions := by
  unfold acceptRead
  split_ifs
  · exact ⟨rfl, rfl, rfl⟩
  · simp
  · simp
  · simp

theorem acceptRead_knows (h : Knows origin trace s) (read : CompletedRead) (now : Float)
    (hgeneration : read.generation = (s.targets n).generation) :
    Knows origin (trace ++ [.read n read (acceptRead s n read now).1])
      (acceptRead s n read now).2 := by
  have hspares : ∀ m, m ≠ n → (Event.read n read (acceptRead s n read now).1).Spares m :=
    fun _ hm => Ne.symm hm
  apply h.of_local (acceptRead_local s n read now) hspares
  unfold acceptRead
  rw [if_neg (not_not.2 hgeneration)]
  dsimp only
  split_ifs with hboot hunknown
  · refine ((h.targets n).weaken fun _ => rfl).rejected read ?_ ?_ (.inl rfl) ?_ <;> simp
  · refine (h.targets n).rejected read ?_ ?_ (.inr ?_) ?_ <;> simp
  · refine (h.targets n).accepted read ?_ ?_ ?_ ?_ <;> simp

theorem consider_cases (s : Scheduler) (slot n : ℕ) (now : Float) :
    (consider s slot n now).2 = s ∨
      ∃ record, (consider s slot n now).2 = s.setDecision slot n record ∧
        record.submitted = (s.decisions slot n).submitted ∧ record.resolved = true ∧
        Observed s.origin slot record ∧
        ((s.decisions slot n).decision = .eligible → record.decision = .eligible) := by
  unfold consider
  by_cases hout : s.invalid = true ∨ s.origin < 0 ∨ deadline now s.origin slot = false
  · rw [if_pos hout]
    exact .inl rfl
  rw [if_neg hout]
  dsimp only
  by_cases hdone : (s.decisions slot n).submitted = true
  · rw [if_pos hdone]
    exact .inl rfl
  rw [if_neg hdone]
  by_cases hbegun : slotBegin s.origin slot ≤ (s.targets n).latest.started
  · rw [if_pos hbegun]
    by_cases hnew : classification s n now ≠ .unknown ∧
        ((s.decisions slot n).decision ≠ .eligible ∨ classification s n now = .eligible)
    · rw [if_pos hnew]
      refine .inr ⟨_, rfl, rfl, rfl, ⟨?_, ?_, not_lt_of_le hbegun, hnew.1⟩, ?_⟩
      · push Not at hout
        exact Bool.not_eq_false _ ▸ hout.2.2
      · exact (decision_known hnew.1).2.2.2
      · intro hold
        exact hnew.2.resolve_left (not_not.2 hold)
    · rw [if_neg hnew]
      exact .inl rfl
  · rw [if_neg hbegun]
    rw [if_neg fun h => h.1 rfl]
    exact .inl rfl

theorem consider_eligible (hopen : (s.decisions slot n).submitted = false)
    (h : (consider s slot n now).1 = .eligible) :
    s.invalid = false ∧ deadline now s.origin slot = true ∧
      slotBegin s.origin slot ≤ (s.targets n).latest.started ∧
      classification s n now = .eligible ∧
      ((consider s slot n now).2.decisions slot n).resolved = true := by
  unfold consider at h ⊢
  by_cases hout : s.invalid = true ∨ s.origin < 0 ∨ deadline now s.origin slot = false
  · rw [if_pos hout] at h
    cases h
  rw [if_neg hout] at h ⊢
  dsimp only at h ⊢
  rw [if_neg (Bool.eq_false_iff.1 hopen)] at h ⊢
  by_cases hbegun : slotBegin s.origin slot ≤ (s.targets n).latest.started
  · rw [if_pos hbegun] at h ⊢
    have hclass : classification s n now = .eligible := by
      split_ifs at h <;> exact h
    have hnew : classification s n now ≠ .unknown ∧
        ((s.decisions slot n).decision ≠ .eligible ∨ classification s n now = .eligible) := by
      rw [hclass]
      exact ⟨by decide, .inr rfl⟩
    rw [if_pos hnew]
    push Not at hout
    refine ⟨Bool.eq_false_iff.2 hout.1, Bool.not_eq_false _ ▸ hout.2.2, hbegun, hclass, ?_⟩
    simp [Scheduler.setDecision]
  · rw [if_neg hbegun] at h
    rw [if_neg fun h => h.1 rfl] at h
    cases h

theorem consider_targets (s : Scheduler) (slot n : ℕ) (now : Float) :
    (consider s slot n now).2.targets = s.targets := by
  rcases consider_cases s slot n now with h | ⟨record, h, -⟩
  · rw [h]
  · rw [h]
    rfl

structure Resolves (s s' : Scheduler) : Prop where
  resolved : ∀ slot n, (s.decisions slot n).resolved = true → (s'.decisions slot n).resolved = true

theorem setDecision_resolves (s : Scheduler) (slot n : ℕ) {d : SlotDecision}
    (h : d.resolved = true) : Resolves s (s.setDecision slot n d) := by
  refine ⟨?_⟩
  intro other m hold
  by_cases hm : m = n
  · subst hm
    have hcolumn := congrFun (setDecision_column s slot m d) other
    rw [hcolumn]
    by_cases heq : other = slot
    · rw [heq, Function.update_self]
      exact h
    · rw [Function.update_of_ne heq]
      exact hold
  · rw [(setDecision_local s slot n d).decisions other m hm]
    exact hold

theorem consider_resolves (s : Scheduler) (slot n : ℕ) (now : Float) :
    Resolves s (consider s slot n now).2 := by
  rcases consider_cases s slot n now with h | ⟨record, h, -, hresolved, -⟩
  · rw [h]
    exact ⟨fun _ _ h => h⟩
  · rw [h]
    exact setDecision_resolves s slot n hresolved

theorem consider_knows (h : Knows origin trace s) (slot n : ℕ) (now : Float) :
    Knows origin trace (consider s slot n now).2 := by
  rcases consider_cases s slot n now with hsame | ⟨record, hset, hsubmitted, -, hobs, -⟩
  · rw [hsame]
    exact h
  · rw [hset]
    apply h.silent (setDecision_local s slot n record)
    rw [setDecision_column]
    exact (h.targets n).decide hsubmitted (h.anchored ▸ hobs)

theorem consider_local (s : Scheduler) (slot n : ℕ) (now : Float) :
    Local n s (consider s slot n now).2 := by
  rcases consider_cases s slot n now with h | ⟨record, h, -⟩
  · rw [h]
    exact .refl n s
  · rw [h]
    exact setDecision_local s slot n record

theorem monitorOnly_cases (s : Scheduler) (slot n : ℕ) (now : Float) :
    (monitorOnly s slot n now).2 = s ∨
      ∃ record, (monitorOnly s slot n now).2 = s.setDecision slot n record ∧
        record.submitted = false ∧ record.resolved = true ∧ Observed s.origin slot record := by
  unfold monitorOnly
  by_cases hout : slot < 1 ∨ 10 < slot ∨ 16 ≤ n ∨ s.invalid = true ∨ s.origin < 0 ∨
      deadline now s.origin slot = false
  · rw [if_pos hout]
    exact .inl rfl
  rw [if_neg hout]
  dsimp only
  split_ifs with hunknown hpresent
  · exact .inl rfl
  · exact .inl rfl
  · push Not at hout hunknown
    refine .inr ⟨_, rfl, rfl, rfl, ?_, ?_, hunknown.2.2.2.2.1, nofun⟩
    · exact Bool.not_eq_false _ ▸ hout.2.2.2.2.2
    · exact Bool.not_eq_false _ ▸ hunknown.2.2.2.1

structure FreshProof (origin : Float) (slot n : ℕ) (now : Float) (trace : List Event)
    (read : CompletedRead) (rest : List (CompletedRead × Bool)) : Prop where
  /-- The last read of the generation, and it was accepted. -/
  latest : recent n trace = (read, true) :: rest
  generation : read.generation.toNat = (slotsOf n trace).length
  sameBoot : read.sameBoot = true
  inSlot : deadline now origin slot = true
  inside : slotBegin origin slot ≤ read.started
  fresh : fresh now read.started = true
  proof : (showsAbsent (read, true) = true ∧
      ∃ previous others, rest = previous :: others ∧ showsAbsent previous = true) ∨
    (read.journal.failed = true ∧ read.journal.stopped = true)

theorem streak_two {read : CompletedRead} {rest : List (CompletedRead × Bool)}
    (hlatest : recent n trace = (read, true) :: rest) (h : 2 ≤ streak n trace) :
    showsAbsent (read, true) = true ∧
      ∃ previous others, rest = previous :: others ∧ showsAbsent previous = true := by
  unfold streak at h
  rw [hlatest] at h
  by_cases hread : showsAbsent (read, true) = true
  · rw [List.takeWhile_cons_of_pos hread, List.length_cons] at h
    cases rest with
    | nil => simp at h
    | cons previous others =>
      by_cases hprevious : showsAbsent previous = true
      · exact ⟨hread, previous, others, rfl, hprevious⟩
      · rw [List.takeWhile_cons_of_neg hprevious] at h
        simp at h
  · rw [List.takeWhile_cons_of_neg hread] at h
    simp at h

theorem Knows.freshProof (h : Knows origin trace s) (hopen : (s.decisions slot n).submitted = false)
    (heligible : (consider s slot n now).1 = .eligible) :
    ∃ read rest, FreshProof origin slot n now trace read rest := by
  obtain ⟨hvalid, hslot, hinside, hclass, -⟩ := consider_eligible hopen heligible
  have htarget := h.targets n
  have hknown := decision_known (hclass.trans_ne (by decide))
  have hgeneration := hknown.2.1
  rw [Bool.and_eq_true, beq_iff_eq] at hgeneration
  obtain ⟨rest, hlatest⟩ := htarget.latest hvalid hgeneration.2
  refine ⟨_, rest, hlatest, ?_, hknown.1, h.anchored ▸ hslot, h.anchored ▸ hinside, hknown.2.2.2, ?_⟩
  · rw [hgeneration.1, htarget.generation_toNat]
  · rcases eligible_cases (decision_eligible hclass) with habsent | hstopped
    · exact .inl (streak_two hlatest (habsent.trans htarget.absent))
    · exact .inr hstopped

structure Begins (origin : Float) (trace : List Event) (slot n : ℕ) (now : Float)
    (s s' : Scheduler) : Prop where
  proof : ∃ read rest, FreshProof origin slot n now trace read rest
  idle : (s.targets n).launchInFlight = false
  flag : (s'.targets n).launchInFlight = true
  generation : (s'.targets n).generation = (s.targets n).generation
  reading : (s.targets n).readInFlight = false
  resolved : (s'.decisions slot n).resolved = true

theorem beginLaunch_local (s : Scheduler) (slot n : ℕ) (now : Float) :
    Local n s (beginLaunch s slot n now).2 := by
  have hconsider := consider_local s slot n now
  unfold beginLaunch
  dsimp only
  split_ifs
  · exact .refl n s
  · exact hconsider
  · exact hconsider.trans (setTarget_local _ n _)

theorem beginLaunch_resolves (s : Scheduler) (slot n : ℕ) (now : Float) :
    Resolves s (beginLaunch s slot n now).2 := by
  have hconsider := consider_resolves s slot n now
  unfold beginLaunch
  dsimp only
  split_ifs
  · exact ⟨fun _ _ h => h⟩
  · exact hconsider
  · exact ⟨hconsider.resolved⟩

theorem beginLaunch_knows (h : Knows origin trace s) (slot n : ℕ) (now : Float) :
    Knows origin trace (beginLaunch s slot n now).2 := by
  have hconsider := consider_knows h slot n now
  have htargets := consider_targets s slot n now
  unfold beginLaunch
  dsimp only
  split_ifs with hbusy
  · exact h
  · exact hconsider
  · push Not at hbusy
    apply hconsider.silent (setTarget_local _ n _)
    refine (hconsider.targets n).flags ?_ ?_ ?_ ?_
    · simp [htargets, hbusy.2.2.2]
    · simp
    · simp
    · simp

theorem beginLaunch_false (h : (beginLaunch s slot n now).1 = false) :
    (beginLaunch s slot n now).2.targets = s.targets := by
  have htargets := consider_targets s slot n now
  unfold beginLaunch at h ⊢
  dsimp only at h ⊢
  split_ifs at h ⊢
  · rfl
  · exact htargets

theorem beginLaunch_begins (hknows : Knows origin trace s)
    (h : (beginLaunch s slot n now).1 = true) :
    Begins origin trace slot n now s (beginLaunch s slot n now).2 := by
  have htargets := consider_targets s slot n now
  unfold beginLaunch at h ⊢
  dsimp only at h ⊢
  split_ifs at h ⊢ with hbusy heligible
  push Not at hbusy heligible
  obtain ⟨-, hopen, hidle, hreading⟩ := hbusy
  have hopen : (s.decisions slot n).submitted = false := Bool.eq_false_iff.2 hopen
  have hresolved := (consider_eligible hopen heligible).2.2.2.2
  exact {
    proof := hknows.freshProof hopen heligible
    idle := Bool.eq_false_iff.2 hidle
    flag := by simp
    generation := by simp [htargets]
    reading := Bool.eq_false_iff.2 hreading
    resolved := hresolved }

theorem actualSubmission_cases (s : Scheduler) (slot n : ℕ) (capturedGeneration : UInt64)
    (gateAt : Float) :
    actualSubmission s slot n capturedGeneration gateAt true = (false, s) ∨
      ∃ record t, actualSubmission s slot n capturedGeneration gateAt true =
          (true, (s.setDecision slot n record).setTarget n t) ∧
        (s.decisions slot n).submitted = false ∧ (s.targets n).launchInFlight = true ∧
        deadline gateAt s.origin slot = true ∧
        record = { s.decisions slot n with
          submitted := true, resolved := true, decision := .eligible } ∧
        t.readInFlight = (s.targets n).readInFlight ∧ t.launchInFlight = false ∧
        t.generation = (s.targets n).generation + 1 ∧ t.latest = {} ∧ t.consecutiveAbsent = 0 := by
  unfold actualSubmission
  rw [if_neg (by decide)]
  dsimp only
  split_ifs with hrefused
  · exact .inl rfl
  · push Not at hrefused
    exact .inr ⟨_, _, rfl, Bool.eq_false_iff.2 hrefused.1, Bool.not_eq_false _ ▸ hrefused.2.2.1,
      Bool.not_eq_false _ ▸ hrefused.2.2.2, rfl, rfl, rfl, rfl, rfl, rfl⟩

theorem deadline_range {now origin : Float} {slot : ℕ} (h : deadline now origin slot = true) :
    1 ≤ slot ∧ slot ≤ 10 := by
  unfold deadline at h
  simp only [Bool.and_eq_true, decide_eq_true_eq] at h
  exact h.1.1

theorem monitorOnly_local (s : Scheduler) (slot n : ℕ) (now : Float) :
    Local n s (monitorOnly s slot n now).2 := by
  rcases monitorOnly_cases s slot n now with h | ⟨record, h, -⟩
  · rw [h]
    exact .refl n s
  · rw [h]
    exact setDecision_local s slot n record

theorem monitorOnly_knows (h : Knows origin trace s) (slot n : ℕ) (now : Float)
    (hnever : slotsOf n trace = []) : Knows origin trace (monitorOnly s slot n now).2 := by
  rcases monitorOnly_cases s slot n now with hsame | ⟨record, hset, hsubmitted, -, hobs⟩
  · rw [hsame]
    exact h
  · rw [hset]
    apply h.silent (setDecision_local s slot n record)
    rw [setDecision_column]
    refine (h.targets n).decide ?_ (h.anchored ▸ hobs)
    have hold := (h.targets n).submitted slot
    rw [hnever] at hold
    rw [hsubmitted]
    symm
    rw [Bool.eq_false_iff]
    intro hdone
    exact absurd (hold.2 hdone) (by simp)

theorem monitorOnly_targets (s : Scheduler) (slot n : ℕ) (now : Float) :
    (monitorOnly s slot n now).2.targets = s.targets := by
  rcases monitorOnly_cases s slot n now with h | ⟨record, h, -⟩
  · rw [h]
  · rw [h]
    rfl

theorem monitorOnly_resolves (s : Scheduler) (slot n : ℕ) (now : Float) :
    Resolves s (monitorOnly s slot n now).2 := by
  rcases monitorOnly_cases s slot n now with h | ⟨record, h, -, hresolved, -⟩
  · rw [h]
    exact ⟨fun _ _ h => h⟩
  · rw [h]
    exact setDecision_resolves s slot n hresolved

end Parp.RetryScheduler
