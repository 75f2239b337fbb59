import Parp.FallibleRuns
import Parp.OperationController
import Parp.TransitionRuns

set_option autoImplicit false
set_option mvcgen.warning false

namespace Parp.OperationController

open Std.Do FallibleRuns TransitionRuns

/-- The administrator's value: it stands in the file, or it is saved while the trial value stands. -/
structure Owned (owner : Limit) (s : Machine) : Prop where
  idle : s.appliedHigh = none → s.savedHigh = none ∧ s.cgroup.high = owner
  trial : ∀ applied, s.appliedHigh = some applied →
    ∃ saved, s.savedHigh = some saved ∧ (s.cgroup.high = applied → saved = owner) ∧
      (s.cgroup.high ≠ applied → s.cgroup.high = owner)

/-- A write that overwrites no changed value, and gives back or stays within the limits. -/
structure HighLaw (owner : Limit) (s : Machine) (found written : Limit) : Prop where
  unchanged : ∀ applied, s.appliedHigh = some applied → found = applied
  value : written = owner ∨ ∃ target, written = .bytes target ∧ target ≤ owner.value ∧
    target ≤ s.cgroup.max.value ∧ s.cgroup.min.value ≤ target ∧ s.cgroup.low.value ≤ target

def LawfulEffect (owner : Limit) (s : Machine) : Effect → Prop
  | .wroteHigh found written => HighLaw owner s found written
  | .requested _ => True

/-- Nothing was done to `memory.high` yet in the call from `s₀`. -/
structure Untouched (owner : Limit) (s₀ s : Machine) : Prop where
  owned : Owned owner s
  cgroup : s.cgroup = s₀.cgroup
  applied : s.appliedHigh = s₀.appliedHigh
  saved : s.savedHigh = s₀.savedHigh
  effects : s.effects = []

structure Standing (owner : Limit) (s₀ s : Machine) : Prop extends Untouched owner s₀ s where
  stands : ∀ applied, s.appliedHigh = some applied → s.cgroup.high = applied

structure Settled (owner : Limit) (s₀ s : Machine) : Prop where
  owned : Owned owner s
  effects : ∀ e ∈ s.effects, LawfulEffect owner s₀ e

def Answer.ok : Answer → Bool
  | .raises _ => false
  | .reads _ => true

structure Free (owner : Limit) (s₀ s : Machine) : Prop extends Settled owner s₀ s where
  free : s.appliedHigh = none

/-- `_restore_high` may run. -/
def Calm (owner : Limit) (s₀ s : Machine) : Prop := Untouched owner s₀ s ∨ Free owner s₀ s

/-- The trial value stands over another one: a write that fails now loses what to give back. -/
def Late (s : Machine) : Prop :=
  s.appliedHigh = some s.cgroup.high ∧ s.savedHigh ≠ some s.cgroup.high

section

variable {owner : Limit} {s₀ s : Machine} {applied saved : Limit} {target : ℕ}

theorem Untouched.settled (h : Untouched owner s₀ s) : Settled owner s₀ s :=
  ⟨h.owned, by simp [h.effects]⟩

theorem Calm.settled (h : Calm owner s₀ s) : Settled owner s₀ s :=
  h.elim Untouched.settled Free.toSettled

theorem Calm.untouched (h : Calm owner s₀ s) (happlied : s.appliedHigh = some applied) :
    Untouched owner s₀ s := by
  rcases h with h | h
  · exact h
  · rw [h.free] at happlied
    cases happlied

variable {s' : Machine}

theorem Owned.congr (h : Owned owner s) (hcgroup : s'.cgroup = s.cgroup)
    (happlied : s'.appliedHigh = s.appliedHigh) (hsaved : s'.savedHigh = s.savedHigh) :
    Owned owner s' where
  idle := by
    rw [hcgroup, happlied, hsaved]
    exact h.idle
  trial := by
    rw [hcgroup, happlied, hsaved]
    exact h.trial

theorem Untouched.congr (h : Untouched owner s₀ s) (hcgroup : s'.cgroup = s.cgroup)
    (happlied : s'.appliedHigh = s.appliedHigh) (hsaved : s'.savedHigh = s.savedHigh)
    (heffects : s'.effects = s.effects) : Untouched owner s₀ s' :=
  ⟨h.owned.congr hcgroup happlied hsaved, hcgroup.trans h.cgroup, happlied.trans h.applied,
    hsaved.trans h.saved, heffects.trans h.effects⟩

theorem Settled.congr (h : Settled owner s₀ s) (hcgroup : s'.cgroup = s.cgroup)
    (happlied : s'.appliedHigh = s.appliedHigh) (hsaved : s'.savedHigh = s.savedHigh)
    (heffects : s'.effects = s.effects) : Settled owner s₀ s' :=
  ⟨h.owned.congr hcgroup happlied hsaved, heffects ▸ h.effects⟩

theorem Free.request (h : Free owner s₀ s) (bytes : ℕ) : Free owner s₀ (s.request bytes) := by
  refine ⟨⟨h.owned.congr rfl rfl rfl, ?_⟩, h.free⟩
  intro e he
  rcases List.mem_append.1 he with he | he
  · exact h.effects e he
  · rw [List.mem_singleton.1 he]
    trivial

theorem Free.congr (h : Free owner s₀ s) (hcgroup : s'.cgroup = s.cgroup)
    (happlied : s'.appliedHigh = s.appliedHigh) (hsaved : s'.savedHigh = s.savedHigh)
    (heffects : s'.effects = s.effects) : Free owner s₀ s' :=
  ⟨h.toSettled.congr hcgroup happlied hsaved heffects, happlied.trans h.free⟩

section

variable (h : Untouched owner s₀ s)

include h

theorem Untouched.guardRefault (now : Float) (value drop : ℕ) :
    Untouched owner s₀ (s.guardRefault now value drop) := h.congr rfl rfl rfl rfl

theorem Untouched.reportPreview : Untouched owner s₀ s.reportPreview :=
  h.congr rfl rfl rfl rfl

theorem Untouched.openPlan (anchor : Anchor) (result : LookupResult) (rss : ℕ) (decision : Decision)
    (deadline : Float) :
    Untouched owner s₀ (s.openPlan anchor result rss decision deadline) := h.congr rfl rfl rfl rfl

theorem Untouched.enterStep (step : ℕ) :
    Untouched owner s₀ (s.enterStep step) := h.congr rfl rfl rfl rfl

theorem Untouched.setBudget (usage floor : ℕ) :
    Untouched owner s₀ (s.setBudget usage floor) := h.congr rfl rfl rfl rfl

end

theorem Free.closePlan (h : Free owner s₀ s) (reason : Reason) :
    Free owner s₀ (s.closePlan reason) := h.congr rfl rfl rfl rfl

theorem Free.issued (h : Free owner s₀ s) (bytes : ℕ) :
    Free owner s₀ ((s.reserve bytes).request bytes) :=
  (h.congr rfl rfl rfl rfl : Free owner s₀ (s.reserve bytes)).request bytes

theorem Free.observeDrop (h : Free owner s₀ s) (drop : ℕ) : Free owner s₀ (s.observeDrop drop) :=
  h.congr rfl rfl rfl rfl

theorem Owned.saved_eq (h : Owned owner s) (happlied : s.appliedHigh = some s.cgroup.high) :
    s.savedHigh = some owner := by
  obtain ⟨saved, hsaved, heq, -⟩ := h.trial _ happlied
  rw [hsaved, heq rfl]

/-- What a trial starts from: the administrator's value is saved, or it is about to be. -/
theorem Owned.saveHigh_eq (h : Owned owner s)
    (hstands : ∀ applied, s.appliedHigh = some applied → s.cgroup.high = applied) :
    s.savedHigh.getD s.cgroup.high = owner := by
  cases happlied : s.appliedHigh with
  | none =>
    obtain ⟨hsaved, hhigh⟩ := h.idle happlied
    rw [hsaved, hhigh]
    rfl
  | some applied =>
    have hhigh := hstands applied happlied
    rw [h.saved_eq (hhigh ▸ happlied)]
    rfl

theorem Untouched.restored (h : Untouched owner s₀ s) (happlied : s.appliedHigh = some applied)
    (hhigh : s.cgroup.high = applied) (hsaved : s.savedHigh = some saved) :
    Settled owner s₀ (s.putHigh saved).forgetHigh := by
  have howner : saved = owner := by
    have := h.owned.saved_eq (hhigh ▸ happlied)
    rw [hsaved] at this
    exact Option.some.inj this
  refine ⟨⟨fun _ => ⟨rfl, howner⟩, nofun⟩, ?_⟩
  intro e he
  change e ∈ s.effects ++ [.wroteHigh s.cgroup.high saved] at he
  rw [h.effects, List.nil_append, List.mem_singleton] at he
  subst he
  refine ⟨fun applied' happlied' => ?_, .inl howner⟩
  rw [← h.applied, happlied] at happlied'
  exact hhigh.trans (Option.some.inj happlied')

theorem Untouched.lost (h : Untouched owner s₀ s) (happlied : s.appliedHigh = some applied)
    (hhigh : s.cgroup.high ≠ applied) : Settled owner s₀ s.forgetHigh := by
  obtain ⟨saved, -, -, howner⟩ := h.owned.trial applied happlied
  exact ⟨⟨fun _ => ⟨rfl, howner hhigh⟩, nofun⟩, h.settled.effects⟩

theorem Standing.marked (h : Standing owner s₀ s) (hhigh : s.cgroup.high = .bytes target) :
    Settled owner s₀ ((s.saveHigh s.cgroup.high).markHigh target) := by
  have hsaved := h.owned.saveHigh_eq h.stands
  refine ⟨⟨nofun, ?_⟩, h.settled.effects⟩
  rintro applied ⟨⟩
  exact ⟨_, rfl, fun _ => hsaved, fun hne => absurd hhigh hne⟩

theorem Standing.failed (h : Standing owner s₀ s) (hlate : ¬ Late s₀) (hhigh : s.cgroup.high ≠ .bytes target) :
    Settled owner s₀ ((s.saveHigh s.cgroup.high).markHigh target) := by
  have hsaved := h.owned.saveHigh_eq h.stands
  refine ⟨⟨nofun, ?_⟩, h.settled.effects⟩
  rintro applied ⟨⟩
  refine ⟨_, rfl, fun heq => absurd heq hhigh, fun _ => ?_⟩
  change s.cgroup.high = owner
  cases happlied : s.appliedHigh with
  | none => exact (h.owned.idle happlied).2
  | some applied =>
    have heq := h.stands applied happlied
    have hsaved' := h.owned.saved_eq (heq ▸ happlied)
    by_contra hother
    apply hlate
    rw [Late, ← h.applied, ← h.saved, ← h.cgroup]
    refine ⟨heq ▸ happlied, ?_⟩
    rw [hsaved']
    exact fun h => hother (Option.some.inj h).symm

theorem Standing.written (h : Standing owner s₀ s)
    (hlimits : ¬ (min (s.savedHigh.getD s.cgroup.high).value s.cgroup.max.value < target ∨
      target < max s.cgroup.min.value s.cgroup.low.value)) :
    Settled owner s₀
      ((((s.saveHigh s.cgroup.high).markHigh target).putHigh (.bytes target)).markHigh target) := by
  have hsaved := h.owned.saveHigh_eq h.stands
  refine ⟨⟨nofun, ?_⟩, ?_⟩
  · rintro applied ⟨⟩
    exact ⟨_, rfl, fun _ => hsaved, fun hne => absurd rfl hne⟩
  · intro e he
    change e ∈ s.effects ++ [.wroteHigh s.cgroup.high (.bytes target)] at he
    rw [h.effects, List.nil_append, List.mem_singleton] at he
    subst he
    rw [hsaved, h.cgroup] at hlimits
    refine ⟨fun applied happlied => ?_, .inr ⟨target, rfl, ?_⟩⟩
    · rw [← h.applied] at happlied
      exact h.stands applied happlied
    · omega

end

section

variable (owner : Limit) (s₀ : Machine) (c : Setup) (a : Answers)

theorem restoreHigh_spec :
    ⦃fun s => ⌜Calm owner s₀ s⌝⦄ restoreHigh a
    ⦃post⟨fun _ s => ⌜Free owner s₀ s⌝, fun _ s => ⌜Settled owner s₀ s⌝⟩⦄ := by
  unfold restoreHigh readHigh writeHigh access checked
  mvcgen
  case vc1 s h happlied => exact ⟨h.settled, happlied⟩
  case vc5 s h applied happlied _ _ _ hhigh saved hsaved _ _ _ _ =>
    exact ⟨(h.untouched happlied).restored happlied hhigh hsaved, rfl⟩
  case vc6 s h applied happlied _ _ _ hhigh _ =>
    exact ⟨(h.untouched happlied).lost happlied hhigh, rfl⟩
  all_goals exact Calm.settled ‹_›

theorem stop_spec (reason : Reason) :
    ⦃fun s => ⌜Calm owner s₀ s⌝⦄ stop a reason
    ⦃post⟨fun _ s => ⌜Free owner s₀ s⌝, fun _ s => ⌜Settled owner s₀ s⌝⟩⦄ := by
  unfold stop
  have hrestore := restoreHigh_spec owner s₀ a
  mvcgen [hrestore]
  exact Free.closePlan ‹_› reason

theorem checkHighOwner_spec (site : Site) :
    ⦃fun s => ⌜Untouched owner s₀ s⌝⦄ checkHighOwner a site
    ⦃post⟨fun _ s => ⌜Standing owner s₀ s⌝, fun _ s => ⌜Settled owner s₀ s⌝⟩⦄ := by
  unfold checkHighOwner readHigh access
  mvcgen
  case vc1 s h happlied =>
    refine ⟨h, fun applied happlied' => ?_⟩
    rw [happlied] at happlied'
    cases happlied'
  case vc2 => exact Untouched.settled ‹_›
  case vc3 s h applied happlied _ _ hhigh _ => exact h.lost happlied hhigh
  case vc4 s h applied happlied _ _ hhigh =>
    refine ⟨h, fun applied' happlied' => ?_⟩
    rw [happlied] at happlied'
    cases happlied'
    exact not_not.1 hhigh

theorem setHigh_spec (target : ℕ) (hwrite : Late s₀ → (a .targetWrite).ok = true) :
    ⦃fun s => ⌜Untouched owner s₀ s⌝⦄ setHigh a target
    ⦃post⟨fun _ s => ⌜Settled owner s₀ s⌝, fun _ s => ⌜Settled owner s₀ s⌝⟩⦄ := by
  unfold setHigh limit readHigh writeHigh access
  have hcheck := checkHighOwner_spec owner s₀ a .ownerAgain
  mvcgen [hcheck]
  case vc6 => exact (Standing.toUntouched ‹_›).settled
  case vc7 =>
    refine Standing.failed ‹_› (fun hlate => ?_) ‹_›
    have hraises : a .targetWrite = .raises _ := ‹_›
    have hok := hwrite hlate
    rw [hraises] at hok
    cases hok
  case vc8 => exact Standing.written ‹_› ‹_›
  case vc9 => exact Standing.marked ‹_› (not_not.1 ‹_›)
  all_goals exact (Standing.toUntouched ‹_›).settled

theorem refaultStop_spec (now : Float) :
    ⦃fun s => ⌜Untouched owner s₀ s⌝⦄ refaultStop c a now
    ⦃post⟨fun _ s => ⌜Untouched owner s₀ s⌝, fun _ s => ⌜Settled owner s₀ s⌝⟩⦄ := by
  unfold refaultStop access
  mvcgen
  case vc2 | vc6 | vc7 => exact Untouched.guardRefault ‹_› ..
  all_goals exact Untouched.settled ‹_›

theorem tickHigh_spec (result : LookupResult) (active : ℕ)
    (hwrite : Late s₀ → (a .targetWrite).ok = true) :
    ⦃fun s => ⌜Untouched owner s₀ s⌝⦄ tickHigh c a result active
    ⦃post⟨fun _ s => ⌜Settled owner s₀ s⌝, fun _ s => ⌜Settled owner s₀ s⌝⟩⦄ := by
  unfold tickHigh checked
  have hset := fun target => setHigh_spec owner s₀ a target hwrite
  mvcgen [hset]
  all_goals exact Untouched.settled ‹_›

theorem reclaim_spec (active request usage floor : ℕ) :
    ⦃fun s => ⌜Free owner s₀ s⌝⦄ reclaim a active request usage floor
    ⦃post⟨fun _ s => ⌜Settled owner s₀ s⌝, fun _ s => ⌜Settled owner s₀ s⌝⟩⦄ := by
  unfold reclaim writeReclaim access
  have hstop := stop_spec owner s₀ a
  mvcgen [hstop]
  case vc3 | vc7 => exact Free.toSettled ‹_›
  case vc1 | vc5 | vc9 => exact (Free.issued ‹_› request).toSettled
  case vc2 | vc6 => exact .inr ((Free.issued ‹_› request).observeDrop _)
  case vc4 | vc8 => exact ((Free.issued ‹_› request).observeDrop _).toSettled

theorem tickReclaim_spec (result : LookupResult) (active : ℕ) :
    ⦃fun s => ⌜Untouched owner s₀ s⌝⦄ tickReclaim c a result active
    ⦃post⟨fun _ s => ⌜Settled owner s₀ s⌝, fun _ s => ⌜Settled owner s₀ s⌝⟩⦄ := by
  unfold tickReclaim checked limit access
  have hrestore := restoreHigh_spec owner s₀ a
  have hstop := stop_spec owner s₀ a
  have hreclaim := reclaim_spec owner s₀ a
  mvcgen [hrestore, hstop, hreclaim]
  case vc1 => exact .inl ‹_›
  case vc8 => exact .inr ‹_›
  all_goals exact Free.toSettled ‹_›

theorem targets_spec (mode : Mode) (result : LookupResult) (active : ℕ) :
    ⦃fun s => ⌜Untouched owner s₀ s⌝⦄ targets c mode result active
    ⦃post⟨fun _ s => ⌜Settled owner s₀ s⌝, fun _ s => ⌜Settled owner s₀ s⌝⟩⦄ := by
  unfold targets checked
  mvcgen
  all_goals exact Untouched.settled ‹_›

theorem tickActive_spec (now : Float) (result : LookupResult) (active : ℕ)
    (hwrite : Late s₀ → (a .targetWrite).ok = true) :
    ⦃fun s => ⌜Untouched owner s₀ s⌝⦄ tickActive c a now result active
    ⦃post⟨fun _ s => ⌜Settled owner s₀ s⌝, fun _ s => ⌜Settled owner s₀ s⌝⟩⦄ := by
  unfold tickActive access
  have htargets := targets_spec owner s₀ c
  have howner := checkHighOwner_spec owner s₀ a .owner
  have hrefault := refaultStop_spec owner s₀ c a now
  have hstop := stop_spec owner s₀ a
  have hhigh := tickHigh_spec owner s₀ c a result active hwrite
  have hreclaim := tickReclaim_spec owner s₀ c a result active
  mvcgen [htargets, howner, hrefault, hstop, hhigh, hreclaim]
  case vc2 => exact Untouched.reportPreview ‹_›
  case vc6 | vc10 => exact Standing.toUntouched ‹_›
  case vc7 | vc11 => exact .inl ‹_›
  case vc5 => exact (Standing.toUntouched ‹_›).settled
  case vc8 | vc12 => exact Free.toSettled ‹_›
  all_goals exact Untouched.settled ‹_›

theorem tick_spec (now : Float) (hwrite : Late s₀ → (a .targetWrite).ok = true) :
    ⦃fun s => ⌜Untouched owner s₀ s⌝⦄ tick c a now
    ⦃post⟨fun _ s => ⌜Settled owner s₀ s⌝, fun _ s => ⌜Settled owner s₀ s⌝⟩⦄ := by
  unfold tick
  have hstop := stop_spec owner s₀ a
  have hactive := fun result active => tickActive_spec owner s₀ c a now result active hwrite
  mvcgen [hstop, hactive]
  case vc2 => exact .inl ‹_›
  case vc3 => exact Free.toSettled ‹_›
  all_goals exact Untouched.settled ‹_›

theorem forecast_spec (anchor : Anchor) (rssBytes : ℕ) (predicted : Option LookupResult)
    (now : Float) :
    ⦃fun s => ⌜Untouched owner s₀ s⌝⦄ forecast c anchor rssBytes predicted now
    ⦃post⟨fun _ s => ⌜Settled owner s₀ s⌝, fun _ s => ⌜Settled owner s₀ s⌝⟩⦄ := by
  unfold forecast checked
  mvcgen
  case vc5 => exact (Untouched.openPlan ‹_› ..).settled
  all_goals exact Untouched.settled ‹_›

theorem openBudget_spec (result : LookupResult) :
    ⦃fun s => ⌜Untouched owner s₀ s⌝⦄ openBudget c a result
    ⦃post⟨fun _ s => ⌜Untouched owner s₀ s⌝, fun _ s => ⌜Settled owner s₀ s⌝⟩⦄ := by
  unfold openBudget openingUsage checked access
  mvcgen
  case vc3 | vc5 | vc7 | vc9 => exact Untouched.setBudget ‹_› ..
  all_goals exact Untouched.settled ‹_›

theorem enter_spec (generation step : ℕ) (now : Float) :
    ⦃fun s => ⌜Untouched owner s₀ s⌝⦄ enter c a generation step now
    ⦃post⟨fun _ s => ⌜Settled owner s₀ s⌝, fun _ s => ⌜Settled owner s₀ s⌝⟩⦄ := by
  unfold enter checked
  have hstop := stop_spec owner s₀ a
  have hbudget := openBudget_spec owner s₀ c a
  mvcgen [hstop, hbudget]
  case vc3 | vc7 => exact .inl ‹_›
  case vc4 | vc8 => exact Free.toSettled
  case vc9 => exact Untouched.enterStep ‹_› step
  case vc11 => exact (Untouched.enterStep ‹_› step).settled
  all_goals exact Untouched.settled ‹_›

theorem handle_spec (event : Event) (now : Float) :
    ⦃fun s => ⌜Untouched owner s₀ s⌝⦄ handle c a event now
    ⦃post⟨fun _ s => ⌜Settled owner s₀ s⌝, fun _ s => ⌜Settled owner s₀ s⌝⟩⦄ := by
  cases event with
  | stop =>
    unfold handle
    have hstop := stop_spec owner s₀ a
    mvcgen [hstop]
    case vc1 => exact .inl ‹_›
    all_goals exact Free.toSettled
  | forecast anchor rssBytes predicted => exact forecast_spec owner s₀ c anchor rssBytes predicted now
  | enter generation step => exact enter_spec owner s₀ c a generation step now
  | other =>
    unfold handle
    mvcgen
    exact Untouched.settled ‹_›

theorem handled_spec (event : Event) (now : Float) :
    ⦃fun s => ⌜Untouched owner s₀ s⌝⦄ (some <$> handle c a event now)
    ⦃post⟨fun _ s => ⌜Settled owner s₀ s⌝, fun _ s => ⌜Settled owner s₀ s⌝⟩⦄ := by
  have hhandle := handle_spec owner s₀ c a event now
  mvcgen [hhandle]

theorem stopped_spec (now : Float) :
    ⦃fun s => ⌜Untouched owner s₀ s⌝⦄ (some <$> handle c a .stop now)
    ⦃post⟨fun _ s => ⌜Free owner s₀ s⌝, fun _ s => ⌜Settled owner s₀ s⌝⟩⦄ := by
  unfold handle
  have hstop := stop_spec owner s₀ a
  mvcgen [hstop]
  exact .inl ‹_›

end

section

def nextOwner (owner : Limit) : Input → Limit
  | .administratorHigh value => value
  | _ => owner

def ownerAfter (owner : Limit) (inputs : List Input) : Limit := inputs.foldl nextOwner owner

def AdministratorDiffers (s : Machine) : Input → Prop
  | .administratorHigh value => s.appliedHigh ≠ some value
  | _ => True

instance (s : Machine) : DecidablePred (AdministratorDiffers s)
  | .administratorHigh value => inferInstanceAs (Decidable (s.appliedHigh ≠ some value))
  | .handle .. | .tick .. | .administratorLimits .. => .isTrue trivial

def TargetWritten (s : Machine) : Input → Prop
  | .tick _ a => Late s → (a .targetWrite).ok = true
  | _ => True

instance (s : Machine) : Decidable (Late s) := inferInstanceAs (Decidable (_ ∧ _))

instance (s : Machine) : DecidablePred (TargetWritten s)
  | .tick _ a => inferInstanceAs (Decidable (Late s → (a .targetWrite).ok = true))
  | .handle .. | .administratorHigh _ | .administratorLimits .. => .isTrue trivial

variable {owner : Limit} {s : Machine} (c : Setup)

theorem Owned.untouched (h : Owned owner s) : Untouched owner s { s with effects := [] } :=
  ⟨h.congr rfl rfl rfl, rfl, rfl, rfl, rfl⟩

theorem step_owned {i : Input} (h : Owned owner s) (hdiffers : AdministratorDiffers s i)
    (hwritten : TargetWritten s i) :
    Owned (nextOwner owner i) (step c s i).2 ∧
      ∀ e ∈ (step c s i).1.effects, LawfulEffect owner s e := by
  cases i with
  | handle event now a =>
    have hsettled := run_keeps (handled_spec owner s c a event now) h.untouched
    exact ⟨hsettled.owned, hsettled.effects⟩
  | tick now a =>
    have hsettled := run_keeps (tick_spec owner s c a now hwritten) h.untouched
    exact ⟨hsettled.owned, hsettled.effects⟩
  | administratorHigh value =>
    refine ⟨⟨fun happlied => ?_, fun applied happlied => ?_⟩, by simp [step]⟩
    · exact ⟨(h.idle happlied).1, rfl⟩
    · obtain ⟨saved, hsaved, -⟩ := h.trial applied happlied
      refine ⟨saved, hsaved, fun hhigh => ?_, fun _ => rfl⟩
      change value = applied at hhigh
      exact absurd (hhigh ▸ happlied) hdiffers
  | administratorLimits most least low => exact ⟨⟨h.idle, h.trial⟩, by simp [step]⟩

theorem stop_returns {now : Float} {a : Answers} (h : Owned owner s) {record : Option Record}
    (hreply : (step c s (.handle .stop now a)).1.reply = .ok record) :
    (step c s (.handle .stop now a)).2.cgroup.high = owner := by
  have hspec := stopped_spec owner s c a now
  cases hrun : (some <$> handle c a .stop now).run.run { s with effects := [] } with
  | mk r s' =>
    simp only [step, perform, hrun] at hreply ⊢
    subst hreply
    have hfree := run_ok hspec h.untouched hrun
    exact (hfree.owned.idle hfree.free).2

end

section

variable {c : Setup} {g : Cgroup}

theorem run_owned {inputs : List Input}
    (hdiffers : Along (step c) AdministratorDiffers { cgroup := g } inputs)
    (hwritten : Along (step c) TargetWritten { cgroup := g } inputs) :
    Owned (ownerAfter g.high inputs) (after (step c) { cgroup := g } inputs) := by
  have hgeneral : ∀ (inputs : List Input) (owner : Limit) (s : Machine), Owned owner s →
      Along (step c) AdministratorDiffers s inputs → Along (step c) TargetWritten s inputs →
      Owned (ownerAfter owner inputs) (after (step c) s inputs) := by
    intro inputs
    induction inputs with
    | nil => exact fun _ _ h _ _ => h
    | cons i inputs ih =>
      intro owner s h hd hw
      exact ih _ _ (step_owned c h hd.1 hw.1).1 hd.2 hw.2
  exact hgeneral inputs g.high { cgroup := g } ⟨fun _ => ⟨rfl, rfl⟩, nofun⟩ hdiffers hwritten

/-- `memory.high` over a run; `ownerAfter` is the first value or the administrator's last one. -/
structure GiveBackLaws (c : Setup) (g : Cgroup) (inputs : List Input) : Prop where
  idle : ∀ left right, inputs = left ++ right →
    (after (step c) { cgroup := g } left).appliedHigh = none →
    (after (step c) { cgroup := g } left).cgroup.high = ownerAfter g.high left
  stopped : ∀ left now a right record, inputs = left ++ .handle .stop now a :: right →
    (step c (after (step c) { cgroup := g } left) (.handle .stop now a)).1.reply = .ok record →
    (step c (after (step c) { cgroup := g } left) (.handle .stop now a)).2.cgroup.high =
      ownerAfter g.high left
  writes : ∀ left i right found written, inputs = left ++ i :: right →
    .wroteHigh found written ∈ (step c (after (step c) { cgroup := g } left) i).1.effects →
    HighLaw (ownerAfter g.high left) (after (step c) { cgroup := g } left) found written

theorem high_given_back (c : Setup) (g : Cgroup) (inputs : List Input)
    (hdiffers : Along (step c) AdministratorDiffers { cgroup := g } inputs)
    (hwritten : Along (step c) TargetWritten { cgroup := g } inputs) :
    GiveBackLaws c g inputs where
  idle left right hsplit happlied := by
    subst hsplit
    have howned := run_owned ((along_append _ _ _ _ _).1 hdiffers).1
      ((along_append _ _ _ _ _).1 hwritten).1
    exact (howned.idle happlied).2
  stopped left now a right record hsplit hreply := by
    subst hsplit
    have howned := run_owned ((along_append _ _ _ _ _).1 hdiffers).1
      ((along_append _ _ _ _ _).1 hwritten).1
    exact stop_returns c howned hreply
  writes left i right found written hsplit heffect := by
    subst hsplit
    obtain ⟨hd, hd', -⟩ := (along_append _ _ _ _ _).1 hdiffers
    obtain ⟨hw, hw', -⟩ := (along_append _ _ _ _ _).1 hwritten
    exact (step_owned c (run_owned hd hw) hd' hw').2 _ heffect

def mebibyte : ℕ := 1024 ^ 2

def trialSetup : Setup where
  apply := true
  hasBackend := true
  reuseFaultMax := some 0
  turnoverBurstMin := some 1
  leaseSeconds := 30
  batch := mebibyte
  pageSize := 4096
  page_pos := by decide
  batch_ge := by decide
  batch_le := by decide
  lease_pos := by decide +kernel
  ready := by decide

def openCgroup : Cgroup := ⟨.max, .max, .bytes 0, .bytes 0⟩

def twoStages : List Input :=
  [.handle (.forecast ⟨"gimp", 1, 1, 8⟩ (500 * mebibyte)
      (some ⟨[220 * mebibyte, 200 * mebibyte], [0, 0]⟩)) 0 fun _ => .reads 0,
    .handle (.enter 1 0) 0 fun _ => .reads 0,
    .tick 1 fun _ => .reads 0,
    .handle (.enter 1 1) 1 fun _ => .reads 0]

def stopCall : Input := .handle .stop 2 fun _ => .reads 0

theorem high_given_back_trial :
    GiveBackLaws trialSetup openCgroup
        (twoStages ++ [.tick 1.5 fun _ => .reads 0, .administratorHigh (.bytes (300 * mebibyte)),
          .tick 1.75 fun _ => .reads 0, stopCall]) ∧
      (after (step trialSetup) { cgroup := openCgroup }
        (twoStages ++ [.tick 1.5 fun _ => .reads 0])).cgroup.high = .bytes (220 * mebibyte) :=
  ⟨high_given_back trialSetup openCgroup _ (by decide +kernel) (by decide +kernel),
    by decide +kernel⟩

/-- The write of the second target fails: the first one stays for ever. -/
theorem failed_write_keeps_high :
    let inputs := twoStages ++ [.tick 1.5 fun
      | .targetWrite => .raises (.osError 5)
      | _ => .reads 0]
    let s := after (step trialSetup) { cgroup := openCgroup } inputs
    (step trialSetup s stopCall).1.reply = .ok (some (.stopped .stopped)) ∧
      (step trialSetup s stopCall).2.cgroup.high = .bytes (242 * mebibyte) ∧
      ownerAfter openCgroup.high inputs = .max := by
  decide +kernel

end

end Parp.OperationController
