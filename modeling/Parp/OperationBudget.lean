import Parp.OperationGiveBack

set_option autoImplicit false
set_option mvcgen.warning false

namespace Parp.OperationController

open Std.Do FallibleRuns TransitionRuns List

def requestsOf (effects : List Effect) : List ℕ :=
  effects.filterMap fun
    | .wroteHigh .. => none
    | .requested bytes => some bytes

def Machine.start (s : Machine) : Machine := { s with effects := [] }

/-- The plan was charged `n` bytes; it may be closed. -/
structure Charged (s₀ : Machine) (n : ℕ) (s : Machine) : Prop where
  seen : s.seen = s₀.seen
  rss : s.rss = s₀.rss
  deadline : s.deadline = s₀.deadline
  lowBudget : s.lowBudget = s₀.lowBudget
  budget : s.budget = s₀.budget
  reserved : s.reservedBytes = s₀.reservedBytes + n
  plan : (s.result = s₀.result ∧ s.activeStep = s₀.activeStep) ∨
    (s.result = none ∧ s.activeStep = none)

/-- A call charged `n` bytes and requested them. -/
structure Spent (s₀ : Machine) (n : ℕ) (s : Machine) : Prop extends Charged s₀ n s where
  least : s.cgroup.min = s₀.cgroup.min
  low : s.cgroup.low = s₀.cgroup.low
  requests : requestsOf s.effects = if n = 0 then [] else [n]

structure Issue (c : Setup) (a : Answers) (now : Float) (s₀ : Machine) (n : ℕ) : Prop where
  lease : ¬ s₀.deadline ≤ now
  pos : n ≠ 0
  request : ∃ result active usage floor, s₀.result = some result ∧ s₀.activeStep = some active ∧
    a .usage = .reads usage ∧ stageFloor c result active = some floor ∧
    n = requestOf c s₀ active usage (max floor (max s₀.cgroup.min.value s₀.cgroup.low.value))

def Ticked (c : Setup) (a : Answers) (now : Float) (s₀ s : Machine) : Prop :=
  Spent s₀ 0 s ∨ ∃ n, Issue c a now s₀ n ∧ Spent s₀ n s

def usageAt (c : Setup) (a : Answers) (rss : ℕ) : Option ℕ :=
  if c.hasBackend then
    match a .usage with
    | .raises _ => none
    | .reads usage => some usage
  else some rss

def openingFloor (c : Setup) (result : LookupResult) : Option ℕ :=
  result.wssBytes.head?.bind fun first => if first = 0 then some 0 else highTarget first c.pageSize

/-- An `enter` that returned. -/
inductive EnterReturned (c : Setup) (a : Answers) (s₀ : Machine) : ℕ → Record → Machine → Prop
  | stopped {step reason s} (h : Spent s₀ 0 s) : EnterReturned c a s₀ step (.stopped reason) s
  | first {result usage floor} (hresult : s₀.result = some result) (hidle : s₀.activeStep = none)
      (husage : usageAt c a s₀.rss = some usage) (hfloor : openingFloor c result = some floor) :
      EnterReturned c a s₀ 0 (.entered s₀.generation 0)
        ((s₀.start.enterStep 0).setBudget usage floor)
  | next {result active} (hresult : s₀.result = some result)
      (hactive : s₀.activeStep = some active) :
      EnterReturned c a s₀ (active + 1) (.entered s₀.generation (active + 1))
        (s₀.start.enterStep (active + 1))

inductive EnterRaised (s₀ : Machine) : Machine → Prop
  | before {s} (h : Spent s₀ 0 s) : EnterRaised s₀ s
  | within {result} (hresult : s₀.result = some result) (hidle : s₀.activeStep = none) :
      EnterRaised s₀ (s₀.start.enterStep 0)

section

variable {s₀ s : Machine} {n : ℕ}

theorem requestsOf_append (left right : List Effect) :
    requestsOf (left ++ right) = requestsOf left ++ requestsOf right := filterMap_append

theorem Charged.refl (s : Machine) : Charged s 0 s :=
  ⟨rfl, rfl, rfl, rfl, rfl, rfl, .inl ⟨rfl, rfl⟩⟩

theorem Spent.refl (s : Machine) : Spent s 0 s.start :=
  { Charged.refl s with least := rfl, low := rfl, requests := rfl }

section

variable (h : Spent s₀ n s)

include h

theorem Spent.putHigh (value : Limit) : Spent s₀ n (s.putHigh value) := by
  refine { h with requests := ?_ }
  change requestsOf (s.effects ++ [.wroteHigh s.cgroup.high value]) = _
  rw [requestsOf_append, h.requests]
  exact append_nil _

theorem Spent.forgetHigh : Spent s₀ n s.forgetHigh := { h with }

theorem Spent.saveHigh (current : Limit) : Spent s₀ n (s.saveHigh current) :=
  { h with }

theorem Spent.markHigh (target : ℕ) : Spent s₀ n (s.markHigh target) :=
  { h with }

theorem Spent.guardRefault (now : Float) (value drop : ℕ) :
    Spent s₀ n (s.guardRefault now value drop) := { h with }

theorem Spent.reportPreview : Spent s₀ n s.reportPreview := { h with }

theorem Spent.observeDrop (drop : ℕ) : Spent s₀ n (s.observeDrop drop) :=
  { h with }

theorem Spent.closePlan (reason : Reason) : Spent s₀ n (s.closePlan reason) :=
  { h with plan := .inr ⟨rfl, rfl⟩ }

end

theorem Spent.issued (h : Spent s₀ 0 s) (hn : n ≠ 0) : Spent s₀ n ((s.reserve n).request n) := by
  refine { h with reserved := ?_, requests := ?_ }
  · change s.reservedBytes + n = _
    rw [h.reserved, Nat.add_zero]
  · change requestsOf (s.effects ++ [.requested n]) = _
    rw [requestsOf_append, h.requests, if_neg hn]
    rfl

theorem Spent.requestOf_eq (h : Spent s₀ 0 s) (c : Setup) (active usage floor : ℕ) :
    requestOf c s active usage floor = requestOf c s₀ active usage floor := by
  unfold requestOf
  rw [h.lowBudget, h.budget, h.reserved, Nat.add_zero]

theorem Spent.issue (h : Spent s₀ 0 s) {c : Setup} {a : Answers} {now : Float}
    {result : LookupResult} {active usage floor : ℕ} (hlease : ¬ s₀.deadline ≤ now)
    (hresult : s₀.result = some result) (hactive : s₀.activeStep = some active)
    (husage : a .usage = .reads usage) (hfloor : stageFloor c result active = some floor)
    (hne : requestOf c s active usage (max floor (max s.cgroup.min.value s.cgroup.low.value)) ≠ 0) :
    Issue c a now s₀
      (requestOf c s active usage (max floor (max s.cgroup.min.value s.cgroup.low.value))) := by
  refine ⟨hlease, hne, result, active, usage, floor, hresult, hactive, husage, hfloor, ?_⟩
  rw [h.requestOf_eq, h.least, h.low]

end

section

variable (s₀ : Machine) (n : ℕ) (c : Setup) (a : Answers)

theorem restoreHigh_spent :
    ⦃fun s => ⌜Spent s₀ n s⌝⦄ restoreHigh a
    ⦃post⟨fun _ s => ⌜Spent s₀ n s⌝, fun _ s => ⌜Spent s₀ n s⌝⟩⦄ := by
  unfold restoreHigh readHigh writeHigh access checked
  mvcgen
  case vc5 => exact (Spent.putHigh ‹_› _).forgetHigh
  case vc6 => exact Spent.forgetHigh ‹_›

theorem stop_spent (reason : Reason) :
    ⦃fun s => ⌜Spent s₀ n s⌝⦄ stop a reason
    ⦃post⟨fun _ s => ⌜Spent s₀ n s⌝, fun _ s => ⌜Spent s₀ n s⌝⟩⦄ := by
  unfold stop
  have hrestore := restoreHigh_spent s₀ n a
  mvcgen [hrestore]
  exact Spent.closePlan ‹_› reason

theorem checkHighOwner_spent (site : Site) :
    ⦃fun s => ⌜Spent s₀ n s⌝⦄ checkHighOwner a site
    ⦃post⟨fun _ s => ⌜Spent s₀ n s⌝, fun _ s => ⌜Spent s₀ n s⌝⟩⦄ := by
  unfold checkHighOwner readHigh access
  mvcgen
  case vc3 => exact Spent.forgetHigh ‹_›

theorem setHigh_spent (target : ℕ) :
    ⦃fun s => ⌜Spent s₀ n s⌝⦄ setHigh a target
    ⦃post⟨fun _ s => ⌜Spent s₀ n s⌝, fun _ s => ⌜Spent s₀ n s⌝⟩⦄ := by
  unfold setHigh limit readHigh writeHigh access
  have hcheck := checkHighOwner_spent s₀ n a .ownerAgain
  mvcgen [hcheck]
  case vc7 => exact (Spent.saveHigh ‹_› _).markHigh target
  case vc8 => exact (((Spent.saveHigh ‹_› _).markHigh target).putHigh _).markHigh target
  case vc9 => exact (Spent.saveHigh ‹_› _).markHigh target

theorem refaultStop_spent (now : Float) :
    ⦃fun s => ⌜Spent s₀ n s⌝⦄ refaultStop c a now
    ⦃post⟨fun _ s => ⌜Spent s₀ n s⌝, fun _ s => ⌜Spent s₀ n s⌝⟩⦄ := by
  unfold refaultStop access
  mvcgen
  case vc2 | vc6 | vc7 => exact Spent.guardRefault ‹_› ..

theorem tickHigh_spent (result : LookupResult) (active : ℕ) :
    ⦃fun s => ⌜Spent s₀ n s⌝⦄ tickHigh c a result active
    ⦃post⟨fun _ s => ⌜Spent s₀ n s⌝, fun _ s => ⌜Spent s₀ n s⌝⟩⦄ := by
  unfold tickHigh checked
  have hset := setHigh_spent s₀ n a
  mvcgen [hset]

theorem reclaim_spent (active request usage floor : ℕ) (hrequest : request ≠ 0) :
    ⦃fun s => ⌜Spent s₀ 0 s⌝⦄ reclaim a active request usage floor
    ⦃post⟨fun _ s => ⌜Spent s₀ request s⌝, fun _ s => ⌜Spent s₀ request s⌝⟩⦄ := by
  unfold reclaim writeReclaim access
  have hstop := stop_spent s₀ request a
  mvcgen [hstop]
  case vc1 | vc4 | vc7 => exact Spent.issued ‹_› hrequest
  all_goals exact (Spent.issued ‹_› hrequest).observeDrop _

theorem tickReclaim_ticked (now : Float) (result : LookupResult) (active : ℕ)
    (hresult : s₀.result = some result) (hactive : s₀.activeStep = some active)
    (hlease : ¬ s₀.deadline ≤ now) :
    ⦃fun s => ⌜Spent s₀ 0 s⌝⦄ tickReclaim c a result active
    ⦃post⟨fun _ s => ⌜Ticked c a now s₀ s⌝, fun _ s => ⌜Ticked c a now s₀ s⌝⟩⦄ := by
  unfold tickReclaim checked limit access
  have hrestore := restoreHigh_spent s₀ 0 a
  have hstop := stop_spent s₀ 0 a
  have hreclaim := reclaim_spent s₀ a
  mvcgen [hrestore, hstop, hreclaim]
  case vc10 | vc16 => exact .inl
  case vc14 | vc15 =>
    have hissue := Spent.issue ‹Spent s₀ 0 _› hlease hresult hactive ‹_› ‹_› ‹_›
    first
      | exact .inr ⟨_, hissue, ‹_›⟩
      | exact fun h => .inr ⟨_, hissue, h⟩
  all_goals exact .inl ‹_›

theorem targets_spent (mode : Mode) (result : LookupResult) (active : ℕ) :
    ⦃fun s => ⌜Spent s₀ n s⌝⦄ targets c mode result active
    ⦃post⟨fun _ s => ⌜Spent s₀ n s⌝, fun _ s => ⌜Spent s₀ n s⌝⟩⦄ := by
  unfold targets checked
  mvcgen

theorem tickActive_ticked (now : Float) (result : LookupResult) (active : ℕ)
    (hresult : s₀.result = some result) (hactive : s₀.activeStep = some active)
    (hlease : ¬ s₀.deadline ≤ now) :
    ⦃fun s => ⌜Spent s₀ 0 s⌝⦄ tickActive c a now result active
    ⦃post⟨fun _ s => ⌜Ticked c a now s₀ s⌝, fun _ s => ⌜Ticked c a now s₀ s⌝⟩⦄ := by
  unfold tickActive access
  have htargets := targets_spent s₀ 0 c
  have howner := checkHighOwner_spent s₀ 0 a .owner
  have hrefault := refaultStop_spent s₀ 0 c a now
  have hstop := stop_spent s₀ 0 a
  have hhigh := tickHigh_spent s₀ 0 c a result active
  have hreclaim := tickReclaim_ticked s₀ c a now result active hresult hactive hlease
  mvcgen [htargets, howner, hrefault, hstop, hhigh, hreclaim]
  case vc2 => exact Spent.reportPreview ‹_›
  all_goals first
    | exact .inl ‹_›
    | exact .inl

theorem tick_ticked (now : Float) :
    ⦃fun s => ⌜s = s₀.start⌝⦄ tick c a now
    ⦃post⟨fun _ s => ⌜Ticked c a now s₀ s⌝, fun _ s => ⌜Ticked c a now s₀ s⌝⟩⦄ := by
  unfold tick
  have hstop := stop_spent s₀ 0 a
  have hactive := fun (result : LookupResult) (active : ℕ) =>
    tickActive_ticked s₀ c a now result active
  mvcgen [hstop, hactive]
  all_goals subst_vars
  case vc1 | vc5 => exact .inl (.refl s₀)
  case vc2 | vc9 => exact .refl s₀
  case vc3 => exact .inl ‹_›
  case vc4 => exact .inl
  all_goals assumption

theorem openBudget_opened (result : LookupResult) :
    ⦃fun s => ⌜s = s₀⌝⦄ openBudget c a result
    ⦃post⟨fun _ s => ⌜∃ usage floor, usageAt c a s₀.rss = some usage ∧
        openingFloor c result = some floor ∧ s = s₀.setBudget usage floor⌝,
      fun _ s => ⌜s = s₀⌝⟩⦄ := by
  unfold openBudget openingUsage checked access
  mvcgen
  all_goals subst_vars
  case vc3 | vc5 | vc7 | vc9 => refine ⟨_, _, ?_, ?_, rfl⟩ <;> simp [usageAt, openingFloor, *]

theorem stop_returned (reason : Reason) :
    ⦃fun s => ⌜Spent s₀ n s⌝⦄ stop a reason
    ⦃post⟨fun r s => ⌜r = .stopped reason ∧ Spent s₀ n s⌝, fun _ s => ⌜Spent s₀ n s⌝⟩⦄ := by
  unfold stop
  have hrestore := restoreHigh_spent s₀ n a
  mvcgen [hrestore]
  exact ⟨trivial, Spent.closePlan ‹Spent s₀ n _› reason⟩

theorem idle_of_next {s : Machine}
    (h : 0 = match s.activeStep with | none => 0 | some active => active + 1) :
    s.activeStep = none := by
  cases hactive : s.activeStep with
  | none => rfl
  | some active =>
    rw [hactive] at h
    cases h

theorem active_of_next {s : Machine} {step : ℕ}
    (h : step = match s.activeStep with | none => 0 | some active => active + 1) (hstep : step ≠ 0) :
    ∃ active, s.activeStep = some active ∧ step = active + 1 := by
  cases hactive : s.activeStep with
  | none =>
    rw [hactive] at h
    exact absurd h hstep
  | some active =>
    rw [hactive] at h
    exact ⟨active, rfl, h⟩

theorem enter_returned (generation step : ℕ) (now : Float) :
    ⦃fun s => ⌜s = s₀.start⌝⦄ enter c a generation step now
    ⦃post⟨fun r s => ⌜EnterReturned c a s₀ step r s⌝, fun _ s => ⌜EnterRaised s₀ s⌝⟩⦄ := by
  unfold enter checked
  have hstop := stop_returned s₀ 0 a
  have hbudget := fun (s : Machine) (result : LookupResult) => openBudget_opened s c a result
  mvcgen [hstop, hbudget]
  all_goals clear hstop hbudget
  all_goals subst_vars
  case vc1 | vc2 | vc6 | vc7 => exact .before (.refl s₀)
  case vc3 | vc8 => exact .refl s₀
  case vc4 | vc9 =>
    rintro rfl h
    exact .stopped h
  case vc5 | vc10 => exact .before
  case vc11 h =>
    obtain ⟨usage, floor, husage, hfloor, rfl⟩ := h
    exact .first ‹_› (idle_of_next (not_not.1 ‹¬ 0 ≠ _›)) husage hfloor
  case vc12 =>
    rintro rfl
    exact .within ‹_› (idle_of_next (not_not.1 ‹¬ 0 ≠ _›))
  case vc13 =>
    obtain ⟨active, hactive, rfl⟩ := active_of_next (not_not.1 ‹¬ step ≠ _›) ‹_›
    exact .next ‹_› hactive

def Planned (anchor : Anchor) (rss : ℕ) (predicted : Option LookupResult) (now : Float)
    (s : Machine) : Prop :=
  s₀.result = none ∧ anchor ∉ s₀.seen ∧ ∃ result decision, predicted = some result ∧
    s = s₀.start.openPlan anchor result rss decision (now + c.leaseSeconds)

theorem integer_eq {value minimum n : ℕ} (h : integer value minimum = some n) : n = value := by
  unfold integer at h
  split at h
  · exact (Option.some.inj h).symm
  · cases h

theorem forecast_planned (anchor : Anchor) (rssBytes : ℕ) (predicted : Option LookupResult)
    (now : Float) :
    ⦃fun s => ⌜s = s₀.start⌝⦄ forecast c anchor rssBytes predicted now
    ⦃post⟨fun r s => ⌜(∃ generation decision, r = .forecast generation decision) ∧
        Planned s₀ c anchor rssBytes predicted now s⌝,
      fun _ s => ⌜Spent s₀ 0 s⌝⟩⦄ := by
  unfold forecast checked
  mvcgen
  all_goals subst_vars
  case vc5 hrss result _ _ _ _ _ _ =>
    have hnone : s₀.result = none := Option.not_isSome_iff_eq_none.1 ‹_›
    obtain rfl := integer_eq hrss
    exact ⟨⟨_, _, rfl⟩, hnone, ‹_›, result, _, rfl, rfl⟩
  all_goals exact .refl s₀

end

abbrev CallTurn := Turn Machine Input Output

def planned (t : CallTurn) : Option Anchor :=
  match t.input, t.output.reply with
  | .handle (.forecast anchor _ _) _ _, .ok (some (.forecast ..)) => some anchor
  | _, _ => none

def opened (c : Setup) (t : CallTurn) : Option ℕ :=
  match t.input, t.output.reply with
  | .handle (.enter _ 0) _ a, .ok (some (.entered ..)) => usageAt c a t.before.rss
  | _, _ => none

inductive Moved (c : Setup) (t : CallTurn) : Machine → Prop
  | kept {s} (hplanned : planned t = none) (hopened : opened c t = none)
      (hrequests : requestsOf t.output.effects = []) (h : Charged t.before 0 s) : Moved c t s
  | issued {s n now a} (hinput : t.input = .tick now a) (hissue : Issue c a now t.before n)
      (hrequests : requestsOf t.output.effects = [n]) (h : Charged t.before n s) : Moved c t s
  | plan {s anchor rss predicted now a} (hinput : t.input = .handle (.forecast anchor rss predicted) now a)
      (hplanned : planned t = some anchor) (hopened : opened c t = none)
      (hrequests : requestsOf t.output.effects = [])
      (h : Planned t.before c anchor rss predicted now s) : Moved c t s
  | first {result usage floor} (hplanned : planned t = none) (hopened : opened c t = some usage)
      (hrequests : requestsOf t.output.effects = []) (hresult : t.before.result = some result)
      (hidle : t.before.activeStep = none) (hfloor : openingFloor c result = some floor) :
      Moved c t ((t.before.start.enterStep 0).setBudget usage floor)
  | unopened {result} (hplanned : planned t = none) (hopened : opened c t = none)
      (hrequests : requestsOf t.output.effects = []) (hresult : t.before.result = some result)
      (hidle : t.before.activeStep = none) :
      Moved c t (t.before.start.enterStep 0)
  | next {result active} (hplanned : planned t = none) (hopened : opened c t = none)
      (hrequests : requestsOf t.output.effects = []) (hresult : t.before.result = some result)
      (hactive : t.before.activeStep = some active) :
      Moved c t (t.before.start.enterStep (active + 1))

theorem requests_of_planned {s₀ s : Machine} {c : Setup} {anchor : Anchor} {rss : ℕ}
    {predicted : Option LookupResult} {now : Float} (h : Planned s₀ c anchor rss predicted now s) :
    requestsOf s.effects = [] := by
  obtain ⟨-, -, result, decision, -, rfl⟩ := h
  rfl

theorem handle_moved (c : Setup) (s : Machine) (event : Event) (now : Float) (a : Answers) :
    Moved c ⟨s, .handle event now a, (step c s (.handle event now a)).1⟩
      (step c s (.handle event now a)).2 := by
  have hstep : step c s (.handle event now a) =
      (⟨((handle c a event now).run.run s.start).1.map some,
        ((handle c a event now).run.run s.start).2.effects⟩,
        ((handle c a event now).run.run s.start).2) := by
    change perform _ _ = _
    unfold perform
    rw [run_map]
    rfl
  rw [hstep]
  cases hrun : (handle c a event now).run.run s.start with
  | mk r s' =>
    cases event with
    | stop =>
      have hspent : Spent s 0 s' := by
        have := run_keeps (stop_spent s 0 a .stopped) (.refl s)
        rwa [show (stop a .stopped).run.run s.start = (r, s') from hrun] at this
      exact .kept rfl rfl hspent.requests hspent.toCharged
    | forecast anchor rss predicted =>
      have hspec := forecast_planned s c anchor rss predicted now
      cases r with
      | ok record =>
        obtain ⟨⟨generation, decision, rfl⟩, hplanned⟩ := run_ok hspec rfl hrun
        exact .plan rfl rfl rfl (requests_of_planned hplanned) hplanned
      | error failure =>
        have hspent := run_error hspec rfl hrun
        exact .kept rfl rfl hspent.requests hspent.toCharged
    | enter generation step =>
      have hspec := enter_returned s c a generation step now
      cases r with
      | ok record =>
        cases run_ok hspec rfl hrun with
        | stopped h => exact .kept rfl (by cases step <;> rfl) h.requests h.toCharged
        | first hresult hidle husage hfloor =>
          exact .first rfl husage rfl hresult hidle hfloor
        | next hresult hactive => exact .next rfl rfl rfl hresult hactive
      | error failure =>
        cases run_error hspec rfl hrun with
        | before h => exact .kept rfl (by cases step <;> rfl) h.requests h.toCharged
        | within hresult hidle =>
          exact .unopened rfl (by cases step <;> rfl) rfl hresult hidle
    | other =>
      obtain ⟨rfl, rfl⟩ := Prod.mk.inj hrun
      exact .kept rfl rfl rfl (Spent.refl s).toCharged

theorem step_moved (c : Setup) (s : Machine) (i : Input) :
    Moved c ⟨s, i, (step c s i).1⟩ (step c s i).2 := by
  cases i with
  | handle event now a => exact handle_moved c s event now a
  | tick now a =>
    rcases run_keeps (tick_ticked s c a now) rfl with h | ⟨n, hissue, h⟩
    · exact .kept rfl rfl h.requests h.toCharged
    · refine .issued rfl hissue ?_ h.toCharged
      have hrequests := h.requests
      rw [if_neg hissue.pos] at hrequests
      exact hrequests
  | administratorHigh value => exact .kept rfl rfl rfl { Charged.refl s with }
  | administratorLimits most least low => exact .kept rfl rfl rfl { Charged.refl s with }

section

def requests (plan : List CallTurn) : List ℕ := plan.flatMap fun t => requestsOf t.output.effects

def lowRequests (plan : List CallTurn) : List ℕ :=
  requests (plan.filter fun t => t.before.activeStep = some 0)

structure Ledger (c : Setup) (rss : ℕ) (result : LookupResult) (deadline : Float)
    (plan : List CallTurn) (s : Machine) : Prop where
  rss_eq : s.rss = rss
  deadline_eq : s.deadline = deadline
  standing : s.result = some result ∨ s.result = none ∧ s.activeStep = none
  reserved : s.reservedBytes = (requests plan).sum
  within : s.reservedBytes ≤ s.budget
  low : (lowRequests plan).sum ≤ s.lowBudget
  nested : s.lowBudget ≤ s.budget
  first : s.activeStep = some 0 → (lowRequests plan).sum = s.reservedBytes
  closed : (∀ t ∈ plan, opened c t = none) → s.budget = 0
  idle : s.result = some result → s.activeStep = none → ∀ t ∈ plan, opened c t = none
  budgets : ∀ t ∈ plan, ∀ usage, opened c t = some usage → s.budget = min rss usage ∧
    ∃ floor, openingFloor c result = some floor ∧ s.lowBudget = min (min rss usage) (usage - floor)

variable {c : Setup} {rss : ℕ} {result : LookupResult} {deadline : Float} {plan : List CallTurn}
  {s : Machine} {t : CallTurn}

theorem requests_concat : requests (plan ++ [t]) = requests plan ++ requestsOf t.output.effects := by
  simp [requests]

theorem lowRequests_concat :
    lowRequests (plan ++ [t]) =
      lowRequests plan ++
        if t.before.activeStep = some 0 then requestsOf t.output.effects else [] := by
  unfold lowRequests
  rw [filter_append]
  split <;> simp [requests, *]

theorem Ledger.result_eq (h : Ledger c rss result deadline plan s) {found : LookupResult}
    (hfound : s.result = some found) : found = result := by
  rcases h.standing with hplan | ⟨hnone, -⟩
  · exact Option.some.inj (hfound.symm.trans hplan)
  · rw [hnone] at hfound
    cases hfound

theorem requestOf_le (c : Setup) (s : Machine) (active usage floor : ℕ) :
    requestOf c s active usage floor ≤
      min c.batchBytes (min ((if active = 0 then s.lowBudget else s.budget) - s.reservedBytes)
        (usage - floor)) := Nat.div_mul_le_self _ _

theorem opened_concat {usage : ℕ} (hopened : opened c t = none) {u : CallTurn}
    (hu : u ∈ plan ++ [t]) (husage : opened c u = some usage) : u ∈ plan := by
  rcases mem_append.1 hu with hu | hu
  · exact hu
  · rw [mem_singleton.1 hu, hopened] at husage
    cases husage

theorem Ledger.charge (h : Ledger c rss result deadline plan t.before) {n : ℕ} {s' : Machine}
    (hopened : opened c t = none) (hrequests : (requestsOf t.output.effects).sum = n)
    (hcharged : Charged t.before n s') (hwithin : t.before.reservedBytes + n ≤ t.before.budget)
    (hlow : t.before.activeStep = some 0 → t.before.reservedBytes + n ≤ t.before.lowBudget) :
    Ledger c rss result deadline (plan ++ [t]) s' where
  rss_eq := hcharged.rss.trans h.rss_eq
  deadline_eq := hcharged.deadline.trans h.deadline_eq
  standing := by
    rcases hcharged.plan with ⟨hresult, hactive⟩ | hclosed
    · rw [hresult, hactive]
      exact h.standing
    · exact .inr hclosed
  reserved := by
    rw [hcharged.reserved, h.reserved, requests_concat, sum_append, hrequests]
  within := by
    rw [hcharged.reserved, hcharged.budget]
    exact hwithin
  low := by
    rw [lowRequests_concat, sum_append, hcharged.lowBudget]
    by_cases hactive : t.before.activeStep = some 0
    · rw [if_pos hactive, hrequests, h.first hactive]
      exact hlow hactive
    · rw [if_neg hactive]
      exact h.low
  nested := by
    rw [hcharged.lowBudget, hcharged.budget]
    exact h.nested
  first := by
    intro hfirst
    rcases hcharged.plan with ⟨-, hactive⟩ | ⟨-, hclosed⟩
    · rw [hactive] at hfirst
      rw [lowRequests_concat, if_pos hfirst, sum_append, h.first hfirst, hrequests,
        hcharged.reserved]
    · rw [hclosed] at hfirst
      cases hfirst
  closed := by
    intro hall
    rw [hcharged.budget]
    exact h.closed fun u hu => hall u (mem_append_left _ hu)
  idle := by
    intro hresult hactive u hu
    rcases hcharged.plan with ⟨hresult', hactive'⟩ | ⟨hnone, -⟩
    · rcases mem_append.1 hu with hu | hu
      · exact h.idle (hresult' ▸ hresult) (hactive' ▸ hactive) u hu
      · rw [mem_singleton.1 hu]
        exact hopened
    · rw [hnone] at hresult
      cases hresult
  budgets := by
    intro u hu usage husage
    rw [hcharged.budget, hcharged.lowBudget]
    exact h.budgets u (opened_concat hopened hu husage) usage husage

theorem Ledger.empty (h : Ledger c rss result deadline plan s) (hbudget : s.budget = 0) :
    s.reservedBytes = 0 ∧ (lowRequests plan).sum = 0 := by
  have hwithin := h.within
  have hlow := h.low
  have hnested := h.nested
  omega

variable (h : Ledger c rss result deadline plan t.before)

include h

theorem Ledger.enterStep (step : ℕ) (hopened : opened c t = none)
    (hrequests : requestsOf t.output.effects = []) (hresult : t.before.result = some result)
    (hstep : step = 0 → t.before.budget = 0) :
    Ledger c rss result deadline (plan ++ [t]) (t.before.start.enterStep step) where
  rss_eq := h.rss_eq
  deadline_eq := h.deadline_eq
  standing := .inl hresult
  reserved := by
    rw [requests_concat, hrequests, append_nil]
    exact h.reserved
  within := h.within
  low := by
    rw [lowRequests_concat, hrequests, ite_self, append_nil]
    exact h.low
  nested := h.nested
  first := by
    intro hfirst
    obtain ⟨hreserved, hlow⟩ := h.empty (hstep (Option.some.inj hfirst))
    rw [lowRequests_concat, hrequests, ite_self, append_nil, hlow]
    exact hreserved.symm
  closed := fun hall => h.closed fun u hu => hall u (mem_append_left _ hu)
  idle := nofun
  budgets := fun u hu usage husage => h.budgets u (opened_concat hopened hu husage) usage husage

theorem Ledger.openFirst {usage floor : ℕ} (hopened : opened c t = some usage)
    (hrequests : requestsOf t.output.effects = []) (hresult : t.before.result = some result)
    (hidle : t.before.activeStep = none) (hfloor : openingFloor c result = some floor) :
    Ledger c rss result deadline (plan ++ [t])
      ((t.before.start.enterStep 0).setBudget usage floor) := by
  have hnone := h.idle hresult hidle
  obtain ⟨hreserved, hlow⟩ := h.empty (h.closed hnone)
  have hlow' : (lowRequests (plan ++ [t])).sum = 0 := by
    rw [lowRequests_concat, hrequests, ite_self, append_nil, hlow]
  refine ⟨h.rss_eq, h.deadline_eq, .inl hresult, ?_, ?_, ?_, ?_, fun _ => ?_, ?_, nofun, ?_⟩
  · rw [requests_concat, hrequests, append_nil]
    exact h.reserved
  · change t.before.reservedBytes ≤ _
    rw [hreserved]
    exact Nat.zero_le _
  · rw [hlow']
    exact Nat.zero_le _
  · exact min_le_left _ _
  · rw [hlow']
    exact hreserved.symm
  · intro hall
    have hopened' := hall t (mem_append_right _ (mem_singleton_self t))
    rw [hopened] at hopened'
    cases hopened'
  · intro u hu usage' husage
    rcases mem_append.1 hu with hu | hu
    · rw [hnone u hu] at husage
      cases husage
    · rw [mem_singleton.1 hu, hopened] at husage
      cases husage
      refine ⟨?_, floor, hfloor, ?_⟩
      · change min t.before.rss usage = _
        rw [h.rss_eq]
      · change min (min t.before.rss usage) (usage - floor) = _
        rw [h.rss_eq]

theorem Ledger.step (hplanned : planned t = none) {s' : Machine} (hmoved : Moved c t s') :
    Ledger c rss result deadline (plan ++ [t]) s' := by
  cases hmoved with
  | kept _ hopened hrequests hcharged =>
    refine h.charge hopened (by rw [hrequests]; rfl) hcharged h.within fun hfirst => ?_
    rw [← h.first hfirst]
    exact h.low
  | @issued _ n now a hinput hissue hrequests hcharged =>
    obtain ⟨-, hpos, found, active, usage, floor, -, hactive, -, -, hn⟩ := hissue
    have hle := requestOf_le c t.before active usage
      (max floor (max t.before.cgroup.min.value t.before.cgroup.low.value))
    have hnested := h.nested
    have hopened : opened c t = none := by
      unfold opened
      rw [hinput]
    rw [← hn] at hle
    refine h.charge hopened (by rw [hrequests, sum_singleton]) hcharged ?_ fun hfirst => ?_
    · split at hle <;> omega
    · rw [hactive] at hfirst
      rw [if_pos (Option.some.inj hfirst)] at hle
      omega
  | plan _ hplanned' => rw [hplanned'] at hplanned; cases hplanned
  | first _ hopened hrequests hresult hidle hfloor =>
    obtain rfl := h.result_eq hresult
    exact h.openFirst hopened hrequests hresult hidle hfloor
  | unopened _ hopened hrequests hresult hidle =>
    obtain rfl := h.result_eq hresult
    exact h.enterStep 0 hopened hrequests hresult fun _ => h.closed (h.idle hresult hidle)
  | next _ hopened hrequests hresult _ =>
    obtain rfl := h.result_eq hresult
    exact h.enterStep _ hopened hrequests hresult nofun

end

structure RequestLaw (c : Setup) (result : LookupResult) (deadline : Float) (t : CallTurn) (n : ℕ) :
    Prop where
  page : c.pageSize ∣ n
  batch : n ≤ c.batchBytes
  call : ∃ now a active usage floor, t.input = .tick now a ∧ ¬ deadline ≤ now ∧
    t.before.activeStep = some active ∧ stageFloor c result active = some floor ∧
    a .usage = .reads usage ∧
    n + max floor (max t.before.cgroup.min.value t.before.cgroup.low.value) ≤ usage

structure PlanLaws (c : Setup) (rss : ℕ) (result : LookupResult) (deadline : Float)
    (plan : List CallTurn) : Prop where
  request : ∀ t ∈ plan, ∀ n ∈ requestsOf t.output.effects, RequestLaw c result deadline t n
  entered : ∀ left t right, plan = left ++ t :: right → requestsOf t.output.effects ≠ [] →
    ∃ u ∈ left, opened c u ≠ none
  total : ∀ t ∈ plan, ∀ usage, opened c t = some usage → (requests plan).sum ≤ min rss usage
  low : ∀ t ∈ plan, ∀ usage target, opened c t = some usage → stageFloor c result 0 = some target →
    (lowRequests plan).sum ≤ usage - target

/-- The memory.reclaim requests of a session, by the forecasts it accepted. -/
structure ReclaimLaws (c : Setup) (g : Cgroup) (inputs : List Input) : Prop where
  anchors : ((turns (step c) { cgroup := g } inputs).filterMap planned).Nodup
  unplanned : (∀ t ∈ turns (step c) { cgroup := g } inputs, planned t = none) →
    requests (turns (step c) { cgroup := g } inputs) = []
  plan : ∀ left anchor rss predicted now a later,
    inputs = left ++ .handle (.forecast anchor rss predicted) now a :: later →
    let s := after (step c) { cgroup := g } left
    let r := step c s (.handle (.forecast anchor rss predicted) now a)
    planned ⟨s, .handle (.forecast anchor rss predicted) now a, r.1⟩ = some anchor →
    (∀ t ∈ turns (step c) r.2 later, planned t = none) →
    ∃ result, predicted = some result ∧
      PlanLaws c rss result (now + c.leaseSeconds) (turns (step c) r.2 later)

section

variable {c : Setup} {rss : ℕ} {result : LookupResult} {deadline : Float} {s : Machine}

theorem run_ledger (h : Ledger c rss result deadline [] s) (inputs : List Input)
    (hplanned : ∀ t ∈ turns (step c) s inputs, planned t = none) :
    Ledger c rss result deadline (turns (step c) s inputs) (after (step c) s inputs) := by
  induction inputs using List.reverseRecOn with
  | nil => exact h
  | append_singleton inputs i ih =>
    rw [turns_concat] at hplanned ⊢
    rw [after_concat]
    have hledger := ih fun t ht => hplanned t (mem_append_left _ ht)
    exact hledger.step (t := ⟨_, i, _⟩)
      (hplanned _ (mem_append_right _ (mem_singleton_self _))) (step_moved c _ i)

theorem turn_ledger (h : Ledger c rss result deadline [] s) {inputs : List Input}
    (hplanned : ∀ t ∈ turns (step c) s inputs, planned t = none) {left right : List CallTurn}
    {t : CallTurn} (hsplit : turns (step c) s inputs = left ++ t :: right) :
    Ledger c rss result deadline left t.before ∧ ∃ s', Moved c t s' := by
  obtain ⟨before, i, rest, rfl, rfl, rfl⟩ := turns_split (step c) hsplit
  refine ⟨run_ledger h before fun t ht => hplanned t ?_, _, step_moved c _ i⟩
  rw [hsplit]
  exact mem_append_left _ ht

variable {s' : Machine}

theorem issue_of_requests {t : CallTurn} (hmoved : Moved c t s')
    (hrequests : requestsOf t.output.effects ≠ []) :
    ∃ now a n, t.input = .tick now a ∧ Issue c a now t.before n ∧
      requestsOf t.output.effects = [n] := by
  cases hmoved with
  | issued hinput hissue hn => exact ⟨_, _, _, hinput, hissue, hn⟩
  | kept _ _ hnone => exact absurd hnone hrequests
  | plan _ _ _ hnone => exact absurd hnone hrequests
  | first _ _ hnone => exact absurd hnone hrequests
  | unopened _ _ hnone => exact absurd hnone hrequests
  | next _ _ hnone => exact absurd hnone hrequests

theorem Ledger.requestLaw {plan : List CallTurn} {t : CallTurn} {now : Float} {a : Answers} {n : ℕ}
    (h : Ledger c rss result deadline plan t.before) (hinput : t.input = .tick now a)
    (hissue : Issue c a now t.before n) : RequestLaw c result deadline t n := by
  obtain ⟨hlease, hpos, found, active, usage, floor, hfound, hactive, husage, hfloor, hn⟩ := hissue
  obtain rfl := h.result_eq hfound
  have hle := requestOf_le c t.before active usage
    (max floor (max t.before.cgroup.min.value t.before.cgroup.low.value))
  rw [← hn] at hle
  rw [h.deadline_eq] at hlease
  refine ⟨hn ▸ Nat.dvd_mul_left _ _, by omega, now, a, active, usage, floor, hinput, hlease,
    hactive, hfloor, husage, by omega⟩

theorem Ledger.opened_before {plan : List CallTurn} {t : CallTurn} {now : Float} {a : Answers}
    {n : ℕ} (h : Ledger c rss result deadline plan t.before) (hissue : Issue c a now t.before n) :
    ∃ u ∈ plan, opened c u ≠ none := by
  obtain ⟨-, hpos, -, active, usage, floor, -, -, -, -, hn⟩ := hissue
  have hle := requestOf_le c t.before active usage
    (max floor (max t.before.cgroup.min.value t.before.cgroup.low.value))
  rw [← hn] at hle
  have hnested := h.nested
  by_contra hnone
  have hbudget := h.closed fun u hu => by_contra fun hopened => hnone ⟨u, hu, hopened⟩
  split at hle <;> omega

theorem openingFloor_eq {target : ℕ} (h : stageFloor c result 0 = some target) :
    openingFloor c result = some target := by
  unfold stageFloor at h
  unfold openingFloor
  rw [if_pos rfl] at h
  cases hfirst : result.wssBytes.head? with
  | none =>
    rw [hfirst] at h
    cases h
  | some first =>
    rw [hfirst] at h
    change highTarget first c.pageSize = some target at h
    change (if first = 0 then some 0 else highTarget first c.pageSize) = some target
    by_cases hzero : first = 0
    · rw [hzero] at h
      cases h
    · rw [if_neg hzero, h]

theorem run_plan (h : Ledger c rss result deadline [] s) {inputs : List Input}
    (hplanned : ∀ t ∈ turns (step c) s inputs, planned t = none) :
    PlanLaws c rss result deadline (turns (step c) s inputs) := by
  have hledger := run_ledger h inputs hplanned
  refine ⟨fun t ht n hn => ?_, fun left t right hsplit hrequests => ?_,
    fun t ht usage husage => ?_, fun t ht usage target husage htarget => ?_⟩
  · obtain ⟨left, right, hsplit⟩ := append_of_mem ht
    obtain ⟨hbefore, s', hmoved⟩ := turn_ledger h hplanned hsplit
    obtain ⟨now, a, m, hinput, hissue, hm⟩ := issue_of_requests hmoved (ne_nil_of_mem hn)
    rw [hm, mem_singleton] at hn
    rw [hn]
    exact hbefore.requestLaw hinput hissue
  · obtain ⟨hbefore, s', hmoved⟩ := turn_ledger h hplanned hsplit
    obtain ⟨now, a, n, -, hissue, -⟩ := issue_of_requests hmoved hrequests
    exact hbefore.opened_before hissue
  · rw [← hledger.reserved, ← (hledger.budgets t ht usage husage).1]
    exact hledger.within
  · obtain ⟨-, floor, hfloor, hlow⟩ := hledger.budgets t ht usage husage
    rw [openingFloor_eq htarget] at hfloor
    cases hfloor
    exact (hledger.low.trans_eq hlow).trans (min_le_right _ _)

theorem openPlan_ledger (s : Machine) (anchor : Anchor) (decision : Decision) (rss : ℕ)
    (result : LookupResult) (deadline : Float) :
    Ledger c rss result deadline [] (s.openPlan anchor result rss decision deadline) where
  rss_eq := rfl
  deadline_eq := rfl
  standing := .inl rfl
  reserved := rfl
  within := le_rfl
  low := le_rfl
  nested := le_rfl
  first := fun _ => rfl
  closed := fun _ => rfl
  idle := fun _ _ _ hu => (not_mem_nil hu).elim
  budgets := fun _ hu => (not_mem_nil hu).elim

theorem Moved.ledger {t : CallTurn} {anchor : Anchor} {predicted : Option LookupResult}
    {now : Float} {a : Answers} (h : Moved c t s')
    (hinput : t.input = .handle (.forecast anchor rss predicted) now a)
    (hanchor : planned t = some anchor) :
    ∃ result, predicted = some result ∧ Ledger c rss result (now + c.leaseSeconds) [] s' := by
  cases h with
  | plan hinput' _ _ _ hplanned =>
    rw [hinput] at hinput'
    cases hinput'
    obtain ⟨-, -, result, decision, hpredicted, rfl⟩ := hplanned
    exact ⟨result, hpredicted, openPlan_ledger _ anchor decision rss result _⟩
  | issued hinput' =>
    rw [hinput] at hinput'
    cases hinput'
  | kept hnone | first hnone | unopened hnone | next hnone =>
    rw [hnone] at hanchor
    cases hanchor

theorem Moved.unplanned {t : CallTurn} (h : Moved c t s') (hplanned : planned t = none)
    (hnone : t.before.result = none) : requestsOf t.output.effects = [] ∧ s'.result = none := by
  cases h with
  | kept _ _ hrequests hcharged =>
    refine ⟨hrequests, ?_⟩
    rcases hcharged.plan with ⟨hkept, -⟩ | ⟨hclosed, -⟩
    · exact hkept.trans hnone
    · exact hclosed
  | issued _ hissue =>
    obtain ⟨-, -, result, -, -, -, hsome, -⟩ := hissue
    rw [hnone] at hsome
    cases hsome
  | plan _ hanchor =>
    rw [hplanned] at hanchor
    cases hanchor
  | first _ _ _ hsome | unopened _ _ _ hsome | next _ _ _ hsome =>
    rw [hnone] at hsome
    cases hsome

theorem run_unplanned (hs : s.result = none) (inputs : List Input)
    (hplanned : ∀ t ∈ turns (step c) s inputs, planned t = none) :
    requests (turns (step c) s inputs) = [] ∧ (after (step c) s inputs).result = none := by
  induction inputs using List.reverseRecOn with
  | nil => exact ⟨rfl, hs⟩
  | append_singleton inputs i ih =>
    rw [turns_concat] at hplanned ⊢
    rw [after_concat, requests_concat]
    obtain ⟨hrequests, hresult⟩ := ih fun t ht => hplanned t (mem_append_left _ ht)
    have hlast := hplanned _ (mem_append_right _ (mem_singleton_self _))
    rw [hrequests, nil_append]
    exact (step_moved c (after (step c) s inputs) i).unplanned hlast hresult

theorem Moved.anchor {t : CallTurn} (h : Moved c t s') {anchors : List Anchor}
    (hnodup : anchors.Nodup) (hseen : ∀ anchor ∈ anchors, anchor ∈ t.before.seen) :
    (anchors ++ (planned t).toList).Nodup ∧
      ∀ anchor ∈ anchors ++ (planned t).toList, anchor ∈ s'.seen := by
  cases h with
  | kept hplanned _ _ hcharged =>
    rw [hplanned, Option.toList_none, append_nil, hcharged.seen]
    exact ⟨hnodup, hseen⟩
  | issued hinput _ _ hcharged =>
    have hplanned : planned t = none := by
      unfold planned
      rw [hinput]
    rw [hplanned, Option.toList_none, append_nil, hcharged.seen]
    exact ⟨hnodup, hseen⟩
  | plan _ hplanned _ _ h =>
    obtain ⟨-, hfresh, result, decision, -, rfl⟩ := h
    rw [hplanned, Option.toList_some]
    rw [← concat_eq_append]
    refine ⟨hnodup.concat fun hmem => hfresh (hseen _ hmem), fun anchor hmem => ?_⟩
    rw [concat_eq_append] at hmem
    rcases mem_append.1 hmem with hold | hnew
    · exact mem_cons_of_mem _ (hseen anchor hold)
    · rw [mem_singleton.1 hnew]
      exact mem_cons_self
  | first hplanned | unopened hplanned | next hplanned =>
    rw [hplanned, Option.toList_none, append_nil]
    exact ⟨hnodup, hseen⟩

theorem filterMap_planned (t : CallTurn) : [t].filterMap planned = (planned t).toList := by
  cases hplanned : planned t <;> simp [hplanned]

theorem run_anchors (g : Cgroup) (inputs : List Input) :
    ((turns (step c) { cgroup := g } inputs).filterMap planned).Nodup ∧
      ∀ anchor ∈ (turns (step c) { cgroup := g } inputs).filterMap planned,
        anchor ∈ (after (step c) { cgroup := g } inputs).seen := by
  induction inputs using List.reverseRecOn with
  | nil => exact ⟨nodup_nil, fun _ hmem => (not_mem_nil hmem).elim⟩
  | append_singleton inputs i ih =>
    rw [turns_concat, after_concat, filterMap_append, filterMap_planned]
    exact (step_moved c _ i).anchor ih.1 ih.2

/-- The reclaim budget: every request is lawful and within its plan's budgets. -/
theorem reclaim_within_budget (c : Setup) (g : Cgroup) (inputs : List Input) :
    ReclaimLaws c g inputs where
  anchors := (run_anchors g inputs).1
  unplanned := fun hplanned => (run_unplanned rfl inputs hplanned).1
  plan := by
    intro left anchor rss predicted now a later _ s r hanchor hplanned
    obtain ⟨result, hpredicted, hledger⟩ := (handle_moved c s _ now a).ledger rfl hanchor
    exact ⟨result, hpredicted, run_plan hledger hplanned⟩

/-- A valley of 100 MiB in 400 MiB gives a batch back on each tick. -/
example :
    requests (turns (step trialSetup) { cgroup := openCgroup }
      [.handle (.forecast ⟨"gimp", 1, 1, 8⟩ (500 * mebibyte)
          (some ⟨[100 * mebibyte, 200 * mebibyte, 200 * mebibyte], [9, 0, 0]⟩)) 0 fun _ => .reads 0,
        .handle (.enter 1 0) 0 fun _ => .reads (400 * mebibyte),
        .tick 0.5 fun _ => .reads (400 * mebibyte),
        .tick 1.0 fun _ => .reads (399 * mebibyte)]) = [mebibyte, mebibyte] := by
  decide +kernel

end

end Parp.OperationController
