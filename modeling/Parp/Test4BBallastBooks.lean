import Mathlib.Algebra.Order.BigOperators.Group.Finset
import Parp.Test4BBallast

set_option autoImplicit false

namespace Parp.Test4BBallast

open TransitionRuns List

variable {App : Type} [DecidableEq App] {cfg : Config App}

def Targeted (cfg : Config App) (app : App) : Call App → Prop
  | .observeEvent event foreground bindReady readings =>
    (event.eventType = .appOpen ∨ event.eventType = .appSwitch) ∧
      InPlace cfg app foreground bindReady readings
  | .tick foreground bindReady readings => InPlace cfg app foreground bindReady readings
  | .markReclaimed _ => False

def AllOrNone (cfg : Config App) (app : App) (r : Round) : Prop :=
  (∀ i < workerCount cfg app, r.fate i = .answered ∧ r.works i = true) ∨
    ∀ i < workerCount cfg app, r.fate i = .dropped ∨ r.works i = false

/-- A round of `ALLOCATE` to the call's foreground application settles for all of its workers. -/
def Settled (cfg : Config App) : Call App → Prop
  | .observeEvent _ foreground _ readings => ∀ app ∈ foreground, AllOrNone cfg app readings.allocate
  | .tick foreground _ readings => ∀ app ∈ foreground, AllOrNone cfg app readings.allocate
  | .markReclaimed _ => True

def foregroundAfter (cfg : Config App) (s : System App) : Call App → Option App
  | .observeEvent event foreground _ _ =>
    match event.eventType with
    | .appOpen => known cfg foreground
    | .appSwitch => known cfg foreground
    | _ => s.currentForeground
  | .tick foreground _ _ => known cfg foreground
  | .markReclaimed _ => s.currentForeground

def called (cfg : Config App) (s : System App) (call : Call App) : System App :=
  { s with sent := [], currentForeground := foregroundAfter cfg s call }

section

variable {s s' before : System App} {app : App} {readings : Readings}

theorem Allocates.of_quiet {s₀ : System App} (h : Allocates cfg s app readings before s')
    (hquiet : Quiet s₀ s) : Allocates cfg s₀ app readings before s' where
  quiet := hquiet.trans h.quiet
  free := hquiet.allocated ▸ h.free
  budget := hquiet.allocated ▸ h.budget
  active := h.active
  after := h.after

omit [DecidableEq App] in
theorem known_eq [DecidableEq App] {foreground : Option App}
    (h : known cfg foreground = some app) : foreground = some app :=
  (Option.filter_eq_some_iff.1 h).1

variable (hevent : cfg.externalPreallocated = false)

include hevent

theorem foregroundEntered_cases (s : System App) (current : App) (bindReady : List App)
    (readings : Readings) :
    Quiet s (foregroundEntered cfg s current bindReady readings) ∨
      (InPlace cfg current s.currentForeground bindReady readings ∧
        ∃ before, Allocates cfg s current readings before
          (foregroundEntered cfg s current bindReady readings)) := by
  unfold foregroundEntered
  dsimp only
  have hreturned : Quiet s (if current ∈ s.reclaimed then
      { reaccess cfg s current readings with
        reclaimed := (reaccess cfg s current readings).reclaimed.erase current }
      else s) := by
    split_ifs
    · have hquiet := reaccess_quiet cfg s current readings
      exact ⟨hquiet.allocated, hquiet.flags, hquiet.foreground, hquiet.sent⟩
    · exact .refl s
  generalize (if current ∈ s.reclaimed then _ else s) = returned at hreturned ⊢
  split_ifs
  · exact .inl (hreturned.trans (enterForeground_quiet _ current readings))
  · rcases foregroundAllocateIfSafe_cases hevent returned current bindReady readings with
      hquiet | ⟨hplace, before, hallocates⟩
    · exact .inl (hreturned.trans hquiet)
    · exact .inr ⟨hreturned.foreground ▸ hplace, before, hallocates.of_quiet hreturned⟩

theorem switched_cases (s : System App) (oldApp foreground : Option App) (bindReady : List App)
    (readings : Readings) :
    Quiet { s with currentForeground := known cfg foreground }
        (switched cfg s oldApp foreground bindReady readings) ∨
      ∃ app, InPlace cfg app foreground bindReady readings ∧
        ∃ before, Allocates cfg { s with currentForeground := known cfg foreground } app readings
          before (switched cfg s oldApp foreground bindReady readings) := by
  unfold switched
  dsimp only
  have hleft : Quiet { s with currentForeground := known cfg foreground }
      (if oldApp ≠ known cfg foreground then
        enterBackgroundOf cfg { s with currentForeground := known cfg foreground } oldApp readings
      else { s with currentForeground := known cfg foreground }) := by
    by_cases hold : oldApp ≠ known cfg foreground
    · rw [if_pos hold]
      exact enterBackgroundOf_quiet hevent _ oldApp readings
    · rw [if_neg hold]
      exact .refl _
  generalize (if oldApp ≠ known cfg foreground then _ else _ : System App) = left at hleft ⊢
  have hforeground : left.currentForeground = known cfg foreground := hleft.foreground
  cases hcurrent : left.currentForeground with
  | none => exact .inl hleft
  | some current =>
    rcases foregroundEntered_cases hevent left current bindReady readings with
      hquiet | ⟨hplace, before, hallocates⟩
    · exact .inl (hleft.trans hquiet)
    · refine .inr ⟨current, ?_, before, hallocates.of_quiet hleft⟩
      exact { hplace with foreground := known_eq (hforeground.symm.trans hcurrent) }

theorem tick_cases (s : System App) (foreground : Option App) (bindReady : List App)
    (readings : Readings) :
    Quiet { s with currentForeground := known cfg foreground }
        (tick cfg s foreground bindReady readings) ∨
      ∃ app, InPlace cfg app foreground bindReady readings ∧
        ∃ before, Allocates cfg { s with currentForeground := known cfg foreground } app readings
          before (tick cfg s foreground bindReady readings) := by
  unfold tick
  dsimp only
  cases hcurrent : known cfg foreground with
  | none => exact .inl (.refl _)
  | some current =>
    dsimp only
    by_cases hfree : current ∉ s.allocated
    · rw [if_pos hfree]
      rcases foregroundAllocateIfSafe_cases hevent
        { s with currentForeground := some current } current bindReady readings with
        hquiet | ⟨hplace, before, hallocates⟩
      · exact .inl hquiet
      · exact .inr ⟨current, { hplace with foreground := known_eq hcurrent }, before, hallocates⟩
    · rw [if_neg hfree]
      exact .inl (.refl _)

theorem step_cases (s : System App) (call : Call App) :
    Quiet (called cfg s call) (coordinatorStep cfg s call).2 ∨
      ∃ app readings before, Targeted cfg app call ∧
        (Settled cfg call → AllOrNone cfg app readings.allocate) ∧
        Allocates cfg (called cfg s call) app readings before (coordinatorStep cfg s call).2 := by
  cases call with
  | observeEvent event foreground bindReady readings =>
    obtain ⟨eventType, oldApp, app⟩ := event
    have hswitched := switched_cases hevent { s with sent := [] } oldApp foreground bindReady
      readings
    have happ := enterBackgroundOf_quiet hevent { s with sent := [] } app readings
    cases eventType with
    | appOpen =>
      rcases hswitched with hquiet | ⟨app, hplace, before, hallocates⟩
      · exact .inl hquiet
      · exact .inr ⟨app, readings, before, ⟨.inl rfl, hplace⟩,
          fun hsettled => hsettled app hplace.foreground, hallocates⟩
    | appSwitch =>
      rcases hswitched with hquiet | ⟨app, hplace, before, hallocates⟩
      · exact .inl hquiet
      · exact .inr ⟨app, readings, before, ⟨.inr rfl, hplace⟩,
          fun hsettled => hsettled app hplace.foreground, hallocates⟩
    | appMinimize => exact .inl happ
    | appClose => exact .inl happ
    | other => exact .inl (.refl _)
  | tick foreground bindReady readings =>
    rcases tick_cases hevent { s with sent := [] } foreground bindReady readings with
      hquiet | ⟨app, hplace, before, hallocates⟩
    · exact .inl hquiet
    · exact .inr ⟨app, readings, before, hplace,
        fun hsettled => hsettled app hplace.foreground, hallocates⟩
  | markReclaimed app =>
    left
    change Quiet _ (markReclaimed { s with sent := [] } app)
    unfold markReclaimed
    split_ifs
    · exact ⟨rfl, fun _ _ => rfl, rfl, [], rfl, by simp⟩
    · exact .refl _

end

section

variable {s s' before : System App} {app : App} {readings : Readings}

/-- The `ALLOCATE` of a worker that it took. -/
def taken (app : App) (i : ℕ) (e : Sent App) : Bool :=
  decide (e.app = app ∧ e.worker = i ∧ e.command = .allocate ∧ e.success = true)

theorem countP_range (P : ℕ → Bool) (i n : ℕ) :
    (List.range n).countP (fun j => decide (j = i) && P j) = if i < n ∧ P i = true then 1 else 0 := by
  induction n with
  | zero => simp
  | succ n ih =>
    rw [range_succ, countP_append, ih, countP_singleton]
    by_cases heq : n = i
    · subst heq
      simp
    · by_cases hlt : i < n
      · simp [heq, hlt, Nat.lt_succ_of_lt hlt]
      · have hbeyond : ¬ i < n + 1 := by omega
        simp [heq, hlt, hbeyond]

theorem executed_flag (r : Round) (i : ℕ) (b : Worker) :
    (executed r .allocate i b).2.allocated.toNat =
      b.allocated.toNat + (executed r .allocate i b).1.toNat := by
  unfold executed
  split_ifs
  · rfl
  · change (allocate b (r.works i)).2.allocated.toNat =
      b.allocated.toNat + (allocate b (r.works i)).1.toNat
    rcases allocate_flag b (r.works i) with ⟨hok, hoff, hon⟩ | ⟨hok, hsame⟩
    · rw [hok, hoff, hon]
      rfl
    · rw [hok, hsame]
      rfl

variable (cfg) in
theorem round_count (s : System App) (app other : App) (r : Round) (i : ℕ) :
    ((workerCommand cfg s app .allocate r).2.workers other i).allocated.toNat +
        s.sent.countP (taken other i) =
      (s.workers other i).allocated.toNat +
        (workerCommand cfg s app .allocate r).2.sent.countP (taken other i) := by
  change (Function.update s.workers app _ other i).allocated.toNat + _ =
    _ + (s.sent ++ (List.range (workerCount cfg app)).map _).countP (taken other i)
  rw [countP_append, countP_map]
  by_cases heq : other = app
  · subst heq
    have hcount := countP_range (fun j => (executed r .allocate j (s.workers other j)).1) i
      (workerCount cfg other)
    have hcomp : (taken other i ∘ fun j =>
        (⟨other, j, .allocate, (executed r .allocate j (s.workers other j)).1⟩ : Sent App)) =
        fun j => decide (j = i) && (executed r .allocate j (s.workers other j)).1 := by
      funext j
      simp [taken]
    rw [hcomp, hcount, Function.update_self]
    have hflag := executed_flag r i (s.workers other i)
    by_cases hlt : i < workerCount cfg other
    · rw [if_pos hlt, hflag]
      cases (executed r .allocate i (s.workers other i)).1
      · simp
      · simp [hlt]
        omega
    · simp [hlt]
  · have hnone : (taken other i ∘ fun j =>
        (⟨app, j, .allocate, (executed r .allocate j (s.workers app j)).1⟩ : Sent App)) =
        fun _ => false := by
      funext j
      simp [taken, Ne.symm heq]
    rw [Function.update_of_ne heq, hnone]
    simp

omit [DecidableEq App] in
theorem Quiet.count [DecidableEq App] (h : Quiet s s') (app : App) (i : ℕ) :
    (s'.workers app i).allocated.toNat + s.sent.countP (taken app i) =
      (s.workers app i).allocated.toNat + s'.sent.countP (taken app i) := by
  obtain ⟨more, hmore, hother⟩ := h.sent
  have hnone : more.countP (taken app i) = 0 := by
    rw [countP_eq_zero]
    intro e he
    simp [taken, hother e he]
  rw [h.flags, hmore, countP_append, hnone]
  rfl

theorem step_count (hevent : cfg.externalPreallocated = false) (s : System App) (call : Call App)
    (app : App) (i : ℕ) :
    ((coordinatorStep cfg s call).2.workers app i).allocated.toNat =
      (s.workers app i).allocated.toNat + (coordinatorStep cfg s call).1.countP (taken app i) := by
  change _ = ((called cfg s call).workers app i).allocated.toNat +
    (coordinatorStep cfg s call).2.sent.countP (taken app i)
  have hnone : (called cfg s call).sent.countP (taken app i) = 0 := rfl
  rcases step_cases hevent s call with hquiet | ⟨target, readings, before, -, -, hallocates⟩
  · have := hquiet.count app i
    omega
  · have hfirst := hallocates.quiet.count app i
    have hround := round_count cfg before target app readings.allocate i
    have hlast := hallocates.after.count app i
    split_ifs at hlast
    · have : ((workerCommand cfg before target .allocate readings.allocate).2.workers app
          i).allocated.toNat = _ := rfl
      dsimp only at hlast
      omega
    · omega

def systemAfter (cfg : Config App) (calls : List (Call App)) : System App :=
  after (coordinatorStep cfg) {} calls

def sentBy (cfg : Config App) (calls : List (Call App)) : List (Sent App) :=
  (outputs (coordinatorStep cfg) {} calls).flatten

theorem session_count (hevent : cfg.externalPreallocated = false) (calls : List (Call App))
    (app : App) (i : ℕ) :
    (sentBy cfg calls).countP (taken app i) =
      ((systemAfter cfg calls).workers app i).allocated.toNat := by
  induction calls using List.reverseRecOn with
  | nil => rfl
  | append_singleton calls call ih =>
    unfold systemAfter sentBy at ih ⊢
    rw [after_concat, step_count hevent, outputs_concat, flatten_append, countP_append,
      ih]
    simp

end

section

variable {s s' before : System App} {app : App} {readings : Readings}

/-- The coordinator's set is the set of applications whose workers hold their ballast. -/
structure Booked (cfg : Config App) (s : System App) : Prop where
  known : s.allocated ⊆ cfg.apps
  holds : ∀ app ∈ s.allocated, ∀ i < workerCount cfg app, (s.workers app i).allocated = true
  empty : ∀ app ∈ cfg.apps, app ∉ s.allocated → ∀ i < workerCount cfg app,
    (s.workers app i).allocated = false
  budget : ∑ app ∈ s.allocated, appTotalBytes cfg app ≤ cfg.maxGlobalBytes

omit [DecidableEq App] in
theorem booked_initial (cfg : Config App) : Booked cfg {} where
  known := Finset.empty_subset _
  holds app hmem := absurd hmem (Finset.notMem_empty app)
  empty _ _ _ _ _ := rfl
  budget := Nat.zero_le _

omit [DecidableEq App] in
theorem Booked.quiet (h : Booked cfg s) (hquiet : Quiet s s') : Booked cfg s' where
  known := hquiet.allocated ▸ h.known
  holds app hmem i hi := by
    rw [hquiet.allocated] at hmem
    rw [hquiet.flags]
    exact h.holds app hmem i hi
  empty app hknown hfree i hi := by
    rw [hquiet.allocated] at hfree
    rw [hquiet.flags]
    exact h.empty app hknown hfree i hi
  budget := hquiet.allocated ▸ h.budget

theorem round_flag (s : System App) (app other : App) (r : Round) (i : ℕ) :
    ((workerCommand cfg s app .allocate r).2.workers other i).allocated =
      if other = app ∧ i < workerCount cfg app then
        (executed r .allocate i (s.workers app i)).2.allocated
      else (s.workers other i).allocated := by
  change (Function.update s.workers app _ other i).allocated = _
  by_cases heq : other = app
  · subst heq
    rw [Function.update_self]
    split_ifs <;> simp_all
  · rw [Function.update_of_ne heq, if_neg (fun h => heq h.1)]

theorem executed_active {b : Worker} (hstate : b.state = .foregroundActive)
    (hoff : b.allocated = false) (r : Round) (i : ℕ) :
    (executed r .allocate i b).1 = (decide (r.fate i ≠ .dropped) && r.works i) ∧
      (executed r .allocate i b).2.allocated = (executed r .allocate i b).1 := by
  constructor
  · unfold executed
    by_cases hsent : r.fate i = .dropped
    · simp [hsent]
    · rw [if_neg hsent]
      refine (allocate_active hstate hoff _).trans ?_
      simp [hsent]
  · have hflag := executed_flag r i b
    rw [hoff] at hflag
    cases h : (executed r .allocate i b).2.allocated <;>
      cases h' : (executed r .allocate i b).1 <;> simp_all

theorem Booked.allTaken (h : Booked cfg before) (hknown : app ∈ cfg.apps)
    (hfree : app ∉ before.allocated)
    (hbudget : (∑ key ∈ before.allocated, appTotalBytes cfg key) + appTotalBytes cfg app ≤
      cfg.maxGlobalBytes)
    (hdone : ∀ i < workerCount cfg app,
      (executed readings.allocate .allocate i (before.workers app i)).2.allocated = true) :
    Booked cfg { (workerCommand cfg before app .allocate readings.allocate).2 with
      allocated := insert app before.allocated } where
  known := Finset.insert_subset hknown h.known
  holds other hmem i hi := by
    rw [round_flag]
    by_cases heq : other = app
    · subst heq
      rw [if_pos ⟨rfl, hi⟩]
      exact hdone i hi
    · rw [if_neg fun h => heq h.1]
      exact h.holds other (Finset.mem_of_mem_insert_of_ne hmem heq) i hi
  empty other hother hout i hi := by
    obtain ⟨hne, hold⟩ := not_or.1 (mt Finset.mem_insert.2 hout)
    rw [round_flag, if_neg fun h => hne h.1]
    exact h.empty other hother hold i hi
  budget := by
    rw [Finset.sum_insert hfree, Nat.add_comm]
    exact hbudget

theorem Booked.noneTaken (h : Booked cfg before)
    (hkept : ∀ i < workerCount cfg app,
      (executed readings.allocate .allocate i (before.workers app i)).2.allocated = false)
    (hfree : app ∉ before.allocated) :
    Booked cfg (workerCommand cfg before app .allocate readings.allocate).2 where
  known := h.known
  holds other hmem i hi := by
    have hne : other ≠ app := fun heq => hfree (heq ▸ hmem)
    rw [round_flag, if_neg fun h => hne h.1]
    exact h.holds other hmem i hi
  empty other hother hout i hi := by
    rw [round_flag]
    by_cases heq : other = app
    · subst heq
      rw [if_pos ⟨rfl, hi⟩]
      exact hkept i hi
    · rw [if_neg fun h => heq h.1]
      exact h.empty other hother hout i hi
  budget := h.budget

theorem Booked.allocates (h : Booked cfg s) (hknown : app ∈ cfg.apps)
    (hround : AllOrNone cfg app readings.allocate)
    (hallocates : Allocates cfg s app readings before s') : Booked cfg s' := by
  have hbefore := h.quiet hallocates.quiet
  have hsame := hallocates.quiet.allocated
  have hfree : app ∉ before.allocated := hsame ▸ hallocates.free
  have hafter := hallocates.after
  have hexecuted : ∀ i < workerCount cfg app, _ := fun i hi =>
    executed_active (hallocates.active i hi) (hbefore.empty app hknown hfree i hi)
      readings.allocate i
  rcases hround with hall | hnone
  · have hdone : ∀ i < workerCount cfg app,
        (executed readings.allocate .allocate i (before.workers app i)).1 = true := by
      intro i hi
      rw [(hexecuted i hi).1, (hall i hi).1, (hall i hi).2]
      rfl
    have hok : (workerCommand cfg before app .allocate readings.allocate).1 = true :=
      decide_eq_true fun i hi => ⟨(hall i hi).1, hdone i hi⟩
    rw [if_pos hok] at hafter
    exact (hbefore.allTaken hknown hfree (hsame ▸ hallocates.budget) fun i hi =>
      (hexecuted i hi).2.trans (hdone i hi)).quiet hafter
  · have hkept : ∀ i < workerCount cfg app,
        (executed readings.allocate .allocate i (before.workers app i)).1 = false := by
      intro i hi
      rw [(hexecuted i hi).1]
      rcases hnone i hi with hdropped | hfailed
      · simp [hdropped]
      · simp [hfailed]
    have hfirst : 0 < workerCount cfg app := length_pos_iff.2 (cfg.hasWorker app hknown)
    have hfail : ¬ (workerCommand cfg before app .allocate readings.allocate).1 = true := by
      intro hok
      have := (of_decide_eq_true hok 0 hfirst).2
      rw [hkept 0 hfirst] at this
      cases this
    rw [if_neg hfail] at hafter
    exact (hbefore.noneTaken (fun i hi => (hexecuted i hi).2.trans (hkept i hi)) hfree).quiet hafter

omit [DecidableEq App] in
theorem targeted_known {call : Call App} (h : Targeted cfg app call) :
    app ∈ cfg.apps := by
  cases call with
  | observeEvent event foreground bindReady readings => exact h.2.known
  | tick foreground bindReady readings => exact h.known
  | markReclaimed app => cases h

theorem booked_step (hevent : cfg.externalPreallocated = false) (call : Call App)
    (hsettled : Settled cfg call) (h : Booked cfg s) :
    Booked cfg (coordinatorStep cfg s call).2 := by
  have hcalled : Booked cfg (called cfg s call) := ⟨h.known, h.holds, h.empty, h.budget⟩
  rcases step_cases hevent s call with
    hquiet | ⟨target, readings, before, htarget, hround, hallocates⟩
  · exact hcalled.quiet hquiet
  · exact hcalled.allocates (targeted_known htarget) (hround hsettled) hallocates

theorem booked_after (hevent : cfg.externalPreallocated = false) (calls : List (Call App))
    (hsettled : ∀ call ∈ calls, Settled cfg call) : Booked cfg (systemAfter cfg calls) := by
  induction calls using List.reverseRecOn with
  | nil => exact booked_initial cfg
  | append_singleton calls call ih =>
    unfold systemAfter at ih ⊢
    rw [after_concat]
    exact booked_step hevent call (hsettled call (by simp))
      (ih fun earlier hmem => hsettled earlier (mem_append_left _ hmem))

theorem sum_getD (sizes : List ℕ) :
    ∑ i ∈ Finset.range sizes.length, sizes.getD i 0 = sizes.sum := by
  induction sizes with
  | nil => rfl
  | cons size sizes ih =>
    rw [length_cons, Finset.sum_range_succ', sum_cons, ← ih, Nat.add_comm]
    simp

omit [DecidableEq App] in
theorem Booked.heldBytes_eq (h : Booked cfg s) :
    heldBytes cfg s = ∑ app ∈ s.allocated, appTotalBytes cfg app := by
  unfold heldBytes
  rw [← Finset.sum_subset h.known]
  · apply Finset.sum_congr rfl
    intro app hmem
    rw [appTotalBytes, ← sum_getD, length_map]
    apply Finset.sum_congr rfl
    intro i hi
    rw [h.holds app hmem i (Finset.mem_range.1 hi)]
    rfl
  · intro app hknown hout
    apply Finset.sum_eq_zero
    intro i hi
    rw [h.empty app hknown hout i (Finset.mem_range.1 hi)]
    rfl

end

end Parp.Test4BBallast
