import Parp.Test4BBallastBooks

set_option autoImplicit false

namespace Parp.Test4BBallast

open AppReclaim TransitionRuns List

variable {App : Type} [DecidableEq App] {cfg : Config App}

def Leaves (cfg : Config App) (s : System App) (app : App) : Call App → Prop
  | .observeEvent event foreground _ _ =>
    ((event.eventType = .appOpen ∨ event.eventType = .appSwitch) ∧
      (event.oldApp = some app ∨ s.currentForeground = some app) ∧
        known cfg foreground ≠ some app) ∨
      ((event.eventType = .appMinimize ∨ event.eventType = .appClose) ∧ event.app = some app)
  | .tick foreground _ _ => s.currentForeground = some app ∧ known cfg foreground ≠ some app
  | .markReclaimed _ => False

def Announced (cfg : Config App) (s : System App) : Call App → Prop
  | .observeEvent event foreground _ _ =>
    (event.eventType = .appOpen ∨ event.eventType = .appSwitch) →
      ∀ app, s.currentForeground = some app → known cfg foreground ≠ some app →
        event.oldApp = some app
  | .tick foreground _ _ =>
    ∀ app, s.currentForeground = some app → known cfg foreground = some app
  | .markReclaimed _ => True

structure Bookkept (cfg : Config App) (calls : List (Call App)) : Prop where
  budget : ∀ earlier later, calls = earlier ++ later →
    heldBytes cfg (systemAfter cfg earlier) ≤ cfg.maxGlobalBytes
  targeted : ∀ earlier call later, calls = earlier ++ call :: later →
    ∀ e ∈ (coordinatorStep cfg (systemAfter cfg earlier) call).1, e.command = .allocate →
      Targeted cfg e.app call
  once : ∀ app i, (sentBy cfg calls).countP (taken app i) ≤ 1
  tracked : ∀ earlier app bindReady readings between later,
    calls = earlier ++ .tick (some app) bindReady readings :: (between ++ later) →
    app ∈ cfg.apps →
    (∀ i < workerCount cfg app, ((systemAfter cfg earlier).workers app i).allocated = true) →
    app ∈ (systemAfter cfg (earlier ++ .tick (some app) bindReady readings :: between)).allocated
  left : ∀ earlier call later app, calls = earlier ++ call :: later →
    app ∈ (systemAfter cfg earlier).allocated →
    Leaves cfg (systemAfter cfg earlier) app call → ∀ i < workerCount cfg app,
      ∃ e ∈ (coordinatorStep cfg (systemAfter cfg earlier) call).1,
        e.app = app ∧ e.worker = i ∧ e.command = .enterBackground

section

variable {s s' before : System App} {app : App} {readings : Readings}

theorem Allocates.sent_app (h : Allocates cfg s app readings before s') (hnone : s.sent = [])
    {e : Sent App} (he : e ∈ s'.sent) (hcommand : e.command = .allocate) : e.app = app := by
  obtain ⟨more, hmore, hother⟩ := h.quiet.sent
  obtain ⟨more', hmore', hother'⟩ := h.after.sent
  have hround : s'.sent = before.sent ++ (List.range (workerCount cfg app)).map (fun i =>
      ⟨app, i, .allocate, (executed readings.allocate .allocate i (before.workers app i)).1⟩) ++
        more' := by
    rw [hmore']
    split_ifs <;> rfl
  rw [hround, hmore, hnone] at he
  rcases mem_append.1 he with hfirst | hlast
  · rcases mem_append.1 hfirst with hquiet | hsent
    · exact absurd hcommand (hother e hquiet)
    · obtain ⟨i, -, rfl⟩ := mem_map.1 hsent
      rfl
  · exact absurd hcommand (hother' e hlast)

section

variable (hevent : cfg.externalPreallocated = false)

include hevent

theorem step_targeted (s : System App) (call : Call App) {e : Sent App}
    (he : e ∈ (coordinatorStep cfg s call).1) (hcommand : e.command = .allocate) :
    Targeted cfg e.app call := by
  rcases step_cases hevent s call with hquiet | ⟨target, readings, before, htarget, -, hallocates⟩
  · obtain ⟨more, hmore, hother⟩ := hquiet.sent
    change e ∈ (coordinatorStep cfg s call).2.sent at he
    rw [hmore] at he
    exact absurd hcommand (hother e he)
  · rw [hallocates.sent_app rfl he hcommand]
    exact htarget

theorem step_allocated (s : System App) (call : Call App) :
    s.allocated ⊆ (coordinatorStep cfg s call).2.allocated := by
  rcases step_cases hevent s call with hquiet | ⟨target, readings, before, -, -, hallocates⟩
  · exact hquiet.allocated.ge
  · rw [hallocates.after.allocated]
    have hbefore : before.allocated = s.allocated := hallocates.quiet.allocated
    split_ifs
    · exact hbefore ▸ Finset.subset_insert _ _
    · exact hbefore.ge

theorem allocated_after (s : System App) (calls : List (Call App)) :
    s.allocated ⊆ (after (coordinatorStep cfg) s calls).allocated := by
  induction calls using List.reverseRecOn with
  | nil => exact Finset.Subset.refl _
  | append_singleton calls call ih =>
    rw [after_concat]
    exact ih.trans (step_allocated hevent _ call)

end

variable (cfg readings) in
theorem enterBackground_sent (hevent : cfg.externalPreallocated = false) (hknown : app ∈ cfg.apps)
    (hmem : app ∈ s.allocated) : ∀ i < workerCount cfg app,
      ∃ e ∈ (enterBackground cfg s app readings).sent,
        e.app = app ∧ e.worker = i ∧ e.command = .enterBackground := by
  intro i hi
  unfold enterBackground
  have hmode : ¬ (app ∉ s.allocated ∧ cfg.externalPreallocated = true) := by simp [hevent]
  rw [if_neg (not_not.2 hknown), if_neg hmode]
  dsimp only
  rw [if_neg (not_not.2 hmem)]
  obtain ⟨more, hmore, -⟩ := (refresh_quiet cfg
    (workerCommand cfg s app .enterBackground readings.background).2 app
    readings.backgroundStatus).sent
  rw [hmore]
  refine ⟨_, mem_append_left _ (mem_append_right _
    (mem_map.2 ⟨i, mem_range.2 hi, rfl⟩)), rfl, rfl, rfl⟩

theorem foregroundEntered_sent (hevent : cfg.externalPreallocated = false) (s : System App)
    (current : App) (bindReady : List App) (readings : Readings) {e : Sent App}
    (he : e ∈ s.sent) : e ∈ (foregroundEntered cfg s current bindReady readings).sent := by
  rcases foregroundEntered_cases hevent s current bindReady readings with
    hquiet | ⟨-, before, hallocates⟩
  · obtain ⟨more, hmore, -⟩ := hquiet.sent
    rw [hmore]
    exact mem_append_left _ he
  · obtain ⟨more, hmore, -⟩ := hallocates.quiet.sent
    obtain ⟨more', hmore', -⟩ := hallocates.after.sent
    rw [hmore']
    apply mem_append_left
    have hbefore : e ∈ before.sent := by
      rw [hmore]
      exact mem_append_left _ he
    split_ifs
    · exact mem_append_left _ hbefore
    · exact mem_append_left _ hbefore

variable (cfg readings) in
theorem switched_sent (hevent : cfg.externalPreallocated = false) (hknown : app ∈ cfg.apps)
    (hmem : app ∈ s.allocated) {foreground : Option App} (bindReady : List App)
    (hleft : known cfg foreground ≠ some app) : ∀ i < workerCount cfg app,
      ∃ e ∈ (switched cfg s (some app) foreground bindReady readings).sent,
        e.app = app ∧ e.worker = i ∧ e.command = .enterBackground := by
  intro i hi
  obtain ⟨e, he, hwhich⟩ := enterBackground_sent cfg readings
    (s := { s with currentForeground := known cfg foreground }) hevent hknown hmem i hi
  refine ⟨e, ?_, hwhich⟩
  unfold switched
  dsimp only
  rw [if_pos (Ne.symm hleft)]
  change e ∈ (enterBackgroundOf cfg { s with currentForeground := known cfg foreground }
    (some app) readings).sent at he
  generalize enterBackgroundOf cfg { s with currentForeground := known cfg foreground }
    (some app) readings = left at he ⊢
  cases left.currentForeground with
  | none => exact he
  | some current => exact foregroundEntered_sent hevent left current bindReady readings he

theorem step_left (hevent : cfg.externalPreallocated = false) (hknown : app ∈ cfg.apps)
    {call : Call App} (hannounced : Announced cfg s call) (hmem : app ∈ s.allocated)
    (hleaves : Leaves cfg s app call) : ∀ i < workerCount cfg app,
      ∃ e ∈ (coordinatorStep cfg s call).1,
        e.app = app ∧ e.worker = i ∧ e.command = .enterBackground := by
  cases call with
  | markReclaimed app => cases hleaves
  | tick foreground bindReady readings => exact absurd (hannounced app hleaves.1) hleaves.2
  | observeEvent event foreground bindReady readings =>
    obtain ⟨eventType, oldApp, named⟩ := event
    rcases hleaves with ⟨htype, hold, hleft⟩ | ⟨htype, happ⟩
    · have hold : oldApp = some app := by
        rcases hold with hold | hcurrent
        · exact hold
        · exact hannounced htype app hcurrent hleft
      have hsent := switched_sent cfg readings
        (s := { s with sent := [] }) hevent hknown hmem bindReady hleft
      subst hold
      rcases htype with htype | htype
      · dsimp only at htype
        subst htype
        exact hsent
      · dsimp only at htype
        subst htype
        exact hsent
    · have hsent := enterBackground_sent cfg readings
        (s := { s with sent := [] }) hevent hknown hmem
      dsimp only at happ
      subst happ
      rcases htype with htype | htype
      · dsimp only at htype
        subst htype
        exact hsent
      · dsimp only at htype
        subst htype
        exact hsent

end

/-- The books are kept where every round of `ALLOCATE` settles and every change of the foreground
is announced. -/
theorem session_bookkept (cfg : Config App) (hevent : cfg.externalPreallocated = false)
    (calls : List (Call App))
    (h : Along (coordinatorStep cfg) (fun s call => Settled cfg call ∧ Announced cfg s call) {}
      calls) : Bookkept cfg calls := by
  rw [along_iff_split] at h
  have hbooked : ∀ earlier later, calls = earlier ++ later →
      Booked cfg (systemAfter cfg earlier) := by
    rintro earlier later rfl
    apply booked_after hevent
    intro call hmem
    obtain ⟨left, right, rfl⟩ := append_of_mem hmem
    exact (h left call (right ++ later) (by simp)).1
  constructor
  case budget =>
    intro earlier later hsplit
    rw [(hbooked earlier later hsplit).heldBytes_eq]
    exact (hbooked earlier later hsplit).budget
  case targeted =>
    intro earlier call later hsplit e he hcommand
    exact step_targeted hevent _ call he hcommand
  case once =>
    intro app i
    rw [session_count hevent]
    exact Bool.toNat_le _
  case tracked =>
    intro earlier app bindReady readings between later hsplit hknown hheld
    unfold systemAfter
    rw [after_append]
    refine allocated_after hevent _ _ ?_
    by_contra hout
    have hfirst : 0 < workerCount cfg app := length_pos_iff.2 (cfg.hasWorker app hknown)
    have hoff := (hbooked earlier _ hsplit).empty app hknown hout 0 hfirst
    rw [hheld 0 hfirst] at hoff
    cases hoff
  case left =>
    intro earlier call later app hsplit hmem hleaves
    exact step_left hevent ((hbooked earlier _ hsplit).known hmem)
      (h earlier call later hsplit).2 hmem hleaves

def scopePath : PurePath :=
  { parts := ["sys", "fs", "cgroup", "test4b-experiment.slice", "app.scope"] }

def inSlice : StatusRound where
  cgroup _ := some scopePath
  expected := some scopePath

def answeredReadings : Readings where
  backgroundChecked := inSlice
  backgroundStatus := inSlice
  reaccessStatus := inSlice
  foregroundStatus := inSlice
  checked := inSlice
  allocatedStatus := inSlice

def pairConfig (maxGlobalBytes : ℕ) : Config ℕ where
  apps := {1, 2}
  workerSpecs _ := [{}, {}]
  hasWorker _ _ := by simp
  maxGlobalBytes := maxGlobalBytes

def switchSession (first : Readings) : List (Call ℕ) :=
  [.observeEvent { eventType := .appOpen } (some 1) [1, 2] first,
    .tick (some 1) [1, 2] answeredReadings,
    .observeEvent { eventType := .appSwitch, oldApp := some 1 } (some 2) [1, 2] answeredReadings]

theorem switchSession_bookkept :
    Bookkept (pairConfig 402653184) (switchSession answeredReadings) ∧
      (systemAfter (pairConfig 402653184) (switchSession answeredReadings)).allocated = {1, 2} := by
  have hall : ∀ app, AllOrNone (pairConfig 402653184) app answeredReadings.allocate :=
    fun app => .inl fun i hi => ⟨rfl, rfl⟩
  refine ⟨session_bookkept (pairConfig 402653184) rfl _ ?_, by decide +kernel⟩
  refine ⟨⟨fun app _ => hall app, ?_⟩, ⟨fun app _ => hall app, ?_⟩, ⟨fun app _ => hall app, ?_⟩,
    trivial⟩
  · intro _ app hnone
    cases hnone
  · intro app hcurrent
    exact (show known (pairConfig 402653184) (some 1) = _ by decide +kernel).trans hcurrent
  · intro _ app hcurrent _
    exact (show some 1 = _ by decide +kernel).trans hcurrent

/-- The second worker of the application is not reached by `ALLOCATE`. -/
def partlyReadings : Readings :=
  { answeredReadings with
    allocate := { fate := fun i => if i = 1 then .dropped else .answered } }

/-- Both workers take `ALLOCATE` and their answers come too late. -/
def lateReadings : Readings := { answeredReadings with allocate := { fate := fun _ => .lost } }

/-- With 192 MiB for all, 288 MiB are held after a round that one worker missed; after a round whose
answers are lost the application stays untracked and is not sent to the background. -/
theorem switchSession_breaks_books :
    heldBytes (pairConfig 201326592)
        (systemAfter (pairConfig 201326592) ((switchSession partlyReadings).eraseIdx 1)) =
          301989888 ∧
      ¬ Bookkept (pairConfig 201326592) ((switchSession partlyReadings).eraseIdx 1) ∧
      (∀ i < 2, ((systemAfter (pairConfig 402653184)
        ((switchSession lateReadings).take 1)).workers 1 i).allocated = true) ∧
      1 ∉ (systemAfter (pairConfig 402653184) ((switchSession lateReadings).take 2)).allocated ∧
      (sentBy (pairConfig 402653184) (switchSession lateReadings)).countP
        (fun e => e.command = .enterBackground) = 0 ∧
      ¬ Bookkept (pairConfig 402653184) (switchSession lateReadings) := by
  have hheld : heldBytes (pairConfig 201326592) (systemAfter (pairConfig 201326592)
      ((switchSession partlyReadings).eraseIdx 1)) = 301989888 := by decide +kernel
  have hflags : ∀ i < 2, ((systemAfter (pairConfig 402653184)
      ((switchSession lateReadings).take 1)).workers 1 i).allocated = true := by decide +kernel
  have hout : 1 ∉ (systemAfter (pairConfig 402653184)
      ((switchSession lateReadings).take 2)).allocated := by decide +kernel
  refine ⟨hheld, ?_, hflags, hout, by decide +kernel, ?_⟩
  · intro h
    have hbudget := h.budget _ [] (append_nil _).symm
    rw [hheld] at hbudget
    exact absurd hbudget (by decide)
  · intro h
    exact hout (h.tracked [_] 1 [1, 2] answeredReadings [] [_] rfl (by decide) hflags)

end Parp.Test4BBallast
