import Parp.ReclaimDaemonRuns

set_option autoImplicit false

namespace Parp.ReclaimDaemon

open Memshift TransitionRuns List

variable {cfg : Config} {d d' : Daemon} {w w' : Worker}

def Phase.job? : Phase → Option Job
  | .idle => none
  | .taken job | .allowed job _ _ | .written job _ | .done job _ => some job
  | .judged a => some a.job

def Phase.unwritten? : Phase → Option Job
  | .taken job | .allowed job _ _ => some job
  | .judged a => some a.job
  | .idle | .written _ _ | .done _ _ => none

def inFlight (w : Worker) : ℕ :=
  w.pending.toList.length + w.phase.job?.toList.length + w.completed.toList.length

/-- The job may be written: what was read right before the write lets it pass. -/
structure Authorized (cfg : Config) (a : Attempt) : Prop where
  unpaused : a.control.paused = false
  unprotected : a.job.app.name ∉ a.control.protectedApps
  foreign : a.ownTarget = false
  inode : a.before.inode = a.job.features.now.inode
  device : a.before.device = a.job.features.now.device
  calm : pressureBlock cfg.o a.machine 0 0 = ""
  planned : a.bytes.toNat ≤ a.job.requested.toNat
  budget : a.bytes.toNat ≤
    (recheck cfg.o cfg.page a.job a.control a.unixSeconds a.before a.machine).bytes.toNat

def Phase.Checked (cfg : Config) : Phase → Prop
  | .allowed job control ownTarget =>
    control.paused = false ∧ job.app.name ∉ control.protectedApps ∧ ownTarget = false
  | .judged a => Authorized cfg a
  | _ => True

inductive Turns (cfg : Config) (w : Worker) : Worker × Option Attempt → Prop
  | wait : Turns cfg w (w, none)
  | pick (job : Job) (hphase : w.phase = .idle) (hpending : w.pending = some job) :
      Turns cfg w ({ w with pending := none, phase := .taken job }, none)
  | goOn (job : Job) (phase : Phase) (hjob : w.phase.job? = some job) (hjob' : phase.job? = some job)
      (hunwritten : phase.unwritten? = none ∨ phase.unwritten? = w.phase.unwritten?)
      (hchecked : phase.Checked cfg) : Turns cfg w ({ w with phase := phase }, none)
  | write (a : Attempt) (r : Result) (hphase : w.phase = .judged a) :
      Turns cfg w ({ w with phase := .written a.job r }, some a)
  | store (job : Job) (r : Result) (hphase : w.phase = .done job r) :
      Turns cfg w ({ w with phase := .idle, completed := some r }, none)

theorem turn_turns (hchecked : w.phase.Checked cfg) (reading : Reading) :
    Turns cfg w (w.turn cfg.o cfg.page reading) := by
  unfold Worker.turn
  cases hphase : w.phase with
  | idle =>
    dsimp only
    cases hpending : w.pending with
    | none => exact .wait
    | some job => exact .pick job hphase hpending
  | taken job =>
    have hjob : w.phase.job? = some job := by rw [hphase]; rfl
    dsimp only
    cases controlNow cfg.o reading.control reading.unixControl with
    | none => exact .goOn job _ hjob rfl (.inl rfl) trivial
    | some control =>
      dsimp only
      by_cases hkept : control.paused = true ∨ job.app.name ∈ control.protectedApps
      · rw [if_pos hkept]
        exact .goOn job _ hjob rfl (.inl rfl) trivial
      · rw [if_neg hkept]
        cases reading.ownTarget with
        | none => exact .goOn job _ hjob rfl (.inl rfl) trivial
        | some own =>
          cases own with
          | true => exact .goOn job _ hjob rfl (.inl rfl) trivial
          | false =>
            rw [not_or, Bool.not_eq_true] at hkept
            exact .goOn job _ hjob rfl (.inr (by rw [hphase]; rfl)) ⟨hkept.1, hkept.2, rfl⟩
  | allowed job control ownTarget =>
    have hjob : w.phase.job? = some job := by rw [hphase]; rfl
    rw [hphase] at hchecked
    obtain ⟨hunpaused, hunprotected, hforeign⟩ := hchecked
    dsimp only
    cases reading.sample with
    | none => exact .goOn job _ hjob rfl (.inl rfl) trivial
    | some sample =>
      dsimp only
      by_cases hgroup : sample.inode ≠ job.features.now.inode ∨
          sample.device ≠ job.features.now.device
      · rw [if_pos hgroup]
        exact .goOn job _ hjob rfl (.inl rfl) trivial
      · rw [if_neg hgroup]
        rw [not_or, not_not, not_not] at hgroup
        cases reading.swapRoom with
        | none => exact .goOn job _ hjob rfl (.inl rfl) trivial
        | some room =>
          dsimp only
          cases reading.machine with
          | none => exact .goOn job _ hjob rfl (.inl rfl) trivial
          | some s =>
            dsimp only
            by_cases hblock : pressureBlock cfg.o s 0 0 = ""
            · rw [if_neg (not_not.2 hblock)]
              split_ifs
              · exact .goOn job _ hjob rfl (.inl rfl) trivial
              · refine .goOn job _ hjob rfl (.inr (by rw [hphase]; rfl)) ?_
                exact ⟨hunpaused, hunprotected, hforeign, hgroup.1, hgroup.2, hblock,
                  lesser_le_right _ _, lesser_le_left _ _⟩
            · rw [if_pos hblock]
              exact .goOn job _ hjob rfl (.inl rfl) trivial
  | judged a =>
    have hjob : w.phase.job? = some a.job := by rw [hphase]; rfl
    dsimp only
    cases reading.openError with
    | some e => exact .goOn a.job _ hjob rfl (.inl rfl) trivial
    | none => exact .write a _ hphase
  | written job r =>
    have hjob : w.phase.job? = some job := by rw [hphase]; rfl
    dsimp only
    cases reading.sample with
    | none => exact .goOn job _ hjob rfl (.inl rfl) trivial
    | some sample => exact .goOn job _ hjob rfl (.inl rfl) trivial
  | done job r => exact .store job r hphase

def Accepted (d : Daemon) (job : Job) : Prop := ∃ t ∈ d.log, t.accepted = some job

/-- What is in hand was accepted, and what may still be written has not been written. -/
structure Working (cfg : Config) (d : Daemon) : Prop where
  flight : inFlight d.worker ≤ 1
  checked : d.worker.phase.Checked cfg
  pending : ∀ job, d.worker.pending = some job → Accepted d job
  running : ∀ job, d.worker.phase.job? = some job → Accepted d job
  attempts : ∀ a ∈ d.attempts, Authorized cfg a ∧ Accepted d a.job
  numbered : ∀ t ∈ d.log, ∀ job, t.accepted = some job → job.serial < d.jobs
  waiting : ∀ job, d.worker.pending = some job ∨ d.worker.phase.unwritten? = some job →
    ∀ a ∈ d.attempts, a.job.serial ≠ job.serial
  once : (d.attempts.map fun a => a.job.serial).Nodup
  distinct : ((d.log.filterMap Tick.accepted).map Job.serial).Nodup

theorem Working.turn (hworking : Working cfg d) (reading : Reading) :
    Working cfg (turn cfg d reading) := by
  have hturns := turn_turns hworking.checked reading
  unfold ReclaimDaemon.turn
  generalize d.worker.turn cfg.o cfg.page reading = result at *
  have hflight := hworking.flight
  cases hturns with
  | wait => exact { hworking with }
  | pick job hphase hpending =>
    refine { hworking with
      flight := ?_, checked := trivial, pending := ?_, running := ?_, waiting := ?_ }
    · unfold inFlight at hflight ⊢
      rw [hphase, hpending] at hflight
      simpa [Phase.job?] using hflight
    · intro other hother
      cases hother
    · intro other hother
      rw [← Option.some.inj hother]
      exact hworking.pending job hpending
    · rintro other (hother | hother)
      · cases hother
      · rw [← Option.some.inj hother]
        exact hworking.waiting job (.inl hpending)
  | goOn job phase hjob hjob' hunwritten hchecked =>
    refine { hworking with flight := ?_, checked := hchecked, running := ?_, waiting := ?_ }
    · unfold inFlight at hflight ⊢
      dsimp only
      rw [hjob']
      rw [hjob] at hflight
      exact hflight
    · intro other hother
      rw [hjob'] at hother
      exact hworking.running other (hjob.trans hother)
    · rintro other (hother | hother)
      · exact hworking.waiting other (.inl hother)
      · rcases hunwritten with hnone | hsame
        · rw [hnone] at hother
          cases hother
        · exact hworking.waiting other (.inr (hsame.symm.trans hother))
  | write a r hphase =>
    have hchecked := hworking.checked
    rw [hphase] at hchecked
    have hrunning := hworking.running a.job (by rw [hphase]; rfl)
    have hpending : d.worker.pending = none := by
      unfold inFlight at hflight
      rw [hphase] at hflight
      cases hp : d.worker.pending with
      | none => rfl
      | some job =>
        rw [hp] at hflight
        simp [Phase.job?] at hflight
        omega
    refine { hworking with
      flight := ?_, checked := trivial, running := ?_, attempts := ?_, waiting := ?_, once := ?_ }
    · unfold inFlight at hflight ⊢
      rw [hphase] at hflight
      exact hflight
    · intro other hother
      rw [← Option.some.inj hother]
      exact hrunning
    · intro b hb
      rcases mem_cons.1 hb with rfl | hold
      · exact ⟨hchecked, hrunning⟩
      · exact hworking.attempts b hold
    · rintro other (hother | hother)
      · exact absurd (hother.symm.trans hpending) (Option.some_ne_none other)
      · cases hother
    · change (a.job.serial :: d.attempts.map fun b => b.job.serial).Nodup
      refine nodup_cons.2 ⟨fun hmem => ?_, hworking.once⟩
      obtain ⟨b, hb, hserial⟩ := mem_map.1 hmem
      exact hworking.waiting a.job (.inr (by rw [hphase]; rfl)) b hb hserial
  | store job r hphase =>
    refine { hworking with flight := ?_, checked := trivial, running := ?_, waiting := ?_ }
    · unfold inFlight at hflight ⊢
      rw [hphase] at hflight
      simp only [Phase.job?, Option.toList_some, length_singleton] at hflight
      simp only [Phase.job?, Option.toList_some, Option.toList_none, length_singleton,
        length_nil]
      omega
    · intro other hother
      cases hother
    · rintro other (hother | hother)
      · exact hworking.waiting other (.inl hother)
      · cases hother

theorem Working.frame (hworking : Working cfg d)
    (haccepted : ∀ t ∈ d.log, t ∈ d'.log) (hflight : inFlight d'.worker ≤ 1)
    (hpending : d'.worker.pending = d.worker.pending) (hphase : d'.worker.phase = d.worker.phase)
    (hattempts : d'.attempts = d.attempts)
    (hnumbered : ∀ t ∈ d'.log, ∀ job, t.accepted = some job → job.serial < d'.jobs)
    (hdistinct : ((d'.log.filterMap Tick.accepted).map Job.serial).Nodup) : Working cfg d' := by
  have hstill : ∀ job, Accepted d job → Accepted d' job :=
    fun job ⟨t, ht, hjob⟩ => ⟨t, haccepted t ht, hjob⟩
  refine ⟨hflight, hphase ▸ hworking.checked, ?_, ?_, ?_, hnumbered, ?_, ?_, hdistinct⟩
  · rw [hpending]
    exact fun job h => hstill job (hworking.pending job h)
  · rw [hphase]
    exact fun job h => hstill job (hworking.running job h)
  · rw [hattempts]
    exact fun a ha => (hworking.attempts a ha).imp_right (hstill _)
  · rw [hpending, hphase, hattempts]
    exact hworking.waiting
  · rw [hattempts]
    exact hworking.once

theorem Working.taken (hworking : Working cfg d) (now : Float) :
    Working cfg (takeResult cfg d now) := by
  obtain ⟨hlog, -, -, hjobs, hattempts, hworker, -⟩ := takeResult_frame cfg d now
  refine hworking.frame (fun _ h => hlog ▸ h) ?_ (hworker ▸ rfl) (hworker ▸ rfl) hattempts
    (hlog ▸ hjobs ▸ hworking.numbered) (hlog ▸ hworking.distinct)
  have hflight := hworking.flight
  rw [hworker]
  unfold inFlight at hflight ⊢
  simp only [Option.toList_none, length_nil]
  omega

theorem not_busy (h : w.busy = false) :
    w.pending = none ∧ w.completed = none ∧ w.phase = .idle := by
  unfold Worker.busy at h
  rw [Bool.or_eq_false_iff, Bool.or_eq_false_iff] at h
  obtain ⟨⟨hrunning, hpending⟩, hcompleted⟩ := h
  refine ⟨Option.isSome_eq_false_iff.1 hpending |> Option.isNone_iff_eq_none.1,
    Option.isSome_eq_false_iff.1 hcompleted |> Option.isNone_iff_eq_none.1, ?_⟩
  cases hphase : w.phase with
  | idle => rfl
  | _ =>
    rw [hphase] at hrunning
    cases hrunning

theorem Working.ticked (hworking : Working cfg d) {t : Tick} (hlog : d'.log = t :: d.log)
    (hattempts : d'.attempts = d.attempts) (hsubmitted : Submitted d t d') : Working cfg d' := by
  have hlogged : ∀ u ∈ d.log, u ∈ d'.log := fun u hu => hlog ▸ .tail _ hu
  have haccepted : ∀ job, Accepted d job → Accepted d' job :=
    fun job ⟨u, hu, hjob⟩ => ⟨u, hlogged u hu, hjob⟩
  rcases hsubmitted with ⟨hnone, hworker, hjobs⟩ | ⟨job, hsome, hidle, hworker, hserial, hjobs⟩
  · refine hworking.frame hlogged (hworker ▸ hworking.flight) (hworker ▸ rfl) (hworker ▸ rfl)
      hattempts ?_ ?_
    · rw [hlog, hjobs]
      intro u hu job hjob
      rcases mem_cons.1 hu with rfl | hold
      · rw [hnone] at hjob
        cases hjob
      · exact hworking.numbered u hold job hjob
    · rw [hlog, filterMap_cons_none hnone]
      exact hworking.distinct
  · obtain ⟨-, hcompleted, hphase⟩ := not_busy hidle
    have hnew : ∀ a ∈ d.attempts, a.job.serial < d.jobs := by
      intro a ha
      obtain ⟨u, hu, hjob⟩ := (hworking.attempts a ha).2
      exact hworking.numbered u hu a.job hjob
    refine ⟨?_, ?_, ?_, ?_, ?_, ?_, ?_, ?_, ?_⟩
    · rw [hworker]
      unfold inFlight
      dsimp only
      rw [hcompleted, hphase]
      exact Nat.le_refl 1
    · rw [hworker]
      exact hworking.checked
    · rw [hworker]
      intro other hother
      exact ⟨t, by rw [hlog]; exact .head _, hsome.trans hother⟩
    · rw [hworker]
      exact fun job h => haccepted job (hworking.running job h)
    · rw [hattempts]
      exact fun a ha => ⟨(hworking.attempts a ha).1, haccepted _ (hworking.attempts a ha).2⟩
    · rw [hlog, hjobs]
      intro u hu other hother
      rcases mem_cons.1 hu with rfl | hold
      · rw [← Option.some.inj (hsome.symm.trans hother), hserial]
        exact Nat.lt_succ_self _
      · exact Nat.lt_succ_of_lt (hworking.numbered u hold other hother)
    · rw [hworker, hattempts]
      rintro other (hother | hother) a ha
      · rw [← Option.some.inj hother, hserial]
        exact Nat.ne_of_lt (hnew a ha)
      · exact hworking.waiting other (.inr hother) a ha
    · rw [hattempts]
      exact hworking.once
    · rw [hlog, filterMap_cons_some hsome, map_cons, nodup_cons, hserial]
      refine ⟨fun hmem => ?_, hworking.distinct⟩
      obtain ⟨other, hother, hsame⟩ := mem_map.1 hmem
      obtain ⟨u, hu, hjob⟩ := mem_filterMap.1 hother
      have hlt := hworking.numbered u hu other hjob
      omega

variable (cfg) in
theorem daemon_step (s : Daemon) (i : Input) (hinv : Loop cfg s ∧ Working cfg s) :
    Loop cfg (step cfg s i).2 ∧ Working cfg (step cfg s i).2 := by
  obtain ⟨hloop, hworking⟩ := hinv
  refine ⟨loop_step s i hloop, ?_⟩
  cases i with
  | turn reading => exact hworking.turn reading
  | tick r =>
    change Working cfg (tick cfg s r)
    rcases tick_cases hloop.episode r with
      hsame | hfailed | ⟨v, t, hticked, hsubmitted, hattempts⟩
    · rw [hsame]
      exact hworking
    · rw [hfailed]
      exact { hworking.taken r.now with }
    · have hkept := (takeResult_frame cfg s r.now).2.2.2.2.1
      exact (hworking.taken r.now).ticked hticked.log (hattempts.trans hkept.symm) hsubmitted

def daemonAfter (cfg : Config) (inputs : List Input) : Daemon := after (step cfg) {} inputs

theorem daemonAfter_holds (cfg : Config) (inputs : List Input) :
    Loop cfg (daemonAfter cfg inputs) ∧ Working cfg (daemonAfter cfg inputs) := by
  have hloop : Loop cfg ({} : Daemon) :=
    { minute := fun _ => .start
      whole := .start
      episode := rfl
      sound := fun _ ht => (not_mem_nil ht).elim
      known := fun i _ => by
        unfold Known
        rfl }
  refine after_invariant (daemon_step cfg) ⟨hloop, ?_⟩ inputs
  · refine ⟨Nat.zero_le 1, trivial, ?_, ?_, ?_, ?_, ?_, nodup_nil, nodup_nil⟩
    · intro job h
      cases h
    · intro job h
      cases h
    · intro a ha
      cases ha
    · intro t ht
      cases ht
    · intro job _ a ha
      cases ha

theorem spent_planned (i : ℕ) (ticks : List Tick) :
    RollingWindow.spent UInt64.toNat (ticks.map fun t => (t.time, t.planned i)) =
      plannedFor i ticks := by
  unfold RollingWindow.spent plannedFor
  rw [map_map]
  rfl

theorem spent_plannedAll (ticks : List Tick) :
    RollingWindow.spent UInt64.toNat (ticks.map fun t => (t.time, t.plannedAll)) =
      plannedIn ticks := by
  unfold RollingWindow.spent plannedIn
  rw [map_map]
  rfl

theorem WithinMinute.near {ticks : List Tick} (h : WithinMinute ticks)
    (charge : Tick → Option Bytes) :
    RollingWindow.Near RollingLimit.past (ticks.map fun t => (t.time, charge t)) := by
  unfold RollingWindow.Near
  rw [pairwise_map]
  exact h.imp fun hnot => decide_eq_false hnot

theorem plannedFor_unplanned {i : ℕ} {ticks : List Tick} (h : ∀ t ∈ ticks, t.planned i = none) :
    plannedFor i ticks = 0 := by
  unfold plannedFor
  apply sum_eq_zero
  intro n hn
  obtain ⟨t, ht, rfl⟩ := mem_map.1 hn
  rw [h t ht]
  rfl

theorem Loop.unconfigured (hloop : Loop cfg d) {i : ℕ} (hi : ¬ i < cfg.apps.length) :
    WithinShare cfg.o i (stretch i d.log) := by
  refine .inl (plannedFor_unplanned fun t ht => ?_)
  unfold Tick.planned
  cases haccepted : t.accepted with
  | none => rfl
  | some job =>
    have hindex := (hloop.sound t (stretch_subset i _ ht) job haccepted).configured
    exact if_neg (by omega)

theorem Loop.withinShare (hloop : Loop cfg d) (i : ℕ) : WithinShare cfg.o i (stretch i d.log) := by
  by_cases hi : i < cfg.apps.length
  swap
  · exact hloop.unconfigured hi
  have hknown := hloop.known i hi
  cases hlog : d.log with
  | nil => exact .inl (by simp [stretch, plannedFor])
  | cons t log =>
    rw [hlog] at hknown
    unfold Known at hknown
    dsimp only at hknown
    have hsingle : t.planned i = none → stretch i (t :: log) = [t] →
        WithinShare cfg.o i (stretch i (t :: log)) := by
      intro hnone hstretch
      rw [hstretch]
      exact .inl (by simp [plannedFor, plannedBytes, hnone])
    cases haccepted : t.accepted with
    | none =>
      have hnone : t.planned i = none := by
        unfold Tick.planned
        rw [haccepted]
      cases hsample : t.sample i with
      | none =>
        refine hsingle hnone ?_
        cases log with
        | nil => rfl
        | cons u log => simp [stretch, continues, hsample]
      | some c =>
        rw [hsample] at hknown
        cases hepisode : t.episode with
        | true => exact (hknown.2.2 hepisode).withinShare
        | false =>
          refine hsingle hnone ?_
          cases log with
          | nil => rfl
          | cons u log => simp [stretch, continues, hepisode]
    | some job =>
      obtain ⟨hepisode, -, -, c, hsample, -⟩ :=
        hloop.sound t (by rw [hlog]; exact .head _) job haccepted
      cases hread : t.sample i with
      | some c' =>
        rw [hread] at hknown
        exact (hknown.2.2 hepisode).withinShare
      | none =>
        -- the job is another application's
        have hne : job.index ≠ i := by
          rintro rfl
          rw [hsample] at hread
          cases hread
        refine hsingle ?_ ?_
        · unfold Tick.planned
          rw [haccepted]
          exact if_neg hne
        · cases log with
          | nil => rfl
          | cons u log => simp [stretch, continues, hread]

/-- The loop never plans more than its limits allow, and the worker writes no more than was planned,
where it may. -/
theorem daemon_limits (cfg : Config) (inputs : List Input) :
    let d := daemonAfter cfg inputs
    (∀ newer middle older, d.log = newer ++ (middle ++ older) → WithinMinute middle →
      (∀ i, plannedFor i middle ≤ cfg.o.appPerMinute.toNat) ∧
        plannedIn middle ≤ cfg.o.perMinute.toNat) ∧
    (∀ i, WithinShare cfg.o i (stretch i d.log)) ∧
    inFlight d.worker ≤ 1 ∧
    (∀ a ∈ d.attempts, Authorized cfg a ∧ ∃ t ∈ d.log, t.accepted = some a.job ∧
      ∃ c, t.sample a.job.index = some c ∧ a.before.inode = c.inode ∧
        a.before.device = c.device) ∧
    (d.attempts.map fun a => a.job.serial).Nodup ∧
    ((d.log.filterMap Tick.accepted).map Job.serial).Nodup := by
  intro d
  obtain ⟨hloop, hworking⟩ : Loop cfg d ∧ Working cfg d := daemonAfter_holds cfg inputs
  refine ⟨fun newer middle older hlog hnear => ⟨fun i => ?_, ?_⟩, hloop.withinShare,
    hworking.flight, fun a ha => ?_, hworking.once, hworking.distinct⟩
  · rw [← spent_planned]
    have hticks := congrArg (List.map fun t : Tick => (t.time, t.planned i)) hlog
    rw [map_append, map_append] at hticks
    exact (hloop.minute i).spent_le hticks (hnear.near fun t => t.planned i)
  · rw [← spent_plannedAll]
    have hticks := congrArg (List.map fun t : Tick => (t.time, t.plannedAll)) hlog
    rw [map_append, map_append] at hticks
    exact hloop.whole.spent_le hticks (hnear.near Tick.plannedAll)
  · obtain ⟨hauthorized, t, ht, haccepted⟩ := hworking.attempts a ha
    obtain ⟨-, -, -, c, hsample, hinode, hdevice⟩ := hloop.sound t ht a.job haccepted
    exact ⟨hauthorized, t, ht, haccepted, c, hsample, hauthorized.inode.trans hinode,
      hauthorized.device.trans hdevice⟩

def oneApp : Config where
  o := { warmupSec := 0 }
  apps := [{ name := "wps", reclaim := true, keep := 64 * MiB }]
  page := 4096

def shortMachine : System where
  time := 100
  total := 8192 * MiB
  available := 512 * MiB
  free := 256 * MiB
  mem := { valid := true }
  io := { valid := true }

def groupSample (refault : Bytes) : Sample where
  device := 1
  inode := 7
  current := 256 * MiB
  inactiveFile := 256 * MiB
  refault := refault
  populated := true

/-- The reset at the fallen counter starts a second share in the same episode. -/
def fallingRefault : List Input :=
  let sampled (refault : Bytes) : Input :=
    .tick { machine := some shortMachine, samples := fun _ => some (groupSample refault) }
  let written : Input :=
    .turn { sample := some (groupSample 10), swapRoom := some 0, machine := some shortMachine }
  [sampled 10, sampled 10] ++ List.replicate 6 written ++ [sampled 9, sampled 9]

theorem fallen_counter_renews_share :
    let d := daemonAfter oneApp fallingRefault
    (∀ t ∈ d.log, t.episode = true ∧ ∃ c ∈ t.sample 0, c.populated = true ∧ c.inode = 7 ∧
      c.device = 1 ∧ c.current = 256 * MiB) ∧
    (share oneApp.o (256 * MiB)).toNat < plannedFor 0 d.log := by
  decide +kernel

end Parp.ReclaimDaemon
