import Parp.ReclaimDaemonLaws
import Parp.TransitionRuns

set_option autoImplicit false

namespace Parp.ReclaimDaemon

open Memshift

def Tick.planned (i : ℕ) (t : Tick) : Option Bytes :=
  match t.accepted with
  | none => none
  | some job => if job.index = i then some job.requested else none

def Tick.plannedAll (t : Tick) : Option Bytes := t.accepted.map Job.requested

def plannedBytes (b : Option Bytes) : ℕ := (b.map UInt64.toNat).getD 0

def plannedFor (i : ℕ) (ticks : List Tick) : ℕ := (ticks.map fun t => plannedBytes (t.planned i)).sum

def plannedIn (ticks : List Tick) : ℕ := (ticks.map fun t => plannedBytes t.plannedAll).sum

def WithinMinute (ticks : List Tick) : Prop :=
  ticks.Pairwise fun later earlier => ¬ 60 ≤ later.time - earlier.time

def continues (i : ℕ) (older newer : Tick) : Bool :=
  older.episode && newer.episode &&
    match older.sample i, newer.sample i with
    | some p, some c => sameGroup p c
    | _, _ => false

def stretch (i : ℕ) : List Tick → List Tick
  | [] => []
  | [t] => [t]
  | t :: u :: rest => if continues i u t = true then t :: stretch i (u :: rest) else [t]

def Opening (i : ℕ) (ticks : List Tick) (c : Sample) : Prop :=
  ∃ newer t older, ticks = newer ++ t :: older ∧ (∀ u ∈ older, u.planned i = none) ∧
    t.sample i = some c

/-- What an episode has charged to a group is within its share of a sample before the first job. -/
def WithinShare (o : Options) (i : ℕ) (ticks : List Tick) : Prop :=
  plannedFor i ticks = 0 ∨
    ∃ c, Opening i ticks c ∧ plannedFor i ticks ≤ (share o c.current).toNat

theorem stretch_subset (i : ℕ) (ticks : List Tick) : stretch i ticks ⊆ ticks := by
  induction ticks with
  | nil => exact fun _ h => h
  | cons t rest ih =>
    cases rest with
    | nil => exact fun _ h => h
    | cons u rest =>
      unfold stretch
      split_ifs
      · exact List.cons_subset_cons t ih
      · exact List.cons_subset_cons t (List.nil_subset _)

section

variable {cfg : Config} {v : Outlook} {i : ℕ} {t : Tick} {log : List Tick}

theorem plannedFor_cons (i : ℕ) (t : Tick) (ticks : List Tick) :
    plannedFor i (t :: ticks) = plannedBytes (t.planned i) + plannedFor i ticks := by
  simp [plannedFor]

structure Counted (o : Options) (i : ℕ) (ticks : List Tick) (state : State) : Prop where
  spent : state.episodeSpent.toNat = plannedFor i ticks
  within : state.episodeSpent.toNat ≤ state.episodeCap.toNat
  cap : ∃ c, Opening i ticks c ∧ state.episodeCap = share o c.current

theorem Counted.withinShare {o : Options} {state : State} (h : Counted o i log state) :
    WithinShare o i log := by
  obtain ⟨c, hopening, hcap⟩ := h.cap
  refine .inr ⟨c, hopening, ?_⟩
  rw [← h.spent, ← hcap]
  exact h.within

structure Ready (o : Options) (i : ℕ) (ticks : List Tick) (c : Sample) (state : State) : Prop where
  spent : state.episodeSpent.toNat = plannedFor i ticks
  within : state.episodeSpent ≠ 0 → state.episodeSpent.toNat ≤ state.episodeCap.toNat
  cap : (∀ u ∈ ticks, u.planned i = none) ∧ state.episodeCap = share o c.current ∨
    ∃ c, Opening i ticks c ∧ state.episodeCap = share o c.current

variable {state state' : State} {ticks : List Tick}

theorem Ready.counted {o : Options} {c : Sample} (h : Ready o i ticks c state)
    {planned : Option Bytes} (ht : t.planned i = planned) (hsample : t.sample i = some c)
    (hcap : state'.episodeCap = state.episodeCap)
    (hspent : state'.episodeSpent.toNat = state.episodeSpent.toNat + plannedBytes planned)
    (hroom : plannedBytes planned ≤ state.episodeCap.toNat - state.episodeSpent.toNat) :
    Counted o i (t :: ticks) state' := by
  refine ⟨?_, ?_, ?_⟩
  · rw [hspent, h.spent, plannedFor_cons, ht, Nat.add_comm]
  · rw [hspent, hcap]
    by_cases hzero : state.episodeSpent = 0
    · rw [hzero, UInt64.toNat_zero] at hroom ⊢
      omega
    · have hwithin := h.within hzero
      omega
  · rw [hcap]
    rcases h.cap with ⟨hnone, hshare⟩ | ⟨c', ⟨newer, u, older, hticks, hnone, hu⟩, hshare⟩
    · exact ⟨c, ⟨[], t, ticks, rfl, hnone, hsample⟩, hshare⟩
    · exact ⟨c', ⟨t :: newer, u, older, congrArg (t :: ·) hticks, hnone, hu⟩, hshare⟩

theorem planned_none_of_zero
    (hwanted : ∀ t ∈ ticks, ∀ job, t.accepted = some job → job.requested ≠ 0)
    (hzero : plannedFor i ticks = 0) : ∀ u ∈ ticks, u.planned i = none := by
  intro u hu
  have hbytes : plannedBytes (u.planned i) = 0 := by
    have hle : plannedBytes (u.planned i) ≤ plannedFor i ticks :=
      List.single_le_sum (fun _ _ => Nat.zero_le _) _ (List.mem_map_of_mem hu)
    omega
  unfold Tick.planned at hbytes ⊢
  cases haccepted : u.accepted with
  | none => rfl
  | some job =>
    rw [haccepted] at hbytes
    dsimp only at hbytes ⊢
    split_ifs at hbytes ⊢
    · have hnone : job.requested.toNat = (0 : Bytes).toNat := hbytes
      exact absurd (UInt64.toNat_inj.1 hnone) (hwanted u hu job haccepted)
    · rfl

theorem Turned.fresh {sample : Sample}
    (h : Turned cfg v (some sample) state state') (hepisode : v.episode = true)
    (hfresh : isReset state.previous { sample with valid := true } = true ∨
      (state.episodeSpent = 0 ∧ state.episodeCap = 0)) :
    Ready cfg.o i [] { sample with valid := true } state' := by
  cases h with
  | read hspent hcap hprevious hrate =>
    have hzero : state'.episodeSpent = 0 := by
      rw [hspent]
      rcases hfresh with hreset | ⟨hspent, -⟩
      · rw [if_pos hreset]
      · rw [hspent]
        split_ifs <;> rfl
    have hnothing : plannedFor i [] = 0 := by simp [plannedFor]
    refine ⟨by rw [hzero, hnothing, UInt64.toNat_zero], fun h => absurd hzero h, .inl ⟨?_, ?_⟩⟩
    · intro u hu
      cases hu
    rw [hcap]
    dsimp only
    rw [if_pos ⟨hepisode, hzero⟩]
    have hcapZero : (if isReset state.previous { sample with valid := true } = true then (0 : Bytes)
        else state.episodeCap) = 0 := by
      rcases hfresh with hreset | ⟨-, hcap⟩
      · rw [if_pos hreset]
      · rw [hcap]
        split_ifs <;> rfl
    rw [hcapZero, greater_zero_left]

theorem Turned.goesOn {sample : Sample} (h : Turned cfg v (some sample) state state')
    (hepisode : v.episode = true)
    (hsame : isReset state.previous { sample with valid := true } = false)
    (hcounted : Counted cfg.o i ticks state)
    (hwanted : ∀ t ∈ ticks, ∀ job, t.accepted = some job → job.requested ≠ 0) :
    Ready cfg.o i ticks { sample with valid := true } state' := by
  cases h with
  | read hspent hcap hprevious hrate =>
    rw [hsame] at hspent hcap
    simp only [Bool.false_eq_true, if_false] at hspent hcap
    refine ⟨by rw [hspent, hcounted.spent], ?_, ?_⟩
    · intro hne
      rw [hcap, if_neg (fun h => hne h.2), hspent]
      exact hcounted.within
    · by_cases hzero : state'.episodeSpent = 0
      · rw [hcap, if_pos ⟨hepisode, hzero⟩]
        rcases greater_eq state.episodeCap (share cfg.o sample.current) with hold | hnew
        · rw [hold]
          exact .inr hcounted.cap
        · rw [hnew]
          refine .inl ⟨planned_none_of_zero hwanted ?_, rfl⟩
          rw [← hcounted.spent, ← hspent, hzero]
          rfl
      · rw [hcap, if_neg (fun h => hzero h.2)]
        exact .inr hcounted.cap

end

section

variable {cfg : Config} {d d' : Daemon}

structure Sound (cfg : Config) (t : Tick) (job : Job) : Prop where
  episode : t.episode = true
  configured : job.index < cfg.apps.length
  wanted : job.requested ≠ 0
  sampled : ∃ c, t.sample job.index = some c ∧ job.features.now.inode = c.inode ∧
    job.features.now.device = c.device

def Known (cfg : Config) (i : ℕ) (log : List Tick) (state : State) : Prop :=
  match log with
  | [] => state.previous.valid = false
  | t :: _ =>
    match t.sample i with
    | none => state.previous.valid = false
    | some c => state.previous = c ∧ c.valid = true ∧
        (t.episode = true → Counted cfg.o i (stretch i log) state)

def headEpisode : List Tick → Bool
  | [] => false
  | t :: _ => t.episode

structure Loop (cfg : Config) (d : Daemon) : Prop where
  minute : ∀ i, RollingWindow.Ticked RollingLimit.past UInt64.toNat cfg.o.appPerMinute.toNat
    (d.log.map fun t => (t.time, t.planned i)) (d.states i).rate.history
  whole : RollingWindow.Ticked RollingLimit.past UInt64.toNat cfg.o.perMinute.toNat
    (d.log.map fun t => (t.time, t.plannedAll)) d.globalRate.history
  episode : d.episode = headEpisode d.log
  sound : ∀ t ∈ d.log, ∀ job, t.accepted = some job → Sound cfg t job
  known : ∀ i < cfg.apps.length, Known cfg i d.log (d.states i)

theorem Known.same {i : ℕ} {log : List Tick} {state state' : State} (h : Known cfg i log state)
    (hsame : SameCounters state state') : Known cfg i log state' := by
  unfold Known at h ⊢
  cases log with
  | nil =>
    dsimp only at h ⊢
    rw [hsame.previous]
    exact h
  | cons t log =>
    dsimp only at h ⊢
    cases hsample : t.sample i with
    | none =>
      rw [hsample] at h
      dsimp only at h ⊢
      rw [hsame.previous]
      exact h
    | some c =>
      rw [hsample] at h
      obtain ⟨hprevious, hvalid, hcounted⟩ := h
      refine ⟨hsame.previous.trans hprevious, hvalid, fun hepisode => ?_⟩
      obtain ⟨hspent, hwithin, hcap⟩ := hcounted hepisode
      refine ⟨?_, ?_, ?_⟩
      · rw [hsame.episodeSpent]
        exact hspent
      · rw [hsame.episodeSpent, hsame.episodeCap]
        exact hwithin
      · rw [hsame.episodeCap]
        exact hcap

theorem Loop.frame (hloop : Loop cfg d) (hlog : d'.log = d.log) (hrate : d'.globalRate = d.globalRate)
    (hepisode : d'.episode = d.episode) (hstates : ∀ i, SameCounters (d.states i) (d'.states i)) :
    Loop cfg d' where
  minute i := by
    rw [hlog, (hstates i).rate]
    exact hloop.minute i
  whole := by
    rw [hlog, hrate]
    exact hloop.whole
  episode := by
    rw [hlog, hepisode]
    exact hloop.episode
  sound := by
    rw [hlog]
    exact hloop.sound
  known i hi := by
    rw [hlog]
    exact (hloop.known i hi).same (hstates i)

theorem Known.ready {i : ℕ} {log : List Tick} {state state' : State} {v : Outlook} {sample : Sample}
    {t : Tick} (hknown : Known cfg i log state) (hsound : ∀ t ∈ log, ∀ job, t.accepted = some job →
      Sound cfg t job) (hepisode : v.episode = true) (ht : t.episode = v.episode)
    (hsample : t.sample i = some { sample with valid := true })
    (hturned : Turned cfg v (some sample)
      (if headEpisode log = false ∧ v.episode = true then beginEpisode state else state) state') :
    ∃ ticks, stretch i (t :: log) = t :: ticks ∧
      Ready cfg.o i ticks { sample with valid := true } state' := by
  have hbegun : ∀ state : State, (beginEpisode state).episodeSpent = 0 ∧
      (beginEpisode state).episodeCap = 0 := fun _ => ⟨rfl, rfl⟩
  cases log with
  | nil =>
    rw [if_pos ⟨rfl, hepisode⟩] at hturned
    exact ⟨[], rfl, hturned.fresh hepisode (.inr (hbegun state))⟩
  | cons u log =>
    cases hold : u.episode with
    | false =>
      rw [if_pos ⟨hold, hepisode⟩] at hturned
      refine ⟨[], ?_, hturned.fresh hepisode (.inr (hbegun state))⟩
      simp [stretch, continues, hold]
    | true =>
      have hnot : ¬(headEpisode (u :: log) = false ∧ v.episode = true) := by
        rintro ⟨hfalse, -⟩
        exact absurd (hold.symm.trans hfalse) (by decide)
      rw [if_neg hnot] at hturned
      unfold Known at hknown
      dsimp only at hknown
      cases hbefore : u.sample i with
      | none =>
        rw [hbefore] at hknown
        refine ⟨[], ?_, hturned.fresh hepisode (.inl ?_)⟩
        · simp [stretch, continues, hbefore]
        · cases hreset : isReset state.previous { sample with valid := true } with
          | true => rfl
          | false =>
            have hvalid := (isReset_iff.1 hreset).1
            rw [hknown] at hvalid
            cases hvalid
      | some p =>
        rw [hbefore] at hknown
        obtain ⟨hprevious, hvalid, hcounted⟩ := hknown
        cases hsame : sameGroup p { sample with valid := true } with
        | false =>
          refine ⟨[], ?_, hturned.fresh hepisode (.inl ?_)⟩
          · simp [stretch, continues, hbefore, hsample, hsame]
          · cases hreset : isReset state.previous { sample with valid := true } with
            | true => rfl
            | false =>
              have hgroup := (isReset_iff.1 hreset).2
              rw [hprevious, hsame] at hgroup
              cases hgroup
        | true =>
          refine ⟨stretch i (u :: log), ?_, ?_⟩
          · simp [stretch, continues, hbefore, hsample, hsame, hold, ht, hepisode]
          · refine hturned.goesOn hepisode ?_ (hcounted hold) ?_
            · rw [hprevious]
              exact isReset_iff.2 ⟨hvalid, hsame⟩
            · intro w hw job haccepted
              exact (hsound w (stretch_subset i _ hw) job haccepted).wanted

end

/-!
# Runs of the daemon
-/

variable {cfg : Config} {d d' : Daemon}

structure Ticked (cfg : Config) (d : Daemon) (v : Outlook) (t : Tick) (d' : Daemon) : Prop where
  time : t.time = v.machine.time
  episode : t.episode = v.episode
  log : d'.log = t :: d.log
  episode' : d'.episode = v.episode
  accepted : ∃ samples : ℕ → Option Sample, ∃ states : ℕ → State, ∃ globalRate : RollingLimit,
    (∀ i, t.sample i = (samples i).map ({ · with valid := true })) ∧
    (∀ i, cfg.apps.length ≤ i → states i =
      if headEpisode d.log = false ∧ v.episode = true then beginEpisode (d.states i)
      else d.states i) ∧
    (∀ i < cfg.apps.length, Turned cfg v (samples i)
      (if headEpisode d.log = false ∧ v.episode = true then beginEpisode (d.states i)
        else d.states i) (states i)) ∧
    (t.accepted = none ∧ d'.states = states ∧ d'.globalRate = globalRate ∧
        Looked v.machine.time d.globalRate globalRate ∨
      ∃ job, t.accepted = some job ∧ job.index < cfg.apps.length ∧
        Offered cfg v samples (fun i => if headEpisode d.log = false ∧ v.episode = true then
          beginEpisode (d.states i) else d.states i) d.globalRate states globalRate job ∧
        d'.globalRate = globalRate.charge v.machine.time job.requested ∧
        (∀ i ≠ job.index, d'.states i = states i) ∧
        (d'.states job.index).rate =
          (states job.index).rate.charge v.machine.time job.requested ∧
        (d'.states job.index).previous = (states job.index).previous ∧
        (d'.states job.index).episodeCap = (states job.index).episodeCap ∧
        (d'.states job.index).episodeSpent = add (states job.index).episodeSpent job.requested)

theorem begun_rate {b : Prop} [Decidable b] (state : State) :
    (if b then beginEpisode state else state).rate = state.rate := by
  split_ifs <;> rfl

theorem Turned.rate {v : Outlook} {sample : Option Sample} {state state' : State}
    (h : Turned cfg v sample state state') :
    state'.rate = state.rate ∨ state'.rate = (state.rate.used v.machine.time).2 := by
  cases h with
  | unread => exact .inl rfl
  | read hspent hcap hprevious hrate => exact .inr hrate

theorem ticked_limit {cap : ℕ} {ticks : List (Float × Option Bytes)} {r r' : RollingLimit}
    {now : Float} (h : RollingWindow.Ticked RollingLimit.past UInt64.toNat cap ticks r.history)
    (hr : Looked now r r') :
    RollingWindow.Ticked RollingLimit.past UInt64.toNat cap ((now, none) :: ticks) r'.history := by
  rcases hr with rfl | rfl
  · exact .skip h now
  · exact .look h now

theorem charged_limit {cap v : Bytes} {ticks : List (Float × Option Bytes)} {r : RollingLimit}
    {now : Float}
    (h : RollingWindow.Ticked RollingLimit.past UInt64.toNat cap.toNat ticks r.history)
    (hv : v.toNat ≤ (r.room now cap).1.toNat) :
    RollingWindow.Ticked RollingLimit.past UInt64.toNat cap.toNat ((now, some v) :: ticks)
      ((r.used now).2.charge now v).history :=
  .charge h now v (room_le r now cap h.total_le hv)

theorem Loop.ticked (hloop : Loop cfg d) {v : Outlook} {t : Tick} (h : Ticked cfg d v t d') :
    Loop cfg d' := by
  obtain ⟨htime, hepisode, hlog, hepisode', samples, states, globalRate, hsamples, hrest, hturned,
    haccepted⟩ := h
  have hsound : ∀ job, t.accepted = some job → Sound cfg t job := by
    intro job hjob
    rcases haccepted with ⟨hnone, -⟩ | ⟨job', hsome, hindex, hoffered, -⟩
    · rw [hnone] at hjob
      cases hjob
    · obtain rfl : job' = job := Option.some.inj (hsome.symm.trans hjob)
      obtain ⟨sample, hsample, hinode, hdevice⟩ := hoffered.sampled
      refine ⟨hepisode.trans hoffered.episode, hindex, hoffered.wanted, ?_⟩
      exact ⟨{ sample with valid := true }, by rw [hsamples, hsample]; rfl, hinode, hdevice⟩
  have hrate : ∀ i, Looked v.machine.time (d.states i).rate (states i).rate := by
    intro i
    by_cases hi : i < cfg.apps.length
    · have hturn := (hturned i hi).rate
      rw [begun_rate] at hturn
      exact hturn
    · rw [hrest i (by omega), begun_rate]
      exact .inl rfl
  refine ⟨?_, ?_, ?_, ?_, ?_⟩
  · intro i
    rw [hlog, List.map_cons, htime]
    rcases haccepted with ⟨hnone, hstates, -, -⟩ | ⟨job, hsome, hindex, hoffered, -, hother, hcharged, -⟩
    · have hplanned : t.planned i = none := by
        unfold Tick.planned
        rw [hnone]
      rw [hplanned, hstates]
      exact ticked_limit (hloop.minute i) (hrate i)
    · by_cases hi : job.index = i
      · subst hi
        have hplanned : t.planned job.index = some job.requested := by
          unfold Tick.planned
          rw [hsome]
          exact if_pos rfl
        rw [hplanned, hcharged]
        have hused : (states job.index).rate = ((d.states job.index).rate.used v.machine.time).2 := by
          obtain ⟨sample, hsample, -⟩ := hoffered.sampled
          have hturn := hturned job.index hindex
          rw [hsample] at hturn
          cases hturn with
          | read hspent hcap hprevious hrate =>
            rw [hrate, begun_rate]
        rw [hused]
        refine charged_limit (hloop.minute job.index) ?_
        have hminute := hoffered.minute
        rwa [begun_rate] at hminute
      · have hplanned : t.planned i = none := by
          unfold Tick.planned
          rw [hsome]
          exact if_neg hi
        rw [hplanned, hother i (Ne.symm hi)]
        exact ticked_limit (hloop.minute i) (hrate i)
  · rw [hlog, List.map_cons, htime]
    rcases haccepted with ⟨hnone, -, hglobal, hlooked⟩ | ⟨job, hsome, -, hoffered, hglobal, -⟩
    · have hplanned : t.plannedAll = none := by
        unfold Tick.plannedAll
        rw [hnone]
        rfl
      rw [hplanned, hglobal]
      exact ticked_limit hloop.whole hlooked
    · have hplanned : t.plannedAll = some job.requested := by
        unfold Tick.plannedAll
        rw [hsome]
        rfl
      rw [hplanned, hglobal, hoffered.used]
      exact charged_limit hloop.whole hoffered.whole
  · rw [hlog, hepisode']
    exact hepisode.symm
  · rw [hlog]
    intro u hu job hjob
    rcases List.mem_cons.1 hu with rfl | hold
    · exact hsound job hjob
    · exact hloop.sound u hold job hjob
  · intro i hi
    rw [hlog]
    have hturn := hturned i hi
    have hsample := hsamples i
    unfold Known
    dsimp only
    cases hread : samples i with
    | none =>
      rw [hread] at hturn hsample
      rw [hsample]
      change (d'.states i).previous.valid = false
      have hprevious : (d'.states i).previous = (states i).previous := by
        rcases haccepted with ⟨-, hstates, -⟩ | ⟨job, -, -, -, -, hother, -, hprevious, -⟩
        · rw [hstates]
        · by_cases hi : i = job.index
          · rw [hi]
            exact hprevious
          · rw [hother i hi]
      rw [hprevious]
      generalize states i = state' at hturn
      cases hturn with
      | unread => rfl
    | some sample =>
      rw [hread] at hturn hsample
      rw [hsample]
      change (d'.states i).previous = { sample with valid := true } ∧ true = true ∧
        (t.episode = true → Counted cfg.o i (stretch i (t :: d.log)) (d'.states i))
      have hcounters : (d'.states i).previous = (states i).previous ∧
          (d'.states i).episodeCap = (states i).episodeCap ∧
          (t.planned i = none ∧ (d'.states i).episodeSpent = (states i).episodeSpent ∨
            ∃ job : Job, t.planned i = some job.requested ∧
              job.requested.toNat ≤
                (sub (states i).episodeCap (states i).episodeSpent).toNat ∧
              (d'.states i).episodeSpent = add (states i).episodeSpent job.requested) := by
        rcases haccepted with ⟨hnone, hstates, -⟩ |
          ⟨job, hsome, -, hoffered, -, hother, -, hprevious, hcap, hspent⟩
        · rw [hstates]
          refine ⟨rfl, rfl, .inl ⟨?_, rfl⟩⟩
          unfold Tick.planned
          rw [hnone]
        · by_cases hindex : job.index = i
          · subst hindex
            refine ⟨hprevious, hcap, .inr ⟨job, ?_, hoffered.share, hspent⟩⟩
            unfold Tick.planned
            rw [hsome]
            exact if_pos rfl
          · rw [hother i (Ne.symm hindex)]
            refine ⟨rfl, rfl, .inl ⟨?_, rfl⟩⟩
            unfold Tick.planned
            rw [hsome]
            exact if_neg hindex
      obtain ⟨hprevious, hcap, hplanned⟩ := hcounters
      refine ⟨?_, rfl, fun hopen => ?_⟩
      · rw [hprevious]
        generalize states i = state' at hturn
        cases hturn with
        | read hspent hcap hprev hrate => exact hprev
      · obtain ⟨ticks, hstretch, hready⟩ := (hloop.known i hi).ready hloop.sound
          (hepisode.symm.trans hopen) hepisode hsample hturn
        rw [hstretch]
        rcases hplanned with ⟨hnone, hspent⟩ | ⟨job, hsome, hroom, hspent⟩
        · refine hready.counted hnone hsample hcap ?_ (Nat.zero_le _)
          rw [hspent]
          rfl
        · rw [sub_toNat] at hroom
          have hlt := (states i).episodeCap.toNat_lt
          have hwithin : (states i).episodeSpent.toNat + job.requested.toNat < 2 ^ 64 := by
            by_cases hzero : (states i).episodeSpent = 0
            · have hrequested := job.requested.toNat_lt
              rw [hzero, UInt64.toNat_zero]
              omega
            · have hle := hready.within hzero
              omega
          refine hready.counted hsome hsample hcap ?_ hroom
          rw [hspent, add_toNat]
          change _ = _ + job.requested.toNat
          omega

theorem takeResult_frame (cfg : Config) (d : Daemon) (now : Float) :
    (takeResult cfg d now).log = d.log ∧ (takeResult cfg d now).globalRate = d.globalRate ∧
      (takeResult cfg d now).episode = d.episode ∧ (takeResult cfg d now).jobs = d.jobs ∧
      (takeResult cfg d now).attempts = d.attempts ∧
      (takeResult cfg d now).worker = { d.worker with completed := none } ∧
      ∀ i, SameCounters (d.states i) ((takeResult cfg d now).states i) := by
  unfold takeResult Worker.take
  cases d.worker.completed with
  | none => exact ⟨rfl, rfl, rfl, rfl, rfl, rfl, fun i => .refl _⟩
  | some r =>
    refine ⟨rfl, rfl, rfl, rfl, rfl, rfl, fun i => ?_⟩
    dsimp only
    by_cases hi : i = r.index
    · rw [hi, Function.update_self]
      exact settle_counters cfg now _ r
    · rw [Function.update_of_ne hi]
      exact .refl _

def Submitted (d : Daemon) (t : Tick) (d' : Daemon) : Prop :=
  t.accepted = none ∧ d'.worker = d.worker ∧ d'.jobs = d.jobs ∨
    ∃ job, t.accepted = some job ∧ d.worker.busy = false ∧
      d'.worker = { d.worker with pending := some job } ∧ job.serial = d.jobs ∧
      d'.jobs = d.jobs + 1

theorem Loop.taken (hloop : Loop cfg d) (now : Float) : Loop cfg (takeResult cfg d now) := by
  obtain ⟨hlog, hglobal, hepisode, -, -, -, hstates⟩ := takeResult_frame cfg d now
  exact hloop.frame hlog hglobal hepisode hstates

theorem tick_cases (hepisode : d.episode = headEpisode d.log) (r : TickReading) :
    tick cfg d r = d ∨ tick cfg d r = { takeResult cfg d r.now with ended := true } ∨
      ∃ v t, Ticked cfg (takeResult cfg d r.now) v t (tick cfg d r) ∧
        Submitted (takeResult cfg d r.now) t (tick cfg d r) ∧
        (tick cfg d r).attempts = d.attempts := by
  obtain ⟨hlog, -, hepisode', -, hattempts, -, -⟩ := takeResult_frame cfg d r.now
  have hhead : (takeResult cfg d r.now).episode = headEpisode (takeResult cfg d r.now).log := by
    rw [hepisode', hlog]
    exact hepisode
  unfold tick
  by_cases hended : d.ended = true
  · rw [if_pos hended]
    exact .inl rfl
  rw [if_neg hended]
  right
  dsimp only
  rw [← hattempts]
  generalize takeResult cfg d r.now = taken at *
  cases r.machine with
  | none => exact .inl rfl
  | some s =>
    right
    dsimp only
    generalize taken.predictor.update s cfg.o.horizonSec (cfg.o.maxDeclineMBps * MiB.toFloat) = f
    have hmachine : (look cfg taken r s f.1).machine = s := rfl
    generalize look cfg taken r s f.1 = v at *
    have hstates : (if taken.episode = false ∧ v.episode = true then
          fun i => beginEpisode (taken.states i) else taken.states) =
        fun i => if headEpisode taken.log = false ∧ v.episode = true then
          beginEpisode (taken.states i) else taken.states i := by
      rw [hhead]
      split_ifs <;> rfl
    rw [hstates]
    obtain ⟨hframe, hturned, hlooked, hbest⟩ := visitApps_spec cfg (v := v) r.samples
      cfg.apps 0 (fun i => if headEpisode taken.log = false ∧ v.episode = true then
          beginEpisode (taken.states i) else taken.states i) taken.globalRate none
    generalize visitApps cfg v r.samples cfg.apps 0 _ taken.globalRate none = result at *
    simp only [Nat.zero_add, Nat.not_lt_zero, false_or, Nat.zero_le, true_and, forall_const,
      reduceCtorEq] at hframe hturned hbest
    have hnone : ∀ {d₂ : Daemon} (stop : Bool), d₂ = { taken with
          predictor := f.2, lastSys := some s, episode := v.episode, states := result.1
          globalRate := result.2.1 } →
        ∃ v' t, Ticked cfg taken v' t { d₂ with
            log := ⟨s.time, v.episode, fun i => (r.samples i).map ({ · with valid := true }),
              none⟩ :: d₂.log
            ended := stop } ∧
          Submitted taken t { d₂ with
            log := ⟨s.time, v.episode, fun i => (r.samples i).map ({ · with valid := true }),
              none⟩ :: d₂.log
            ended := stop } ∧ d₂.attempts = taken.attempts := by
      rintro d₂ stop rfl
      exact ⟨v, _, ⟨by rw [hmachine], rfl, rfl, rfl, r.samples, result.1, result.2.1, fun _ => rfl,
        hframe, hturned, .inl ⟨rfl, rfl, rfl, hlooked⟩⟩, .inl ⟨rfl, rfl, rfl⟩, rfl⟩
    cases hjob : result.2.2 with
    | none => exact hnone r.stopping rfl
    | some job =>
      dsimp only
      by_cases hstopping : r.stopping = true
      · rw [if_pos hstopping]
        exact hnone r.stopping rfl
      rw [if_neg hstopping]
      unfold submitBest Worker.submit
      dsimp only
      by_cases hbusy : taken.worker.busy = true
      · rw [if_pos hbusy]
        exact hnone r.stopping rfl
      rw [if_neg hbusy]
      obtain ⟨hindex, hoffered⟩ := hbest job hjob
      refine ⟨v, _, ⟨by rw [hmachine], rfl, rfl, rfl, r.samples, result.1, result.2.1,
        fun _ => rfl, hframe, hturned, .inr ⟨_, rfl, hindex, ?_, ?_, ?_, ?_, ?_, ?_, ?_⟩⟩,
        .inr ⟨_, rfl, Bool.not_eq_true _ ▸ hbusy, rfl, rfl, rfl⟩, rfl⟩
      · obtain ⟨h1, h2, h3, h4, h5, h6, h7, h8⟩ := hoffered
        exact ⟨h1, h2, h3, h4, h5, h6, h7, h8⟩
      · dsimp only
        rw [hmachine]
      · intro i hi
        exact Function.update_of_ne hi _ _
      all_goals
        dsimp only
        rw [Function.update_self]
      rw [hmachine]

theorem loop_step (s : Daemon) (i : Input) (hloop : Loop cfg s) : Loop cfg (step cfg s i).2 := by
  cases i with
  | tick r =>
    change Loop cfg (tick cfg s r)
    rcases tick_cases hloop.episode r with hsame | hfailed | ⟨v, t, hticked, -, -⟩
    · rw [hsame]
      exact hloop
    · rw [hfailed]
      exact (hloop.taken r.now).frame rfl rfl rfl fun i => .refl _
    · exact (hloop.taken r.now).ticked hticked
  | turn r => exact hloop.frame rfl rfl rfl fun i => .refl _

end Parp.ReclaimDaemon
