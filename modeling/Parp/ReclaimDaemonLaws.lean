import Mathlib.Algebra.Order.Group.Nat
import Parp.ReclaimDaemon

set_option autoImplicit false

/-!
# Budgets, limits and the turn of an application
-/
namespace Parp.ReclaimDaemon

open Memshift

section

variable (a b : Bytes)

theorem lesser_le_left : (lesser a b).toNat ≤ a.toNat := by
  unfold lesser
  split_ifs with h
  · exact Nat.le_of_lt (UInt64.lt_iff_toNat_lt.1 h)
  · exact Nat.le_refl _

theorem lesser_le_right : (lesser a b).toNat ≤ b.toNat := by
  unfold lesser
  split_ifs with h
  · exact Nat.le_refl _
  · exact UInt64.le_iff_toNat_le.1 (UInt64.not_lt.1 h)

theorem greater_eq : greater a b = a ∨ greater a b = b := by
  unfold greater
  split_ifs
  · exact .inr rfl
  · exact .inl rfl

theorem greater_zero_left : greater 0 b = b := by
  unfold greater
  split_ifs with h
  · rfl
  · rw [UInt64.lt_iff_toNat_lt, UInt64.toNat_zero] at h
    rw [← UInt64.toNat_inj, UInt64.toNat_zero]
    omega

end

section

variable {o : Options} {app : App} {f : Features} {s : System} {gap globalRoom page : Bytes}

structure Affordable (f : Features) (gap globalRoom bytes : Bytes) : Prop where
  episode : bytes.toNat ≤ f.episodeRoom.toNat
  minute : bytes.toNat ≤ f.minuteRoom.toNat
  whole : bytes.toNat ≤ globalRoom.toNat
  gap : bytes.toNat ≤ gap.toNat

theorem affordable_zero : Affordable f gap globalRoom 0 :=
  ⟨Nat.zero_le _, Nat.zero_le _, Nat.zero_le _, Nat.zero_le _⟩

theorem Affordable.round {q : Bytes} (h : Affordable f gap globalRoom q) (page : Bytes) :
    Affordable f gap globalRoom (q - q % page) := by
  have hle : (q - q % page).toNat ≤ q.toNat := by
    have hmod : (q % page).toNat ≤ q.toNat := by
      rw [UInt64.toNat_mod]
      exact Nat.mod_le _ _
    rw [UInt64.toNat_sub_of_le _ _ (UInt64.le_iff_toNat_le.2 hmod)]
    exact Nat.sub_le _ _
  exact ⟨hle.trans h.episode, hle.trans h.minute, hle.trans h.whole, hle.trans h.gap⟩

theorem quota_affordable (first second batch : Bytes) : Affordable f gap globalRoom
    (lesser (lesser (lesser (lesser (lesser (lesser first second) f.episodeRoom) f.minuteRoom)
      globalRoom) gap) batch) where
  episode := (lesser_le_left _ _).trans <| (lesser_le_left _ _).trans <|
    (lesser_le_left _ _).trans <| (lesser_le_left _ _).trans (lesser_le_right _ _)
  minute := (lesser_le_left _ _).trans <| (lesser_le_left _ _).trans <|
    (lesser_le_left _ _).trans (lesser_le_right _ _)
  whole := (lesser_le_left _ _).trans <| (lesser_le_left _ _).trans (lesser_le_right _ _)
  gap := (lesser_le_left _ _).trans (lesser_le_right _ _)

theorem affordable_unless {P : Prop} [Decidable P] {why : String} {b : Budget}
    (h : Affordable f gap globalRoom b.bytes) :
    Affordable f gap globalRoom (if P then (⟨0, 0, why⟩ : Budget) else b).bytes := by
  by_cases hP : P
  · rw [if_pos hP]
    exact affordable_zero
  · rw [if_neg hP]
    exact h

theorem affordable_batch {q cold : Bytes} (h : Affordable f gap globalRoom q) :
    Affordable f gap globalRoom
      (if q < o.minBatch then (⟨0, cold, "budget_too_small"⟩ : Budget)
        else ⟨q, cold, "eligible"⟩).bytes := by
  by_cases hsmall : q < o.minBatch
  · rw [if_pos hsmall]
    exact affordable_zero
  · rw [if_neg hsmall]
    exact h

theorem donorBudget_affordable :
    Affordable f gap globalRoom (donorBudget o app f s gap globalRoom page).bytes := by
  unfold donorBudget
  iterate 7 apply affordable_unless
  exact affordable_unless (affordable_batch ((quota_affordable _ _ _).round page))

end

section

variable (r : RollingLimit) (now : Float) (cap : Bytes)

theorem room_le {v : Bytes} (hkept : RollingWindow.total UInt64.toNat r.history ≤ cap.toNat)
    (hv : v.toNat ≤ (r.room now cap).1.toNat) :
    RollingWindow.total UInt64.toNat (RollingWindow.live RollingLimit.past now r.history) + v.toNat ≤
      cap.toNat := by
  have hlive := RollingWindow.total_live_le RollingLimit.past UInt64.toNat now r.history
  have hcap := cap.toNat_lt
  have hused : (r.used now).1.toNat =
      RollingWindow.total UInt64.toNat (RollingWindow.live RollingLimit.past now r.history) := by
    unfold RollingLimit.used
    dsimp only
    rw [foldl_add_toNat, UInt64.toNat_zero]
    change min (0 + RollingWindow.total UInt64.toNat _) _ = _
    omega
  change v.toNat ≤ (sub cap (r.used now).1).toNat at hv
  rw [sub_toNat, hused] at hv
  omega

end

/-!
# What a tick does to the applications
-/

variable {cfg : Config} {v : Outlook}

structure SameCounters (s s' : State) : Prop where
  previous : s'.previous = s.previous
  episodeCap : s'.episodeCap = s.episodeCap
  episodeSpent : s'.episodeSpent = s.episodeSpent
  rate : s'.rate = s.rate

theorem SameCounters.refl (s : State) : SameCounters s s := ⟨rfl, rfl, rfl, rfl⟩

theorem settle_counters (cfg : Config) (now : Float) (state : State) (r : Result) :
    SameCounters state (settle cfg now state r) := by
  unfold settle
  dsimp only
  by_cases hsame : r.before.valid = false ∨
      (state.previous.inode = r.before.inode ∧ state.previous.device = r.before.device)
  · rw [if_pos hsame]
    split
    all_goals
      split_ifs <;> exact ⟨rfl, rfl, rfl, rfl⟩
  · rw [if_neg hsame]
    exact .refl state

theorem track_counters (cfg : Config) (s : System) (state : State) (prev cur : Sample) :
    SameCounters state (track cfg s state prev cur).1 := by
  unfold track
  dsimp only
  by_cases hfollows : prev.valid = true ∧ state.lastTime < s.time
  · rw [if_pos hfollows]
    generalize (if cur.psi.valid = true ∧ prev.psi.valid = true then _ else cur.psi.some10) = appSome
    split_ifs <;> exact ⟨rfl, rfl, rfl, rfl⟩
  · rw [if_neg hfollows]
    exact .refl state

def sameGroup (p c : Sample) : Bool :=
  p.inode == c.inode && p.device == c.device && (p.populated || !c.populated) &&
    decide (p.pgfault ≤ c.pgfault) && decide (p.refault ≤ c.refault)

theorem isReset_iff {prev cur : Sample} :
    isReset prev cur = false ↔ prev.valid = true ∧ sameGroup prev cur = true := by
  have hle : ∀ a b : Bytes, decide (a < b) = !decide (b ≤ a) := by
    intro a b
    by_cases h : a < b
    · rw [decide_eq_true h, decide_eq_false (fun hle => UInt64.not_lt.2 hle h)]
      rfl
    · rw [decide_eq_false h, decide_eq_true (UInt64.not_lt.1 h)]
      rfl
  unfold isReset sameGroup
  rw [hle, hle]
  simp only [Bool.or_eq_false_iff, Bool.and_eq_true, bne_eq_false_iff_eq, beq_iff_eq,
    Bool.not_eq_false', Bool.and_eq_false_iff, Bool.or_eq_true, Bool.not_eq_true', decide_eq_true_eq]
  simp only [and_assoc]

structure Refreshed (cfg : Config) (v : Outlook) (state state' : State) (cur : Sample) : Prop where
  episodeSpent : state'.episodeSpent =
    if isReset state.previous cur = true then 0 else state.episodeSpent
  episodeCap : state'.episodeCap =
    let cap := if isReset state.previous cur = true then 0 else state.episodeCap
    if v.episode = true ∧ state'.episodeSpent = 0 then greater cap (share cfg.o cur.current) else cap
  rate : state'.rate = state.rate

theorem restart_spec (s : System) (state : State) (cur : Sample) :
    (restart s state cur).1.episodeSpent =
        (if isReset state.previous cur = true then 0 else state.episodeSpent) ∧
      (restart s state cur).1.episodeCap =
        (if isReset state.previous cur = true then 0 else state.episodeCap) ∧
      (restart s state cur).1.rate = state.rate := by
  unfold restart
  split_ifs <;> exact ⟨rfl, rfl, rfl⟩

theorem refresh_spec (state : State) (cur : Sample) :
    Refreshed cfg v state (refresh cfg v state cur).1 cur := by
  obtain ⟨hspent, hcap, hrate⟩ := restart_spec v.machine state cur
  unfold refresh
  generalize restart v.machine state cur = restarted at *
  have hcounters := track_counters cfg v.machine restarted.1 restarted.2 cur
  dsimp only
  generalize track cfg v.machine restarted.1 restarted.2 cur = tracked at *
  by_cases hopen : v.episode = true ∧ tracked.1.episodeSpent = 0
  · rw [if_pos hopen]
    refine ⟨hcounters.episodeSpent.trans hspent, ?_, hcounters.rate.trans hrate⟩
    dsimp only
    rw [if_pos hopen, hcounters.episodeCap, hcap]
  · rw [if_neg hopen]
    refine ⟨hcounters.episodeSpent.trans hspent, ?_, hcounters.rate.trans hrate⟩
    dsimp only
    rw [if_neg hopen, hcounters.episodeCap, hcap]

/-- What an application's turn makes of a sample, and the job it offers. -/
structure Visited (cfg : Config) (v : Outlook) (index : ℕ) (app : App) (state : State)
    (globalRate : RollingLimit) (cur : Sample) (state' : State) (globalRate' : RollingLimit)
    (job : Option Job) : Prop where
  spent : state'.episodeSpent = if isReset state.previous cur = true then 0 else state.episodeSpent
  cap : state'.episodeCap =
    let cap := if isReset state.previous cur = true then 0 else state.episodeCap
    if v.episode = true ∧ state'.episodeSpent = 0 then greater cap (share cfg.o cur.current) else cap
  previous : state'.previous = cur
  rate : state'.rate = (state.rate.used v.machine.time).2
  whole : globalRate' = (globalRate.used v.machine.time).2
  offer : ∀ j, job = some j → v.episode = true ∧ v.block = "" ∧ j.index = index ∧ j.app = app ∧
    j.requested ≠ 0 ∧ j.features.now.inode = cur.inode ∧ j.features.now.device = cur.device ∧
    j.requested.toNat ≤ (sub state'.episodeCap state'.episodeSpent).toNat ∧
    j.requested.toNat ≤ (state.rate.room v.machine.time cfg.o.appPerMinute).1.toNat ∧
    j.requested.toNat ≤ (globalRate.room v.machine.time cfg.o.perMinute).1.toNat

theorem overrule_bytes {o : Options} {state : State} {b : Budget}
    (h : (overrule o v state b).bytes ≠ 0) :
    v.episode = true ∧ v.block = "" ∧ (overrule o v state b).bytes = b.bytes := by
  unfold overrule at h ⊢
  dsimp only at h ⊢
  by_cases hreserve : v.episode = false ∨ v.gap < o.minBatch
  · rw [if_pos hreserve] at h
    exact absurd rfl h
  · rw [if_neg hreserve] at h ⊢
    by_cases hblock : v.block = ""
    · rw [if_neg (not_not.2 hblock)] at h ⊢
      refine ⟨?_, hblock, ?_⟩
      · cases hepisode : v.episode with
        | true => rfl
        | false => exact absurd (.inl hepisode) hreserve
      · split_ifs at h ⊢ <;> first | exact absurd rfl h | rfl
    · rw [if_pos hblock] at h
      exact absurd rfl h

variable (cfg) in
theorem visitApp_spec (index : ℕ) (app : App) (sample : Sample) (state : State)
    (globalRate : RollingLimit) :
    Visited cfg v index app state globalRate { sample with valid := true }
      (visitApp cfg v index app (some sample) state globalRate).1
      (visitApp cfg v index app (some sample) state globalRate).2.1
      (visitApp cfg v index app (some sample) state globalRate).2.2 := by
  have hrefreshed : Refreshed cfg v state _ { sample with valid := true } := refresh_spec state _
  unfold visitApp
  dsimp only
  generalize refresh cfg v state { sample with valid := true } = refreshed at *
  obtain ⟨hspent, hcap, hrate⟩ := hrefreshed
  refine ⟨hspent, hcap, rfl, ?_, rfl, ?_⟩
  · dsimp only [RollingLimit.room]
    rw [hrate]
  · intro j hj
    split_ifs at hj with hnone
    obtain ⟨hepisode, hblock, hbytes⟩ := overrule_bytes hnone
    rw [← Option.some.inj hj]
    dsimp only
    rw [hbytes]
    refine ⟨hepisode, hblock, rfl, rfl, ?_, rfl, rfl, donorBudget_affordable.episode, ?_,
      donorBudget_affordable.whole⟩
    · rw [← hbytes]
      exact hnone
    · rw [← hrate]
      exact donorBudget_affordable.minute

@[simp] theorem used_used (r : RollingLimit) (now : Float) :
    (r.used now).2.used now = r.used now := by
  simp only [RollingLimit.used, RollingWindow.live_live]

inductive Turned (cfg : Config) (v : Outlook) : Option Sample → State → State → Prop
  | unread (state : State) : Turned cfg v none state { state with previous := {} }
  | read {sample : Sample} {state state' : State}
      (hspent : state'.episodeSpent =
        if isReset state.previous { sample with valid := true } = true then 0
        else state.episodeSpent)
      (hcap : state'.episodeCap =
        let cap := if isReset state.previous { sample with valid := true } = true then 0
          else state.episodeCap
        if v.episode = true ∧ state'.episodeSpent = 0 then greater cap (share cfg.o sample.current)
        else cap)
      (hprevious : state'.previous = { sample with valid := true })
      (hrate : state'.rate = (state.rate.used v.machine.time).2) :
      Turned cfg v (some sample) state state'

structure Offered (cfg : Config) (v : Outlook) (samples : ℕ → Option Sample) (states : ℕ → State)
    (globalRate : RollingLimit) (states' : ℕ → State) (globalRate' : RollingLimit) (job : Job) :
    Prop where
  episode : v.episode = true
  block : v.block = ""
  wanted : job.requested ≠ 0
  sampled : ∃ sample, samples job.index = some sample ∧ job.features.now.inode = sample.inode ∧
    job.features.now.device = sample.device
  share : job.requested.toNat ≤
    (sub (states' job.index).episodeCap (states' job.index).episodeSpent).toNat
  minute : job.requested.toNat ≤
    ((states job.index).rate.room v.machine.time cfg.o.appPerMinute).1.toNat
  whole : job.requested.toNat ≤ (globalRate.room v.machine.time cfg.o.perMinute).1.toNat
  used : globalRate' = (globalRate.used v.machine.time).2

def Looked (now : Float) (r r' : RollingLimit) : Prop := r' = r ∨ r' = (r.used now).2

theorem Looked.trans {now : Float} {r r' r'' : RollingLimit} (h : Looked now r r')
    (h' : Looked now r' r'') : Looked now r r'' := by
  rcases h with rfl | rfl
  · exact h'
  · rcases h' with rfl | rfl
    · exact .inr rfl
    · exact .inr (by rw [used_used])

theorem Looked.used {now : Float} {r r' : RollingLimit} (h : Looked now r r') :
    r'.used now = r.used now := by
  rcases h with rfl | rfl
  · rfl
  · exact used_used r now

theorem better_cases {best job : Option Job} {j : Job} (h : better best job = some j) :
    best = some j ∨ job = some j := by
  unfold better at h
  cases best with
  | none =>
    cases job with
    | none => exact .inl h
    | some job => exact .inr h
  | some best =>
    cases job with
    | none => exact .inl h
    | some job =>
      dsimp only at h
      split_ifs at h
      · exact .inr h
      · exact .inl h

variable (cfg) in
theorem visitApps_spec (samples : ℕ → Option Sample) (apps : List App) (i : ℕ)
    (states : ℕ → State) (globalRate : RollingLimit) (best : Option Job) :
    (∀ j, j < i ∨ i + apps.length ≤ j →
        (visitApps cfg v samples apps i states globalRate best).1 j = states j) ∧
      (∀ j, i ≤ j → j < i + apps.length → Turned cfg v (samples j) (states j)
        ((visitApps cfg v samples apps i states globalRate best).1 j)) ∧
      Looked v.machine.time globalRate
        (visitApps cfg v samples apps i states globalRate best).2.1 ∧
      ∀ job, (visitApps cfg v samples apps i states globalRate best).2.2 = some job →
        best = some job ∨ (i ≤ job.index ∧ job.index < i + apps.length ∧
          Offered cfg v samples states globalRate
            (visitApps cfg v samples apps i states globalRate best).1
            (visitApps cfg v samples apps i states globalRate best).2.1 job) := by
  induction apps generalizing i states globalRate best with
  | nil =>
    refine ⟨fun _ _ => rfl, fun j hj hlt => ?_, .inl rfl, fun job hjob => .inl hjob⟩
    simp only [List.length_nil] at hlt
    omega
  | cons app apps ih =>
    have hvisit : Turned cfg v (samples i) (states i)
          (visitApp cfg v i app (samples i) (states i) globalRate).1 ∧
        Looked v.machine.time globalRate
          (visitApp cfg v i app (samples i) (states i) globalRate).2.1 ∧
        ∀ job, (visitApp cfg v i app (samples i) (states i) globalRate).2.2 = some job →
          ∃ sample, samples i = some sample ∧ Visited cfg v i app (states i) globalRate
            { sample with valid := true }
            (visitApp cfg v i app (samples i) (states i) globalRate).1
            (visitApp cfg v i app (samples i) (states i) globalRate).2.1
            (visitApp cfg v i app (samples i) (states i) globalRate).2.2 := by
      cases hsample : samples i with
      | none => exact ⟨.unread _, .inl rfl, fun job hjob => nomatch hjob⟩
      | some sample =>
        have hspec := visitApp_spec cfg (v := v) i app sample (states i) globalRate
        exact ⟨.read hspec.spent hspec.cap hspec.previous hspec.rate, .inr hspec.whole,
          fun job hjob => ⟨sample, rfl, hspec⟩⟩
    unfold visitApps
    generalize visitApp cfg v i app (samples i) (states i) globalRate = visit at *
    obtain ⟨hturned, hlooked, hoffer⟩ := hvisit
    obtain ⟨hframe, hrest, hglobal, hbest⟩ :=
      ih (i + 1) (Function.update states i visit.1) visit.2.1 (better best visit.2.2)
    dsimp only
    generalize visitApps cfg v samples apps (i + 1) (Function.update states i visit.1) visit.2.1
      (better best visit.2.2) = result at *
    have hself : result.1 i = visit.1 := by
      rw [hframe i (.inl (Nat.lt_succ_self i)), Function.update_self]
    simp only [List.length_cons]
    refine ⟨?_, ?_, hlooked.trans hglobal, ?_⟩
    · intro j hj
      rw [hframe j (by omega), Function.update_of_ne (by omega)]
    · intro j hj hlt
      by_cases hji : j = i
      · rw [hji, hself]
        exact hturned
      · have hnext := hrest j (by omega) (by omega)
        rwa [Function.update_of_ne hji] at hnext
    · intro job hjob
      rcases hbest job hjob with hnow | ⟨hle, hlt, hoffered⟩
      · rcases better_cases hnow with hbefore | hthis
        · exact .inl hbefore
        · right
          obtain ⟨sample, hsample, hvisited⟩ := hoffer job hthis
          obtain ⟨hepisode, hblock, hindex, -, hsome, hinode, hdevice, hshare, hminute, hwhole⟩ :=
            hvisited.offer job hthis
          rw [hindex]
          refine ⟨Nat.le_refl _, by omega, hepisode, hblock, hsome, ?_, ?_, ?_, hwhole, ?_⟩
          · rw [hindex]
            exact ⟨sample, hsample, hinode, hdevice⟩
          · rw [hindex, hself]
            exact hshare
          · rw [hindex]
            exact hminute
          · rcases hglobal with hsame | hused
            · rw [hsame, hvisited.whole]
            · rw [hused, hvisited.whole, used_used]
      · right
        have hne : job.index ≠ i := by omega
        refine ⟨by omega, by omega, hoffered.episode, hoffered.block, hoffered.wanted,
          hoffered.sampled, hoffered.share, ?_, ?_, ?_⟩
        · have hminute := hoffered.minute
          rwa [Function.update_of_ne hne] at hminute
        · have hwhole := hoffered.whole
          unfold RollingLimit.room at hwhole ⊢
          rwa [hlooked.used] at hwhole
        · rw [hoffered.used, hlooked.used]

end Parp.ReclaimDaemon
