import Parp.AppReclaimSteps

set_option autoImplicit false

namespace Parp.AppReclaim

open TransitionRuns List

variable {App Event Vocab : Type} [LinearOrder App] [DecidableEq Event]

def attempts (setup : Setup App Vocab) (calls : List (Call App Event Vocab)) :
    List (Attempt App Event) :=
  (outputs (controllerStep setup) {} calls).filterMap Outcome.attempt

def successes (writes : List (Attempt App Event)) : List (Attempt App Event) :=
  writes.filter fun w => w.success

def requestedOf (writes : List (Attempt App Event)) : ℤ :=
  (writes.map Attempt.requestedBytes).sum

/-- The limits that are charged with the write's own application, bytes and time. -/
structure ChargedLimits (cfg : ReclaimConfig) (writes : List (Attempt App Event)) : Prop where
  perApp : ∀ app, requestedOf (writes.filter fun w => w.app = app) ≤ cfg.maxPerAppSession
  overall : requestedOf writes ≤ cfg.maxGlobalSession
  perMinute : ∀ startNs : ℤ, writes.countP (fun w =>
    startNs ≤ w.timestampNs ∧ w.timestampNs < startNs + 60000000000) ≤ cfg.maxActionsPerMinute
  globalCooldown : writes.Pairwise fun a b =>
    a.timestampNs + cfg.globalCooldownMs * 1000000 ≤ b.timestampNs
  perAppCooldown : writes.Pairwise fun a b =>
    a.app = b.app → a.timestampNs + cfg.perAppCooldownMs * 1000000 ≤ b.timestampNs

structure SessionLimits (cfg : ReclaimConfig) (writes : List (Attempt App Event)) : Prop
    extends ChargedLimits cfg writes where
  perEpisode : ∀ event, writes.countP (fun w => w.triggerEventId = event) ≤ cfg.maxActionsPerEpisode

structure ByteLedger (writes : List (Attempt App Event)) (s : Controller App Event) : Prop where
  appBytes : ∀ app, s.appBytes app = requestedOf ((successes writes).filter fun w => w.app = app)
  globalBytes : s.globalBytes = requestedOf (successes writes)

/-- What the other counters say about the writes of a session with calls at `times`. -/
structure Ledger (cfg : ReclaimConfig) (times : List ℤ) (writes : List (Attempt App Event))
    (s : Controller App Event) : Prop where
  lastApp : ∀ w ∈ successes writes, ∃ last ∈ s.lastAppReclaimNs w.app, w.timestampNs ≤ last
  lastGlobal : ∀ w ∈ successes writes,
    s.lastGlobalReclaimNs ≠ 0 ∧ w.timestampNs ≤ s.lastGlobalReclaimNs
  actionTimes : ∀ nowNs : ℤ, (∀ t ∈ times, t ≤ nowNs) →
    (s.actionTimesNs.filter fun t => nowNs - t < 60000000000) =
      ((successes writes).map Attempt.timestampNs).filter fun t => nowNs - t < 60000000000
  episodes : ∀ event, writes.countP (fun w => w.triggerEventId = event) ≤ s.actionsPerEpisode event
  episodesLe : ∀ event, s.actionsPerEpisode event ≤ cfg.maxActionsPerEpisode
  timely : ∀ w ∈ successes writes, w.timestampNs ∈ times
  limits : ChargedLimits cfg (successes writes)

section

omit [LinearOrder App] [DecidableEq Event]

theorem successes_append (writes more : List (Attempt App Event)) :
    successes (writes ++ more) = successes writes ++ successes more := filter_append ..

theorem successes_concat (writes : List (Attempt App Event)) {w : Attempt App Event}
    (hok : w.success = true) : successes (writes ++ [w]) = successes writes ++ [w] := by
  rw [successes_append]
  simp [successes, hok]

theorem successes_failed (writes : List (Attempt App Event)) {w : Attempt App Event}
    (hfail : w.success = false) : successes (writes ++ [w]) = successes writes := by
  rw [successes_append]
  simp [successes, hfail]

theorem requestedOf_append (writes more : List (Attempt App Event)) :
    requestedOf (writes ++ more) = requestedOf writes + requestedOf more := by
  simp [requestedOf]

theorem requestedOf_singleton (w : Attempt App Event) : requestedOf [w] = w.requestedBytes := by
  simp [requestedOf]

theorem filter_recent (times : List ℤ) {nowNs laterNs : ℤ} (h : nowNs ≤ laterNs) :
    (times.filter fun t => nowNs - t < 60000000000).filter (fun t => laterNs - t < 60000000000) =
      times.filter fun t => laterNs - t < 60000000000 := by
  rw [filter_filter]
  apply filter_congr
  intro t _
  have himp : laterNs - t < 60000000000 → nowNs - t < 60000000000 := by omega
  by_cases hlater : laterNs - t < 60000000000
  · simp [hlater, himp hlater]
  · simp [hlater]

end

section

omit [DecidableEq Event]

variable {writes : List (Attempt App Event)} {s s' : Controller App Event}

theorem ByteLedger.congr (h : ByteLedger writes s) (hsame : SameCharges s s') :
    ByteLedger writes s' where
  appBytes := hsame.appBytes ▸ h.appBytes
  globalBytes := hsame.globalBytes ▸ h.globalBytes

theorem ByteLedger.failed (h : ByteLedger writes s) {w : Attempt App Event}
    (hfail : w.success = false) : ByteLedger (writes ++ [w]) s where
  appBytes := successes_failed writes hfail ▸ h.appBytes
  globalBytes := successes_failed writes hfail ▸ h.globalBytes

theorem ByteLedger.succeeded (h : ByteLedger writes s) {w : Attempt App Event}
    (hok : w.success = true) :
    ByteLedger (writes ++ [w]) (charged s w.app w.requestedBytes w.timestampNs) where
  appBytes app := by
    rw [successes_concat writes hok, filter_append, requestedOf_append, ← h.appBytes]
    change Function.update s.appBytes w.app _ app = _
    by_cases heq : app = w.app
    · subst heq
      simp [requestedOf]
    · simp [requestedOf, Function.update_of_ne heq, Ne.symm heq]
  globalBytes := by
    rw [successes_concat writes hok, requestedOf_append, requestedOf_singleton, ← h.globalBytes]
    rfl

end

theorem bytes_step (setup : Setup App Vocab) {writes : List (Attempt App Event)}
    {s : Controller App Event} (call : Call App Event Vocab) (h : ByteLedger writes s) :
    ByteLedger (writes ++ (controllerStep setup s call).1.attempt.toList)
      (controllerStep setup s call).2 := by
  cases call with
  | tick nowNs final after1s =>
    change ByteLedger (writes ++ []) (tick setup.cfg s nowNs final after1s)
    rw [append_nil]
    exact h.congr (tick_ticked setup.cfg s nowNs final after1s).toSameCharges
  | observe batch =>
    change ByteLedger (writes ++ (observePrediction setup s batch).1.attempt.toList)
      (observePrediction setup s batch).2
    have hentered := h.congr (entered_sameCharges setup s batch)
    have hpruned : ByteLedger writes (episodeCharged
        (pruned (entered setup s batch) batch.nowNs) batch.triggerEventId) :=
      ⟨hentered.appBytes, hentered.globalBytes⟩
    have hcase := observePrediction_cases setup s batch
    generalize (observePrediction setup s batch).1 = o at hcase ⊢
    generalize (observePrediction setup s batch).2 = s' at hcase ⊢
    cases hcase with
    | off hnone hmode =>
      rw [hnone, Option.toList_none, append_nil]
      exact h
    | skipped hnone =>
      rw [hnone, Option.toList_none, append_nil]
      exact hentered
    | ranked hnone =>
      rw [hnone, Option.toList_none, append_nil]
      exact ⟨hentered.appBytes, hentered.globalBytes⟩
    | applied c hmode hready habort heligible hfree hepisode hattempt =>
      rw [hattempt]
      have hcase := applyReclaim_cases setup (episodeCharged
        (pruned (entered setup s batch) batch.nowNs) batch.triggerEventId) batch c
      generalize (applyReclaim setup _ batch c).1 = attempt at hcase ⊢
      generalize (applyReclaim setup _ batch c).2 = s' at hcase ⊢
      cases hcase with
      | refused _ hsame =>
        rw [Option.toList_none, append_nil]
        exact hpruned.congr hsame
      | failed _ hsame hwrite => exact (hpruned.congr hsame).failed rfl
      | succeeded _ hsame =>
        let w : Attempt App Event :=
          ⟨batch.triggerEventId, c.app, c.activity, c.request, batch.nowNs, true⟩
        exact (hpruned.succeeded (w := w) rfl).congr hsame

theorem limits_concat {cfg : ReclaimConfig} {times : List ℤ} {writes : List (Attempt App Event)}
    {s : Controller App Event} (h : Ledger cfg times writes s) (hbytes : ByteLedger writes s)
    (w : Attempt App Event)
    (hlate : ∀ t ∈ times, t ≤ w.timestampNs)
    (happ : w.requestedBytes ≤ cfg.maxPerAppSession - s.appBytes w.app)
    (hglobal : w.requestedBytes ≤ cfg.maxGlobalSession - s.globalBytes)
    (hfree : ¬ InCooldownOrRateLimit cfg (pruned s w.timestampNs) w.app w.timestampNs) :
    ChargedLimits cfg (successes writes ++ [w]) := by
  unfold InCooldownOrRateLimit pruned at hfree
  simp only [not_or, not_and, not_exists, not_lt, ge_iff_le, not_le] at hfree
  obtain ⟨hcool, happCool, hrate⟩ := hfree
  rw [h.actionTimes w.timestampNs hlate] at hrate
  constructor
  · intro app
    rw [filter_append, requestedOf_append]
    by_cases heq : w.app = app
    · subst heq
      rw [hbytes.appBytes] at happ
      have hself : [w].filter (fun v => v.app = w.app) = [w] := by simp
      rw [hself, requestedOf_singleton]
      omega
    · have hother : [w].filter (fun v => v.app = app) = [] := by simp [heq]
      rw [hother]
      have hold := h.limits.perApp app
      simpa [requestedOf] using hold
  · rw [requestedOf_append, requestedOf_singleton]
    rw [hbytes.globalBytes] at hglobal
    omega
  · intro startNs
    rw [countP_append]
    by_cases hin : startNs ≤ w.timestampNs ∧ w.timestampNs < startNs + 60000000000
    · -- every earlier write of the window is within a minute of this one
      have hmono : (successes writes).countP (fun v =>
          startNs ≤ v.timestampNs ∧ v.timestampNs < startNs + 60000000000) ≤
          (successes writes).countP (fun v => w.timestampNs - v.timestampNs < 60000000000) := by
        apply countP_mono_left
        intro v _ hv
        simp only [decide_eq_true_eq] at hv ⊢
        omega
      rw [filter_map, length_map, ← countP_eq_length_filter] at hrate
      have hone : [w].countP (fun v =>
          startNs ≤ v.timestampNs ∧ v.timestampNs < startNs + 60000000000) ≤ 1 :=
        countP_le_length
      exact (Nat.add_le_add hmono hone).trans hrate
    · have hnone : [w].countP (fun v =>
          startNs ≤ v.timestampNs ∧ v.timestampNs < startNs + 60000000000) = 0 := by
        simp [hin]
      rw [hnone]
      exact h.limits.perMinute startNs
  · rw [pairwise_append]
    refine ⟨h.limits.globalCooldown, pairwise_singleton _ _, ?_⟩
    intro a ha b hb
    rw [mem_singleton.1 hb]
    obtain ⟨hnonzero, hle⟩ := h.lastGlobal a ha
    have := hcool hnonzero
    omega
  · rw [pairwise_append]
    refine ⟨h.limits.perAppCooldown, pairwise_singleton _ _, ?_⟩
    intro a ha b hb heq
    rw [mem_singleton.1 hb] at heq ⊢
    obtain ⟨last, hlast, hle⟩ := h.lastApp a ha
    rw [heq] at hlast
    have := happCool last hlast
    omega

section

variable {cfg : ReclaimConfig} {times : List ℤ} {writes : List (Attempt App Event)}
  {s s' : Controller App Event}

theorem ledger_nil (cfg : ReclaimConfig) :
    Ledger cfg [] ([] : List (Attempt App Event)) {} where
  lastApp w hw := by cases hw
  lastGlobal w hw := by cases hw
  actionTimes _ _ := rfl
  episodes _ := Nat.zero_le _
  episodesLe _ := Nat.zero_le _
  timely w hw := by cases hw
  limits := {
    perApp := fun _ => Int.natCast_nonneg _
    overall := Int.natCast_nonneg _
    perMinute := fun _ => Nat.zero_le _
    globalCooldown := List.Pairwise.nil
    perAppCooldown := List.Pairwise.nil }

section

variable (h : Ledger cfg times writes s)

include h

theorem Ledger.congr (hsame : SameCharges s s') :
    Ledger cfg times writes s' where
  lastApp := hsame.lastApp ▸ h.lastApp
  lastGlobal := hsame.lastGlobal ▸ h.lastGlobal
  actionTimes := hsame.actionTimes ▸ h.actionTimes
  episodes := hsame.episodes ▸ h.episodes
  episodesLe := hsame.episodes ▸ h.episodesLe
  timely := h.timely
  limits := h.limits

theorem Ledger.later (nowNs : ℤ) :
    Ledger cfg (times ++ [nowNs]) writes s where
  lastApp := h.lastApp
  lastGlobal := h.lastGlobal
  actionTimes laterNs hlater := h.actionTimes laterNs fun t ht => hlater t (by simp [ht])
  episodes := h.episodes
  episodesLe := h.episodesLe
  timely w hw := mem_append_left _ (h.timely w hw)
  limits := h.limits

theorem Ledger.pruned (nowNs : ℤ) (hnow : nowNs ∈ times) :
    Ledger cfg times writes (pruned s nowNs) where
  lastApp := h.lastApp
  lastGlobal := h.lastGlobal
  actionTimes laterNs hlater := by
    rw [← h.actionTimes laterNs hlater]
    exact filter_recent s.actionTimesNs (hlater nowNs hnow)
  episodes := h.episodes
  episodesLe := h.episodesLe
  timely := h.timely
  limits := h.limits

theorem episodeCharged_le {event : Event}
    (hepisode : s.actionsPerEpisode event < cfg.maxActionsPerEpisode) (e : Event) :
    (episodeCharged s event).actionsPerEpisode e ≤ cfg.maxActionsPerEpisode := by
  change Function.update s.actionsPerEpisode event _ e ≤ _
  by_cases heq : e = event
  · subst heq
    rw [Function.update_self]
    exact hepisode
  · rw [Function.update_of_ne heq]
    exact h.episodesLe e

end

omit [LinearOrder App] in
theorem le_episodeCharged (s : Controller App Event) (event e : Event) :
    s.actionsPerEpisode e + [event].countP (fun v => v = e) ≤
      (episodeCharged s event).actionsPerEpisode e := by
  change _ ≤ Function.update s.actionsPerEpisode event _ e
  by_cases heq : e = event
  · subst heq
    simp
  · simp [Function.update_of_ne heq, Ne.symm heq]

variable (h : Ledger cfg times writes s)

include h

theorem Ledger.refused {event : Event}
    (hepisode : s.actionsPerEpisode event < cfg.maxActionsPerEpisode) :
    Ledger cfg times writes (episodeCharged s event) where
  lastApp := h.lastApp
  lastGlobal := h.lastGlobal
  actionTimes := h.actionTimes
  episodes e := (h.episodes e).trans ((Nat.le_add_right _ _).trans (le_episodeCharged s event e))
  episodesLe := episodeCharged_le h hepisode
  timely := h.timely
  limits := h.limits

theorem episodes_concat (w : Attempt App Event) (e : Event) :
    (writes ++ [w]).countP (fun v => v.triggerEventId = e) ≤
      (episodeCharged s w.triggerEventId).actionsPerEpisode e := by
  rw [countP_append]
  have hone : [w].countP (fun v => v.triggerEventId = e) =
      [w.triggerEventId].countP (fun v => v = e) := by
    simp [countP_cons]
  rw [hone]
  exact (Nat.add_le_add_right (h.episodes e) _).trans (le_episodeCharged s w.triggerEventId e)

theorem Ledger.failed (w : Attempt App Event) (hfail : w.success = false)
    (hepisode : s.actionsPerEpisode w.triggerEventId < cfg.maxActionsPerEpisode) :
    Ledger cfg times (writes ++ [w]) (episodeCharged s w.triggerEventId) := by
  have hsame := successes_failed writes hfail
  exact {
    lastApp := hsame ▸ h.lastApp
    lastGlobal := hsame ▸ h.lastGlobal
    actionTimes := hsame ▸ h.actionTimes
    episodes := episodes_concat h w
    episodesLe := episodeCharged_le h hepisode
    timely := hsame ▸ h.timely
    limits := hsame ▸ h.limits }

theorem Ledger.succeeded (w : Attempt App Event) (hok : w.success = true)
    (hnow : w.timestampNs ∈ times) (hnonzero : w.timestampNs ≠ 0)
    (hlate : ∀ t ∈ times, t ≤ w.timestampNs)
    (hepisode : s.actionsPerEpisode w.triggerEventId < cfg.maxActionsPerEpisode)
    (hlimits : ChargedLimits cfg (successes writes ++ [w])) :
    Ledger cfg times (writes ++ [w])
      (charged (episodeCharged s w.triggerEventId) w.app w.requestedBytes w.timestampNs) := by
  have hsucc := successes_concat writes hok
  constructor
  · intro v hv
    rw [hsucc] at hv
    change ∃ last ∈ Function.update s.lastAppReclaimNs w.app (some w.timestampNs) v.app, _
    by_cases heq : v.app = w.app
    · rw [heq, Function.update_self]
      refine ⟨w.timestampNs, rfl, ?_⟩
      rcases mem_append.1 hv with hold | hnew
      · exact hlate _ (h.timely v hold)
      · rw [mem_singleton.1 hnew]
    · rw [Function.update_of_ne heq]
      rcases mem_append.1 hv with hold | hnew
      · exact h.lastApp v hold
      · exact absurd (congrArg Attempt.app (mem_singleton.1 hnew)) heq
  · intro v hv
    rw [hsucc] at hv
    refine ⟨hnonzero, ?_⟩
    change v.timestampNs ≤ w.timestampNs
    rcases mem_append.1 hv with hold | hnew
    · exact hlate _ (h.timely v hold)
    · rw [mem_singleton.1 hnew]
  · intro laterNs hlater
    rw [hsucc, map_append, filter_append, ← h.actionTimes laterNs hlater]
    exact filter_append ..
  · exact episodes_concat h w
  · exact episodeCharged_le h hepisode
  · intro v hv
    rw [hsucc] at hv
    rcases mem_append.1 hv with hold | hnew
    · exact h.timely v hold
    · rwa [mem_singleton.1 hnew]
  · rwa [hsucc]

end

theorem ledger_applied {setup : Setup App Vocab} {times : List ℤ}
    {writes : List (Attempt App Event)} {s : Controller App Event}
    {batch : Batch App Event Vocab} {c : Candidate App} (h : Ledger setup.cfg times writes s)
    (hbytes : ByteLedger writes s) (heligible : Eligible setup s batch c)
    (hfree : ¬ InCooldownOrRateLimit setup.cfg (pruned s batch.nowNs) c.app batch.nowNs)
    (hepisode : s.actionsPerEpisode batch.triggerEventId < setup.cfg.maxActionsPerEpisode)
    (hnow : batch.nowNs ∈ times) (hnonzero : batch.nowNs ≠ 0) (hlate : ∀ t ∈ times, t ≤ batch.nowNs) :
    Ledger setup.cfg times
      (writes ++ (applyReclaim setup (episodeCharged (pruned s batch.nowNs) batch.triggerEventId)
        batch c).1.toList)
      (applyReclaim setup (episodeCharged (pruned s batch.nowNs) batch.triggerEventId)
        batch c).2 := by
  have hpruned := h.pruned batch.nowNs hnow
  have hcase := applyReclaim_cases setup
    (episodeCharged (pruned s batch.nowNs) batch.triggerEventId) batch c
  generalize (applyReclaim setup (episodeCharged (pruned s batch.nowNs) batch.triggerEventId)
    batch c).1 = attempt at hcase ⊢
  generalize (applyReclaim setup (episodeCharged (pruned s batch.nowNs) batch.triggerEventId)
    batch c).2 = s' at hcase ⊢
  cases hcase with
  | refused _ hsame =>
    rw [Option.toList_none, append_nil]
    exact (hpruned.refused hepisode).congr hsame
  | failed _ hsame hwrite =>
    let w : Attempt App Event :=
      ⟨batch.triggerEventId, c.app, c.activity, c.request, batch.nowNs, false⟩
    exact (hpruned.failed w rfl hepisode).congr hsame
  | succeeded _ hsame =>
    let w : Attempt App Event :=
      ⟨batch.triggerEventId, c.app, c.activity, c.request, batch.nowNs, true⟩
    have hlimits := limits_concat h hbytes w hlate heligible.le_app heligible.le_global hfree
    exact (hpruned.succeeded w rfl hnow hnonzero hlate hepisode hlimits).congr hsame

variable (setup : Setup App Vocab) (calls : List (Call App Event Vocab))

theorem ledger_step {times : List ℤ} {writes : List (Attempt App Event)}
    {s : Controller App Event} (call : Call App Event Vocab)
    (h : Ledger setup.cfg times writes s) (hbytes : ByteLedger writes s)
    (hnonzero : call.nowNs ≠ 0) (hlate : ∀ t ∈ times, t ≤ call.nowNs) :
    Ledger setup.cfg (times ++ [call.nowNs])
      (writes ++ (controllerStep setup s call).1.attempt.toList) (controllerStep setup s call).2 := by
  cases call with
  | tick nowNs final after1s =>
    change Ledger setup.cfg (times ++ [nowNs]) (writes ++ []) (tick setup.cfg s nowNs final after1s)
    rw [append_nil]
    exact (h.congr (tick_ticked setup.cfg s nowNs final after1s).toSameCharges).later nowNs
  | observe batch =>
    change Ledger setup.cfg (times ++ [batch.nowNs])
      (writes ++ (observePrediction setup s batch).1.attempt.toList)
      (observePrediction setup s batch).2
    have hentered := (h.congr (entered_sameCharges setup s batch)).later batch.nowNs
    have hpruned := hentered.pruned batch.nowNs (mem_append_right _ mem_cons_self)
    have hcase := observePrediction_cases setup s batch
    generalize (observePrediction setup s batch).1 = o at hcase ⊢
    generalize (observePrediction setup s batch).2 = s' at hcase ⊢
    cases hcase with
    | off hnone hmode =>
      rw [hnone, Option.toList_none, append_nil]
      exact h.later batch.nowNs
    | skipped hnone =>
      rw [hnone, Option.toList_none, append_nil]
      exact hentered
    | ranked hnone =>
      rw [hnone, Option.toList_none, append_nil]
      exact hpruned
    | applied c hmode hready habort heligible hfree hepisode hattempt =>
      rw [hattempt]
      have hbytes' := hbytes.congr (entered_sameCharges setup s batch)
      refine ledger_applied hentered hbytes' heligible hfree hepisode
        (mem_append_right _ mem_cons_self) hnonzero ?_
      intro t ht
      rcases mem_append.1 ht with hold | hnow
      · exact hlate t hold
      · exact (mem_singleton.1 hnow).le

theorem attempts_concat (call : Call App Event Vocab) :
    attempts setup (calls ++ [call]) = attempts setup calls ++
      (controllerStep setup (after (controllerStep setup) {} calls) call).1.attempt.toList := by
  unfold attempts
  rw [outputs_concat, filterMap_append]
  cases hattempt : (controllerStep setup
    (after (controllerStep setup) {} calls) call).1.attempt <;> simp [hattempt]

theorem bytes_after :
    ByteLedger (attempts setup calls) (after (controllerStep setup) {} calls) := by
  induction calls using List.reverseRecOn with
  | nil => exact ⟨fun _ => rfl, rfl⟩
  | append_singleton calls call ih =>
    rw [attempts_concat, after_concat]
    exact bytes_step setup call ih

theorem ledger_after (hnonzero : ∀ call ∈ calls, call.nowNs ≠ 0)
    (hsorted : (calls.map Call.nowNs).Pairwise (· ≤ ·)) :
    Ledger setup.cfg (calls.map Call.nowNs) (attempts setup calls)
      (after (controllerStep setup) {} calls) := by
  induction calls using List.reverseRecOn with
  | nil => exact ledger_nil setup.cfg
  | append_singleton calls call ih =>
    rw [map_append, pairwise_append] at hsorted
    rw [map_append, attempts_concat, after_concat]
    refine ledger_step setup call (ih ?_ hsorted.1) (bytes_after setup calls)
      (hnonzero call (by simp)) ?_
    · intro c hc
      exact hnonzero c (mem_append_left _ hc)
    · intro t ht
      exact hsorted.2.2 t ht call.nowNs (by simp)

theorem charged_limits (hnonzero : ∀ call ∈ calls, call.nowNs ≠ 0)
    (hsorted : (calls.map Call.nowNs).Pairwise (· ≤ ·)) :
    ChargedLimits setup.cfg (successes (attempts setup calls)) ∧
      ∀ event, (attempts setup calls).countP (fun w => w.triggerEventId = event) ≤
        setup.cfg.maxActionsPerEpisode := by
  have h := ledger_after setup calls hnonzero hsorted
  exact ⟨h.limits, fun event => (h.episodes event).trans (h.episodesLe event)⟩

def Call.Written : Call App Event Vocab → Prop
  | .observe batch => batch.write = .written
  | .tick _ _ _ => True

theorem attempt_succeeds (s : Controller App Event)
    (call : Call App Event Vocab) (hwritten : call.Written) (w : Attempt App Event)
    (hw : (controllerStep setup s call).1.attempt = some w) : w.success = true := by
  cases call with
  | tick nowNs final after1s => cases hw
  | observe batch =>
    change (observePrediction setup s batch).1.attempt = some w at hw
    have hcase := observePrediction_cases setup s batch
    generalize (observePrediction setup s batch).1 = o at hcase hw
    generalize (observePrediction setup s batch).2 = s' at hcase
    cases hcase with
    | off hnone hmode => simp [hnone] at hw
    | skipped hnone => simp [hnone] at hw
    | ranked hnone => simp [hnone] at hw
    | applied c hmode hready habort heligible hfree hepisode hattempt =>
      rw [hattempt] at hw
      have hcase := applyReclaim_cases setup (episodeCharged
        (pruned (entered setup s batch) batch.nowNs) batch.triggerEventId) batch c
      generalize (applyReclaim setup _ batch c).1 = attempt at hcase hw
      cases hcase with
      | refused _ hsame => cases hw
      | failed _ hsame hfailed => exact absurd hwritten hfailed
      | succeeded _ hsame =>
        obtain rfl := Option.some.inj hw
        rfl

theorem successes_attempts (hwritten : ∀ call ∈ calls, call.Written) :
    successes (attempts setup calls) = attempts setup calls := by
  induction calls using List.reverseRecOn with
  | nil => rfl
  | append_singleton calls call ih =>
    rw [attempts_concat, successes_append, ih fun c hc => hwritten c (mem_append_left _ hc)]
    congr 1
    apply filter_eq_self.2
    intro w hw
    exact attempt_succeeds setup _ call (hwritten call (by simp)) w (by simpa using hw)

/-- While no write fails the session keeps all its limits. -/
theorem session_limits (setup : Setup App Vocab) (calls : List (Call App Event Vocab))
    (hnonzero : ∀ call ∈ calls, call.nowNs ≠ 0)
    (hsorted : (calls.map Call.nowNs).Pairwise (· ≤ ·)) (hwritten : ∀ call ∈ calls, call.Written) :
    SessionLimits setup.cfg (attempts setup calls) := by
  obtain ⟨hcharged, hepisodes⟩ := charged_limits setup calls hnonzero hsorted
  rw [successes_attempts setup calls hwritten] at hcharged
  exact ⟨hcharged, hepisodes⟩

def idleActivity : AppActivity where
  memcgPath := some { parts :=
    ["sys", "fs", "cgroup", "user.slice", "huawei-test.slice", "automation-b.scope"] }
  memcgCurrentBytes := 256 * 1024 * 1024
  ema := some 0.01
  lowWindows := 3

def idleBatch (event : ℕ) (nowNs : ℤ) (write : WriteOutcome) : Batch ℕ ℕ ℕ where
  triggerEventId := event
  currentApp := 1
  allProbabilities := [{ appKey := some 2, probability := some 0.01 }]
  activities := [(2, idleActivity)]
  bindReady := [2]
  nowNs := nowNs
  system := { available := 1024 * 1024 * 1024, psiFullAvg10 := 0.0, rootOom := 0 }
  write := write

def boundedSetup : Setup ℕ ℕ where
  cfg := {
    mode := .applyBounded
    requiredLowProbabilityBatches := 1
    maxPerAppSession := 32 * 1024 * 1024
    maxGlobalSession := 32 * 1024 * 1024
    maxActionsPerMinute := 2
    preflightReady := true }
  ids := [1, 2]

def writtenSession : List (Call ℕ ℕ ℕ) :=
  [.observe (idleBatch 1 10000000000 .written), .tick 11000000000 false fun _ => 0,
    .observe (idleBatch 2 20000000000 .written)]

theorem writtenSession_limits :
    (attempts boundedSetup writtenSession).map Attempt.timestampNs = [10000000000, 20000000000] ∧
      SessionLimits boundedSetup.cfg (attempts boundedSetup writtenSession) :=
  ⟨by decide +kernel, session_limits boundedSetup writtenSession (by decide) (by decide)
    (by simp [writtenSession, Call.Written, idleBatch])⟩

def failingSession : List (Call ℕ ℕ ℕ) :=
  [.observe (idleBatch 1 10000000000 .raised), .observe (idleBatch 2 10000000001 .raised),
    .observe (idleBatch 3 10000000002 .short)]

theorem failingSession_breaks_limits :
    (∀ call ∈ failingSession, call.nowNs ≠ 0) ∧
      (failingSession.map Call.nowNs).Pairwise (· ≤ ·) ∧
      (attempts boundedSetup failingSession).map (fun w => (w.app, w.requestedBytes,
        w.timestampNs)) = [(2, 16777216, 10000000000), (2, 16777216, 10000000001),
          (2, 16777216, 10000000002)] ∧
      ¬ SessionLimits boundedSetup.cfg (attempts boundedSetup failingSession) := by
  refine ⟨by decide, by decide, by decide +kernel, ?_⟩
  intro h
  have hmost : requestedOf (attempts boundedSetup failingSession) = 50331648 := by decide +kernel
  have hoverall := h.overall
  rw [hmost] at hoverall
  exact absurd hoverall (by decide)

end Parp.AppReclaim
