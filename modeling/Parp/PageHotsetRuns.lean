import Parp.PageHotsetOutcomes

set_option autoImplicit false

namespace Parp.PageHotset

open OrderedDict EbpfFileEvents List

variable {settings : Settings} {s : Predictor}

section

variable {windowStartNs processingTimeNs : ℤ}

theorem finalizeWindow_keeps (hbooked : Booked settings s) (hends : EndsBy s windowStartNs)
    (hended : windowStartNs + settings.windows.windowNs ≤ processingTimeNs)
    (allowPrediction : Bool) (clockNs : ℤ) :
    let after := s.finalizeWindow settings windowStartNs processingTimeNs allowPrediction clockNs
    Booked settings after ∧ EndsBy after (windowStartNs + settings.windows.windowNs) ∧
      after.shadow = closeWindow settings.windows s.shadow windowStartNs ∧
      after.closed = s.closed := by
  have hlater := hends.mono (le_add_of_nonneg_right settings.windowPositive.le)
  have hopened : Booked settings
      { s with shadow := closeWindow settings.windows s.shadow windowStartNs } :=
    hbooked.congr rfl rfl rfl rfl rfl rfl
  have hkeeps := processSnapshot_keeps settings
    { s with shadow := closeWindow settings.windows s.shadow windowStartNs }
    (snapshot settings.windows s.shadow windowStartNs) processingTimeNs allowPrediction
  have hclosed : EndsBy { s with shadow := closeWindow settings.windows s.shadow windowStartNs }
      (windowStartNs + settings.windows.windowNs) := ⟨hlater.histories, hlater.trained⟩
  have hwindow : (snapshot settings.windows s.shadow windowStartNs).windowEndNs ≤
      windowStartNs + settings.windows.windowNs := le_refl _
  obtain ⟨hbooked', hends', hshadow, hopen⟩ := recordSnapshot_keeps
    (hopened.processSnapshot allowPrediction snapshot_named fun app trained hinstalled window hw =>
      (hlater.trained app trained hinstalled window hw).trans hended)
    (hclosed.keeps hkeeps) hwindow clockNs
  exact ⟨hbooked', hends', hshadow.trans hkeeps.shadow, hopen.trans hkeeps.closed⟩

theorem finalizeAll_keeps (nowNs : ℤ) (clockNs : ℤ → ℤ) (n : ℕ) {start : ℤ}
    (hbooked : Booked settings s) (hends : EndsBy s start)
    (hended : start + n * settings.windows.windowNs ≤ nowNs) :
    let ready := (List.range n).map fun index : ℕ => start + index * settings.windows.windowNs
    let after := s.finalizeAll settings nowNs clockNs ready
    Booked settings after ∧ EndsBy after (start + n * settings.windows.windowNs) ∧
      after.closed = s.closed ∧
      (0 ≤ start → n ≠ 0 ∨ 0 ≤ s.shadow.lastFinalizedStartNs →
        0 ≤ after.shadow.lastFinalizedStartNs) := by
  induction n generalizing s start with
  | zero =>
    have hstart : start + ((0 : ℕ) : ℤ) * settings.windows.windowNs = start := by simp
    rw [hstart]
    exact ⟨hbooked, hends, rfl, fun _ hlast => hlast.resolve_left (absurd rfl)⟩
  | succ n ih =>
    have hpositive := settings.windowPositive
    have hmore (k : ℕ) : (start + settings.windows.windowNs) + k * settings.windows.windowNs =
        start + ((k + 1 : ℕ) : ℤ) * settings.windows.windowNs := by
      rw [Nat.cast_add_one, Int.add_mul, one_mul, add_assoc,
        add_comm settings.windows.windowNs]
    have hready : (List.range (n + 1)).map
        (fun index : ℕ => start + index * settings.windows.windowNs) =
          start :: (List.range n).map fun index : ℕ =>
            (start + settings.windows.windowNs) + index * settings.windows.windowNs := by
      rw [range_succ_eq_map, map_cons, map_map]
      congr 1
      · simp
      · apply map_congr_left
        intro index _
        exact (hmore index).symm
    have hfirst : start + settings.windows.windowNs ≤ nowNs := by
      have hn : 0 ≤ (n : ℤ) * settings.windows.windowNs :=
        Int.mul_nonneg (Int.natCast_nonneg n) hpositive.le
      rw [← hmore n] at hended
      omega
    rw [hready]
    intro ready after
    obtain ⟨hbooked', hends', hshadow, hclosed⟩ := finalizeWindow_keeps hbooked hends hfirst
      (decide ((List.range n).map (fun index : ℕ =>
        (start + settings.windows.windowNs) + index * settings.windows.windowNs) = []))
      (clockNs start)
    obtain ⟨hb, he, hc, hlast⟩ := ih hbooked' hends' ((hmore n).trans_le hended)
    rw [hmore n] at he
    refine ⟨hb, he, hc.trans hclosed, fun hstart _ => hlast (by omega) (.inr ?_)⟩
    rw [hshadow]
    exact hstart

end

section

/-- What an observation does to the bounds of the windows: before the first window is closed the
next one may start earlier. -/
structure Seeds (shadow shadow' : Shadow) : Prop where
  last : shadow'.lastFinalizedStartNs = shadow.lastFinalizedStartNs
  started : shadow'.nextWindowStartNs = none → shadow.nextWindowStartNs = none
  next : ∀ next, shadow'.nextWindowStartNs = some next → shadow.nextWindowStartNs = some next ∨
    (shadow.nextWindowStartNs = none ∨ shadow.lastFinalizedStartNs < 0) ∧
      ((∀ before, shadow.nextWindowStartNs = some before → 0 ≤ before) → 0 ≤ next)

variable {shadow shadow' : Shadow}

theorem Seeds.of_eq (hlast : shadow'.lastFinalizedStartNs = shadow.lastFinalizedStartNs)
    (hnext : shadow'.nextWindowStartNs = shadow.nextWindowStartNs) : Seeds shadow shadow' := by
  refine ⟨hlast, ?_, ?_⟩
  · rw [hnext]
    exact id
  · rw [hnext]
    exact fun _ => .inl

theorem Seeds.seedWindowStart (h : Seeds shadow shadow') (settings : Settings) {timestampNs : ℤ}
    (htime : 0 < timestampNs) :
    Seeds shadow (shadow'.seedWindowStart settings.windows timestampNs) := by
  have hstart : 0 ≤ timestampNs - timestampNs % settings.windows.windowNs := by
    have hdiv := Int.mul_ediv_add_emod timestampNs settings.windows.windowNs
    have hwhole := Int.mul_nonneg settings.windowPositive.le
      (Int.ediv_nonneg htime.le settings.windowPositive.le)
    omega
  unfold Shadow.seedWindowStart
  dsimp only
  cases hnext : shadow'.nextWindowStartNs with
  | none =>
    refine ⟨h.last, nofun, fun next hsome => ?_⟩
    cases hsome
    exact .inr ⟨.inl (h.started hnext), fun _ => hstart⟩
  | some before =>
    dsimp only
    split_ifs with hlast
    · refine ⟨h.last, nofun, fun next hsome => ?_⟩
      cases hsome
      rw [h.last] at hlast
      refine .inr ⟨.inr hlast, fun hnonneg => le_min ?_ hstart⟩
      rcases h.next before hnext with hsame | ⟨-, hbefore⟩
      · exact hnonneg before hsame
      · exact hbefore hnonneg
    · exact h

theorem observeRanges_bounds (key : ℤ × String) (ranges : List PageRange) (shadow : Shadow) :
    (ranges.foldl (observeRange key) shadow).lastFinalizedStartNs = shadow.lastFinalizedStartNs ∧
      (ranges.foldl (observeRange key) shadow).nextWindowStartNs = shadow.nextWindowStartNs := by
  induction ranges generalizing shadow with
  | nil => exact ⟨rfl, rfl⟩
  | cons range ranges ih =>
    rw [foldl_cons]
    refine (ih _).imp (fun hlast => hlast.trans ?_) fun hnext => hnext.trans ?_
    · unfold observeRange
      split_ifs <;> rfl
    · unfold observeRange
      split_ifs <;> rfl

variable (settings : Settings) (shadow : Shadow) (timestampNs : ℤ)

theorem observePageAccess_seeds (event : AccessEvent) :
    Seeds shadow (observePageAccess settings.windows shadow event).2 := by
  unfold observePageAccess
  dsimp only
  split_ifs with hdropped hlate hlarge
  · exact .of_eq rfl rfl
  · exact .of_eq rfl rfl
  · exact .of_eq rfl rfl
  · refine Seeds.seedWindowStart ?_ settings (by omega)
    exact .of_eq rfl rfl

theorem observePageWindow_seeds (window : EbpfFileEvents.PageWindow) :
    Seeds shadow (observePageWindow settings.windows shadow window) := by
  unfold observePageWindow
  dsimp only
  split_ifs with hdropped hlate
  · exact .of_eq rfl rfl
  · exact .of_eq rfl rfl
  · have hbounds := observeRanges_bounds (window.windowStartNs, window.app) window.pageRanges shadow
    refine Seeds.seedWindowStart ?_ settings (by omega)
    exact .of_eq hbounds.1 hbounds.2

theorem observeForeground_seeds
    (app : String) : Seeds shadow (observeForeground settings shadow timestampNs app) := by
  unfold observeForeground
  dsimp only
  split_ifs with htime happ
  · refine Seeds.seedWindowStart ?_ settings htime
    exact .of_eq rfl rfl
  · refine Seeds.seedWindowStart ?_ settings htime
    exact .of_eq rfl rfl
  · exact .of_eq rfl rfl

theorem setSourceAvailable_seeds (available : Bool) (reason : String) :
    Seeds shadow (setSourceAvailable settings shadow timestampNs available reason) := by
  unfold setSourceAvailable
  split_ifs with htime
  · exact .of_eq rfl rfl
  · refine Seeds.seedWindowStart ?_ settings (not_le.1 htime)
    exact .of_eq rfl rfl

theorem markSourceGap_seeds
    (reason : String) : Seeds shadow (markSourceGap settings shadow timestampNs reason) := by
  unfold markSourceGap
  dsimp only
  generalize (if reason = "" then "FILE_EVENT_SOURCE_GAP" else reason) = why
  split_ifs with htime
  · exact .of_eq rfl rfl
  · refine Seeds.seedWindowStart ?_ settings (not_le.1 htime)
    exact .of_eq rfl rfl

end

/-- What every call keeps: no model has seen a window that is still open. -/
structure Session (settings : Settings) (s : Predictor) : Prop where
  booked : Booked settings s
  next : ∀ next, s.shadow.nextWindowStartNs = some next → 0 ≤ next ∧ EndsBy s next
  fresh : s.shadow.nextWindowStartNs = none ∨ s.shadow.lastFinalizedStartNs < 0 →
    ∀ endNs, EndsBy s endNs
  ended : s.closed = true → ∀ app, s.pending.get? app = none

theorem session_init (settings : Settings) : Session settings {} := by
  refine ⟨⟨rfl, .refl _, ?_, ?_, ?_⟩, ?_, fun _ endNs => ⟨?_, ?_⟩, ?_⟩
  · intro app prediction hpending
    cases hpending
  · intro emitted hemitted
    cases hemitted
  · intro outcome houtcome
    cases houtcome
  · intro next hnext
    cases hnext
  · intro app window hw
    cases hw
  · intro app trained htrained
    cases htrained
  · intro hclosed
    cases hclosed

theorem Session.observe (h : Session settings s) {shadow' : Shadow}
    (hseeds : Seeds s.shadow shadow') : Session settings { s with shadow := shadow' } := by
  refine ⟨h.booked.congr rfl rfl rfl rfl rfl rfl, fun next hnext => ?_, fun hfresh endNs => ?_,
    h.ended⟩
  · rcases hseeds.next next hnext with hsame | ⟨hfresh, hnonneg⟩
    · obtain ⟨hstart, hends⟩ := h.next next hsame
      exact ⟨hstart, hends.histories, hends.trained⟩
    · have hends := h.fresh hfresh next
      exact ⟨hnonneg fun before hbefore => (h.next before hbefore).1, hends.histories,
        hends.trained⟩
  · rw [hseeds.last] at hfresh
    have hends := h.fresh (hfresh.imp_left hseeds.started) endNs
    exact ⟨hends.histories, hends.trained⟩

theorem readyWindows_length (settings : Settings) (next cutoffNs : ℤ) :
    (readyWindows settings next cutoffNs).length =
      ((cutoffNs - next) / settings.windows.windowNs).toNat := by
  simp [readyWindows]

theorem readyWindows_ended (settings : Settings) {next nowNs : ℤ}
    (hready : readyWindows settings next (nowNs - settings.latenessNs) ≠ []) :
    let count := (readyWindows settings next (nowNs - settings.latenessNs)).length
    count ≠ 0 ∧ next + count * settings.windows.windowNs ≤ nowNs := by
  dsimp only
  refine ⟨fun hnone => hready (length_eq_zero_iff.1 hnone), ?_⟩
  have hsome : 0 < (readyWindows settings next (nowNs - settings.latenessNs)).length :=
    length_pos_iff.2 hready
  rw [readyWindows_length] at hsome ⊢
  rw [Int.toNat_of_nonneg (by omega)]
  have hwhole := Int.ediv_mul_le (nowNs - settings.latenessNs - next) settings.windowPositive.ne'
  have hlate := settings.latenessNonneg
  omega

theorem Session.advance (h : Session settings s) (nowNs : ℤ) (clockNs : ℤ → ℤ) :
    Session settings (s.advance settings nowNs clockNs) := by
  unfold Predictor.advance
  split_ifs with hclosed
  · exact h
  · cases hnext : s.shadow.nextWindowStartNs with
    | none => exact h
    | some next =>
      dsimp only
      split_ifs with hready
      · exact h
      · obtain ⟨hstart, hends⟩ := h.next next hnext
        obtain ⟨hsome, hended⟩ := readyWindows_ended settings hready
        rw [readyWindows_length] at hsome hended ⊢
        have hkept := finalizeAll_keeps nowNs clockNs _ h.booked hends hended
        unfold readyWindows
        dsimp only at hkept ⊢
        generalize s.finalizeAll settings nowNs clockNs _ = after at hkept ⊢
        obtain ⟨hbooked, hends', hopen, hlast⟩ := hkept
        refine ⟨hbooked.congr rfl rfl rfl rfl rfl rfl, fun later hlater => ?_, ?_, ?_⟩
        · cases hlater
          have hcount := Int.mul_nonneg (Int.natCast_nonneg
            ((nowNs - settings.latenessNs - next) / settings.windows.windowNs).toNat)
            settings.windowPositive.le
          exact ⟨by omega, hends'.histories, hends'.trained⟩
        · rintro (hnone | hnegative)
          · cases hnone
          · exact absurd hnegative (not_lt.2 (hlast hstart (.inl hsome)))
        · intro hclosed'
          exact absurd (hopen.symm.trans hclosed') hclosed

theorem cancelAll_keeps (nowNs : ℤ) (items : List (String × PageBucketPrediction))
    (hbooked : Booked settings s) :
    let after := items.foldl (fun s item => s.cancelPending item.1 "SESSION_END" nowNs) s
    Booked settings after ∧ Keeps s after ∧
      ∀ app, s.pending.get? app = none ∨ app ∈ items.map Prod.fst →
        after.pending.get? app = none := by
  induction items generalizing s with
  | nil => exact ⟨hbooked, .refl s, fun app hempty => hempty.resolve_right nofun⟩
  | cons item items ih =>
    obtain ⟨hafter, hkeeps, hempty⟩ :=
      ih (hbooked.cancelPending item.1 "SESSION_END" (by decide) nowNs)
    refine ⟨hafter, (settle_keeps s item.1 _).trans hkeeps, fun app happ => hempty app ?_⟩
    rw [Predictor.cancelPending, settle_get?]
    split_ifs with hitem
    · exact .inl rfl
    · refine happ.imp_right fun hmem => ?_
      exact (mem_cons.1 hmem).resolve_left hitem

theorem Session.endSession (h : Session settings s) (nowNs : ℤ) :
    Session settings (s.endSession nowNs) := by
  obtain ⟨hbooked, hkeeps, hempty⟩ := cancelAll_keeps nowNs s.pending.items h.booked
  refine ⟨hbooked.congr rfl rfl rfl rfl rfl rfl, fun next hnext => ?_, fun hfresh endNs => ?_,
    fun _ app => hempty app ?_⟩
  · have hnext' : s.shadow.nextWindowStartNs = some next := by
      rw [← hkeeps.shadow]
      exact hnext
    have hends := (h.next next hnext').2.keeps hkeeps
    exact ⟨(h.next next hnext').1, hends.histories, hends.trained⟩
  · have hfresh' : s.shadow.nextWindowStartNs = none ∨ s.shadow.lastFinalizedStartNs < 0 := by
      rw [← hkeeps.shadow]
      exact hfresh
    have hends := (h.fresh hfresh' endNs).keeps hkeeps
    exact ⟨hends.histories, hends.trained⟩
  · by_cases hsome : s.pending.get? app = none
    · exact .inl hsome
    · obtain ⟨prediction, hpending⟩ := Option.ne_none_iff_exists'.1 hsome
      exact .inr (mem_map_of_mem (Dict.mem_of_get? hpending))

theorem Session.call (h : Session settings s) (call : Call) :
    Session settings (s.call settings call) := by
  cases call with
  | observeForeground timestampNs app => exact h.observe (observeForeground_seeds ..)
  | setSourceAvailable timestampNs available reason =>
    exact h.observe (setSourceAvailable_seeds ..)
  | markSourceGap timestampNs reason => exact h.observe (markSourceGap_seeds ..)
  | observePageAccess event => exact h.observe (observePageAccess_seeds ..)
  | observePageWindow window => exact h.observe (observePageWindow_seeds ..)
  | advance nowNs clockNs => exact h.advance nowNs clockNs
  | close nowNs endNs clockNs =>
    change Session settings (s.close settings nowNs endNs clockNs)
    unfold Predictor.close
    split_ifs
    · exact h
    · exact (h.advance nowNs clockNs).endSession endNs

theorem Session.run (h : Session settings s) (calls : List Call) :
    Session settings (calls.foldl (Predictor.call settings) s) := by
  induction calls generalizing s with
  | nil => exact h
  | cons call calls ih => exact ih (h.call call)

theorem call_closed (h : s.closed = true) (call : Call) :
    (s.call settings call).closed = true := by
  cases call with
  | advance nowNs clockNs =>
    change (s.advance settings nowNs clockNs).closed = true
    unfold Predictor.advance
    rw [if_pos h]
    exact h
  | close nowNs endNs clockNs =>
    change (s.close settings nowNs endNs clockNs).closed = true
    unfold Predictor.close
    rw [if_pos h]
    exact h
  | observeForeground | setSourceAvailable | markSourceGap | observePageAccess
  | observePageWindow => exact h

theorem close_closed (s : Predictor) (nowNs endNs : ℤ) (clockNs : ℤ → ℤ) :
    (s.close settings nowNs endNs clockNs).closed = true := by
  unfold Predictor.close
  split_ifs with h
  · exact h
  · rfl

theorem run_closed (calls : List Call) (h : s.closed = true ∨
    ∃ nowNs endNs clockNs, Call.close nowNs endNs clockNs ∈ calls) :
    (calls.foldl (Predictor.call settings) s).closed = true := by
  induction calls generalizing s with
  | nil => exact h.resolve_right (by simp)
  | cons call calls ih =>
    refine ih ?_
    rcases h with h | ⟨nowNs, endNs, clockNs, hmem⟩
    · exact .inl (call_closed h call)
    · rcases mem_cons.1 hmem with rfl | hmem
      · exact .inl (close_closed s nowNs endNs clockNs)
      · exact .inr ⟨nowNs, endNs, clockNs, hmem⟩

theorem Booked.count (h : Booked settings s) {emitted : Emitted} (hemitted : emitted ∈ s.predictions) :
    (s.outcomes.map Outcome.predictionId).count emitted.prediction.predictionId +
      (s.pending.values.map PageBucketPrediction.predictionId).count
        emitted.prediction.predictionId = 1 := by
  rw [← count_append]
  refine count_eq_one_of_mem (bookedIds_nodup h) (h.settled.mem_iff.2 ?_)
  exact mem_map_of_mem hemitted

theorem Booked.pending_of_count (h : Booked settings s) {emitted : Emitted}
    (hemitted : emitted ∈ s.predictions)
    (hopen : (s.outcomes.map Outcome.predictionId).count emitted.prediction.predictionId = 0) :
    s.pending.get? emitted.prediction.appId = some emitted.prediction := by
  have hcount := h.count hemitted
  rw [hopen, zero_add] at hcount
  have hmem := one_le_count_iff.1 hcount.ge
  obtain ⟨prediction, hvalue, hid⟩ := mem_map.1 hmem
  obtain ⟨item, hitem, rfl⟩ := mem_map.1 hvalue
  have hget := Dict.get?_of_mem hitem
  have hwaiting := h.waiting item.1 item.2 hget
  obtain ⟨trained, -, hmade⟩ := hwaiting.made
  have hsame : (⟨item.2, trained⟩ : Emitted) = emitted :=
    inj_on_of_nodup_map (issuedIds_nodup h) hmade hemitted hid
  rw [← hsame]
  change s.pending.get? item.2.appId = some item.2
  rw [hwaiting.appId]
  exact hget

/-- Every prediction has at most one outcome, and one after `close`; only one prediction of an
application has none; and what a resolved row compares is of the application, the epoch and the
model of its prediction, with a window that ended later and a model trained on windows that had
ended. -/
theorem predictions_resolved (settings : Settings) (calls : List Call) :
    let s := Predictor.run settings calls
    (∀ emitted ∈ s.predictions,
      (s.outcomes.map Outcome.predictionId).count emitted.prediction.predictionId ≤ 1 ∧
        ((∃ nowNs endNs clockNs, Call.close nowNs endNs clockNs ∈ calls) →
          (s.outcomes.map Outcome.predictionId).count emitted.prediction.predictionId = 1)) ∧
      (∀ emitted ∈ s.predictions, ∀ other ∈ s.predictions,
        emitted.prediction.appId = other.prediction.appId →
        (s.outcomes.map Outcome.predictionId).count emitted.prediction.predictionId = 0 →
        (s.outcomes.map Outcome.predictionId).count other.prediction.predictionId = 0 →
        emitted = other) ∧
      ∀ outcome ∈ s.outcomes, outcome.resolutionStatus = "RESOLVED" →
        ∃ emitted ∈ s.predictions, ∃ resolution, outcome.resolution = some resolution ∧
          ResolvedBy emitted outcome resolution ∧
          emitted.prediction.modelVersion = emitted.trained.model.modelVersion ∧
          ∀ window ∈ emitted.trained.windows,
            window.windowEndNs ≤ emitted.prediction.predictionTimeNs := by
  intro s
  have hsession : Session settings s := (session_init settings).run calls
  have hbooked := hsession.booked
  refine ⟨fun emitted hemitted => ⟨?_, fun hclose => ?_⟩, ?_, fun outcome houtcome hstatus => ?_⟩
  · have hcount := hbooked.count hemitted
    omega
  · have hclosed : s.closed = true := run_closed calls (.inr hclose)
    have hcount := hbooked.count hemitted
    rcases Nat.eq_zero_or_pos ((s.outcomes.map Outcome.predictionId).count
      emitted.prediction.predictionId) with hzero | hone
    · have hpending := hbooked.pending_of_count hemitted hzero
      rw [hsession.ended hclosed] at hpending
      cases hpending
    · omega
  · intro emitted hemitted other hother happ hopen hopen'
    have hpending := hbooked.pending_of_count hemitted hopen
    have hpending' := hbooked.pending_of_count hother hopen'
    rw [happ, hpending'] at hpending
    refine inj_on_of_nodup_map (issuedIds_nodup hbooked) hemitted hother ?_
    rw [Option.some.inj hpending]
  · obtain ⟨emitted, hemitted, resolution, hresolution, hby⟩ :=
      hbooked.resolutions outcome houtcome hstatus
    have hmade := hbooked.wellMade emitted hemitted
    exact ⟨emitted, hemitted, resolution, hresolution, hby, hmade.version, hmade.trainedBefore⟩

end Parp.PageHotset
