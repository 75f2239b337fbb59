import Parp.PageHotsetPredictions

set_option autoImplicit false

namespace Parp.PageHotset

open OrderedDict List

variable {settings : Settings} {s : Predictor} {app : String}

def issuedIds (s : Predictor) : List String :=
  s.predictions.map fun emitted => emitted.prediction.predictionId

def bookedIds (s : Predictor) : List String :=
  s.outcomes.map Outcome.predictionId ++
    s.pending.values.map PageBucketPrediction.predictionId

structure WellMade (emitted : Emitted) : Prop where
  version : emitted.prediction.modelVersion = emitted.trained.model.modelVersion
  trainedBefore : ∀ window ∈ emitted.trained.windows,
    window.windowEndNs ≤ emitted.prediction.predictionTimeNs

/-- A pending prediction belongs to the model and to the epoch that its application is in. -/
structure Waiting (s : Predictor) (app : String) (prediction : PageBucketPrediction) : Prop where
  appId : prediction.appId = app
  made : ∃ trained, s.models app = some trained ∧ ⟨prediction, trained⟩ ∈ s.predictions
  epoch : (s.runtime app).foregroundEpochId = prediction.foregroundEpochId
  named : prediction.foregroundEpochId ≠ ""
  current : (s.runtime app).currentBucket ≠ none

/-- A window of its own application, epoch and model resolved the prediction after it was made. -/
structure ResolvedBy (emitted : Emitted) (outcome : Outcome) (resolution : Resolution) : Prop where
  predictionId : outcome.predictionId = emitted.prediction.predictionId
  appId : outcome.appId = emitted.prediction.appId
  actualApp : resolution.actual.appId = emitted.prediction.appId
  epoch : resolution.actual.foregroundEpochId = emitted.prediction.foregroundEpochId
  version : outcome.modelVersion = emitted.prediction.modelVersion
  installed : resolution.installed = some emitted.trained
  later : emitted.prediction.predictionTimeNs < resolution.actual.windowEndNs

structure Booked (settings : Settings) (s : Predictor) : Prop where
  issued : issuedIds s =
    (List.range s.predictionSerial).map fun serial => predictionId settings (serial + 1)
  settled : (bookedIds s).Perm (issuedIds s)
  waiting : ∀ app prediction, s.pending.get? app = some prediction → Waiting s app prediction
  wellMade : ∀ emitted ∈ s.predictions, WellMade emitted
  resolutions : ∀ outcome ∈ s.outcomes, outcome.resolutionStatus = "RESOLVED" →
    ∃ emitted ∈ s.predictions, ∃ resolution, outcome.resolution = some resolution ∧
      ResolvedBy emitted outcome resolution

theorem padded_injective (width : ℕ) : Function.Injective (padded width) := by
  intro n m h
  have hdigits := congrArg (fun text => Nat.ofDigitChars 10 text.toList 0) h
  simpa [padded, Nat.ofDigitChars_append, Nat.ofDigitChars_replicate_zero] using hdigits

theorem predictionId_injective (settings : Settings) :
    Function.Injective (predictionId settings) := by
  intro n m h
  refine padded_injective 6 ?_
  have htext := congrArg String.toList h
  simpa [predictionId, ← String.toList_inj] using htext

theorem issuedIds_nodup (h : Booked settings s) : (issuedIds s).Nodup := by
  rw [h.issued]
  refine List.Nodup.map ?_ nodup_range
  intro serial serial' hsame
  exact Nat.succ_injective (predictionId_injective settings hsame)

theorem bookedIds_nodup (h : Booked settings s) : (bookedIds s).Nodup :=
  h.settled.nodup_iff.2 (issuedIds_nodup h)

section

structure Keeps (s s' : Predictor) : Prop where
  shadow : s'.shadow = s.shadow
  histories : s'.histories = s.histories
  models : s'.models = s.models
  closed : s'.closed = s.closed

theorem Keeps.refl (s : Predictor) : Keeps s s := ⟨rfl, rfl, rfl, rfl⟩

theorem Keeps.trans {s s' s'' : Predictor} (h : Keeps s s') (h' : Keeps s' s'') : Keeps s s'' :=
  ⟨h'.shadow.trans h.shadow, h'.histories.trans h.histories, h'.models.trans h.models,
    h'.closed.trans h.closed⟩

variable {outcome : PageBucketPrediction → Outcome}

theorem settle_keeps (s : Predictor) (app : String) (outcome : PageBucketPrediction → Outcome) :
    Keeps s (s.settle app outcome) := by
  unfold Predictor.settle
  split
  · exact .refl s
  · exact ⟨rfl, rfl, rfl, rfl⟩

theorem settle_runtime (s : Predictor) (app : String) (outcome : PageBucketPrediction → Outcome) :
    (s.settle app outcome).runtime = s.runtime := by
  unfold Predictor.settle
  split <;> rfl

theorem settle_predictions (s : Predictor) (app : String)
    (outcome : PageBucketPrediction → Outcome) :
    (s.settle app outcome).predictions = s.predictions := by
  unfold Predictor.settle
  split <;> rfl

theorem settle_get? (s : Predictor) (app : String) (outcome : PageBucketPrediction → Outcome)
    (other : String) :
    (s.settle app outcome).pending.get? other =
      if other = app then none else s.pending.get? other := by
  unfold Predictor.settle
  cases hpending : s.pending.get? app with
  | none =>
    dsimp only
    split_ifs with hother
    · rw [hother, hpending]
    · rfl
  | some prediction => exact Dict.get?_erase _ _ _

theorem Booked.settle (h : Booked settings s)
    (hid : ∀ prediction, (outcome prediction).predictionId = prediction.predictionId)
    (hresolved : ∀ prediction, s.pending.get? app = some prediction →
      (outcome prediction).resolutionStatus = "RESOLVED" →
      ∃ emitted ∈ s.predictions, ∃ resolution,
        (outcome prediction).resolution = some resolution ∧
          ResolvedBy emitted (outcome prediction) resolution) :
    Booked settings (s.settle app outcome) := by
  cases hpending : s.pending.get? app with
  | none =>
    have hsame : s.settle app outcome = s := by
      unfold Predictor.settle
      rw [hpending]
    rw [hsame]
    exact h
  | some prediction =>
    have hsettle : s.settle app outcome =
        { s with
          pending := s.pending.erase app
          outcomes := s.outcomes ++ [outcome prediction] } := by
      unfold Predictor.settle
      rw [hpending]
    refine ⟨?_, ?_, ?_, ?_, ?_⟩
    · rw [hsettle]
      exact h.issued
    · rw [hsettle]
      refine List.Perm.trans ?_ h.settled
      have hvalues := ((Dict.erase_perm hpending).map Prod.snd).map
        PageBucketPrediction.predictionId
      unfold bookedIds Dict.values
      rw [map_append, append_assoc, map_singleton, hid]
      exact (hvalues.symm.append_left _)
    · intro other waiting hother
      rw [settle_get?] at hother
      split_ifs at hother with hsame
      obtain ⟨happ, hmade, hepoch, hnamed, hcurrent⟩ := h.waiting other waiting hother
      refine ⟨happ, ?_, ?_, hnamed, ?_⟩
      · rw [(settle_keeps s app outcome).models, settle_predictions]
        exact hmade
      · rw [settle_runtime]
        exact hepoch
      · rw [settle_runtime]
        exact hcurrent
    · rw [settle_predictions]
      exact h.wellMade
    · rw [settle_predictions]
      intro o ho
      rw [hsettle] at ho
      rcases mem_append.1 ho with hold | hnew
      · exact h.resolutions o hold
      · rw [mem_singleton.1 hnew]
        exact hresolved prediction hpending

theorem Booked.cancelPending (h : Booked settings s) (app reason : String)
    (hreason : reason ≠ "RESOLVED") (timestampNs : ℤ) :
    Booked settings (s.cancelPending app reason timestampNs) :=
  h.settle (fun _ => rfl) fun _ _ hstatus => absurd hstatus hreason

theorem setRuntime_keeps (s : Predictor) (app : String) (runtime : RuntimeState) :
    Keeps s (s.setRuntime app runtime) := ⟨rfl, rfl, rfl, rfl⟩

theorem setRuntime_self (s : Predictor) (app : String) (runtime : RuntimeState) :
    (s.setRuntime app runtime).runtime app = runtime := Function.update_self ..

theorem Booked.setRuntime (h : Booked settings s) {runtime : RuntimeState}
    (hruntime : ∀ prediction, s.pending.get? app = some prediction →
      runtime.foregroundEpochId = prediction.foregroundEpochId ∧ runtime.currentBucket ≠ none) :
    Booked settings (s.setRuntime app runtime) := by
  refine ⟨h.issued, h.settled, fun other prediction hpending => ?_, h.wellMade, h.resolutions⟩
  obtain ⟨happ, hmade, hepoch, hnamed, hcurrent⟩ := h.waiting other prediction hpending
  by_cases hother : other = app
  · subst hother
    obtain ⟨hsame, hbucket⟩ := hruntime prediction hpending
    refine ⟨happ, hmade, ?_, hnamed, ?_⟩
    · rw [setRuntime_self]
      exact hsame
    · rw [setRuntime_self]
      exact hbucket
  · have hruntime' : (s.setRuntime app runtime).runtime other = s.runtime other :=
      Function.update_of_ne hother _ _
    refine ⟨happ, hmade, ?_, hnamed, ?_⟩
    · rw [hruntime']
      exact hepoch
    · rw [hruntime']
      exact hcurrent

theorem breakRuntime_get? (s : Predictor) (app reason : String) (timestampNs : ℤ) :
    (s.breakRuntime app reason timestampNs).pending.get? app = none := by
  refine (settle_get? s app _ app).trans (if_pos rfl)

theorem breakRuntime_keeps (s : Predictor) (app reason : String) (timestampNs : ℤ) :
    Keeps s (s.breakRuntime app reason timestampNs) :=
  (settle_keeps s app _).trans (setRuntime_keeps _ app _)

theorem Booked.breakRuntime (h : Booked settings s) {reason : String} (hreason : reason ≠ "RESOLVED")
    (timestampNs : ℤ) : Booked settings (s.breakRuntime app reason timestampNs) := by
  refine (h.cancelPending app reason hreason timestampNs).setRuntime fun prediction hpending => ?_
  have hnone : (s.cancelPending app reason timestampNs).pending.get? app = none :=
    (settle_get? s app _ app).trans (if_pos rfl)
  rw [hnone] at hpending
  cases hpending

end

section

variable {snapshot : PageSnapshot} {trained : Trained} {bucket : String}

theorem enterModel_keeps (s : Predictor) (app version : String) (processingTimeNs : ℤ) :
    Keeps s (s.enterModel app version processingTimeNs) := by
  unfold Predictor.enterModel
  split_ifs
  · exact (breakRuntime_keeps s app _ _).trans (setRuntime_keeps _ app _)
  · exact .refl s

theorem Booked.enterModel (h : Booked settings s) (app version : String) (processingTimeNs : ℤ) :
    Booked settings (s.enterModel app version processingTimeNs) := by
  unfold Predictor.enterModel
  split_ifs
  · refine (h.breakRuntime (by decide) _).setRuntime fun prediction hpending => ?_
    rw [breakRuntime_get?] at hpending
    cases hpending
  · exact h

theorem enterEpoch_keeps (s : Predictor) (app epochId : String) (processingTimeNs : ℤ) :
    Keeps s (s.enterEpoch app epochId processingTimeNs) := by
  unfold Predictor.enterEpoch
  dsimp only
  split_ifs
  · exact (settle_keeps s app _).trans (setRuntime_keeps _ app _)
  · exact setRuntime_keeps s app _

theorem enterEpoch_epoch (s : Predictor) (app epochId : String) (processingTimeNs : ℤ) :
    ((s.enterEpoch app epochId processingTimeNs).runtime app).foregroundEpochId = epochId := by
  unfold Predictor.enterEpoch
  dsimp only
  split_ifs <;> rw [setRuntime_self]

theorem Booked.enterEpoch (h : Booked settings s) (app epochId : String) (processingTimeNs : ℤ) :
    Booked settings (s.enterEpoch app epochId processingTimeNs) := by
  unfold Predictor.enterEpoch
  dsimp only
  split_ifs with hchanged
  · refine (h.cancelPending app _ (by decide) _).setRuntime fun prediction hpending => ?_
    rw [Predictor.cancelPending, settle_get?, if_pos rfl] at hpending
    cases hpending
  · refine h.setRuntime fun prediction hpending => ?_
    obtain ⟨-, -, hepoch, hnamed, hcurrent⟩ := h.waiting app prediction hpending
    rw [hepoch] at hchanged
    exact ⟨(not_not.1 (not_and.1 hchanged hnamed)).symm, hcurrent⟩

theorem Booked.enterBucket (h : Booked settings s) (happ : snapshot.appId = app)
    (hepoch : (s.runtime app).foregroundEpochId = snapshot.foregroundEpochId)
    (processingTimeNs : ℤ) :
    Booked settings (s.enterBucket app snapshot bucket processingTimeNs) := by
  unfold Predictor.enterBucket
  dsimp only
  split_ifs with hcurrent
  · refine Booked.setRuntime (h.settle (fun _ => rfl) fun prediction hpending hstatus => ?_)
      fun prediction hpending => ?_
    · obtain ⟨hmine, ⟨trained, hinstalled, hmade⟩, hsame, -, -⟩ :=
        h.waiting app prediction hpending
      have hcausal : causal s app prediction snapshot = true := by
        by_contra hnot
        have hnon : (if causal s app prediction snapshot = true then "RESOLVED" else "NON_CAUSAL") =
            "RESOLVED" := hstatus
        rw [if_neg hnot] at hnon
        exact absurd hnon (by decide)
      have hlater := (of_decide_eq_true hcausal).2.1
      refine ⟨⟨prediction, trained⟩, hmade, _, rfl, rfl, hmine.symm, happ.trans hmine.symm,
        hepoch.symm.trans hsame, rfl, hinstalled, hlater⟩
    · rw [settle_get?, if_pos rfl] at hpending
      cases hpending
  · refine h.setRuntime fun prediction hpending => ?_
    exact absurd (h.waiting app prediction hpending).current hcurrent

theorem enterBucket_keeps (s : Predictor) (app : String) (snapshot : PageSnapshot)
    (bucket : String) (processingTimeNs : ℤ) :
    Keeps s (s.enterBucket app snapshot bucket processingTimeNs) := by
  unfold Predictor.enterBucket
  dsimp only
  split_ifs
  · exact (settle_keeps s app _).trans (setRuntime_keeps _ app _)
  · exact setRuntime_keeps s app _

theorem enterBucket_runtime (s : Predictor) (app : String) (snapshot : PageSnapshot)
    (bucket : String) (processingTimeNs : ℤ) :
    let after := s.enterBucket app snapshot bucket processingTimeNs
    (after.runtime app).foregroundEpochId = (s.runtime app).foregroundEpochId ∧
      (after.runtime app).currentBucket = some bucket := by
  unfold Predictor.enterBucket
  dsimp only
  split_ifs
  · rw [setRuntime_self]
    exact ⟨rfl, rfl⟩
  · rw [setRuntime_self]
    exact ⟨rfl, rfl⟩

theorem Booked.enterBucket_get? (h : Booked settings s) (snapshot : PageSnapshot) (bucket : String)
    (processingTimeNs : ℤ) :
    (s.enterBucket app snapshot bucket processingTimeNs).pending.get? app = none := by
  unfold Predictor.enterBucket
  dsimp only
  split_ifs with hcurrent
  · exact (settle_get? s app _ app).trans (if_pos rfl)
  · by_contra hsome
    obtain ⟨prediction, hpending⟩ := Option.ne_none_iff_exists'.1 hsome
    exact hcurrent (h.waiting app prediction hpending).current

theorem Booked.emit (h : Booked settings s) (hempty : s.pending.get? app = none)
    (emitted : Emitted) (happ : emitted.prediction.appId = app)
    (hid : emitted.prediction.predictionId = predictionId settings (s.predictionSerial + 1))
    (hinstalled : s.models app = some emitted.trained) (hmade : WellMade emitted)
    (hepoch : (s.runtime app).foregroundEpochId = emitted.prediction.foregroundEpochId)
    (hnamed : emitted.prediction.foregroundEpochId ≠ "")
    (hcurrent : (s.runtime app).currentBucket ≠ none) :
    Booked settings
      { s with
        predictionSerial := s.predictionSerial + 1
        pending := s.pending.set app emitted.prediction
        predictions := s.predictions ++ [emitted] } := by
  refine ⟨?_, ?_, ?_, ?_, ?_⟩
  · change (s.predictions ++ [emitted]).map _ = _
    rw [map_append, range_succ, map_append, map_singleton, map_singleton,
      hid]
    exact congrArg (· ++ _) h.issued
  · change (s.outcomes.map _ ++ (s.pending.set app emitted.prediction).values.map _).Perm
      ((s.predictions ++ [emitted]).map _)
    unfold Dict.values
    rw [Dict.set_items_new hempty, map_append, map_append, map_append,
      ← append_assoc]
    exact h.settled.append_right _
  · intro other prediction hpending
    change (s.pending.set app emitted.prediction).get? other = some prediction at hpending
    rw [Dict.get?_set] at hpending
    split_ifs at hpending with hother
    · cases hpending
      subst hother
      exact ⟨happ, ⟨emitted.trained, hinstalled, mem_append_right _ (.head _)⟩, hepoch,
        hnamed, hcurrent⟩
    · have hwaiting := h.waiting other prediction hpending
      obtain ⟨trained, hmodel, hold⟩ := hwaiting.made
      exact { hwaiting with made := ⟨trained, hmodel, mem_append_left _ hold⟩ }
  · intro e he
    rcases mem_append.1 he with hold | hnew
    · exact h.wellMade e hold
    · rw [mem_singleton.1 hnew]
      exact hmade
  · intro outcome houtcome hstatus
    obtain ⟨e, he, hresolution⟩ := h.resolutions outcome houtcome hstatus
    exact ⟨e, mem_append_left _ he, hresolution⟩

variable {similarity : Float} {processingTimeNs : ℤ} {allowPrediction : Bool}

theorem predict_keeps (s : Predictor) :
    Keeps s (s.predict settings app snapshot trained bucket similarity processingTimeNs
      allowPrediction).2 := by
  unfold Predictor.predict
  dsimp only
  split_ifs
  · exact .refl s
  · split
    · exact .refl s
    · exact ⟨rfl, rfl, rfl, rfl⟩

theorem Booked.predict (h : Booked settings s) (hempty : s.pending.get? app = none)
    (hinstalled : s.models app = some trained)
    (hepoch : (s.runtime app).foregroundEpochId = snapshot.foregroundEpochId)
    (hnamed : snapshot.foregroundEpochId ≠ "") (hcurrent : (s.runtime app).currentBucket ≠ none)
    (htrained : ∀ window ∈ trained.windows, window.windowEndNs ≤ processingTimeNs) :
    Booked settings (s.predict settings app snapshot trained bucket similarity processingTimeNs
      allowPrediction).2 := by
  unfold Predictor.predict
  dsimp only
  split_ifs
  · exact h
  · split
    · exact h
    · rename_i best hbest
      exact h.emit hempty ⟨_, trained⟩ rfl rfl hinstalled ⟨rfl, htrained⟩ hepoch hnamed hcurrent

theorem follow_keeps (s : Predictor) :
    Keeps s (s.follow settings app snapshot trained bucket similarity processingTimeNs
      allowPrediction).2 := by
  unfold Predictor.follow
  dsimp only
  have hentered := (enterModel_keeps s app trained.model.modelVersion processingTimeNs).trans
    (enterEpoch_keeps _ app snapshot.foregroundEpochId processingTimeNs)
  split_ifs
  · exact hentered
  · exact (hentered.trans (enterBucket_keeps _ app snapshot bucket processingTimeNs)).trans
      (predict_keeps _)

theorem Booked.follow (h : Booked settings s) (hinstalled : s.models app = some trained)
    (happ : snapshot.appId = app) (hnamed : snapshot.foregroundEpochId ≠ "")
    (htrained : ∀ window ∈ trained.windows, window.windowEndNs ≤ processingTimeNs) :
    Booked settings (s.follow settings app snapshot trained bucket similarity processingTimeNs
      allowPrediction).2 := by
  unfold Predictor.follow
  dsimp only
  have hkeeps := (enterModel_keeps s app trained.model.modelVersion processingTimeNs).trans
    (enterEpoch_keeps _ app snapshot.foregroundEpochId processingTimeNs)
  have hentered := (h.enterModel app trained.model.modelVersion processingTimeNs).enterEpoch app
    snapshot.foregroundEpochId processingTimeNs
  have hepoch := enterEpoch_epoch (s.enterModel app trained.model.modelVersion processingTimeNs)
    app snapshot.foregroundEpochId processingTimeNs
  generalize (s.enterModel app trained.model.modelVersion processingTimeNs).enterEpoch app
    snapshot.foregroundEpochId processingTimeNs = entered at hkeeps hentered hepoch ⊢
  split_ifs
  · exact hentered
  · obtain ⟨hsame, hbucket⟩ := enterBucket_runtime entered app snapshot bucket processingTimeNs
    refine (hentered.enterBucket happ hepoch processingTimeNs).predict
      (hentered.enterBucket_get? snapshot bucket processingTimeNs) ?_ (hsame.trans hepoch) hnamed
      ?_ htrained
    · rw [(enterBucket_keeps entered app snapshot bucket processingTimeNs).models, hkeeps.models]
      exact hinstalled
    · rw [hbucket]
      exact nofun

end

section

theorem snapshot_named {cfg : Config} {shadow : Shadow} {windowStartNs : ℤ}
    (h : (snapshot cfg shadow windowStartNs).appId ≠ unknown) :
    (snapshot cfg shadow windowStartNs).foregroundEpochId ≠ "" := by
  change (foreground shadow windowStartNs (windowStartNs + cfg.windowNs)).1 ≠ unknown at h
  change (foreground shadow windowStartNs (windowStartNs + cfg.windowNs)).2.1 ≠ ""
  unfold foreground at h ⊢
  dsimp only at h ⊢
  cases hrow : (timelineValue shadow.foregroundChanges windowStartNs
    (windowStartNs + cfg.windowNs)).1 with
  | none =>
    rw [hrow] at h
    exact absurd rfl h
  | some row =>
    intro hempty
    have hlength := congrArg String.length hempty
    simp at hlength

theorem processSnapshot_keeps (settings : Settings) (s : Predictor) (snapshot : PageSnapshot)
    (processingTimeNs : ℤ) (allowPrediction : Bool) :
    Keeps s (s.processSnapshot settings snapshot processingTimeNs allowPrediction).2 := by
  unfold Predictor.processSnapshot
  dsimp only
  split_ifs
  · exact .refl s
  · exact breakRuntime_keeps s _ _ _
  · split
    · exact breakRuntime_keeps s _ _ _
    · split_ifs
      · exact breakRuntime_keeps s _ _ _
      · exact follow_keeps s

theorem Booked.processSnapshot (h : Booked settings s) {snapshot : PageSnapshot}
    {processingTimeNs : ℤ} (allowPrediction : Bool)
    (hnamed : snapshot.appId ≠ unknown → snapshot.foregroundEpochId ≠ "")
    (htrained : ∀ app trained, s.models app = some trained →
      ∀ window ∈ trained.windows, window.windowEndNs ≤ processingTimeNs) :
    Booked settings (s.processSnapshot settings snapshot processingTimeNs allowPrediction).2 := by
  unfold Predictor.processSnapshot
  dsimp only
  split_ifs with happ
  · exact h
  · exact h.breakRuntime (by decide) _
  · split
    · exact h.breakRuntime (by decide) _
    · rename_i trained hinstalled
      split_ifs
      · exact h.breakRuntime (by decide) _
      · exact h.follow hinstalled rfl (hnamed happ) (htrained _ trained hinstalled)

structure EndsBy (s : Predictor) (endNs : ℤ) : Prop where
  histories : ∀ app, ∀ window ∈ s.histories app, window.windowEndNs ≤ endNs
  trained : ∀ app trained, s.models app = some trained →
    ∀ window ∈ trained.windows, window.windowEndNs ≤ endNs

variable {snapshot : PageSnapshot} {endNs : ℤ}

theorem EndsBy.mono (h : EndsBy s endNs) {endNs' : ℤ} (hle : endNs ≤ endNs') : EndsBy s endNs' :=
  ⟨fun app window hw => (h.histories app window hw).trans hle,
    fun app trained ht window hw => (h.trained app trained ht window hw).trans hle⟩

theorem EndsBy.keeps (h : EndsBy s endNs) {s' : Predictor} (hkeeps : Keeps s s') :
    EndsBy s' endNs := by
  refine ⟨?_, ?_⟩
  · rw [hkeeps.histories]
    exact h.histories
  · rw [hkeeps.models]
    exact h.trained

theorem dropHistory_subset (limit : ℕ) (history : List PageSnapshot) (count : ℕ) :
    (dropHistory limit history count).1 ⊆ history := by
  induction history generalizing count with
  | nil => exact fun _ h => h
  | cons oldest history ih =>
    unfold dropHistory
    split_ifs
    · exact subset_cons_of_subset oldest (ih _)
    · exact subset_cons_of_subset oldest (ih _)
    · exact fun _ h => h

theorem EndsBy.appendHistory (h : EndsBy s endNs) (settings : Settings)
    (hsnapshot : snapshot.windowEndNs ≤ endNs) : EndsBy (s.appendHistory settings snapshot) endNs := by
  refine ⟨fun app window hw => ?_, h.trained⟩
  change window ∈ Function.update s.histories snapshot.appId _ app at hw
  by_cases happ : app = snapshot.appId
  · rw [happ, Function.update_self] at hw
    rcases mem_append.1 (dropHistory_subset _ _ _ hw) with hold | hnew
    · exact h.histories _ window hold
    · rw [mem_singleton.1 hnew]
      exact hsnapshot
  · rw [Function.update_of_ne happ] at hw
    exact h.histories app window hw

theorem Booked.congr (h : Booked settings s) {s' : Predictor} (hmodels : s'.models = s.models)
    (hruntime : s'.runtime = s.runtime) (hpending : s'.pending = s.pending)
    (hserial : s'.predictionSerial = s.predictionSerial)
    (hpredictions : s'.predictions = s.predictions) (houtcomes : s'.outcomes = s.outcomes) :
    Booked settings s' := by
  refine ⟨?_, ?_, fun app prediction hget => ?_, ?_, ?_⟩
  · unfold issuedIds
    rw [hpredictions, hserial]
    exact h.issued
  · unfold bookedIds issuedIds
    rw [hpredictions, houtcomes, hpending]
    exact h.settled
  · rw [hpending] at hget
    obtain ⟨happ, hmade, hepoch, hnamed, hcurrent⟩ := h.waiting app prediction hget
    refine ⟨happ, ?_, ?_, hnamed, ?_⟩
    · rw [hmodels, hpredictions]
      exact hmade
    · rw [hruntime]
      exact hepoch
    · rw [hruntime]
      exact hcurrent
  · rw [hpredictions]
    exact h.wellMade
  · rw [houtcomes, hpredictions]
    exact h.resolutions

end

section

variable {endNs : ℤ}

theorem installModel_models (s : Predictor) (app : String) (trained : Trained) (clockNs : ℤ)
    (other : String) :
    (s.installModel app trained clockNs).models other =
      if other = app then some trained else s.models other := by
  unfold Predictor.installModel Predictor.cancelPending
  dsimp only
  rw [(settle_keeps s app _).models, Function.update_apply]

theorem installModel_runtime (s : Predictor) {app other : String} (hother : other ≠ app)
    (trained : Trained) (clockNs : ℤ) :
    (s.installModel app trained clockNs).runtime other = s.runtime other := by
  unfold Predictor.installModel Predictor.cancelPending
  dsimp only
  rw [settle_runtime, Function.update_of_ne hother]

theorem Booked.installModel (h : Booked settings s) (app : String) (trained : Trained)
    (clockNs : ℤ) : Booked settings (s.installModel app trained clockNs) := by
  have hcancelled := h.cancelPending app "MODEL_REPLACED" (by decide) clockNs
  refine ⟨hcancelled.issued, hcancelled.settled, fun other prediction hpending => ?_,
    hcancelled.wellMade, hcancelled.resolutions⟩
  have hempty : (s.cancelPending app "MODEL_REPLACED" clockNs).pending.get? app = none :=
    (settle_get? s app _ app).trans (if_pos rfl)
  have hother : other ≠ app := by
    rintro rfl
    cases hempty.symm.trans hpending
  have hwaiting := hcancelled.waiting other prediction hpending
  refine ⟨hwaiting.appId, ?_, ?_, hwaiting.named, ?_⟩
  · obtain ⟨made, hinstalled, hmade⟩ := hwaiting.made
    refine ⟨made, ?_, hmade⟩
    rw [installModel_models, if_neg hother, ← (settle_keeps s app _).models]
    exact hinstalled
  · rw [installModel_runtime s hother, ← settle_runtime s app]
    exact hwaiting.epoch
  · rw [installModel_runtime s hother, ← settle_runtime s app]
    exact hwaiting.current

theorem EndsBy.installModel (h : EndsBy s endNs) {app : String} {trained : Trained}
    (htrained : ∀ window ∈ trained.windows, window.windowEndNs ≤ endNs) (clockNs : ℤ) :
    EndsBy (s.installModel app trained clockNs) endNs := by
  refine ⟨?_, fun other model hmodel => ?_⟩
  · unfold Predictor.installModel Predictor.cancelPending
    dsimp only
    rw [(settle_keeps s app _).histories]
    exact h.histories
  · rw [installModel_models] at hmodel
    split_ifs at hmodel with hother
    · cases hmodel
      exact htrained
    · exact h.trained other model hmodel

theorem schedule_keeps (hbooked : Booked settings s) (hends : EndsBy s endNs) (app : String)
    (clockNs : ℤ) :
    let after := s.maybeScheduleTraining settings app clockNs
    Booked settings after ∧ EndsBy after endNs ∧ after.shadow = s.shadow ∧
      after.closed = s.closed := by
  unfold Predictor.maybeScheduleTraining
  dsimp only
  split_ifs
  · exact ⟨hbooked, hends, rfl, rfl⟩
  · split
    · exact ⟨hbooked.congr rfl rfl rfl rfl rfl rfl, ⟨hends.histories, hends.trained⟩, rfl, rfl⟩
    · rename_i model hmodel
      have hcounted : Booked settings
          { s with
            modelSerial := Function.update s.modelSerial app (s.modelSerial app + 1)
            lastTrainingCount := Function.update s.lastTrainingCount app (s.eligibleSeen app) } :=
        hbooked.congr rfl rfl rfl rfl rfl rfl
      have hended : EndsBy
          { s with
            modelSerial := Function.update s.modelSerial app (s.modelSerial app + 1)
            lastTrainingCount := Function.update s.lastTrainingCount app (s.eligibleSeen app) }
          endNs := ⟨hends.histories, hends.trained⟩
      have hkeeps := settle_keeps
        { s with
          modelSerial := Function.update s.modelSerial app (s.modelSerial app + 1)
          lastTrainingCount := Function.update s.lastTrainingCount app (s.eligibleSeen app) }
        app fun prediction => censored prediction app "MODEL_REPLACED" clockNs
      exact ⟨hcounted.installModel app _ clockNs, hended.installModel (hends.histories app) clockNs,
        hkeeps.shadow, hkeeps.closed⟩

theorem recordSnapshot_keeps (hbooked : Booked settings s) (hends : EndsBy s endNs)
    {snapshot : PageSnapshot} (hsnapshot : snapshot.windowEndNs ≤ endNs) (clockNs : ℤ) :
    let after := s.recordSnapshot settings snapshot clockNs
    Booked settings after ∧ EndsBy after endNs ∧ after.shadow = s.shadow ∧
      after.closed = s.closed := by
  unfold Predictor.recordSnapshot
  dsimp only
  have happended := hends.appendHistory settings hsnapshot
  by_cases happ : snapshot.appId = unknown
  · rw [if_pos happ]
    exact ⟨hbooked, hends, rfl, rfl⟩
  · rw [if_neg happ]
    have hkept : Booked settings (s.appendHistory settings snapshot) :=
      hbooked.congr rfl rfl rfl rfl rfl rfl
    split_ifs
    · refine schedule_keeps ?_ ?_ _ clockNs
      · exact hkept.congr rfl rfl rfl rfl rfl rfl
      · exact ⟨happended.histories, happended.trained⟩
    · exact schedule_keeps hkept happended _ clockNs

end

end Parp.PageHotset
