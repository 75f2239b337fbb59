import Parp.EvidenceTables
import Parp.EvidenceWindows

set_option autoImplicit false

namespace Parp.EvidenceWindowRuns

open Evidence EvidenceOwners EvidenceTables EvidenceWindows List
open TransitionRuns

section

variable {κ : Type} {samples : List (ParpObservation κ)} {builder : ParpBuilder κ}

theorem takeSample_newest (builder : ParpBuilder κ) (observation : ParpObservation κ) :
    builder.newestNs ≤ (takeSample builder observation).newestNs ∧
      observation.sample.timestampNs ≤ (takeSample builder observation).newestNs := by
  change builder.newestNs ≤ max _ _ ∧ observation.sample.timestampNs ≤ max _ _
  simp only [max]
  split_ifs with hle
  · exact ⟨hle, UInt64.le_refl _⟩
  · exact ⟨UInt64.le_refl _, UInt64.le_of_lt (UInt64.not_le.1 hle)⟩

theorem le_newest (h : builderOf samples = some builder) :
    ∀ observation ∈ samples, observation.sample.timestampNs ≤ builder.newestNs := by
  induction samples using List.reverseRecOn generalizing builder with
  | nil => cases h
  | append_singleton samples last ih =>
    cases hbefore : builderOf samples with
    | none =>
      cases samples with
      | nil =>
        obtain rfl := Option.some.inj h
        intro observation hmem
        rw [mem_singleton.1 hmem]
        exact (takeSample_newest _ last).2
      | cons first rest => cases hbefore
    | some earlier =>
      rw [builderOf_concat hbefore] at h
      obtain rfl := Option.some.inj h
      obtain ⟨hold, hnew⟩ := takeSample_newest earlier last
      intro observation hmem
      rcases mem_append.1 hmem with hmem | hmem
      · exact UInt64.le_trans (ih hbefore observation hmem) hold
      · rw [mem_singleton.1 hmem]
        exact hnew

theorem timely_of_taken (h : builderOf samples = some builder) {observation : ParpObservation κ}
    (htaken : rejects builder observation.sample = none) :
    ∀ earlier ∈ samples, Timely earlier observation := by
  intro earlier hmem
  have hnewest := UInt64.le_iff_toNat_le.1 (le_newest h earlier hmem)
  unfold rejects at htaken
  split_ifs at htaken with hsame hlate
  unfold Timely
  by_cases hzero : builder.newestNs = 0
  · rw [hzero, UInt64.toNat_zero] at hnewest
    omega
  · have hin : builder.newestNs ≤ observation.sample.timestampNs + 2 * nsecPerSec :=
      UInt64.not_lt.1 fun hlt => hlate ⟨hzero, hlt⟩
    rw [UInt64.le_iff_toNat_le, UInt64.toNat_add] at hin
    have hmod := Nat.mod_le (observation.sample.timestampNs.toNat + (2 * nsecPerSec).toNat) (2 ^ 64)
    change _ ≤ _ + 2 * 10 ^ 9 at hmod
    omega

end

section

variable {κ ρ : Type} [DecidableEq ρ] {kind : RegionKind κ} {region : ParpObservation κ → ρ}
  {builders remaining : List (ParpBuilder κ)} {samplesOf : ρ → List (ParpObservation κ)}
  {taken : List (ParpObservation κ)}

/-- The samples of a region after a step: none without a builder, else those taken are added. -/
def regionStep (region : ParpObservation κ → ρ) (taken : List (ParpObservation κ))
    (builders : List (ParpBuilder κ)) (r : ρ) (samples : List (ParpObservation κ)) :
    List (ParpObservation κ) :=
  if ∃ builder ∈ builders, region builder.observation = r then
    samples ++ taken.filter fun observation => region observation = r
  else []

structure Tracked (region : ParpObservation κ → ρ) (builders : List (ParpBuilder κ))
    (samplesOf : ρ → List (ParpObservation κ)) : Prop where
  distinct : (builders.map fun builder => region builder.observation).Nodup
  made : ∀ builder ∈ builders,
    builderOf (samplesOf (region builder.observation)) = some builder
  timely : ∀ r, (samplesOf r).Pairwise Timely
  absent : ∀ r, (∀ builder ∈ builders, region builder.observation ≠ r) → samplesOf r = []

theorem Tracked.next (hdistinct : (remaining.map fun builder => region builder.observation).Nodup)
    (hmade : ∀ builder ∈ remaining,
      builderOf (samplesOf (region builder.observation) ++ taken.filter fun observation =>
        region observation = region builder.observation) = some builder)
    (htimely : ∀ r, (samplesOf r ++ taken.filter fun observation =>
      region observation = r).Pairwise Timely) :
    Tracked region remaining fun r => regionStep region taken remaining r (samplesOf r) := by
  refine ⟨hdistinct, fun builder hmem => ?_, fun r => ?_, fun r hnone => ?_⟩
  · unfold regionStep
    rw [if_pos ⟨builder, hmem, rfl⟩]
    exact hmade builder hmem
  · unfold regionStep
    split_ifs
    · exact htimely r
    · exact List.Pairwise.nil
  · unfold regionStep
    rw [if_neg]
    rintro ⟨builder, hmem, hregion⟩
    exact hnone builder hmem hregion

theorem Tracked.quiet (h : Tracked region builders samplesOf)
    (hdistinct : (remaining.map fun builder => region builder.observation).Nodup)
    (hsub : ∀ builder ∈ remaining, builder ∈ builders) :
    Tracked region remaining fun r => regionStep region [] remaining r (samplesOf r) := by
  refine Tracked.next hdistinct (fun builder hmem => ?_) fun r => ?_
  · rw [filter_nil, append_nil]
    exact h.made builder (hsub builder hmem)
  · rw [filter_nil, append_nil]
    exact h.timely r

variable {observation : ParpObservation κ}

theorem filter_same {r : ρ} (h : region observation = r) :
    ([observation].filter fun observation => region observation = r) = [observation] := by
  simp [h]

theorem filter_other {r : ρ} (h : region observation ≠ r) :
    ([observation].filter fun observation => region observation = r) = [] := by
  simp [h]

theorem Tracked.take (h : Tracked region builders samplesOf)
    (hdistinct : (remaining.map fun builder => region builder.observation).Nodup)
    (hown : ∀ builder ∈ remaining, region builder.observation = region observation →
      builderOf (samplesOf (region observation) ++ [observation]) = some builder)
    (hothers : ∀ builder ∈ remaining, region builder.observation ≠ region observation →
      builder ∈ builders)
    (htimely : ∀ earlier ∈ samplesOf (region observation), Timely earlier observation) :
    Tracked region remaining fun r =>
      regionStep region [observation] remaining r (samplesOf r) := by
  refine Tracked.next hdistinct (fun builder hmem => ?_) fun r => ?_
  · by_cases hsame : region builder.observation = region observation
    · rw [hsame, filter_same rfl]
      exact hown builder hmem hsame
    · rw [filter_other (Ne.symm hsame), append_nil]
      exact h.made builder (hothers builder hmem hsame)
  · by_cases hsame : region observation = r
    · subst hsame
      rw [filter_same rfl]
      refine pairwise_append.2 ⟨h.timely _, pairwise_singleton _ _, ?_⟩
      intro earlier hmem last hlast
      rw [mem_singleton.1 hlast]
      exact htimely earlier hmem
    · rw [filter_other hsame, append_nil]
      exact h.timely r

theorem Tracked.takeFresh (hnames : Names kind region) (h : Tracked region builders samplesOf)
    (hnew : findBuilder kind builders observation = none)
    (hdistinct : (remaining.map fun builder => region builder.observation).Nodup)
    (hsub : ∀ builder ∈ remaining,
      builder ∈ builders ∨ builder = takeSample (freshBuilder observation) observation) :
    Tracked region remaining fun r =>
      regionStep region [observation] remaining r (samplesOf r) := by
  have hnone : ∀ builder ∈ builders, region builder.observation ≠ region observation := by
    intro builder hmem hsame
    exact region_notMem hnames (findBuilder_none.1 hnew)
      (mem_map.2 ⟨builder, hmem, hsame⟩)
  have hempty := h.absent _ hnone
  refine h.take hdistinct (fun builder hmem hsame => ?_) (fun builder hmem hother => ?_) ?_
  · rw [hempty]
    rcases hsub builder hmem with hold | rfl
    · exact (hnone builder hold hsame).elim
    · rfl
  · rcases hsub builder hmem with hold | rfl
    · exact hold
    · exact (hother rfl).elim
  · rw [hempty]
    exact fun _ hmem => (not_mem_nil hmem).elim

theorem tableUpdate_tracked (hnames : Names kind region) {table : Table κ}
    (h : Tracked region table.builders samplesOf) (limits : Limits) (others : ℕ)
    (observation : ParpObservation κ) (allocated : Bool) :
    Tracked region (tableUpdate kind limits table others observation allocated).1.builders fun r =>
      regionStep region (accepted kind limits table others observation allocated)
        (tableUpdate kind limits table others observation allocated).1.builders r
        (samplesOf r) := by
  have hcase := tableUpdate_cases kind limits table others observation allocated
  have hdistinct := (tableUpdate_move kind limits table others observation allocated).distinct
    hnames h.distinct
  unfold EvidenceOwners.accepted
  generalize tableUpdate kind limits table others observation allocated = result at *
  cases hcase with
  | rejected errno hsame => exact h.quiet hdistinct fun builder hmem => hsame ▸ hmem
  | extended hnew hbuilders =>
    refine h.takeFresh hnames hnew hdistinct fun builder hmem => ?_
    rw [hbuilders] at hmem
    simpa using hmem
  | replaced i hnew hbuilders =>
    refine h.takeFresh hnames hnew hdistinct fun builder hmem => ?_
    rw [hbuilders] at hmem
    exact mem_or_eq_of_mem_set hmem
  | @updated table' old i hfound htaken hbuilders =>
    obtain ⟨hget, hregion⟩ := findBuilder_some hfound
    have hsame := (hnames.same _ _).1 hregion
    have hmade := h.made old (mem_of_getElem? hget)
    rw [hsame] at hmade
    refine h.take hdistinct (fun builder hmem hown => ?_) (fun builder hmem hother => ?_)
      (timely_of_taken hmade htaken)
    · rw [builderOf_concat hmade]
      -- the region has one builder only
      have hnew : takeSample old observation ∈ table'.builders := by
        rw [hbuilders]
        exact mem_set (List.getElem?_eq_some_iff.1 hget).1 _
      exact congrArg some (inj_on_of_nodup_map hdistinct hnew hmem hown.symm)
    · rw [hbuilders] at hmem
      rcases mem_or_eq_of_mem_set hmem with hold | rfl
      · exact hold
      · exact (hother rfl).elim

end

section

variable {κ ρ : Type} [DecidableEq ρ]

def samplesAlong (region : ParpObservation κ → ρ)
    (accepted : EvidenceState → EvidenceEvent → List (ParpObservation κ))
    (table : EvidenceState → Table κ) (r : ρ) (events : List EvidenceEvent) :
    List (ParpObservation κ) :=
  (turns evidenceStep {} events).foldl (fun samples turn =>
    regionStep region (accepted turn.before turn.input)
      (table (evidenceStep turn.before turn.input).2).builders r samples) []

theorem samplesAlong_concat (region : ParpObservation κ → ρ)
    (accepted : EvidenceState → EvidenceEvent → List (ParpObservation κ))
    (table : EvidenceState → Table κ) (r : ρ) (events : List EvidenceEvent)
    (event : EvidenceEvent) :
    samplesAlong region accepted table r (events ++ [event]) =
      regionStep region (accepted (evidenceAfter events) event)
        (table (evidenceStep (evidenceAfter events) event).2).builders r
        (samplesAlong region accepted table r events) := by
  unfold samplesAlong
  rw [turns_concat, foldl_append]
  rfl

def fileSamples (events : List EvidenceEvent) (r : UInt64 × ParpFileRegionKey) :
    List (ParpObservation ParpFileRegionKey) :=
  samplesAlong fileRegion acceptedFile EvidenceState.files r events

def anonSamples (events : List EvidenceEvent) (r : ParpAnonRegionKey) :
    List (ParpObservation ParpAnonRegionKey) :=
  samplesAlong anonRegion acceptedAnon EvidenceState.anons r events

variable {state : EvidenceState} {files : UInt64 × ParpFileRegionKey →
    List (ParpObservation ParpFileRegionKey)}
  {anons : ParpAnonRegionKey → List (ParpObservation ParpAnonRegionKey)}

theorem tracked_unchanged {region : ParpObservation κ → ρ} {builders after : List (ParpBuilder κ)}
    {samplesOf : ρ → List (ParpObservation κ)} (h : Tracked region builders samplesOf)
    (hsame : after = builders) :
    Tracked region after fun r => regionStep region [] after r (samplesOf r) :=
  hsame ▸ h.quiet h.distinct fun _ hmem => hmem

theorem tracked_dropped {region : ParpObservation κ → ρ} {kind : RegionKind κ} (hnames : Names kind region)
    {table : Table κ} {after : List (ParpBuilder κ)} {samplesOf : ρ → List (ParpObservation κ)}
    (h : Tracked region table.builders samplesOf) (limits : Limits) (domainId : UInt64)
    (hdropped : after = (table.dropDomain kind domainId).builders) :
    Tracked region after fun r => regionStep region [] after r (samplesOf r) :=
  hdropped ▸ h.quiet ((dropDomain_move kind limits table 0 domainId).distinct hnames h.distinct)
    fun _ hmem => dropDomain_mem _ _ hmem

theorem evidenceStep_files (h : Tracked fileRegion state.files.builders files)
    (event : EvidenceEvent) :
    Tracked fileRegion (evidenceStep state event).2.files.builders fun r =>
      regionStep fileRegion (acceptedFile state event)
        (evidenceStep state event).2.files.builders r (files r) := by
  cases event with
  | updateFile observation env =>
    have hnext := tableUpdate_tracked fileNames h state.limits state.anons.builders.length
      observation env.tableAllocated
    rw [← (updateFile_tables state env observation).1] at hnext
    exact hnext
  | updateAnon observation env =>
    exact tracked_unchanged h (congrArg _ (updateAnon_tables state env observation).2.1)
  | publish nowNs env => exact tracked_unchanged h (congrArg _ (publish_files ..))
  | domainOffline domainId nowNs env =>
    exact tracked_dropped fileNames h state.limits domainId (congrArg _ (publish_files ..))
  | setLimits limits => exact tracked_unchanged h rfl

theorem evidenceStep_anons (h : Tracked anonRegion state.anons.builders anons)
    (event : EvidenceEvent) :
    Tracked anonRegion (evidenceStep state event).2.anons.builders fun r =>
      regionStep anonRegion (acceptedAnon state event)
        (evidenceStep state event).2.anons.builders r (anons r) := by
  cases event with
  | updateFile observation env =>
    exact tracked_unchanged h (congrArg _ (updateFile_tables state env observation).2.1)
  | updateAnon observation env =>
    have hnext := tableUpdate_tracked anonNames h state.limits state.files.builders.length
      observation env.tableAllocated
    rw [← (updateAnon_tables state env observation).1] at hnext
    exact hnext
  | publish nowNs env => exact tracked_unchanged h (congrArg _ (publish_anons ..))
  | domainOffline domainId nowNs env =>
    exact tracked_dropped anonNames h state.limits domainId (congrArg _ (publish_anons ..))
  | setLimits limits => exact tracked_unchanged h rfl

omit [DecidableEq ρ] in
theorem tracked_nil (region : ParpObservation κ → ρ) : Tracked region [] fun _ => [] where
  distinct := nodup_nil
  made _ hmem := (not_mem_nil hmem).elim
  timely _ := List.Pairwise.nil
  absent _ _ := rfl

theorem evidenceAfter_tracked (events : List EvidenceEvent) :
    Tracked fileRegion (evidenceAfter events).files.builders (fileSamples events) ∧
      Tracked anonRegion (evidenceAfter events).anons.builders (anonSamples events) := by
  induction events using List.reverseRecOn with
  | nil => exact ⟨tracked_nil fileRegion, tracked_nil anonRegion⟩
  | append_singleton events event ih =>
    have hfiles : fileSamples (events ++ [event]) = fun r =>
        regionStep fileRegion (acceptedFile (evidenceAfter events) event)
          (evidenceStep (evidenceAfter events) event).2.files.builders r
          (fileSamples events r) :=
      funext fun r => samplesAlong_concat _ _ _ r events event
    have hanons : anonSamples (events ++ [event]) = fun r =>
        regionStep anonRegion (acceptedAnon (evidenceAfter events) event)
          (evidenceStep (evidenceAfter events) event).2.anons.builders r
          (anonSamples events r) :=
      funext fun r => samplesAlong_concat _ _ _ r events event
    have hafter : evidenceAfter (events ++ [event]) =
        (evidenceStep (evidenceAfter events) event).2 := after_concat _ _ _ _
    rw [hfiles, hanons, hafter]
    exact ⟨evidenceStep_files ih.1 event, evidenceStep_anons ih.2 event⟩

end

section

variable {state : EvidenceState} {snapshot : ParpEvidenceSnapshot}

def publishedBy (state : EvidenceState) (event : EvidenceEvent) : Option ParpEvidenceSnapshot :=
  if (evidenceStep state event).2.evidenceVersion ≠ state.evidenceVersion then
    (evidenceStep state event).2.activeEvidence
  else none

structure MadeFrom {κ : Type} (kind : RegionKind κ) (createdNs : UInt64) (entry : ParpEvidence κ)
    (builder : ParpBuilder κ) : Prop where
  windows : entry.windows = windowsOf kind builder createdNs
  domain : entry.domainId = kind.domain builder.observation
  key : entry.key = builder.observation.key

structure FromState (state : EvidenceState) (snapshot : ParpEvidenceSnapshot) : Prop where
  files : ∀ entry ∈ snapshot.files, ∃ builder ∈ state.files.builders,
    MadeFrom fileKind snapshot.createdNs entry builder
  anons : ∀ entry ∈ snapshot.anons, ∃ builder ∈ state.anons.builders,
    MadeFrom anonKind snapshot.createdNs entry builder

theorem madeFrom_builder {κ : Type} {kind : RegionKind κ}
    {lookup : UInt64 → Option ParpAppContext} {nowNs version : UInt64}
    {builders : List (ParpBuilder κ)} {entry : ParpEvidence κ}
    (h : entry ∈ builders.filterMap (publishedEntry kind lookup nowNs version)) :
    ∃ builder ∈ builders, MadeFrom kind nowNs entry builder := by
  obtain ⟨builder, hmem, hentry⟩ := mem_filterMap.1 h
  obtain ⟨hlabel, hwindows, hkey⟩ := publishedEntry_some hentry
  exact ⟨builder, hmem, hwindows, congrArg Owner.domainId hlabel, hkey⟩

variable {env : Surroundings}

theorem publish_fromState {nowNs : UInt64}
    (hversion : (parpPublishEvidenceLocked state env nowNs).1.evidenceVersion ≠
      state.evidenceVersion)
    (h : (parpPublishEvidenceLocked state env nowNs).1.activeEvidence = some snapshot) :
    FromState (parpPublishEvidenceLocked state env nowNs).1 snapshot := by
  unfold parpPublishEvidenceLocked at *
  split_ifs at * with hfailed
  · exact (hversion rfl).elim
  · obtain rfl := Option.some.inj h
    exact ⟨fun entry hmem => madeFrom_builder ((env.sortFiles.perm _).mem_iff.1 hmem),
      fun entry hmem => madeFrom_builder ((env.sortAnons.perm _).mem_iff.1 hmem)⟩

theorem publishWhenDue_fromState {timestampNs : UInt64}
    (hversion : (publishWhenDue state env timestampNs).1.evidenceVersion ≠ state.evidenceVersion)
    (h : (publishWhenDue state env timestampNs).1.activeEvidence = some snapshot) :
    FromState (publishWhenDue state env timestampNs).1 snapshot := by
  unfold publishWhenDue at *
  split_ifs at *
  · exact publish_fromState hversion h
  · exact (hversion rfl).elim

theorem update_fromState {timestampNs : UInt64} {outcome : Except EvidenceErrno Unit}
    {result : EvidenceState × Except EvidenceErrno Unit}
    (hends : EndsAs outcome state env timestampNs result)
    (hversion : result.1.evidenceVersion ≠ state.evidenceVersion)
    (h : result.1.activeEvidence = some snapshot) : FromState result.1 snapshot := by
  obtain ⟨merged, hsame, ⟨errno, -, rfl⟩ | ⟨-, rfl⟩⟩ := hends
  · exact (hversion hsame.version).elim
  · rw [← hsame.version] at hversion
    exact publishWhenDue_fromState hversion h

theorem publishedBy_fromState {event : EvidenceEvent}
    (h : publishedBy state event = some snapshot) :
    FromState (evidenceStep state event).2 snapshot := by
  unfold publishedBy at h
  split_ifs at h with hversion
  cases event with
  | updateFile observation env =>
    exact update_fromState (updateFile_ends state env observation) hversion h
  | updateAnon observation env =>
    exact update_fromState (updateAnon_ends state env observation) hversion h
  | publish nowNs env => exact publish_fromState hversion h
  | domainOffline domainId nowNs env => exact publish_fromState hversion h
  | setLimits limits => exact (hversion rfl).elim

def FileExact (events : List EvidenceEvent) (createdNs : UInt64)
    (entry : ParpEvidence ParpFileRegionKey) : Prop :=
  Exact (fileSamples events (entry.domainId, entry.key)) createdNs entry.windows

def AnonExact (events : List EvidenceEvent) (createdNs : UInt64)
    (entry : ParpEvidence ParpAnonRegionKey) : Prop :=
  Exact (anonSamples events entry.key) createdNs entry.windows

/-- Whatever a run publishes, the windows of an entry are exact if and only if no sample of its
region's last minute was lost. -/
theorem published_exact_iff {events : List EvidenceEvent} {event : EvidenceEvent}
    (h : publishedBy (evidenceAfter events) event = some snapshot) :
    (∀ entry ∈ snapshot.files, FileExact (events ++ [event]) snapshot.createdNs entry ↔
        Undisturbed (fileSamples (events ++ [event]) (entry.domainId, entry.key))
          snapshot.createdNs) ∧
      ∀ entry ∈ snapshot.anons, AnonExact (events ++ [event]) snapshot.createdNs entry ↔
        Undisturbed (anonSamples (events ++ [event]) entry.key) snapshot.createdNs := by
  obtain ⟨hfiles, hanons⟩ := evidenceAfter_tracked (events ++ [event])
  have hfrom := publishedBy_fromState h
  have hafter : evidenceAfter (events ++ [event]) =
      (evidenceStep (evidenceAfter events) event).2 := after_concat _ _ _ _
  rw [← hafter] at hfrom
  refine ⟨fun entry hmem => ?_, fun entry hmem => ?_⟩
  · obtain ⟨builder, hbuilder, hmade⟩ := hfrom.files entry hmem
    have hregion : (entry.domainId, entry.key) = fileRegion builder.observation := by
      rw [hmade.domain, hmade.key]
      rfl
    unfold FileExact
    rw [hregion, hmade.windows]
    exact exact_iff fileKind (hfiles.timely _) (hfiles.made builder hbuilder) _
  · obtain ⟨builder, hbuilder, hmade⟩ := hfrom.anons entry hmem
    have hregion : entry.key = anonRegion builder.observation := hmade.key
    unfold AnonExact
    rw [hregion, hmade.windows]
    exact exact_iff anonKind (hanons.timely _) (hanons.made builder hbuilder) _

/-- Two samples of one region in different seconds. -/
theorem steady_exact :
    ∃ snapshot, publishedBy (evidenceAfter [sampleEvent 2 3 100 1 5]) (sampleEvent 2 3 102 2 1) =
        some snapshot ∧
      ∃ entry ∈ snapshot.files, FileExact [sampleEvent 2 3 100 1 5, sampleEvent 2 3 102 2 1]
        snapshot.createdNs entry := by
  have hfound : ∃ snapshot ∈ publishedBy (evidenceAfter [sampleEvent 2 3 100 1 5])
      (sampleEvent 2 3 102 2 1), ∃ entry ∈ snapshot.files,
        Undisturbed (fileSamples ([sampleEvent 2 3 100 1 5] ++ [sampleEvent 2 3 102 2 1])
          (entry.domainId, entry.key)) snapshot.createdNs := by
    decide +kernel
  obtain ⟨snapshot, hpublished, entry, hmem, hkept⟩ := hfound
  exact ⟨snapshot, hpublished, entry, hmem,
    ((published_exact_iff hpublished).1 entry hmem).2 hkept⟩

def WindowsExact : Prop :=
  ∀ (events : List EvidenceEvent) (event : EvidenceEvent) (snapshot : ParpEvidenceSnapshot),
    publishedBy (evidenceAfter events) event = some snapshot →
      (∀ entry ∈ snapshot.files, FileExact (events ++ [event]) snapshot.createdNs entry) ∧
        ∀ entry ∈ snapshot.anons, AnonExact (events ++ [event]) snapshot.createdNs entry

/-- A sample one second late publishes after second 160 took the bucket of second 100. -/
theorem late_not_exact : ¬ WindowsExact := by
  intro h
  have hfound : ∃ snapshot ∈ publishedBy
      (evidenceAfter [sampleEvent 2 3 100 1 5, sampleEvent 2 3 160 2 1])
      (sampleEvent 2 3 159 3 1), ∃ entry ∈ snapshot.files,
        entry.windows.activeIntervals60s.toNat ≠ activeCount (Span.sixty.samples snapshot.createdNs
          (fileSamples ([sampleEvent 2 3 100 1 5, sampleEvent 2 3 160 2 1] ++
            [sampleEvent 2 3 159 3 1]) (entry.domainId, entry.key))) := by
    decide +kernel
  obtain ⟨snapshot, hpublished, entry, hmem, hdiffer⟩ := hfound
  exact hdiffer (((h _ _ snapshot hpublished).1 entry hmem .sixty).intervals)

end

end Parp.EvidenceWindowRuns
