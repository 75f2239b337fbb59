import Mathlib.Data.List.Sublists
import Parp.Evidence
import Parp.TransitionRuns

set_option autoImplicit false

/-!
# Whose samples an entry counts
-/
namespace Parp.EvidenceOwners

open Evidence TransitionRuns List

inductive EvidenceEvent
  | updateFile (observation : ParpObservation ParpFileRegionKey) (env : Surroundings)
  | updateAnon (observation : ParpObservation ParpAnonRegionKey) (env : Surroundings)
  | publish (nowNs : UInt64) (env : Surroundings)
  | domainOffline (domainId nowNs : UInt64) (env : Surroundings)
  | setLimits (limits : Limits)

def evidenceStep (state : EvidenceState) : EvidenceEvent → Except EvidenceErrno Unit × EvidenceState
  | .updateFile observation env => (parpEvidenceUpdateFile state env observation).swap
  | .updateAnon observation env => (parpEvidenceUpdateAnon state env observation).swap
  | .publish nowNs env => (parpPublishEvidenceLocked state env nowNs).swap
  | .domainOffline domainId nowNs env => (parpEvidenceDomainOffline state env domainId nowNs).swap
  | .setLimits limits => (.ok (), { state with limits := limits })

/-- The application and the binding a sample or an entry is labelled with. -/
structure Owner where
  domainId : UInt64
  appId : UInt32
  bindGeneration : UInt32
  deriving DecidableEq

section

variable {κ : Type} (kind : RegionKind κ)

def ownerOf (observation : ParpObservation κ) : Owner where
  domainId := kind.domain observation
  appId := observation.owner.appId
  bindGeneration := observation.owner.bindGeneration

def labelOf (entry : ParpEvidence κ) : Owner where
  domainId := entry.domainId
  appId := entry.appId
  bindGeneration := entry.bindGeneration

def builderOf : List (ParpObservation κ) → Option (ParpBuilder κ)
  | [] => none
  | first :: rest => some (rest.foldl takeSample (takeSample (freshBuilder first) first))

def Attributed (history : List (ParpObservation κ)) (createdNs : UInt64)
    (entry : ParpEvidence κ) : Prop :=
  ∃ samples, samples.Sublist history ∧
    (∀ sample ∈ samples, ownerOf kind sample = labelOf entry) ∧
    ∃ builder, builderOf samples = some builder ∧ entry.windows = windowsOf kind builder createdNs

def accepted (limits : Limits) (table : Table κ) (others : ℕ) (observation : ParpObservation κ)
    (allocated : Bool) : List (ParpObservation κ) :=
  match (tableUpdate kind limits table others observation allocated).2 with
  | .ok () => [observation]
  | .error _ => []

end

def acceptedFile (state : EvidenceState) : EvidenceEvent → List (ParpObservation ParpFileRegionKey)
  | .updateFile observation env =>
    accepted fileKind state.limits state.files state.anons.builders.length observation
      env.tableAllocated
  | _ => []

def acceptedAnon (state : EvidenceState) : EvidenceEvent → List (ParpObservation ParpAnonRegionKey)
  | .updateAnon observation env =>
    accepted anonKind state.limits state.anons state.files.builders.length observation
      env.tableAllocated
  | _ => []

def fileHistory (events : List EvidenceEvent) : List (ParpObservation ParpFileRegionKey) :=
  (turns evidenceStep {} events).flatMap fun turn => acceptedFile turn.before turn.input

def anonHistory (events : List EvidenceEvent) : List (ParpObservation ParpAnonRegionKey) :=
  (turns evidenceStep {} events).flatMap fun turn => acceptedAnon turn.before turn.input

def evidenceAfter (events : List EvidenceEvent) : EvidenceState := after evidenceStep {} events

section

variable {κ : Type} {kind : RegionKind κ} {limits : Limits} {table : Table κ} {others : ℕ}
  {observation : ParpObservation κ} {allocated : Bool}

inductive TableCase (kind : RegionKind κ) (table : Table κ) (observation : ParpObservation κ) :
    Table κ × Except EvidenceErrno Unit → Prop
  | rejected {table' : Table κ} (errno : EvidenceErrno) (hsame : table'.builders = table.builders) :
      TableCase kind table observation (table', .error errno)
  | extended {table' : Table κ}
      (hnew : findBuilder kind table.builders observation = none)
      (hbuilders : table'.builders =
        table.builders ++ [takeSample (freshBuilder observation) observation]) :
      TableCase kind table observation (table', .ok ())
  | replaced {table' : Table κ} (i : ℕ)
      (hnew : findBuilder kind table.builders observation = none)
      (hbuilders : table'.builders =
        table.builders.set i (takeSample (freshBuilder observation) observation)) :
      TableCase kind table observation (table', .ok ())
  | updated {table' : Table κ} (builder : ParpBuilder κ) (i : ℕ)
      (hfound : findBuilder kind table.builders observation = some (builder, i))
      (htaken : rejects builder observation.sample = none)
      (hbuilders : table'.builders = table.builders.set i (takeSample builder observation)) :
      TableCase kind table observation (table', .ok ())

theorem grow_builders {table' : Table κ} {maxTotalRegions : UInt32}
    (h : grow table maxTotalRegions allocated = .ok table') : table'.builders = table.builders := by
  unfold grow at h
  dsimp only at h
  split_ifs at h
  all_goals
    obtain rfl := Except.ok.inj h
    rfl

theorem rejects_fresh (hvalid : parpSampleValid observation.sample = true) :
    rejects (freshBuilder observation) observation.sample = none := by
  have hid : observation.sample.sampleId ≠ 0 := (of_decide_eq_true hvalid).2.1
  unfold rejects freshBuilder
  rw [if_neg (fun h => hid h.symm), if_neg (fun h => h.1 rfl)]

/-- Every way a slot is found; the builder in it is the table's or a fresh one. -/
inductive SlotCase (kind : RegionKind κ) (table : Table κ) (observation : ParpObservation κ) :
    Table κ × Except EvidenceErrno (ParpBuilder κ × ℕ) → Prop
  | full {table' : Table κ} (errno : EvidenceErrno) (hsame : table'.builders = table.builders) :
      SlotCase kind table observation (table', .error errno)
  | found {table' : Table κ} (builder : ParpBuilder κ) (i : ℕ)
      (hsame : table'.builders = table.builders)
      (hfound : findBuilder kind table.builders observation = some (builder, i)) :
      SlotCase kind table observation (table', .ok (builder, i))
  | evicted {table' : Table κ} (i : ℕ)
      (hnew : findBuilder kind table.builders observation = none)
      (hbuilders : table'.builders = table.builders.set i (freshBuilder observation)) :
      SlotCase kind table observation (table', .ok (freshBuilder observation, i))
  | appended {table' : Table κ}
      (hnew : findBuilder kind table.builders observation = none)
      (hbuilders : table'.builders = table.builders ++ [freshBuilder observation]) :
      SlotCase kind table observation
        (table', .ok (freshBuilder observation, table.builders.length))

theorem slotFor_cases (kind : RegionKind κ) (limits : Limits) (table : Table κ) (others : ℕ)
    (observation : ParpObservation κ) (allocated : Bool) :
    SlotCase kind table observation (slotFor kind limits table others observation allocated) := by
  unfold slotFor
  cases hfound : findBuilder kind table.builders observation with
  | some found => exact .found found.1 found.2 rfl hfound
  | none =>
    dsimp only
    split_ifs with hfull hspace
    · split
      · exact .full _ rfl
      · exact .evicted _ hfound rfl
    · split
      · exact .full _ rfl
      · rename_i table' hgrown
        have hbuilders := grow_builders hgrown
        rw [hbuilders]
        exact .appended hfound rfl
    · exact .appended hfound rfl

theorem slot_case {table' : Table κ} (hvalid : parpSampleValid observation.sample = true)
    (hsame : table'.builders = table.builders) :
    TableCase kind table observation
      (match slotFor kind limits table' others observation allocated with
      | (table, .error errno) => (table, .error errno)
      | (table, .ok (builder, i)) =>
        match rejects builder observation.sample with
        | some errno => (table, .error errno)
        | none =>
          ({ table with builders := table.builders.set i (takeSample builder observation) },
            .ok ())) := by
  have hcase := slotFor_cases kind limits table' others observation allocated
  generalize slotFor kind limits table' others observation allocated = slot at *
  cases hcase with
  | full errno hbuilders => exact .rejected errno (hbuilders.trans hsame)
  | found builder i hbuilders hfound =>
    rw [hsame] at hbuilders hfound
    dsimp only
    split
    · exact .rejected _ hbuilders
    · rename_i htaken
      refine .updated builder i hfound htaken ?_
      rw [← hbuilders]
  | evicted i hnew hbuilders =>
    rw [hsame] at hbuilders hnew
    simp only [rejects_fresh hvalid]
    refine .replaced i hnew ?_
    simp [hbuilders]
  | appended hnew hbuilders =>
    rw [hsame] at hbuilders hnew
    simp only [rejects_fresh hvalid]
    refine .extended hnew ?_
    simp [hbuilders, hsame]

theorem tableUpdate_cases (kind : RegionKind κ) (limits : Limits) (table : Table κ) (others : ℕ)
    (observation : ParpObservation κ) (allocated : Bool) :
    TableCase kind table observation
      (tableUpdate kind limits table others observation allocated) := by
  unfold tableUpdate
  split_ifs with hinvalid hempty
  · exact .rejected _ rfl
  all_goals
    rw [not_or] at hinvalid
    have hvalid : parpSampleValid observation.sample = true := eq_true_of_ne_false hinvalid.1
  · split
    · exact .rejected _ rfl
    · rename_i table' hgrown
      exact slot_case hvalid (grow_builders hgrown)
  · exact slot_case hvalid rfl

def KeepsOwner (kind : RegionKind κ) (table : Table κ) (observation : ParpObservation κ) : Prop :=
  ∀ found ∈ findBuilder kind table.builders observation,
    rejects found.1 observation.sample = none →
      ownerOf kind found.1.observation = ownerOf kind observation

def Owned (kind : RegionKind κ) (history : List (ParpObservation κ)) (builder : ParpBuilder κ) :
    Prop :=
  ∃ samples, samples.Sublist history ∧
    (∀ sample ∈ samples, ownerOf kind sample = ownerOf kind builder.observation) ∧
    builderOf samples = some builder

variable {history later : List (ParpObservation κ)} {builder : ParpBuilder κ}
  {lookup : UInt64 → Option ParpAppContext} {builders : List (ParpBuilder κ)}

theorem Owned.mono (h : Owned kind history builder) : Owned kind (history ++ later) builder := by
  obtain ⟨samples, hsublist, howner, hbuilder⟩ := h
  exact ⟨samples, hsublist.trans (sublist_append_left _ _), howner, hbuilder⟩

theorem Attributed.mono {createdNs : UInt64} {entry : ParpEvidence κ}
    (h : Attributed kind history createdNs entry) :
    Attributed kind (history ++ later) createdNs entry := by
  obtain ⟨samples, hsublist, hrest⟩ := h
  exact ⟨samples, hsublist.trans (sublist_append_left _ _), hrest⟩

theorem owned_fresh (history : List (ParpObservation κ)) (observation : ParpObservation κ) :
    Owned kind (history ++ [observation]) (takeSample (freshBuilder observation) observation) :=
  ⟨[observation], sublist_append_right _ _, by simp [takeSample], rfl⟩

theorem builderOf_concat {samples : List (ParpObservation κ)} (h : builderOf samples = some builder)
    (observation : ParpObservation κ) :
    builderOf (samples ++ [observation]) = some (takeSample builder observation) := by
  cases samples with
  | nil => cases h
  | cons first rest =>
    obtain rfl := Option.some.inj h
    simp [builderOf]

theorem Owned.take (h : Owned kind history builder)
    (hsame : ownerOf kind builder.observation = ownerOf kind observation) :
    Owned kind (history ++ [observation]) (takeSample builder observation) := by
  obtain ⟨samples, hsublist, howner, hbuilder⟩ := h
  refine ⟨samples ++ [observation], hsublist.append (List.Sublist.refl _), ?_,
    builderOf_concat hbuilder observation⟩
  intro sample hsample
  rcases mem_append.1 hsample with hold | hnew
  · exact (howner sample hold).trans hsame
  · rw [mem_singleton.1 hnew]
    rfl

theorem findBuilder_mem {found : ParpBuilder κ × ℕ}
    (h : findBuilder kind table.builders observation = some found) : found.1 ∈ table.builders :=
  (mem_zipIdx (mem_of_find?_eq_some h)).2.2 ▸ getElem_mem _

theorem tableUpdate_owned (limits : Limits) (others : ℕ) (allocated : Bool)
    (h : ∀ builder ∈ table.builders, Owned kind history builder)
    (hkeep : KeepsOwner kind table observation) :
    ∀ builder ∈ (tableUpdate kind limits table others observation allocated).1.builders,
      Owned kind (history ++ accepted kind limits table others observation allocated) builder := by
  have hcase := tableUpdate_cases kind limits table others observation allocated
  unfold accepted
  generalize tableUpdate kind limits table others observation allocated = result at *
  cases hcase with
  | rejected errno hsame =>
    intro builder hmem
    rw [hsame] at hmem
    exact (h builder hmem).mono
  | extended hnew hbuilders =>
    intro builder hmem
    rw [hbuilders, mem_append] at hmem
    rcases hmem with hold | hlast
    · exact (h builder hold).mono
    · rw [mem_singleton.1 hlast]
      exact owned_fresh history observation
  | replaced i hnew hbuilders =>
    intro builder hmem
    rw [hbuilders] at hmem
    rcases mem_or_eq_of_mem_set hmem with hold | rfl
    · exact (h builder hold).mono
    · exact owned_fresh history observation
  | updated old i hfound htaken hbuilders =>
    intro builder hmem
    rw [hbuilders] at hmem
    rcases mem_or_eq_of_mem_set hmem with hold | rfl
    · exact (h builder hold).mono
    · exact (h old (findBuilder_mem hfound)).take (hkeep _ hfound htaken)

theorem publishedEntry_some {nowNs version : UInt64} {entry : ParpEvidence κ}
    (h : publishedEntry kind lookup nowNs version builder = some entry) :
    labelOf entry = ownerOf kind builder.observation ∧
      entry.windows = windowsOf kind builder nowNs ∧ entry.key = builder.observation.key := by
  unfold publishedEntry at h
  dsimp only at h
  split_ifs at h
  split at h
  · cases h
  · split_ifs at h
    obtain rfl := Option.some.inj h
    exact ⟨rfl, rfl, rfl⟩

theorem published_attributed {nowNs version : UInt64}
    (h : ∀ builder ∈ builders, Owned kind history builder) :
    ∀ entry ∈ builders.filterMap (publishedEntry kind lookup nowNs version),
      Attributed kind history nowNs entry := by
  intro entry hmem
  obtain ⟨builder, hbuilder, hentry⟩ := mem_filterMap.1 hmem
  obtain ⟨samples, hsublist, howner, hmade⟩ := h builder hbuilder
  obtain ⟨hlabel, hwindows, -⟩ := publishedEntry_some hentry
  refine ⟨samples, hsublist, ?_, builder, hmade, hwindows⟩
  rw [hlabel]
  exact howner

theorem dropDomain_mem {gone : ParpBuilder κ → Bool} (fuel i : ℕ)
    (h : builder ∈ dropDomain gone fuel i builders) : builder ∈ builders := by
  induction fuel generalizing i builders with
  | zero => exact h
  | succ fuel ih =>
    unfold dropDomain at h
    split at h
    · rename_i last hget hlast
      split_ifs at h
      · have hmem := (dropLast_sublist _).mem (ih i h)
        rcases mem_or_eq_of_mem_set hmem with hold | rfl
        · exact hold
        · exact mem_of_getLast? hlast
      · exact ih (i + 1) h
    · exact h

end

section

/-- The builders and the published entries are made of their owners' samples. -/
structure StateOwned (files : List (ParpObservation ParpFileRegionKey))
    (anons : List (ParpObservation ParpAnonRegionKey)) (state : EvidenceState) : Prop where
  fileBuilders : ∀ builder ∈ state.files.builders, Owned fileKind files builder
  anonBuilders : ∀ builder ∈ state.anons.builders, Owned anonKind anons builder
  fileEntries : ∀ snapshot, state.activeEvidence = some snapshot →
    ∀ entry ∈ snapshot.files, Attributed fileKind files snapshot.createdNs entry
  anonEntries : ∀ snapshot, state.activeEvidence = some snapshot →
    ∀ entry ∈ snapshot.anons, Attributed anonKind anons snapshot.createdNs entry

variable {files : List (ParpObservation ParpFileRegionKey)}
  {anons : List (ParpObservation ParpAnonRegionKey)} {state : EvidenceState}

theorem StateOwned.publish (h : StateOwned files anons state) (env : Surroundings)
    (nowNs : UInt64) : StateOwned files anons (parpPublishEvidenceLocked state env nowNs).1 := by
  unfold parpPublishEvidenceLocked
  split_ifs
  · exact h
  · refine ⟨h.fileBuilders, h.anonBuilders, ?_, ?_⟩
    · rintro snapshot hactive entry hmem
      obtain rfl := Option.some.inj hactive
      exact published_attributed h.fileBuilders entry
        ((env.sortFiles.perm _).mem_iff.1 hmem)
    · rintro snapshot hactive entry hmem
      obtain rfl := Option.some.inj hactive
      exact published_attributed h.anonBuilders entry
        ((env.sortAnons.perm _).mem_iff.1 hmem)

theorem StateOwned.publishWhenDue (h : StateOwned files anons state) (env : Surroundings)
    (timestampNs : UInt64) : StateOwned files anons (publishWhenDue state env timestampNs).1 := by
  unfold Evidence.publishWhenDue
  split_ifs
  · exact h.publish env timestampNs
  · exact h

theorem StateOwned.mono (h : StateOwned files anons state)
    (moreFiles : List (ParpObservation ParpFileRegionKey))
    (moreAnons : List (ParpObservation ParpAnonRegionKey)) :
    StateOwned (files ++ moreFiles) (anons ++ moreAnons) state :=
  ⟨fun builder hmem => (h.fileBuilders builder hmem).mono,
    fun builder hmem => (h.anonBuilders builder hmem).mono,
    fun snapshot hactive entry hmem => (h.fileEntries snapshot hactive entry hmem).mono,
    fun snapshot hactive entry hmem => (h.anonEntries snapshot hactive entry hmem).mono⟩

def EventKeepsOwner (state : EvidenceState) : EvidenceEvent → Prop
  | .updateFile observation _ => KeepsOwner fileKind state.files observation
  | .updateAnon observation _ => KeepsOwner anonKind state.anons observation
  | _ => True

theorem updateFile_owned (h : StateOwned files anons state) (env : Surroundings)
    {observation : ParpObservation ParpFileRegionKey}
    (hkeep : KeepsOwner fileKind state.files observation) :
    StateOwned (files ++ acceptedFile state (.updateFile observation env)) anons
      (parpEvidenceUpdateFile state env observation).1 := by
  have hbuilders := tableUpdate_owned state.limits state.anons.builders.length
    env.tableAllocated h.fileBuilders hkeep
  have hmore := h.mono (acceptedFile state (.updateFile observation env)) []
  rw [append_nil] at hmore
  change ∀ builder ∈ _, Owned fileKind (files ++ acceptedFile state (.updateFile observation env))
    builder at hbuilders
  generalize files ++ acceptedFile state (.updateFile observation env) = history at *
  unfold parpEvidenceUpdateFile
  generalize tableUpdate fileKind state.limits state.files state.anons.builders.length observation
    env.tableAllocated = result at *
  obtain ⟨table, errno | _⟩ := result
  · exact ⟨hbuilders, hmore.anonBuilders, hmore.fileEntries, hmore.anonEntries⟩
  · have howned : StateOwned history anons { state with files := table } :=
      ⟨hbuilders, hmore.anonBuilders, hmore.fileEntries, hmore.anonEntries⟩
    exact howned.publishWhenDue env _

theorem updateAnon_owned (h : StateOwned files anons state) (env : Surroundings)
    {observation : ParpObservation ParpAnonRegionKey}
    (hkeep : KeepsOwner anonKind state.anons observation) :
    StateOwned files (anons ++ acceptedAnon state (.updateAnon observation env))
      (parpEvidenceUpdateAnon state env observation).1 := by
  have hbuilders := tableUpdate_owned state.limits state.files.builders.length
    env.tableAllocated h.anonBuilders hkeep
  have hmore := h.mono [] (acceptedAnon state (.updateAnon observation env))
  rw [append_nil] at hmore
  change ∀ builder ∈ _, Owned anonKind (anons ++ acceptedAnon state (.updateAnon observation env))
    builder at hbuilders
  generalize anons ++ acceptedAnon state (.updateAnon observation env) = history at *
  unfold parpEvidenceUpdateAnon
  generalize tableUpdate anonKind state.limits state.anons state.files.builders.length observation
    env.tableAllocated = result at *
  obtain ⟨table, errno | _⟩ := result
  · exact ⟨hmore.fileBuilders, hbuilders, hmore.fileEntries, hmore.anonEntries⟩
  · have howned : StateOwned files history { state with anons := table } :=
      ⟨hmore.fileBuilders, hbuilders, hmore.fileEntries, hmore.anonEntries⟩
    exact howned.publishWhenDue env _

theorem evidenceStep_owned (h : StateOwned files anons state) {event : EvidenceEvent}
    (hkeep : EventKeepsOwner state event) :
    StateOwned (files ++ acceptedFile state event) (anons ++ acceptedAnon state event)
      (evidenceStep state event).2 := by
  cases event with
  | updateFile observation env =>
    change StateOwned _ (anons ++ []) (parpEvidenceUpdateFile state env observation).1
    rw [append_nil]
    exact updateFile_owned h env hkeep
  | updateAnon observation env =>
    change StateOwned (files ++ []) _ (parpEvidenceUpdateAnon state env observation).1
    rw [append_nil]
    exact updateAnon_owned h env hkeep
  | publish nowNs env => exact (h.publish env nowNs).mono [] []
  | domainOffline domainId nowNs env =>
    have hdropped : StateOwned files anons
        { state with
          files := state.files.dropDomain fileKind domainId
          anons := state.anons.dropDomain anonKind domainId } :=
      ⟨fun builder hmem => h.fileBuilders builder (dropDomain_mem _ _ hmem),
        fun builder hmem => h.anonBuilders builder (dropDomain_mem _ _ hmem),
        h.fileEntries, h.anonEntries⟩
    exact (hdropped.publish env nowNs).mono [] []
  | setLimits limits =>
    have howned : StateOwned files anons { state with limits := limits } :=
      ⟨h.fileBuilders, h.anonBuilders, h.fileEntries, h.anonEntries⟩
    exact howned.mono [] []

theorem histories_concat (events : List EvidenceEvent) (event : EvidenceEvent) :
    fileHistory (events ++ [event]) =
        fileHistory events ++ acceptedFile (evidenceAfter events) event ∧
      anonHistory (events ++ [event]) =
        anonHistory events ++ acceptedAnon (evidenceAfter events) event := by
  unfold fileHistory anonHistory
  rw [turns_concat]
  simp [evidenceAfter]

theorem evidenceAfter_owned {events : List EvidenceEvent}
    (hkeep : Along evidenceStep EventKeepsOwner {} events) :
    StateOwned (fileHistory events) (anonHistory events) (evidenceAfter events) := by
  induction events using List.reverseRecOn with
  | nil =>
    refine ⟨?_, ?_, ?_, ?_⟩
    · exact fun _ hmem => (not_mem_nil hmem).elim
    · exact fun _ hmem => (not_mem_nil hmem).elim
    · exact fun _ hactive => by cases hactive
    · exact fun _ hactive => by cases hactive
  | append_singleton events event ih =>
    rw [along_append] at hkeep
    obtain ⟨hfiles, hanons⟩ := histories_concat events event
    rw [hfiles, hanons]
    unfold evidenceAfter
    rw [after_concat]
    exact evidenceStep_owned (ih hkeep.1) hkeep.2.1

/-- In every run in which no accepted sample goes to a builder of another owner, what is published
is attributed to its owner. -/
theorem evidence_attributed {events : List EvidenceEvent}
    (hkeep : Along evidenceStep EventKeepsOwner {} events) {snapshot : ParpEvidenceSnapshot}
    (hactive : (evidenceAfter events).activeEvidence = some snapshot) :
    (∀ entry ∈ snapshot.files,
        Attributed fileKind (fileHistory events) snapshot.createdNs entry) ∧
      ∀ entry ∈ snapshot.anons,
        Attributed anonKind (anonHistory events) snapshot.createdNs entry :=
  ⟨(evidenceAfter_owned hkeep).fileEntries snapshot hactive,
    (evidenceAfter_owned hkeep).anonEntries snapshot hactive⟩

end

def boundTo (appId bindGeneration : UInt32) : ParpAppContext where
  domainId := 7
  appId := appId
  bindGeneration := bindGeneration
  bindExpiryNs := u64Max
  modelVersion := 4

def boundEnv (appId bindGeneration : UInt32) : Surroundings where
  lookup domainId := if domainId = 7 then some (boundTo appId bindGeneration) else none

def regionSample (appId bindGeneration : UInt32) (second sampleId : UInt64)
    (nrAccesses : UInt32) : ParpObservation ParpFileRegionKey where
  key := { devMajor := 8, devMinor := 2, inode := 9, fileVersion := 4, startIndex := 100,
           nrPages := 8 }
  owner := boundTo appId bindGeneration
  sample :=
    { timestampNs := second * nsecPerSec
      sampleId := sampleId
      regionStart := 0x1000
      regionEnd := 0x9000
      nrAccesses := nrAccesses
      sampleIntervalUs := 5000
      aggregationIntervalUs := 1000000 }

def sampleEvent (appId bindGeneration : UInt32) (second sampleId : UInt64) (nrAccesses : UInt32) :
    EvidenceEvent :=
  .updateFile (regionSample appId bindGeneration second sampleId nrAccesses)
    (boundEnv appId bindGeneration)

def oneOwner : List EvidenceEvent := [sampleEvent 2 3 100 1 5, sampleEvent 2 3 102 2 1]

instance decidableKeepsOwner {κ : Type} (kind : RegionKind κ) (table : Table κ)
    (observation : ParpObservation κ) : Decidable (KeepsOwner kind table observation) :=
  inferInstanceAs (Decidable (∀ found ∈ findBuilder kind table.builders observation, _ → _))

instance decidableEventKeepsOwner (state : EvidenceState) (event : EvidenceEvent) :
    Decidable (EventKeepsOwner state event) := by
  cases event <;> unfold EventKeepsOwner <;> infer_instance

theorem oneOwner_attributed :
    ∃ snapshot, (evidenceAfter oneOwner).activeEvidence = some snapshot ∧
      snapshot.files.length = 1 ∧
      ∀ entry ∈ snapshot.files,
        Attributed fileKind (fileHistory oneOwner) snapshot.createdNs entry := by
  have hlength : (evidenceAfter oneOwner).activeEvidence.map (fun snapshot =>
      snapshot.files.length) = some 1 := by
    decide +kernel
  obtain ⟨snapshot, hactive, hfiles⟩ := Option.map_eq_some_iff.1 hlength
  exact ⟨snapshot, hactive, hfiles, (evidence_attributed (by decide +kernel) hactive).1⟩

def EvidenceAttributed : Prop :=
  ∀ (events : List EvidenceEvent) (snapshot : ParpEvidenceSnapshot),
    (evidenceAfter events).activeEvidence = some snapshot →
      (∀ entry ∈ snapshot.files,
        Attributed fileKind (fileHistory events) snapshot.createdNs entry) ∧
      ∀ entry ∈ snapshot.anons,
        Attributed anonKind (anonHistory events) snapshot.createdNs entry

def rebound : List EvidenceEvent := [sampleEvent 2 3 100 1 5, sampleEvent 5 4 102 2 1]

def Unattributed (history : List (ParpObservation ParpFileRegionKey)) (createdNs : UInt64)
    (entry : ParpEvidence ParpFileRegionKey) : Prop :=
  ∀ samples ∈ history.sublists,
    (∀ sample ∈ samples, ownerOf fileKind sample = labelOf entry) →
      ∀ builder ∈ builderOf samples, entry.windows ≠ windowsOf fileKind builder createdNs

instance (history : List (ParpObservation ParpFileRegionKey)) (createdNs : UInt64)
    (entry : ParpEvidence ParpFileRegionKey) :
    Decidable (Unattributed history createdNs entry) :=
  inferInstanceAs (Decidable (∀ samples ∈ history.sublists, _ → _))

/-- The entry of application 5 counts the five accesses under application 2. -/
theorem rebound_not_attributed : ¬ EvidenceAttributed := by
  intro h
  have hfound : ∃ snapshot ∈ (evidenceAfter rebound).activeEvidence,
      ∃ entry ∈ snapshot.files,
        labelOf entry = ⟨7, 5, 4⟩ ∧ entry.windows.accessEvidence10s = 6 ∧
          Unattributed (fileHistory rebound) snapshot.createdNs entry := by
    decide +kernel
  obtain ⟨snapshot, hactive, entry, hmem, -, -, hnone⟩ := hfound
  obtain ⟨samples, hsublist, howner, builder, hmade, hwindows⟩ :=
    (h rebound snapshot hactive).1 entry hmem
  exact hnone samples (mem_sublists.2 hsublist) howner builder hmade hwindows

end Parp.EvidenceOwners
