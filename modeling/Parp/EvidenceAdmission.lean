import Parp.EvidenceTables

set_option autoImplicit false

/-!
# What an update that fails leaves behind
-/
namespace Parp.EvidenceAdmission

open Evidence EvidenceOwners EvidenceTables List

section

variable {κ : Type}

def HasSlot (kind : RegionKind κ) (limits : Limits) (table : Table κ) (others : ℕ)
    (observation : ParpObservation κ) (allocated : Bool) : Prop :=
  match findBuilder kind table.builders observation with
  | some found => rejects found.1 observation.sample = none
  | none =>
    if DomainFull kind limits table.builders observation ∨
        TotalFull limits table.builders others then
      (victim kind table.builders observation
        (DomainFull kind limits table.builders observation)).isSome = true
    else
      table.builders.length = table.capacity.toNat →
        (grow table limits.maxTotalRegions allocated).isOk = true

def Admits (kind : RegionKind κ) (limits : Limits) (table : Table κ) (others : ℕ)
    (observation : ParpObservation κ) (allocated : Bool) : Prop :=
  parpSampleValid observation.sample = true ∧ kind.nrPages observation.key ≠ 0 ∧
    match (if table.capacity = 0 then grow table limits.maxTotalRegions allocated
      else .ok table) with
    | .error _ => False
    | .ok grown => HasSlot kind limits grown others observation allocated

variable {kind : RegionKind κ} {limits : Limits} {table : Table κ} {others : ℕ}
  {observation : ParpObservation κ} {allocated : Bool}

theorem slotFor_hasSlot (hvalid : parpSampleValid observation.sample = true) :
    HasSlot kind limits table others observation allocated ↔
      ∃ slot builder i, slotFor kind limits table others observation allocated =
        (slot, .ok (builder, i)) ∧ rejects builder observation.sample = none := by
  have hfresh := rejects_fresh hvalid
  unfold HasSlot slotFor
  cases findBuilder kind table.builders observation with
  | some found =>
    constructor
    · exact fun htaken => ⟨table, found.1, found.2, rfl, htaken⟩
    · rintro ⟨slot, builder, i, hslot, htaken⟩
      obtain ⟨-, hfound⟩ := Prod.mk.inj hslot
      obtain rfl := Except.ok.inj hfound
      exact htaken
  | none =>
    dsimp only
    by_cases hfull : DomainFull kind limits table.builders observation ∨
        TotalFull limits table.builders others
    · have hcond : (decide (table.builders.countP (fun builder =>
          kind.domain builder.observation = kind.domain observation) ≥
            (kind.perDomain limits).toNat) = true ∨
          decide (table.builders.length + others ≥ limits.maxTotalRegions.toNat) = true) :=
        hfull.imp decide_eq_true decide_eq_true
      rw [if_pos hfull, if_pos hcond]
      change (victim kind table.builders observation (decide (table.builders.countP
        (fun builder => kind.domain builder.observation = kind.domain observation) ≥
          (kind.perDomain limits).toNat))).isSome = true ↔ _
      cases victim kind table.builders observation _ with
      | none =>
        refine ⟨fun h => (Bool.false_ne_true h).elim, ?_⟩
        rintro ⟨slot, builder, i, hslot, -⟩
        cases congrArg Prod.snd hslot
      | some i => exact ⟨fun _ => ⟨_, _, i, rfl, hfresh⟩, fun _ => rfl⟩
    · have hcond : ¬ (decide (table.builders.countP (fun builder =>
          kind.domain builder.observation = kind.domain observation) ≥
            (kind.perDomain limits).toNat) = true ∨
          decide (table.builders.length + others ≥ limits.maxTotalRegions.toNat) = true) :=
        fun h => hfull (h.imp of_decide_eq_true of_decide_eq_true)
      rw [if_neg hfull, if_neg hcond]
      by_cases hlength : table.builders.length = table.capacity.toNat
      · rw [if_pos hlength]
        cases grow table limits.maxTotalRegions allocated with
        | error errno =>
          refine ⟨fun h => (Bool.false_ne_true (h hlength)).elim, ?_⟩
          rintro ⟨slot, builder, i, hslot, -⟩
          cases congrArg Prod.snd hslot
        | ok grown => exact ⟨fun _ => ⟨_, _, _, rfl, hfresh⟩, fun _ _ => rfl⟩
      · rw [if_neg hlength]
        exact ⟨fun _ => ⟨_, _, _, rfl, hfresh⟩, fun _ h => (hlength h).elim⟩

theorem tableUpdate_admits (kind : RegionKind κ) (limits : Limits) (table : Table κ) (others : ℕ)
    (observation : ParpObservation κ) (allocated : Bool) :
    (tableUpdate kind limits table others observation allocated).2 = .ok () ↔
      Admits kind limits table others observation allocated := by
  unfold Admits tableUpdate
  by_cases hinvalid : parpSampleValid observation.sample = false ∨
      kind.nrPages observation.key = 0
  · rw [if_pos hinvalid]
    refine ⟨fun h => (by cases h), ?_⟩
    rintro ⟨hvalid, hpages, -⟩
    rcases hinvalid with hfalse | hzero
    · exact (Bool.false_ne_true (hfalse.symm.trans hvalid)).elim
    · exact (hpages hzero).elim
  rw [if_neg hinvalid]
  rw [not_or] at hinvalid
  have hvalid : parpSampleValid observation.sample = true := eq_true_of_ne_false hinvalid.1
  generalize (if table.capacity = 0 then grow table limits.maxTotalRegions allocated
    else .ok table) = opened
  cases opened with
  | error errno => exact ⟨fun h => (by cases h), fun h => h.2.2.elim⟩
  | ok grown =>
    dsimp only
    rw [slotFor_hasSlot hvalid]
    generalize slotFor kind limits grown others observation allocated = result
    obtain ⟨slot, errno | ⟨builder, i⟩⟩ := result
    · refine ⟨fun h => (by cases h), ?_⟩
      rintro ⟨-, -, slot, builder, i, hslot, -⟩
      cases congrArg Prod.snd hslot
    · dsimp only
      cases htaken : rejects builder observation.sample with
      | none => exact ⟨fun _ => ⟨hvalid, hinvalid.2, slot, builder, i, rfl, htaken⟩, fun _ => rfl⟩
      | some errno =>
        refine ⟨fun h => (by cases h), ?_⟩
        rintro ⟨-, -, slot', builder', i', hslot, hnone⟩
        obtain ⟨-, hentry⟩ := Prod.mk.inj hslot
        obtain ⟨rfl, -⟩ := Prod.mk.inj (Except.ok.inj hentry)
        cases htaken.symm.trans hnone

theorem set_ne {α : Type} {l : List α} {i : ℕ} {a b : α} (hget : l[i]? = some a) (hne : a ≠ b) :
    l.set i b ≠ l := by
  intro hsame
  have hset : (l.set i b)[i]? = some b := by
    rw [getElem?_set_self (List.getElem?_eq_some_iff.1 hget).1]
  rw [hsame, hget] at hset
  exact hne (Option.some.inj hset)

theorem tableUpdate_changes {ρ : Type} {region : ParpObservation κ → ρ}
    (hnames : Names kind region) (limits : Limits) (table : Table κ) (others : ℕ)
    (observation : ParpObservation κ) (allocated : Bool)
    (h : (tableUpdate kind limits table others observation allocated).2 = .ok ()) :
    (tableUpdate kind limits table others observation allocated).1.builders ≠ table.builders := by
  generalize hresult : tableUpdate kind limits table others observation allocated = result at *
  obtain ⟨table', outcome⟩ := result
  obtain rfl : outcome = .ok () := h
  obtain ⟨-, grown, slot, builder, i, hgrown, hslot, htaken, hbuilders⟩ := tableUpdate_ok hresult
  change table'.builders ≠ table.builders
  rw [hbuilders, ← hgrown]
  cases hfound : findBuilder kind grown.builders observation with
  | some found =>
    have hkept : slotFor kind limits grown others observation allocated = (grown, .ok found) := by
      unfold slotFor
      rw [hfound]
    obtain ⟨rfl, hentry⟩ := Prod.mk.inj (hkept.symm.trans hslot)
    obtain rfl := Except.ok.inj hentry
    refine set_ne (findBuilder_some hfound).1 fun hsame => ?_
    have hid : builder.lastSampleId = observation.sample.sampleId :=
      congrArg ParpBuilder.lastSampleId hsame
    unfold rejects at htaken
    rw [if_pos hid] at htaken
    cases htaken
  | none =>
    have hnew := findBuilder_none.1 hfound
    obtain ⟨rfl, hplace⟩ := slotFor_new hfound hslot
    rcases hplace with ⟨victim, hget, -, hset⟩ | ⟨-, -, rfl, hset⟩
    · rw [hset, set_set]
      refine set_ne hget fun hsame => ?_
      have hother := hnew victim (mem_of_getElem? hget)
      have hown : kind.sameRegion victim.observation observation = true := by
        rw [hsame]
        exact (hnames.same _ _).2 rfl
      rw [hown] at hother
      cases hother
    · rw [hset]
      intro hsame
      have hlength := congrArg List.length hsame
      rw [length_set, length_append, length_singleton] at hlength
      omega

theorem tableUpdate_error {errno : EvidenceErrno}
    (h : (tableUpdate kind limits table others observation allocated).2 = .error errno) :
    (tableUpdate kind limits table others observation allocated).1.builders = table.builders := by
  have hcase := tableUpdate_cases kind limits table others observation allocated
  generalize tableUpdate kind limits table others observation allocated = result at *
  cases hcase with
  | rejected errno hsame => exact hsame
  | extended hnew hbuilders => cases h
  | replaced i hnew hbuilders => cases h
  | updated builder i hfound htaken hbuilders => cases h

end

def ErrorKeeps (before : EvidenceState) (result : EvidenceState × Except EvidenceErrno Unit) :
    Prop :=
  ∀ errno, result.2 = .error errno →
    result.1.files.builders = before.files.builders ∧
      result.1.anons.builders = before.anons.builders

def AdmitsFile (state : EvidenceState) (env : Surroundings)
    (observation : ParpObservation ParpFileRegionKey) : Prop :=
  Admits fileKind state.limits state.files state.anons.builders.length observation
    env.tableAllocated

def AdmitsAnon (state : EvidenceState) (env : Surroundings)
    (observation : ParpObservation ParpAnonRegionKey) : Prop :=
  Admits anonKind state.limits state.anons state.files.builders.length observation
    env.tableAllocated

def Due (state : EvidenceState) (timestampNs : UInt64) : Prop :=
  timestampNs - state.lastPublishNs ≥ nsecPerSec

variable (state : EvidenceState) (env : Surroundings)

theorem publishWhenDue_error (timestampNs : UInt64) :
    (∃ errno, (publishWhenDue state env timestampNs).2 = .error errno) ↔
      Due state timestampNs ∧ env.snapshotAllocated = false := by
  unfold publishWhenDue parpPublishEvidenceLocked
  by_cases hdue : timestampNs - state.lastPublishNs ≥ nsecPerSec
  · rw [if_pos hdue]
    split_ifs with hfailed
    · exact ⟨fun _ => ⟨hdue, hfailed⟩, fun _ => ⟨.enomem, rfl⟩⟩
    · exact ⟨fun ⟨_, h⟩ => (by cases h), fun h => (hfailed h.2).elim⟩
  · rw [if_neg hdue]
    exact ⟨fun ⟨_, h⟩ => (by cases h), fun h => (hdue h.1).elim⟩

theorem update_keeps_iff {state : EvidenceState} {env : Surroundings} {timestampNs : UInt64}
    {outcome : Except EvidenceErrno Unit} {result : EvidenceState × Except EvidenceErrno Unit}
    (hends : EndsAs outcome state env timestampNs result)
    (hrefused : ∀ errno, outcome = .error errno →
      result.1.files.builders = state.files.builders ∧
        result.1.anons.builders = state.anons.builders)
    (hmerged : outcome = .ok () → ¬ (result.1.files.builders = state.files.builders ∧
      result.1.anons.builders = state.anons.builders)) :
    ErrorKeeps state result ↔
      ¬ (outcome = .ok () ∧ Due state timestampNs ∧ env.snapshotAllocated = false) := by
  obtain ⟨merged, hsame, ⟨errno, rfl, rfl⟩ | ⟨rfl, rfl⟩⟩ := hends
  · exact ⟨fun _ h => (by cases h.1), fun _ _ _ => hrefused errno rfl⟩
  · have herror := publishWhenDue_error merged env timestampNs
    unfold Due at *
    rw [hsame.last] at herror
    constructor
    · rintro hkeeps ⟨-, hfails⟩
      obtain ⟨errno, hfailed⟩ := herror.2 hfails
      exact hmerged rfl (hkeeps errno hfailed)
    · intro hnone errno hfailed
      exact (hnone ⟨rfl, herror.1 ⟨errno, hfailed⟩⟩).elim

theorem updateFile_keeps_iff (observation : ParpObservation ParpFileRegionKey) :
    ErrorKeeps state (parpEvidenceUpdateFile state env observation) ↔
      ¬ (AdmitsFile state env observation ∧ Due state observation.sample.timestampNs ∧
        env.snapshotAllocated = false) := by
  obtain ⟨hfiles, hanons, -⟩ := updateFile_tables state env observation
  unfold AdmitsFile
  rw [← tableUpdate_admits]
  refine update_keeps_iff (updateFile_ends state env observation) (fun errno houtcome => ?_)
    fun houtcome hsame => ?_
  · rw [hfiles, hanons]
    exact ⟨tableUpdate_error houtcome, rfl⟩
  · rw [hfiles] at hsame
    exact tableUpdate_changes fileNames _ _ _ _ _ houtcome hsame.1

theorem updateAnon_keeps_iff (observation : ParpObservation ParpAnonRegionKey) :
    ErrorKeeps state (parpEvidenceUpdateAnon state env observation) ↔
      ¬ (AdmitsAnon state env observation ∧ Due state observation.sample.timestampNs ∧
        env.snapshotAllocated = false) := by
  obtain ⟨hanons, hfiles, -⟩ := updateAnon_tables state env observation
  unfold AdmitsAnon
  rw [← tableUpdate_admits]
  refine update_keeps_iff (updateAnon_ends state env observation) (fun errno houtcome => ?_)
    fun houtcome hsame => ?_
  · rw [hfiles, hanons]
    exact ⟨rfl, tableUpdate_error houtcome⟩
  · rw [hanons] at hsame
    exact tableUpdate_changes anonNames _ _ _ _ _ houtcome hsame.2

/-- An update that fails keeps the tables unless it is the publication that fails, after the
observation was merged. -/
theorem error_keeps_iff (state : EvidenceState) (env : Surroundings) :
    (∀ observation, ErrorKeeps state (parpEvidenceUpdateFile state env observation) ↔
        ¬ (AdmitsFile state env observation ∧ Due state observation.sample.timestampNs ∧
          env.snapshotAllocated = false)) ∧
      ∀ observation, ErrorKeeps state (parpEvidenceUpdateAnon state env observation) ↔
        ¬ (AdmitsAnon state env observation ∧ Due state observation.sample.timestampNs ∧
          env.snapshotAllocated = false) :=
  ⟨updateFile_keeps_iff state env, updateAnon_keeps_iff state env⟩

def FailuresKeep : Prop :=
  ∀ (state : EvidenceState) (env : Surroundings),
    (∀ observation, ErrorKeeps state (parpEvidenceUpdateFile state env observation)) ∧
      ∀ observation, ErrorKeeps state (parpEvidenceUpdateAnon state env observation)

/-- The first sample of a region is in its bucket when the snapshot cannot be allocated. -/
theorem failed_publication_keeps_sample : ¬ FailuresKeep := by
  intro h
  have hkeeps := (h {} { boundEnv 2 3 with snapshotAllocated := false }).1
    (regionSample 2 3 100 1 5)
  have hmerged : (parpEvidenceUpdateFile {} { boundEnv 2 3 with snapshotAllocated := false }
      (regionSample 2 3 100 1 5)).2 = .error .enomem ∧
      (parpEvidenceUpdateFile {} { boundEnv 2 3 with snapshotAllocated := false }
        (regionSample 2 3 100 1 5)).1.files.builders.length = 1 := by
    decide +kernel
  have hlength := congrArg List.length (hkeeps .enomem hmerged.1).1
  rw [hmerged.2] at hlength
  cases hlength

end Parp.EvidenceAdmission

/-!
# When snapshots are published

The throttle subtracts the time of the last publication from the time of the sample in 64 bits; a
publication by the clock does not look at the last one. Snapshots move forward as long as nothing is
published at a time before the last publication.
-/
namespace Parp.EvidencePublishing

open Evidence EvidenceOwners EvidenceTables EvidenceAdmission List
open TransitionRuns

structure Publication where
  observed : Bool
  createdNs : UInt64
  deriving DecidableEq

def causedBySample : EvidenceEvent → Bool
  | .updateFile _ _ | .updateAnon _ _ => true
  | _ => false

def publicationOf (state : EvidenceState) (event : EvidenceEvent) : List Publication :=
  if (evidenceStep state event).2.evidenceVersion ≠ state.evidenceVersion then
    (evidenceStep state event).2.activeEvidence.toList.map fun snapshot =>
      { observed := causedBySample event, createdNs := snapshot.createdNs }
  else []

def publications (events : List EvidenceEvent) : List Publication :=
  (turns evidenceStep {} events).flatMap fun turn => publicationOf turn.before turn.input

/-- Snapshots never get older, and those that samples cause are a second apart. -/
structure Forward (published : List Publication) : Prop where
  ordered : published.Pairwise fun earlier later => earlier.createdNs ≤ later.createdNs
  apart : published.Pairwise fun earlier later => earlier.observed = true → later.observed = true →
    earlier.createdNs.toNat + 10 ^ 9 ≤ later.createdNs.toNat

/-- A sample's time is not before the last publication, or so far before it that the difference
wraps to less than a second. -/
def InTime (state : EvidenceState) (timestampNs : UInt64) : Prop :=
  state.lastPublishNs ≤ timestampNs ∨
    timestampNs.toNat + 2 ^ 64 < state.lastPublishNs.toNat + 10 ^ 9

theorem inTime_iff {state : EvidenceState} {timestampNs : UInt64} :
    InTime state timestampNs ↔ (Due state timestampNs → state.lastPublishNs ≤ timestampNs) := by
  have hlast := state.lastPublishNs.toNat_lt
  unfold InTime Due
  rw [ge_iff_le, UInt64.le_iff_toNat_le, UInt64.le_iff_toNat_le, UInt64.toNat_sub]
  change _ ↔ (10 ^ 9 ≤ _ → _)
  omega

def NotBack (state : EvidenceState) : EvidenceEvent → Prop
  | .updateFile observation env =>
    AdmitsFile state env observation → env.snapshotAllocated = true →
      InTime state observation.sample.timestampNs
  | .updateAnon observation env =>
    AdmitsAnon state env observation → env.snapshotAllocated = true →
      InTime state observation.sample.timestampNs
  | .publish nowNs env => env.snapshotAllocated = true → state.lastPublishNs ≤ nowNs
  | .domainOffline _ nowNs env => env.snapshotAllocated = true → state.lastPublishNs ≤ nowNs
  | .setLimits _ => True

section

variable {before state : EvidenceState} {event : EvidenceEvent}

inductive StepCase (state : EvidenceState) (event : EvidenceEvent) : Prop
  | silent (hnone : publicationOf state event = [])
      (hlast : (evidenceStep state event).2.lastPublishNs = state.lastPublishNs)
      (hfree : NotBack state event)
  | published (publication : Publication) (hone : publicationOf state event = [publication])
      (hlast : (evidenceStep state event).2.lastPublishNs = publication.createdNs)
      (hdue : publication.observed = true → Due state publication.createdNs)
      (hback : NotBack state event ↔ state.lastPublishNs ≤ publication.createdNs)

theorem publicationOf_silent
    (hversion : (evidenceStep state event).2.evidenceVersion = state.evidenceVersion) :
    publicationOf state event = [] := by
  unfold publicationOf
  rw [if_neg (not_not.2 hversion)]

theorem publish_failed {env : Surroundings} {nowNs : UInt64}
    (hfailed : env.snapshotAllocated = false) :
    (parpPublishEvidenceLocked state env nowNs).1 = state := by
  unfold parpPublishEvidenceLocked
  rw [if_pos hfailed]

theorem publish_succeeds (state : EvidenceState) {env : Surroundings} (nowNs : UInt64)
    (hallocated : env.snapshotAllocated = true) :
    ∃ snapshot, snapshot.createdNs = nowNs ∧ (parpPublishEvidenceLocked state env nowNs).1 =
      { state with
        evidenceVersion := state.evidenceVersion + 1
        lastPublishNs := nowNs
        activeEvidence := some snapshot } := by
  have hnot : ¬ env.snapshotAllocated = false := by
    simp [hallocated]
  unfold parpPublishEvidenceLocked
  rw [if_neg hnot]
  exact ⟨_, rfl, rfl⟩

theorem next_version_ne (version : UInt64) : version + 1 ≠ version := by
  intro h
  have hnat := congrArg UInt64.toNat h
  have hlt := version.toNat_lt
  rw [UInt64.toNat_add] at hnat
  change (_ + 1) % 2 ^ 64 = _ at hnat
  omega

theorem publicationOf_published {env : Surroundings} {nowNs : UInt64}
    (hsame : SamePublication before state)
    (hstep : (evidenceStep state event).2 = (parpPublishEvidenceLocked before env nowNs).1)
    (hallocated : env.snapshotAllocated = true) :
    publicationOf state event = [⟨causedBySample event, nowNs⟩] ∧
      (evidenceStep state event).2.lastPublishNs = nowNs := by
  obtain ⟨snapshot, rfl, hpublished⟩ := publish_succeeds before nowNs hallocated
  unfold publicationOf
  rw [hstep, hpublished, hsame.version, if_pos (next_version_ne _)]
  exact ⟨rfl, rfl⟩

theorem clock_case {env : Surroundings} {nowNs : UInt64} (hsame : SamePublication before state)
    (hstep : (evidenceStep state event).2 = (parpPublishEvidenceLocked before env nowNs).1)
    (hcause : causedBySample event = false)
    (hback : NotBack state event ↔ (env.snapshotAllocated = true → state.lastPublishNs ≤ nowNs)) :
    StepCase state event := by
  cases hallocated : env.snapshotAllocated with
  | false =>
    rw [publish_failed hallocated] at hstep
    refine .silent (publicationOf_silent ?_) ?_ (hback.2 fun h => ?_)
    · rw [hstep, hsame.version]
    · rw [hstep, hsame.last]
    · rw [hallocated] at h
      cases h
  | true =>
    obtain ⟨hone, hlast⟩ := publicationOf_published hsame hstep hallocated
    refine .published _ hone hlast (fun h => ?_) ?_
    · rw [hcause] at h
      cases h
    · exact hback.trans ⟨fun h => h hallocated, fun h _ => h⟩

theorem sample_case {env : Surroundings} {timestampNs : UInt64}
    {outcome : Except EvidenceErrno Unit} {admits : Prop}
    (hends : EndsAs outcome state env timestampNs (evidenceStep state event).swap)
    (hadmits : outcome = .ok () ↔ admits)
    (hback : NotBack state event ↔
      (admits → env.snapshotAllocated = true → InTime state timestampNs)) :
    StepCase state event := by
  obtain ⟨merged, hsame, ⟨errno, houtcome, hresult⟩ | ⟨houtcome, hresult⟩⟩ := hends
  · have hstep : (evidenceStep state event).2 = merged := congrArg Prod.fst hresult
    refine .silent (publicationOf_silent ?_) ?_ (hback.2 fun h => ?_)
    · rw [hstep, hsame.version]
    · rw [hstep, hsame.last]
    · rw [← hadmits, houtcome] at h
      cases h
  · have hstep : (evidenceStep state event).2 = (publishWhenDue merged env timestampNs).1 :=
      congrArg Prod.fst hresult
    have hadmitted := hadmits.1 houtcome
    unfold publishWhenDue at hstep
    rw [hsame.last] at hstep
    by_cases hdue : timestampNs - state.lastPublishNs ≥ nsecPerSec
    · rw [if_pos hdue] at hstep
      cases hallocated : env.snapshotAllocated with
      | false =>
        rw [publish_failed hallocated] at hstep
        refine .silent (publicationOf_silent ?_) ?_ (hback.2 fun _ h => ?_)
        · rw [hstep, hsame.version]
        · rw [hstep, hsame.last]
        · rw [hallocated] at h
          cases h
      | true =>
        obtain ⟨hone, hlast⟩ := publicationOf_published hsame hstep hallocated
        refine .published _ hone hlast (fun _ => hdue) ?_
        exact hback.trans ⟨fun h => inTime_iff.1 (h hadmitted hallocated) hdue,
          fun h _ _ => .inl h⟩
    · rw [if_neg hdue] at hstep
      refine .silent (publicationOf_silent ?_) ?_
        (hback.2 fun _ _ => inTime_iff.2 fun h => (hdue h).elim)
      · rw [hstep, hsame.version]
      · rw [hstep, hsame.last]

theorem evidenceStep_case (state : EvidenceState) (event : EvidenceEvent) :
    StepCase state event := by
  cases event with
  | updateFile observation env =>
    exact sample_case (updateFile_ends state env observation) (tableUpdate_admits _ _ _ _ _ _)
      Iff.rfl
  | updateAnon observation env =>
    exact sample_case (updateAnon_ends state env observation) (tableUpdate_admits _ _ _ _ _ _)
      Iff.rfl
  | publish nowNs env => exact clock_case ⟨rfl, rfl, rfl⟩ rfl rfl Iff.rfl
  | domainOffline domainId nowNs env =>
    have hsame : SamePublication { state with
        files := state.files.dropDomain fileKind domainId
        anons := state.anons.dropDomain anonKind domainId } state := ⟨rfl, rfl, rfl⟩
    exact clock_case hsame rfl rfl Iff.rfl
  | setLimits limits => exact .silent (publicationOf_silent rfl) rfl trivial

end

theorem due_apart {state : EvidenceState} {timestampNs : UInt64} (hdue : Due state timestampNs)
    (hle : state.lastPublishNs ≤ timestampNs) :
    state.lastPublishNs.toNat + 10 ^ 9 ≤ timestampNs.toNat := by
  unfold Due at hdue
  rw [ge_iff_le, UInt64.le_iff_toNat_le, UInt64.toNat_sub_of_le _ _ hle] at hdue
  change 10 ^ 9 ≤ _ at hdue
  rw [UInt64.le_iff_toNat_le] at hle
  omega

theorem publications_concat (events : List EvidenceEvent) (event : EvidenceEvent) :
    publications (events ++ [event]) =
      publications events ++ publicationOf (evidenceAfter events) event := by
  unfold publications
  rw [turns_concat, flatMap_append]
  simp [evidenceAfter]

structure Ledger (published : List Publication) (lastPublishNs : UInt64) (forward : Prop) :
    Prop where
  iff : Forward published ↔ forward
  newest : forward → ∀ publication ∈ published, publication.createdNs ≤ lastPublishNs
  known : lastPublishNs = 0 ∨ ∃ publication ∈ published, publication.createdNs = lastPublishNs

theorem Ledger.publish {published : List Publication} {state : EvidenceState} {forward : Prop}
    (h : Ledger published state.lastPublishNs forward) {publication : Publication}
    (hdue : publication.observed = true → Due state publication.createdNs) :
    Ledger (published ++ [publication]) publication.createdNs
      (forward ∧ state.lastPublishNs ≤ publication.createdNs) := by
  refine ⟨⟨fun hforward => ?_, fun hforward => ?_⟩, fun hforward => ?_,
    .inr ⟨publication, mem_append_right _ (mem_singleton_self _), rfl⟩⟩
  · obtain ⟨hordered, hapart⟩ := hforward
    obtain ⟨hold, -, hnew⟩ := pairwise_append.1 hordered
    refine ⟨h.iff.1 ⟨hold, (pairwise_append.1 hapart).1⟩, ?_⟩
    rcases h.known with hzero | ⟨earlier, hmem, hlast⟩
    · rw [hzero]
      exact UInt64.zero_le
    · rw [← hlast]
      exact hnew earlier hmem publication (mem_singleton_self _)
  · obtain ⟨hbefore, hle⟩ := hforward
    obtain ⟨hordered, hapart⟩ := h.iff.2 hbefore
    have hnewest := h.newest hbefore
    refine ⟨pairwise_append.2 ⟨hordered, pairwise_singleton _ _, ?_⟩,
      pairwise_append.2 ⟨hapart, pairwise_singleton _ _, ?_⟩⟩
    · intro earlier hmem last hlast
      rw [mem_singleton.1 hlast]
      exact UInt64.le_trans (hnewest earlier hmem) hle
    · intro earlier hmem last hlast _ hobserved
      rw [mem_singleton.1 hlast] at hobserved ⊢
      have hlower := UInt64.le_iff_toNat_le.1 (hnewest earlier hmem)
      have hsecond := due_apart (hdue hobserved) hle
      omega
  · intro earlier hmem
    rcases mem_append.1 hmem with hold | hnew
    · exact UInt64.le_trans (h.newest hforward.1 earlier hold) hforward.2
    · obtain rfl := mem_singleton.1 hnew
      exact UInt64.le_refl _

theorem run_ledger (events : List EvidenceEvent) :
    Ledger (publications events) (evidenceAfter events).lastPublishNs
      (Along evidenceStep NotBack {} events) := by
  induction events using List.reverseRecOn with
  | nil =>
    refine ⟨⟨fun _ => trivial, fun _ => ⟨List.Pairwise.nil, List.Pairwise.nil⟩⟩, ?_, .inl rfl⟩
    exact fun _ _ hmem => (not_mem_nil hmem).elim
  | append_singleton events event ih =>
    have hafter : evidenceAfter (events ++ [event]) =
        (evidenceStep (evidenceAfter events) event).2 := after_concat _ _ _ _
    have halong : Along evidenceStep NotBack {} (events ++ [event]) ↔
        Along evidenceStep NotBack {} events ∧ NotBack (evidenceAfter events) event := by
      rw [along_append]
      exact and_congr_right fun _ => ⟨fun h => h.1, fun h => ⟨h, trivial⟩⟩
    rw [publications_concat, hafter]
    cases evidenceStep_case (evidenceAfter events) event with
    | silent hnone hlast hfree =>
      rw [hnone, hlast, append_nil]
      have hsame := halong.trans (and_iff_left hfree)
      exact ⟨ih.iff.trans hsame.symm, fun h => ih.newest (hsame.1 h), ih.known⟩
    | published publication hone hlast hdue hback =>
      rw [hone, hlast]
      have hsame := halong.trans (and_congr_right fun _ => hback)
      have hnext := ih.publish hdue
      exact ⟨hnext.iff.trans hsame.symm, fun h => hnext.newest (hsame.1 h), hnext.known⟩

/-- The snapshots of a run move forward if and only if nothing is published at a time before the
last publication. -/
theorem publications_forward_iff (events : List EvidenceEvent) :
    Forward (publications events) ↔ Along evidenceStep NotBack {} events :=
  (run_ledger events).iff

def PublicationsForward : Prop :=
  ∀ events : List EvidenceEvent, Forward (publications events)

/-- A sample one second late is published over the newer snapshot. -/
theorem late_sample_goes_back : ¬ PublicationsForward := by
  intro h
  have hback : (publications [sampleEvent 2 3 160 1 1, sampleEvent 2 3 159 2 1]).map
      Publication.createdNs = [160 * nsecPerSec, 159 * nsecPerSec] := by
    decide +kernel
  have hordered := (h [sampleEvent 2 3 160 1 1, sampleEvent 2 3 159 2 1]).ordered
  have hle : ((publications [sampleEvent 2 3 160 1 1, sampleEvent 2 3 159 2 1]).map
      Publication.createdNs).Pairwise (· ≤ ·) := pairwise_map.2 hordered
  rw [hback] at hle
  exact absurd hle (by decide)

end Parp.EvidencePublishing
