import Mathlib.Data.List.Perm.Subperm
import Parp.Internal
import Parp.KeyedTable

set_option autoImplicit false

/-!
# The prediction snapshot

`mm/parp/core/snapshot.c`. The RCU-published pointer `parp_active_snapshot` is an explicit
argument and result; `none` is the null pointer before the first publication. Updates run under
`parp_snapshot_update_lock`, so one update is one step. What an update reads from outside (the
clock, whether `kzalloc` succeeds) is an argument.
-/
namespace Parp.Snapshot

abbrev Active := Option ParpSnapshot

/-- What `parp_clone_snapshot` gets from outside: whether `kzalloc` succeeds and the clock. -/
structure CloneEnv where
  allocated : Bool
  nowNs : UInt64
  deriving DecidableEq

def parpCloneSnapshot (active : Active) (env : CloneEnv) : Option ParpSnapshot :=
  if env.allocated = false then none
  else
    let old : ParpSnapshot := active.getD {}
    some { old with
      version := old.version + 1
      createdNs := env.nowNs
      expiresNs :=
        if active = none ∨ old.expiresNs = 0 then env.nowNs + 300 * nsecPerSec
        else old.expiresNs }

def parpSnapshotUpdateBinding (active : Active) (binding : ParpBinding) (env : CloneEnv) :
    Except Errno Unit × Active :=
  match parpCloneSnapshot active env with
  | none => (.error .enomem, active)
  | some new =>
    (.ok (), some { new with
      bindings := KeyedTable.upsert ParpBinding.domainId parpMaxDomains binding new.bindings })

def parpSnapshotUpdatePrior (active : Active) (prior : ParpAppPrior) (env : CloneEnv) :
    Except Errno Unit × Active :=
  if ∃ s ∈ active, s.predictionGeneration ≠ 0 then (.error .ebusy, active)
  else
    match parpCloneSnapshot active env with
    | none => (.error .enomem, active)
    | some new =>
      (.ok (), some { new with
        priors := KeyedTable.upsert ParpAppPrior.appId parpMaxApps prior new.priors })

/-- The loop over `batch->entries`: `seen` are the entries before the current one. -/
def parpValidateEntries (nrEntries : ℕ) :
    List ParpAppPrior → List ParpAppPrior → ℕ → Except Errno ℕ
  | _, [], foreground => .ok foreground
  | seen, entry :: rest, foreground =>
    if entry.valid = false ∨ entry.appId = 0 ∨ entry.useScoreQ15.toNat > parpQ15One ∨
        entry.rank = 0 ∨ entry.rank.toNat > nrEntries then .error .einval
    else if ∃ e ∈ seen, e.appId = entry.appId ∨ e.rank = entry.rank then .error .einval
    else
      parpValidateEntries nrEntries (seen ++ [entry]) rest (foreground + entry.foreground.toNat)

/-- The working-set fields are out of range where the flag claims them, or set where it does not. -/
def WorkingsetFieldsBad (flagged : Prop) [Decidable flagged] (policyDomainId workingsetBytes
    residentBytes : UInt64) (confidenceQ15 estimatorVersion : UInt16) : Prop :=
  if flagged then
    policyDomainId = 0 ∨ workingsetBytes = 0 ∨ residentBytes > workingsetBytes ∨
      confidenceQ15 = 0 ∨ confidenceQ15.toNat > parpQ15One ∨ estimatorVersion = 0
  else
    policyDomainId ≠ 0 ∨ workingsetBytes ≠ 0 ∨ residentBytes ≠ 0 ∨ confidenceQ15 ≠ 0 ∨
      estimatorVersion ≠ 0

instance (flagged : Prop) [Decidable flagged] (d w r : UInt64) (c e : UInt16) :
    Decidable (WorkingsetFieldsBad flagged d w r c e) := by
  unfold WorkingsetFieldsBad
  infer_instance

def ParpAppPriorBatch.WorkingsetBad (batch : ParpAppPriorBatch) : Prop :=
  WorkingsetFieldsBad (batch.flags &&& parpAppPriorBatchWorkingsetValid ≠ 0) batch.policyDomainId
    batch.predictedWorkingsetBytes batch.predictedResidentBytes batch.workingsetConfidenceQ15
    batch.workingsetEstimatorVersion

instance (batch : ParpAppPriorBatch) : Decidable (ParpAppPriorBatch.WorkingsetBad batch) :=
  inferInstanceAs (Decidable (WorkingsetFieldsBad _ _ _ _ _ _))

def parpValidatePriorBatch (batch : Option ParpAppPriorBatch) (nowNs : UInt64) :
    Except Errno Unit :=
  match batch with
  | none => .error .einval
  | some batch =>
    if batch.schemaVersion ≠ parpAppPriorBatchSchema ∨ batch.modelVersion = 0 ∨
        batch.predictionGeneration = 0 ∨
        batch.flags &&& ~~~parpAppPriorBatchWorkingsetValid ≠ 0 ∨
        batch.nrEntries = 0 ∨ batch.nrEntries > parpMaxApps then .error .einval
    else if batch.timestampNs = 0 ∨ batch.timestampNs > nowNs + 5 * nsecPerSec ∨
        batch.expiryNs ≤ batch.timestampNs ∨
        batch.expiryNs - batch.timestampNs > parpAppPriorMaxTtlNs ∨
        batch.horizonNs = 0 ∨ batch.horizonNs > parpAppPriorMaxHorizonNs then .error .erange
    else if ParpAppPriorBatch.WorkingsetBad batch then .error .einval
    else
      match parpValidateEntries batch.nrEntries [] batch.entries 0 with
      | .error e => .error e
      | .ok foreground => if foreground > 1 then .error .einval else .ok ()

/-- A `bindings` pointer with its `nr_bindings`: null, or an array of that many entries. -/
inductive BindingArray
  | null (nrBindings : ℕ)
  | array (bindings : List ParpBinding)
  deriving DecidableEq

def BindingArray.nrBindings : BindingArray → ℕ
  | .null n => n
  | .array bindings => bindings.length

def BindingArray.isNull : BindingArray → Bool
  | .null _ => true
  | .array _ => false

def BindingArray.toList : BindingArray → List ParpBinding
  | .null _ => []
  | .array bindings => bindings

def parpValidateBindingLoop (batch : ParpAppPriorBatch) :
    List ParpBinding → List ParpBinding → Except Errno Unit
  | _, [] => .ok ()
  | seen, binding :: rest =>
    if binding.active = false ∨ binding.domainId = 0 ∨ binding.appId = 0 ∨
        binding.bindGeneration = 0 ∨ binding.modelVersion ≠ batch.modelVersion.toUInt64 ∨
        binding.expiresNs ≠ batch.expiryNs then .error .einval
    else if ¬ ∃ e ∈ batch.entries, e.appId = binding.appId then .error .enoent
    else if ∃ b ∈ seen, b.domainId = binding.domainId then .error .einval
    else parpValidateBindingLoop batch (seen ++ [binding]) rest

def parpValidateBindings (batch : ParpAppPriorBatch) (bindings : BindingArray) :
    Except Errno Unit :=
  if bindings.nrBindings > parpMaxDomains ∨ (bindings.nrBindings ≠ 0 ∧ bindings.isNull) then
    .error .einval
  else parpValidateBindingLoop batch [] bindings.toList

def generationGate (active : Active) (batch : ParpAppPriorBatch) : Except Errno Unit :=
  match active with
  | none => .ok ()
  | some s =>
    if batch.predictionGeneration ≤ s.predictionGeneration then
      if batch.predictionGeneration = s.predictionGeneration then .error .ealready
      else .error .estale
    else .ok ()

/-- A batch entry as it is stored: the batch's times, horizon, model version and generation. -/
def storedPrior (batch : ParpAppPriorBatch) (entry : ParpAppPrior) : ParpAppPrior :=
  { entry with
    updatedNs := batch.timestampNs
    expiresNs := batch.expiryNs
    horizonMs := (batch.horizonNs / nsecPerMsec).toUInt32
    modelVersion := batch.modelVersion.toUInt64
    predictionGeneration := batch.predictionGeneration }

def withBatch (new : ParpSnapshot) (batch : ParpAppPriorBatch) : ParpSnapshot :=
  { new with
    predictionSchemaVersion := batch.schemaVersion
    predictionModelVersion := batch.modelVersion
    predictionGeneration := batch.predictionGeneration
    predictionTimestampNs := batch.timestampNs
    predictionHorizonNs := batch.horizonNs
    predictionExpiryNs := batch.expiryNs
    predictionPolicyDomainId := batch.policyDomainId
    predictedWorkingsetBytes := batch.predictedWorkingsetBytes
    predictedResidentBytes := batch.predictedResidentBytes
    workingsetConfidenceQ15 := batch.workingsetConfidenceQ15
    workingsetEstimatorVersion := batch.workingsetEstimatorVersion
    workingsetValid := batch.flags &&& parpAppPriorBatchWorkingsetValid ≠ 0
    expiresNs := batch.expiryNs
    priors := batch.entries.map (storedPrior batch) }

structure ReplaceEnv where
  nowNs : UInt64
  clone : CloneEnv
  deriving DecidableEq

def publishGated (active : Active) (batch : ParpAppPriorBatch) (env : CloneEnv)
    (build : ParpSnapshot → ParpSnapshot) : Except Errno Unit × Active :=
  match generationGate active batch with
  | .error e => (.error e, active)
  | .ok _ =>
    match parpCloneSnapshot active env with
    | none => (.error .enomem, active)
    | some new => (.ok (), some (build new))

def parpSnapshotReplacePriorBatch (active : Active) (batch : Option ParpAppPriorBatch)
    (env : ReplaceEnv) : Except Errno Unit × Active :=
  match parpValidatePriorBatch batch env.nowNs, batch with
  | .error e, _ => (.error e, active)
  | .ok _, none => (.error .einval, active)
  | .ok _, some batch => publishGated active batch env.clone (fun new => withBatch new batch)

def parpSnapshotReplaceState (active : Active) (batch : Option ParpAppPriorBatch)
    (bindings : BindingArray) (env : ReplaceEnv) : Except Errno Unit × Active :=
  match parpValidatePriorBatch batch env.nowNs, batch with
  | .error e, _ => (.error e, active)
  | .ok _, none => (.error .einval, active)
  | .ok _, some batch =>
    match parpValidateBindings batch bindings with
    | .error e => (.error e, active)
    | .ok _ =>
      publishGated active batch env.clone
        (fun new => { withBatch new batch with bindings := bindings.toList })

/-- The `struct parp_app_context` a successful lookup fills in. -/
def appContext (domainId : UInt64) (binding : ParpBinding) (prior : ParpAppPrior) :
    ParpAppContext where
  domainId := domainId
  appId := binding.appId
  bindGeneration := binding.bindGeneration
  predictionGeneration := prior.predictionGeneration
  foregroundEpochId := binding.epochId
  bindExpiryNs := binding.expiresNs
  modelVersion := binding.modelVersion
  appPriorQ15 := prior.useScoreQ15
  appRank := prior.rank
  workloadConfidenceQ15 := binding.workloadConfidenceQ15
  workloadSwappiness := binding.workloadSwappiness
  ownerConfidenceQ15 := UInt16.ofNat parpQ15One
  ownerSource := 1
  workloadClass := binding.workloadClass
  workloadAllowWritepage := binding.workloadAllowWritepage
  workloadValid := binding.workloadValid
  foreground := prior.foreground

def parpContextLookup (active : Active) (domainId nowNs : UInt64) : Option ParpAppContext :=
  match active with
  | none => none
  | some s =>
    if nowNs ≥ s.expiresNs then none
    else
      match s.bindings.find? (fun b => b.active && decide (b.domainId = domainId)) with
      | none => none
      | some binding =>
        if nowNs ≥ binding.expiresNs then none
        else
          match s.priors.find? (fun p => p.valid && decide (p.appId = binding.appId)) with
          | none => none
          | some prior =>
            if nowNs ≥ prior.expiresNs ∨ prior.modelVersion ≠ binding.modelVersion then none
            else some (appContext domainId binding prior)

def parpWorkingsetPredictionLookup (active : Active) (policyDomainId nowNs : UInt64) :
    Option ParpWorkingsetPrediction :=
  match active with
  | none => none
  | some s =>
    if s.workingsetValid = false ∨ policyDomainId = 0 ∨
        s.predictionPolicyDomainId ≠ policyDomainId ∨ nowNs < s.predictionTimestampNs ∨
        nowNs - s.predictionTimestampNs > parpWorkingsetMaxAgeNs ∨
        nowNs ≥ s.predictionExpiryNs ∨ s.predictionGeneration = 0 then none
    else
      some {
        policyDomainId := s.predictionPolicyDomainId
        predictedWorkingsetBytes := s.predictedWorkingsetBytes
        predictedResidentBytes := s.predictedResidentBytes
        timestampNs := s.predictionTimestampNs
        expiryNs := s.predictionExpiryNs
        generation := s.predictionGeneration
        confidenceQ15 := s.workingsetConfidenceQ15
        estimatorVersion := s.workingsetEstimatorVersion }

end Parp.Snapshot

/-!
# What the batch validators accept
-/
namespace Parp.SnapshotValidation

open Snapshot List

structure EntryOk (nrEntries : ℕ) (entry : ParpAppPrior) : Prop where
  valid : entry.valid = true
  appId : entry.appId ≠ 0
  score : entry.useScoreQ15.toNat ≤ parpQ15One
  rankPos : entry.rank ≠ 0
  rankLe : entry.rank.toNat ≤ nrEntries

def Distinct (a b : ParpAppPrior) : Prop := a.appId ≠ b.appId ∧ a.rank ≠ b.rank

structure ValidBatch (batch : ParpAppPriorBatch) (nowNs : UInt64) : Prop where
  schema : batch.schemaVersion = parpAppPriorBatchSchema
  model : batch.modelVersion ≠ 0
  generation : batch.predictionGeneration ≠ 0
  flags : batch.flags &&& ~~~parpAppPriorBatchWorkingsetValid = 0
  count : batch.nrEntries ≠ 0
  countLe : batch.nrEntries ≤ parpMaxApps
  timestamp : batch.timestampNs ≠ 0
  fresh : batch.timestampNs ≤ nowNs + 5 * nsecPerSec
  expiry : batch.timestampNs < batch.expiryNs
  ttl : batch.expiryNs - batch.timestampNs ≤ parpAppPriorMaxTtlNs
  horizon : batch.horizonNs ≠ 0
  horizonLe : batch.horizonNs ≤ parpAppPriorMaxHorizonNs
  workingset : ¬ ParpAppPriorBatch.WorkingsetBad batch
  entries : ∀ entry ∈ batch.entries, EntryOk batch.nrEntries entry
  distinct : batch.entries.Pairwise Distinct
  foreground : batch.entries.countP (fun e => e.foreground) ≤ 1

structure BindingOk (batch : ParpAppPriorBatch) (binding : ParpBinding) : Prop where
  active : binding.active = true
  domainId : binding.domainId ≠ 0
  appId : binding.appId ≠ 0
  generation : binding.bindGeneration ≠ 0
  model : binding.modelVersion = batch.modelVersion.toUInt64
  expiry : binding.expiresNs = batch.expiryNs
  prior : ∃ entry ∈ batch.entries, entry.appId = binding.appId

structure ValidBindings (batch : ParpAppPriorBatch) (bindings : BindingArray) : Prop where
  countLe : bindings.nrBindings ≤ parpMaxDomains
  nonNull : bindings.nrBindings ≠ 0 → bindings.isNull = false
  each : ∀ binding ∈ bindings.toList, BindingOk batch binding
  domains : (bindings.toList.map ParpBinding.domainId).Nodup

theorem validateEntries_ok (nrEntries : ℕ) (seen rest : List ParpAppPrior) (foreground n : ℕ)
    (hseen : seen.Pairwise Distinct) :
    parpValidateEntries nrEntries seen rest foreground = .ok n ↔
      (∀ entry ∈ rest, EntryOk nrEntries entry) ∧ (seen ++ rest).Pairwise Distinct ∧
        n = foreground + rest.countP (fun e => e.foreground) := by
  induction rest generalizing seen foreground with
  | nil =>
    simp only [parpValidateEntries, append_nil, countP_nil, Nat.add_zero]
    constructor
    · intro h
      exact ⟨by simp, hseen, (Except.ok.inj h).symm⟩
    · intro h
      rw [h.2.2]
  | cons entry rest ih =>
    unfold parpValidateEntries
    split_ifs with hbad hdup
    · constructor
      · intro h
        cases h
      · intro h
        have hentry := h.1 entry (by simp)
        simp [hentry.valid, hentry.appId, Nat.not_lt.2 hentry.score, hentry.rankPos,
          Nat.not_lt.2 hentry.rankLe] at hbad
    · constructor
      · intro h
        cases h
      · intro h
        obtain ⟨e, he, heq⟩ := hdup
        have hne := (pairwise_append.1 h.2.1).2.2 e he entry (by simp)
        exact (heq.elim hne.1 hne.2).elim
    · have hentry : EntryOk nrEntries entry := by
        simp only [not_or, gt_iff_lt, Bool.not_eq_false, Nat.not_lt] at hbad
        exact ⟨hbad.1, hbad.2.1, hbad.2.2.1, hbad.2.2.2.1, hbad.2.2.2.2⟩
      have hnext : (seen ++ [entry]).Pairwise Distinct := by
        rw [pairwise_append]
        refine ⟨hseen, pairwise_singleton _ _, ?_⟩
        intro e he b hb
        rw [mem_singleton.1 hb]
        exact ⟨fun h => hdup ⟨e, he, .inl h⟩, fun h => hdup ⟨e, he, .inr h⟩⟩
      have hcount : foreground + entry.foreground.toNat + rest.countP (fun e => e.foreground) =
          foreground + (entry :: rest).countP (fun e => e.foreground) := by
        rw [countP_cons]
        cases entry.foreground
        · simp
        · simp
          omega
      rw [ih _ _ hnext, hcount, append_assoc, singleton_append]
      simp [hentry]

theorem validatePriorBatch_ok (batch : ParpAppPriorBatch) (nowNs : UInt64) :
    parpValidatePriorBatch (some batch) nowNs = .ok () ↔ ValidBatch batch nowNs := by
  have hloop := fun n => validateEntries_ok batch.nrEntries [] batch.entries 0 n List.Pairwise.nil
  simp only [nil_append, Nat.zero_add] at hloop
  simp only [parpValidatePriorBatch]
  split_ifs with hheader htime hws
  · constructor
    · intro h
      cases h
    · intro h
      have := h.countLe
      simp [h.schema, h.model, h.generation, h.flags, h.count] at hheader
      omega
  · constructor
    · intro h
      cases h
    · intro h
      simp [h.timestamp, UInt64.not_lt.2 h.fresh, UInt64.not_le.2 h.expiry, UInt64.not_lt.2 h.ttl,
        h.horizon, UInt64.not_lt.2 h.horizonLe] at htime
  · constructor
    · intro h
      cases h
    · intro h
      exact absurd hws h.workingset
  · simp only [not_or, not_not, gt_iff_lt, Nat.not_lt, UInt64.not_lt, UInt64.not_le] at hheader htime
    obtain ⟨hschema, hmodel, hgen, hflags, hcount, hcountLe⟩ := hheader
    obtain ⟨hts, hfresh, hexp, httl, hhor, hhorLe⟩ := htime
    constructor
    · intro h
      cases hrun : parpValidateEntries batch.nrEntries [] batch.entries 0 with
      | error e => simp [hrun] at h
      | ok n =>
        obtain ⟨hentries, hdistinct, hn⟩ := (hloop n).1 hrun
        have hfg : ¬ n > 1 := by
          intro hgt
          simp [hrun, hgt] at h
        exact ⟨hschema, hmodel, hgen, hflags, hcount, hcountLe, hts, hfresh, hexp, httl, hhor,
          hhorLe, hws, hentries, hdistinct, by omega⟩
    · intro h
      have hrun := (hloop _).2 ⟨h.entries, h.distinct, rfl⟩
      have hfg := h.foreground
      rw [hrun]
      simp only [gt_iff_lt]
      rw [if_neg (by omega)]

theorem validateBindingLoop_ok (batch : ParpAppPriorBatch) (seen rest : List ParpBinding)
    (hseen : (seen.map ParpBinding.domainId).Nodup) :
    parpValidateBindingLoop batch seen rest = .ok () ↔
      (∀ binding ∈ rest, BindingOk batch binding) ∧
        ((seen ++ rest).map ParpBinding.domainId).Nodup := by
  induction rest generalizing seen with
  | nil => simp [parpValidateBindingLoop, hseen]
  | cons binding rest ih =>
    unfold parpValidateBindingLoop
    split_ifs with hbad hprior hdup
    · constructor
      · intro h
        cases h
      · intro h
        have hb := h.1 binding (by simp)
        simp [hb.active, hb.domainId, hb.appId, hb.generation, hb.model, hb.expiry] at hbad
    · constructor
      · intro h
        cases h
      · intro h
        obtain ⟨b, hb, heq⟩ := hdup
        have hdisj := (nodup_append.1 (map_append ▸ h.2)).2.2
        exact absurd heq (hdisj _ (mem_map_of_mem hb) _ (by simp))
    · have hbinding : BindingOk batch binding := by
        simp only [not_or, not_not, Bool.not_eq_false] at hbad
        obtain ⟨h1, h2, h3, h4, h5, h6⟩ := hbad
        exact ⟨h1, h2, h3, h4, h5, h6, hprior⟩
      have hnext : ((seen ++ [binding]).map ParpBinding.domainId).Nodup := by
        rw [map_append, nodup_append]
        refine ⟨hseen, by simp, ?_⟩
        intro d hd d' hd' heq
        obtain ⟨b, hb, rfl⟩ := mem_map.1 hd
        have : d' = binding.domainId := by simpa using hd'
        exact hdup ⟨b, hb, heq.trans this⟩
      rw [ih _ hnext, append_assoc, singleton_append]
      simp [hbinding]
    · constructor
      · intro h
        cases h
      · intro h
        exact absurd (h.1 binding (by simp)).prior hprior

theorem validateBindings_ok (batch : ParpAppPriorBatch) (bindings : BindingArray) :
    parpValidateBindings batch bindings = .ok () ↔ ValidBindings batch bindings := by
  have hloop := validateBindingLoop_ok batch [] bindings.toList nodup_nil
  rw [nil_append] at hloop
  unfold parpValidateBindings
  split_ifs with hbad
  · constructor
    · intro h
      cases h
    · intro h
      rcases hbad with hbad | ⟨hne, hnull⟩
      · have := h.countLe
        omega
      · rw [h.nonNull hne] at hnull
        cases hnull
  · simp only [not_or, not_and, Nat.not_lt, gt_iff_lt, Bool.not_eq_true] at hbad
    rw [hloop]
    constructor
    · intro h
      exact ⟨hbad.1, hbad.2, h.1, h.2⟩
    · intro h
      exact ⟨h.each, h.domains⟩

theorem ValidBatch.withGeneration {batch : ParpAppPriorBatch} {nowNs laterNs : UInt64}
    (h : ValidBatch batch nowNs) {generation : UInt32} (hgen : generation ≠ 0)
    (hfresh : batch.timestampNs ≤ laterNs + 5 * nsecPerSec) :
    ValidBatch { batch with predictionGeneration := generation } laterNs :=
  ⟨h.schema, h.model, hgen, h.flags, h.count, h.countLe, h.timestamp, hfresh, h.expiry, h.ttl,
    h.horizon, h.horizonLe, h.workingset, h.entries, h.distinct, h.foreground⟩

theorem ranks_perm {batch : ParpAppPriorBatch} {nowNs : UInt64} (h : ValidBatch batch nowNs) :
    (batch.entries.map (fun e => e.rank.toNat)).Perm (List.range' 1 batch.nrEntries) := by
  have hnodup : (batch.entries.map (fun e => e.rank.toNat)).Nodup := by
    rw [List.Nodup, pairwise_map]
    refine h.distinct.imp ?_
    intro a b hab heq
    exact hab.2 (UInt16.toNat_inj.1 heq)
  have hsub : batch.entries.map (fun e => e.rank.toNat) ⊆ List.range' 1 batch.nrEntries := by
    intro r hr
    obtain ⟨e, he, rfl⟩ := mem_map.1 hr
    have hok := h.entries e he
    have hpos : e.rank.toNat ≠ 0 := fun h0 => hok.rankPos (UInt16.toNat_inj.1 h0)
    have hle := hok.rankLe
    rw [mem_range'_1]
    omega
  refine (subperm_of_subset hnodup hsub).perm_of_length_le ?_
  simp [ParpAppPriorBatch.nrEntries]

end Parp.SnapshotValidation
