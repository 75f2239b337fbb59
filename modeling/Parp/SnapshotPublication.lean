import Parp.SnapshotUpdates
import Mathlib.Order.Nat

set_option autoImplicit false

namespace Parp.SnapshotPublication

open Snapshot SnapshotValidation SnapshotUpdates TransitionRuns

inductive ReplaceCall
  | priorBatch (batch : Option ParpAppPriorBatch) (env : ReplaceEnv)
  | state (batch : Option ParpAppPriorBatch) (bindings : BindingArray) (env : ReplaceEnv)

def replaceStep (active : Active) : ReplaceCall → Except Errno Unit × Active
  | .priorBatch batch env => parpSnapshotReplacePriorBatch active batch env
  | .state batch bindings env => parpSnapshotReplaceState active batch bindings env

def ReplaceCall.Valid : ReplaceCall → ParpAppPriorBatch → Prop
  | .priorBatch batch env, b => batch = some b ∧ ValidBatch b env.nowNs
  | .state batch bindings env, b =>
    batch = some b ∧ ValidBatch b env.nowNs ∧ ValidBindings b bindings

def WorkingsetAllOrNothing (s : ParpSnapshot) : Prop :=
  (s.workingsetValid = true ∧ s.predictionPolicyDomainId ≠ 0 ∧ s.predictedWorkingsetBytes ≠ 0 ∧
    s.predictedResidentBytes ≤ s.predictedWorkingsetBytes ∧ 0 < s.workingsetConfidenceQ15 ∧
    s.workingsetConfidenceQ15.toNat ≤ parpQ15One ∧ s.workingsetEstimatorVersion ≠ 0) ∨
  (s.workingsetValid = false ∧ s.predictionPolicyDomainId = 0 ∧ s.predictedWorkingsetBytes = 0 ∧
    s.predictedResidentBytes = 0 ∧ s.workingsetConfidenceQ15 = 0 ∧
    s.workingsetEstimatorVersion = 0)

structure PublishedState (batch : ParpAppPriorBatch) (s : ParpSnapshot) : Prop where
  generation : s.predictionGeneration = batch.predictionGeneration
  ranks : (s.priors.map (fun p => p.rank.toNat)).Perm (List.range' 1 s.nrPriors)
  apps : (s.priors.map ParpAppPrior.appId).Nodup
  foreground : s.priors.countP (fun p => p.foreground) ≤ 1
  domains : (s.bindings.map ParpBinding.domainId).Nodup
  boundApps : ∀ b ∈ s.bindings, ∃ p ∈ s.priors, p.appId = b.appId
  priorStamps : ∀ p ∈ s.priors,
    p.modelVersion = batch.modelVersion.toUInt64 ∧ p.expiresNs = batch.expiryNs
  bindingStamps : ∀ b ∈ s.bindings,
    b.modelVersion = batch.modelVersion.toUInt64 ∧ b.expiresNs = batch.expiryNs
  workingset : WorkingsetAllOrNothing s

theorem workingset_allOrNothing {batch : ParpAppPriorBatch} {nowNs : UInt64}
    (h : ValidBatch batch nowNs) (s : ParpSnapshot) :
    WorkingsetAllOrNothing (withBatch s batch) := by
  have hok := h.workingset
  unfold ParpAppPriorBatch.WorkingsetBad WorkingsetFieldsBad at hok
  unfold WorkingsetAllOrNothing withBatch
  by_cases hflag : batch.flags &&& parpAppPriorBatchWorkingsetValid = 0
  · right
    simpa [hflag] using hok
  · left
    rw [if_pos hflag] at hok
    simp only [not_or, gt_iff_lt, UInt64.not_lt, Nat.not_lt] at hok
    obtain ⟨hdomain, hbytes, hres, hconf, hconfLe, hest⟩ := hok
    refine ⟨by simpa using hflag, hdomain, hbytes, hres, ?_, hconfLe, hest⟩
    exact UInt16.pos_iff_ne_zero.2 hconf

theorem publishedState {batch : ParpAppPriorBatch} {bindings : BindingArray} {nowNs : UInt64}
    (h : ValidBatch batch nowNs) (hb : ValidBindings batch bindings) (new : ParpSnapshot) :
    PublishedState batch { withBatch new batch with bindings := bindings.toList } where
  generation := rfl
  ranks := by
    have hperm := ranks_perm h
    simpa [withBatch, ParpSnapshot.nrPriors, ParpAppPriorBatch.nrEntries, storedPrior,
      Function.comp_def] using hperm
  apps := keyed_storedPriors h
  foreground := by
    have hfg := h.foreground
    simpa [withBatch, storedPrior, List.countP_map, Function.comp_def] using hfg
  domains := hb.domains
  boundApps := by
    intro b hmem
    obtain ⟨e, he, hek⟩ := (hb.each b hmem).prior
    exact ⟨storedPrior batch e, List.mem_map_of_mem he, hek⟩
  priorStamps := by
    intro p hp
    obtain ⟨e, -, rfl⟩ := List.mem_map.1 hp
    exact ⟨rfl, rfl⟩
  bindingStamps := by
    intro b hmem
    exact ⟨(hb.each b hmem).model, (hb.each b hmem).expiry⟩
  workingset := workingset_allOrNothing h new

variable (active : Active) (batch : ParpAppPriorBatch)

theorem replaceStep_cases (call : ReplaceCall) :
    (∃ e, replaceStep active call = (.error e, active)) ∨
      ∃ batch s, call.Valid batch ∧ generationGate active batch = .ok () ∧
        replaceStep active call = (.ok (), some s) ∧
        s.predictionGeneration = batch.predictionGeneration := by
  cases call with
  | priorBatch batch env =>
    rcases replacePriorBatch_cases active batch env with he | ⟨b, rfl, hb, hg, hok⟩
    · exact .inl he
    · exact .inr ⟨b, _, ⟨rfl, hb⟩, hg, hok, rfl⟩
  | state batch bindings env =>
    rcases replaceState_cases active batch bindings env with he | ⟨b, rfl, hb, hbs, hg, hok⟩
    · exact .inl he
    · exact .inr ⟨b, _, ⟨rfl, hb, hbs⟩, hg, hok, rfl⟩

variable {call : ReplaceCall}

theorem valid_generation {batch : ParpAppPriorBatch} (h : call.Valid batch) :
    batch.predictionGeneration ≠ 0 := by
  cases call with
  | priorBatch b env => exact h.2.generation
  | state b bindings env => exact h.2.1.generation

theorem gate_ok {active : Active} {batch : ParpAppPriorBatch}
    (h : generationGate active batch = .ok ()) (hgen : batch.predictionGeneration ≠ 0) :
    generationOf active < batch.predictionGeneration := by
  cases active with
  | none => exact UInt32.pos_iff_ne_zero.2 hgen
  | some s =>
    unfold generationGate at h
    dsimp only at h
    split_ifs at h with hle
    exact UInt32.not_le.1 hle

theorem accepted_generation {active : Active} (h : (replaceStep active call).1 = .ok ()) :
    generationOf active < generationOf (replaceStep active call).2 := by
  rcases replaceStep_cases active call with ⟨e, he⟩ | ⟨batch, s, hvalid, hgate, hok, hgen⟩
  · rw [he] at h
    cases h
  · rw [hok, generationOf_some, hgen]
    exact gate_ok hgate (valid_generation hvalid)

theorem generation_le (call : ReplaceCall) :
    generationOf active ≤ generationOf (replaceStep active call).2 := by
  rcases replaceStep_cases active call with ⟨e, he⟩ | ⟨batch, s, -, -, hok, -⟩
  · rw [he]
    exact UInt32.le_refl _
  · exact UInt32.le_of_lt (accepted_generation (by rw [hok]))

theorem valid_step {batch : ParpAppPriorBatch} (h : call.Valid batch) :
    ∃ env build, replaceStep active call = publishGated active batch env build := by
  cases call with
  | priorBatch b env =>
    obtain ⟨rfl, hb⟩ := h
    exact ⟨_, _, replacePriorBatch_valid active batch env hb⟩
  | state b bindings env =>
    obtain ⟨rfl, hb, hbs⟩ := h
    exact ⟨_, _, replaceState_valid active batch bindings env hb hbs⟩

theorem publishGated_error (env : CloneEnv)
    (build : ParpSnapshot → ParpSnapshot) {e : Errno} (hne : e ≠ .enomem) :
    (publishGated active batch env build).1 = .error e ↔ generationGate active batch = .error e := by
  unfold publishGated
  cases hgate : generationGate active batch with
  | error e' => simp
  | ok u =>
    cases halloc : env.allocated with
    | false =>
      rw [clone_failed active env halloc]
      simp [hne.symm]
    | true =>
      rw [clone_allocated active env halloc]

theorem gate_ealready :
    generationGate active batch = .error .ealready ↔
      ∃ s ∈ active, batch.predictionGeneration = s.predictionGeneration := by
  cases active with
  | none => simp [generationGate]
  | some s =>
    by_cases heq : batch.predictionGeneration = s.predictionGeneration
    · simp [generationGate, heq]
    · by_cases hle : batch.predictionGeneration ≤ s.predictionGeneration
      · simp [generationGate, heq, hle]
      · simp [generationGate, heq, hle]

theorem gate_estale :
    generationGate active batch = .error .estale ↔
      ∃ s ∈ active, batch.predictionGeneration < s.predictionGeneration := by
  cases active with
  | none => simp [generationGate]
  | some s =>
    by_cases heq : batch.predictionGeneration = s.predictionGeneration
    · simp [generationGate, heq]
    · by_cases hle : batch.predictionGeneration ≤ s.predictionGeneration
      · simp [generationGate, heq, hle, UInt32.lt_of_le_of_ne hle heq]
      · have hlt : ¬ batch.predictionGeneration < s.predictionGeneration := by
          intro h
          exact hle (UInt32.le_of_lt h)
        simp [generationGate, hle, hlt]

structure CallLaw (active : Active) (call : ReplaceCall) : Prop where
  unchanged : ∀ e, (replaceStep active call).1 = .error e → (replaceStep active call).2 = active
  ealready : ∀ batch, call.Valid batch → ((replaceStep active call).1 = .error .ealready ↔
    ∃ s ∈ active, batch.predictionGeneration = s.predictionGeneration)
  estale : ∀ batch, call.Valid batch → ((replaceStep active call).1 = .error .estale ↔
    ∃ s ∈ active, batch.predictionGeneration < s.predictionGeneration)
  published : ∀ batch bindings env, call = .state batch bindings env →
    (replaceStep active call).1 = .ok () →
    ∃ b s, batch = some b ∧ (replaceStep active call).2 = some s ∧ PublishedState b s

theorem callLaw (call : ReplaceCall) : CallLaw active call where
  unchanged := by
    intro e h
    rcases replaceStep_cases active call with ⟨e', he⟩ | ⟨batch, s, -, -, hok, -⟩
    · rw [he]
    · rw [hok] at h
      cases h
  ealready := by
    intro batch hvalid
    obtain ⟨env, build, hstep⟩ := valid_step active hvalid
    rw [hstep, publishGated_error active batch env build (by decide)]
    exact gate_ealready active batch
  estale := by
    intro batch hvalid
    obtain ⟨env, build, hstep⟩ := valid_step active hvalid
    rw [hstep, publishGated_error active batch env build (by decide)]
    exact gate_estale active batch
  published := by
    rintro batch bindings env rfl h
    change (parpSnapshotReplaceState active batch bindings env).1 = _ at h
    change ∃ b s, _ ∧ (parpSnapshotReplaceState active batch bindings env).2 = _ ∧ _
    rcases replaceState_cases active batch bindings env with ⟨e, he⟩ | ⟨b, hb, hv, hvb, -, hok⟩
    · rw [he] at h
      cases h
    · rw [hok]
      exact ⟨b, _, hb, rfl, publishedState hv hvb _⟩

/-- Atomic, generation-ordered publication over every history from every snapshot: each call
obeys its law, and of two accepted calls the later leaves the larger generation. -/
theorem publication_history (active : Active) (calls : List ReplaceCall) :
    Along replaceStep CallLaw active calls ∧
      ∀ left call middle next right, calls = left ++ call :: middle ++ next :: right →
        (replaceStep (after replaceStep active left) call).1 = .ok () →
        (replaceStep (after replaceStep active (left ++ call :: middle)) next).1 = .ok () →
        generationOf (after replaceStep active left) <
            generationOf (after replaceStep active (left ++ [call])) ∧
          generationOf (after replaceStep active (left ++ [call])) <
            generationOf (after replaceStep active (left ++ call :: middle ++ [next])) := by
  constructor
  · rw [along_iff_split]
    intro left call right _
    exact callLaw _ call
  · intro left call middle next right _ hcall hnext
    have hfirst := accepted_generation hcall
    have hlast := accepted_generation hnext
    have hmiddle : generationOf (after replaceStep active (left ++ [call])) ≤
        generationOf (after replaceStep active (left ++ call :: middle)) := by
      have hsplit : left ++ call :: middle = (left ++ [call]) ++ middle := by simp
      rw [hsplit, after_append replaceStep active (left ++ [call])]
      exact le_after (fun s => (generationOf s).toNat) generation_le _ middle
    rw [← after_concat] at hfirst hlast
    exact ⟨hfirst, UInt32.lt_of_le_of_lt hmiddle hlast⟩

end Parp.SnapshotPublication
