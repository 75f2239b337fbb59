import Parp.ScanBudget
import Parp.SnapshotUpdates
import Mathlib.Data.List.Find

set_option autoImplicit false

/-!
# The two context readers

`parp_context_lookup` and `parp_snapshot_fill_scan_budget_input` over the same snapshot. Once a
prediction batch has been stored, every prior carries that batch's stamps and the snapshot expires
with it, so the readers' different tests come to the same.
-/
namespace Parp.ContextReaders

open Snapshot SnapshotValidation SnapshotUpdates ScanBudgetInput KeyedTable TransitionRuns

def BindsGeneration : SnapshotOp → Prop
  | .updateBinding binding _ => binding.bindGeneration ≠ 0
  | _ => True

structure PriorStamped (s : ParpSnapshot) (prior : ParpAppPrior) : Prop where
  valid : prior.valid = true
  expiry : prior.expiresNs = s.predictionExpiryNs
  model : prior.modelVersion = s.predictionModelVersion.toUInt64
  generation : prior.predictionGeneration = s.predictionGeneration

/-- What a snapshot with a prediction generation keeps until the next batch. -/
structure Stamped (s : ParpSnapshot) : Prop where
  expires : s.expiresNs = s.predictionExpiryNs
  expiresNonzero : s.expiresNs ≠ 0
  priors : ∀ prior ∈ s.priors, PriorStamped s prior

structure ReadersInv (active : Active) : Prop where
  stamped : ∀ s ∈ active, s.predictionGeneration ≠ 0 → Stamped s
  bound : ∀ binding ∈ bindingsOf active, binding.bindGeneration ≠ 0

theorem readersInv_none : ReadersInv none where
  stamped s hs := by cases hs
  bound binding hb := by cases hb

theorem expiry_ne_zero {batch : ParpAppPriorBatch} {nowNs : UInt64} (h : ValidBatch batch nowNs) :
    batch.expiryNs ≠ 0 := by
  intro hzero
  have hlt := h.expiry
  rw [hzero] at hlt
  exact absurd hlt (UInt64.not_lt.2 UInt64.zero_le)

theorem stamped_batch (new : ParpSnapshot) {batch : ParpAppPriorBatch} {nowNs : UInt64}
    (h : ValidBatch batch nowNs) (bindings : List ParpBinding) :
    Stamped { withBatch new batch with bindings := bindings } where
  expires := rfl
  expiresNonzero := expiry_ne_zero h
  priors := by
    intro prior hp
    obtain ⟨entry, hentry, rfl⟩ := List.mem_map.1 hp
    exact ⟨(h.entries entry hentry).valid, rfl, rfl, rfl⟩

theorem stamped_cloned (s : ParpSnapshot) (nowNs : UInt64) (h : Stamped s)
    (bindings : List ParpBinding) :
    Stamped { cloned (some s) nowNs with bindings := bindings } where
  expires := by
    have hkeep : (cloned (some s) nowNs).expiresNs = s.expiresNs :=
      if_neg (by simp [h.expiresNonzero])
    exact hkeep.trans h.expires
  expiresNonzero := by
    have hkeep : (cloned (some s) nowNs).expiresNs = s.expiresNs :=
      if_neg (by simp [h.expiresNonzero])
    exact hkeep ▸ h.expiresNonzero
  priors prior hp := by
    obtain ⟨hvalid, hexpiry, hmodel, hgeneration⟩ := h.priors prior hp
    exact ⟨hvalid, hexpiry, hmodel, hgeneration⟩

theorem readersInv_updateBinding (active : Active) (binding : ParpBinding) (env : CloneEnv)
    (h : ReadersInv active) (hgen : binding.bindGeneration ≠ 0) :
    ReadersInv (parpSnapshotUpdateBinding active binding env).2 := by
  cases halloc : env.allocated with
  | false => rwa [updateBinding_failed active binding env halloc]
  | true =>
    rw [updateBinding_allocated active binding env halloc]
    constructor
    · intro s hs hs0
      obtain rfl := Option.some.inj hs
      cases active with
      | none => exact absurd rfl hs0
      | some old => exact stamped_cloned old env.nowNs (h.stamped old rfl hs0) _
    · intro b hb
      rcases mem_upsert hb with rfl | hold
      · exact hgen
      · exact h.bound b hold

theorem readersInv_updatePrior (active : Active) (prior : ParpAppPrior) (env : CloneEnv)
    (h : ReadersInv active) : ReadersInv (parpSnapshotUpdatePrior active prior env).2 := by
  by_cases hgen : generationOf active = 0
  · cases halloc : env.allocated with
    | false => rwa [updatePrior_failed active prior env hgen halloc]
    | true =>
      rw [updatePrior_allocated active prior env hgen halloc]
      constructor
      · intro s hs hs0
        obtain rfl := Option.some.inj hs
        exact absurd hgen hs0
      · exact h.bound
  · rwa [updatePrior_busy active prior env hgen]

theorem readersInv_step (active : Active) (op : SnapshotOp) (h : ReadersInv active)
    (hop : BindsGeneration op) : ReadersInv (snapshotStep active op).2 := by
  cases op with
  | updateBinding binding env => exact readersInv_updateBinding active binding env h hop
  | updatePrior prior env => exact readersInv_updatePrior active prior env h
  | replacePriorBatch batch env =>
    change ReadersInv (parpSnapshotReplacePriorBatch active batch env).2
    rcases replacePriorBatch_cases active batch env with ⟨e, he⟩ | ⟨b, -, hb, -, hok⟩
    · rwa [he]
    · rw [hok]
      constructor
      · intro s hs _
        obtain rfl := Option.some.inj hs
        exact stamped_batch (cloned active env.clone.nowNs) hb (bindingsOf active)
      · exact h.bound
  | replaceState batch bindings env =>
    change ReadersInv (parpSnapshotReplaceState active batch bindings env).2
    rcases replaceState_cases active batch bindings env with ⟨e, he⟩ | ⟨b, -, hb, hbs, -, hok⟩
    · rwa [he]
    · rw [hok]
      constructor
      · intro s hs _
        obtain rfl := Option.some.inj hs
        exact stamped_batch (cloned active env.clone.nowNs) hb bindings.toList
      · intro binding hbinding
        exact (hbs.each binding hbinding).generation

theorem readersInv_after (ops : List SnapshotOp) (hops : ∀ op ∈ ops, BindsGeneration op) :
    ReadersInv (after snapshotStep none ops) :=
  after_invariant_along readersInv_step readersInv_none ops
    (along_of_forall snapshotStep none hops)

section

variable {s : ParpSnapshot} {domainId nowNs : UInt64}

theorem find_prior_stamped (h : Stamped s) (appId : UInt32) :
    s.priors.find? (fun p => p.valid && decide (p.appId = appId)) =
      s.priors.find? (fun p => decide (p.appId = appId)) := by
  apply List.find?_congr
  intro prior hp
  rw [(h.priors prior hp).valid, Bool.true_and]

theorem lookup_found (h : Stamped s) {binding : ParpBinding} {prior : ParpAppPrior}
    (hb : s.bindings.find? (fun b => b.active && decide (b.domainId = domainId)) = some binding)
    (hp : s.priors.find? (fun p => decide (p.appId = binding.appId)) = some prior) :
    parpContextLookup (some s) domainId nowNs =
      if nowNs < s.predictionExpiryNs ∧ nowNs < binding.expiresNs ∧
          binding.modelVersion = s.predictionModelVersion.toUInt64 then
        some (appContext domainId binding prior)
      else none := by
  have hstamp := h.priors prior (List.mem_of_find?_eq_some hp)
  have hvalid := (find_prior_stamped h binding.appId).trans hp
  simp only [parpContextLookup, hb, hvalid, h.expires, hstamp.expiry, hstamp.model, ge_iff_le]
  by_cases hlive : nowNs < s.predictionExpiryNs
  · by_cases hbound : nowNs < binding.expiresNs
    · by_cases hmodel : binding.modelVersion = s.predictionModelVersion.toUInt64
      · simp [hlive, hbound, hmodel]
      · simp [hlive, hbound, hmodel, Ne.symm hmodel]
    · simp [hlive, hbound, UInt64.not_lt.1 hbound]
  · simp [hlive, UInt64.not_lt.1 hlive]

theorem lookup_noBinding
    (hb : s.bindings.find? (fun b => b.active && decide (b.domainId = domainId)) = none) :
    parpContextLookup (some s) domainId nowNs = none := by
  simp only [parpContextLookup, hb, ite_self]

theorem lookup_noPrior (h : Stamped s) {binding : ParpBinding}
    (hb : s.bindings.find? (fun b => b.active && decide (b.domainId = domainId)) = some binding)
    (hp : s.priors.find? (fun p => decide (p.appId = binding.appId)) = none) :
    parpContextLookup (some s) domainId nowNs = none := by
  have hvalid := (find_prior_stamped h binding.appId).trans hp
  simp only [parpContextLookup, hb, hvalid, ite_self]

end

/-- The lookup finds a context exactly when the fill sets every context flag, and the two agree. -/
theorem context_readers_agree (ops : List SnapshotOp) (hops : ∀ op ∈ ops, BindsGeneration op)
    (s : ParpSnapshot) (hs : after snapshotStep none ops = some s)
    (hactive : s.predictionGeneration ≠ 0) (domainId nowNs : UInt64) (input : ParpScanBudgetInput)
    (hclear : input.flags &&& contextFlags = 0) :
    ((parpContextLookup (some s) domainId nowNs).isSome = true ↔
      ContextValid (parpSnapshotFillScanBudgetInput (some s) domainId nowNs input)) ∧
    ∀ context ∈ parpContextLookup (some s) domainId nowNs,
      context.appId = (parpSnapshotFillScanBudgetInput (some s) domainId nowNs input).appId ∧
      context.appPriorQ15 =
        (parpSnapshotFillScanBudgetInput (some s) domainId nowNs input).appUseScoreQ15 ∧
      context.appRank =
        (parpSnapshotFillScanBudgetInput (some s) domainId nowNs input).appRank := by
  have hinv := readersInv_after ops hops
  rw [hs] at hinv
  have hstamped := hinv.stamped s rfl hactive
  cases hb : s.bindings.find? (fun b => b.active && decide (b.domainId = domainId)) with
  | none =>
    rw [lookup_noBinding hb, fill_noBinding hb]
    have hno := contextValid_clear hclear
    simp [hno]
  | some binding =>
    cases hp : s.priors.find? (fun p => decide (p.appId = binding.appId)) with
    | none =>
      rw [lookup_noPrior hstamped hb hp, fill_noPrior hb hp]
      have hno : ¬ ContextValid
          (fillMetadata s binding none (fillBinding binding nowNs input)) :=
        contextValid_noPrior hclear
      simp [hno]
    | some prior =>
      have hgen := hinv.bound binding (List.mem_of_find?_eq_some hb)
      have hstamp := hstamped.priors prior (List.mem_of_find?_eq_some hp)
      rw [lookup_found hstamped hb hp, fill_found hb hp, contextValid_found prior hclear]
      constructor
      · simp only [Option.isSome_ite, hgen, hstamp.valid, hstamp.generation, hstamp.model,
          hactive, ne_eq, not_false_eq_true, true_and, and_true]
        constructor
        · rintro ⟨hlive, hbound, hmodel⟩
          exact ⟨hbound, hlive, hmodel⟩
        · rintro ⟨hbound, hlive, hmodel⟩
          exact ⟨hlive, hbound, hmodel⟩
      · intro context hcontext
        split_ifs at hcontext with hall
        · obtain rfl := Option.some.inj hcontext
          exact ⟨rfl, rfl, rfl⟩
        · cases hcontext

def boundTwice : List SnapshotOp :=
  [.replaceState
      (some { schemaVersion := 1, modelVersion := 1, predictionGeneration := 1, timestampNs := 1,
              horizonNs := 1, expiryNs := 1000,
              entries := [{ appId := 5, useScoreQ15 := 100, rank := 1, valid := true }] })
      (.array [{ domainId := 7, appId := 5, bindGeneration := 1, expiresNs := 1000,
                 modelVersion := 1, active := true }])
      ⟨10, ⟨true, 10⟩⟩,
    .updateBinding { domainId := 8, appId := 5, bindGeneration := 2, expiresNs := 500,
                     modelVersion := 1, active := true } ⟨true, 20⟩]

theorem boundTwice_readers_agree :
    (parpContextLookup (after snapshotStep none boundTwice) 8 499).isSome = true ∧
      ((parpContextLookup (after snapshotStep none boundTwice) 8 499).isSome = true ↔
        ContextValid (parpSnapshotFillScanBudgetInput (after snapshotStep none boundTwice) 8 499
          {})) :=
  ⟨by decide, (context_readers_agree boundTwice (by simp [boundTwice, BindsGeneration])
    ((after snapshotStep none boundTwice).get (by decide)) (by decide) (by decide) 8 499 {}
    (by decide)).1⟩

end Parp.ContextReaders
