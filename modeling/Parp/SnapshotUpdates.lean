import Parp.Snapshot

set_option autoImplicit false

/-!
# What each update of the snapshot does
-/
namespace Parp.SnapshotUpdates

open Snapshot SnapshotValidation KeyedTable

/-- Every update of the active snapshot, with its argument and what it reads from outside. -/
inductive SnapshotOp
  | updateBinding (binding : ParpBinding) (env : CloneEnv)
  | updatePrior (prior : ParpAppPrior) (env : CloneEnv)
  | replacePriorBatch (batch : Option ParpAppPriorBatch) (env : ReplaceEnv)
  | replaceState (batch : Option ParpAppPriorBatch) (bindings : BindingArray) (env : ReplaceEnv)

def snapshotStep (active : Active) : SnapshotOp → Except Errno Unit × Active
  | .updateBinding binding env => parpSnapshotUpdateBinding active binding env
  | .updatePrior prior env => parpSnapshotUpdatePrior active prior env
  | .replacePriorBatch batch env => parpSnapshotReplacePriorBatch active batch env
  | .replaceState batch bindings env => parpSnapshotReplaceState active batch bindings env

/-- The clone of the active snapshot, when `kzalloc` succeeds. -/
def cloned (active : Active) (nowNs : UInt64) : ParpSnapshot :=
  let old : ParpSnapshot := active.getD {}
  { old with
    version := old.version + 1
    createdNs := nowNs
    expiresNs :=
      if active = none ∨ old.expiresNs = 0 then nowNs + 300 * nsecPerSec else old.expiresNs }

variable (active : Active) (prior : ParpAppPrior) (env : CloneEnv)

theorem clone_allocated (env : CloneEnv) (h : env.allocated = true) :
    parpCloneSnapshot active env = some (cloned active env.nowNs) := by
  unfold parpCloneSnapshot
  rw [if_neg (by simp [h])]
  rfl

theorem clone_failed (env : CloneEnv) (h : env.allocated = false) :
    parpCloneSnapshot active env = none := by
  unfold parpCloneSnapshot
  rw [if_pos h]

def bindingsOf (active : Active) : List ParpBinding := (active.getD {}).bindings
def priorsOf (active : Active) : List ParpAppPrior := (active.getD {}).priors
def generationOf (active : Active) : UInt32 := (active.getD {}).predictionGeneration
def expiryOf (active : Active) : UInt64 := (active.getD {}).expiresNs

def bindingOf (active : Active) (domainId : UInt64) : Option ParpBinding :=
  lookup ParpBinding.domainId domainId (bindingsOf active)

def priorOf (active : Active) (appId : UInt32) : Option ParpAppPrior :=
  lookup ParpAppPrior.appId appId (priorsOf active)

@[simp] theorem bindingsOf_some (s : ParpSnapshot) : bindingsOf (some s) = s.bindings := rfl
@[simp] theorem priorsOf_some (s : ParpSnapshot) : priorsOf (some s) = s.priors := rfl
@[simp] theorem generationOf_some (s : ParpSnapshot) :
    generationOf (some s) = s.predictionGeneration := rfl
@[simp] theorem expiryOf_some (s : ParpSnapshot) : expiryOf (some s) = s.expiresNs := rfl

@[simp] theorem cloned_bindings (nowNs : UInt64) :
    (cloned active nowNs).bindings = bindingsOf active := rfl
@[simp] theorem cloned_priors (nowNs : UInt64) :
    (cloned active nowNs).priors = priorsOf active := rfl
@[simp] theorem cloned_generation (nowNs : UInt64) :
    (cloned active nowNs).predictionGeneration = generationOf active := rfl

theorem updateBinding_allocated (binding : ParpBinding) (env : CloneEnv)
    (h : env.allocated = true) :
    parpSnapshotUpdateBinding active binding env =
      (.ok (), some { cloned active env.nowNs with
        bindings := upsert ParpBinding.domainId parpMaxDomains binding (bindingsOf active) }) := by
  unfold parpSnapshotUpdateBinding
  rw [clone_allocated active env h]
  rfl

theorem updateBinding_failed (binding : ParpBinding) (env : CloneEnv)
    (h : env.allocated = false) :
    parpSnapshotUpdateBinding active binding env = (.error .enomem, active) := by
  unfold parpSnapshotUpdateBinding
  rw [clone_failed active env h]

theorem generationOf_eq_zero :
    generationOf active = 0 ↔ ¬ ∃ s ∈ active, s.predictionGeneration ≠ 0 := by
  cases active with
  | none => simp [generationOf]
  | some s => simp

theorem updatePrior_allocated (hgen : generationOf active = 0) (h : env.allocated = true) :
    parpSnapshotUpdatePrior active prior env =
      (.ok (), some { cloned active env.nowNs with
        priors := upsert ParpAppPrior.appId parpMaxApps prior (priorsOf active) }) := by
  unfold parpSnapshotUpdatePrior
  rw [if_neg ((generationOf_eq_zero active).1 hgen), clone_allocated active env h]
  rfl

theorem updatePrior_failed (hgen : generationOf active = 0) (h : env.allocated = false) :
    parpSnapshotUpdatePrior active prior env = (.error .enomem, active) := by
  unfold parpSnapshotUpdatePrior
  rw [if_neg ((generationOf_eq_zero active).1 hgen), clone_failed active env h]

theorem updatePrior_busy (hgen : generationOf active ≠ 0) :
    parpSnapshotUpdatePrior active prior env = (.error .ebusy, active) := by
  unfold parpSnapshotUpdatePrior
  rw [if_pos (not_not.1 fun h => hgen ((generationOf_eq_zero active).2 h))]

theorem publishGated_cases (batch : ParpAppPriorBatch) (env : CloneEnv)
    (build : ParpSnapshot → ParpSnapshot) :
    (∃ e, publishGated active batch env build = (.error e, active)) ∨
      generationGate active batch = .ok () ∧
        publishGated active batch env build = (.ok (), some (build (cloned active env.nowNs))) := by
  unfold publishGated
  cases hgate : generationGate active batch with
  | error e => exact .inl ⟨e, rfl⟩
  | ok u =>
    cases halloc : env.allocated with
    | false =>
      rw [clone_failed active env halloc]
      exact .inl ⟨_, rfl⟩
    | true =>
      rw [clone_allocated active env halloc]
      exact .inr ⟨rfl, rfl⟩

theorem replacePriorBatch_valid (batch : ParpAppPriorBatch) (env : ReplaceEnv)
    (h : ValidBatch batch env.nowNs) :
    parpSnapshotReplacePriorBatch active (some batch) env =
      publishGated active batch env.clone (fun new => withBatch new batch) := by
  unfold parpSnapshotReplacePriorBatch
  rw [(validatePriorBatch_ok batch env.nowNs).2 h]

theorem replaceState_valid (batch : ParpAppPriorBatch) (bindings : BindingArray)
    (env : ReplaceEnv) (h : ValidBatch batch env.nowNs) (hb : ValidBindings batch bindings) :
    parpSnapshotReplaceState active (some batch) bindings env =
      publishGated active batch env.clone
        (fun new => { withBatch new batch with bindings := bindings.toList }) := by
  unfold parpSnapshotReplaceState
  rw [(validatePriorBatch_ok batch env.nowNs).2 h]
  simp only [(validateBindings_ok batch bindings).2 hb]

theorem replacePriorBatch_cases (batch : Option ParpAppPriorBatch)
    (env : ReplaceEnv) :
    (∃ e, parpSnapshotReplacePriorBatch active batch env = (.error e, active)) ∨
      ∃ b, batch = some b ∧ ValidBatch b env.nowNs ∧ generationGate active b = .ok () ∧
        parpSnapshotReplacePriorBatch active batch env =
          (.ok (), some (withBatch (cloned active env.clone.nowNs) b)) := by
  cases batch with
  | none => exact .inl ⟨_, rfl⟩
  | some b =>
    by_cases h : ValidBatch b env.nowNs
    · rw [replacePriorBatch_valid active b env h]
      rcases publishGated_cases active b env.clone (fun new => withBatch new b) with he | ⟨hg, hp⟩
      · exact .inl he
      · exact .inr ⟨b, rfl, h, hg, hp⟩
    · left
      unfold parpSnapshotReplacePriorBatch
      cases hrun : parpValidatePriorBatch (some b) env.nowNs with
      | error e => exact ⟨e, rfl⟩
      | ok u => exact absurd ((validatePriorBatch_ok b env.nowNs).1 hrun) h

theorem replaceState_cases (batch : Option ParpAppPriorBatch)
    (bindings : BindingArray) (env : ReplaceEnv) :
    (∃ e, parpSnapshotReplaceState active batch bindings env = (.error e, active)) ∨
      ∃ b, batch = some b ∧ ValidBatch b env.nowNs ∧ ValidBindings b bindings ∧
        generationGate active b = .ok () ∧
        parpSnapshotReplaceState active batch bindings env =
          (.ok (), some { withBatch (cloned active env.clone.nowNs) b with
            bindings := bindings.toList }) := by
  cases batch with
  | none => exact .inl ⟨_, rfl⟩
  | some b =>
    by_cases h : ValidBatch b env.nowNs
    · by_cases hb : ValidBindings b bindings
      · rw [replaceState_valid active b bindings env h hb]
        rcases publishGated_cases active b env.clone
          (fun new => { withBatch new b with bindings := bindings.toList }) with he | ⟨hg, hp⟩
        · exact .inl he
        · exact .inr ⟨b, rfl, h, hb, hg, hp⟩
      · left
        unfold parpSnapshotReplaceState
        rw [(validatePriorBatch_ok b env.nowNs).2 h]
        cases hrun : parpValidateBindings b bindings with
        | error e => exact ⟨e, by simp only [hrun]⟩
        | ok u => exact absurd ((validateBindings_ok b bindings).1 hrun) hb
    · left
      unfold parpSnapshotReplaceState
      cases hrun : parpValidatePriorBatch (some b) env.nowNs with
      | error e => exact ⟨e, rfl⟩
      | ok u => exact absurd ((validatePriorBatch_ok b env.nowNs).1 hrun) h

structure TablesOk (active : Active) : Prop where
  bindings : Keyed ParpBinding.domainId (bindingsOf active)
  bindingsLe : (bindingsOf active).length ≤ parpMaxDomains
  priors : Keyed ParpAppPrior.appId (priorsOf active)
  priorsLe : (priorsOf active).length ≤ parpMaxApps

theorem tablesOk_none : TablesOk none where
  bindings := List.nodup_nil
  bindingsLe := Nat.zero_le _
  priors := List.nodup_nil
  priorsLe := Nat.zero_le _

theorem keyed_storedPriors {batch : ParpAppPriorBatch} {nowNs : UInt64}
    (h : ValidBatch batch nowNs) :
    Keyed ParpAppPrior.appId (batch.entries.map (storedPrior batch)) := by
  rw [Keyed, List.Nodup, List.pairwise_map, List.pairwise_map]
  exact h.distinct.imp And.left

theorem length_storedPriors {batch : ParpAppPriorBatch} {nowNs : UInt64}
    (h : ValidBatch batch nowNs) :
    (batch.entries.map (storedPrior batch)).length ≤ parpMaxApps := by
  rw [List.length_map]
  exact h.countLe

theorem tablesOk_step (op : SnapshotOp) (h : TablesOk active) :
    TablesOk (snapshotStep active op).2 := by
  cases op with
  | updateBinding binding env =>
    change TablesOk (parpSnapshotUpdateBinding active binding env).2
    cases halloc : env.allocated with
    | false => rwa [updateBinding_failed active binding env halloc]
    | true =>
      rw [updateBinding_allocated active binding env halloc]
      exact ⟨keyed_upsert (by decide) h.bindingsLe h.bindings,
        length_upsert_le (by decide) h.bindingsLe, h.priors, h.priorsLe⟩
  | updatePrior prior env =>
    change TablesOk (parpSnapshotUpdatePrior active prior env).2
    by_cases hgen : generationOf active = 0
    · cases halloc : env.allocated with
      | false => rwa [updatePrior_failed active prior env hgen halloc]
      | true =>
        rw [updatePrior_allocated active prior env hgen halloc]
        exact ⟨h.bindings, h.bindingsLe, keyed_upsert (by decide) h.priorsLe h.priors,
          length_upsert_le (by decide) h.priorsLe⟩
    · rwa [updatePrior_busy active prior env hgen]
  | replacePriorBatch batch env =>
    change TablesOk (parpSnapshotReplacePriorBatch active batch env).2
    rcases replacePriorBatch_cases active batch env with ⟨e, he⟩ | ⟨b, -, hb, -, hok⟩
    · rwa [he]
    · rw [hok]
      exact ⟨h.bindings, h.bindingsLe, keyed_storedPriors hb, length_storedPriors hb⟩
  | replaceState batch bindings env =>
    change TablesOk (parpSnapshotReplaceState active batch bindings env).2
    rcases replaceState_cases active batch bindings env with ⟨e, he⟩ | ⟨b, -, hb, hbs, -, hok⟩
    · rwa [he]
    · rw [hok]
      have hlen : bindings.toList.length ≤ parpMaxDomains := by
        cases bindings with
        | null n => exact Nat.zero_le _
        | array bs => exact hbs.countLe
      exact ⟨hbs.domains, hlen, keyed_storedPriors hb, length_storedPriors hb⟩

def Reachable (active : Active) : Prop := ∃ ops, active = TransitionRuns.after snapshotStep none ops

theorem tablesOk_reachable {active : Active} (h : Reachable active) : TablesOk active := by
  obtain ⟨ops, rfl⟩ := h
  exact TransitionRuns.after_invariant tablesOk_step tablesOk_none ops

end Parp.SnapshotUpdates

/-!
# The binding and prior tables as keyed maps
-/
namespace Parp.SnapshotTables

open Snapshot SnapshotUpdates KeyedTable

/-- A table update that behaves as a bounded keyed map: it keeps every other key, the result is
keyed and bounded, and a key without room is refused. -/
structure KeyedUpdate {α κ : Type} [DecidableEq κ] (key : α → κ) (capacity : ℕ) (entry : α)
    (before after : List α) (result : Except Errno Unit) : Prop where
  others : ∀ k, k ≠ key entry → lookup key k after = lookup key k before
  stored : result = .ok () → lookup key (key entry) after = some entry
  keyed : Keyed key after
  bounded : after.length ≤ capacity
  refused : ¬ Present key (key entry) before → capacity ≤ before.length →
    ∃ e, result = .error e

/-- The table is full and has no entry under the key of `entry`. -/
def NoRoom {α κ : Type} [DecidableEq κ] (key : α → κ) (capacity : ℕ) (entry : α)
    (table : List α) : Prop :=
  ¬ Present key (key entry) table ∧ capacity ≤ table.length

section

variable {α κ : Type} [DecidableEq κ] {key : α → κ} {capacity : ℕ}

theorem keyedUpdate_refused {entry : α} {table : List α} (hkeyed : Keyed key table)
    (hcap : table.length ≤ capacity) (e : Errno) :
    KeyedUpdate key capacity entry table table (.error e) where
  others _ _ := rfl
  stored h := by cases h
  keyed := hkeyed
  bounded := hcap
  refused _ _ := ⟨e, rfl⟩

theorem keyedUpdate_upsert {entry : α} {table : List α} (hpos : 0 < capacity)
    (hkeyed : Keyed key table) (hcap : table.length ≤ capacity) :
    KeyedUpdate key capacity entry table (upsert key capacity entry table) (.ok ()) ↔
      ¬ NoRoom key capacity entry table := by
  constructor
  · rintro h ⟨habsent, hfull⟩
    obtain ⟨e, he⟩ := h.refused habsent hfull
    cases he
  · intro hroom
    have hkeep : ∀ k, ¬ Evicts key capacity entry table k :=
      fun k hev => hroom ⟨hev.1, hev.2.1⟩
    exact {
      others := fun k hk => lookup_upsert_other hpos hcap hkeyed (Ne.symm hk) (hkeep k)
      stored := fun _ => by rw [lookup_upsert _ hpos hcap hkeyed, if_pos rfl]
      keyed := keyed_upsert hpos hcap hkeyed
      bounded := length_upsert_le hpos hcap
      refused := fun habsent hfull => absurd ⟨habsent, hfull⟩ hroom }

end

theorem updateBinding_keyed (active : Active) (binding : ParpBinding) (env : CloneEnv)
    (h : TablesOk active) :
    KeyedUpdate ParpBinding.domainId parpMaxDomains binding (bindingsOf active)
        (bindingsOf (parpSnapshotUpdateBinding active binding env).2)
        (parpSnapshotUpdateBinding active binding env).1 ↔
      ¬ (env.allocated = true ∧
        NoRoom ParpBinding.domainId parpMaxDomains binding (bindingsOf active)) := by
  cases halloc : env.allocated with
  | false =>
    rw [updateBinding_failed active binding env halloc]
    simp [keyedUpdate_refused h.bindings h.bindingsLe]
  | true =>
    rw [updateBinding_allocated active binding env halloc]
    simpa using keyedUpdate_upsert (by decide) h.bindings h.bindingsLe

theorem updatePrior_keyed (active : Active) (prior : ParpAppPrior) (env : CloneEnv)
    (h : TablesOk active) :
    KeyedUpdate ParpAppPrior.appId parpMaxApps prior (priorsOf active)
        (priorsOf (parpSnapshotUpdatePrior active prior env).2)
        (parpSnapshotUpdatePrior active prior env).1 ↔
      ¬ (generationOf active = 0 ∧ env.allocated = true ∧
        NoRoom ParpAppPrior.appId parpMaxApps prior (priorsOf active)) := by
  by_cases hgen : generationOf active = 0
  · cases halloc : env.allocated with
    | false =>
      rw [updatePrior_failed active prior env hgen halloc]
      simp [keyedUpdate_refused h.priors h.priorsLe]
    | true =>
      rw [updatePrior_allocated active prior env hgen halloc]
      simpa [hgen] using keyedUpdate_upsert (by decide) h.priors h.priorsLe
  · rw [updatePrior_busy active prior env hgen]
    simp [hgen, keyedUpdate_refused h.priors h.priorsLe]

theorem updateBinding_priors (active : Active) (binding : ParpBinding) (env : CloneEnv) :
    priorsOf (parpSnapshotUpdateBinding active binding env).2 = priorsOf active := by
  cases halloc : env.allocated with
  | false => rw [updateBinding_failed active binding env halloc]
  | true =>
    rw [updateBinding_allocated active binding env halloc]
    rfl

theorem updatePrior_bindings (active : Active) (prior : ParpAppPrior) (env : CloneEnv) :
    bindingsOf (parpSnapshotUpdatePrior active prior env).2 = bindingsOf active := by
  by_cases hgen : generationOf active = 0
  · cases halloc : env.allocated with
    | false => rw [updatePrior_failed active prior env hgen halloc]
    | true =>
      rw [updatePrior_allocated active prior env hgen halloc]
      rfl
  · rw [updatePrior_busy active prior env hgen]

/-- On every reachable snapshot an update of one key is a keyed update of its table, and of no
other table, exactly when it does not store a new key into a full table. -/
theorem tables_keyed (active : Active) (h : Reachable active) :
    (∀ binding env,
      (KeyedUpdate ParpBinding.domainId parpMaxDomains binding (bindingsOf active)
          (bindingsOf (parpSnapshotUpdateBinding active binding env).2)
          (parpSnapshotUpdateBinding active binding env).1 ∧
        priorsOf (parpSnapshotUpdateBinding active binding env).2 = priorsOf active) ↔
      ¬ (env.allocated = true ∧
        NoRoom ParpBinding.domainId parpMaxDomains binding (bindingsOf active))) ∧
    (∀ prior env,
      (KeyedUpdate ParpAppPrior.appId parpMaxApps prior (priorsOf active)
          (priorsOf (parpSnapshotUpdatePrior active prior env).2)
          (parpSnapshotUpdatePrior active prior env).1 ∧
        bindingsOf (parpSnapshotUpdatePrior active prior env).2 = bindingsOf active) ↔
      ¬ (generationOf active = 0 ∧ env.allocated = true ∧
        NoRoom ParpAppPrior.appId parpMaxApps prior (priorsOf active))) ∧
    TablesOk active := by
  have htables := tablesOk_reachable h
  refine ⟨?_, ?_, htables⟩
  · intro binding env
    rw [← updateBinding_keyed active binding env htables]
    exact and_iff_left (updateBinding_priors active binding env)
  · intro prior env
    rw [← updatePrior_keyed active prior env htables]
    exact and_iff_left (updatePrior_bindings active prior env)

/-- Bind `PARP_MAX_DOMAINS` domains to one app. -/
def fillBindings : List SnapshotOp :=
  (List.range parpMaxDomains).map fun i =>
    .updateBinding { domainId := UInt64.ofNat (i + 1), appId := 1, active := true } ⟨true, 1⟩

def newBinding : ParpBinding := { domainId := 65, appId := 1, active := true }

theorem fillBindings_noRoom :
    NoRoom ParpBinding.domainId parpMaxDomains newBinding
      (bindingsOf (TransitionRuns.after snapshotStep none fillBindings)) := by
  unfold NoRoom
  decide +kernel

theorem tables_keyed_full :
    KeyedUpdate ParpBinding.domainId parpMaxDomains { newBinding with domainId := 64 }
      (bindingsOf (TransitionRuns.after snapshotStep none fillBindings))
      (bindingsOf (parpSnapshotUpdateBinding (TransitionRuns.after snapshotStep none fillBindings)
        { newBinding with domainId := 64 } ⟨true, 2⟩).2)
      (parpSnapshotUpdateBinding (TransitionRuns.after snapshotStep none fillBindings)
        { newBinding with domainId := 64 } ⟨true, 2⟩).1 := by
  refine (((tables_keyed _ ⟨fillBindings, rfl⟩).1 _ _).2 ?_).1
  unfold NoRoom
  decide +kernel

/-- The 65th domain is accepted and the binding of the 64th is gone. -/
theorem full_table_drops_binding :
    Reachable (TransitionRuns.after snapshotStep none fillBindings) ∧
    bindingOf (TransitionRuns.after snapshotStep none fillBindings) 64 ≠ none ∧
    (parpSnapshotUpdateBinding (TransitionRuns.after snapshotStep none fillBindings)
      newBinding ⟨true, 2⟩).1 = .ok () ∧
    bindingOf (parpSnapshotUpdateBinding (TransitionRuns.after snapshotStep none fillBindings)
      newBinding ⟨true, 2⟩).2 64 = none ∧
    ¬ KeyedUpdate ParpBinding.domainId parpMaxDomains newBinding
      (bindingsOf (TransitionRuns.after snapshotStep none fillBindings))
      (bindingsOf (parpSnapshotUpdateBinding (TransitionRuns.after snapshotStep none fillBindings)
        newBinding ⟨true, 2⟩).2)
      (parpSnapshotUpdateBinding (TransitionRuns.after snapshotStep none fillBindings)
        newBinding ⟨true, 2⟩).1 := by
  have hreach : Reachable (TransitionRuns.after snapshotStep none fillBindings) :=
    ⟨fillBindings, rfl⟩
  refine ⟨hreach, by decide +kernel, by decide +kernel, by decide +kernel, ?_⟩
  intro h
  exact (updateBinding_keyed _ _ _ (tablesOk_reachable hreach)).1 h ⟨rfl, fillBindings_noRoom⟩

end Parp.SnapshotTables
