import Parp.SnapshotUpdates

set_option autoImplicit false

/-!
# Histories of legacy control updates

Only `parp_snapshot_update_binding` and `parp_snapshot_update_prior`, from boot. The snapshot's
own expiry is set by the first clone and inherited by every later one.
-/
namespace Parp.LegacyUpdates

open Snapshot SnapshotUpdates KeyedTable TransitionRuns

inductive LegacyUpdate
  | updateBinding (binding : ParpBinding) (env : CloneEnv)
  | updatePrior (prior : ParpAppPrior) (env : CloneEnv)
  deriving DecidableEq

def LegacyUpdate.env : LegacyUpdate → CloneEnv
  | .updateBinding _ env => env
  | .updatePrior _ env => env

def LegacyUpdate.op : LegacyUpdate → SnapshotOp
  | .updateBinding binding env => .updateBinding binding env
  | .updatePrior prior env => .updatePrior prior env

def legacyStep (active : Active) (update : LegacyUpdate) : Except Errno Unit × Active :=
  snapshotStep active update.op

def LegacyUpdate.writtenBinding (active : Active) (update : LegacyUpdate) : Option ParpBinding :=
  match update, (legacyStep active update).1 with
  | .updateBinding binding _, .ok _ => some binding
  | _, _ => none

def LegacyUpdate.writtenPrior (active : Active) (update : LegacyUpdate) : Option ParpAppPrior :=
  match update, (legacyStep active update).1 with
  | .updatePrior prior _, .ok _ => some prior
  | _, _ => none

/-- The update stores a new domain into a full table whose last slot is bound to `domainId`. -/
def EvictsBinding (domainId : UInt64) (active : Active) (update : LegacyUpdate) : Prop :=
  ∃ b ∈ update.writtenBinding active,
    Evicts ParpBinding.domainId parpMaxDomains b (bindingsOf active) domainId

def EvictsPrior (appId : UInt32) (active : Active) (update : LegacyUpdate) : Prop :=
  ∃ p ∈ update.writtenPrior active, Evicts ParpAppPrior.appId parpMaxApps p (priorsOf active) appId

/-- The expiry the first clone sets: its clock plus 300 s, taken again while that sum is zero. -/
def firstExpiry : List LegacyUpdate → UInt64
  | [] => 0
  | update :: history =>
    if update.env.allocated = true ∧ update.env.nowNs + 300 * nsecPerSec ≠ 0 then
      update.env.nowNs + 300 * nsecPerSec
    else firstExpiry history

/-- `binding` was accepted after `before` and no accepted update of `later` names its domain. -/
structure StandingBinding (before : List LegacyUpdate) (binding : ParpBinding) (env : CloneEnv)
    (later : List LegacyUpdate) : Prop where
  accepted : (legacyStep (after legacyStep none before) (.updateBinding binding env)).1 = .ok ()
  notReplaced : Along legacyStep
    (fun s u => ∀ b ∈ u.writtenBinding s, b.domainId ≠ binding.domainId)
    (after legacyStep none (before ++ [.updateBinding binding env])) later

structure StandingPrior (before : List LegacyUpdate) (prior : ParpAppPrior) (env : CloneEnv)
    (later : List LegacyUpdate) : Prop where
  accepted : (legacyStep (after legacyStep none before) (.updatePrior prior env)).1 = .ok ()
  notReplaced : Along legacyStep (fun s u => ∀ p ∈ u.writtenPrior s, p.appId ≠ prior.appId)
    (after legacyStep none (before ++ [.updatePrior prior env])) later

def BindingKept (before : List LegacyUpdate) (binding : ParpBinding) (env : CloneEnv)
    (later : List LegacyUpdate) : Prop :=
  Along legacyStep (fun s u => ¬ EvictsBinding binding.domainId s u)
    (after legacyStep none (before ++ [.updateBinding binding env])) later

def PriorKept (before : List LegacyUpdate) (prior : ParpAppPrior) (env : CloneEnv)
    (later : List LegacyUpdate) : Prop :=
  Along legacyStep (fun s u => ¬ EvictsPrior prior.appId s u)
    (after legacyStep none (before ++ [.updatePrior prior env])) later

/-- What legacy histories keep: bounded keyed tables and no prediction generation. -/
structure LegacyOk (active : Active) : Prop where
  tables : TablesOk active
  generation : generationOf active = 0

theorem legacyOk_none : LegacyOk none := ⟨tablesOk_none, rfl⟩

variable (active : Active) (update : LegacyUpdate)

theorem legacyStep_failed (hgen : generationOf active = 0) (h : update.env.allocated = false) :
    legacyStep active update = (.error .enomem, active) := by
  cases update with
  | updateBinding binding env => exact updateBinding_failed active binding env h
  | updatePrior prior env => exact updatePrior_failed active prior env hgen h

theorem legacyOk_step (h : LegacyOk active) :
    LegacyOk (legacyStep active update).2 := by
  refine ⟨tablesOk_step active update.op h.tables, ?_⟩
  cases halloc : update.env.allocated with
  | false =>
    rw [legacyStep_failed active update h.generation halloc]
    exact h.generation
  | true =>
    cases update with
    | updateBinding binding env =>
      change generationOf (parpSnapshotUpdateBinding active binding env).2 = 0
      rw [updateBinding_allocated active binding env halloc]
      exact h.generation
    | updatePrior prior env =>
      change generationOf (parpSnapshotUpdatePrior active prior env).2 = 0
      rw [updatePrior_allocated active prior env h.generation halloc]
      exact h.generation

theorem legacyOk_after (history : List LegacyUpdate) : LegacyOk (after legacyStep none history) :=
  after_invariant legacyOk_step legacyOk_none history

theorem legacyStep_tables (h : LegacyOk active) :
    bindingsOf (legacyStep active update).2 = (update.writtenBinding active).elim
        (bindingsOf active) (upsert ParpBinding.domainId parpMaxDomains · (bindingsOf active)) ∧
      priorsOf (legacyStep active update).2 = (update.writtenPrior active).elim
        (priorsOf active) (upsert ParpAppPrior.appId parpMaxApps · (priorsOf active)) := by
  cases halloc : update.env.allocated with
  | false =>
    have hfail := legacyStep_failed active update h.generation halloc
    cases update <;> simp [LegacyUpdate.writtenBinding, LegacyUpdate.writtenPrior, hfail]
  | true =>
    cases update with
    | updateBinding binding env =>
      have hok := updateBinding_allocated active binding env halloc
      simp [LegacyUpdate.writtenBinding, LegacyUpdate.writtenPrior, legacyStep, LegacyUpdate.op,
        snapshotStep, hok]
    | updatePrior prior env =>
      have hok := updatePrior_allocated active prior env h.generation halloc
      simp [LegacyUpdate.writtenBinding, LegacyUpdate.writtenPrior, legacyStep, LegacyUpdate.op,
        snapshotStep, hok]

theorem bindingSystem : TableSystem ParpBinding.domainId parpMaxDomains legacyStep LegacyOk
    bindingsOf (fun s u => u.writtenBinding s) where
  pos := by decide
  invariant := legacyOk_step
  keyed _ h := h.tables.bindings
  bounded _ h := h.tables.bindingsLe
  view_step s u h := (legacyStep_tables s u h).1

theorem priorSystem : TableSystem ParpAppPrior.appId parpMaxApps legacyStep LegacyOk
    priorsOf (fun s u => u.writtenPrior s) where
  pos := by decide
  invariant := legacyOk_step
  keyed _ h := h.tables.priors
  bounded _ h := h.tables.priorsLe
  view_step s u h := (legacyStep_tables s u h).2

theorem legacyStep_expiry (h : LegacyOk active)
    (halloc : update.env.allocated = true) :
    expiryOf (legacyStep active update).2 =
      if expiryOf active = 0 then update.env.nowNs + 300 * nsecPerSec else expiryOf active := by
  have hclone : (cloned active update.env.nowNs).expiresNs =
      if expiryOf active = 0 then update.env.nowNs + 300 * nsecPerSec else expiryOf active := by
    cases active with
    | none => rfl
    | some s => exact if_congr (by simp) rfl rfl
  rw [← hclone]
  cases update with
  | updateBinding binding env =>
    change expiryOf (parpSnapshotUpdateBinding active binding env).2 = _
    rw [updateBinding_allocated active binding env halloc]
    rfl
  | updatePrior prior env =>
    change expiryOf (parpSnapshotUpdatePrior active prior env).2 = _
    rw [updatePrior_allocated active prior env h.generation halloc]
    rfl

theorem expiry_after (history : List LegacyUpdate) (h : LegacyOk active) :
    expiryOf (after legacyStep active history) =
      if expiryOf active = 0 then firstExpiry history else expiryOf active := by
  induction history generalizing active with
  | nil =>
    by_cases hzero : expiryOf active = 0
    · simp [firstExpiry, hzero]
    · simp [hzero]
  | cons update history ih =>
    rw [after_cons, ih _ (legacyOk_step active update h)]
    cases halloc : update.env.allocated with
    | false =>
      rw [legacyStep_failed active update h.generation halloc]
      simp [firstExpiry, halloc]
    | true =>
      rw [legacyStep_expiry active update h halloc]
      by_cases hzero : expiryOf active = 0
      · by_cases hsum : update.env.nowNs + 300 * nsecPerSec = 0
        · simp [firstExpiry, hzero, hsum]
        · simp [firstExpiry, halloc, hzero, hsum]
      · simp [hzero]

theorem expiry_history (history : List LegacyUpdate) :
    expiryOf (after legacyStep none history) = firstExpiry history := by
  rw [expiry_after none history legacyOk_none]
  rfl

section

variable {active : Active} {binding : ParpBinding} {prior : ParpAppPrior} {domainId nowNs : UInt64}

theorem find_binding (h : TablesOk active) {s : ParpSnapshot} (hs : active = some s)
    (domainId : UInt64) :
    s.bindings.find? (fun b => b.active && decide (b.domainId = domainId)) =
      (bindingOf active domainId).filter (fun b => b.active) := by
  subst hs
  exact find_and_key (fun b => b.active) domainId h.bindings

theorem find_prior (h : TablesOk active) {s : ParpSnapshot} (hs : active = some s) (appId : UInt32) :
    s.priors.find? (fun p => p.valid && decide (p.appId = appId)) =
      (priorOf active appId).filter (fun p => p.valid) := by
  subst hs
  exact find_and_key (fun p => p.valid) appId h.priors

theorem contextLookup_found (h : TablesOk active) (hb : bindingOf active domainId = some binding)
    (hp : priorOf active binding.appId = some prior) (hexpiry : nowNs < expiryOf active)
    (hactive : binding.active = true) (hvalid : prior.valid = true)
    (hmodel : prior.modelVersion = binding.modelVersion) (hbt : nowNs < binding.expiresNs)
    (hpt : nowNs < prior.expiresNs) :
    parpContextLookup active domainId nowNs = some (appContext domainId binding prior) := by
  cases hs : active with
  | none =>
    rw [hs] at hb
    cases hb
  | some s =>
    have hlive : ¬ nowNs ≥ s.expiresNs := by
      rw [hs] at hexpiry
      exact UInt64.not_le.2 hexpiry
    have hfind := find_binding h hs domainId
    have hprior := find_prior h hs binding.appId
    rw [hb] at hfind
    rw [hp] at hprior
    simp only [Option.filter, hactive, hvalid, if_true] at hfind hprior
    simp only [parpContextLookup, hlive, if_false, hfind, hprior, ge_iff_le,
      UInt64.not_le.2 hbt, UInt64.not_le.2 hpt, hmodel, ne_eq, not_true, or_self]

theorem contextLookup_expired (h : ¬ nowNs < expiryOf active) :
    parpContextLookup active domainId nowNs = none := by
  cases active with
  | none => rfl
  | some s =>
    have hexpired : nowNs ≥ s.expiresNs := UInt64.not_lt.1 h
    simp only [parpContextLookup, if_pos hexpired]

theorem contextLookup_noBinding (h : TablesOk active)
    (hb : (bindingOf active domainId).filter (fun b => b.active) = none) :
    parpContextLookup active domainId nowNs = none := by
  cases hs : active with
  | none => rfl
  | some s =>
    have hfind := find_binding h hs domainId
    rw [hb] at hfind
    simp only [parpContextLookup, hfind, ite_self]

theorem contextLookup_noPrior (h : TablesOk active) (hb : bindingOf active domainId = some binding)
    (hp : (priorOf active binding.appId).filter (fun p => p.valid) = none) :
    parpContextLookup active domainId nowNs = none := by
  cases hs : active with
  | none => rfl
  | some s =>
    have hfind := find_binding h hs domainId
    have hprior := find_prior h hs binding.appId
    rw [hp] at hprior
    cases hactive : binding.active with
    | false =>
      exact hs ▸ contextLookup_noBinding h (by simp [hb, Option.filter, hactive])
    | true =>
      rw [hb] at hfind
      simp only [Option.filter, hactive, if_true] at hfind
      simp only [parpContextLookup, hfind, hprior, ite_self]

end

theorem bindingOf_standing {before later : List LegacyUpdate} {binding : ParpBinding} {env : CloneEnv}
    (h : StandingBinding before binding env later) [Decidable (BindingKept before binding env later)] :
    bindingOf (after legacyStep none (before ++ .updateBinding binding env :: later)) binding.domainId =
      if BindingKept before binding env later then some binding else none := by
  refine (bindingSystem.lookup_standing (legacyOk_after before) ?_ h.notReplaced).trans
    (if_congr Iff.rfl rfl rfl)
  simp [LegacyUpdate.writtenBinding, h.accepted]

theorem priorOf_standing {before later : List LegacyUpdate} {prior : ParpAppPrior} {env : CloneEnv}
    (h : StandingPrior before prior env later) [Decidable (PriorKept before prior env later)] :
    priorOf (after legacyStep none (before ++ .updatePrior prior env :: later)) prior.appId =
      if PriorKept before prior env later then some prior else none := by
  refine (priorSystem.lookup_standing (legacyOk_after before) ?_ h.notReplaced).trans
    (if_congr Iff.rfl rfl rfl)
  simp [LegacyUpdate.writtenPrior, h.accepted]

/-- Over every legacy history: an accepted binding and an accepted prior of its app, neither
replaced and both alive, are found exactly while both are enabled, the first snapshot's own expiry
has not passed and neither was overwritten by a new key in a full table. -/
theorem legacy_lookup (history beforeB laterB beforeP laterP : List LegacyUpdate)
    (binding : ParpBinding) (prior : ParpAppPrior) (envB envP : CloneEnv) (nowNs : UInt64)
    (hhistoryB : history = beforeB ++ .updateBinding binding envB :: laterB)
    (hhistoryP : history = beforeP ++ .updatePrior prior envP :: laterP)
    (hbinding : StandingBinding beforeB binding envB laterB)
    (hprior : StandingPrior beforeP prior envP laterP) (happ : prior.appId = binding.appId)
    (hmodel : prior.modelVersion = binding.modelVersion) (hbt : nowNs < binding.expiresNs)
    (hpt : nowNs < prior.expiresNs) :
    parpContextLookup (after legacyStep none history) binding.domainId nowNs =
        some (appContext binding.domainId binding prior) ↔
      binding.active = true ∧ prior.valid = true ∧ nowNs < firstExpiry history ∧
        BindingKept beforeB binding envB laterB ∧ PriorKept beforeP prior envP laterP := by
  classical
  have hok := (legacyOk_after history).tables
  have hb := bindingOf_standing hbinding
  have hp := priorOf_standing hprior
  rw [← hhistoryB] at hb
  rw [← hhistoryP, happ] at hp
  constructor
  · intro hfound
    have hexpiry : nowNs < firstExpiry history := by
      by_contra hlate
      rw [← expiry_history] at hlate
      rw [contextLookup_expired hlate] at hfound
      cases hfound
    have hkeptB : BindingKept beforeB binding envB laterB := by
      by_contra hlost
      rw [if_neg hlost] at hb
      rw [contextLookup_noBinding hok (by simp [hb])] at hfound
      cases hfound
    rw [if_pos hkeptB] at hb
    have hkeptP : PriorKept beforeP prior envP laterP := by
      by_contra hlost
      rw [if_neg hlost] at hp
      rw [contextLookup_noPrior hok hb (by simp [hp])] at hfound
      cases hfound
    rw [if_pos hkeptP] at hp
    refine ⟨?_, ?_, hexpiry, hkeptB, hkeptP⟩
    · by_contra hoff
      rw [contextLookup_noBinding hok (by simp [hb, Option.filter, hoff])] at hfound
      cases hfound
    · by_contra hoff
      rw [contextLookup_noPrior hok hb (by simp [hp, Option.filter, hoff])] at hfound
      cases hfound
  · rintro ⟨hactive, hvalid, hexpiry, hkeptB, hkeptP⟩
    rw [if_pos hkeptB] at hb
    rw [if_pos hkeptP] at hp
    rw [← expiry_history] at hexpiry
    exact contextLookup_found hok hb hp hexpiry hactive hvalid hmodel hbt hpt

def hourBinding : ParpBinding :=
  { domainId := 7, appId := 3, bindGeneration := 1, expiresNs := 3600 * nsecPerSec
    modelVersion := 1, active := true }

def hourPrior : ParpAppPrior :=
  { appId := 3, useScoreQ15 := 20000, rank := 1, expiresNs := 3600 * nsecPerSec
    modelVersion := 1, valid := true }

def hourHistory : List LegacyUpdate :=
  [.updatePrior hourPrior ⟨true, nsecPerSec⟩, .updateBinding hourBinding ⟨true, nsecPerSec⟩]

theorem hourBinding_standing :
    StandingBinding [.updatePrior hourPrior ⟨true, nsecPerSec⟩] hourBinding ⟨true, nsecPerSec⟩ [] :=
  ⟨by decide, trivial⟩

theorem hourPrior_standing :
    StandingPrior [] hourPrior ⟨true, nsecPerSec⟩
      [.updateBinding hourBinding ⟨true, nsecPerSec⟩] := by
  refine ⟨by decide, ?_, trivial⟩
  intro p hp
  cases hp

theorem legacy_lookup_hour :
    parpContextLookup (after legacyStep none hourHistory) 7 (300 * nsecPerSec) =
      some (appContext 7 hourBinding hourPrior) := by
  refine (legacy_lookup hourHistory _ [] [] _ hourBinding hourPrior _ _ _ rfl rfl
    hourBinding_standing hourPrior_standing rfl rfl (by decide) (by decide)).2 ?_
  refine ⟨rfl, rfl, by decide, trivial, ?_, trivial⟩
  rintro ⟨p, hp, -⟩
  cases hp

/-- 301 s after boot both entries have most of their hour left and the lookup fails. -/
theorem legacy_lookup_expires_early :
    StandingBinding [.updatePrior hourPrior ⟨true, nsecPerSec⟩] hourBinding ⟨true, nsecPerSec⟩ [] ∧
    StandingPrior [] hourPrior ⟨true, nsecPerSec⟩
      [.updateBinding hourBinding ⟨true, nsecPerSec⟩] ∧
    hourPrior.modelVersion = hourBinding.modelVersion ∧
    301 * nsecPerSec < hourBinding.expiresNs ∧ 301 * nsecPerSec < hourPrior.expiresNs ∧
    hourBinding.active = true ∧ hourPrior.valid = true ∧
    parpContextLookup (after legacyStep none hourHistory) 7 (301 * nsecPerSec) = none := by
  exact ⟨hourBinding_standing, hourPrior_standing, by decide, by decide, by decide, by decide,
    by decide, by decide⟩

end Parp.LegacyUpdates
