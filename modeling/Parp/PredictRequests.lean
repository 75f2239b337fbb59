import Parp.FallibleFolds
import Parp.PredictDevice
import Parp.SnapshotUpdates
import Parp.Words

set_option autoImplicit false

/-!
# Accepted prediction requests

What a SET_STATE request has to satisfy to be accepted, from the header checks through the decoding
loops to the snapshot validators.
-/
namespace Parp.PredictRequests

open FallibleFolds PredictAbi PredictDevice Snapshot
open SnapshotValidation SnapshotUpdates

structure Accepts {β : Type} (active : Active) (state : ParpPredictHeader)
    (batch : UInt64 → ParpAppPriorBatch) (predictions : List ParpPredictEntryV1)
    (decodeBinding : UInt64 → β → Except Errno ParpBinding) (bindings : List β) (env : SetEnv)
    (entries : List ParpAppPrior) (decoded : List ParpBinding) : Prop where
  fits : ¬ ExpiryOverflows state
  batchAllocated : env.batchAllocated = true
  bindingsAllocated : state.nrBindings ≠ 0 → env.bindingsAllocated = true
  decodedEntries : List.Forall₂ (fun source entry => decodePrediction source = .ok entry)
    predictions entries
  decodedBindings : List.Forall₂
    (fun source binding => decodeBinding (state.timestampNs + state.ttlNs) source = .ok binding)
    bindings decoded
  validBatch : ValidBatch { batch (state.timestampNs + state.ttlNs) with entries := entries }
    env.replace.nowNs
  validBindings : ValidBindings
    { batch (state.timestampNs + state.ttlNs) with entries := entries } (.array decoded)
  gate : generationGate active { batch (state.timestampNs + state.ttlNs) with entries := entries } =
    .ok ()
  allocated : env.replace.clone.allocated = true

section

variable {β : Type} {active : Active} {state : ParpPredictHeader}
variable {batch : UInt64 → ParpAppPriorBatch} {predictions : List ParpPredictEntryV1}
variable {decodeBinding : UInt64 → β → Except Errno ParpBinding} {bindings : List β} {env : SetEnv}

theorem replaceState_ok {b : ParpAppPriorBatch} {decoded : BindingArray} {renv : ReplaceEnv}
    (h : (parpSnapshotReplaceState active (some b) decoded renv).1 = .ok ()) :
    ValidBatch b renv.nowNs ∧ ValidBindings b decoded ∧ generationGate active b = .ok () ∧
      renv.clone.allocated = true := by
  rcases replaceState_cases active (some b) decoded renv with ⟨e, he⟩ | ⟨b', hb, hv, hvb, hg, hok⟩
  · rw [he] at h
    cases h
  · obtain rfl := Option.some.inj hb
    refine ⟨hv, hvb, hg, ?_⟩
    cases halloc : renv.clone.allocated with
    | true => rfl
    | false =>
      rw [replaceState_valid active b decoded renv hv hvb] at h
      unfold publishGated at h
      rw [hg, clone_failed active renv.clone halloc] at h
      cases h

theorem setValidState_ok
    (h : (setValidState active state batch predictions decodeBinding bindings env).1 = .ok ()) :
    ∃ entries decoded,
      Accepts active state batch predictions decodeBinding bindings env entries decoded := by
  unfold setValidState at h
  dsimp only at h
  split_ifs at h with hfits halloc
  simp only [not_or, Bool.not_eq_false, not_and] at halloc
  cases hentries : predictions.mapM decodePrediction with
  | error e =>
    rw [hentries] at h
    cases h
  | ok entries =>
    rw [hentries] at h
    dsimp only at h
    cases hbindings : bindings.mapM (decodeBinding (state.timestampNs + state.ttlNs)) with
    | error e =>
      rw [hbindings] at h
      cases h
    | ok decoded =>
      rw [hbindings] at h
      obtain ⟨hv, hvb, hg, hclone⟩ := replaceState_ok h
      exact ⟨entries, decoded, hfits, halloc.1, halloc.2, mapM_eq_ok_iff.1 hentries,
        mapM_eq_ok_iff.1 hbindings, hv, hvb, hg, hclone⟩

theorem setValidState_accepts {entries : List ParpAppPrior} {decoded : List ParpBinding}
    (h : Accepts active state batch predictions decodeBinding bindings env entries decoded) :
    setValidState active state batch predictions decodeBinding bindings env =
      (.ok (), some { withBatch (cloned active env.replace.clone.nowNs)
        { batch (state.timestampNs + state.ttlNs) with entries := entries } with
          bindings := decoded }) := by
  unfold setValidState
  dsimp only
  have halloc : ¬ (env.batchAllocated = false ∨
      (state.nrBindings ≠ 0 ∧ env.bindingsAllocated = false)) := by
    rintro (hbatch | ⟨hne, hbindings⟩)
    · rw [h.batchAllocated] at hbatch
      cases hbatch
    · rw [h.bindingsAllocated hne] at hbindings
      cases hbindings
  rw [if_neg h.fits, if_neg halloc, mapM_eq_ok_iff.2 h.decodedEntries]
  dsimp only
  rw [mapM_eq_ok_iff.2 h.decodedBindings]
  dsimp only
  rw [replaceState_valid active _ _ env.replace h.validBatch h.validBindings]
  unfold publishGated
  rw [h.gate, clone_allocated active env.replace.clone h.allocated]
  rfl

end

end Parp.PredictRequests

/-!
# The version 3 round trip

SET_STATE_V3 followed by GET_STATE_V3. Everything survives except the confidence of a workload
hint: it is scaled from 8 bits to Q15 and back with a floor each way.
-/
namespace Parp.PredictRoundTrip

open FallibleFolds PredictAbi PredictDevice PredictRequests Snapshot
open SnapshotValidation SnapshotUpdates WordFields

def storedConfidence (q : UInt16) : UInt16 := (q.toUInt64 * UInt64.ofNat parpQ15One / 255).toUInt16

theorem storedConfidence_toNat {q : UInt16} (h : q.toNat < 256) :
    (storedConfidence q).toNat = q.toNat * 32767 / 255 := by
  have hmul : q.toNat * 32767 < 2 ^ 64 := by omega
  have hdiv : q.toNat * 32767 / 255 < 2 ^ 16 := by omega
  unfold storedConfidence
  rw [UInt64.toNat_toUInt16, UInt64.toNat_div, UInt64.toNat_mul, UInt16.toNat_toUInt64]
  change q.toNat * 32767 % 2 ^ 64 / 255 % 2 ^ 16 = _
  rw [Nat.mod_eq_of_lt hmul, Nat.mod_eq_of_lt hdiv]

theorem confidenceQ8_toNat {q : UInt16} (h : q.toNat < 256) :
    (confidenceQ8 (storedConfidence q)).toNat = q.toNat * 32767 / 255 * 255 / 32767 := by
  have hstored := storedConfidence_toNat h
  have hmul : q.toNat * 32767 / 255 * 255 < 2 ^ 64 := by omega
  unfold confidenceQ8
  rw [UInt64.toNat_div, UInt64.toNat_mul, UInt16.toNat_toUInt64, hstored]
  change q.toNat * 32767 / 255 * 255 % 2 ^ 64 / 32767 = _
  rw [Nat.mod_eq_of_lt hmul]

theorem requantised {n : ℕ} (h : n < 256) :
    n * 32767 / 255 * 255 / 32767 = if n = 255 then 255 else n - 1 := by
  split_ifs with hmax
  · rw [hmax]
  · omega

theorem confidence_roundtrip {q : UInt16} (h : q.toNat < 256) (hpos : q ≠ 0) :
    confidenceQ8 (storedConfidence q) = q.toUInt64 ↔ q = 255 := by
  have hne : q.toNat ≠ 0 := fun h0 => hpos (UInt16.toNat_inj.1 h0)
  rw [← UInt64.toNat_inj, ← UInt16.toNat_inj, confidenceQ8_toNat h, UInt16.toNat_toUInt64,
    requantised h]
  change _ ↔ q.toNat = 255
  split_ifs with hmax
  · exact ⟨fun _ => hmax, fun _ => hmax.symm⟩
  · exact ⟨fun heq => by omega, fun heq => absurd heq hmax⟩

section

variable (hint : UInt64)

theorem hintClass_word : (hintClass hint).toUInt64 = hint &&& parpPredictWorkloadClassMask :=
  toUInt8_toUInt64 (toNat_and_lt (by decide))

theorem hintSwappiness_word :
    (hintSwappiness hint).toUInt64 <<< parpPredictWorkloadSwappinessShift =
      hint &&& (parpPredictWorkloadSwappinessMask <<< parpPredictWorkloadSwappinessShift) := by
  unfold hintSwappiness
  rw [toUInt16_toUInt64 (toNat_and_lt (by decide))]
  exact shiftRight_and_shiftLeft hint _ _ (by decide)

theorem hintConfidence_word :
    (hintConfidenceQ8 hint).toUInt64 <<< parpPredictWorkloadConfidenceShift =
      hint &&& (parpPredictWorkloadConfidenceMask <<< parpPredictWorkloadConfidenceShift) := by
  unfold hintConfidenceQ8
  rw [toUInt16_toUInt64 (toNat_and_lt (by decide))]
  exact shiftRight_and_shiftLeft hint _ _ (by decide)

theorem hintConfidence_lt : (hintConfidenceQ8 hint).toNat < 256 := by
  unfold hintConfidenceQ8
  rw [UInt64.toNat_toUInt16]
  exact Nat.lt_of_le_of_lt (Nat.mod_le _ _) (toNat_and_lt (by decide))

theorem hintWritepage_word :
    (if hintAllowWritepage hint then parpPredictWorkloadAllowWritepage else 0) =
      hint &&& parpPredictWorkloadAllowWritepage := by
  have hbit := Nat.and_two_pow hint.toNat 24
  have hword : (hint &&& parpPredictWorkloadAllowWritepage).toNat =
      (hint.toNat.testBit 24).toNat * 2 ^ 24 := by
    rw [UInt64.toNat_and]
    exact hbit
  rw [← UInt64.toNat_inj, hword]
  unfold hintAllowWritepage
  cases hb : hint.toNat.testBit 24 with
  | false =>
    have hzero : hint &&& parpPredictWorkloadAllowWritepage = 0 := by
      rw [← UInt64.toNat_inj, hword, hb]
      rfl
    simp [hzero]
  | true =>
    have hone : hint &&& parpPredictWorkloadAllowWritepage ≠ 0 := by
      intro hzero
      rw [hzero, hb] at hword
      cases hword
    simp [hone]
    decide

theorem hint_fields (h : hint &&& ~~~workloadHintAllowed = 0) :
    (hint &&& parpPredictWorkloadClassMask) |||
      (hint &&& (parpPredictWorkloadSwappinessMask <<< parpPredictWorkloadSwappinessShift)) |||
      (hint &&& (parpPredictWorkloadConfidenceMask <<< parpPredictWorkloadConfidenceShift)) |||
      (hint &&& parpPredictWorkloadAllowWritepage) = hint := by
  have hall := and_of_andNot h
  unfold workloadHintAllowed at hall
  rwa [and_or, and_or, and_or] at hall

/-- The packed hint of a decoded one, with `c` in the confidence field. -/
def repacked (c : UInt64) : UInt64 :=
  (hint &&& parpPredictWorkloadClassMask) |||
    (hint &&& (parpPredictWorkloadSwappinessMask <<< parpPredictWorkloadSwappinessShift)) |||
    (c <<< parpPredictWorkloadConfidenceShift) ||| (hint &&& parpPredictWorkloadAllowWritepage)

theorem repacked_confidence {c : UInt64} (hc : c.toNat < 256) :
    repacked hint c &&& (parpPredictWorkloadConfidenceMask <<< parpPredictWorkloadConfidenceShift) =
      c <<< parpPredictWorkloadConfidenceShift := by
  have hdisjoint : ∀ m : UInt64,
      m &&& (parpPredictWorkloadConfidenceMask <<< parpPredictWorkloadConfidenceShift) = 0 →
      (hint &&& m) &&&
        (parpPredictWorkloadConfidenceMask <<< parpPredictWorkloadConfidenceShift) = 0 := by
    intro m hm
    rw [UInt64.and_assoc, hm, UInt64.and_zero]
  have hkeep : c &&& parpPredictWorkloadConfidenceMask = c := by
    rw [← UInt64.toNat_inj, UInt64.toNat_and]
    exact (Nat.and_two_pow_sub_one_eq_mod c.toNat 8).trans (Nat.mod_eq_of_lt hc)
  have hself : (c <<< parpPredictWorkloadConfidenceShift) &&&
      (parpPredictWorkloadConfidenceMask <<< parpPredictWorkloadConfidenceShift) =
      c <<< parpPredictWorkloadConfidenceShift := by
    rw [← UInt64.shiftLeft_and, hkeep]
  unfold repacked
  rw [or_and, or_and, or_and, hdisjoint _ (by decide), hdisjoint _ (by decide),
    hdisjoint _ (by decide), hself]
  simp

end

/-- A decoded hint packs back to itself exactly when its confidence field is full. -/
theorem hint_roundtrip {hint : UInt64} {binding decoded : ParpBinding}
    (h : parpPredictDecodeWorkloadHint hint binding = .ok decoded) :
    encodeWorkloadHint decoded = hint ↔ hintConfidenceQ8 hint = 255 := by
  unfold parpPredictDecodeWorkloadHint at h
  split_ifs at h with hbad
  simp only [not_or, not_not] at hbad
  obtain ⟨hallowed, -, -, -, hpos, -⟩ := hbad
  obtain rfl := Except.ok.inj h
  have hlt := hintConfidence_lt hint
  have hencode : encodeWorkloadHint { binding with
      workloadClass := hintClass hint
      workloadSwappiness := hintSwappiness hint
      workloadConfidenceQ15 := storedConfidence (hintConfidenceQ8 hint)
      workloadAllowWritepage := hintAllowWritepage hint
      workloadValid := true } =
      repacked hint (confidenceQ8 (storedConfidence (hintConfidenceQ8 hint))) := by
    unfold encodeWorkloadHint repacked
    dsimp only
    rw [hintClass_word, hintSwappiness_word, ← hintWritepage_word hint]
    split_ifs <;> simp
  have hsame : repacked hint (hintConfidenceQ8 hint).toUInt64 = hint := by
    unfold repacked
    rw [hintConfidence_word]
    exact hint_fields hint hallowed
  change encodeWorkloadHint { binding with
    workloadClass := hintClass hint
    workloadSwappiness := hintSwappiness hint
    workloadConfidenceQ15 := storedConfidence (hintConfidenceQ8 hint)
    workloadAllowWritepage := hintAllowWritepage hint
    workloadValid := true } = hint ↔ _
  rw [hencode, ← confidence_roundtrip hlt hpos]
  have hscaled : (confidenceQ8 (storedConfidence (hintConfidenceQ8 hint))).toNat < 256 := by
    rw [confidenceQ8_toNat hlt]
    omega
  constructor
  · intro heq
    have hfield := repacked_confidence hint hscaled
    have hword : (hintConfidenceQ8 hint).toUInt64.toNat < 256 := by
      rwa [UInt16.toNat_toUInt64]
    have hfield' := repacked_confidence hint hword
    rw [heq] at hfield
    rw [hsame, hfield] at hfield'
    refine shiftLeft_inj (by decide) ?_ ?_ hfield'
    · change _ * 2 ^ 16 < _
      omega
    · change _ * 2 ^ 16 < _
      omega
  · intro heq
    rw [heq, hsame]

theorem oneFlag {flags : UInt32} (h : flags &&& ~~~1 = 0) :
    (flags &&& 1 = 0 ∧ flags = 0) ∨ (flags &&& 1 ≠ 0 ∧ flags = 1) := by
  have hle := toNat_le_of_andNot h
  change flags.toNat ≤ 1 at hle
  have hcases : flags = 0 ∨ flags = 1 := by
    simp only [← UInt32.toNat_inj]
    change flags.toNat = 0 ∨ flags.toNat = 1
    omega
  rcases hcases with rfl | rfl
  · exact .inl ⟨rfl, rfl⟩
  · exact .inr ⟨by decide, rfl⟩

theorem prediction_roundtrip {source : ParpPredictEntryV1} {entry : ParpAppPrior}
    (h : decodePrediction source = .ok entry) (batch : ParpAppPriorBatch) :
    encodePrediction (storedPrior batch entry) = source := by
  unfold decodePrediction at h
  split_ifs at h with hbad
  simp only [not_or, not_not] at hbad
  obtain ⟨hreserved, hflags⟩ := hbad
  obtain rfl := Except.ok.inj h
  obtain ⟨appId, scoreQ15, rank, flags, reserved⟩ := source
  dsimp only at hreserved hflags
  rcases oneFlag hflags with ⟨-, rfl⟩ | ⟨-, rfl⟩
  · simp [encodePrediction, storedPrior, hreserved]
  · simp [encodePrediction, storedPrior, hreserved, parpPredictEntryForeground]

def FullConfidence (source : ParpPredictBindingV3) : Prop :=
  source.flags &&& parpPredictBindingWorkloadValid ≠ 0 → hintConfidenceQ8 source.workloadHint = 255

instance (source : ParpPredictBindingV3) : Decidable (FullConfidence source) :=
  inferInstanceAs (Decidable (_ → _))

theorem decodeHint_frame {hint : UInt64} {binding decoded : ParpBinding}
    (h : parpPredictDecodeWorkloadHint hint binding = .ok decoded) :
    decoded.domainId = binding.domainId ∧ decoded.appId = binding.appId ∧
      decoded.epochId = binding.epochId ∧ decoded.active = binding.active ∧
      decoded.workloadValid = true := by
  unfold parpPredictDecodeWorkloadHint at h
  split_ifs at h
  obtain rfl := Except.ok.inj h
  exact ⟨rfl, rfl, rfl, rfl, rfl⟩

theorem bindingFlags {flags : UInt32}
    (h : flags &&& ~~~(parpPredictBindingActive ||| parpPredictBindingWorkloadValid) = 0)
    (hactive : flags &&& parpPredictBindingActive ≠ 0) : flags = 1 ∨ flags = 3 := by
  have hle := toNat_le_of_andNot h
  change flags.toNat ≤ 3 at hle
  have hcases : flags = 0 ∨ flags = 1 ∨ flags = 2 ∨ flags = 3 := by
    simp only [← UInt32.toNat_inj]
    change flags.toNat = 0 ∨ flags.toNat = 1 ∨ flags.toNat = 2 ∨ flags.toNat = 3
    omega
  rcases hcases with rfl | rfl | rfl | rfl
  · exact absurd rfl hactive
  · exact .inl rfl
  · exact absurd rfl hactive
  · exact .inr rfl

variable {source : ParpPredictBindingV3} {expiryNs : UInt64} {generation : UInt32}

theorem binding_roundtrip {state : ParpPredictHeader} {decoded : ParpBinding}
    (h : decodeBindingV3 state expiryNs source = .ok decoded) :
    encodeBindingV3 decoded = source ↔ FullConfidence source := by
  unfold decodeBindingV3 at h
  dsimp only at h
  obtain ⟨domainId, appId, flags, epochId, workloadHint⟩ := source
  dsimp only at h
  split_ifs at h with hbad hvalid
  · simp only [not_or] at hbad
    have hthree : flags = 3 := by
      rcases bindingFlags (not_not.1 hbad.1) hbad.2.1 with h1 | h3
      · rw [h1] at hvalid
        exact absurd rfl hvalid
      · exact h3
    obtain ⟨hdomain, happ, hepoch, hact, hwv⟩ := decodeHint_frame h
    have hencode : encodeBindingV3 decoded =
        ⟨domainId, appId, 3, epochId, encodeWorkloadHint decoded⟩ := by
      simp only [encodeBindingV3, hdomain, happ, hepoch, hact, hwv, activeBinding, if_true]
      rfl
    rw [hencode, hthree]
    simp only [ParpPredictBindingV3.mk.injEq, true_and, FullConfidence]
    rw [hint_roundtrip h]
    exact ⟨fun heq _ => heq, fun himp => himp (by decide)⟩
  · obtain rfl := Except.ok.inj h
    simp only [not_or] at hbad
    have hzero : workloadHint = 0 := by
      by_contra hne
      exact hbad.2.2 ⟨not_not.1 hvalid, hne⟩
    have hone : flags = 1 := by
      rcases bindingFlags (not_not.1 hbad.1) hbad.2.1 with h1 | h3
      · exact h1
      · rw [h3] at hvalid
        exact absurd (by decide) hvalid
    subst hone hzero
    constructor
    · intro _ hne
      exact absurd hne hvalid
    · intro _
      simp [encodeBindingV3, activeBinding, parpPredictBindingActive]

/-- What the version 3 header checks promise about the words GET_STATE rebuilds. -/
structure HeaderOk (state : ParpPredictHeaderV2) : Prop where
  abi : state.abiVersion = parpPredictAbiVersionV3
  size : state.structSize = parpPredictStateSize
  generation : state.generation ≠ 0
  predictions : state.nrPredictions.toNat ≤ parpPredictMaxApps
  bindings : state.nrBindings.toNat ≤ parpPredictMaxBindings
  ttl : state.ttlNs ≠ 0
  flags : state.flags &&& ~~~parpPredictStateWorkingsetValid = 0
  reserved32 : state.reserved32 = 0
  reserved64 : state.reserved64 = 0
  workingset : ¬ WorkingsetFieldsBad (state.flags &&& parpPredictStateWorkingsetValid ≠ 0)
    state.policyDomainId state.predictedWorkingsetBytes state.predictedResidentBytes
    state.workingsetConfidenceQ15 state.workingsetEstimatorVersion

theorem headerOk {state : ParpPredictHeaderV2}
    (h : validateHeaderWorkingset state parpPredictAbiVersionV3 = .ok ()) : HeaderOk state := by
  unfold validateHeaderWorkingset at h
  split_ifs at h with hbad htimes hws
  simp only [not_or, not_not, HeaderBad, gt_iff_lt, Nat.not_lt] at hbad
  obtain ⟨hflags, h32, h64, habi, hsize, -, -, hgen, -, hpred, hbind, -, -, httl⟩ := hbad
  exact ⟨habi, hsize, hgen, hpred, hbind, httl, hflags, h32, h64, hws⟩

theorem header_withGeneration {state : ParpPredictHeaderV2}
    (h : validateHeaderWorkingset state parpPredictAbiVersionV3 = .ok ()) (hgen : generation ≠ 0) :
    validateHeaderWorkingset { state with generation := generation } parpPredictAbiVersionV3 =
      .ok () := by
  unfold validateHeaderWorkingset at h ⊢
  split_ifs at h with hbad htimes hws
  have hbad' : ¬ (state.flags &&& ~~~parpPredictStateWorkingsetValid ≠ 0 ∨ state.reserved32 ≠ 0 ∨
      state.reserved64 ≠ 0 ∨
      HeaderBad { state.toParpPredictHeader with generation := generation }
        parpPredictAbiVersionV3) := by
    simp only [not_or, not_not, HeaderBad] at hbad ⊢
    obtain ⟨hflags, h32, h64, habi, hsize, hschema, hmodel, -, hrest⟩ := hbad
    exact ⟨hflags, h32, h64, habi, hsize, hschema, hmodel, hgen, hrest⟩
  exact (if_neg hbad').trans ((if_neg htimes).trans (if_neg hws))

def publishedBy (active : Active) (state : ParpPredictStateV3) (nowNs : UInt64)
    (entries : List ParpAppPrior) (decoded : List ParpBinding) : ParpSnapshot :=
  { withBatch (cloned active nowNs)
      { batchV2 state.toParpPredictHeaderV2 (state.timestampNs + state.ttlNs) with
        entries := entries } with
    bindings := decoded }

theorem ttl_roundtrip {timestampNs ttlNs : UInt64}
    (hfits : timestampNs.toNat + ttlNs.toNat < 2 ^ 64) (httl : ttlNs ≠ 0) :
    (if timestampNs + ttlNs > timestampNs then timestampNs + ttlNs - timestampNs else 0) = ttlNs := by
  have hpos : ttlNs.toNat ≠ 0 := fun h => httl (UInt64.toNat_inj.1 h)
  have hsum : (timestampNs + ttlNs).toNat = timestampNs.toNat + ttlNs.toNat := by
    rw [UInt64.toNat_add, Nat.mod_eq_of_lt hfits]
  have hlt : timestampNs < timestampNs + ttlNs := by
    rw [UInt64.lt_iff_toNat_lt]
    omega
  rw [if_pos hlt, ← UInt64.toNat_inj,
    UInt64.toNat_sub_of_le _ _ (UInt64.le_of_lt hlt), hsum]
  omega

theorem length_sent {α : Type} {n : ℕ} (table : Vector α n) {nr : UInt32} (h : nr.toNat ≤ n) :
    (sent table nr).length = nr.toNat := by
  simp [sent, h]

section

variable {active : Active} {state : ParpPredictStateV3} {nowNs : UInt64}
variable {entries : List ParpAppPrior} {decoded : List ParpBinding}

theorem encodeHeader_published (hok : HeaderOk state.toParpPredictHeaderV2)
    (hfits : ¬ ExpiryOverflows state.toParpPredictHeader)
    (hentries : entries.length = state.nrPredictions.toNat)
    (hdecoded : decoded.length = state.nrBindings.toNat) :
    encodeHeader (publishedBy active state nowNs entries decoded) parpPredictAbiVersionV3 =
      { state.toParpPredictHeader with flags := 0 } := by
  have hnrP : UInt32.ofNat (min (entries.map (storedPrior
      { batchV2 state.toParpPredictHeaderV2 (state.timestampNs + state.ttlNs) with
        entries := entries })).length parpPredictMaxApps) = state.nrPredictions := by
    rw [List.length_map, hentries, Nat.min_eq_left hok.predictions, UInt32.ofNat_toNat]
  have hnrB : UInt32.ofNat (min decoded.length parpPredictMaxBindings) = state.nrBindings := by
    rw [hdecoded, Nat.min_eq_left hok.bindings, UInt32.ofNat_toNat]
  ext1
  · exact hok.abi.symm
  · exact hok.size.symm
  · rfl
  · rfl
  · rfl
  · exact hnrP
  · exact hnrB
  · rfl
  · rfl
  · rfl
  · exact ttl_roundtrip (Nat.not_le.1 hfits) hok.ttl

theorem header_roundtrip (hok : HeaderOk state.toParpPredictHeaderV2)
    (hfits : ¬ ExpiryOverflows state.toParpPredictHeader)
    (hentries : entries.length = state.nrPredictions.toNat)
    (hdecoded : decoded.length = state.nrBindings.toNat) :
    encodeHeaderV2 (publishedBy active state nowNs entries decoded) parpPredictAbiVersionV3 =
      state.toParpPredictHeaderV2 := by
  have hws := hok.workingset
  unfold WorkingsetFieldsBad at hws
  unfold encodeHeaderV2
  rw [encodeHeader_published hok hfits hentries hdecoded]
  rcases oneFlag hok.flags with ⟨hflag, hzero⟩ | ⟨hflag, hone⟩
  · have hinvalid : (publishedBy active state nowNs entries decoded).workingsetValid = false := by
      simp [publishedBy, withBatch, batchV2, parpPredictStateWorkingsetValid, hflag]
    have hclear : ¬ state.flags &&& parpPredictStateWorkingsetValid ≠ 0 := not_not.2 hflag
    rw [if_neg hclear] at hws
    simp only [not_or, not_not] at hws
    obtain ⟨hdomain, hbytes, hresident, hconf, hest⟩ := hws
    rw [hinvalid, if_neg (by simp)]
    ext1 <;> simp [hzero, hdomain, hbytes, hresident, hconf, hest, hok.reserved32, hok.reserved64]
  · have hvalid : (publishedBy active state nowNs entries decoded).workingsetValid = true := by
      simp [publishedBy, withBatch, batchV2, parpPredictStateWorkingsetValid, hflag,
        parpAppPriorBatchWorkingsetValid]
    rw [hvalid, if_pos rfl]
    ext1 <;> simp [hone, hok.reserved32, hok.reserved64, publishedBy, withBatch, batchV2, batchV1,
      parpPredictStateWorkingsetValid]

end

/-- The request's allocations succeed and its timestamp is not too far ahead of the clock. -/
structure Ready (state : ParpPredictHeader) (env : SetEnv) : Prop where
  batchAllocated : env.batchAllocated = true
  bindingsAllocated : env.bindingsAllocated = true
  cloneAllocated : env.replace.clone.allocated = true
  fresh : state.timestampNs ≤ env.replace.nowNs + 5 * nsecPerSec

/-- GET_STATE_V3 returns the words, entries and bindings that were sent, and the result is accepted
again under every larger generation. -/
def RoundTrips (active : Active) (state : ParpPredictStateV3) : Prop :=
  ∃ got, parpPredictGetStateV3 active ⟨true, true⟩ = .ok got ∧
    got.toParpPredictHeaderV2 = state.toParpPredictHeaderV2 ∧
    sent got.predictions got.nrPredictions = sent state.predictions state.nrPredictions ∧
    sent got.bindings got.nrBindings = sent state.bindings state.nrBindings ∧
    ∀ generation env, state.generation < generation → Ready state.toParpPredictHeader env →
      (parpPredictSetStateV3 active (.ok { got with generation := generation }) env).1 = .ok ()

theorem accepted_parts {active : Active} {state : ParpPredictStateV3} {env : SetEnv}
    (h : (parpPredictSetStateV3 active (.ok state) env).1 = .ok ()) :
    parpPredictValidateHeaderV3 state = .ok () ∧ ∃ entries decoded,
      Accepts active state.toParpPredictHeader (batchV2 state.toParpPredictHeaderV2)
        (sent state.predictions state.nrPredictions) (decodeBindingV3 state.toParpPredictHeader)
        (sent state.bindings state.nrBindings) env entries decoded := by
  unfold parpPredictSetStateV3 at h
  dsimp only at h
  cases hheader : parpPredictValidateHeaderV3 state with
  | error e =>
    rw [hheader] at h
    cases h
  | ok u =>
    rw [hheader] at h
    exact ⟨rfl, setValidState_ok h⟩

theorem bindings_roundtrip {state : ParpPredictHeader}
    {sources : List ParpPredictBindingV3} {decoded : List ParpBinding}
    (h : List.Forall₂ (fun source binding => decodeBindingV3 state expiryNs source = .ok binding)
      sources decoded) :
    decoded.map encodeBindingV3 = sources ↔ ∀ source ∈ sources, FullConfidence source := by
  induction h with
  | nil => simp
  | cons hhead _ ih => simp [binding_roundtrip hhead, ih]

theorem decodeHint_generation {hint : UInt64} {binding decoded : ParpBinding} (generation : UInt32)
    (h : parpPredictDecodeWorkloadHint hint binding = .ok decoded) :
    parpPredictDecodeWorkloadHint hint { binding with bindGeneration := generation } =
      .ok { decoded with bindGeneration := generation } := by
  unfold parpPredictDecodeWorkloadHint at h ⊢
  split_ifs at h with hbad
  obtain rfl := Except.ok.inj h
  rw [if_neg hbad]

theorem decodeBinding_generation {state : ParpPredictHeader} {decoded : ParpBinding}
    (generation : UInt32) (h : decodeBindingV3 state expiryNs source = .ok decoded) :
    decodeBindingV3 { state with generation := generation } expiryNs source =
      .ok { decoded with bindGeneration := generation } := by
  unfold decodeBindingV3 at h ⊢
  dsimp only at h ⊢
  split_ifs at h with hbad hvalid
  · rw [if_neg hbad, if_pos hvalid]
    exact decodeHint_generation generation h
  · obtain rfl := Except.ok.inj h
    rw [if_neg hbad, if_neg hvalid]
    rfl

theorem validBindings_generation {batch : ParpAppPriorBatch} {decoded : List ParpBinding}
    (h : ValidBindings batch (.array decoded)) (hgen : generation ≠ 0) :
    ValidBindings { batch with predictionGeneration := generation }
      (.array (decoded.map fun b => { b with bindGeneration := generation })) where
  countLe := by
    change (decoded.map _).length ≤ _
    rw [List.length_map]
    exact h.countLe
  nonNull _ := rfl
  each := by
    intro b hb
    obtain ⟨b', hb', rfl⟩ := List.mem_map.1 hb
    have hok := h.each b' hb'
    exact ⟨hok.active, hok.domainId, hok.appId, hgen, hok.model, hok.expiry, hok.prior⟩
  domains := by
    have hdomains := h.domains
    simpa [BindingArray.toList, Function.comp_def] using hdomains

theorem accepts_again {active : Active} {state : ParpPredictStateV3} {env later : SetEnv}
    {entries : List ParpAppPrior} {decoded : List ParpBinding}
    (h : Accepts active state.toParpPredictHeader (batchV2 state.toParpPredictHeaderV2)
      (sent state.predictions state.nrPredictions) (decodeBindingV3 state.toParpPredictHeader)
      (sent state.bindings state.nrBindings) env entries decoded)
    (hgen : state.generation < generation)
    (hready : Ready state.toParpPredictHeader later) :
    Accepts (some (publishedBy active state env.replace.clone.nowNs entries decoded))
      { state.toParpPredictHeader with generation := generation }
      (batchV2 { state.toParpPredictHeaderV2 with generation := generation })
      (sent state.predictions state.nrPredictions)
      (decodeBindingV3 { state.toParpPredictHeader with generation := generation })
      (sent state.bindings state.nrBindings) later entries
      (decoded.map fun b => { b with bindGeneration := generation }) where
  fits := h.fits
  batchAllocated := hready.batchAllocated
  bindingsAllocated _ := hready.bindingsAllocated
  decodedEntries := h.decodedEntries
  decodedBindings := by
    rw [List.forall₂_map_right_iff]
    exact h.decodedBindings.imp fun _ _ hb => decodeBinding_generation generation hb
  validBatch := h.validBatch.withGeneration (ne_zero_of_lt hgen) hready.fresh
  validBindings := validBindings_generation h.validBindings (ne_zero_of_lt hgen)
  gate := if_neg (UInt32.not_le.2 hgen)
  allocated := hready.cloneAllocated

/-- An accepted version 3 request survives the round trip exactly when every workload hint in it
carries the full confidence. -/
theorem state_roundtrip (active : Active) (state : ParpPredictStateV3) (env : SetEnv)
    (h : (parpPredictSetStateV3 active (.ok state) env).1 = .ok ()) :
    RoundTrips (parpPredictSetStateV3 active (.ok state) env).2 state ↔
      ∀ source ∈ sent state.bindings state.nrBindings, FullConfidence source := by
  obtain ⟨hheader, entries, decoded, hacc⟩ := accepted_parts h
  have hok := headerOk hheader
  have hentries : entries.length = state.nrPredictions.toNat := by
    rw [← hacc.decodedEntries.length_eq, length_sent _ hok.predictions]
  have hdecoded : decoded.length = state.nrBindings.toNat := by
    rw [← hacc.decodedBindings.length_eq, length_sent _ hok.bindings]
  let published := publishedBy active state env.replace.clone.nowNs entries decoded
  have hset : parpPredictSetStateV3 active (.ok state) env = (.ok (), some published) := by
    unfold parpPredictSetStateV3
    dsimp only
    rw [hheader]
    exact setValidState_accepts hacc
  have hpriors : (published.priors.take parpPredictMaxApps).map encodePrediction =
      sent state.predictions state.nrPredictions := by
    have hlen : published.priors.length ≤ parpPredictMaxApps := by
      change (entries.map _).length ≤ _
      rw [List.length_map, hentries]
      exact hok.predictions
    rw [List.take_of_length_le hlen]
    change (entries.map _).map _ = _
    rw [List.map_map]
    exact (related_map hacc.decodedEntries fun _ _ hp => prediction_roundtrip hp _).trans
      (List.map_id _)
  have hbindings : (published.bindings.take parpPredictMaxBindings).map encodeBindingV3 =
      decoded.map encodeBindingV3 := by
    have hlen : decoded.length ≤ parpPredictMaxBindings := hdecoded ▸ hok.bindings
    change (decoded.take _).map _ = _
    rw [List.take_of_length_le hlen]
  have hget : parpPredictGetStateV3 (some published) ⟨true, true⟩ = .ok
      { state.toParpPredictHeaderV2 with
        predictions := paddedTable _ {} (sent state.predictions state.nrPredictions)
        bindings := paddedTable _ {} (decoded.map encodeBindingV3) } := by
    change Except.ok _ = _
    dsimp only
    rw [hpriors, hbindings, header_roundtrip hok hacc.fits hentries hdecoded]
  have hsentP : sent (paddedTable parpPredictMaxApps {}
      (sent state.predictions state.nrPredictions)) state.nrPredictions =
      sent state.predictions state.nrPredictions :=
    sent_paddedTable _ _ _ _ (length_sent _ hok.predictions).symm
      ((length_sent _ hok.predictions).trans_le hok.predictions)
  have hsentB : sent (paddedTable parpPredictMaxBindings {} (decoded.map encodeBindingV3))
      state.nrBindings = decoded.map encodeBindingV3 :=
    sent_paddedTable _ _ _ _ (by rw [List.length_map, hdecoded])
      (by rw [List.length_map, hdecoded]; exact hok.bindings)
  rw [hset]
  unfold RoundTrips
  rw [← bindings_roundtrip hacc.decodedBindings]
  constructor
  · rintro ⟨got, hgot, -, -, hsame, -⟩
    rw [hget] at hgot
    obtain rfl := Except.ok.inj hgot
    exact hsentB.symm.trans hsame
  · intro hsame
    refine ⟨_, hget, rfl, hsentP, hsentB.trans hsame, ?_⟩
    intro generation later hgen hready
    have hagain := accepts_again hacc hgen hready
    have hheader' := header_withGeneration hheader (ne_zero_of_lt hgen)
    unfold parpPredictSetStateV3
    dsimp only
    unfold parpPredictValidateHeaderV3
    dsimp only
    rw [hheader']
    dsimp only
    rw [hsentP, hsentB, hsame, setValidState_accepts hagain]

def hintState (hint : UInt64) : ParpPredictStateV3 where
  abiVersion := parpPredictAbiVersionV3
  structSize := parpPredictStateSize
  schemaVersion := parpAppPriorBatchSchema
  modelVersion := 7
  generation := 1
  nrPredictions := 1
  nrBindings := 1
  timestampNs := nsecPerSec
  horizonNs := 30 * nsecPerSec
  ttlNs := 60 * nsecPerSec
  predictions := paddedTable _ {} [{ appId := 3, scoreQ15 := 20000, rank := 1, flags := 1 }]
  bindings := paddedTable _ {} [{ domainId := 7, appId := 3, flags := 3, workloadHint := hint }]

def bootEnv : SetEnv := ⟨true, true, ⟨nsecPerSec, ⟨true, nsecPerSec⟩⟩⟩

def fullHint : UInt64 := 0xff3c01

def dimHint : UInt64 := 0x013c01

theorem full_hint_roundtrip :
    RoundTrips (parpPredictSetStateV3 none (.ok (hintState fullHint)) bootEnv).2
      (hintState fullHint) :=
  (state_roundtrip none (hintState fullHint) bootEnv (by decide +kernel)).2 (by decide +kernel)

def gotBindings : Except Errno ParpPredictStateV3 → List ParpPredictBindingV3
  | .ok got => sent got.bindings got.nrBindings
  | .error _ => []

def sendBack (active : Active) (generation : UInt32) (env : SetEnv) : Except Errno Unit :=
  match parpPredictGetStateV3 active ⟨true, true⟩ with
  | .ok got => (parpPredictSetStateV3 active (.ok { got with generation := generation }) env).1
  | .error e => .error e

/-- Confidence 1 is accepted, comes back as 0, and is then refused. -/
theorem dim_hint_lost :
    (parpPredictSetStateV3 none (.ok (hintState dimHint)) bootEnv).1 = .ok () ∧
    sendBack (parpPredictSetStateV3 none (.ok (hintState dimHint)) bootEnv).2 2 bootEnv =
      .error .einval ∧
    ¬ RoundTrips (parpPredictSetStateV3 none (.ok (hintState dimHint)) bootEnv).2
      (hintState dimHint) := by
  refine ⟨by decide +kernel, by decide +kernel, ?_⟩
  rintro ⟨got, hget, -, -, hsame, -⟩
  have hbindings := congrArg gotBindings hget
  have hne : gotBindings (parpPredictGetStateV3
      (parpPredictSetStateV3 none (.ok (hintState dimHint)) bootEnv).2 ⟨true, true⟩) ≠
      sent (hintState dimHint).bindings (hintState dimHint).nrBindings := by
    decide +kernel
  exact hne (hbindings.trans hsame)

end Parp.PredictRoundTrip
