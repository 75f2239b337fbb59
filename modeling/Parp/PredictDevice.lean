import Parp.PredictAbi
import Parp.Snapshot

set_option autoImplicit false

/-!
# The `/dev/myfs` prediction device

`mm/parp/control/dev.c`. `argp` is what `memdup_user` returns; the environment of a request says
which allocations succeed and what the clock reads.
-/
namespace Parp.PredictDevice

open PredictAbi Snapshot

def HeaderBad (state : ParpPredictHeader) (abiVersion : UInt32) : Prop :=
  state.abiVersion ≠ abiVersion ∨ state.structSize ≠ parpPredictStateSize ∨
    state.schemaVersion ≠ parpAppPriorBatchSchema ∨ state.modelVersion = 0 ∨
    state.generation = 0 ∨ state.nrPredictions = 0 ∨
    state.nrPredictions.toNat > parpPredictMaxApps ∨
    state.nrBindings.toNat > parpPredictMaxBindings ∨ state.timestampNs = 0 ∨
    state.horizonNs = 0 ∨ state.ttlNs = 0

instance (state : ParpPredictHeader) (abiVersion : UInt32) :
    Decidable (HeaderBad state abiVersion) := by
  unfold HeaderBad
  infer_instance

def TimesBad (state : ParpPredictHeader) : Prop :=
  state.ttlNs > parpAppPriorMaxTtlNs ∨ state.horizonNs > parpAppPriorMaxHorizonNs

instance (state : ParpPredictHeader) : Decidable (TimesBad state) := by
  unfold TimesBad
  infer_instance

def validateHeaderWorkingset (state : ParpPredictHeaderV2) (abiVersion : UInt32) :
    Except Errno Unit :=
  if state.flags &&& ~~~parpPredictStateWorkingsetValid ≠ 0 ∨ state.reserved32 ≠ 0 ∨
      state.reserved64 ≠ 0 ∨ HeaderBad state.toParpPredictHeader abiVersion then .error .einval
  else if TimesBad state.toParpPredictHeader then .error .erange
  else if WorkingsetFieldsBad (state.flags &&& parpPredictStateWorkingsetValid ≠ 0)
      state.policyDomainId state.predictedWorkingsetBytes state.predictedResidentBytes
      state.workingsetConfidenceQ15 state.workingsetEstimatorVersion then .error .einval
  else .ok ()

def parpPredictValidateHeaderV3 (state : ParpPredictStateV3) : Except Errno Unit :=
  validateHeaderWorkingset state.toParpPredictHeaderV2 parpPredictAbiVersionV3

def workloadHintAllowed : UInt64 :=
  parpPredictWorkloadClassMask |||
    (parpPredictWorkloadSwappinessMask <<< parpPredictWorkloadSwappinessShift) |||
    (parpPredictWorkloadConfidenceMask <<< parpPredictWorkloadConfidenceShift) |||
    parpPredictWorkloadAllowWritepage

def hintClass (hint : UInt64) : UInt8 := (hint &&& parpPredictWorkloadClassMask).toUInt8

def hintSwappiness (hint : UInt64) : UInt16 :=
  ((hint >>> parpPredictWorkloadSwappinessShift) &&& parpPredictWorkloadSwappinessMask).toUInt16

def hintConfidenceQ8 (hint : UInt64) : UInt16 :=
  ((hint >>> parpPredictWorkloadConfidenceShift) &&& parpPredictWorkloadConfidenceMask).toUInt16

def hintAllowWritepage (hint : UInt64) : Bool := hint &&& parpPredictWorkloadAllowWritepage ≠ 0

/-- `parp_predict_decode_workload_hint`; the handlers never pass a null binding. -/
def parpPredictDecodeWorkloadHint (hint : UInt64) (binding : ParpBinding) :
    Except Errno ParpBinding :=
  if hint &&& ~~~workloadHintAllowed ≠ 0 ∨ hintClass hint = parpPredictWorkloadNone ∨
      hintClass hint > parpPredictWorkloadMixed ∨ hintSwappiness hint > 200 ∨
      hintConfidenceQ8 hint = 0 ∨
      (hintAllowWritepage hint = true ∧ hintClass hint ≠ parpPredictWorkloadFileDirty) then
    .error .einval
  else
    .ok { binding with
      workloadClass := hintClass hint
      workloadSwappiness := hintSwappiness hint
      workloadConfidenceQ15 :=
        ((hintConfidenceQ8 hint).toUInt64 * UInt64.ofNat parpQ15One / 255).toUInt16
      workloadAllowWritepage := hintAllowWritepage hint
      workloadValid := true }

def decodePrediction (source : ParpPredictEntryV1) : Except Errno ParpAppPrior :=
  if source.reserved ≠ 0 ∨ source.flags &&& ~~~parpPredictEntryForeground ≠ 0 then .error .einval
  else
    .ok {
      appId := source.appId
      useScoreQ15 := source.scoreQ15
      rank := source.rank
      foreground := source.flags &&& parpPredictEntryForeground ≠ 0
      valid := true }

def activeBinding (state : ParpPredictHeader) (expiryNs domainId : UInt64) (appId : UInt32)
    (epochId : UInt64) : ParpBinding where
  domainId := domainId
  appId := appId
  bindGeneration := state.generation
  updatedNs := state.timestampNs
  expiresNs := expiryNs
  epochId := epochId
  modelVersion := state.modelVersion.toUInt64
  active := true

def decodeBindingV3 (state : ParpPredictHeader) (expiryNs : UInt64)
    (source : ParpPredictBindingV3) : Except Errno ParpBinding :=
  if source.flags &&& ~~~(parpPredictBindingActive ||| parpPredictBindingWorkloadValid) ≠ 0 ∨
      source.flags &&& parpPredictBindingActive = 0 ∨
      (source.flags &&& parpPredictBindingWorkloadValid = 0 ∧ source.workloadHint ≠ 0) then
    .error .einval
  else
    let binding := activeBinding state expiryNs source.domainId source.appId source.epochId
    if source.flags &&& parpPredictBindingWorkloadValid ≠ 0 then
      parpPredictDecodeWorkloadHint source.workloadHint binding
    else .ok binding

def batchV1 (state : ParpPredictHeader) (expiryNs : UInt64) : ParpAppPriorBatch where
  schemaVersion := state.schemaVersion
  modelVersion := state.modelVersion
  predictionGeneration := state.generation
  timestampNs := state.timestampNs
  horizonNs := state.horizonNs
  expiryNs := expiryNs

def batchV2 (state : ParpPredictHeaderV2) (expiryNs : UInt64) : ParpAppPriorBatch :=
  { batchV1 state.toParpPredictHeader expiryNs with
    flags := if state.flags &&& parpPredictStateWorkingsetValid ≠ 0 then
      parpAppPriorBatchWorkingsetValid else 0
    policyDomainId := state.policyDomainId
    predictedWorkingsetBytes := state.predictedWorkingsetBytes
    predictedResidentBytes := state.predictedResidentBytes
    workingsetConfidenceQ15 := state.workingsetConfidenceQ15
    workingsetEstimatorVersion := state.workingsetEstimatorVersion }

structure SetEnv where
  batchAllocated : Bool
  bindingsAllocated : Bool
  replace : ReplaceEnv
  deriving DecidableEq

/-- `timestamp_ns + ttl_ns` does not fit, so `check_add_overflow` reports it. -/
def ExpiryOverflows (state : ParpPredictHeader) : Prop :=
  state.timestampNs.toNat + state.ttlNs.toNat ≥ 2 ^ 64

instance (state : ParpPredictHeader) : Decidable (ExpiryOverflows state) :=
  inferInstanceAs (Decidable (_ ≥ _))

def setValidState {β : Type} (active : Active) (state : ParpPredictHeader)
    (batch : UInt64 → ParpAppPriorBatch) (predictions : List ParpPredictEntryV1)
    (decodeBinding : UInt64 → β → Except Errno ParpBinding) (bindings : List β) (env : SetEnv) :
    Except Errno Unit × Active :=
  let expiryNs := state.timestampNs + state.ttlNs
  if ExpiryOverflows state then (.error .eoverflow, active)
  else if env.batchAllocated = false ∨ (state.nrBindings ≠ 0 ∧ env.bindingsAllocated = false) then
    (.error .enomem, active)
  else
    match predictions.mapM decodePrediction with
    | .error e => (.error e, active)
    | .ok entries =>
      match bindings.mapM (decodeBinding expiryNs) with
      | .error e => (.error e, active)
      | .ok decoded =>
        parpSnapshotReplaceState active (some { batch expiryNs with entries := entries })
          (.array decoded) env.replace

def parpPredictSetStateV3 (active : Active) (argp : Except Errno ParpPredictStateV3)
    (env : SetEnv) : Except Errno Unit × Active :=
  match argp with
  | .error e => (.error e, active)
  | .ok state =>
    match parpPredictValidateHeaderV3 state with
    | .error e => (.error e, active)
    | .ok _ =>
      let header := state.toParpPredictHeader
      setValidState active header (batchV2 state.toParpPredictHeaderV2)
        (sent state.predictions state.nrPredictions) (decodeBindingV3 header)
        (sent state.bindings state.nrBindings) env

def encodePrediction (prior : ParpAppPrior) : ParpPredictEntryV1 where
  appId := prior.appId
  scoreQ15 := prior.useScoreQ15
  rank := prior.rank
  flags := if prior.foreground then parpPredictEntryForeground else 0

def confidenceQ8 (confidenceQ15 : UInt16) : UInt64 :=
  confidenceQ15.toUInt64 * 255 / UInt64.ofNat parpQ15One

def encodeWorkloadHint (binding : ParpBinding) : UInt64 :=
  let hint := binding.workloadClass.toUInt64 |||
    (binding.workloadSwappiness.toUInt64 <<< parpPredictWorkloadSwappinessShift) |||
    (confidenceQ8 binding.workloadConfidenceQ15 <<< parpPredictWorkloadConfidenceShift)
  if binding.workloadAllowWritepage then hint ||| parpPredictWorkloadAllowWritepage else hint

def encodeBindingV3 (binding : ParpBinding) : ParpPredictBindingV3 where
  domainId := binding.domainId
  appId := binding.appId
  epochId := binding.epochId
  flags := (if binding.active then parpPredictBindingActive else 0) |||
    (if binding.workloadValid then parpPredictBindingWorkloadValid else 0)
  workloadHint := if binding.workloadValid then encodeWorkloadHint binding else 0

def encodeHeader (s : ParpSnapshot) (abiVersion : UInt32) : ParpPredictHeader where
  abiVersion := abiVersion
  structSize := parpPredictStateSize
  schemaVersion := s.predictionSchemaVersion
  modelVersion := s.predictionModelVersion
  generation := s.predictionGeneration
  nrPredictions := UInt32.ofNat (min s.nrPriors parpPredictMaxApps)
  nrBindings := UInt32.ofNat (min s.nrBindings parpPredictMaxBindings)
  timestampNs := s.predictionTimestampNs
  horizonNs := s.predictionHorizonNs
  ttlNs := if s.predictionExpiryNs > s.predictionTimestampNs then
    s.predictionExpiryNs - s.predictionTimestampNs else 0

def encodeHeaderV2 (s : ParpSnapshot) (abiVersion : UInt32) : ParpPredictHeaderV2 :=
  if s.workingsetValid then
    { encodeHeader s abiVersion with
      flags := parpPredictStateWorkingsetValid
      policyDomainId := s.predictionPolicyDomainId
      predictedWorkingsetBytes := s.predictedWorkingsetBytes
      predictedResidentBytes := s.predictedResidentBytes
      workingsetConfidenceQ15 := s.workingsetConfidenceQ15
      workingsetEstimatorVersion := s.workingsetEstimatorVersion }
  else { encodeHeader s abiVersion with }

/-- Whether the state buffer is allocated and `copy_to_user` succeeds. -/
structure GetEnv where
  allocated : Bool
  copied : Bool
  deriving DecidableEq

def copyOut {α : Type} (state : α) (env : GetEnv) : Except Errno α :=
  if env.allocated = false then .error .enomem
  else if env.copied = false then .error .efault
  else .ok state

def parpPredictGetStateV3 (active : Active) (env : GetEnv) : Except Errno ParpPredictStateV3 :=
  copyOut (match active with
    | none => { abiVersion := parpPredictAbiVersionV3, structSize := parpPredictStateSize }
    | some s =>
      { encodeHeaderV2 s parpPredictAbiVersionV3 with
        predictions := paddedTable _ {} ((s.priors.take parpPredictMaxApps).map encodePrediction)
        bindings :=
          paddedTable _ {} ((s.bindings.take parpPredictMaxBindings).map encodeBindingV3) }) env

end Parp.PredictDevice
