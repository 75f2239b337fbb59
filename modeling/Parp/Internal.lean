import Mathlib.Algebra.BigOperators.Group.List.Basic
import Mathlib.Algebra.Order.Ring.Int

set_option autoImplicit false

namespace Parp

inductive Errno
  | enoent | enomem | efault | ebusy | einval | erange | enotty | eoverflow | estale | ealready
  deriving DecidableEq

def nsecPerSec : UInt64 := 1000000000
def nsecPerMsec : UInt64 := 1000000

def parpQ15One : ℕ := 32767
def parpMaxApps : ℕ := 32
def parpMaxDomains : ℕ := 64
def parpAppPriorBatchSchema : UInt32 := 1
def parpAppPriorMaxTtlNs : UInt64 := 10 * 60 * nsecPerSec
def parpAppPriorMaxHorizonNs : UInt64 := 60 * 60 * nsecPerSec
def parpAppPriorBatchWorkingsetValid : UInt32 := 1
def parpWorkingsetMaxAgeNs : UInt64 := 10 * nsecPerSec

/-- `struct parp_app_prior`; every field left out of an initializer is zero, as in C. -/
structure ParpAppPrior where
  appId : UInt32 := 0
  useScoreQ15 : UInt16 := 0
  rank : UInt16 := 0
  horizonMs : UInt32 := 0
  updatedNs : UInt64 := 0
  expiresNs : UInt64 := 0
  modelVersion : UInt64 := 0
  predictionGeneration : UInt32 := 0
  flags : UInt32 := 0
  foreground : Bool := false
  valid : Bool := false
  deriving DecidableEq

/-- `struct parp_app_prior_batch`; `entries` holds the first `nr_entries` slots. -/
structure ParpAppPriorBatch where
  schemaVersion : UInt32 := 0
  modelVersion : UInt32 := 0
  predictionGeneration : UInt32 := 0
  flags : UInt32 := 0
  timestampNs : UInt64 := 0
  horizonNs : UInt64 := 0
  expiryNs : UInt64 := 0
  policyDomainId : UInt64 := 0
  predictedWorkingsetBytes : UInt64 := 0
  predictedResidentBytes : UInt64 := 0
  workingsetConfidenceQ15 : UInt16 := 0
  workingsetEstimatorVersion : UInt16 := 0
  entries : List ParpAppPrior := []
  deriving DecidableEq

def ParpAppPriorBatch.nrEntries (batch : ParpAppPriorBatch) : ℕ := batch.entries.length

structure ParpBinding where
  domainId : UInt64 := 0
  appId : UInt32 := 0
  bindGeneration : UInt32 := 0
  updatedNs : UInt64 := 0
  expiresNs : UInt64 := 0
  epochId : UInt64 := 0
  modelVersion : UInt64 := 0
  workloadConfidenceQ15 : UInt16 := 0
  workloadSwappiness : UInt16 := 0
  workloadClass : UInt8 := 0
  workloadAllowWritepage : Bool := false
  workloadValid : Bool := false
  active : Bool := false
  deriving DecidableEq

/-- `struct parp_snapshot`; `priors` and `bindings` hold the first `nr_priors` and
`nr_bindings` slots of the fixed arrays. -/
structure ParpSnapshot where
  version : UInt64 := 0
  createdNs : UInt64 := 0
  expiresNs : UInt64 := 0
  predictionSchemaVersion : UInt32 := 0
  predictionModelVersion : UInt32 := 0
  predictionGeneration : UInt32 := 0
  predictionTimestampNs : UInt64 := 0
  predictionHorizonNs : UInt64 := 0
  predictionExpiryNs : UInt64 := 0
  predictionPolicyDomainId : UInt64 := 0
  predictedWorkingsetBytes : UInt64 := 0
  predictedResidentBytes : UInt64 := 0
  workingsetConfidenceQ15 : UInt16 := 0
  workingsetEstimatorVersion : UInt16 := 0
  workingsetValid : Bool := false
  priors : List ParpAppPrior := []
  bindings : List ParpBinding := []
  deriving DecidableEq

def ParpSnapshot.nrPriors (snapshot : ParpSnapshot) : ℕ := snapshot.priors.length
def ParpSnapshot.nrBindings (snapshot : ParpSnapshot) : ℕ := snapshot.bindings.length

structure ParpAppContext where
  domainId : UInt64 := 0
  appId : UInt32 := 0
  bindGeneration : UInt32 := 0
  predictionGeneration : UInt32 := 0
  foregroundEpochId : UInt64 := 0
  bindExpiryNs : UInt64 := 0
  modelVersion : UInt64 := 0
  appPriorQ15 : UInt16 := 0
  appRank : UInt16 := 0
  workloadConfidenceQ15 : UInt16 := 0
  workloadSwappiness : UInt16 := 0
  ownerConfidenceQ15 : UInt16 := 0
  ownerSource : UInt32 := 0
  workloadClass : UInt8 := 0
  workloadAllowWritepage : Bool := false
  workloadValid : Bool := false
  foreground : Bool := false
  deriving DecidableEq

structure ParpWorkingsetPrediction where
  policyDomainId : UInt64 := 0
  predictedWorkingsetBytes : UInt64 := 0
  predictedResidentBytes : UInt64 := 0
  timestampNs : UInt64 := 0
  expiryNs : UInt64 := 0
  generation : UInt32 := 0
  confidenceQ15 : UInt16 := 0
  estimatorVersion : UInt16 := 0
  deriving DecidableEq

end Parp
