import Parp.Internal

set_option autoImplicit false

/-!
# The prediction ABI

`include/uapi/linux/parp_predict.h`, version 3. The header is that of version 1 with the working-set
estimate of version 2.
-/
namespace Parp.PredictAbi

def parpPredictAbiVersionV3 : UInt32 := 3
def parpPredictMaxApps : ℕ := 32
def parpPredictMaxBindings : ℕ := 64

def parpPredictEntryForeground : UInt32 := 1
def parpPredictBindingActive : UInt32 := 1
def parpPredictBindingWorkloadValid : UInt32 := 2
def parpPredictStateWorkingsetValid : UInt32 := 1

def parpPredictWorkloadNone : UInt8 := 0
def parpPredictWorkloadAnonHeavy : UInt8 := 1
def parpPredictWorkloadFileClean : UInt8 := 2
def parpPredictWorkloadFileDirty : UInt8 := 3
def parpPredictWorkloadMixed : UInt8 := 4

def parpPredictWorkloadClassMask : UInt64 := 0x0f
def parpPredictWorkloadSwappinessShift : UInt64 := 8
def parpPredictWorkloadSwappinessMask : UInt64 := 0xff
def parpPredictWorkloadConfidenceShift : UInt64 := 16
def parpPredictWorkloadConfidenceMask : UInt64 := 0xff
def parpPredictWorkloadAllowWritepage : UInt64 := (1 : UInt64) <<< 24

structure ParpPredictEntryV1 where
  appId : UInt32 := 0
  scoreQ15 : UInt16 := 0
  rank : UInt16 := 0
  flags : UInt32 := 0
  reserved : UInt32 := 0
  deriving DecidableEq

structure ParpPredictBindingV3 where
  domainId : UInt64 := 0
  appId : UInt32 := 0
  flags : UInt32 := 0
  epochId : UInt64 := 0
  workloadHint : UInt64 := 0
  deriving DecidableEq

@[ext]
structure ParpPredictHeader where
  abiVersion : UInt32 := 0
  structSize : UInt32 := 0
  schemaVersion : UInt32 := 0
  modelVersion : UInt32 := 0
  generation : UInt32 := 0
  nrPredictions : UInt32 := 0
  nrBindings : UInt32 := 0
  flags : UInt32 := 0
  timestampNs : UInt64 := 0
  horizonNs : UInt64 := 0
  ttlNs : UInt64 := 0
  deriving DecidableEq

@[ext]
structure ParpPredictHeaderV2 extends ParpPredictHeader where
  policyDomainId : UInt64 := 0
  predictedWorkingsetBytes : UInt64 := 0
  predictedResidentBytes : UInt64 := 0
  workingsetConfidenceQ15 : UInt16 := 0
  workingsetEstimatorVersion : UInt16 := 0
  reserved32 : UInt32 := 0
  reserved64 : UInt64 := 0
  deriving DecidableEq

structure ParpPredictStateV3 extends ParpPredictHeaderV2 where
  predictions : Vector ParpPredictEntryV1 parpPredictMaxApps := Vector.replicate _ {}
  bindings : Vector ParpPredictBindingV3 parpPredictMaxBindings := Vector.replicate _ {}

/-- `sizeof` of each state structure: 96 header bytes, 32 entries of 16 and 64 bindings of 32. -/
def parpPredictStateSize : UInt32 := 96 + 32 * 16 + 64 * 32

/-- The entries a state claims to carry: the first `nr` slots of the array. -/
def sent {α : Type} {n : ℕ} (table : Vector α n) (nr : UInt32) : List α := table.toList.take nr.toNat

def paddedTable {α : Type} (n : ℕ) (zero : α) (entries : List α) : Vector α n :=
  Vector.ofFn fun i => entries.getD i zero

theorem sent_paddedTable {α : Type} (n : ℕ) (zero : α) (entries : List α) (nr : UInt32)
    (hnr : nr.toNat = entries.length) (h : entries.length ≤ n) :
    sent (paddedTable n zero entries) nr = entries := by
  unfold sent
  rw [hnr]
  apply List.ext_getElem
  · simp [h]
  · intro i hi hi'
    simp [paddedTable, List.getElem?_eq_getElem hi']

end Parp.PredictAbi
