import Parp.Internal
import Mathlib.Data.Fin.VecNotation

set_option autoImplicit false

/-!
# Per-folio reuse metadata

`struct parp_reuse_page_ext` of `mm/parp/core/effective_tier.c` and the values its writers compute.
The two packed words are records of their bit fields.
-/
namespace Parp.FolioState

abbrev parpTierFeatures : ℕ := 6
def parpMaxTier : ℕ := 3
def u16Max : ℕ := 65535
def u8Max : ℕ := 255
def s32Max : ℕ := 2 ^ 31 - 1
def s64Min : ℤ := -2 ^ 63

instance neZero_four : NeZero 4 := ⟨by decide⟩
instance neZero_eight : NeZero 8 := ⟨by decide⟩
instance neZero_sixtyFour : NeZero 64 := ⟨by decide⟩
instance neZero_byte : NeZero 256 := ⟨by decide⟩
instance neZero_seq : NeZero 2048 := ⟨by decide⟩
instance neZero_tag : NeZero 4096 := ⟨by decide⟩

/-- The fields of `state`, from bit 0: `ACCESS` 8 bits, `CANDIDATE` 6, `GENERATION` 2, `ACTION` 3,
`INITIALIZED` 1, `UNCERTAIN` 1, `SEQ` 11. -/
structure StateWord where
  access : Fin 256 := 0
  candidate : Fin 64 := 0
  generation : Fin 4 := 0
  action : Fin 8 := 0
  initialized : Bool := false
  uncertain : Bool := false
  seq : Fin 2048 := 0
  deriving DecidableEq

/-- The fields of `decision_epochs`: upgrade and downgrade tags of 12 bits, the run of 8. -/
structure DecisionEpochs where
  upgrade : Fin 4096 := 0
  downgrade : Fin 4096 := 0
  stateEpoch : UInt8 := 0
  deriving DecidableEq

def DecisionEpochs.tag (epochs : DecisionEpochs) : Bool → Fin 4096
  | true => epochs.upgrade
  | false => epochs.downgrade

def DecisionEpochs.setTag (epochs : DecisionEpochs) (tag : Fin 4096) : Bool → DecisionEpochs
  | true => { epochs with upgrade := tag }
  | false => { epochs with downgrade := tag }

/-- `parp_state_seq(state) & 1`. -/
def StateWord.Busy (w : StateWord) : Prop := w.seq.val % 2 = 1

instance (w : StateWord) : Decidable w.Busy := inferInstanceAs (Decidable (_ = _))

/-- The word `parp_state_write_begin` swaps in. -/
def StateWord.locked (w : StateWord) : StateWord := { w with seq := w.seq + 1 }

/-- The word `parp_state_write_end` stores. -/
def writeEnd (oldState newState : StateWord) : StateWord := { newState with seq := oldState.seq + 2 }

theorem StateWord.busy_locked {w : StateWord} (h : ¬ w.Busy) : w.locked.Busy := by
  have hlt := w.seq.isLt
  change ¬ w.seq.val % 2 = 1 at h
  change (w.seq.val + 1) % 2048 % 2 = 1
  omega

theorem not_busy_writeEnd {oldState : StateWord} (h : ¬ oldState.Busy) (newState : StateWord) :
    ¬ (writeEnd oldState newState).Busy := by
  have hlt := oldState.seq.isLt
  change ¬ oldState.seq.val % 2 = 1 at h
  change ¬ (oldState.seq.val + 2) % 2048 % 2 = 1
  omega

/-- `struct parp_reuse_page_ext`. -/
structure ParpReusePageExt where
  lastAccessMs : UInt32 := 0
  previousIntervalMs : UInt16 := 0
  reuseIntervalEmaMs : UInt16 := 0
  generationEnterMs : UInt32 := 0
  lifetimeEpoch : UInt32 := 0
  state : StateWord := {}
  decisionEpochs : DecisionEpochs := {}
  deriving DecidableEq

def ParpReusePageExt.endWrite (ext : ParpReusePageExt) : ParpReusePageExt :=
  { ext with state := writeEnd ext.state ext.state }

def parpSatU16 (value : UInt32) : UInt16 := UInt16.ofNat (min value.toNat u16Max)

/-- C's integer division truncates, so a falling average moves by `delta / 4` rounded to zero. -/
def parpIntervalEma (old : UInt16) (sample : UInt32) : UInt16 :=
  let sample := min sample.toNat u16Max
  if old = 0 then UInt16.ofNat sample
  else
    let delta : ℤ := (sample : ℤ) - old.toNat
    let next : ℤ := old.toNat + delta.tdiv 4
    parpSatU16 (UInt32.ofNat (next % 2 ^ 32).toNat)

def parpAccessEmaOnAccess (old : Fin 256) : Fin 256 :=
  if old = 0 then Fin.ofNat 256 u8Max
  else Fin.ofNat 256 (min (old.val + max ((u8Max - old.val) / 4) 1) u8Max)

def parpAccessEmaOnCandidate (old : Fin 256) : Fin 256 := Fin.ofNat 256 (old.val - old.val / 4)

def parpEffectiveTierElapsedMs (now earlier : UInt32) : UInt32 × Bool :=
  (now - earlier, (now - earlier).toNat ≤ s32Max)

inductive ParpAccessEvent
  | pteYoung | markAccessed | fdReference | untrustedMark | policyMark
  | nativeTierPromotion | nativeGenerationMove | policyPromotion | otherMove
  deriving DecidableEq

def parpAccessEventIsReal (event : ParpAccessEvent) : Bool :=
  event = .pteYoung ∨ event = .markAccessed ∨ event = .fdReference

/-- `event >= PARP_NATIVE_TIER_PROMOTION`. -/
def isMoveEvent (event : ParpAccessEvent) : Bool :=
  event = .nativeTierPromotion ∨ event = .nativeGenerationMove ∨ event = .policyPromotion ∨
    event = .otherMove

structure ParpTierStateSnapshot where
  lastAccessMs : UInt32 := 0
  previousIntervalMs : UInt32 := 0
  reuseIntervalEmaMs : UInt32 := 0
  generationEnterMs : UInt32 := 0
  lastUpgradeEpoch : Fin 4096 := 0
  lastDowngradeEpoch : Fin 4096 := 0
  lifetimeEpoch : UInt32 := 0
  accessEmaQ8 : Fin 256 := 0
  consecutiveCandidates : Fin 64 := 0
  generation : Fin 4 := 0
  pendingAction : Fin 8 := 0
  stateEpoch : UInt8 := 0
  stateSequence : Fin 2048 := 0
  uncertain : Bool := false
  deriving DecidableEq

/-- What `parp_candidate_features` returns and hands back, and the word it writes. -/
structure CandidateRead where
  valid : Bool
  values : Fin parpTierFeatures → ℤ
  snapshot : ParpTierStateSnapshot
  newState : StateWord

/-- `parp_candidate_features` between its `write_begin`, which returned `oldState`, and its
`write_end`. `folioGen` is `folio_lru_gen(folio)`. -/
def candidateFeatures (ext : ParpReusePageExt) (oldState : StateWord) (now : UInt32)
    (runEpoch : UInt8) (folioGen : ℤ) : CandidateRead :=
  let epochs := ext.decisionEpochs
  let (accessAge, accessValid) := parpEffectiveTierElapsedMs now ext.lastAccessMs
  let (generationAge, generationValid) := parpEffectiveTierElapsedMs now ext.generationEnterMs
  let candidates := Fin.ofNat 64 (min (oldState.candidate.val + 1) 63)
  let accessEma := parpAccessEmaOnCandidate oldState.access
  let newState := { oldState with access := accessEma, candidate := candidates }
  let moved : Bool := (oldState.generation.val : ℤ) ≠ folioGen
  { valid := oldState.initialized ∧ oldState.uncertain = false ∧ accessValid ∧ generationValid ∧
      ext.lastAccessMs ≠ 0 ∧ ext.generationEnterMs ≠ 0 ∧ epochs.stateEpoch = runEpoch ∧
      moved = false
    values := ![accessAge.toNat, ext.previousIntervalMs.toNat, ext.reuseIntervalEmaMs.toNat,
      candidates.val, generationAge.toNat, accessEma.val]
    snapshot :=
      { lastAccessMs := ext.lastAccessMs
        previousIntervalMs := ext.previousIntervalMs.toUInt32
        reuseIntervalEmaMs := ext.reuseIntervalEmaMs.toUInt32
        generationEnterMs := ext.generationEnterMs
        lastUpgradeEpoch := epochs.upgrade
        lastDowngradeEpoch := epochs.downgrade
        lifetimeEpoch := ext.lifetimeEpoch
        accessEmaQ8 := accessEma
        consecutiveCandidates := candidates
        generation := oldState.generation
        pendingAction := oldState.action
        stateEpoch := epochs.stateEpoch
        stateSequence := oldState.seq + 2
        uncertain := oldState.uncertain || moved }
    newState := if moved then { newState with uncertain := true } else newState }

end Parp.FolioState
