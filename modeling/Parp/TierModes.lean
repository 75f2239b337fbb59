import Mathlib.Data.List.Induction
import Parp.EffectiveTierSafety
import Parp.TransitionRuns

set_option autoImplicit false

/-!
# The modes of the effective tier

`parp_effective_tier_set_mode` and `_set_config`. A setter checks its request, takes
`parp_tier_mode_lock` and makes its stores one by one: faults and decisions come in between.
The wait for RCU readers at the end of `set_mode` is left out, so more runs are possible here.
-/
namespace Parp.TierModes

open EffectiveTier EffectiveTierScan TransitionRuns

inductive ModeErrno
  | einval | eopnotsupp | erange | eoverflow | ebusy | eagain
  deriving DecidableEq

def modeOfNumber : ℕ → Option ParpEffectiveTierMode
  | 0 => some .off
  | 1 => some .shadow
  | 2 => some .protectOnly
  | 3 => some .bidirectional
  | 4 => some .randomMatched
  | 5 => some .recencyBaseline
  | _ => none

/-- `mode >= PARP_EFFECTIVE_TIER_PROTECT_ONLY`. -/
def AtLeastProtectOnly (mode : ParpEffectiveTierMode) : Prop := mode ≠ .off ∧ mode ≠ .shadow

instance (mode : ParpEffectiveTierMode) : Decidable (AtLeastProtectOnly mode) :=
  inferInstanceAs (Decidable (_ ∧ _))

/-- The fields `set_config` scans, without the ids that only traces read. -/
structure ConfigLine where
  coldThreshold : ℤ
  hotThreshold1 : ℤ
  hotThreshold2 : ℤ
  hotThreshold3 : ℤ
  maxUpgrade : UInt32
  requireTwoCold : UInt32
  upgradeBatchPages : UInt64
  upgradeEpochPages : UInt64
  upgradeRatioPermyriad : UInt32
  downgradeBatchPages : UInt64
  downgradeEpochPages : UInt64
  downgradeRatioPermyriad : UInt32
  deriving DecidableEq

def ConfigLine.OutOfRange (line : ConfigLine) : Prop :=
  line.coldThreshold ≥ line.hotThreshold1 ∨ line.hotThreshold1 ≥ line.hotThreshold2 ∨
    line.hotThreshold2 ≥ line.hotThreshold3 ∨ line.maxUpgrade < 1 ∨ line.maxUpgrade > 3 ∨
    line.requireTwoCold > 1 ∨ line.upgradeBatchPages = 0 ∨ line.upgradeEpochPages = 0 ∨
    line.downgradeBatchPages = 0 ∨ line.downgradeEpochPages = 0 ∨
    line.upgradeRatioPermyriad = 0 ∨ line.upgradeRatioPermyriad > 10000 ∨
    line.downgradeRatioPermyriad = 0 ∨ line.downgradeRatioPermyriad > 10000

instance (line : ConfigLine) : Decidable line.OutOfRange := by
  unfold ConfigLine.OutOfRange
  infer_instance

def ConfigLine.config (line : ConfigLine) (sequence : UInt32) : ParpTierRuntimeConfig where
  sequence := sequence
  policy :=
    { coldThreshold := line.coldThreshold
      hotThreshold1 := line.hotThreshold1
      hotThreshold2 := line.hotThreshold2
      hotThreshold3 := line.hotThreshold3
      maxUpgradeTiers := line.maxUpgrade.toNat
      maxDowngradeTiers := 1
      requireTwoCold := line.requireTwoCold ≠ 0 }
  upgradeBatchPages := line.upgradeBatchPages
  upgradeEpochPages := line.upgradeEpochPages
  downgradeBatchPages := line.downgradeBatchPages
  downgradeEpochPages := line.downgradeEpochPages
  upgradeRatioPermyriad := line.upgradeRatioPermyriad
  downgradeRatioPermyriad := line.downgradeRatioPermyriad

/-- `parp_runtime_config_read` while nobody writes. -/
def parpRuntimeConfigRead (config : ParpTierRuntimeConfig) : Option ParpTierRuntimeConfig :=
  if config.sequence &&& 1 ≠ 0 then none else some config

/-- Who holds `parp_tier_mode_lock`, and the store it makes next. -/
inductive ModeLock
  | free
  | raiseEpoch (mode : ParpEffectiveTierMode)
  | clearFault (mode : ParpEffectiveTierMode)
  | publishMode (mode : ParpEffectiveTierMode)
  | enableKey
  | disableKey
  | publishOff
  | oddSequence (sequence : UInt32) (line : ConfigLine)
  | payload (sequence : UInt32) (line : ConfigLine)
  | evenSequence (sequence : UInt32)
  deriving DecidableEq

structure ModeState where
  mode : ParpEffectiveTierMode := .off
  stateEpoch : UInt8 := 0
  stateFault : Bool := false
  enabled : Bool := false
  metadataReady : Bool := false
  config : ParpTierRuntimeConfig := parpTierConfig
  lock : ModeLock := .free
  deriving DecidableEq

/-- The checks `set_mode` makes before it takes the lock. -/
def setModeChecked (experimentalApply metadataReady : Bool) (number : ℕ) :
    Except ModeErrno ParpEffectiveTierMode :=
  match modeOfNumber number with
  | none => .error .einval
  | some mode =>
    if AtLeastProtectOnly mode ∧ experimentalApply = false then .error .eopnotsupp
    else if mode ≠ .off ∧ metadataReady = false then .error .eopnotsupp
    else .ok mode

/-- `set_mode` under the lock: the error, or its first store. -/
def setModeLocked (s : ModeState) (mode : ParpEffectiveTierMode) : Except ModeErrno ModeLock :=
  if AtLeastProtectOnly mode ∧
      (parpRuntimeConfigRead s.config).all (fun config => config.policy.maxUpgradeTiers > 2) then
    .error .erange
  else if s.mode = mode then .ok .free
  else if s.mode = .off then
    if s.stateEpoch = 255 then .error .eoverflow else .ok (.raiseEpoch mode)
  else if mode = .off then .ok .disableKey
  else .error .ebusy

def setConfigChecked (readable : Bool) (line : Option ConfigLine) : Except ModeErrno ConfigLine :=
  if readable = false then .error .eagain
  else
    match line with
    | none => .error .einval
    | some line => if line.OutOfRange then .error .erange else .ok line

def setConfigLocked (s : ModeState) (line : ConfigLine) : Except ModeErrno ModeLock :=
  if s.mode ≠ .off then .error .ebusy else .ok (.oddSequence s.config.sequence line)

def ModeState.store (s : ModeState) : ModeState :=
  match s.lock with
  | .free => s
  | .raiseEpoch mode => { s with stateEpoch := s.stateEpoch + 1, lock := .clearFault mode }
  | .clearFault mode => { s with stateFault := false, lock := .publishMode mode }
  | .publishMode mode => { s with mode := mode, lock := .enableKey }
  | .enableKey => { s with enabled := true, lock := .free }
  | .disableKey => { s with enabled := false, lock := .publishOff }
  | .publishOff => { s with mode := .off, lock := .free }
  | .oddSequence sequence line =>
    { s with
      config := { s.config with sequence := sequence + 1 }
      lock := .payload sequence line }
  | .payload sequence line =>
    { s with config := line.config (sequence + 1), lock := .evenSequence sequence }
  | .evenSequence sequence =>
    { s with config := { s.config with sequence := sequence + 2 }, lock := .free }

/-- `readable` tells whether the reading of the old configuration, which `set_config` makes before
it takes the lock, was left undisturbed; `line` is what the text scans to. A decision stands at the
point where it reads `parp_tier_state_fault`. -/
inductive ModeEvent
  | setMode (mode : ℕ)
  | setConfig (readable : Bool) (line : Option ConfigLine)
  | store
  | metadataInit
  | fault
  | decide (ctx : ParpTierScanCtx) (state : ParpEffectiveTierState) (input : DecideInput)

inductive ModeAnswer
  | error (errno : ModeErrno)
  | waits
  | accepted
  | decided (reserved : Reserved)
  | done

def ModeState.request {α : Type} (s : ModeState) (checked : Except ModeErrno α)
    (locked : α → Except ModeErrno ModeLock) : ModeAnswer × ModeState :=
  match checked with
  | .error errno => (.error errno, s)
  | .ok request =>
    if s.lock = .free then
      match locked request with
      | .error errno => (.error errno, s)
      | .ok lock => (.accepted, { s with lock := lock })
    else (.waits, s)

def modeStep (experimentalApply : Bool) (s : ModeState) : ModeEvent → ModeAnswer × ModeState
  | .setMode number =>
    s.request (setModeChecked experimentalApply s.metadataReady number) (setModeLocked s)
  | .setConfig readable line => s.request (setConfigChecked readable line) (setConfigLocked s)
  | .store => (.done, s.store)
  | .metadataInit => (.done, { s with metadataReady := true })
  | .fault => (.done, { s with stateFault := true })
  | .decide ctx state input =>
    (.decided (parpEffectiveTierDecide ctx state { input with stateFault := s.stateFault }), s)

/-!
# What the mode setters guarantee

`ModeMove` says once what a step can do; the invariant and the laws of a run follow from it.
-/

open EffectiveTierSafety

/-- What `set_mode` has checked of an active mode. -/
structure Admitted (s : ModeState) (mode : ParpEffectiveTierMode) : Prop where
  active : mode ≠ .off
  ready : s.metadataReady = true
  bounded : AtLeastProtectOnly mode → s.config.policy.maxUpgradeTiers ≤ 2

inductive Opens (s : ModeState) : ModeLock → Prop
  | same : Opens s .free
  | start (mode : ParpEffectiveTierMode) (off : s.mode = .off) (admitted : Admitted s mode)
      (room : s.stateEpoch ≠ 255) : Opens s (.raiseEpoch mode)
  | stop (active : s.mode ≠ .off) : Opens s .disableKey
  | configure (line : ConfigLine) (off : s.mode = .off) :
      Opens s (.oddSequence s.config.sequence line)

inductive ModeMove (s : ModeState) : ModeState → Prop
  | stay : ModeMove s s
  | take (lock : ModeLock) (free : s.lock = .free) (opens : Opens s lock) :
      ModeMove s { s with lock := lock }
  | store : ModeMove s s.store
  | ready : ModeMove s { s with metadataReady := true }
  | fault : ModeMove s { s with stateFault := true }

variable {mode : ParpEffectiveTierMode} {epoch : UInt8}

theorem checked_mode {experimentalApply ready : Bool} {number : ℕ}
    (h : setModeChecked experimentalApply ready number = .ok mode) (hactive : mode ≠ .off) :
    ready = true := by
  unfold setModeChecked at h
  split at h
  · cases h
  · split_ifs at h with hcompiled hready
    obtain rfl := Except.ok.inj h
    have hnot : ¬ ready = false := fun hfalse => hready ⟨hactive, hfalse⟩
    simpa using hnot

theorem bound_of_read {config : ParpTierRuntimeConfig}
    (h : ¬ (parpRuntimeConfigRead config).all fun config => config.policy.maxUpgradeTiers > 2) :
    config.policy.maxUpgradeTiers ≤ 2 := by
  unfold parpRuntimeConfigRead at h
  split_ifs at h with hodd
  · simp at h
  · simpa using h

theorem setMode_opens {experimentalApply : Bool} {number : ℕ} {s : ModeState} {lock : ModeLock}
    (hchecked : setModeChecked experimentalApply s.metadataReady number = .ok mode)
    (h : setModeLocked s mode = .ok lock) : Opens s lock := by
  unfold setModeLocked at h
  split_ifs at h with hrange hsame hoff hfull hstop
  · obtain rfl := Except.ok.inj h
    exact .same
  · obtain rfl := Except.ok.inj h
    have hactive : mode ≠ .off := fun hmode => hsame (hoff.trans hmode.symm)
    refine .start mode hoff ⟨hactive, checked_mode hchecked hactive, ?_⟩ hfull
    intro hstrong
    exact bound_of_read fun hread => hrange ⟨hstrong, hread⟩
  · obtain rfl := Except.ok.inj h
    exact .stop hoff

theorem setConfig_opens {s : ModeState} {line : ConfigLine} {lock : ModeLock}
    (h : setConfigLocked s line = .ok lock) : Opens s lock := by
  unfold setConfigLocked at h
  split_ifs at h with hoff
  obtain rfl := Except.ok.inj h
  exact .configure line (not_not.mp hoff)

variable {α : Type} {s : ModeState} {checked : Except ModeErrno α}
  {locked : α → Except ModeErrno ModeLock}

theorem request_move
    (h : ∀ request lock, checked = .ok request → locked request = .ok lock → Opens s lock) :
    ModeMove s (s.request checked locked).2 := by
  unfold ModeState.request
  split
  · exact .stay
  · rename_i request
    split_ifs with hfree
    · split
      · exact .stay
      · rename_i lock hlock
        exact .take lock hfree (h request lock rfl hlock)
    · exact .stay

theorem modeStep_move (experimentalApply : Bool) (s : ModeState) (event : ModeEvent) :
    ModeMove s (modeStep experimentalApply s event).2 := by
  cases event with
  | setMode number => exact request_move fun _ _ hchecked h => setMode_opens hchecked h
  | setConfig readable line => exact request_move fun _ _ _ h => setConfig_opens h
  | store => exact .store
  | metadataInit => exact .ready
  | fault => exact .fault
  | decide ctx state input => exact .stay

theorem request_refused (h : ∀ request lock, checked = .ok request → locked request ≠ .ok lock) :
    (s.request checked locked).2 = s := by
  unfold ModeState.request
  split
  · rfl
  · rename_i request
    split_ifs
    · split
      · rfl
      · rename_i lock hlock
        exact absurd hlock (h request lock rfl)
    · rfl

theorem request_error {errno : ModeErrno}
    (h : (s.request checked locked).1 = .error errno) : (s.request checked locked).2 = s := by
  unfold ModeState.request at h ⊢
  split
  · rfl
  · split_ifs with hfree
    · split
      · rfl
      · simp_all
    · rfl

theorem request_locked_error {request : α}
    {locked : α → Except ModeErrno ModeLock} {errno : ModeErrno} (hfree : s.lock = .free)
    (hlocked : locked request = .error errno) :
    (s.request (.ok request) locked).1 = .error errno := by
  simp [ModeState.request, hfree, hlocked]

theorem request_fault (s : ModeState) (checked : Except ModeErrno α)
    (locked : α → Except ModeErrno ModeLock) (hfault : s.stateFault = true) :
    (s.request checked locked).2.stateFault = true := by
  unfold ModeState.request
  split
  · exact hfault
  · split_ifs
    · split <;> exact hfault
    · exact hfault

def LockOk (s : ModeState) : Prop :=
  match s.lock with
  | .free => True
  | .raiseEpoch mode => s.mode = .off ∧ Admitted s mode ∧ s.stateEpoch ≠ 255
  | .clearFault mode | .publishMode mode => s.mode = .off ∧ Admitted s mode
  | .enableKey | .disableKey | .publishOff => s.mode ≠ .off
  | .oddSequence .. | .payload .. | .evenSequence .. => s.mode = .off

structure ModeInv (s : ModeState) : Prop where
  admitted : s.mode ≠ .off → Admitted s s.mode
  lock : LockOk s

theorem inv_start : ModeInv {} := ⟨fun h => absurd rfl h, trivial⟩

theorem Admitted.of_same {s t : ModeState} (h : Admitted s mode)
    (hready : s.metadataReady = true → t.metadataReady = true) (hconfig : t.config = s.config) :
    Admitted t mode :=
  ⟨h.active, hready h.ready, by rw [hconfig]; exact h.bounded⟩

theorem LockOk.of_same {s t : ModeState} (h : LockOk s) (hmode : t.mode = s.mode)
    (hlock : t.lock = s.lock) (hepoch : t.stateEpoch = s.stateEpoch) (hconfig : t.config = s.config)
    (hready : s.metadataReady = true → t.metadataReady = true) : LockOk t := by
  unfold LockOk at h ⊢
  rw [hlock, hmode, hepoch]
  cases hcase : s.lock <;> simp only [hcase] at h ⊢
  case raiseEpoch => exact ⟨h.1, h.2.1.of_same hready hconfig, h.2.2⟩
  case clearFault | publishMode => exact ⟨h.1, h.2.of_same hready hconfig⟩
  all_goals exact h

theorem ModeInv.of_same {s t : ModeState} (h : ModeInv s) (hmode : t.mode = s.mode)
    (hlock : t.lock = s.lock) (hepoch : t.stateEpoch = s.stateEpoch) (hconfig : t.config = s.config)
    (hready : s.metadataReady = true → t.metadataReady = true) : ModeInv t where
  admitted := by
    intro hactive
    rw [hmode] at hactive ⊢
    exact (h.admitted hactive).of_same hready hconfig
  lock := h.lock.of_same hmode hlock hepoch hconfig hready

theorem store_inv {s : ModeState} (h : ModeInv s) : ModeInv s.store := by
  obtain ⟨hadmitted, hlock⟩ := h
  unfold LockOk at hlock
  unfold ModeState.store
  cases hcase : s.lock with
  | free => exact ⟨hadmitted, by simp [LockOk, hcase]⟩
  | raiseEpoch mode =>
    simp only [hcase] at hlock
    exact ⟨fun hon => absurd hlock.1 hon, hlock.1, hlock.2.1.of_same id rfl⟩
  | clearFault mode =>
    simp only [hcase] at hlock
    exact ⟨fun hon => absurd hlock.1 hon, hlock.1, hlock.2.of_same id rfl⟩
  | publishMode mode =>
    simp only [hcase] at hlock
    exact ⟨fun _ => hlock.2.of_same id rfl, hlock.2.active⟩
  | enableKey => exact ⟨fun hon => (hadmitted hon).of_same id rfl, trivial⟩
  | disableKey =>
    simp only [hcase] at hlock
    exact ⟨fun hon => (hadmitted hon).of_same id rfl, hlock⟩
  | publishOff => exact ⟨fun hon => absurd rfl hon, trivial⟩
  | oddSequence sequence line | payload sequence line =>
    simp only [hcase] at hlock
    exact ⟨fun hon => absurd hlock hon, hlock⟩
  | evenSequence sequence =>
    simp only [hcase] at hlock
    exact ⟨fun hon => absurd hlock hon, trivial⟩

theorem move_inv {s t : ModeState} (hmove : ModeMove s t) (h : ModeInv s) : ModeInv t := by
  cases hmove with
  | stay => exact h
  | take lock free opens =>
    refine ⟨fun hon => (h.admitted hon).of_same id rfl, ?_⟩
    cases opens with
    | same => trivial
    | start mode off admitted room => exact ⟨off, admitted.of_same id rfl, room⟩
    | stop active => exact active
    | configure line off => exact off
  | store => exact store_inv h
  | ready => exact h.of_same rfl rfl rfl rfl fun _ => rfl
  | fault => exact h.of_same rfl rfl rfl rfl id

def ModeLock.Starting : ModeLock → Prop
  | .clearFault _ | .publishMode _ => True
  | _ => False

theorem epoch_lt_succ (h : epoch ≠ 255) : epoch < epoch + 1 := by
  have hne : epoch.toNat ≠ 255 := fun heq => h (UInt8.toNat.inj heq)
  have hlt := epoch.toNat_lt
  rw [UInt8.lt_iff_toNat_lt, UInt8.toNat_add]
  change epoch.toNat < (epoch.toNat + 1) % 2 ^ 8
  omega

theorem move_config {s t : ModeState} (hmove : ModeMove s t) (h : ModeInv s)
    (hconfig : t.config ≠ s.config) : s.mode = .off ∧ t.mode = .off := by
  cases hmove with
  | store =>
    have hlock := h.lock
    unfold LockOk at hlock
    unfold ModeState.store at hconfig ⊢
    cases hcase : s.lock <;> simp only [hcase] at hlock hconfig ⊢
    case oddSequence | payload | evenSequence => exact ⟨hlock, hlock⟩
    all_goals exact absurd rfl hconfig
  | stay | take | ready | fault => exact absurd rfl hconfig

theorem move_active {s t : ModeState} (hmove : ModeMove s t) (h : ModeInv s)
    (hactive : s.mode ≠ .off) :
    t.stateEpoch = s.stateEpoch ∧ (t.mode = s.mode ∨ t.mode = .off ∧ t.lock = .free) := by
  cases hmove with
  | store =>
    have hlock := h.lock
    unfold LockOk at hlock
    unfold ModeState.store
    cases hcase : s.lock <;> simp only [hcase] at hlock ⊢
    case raiseEpoch => exact absurd hlock.1 hactive
    case publishMode => exact absurd hlock.1 hactive
    all_goals simp
  | stay | take | ready | fault => exact ⟨rfl, .inl rfl⟩

theorem move_fault {s t : ModeState} (hmove : ModeMove s t) (hfault : s.stateFault = true) :
    t.stateFault = true ∨ t = s.store ∧ ∃ mode, s.lock = .clearFault mode := by
  cases hmove with
  | store =>
    unfold ModeState.store
    cases hcase : s.lock
    case clearFault mode => exact .inr ⟨rfl, mode, rfl⟩
    all_goals exact .inl hfault
  | fault => exact .inl rfl
  | stay | take | ready => exact .inl hfault

def RunOver (epoch : UInt8) (s : ModeState) : Prop :=
  epoch < s.stateEpoch ∨ s.stateEpoch = epoch ∧ s.mode = .off ∧ ¬ s.lock.Starting

theorem move_runOver {s t : ModeState} (hmove : ModeMove s t) (h : ModeInv s)
    (hover : RunOver epoch s) : RunOver epoch t := by
  cases hmove with
  | stay | ready | fault => exact hover
  | take lock free opens =>
    refine hover.imp_right fun ⟨hepoch, hoff, _⟩ => ⟨hepoch, hoff, ?_⟩
    cases opens <;> exact id
  | store =>
    have hlock := h.lock
    unfold LockOk at hlock
    unfold ModeState.store
    cases hcase : s.lock <;> simp only [hcase] at hlock ⊢
    case raiseEpoch =>
      have hraised := epoch_lt_succ hlock.2.2
      rcases hover with hlt | ⟨rfl, -, -⟩
      · exact .inl (UInt8.lt_trans hlt hraised)
      · exact .inl hraised
    case clearFault | publishMode =>
      rcases hover with hlt | ⟨-, -, hnot⟩
      · exact .inl hlt
      · exact absurd (by rw [hcase]; trivial) hnot
    case free => exact hover
    case enableKey | disableKey =>
      exact hover.imp_right fun ⟨_, hoff, _⟩ => absurd hoff hlock
    case publishOff => exact hover.imp_right fun ⟨_, hoff, _⟩ => absurd hoff hlock
    all_goals exact hover.imp_right fun ⟨hepoch, hoff, _⟩ => ⟨hepoch, hoff, id⟩

def OfRun (epoch : UInt8) (s : ModeState) : Prop :=
  s.stateEpoch = epoch ∧ s.mode ≠ .off ∨ RunOver epoch s

theorem move_ofRun {s t : ModeState} (hmove : ModeMove s t) (h : ModeInv s) (hrun : OfRun epoch s) :
    OfRun epoch t := by
  rcases hrun with ⟨rfl, hactive⟩ | hover
  · obtain ⟨hepoch, hmode | ⟨hoff, hfree⟩⟩ := move_active hmove h hactive
    · exact .inl ⟨hepoch, by rw [hmode]; exact hactive⟩
    · exact .inr (.inr ⟨hepoch, hoff, by rw [hfree]; exact id⟩)
  · exact .inr (move_runOver hmove h hover)

theorem faulted_direction (ctx : ParpTierScanCtx) (state : ParpEffectiveTierState)
    {input : DecideInput} (hfault : input.stateFault = true) :
    direction (parpEffectiveTierDecide ctx state input).decision.action = none := by
  have hjudge : (judge ctx input).config = none ∧
      direction (judge ctx input).decision.action = none := by
    unfold judge
    rw [if_pos hfault]
    refine ⟨rfl, ?_⟩
    change direction (parpEffectiveTierClassify _ _ _ _ _ _).action = none
    rw [classify_direction, classify_unscored]
    simp
  unfold parpEffectiveTierDecide
  dsimp only
  rw [reserveJudged_none (.inl hjudge.1)]
  exact hjudge.2

/-- A decision that is MGLRU's own: it is not predictive, holds no budget and protects as MGLRU
would. -/
structure Native (input : DecideInput) (decision : ParpTierDecision) : Prop where
  action : direction decision.action = none
  reservation : decision.reservationActive = false
  protect : decision.actualTierProtect = nativeDecision input

theorem decide_faulted (ctx : ParpTierScanCtx) (state : ParpEffectiveTierState)
    (input : DecideInput) (hfault : input.stateFault = true) :
    Native input (parpEffectiveTierDecide ctx state input).decision := by
  cases decide_cases ctx state input with
  | kept huntouched hdirection hactual => exact ⟨hdirection, huntouched.reservation, hactual⟩
  | counted config upgrade hcounted =>
    have hdirection := faulted_direction ctx state hfault
    rw [hcounted.direction] at hdirection
    cases hdirection
  | applied config upgrade happlied =>
    have hdirection := faulted_direction ctx state hfault
    rw [happlied.direction] at hdirection
    cases hdirection

section

variable (experimentalApply : Bool)

def modeAfter (events : List ModeEvent) : ModeState := after (modeStep experimentalApply) {} events

theorem modeAfter_concat (events : List ModeEvent) (event : ModeEvent) :
    modeAfter experimentalApply (events ++ [event]) =
      (modeStep experimentalApply (modeAfter experimentalApply events) event).2 :=
  after_concat _ _ _ _

theorem modeAfter_append (events later : List ModeEvent) :
    modeAfter experimentalApply (events ++ later) =
      after (modeStep experimentalApply) (modeAfter experimentalApply events) later :=
  after_append _ _ _ _

theorem modeAfter_inv (events : List ModeEvent) : ModeInv (modeAfter experimentalApply events) :=
  after_invariant (fun s event h => move_inv (modeStep_move experimentalApply s event) h)
    inv_start events

theorem modeAfter_move (events : List ModeEvent) (event : ModeEvent) :
    ModeMove (modeAfter experimentalApply events)
      (modeAfter experimentalApply (events ++ [event])) := by
  rw [modeAfter_concat]
  exact modeStep_move experimentalApply _ event

theorem modeAfter_keeps {P : ModeState → Prop}
    (hmove : ∀ s t, ModeMove s t → ModeInv s → P s → P t) {events : List ModeEvent}
    (h : P (modeAfter experimentalApply events)) (later : List ModeEvent) :
    P (modeAfter experimentalApply (events ++ later)) := by
  induction later using List.reverseRecOn with
  | nil => simpa using h
  | append_singleton later event ih =>
    rw [← List.append_assoc]
    exact hmove _ _ (modeAfter_move experimentalApply _ event)
      (modeAfter_inv experimentalApply _) ih

/-- The store that clears the fault belongs to a transition from OFF to an active mode: the
holder's next store publishes that mode. -/
structure ClearsFault (s : ModeState) (event : ModeEvent) : Prop where
  store : event = .store
  off : s.mode = .off
  transition : ∃ mode, mode ≠ .off ∧ s.lock = .clearFault mode ∧ s.store.store.mode = mode

theorem step_fault {s : ModeState} {event : ModeEvent} (h : ModeInv s)
    (hfault : s.stateFault = true) (hkept : ¬ ClearsFault s event) :
    (modeStep experimentalApply s event).2.stateFault = true := by
  cases event with
  | store =>
    rcases move_fault (s := s) .store hfault with hfault | ⟨-, mode, hlock⟩
    · exact hfault
    · have hok := h.lock
      simp only [LockOk, hlock] at hok
      refine absurd ⟨rfl, hok.1, mode, hok.2.active, hlock, ?_⟩ hkept
      simp [ModeState.store, hlock]
  | setMode number => exact request_fault s _ _ hfault
  | setConfig readable line => exact request_fault s _ _ hfault
  | fault => rfl
  | metadataInit | decide => exact hfault

theorem fault_latched {events later : List ModeEvent}
    (hfault : (modeAfter experimentalApply events).stateFault = true)
    (hkept : Along (modeStep experimentalApply) (fun s event => ¬ ClearsFault s event)
      (modeAfter experimentalApply events) later) :
    (modeAfter experimentalApply (events ++ later)).stateFault = true := by
  rw [modeAfter_append]
  refine (after_invariant_along (I := fun s => ModeInv s ∧ s.stateFault = true) ?_
    ⟨modeAfter_inv experimentalApply events, hfault⟩ later hkept).2
  intro s event ⟨hinv, hlatched⟩ hnot
  exact ⟨move_inv (modeStep_move experimentalApply s event) hinv,
    step_fault experimentalApply hinv hlatched hnot⟩

/-- The laws of a step from the state after `events`, and of what follows it. -/
structure ModeLaws (events : List ModeEvent) (event : ModeEvent) : Prop where
  configOff : (modeAfter experimentalApply (events ++ [event])).config ≠
      (modeAfter experimentalApply events).config →
    (modeAfter experimentalApply events).mode = .off ∧
      (modeAfter experimentalApply (events ++ [event])).mode = .off
  configRejected : ∀ readable line errno, event = .setConfig readable line →
    (modeStep experimentalApply (modeAfter experimentalApply events) event).1 = .error errno →
    modeAfter experimentalApply (events ++ [event]) = modeAfter experimentalApply events
  upgradeBound : AtLeastProtectOnly (modeAfter experimentalApply events).mode →
    (modeAfter experimentalApply events).config.policy.maxUpgradeTiers ≤ 2
  metadataReady : (modeAfter experimentalApply events).mode ≠ .off →
    (modeAfter experimentalApply events).metadataReady = true
  directRefused : ∀ number mode, event = .setMode number → modeOfNumber number = some mode →
    mode ≠ .off → (modeAfter experimentalApply events).mode ≠ .off →
    mode ≠ (modeAfter experimentalApply events).mode →
    modeAfter experimentalApply (events ++ [event]) = modeAfter experimentalApply events ∧
      ((modeAfter experimentalApply events).lock = .free → ∃ errno,
        (modeStep experimentalApply (modeAfter experimentalApply events) event).1 = .error errno)
  activeKept : (modeAfter experimentalApply events).mode ≠ .off →
    (modeAfter experimentalApply (events ++ [event])).mode =
        (modeAfter experimentalApply events).mode ∨
      (modeAfter experimentalApply (events ++ [event])).mode = .off
  epochKept : (modeAfter experimentalApply events).mode ≠ .off →
    (modeAfter experimentalApply (events ++ [event])).stateEpoch =
      (modeAfter experimentalApply events).stateEpoch
  epochFresh : ∀ middle later, (modeAfter experimentalApply events).mode ≠ .off →
    (modeAfter experimentalApply (events ++ middle)).mode = .off →
    (modeAfter experimentalApply (events ++ middle ++ later)).mode ≠ .off →
    (modeAfter experimentalApply events).stateEpoch <
      (modeAfter experimentalApply (events ++ middle ++ later)).stateEpoch
  faultCleared : (modeAfter experimentalApply events).stateFault = true →
    (modeAfter experimentalApply (events ++ [event])).stateFault = false →
    ClearsFault (modeAfter experimentalApply events) event
  faultNative : event = .fault → ∀ later ctx state input,
    Along (modeStep experimentalApply) (fun s event => ¬ ClearsFault s event)
      (modeAfter experimentalApply (events ++ [event])) later →
    ∃ reserved,
      (modeStep experimentalApply (modeAfter experimentalApply (events ++ [event] ++ later))
        (.decide ctx state input)).1 = .decided reserved ∧ Native input reserved.decision

theorem direct_refused {s : ModeState} {number : ℕ} {mode : ParpEffectiveTierMode}
    (hnumber : modeOfNumber number = some mode) (hmode : mode ≠ .off) (hactive : s.mode ≠ .off)
    (hother : mode ≠ s.mode) :
    (modeStep experimentalApply s (.setMode number)).2 = s ∧
      (s.lock = .free → ∃ errno,
        (modeStep experimentalApply s (.setMode number)).1 = .error errno) := by
  have hlocked : ∃ errno, setModeLocked s mode = .error errno := by
    unfold setModeLocked
    rw [if_neg (Ne.symm hother), if_neg hactive, if_neg hmode]
    split_ifs
    · exact ⟨_, rfl⟩
    · exact ⟨_, rfl⟩
  obtain ⟨errno, hlocked⟩ := hlocked
  have hchecked : ∀ request, setModeChecked experimentalApply s.metadataReady number =
      .ok request → request = mode := by
    intro request h
    unfold setModeChecked at h
    simp only [hnumber] at h
    split_ifs at h
    exact (Except.ok.inj h).symm
  constructor
  · apply request_refused
    intro request lock hrequest
    rw [hchecked request hrequest, hlocked]
    exact nofun
  · intro hfree
    change ∃ errno, (s.request (setModeChecked experimentalApply s.metadataReady number)
      (setModeLocked s)).1 = .error errno
    cases hcase : setModeChecked experimentalApply s.metadataReady number with
    | error errno => exact ⟨errno, rfl⟩
    | ok request =>
      obtain rfl := hchecked request hcase
      exact ⟨errno, request_locked_error hfree hlocked⟩

/-- For every sequence of requests, stores and faults, and every step after it. -/
theorem mode_machine (events : List ModeEvent) (event : ModeEvent) :
    ModeLaws experimentalApply events event := by
  have hinv := modeAfter_inv experimentalApply events
  have hmove := modeAfter_move experimentalApply events event
  refine ⟨move_config hmove hinv, ?_, fun hstrong => (hinv.admitted hstrong.1).bounded hstrong,
    fun hactive => (hinv.admitted hactive).ready, ?_, ?_, ?_, ?_, ?_, ?_⟩
  · rintro readable line errno rfl herror
    rw [modeAfter_concat]
    exact request_error herror
  · rintro number mode rfl hnumber hmode hactive hother
    rw [modeAfter_concat]
    exact direct_refused experimentalApply hnumber hmode hactive hother
  · intro hactive
    exact (move_active hmove hinv hactive).2.imp_right And.left
  · intro hactive
    exact (move_active hmove hinv hactive).1
  · intro middle later hactive hoff hlater
    have hrun : OfRun (modeAfter experimentalApply events).stateEpoch
        (modeAfter experimentalApply (events ++ middle)) :=
      modeAfter_keeps experimentalApply (fun _ _ hmove hinv => move_ofRun hmove hinv)
        (.inl ⟨rfl, hactive⟩) middle
    have hover := hrun.resolve_left fun h => h.2 hoff
    have hend := modeAfter_keeps experimentalApply
      (fun _ _ hmove hinv => move_runOver hmove hinv) hover later
    exact hend.resolve_right fun h => hlater h.2.1
  · intro hfault hcleared
    by_contra hkept
    rw [modeAfter_concat, step_fault experimentalApply hinv hfault hkept] at hcleared
    cases hcleared
  · rintro rfl later ctx state input hkept
    have hfault : (modeAfter experimentalApply (events ++ [.fault])).stateFault = true := by
      rw [modeAfter_concat]
      rfl
    have hlatched := fault_latched experimentalApply hfault hkept
    have hnative := decide_faulted ctx state
      { input with stateFault := (modeAfter experimentalApply
        (events ++ [.fault] ++ later)).stateFault } hlatched
    exact ⟨_, rfl, hnative.action, hnative.reservation, hnative.protect⟩

/-- A run reaches an applying mode with the first epoch. -/
example :
    let s := modeAfter true [.metadataInit, .setMode 2, .store, .fault, .store, .store, .store]
    s.mode = .protectOnly ∧ s.stateEpoch = 1 ∧ s.stateFault = false ∧ s.lock = .free := by
  decide

end

end Parp.TierModes
