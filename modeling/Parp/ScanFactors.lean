import Parp.Binary64

set_option autoImplicit false

/-!
# The scan factors of the LSTM reclaim policy

`mglru_lstm_reclaim_policy.py`: the accepted configurations, the factor of an application and the
scan budget it gives.
-/
namespace Parp.ScanFactors

open CorrectRounding

structure ReclaimPolicyConfig where
  mode : String := "observe"
  foregroundFactor : ℤ := 700
  highThreshold : ℤ := 9000
  neutralThreshold : ℤ := 5000
  lowThreshold : ℤ := 2000
  highFactor : ℤ := 750
  neutralFactor : ℤ := 1000
  lowFactor : ℤ := 1100
  veryLowFactor : ℤ := 1250
  minimumFactor : ℤ := 700
  maximumFactor : ℤ := 1300
  missingProbability : ℤ := 3000
  unknownFactor : ℤ := 1000
  expiredFactor : ℤ := 1000
  predictionTtlMs : ℤ := 180000
  minimumScanPages : ℤ := 1
  maximumExtraPages : ℤ := 4096

def validModes : List String := ["disabled", "observe", "apply"]

def minSafeFactorFixed : ℤ := 100
def maxSafeFactorFixed : ℤ := 2000

/-- The factors that `validate` checks. -/
def ReclaimPolicyConfig.factors (c : ReclaimPolicyConfig) : List ℤ :=
  [c.foregroundFactor, c.highFactor, c.neutralFactor, c.lowFactor, c.veryLowFactor, c.minimumFactor,
    c.maximumFactor, c.unknownFactor, c.expiredFactor]

/-- `validate`, with the text of the `ValueError` -/
def ReclaimPolicyConfig.validate (c : ReclaimPolicyConfig) : Except String Unit :=
  if c.mode ∉ validModes then .error ("非法 policy mode: " ++ c.mode)
  else if ¬ (c.highThreshold ≤ 10000 ∧ c.neutralThreshold ≤ c.highThreshold ∧
      c.lowThreshold ≤ c.neutralThreshold ∧ 0 ≤ c.lowThreshold) then
    .error "概率阈值必须满足 10000 >= high >= neutral >= low >= 0"
  else if ∃ factor ∈ c.factors, factor < minSafeFactorFixed ∨ maxSafeFactorFixed < factor then
    .error "scan factor 必须位于安全范围 100..2000"
  else if c.maximumFactor < c.minimumFactor then
    .error "minimum_scan_factor 不能大于 maximum_scan_factor"
  else if c.minimumScanPages < 0 ∨ c.maximumExtraPages < 0 then .error "扫描页边界不能为负数"
  else if c.predictionTtlMs ≤ 0 then .error "prediction_ttl_ms 必须大于 0"
  else .ok ()

/-- What `validate` accepts. -/
structure Accepted (c : ReclaimPolicyConfig) : Prop where
  mode : c.mode ∈ validModes
  high : c.highThreshold ≤ 10000
  neutral : c.neutralThreshold ≤ c.highThreshold
  low : c.lowThreshold ≤ c.neutralThreshold
  lowest : 0 ≤ c.lowThreshold
  factors : ∀ factor ∈ c.factors, minSafeFactorFixed ≤ factor ∧ factor ≤ maxSafeFactorFixed
  bounds : c.minimumFactor ≤ c.maximumFactor
  pages : 0 ≤ c.minimumScanPages
  extra : 0 ≤ c.maximumExtraPages
  ttl : 0 < c.predictionTtlMs

theorem validate_eq_ok_iff (c : ReclaimPolicyConfig) : c.validate = .ok () ↔ Accepted c := by
  unfold ReclaimPolicyConfig.validate
  constructor
  · intro h
    split_ifs at h with hmode hthresholds hfactors hbounds hpages httl
    push Not at hfactors hbounds hpages httl
    obtain ⟨hhigh, hneutral, hlow, hlowest⟩ := hthresholds
    exact ⟨hmode, hhigh, hneutral, hlow, hlowest, hfactors, hbounds, hpages.1, hpages.2, httl⟩
  · intro h
    rw [if_neg (not_not.2 h.mode), if_neg (not_not.2 ⟨h.high, h.neutral, h.low, h.lowest⟩),
      if_neg, if_neg (not_lt.2 h.bounds), if_neg, if_neg (not_le.2 h.ttl)]
    · exact not_or.2 ⟨not_lt.2 h.pages, not_lt.2 h.extra⟩
    · rintro ⟨factor, hmem, hless | hmore⟩
      · exact absurd (h.factors factor hmem).1 (not_le.2 hless)
      · exact absurd (h.factors factor hmem).2 (not_le.2 hmore)

/-- A Python float: a finite value read as a rational, an infinity or a NaN. -/
inductive PyFloat
  | finite (value : ℚ)
  | infinite
  | nan

inductive PyError
  | overflow
  | value
  deriving DecidableEq

/-- `_fixed_probability`; `round` takes neither an infinite product nor a NaN. -/
def fixedProbability : PyFloat → Except PyError ℤ
  | .finite value =>
    if 2 ^ 1024 ≤ |binary64 (value * 10000)| then .error .overflow
    else .ok (max 0 (min 10000 (roundHalfEven (binary64 (value * 10000)))))
  | .infinite => .error .overflow
  | .nan => .error .value

def ReclaimPolicyConfig.probabilityFactor (c : ReclaimPolicyConfig) (fixed : ℤ) : String × ℤ :=
  if c.highThreshold ≤ fixed then ("high", c.highFactor)
  else if c.neutralThreshold ≤ fixed then ("neutral", c.neutralFactor)
  else if c.lowThreshold ≤ fixed then ("low", c.lowFactor)
  else ("very_low", c.veryLowFactor)

structure Flags where
  foreground : Bool := false
  expired : Bool := false
  unknownApp : Bool := false

def chooseScanFactor (c : ReclaimPolicyConfig) (probability : Option PyFloat) (flags : Flags) :
    Except PyError (String × ℤ) :=
  if flags.foreground then .ok ("foreground", c.foregroundFactor)
  else if flags.unknownApp then .ok ("unknown", c.unknownFactor)
  else if flags.expired then .ok ("expired", c.expiredFactor)
  else match probability with
    | none => .ok ("missing", (c.probabilityFactor c.missingProbability).2)
    | some p => (fixedProbability p).map c.probabilityFactor

structure ScanBudgetDecision where
  bucket : String
  factor : ℤ
  original : ℤ
  proposed : ℤ
  actual : ℤ
  deriving DecidableEq

def ReclaimPolicyConfig.clamped (c : ReclaimPolicyConfig) (rawFactor : ℤ) : ℤ :=
  max c.minimumFactor (min c.maximumFactor rawFactor)

/-- `original * factor // 1000` -/
def scaled (original factor : ℤ) : ℤ := original * factor / 1000

/-- What is proposed for a positive count: a product of zero is replaced by `minimum_scan_pages`, and
what exceeds the count is capped. -/
def ReclaimPolicyConfig.proposal (c : ReclaimPolicyConfig) (original factor : ℤ) : ℤ :=
  let proposed := if scaled original factor = 0 then c.minimumScanPages else scaled original factor
  if original < proposed then min proposed (original + c.maximumExtraPages) else proposed

/-- What takes the place of a product of zero. -/
def ReclaimPolicyConfig.replacement (c : ReclaimPolicyConfig) (original : ℤ) : ℤ :=
  min c.minimumScanPages (original + c.maximumExtraPages)

def calculateScanBudget (original : ℤ) (c : ReclaimPolicyConfig) (probability : Option PyFloat)
    (flags : Flags) : Except PyError ScanBudgetDecision :=
  (chooseScanFactor c probability flags).map fun (bucket, rawFactor) =>
    let factor := c.clamped rawFactor
    let original := max 0 original
    let proposed := if original = 0 then 0 else c.proposal original factor
    let actual := if c.mode = "apply" then proposed else original
    ⟨bucket, factor, original, proposed, actual⟩

section

variable {c : ReclaimPolicyConfig}

theorem fixedProbability_mono {p q : ℚ} (h : p ≤ q) {a b : ℤ}
    (ha : fixedProbability (.finite p) = .ok a) (hb : fixedProbability (.finite q) = .ok b) :
    a ≤ b := by
  simp only [fixedProbability] at ha hb
  split_ifs at ha hb
  obtain rfl := Except.ok.inj ha
  obtain rfl := Except.ok.inj hb
  have hscaled : p * 10000 ≤ q * 10000 := mul_le_mul_of_nonneg_right h (by norm_num)
  exact max_le_max le_rfl (min_le_min le_rfl (roundHalfEven_mono (binary64_mono hscaled)))

structure Ladder (c : ReclaimPolicyConfig) : Prop where
  foreground : c.foregroundFactor ≤ c.highFactor
  high : c.highFactor ≤ c.neutralFactor
  neutral : c.neutralFactor ≤ c.lowFactor
  low : c.lowFactor ≤ c.veryLowFactor

theorem Ladder.antitone (h : Ladder c) {a b : ℤ} (hab : a ≤ b) :
    (c.probabilityFactor b).2 ≤ (c.probabilityFactor a).2 := by
  obtain ⟨-, hhigh, hneutral, hlow⟩ := h
  unfold ReclaimPolicyConfig.probabilityFactor
  split_ifs <;> dsimp only <;> omega

theorem Ladder.foreground_le (h : Ladder c) (fixed : ℤ) :
    c.foregroundFactor ≤ (c.probabilityFactor fixed).2 := by
  obtain ⟨hforeground, hhigh, hneutral, hlow⟩ := h
  unfold ReclaimPolicyConfig.probabilityFactor
  split_ifs <;> dsimp only <;> omega

theorem clamped_mono {a b : ℤ} (h : a ≤ b) : c.clamped a ≤ c.clamped b :=
  max_le_max le_rfl (min_le_min le_rfl h)

theorem clamped_pos (h : Accepted c) (rawFactor : ℤ) : 0 < c.clamped rawFactor := by
  have hleast := (h.factors c.minimumFactor (by simp [ReclaimPolicyConfig.factors])).1
  have hclamped : c.minimumFactor ≤ c.clamped rawFactor := le_max_left _ _
  unfold minSafeFactorFixed at hleast
  omega

end

section

variable {c : ReclaimPolicyConfig} {original factor factor' : ℤ}

theorem scaled_nonneg (horiginal : 0 ≤ original) (hfactor : 0 ≤ factor) : 0 ≤ scaled original factor :=
  Int.ediv_nonneg (mul_nonneg horiginal hfactor) (by decide)

theorem scaled_mono (horiginal : 0 ≤ original) (h : factor ≤ factor') :
    scaled original factor ≤ scaled original factor' :=
  Int.ediv_le_ediv (by decide) (mul_le_mul_of_nonneg_left h horiginal)

theorem scaled_le (horiginal : 0 ≤ original) (h : factor ≤ 1000) : scaled original factor ≤ original := by
  have hproduct := mul_le_mul_of_nonneg_left h horiginal
  unfold scaled
  omega

theorem proposal_eq (h : Accepted c) (original factor : ℤ) :
    c.proposal original factor = if scaled original factor = 0 then c.replacement original
      else min (scaled original factor) (original + c.maximumExtraPages) := by
  have hextra := h.extra
  unfold ReclaimPolicyConfig.proposal ReclaimPolicyConfig.replacement
  dsimp only
  split_ifs <;> omega

theorem proposal_eq_zero_iff (h : Accepted c) (horiginal : 0 < original) :
    c.proposal original factor = 0 ↔ scaled original factor = 0 ∧ c.minimumScanPages = 0 := by
  have hextra := h.extra
  rw [proposal_eq h]
  unfold ReclaimPolicyConfig.replacement
  split_ifs <;> omega

theorem proposal_le (h : Accepted c) : c.proposal original factor ≤ original + c.maximumExtraPages := by
  rw [proposal_eq h]
  split_ifs
  · exact min_le_right _ _
  · exact min_le_right _ _

theorem proposal_le_original_iff (h : Accepted c) (horiginal : 0 ≤ original) (hfactor : factor ≤ 1000) :
    c.proposal original factor ≤ original ↔
      (scaled original factor = 0 → c.replacement original ≤ original) := by
  have hscaled := scaled_le horiginal hfactor
  rw [proposal_eq h]
  split_ifs with hzero
  · exact ⟨fun hle _ => hle, fun hle => hle hzero⟩
  · exact iff_of_true (min_le_of_left_le hscaled) fun hzero' => absurd hzero' hzero

theorem proposal_le_iff (h : Accepted c) (horiginal : 0 ≤ original) (hpos : 0 ≤ factor)
    (hfactor : factor ≤ factor') :
    c.proposal original factor ≤ c.proposal original factor' ↔
      (scaled original factor = 0 → scaled original factor' ≠ 0 →
        c.replacement original ≤ scaled original factor') := by
  have hscaled := scaled_mono horiginal hfactor
  have hnonneg := scaled_nonneg horiginal hpos
  rw [proposal_eq h, proposal_eq h]
  unfold ReclaimPolicyConfig.replacement
  split_ifs with hzero <;> omega

end

section

variable {c : ReclaimPolicyConfig} {probability : Option PyFloat} {flags : Flags}

theorem calculateScanBudget_eq_ok_iff {original : ℤ} {d : ScanBudgetDecision} :
    calculateScanBudget original c probability flags = .ok d ↔ ∃ bucket rawFactor,
      chooseScanFactor c probability flags = .ok (bucket, rawFactor) ∧
        d = { bucket, factor := c.clamped rawFactor, original := max 0 original
              proposed := if max 0 original = 0 then 0
                else c.proposal (max 0 original) (c.clamped rawFactor)
              actual := if c.mode = "apply" then
                  if max 0 original = 0 then 0
                  else c.proposal (max 0 original) (c.clamped rawFactor)
                else max 0 original } := by
  unfold calculateScanBudget
  cases hchosen : chooseScanFactor c probability flags with
  | error e => exact ⟨nofun, fun ⟨_, _, h, _⟩ => nomatch h⟩
  | ok chosen =>
    obtain ⟨bucket, rawFactor⟩ := chosen
    constructor
    · intro h
      exact ⟨bucket, rawFactor, rfl, (Except.ok.inj h).symm⟩
    · rintro ⟨bucket', rawFactor', h, rfl⟩
      cases h
      rfl

structure Bounded (c : ReclaimPolicyConfig) (d : ScanBudgetDecision) : Prop where
  zero : d.proposed = 0 ↔
    d.original = 0 ∨ scaled d.original d.factor = 0 ∧ c.minimumScanPages = 0
  extra : d.proposed ≤ d.original + c.maximumExtraPages
  protects : d.factor ≤ 1000 → (d.proposed ≤ d.original ↔
    (d.original ≠ 0 → scaled d.original d.factor = 0 → c.replacement d.original ≤ d.original))
  observes : c.mode ≠ "apply" → d.actual = d.original

theorem decision_bounded (h : Accepted c) {original : ℤ} {d : ScanBudgetDecision}
    (hd : calculateScanBudget original c probability flags = .ok d) : Bounded c d := by
  obtain ⟨bucket, rawFactor, -, rfl⟩ := calculateScanBudget_eq_ok_iff.1 hd
  have hnonneg : 0 ≤ max 0 original := le_max_left _ _
  have hextra := h.extra
  constructor <;> dsimp only
  · by_cases hzero : max 0 original = 0
    · simp [hzero]
    · rw [if_neg hzero, proposal_eq_zero_iff h (lt_of_le_of_ne hnonneg (Ne.symm hzero))]
      exact ⟨fun h => .inr h, fun h => h.resolve_left hzero⟩
  · by_cases hzero : max 0 original = 0
    · rw [if_pos hzero]
      omega
    · rw [if_neg hzero]
      exact proposal_le h
  · intro hfactor
    by_cases hzero : max 0 original = 0
    · rw [if_pos hzero]
      exact iff_of_true hnonneg fun hne => absurd hzero hne
    · rw [if_neg hzero, proposal_le_original_iff h hnonneg hfactor, forall_prop_of_true hzero]
  · exact fun hmode => if_neg hmode

theorem decisions_ordered (h : Accepted c) {original : ℤ} {probability probability' : Option PyFloat}
    {flags flags' : Flags} {d d' : ScanBudgetDecision}
    (hd : calculateScanBudget original c probability flags = .ok d)
    (hd' : calculateScanBudget original c probability' flags' = .ok d')
    (hfactor : ∀ chosen chosen', chooseScanFactor c probability flags = .ok chosen →
      chooseScanFactor c probability' flags' = .ok chosen' → chosen.2 ≤ chosen'.2) :
    d.proposed ≤ d'.proposed ↔ (scaled d.original d.factor = 0 →
      scaled d'.original d'.factor ≠ 0 → c.replacement d.original ≤ scaled d'.original d'.factor) := by
  obtain ⟨bucket, rawFactor, hchosen, rfl⟩ := calculateScanBudget_eq_ok_iff.1 hd
  obtain ⟨bucket', rawFactor', hchosen', rfl⟩ := calculateScanBudget_eq_ok_iff.1 hd'
  have hclamped := clamped_mono (c := c) (hfactor _ _ hchosen hchosen')
  dsimp only
  by_cases hzero : max 0 original = 0
  · rw [if_pos hzero, if_pos hzero, hzero]
    exact iff_of_true le_rfl fun _ hne => absurd (by simp [scaled]) hne
  · rw [if_neg hzero, if_neg hzero]
    exact proposal_le_iff h (le_max_left _ _) (clamped_pos h rawFactor).le hclamped

theorem chosen_background (hforeground : flags.foreground = false)
    (hexpired : flags.expired = false) (hunknown : flags.unknownApp = false) {p : PyFloat}
    {chosen : String × ℤ} (h : chooseScanFactor c (some p) flags = .ok chosen) :
    ∃ fixed, fixedProbability p = .ok fixed ∧ chosen = c.probabilityFactor fixed := by
  unfold chooseScanFactor at h
  simp only [hforeground, hexpired, hunknown, Bool.false_eq_true, if_false] at h
  cases hp : fixedProbability p with
  | error e => rw [hp] at h; cases h
  | ok fixed =>
    rw [hp] at h
    exact ⟨fixed, rfl, (Except.ok.inj h).symm⟩

theorem chosen_flagged
    (h : ¬ (flags.foreground = false ∧ flags.expired = false ∧ flags.unknownApp = false))
    (probability probability' : Option PyFloat) :
    chooseScanFactor c probability flags = chooseScanFactor c probability' flags := by
  unfold chooseScanFactor
  split_ifs with hforeground hunknown hexpired
  · rfl
  · rfl
  · rfl
  · simp only [Bool.not_eq_true] at hforeground hunknown hexpired
    exact absurd ⟨hforeground, hexpired, hunknown⟩ h

theorem probabilities_ordered (hladder : Ladder c) {p q : ℚ} (hpq : p ≤ q) (flags : Flags)
    (chosen chosen' : String × ℤ)
    (hchosen : chooseScanFactor c (some (.finite q)) flags = .ok chosen)
    (hchosen' : chooseScanFactor c (some (.finite p)) flags = .ok chosen') :
    chosen.2 ≤ chosen'.2 := by
  by_cases hflags : flags.foreground = false ∧ flags.expired = false ∧ flags.unknownApp = false
  · obtain ⟨hforeground, hexpired, hunknown⟩ := hflags
    obtain ⟨b, hb, rfl⟩ := chosen_background hforeground hexpired hunknown hchosen
    obtain ⟨a, ha, rfl⟩ := chosen_background hforeground hexpired hunknown hchosen'
    exact hladder.antitone (fixedProbability_mono hpq ha hb)
  · rw [chosen_flagged hflags _ (some (.finite p)), hchosen'] at hchosen
    rw [Except.ok.inj hchosen]

theorem foreground_ordered (hladder : Ladder c) {p : PyFloat} {flags flags' : Flags}
    (hflags : flags.foreground = true) (hforeground : flags'.foreground = false)
    (hexpired : flags'.expired = false) (hunknown : flags'.unknownApp = false)
    (chosen chosen' : String × ℤ) (hchosen : chooseScanFactor c probability flags = .ok chosen)
    (hchosen' : chooseScanFactor c (some p) flags' = .ok chosen') : chosen.2 ≤ chosen'.2 := by
  obtain ⟨fixed, -, rfl⟩ := chosen_background hforeground hexpired hunknown hchosen'
  unfold chooseScanFactor at hchosen
  rw [if_pos hflags] at hchosen
  cases hchosen
  exact hladder.foreground_le fixed

/-- Of two decisions on one count the one of the more protected application proposes more exactly where
its product is 0, the other's is not, and what takes the place of 0 is above the other's. -/
structure Ordered (c : ReclaimPolicyConfig) (original : ℤ) : Prop where
  probability : ∀ p q flags d d', p ≤ q →
    calculateScanBudget original c (some (.finite q)) flags = .ok d →
    calculateScanBudget original c (some (.finite p)) flags = .ok d' →
    (d.proposed ≤ d'.proposed ↔ (scaled d.original d.factor = 0 →
      scaled d'.original d'.factor ≠ 0 → c.replacement d.original ≤ scaled d'.original d'.factor))
  foreground : ∀ probability p flags flags' d d', flags.foreground = true →
    flags'.foreground = false → flags'.expired = false → flags'.unknownApp = false →
    calculateScanBudget original c probability flags = .ok d →
    calculateScanBudget original c (some p) flags' = .ok d' →
    (d.proposed ≤ d'.proposed ↔ (scaled d.original d.factor = 0 →
      scaled d'.original d'.factor ≠ 0 → c.replacement d.original ≤ scaled d'.original d'.factor))

/-- Every decision under an accepted configuration is bounded, and monotone where the factors are. -/
theorem scan_budget_bounded_and_monotone (h : c.validate = .ok ()) (original : ℤ) :
    (∀ probability flags d, calculateScanBudget original c probability flags = .ok d →
      Bounded c d) ∧ (Ladder c → Ordered c original) := by
  have haccepted := (validate_eq_ok_iff c).1 h
  refine ⟨fun probability flags d hd => decision_bounded haccepted hd, fun hladder => ⟨?_, ?_⟩⟩
  · intro p q flags d d' hpq hd hd'
    exact decisions_ordered haccepted hd hd' (probabilities_ordered hladder hpq flags)
  · intro probability p flags flags' d d' hflags hforeground hexpired hunknown hd hd'
    exact decisions_ordered haccepted hd hd'
      (foreground_ordered hladder hflags hforeground hexpired hunknown)

theorem scan_budget_bounded_and_monotone_shipped :
    (∀ probability flags d, calculateScanBudget 1000 {} probability flags = .ok d → Bounded {} d) ∧
      (Ladder {} → Ordered {} 1000) :=
  scan_budget_bounded_and_monotone (by decide) 1000

/-- Without a minimum one page of an application that will be used is not scanned at all, and with a
minimum of five it is scanned more often than there are pages, more than for an application that will
not be used. -/
theorem minimum_replaces_zero :
    (({ minimumScanPages := 0 } : ReclaimPolicyConfig).validate = .ok () ∧
      ∃ d, calculateScanBudget 1 { minimumScanPages := 0 } (some (.finite 1)) {} = .ok d ∧
        d.original = 1 ∧ d.proposed = 0) ∧
    ({ minimumScanPages := 5 } : ReclaimPolicyConfig).validate = .ok () ∧
      Ladder { minimumScanPages := 5 } ∧
      ∃ d d', calculateScanBudget 1 { minimumScanPages := 5 } (some (.finite 1)) {} = .ok d ∧
        calculateScanBudget 1 { minimumScanPages := 5 } (some (.finite (3 / 5))) {} = .ok d' ∧
        d.factor ≤ 1000 ∧ d.original < d.proposed ∧ d'.proposed < d.proposed := by
  refine ⟨⟨by decide, ⟨"high", 750, 1, 0, 1⟩, by decide +kernel, rfl, rfl⟩, by decide, ⟨by decide, by decide,
    by decide, by decide⟩, ⟨"high", 750, 1, 5, 1⟩, ⟨"neutral", 1000, 1, 1, 1⟩, by decide +kernel,
    by decide +kernel, by decide, by decide, by decide⟩

end

end Parp.ScanFactors
