import Parp.Binary64
import Parp.PredictDevice
import Parp.Words

set_option autoImplicit false

/-!
# Reclaim workload profiles

`core/reclaim_workload.py`: the composition of a cgroup as a class, and the hint that carries it to
the kernel. Ratios are correctly rounded quotients, as Python divides integers.
-/
namespace Parp.ReclaimWorkload

open PredictAbi PredictDevice CorrectRounding WordFields

def minManagedBytes : ℤ := 8 * 1024 * 1024
def minDirtyBytes : ℤ := 8 * 1024 * 1024
def minConfidenceQ8 : ℕ := 128

structure ReclaimWorkloadProfile where
  domainId : ℤ := 0
  workloadClass : UInt8 := parpPredictWorkloadNone
  swappiness : ℕ := 0
  confidenceQ8 : ℕ := 0
  allowWritepage : Bool := false
  anonBytes : ℤ := 0
  fileBytes : ℤ := 0
  fileDirtyBytes : ℤ := 0

namespace ReclaimWorkloadProfile

variable (profile : ReclaimWorkloadProfile)

def valid : Bool :=
  0 < profile.domainId ∧
    profile.workloadClass ∈ [parpPredictWorkloadAnonHeavy, parpPredictWorkloadFileClean,
      parpPredictWorkloadFileDirty, parpPredictWorkloadMixed] ∧
    profile.swappiness ≤ 200 ∧ minConfidenceQ8 ≤ profile.confidenceQ8

def workloadHint : ℕ :=
  if profile.valid = false then 0
  else
    (profile.workloadClass.toNat &&& 0x0f) ||| ((profile.swappiness &&& 0xff) <<< 8) |||
      ((profile.confidenceQ8 &&& 0xff) <<< 16) ||| (if profile.allowWritepage then 1 <<< 24 else 0)

end ReclaimWorkloadProfile

/-- `int / int`. -/
def ratio (part total : ℤ) : ℚ := binary64 (part / total)

def counter (values : String → Option ℤ) (name : String) : ℤ := max 0 ((values name).getD 0)

def anonBytes (values : String → Option ℤ) : ℤ := counter values "anon"

def fileBytes (values : String → Option ℤ) : ℤ := counter values "file"

def dirtyBytes (values : String → Option ℤ) : ℤ :=
  min (fileBytes values) (counter values "file_dirty")

def dirtyRatio (dirty file : ℤ) : ℚ := if file ≠ 0 then ratio dirty file else 0

def composition (anon file dirty : ℤ) : UInt8 × ℕ × Bool × ℚ :=
  let anonRatio := ratio anon (anon + file)
  let fileRatio := ratio file (anon + file)
  if minDirtyBytes ≤ dirty ∧ binary64 (25 / 100) ≤ dirtyRatio dirty file then
    (parpPredictWorkloadFileDirty, 20, true,
      max (max (binary64 (5 / 10)) (dirtyRatio dirty file)) fileRatio)
  else if binary64 (65 / 100) ≤ anonRatio then
    (parpPredictWorkloadAnonHeavy, 140, false, anonRatio)
  else if binary64 (65 / 100) ≤ fileRatio then
    (parpPredictWorkloadFileClean, 40, false, fileRatio)
  else (parpPredictWorkloadMixed, 60, false, max anonRatio fileRatio)

/-- `round(confidence * 255)`, kept in a byte that is not zero. -/
def quantized (confidence : ℚ) : ℕ :=
  (max 1 (min 255 (roundHalfEven (binary64 (confidence * 255))))).toNat

def classifyMemoryStat (domainId : ℤ) (values : String → Option ℤ) : ReclaimWorkloadProfile :=
  let anon := anonBytes values
  let file := fileBytes values
  let dirty := dirtyBytes values
  if domainId ≤ 0 ∨ anon + file < minManagedBytes then
    { domainId := domainId, anonBytes := anon, fileBytes := file, fileDirtyBytes := dirty }
  else
    let (workloadClass, swappiness, allowWritepage, confidence) := composition anon file dirty
    { domainId := domainId
      workloadClass := workloadClass
      swappiness := swappiness
      confidenceQ8 := quantized confidence
      allowWritepage := allowWritepage
      anonBytes := anon
      fileBytes := file
      fileDirtyBytes := dirty }

theorem half_le_binary64 {q : ℚ} (h : 1 / 2 ≤ q) : 1 / 2 ≤ binary64 q := by
  have hq : 0 < q := lt_of_lt_of_le (by norm_num) h
  have hhalf : (1 : ℚ) / 2 = (1 : ℕ) * 2 ^ (-1 : ℤ) := by simp
  rw [hhalf] at h ⊢
  exact le_binary64 (by decide) (by decide) hq h

theorem half_le_ratio {anon file : ℤ} (htotal : 0 < anon + file) :
    1 / 2 ≤ max (ratio anon (anon + file)) (ratio file (anon + file)) := by
  have hwhole : (0 : ℚ) < ((anon + file : ℤ) : ℚ) := by exact_mod_cast htotal
  have hhalf {part : ℤ} (hpart : anon + file ≤ 2 * part) : 1 / 2 ≤ ratio part (anon + file) := by
    refine half_le_binary64 ?_
    rw [div_le_div_iff₀ (by norm_num) hwhole, one_mul]
    have hcast : ((anon + file : ℤ) : ℚ) ≤ ((2 * part : ℤ) : ℚ) := by exact_mod_cast hpart
    rw [mul_comm]
    exact_mod_cast hcast
  rcases le_total anon file with hle | hle
  · exact le_max_of_le_right (hhalf (by omega))
  · exact le_max_of_le_left (hhalf (by omega))

theorem composition_confidence {anon file : ℤ} (htotal : 0 < anon + file) (dirty : ℤ) :
    1 / 2 ≤ (composition anon file dirty).2.2.2 := by
  have hthreshold : (1 : ℚ) / 2 ≤ binary64 (65 / 100) := half_le_binary64 (by norm_num)
  have hmost := half_le_ratio htotal
  unfold composition
  dsimp only
  split_ifs with hdirty hanon hfile
  · exact le_max_of_le_left (le_max_of_le_left (half_le_binary64 (by norm_num)))
  · exact hthreshold.trans hanon
  · exact hthreshold.trans hfile
  · exact hmost

theorem quantized_bounds {confidence : ℚ} (h : 1 / 2 ≤ confidence) :
    minConfidenceQ8 ≤ quantized confidence ∧ quantized confidence < 256 := by
  have hscaled : ((255 : ℕ) : ℚ) * 2 ^ (-1 : ℤ) ≤ confidence * 255 := by
    rw [zpow_neg_one]
    push_cast
    linarith
  have hpositive : 0 < confidence * 255 := by linarith
  have hproduct := le_binary64 (by decide) (by decide) hpositive hscaled
  have hround : (128 : ℤ) ≤ roundHalfEven (binary64 (confidence * 255)) := by
    refine le_roundHalfEven_of_half (by decide) (le_trans ?_ hproduct)
    norm_num
  unfold quantized minConfidenceQ8
  omega

section

def packed (workloadClass swappiness confidence : UInt64) (allowWritepage : Bool) : UInt64 :=
  (workloadClass &&& parpPredictWorkloadClassMask) |||
    ((swappiness <<< parpPredictWorkloadSwappinessShift) &&&
      (parpPredictWorkloadSwappinessMask <<< parpPredictWorkloadSwappinessShift)) |||
    ((confidence <<< parpPredictWorkloadConfidenceShift) &&&
      (parpPredictWorkloadConfidenceMask <<< parpPredictWorkloadConfidenceShift)) |||
    ((if allowWritepage then parpPredictWorkloadAllowWritepage else 0) &&&
      parpPredictWorkloadAllowWritepage)

abbrev swappinessBits : UInt64 :=
  parpPredictWorkloadSwappinessMask <<< parpPredictWorkloadSwappinessShift

abbrev confidenceBits : UInt64 :=
  parpPredictWorkloadConfidenceMask <<< parpPredictWorkloadConfidenceShift

variable {profile : ReclaimWorkloadProfile}

theorem workloadHint_packed (h : profile.valid = true) :
    UInt64.ofNat profile.workloadHint =
      packed (UInt64.ofNat profile.workloadClass.toNat) (UInt64.ofNat profile.swappiness)
        (UInt64.ofNat profile.confidenceQ8) profile.allowWritepage := by
  unfold ReclaimWorkloadProfile.workloadHint packed
  rw [if_neg (by simp [h]), UInt64.ofNat_or, UInt64.ofNat_or, UInt64.ofNat_or, UInt64.ofNat_and,
    UInt64.ofNat_shiftLeft _ _ (by decide), UInt64.ofNat_shiftLeft _ _ (by decide),
    UInt64.ofNat_and, UInt64.ofNat_and, ← UInt64.shiftLeft_and, ← UInt64.shiftLeft_and]
  cases profile.allowWritepage <;> rfl

variable (workloadClass swappiness confidence : UInt64) (allowWritepage : Bool)

theorem packed_and (mask : UInt64) :
    packed workloadClass swappiness confidence allowWritepage &&& mask =
      (workloadClass &&& (parpPredictWorkloadClassMask &&& mask)) |||
        ((swappiness <<< parpPredictWorkloadSwappinessShift) &&&
          (swappinessBits &&& mask)) |||
        ((confidence <<< parpPredictWorkloadConfidenceShift) &&&
          (confidenceBits &&& mask)) |||
        ((if allowWritepage then parpPredictWorkloadAllowWritepage else 0) &&&
          (parpPredictWorkloadAllowWritepage &&& mask)) := by
  unfold packed
  rw [or_and, or_and, or_and, UInt64.and_assoc, UInt64.and_assoc, UInt64.and_assoc,
    UInt64.and_assoc]

variable {workloadClass swappiness confidence} {allowWritepage}

theorem byte_and {w : UInt64} (hw : w.toNat < 256) : w &&& 0xff = w := by
  rw [← UInt64.toNat_inj, UInt64.toNat_and]
  exact (Nat.and_two_pow_sub_one_eq_mod w.toNat 8).trans (Nat.mod_eq_of_lt hw)

theorem shifted_byte {w s : UInt64} (hw : w.toNat < 256) (hs : s.toNat ≤ 56) :
    ((w <<< s) &&& (0xff <<< s)) >>> s = w := by
  rw [← UInt64.shiftLeft_and, byte_and hw]
  refine shiftLeft_shiftRight (by omega) ?_
  calc w.toNat * 2 ^ s.toNat < 256 * 2 ^ s.toNat :=
        Nat.mul_lt_mul_of_pos_right hw (Nat.two_pow_pos _)
    _ ≤ 256 * 2 ^ 56 := Nat.mul_le_mul_left _ (Nat.pow_le_pow_right (by decide) hs)

theorem nibble_and {w : UInt64} (hw : w.toNat < 16) : w &&& 0x0f = w := by
  rw [← UInt64.toNat_inj, UInt64.toNat_and]
  exact (Nat.and_two_pow_sub_one_eq_mod w.toNat 4).trans (Nat.mod_eq_of_lt hw)

theorem packed_allowed :
    packed workloadClass swappiness confidence allowWritepage &&& ~~~workloadHintAllowed = 0 := by
  have hclass : parpPredictWorkloadClassMask &&& ~~~workloadHintAllowed = 0 := by decide
  have hswappiness : swappinessBits &&& ~~~workloadHintAllowed = 0 := by decide
  have hconfidence : confidenceBits &&& ~~~workloadHintAllowed = 0 := by decide
  have hwritepage : parpPredictWorkloadAllowWritepage &&& ~~~workloadHintAllowed = 0 := by decide
  rw [packed_and, hclass, hswappiness, hconfidence, hwritepage]
  simp

theorem packed_class (hclass : workloadClass.toNat < 16) :
    hintClass (packed workloadClass swappiness confidence allowWritepage) =
      workloadClass.toUInt8 := by
  have hswappiness : swappinessBits &&& parpPredictWorkloadClassMask = 0 := by decide
  have hconfidence : confidenceBits &&& parpPredictWorkloadClassMask = 0 := by decide
  have hwritepage : parpPredictWorkloadAllowWritepage &&& parpPredictWorkloadClassMask = 0 := by
    decide
  unfold hintClass
  rw [packed_and, hswappiness, hconfidence, hwritepage, UInt64.and_self, UInt64.and_zero,
    UInt64.and_zero, UInt64.and_zero, UInt64.or_zero, UInt64.or_zero, UInt64.or_zero]
  exact congrArg UInt64.toUInt8 (nibble_and hclass)

theorem packed_swappiness (hswappiness : swappiness.toNat < 256) :
    hintSwappiness (packed workloadClass swappiness confidence allowWritepage) =
      swappiness.toUInt16 := by
  have hclass : parpPredictWorkloadClassMask &&& swappinessBits = 0 := by decide
  have hconfidence : confidenceBits &&& swappinessBits = 0 := by decide
  have hwritepage : parpPredictWorkloadAllowWritepage &&& swappinessBits = 0 := by decide
  have hmask : (swappinessBits) >>>
      parpPredictWorkloadSwappinessShift = parpPredictWorkloadSwappinessMask := by decide
  unfold hintSwappiness
  rw [← hmask, ← UInt64.shiftRight_and, packed_and, hclass, hconfidence, hwritepage,
    UInt64.and_self, UInt64.and_zero, UInt64.and_zero, UInt64.and_zero, UInt64.zero_or,
    UInt64.or_zero, UInt64.or_zero]
  exact congrArg UInt64.toUInt16 (shifted_byte hswappiness (by decide))

theorem packed_confidence (hconfidence : confidence.toNat < 256) :
    hintConfidenceQ8 (packed workloadClass swappiness confidence allowWritepage) =
      confidence.toUInt16 := by
  have hclass : parpPredictWorkloadClassMask &&& confidenceBits = 0 := by decide
  have hswappiness : swappinessBits &&& confidenceBits = 0 := by decide
  have hwritepage : parpPredictWorkloadAllowWritepage &&& confidenceBits = 0 := by decide
  have hmask : (confidenceBits) >>>
      parpPredictWorkloadConfidenceShift = parpPredictWorkloadConfidenceMask := by decide
  unfold hintConfidenceQ8
  rw [← hmask, ← UInt64.shiftRight_and, packed_and, hclass, hswappiness, hwritepage,
    UInt64.and_self, UInt64.and_zero, UInt64.and_zero, UInt64.and_zero, UInt64.zero_or,
    UInt64.zero_or, UInt64.or_zero]
  exact congrArg UInt64.toUInt16 (shifted_byte hconfidence (by decide))

theorem packed_writepage :
    hintAllowWritepage (packed workloadClass swappiness confidence allowWritepage) =
      allowWritepage := by
  have hclass : parpPredictWorkloadClassMask &&& parpPredictWorkloadAllowWritepage = 0 := by decide
  have hswappiness : swappinessBits &&& parpPredictWorkloadAllowWritepage = 0 := by decide
  have hconfidence : confidenceBits &&& parpPredictWorkloadAllowWritepage = 0 := by decide
  unfold hintAllowWritepage
  rw [packed_and, hclass, hswappiness, hconfidence, UInt64.and_zero, UInt64.and_zero,
    UInt64.and_zero, UInt64.zero_or, UInt64.zero_or, UInt64.zero_or]
  cases allowWritepage <;> decide

theorem packed_decodes (hclass : workloadClass.toNat < 16)
    (hswappiness : swappiness.toNat < 256) (hconfidence : confidence.toNat < 256)
    (hnamed : workloadClass.toUInt8 ≠ parpPredictWorkloadNone ∧
      workloadClass.toUInt8 ≤ parpPredictWorkloadMixed)
    (hbounded : swappiness.toUInt16 ≤ 200) (hsure : confidence.toUInt16 ≠ 0)
    (hwritepage : allowWritepage = true →
      workloadClass.toUInt8 = parpPredictWorkloadFileDirty) (binding : ParpBinding) :
    parpPredictDecodeWorkloadHint
        (packed workloadClass swappiness confidence allowWritepage) binding =
      .ok { binding with
        workloadClass := workloadClass.toUInt8
        workloadSwappiness := swappiness.toUInt16
        workloadConfidenceQ15 :=
          (confidence.toUInt16.toUInt64 * UInt64.ofNat parpQ15One / 255).toUInt16
        workloadAllowWritepage := allowWritepage
        workloadValid := true } := by
  unfold parpPredictDecodeWorkloadHint
  rw [packed_allowed, packed_class hclass, packed_swappiness hswappiness,
    packed_confidence hconfidence, packed_writepage]
  refine if_neg ?_
  rintro (hbits | hnone | hlarge | hswap | hzero | ⟨hwrite, hclean⟩)
  · exact hbits rfl
  · exact hnamed.1 hnone
  · exact UInt8.not_lt.2 hnamed.2 hlarge
  · exact UInt16.not_lt.2 hbounded hswap
  · exact hsure hzero
  · exact hclean (hwritepage hwrite)

end

inductive Composed : UInt8 → ℕ → Bool → Prop
  | fileDirty : Composed parpPredictWorkloadFileDirty 20 true
  | anonHeavy : Composed parpPredictWorkloadAnonHeavy 140 false
  | fileClean : Composed parpPredictWorkloadFileClean 40 false
  | mixed : Composed parpPredictWorkloadMixed 60 false

theorem composition_composed (anon file dirty : ℤ) :
    Composed (composition anon file dirty).1 (composition anon file dirty).2.1
      (composition anon file dirty).2.2.1 := by
  unfold composition
  dsimp only
  split_ifs
  · exact .fileDirty
  · exact .anonHeavy
  · exact .fileClean
  · exact .mixed

theorem Composed.accepted {workloadClass : UInt8} {swappiness : ℕ} {allowWritepage : Bool}
    (h : Composed workloadClass swappiness allowWritepage) :
    workloadClass ∈ [parpPredictWorkloadAnonHeavy, parpPredictWorkloadFileClean,
        parpPredictWorkloadFileDirty, parpPredictWorkloadMixed] ∧
      (workloadClass ≠ parpPredictWorkloadNone ∧ workloadClass ≤ parpPredictWorkloadMixed) ∧
      swappiness ≤ 200 ∧
      (allowWritepage = true → workloadClass = parpPredictWorkloadFileDirty) := by
  cases h <;> decide

structure Usable (profile : ReclaimWorkloadProfile) : Prop where
  domain : 0 < profile.domainId
  composed : Composed profile.workloadClass profile.swappiness profile.allowWritepage
  confident : minConfidenceQ8 ≤ profile.confidenceQ8
  byte : profile.confidenceQ8 < 256

theorem classify_usable {domainId : ℤ} {values : String → Option ℤ} (hdomain : 0 < domainId)
    (hmanaged : minManagedBytes ≤ anonBytes values + fileBytes values) :
    Usable (classifyMemoryStat domainId values) := by
  have htotal : 0 < anonBytes values + fileBytes values :=
    lt_of_lt_of_le (by decide) hmanaged
  have hconfidence := quantized_bounds (composition_confidence htotal (dirtyBytes values))
  have hcomposed := composition_composed (anonBytes values) (fileBytes values) (dirtyBytes values)
  unfold classifyMemoryStat
  dsimp only
  rw [if_neg (by omega)]
  exact ⟨hdomain, hcomposed, hconfidence.1, hconfidence.2⟩

theorem Usable.valid {profile : ReclaimWorkloadProfile} (h : Usable profile) :
    profile.valid = true := by
  obtain ⟨hclass, -, hswappiness, -⟩ := h.composed.accepted
  exact decide_eq_true ⟨h.domain, hclass, hswappiness, h.confident⟩

theorem storedConfidence_ne_zero {confidence : UInt16} (hlow : 0 < confidence.toNat)
    (hhigh : confidence.toNat < 256) :
    (confidence.toUInt64 * UInt64.ofNat parpQ15One / 255).toUInt16 ≠ 0 := by
  intro hzero
  have hone : (UInt64.ofNat parpQ15One).toNat = 32767 := rfl
  have hfull : (255 : UInt64).toNat = 255 := rfl
  have hword := congrArg UInt16.toNat hzero
  rw [UInt64.toNat_toUInt16, UInt64.toNat_div, UInt64.toNat_mul, UInt16.toNat_toUInt64, hone,
    hfull] at hword
  change _ = 0 at hword
  simp (disch := omega) only [Nat.mod_eq_of_lt] at hword
  omega

/-- Every profile of a managed cgroup is one the kernel decodes. -/
theorem workload_profile_decodes (domainId : ℤ) (values : String → Option ℤ)
    (hdomain : 0 < domainId)
    (hmanaged : minManagedBytes ≤ anonBytes values + fileBytes values) (binding : ParpBinding) :
    let profile := classifyMemoryStat domainId values
    profile.valid = true ∧ profile.confidenceQ8 ≠ 0 ∧
      (profile.allowWritepage = true → profile.workloadClass = parpPredictWorkloadFileDirty) ∧
      ∃ decoded, parpPredictDecodeWorkloadHint (UInt64.ofNat profile.workloadHint) binding =
          .ok decoded ∧ decoded.workloadClass = profile.workloadClass ∧
        decoded.workloadSwappiness.toNat = profile.swappiness ∧
        decoded.workloadAllowWritepage = profile.allowWritepage ∧
        decoded.workloadConfidenceQ15 ≠ 0 ∧ decoded.workloadValid = true := by
  intro profile
  have husable : Usable profile := classify_usable hdomain hmanaged
  obtain ⟨-, hclass, hswappiness, hwritepage⟩ := husable.composed.accepted
  obtain ⟨-, -, hconfident, hbyte⟩ := husable
  have hmin : minConfidenceQ8 = 128 := rfl
  have hword {n : ℕ} (hn : n < 256) : (UInt64.ofNat n).toNat = n :=
    UInt64.toNat_ofNat_of_lt' (by
      change n < 2 ^ 64
      omega)
  have hclassByte := profile.workloadClass.toNat_lt
  have hclassWord : (UInt64.ofNat profile.workloadClass.toNat).toUInt8 = profile.workloadClass := by
    rw [← UInt8.toNat_inj, UInt64.toNat_toUInt8, hword hclassByte]
    exact Nat.mod_eq_of_lt hclassByte
  have hswappinessWord : (UInt64.ofNat profile.swappiness).toUInt16.toNat = profile.swappiness := by
    rw [UInt64.toNat_toUInt16, hword (by omega)]
    omega
  have hconfidenceWord : (UInt64.ofNat profile.confidenceQ8).toUInt16.toNat =
      profile.confidenceQ8 := by
    rw [UInt64.toNat_toUInt16, hword hbyte]
    omega
  have hclassField : (UInt64.ofNat profile.workloadClass.toNat).toNat < 16 := by
    have hmixed : parpPredictWorkloadMixed.toNat = 4 := rfl
    have hbound := UInt8.le_iff_toNat_le.1 hclass.2
    rw [hword hclassByte]
    omega
  have hdecoded := packed_decodes hclassField (by rw [hword (by omega)]; omega)
    (by rw [hword hbyte]; exact hbyte) (by rw [hclassWord]; exact hclass)
    (UInt16.le_iff_toNat_le.2 (hswappinessWord.trans_le hswappiness))
    (fun hzero => by
      rw [hzero] at hconfidenceWord
      change 0 = _ at hconfidenceWord
      omega)
    (by rw [hclassWord]; exact hwritepage) binding
  rw [← workloadHint_packed (classify_usable hdomain hmanaged).valid, hclassWord] at hdecoded
  refine ⟨(classify_usable hdomain hmanaged).valid, by omega, hwritepage, _, hdecoded, rfl,
    hswappinessWord, rfl, storedConfidence_ne_zero ?_ ?_, rfl⟩
  · omega
  · omega

def anonOnly (name : String) : Option ℤ := if name = "anon" then some 8388608 else none

theorem anon_profile_decodes :
    (classifyMemoryStat 1 anonOnly).valid = true ∧
      ∃ decoded, parpPredictDecodeWorkloadHint
          (UInt64.ofNat (classifyMemoryStat 1 anonOnly).workloadHint) {} = .ok decoded ∧
        decoded.workloadClass = (classifyMemoryStat 1 anonOnly).workloadClass := by
  obtain ⟨hvalid, -, -, decoded, hdecoded, hclass, -⟩ :=
    workload_profile_decodes 1 anonOnly (by decide) (by decide) {}
  exact ⟨hvalid, decoded, hdecoded, hclass⟩

end Parp.ReclaimWorkload
