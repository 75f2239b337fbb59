import Mathlib.Algebra.Order.Archimedean.Basic
import Mathlib.Data.Int.Log

set_option autoImplicit false

/-!
# Doubles

Conversion of a double to an integer, and how the order behaves with and without NaN.
-/
namespace Parp.Binary64

open Float.Model

/-- `int(x)`: truncation towards zero, an exception for an infinity or a NaN. -/
def truncated (x : Float) : Option ℤ :=
  if x.isFinite then some (x.toModel.unpack.toInt 0 0) else none

/-- `int(round(x))`: ties go to the even neighbour. -/
def rounded (x : Float) : Option ℤ :=
  (truncated x).map fun n =>
    let below := if x < Float.ofInt n then n - 1 else n
    let rest := x - Float.ofInt below
    if rest < 0.5 then below
    else if 0.5 < rest then below + 1
    else if below % 2 = 0 then below
    else below + 1

theorem compare_swap (a b : UnpackedFloat) : b.compare a = (a.compare b).map Ordering.swap := by
  cases a with
  | infinity s =>
    cases b with
    | infinity t => cases s <;> cases t <;> rfl
    | notANumber => cases s <;> rfl
    | zero t => cases s <;> rfl
    | finite t m e h => cases s <;> cases t <;> rfl
  | notANumber => cases b <;> rfl
  | zero s =>
    cases b with
    | infinity t => cases t <;> rfl
    | notANumber => rfl
    | zero t => rfl
    | finite t m e h => cases t <;> rfl
  | finite s m e h =>
    cases b with
    | infinity t => cases s <;> cases t <;> rfl
    | notANumber => cases s <;> rfl
    | zero t => cases s <;> rfl
    | finite t m' e' h' =>
      have hflip : (compare e' e).then (compare m' m) =
          ((compare e e').then (compare m m')).swap := by
        rw [Ordering.swap_then, Int.compare_swap, Nat.compare_swap]
      cases s <;> cases t
      · exact congrArg (fun o => some (Ordering.swap o)) hflip
      · rfl
      · rfl
      · exact congrArg some hflip

theorem compare_isSome {a b : UnpackedFloat} (ha : a ≠ .notANumber) (hb : b ≠ .notANumber) :
    ∃ o, a.compare b = some o := by
  cases a with
  | infinity s =>
    cases b with
    | infinity t => cases s <;> cases t <;> exact ⟨_, rfl⟩
    | notANumber => exact absurd rfl hb
    | zero t => cases s <;> exact ⟨_, rfl⟩
    | finite t m e h => cases s <;> cases t <;> exact ⟨_, rfl⟩
  | notANumber => exact absurd rfl ha
  | zero s =>
    cases b with
    | infinity t => cases t <;> exact ⟨_, rfl⟩
    | notANumber => exact absurd rfl hb
    | zero t => exact ⟨_, rfl⟩
    | finite t m e h => cases t <;> exact ⟨_, rfl⟩
  | finite s m e h =>
    cases b with
    | infinity t => cases s <;> cases t <;> exact ⟨_, rfl⟩
    | notANumber => exact absurd rfl hb
    | zero t => cases s <;> exact ⟨_, rfl⟩
    | finite t m' e' h' => cases s <;> cases t <;> exact ⟨_, rfl⟩

theorem not_nan {x : Float} (h : x.isNaN = false) : x.toModel.unpack ≠ .notANumber := by
  intro hnan
  change x.toModel.unpack.isNaN = false at h
  rw [hnan] at h
  cases h

theorem lt_iff (a b : Float) : a < b ↔ a.toModel.unpack.compare b.toModel.unpack = some .lt := by
  change decide (a.toModel < b.toModel) = true ↔ _
  rw [decide_eq_true_iff]
  change (a.toModel.unpack.compare b.toModel.unpack == some .lt) = true ↔ _
  rw [beq_iff_eq]

theorem le_iff (a b : Float) :
    a ≤ b ↔ (a.toModel.unpack.compare b.toModel.unpack).any Ordering.isLE = true := by
  change decide (a.toModel ≤ b.toModel) = true ↔ _
  rw [decide_eq_true_iff]
  exact Iff.rfl

theorem lt_of_not_le {a b : Float} (ha : a.isNaN = false) (hb : b.isNaN = false) (h : ¬ b ≤ a) :
    a < b := by
  obtain ⟨o, hba⟩ := compare_isSome (not_nan hb) (not_nan ha)
  rw [le_iff, hba] at h
  rw [lt_iff, compare_swap, hba]
  cases o with
  | lt => exact absurd rfl h
  | eq => exact absurd rfl h
  | gt => rfl

/-- Where a double stands among those that are numbers. -/
def rank : UnpackedFloat → ℤ × ℤ × ℤ
  | .infinity .negative => (-2, 0, 0)
  | .finite .negative m e _ => (-1, -e, -m)
  | .zero _ => (0, 0, 0)
  | .finite .positive m e _ => (1, e, m)
  | .infinity .positive => (2, 0, 0)
  | .notANumber => (3, 0, 0)

def Below (r s : ℤ × ℤ × ℤ) : Prop :=
  r.1 < s.1 ∨ r.1 = s.1 ∧ (r.2.1 < s.2.1 ∨ r.2.1 = s.2.1 ∧ r.2.2 < s.2.2)

theorem then_eq_lt {e e' : ℤ} {m m' : ℕ} :
    (compare e e').then (compare m m') = .lt ↔ e < e' ∨ e = e' ∧ m < m' := by
  rw [Ordering.then_eq_lt, compare_lt_iff_lt, compare_eq_iff_eq, compare_lt_iff_lt]

theorem then_eq_gt {e e' : ℤ} {m m' : ℕ} :
    (compare e e').then (compare m m') = .gt ↔ e' < e ∨ e = e' ∧ m' < m := by
  rw [Ordering.then_eq_gt, compare_gt_iff_gt, compare_eq_iff_eq, compare_gt_iff_gt]

theorem compare_notANumber_left (b : UnpackedFloat) :
    UnpackedFloat.compare .notANumber b = none := by
  cases b <;> rfl

theorem compare_notANumber_right (a : UnpackedFloat) : a.compare .notANumber = none := by
  cases a <;> rfl

theorem compare_lt_iff_below (a b : UnpackedFloat) :
    a.compare b = some .lt ↔ a ≠ .notANumber ∧ b ≠ .notANumber ∧ Below (rank a) (rank b) := by
  by_cases ha : a = .notANumber
  · simp [ha, compare_notANumber_left]
  by_cases hb : b = .notANumber
  · simp [hb, compare_notANumber_right]
  rw [and_iff_right ha, and_iff_right hb]
  unfold Below
  cases a with
  | notANumber => exact absurd rfl ha
  | infinity s =>
    cases s <;> cases b with
    | notANumber => exact absurd rfl hb
    | infinity t => cases t <;> dsimp only [UnpackedFloat.compare, rank] <;> decide
    | zero t => cases t <;> decide
    | finite t m e h => cases t <;> dsimp only [UnpackedFloat.compare, rank] <;> simp
  | zero s =>
    cases b with
    | notANumber => exact absurd rfl hb
    | infinity t => cases t <;> dsimp only [UnpackedFloat.compare, rank] <;> decide
    | zero t => cases s <;> cases t <;> decide
    | finite t m e h => cases t <;> dsimp only [UnpackedFloat.compare, rank] <;> simp
  | finite s m e h =>
    cases s <;> cases b with
    | notANumber => exact absurd rfl hb
    | infinity t => cases t <;> dsimp only [UnpackedFloat.compare, rank] <;> simp
    | zero t =>
      dsimp only [UnpackedFloat.compare, rank]
      simp
    | finite t m' e' h' =>
      cases t <;> dsimp only [UnpackedFloat.compare, rank] <;>
        simp only [Option.some.injEq, reduceCtorEq, Ordering.swap_eq_lt, then_eq_gt, then_eq_lt] <;>
        first | omega | simp

theorem lt_iff_below (a b : Float) : a < b ↔ a.toModel.unpack ≠ .notANumber ∧
    b.toModel.unpack ≠ .notANumber ∧ Below (rank a.toModel.unpack) (rank b.toModel.unpack) :=
  (lt_iff a b).trans (compare_lt_iff_below _ _)

theorem le_iff_not_below (a b : Float) : a ≤ b ↔ a.toModel.unpack ≠ .notANumber ∧
    b.toModel.unpack ≠ .notANumber ∧ ¬ Below (rank b.toModel.unpack) (rank a.toModel.unpack) := by
  generalize ha : a.toModel.unpack = x
  generalize hb : b.toModel.unpack = y
  rw [le_iff, ha, hb]
  by_cases hx : x = .notANumber
  · simp [hx, compare_notANumber_left]
  by_cases hy : y = .notANumber
  · simp [hy, compare_notANumber_right]
  obtain ⟨o, ho⟩ := compare_isSome hy hx
  have hbelow := compare_lt_iff_below y x
  rw [ho] at hbelow
  rw [compare_swap, ho]
  cases o <;> simp_all

theorem lt_of_le_of_lt {a b c : Float} (hab : a ≤ b) (hbc : b < c) : a < c := by
  rw [le_iff_not_below] at hab
  rw [lt_iff_below] at hbc ⊢
  refine ⟨hab.1, hbc.2.1, ?_⟩
  have hle := hab.2.2
  have hlt := hbc.2.2
  unfold Below at hle hlt ⊢
  omega

theorem le_of_lt_of_le {a b c : Float} (hab : a < b) (hbc : b ≤ c) : a ≤ c := by
  rw [lt_iff_below] at hab
  rw [le_iff_not_below] at hbc ⊢
  refine ⟨hab.1, hbc.2.1, ?_⟩
  have hlt := hab.2.2
  have hle := hbc.2.2
  unfold Below at hle hlt ⊢
  omega

theorem le_of_lt {a b : Float} (h : a < b) : a ≤ b := by
  rw [lt_iff_below] at h
  rw [le_iff_not_below]
  refine ⟨h.1, h.2.1, ?_⟩
  have hlt := h.2.2
  unfold Below at hlt ⊢
  omega

theorem not_le_of_lt {a b : Float} (h : a < b) : ¬ b ≤ a := by
  rw [lt_iff_below] at h
  rw [le_iff_not_below]
  exact fun hle => hle.2.2 h.2.2

end Parp.Binary64

/-!
# Correctly rounded doubles

Binary64 arithmetic as exact rational arithmetic followed by one rounding to nearest, ties to even.
Values beyond the largest finite double are not cut off.
-/
namespace Parp.CorrectRounding

def roundHalfEven (q : ℚ) : ℤ :=
  let rest := q - ⌊q⌋
  if rest < 1 / 2 then ⌊q⌋
  else if 1 / 2 < rest then ⌊q⌋ + 1
  else if ⌊q⌋ % 2 = 0 then ⌊q⌋
  else ⌊q⌋ + 1

variable {q : ℚ} {n : ℤ} {a b : ℚ}

theorem le_roundHalfEven (h : (n : ℚ) ≤ q) : n ≤ roundHalfEven q := by
  have hfloor : n ≤ ⌊q⌋ := Int.le_floor.2 h
  unfold roundHalfEven
  dsimp only
  split_ifs <;> omega

theorem le_roundHalfEven_of_half (heven : n % 2 = 0) (h : (n : ℚ) - 1 / 2 ≤ q) :
    n ≤ roundHalfEven q := by
  by_cases hbelow : (n : ℚ) ≤ q
  · exact le_roundHalfEven hbelow
  · have hfloor : ⌊q⌋ = n - 1 := by
      rw [Int.floor_eq_iff]
      push_cast
      constructor <;> linarith
    have hrest : ¬ q - ((n - 1 : ℤ) : ℚ) < 1 / 2 := by
      push_cast
      linarith
    unfold roundHalfEven
    rw [hfloor]
    dsimp only
    rw [if_neg hrest]
    split_ifs <;> omega

def exponent (q : ℚ) : ℤ := max (Int.log 2 |q|) (-1022)

def ulp (q : ℚ) : ℚ := 2 ^ (exponent q - 52)

def binary64 (q : ℚ) : ℚ := roundHalfEven (q / ulp q) * ulp q

theorem ulp_pos (q : ℚ) : 0 < ulp q := zpow_pos (by decide) _

theorem le_binary64_of_multiple (h : n * ulp q ≤ q) : n * ulp q ≤ binary64 q := by
  have hunits : (n : ℚ) ≤ q / ulp q := (le_div_iff₀ (ulp_pos q)).2 h
  have hround : ((n : ℤ) : ℚ) ≤ roundHalfEven (q / ulp q) := by
    exact_mod_cast le_roundHalfEven hunits
  exact mul_le_mul_of_nonneg_right hround (ulp_pos q).le

theorem le_binary64 {m : ℕ} {k : ℤ} (hm : m < 2 ^ 53) (hk : -1074 ≤ k) (hq : 0 < q)
    (h : m * 2 ^ k ≤ q) : m * 2 ^ k ≤ binary64 q := by
  have htwo : (2 : ℚ) ≠ 0 := by decide
  by_cases hfine : exponent q - 52 ≤ k
  · -- the double is a multiple of the unit of the exact value
    obtain ⟨j, hj⟩ := Int.eq_ofNat_of_zero_le (Int.sub_nonneg.2 hfine)
    have hmultiple : (m : ℚ) * 2 ^ k = ((m * 2 ^ j : ℕ) : ℤ) * ulp q := by
      have hsplit : (2 : ℚ) ^ k = 2 ^ j * ulp q := by
        unfold ulp
        rw [← zpow_natCast, ← zpow_add₀ htwo, ← hj]
        congr 1
        omega
      rw [hsplit]
      push_cast
      rw [mul_assoc]
    rw [hmultiple] at h ⊢
    exact le_binary64_of_multiple h
  · -- the double is below the binade of the exact value
    have hlog : exponent q = Int.log 2 q := by
      unfold exponent at hfine ⊢
      rw [abs_of_pos hq] at hfine ⊢
      omega
    have hbinade : (2 : ℚ) ^ exponent q ≤ q := by
      rw [hlog]
      exact_mod_cast Int.zpow_log_le_self (b := 2) (by decide) hq
    have hunits : (((2 ^ 52 : ℕ) : ℤ) : ℚ) * ulp q = 2 ^ exponent q := by
      have hpower : (((2 ^ 52 : ℕ) : ℤ) : ℚ) = 2 ^ (52 : ℤ) := by norm_cast
      unfold ulp
      rw [hpower, ← zpow_add₀ htwo]
      congr 1
      omega
    have hbelow : (m : ℚ) * 2 ^ k ≤ 2 ^ exponent q := by
      have hsmall : (m : ℚ) ≤ 2 ^ (53 : ℤ) := by
        exact_mod_cast hm.le
      calc (m : ℚ) * 2 ^ k ≤ 2 ^ (53 : ℤ) * 2 ^ k :=
            mul_le_mul_of_nonneg_right hsmall (zpow_pos (by decide) k).le
        _ = 2 ^ (53 + k) := (zpow_add₀ htwo _ _).symm
        _ ≤ 2 ^ exponent q := zpow_le_zpow_right₀ (by decide) (by omega)
    rw [← hunits] at hbinade hbelow
    exact hbelow.trans (le_binary64_of_multiple hbinade)

theorem roundHalfEven_le (h : q ≤ n) : roundHalfEven q ≤ n := by
  have hfloor : ⌊q⌋ ≤ n := by exact_mod_cast (Int.floor_le q).trans h
  rcases eq_or_lt_of_le hfloor with heq | hlt
  · -- nothing is left over
    have hrest : q - ⌊q⌋ < 1 / 2 := by
      rw [heq]
      linarith
    unfold roundHalfEven
    dsimp only
    rw [if_pos hrest]
    exact hfloor
  · unfold roundHalfEven
    dsimp only
    split_ifs <;> omega

theorem roundHalfEven_mono (h : a ≤ b) : roundHalfEven a ≤ roundHalfEven b := by
  rcases (Int.floor_le_floor h).eq_or_lt with hsame | hless
  · -- both in one unit: the rest decides
    have hrest : a - ⌊a⌋ ≤ b - ⌊b⌋ := by
      rw [hsame]
      linarith
    unfold roundHalfEven
    dsimp only
    rw [hsame] at hrest ⊢
    split_ifs <;> first | omega | (exfalso; linarith)
  · have habove : a ≤ ((⌊a⌋ + 1 : ℤ) : ℚ) := by
      push_cast
      exact (Int.lt_floor_add_one a).le
    calc roundHalfEven a ≤ ⌊a⌋ + 1 := roundHalfEven_le habove
      _ ≤ ⌊b⌋ := hless
      _ ≤ roundHalfEven b := le_roundHalfEven (Int.floor_le b)

theorem binary64_nonneg (h : 0 ≤ q) : 0 ≤ binary64 q := by
  have hunits : ((0 : ℤ) : ℚ) ≤ q / ulp q := by
    rw [Int.cast_zero]
    exact div_nonneg h (ulp_pos q).le
  have hround : ((0 : ℤ) : ℚ) ≤ roundHalfEven (q / ulp q) := by
    exact_mod_cast le_roundHalfEven hunits
  rw [Int.cast_zero] at hround
  exact mul_nonneg hround (ulp_pos q).le

theorem binary64_le_zpow {k : ℤ} (hk : -1022 ≤ k) (hnonneg : 0 ≤ q) (h : q ≤ 2 ^ k) :
    binary64 q ≤ 2 ^ k := by
  have htwo : (2 : ℚ) ≠ 0 := by decide
  rcases hnonneg.eq_or_lt with rfl | hq
  · rw [show binary64 0 = 0 by decide +kernel]
    exact h
  have hexponent : exponent q ≤ k := by
    have hlog : Int.log 2 |q| ≤ k := by
      rw [abs_of_pos hq]
      have hmono := Int.log_mono_right (b := 2) hq h
      rwa [show ((2 : ℚ) ^ k) = ((2 : ℕ) : ℚ) ^ k by norm_cast,
        Int.log_zpow (R := ℚ) (b := 2) (by decide)] at hmono
    exact max_le hlog hk
  obtain ⟨j, hj⟩ := Int.eq_ofNat_of_zero_le (show 0 ≤ k - (exponent q - 52) by omega)
  have hunits : (2 : ℚ) ^ k = ((2 ^ j : ℕ) : ℤ) * ulp q := by
    unfold ulp
    rw [show k = j + (exponent q - 52) by omega, zpow_add₀ htwo]
    norm_cast
  have hround : (roundHalfEven (q / ulp q) : ℚ) ≤ ((2 ^ j : ℕ) : ℤ) := by
    have hle : q / ulp q ≤ ((2 ^ j : ℕ) : ℤ) := by
      rw [div_le_iff₀ (ulp_pos q), ← hunits]
      exact h
    exact_mod_cast roundHalfEven_le hle
  rw [hunits]
  exact mul_le_mul_of_nonneg_right hround (ulp_pos q).le

theorem binary64_nonpos (h : q ≤ 0) : binary64 q ≤ 0 := by
  have hunits : q / ulp q ≤ ((0 : ℤ) : ℚ) := by
    rw [Int.cast_zero]
    exact div_nonpos_of_nonpos_of_nonneg h (ulp_pos q).le
  have hround : (roundHalfEven (q / ulp q) : ℚ) ≤ ((0 : ℤ) : ℚ) := by
    exact_mod_cast roundHalfEven_le hunits
  rw [Int.cast_zero] at hround
  exact mul_nonpos_of_nonpos_of_nonneg hround (ulp_pos q).le

theorem exponent_mono (ha : 0 < a) (h : a ≤ b) : exponent a ≤ exponent b := by
  unfold exponent
  rw [abs_of_pos ha, abs_of_pos (ha.trans_le h)]
  exact max_le_max (Int.log_mono_right ha h) le_rfl

theorem binary64_mono_of_nonneg (ha : 0 ≤ a) (h : a ≤ b) : binary64 a ≤ binary64 b := by
  rcases ha.eq_or_lt with rfl | ha
  · rw [show binary64 0 = 0 by decide +kernel]
    exact binary64_nonneg h
  have hb : 0 < b := ha.trans_le h
  rcases (exponent_mono ha h).eq_or_lt with hsame | hless
  · have hulp : ulp a = ulp b := by
      unfold ulp
      rw [hsame]
    unfold binary64
    rw [hulp]
    have hunits := div_le_div_of_nonneg_right h (ulp_pos b).le
    have hround : (roundHalfEven (a / ulp b) : ℚ) ≤ roundHalfEven (b / ulp b) := by
      exact_mod_cast roundHalfEven_mono hunits
    exact mul_le_mul_of_nonneg_right hround (ulp_pos b).le
  · -- a power of two lies between the binades
    have hlow : -1022 ≤ exponent a := le_max_right _ _
    have hlog : exponent b = Int.log 2 b := by
      unfold exponent at hless hlow ⊢
      rw [abs_of_pos hb] at hless ⊢
      omega
    have hbelow : a ≤ 2 ^ exponent b := by
      have hlogA : Int.log 2 a ≤ exponent a := by
        unfold exponent
        rw [abs_of_pos ha]
        exact le_max_left _ _
      have hlt : a < (2 : ℚ) ^ (Int.log 2 a + 1) := by
        exact_mod_cast Int.lt_zpow_succ_log_self (b := 2) (by decide) a
      exact hlt.le.trans (zpow_le_zpow_right₀ (by decide) (by omega))
    have habove : ((1 : ℕ) : ℚ) * 2 ^ exponent b ≤ b := by
      rw [Nat.cast_one, one_mul, hlog]
      exact_mod_cast Int.zpow_log_le_self (b := 2) (by decide) hb
    calc binary64 a ≤ 2 ^ exponent b := binary64_le_zpow (by omega) ha.le hbelow
      _ = ((1 : ℕ) : ℚ) * 2 ^ exponent b := by rw [Nat.cast_one, one_mul]
      _ ≤ binary64 b := le_binary64 (by decide) (by omega) hb habove

theorem roundHalfEven_neg (q : ℚ) : roundHalfEven (-q) = -roundHalfEven q := by
  have hfloor : ((⌊q⌋ : ℤ) : ℚ) ≤ q := Int.floor_le q
  rcases hfloor.eq_or_lt with hwhole | hpart
  · rw [← hwhole]
    have hexact (n : ℤ) : roundHalfEven (n : ℚ) = n :=
      le_antisymm (roundHalfEven_le le_rfl) (le_roundHalfEven le_rfl)
    rw [← Int.cast_neg, hexact, hexact]
  · -- the floors of `q` and `-q` add up to -1
    have hneg : ⌊-q⌋ = -⌊q⌋ - 1 := by
      rw [Int.floor_eq_iff]
      have habove := Int.lt_floor_add_one q
      push_cast
      constructor <;> linarith
    unfold roundHalfEven
    rw [hneg]
    dsimp only
    push_cast
    split_ifs <;> first | omega | (exfalso; linarith)

theorem binary64_neg (q : ℚ) : binary64 (-q) = -binary64 q := by
  have hulp : ulp (-q) = ulp q := by
    unfold ulp exponent
    rw [abs_neg]
  unfold binary64
  rw [hulp, neg_div, roundHalfEven_neg]
  push_cast
  rw [neg_mul]

theorem binary64_mono (h : a ≤ b) : binary64 a ≤ binary64 b := by
  rcases le_total 0 a with ha | ha
  · exact binary64_mono_of_nonneg ha h
  · rcases le_total 0 b with hb | hb
    · exact (binary64_nonpos ha).trans (binary64_nonneg hb)
    · have hflip := binary64_mono_of_nonneg (neg_nonneg.2 hb) (neg_le_neg h)
      rw [binary64_neg, binary64_neg] at hflip
      exact neg_le_neg_iff.1 hflip

end Parp.CorrectRounding
