import Mathlib.Data.List.DropRight
import Parp.Binary64
import Parp.ByteText

set_option autoImplicit false

/-!
# Doubles in decimal

A double is the nearest one to its seventeen significant digits; `%.17g` prints these and `strtod`
reads them back.
-/
namespace Parp.DecimalDoubles

open CorrectRounding List

section

theorem abs_roundHalfEven_sub (q : ℚ) : |(roundHalfEven q : ℚ) - q| ≤ 1 / 2 := by
  have hfloor := Int.floor_le q
  have habove := Int.lt_floor_add_one q
  unfold roundHalfEven
  dsimp only
  rw [abs_le]
  split_ifs <;> push_cast <;> constructor <;> linarith

theorem roundHalfEven_of_near {n : ℤ} {q : ℚ} (h : |q - n| < 1 / 2) : roundHalfEven q = n := by
  have hround := abs_roundHalfEven_sub q
  rw [abs_le] at hround
  rw [abs_lt] at h
  have hbelow : (n : ℚ) < roundHalfEven q + 1 := by linarith
  have habove : (roundHalfEven q : ℚ) < n + 1 := by linarith
  have hlow : n < roundHalfEven q + 1 := by exact_mod_cast hbelow
  have hhigh : roundHalfEven q < n + 1 := by exact_mod_cast habove
  omega

variable {q d : ℚ}

theorem ulp_mul_two_pow (q : ℚ) : ulp q * 2 ^ 53 = 2 ^ (exponent q + 1) := by
  unfold ulp
  rw [← zpow_natCast, ← zpow_add₀ (by decide)]
  congr 1
  push_cast
  ring

theorem lt_two_zpow_exponent (hq : 0 < q) : q < 2 ^ (exponent q + 1) := by
  have hlog : q < (2 : ℚ) ^ (Int.log 2 q + 1) := by
    exact_mod_cast Int.lt_zpow_succ_log_self (b := 2) (by decide) q
  refine hlog.trans_le (zpow_le_zpow_right₀ (by decide) ?_)
  unfold exponent
  rw [abs_of_pos hq]
  omega

theorem two_zpow_exponent_le (hq : 0 < q) (h : -1022 < exponent q) : 2 ^ exponent q ≤ q := by
  have hlog : exponent q = Int.log 2 q := by
    unfold exponent at h ⊢
    rw [abs_of_pos hq] at h ⊢
    omega
  rw [hlog]
  exact_mod_cast Int.zpow_log_le_self (b := 2) (by decide) hq

theorem le_binary64_zpow {k : ℤ} (hk : -1074 ≤ k) (h : 2 ^ k ≤ q) : 2 ^ k ≤ binary64 q := by
  have hq : 0 < q := (zpow_pos (by norm_num) k).trans_le h
  have hround := le_binary64 (m := 1) (by norm_num) hk hq (by rwa [Nat.cast_one, one_mul])
  rwa [Nat.cast_one, one_mul] at hround

theorem binary64_le {m : ℕ} {k : ℤ} (hm : m < 2 ^ 53) (hk : -1074 ≤ k) (hq : 0 < q)
    (h : q ≤ m * 2 ^ k) : binary64 q ≤ m * 2 ^ k := by
  have htwo : (2 : ℚ) ≠ 0 := by decide
  have hfine : exponent q - 52 ≤ k := by
    by_contra hcoarse
    have hbinade := two_zpow_exponent_le hq (by omega)
    have hsmall : (m : ℚ) < 2 ^ (53 : ℤ) := by
      have : (m : ℚ) < ((2 ^ 53 : ℕ) : ℚ) := by exact_mod_cast hm
      exact_mod_cast this
    have hbelow : (m : ℚ) * 2 ^ k < 2 ^ exponent q :=
      calc (m : ℚ) * 2 ^ k < 2 ^ (53 : ℤ) * 2 ^ k :=
            mul_lt_mul_of_pos_right hsmall (zpow_pos (by decide) k)
        _ = 2 ^ (53 + k) := (zpow_add₀ htwo _ _).symm
        _ ≤ 2 ^ exponent q := zpow_le_zpow_right₀ (by decide) (by omega)
    linarith
  obtain ⟨j, hj⟩ := Int.eq_ofNat_of_zero_le (Int.sub_nonneg.2 hfine)
  have hmultiple : (m : ℚ) * 2 ^ k = ((m * 2 ^ j : ℕ) : ℤ) * ulp q := by
    have hsplit : (2 : ℚ) ^ k = 2 ^ j * ulp q := by
      unfold ulp
      rw [← zpow_natCast, ← zpow_add₀ htwo, ← hj]
      congr 1
      omega
    rw [hsplit]
    push_cast
    rw [mul_assoc]
  rw [hmultiple] at h ⊢
  have hround : (roundHalfEven (q / ulp q) : ℚ) ≤ ((m * 2 ^ j : ℕ) : ℤ) := by
    exact_mod_cast roundHalfEven_le ((div_le_iff₀ (ulp_pos q)).2 h)
  exact mul_le_mul_of_nonneg_right hround (ulp_pos q).le

theorem binary64_double {m : ℕ} {k : ℤ} (hm : m < 2 ^ 53) (hk : -1074 ≤ k) :
    binary64 (m * 2 ^ k) = m * 2 ^ k := by
  rcases Nat.eq_zero_or_pos m with rfl | hpos
  · rw [Nat.cast_zero, zero_mul]
    decide +kernel
  · have hq : (0 : ℚ) < m * 2 ^ k := mul_pos (by exact_mod_cast hpos) (zpow_pos (by decide) k)
    exact le_antisymm (binary64_le hm hk hq le_rfl) (le_binary64 hm hk hq le_rfl)

theorem binary64_form (hq : 0 ≤ q) :
    ∃ (m : ℕ) (k : ℤ), m < 2 ^ 53 ∧ -1074 ≤ k ∧ binary64 q = m * 2 ^ k := by
  rcases hq.eq_or_lt with rfl | hpos
  · exact ⟨0, 0, by decide, by decide, by decide +kernel⟩
  have hk : -1074 ≤ exponent q - 52 := by
    have hlow : -1022 ≤ exponent q := le_max_right _ _
    omega
  have hunits : q / ulp q ≤ ((2 ^ 53 : ℕ) : ℤ) := by
    have htop := (lt_two_zpow_exponent hpos).le
    rw [← ulp_mul_two_pow, mul_comm] at htop
    rw [div_le_iff₀ (ulp_pos q)]
    exact_mod_cast htop
  have hround := roundHalfEven_le hunits
  have hzero : ((0 : ℤ) : ℚ) ≤ q / ulp q := by
    rw [Int.cast_zero]
    exact div_nonneg hq (ulp_pos q).le
  obtain ⟨n, hn⟩ := Int.eq_ofNat_of_zero_le (le_roundHalfEven hzero)
  rw [hn] at hround
  have hn53 : n ≤ 2 ^ 53 := by exact_mod_cast hround
  have hvalue : binary64 q = n * 2 ^ (exponent q - 52) := by
    unfold binary64
    rw [hn]
    rfl
  rcases hn53.eq_or_lt with heq | hlt
  · -- rounded up to the next binade
    refine ⟨2 ^ 52, exponent q - 52 + 1, by decide, by omega, ?_⟩
    rw [hvalue, heq, zpow_add₀ (by decide), zpow_one]
    push_cast
    ring
  · exact ⟨n, exponent q - 52, hlt, hk, hvalue⟩

theorem binary64_idem (q : ℚ) : binary64 (binary64 q) = binary64 q := by
  rcases le_total 0 q with hq | hq
  · obtain ⟨m, k, hm, hk, hvalue⟩ := binary64_form hq
    rw [hvalue, binary64_double hm hk]
  · obtain ⟨m, k, hm, hk, hvalue⟩ := binary64_form (neg_nonneg.2 hq)
    rw [binary64_neg] at hvalue
    rw [← neg_neg (binary64 q), binary64_neg, hvalue, binary64_double hm hk]

theorem binary64_of_units {n : ℤ} (h : |d - n * ulp d| < ulp d / 2) : binary64 d = n * ulp d := by
  have hunit := ulp_pos d
  have hround : roundHalfEven (d / ulp d) = n := by
    refine roundHalfEven_of_near ?_
    have hdiff : d / ulp d - n = (d - n * ulp d) / ulp d := by
      rw [sub_div, mul_div_cancel_right₀ _ hunit.ne']
    rw [hdiff, abs_div, abs_of_pos hunit, div_lt_iff₀ hunit]
    linarith
  unfold binary64
  rw [hround]

section

variable (hq : 0 < q) (h : |d - q| < q / 2 ^ 54)
include hq h

theorem near_pos : 0 < d := by
  have hleft := (abs_lt.1 h).1
  have hpart : q / 2 ^ 54 ≤ q := div_le_self hq.le (by norm_num)
  linarith

theorem near_units : |d - q| < ulp q / 2 := by
  have htop := lt_two_zpow_exponent hq
  rw [← ulp_mul_two_pow] at htop
  refine h.trans ?_
  rw [div_lt_div_iff₀ (by norm_num) (by norm_num)]
  linarith

theorem near_not_above {n : ℤ} (hn : q = n * ulp q) : ¬ exponent q < exponent d := by
  intro hmore
  have hunit := ulp_pos q
  have htop := lt_two_zpow_exponent hq
  rw [← ulp_mul_two_pow] at htop
  have hlow : -1022 ≤ exponent q := le_max_right _ _
  have hbinade := two_zpow_exponent_le (near_pos hq h) (by omega)
  have habove : ulp q * 2 ^ 53 ≤ d := by
    rw [ulp_mul_two_pow]
    exact (zpow_le_zpow_right₀ (by norm_num) (by omega)).trans hbinade
  have hclose := (abs_lt.1 (near_units hq h)).2
  generalize ulp q = u at *
  have hcount : n + 1 ≤ 2 ^ 53 := by
    have hlt : (n : ℚ) < ((2 ^ 53 : ℤ) : ℚ) := by
      rw [hn, mul_comm] at htop
      push_cast
      exact lt_of_mul_lt_mul_left htop hunit.le
    exact_mod_cast hlt
  have hcast : (n : ℚ) + 1 ≤ 2 ^ 53 := by exact_mod_cast hcount
  have hgap := mul_le_mul_of_nonneg_right hcast hunit.le
  linarith

theorem near_below {n : ℤ} (hn : q = n * ulp q) (hless : exponent d < exponent q) :
    q = 2 ^ exponent q := by
  have hunit := ulp_pos q
  have hlow : -1022 ≤ exponent d := le_max_right _ _
  have hbinade := two_zpow_exponent_le hq (by omega)
  have hbelow : d < 2 ^ exponent q := (lt_two_zpow_exponent (near_pos hq h)).trans_le
    (zpow_le_zpow_right₀ (by norm_num) (by omega))
  have hclose := (abs_lt.1 (near_units hq h)).1
  have hpower : (2 : ℚ) ^ exponent q = ulp q * 2 ^ 52 := by
    have htopUnits := ulp_mul_two_pow q
    rw [zpow_add₀ (by norm_num), zpow_one] at htopUnits
    linarith
  rw [hpower] at hbinade hbelow ⊢
  generalize ulp q = u at *
  have hcount : (2 ^ 52 : ℤ) ≤ n := by
    have hle : ((2 ^ 52 : ℤ) : ℚ) ≤ n := by
      rw [hn, mul_comm] at hbinade
      push_cast
      exact le_of_mul_le_mul_right hbinade hunit
    exact_mod_cast hle
  have hexact : n ≤ 2 ^ 52 := by
    by_contra hmore
    have hcast : ((2 : ℚ) ^ 52 + 1) ≤ n := by exact_mod_cast not_le.1 hmore
    have hgap := mul_le_mul_of_nonneg_right hcast hunit.le
    linarith
  have heq : (n : ℚ) = 2 ^ 52 := by exact_mod_cast le_antisymm hexact hcount
  rw [hn, heq, mul_comm]

theorem binary64_of_near (hdouble : binary64 q = q) : binary64 d = q := by
  obtain ⟨n, hn⟩ : ∃ n : ℤ, q = n * ulp q := ⟨_, hdouble.symm⟩
  rcases lt_trichotomy (exponent d) (exponent q) with hless | hsame | hmore
  · have hlead := near_below hq h hn hless
    have hlow : -1022 ≤ exponent d := le_max_right _ _
    have hfine : exponent d = exponent q - 1 := by
      have hhalf : ((2 : ℕ) : ℚ) ^ (exponent q - 1) ≤ d := by
        rw [Nat.cast_ofNat, zpow_sub₀ (by norm_num), zpow_one, ← hlead]
        have hleft := (abs_lt.1 h).1
        have hpart : q / 2 ^ 54 ≤ q / 2 := div_le_div_of_nonneg_left hq.le (by norm_num) (by norm_num)
        linarith
      have hlog := (Int.zpow_le_iff_le_log (by decide) (near_pos hq h)).1 hhalf
      have hmax : Int.log 2 d ≤ exponent d := by
        unfold exponent
        rw [abs_of_pos (near_pos hq h)]
        exact le_max_left _ _
      omega
    have hunits : q = ((2 ^ 53 : ℤ) : ℚ) * ulp d := by
      have htop := ulp_mul_two_pow d
      rw [hfine, sub_add_cancel, ← hlead] at htop
      push_cast
      linarith
    have hclose : |d - ((2 ^ 53 : ℤ) : ℚ) * ulp d| < ulp d / 2 := by
      rw [← hunits]
      refine h.trans_eq ?_
      rw [hunits]
      push_cast
      ring
    rw [binary64_of_units hclose, ← hunits]
  · have hulp : ulp d = ulp q := by
      unfold ulp
      rw [hsame]
    have hclose : |d - n * ulp d| < ulp d / 2 := by
      rw [hulp, ← hn]
      exact near_units hq h
    rw [binary64_of_units hclose, hulp, ← hn]
  · exact absurd hmore (near_not_above hq h hn)

end

end

section

/-- The distance of the numbers of `p` digits. -/
def spacing (p : ℕ) (q : ℚ) : ℚ := 10 ^ (Int.log 10 q - (p - 1))

/-- The `p` leading digits of `q` as an integer, and the decimal exponent of the first. -/
def scientific (p : ℕ) (q : ℚ) : ℕ × ℤ :=
  let d := (roundHalfEven (q / spacing p q)).toNat
  if d = 10 ^ p then (10 ^ (p - 1), Int.log 10 q + 1) else (d, Int.log 10 q)

variable {p : ℕ} {q : ℚ}

theorem spacing_pos (p : ℕ) (q : ℚ) : 0 < spacing p q := zpow_pos (by norm_num) _

theorem spacing_mul (q : ℚ) (j : ℤ) :
    spacing p q * 10 ^ (p - 1 + j) = 10 ^ (Int.log 10 q + j) := by
  unfold spacing
  rw [← zpow_add₀ (by norm_num)]
  congr 1
  omega

theorem rounded_digits (hq : 0 < q) :
    ∃ d : ℕ, d ≤ 10 ^ p ∧ roundHalfEven (q / spacing p q) = d := by
  have hpos := spacing_pos p q
  have hzero : ((0 : ℤ) : ℚ) ≤ q / spacing p q := by
    rw [Int.cast_zero]
    exact div_nonneg hq.le hpos.le
  have htop : q / spacing p q ≤ ((10 ^ p : ℕ) : ℤ) := by
    have hhigh : q < (10 : ℚ) ^ (Int.log 10 q + 1) := by
      exact_mod_cast Int.lt_zpow_succ_log_self (b := 10) (by decide) q
    rw [← spacing_mul, sub_add_cancel, zpow_natCast, mul_comm] at hhigh
    rw [div_le_iff₀ hpos]
    exact_mod_cast hhigh.le
  obtain ⟨d, hd⟩ := Int.eq_ofNat_of_zero_le (le_roundHalfEven hzero)
  have hle := roundHalfEven_le htop
  rw [hd] at hle
  exact ⟨d, by exact_mod_cast hle, hd⟩

theorem scientific_value (hp : 0 < p) (hq : 0 < q) :
    (scientific p q).1 < 10 ^ p ∧ (scientific p q).1 * (10 : ℚ) ^ ((scientific p q).2 - (p - 1)) =
      roundHalfEven (q / spacing p q) * spacing p q := by
  obtain ⟨d, hd, hround⟩ := rounded_digits (p := p) hq
  unfold scientific
  rw [hround, Int.toNat_natCast]
  dsimp only
  split_ifs with hcarry
  · refine ⟨Nat.pow_lt_pow_right (by decide) (by omega), ?_⟩
    rw [hcarry]
    push_cast
    have hsplit : (10 : ℚ) ^ p = 10 ^ (p - 1) * 10 := by
      rw [← pow_succ, Nat.sub_add_cancel hp]
    have hshift : (10 : ℚ) ^ (Int.log 10 q + 1 - ((p : ℤ) - 1)) = spacing p q * 10 := by
      unfold spacing
      rw [← zpow_add_one₀ (by norm_num)]
      congr 1
      ring
    rw [hsplit, hshift]
    ring
  · exact ⟨lt_of_le_of_ne hd hcarry, rfl⟩

theorem scientific_near (hp : 0 < p) (hq : 0 < q) :
    |(scientific p q).1 * (10 : ℚ) ^ ((scientific p q).2 - (p - 1)) - q| ≤ q / (2 * 10 ^ (p - 1)) := by
  have hpos := spacing_pos p q
  have hlow : (10 : ℚ) ^ Int.log 10 q ≤ q := by
    exact_mod_cast Int.zpow_log_le_self (b := 10) (by decide) hq
  have hunits : spacing p q * 10 ^ (p - 1) ≤ q := by
    have hsame : spacing p q * 10 ^ (p - 1) = 10 ^ Int.log 10 q := by
      have hmul := spacing_mul (p := p) q 0
      rw [add_zero, add_zero] at hmul
      rw [← hmul, ← zpow_natCast]
      congr 2
      omega
    rw [hsame]
    exact hlow
  have hround := abs_roundHalfEven_sub (q / spacing p q)
  have hdiff : roundHalfEven (q / spacing p q) * spacing p q - q =
      (roundHalfEven (q / spacing p q) - q / spacing p q) * spacing p q := by
    rw [sub_mul, div_mul_cancel₀ _ hpos.ne']
  rw [(scientific_value hp hq).2, hdiff, abs_mul, abs_of_pos hpos, le_div_iff₀ (by positivity)]
  calc _ * spacing p q * (2 * 10 ^ (p - 1)) ≤ 1 / 2 * spacing p q * (2 * 10 ^ (p - 1)) := by gcongr
    _ = spacing p q * 10 ^ (p - 1) := by ring
    _ ≤ q := hunits

theorem binary64_scientific (hq : 0 < q) (hdouble : binary64 q = q) :
    binary64 ((scientific 17 q).1 * (10 : ℚ) ^ ((scientific 17 q).2 - 16)) = q := by
  have hnear := scientific_near (p := 17) (by decide) hq
  refine binary64_of_near hq ?_ hdouble
  have hsame : (scientific 17 q).2 - 16 = (scientific 17 q).2 - ((17 : ℕ) - 1) := rfl
  rw [hsame]
  refine hnear.trans_lt ?_
  exact div_lt_div_of_pos_left hq (by norm_num) (by norm_num)

end

open ByteText

/-- The digits before and after the point, and the exponent where one is printed. -/
structure Layout where
  whole : List ℕ
  fraction : List ℕ
  power : Option ℤ

def digitsOf (p d : ℕ) : List ℕ := (Nat.digitsAppend 10 p d).reverse

/-- The two styles of `%g`. -/
def layout (p d : ℕ) (x : ℤ) : Layout :=
  let ds := digitsOf p d
  if x < -4 ∨ (p : ℤ) ≤ x then ⟨ds.take 1, ds.drop 1, some x⟩
  else if x < 0 then ⟨[0], List.replicate (-x - 1).toNat 0 ++ ds, none⟩
  else ⟨ds.take (x + 1).toNat, ds.drop (x + 1).toNat, none⟩

def powerText (x : ℤ) : Text :=
  let digits := toText x.natAbs
  101 :: (if x < 0 then 45 else 43) :: (List.replicate (2 - digits.length) 48 ++ digits)

def Layout.text (l : Layout) : Text :=
  let fraction := l.fraction.rdropWhile (· = 0)
  l.whole.map digit ++ ((if fraction = [] then [] else 46 :: fraction.map digit) ++
    l.power.elim [] powerText)

/-- `%.{p}g`. -/
def general (p : ℕ) (q : ℚ) : Text :=
  let s := scientific p |q|
  (if q < 0 then [45] else []) ++ (layout p s.1 s.2).text

/-- How a numeral is written: decimal, or hexadecimal with a binary exponent. -/
structure Radix where
  base : ℕ
  isDigit : UInt8 → Bool
  value : UInt8 → ℕ
  marks : Text
  scale : ℕ

def tens : Radix := ⟨10, isDigit, digitValue, [101, 69], 10⟩

def isHexDigit (c : UInt8) : Bool := isDigit c || (97 ≤ c && c ≤ 102) || (65 ≤ c && c ≤ 70)

def hexValue (c : UInt8) : ℕ :=
  if isDigit c then digitValue c else if 97 ≤ c then c.toNat - 87 else c.toNat - 55

def sixteens : Radix := ⟨16, isHexDigit, hexValue, [112, 80], 2⟩

def sign : Text → Bool × Text
  | [] => (false, [])
  | c :: s => if c = 45 then (true, s) else if c = 43 then (false, s) else (false, c :: s)

def power (marks : Text) : Text → ℤ × Text
  | [] => (0, [])
  | m :: s =>
    let digits := (sign s).2.takeWhile isDigit
    if m ∉ marks ∨ digits = [] then (0, m :: s)
    else
      (if (sign s).1 then -(decimal digits : ℤ) else decimal digits, (sign s).2.dropWhile isDigit)

def fraction (isDigit : UInt8 → Bool) : Text → Text × Text
  | [] => ([], [])
  | c :: s => if c = 46 then (s.takeWhile isDigit, s.dropWhile isDigit) else ([], c :: s)

def Radix.numeral (r : Radix) (s : Text) : Option (ℚ × Text) :=
  let whole := s.takeWhile r.isDigit
  let fractional := fraction r.isDigit (s.dropWhile r.isDigit)
  if whole = [] ∧ fractional.1 = [] then none
  else
    let exponent := power r.marks fractional.2
    let digits := Nat.ofDigits r.base ((whole ++ fractional.1).map r.value).reverse
    some (digits * (r.scale : ℚ) ^ exponent.1 / (r.base : ℚ) ^ fractional.1.length, exponent.2)

def lower (c : UInt8) : UInt8 := if 65 ≤ c && c ≤ 90 then c + 32 else c

def afterWord (w s : Text) : Option Text :=
  if (s.take w.length).map lower = w then some (s.drop w.length) else none

def notFinite (s : Text) : Option Text :=
  match afterWord (text "infinity") s <|> afterWord (text "inf") s with
  | some rest => some rest
  | none =>
    (afterWord (text "nan") s).map fun rest =>
      let inside := (rest.drop 1).dropWhile fun c =>
        isDigit c || (97 ≤ lower c && lower c ≤ 122) || c = 95
      if rest.head? = some 40 ∧ inside.head? = some 41 then inside.drop 1 else rest

def hexadecimal : Text → Option (ℚ × Text)
  | 48 :: x :: s => if x = 120 ∨ x = 88 then sixteens.numeral s else none
  | _ => none

inductive StodError
  | invalidArgument | outOfRange
  deriving DecidableEq

/-- `std::stod`: the value (`none` where it is not finite) and the number of characters read. A
result that overflows or is subnormal is out of range. -/
def stod (s : Text) : Except StodError (Option ℚ × ℕ) :=
  let signed := sign (s.dropWhile isSpace)
  match notFinite signed.2 with
  | some rest => .ok (none, s.length - rest.length)
  | none =>
    match hexadecimal signed.2 <|> tens.numeral signed.2 with
    | none => .error .invalidArgument
    | some (v, rest) =>
      let q := binary64 (if signed.1 then -v else v)
      if 2 ^ 1024 ≤ |q| ∨ v ≠ 0 ∧ |q| < 1 / 2 ^ 1022 then .error .outOfRange
      else .ok (some q, s.length - rest.length)

section

theorem span_digits {ds rest : Text} (hds : ∀ c ∈ ds, isDigit c = true)
    (hrest : ∀ c ∈ rest.head?, isDigit c = false) :
    (ds ++ rest).takeWhile isDigit = ds ∧ (ds ++ rest).dropWhile isDigit = rest := by
  rw [takeWhile_append_of_pos hds, dropWhile_append_of_pos hds]
  cases rest with
  | nil => exact ⟨append_nil ds, rfl⟩
  | cons c rest =>
    have hc : ¬ isDigit c = true := by simp [hrest c rfl]
    rw [takeWhile_cons_of_neg hc, dropWhile_cons_of_neg hc]
    exact ⟨append_nil ds, rfl⟩

theorem isDigit_map_digit {ds : List ℕ} (h : ∀ d ∈ ds, d < 10) :
    ∀ c ∈ ds.map digit, isDigit c = true := by
  intro c hc
  obtain ⟨d, hd, rfl⟩ := mem_map.1 hc
  exact isDigit_digit (h d hd)

theorem decimal_zeros (n : ℕ) (s : Text) : decimal (List.replicate n 48 ++ s) = decimal s := by
  unfold decimal
  rw [map_append, map_replicate, reverse_append, reverse_replicate]
  exact Nat.ofDigits_append_replicate_zero _

theorem power_powerText (x : ℤ) : power [101, 69] (powerText x) = (x, []) := by
  have hdigits : ∀ c ∈ List.replicate (2 - (toText x.natAbs).length) 48 ++ toText x.natAbs,
      isDigit c = true := by
    intro c hc
    rcases mem_append.1 hc with hzero | hdigit
    · rw [eq_of_mem_replicate hzero]
      rfl
    · exact isDigit_toText _ c hdigit
  have hvalue : decimal (List.replicate (2 - (toText x.natAbs).length) 48 ++ toText x.natAbs) = x.natAbs := by
    rw [decimal_zeros, decimal_toText]
  have hne : List.replicate (2 - (toText x.natAbs).length) 48 ++ toText x.natAbs ≠ [] :=
    append_ne_nil_of_right_ne_nil _ (toText_ne_nil _)
  unfold powerText
  dsimp only
  generalize List.replicate (2 - (toText x.natAbs).length) 48 ++ toText x.natAbs = ds at *
  obtain ⟨htake, hdrop⟩ := @span_digits _ [] hdigits (by simp)
  rw [append_nil] at htake hdrop
  by_cases hneg : x < 0
  · rw [if_pos hneg]
    simp [power, sign, htake, hdrop, hne, hvalue, abs_of_neg hneg]
  · rw [if_neg hneg]
    simp [power, sign, htake, hdrop, hne, hvalue, abs_of_nonneg (not_lt.1 hneg)]

variable {l : Layout}

structure Layout.Printable (l : Layout) : Prop where
  whole_ne_nil : l.whole ≠ []
  digits : ∀ d ∈ l.whole ++ l.fraction, d < 10

def Layout.value (l : Layout) : ℚ :=
  (Nat.ofDigits 10 (l.whole ++ l.fraction).reverse : ℕ) * 10 ^ l.power.getD 0 / 10 ^ l.fraction.length

theorem exponent_text (x : Option ℤ) : power [101, 69] (x.elim [] powerText) = (x.getD 0, []) := by
  cases x with
  | none => rfl
  | some x => exact power_powerText x

theorem exponent_head (x : Option ℤ) : ∀ c ∈ (x.elim [] powerText).head?, c = 101 := by
  intro c hc
  cases x with
  | none => cases hc
  | some x => exact (Option.some.inj hc).symm

theorem fraction_text {ds : List ℕ} (h : ∀ d ∈ ds, d < 10) (x : Option ℤ) :
    fraction isDigit ((if ds = [] then [] else 46 :: ds.map digit) ++ x.elim [] powerText) =
      (ds.map digit, x.elim [] powerText) := by
  have hhead : ∀ c ∈ (x.elim [] powerText).head?, isDigit c = false := by
    intro c hc
    rw [exponent_head x c hc]
    rfl
  split_ifs with hnil
  · subst hnil
    cases x with
    | none => rfl
    | some x => rfl
  · obtain ⟨htake, hdrop⟩ := span_digits (isDigit_map_digit h) hhead
    rw [cons_append, fraction, if_pos rfl, htake, hdrop]

theorem value_rdropWhile (whole ds : List ℕ) :
    ((Nat.ofDigits 10 (whole ++ ds.rdropWhile (· = 0)).reverse : ℕ) : ℚ) /
      10 ^ (ds.rdropWhile (· = 0)).length =
    (Nat.ofDigits 10 (whole ++ ds).reverse : ℕ) / 10 ^ ds.length := by
  have hzeros : ds.rtakeWhile (· = 0) = List.replicate (ds.rtakeWhile (· = 0)).length 0 :=
    eq_replicate_of_mem fun d hd =>
      of_decide_eq_true (mem_rtakeWhile_imp (p := fun d => decide (d = 0)) hd)
  have hsplit := (rdropWhile_append_rtakeWhile (p := fun d => decide (d = 0)) (l := ds)).symm
  rw [hzeros] at hsplit
  generalize ds.rdropWhile (· = 0) = front at *
  generalize (ds.rtakeWhile (· = 0)).length = n at *
  have hreverse : (whole ++ ds).reverse = List.replicate n 0 ++ (whole ++ front).reverse := by
    rw [hsplit, ← append_assoc, reverse_append, reverse_replicate]
  rw [hreverse, hsplit, Nat.ofDigits_append, Nat.ofDigits_replicate_zero, zero_add, length_replicate,
    length_append, length_replicate, pow_add]
  push_cast
  rw [mul_comm, mul_div_mul_right _ _ (by positivity)]

theorem numeral_text (h : l.Printable) : tens.numeral l.text = some (l.value, []) := by
  have hwhole : ∀ d ∈ l.whole, d < 10 := fun d hd => h.digits d (mem_append_left _ hd)
  have hfraction : ∀ d ∈ l.fraction.rdropWhile (· = 0), d < 10 := fun d hd =>
    h.digits d (mem_append_right _ ((List.rdropWhile_prefix _ _).subset hd))
  have hhead : ∀ c ∈ ((if l.fraction.rdropWhile (· = 0) = [] then []
      else 46 :: (l.fraction.rdropWhile (· = 0)).map digit) ++ l.power.elim [] powerText).head?,
      isDigit c = false := by
    intro c hc
    split_ifs at hc with hnil
    · rw [exponent_head l.power c hc]
      rfl
    · rw [← Option.some.inj hc]
      rfl
  obtain ⟨htake, hdrop⟩ := span_digits (isDigit_map_digit hwhole) hhead
  have hne : l.whole.map digit ≠ [] := by simp [h.whole_ne_nil]
  have hvalue := value_rdropWhile l.whole l.fraction
  unfold Radix.numeral Layout.text
  dsimp only [tens]
  rw [htake, hdrop, fraction_text hfraction, exponent_text, if_neg fun hnil => hne hnil.1]
  dsimp only
  have hdigits : ∀ d ∈ l.whole ++ l.fraction.rdropWhile (· = 0), d < 10 := fun d hd =>
    (mem_append.1 hd).elim (hwhole d) (hfraction d)
  rw [← map_append, map_digitValue_digit hdigits, length_map, Layout.value, mul_div_right_comm,
    mul_div_right_comm, Nat.cast_ofNat, hvalue]

section

variable {p d : ℕ} (x : ℤ)

theorem digitsOf_length (hd : d < 10 ^ p) : (digitsOf p d).length = p := by
  unfold digitsOf
  rw [length_reverse]
  exact Nat.length_digitsAppend (by decide) p hd

theorem digitsOf_lt : ∀ n ∈ digitsOf p d, n < 10 := fun n hn =>
  Nat.lt_of_mem_digitsAppend (by decide) p n (mem_reverse.1 hn)

theorem ofDigits_digitsOf : Nat.ofDigits 10 (digitsOf p d).reverse = d := by
  unfold digitsOf Nat.digitsAppend
  rw [reverse_reverse, Nat.ofDigits_append_replicate_zero, Nat.ofDigits_digits]

theorem layout_printable (hp : 0 < p) (hd : d < 10 ^ p) : (layout p d x).Printable := by
  have hlength := digitsOf_length hd
  have hdigits := digitsOf_lt (p := p) (d := d)
  have htaken {n : ℕ} (hn : 0 < n) : (digitsOf p d).take n ≠ [] := by
    intro hnil
    have hzero := congrArg List.length hnil
    rw [length_take, hlength, length_nil] at hzero
    omega
  unfold layout
  dsimp only
  split_ifs with hlarge hneg
  · exact ⟨htaken (by decide), by rwa [take_append_drop]⟩
  · refine ⟨cons_ne_nil _ _, fun n hn => ?_⟩
    dsimp only at hn
    rw [mem_append, mem_append, mem_singleton] at hn
    rcases hn with rfl | hzero | hdigit
    · decide
    · rw [eq_of_mem_replicate hzero]
      decide
    · exact hdigits n hdigit
  · exact ⟨htaken (by omega), by rwa [take_append_drop]⟩

theorem layout_value (hp : 0 < p) (hd : d < 10 ^ p) :
    (layout p d x).value = d * (10 : ℚ) ^ (x - (p - 1)) := by
  have hten : (10 : ℚ) ≠ 0 := by norm_num
  have hlength := digitsOf_length hd
  have hvalue := ofDigits_digitsOf (p := p) (d := d)
  have hshift {e : ℤ} {n : ℕ} (h : e - n = x - (p - 1)) :
      (d : ℚ) * 10 ^ e / 10 ^ n = d * 10 ^ (x - ((p : ℤ) - 1)) := by
    rw [mul_div_assoc, ← zpow_natCast, ← zpow_sub₀ hten, h]
  unfold layout
  dsimp only
  split_ifs with hlarge hneg
  · unfold Layout.value
    dsimp only
    rw [take_append_drop, hvalue, length_drop, hlength]
    exact hshift (by rw [Option.getD_some]; omega)
  · unfold Layout.value
    dsimp only
    have hzeros : (0 :: (List.replicate (-x - 1).toNat 0 ++ digitsOf p d)).reverse =
        (digitsOf p d).reverse ++ List.replicate ((-x - 1).toNat + 1) 0 := by
      rw [reverse_cons, reverse_append, reverse_replicate, append_assoc,
        replicate_succ']
    rw [singleton_append, hzeros, Nat.ofDigits_append_replicate_zero, hvalue, length_append,
      length_replicate, hlength]
    exact hshift (by rw [Option.getD_none]; omega)
  · unfold Layout.value
    dsimp only
    rw [take_append_drop, hvalue, length_drop, hlength]
    exact hshift (by rw [Option.getD_none]; omega)

theorem text_length (hp : 0 < p) (hd : d < 10 ^ p) :
    (layout p d x).text.length ≤ p + 5 + (toText x.natAbs).length := by
  have hlength := digitsOf_length hd
  have htrim (ds : List ℕ) : (ds.rdropWhile (· = 0)).length ≤ ds.length :=
    (List.rdropWhile_prefix _ _).length_le
  have hpoint (ds : List ℕ) : (if ds = [] then [] else 46 :: ds.map digit : Text).length ≤ ds.length + 1 := by
    split_ifs <;> simp
  unfold Layout.text
  dsimp only
  rw [length_append, length_append, length_map]
  have hfraction := (hpoint _).trans (Nat.succ_le_succ (htrim (layout p d x).fraction))
  refine (Nat.add_le_add_left (Nat.add_le_add_right hfraction _) _).trans ?_
  unfold layout
  dsimp only
  split_ifs with hlarge hneg
  · rw [length_take, length_drop, hlength]
    change _ + (_ + (powerText x).length) ≤ _
    unfold powerText
    simp only [length_cons, length_append, length_replicate]
    omega
  · rw [length_append, length_replicate, hlength]
    simp only [length_cons, length_nil, Option.elim_none]
    omega
  · rw [length_take, length_drop, hlength]
    simp only [length_nil, Option.elim_none]
    omega

end

section

variable {q : ℚ}

def IsNumeralChar (c : UInt8) : Prop := isDigit c = true ∨ c ∈ [43, 45, 46, 101]

theorem powerText_chars (x : ℤ) : ∀ c ∈ powerText x, IsNumeralChar c := by
  intro c hc
  unfold powerText at hc
  dsimp only at hc
  rw [mem_cons, mem_cons, mem_append] at hc
  rcases hc with rfl | rfl | hzero | hdigit
  · exact .inr (by decide)
  · right
    split_ifs <;> decide
  · rw [eq_of_mem_replicate hzero]
    exact .inl rfl
  · exact .inl (isDigit_toText _ c hdigit)

theorem text_chars {l : Layout} (h : l.Printable) : ∀ c ∈ l.text, IsNumeralChar c := by
  intro c hc
  unfold Layout.text at hc
  dsimp only at hc
  rw [mem_append, mem_append] at hc
  rcases hc with hwhole | hfraction | hpower
  · exact .inl (isDigit_map_digit (fun d hd => h.digits d (mem_append_left _ hd)) c hwhole)
  · split_ifs at hfraction with hnil
    · cases hfraction
    · rcases mem_cons.1 hfraction with rfl | hdigit
      · exact .inr (by decide)
      · exact .inl (isDigit_map_digit (fun d hd => h.digits d (mem_append_right _
          ((List.rdropWhile_prefix _ _).subset hd))) c hdigit)
  · cases hl : l.power with
    | none =>
      rw [hl] at hpower
      cases hpower
    | some x =>
      rw [hl] at hpower
      exact powerText_chars x c hpower

theorem text_head {l : Layout} (h : l.Printable) : ∃ d rest, d < 10 ∧ l.text = digit d :: rest := by
  obtain ⟨d, whole, hwhole⟩ := exists_cons_of_ne_nil h.whole_ne_nil
  have hd : d < 10 := h.digits d (mem_append_left _ (hwhole ▸ .head _))
  unfold Layout.text
  rw [hwhole]
  exact ⟨d, _, hd, rfl⟩

theorem notFinite_digit {d : ℕ} (h : d < 10) (rest : Text) : notFinite (digit d :: rest) = none := by
  have hword (w : UInt8) (ws : Text) (hw : lower (digit d) ≠ w) :
      afterWord (w :: ws) (digit d :: rest) = none := by
    unfold afterWord
    rw [if_neg]
    intro heq
    exact hw (List.cons.inj heq).1
  unfold notFinite
  rw [show text "infinity" = 105 :: text "nfinity" from rfl, show text "inf" = 105 :: text "nf" from rfl,
    show text "nan" = 110 :: text "an" from rfl]
  rw [hword, hword, hword]
  · rfl
  all_goals
    interval_cases d <;> decide

theorem hexadecimal_none {s : Text} (h : ∀ c ∈ s, IsNumeralChar c) : hexadecimal s = none := by
  unfold hexadecimal
  split
  · rename_i x s
    have hx := h x (.tail _ (.head _))
    rw [if_neg]
    rintro (rfl | rfl)
    · rcases hx with hx | hx <;> revert hx <;> decide
    · rcases hx with hx | hx <;> revert hx <;> decide
  · rfl

theorem sign_digit {d : ℕ} (h : d < 10) (rest : Text) :
    sign (digit d :: rest) = (false, digit d :: rest) := by
  interval_cases d <;> rfl

theorem stod_text {l : Layout} (h : l.Printable) (hrange : ¬ (2 ^ 1024 ≤ |binary64 l.value| ∨
    l.value ≠ 0 ∧ |binary64 l.value| < 1 / 2 ^ 1022)) :
    stod l.text = .ok (some (binary64 l.value), l.text.length) := by
  obtain ⟨d, rest, hd, htext⟩ := text_head h
  have hspace : l.text.dropWhile isSpace = l.text := by
    rw [htext, dropWhile_cons_of_neg]
    rw [not_isSpace_of_isDigit (isDigit_digit hd)]
    decide
  unfold stod
  dsimp only
  rw [hspace]
  have hsign : sign l.text = (false, l.text) := by
    rw [htext]
    exact sign_digit hd rest
  have hfinite : notFinite l.text = none := by
    rw [htext]
    exact notFinite_digit hd rest
  rw [hsign]
  dsimp only
  rw [hfinite, hexadecimal_none (text_chars h), numeral_text h]
  change (if 2 ^ 1024 ≤ |binary64 l.value| ∨ l.value ≠ 0 ∧ |binary64 l.value| < 1 / 2 ^ 1022 then _ else
    Except.ok (some (binary64 l.value), l.text.length - ([] : Text).length)) = _
  rw [if_neg hrange]
  rfl

theorem scientific_zero {p : ℕ} : scientific p 0 = (0, 0) := by
  unfold scientific
  rw [zero_div, show roundHalfEven 0 = 0 by decide +kernel, Int.log_zero_right, Int.toNat_zero]
  exact if_neg (pow_pos (by decide) p).ne

theorem scientific_lt {p : ℕ} (hp : 0 < p) (hq : 0 ≤ q) : (scientific p q).1 < 10 ^ p := by
  rcases hq.eq_or_lt with rfl | hpos
  · rw [scientific_zero]
    exact pow_pos (by decide) p
  · exact (scientific_value hp hpos).1

theorem general_nonneg {p : ℕ} (hq : 0 ≤ q) :
    general p q = (layout p (scientific p q).1 (scientific p q).2).text := by
  unfold general
  rw [if_neg (not_lt.2 hq), abs_of_nonneg hq]
  rfl

theorem general_chars {p : ℕ} (hp : 0 < p) (hq : 0 ≤ q) : ∀ c ∈ general p q, IsNumeralChar c := by
  rw [general_nonneg hq]
  exact text_chars (layout_printable _ hp (scientific_lt hp hq))

theorem general_length (hpos : 0 < q) (hlow : 1 / 10 ^ 99 ≤ q) (hhigh : q < 10 ^ 98) :
    (general 17 q).length ≤ 24 := by
  have hlogHigh : Int.log 10 q < 98 :=
    (Int.lt_zpow_iff_log_lt (by decide) hpos).1 (by exact_mod_cast hhigh)
  have hlogLow : -99 ≤ Int.log 10 q := by
    refine (Int.zpow_le_iff_le_log (by decide) hpos).1 ?_
    rw [zpow_neg, ← one_div]
    exact_mod_cast hlow
  have hpower : (scientific 17 q).2.natAbs < 10 ^ 2 := by
    unfold scientific
    dsimp only
    split_ifs <;> dsimp only <;> omega
  have hdigits := toText_length (by decide) hpower
  rw [general_nonneg hpos.le]
  exact (text_length _ (by decide) (scientific_lt (by decide) hpos.le)).trans (by omega)

theorem stod_general (hq : 0 ≤ q) (hdouble : binary64 q = q) (hnormal : q = 0 ∨ 1 / 2 ^ 1022 ≤ q)
    (hfinite : q < 2 ^ 1024) : stod (general 17 q) = .ok (some q, (general 17 q).length) := by
  have hdigits := scientific_lt (p := 17) (by decide) hq
  have hprintable := layout_printable (scientific 17 q).2 (by decide) hdigits
  have hvalue := layout_value (scientific 17 q).2 (by decide) hdigits
  have hround : binary64 (layout 17 (scientific 17 q).1 (scientific 17 q).2).value = q := by
    rw [hvalue]
    rcases hq.eq_or_lt with rfl | hpos
    · rw [scientific_zero, Nat.cast_zero, zero_mul]
      exact hdouble
    · exact binary64_scientific hpos hdouble
  have hrange : ¬ (2 ^ 1024 ≤ |q| ∨ (layout 17 (scientific 17 q).1 (scientific 17 q).2).value ≠ 0 ∧
      |q| < 1 / 2 ^ 1022) := by
    rw [abs_of_nonneg hq]
    rintro (hlarge | ⟨hne, hsmall⟩)
    · exact absurd hfinite (not_lt.2 hlarge)
    · rcases hnormal with rfl | hnormal
      · rw [scientific_zero] at hne
        exact hne (by decide +kernel)
      · exact absurd hsmall (not_lt.2 hnormal)
  rw [general_nonneg hq]
  rw [← hround] at hrange
  rw [stod_text hprintable (by rwa [hround] at hrange ⊢), hround]

end

end

end Parp.DecimalDoubles
