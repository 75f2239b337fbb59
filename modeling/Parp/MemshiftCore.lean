import Mathlib.Data.List.Basic
import Mathlib.Algebra.GroupWithZero.Nat

set_option autoImplicit false

/-!
# Bytes and texts

A text is its characters, one for each byte; what the functions throw is the text of the exception.
-/
namespace Parp.Memshift

open List

abbrev Bytes := UInt64

abbrev MiB : Bytes := 1048576

def Unlimited : Bytes := 18446744073709551615

def sub (a b : Bytes) : Bytes := if b < a then a - b else 0

def add (a b : Bytes) : Bytes := if Unlimited - b < a then Unlimited else a + b

theorem sub_toNat (a b : Bytes) : (sub a b).toNat = a.toNat - b.toNat := by
  unfold sub
  split_ifs with h
  · exact UInt64.toNat_sub_of_le _ _ (UInt64.le_of_lt h)
  · have hle := UInt64.le_iff_toNat_le.1 (UInt64.not_lt.1 h)
    change 0 = _
    omega

theorem add_toNat (a b : Bytes) : (add a b).toNat = min (a.toNat + b.toNat) (2 ^ 64 - 1) := by
  have ha := a.toNat_lt
  have hb := b.toNat_lt
  have hsub : (Unlimited - b).toNat = 2 ^ 64 - 1 - b.toNat := by
    rw [UInt64.toNat_sub_of_le]
    · rfl
    · rw [UInt64.le_iff_toNat_le]
      exact Nat.le_of_lt_succ hb
  unfold add
  split_ifs with h
  · rw [UInt64.lt_iff_toNat_lt, hsub] at h
    change 2 ^ 64 - 1 = _
    omega
  · rw [UInt64.lt_iff_toNat_lt, hsub] at h
    rw [UInt64.toNat_add]
    omega

theorem foldl_add_toNat {τ : Type} (history : List (τ × Bytes)) (start : Bytes) :
    (history.foldl (fun sum e => add sum e.2) start).toNat =
      min (start.toNat + (history.map fun e => e.2.toNat).sum) (2 ^ 64 - 1) := by
  induction history generalizing start with
  | nil =>
    have hlt := start.toNat_lt
    rw [foldl_nil, map_nil, sum_nil]
    omega
  | cons e history ih =>
    rw [foldl_cons, ih, add_toNat, map_cons, sum_cons]
    omega

abbrev Text := List Char

def text (s : String) : Text := s.toList

def isBlank (c : Char) : Bool := c = ' ' || c = '\t' || c = '\r' || c = '\n'

def trim (s : Text) : Text := ((s.dropWhile isBlank).reverse.dropWhile isBlank).reverse

/-- `std::to_string` of an unsigned number. -/
def toText (n : ℕ) : Text := Nat.toDigits 10 n

def decimal (s : Text) : ℕ := Nat.ofDigitChars 10 s 0

def uintValue (s : Text) : Except Text Bytes :=
  if s = [] ∨ ¬ s.all Char.isDigit then .error (text "expected unsigned integer: " ++ s)
  -- `std::stoull` throws beyond 64 bits
  else if decimal s < 2 ^ 64 then .ok (UInt64.ofNat (decimal s))
  else .error (text "stoull")

def boolValue (s : Text) : Except Text Bool :=
  if s = text "true" then .ok true
  else if s = text "false" then .ok false
  else .error (text "expected true or false: " ++ s)

def mbValue (s : Text) : Except Text Bytes := do
  let v ← uintValue s
  if Unlimited / MiB < v then .error (text "MiB value overflow") else .ok (v * MiB)

def safeName (s : Text) : Bool :=
  s ≠ [] && s.length ≤ 100 && s.all (fun c => c.isAlphanum || "_-. ".toList.contains c) &&
    !s.contains ' ' && s ≠ ['.'] && s ≠ ['.', '.']

theorem uintValue_toText {n : ℕ} (h : n < 2 ^ 64) : uintValue (toText n) = .ok (UInt64.ofNat n) := by
  have hdigits : ¬ (toText n = [] ∨ ¬ (toText n).all Char.isDigit = true) := by
    rintro (hnil | hall)
    · exact Nat.toDigits_ne_nil hnil
    · refine hall (all_eq_true.2 fun c hc => ?_)
      exact Nat.isDigit_of_mem_toDigits (by decide) (by decide) hc
  have hvalue : decimal (toText n) = n := Nat.ofDigitChars_ten_toDigits
  unfold uintValue
  rw [if_neg hdigits, hvalue, if_pos h]

theorem mbValue_toText {b : Bytes} (h : b % MiB = 0) : mbValue (toText (b / MiB).toNat) = .ok b := by
  have hquotient : ¬ Unlimited / MiB < b / MiB := by
    rw [UInt64.not_lt, UInt64.le_iff_toNat_le, UInt64.toNat_div, UInt64.toNat_div]
    have hb := b.toNat_lt
    exact Nat.div_le_div_right (Nat.le_of_lt_succ hb)
  have hback : b / MiB * MiB = b := by
    have hmod := congrArg UInt64.toNat h
    rw [UInt64.toNat_mod] at hmod
    rw [← UInt64.toNat_inj, UInt64.toNat_mul, UInt64.toNat_div]
    have hb := b.toNat_lt
    have hdvd : b.toNat / MiB.toNat * MiB.toNat = b.toNat :=
      Nat.div_mul_cancel (Nat.dvd_of_mod_eq_zero hmod)
    rw [hdvd]
    exact Nat.mod_eq_of_lt hb
  unfold mbValue
  rw [uintValue_toText (b / MiB).toNat_lt, UInt64.ofNat_toNat]
  change (if Unlimited / MiB < b / MiB then _ else Except.ok (b / MiB * MiB)) = _
  rw [if_neg hquotient, hback]

theorem mbValue_whole {s : Text} {b : Bytes} (h : mbValue s = .ok b) : b % MiB = 0 := by
  unfold mbValue at h
  cases hv : uintValue s with
  | error e =>
    rw [hv] at h
    cases h
  | ok v =>
    rw [hv] at h
    change (if Unlimited / MiB < v then Except.error _ else Except.ok (v * MiB)) = _ at h
    split_ifs at h with hlarge
    cases h
    have hle := UInt64.le_iff_toNat_le.1 (UInt64.not_lt.1 hlarge)
    have hproduct : v.toNat * MiB.toNat < 2 ^ 64 := by
      have hbound : (Unlimited / MiB).toNat * MiB.toNat < 2 ^ 64 := by decide
      exact Nat.lt_of_le_of_lt (Nat.mul_le_mul_right _ hle) hbound
    rw [← UInt64.toNat_inj, UInt64.toNat_mod, UInt64.toNat_mul, Nat.mod_eq_of_lt hproduct]
    exact Nat.mul_mod_left _ _

def Clean (s : Text) : Prop := ∀ c ∈ s, isBlank c = false

theorem dropWhile_clean {s : Text} (h : Clean s) : s.dropWhile isBlank = s := by
  cases s with
  | nil => rfl
  | cons c s => rw [dropWhile_cons_of_neg (by simp [h c (.head _)])]

theorem trim_clean {s : Text} (h : Clean s) : trim s = s := by
  have hreverse : Clean s.reverse := fun c hc => h c (mem_reverse.1 hc)
  unfold trim
  rw [dropWhile_clean h, dropWhile_clean hreverse, reverse_reverse]

theorem clean_append {s t : Text} (hs : Clean s) (ht : Clean t) : Clean (s ++ t) := by
  intro c hc
  exact (mem_append.1 hc).elim (hs c) (ht c)

theorem clean_toText (n : ℕ) : Clean (toText n) := by
  intro c hc
  have hdigit := Nat.isDigit_of_mem_toDigits (by decide) (by decide) hc
  cases hblank : isBlank c with
  | false => rfl
  | true =>
    simp only [isBlank, Bool.or_eq_true, decide_eq_true_eq] at hblank
    rcases hblank with ((rfl | rfl) | rfl) | rfl <;> cases hdigit

section

variable {s : Text}

theorem safeName_ne_nil (h : safeName s = true) : s ≠ [] := by
  intro hs
  rw [hs] at h
  cases h

theorem safeName_char (h : safeName s = true) {c : Char} (hc : c ∈ s) :
    (c.isAlphanum = true ∨ c ∈ ['_', '-', '.', ' ']) ∧ c ≠ ' ' := by
  simp only [safeName, Bool.and_eq_true, all_eq_true, Bool.or_eq_true] at h
  refine ⟨(h.1.1.1.2 c hc).imp_right contains_iff_mem.1, fun hspace => ?_⟩
  have hnone := h.1.1.2
  rw [Bool.not_eq_true', ← Bool.not_eq_true, contains_iff_mem] at hnone
  exact hnone (hspace ▸ hc)

theorem safeName_not_mem (h : safeName s = true) {c : Char}
    (hc : c.isAlphanum = false ∧ c ∉ ['_', '-', '.']) : c ∉ s := by
  intro hmem
  obtain ⟨hsafe, hspace⟩ := safeName_char h hmem
  rcases hsafe with hsafe | hsafe
  · rw [hc.1] at hsafe
    cases hsafe
  · simp only [mem_cons, not_mem_nil, or_false] at hsafe hc
    tauto

theorem safeName_clean (h : safeName s = true) : Clean s := by
  intro c hc
  cases hblank : isBlank c with
  | false => rfl
  | true =>
    simp only [isBlank, Bool.or_eq_true, decide_eq_true_eq] at hblank
    exfalso
    rcases hblank with ((rfl | rfl) | rfl) | rfl
    · exact (safeName_char h hc).2 rfl
    · exact safeName_not_mem h (by decide) hc
    · exact safeName_not_mem h (by decide) hc
    · exact safeName_not_mem h (by decide) hc

end

end Parp.Memshift
