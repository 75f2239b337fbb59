import Mathlib.Data.List.Basic
import Mathlib.Data.Nat.Bitwise
import Mathlib.Tactic.Ring

set_option autoImplicit false

/-!
# Word arithmetic that must not wrap

A difference or a sum of 64-bit words, or nothing where the machine word would wrap.
-/
namespace Parp.CheckedWords

def checkedSub (a b : UInt64) : Option UInt64 := if b ≤ a then some (a - b) else none

def checkedAdd (a b : UInt64) : Option UInt64 :=
  if a.toNat + b.toNat < 2 ^ 64 then some (a + b) else none

theorem checkedSub_of_le {a b : UInt64} (h : b ≤ a) : checkedSub a b = some (a - b) := if_pos h

theorem checkedAdd_of_lt {a b : UInt64} (h : a.toNat + b.toNat < 2 ^ 64) :
    checkedAdd a b = some (a + b) :=
  if_pos h

end Parp.CheckedWords

/-!
# Fields of 64-bit words

Masks and shifts that pack several fields into one `UInt64`.
-/
namespace Parp.WordFields

theorem and_or (w a b : UInt64) : w &&& (a ||| b) = (w &&& a) ||| (w &&& b) := by
  rw [← UInt64.toNat_inj]
  simp only [UInt64.toNat_and, UInt64.toNat_or, Nat.and_or_distrib_left]

theorem or_and (a b m : UInt64) : (a ||| b) &&& m = (a &&& m) ||| (b &&& m) := by
  rw [UInt64.and_comm, and_or, UInt64.and_comm m a, UInt64.and_comm m b]

theorem and_of_andNot {w m : UInt64} (h : w &&& ~~~m = 0) : w &&& m = w := by
  have hall : m ||| ~~~m = ~~~0 := by
    rw [← UInt64.toBitVec_inj]
    simp
  have hsplit := and_or w m (~~~m)
  rw [hall, h] at hsplit
  simpa using hsplit.symm

theorem shiftRight_and_shiftLeft (w m s : UInt64) (hs : s.toNat < 64) :
    ((w >>> s) &&& m) <<< s = w &&& (m <<< s) := by
  rw [← UInt64.toNat_inj]
  simp only [UInt64.toNat_shiftLeft, UInt64.toNat_and, UInt64.toNat_shiftRight, Nat.mod_eq_of_lt hs]
  apply Nat.eq_of_testBit_eq
  intro i
  simp only [Nat.testBit_mod_two_pow, Nat.testBit_and, Nat.testBit_shiftLeft, Nat.testBit_shiftRight]
  by_cases hi : s.toNat ≤ i
  · have hsum : s.toNat + (i - s.toNat) = i := by omega
    by_cases hi64 : i < 64
    · simp [hi, hi64, hsum]
    · simp [hi64]
  · simp [hi]

theorem toNat_le_of_andNot {w m : UInt32} (h : w &&& ~~~m = 0) : w.toNat ≤ m.toNat := by
  have hall : m ||| ~~~m = ~~~0 := by
    rw [← UInt32.toBitVec_inj]
    simp
  have hsplit : w &&& (m ||| ~~~m) = (w &&& m) ||| (w &&& ~~~m) := by
    rw [← UInt32.toNat_inj]
    simp only [UInt32.toNat_and, UInt32.toNat_or, Nat.and_or_distrib_left]
  rw [hall, h] at hsplit
  have hmask : w = w &&& m := by simpa using hsplit
  rw [hmask, UInt32.toNat_and]
  exact Nat.and_le_right

theorem ne_zero_of_lt {a b : UInt32} (h : a < b) : b ≠ 0 := by
  rintro rfl
  exact UInt32.not_lt_zero h

theorem toNat_and_lt {w m : UInt64} {n : ℕ} (hm : m.toNat < n) : (w &&& m).toNat < n := by
  rw [UInt64.toNat_and]
  exact Nat.lt_of_le_of_lt Nat.and_le_right hm

theorem toUInt8_toUInt64 {w : UInt64} (h : w.toNat < 2 ^ 8) : w.toUInt8.toUInt64 = w := by
  rw [← UInt64.toNat_inj, UInt8.toNat_toUInt64, UInt64.toNat_toUInt8]
  exact Nat.mod_eq_of_lt h

theorem toUInt16_toUInt64 {w : UInt64} (h : w.toNat < 2 ^ 16) : w.toUInt16.toUInt64 = w := by
  rw [← UInt64.toNat_inj, UInt16.toNat_toUInt64, UInt64.toNat_toUInt16]
  exact Nat.mod_eq_of_lt h

theorem toNat_shiftLeft_small {w s : UInt64} (hs : s.toNat < 64)
    (hw : w.toNat * 2 ^ s.toNat < 2 ^ 64) : (w <<< s).toNat = w.toNat * 2 ^ s.toNat := by
  rw [UInt64.toNat_shiftLeft, Nat.mod_eq_of_lt hs, Nat.shiftLeft_eq, Nat.mod_eq_of_lt hw]

theorem shiftLeft_shiftRight {w s : UInt64} (hs : s.toNat < 64)
    (hw : w.toNat * 2 ^ s.toNat < 2 ^ 64) : (w <<< s) >>> s = w := by
  rw [← UInt64.toNat_inj, UInt64.toNat_shiftRight, Nat.mod_eq_of_lt hs,
    toNat_shiftLeft_small hs hw, Nat.shiftRight_eq_div_pow]
  exact Nat.mul_div_cancel _ (Nat.two_pow_pos _)

theorem shiftLeft_inj {a b s : UInt64} (hs : s.toNat < 64) (ha : a.toNat * 2 ^ s.toNat < 2 ^ 64)
    (hb : b.toNat * 2 ^ s.toNat < 2 ^ 64) (h : a <<< s = b <<< s) : a = b := by
  rw [← UInt64.toNat_inj, toNat_shiftLeft_small hs ha, toNat_shiftLeft_small hs hb] at h
  rw [← UInt64.toNat_inj]
  exact Nat.eq_of_mul_eq_mul_right (Nat.two_pow_pos _) h

end Parp.WordFields

/-!
# Little-endian numbers
-/
namespace Parp.LittleEndian

/-- The lowest `k` bytes of a number. -/
def encode : ℕ → ℕ → List UInt8
  | 0, _ => []
  | k + 1, n => UInt8.ofNat n :: encode k (n / 256)

def decode : List UInt8 → ℕ
  | [] => 0
  | b :: bytes => b.toNat + 256 * decode bytes

@[simp] theorem encode_length (k n : ℕ) : (encode k n).length = k := by
  induction k generalizing n with
  | zero => rfl
  | succ k ih => simp [encode, ih]

theorem decode_encode {k n : ℕ} (h : n < 256 ^ k) : decode (encode k n) = n := by
  induction k generalizing n with
  | zero =>
    change 0 = n
    rw [pow_zero] at h
    omega
  | succ k ih =>
    have hquotient : n / 256 < 256 ^ k := by
      rw [pow_succ] at h
      omega
    have hbyte : (UInt8.ofNat n).toNat = n % 256 := UInt8.toNat_ofNat'
    change (UInt8.ofNat n).toNat + 256 * decode (encode k (n / 256)) = n
    rw [ih hquotient, hbyte]
    exact Nat.mod_add_div n 256

end Parp.LittleEndian
