import Mathlib.Data.UInt

set_option autoImplicit false

/-!
# The random control arm

`parp_effective_tier_random_claim` over a scan: the control arm takes as many folios as the arm it
is compared with.
-/
namespace Parp.RandomClaim

def parpEffectiveTierRandomClaim (randomValue selected target seen eligible : UInt64) : Bool :=
  if selected ≥ target then false
  else if seen ≥ eligible then false
  else
    let remainingTarget := target - selected
    let remainingEligible := eligible - seen
    if remainingTarget ≥ remainingEligible then true
    else randomValue % remainingEligible < remainingTarget

/-- The running count after the items before `seen`. -/
def selectedBefore (target eligible : UInt64) (draws : ℕ → UInt64) : ℕ → UInt64
  | 0 => 0
  | seen + 1 =>
    let selected := selectedBefore target eligible draws seen
    if parpEffectiveTierRandomClaim (draws seen) selected target (UInt64.ofNat seen) eligible then
      selected + 1
    else selected

variable {randomValue selected target seen eligible : UInt64}

theorem randomClaim_lt
    (h : parpEffectiveTierRandomClaim randomValue selected target seen eligible = true) :
    selected.toNat < target.toNat := by
  unfold parpEffectiveTierRandomClaim at h
  split_ifs at h with hfull
  exact UInt64.lt_iff_toNat_lt.1 (UInt64.not_le.1 hfull)

theorem randomClaim_needed (hseen : seen.toNat < eligible.toNat)
    (hneeded : eligible.toNat - seen.toNat ≤ target.toNat - selected.toNat) :
    parpEffectiveTierRandomClaim randomValue selected target seen eligible = true := by
  have hfull : ¬ selected ≥ target := by
    rw [ge_iff_le, UInt64.le_iff_toNat_le]
    omega
  have hdone : ¬ seen ≥ eligible := by
    rw [ge_iff_le, UInt64.le_iff_toNat_le]
    omega
  have hall : target - selected ≥ eligible - seen := by
    rw [ge_iff_le, UInt64.le_iff_toNat_le, UInt64.toNat_sub_of_le, UInt64.toNat_sub_of_le]
    · exact hneeded
    · exact UInt64.le_of_lt (UInt64.not_le.1 hfull)
    · exact UInt64.le_of_lt (UInt64.not_le.1 hdone)
  unfold parpEffectiveTierRandomClaim
  rw [if_neg hfull, if_neg hdone]
  exact if_pos hall

variable {draws : ℕ → UInt64}

theorem selectedBefore_succ (n : ℕ) :
    (selectedBefore target eligible draws (n + 1)).toNat =
      (selectedBefore target eligible draws n).toNat +
        if parpEffectiveTierRandomClaim (draws n) (selectedBefore target eligible draws n) target
          (UInt64.ofNat n) eligible then 1 else 0 := by
  rw [selectedBefore]
  split_ifs with hclaim
  · have hroom := randomClaim_lt hclaim
    have hword := target.toNat_lt
    have hone : (1 : UInt64).toNat = 1 := rfl
    rw [UInt64.toNat_add, hone, Nat.mod_eq_of_lt (by omega)]
  · rfl

theorem selectedBefore_bounds (n : ℕ) (hn : n ≤ eligible.toNat) :
    (selectedBefore target eligible draws n).toNat ≤ min target.toNat n ∧
      min target.toNat eligible.toNat ≤
        (selectedBefore target eligible draws n).toNat + (eligible.toNat - n) := by
  induction n with
  | zero =>
    have hzero : (selectedBefore target eligible draws 0).toNat = 0 := rfl
    omega
  | succ n ih =>
    obtain ⟨hupper, hlower⟩ := ih (by omega)
    have hword := eligible.toNat_lt
    have hseen : (UInt64.ofNat n).toNat = n := UInt64.toNat_ofNat_of_lt' (by
      change n < 2 ^ 64
      omega)
    rw [selectedBefore_succ]
    split_ifs with hclaim
    · have hroom := randomClaim_lt hclaim
      omega
    · have hspare : ¬ eligible.toNat - n ≤
          target.toNat - (selectedBefore target eligible draws n).toNat := by
        intro hneeded
        refine hclaim (randomClaim_needed ?_ ?_)
        · omega
        · rw [hseen]
          exact hneeded
      omega

/-- The scan takes `min target eligible` items, at no point more than the target, and takes every
item as soon as all that remain are needed. -/
theorem random_claim_exact (target eligible : UInt64) (draws : ℕ → UInt64) :
    (selectedBefore target eligible draws eligible.toNat).toNat =
        min target.toNat eligible.toNat ∧
      (∀ n ≤ eligible.toNat, (selectedBefore target eligible draws n).toNat ≤ target.toNat) ∧
      ∀ n < eligible.toNat,
        eligible.toNat - n ≤ target.toNat - (selectedBefore target eligible draws n).toNat →
        parpEffectiveTierRandomClaim (draws n) (selectedBefore target eligible draws n) target
          (UInt64.ofNat n) eligible = true := by
  refine ⟨?_, fun n hn => ?_, fun n hn hneeded => ?_⟩
  · have hbounds := @selectedBefore_bounds target eligible draws eligible.toNat le_rfl
    omega
  · exact (selectedBefore_bounds n hn).1.trans (min_le_left _ _)
  · have hword := eligible.toNat_lt
    have hseen : (UInt64.ofNat n).toNat = n := UInt64.toNat_ofNat_of_lt' (by
      change n < 2 ^ 64
      omega)
    refine randomClaim_needed ?_ ?_
    · omega
    · rw [hseen]
      exact hneeded

end Parp.RandomClaim
