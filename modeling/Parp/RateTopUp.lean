import Parp.DonorBudget

set_option autoImplicit false

/-!
# The rate top-up

How much one job asks for before a hinted peak, and how much all jobs of the hint ask for together.
-/
namespace Parp.RateTopUp

open Memshift DonorBudget

section

structure Options where
  hintReserve : Bytes := 512 * MiB
  tmoMinStep : Bytes := 2 * MiB

variable (o : Options)

/-- `page ? w - w % page : w` -/
def pageFloor (page w : Bytes) : Bytes := if page = 0 then w else w - w % page

def rateNeedHint (remaining free : Bytes) : Bytes := sub (add remaining o.hintReserve) free

def rateWant (need : Bytes) (left elapsedSec : Float) (page : Bytes) : Bytes :=
  if need = 0 ∨ ¬ 0 < left then 0
  else
    let w := smaller (amount (need.toFloat / left * elapsedSec)) need
    pageFloor page (larger w o.tmoMinStep)

/-- A tick in which a donor is found: the seconds left, those since the last job, the donor's room. -/
structure Tick where
  left : Float
  elapsedSec : Float
  room : Bytes

def topUp (page need : Bytes) (t : Tick) : Bytes :=
  let want := pageFloor page (smaller (rateWant o need t.left t.elapsedSec page) t.room)
  if want < o.tmoMinStep then 0 else want

/-- What the ticks of a hint ask for together, if the peak to come stays as it is and every job frees
what it asks for. -/
def asked (page remaining : Bytes) : Bytes → List Tick → ℕ
  | _, [] => 0
  | free, t :: ticks =>
    let want := topUp o page (rateNeedHint o remaining free) t
    want.toNat + asked page remaining (add free want) ticks

end

section

theorem pageFloor_le (page w : Bytes) : pageFloor page w ≤ w := by
  unfold pageFloor
  split_ifs with h
  · exact UInt64.le_refl _
  · exact (pages_le w page).1

theorem pageFloor_toNat {page : Bytes} (h : page ≠ 0) (w : Bytes) :
    (pageFloor page w).toNat = page.toNat * (w.toNat / page.toNat) := by
  have hle : w % page ≤ w := by
    rw [UInt64.le_iff_toNat_le, UInt64.toNat_mod]
    exact Nat.mod_le _ _
  unfold pageFloor
  rw [if_neg h, UInt64.toNat_sub_of_le _ _ hle, UInt64.toNat_mod]
  have hdiv := Nat.div_add_mod w.toNat page.toNat
  omega

theorem pageFloor_mono (page : Bytes) {w w' : Bytes} (h : w ≤ w') : pageFloor page w ≤ pageFloor page w' := by
  by_cases hpage : page = 0
  · simpa only [pageFloor, if_pos hpage] using h
  · rw [UInt64.le_iff_toNat_le] at h ⊢
    rw [pageFloor_toNat hpage, pageFloor_toNat hpage]
    exact Nat.mul_le_mul_left _ (Nat.div_le_div_right h)

variable (o : Options) (page need : Bytes) (left elapsedSec : Float)

structure RespectsNeed : Prop where
  most : rateWant o need left elapsedSec page ≤ larger need o.tmoMinStep
  least : need ≠ 0 → 0 < left →
    pageFloor page (smaller need o.tmoMinStep) ≤ rateWant o need left elapsedSec page
  stops : need = 0 ∨ ¬ 0 < left → rateWant o need left elapsedSec page = 0
  withinNeed : rateWant o need left elapsedSec page ≤ need ↔
    need = 0 ∨ ¬ 0 < left ∨ pageFloor page o.tmoMinStep ≤ need

theorem larger_le {a b c : Bytes} (ha : a ≤ c) (hb : b ≤ c) : larger a b ≤ c := by
  unfold larger
  split_ifs
  · exact hb
  · exact ha

theorem rateWant_respects : RespectsNeed o page need left elapsedSec := by
  have hstops : need = 0 ∨ ¬ 0 < left → rateWant o need left elapsedSec page = 0 := fun h => if_pos h
  have hzero : (0 : Bytes) ≤ need := by
    rw [UInt64.le_iff_toNat_le]
    exact Nat.zero_le _
  by_cases hidle : need = 0 ∨ ¬ 0 < left
  · refine ⟨?_, fun hneed hleft => ?_, hstops, ?_⟩
    · rw [hstops hidle]
      exact UInt64.le_trans hzero (le_larger _ _).1
    · exact absurd hidle (not_or.2 ⟨hneed, not_not.2 hleft⟩)
    · rw [hstops hidle]
      exact ⟨fun _ => hidle.imp id .inl, fun _ => hzero⟩
  · have hwant : rateWant o need left elapsedSec page =
        pageFloor page (larger (smaller (amount (need.toFloat / left * elapsedSec)) need) o.tmoMinStep) :=
      if_neg hidle
    have hshare : smaller (amount (need.toFloat / left * elapsedSec)) need ≤ need := (smaller_le _ _).2
    generalize smaller (amount (need.toFloat / left * elapsedSec)) need = share at hwant hshare
    obtain ⟨hneed, hleft⟩ := not_or.1 hidle
    obtain ⟨-, hstep⟩ := le_larger share o.tmoMinStep
    refine ⟨?_, fun _ _ => ?_, hstops, ?_⟩
    · rw [hwant]
      obtain ⟨hleast, hmin⟩ := le_larger need o.tmoMinStep
      exact UInt64.le_trans (pageFloor_le _ _) (larger_le (UInt64.le_trans hshare hleast) hmin)
    · rw [hwant]
      exact pageFloor_mono page (UInt64.le_trans (smaller_le _ _).2 hstep)
    · rw [hwant]
      constructor
      · exact fun hle => .inr (.inr (UInt64.le_trans (pageFloor_mono page hstep) hle))
      · rintro (hnone | hlate | hle)
        · exact absurd hnone hneed
        · exact absurd hlate hleft
        · unfold larger
          split_ifs
          · exact hle
          · exact UInt64.le_trans (pageFloor_le _ _) hshare

end

section

variable (o : Options) (page : Bytes)

theorem topUp_le (need : Bytes) (t : Tick) :
    (topUp o page need t).toNat ≤ max need.toNat o.tmoMinStep.toNat ∧
      (need = 0 → topUp o page need t = 0) := by
  have hle : topUp o page need t ≤ rateWant o need t.left t.elapsedSec page := by
    have hround := UInt64.le_trans (pageFloor_le page
      (smaller (rateWant o need t.left t.elapsedSec page) t.room)) (smaller_le _ _).1
    unfold topUp
    dsimp only
    split_ifs
    · rw [UInt64.le_iff_toNat_le]
      exact Nat.zero_le _
    · exact hround
  obtain ⟨hmost, -, hstops, -⟩ := rateWant_respects o page need t.left t.elapsedSec
  constructor
  · have hlarger : (larger need o.tmoMinStep).toNat ≤ max need.toNat o.tmoMinStep.toNat := by
      unfold larger
      split_ifs
      · exact Nat.le_max_right _ _
      · exact Nat.le_max_left _ _
    exact Nat.le_trans (UInt64.le_iff_toNat_le.1 (UInt64.le_trans hle hmost)) hlarger
  · intro hnone
    rw [hstops (.inl hnone), UInt64.le_iff_toNat_le] at hle
    exact UInt64.toNat_inj.1 (Nat.le_zero.1 hle)

theorem need_after (remaining free want : Bytes) :
    (rateNeedHint o remaining (add free want)).toNat =
      (rateNeedHint o remaining free).toNat - want.toNat := by
  have hpeak := (add remaining o.hintReserve).toNat_lt
  rw [rateNeedHint, rateNeedHint, sub_toNat, sub_toNat, add_toNat free]
  omega

theorem asked_le (remaining free : Bytes) (ticks : List Tick) :
    asked o page remaining free ticks ≤
      (rateNeedHint o remaining free).toNat + (o.tmoMinStep.toNat - 1) ∧
    ((rateNeedHint o remaining free).toNat = 0 → asked o page remaining free ticks = 0) := by
  induction ticks generalizing free with
  | nil => exact ⟨Nat.zero_le _, fun _ => rfl⟩
  | cons t ticks ih =>
    obtain ⟨hmost, hnone⟩ := topUp_le o page (rateNeedHint o remaining free) t
    obtain ⟨hrest, hdone⟩ := ih (add free (topUp o page (rateNeedHint o remaining free) t))
    rw [need_after] at hrest hdone
    have hidle : (rateNeedHint o remaining free).toNat = 0 →
        (topUp o page (rateNeedHint o remaining free) t).toNat = 0 := by
      intro hzero
      rw [hnone (UInt64.toNat_inj.1 hzero)]
      rfl
    unfold asked
    dsimp only
    -- a job that asks for more than the need is the last one
    generalize (topUp o page (rateNeedHint o remaining free) t).toNat = want at *
    generalize asked o page remaining _ ticks = rest at *
    constructor
    · omega
    · intro hzero
      rw [hidle hzero, hdone (by rw [hzero, Nat.zero_sub])]

/-- A job asks for at most the need or the smallest step, and all jobs of a hint for less than one
smallest step more than the need. -/
theorem rate_top_up_respects_need :
    (∀ (need : Bytes) (left elapsedSec : Float), RespectsNeed o page need left elapsedSec) ∧
      ∀ (remaining free : Bytes) (ticks : List Tick),
        asked o page remaining free ticks ≤
          (rateNeedHint o remaining free).toNat + (o.tmoMinStep.toNat - 1) :=
  ⟨rateWant_respects o page, fun remaining free ticks => (asked_le o page remaining free ticks).1⟩

/-- A need of one MiB asks for the smallest step of two. -/
theorem small_need_takes_a_step : ¬ ∀ (need page : Bytes) (left elapsedSec : Float),
    rateWant {} need left elapsedSec page ≤ need := by
  intro h
  have hle := h MiB 4096 15 0.25
  revert hle
  decide +kernel

end

end Parp.RateTopUp
