import Parp.ScanBudgetLaws

set_option autoImplicit false

/-!
# Scaling of the scan units

`parp_scale_scan_units` over the division that the architecture provides: `none` stands for a
division whose quotient does not fit.
-/
namespace Parp.ScanBudget

section

abbrev MulDiv := UInt64 → UInt32 → UInt32 → Option UInt64

/-- The division is exact wherever its quotient fits in 64 bits; elsewhere it may do anything. -/
def MulDiv.FloorWhenFits (mulDiv : MulDiv) : Prop :=
  ∀ a mul div, div ≠ 0 → a.toNat * mul.toNat / div.toNat < 2 ^ 64 →
    ∃ quotient, mulDiv a mul div = some quotient ∧
      quotient.toNat = a.toNat * mul.toNat / div.toNat

def scaleScanUnitsOver (mulDiv : MulDiv) (native : UInt64) (multiplier : UInt32) : Option UInt64 :=
  do
  let saturates ←
    if multiplier > parpQ15Scale then
      (mulDiv u64Max parpQ15Scale multiplier).map fun limit => decide (native > limit)
    else some false
  if saturates then return u64Max
  let scaled ← mulDiv native multiplier parpQ15Scale
  let remainder := ((native &&& (parpQ15Scale - 1).toUInt64) * multiplier.toUInt64) &&&
    (parpQ15Scale - 1).toUInt64
  let scaled :=
    if remainder ≥ (parpQ15Scale / 2).toUInt64 ∧ scaled ≠ u64Max then scaled + 1 else scaled
  return if multiplier > parpQ15Scale ∧ scaled < native then u64Max else scaled

/-- A division that traps where the quotient does not fit. -/
def checkedMulDiv : MulDiv := fun a mul div =>
  if div ≠ 0 ∧ a.toNat * mul.toNat / div.toNat < 2 ^ 64 then
    some (UInt64.ofNat (a.toNat * mul.toNat / div.toNat))
  else none

theorem checkedMulDiv_floor : checkedMulDiv.FloorWhenFits := by
  intro a mul div hdiv hfits
  refine ⟨_, if_pos ⟨hdiv, hfits⟩, ?_⟩
  rw [UInt64.toNat_ofNat']
  exact Nat.mod_eq_of_lt hfits

variable {mulDiv : MulDiv}

theorem MulDiv.FloorWhenFits.eq (h : mulDiv.FloorWhenFits) {a : UInt64} {mul div : UInt32}
    (hdiv : div ≠ 0) (hfits : a.toNat * mul.toNat / div.toNat < 2 ^ 64) :
    mulDiv a mul div = some (mulU64U32Div a mul div) := by
  obtain ⟨quotient, hquotient, hvalue⟩ := h a mul div hdiv hfits
  rw [hquotient, Option.some_inj, ← UInt64.toNat_inj, hvalue, mulU64U32Div_toNat,
    Nat.mod_eq_of_lt hfits]

theorem quotient_fits {native : UInt64} {multiplier : UInt32}
    (h : native.toNat * multiplier.toNat ≤ topProduct) :
    native.toNat * multiplier.toNat / parpQ15Scale.toNat < 2 ^ 64 := by
  change _ / 32768 < _
  unfold topProduct at h
  omega

theorem scaleScanUnitsOver_eq (h : mulDiv.FloorWhenFits) (native : UInt64) (multiplier : UInt32) :
    scaleScanUnitsOver mulDiv native multiplier = some (parpScaleScanUnits native multiplier) := by
  have hscale : parpQ15Scale ≠ 0 := by decide
  unfold scaleScanUnitsOver parpScaleScanUnits
  by_cases hlarge : multiplier > parpQ15Scale
  · have hmultiplier : 32768 < multiplier.toNat := UInt32.lt_iff_toNat_lt.1 hlarge
    have hlimit := @MulDiv.FloorWhenFits.eq mulDiv h u64Max parpQ15Scale multiplier
      (fun hzero => by rw [hzero] at hlarge; exact absurd hlarge (by decide))
      ((Nat.div_lt_iff_lt_mul (by omega)).2 (by change (2 ^ 64 - 1) * 32768 < _; omega))
    simp only [hlarge, if_true, hlimit, Option.map_some, Option.bind_eq_bind, Option.bind_some,
      true_and]
    by_cases hsaturates : native > mulU64U32Div u64Max parpQ15Scale multiplier
    · simp [hsaturates]
    · have hfits := quotient_fits ((product_le_iff hlarge).2 hsaturates)
      simp [hsaturates, h.eq hscale hfits]
  · have hfits := quotient_fits (@product_le multiplier native hlarge)
    simp [hlarge, h.eq hscale hfits]

theorem scaledUnits_mono₂ {native native' multiplier multiplier' : ℕ} (hnative : native ≤ native')
    (hmultiplier : multiplier ≤ multiplier') :
    scaledUnits native multiplier ≤ scaledUnits native' multiplier' := by
  have hproduct := Nat.mul_le_mul hnative hmultiplier
  unfold scaledUnits
  omega

end

/-- No quotient outgrows 64 bits, the units are the rounded product up to the largest number, and
more pages or a larger multiplier never make them fewer. -/
theorem scan_scaling_exact {mulDiv : MulDiv} (hexact : mulDiv.FloorWhenFits) :
    (∀ native multiplier, ∃ units, scaleScanUnitsOver mulDiv native multiplier = some units ∧
      units.toNat = min (2 ^ 64 - 1) ((native.toNat * multiplier.toNat + 16384) / 32768)) ∧
    ∀ native native' multiplier multiplier', native ≤ native' → multiplier ≤ multiplier' →
      ∃ units units', scaleScanUnitsOver mulDiv native multiplier = some units ∧
        scaleScanUnitsOver mulDiv native' multiplier' = some units' ∧ units ≤ units' := by
  refine ⟨fun native multiplier => ?_, fun native native' multiplier multiplier' hn hm => ?_⟩
  · exact ⟨_, scaleScanUnitsOver_eq hexact native multiplier, parpScaleScanUnits_toNat _ _⟩
  · refine ⟨_, _, scaleScanUnitsOver_eq hexact _ _, scaleScanUnitsOver_eq hexact _ _, ?_⟩
    rw [UInt64.le_iff_toNat_le, parpScaleScanUnits_toNat, parpScaleScanUnits_toNat]
    exact scaledUnits_mono₂ (UInt64.le_iff_toNat_le.1 hn) (UInt32.le_iff_toNat_le.1 hm)

theorem scan_scaling_checked : ∃ units,
    scaleScanUnitsOver checkedMulDiv u64Max 65536 = some units ∧
      units.toNat = min (2 ^ 64 - 1) ((u64Max.toNat * (65536 : UInt32).toNat + 16384) / 32768) :=
  (scan_scaling_exact checkedMulDiv_floor).1 u64Max 65536

end Parp.ScanBudget
