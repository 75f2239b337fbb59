import Mathlib.Data.UInt
import Parp.GreedyFill
import Parp.TmoPacing

set_option autoImplicit false

/-!
# The zswap quota plan

`planZswapQuotas` of `watermark.hpp`: which donors send how much anonymous memory to disk when
compressing all of it would not free enough. Doubles are read as rationals.
-/
namespace Parp.ZswapQuotas

open Parp.TmoPacing (Bytes Unlimited amount add pageFloor)
open GreedyFill

section

structure Options where
  floorRatio : ℚ := 1 / 5
  assumedCompressRatio : ℚ := 3

structure DonorView where
  name : String
  priority : ℤ := 0
  anon : UInt64 := 0
  file : UInt64 := 0
  deriving DecidableEq

/-- `half` a MiB. -/
def half : ℚ := 2 ^ 20 / 2

/-- The maps have no entry for a donor that keeps "max" and sends nothing to disk. -/
structure QuotaPlan where
  need : Bytes := 0
  zswapCapacity : Bytes := 0
  diskCapacity : Bytes := 0
  deficit : Bytes := 0
  diskAnon : Bytes := 0
  unplaced : Bytes := 0
  quota : String → Option Bytes := fun _ => none
  diskShare : String → Option Bytes := fun _ => none

variable (o : Options)

def keep : ℚ := 1 - o.floorRatio

def reclaimed (d : DonorView) : ℚ := keep o * d.anon.toNat

def capacities (donors : List DonorView) : ℚ × ℚ :=
  donors.foldl (fun (z, disk) d =>
    (z + (keep o * d.file.toNat + keep o * d.anon.toNat * (1 - 1 / o.assumedCompressRatio)),
      disk + (keep o * d.file.toNat + keep o * d.anon.toNat))) (0, 0)

def byExpendability (donors : List DonorView) : List DonorView :=
  donors.insertionSort fun a b => b.priority ≤ a.priority

def place (page : ℕ) : List DonorView → ℚ → QuotaPlan → ℚ × QuotaPlan
  | [], left, p => (left, p)
  | d :: rest, left, p =>
    if left < half then (left, p)
    else if reclaimed o d ≤ 0 then place page rest left p
    else
      let take := min (reclaimed o d) left
      let q := if reclaimed o d - half ≤ take then 0
        else amount ((reclaimed o d - take) / o.assumedCompressRatio)
      place page rest (left - take)
        { p with
          quota := Function.update p.quota d.name (some (pageFloor page q))
          diskShare := Function.update p.diskShare d.name (some (amount take))
          diskAnon := add p.diskAnon (amount take) }

def planZswapQuotas (donors : List DonorView) (need : UInt64) (page : ℕ) : QuotaPlan :=
  let z := (capacities o donors).1
  let p : QuotaPlan :=
    { need := need.toNat
      zswapCapacity := amount z
      diskCapacity := amount (capacities o donors).2 }
  if (need.toNat : ℚ) ≤ z then p
  else
    let placed := place o page (byExpendability donors) ((need.toNat - z) * o.assumedCompressRatio)
      { p with deficit := amount (need.toNat - z) }
    { placed.2 with unplaced := amount placed.1 }

end

section

variable (o : Options) (donors : List DonorView) (need : UInt64)

def deficit : ℚ := max 0 (need.toNat - (capacities o donors).1)

def shareOf (p : QuotaPlan) (d : DonorView) : ℚ := ((p.diskShare d.name).getD 0 : ℕ)

/-- What a plan frees: file pages, memory that goes to disk, and what compression saves of the rest. -/
def release (p : QuotaPlan) : ℚ :=
  (donors.map fun d => keep o * d.file.toNat + shareOf p d +
    (reclaimed o d - shareOf p d) * (1 - 1 / o.assumedCompressRatio)).sum

/-- A plan places the deficit: `used` are the exact shares, of which it reports whole bytes, and `left` is
what finds no place. -/
structure Places (p : QuotaPlan) (used : List (DonorView × ℚ)) (left : ℚ) : Prop where
  given : (used.map Prod.fst).Subperm donors
  share : ∀ u ∈ used, 0 < u.2 ∧ u.2 ≤ reclaimed o u.1 ∧ p.diskShare u.1.name = some (amount u.2)
  quota : ∀ name, (p.quota name).isSome ↔ ∃ u ∈ used, u.1.name = name
  onlyUsed : ∀ name, (p.diskShare name).isSome ↔ ∃ u ∈ used, u.1.name = name
  priorities : used.Pairwise fun u v => v.1.priority ≤ u.1.priority
  partially : ∀ u ∈ used.dropLast, u.2 = reclaimed o u.1
  expendableFirst : ∀ d ∈ donors, 0 < reclaimed o d → d ∉ used.map Prod.fst →
    (∀ u ∈ used, d.priority ≤ u.1.priority) ∧ left < half
  conserved : taken used + left = deficit o donors need * o.assumedCompressRatio
  nonneg : 0 ≤ left
  unplaced : p.unplaced = amount left
  reported : left < 2 ^ 64 →
    (donors.map (shareOf p)).sum + p.unplaced ≤ deficit o donors need * o.assumedCompressRatio ∧
      deficit o donors need * o.assumedCompressRatio <
        (donors.map (shareOf p)).sum + p.unplaced + (used.length + 1)
  reaches : (p.unplaced : ℚ) < half →
    (need.toNat : ℚ) < release o donors p + (half + used.length) / o.assumedCompressRatio

end

section

variable {o : Options} {page : ℕ}

def record (o : Options) (page : ℕ) (p : QuotaPlan) (u : DonorView × ℚ) : QuotaPlan :=
  { p with
    quota := Function.update p.quota u.1.name (some (pageFloor page
      (if reclaimed o u.1 - half ≤ u.2 then 0
        else amount ((reclaimed o u.1 - u.2) / o.assumedCompressRatio))))
    diskShare := Function.update p.diskShare u.1.name (some (amount u.2))
    diskAnon := add p.diskAnon (amount u.2) }

theorem place_eq (donors : List DonorView) (left : ℚ) (p : QuotaPlan) :
    place o page donors left p =
      (left - taken (fill (reclaimed o) half donors left),
        (fill (reclaimed o) half donors left).foldl (record o page) p) := by
  induction donors generalizing left p with
  | nil => simp [place, fill, taken]
  | cons d rest ih =>
    unfold place fill
    split_ifs with hlow hempty
    · simp [taken]
    · exact ih left p
    · rw [ih, taken_cons, List.foldl_cons, sub_sub]
      rfl

theorem record_entries (used : List (DonorView × ℚ)) (p : QuotaPlan)
    (hnames : (used.map fun u => u.1.name).Nodup) :
    (∀ u ∈ used, (used.foldl (record o page) p).diskShare u.1.name = some (amount u.2) ∧
      ((used.foldl (record o page) p).quota u.1.name).isSome) ∧
    ∀ name, (∀ u ∈ used, u.1.name ≠ name) →
      (used.foldl (record o page) p).diskShare name = p.diskShare name ∧
      (used.foldl (record o page) p).quota name = p.quota name := by
  induction used generalizing p with
  | nil => exact ⟨nofun, fun name _ => ⟨rfl, rfl⟩⟩
  | cons u used ih =>
    obtain ⟨hnew, hrest⟩ := List.nodup_cons.1 hnames
    obtain ⟨hused, hother⟩ := ih (record o page p u) hrest
    rw [List.foldl_cons]
    refine ⟨fun v hv => ?_, fun name hname => ?_⟩
    · rcases List.mem_cons.1 hv with rfl | hv
      · obtain ⟨hshare, hquota⟩ := hother v.1.name fun w hw heq =>
          hnew (List.mem_map.2 ⟨w, hw, heq⟩)
        rw [hshare, hquota]
        simp [record]
      · exact hused v hv
    · obtain ⟨hshare, hquota⟩ := hother name fun w hw => hname w (.tail _ hw)
      have hne : name ≠ u.1.name := (hname u (.head _)).symm
      rw [hshare, hquota]
      simp [record, Function.update_of_ne hne]

end

section

variable {o : Options}

theorem amount_floor {x : ℚ} (h : 0 ≤ x) (hx : x < 2 ^ 64) : (amount x : ℚ) ≤ x ∧ x < amount x + 1 := by
  unfold amount
  split_ifs with hzero
  · obtain rfl := le_antisymm hzero h
    norm_num
  · have hfloor : (⌊x⌋.toNat : ℤ) = ⌊x⌋ := Int.toNat_of_nonneg (Int.floor_nonneg.2 h)
    have hle : ⌊x⌋.toNat ≤ (Unlimited : ℕ) := by
      have hlt : ⌊x⌋ < 2 ^ 64 := Int.floor_lt.2 (by exact_mod_cast hx)
      change ⌊x⌋.toNat ≤ 2 ^ 64 - 1
      omega
    have hcast : ((⌊x⌋.toNat : ℕ) : ℚ) = ⌊x⌋ := by exact_mod_cast hfloor
    rw [min_eq_left hle, hcast]
    exact ⟨Int.floor_le x, Int.lt_floor_add_one x⟩

theorem half_of_amount {x : ℚ} (h : (amount x : ℚ) < half) : x < half := by
  by_contra hlarge
  have hx : half ≤ x := not_lt.1 hlarge
  have hpos : ¬ x ≤ 0 := not_le.2 (lt_of_lt_of_le (by norm_num [half]) hx)
  have hfloor : (2 ^ 19 : ℤ) ≤ ⌊x⌋ := Int.le_floor.2 (by norm_num [half] at hx ⊢; exact hx)
  have hamount : 2 ^ 19 ≤ amount x := by
    unfold amount
    rw [if_neg hpos]
    have hunlimited : (Unlimited : ℕ) = 2 ^ 64 - 1 := rfl
    have hwhole : 2 ^ 19 ≤ ⌊x⌋.toNat := by omega
    exact le_min hwhole (hunlimited ▸ by norm_num)
  have hcast : ((2 ^ 19 : ℕ) : ℚ) ≤ amount x := by exact_mod_cast hamount
  norm_num [half] at h hcast
  linarith

theorem reported_sum {used : List (DonorView × ℚ)} (h : ∀ u ∈ used, 0 < u.2 ∧ u.2 < 2 ^ 64) :
    (used.map fun u => (amount u.2 : ℚ)).sum ≤ taken used ∧
      taken used ≤ (used.map fun u => (amount u.2 : ℚ)).sum + used.length := by
  induction used with
  | nil => simp [taken]
  | cons u used ih =>
    obtain ⟨hlow, hhigh⟩ := ih fun v hv => h v (.tail _ hv)
    obtain ⟨hpos, hbound⟩ := h u (.head _)
    obtain ⟨hfloor, hnext⟩ := amount_floor hpos.le hbound
    rw [taken_cons, List.map_cons, List.sum_cons, List.length_cons]
    push_cast
    exact ⟨by linarith, by linarith⟩

theorem capacities_fst (donors : List DonorView) : (capacities o donors).1 =
    (donors.map fun d => keep o * d.file.toNat +
      keep o * d.anon.toNat * (1 - 1 / o.assumedCompressRatio)).sum := by
  have hfrom : ∀ start : ℚ × ℚ, (donors.foldl (fun (z, disk) d =>
      (z + (keep o * d.file.toNat + keep o * d.anon.toNat * (1 - 1 / o.assumedCompressRatio)),
        disk + (keep o * d.file.toNat + keep o * d.anon.toNat))) start).1 =
      start.1 + (donors.map fun d => keep o * d.file.toNat +
        keep o * d.anon.toNat * (1 - 1 / o.assumedCompressRatio)).sum := by
    induction donors with
    | nil => simp
    | cons d rest ih =>
      intro start
      rw [List.foldl_cons, ih, List.map_cons, List.sum_cons, ← add_assoc]
  rw [capacities, hfrom, zero_add]

theorem release_eq (donors : List DonorView) (p : QuotaPlan) :
    release o donors p =
      (capacities o donors).1 + (donors.map (shareOf p)).sum / o.assumedCompressRatio := by
  rw [capacities_fst, release]
  induction donors with
  | nil => simp
  | cons d rest ih =>
    simp only [List.map_cons, List.sum_cons]
    rw [ih, reclaimed]
    ring

end

section

variable {o : Options} (hfloor : 0 ≤ o.floorRatio) (hratio : 1 < o.assumedCompressRatio)

theorem byExpendability_perm (donors : List DonorView) : (byExpendability donors).Perm donors :=
  List.perm_insertionSort _ _

theorem byExpendability_order (donors : List DonorView) :
    (byExpendability donors).Pairwise fun a b => b.priority ≤ a.priority := by
  have : IsTrans DonorView fun a b => b.priority ≤ a.priority := ⟨fun a b c hab hbc => hbc.trans hab⟩
  have : Std.Total fun a b : DonorView => b.priority ≤ a.priority :=
    ⟨fun a b => le_total b.priority a.priority⟩
  exact List.pairwise_insertionSort _ _

include hfloor in
theorem reclaimed_lt (d : DonorView) : reclaimed o d < 2 ^ 64 := by
  have hanon : (d.anon.toNat : ℚ) < 2 ^ 64 := by exact_mod_cast d.anon.toNat_lt
  have hnonneg : (0 : ℚ) ≤ d.anon.toNat := Nat.cast_nonneg _
  calc
    reclaimed o d ≤ 1 * d.anon.toNat :=
      mul_le_mul_of_nonneg_right (sub_le_self 1 hfloor) hnonneg
    _ < 2 ^ 64 := by rw [one_mul]; exact hanon

theorem shares_sum {donors : List DonorView} (hnames : (donors.map DonorView.name).Nodup)
    {used : List (DonorView × ℚ)} (hused : (used.map Prod.fst).Sublist (byExpendability donors))
    {p : QuotaPlan} (hshare : ∀ u ∈ used, p.diskShare u.1.name = some (amount u.2))
    (hnone : ∀ name, (∀ u ∈ used, u.1.name ≠ name) → p.diskShare name = none) :
    (donors.map (shareOf p)).sum = (used.map fun u => (amount u.2 : ℚ)).sum := by
  have hperm := byExpendability_perm donors
  have hnodup : (byExpendability donors).Nodup := hperm.nodup_iff.2 hnames.of_map
  have hinj := List.inj_on_of_nodup_map hnames
  have hzero : ∀ d ∈ byExpendability donors, d ∉ used.map Prod.fst → shareOf p d = 0 := by
    intro d hd hout
    rw [shareOf, hnone d.name fun u hu heq => hout ?_]
    · rfl
    · rw [List.mem_map]
      exact ⟨u, hu, hinj (hperm.mem_iff.1 (hused.subset (List.mem_map_of_mem hu)))
        (hperm.mem_iff.1 hd) heq⟩
  calc
    (donors.map (shareOf p)).sum = ((byExpendability donors).map (shareOf p)).sum :=
      (hperm.map _).sum_eq.symm
    _ = ((used.map Prod.fst).map (shareOf p)).sum := sum_eq_of_sublist hused hnodup hzero
    _ = (used.map fun u => (amount u.2 : ℚ)).sum := by
      rw [List.map_map]
      refine congrArg List.sum (List.map_congr_left fun u hu => ?_)
      simp only [Function.comp_apply, shareOf, hshare u hu, Option.getD_some]

theorem plan_of_enough {donors : List DonorView} {need : UInt64} {page : ℕ}
    (h : (need.toNat : ℚ) ≤ (capacities o donors).1) :
    planZswapQuotas o donors need page =
      { need := need.toNat
        zswapCapacity := amount (capacities o donors).1
        diskCapacity := amount (capacities o donors).2 } := if_pos h

theorem plan_of_shortage {donors : List DonorView} {need : UInt64} (page : ℕ)
    (h : (capacities o donors).1 < need.toNat) :
    ∃ p : QuotaPlan, p.quota = (fun _ => none) ∧ p.diskShare = (fun _ => none) ∧
      ∀ used, used = fill (reclaimed o) half (byExpendability donors)
        (deficit o donors need * o.assumedCompressRatio) →
      planZswapQuotas o donors need page =
        { used.foldl (record o page) p with
          unplaced := amount (deficit o donors need * o.assumedCompressRatio - taken used) } := by
  have hdeficit : deficit o donors need = need.toNat - (capacities o donors).1 :=
    max_eq_right (sub_nonneg.2 h.le)
  refine ⟨⟨need.toNat, amount (capacities o donors).1, amount (capacities o donors).2,
    amount (need.toNat - (capacities o donors).1), 0, 0, fun _ => none, fun _ => none⟩, rfl, rfl, ?_⟩
  rintro used rfl
  rw [planZswapQuotas, if_neg (not_le.2 h), place_eq, hdeficit]

include hfloor hratio in
theorem places_of_shortage {donors : List DonorView} (hnames : (donors.map DonorView.name).Nodup)
    {need : UInt64} (h : (capacities o donors).1 < need.toNat) (page : ℕ) :
    ∃ used left, Places o donors need (planZswapQuotas o donors need page) used left := by
  obtain ⟨p, hquotaNone, hshareNone, hplan⟩ := plan_of_shortage page h
  have hpos : (0 : ℚ) < half := by norm_num [half]
  have hdeficit : deficit o donors need = need.toNat - (capacities o donors).1 :=
    max_eq_right (sub_nonneg.2 h.le)
  have hratioPos : 0 < o.assumedCompressRatio := one_pos.trans hratio
  have hL : 0 ≤ deficit o donors need * o.assumedCompressRatio :=
    mul_nonneg (le_max_left _ _) hratioPos.le
  generalize hfilled : fill (reclaimed o) half (byExpendability donors)
    (deficit o donors need * o.assumedCompressRatio) = used
  rw [hplan used hfilled.symm]
  have hsub : (used.map Prod.fst).Sublist (byExpendability donors) := hfilled ▸ fill_sublist _ _
  have htake : ∀ u ∈ used, 0 < u.2 ∧ u.2 ≤ reclaimed o u.1 := by
    subst hfilled
    exact fun u hu => fill_take hpos hu
  have hleft : 0 ≤ deficit o donors need * o.assumedCompressRatio - taken used :=
    sub_nonneg.2 (hfilled ▸ taken_le _ hL)
  have hnodup : (used.map fun u => u.1.name).Nodup := by
    have hall := ((byExpendability_perm donors).map DonorView.name).nodup_iff.2 hnames
    have hpart := (hsub.map DonorView.name).nodup hall
    rwa [List.map_map] at hpart
  obtain ⟨hentry, hother⟩ := @record_entries o page used p hnodup
  rw [hshareNone, hquotaNone] at hother
  generalize used.foldl (record o page) p = filled at hentry hother ⊢
  generalize hL' : deficit o donors need * o.assumedCompressRatio = L at *
  have hsum := shares_sum hnames hsub (p := { filled with unplaced := amount (L - taken used) })
    (fun u hu => (hentry u hu).1) fun name hname => (hother name hname).1
  obtain ⟨hlow, hhigh⟩ := reported_sum fun u hu =>
    ⟨(htake u hu).1, (htake u hu).2.trans_lt (reclaimed_lt hfloor u.1)⟩
  have hiff : ∀ name (entry : Option Bytes), (∀ u ∈ used, u.1.name = name → entry.isSome = true) →
      ((∀ u ∈ used, u.1.name ≠ name) → entry = none) →
      (entry.isSome ↔ ∃ u ∈ used, u.1.name = name) := by
    intro name entry hsome hnone
    constructor
    · intro h
      by_contra hout
      push Not at hout
      rw [hnone hout] at h
      cases h
    · rintro ⟨u, hu, heq⟩
      exact hsome u hu heq
  refine ⟨used, L - taken used, ⟨?_, fun u hu => ⟨(htake u hu).1, (htake u hu).2, (hentry u hu).1⟩,
    fun name => hiff name _ ?_ fun hname => (hother name hname).2,
    fun name => hiff name _ ?_ fun hname => (hother name hname).1, ?_, ?_, ?_, ?_, hleft, rfl, ?_, ?_⟩⟩
  · exact (hsub.subperm).trans (byExpendability_perm donors).subperm
  · rintro u hu rfl
    exact (hentry u hu).2
  · rintro u hu rfl
    rw [(hentry u hu).1]
    rfl
  · exact List.pairwise_map.1 ((byExpendability_order donors).sublist hsub)
  · exact hfilled ▸ fill_full hpos _ _
  · intro d hd hgives hout
    subst hfilled
    exact passed_over (byExpendability_order donors) ((byExpendability_perm donors).mem_iff.2 hd)
      hgives hout
  · rw [add_sub_cancel, hL']
  · intro hbound
    obtain ⟨hwhole, hnext⟩ := amount_floor hleft hbound
    rw [hL', hsum]
    exact ⟨by linarith, by linarith⟩
  · intro hlittle
    have hrest := half_of_amount hlittle
    rw [release_eq, hsum]
    have hshort : (need.toNat : ℚ) = (capacities o donors).1 + L / o.assumedCompressRatio := by
      rw [← hL', hdeficit]
      field_simp
      ring
    have hL : L < (used.map fun u => (amount u.2 : ℚ)).sum + (half + used.length) := by linarith
    calc
      (need.toNat : ℚ) = (capacities o donors).1 + L / o.assumedCompressRatio := hshort
      _ < (capacities o donors).1 + ((used.map fun u => (amount u.2 : ℚ)).sum +
          (half + used.length)) / o.assumedCompressRatio :=
        add_lt_add_right (div_lt_div_of_pos_right hL hratioPos) _
      _ = _ := by rw [add_div, add_assoc]

include hratio in
theorem places_of_enough {donors : List DonorView} {need : UInt64}
    (h : (need.toNat : ℚ) ≤ (capacities o donors).1) (page : ℕ) :
    Places o donors need (planZswapQuotas o donors need page) [] 0 := by
  have hdeficit : deficit o donors need = 0 := max_eq_left (sub_nonpos.2 h)
  have hpos : (0 : ℚ) < half := by norm_num [half]
  have hratioPos : 0 < o.assumedCompressRatio := one_pos.trans hratio
  have hshares : ∀ p : QuotaPlan, p.diskShare = (fun _ => none) → (donors.map (shareOf p)).sum = 0 := by
    intro p hp
    refine List.sum_eq_zero fun x hx => ?_
    obtain ⟨d, -, rfl⟩ := List.mem_map.1 hx
    rw [shareOf, hp]
    rfl
  rw [plan_of_enough h]
  refine ⟨List.nil_subperm, nofun, fun name => ⟨nofun, nofun⟩, fun name => ⟨nofun, nofun⟩, .nil, nofun,
    fun d _ _ _ => ⟨nofun, hpos⟩, ?_, le_rfl, rfl, fun _ => ?_, fun _ => ?_⟩
  · rw [hdeficit, zero_mul]
    simp [taken]
  · rw [hshares _ rfl, hdeficit]
    simp
  · rw [release_eq, hshares _ rfl, zero_div, add_zero]
    have hslack : 0 < (half + ((([] : List (DonorView × ℚ)).length : ℕ) : ℚ)) / o.assumedCompressRatio :=
      div_pos (by simpa using hpos) hratioPos
    linarith

include hfloor hratio in
/-- Every plan places the deficit, most expendable donors first, and reaches the need if nothing but
rounding is left. -/
theorem plan_conserves_deficit {donors : List DonorView}
    (hnames : (donors.map DonorView.name).Nodup) (need : UInt64) (page : ℕ) :
    ∃ used left, Places o donors need (planZswapQuotas o donors need page) used left := by
  rcases le_or_gt (need.toNat : ℚ) (capacities o donors).1 with henough | hshort
  · exact ⟨[], 0, places_of_enough hratio henough page⟩
  · exact places_of_shortage hfloor hratio hnames hshort page

end

def mib (n : UInt64) : UInt64 := n * 2 ^ 20

def donors : List DonorView :=
  [{ name := "wechat", priority := 900, anon := mib 360, file := mib 634 },
    { name := "vlc", priority := 990, anon := mib 232, file := mib 145 }]

theorem two_donors_place : ∃ used left,
    Places {} donors (mib 1000) (planZswapQuotas {} donors (mib 1000) 4096) used left :=
  plan_conserves_deficit (o := {}) (by decide +kernel) (by decide +kernel) (by decide) (mib 1000) 4096

/-- What is unplaced is cut off at the largest number. -/
theorem unplaced_is_cut_off : ¬ ∀ (donors : List DonorView) (need : UInt64) (page : ℕ),
    (donors.map DonorView.name).Nodup →
    deficit {} donors need * 3 <
      (donors.map (shareOf (planZswapQuotas {} donors need page))).sum +
        (planZswapQuotas {} donors need page).unplaced + (donors.length + 1) := by
  intro h
  have hall := h [] (2 ^ 64 - 1) 4096 .nil
  revert hall
  decide +kernel

end Parp.ZswapQuotas
