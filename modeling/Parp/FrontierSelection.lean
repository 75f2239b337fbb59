import Parp.FrontierReference

set_option autoImplicit false

/-!
# Where the selection ends

`parp_frontier_select` finds the first of the capacities up to which their effective pages reach the
demand.
-/
namespace Parp.FrontierReference

open FrontierScore RunningSums

variable (etaQ15 : UInt32)

/-- The effective pages of the capacities up to an index, without a bound. -/
def cumulativePages (capacities : List UInt64) (index : ℕ) : ℕ :=
  ((capacities.take (index + 1)).map (kernelPages etaQ15)).sum

/-- The index is the first that reaches the demand, and the headroom what is left there. -/
structure Least (capacities : List UInt64) (demand : UInt64) (index headroom : ℕ) : Prop where
  within : index < capacities.length
  reaches : demand.toNat + headroom = cumulativePages etaQ15 capacities index
  earlier : ∀ j < index, cumulativePages etaQ15 capacities j < demand.toNat

structure Selects (capacities : List UInt64) (demand : UInt64) (found : Option (ℕ × UInt64)) :
    Prop where
  least : ∀ index headroom, found = some (index, headroom) ↔
    Least etaQ15 capacities demand index headroom.toNat
  fails : found = none ↔
    ∀ index < capacities.length, cumulativePages etaQ15 capacities index < demand.toNat

variable {etaQ15}

theorem select_covers (hpos : etaQ15 ≠ 0) (heta : etaQ15 ≤ q15One) {demand : UInt64}
    (hdemand : demand ≠ 0) (capacities : List UInt64) :
    ∃ found, select capacities demand etaQ15 = some found ∧
      found.map (fun f => (f.1, f.2.toNat)) =
        covers demand.toNat (capacities.map (kernelPages etaQ15)) := by
  have hdemand' : (0 : UInt64).toNat < demand.toNat :=
    Nat.pos_of_ne_zero fun h => hdemand (UInt64.toNat_inj.1 h)
  have hloop := selectFrom_covers heta capacities 0 0 hdemand'
  rw [select_bounded heta hpos _ hdemand]
  cases hfound : selectFrom demand etaQ15 0 0 capacities with
  | none =>
    rw [hfound] at hloop
    cases hloop
  | some found =>
    rw [hfound] at hloop
    refine ⟨found, rfl, ?_⟩
    simpa using hloop

theorem selects_of_covers {capacities : List UInt64} {demand : UInt64} {found : Option (ℕ × UInt64)}
    (hdemand : demand ≠ 0) (h : found.map (fun f => (f.1, f.2.toNat)) =
      covers demand.toNat (capacities.map (kernelPages etaQ15))) :
    Selects etaQ15 capacities demand found := by
  have hpos : 0 < demand.toNat := Nat.pos_of_ne_zero fun h => hdemand (UInt64.toNat_inj.1 h)
  have hpages (index : ℕ) : cumulativePages etaQ15 capacities index =
      ((capacities.map (kernelPages etaQ15)).take (index + 1)).sum := by
    unfold cumulativePages
    rw [List.map_take]
  constructor
  · intro index headroom
    have hfound : found = some (index, headroom) ↔
        covers demand.toNat (capacities.map (kernelPages etaQ15)) =
          some (index, headroom.toNat) := by
      rw [← h]
      cases found with
      | none => simp
      | some f => simp [Prod.ext_iff, UInt64.toNat_inj]
    rw [hfound, covers_eq_some_iff hpos]
    constructor
    · rintro ⟨hlt, hsum, hearlier⟩
      exact ⟨by simpa using hlt, by rw [hpages]; exact hsum, fun j hj => by
        rw [hpages]; exact hearlier j hj⟩
    · rintro ⟨hlt, hsum, hearlier⟩
      exact ⟨by simpa using hlt, by rw [← hpages]; exact hsum, fun j hj => by
        rw [← hpages]; exact hearlier j hj⟩
  · have hnone : found = none ↔
        covers demand.toNat (capacities.map (kernelPages etaQ15)) = none := by
      rw [← h, Option.map_eq_none_iff]
    rw [hnone, covers_eq_none_iff hpos, List.length_map]
    simp only [hpages]

/-- A demand of 0 is refused; any other is met at the first index that reaches it, if one does. -/
theorem frontier_select_least (hpos : etaQ15 ≠ 0) (heta : etaQ15 ≤ q15One)
    (capacities : List UInt64) (demand : UInt64) :
    ∃ found, select capacities demand etaQ15 = some found ∧ (demand = 0 → found = none) ∧
      (demand ≠ 0 → Selects etaQ15 capacities demand found) := by
  by_cases hdemand : demand = 0
  · refine ⟨none, ?_, fun _ => rfl, fun h => absurd hdemand h⟩
    unfold select
    rw [if_pos (.inl hdemand)]
  · obtain ⟨found, hselect, hcovers⟩ := select_covers hpos heta hdemand capacities
    exact ⟨found, hselect, fun h => absurd h hdemand, fun _ => selects_of_covers hdemand hcovers⟩

theorem frontier_select_half : ∃ found, select [3, 5, 7] 4 16384 = some found ∧
    ((4 : UInt64) = 0 → found = none) ∧ ((4 : UInt64) ≠ 0 → Selects 16384 [3, 5, 7] 4 found) :=
  frontier_select_least (by decide) (by decide) [3, 5, 7] 4

/-- The first capacity reaches a demand of 0, and the selection fails. -/
theorem no_demand_fails : ¬ ∀ (etaQ15 : UInt32), etaQ15 ≠ 0 → etaQ15 ≤ q15One →
    ∀ (capacities : List UInt64) (demand : UInt64), ∃ found,
      select capacities demand etaQ15 = some found ∧ Selects etaQ15 capacities demand found := by
  intro h
  obtain ⟨found, hselect, hfound⟩ := h 1 (by decide) (by decide) [5] 0
  have hnone : found = none := Option.some.inj (hselect.symm.trans (by decide))
  exact absurd (hfound.fails.1 hnone 0 (by decide)) (by decide)

section

variable (lrugen : Lrugen) (reclaimIdx : ℕ)

/-- The pages of the generations from the oldest on that may be the frontier. -/
def generationPages : List UInt64 :=
  (List.range ((lrugen.maxSeq - 2).toNat + 1 - lrugen.minSeq.toNat)).map fun i =>
    (capacity lrugen reclaimIdx ((lrugen.minSeq.toNat + i) % 4)).getD 0

theorem generationPages_eq :
    (List.range ((lrugen.maxSeq - 2).toNat + 1 - lrugen.minSeq.toNat)).mapM (fun i : ℕ =>
      capacity lrugen reclaimIdx ((lrugen.minSeq.toNat + i) % 4)) =
        some (generationPages lrugen reclaimIdx) := by
  unfold generationPages
  generalize List.range _ = generations
  induction generations with
  | nil => rfl
  | cons i generations ih =>
    obtain ⟨pages, hpages⟩ := Option.isSome_iff_exists.1
      (capacity_isSome lrugen reclaimIdx ((lrugen.minSeq.toNat + i) % 4))
    rw [List.mapM_cons, ih, List.map_cons, hpages]
    rfl

/-- The oldest generation up to which the pages that should be reclaimed meet the demand. -/
structure Frontier (etaQ15 : UInt32) (demand frontierSeq headroom : UInt64) : Prop where
  old : frontierSeq.toNat ≤ (lrugen.maxSeq - 2).toNat
  least : ∃ index, frontierSeq.toNat = lrugen.minSeq.toNat + index ∧
    Least etaQ15 (generationPages lrugen reclaimIdx) demand index headroom.toNat

variable {lrugen reclaimIdx}

theorem chooseFrontier_spec {demand : UInt64} {etaQ15 : UInt32}
    {chosen : Option (UInt64 × UInt64)} (hdemand : demand ≠ 0)
    (h : chooseFrontier lrugen reclaimIdx demand etaQ15 = some chosen) :
    (∀ frontierSeq headroom, chosen = some (frontierSeq, headroom) →
      Frontier lrugen reclaimIdx etaQ15 demand frontierSeq headroom) ∧
    (chosen = none → etaQ15 = 0 ∨ q15One < etaQ15 ∨
      ∀ index < (generationPages lrugen reclaimIdx).length,
        cumulativePages etaQ15 (generationPages lrugen reclaimIdx) index < demand.toNat) := by
  unfold chooseFrontier at h
  dsimp only at h
  rw [generationPages_eq, Option.bind_eq_bind, Option.bind_some] at h
  by_cases heta : etaQ15 = 0 ∨ q15One < etaQ15
  · have hnone : select (generationPages lrugen reclaimIdx) demand etaQ15 = some none :=
      if_pos (.inr heta)
    rw [hnone] at h
    obtain rfl := Option.some.inj h
    exact ⟨nofun, fun _ => heta.imp_right .inl⟩
  · obtain ⟨hpos, hle⟩ := not_or.1 heta
    obtain ⟨found, hselect, hcovers⟩ := select_covers hpos (UInt32.not_lt.1 hle) hdemand
      (generationPages lrugen reclaimIdx)
    have hfound := selects_of_covers hdemand hcovers
    rw [hselect] at h
    obtain rfl := Option.some.inj h
    refine ⟨fun frontierSeq headroom hchosen => ?_, fun hnone => .inr (.inr (hfound.fails.1 ?_))⟩
    · obtain ⟨⟨index, headroom⟩, hsome, hpair⟩ := Option.map_eq_some_iff.1 hchosen
      obtain ⟨rfl, rfl⟩ := Prod.mk.inj hpair
      have hleast := (hfound.least index headroom).1 hsome
      have hwithin := hleast.within
      have hbound := (lrugen.maxSeq - 2).toNat_lt
      rw [generationPages, List.length_map, List.length_range] at hwithin
      have hseq : (lrugen.minSeq + UInt64.ofNat index).toNat = lrugen.minSeq.toNat + index := by
        rw [UInt64.toNat_add, UInt64.toNat_ofNat']
        omega
      exact ⟨hseq.trans_le (by omega), index, hseq, hleast⟩
    · exact Option.map_eq_none_iff.1 hnone

structure PreparedFrontier (state : FrontierState) (input : PrepareInput) (ctx : ScanCtx)
    (state' : FrontierState) : Prop where
  admitted : ctx.valid = true → Frontier input.lrugen input.reclaimIdx state.efficiencyQ15
    input.remainingDemand ctx.frontierSeq ctx.frontierHeadroom
  stored : ctx.valid = true →
    state'.frontierSeq = ctx.frontierSeq ∧ state'.frontierHeadroom = ctx.frontierHeadroom
  refused : ctx.reason = .noCapacity → state' = state ∧ (state.efficiencyQ15 = 0 ∨
    q15One < state.efficiencyQ15 ∨
      ∀ index < (generationPages input.lrugen input.reclaimIdx).length,
        cumulativePages state.efficiencyQ15 (generationPages input.lrugen input.reclaimIdx) index <
          input.remainingDemand.toNat)

/-- A scan is admitted with the least frontier, or no generation would meet the demand. -/
theorem prepare_frontier {state state' : FrontierState} {input : PrepareInput} {ctx : ScanCtx}
    (h : prepare state input = some (ctx, state')) : PreparedFrontier state input ctx state' := by
  have hbypass {ctx' : ScanCtx} (h : some (ctx', state) = some (ctx, state'))
      (hvalid : ctx'.valid = false) (hreason : ctx'.reason ≠ .noCapacity) :
      PreparedFrontier state input ctx state' := by
    obtain ⟨rfl, rfl⟩ := Prod.mk.inj (Option.some.inj h)
    have hrefused : ctx'.valid ≠ true := fun htrue => Bool.false_ne_true (hvalid.symm.trans htrue)
    exact ⟨fun h => absurd h hrefused, fun h => absurd h hrefused, fun h => absurd h hreason⟩
  unfold prepare at h
  dsimp only at h
  by_cases hmemcg : input.targetMemcg = false
  · rw [if_pos hmemcg] at h
    exact hbypass h rfl nofun
  rw [if_neg hmemcg] at h
  by_cases hpriority : input.reclaimPriority ≤ pressurePriority
  · rw [if_pos hpriority] at h
    exact hbypass h rfl nofun
  rw [if_neg hpriority] at h
  by_cases hdemand : input.remainingDemand = 0
  · rw [if_pos hdemand] at h
    exact hbypass h rfl nofun
  rw [if_neg hdemand] at h
  cases happ : if input.domainId = 0 then none else input.app with
  | none =>
    rw [happ] at h
    exact hbypass h rfl nofun
  | some app =>
    rw [happ] at h
    dsimp only at h
    by_cases hsamples : state.efficiencySamples = 0
    · rw [if_pos hsamples] at h
      exact hbypass h rfl nofun
    rw [if_neg hsamples] at h
    cases hmodel : validModel app.appId with
    | none =>
      rw [hmodel] at h
      exact hbypass h rfl nofun
    | some model =>
      rw [hmodel] at h
      obtain ⟨chosen, hchosen⟩ := Option.isSome_iff_exists.1
        (chooseFrontier_isSome input.lrugen input.reclaimIdx input.remainingDemand
          state.efficiencyQ15)
      have hspec := chooseFrontier_spec hdemand hchosen
      dsimp only at h
      rw [hchosen, Option.bind_eq_bind, Option.bind_some] at h
      cases chosen with
      | none =>
        obtain ⟨rfl, rfl⟩ := Prod.mk.inj (Option.some.inj h)
        exact ⟨nofun, nofun, fun _ => ⟨rfl, hspec.2 rfl⟩⟩
      | some frontier =>
        obtain ⟨rfl, rfl⟩ := Prod.mk.inj (Option.some.inj h)
        exact ⟨fun _ => hspec.1 _ _ rfl, fun _ => ⟨rfl, rfl⟩, nofun⟩

def halfScan : PrepareInput :=
  { now := 5
    targetMemcg := true
    reclaimPriority := 12
    reclaimIdx := 1
    remainingDemand := 40
    domainId := 7
    app := some ⟨1, 2, 9000⟩
    lrugen := ⟨8, 3, fun _ zone => if zone = 0 then 30 else -4⟩ }

theorem prepare_frontier_half : ∃ ctx state',
    prepare { efficiencyQ15 := 16384, efficiencySamples := 1 } halfScan = some (ctx, state') ∧
      (ctx.valid = true ∧ ctx.frontierSeq = 5) ∧
      PreparedFrontier { efficiencyQ15 := 16384, efficiencySamples := 1 } halfScan ctx state' :=
  ⟨_, _, rfl, by decide, prepare_frontier rfl⟩

end

end Parp.FrontierReference
