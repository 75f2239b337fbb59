import Parp.SortFolioRuns

set_option autoImplicit false

namespace Parp.SortFolio

open EffectiveTier EffectiveTierScan AtomicPrograms List

/-- A step that changes no flags but the folio's generation, and no count of protected pages. -/
def PolicyStep (input : SortInput) (step : LruvecSlice × LruvecSlice) : Prop :=
  (∃ gen, step.2.flags = Function.update step.1.flags input.folio
      { step.1.flags input.folio with gen := gen }) ∧
    step.2.protectedPages = step.1.protectedPages

/-- What `finish` makes of a reservation whose decision lost its race: it is not committed, and once
the folio's claim has been released both counters are what they were before the decision. -/
def Released (input : SortInput) (outcome : SortOutcome) : Prop :=
  ∀ view runEpoch,
    let reserved := outcome.reserved
    let closed := parpEffectiveTierFinish reserved.ctx reserved.state reserved.decision view
      runEpoch outcome.sorted.result
    reservationCommitted reserved.decision outcome.sorted.result = false ∧
      (reserved.decision.reservationActive = true →
        (parpEffectiveTierReleaseEpoch view reserved.decision.reservationUpgrade
          reserved.ctx.epochTag runEpoch).2 = true →
        ∀ upgrade, closed.ctx.used upgrade = input.ctx.used upgrade ∧
          closed.state.used upgrade = input.state.used upgrade)

/-- What the steps of a sort did, the memory it left and the outcome it returned. -/
structure SortLaw (input : SortInput) (tries : ℕ) (own : List (LruvecSlice × LruvecSlice))
    (outcome : SortOutcome) (left : LruvecSlice) : Prop where
  settled : Settled input outcome.sorted left
  policy : outcome.policyUpgrade = true → ∀ step ∈ own, PolicyStep input step
  lostUpgrade : ∀ reread, outcome.lost = some (.upgrade reread) →
    ∃ earlier found rest, own = earlier ++ (found, found.seen input) :: rest ∧
      found.flags input.folio = reread ∧
      Prog.Runs (others input) (racedSort input tries reread) (found.seen input) rest left
        (some outcome.sorted)
  lostDowngrade : ∀ reread, outcome.lost = some (.downgrade reread) →
    ∃ first found rest, own = (first, first.seen input) :: (found, found.seen input) :: rest ∧
      Prog.Runs (others input)
        (protectFolio input tries (first.flags input.folio).tier (first.flags input.folio).special)
        (found.seen input) rest left (some outcome.sorted)
  notPredictive : ∀ race, outcome.lost = some race →
    outcome.reserved.decision.action ≠ .predictiveUpgrade ∧
      outcome.reserved.decision.action ≠ .predictiveDowngrade
  released : ∀ race, outcome.lost = some race → Released input outcome

section

open EffectiveTierBudget

variable {input : SortInput} {flags : FolioFlags}

theorem parpDecide_charged (hactive : (parpDecide input flags).decision.reservationActive = true) :
    Charged input.ctx input.state (UInt64.ofNat (input.pages input.folio))
        (parpDecide input flags) ∧
      (parpDecide input flags).decision.folioNrPages =
        UInt64.ofNat (input.pages input.folio) := by
  unfold parpDecide at hactive ⊢
  split at hactive
  · rename_i henabled
    rw [if_pos henabled]
    exact ⟨decide_charged input.ctx input.state (decideInputFor input flags), rfl⟩
  · cases hactive

theorem racedDecision_action (reserved : Reserved) :
    (racedDecision input reserved flags).action ≠ .predictiveUpgrade ∧
      (racedDecision input reserved flags).action ≠ .predictiveDowngrade := by
  unfold racedDecision parpTierNativeFallback
  dsimp only
  split_ifs <;> exact ⟨nofun, nofun⟩

theorem released_of_action {decision : ParpTierDecision} {outcome : SortOutcome}
    (hreserved : outcome.reserved = Reserved.withDecision (parpDecide input flags) decision)
    (hsame : decision.reservationActive = (parpDecide input flags).decision.reservationActive ∧
      decision.reservationUpgrade = (parpDecide input flags).decision.reservationUpgrade ∧
      decision.folioNrPages = (parpDecide input flags).decision.folioNrPages)
    (haction : decision.action ≠ .predictiveUpgrade ∧ decision.action ≠ .predictiveDowngrade) :
    Released input outcome := by
  intro view runEpoch
  rw [hreserved]
  have hopen : reservationCommitted decision outcome.sorted.result = false := by
    simp [reservationCommitted, haction.1, haction.2]
  refine ⟨hopen, fun hactive hreleased upgrade => ?_⟩
  obtain ⟨hcharged, hpages⟩ := parpDecide_charged (hsame.1.symm.trans hactive)
  let close : CloseInput :=
    { view := view, runEpoch := runEpoch, sortResult := outcome.sorted.result }
  have hholds : decision.folioNrPages.toNat ≤
        ((parpDecide input flags).ctx.used decision.reservationUpgrade).toNat ∧
      decision.folioNrPages.toNat ≤
        ((parpDecide input flags).state.used decision.reservationUpgrade).toNat := by
    rw [hsame.2.1, hsame.2.2, hpages]
    cases hcharged with
    | nothing hnone _ =>
      rw [← hsame.1] at hnone
      exact absurd (hactive.symm.trans hnone) nofun
    | reservation _ hctx hstate hscan hepoch =>
      rw [hctx, hstate, ctx_setUsed_used, state_setUsed_used, if_pos rfl, if_pos rfl, hscan, hepoch]
      exact ⟨Nat.le_add_left _ _, Nat.le_add_left _ _⟩
  have hsettled := finish_settled close (fun _ => hholds.1) (fun _ => hholds.2)
  have hstatus : cancelStatus (parpDecide input flags).ctx decision close = none :=
    if_pos hreleased
  rw [if_neg (Bool.eq_false_iff.1 hopen), hstatus] at hsettled
  exact refund_restores hcharged hpages hsame hsettled (hsame.1.symm.trans hactive) upgrade

end

section

variable {input : SortInput} {tries : ℕ} {slice : LruvecSlice} {flags : FolioFlags}

/-- The law of the whole sort, from a point on that it reached with the steps `earlier`. -/
def LawFrom (input : SortInput) (tries : ℕ) (earlier rest : List (LruvecSlice × LruvecSlice))
    (value : Option SortOutcome) (left : LruvecSlice) : Prop :=
  ∀ outcome, value = some outcome → SortLaw input tries (earlier ++ rest) outcome left

theorem lawFrom_cons (earlier : List (LruvecSlice × LruvecSlice))
    (step : LruvecSlice × LruvecSlice) :
    (fun rest => LawFrom input tries earlier (step :: rest)) =
      LawFrom input tries (earlier ++ [step]) := by
  funext rest
  unfold LawFrom
  rw [append_assoc]
  rfl

theorem ensures_finish (earlier : List (LruvecSlice × LruvecSlice)) (reserved : Reserved)
    {prog : Prog LruvecSlice (Option Sorted)} (hsettles : Settles input prog slice) :
    (finishWith (fun sorted => { sorted := sorted, reserved := reserved }) prog).Ensures
      (others input) (LawFrom input tries earlier) slice := by
  refine (Prog.ensures_map _).2 (hsettles.mono fun rest value left hsettled outcome hsome => ?_)
  obtain ⟨sorted, rfl, rfl⟩ := Option.map_eq_some_iff.1 hsome
  exact ⟨hsettled sorted rfl, nofun, nofun, nofun, nofun, nofun⟩

structure Dropped (input : SortInput) (flags : FolioFlags) (decision : ParpTierDecision) :
    Prop where
  same : decision.reservationActive = (parpDecide input flags).decision.reservationActive ∧
    decision.reservationUpgrade = (parpDecide input flags).decision.reservationUpgrade ∧
    decision.folioNrPages = (parpDecide input flags).decision.folioNrPages
  action : decision.action ≠ .predictiveUpgrade ∧ decision.action ≠ .predictiveDowngrade

theorem racedDecision_dropped (current : FolioFlags) :
    Dropped input flags (racedDecision input (parpDecide input flags) current) :=
  ⟨⟨rfl, rfl, rfl⟩, racedDecision_action _⟩

theorem ensures_lostUpgrade (earlier : List (LruvecSlice × LruvecSlice)) (found : LruvecSlice)
    {decision : ParpTierDecision} (hdropped : Dropped input flags decision)
    (hfound : Holding input (found.flags input.folio).gen (fun _ => 0) (found.seen input))
    (hgen : (found.flags input.folio).gen.isSome = true) :
    (finishWith
      (fun sorted =>
        { sorted := sorted
          reserved := Reserved.withDecision (parpDecide input flags) decision
          lost := some (.upgrade (found.flags input.folio)) })
      (racedSort input tries (found.flags input.folio))).Ensures (others input)
      (fun rest => LawFrom input tries earlier ((found, found.seen input) :: rest))
      (found.seen input) := by
  have hruns := (racedSort_settles tries hfound hgen).and (Prog.ensures_runs _ _)
  refine (Prog.ensures_map _).2 (hruns.mono fun rest value left hboth outcome hsome => ?_)
  obtain ⟨hsettled, hrun⟩ := hboth
  obtain ⟨sorted, rfl, rfl⟩ := Option.map_eq_some_iff.1 hsome
  refine ⟨hsettled sorted rfl, nofun, fun reread hrace => ?_, nofun, fun _ _ => hdropped.action,
    fun _ _ => released_of_action rfl hdropped.same hdropped.action⟩
  obtain rfl := LostRace.upgrade.inj (Option.some.inj hrace)
  exact ⟨earlier, found, rest, rfl, rfl, hrun⟩

theorem ensures_lostDowngrade (first found : LruvecSlice) {decision : ParpTierDecision}
    (hdropped : Dropped input flags decision) (reread : FolioFlags)
    (hsettles : Settles input
      (protectFolio input tries (first.flags input.folio).tier (first.flags input.folio).special)
      (found.seen input)) :
    (finishWith
      (fun sorted =>
        { sorted := sorted
          reserved := Reserved.withDecision (parpDecide input flags) decision
          lost := some (.downgrade reread) })
      (protectFolio input tries (first.flags input.folio).tier
        (first.flags input.folio).special)).Ensures (others input)
      (fun rest => LawFrom input tries [(first, first.seen input)] ((found, found.seen input) :: rest))
      (found.seen input) := by
  have hruns := hsettles.and (Prog.ensures_runs _ _)
  refine (Prog.ensures_map _).2 (hruns.mono fun rest value left hboth outcome hsome => ?_)
  obtain ⟨hsettled, hrun⟩ := hboth
  obtain ⟨sorted, rfl, rfl⟩ := Option.map_eq_some_iff.1 hsome
  exact ⟨hsettled sorted rfl, nofun, nofun, fun _ _ => ⟨first, found, rest, rfl, hrun⟩,
    fun _ _ => hdropped.action,
    fun _ _ => released_of_action rfl hdropped.same hdropped.action⟩

end

section

variable {input : SortInput} {tries : ℕ} {slice : LruvecSlice} {flags : FolioFlags}

theorem raced_native (reserved : Reserved) (current : FolioFlags) :
    (if (racedDecision input reserved current).actualTierProtect then
      protectFolio input tries current.tier current.special
    else tierNotProtected input tries) = nativeSort input tries current := by
  have hprotect : (racedDecision input reserved current).actualTierProtect = true ↔
      current.tier > input.tierIdx ∨ current.special = true := by
    simp [racedDecision, parpTierNativeFallback]
  unfold nativeSort
  by_cases h : current.tier > input.tierIdx ∨ current.special = true
  · rw [if_pos h, if_pos (hprotect.2 h)]
  · rw [if_neg h, if_neg fun hsome => h (hprotect.1 hsome)]

theorem policyLost_law (earlier : List (LruvecSlice × LruvecSlice)) {seen : Option Gen}
    (hs : Holding input seen (fun _ => 0) slice) (hseen : seen.isSome = true) :
    (policyLost input tries (parpDecide input flags)).Ensures (others input)
      (LawFrom input tries earlier) slice := by
  refine ensures_readFlags hs fun found hfound hsame => ?_
  have hgen := hsame.trans hseen
  dsimp only
  have hprog : (if (found.flags input.folio).gen.isSome = true ∧
        (found.flags input.folio).gen ≠ some input.oldGen then
      movedElsewhere input (found.flags input.folio).gen
    else if (racedDecision input (parpDecide input flags)
        (found.flags input.folio)).actualTierProtect then
      protectFolio input tries (found.flags input.folio).tier (found.flags input.folio).special
    else tierNotProtected input tries) = racedSort input tries (found.flags input.folio) := by
    rw [raced_native]
    unfold racedSort
    simp only [hgen, true_and]
  rw [hprog]
  exact ensures_lostUpgrade earlier found (racedDecision_dropped _) hfound hgen

theorem policyStep_read (found : LruvecSlice) : PolicyStep input (found, found.seen input) :=
  ⟨⟨(found.flags input.folio).gen, (Function.update_eq_self _ _).symm⟩, rfl⟩

theorem policyStep_own {found left : LruvecSlice} (hflags : left.flags = found.flags)
    (hprotected : left.protectedPages = found.protectedPages) :
    PolicyStep input (found, left) :=
  ⟨⟨(found.flags input.folio).gen, hflags.trans (Function.update_eq_self _ _).symm⟩, hprotected⟩

theorem protectDecided_law (earlier : List (LruvecSlice × LruvecSlice))
    (hs : Holding input (some input.oldGen) (fun _ => 0) slice)
    (hearlier : ∀ step ∈ earlier, PolicyStep input step) :
    (protectDecided input tries flags (parpDecide input flags)).Ensures (others input)
      (LawFrom input tries earlier) slice := by
  unfold protectDecided
  dsimp only
  split
  · refine ensures_readFlags hs fun first hfirst hsame => ?_
    rw [lawFrom_cons]
    split
    · exact policyLost_law _ hfirst hsame
    · rename_i hgen
      rw [not_not.1 hgen] at hfirst
      refine ensures_cmpxchgFlags hfirst (fun found hold hwon => ?_) fun found hlost hfound hsome => ?_
      · -- the swap: from here on the generation is the one it put in
        rw [if_pos rfl, lawFrom_cons]
        rw [not_not.1 hgen] at hwon
        refine ensures_write hwon fun sized hsized => ?_
        refine ensures_write hsized.updateSize fun moving hmoving => ?_
        rintro _ hsome
        obtain rfl := Option.some.inj hsome
        refine ⟨hmoving.listMove false _, fun _ step hstep => ?_, nofun, nofun, nofun, nofun⟩
        simp only [append_assoc, mem_append, mem_cons, not_mem_nil, or_false,
          cons_append, nil_append] at hstep
        rcases hstep with hstep | rfl | rfl | rfl | rfl
        · exact hearlier step hstep
        · exact policyStep_read first
        · refine ⟨⟨some (parpEffectiveTierNextGeneration input.oldGen), ?_⟩, rfl⟩
          rw [hold]
          rfl
        · exact policyStep_own rfl rfl
        · exact policyStep_own rfl rfl
      · rw [if_neg hlost, lawFrom_cons]
        exact policyLost_law _ hfound hsome
  · exact ensures_finish earlier _ (protectFolio_settles tries hs _ _)

theorem same_gen_of_not_raced {current : FolioFlags} (hflags : flags.gen = some input.oldGen)
    (hstands : ¬ decisionRaced input flags current = true) : current.gen = some input.oldGen := by
  have hmask : current.decisionMask = flags.decisionMask := by
    by_contra hother
    exact hstands (decide_eq_true (.inr hother))
  exact (congrArg Prod.fst hmask).trans hflags

theorem commitUpgrade_law (earlier : List (LruvecSlice × LruvecSlice))
    (hflags : flags.gen = some input.oldGen)
    (hs : Holding input (some input.oldGen) (fun _ => 0) slice)
    (hearlier : ∀ step ∈ earlier, PolicyStep input step) :
    (commitUpgrade input tries flags (parpDecide input flags)).Ensures (others input)
      (LawFrom input tries earlier) slice := by
  refine ensures_readFlags hs fun found hfound hgen => ?_
  split
  · dsimp only
    split
    · rename_i hmoved
      have hprog : movedElsewhere input (found.flags input.folio).gen =
          racedSort input tries (found.flags input.folio) := (if_pos hmoved).symm
      rw [hprog]
      exact ensures_lostUpgrade earlier found ⟨⟨rfl, rfl, rfl⟩, nofun, nofun⟩ hfound hgen
    · rename_i hsame
      have hprog : nativeSort input tries (found.flags input.folio) =
          racedSort input tries (found.flags input.folio) := (if_neg hsame).symm
      rw [raced_native, hprog]
      exact ensures_lostUpgrade earlier found (racedDecision_dropped _) hfound hgen
  · rename_i hstands
    rw [lawFrom_cons]
    rw [same_gen_of_not_raced hflags hstands] at hfound
    refine protectDecided_law _ hfound fun step hstep => ?_
    rcases mem_append.1 hstep with hold | hlast
    · exact hearlier step hold
    · rw [mem_singleton.1 hlast]
      exact policyStep_read found

theorem commitDowngrade_law (first : LruvecSlice)
    (hflags : (first.flags input.folio).gen = some input.oldGen)
    (hs : Holding input (some input.oldGen) (fun _ => 0) slice) :
    (commitDowngrade input tries (first.flags input.folio)
        (parpDecide input (first.flags input.folio))).Ensures (others input)
      (LawFrom input tries [(first, first.seen input)]) slice := by
  refine ensures_readFlags hs fun found hfound hgen => ?_
  split
  · obtain ⟨gen, hfoundGen⟩ := Option.isSome_iff_exists.1 hgen
    rw [hfoundGen] at hfound
    dsimp only
    refine ensures_lostDowngrade first found ?_ (found.flags input.folio)
      (protectFolio_settles tries hfound _ _)
    exact ⟨⟨rfl, rfl, rfl⟩, nofun, nofun⟩
  · rename_i hstands
    rw [same_gen_of_not_raced hflags hstands] at hfound
    rw [lawFrom_cons]
    exact ensures_finish _ _ (tierNotProtected_settles tries hfound)

theorem sortFolio_law (hs : Holding input (some input.oldGen) (fun _ => 0) slice) :
    (sortFolio input tries).Ensures (others input) (LawFrom input tries []) slice := by
  refine ensures_readFlags hs fun first hfirst hsame => ?_
  obtain ⟨gen, hgen⟩ := Option.isSome_iff_exists.1 hsame
  rw [hgen] at hfirst
  rw [lawFrom_cons]
  dsimp only
  split
  · exact ensures_finish _ _ (cullFolio_settles ‹_› hfirst)
  split
  · -- promoted before the sort
    rw [hgen]
    refine ensures_write hfirst fun moving hmoving => ?_
    rintro _ hsome
    obtain rfl := Option.some.inj hsome
    exact ⟨hmoving.listMove false _, nofun, nofun, nofun, nofun, nofun⟩
  rename_i hold
  have hflags := not_not.1 hold
  obtain rfl := Option.some.inj (hgen.symm.trans hflags)
  have hread : ∀ step ∈ ([] ++ [(first, first.seen input)] : List (LruvecSlice × LruvecSlice)),
      PolicyStep input step := by
    intro step hstep
    rw [mem_singleton.1 hstep]
    exact policyStep_read first
  generalize (if (parpDecide input (first.flags input.folio)).decision.evaluated = true then _
    else _ : Bool) = actualTierProtect
  split
  · exact commitDowngrade_law first hflags hfirst
  split
  · exact commitUpgrade_law _ hflags hfirst hread
  split
  · exact protectDecided_law _ hfirst hread
  · exact ensures_finish _ _ (tierNotProtected_settles tries hfirst)

end

/-- Every run of `sort_folio`, whatever other threads do to the flags while it runs. -/
theorem sortFolio_keeps (input : SortInput) (tries : ℕ) {slice left : LruvecSlice}
    {own : List (LruvecSlice × LruvecSlice)} {outcome : SortOutcome}
    (haccounted : Accounted input.pages slice)
    (hhere : input.folio ∈ slice.lists input.oldGen)
    (hrun : Prog.Runs (others input) (sortFolio input tries) slice own left (some outcome)) :
    SortLaw input tries own outcome left :=
  hrun.ensures (sortFolio_law (haccounted.holding hhere)) outcome rfl

def walk (pages : ℕ → ℕ) (folio : ℕ) (gen : Gen) (slice : LruvecSlice) : LruvecSlice :=
  match (slice.flags folio).gen with
  | none => slice
  | some oldGen =>
    if ∃ g, folio ∈ slice.lists g then
      { slice with
        flags := Function.update slice.flags folio (promotedFlags (slice.flags folio) gen)
        owed := fun g =>
          slice.owed g - (if g = oldGen then (pages folio : ℤ) else 0) +
            (if g = gen then (pages folio : ℤ) else 0)
        late := Function.update slice.late folio true }
    else slice

theorem others_walk (input : SortInput) (folio : ℕ) (gen : Gen) (slice : LruvecSlice) :
    others input slice (walk input.pages folio gen slice) := by
  unfold walk
  cases hgen : (slice.flags folio).gen with
  | none => exact .refl
  | some oldGen =>
    dsimp only
    split
    · rename_i hlisted
      obtain ⟨g, hg⟩ := hlisted
      exact .single (.promote slice gen hg hgen)
    · exact .refl

def pagesOnList (pages : ℕ → ℕ) (slice : LruvecSlice) (g : Gen) : ℤ :=
  ((slice.lists g).map fun folio => (pages folio : ℤ)).sum

def lonelySlice : LruvecSlice where
  flags := fun _ => { gen := some 0, workingset := true }
  lists := fun g => if g = 0 then [1] else []
  nrPages := fun g => if g = 0 then 1 else 0

def lonelyInput : SortInput where
  folio := 1
  pages := fun _ => 1
  oldGen := 0
  decideInput := EffectiveTierSafety.hotInput

def hotSlice : LruvecSlice := { lonelySlice with flags := fun _ => { gen := some 0 } }

def hotSort : SortInput :=
  { lonelyInput with
    ctx := { mode := .bidirectional, enabled := true, epochTag := 1 }
    decideInput :=
      { EffectiveTierSafety.hotInput with
        claim := .acquired { EffectiveTierSafety.hotExt with
          state := { EffectiveTierSafety.hotExt.state with seq := 2 } } }
    revalidated := false }

theorem mem_lonely {folio : ℕ} {g : Gen} (h : folio ∈ lonelySlice.lists g) : g = 0 ∧ folio = 1 := by
  change folio ∈ (if g = 0 then [1] else []) at h
  split at h
  · exact ⟨‹_›, mem_singleton.1 h⟩
  · cases h

theorem lonely_accounted : Accounted lonelyInput.pages lonelySlice where
  once := by decide
  apart folio g g' hfolio hfolio' := (mem_lonely hfolio).1.trans (mem_lonely hfolio').1.symm
  alive g folio hfolio _ := rfl
  placed g folio hfolio _ _ := by
    rw [(mem_lonely hfolio).1]
    rfl
  counted := by decide

theorem runs_sort (input : SortInput) (slice : LruvecSlice)
    {moves : List (LruvecSlice → LruvecSlice)}
    (hmoves : ∀ move ∈ moves, move = id ∨ ∃ folio gen, move = walk input.pages folio gen)
    (hsome : ((sortFolio input 1).runUnder moves slice).2.2.isSome = true) :
    Prog.Runs (others input) (sortFolio input 1) slice
      ((sortFolio input 1).runUnder moves slice).1 ((sortFolio input 1).runUnder moves slice).2.1
      (some (((sortFolio input 1).runUnder moves slice).2.2.get hsome)) := by
  rw [Option.some_get]
  refine Prog.runs_runUnder (fun _ => .refl) _ (fun move hmove s => ?_) slice
  rcases hmoves move hmove with rfl | ⟨folio, gen, rfl⟩
  · exact .refl
  · exact others_walk input folio gen s

/-- A walker that promotes the folio after the sort moved its generation, and before it moves its
list. -/
def lateMoves : List (LruvecSlice → LruvecSlice) :=
  [id, id, id, id, walk lonelyInput.pages 1 3]

def earlyMoves : List (LruvecSlice → LruvecSlice) := [id, walk lonelyInput.pages 1 3]

theorem lateMoves_walk : ∀ move ∈ lateMoves,
    move = id ∨ ∃ folio gen, move = walk lonelyInput.pages folio gen := by
  simp only [lateMoves, mem_cons, not_mem_nil, or_false]
  rintro move (rfl | rfl | rfl | rfl | rfl)
  · exact .inl rfl
  · exact .inl rfl
  · exact .inl rfl
  · exact .inl rfl
  · exact .inr ⟨_, _, rfl⟩

theorem earlyMoves_walk : ∀ move ∈ earlyMoves,
    move = id ∨ ∃ folio gen, move = walk lonelyInput.pages folio gen := by
  simp only [earlyMoves, mem_cons, not_mem_nil, or_false]
  rintro move (rfl | rfl)
  · exact .inl rfl
  · exact .inr ⟨_, _, rfl⟩

/-- The sort leaves the folio on another list than its flags name, or a counter that is not the
pages of its list; and a reservation whose claim cannot be released stays charged. -/
theorem walkers_race :
    Accounted lonelyInput.pages lonelySlice ∧
    (∀ g, lonelySlice.nrPages g = pagesOnList lonelyInput.pages lonelySlice g) ∧
    (∃ own left outcome,
      Prog.Runs (others lonelyInput) (sortFolio lonelyInput 1) lonelySlice own left
        (some outcome) ∧
      outcome.sorted.result = true ∧ 1 ∈ left.lists 1 ∧ (left.flags 1).gen = some 3) ∧
    (∃ own left outcome,
      Prog.Runs (others lonelyInput) (sortFolio lonelyInput 1) lonelySlice own left
        (some outcome) ∧
      outcome.sorted.result = true ∧ left.nrPages 3 ≠ pagesOnList lonelyInput.pages left 3) ∧
    (∃ own left outcome,
      Prog.Runs (others hotSort) (sortFolio hotSort 1) hotSlice own left (some outcome) ∧
      outcome.lost = some (.upgrade { gen := some 0 }) ∧
      (parpEffectiveTierFinish outcome.reserved.ctx outcome.reserved.state
        outcome.reserved.decision .contended 1 outcome.sorted.result).state.used true ≠
          hotSort.state.used true) := by
  refine ⟨lonely_accounted, by decide, ?_, ?_, ?_⟩
  · exact ⟨_, _, _, runs_sort lonelyInput lonelySlice lateMoves_walk (by decide), by decide,
      by decide, by decide⟩
  · exact ⟨_, _, _, runs_sort lonelyInput lonelySlice earlyMoves_walk (by decide), by decide,
      by decide⟩
  · exact ⟨_, _, _, @runs_sort hotSort hotSlice [] nofun (by decide +kernel),
      by decide +kernel, by decide +kernel⟩

theorem lonely_keeps :
    ∃ own outcome left,
      Prog.Runs (others lonelyInput) (sortFolio lonelyInput 1) lonelySlice own left
        (some outcome) ∧
      SortLaw lonelyInput 1 own outcome left :=
  have hrun := runs_sort lonelyInput lonelySlice lateMoves_walk (by decide)
  ⟨_, _, _, hrun,
    sortFolio_keeps lonelyInput 1 lonely_accounted mem_cons_self hrun⟩

end Parp.SortFolio
