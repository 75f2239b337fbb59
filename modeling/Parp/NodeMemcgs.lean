import Mathlib.Data.List.Nodup
import Mathlib.Order.Nat
import Parp.ColdReclaim

set_option autoImplicit false

/-!
# The walk of targeted reclaim

`shrink_node_memcgs`. An ordered walk goes through the whole tree once for each bin and asks for the
bin of every memcg again each time. What the code reads on a memcg in a pass is an argument.
-/
namespace Parp.NodeMemcgs

open ColdReclaim List

inductive MemcgTree
  | node (memcg : ℕ) (children : List MemcgTree)

/-- The order of `mem_cgroup_iter` without a cookie. -/
def MemcgTree.walk : MemcgTree → List ℕ
  | .node memcg children => memcg :: walkAll children
where
  walkAll : List MemcgTree → List ℕ
    | [] => []
    | tree :: trees => tree.walk ++ walkAll trees

structure NodeReading where
  switches : Switches := {}
  view : MemcgView := {}
  belowMin : Bool := false
  belowLow : Bool := false
  cold : ColdReading := {}
  shrunk : Shrunk := {}
  deriving DecidableEq

def NodeReading.scored (reading : NodeReading) : ℕ × Bool :=
  (parpMemcgReclaimBinScored reading.switches reading.view).getD (memcgNrBins - 1, false)

structure WalkKind where
  isOrdered : Bool
  isPartial : Bool
  deriving DecidableEq

def WalkKind.stopsEarly (kind : WalkKind) : Bool := kind.isPartial || kind.isOrdered

structure NodeWalk where
  sc : ScanControl
  visits : List Visit := []
  goalReached : Bool := false
  deriving DecidableEq

def shrinkMemcg (kind : WalkKind) (reading : NodeReading) (memcg : ℕ) (walk : NodeWalk) : NodeWalk :=
  let (scoredBin, predictionBacked) := reading.scored
  let bin := if kind.isOrdered && predictionBacked then scoredBin else memcgNrBins
  let (during, context) := parpColdReclaimEnter reading.cold bin walk.sc
  let sc := parpColdReclaimExit (during.count reading.shrunk) context
  { sc := sc
    visits := walk.visits ++ [{
      memcg := memcg, reading := reading.cold, bin := bin, before := walk.sc
      during := some during, after := sc }]
    goalReached := kind.stopsEarly && decide (sc.nrReclaimed ≥ sc.nrToReclaim) }

def visitMemcg (kind : WalkKind) (orderedBin : ℕ) (reading : NodeReading) (memcg : ℕ)
    (walk : NodeWalk) : NodeWalk :=
  if kind.isOrdered ∧ reading.scored.1 ≠ orderedBin then walk
  else if reading.belowMin then walk
  else if reading.belowLow ∧ walk.sc.memcgLowReclaim = false then
    { walk with sc := { walk.sc with memcgLowSkipped := true } }
  else shrinkMemcg kind reading memcg walk

def nodePass (kind : WalkKind) (orderedBin : ℕ) (readings : ℕ → NodeReading) :
    List ℕ → NodeWalk → NodeWalk
  | [], walk => walk
  | memcg :: memcgs, walk =>
    let walk := visitMemcg kind orderedBin (readings memcg) memcg walk
    if walk.goalReached then walk else nodePass kind orderedBin readings memcgs walk

def nodePasses (kind : WalkKind) (readings : ℕ → ℕ → NodeReading) (memcgs : List ℕ) :
    List ℕ → NodeWalk → NodeWalk
  | [], walk => walk
  | orderedBin :: bins, walk =>
    let walk := nodePass kind orderedBin (readings orderedBin) memcgs walk
    if walk.goalReached then walk else nodePasses kind readings memcgs bins walk

/-- `readings` is what each pass reads on each memcg; `memcgs` is what the iterator returns, which is
the whole tree unless the walk is partial. -/
def shrinkNodeMemcgs (kind : WalkKind) (readings : ℕ → ℕ → NodeReading) (memcgs : List ℕ)
    (sc : ScanControl) : NodeWalk :=
  nodePasses kind readings memcgs (if kind.isOrdered then List.range memcgNrBins else [0]) { sc := sc }

/-!
# What an ordered walk covers
-/

structure Hierarchy where
  tree : MemcgTree
  nodup : tree.walk.Nodup

def ordered : WalkKind where
  isOrdered := true
  isPartial := false

def memcgsOf (walk : NodeWalk) : List ℕ := walk.visits.map Visit.memcg

def Unprotected (lowReclaim : Bool) (reading : NodeReading) : Prop :=
  reading.belowMin = false ∧ (reading.belowLow = true → lowReclaim = true)

instance (lowReclaim : Bool) (reading : NodeReading) :
    Decidable (Unprotected lowReclaim reading) :=
  inferInstanceAs (Decidable (_ ∧ (_ → _)))

def Selected (lowReclaim : Bool) (orderedBin : ℕ) (reading : NodeReading) : Prop :=
  reading.scored.1 = orderedBin ∧ Unprotected lowReclaim reading

instance (lowReclaim : Bool) (orderedBin : ℕ) (reading : NodeReading) :
    Decidable (Selected lowReclaim orderedBin reading) :=
  inferInstanceAs (Decidable (_ ∧ _))

section

variable {lowReclaim : Bool} {before middle after : NodeWalk} {selected more : List ℕ}

theorem enter_lowReclaim (reading : ColdReading) (bin : ℕ) (sc : ScanControl) :
    (parpColdReclaimEnter reading bin sc).1.memcgLowReclaim = sc.memcgLowReclaim := by
  unfold parpColdReclaimEnter
  split <;> rfl

theorem exit_lowReclaim (sc : ScanControl) (context : ParpColdReclaimContext) :
    (parpColdReclaimExit sc context).memcgLowReclaim = sc.memcgLowReclaim := by
  unfold parpColdReclaimExit
  split <;> rfl

/-- Part of a walk shrinks the selected memcgs in order, up to the goal. -/
structure PassLaw (selected : List ℕ) (before after : NodeWalk) : Prop where
  lowReclaim : after.sc.memcgLowReclaim = before.sc.memcgLowReclaim
  visited : ∃ taken, taken.Sublist selected ∧ memcgsOf after = memcgsOf before ++ taken
  complete : after.goalReached = false → memcgsOf after = memcgsOf before ++ selected

theorem PassLaw.refl (walk : NodeWalk) : PassLaw [] walk walk where
  lowReclaim := rfl
  visited := ⟨[], List.Sublist.refl _, (append_nil _).symm⟩
  complete _ := (append_nil _).symm

theorem PassLaw.trans (h : PassLaw selected before middle) (hgoal : middle.goalReached = false)
    (hmore : PassLaw more middle after) : PassLaw (selected ++ more) before after where
  lowReclaim := hmore.lowReclaim.trans h.lowReclaim
  visited := by
    obtain ⟨taken, hsublist, hvisited⟩ := hmore.visited
    exact ⟨selected ++ taken, hsublist.append_left _, by
      rw [hvisited, h.complete hgoal, append_assoc]⟩
  complete hend := by rw [hmore.complete hend, h.complete hgoal, append_assoc]

theorem PassLaw.stop (h : PassLaw selected before middle) (hgoal : middle.goalReached = true) :
    PassLaw (selected ++ more) before middle where
  lowReclaim := h.lowReclaim
  visited := by
    obtain ⟨taken, hsublist, hvisited⟩ := h.visited
    exact ⟨taken, hsublist.trans (sublist_append_left _ _), hvisited⟩
  complete hend := by
    rw [hgoal] at hend
    cases hend

def selectedIn (lowReclaim : Bool) (orderedBin : ℕ) (readings : ℕ → NodeReading)
    (memcgs : List ℕ) : List ℕ :=
  memcgs.filter fun memcg => decide (Selected lowReclaim orderedBin (readings memcg))

theorem visitMemcg_law {walk : NodeWalk} (hlow : walk.sc.memcgLowReclaim = lowReclaim)
    (orderedBin : ℕ) (readings : ℕ → NodeReading) (memcg : ℕ) :
    PassLaw (selectedIn lowReclaim orderedBin readings [memcg]) walk
      (visitMemcg ordered orderedBin (readings memcg) memcg walk) := by
  subst hlow
  unfold visitMemcg selectedIn
  split_ifs with hbin hmin hbelow
  · rw [filter_singleton, decide_eq_false fun h => hbin.2 h.1]
    exact .refl walk
  · rw [filter_singleton, decide_eq_false fun h => by rw [h.2.1] at hmin; cases hmin]
    exact .refl walk
  · have hnot : ¬ Selected walk.sc.memcgLowReclaim orderedBin (readings memcg) := by
      intro h
      have hreclaim := h.2.2 hbelow.1
      rw [hbelow.2] at hreclaim
      cases hreclaim
    rw [filter_singleton, decide_eq_false hnot]
    exact ⟨rfl, ⟨[], List.Sublist.refl _, (append_nil _).symm⟩,
      fun _ => (append_nil _).symm⟩
  · have hselected : Selected walk.sc.memcgLowReclaim orderedBin (readings memcg) := by
      refine ⟨not_not.1 fun hne => hbin ⟨rfl, hne⟩, Bool.eq_false_iff.2 hmin, fun hlow => ?_⟩
      rw [not_and, Bool.not_eq_false] at hbelow
      exact hbelow hlow
    have hmemcgs : memcgsOf (shrinkMemcg ordered (readings memcg) memcg walk) =
        memcgsOf walk ++ [memcg] := by
      simp [shrinkMemcg, memcgsOf]
    rw [filter_singleton, decide_eq_true hselected]
    exact ⟨(exit_lowReclaim _ _).trans (enter_lowReclaim _ _ _),
      ⟨[memcg], List.Sublist.refl _, hmemcgs⟩, fun _ => hmemcgs⟩

theorem nodePass_law {walk : NodeWalk} (hlow : walk.sc.memcgLowReclaim = lowReclaim)
    (hgoal : walk.goalReached = false) (orderedBin : ℕ) (readings : ℕ → NodeReading)
    (memcgs : List ℕ) :
    PassLaw (selectedIn lowReclaim orderedBin readings memcgs) walk
      (nodePass ordered orderedBin readings memcgs walk) := by
  induction memcgs generalizing walk with
  | nil => exact .refl walk
  | cons memcg memcgs ih =>
    have hfirst := visitMemcg_law hlow orderedBin readings memcg
    have hsplit : selectedIn lowReclaim orderedBin readings (memcg :: memcgs) =
        selectedIn lowReclaim orderedBin readings [memcg] ++
          selectedIn lowReclaim orderedBin readings memcgs := by
      unfold selectedIn
      rw [← filter_append]
      rfl
    rw [hsplit]
    unfold nodePass
    dsimp only
    split_ifs with hreached
    · exact hfirst.stop hreached
    · have hopen := Bool.eq_false_iff.2 hreached
      exact hfirst.trans hopen (ih (hfirst.lowReclaim.trans hlow) hopen)

theorem nodePasses_law {walk : NodeWalk} (hlow : walk.sc.memcgLowReclaim = lowReclaim)
    (hgoal : walk.goalReached = false) (readings : ℕ → ℕ → NodeReading) (memcgs bins : List ℕ) :
    PassLaw (bins.flatMap fun bin => selectedIn lowReclaim bin (readings bin) memcgs) walk
      (nodePasses ordered readings memcgs bins walk) := by
  induction bins generalizing walk with
  | nil => exact .refl walk
  | cons bin bins ih =>
    have hfirst := nodePass_law hlow hgoal bin (readings bin) memcgs
    rw [flatMap_cons]
    unfold nodePasses
    dsimp only
    split_ifs with hreached
    · exact hfirst.stop hreached
    · have hopen := Bool.eq_false_iff.2 hreached
      exact hfirst.trans hopen (ih (hfirst.lowReclaim.trans hlow) hopen)

end

section

variable (readings : ℕ → ℕ → NodeReading)

def Eligible (lowReclaim : Bool) (memcg : ℕ) : Prop :=
  ∀ bin < memcgNrBins, Unprotected lowReclaim (readings bin memcg)

instance (lowReclaim : Bool) (memcg : ℕ) : Decidable (Eligible readings lowReclaim memcg) :=
  inferInstanceAs (Decidable (∀ bin < memcgNrBins, _))

def passesFor (memcg : ℕ) : ℕ :=
  (List.range memcgNrBins).countP fun bin => decide ((readings bin memcg).scored.1 = bin)

def timesShrunk (walk : NodeWalk) (memcg : ℕ) : ℕ := (memcgsOf walk).count memcg

def CoversOnce (hierarchy : Hierarchy) (lowReclaim : Bool) (walk : NodeWalk) : Prop :=
  ∀ memcg ∈ hierarchy.tree.walk, Eligible readings lowReclaim memcg → timesShrunk walk memcg = 1

def ScoresStay : Prop := ∀ bin memcg, (readings bin memcg).scored.1 = (readings 0 memcg).scored.1

def BinOrdered (walk : NodeWalk) : Prop :=
  (memcgsOf walk).Pairwise fun a b => (readings 0 a).scored.1 ≤ (readings 0 b).scored.1

theorem count_selectedIn {lowReclaim : Bool} {bin memcg : ℕ} {memcgs : List ℕ}
    (hnodup : memcgs.Nodup) (hmem : memcg ∈ memcgs)
    (heligible : Unprotected lowReclaim (readings bin memcg)) :
    (selectedIn lowReclaim bin (readings bin) memcgs).count memcg =
      if (readings bin memcg).scored.1 = bin then 1 else 0 := by
  unfold selectedIn
  split_ifs with hbin
  · have hselected : Selected lowReclaim bin (readings bin memcg) := ⟨hbin, heligible⟩
    exact count_eq_one_of_mem (hnodup.filter _)
      (mem_filter.2 ⟨hmem, decide_eq_true hselected⟩)
  · apply count_eq_zero_of_not_mem
    intro hfound
    exact hbin (of_decide_eq_true (mem_filter.1 hfound).2).1

theorem count_passes {lowReclaim : Bool} {memcg : ℕ} {memcgs : List ℕ} (hnodup : memcgs.Nodup)
    (hmem : memcg ∈ memcgs) (bins : List ℕ)
    (heligible : ∀ bin ∈ bins, Unprotected lowReclaim (readings bin memcg)) :
    (bins.flatMap fun bin => selectedIn lowReclaim bin (readings bin) memcgs).count memcg =
      bins.countP fun bin => decide ((readings bin memcg).scored.1 = bin) := by
  induction bins with
  | nil => rfl
  | cons bin bins ih =>
    have hrest := ih fun bin hbin => heligible bin (mem_cons_of_mem _ hbin)
    rw [flatMap_cons, count_append, hrest, countP_cons,
      count_selectedIn readings hnodup hmem (heligible bin mem_cons_self), Nat.add_comm]
    simp only [decide_eq_true_eq]

theorem scored_lt (reading : NodeReading) : reading.scored.1 < memcgNrBins := by
  unfold NodeReading.scored parpMemcgReclaimBinScored
  cases parpTier2ReclaimBinScore reading.switches reading.view with
  | none => decide
  | some score =>
    change min _ _ < memcgNrBins
    exact Nat.lt_of_le_of_lt (Nat.min_le_right _ _) (by decide)

theorem passesFor_stay (hstay : ScoresStay readings) (memcg : ℕ) :
    passesFor readings memcg = 1 := by
  have hbins : passesFor readings memcg =
      (List.range memcgNrBins).count (readings 0 memcg).scored.1 := by
    unfold passesFor List.count
    refine countP_congr fun bin _ => ?_
    rw [hstay bin memcg, decide_eq_true_eq, beq_iff_eq]
    exact eq_comm
  rw [hbins]
  exact count_eq_one_of_mem nodup_range (mem_range.2 (scored_lt _))

theorem pairwise_selected (hstay : ScoresStay readings) {lowReclaim : Bool} {memcgs bins : List ℕ}
    (hbins : bins.Pairwise (· < ·)) :
    (bins.flatMap fun bin => selectedIn lowReclaim bin (readings bin) memcgs).Pairwise
      fun a b => (readings 0 a).scored.1 ≤ (readings 0 b).scored.1 := by
  have hbin : ∀ bin, ∀ memcg ∈ selectedIn lowReclaim bin (readings bin) memcgs,
      (readings 0 memcg).scored.1 = bin := by
    intro bin memcg hmem
    rw [← hstay bin memcg]
    exact (of_decide_eq_true (mem_filter.1 hmem).2).1
  rw [pairwise_flatMap]
  constructor
  · intro bin _
    refine pairwise_of_forall_mem_list fun a ha b hb => ?_
    rw [hbin bin a ha, hbin bin b hb]
  · refine hbins.imp fun hlt a ha b hb => ?_
    rw [hbin _ a ha, hbin _ b hb]
    exact Nat.le_of_lt hlt

theorem shrinkNodeMemcgs_law (memcgs : List ℕ) (sc : ScanControl) :
    PassLaw ((List.range memcgNrBins).flatMap fun bin =>
        selectedIn sc.memcgLowReclaim bin (readings bin) memcgs)
      { sc := sc } (shrinkNodeMemcgs ordered readings memcgs sc) :=
  @nodePasses_law sc.memcgLowReclaim { sc := sc } rfl rfl readings memcgs (List.range memcgNrBins)

/-- An ordered walk that does not stop early covers the tree exactly when every eligible memcg is
in the bin of exactly one pass; with unchanged scores it goes in the order of the bins. -/
theorem ordered_covers_iff (hierarchy : Hierarchy) (sc : ScanControl) :
    let walk := shrinkNodeMemcgs ordered readings hierarchy.tree.walk sc
    (walk.goalReached = false →
      (CoversOnce readings hierarchy sc.memcgLowReclaim walk ↔
        ∀ memcg ∈ hierarchy.tree.walk, Eligible readings sc.memcgLowReclaim memcg →
          passesFor readings memcg = 1)) ∧
      (ScoresStay readings → BinOrdered readings walk) := by
  intro walk
  have hlaw := shrinkNodeMemcgs_law readings hierarchy.tree.walk sc
  constructor
  · intro hgoal
    have hmemcgs := hlaw.complete hgoal
    refine forall_congr' fun memcg => forall_congr' fun hmem => forall_congr' fun heligible => ?_
    have hcount : timesShrunk walk memcg = passesFor readings memcg := by
      unfold timesShrunk
      rw [hmemcgs]
      exact count_passes readings hierarchy.nodup hmem _
        fun bin hbin => heligible bin (mem_range.1 hbin)
    rw [hcount]
  · intro hstay
    obtain ⟨taken, hsublist, hvisited⟩ := hlaw.visited
    have hordered := (pairwise_selected readings hstay pairwise_lt_range).sublist hsublist
    unfold BinOrdered
    rw [hvisited]
    exact hordered

end

def rankedReading (appRank : UInt16) : NodeReading where
  switches := { applyMode := true, reclaimBinEnabled := true }
  view := { ancestors := [{ enabled := true }], context := some { appRank := appRank } }
  shrunk := { scanned := 64, reclaimed := 32 }

def slice : Hierarchy where
  tree := .node 1 [.node 2 [], .node 3 []]
  nodup := by decide

def steadyReadings (_bin memcg : ℕ) : NodeReading :=
  if memcg = 2 then rankedReading 1 else if memcg = 3 then rankedReading 13 else {}

def sliceControl : ScanControl where
  priority := 12
  mayWritepage := true
  nrToReclaim := 1000

theorem steadyReadings_cover :
    CoversOnce steadyReadings slice false
        (shrinkNodeMemcgs ordered steadyReadings slice.tree.walk sliceControl) ∧
      memcgsOf (shrinkNodeMemcgs ordered steadyReadings slice.tree.walk sliceControl) =
        [3, 1, 2] := by
  have hgoal : (shrinkNodeMemcgs ordered steadyReadings slice.tree.walk
      sliceControl).goalReached = false := by decide +kernel
  refine ⟨((ordered_covers_iff steadyReadings slice sliceControl).1 hgoal).2 ?_, ?_⟩
  · intro memcg _ _
    exact passesFor_stay steadyReadings (fun _ _ => rfl) memcg
  · decide +kernel

def OrderedCovers : Prop :=
  ∀ (readings : ℕ → ℕ → NodeReading) (hierarchy : Hierarchy) (sc : ScanControl),
    (shrinkNodeMemcgs ordered readings hierarchy.tree.walk sc).goalReached = false →
      CoversOnce readings hierarchy sc.memcgLowReclaim
          (shrinkNodeMemcgs ordered readings hierarchy.tree.walk sc) ∧
        (ScoresStay readings →
          BinOrdered readings (shrinkNodeMemcgs ordered readings hierarchy.tree.walk sc))

def coolingReadings (bin memcg : ℕ) : NodeReading :=
  if memcg = 2 then rankedReading (if bin < 2 then 3 else 13)
  else if memcg = 3 then rankedReading 13
  else {}

/-- No pass finds it in its bin. -/
theorem coolingReadings_miss : ¬ OrderedCovers := by
  intro h
  have hgoal : (shrinkNodeMemcgs ordered coolingReadings slice.tree.walk
      sliceControl).goalReached = false := by decide +kernel
  have hcovers := (h coolingReadings slice sliceControl hgoal).1
  have honce := hcovers 2 (by decide) (by decide +kernel)
  have hnever : timesShrunk (shrinkNodeMemcgs ordered coolingReadings slice.tree.walk
      sliceControl) 2 = 0 := by decide +kernel
  rw [hnever] at honce
  cases honce

end Parp.NodeMemcgs
