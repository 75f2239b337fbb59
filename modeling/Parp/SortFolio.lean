import Parp.EffectiveTierScan
import Parp.AtomicPrograms

set_option autoImplicit false

/-!
# Sorting a folio

`sort_folio` of `vmscan.c` with `folio_inc_gen` and `parp_policy_inc_gen`, under the lru lock: other
threads change flags between its steps, and the lists and counters are its own. `LruvecSlice` is the
part of the lruvec for the folio's type and zone. A loop that runs out of tries gives `none`: it is
still retrying.
-/
namespace Parp.SortFolio

open FolioState EffectiveTier EffectiveTierScan AtomicPrograms

abbrev maxNrGens : ℕ := 4

/-- `folio->flags`; no generation stands for a cleared `LRU_GEN` field. -/
structure FolioFlags where
  gen : Option (Fin maxNrGens) := none
  referenced : Bool := false
  lruRefs : Fin 4 := 0
  workingset : Bool := false
  reclaim : Bool := false
  dirty : Bool := false
  writeback : Bool := false
  unevictable : Bool := false
  rest : ℕ := 0
  deriving DecidableEq

def parpLruRefsFromFlags (flags : FolioFlags) : ℕ :=
  if flags.referenced then flags.lruRefs.val + 1 else 0

/-- `workingset ? MAX_NR_TIERS - 1 : order_base_2(refs)`. -/
def lruTierFromRefs (refs : ℕ) (workingset : Bool) : Fin 4 :=
  if workingset then 3 else if refs ≤ 1 then 0 else if refs = 2 then 1 else 2

def FolioFlags.tier (flags : FolioFlags) : Fin 4 :=
  lruTierFromRefs (parpLruRefsFromFlags flags) flags.workingset

/-- `refs + workingset == BIT(LRU_REFS_WIDTH) + 1`. -/
def FolioFlags.special (flags : FolioFlags) : Bool :=
  parpLruRefsFromFlags flags + flags.workingset.toNat = 5

def FolioFlags.decisionMask (flags : FolioFlags) :
    Option (Fin maxNrGens) × Bool × Fin 4 × Bool :=
  (flags.gen, flags.referenced, flags.lruRefs, flags.workingset)

/-- `owed` are the page counts that page-table walkers have not flushed yet. `late` is not in the
code: a walker has promoted the folio since its flags were last looked at by a sort. -/
structure LruvecSlice where
  flags : ℕ → FolioFlags
  lists : Fin maxNrGens → List ℕ
  nrPages : Fin maxNrGens → ℤ
  protectedPages : Fin 4 → ℕ := fun _ => 0
  owed : Fin maxNrGens → ℤ := fun _ => 0
  late : ℕ → Bool := fun _ => false

/-- A folio and the scan that meets it. `oldGen` is the generation of `min_seq`. -/
structure SortInput where
  folio : ℕ
  pages : ℕ → ℕ
  isFile : Bool := false
  zone : ℕ := 0
  evictable : Bool := true
  oldGen : Fin maxNrGens
  tierIdx : Fin 4 := 0
  reclaimIdx : ℕ := 0
  ctx : ParpTierScanCtx := {}
  state : ParpEffectiveTierState := {}
  decideInput : DecideInput
  /-- What `parp_effective_tier_commit_revalidate` answers. -/
  revalidated : Bool := true

/-- What a sort leaves besides the lists: its result, the move it noted and the pages it counted in
the scan control. -/
structure Sorted where
  result : Bool
  noted : Option (ParpAccessEvent × Fin maxNrGens) := none
  fileTaken : ℕ := 0
  unqueuedDirty : ℕ := 0
  deriving DecidableEq

/-- A decision that the folio did not wait for, with the flags that were read again. -/
inductive LostRace
  | upgrade (reread : FolioFlags)
  | downgrade (reread : FolioFlags)
  deriving DecidableEq

/-- `policyUpgrade` is the local of the source; `lost` is not in the code. -/
structure SortOutcome where
  sorted : Sorted
  reserved : Reserved
  policyUpgrade : Bool := false
  lost : Option LostRace := none

section

variable {α : Type} (input : SortInput)

def LruvecSlice.seen (slice : LruvecSlice) : LruvecSlice :=
  { slice with late := Function.update slice.late input.folio false }

def LruvecSlice.setFlags (flags : FolioFlags) (slice : LruvecSlice) : LruvecSlice :=
  { slice with flags := Function.update slice.flags input.folio flags }

def readFlags (next : FolioFlags → Prog LruvecSlice α) : Prog LruvecSlice α :=
  .step (fun slice => slice.seen input) fun slice => next (slice.flags input.folio)

/-- Compare-and-swap of the flags; `next` gets what it found. -/
def cmpxchgFlags (old new : FolioFlags) (next : FolioFlags → Prog LruvecSlice α) :
    Prog LruvecSlice α :=
  .step (fun slice =>
      (if slice.flags input.folio = old then slice.setFlags input new else slice).seen input)
    fun slice => next (slice.flags input.folio)

/-- `lru_gen_update_size` between two generations. -/
def LruvecSlice.updateSize (oldGen newGen : Fin maxNrGens) (slice : LruvecSlice) : LruvecSlice :=
  let left := Function.update slice.nrPages oldGen (slice.nrPages oldGen - input.pages input.folio)
  { slice with
    nrPages := Function.update left newGen (left newGen + input.pages input.folio) }

/-- `list_move`, and with `atTail` `list_move_tail`. A folio without a generation has no list. -/
def LruvecSlice.listMove (atTail : Bool) (gen : Option (Fin maxNrGens)) (slice : LruvecSlice) :
    LruvecSlice :=
  match gen with
  | none => slice
  | some gen =>
    { slice with
      lists := fun g =>
        let rest := (slice.lists g).filter fun folio => folio ≠ input.folio
        if g ≠ gen then rest else if atTail then rest ++ [input.folio] else input.folio :: rest }

/-- `lru_gen_update_size` of a folio that leaves a generation, and `list_del`. -/
def LruvecSlice.listDel (gen : Fin maxNrGens) (slice : LruvecSlice) : LruvecSlice :=
  { slice with
    nrPages := Function.update slice.nrPages gen (slice.nrPages gen - input.pages input.folio)
    lists := fun g => (slice.lists g).filter fun folio => folio ≠ input.folio }

def LruvecSlice.countProtected (tier : Fin 4) (slice : LruvecSlice) : LruvecSlice :=
  { slice with
    protectedPages := Function.update slice.protectedPages tier
      (slice.protectedPages tier + input.pages input.folio) }

def parpEffectiveTierNextGeneration (generation : Fin maxNrGens) : Fin maxNrGens := generation + 1

def parpEffectiveTierPolicyFlags (oldFlags : FolioFlags) (newGeneration : Fin maxNrGens) :
    FolioFlags :=
  { oldFlags with gen := some newGeneration }

/-- The flags `folio_inc_gen` swaps in. -/
def incGenFlags (oldFlags : FolioFlags) (newGen : Fin maxNrGens) (reclaiming : Bool) : FolioFlags :=
  { oldFlags with
    gen := some newGen
    referenced := false
    lruRefs := 0
    reclaim := oldFlags.reclaim || reclaiming }

/-- The loop of `folio_inc_gen` from the flags it has; `next` gets the generation and `moved`. -/
def folioIncGenFrom (reclaiming : Bool)
    (next : Fin maxNrGens → Bool → Prog LruvecSlice (Option α)) :
    ℕ → FolioFlags → Prog LruvecSlice (Option α)
  | 0, _ => .ret none
  | tries + 1, oldFlags =>
    let newGen := parpEffectiveTierNextGeneration input.oldGen
    if oldFlags.gen.isSome ∧ oldFlags.gen ≠ some input.oldGen then
      next (oldFlags.gen.getD newGen) false
    else
      cmpxchgFlags input oldFlags (incGenFlags oldFlags newGen reclaiming) fun found =>
        if found = oldFlags then
          .write (LruvecSlice.updateSize input input.oldGen newGen) (next newGen true)
        else folioIncGenFrom reclaiming next tries found

def folioIncGen (tries : ℕ) (reclaiming : Bool)
    (next : Fin maxNrGens → Bool → Prog LruvecSlice (Option α)) : Prog LruvecSlice (Option α) :=
  readFlags input fun oldFlags => folioIncGenFrom input reclaiming next tries oldFlags

def parpPolicyIncGen (next : Option (Fin maxNrGens) → Prog LruvecSlice (Option α)) :
    Prog LruvecSlice (Option α) :=
  readFlags input fun oldFlags =>
    if oldFlags.gen ≠ some input.oldGen then next none
    else
      let newGen := parpEffectiveTierNextGeneration input.oldGen
      cmpxchgFlags input oldFlags (parpEffectiveTierPolicyFlags oldFlags newGen) fun found =>
        if found = oldFlags then
          .write (LruvecSlice.updateSize input input.oldGen newGen) (next (some newGen))
        else next none

end

section

variable (input : SortInput) (tries : ℕ)

def notedMove (event : ParpAccessEvent) (gen : Fin maxNrGens) (moved : Bool) :
    Option (ParpAccessEvent × Fin maxNrGens) :=
  if moved then some (event, gen) else none

def protectFolio (tier : Fin 4) (special : Bool) : Prog LruvecSlice (Option Sorted) :=
  folioIncGen input tries false fun gen moved =>
    .write (LruvecSlice.listMove input false (some gen))
      (let sorted : Sorted :=
        { result := true, noted := notedMove .nativeTierPromotion gen moved }
      if special then .ret (some sorted)
      else .write (LruvecSlice.countProtected input tier) (.ret (some sorted)))

/-- `sort_folio` from `tier_not_protected` on. -/
def tierNotProtected : Prog LruvecSlice (Option Sorted) :=
  if input.zone > input.reclaimIdx then
    folioIncGen input tries false fun gen moved =>
      .write (LruvecSlice.listMove input true (some gen))
        (.ret (some { result := true, noted := notedMove .nativeGenerationMove gen moved }))
  else
    .read (fun slice => (slice.flags input.folio).dirty) fun dirty =>
    .read (fun slice => (slice.flags input.folio).writeback) fun writeback =>
      let pages := input.pages input.folio
      let fileTaken := if input.isFile ∧ dirty then pages else 0
      let unqueuedDirty := if input.isFile ∧ dirty ∧ writeback = false then pages else 0
      if writeback ∨ input.isFile ∧ dirty then
        folioIncGen input tries true fun gen moved =>
          .write (LruvecSlice.listMove input false (some gen))
            (.ret (some {
              result := true
              noted := notedMove .nativeGenerationMove gen moved
              fileTaken := fileTaken
              unqueuedDirty := unqueuedDirty }))
      else
        .ret (some { result := false, fileTaken := fileTaken, unqueuedDirty := unqueuedDirty })

def nativeSort (flags : FolioFlags) : Prog LruvecSlice (Option Sorted) :=
  if flags.tier > input.tierIdx ∨ flags.special then
    protectFolio input tries flags.tier flags.special
  else tierNotProtected input tries

/-- `lru_gen_del_folio` and the unevictable list. -/
def cullFolio : Prog LruvecSlice (Option Sorted) :=
  .step (fun slice =>
      (slice.setFlags input { slice.flags input.folio with gen := none }).seen input) fun slice =>
    .write (fun later =>
        match (slice.flags input.folio).gen with
        | none => later
        | some gen => later.listDel input gen)
      (.step (fun later =>
          later.setFlags input { later.flags input.folio with unevictable := true })
        fun _ => .ret (some { result := true }))

def decideInputFor (flags : FolioFlags) : DecideInput :=
  { input.decideInput with
    pages := UInt64.ofNat (input.pages input.folio)
    nativeTier := flags.tier.val
    tierIdx := input.tierIdx.val
    specialNativeProtect := flags.special }

/-- `parp_effective_tier_decide` for the tier that was read. -/
def parpDecide (flags : FolioFlags) : Reserved :=
  if input.ctx.enabled then
    parpEffectiveTierDecide input.ctx input.state (decideInputFor input flags)
  else
    { ctx := input.ctx, state := input.state, decision := {}, folio := input.decideInput.claim }

def Reserved.withDecision (reserved : Reserved) (decision : ParpTierDecision) : Reserved :=
  { reserved with decision := decision }

def racedDecision (reserved : Reserved) (flags : FolioFlags) : ParpTierDecision :=
  parpTierNativeFallback reserved.decision flags.tier.val input.tierIdx.val flags.special
    .generationRace

def finishWith (outcome : Sorted → SortOutcome) (rest : Prog LruvecSlice (Option Sorted)) :
    Prog LruvecSlice (Option SortOutcome) :=
  rest.map (Option.map outcome)

def movedElsewhere (gen : Option (Fin maxNrGens)) : Prog LruvecSlice (Option Sorted) :=
  .write (LruvecSlice.listMove input false gen)
    (.ret (some { result := true, noted := gen.map fun gen => (.otherMove, gen) }))

/-- An upgrade after `parp_policy_inc_gen` has failed. -/
def policyLost (reserved : Reserved) : Prog LruvecSlice (Option SortOutcome) :=
  readFlags input fun current =>
    let decision := racedDecision input reserved current
    finishWith
      (fun sorted =>
        { sorted := sorted
          reserved := Reserved.withDecision reserved decision
          lost := some (.upgrade current) })
      (if current.gen.isSome ∧ current.gen ≠ some input.oldGen then movedElsewhere input current.gen
      else if decision.actualTierProtect then protectFolio input tries current.tier current.special
      else tierNotProtected input tries)

/-- `if (actual_tier_protect)`, for a decision that still stands. -/
def protectDecided (flags : FolioFlags) (reserved : Reserved) :
    Prog LruvecSlice (Option SortOutcome) :=
  let decision := reserved.decision
  if decision.evaluated ∧ decision.action = .predictiveUpgrade ∧ decision.nativeProtect = false ∧
      flags.special = false then
    parpPolicyIncGen input fun moved =>
      match moved with
      | none => policyLost input tries reserved
      | some gen =>
        .write (LruvecSlice.listMove input false (some gen))
          (.ret (some {
            sorted := { result := true, noted := some (.policyPromotion, gen) }
            reserved := reserved
            policyUpgrade := true }))
  else
    finishWith (fun sorted => { sorted := sorted, reserved := reserved })
      (protectFolio input tries flags.tier flags.special)

def decisionRaced (flags current : FolioFlags) : Bool :=
  input.revalidated = false ∨ current.decisionMask ≠ flags.decisionMask

def commitDowngrade (flags : FolioFlags) (reserved : Reserved) :
    Prog LruvecSlice (Option SortOutcome) :=
  readFlags input fun current =>
    if decisionRaced input flags current then
      let decision :=
        { racedDecision input reserved flags with
          actualTierProtect := true
          action := .keepProtect }
      finishWith
        (fun sorted =>
          { sorted := sorted
            reserved := Reserved.withDecision reserved decision
            lost := some (.downgrade current) })
        (protectFolio input tries flags.tier flags.special)
    else
      finishWith (fun sorted => { sorted := sorted, reserved := reserved })
        (tierNotProtected input tries)

/-- A predictive upgrade before it is committed; what the source assigns to `gen`, `refs`,
`workingset` and `tier` after a race are those of `current`. -/
def commitUpgrade (flags : FolioFlags) (reserved : Reserved) :
    Prog LruvecSlice (Option SortOutcome) :=
  readFlags input fun current =>
    if decisionRaced input flags current then
      let decision := racedDecision input reserved current
      if current.gen ≠ some input.oldGen then
        finishWith
          (fun sorted =>
            { sorted := sorted
              reserved := Reserved.withDecision reserved
                { decision with actualTierProtect := true, action := .keepProtect }
              lost := some (.upgrade current) })
          (movedElsewhere input current.gen)
      else
        finishWith
          (fun sorted =>
            { sorted := sorted
              reserved := Reserved.withDecision reserved decision
              lost := some (.upgrade current) })
          (if decision.actualTierProtect then
            protectFolio input tries current.tier current.special
          else tierNotProtected input tries)
    else protectDecided input tries flags reserved

def sortFolio : Prog LruvecSlice (Option SortOutcome) :=
  readFlags input fun flags =>
    let untouched : Reserved :=
      { ctx := input.ctx, state := input.state, decision := {}, folio := input.decideInput.claim }
    if input.evictable = false then
      finishWith (fun sorted => { sorted := sorted, reserved := untouched }) (cullFolio input)
    else if flags.gen ≠ some input.oldGen then
      .write (LruvecSlice.listMove input false flags.gen)
        (.ret (some { sorted := { result := true }, reserved := untouched }))
    else
      let reserved := parpDecide input flags
      let decision := reserved.decision
      let actualTierProtect :=
        if decision.evaluated then decision.actualTierProtect
        else flags.tier > input.tierIdx ∨ flags.special
      if decision.evaluated ∧ decision.action = .predictiveDowngrade ∧
          actualTierProtect = false then
        commitDowngrade input tries flags reserved
      else if decision.evaluated ∧ decision.action = .predictiveUpgrade ∧ actualTierProtect then
        commitUpgrade input tries flags reserved
      else if actualTierProtect then protectDecided input tries flags reserved
      else
        finishWith (fun sorted => { sorted := sorted, reserved := reserved })
          (tierNotProtected input tries)

end

section

variable (pages : ℕ → ℕ)

/-- The flags `folio_update_gen` swaps in. -/
def promotedFlags (oldFlags : FolioFlags) (gen : Fin maxNrGens) : FolioFlags :=
  { oldFlags with gen := some gen, referenced := false, lruRefs := 0, workingset := true }

/-- A step of another thread while the lru lock is held: a page-table walker promotes a folio and
keeps the pages in its batch, or flags change that are not the generation. -/
inductive OtherStep : LruvecSlice → LruvecSlice → Prop
  | promote (slice : LruvecSlice) {folio : ℕ} {oldGen listGen : Fin maxNrGens} (gen : Fin maxNrGens)
      (hlisted : folio ∈ slice.lists listGen) (hgen : (slice.flags folio).gen = some oldGen) :
      OtherStep slice
        { slice with
          flags := Function.update slice.flags folio (promotedFlags (slice.flags folio) gen)
          owed := fun g =>
            slice.owed g - (if g = oldGen then (pages folio : ℤ) else 0) +
              (if g = gen then (pages folio : ℤ) else 0)
          late := Function.update slice.late folio true }
  | touch (slice : LruvecSlice) (folio : ℕ) (flags : FolioFlags)
      (hgen : flags.gen = (slice.flags folio).gen) :
      OtherStep slice { slice with flags := Function.update slice.flags folio flags }

end

end Parp.SortFolio
