import Mathlib.Data.List.Induction
import Parp.FrontierScore

set_option autoImplicit false

namespace Parp.FrontierScore

open CheckedWords TransitionRuns List

def Output.promotion : Output → Option Event
  | .decided e => if e.wouldPromote then some e else none
  | _ => none

def promotions (outs : List Output) : List Event := outs.filterMap Output.promotion

def pagesOf (events : List Event) : ℕ := (events.map fun e => e.pages.toNat).sum

def promotedBy (scan : ℕ) (outs : List Output) : ℕ :=
  pagesOf ((promotions outs).filter fun e => e.scan = scan)

def Output.note (events : List Event) : Output → List Event
  | .prepared _ _ true => []
  | out => events ++ out.promotion.toList

def sinceRoll (outs : List Output) : List Event := outs.foldl Output.note []

def Fresh (events : List Event) : Prop :=
  ∀ left first middle second right, events = left ++ first :: (middle ++ second :: right) →
    first.folio = second.folio → first.epochId = second.epochId →
      ∃ e ∈ middle, e.folio = first.folio ∧ e.epochId ≠ first.epochId

def Current (s : System) : Op → Prop
  | .consider scan _ => ∀ ctx ∈ s.ctxs[scan]?, ctx.valid = true → ctx.epochId = s.state.epochId
  | _ => True

instance (s : System) (op : Op) : Decidable (Current s op) :=
  match op with
  | .consider scan _ => inferInstanceAs
      (Decidable (∀ ctx ∈ s.ctxs[scan]?, ctx.valid = true → ctx.epochId = s.state.epochId))
  | .prepare _ | .noteAccess _ _ _ | .feedback _ _ => .isTrue trivial

theorem checkedSub_min (a b : UInt64) : checkedSub a (min b a) = some (a - min b a) :=
  checkedSub_of_le Std.min_le_right

theorem checkedSub_min_left (a b : UInt64) : checkedSub a (min a b) = some (a - min a b) :=
  checkedSub_of_le Std.min_le_left

theorem checkedSub_ulongMax (a : UInt64) : checkedSub ulongMax a = some (ulongMax - a) := by
  refine checkedSub_of_le (UInt64.le_iff_toNat_le.2 ?_)
  have hbound := a.toNat_lt
  change a.toNat ≤ 18446744073709551615
  omega

theorem le_sub_min {pages budget used : UInt64} (h : pages ≤ budget - min used budget)
    (hused : used ≤ budget) : used.toNat + pages.toNat ≤ budget.toNat := by
  have hmin : min used budget = used := if_pos hused
  rw [hmin, UInt64.le_iff_toNat_le, UInt64.toNat_sub_of_le _ _ hused] at h
  have hle := UInt64.le_iff_toNat_le.1 hused
  omega

theorem toNat_add_of_le {a b c : UInt64} (h : a.toNat + b.toNat ≤ c.toNat) :
    (a + b).toNat = a.toNat + b.toNat := by
  have hbound := c.toNat_lt
  rw [UInt64.toNat_add]
  exact Nat.mod_eq_of_lt (by omega)

theorem selectFrom_isSome (demand : UInt64) (etaQ15 : UInt32) (capacities : List UInt64) :
    ∀ i cumulative, (selectFrom demand etaQ15 i cumulative capacities).isSome := by
  induction capacities with
  | nil =>
    intro i cumulative
    rfl
  | cons capacity capacities ih =>
    intro i cumulative
    unfold selectFrom
    simp only [checkedSub_min_left, checkedSub_ulongMax, Option.bind_eq_bind, Option.bind_some]
    split_ifs with hle
    · rw [checkedSub_of_le hle]
      rfl
    · exact ih _ _

theorem foldlM_isSome {α β : Type} {f : β → α → Option β} (h : ∀ b a, (f b a).isSome)
    (xs : List α) (b : β) : (xs.foldlM f b).isSome := by
  induction xs generalizing b with
  | nil => rfl
  | cons a xs ih =>
    obtain ⟨b', hb⟩ := Option.isSome_iff_exists.1 (h b a)
    rw [foldlM_cons, hb]
    exact ih b'

theorem mapM_isSome {α β : Type} {f : α → Option β} (h : ∀ a, (f a).isSome) (xs : List α) :
    (xs.mapM f).isSome := by
  induction xs with
  | nil => rfl
  | cons a xs ih =>
    obtain ⟨b, hb⟩ := Option.isSome_iff_exists.1 (h a)
    obtain ⟨bs, hbs⟩ := Option.isSome_iff_exists.1 ih
    rw [mapM_cons, hb, hbs]
    rfl

theorem capacity_isSome (lrugen : Lrugen) (reclaimIdx gen : ℕ) :
    (capacity lrugen reclaimIdx gen).isSome := by
  refine foldlM_isSome ?_ _ _
  intro sum zone
  rw [checkedSub_ulongMax]
  rfl

theorem chooseFrontier_isSome (lrugen : Lrugen) (reclaimIdx : ℕ) (demand : UInt64)
    (etaQ15 : UInt32) : (chooseFrontier lrugen reclaimIdx demand etaQ15).isSome := by
  unfold chooseFrontier
  obtain ⟨capacities, hcapacities⟩ := Option.isSome_iff_exists.1
    (mapM_isSome (fun i : ℕ => capacity_isSome lrugen reclaimIdx ((lrugen.minSeq.toNat + i) % 4))
      (List.range ((lrugen.maxSeq - 2).toNat + 1 - lrugen.minSeq.toNat)))
  have hselect : (select capacities demand etaQ15).isSome := by
    unfold select
    split_ifs
    · rfl
    · exact selectFrom_isSome _ _ _ _ _
  obtain ⟨chosen, hchosen⟩ := Option.isSome_iff_exists.1 hselect
  dsimp only
  rw [hcapacities, Option.bind_eq_bind, Option.bind_some, hchosen]
  rfl

structure Prepared (state : FrontierState) (ctx : ScanCtx) (state' : FrontierState) : Prop where
  appUsed : ctx.appUsed = 0
  batchUsed : ctx.batchUsed = 0
  epochBudget : ctx.valid = true → ctx.epochBudget = epochPages
  started : ctx.valid = true → Rolls state ctx → state'.epochPages = 0
  kept : (ctx.valid = true → ¬ Rolls state ctx) →
    state'.epochPages = state.epochPages ∧ state'.epochId = state.epochId

theorem admit_prepared (state rolled : FrontierState) (ctx : ScanCtx) (validUntilNs : UInt64)
    (happ : ctx.appUsed = 0) (hbatch : ctx.batchUsed = 0)
    (hstarted : Rolls state ctx → rolled.epochPages = 0)
    (hkept : ¬ Rolls state ctx → rolled = state) :
    Prepared state (admitScan rolled ctx validUntilNs).1 (admitScan rolled ctx validUntilNs).2 where
  appUsed := happ
  batchUsed := hbatch
  epochBudget _ := rfl
  started _ := hstarted
  kept h := by
    have hstate := hkept (h rfl)
    subst hstate
    exact ⟨rfl, rfl⟩

variable {ctx : ScanCtx} {state : FrontierState} {s s' : System} {ext : FolioExt}
  {done : Considered}

theorem rollEpoch_started (h : Rolls state ctx) : (rollEpoch state ctx).epochPages = 0 := by
  unfold rollEpoch
  rw [if_pos h]

theorem rollEpoch_kept (h : ¬ Rolls state ctx) : rollEpoch state ctx = state :=
  if_neg h

theorem bypass_prepared (state : FrontierState) (hvalid : ctx.valid = false)
    (happ : ctx.appUsed = 0) (hbatch : ctx.batchUsed = 0) : Prepared state ctx state where
  appUsed := happ
  batchUsed := hbatch
  epochBudget h := absurd (hvalid.symm.trans h) Bool.false_ne_true
  started h := absurd (hvalid.symm.trans h) Bool.false_ne_true
  kept _ := ⟨rfl, rfl⟩

theorem prepare_spec (state : FrontierState) (input : PrepareInput) :
    ∃ ctx state', prepare state input = some (ctx, state') ∧ Prepared state ctx state' := by
  unfold prepare
  dsimp only
  by_cases hmemcg : input.targetMemcg = false
  · rw [if_pos hmemcg]
    exact ⟨_, _, rfl, bypass_prepared state rfl rfl rfl⟩
  rw [if_neg hmemcg]
  by_cases hpriority : input.reclaimPriority ≤ pressurePriority
  · rw [if_pos hpriority]
    exact ⟨_, _, rfl, bypass_prepared state rfl rfl rfl⟩
  rw [if_neg hpriority]
  by_cases hdemand : input.remainingDemand = 0
  · rw [if_pos hdemand]
    exact ⟨_, _, rfl, bypass_prepared state rfl rfl rfl⟩
  rw [if_neg hdemand]
  cases if input.domainId = 0 then none else input.app with
  | none => exact ⟨_, _, rfl, bypass_prepared state rfl rfl rfl⟩
  | some app =>
    dsimp only
    by_cases hsamples : state.efficiencySamples = 0
    · rw [if_pos hsamples]
      exact ⟨_, _, rfl, bypass_prepared state rfl rfl rfl⟩
    rw [if_neg hsamples]
    cases validModel app.appId with
    | none => exact ⟨_, _, rfl, bypass_prepared state rfl rfl rfl⟩
    | some model =>
      obtain ⟨chosen, hchosen⟩ := Option.isSome_iff_exists.1
        (chooseFrontier_isSome input.lrugen input.reclaimIdx input.remainingDemand
          state.efficiencyQ15)
      dsimp only
      rw [hchosen]
      cases chosen with
      | none => exact ⟨_, _, rfl, bypass_prepared state rfl rfl rfl⟩
      | some frontier =>
        exact ⟨_, _, rfl, admit_prepared state _ _ _ rfl rfl rollEpoch_started
          rollEpoch_kept⟩

structure Left (ctx : ScanCtx) (state : FrontierState) (ext : FolioExt) (done : Considered) :
    Prop where
  wouldPromote : done.wouldPromote = false
  keepsCtx : done.ctx = ctx
  keepsState : done.state = state
  mark : done.ext.lastSelectedEpoch = ext.lastSelectedEpoch

/-- A folio is selected: it fits every budget and was not selected for this epoch last. -/
structure Selected (ctx : ScanCtx) (state : FrontierState) (ext : FolioExt) (pages : UInt64)
    (done : Considered) : Prop where
  wouldPromote : done.wouldPromote = true
  valid : ctx.valid = true
  marked : ext.lastSelectedEpoch ≠ ctx.epochId
  headroom : pages ≤ ctx.frontierHeadroom
  app : pages ≤ ctx.appBudget - min ctx.appUsed ctx.appBudget
  batch : pages ≤ ctx.batchBudget - min ctx.batchUsed ctx.batchBudget
  epoch : pages ≤ ctx.epochBudget - min state.epochPages ctx.epochBudget
  spends : done.ctx =
    { ctx with
      frontierHeadroom := ctx.frontierHeadroom - pages
      batchUsed := ctx.batchUsed + pages
      appUsed := ctx.appUsed + pages }
  counts : done.state = { state with epochPages := state.epochPages + pages }
  mark : done.ext.lastSelectedEpoch = ctx.epochId

theorem charge_spec (hvalid : ctx.valid = true) (state : FrontierState) (ext : FolioExt)
    (pages : UInt64) :
    ∃ done, charge ctx state ext pages = some done ∧
      (Left ctx state ext done ∨ Selected ctx state ext pages done) := by
  unfold charge
  by_cases hmark : ext.lastSelectedEpoch = ctx.epochId
  · rw [if_pos hmark]
    exact ⟨_, rfl, .inl ⟨rfl, rfl, rfl, rfl⟩⟩
  · rw [if_neg hmark]
    unfold allowed budgetMin
    simp only [checkedSub_min, Option.bind_eq_bind, Option.bind_some, Option.pure_def]
    split_ifs with hlimit
    · exact ⟨_, rfl, .inl ⟨rfl, rfl, rfl, rfl⟩⟩
    · obtain ⟨⟨hheadroom, happ⟩, hbatch, hepoch⟩ := by
        simpa only [Std.le_min_iff] using UInt64.not_lt.1 hlimit
      rw [checkedSub_of_le hheadroom]
      exact ⟨_, rfl, .inr ⟨rfl, hvalid, hmark, hheadroom, happ, hbatch, hepoch, rfl, rfl, rfl⟩⟩

theorem features_mark {maxSeq now : UInt64} {ext ext' : FolioExt} {values : List ℤ}
    (h : features ctx maxSeq now ext = some (values, ext')) :
    ext'.lastSelectedEpoch = ext.lastSelectedEpoch := by
  unfold features at h
  split_ifs at h
  cases h
  rfl

theorem consider_spec (ctx : ScanCtx) (state : FrontierState) (ext : FolioExt)
    (input : ConsiderInput) :
    ∃ done, consider ctx state ext input = some done ∧
      (Left ctx state ext done ∨ Selected ctx state ext input.pages done) := by
  unfold consider
  cases hvalid : ctx.valid with
  | false => exact ⟨_, rfl, .inl ⟨rfl, rfl, rfl, rfl⟩⟩
  | true =>
    rw [if_neg nofun]
    by_cases hcontext : contextValid input.now ctx.validUntilNs ctx.sourceSeq input.lrugen.minSeq
    swap
    · rw [if_pos hcontext]
      exact ⟨_, rfl, .inl ⟨rfl, rfl, rfl, rfl⟩⟩
    rw [if_neg (not_not.2 hcontext)]
    by_cases hfrontier : ctx.sourceSeq = ctx.frontierSeq
    swap
    · rw [if_pos hfrontier]
      exact ⟨_, rfl, .inl ⟨rfl, rfl, rfl, rfl⟩⟩
    rw [if_neg (not_not.2 hfrontier)]
    generalize hread : (if input.hasExt then
      features ctx input.lrugen.maxSeq input.featureNow ext else none) = read
    cases read with
    | none => exact ⟨_, rfl, .inl ⟨rfl, rfl, rfl, rfl⟩⟩
    | some read =>
      have hmark : read.2.lastSelectedEpoch = ext.lastSelectedEpoch := by
        split_ifs at hread
        exact features_mark hread
      dsimp only
      cases validModel ctx.appId with
      | none => exact ⟨_, rfl, .inl ⟨rfl, rfl, rfl, hmark⟩⟩
      | some model =>
        dsimp only
        split_ifs with hscore
        · exact ⟨_, rfl, .inl ⟨rfl, rfl, rfl, hmark⟩⟩
        · obtain ⟨done, hdone, hleft | hselected⟩ :=
            charge_spec hvalid state read.2 input.pages
          · exact ⟨done, hdone, .inl { hleft with mark := hleft.mark.trans hmark }⟩
          · exact ⟨done, hdone,
              .inr { hselected with marked := hmark ▸ hselected.marked }⟩

structure Quiet (s : System) (out : Output) (s' : System) : Prop where
  shown : out = .silent ∨ ∃ e : Event, out = .decided e ∧ e.wouldPromote = false
  ctxs : s'.ctxs = s.ctxs
  epochPages : s'.state.epochPages = s.state.epochPages
  epochId : s'.state.epochId = s.state.epochId
  marks : ∀ folio, (s'.exts folio).lastSelectedEpoch = (s.exts folio).lastSelectedEpoch

theorem Quiet.promotion {out : Output} (h : Quiet s out s') : out.promotion = none := by
  rcases h.shown with rfl | ⟨e, rfl, he⟩
  · rfl
  · exact if_neg (by rw [he]; exact Bool.noConfusion)

theorem Quiet.unwrapped {out : Output} (h : Quiet s out s') : out ≠ .wrapped := by
  intro hout
  rcases h.shown with hshown | ⟨e, hshown, -⟩
  · cases hout.symm.trans hshown
  · cases hout.symm.trans hshown

theorem Quiet.begins {out : Output} (h : Quiet s out s') (scan : ℕ) (ctx : ScanCtx)
    (rolled : Bool) : out ≠ .prepared scan ctx rolled := by
  intro hout
  rcases h.shown with hshown | ⟨e, hshown, -⟩
  · cases hout.symm.trans hshown
  · cases hout.symm.trans hshown

theorem update_mark {exts : ℕ → FolioExt} {folio : ℕ}
    (h : ext.lastSelectedEpoch = (exts folio).lastSelectedEpoch) (other : ℕ) :
    (Function.update exts folio ext other).lastSelectedEpoch = (exts other).lastSelectedEpoch := by
  by_cases hother : other = folio
  · subst hother
    rw [Function.update_self, h]
  · rw [Function.update_of_ne hother]

theorem prepare_step (s : System) (input : PrepareInput) :
    ∃ ctx state', Prepared s.state ctx state' ∧ step s (.prepare input) =
      (.prepared s.ctxs.length ctx (ctx.valid && decide (Rolls s.state ctx)),
        { s with state := state', ctxs := s.ctxs ++ [ctx] }) := by
  obtain ⟨ctx, state', hprepare, hprepared⟩ := prepare_spec s.state input
  refine ⟨ctx, state', hprepared, ?_⟩
  simp only [step, hprepare]

theorem consider_step (s : System) (scan : ℕ) (input : ConsiderInput) :
    Quiet s (step s (.consider scan input)).1 (step s (.consider scan input)).2 ∨
    ∃ ctx done, s.ctxs[scan]? = some ctx ∧
      Selected ctx s.state (s.exts input.folio) input.pages done ∧
      step s (.consider scan input) =
        (.decided ⟨scan, input.folio, input.pages, ctx.epochId, done.reason, true⟩,
          { state := done.state
            ctxs := s.ctxs.set scan done.ctx
            exts := Function.update s.exts input.folio done.ext }) := by
  simp only [step]
  cases hctx : s.ctxs[scan]? with
  | none => exact .inl ⟨.inl rfl, rfl, rfl, rfl, fun _ => rfl⟩
  | some ctx =>
    obtain ⟨done, hdone, hleft | hselected⟩ :=
      consider_spec ctx s.state (s.exts input.folio) input
    · simp only [hdone]
      refine .inl ⟨.inr ⟨_, rfl, hleft.wouldPromote⟩, ?_, ?_, ?_, update_mark hleft.mark⟩
      · obtain ⟨hlt, rfl⟩ := List.getElem?_eq_some_iff.1 hctx
        rw [hleft.keepsCtx]
        exact set_getElem_self hlt
      · rw [hleft.keepsState]
      · rw [hleft.keepsState]
    · simp only [hdone]
      refine .inr ⟨ctx, done, rfl, hselected, ?_⟩
      rw [hselected.wouldPromote]

theorem noteAccess_mark (ext : FolioExt) (now : UInt64) (generation : ℤ) :
    (noteAccess ext now generation).lastSelectedEpoch = ext.lastSelectedEpoch := by
  unfold noteAccess
  dsimp only
  split_ifs <;> rfl

theorem noteAccess_step (s : System) (folio : ℕ) (now : UInt64) (generation : ℤ) :
    Quiet s (step s (.noteAccess folio now generation)).1
      (step s (.noteAccess folio now generation)).2 :=
  ⟨.inl rfl, rfl, rfl, rfl, update_mark (noteAccess_mark _ now generation)⟩

theorem feedback_keeps (state : FrontierState) (isolated reclaimed : UInt64) :
    ((feedback state isolated reclaimed).getD state).epochPages = state.epochPages ∧
      ((feedback state isolated reclaimed).getD state).epochId = state.epochId := by
  unfold feedback
  by_cases hzero : isolated = 0
  · rw [if_pos hzero]
    exact ⟨rfl, rfl⟩
  · rw [if_neg hzero]
    cases mulU64U32Div reclaimed q15One isolated.toUInt32 <;> exact ⟨rfl, rfl⟩

theorem feedback_step (s : System) (isolated reclaimed : UInt64) :
    Quiet s (step s (.feedback isolated reclaimed)).1 (step s (.feedback isolated reclaimed)).2 :=
  ⟨.inl rfl, rfl, (feedback_keeps s.state isolated reclaimed).1,
    (feedback_keeps s.state isolated reclaimed).2, fun _ => rfl⟩

section

variable {outs : List Output} {out : Output}

theorem promotions_concat (outs : List Output) (out : Output) :
    promotions (outs ++ [out]) = promotions outs ++ out.promotion.toList := by
  unfold promotions
  rw [filterMap_append]
  cases h : out.promotion with
  | none => rw [filterMap_cons_none h]; rfl
  | some e => rw [filterMap_cons_some h]; rfl

theorem pagesOf_append (left right : List Event) :
    pagesOf (left ++ right) = pagesOf left + pagesOf right := by
  unfold pagesOf
  rw [map_append, sum_append]

theorem sinceRoll_concat (outs : List Output) (out : Output) :
    sinceRoll (outs ++ [out]) = out.note (sinceRoll outs) := by
  unfold sinceRoll
  rw [foldl_append]
  rfl

theorem promotedBy_concat (scan : ℕ) (outs : List Output) (out : Output) :
    promotedBy scan (outs ++ [out]) =
      promotedBy scan outs + pagesOf (out.promotion.toList.filter fun e => e.scan = scan) := by
  unfold promotedBy
  rw [promotions_concat, filter_append, pagesOf_append]

def lastMark (exts : ℕ → FolioExt) (events : List Event) (folio : ℕ) : UInt64 :=
  match (events.filter fun e => e.folio = folio).getLast? with
  | none => (exts folio).lastSelectedEpoch
  | some e => e.epochId

theorem lastMark_concat (exts : ℕ → FolioExt) (events : List Event) (e : Event) (folio : ℕ) :
    lastMark exts (events ++ [e]) folio =
      if e.folio = folio then e.epochId else lastMark exts events folio := by
  unfold lastMark
  rw [filter_append]
  split_ifs with h
  · rw [filter_singleton, decide_eq_true h, cond_true, getLast?_concat]
  · rw [filter_singleton, decide_eq_false h, cond_false, append_nil]

theorem fresh_concat {exts : ℕ → FolioExt} {events : List Event} {e : Event} (h : Fresh events)
    (hmark : lastMark exts events e.folio ≠ e.epochId) : Fresh (events ++ [e]) := by
  intro left first middle second right hsplit hfolio hepoch
  rcases eq_nil_or_concat' right with rfl | ⟨right, last, rfl⟩
  · -- The second selection is the new one: the last before it was for another epoch.
    have hconcat : events ++ [e] = (left ++ first :: middle) ++ [second] := by
      rw [hsplit]
      simp
    obtain ⟨rfl, hsecond⟩ := append_inj' hconcat rfl
    obtain ⟨rfl⟩ := List.cons.inj hsecond
    by_contra hnone
    push Not at hnone
    refine hmark ?_
    have hlast : ∀ events : List Event, (∀ e ∈ events, e.folio = first.folio →
        e.epochId = first.epochId) →
        lastMark exts (left ++ [first] ++ events) first.folio = first.epochId := by
      intro events
      induction events using List.reverseRecOn with
      | nil =>
        intro _
        rw [append_nil, lastMark_concat, if_pos rfl]
      | append_singleton events e ih =>
        intro hall
        rw [← append_assoc, lastMark_concat]
        split_ifs with he
        · exact hall e (by simp) he
        · exact ih fun e' he' => hall e' (by simp [he'])
    have hfirst := hlast middle hnone
    rw [append_assoc, singleton_append] at hfirst
    rw [← hfolio, ← hepoch]
    exact hfirst
  · have hconcat : events ++ [e] = (left ++ first :: (middle ++ second :: right)) ++ [last] := by
      rw [hsplit]
      simp
    obtain ⟨hevents, -⟩ := append_inj' hconcat rfl
    exact h left first middle second right hevents hfolio hepoch

end

structure Sound (ctx : ScanCtx) : Prop where
  app : ctx.appUsed ≤ ctx.appBudget
  batch : ctx.batchUsed ≤ ctx.batchBudget
  epochBudget : ctx.valid = true → ctx.epochBudget = epochPages

structure Spent (start now : ScanCtx) (pages : ℕ) : Prop where
  headroom : now.frontierHeadroom.toNat + pages = start.frontierHeadroom.toNat
  app : now.appUsed.toNat = pages
  batch : now.batchUsed.toNat = pages
  appBudget : now.appBudget = start.appBudget
  batchBudget : now.batchBudget = start.batchBudget

structure Accounted (exts : ℕ → FolioExt) (s : System) (outs : List Output) : Prop where
  unwrapped : .wrapped ∉ outs
  marks : ∀ folio, (s.exts folio).lastSelectedEpoch = lastMark exts (promotions outs) folio
  fresh : Fresh (promotions outs)
  epoch : pagesOf (sinceRoll outs) = s.state.epochPages.toNat
  epochBudget : s.state.epochPages ≤ epochPages
  sound : ∀ ctx ∈ s.ctxs, Sound ctx
  known : ∀ e ∈ promotions outs, e.scan < s.ctxs.length
  spent : ∀ scan start rolled, .prepared scan start rolled ∈ outs →
    ∃ now, s.ctxs[scan]? = some now ∧ Spent start now (promotedBy scan outs)

theorem selected_sound {pages : UInt64} (h : Sound ctx)
    (hselected : Selected ctx state ext pages done) : Sound done.ctx := by
  have happ := le_sub_min hselected.app h.app
  have hbatch := le_sub_min hselected.batch h.batch
  rw [hselected.spends]
  constructor
  · change ctx.appUsed + pages ≤ ctx.appBudget
    rw [UInt64.le_iff_toNat_le, toNat_add_of_le happ]
    exact happ
  · change ctx.batchUsed + pages ≤ ctx.batchBudget
    rw [UInt64.le_iff_toNat_le, toNat_add_of_le hbatch]
    exact hbatch
  · exact h.epochBudget

theorem selected_spent {start ctx : ScanCtx} {pages : UInt64} {n : ℕ} (h : Sound ctx)
    (hspent : Spent start ctx n) (hselected : Selected ctx state ext pages done) :
    Spent start done.ctx (n + pages.toNat) := by
  have happ := le_sub_min hselected.app h.app
  have hbatch := le_sub_min hselected.batch h.batch
  have hheadroom := UInt64.le_iff_toNat_le.1 hselected.headroom
  rw [hselected.spends]
  constructor
  · change (ctx.frontierHeadroom - pages).toNat + _ = _
    have hstart := hspent.headroom
    rw [UInt64.toNat_sub_of_le _ _ hselected.headroom]
    omega
  · change (ctx.appUsed + pages).toNat = _
    rw [toNat_add_of_le happ, hspent.app]
  · change (ctx.batchUsed + pages).toNat = _
    rw [toNat_add_of_le hbatch, hspent.batch]
  · exact hspent.appBudget
  · exact hspent.batchBudget

variable (exts : ℕ → FolioExt) (ops : List Op)

theorem accounted_init : Accounted exts { exts := exts } [] where
  unwrapped := not_mem_nil
  marks _ := rfl
  fresh := by
    intro left first middle second right hsplit
    cases left <;> cases hsplit
  epoch := rfl
  epochBudget := UInt64.zero_le
  sound _ h := absurd h not_mem_nil
  known _ h := absurd h not_mem_nil
  spent _ _ _ h := absurd h not_mem_nil

theorem sinceRoll_quiet {outs : List Output} {out : Output} (h : Quiet s out s') :
    sinceRoll (outs ++ [out]) = sinceRoll outs := by
  have hnone := h.promotion
  rw [sinceRoll_concat]
  cases out with
  | prepared scan ctx rolled => exact absurd rfl (h.begins scan ctx rolled)
  | decided e =>
    change sinceRoll outs ++ (Output.decided e).promotion.toList = _
    rw [hnone]
    exact append_nil _
  | wrapped => exact append_nil _
  | silent => exact append_nil _

theorem accounted_quiet {exts : ℕ → FolioExt} {outs : List Output} {out : Output}
    (h : Accounted exts s outs) (hquiet : Quiet s out s') : Accounted exts s' (outs ++ [out]) := by
  have hpromotions : promotions (outs ++ [out]) = promotions outs := by
    rw [promotions_concat, hquiet.promotion]
    exact append_nil _
  refine ⟨?_, ?_, ?_, ?_, ?_, ?_, ?_, ?_⟩
  · rw [mem_append, mem_singleton]
    exact fun hmem => hmem.elim h.unwrapped fun heq => hquiet.unwrapped heq.symm
  · intro folio
    rw [hquiet.marks, hpromotions]
    exact h.marks folio
  · rw [hpromotions]
    exact h.fresh
  · rw [sinceRoll_quiet hquiet, hquiet.epochPages]
    exact h.epoch
  · rw [hquiet.epochPages]
    exact h.epochBudget
  · rw [hquiet.ctxs]
    exact h.sound
  · rw [hpromotions, hquiet.ctxs]
    exact h.known
  · intro scan start rolled hmem
    rw [mem_append, mem_singleton] at hmem
    have hold := hmem.resolve_right fun heq => hquiet.begins scan start rolled heq.symm
    unfold promotedBy
    rw [hquiet.ctxs, hpromotions]
    exact h.spent scan start rolled hold

theorem accounted_prepare {exts : ℕ → FolioExt} {s : System} {outs : List Output}
    {state' : FrontierState} (h : Accounted exts s outs) (hprepared : Prepared s.state ctx state') :
    Accounted exts { s with state := state', ctxs := s.ctxs ++ [ctx] }
      (outs ++ [.prepared s.ctxs.length ctx (ctx.valid && decide (Rolls s.state ctx))]) := by
  generalize hroll : (ctx.valid && decide (Rolls s.state ctx)) = rolled
  have hpromotions : promotions (outs ++ [.prepared s.ctxs.length ctx rolled]) =
      promotions outs := by
    rw [promotions_concat]
    exact append_nil _
  refine ⟨?_, ?_, ?_, ?_, ?_, ?_, ?_, ?_⟩
  · rw [mem_append, mem_singleton]
    exact fun hmem => hmem.elim h.unwrapped Output.noConfusion
  · rw [hpromotions]
    exact h.marks
  · rw [hpromotions]
    exact h.fresh
  · rw [sinceRoll_concat]
    cases rolled with
    | true =>
      rw [Bool.and_eq_true, decide_eq_true_iff] at hroll
      change 0 = state'.epochPages.toNat
      rw [hprepared.started hroll.1 hroll.2]
      rfl
    | false =>
      rw [Bool.and_eq_false_iff, decide_eq_false_iff_not] at hroll
      have hkept := hprepared.kept fun hvalid =>
        hroll.resolve_left (by rw [hvalid]; exact Bool.noConfusion)
      change pagesOf (sinceRoll outs ++ []) = state'.epochPages.toNat
      rw [append_nil, hkept.1]
      exact h.epoch
  · change state'.epochPages ≤ epochPages
    by_cases hrolls : ctx.valid = true ∧ Rolls s.state ctx
    · rw [hprepared.started hrolls.1 hrolls.2]
      decide
    · rw [(hprepared.kept fun hvalid hroll => hrolls ⟨hvalid, hroll⟩).1]
      exact h.epochBudget
  · intro other hother
    rcases mem_append.1 hother with hold | hnew
    · exact h.sound other hold
    · obtain rfl := mem_singleton.1 hnew
      refine ⟨?_, ?_, hprepared.epochBudget⟩
      · rw [hprepared.appUsed]
        exact UInt64.zero_le
      · rw [hprepared.batchUsed]
        exact UInt64.zero_le
  · intro e he
    rw [hpromotions] at he
    rw [length_append]
    exact Nat.lt_add_right 1 (h.known e he)
  · intro scan start started hmem
    unfold promotedBy
    rw [hpromotions]
    rcases mem_append.1 hmem with hold | hnew
    · obtain ⟨now, hnow, hspent⟩ := h.spent scan start started hold
      have hlt := (List.getElem?_eq_some_iff.1 hnow).1
      exact ⟨now, by rw [getElem?_append_left hlt, hnow], hspent⟩
    · cases mem_singleton.1 hnew
      -- No selection so far is of the new scan.
      have hnone : (promotions outs).filter (fun e => e.scan = s.ctxs.length) = [] := by
        rw [filter_eq_nil_iff]
        intro e he
        rw [decide_eq_true_iff]
        exact Nat.ne_of_lt (h.known e he)
      rw [hnone]
      exact ⟨ctx, getElem?_concat_length, rfl, by rw [hprepared.appUsed]; rfl,
        by rw [hprepared.batchUsed]; rfl, rfl, rfl⟩

theorem accounted_select {exts : ℕ → FolioExt} {s : System} {outs : List Output} {scan : ℕ}
    {input : ConsiderInput} (h : Accounted exts s outs) (hctx : s.ctxs[scan]? = some ctx)
    (hselected : Selected ctx s.state (s.exts input.folio) input.pages done) :
    Accounted exts
      { state := done.state
        ctxs := s.ctxs.set scan done.ctx
        exts := Function.update s.exts input.folio done.ext }
      (outs ++ [.decided ⟨scan, input.folio, input.pages, ctx.epochId, done.reason, true⟩]) := by
  generalize he : (⟨scan, input.folio, input.pages, ctx.epochId, done.reason, true⟩ : Event) = e
  have hpromotion : (Output.decided e).promotion = some e := by
    subst he
    rfl
  have hpromotions : promotions (outs ++ [.decided e]) = promotions outs ++ [e] := by
    rw [promotions_concat, hpromotion]
    rfl
  have hsound := h.sound ctx (mem_of_getElem? hctx)
  have hepoch : s.state.epochPages.toNat + input.pages.toNat ≤ epochPages.toNat := by
    have hle := hselected.epoch
    rw [hsound.epochBudget hselected.valid] at hle
    exact le_sub_min hle h.epochBudget
  have hlt := (List.getElem?_eq_some_iff.1 hctx).1
  refine ⟨?_, ?_, ?_, ?_, ?_, ?_, ?_, ?_⟩
  · rw [mem_append, mem_singleton]
    exact fun hmem => hmem.elim h.unwrapped Output.noConfusion
  · intro folio
    rw [hpromotions, lastMark_concat, ← h.marks folio]
    subst he
    dsimp only
    split_ifs with hfolio
    · subst hfolio
      rw [Function.update_self]
      exact hselected.mark
    · rw [Function.update_of_ne (Ne.symm hfolio)]
  · rw [hpromotions]
    refine @fresh_concat exts _ _ h.fresh ?_
    subst he
    rw [← h.marks]
    exact hselected.marked
  · rw [sinceRoll_concat]
    change pagesOf (sinceRoll outs ++ (Output.decided e).promotion.toList) = _
    rw [hpromotion, pagesOf_append, h.epoch, hselected.counts]
    change _ = (s.state.epochPages + input.pages).toNat
    rw [toNat_add_of_le hepoch]
    subst he
    rfl
  · rw [hselected.counts]
    change s.state.epochPages + input.pages ≤ epochPages
    rw [UInt64.le_iff_toNat_le, toNat_add_of_le hepoch]
    exact hepoch
  · intro other hother
    rcases mem_or_eq_of_mem_set hother with hold | rfl
    · exact h.sound other hold
    · exact selected_sound hsound hselected
  · intro e' he'
    rw [hpromotions, mem_append, mem_singleton] at he'
    rw [length_set]
    rcases he' with hold | rfl
    · exact h.known e' hold
    · subst he
      exact hlt
  · intro other start rolled hmem
    rcases mem_append.1 hmem with hold | hnew
    · obtain ⟨now, hnow, hspent⟩ := h.spent other start rolled hold
      rw [promotedBy_concat, hpromotion]
      by_cases hother : other = scan
      · subst hother
        cases hctx.symm.trans hnow
        refine ⟨done.ctx, getElem?_set_self hlt, ?_⟩
        have hpages : pagesOf ((some e).toList.filter fun e => e.scan = other) =
            input.pages.toNat := by
          subst he
          unfold pagesOf
          simp
        rw [hpages]
        exact selected_spent hsound hspent hselected
      · refine ⟨now, by rw [getElem?_set_ne (Ne.symm hother)]; exact hnow, ?_⟩
        have hpages : pagesOf ((some e).toList.filter fun e => e.scan = other) = 0 := by
          subst he
          unfold pagesOf
          simp [Ne.symm hother]
        rw [hpages, Nat.add_zero]
        exact hspent
    · cases mem_singleton.1 hnew

theorem accounted_step {exts : ℕ → FolioExt} {s : System} {outs : List Output}
    (h : Accounted exts s outs) (op : Op) :
    Accounted exts (step s op).2 (outs ++ [(step s op).1]) := by
  cases op with
  | prepare input =>
    obtain ⟨ctx, state', hprepared, hstep⟩ := prepare_step s input
    rw [hstep]
    exact accounted_prepare h hprepared
  | consider scan input =>
    rcases consider_step s scan input with hquiet | ⟨ctx, done, hctx, hselected, hstep⟩
    · exact accounted_quiet h hquiet
    · rw [hstep]
      exact accounted_select h hctx hselected
  | noteAccess folio now generation =>
    exact accounted_quiet h (noteAccess_step s folio now generation)
  | feedback isolated reclaimed =>
    exact accounted_quiet h (feedback_step s isolated reclaimed)

theorem run_accounted :
    Accounted exts (after step { exts := exts } ops) (outputs step { exts := exts } ops) := by
  induction ops using List.reverseRecOn with
  | nil => exact accounted_init exts
  | append_singleton ops op ih =>
    rw [after_concat, outputs_concat]
    exact accounted_step ih op

/-- The folios selected since the last epoch began are distinct and marked with it. -/
structure Marked (s : System) (outs : List Output) : Prop where
  distinct : ((sinceRoll outs).map Event.folio).Nodup
  marks : ∀ e ∈ sinceRoll outs, (s.exts e.folio).lastSelectedEpoch = s.state.epochId

theorem marked_quiet {outs : List Output} {out : Output} (h : Marked s outs)
    (hquiet : Quiet s out s') : Marked s' (outs ++ [out]) := by
  constructor
  · rw [sinceRoll_quiet hquiet]
    exact h.distinct
  · intro e he
    rw [sinceRoll_quiet hquiet] at he
    rw [hquiet.marks, hquiet.epochId]
    exact h.marks e he

theorem marked_prepare {s : System} {outs : List Output} {state' : FrontierState}
    (h : Marked s outs) (hprepared : Prepared s.state ctx state') :
    Marked { s with state := state', ctxs := s.ctxs ++ [ctx] }
      (outs ++ [.prepared s.ctxs.length ctx (ctx.valid && decide (Rolls s.state ctx))]) := by
  cases hroll : ctx.valid && decide (Rolls s.state ctx) with
  | true =>
    have hnil : sinceRoll (outs ++ [.prepared s.ctxs.length ctx true]) = [] := sinceRoll_concat _ _
    refine ⟨?_, ?_⟩
    · rw [hnil]
      exact nodup_nil
    · rw [hnil]
      exact nofun
  | false =>
    have hsame : sinceRoll (outs ++ [.prepared s.ctxs.length ctx false]) = sinceRoll outs := by
      rw [sinceRoll_concat]
      exact append_nil _
    rw [Bool.and_eq_false_iff, decide_eq_false_iff_not] at hroll
    have hkept := hprepared.kept fun hvalid =>
      hroll.resolve_left (by rw [hvalid]; exact Bool.noConfusion)
    refine ⟨?_, ?_⟩
    · rw [hsame]
      exact h.distinct
    · intro e he
      rw [hsame] at he
      change (s.exts e.folio).lastSelectedEpoch = state'.epochId
      rw [hkept.2]
      exact h.marks e he

theorem marked_select {s : System} {outs : List Output} {scan : ℕ} {input : ConsiderInput}
    (h : Marked s outs) (hcurrent : ctx.epochId = s.state.epochId)
    (hselected : Selected ctx s.state (s.exts input.folio) input.pages done) :
    Marked
      { state := done.state
        ctxs := s.ctxs.set scan done.ctx
        exts := Function.update s.exts input.folio done.ext }
      (outs ++ [.decided ⟨scan, input.folio, input.pages, ctx.epochId, done.reason, true⟩]) := by
  have hsince : sinceRoll
      (outs ++ [.decided ⟨scan, input.folio, input.pages, ctx.epochId, done.reason, true⟩]) =
      sinceRoll outs ++ [⟨scan, input.folio, input.pages, ctx.epochId, done.reason, true⟩] :=
    sinceRoll_concat _ _
  -- A folio already selected in this epoch carries its mark and is refused.
  have hnew : ∀ e ∈ sinceRoll outs, e.folio ≠ input.folio := by
    intro e he heq
    have hmark := h.marks e he
    rw [heq, ← hcurrent] at hmark
    exact hselected.marked hmark
  constructor
  · rw [hsince, map_append, nodup_append]
    refine ⟨h.distinct, pairwise_singleton _ _, ?_⟩
    intro folio hfolio other hother
    obtain ⟨e, he, rfl⟩ := mem_map.1 hfolio
    obtain rfl := mem_singleton.1 hother
    exact hnew e he
  · intro e he
    have hepoch : done.state.epochId = s.state.epochId := by
      rw [hselected.counts]
    rw [hsince, mem_append, mem_singleton] at he
    change (Function.update s.exts input.folio done.ext e.folio).lastSelectedEpoch =
      done.state.epochId
    rw [hepoch]
    rcases he with hold | rfl
    · rw [Function.update_of_ne (hnew e hold)]
      exact h.marks e hold
    · rw [Function.update_self, hselected.mark]
      exact hcurrent

theorem marked_step {s : System} {outs : List Output} (h : Marked s outs) {op : Op}
    (hcurrent : Current s op) : Marked (step s op).2 (outs ++ [(step s op).1]) := by
  cases op with
  | prepare input =>
    obtain ⟨ctx, state', hprepared, hstep⟩ := prepare_step s input
    rw [hstep]
    exact marked_prepare h hprepared
  | consider scan input =>
    rcases consider_step s scan input with hquiet | ⟨ctx, done, hctx, hselected, hstep⟩
    · exact marked_quiet h hquiet
    · rw [hstep]
      exact marked_select h (hcurrent ctx hctx hselected.valid) hselected
  | noteAccess folio now generation =>
    exact marked_quiet h (noteAccess_step s folio now generation)
  | feedback isolated reclaimed => exact marked_quiet h (feedback_step s isolated reclaimed)

theorem run_marked (hcurrent : Along step Current { exts := exts } ops) :
    Marked (after step { exts := exts } ops) (outputs step { exts := exts } ops) := by
  induction ops using List.reverseRecOn with
  | nil => exact ⟨nodup_nil, nofun⟩
  | append_singleton ops op ih =>
    obtain ⟨hbefore, hlast, -⟩ := (along_append step _ _ _ _).1 hcurrent
    rw [after_concat, outputs_concat]
    exact marked_step (ih hbefore) hlast

/-- The budgets of every run. A folio is selected again for an epoch only after it was selected
for another one, and not at all while no scan outlives its epoch. -/
theorem frontier_budgets (exts : ℕ → FolioExt) (ops : List Op) :
    (.wrapped ∉ outputs step { exts := exts } ops) ∧
    (∀ scan ctx rolled, .prepared scan ctx rolled ∈ outputs step { exts := exts } ops →
      promotedBy scan (outputs step { exts := exts } ops) ≤
        min ctx.frontierHeadroom.toNat (min ctx.appBudget.toNat ctx.batchBudget.toNat)) ∧
    (pagesOf (sinceRoll (outputs step { exts := exts } ops)) =
        (after step { exts := exts } ops).state.epochPages.toNat ∧
      (after step { exts := exts } ops).state.epochPages ≤ epochPages) ∧
    Fresh (promotions (outputs step { exts := exts } ops)) ∧
    (Along step Current { exts := exts } ops →
      ((sinceRoll (outputs step { exts := exts } ops)).map Event.folio).Nodup) := by
  have haccounted := run_accounted exts ops
  refine ⟨haccounted.unwrapped, ?_, ⟨haccounted.epoch, haccounted.epochBudget⟩, haccounted.fresh,
    fun hcurrent => (run_marked exts ops hcurrent).distinct⟩
  intro scan ctx rolled hmem
  obtain ⟨now, hnow, hspent⟩ := haccounted.spent scan ctx rolled hmem
  have hsound := haccounted.sound now (mem_of_getElem? hnow)
  have hheadroom := hspent.headroom
  have happ := UInt64.le_iff_toNat_le.1 hsound.app
  have hbatch := UInt64.le_iff_toNat_le.1 hsound.batch
  rw [hspent.app, hspent.appBudget] at happ
  rw [hspent.batch, hspent.batchBudget] at hbatch
  omega

def someGens : Lrugen := { maxSeq := 6, minSeq := 3, nrPages := fun _ _ => 1000 }

def somePrepare (foregroundEpochId : UInt64) : PrepareInput :=
  { now := 100, targetMemcg := true, reclaimPriority := 12, reclaimIdx := 0, remainingDemand := 10
    domainId := 5, app := some ⟨1, foregroundEpochId, 32767⟩, lrugen := someGens }

def someFolio : ConsiderInput :=
  { folio := 0, pages := 2, now := 200, featureNow := 200, hasExt := true, lrugen := someGens }

def warmUp : List Op := [.feedback 10 10, .noteAccess 0 50 1, .noteAccess 0 60 1]

def twoScans : List Op :=
  warmUp ++ [.prepare (somePrepare 1), .consider 0 someFolio, .consider 0 someFolio,
    .prepare (somePrepare 2), .consider 1 someFolio]

def firstScan : ScanCtx :=
  { valid := true, reason := .score, modelVersion := 1, threshold := 94, efficiencyQ15 := 32767
    appReentryQ15 := 32767, appId := 1, domainId := 5, epochId := 1, foregroundEpochId := 1
    validUntilNs := 50000100, sourceSeq := 3, frontierSeq := 3, remainingDemand := 10
    frontierHeadroom := 990, appBudget := 128, batchBudget := 128, epochBudget := 512 }

theorem twoScans_budgets :
    promotedBy 0 (outputs step {} twoScans) ≤ 128 ∧
      ((sinceRoll (outputs step {} twoScans)).map Event.folio).Nodup := by
  have hbudgets := frontier_budgets (fun _ => {}) twoScans
  have hprepared : .prepared 0 firstScan true ∈ outputs step {} twoScans := by decide +kernel
  have hcurrent : Along step Current {} twoScans := by decide +kernel
  exact ⟨hbudgets.2.1 0 firstScan true hprepared, hbudgets.2.2.2.2 hcurrent⟩

def interleavedScans : List Op :=
  warmUp ++ [.prepare (somePrepare 1), .consider 0 someFolio, .prepare (somePrepare 2),
    .consider 1 someFolio, .consider 0 someFolio]

theorem interleaved_reselects : ¬ ∀ ops : List Op, (promotions (outputs step {} ops)).Pairwise
    fun e e' => ¬ (e.folio = e'.folio ∧ e.epochId = e'.epochId) := by
  intro h
  exact absurd (h interleavedScans) (by decide +kernel)

end Parp.FrontierScore
