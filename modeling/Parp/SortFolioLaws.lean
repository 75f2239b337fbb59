import Parp.SortFolio
import Mathlib.Algebra.BigOperators.Group.Finset.Basic
import Mathlib.Data.Fintype.Basic
import Mathlib.Tactic.Ring

set_option autoImplicit false

namespace Parp.SortFolio

abbrev Gen := Fin maxNrGens

section

variable (pages : ℕ → ℕ)

def listed (slice : LruvecSlice) : Finset ℕ :=
  Finset.univ.biUnion fun g => (slice.lists g).toFinset

def share (folio : ℕ) (gen : Option Gen) (g : Gen) : ℤ := if gen = some g then pages folio else 0

def pagesNamed (slice : LruvecSlice) (g : Gen) : ℤ :=
  ∑ folio ∈ listed slice, share pages folio (slice.flags folio).gen g

/-- What holds of the folios but for the one a sort is busy with, and of the counters, which are
behind by `debt`. -/
structure Balanced (busy : Option ℕ) (debt : Gen → ℤ) (slice : LruvecSlice) : Prop where
  once : ∀ g, (slice.lists g).Nodup
  apart : ∀ folio g g', folio ∈ slice.lists g → folio ∈ slice.lists g' → g = g'
  alive : ∀ g, ∀ folio ∈ slice.lists g, busy ≠ some folio → (slice.flags folio).gen.isSome = true
  placed : ∀ g, ∀ folio ∈ slice.lists g, busy ≠ some folio → slice.late folio = false →
    (slice.flags folio).gen = some g
  counted : ∀ g, slice.nrPages g + slice.owed g + debt g = pagesNamed pages slice g

def Accounted (slice : LruvecSlice) : Prop := Balanced pages none (fun _ => 0) slice

variable {slice : LruvecSlice} {folio : ℕ}

theorem share_some (gen g : Gen) :
    share pages folio (some gen) g = if g = gen then (pages folio : ℤ) else 0 := by
  simp [share, eq_comm]

@[simp] theorem mem_listed : folio ∈ listed slice ↔ ∃ g, folio ∈ slice.lists g := by
  simp [listed]

theorem pagesNamed_update (flags : FolioFlags) (hlisted : folio ∈ listed slice) (g : Gen) :
    pagesNamed pages { slice with flags := Function.update slice.flags folio flags } g =
      pagesNamed pages slice g - share pages folio (slice.flags folio).gen g +
        share pages folio flags.gen g := by
  have hothers : ∑ other ∈ (listed slice).erase folio,
      share pages other (Function.update slice.flags folio flags other).gen g =
        ∑ other ∈ (listed slice).erase folio, share pages other (slice.flags other).gen g := by
    refine Finset.sum_congr rfl fun other hother => ?_
    rw [Function.update_of_ne (Finset.ne_of_mem_erase hother)]
  have hbefore := Finset.add_sum_erase (listed slice)
    (fun other => share pages other (slice.flags other).gen g) hlisted
  have hafter := Finset.add_sum_erase (listed slice)
    (fun other => share pages other (Function.update slice.flags folio flags other).gen g) hlisted
  rw [hothers, Function.update_self] at hafter
  change ∑ other ∈ listed slice,
    share pages other (Function.update slice.flags folio flags other).gen g = _
  unfold pagesNamed
  rw [← hafter, ← hbefore]
  ring

theorem pagesNamed_touch {flags : FolioFlags} (hgen : flags.gen = (slice.flags folio).gen)
    (g : Gen) :
    pagesNamed pages { slice with flags := Function.update slice.flags folio flags } g =
      pagesNamed pages slice g := by
  refine Finset.sum_congr rfl fun other _ => ?_
  by_cases hother : other = folio
  · subst hother
    change share pages other (Function.update slice.flags other flags other).gen g = _
    rw [Function.update_self, hgen]
  · change share pages other (Function.update slice.flags folio flags other).gen g = _
    rw [Function.update_of_ne hother]

end

/-- In the middle of a sort: the folio is still on the oldest list, and its flags named `seen` when
they were last looked at. -/
structure Holding (input : SortInput) (seen : Option Gen) (debt : Gen → ℤ) (slice : LruvecSlice) :
    Prop where
  balanced : Balanced input.pages (some input.folio) debt slice
  here : input.folio ∈ slice.lists input.oldGen
  same : (slice.flags input.folio).gen.isSome = seen.isSome
  seen : slice.late input.folio = false → (slice.flags input.folio).gen = seen

section

variable {pages : ℕ → ℕ} {busy : Option ℕ} {debt : Gen → ℤ} {slice slice' : LruvecSlice}

theorem update_gen {flags : FolioFlags} {folio other : ℕ} {P : Option Gen → Prop}
    (hsame : P (slice.flags other).gen) (hnew : other = folio → P flags.gen) :
    P (Function.update slice.flags folio flags other).gen := by
  by_cases hother : other = folio
  · subst hother
    rw [Function.update_self]
    exact hnew rfl
  · rw [Function.update_of_ne hother]
    exact hsame

theorem otherStep_flags (hstep : OtherStep pages slice slice') (folio : ℕ) :
    (slice'.flags folio).gen.isSome = (slice.flags folio).gen.isSome ∧
      (slice'.late folio = false →
        slice.late folio = false ∧ (slice'.flags folio).gen = (slice.flags folio).gen) := by
  cases hstep with
  | @promote promoted oldGen listGen gen hlisted hgen =>
    constructor
    · refine update_gen (P := fun gen => gen.isSome = _) rfl ?_
      rintro rfl
      rw [hgen]
      rfl
    · intro hfresh
      have hother : folio ≠ promoted := by
        rintro rfl
        change Function.update slice.late folio true folio = false at hfresh
        rw [Function.update_self] at hfresh
        cases hfresh
      refine ⟨(Function.update_of_ne hother _ _).symm.trans hfresh, ?_⟩
      exact congrArg FolioFlags.gen (Function.update_of_ne hother _ _)
  | touch touched flags hgen =>
    constructor
    · exact update_gen (P := fun gen => gen.isSome = _) rfl fun hother => by rw [hgen, hother]
    · intro hfresh
      refine ⟨hfresh, ?_⟩
      exact update_gen (P := fun gen => gen = _) rfl fun hother => by rw [hgen, hother]

theorem otherStep_lists (hstep : OtherStep pages slice slice') : slice'.lists = slice.lists := by
  cases hstep <;> rfl

theorem otherStep_counted (hstep : OtherStep pages slice slice')
    (h : ∀ g, slice.nrPages g + slice.owed g + debt g = pagesNamed pages slice g) (g : Gen) :
    slice'.nrPages g + slice'.owed g + debt g = pagesNamed pages slice' g := by
  cases hstep with
  | @promote folio oldGen listGen gen hlisted hgen =>
    change _ = pagesNamed pages { slice with flags := Function.update slice.flags folio _ } g
    rw [pagesNamed_update _ _ (mem_listed.2 ⟨_, hlisted⟩), hgen, ← h g, share_some]
    change _ = _ - _ + share pages folio (some gen) g
    rw [share_some]
    change slice.nrPages g + (slice.owed g - _ + _) + debt g = _
    ring
  | touch folio flags hgen =>
    rw [pagesNamed_touch _ hgen]
    exact h g

theorem Balanced.otherStep (h : Balanced pages busy debt slice)
    (hstep : OtherStep pages slice slice') : Balanced pages busy debt slice' := by
  have hlists := otherStep_lists hstep
  refine ⟨hlists ▸ h.once, hlists ▸ h.apart, fun g folio hfolio hbusy => ?_,
    fun g folio hfolio hbusy hfresh => ?_, otherStep_counted hstep h.counted⟩
  · rw [hlists] at hfolio
    exact (otherStep_flags hstep folio).1.trans (h.alive g folio hfolio hbusy)
  · rw [hlists] at hfolio
    obtain ⟨hearlier, hgen⟩ := (otherStep_flags hstep folio).2 hfresh
    exact hgen.trans (h.placed g folio hfolio hbusy hearlier)

variable {input : SortInput} {seen : Option Gen}

theorem Holding.otherStep (h : Holding input seen debt slice)
    (hstep : OtherStep input.pages slice slice') : Holding input seen debt slice' := by
  obtain ⟨hsome, hlate⟩ := otherStep_flags hstep input.folio
  refine ⟨h.balanced.otherStep hstep, ?_, hsome.trans h.same, fun hfresh => ?_⟩
  · rw [otherStep_lists hstep]
    exact h.here
  · obtain ⟨hearlier, hgen⟩ := hlate hfresh
    exact hgen.trans (h.seen hearlier)

theorem stable_of_otherStep {I : LruvecSlice → Prop}
    (hstep : ∀ slice slice', OtherStep pages slice slice' → I slice → I slice')
    (slice slice' : LruvecSlice) (hsteps : Relation.ReflTransGen (OtherStep pages) slice slice')
    (h : I slice) : I slice' := by
  induction hsteps with
  | refl => exact h
  | tail _ hlast ih => exact hstep _ _ hlast ih

end

section

variable {input : SortInput} {seen : Option Gen} {debt : Gen → ℤ} {slice : LruvecSlice}

theorem Holding.listed (h : Holding input seen debt slice) : input.folio ∈ listed slice :=
  mem_listed.2 ⟨_, h.here⟩

theorem seen_late {folio : ℕ} (hbusy : some input.folio ≠ some folio) :
    (slice.seen input).late folio = slice.late folio :=
  Function.update_of_ne (fun hself => hbusy (congrArg some hself.symm)) _ _

theorem setFlags_other {folio : ℕ} (flags : FolioFlags) (hbusy : some input.folio ≠ some folio) :
    (slice.setFlags input flags).flags folio = slice.flags folio :=
  Function.update_of_ne (fun hself => hbusy (congrArg some hself.symm)) _ _

theorem setFlags_self (flags : FolioFlags) :
    (slice.setFlags input flags).flags input.folio = flags :=
  Function.update_self _ _ _

theorem Holding.look (h : Holding input seen debt slice) :
    Holding input (slice.flags input.folio).gen debt (slice.seen input) where
  balanced :=
    { once := h.balanced.once
      apart := h.balanced.apart
      alive := h.balanced.alive
      placed := fun g folio hfolio hbusy hfresh =>
        h.balanced.placed g folio hfolio hbusy ((seen_late hbusy).symm.trans hfresh)
      counted := h.balanced.counted }
  here := h.here
  same := rfl
  seen _ := rfl

theorem Holding.swap (h : Holding input seen debt slice) (flags : FolioFlags) :
    Holding input flags.gen
      (fun g => debt g - share input.pages input.folio (slice.flags input.folio).gen g +
        share input.pages input.folio flags.gen g)
      ((slice.setFlags input flags).seen input) where
  balanced :=
    { once := h.balanced.once
      apart := h.balanced.apart
      alive := fun g folio hfolio hbusy => by
        change ((slice.setFlags input flags).flags folio).gen.isSome = true
        rw [setFlags_other flags hbusy]
        exact h.balanced.alive g folio hfolio hbusy
      placed := fun g folio hfolio hbusy hfresh => by
        change ((slice.setFlags input flags).flags folio).gen = some g
        rw [setFlags_other flags hbusy]
        exact h.balanced.placed g folio hfolio hbusy ((seen_late hbusy).symm.trans hfresh)
      counted := fun g => by
        change _ = pagesNamed input.pages
          { slice with flags := Function.update slice.flags input.folio flags } g
        rw [pagesNamed_update _ _ h.listed, ← h.balanced.counted g]
        change slice.nrPages g + slice.owed g + _ = _
        ring }
  here := h.here
  same := congrArg (fun flags => flags.gen.isSome) (setFlags_self flags)
  seen _ := congrArg FolioFlags.gen (setFlags_self flags)

theorem updateSize_nrPages (oldGen newGen g : Gen) :
    (slice.updateSize input oldGen newGen).nrPages g =
      slice.nrPages g - share input.pages input.folio (some oldGen) g +
        share input.pages input.folio (some newGen) g := by
  simp only [LruvecSlice.updateSize, Function.update_apply, share_some]
  split_ifs <;> simp_all

theorem Holding.updateSize {oldGen newGen : Gen}
    (h : Holding input seen (fun g => 0 - share input.pages input.folio (some oldGen) g +
      share input.pages input.folio (some newGen) g) slice) :
    Holding input seen (fun _ => 0) (slice.updateSize input oldGen newGen) := by
  refine ⟨⟨h.balanced.once, h.balanced.apart, h.balanced.alive, h.balanced.placed, fun g => ?_⟩,
    h.here, h.same, h.seen⟩
  have hcounted := h.balanced.counted g
  rw [updateSize_nrPages]
  change _ + slice.owed g + 0 = pagesNamed input.pages slice g
  rw [← hcounted]
  ring

theorem mem_listMove (atTail : Bool) (gen g : Gen) (folio : ℕ) :
    folio ∈ (slice.listMove input atTail (some gen)).lists g ↔
      folio = input.folio ∧ g = gen ∨ folio ≠ input.folio ∧ folio ∈ slice.lists g := by
  simp only [LruvecSlice.listMove]
  split_ifs <;> simp_all <;> tauto

theorem nodup_listMove (h : ∀ g, (slice.lists g).Nodup) (atTail : Bool) (gen g : Gen) :
    ((slice.listMove input atTail (some gen)).lists g).Nodup := by
  have hrest := (h g).filter fun folio => folio ≠ input.folio
  have hnot : input.folio ∉ (slice.lists g).filter fun folio => folio ≠ input.folio := by simp
  simp only [LruvecSlice.listMove]
  split_ifs
  · exact hrest
  · refine List.nodup_append.2 ⟨hrest, List.nodup_singleton _, ?_⟩
    rintro folio hfolio _ hself rfl
    rw [List.mem_singleton.1 hself] at hfolio
    exact hnot hfolio
  · exact List.nodup_cons.2 ⟨hnot, hrest⟩

end

def OnItsList (input : SortInput) (slice : LruvecSlice) : Prop :=
  (∃ gen, ∀ g, input.folio ∈ slice.lists g ↔ g = gen) ∨
    input.evictable = false ∧ (slice.flags input.folio).gen.isSome = false ∧
      ∀ g, input.folio ∉ slice.lists g

structure Settled (input : SortInput) (sorted : Sorted) (slice : LruvecSlice) : Prop where
  accounted : Accounted input.pages slice
  onList : sorted.result = true → OnItsList input slice

section

variable {input : SortInput} {seen : Option Gen} {debt : Gen → ℤ} {slice slice' : LruvecSlice}
  {sorted : Sorted}

theorem Accounted.holding (h : Accounted input.pages slice)
    (hhere : input.folio ∈ slice.lists input.oldGen) :
    Holding input (some input.oldGen) (fun _ => 0) slice where
  balanced :=
    { once := h.once
      apart := h.apart
      alive := fun g folio hfolio _ => h.alive g folio hfolio nofun
      placed := fun g folio hfolio _ => h.placed g folio hfolio nofun
      counted := h.counted }
  here := hhere
  same := h.alive _ _ hhere nofun
  seen := h.placed _ _ hhere nofun

theorem Holding.alive {gen : Gen} (h : Holding input (some gen) debt slice) (g : Gen)
    (folio : ℕ) (hfolio : folio ∈ slice.lists g) : (slice.flags folio).gen.isSome = true := by
  by_cases hself : input.folio = folio
  · rw [← hself]
    exact h.same
  · exact h.balanced.alive g folio hfolio fun hbusy => hself (Option.some.inj hbusy)

theorem Holding.stays (h : Holding input (some input.oldGen) (fun _ => 0) slice) :
    Accounted input.pages slice where
  once := h.balanced.once
  apart := h.balanced.apart
  alive g folio hfolio _ := h.alive g folio hfolio
  placed g folio hfolio _ hfresh := by
    by_cases hself : input.folio = folio
    · subst hself
      rw [h.balanced.apart _ _ _ hfolio h.here]
      exact h.seen hfresh
    · exact h.balanced.placed g folio hfolio (fun hbusy => hself (Option.some.inj hbusy)) hfresh
  counted := h.balanced.counted

theorem listed_listMove (h : Holding input seen debt slice) (atTail : Bool) (gen : Gen) :
    listed (slice.listMove input atTail (some gen)) = listed slice := by
  ext folio
  simp only [mem_listed, mem_listMove]
  constructor
  · rintro ⟨g, ⟨rfl, -⟩ | ⟨-, hfolio⟩⟩
    · exact ⟨_, h.here⟩
    · exact ⟨g, hfolio⟩
  · rintro ⟨g, hfolio⟩
    by_cases hself : folio = input.folio
    · exact ⟨gen, .inl ⟨hself, rfl⟩⟩
    · exact ⟨g, .inr ⟨hself, hfolio⟩⟩

theorem Holding.listMove {gen : Gen} (h : Holding input (some gen) (fun _ => 0) slice)
    (atTail : Bool) (sorted : Sorted) :
    Settled input sorted (slice.listMove input atTail (some gen)) := by
  refine ⟨⟨nodup_listMove h.balanced.once atTail gen, ?_, ?_, ?_, fun g => ?_⟩,
    fun _ => .inl ⟨gen, fun g => ?_⟩⟩
  · intro folio g g' hfolio hfolio'
    rcases (mem_listMove _ _ _ _).1 hfolio with ⟨rfl, rfl⟩ | ⟨hne, hfolio⟩
    · rcases (mem_listMove _ _ _ _).1 hfolio' with ⟨-, rfl⟩ | ⟨hne, -⟩
      · rfl
      · exact absurd rfl hne
    · rcases (mem_listMove _ _ _ _).1 hfolio' with ⟨rfl, -⟩ | ⟨-, hfolio'⟩
      · exact absurd rfl hne
      · exact h.balanced.apart folio g g' hfolio hfolio'
  · intro g folio hfolio _
    rcases (mem_listMove _ _ _ _).1 hfolio with ⟨rfl, -⟩ | ⟨-, hfolio⟩
    · exact h.same
    · exact h.alive g folio hfolio
  · intro g folio hfolio _ hfresh
    rcases (mem_listMove _ _ _ _).1 hfolio with ⟨rfl, rfl⟩ | ⟨hne, hfolio⟩
    · exact h.seen hfresh
    · exact h.balanced.placed g folio hfolio (fun hbusy => hne (Option.some.inj hbusy).symm) hfresh
  · unfold pagesNamed
    rw [listed_listMove h]
    exact h.balanced.counted g
  · rw [mem_listMove]
    simp

theorem Settled.otherStep (h : Settled input sorted slice)
    (hstep : OtherStep input.pages slice slice') : Settled input sorted slice' := by
  refine ⟨h.accounted.otherStep hstep, fun hresult => ?_⟩
  unfold OnItsList
  rw [otherStep_lists hstep, (otherStep_flags hstep input.folio).1]
  exact h.onList hresult

theorem Settled.countProtected (h : Settled input sorted slice) (tier : Fin 4) :
    Settled input sorted (slice.countProtected input tier) :=
  ⟨⟨h.accounted.once, h.accounted.apart, h.accounted.alive, h.accounted.placed,
    h.accounted.counted⟩, h.onList⟩

end

end Parp.SortFolio
