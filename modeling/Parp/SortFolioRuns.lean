import Parp.EffectiveTierBudget
import Parp.SortFolioLaws

set_option autoImplicit false

namespace Parp.SortFolio

open AtomicPrograms

def others (input : SortInput) : LruvecSlice → LruvecSlice → Prop :=
  Relation.ReflTransGen (OtherStep input.pages)

def Settles (input : SortInput) (prog : Prog LruvecSlice (Option Sorted)) (slice : LruvecSlice) :
    Prop :=
  prog.Ensures (others input)
    (fun _ value left => ∀ sorted, value = some sorted → Settled input sorted left) slice

section

variable {α : Type} {input : SortInput} {seen : Option Gen} {debt : Gen → ℤ} {slice : LruvecSlice}

theorem holding_stable (slice slice' : LruvecSlice) (hothers : others input slice slice')
    (h : Holding input seen debt slice) : Holding input seen debt slice' :=
  stable_of_otherStep (fun _ _ hstep h => h.otherStep hstep) slice slice' hothers h

theorem settled_stable {sorted : Sorted} (slice slice' : LruvecSlice)
    (hothers : others input slice slice') (h : Settled input sorted slice) :
    Settled input sorted slice' :=
  stable_of_otherStep (fun _ _ hstep h => h.otherStep hstep) slice slice' hothers h

variable {post : List (LruvecSlice × LruvecSlice) → α → LruvecSlice → Prop}
  {next : Gen → Bool → Prog LruvecSlice (Option α)} {Q : Option α → LruvecSlice → Prop}

theorem ensures_readFlags {next : FolioFlags → Prog LruvecSlice α}
    (hs : Holding input seen debt slice)
    (h : ∀ found, Holding input (found.flags input.folio).gen debt (found.seen input) →
      (found.flags input.folio).gen.isSome = seen.isSome →
      (next (found.flags input.folio)).Ensures (others input)
        (fun rest => post ((found, found.seen input) :: rest)) (found.seen input)) :
    (readFlags input next).Ensures (others input) post slice :=
  Prog.ensures_step holding_stable hs fun found hfound => h found hfound.look hfound.same

theorem ensures_write {update : LruvecSlice → LruvecSlice} {next : Prog LruvecSlice α}
    (hs : Holding input seen debt slice)
    (h : ∀ found, Holding input seen debt found →
      next.Ensures (others input) (fun rest => post ((found, update found) :: rest))
        (update found)) :
    (Prog.write update next).Ensures (others input) post slice :=
  Prog.ensures_step holding_stable hs h

theorem ensures_cmpxchgFlags {old new : FolioFlags} {next : FolioFlags → Prog LruvecSlice α}
    (hs : Holding input seen debt slice)
    (hwon : ∀ found, found.flags input.folio = old →
      Holding input new.gen
        (fun g => debt g - share input.pages input.folio old.gen g +
          share input.pages input.folio new.gen g) ((found.setFlags input new).seen input) →
      (next old).Ensures (others input)
        (fun rest => post ((found, (found.setFlags input new).seen input) :: rest))
        ((found.setFlags input new).seen input))
    (hlost : ∀ found, found.flags input.folio ≠ old →
      Holding input (found.flags input.folio).gen debt (found.seen input) →
      (found.flags input.folio).gen.isSome = seen.isSome →
      (next (found.flags input.folio)).Ensures (others input)
        (fun rest => post ((found, found.seen input) :: rest)) (found.seen input)) :
    (cmpxchgFlags input old new next).Ensures (others input) post slice := by
  refine Prog.ensures_step holding_stable hs fun found hfound => ?_
  by_cases hswapped : found.flags input.folio = old
  · rw [if_pos hswapped, hswapped]
    have hswap := hfound.swap new
    rw [hswapped] at hswap
    exact hwon found hswapped hswap
  · rw [if_neg hswapped]
    exact hlost found hswapped hfound.look hfound.same

theorem ensures_folioIncGenFrom (reclaiming : Bool) (tries : ℕ) {flags : FolioFlags}
    (hs : Holding input flags.gen (fun _ => 0) slice) (hgen : flags.gen.isSome = true)
    (hstuck : ∀ left, Q none left)
    (hnext : ∀ gen moved left, Holding input (some gen) (fun _ => 0) left →
      (next gen moved).Ensures (others input) (fun _ => Q) left) :
    (folioIncGenFrom input reclaiming next tries flags).Ensures (others input) (fun _ => Q)
      slice := by
  induction tries generalizing flags slice with
  | zero => exact hstuck slice
  | succ tries ih =>
    obtain ⟨gen, hflags⟩ := Option.isSome_iff_exists.1 hgen
    unfold folioIncGenFrom
    dsimp only
    split
    · rw [hflags] at hs ⊢
      exact hnext gen false slice hs
    · rename_i hsame
      have hold : flags.gen = some input.oldGen := by
        by_contra hother
        exact hsame ⟨hgen, hother⟩
      refine ensures_cmpxchgFlags hs (fun found _ hwon => ?_) fun found hswapped hlost hsome => ?_
      · rw [if_pos rfl]
        rw [hold] at hwon
        exact ensures_write hwon fun later hlater => hnext _ true _ hlater.updateSize
      · rw [if_neg hswapped]
        exact ih hlost (hsome.trans hgen)

theorem ensures_folioIncGen (tries : ℕ) (reclaiming : Bool) {gen : Gen}
    (hs : Holding input (some gen) (fun _ => 0) slice) (hstuck : ∀ left, Q none left)
    (hnext : ∀ gen moved left, Holding input (some gen) (fun _ => 0) left →
      (next gen moved).Ensures (others input) (fun _ => Q) left) :
    (folioIncGen input tries reclaiming next).Ensures (others input) (fun _ => Q) slice :=
  ensures_readFlags hs fun _ hfound hgen =>
    ensures_folioIncGenFrom reclaiming tries hfound hgen hstuck hnext

end

section

variable {input : SortInput} {slice : LruvecSlice} (tries : ℕ) {gen : Gen}

theorem settles_move (hs : Holding input (some gen) (fun _ => 0) slice) (atTail : Bool)
    (sorted : Sorted) :
    Settles input
      (.write (LruvecSlice.listMove input atTail (some gen)) (.ret (some sorted))) slice := by
  refine ensures_write hs fun found hfound => ?_
  rintro _ hsome
  obtain rfl := Option.some.inj hsome
  exact hfound.listMove atTail sorted

theorem protectFolio_settles (hs : Holding input (some gen) (fun _ => 0) slice) (tier : Fin 4)
    (special : Bool) : Settles input (protectFolio input tries tier special) slice := by
  refine ensures_folioIncGen tries false hs (fun _ _ hsome => by cases hsome) fun gen moved left
    hleft => ?_
  cases special with
  | true => exact settles_move hleft false _
  | false =>
    refine ensures_write hleft fun found hfound => ?_
    have hmoved := hfound.listMove false
      { result := true, noted := notedMove .nativeTierPromotion gen moved }
    refine Prog.ensures_step settled_stable hmoved fun later hlater => ?_
    rintro _ hsome
    obtain rfl := Option.some.inj hsome
    exact hlater.countProtected tier

theorem tierNotProtected_settles (hs : Holding input (some input.oldGen) (fun _ => 0) slice) :
    Settles input (tierNotProtected input tries) slice := by
  unfold tierNotProtected
  split
  · exact ensures_folioIncGen tries false hs (fun _ _ hsome => by cases hsome)
      fun gen moved left hleft => settles_move hleft true _
  · refine Prog.ensures_step holding_stable hs fun found hfound => ?_
    refine Prog.ensures_step holding_stable hfound fun later hlater => ?_
    dsimp only
    split
    · exact ensures_folioIncGen tries true hlater (fun _ _ hsome => by cases hsome)
        fun gen moved left hleft => settles_move hleft false _
    · rintro _ hsome
      obtain rfl := Option.some.inj hsome
      exact ⟨hlater.stays, fun hresult => by cases hresult⟩

theorem movedElsewhere_settles (hs : Holding input (some gen) (fun _ => 0) slice) :
    Settles input (movedElsewhere input (some gen)) slice :=
  settles_move hs false _

theorem nativeSort_settles {flags : FolioFlags}
    (hs : Holding input (some input.oldGen) (fun _ => 0) slice) :
    Settles input (nativeSort input tries flags) slice := by
  unfold nativeSort
  split
  · exact protectFolio_settles tries hs _ _
  · exact tierNotProtected_settles tries hs

def racedSort (input : SortInput) (tries : ℕ) (reread : FolioFlags) :
    Prog LruvecSlice (Option Sorted) :=
  if reread.gen ≠ some input.oldGen then movedElsewhere input reread.gen
  else nativeSort input tries reread

theorem racedSort_settles {reread : FolioFlags} (hs : Holding input reread.gen (fun _ => 0) slice)
    (hgen : reread.gen.isSome = true) : Settles input (racedSort input tries reread) slice := by
  obtain ⟨gen, hreread⟩ := Option.isSome_iff_exists.1 hgen
  unfold racedSort
  split
  · rw [hreread] at hs ⊢
    exact movedElsewhere_settles hs
  · rename_i hsame
    rw [not_not.1 hsame] at hs
    exact nativeSort_settles tries hs

theorem mem_listDel (gen g : Gen) (folio : ℕ) :
    folio ∈ (slice.listDel input gen).lists g ↔ folio ∈ slice.lists g ∧ folio ≠ input.folio := by
  simp [LruvecSlice.listDel]

theorem listed_listDel (gen : Gen) :
    listed (slice.listDel input gen) = (listed slice).erase input.folio := by
  ext folio
  simp only [mem_listed, mem_listDel, Finset.mem_erase]
  tauto

theorem listDel_accounted
    (h : Holding input none (fun g => -share input.pages input.folio (some gen) g) slice) :
    Accounted input.pages (slice.listDel input gen) := by
  have hbusy : ∀ folio, folio ≠ input.folio → some input.folio ≠ some folio :=
    fun folio hne hsame => hne (Option.some.inj hsame).symm
  refine ⟨fun g => (h.balanced.once g).filter _, fun folio g g' hfolio hfolio' => ?_,
    fun g folio hfolio _ => ?_, fun g folio hfolio _ hfresh => ?_, fun g => ?_⟩
  · exact h.balanced.apart folio g g' ((mem_listDel _ _ _).1 hfolio).1
      ((mem_listDel _ _ _).1 hfolio').1
  · obtain ⟨hold, hne⟩ := (mem_listDel _ _ _).1 hfolio
    exact h.balanced.alive g folio hold (hbusy folio hne)
  · obtain ⟨hold, hne⟩ := (mem_listDel _ _ _).1 hfolio
    exact h.balanced.placed g folio hold (hbusy folio hne) hfresh
  · have hnone : (slice.flags input.folio).gen = none := by
      cases hgen : (slice.flags input.folio).gen with
      | none => rfl
      | some gen =>
        have hsame := h.same
        rw [hgen] at hsame
        cases hsame
    have hsum : pagesNamed input.pages (slice.listDel input gen) g =
        pagesNamed input.pages slice g := by
      unfold pagesNamed
      rw [listed_listDel]
      refine Finset.sum_erase _ ?_
      change share input.pages input.folio (slice.flags input.folio).gen g = 0
      rw [hnone]
      rfl
    rw [hsum, ← h.balanced.counted g, share_some]
    simp only [LruvecSlice.listDel, Function.update_apply]
    split_ifs with hsame
    · rw [hsame]
      ring
    · ring

theorem cullFolio_settles (hevictable : input.evictable = false)
    (hs : Holding input (some gen) (fun _ => 0) slice) : Settles input (cullFolio input) slice := by
  refine Prog.ensures_step holding_stable hs fun found hfound => ?_
  obtain ⟨named, hnamed⟩ := Option.isSome_iff_exists.1 hfound.same
  have hswap := hfound.swap { found.flags input.folio with gen := none }
  rw [hnamed] at hswap ⊢
  have hgone : Holding input none
      (fun g => -share input.pages input.folio (some named) g)
      ((found.setFlags input { found.flags input.folio with gen := none }).seen input) := by
    convert hswap using 2 with g
    simp [share]
  refine ensures_write hgone fun later hlater => ?_
  have hsettled : Settled input { result := true } (later.listDel input named) := by
    refine ⟨listDel_accounted hlater, fun _ => .inr ⟨hevictable, hlater.same, fun g hmem => ?_⟩⟩
    exact ((mem_listDel _ _ _).1 hmem).2 rfl
  refine Prog.ensures_step settled_stable hsettled fun last hlast => ?_
  rintro _ hsome
  obtain rfl := Option.some.inj hsome
  exact hlast.otherStep (.touch last input.folio _ rfl)

end

end Parp.SortFolio
