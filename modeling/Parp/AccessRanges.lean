import Mathlib.Data.List.Sort
import Mathlib.Data.Prod.Lex
import Mathlib.Algebra.Group.Int.Defs
import Mathlib.Data.Int.Cast.Basic
import Parp.SuccessorRuns

set_option autoImplicit false

/-!
# Ranges of page accesses

`compress_access_ranges` of `page_access_window.py`: accesses to consecutive pages at consecutive PFNs
become one range.
-/
namespace Parp.AccessRanges

open SuccessorRuns List

@[ext]
structure Row where
  fileCatalogId : ℤ
  pageIndex : ℤ
  pfn : ℤ
  sourceMask : ℤ
  attributionMask : ℤ
  deriving DecidableEq

def Row.sortKey (row : Row) : ℤ ×ₗ ℤ ×ₗ ℤ ×ₗ ℤ ×ₗ ℤ :=
  toLex (row.fileCatalogId, toLex (row.pageIndex, toLex (row.pfn,
    toLex (row.sourceMask, row.attributionMask))))

def sourceNames : List (ℕ × String) :=
  [(0, "PAGE_IDLE_CLEARED"), (1, "DIRECT_WPS_ACCESS"), (2, "FILE_FAULT"), (3, "NEW_RESIDENT"),
    (4, "EVICT_BEFORE_SAMPLE"), (5, "PFN_CHANGED")]

def attributionNames : List (ℕ × String) :=
  [(0, "DIRECT_WPS"), (1, "WPS_MAPPED_UNIQUE"), (2, "WPS_MAPPED_SHARED"), (3, "MEMCG_CHARGED"),
    (4, "UNRESOLVED")]

/-- `_mask_names`; Python's `&` reads a negative mask as two's complement. -/
def maskNames (value : ℤ) (names : List (ℕ × String)) : List String :=
  (names.filter fun entry => value / 2 ^ entry.1 % 2 = 1).map Prod.snd

structure Range where
  fileCatalogId : ℤ
  pageIndexStart : ℤ
  pfnStart : ℤ
  pageCount : ℕ
  pfnStride : ℤ := 1
  sourceMaskRaw : ℤ
  sourceMask : List String
  attributionMaskRaw : ℤ
  attributionMask : List String
  deriving DecidableEq

def Range.ofRow (row : Row) : Range where
  fileCatalogId := row.fileCatalogId
  pageIndexStart := row.pageIndex
  pfnStart := row.pfn
  pageCount := 1
  sourceMaskRaw := row.sourceMask
  sourceMask := maskNames row.sourceMask sourceNames
  attributionMaskRaw := row.attributionMask
  attributionMask := maskNames row.attributionMask attributionNames

def Range.continuedBy (previous : Range) (row : Row) : Prop :=
  previous.fileCatalogId = row.fileCatalogId ∧ previous.sourceMaskRaw = row.sourceMask ∧
    previous.attributionMaskRaw = row.attributionMask ∧
    previous.pageIndexStart + previous.pageCount = row.pageIndex ∧
    previous.pfnStart + previous.pageCount = row.pfn

instance decidableContinued (previous : Range) (row : Row) : Decidable (previous.continuedBy row) := by
  unfold Range.continuedBy
  infer_instance

def appendRow (ranges : List Range) (row : Row) : List Range :=
  match ranges.getLast? with
  | none => [.ofRow row]
  | some previous =>
    if previous.continuedBy row then
      ranges.dropLast ++ [{ previous with pageCount := previous.pageCount + 1 }]
    else ranges ++ [.ofRow row]

def ordered (rows : List Row) : List Row := rows.insertionSort fun l r => l.sortKey ≤ r.sortKey

def compressAccessRanges (rows : List Row) : List Range := (ordered rows).foldl appendRow []

def Range.expand (range : Range) : List Row :=
  (List.range range.pageCount).map fun (i : ℕ) =>
    ⟨range.fileCatalogId, range.pageIndexStart + i, range.pfnStart + i, range.sourceMaskRaw,
      range.attributionMaskRaw⟩

def Row.next (row : Row) : Row :=
  { row with pageIndex := row.pageIndex + 1, pfn := row.pfn + 1 }

theorem iterate_next (row : Row) (n : ℕ) :
    Row.next^[n] row = { row with pageIndex := row.pageIndex + n, pfn := row.pfn + n } := by
  induction n with
  | zero => simp
  | succ n ih =>
    rw [Function.iterate_succ_apply', ih]
    unfold Row.next
    push_cast
    rw [add_assoc, add_assoc]

def Range.run (range : Range) : Run Row :=
  ⟨⟨range.fileCatalogId, range.pageIndexStart, range.pfnStart, range.sourceMaskRaw,
    range.attributionMaskRaw⟩, range.pageCount⟩

theorem expand_eq (range : Range) : range.expand = range.run.elements Row.next :=
  map_congr_left fun i _ => (iterate_next range.run.start i).symm

theorem continuedBy_iff (range : Range) (row : Row) :
    range.continuedBy row ↔ range.run.stop Row.next = row := by
  unfold Run.stop
  rw [iterate_next, Row.ext_iff]
  unfold Range.continuedBy Range.run
  dsimp only
  constructor
  · rintro ⟨hfile, hsource, hattribution, hpage, hpfn⟩
    exact ⟨hfile, hpage, hpfn, hsource, hattribution⟩
  · rintro ⟨hfile, hpage, hpfn, hsource, hattribution⟩
    exact ⟨hfile, hsource, hattribution, hpage, hpfn⟩

theorem expand_all (ranges : List Range) :
    ranges.flatMap Range.expand = (ranges.map Range.run).flatMap (Run.elements Row.next) := by
  rw [flatMap_map]
  exact flatMap_congr fun range _ => expand_eq range

theorem appendRow_run (ranges : List Range) (row : Row) :
    (appendRow ranges row).map Range.run = push Row.next (ranges.map Range.run) row := by
  rcases ranges.eq_nil_or_concat' with rfl | ⟨ranges, previous, rfl⟩
  · rfl
  · rw [map_append, map_singleton, push_concat]
    unfold appendRow
    rw [getLast?_concat, dropLast_concat]
    dsimp only
    by_cases h : previous.continuedBy row
    · rw [if_pos h, if_pos ((continuedBy_iff previous row).1 h), map_append]
      rfl
    · rw [if_neg h, if_neg fun hstop => h ((continuedBy_iff previous row).2 hstop), map_append,
        map_append]
      rfl

theorem compress_runs (rows : List Row) :
    (compressAccessRanges rows).map Range.run = runsOf Row.next (ordered rows) := by
  have hfrom (rows : List Row) (ranges : List Range) :
      (rows.foldl appendRow ranges).map Range.run =
        rows.foldl (push Row.next) (ranges.map Range.run) := by
    induction rows generalizing ranges with
    | nil => rfl
    | cons row rows ih => rw [foldl_cons, foldl_cons, ih, appendRow_run]
  exact hfrom (ordered rows) []

theorem compress_cuts (rows : List Row) :
    Cuts Row.next (ordered rows) ((compressAccessRanges rows).map Range.run) := by
  rw [compress_runs]
  exact runsOf_cuts Row.next (ordered rows)

section

variable {rows : List Row}

theorem ordered_perm (rows : List Row) : (ordered rows).Perm rows := perm_insertionSort _ _

theorem ordered_sorted (rows : List Row) :
    (ordered rows).Pairwise fun l r => l.sortKey ≤ r.sortKey := by
  have : Std.Total fun l r : Row => l.sortKey ≤ r.sortKey := ⟨fun _ _ => le_total _ _⟩
  have : IsTrans Row fun l r => l.sortKey ≤ r.sortKey := ⟨fun _ _ _ => le_trans⟩
  exact pairwise_insertionSort _ _

theorem page_le_of_sortKey_le {l r : Row} (h : l.sortKey ≤ r.sortKey) :
    l.fileCatalogId < r.fileCatalogId ∨
      l.fileCatalogId = r.fileCatalogId ∧ l.pageIndex ≤ r.pageIndex := by
  rcases Prod.Lex.toLex_le_toLex.1 h with hfile | ⟨hfile, hrest⟩
  · exact .inl hfile
  · rcases Prod.Lex.toLex_le_toLex.1 hrest with hpage | ⟨hpage, -⟩
    · exact .inr ⟨hfile, le_of_lt hpage⟩
    · exact .inr ⟨hfile, le_of_eq hpage⟩

def Row.page (row : Row) : ℤ × ℤ := (row.fileCatalogId, row.pageIndex)

theorem ordered_adjacent (hpages : (rows.map Row.page).Nodup) : Adjacent Row.next (ordered rows) := by
  intro x hx hnext
  have hpages : ((ordered rows).map Row.page).Nodup :=
    ((ordered_perm rows).map Row.page).nodup_iff.2 hpages
  obtain ⟨front, back, hsplit⟩ := append_of_mem hnext
  have hsorted := ordered_sorted rows
  rw [hsplit] at hx hsorted hpages
  obtain ⟨-, hback, hfront⟩ := pairwise_append.1 hsorted
  have hafter : x ∉ x.next :: back := by
    intro hmem
    rcases mem_cons.1 hmem with hsame | hmem
    · have hpage := congrArg Row.pageIndex hsame
      unfold Row.next at hpage
      dsimp only at hpage
      omega
    · have hle := page_le_of_sortKey_le ((pairwise_cons.1 hback).1 x hmem)
      unfold Row.next at hle
      dsimp only at hle
      omega
  have hbefore : x ∈ front := (mem_append.1 hx).resolve_right hafter
  rcases front.eq_nil_or_concat' with rfl | ⟨front, z, rfl⟩
  · cases hbefore
  -- the last row before the next page has the page of `x`
  have hz : x = z := by
    rcases mem_append.1 hbefore with hmem | hmem
    · have hxz : x.sortKey ≤ z.sortKey :=
        (pairwise_append.1 (pairwise_append.1 hsorted).1).2.2 x hmem z (.head _)
      have hzn : z.sortKey ≤ x.next.sortKey := hfront z (by simp) x.next (.head _)
      have hle := page_le_of_sortKey_le hxz
      have hle' := page_le_of_sortKey_le hzn
      rw [map_append, map_append] at hpages
      obtain ⟨hinner, -, hothers⟩ := nodup_append.1 hpages
      have hnotSame : x.page ≠ z.page :=
        (nodup_append.1 hinner).2.2 _ (mem_map_of_mem hmem) _ (.head _)
      have hnotNext : z.page ≠ x.next.page :=
        hothers _ (mem_append_right _ (.head _)) _ (.head _)
      unfold Row.page Row.next at hnotNext
      unfold Row.page at hnotSame
      unfold Row.next at hle'
      dsimp only at hle hle' hnotNext hnotSame
      rw [Ne, Prod.mk.injEq] at hnotNext hnotSame
      omega
    · exact mem_singleton.1 hmem
  subst hz
  exact ⟨front, back, by rw [hsplit, append_assoc]; rfl⟩

end

section

variable {rows : List Row}

def Range.covers (range : Range) (page : ℤ) : Prop :=
  range.pageIndexStart ≤ page ∧ page < range.pageIndexStart + range.pageCount

theorem covers_iff (range : Range) (page : ℤ) :
    range.covers page ↔ (range.fileCatalogId, page) ∈ range.expand.map Row.page := by
  unfold Range.covers Range.expand
  rw [map_map, mem_map]
  constructor
  · rintro ⟨hstart, hstop⟩
    refine ⟨(page - range.pageIndexStart).toNat, mem_range.2 (by omega), ?_⟩
    unfold Row.page
    dsimp only [Function.comp]
    rw [Prod.mk.injEq]
    exact ⟨rfl, by omega⟩
  · rintro ⟨i, hi, hpage⟩
    have hi := mem_range.1 hi
    have hpage := (Prod.mk.injEq _ _ _ _).mp hpage
    dsimp only at hpage
    omega

structure Least (rows : List Row) (ranges : List Range) : Prop where
  disjoint : ranges.Pairwise fun a b => a.fileCatalogId = b.fileCatalogId →
    ∀ page, ¬ (a.covers page ∧ b.covers page)
  unmergeable : ranges.Pairwise fun a b => ∀ c : Range, ¬ c.expand.Perm (a.expand ++ b.expand)
  least : ∀ others : List Range, (others.flatMap Range.expand).Perm rows →
    ranges.length ≤ others.length

theorem compress_lossless (rows : List Row) :
    ((compressAccessRanges rows).flatMap Range.expand).Perm rows := by
  rw [expand_all, (compress_cuts rows).lossless]
  exact ordered_perm rows

theorem compress_least (hpages : (rows.map Row.page).Nodup) {others : List Range}
    (hsame : (others.flatMap Range.expand).Perm rows) :
    (compressAccessRanges rows).length ≤ others.length := by
  have hnodup : (ordered rows).Nodup := (ordered_perm rows).nodup_iff.2 (List.Nodup.of_map _ hpages)
  rw [expand_all] at hsame
  have hleast := (compress_cuts rows).least hnodup (ordered_adjacent hpages)
    (hsame.trans (ordered_perm rows).symm)
  rwa [length_map, length_map] at hleast

theorem compress_disjoint (hpages : (rows.map Row.page).Nodup) :
    (compressAccessRanges rows).Pairwise fun a b => a.fileCatalogId = b.fileCatalogId →
      ∀ page, ¬ (a.covers page ∧ b.covers page) := by
  have hall := ((compress_lossless rows).map Row.page).nodup_iff.2 hpages
  rw [map_flatMap] at hall
  refine (nodup_flatMap.1 hall).2.imp ?_
  rintro a b hdisjoint hfile page ⟨ha, hb⟩
  rw [covers_iff] at ha hb
  rw [hfile] at ha
  exact hdisjoint ha hb

theorem compress_unmergeable (hpages : (rows.map Row.page).Nodup) :
    (compressAccessRanges rows).Pairwise fun a b =>
      ∀ c : Range, ¬ c.expand.Perm (a.expand ++ b.expand) := by
  rw [pairwise_iff_forall_sublist]
  intro a b hsublist c hmerged
  obtain ⟨rest, hrest⟩ := hsublist.exists_perm_append
  have hfewer : ((c :: rest).flatMap Range.expand).Perm rows := by
    refine List.Perm.trans ?_ ((hrest.flatMap_right Range.expand).symm.trans (compress_lossless rows))
    rw [flatMap_cons, flatMap_append, flatMap_cons, flatMap_singleton]
    exact hmerged.append_right _
  have hleast := compress_least hpages hfewer
  rw [hrest.length_eq] at hleast
  exact absurd hleast (by simp)

/-- Nothing is lost, and where no page of a file occurs twice the ranges are the fewest. -/
theorem compression_lossless_and_least (rows : List Row) :
    ((compressAccessRanges rows).flatMap Range.expand).Perm rows ∧
      ((rows.map Row.page).Nodup → Least rows (compressAccessRanges rows)) :=
  ⟨compress_lossless rows, fun hpages =>
    ⟨compress_disjoint hpages, compress_unmergeable hpages, fun _ hsame => compress_least hpages hsame⟩⟩

end

end Parp.AccessRanges
