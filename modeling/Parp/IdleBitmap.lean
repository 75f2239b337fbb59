import Mathlib.Data.List.Chain
import Mathlib.Data.List.Dedup
import Mathlib.Data.List.Sort
import Mathlib.Data.Prod.Lex
import Mathlib.Data.Nat.Bitwise
import Mathlib.Algebra.Order.Group.Int
import Parp.OrderedDict

set_option autoImplicit false

/-!
# Words of the idle bitmap

`PageIdleBackend._word_masks` and `_word_runs` of `page_access_window.py`: the bits of a set of
PFNs, word by word, and the words in runs of neighbours.
-/
namespace Parp.IdleBitmap

open OrderedDict List

/-- The set of the PFNs that are not negative. It may be gone through in any order. -/
def requested (pfns : List ℤ) : List ℤ := (pfns.filter fun pfn => 0 ≤ pfn).dedup

def mark (words : Dict ℤ ℕ) (pfn : ℤ) : Dict ℤ ℕ :=
  let word := pfn / 64
  words.set word ((words.get? word).getD 0 ||| 1 <<< (pfn % 64).toNat)

def wordMasks (visited : List ℤ) : Dict ℤ ℕ := visited.foldl mark ∅

/-- `sorted(masks.items())`. -/
def ordered (masks : Dict ℤ ℕ) : List (ℤ × ℕ) :=
  masks.items.insertionSort fun l r => toLex l ≤ toLex r

structure Runs where
  yielded : List (List (ℤ × ℕ)) := []
  run : List (ℤ × ℕ) := []

def Runs.push (maxWords : ℕ) (s : Runs) (item : ℤ × ℕ) : Runs :=
  match s.run.getLast? with
  | none => { s with run := [item] }
  | some last =>
    if item.1 ≠ last.1 + 1 ∨ maxWords ≤ s.run.length then ⟨s.yielded ++ [s.run], [item]⟩
    else { s with run := s.run ++ [item] }

def wordRuns (masks : Dict ℤ ℕ) (maxWords : ℕ := 8192) : List (List (ℤ × ℕ)) :=
  let s := (ordered masks).foldl (Runs.push maxWords) {}
  if s.run = [] then s.yielded else s.yielded ++ [s.run]

/-- The PFN has its bit in one of the words. -/
def Marks (words : List (ℤ × ℕ)) (pfn : ℤ) : Prop :=
  ∃ e ∈ words, ∃ bit : ℕ, e.2.testBit bit = true ∧ pfn = 64 * e.1 + bit

/-- The bits of the words are those of the PFNs that are not negative, and no word is without one.
-/
structure CoversExactly (pfns : List ℤ) (words : List (ℤ × ℕ)) : Prop where
  nonzero : ∀ e ∈ words, e.2 ≠ 0
  within : ∀ e ∈ words, e.2 < 2 ^ 64
  marks : ∀ pfn, Marks words pfn ↔ pfn ∈ pfns ∧ 0 ≤ pfn

theorem mem_requested {pfns : List ℤ} {pfn : ℤ} : pfn ∈ requested pfns ↔ pfn ∈ pfns ∧ 0 ≤ pfn := by
  simp [requested]

theorem bit_lt (pfn : ℤ) : (pfn % 64).toNat < 64 := by omega

theorem mem_mark {words : Dict ℤ ℕ} {pfn : ℤ} {e : ℤ × ℕ} (h : e ∈ (mark words pfn).items) :
    e ∈ words.items ∨
      e = (pfn / 64, (words.get? (pfn / 64)).getD 0 ||| 1 <<< (pfn % 64).toNat) := by
  rcases Dict.mem_set.1 h with h | h
  · exact .inr h
  · exact .inl h.1

theorem mark_bounds {words : Dict ℤ ℕ} (pfn : ℤ) (h : ∀ e ∈ words.items, e.2 ≠ 0 ∧ e.2 < 2 ^ 64) :
    ∀ e ∈ (mark words pfn).items, e.2 ≠ 0 ∧ e.2 < 2 ^ 64 := by
  intro e he
  rcases mem_mark he with hold | rfl
  · exact h e hold
  · have hbit : 1 <<< (pfn % 64).toNat < 2 ^ 64 := by
      rw [Nat.one_shiftLeft]
      exact Nat.pow_lt_pow_right (by decide) (bit_lt pfn)
    have hold : (words.get? (pfn / 64)).getD 0 < 2 ^ 64 := by
      cases hget : words.get? (pfn / 64) with
      | none => exact Nat.two_pow_pos 64
      | some mask => exact (h _ (Dict.mem_of_get? hget)).2
    refine ⟨fun hzero => ?_, Nat.or_lt_two_pow hold hbit⟩
    have hright := (Nat.or_eq_zero_iff.1 hzero).2
    rw [Nat.one_shiftLeft] at hright
    exact absurd hright (Nat.two_pow_pos _).ne'

theorem marks_iff_get? (words : Dict ℤ ℕ) (pfn : ℤ) :
    Marks words.items pfn ↔ ∃ word mask, words.get? word = some mask ∧
      ∃ bit : ℕ, mask.testBit bit = true ∧ pfn = 64 * word + bit := by
  constructor
  · rintro ⟨⟨word, mask⟩, hmem, hbit⟩
    exact ⟨word, mask, Dict.get?_of_mem hmem, hbit⟩
  · rintro ⟨word, mask, hget, hbit⟩
    exact ⟨(word, mask), Dict.mem_of_get? hget, hbit⟩

theorem marks_mark (words : Dict ℤ ℕ) (pfn p : ℤ) :
    Marks (mark words pfn).items p ↔ Marks words.items p ∨ p = pfn := by
  have hpfn : pfn = 64 * (pfn / 64) + ((pfn % 64).toNat : ℤ) := by omega
  have hget (word : ℤ) : (mark words pfn).get? word =
      if word = pfn / 64 then
        some ((words.get? (pfn / 64)).getD 0 ||| 1 <<< (pfn % 64).toNat)
      else words.get? word := Dict.get?_set _ _ _ _
  simp only [marks_iff_get?, hget]
  constructor
  · rintro ⟨word, mask, hmask, bit, hbit, rfl⟩
    split_ifs at hmask with hword
    · obtain rfl := Option.some.inj hmask
      rw [Nat.testBit_or, Bool.or_eq_true, Nat.one_shiftLeft, Nat.testBit_two_pow] at hbit
      rcases hbit with hold | hnew
      · cases hprevious : words.get? (pfn / 64) with
        | none =>
          rw [hprevious] at hold
          simp at hold
        | some mask =>
          rw [hprevious] at hold
          exact .inl ⟨word, mask, hword ▸ hprevious, bit, hold, rfl⟩
      · right
        have heq : (pfn % 64).toNat = bit := of_decide_eq_true hnew
        rw [hpfn, heq, hword]
    · exact .inl ⟨word, mask, hmask, bit, hbit, rfl⟩
  · rintro (⟨word, mask, hmask, bit, hbit, rfl⟩ | rfl)
    · by_cases hword : word = pfn / 64
      · refine ⟨word, _, if_pos hword, bit, ?_, rfl⟩
        rw [← hword, hmask, Nat.testBit_or, Option.getD_some, hbit, Bool.true_or]
      · exact ⟨word, mask, (if_neg hword).trans hmask, bit, hbit, rfl⟩
    · refine ⟨p / 64, _, if_pos rfl, (p % 64).toNat, ?_, hpfn⟩
      rw [Nat.testBit_or, Nat.one_shiftLeft, Nat.testBit_two_pow_self, Bool.or_true]

theorem wordMasks_covers {pfns visited : List ℤ} (h : visited.Perm (requested pfns)) :
    CoversExactly pfns (wordMasks visited).items := by
  have hall : ∀ (rest : List ℤ) (words : Dict ℤ ℕ), (∀ e ∈ words.items, e.2 ≠ 0 ∧ e.2 < 2 ^ 64) →
      (∀ e ∈ (rest.foldl mark words).items, e.2 ≠ 0 ∧ e.2 < 2 ^ 64) ∧
        ∀ p, Marks (rest.foldl mark words).items p ↔ Marks words.items p ∨ p ∈ rest := by
    intro rest
    induction rest with
    | nil => exact fun words hwords => ⟨hwords, fun p => by simp⟩
    | cons pfn rest ih =>
      intro words hwords
      obtain ⟨hbounds, hmarks⟩ := ih (mark words pfn) (mark_bounds pfn hwords)
      refine ⟨hbounds, fun p => ?_⟩
      rw [foldl_cons, hmarks p, marks_mark, mem_cons, or_assoc]
  obtain ⟨hbounds, hmarks⟩ := hall visited ∅ nofun
  refine ⟨fun e he => (hbounds e he).1, fun e he => (hbounds e he).2, fun p => ?_⟩
  have hempty : ¬ Marks (∅ : Dict ℤ ℕ).items p := by
    rintro ⟨e, he, -⟩
    cases he
  unfold wordMasks
  rw [hmarks p, or_iff_right hempty, h.mem_iff, mem_requested]

section

/-- A run is of neighbouring words and no longer than it may be. -/
structure SoundRun (maxWords : ℕ) (run : List (ℤ × ℕ)) : Prop where
  nonempty : run ≠ []
  consecutive : run.IsChain fun l r => r.1 = l.1 + 1
  short : run.length ≤ maxWords

/-- What the loop keeps: the items are in the runs in their order. -/
structure Grouped (maxWords : ℕ) (items : List (ℤ × ℕ)) (s : Runs) : Prop where
  lossless : s.yielded.flatten ++ s.run = items
  yielded : ∀ run ∈ s.yielded, SoundRun maxWords run
  openRun : s.run = [] ∨ SoundRun maxWords s.run

variable {maxWords : ℕ} {items : List (ℤ × ℕ)} {s : Runs}

theorem soundRun_one (hmax : 1 ≤ maxWords) (item : ℤ × ℕ) : SoundRun maxWords [item] :=
  ⟨cons_ne_nil _ _, isChain_singleton _, hmax⟩

theorem push_grouped (hmax : 1 ≤ maxWords) (h : Grouped maxWords items s) (item : ℤ × ℕ) :
    Grouped maxWords (items ++ [item]) (s.push maxWords item) := by
  obtain ⟨hlossless, hyielded, hopen⟩ := h
  unfold Runs.push
  cases hlast : s.run.getLast? with
  | none =>
    rw [getLast?_eq_none_iff] at hlast
    rw [hlast, append_nil] at hlossless
    exact ⟨by rw [hlossless], hyielded, .inr (soundRun_one hmax item)⟩
  | some last =>
    have hsound : SoundRun maxWords s.run := by
      refine hopen.resolve_left fun hnil => ?_
      rw [hnil] at hlast
      cases hlast
    dsimp only
    split_ifs with hbreak
    · refine ⟨?_, fun run hrun => ?_, .inr (soundRun_one hmax item)⟩
      · rw [flatten_append, flatten_singleton, hlossless]
      · rcases mem_append.1 hrun with hrun | hrun
        · exact hyielded run hrun
        · rw [mem_singleton.1 hrun]
          exact hsound
    · obtain ⟨hnext, hroom⟩ := not_or.1 hbreak
      refine ⟨by rw [← hlossless, append_assoc], hyielded, .inr ⟨by simp, ?_, ?_⟩⟩
      · rw [isChain_append]
        refine ⟨hsound.consecutive, isChain_singleton _, fun l hl r hr => ?_⟩
        rw [hlast] at hl
        obtain rfl := Option.mem_some_iff.1 hl
        obtain rfl := Option.mem_some_iff.1 hr
        exact not_not.1 hnext
      · rw [length_append, length_singleton]
        omega

theorem foldl_grouped (hmax : 1 ≤ maxWords) (items : List (ℤ × ℕ)) :
    Grouped maxWords items (items.foldl (Runs.push maxWords) {}) := by
  induction items using List.reverseRecOn with
  | nil => exact ⟨rfl, nofun, .inl rfl⟩
  | append_singleton items item ih =>
    rw [foldl_append]
    exact push_grouped hmax ih item

theorem wordRuns_grouped (hmax : 1 ≤ maxWords) (masks : Dict ℤ ℕ) :
    (wordRuns masks maxWords).flatten = ordered masks ∧
      ∀ run ∈ wordRuns masks maxWords, SoundRun maxWords run := by
  obtain ⟨hlossless, hyielded, hopen⟩ := foldl_grouped hmax (ordered masks)
  unfold wordRuns
  dsimp only
  split_ifs with hnil
  · rw [hnil, append_nil] at hlossless
    exact ⟨hlossless, hyielded⟩
  · refine ⟨?_, fun run hrun => ?_⟩
    · rw [flatten_append, flatten_singleton, hlossless]
    · rcases mem_append.1 hrun with hrun | hrun
      · exact hyielded run hrun
      · rw [mem_singleton.1 hrun]
        exact hopen.resolve_left hnil

theorem ordered_perm (masks : Dict ℤ ℕ) : (ordered masks).Perm masks.items :=
  perm_insertionSort _ _

theorem ordered_lt (masks : Dict ℤ ℕ) : ((ordered masks).map Prod.fst).Pairwise (· < ·) := by
  have hkeys : ((ordered masks).map Prod.fst).Nodup :=
    ((ordered_perm masks).map Prod.fst).nodup_iff.2 masks.nodup
  have hle : ((ordered masks).map Prod.fst).Pairwise (· ≤ ·) := by
    have hsorted : (ordered masks).Pairwise fun l r => toLex l ≤ toLex r :=
      pairwise_insertionSort _ _
    rw [pairwise_map]
    exact hsorted.imp fun hlr => (Prod.Lex.toLex_le_toLex.1 hlr).elim le_of_lt fun h => h.1.le
  exact (hle.and hkeys).imp fun h => lt_of_le_of_ne h.1 h.2

theorem CoversExactly.perm {pfns : List ℤ} {words words' : List (ℤ × ℕ)}
    (h : CoversExactly pfns words) (hperm : words'.Perm words) : CoversExactly pfns words' := by
  have hmarks (p : ℤ) : Marks words' p ↔ Marks words p := by
    simp only [Marks, hperm.mem_iff]
  exact ⟨fun e he => h.nonzero e (hperm.mem_iff.1 he), fun e he => h.within e (hperm.mem_iff.1 he),
    fun p => (hmarks p).trans (h.marks p)⟩

/-- What the masks and the runs of a set of PFNs are. -/
structure Exact (pfns : List ℤ) (maxWords : ℕ) (masks : Dict ℤ ℕ) (runs : List (List (ℤ × ℕ))) :
    Prop where
  inMasks : CoversExactly pfns masks.items
  inRuns : CoversExactly pfns runs.flatten
  same : runs.flatten.Perm masks.items
  sound : ∀ run ∈ runs, SoundRun maxWords run
  ascending : (runs.flatten.map Prod.fst).Pairwise (· < ·)

/-- Every word is in one run, whatever order the set of the PFNs is gone through in. -/
theorem idle_runs_exact {pfns visited : List ℤ} {maxWords : ℕ}
    (hvisited : visited.Perm (requested pfns)) (hmax : 1 ≤ maxWords) :
    Exact pfns maxWords (wordMasks visited) (wordRuns (wordMasks visited) maxWords) := by
  obtain ⟨hflatten, hsound⟩ := wordRuns_grouped hmax (wordMasks visited)
  have hperm : (wordRuns (wordMasks visited) maxWords).flatten.Perm (wordMasks visited).items :=
    hflatten ▸ ordered_perm _
  have hmasks := wordMasks_covers hvisited
  exact ⟨hmasks, hmasks.perm hperm, hperm, hsound, hflatten ▸ ordered_lt _⟩

theorem idle_runs_of_three : Exact [200, -1, 64, 0, 64] 1 (wordMasks [64, 200, 0])
    (wordRuns (wordMasks [64, 200, 0]) 1) :=
  @idle_runs_exact [200, -1, 64, 0, 64] [64, 200, 0] 1 (by decide) (by decide)

end

end Parp.IdleBitmap
