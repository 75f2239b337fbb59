import Mathlib.Data.List.Basic

set_option autoImplicit false

/-!
# Delimited texts

Reading the pieces of a text up to a delimiter, and joining pieces.
-/
namespace Parp.Delimited

open List

variable {α : Type} [DecidableEq α]

/-- The pieces of a text after `piece` has been read of the first one. -/
def getlinesFrom (d : α) (piece : List α) : List α → List (List α)
  | [] => if piece = [] then [] else [piece]
  | c :: s => if c = d then piece :: getlinesFrom d [] s else getlinesFrom d (piece ++ [c]) s

/-- `std::getline` until it fails: a last piece that is empty is not read. -/
def getlines (d : α) (s : List α) : List (List α) := getlinesFrom d [] s

variable {a : List α} {pieces : List (List α)}

theorem getlinesFrom_append (d : α) (h : d ∉ a) (piece s : List α) :
    getlinesFrom d piece (a ++ s) = getlinesFrom d (piece ++ a) s := by
  induction a generalizing piece with
  | nil => rw [append_nil, nil_append]
  | cons c a ih =>
    rw [mem_cons, not_or] at h
    rw [cons_append, getlinesFrom, if_neg (Ne.symm h.1), ih h.2, append_assoc]
    rfl

theorem getlines_cons (d : α) (h : d ∉ a) (s : List α) :
    getlines d (a ++ d :: s) = a :: getlines d s := by
  unfold getlines
  rw [getlinesFrom_append d h, getlinesFrom, if_pos rfl]
  rfl

theorem getlines_last (d : α) (h : d ∉ a) (hne : a ≠ []) : getlines d a = [a] := by
  unfold getlines
  rw [← append_nil a, getlinesFrom_append d h, nil_append, append_nil,
    getlinesFrom, if_neg hne]

theorem getlines_flatMap (d : α) (h : ∀ a ∈ pieces, d ∉ a) :
    getlines d (pieces.flatMap fun a => a ++ [d]) = pieces := by
  induction pieces with
  | nil => rfl
  | cons a pieces ih =>
    have hrest := ih fun b hb => h b (.tail _ hb)
    rw [flatMap_cons, append_assoc, singleton_append,
      getlines_cons d (h a (.head _)), hrest]

/-- `if(!text.empty()) text+=d; text+=piece`. -/
def joined (d : α) (s piece : List α) : List α := if s = [] then piece else s ++ d :: piece

omit [DecidableEq α] in
theorem foldl_joined (d : α) {s : List α} (h : s ≠ []) (pieces : List (List α)) :
    pieces.foldl (joined d) s = s ++ pieces.flatMap fun a => d :: a := by
  induction pieces generalizing s with
  | nil => exact (append_nil s).symm
  | cons a pieces ih =>
    have hne : s ++ d :: a ≠ [] := append_ne_nil_of_left_ne_nil h _
    rw [foldl_cons, joined, if_neg h, ih hne, flatMap_cons, append_assoc]

omit [DecidableEq α] in
theorem mem_foldl_joined {d c : α} {s : List α} (h : c ∈ pieces.foldl (joined d) s) :
    c ∈ s ∨ c = d ∨ ∃ a ∈ pieces, c ∈ a := by
  induction pieces generalizing s with
  | nil => exact .inl h
  | cons a pieces ih =>
    rcases ih h with hjoined | hdelimiter | ⟨b, hb, hc⟩
    · unfold joined at hjoined
      split_ifs at hjoined with hempty
      · exact .inr (.inr ⟨a, .head _, hjoined⟩)
      · rcases mem_append.1 hjoined with hs | htail
        · exact .inl hs
        · rcases mem_cons.1 htail with heq | ha
          · exact .inr (.inl heq)
          · exact .inr (.inr ⟨a, .head _, ha⟩)
    · exact .inr (.inl hdelimiter)
    · exact .inr (.inr ⟨b, .tail _ hb, hc⟩)

theorem getlines_joined (d : α) (h : ∀ a ∈ pieces, d ∉ a ∧ a ≠ []) :
    getlines d (pieces.foldl (joined d) []) = pieces := by
  cases pieces with
  | nil => rfl
  | cons a pieces =>
    obtain ⟨ha, hne⟩ := h a (.head _)
    rw [foldl_cons, joined, if_pos rfl, foldl_joined d hne]
    induction pieces generalizing a with
    | nil =>
      rw [flatMap_nil, append_nil]
      exact getlines_last d ha hne
    | cons b pieces ih =>
      obtain ⟨hb, hne'⟩ := h b (.tail _ (.head _))
      rw [flatMap_cons, cons_append, getlines_cons d ha]
      rw [ih b (fun c hc => h c (.tail _ hc)) hb hne']

theorem takeWhile_split {d : α} (h : d ∉ a) (s : List α) : (a ++ d :: s).takeWhile (· ≠ d) = a := by
  have hall : ∀ c ∈ a, decide (c ≠ d) = true := fun c hc =>
    decide_eq_true fun hcd => h (hcd ▸ hc)
  rw [takeWhile_append_of_pos hall, takeWhile_cons_of_neg (by simp), append_nil]

theorem dropWhile_split {d : α} (h : d ∉ a) (s : List α) :
    (a ++ d :: s).dropWhile (· ≠ d) = d :: s := by
  have hall : ∀ c ∈ a, decide (c ≠ d) = true := fun c hc =>
    decide_eq_true fun hcd => h (hcd ▸ hc)
  rw [dropWhile_append_of_pos hall, dropWhile_cons_of_neg (by simp)]

theorem getlinesFrom_eq_splitOn {d : α} {piece s : List α} (hne : piece ≠ [] ∨ s ≠ [])
    (hlast : s.getLast? ≠ some d) :
    getlinesFrom d piece s = (s.splitOn d).modifyHead (piece ++ ·) := by
  induction s generalizing piece with
  | nil =>
    rw [getlinesFrom, if_neg (hne.resolve_right fun h => h rfl), splitOn_nil]
    simp
  | cons c s ih =>
    rw [getlinesFrom, splitOn_cons_eq_if_modifyHead]
    by_cases hc : c = d
    · have hs : s ≠ [] := by
        rintro rfl
        exact hlast (by rw [hc]; rfl)
      have hlast' : s.getLast? ≠ some d := by
        rwa [getLast?_cons_of_ne_nil hs] at hlast
      rw [if_pos hc, if_pos (by simpa using hc), ih (.inr hs) hlast']
      cases s.splitOn d <;> simp
    · have hlast' : s.getLast? ≠ some d := by
        cases s with
        | nil => simp
        | cons b s => rwa [getLast?_cons_cons] at hlast
      rw [if_neg hc, if_neg (by simpa using hc), ih (.inl (by simp)) hlast',
        modifyHead_modifyHead]
      congr 1
      funext t
      simp

theorem getlines_eq_splitOn {d : α} {s : List α} (hne : s ≠ []) (hlast : s.getLast? ≠ some d) :
    getlines d s = s.splitOn d := by
  unfold getlines
  rw [getlinesFrom_eq_splitOn (.inr hne) hlast]
  cases s.splitOn d <;> rfl

omit [DecidableEq α] in
theorem intercalate_append (d : List α) {xs ys : List (List α)} (hxs : xs ≠ []) (hys : ys ≠ []) :
    d.intercalate (xs ++ ys) = d.intercalate xs ++ d ++ d.intercalate ys := by
  induction xs with
  | nil => exact absurd rfl hxs
  | cons x xs ih =>
    cases xs with
    | nil =>
      rw [singleton_append, intercalate_cons_of_ne_nil hys, intercalate_singleton]
    | cons x' xs =>
      have hrest : x' :: xs ++ ys ≠ [] := cons_ne_nil _ _
      rw [cons_append, intercalate_cons_of_ne_nil hrest, ih (cons_ne_nil _ _),
        intercalate_cons_of_ne_nil (cons_ne_nil _ _)]
      simp only [append_assoc]

end Parp.Delimited
