import Mathlib.Algebra.Order.BigOperators.Group.List
import Mathlib.Data.List.DropRight
import Mathlib.Data.List.Infix
import Mathlib.Algebra.GroupWithZero.Nat

set_option autoImplicit false

/-!
# Charges that grow old

The charges are kept in their order. At a tick the old ones are dropped from the front, and what is
left of the limit bounds the next charge.
-/
namespace Parp.RollingWindow

open List

variable {τ α : Type} (past : τ → τ → Bool) (size : α → ℕ)

def live (now : τ) (history : List (τ × α)) : List (τ × α) :=
  history.dropWhile fun e => past now e.1

def total (history : List (τ × α)) : ℕ := (history.map fun e => size e.2).sum

theorem total_append (left right : List (τ × α)) :
    total size (left ++ right) = total size left + total size right := by
  simp [total]

theorem total_live_le (now : τ) (history : List (τ × α)) :
    total size (live past now history) ≤ total size history := by
  have hsplit := total_append size (history.takeWhile fun e => past now e.1) (live past now history)
  unfold live at hsplit ⊢
  rw [takeWhile_append_dropWhile] at hsplit
  omega

theorem live_live (now : τ) (history : List (τ × α)) :
    live past now (live past now history) = live past now history := by
  unfold live
  exact dropWhile_idempotent _ _

theorem suffix_live {now : τ} {recent history : List (τ × α)} (hsuffix : recent <:+ history)
    (hrecent : ∀ e ∈ recent, past now e.1 = false) : recent <:+ live past now history := by
  induction history with
  | nil => exact hsuffix
  | cons e history ih =>
    unfold live
    cases he : past now e.1 with
    | false =>
      rw [dropWhile_cons_of_neg (by simp [he])]
      exact hsuffix
    | true =>
      rw [dropWhile_cons_of_pos (by simpa using he)]
      rcases suffix_cons_iff.1 hsuffix with heq | htail
      · have hhead := hrecent e (heq ▸ .head _)
        rw [he] at hhead
        cases hhead
      · exact ih htail

theorem live_eq_filter {now : τ} {history : List (τ × α)}
    (hfront : history.Pairwise fun e e' => past now e'.1 = true → past now e.1 = true) :
    live past now history = history.filter fun e => !past now e.1 := by
  unfold live
  induction history with
  | nil => rfl
  | cons e history ih =>
    obtain ⟨hhead, hfront⟩ := pairwise_cons.1 hfront
    cases he : past now e.1 with
    | true =>
      rw [dropWhile_cons_of_pos (by simpa using he), filter_cons_of_neg (by simp [he])]
      exact ih hfront
    | false =>
      have hrest : ∀ e' ∈ history, past now e'.1 = false := by
        intro e' hmem
        by_contra hpast
        rw [hhead e' hmem (by simpa using hpast)] at he
        cases he
      rw [dropWhile_cons_of_neg (by simp [he]), eq_comm, filter_eq_self]
      intro e' hmem
      rcases mem_cons.1 hmem with rfl | hmem
      · simp [he]
      · simp [hrest e' hmem]

/-- The ticks, the newest first, and the charges that are kept after them. -/
inductive Ticked (cap : ℕ) : List (τ × Option α) → List (τ × α) → Prop
  | start : Ticked cap [] []
  | skip {ticks : List (τ × Option α)} {history : List (τ × α)} (h : Ticked cap ticks history)
      (now : τ) : Ticked cap ((now, none) :: ticks) history
  | look {ticks : List (τ × Option α)} {history : List (τ × α)} (h : Ticked cap ticks history)
      (now : τ) : Ticked cap ((now, none) :: ticks) (live past now history)
  | charge {ticks : List (τ × Option α)} {history : List (τ × α)} (h : Ticked cap ticks history)
      (now : τ) (v : α) (hroom : total size (live past now history) + size v ≤ cap) :
      Ticked cap ((now, some v) :: ticks) (live past now history ++ [(now, v)])

def spent (ticks : List (τ × Option α)) : ℕ :=
  (ticks.map fun t => (t.2.map size).getD 0).sum

def Near (ticks : List (τ × Option α)) : Prop :=
  ticks.Pairwise fun later earlier => past later.1 earlier.1 = false

def charges (ticks : List (τ × Option α)) : List (τ × α) :=
  ticks.reverse.filterMap fun t => t.2.map fun v => (t.1, v)

theorem total_charges (ticks : List (τ × Option α)) : total size (charges ticks) = spent size ticks := by
  induction ticks with
  | nil => rfl
  | cons t ticks ih =>
    have hhead : total size (([t] : List (τ × Option α)).filterMap fun t =>
        t.2.map fun v => (t.1, v)) = (t.2.map size).getD 0 := by
      cases ht : t.2 with
      | none => simp [ht, total]
      | some v => simp [ht, total]
    have hsplit : charges (t :: ticks) =
        charges ticks ++ ([t] : List (τ × Option α)).filterMap fun t => t.2.map fun v => (t.1, v) := by
      simp [charges]
    rw [hsplit, total_append, hhead, ih]
    simp only [spent, map_cons, sum_cons]
    omega

theorem time_of_mem_charges {ticks : List (τ × Option α)} {e : τ × α} (hmem : e ∈ charges ticks) :
    ∃ t ∈ ticks, t.1 = e.1 := by
  obtain ⟨t, ht, hv⟩ := mem_filterMap.1 hmem
  obtain ⟨v, -, rfl⟩ := Option.map_eq_some_iff.1 hv
  exact ⟨t, mem_reverse.1 ht, rfl⟩

variable {past size} {cap : ℕ} {ticks : List (τ × Option α)} {history : List (τ × α)}

theorem Ticked.total_le (h : Ticked past size cap ticks history) : total size history ≤ cap := by
  induction h with
  | start => exact Nat.zero_le _
  | skip _ _ ih => exact ih
  | look _ now ih => exact (total_live_le past size now _).trans ih
  | charge _ now v hroom _ =>
    rw [total_append]
    simpa [total] using hroom

theorem Ticked.kept (h : Ticked past size cap ticks history) {last older : List (τ × Option α)}
    (hticks : ticks = last ++ older) (hnear : Near past last) : charges last <:+ history := by
  have hold : ∀ {now : τ} {c : Option α} {rest : List (τ × Option α)},
      Near past ((now, c) :: rest) → ∀ e ∈ charges rest, past now e.1 = false := by
    intro now c rest hnear e hmem
    obtain ⟨t, ht, htime⟩ := time_of_mem_charges hmem
    rw [← htime]
    exact (pairwise_cons.1 hnear).1 t ht
  induction h generalizing last with
  | start =>
    rw [(append_eq_nil_iff.1 hticks.symm).1]
    exact suffix_refl _
  | @skip ticks history _ now ih =>
    cases last with
    | nil => exact nil_suffix
    | cons t rest =>
      obtain ⟨rfl, hrest⟩ := List.cons.inj hticks
      have hkept := ih hrest (pairwise_cons.1 hnear).2
      simpa [charges] using hkept
  | @look ticks history _ now ih =>
    cases last with
    | nil => exact nil_suffix
    | cons t rest =>
      obtain ⟨rfl, hrest⟩ := List.cons.inj hticks
      have hkept := suffix_live past (ih hrest (pairwise_cons.1 hnear).2) (hold hnear)
      simpa [charges] using hkept
  | @charge ticks history _ now v _ ih =>
    cases last with
    | nil => exact nil_suffix
    | cons t rest =>
      obtain ⟨rfl, hrest⟩ := List.cons.inj hticks
      have hkept := suffix_live past (ih hrest (pairwise_cons.1 hnear).2) (hold hnear)
      obtain ⟨front, hfront⟩ := hkept
      refine ⟨front, ?_⟩
      rw [← hfront]
      simp [charges]

theorem Ticked.spent_le (h : Ticked past size cap ticks history)
    {newer middle older : List (τ × Option α)} (hticks : ticks = newer ++ (middle ++ older))
    (hnear : Near past middle) : spent size middle ≤ cap := by
  have hlast : ∀ {ticks history}, Ticked past size cap ticks history → ticks = middle ++ older →
      spent size middle ≤ cap := by
    intro ticks history h hticks
    obtain ⟨front, hfront⟩ := h.kept hticks hnear
    have htotal := h.total_le
    rw [← hfront, total_append, total_charges] at htotal
    omega
  induction h generalizing newer with
  | start =>
    have hnil := (append_eq_nil_iff.1 (append_eq_nil_iff.1 hticks.symm).2).1
    rw [hnil]
    exact Nat.zero_le _
  | skip h now ih =>
    cases newer with
    | nil => exact hlast (.skip h now) hticks
    | cons t newer => exact ih (List.cons.inj hticks).2
  | look h now ih =>
    cases newer with
    | nil => exact hlast (.look h now) hticks
    | cons t newer => exact ih (List.cons.inj hticks).2
  | charge h now v hroom ih =>
    cases newer with
    | nil => exact hlast (.charge h now v hroom) hticks
    | cons t newer => exact ih (List.cons.inj hticks).2

end Parp.RollingWindow
