import Mathlib.Data.List.Forall2

set_option autoImplicit false

/-!
# Fallible folds

What a computation that throws returns when it returns.
-/
namespace Parp.FallibleFolds

open List

variable {ε α β σ : Type} {x : Except ε α} {f : α → Except ε β}

theorem bind_eq_ok {r : β} : (x >>= f) = .ok r ↔ ∃ a, x = .ok a ∧ f a = .ok r := by
  cases x with
  | error e => exact ⟨fun h => (by cases h), fun ⟨_, h, _⟩ => (by cases h)⟩
  | ok a => exact ⟨fun h => ⟨a, rfl, h⟩, fun ⟨_, rfl, h⟩ => h⟩

theorem bind_eq_error {e : ε} :
    (x >>= f) = .error e ↔ x = .error e ∨ ∃ a, x = .ok a ∧ f a = .error e := by
  cases x with
  | error e' => exact ⟨fun h => .inl (by cases h; rfl), fun h => h.elim (fun h => (by cases h; rfl)) fun ⟨_, h, _⟩ => (by cases h)⟩
  | ok a => exact ⟨fun h => .inr ⟨a, rfl, h⟩, fun h => h.elim (fun h => (by cases h)) fun ⟨_, rfl, h⟩ => h⟩

theorem ok_bind (a : α) (f : α → Except ε β) : (Except.ok a >>= f) = f a := rfl

theorem guard_eq_ok_iff {check : Prop} [Decidable check] {e : ε} {x : Except ε β} {r : β} :
    (if check then throw e >>= f else x) = .ok r ↔ ¬ check ∧ x = .ok r := by
  by_cases hcheck : check
  · rw [if_pos hcheck]
    exact ⟨fun h => (by cases h), fun h => absurd hcheck h.1⟩
  · rw [if_neg hcheck]
    exact ⟨fun h => ⟨hcheck, h⟩, fun h => h.2⟩

theorem map_eq_ok {f : α → β} {r : β} : (f <$> x) = .ok r ↔ ∃ a, x = .ok a ∧ f a = r := by
  cases x with
  | error e => exact ⟨fun h => (by cases h), fun ⟨_, h, _⟩ => (by cases h)⟩
  | ok a => exact ⟨fun h => ⟨a, rfl, Except.ok.inj h⟩, fun ⟨_, rfl, h⟩ => congrArg _ h⟩

theorem mapError_eq_ok {ε' : Type} {f : ε → ε'} {a : α} : x.mapError f = .ok a ↔ x = .ok a := by
  cases x with
  | error e => exact ⟨fun h => (by cases h), fun h => (by cases h)⟩
  | ok b => exact ⟨fun h => congrArg _ (Except.ok.inj h), fun h => congrArg _ (Except.ok.inj h)⟩

theorem foldlM_invariant {f : σ → α → Except ε σ} {I : σ → Prop}
    (hstep : ∀ s a s', f s a = .ok s' → I s → I s') {s s' : σ} {xs : List α}
    (h : xs.foldlM f s = .ok s') (hs : I s) : I s' := by
  induction xs generalizing s with
  | nil =>
    cases h
    exact hs
  | cons a xs ih =>
    rw [foldlM_cons] at h
    obtain ⟨t, ht, hrest⟩ := bind_eq_ok.1 h
    exact ih hrest (hstep s a t ht hs)

section

variable {r : α → β → Prop} {xs : List α} {ys : List β}

theorem related_left (h : List.Forall₂ r xs ys) {x : α} (hx : x ∈ xs) : ∃ y ∈ ys, r x y := by
  induction h with
  | nil => cases hx
  | cons hhead _ ih =>
    rcases mem_cons.1 hx with rfl | hx
    · exact ⟨_, .head _, hhead⟩
    · obtain ⟨y, hy, hrelated⟩ := ih hx
      exact ⟨y, .tail _ hy, hrelated⟩

theorem related_right (h : List.Forall₂ r xs ys) {y : β} (hy : y ∈ ys) : ∃ x ∈ xs, r x y :=
  related_left h.flip hy

theorem related_map {γ : Type} {f : α → γ} {g : β → γ} (h : List.Forall₂ r xs ys)
    (hsame : ∀ x y, r x y → g y = f x) : ys.map g = xs.map f := by
  induction h with
  | nil => rfl
  | cons hhead _ ih => rw [map_cons, map_cons, hsame _ _ hhead, ih]

end

section

variable {ε' γ : Type}

inductive Same (r : α → β → Prop) : Except ε α → Except ε' β → Prop where
  | ok {a : α} {b : β} (h : r a b) : Same r (.ok a) (.ok b)
  | error (e : ε) (e' : ε') : Same r (.error e) (.error e')

theorem Same.bind {r : α → β → Prop} {x : Except ε α} {y : Except ε' β} (h : Same r x y)
    {δ : Type} {q : γ → δ → Prop} {f : α → Except ε γ} {g : β → Except ε' δ}
    (hnext : ∀ a b, r a b → Same q (f a) (g b)) : Same q (x >>= f) (y >>= g) := by
  cases h with
  | ok h => exact hnext _ _ h
  | error e e' => exact .error e e'

variable {f : γ → Except ε α}

theorem mapM_same {r : α → β → Prop} {g : γ → Except ε' β} {xs : List γ}
    (h : ∀ x ∈ xs, Same r (f x) (g x)) : Same (List.Forall₂ r) (xs.mapM f) (xs.mapM g) := by
  induction xs with
  | nil => exact .ok .nil
  | cons x xs ih =>
    rw [mapM_cons, mapM_cons]
    refine (h x (.head _)).bind fun a b hab => ?_
    exact (ih fun y hy => h y (.tail _ hy)).bind fun as bs hrest => .ok (.cons hab hrest)

theorem mapM_ok {v : γ → α} {xs : List γ} (h : ∀ x ∈ xs, f x = .ok (v x)) :
    xs.mapM f = .ok (xs.map v) := by
  induction xs with
  | nil => rfl
  | cons x xs ih =>
    rw [mapM_cons, h x (.head _), ih fun y hy => h y (.tail _ hy)]
    rfl

theorem mapM_returns {xs : List γ} (h : ∀ x ∈ xs, ∃ y, f x = .ok y) : ∃ ys, xs.mapM f = .ok ys := by
  induction xs with
  | nil => exact ⟨[], rfl⟩
  | cons x xs ih =>
    obtain ⟨y, hy⟩ := h x (.head _)
    obtain ⟨ys, hys⟩ := ih fun z hz => h z (.tail _ hz)
    refine ⟨y :: ys, ?_⟩
    rw [mapM_cons, hy, hys]
    rfl

theorem mapM_eq_ok_iff {xs : List γ} {ys : List α} :
    xs.mapM f = .ok ys ↔ List.Forall₂ (fun x y => f x = .ok y) xs ys := by
  induction xs generalizing ys with
  | nil =>
    rw [mapM_nil, forall₂_nil_left_iff]
    exact ⟨fun h => (Except.ok.inj h).symm, fun h => congrArg Except.ok h.symm⟩
  | cons x xs ih =>
    rw [mapM_cons, bind_eq_ok]
    constructor
    · rintro ⟨y, hy, hrest⟩
      obtain ⟨ys', hys, heq⟩ := bind_eq_ok.1 hrest
      obtain rfl := Except.ok.inj heq
      exact .cons hy (ih.1 hys)
    · rintro (_ | ⟨hy, hrest⟩)
      exact ⟨_, hy, bind_eq_ok.2 ⟨_, ih.2 hrest, rfl⟩⟩

theorem forM_eq_ok_iff {f : γ → Except ε Unit} {xs : List γ} :
    xs.forM f = .ok () ↔ ∀ x ∈ xs, f x = .ok () := by
  induction xs with
  | nil => exact ⟨fun _ _ hmem => absurd hmem not_mem_nil, fun _ => rfl⟩
  | cons x xs ih =>
    change (f x >>= fun _ => xs.forM f) = .ok () ↔ _
    rw [bind_eq_ok, forall_mem_cons, ← ih]
    exact ⟨fun ⟨_, hx, hrest⟩ => ⟨hx, hrest⟩, fun ⟨hx, hrest⟩ => ⟨(), hx, hrest⟩⟩

theorem mapM_length {xs : List γ} {ys : List α} (h : xs.mapM f = .ok ys) : ys.length = xs.length :=
  (mapM_eq_ok_iff.1 h).length_eq.symm

end

end Parp.FallibleFolds
