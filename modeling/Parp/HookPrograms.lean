import Mathlib.Data.List.Basic

set_option autoImplicit false

/-!
# Programs that call hooks

A program is its calls and what it does with what comes back, a value or an exception. Hooks have a
state of their own and may answer every call differently, so what a program ensures is proved for
all answers to all of its calls.
-/
namespace Parp.HookPrograms

variable {Op : Type} {Answer : Op → Type} {ε ρ σ α β : Type}

structure Call (Op : Type) (Answer : Op → Type) (ε : Type) where
  op : Op
  answer : Except ε (Answer op)

inductive Program (Op : Type) (Answer : Op → Type) (ε α : Type)
  | ret (value : α)
  | call (op : Op) (next : Except ε (Answer op) → Program Op Answer ε α)

abbrev Hooks (Op : Type) (Answer : Op → Type) (ε σ : Type) :=
  (op : Op) → σ → Except ε (Answer op) × σ

namespace Program

def bind : Program Op Answer ε α → (α → Program Op Answer ε β) → Program Op Answer ε β
  | ret value, f => f value
  | call op next, f => call op fun answer => (next answer).bind f

def run (hooks : Hooks Op Answer ε σ) : Program Op Answer ε α → σ → List (Call Op Answer ε) × α
  | ret value, _ => ([], value)
  | call op next, world =>
    let back := hooks op world
    let rest := (next back.1).run hooks back.2
    (⟨op, back.1⟩ :: rest.1, rest.2)

/-- After these calls, `P` holds of all calls and the value in the end, whatever is answered. -/
def Always (P : List (Call Op Answer ε) → α → Prop) (calls : List (Call Op Answer ε)) :
    Program Op Answer ε α → Prop
  | ret value => P calls value
  | call op next => ∀ answer, (next answer).Always P (calls ++ [⟨op, answer⟩])

variable {P Q : List (Call Op Answer ε) → α → Prop} {program : Program Op Answer ε α}

theorem always_run (hooks : Hooks Op Answer ε σ) :
    ∀ {calls : List (Call Op Answer ε)} (world : σ), program.Always P calls →
      P (calls ++ (program.run hooks world).1) (program.run hooks world).2 := by
  induction program with
  | ret value =>
    intro calls world h
    rw [run, List.append_nil]
    exact h
  | call op next ih =>
    intro calls world h
    have hrest := ih (hooks op world).1 (hooks op world).2 (h (hooks op world).1)
    rw [List.append_assoc] at hrest
    exact hrest

theorem always_mono (hPQ : ∀ calls value, P calls value → Q calls value) :
    ∀ {calls : List (Call Op Answer ε)}, program.Always P calls → program.Always Q calls := by
  induction program with
  | ret value => exact fun h => hPQ _ value h
  | call op next ih => exact fun h answer => ih answer (h answer)

theorem always_bind {P : List (Call Op Answer ε) → β → Prop} {f : α → Program Op Answer ε β} :
    ∀ {calls : List (Call Op Answer ε)},
      (program.bind f).Always P calls ↔
        program.Always (fun calls value => (f value).Always P calls) calls := by
  induction program with
  | ret value => exact Iff.rfl
  | call op next ih => exact forall_congr' fun answer => ih answer

end Program

section

def Exec (Op : Type) (Answer : Op → Type) (ε ρ α : Type) :=
  ρ → Program Op Answer ε (Except ε α × ρ)

instance : Monad (Exec Op Answer ε ρ) where
  pure value := fun r => .ret (.ok value, r)
  bind x f := fun r => (x r).bind fun back =>
    match back.1 with
    | .ok value => f value back.2
    | .error e => .ret (.error e, back.2)

def ask (op : Op) : Exec Op Answer ε ρ (Answer op) := fun r => .call op fun answer =>
  .ret (answer, r)

def lift (x : Except ε α) : Exec Op Answer ε ρ α := fun r => .ret (x, r)

def update (f : ρ → ρ) : Exec Op Answer ε ρ Unit := fun r => .ret (.ok (), f r)

/-- After these calls and in this state, the program returns with `Q` or throws with `E`. -/
def Ensures (Q : List (Call Op Answer ε) → α → ρ → Prop) (E : List (Call Op Answer ε) → ρ → Prop)
    (calls : List (Call Op Answer ε)) (r : ρ) (x : Exec Op Answer ε ρ α) : Prop :=
  (x r).Always (fun calls back =>
    match back.1 with
    | .ok value => Q calls value back.2
    | .error _ => E calls back.2) calls

variable {calls : List (Call Op Answer ε)} {r : ρ} {x : Exec Op Answer ε ρ α}
  {f : α → Exec Op Answer ε ρ β} {E : List (Call Op Answer ε) → ρ → Prop}

theorem ensures_pure {Q : List (Call Op Answer ε) → α → ρ → Prop} {value : α}
    (h : Q calls value r) : Ensures Q E calls r (pure value) := h

theorem ensures_bind {Q : List (Call Op Answer ε) → β → ρ → Prop}
    (h : Ensures (fun calls value r => Ensures Q E calls r (f value)) E calls r x) :
    Ensures Q E calls r (x >>= f) := by
  refine Program.always_bind.2 (Program.always_mono ?_ h)
  rintro calls ⟨answer, r⟩ hback
  cases answer with
  | ok value => exact hback
  | error e => exact hback

theorem ensures_ask {op : Op} {Q : List (Call Op Answer ε) → Answer op → ρ → Prop}
    (hok : ∀ value, Q (calls ++ [⟨op, .ok value⟩]) value r)
    (herror : ∀ e, E (calls ++ [⟨op, .error e⟩]) r) : Ensures Q E calls r (ask op) := by
  intro answer
  cases answer with
  | ok value => exact hok value
  | error e => exact herror e

theorem ensures_lift {Q : List (Call Op Answer ε) → α → ρ → Prop} {x : Except ε α}
    (hok : ∀ value, x = .ok value → Q calls value r) (herror : ∀ e, x = .error e → E calls r) :
    Ensures Q E calls r (lift x) := by
  cases x with
  | ok value => exact hok value rfl
  | error e => exact herror e rfl

theorem ensures_update {Q : List (Call Op Answer ε) → Unit → ρ → Prop} {g : ρ → ρ}
    (h : Q calls () (g r)) : Ensures Q E calls r (update g) := h

theorem ensures_ite {Q : List (Call Op Answer ε) → α → ρ → Prop} {c : Prop} [Decidable c]
    {y : Exec Op Answer ε ρ α} (hpos : c → Ensures Q E calls r x)
    (hneg : ¬ c → Ensures Q E calls r y) : Ensures Q E calls r (if c then x else y) := by
  split_ifs with h
  · exact hpos h
  · exact hneg h

end

section

variable {w : Op → Bool} {calls before after : List (Call Op Answer ε)}

/-- No call is of the operations `w`. -/
def Silent (w : Op → Bool) (calls : List (Call Op Answer ε)) : Prop := ∀ c ∈ calls, w c.op = false

theorem silent_concat (h : Silent w calls) {op : Op} (hop : w op = false)
    (answer : Except ε (Answer op)) : Silent w (calls ++ [⟨op, answer⟩]) := by
  intro c hc
  rcases List.mem_append.1 hc with hc | hc
  · exact h c hc
  · obtain rfl := List.mem_singleton.1 hc
    exact hop

theorem countP_silent (h : Silent w calls) : calls.countP (fun c => w c.op) = 0 := by
  refine List.countP_eq_zero.2 fun c hc => ?_
  rw [h c hc]
  exact Bool.false_ne_true

theorem countP_split (hbefore : Silent w before) (hafter : Silent w after) (c : Call Op Answer ε) :
    (before ++ c :: after).countP (fun c => w c.op) ≤ 1 := by
  rw [List.countP_append, List.countP_cons, countP_silent hbefore, countP_silent hafter]
  split_ifs
  · exact Nat.le_refl 1
  · exact Nat.zero_le 1

end

section

variable {p : α → Bool} {left right left' right' : List α} {a a' : α}

theorem split_unique (hleft : ∀ b ∈ left, p b = false) (hright : ∀ b ∈ right, p b = false)
    (ha : p a' = true) (h : left ++ a :: right = left' ++ a' :: right') :
    left' = left ∧ a' = a ∧ right' = right := by
  induction left generalizing left' with
  | nil =>
    cases left' with
    | nil =>
      cases h
      exact ⟨rfl, rfl, rfl⟩
    | cons b left' =>
      rw [List.nil_append, List.cons_append] at h
      cases h
      rw [hright a' (List.mem_append_right _ (.head _))] at ha
      cases ha
  | cons b left ih =>
    cases left' with
    | nil =>
      rw [List.cons_append, List.nil_append] at h
      cases h
      rw [hleft a' (.head _)] at ha
      cases ha
    | cons c left' =>
      rw [List.cons_append, List.cons_append] at h
      obtain ⟨rfl, hrest⟩ := List.cons.inj h
      obtain ⟨rfl, rfl, rfl⟩ := ih (fun b hb => hleft b (.tail _ hb)) hrest
      exact ⟨rfl, rfl, rfl⟩

end

end Parp.HookPrograms
