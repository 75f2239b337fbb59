import Mathlib.Data.List.Basic

set_option autoImplicit false

/-!
# Programs of atomic steps

Straight-line code and bounded retry loops over a shared memory, and pools of threads that run
them. A step reads the memory and changes it in one go; what other threads do happens between steps.
-/
namespace Parp.AtomicPrograms

variable {σ α β γ : Type}

inductive Prog (σ α : Type)
  | ret (value : α)
  | step (update : σ → σ) (next : σ → Prog σ α)

namespace Prog

def read (field : σ → β) (next : β → Prog σ α) : Prog σ α := .step id fun s => next (field s)

def write (update : σ → σ) (next : Prog σ α) : Prog σ α := .step update fun _ => next

/-- Compare-and-swap of one cell; `next` learns whether it won. -/
def cas [DecidableEq γ] (cell : σ → γ) (put : γ → σ → σ) (expected new : γ)
    (next : Bool → Prog σ α) : Prog σ α :=
  .step (fun s => if cell s = expected then put new s else s) fun s => next (cell s = expected)

/-- The program alone, when `keep before after` is what a step really stores. -/
def runWith (keep : σ → σ → σ) : Prog σ α → σ → σ × α
  | .ret value, s => (s, value)
  | .step update next, s => (next s).runWith keep (keep s (update s))

def eval (prog : Prog σ α) (s : σ) : α := (prog.runWith (fun before _ => before) s).2

def map (f : α → β) : Prog σ α → Prog σ β
  | .ret value => .ret (f value)
  | .step update next => .step update fun s => (next s).map f

def bind (prog : Prog σ α) (next : α → Prog σ β) : Prog σ β :=
  match prog with
  | .ret value => next value
  | .step update rest => .step update fun s => (rest s).bind next

instance : Monad (Prog σ) where
  pure := .ret
  bind := bind

def get (field : σ → β) : Prog σ β := read field .ret

/-- Whatever the program reads, the value it returns satisfies `Q`. -/
def Returns (Q : α → Prop) : Prog σ α → Prop
  | .ret value => Q value
  | .step _ next => ∀ s, (next s).Returns Q

theorem runWith_map (keep : σ → σ → σ) (f : α → β) (prog : Prog σ α) (s : σ) :
    (prog.map f).runWith keep s = ((prog.runWith keep s).1, f (prog.runWith keep s).2) := by
  induction prog generalizing s with
  | ret value => rfl
  | step update next ih => exact ih s (keep s (update s))

@[simp] theorem eval_bind (prog : Prog σ α) (next : α → Prog σ β) (s : σ) :
    (prog >>= next).eval s = (next (prog.eval s)).eval s := by
  induction prog with
  | ret value => rfl
  | step update rest ih => exact ih s

@[simp] theorem eval_pure (value : α) (s : σ) : (pure value : Prog σ α).eval s = value := rfl

@[simp] theorem eval_get (field : σ → β) (s : σ) : (get field).eval s = field s := rfl

theorem eval_ite {c : Prop} [Decidable c] (left right : Prog σ α) (s : σ) :
    (if c then left else right).eval s = if c then left.eval s else right.eval s :=
  apply_ite (fun prog : Prog σ α => prog.eval s) c left right

section

variable {Q : α → Prop}

theorem returns_read {field : σ → β} {next : β → Prog σ α} (h : ∀ value, (next value).Returns Q) :
    (read field next).Returns Q :=
  fun s => h (field s)

theorem returns_write {update : σ → σ} {next : Prog σ α} (h : next.Returns Q) :
    (write update next).Returns Q :=
  fun _ => h

theorem returns_bind {prog : Prog σ α} {next : α → Prog σ β} {R : β → Prop} (h : prog.Returns Q)
    (hnext : ∀ value, Q value → (next value).Returns R) : (prog >>= next).Returns R := by
  induction prog with
  | ret value => exact hnext value h
  | step update rest ih => exact fun s => ih s (h s)

theorem returns_rest {prog : Prog σ α} {next : α → Prog σ β} {R : β → Prop}
    (h : ∀ value, (next value).Returns R) : (prog >>= next).Returns R := by
  induction prog with
  | ret value => exact h value
  | step update rest ih => exact ih

theorem returns_runWith {prog : Prog σ α} (h : prog.Returns Q) (keep : σ → σ → σ) (s : σ) :
    Q (prog.runWith keep s).2 := by
  induction prog generalizing s with
  | ret value => exact h
  | step update next ih => exact ih s (h s) (keep s (update s))

theorem returns_map {prog : Prog σ α} {f : α → β} {R : β → Prop} (h : prog.Returns Q)
    (hf : ∀ value, Q value → R (f value)) : (prog.map f).Returns R := by
  induction prog with
  | ret value => exact hf value h
  | step update next ih => exact fun s => ih s (h s)

end

end Prog

section

variable {τ : Type} {P : ℕ → τ → Prop} {threads : List τ}

theorem pool_set {t : ℕ} {thread : τ}
    (hothers : ∀ i other, i ≠ t → threads[i]? = some other → P i other) (hthread : P t thread) :
    ∀ i other, (threads.set t thread)[i]? = some other → P i other := by
  intro i other hother
  rw [List.getElem?_set] at hother
  split_ifs at hother with hsame hbound
  · rw [← hsame, ← Option.some.inj hother]
    exact hthread
  · exact hothers i other (Ne.symm hsame) hother

theorem pool_alone {Inside : τ → Prop} {t : ℕ} {thread : τ}
    (halone : ∀ (i : ℕ) (first : τ), threads[i]? = some first → Inside first →
      ∀ (j : ℕ) (other : τ), threads[j]? = some other → Inside other → j = i)
    (hthread : Inside thread → ∀ (i : ℕ) (other : τ), i ≠ t → threads[i]? = some other →
      ¬ Inside other) :
    ∀ (i : ℕ) (first : τ), (threads.set t thread)[i]? = some first → Inside first →
      ∀ (j : ℕ) (other : τ), (threads.set t thread)[j]? = some other → Inside other → j = i := by
  apply pool_set
  · intro i first hi hfirst hinside
    apply pool_set
    · intro j other _ hother hother'
      exact halone i first hfirst hinside j other hother hother'
    · intro hinside'
      exact absurd hinside (hthread hinside' i first hi hfirst)
  · intro hinside
    apply pool_set
    · intro j other hj hother hother'
      exact absurd hother' (hthread hinside j other hj hother)
    · intro _
      rfl

theorem pool_start {thread : τ} (hothers : ∀ i other, threads[i]? = some other → P i other)
    (hthread : P threads.length thread) :
    ∀ i other, (threads ++ [thread])[i]? = some other → P i other := by
  intro i other hother
  by_cases hbound : i < threads.length
  · rw [List.getElem?_append_left hbound] at hother
    exact hothers i other hother
  · rw [List.getElem?_append_right (Nat.le_of_not_lt hbound)] at hother
    obtain ⟨hzero, hlast⟩ := List.getElem?_eq_some_iff.1 hother
    have hi : i = threads.length := by
      have hlength : ([thread] : List τ).length = 1 := rfl
      omega
    subst hi
    have hsame : thread = other := by simpa using hother
    exact hsame ▸ hthread

theorem mem_set_of_ne {t i : ℕ} {thread other : τ} (hi : i ≠ t) (hother : threads[i]? = some other) :
    other ∈ threads.set t thread := by
  apply List.mem_of_getElem? (i := i)
  rw [List.getElem?_set_ne (Ne.symm hi)]
  exact hother

theorem mem_set_self {t : ℕ} {thread old : τ} (h : threads[t]? = some old) :
    thread ∈ threads.set t thread := by
  obtain ⟨hbound, -⟩ := List.getElem?_eq_some_iff.1 h
  exact List.mem_set hbound thread

end

end Parp.AtomicPrograms

/-!
# Programs among other threads

Before each of a program's steps the memory changes as `rely` allows. A run keeps what its own
steps found and left; `Ensures` is what holds after every run, worked out from the program.
-/
namespace Parp.AtomicPrograms.Prog

variable {σ α β : Type} {rely : σ → σ → Prop}

inductive Runs (rely : σ → σ → Prop) : Prog σ α → σ → List (σ × σ) → σ → α → Prop
  | ret (value : α) (s : σ) : Runs rely (.ret value) s [] s value
  | step {update : σ → σ} {next : σ → Prog σ α} {s found left : σ} {rest : List (σ × σ)} {value : α}
      (hrely : rely s found) (hrest : Runs rely (next found) (update found) rest left value) :
      Runs rely (.step update next) s ((found, update found) :: rest) left value

def Ensures (rely : σ → σ → Prop) : Prog σ α → (List (σ × σ) → α → σ → Prop) → σ → Prop
  | .ret value, post, s => post [] value s
  | .step update next, post, s =>
    ∀ found, rely s found →
      (next found).Ensures rely (fun rest => post ((found, update found) :: rest)) (update found)

section

variable {post post' : List (σ × σ) → α → σ → Prop} {prog : Prog σ α} {s left : σ}

theorem Runs.ensures {own : List (σ × σ)} {value : α} (hrun : Runs rely prog s own left value)
    (h : prog.Ensures rely post s) : post own value left := by
  induction hrun generalizing post with
  | ret value s => exact h
  | step hrely hrest ih => exact ih (h _ hrely)

theorem ensures_runs (prog : Prog σ α) (s : σ) :
    prog.Ensures rely (fun own value left => Runs rely prog s own left value) s := by
  have hgeneral : ∀ (prog : Prog σ α) (s : σ) (post : List (σ × σ) → α → σ → Prop),
      (∀ own value left, Runs rely prog s own left value → post own value left) →
      prog.Ensures rely post s := by
    intro prog
    induction prog with
    | ret value => exact fun s post h => h _ _ _ (.ret value s)
    | step update next ih =>
      intro s post h found hrely
      exact ih found _ _ fun own value left hrest => h _ _ _ (.step hrely hrest)
  exact hgeneral prog s _ fun _ _ _ hrun => hrun

theorem Ensures.mono (h : prog.Ensures rely post s)
    (hpost : ∀ own value left, post own value left → post' own value left) :
    prog.Ensures rely post' s := by
  induction prog generalizing post post' s with
  | ret value => exact hpost _ _ _ h
  | step update next ih =>
    exact fun found hrely => ih found (h found hrely) fun _ _ _ hrest => hpost _ _ _ hrest

theorem Ensures.and (h : prog.Ensures rely post s) (h' : prog.Ensures rely post' s) :
    prog.Ensures rely (fun own value left => post own value left ∧ post' own value left) s := by
  induction prog generalizing post post' s with
  | ret value => exact ⟨h, h'⟩
  | step update next ih => exact fun found hrely => ih found (h found hrely) (h' found hrely)

theorem ensures_map (f : α → β) {post : List (σ × σ) → β → σ → Prop} :
    (prog.map f).Ensures rely post s ↔
      prog.Ensures rely (fun own value left => post own (f value) left) s := by
  induction prog generalizing post s with
  | ret value => rfl
  | step update next ih =>
    change (∀ found, rely s found → _) ↔ ∀ found, rely s found → _
    simp only [ih]

theorem ensures_bind {next : α → Prog σ β} {post : List (σ × σ) → β → σ → Prop} :
    (prog >>= next).Ensures rely post s ↔
      prog.Ensures rely (fun own value left =>
        (next value).Ensures rely (fun rest => post (own ++ rest)) left) s := by
  induction prog generalizing post s with
  | ret value => rfl
  | step update rest ih =>
    exact forall_congr' fun found => forall_congr' fun _ => ih found

/-- What only depends on the last steps of a program is shown for its rest alone. -/
theorem ensures_rest {Q : α → Prop} {next : α → Prog σ β} {post : List (σ × σ) → β → σ → Prop}
    (hpost : ∀ before own value left, post own value left → post (before ++ own) value left)
    (hprog : prog.Returns Q) (h : ∀ value, Q value → ∀ s, (next value).Ensures rely post s) :
    (prog >>= next).Ensures rely post s := by
  induction prog generalizing s with
  | ret value => exact h value hprog s
  | step update rest ih =>
    intro found _
    exact (ih found (hprog found)).mono fun own value left hown =>
      hpost [(found, update found)] own value left hown

theorem ensures_step {update : σ → σ} {next : σ → Prog σ α} {I : σ → Prop}
    (hstable : ∀ s found, rely s found → I s → I found) (hs : I s)
    (h : ∀ found, I found → (next found).Ensures rely
      (fun rest => post ((found, update found) :: rest)) (update found)) :
    (Prog.step update next).Ensures rely post s :=
  fun found hrely => h found (hstable s found hrely hs)

end

def runUnder : Prog σ α → List (σ → σ) → σ → List (σ × σ) × σ × α
  | .ret value, _, s => ([], s, value)
  | .step update next, moves, s =>
    let found := (moves.head?.getD id) s
    let rest := (next found).runUnder moves.tail (update found)
    ((found, update found) :: rest.1, rest.2)

theorem runs_runUnder (hrefl : ∀ s, rely s s) (prog : Prog σ α) {moves : List (σ → σ)}
    (hmoves : ∀ move ∈ moves, ∀ s, rely s (move s)) (s : σ) :
    Runs rely prog s (prog.runUnder moves s).1 (prog.runUnder moves s).2.1
      (prog.runUnder moves s).2.2 := by
  induction prog generalizing moves s with
  | ret value => exact .ret value s
  | step update next ih =>
    cases moves with
    | nil => exact .step (hrefl s) (ih s (fun _ hmove => (by cases hmove)) (update s))
    | cons move moves =>
      exact .step (hmoves move List.mem_cons_self s)
        (ih _ (fun other hother => hmoves other (List.mem_cons_of_mem _ hother)) _)

end Parp.AtomicPrograms.Prog
