import Mathlib.Data.List.Induction
import Mathlib.Data.Rat.Floor

set_option autoImplicit false

/-!
# TMO pacing

The TMO loop of the `high` reclaim mode: when one application is evaluated, backed off, due for a
pulse and submitted, and which of the due applications is served. Doubles are read as rationals.
-/
namespace Parp.TmoPacing

abbrev Bytes := ℕ

def Unlimited : Bytes := 2 ^ 64 - 1

/-- The sum of `core.hpp`, cut off at the largest number. -/
def add (a b : Bytes) : Bytes := if Unlimited - b < a then Unlimited else a + b

def amount (x : ℚ) : Bytes := if x ≤ 0 then 0 else min ⌊x⌋.toNat Unlimited

structure Options where
  assumedCompressRatio : ℚ := 3
  pulse : Bytes := 256 * 2 ^ 20
  tmoIntervalMs : ℕ := 2000
  tmoRatio : ℚ := 1 / 50
  tmoMinStep : Bytes := 2 * 2 ^ 20
  tmoPsiTargetUs : ℚ := 2000
  tmoBackoffSec : ℚ := 10

def Options.interval (o : Options) : ℚ := o.tmoIntervalMs / 1000

/-- `page ? n - n % page : n` -/
def pageFloor (page : ℕ) (n : Bytes) : Bytes := if page = 0 then n else n - n % page

def pulseLimit (o : Options) (room : Bytes) (page : ℕ) : Bytes :=
  pageFloor page (min o.pulse (amount (room * (1 - 1 / o.assumedCompressRatio))))

def tmoStep (o : Options) (room : Bytes) (psiUs : ℚ) (page : ℕ) : Bytes :=
  if o.tmoPsiTargetUs ≤ psiUs then 0
  else
    let scale := 1 - max 0 psiUs / o.tmoPsiTargetUs
    pageFloor page (max (amount (o.tmoRatio * room * scale)) o.tmoMinStep)

def tmoHasRoom (o : Options) (room : Bytes) (page : ℕ) : Prop := o.tmoMinStep ≤ pulseLimit o room page

instance decidableHasRoom (o : Options) (room : Bytes) (page : ℕ) :
    Decidable (tmoHasRoom o room page) := Nat.decLe ..

/-- Times and counter values, oldest first. -/
abbrev PsiWindow := List (ℚ × Bytes)

/-- `while (h_.size() >= 2 && h_[1].first <= t - keep) h_.pop_front()` -/
def trim (cut : ℚ) : PsiWindow → PsiWindow
  | first :: second :: rest => if second.1 ≤ cut then trim cut (second :: rest)
      else first :: second :: rest
  | short => short

def PsiWindow.add (h : PsiWindow) (t : ℚ) (total : Bytes) (keep : ℚ) : PsiWindow :=
  let kept := match h.getLast? with
    | none => h
    | some last => if total < last.2 ∨ t < last.1 then [] else h
  let extended := match kept.getLast? with
    | none => [(t, total)]
    | some last => if t = last.1 then kept.dropLast ++ [(t, total)] else kept ++ [(t, total)]
  trim (t - keep) extended

def aroundCut (cut : ℚ) : PsiWindow → Option ((ℚ × Bytes) × Option (ℚ × Bytes))
  | [] => none
  | [only] => some (only, none)
  | first :: second :: rest =>
    if second.1 ≤ cut then aroundCut cut (second :: rest) else some (first, some second)

def PsiWindow.over (h : PsiWindow) (span : ℚ) : Bytes :=
  match h, h.getLast? with
  | _ :: _ :: _, some last =>
    let cut := last.1 - span
    let base : ℚ := match aroundCut cut h with
      | some (a, some b) =>
        if a.1 < cut then a.2 + ((b.2 : ℚ) - a.2) * (cut - a.1) / (b.1 - a.1) else a.2
      | some (a, none) => a.2
      | none => 0
    let d := last.2 - base
    if 0 < d then amount (d + 1 / 2) else 0
  | _, _ => 0

structure TmoApp where
  psi : PsiWindow := []
  next : ℚ := 0
  backoffUntil : ℚ := 0
  dueSince : ℚ := -1
  step : Bytes := 0
  lastPsi : Bytes := 0

def TmoApp.tmoEvaluate (o : Options) (page : ℕ) (a : TmoApp) (now : ℚ) (eligible : Bool)
    (room : Bytes) : TmoApp :=
  if !eligible then { a with dueSince := -1 }
  else if now < a.next then a
  else
    let p := a.psi.over o.interval
    if o.tmoPsiTargetUs ≤ p then
      { a with
        lastPsi := p
        backoffUntil := now + o.tmoBackoffSec
        next := now + o.tmoBackoffSec
        dueSince := -1 }
    else if ¬ tmoHasRoom o room page then
      { a with
        lastPsi := p
        next := now + o.interval
        dueSince := -1 }
    else
      { a with
        lastPsi := p
        next := now + o.interval
        step := tmoStep o room p page
        dueSince := if a.dueSince < 0 then now else a.dueSince }

def TmoApp.tmoSubmitted (o : Options) (a : TmoApp) (now : ℚ) : TmoApp :=
  { a with
    dueSince := -1
    next := max a.next (now + o.interval) }

inductive Call
  | sample (t : ℚ) (total : Bytes)
  | resetPsi
  | evaluate (now : ℚ) (eligible : Bool) (room : Bytes)
  | submitted (now : ℚ)

variable (o : Options) (page : ℕ)

def TmoApp.call (a : TmoApp) : Call → TmoApp
  | .sample t total => { a with psi := a.psi.add t total o.interval }
  | .resetPsi => { a with psi := [] }
  | .evaluate now eligible room => a.tmoEvaluate o page now eligible room
  | .submitted now => a.tmoSubmitted o now

def TmoApp.run (a : TmoApp) (calls : List Call) : TmoApp := calls.foldl (TmoApp.call o page) a

/-- The choice of `runHigh` among the applications and their rooms: index and due time. -/
def pickDue : List (TmoApp × Bytes) → ℕ → Option (ℕ × ℚ) → Option (ℕ × ℚ)
  | [], _, due => due
  | (a, room) :: apps, i, due =>
    pickDue apps (i + 1) <|
      if 0 ≤ a.dueSince ∧ tmoHasRoom o room page ∧ (∀ d ∈ due, a.dueSince < d.2) then
        some (i, a.dueSince)
      else due

def served (apps : List (TmoApp × Bytes)) : Option ℕ := (pickDue o page apps 0 none).map Prod.fst

def Call.time : Call → Option ℚ
  | .evaluate now _ _ => some now
  | .submitted now => some now
  | _ => none

def Orderly : TmoApp → ℚ → List Call → Prop
  | _, _, [] => True
  | a, clock, c :: calls =>
    clock ≤ c.time.getD clock ∧ (∀ now, c = .submitted now → 0 ≤ a.dueSince) ∧
      Orderly (a.call o page c) (c.time.getD clock) calls

end Parp.TmoPacing

/-!
# Laws of TMO pacing
-/
namespace Parp.TmoPacing

variable (o : Options) (page : ℕ)

inductive Evaluated (a : TmoApp) (now : ℚ) (room : Bytes) : Bool → TmoApp → Prop
  | ineligible : Evaluated a now room false { a with dueSince := -1 }
  | early (h : now < a.next) : Evaluated a now room true a
  | paused (h : a.next ≤ now) (hstall : o.tmoPsiTargetUs ≤ a.psi.over o.interval) :
      Evaluated a now room true
        { a with
          lastPsi := a.psi.over o.interval
          backoffUntil := now + o.tmoBackoffSec
          next := now + o.tmoBackoffSec
          dueSince := -1 }
  | full (h : a.next ≤ now) :
      Evaluated a now room true
        { a with
          lastPsi := a.psi.over o.interval
          next := now + o.interval
          dueSince := -1 }
  | due (h : a.next ≤ now) (hstall : a.psi.over o.interval < o.tmoPsiTargetUs) :
      Evaluated a now room true
        { a with
          lastPsi := a.psi.over o.interval
          next := now + o.interval
          step := tmoStep o room (a.psi.over o.interval) page
          dueSince := if a.dueSince < 0 then now else a.dueSince }

theorem tmoEvaluate_cases (a : TmoApp) (now : ℚ) (eligible : Bool) (room : Bytes) :
    Evaluated o page a now room eligible (a.tmoEvaluate o page now eligible room) := by
  cases eligible with
  | false => exact .ineligible
  | true =>
    unfold TmoApp.tmoEvaluate
    simp only [Bool.not_true, Bool.false_eq_true, if_false]
    by_cases hearly : now < a.next
    · rw [if_pos hearly]
      exact .early hearly
    · rw [if_neg hearly]
      by_cases hstall : o.tmoPsiTargetUs ≤ a.psi.over o.interval
      · rw [if_pos hstall]
        exact .paused (not_lt.1 hearly) hstall
      · rw [if_neg hstall]
        by_cases hfull : tmoHasRoom o room page
        · rw [if_neg (not_not.2 hfull)]
          exact .due (not_lt.1 hearly) (not_le.1 hstall)
        · rw [if_pos hfull]
          exact .full (not_lt.1 hearly)

theorem not_due : ¬ (0 : ℚ) ≤ -1 := by decide

section

variable {o page}

theorem run_append (a : TmoApp) (left right : List Call) :
    a.run o page (left ++ right) = (a.run o page left).run o page right := by
  simp [TmoApp.run]

theorem run_cons (a : TmoApp) (c : Call) (calls : List Call) :
    a.run o page (c :: calls) = (a.call o page c).run o page calls := rfl

def clockAfter (clock : ℚ) (calls : List Call) : ℚ :=
  calls.foldl (fun clock c => c.time.getD clock) clock

theorem orderly_append {a : TmoApp} {clock : ℚ} {left right : List Call} :
    Orderly o page a clock (left ++ right) ↔
      Orderly o page a clock left ∧
        Orderly o page (a.run o page left) (clockAfter clock left) right := by
  induction left generalizing a clock with
  | nil => exact ⟨fun h => ⟨trivial, h⟩, fun h => h.2⟩
  | cons c left ih =>
    change _ ∧ _ ∧ Orderly o page _ _ (left ++ right) ↔ (_ ∧ _ ∧ _) ∧ _
    rw [ih, and_assoc, and_assoc]
    rfl

theorem orderly_invariant {I : TmoApp → ℚ → Prop}
    (hstep : ∀ a clock c, I a clock → clock ≤ c.time.getD clock →
      (∀ now, c = .submitted now → 0 ≤ a.dueSince) → I (a.call o page c) (c.time.getD clock))
    {a : TmoApp} {clock : ℚ} {calls : List Call} (h : Orderly o page a clock calls)
    (hI : I a clock) : I (a.run o page calls) (clockAfter clock calls) := by
  induction calls generalizing a clock with
  | nil => exact hI
  | cons c calls ih => exact ih h.2.2 (hstep a clock c hI h.1 h.2.1)

end

section

/-- After a submission at `t` the application is evaluated, and so due, one interval later at the
earliest. -/
structure SpacedFrom (t : ℚ) (a : TmoApp) (clock : ℚ) : Prop where
  next : t + o.interval ≤ a.next ∨ t + o.interval ≤ clock
  due : 0 ≤ a.dueSince → t + o.interval ≤ clock

variable {o page}

theorem spaced_step {t : ℚ} (a : TmoApp) (clock : ℚ) (c : Call) (h : SpacedFrom o t a clock)
    (hclock : clock ≤ c.time.getD clock) : SpacedFrom o t (a.call o page c) (c.time.getD clock) := by
  cases c with
  | sample t total => exact ⟨h.next, h.due⟩
  | resetPsi => exact ⟨h.next, h.due⟩
  | submitted now =>
    change clock ≤ now at hclock
    refine ⟨?_, fun hdue => absurd hdue not_due⟩
    rcases h.next with hnext | hpast
    · exact .inl (hnext.trans (le_max_left _ _))
    · exact .inr (hpast.trans hclock)
  | evaluate now eligible room =>
    change clock ≤ now at hclock
    have hlater : t + o.interval ≤ clock → t + o.interval ≤ now := fun hpast => hpast.trans hclock
    have hreached : a.next ≤ now → t + o.interval ≤ now := fun hnow =>
      h.next.elim (fun hnext => hnext.trans hnow) hlater
    have hcase := tmoEvaluate_cases o page a now eligible room
    change SpacedFrom o t (a.tmoEvaluate o page now eligible room) now
    generalize a.tmoEvaluate o page now eligible room = a' at *
    cases hcase with
    | ineligible => exact ⟨h.next.imp id hlater, fun hdue => absurd hdue not_due⟩
    | early hearly => exact ⟨h.next.imp id hlater, fun hdue => hlater (h.due hdue)⟩
    | paused hnow hstall => exact ⟨.inr (hreached hnow), fun hdue => absurd hdue not_due⟩
    | full hnow => exact ⟨.inr (hreached hnow), fun hdue => absurd hdue not_due⟩
    | due hnow hstall => exact ⟨.inr (hreached hnow), fun _ => hreached hnow⟩

theorem submissions_spaced {start t t' : ℚ} {before mid after : List Call}
    (h : Orderly o page {} start (before ++ .submitted t :: (mid ++ .submitted t' :: after))) :
    t + o.interval ≤ t' := by
  obtain ⟨-, -, -, hrest⟩ := orderly_append.1 h
  obtain ⟨hmid, hclock, hdue, -⟩ := orderly_append.1 hrest
  have hstart : SpacedFrom o t ((({} : TmoApp).run o page before).call o page (.submitted t)) t :=
    ⟨.inl (le_max_right _ _), fun hdue => absurd hdue not_due⟩
  have hspaced := orderly_invariant (I := SpacedFrom o t)
    (fun a clock c hI hle _ => spaced_step a clock c hI hle) hmid hstart
  exact (hspaced.due (hdue t' rfl)).trans hclock

end

section

variable {o page}

theorem paused_run {resume : ℚ} {a : TmoApp} {clock : ℚ} {calls : List Call}
    (h : Orderly o page a clock calls) (hdue : a.dueSince < 0) (hnext : resume ≤ a.next)
    (htimes : ∀ t ∈ calls.filterMap Call.time, t < resume) :
    (a.run o page calls).dueSince < 0 := by
  induction calls generalizing a clock with
  | nil => exact hdue
  | cons c calls ih =>
    obtain ⟨-, hsubmitted, hrest⟩ := h
    rw [run_cons]
    cases c with
    | sample t total => exact ih hrest hdue hnext htimes
    | resetPsi => exact ih hrest hdue hnext htimes
    | submitted now => exact absurd (hsubmitted now rfl) (not_le.2 hdue)
    | evaluate now eligible room =>
      have hbefore : now < a.next :=
        (htimes now (List.mem_filterMap.2 ⟨_, .head _, rfl⟩)).trans_le hnext
      have htimes' : ∀ t ∈ calls.filterMap Call.time, t < resume := by
        intro t ht
        obtain ⟨c, hc, htime⟩ := List.mem_filterMap.1 ht
        exact htimes t (List.mem_filterMap.2 ⟨c, .tail _ hc, htime⟩)
      have hcase := tmoEvaluate_cases o page a now eligible room
      change Orderly o page (a.tmoEvaluate o page now eligible room) now calls at hrest
      change ((a.tmoEvaluate o page now eligible room).run o page calls).dueSince < 0
      generalize a.tmoEvaluate o page now eligible room = a' at *
      cases hcase with
      | ineligible => exact ih hrest (by norm_num) hnext htimes'
      | early hearly => exact ih hrest hdue hnext htimes'
      | paused hnow hstall => exact absurd hnow (not_le.2 hbefore)
      | full hnow => exact absurd hnow (not_le.2 hbefore)
      | due hnow hstall => exact absurd hnow (not_le.2 hbefore)

theorem stalled_pauses {start now : ℚ} {room : Bytes} {before mid after : List Call}
    (h : Orderly o page {} start (before ++ .evaluate now true room :: (mid ++ after)))
    (hnow : (({} : TmoApp).run o page before).next ≤ now)
    (hstall : o.tmoPsiTargetUs ≤ (({} : TmoApp).run o page before).psi.over o.interval)
    (htimes : ∀ t ∈ mid.filterMap Call.time, t < now + o.tmoBackoffSec) :
    (({} : TmoApp).run o page (before ++ .evaluate now true room :: mid)).dueSince < 0 := by
  obtain ⟨-, -, -, hrest⟩ := orderly_append.1 h
  obtain ⟨hmid, -⟩ := orderly_append.1 hrest
  rw [run_append, run_cons]
  generalize ({} : TmoApp).run o page before = a at *
  have hevaluated : a.call o page (.evaluate now true room) =
      { a with
        lastPsi := a.psi.over o.interval
        backoffUntil := now + o.tmoBackoffSec
        next := now + o.tmoBackoffSec
        dueSince := -1 } := by
    change a.tmoEvaluate o page now true room = _
    unfold TmoApp.tmoEvaluate
    simp only [Bool.not_true, Bool.false_eq_true, if_false]
    rw [if_neg (not_lt.2 hnow), if_pos hstall]
  rw [hevaluated] at hmid ⊢
  exact paused_run hmid (by norm_num) le_rfl htimes

end

section

theorem pageFloor_eq {page : ℕ} (hpage : page ≠ 0) (n : Bytes) : pageFloor page n = page * (n / page) := by
  unfold pageFloor
  rw [if_neg hpage]
  exact Nat.sub_eq_of_eq_add (Nat.div_add_mod n page).symm

theorem pageFloor_mono (page : ℕ) {m n : Bytes} (h : m ≤ n) : pageFloor page m ≤ pageFloor page n := by
  by_cases hpage : page = 0
  · unfold pageFloor
    rwa [if_pos hpage, if_pos hpage]
  · rw [pageFloor_eq hpage, pageFloor_eq hpage]
    exact Nat.mul_le_mul_left _ (Nat.div_le_div_right h)

variable {o page}

theorem tmoStep_spec {psiUs : ℚ} (h : psiUs < o.tmoPsiTargetUs) (room : Bytes) :
    (page ≠ 0 → page ∣ tmoStep o room psiUs page) ∧
      pageFloor page o.tmoMinStep ≤ tmoStep o room psiUs page := by
  unfold tmoStep
  rw [if_neg (not_le.2 h)]
  constructor
  · intro hpage
    rw [pageFloor_eq hpage]
    exact Nat.dvd_mul_right ..
  · exact pageFloor_mono page (le_max_right _ _)

theorem due_step (calls : List Call) (h : 0 ≤ (({} : TmoApp).run o page calls).dueSince) :
    ∃ earlier now room later, calls = earlier ++ .evaluate now true room :: later ∧
      (({} : TmoApp).run o page earlier).psi.over o.interval < o.tmoPsiTargetUs ∧
      (({} : TmoApp).run o page calls).step =
        tmoStep o room ((({} : TmoApp).run o page earlier).psi.over o.interval) page := by
  induction calls using List.reverseRecOn with
  | nil => exact absurd h not_due
  | append_singleton calls c ih =>
    rw [run_append] at h ⊢
    have hlater : 0 ≤ (({} : TmoApp).run o page calls).dueSince →
        (({} : TmoApp).run o page calls).step =
          ((({} : TmoApp).run o page calls).run o page [c]).step →
        ∃ earlier now room later, calls ++ [c] = earlier ++ .evaluate now true room :: later ∧
          (({} : TmoApp).run o page earlier).psi.over o.interval < o.tmoPsiTargetUs ∧
          ((({} : TmoApp).run o page calls).run o page [c]).step =
            tmoStep o room ((({} : TmoApp).run o page earlier).psi.over o.interval) page := by
      intro hdue hstep
      obtain ⟨earlier, now, room, later, hsplit, hstall, hwas⟩ := ih hdue
      exact ⟨earlier, now, room, later ++ [c], by simp [hsplit], hstall, hstep.symm.trans hwas⟩
    cases c with
    | sample t total => exact hlater h rfl
    | resetPsi => exact hlater h rfl
    | submitted now => exact absurd h not_due
    | evaluate now eligible room =>
      have hcase := tmoEvaluate_cases o page (({} : TmoApp).run o page calls) now eligible room
      change 0 ≤ (TmoApp.tmoEvaluate o page (({} : TmoApp).run o page calls) now eligible
        room).dueSince at h
      change _ → _ = (TmoApp.tmoEvaluate o page (({} : TmoApp).run o page calls) now eligible
        room).step → ∃ earlier now' room' later, _ ∧ _ ∧ (TmoApp.tmoEvaluate o page
          (({} : TmoApp).run o page calls) now eligible room).step = _ at hlater
      change ∃ earlier now' room' later, _ ∧ _ ∧ (TmoApp.tmoEvaluate o page
        (({} : TmoApp).run o page calls) now eligible room).step = _
      generalize TmoApp.tmoEvaluate o page (({} : TmoApp).run o page calls) now eligible
        room = a' at *
      cases hcase with
      | ineligible => exact absurd h not_due
      | early hearly => exact hlater h rfl
      | paused hnow hstall => exact absurd h not_due
      | full hnow => exact absurd h not_due
      | due hnow hstall => exact ⟨calls, now, room, [], rfl, hstall, rfl⟩

theorem due_since_keeps (a : TmoApp) (c : Call) (hbefore : 0 ≤ a.dueSince)
    (hafter : 0 ≤ (a.call o page c).dueSince) : (a.call o page c).dueSince = a.dueSince := by
  cases c with
  | sample t total => rfl
  | resetPsi => rfl
  | submitted now => exact absurd hafter not_due
  | evaluate now eligible room =>
    have hcase := tmoEvaluate_cases o page a now eligible room
    change 0 ≤ (a.tmoEvaluate o page now eligible room).dueSince at hafter
    change (a.tmoEvaluate o page now eligible room).dueSince = _
    generalize a.tmoEvaluate o page now eligible room = a' at *
    cases hcase with
    | ineligible => exact absurd hafter not_due
    | early hearly => rfl
    | paused hnow hstall => exact absurd hafter not_due
    | full hnow => exact absurd hafter not_due
    | due hnow hstall => exact if_neg (not_lt.2 hbefore)

end

section

variable {o page}

theorem pickDue_spec (apps : List (TmoApp × Bytes)) (i : ℕ) (due : Option (ℕ × ℚ)) {k : ℕ} {since : ℚ}
    (h : pickDue o page apps i due = some (k, since)) :
    (due = some (k, since) ∨ ∃ a room, i ≤ k ∧ apps[k - i]? = some (a, room) ∧ 0 ≤ a.dueSince ∧
        tmoHasRoom o room page ∧ a.dueSince = since) ∧
      (∀ d ∈ due, since ≤ d.2) ∧
      ∀ a room, (a, room) ∈ apps → 0 ≤ a.dueSince → tmoHasRoom o room page → since ≤ a.dueSince := by
  induction apps generalizing i due with
  | nil =>
    change due = _ at h
    subst h
    exact ⟨.inl rfl, fun d hd => by cases hd; exact le_rfl, fun a room hmem => by cases hmem⟩
  | cons first apps ih =>
    obtain ⟨a, room⟩ := first
    unfold pickDue at h
    obtain ⟨hfound, hleast, hrest⟩ := ih _ _ h
    by_cases htaken : 0 ≤ a.dueSince ∧ tmoHasRoom o room page ∧ ∀ d ∈ due, a.dueSince < d.2
    · rw [if_pos htaken] at hfound hleast
      obtain ⟨hdue, hroom, hearlier⟩ := htaken
      have hsince := hleast (i, a.dueSince) rfl
      refine ⟨.inr ?_, fun d hd => hsince.trans (hearlier d hd).le, ?_⟩
      · rcases hfound with heq | ⟨a', room', hle, hget, hfacts⟩
        · cases heq
          exact ⟨a, room, le_rfl, by simp, hdue, hroom, rfl⟩
        · refine ⟨a', room', by omega, ?_, hfacts⟩
          rwa [show k - i = (k - (i + 1)) + 1 by omega, List.getElem?_cons_succ]
      · intro a' room' hmem hdue' hroom'
        rcases List.mem_cons.1 hmem with heq | hmem
        · cases heq
          exact hsince
        · exact hrest a' room' hmem hdue' hroom'
    · rw [if_neg htaken] at hfound hleast
      refine ⟨?_, hleast, ?_⟩
      · rcases hfound with heq | ⟨a', room', hle, hget, hfacts⟩
        · exact .inl heq
        · refine .inr ⟨a', room', by omega, ?_, hfacts⟩
          rwa [show k - i = (k - (i + 1)) + 1 by omega, List.getElem?_cons_succ]
      · intro a' room' hmem hdue' hroom'
        rcases List.mem_cons.1 hmem with heq | hmem
        · cases heq
          -- something found earlier is due no later
          by_contra hlater
          refine htaken ⟨hdue', hroom', fun d hd => ?_⟩
          exact (not_le.1 hlater).trans_le (hleast d hd)
        · exact hrest a' room' hmem hdue' hroom'

theorem served_spec {apps : List (TmoApp × Bytes)} {k : ℕ} (h : served o page apps = some k) :
    ∃ a room, apps[k]? = some (a, room) ∧ 0 ≤ a.dueSince ∧ tmoHasRoom o room page ∧
      ∀ b room', (b, room') ∈ apps → 0 ≤ b.dueSince → tmoHasRoom o room' page →
        a.dueSince ≤ b.dueSince := by
  obtain ⟨⟨k', since⟩, hpick, rfl⟩ := Option.map_eq_some_iff.1 h
  obtain ⟨hfound, -, hleast⟩ := pickDue_spec apps 0 none hpick
  rcases hfound with heq | ⟨a, room, -, hget, hdue, hroom, rfl⟩
  · cases heq
  · exact ⟨a, room, hget, hdue, hroom, hleast⟩

end

structure Paced (calls : List Call) : Prop where
  spaced : ∀ before t mid t' after,
    calls = before ++ .submitted t :: (mid ++ .submitted t' :: after) → t + o.interval ≤ t'
  paused : ∀ before now room mid after,
    calls = before ++ .evaluate now true room :: (mid ++ after) →
    (({} : TmoApp).run o page before).next ≤ now →
    o.tmoPsiTargetUs ≤ (({} : TmoApp).run o page before).psi.over o.interval →
    (∀ t ∈ mid.filterMap Call.time, t < now + o.tmoBackoffSec) →
    (({} : TmoApp).run o page (before ++ .evaluate now true room :: mid)).dueSince < 0
  stepped : ∀ before after, calls = before ++ after →
    0 ≤ (({} : TmoApp).run o page before).dueSince →
    (page ≠ 0 → page ∣ (({} : TmoApp).run o page before).step) ∧
      pageFloor page o.tmoMinStep ≤ (({} : TmoApp).run o page before).step ∧
      ∃ earlier now room later, before = earlier ++ .evaluate now true room :: later ∧
        (({} : TmoApp).run o page earlier).psi.over o.interval < o.tmoPsiTargetUs ∧
        (({} : TmoApp).run o page before).step =
          tmoStep o room ((({} : TmoApp).run o page earlier).psi.over o.interval) page
  waits : ∀ before c after, calls = before ++ c :: after →
    0 ≤ (({} : TmoApp).run o page before).dueSince →
    0 ≤ (({} : TmoApp).run o page (before ++ [c])).dueSince →
    (({} : TmoApp).run o page (before ++ [c])).dueSince ≤
      (({} : TmoApp).run o page before).dueSince

/-- Of the due applications in `among` the served one is due longest. -/
def ServesLongest (among : Bytes → Prop) (apps : List (TmoApp × Bytes)) : Prop :=
  ∀ k, served o page apps = some k → ∃ a room, apps[k]? = some (a, room) ∧ 0 ≤ a.dueSince ∧
    ∀ b room', (b, room') ∈ apps → 0 ≤ b.dueSince → among room' → a.dueSince ≤ b.dueSince

theorem orderly_paced {start : ℚ} {calls : List Call} (h : Orderly o page {} start calls) :
    Paced o page calls := by
  constructor
  · rintro before t mid t' after rfl
    exact submissions_spaced h
  · rintro before now room mid after rfl hnow hstall htimes
    exact stalled_pauses h hnow hstall htimes
  · rintro before after rfl hdue
    obtain ⟨earlier, now, room, later, hsplit, hstall, hstep⟩ := due_step before hdue
    obtain ⟨hpage, hmin⟩ := @tmoStep_spec o page _ hstall room
    rw [← hstep] at hpage hmin
    exact ⟨hpage, hmin, earlier, now, room, later, hsplit, hstall, hstep⟩
  · rintro before c after rfl hdue hstays
    rw [run_append] at hstays ⊢
    exact (due_since_keeps _ c hdue hstays).le

/-- The calls of every application are paced, and of the due applications that have room the one due
longest is served. -/
theorem tmo_pacing {start : ℚ} {calls : List Call} (h : Orderly o page {} start calls)
    (apps : List (TmoApp × Bytes)) :
    Paced o page calls ∧ ServesLongest o page (fun room => tmoHasRoom o room page) apps := by
  refine ⟨orderly_paced o page h, fun k hserved => ?_⟩
  obtain ⟨a, room, hget, hdue, -, hleast⟩ := served_spec hserved
  exact ⟨a, room, hget, hdue, hleast⟩

def twoPulses : List Call :=
  [.evaluate 5 true (2 ^ 30), .submitted 6, .evaluate 7 true (2 ^ 30), .evaluate 8 true (2 ^ 30),
    .submitted 9]

theorem twoPulses_orderly : Orderly {} 4096 {} 0 twoPulses :=
  ⟨by decide +kernel, nofun, by decide +kernel, fun _ _ => by decide +kernel, by decide +kernel, nofun,
    by decide +kernel, nofun, by decide +kernel, fun _ _ => by decide +kernel, trivial⟩

theorem twoPulses_paced :
    Paced {} 4096 twoPulses ∧
      ServesLongest {} 4096 (fun room => tmoHasRoom {} room 4096)
        [(({} : TmoApp).run {} 4096 twoPulses, 2 ^ 30)] :=
  tmo_pacing {} 4096 twoPulses_orderly _

/-- The first application is due since 5 but has no room left, so the second, due since 10, is
served. -/
theorem full_app_waits : ¬ ∀ (runs : List (List Call × Bytes)),
    (∀ run ∈ runs, Orderly {} 4096 {} 0 run.1) →
    ServesLongest {} 4096 (fun _ => True)
      (runs.map fun run => (({} : TmoApp).run {} 4096 run.1, run.2)) := by
  intro h
  have horderly : ∀ t : ℚ, 0 ≤ t → Orderly {} 4096 {} 0 [.evaluate t true (2 ^ 30)] :=
    fun t ht => ⟨ht, nofun, trivial⟩
  obtain ⟨a, room, hget, -, hleast⟩ :=
    h [([.evaluate 5 true (2 ^ 30)], 0), ([.evaluate 10 true (2 ^ 30)], 2 ^ 30)]
      (by
        intro run hrun
        rcases List.mem_pair.1 hrun with rfl | rfl
        · exact horderly 5 (by decide)
        · exact horderly 10 (by decide))
      1 (by decide +kernel)
  obtain ⟨rfl, rfl⟩ := Prod.mk.inj (Option.some.inj hget)
  have hfirst := hleast _ 0 (.head _) (by decide +kernel) trivial
  revert hfirst
  decide +kernel

end Parp.TmoPacing
