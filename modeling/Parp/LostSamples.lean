import Parp.FolioPrograms
import Parp.TransitionRuns

set_option autoImplicit false

/-!
# Dropped samples

A note whose `write_begin` gives up drops its sample and marks the folio uncertain, in four more
tries. When is that enough to keep candidates from using the folio's metadata?
-/
namespace Parp.LostSamples

open FolioState AtomicPrograms FolioPrograms
open TransitionRuns

def Inside : Thread → Prop
  | .inside _ _ _ _ => True
  | _ => False

def isMarking : Thread → Bool
  | .marking _ => true
  | _ => false

/-- A real access that has yet to clear `UNCERTAIN`. -/
def isRefreshing : Thread → Bool
  | .inside op _ _ _ => op.isRealAccess
  | _ => false

/-- What holds of a thread while `word` is the folio's state. -/
def ThreadOk (word : StateWord) : Thread → Prop
  | .entering _ writeBegin => Entering writeBegin
  | .inside op old late body =>
    word = old.locked ∧ ¬ old.Busy ∧ body.Returns (Keeps op old) ∧
      (late = true → isCandidate op = true → old.uncertain = true)
  | .marking mark => Marking mark
  | .finished read late => late = true → ∀ report, read = some report → report.valid = false

theorem ThreadOk.busy {word : StateWord} {thread : Thread} (h : ThreadOk word thread)
    (hinside : Inside thread) : word.Busy := by
  cases thread with
  | inside op old late body =>
    rw [h.1]
    exact StateWord.busy_locked h.2.1
  | entering _ _ => exact hinside.elim
  | marking _ => exact hinside.elim
  | finished _ _ => exact hinside.elim

theorem ThreadOk.transfer {word : StateWord} {thread : Thread} (h : ThreadOk word thread)
    (houtside : ¬ Inside thread) (word' : StateWord) : ThreadOk word' thread := by
  cases thread with
  | inside _ _ _ _ => exact absurd trivial houtside
  | entering _ _ => exact h
  | marking _ => exact h
  | finished _ _ => exact h

theorem op_thread_ok (op : FolioOp) (word : StateWord) :
    ThreadOk word op.thread ∧ ¬ Inside op.thread := by
  unfold FolioOp.thread
  split_ifs
  · exact ⟨.read 3, fun h => h⟩
  · refine ⟨?_, fun h => h⟩
    intro hlate
    cases hlate

/-- The folio carries `UNCERTAIN`, and no writer inside is about to clear it for an access that
began before the last dropped sample. -/
def Durable (run : FolioRun) : Prop :=
  run.ext.state.uncertain = true ∧
    (run.fresh = true ∨ ∀ thread ∈ run.threads, isRefreshing thread = false)

/-- The step of thread `t` ends its marking without `UNCERTAIN` set on a free word. -/
def GivesUp (run : FolioRun) (t : ℕ) : Prop :=
  match run.threads[t]? with
  | some (.marking (.step update next)) =>
    match next run.ext with
    | .ret () => (update run.ext).state.Busy ∨ (update run.ext).state.uncertain = false
    | .step _ _ => False
  | _ => False

def LosesSample (run : FolioRun) (t : ℕ) : Prop :=
  run.stale = true ∧ GivesUp run t ∧ ¬ Durable run ∧
    ∀ thread ∈ run.threads.eraseIdx t, isMarking thread = false

def OvertakesMark (run : FolioRun) (t : ℕ) : Prop :=
  match run.threads[t]? with
  | some (.entering op (.step _ next)) =>
    isCandidate op = true ∧ run.stale = true ∧
      (∃ thread ∈ run.threads, isMarking thread = true) ∧
      match next run.ext with
      | .ret (some old) => old.uncertain = false
      | _ => False
  | _ => False

def KeepsSamples (run : FolioRun) : FolioEvent → Prop
  | .start _ => True
  | .run t => ¬ LosesSample run t ∧ ¬ OvertakesMark run t

structure FolioInv (run : FolioRun) : Prop where
  ok : ∀ (i : ℕ) (thread : Thread), run.threads[i]? = some thread → ThreadOk run.ext.state thread
  alone : ∀ (i : ℕ) (thread : Thread), run.threads[i]? = some thread → Inside thread →
    ∀ (j : ℕ) (other : Thread), run.threads[j]? = some other → Inside other → j = i
  covered : run.stale = true → (∃ thread ∈ run.threads, isMarking thread = true) ∨ Durable run

theorem start_inv {run : FolioRun} (h : FolioInv run) (op : FolioOp) :
    FolioInv { run with threads := run.threads ++ [op.thread] } := by
  obtain ⟨hok, hout⟩ := op_thread_ok op run.ext.state
  refine ⟨pool_start h.ok hok, ?_, ?_⟩
  · apply pool_start
    · intro i thread hthread hinside
      apply pool_start
      · exact h.alone i thread hthread hinside
      · intro hnew
        exact absurd hnew hout
    · intro hnew
      exact absurd hnew hout
  · intro hstale
    cases h.covered hstale with
    | inl hmarking =>
      obtain ⟨thread, hthread, hmarks⟩ := hmarking
      exact .inl ⟨thread, List.mem_append_left _ hthread, hmarks⟩
    | inr hdurable =>
      refine .inr ⟨hdurable.1, ?_⟩
      cases hdurable.2 with
      | inl hfresh => exact .inl hfresh
      | inr hnone =>
        refine .inr ?_
        intro thread hthread
        cases List.mem_append.1 hthread with
        | inl hold => exact hnone thread hold
        | inr hnew =>
          rw [List.mem_singleton.1 hnew]
          unfold FolioOp.thread
          split_ifs <;> rfl

section

variable {run : FolioRun} {t : ℕ} {thread : Thread}

/-- No thread but `t` is inside. -/
def OthersOut (run : FolioRun) (t : ℕ) : Prop :=
  ∀ (i : ℕ) (other : Thread), i ≠ t → run.threads[i]? = some other → ¬ Inside other

theorem othersOut_of_free (h : FolioInv run) (hfree : ¬ run.ext.state.Busy) : OthersOut run t := by
  intro i other _ hother hinside
  exact hfree ((h.ok i other hother).busy hinside)

theorem othersOut_of_inside (h : FolioInv run) (hthread : run.threads[t]? = some thread)
    (hinside : Inside thread) : OthersOut run t := by
  intro i other hi hother hother'
  exact hi (h.alone t thread hthread hinside i other hother hother')

theorem replace_ok (h : FolioInv run) {word : StateWord}
    (hword : run.ext.state = word ∨ OthersOut run t) {new : Thread} (hnew : ThreadOk word new) :
    ∀ (i : ℕ) (other : Thread), (run.threads.set t new)[i]? = some other →
      ThreadOk word other := by
  refine pool_set ?_ hnew
  intro i other hi hother
  cases hword with
  | inl hsame => exact hsame ▸ h.ok i other hother
  | inr hout => exact (h.ok i other hother).transfer (hout i other hi hother) word

theorem replace_alone (h : FolioInv run) {new : Thread} (hnew : Inside new → OthersOut run t) :
    ∀ (i : ℕ) (first : Thread), (run.threads.set t new)[i]? = some first → Inside first →
      ∀ (j : ℕ) (other : Thread), (run.threads.set t new)[j]? = some other → Inside other →
        j = i :=
  pool_alone h.alone hnew

theorem marking_set (hthread : run.threads[t]? = some thread) (hnot : isMarking thread = false)
    (h : ∃ other ∈ run.threads, isMarking other = true) (new : Thread) :
    ∃ other ∈ run.threads.set t new, isMarking other = true := by
  obtain ⟨other, hother, hmarks⟩ := h
  obtain ⟨i, hi⟩ := List.getElem?_of_mem hother
  refine ⟨other, mem_set_of_ne ?_ hi, hmarks⟩
  intro hsame
  rw [hsame, hthread] at hi
  rw [← Option.some.inj hi, hnot] at hmarks
  cases hmarks

theorem refreshing_set (h : ∀ other ∈ run.threads, isRefreshing other = false) {new : Thread}
    (hnew : isRefreshing new = false) :
    ∀ other ∈ run.threads.set t new, isRefreshing other = false := by
  intro other hother
  cases List.mem_or_eq_of_mem_set hother with
  | inl hold => exact h other hold
  | inr hsame => exact hsame ▸ hnew

theorem not_refreshing_of_out {thread : Thread} (h : ¬ Inside thread) :
    isRefreshing thread = false := by
  cases thread with
  | inside _ _ _ _ => exact absurd trivial h
  | entering _ _ => rfl
  | marking _ => rfl
  | finished _ _ => rfl

theorem refreshing_of_out (hout : OthersOut run t) {new : Thread}
    (hnew : isRefreshing new = false) :
    ∀ other ∈ run.threads.set t new, isRefreshing other = false := by
  intro other hother
  obtain ⟨i, hi⟩ := List.getElem?_of_mem hother
  have hall : ∀ (i : ℕ) (other : Thread), (run.threads.set t new)[i]? = some other →
      isRefreshing other = false :=
    pool_set (fun i other hne hi => not_refreshing_of_out (hout i other hne hi)) hnew
  exact hall i other hi

theorem covered_set (h : FolioInv run) (hthread : run.threads[t]? = some thread)
    (hnot : isMarking thread = false) {new : Thread} {ext : Ext}
    (hword : ext.state = run.ext.state) (hnew : isRefreshing new = isRefreshing thread) :
    run.stale = true →
      (∃ other ∈ run.threads.set t new, isMarking other = true) ∨
        Durable { run with ext := ext, threads := run.threads.set t new } := by
  intro hstale
  cases h.covered hstale with
  | inl hmarking => exact .inl (marking_set hthread hnot hmarking new)
  | inr hdurable =>
    refine .inr ⟨hword ▸ hdurable.1, ?_⟩
    cases hdurable.2 with
    | inl hfresh => exact .inl hfresh
    | inr hnone =>
      refine .inr (refreshing_set hnone ?_)
      rw [hnew]
      exact hnone thread (List.mem_of_getElem? hthread)

end

theorem entering_inv {run : FolioRun} (h : FolioInv run) {t : ℕ} {op : FolioOp}
    {update : Ext → Ext} {next : Ext → Prog Ext (Option StateWord)}
    (hthread : run.threads[t]? = some (.entering op (.step update next)))
    (hkeeps : ¬ OvertakesMark run t) :
    FolioInv (run.advance t (.entering op (.step update next))) := by
  obtain ⟨update', next', hsame, hstep⟩ := entering_step (h.ok t _ hthread)
  obtain ⟨rfl, rfl⟩ := Prog.step.inj hsame
  change FolioInv (FolioRun.entered { run with ext := update run.ext } t op (next run.ext))
  unfold OvertakesMark at hkeeps
  simp only [hthread] at hkeeps
  have hcase := hstep run.ext
  generalize update run.ext = ext at *
  generalize next run.ext = left at *
  cases hcase with
  | again hleft =>
    obtain ⟨update', next', rfl, -⟩ := entering_step hleft
    refine ⟨replace_ok h (.inl rfl) hleft, replace_alone h (fun hin => hin.elim), ?_⟩
    exact covered_set h hthread rfl rfl rfl
  | gaveUp =>
    cases hreport : op.gaveUp with
    | some report =>
      simp only [FolioRun.entered, hreport]
      refine ⟨replace_ok h (.inl rfl) ?_, replace_alone h (fun hin => hin.elim), ?_⟩
      · intro _ read hread
        rw [← Option.some.inj hread]
        cases op with
        | candidate now runEpoch folioGen =>
          rw [← Option.some.inj hreport]
          rfl
        | noteAccess _ _ _ _ => cases hreport
        | noteMove _ _ _ => cases hreport
      · exact covered_set h hthread rfl rfl rfl
    | none =>
      simp only [FolioRun.entered, hreport]
      refine ⟨replace_ok h (.inl rfl) (.read 3), replace_alone h (fun hin => hin.elim), ?_⟩
      intro _
      exact .inl ⟨_, mem_set_self hthread, rfl⟩
  | took hfree =>
    have hout : OthersOut run t := othersOut_of_free h hfree
    refine ⟨replace_ok h (.inr hout) ⟨rfl, hfree, body_keeps op run.ext.state, ?_⟩,
      replace_alone h (fun _ => hout), ?_⟩
    · intro hlate hcandidate
      cases h.covered hlate with
      | inl hmarking =>
        by_contra hclear
        exact hkeeps ⟨hcandidate, hlate, hmarking, Bool.eq_false_iff.2 hclear⟩
      | inr hdurable => exact hdurable.1
    · intro hstale
      cases h.covered hstale with
      | inl hmarking => exact .inl (marking_set hthread rfl hmarking _)
      | inr hdurable => exact .inr ⟨hdurable.1, .inl rfl⟩

theorem inside_inv {run : FolioRun} (h : FolioInv run) {t : ℕ} {op : FolioOp} {old : StateWord}
    {late : Bool} {update : Ext → Ext} {next : Ext → Prog Ext Written}
    (hthread : run.threads[t]? = some (.inside op old late (.step update next))) :
    FolioInv (run.advance t (.inside op old late (.step update next))) := by
  obtain ⟨hword, hfree, hreturns, hlate⟩ := h.ok t _ hthread
  refine ⟨replace_ok h (.inl rfl) ⟨hword, hfree, hreturns run.ext, hlate⟩,
    replace_alone h (fun _ => othersOut_of_inside h hthread trivial), ?_⟩
  exact covered_set h hthread rfl rfl rfl

/-- `write_end`: only an access that began after the last drop ends the wait for one. -/
theorem published_inv {run : FolioRun} (h : FolioInv run) {t : ℕ} {op : FolioOp}
    {old : StateWord} {late : Bool} {written : Written}
    (hthread : run.threads[t]? = some (.inside op old late (.ret written))) :
    FolioInv (run.published t op old late written) := by
  obtain ⟨hword, hfree, ⟨hmark, hreport⟩, hlate⟩ := h.ok t _ hthread
  have hout : OthersOut run t := othersOut_of_inside h hthread trivial
  refine ⟨replace_ok h (.inr hout) ?_, replace_alone h (fun hin => hin.elim), ?_⟩
  · intro hwas report hread
    obtain ⟨hcandidate, hvalid⟩ := hreport report hread
    by_contra hnot
    have hclear := hvalid (eq_true_of_ne_false hnot)
    rw [hlate hwas hcandidate] at hclear
    cases hclear
  · intro hstale
    obtain ⟨hwas, hnotFresh⟩ := Bool.and_eq_true_iff.1 hstale
    cases h.covered hwas with
    | inl hmarking => exact .inl (marking_set hthread rfl hmarking _)
    | inr hdurable =>
      have hold : old.uncertain = true := by
        have huncertain := hdurable.1
        rw [hword] at huncertain
        exact huncertain
      by_cases hreal : op.isRealAccess = true
      · cases hdurable.2 with
        | inl hfresh =>
          rw [hreal, hfresh] at hnotFresh
          cases hnotFresh
        | inr hnone =>
          have hnot := hnone _ (List.mem_of_getElem? hthread)
          change op.isRealAccess = false at hnot
          rw [hreal] at hnot
          cases hnot
      · have hother := Bool.eq_false_of_not_eq_true hreal
        exact .inr ⟨hmark hother hold, .inr (refreshing_of_out hout rfl)⟩

theorem marking_inv {run : FolioRun} (h : FolioInv run) {t : ℕ} {update : Ext → Ext}
    {next : Ext → Prog Ext Unit} (hthread : run.threads[t]? = some (.marking (.step update next)))
    (hkeeps : ¬ LosesSample run t) : FolioInv (run.advance t (.marking (.step update next))) := by
  obtain ⟨update', next', hsame, hstep⟩ := marking_step (h.ok t _ hthread)
  obtain ⟨rfl, rfl⟩ := Prog.step.inj hsame
  change FolioInv (FolioRun.marked { run with ext := update run.ext } t (next run.ext))
  unfold LosesSample GivesUp at hkeeps
  simp only [hthread] at hkeeps
  have hcase := hstep run.ext
  generalize update run.ext = ext at *
  generalize next run.ext = left at *
  cases hcase with
  | again hleft =>
    obtain ⟨update', next', rfl, -⟩ := marking_step hleft
    refine ⟨replace_ok h (.inl rfl) hleft, replace_alone h (fun hin => hin.elim), ?_⟩
    intro _
    exact .inl ⟨_, mem_set_self hthread, rfl⟩
  | gaveUp hword =>
    refine ⟨replace_ok h (.inl rfl) (fun hlate => by cases hlate),
      replace_alone h (fun hin => hin.elim), ?_⟩
    intro hstale
    by_cases hdurable : Durable run
    · refine .inr ⟨hdurable.1, ?_⟩
      cases hdurable.2 with
      | inl hfresh => exact .inl hfresh
      | inr hnone => exact .inr (refreshing_set hnone rfl)
    · have hothers : ∃ thread ∈ run.threads.eraseIdx t, isMarking thread = true := by
        by_contra hnone
        refine hkeeps ⟨hstale, hword, hdurable, ?_⟩
        intro thread hthread'
        by_contra hmarks
        exact hnone ⟨thread, hthread', eq_true_of_ne_false hmarks⟩
      obtain ⟨thread, hmem, hmarks⟩ := hothers
      obtain ⟨i, hi, hother⟩ := List.mem_eraseIdx_iff_getElem?.1 hmem
      exact .inl ⟨thread, mem_set_of_ne hi hother, hmarks⟩
  | marked hfree =>
    have hout : OthersOut run t := othersOut_of_free h hfree
    refine ⟨replace_ok h (.inr hout) (fun hlate => by cases hlate),
      replace_alone h (fun hin => hin.elim), ?_⟩
    intro _
    exact .inr ⟨rfl, .inr (refreshing_of_out hout rfl)⟩

theorem folioStep_inv (run : FolioRun) (event : FolioEvent) (h : FolioInv run)
    (hkeeps : KeepsSamples run event) : FolioInv (folioStep run event).2 := by
  cases event with
  | start op => exact start_inv h op
  | run t =>
    cases hthread : run.threads[t]? with
    | none =>
      simp only [folioStep, hthread]
      exact h
    | some thread =>
      simp only [folioStep, hthread]
      cases thread with
      | entering op writeBegin =>
        cases writeBegin with
        | ret _ => exact h
        | step update next => exact entering_inv h hthread hkeeps.2
      | inside op old late body =>
        cases body with
        | ret written => exact published_inv h hthread
        | step update next => exact inside_inv h hthread
      | marking mark =>
        cases mark with
        | ret _ => exact h
        | step update next => exact marking_inv h hthread hkeeps.1
      | finished _ _ => exact h

theorem initial_inv (ext : Ext) : FolioInv { ext := ext } := by
  refine ⟨?_, ?_, ?_⟩
  · intro i thread hthread
    cases hthread
  · intro i thread hthread
    cases hthread
  · intro hstale
    cases hstale

def lateReports (run : FolioRun) : List CandidateRead :=
  run.threads.filterMap fun thread =>
    match thread with
    | .finished read true => read
    | _ => none

/-- From any folio, in every run whose markings neither lose a sample nor are overtaken: a
candidate that took the word after a drop, and before a real access that took it later completed,
reports the metadata as not usable. -/
theorem dropped_sample_keeps_native (ext : Ext) (events : List FolioEvent)
    (hkeeps : Along folioStep KeepsSamples { ext := ext } events) :
    ∀ report ∈ lateReports (after folioStep { ext := ext } events), report.valid = false := by
  have hinv : FolioInv (after folioStep { ext := ext } events) :=
    after_invariant_along folioStep_inv (initial_inv ext) events hkeeps
  intro report hreport
  obtain ⟨thread, hmem, hlate⟩ := List.mem_filterMap.1 hreport
  obtain ⟨i, hi⟩ := List.getElem?_of_mem hmem
  have hok := hinv.ok i thread hi
  cases thread with
  | finished read late =>
    cases late with
    | true => exact hok rfl report hlate
    | false => cases hlate
  | entering _ _ => cases hlate
  | inside _ _ _ _ => cases hlate
  | marking _ => cases hlate

instance (run : FolioRun) : Decidable (Durable run) :=
  inferInstanceAs (Decidable (_ ∧ (_ ∨ _)))

instance (run : FolioRun) (t : ℕ) : Decidable (GivesUp run t) := by
  unfold GivesUp
  split
  · split <;> infer_instance
  · infer_instance

instance (run : FolioRun) (t : ℕ) : Decidable (LosesSample run t) :=
  inferInstanceAs (Decidable (_ ∧ _ ∧ _ ∧ _))

instance (run : FolioRun) (t : ℕ) : Decidable (OvertakesMark run t) := by
  unfold OvertakesMark
  split
  · refine @instDecidableAnd _ _ _ (@instDecidableAnd _ _ _ (@instDecidableAnd _ _ _ ?_))
    split <;> infer_instance
  · infer_instance

instance (run : FolioRun) (event : FolioEvent) : Decidable (KeepsSamples run event) := by
  unfold KeepsSamples
  split <;> infer_instance

def warmFolio : Ext where
  lastAccessMs := 1000
  generationEnterMs := 1000
  state := { access := 255, initialized := true }
  decisionEpochs := { stateEpoch := 1 }

def warmCandidate : FolioOp := .candidate 1005 1 0

def runs (t count : ℕ) : List FolioEvent := List.replicate count (.run t)

/-- The first candidate takes the word before the access comes and ends before it is marked. -/
def markedRun : List FolioEvent :=
  .start warmCandidate :: runs 0 2 ++ .start (.noteAccess .pteYoung 1005 1 1) :: runs 1 4 ++
    runs 0 7 ++ runs 1 2 ++ .start warmCandidate :: runs 2 9

theorem markedRun_keeps_native :
    lateReports (after folioStep { ext := warmFolio } markedRun) ≠ [] ∧
      ∀ report ∈ lateReports (after folioStep { ext := warmFolio } markedRun),
        report.valid = false :=
  ⟨by decide +kernel, dropped_sample_keeps_native warmFolio markedRun (by decide +kernel)⟩

def longHold : List FolioEvent :=
  .start warmCandidate :: runs 0 2 ++ .start (.noteAccess .pteYoung 1005 1 1) :: runs 1 8 ++
    runs 0 7 ++ .start warmCandidate :: runs 2 9

/-- The access is dropped without a trace: the next candidate uses the metadata from before it. -/
theorem long_hold_loses_sample :
    ∃ report ∈ lateReports (after folioStep { ext := warmFolio } longHold),
      report.valid = true := by
  decide +kernel

end Parp.LostSamples
