import Parp.FolioPrograms
import Parp.TransitionRuns
import Mathlib.Data.List.Induction

set_option autoImplicit false

/-!
# Every interleaving is a sequence of whole writes

The folio between two writes is the replay of a history in which each write is its operation alone,
and a reader that finds its first word again has read one such folio.
-/
namespace Parp.FolioHistory

open FolioState AtomicPrograms FolioPrograms List
open FolioWriters TransitionRuns

section

variable (start : Ext)

theorem replay_append (left right : List Entry) :
    replay start (left ++ right) = replay (replay start left) right := by
  simp [replay, foldl_append]

theorem replay_concat (log : List Entry) (entry : Entry) :
    replay start (log ++ [entry]) = entry.apply (replay start log) := by
  rw [replay_append]
  rfl

theorem writes_concat (log : List Entry) (entry : Entry) :
    writes (log ++ [entry]) = writes log + if entry.isWrite then 1 else 0 := by
  unfold writes
  rw [countP_append, countP_singleton]

theorem replay_seq (log : List Entry) :
    (replay start log).state.seq.val = (start.state.seq.val + 2 * writes log) % 2048 := by
  induction log using List.reverseRecOn with
  | nil => exact (Nat.mod_eq_of_lt start.state.seq.isLt).symm
  | append_singleton log entry ih =>
    rw [replay_concat, writes_concat]
    cases entry with
    | write op result =>
      change ((replay start log).state.seq + 2).val = _
      have htwo : (2 : Fin 2048).val = 2 := rfl
      rw [Fin.val_add, ih, htwo]
      simp only [Entry.isWrite, if_true]
      omega
    | mark => exact ih

def Sequential (log : List Entry) : Prop :=
  ∀ before op result after, log = before ++ .write op result :: after →
    result = (op.apply (replay start before)).2

theorem sequential_concat {log : List Entry} (h : Sequential start log) {entry : Entry}
    (hentry : ∀ op result, entry = .write op result → result = (op.apply (replay start log)).2) :
    Sequential start (log ++ [entry]) := by
  intro before op result after hsplit
  cases eq_nil_or_concat after with
  | inl hnil =>
    subst hnil
    obtain ⟨hlog, hlast⟩ := append_inj' hsplit rfl
    rw [← hlog]
    exact hentry op result (List.cons.inj hlast).1
  | inr hlast =>
    obtain ⟨init, last, rfl⟩ := hlast
    have hassoc : log ++ [entry] = (before ++ .write op result :: init) ++ [last] := by
      rw [hsplit]
      simp
    obtain ⟨hlog, -⟩ := append_inj' hassoc rfl
    exact h before op result init hlog

end

def ReadOk (start : Ext) (log : List Entry) (reader : Reader) (begun : ℕ) (seen : List Entry)
    (result : ReadResult) : Prop :=
  seen <+: log ∧ (result ≠ .unstable → begun ≤ writes seen ∧
    (writes seen < begun + 1024 → writes seen = begun ∧ ¬ (replay start seen).state.Busy ∧
      result = (reader.body (replay start seen).state).eval (replay start seen)))

/-- What holds of a reader between its two reads of the word. While no write has completed since,
the word can only have been marked, and the rest of the program still reads the folio of `first`. -/
structure SamplingOk (start : Ext) (run : ProtocolRun) (reader : Reader) (first : StateWord)
    (begun : ℕ) (body : Prog Ext ReadResult) : Prop where
  free : ¬ first.Busy
  begun_le : begun ≤ writes run.log
  seq : first.seq.val = (start.state.seq.val + 2 * begun) % 2048
  marked : writes run.log = begun → ¬ run.ext.state.Busy → first.uncertain = true →
    run.ext.state.uncertain = true
  same : writes run.log = begun → run.ext.state = first →
    body.eval run.ext = (reader.body first).eval run.ext

def ThreadOk (start : Ext) (run : ProtocolRun) : ProtocolThread → Prop
  | .entering _ writeBegin => Entering writeBegin
  | .inside op old body =>
    run.ext.state = old.locked ∧ ¬ old.Busy ∧ (replay start run.log).state = old ∧
      body.runWith keepState run.ext =
        (op.body old).runWith keepState { replay start run.log with state := old.locked }
  | .marking _ mark => Marking mark
  | .sampling reader first begun body => SamplingOk start run reader first begun body
  | .read reader begun seen result => ReadOk start run.log reader begun seen result
  | .ended _ _ => True
  | .reading _ => True
  | .returned => True

def Inside : ProtocolThread → Prop
  | .inside _ _ _ => True
  | _ => False

structure HistoryInv (start : Ext) (run : ProtocolRun) : Prop where
  ok : ∀ (i : ℕ) (thread : ProtocolThread), run.threads[i]? = some thread → ThreadOk start run thread
  alone : ∀ (i : ℕ) (thread : ProtocolThread), run.threads[i]? = some thread → Inside thread →
    ∀ (j : ℕ) (other : ProtocolThread), run.threads[j]? = some other → Inside other → j = i
  free : ¬ run.ext.state.Busy → run.ext = replay start run.log
  sequential : Sequential start run.log

section

variable {start : Ext} {run run' : ProtocolRun} {t : ℕ} {thread : ProtocolThread}

theorem ThreadOk.busy (h : ThreadOk start run thread) (hinside : Inside thread) :
    run.ext.state.Busy := by
  cases thread with
  | inside op old body =>
    rw [h.1]
    exact StateWord.busy_locked h.2.1
  | entering _ _ => exact hinside.elim
  | marking _ _ => exact hinside.elim
  | ended _ _ => exact hinside.elim
  | reading _ => exact hinside.elim
  | sampling _ _ _ _ => exact hinside.elim
  | read _ _ _ _ => exact hinside.elim
  | returned => exact hinside.elim

/-- No thread but `t` is inside. -/
def OthersOut (run : ProtocolRun) (t : ℕ) : Prop :=
  ∀ (i : ℕ) (other : ProtocolThread), i ≠ t → run.threads[i]? = some other → ¬ Inside other

theorem othersOut_of_free (h : HistoryInv start run) (hfree : ¬ run.ext.state.Busy) :
    OthersOut run t := by
  intro i other _ hother hinside
  exact hfree ((h.ok i other hother).busy hinside)

theorem othersOut_of_inside (h : HistoryInv start run) (hthread : run.threads[t]? = some thread)
    (hinside : Inside thread) : OthersOut run t := by
  intro i other hi hother hother'
  exact hi (h.alone t thread hthread hinside i other hother hother')

theorem ThreadOk.transfer (h : ThreadOk start run thread) (houtside : ¬ Inside thread)
    (hlog : run.log <+: run'.log)
    (hsampling : ∀ reader first begun body, SamplingOk start run reader first begun body →
      SamplingOk start run' reader first begun body) : ThreadOk start run' thread := by
  cases thread with
  | inside _ _ _ => exact absurd trivial houtside
  | entering _ _ => exact h
  | marking _ _ => exact h
  | ended _ _ => exact h
  | reading _ => exact h
  | returned => exact h
  | sampling reader first begun body => exact hsampling reader first begun body h
  | read reader begun seen result => exact ⟨h.1.trans hlog, h.2⟩

/-- While a writer is inside, what a reader has sampled says nothing. -/
theorem ThreadOk.of_busy (h : ThreadOk start run thread) (houtside : ¬ Inside thread)
    (hlog : run'.log = run.log) (hbusy : run'.ext.state.Busy) : ThreadOk start run' thread := by
  refine h.transfer houtside (hlog ▸ prefix_refl _) ?_
  intro reader first begun body hsampling
  refine ⟨hsampling.free, hlog ▸ hsampling.begun_le, hsampling.seq, ?_, ?_⟩
  · intro _ hnot
    exact absurd hbusy hnot
  · intro _ hfirst
    exact absurd (hfirst ▸ hbusy) hsampling.free

theorem ThreadOk.threads (h : ThreadOk start run thread) (threads : List ProtocolThread) :
    ThreadOk start { run with threads := threads } thread := by
  cases thread with
  | sampling _ _ _ _ => exact ⟨h.free, h.begun_le, h.seq, h.marked, h.same⟩
  | inside _ _ _ => exact h
  | entering _ _ => exact h
  | marking _ _ => exact h
  | ended _ _ => exact h
  | reading _ => exact h
  | returned => exact h
  | read _ _ _ _ => exact h

theorem replace_ok (h : HistoryInv start run) (hthreads : run'.threads = run.threads.set t thread)
    (hothers : ∀ (i : ℕ) (other : ProtocolThread), i ≠ t → run.threads[i]? = some other →
      ThreadOk start run other → ThreadOk start run' other)
    (hthread : ThreadOk start run' thread) :
    ∀ (i : ℕ) (other : ProtocolThread), run'.threads[i]? = some other → ThreadOk start run' other := by
  rw [hthreads]
  refine pool_set ?_ hthread
  intro i other hi hother
  exact hothers i other hi hother (h.ok i other hother)

theorem replace_alone (h : HistoryInv start run)
    (hthreads : run'.threads = run.threads.set t thread)
    (hthread : Inside thread → OthersOut run t) :
    ∀ (i : ℕ) (first : ProtocolThread), run'.threads[i]? = some first → Inside first →
      ∀ (j : ℕ) (other : ProtocolThread), run'.threads[j]? = some other → Inside other → j = i := by
  rw [hthreads]
  exact pool_alone h.alone hthread

theorem quiet_step (h : HistoryInv start run) {new : ProtocolThread} (hnew : ThreadOk start run new)
    (hinside : Inside new → OthersOut run t) : HistoryInv start (run.put t new) := by
  exact ⟨replace_ok h rfl (fun _ _ _ _ hok => hok.threads _) (hnew.threads _),
    replace_alone h rfl hinside, h.free, h.sequential⟩

end

theorem op_thread_ok (start : Ext) (run : ProtocolRun) (op : WriterOp) :
    ThreadOk start run op.thread ∧ ¬ Inside op.thread := by
  unfold WriterOp.thread
  split_ifs
  · exact ⟨.read 3, fun h => h⟩
  · exact ⟨trivial, fun h => h⟩

section

variable {start : Ext} {run : ProtocolRun} {t : ℕ}

theorem start_inv (h : HistoryInv start run) {new : ProtocolThread}
    (hnew : ThreadOk start run new) (houtside : ¬ Inside new) :
    HistoryInv start { run with threads := run.threads ++ [new] } := by
  refine ⟨pool_start (fun i other hi => (h.ok i other hi).threads _) (hnew.threads _), ?_, h.free,
    h.sequential⟩
  apply pool_start
  · intro i thread hthread hinside
    apply pool_start
    · exact h.alone i thread hthread hinside
    · intro hnew
      exact absurd hnew houtside
  · intro hnew
    exact absurd hnew houtside

theorem take_inv (h : HistoryInv start run) (op : WriterOp) (hfree : ¬ run.ext.state.Busy) :
    HistoryInv start (ProtocolRun.put
      { run with ext := { run.ext with state := run.ext.state.locked } } t
      (.inside op run.ext.state (op.body run.ext.state))) := by
  have hout : OthersOut run t := othersOut_of_free h hfree
  have hbusy := StateWord.busy_locked hfree
  have hsame := h.free hfree
  refine ⟨replace_ok h rfl ?_ ⟨rfl, hfree, ?_, ?_⟩, replace_alone h rfl (fun _ => hout), ?_,
    h.sequential⟩
  · intro i other hi hother hok
    exact hok.of_busy (hout i other hi hother) rfl hbusy
  · change (replay start run.log).state = run.ext.state
    rw [← hsame]
  · change _ = (op.body run.ext.state).runWith keepState
      { replay start run.log with state := run.ext.state.locked }
    rw [← hsame]
    rfl
  · intro hnot
    exact absurd hbusy hnot

variable {op : WriterOp} {update : Ext → Ext}

theorem entering_inv (h : HistoryInv start run) {next : Ext → Prog Ext (Option StateWord)}
    (hthread : run.threads[t]? = some (.entering op (.step update next))) :
    HistoryInv start (run.advance t (.entering op (.step update next))) := by
  obtain ⟨update', next', hsame, hstep⟩ := entering_step (h.ok t _ hthread)
  obtain ⟨rfl, rfl⟩ := Prog.step.inj hsame
  change HistoryInv start
    (ProtocolRun.entered { run with ext := update run.ext } t op (next run.ext))
  have hcase := hstep run.ext
  generalize update run.ext = ext at *
  generalize next run.ext = left at *
  cases hcase with
  | again hleft =>
    obtain ⟨update', next', rfl, -⟩ := entering_step hleft
    exact quiet_step h hleft (fun hin => hin.elim)
  | gaveUp =>
    simp only [ProtocolRun.entered]
    split_ifs
    · exact quiet_step h (.read 3) (fun hin => hin.elim)
    · exact quiet_step h trivial (fun hin => hin.elim)
  | took hfree => exact take_inv h op hfree

theorem body_inv (h : HistoryInv start run) {old : StateWord}
    {next : Ext → Prog Ext (StateWord × WriteResult)}
    (hthread : run.threads[t]? = some (.inside op old (.step update next))) :
    HistoryInv start (run.advance t (.inside op old (.step update next))) := by
  obtain ⟨hword, hfree, hold, hrun⟩ := h.ok t _ hthread
  have hout : OthersOut run t := othersOut_of_inside h hthread trivial
  have hbusy : run.ext.state.Busy := hword ▸ StateWord.busy_locked hfree
  refine ⟨replace_ok h rfl ?_ ⟨hword, hfree, hold, hrun⟩, replace_alone h rfl (fun _ => hout), ?_,
    h.sequential⟩
  · intro i other hi hother hok
    exact hok.of_busy (hout i other hi hother) rfl hbusy
  · intro hnot
    exact absurd hbusy hnot

theorem publish_inv (h : HistoryInv start run) {old newState : StateWord} {result : WriteResult}
    (hthread : run.threads[t]? = some (.inside op old (.ret (newState, result)))) :
    HistoryInv start (run.advance t (.inside op old (.ret (newState, result)))) := by
  obtain ⟨hword, hfree, hold, hrun⟩ := h.ok t _ hthread
  have hout : OthersOut run t := othersOut_of_inside h hthread trivial
  have happly : op.apply (replay start run.log) =
      ({ run.ext with state := writeEnd old newState }, result) := by
    unfold WriterOp.apply
    rw [hold, ← hrun]
    rfl
  have hmore : writes (run.log ++ [.write op result]) = writes run.log + 1 := writes_concat _ _
  refine ⟨replace_ok h rfl ?_ trivial, replace_alone h rfl (fun hin => hin.elim), ?_, ?_⟩
  · intro i other hi hother hok
    refine hok.transfer (hout i other hi hother) (prefix_append _ _) ?_
    intro reader first begun body hsampling
    have hbegun := hsampling.begun_le
    have hlate : writes (run.log ++ [.write op result]) ≠ begun := by omega
    refine ⟨hsampling.free, ?_, hsampling.seq, fun hsame => absurd hsame hlate,
      fun hsame => absurd hsame hlate⟩
    change begun ≤ writes (run.log ++ [.write op result])
    omega
  · intro _
    change _ = replay start (run.log ++ [.write op result])
    rw [replay_concat]
    change _ = (op.apply (replay start run.log)).1
    rw [happly]
    rfl
  · apply sequential_concat start h.sequential
    intro op' result' hentry
    obtain ⟨rfl, rfl⟩ := Entry.write.inj hentry
    rw [happly]

theorem marked_inv (h : HistoryInv start run) (hfree : ¬ run.ext.state.Busy)
    {new : ProtocolThread} (hnew : ∀ run', ThreadOk start run' new) (houtside : ¬ Inside new) :
    HistoryInv start (ProtocolRun.put
      { run with
        ext := { run.ext with state := StateWord.marked run.ext.state }
        log := if StateWord.marked run.ext.state = run.ext.state then run.log
          else run.log ++ [.mark] } t new) := by
  by_cases hnoop : StateWord.marked run.ext.state = run.ext.state
  · rw [if_pos hnoop, hnoop]
    exact quiet_step h (hnew run) (fun hin => absurd hin houtside)
  · rw [if_neg hnoop]
    have hout : OthersOut run t := othersOut_of_free h hfree
    have hclear : run.ext.state.uncertain = false := by
      by_contra hset
      exact hnoop (marked_eq (eq_true_of_ne_false hset))
    have hwrites : writes (run.log ++ [.mark]) = writes run.log := writes_concat _ _
    refine ⟨replace_ok h rfl ?_ (hnew _), replace_alone h rfl (fun hin => absurd hin houtside), ?_,
      ?_⟩
    · intro i other hi hother hok
      refine hok.transfer (hout i other hi hother) (prefix_append _ _) ?_
      intro reader first begun body hsampling
      refine ⟨hsampling.free, hwrites.symm ▸ hsampling.begun_le, hsampling.seq, ?_, ?_⟩
      · intro _ _ _
        rfl
      · intro hsame hfirst
        have hset : first.uncertain = true := by
          rw [← hfirst]
          rfl
        have hwas := hsampling.marked (hwrites ▸ hsame) hfree hset
        rw [hclear] at hwas
        cases hwas
    · intro _
      change _ = replay start (run.log ++ [.mark])
      rw [replay_concat, ← h.free hfree]
      rfl
    · apply sequential_concat start h.sequential
      intro op result hentry
      cases hentry

theorem marking_inv (h : HistoryInv start run) {next : Ext → Prog Ext Unit}
    (hthread : run.threads[t]? = some (.marking op (.step update next))) :
    HistoryInv start (run.advance t (.marking op (.step update next))) := by
  obtain ⟨update', next', hsame, hstep⟩ := marking_step (h.ok t _ hthread)
  obtain ⟨rfl, rfl⟩ := Prog.step.inj hsame
  change HistoryInv start (ProtocolRun.marked { run with
    ext := update run.ext
    log := if (update run.ext).state = run.ext.state then run.log else run.log ++ [.mark] }
    t op (next run.ext))
  have hcase := hstep run.ext
  generalize update run.ext = ext at *
  generalize next run.ext = left at *
  cases hcase with
  | again hleft =>
    obtain ⟨update', next', rfl, -⟩ := marking_step hleft
    rw [if_pos rfl]
    exact quiet_step h hleft (fun hin => hin.elim)
  | gaveUp _ =>
    rw [if_pos rfl]
    exact quiet_step h trivial (fun hin => hin.elim)
  | marked hfree => exact marked_inv h hfree (fun _ => trivial) (fun hin => hin)

theorem reading_inv (h : HistoryInv start run) (reader : Reader) :
    HistoryInv start (run.advance t (.reading reader)) := by
  simp only [ProtocolRun.advance]
  split_ifs with hbusy
  · exact quiet_step h ⟨prefix_refl _, fun hne => absurd rfl hne⟩ (fun hin => hin.elim)
  · have hseq : run.ext.state.seq.val =
        (start.state.seq.val + 2 * writes run.log) % 2048 := by
      rw [h.free hbusy]
      exact replay_seq start run.log
    exact quiet_step h ⟨hbusy, le_rfl, hseq, fun _ _ hset => hset, fun _ _ => rfl⟩
      (fun hin => hin.elim)

theorem sampling_inv (h : HistoryInv start run) {reader : Reader} {first : StateWord}
    {begun : ℕ} {body : Prog Ext ReadResult}
    (hthread : run.threads[t]? = some (.sampling reader first begun body)) :
    HistoryInv start (run.advance t (.sampling reader first begun body)) := by
  have hsampling : SamplingOk start run reader first begun body := h.ok t _ hthread
  cases body with
  | step update next =>
    have hnext : ThreadOk start run (.sampling reader first begun (next run.ext)) :=
      ⟨hsampling.free, hsampling.begun_le, hsampling.seq, hsampling.marked, hsampling.same⟩
    exact quiet_step h hnext (fun hin => hin.elim)
  | ret result =>
    refine quiet_step h ⟨prefix_refl _, ?_⟩ (fun hin => hin.elim)
    intro hstable
    split_ifs at hstable ⊢ with hchanged
    · exact absurd rfl hstable
    rw [not_or, not_not] at hchanged
    obtain ⟨hsame, hfree⟩ := hchanged
    refine ⟨hsampling.begun_le, ?_⟩
    intro hfew
    have hreplay := h.free hfree
    have hseq := replay_seq start run.log
    have hfirst := hsampling.seq
    have hbegun := hsampling.begun_le
    -- fewer than 1024 writes move the sequence by less than its period
    have hnone : writes run.log = begun := by
      rw [← hreplay, ← hsame, hfirst] at hseq
      omega
    refine ⟨hnone, hreplay ▸ hfree, ?_⟩
    rw [← hreplay, ← hsame]
    exact hsampling.same hnone hsame.symm

end

theorem protocolStep_inv {start : Ext} (run : ProtocolRun) (event : ProtocolEvent)
    (h : HistoryInv start run) : HistoryInv start (protocolStep run event).2 := by
  cases event with
  | startWrite op =>
    obtain ⟨hok, hout⟩ := op_thread_ok start run op
    exact start_inv h hok hout
  | startRead reader => exact start_inv h trivial (fun hin => hin)
  | run t =>
    cases hthread : run.threads[t]? with
    | none =>
      simp only [protocolStep, hthread]
      exact h
    | some thread =>
      simp only [protocolStep, hthread]
      cases thread with
      | entering op writeBegin =>
        cases writeBegin with
        | ret _ => exact h
        | step update next => exact entering_inv h hthread
      | inside op old body =>
        cases body with
        | ret done => exact publish_inv h hthread
        | step update next => exact body_inv h hthread
      | marking op mark =>
        cases mark with
        | ret _ => exact h
        | step update next => exact marking_inv h hthread
      | reading reader => exact reading_inv h reader
      | sampling reader first begun body => exact sampling_inv h hthread
      | ended _ _ => exact h
      | read _ _ _ _ => exact h
      | returned => exact h

theorem initial_inv (start : Ext) : HistoryInv start { ext := start } := by
  refine ⟨?_, ?_, fun _ => rfl, ?_⟩
  · intro i thread hthread
    cases hthread
  · intro i thread hthread
    cases hthread
  · intro before op result after hsplit
    cases before <;> cases hsplit

/-- The refinement: whatever the interleaving, the folio is the replay of a history of whole
operations, and each returned what it returns alone. -/
theorem history_inv (start : Ext) (events : List ProtocolEvent) :
    HistoryInv start (after protocolStep { ext := start } events) :=
  after_invariant protocolStep_inv (initial_inv start) events

end Parp.FolioHistory
