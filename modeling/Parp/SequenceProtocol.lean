import Parp.FolioHistory

set_option autoImplicit false

/-!
# The sequence protocol of the metadata

What a writer, a reader and a revalidation can rely on, and how far the eleven bits of the sequence
carry.
-/
namespace Parp.SequenceProtocol

open FolioState AtomicPrograms FolioPrograms List
open FolioWriters FolioHistory TransitionRuns

def isRealAccess : WriterOp → Bool
  | .note op => op.isRealAccess
  | _ => false

section

variable (old : StateWord)

theorem body_keepsMark (op : WriterOp) (hreal : isRealAccess op = false)
    (hmarked : old.uncertain = true) :
    (op.body old).Returns fun done => done.1.uncertain = true := by
  cases op with
  | note op =>
    apply Prog.returns_map (body_keeps op old)
    intro written hkeeps
    exact hkeeps.1 hreal hmarked
  | claim upgrade epochTag expectedSequence runEpoch =>
    change (claimBody upgrade epochTag expectedSequence runEpoch old).Returns _
    unfold claimBody
    by_cases hexpected : expectedSequence.isSome = true ∧ expectedSequence ≠ some old.seq
    · rw [if_pos hexpected]
      exact hmarked
    · rw [if_neg hexpected]
      apply Prog.returns_read
      intro epochs
      by_cases hepoch : epochs.stateEpoch ≠ runEpoch
      · rw [if_pos hepoch]
        exact hmarked
      · rw [if_neg hepoch]
        by_cases htag : epochs.tag upgrade = epochTag
        · rw [if_pos htag]
          exact hmarked
        · rw [if_neg htag]
          exact Prog.returns_write hmarked
  | release upgrade epochTag runEpoch =>
    change (releaseBody upgrade epochTag runEpoch old).Returns _
    unfold releaseBody
    apply Prog.returns_read
    intro epochs
    split_ifs
    · exact Prog.returns_write hmarked
    · exact hmarked
  | setPendingAction action => exact hmarked
  | outcome => exact fun _ => hmarked

end

theorem apply_keepsMark {op : WriterOp} {ext : Ext} (hreal : isRealAccess op = false)
    (hmarked : ext.state.uncertain = true) : (op.apply ext).1.state.uncertain = true :=
  Prog.returns_runWith (body_keepsMark ext.state op hreal hmarked) keepState _

/-- What the protocol promises of a state of a run from `start`. -/
structure SequenceLaw (start : Ext) (run : ProtocolRun) : Prop where
  /-- Two writers are never inside at once. -/
  alone : ∀ (i j : ℕ) (first second : ProtocolThread), run.threads[i]? = some first →
    run.threads[j]? = some second → Inside first → Inside second → i = j
  /-- Nothing writes the word, and so no `UNCERTAIN`, between a writer's begin and its end. -/
  untouched : ∀ op old body, .inside op old body ∈ run.threads → run.ext.state = old.locked
  /-- The folio between writes is the replay of the history. -/
  whole : ¬ run.ext.state.Busy → run.ext = replay start run.log
  /-- Only a real access ends with `UNCERTAIN` cleared. -/
  keepsMark : ∀ before op result after, run.log = before ++ .write op result :: after →
    (replay start before).state.uncertain = true → isRealAccess op = false →
    (replay start (before ++ [.write op result])).state.uncertain = true
  /-- A reader that succeeds has read one folio of the history, the one it began with. -/
  reads : ∀ reader begun seen result, .read reader begun seen result ∈ run.threads →
    result ≠ .unstable → writes seen < begun + 1024 →
    seen <+: run.log ∧ writes seen = begun ∧ ¬ (replay start seen).state.Busy ∧
      result = (reader.body (replay start seen).state).eval (replay start seen)
  /-- A revalidation that succeeds after a snapshot: no write completed between them. -/
  revalidates : ∀ begun seen valid snapshot, .read .snapshot begun seen (.snapshot valid snapshot) ∈
      run.threads →
    ∀ stateSequence runEpoch begun' seen',
      .read (.revalidate stateSequence runEpoch) begun' seen' (.revalidated true) ∈ run.threads →
      stateSequence.toNat = snapshot.stateSequence.val → writes seen ≤ begun' →
      writes seen' < begun + 1024 → writes seen' = writes seen

theorem snapshot_sequence (ext : Ext) {valid : Bool} {snapshot : ParpTierStateSnapshot}
    (h : .snapshot valid snapshot = (Reader.snapshot.body ext.state).eval ext) :
    snapshot.stateSequence = ext.state.seq := by
  obtain ⟨-, rfl⟩ := ReadResult.snapshot.inj h
  rfl

theorem revalidated_sequence (ext : Ext) {stateSequence : UInt16} {runEpoch : UInt8}
    (h : .revalidated true = ((Reader.revalidate stateSequence runEpoch).body ext.state).eval ext) :
    ext.state.seq.val = stateSequence.toNat :=
  (of_decide_eq_true (ReadResult.revalidated.inj h).symm).1

theorem reads_of_inv {start : Ext} {run : ProtocolRun} (h : HistoryInv start run)
    {reader : Reader} {begun : ℕ} {seen : List Entry} {result : ReadResult}
    (hread : .read reader begun seen result ∈ run.threads) (hstable : result ≠ .unstable)
    (hfew : writes seen < begun + 1024) :
    seen <+: run.log ∧ writes seen = begun ∧ ¬ (replay start seen).state.Busy ∧
      result = (reader.body (replay start seen).state).eval (replay start seen) := by
  obtain ⟨i, hi⟩ := getElem?_of_mem hread
  obtain ⟨hseen, hresult⟩ := h.ok i _ hi
  exact ⟨hseen, (hresult hstable).2 hfew⟩

/-- In every state of every interleaving of writers, markers and readers of one folio. -/
theorem sequence_protocol (start : Ext) (events : List ProtocolEvent) :
    SequenceLaw start (after protocolStep { ext := start } events) := by
  have h := history_inv start events
  generalize after protocolStep { ext := start } events = run at h
  refine ⟨?_, ?_, h.free, ?_, fun _ _ _ _ => reads_of_inv h, ?_⟩
  · intro i j first second hfirst hsecond hinside hinside'
    exact (h.alone i first hfirst hinside j second hsecond hinside').symm
  · intro op old body hmem
    obtain ⟨i, hi⟩ := getElem?_of_mem hmem
    exact (h.ok i _ hi).1
  · intro before op result after _ hmarked hreal
    rw [replay_concat]
    exact apply_keepsMark hreal hmarked
  · intro begun seen valid snapshot hsnapshot stateSequence runEpoch begun' seen' hrevalidate hsame
      hafter hfew
    obtain ⟨i, hi⟩ := getElem?_of_mem hsnapshot
    obtain ⟨j, hj⟩ := getElem?_of_mem hrevalidate
    have hbegun : begun ≤ writes seen := ((h.ok i _ hi).2 (fun h => by cases h)).1
    have hbegun' : begun' ≤ writes seen' := ((h.ok j _ hj).2 (fun h => by cases h)).1
    obtain ⟨-, hfirst, -, hread⟩ := reads_of_inv h hsnapshot (fun h => by cases h) (by omega)
    obtain ⟨-, -, -, hread'⟩ := reads_of_inv h hrevalidate (fun h => by cases h) (by omega)
    have hseq := replay_seq start seen
    have hseq' := replay_seq start seen'
    have hsnapshotSeq := congrArg Fin.val (snapshot_sequence _ hread)
    have hrevalidateSeq := revalidated_sequence _ hread'
    omega

section

variable (ext : Ext) (threads : List ProtocolThread) (log : List Entry)

theorem step_last (thread : ProtocolThread) :
    (protocolStep { ext := ext, threads := threads ++ [thread], log := log }
      (.run threads.length)).2 =
    ProtocolRun.advance { ext := ext, threads := threads ++ [thread], log := log } threads.length
      thread := by
  have hlast : (threads ++ [thread])[threads.length]? = some thread := getElem?_concat_length
  simp only [protocolStep, hlast]

theorem put_last (thread new : ProtocolThread) :
    ProtocolRun.put { ext := ext, threads := threads ++ [thread], log := log } threads.length new =
      { ext := ext, threads := threads ++ [new], log := log } := by
  unfold ProtocolRun.put
  simp

/-- An `outcome` from its call to its `write_end`, with nothing in between. -/
def outcomeAlone (t : ℕ) : List ProtocolEvent :=
  .startWrite .outcome :: List.replicate 4 (.run t)

theorem beginAlone_run (op : WriterOp) (hbegins : op.begins = true) (hfree : ¬ ext.state.Busy) :
    after protocolStep { ext := ext, threads := threads, log := log }
        [.startWrite op, .run threads.length, .run threads.length] =
      { ext := { ext with state := ext.state.locked }
        threads := threads ++ [.inside op ext.state (op.body ext.state)]
        log := log } := by
  have hthread : op.thread = .entering op (parpStateWriteBegin 4) := if_pos hbegins
  simp only [after_cons, after_nil]
  change (protocolStep (protocolStep { ext := ext, threads := threads ++ [op.thread], log := log }
    (.run threads.length)).2 (.run threads.length)).2 = _
  rw [step_last, hthread]
  change (protocolStep (ProtocolRun.entered
    { ext := ext, threads := threads ++ [.entering op (parpStateWriteBegin 4)], log := log }
    threads.length op (if ext.state.Busy then _ else casState ext.state ext.state.locked _))
    (.run threads.length)).2 = _
  rw [if_neg hfree]
  change (protocolStep (ProtocolRun.put _ threads.length _) _).2 = _
  rw [put_last, step_last]
  change ProtocolRun.entered { ext := if ext.state = ext.state then _ else _
                               threads := _
                               log := _ } _ _ (if decide (ext.state = ext.state) = true then _
    else _) = _
  rw [if_pos rfl, if_pos (decide_eq_true rfl)]
  exact put_last _ _ _ _ _

theorem outcomeAlone_run (hfree : ¬ ext.state.Busy) :
    after protocolStep { ext := ext, threads := threads, log := log }
        (outcomeAlone threads.length) =
      { ext := (WriterOp.outcome.apply ext).1
        threads := threads ++ [.ended .outcome .outcome]
        log := log ++ [.write .outcome .outcome] } := by
  change after protocolStep _ ([.startWrite .outcome, .run threads.length, .run threads.length] ++
    [.run threads.length, .run threads.length]) = _
  rw [after_append, beginAlone_run ext threads log .outcome rfl hfree]
  simp only [after_cons, after_nil]
  rw [step_last]
  change (protocolStep (ProtocolRun.put _ threads.length _) _).2 = _
  rw [put_last, step_last]
  exact put_last _ _ _ _ _

/-- `n` calls of `outcome`, each by a thread of its own. -/
def outcomesAlone : ℕ → ℕ → List ProtocolEvent
  | _, 0 => []
  | t, n + 1 => outcomeAlone t ++ outcomesAlone (t + 1) n

theorem outcomesAlone_run (n : ℕ) (hfree : ¬ ext.state.Busy) :
    ∃ ext' : Ext,
      after protocolStep { ext := ext, threads := threads, log := log }
          (outcomesAlone threads.length n) =
        { ext := ext'
          threads := threads ++ List.replicate n (.ended .outcome .outcome)
          log := log ++ List.replicate n (.write .outcome .outcome) } ∧
      ¬ ext'.state.Busy ∧ ext'.state.uncertain = ext.state.uncertain ∧
        ext'.decisionEpochs = ext.decisionEpochs := by
  induction n generalizing ext threads log with
  | zero =>
    refine ⟨ext, ?_, hfree, rfl, rfl⟩
    simp [outcomesAlone]
  | succ n ih =>
    obtain ⟨ext', hrun, hfree', huncertain, hepochs⟩ :=
      ih (WriterOp.outcome.apply ext).1 (threads ++ [.ended .outcome .outcome])
        (log ++ [.write .outcome .outcome]) (not_busy_writeEnd hfree _)
    refine ⟨ext', ?_, hfree', huncertain, hepochs⟩
    have hlength : (threads ++ [ProtocolThread.ended .outcome .outcome]).length =
        threads.length + 1 := length_append
    rw [hlength] at hrun
    rw [outcomesAlone, after_append, outcomeAlone_run ext threads log hfree, hrun]
    simp [replicate_succ]

theorem revalidateAlone_run (stateSequence : UInt16) (runEpoch : UInt8)
    (hfree : ¬ ext.state.Busy) :
    after protocolStep { ext := ext, threads := threads, log := log }
        (.startRead (.revalidate stateSequence runEpoch) ::
          List.replicate 3 (.run threads.length)) =
      { ext := ext
        threads := threads ++ [.read (.revalidate stateSequence runEpoch) (writes log) log
          (.revalidated (ext.state.seq.val = stateSequence.toNat ∧ ext.state.uncertain = false ∧
            ext.decisionEpochs.stateEpoch = runEpoch))]
        log := log } := by
  change (protocolStep (protocolStep (protocolStep
    { ext := ext, threads := threads ++ [.reading (.revalidate stateSequence runEpoch)],
      log := log } (.run threads.length)).2 (.run threads.length)).2 (.run threads.length)).2 = _
  rw [step_last]
  change (protocolStep (protocolStep (if ext.state.Busy then _ else ProtocolRun.put _ _ _) _).2
    _).2 = _
  rw [if_neg hfree, put_last, step_last]
  change (protocolStep (ProtocolRun.put _ threads.length _) _).2 = _
  rw [put_last, step_last]
  change ProtocolRun.put _ _ (.read _ _ _ (if ext.state ≠ ext.state ∨ ext.state.Busy then _
    else _)) = _
  rw [if_neg (fun hchanged => hchanged.elim (fun hne => hne rfl) hfree)]
  exact put_last _ _ _ _ _

end

def RevalidationsProve (run : ProtocolRun) : Prop :=
  ∀ begun seen valid snapshot, .read .snapshot begun seen (.snapshot valid snapshot) ∈
      run.threads →
    ∀ stateSequence runEpoch begun' seen',
      .read (.revalidate stateSequence runEpoch) begun' seen' (.revalidated true) ∈ run.threads →
      stateSequence.toNat = snapshot.stateSequence.val → writes seen ≤ begun' →
      writes seen' = writes seen

def quietFolio : Ext where
  lastAccessMs := 1000
  generationEnterMs := 1000
  state := { access := 255, initialized := true }
  decisionEpochs := { stateEpoch := 1 }

def snapshotAlone : List ProtocolEvent := .startRead .snapshot :: List.replicate 8 (.run 0)

/-- A snapshot, 1024 writes one after the other, and a revalidation with the snapshot's sequence. -/
def wrappingRun : List ProtocolEvent :=
  snapshotAlone ++ outcomesAlone 1 1024 ++
    .startRead (.revalidate 0 1) :: List.replicate 3 (.run 1025)

theorem wrapping_run_revalidates :
    ¬ RevalidationsProve (after protocolStep { ext := quietFolio } wrappingRun) := by
  obtain ⟨snapshot, hsnapshot⟩ : ∃ snapshot : ParpTierStateSnapshot,
      after protocolStep { ext := quietFolio } snapshotAlone =
        { ext := quietFolio
          threads := [.read .snapshot 0 [] (.snapshot true snapshot)] } ∧
      snapshot.stateSequence = 0 := ⟨_, rfl, rfl⟩
  have hfree : ¬ quietFolio.state.Busy := by decide
  obtain ⟨ext, hrun, hfree', huncertain, hepochs⟩ := outcomesAlone_run quietFolio
    [.read .snapshot 0 [] (.snapshot true snapshot)] [] 1024 hfree
  obtain ⟨hstart, hsequence⟩ := hsnapshot
  have hhistory := history_inv quietFolio (snapshotAlone ++ outcomesAlone 1 1024)
  have hmiddle : after protocolStep { ext := quietFolio } (snapshotAlone ++ outcomesAlone 1 1024) =
      { ext := ext
        threads := [.read .snapshot 0 [] (.snapshot true snapshot)] ++
          List.replicate 1024 (.ended .outcome .outcome)
        log := [] ++ List.replicate 1024 (.write .outcome .outcome) } := by
    rw [after_append, hstart]
    exact hrun
  have hwrites : writes ([] ++ List.replicate 1024 (.write .outcome .outcome)) = 1024 := by
    unfold writes
    rw [nil_append, countP_replicate]
    rfl
  have hseq : ext.state.seq.val = 0 := by
    rw [hmiddle] at hhistory
    have hext := hhistory.free hfree'
    change ext = _ at hext
    rw [hext, replay_seq, hwrites]
    rfl
  have hlast := revalidateAlone_run ext
    ([.read .snapshot 0 [] (.snapshot true snapshot)] ++
      List.replicate 1024 (ProtocolThread.ended .outcome .outcome))
    ([] ++ List.replicate 1024 (.write .outcome .outcome)) 0 1 hfree'
  have hlength : ([ProtocolThread.read .snapshot 0 [] (.snapshot true snapshot)] ++
      List.replicate 1024 (ProtocolThread.ended .outcome .outcome)).length = 1025 := by
    rw [length_append, length_replicate]
    rfl
  have hvalid : decide (ext.state.seq.val = (0 : UInt16).toNat ∧ ext.state.uncertain = false ∧
      ext.decisionEpochs.stateEpoch = 1) = true := by
    rw [hseq, huncertain, hepochs]
    rfl
  rw [hlength, hvalid, hwrites] at hlast
  intro hprove
  rw [wrappingRun, after_append, hmiddle, hlast] at hprove
  have hequal := hprove 0 [] true snapshot
    (mem_append_left _ (mem_append_left _ (mem_singleton.2 rfl))) 0 1 1024 _
    (mem_append_right _ (mem_singleton.2 rfl)) (by rw [hsequence]; rfl)
    (Nat.zero_le _)
  rw [hwrites] at hequal
  cases hequal

def MarksKept (start : Ext) (run : ProtocolRun) : Prop :=
  ∀ before op result after, run.log = before ++ .write op result :: after →
    (replay start before).state.uncertain = true →
    (replay start (before ++ [.write op result])).state.uncertain = true

def youngAccess : WriterOp := .note (.noteAccess .pteYoung 2000 1 1)

/-- An access gives up while an `outcome` is inside and marks the folio when it has ended; the next
access begins after that. -/
def markedRun : List ProtocolEvent :=
  [.startWrite .outcome, .run 0, .run 0, .startWrite youngAccess] ++ List.replicate 5 (.run 1) ++
    [.run 0, .run 0, .run 1, .run 1, .startWrite youngAccess] ++ List.replicate 12 (.run 2)

/-- The eleven bits wrap, and an access clears a mark that was there when it began. -/
theorem protocol_surprises :
    ¬ RevalidationsProve (after protocolStep { ext := quietFolio } wrappingRun) ∧
      ¬ MarksKept quietFolio (after protocolStep { ext := quietFolio } markedRun) := by
  refine ⟨wrapping_run_revalidates, fun hkept => ?_⟩
  have hlog : (after protocolStep { ext := quietFolio } markedRun).log =
      [.write .outcome .outcome, .mark] ++ [.write youngAccess (.noted none)] := rfl
  exact Bool.noConfusion (hkept _ _ _ _ hlog rfl)

end Parp.SequenceProtocol
