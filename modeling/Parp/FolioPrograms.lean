import Parp.AtomicPrograms
import Parp.EffectiveTierScan

set_option autoImplicit false

/-!
# The writers of one folio's metadata

`note_access`, `note_move` and `candidate_features` as programs of atomic steps. Between
`write_begin` and `write_end` a writer runs a program over the other fields; its own `write_end`
is one more step.
-/
namespace Parp.FolioPrograms

open FolioState EffectiveTierScan AtomicPrograms

abbrev Ext := ParpReusePageExt

def parpTierStateTries : ℕ := 4

def casState {α : Type} (old new : StateWord) (next : Bool → Prog Ext α) : Prog Ext α :=
  .cas ParpReusePageExt.state (fun word ext => { ext with state := word }) old new next

/-- `tries` attempts are left. -/
def parpStateWriteBegin : ℕ → Prog Ext (Option StateWord)
  | 0 => .ret none
  | tries + 1 =>
    .read ParpReusePageExt.state fun old =>
      if old.Busy then parpStateWriteBegin tries
      else
        casState old old.locked fun swapped =>
          if swapped then .ret (some old) else parpStateWriteBegin tries

def StateWord.marked (word : StateWord) : StateWord := { word with uncertain := true }

def parpStateMarkUncertain : ℕ → Prog Ext Unit
  | 0 => .ret ()
  | tries + 1 =>
    .read ParpReusePageExt.state fun old =>
      if old.Busy then parpStateMarkUncertain tries
      else if old.uncertain then .ret ()
      else
        casState old (StateWord.marked old) fun swapped =>
          if swapped then .ret () else parpStateMarkUncertain tries

/-- What is left of `write_begin` at some point of its loop. -/
inductive Entering : Prog Ext (Option StateWord) → Prop
  | read (tries : ℕ) : Entering (parpStateWriteBegin (tries + 1))
  | swap (tries : ℕ) (old : StateWord) (hfree : ¬ old.Busy) :
      Entering (casState old old.locked fun swapped =>
        if swapped then .ret (some old) else parpStateWriteBegin tries)

inductive Marking : Prog Ext Unit → Prop
  | read (tries : ℕ) : Marking (parpStateMarkUncertain (tries + 1))
  | swap (tries : ℕ) (old : StateWord) (hfree : ¬ old.Busy) :
      Marking (casState old (StateWord.marked old) fun swapped =>
        if swapped then .ret () else parpStateMarkUncertain tries)

/-- What one step of `write_begin` does to the folio, and what is left. -/
inductive EnterStep (ext : Ext) : Ext → Prog Ext (Option StateWord) → Prop
  | again {writeBegin : Prog Ext (Option StateWord)} (h : Entering writeBegin) :
      EnterStep ext ext writeBegin
  | gaveUp : EnterStep ext ext (.ret none)
  | took (hfree : ¬ ext.state.Busy) :
      EnterStep ext { ext with state := ext.state.locked } (.ret (some ext.state))

inductive MarkStep (ext : Ext) : Ext → Prog Ext Unit → Prop
  | again {mark : Prog Ext Unit} (h : Marking mark) : MarkStep ext ext mark
  | gaveUp (hword : ext.state.Busy ∨ ext.state.uncertain = false) : MarkStep ext ext (.ret ())
  | marked (hfree : ¬ ext.state.Busy) :
      MarkStep ext { ext with state := StateWord.marked ext.state } (.ret ())

theorem enterStep_left (ext : Ext) (tries : ℕ) : EnterStep ext ext (parpStateWriteBegin tries) := by
  cases tries with
  | zero => exact .gaveUp
  | succ tries => exact .again (.read tries)

theorem entering_step {writeBegin : Prog Ext (Option StateWord)} (h : Entering writeBegin) :
    ∃ update next, writeBegin = .step update next ∧
      ∀ ext, EnterStep ext (update ext) (next ext) := by
  cases h with
  | read tries =>
    refine ⟨_, _, rfl, ?_⟩
    intro ext
    change EnterStep ext ext (if ext.state.Busy then _ else _)
    split_ifs with hbusy
    · exact enterStep_left ext tries
    · exact .again (.swap tries ext.state hbusy)
  | swap tries old hfree =>
    refine ⟨_, _, rfl, ?_⟩
    intro ext
    by_cases hsame : ext.state = old
    · subst hsame
      simp only [if_true, decide_true]
      exact .took hfree
    · simp only [if_neg hsame, decide_eq_false hsame, Bool.false_eq_true, if_false]
      exact enterStep_left ext tries

theorem marked_eq {word : StateWord} (h : word.uncertain = true) : StateWord.marked word = word := by
  unfold StateWord.marked
  rw [← h]

theorem markStep_left (ext : Ext) (tries : ℕ) : MarkStep ext ext (parpStateMarkUncertain tries) := by
  cases tries with
  | zero =>
    by_cases hword : ext.state.Busy ∨ ext.state.uncertain = false
    · exact .gaveUp hword
    · rw [not_or] at hword
      have hmarked := marked_eq (eq_true_of_ne_false hword.2)
      have hstep := MarkStep.marked hword.1
      rw [hmarked] at hstep
      exact hstep
  | succ tries => exact .again (.read tries)

theorem marking_step {mark : Prog Ext Unit} (h : Marking mark) :
    ∃ update next, mark = .step update next ∧ ∀ ext, MarkStep ext (update ext) (next ext) := by
  cases h with
  | read tries =>
    refine ⟨_, _, rfl, ?_⟩
    intro ext
    change MarkStep ext ext (if ext.state.Busy then _ else if ext.state.uncertain then _ else _)
    split_ifs with hbusy huncertain
    · exact markStep_left ext tries
    · have hstep := MarkStep.marked hbusy
      rw [marked_eq huncertain] at hstep
      exact hstep
    · exact .again (.swap tries ext.state hbusy)
  | swap tries old hfree =>
    refine ⟨_, _, rfl, ?_⟩
    intro ext
    by_cases hsame : ext.state = old
    · subst hsame
      simp only [if_true, decide_true]
      exact .marked hfree
    · simp only [if_neg hsame, decide_eq_false hsame, Bool.false_eq_true, if_false]
      exact markStep_left ext tries

structure Written where
  newState : StateWord
  read : Option CandidateRead := none

/-- An operation with the clock, the run and the generation it reads; `note_access` reads the run
twice. -/
inductive FolioOp
  | noteAccess (event : ParpAccessEvent) (now : UInt32) (currentEpoch checkedEpoch : UInt8)
  | noteMove (event : ParpAccessEvent) (generation : ℤ) (now : UInt32)
  | candidate (now : UInt32) (runEpoch : UInt8) (folioGen : ℤ)

/-- `note_access` from its `write_begin`, which gave `old`, to its `write_end`. -/
def noteAccessBody (event : ParpAccessEvent) (now : UInt32) (currentEpoch checkedEpoch : UInt8)
    (old : StateWord) : Prog Ext Written :=
  .read ParpReusePageExt.decisionEpochs fun epochs =>
    if parpAccessEventIsReal event then
      .read ParpReusePageExt.lastAccessMs fun previous =>
        let newRun : Bool := epochs.stateEpoch ≠ currentEpoch
        let (interval, valid) :=
          if old.initialized ∧ epochs.stateEpoch = checkedEpoch then
            parpEffectiveTierElapsedMs now previous
          else (0, false)
        let finish := fun accessEma : Fin 256 =>
          Prog.write (fun ext : Ext => { ext with lastAccessMs := now })
            (.write (fun ext : Ext =>
                { ext with decisionEpochs :=
                    if newRun then { stateEpoch := currentEpoch } else epochs })
              (.ret { newState :=
                { old with
                  access := parpAccessEmaOnAccess accessEma
                  candidate := 0
                  uncertain := false
                  initialized := true
                  action := if newRun then 0 else old.action } }))
        if valid then
          .write (fun ext => { ext with previousIntervalMs := parpSatU16 interval })
            (.read ParpReusePageExt.reuseIntervalEmaMs fun ema =>
              .write (fun ext => { ext with reuseIntervalEmaMs := parpIntervalEma ema interval })
                (finish old.access))
        else
          .write (fun ext => { ext with previousIntervalMs := 0 })
            (.write (fun ext => { ext with reuseIntervalEmaMs := 0 }) (finish 0))
    else .ret { newState := if old.initialized then StateWord.marked old else old }

def noteMoveBody (generation : ℤ) (now : UInt32) (old : StateWord) : Prog Ext Written :=
  let newGeneration := Fin.ofNat 4 generation.toNat
  .read ParpReusePageExt.generationEnterMs fun entered =>
    let done : Prog Ext Written := .ret { newState := { old with generation := newGeneration } }
    if entered = 0 ∨ (old.generation.val : ℤ) ≠ generation then
      .write (fun ext => { ext with generationEnterMs := now }) done
    else done

def candidateBody (now : UInt32) (runEpoch : UInt8) (folioGen : ℤ) (old : StateWord) :
    Prog Ext Written :=
  .read ParpReusePageExt.decisionEpochs fun epochs =>
  .read ParpReusePageExt.lastAccessMs fun lastAccess =>
  .read ParpReusePageExt.generationEnterMs fun generationEnter =>
  .read ParpReusePageExt.previousIntervalMs fun previousInterval =>
  .read ParpReusePageExt.reuseIntervalEmaMs fun intervalEma =>
  .read ParpReusePageExt.lifetimeEpoch fun lifetime =>
    let read := candidateFeatures
      { lastAccessMs := lastAccess, previousIntervalMs := previousInterval,
        reuseIntervalEmaMs := intervalEma, generationEnterMs := generationEnter,
        lifetimeEpoch := lifetime, state := old, decisionEpochs := epochs } old now runEpoch folioGen
    .ret { newState := read.newState, read := some read }

namespace FolioOp

def body : FolioOp → StateWord → Prog Ext Written
  | noteAccess event now currentEpoch checkedEpoch =>
    noteAccessBody event now currentEpoch checkedEpoch
  | noteMove _ generation now => noteMoveBody generation now
  | candidate now runEpoch folioGen => candidateBody now runEpoch folioGen

/-- `note_move` returns at once on another event or a generation outside the tiers. -/
def begins : FolioOp → Bool
  | noteMove event generation _ => isMoveEvent event ∧ 0 ≤ generation ∧ generation ≤ parpMaxTier
  | _ => true

def isRealAccess : FolioOp → Bool
  | noteAccess event _ _ _ => parpAccessEventIsReal event
  | _ => false

/-- What a candidate reports when its `write_begin` gave up; the notes drop their sample. -/
def gaveUp : FolioOp → Option CandidateRead
  | candidate now runEpoch folioGen => some (parpCandidateFeatures .contended now runEpoch folioGen)
  | _ => none

end FolioOp

def isCandidate : FolioOp → Bool
  | .candidate _ _ _ => true
  | _ => false

/-- What a body owes: only a real access clears `UNCERTAIN`, and a candidate does not use metadata
that carries it. -/
def Keeps (op : FolioOp) (old : StateWord) (written : Written) : Prop :=
  (op.isRealAccess = false → old.uncertain = true → written.newState.uncertain = true) ∧
    ∀ read, written.read = some read → isCandidate op = true ∧
      (read.valid = true → old.uncertain = false)

theorem candidateFeatures_keeps (ext : Ext) (old : StateWord) (now : UInt32) (runEpoch : UInt8)
    (folioGen : ℤ) :
    (old.uncertain = true →
      (candidateFeatures ext old now runEpoch folioGen).newState.uncertain = true) ∧
    ((candidateFeatures ext old now runEpoch folioGen).valid = true → old.uncertain = false) := by
  refine ⟨?_, ?_⟩
  · intro huncertain
    unfold candidateFeatures
    dsimp only
    split_ifs
    · rfl
    · exact huncertain
  · intro hvalid
    have hfields := of_decide_eq_true hvalid
    exact hfields.2.1

theorem noteAccessBody_keeps (event : ParpAccessEvent) (now : UInt32)
    (currentEpoch checkedEpoch : UInt8) (old : StateWord) :
    (noteAccessBody event now currentEpoch checkedEpoch old).Returns
      (Keeps (.noteAccess event now currentEpoch checkedEpoch) old) := by
  unfold noteAccessBody
  apply Prog.returns_read
  intro epochs
  by_cases hreal : parpAccessEventIsReal event = true
  · have hkeeps : ∀ newState, Keeps (.noteAccess event now currentEpoch checkedEpoch) old
        { newState := newState } := by
      intro newState
      refine ⟨?_, fun read hsome => by cases hsome⟩
      intro hnot
      change parpAccessEventIsReal event = false at hnot
      rw [hreal] at hnot
      cases hnot
    rw [if_pos hreal]
    apply Prog.returns_read
    intro previous
    generalize (if old.initialized = true ∧ epochs.stateEpoch = checkedEpoch then
      parpEffectiveTierElapsedMs now previous else (0, false)) = elapsed
    dsimp only
    -- both branches end in the writes of `finish`
    split
    · apply Prog.returns_write
      apply Prog.returns_read
      intro ema
      apply Prog.returns_write
      apply Prog.returns_write
      apply Prog.returns_write
      exact hkeeps _
    · apply Prog.returns_write
      apply Prog.returns_write
      apply Prog.returns_write
      apply Prog.returns_write
      exact hkeeps _
  · rw [if_neg hreal]
    refine ⟨?_, fun read hsome => by cases hsome⟩
    intro _ huncertain
    dsimp only
    split_ifs
    · rfl
    · exact huncertain

theorem noteMoveBody_keeps (event : ParpAccessEvent) (generation : ℤ) (now : UInt32)
    (old : StateWord) :
    (noteMoveBody generation now old).Returns (Keeps (.noteMove event generation now) old) := by
  have hkeeps : Keeps (.noteMove event generation now) old
      { newState := { old with generation := Fin.ofNat 4 generation.toNat } } :=
    ⟨fun _ huncertain => huncertain, fun read hsome => by cases hsome⟩
  unfold noteMoveBody
  apply Prog.returns_read
  intro entered
  dsimp only
  split_ifs
  · exact Prog.returns_write hkeeps
  · exact hkeeps

theorem candidateBody_keeps (now : UInt32) (runEpoch : UInt8) (folioGen : ℤ) (old : StateWord) :
    (candidateBody now runEpoch folioGen old).Returns
      (Keeps (.candidate now runEpoch folioGen) old) := by
  unfold candidateBody
  iterate 6
    apply Prog.returns_read
    intro _
  obtain ⟨hword, hvalid⟩ := candidateFeatures_keeps _ old now runEpoch folioGen
  refine ⟨fun _ => hword, ?_⟩
  intro read hsome
  rw [← Option.some.inj hsome]
  exact ⟨rfl, hvalid⟩

theorem body_keeps (op : FolioOp) (old : StateWord) : (op.body old).Returns (Keeps op old) := by
  cases op with
  | noteAccess event now currentEpoch checkedEpoch =>
    exact noteAccessBody_keeps event now currentEpoch checkedEpoch old
  | noteMove event generation now => exact noteMoveBody_keeps event generation now old
  | candidate now runEpoch folioGen => exact candidateBody_keeps now runEpoch folioGen old

/-- Where one operation is. `late`: it took the word while a dropped sample was not made up for. -/
inductive Thread
  | entering (op : FolioOp) (writeBegin : Prog Ext (Option StateWord))
  | inside (op : FolioOp) (oldState : StateWord) (late : Bool) (body : Prog Ext Written)
  | marking (mark : Prog Ext Unit)
  | finished (read : Option CandidateRead) (late : Bool)

/-- `stale`: a note dropped its sample, and no real access that took the word later has completed.
`fresh`: the writer inside took the word after the last such drop. The code keeps neither. -/
structure FolioRun where
  ext : Ext
  threads : List Thread := []
  stale : Bool := false
  fresh : Bool := false

inductive FolioEvent
  | start (op : FolioOp)
  | run (thread : ℕ)

def FolioOp.thread (op : FolioOp) : Thread :=
  if op.begins then .entering op (parpStateWriteBegin parpTierStateTries) else .finished none false

/-- After a step of `write_begin`, which left `writeBegin` to do. -/
def FolioRun.entered (run : FolioRun) (t : ℕ) (op : FolioOp) :
    Prog Ext (Option StateWord) → FolioRun
  | .ret (some old) =>
    { run with threads := run.threads.set t (.inside op old run.stale (op.body old))
               fresh := true }
  | .ret none =>
    match op.gaveUp with
    | some read => { run with threads := run.threads.set t (.finished (some read) run.stale) }
    | none =>
      { run with
        threads := run.threads.set t (.marking (parpStateMarkUncertain parpTierStateTries))
        stale := true
        fresh := false }
  | writeBegin => { run with threads := run.threads.set t (.entering op writeBegin) }

def FolioRun.marked (run : FolioRun) (t : ℕ) : Prog Ext Unit → FolioRun
  | .ret () => { run with threads := run.threads.set t (.finished none false) }
  | mark => { run with threads := run.threads.set t (.marking mark) }

/-- `write_end`. -/
def FolioRun.published (run : FolioRun) (t : ℕ) (op : FolioOp) (old : StateWord) (late : Bool)
    (written : Written) : FolioRun :=
  { ext := { run.ext with state := writeEnd old written.newState }
    threads := run.threads.set t (.finished written.read late)
    stale := run.stale && !(op.isRealAccess && run.fresh)
    fresh := run.fresh }

/-- One atomic step of thread `t`. A body cannot write the state word. -/
def FolioRun.advance (run : FolioRun) (t : ℕ) : Thread → FolioRun
  | .entering op (.step update next) =>
    FolioRun.entered { run with ext := update run.ext } t op (next run.ext)
  | .inside op old late (.step update next) =>
    { run with ext := { update run.ext with state := run.ext.state }
               threads := run.threads.set t (.inside op old late (next run.ext)) }
  | .inside op old late (.ret written) => run.published t op old late written
  | .marking (.step update next) =>
    FolioRun.marked { run with ext := update run.ext } t (next run.ext)
  | _ => run

def folioStep (run : FolioRun) : FolioEvent → Unit × FolioRun
  | .start op => ((), { run with threads := run.threads ++ [op.thread] })
  | .run t =>
    match run.threads[t]? with
    | some thread => ((), run.advance t thread)
    | none => ((), run)

end Parp.FolioPrograms

/-!
# All writers and readers of one folio's metadata

Claim, release, pending action and outcome beside the operations of `FolioPrograms`, and the two
lockless readers. `log` records the completed writes and the marks in the order they took effect.
-/
namespace Parp.FolioWriters

open FolioState EffectiveTier EffectiveTierScan AtomicPrograms
open FolioPrograms

inductive WriterOp
  | note (op : FolioOp)
  | claim (upgrade : Bool) (epochTag : Fin 4096) (expectedSequence : Option (Fin 2048))
      (runEpoch : UInt8)
  | release (upgrade : Bool) (epochTag : Fin 4096) (runEpoch : UInt8)
  | setPendingAction (action : UInt8)
  | outcome

/-- What a writer returns: `release` and `set_pending_action` whether they took the word. -/
inductive WriteResult
  | noted (read : Option CandidateRead)
  | claimed (result : Except ParpTierBypassReason (Fin 2048))
  | released (ok : Bool)
  | pending (ok : Bool)
  | outcome

def claimBody (upgrade : Bool) (epochTag : Fin 4096) (expectedSequence : Option (Fin 2048))
    (runEpoch : UInt8) (old : StateWord) : Prog Ext (StateWord × WriteResult) :=
  if expectedSequence.isSome ∧ expectedSequence ≠ some old.seq then
    .ret (old, .claimed (.error .generationRace))
  else
    .read ParpReusePageExt.decisionEpochs fun epochs =>
      if epochs.stateEpoch ≠ runEpoch then .ret (old, .claimed (.error .stateUnstable))
      else if epochs.tag upgrade = epochTag then
        .ret (old, .claimed (.error (if upgrade then .repeatUpgrade else .repeatDowngrade)))
      else
        .write (fun ext => { ext with decisionEpochs := epochs.setTag epochTag upgrade })
          (.ret (old, .claimed (.ok (old.seq + 2))))

def releaseBody (upgrade : Bool) (epochTag : Fin 4096) (runEpoch : UInt8) (old : StateWord) :
    Prog Ext (StateWord × WriteResult) :=
  .read ParpReusePageExt.decisionEpochs fun epochs =>
    if epochs.stateEpoch = runEpoch ∧ epochs.tag upgrade = epochTag then
      .write (fun ext => { ext with decisionEpochs := epochs.setTag 0 upgrade })
        (.ret (old, .released true))
    else .ret (old, .released true)

def setPendingActionBody (action : UInt8) (old : StateWord) :
    Prog Ext (StateWord × WriteResult) :=
  .ret ({ old with action := Fin.ofNat 8 (action.toNat + 1) }, .pending true)

def outcomeBody (old : StateWord) : Prog Ext (StateWord × WriteResult) :=
  .read ParpReusePageExt.decisionEpochs fun _ => .ret ({ old with action := 0 }, .outcome)

namespace WriterOp

def body : WriterOp → StateWord → Prog Ext (StateWord × WriteResult)
  | note op, old => (op.body old).map fun written => (written.newState, .noted written.read)
  | claim upgrade epochTag expectedSequence runEpoch, old =>
    claimBody upgrade epochTag expectedSequence runEpoch old
  | release upgrade epochTag runEpoch, old => releaseBody upgrade epochTag runEpoch old
  | setPendingAction action, old => setPendingActionBody action old
  | outcome, old => outcomeBody old

def begins : WriterOp → Bool
  | note op => op.begins
  | _ => true

/-- What is returned when `write_begin` gave up, and whether the folio is marked first. -/
def gaveUp : WriterOp → WriteResult × Bool
  | note op => (.noted op.gaveUp, op.gaveUp.isNone)
  | claim _ _ _ _ => (.claimed (.error .stateUnstable), false)
  | release _ _ _ => (.released false, true)
  | setPendingAction _ => (.pending false, true)
  | outcome => (.outcome, true)

end WriterOp

/-- A step between `write_begin` and `write_end` does not touch the state word. -/
def keepState (before after : Ext) : Ext := { after with state := before.state }

def WriterOp.apply (op : WriterOp) (ext : Ext) : Ext × WriteResult :=
  let (done, newState, result) :=
    (op.body ext.state).runWith keepState { ext with state := ext.state.locked }
  ({ done with state := writeEnd ext.state newState }, result)

/-- `state_snapshot` and `revalidate`. -/
inductive Reader
  | snapshot
  | revalidate (stateSequence : UInt16) (runEpoch : UInt8)

inductive ReadResult
  | unstable
  | snapshot (valid : Bool) (snapshot : ParpTierStateSnapshot)
  | revalidated (valid : Bool)
  deriving DecidableEq

/-- The payload reads of a reader that read `first`, and its result if it reads `first` again. -/
def Reader.body : Reader → StateWord → Prog Ext ReadResult
  | .snapshot, first =>
    .read ParpReusePageExt.lastAccessMs fun lastAccess =>
    .read ParpReusePageExt.previousIntervalMs fun previousInterval =>
    .read ParpReusePageExt.reuseIntervalEmaMs fun intervalEma =>
    .read ParpReusePageExt.generationEnterMs fun generationEnter =>
    .read ParpReusePageExt.lifetimeEpoch fun lifetime =>
    .read ParpReusePageExt.decisionEpochs fun epochs =>
      .ret (.snapshot first.initialized
        { lastAccessMs := lastAccess
          previousIntervalMs := previousInterval.toUInt32
          reuseIntervalEmaMs := intervalEma.toUInt32
          generationEnterMs := generationEnter
          lifetimeEpoch := lifetime
          lastUpgradeEpoch := epochs.upgrade
          lastDowngradeEpoch := epochs.downgrade
          stateEpoch := epochs.stateEpoch
          stateSequence := first.seq
          accessEmaQ8 := first.access
          consecutiveCandidates := first.candidate
          generation := first.generation
          pendingAction := first.action
          uncertain := first.uncertain })
  | .revalidate stateSequence runEpoch, first =>
    .read ParpReusePageExt.decisionEpochs fun epochs =>
      .ret (.revalidated (first.seq.val = stateSequence.toNat ∧ first.uncertain = false ∧
        epochs.stateEpoch = runEpoch))

inductive Entry
  | write (op : WriterOp) (result : WriteResult)
  | mark

def Entry.apply : Entry → Ext → Ext
  | .write op _, ext => (op.apply ext).1
  | .mark, ext => { ext with state := StateWord.marked ext.state }

def Entry.isWrite : Entry → Bool
  | .write _ _ => true
  | .mark => false

def replay (start : Ext) (log : List Entry) : Ext := log.foldl (fun ext entry => entry.apply ext) start

def writes (log : List Entry) : ℕ := log.countP Entry.isWrite

/-- `begun` and `seen` are the completed writes when a reader read the first time, and the history
when it read the second time. -/
inductive ProtocolThread
  | entering (op : WriterOp) (writeBegin : Prog Ext (Option StateWord))
  | inside (op : WriterOp) (oldState : StateWord) (body : Prog Ext (StateWord × WriteResult))
  | marking (op : WriterOp) (mark : Prog Ext Unit)
  | ended (op : WriterOp) (result : WriteResult)
  | reading (reader : Reader)
  | sampling (reader : Reader) (first : StateWord) (begun : ℕ) (body : Prog Ext ReadResult)
  | read (reader : Reader) (begun : ℕ) (seen : List Entry) (result : ReadResult)
  | returned

structure ProtocolRun where
  ext : Ext
  threads : List ProtocolThread := []
  log : List Entry := []

inductive ProtocolEvent
  | startWrite (op : WriterOp)
  | startRead (reader : Reader)
  | run (thread : ℕ)

def WriterOp.thread (op : WriterOp) : ProtocolThread :=
  if op.begins then .entering op (parpStateWriteBegin parpTierStateTries) else .returned

namespace ProtocolRun

variable (run : ProtocolRun) (t : ℕ)

def put (thread : ProtocolThread) : ProtocolRun := { run with threads := run.threads.set t thread }

/-- After a step of `write_begin`, which left `writeBegin` to do. -/
def entered (op : WriterOp) : Prog Ext (Option StateWord) → ProtocolRun
  | .ret (some old) => run.put t (.inside op old (op.body old))
  | .ret none =>
    if op.gaveUp.2 then
      run.put t (.marking op (parpStateMarkUncertain parpTierStateTries))
    else run.put t (.ended op op.gaveUp.1)
  | writeBegin => run.put t (.entering op writeBegin)

def marked (op : WriterOp) : Prog Ext Unit → ProtocolRun
  | .ret () => run.put t (.ended op op.gaveUp.1)
  | mark => run.put t (.marking op mark)

/-- One atomic step of thread `t`; a reader's steps store nothing. -/
def advance : ProtocolThread → ProtocolRun
  | .entering op (.step update next) =>
    entered { run with ext := update run.ext } t op (next run.ext)
  | .inside op old (.step update next) =>
    put { run with ext := keepState run.ext (update run.ext) } t (.inside op old (next run.ext))
  | .inside op old (.ret (newState, result)) =>
    put { run with ext := { run.ext with state := writeEnd old newState }
                   log := run.log ++ [.write op result] } t (.ended op result)
  | .marking op (.step update next) =>
    marked { run with
      ext := update run.ext
      log := if (update run.ext).state = run.ext.state then run.log else run.log ++ [.mark] }
      t op (next run.ext)
  | .reading reader =>
    if run.ext.state.Busy then run.put t (.read reader (writes run.log) run.log .unstable)
    else run.put t (.sampling reader run.ext.state (writes run.log) (reader.body run.ext.state))
  | .sampling reader first begun (.step _ next) =>
    run.put t (.sampling reader first begun (next run.ext))
  | .sampling reader first begun (.ret result) =>
    run.put t (.read reader begun run.log
      (if first ≠ run.ext.state ∨ run.ext.state.Busy then .unstable else result))
  | _ => run

end ProtocolRun

def protocolStep (run : ProtocolRun) : ProtocolEvent → Unit × ProtocolRun
  | .startWrite op => ((), { run with threads := run.threads ++ [op.thread] })
  | .startRead reader => ((), { run with threads := run.threads ++ [.reading reader] })
  | .run t =>
    match run.threads[t]? with
    | some thread => ((), run.advance t thread)
    | none => ((), run)

end Parp.FolioWriters
