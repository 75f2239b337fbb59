import Parp.FolioHistory

set_option autoImplicit false

/-!
# Claims of a decision epoch

The two tags of `decision_epochs` over the history of one folio in one run.
-/
namespace Parp.EpochClaims

open FolioState EffectiveTierScan AtomicPrograms FolioPrograms List
open FolioWriters FolioHistory TransitionRuns

def claimOf : Entry → Option (Bool × Fin 4096)
  | .write (.claim upgrade epochTag _ _) (.claimed (.ok _)) => some (upgrade, epochTag)
  | _ => none

def releaseOf : Entry → Option (Bool × Fin 4096)
  | .write (.release upgrade epochTag _) _ => some (upgrade, epochTag)
  | _ => none

/-- The operation reads `runEpoch` whenever it reads the run. -/
def InRun (runEpoch : UInt8) : WriterOp → Prop
  | .note (.noteAccess _ _ currentEpoch checkedEpoch) =>
    currentEpoch = runEpoch ∧ checkedEpoch = runEpoch
  | .note (.candidate _ epoch _) => epoch = runEpoch
  | .note (.noteMove _ _ _) => True
  | .claim _ _ _ epoch => epoch = runEpoch
  | .release _ _ epoch => epoch = runEpoch
  | .setPendingAction _ => True
  | .outcome => True

def EventInRun (runEpoch : UInt8) : ProtocolEvent → Prop
  | .startWrite op => InRun runEpoch op
  | _ => True

section

variable (ext : Ext)

theorem noteAccess_epochs (event : ParpAccessEvent) (now : UInt32) (currentEpoch : UInt8)
    (checkedEpoch : UInt8) (old : StateWord) (hrun : ext.decisionEpochs.stateEpoch = currentEpoch) :
    ((noteAccessBody event now currentEpoch checkedEpoch old).runWith keepState
      ext).1.decisionEpochs = ext.decisionEpochs := by
  unfold noteAccessBody
  change ((if parpAccessEventIsReal event = true then _ else _ : Prog Ext Written).runWith keepState
    (keepState ext ext)).1.decisionEpochs = _
  have hsame : decide (ext.decisionEpochs.stateEpoch ≠ currentEpoch) = false :=
    decide_eq_false (not_not.2 hrun)
  by_cases hreal : parpAccessEventIsReal event = true
  · rw [if_pos hreal]
    change ((if _ then _ else _ : Prog Ext Written).runWith keepState _).1.decisionEpochs = _
    simp only [hsame]
    split <;> rfl
  · rw [if_neg hreal]
    rfl

theorem candidate_epochs (now : UInt32) (runEpoch : UInt8) (folioGen : ℤ) (old : StateWord) :
    ((candidateBody now runEpoch folioGen old).runWith keepState ext).1.decisionEpochs =
      ext.decisionEpochs := by
  unfold candidateBody
  rfl

theorem noteMove_epochs (generation : ℤ) (now : UInt32) (old : StateWord) :
    ((noteMoveBody generation now old).runWith keepState ext).1.decisionEpochs =
      ext.decisionEpochs := by
  unfold noteMoveBody
  change ((if _ then _ else _ : Prog Ext Written).runWith keepState _).1.decisionEpochs = _
  split <;> rfl

/-- `write_end` after a body that stopped in `done`. -/
def ended (old : StateWord) (done : Ext × StateWord × WriteResult) : Ext × WriteResult :=
  ({ done.1 with state := writeEnd old done.2.1 }, done.2.2)

variable (upgrade : Bool) (epochTag : Fin 4096) (expectedSequence : Option (Fin 2048))
  (runEpoch : UInt8)

theorem claim_apply :
    (WriterOp.claim upgrade epochTag expectedSequence runEpoch).apply ext =
      if expectedSequence.isSome ∧ expectedSequence ≠ some ext.state.seq then
        (ext.endWrite, .claimed (.error .generationRace))
      else if ext.decisionEpochs.stateEpoch ≠ runEpoch then
        (ext.endWrite, .claimed (.error .stateUnstable))
      else if ext.decisionEpochs.tag upgrade = epochTag then
        (ext.endWrite, .claimed (.error (if upgrade then .repeatUpgrade else .repeatDowngrade)))
      else
        ({ ext.endWrite with decisionEpochs := ext.decisionEpochs.setTag epochTag upgrade },
          .claimed (.ok (ext.state.seq + 2))) := by
  change ended ext.state ((claimBody upgrade epochTag expectedSequence runEpoch
    ext.state).runWith keepState { ext with state := ext.state.locked }) = _
  unfold claimBody
  by_cases hexpected : expectedSequence.isSome = true ∧ expectedSequence ≠ some ext.state.seq
  · rw [if_pos hexpected, if_pos hexpected]
    rfl
  · rw [if_neg hexpected, if_neg hexpected]
    change ended ext.state ((if ext.decisionEpochs.stateEpoch ≠ runEpoch then _ else
      if ext.decisionEpochs.tag upgrade = epochTag then _ else _ :
        Prog Ext (StateWord × WriteResult)).runWith keepState
        { ext with state := ext.state.locked }) = _
    by_cases hepoch : ext.decisionEpochs.stateEpoch ≠ runEpoch
    · rw [if_pos hepoch, if_pos hepoch]
      rfl
    · rw [if_neg hepoch, if_neg hepoch]
      by_cases htag : ext.decisionEpochs.tag upgrade = epochTag
      · rw [if_pos htag, if_pos htag]
        rfl
      · rw [if_neg htag, if_neg htag]
        rfl

inductive ClaimCase (upgrade : Bool) (epochTag : Fin 4096) (runEpoch : UInt8) :
    Ext × WriteResult → Prop
  | failed (bypass : EffectiveTier.ParpTierBypassReason) :
      ClaimCase upgrade epochTag runEpoch (ext.endWrite, .claimed (.error bypass))
  | claimed (hepoch : ext.decisionEpochs.stateEpoch = runEpoch)
      (htag : ext.decisionEpochs.tag upgrade ≠ epochTag) :
      ClaimCase upgrade epochTag runEpoch
        ({ ext.endWrite with decisionEpochs := ext.decisionEpochs.setTag epochTag upgrade },
          .claimed (.ok (ext.state.seq + 2)))

theorem claim_cases :
    ClaimCase ext upgrade epochTag runEpoch
      ((WriterOp.claim upgrade epochTag expectedSequence runEpoch).apply ext) := by
  rw [claim_apply]
  by_cases hexpected : expectedSequence.isSome = true ∧ expectedSequence ≠ some ext.state.seq
  · rw [if_pos hexpected]
    exact .failed _
  · rw [if_neg hexpected]
    by_cases hepoch : ext.decisionEpochs.stateEpoch ≠ runEpoch
    · rw [if_pos hepoch]
      exact .failed _
    · rw [if_neg hepoch]
      by_cases htag : ext.decisionEpochs.tag upgrade = epochTag
      · rw [if_pos htag]
        exact .failed _
      · rw [if_neg htag]
        exact .claimed (not_not.1 hepoch) htag

theorem release_apply (runEpoch : UInt8) :
    (WriterOp.release upgrade epochTag runEpoch).apply ext =
      if ext.decisionEpochs.stateEpoch = runEpoch ∧
          ext.decisionEpochs.tag upgrade = epochTag then
        ({ ext.endWrite with decisionEpochs := ext.decisionEpochs.setTag 0 upgrade },
          .released true)
      else (ext.endWrite, .released true) := by
  change ended ext.state ((if ext.decisionEpochs.stateEpoch = runEpoch ∧
      ext.decisionEpochs.tag upgrade = epochTag then _ else _ :
        Prog Ext (StateWord × WriteResult)).runWith keepState
        { ext with state := ext.state.locked }) = _
  split_ifs <;> rfl

end

def Standing (runEpoch : UInt8) (upgrade : Bool) (epochTag : Fin 4096) (ext : Ext) : Prop :=
  ext.decisionEpochs.stateEpoch = runEpoch ∧ ext.decisionEpochs.tag upgrade = epochTag

def Ends (upgrade : Bool) (epochTag : Fin 4096) (entry : Entry) : Prop :=
  releaseOf entry = some (upgrade, epochTag) ∨
    ∃ otherTag, otherTag ≠ epochTag ∧ claimOf entry = some (upgrade, otherTag)

section

variable (epochs : DecisionEpochs)

@[simp] theorem setTag_tag (epochTag : Fin 4096) (upgrade other : Bool) :
    (epochs.setTag epochTag upgrade).tag other =
      if upgrade = other then epochTag else epochs.tag other := by
  cases upgrade <;> cases other <;> rfl

@[simp] theorem setTag_stateEpoch (epochTag : Fin 4096) (upgrade : Bool) :
    (epochs.setTag epochTag upgrade).stateEpoch = epochs.stateEpoch := by
  cases upgrade <;> rfl

end

theorem note_epochs {runEpoch : UInt8} {op : FolioOp} (hrun : InRun runEpoch (.note op))
    {ext : Ext} (hepoch : ext.decisionEpochs.stateEpoch = runEpoch) :
    ((WriterOp.note op).apply ext).1.decisionEpochs = ext.decisionEpochs := by
  change ((Prog.map _ (op.body ext.state)).runWith keepState _).1.decisionEpochs = _
  rw [Prog.runWith_map]
  cases op with
  | noteAccess event now currentEpoch checkedEpoch =>
    exact noteAccess_epochs { ext with state := ext.state.locked } event now currentEpoch
      checkedEpoch ext.state (hepoch.trans hrun.1.symm)
  | noteMove event generation now =>
    exact noteMove_epochs { ext with state := ext.state.locked } generation now ext.state
  | candidate now epoch folioGen =>
    exact candidate_epochs { ext with state := ext.state.locked } now epoch folioGen ext.state

theorem Standing.of_epochs {runEpoch : UInt8} {upgrade : Bool} {epochTag : Fin 4096}
    {ext ext' : Ext} (h : Standing runEpoch upgrade epochTag ext)
    (hsame : ext'.decisionEpochs = ext.decisionEpochs) :
    Standing runEpoch upgrade epochTag ext' := by
  unfold Standing
  rw [hsame]
  exact h

theorem Standing.of_other {runEpoch : UInt8} {upgrade other : Bool} {epochTag otherTag : Fin 4096}
    {ext ext' : Ext} (h : Standing runEpoch upgrade epochTag ext) (hside : other ≠ upgrade)
    (hset : ext'.decisionEpochs = ext.decisionEpochs.setTag otherTag other) :
    Standing runEpoch upgrade epochTag ext' := by
  unfold Standing
  rw [hset, setTag_stateEpoch, setTag_tag, if_neg hside]
  exact h

theorem apply_standing {runEpoch : UInt8} {op : WriterOp} (hrun : InRun runEpoch op) {ext : Ext}
    {upgrade : Bool} {epochTag : Fin 4096} (hstanding : Standing runEpoch upgrade epochTag ext)
    {result : WriteResult} (hresult : result = (op.apply ext).2) :
    Standing runEpoch upgrade epochTag (op.apply ext).1 ∨
      Ends upgrade epochTag (.write op result) := by
  cases op with
  | note op => exact .inl (hstanding.of_epochs (note_epochs hrun hstanding.1))
  | claim claimUpgrade claimTag expectedSequence epoch =>
    have hcase := claim_cases ext claimUpgrade claimTag expectedSequence epoch
    generalize (WriterOp.claim claimUpgrade claimTag expectedSequence epoch).apply ext = done at *
    cases hcase with
    | failed bypass => exact .inl (hstanding.of_epochs rfl)
    | claimed hepoch htag =>
      by_cases hside : claimUpgrade = upgrade
      · subst hside
        right
        right
        refine ⟨claimTag, ?_, ?_⟩
        · intro hsame
          exact htag (hstanding.2.trans hsame.symm)
        · rw [hresult]
          rfl
      · exact .inl (hstanding.of_other hside rfl)
  | release releaseUpgrade releaseTag epoch =>
    rw [release_apply]
    split_ifs with hmatch
    · by_cases hside : releaseUpgrade = upgrade
      · subst hside
        have htag : releaseTag = epochTag := hmatch.2.symm.trans hstanding.2
        rw [htag]
        exact .inr (.inl rfl)
      · exact .inl (hstanding.of_other hside rfl)
    · exact .inl (hstanding.of_epochs rfl)
  | setPendingAction action => exact .inl (hstanding.of_epochs rfl)
  | outcome => exact .inl (hstanding.of_epochs rfl)

theorem claimOf_standing {runEpoch : UInt8} {op : WriterOp} (hrun : InRun runEpoch op) {ext : Ext}
    {result : WriteResult} (hresult : result = (op.apply ext).2) {upgrade : Bool}
    {epochTag : Fin 4096} (hclaim : claimOf (.write op result) = some (upgrade, epochTag)) :
    ¬ Standing runEpoch upgrade epochTag ext ∧
      Standing runEpoch upgrade epochTag (op.apply ext).1 := by
  cases op with
  | claim claimUpgrade claimTag expectedSequence epoch =>
    have hcase := claim_cases ext claimUpgrade claimTag expectedSequence epoch
    generalize (WriterOp.claim claimUpgrade claimTag expectedSequence epoch).apply ext = done at *
    cases hcase with
    | failed bypass =>
      rw [hresult] at hclaim
      cases hclaim
    | claimed hepoch htag =>
      rw [hresult] at hclaim
      obtain ⟨rfl, rfl⟩ := Prod.mk.inj (Option.some.inj hclaim)
      refine ⟨fun hstanding => htag hstanding.2, ?_, ?_⟩
      · exact (setTag_stateEpoch _ _ _).trans (hepoch.trans hrun)
      · change (ext.decisionEpochs.setTag claimTag claimUpgrade).tag claimUpgrade = claimTag
        rw [setTag_tag, if_pos rfl]
  | note _ => cases hclaim
  | release _ _ _ => cases hclaim
  | setPendingAction _ => cases hclaim
  | outcome => cases hclaim

section

def opOf : ProtocolThread → Option WriterOp
  | .entering op _ => some op
  | .inside op _ _ => some op
  | _ => none

/-- Every operation under way or completed satisfies `P`. -/
structure OpsIn (P : WriterOp → Prop) (run : ProtocolRun) : Prop where
  threads : ∀ thread ∈ run.threads, ∀ op, opOf thread = some op → P op
  log : ∀ op result, .write op result ∈ run.log → P op

variable {P : WriterOp → Prop} {run : ProtocolRun}

theorem OpsIn.put (h : OpsIn P run) (t : ℕ) {thread : ProtocolThread}
    (hthread : ∀ op, opOf thread = some op → P op) : OpsIn P (run.put t thread) := by
  refine ⟨?_, h.log⟩
  intro other hother
  cases mem_or_eq_of_mem_set hother with
  | inl hold => exact h.threads other hold
  | inr hsame => exact hsame ▸ hthread

theorem OpsIn.ext (h : OpsIn P run) (ext : Ext) : OpsIn P { run with ext := ext } :=
  ⟨h.threads, h.log⟩

theorem OpsIn.append (h : OpsIn P run) {entry : Entry}
    (hentry : ∀ op result, entry = .write op result → P op) :
    OpsIn P { run with log := run.log ++ [entry] } := by
  refine ⟨h.threads, ?_⟩
  intro op result hmem
  cases mem_append.1 hmem with
  | inl hold => exact h.log op result hold
  | inr hnew => exact hentry op result (mem_singleton.1 hnew).symm

theorem advance_opsIn (h : OpsIn P run) {t : ℕ} {thread : ProtocolThread}
    (hthread : run.threads[t]? = some thread) : OpsIn P (run.advance t thread) := by
  have hop := h.threads thread (mem_of_getElem? hthread)
  have hnone : ∀ op : WriterOp, (none : Option WriterOp) = some op → P op :=
    fun _ hsome => by cases hsome
  cases thread with
  | entering op writeBegin =>
    cases writeBegin with
    | ret _ => exact h
    | step update next =>
      change OpsIn P (ProtocolRun.entered _ t op (next run.ext))
      generalize next run.ext = left
      cases left with
      | step _ _ => exact (h.ext (update run.ext)).put t hop
      | ret taken =>
        cases taken with
        | some old => exact (h.ext (update run.ext)).put t hop
        | none =>
          simp only [ProtocolRun.entered]
          split_ifs
          · exact (h.ext (update run.ext)).put t hnone
          · exact (h.ext (update run.ext)).put t hnone
  | inside op old body =>
    cases body with
    | step update next => exact (h.ext _).put t hop
    | ret done =>
      have hentry : ∀ op' result', Entry.write op done.2 = .write op' result' → P op' := by
        intro op' result' hsame
        obtain ⟨rfl, -⟩ := Entry.write.inj hsame
        exact hop op rfl
      exact ((h.ext _).append hentry).put t hnone
  | marking op mark =>
    cases mark with
    | ret _ => exact h
    | step update next =>
      have hlogged : OpsIn P { run with
          ext := update run.ext
          log := if (update run.ext).state = run.ext.state then run.log
            else run.log ++ [.mark] } := by
        split_ifs
        · exact h.ext _
        · exact (h.ext _).append (fun _ _ hsame => by cases hsame)
      change OpsIn P (ProtocolRun.marked _ t op (next run.ext))
      cases next run.ext with
      | ret _ => exact hlogged.put t hnone
      | step _ _ => exact hlogged.put t hnone
  | reading reader =>
    simp only [ProtocolRun.advance]
    split_ifs
    · exact h.put t hnone
    · exact h.put t hnone
  | sampling reader first begun body =>
    cases body with
    | step _ _ => exact h.put t hnone
    | ret _ => exact h.put t hnone
  | ended _ _ => exact h
  | read _ _ _ _ => exact h
  | returned => exact h

theorem protocolStep_opsIn (run : ProtocolRun) (event : ProtocolEvent) (h : OpsIn P run)
    (hevent : ∀ op, event = .startWrite op → P op) : OpsIn P (protocolStep run event).2 := by
  have hstart : ∀ thread : ProtocolThread, (∀ op, opOf thread = some op → P op) →
      OpsIn P { run with threads := run.threads ++ [thread] } := by
    intro thread hthread
    refine ⟨?_, h.log⟩
    intro other hother
    cases mem_append.1 hother with
    | inl hold => exact h.threads other hold
    | inr hnew => exact mem_singleton.1 hnew ▸ hthread
  cases event with
  | startWrite op =>
    apply hstart
    unfold WriterOp.thread
    split_ifs
    · intro op' hsame
      exact Option.some.inj hsame ▸ hevent op rfl
    · intro op' hsome
      cases hsome
  | startRead reader =>
    apply hstart
    intro op' hsome
    cases hsome
  | run t =>
    cases hthread : run.threads[t]? with
    | none =>
      simp only [protocolStep, hthread]
      exact h
    | some thread =>
      simp only [protocolStep, hthread]
      exact advance_opsIn h hthread

theorem run_opsIn (start : Ext) (runEpoch : UInt8) (events : List ProtocolEvent)
    (hrun : ∀ event ∈ events, EventInRun runEpoch event) :
    OpsIn (InRun runEpoch) (after protocolStep { ext := start } events) := by
  have hinitial : OpsIn (InRun runEpoch) { ext := start } := by
    refine ⟨?_, ?_⟩
    · intro thread hmem
      cases hmem
    · intro op result hmem
      cases hmem
  refine after_invariant_along ?_ hinitial events (along_of_forall protocolStep _ hrun)
  intro run event h hevent
  apply protocolStep_opsIn run event h
  intro op hop
  rw [hop] at hevent
  exact hevent

end

theorem exists_last_with {P : Ext → Prop} (start : Ext) (mid : List Entry) (log : List Entry)
    (hbefore : P (replay start log)) (hafter : ¬ P (replay start (log ++ mid))) :
    ∃ left entry right, mid = left ++ entry :: right ∧ P (replay start (log ++ left)) ∧
      ¬ P (replay start (log ++ left ++ [entry])) := by
  induction mid generalizing log with
  | nil =>
    rw [append_nil] at hafter
    exact absurd hbefore hafter
  | cons entry mid ih =>
    by_cases hnext : P (replay start (log ++ [entry]))
    · have hsplit : log ++ entry :: mid = log ++ [entry] ++ mid := by simp
      rw [hsplit] at hafter
      obtain ⟨left, last, right, hmid, hleft, hlast⟩ := ih _ hnext hafter
      refine ⟨entry :: left, last, right, by rw [hmid]; rfl, ?_, ?_⟩
      · simpa using hleft
      · simpa using hlast
    · refine ⟨[], entry, mid, rfl, ?_, ?_⟩
      · rw [append_nil]
        exact hbefore
      · rw [append_nil]
        exact hnext

/-- What the claims, the releases and the failures of a history can have done. -/
structure ClaimLaw (start : Ext) (log : List Entry) : Prop where
  /-- Between two successful claims of one tag in one direction the first was ended, while it
  stood, by its release or by a successful claim of another tag. -/
  claims : ∀ before first mid second rest upgrade epochTag,
    log = before ++ first :: mid ++ second :: rest →
    claimOf first = some (upgrade, epochTag) → claimOf second = some (upgrade, epochTag) →
    ∃ left entry right, mid = left ++ entry :: right ∧
      (replay start (before ++ first :: left)).decisionEpochs.tag upgrade = epochTag ∧
      Ends upgrade epochTag entry
  /-- A release changes its own direction's tag, and only from the tag it was issued for. -/
  releases : ∀ before upgrade epochTag runEpoch result rest,
    log = before ++ .write (.release upgrade epochTag runEpoch) result :: rest →
    ∃ epochs, replay start (before ++ [.write (.release upgrade epochTag runEpoch) result]) =
        { (replay start before).endWrite with decisionEpochs := epochs } ∧
      ∀ side, epochs.tag side ≠ (replay start before).decisionEpochs.tag side →
        side = upgrade ∧ (replay start before).decisionEpochs.tag side = epochTag
  /-- A claim that took the word and failed changed the sequence only. -/
  failures : ∀ before upgrade epochTag expectedSequence runEpoch bypass rest,
    log = before ++
      .write (.claim upgrade epochTag expectedSequence runEpoch) (.claimed (.error bypass)) ::
        rest →
    replay start (before ++ [.write (.claim upgrade epochTag expectedSequence runEpoch)
      (.claimed (.error bypass))]) = (replay start before).endWrite

theorem claims_of_history {start : Ext} {runEpoch : UInt8} {log : List Entry}
    (hsequential : Sequential start log)
    (hrun : ∀ op result, .write op result ∈ log → InRun runEpoch op)
    {before mid rest : List Entry} {first second : Entry} {upgrade : Bool} {epochTag : Fin 4096}
    (hlog : log = before ++ first :: mid ++ second :: rest)
    (hfirst : claimOf first = some (upgrade, epochTag))
    (hsecond : claimOf second = some (upgrade, epochTag)) :
    ∃ left entry right, mid = left ++ entry :: right ∧
      (replay start (before ++ first :: left)).decisionEpochs.tag upgrade = epochTag ∧
      Ends upgrade epochTag entry := by
  -- what one entry of the history does, from the folio before it
  have hentry : ∀ left op result right, log = left ++ .write op result :: right →
      InRun runEpoch op ∧ result = (op.apply (replay start left)).2 := by
    intro left op result right hsplit
    refine ⟨hrun op result ?_, hsequential left op result right hsplit⟩
    rw [hsplit]
    exact mem_append_right _ mem_cons_self
  have hstanding : Standing runEpoch upgrade epochTag (replay start (before ++ [first])) := by
    cases first with
    | mark => cases hfirst
    | write op result =>
      obtain ⟨hin, hresult⟩ := hentry before op result (mid ++ second :: rest) (by
        rw [hlog]
        simp)
      rw [replay_concat]
      exact (claimOf_standing hin hresult hfirst).2
  have hgone : ¬ Standing runEpoch upgrade epochTag (replay start (before ++ [first] ++ mid)) := by
    cases second with
    | mark => cases hsecond
    | write op result =>
      obtain ⟨hin, hresult⟩ := hentry (before ++ [first] ++ mid) op result rest (by
        rw [hlog]
        simp)
      exact (claimOf_standing hin hresult hsecond).1
  obtain ⟨left, entry, right, hmid, hleft, hlast⟩ :=
    exists_last_with start mid (before ++ [first]) hstanding hgone
  have hsplit : before ++ [first] ++ left = before ++ first :: left := by simp
  refine ⟨left, entry, right, hmid, ?_, ?_⟩
  · rw [← hsplit]
    exact hleft.2
  · rw [replay_concat] at hlast
    cases entry with
    | mark => exact absurd hleft hlast
    | write op result =>
      obtain ⟨hin, hresult⟩ := hentry (before ++ [first] ++ left) op result
        (right ++ second :: rest) (by
          rw [hlog, hmid]
          simp)
      exact (apply_standing hin hleft hresult).resolve_left hlast

theorem releases_of_apply (ext : Ext) (upgrade : Bool) (epochTag : Fin 4096) (runEpoch : UInt8) :
    ∃ epochs, ((WriterOp.release upgrade epochTag runEpoch).apply ext).1 =
        { ext.endWrite with decisionEpochs := epochs } ∧
      ∀ side, epochs.tag side ≠ ext.decisionEpochs.tag side →
        side = upgrade ∧ ext.decisionEpochs.tag side = epochTag := by
  rw [release_apply]
  split_ifs with hmatch
  · refine ⟨_, rfl, ?_⟩
    intro side hchanged
    rw [setTag_tag] at hchanged
    split_ifs at hchanged with hside
    · exact ⟨hside.symm, hside ▸ hmatch.2⟩
    · exact absurd rfl hchanged
  · exact ⟨ext.decisionEpochs, rfl, fun side hchanged => absurd rfl hchanged⟩

theorem entering_changes_nothing {start : Ext} {run : ProtocolRun} (h : HistoryInv start run)
    {t : ℕ} {op : WriterOp} {left : Prog Ext (Option StateWord)}
    (hthread : run.threads[t]? = some (.entering op left)) :
    (protocolStep run (.run t)).2.log = run.log ∧
      ((protocolStep run (.run t)).2.ext = run.ext ∨
        (protocolStep run (.run t)).2.threads[t]? =
          some (.inside op run.ext.state (op.body run.ext.state))) := by
  obtain ⟨update, next, rfl, hstep⟩ := entering_step (h.ok t _ hthread)
  simp only [protocolStep, hthread]
  change (ProtocolRun.entered { run with ext := update run.ext } t op (next run.ext)).log = _ ∧
    ((ProtocolRun.entered { run with ext := update run.ext } t op (next run.ext)).ext = _ ∨
      (ProtocolRun.entered { run with ext := update run.ext } t op (next run.ext)).threads[t]? = _)
  have hcase := hstep run.ext
  generalize update run.ext = ext at *
  generalize next run.ext = rest at *
  cases hcase with
  | again hrest =>
    obtain ⟨_, _, rfl, -⟩ := entering_step hrest
    exact ⟨rfl, .inl rfl⟩
  | gaveUp =>
    simp only [ProtocolRun.entered]
    split_ifs
    · exact ⟨rfl, .inl rfl⟩
    · exact ⟨rfl, .inl rfl⟩
  | took _ =>
    obtain ⟨hbound, -⟩ := List.getElem?_eq_some_iff.1 hthread
    exact ⟨rfl, .inr (getElem?_set_self hbound)⟩

/-- In every interleaving of one run and one page lifetime. A claim whose `write_begin` gives up
only takes steps that change nothing. -/
theorem epoch_claims (start : Ext) (runEpoch : UInt8) (events : List ProtocolEvent)
    (hrun : ∀ event ∈ events, EventInRun runEpoch event) :
    (¬ (after protocolStep { ext := start } events).ext.state.Busy →
      (after protocolStep { ext := start } events).ext =
        replay start (after protocolStep { ext := start } events).log) ∧
    ClaimLaw start (after protocolStep { ext := start } events).log ∧
    ∀ (t : ℕ) (op : WriterOp) (left : Prog Ext (Option StateWord)),
      (after protocolStep { ext := start } events).threads[t]? = some (.entering op left) →
      (after protocolStep { ext := start } (events ++ [.run t])).log =
        (after protocolStep { ext := start } events).log ∧
      ((after protocolStep { ext := start } (events ++ [.run t])).ext =
          (after protocolStep { ext := start } events).ext ∨
        ∃ old, (after protocolStep { ext := start } (events ++ [.run t])).threads[t]? =
          some (.inside op old (op.body old))) := by
  have h := history_inv start events
  have hops := run_opsIn start runEpoch events hrun
  simp only [after_concat]
  generalize after protocolStep { ext := start } events = run at *
  refine ⟨h.free, ⟨?_, ?_, ?_⟩, ?_⟩
  · intro before first mid second rest upgrade epochTag hlog hfirst hsecond
    exact claims_of_history h.sequential hops.log hlog hfirst hsecond
  · intro before upgrade epochTag runEpoch result rest _
    rw [replay_concat]
    exact releases_of_apply (replay start before) upgrade epochTag runEpoch
  · intro before upgrade epochTag expectedSequence runEpoch bypass rest hlog
    have hresult := h.sequential before _ _ rest hlog
    rw [replay_concat]
    change ((WriterOp.claim upgrade epochTag expectedSequence runEpoch).apply _).1 = _
    have hcase := claim_cases (replay start before) upgrade epochTag expectedSequence runEpoch
    generalize (WriterOp.claim upgrade epochTag expectedSequence runEpoch).apply
      (replay start before) = done at *
    cases hcase with
    | failed _ => rfl
    | claimed _ _ => cases hresult
  · intro t op left hthread
    obtain ⟨hlog, htaken⟩ := entering_changes_nothing h hthread
    exact ⟨hlog, htaken.imp_right fun hinside => ⟨_, hinside⟩⟩

def claimFolio : Ext where
  lastAccessMs := 1000
  generationEnterMs := 1000
  state := { access := 255, initialized := true }
  decisionEpochs := { stateEpoch := 1 }

/-- The operation from its call to its end, by thread `t`. -/
def alone (t : ℕ) (op : WriterOp) (steps : ℕ) : List ProtocolEvent :=
  .startWrite op :: List.replicate steps (.run t)

def claimUpgrade (epochTag : Fin 4096) : WriterOp := .claim true epochTag none 1

def releasedClaim : List ProtocolEvent :=
  alone 0 (claimUpgrade 5) 5 ++ alone 1 (.release true 5 1) 5 ++ alone 2 (claimUpgrade 5) 5

theorem releasedClaim_law :
    (after protocolStep { ext := claimFolio } releasedClaim).log.map claimOf =
        [some (true, 5), none, some (true, 5)] ∧
      ClaimLaw claimFolio (after protocolStep { ext := claimFolio } releasedClaim).log := by
  refine ⟨by decide +kernel, (epoch_claims claimFolio 1 releasedClaim ?_).2.1⟩
  simp [releasedClaim, alone, claimUpgrade, EventInRun, InRun]

def replacedClaim : List ProtocolEvent :=
  alone 0 (claimUpgrade 5) 5 ++ alone 1 (claimUpgrade 6) 5 ++ alone 2 (claimUpgrade 5) 5

/-- The claim of another tag takes the place of the first, so that both claims of the tag 5 succeed
with no release at all. -/
theorem replaced_claim_succeeds_again :
    (after protocolStep { ext := claimFolio } replacedClaim).log.map claimOf =
        [some (true, 5), some (true, 6), some (true, 5)] ∧
      (after protocolStep { ext := claimFolio } replacedClaim).log.map releaseOf =
        [none, none, none] := by
  decide +kernel

end Parp.EpochClaims
