import Parp.EpochClaims

set_option autoImplicit false

/-!
# What a run sees of earlier runs

Two histories of one folio, over the completed operations `FolioHistory` reduces every interleaving
to. `SameReuse` and `SameValidity` are what a run keeps equal between them.
-/
namespace Parp.RunIsolation

open FolioState AtomicPrograms FolioPrograms
open FolioWriters EpochClaims

/-- `parp_effective_tier_page_alloc`. -/
def parpEffectiveTierPageAlloc (ext : Ext) : Ext where
  lifetimeEpoch := if ext.lifetimeEpoch + 1 = 0 then 1 else ext.lifetimeEpoch + 1

/-- A completed write, a write that was given up and marked the folio, or the page's allocation. -/
inductive Operation
  | write (op : WriterOp)
  | mark
  | allocate

def Operation.apply : Operation → Ext → Ext
  | .write op, ext => (op.apply ext).1
  | .mark, ext => { ext with state := StateWord.marked ext.state }
  | .allocate, ext => parpEffectiveTierPageAlloc ext

def performed (start : Ext) (history : List Operation) : Ext :=
  history.foldl (fun ext operation => operation.apply ext) start

theorem performed_concat (start : Ext) (history : List Operation) (operation : Operation) :
    performed start (history ++ [operation]) = operation.apply (performed start history) := by
  simp [performed]

/-- Every run the operation reads started before `runEpoch`. -/
def ReadsBefore (runEpoch : UInt8) : Operation → Prop
  | .write (.note (.noteAccess _ _ currentEpoch checkedEpoch)) =>
    currentEpoch < runEpoch ∧ checkedEpoch < runEpoch
  | .write (.note (.candidate _ epoch _)) => epoch < runEpoch
  | .write (.claim _ _ _ epoch) => epoch < runEpoch
  | .write (.release _ _ epoch) => epoch < runEpoch
  | _ => True

def ReadsIn (runEpoch : UInt8) : Operation → Prop
  | .write op => InRun runEpoch op
  | _ => True

structure SamePlacement (left right : Ext) : Prop where
  generation : left.state.generation = right.state.generation
  entered : left.generationEnterMs = right.generationEnterMs

/-- What a run's features are computed from, the placement and the uncertain bit apart. -/
structure SameReuse (left right : Ext) : Prop where
  lastAccess : left.lastAccessMs = right.lastAccessMs
  previousInterval : left.previousIntervalMs = right.previousIntervalMs
  intervalEma : left.reuseIntervalEmaMs = right.reuseIntervalEmaMs
  access : left.state.access = right.state.access
  candidate : left.state.candidate = right.state.candidate
  initialized : left.state.initialized = right.state.initialized

structure Isolated (runEpoch : UInt8) (left right : Ext) : Prop where
  epoch : left.decisionEpochs.stateEpoch = runEpoch ↔ right.decisionEpochs.stateEpoch = runEpoch
  reuse : left.decisionEpochs.stateEpoch = runEpoch → SameReuse left right

structure SameValidity (runEpoch : UInt8) (left right : Ext) : Prop where
  isolated : Isolated runEpoch left right
  placement : SamePlacement left right
  uncertain : left.decisionEpochs.stateEpoch = runEpoch →
    left.state.uncertain = right.state.uncertain

def lastInterval (ext : Ext) (now : UInt32) (checkedEpoch : UInt8) : UInt32 × Bool :=
  if ext.state.initialized ∧ ext.decisionEpochs.stateEpoch = checkedEpoch then
    parpEffectiveTierElapsedMs now ext.lastAccessMs
  else (0, false)

def accessed (ext : Ext) (now : UInt32) (currentEpoch checkedEpoch : UInt8) : Ext :=
  let newRun : Bool := ext.decisionEpochs.stateEpoch ≠ currentEpoch
  let (interval, valid) := lastInterval ext now checkedEpoch
  { ext with
    lastAccessMs := now
    previousIntervalMs := if valid then parpSatU16 interval else 0
    reuseIntervalEmaMs := if valid then parpIntervalEma ext.reuseIntervalEmaMs interval else 0
    decisionEpochs := if newRun then { stateEpoch := currentEpoch } else ext.decisionEpochs
    state := writeEnd ext.state
      { ext.state with
        access := parpAccessEmaOnAccess (if valid then ext.state.access else 0)
        candidate := 0
        uncertain := false
        initialized := true
        action := if newRun then 0 else ext.state.action } }

section

variable (ext : Ext)

/-- `write_end` after the body of a note. -/
def noteEnd (old : StateWord) (done : Ext × Written) : Ext :=
  { done.1 with state := writeEnd old done.2.newState }

theorem note_apply (op : FolioOp) :
    ((WriterOp.note op).apply ext).1 =
      noteEnd ext.state
        ((op.body ext.state).runWith keepState { ext with state := ext.state.locked }) := by
  unfold WriterOp.apply WriterOp.body
  dsimp only
  rw [Prog.runWith_map]
  rfl

theorem realAccess_apply {event : ParpAccessEvent} (hreal : parpAccessEventIsReal event = true)
    (now : UInt32) (currentEpoch checkedEpoch : UInt8) :
    ((WriterOp.note (.noteAccess event now currentEpoch checkedEpoch)).apply ext).1 =
      accessed ext now currentEpoch checkedEpoch := by
  rw [note_apply]
  change noteEnd ext.state ((noteAccessBody event now currentEpoch checkedEpoch
    ext.state).runWith keepState _) = _
  unfold noteAccessBody
  change noteEnd ext.state ((if parpAccessEventIsReal event = true then _ else _ :
    Prog Ext Written).runWith keepState _) = _
  rw [if_pos hreal]
  unfold accessed lastInterval
  simp only [Prog.read, Prog.runWith, keepState, id]
  by_cases hknown : ext.state.initialized = true ∧ ext.decisionEpochs.stateEpoch = checkedEpoch
  · simp only [if_pos hknown]
    generalize parpEffectiveTierElapsedMs now ext.lastAccessMs = elapsed
    obtain ⟨interval, valid⟩ := elapsed
    cases valid <;> rfl
  · simp only [if_neg hknown]
    rfl

theorem otherNote_apply {event : ParpAccessEvent} (hreal : parpAccessEventIsReal event = false)
    (now : UInt32) (currentEpoch checkedEpoch : UInt8) :
    ((WriterOp.note (.noteAccess event now currentEpoch checkedEpoch)).apply ext).1 =
      { ext with
        state := writeEnd ext.state
          (if ext.state.initialized then StateWord.marked ext.state else ext.state) } := by
  rw [note_apply]
  change noteEnd ext.state ((noteAccessBody event now currentEpoch checkedEpoch
    ext.state).runWith keepState _) = _
  unfold noteAccessBody
  change noteEnd ext.state ((if parpAccessEventIsReal event = true then _ else _ :
    Prog Ext Written).runWith keepState _) = _
  rw [hreal]
  rfl

theorem noteMove_apply (event : ParpAccessEvent) (generation : ℤ) (now : UInt32) :
    ((WriterOp.note (.noteMove event generation now)).apply ext).1 =
      { ext with
        generationEnterMs :=
          if ext.generationEnterMs = 0 ∨ (ext.state.generation.val : ℤ) ≠ generation then now
          else ext.generationEnterMs
        state := writeEnd ext.state
          { ext.state with generation := Fin.ofNat 4 generation.toNat } } := by
  rw [note_apply]
  change noteEnd ext.state ((noteMoveBody generation now ext.state).runWith keepState _) = _
  unfold noteMoveBody
  change noteEnd ext.state ((if ext.generationEnterMs = 0 ∨
    (ext.state.generation.val : ℤ) ≠ generation then _ else _ :
      Prog Ext Written).runWith keepState _) = _
  split_ifs <;> rfl

theorem candidate_apply (now : UInt32) (runEpoch : UInt8) (folioGen : ℤ) :
    ((WriterOp.note (.candidate now runEpoch folioGen)).apply ext).1 =
      { ext with
        state := writeEnd ext.state
          (candidateFeatures ext ext.state now runEpoch folioGen).newState } := by
  rw [note_apply]
  unfold FolioOp.body candidateBody
  simp only [Prog.read, Prog.runWith, keepState, id]
  unfold noteEnd
  rfl

end

structure Untouched (ext ext' : Ext) : Prop where
  epoch : ext'.decisionEpochs.stateEpoch = ext.decisionEpochs.stateEpoch
  reuse : SameReuse ext' ext
  placement : SamePlacement ext' ext
  uncertain : ext'.state.uncertain = ext.state.uncertain

theorem endWrite_untouched (ext : Ext) {epochs : DecisionEpochs}
    (hepoch : epochs.stateEpoch = ext.decisionEpochs.stateEpoch) :
    Untouched ext { ext.endWrite with decisionEpochs := epochs } :=
  ⟨hepoch, ⟨rfl, rfl, rfl, rfl, rfl, rfl⟩, ⟨rfl, rfl⟩, rfl⟩

theorem claim_untouched (ext : Ext) (upgrade : Bool) (epochTag : Fin 4096)
    (expectedSequence : Option (Fin 2048)) (runEpoch : UInt8) :
    Untouched ext ((WriterOp.claim upgrade epochTag expectedSequence runEpoch).apply ext).1 := by
  have hcase := claim_cases ext upgrade epochTag expectedSequence runEpoch
  generalize (WriterOp.claim upgrade epochTag expectedSequence runEpoch).apply ext = done at *
  cases hcase with
  | failed bypass => exact endWrite_untouched ext rfl
  | claimed hepoch htag => exact endWrite_untouched ext (setTag_stateEpoch _ _ _)

theorem release_untouched (ext : Ext) (upgrade : Bool) (epochTag : Fin 4096) (runEpoch : UInt8) :
    Untouched ext ((WriterOp.release upgrade epochTag runEpoch).apply ext).1 := by
  rw [release_apply]
  split_ifs
  · exact endWrite_untouched ext (setTag_stateEpoch _ _ _)
  · exact endWrite_untouched ext rfl

def isNote : WriterOp → Bool
  | .note _ => true
  | _ => false

theorem write_untouched {op : WriterOp} (hop : isNote op = false) (ext : Ext) :
    Untouched ext (op.apply ext).1 := by
  cases op with
  | note op => cases hop
  | claim upgrade epochTag expectedSequence epoch => exact claim_untouched ext _ _ _ _
  | release upgrade epochTag epoch => exact release_untouched ext _ _ _
  | setPendingAction action => exact ⟨rfl, ⟨rfl, rfl, rfl, rfl, rfl, rfl⟩, ⟨rfl, rfl⟩, rfl⟩
  | outcome => exact ⟨rfl, ⟨rfl, rfl, rfl, rfl, rfl, rfl⟩, ⟨rfl, rfl⟩, rfl⟩

section

variable {runEpoch : UInt8} {left right left' right' : Ext}

theorem SameReuse.trans {ext₁ ext₂ ext₃ : Ext} (h : SameReuse ext₁ ext₂)
    (h' : SameReuse ext₂ ext₃) : SameReuse ext₁ ext₃ :=
  ⟨h.lastAccess.trans h'.lastAccess, h.previousInterval.trans h'.previousInterval,
    h.intervalEma.trans h'.intervalEma, h.access.trans h'.access, h.candidate.trans h'.candidate,
    h.initialized.trans h'.initialized⟩

theorem SameReuse.symm (h : SameReuse left right) : SameReuse right left :=
  ⟨h.lastAccess.symm, h.previousInterval.symm, h.intervalEma.symm, h.access.symm,
    h.candidate.symm, h.initialized.symm⟩

theorem Isolated.keep (h : Isolated runEpoch left right)
    (hleft : left'.decisionEpochs.stateEpoch = left.decisionEpochs.stateEpoch)
    (hright : right'.decisionEpochs.stateEpoch = right.decisionEpochs.stateEpoch)
    (hreuse : SameReuse left right → SameReuse left' right') : Isolated runEpoch left' right' where
  epoch := by rw [hleft, hright]; exact h.epoch
  reuse := by rw [hleft]; exact fun hrun => hreuse (h.reuse hrun)

theorem Isolated.untouched (h : Isolated runEpoch left right) (hleft : Untouched left left')
    (hright : Untouched right right') : Isolated runEpoch left' right' :=
  h.keep hleft.epoch hright.epoch fun hsame => (hleft.reuse.trans hsame).trans hright.reuse.symm

theorem SameValidity.untouched (h : SameValidity runEpoch left right) (hleft : Untouched left left')
    (hright : Untouched right right') : SameValidity runEpoch left' right' where
  isolated := h.isolated.untouched hleft hright
  placement :=
    ⟨hleft.placement.generation.trans (h.placement.generation.trans
        hright.placement.generation.symm),
      hleft.placement.entered.trans (h.placement.entered.trans hright.placement.entered.symm)⟩
  uncertain := by
    rw [hleft.epoch, hleft.uncertain, hright.uncertain]
    exact h.uncertain

theorem accessed_epoch (ext : Ext) (now : UInt32) (currentEpoch checkedEpoch : UInt8) :
    (accessed ext now currentEpoch checkedEpoch).decisionEpochs.stateEpoch = currentEpoch := by
  unfold accessed
  by_cases hrun : ext.decisionEpochs.stateEpoch = currentEpoch
  · simp [hrun]
  · simp [hrun]

theorem Isolated.accessed (h : Isolated runEpoch left right) (now : UInt32) :
    Isolated runEpoch (accessed left now runEpoch runEpoch)
      (accessed right now runEpoch runEpoch) := by
  refine ⟨by simp [accessed_epoch], fun _ => ?_⟩
  have hinterval : lastInterval left now runEpoch = lastInterval right now runEpoch ∧
      ((lastInterval left now runEpoch).2 = true → SameReuse left right) := by
    unfold lastInterval
    by_cases hrun : left.decisionEpochs.stateEpoch = runEpoch
    · have hsame := h.reuse hrun
      simp only [hsame.initialized, hsame.lastAccess, hrun, h.epoch.1 hrun]
      exact ⟨trivial, fun _ => hsame⟩
    · have hother : ¬ right.decisionEpochs.stateEpoch = runEpoch := fun hrun' => hrun (h.epoch.2 hrun')
      simp only [hrun, hother, and_false, if_false]
      exact ⟨trivial, nofun⟩
  obtain ⟨hinterval, hsame⟩ := hinterval
  unfold RunIsolation.accessed
  rw [← hinterval]
  generalize lastInterval left now runEpoch = elapsed at *
  obtain ⟨interval, valid⟩ := elapsed
  cases valid with
  | false => exact ⟨rfl, rfl, rfl, rfl, rfl, rfl⟩
  | true =>
    have hreuse := hsame rfl
    exact ⟨rfl, rfl, congrArg (parpIntervalEma · interval) hreuse.intervalEma,
      congrArg parpAccessEmaOnAccess hreuse.access, rfl, rfl⟩

theorem candidate_word (ext : Ext) (now : UInt32) (epoch : UInt8) (folioGen : ℤ) :
    (candidateFeatures ext ext.state now epoch folioGen).newState =
      { ext.state with
        access := parpAccessEmaOnCandidate ext.state.access
        candidate := Fin.ofNat 64 (min (ext.state.candidate.val + 1) 63)
        uncertain :=
          if (ext.state.generation.val : ℤ) ≠ folioGen then true else ext.state.uncertain } := by
  unfold candidateFeatures
  dsimp only
  by_cases hmoved : (ext.state.generation.val : ℤ) ≠ folioGen
  · simp [hmoved]
  · simp [hmoved]

theorem Isolated.candidate (h : Isolated runEpoch left right) (now : UInt32) (epoch : UInt8)
    (folioGen : ℤ) :
    Isolated runEpoch
      ((WriterOp.note (.candidate now epoch folioGen)).apply left).1
      ((WriterOp.note (.candidate now epoch folioGen)).apply right).1 := by
  rw [candidate_apply, candidate_apply, candidate_word, candidate_word]
  refine h.keep rfl rfl fun hsame => ⟨hsame.lastAccess, hsame.previousInterval,
    hsame.intervalEma, ?_, ?_, hsame.initialized⟩
  · exact congrArg parpAccessEmaOnCandidate hsame.access
  · change Fin.ofNat 64 _ = Fin.ofNat 64 _
    rw [hsame.candidate]

theorem Isolated.note (h : Isolated runEpoch left right) {op : FolioOp}
    (hrun : InRun runEpoch (.note op)) :
    Isolated runEpoch ((WriterOp.note op).apply left).1 ((WriterOp.note op).apply right).1 := by
  cases op with
  | noteAccess event now currentEpoch checkedEpoch =>
    obtain ⟨rfl, rfl⟩ := hrun
    cases hreal : parpAccessEventIsReal event with
    | true =>
      rw [realAccess_apply left hreal, realAccess_apply right hreal]
      exact h.accessed now
    | false =>
      rw [otherNote_apply left hreal, otherNote_apply right hreal]
      refine h.keep rfl rfl fun hsame => ?_
      cases hleft : left.state.initialized <;>
        simp only [hsame.initialized.symm.trans hleft] <;>
        exact ⟨hsame.lastAccess, hsame.previousInterval, hsame.intervalEma, hsame.access,
          hsame.candidate, hsame.initialized⟩
  | noteMove event generation now =>
    rw [noteMove_apply, noteMove_apply]
    exact h.keep rfl rfl fun hsame => ⟨hsame.lastAccess, hsame.previousInterval,
      hsame.intervalEma, hsame.access, hsame.candidate, hsame.initialized⟩
  | candidate now epoch folioGen => exact h.candidate now epoch folioGen

theorem apply_isolated (operation : Operation) (hrun : ReadsIn runEpoch operation)
    (h : Isolated runEpoch left right) :
    Isolated runEpoch (operation.apply left) (operation.apply right) := by
  cases operation with
  | write op =>
    cases op with
    | note op => exact h.note hrun
    | claim | release | setPendingAction | outcome =>
      exact h.untouched (write_untouched rfl left) (write_untouched rfl right)
  | mark =>
    exact h.keep rfl rfl fun hsame => ⟨hsame.lastAccess, hsame.previousInterval,
      hsame.intervalEma, hsame.access, hsame.candidate, hsame.initialized⟩
  | allocate => exact ⟨Iff.rfl, fun _ => ⟨rfl, rfl, rfl, rfl, rfl, rfl⟩⟩

theorem note_validity (h : SameValidity runEpoch left right) {op : FolioOp}
    (hrun : InRun runEpoch (.note op)) :
    SameValidity runEpoch ((WriterOp.note op).apply left).1 ((WriterOp.note op).apply right).1 := by
  refine ⟨h.isolated.note hrun, ?_, ?_⟩
  · cases op with
    | noteAccess event now currentEpoch checkedEpoch =>
      cases hreal : parpAccessEventIsReal event with
      | true =>
        rw [realAccess_apply left hreal, realAccess_apply right hreal]
        exact ⟨h.placement.generation, h.placement.entered⟩
      | false =>
        rw [otherNote_apply left hreal, otherNote_apply right hreal]
        refine ⟨?_, h.placement.entered⟩
        cases left.state.initialized <;> cases right.state.initialized <;>
          exact h.placement.generation
    | noteMove event generation now =>
      rw [noteMove_apply, noteMove_apply]
      refine ⟨rfl, ?_⟩
      dsimp only
      rw [h.placement.generation, h.placement.entered]
    | candidate now epoch folioGen =>
      rw [candidate_apply, candidate_apply, candidate_word, candidate_word]
      exact ⟨h.placement.generation, h.placement.entered⟩
  · cases op with
    | noteAccess event now currentEpoch checkedEpoch =>
      cases hreal : parpAccessEventIsReal event with
      | true =>
        rw [realAccess_apply left hreal, realAccess_apply right hreal]
        exact fun _ => rfl
      | false =>
        rw [otherNote_apply left hreal, otherNote_apply right hreal]
        intro hepoch
        have hinitialized := (h.isolated.reuse hepoch).initialized
        have huncertain := h.uncertain hepoch
        cases hleft : left.state.initialized with
        | true => simp only [hinitialized.symm.trans hleft]; rfl
        | false =>
          simp only [hinitialized.symm.trans hleft]
          exact huncertain
    | noteMove event generation now =>
      rw [noteMove_apply, noteMove_apply]
      exact h.uncertain
    | candidate now epoch folioGen =>
      rw [candidate_apply, candidate_apply, candidate_word, candidate_word]
      intro hepoch
      change (if _ then true else left.state.uncertain) = if _ then true else right.state.uncertain
      rw [h.placement.generation, h.uncertain hepoch]

theorem apply_validity {operation : Operation} (hrun : ReadsIn runEpoch operation)
    (h : SameValidity runEpoch left right) :
    SameValidity runEpoch (operation.apply left) (operation.apply right) := by
  cases operation with
  | write op =>
    cases op with
    | note op => exact note_validity h hrun
    | claim | release | setPendingAction | outcome =>
      exact h.untouched (write_untouched rfl left) (write_untouched rfl right)
  | mark =>
    exact ⟨apply_isolated .mark hrun h.isolated,
      ⟨h.placement.generation, h.placement.entered⟩, fun _ => rfl⟩
  | allocate =>
    exact ⟨apply_isolated .allocate hrun h.isolated, ⟨rfl, rfl⟩, fun _ => rfl⟩

theorem performed_keeps {P : Ext → Ext → Prop}
    (hstep : ∀ operation left right, ReadsIn runEpoch operation → P left right →
      P (operation.apply left) (operation.apply right))
    (h : P left right) {current : List Operation}
    (hcurrent : ∀ operation ∈ current, ReadsIn runEpoch operation) :
    P (performed left current) (performed right current) := by
  induction current generalizing left right with
  | nil => exact h
  | cons operation current ih =>
    exact ih (hstep operation left right (hcurrent operation List.mem_cons_self) h)
      fun other hother => hcurrent other (List.mem_cons_of_mem _ hother)

end

theorem apply_before {runEpoch : UInt8} {operation : Operation} (hrun : runEpoch ≠ 0)
    (hbefore : ReadsBefore runEpoch operation) {ext : Ext}
    (hepoch : ext.decisionEpochs.stateEpoch ≠ runEpoch) :
    (operation.apply ext).decisionEpochs.stateEpoch ≠ runEpoch := by
  cases operation with
  | write op =>
    cases op with
    | note op =>
      cases op with
      | noteAccess event now currentEpoch checkedEpoch =>
        cases hreal : parpAccessEventIsReal event with
        | true =>
          change ((WriterOp.note _).apply ext).1.decisionEpochs.stateEpoch ≠ runEpoch
          rw [realAccess_apply ext hreal, accessed_epoch]
          rintro rfl
          exact UInt8.lt_irrefl _ hbefore.1
        | false =>
          change ((WriterOp.note _).apply ext).1.decisionEpochs.stateEpoch ≠ runEpoch
          rw [otherNote_apply ext hreal]
          exact hepoch
      | noteMove event generation now =>
        change ((WriterOp.note _).apply ext).1.decisionEpochs.stateEpoch ≠ runEpoch
        rw [noteMove_apply]
        exact hepoch
      | candidate now epoch folioGen =>
        change ((WriterOp.note _).apply ext).1.decisionEpochs.stateEpoch ≠ runEpoch
        rw [candidate_apply]
        exact hepoch
    | claim | release | setPendingAction | outcome =>
      exact fun hsame => hepoch ((write_untouched rfl ext).epoch.symm.trans hsame)
  | mark => exact hepoch
  | allocate => exact hrun.symm

theorem performed_before {runEpoch : UInt8} (hrun : runEpoch ≠ 0) {older : List Operation}
    (hbefore : ∀ operation ∈ older, ReadsBefore runEpoch operation) :
    (performed {} older).decisionEpochs.stateEpoch ≠ runEpoch := by
  induction older using List.reverseRecOn with
  | nil => exact hrun.symm
  | append_singleton older operation ih =>
    rw [performed_concat]
    exact apply_before hrun (hbefore operation (by simp))
      (ih fun other hother => hbefore other (by simp [hother]))

/-- What a call of `parp_candidate_features` that takes the word computes. -/
def candidateCall (history : List Operation) (now : UInt32) (runEpoch : UInt8) (folioGen : ℤ) :
    CandidateRead :=
  candidateFeatures (performed {} history) (performed {} history).state now runEpoch folioGen

section

variable {runEpoch : UInt8} {left right : Ext}

theorem valid_run {ext : Ext} (now : UInt32) (folioGen : ℤ)
    (h : (candidateFeatures ext ext.state now runEpoch folioGen).valid = true) :
    ext.decisionEpochs.stateEpoch = runEpoch := by
  have hfields := of_decide_eq_true h
  exact hfields.2.2.2.2.2.2.1

theorem values_agree (age previous ema candidates generation generation' access : ℤ) :
    ∀ feature : Fin parpTierFeatures, feature ≠ 4 →
      ![age, previous, ema, candidates, generation, access] feature =
        ![age, previous, ema, candidates, generation', access] feature := by
  simp [Fin.forall_fin_succ]

theorem call_reuse (h : SameReuse left right) (now : UInt32) (folioGen : ℤ)
    (feature : Fin parpTierFeatures) (hfeature : feature ≠ 4) :
    (candidateFeatures left left.state now runEpoch folioGen).values feature =
      (candidateFeatures right right.state now runEpoch folioGen).values feature := by
  unfold candidateFeatures
  dsimp only
  rw [h.lastAccess, h.previousInterval, h.intervalEma, h.access, h.candidate]
  exact values_agree _ _ _ _ _ _ _ feature hfeature

theorem call_validity (h : SameValidity runEpoch left right)
    (hrun : left.decisionEpochs.stateEpoch = runEpoch) (now : UInt32) (folioGen : ℤ) :
    (candidateFeatures left left.state now runEpoch folioGen).valid =
        (candidateFeatures right right.state now runEpoch folioGen).valid ∧
      (candidateFeatures left left.state now runEpoch folioGen).values =
        (candidateFeatures right right.state now runEpoch folioGen).values := by
  have hsame := h.isolated.reuse hrun
  have huncertain := h.uncertain hrun
  have hother := h.isolated.epoch.1 hrun
  unfold candidateFeatures
  dsimp only
  rw [hsame.lastAccess, hsame.previousInterval, hsame.intervalEma, hsame.access, hsame.candidate,
    hsame.initialized, huncertain, h.placement.generation, h.placement.entered, hrun, hother]
  exact ⟨rfl, rfl⟩

end

section

variable {runEpoch : UInt8} {older older' current : List Operation}

theorem performed_append (start : Ext) (history later : List Operation) :
    performed start (history ++ later) = performed (performed start history) later := by
  simp [performed]

theorem histories_isolated (hrun : runEpoch ≠ 0)
    (holder : ∀ operation ∈ older, ReadsBefore runEpoch operation)
    (holder' : ∀ operation ∈ older', ReadsBefore runEpoch operation) :
    Isolated runEpoch (performed {} older) (performed {} older') := by
  have hnot := performed_before hrun holder
  have hnot' := performed_before hrun holder'
  exact ⟨⟨fun h => absurd h hnot, fun h => absurd h hnot'⟩, fun h => absurd h hnot⟩

/-- Two histories that agree on the run, and on the recorded generation and its entry time when the
run starts, give every call the same answer. Without the second agreement the features other than
the generation age are still the same whenever both calls are valid. -/
theorem run_isolation (hrun : runEpoch ≠ 0)
    (holder : ∀ operation ∈ older, ReadsBefore runEpoch operation)
    (holder' : ∀ operation ∈ older', ReadsBefore runEpoch operation)
    (hcurrent : ∀ operation ∈ current, ReadsIn runEpoch operation) (now : UInt32) (folioGen : ℤ) :
    (SamePlacement (performed {} older) (performed {} older') →
      (candidateCall (older ++ current) now runEpoch folioGen).valid =
          (candidateCall (older' ++ current) now runEpoch folioGen).valid ∧
        ((candidateCall (older ++ current) now runEpoch folioGen).valid = true →
          (candidateCall (older ++ current) now runEpoch folioGen).values =
            (candidateCall (older' ++ current) now runEpoch folioGen).values)) ∧
    ((candidateCall (older ++ current) now runEpoch folioGen).valid = true →
      (candidateCall (older' ++ current) now runEpoch folioGen).valid = true →
      ∀ feature : Fin parpTierFeatures, feature ≠ 4 →
        (candidateCall (older ++ current) now runEpoch folioGen).values feature =
          (candidateCall (older' ++ current) now runEpoch folioGen).values feature) := by
  have hstart := histories_isolated hrun holder holder'
  unfold candidateCall
  rw [performed_append, performed_append]
  constructor
  · intro hplacement
    have hend : SameValidity runEpoch (performed (performed {} older) current)
        (performed (performed {} older') current) :=
      performed_keeps (fun _ _ _ hin h => apply_validity hin h)
        ⟨hstart, hplacement, fun h => absurd h (performed_before hrun holder)⟩ hcurrent
    by_cases hcarried : (performed (performed {} older) current).decisionEpochs.stateEpoch =
        runEpoch
    · obtain ⟨hvalid, hvalues⟩ := call_validity hend hcarried now folioGen
      exact ⟨hvalid, fun _ => hvalues⟩
    · have hinvalid := fun h => hcarried (valid_run now folioGen h)
      have hinvalid' := fun h => hcarried
        (hend.isolated.epoch.2 (valid_run now folioGen h))
      rw [Bool.eq_false_of_not_eq_true hinvalid, Bool.eq_false_of_not_eq_true hinvalid']
      exact ⟨rfl, nofun⟩
  · intro hvalid _
    have hend : Isolated runEpoch (performed (performed {} older) current)
        (performed (performed {} older') current) :=
      performed_keeps (fun _ _ _ hin h => apply_isolated _ hin h) hstart hcurrent
    exact call_reuse (hend.reuse (valid_run _ _ hvalid)) now folioGen

end

def entersAt (now : UInt32) : List Operation :=
  [.allocate, .write (.note (.noteMove .otherMove 1 now))]

def accessIn (runEpoch : UInt8) (now : UInt32) : Operation :=
  .write (.note (.noteAccess .markAccessed now runEpoch runEpoch))

/-- Two accesses in the first run make no difference to the second. -/
theorem run_isolation_secondRun :
    (candidateCall (entersAt 100 ++ [accessIn 2 1000]) 2000 2 1).valid = true ∧
      (candidateCall (entersAt 100 ++ [accessIn 2 1000]) 2000 2 1).values =
        (candidateCall (entersAt 100 ++ [accessIn 1 400, accessIn 1 500] ++ [accessIn 2 1000])
          2000 2 1).values := by
  have hvalid : (candidateCall (entersAt 100 ++ [accessIn 2 1000]) 2000 2 1).valid = true := by
    decide +kernel
  refine ⟨hvalid, ((run_isolation (by decide) ?_ ?_ ?_ 2000 1).1 ?_).2 hvalid⟩
  · simp [entersAt, ReadsBefore]
  · simp [entersAt, accessIn, ReadsBefore]
  · simp [accessIn, ReadsIn, InRun]
  · exact ⟨by decide +kernel, by decide +kernel⟩

/-- Isolation with nothing asked of the placement but the same generation, recorded and current. -/
def RunsIsolated : Prop :=
  ∀ (runEpoch : UInt8) (older older' current : List Operation) (now : UInt32) (folioGen : ℤ),
    runEpoch ≠ 0 →
    (∀ operation ∈ older, ReadsBefore runEpoch operation) →
    (∀ operation ∈ older', ReadsBefore runEpoch operation) →
    (∀ operation ∈ current, ReadsIn runEpoch operation) →
    (performed {} (.allocate :: older)).state.generation =
      (performed {} (.allocate :: older')).state.generation →
    (candidateCall (.allocate :: older ++ current) now runEpoch folioGen).valid =
        (candidateCall (.allocate :: older' ++ current) now runEpoch folioGen).valid ∧
      ((candidateCall (.allocate :: older ++ current) now runEpoch folioGen).valid = true →
        (candidateCall (.allocate :: older ++ current) now runEpoch folioGen).values =
          (candidateCall (.allocate :: older' ++ current) now runEpoch folioGen).values)

/-- The generation age counts from before the run: 1900 and 1800 ms. -/
theorem runs_not_isolated : ¬ RunsIsolated := by
  intro h
  have hsame := (h 1 [.write (.note (.noteMove .otherMove 1 100))]
    [.write (.note (.noteMove .otherMove 1 200))] [accessIn 1 1000] 2000 1 (by decide)
    (by simp [ReadsBefore]) (by simp [ReadsBefore]) (by simp [accessIn, ReadsIn, InRun])
    (by decide +kernel)).2 (by decide +kernel)
  have hage := congrFun hsame 4
  revert hage
  decide +kernel

end Parp.RunIsolation
