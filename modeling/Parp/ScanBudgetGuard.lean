import Mathlib.Data.List.Induction
import Parp.Internal
import Parp.SlotTable

set_option autoImplicit false

/-!
# The circuit guard of the scan budget

`mm/parp/core/scan_budget.c`: a slot for each domain counts its invalid inputs and trips on the
third, until a newer generation is valid or the slot is cleared.
-/
namespace Parp.ScanBudgetGuard

open KeyedTable SlotTable TransitionRuns List

def parpScanGuardFailures : UInt32 := 3

structure ParpScanGuard where
  domainId : UInt64 := 0
  generation : UInt32 := 0
  failures : UInt32 := 0
  tripped : Bool := false
  deriving DecidableEq, Inhabited

def parpScanGuardFind (guards : List ParpScanGuard) (domainId : UInt64) : Option ℕ :=
  slotFor ParpScanGuard.domainId 0 domainId guards

def settle (guard : ParpScanGuard) (generation : UInt32) (valid : Bool) : ParpScanGuard :=
  if valid ∧ guard.generation < generation then
    { guard with generation := generation, failures := 0, tripped := false }
  else if valid = false ∧ guard.tripped = false then
    { guard with
      failures := guard.failures + 1
      tripped := decide (parpScanGuardFailures ≤ guard.failures + 1) }
  else guard

def parpScanBudgetGuard (guards : List ParpScanGuard) (domainId : UInt64) (generation : UInt32)
    (valid : Bool) : Bool × List ParpScanGuard :=
  if domainId = 0 then (false, guards)
  else
    match parpScanGuardFind guards domainId with
    | none => (false, guards)
    | some i =>
      let guard := guards.getD i {}
      let guard := if guard.domainId = 0 then { guard with domainId := domainId } else guard
      let guard := settle guard generation valid
      (!guard.tripped, guards.set i guard)

def parpScanBudgetGuardClear (guards : List ParpScanGuard) (domainId : UInt64) :
    List ParpScanGuard :=
  match parpScanGuardFind guards domainId with
  | none => guards
  | some i => if (guards.getD i {}).domainId = domainId then guards.set i {} else guards

inductive GuardEvent
  | input (domainId : UInt64) (generation : UInt32) (valid : Bool)
  | clear (domainId : UInt64)
  deriving DecidableEq

def GuardEvent.domainId : GuardEvent → UInt64
  | .input domainId _ _ => domainId
  | .clear domainId => domainId

def guardStep (guards : List ParpScanGuard) : GuardEvent → Bool × List ParpScanGuard
  | .input domainId generation valid => parpScanBudgetGuard guards domainId generation valid
  | .clear domainId => (true, parpScanBudgetGuardClear guards domainId)

def parpScanGuards : List ParpScanGuard := List.replicate parpMaxDomains {}

def guardsAfter (events : List GuardEvent) : List ParpScanGuard :=
  after guardStep parpScanGuards events

def guardOf (guards : List ParpScanGuard) (domainId : UInt64) : Option ParpScanGuard :=
  if domainId = 0 then none else lookup ParpScanGuard.domainId domainId guards

def tripped (guards : List ParpScanGuard) (domainId : UInt64) : Bool :=
  (guardOf guards domainId).any ParpScanGuard.tripped

structure Recorded where
  generation : UInt32
  valid : Bool
  deriving DecidableEq

def tallyStep (tally : UInt32 × ℕ) (input : Recorded) : UInt32 × ℕ :=
  if input.valid then
    if tally.1 < input.generation then (input.generation, 0) else tally
  else (tally.1, tally.2 + 1)

def tally (inputs : List Recorded) : UInt32 × ℕ := inputs.foldl tallyStep (0, 0)

/-- An input of the domain is recorded when there is a slot for it; a clear forgets them all. -/
def recordStep (domainId : UInt64) (inputs : List Recorded)
    (turn : Turn (List ParpScanGuard) GuardEvent Bool) : List Recorded :=
  match turn.input with
  | .input other generation valid =>
    if other = domainId ∧ domainId ≠ 0 ∧ (parpScanGuardFind turn.before domainId).isSome then
      inputs ++ [⟨generation, valid⟩]
    else inputs
  | .clear other => if other = domainId then [] else inputs

def recorded (domainId : UInt64) (events : List GuardEvent) : List Recorded :=
  (turns guardStep parpScanGuards events).foldl (recordStep domainId) []

theorem recorded_concat (domainId : UInt64) (events : List GuardEvent) (event : GuardEvent) :
    recorded domainId (events ++ [event]) =
      recordStep domainId (recorded domainId events)
        ⟨guardsAfter events, event, (guardStep (guardsAfter events) event).1⟩ := by
  unfold recorded guardsAfter
  rw [turns_concat, foldl_append]
  rfl

def Counts (guard : ParpScanGuard) (inputs : List Recorded) : Prop :=
  guard.generation = (tally inputs).1 ∧ guard.failures.toNat = min 3 (tally inputs).2 ∧
    guard.tripped = decide (3 ≤ (tally inputs).2)

@[simp] theorem settle_domainId (guard : ParpScanGuard) (generation : UInt32) (valid : Bool) :
    (settle guard generation valid).domainId = guard.domainId := by
  unfold settle
  split_ifs <;> rfl

theorem Counts.settle {guard : ParpScanGuard} {inputs : List Recorded} (h : Counts guard inputs)
    (generation : UInt32) (valid : Bool) :
    Counts (settle guard generation valid) (inputs ++ [⟨generation, valid⟩]) := by
  obtain ⟨hgeneration, hfailures, htripped⟩ := h
  have htally : tally (inputs ++ [⟨generation, valid⟩]) =
      tallyStep (tally inputs) ⟨generation, valid⟩ := by simp [tally]
  unfold Counts ScanBudgetGuard.settle
  rw [htally]
  unfold tallyStep
  cases valid with
  | true =>
    by_cases hnew : guard.generation < generation
    · simp [hnew, ← hgeneration]
    · simp [hnew, ← hgeneration, hfailures, htripped]
  | false =>
    by_cases hthree : 3 ≤ (tally inputs).2
    · simp [hthree, htripped, hgeneration, hfailures]
      omega
    · have hadd : (guard.failures + 1).toNat = (tally inputs).2 + 1 := by
        rw [UInt32.toNat_add]
        simp
        omega
      have hlimit : (parpScanGuardFailures ≤ guard.failures + 1) ↔ 2 ≤ (tally inputs).2 := by
        rw [UInt32.le_iff_toNat_le, hadd]
        change 3 ≤ _ ↔ _
        omega
      simp only [htripped, hthree, hgeneration, hlimit]
      simp
      omega

section

variable {guards : List ParpScanGuard} {domainId : UInt64}

structure Tidy (guards : List ParpScanGuard) : Prop where
  single : Single ParpScanGuard.domainId 0 guards
  blank : ∀ guard ∈ guards, guard.domainId = 0 → guard = {}

theorem guardOf_some {guard : ParpScanGuard} (h : guardOf guards domainId = some guard) :
    domainId ≠ 0 ∧ lookup ParpScanGuard.domainId domainId guards = some guard := by
  unfold guardOf at h
  split_ifs at h with hzero
  exact ⟨hzero, h⟩

theorem guardOf_ne_zero (hd : domainId ≠ 0) :
    guardOf guards domainId = lookup ParpScanGuard.domainId domainId guards := if_neg hd

theorem guardOf_eq_none (hd : domainId ≠ 0) (habsent : ∀ guard ∈ guards, guard.domainId ≠ domainId) :
    guardOf guards domainId = none := by
  rw [guardOf_ne_zero hd, lookup_eq_none]
  rintro ⟨guard, hmem, hkey⟩
  exact habsent guard hmem hkey

inductive Answer (guards : List ParpScanGuard) (domainId : UInt64) (generation : UInt32)
    (valid : Bool) : Bool × List ParpScanGuard → Prop
  | refused (hnone : guardOf guards domainId = none)
      (hfull : domainId = 0 ∨ Full ParpScanGuard.domainId 0 guards)
      (hfind : domainId = 0 ∨ parpScanGuardFind guards domainId = none) :
      Answer guards domainId generation valid (false, guards)
  | counted (i : ℕ) (slot guard : ParpScanGuard) (hslot : guards[i]? = some slot)
      (hfits : Fits ParpScanGuard.domainId guards i (settle guard generation valid))
      (hkey : slot.domainId = domainId ∨ slot.domainId = 0) (hd : domainId ≠ 0)
      (hguard : guard.domainId = domainId)
      (hheld : guardOf guards domainId = some guard ∨
        guardOf guards domainId = none ∧ guard = { domainId := domainId })
      (hfind : (parpScanGuardFind guards domainId).isSome) :
      Answer guards domainId generation valid
        (!(settle guard generation valid).tripped, guards.set i (settle guard generation valid))

theorem parpScanBudgetGuard_answer (htidy : Tidy guards) (domainId : UInt64) (generation : UInt32)
    (valid : Bool) :
    Answer guards domainId generation valid
      (parpScanBudgetGuard guards domainId generation valid) := by
  unfold parpScanBudgetGuard
  by_cases hd : domainId = 0
  · rw [if_pos hd]
    exact .refused (if_pos hd) (.inl hd) (.inl hd)
  rw [if_neg hd]
  have hfound := slotFor_found ParpScanGuard.domainId 0 domainId guards
  unfold parpScanGuardFind
  generalize hfind : slotFor ParpScanGuard.domainId 0 domainId guards = found at hfound
  cases hfound with
  | held i slot hslot hkey =>
    have hget : guards.getD i {} = slot := by rw [getD_eq_getElem?_getD, hslot]; rfl
    dsimp only
    rw [hget, if_neg (by rwa [hkey])]
    refine .counted i slot slot hslot (fun j t ht hsame => ?_) (.inl hkey) hd hkey (.inl ?_) ?_
    · rw [settle_domainId] at hsame
      exact htidy.single j i t slot ht hslot hsame (by rwa [hsame, hkey])
    · rw [guardOf_ne_zero hd, lookup_eq_some htidy.single hd]
      exact ⟨i, hslot, hkey⟩
    · unfold parpScanGuardFind
      rw [hfind]
      rfl
  | claimed i slot hslot hfree habsent =>
    have hget : guards.getD i {} = slot := by rw [getD_eq_getElem?_getD, hslot]; rfl
    have hblank : slot = {} := htidy.blank slot (mem_of_getElem? hslot) hfree
    dsimp only
    rw [hget, if_pos hfree, hblank]
    refine .counted i slot { domainId := domainId } hslot (fun j t ht hsame => ?_) (.inr hfree) hd
      rfl (.inr ⟨guardOf_eq_none hd habsent, rfl⟩) ?_
    · rw [settle_domainId] at hsame
      exact absurd hsame (habsent t (mem_of_getElem? ht))
    · unfold parpScanGuardFind
      rw [hfind]
      rfl
  | full habsent hfull =>
    exact .refused (guardOf_eq_none hd habsent) (.inr hfull) (.inr hfind)

inductive Cleared (guards : List ParpScanGuard) (domainId : UInt64) : List ParpScanGuard → Prop
  | kept (hnone : guardOf guards domainId = none) (hfind : domainId ≠ 0 →
      ∀ guard ∈ guards, guard.domainId ≠ domainId) : Cleared guards domainId guards
  | emptied (i : ℕ) (slot : ParpScanGuard) (hslot : guards[i]? = some slot)
      (hkey : slot.domainId = domainId) : Cleared guards domainId (guards.set i {})

theorem parpScanBudgetGuardClear_cleared (guards : List ParpScanGuard) (domainId : UInt64) :
    Cleared guards domainId (parpScanBudgetGuardClear guards domainId) := by
  have hnone : (∀ guard ∈ guards, guard.domainId ≠ domainId) → guardOf guards domainId = none := by
    intro habsent
    by_cases hd : domainId = 0
    · exact if_pos hd
    · exact guardOf_eq_none hd habsent
  have hfound := slotFor_found ParpScanGuard.domainId 0 domainId guards
  unfold parpScanBudgetGuardClear parpScanGuardFind
  generalize slotFor ParpScanGuard.domainId 0 domainId guards = found at hfound
  cases hfound with
  | held i slot hslot hkey =>
    have hget : guards.getD i {} = slot := by rw [getD_eq_getElem?_getD, hslot]; rfl
    dsimp only
    rw [hget, if_pos hkey]
    exact .emptied i slot hslot hkey
  | claimed i slot hslot hfree habsent =>
    have hget : guards.getD i {} = slot := by rw [getD_eq_getElem?_getD, hslot]; rfl
    dsimp only
    rw [hget, if_neg (habsent slot (mem_of_getElem? hslot))]
    exact .kept (hnone habsent) fun _ => habsent
  | full habsent hfull => exact .kept (hnone habsent) fun _ => habsent

theorem tidy_set (htidy : Tidy guards) {i : ℕ} {guard : ParpScanGuard}
    (hfits : guard.domainId = 0 ∨ Fits ParpScanGuard.domainId guards i guard)
    (hblank : guard.domainId = 0 → guard = {}) : Tidy (guards.set i guard) := by
  refine ⟨htidy.single.set hfits, fun other hother => ?_⟩
  rcases mem_or_eq_of_mem_set hother with hold | rfl
  · exact htidy.blank other hold
  · exact hblank

theorem guardOf_set_self (htidy : Tidy guards) {i : ℕ} {slot guard : ParpScanGuard}
    {generation : UInt32} {valid : Bool} (hslot : guards[i]? = some slot)
    (hfits : Fits ParpScanGuard.domainId guards i (settle guard generation valid))
    (hd : domainId ≠ 0) (hguard : guard.domainId = domainId) :
    guardOf (guards.set i (settle guard generation valid)) domainId =
      some (settle guard generation valid) := by
  have hkey : (settle guard generation valid).domainId = domainId := by
    rw [settle_domainId, hguard]
  have hself := lookup_set_self htidy.single hslot hfits (by rwa [hkey])
  rw [hkey] at hself
  rw [guardOf_ne_zero hd]
  exact hself

theorem guardStep_tidy (guards : List ParpScanGuard) (event : GuardEvent) (htidy : Tidy guards) :
    Tidy (guardStep guards event).2 := by
  cases event with
  | input domainId generation valid =>
    change Tidy (parpScanBudgetGuard guards domainId generation valid).2
    have hanswer := parpScanBudgetGuard_answer htidy domainId generation valid
    generalize parpScanBudgetGuard guards domainId generation valid = result at hanswer
    cases hanswer with
    | refused => exact htidy
    | counted i slot guard hslot hfits hkey hd hguard hheld hfind =>
      refine tidy_set htidy (.inr hfits) fun hzero => ?_
      rw [settle_domainId, hguard] at hzero
      exact absurd hzero hd
  | clear domainId =>
    change Tidy (parpScanBudgetGuardClear guards domainId)
    have hcleared := parpScanBudgetGuardClear_cleared guards domainId
    generalize parpScanBudgetGuardClear guards domainId = guards' at hcleared
    cases hcleared with
    | kept => exact htidy
    | emptied i slot hslot hkey => exact tidy_set htidy (.inl rfl) fun _ => rfl

theorem guardStep_other (htidy : Tidy guards) (event : GuardEvent)
    (hother : event.domainId ≠ domainId) :
    guardOf (guardStep guards event).2 domainId = guardOf guards domainId := by
  by_cases hzero : domainId = 0
  · exact (if_pos hzero).trans (if_pos hzero).symm
  rw [guardOf_ne_zero hzero, guardOf_ne_zero hzero]
  cases event with
  | input other generation valid =>
    change other ≠ domainId at hother
    change lookup _ _ (parpScanBudgetGuard guards other generation valid).2 = _
    have hanswer := parpScanBudgetGuard_answer htidy other generation valid
    generalize parpScanBudgetGuard guards other generation valid = result at hanswer
    cases hanswer with
    | refused => rfl
    | counted i slot guard hslot hfits hkey hd hguard hheld hfind =>
      refine lookup_set_other htidy.single hslot (.inr hfits) hzero ?_ ?_
      · rcases hkey with hkey | hkey
        · rwa [hkey]
        · rw [hkey]
          exact fun h => hzero h.symm
      · rwa [settle_domainId, hguard]
  | clear other =>
    change other ≠ domainId at hother
    change lookup _ _ (parpScanBudgetGuardClear guards other) = _
    have hcleared := parpScanBudgetGuardClear_cleared guards other
    generalize parpScanBudgetGuardClear guards other = guards' at hcleared
    cases hcleared with
    | kept => rfl
    | emptied i slot hslot hkey =>
      refine lookup_set_other htidy.single hslot (.inl rfl) hzero (by rwa [hkey]) ?_
      exact fun h => hzero h.symm

end

section

structure Kept (guards : List ParpScanGuard) (inputs : UInt64 → List Recorded) : Prop where
  tidy : Tidy guards
  counts : ∀ domainId, ∀ guard, guardOf guards domainId = some guard →
    Counts guard (inputs domainId)
  absent : ∀ domainId, guardOf guards domainId = none → inputs domainId = []

variable {guards : List ParpScanGuard} {inputs : UInt64 → List Recorded}

theorem Kept.step (h : Kept guards inputs) (event : GuardEvent) :
    Kept (guardStep guards event).2 fun domainId =>
      recordStep domainId (inputs domainId) ⟨guards, event, (guardStep guards event).1⟩ := by
  have hrecord : ∀ domainId, event.domainId ≠ domainId →
      recordStep domainId (inputs domainId) ⟨guards, event, (guardStep guards event).1⟩ =
        inputs domainId := by
    intro domainId hother
    cases event with
    | input other generation valid => exact if_neg fun hall => hother hall.1
    | clear other => exact if_neg hother
  suffices hown : ∀ domainId, event.domainId = domainId →
      (∀ guard, guardOf (guardStep guards event).2 domainId = some guard →
        Counts guard (recordStep domainId (inputs domainId)
          ⟨guards, event, (guardStep guards event).1⟩)) ∧
      (guardOf (guardStep guards event).2 domainId = none →
        recordStep domainId (inputs domainId) ⟨guards, event, (guardStep guards event).1⟩ = []) by
    refine ⟨guardStep_tidy guards event h.tidy, fun domainId guard hguard => ?_,
      fun domainId hnone => ?_⟩
    · by_cases hother : event.domainId = domainId
      · exact (hown domainId hother).1 guard hguard
      · rw [guardStep_other h.tidy event hother] at hguard
        rw [hrecord domainId hother]
        exact h.counts domainId guard hguard
    · by_cases hother : event.domainId = domainId
      · exact (hown domainId hother).2 hnone
      · rw [guardStep_other h.tidy event hother] at hnone
        rw [hrecord domainId hother]
        exact h.absent domainId hnone
  rintro domainId rfl
  cases event with
  | input domainId generation valid =>
    change (∀ guard, guardOf (parpScanBudgetGuard guards domainId generation valid).2 domainId =
      some guard → Counts guard (if domainId = domainId ∧ domainId ≠ 0 ∧
        (parpScanGuardFind guards domainId).isSome then
          inputs domainId ++ [⟨generation, valid⟩] else inputs domainId)) ∧
      (guardOf (parpScanBudgetGuard guards domainId generation valid).2 domainId = none →
        (if domainId = domainId ∧ domainId ≠ 0 ∧ (parpScanGuardFind guards domainId).isSome then
          inputs domainId ++ [⟨generation, valid⟩] else inputs domainId) = [])
    have hanswer := parpScanBudgetGuard_answer h.tidy domainId generation valid
    generalize parpScanBudgetGuard guards domainId generation valid = result at hanswer
    cases hanswer with
    | refused hnone hfull hfind =>
      have hskip : ¬ (domainId = domainId ∧ domainId ≠ 0 ∧
          (parpScanGuardFind guards domainId).isSome) := by
        rintro ⟨-, hd, hsome⟩
        rcases hfind with hzero | hfind
        · exact hd hzero
        · rw [hfind] at hsome
          cases hsome
      rw [if_neg hskip]
      exact ⟨h.counts domainId, h.absent domainId⟩
    | counted i slot guard hslot hfits hkey hd hguard hheld hfind =>
      rw [if_pos ⟨rfl, hd, hfind⟩]
      have hcounts : Counts guard (inputs domainId) := by
        rcases hheld with hheld | ⟨hnone, hfresh⟩
        · exact h.counts domainId guard hheld
        · rw [h.absent domainId hnone, hfresh]
          exact ⟨rfl, rfl, rfl⟩
      have hself := guardOf_set_self h.tidy hslot hfits hd hguard
      refine ⟨fun other hother => ?_, fun hnone => ?_⟩
      · obtain rfl := Option.some.inj (hself.symm.trans hother)
        exact hcounts.settle generation valid
      · cases hself.symm.trans hnone
  | clear domainId =>
    change (∀ guard, guardOf (parpScanBudgetGuardClear guards domainId) domainId = some guard →
      Counts guard (if domainId = domainId then [] else inputs domainId)) ∧
      (guardOf (parpScanBudgetGuardClear guards domainId) domainId = none →
        (if domainId = domainId then [] else inputs domainId) = [])
    rw [if_pos rfl]
    refine ⟨fun guard hguard => ?_, fun _ => rfl⟩
    obtain ⟨hd, hlookup⟩ := guardOf_some hguard
    have hcleared := parpScanBudgetGuardClear_cleared guards domainId
    generalize parpScanBudgetGuardClear guards domainId = guards' at hcleared hguard hlookup
    cases hcleared with
    | kept hnone hfind => cases hnone.symm.trans hguard
    | emptied i slot hslot hkey =>
      rw [← hkey, lookup_set_freed h.tidy.single hslot (by rwa [hkey]) rfl] at hlookup
      cases hlookup

theorem parpScanGuards_blank {guard : ParpScanGuard} (h : guard ∈ parpScanGuards) : guard = {} :=
  eq_of_mem_replicate h

theorem kept_run (events : List GuardEvent) :
    Kept (guardsAfter events) fun domainId => recorded domainId events := by
  induction events using List.reverseRecOn with
  | nil =>
    have hfree : ∀ domainId, guardOf parpScanGuards domainId = none := by
      intro domainId
      by_cases hd : domainId = 0
      · exact if_pos hd
      · refine guardOf_eq_none hd fun guard hguard => ?_
        rw [parpScanGuards_blank hguard]
        exact fun h => hd h.symm
    refine ⟨⟨?_, fun guard hguard _ => parpScanGuards_blank hguard⟩, ?_, fun _ _ => rfl⟩
    · intro i j s t hs ht hsame hne
      exact absurd (by rw [parpScanGuards_blank (mem_of_getElem? hs)]) hne
    · intro domainId guard hguard
      cases (hfree domainId).symm.trans hguard
  | append_singleton events event ih =>
    have hnext := ih.step event
    have hguards : guardsAfter (events ++ [event]) = (guardStep (guardsAfter events) event).2 :=
      after_concat _ _ _ _
    rw [hguards]
    simpa only [recorded_concat] using hnext

theorem guardStep_length (guards : List ParpScanGuard) (event : GuardEvent) :
    (guardStep guards event).2.length = guards.length := by
  cases event with
  | input domainId generation valid =>
    change (parpScanBudgetGuard guards domainId generation valid).2.length = _
    unfold parpScanBudgetGuard
    split_ifs
    · rfl
    · split <;> simp
  | clear domainId =>
    change (parpScanBudgetGuardClear guards domainId).length = _
    unfold parpScanBudgetGuardClear
    split
    · rfl
    · split_ifs <;> simp

theorem guardsAfter_length (events : List GuardEvent) :
    (guardsAfter events).length = parpMaxDomains :=
  after_invariant (fun guards event h => (guardStep_length guards event).trans h)
    length_replicate events

/-- An input is allowed exactly when it leaves its domain a slot that has not tripped. -/
theorem allowed_iff {domainId : UInt64} (htidy : Tidy guards) (generation : UInt32) (valid : Bool) :
    (parpScanBudgetGuard guards domainId generation valid).1 = true ↔
      ∃ guard, guardOf (parpScanBudgetGuard guards domainId generation valid).2 domainId =
        some guard ∧ guard.tripped = false := by
  have hanswer := parpScanBudgetGuard_answer htidy domainId generation valid
  generalize parpScanBudgetGuard guards domainId generation valid = result at hanswer
  cases hanswer with
  | refused hnone => simp [hnone]
  | counted i slot guard hslot hfits hkey hd hguard hheld hfind =>
    have hself := guardOf_set_self htidy hslot hfits hd hguard
    simp [hself]

theorem refused_when_full {domainId : UInt64} (htidy : Tidy guards) (generation : UInt32)
    (valid : Bool) (hnone : guardOf guards domainId = none)
    (hfull : Full ParpScanGuard.domainId 0 guards) :
    parpScanBudgetGuard guards domainId generation valid = (false, guards) := by
  have hanswer := parpScanBudgetGuard_answer htidy domainId generation valid
  generalize parpScanBudgetGuard guards domainId generation valid = result at hanswer
  cases hanswer with
  | refused => rfl
  | counted i slot guard hslot hfits hkey hd hguard hheld hfind =>
    rcases hkey with hkey | hfree
    · have hsome := (lookup_eq_some htidy.single hd).2 ⟨i, hslot, hkey⟩
      rw [guardOf_ne_zero hd, hsome] at hnone
      cases hnone
    · exact absurd hfree (hfull slot (mem_of_getElem? hslot))

theorem tripped_iff {inputs : UInt64 → List Recorded} (h : Kept guards inputs) (domainId : UInt64) :
    tripped guards domainId = true ↔ 3 ≤ (tally (inputs domainId)).2 := by
  unfold tripped
  cases hguard : guardOf guards domainId with
  | none =>
    rw [h.absent domainId hguard]
    decide
  | some guard =>
    change guard.tripped = true ↔ _
    rw [(h.counts domainId guard hguard).2.2, decide_eq_true_iff]

theorem one_slot (htidy : Tidy guards) (domainId : UInt64) :
    guards.countP (fun guard => guard.domainId = domainId ∧ domainId ≠ 0) ≤ 1 := by
  by_cases hd : domainId = 0
  · simp [hd]
  · simpa [hd] using htidy.single.countP_le hd

/-- Each domain has its own count of invalid inputs; without a slot it is refused. -/
theorem guard_law (events : List GuardEvent) (domainId : UInt64) :
    let guards := guardsAfter events
    guards.length = parpMaxDomains ∧
    guards.countP (fun guard => guard.domainId = domainId ∧ domainId ≠ 0) ≤ 1 ∧
    (tripped guards domainId = true ↔ 3 ≤ (tally (recorded domainId events)).2) ∧
    (∀ event : GuardEvent, event.domainId ≠ domainId →
      guardOf (guardStep guards event).2 domainId = guardOf guards domainId) ∧
    ∀ generation valid,
      ((parpScanBudgetGuard guards domainId generation valid).1 = true ↔
        ∃ guard, guardOf (parpScanBudgetGuard guards domainId generation valid).2 domainId =
          some guard ∧ guard.tripped = false) ∧
      (guardOf guards domainId = none → Full ParpScanGuard.domainId 0 guards →
        parpScanBudgetGuard guards domainId generation valid = (false, guards)) := by
  intro guards
  have hkept : Kept guards fun domainId => recorded domainId events := kept_run events
  refine ⟨guardsAfter_length events, one_slot hkept.tidy domainId, tripped_iff hkept domainId,
    fun event hother => guardStep_other hkept.tidy event hother, fun generation valid => ⟨?_, ?_⟩⟩
  · exact allowed_iff hkept.tidy generation valid
  · exact refused_when_full hkept.tidy generation valid

def crowd : List GuardEvent :=
  (List.range parpMaxDomains).map fun i => .input (UInt64.ofNat (i + 1)) 1 false

theorem crowd_refuses : parpScanBudgetGuard (guardsAfter crowd) 65 1 true =
    (false, guardsAfter crowd) :=
  ((guard_law crowd 65).2.2.2.2 1 true).2 (by decide +kernel) (by decide +kernel)

end

end Parp.ScanBudgetGuard
