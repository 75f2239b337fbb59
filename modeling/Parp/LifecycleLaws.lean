import Parp.Lifecycle
import Parp.TransitionRuns
import Mathlib.Data.List.Chain

set_option autoImplicit false

namespace Parp.Lifecycle

open OrderedDict MembershipChanges TransitionRuns List

section

variable {κ α β : Type} [LinearOrder κ] {d : Dict κ α} {k : κ}

theorem mem_keySet : k ∈ keySet d ↔ d.get? k ≠ none := by
  unfold keySet
  rw [mem_toFinset]
  constructor
  · intro hk
    obtain ⟨item, hitem, rfl⟩ := mem_map.1 hk
    rw [Dict.get?_of_mem (v := item.2) hitem]
    exact nofun
  · intro hsome
    obtain ⟨v, hv⟩ := Option.ne_none_iff_exists'.1 hsome
    exact mem_map_of_mem (f := Prod.fst) (Dict.mem_of_get? hv)

theorem keySet_set (d : Dict κ α) (k : κ) (v : α) : keySet (d.set k v) = insert k (keySet d) := by
  ext k'
  rw [mem_keySet, Finset.mem_insert, mem_keySet, Dict.get?_set]
  split_ifs with hk
  · simp [hk]
  · simp [hk]

theorem mem_keySet_erase (d : Dict κ α) (k k' : κ) :
    k' ∈ keySet (d.erase k) ↔ k' ≠ k ∧ k' ∈ keySet d := by
  rw [mem_keySet, mem_keySet, Dict.get?_erase]
  split_ifs with hk
  · simp [hk]
  · simp [hk]

theorem mem_sortedKeys : k ∈ sortedKeys d ↔ k ∈ keySet d := by
  unfold sortedKeys keySet
  rw [mem_insertionSort, mem_toFinset]

theorem sortedKeys_nodup (d : Dict κ α) : (sortedKeys d).Nodup :=
  (perm_insertionSort _ _).nodup_iff.2 d.nodup

theorem mem_sortedWithout {other : Dict κ β} :
    k ∈ sortedWithout d other ↔ k ∈ keySet d ∧ k ∉ keySet other := by
  unfold sortedWithout
  rw [mem_filter, mem_sortedKeys, mem_keySet, mem_keySet]
  simp

theorem sortedWithout_nodup (d : Dict κ α) (other : Dict κ β) : (sortedWithout d other).Nodup :=
  (sortedKeys_nodup d).filter _

end

def appsOf (samples : List ProcessSample) : Finset String :=
  (samples.map ProcessSample.app).toFinset

theorem mem_appsOf {app : String} {samples : List ProcessSample} :
    app ∈ appsOf samples ↔ ∃ process ∈ samples, process.app = app := by
  unfold appsOf
  rw [mem_toFinset, mem_map]

theorem keySet_currentByApp (samples : List ProcessSample) :
    keySet (currentByApp samples) = appsOf samples := by
  have hfold (d : Dict String (Finset ℕ)) :
      keySet (samples.foldl (fun d sample =>
        d.set sample.app (insert sample.pid ((d.get? sample.app).getD ∅))) d) =
        keySet d ∪ appsOf samples := by
    induction samples generalizing d with
    | nil => simp [appsOf]
    | cons sample samples ih =>
      rw [foldl_cons, ih, keySet_set]
      simp [appsOf]
  have hempty : keySet (∅ : Dict String (Finset ℕ)) = ∅ := rfl
  unfold currentByApp
  rw [hfold, hempty, Finset.empty_union]

section

def LifecycleEvent.toggle (e : LifecycleEvent) : Toggle String :=
  ⟨e.app, decide (e.eventType = .appOpen)⟩

/-- The event adds its application to the set it reports, or takes it out. -/
structure Moves (e : LifecycleEvent) : Prop where
  changes : e.toggle.added = decide (e.app ∉ e.openAppsBefore)
  after : e.openAppsAfter = e.toggle.apply e.openAppsBefore

/-- Events that report the sets between two sets, one change after the other. -/
inductive Reports : Finset String → List LifecycleEvent → Finset String → Prop
  | nil (s : Finset String) : Reports s [] s
  | cons {s t : Finset String} {e : LifecycleEvent} {events : List LifecycleEvent} :
      e.openAppsBefore = s → Moves e → Reports e.openAppsAfter events t →
      Reports s (e :: events) t

variable {s t u : Finset String} {events later : List LifecycleEvent}

theorem Reports.append (h : Reports s events t) (hlater : Reports t later u) :
    Reports s (events ++ later) u := by
  induction h with
  | nil s => exact hlater
  | cons hbefore hmoves _ ih => exact .cons hbefore hmoves (ih hlater)

theorem Reports.chain (h : Reports s events t) :
    Chain s (events.map LifecycleEvent.toggle) t := by
  induction h with
  | nil s => exact .nil s
  | cons hbefore hmoves _ ih =>
    subst hbefore
    exact .cons hmoves.changes (hmoves.after ▸ ih)

theorem Reports.moves (h : Reports s events t) : ∀ e ∈ events, Moves e := by
  induction h with
  | nil s => exact nofun
  | cons _ hmoves _ ih => exact forall_mem_cons.2 ⟨hmoves, ih⟩

theorem Reports.linked (h : Reports s events t) :
    (∀ e ∈ events.head?, e.openAppsBefore = s) ∧
      events.IsChain fun e e' => e'.openAppsBefore = e.openAppsAfter := by
  induction h with
  | nil s => exact ⟨nofun, .nil⟩
  | cons hbefore _ _ ih =>
    refine ⟨fun e he => ?_, isChain_cons.2 ⟨ih.1, ih.2⟩⟩
    cases he
    exact hbefore

end

section

variable (old current : Dict String (Finset ℕ)) (grace : ℤ)

/-- The loop over the current applications opens those that are new and have a name. -/
structure Opened (old : Dict String (Finset ℕ)) (apps : List String) (s s' : Loop) : Prop where
  reports : ∃ new, s'.events = s.events ++ new ∧ Reports s.rollingOpen new s'.rollingOpen ∧
    ∀ e ∈ new, e.eventType = .appOpen ∧ e.app ≠ ""
  rolling : ∀ a, a ∈ s'.rollingOpen ↔
    a ∈ s.rollingOpen ∨ a ∈ apps ∧ a ∉ keySet old ∧ a ≠ ""
  next : keySet s'.nextOpenSets = keySet s.nextOpenSets ∪ apps.toFinset
  missing : ∀ a, s'.missingCounts a = if a ∈ apps then 0 else s.missingCounts a

theorem openTurn_opened (s : Loop) (app : String) (hnew : app ∉ keySet old → app ∉ s.rollingOpen) :
    Opened old [app] s (openTurn old current s app) := by
  unfold openTurn
  dsimp only
  have hkey : (old.get? app).isNone = true ↔ app ∉ keySet old := by
    rw [mem_keySet, not_not, Option.isNone_iff_eq_none]
  split_ifs with hopens
  · rw [hkey] at hopens
    refine ⟨⟨_, rfl, .cons rfl ⟨?_, rfl⟩ (.nil _), ?_⟩, fun a => ?_, ?_, fun a => ?_⟩
    · exact (decide_eq_true (hnew hopens.1)).symm
    · simpa using hopens.2
    · rw [Finset.mem_insert, mem_singleton, or_comm]
      refine or_congr_right ⟨?_, And.left⟩
      rintro rfl
      exact ⟨rfl, hopens⟩
    · rw [keySet_set, Finset.insert_eq, Finset.union_comm]
      rfl
    · dsimp only
      rw [Function.update_apply]
      simp
  · rw [hkey] at hopens
    refine ⟨⟨[], (append_nil _).symm, .nil _,
      fun _ h => (not_mem_nil h).elim⟩, fun a => ?_, ?_, fun a => ?_⟩
    · refine ⟨.inl, fun h => h.resolve_right ?_⟩
      rintro ⟨happ, hfresh⟩
      rw [mem_singleton.1 happ] at hfresh
      exact hopens hfresh
    · rw [keySet_set, Finset.insert_eq, Finset.union_comm]
      rfl
    · dsimp only
      rw [Function.update_apply]
      simp

theorem openLoop_opened {apps : List String} (hnodup : apps.Nodup) {s : Loop}
    (hnew : ∀ a ∈ apps, a ∉ keySet old → a ∉ s.rollingOpen) :
    Opened old apps s (apps.foldl (openTurn old current) s) := by
  induction apps generalizing s with
  | nil =>
    refine ⟨⟨[], (append_nil _).symm, .nil _,
      fun _ h => (not_mem_nil h).elim⟩, fun a => ?_, ?_, fun a => ?_⟩
    · simp
    · simp
    · simp
  | cons app apps ih =>
    obtain ⟨hfresh, hnodup'⟩ := nodup_cons.1 hnodup
    have hfirst := openTurn_opened old current s app (hnew app (.head _))
    have hrest := ih hnodup' (s := openTurn old current s app) fun a ha hold => by
      rw [hfirst.rolling]
      rintro (hin | ⟨hsame, -⟩)
      · exact hnew a (.tail _ ha) hold hin
      · exact hfresh (mem_singleton.1 hsame ▸ ha)
    obtain ⟨new, hevents, hreports, hopens⟩ := hfirst.reports
    obtain ⟨new', hevents', hreports', hopens'⟩ := hrest.reports
    rw [foldl_cons]
    refine ⟨⟨new ++ new', ?_, hreports.append hreports', ?_⟩, fun a => ?_, ?_, fun a => ?_⟩
    · rw [hevents', hevents, append_assoc]
    · intro e he
      rcases mem_append.1 he with he | he
      · exact hopens e he
      · exact hopens' e he
    · rw [hrest.rolling, hfirst.rolling, mem_singleton, mem_cons]
      tauto
    · rw [hrest.next, hfirst.next]
      ext a
      simp only [Finset.mem_union, mem_toFinset, mem_cons, not_mem_nil, or_false]
      tauto
    · rw [hrest.missing, hfirst.missing]
      simp only [mem_cons, not_mem_nil, or_false]
      split_ifs <;> tauto

def Closes (grace : ℤ) (missing : String → ℕ) (app : String) : Prop :=
  app ≠ "" ∧ max 1 grace ≤ (missing app + 1 : ℕ)

/-- The loop over the missing applications closes those whose grace is over. -/
structure Closed (grace : ℤ) (apps : List String) (s s' : Loop) : Prop where
  reports : ∃ new, s'.events = s.events ++ new ∧ Reports s.rollingOpen new s'.rollingOpen ∧
    ∀ e ∈ new, e.eventType = .appClose ∧ e.app ∈ apps ∧ Closes grace s.missingCounts e.app
  rolling : ∀ a, a ∈ s'.rollingOpen ↔
    a ∈ s.rollingOpen ∧ ¬ (a ∈ apps ∧ Closes grace s.missingCounts a)
  next : ∀ a, a ∈ keySet s'.nextOpenSets ↔
    a ∈ keySet s.nextOpenSets ∧ ¬ (a ∈ apps ∧ Closes grace s.missingCounts a)
  missing : ∀ a, s'.missingCounts a =
    if a ∈ apps ∧ a ≠ "" then s.missingCounts a + 1 else s.missingCounts a

theorem closeTurn_closed (s : Loop) (app : String)
    (hopen : app ≠ "" → app ∈ s.rollingOpen ∧ app ∈ keySet s.nextOpenSets) :
    Closed grace [app] s (closeTurn old grace s app) := by
  unfold closeTurn
  dsimp only
  split_ifs with hblank hover
  · have hsame (a : String) : ¬ (a ∈ [app] ∧ Closes grace s.missingCounts a) := by
      rintro ⟨ha, hname, -⟩
      exact hname ((mem_singleton.1 ha).trans hblank)
    refine ⟨⟨[], (append_nil _).symm, .nil _,
      fun _ h => (not_mem_nil h).elim⟩, fun a => ?_, fun a => ?_, fun a => ?_⟩
    · simp only [hsame, not_false_eq_true, and_true]
    · simp only [hsame, not_false_eq_true, and_true]
    · simp [hblank]
  · have hcloses : Closes grace s.missingCounts app := ⟨hblank, hover⟩
    refine ⟨⟨_, rfl, .cons rfl ⟨?_, rfl⟩ (.nil _), ?_⟩, fun a => ?_, fun a => ?_, fun a => ?_⟩
    · exact (decide_eq_false (not_not.2 (hopen hblank).1)).symm
    · simpa using hcloses
    · rw [Finset.mem_erase, mem_singleton, and_comm]
      refine and_congr_right fun _ => not_congr ⟨?_, And.left⟩
      rintro rfl
      exact ⟨rfl, hcloses⟩
    · rw [mem_keySet_erase, mem_singleton, and_comm]
      refine and_congr_right fun _ => not_congr ⟨?_, And.left⟩
      rintro rfl
      exact ⟨rfl, hcloses⟩
    · dsimp only
      rw [Function.update_apply]
      by_cases ha : a = app
      · simp [ha, hblank]
      · simp [ha]
  · have hkeeps : ¬ Closes grace s.missingCounts app := fun hcloses => hover hcloses.2
    have hsame (a : String) : ¬ (a ∈ [app] ∧ Closes grace s.missingCounts a) := by
      rintro ⟨ha, hcloses⟩
      exact hkeeps (mem_singleton.1 ha ▸ hcloses)
    refine ⟨⟨[], (append_nil _).symm, .nil _,
      fun _ h => (not_mem_nil h).elim⟩, fun a => ?_, fun a => ?_, fun a => ?_⟩
    · simp only [hsame, not_false_eq_true, and_true]
    · simp only [hsame, not_false_eq_true, and_true]
      rw [keySet_set, Finset.insert_eq_of_mem (hopen hblank).2]
    · dsimp only
      rw [Function.update_apply]
      by_cases ha : a = app
      · simp [ha, hblank]
      · simp [ha]

theorem closeLoop_closed {apps : List String} (hnodup : apps.Nodup) {s : Loop}
    (hopen : ∀ a ∈ apps, a ≠ "" → a ∈ s.rollingOpen ∧ a ∈ keySet s.nextOpenSets) :
    Closed grace apps s (apps.foldl (closeTurn old grace) s) := by
  induction apps generalizing s with
  | nil =>
    refine ⟨⟨[], (append_nil _).symm, .nil _,
      fun _ h => (not_mem_nil h).elim⟩, fun a => ?_, fun a => ?_, fun a => ?_⟩
    · simp
    · simp
    · simp
  | cons app apps ih =>
    obtain ⟨hfresh, hnodup'⟩ := nodup_cons.1 hnodup
    have hfirst := closeTurn_closed old grace s app (hopen app (.head _))
    have hother {a : String} (ha : a ∈ apps) : a ∉ [app] := fun hsame =>
      hfresh (mem_singleton.1 hsame ▸ ha)
    have hrest := ih hnodup' (s := closeTurn old grace s app) fun a ha hname => by
      rw [hfirst.rolling, hfirst.next]
      exact ⟨⟨(hopen a (.tail _ ha) hname).1, fun h => hother ha h.1⟩,
        (hopen a (.tail _ ha) hname).2, fun h => hother ha h.1⟩
    have hcloses {a : String} (ha : a ∈ apps) :
        Closes grace (closeTurn old grace s app).missingCounts a ↔
          Closes grace s.missingCounts a := by
      unfold Closes
      rw [hfirst.missing, if_neg fun h => hother ha h.1]
    have hboth (a : String) : ¬ (a ∈ app :: apps ∧ Closes grace s.missingCounts a) ↔
        ¬ (a ∈ [app] ∧ Closes grace s.missingCounts a) ∧
          ¬ (a ∈ apps ∧ Closes grace (closeTurn old grace s app).missingCounts a) := by
      rw [← not_or, and_congr_right fun ha : a ∈ apps => hcloses ha, ← or_and_right,
        mem_cons, mem_singleton]
    obtain ⟨new, hevents, hreports, hends⟩ := hfirst.reports
    obtain ⟨new', hevents', hreports', hends'⟩ := hrest.reports
    rw [foldl_cons]
    refine ⟨⟨new ++ new', ?_, hreports.append hreports', ?_⟩, fun a => ?_, fun a => ?_,
      fun a => ?_⟩
    · rw [hevents', hevents, append_assoc]
    · intro e he
      rcases mem_append.1 he with he | he
      · obtain ⟨htype, happ, hover⟩ := hends e he
        exact ⟨htype, mem_singleton.1 happ ▸ .head _, hover⟩
      · obtain ⟨htype, happ, hover⟩ := hends' e he
        exact ⟨htype, .tail _ happ, (hcloses happ).1 hover⟩
    · rw [hrest.rolling, hfirst.rolling, hboth, and_assoc]
    · rw [hrest.next, hfirst.next, hboth, and_assoc]
    · rw [hrest.missing, hfirst.missing]
      simp only [mem_cons, not_mem_nil, or_false]
      by_cases ha : a = app
      · subst ha
        simp [hfresh]
      · simp [ha]

end

section

variable {b : LifecycleEventBuilder} {samples : List ProcessSample}

structure Step (b : LifecycleEventBuilder) (samples : List ProcessSample)
    (events : List LifecycleEvent) (b' : LifecycleEventBuilder) : Prop where
  active : b'.appLifecycleActive = true
  grace : b'.closeGraceWindows = b.closeGraceWindows
  reports : ∃ rolling, Reports (keySet b.appPidSets) events rolling ∧
    (∀ a, a ∈ keySet b'.appPidSets ↔ a ∈ rolling ∨ a = "" ∧ "" ∈ appsOf samples)
  named : ∀ e ∈ events, e.app ≠ ""
  closes : ∀ e ∈ events, e.eventType = .appClose →
    e.app ∉ appsOf samples ∧ Closes b.closeGraceWindows b.missingCounts e.app
  missing : ∀ a, b'.missingCounts a =
    if a ∈ appsOf samples then 0
    else if a ∈ keySet b.appPidSets ∧ a ≠ "" then b.missingCounts a + 1
    else b.missingCounts a

theorem buildAll_step (hactive : b.appLifecycleActive = true) (samples : List ProcessSample) :
    Step b samples (buildAll b samples).1.2 (buildAll b samples).2 := by
  have hopened := openLoop_opened b.appPidSets (currentByApp samples)
    (sortedKeys_nodup (currentByApp samples))
    (s := { nextOpenSets := b.appPidSets, rollingOpen := keySet b.appPidSets,
            missingCounts := b.missingCounts }) fun _ _ hfresh => hfresh
  have hcurrent (a : String) : a ∈ sortedKeys (currentByApp samples) ↔ a ∈ appsOf samples := by
    rw [mem_sortedKeys, keySet_currentByApp]
  have hmissing (a : String) : a ∈ sortedWithout b.appPidSets (currentByApp samples) ↔
      a ∈ keySet b.appPidSets ∧ a ∉ appsOf samples := by
    rw [mem_sortedWithout, keySet_currentByApp]
  unfold buildAll appLoops
  rw [if_pos hactive]
  dsimp only
  generalize hs : (sortedKeys (currentByApp samples)).foldl
    (openTurn b.appPidSets (currentByApp samples)) _ = s at hopened
  have hclosed := closeLoop_closed b.appPidSets b.closeGraceWindows
    (sortedWithout_nodup b.appPidSets (currentByApp samples)) (s := s) fun a ha hname => by
      obtain ⟨hold, -⟩ := (hmissing a).1 ha
      refine ⟨(hopened.rolling a).2 (.inl hold), ?_⟩
      rw [hopened.next]
      exact Finset.mem_union_left _ hold
  generalize (sortedWithout b.appPidSets (currentByApp samples)).foldl
    (closeTurn b.appPidSets b.closeGraceWindows) s = s' at hclosed
  obtain ⟨new, hevents, hreports, hopens⟩ := hopened.reports
  obtain ⟨new', hevents', hreports', hcloses⟩ := hclosed.reports
  have hall : s'.events = new ++ new' := hevents'.trans (congrArg (· ++ new') hevents)
  have hcount {a : String} (ha : a ∉ appsOf samples) : s.missingCounts a = b.missingCounts a := by
    rw [hopened.missing, if_neg fun h => ha ((hcurrent a).1 h)]
  refine ⟨hactive, rfl, ⟨s'.rollingOpen, ?_, fun a => ?_⟩, ?_, ?_, fun a => ?_⟩
  · rw [hall]
    exact hreports.append hreports'
  · rw [hclosed.next, hclosed.rolling, hopened.next, hopened.rolling, Finset.mem_union,
      mem_toFinset, hcurrent]
    by_cases hblank : a = ""
    · have hkept : ¬ Closes b.closeGraceWindows s.missingCounts a := fun h => h.1 hblank
      subst hblank
      tauto
    · tauto
  · intro e he
    rw [hall] at he
    rcases mem_append.1 he with he | he
    · exact (hopens e he).2
    · exact (hcloses e he).2.2.1
  · intro e he htype
    rw [hall] at he
    rcases mem_append.1 he with he | he
    · cases htype.symm.trans (hopens e he).1
    · obtain ⟨-, happ, hover⟩ := hcloses e he
      have habsent := ((hmissing e.app).1 happ).2
      unfold Closes at hover ⊢
      rw [hcount habsent] at hover
      exact ⟨habsent, hover⟩
  · dsimp only
    rw [hclosed.missing, hopened.missing]
    simp only [hmissing, hcurrent]
    by_cases ha : a ∈ appsOf samples
    · simp [ha]
    · simp [ha]

end

section

variable {d : Dict ℕ ProcessSample}

def ProcessEvent.toggle (e : ProcessEvent) : Toggle ℕ :=
  ⟨e.process.pid, decide (e.eventType = .start)⟩

def changes (events : List ProcessEvent) : List (Toggle ℕ) :=
  (events.filter fun e => e.eventType ≠ .baseline).map ProcessEvent.toggle

theorem changes_append (events later : List ProcessEvent) :
    changes (events ++ later) = changes events ++ changes later := by
  unfold changes
  rw [filter_append, map_append]

def Keyed (d : Dict ℕ ProcessSample) : Prop := ∀ pid process, d.get? pid = some process →
  process.pid = pid

theorem changes_baseline (d : Dict ℕ ProcessSample) (pids : List ℕ) :
    changes (processEvents .baseline d pids) = [] := by
  unfold changes processEvents
  rw [map_eq_nil_iff, filter_eq_nil_iff]
  intro e he
  obtain ⟨pid, -, hevent⟩ := mem_filterMap.1 he
  obtain ⟨process, -, rfl⟩ := Option.map_eq_some_iff.1 hevent
  simp

theorem changes_processEvents {eventType : ProcessEventType} (htype : eventType ≠ .baseline)
    (hkeyed : Keyed d) (pids : List ℕ) (hpids : ∀ pid ∈ pids, pid ∈ keySet d) :
    changes (processEvents eventType d pids) =
      pids.map fun pid => ⟨pid, decide (eventType = .start)⟩ := by
  induction pids with
  | nil => rfl
  | cons pid pids ih =>
    obtain ⟨process, hprocess⟩ :=
      Option.ne_none_iff_exists'.1 (mem_keySet.1 (hpids pid (.head _)))
    have hhead : processEvents eventType d (pid :: pids) =
        ⟨eventType, process⟩ :: processEvents eventType d pids := by
      unfold processEvents
      rw [filterMap_cons_some]
      rw [hprocess]
      rfl
    have hrest := ih fun pid' h => hpids pid' (.tail _ h)
    unfold changes at hrest ⊢
    rw [hhead, filter_cons_of_pos (by simpa using htype), map_cons, hrest,
      map_cons]
    congr 1
    unfold ProcessEvent.toggle
    rw [hkeyed pid process hprocess]

theorem currentMeta_keyed (samples : List ProcessSample) : Keyed (currentMeta samples) := by
  have hfold {d : Dict ℕ ProcessSample} (h : Keyed d) :
      Keyed (samples.foldl (fun d sample => d.set sample.pid sample) d) := by
    induction samples generalizing d with
    | nil => exact h
    | cons sample samples ih =>
      refine ih fun pid process hprocess => ?_
      rw [Dict.get?_set] at hprocess
      split_ifs at hprocess with hpid
      · cases hprocess
        exact hpid.symm
      · exact h pid process hprocess
  have hempty : Keyed (∅ : Dict ℕ ProcessSample) := by
    intro pid process h
    cases h
  exact hfold hempty

theorem allProcessEvents_chain {b : LifecycleEventBuilder} (hkeyed : Keyed b.pidMeta)
    (samples : List ProcessSample) :
    Chain (keySet b.pidMeta) (changes (allProcessEvents b (currentMeta samples)))
      (keySet (currentMeta samples)) := by
  have hbaseline : changes (if b.baselineEmitted = false ∧ b.pidMeta.items ≠ [] then
      processEvents .baseline b.pidMeta (sortedKeys b.pidMeta) else []) = [] := by
    split_ifs
    · exact changes_baseline _ _
    · rfl
  have hstarts : ProcessEventType.start ≠ .baseline := by decide
  have hexits : ProcessEventType.exit ≠ .baseline := by decide
  have hstart := changes_processEvents hstarts (currentMeta_keyed samples)
    (sortedWithout (currentMeta samples) b.pidMeta) fun pid h => (mem_sortedWithout.1 h).1
  have hexit := changes_processEvents hexits hkeyed
    (sortedWithout b.pidMeta (currentMeta samples)) fun pid h => (mem_sortedWithout.1 h).1
  have hadded := chain_added (s := keySet b.pidMeta)
    (sortedWithout_nodup (currentMeta samples) b.pidMeta) fun pid h => (mem_sortedWithout.1 h).2
  have hremoved := chain_removed
    (s := keySet b.pidMeta ∪ (sortedWithout (currentMeta samples) b.pidMeta).toFinset)
    (sortedWithout_nodup b.pidMeta (currentMeta samples)) fun pid h =>
      Finset.mem_union_left _ (mem_sortedWithout.1 h).1
  have hend : (keySet b.pidMeta ∪ (sortedWithout (currentMeta samples) b.pidMeta).toFinset) \
      (sortedWithout b.pidMeta (currentMeta samples)).toFinset = keySet (currentMeta samples) := by
    ext pid
    rw [Finset.mem_sdiff, Finset.mem_union, mem_toFinset, mem_toFinset,
      mem_sortedWithout, mem_sortedWithout]
    tauto
  unfold allProcessEvents
  rw [changes_append, changes_append, hbaseline, nil_append, hstart, hexit, ← hend]
  exact hadded.append hremoved

end

section

variable {grace : ℤ} {baseline samples : List ProcessSample} {history : List (List ProcessSample)}

def initial (grace : ℤ) : LifecycleEventBuilder := { closeGraceWindows := grace }

def built (grace : ℤ) (baseline : List ProcessSample) (history : List (List ProcessSample)) :
    LifecycleEventBuilder :=
  after buildAll (initial grace) (baseline :: history)

def lifecycleLog (grace : ℤ) (baseline : List ProcessSample)
    (history : List (List ProcessSample)) : List LifecycleEvent :=
  (outputs buildAll (initial grace) (baseline :: history)).flatMap Prod.snd

def processLog (grace : ℤ) (baseline : List ProcessSample)
    (history : List (List ProcessSample)) : List ProcessEvent :=
  (outputs buildAll (initial grace) (baseline :: history)).flatMap Prod.fst

def LackedFor (app : String) (count : ℕ) (history : List (List ProcessSample)) : Prop :=
  ∃ before absent, history = before ++ absent ∧ absent.length = count ∧
    ∀ samples ∈ absent, app ∉ appsOf samples

def BlankKnown (baseline : List ProcessSample) (history : List (List ProcessSample)) : Prop :=
  (∃ samples ∈ history, "" ∈ appsOf samples) → "" ∈ appsOf baseline

structure Recorded (grace : ℤ) (baseline : List ProcessSample)
    (history : List (List ProcessSample)) (b : LifecycleEventBuilder) : Prop where
  active : b.appLifecycleActive = true
  waits : b.closeGraceWindows = grace
  keyed : Keyed b.pidMeta
  processes : Chain ∅ (changes (processLog grace baseline history)) (keySet b.pidMeta)
  apps : Chain ((appsOf baseline).erase "")
    ((lifecycleLog grace baseline history).map LifecycleEvent.toggle) ((keySet b.appPidSets).erase "")
  moves : ∀ e ∈ lifecycleLog grace baseline history, Moves e
  named : ∀ e ∈ lifecycleLog grace baseline history, e.app ≠ ""
  missing : ∀ a, LackedFor a (b.missingCounts a) (baseline :: history)
  blank : "" ∈ appsOf baseline → "" ∈ keySet b.appPidSets
  reports : BlankKnown baseline history →
    Reports (appsOf baseline) (lifecycleLog grace baseline history) (keySet b.appPidSets)

theorem recorded_baseline (grace : ℤ) (baseline : List ProcessSample) :
    Recorded grace baseline [] (built grace baseline []) := by
  have hkeyed : Keyed (initial grace).pidMeta := nofun
  have hprocesses := allProcessEvents_chain hkeyed baseline
  have hkeys : keySet (built grace baseline []).appPidSets = appsOf baseline :=
    keySet_currentByApp baseline
  refine ⟨rfl, rfl, currentMeta_keyed baseline, ?_, ?_, nofun, nofun, fun a => ?_,
    fun hblank => ?_, fun _ => ?_⟩
  · have hlog : processLog grace baseline [] =
        allProcessEvents (initial grace) (currentMeta baseline) := append_nil _
    exact hlog ▸ hprocesses
  · rw [hkeys]
    exact .nil _
  · exact ⟨[baseline], [], rfl, rfl, nofun⟩
  · rw [hkeys]
    exact hblank
  · rw [hkeys]
    exact .nil _

theorem LackedFor.step {a : String} {count : ℕ} {history : List (List ProcessSample)}
    (h : LackedFor a count history) (habsent : a ∉ appsOf samples) :
    LackedFor a (count + 1) (history ++ [samples]) := by
  obtain ⟨before, absent, rfl, hlength, hlacks⟩ := h
  refine ⟨before, absent ++ [samples], append_assoc _ _ _, by simp [hlength], ?_⟩
  intro x hx
  rcases mem_append.1 hx with hx | hx
  · exact hlacks x hx
  · rw [mem_singleton.1 hx]
    exact habsent

theorem LackedFor.mono {a : String} {count count' : ℕ} {history : List (List ProcessSample)}
    (h : LackedFor a count history) (hle : count' ≤ count) : LackedFor a count' history := by
  obtain ⟨before, absent, rfl, rfl, hlacks⟩ := h
  refine ⟨before ++ absent.take (absent.length - count'), absent.drop (absent.length - count'),
    ?_, ?_, fun x hx => hlacks x (mem_of_mem_drop hx)⟩
  · rw [append_assoc, take_append_drop]
  · rw [length_drop]
    omega

theorem Recorded.step {b : LifecycleEventBuilder} (h : Recorded grace baseline history b)
    (hb : b = built grace baseline history) (samples : List ProcessSample) :
    Recorded grace baseline (history ++ [samples]) (buildAll b samples).2 := by
  have hprocesses := allProcessEvents_chain h.keyed samples
  have hstep := buildAll_step h.active samples
  obtain ⟨rolling, hreports, hkeys⟩ := hstep.reports
  have hlog : lifecycleLog grace baseline (history ++ [samples]) =
      lifecycleLog grace baseline history ++ (buildAll b samples).1.2 := by
    unfold lifecycleLog
    rw [← cons_append, outputs_concat, flatMap_append, hb]
    exact congrArg (_ ++ ·) (append_nil _)
  have hprocessLog : processLog grace baseline (history ++ [samples]) =
      processLog grace baseline history ++ (buildAll b samples).1.1 := by
    unfold processLog
    rw [← cons_append, outputs_concat, flatMap_append, hb]
    exact congrArg (_ ++ ·) (append_nil _)
  have hmeta : (buildAll b samples).1.1 = allProcessEvents b (currentMeta samples) ∧
      (buildAll b samples).2.pidMeta = currentMeta samples := by
    unfold buildAll
    rw [if_pos h.active]
    exact ⟨rfl, rfl⟩
  have hnamed : ∀ e ∈ (buildAll b samples).1.2.map LifecycleEvent.toggle, e.key ≠ "" := by
    intro e he
    obtain ⟨event, hevent, rfl⟩ := mem_map.1 he
    exact hstep.named event hevent
  refine ⟨hstep.active, hstep.grace.trans h.waits, ?_, ?_, ?_, ?_, ?_, fun a => ?_,
    fun hblank => ?_, fun hknown => ?_⟩
  · rw [hmeta.2]
    exact currentMeta_keyed samples
  · rw [hprocessLog, changes_append, hmeta.1, hmeta.2]
    exact h.processes.append hprocesses
  · have hset : (keySet (buildAll b samples).2.appPidSets).erase "" = rolling.erase "" := by
      ext a
      rw [Finset.mem_erase, Finset.mem_erase, hkeys]
      tauto
    rw [hlog, map_append, hset]
    exact h.apps.append (hreports.chain.erase hnamed)
  · rw [hlog]
    intro e he
    rcases mem_append.1 he with he | he
    · exact h.moves e he
    · exact hreports.moves e he
  · rw [hlog]
    intro e he
    rcases mem_append.1 he with he | he
    · exact h.named e he
    · exact hstep.named e he
  · rw [hstep.missing]
    split_ifs with hpresent hopen
    · exact ⟨_, [], (append_nil _).symm, rfl, nofun⟩
    · exact (h.missing a).step hpresent
    · exact ((h.missing a).step hpresent).mono (Nat.le_succ _)
  · exact (hkeys "").2 (.inl ((hreports.chain.mem_iff hnamed).1 (h.blank hblank)))
  · have hbefore : BlankKnown baseline history := fun ⟨x, hx, hblank⟩ =>
      hknown ⟨x, mem_append_left _ hx, hblank⟩
    have hset : keySet (buildAll b samples).2.appPidSets = rolling := by
      ext a
      rw [hkeys]
      refine ⟨fun hmem => hmem.elim id ?_, .inl⟩
      rintro ⟨rfl, hblank⟩
      have hbase := hknown ⟨samples, mem_append_right _ (.head _), hblank⟩
      exact (hreports.chain.mem_iff hnamed).1 (h.blank hbase)
    rw [hlog, hset]
    exact (h.reports hbefore).append hreports

theorem recorded (grace : ℤ) (baseline : List ProcessSample) (history : List (List ProcessSample)) :
    Recorded grace baseline history (built grace baseline history) := by
  induction history using List.reverseRecOn with
  | nil => exact recorded_baseline grace baseline
  | append_singleton history samples ih =>
    have hstep := ih.step rfl samples
    have hbuilt : (buildAll (built grace baseline history) samples).2 =
        built grace baseline (history ++ [samples]) := by
      unfold built
      rw [← cons_append, after_concat]
    rw [← hbuilt]
    exact hstep

/-- Over every history the openings and closings of an application alternate, as do the starts and
exits of a process, and a closing ends a grace without the application. The reported sets follow
each other when no process of no application appears after the baseline. -/
theorem lifecycle_alternates (grace : ℤ) (baseline : List ProcessSample)
    (history : List (List ProcessSample)) :
    (∀ app, Alternates (decide (∀ process ∈ baseline, process.app ≠ app))
      (((lifecycleLog grace baseline history).filter fun e => e.app = app).map fun e =>
        decide (e.eventType = .appOpen))) ∧
      (∀ e ∈ lifecycleLog grace baseline history,
        (e.eventType = .appOpen ∧ e.app ∉ e.openAppsBefore ∧
          e.openAppsAfter = insert e.app e.openAppsBefore) ∨
        (e.eventType = .appClose ∧ e.app ∈ e.openAppsBefore ∧
          e.openAppsAfter = e.openAppsBefore.erase e.app)) ∧
      (((∃ samples ∈ history, ∃ process ∈ samples, process.app = "") →
          ∃ process ∈ baseline, process.app = "") →
        (lifecycleLog grace baseline history).IsChain fun e e' =>
          e'.openAppsBefore = e.openAppsAfter) ∧
      (∀ earlier samples later, history = earlier ++ samples :: later →
        ∀ e ∈ (buildAll (built grace baseline earlier) samples).1.2, e.eventType = .appClose →
          ∃ before absent, baseline :: (earlier ++ [samples]) = before ++ absent ∧
            max 1 grace ≤ absent.length ∧
            ∀ lacking ∈ absent, ∀ process ∈ lacking, process.app ≠ e.app) ∧
      ∀ pid, Alternates true (((processLog grace baseline history).filter fun e =>
        e.eventType ≠ .baseline ∧ e.process.pid = pid).map fun e =>
          decide (e.eventType = .start)) := by
  have hrecord := recorded grace baseline history
  have hmoves := hrecord.moves
  refine ⟨fun app => ?_, fun e he => ?_, fun hknown => ?_, ?_, fun pid => ?_⟩
  · by_cases hblank : app = ""
    · have hnone : (lifecycleLog grace baseline history).filter (fun e => e.app = app) = [] := by
        rw [filter_eq_nil_iff]
        intro e he
        rw [hblank]
        simpa using hrecord.named e he
      rw [hnone]
      trivial
    · have halternates := hrecord.apps.alternates app
      have hfirst : decide (app ∉ (appsOf baseline).erase "") =
          decide (∀ process ∈ baseline, process.app ≠ app) := by
        simp [mem_appsOf, hblank]
      rw [hfirst, filter_map, map_map] at halternates
      exact halternates
  · obtain ⟨hchanges, hafter⟩ := hmoves e he
    unfold LifecycleEvent.toggle at hchanges hafter
    unfold Toggle.apply at hafter
    cases htype : e.eventType with
    | appOpen =>
      rw [htype] at hchanges hafter
      exact .inl ⟨rfl, of_decide_eq_true hchanges.symm, hafter⟩
    | appClose =>
      rw [htype] at hchanges hafter
      exact .inr ⟨rfl, not_not.1 (of_decide_eq_false hchanges.symm), hafter⟩
  · refine (hrecord.reports ?_).linked.2
    rintro ⟨samples, hsamples, hblank⟩
    exact mem_appsOf.2 (hknown ⟨samples, hsamples, mem_appsOf.1 hblank⟩)
  · rintro earlier samples later rfl e he htype
    have hbefore := recorded grace baseline earlier
    obtain ⟨habsent, -, hover⟩ := (buildAll_step hbefore.active samples).closes e he htype
    obtain ⟨before, absent, hsplit, hlength, hlacks⟩ := (hbefore.missing e.app).step habsent
    refine ⟨before, absent, hsplit, ?_, fun lacking hlacking process hprocess happ => ?_⟩
    · rw [hbefore.waits] at hover
      rw [hlength]
      exact hover
    · exact hlacks lacking hlacking (mem_appsOf.2 ⟨process, hprocess, happ⟩)
  · have halternates := hrecord.processes.alternates pid
    unfold changes at halternates
    rw [filter_map, map_map, filter_filter] at halternates
    have hfilter : (processLog grace baseline history).filter
        (fun e => decide (e.eventType ≠ .baseline ∧ e.process.pid = pid)) =
        (processLog grace baseline history).filter fun e =>
          ((fun toggle : Toggle ℕ => decide (toggle.key = pid)) ∘ ProcessEvent.toggle) e &&
            decide (e.eventType ≠ .baseline) :=
      filter_congr fun e _ => by
        rw [Bool.decide_and, Bool.and_comm]
        rfl
    rw [hfilter]
    exact halternates

/-- A process of no application makes `""` an open application. -/
theorem blank_breaks_link :
    ¬ (lifecycleLog 5 [] [[⟨"A", 1, 1, "", "", "", "", false⟩], [⟨"", 2, 2, "", "", "", "", false⟩],
      [⟨"B", 3, 3, "", "", "", "", false⟩]]).IsChain fun e e' =>
        e'.openAppsBefore = e.openAppsAfter := by
  decide +kernel

end

end Parp.Lifecycle
