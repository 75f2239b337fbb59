import Parp.DesktopStream
import Mathlib.Data.List.Chain

set_option autoImplicit false

namespace Parp.DesktopEvents

open OrderedDict TransitionRuns List

inductive Mark
  | opens
  | closes
  deriving DecidableEq

def mark (app : String) : Entry → Option Mark
  | .baselineApp a => if a = app then some .opens else none
  | .row r =>
    if r.app ≠ app then none
    else if r.eventType = .appOpen then some .opens
    else if r.eventType = .appClose then some .closes
    else none
  | _ => none

def rowMark (app : String) : Entry → Option Mark
  | .row r => mark app (.row r)
  | _ => none

def foregroundMark : Entry → Option String
  | .baselineForeground app => some app
  | .foregroundCleared => some "UNKNOWN"
  | .row r => if r.eventType = .appSwitch then some r.newApp else none
  | _ => none

def marks (app : String) (es : List Entry) : List Mark := es.filterMap (mark app)

def Repeats (t : StreamState) (app : String) : Mark → Prop
  | .opens => app ∈ t.announced
  | .closes => app ∉ t.announced

variable {app : String} {t : StreamState} {e : Entry} {raw : Raw}

theorem mark_row_other {r : Row} (h : r.app ≠ app) : mark app (.row r) = none :=
  if_pos h

theorem mark_row_self (r : Row) :
    mark r.app (.row r) =
      if r.eventType = .appOpen then some .opens
      else if r.eventType = .appClose then some .closes
      else none := if_neg fun h => h rfl

theorem repeats_observe {m m' : Mark} (h : mark app e = some m) :
    Repeats (observe t e).2 app m' ↔ m' = m := by
  cases e with
  | baselineApp a =>
    by_cases ha : a = app
    · simp only [mark, if_pos ha, Option.some.injEq] at h
      subst h ha
      cases m' <;> simp [Repeats, observe]
    · simp [mark, if_neg ha] at h
  | row r =>
    by_cases happ : r.app = app
    · subst happ
      rw [mark_row_self] at h
      by_cases hopen : r.eventType = .appOpen
      · rw [if_pos hopen, Option.some.injEq] at h
        subst h
        cases m' <;> simp [Repeats, observe, hopen]
      · rw [if_neg hopen] at h
        by_cases hclose : r.eventType = .appClose
        · rw [if_pos hclose, Option.some.injEq] at h
          subst h
          cases m' <;> simp [Repeats, observe, hclose]
        · rw [if_neg hclose] at h
          cases h
    · rw [mark_row_other happ] at h
      cases h
  | baselineForeground => cases h
  | foregroundCleared => cases h

theorem announced_observe_none (h : mark app e = none) :
    app ∈ (observe t e).2.announced ↔ app ∈ t.announced := by
  cases e with
  | baselineApp a =>
    have ha : a ≠ app := by
      rintro rfl
      simp [mark] at h
    simp [observe, ha.symm]
  | row r =>
    by_cases happ : r.app = app
    · subst happ
      rw [mark_row_self] at h
      have hopen : r.eventType ≠ .appOpen := by
        intro hopen
        simp [hopen] at h
      have hclose : r.eventType ≠ .appClose := by
        intro hclose
        simp [hclose] at h
      simp only [observe, if_neg hopen, if_neg hclose]
      split_ifs <;> rfl
    · simp only [observe]
      split_ifs
      · simp [Ne.symm happ]
      · simp [Ne.symm happ]
      · rfl
      · rfl
  | baselineForeground => rfl
  | foregroundCleared => rfl

theorem repeats_observe_none {m : Mark} (h : mark app e = none) :
    Repeats (observe t e).2 app m ↔ Repeats t app m := by
  cases m with
  | opens => exact announced_observe_none h
  | closes => exact not_congr (announced_observe_none h)

theorem marks_chain {P : Mark → Prop} (t : StreamState) (es : List Entry)
    (h : Along observe (fun t e => ∀ m, P m → mark app e = some m → ¬ Repeats t app m) t es) :
    (marks app es).IsChain (fun a b => P b → a ≠ b) ∧
      ∀ m, P m → (marks app es).head? = some m → ¬ Repeats t app m := by
  induction es generalizing t with
  | nil => exact ⟨.nil, fun m _ h => by cases h⟩
  | cons e es ih =>
    obtain ⟨he, hes⟩ := h
    obtain ⟨hchain, hhead⟩ := ih _ hes
    cases hmark : mark app e with
    | none =>
      simp only [repeats_observe_none hmark] at hhead
      rw [marks, filterMap_cons_none hmark]
      exact ⟨hchain, hhead⟩
    | some m' =>
      simp only [repeats_observe hmark] at hhead
      rw [marks, filterMap_cons_some hmark]
      refine ⟨isChain_cons.2 ⟨?_, hchain⟩, ?_⟩
      · intro b hb hP hsame
        exact hhead b hP hb hsame.symm
      · intro m hP hm
        have hmm : m' = m := Option.some.inj hm
        exact he m hP (hmm ▸ hmark)

theorem freshOpen_mark (h : FreshOpen t e) (hmark : mark app e = some .opens) :
    app ∉ t.announced := by
  cases e with
  | baselineApp a =>
    by_cases ha : a = app
    · exact ha ▸ h.2
    · simp [mark, if_neg ha] at hmark
  | row r =>
    by_cases happ : r.app = app
    · subst happ
      rw [mark_row_self] at hmark
      by_cases hopen : r.eventType = .appOpen
      · exact (h hopen).2
      · rw [if_neg hopen] at hmark
        split_ifs at hmark
        cases hmark
    · rw [mark_row_other happ] at hmark
      cases hmark
  | baselineForeground => cases hmark
  | foregroundCleared => cases hmark

theorem mark_closes (h : mark app e = some .closes) :
    ∃ r, e = .row r ∧ r.eventType = .appClose ∧ r.app = app := by
  cases e with
  | baselineApp a =>
    simp only [mark] at h
    split_ifs at h
    cases h
  | row r =>
    by_cases happ : r.app = app
    · subst happ
      rw [mark_row_self] at h
      refine ⟨r, rfl, ?_, rfl⟩
      by_contra hclose
      rw [if_neg hclose] at h
      split_ifs at h
      cases h
    · rw [mark_row_other happ] at h
      cases h
  | baselineForeground => cases h
  | foregroundCleared => cases h

theorem foreground_observe (t : StreamState) (e : Entry) :
    (observe t e).2.foreground = (foregroundMark e).or t.foreground := by
  cases e with
  | row r => cases hkind : r.eventType <;> simp [observe, foregroundMark, hkind]
  | _ => rfl

theorem closed_observe (app : String) (t : StreamState) (e : Entry) :
    some (decide (app ∈ (observe t e).2.closed)) =
      ((rowMark app e).map fun m => decide (m = .closes)).or (some (decide (app ∈ t.closed))) := by
  cases e with
  | row r =>
    by_cases happ : r.app = app
    · subst happ
      rw [rowMark, mark_row_self]
      cases hkind : r.eventType <;> simp [observe, hkind]
    · rw [rowMark, mark_row_other happ]
      have hne : app ≠ r.app := Ne.symm happ
      cases hkind : r.eventType <;> simp [observe, hkind, hne]
  | _ => rfl

def closingApp (s : X11EventState) (raw : Raw) : Option String :=
  match raw.eventType with
  | .cgroupAppEmpty => some raw.app
  | .gnomeWindowClosed => some ((s.windows.get? raw.windowId).getD (gnomeWindow raw)).app
  | .windowDestroyed => (s.windows.get? raw.windowId).map TrackedWindow.app
  | _ => none

def ClosesAnnounced (app : String) (s : X11EventState) (raw : Raw) : Prop :=
  closingApp s raw = some app → IsKnownApp app →
    app ∈ s.announcedApps ∨ raw.eventType = .cgroupAppEmpty ∧ app ∈ s.closedApps

def Tracks (s : X11EventState) (app : String) : Prop := ∃ e ∈ s.windows.items, e.2.app = app

def Closing (rows : List Row) (app : String) : Prop :=
  ∃ r ∈ rows, r.eventType = .appClose ∧ r.app = app

theorem mem_openApps {s : X11EventState} : app ∈ openApps s ↔ IsKnownApp app ∧ Tracks s app := by
  unfold openApps sortedApps Tracks Dict.values
  rw [mem_mergeSort, mem_dedup, mem_filter, mem_map]
  constructor
  · rintro ⟨hmem, hknown⟩
    obtain ⟨w, hw, rfl⟩ := hmem
    obtain ⟨e, he, rfl⟩ := mem_map.1 hw
    exact ⟨by simpa using hknown, e, he, rfl⟩
  · rintro ⟨hknown, e, he, rfl⟩
    exact ⟨⟨e.2, mem_map_of_mem he, rfl⟩, by simpa using hknown⟩

def NoClose (rows : List Row) : Prop := ∀ r ∈ rows, r.eventType ≠ .appClose

theorem NoClose.nil : NoClose [] := by simp [NoClose]

theorem NoClose.append {rows rows' : List Row} (h : NoClose rows) (h' : NoClose rows') :
    NoClose (rows ++ rows') := fun r hr => (mem_append.1 hr).elim (h r) (h' r)

/-- A close comes alone: which application it is of, and what is left of it. -/
inductive CloseCase (s : X11EventState) (raw : Raw) : List Row × X11EventState → Prop
  | quiet {result : List Row × X11EventState} (h : NoClose result.1) : CloseCase s raw result
  | closed {r : Row} {s' : X11EventState} (hkind : r.eventType = .appClose)
      (hclosing : r.app ∈ closingApp s raw) (hknown : IsKnownApp r.app)
      (hcgroup : raw.eventType = .cgroupAppEmpty → r.app ∉ s.closedApps)
      (huntracked : ¬ Tracks s' r.app) : CloseCase s raw ([r], s')

variable (s : X11EventState) (windowId : String) (current : Option TrackedWindow)

theorem announce_keeps :
    NoClose (announce s windowId current).1 := by
  unfold announce
  cases current with
  | none => exact .nil
  | some window =>
    dsimp only
    split_ifs
    · simp [NoClose, lifecycle, base]
    · exact .nil

theorem foreground_keeps {p : Prop} [Decidable p] (s : X11EventState) {kind : EventType}
    (hkind : kind ≠ .appClose) (app windowId : String) (window : TrackedWindow)
    (oldApp newApp : String) :
    NoClose (if p then [foreground s kind app windowId window oldApp newApp] else []) := by
  split_ifs
  · simpa [NoClose, foreground, base] using hkind
  · exact .nil

theorem focusChanged_keeps : NoClose (focusChanged s windowId current).1 := by
  unfold focusChanged
  dsimp only
  generalize hnext : ({ s with
    foregroundWindowId := windowId
    foregroundApp := currentAppOf current
    foregroundPid := (current.getD ⟨currentAppOf current, 0, "", false⟩).pid
    foregroundTitle := (current.getD ⟨currentAppOf current, 0, "", false⟩).title } :
      X11EventState) = next
  have hopened := announce_keeps next windowId current
  by_cases hstart : (announce next windowId current).2.foregroundInitialized = false
  · rw [if_pos hstart]
    exact hopened
  · rw [if_neg hstart]
    by_cases hsame : s.foregroundApp = currentAppOf current
    · rw [if_pos hsame]
      exact hopened
    · rw [if_neg hsame]
      refine (hopened.append (foreground_keeps _ (by decide) _ _ _ _ _)).append ?_
      simp [NoClose, foreground, base]

theorem refreshForegroundMapping_keeps (current : TrackedWindow) (answer : Option WindowState) :
    NoClose (refreshForegroundMapping s windowId current answer).1 := by
  unfold refreshForegroundMapping
  split_ifs
  · exact .nil
  · exact .nil
  · exact focusChanged_keeps _ _ _

theorem handleWindowChange_keeps (raw : Raw) :
    NoClose (handleWindowChange s raw).1 := by
  unfold handleWindowChange
  dsimp only
  generalize remember s raw.windowId raw.resolved = remembered
  obtain ⟨current, next⟩ := remembered
  have hopened := announce_keeps next raw.windowId current
  generalize announce next raw.windowId current = announced at *
  obtain ⟨opened, s'⟩ := announced
  dsimp only at hopened ⊢
  cases current with
  | none => exact hopened
  | some window =>
    cases s.windows.get? raw.windowId with
    | none => exact hopened
    | some previous =>
      dsimp only
      by_cases hproperty : raw.eventType = .windowProperty
      · rw [if_pos hproperty]
        refine ((hopened.append (foreground_keeps s' (by decide) _ _ _ _ _)).append
          (foreground_keeps s' ?_ _ _ _ _ _)).append (refreshForegroundMapping_keeps _ _ _ _)
        cases window.hidden <;> decide
      · rw [if_neg hproperty]
        exact hopened.append (foreground_keeps s' (by decide) _ _ _ _ _)

theorem closeWindow_windows (previous : TrackedWindow) :
    (closeWindow s windowId previous).2.windows = s.windows.erase windowId := by
  unfold closeWindow
  dsimp only
  split_ifs <;> rfl

theorem closeWindow_close {s : X11EventState} {previous : TrackedWindow}
    (hkind : raw.eventType ≠ .cgroupAppEmpty) (hclosing : previous.app ∈ closingApp s raw) :
    CloseCase s raw (closeWindow s raw.windowId previous) := by
  unfold closeWindow
  dsimp only
  by_cases h : ¬ IsKnownApp previous.app ∨
      previous.app ∈ openApps { s with windows := s.windows.erase raw.windowId }
  · rw [if_pos h]
    exact .quiet .nil
  · rw [if_neg h]
    obtain ⟨hknown, hgone⟩ := not_or.1 h
    have hknown := not_not.1 hknown
    exact .closed rfl hclosing hknown (fun hcgroup => absurd hcgroup hkind)
      fun htracks => hgone (mem_openApps.2 ⟨hknown, htracks⟩)

theorem closeFromCgroup_close {s : X11EventState} (hkind : raw.eventType = .cgroupAppEmpty) :
    CloseCase s raw (closeFromCgroup s raw.app) := by
  have hcases := closeFromCgroup_cases s raw.app
  generalize closeFromCgroup s raw.app = result at *
  cases hcases with
  | ignored => exact .quiet .nil
  | closed hknown hopen hs hrow happ =>
    refine .closed hrow ?_ (happ ▸ hknown) (fun _ => happ ▸ hopen) ?_
    · rw [happ, closingApp, hkind]
      rfl
    · rintro ⟨e, he, heq⟩
      rw [hs.windows, Dict.mem_filter] at he
      exact (of_decide_eq_true he.2) (heq.trans happ)

theorem handleGnomeEvent_close (raw : Raw) :
    CloseCase s raw (handleGnomeEvent s raw) := by
  unfold handleGnomeEvent
  cases hkind : raw.eventType with
  | gnomeWindowOpened => exact .quiet (announce_keeps _ _ _)
  | gnomeWindowMinimized =>
    dsimp only
    split_ifs
    · exact .quiet (by simp [NoClose, foreground, base])
    · exact .quiet .nil
  | gnomeWindowClosed => exact closeWindow_close (by simp [hkind]) (by simp [closingApp, hkind])
  | gnomeWindowSwitched => exact .quiet (focusChanged_keeps _ _ _)
  | _ => exact .quiet .nil

theorem handle_close (raw : Raw) : CloseCase s raw (handle s raw) := by
  unfold handle
  cases hkind : raw.eventType with
  | collectorError => exact .quiet (by simp [NoClose])
  | windowInitial =>
    dsimp only
    cases (remember s raw.windowId raw.resolved).1 with
    | none => exact .quiet .nil
    | some window =>
      dsimp only
      split_ifs <;> exact .quiet .nil
  | cgroupAppEmpty => exact closeFromCgroup_close hkind
  | gnomeWindowOpened | gnomeWindowMinimized | gnomeWindowClosed | gnomeWindowSwitched =>
    exact handleGnomeEvent_close s raw
  | windowCreated | windowMapped | windowProperty => exact .quiet (handleWindowChange_keeps s raw)
  | windowUnmapped =>
    dsimp only
    cases (remember s raw.windowId raw.resolved).1 with
    | none => exact .quiet .nil
    | some window =>
      dsimp only
      split_ifs
      · exact .quiet (by simp [NoClose, foreground, base])
      · exact .quiet .nil
  | windowDestroyed =>
    dsimp only
    cases hprevious : s.windows.get? raw.windowId with
    | none => exact .quiet .nil
    | some previous =>
      exact closeWindow_close (by simp [hkind]) (by simp [closingApp, hkind, hprevious])
  | focusChanged | focusRecheck => exact .quiet (focusChanged_keeps _ _ _)
  | unhandled => exact .quiet .nil

theorem closeWindow_last {s : X11EventState} {windowId app : String} {previous : TrackedWindow}
    (hprevious : ∀ window ∈ s.windows.get? windowId, previous = window) (hknown : IsKnownApp app)
    (hbefore : Tracks s app) (hafter : ¬ Tracks (closeWindow s windowId previous).2 app) :
    Closing (closeWindow s windowId previous).1 app := by
  unfold Tracks at hafter
  rw [closeWindow_windows] at hafter
  obtain ⟨⟨k, window⟩, hmem, rfl⟩ := hbefore
  have hkey : k = windowId := by
    by_contra hother
    exact hafter ⟨(k, window), Dict.mem_erase.2 ⟨hmem, hother⟩, rfl⟩
  subst hkey
  have happ : previous = window := hprevious window (Dict.get?_of_mem hmem)
  subst happ
  have hgone : previous.app ∉ openApps { s with windows := s.windows.erase k } :=
    fun hmem => hafter (mem_openApps.1 hmem).2
  unfold closeWindow
  rw [if_neg (not_or.2 ⟨not_not.2 hknown, hgone⟩)]
  exact ⟨_, mem_singleton_self _, rfl, rfl⟩

theorem closeFromCgroup_last {s : X11EventState} {app app' : String} (hbefore : Tracks s app')
    (hafter : ¬ Tracks (closeFromCgroup s app).2 app') : Closing (closeFromCgroup s app).1 app' := by
  have hcases := closeFromCgroup_cases s app
  generalize closeFromCgroup s app = result at *
  cases hcases with
  | ignored => exact absurd hbefore hafter
  | closed hknown hopen hs hkind happ =>
    obtain ⟨e, he, heq⟩ := hbefore
    refine ⟨_, mem_singleton_self _, hkind, happ.trans ?_⟩
    by_contra hother
    refine hafter ⟨e, ?_, heq⟩
    rw [hs.windows, Dict.mem_filter]
    exact ⟨he, decide_eq_true fun h => hother (h.symm.trans heq)⟩

def ReportsClose : Kind → Prop
  | .windowDestroyed | .gnomeWindowClosed | .cgroupAppEmpty => True
  | _ => False

theorem handle_last {s : X11EventState} (hkind : ReportsClose raw.eventType)
    (hknown : IsKnownApp app) (hbefore : Tracks s app) (hafter : ¬ Tracks (handle s raw).2 app) :
    Closing (handle s raw).1 app := by
  unfold handle at hafter ⊢
  cases htype : raw.eventType with
  | windowDestroyed =>
    simp only [htype] at hafter ⊢
    cases hprevious : s.windows.get? raw.windowId with
    | none =>
      simp only [hprevious] at hafter
      exact absurd hbefore hafter
    | some previous =>
      simp only [hprevious] at hafter
      refine closeWindow_last ?_ hknown hbefore hafter
      rw [hprevious]
      rintro window ⟨⟩
      rfl
  | gnomeWindowClosed =>
    simp only [htype, handleGnomeEvent] at hafter ⊢
    refine closeWindow_last ?_ hknown hbefore hafter
    intro window hwindow
    rw [Option.mem_def.1 hwindow]
    rfl
  | cgroupAppEmpty =>
    simp only [htype] at hafter ⊢
    exact closeFromCgroup_last hbefore hafter
  | _ =>
    rw [htype] at hkind
    cases hkind

theorem known_observe (ht : ∀ app ∈ t.announced, IsKnownApp app) (h : FreshOpen t e) :
    ∀ app ∈ (observe t e).2.announced, IsKnownApp app := by
  cases e with
  | baselineApp a =>
    intro app happ
    rcases Finset.mem_insert.1 happ with rfl | hold
    · exact h.1
    · exact ht app hold
  | row r =>
    intro app happ
    simp only [observe] at happ
    split_ifs at happ with hopen hclose hswitch
    · rcases Finset.mem_insert.1 happ with rfl | hold
      · exact (h hopen).1
      · exact ht app hold
    · exact ht app (Finset.mem_of_mem_erase happ)
    · exact ht app happ
    · exact ht app happ
  | baselineForeground => exact ht
  | foregroundCleared => exact ht

theorem announced_known (raws : List Raw) :
    ∀ app ∈ (after handle {} raws).announcedApps, IsKnownApp app := by
  have hheard := stream_hears raws
  have hknown := after_invariant_along (fun t e ht h => known_observe ht (And.left h))
    (by simp) (stream raws) hheard.lawful
  rw [hheard.view] at hknown
  exact hknown

theorem not_mem_silent (raw : Raw) (r : Row) : .row r ∉ silent s raw := by
  unfold silent
  split
  · split
    · simp
    · split_ifs <;> simp
  · unfold cleared
    split_ifs <;> simp
  · unfold baseline
    split_ifs <;> simp

theorem entries_closes {s : X11EventState} (h : ClosesAnnounced app s raw) :
    Along observe (fun t e => mark app e = some .closes → app ∈ t.announced) (viewOf s)
      (entries s raw) := by
  have hcase := handle_close s raw
  have hsilent (t : StreamState) : Along observe
      (fun t e => mark app e = some .closes → app ∈ t.announced) t (silent s raw) := by
    apply along_mono observe (fun _ _ h hmark => absurd hmark h)
    apply along_of_forall (P := fun e => mark app e ≠ some .closes)
    intro e he hmark
    obtain ⟨r, rfl, -⟩ := mark_closes hmark
    exact not_mem_silent s raw r he
  unfold entries
  generalize handle s raw = result at *
  rw [along_append]
  refine ⟨?_, hsilent _⟩
  cases hcase with
  | quiet hquiet =>
    apply along_mono observe (fun _ _ h hmark => absurd hmark h)
    apply along_of_forall (P := fun e => mark app e ≠ some .closes)
    intro e he hmark
    obtain ⟨r, rfl, hkind, -⟩ := mark_closes hmark
    obtain ⟨r', hr, heq⟩ := mem_map.1 he
    cases heq
    exact hquiet r hr hkind
  | @closed r s' hkind hclosing hknown hcgroup huntracked =>
    refine ⟨fun hmark => ?_, trivial⟩
    obtain ⟨_, heq, -, happ⟩ := mark_closes hmark
    cases heq
    subst happ
    rcases h hclosing hknown with hannounced | ⟨hcg, hclosed⟩
    · exact hannounced
    · exact absurd hclosed (hcgroup hcg)

theorem streamFrom_closes (s : X11EventState) (raws : List Raw)
    (h : Along handle (ClosesAnnounced app) s raws) :
    Along observe (fun t e => mark app e = some .closes → app ∈ t.announced) (viewOf s)
      (streamFrom s raws) := by
  induction raws generalizing s with
  | nil => trivial
  | cons raw raws ih =>
    change Along observe _ _ (entries s raw ++ streamFrom (handle s raw).2 raws)
    rw [along_append, (handle_hears s raw).view]
    exact ⟨entries_closes h.1, ih _ h.2⟩

/-- What holds of one notification's closes; `heard` is the stream before it. -/
structure CloseLaws (s : X11EventState) (raw : Raw) (heard : List Entry) : Prop where
  untracked : ∀ app, Closing (handle s raw).1 app → ¬ Tracks (handle s raw).2 app
  reported : ∀ app, Closing (handle s raw).1 app → ReportsClose raw.eventType
  destroyed : raw.eventType = .windowDestroyed →
    ∀ app, Closing (handle s raw).1 app → Tracks s app
  emptied : raw.eventType = .cgroupAppEmpty →
    ∀ app, Closing (handle s raw).1 app → (heard.filterMap (rowMark app)).getLast? ≠ some .closes
  lastWindow : ReportsClose raw.eventType → ∀ app ∈ s.announcedApps, Tracks s app →
    ¬ Tracks (handle s raw).2 app → Closing (handle s raw).1 app

structure StreamLaws (raws : List Raw) : Prop where
  opensOnce : ∀ app, (marks app (stream raws)).IsChain fun a b => b = .opens → a ≠ b
  alternates : ∀ app, Along handle (ClosesAnnounced app) {} raws →
    (marks app (stream raws)).IsChain (· ≠ ·) ∧ (marks app (stream raws)).head? ≠ some .closes
  closes : ∀ left raw right, raws = left ++ raw :: right →
    CloseLaws (after handle {} left) raw (stream left)
  switches : ∀ left r right, stream raws = left ++ .row r :: right → r.eventType = .appSwitch →
    r.oldApp ≠ r.newApp ∧ (left.filterMap foregroundMark).getLast? = some r.oldApp

theorem closing_case {s : X11EventState} (h : Closing (handle s raw).1 app) :
    app ∈ closingApp s raw ∧ (raw.eventType = .cgroupAppEmpty → app ∉ s.closedApps) ∧
      ¬ Tracks (handle s raw).2 app := by
  have hcase := handle_close s raw
  generalize handle s raw = result at *
  obtain ⟨r, hr, hkind, rfl⟩ := h
  cases hcase with
  | quiet hquiet => exact absurd hkind (hquiet r hr)
  | closed _ hclosing hknown hcgroup huntracked =>
    cases mem_singleton.1 hr
    exact ⟨hclosing, hcgroup, huntracked⟩

theorem closeLaws (raws : List Raw) (raw : Raw) :
    CloseLaws (after handle {} raws) raw (stream raws) where
  untracked app h := (closing_case h).2.2
  reported app h := by
    have hclosing := (closing_case h).1
    unfold closingApp at hclosing
    cases hkind : raw.eventType with
    | windowDestroyed | gnomeWindowClosed | cgroupAppEmpty => trivial
    | _ =>
      rw [hkind] at hclosing
      cases hclosing
  destroyed hkind app h := by
    have hclosing := (closing_case h).1
    rw [closingApp, hkind] at hclosing
    obtain ⟨window, hwindow, rfl⟩ := Option.map_eq_some_iff.1 hclosing
    exact ⟨_, Dict.mem_of_get? hwindow, rfl⟩
  emptied hkind app h hlast := by
    have hheard := stream_hears raws
    have hclosed := after_last observe (fun t => some (decide (app ∈ t.closed)))
      (fun e => (rowMark app e).map fun m => decide (m = .closes)) (closed_observe app) {}
      (stream raws)
    rw [hheard.view, ← map_filterMap, getLast?_map, hlast] at hclosed
    have hmem : app ∈ (viewOf (after handle {} raws)).closed := by simpa using hclosed
    exact (closing_case h).2.1 hkind hmem
  lastWindow hkind app happ := handle_last hkind (announced_known raws app happ)

/-- The stream of any run of notifications, whatever the resolver answers. -/
theorem desktop_stream_laws (raws : List Raw) : StreamLaws raws where
  opensOnce app := by
    have hlawful := (stream_hears raws).lawful
    refine (marks_chain (P := fun m => m = .opens) {} (stream raws) ?_).1
    refine along_mono observe ?_ _ _ hlawful
    rintro t e hlaw m rfl hmark
    exact freshOpen_mark hlaw.1 hmark
  alternates app hcloses := by
    have hlawful := (stream_hears raws).lawful
    have halong := along_and observe _ _ hlawful (streamFrom_closes {} raws hcloses)
    have hchain := @marks_chain app (fun _ => True) {} (stream raws)
      (along_mono observe ?_ _ _ halong)
    · refine ⟨hchain.1.imp fun _ _ h => h trivial, fun hhead => ?_⟩
      exact hchain.2 .closes trivial hhead (Finset.notMem_empty app)
    · rintro t e ⟨⟨hfresh, -⟩, hclose⟩ m - hmark
      cases m with
      | opens => exact freshOpen_mark hfresh hmark
      | closes => exact not_not.2 (hclose hmark)
  closes left raw _ _ := closeLaws left raw
  switches left r right hsplit hkind := by
    have hlawful := (along_iff_split observe _ _ _).1 (stream_hears raws).lawful
    obtain ⟨hold, hne⟩ := (hlawful left (.row r) right hsplit).2 hkind
    refine ⟨hne, ?_⟩
    rw [after_last observe StreamState.foreground foregroundMark foreground_observe] at hold
    simpa using hold

def notice (kind : Kind) (windowId app : String) : Raw where
  eventType := kind
  windowId := windowId
  app := app
  resolved := some { windowId := windowId, app := app }
  resolvedAgain := some { windowId := windowId, app := app }

/-- The first focus announces its application; a GNOME close is repeated; a window that changes its
application closes nothing; a cgroup close leaves `UNKNOWN` in the foreground. -/
theorem stream_surprises :
    (stream [notice .focusChanged "w1" "FILES"]).filterMap (rowMark "FILES") = [.opens] ∧
      marks "FILES" (stream [notice .gnomeWindowOpened "g1" "FILES",
        notice .gnomeWindowClosed "g1" "FILES", notice .gnomeWindowClosed "g1" "FILES"]) =
          [.opens, .closes, .closes] ∧
      (let s := after handle {} [notice .windowCreated "w1" "FILES"]
       let result := handle s (notice .windowProperty "w1" "VLC")
       "FILES" ∈ s.announcedApps ∧ openApps s = ["FILES"] ∧ openApps result.2 = ["VLC"] ∧
         result.1.map Row.eventType = [.appOpen]) ∧
      (stream [notice .focusChanged "w1" "FILES", notice .focusChanged "w2" "VLC",
        notice .cgroupAppEmpty "" "VLC", notice .focusChanged "w3" "TERM"]).filterMap (fun
          | .row r => if r.eventType = .appSwitch then some (r.oldApp, r.newApp) else none
          | _ => none) = [("FILES", "VLC"), ("UNKNOWN", "TERM")] := by
  decide +kernel

end Parp.DesktopEvents
