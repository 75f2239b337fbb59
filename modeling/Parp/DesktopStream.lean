import Parp.DesktopEvents
import Parp.TransitionRuns

set_option autoImplicit false

/-!
# The event stream a listener sees

What the emitted rows say, with a silent entry where `X11EventState` takes something as given: an
application of the initial windows, the first foreground, a foreground application whose cgroup was
emptied. The listener's view of the stream is the abstract machine that `handle` simulates.
-/
namespace Parp.DesktopEvents

open TransitionRuns

inductive Entry
  | baselineApp (app : String)
  | baselineForeground (app : String)
  | foregroundCleared
  | row (r : Row)
  deriving DecidableEq

structure StreamState where
  announced : Finset String := ∅
  closed : Finset String := ∅
  foreground : Option String := none

def observe (t : StreamState) : Entry → Unit × StreamState
  | .baselineApp app => ((), { t with announced := insert app t.announced })
  | .baselineForeground app => ((), { t with foreground := some app })
  | .foregroundCleared => ((), { t with foreground := some "UNKNOWN" })
  | .row r =>
    ((), if r.eventType = .appOpen then
      { t with announced := insert r.app t.announced, closed := t.closed.erase r.app }
    else if r.eventType = .appClose then
      { t with announced := t.announced.erase r.app, closed := insert r.app t.closed }
    else if r.eventType = .appSwitch then { t with foreground := some r.newApp }
    else t)

def FreshOpen (t : StreamState) : Entry → Prop
  | .baselineApp app => IsKnownApp app ∧ app ∉ t.announced
  | .row r => r.eventType = .appOpen → IsKnownApp r.app ∧ r.app ∉ t.announced
  | _ => True

def TrueSwitch (t : StreamState) : Entry → Prop
  | .row r => r.eventType = .appSwitch → t.foreground = some r.oldApp ∧ r.oldApp ≠ r.newApp
  | _ => True

/-- The entries take the listener from one state to the other, each opening fresh and each switch
true. -/
structure Hears (t : StreamState) (es : List Entry) (t' : StreamState) : Prop where
  view : after observe t es = t'
  lawful : Along observe (fun t e => FreshOpen t e ∧ TrueSwitch t e) t es

def viewOf (s : X11EventState) : StreamState :=
  ⟨s.announcedApps, s.closedApps, if s.foregroundInitialized then some s.foregroundApp else none⟩

def rowsOf (rows : List Row) : List Entry := rows.map Entry.row

def baseline (s s' : X11EventState) : List Entry :=
  if s.foregroundInitialized = false ∧ s'.foregroundInitialized = true then
    [.baselineForeground s'.foregroundApp]
  else []

def cleared (s s' : X11EventState) : List Entry :=
  if s.foregroundInitialized = true ∧ s'.foregroundApp ≠ s.foregroundApp then [.foregroundCleared]
  else []

def silent (s : X11EventState) (raw : Raw) : List Entry :=
  match raw.eventType with
  | .windowInitial =>
    match (remember s raw.windowId raw.resolved).1 with
    | none => []
    | some window =>
      if IsKnownApp window.app ∧ window.app ∉ s.announcedApps then [.baselineApp window.app]
      else []
  | .cgroupAppEmpty => cleared s (handle s raw).2
  | _ => baseline s (handle s raw).2

def entries (s : X11EventState) (raw : Raw) : List Entry :=
  rowsOf (handle s raw).1 ++ silent s raw

section

variable {t t' t'' : StreamState} {es es' : List Entry}

theorem Hears.nil (t : StreamState) : Hears t [] t := ⟨rfl, trivial⟩

theorem Hears.append (h : Hears t es t') (h' : Hears t' es' t'') : Hears t (es ++ es') t'' where
  view := by rw [after_append, h.view, h'.view]
  lawful := by
    rw [along_append, h.view]
    exact ⟨h.lawful, h'.lawful⟩

theorem Hears.silent (e : Entry) (h : FreshOpen t e ∧ TrueSwitch t e) :
    Hears t [e] (observe t e).2 := ⟨rfl, h, trivial⟩

theorem Hears.plain {r : Row} (hopen : r.eventType ≠ .appOpen) (hclose : r.eventType ≠ .appClose)
    (hswitch : r.eventType ≠ .appSwitch) : Hears t (rowsOf [r]) t where
  view := by
    change (observe t (.row r)).2 = t
    simp only [observe, if_neg hopen, if_neg hclose, if_neg hswitch]
  lawful := ⟨⟨fun h => absurd h hopen, fun h => absurd h hswitch⟩, trivial⟩

theorem foreground_hears (t : StreamState) (p : Prop) [Decidable p] (s : X11EventState)
    (kind : EventType) (hkind : kind ≠ .appOpen ∧ kind ≠ .appClose ∧ kind ≠ .appSwitch)
    (app windowId : String) (window : TrackedWindow) (oldApp newApp : String) :
    Hears t (rowsOf (if p then [foreground s kind app windowId window oldApp newApp] else [])) t := by
  by_cases h : p
  · rw [if_pos h]
    exact .plain hkind.1 hkind.2.1 hkind.2.2
  · rw [if_neg h]
    exact .nil t

theorem Hears.close {r : Row} (hkind : r.eventType = .appClose) :
    Hears t (rowsOf [r])
      { t with announced := t.announced.erase r.app, closed := insert r.app t.closed } := by
  have hopen : r.eventType ≠ .appOpen := by simp [hkind]
  have hswitch : r.eventType ≠ .appSwitch := by simp [hkind]
  refine ⟨?_, ⟨fun h => absurd h hopen, fun h => absurd h hswitch⟩, trivial⟩
  change (observe t (.row r)).2 = _
  simp [observe, hkind]

theorem Hears.switch {announced closed : Finset String} {r r' : Row} {old new : String}
    (hkind : r.eventType = .appSwitch) (hold : r.oldApp = old) (hnew : r.newApp = new)
    (hne : old ≠ new) (hkind' : r'.eventType = .appFocusIn) :
    Hears ⟨announced, closed, some old⟩ (rowsOf [r, r']) ⟨announced, closed, some new⟩ := by
  refine Hears.append (?_ : Hears _ [.row r] ⟨announced, closed, some new⟩) ?_
  · have hfresh : r.eventType ≠ .appOpen := by simp [hkind]
    refine ⟨?_, ⟨fun h => absurd h hfresh, fun _ => ⟨by rw [hold], ?_⟩⟩, trivial⟩
    · change (observe _ (.row r)).2 = _
      simp [observe, hkind, hnew]
    · rwa [hold, hnew]
  · apply Hears.plain <;> simp [hkind']

theorem orElse_self (x : String) : orElse x x = x := ite_self x

theorem rowsOf_append (rows rows' : List Row) :
    rowsOf (rows ++ rows') = rowsOf rows ++ rowsOf rows' := List.map_append

end

variable (s : X11EventState) (windowId : String) (current : Option TrackedWindow)

theorem remember_view (answer : Option WindowState) :
    viewOf (remember s windowId answer).2 = viewOf s := by
  unfold remember
  dsimp only
  split_ifs <;> rfl

theorem remember_foreground (answer : Option WindowState) :
    (remember s windowId answer).2.foregroundInitialized = s.foregroundInitialized := by
  unfold remember
  dsimp only
  split_ifs <;> rfl

theorem announce_foreground :
    (announce s windowId current).2.foregroundApp = s.foregroundApp ∧
      (announce s windowId current).2.foregroundInitialized = s.foregroundInitialized := by
  unfold announce
  cases current with
  | none => exact ⟨rfl, rfl⟩
  | some window =>
    dsimp only
    split_ifs <;> exact ⟨rfl, rfl⟩

theorem announce_hears (f : Option String) :
    Hears ⟨s.announcedApps, s.closedApps, f⟩ (rowsOf (announce s windowId current).1)
      ⟨(announce s windowId current).2.announcedApps, (announce s windowId current).2.closedApps,
        f⟩ := by
  unfold announce
  cases current with
  | none => exact .nil _
  | some window =>
    dsimp only
    by_cases hfresh : IsKnownApp window.app ∧ window.app ∉ s.announcedApps
    · rw [if_pos hfresh]
      refine ⟨?_, ⟨fun _ => hfresh, fun h => by cases h⟩, trivial⟩
      change (observe _ (.row _)).2 = _
      simp only [observe, lifecycle, base, if_true]
    · rw [if_neg hfresh]
      exact .nil _

theorem announce_view :
    Hears (viewOf s) (rowsOf (announce s windowId current).1)
      (viewOf (announce s windowId current).2) := by
  obtain ⟨happ, hinit⟩ := announce_foreground s windowId current
  unfold viewOf
  rw [happ, hinit]
  exact announce_hears s windowId current _

theorem baseline_same {s s' : X11EventState}
    (h : s'.foregroundInitialized = s.foregroundInitialized) : baseline s s' = [] := by
  unfold baseline
  rw [h]
  cases s.foregroundInitialized <;> rfl

theorem quiet_hears {s s' : X11EventState} {rows : List Row}
    (hrows : Hears (viewOf s) (rowsOf rows) (viewOf s'))
    (h : s'.foregroundInitialized = s.foregroundInitialized) :
    Hears (viewOf s) (rowsOf rows ++ baseline s s') (viewOf s') := by
  rw [baseline_same h, List.append_nil]
  exact hrows

theorem focusChanged_hears :
    Hears (viewOf s)
      (rowsOf (focusChanged s windowId current).1 ++ baseline s (focusChanged s windowId current).2)
      (viewOf (focusChanged s windowId current).2) := by
  unfold focusChanged
  dsimp only
  generalize hwindow : current.getD ⟨currentAppOf current, 0, "", false⟩ = window
  generalize hnext : ({ s with
    foregroundWindowId := windowId
    foregroundApp := currentAppOf current
    foregroundPid := window.pid
    foregroundTitle := window.title } : X11EventState) = next
  have hopened : Hears (viewOf s) (rowsOf (announce next windowId current).1)
      ⟨(announce next windowId current).2.announcedApps,
        (announce next windowId current).2.closedApps, (viewOf s).foreground⟩ := by
    have h := announce_hears next windowId current (viewOf s).foreground
    rw [← hnext] at h ⊢
    exact h
  obtain ⟨happ, hinit⟩ := announce_foreground next windowId current
  generalize announce next windowId current = announced at *
  obtain ⟨opened, s'⟩ := announced
  subst hnext
  dsimp only at hopened happ hinit ⊢
  cases hstart : s.foregroundInitialized with
  | false =>
    rw [hstart] at hinit
    rw [if_pos hinit, baseline, if_pos ⟨hstart, rfl⟩]
    exact hopened.append (.silent (.baselineForeground _) ⟨trivial, trivial⟩)
  | true =>
    rw [hstart] at hinit
    rw [if_neg (by simp [hinit])]
    have hview : (viewOf s).foreground = some s.foregroundApp := by simp [viewOf, hstart]
    have hview' : viewOf s' = ⟨s'.announcedApps, s'.closedApps, some (currentAppOf current)⟩ := by
      simp [viewOf, hinit, happ]
    rw [hview] at hopened
    by_cases hsame : s.foregroundApp = currentAppOf current
    · rw [if_pos hsame, baseline_same (hinit.trans hstart.symm), List.append_nil, hview', ← hsame]
      exact hopened
    · rw [if_neg hsame, baseline_same (hinit.trans hstart.symm), List.append_nil, hview',
        rowsOf_append, rowsOf_append]
      apply (hopened.append _).append
      · exact .switch rfl rfl (orElse_self _) hsame rfl
      · exact foreground_hears _ _ s' _ (by decide) ..

theorem rememberedFocus_hears (answer : Option WindowState) :
    Hears (viewOf s)
      (rowsOf (focusChanged (remember s windowId answer).2 windowId
          (remember s windowId answer).1).1 ++
        baseline s (focusChanged (remember s windowId answer).2 windowId
          (remember s windowId answer).1).2)
      (viewOf (focusChanged (remember s windowId answer).2 windowId
        (remember s windowId answer).1).2) := by
  have h := focusChanged_hears (remember s windowId answer).2 windowId
    (remember s windowId answer).1
  rwa [remember_view, baseline, remember_foreground] at h

theorem refreshForegroundMapping_hears (current : TrackedWindow) (answer : Option WindowState) :
    Hears (viewOf s)
      (rowsOf (refreshForegroundMapping s windowId current answer).1 ++
        baseline s (refreshForegroundMapping s windowId current answer).2)
      (viewOf (refreshForegroundMapping s windowId current answer).2) := by
  unfold refreshForegroundMapping
  have hnil : Hears (viewOf s) (rowsOf [] ++ baseline s s) (viewOf s) := by
    rw [baseline_same rfl]
    exact .nil _
  by_cases hother : windowId ≠ s.foregroundWindowId ∨ ¬ IsKnownApp current.app
  · rw [if_pos hother]
    exact hnil
  · rw [if_neg hother]
    by_cases hsame : s.foregroundApp = current.app
    · rw [if_pos hsame]
      exact hnil
    · rw [if_neg hsame]
      exact rememberedFocus_hears s windowId answer

theorem closeApp_hears (app windowId : String) (window : TrackedWindow) :
    Hears (viewOf s) (rowsOf (closeApp s app windowId window).1)
      (viewOf (closeApp s app windowId window).2) := by
  unfold closeApp
  exact .close (t := viewOf s) rfl

theorem closeWindow_hears (previous : TrackedWindow) :
    Hears (viewOf s) (rowsOf (closeWindow s windowId previous).1)
      (viewOf (closeWindow s windowId previous).2) := by
  unfold closeWindow
  dsimp only
  split_ifs
  · exact .nil _
  · exact closeApp_hears { s with windows := s.windows.erase windowId } ..

theorem closeWindow_foreground (previous : TrackedWindow) :
    (closeWindow s windowId previous).2.foregroundInitialized = s.foregroundInitialized := by
  unfold closeWindow
  dsimp only
  split_ifs <;> rfl

structure CgroupClosed (s : X11EventState) (app : String) (s' : X11EventState) : Prop where
  windows : s'.windows = s.windows.filter fun e => e.2.app ≠ app
  announcedApps : s'.announcedApps = s.announcedApps.erase app
  closedApps : s'.closedApps = insert app s.closedApps
  foregroundApp : s'.foregroundApp = if s.foregroundApp = app then "UNKNOWN" else s.foregroundApp
  foregroundInitialized : s'.foregroundInitialized = s.foregroundInitialized

inductive CgroupCase (s : X11EventState) (app : String) : List Row × X11EventState → Prop
  | ignored (h : ¬ IsKnownApp app ∨ app ∈ s.closedApps) : CgroupCase s app ([], s)
  | closed {s' : X11EventState} {r : Row} (hknown : IsKnownApp app) (hopen : app ∉ s.closedApps)
      (hs : CgroupClosed s app s') (hkind : r.eventType = .appClose) (happ : r.app = app) :
      CgroupCase s app ([r], s')

theorem closeFromCgroup_cases (app : String) :
    CgroupCase s app (closeFromCgroup s app) := by
  unfold closeFromCgroup
  by_cases hknown : IsKnownApp app
  · rw [if_neg (not_not.2 hknown)]
    by_cases hclosed : app ∈ s.closedApps
    · rw [if_pos hclosed]
      exact .ignored (.inr hclosed)
    · rw [if_neg hclosed]
      dsimp only
      by_cases hforeground : s.foregroundApp = app
      · rw [if_pos hforeground]
        exact .closed hknown hclosed ⟨rfl, rfl, rfl, (if_pos hforeground).symm, rfl⟩ rfl rfl
      · rw [if_neg hforeground]
        exact .closed hknown hclosed ⟨rfl, rfl, rfl, (if_neg hforeground).symm, rfl⟩ rfl rfl
  · rw [if_pos hknown]
    exact .ignored (.inl hknown)

theorem closeFromCgroup_hears (app : String) :
    Hears (viewOf s) (rowsOf (closeFromCgroup s app).1 ++ cleared s (closeFromCgroup s app).2)
      (viewOf (closeFromCgroup s app).2) := by
  have hcases := closeFromCgroup_cases s app
  generalize closeFromCgroup s app = result at *
  cases hcases with
  | ignored =>
    rw [cleared, if_neg (fun h => h.2 rfl)]
    exact .nil _
  | @closed s' r hknown hopen hs hkind happ =>
    have hclose := Hears.close (t := viewOf s) hkind
    rw [happ] at hclose
    apply hclose.append
    dsimp only
    have hview : viewOf s' = ⟨s.announcedApps.erase app, insert app s.closedApps,
        if s.foregroundInitialized then some s'.foregroundApp else none⟩ := by
      unfold viewOf
      rw [hs.announcedApps, hs.closedApps, hs.foregroundInitialized]
    rw [hview]
    by_cases hmoved : s.foregroundInitialized = true ∧ s'.foregroundApp ≠ s.foregroundApp
    · have hforeground : s.foregroundApp = app := by
        by_contra hother
        exact hmoved.2 (hs.foregroundApp.trans (if_neg hother))
      rw [cleared, if_pos hmoved, if_pos hmoved.1, hs.foregroundApp, if_pos hforeground]
      exact .silent .foregroundCleared ⟨trivial, trivial⟩
    · rw [cleared, if_neg hmoved]
      have hforeground : (viewOf s).foreground =
          if s.foregroundInitialized then some s'.foregroundApp else none := by
        cases hstart : s.foregroundInitialized with
        | false => simp [viewOf, hstart]
        | true =>
          have hsame : s'.foregroundApp = s.foregroundApp :=
            not_not.1 fun h => hmoved ⟨hstart, h⟩
          simp [viewOf, hstart, hsame]
      rw [hforeground]
      exact .nil _

theorem handleGnomeEvent_hears (raw : Raw) :
    Hears (viewOf s) (rowsOf (handleGnomeEvent s raw).1 ++ baseline s (handleGnomeEvent s raw).2)
      (viewOf (handleGnomeEvent s raw).2) := by
  unfold handleGnomeEvent
  let stored : X11EventState :=
    { s with windows := s.windows.set raw.windowId (gnomeWindow raw) }
  cases raw.eventType with
  | gnomeWindowOpened =>
    exact quiet_hears (announce_view stored ..) (announce_foreground stored ..).2
  | gnomeWindowMinimized =>
    dsimp only
    by_cases h : IsKnownApp (gnomeWindow raw).app ∧
        ∀ window ∈ s.windows.get? raw.windowId, window.hidden = false
    · rw [if_pos h]
      apply quiet_hears _ rfl
      have hrow := foreground_hears (viewOf s) True stored .appMinimize (by decide)
        (gnomeWindow raw).app raw.windowId (gnomeWindow raw) "" ""
      exact hrow
    · rw [if_neg h]
      exact quiet_hears (.nil _) rfl
  | gnomeWindowClosed => exact quiet_hears (closeWindow_hears s ..) (closeWindow_foreground s ..)
  | gnomeWindowSwitched => exact focusChanged_hears stored ..
  | _ => exact quiet_hears (.nil _) rfl

theorem handleWindowChange_hears (raw : Raw) :
    Hears (viewOf s) (rowsOf (handleWindowChange s raw).1 ++ baseline s (handleWindowChange s raw).2)
      (viewOf (handleWindowChange s raw).2) := by
  unfold handleWindowChange
  dsimp only
  have hview := remember_view s raw.windowId raw.resolved
  have hstart := remember_foreground s raw.windowId raw.resolved
  generalize remember s raw.windowId raw.resolved = remembered at *
  obtain ⟨current, next⟩ := remembered
  have hopened := announce_view next raw.windowId current
  have hannounced := (announce_foreground next raw.windowId current).2
  generalize announce next raw.windowId current = announced at *
  obtain ⟨opened, s'⟩ := announced
  dsimp only at hview hstart hopened hannounced ⊢
  rw [hview] at hopened
  have hquiet := hannounced.trans hstart
  cases current with
  | none => exact quiet_hears hopened hquiet
  | some window =>
    cases hprevious : s.windows.get? raw.windowId with
    | none => exact quiet_hears hopened hquiet
    | some previous =>
      dsimp only
      have hrestored := hopened.append (foreground_hears (viewOf s')
        (raw.eventType = .windowMapped ∧ IsKnownApp window.app ∧ previous.hidden = true ∧
          window.hidden = false) s' .appRestore (by decide) window.app raw.windowId
        window "" "")
      rw [← rowsOf_append] at hrestored
      by_cases hproperty : raw.eventType = .windowProperty
      · rw [if_pos hproperty]
        have htoggled := hrestored.append (foreground_hears (viewOf s')
          (previous.hidden ≠ window.hidden) s'
          (if window.hidden then .appMinimize else .appRestore)
          (by cases window.hidden <;> decide) window.app raw.windowId window "" "")
        rw [← rowsOf_append] at htoggled
        have hrefreshed := htoggled.append
          (refreshForegroundMapping_hears s' raw.windowId window raw.resolvedAgain)
        rw [← List.append_assoc, ← rowsOf_append, baseline, hquiet] at hrefreshed
        exact hrefreshed
      · rw [if_neg hproperty]
        exact quiet_hears hrestored hquiet

theorem initial_hears (app : String) (hknown : IsKnownApp app) :
    Hears (viewOf s)
      (if IsKnownApp app ∧ app ∉ s.announcedApps then [.baselineApp app] else [])
      (viewOf { s with announcedApps := insert app s.announcedApps }) := by
  by_cases hnew : app ∈ s.announcedApps
  · rw [if_neg (fun h => h.2 hnew), Finset.insert_eq_self.2 hnew]
    exact .nil _
  · rw [if_pos ⟨hknown, hnew⟩]
    exact .silent (.baselineApp app) ⟨⟨hknown, hnew⟩, trivial⟩

theorem handle_hears (raw : Raw) :
    Hears (viewOf s) (entries s raw) (viewOf (handle s raw).2) := by
  unfold entries silent handle
  have hview := remember_view s raw.windowId raw.resolved
  have hstart := remember_foreground s raw.windowId raw.resolved
  have hfocus := rememberedFocus_hears s raw.windowId raw.resolved
  cases raw.eventType with
  | collectorError => exact quiet_hears (.plain (by simp) (by simp) (by simp)) rfl
  | windowInitial =>
    dsimp only
    generalize remember s raw.windowId raw.resolved = remembered at *
    obtain ⟨current, next⟩ := remembered
    dsimp only at hview ⊢
    cases current with
    | none => exact hview ▸ .nil _
    | some window =>
      dsimp only
      by_cases hknown : IsKnownApp window.app
      · have hannounced : next.announcedApps = s.announcedApps :=
          congrArg StreamState.announced hview
        rw [if_pos hknown, ← hview, ← hannounced]
        exact initial_hears next window.app hknown
      · rw [if_neg hknown, if_neg (fun h => hknown h.1)]
        exact hview ▸ .nil _
  | cgroupAppEmpty => exact closeFromCgroup_hears s raw.app
  | gnomeWindowOpened | gnomeWindowMinimized | gnomeWindowClosed | gnomeWindowSwitched =>
    exact handleGnomeEvent_hears s raw
  | windowCreated | windowMapped | windowProperty => exact handleWindowChange_hears s raw
  | windowUnmapped =>
    dsimp only
    generalize remember s raw.windowId raw.resolved = remembered at *
    obtain ⟨current, next⟩ := remembered
    dsimp only at hview hstart ⊢
    cases current with
    | none => exact quiet_hears (hview ▸ .nil _) hstart
    | some window =>
      dsimp only
      by_cases hhides : window.hidden = true ∧
          ∀ old ∈ s.windows.get? raw.windowId, old.hidden = false
      · rw [if_pos hhides]
        apply quiet_hears _ hstart
        rw [← hview]
        exact foreground_hears (viewOf next) True next .appMinimize (by decide) ..
      · rw [if_neg hhides]
        exact quiet_hears (hview ▸ .nil _) hstart
  | windowDestroyed =>
    dsimp only
    cases s.windows.get? raw.windowId with
    | none => exact quiet_hears (.nil _) rfl
    | some previous => exact quiet_hears (closeWindow_hears s ..) (closeWindow_foreground s ..)
  | focusChanged | focusRecheck => exact hfocus
  | unhandled => exact quiet_hears (.nil _) rfl

def streamFrom (s : X11EventState) (raws : List Raw) : List Entry :=
  (outputs (fun s raw => (entries s raw, (handle s raw).2)) s raws).flatten

def stream (raws : List Raw) : List Entry := streamFrom {} raws

theorem streamFrom_hears (raws : List Raw) :
    Hears (viewOf s) (streamFrom s raws) (viewOf (after handle s raws)) := by
  induction raws generalizing s with
  | nil => exact .nil _
  | cons raw raws ih => exact (handle_hears s raw).append (ih (handle s raw).2)

theorem stream_hears (raws : List Raw) :
    Hears {} (stream raws) (viewOf (after handle {} raws)) := streamFrom_hears {} raws

end Parp.DesktopEvents
