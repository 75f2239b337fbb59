import Parp.OrderedDict
import Mathlib.Data.Finset.Basic
import Mathlib.Data.String.Basic

set_option autoImplicit false

/-!
# Desktop events

`X11EventState` of `runtime_monitor/core/x11_event_state.py`. A notification comes with what the
window resolver answers while it is handled: `WINDOW_PROPERTY` can ask twice. The times of a row,
the durations taken from them and the labels of its source are left out.
-/
namespace Parp.DesktopEvents

open OrderedDict

inductive Kind
  | collectorError | windowInitial | cgroupAppEmpty
  | gnomeWindowOpened | gnomeWindowMinimized | gnomeWindowClosed | gnomeWindowSwitched
  | windowCreated | windowMapped | windowProperty | windowUnmapped | windowDestroyed
  | focusChanged | focusRecheck | unhandled
  deriving DecidableEq

/-- `WindowState` of the resolver, the fields `_remember` reads. -/
structure WindowState where
  windowId : String := ""
  app : String := ""
  pid : ℤ := 0
  windowTitle : String := ""
  isHidden : Bool := false
  deriving DecidableEq

/-- A raw notification; a resolver answer is `none` where the resolver raises. -/
structure Raw where
  eventType : Kind
  windowId : String := ""
  app : String := ""
  pid : ℤ := 0
  title : String := ""
  hidden : Bool := false
  resolved : Option WindowState := none
  resolvedAgain : Option WindowState := none
  deriving DecidableEq

structure TrackedWindow where
  app : String
  pid : ℤ
  title : String
  hidden : Bool
  deriving DecidableEq

inductive EventType
  | collectorError | appOpen | appClose | appMinimize | appRestore
  | appFocusOut | appSwitch | appFocusIn
  deriving DecidableEq

structure Row where
  eventType : EventType
  app : String := ""
  oldApp : String := ""
  newApp : String := ""
  foregroundApp : String := ""
  windowId : String := ""
  windowTitle : String := ""
  pid : ℤ := 0
  openAppsBefore : List String := []
  openAppsAfter : List String := []
  deriving DecidableEq

structure X11EventState where
  windows : Dict String TrackedWindow := ∅
  foregroundWindowId : String := ""
  foregroundApp : String := ""
  foregroundPid : ℤ := 0
  foregroundTitle : String := ""
  foregroundInitialized : Bool := false
  announcedApps : Finset String := ∅
  closedApps : Finset String := ∅

def IsKnownApp (app : String) : Prop := app ≠ "" ∧ app ≠ "UNKNOWN"

instance (app : String) : Decidable (IsKnownApp app) := inferInstanceAs (Decidable (_ ∧ _))

def sortedApps (apps : List String) : List String := apps.dedup.mergeSort fun a b => a ≤ b

def openApps (s : X11EventState) : List String :=
  sortedApps ((s.windows.values.map TrackedWindow.app).filter fun app => IsKnownApp app)

/-- `x or default`. -/
def orElse (x fallback : String) : String := if x = "" then fallback else x

def base (s : X11EventState) (eventType : EventType) (app windowId : String)
    (window : TrackedWindow) : Row where
  eventType := eventType
  app := app
  newApp := app
  foregroundApp := orElse s.foregroundApp app
  windowId := windowId
  windowTitle := window.title
  pid := window.pid
  openAppsAfter := openApps s

def foreground (s : X11EventState) (eventType : EventType) (app windowId : String)
    (window : TrackedWindow) (oldApp newApp : String) : Row :=
  { base s eventType app windowId window with
    oldApp := oldApp
    newApp := orElse newApp app }

def lifecycle (s : X11EventState) (eventType : EventType) (app windowId : String)
    (window : TrackedWindow) : Row :=
  { base s eventType app windowId window with
    openAppsBefore :=
      if eventType = .appOpen then (openApps s).filter (· ≠ app)
      else if eventType = .appClose then sortedApps (app :: openApps s)
      else openApps s }

/-- `_remember`. -/
def remember (s : X11EventState) (windowId : String) (answer : Option WindowState) :
    Option TrackedWindow × X11EventState :=
  if windowId = "" then (none, s)
  else
    let state := answer.getD { windowId := windowId, app := "UNKNOWN" }
    if state.windowId = "" then (s.windows.get? windowId, s)
    else if state.app = "" then (none, { s with windows := s.windows.erase windowId })
    else
      let current : TrackedWindow := ⟨state.app, state.pid, state.windowTitle, state.isHidden⟩
      (some current, { s with windows := s.windows.set windowId current })

def announce (s : X11EventState) (windowId : String) (current : Option TrackedWindow) :
    List Row × X11EventState :=
  match current with
  | none => ([], s)
  | some window =>
    if IsKnownApp window.app ∧ window.app ∉ s.announcedApps then
      ([lifecycle s .appOpen window.app windowId window],
        { s with
          announcedApps := insert window.app s.announcedApps
          closedApps := s.closedApps.erase window.app })
    else ([], s)

def currentAppOf (current : Option TrackedWindow) : String :=
  match current with
  | none => "UNKNOWN"
  | some window => if IsKnownApp window.app then window.app else "UNKNOWN"

/-- `_focus_changed`, after the window is resolved. -/
def focusChanged (s : X11EventState) (windowId : String) (current : Option TrackedWindow) :
    List Row × X11EventState :=
  let previousApp := s.foregroundApp
  let previousWindow := s.foregroundWindowId
  let currentApp := currentAppOf current
  let window := current.getD ⟨currentApp, 0, "", false⟩
  let s := { s with
    foregroundWindowId := windowId
    foregroundApp := currentApp
    foregroundPid := window.pid
    foregroundTitle := window.title }
  let (opened, s) := announce s windowId current
  if s.foregroundInitialized = false then (opened, { s with foregroundInitialized := true })
  else if previousApp = currentApp then (opened, s)
  else
    let focusOut :=
      if previousApp ≠ "" then
        [foreground s .appFocusOut previousApp previousWindow ⟨previousApp, 0, "", false⟩
          previousApp currentApp]
      else []
    (opened ++ focusOut ++
      [foreground s .appSwitch currentApp windowId window previousApp currentApp,
        foreground s .appFocusIn currentApp windowId window previousApp currentApp], s)

/-- `_refresh_foreground_mapping`. -/
def refreshForegroundMapping (s : X11EventState) (windowId : String) (current : TrackedWindow)
    (answer : Option WindowState) : List Row × X11EventState :=
  if windowId ≠ s.foregroundWindowId ∨ ¬ IsKnownApp current.app then ([], s)
  else if s.foregroundApp = current.app then ([], s)
  else
    let (again, s) := remember s windowId answer
    focusChanged s windowId again

/-- The application is gone: `APP_CLOSE` and both sets. -/
def closeApp (s : X11EventState) (app windowId : String) (window : TrackedWindow) :
    List Row × X11EventState :=
  let s := { s with
    announcedApps := s.announcedApps.erase app
    closedApps := insert app s.closedApps }
  ([lifecycle s .appClose app windowId window], s)

/-- `_close_from_cgroup`. -/
def closeFromCgroup (s : X11EventState) (app : String) : List Row × X11EventState :=
  if ¬ IsKnownApp app then ([], s)
  else if app ∈ s.closedApps then ([], s)
  else
    let matching := s.windows.items.filter fun e => e.2.app = app
    let s := { s with
      windows := s.windows.filter fun e => e.2.app ≠ app
      announcedApps := s.announcedApps.erase app
      closedApps := insert app s.closedApps }
    let s :=
      if s.foregroundApp = app then
        { s with foregroundApp := "UNKNOWN", foregroundPid := 0, foregroundTitle := "" }
      else s
    let anchor := matching.head?.getD ("", ⟨app, 0, "", false⟩)
    ([lifecycle s .appClose app anchor.1 anchor.2], s)

def gnomeWindow (raw : Raw) : TrackedWindow :=
  ⟨orElse raw.app "UNKNOWN", raw.pid, raw.title, raw.hidden⟩

def closeWindow (s : X11EventState) (windowId : String) (previous : TrackedWindow) :
    List Row × X11EventState :=
  let s := { s with windows := s.windows.erase windowId }
  if ¬ IsKnownApp previous.app ∨ previous.app ∈ openApps s then ([], s)
  else closeApp s previous.app windowId previous

/-- `_handle_gnome_event`, one clause for each kind it handles. -/
def handleGnomeEvent (s : X11EventState) (raw : Raw) : List Row × X11EventState :=
  let current := gnomeWindow raw
  match raw.eventType with
  | .gnomeWindowOpened =>
    announce { s with windows := s.windows.set raw.windowId current } raw.windowId (some current)
  | .gnomeWindowMinimized =>
    let previous := s.windows.get? raw.windowId
    let s := { s with windows := s.windows.set raw.windowId current }
    if IsKnownApp current.app ∧ ∀ window ∈ previous, window.hidden = false then
      ([foreground s .appMinimize current.app raw.windowId current "" ""], s)
    else ([], s)
  | .gnomeWindowClosed => closeWindow s raw.windowId ((s.windows.get? raw.windowId).getD current)
  | .gnomeWindowSwitched =>
    focusChanged { s with windows := s.windows.set raw.windowId current } raw.windowId
      (some current)
  | _ => ([], s)

/-- `WINDOW_CREATED`, `WINDOW_MAPPED` and `WINDOW_PROPERTY`. -/
def handleWindowChange (s : X11EventState) (raw : Raw) : List Row × X11EventState :=
  let previous := s.windows.get? raw.windowId
  let (current, s) := remember s raw.windowId raw.resolved
  let (opened, s) := announce s raw.windowId current
  match current, previous with
  | some current, some previous =>
    let restored :=
      if raw.eventType = .windowMapped ∧ IsKnownApp current.app ∧ previous.hidden = true ∧
          current.hidden = false then
        [foreground s .appRestore current.app raw.windowId current "" ""]
      else []
    if raw.eventType = .windowProperty then
      let toggled :=
        if previous.hidden ≠ current.hidden then
          [foreground s (if current.hidden then .appMinimize else .appRestore) current.app
            raw.windowId current "" ""]
        else []
      let (refreshed, s) := refreshForegroundMapping s raw.windowId current raw.resolvedAgain
      (opened ++ restored ++ toggled ++ refreshed, s)
    else (opened ++ restored, s)
  | _, _ => (opened, s)

def handle (s : X11EventState) (raw : Raw) : List Row × X11EventState :=
  match raw.eventType with
  | .collectorError => ([{ eventType := .collectorError }], s)
  | .windowInitial =>
    let (current, s) := remember s raw.windowId raw.resolved
    match current with
    | none => ([], s)
    | some window =>
      if IsKnownApp window.app then
        ([], { s with announcedApps := insert window.app s.announcedApps })
      else ([], s)
  | .cgroupAppEmpty => closeFromCgroup s raw.app
  | .gnomeWindowOpened | .gnomeWindowMinimized | .gnomeWindowClosed | .gnomeWindowSwitched =>
    handleGnomeEvent s raw
  | .windowCreated | .windowMapped | .windowProperty => handleWindowChange s raw
  | .windowUnmapped =>
    let previous := s.windows.get? raw.windowId
    let (current, s) := remember s raw.windowId raw.resolved
    match current with
    | none => ([], s)
    | some window =>
      if window.hidden = true ∧ ∀ old ∈ previous, old.hidden = false then
        ([foreground s .appMinimize window.app raw.windowId window "" ""], s)
      else ([], s)
  | .windowDestroyed =>
    match s.windows.get? raw.windowId with
    | none => ([], s)
    | some previous => closeWindow s raw.windowId previous
  | .focusChanged | .focusRecheck =>
    let (current, s) := remember s raw.windowId raw.resolved
    focusChanged s raw.windowId current
  | .unhandled => ([], s)

end Parp.DesktopEvents
