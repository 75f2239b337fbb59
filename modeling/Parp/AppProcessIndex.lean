import Mathlib.Data.Finset.Sort
import Mathlib.Data.String.Basic
import Parp.OrderedDict

set_option autoImplicit false

/-!
# The process index

`AppProcessIndex` of `core/app_process_index.py`: which process belongs to which application, kept
up from the starts, the execs and the exits of the processes. A removal reads the clock when it
leaves an application without a GUI process.
-/
namespace Parp.AppProcessIndex

open OrderedDict

structure ProcessIdentity where
  pid : ℤ
  tgid : ℤ := 0
  comm : String := ""
  exePath : String := ""
  cgroupPath : String := ""
  startTime : String := ""
  cmdlineHash : String := ""
  deriving DecidableEq

inductive Role
  | gui | fixture
  deriving DecidableEq

structure IndexedProcess where
  identity : ProcessIdentity
  app : String
  role : Role := .gui
  sourceSeq : ℤ := 0
  lastEvent : String := ""
  deriving DecidableEq

/-- An application of `""` is none, and so is its role. -/
structure AppProcessChange where
  pid : ℤ
  previousApp : String := ""
  currentApp : String := ""
  previousRole : Option Role := none
  currentRole : Option Role := none
  removed : Option IndexedProcess := none
  deriving DecidableEq

/-- What the constructor is given. Python iterates over a set in an order of its own. -/
structure Settings where
  targetApps : Finset String
  fixtureScopeToApp : List (String × String) := []
  /-- `mapper.map_process`, without blanks around it. -/
  mapProcess : ProcessIdentity → String
  iteration : Finset String → List String
  namedApps : "" ∉ targetApps
  fixtureApps : ∀ item ∈ fixtureScopeToApp, item.2 ∈ targetApps
  mem_iteration : ∀ names name, name ∈ iteration names ↔ name ∈ names

/-- `str.strip()` of an ASCII text. -/
def strip (text : String) : String :=
  .ofList ((text.toList.dropWhile Char.isWhitespace).reverse.dropWhile Char.isWhitespace).reverse

/-- What the constructor keeps of its arguments. -/
def Settings.init (targetApps : List String) (fixtureScopeToApp : List (String × String))
    (mapProcess : ProcessIdentity → String) : Settings :=
  let apps := ((targetApps.map strip).filter fun app => app ≠ "").toFinset
  { targetApps := apps
    fixtureScopeToApp := fixtureScopeToApp.filter fun item => item.1 ≠ "" ∧ item.2 ∈ apps
    mapProcess := mapProcess
    iteration := fun names => names.sort (· ≤ ·)
    namedApps := by simp [apps]
    fixtureApps := fun item hitem => (of_decide_eq_true (List.mem_filter.1 hitem).2).2
    mem_iteration := fun _ _ => Finset.mem_sort _ }

example : (Settings.init [" files", "", "vlc"] [("scope-1", "files"), ("scope-2", "mail")]
    ProcessIdentity.comm).fixtureScopeToApp = [("scope-1", "files")] := by decide +kernel

section

variable (settings : Settings)

/-- `app.lower().replace("_", "-")` of an ASCII name. -/
def slug (app : String) : String := app.map fun c => if c = '_' then '-' else c.toLower

def components (identity : ProcessIdentity) : Finset String :=
  ((identity.cgroupPath.splitOn "/").filter fun item => item ≠ "").toFinset

def aliasedFixture (names : Finset String) : Option String :=
  (settings.fixtureScopeToApp.find? fun item => item.1 ∈ names).map Prod.snd

def routedFixture (names : Finset String) : Option String :=
  (settings.iteration names).findSome? fun component =>
    if component.startsWith "parp-route-" ∧ 1 < (component.splitOn "-fixture-").length then
      (settings.iteration settings.targetApps).find? fun app =>
        component.startsWith ("parp-route-" ++ slug app ++ "-fixture-")
    else none

/-- The application and the role; `none` is the pair of empty texts. -/
def classify (identity : ProcessIdentity) (inherited : Option IndexedProcess) :
    Option (String × Role) :=
  let names := components identity
  match aliasedFixture settings names, routedFixture settings names with
  | some app, _ => some (app, .fixture)
  | none, some app => some (app, .fixture)
  | none, none =>
    let app := settings.mapProcess identity
    match inherited with
    | none => if app ∈ settings.targetApps then some (app, .gui) else none
    | some inherited =>
      if app ∈ settings.targetApps then
        some (app, if inherited.app = app then inherited.role else .gui)
      else if "parp-" ++ slug inherited.app ++ ".slice" ∈ names then
        some (inherited.app, inherited.role)
      else none

end

end Parp.AppProcessIndex

namespace Parp

open OrderedDict AppProcessIndex

structure AppProcessIndex where
  byPid : Dict ℤ IndexedProcess := ∅
  byApp : String → Finset ℤ := fun _ => ∅
  guiByApp : String → Finset ℤ := fun _ => ∅
  emptySinceNs : Dict String ℤ := ∅
  reportedEmpty : Finset String := ∅

namespace AppProcessIndex

/-- `item` leaves all tables; the last GUI process of its application starts an empty period. -/
def takeOut (s : AppProcessIndex) (pid : ℤ) (item : IndexedProcess) (clockNs : ℤ) :
    AppProcessIndex :=
  let guiPids := (s.guiByApp item.app).erase pid
  let emptied := item.role = .gui ∧ guiPids = ∅
  { byPid := s.byPid.erase pid
    byApp := Function.update s.byApp item.app ((s.byApp item.app).erase pid)
    guiByApp := Function.update s.guiByApp item.app guiPids
    emptySinceNs := if emptied then s.emptySinceNs.set item.app clockNs else s.emptySinceNs
    reportedEmpty := if emptied then s.reportedEmpty.erase item.app else s.reportedEmpty }

/-- `_remove_pid`, and the item it has taken out. -/
def removePid (s : AppProcessIndex) (pid : ℤ) (expectedStartTime : String) (clockNs : ℤ) :
    Option IndexedProcess × AppProcessIndex :=
  match s.byPid.get? pid with
  | none => (none, s)
  | some item =>
    let indexedStart := item.identity.startTime
    if expectedStartTime ≠ "" ∧ indexedStart ≠ "" ∧ expectedStartTime ≠ indexedStart then
      (none, s)
    else (some item, s.takeOut pid item clockNs)

def displace (s : AppProcessIndex) (pid : ℤ) (app : String) (clockNs : ℤ) : AppProcessIndex :=
  match s.byPid.get? pid with
  | none => s
  | some previous => if previous.app ≠ app then (s.removePid pid "" clockNs).2 else s

/-- `_insert`. -/
def insert (s : AppProcessIndex) (identity : ProcessIdentity) (target : String × Role)
    (sourceSeq : ℤ) (lastEvent : String) (clockNs : ℤ) : AppProcessIndex :=
  let (app, role) := target
  let s := s.displace identity.pid app clockNs
  let s :=
    { s with
      byPid := s.byPid.set identity.pid ⟨identity, app, role, sourceSeq, lastEvent⟩
      byApp := Function.update s.byApp app (Insert.insert identity.pid (s.byApp app)) }
  if role = .gui then
    { s with
      guiByApp := Function.update s.guiByApp app (Insert.insert identity.pid (s.guiByApp app))
      emptySinceNs := s.emptySinceNs.erase app
      reportedEmpty := s.reportedEmpty.erase app }
  else s

section

variable (settings : Settings)

def bootstrap (identities : List ProcessIdentity) (clockNs : ℤ) : AppProcessIndex :=
  identities.foldl (fun s identity =>
    match classify settings identity none with
    | none => s
    | some target => s.insert identity target 0 "BOOTSTRAP" clockNs) {}

/-- `if app: self._insert(...)`. -/
def insertTarget (s : AppProcessIndex) (identity : ProcessIdentity)
    (target : Option (String × Role)) (sourceSeq : ℤ) (lastEvent : String) (clockNs : ℤ) :
    AppProcessIndex :=
  match target with
  | none => s
  | some target => s.insert identity target sourceSeq lastEvent clockNs

def appText (app : Option String) : String := app.getD ""

def vacate (s : AppProcessIndex) (pid : ℤ) (clockNs : ℤ) : AppProcessIndex :=
  match s.byPid.get? pid with
  | none => s
  | some _ => (s.removePid pid "" clockNs).2

/-- The class of a started process: `s` holds no process of its number any more. -/
def startTarget (s : AppProcessIndex) (identity : ProcessIdentity) (parentPid : ℤ) :
    Option (String × Role) :=
  classify settings identity (if 0 < parentPid then s.byPid.get? parentPid else none)

def processStart (s : AppProcessIndex) (identity : ProcessIdentity) (sourceSeq parentPid : ℤ)
    (clockNs : ℤ) : AppProcessChange × AppProcessIndex :=
  let previous := s.byPid.get? identity.pid
  let s := s.vacate identity.pid clockNs
  let target := startTarget settings s identity parentPid
  ({ pid := identity.pid
     previousApp := appText (previous.map IndexedProcess.app)
     currentApp := appText (target.map Prod.fst)
     previousRole := previous.map IndexedProcess.role
     currentRole := target.map Prod.snd
     removed := previous },
    s.insertTarget identity target sourceSeq "PROCESS_START" clockNs)

def execTarget (s : AppProcessIndex) (identity : ProcessIdentity) : Option (String × Role) :=
  classify settings identity (s.byPid.get? identity.pid)

def moveOut (s : AppProcessIndex) (pid : ℤ) (target : Option (String × Role)) (clockNs : ℤ) :
    AppProcessIndex :=
  match s.byPid.get? pid with
  | none => s
  | some previous =>
    if target ≠ some (previous.app, previous.role) then
      (s.removePid pid previous.identity.startTime clockNs).2
    else s

def processExec (s : AppProcessIndex) (identity : ProcessIdentity) (sourceSeq : ℤ)
    (clockNs : ℤ) : AppProcessChange × AppProcessIndex :=
  let previous := s.byPid.get? identity.pid
  let target := execTarget settings s identity
  ({ pid := identity.pid
     previousApp := appText (previous.map IndexedProcess.app)
     currentApp := appText (target.map Prod.fst)
     previousRole := previous.map IndexedProcess.role
     currentRole := target.map Prod.snd
     removed := previous.filter fun previous =>
       previous.app ≠ "" ∧ target ≠ some (previous.app, previous.role) },
    (s.moveOut identity.pid target clockNs).insertTarget identity target sourceSeq "PROCESS_EXEC"
      clockNs)

def processExit (s : AppProcessIndex) (identity : ProcessIdentity) (clockNs : ℤ) :
    AppProcessChange × AppProcessIndex :=
  match s.byPid.get? identity.pid with
  | none => ({ pid := identity.pid }, s)
  | some previous =>
    let expected := identity.startTime
    let indexedStart := previous.identity.startTime
    if expected ≠ "" ∧ indexedStart ≠ "" ∧ expected ≠ indexedStart then
      ({ pid := identity.pid
         previousApp := previous.app
         currentApp := previous.app
         previousRole := some previous.role
         currentRole := some previous.role }, s)
    else
      let removed := s.removePid identity.pid indexedStart clockNs
      ({ pid := identity.pid
         previousApp := previous.app
         previousRole := some previous.role
         removed := removed.1 }, removed.2)

def stalePids (s : AppProcessIndex) (sampledPids : List ℤ) : List ℤ :=
  ((s.byPid.items.map Prod.fst).toFinset \ sampledPids.toFinset).sort (· ≤ ·)

def prune (clockNs : ℤ → ℤ) : List ℤ → AppProcessIndex → List IndexedProcess × AppProcessIndex
  | [], s => ([], s)
  | pid :: pids, s =>
    let removed := s.removePid pid "" (clockNs pid)
    let rest := prune clockNs pids removed.2
    (removed.1.toList ++ rest.1, rest.2)

def pruneUnreadable (s : AppProcessIndex) (sampledPids : List ℤ) (clockNs : ℤ → ℤ) :
    List IndexedProcess × AppProcessIndex :=
  prune clockNs (s.stalePids sampledPids) s

/-- `app` has been without a GUI process for the grace period and was not reported. -/
def popsEmpty (s : AppProcessIndex) (graceNs nowNs : ℤ) (item : String × ℤ) : Bool :=
  s.guiByApp item.1 = ∅ ∧ item.1 ∉ s.reportedEmpty ∧ max 0 graceNs ≤ nowNs - item.2

/-- `graceNs` is `int(float(grace_s) * 1_000_000_000)`. -/
def popEmptyApps (s : AppProcessIndex) (graceNs nowNs : ℤ) : List String × AppProcessIndex :=
  let sorted := s.emptySinceNs.items.insertionSort fun l r => l.1 ≤ r.1
  let ready := (sorted.filter (s.popsEmpty graceNs nowNs)).map Prod.fst
  (ready, { s with reportedEmpty := s.reportedEmpty ∪ ready.toFinset })

end

section

inductive Call
  | bootstrap (identities : List ProcessIdentity) (clockNs : ℤ)
      (distinct : (identities.map ProcessIdentity.pid).Nodup)
  | processStart (identity : ProcessIdentity) (sourceSeq parentPid clockNs : ℤ)
  | processExec (identity : ProcessIdentity) (sourceSeq clockNs : ℤ)
  | processExit (identity : ProcessIdentity) (clockNs : ℤ)
  | pruneUnreadable (sampledPids : List ℤ) (clockNs : ℤ → ℤ)
  | popEmptyApps (graceNs nowNs : ℤ)

variable (settings : Settings)

def call (s : AppProcessIndex) : Call → AppProcessIndex
  | .bootstrap identities clockNs _ => AppProcessIndex.bootstrap settings identities clockNs
  | .processStart identity sourceSeq parentPid clockNs =>
    (s.processStart settings identity sourceSeq parentPid clockNs).2
  | .processExec identity sourceSeq clockNs => (s.processExec settings identity sourceSeq clockNs).2
  | .processExit identity clockNs => (s.processExit identity clockNs).2
  | .pruneUnreadable sampledPids clockNs => (s.pruneUnreadable sampledPids clockNs).2
  | .popEmptyApps graceNs nowNs => (s.popEmptyApps graceNs nowNs).2

def run (calls : List Call) : AppProcessIndex := calls.foldl (AppProcessIndex.call settings) {}

end

end AppProcessIndex

end Parp
