import Parp.MembershipChanges
import Parp.OrderedDict
import Mathlib.Data.Finset.Card
import Mathlib.Data.List.Sort
import Mathlib.Data.String.Basic

set_option autoImplicit false

/-!
# Lifecycle events

`LifecycleEventBuilder` of `core/lifecycle.py`: the process and application events of one sample of
the processes. An `app` of `""` is a process of no application; the open applications of an event
are the sets that it reports as sorted, joined names.
-/
namespace Parp.Lifecycle

open OrderedDict

structure ProcessSample where
  app : String
  pid : ℕ
  tgid : ℕ := 0
  comm : String := ""
  cmdlineHash : String := ""
  exePath : String := ""
  cgroupPath : String := ""
  inTestSlice : Bool := false
  deriving DecidableEq

inductive ProcessEventType
  | start | exit | baseline
  deriving DecidableEq

structure ProcessEvent where
  eventType : ProcessEventType
  process : ProcessSample
  deriving DecidableEq

inductive LifecycleEventType
  | appOpen | appClose
  deriving DecidableEq

structure LifecycleEvent where
  eventType : LifecycleEventType
  app : String
  pidCountBefore : ℕ
  pidCountAfter : ℕ
  openAppsBefore : Finset String
  openAppsAfter : Finset String
  deriving DecidableEq

structure LifecycleEventBuilder where
  closeGraceWindows : ℤ := 2
  appPidSets : Dict String (Finset ℕ) := ∅
  pidMeta : Dict ℕ ProcessSample := ∅
  baselineEmitted : Bool := false
  appLifecycleActive : Bool := false
  missingCounts : String → ℕ := fun _ => 0

/-- `sorted(d)`. -/
def sortedKeys {κ α : Type} [LinearOrder κ] (d : Dict κ α) : List κ :=
  (d.items.map Prod.fst).insertionSort (· ≤ ·)

/-- `sorted(set(d) - set(other))`. -/
def sortedWithout {κ α β : Type} [LinearOrder κ] (d : Dict κ α) (other : Dict κ β) : List κ :=
  (sortedKeys d).filter fun k => (other.get? k).isNone

def keySet {κ α : Type} [DecidableEq κ] (d : Dict κ α) : Finset κ := (d.items.map Prod.fst).toFinset

def currentByApp (samples : List ProcessSample) : Dict String (Finset ℕ) :=
  samples.foldl (fun d sample => d.set sample.app (insert sample.pid ((d.get? sample.app).getD ∅))) ∅

def currentMeta (samples : List ProcessSample) : Dict ℕ ProcessSample :=
  samples.foldl (fun d sample => d.set sample.pid sample) ∅

def processEvents (eventType : ProcessEventType) (processes : Dict ℕ ProcessSample)
    (pids : List ℕ) : List ProcessEvent :=
  pids.filterMap fun pid => (processes.get? pid).map (⟨eventType, ·⟩)

def allProcessEvents (b : LifecycleEventBuilder) (current : Dict ℕ ProcessSample) :
    List ProcessEvent :=
  (if b.baselineEmitted = false ∧ b.pidMeta.items ≠ [] then
      processEvents .baseline b.pidMeta (sortedKeys b.pidMeta)
    else []) ++
    processEvents .start current (sortedWithout current b.pidMeta) ++
    processEvents .exit b.pidMeta (sortedWithout b.pidMeta current)

section

structure Loop where
  nextOpenSets : Dict String (Finset ℕ)
  rollingOpen : Finset String
  missingCounts : String → ℕ
  events : List LifecycleEvent := []

variable (old current : Dict String (Finset ℕ))

def openTurn (s : Loop) (app : String) : Loop :=
  let pids := (current.get? app).getD ∅
  let missing := Function.update s.missingCounts app 0
  if (old.get? app).isNone ∧ app ≠ "" then
    { nextOpenSets := s.nextOpenSets.set app pids
      rollingOpen := insert app s.rollingOpen
      missingCounts := missing
      events := s.events ++
        [⟨.appOpen, app, 0, pids.card, s.rollingOpen, insert app s.rollingOpen⟩] }
  else
    { s with
      nextOpenSets := s.nextOpenSets.set app pids
      missingCounts := missing }

def closeTurn (grace : ℤ) (s : Loop) (app : String) : Loop :=
  if app = "" then s
  else
    let missing := s.missingCounts app + 1
    if (missing : ℤ) ≥ max 1 grace then
      { nextOpenSets := s.nextOpenSets.erase app
        rollingOpen := s.rollingOpen.erase app
        missingCounts := Function.update s.missingCounts app missing
        events := s.events ++
          [⟨.appClose, app, ((old.get? app).getD ∅).card, 0, s.rollingOpen,
            s.rollingOpen.erase app⟩] }
    else
      { s with
        nextOpenSets := s.nextOpenSets.set app ∅
        missingCounts := Function.update s.missingCounts app missing }

def appLoops (b : LifecycleEventBuilder) : Loop :=
  let start : Loop :=
    { nextOpenSets := b.appPidSets
      rollingOpen := keySet b.appPidSets
      missingCounts := b.missingCounts }
  let opened := (sortedKeys current).foldl (openTurn b.appPidSets current) start
  (sortedWithout b.appPidSets current).foldl (closeTurn b.appPidSets b.closeGraceWindows) opened

end

/-- `build_all`: the first sample is the silent baseline of the applications. -/
def buildAll (b : LifecycleEventBuilder) (samples : List ProcessSample) :
    (List ProcessEvent × List LifecycleEvent) × LifecycleEventBuilder :=
  let byApp := currentByApp samples
  let current := currentMeta samples
  let processes := allProcessEvents b current
  let b' :=
    { b with
      pidMeta := current
      baselineEmitted := b.baselineEmitted || !b.pidMeta.items.isEmpty }
  if b.appLifecycleActive then
    let loops := appLoops byApp b
    ((processes, loops.events),
      { b' with appPidSets := loops.nextOpenSets, missingCounts := loops.missingCounts })
  else ((processes, []), { b' with appLifecycleActive := true, appPidSets := byApp })

end Parp.Lifecycle
