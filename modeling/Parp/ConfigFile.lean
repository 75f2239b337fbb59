import Parp.ControlFile

set_option autoImplicit false

/-!
# The configuration

`parseConfig` of `io.hpp`: sections, keys and the paths of the applications. How an option is set,
and the checks before those of the paths, may be any functions of the options and the applications.
-/
namespace Parp.ConfigFile

open Memshift Delimited FallibleFolds List
open ControlFile (assignment)

/-- One character for each byte. -/
def safeRelative (s : Text) : Bool :=
  !(s = [] || 4096 < s.length || s.head? = some '/' || s.getLast? = some '/') &&
    s.all (fun c => !(c.toNat < 32 || c.toNat = 127)) &&
    (getlines '/' s).all fun p =>
      !(p = [] || p = text "." || p = text ".." || p.contains '\n' || p.contains '\r')

def ancestor (a b : Text) : Bool :=
  a = b || (decide (a.length < b.length) && b.take a.length = a && b[a.length]? = some '/')

section

structure App where
  name : Text
  path : Text := []
  reclaim : Bool := false
  keep : Bytes := 256 * MiB
  wpsWindowGate : Bool := false
  priority : ℤ := 0
  deriving DecidableEq

/-- `std::stoi`: the number and how much of the text it took, or an exception. -/
def stoi (v : Text) : Option (ℤ × ℕ) :=
  let s := v.dropWhile fun c => c = ' ' || (9 ≤ c.toNat && c.toNat ≤ 13)
  let signed := s.head? = some '-' || s.head? = some '+'
  let digits := (if signed then s.tail else s).takeWhile Char.isDigit
  let n : ℤ := if s.head? = some '-' then -(decimal digits : ℤ) else decimal digits
  if digits = [] ∨ n < -2147483648 ∨ 2147483647 < n then none
  else some (n, v.length - s.length + (if signed then 1 else 0) + digits.length)

def priorityValue (v : Text) : Except Text ℤ :=
  let (p, n) := (stoi v).getD (0, 0)
  if n ≠ v.length ∨ p < -1000 ∨ 1000 < p then .error (text "priority: integer -1000..1000")
  else .ok p

def setAppKey (app : App) (k v : Text) : Except Text App :=
  if k = text "path" then return { app with path := v }
  else if k = text "reclaim" then return { app with reclaim := ← boolValue v }
  else if k = text "wps_window_gate" then return { app with wpsWindowGate := ← boolValue v }
  else if k = text "min_keep_mb" then return { app with keep := ← mbValue v }
  else if k = text "priority" then return { app with priority := ← priorityValue v }
  else .error (text "unknown app key: " ++ k)

variable {Options : Type}

/-- `app` is the position of the application whose section it is. -/
structure Parse (Options : Type) where
  options : Options
  apps : List App := []
  app : Option ℕ := none
  seen : List Text := []
  «section» : Text := text "daemon"

def Parse.enter (s : Parse Options) (name : Text) : Except Text (Parse Options) :=
  if name = text "daemon" then .ok { s with app := none, «section» := text "daemon" }
  else if (text "app ").isPrefixOf name then
    let name := trim (name.drop 4)
    if !safeName name then .error (text "invalid app name")
    else if s.apps.any fun a => a.name = name then .error (text "duplicate app name")
    else .ok { s with
      apps := s.apps ++ [{ name := name }]
      app := some s.apps.length
      «section» := text "app:" ++ name }
  else .error (text "unknown section: " ++ name)

def Parse.assign (setOption : Options → Text → Text → Except Text Options) (s : Parse Options)
    (line : Text) : Except Text (Parse Options) := do
  let (k, v) ← assignment line
  if s.seen.contains (s.section ++ ':' :: k) then .error (text "duplicate key: " ++ k)
  else
    let s := { s with seen := (s.section ++ ':' :: k) :: s.seen }
    match s.app with
    | none => return { s with options := ← setOption s.options k v }
    | some i =>
      match s.apps[i]? with
      | none => return s
      | some app => return { s with apps := s.apps.set i (← setAppKey app k v) }

def Parse.line (setOption : Options → Text → Text → Except Text Options) (s : Parse Options)
    (line : Text) : Except Text (Parse Options) :=
  let line := trim line
  if line = [] ∨ line.head? = some '#' ∨ line.head? = some ';' then .ok s
  else if line.head? = some '[' ∧ line.getLast? = some ']' then s.enter (trim line.tail.dropLast)
  else s.assign setOption line

def checkOverlap (app : App) : List App → Except Text Unit
  | [] => .ok ()
  | other :: earlier =>
    if !ancestor app.path other.path && !ancestor other.path app.path then checkOverlap app earlier
    else .error (text "overlapping app cgroups are forbidden")

def checkPaths (earlier : List App) : List App → Except Text Unit
  | [] => .ok ()
  | app :: apps => do
    if safeRelative app.path then
      checkOverlap app earlier
      checkPaths (earlier ++ [app]) apps
    else .error (text "app path must be non-root, relative, without ..")

structure Configuration (Options : Type) where
  options : Options
  apps : List App
  deriving DecidableEq

def parseConfig (init : Options) (setOption : Options → Text → Text → Except Text Options)
    (check : Options → List App → Except Text Unit) (s : Text) :
    Except Text (Configuration Options) := do
  let c ← (getlines '\n' s).foldlM (Parse.line setOption) { options := init }
  check c.options c.apps
  if c.apps = [] then .error (text "configure at least one [app NAME]")
  else
    checkPaths [] c.apps
    return ⟨c.options, c.apps⟩

end

/-- The cgroups from the root to that of a path. -/
def components (path : Text) : List Text := path.splitOn '/'

structure SafePath (path : Text) : Prop where
  nonempty : path ≠ []
  relative : path.head? ≠ some '/'
  printable : ∀ c ∈ path, 32 ≤ c.toNat ∧ c.toNat ≠ 127
  components : ∀ p ∈ components path, p ≠ [] ∧ p ≠ text "." ∧ p ≠ text ".."

/-- The cgroup of one path is that of the other or contains it. -/
def Contains (a b : Text) : Prop := components a <+: components b

theorem ancestor_of_contains {a b : Text} (h : Contains a b) : ancestor a b = true := by
  obtain ⟨rest, hrest⟩ := h
  have ha : ['/'].intercalate (a.splitOn '/') = a := intercalate_splitOn '/'
  have hb : ['/'].intercalate (b.splitOn '/') = b := intercalate_splitOn '/'
  unfold components at hrest
  rw [← hrest] at hb
  cases rest with
  | nil =>
    rw [append_nil, ha] at hb
    unfold ancestor
    rw [hb]
    simp
  | cons p rest =>
    have hsplit : b = a ++ '/' :: List.intercalate ['/'] (p :: rest) := by
      rw [← hb, intercalate_append _ (splitOn_ne_nil _ _) (cons_ne_nil _ _), ha,
        append_assoc]
      rfl
    unfold ancestor
    rw [hsplit]
    simp

theorem safePath_of_safeRelative {s : Text} (h : safeRelative s = true) : SafePath s := by
  unfold safeRelative at h
  simp only [Bool.and_eq_true, Bool.not_eq_true', Bool.or_eq_false_iff, decide_eq_false_iff_not,
    all_eq_true] at h
  obtain ⟨⟨⟨⟨⟨hne, -⟩, hhead⟩, hlast⟩, hchars⟩, hpieces⟩ := h
  refine ⟨hne, hhead, fun c hc => ?_, fun p hp => ?_⟩
  · obtain ⟨hlow, hdel⟩ := hchars c hc
    exact ⟨Nat.not_lt.1 hlow, hdel⟩
  · rw [components, ← getlines_eq_splitOn hne hlast] at hp
    obtain ⟨⟨⟨⟨hempty, hdot⟩, hdots⟩, -⟩, -⟩ := hpieces p hp
    exact ⟨hempty, hdot, hdots⟩

/-- The paths are safe, and no cgroup of the list is or contains another one. -/
structure Disjoint (apps : List App) : Prop where
  safe : ∀ app ∈ apps, SafePath app.path
  apart : apps.Pairwise fun a b => ¬ Contains a.path b.path ∧ ¬ Contains b.path a.path

theorem checkOverlap_ok {app : App} {earlier : List App} (h : checkOverlap app earlier = .ok ()) :
    ∀ other ∈ earlier, ¬ Contains app.path other.path ∧ ¬ Contains other.path app.path := by
  induction earlier with
  | nil => exact nofun
  | cons other earlier ih =>
    unfold checkOverlap at h
    split_ifs at h with hnone
    simp only [Bool.and_eq_true, Bool.not_eq_true'] at hnone
    intro another hmem
    rcases mem_cons.1 hmem with rfl | hmem
    · constructor
      · intro hcontains
        rw [ancestor_of_contains hcontains] at hnone
        cases hnone.1
      · intro hcontains
        rw [ancestor_of_contains hcontains] at hnone
        cases hnone.2
    · exact ih h another hmem

theorem checkPaths_ok {earlier apps : List App} (hearlier : Disjoint earlier)
    (h : checkPaths earlier apps = .ok ()) : Disjoint (earlier ++ apps) := by
  induction apps generalizing earlier with
  | nil => rwa [append_nil]
  | cons app apps ih =>
    unfold checkPaths at h
    split_ifs at h with hsafe
    obtain ⟨_, hoverlap, hrest⟩ := bind_eq_ok.1 h
    have happart := checkOverlap_ok hoverlap
    have hgrown : Disjoint (earlier ++ [app]) := by
      refine ⟨fun other hmem => ?_, ?_⟩
      · rcases mem_append.1 hmem with hmem | hmem
        · exact hearlier.safe other hmem
        · rw [mem_singleton.1 hmem]
          exact safePath_of_safeRelative hsafe
      · rw [pairwise_append]
        refine ⟨hearlier.apart, pairwise_singleton _ _, fun other hmem b hb => ?_⟩
        rw [mem_singleton.1 hb]
        exact (happart other hmem).symm
    have hall := ih hgrown hrest
    rwa [append_assoc] at hall

/-- Whatever the options and the checks before, the cgroups of an accepted configuration are safe
and disjoint. -/
theorem accepted_cgroups_disjoint {Options : Type} {init : Options}
    {setOption : Options → Text → Text → Except Text Options}
    {check : Options → List App → Except Text Unit} {s : Text} {c : Configuration Options}
    (h : parseConfig init setOption check s = .ok c) : Disjoint c.apps := by
  unfold parseConfig at h
  obtain ⟨parsed, -, h⟩ := bind_eq_ok.1 h
  obtain ⟨_, -, h⟩ := bind_eq_ok.1 h
  split_ifs at h with hsome
  obtain ⟨_, hpaths, h⟩ := bind_eq_ok.1 h
  cases h
  exact @checkPaths_ok [] parsed.apps ⟨nofun, .nil⟩ hpaths

theorem two_apps_disjoint : Disjoint
    [{ name := text "mail", path := text "100/mail" },
      { name := text "maps", path := text "100/mail2", reclaim := true }] :=
  @accepted_cgroups_disjoint Unit () (fun o _ _ => .ok o) (fun _ _ => .ok ())
    (text "[app mail]\npath=100/mail\n[app maps]\n path = 100/mail2\nreclaim=true\n") ⟨(), _⟩
    (by decide +kernel)

end Parp.ConfigFile
