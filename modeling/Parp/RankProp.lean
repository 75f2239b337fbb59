import Mathlib.Data.Finset.Insert
import Mathlib.Data.List.Sort
import Parp.OrderedDict

set_option autoImplicit false

/-!
# RankProp

The online eviction ranking `RankProp::operator()`, with what it leaves behind when it throws. The
two TorchScript models are functions of their input tensors; `log1p` and the local time come from the
C library.
-/
namespace Parp.RankProp

open OrderedDict

def kDClip : ℤ := 16
def kTauAlpha : Float := 10
def kContextLen : ℕ := 32
def kMaxCandidates : ℕ := 30
def kMinPriorLaunches : ℤ := 5
def kPadId : ℤ := 30
def kUnknownId : ℤ := 31

def kFallback : List Float :=
  [2.2028586864471436, 2.2028586864471436, 3.879014253616333, 5.1150288581848145,
    6.1883420944213867, 7.1914224624633789, 8.107762336730957, 9.0026254653930664,
    9.8745288848876953, 10.720720291137695, 11.511977195739746, 12.305873870849609,
    13.107514381408691, 13.897029876708984, 14.595070838928223, 15.29007625579834, 16]

def kVocab : List (String × ℤ) :=
  [("Firefox", 0), ("LibreOffice", 1), ("VLC", 2), ("GIMP", 3), ("Audacity", 4),
    ("Thunderbird", 5), ("Evince", 6), ("Files", 7), ("Calculator", 8), ("Calendar", 9),
    ("Rhythmbox", 10), ("ImageViewer", 11), ("Shotwell", 12), ("SystemMonitor", 13),
    ("Solitaire", 14), ("Falkon", 15), ("Konqueror", 16), ("Pidgin", 17), ("Gajim", 18),
    ("Dino", 19), ("PsiPlus", 20), ("Kaidan", 21), ("GNOMESoftware", 22), ("Evolution", 23),
    ("ClawsMail", 24), ("GNOMEClocks", 25), ("GNOMEContacts", 26), ("Marble", 27),
    ("GNOMEMines", 28), ("GNOMEControlCenter", 29), ("<PAD>", 30), ("<UNKNOWN>", 31)]

/-- What `RankProp` calls outside its own code. -/
structure Environment where
  predictor : List ℤ → List Float32 → List Bool → Float32 × Float32
  ranker : List (List Float32) → List Bool → Float32 → Float32 → (ℕ → Float32) × (ℕ → Float32)
  log1p : Float → Float
  /-- Hour, minute and second of `localtime_r`. -/
  localtime : Int64 → ℕ × ℕ × ℕ

structure Prediction where
  dHatFin : Float32 := 0
  pNr : Float32 := 0
  eligible : Bool := false
  evidenceCount : ℤ := 0

structure AppState where
  prediction : Prediction := {}
  distinctAge : ℤ := 0
  interveners : Finset String := ∅
  launchCount : ℤ := 0
  lastLaunchSeq : ℤ := -1

structure Impl where
  states : Dict String AppState := ∅
  historyApps : List String := []
  historyTs : List Float := []
  seq : ℤ := 0
  lastTimestamp : Float := -(1.0 / 0.0)

structure RankPropResult where
  app : String
  evictionRank : ℕ
  evictionScore : Float32
  baseScore : Float32
  delta : Float32
  rho : Float32
  expectedDistance : Float32
  distinctAge : ℤ
  eligible : Bool
  dHatFin : Float32
  pNr : Float32

structure Call where
  currentApp : String
  openedApps : List String
  timestamp : Float
  pressure : Float32 := 0
  reclaimTarget : Float32 := 0

/-- `std::max` and `std::min`: the first argument unless the second is beyond it. -/
def maxOf {α : Type} [LT α] [DecidableLT α] (a b : α) : α := if a < b then b else a

def minOf {α : Type} [LT α] [DecidableLT α] (a b : α) : α := if b < a then b else a

def clip01 (x : Float32) : Float32 := maxOf 0 (minOf 1 x)

def tokenId (app : String) : ℤ := ((kVocab.find? fun kv => kv.1 = app).map Prod.snd).getD kUnknownId

def fallbackScore (age : ℤ) : Float32 :=
  (kFallback.getD (max 0 (min kDClip age)).toNat 0).toFloat32

def alphaFromCount (n : ℤ) : Float32 :=
  let n := Float.ofInt (max 0 n)
  (n / (n + kTauAlpha)).toFloat32

def modelFutureScore (p : Prediction) : Float32 :=
  let dc := Float32.ofInt kDClip
  let dnr := dc + 1
  let d := maxOf 0 (minOf dc p.dHatFin)
  let nr := clip01 p.pNr
  (1 - nr) * d + nr * dnr

structure Calibrated where
  rho : Float32
  alpha : Float32
  fallback : Float32

def calibratedScore (p : Prediction) (age : ℤ) : Calibrated :=
  let b := fallbackScore age
  let a := alphaFromCount p.evidenceCount
  let m := modelFutureScore p
  let xi : Float32 := if p.eligible then 1 else 0
  ⟨b + xi * a * (m - b), a, b⟩

variable (env : Environment)

def timeOfDay (timestamp : Float) : Float32 :=
  let (hour, minute, second) := env.localtime timestamp.toInt64
  (Float.ofNat (hour * 3600 + minute * 60 + second) / 86400.0).toFloat32

def lastContext {α : Type} (l : List α) : List α := l.drop (l.length - kContextLen)

def gapOf (previous : Option Float) (ts : Float) : Float32 :=
  match previous with
  | none => 0
  | some previous =>
    let g := maxOf 0 (ts - previous)
    (minOf 1 (env.log1p g / env.log1p (7.0 * 24.0 * 3600.0))).toFloat32

def evidenceOf (launchCount : ℤ) : Float32 :=
  if launchCount = 0 then 0
  else (Float.ofInt launchCount / (Float.ofInt launchCount + 10.0)).toFloat32

def numericRows (launchCount : ℤ) : Option Float → List Float → List Float32
  | _, [] => []
  | previous, ts :: rest =>
    [timeOfDay env ts, gapOf env previous ts, if rest = [] then evidenceOf launchCount else 0] ++
      numericRows launchCount (some ts) rest

def predictRelaunch (s : Impl) (app : String) (launchCount : ℤ) (timestamp : Float) :
    Prediction :=
  let apps := lastContext (s.historyApps ++ [app])
  let ts := lastContext (s.historyTs ++ [timestamp])
  let pad := kContextLen - apps.length
  let tokens := List.replicate pad kPadId ++ apps.map tokenId
  let numeric := List.replicate (pad * 3) 0 ++ numericRows env launchCount none ts
  let mask := List.replicate pad false ++ apps.map fun _ => true
  let (d, logit) := env.predictor tokens numeric mask
  { dHatFin := d
    pNr := 1 / (1 + Float32.exp (-logit))
    eligible := tokenId app ≠ kUnknownId && kMinPriorLaunches ≤ launchCount
    evidenceCount := launchCount }

def Impl.stateOf (s : Impl) (app : String) : AppState := (s.states.get? app).getD {}

/-- `states.try_emplace(app)` -/
def tryEmplace (states : Dict String AppState) (app : String) : Dict String AppState :=
  if (states.get? app).isSome then states else states.set app {}

/-- The loop over the opened applications: every one before an entry that is refused has its state. -/
def admitOpened : List String → List String → Dict String AppState →
    Dict String AppState × Except String (List String)
  | [], resident, states => (states, .ok resident)
  | app :: rest, resident, states =>
    if app = "" then (states, .error "RankProp: empty opened app")
    else if app ∈ resident then (states, .error ("RankProp: duplicate opened app: " ++ app))
    else admitOpened rest (resident ++ [app]) (tryEmplace states app)

def AppState.intervene (state : AppState) (currentApp : String) : AppState :=
  if currentApp ∈ state.interveners then state
  else
    { state with
      interveners := insert currentApp state.interveners
      distinctAge := state.distinctAge + 1 }

def Impl.intervene (s : Impl) (currentApp : String) (background : List String) : Impl :=
  background.foldl
    (fun s app => { s with states := s.states.set app ((s.stateOf app).intervene currentApp) }) s

def Impl.launch (s : Impl) (currentApp : String) (timestamp : Float) : Impl :=
  let cur := s.stateOf currentApp
  { s with
    states := s.states.set currentApp
      { prediction := predictRelaunch env s currentApp cur.launchCount timestamp
        distinctAge := 0
        interveners := ∅
        launchCount := cur.launchCount + 1
        lastLaunchSeq := s.seq }
    seq := s.seq + 1
    historyApps := lastContext (s.historyApps ++ [currentApp])
    historyTs := lastContext (s.historyTs ++ [timestamp]) }

def Impl.candidates (s : Impl) (background : List String) : List String :=
  background.insertionSort fun a b =>
    (s.stateOf a).lastLaunchSeq < (s.stateOf b).lastLaunchSeq ∨
      (s.stateOf a).lastLaunchSeq = (s.stateOf b).lastLaunchSeq ∧ a ≤ b

def Impl.rho (s : Impl) (app : String) : Float32 :=
  let state := s.stateOf app
  minOf (Float32.ofInt kDClip) (calibratedScore state.prediction state.distinctAge).rho

/-- The nine features of the `i`-th of `n` candidates. -/
def Impl.features (s : Impl) (n i : ℕ) (app : String) : List Float32 :=
  let state := s.stateOf app
  let dc := Float32.ofInt kDClip
  let dnr := dc + 1
  let c := calibratedScore state.prediction state.distinctAge
  [clip01 (s.rho app / dnr),
    clip01 (modelFutureScore state.prediction / dnr),
    clip01 (state.prediction.dHatFin / dc),
    clip01 state.prediction.pNr,
    clip01 c.alpha,
    clip01 (Float32.ofInt (min state.distinctAge kDClip) / dc),
    clip01 (c.fallback / dc),
    if state.prediction.eligible then 1 else 0,
    if n ≤ 1 then 1 else 1 - Float32.ofNat i / Float32.ofNat (n - 1)]

def Impl.rank (s : Impl) (candidates : List String) (pressure reclaimTarget : Float32) :
    List RankPropResult :=
  let n := candidates.length
  let rows := candidates.mapIdx fun i app => s.features n i app
  let (scores, deltas) := env.ranker rows (List.replicate n true) pressure reclaimTarget
  let order := (List.range n).insertionSort fun a b => ¬ scores a < scores b
  order.mapIdx fun rank i =>
    let app := candidates.getD i ""
    let state := s.stateOf app
    { app
      evictionRank := rank
      evictionScore := scores i
      baseScore := (rows.getD i []).getD 0 0
      delta := deltas i
      rho := s.rho app
      expectedDistance := s.rho app
      distinctAge := state.distinctAge
      eligible := state.prediction.eligible
      dHatFin := state.prediction.dHatFin
      pNr := state.prediction.pNr }

def Impl.switched (s : Impl) (c : Call) (resident : List String) : Impl :=
  (({ s with states := tryEmplace s.states c.currentApp }).intervene c.currentApp
    (resident.filter fun app => app ≠ c.currentApp)).launch env c.currentApp c.timestamp

def Impl.respond (s : Impl) (c : Call) (resident : List String) :
    Impl × Except String (List RankPropResult) :=
  let s := s.switched env c resident
  let candidates := s.candidates (resident.filter fun app => app ≠ c.currentApp)
  if candidates = [] then (s, .ok [])
  else if kMaxCandidates < candidates.length then (s, .error "RankProp: too many candidates")
  else (s, .ok (s.rank env candidates (clip01 c.pressure) (clip01 c.reclaimTarget)))

/-- `RankProp::operator()` -/
def Impl.call (s : Impl) (c : Call) : Impl × Except String (List RankPropResult) :=
  if c.currentApp = "" then (s, .error "RankProp: current_app empty")
  else if !c.timestamp.isFinite then (s, .error "RankProp: invalid timestamp")
  else if c.timestamp < s.lastTimestamp then
    (s, .error "RankProp: timestamp must be nondecreasing")
  else
    let admitted := admitOpened c.openedApps [] s.states
    let s := { s with lastTimestamp := c.timestamp, states := admitted.1 }
    match admitted.2 with
    | .error e => (s, .error e)
    | .ok resident => s.respond env c resident

def Impl.outcomes (s : Impl) : List Call → List (Except String (List RankPropResult))
  | [] => []
  | c :: calls => (s.call env c).2 :: Impl.outcomes (s.call env c).1 calls

def Impl.run (s : Impl) (calls : List Call) : Impl :=
  calls.foldl (fun s c => (s.call env c).1) s

end Parp.RankProp

/-!
# Failed calls of RankProp
-/
namespace Parp.RankProp

open OrderedDict

def refused : List String → List String → Option (List String)
  | [], _ => none
  | app :: rest, seen =>
    if app = "" ∨ app ∈ seen then some seen else refused rest (seen ++ [app])

def Harmless (s : Impl) (c : Call) : Prop :=
  c.currentApp = "" ∨ c.timestamp.isFinite = false ∨ c.timestamp < s.lastTimestamp ∨
    match refused c.openedApps [] with
    | some known => c.timestamp = s.lastTimestamp ∧ ∀ app ∈ known, (s.states.get? app).isSome
    | none => (c.openedApps.filter fun app => app ≠ c.currentApp).length ≤ kMaxCandidates

variable (env : Environment)

def KeepsOnFailure (s : Impl) (c : Call) : Prop :=
  ∀ e, (s.call env c).2 = .error e → (s.call env c).1 = s ∧
    ∀ later, (s.call env c).1.outcomes env later = s.outcomes env later

def emplaced (states : Dict String AppState) (apps : List String) : Dict String AppState :=
  apps.foldl tryEmplace states

variable (states : Dict String AppState) (apps : List String) (app : String)

theorem emplaced_concat :
    emplaced states (apps ++ [app]) = tryEmplace (emplaced states apps) app := by
  simp [emplaced]

theorem admit_refused {opened seen known : List String} (states : Dict String AppState)
    (h : refused opened seen = some known) :
    ∃ e, admitOpened opened seen (emplaced states seen) = (emplaced states known, .error e) := by
  induction opened generalizing seen with
  | nil => cases h
  | cons app rest ih =>
    unfold refused at h
    unfold admitOpened
    by_cases hempty : app = ""
    · rw [if_pos (.inl hempty)] at h
      cases h
      exact ⟨_, if_pos hempty⟩
    · rw [if_neg hempty]
      by_cases hseen : app ∈ seen
      · rw [if_pos (.inr hseen)] at h
        cases h
        exact ⟨_, if_pos hseen⟩
      · rw [if_neg (by simp [hempty, hseen])] at h
        rw [if_neg hseen, ← emplaced_concat]
        exact ih h

theorem admit_all {opened seen : List String} (states : Dict String AppState)
    (h : refused opened seen = none) :
    admitOpened opened seen (emplaced states seen) =
      (emplaced states (seen ++ opened), .ok (seen ++ opened)) := by
  induction opened generalizing seen with
  | nil => simp [admitOpened]
  | cons app rest ih =>
    unfold refused at h
    by_cases hrefused : app = "" ∨ app ∈ seen
    · rw [if_pos hrefused] at h
      cases h
    · rw [if_neg hrefused] at h
      unfold admitOpened
      rw [if_neg fun hempty => hrefused (.inl hempty),
        if_neg fun hseen => hrefused (.inr hseen), ← emplaced_concat, ih h]
      simp

theorem tryEmplace_isSome (app app' : String) :
    ((tryEmplace states app).get? app').isSome = ((states.get? app').isSome || app' = app) := by
  unfold tryEmplace
  by_cases happ : app' = app
  · subst happ
    split_ifs with hknown
    · simp [hknown]
    · simp [Dict.get?_set]
  · split_ifs
    · simp [happ]
    · simp [Dict.get?_set, happ]

theorem emplaced_isSome :
    ((emplaced states apps).get? app).isSome = ((states.get? app).isSome || app ∈ apps) := by
  induction apps generalizing states with
  | nil => simp [emplaced]
  | cons first rest ih =>
    change ((emplaced (tryEmplace states first) rest).get? app).isSome = _
    rw [ih, tryEmplace_isSome]
    simp [Bool.or_assoc]

theorem emplaced_eq_iff :
    emplaced states apps = states ↔ ∀ app ∈ apps, (states.get? app).isSome := by
  constructor
  · intro h app happ
    rw [← h, emplaced_isSome]
    simp [happ]
  · intro h
    induction apps with
    | nil => rfl
    | cons app rest ih =>
      have hknown : tryEmplace states app = states := if_pos (h app (.head _))
      change emplaced (tryEmplace states app) rest = states
      rw [hknown]
      exact ih fun app' happ' => h app' (.tail _ happ')

theorem intervene_seq (s : Impl) (currentApp : String) (background : List String) :
    (s.intervene currentApp background).seq = s.seq := by
  unfold Impl.intervene
  induction background generalizing s with
  | nil => rfl
  | cons app rest ih => exact ih _

theorem switched_seq (s : Impl) (c : Call) (resident : List String) :
    (s.switched env c resident).seq = s.seq + 1 := by
  change (Impl.intervene _ _ _).seq + 1 = _
  rw [intervene_seq]

theorem candidates_length (s : Impl) (background : List String) :
    (s.candidates background).length = background.length := List.length_insertionSort ..

section

variable {s : Impl} {c : Call} {resident : List String}

theorem respond_returns
    (h : (resident.filter fun app => app ≠ c.currentApp).length ≤ kMaxCandidates) :
    ∃ results, (s.respond env c resident).2 = .ok results := by
  unfold Impl.respond
  dsimp only
  rw [candidates_length]
  split_ifs with hnone hmany
  · exact ⟨_, rfl⟩
  · exact absurd h (by omega)
  · exact ⟨_, rfl⟩

theorem respond_throws
    (h : kMaxCandidates < (resident.filter fun app => app ≠ c.currentApp).length) :
    s.respond env c resident =
      (s.switched env c resident, .error "RankProp: too many candidates") := by
  unfold Impl.respond
  dsimp only
  have hsome : (s.switched env c resident).candidates
      (resident.filter fun app => app ≠ c.currentApp) ≠ [] := by
    intro hnone
    have hlength := candidates_length (s.switched env c resident)
      (resident.filter fun app => app ≠ c.currentApp)
    rw [hnone] at hlength
    rw [← hlength] at h
    exact absurd h (by decide)
  rw [if_neg hsome, if_pos (by rwa [candidates_length])]

end

theorem keepsOnFailure_of_same {s : Impl} {c : Call} (h : (s.call env c).1 = s) :
    KeepsOnFailure env s c := by
  intro e he
  rw [h]
  exact ⟨rfl, fun later => rfl⟩

section

variable {s : Impl} {c : Call} (hcurrent : c.currentApp ≠ "") (hfinite : c.timestamp.isFinite = true)
  (htime : ¬ c.timestamp < s.lastTimestamp)

include hcurrent hfinite htime

theorem call_refused {known : List String} (h : refused c.openedApps [] = some known) :
    ∃ e, s.call env c =
      ({ s with lastTimestamp := c.timestamp, states := emplaced s.states known }, .error e) := by
  obtain ⟨e, hadmit⟩ := admit_refused s.states h
  change admitOpened c.openedApps [] s.states = _ at hadmit
  refine ⟨e, ?_⟩
  unfold Impl.call
  rw [if_neg hcurrent, if_neg (by simp [hfinite]), if_neg htime, hadmit]

theorem call_admitted (h : refused c.openedApps [] = none) :
    s.call env c =
      ({ s with
          lastTimestamp := c.timestamp
          states := emplaced s.states c.openedApps } : Impl).respond env c c.openedApps := by
  have hadmit := admit_all s.states h
  change admitOpened c.openedApps [] s.states = _ at hadmit
  unfold Impl.call
  rw [if_neg hcurrent, if_neg (by simp [hfinite]), if_neg htime, hadmit]
  rfl

theorem refused_keeps_iff {known : List String} (h : refused c.openedApps [] = some known) :
    KeepsOnFailure env s c ↔ c.timestamp = s.lastTimestamp ∧
      ∀ app ∈ known, (s.states.get? app).isSome := by
  obtain ⟨e, hcall⟩ := call_refused env hcurrent hfinite htime h
  rw [← emplaced_eq_iff]
  constructor
  · intro hkeeps
    obtain ⟨hsame, -⟩ := hkeeps e (by rw [hcall])
    rw [hcall] at hsame
    exact ⟨congrArg Impl.lastTimestamp hsame, congrArg Impl.states hsame⟩
  · rintro ⟨hlast, hstates⟩
    apply keepsOnFailure_of_same
    rw [hcall, hstates, hlast]

theorem admitted_keeps_iff (h : refused c.openedApps [] = none) :
    KeepsOnFailure env s c ↔
      (c.openedApps.filter fun app => app ≠ c.currentApp).length ≤ kMaxCandidates := by
  have hcall := call_admitted env hcurrent hfinite htime h
  constructor
  · intro hkeeps
    by_contra hmany
    rw [not_le] at hmany
    rw [respond_throws env hmany] at hcall
    obtain ⟨hsame, -⟩ := hkeeps _ (by rw [hcall])
    rw [hcall] at hsame
    have hseq := congrArg Impl.seq hsame
    dsimp only at hseq
    rw [switched_seq] at hseq
    dsimp only at hseq
    omega
  · intro hfew e he
    obtain ⟨results, hreturns⟩ := respond_returns env
      (s := { s with
        lastTimestamp := c.timestamp
        states := emplaced s.states c.openedApps }) hfew
    rw [hcall, hreturns] at he
    cases he

end

/-- A failed call leaves the state as it was iff the call is harmless. -/
theorem keeps_on_failure_iff (s : Impl) (c : Call) : KeepsOnFailure env s c ↔ Harmless s c := by
  by_cases hcurrent : c.currentApp = ""
  · refine ⟨fun _ => .inl hcurrent, fun _ => keepsOnFailure_of_same env ?_⟩
    unfold Impl.call
    rw [if_pos hcurrent]
  cases hfinite : c.timestamp.isFinite with
  | false =>
    refine ⟨fun _ => .inr (.inl hfinite), fun _ => keepsOnFailure_of_same env ?_⟩
    unfold Impl.call
    rw [if_neg hcurrent, if_pos (by simp [hfinite])]
  | true =>
    by_cases htime : c.timestamp < s.lastTimestamp
    · refine ⟨fun _ => .inr (.inr (.inl htime)), fun _ => keepsOnFailure_of_same env ?_⟩
      unfold Impl.call
      rw [if_neg hcurrent, if_neg (by simp [hfinite]), if_pos htime]
    · have hharmless : Harmless s c ↔ match refused c.openedApps [] with
          | some known => c.timestamp = s.lastTimestamp ∧
              ∀ app ∈ known, (s.states.get? app).isSome
          | none =>
            (c.openedApps.filter fun app => app ≠ c.currentApp).length ≤ kMaxCandidates := by
        unfold Harmless
        simp only [hcurrent, hfinite, htime, false_or, Bool.true_eq_false]
      rw [hharmless]
      cases hrefused : refused c.openedApps [] with
      | some known => exact refused_keeps_iff env hcurrent hfinite htime hrefused
      | none => exact admitted_keeps_iff env hcurrent hfinite htime hrefused

def blank : Environment where
  predictor _ _ _ := (0, 0)
  ranker _ _ _ _ := (fun _ => 0, fun _ => 0)
  log1p _ := 0
  localtime _ := (0, 0, 0)

/-- The second `VLC` is refused when the timestamp and the state of the first are written. -/
theorem duplicate_leaves_timestamp :
    ¬ ∀ (env : Environment) (calls : List Call) (c : Call),
      KeepsOnFailure env (Impl.run env {} calls) c := by
  intro h
  obtain ⟨e, hcall⟩ := call_refused blank
    (s := {}) (c := { currentApp := "Firefox", openedApps := ["VLC", "VLC"], timestamp := 5 })
    (by decide) (by decide +kernel) (by decide +kernel)
    (show refused ["VLC", "VLC"] [] = some ["VLC"] by decide)
  have hsame := (h blank [] { currentApp := "Firefox", openedApps := ["VLC", "VLC"], timestamp := 5 }
    e (congrArg Prod.snd hcall)).1
  have hlast := congrArg Impl.lastTimestamp ((congrArg Prod.fst hcall).symm.trans hsame)
  change (5 : Float) = -(1.0 / 0.0) at hlast
  revert hlast
  decide +kernel

end Parp.RankProp
