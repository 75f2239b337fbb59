import Parp.KeyedMachines
import Parp.OnlineCausalMarkov

set_option autoImplicit false

namespace Parp.OnlineMarkov

open OrderedDict ConsecutiveTriples KeyedMachines List

theorem total_add (counter : Counter) (workload n : ℤ) :
    (counter.add workload n).total = counter.total + n := by
  unfold Counter.total Counter.add Counter.count Dict.values
  cases hold : counter.get? workload with
  | none =>
    rw [Dict.set_items_new hold, map_append, sum_append]
    simp
  | some count =>
    obtain ⟨left, right, hitems, hset⟩ := Dict.set_items_old hold (count + n)
    rw [Option.getD_some, hset, hitems]
    simp
    omega

theorem count_add (counter : Counter) (workload n workload' : ℤ) :
    (counter.add workload n).count workload' =
      counter.count workload' + if workload' = workload then n else 0 := by
  unfold Counter.add Counter.count
  rw [Dict.get?_set]
  by_cases h : workload' = workload
  · rw [if_pos h, if_pos h, h]
    rfl
  · rw [if_neg h, if_neg h, add_zero]

def Prediction.anonymous (row : Prediction) : Prediction := { row with predictionId := 0 }

def Markov.rowsOf (s : Markov) (key : Key) : List Prediction :=
  s.predictions.values.filter fun row => row.key = key

@[ext]
structure Line where
  window : List ℤ
  counter : Context → Counter
  source : Context → TransitionSource
  rows : List Prediction

def Markov.line (key : Key) (s : Markov) : Line where
  window := s.window key
  counter := s.counter key
  source := fun context =>
    if (key, context) ∈ s.preloadedKeys then .historicalPreload else .onlineIncremental
  rows := (s.rowsOf key).map Prediction.anonymous

section

variable (settings : Settings)

def Prediction.settledBy (w : Sample) (row : Prediction) : Prediction :=
  if row.resolutionStatus = .pending then row.resolve w.workloadId w.timestampNs else row

def Line.update (l : Line) (w : Sample) : Line × Except PyError Unit :=
  match l.window with
  | [prev, current] =>
    let before := l.counter (prev, current)
    let counter := before.add w.workloadId 1
    ({ l with counter := Function.update l.counter (prev, current) counter },
      reportUpdate settings counter (before.total + 1) w)
  | _ => (l, .ok ())

def Line.predict (l : Line) (w : Sample) : Except PyError (Option Prediction) :=
  match l.window with
  | [prev, current] =>
    let counter := l.counter (prev, current)
    match ranked counter with
    | [] => .ok none
    | (nextId, count) :: _ =>
      match trueDivide count counter.total with
      | .error e => .error e
      | .ok confidence =>
        match fixedConfidence confidence with
        | .error e => .error e
        | .ok confidenceFixed =>
          .ok <| some
            { predictionId := 0
              timestampNs := w.timestampNs
              appKey := w.appKey
              key := w.key
              context := (prev, current)
              predictedNextWorkloadId := nextId
              rank := 1
              count
              total := counter.total
              confidence
              confidenceFixed
              transitionSource := l.source (prev, current)
              latestTrainingSampleTimeNs := w.timestampNs
              predictionTimeNs := w.timestampNs }
  | _ => .ok none

def Line.publish (l : Line) (w : Sample) : Except PyError Unit := do
  if settings.hasWriter then
    match l.window with
    | [prev, current] =>
      let counter := l.counter (prev, current)
      if counter.items ≠ [] then
        if !settings.isNumeral w.appId then throw .value
        let _ ← entries counter counter.total
    | _ => pure ()
    if w.cgroupId.isSome && !settings.isNumeral w.appId then throw .value

def Line.advanced (l : Line) (w : Sample) : Line :=
  { (l.update settings w).1 with
    window := lastTwo (l.window ++ [w.workloadId])
    rows := l.rows.map (Prediction.settledBy w) }

def Line.made (l : Line) (w : Sample) : Option Prediction :=
  match (l.update settings w).2 with
  | .error _ => none
  | .ok () =>
    match (l.advanced settings w).predict w with
    | .error _ => none
    | .ok row => row

def Line.observe (l : Line) (w : Sample) : Line :=
  match (l.update settings w).2 with
  | .error _ => { (l.update settings w).1 with rows := l.rows.map (Prediction.settledBy w) }
  | .ok () =>
    { l.advanced settings w with
      rows := l.rows.map (Prediction.settledBy w) ++ (l.made settings w).toList }

def Line.result (l : Line) (w : Sample) : Except PyError (Option Prediction) :=
  match (l.update settings w).2 with
  | .error e => .error e
  | .ok () =>
    match (l.advanced settings w).predict w with
    | .error e => .error e
    | .ok row => ((l.advanced settings w).publish settings w).map fun () => row

end

/-- The ids are the keys of their rows, none is ahead of the sequence, and what is pending under a
key is the pending rows of the key. -/
structure Booked (s : Markov) : Prop where
  ids : ∀ id row, s.predictions.get? id = some row → row.predictionId = id ∧ id ≤ s.predictionSeq
  pending : ∀ key id, id ∈ s.pendingIds key ↔
    ∃ row, s.predictions.get? id = some row ∧ row.key = key ∧ row.resolutionStatus = .pending

section

variable (actual actualTs : ℤ)

theorem resolve_resolve (row : Prediction) :
    (row.resolve actual actualTs).resolve actual actualTs = row.resolve actual actualTs := rfl

theorem settle_frame (s : Markov) (id : ℕ) : ∃ predictions rows,
    s.settle actual actualTs id =
        { s with predictions := predictions, futureInformationRows := rows } ∧
      predictions.items = s.predictions.items.map fun e =>
        (e.1, if e.1 = id then e.2.resolve actual actualTs else e.2) := by
  unfold Markov.settle
  cases hrow : s.predictions.get? id with
  | some row => exact ⟨_, _, rfl, Dict.set_items_map hrow fun row => row.resolve actual actualTs⟩
  | none =>
    refine ⟨s.predictions, s.futureInformationRows, rfl, ?_⟩
    refine ((map_congr_left ?_).trans (map_id _)).symm
    rintro ⟨id', row⟩ hmem
    have hne : id' ≠ id := by
      rintro rfl
      rw [Dict.get?_of_mem hmem] at hrow
      cases hrow
    exact Prod.ext rfl (if_neg hne)

theorem settled_frame (ids : List ℕ) (s : Markov) : ∃ predictions rows,
    ids.foldl (Markov.settle actual actualTs) s =
        { s with predictions := predictions, futureInformationRows := rows } ∧
      predictions.items = s.predictions.items.map fun e =>
        (e.1, if e.1 ∈ ids then e.2.resolve actual actualTs else e.2) := by
  induction ids generalizing s with
  | nil => exact ⟨s.predictions, s.futureInformationRows, rfl, by simp⟩
  | cons id ids ih =>
    obtain ⟨predictions, rows, hstep, hitems⟩ := settle_frame actual actualTs s id
    obtain ⟨predictions', rows', hrest, hitems'⟩ := ih (s.settle actual actualTs id)
    refine ⟨predictions', rows', ?_, ?_⟩
    · rw [foldl_cons, hrest, hstep]
    · rw [hitems', hstep]
      dsimp only
      rw [hitems, map_map]
      apply map_congr_left
      rintro ⟨id', row⟩ -
      by_cases hid : id' = id
      · simp [hid, resolve_resolve]
      · simp [hid]

theorem resolvePending_frame (s : Markov) (key : Key) : ∃ predictions rows,
    s.resolvePending actual actualTs key =
        { s with
          pending := s.pending.erase key
          predictions := predictions
          futureInformationRows := rows } ∧
      predictions.items = s.predictions.items.map fun e =>
        (e.1, if e.1 ∈ s.pendingIds key then e.2.resolve actual actualTs else e.2) :=
  settled_frame actual actualTs (s.pendingIds key) { s with pending := s.pending.erase key }

end

theorem pendingIds_erase (s : Markov) (key key' : Key) (predictions : Dict ℕ Prediction) (rows : ℕ) :
    ({ s with
        pending := s.pending.erase key
        predictions := predictions
        futureInformationRows := rows } : Markov).pendingIds key' =
      if key' = key then [] else s.pendingIds key' := by
  change ((s.pending.erase key).get? key').getD [] = _
  rw [Dict.get?_erase]
  split_ifs <;> rfl

section

variable {s : Markov} (h : Booked s) (w : Sample)

include h

theorem Booked.mem_pending {id : ℕ} {row : Prediction} (hrow : (id, row) ∈ s.predictions.items)
    (key : Key) : id ∈ s.pendingIds key ↔ row.key = key ∧ row.resolutionStatus = .pending := by
  rw [h.pending]
  constructor
  · rintro ⟨row', hget, hkey⟩
    rw [Dict.get?_of_mem hrow] at hget
    cases hget
    exact hkey
  · intro hkey
    exact ⟨row, Dict.get?_of_mem hrow, hkey⟩

theorem Booked.resolved_rows {predictions : Dict ℕ Prediction}
    (hitems : predictions.items = s.predictions.items.map fun e =>
      (e.1, if e.1 ∈ s.pendingIds w.key then e.2.resolve w.workloadId w.timestampNs else e.2)) :
    predictions.items = s.predictions.items.map fun e =>
      (e.1, if e.2.key = w.key then e.2.settledBy w else e.2) := by
  rw [hitems]
  apply map_congr_left
  rintro ⟨id, row⟩ hmem
  have hpending := h.mem_pending hmem w.key
  unfold Prediction.settledBy
  by_cases hkey : row.key = w.key
  · by_cases hstatus : row.resolutionStatus = .pending
    · simp [hpending, hkey, hstatus]
    · simp [hpending, hkey, hstatus]
  · simp [hpending, hkey]

theorem Booked.resolvePending_frame : ∃ predictions rows,
    s.resolvePending w.workloadId w.timestampNs w.key =
        { s with
          pending := s.pending.erase w.key
          predictions := predictions
          futureInformationRows := rows } ∧
      predictions.items = s.predictions.items.map fun e =>
        (e.1, if e.2.key = w.key then e.2.settledBy w else e.2) := by
  obtain ⟨predictions, rows, hstate, hitems⟩ :=
    OnlineMarkov.resolvePending_frame w.workloadId w.timestampNs s w.key
  exact ⟨predictions, rows, hstate, h.resolved_rows w hitems⟩

end

theorem settledBy_key (w : Sample) (row : Prediction) : (row.settledBy w).key = row.key := by
  unfold Prediction.settledBy
  split_ifs <;> rfl

theorem settledBy_id (w : Sample) (row : Prediction) :
    (row.settledBy w).predictionId = row.predictionId := by
  unfold Prediction.settledBy
  split_ifs <;> rfl

theorem settledBy_anonymous (w : Sample) (row : Prediction) :
    (row.settledBy w).anonymous = row.anonymous.settledBy w := by
  unfold Prediction.settledBy
  by_cases h : row.resolutionStatus = .pending
  · rw [if_pos h, if_pos (show row.anonymous.resolutionStatus = .pending from h)]
    rfl
  · rw [if_neg h, if_neg (show ¬ row.anonymous.resolutionStatus = .pending from h)]

theorem settledBy_not_pending (w : Sample) (row : Prediction) :
    (row.settledBy w).resolutionStatus ≠ .pending := by
  unfold Prediction.settledBy
  split_ifs with h
  · nofun
  · exact h

theorem resolved_booked {s : Markov} (h : Booked s) (w : Sample) :
    Booked (s.resolvePending w.workloadId w.timestampNs w.key) := by
  obtain ⟨predictions, rows, hstate, hitems⟩ := h.resolvePending_frame w
  have hget := fun id => Dict.get?_of_map
    (g := fun _ (row : Prediction) => if row.key = w.key then row.settledBy w else row) hitems id
  rw [hstate]
  constructor
  · intro id row hrow
    change predictions.get? id = some row at hrow
    rw [hget] at hrow
    obtain ⟨old, hold, rfl⟩ := Option.map_eq_some_iff.1 hrow
    obtain ⟨hid, hle⟩ := h.ids id old hold
    refine ⟨?_, hle⟩
    rw [← hid]
    split_ifs
    · exact settledBy_id w old
    · rfl
  · intro key id
    rw [pendingIds_erase]
    change _ ↔ ∃ row, predictions.get? id = some row ∧ _
    rw [hget]
    by_cases hkey : key = w.key
    · rw [if_pos hkey]
      constructor
      · intro hmem
        cases hmem
      · rintro ⟨row, hrow, hrowkey, hstatus⟩
        obtain ⟨old, hold, rfl⟩ := Option.map_eq_some_iff.1 hrow
        by_cases hold' : old.key = w.key
        · rw [if_pos hold'] at hstatus
          exact absurd hstatus (settledBy_not_pending w old)
        · rw [if_neg hold'] at hrowkey
          exact absurd (hrowkey.trans hkey) hold'
    · rw [if_neg hkey, h.pending]
      constructor
      · rintro ⟨row, hrow, hrowkey, hstatus⟩
        refine ⟨row, ?_, hrowkey, hstatus⟩
        rw [hrow, Option.map_some, if_neg (by rwa [hrowkey])]
      · rintro ⟨row, hrow, hrowkey, hstatus⟩
        obtain ⟨old, hold, rfl⟩ := Option.map_eq_some_iff.1 hrow
        by_cases hold' : old.key = w.key
        · rw [if_pos hold'] at hstatus
          exact absurd hstatus (settledBy_not_pending w old)
        · rw [if_neg hold'] at hrowkey hstatus
          exact ⟨old, hold, hrowkey, hstatus⟩

theorem resolved_line {s : Markov} (h : Booked s) (w : Sample) (key : Key) :
    (s.resolvePending w.workloadId w.timestampNs w.key).line key =
      if key = w.key then
        { s.line key with rows := (s.line key).rows.map (Prediction.settledBy w) }
      else s.line key := by
  obtain ⟨predictions, rows, hstate, hitems⟩ := h.resolvePending_frame w
  have hrows : (predictions.values.filter fun row => row.key = key).map Prediction.anonymous =
      if key = w.key then (s.line key).rows.map (Prediction.settledBy w) else (s.line key).rows := by
    unfold Markov.line Markov.rowsOf Dict.values
    rw [hitems, map_map, filter_map, filter_map, map_map, map_map,
      map_map]
    have hfilter : ((fun row : Prediction => decide (row.key = key)) ∘ Prod.snd ∘
          fun e : ℕ × Prediction => (e.1, if e.2.key = w.key then e.2.settledBy w else e.2)) =
        (fun row : Prediction => decide (row.key = key)) ∘ Prod.snd := by
      funext e
      dsimp only [Function.comp_apply]
      split_ifs
      · rw [settledBy_key]
      · rfl
    rw [hfilter]
    by_cases hkey : key = w.key
    · rw [if_pos hkey]
      apply map_congr_left
      intro e he
      have hown : e.2.key = w.key := by simpa [hkey] using (mem_filter.1 he).2
      simp [hown, settledBy_anonymous]
    · rw [if_neg hkey]
      dsimp only
      rw [map_map]
      apply map_congr_left
      intro e he
      have hown : e.2.key = key := by simpa using (mem_filter.1 he).2
      have hother : ¬ e.2.key = w.key := by rwa [hown]
      simp [hother]
  rw [hstate]
  change ({ s.line key with
    rows := (predictions.values.filter fun row => row.key = key).map Prediction.anonymous } : Line) = _
  rw [hrows]
  split_ifs <;> rfl

section

variable (settings : Settings)

theorem counter_set (s : Markov) (key : Key) (context : Context) (counter : Counter) (updates : ℕ)
    (key' : Key) :
    ({ s with
        transitions := s.transitions.set (key, context) counter
        totalUpdates := updates } : Markov).counter key' =
      if key' = key then Function.update (s.counter key) context counter else s.counter key' := by
  funext context'
  change ((s.transitions.set (key, context) counter).get? (key', context')).getD ∅ = _
  rw [Dict.get?_set]
  by_cases hkey : key' = key
  · subst hkey
    by_cases hcontext : context' = context
    · simp [hcontext]
    · simp [hcontext, Markov.counter]
  · simp [hkey, Markov.counter]

theorem line_keep (s : Markov) (key key' : Key) :
    s.line key' = if key' = key then s.line key else s.line key' := by
  split_ifs with hkey
  · rw [hkey]
  · rfl

theorem update_frame (s : Markov) (w : Sample) : ∃ transitions updates,
    (s.update settings w).1 = { s with transitions := transitions, totalUpdates := updates } ∧
      (∀ key, (s.update settings w).1.line key =
        if key = w.key then ((s.line w.key).update settings w).1 else s.line key) ∧
      (s.update settings w).2 = ((s.line w.key).update settings w).2 := by
  unfold Markov.update Line.update
  rw [show (s.line w.key).window = s.window w.key from rfl]
  rcases hwindow : s.window w.key with _ | ⟨prev, _ | ⟨current, _ | ⟨third, rest⟩⟩⟩
  · exact ⟨_, _, rfl, line_keep s w.key, rfl⟩
  · exact ⟨_, _, rfl, line_keep s w.key, rfl⟩
  · refine ⟨_, _, rfl, ?_, rfl⟩
    intro key
    have hset := counter_set s w.key (prev, current)
      ((s.counter w.key (prev, current)).add w.workloadId 1) (s.totalUpdates + 1) key
    apply Line.ext
    · split_ifs with hkey
      · rw [hkey]
        exact hwindow
      · rfl
    · refine hset.trans ?_
      split_ifs <;> rfl
    · split_ifs with hkey
      · rw [hkey]
        rfl
      · rfl
    · split_ifs with hkey
      · rw [hkey]
        rfl
      · rfl
  · exact ⟨_, _, rfl, line_keep s w.key, rfl⟩

/-- What `_predict` can do, told by the row that the line makes. -/
inductive PredictCase (s : Markov) (w : Sample) : Except PyError (Option Prediction) →
    Markov × Except PyError (Option Prediction) → Prop
  | raised (e : PyError) {transitions : Dict (Key × Context) Counter} {seq : ℕ}
      (hcounter : ∀ key, ({ s with transitions := transitions } : Markov).counter key = s.counter key)
      (hseq : s.predictionSeq ≤ seq) :
      PredictCase s w (.error e)
        ({ s with transitions := transitions, predictionSeq := seq }, .error e)
  | unknown {transitions : Dict (Key × Context) Counter}
      (hcounter : ∀ key, ({ s with transitions := transitions } : Markov).counter key = s.counter key) :
      PredictCase s w (.ok none) ({ s with transitions := transitions }, .ok none)
  | made {own row : Prediction} {transitions : Dict (Key × Context) Counter} {total : ℕ}
      (hown : own = row.anonymous)
      (hcounter : ∀ key, ({ s with transitions := transitions } : Markov).counter key = s.counter key)
      (hid : row.predictionId = s.predictionSeq + 1) (hkey : row.key = w.key)
      (hstatus : row.resolutionStatus = .pending) :
      PredictCase s w (.ok (some own))
        ({ s with
            transitions := transitions
            predictionSeq := s.predictionSeq + 1
            predictions := s.predictions.set (s.predictionSeq + 1) row
            totalPredictions := total }, .ok (some row))

theorem counter_lookup (s : Markov) (key : Key) (context : Context) (key' : Key) :
    ({ s with
        transitions := s.transitions.set (key, context) (s.counter key context) } : Markov).counter
      key' = s.counter key' := by
  rw [counter_set s key context (s.counter key context) s.totalUpdates key']
  split_ifs with hkey
  · rw [hkey, Function.update_eq_self]
  · rfl

theorem predict_cases (s : Markov) (w : Sample)
    (hlast : s.lastSampleNs.get? w.key = some w.timestampNs) :
    PredictCase s w ((s.line w.key).predict w) (s.predict w.key w.timestampNs w.appKey) := by
  unfold Markov.predict Line.predict
  rw [show (s.line w.key).window = s.window w.key from rfl]
  rcases s.window w.key with _ | ⟨prev, _ | ⟨current, _ | ⟨third, rest⟩⟩⟩
  · exact .unknown fun key => rfl
  · exact .unknown fun key => rfl
  · have hlookup := counter_lookup s w.key (prev, current)
    dsimp only
    rw [show (s.line w.key).counter (prev, current) = s.counter w.key (prev, current) from rfl]
    cases ranked (s.counter w.key (prev, current)) with
    | nil => exact .unknown hlookup
    | cons row rest =>
      dsimp only
      cases trueDivide row.2 (s.counter w.key (prev, current)).total with
      | error e => exact .raised e hlookup (Nat.le_succ _)
      | ok confidence =>
        dsimp only
        cases fixedConfidence confidence with
        | error e => exact .raised e hlookup (Nat.le_succ _)
        | ok confidenceFixed =>
          dsimp only
          rw [hlast]
          exact .made rfl hlookup rfl rfl rfl
  · exact .unknown fun key => rfl

end

theorem update_window (settings : Settings) (l : Line) (w : Sample) :
    (l.update settings w).1.window = l.window := by
  unfold Line.update
  split <;> rfl

/-- How a call leaves the store: the old rows of its key settled, and a row more if it made one. -/
structure Effect (s s' : Markov) (w : Sample) (row : Option Prediction) (l : Line) : Prop where
  booked : Booked s'
  items : s'.predictions.items =
    (s.predictions.items.map fun e => (e.1, if e.2.key = w.key then e.2.settledBy w else e.2)) ++
      row.toList.map fun row => (s.predictionSeq + 1, row)
  seq : s.predictionSeq ≤ s'.predictionSeq
  stored : ∀ r, row = some r → r.predictionId = s.predictionSeq + 1 ∧ r.key = w.key ∧
    r.resolutionStatus = .pending
  line : s'.line w.key = l
  others : ∀ key, key ≠ w.key → s'.line key = s.line key

section

variable (settings : Settings) {s : Markov} (h : Booked s) (w : Sample)

include h

theorem update_effect :
    Effect s ((s.resolvePending w.workloadId w.timestampNs w.key).update settings w).1 w none
        { ((s.line w.key).update settings w).1 with
          rows := (s.line w.key).rows.map (Prediction.settledBy w) } ∧
      ((s.resolvePending w.workloadId w.timestampNs w.key).update settings w).1.predictionSeq =
        s.predictionSeq ∧
      ((s.resolvePending w.workloadId w.timestampNs w.key).update settings w).2 =
        ((s.line w.key).update settings w).2 := by
  have hbooked := resolved_booked h w
  have hline := resolved_line h w
  obtain ⟨predictions, rows, hstate, hitems⟩ := h.resolvePending_frame w
  generalize s.resolvePending w.workloadId w.timestampNs w.key = r at *
  obtain ⟨transitions, updates, hupdated, hmoved, hresult⟩ := update_frame settings r w
  have hown : r.line w.key =
      { s.line w.key with rows := (s.line w.key).rows.map (Prediction.settledBy w) } := by
    rw [hline, if_pos rfl]
  have hupdate : ((r.line w.key).update settings w).2 = ((s.line w.key).update settings w).2 ∧
      ((r.line w.key).update settings w).1 =
        { ((s.line w.key).update settings w).1 with
          rows := (s.line w.key).rows.map (Prediction.settledBy w) } := by
    rw [hown]
    unfold Line.update
    rcases (s.line w.key).window with _ | ⟨prev, _ | ⟨current, _ | ⟨third, rest⟩⟩⟩ <;> exact ⟨rfl, rfl⟩
  refine ⟨⟨?_, ?_, ?_, ?_, ?_, ?_⟩, ?_, ?_⟩
  · rw [hupdated]
    exact ⟨hbooked.ids, hbooked.pending⟩
  · rw [hupdated, hstate]
    change predictions.items = _
    rw [hitems]
    simp
  · exact Nat.le_of_eq (by rw [hupdated, hstate])
  · intro row hrow
    cases hrow
  · rw [hmoved, if_pos rfl, hupdate.2]
  · intro key hkey
    rw [hmoved, if_neg hkey, hline, if_neg hkey]
  · rw [hupdated, hstate]
  · rw [hresult, hupdate.1]

end

theorem advance_line (s : Markov) (w : Sample) (key : Key) :
    (s.advance w).line key =
      if key = w.key then
        { s.line key with window := lastTwo (s.window w.key ++ [w.workloadId]) }
      else s.line key := by
  have hwindow : (s.advance w).window key =
      if key = w.key then lastTwo (s.window w.key ++ [w.workloadId]) else s.window key := by
    change ((s.windows.set _ _).get? key).getD [] = _
    rw [Dict.get?_set]
    split_ifs <;> rfl
  split_ifs with hkey
  · rw [if_pos hkey] at hwindow
    exact Line.ext hwindow rfl rfl rfl
  · rw [if_neg hkey] at hwindow
    exact Line.ext hwindow rfl rfl rfl

section

variable {a : Markov} (h : Booked a) {row : Prediction} {key : Key}
  (hid : row.predictionId = a.predictionSeq + 1) (hkey : row.key = key)
  (hstatus : row.resolutionStatus = .pending) (transitions : Dict (Key × Context) Counter) (total : ℕ)

include h

theorem Booked.fresh : a.predictions.get? (a.predictionSeq + 1) = none := by
  cases hrow : a.predictions.get? (a.predictionSeq + 1) with
  | none => rfl
  | some row => exact absurd (h.ids _ _ hrow).2 (by omega)

include hkey

theorem stored_line
    (hcounter : ∀ key', ({ a with transitions := transitions } : Markov).counter key' = a.counter key')
    (key' : Key) :
    (({ a with
        transitions := transitions
        predictionSeq := a.predictionSeq + 1
        predictions := a.predictions.set (a.predictionSeq + 1) row
        totalPredictions := total } : Markov).await key (some row)).line key' =
      if key' = key then
        { a.line key' with rows := (a.line key').rows ++ [row.anonymous] }
      else a.line key' := by
  have hitems := Dict.set_items_new h.fresh row
  have hrows : ((a.predictions.set (a.predictionSeq + 1) row).values.filter
        fun row => row.key = key').map Prediction.anonymous =
      if key' = key then (a.line key').rows ++ [row.anonymous] else (a.line key').rows := by
    unfold Dict.values
    rw [hitems, map_append, filter_append, map_append]
    by_cases hkey' : key' = key
    · rw [if_pos hkey']
      simp [hkey, hkey', Markov.line, Markov.rowsOf, Dict.values]
    · have hother : ¬ key = key' := fun heq => hkey' heq.symm
      rw [if_neg hkey']
      simp [hkey, hother, Markov.line, Markov.rowsOf, Dict.values]
  split_ifs with hkey'
  · rw [if_pos hkey'] at hrows
    exact Line.ext rfl (hcounter key') rfl hrows
  · rw [if_neg hkey'] at hrows
    exact Line.ext rfl (hcounter key') rfl hrows

include hid hstatus

theorem stored_booked :
    Booked (({ a with
      transitions := transitions
      predictionSeq := a.predictionSeq + 1
      predictions := a.predictions.set (a.predictionSeq + 1) row
      totalPredictions := total } : Markov).await key (some row)) := by
  constructor
  · intro id row' hrow
    change (a.predictions.set (a.predictionSeq + 1) row).get? id = some row' at hrow
    rw [Dict.get?_set] at hrow
    by_cases hnew : id = a.predictionSeq + 1
    · rw [if_pos hnew] at hrow
      cases hrow
      exact ⟨hid.trans hnew.symm, hnew.le⟩
    · rw [if_neg hnew] at hrow
      obtain ⟨hid', hle⟩ := h.ids id row' hrow
      exact ⟨hid', Nat.le_succ_of_le hle⟩
  · intro key' id
    change id ∈ ((a.pending.set key (a.pendingIds key ++ [row.predictionId])).get? key').getD [] ↔
      ∃ row', (a.predictions.set (a.predictionSeq + 1) row).get? id = some row' ∧ _
    rw [Dict.get?_set, Dict.get?_set, hid]
    have hfresh := h.fresh
    have hpending := h.pending key' id
    by_cases hnew : id = a.predictionSeq + 1
    · subst hnew
      have hnot : a.predictionSeq + 1 ∉ a.pendingIds key' := by
        rw [hpending, hfresh]
        rintro ⟨row', hrow, -⟩
        cases hrow
      rw [if_pos rfl]
      by_cases hkey' : key' = key
      · rw [if_pos hkey']
        simp [hkey, hkey', hstatus]
      · rw [if_neg hkey']
        change _ ∈ a.pendingIds key' ↔ _
        have hother : ¬ key = key' := fun heq => hkey' heq.symm
        simp [hnot, hkey, hother]
    · rw [if_neg hnew, ← hpending]
      by_cases hkey' : key' = key
      · rw [if_pos hkey', hkey']
        simp [hnew]
      · rw [if_neg hkey']
        rfl

end

section

variable {settings : Settings} {s a : Markov} {w : Sample} {l : Line}

theorem Effect.advance (h : Effect s a w none l) :
    Effect s (a.advance w) w none { l with window := lastTwo (l.window ++ [w.workloadId]) } where
  booked := ⟨h.booked.ids, h.booked.pending⟩
  items := h.items
  seq := h.seq
  stored := h.stored
  line := by
    rw [advance_line, if_pos rfl, ← h.line]
    rfl
  others key hkey := by rw [advance_line, if_neg hkey, h.others key hkey]

theorem Effect.lookup (h : Effect s a w none l) {transitions : Dict (Key × Context) Counter}
    (hcounter : ∀ key, ({ a with transitions := transitions } : Markov).counter key = a.counter key)
    {seq : ℕ} (hseq : a.predictionSeq ≤ seq) :
    Effect s { a with transitions := transitions, predictionSeq := seq } w none l := by
  have hline : ∀ key, ({ a with transitions := transitions, predictionSeq := seq } : Markov).line key =
      a.line key := fun key => Line.ext rfl (hcounter key) rfl rfl
  refine ⟨⟨?_, h.booked.pending⟩, h.items, h.seq.trans hseq, h.stored, ?_, ?_⟩
  · intro id row hrow
    obtain ⟨hid, hle⟩ := h.booked.ids id row hrow
    exact ⟨hid, hle.trans hseq⟩
  · rw [hline, h.line]
  · intro key hkey
    rw [hline, h.others key hkey]

theorem Effect.store (h : Effect s a w none l) (hseq : a.predictionSeq = s.predictionSeq)
    {transitions : Dict (Key × Context) Counter} {row : Prediction} {total : ℕ}
    (hcounter : ∀ key, ({ a with transitions := transitions } : Markov).counter key = a.counter key)
    (hid : row.predictionId = a.predictionSeq + 1) (hkey : row.key = w.key)
    (hstatus : row.resolutionStatus = .pending) :
    Effect s
      (({ a with
          transitions := transitions
          predictionSeq := a.predictionSeq + 1
          predictions := a.predictions.set (a.predictionSeq + 1) row
          totalPredictions := total } : Markov).await w.key (some row))
      w (some row) { l with rows := l.rows ++ [row.anonymous] } where
  booked := stored_booked h.booked hid hkey hstatus transitions total
  items := by
    change (a.predictions.set (a.predictionSeq + 1) row).items = _
    rw [Dict.set_items_new h.booked.fresh, h.items, hseq]
    simp
  seq := h.seq.trans (Nat.le_succ _)
  stored r hr := by
    cases hr
    exact ⟨hid.trans (by rw [hseq]), hkey, hstatus⟩
  line := by rw [stored_line h.booked hkey transitions total hcounter, if_pos rfl, h.line]
  others key hne := by
    rw [stored_line h.booked hkey transitions total hcounter, if_neg hne, h.others key hne]

end

section

variable (settings : Settings) {s : Markov} (h : Booked s) (w : Sample)

theorem publish_line {t : Markov} {l : Line} (hwindow : t.window w.key = l.window)
    (hcounter : t.counter w.key = l.counter) : t.publish settings w = l.publish settings w := by
  cases l
  simp only at hwindow hcounter
  subst hwindow hcounter
  rfl

include h

theorem observe_effect : ∃ row,
    Effect s (s.observe settings w).1 w row ((s.line w.key).observe settings w) ∧
      row.map Prediction.anonymous = (s.line w.key).made settings w ∧
      (s.observe settings w).2.map (Option.map Prediction.anonymous) =
        (s.line w.key).result settings w := by
  obtain ⟨heffect, hseq, hresult⟩ := update_effect settings h w
  unfold Markov.observe Line.observe Line.made Line.result
  dsimp only
  generalize (s.resolvePending w.workloadId w.timestampNs w.key).update settings w = updated at *
  rw [← hresult]
  cases hreport : updated.2 with
  | error e => exact ⟨none, heffect, rfl, rfl⟩
  | ok done =>
    have hadvance : Effect s (updated.1.advance w) w none ((s.line w.key).advanced settings w) := by
      have heffect' := heffect.advance
      rw [update_window] at heffect'
      exact heffect'
    have hcase := predict_cases (updated.1.advance w) w (by
      change (updated.1.lastSampleNs.set w.key w.timestampNs).get? w.key = _
      rw [Dict.get?_set, if_pos rfl])
    rw [hadvance.line] at hcase
    dsimp only
    have hnone : ({ (s.line w.key).advanced settings w with
          rows := (s.line w.key).rows.map (Prediction.settledBy w) ++
            (none : Option Prediction).toList } : Line) =
        (s.line w.key).advanced settings w := by
      simp [Line.advanced]
    have hpublish : ∀ t : Markov, t.window w.key = (updated.1.advance w).window w.key →
        t.counter w.key = (updated.1.advance w).counter w.key →
        t.publish settings w = ((s.line w.key).advanced settings w).publish settings w := by
      intro t hwindow hcounter
      rw [← hadvance.line]
      exact publish_line settings w hwindow hcounter
    generalize ((s.line w.key).advanced settings w).predict w = own at *
    generalize (updated.1.advance w).predict w.key w.timestampNs w.appKey = predicted at *
    cases hcase with
    | raised e hcounter hle =>
      dsimp only
      rw [hnone]
      exact ⟨none, hadvance.lookup hcounter hle, rfl, rfl⟩
    | unknown hcounter =>
      dsimp only
      rw [hnone]
      refine ⟨none, hadvance.lookup hcounter le_rfl, rfl, ?_⟩
      rw [hpublish]
      · cases ((s.line w.key).advanced settings w).publish settings w <;> rfl
      · rfl
      · exact hcounter w.key
    | made hown hcounter hid hkey hstatus =>
      dsimp only
      subst hown
      refine ⟨_, hadvance.store hseq hcounter hid hkey hstatus, rfl, ?_⟩
      rw [hpublish]
      · cases ((s.line w.key).advanced settings w).publish settings w <;> rfl
      · rfl
      · exact hcounter w.key

end

end Parp.OnlineMarkov
