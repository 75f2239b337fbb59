import Mathlib.Algebra.Order.BigOperators.Group.List
import Mathlib.Data.List.Induction
import Parp.FallibleFolds
import Parp.OnlineCausalMarkovLaws

set_option autoImplicit false

namespace Parp.OnlineMarkov

open OrderedDict ConsecutiveTriples KeyedMachines List

variable (settings : Settings)

def observed (table : List PreloadRow) (calls : List Sample) : Markov :=
  (preloadTransitions table).run settings calls

def Markov.stored (s : Markov) (w : Sample) : Option Prediction :=
  (s.observe settings w).1.predictions.get? (s.predictionSeq + 1)

def preloadCount (table : List PreloadRow) (key : Key) (context : Context) (next : ℤ) : ℤ :=
  ((table.filter fun row =>
    row.key = key ∧ row.context = context ∧ row.nextWorkloadId = next).map PreloadRow.count).sum

def Prediction.resolvedBy (row : Prediction) (later : List Sample) : Prediction :=
  match later.head? with
  | none => row
  | some next => row.resolve next.workloadId next.timestampNs

structure Isolated (table : List PreloadRow) (calls : List Sample) : Prop where
  rows : ∀ key, ((observed settings table calls).rowsOf key).map Prediction.anonymous =
    (observed settings table (own Sample.key key calls)).predictions.values.map Prediction.anonymous
  closed : ∀ key, ((observed settings table calls).closedRows.filter fun row => row.key = key).map
      Prediction.anonymous =
    (observed settings table (own Sample.key key calls)).closedRows.map Prediction.anonymous
  past : ∀ before w after, calls = before ++ w :: after →
    ((observed settings table before).observe settings w).2.map (Option.map Prediction.anonymous) =
        ((observed settings table (own Sample.key w.key before)).observe settings w).2.map
          (Option.map Prediction.anonymous) ∧
      ((observed settings table before).stored settings w).map Prediction.anonymous =
        ((observed settings table (own Sample.key w.key before)).stored settings w).map
          Prediction.anonymous
  resolved : ∀ before w after row, calls = before ++ w :: after →
    (observed settings table before).stored settings w = some row →
    row.key = w.key ∧ row.resolutionStatus = .pending ∧
      (observed settings table calls).predictions.get? row.predictionId =
        some (row.resolvedBy (own Sample.key w.key after))
  made : ∀ id row, (observed settings table calls).predictions.get? id = some row →
    ∃ before w after first, calls = before ++ w :: after ∧
      (observed settings table before).stored settings w = some first ∧ first.predictionId = id

def Counted (table : List PreloadRow) (calls : List Sample) : Prop :=
  ∀ key prev current next,
    ((observed settings table calls).counter key (prev, current)).count next =
      preloadCount table key (prev, current) next +
        (triples ((own Sample.key key calls).map Sample.workloadId)).count (prev, current, next)

section

variable {settings} {s s' : Markov} {w : Sample} {row : Option Prediction} {l : Line}

theorem Effect.get?_old (h : Effect s s' w row l) {id : ℕ} (hid : id ≤ s.predictionSeq) :
    s'.predictions.get? id = (s.predictions.get? id).map fun row =>
      if row.key = w.key then row.settledBy w else row := by
  have hnew : ∀ r, (id, r) ∉ row.toList.map fun row => (s.predictionSeq + 1, row) := by
    intro r hmem
    obtain ⟨_, _, heq⟩ := mem_map.1 hmem
    have := congrArg Prod.fst heq
    dsimp only at this
    omega
  ext r
  rw [Option.map_eq_some_iff]
  constructor
  · intro hget
    have hmem := Dict.mem_of_get? hget
    rw [h.items] at hmem
    rcases mem_append.1 hmem with hmem | hmem
    · obtain ⟨⟨id', old⟩, hold, heq⟩ := mem_map.1 hmem
      obtain ⟨rfl, rfl⟩ := Prod.mk.inj heq
      exact ⟨old, Dict.get?_of_mem hold, rfl⟩
    · exact absurd hmem (hnew r)
  · rintro ⟨old, hold, rfl⟩
    apply Dict.get?_of_mem
    rw [h.items]
    exact mem_append_left _ (mem_map.2 ⟨(id, old), Dict.mem_of_get? hold, rfl⟩)

theorem Effect.get?_new (h : Effect s s' w row l) (hs : Booked s) :
    s'.predictions.get? (s.predictionSeq + 1) = row := by
  ext r
  constructor
  · intro hget
    have hmem := Dict.mem_of_get? hget
    rw [h.items] at hmem
    rcases mem_append.1 hmem with hmem | hmem
    · obtain ⟨⟨id', old⟩, hold, heq⟩ := mem_map.1 hmem
      obtain ⟨rfl, -⟩ := Prod.mk.inj heq
      exact absurd (hs.ids _ _ (Dict.get?_of_mem hold)).2 (by omega)
    · obtain ⟨r', hr', heq⟩ := mem_map.1 hmem
      obtain ⟨-, rfl⟩ := Prod.mk.inj heq
      simpa using hr'
  · rintro rfl
    apply Dict.get?_of_mem
    rw [h.items]
    exact mem_append_right _ (by simp)

end

theorem lines_separate : Separate Booked (fun s w => (s.observe settings w).1) Sample.key
    Markov.line (Line.observe settings) where
  keeps s w h := by
    obtain ⟨row, heffect, -⟩ := observe_effect settings h w
    exact heffect.booked
  moves s w h := by
    obtain ⟨row, heffect, -⟩ := observe_effect settings h w
    exact heffect.line
  rests s w key h hkey := by
    obtain ⟨row, heffect, -⟩ := observe_effect settings h w
    exact heffect.others key hkey.symm

variable (table : List PreloadRow) (calls : List Sample)

theorem preload_empty : (preloadTransitions table).predictions = ∅ ∧
    (preloadTransitions table).pending = ∅ ∧ (preloadTransitions table).windows = ∅ := by
  unfold preloadTransitions
  induction table using List.reverseRecOn with
  | nil => exact ⟨rfl, rfl, rfl⟩
  | append_singleton table row ih =>
    rw [foldl_append]
    exact ih

theorem preload_booked : Booked (preloadTransitions table) := by
  obtain ⟨hpredictions, hpending, -⟩ := preload_empty table
  constructor
  · intro id row hrow
    rw [hpredictions] at hrow
    cases hrow
  · intro key id
    unfold Markov.pendingIds
    rw [hpending, hpredictions]
    constructor
    · intro hmem
      cases hmem
    · rintro ⟨row, hrow, -⟩
      cases hrow

theorem observed_booked :
    Booked (observed settings table calls) :=
  (lines_separate settings).run_keeps (preload_booked table) calls

theorem observed_concat (w : Sample) :
    observed settings table (calls ++ [w]) = ((observed settings table calls).observe settings w).1 := by
  unfold observed Markov.run
  rw [foldl_append]
  rfl

theorem observed_append (calls rest : List Sample) :
    observed settings table (calls ++ rest) = (observed settings table calls).run settings rest := by
  unfold observed Markov.run
  rw [foldl_append]

theorem observed_line (key : Key) :
    (observed settings table calls).line key =
      (observed settings table (own Sample.key key calls)).line key :=
  (lines_separate settings).run_own (preload_booked table) key calls

section

variable {settings} {s : Markov} (h : Booked s)

include h

theorem run_row (rest : List Sample) {id : ℕ} (hid : id ≤ s.predictionSeq) :
    (s.run settings rest).predictions.get? id = (s.predictions.get? id).map fun row =>
      match (own Sample.key row.key rest).head? with
      | none => row
      | some next => row.settledBy next := by
  induction rest generalizing s with
  | nil => simp [Markov.run, own]
  | cons w rest ih =>
    obtain ⟨row, heffect, -⟩ := observe_effect settings h w
    change ((s.observe settings w).1.run settings rest).predictions.get? id = _
    rw [ih heffect.booked (hid.trans heffect.seq), heffect.get?_old hid, Option.map_map]
    congr 1
    funext row
    by_cases hkey : row.key = w.key
    · rw [own_cons_self Sample.key row.key hkey.symm]
      dsimp only [Function.comp_apply, head?_cons]
      rw [if_pos hkey]
      cases (own Sample.key (row.settledBy w).key rest).head? with
      | none => rfl
      | some next => exact if_neg (settledBy_not_pending w row)
    · rw [own_cons_other Sample.key row.key fun heq => hkey heq.symm]
      dsimp only [Function.comp_apply]
      rw [if_neg hkey]

theorem stored_fate (w : Sample) (rest : List Sample) {row : Prediction}
    (hrow : s.stored settings w = some row) :
    row.key = w.key ∧ row.resolutionStatus = .pending ∧
      ((s.observe settings w).1.run settings rest).predictions.get? row.predictionId =
        some (row.resolvedBy (own Sample.key w.key rest)) := by
  obtain ⟨row', heffect, -⟩ := observe_effect settings h w
  have hnew := heffect.get?_new h
  rw [show row' = some row from hnew.symm.trans hrow] at heffect hnew
  obtain ⟨hid, hkey, hstatus⟩ := heffect.stored row rfl
  refine ⟨hkey, hstatus, ?_⟩
  rw [run_row heffect.booked rest (by rw [hid]; exact (heffect.booked.ids _ _ hnew).2), hid, hnew,
    Option.map_some, hkey]
  unfold Prediction.resolvedBy Prediction.settledBy
  simp only [hstatus, if_true]

end

theorem row_made (table : List PreloadRow) (calls : List Sample) {id : ℕ} {row : Prediction}
    (hrow : (observed settings table calls).predictions.get? id = some row) :
    ∃ before w after first, calls = before ++ w :: after ∧
      (observed settings table before).stored settings w = some first ∧ first.predictionId = id := by
  induction calls using List.reverseRecOn generalizing row with
  | nil =>
    change (preloadTransitions table).predictions.get? id = some row at hrow
    rw [(preload_empty table).1] at hrow
    cases hrow
  | append_singleton calls w ih =>
    have hbooked := observed_booked settings table calls
    obtain ⟨made, heffect, -⟩ := observe_effect settings hbooked w
    rw [observed_concat] at hrow
    rcases Nat.lt_or_ge (observed settings table calls).predictionSeq id with hnew | hold
    · have hmem := Dict.mem_of_get? hrow
      rw [heffect.items] at hmem
      rcases mem_append.1 hmem with hmem | hmem
      · obtain ⟨⟨id', old⟩, hmem', heq⟩ := mem_map.1 hmem
        obtain ⟨rfl, -⟩ := Prod.mk.inj heq
        exact absurd (hbooked.ids _ _ (Dict.get?_of_mem hmem')).2 (by omega)
      · obtain ⟨first, hfirst, heq⟩ := mem_map.1 hmem
        obtain ⟨rfl, rfl⟩ := Prod.mk.inj heq
        have hmade : made = some first := by simpa using hfirst
        exact ⟨calls, w, [], first, rfl, (heffect.get?_new hbooked).trans hmade,
          (heffect.stored first hmade).1⟩
    · rw [heffect.get?_old hold] at hrow
      obtain ⟨old, hget, -⟩ := Option.map_eq_some_iff.1 hrow
      obtain ⟨before, w', after, first, rfl, hstored, hid⟩ := ih hget
      exact ⟨before, w', after ++ [w], first, by simp, hstored, hid⟩

theorem own_rows (table : List PreloadRow) {calls : List Sample} {key : Key}
    (hkey : ∀ w ∈ calls, w.key = key) :
    ∀ row ∈ (observed settings table calls).predictions.values, row.key = key := by
  induction calls using List.reverseRecOn with
  | nil =>
    intro row hrow
    change row ∈ (preloadTransitions table).predictions.values at hrow
    rw [(preload_empty table).1] at hrow
    cases hrow
  | append_singleton calls w ih =>
    intro row hrow
    obtain ⟨made, heffect, -⟩ := observe_effect settings (observed_booked settings table calls) w
    obtain ⟨e, he, rfl⟩ := mem_map.1 hrow
    rw [observed_concat, heffect.items] at he
    rcases mem_append.1 he with he | he
    · obtain ⟨old, hold, rfl⟩ := mem_map.1 he
      have hold' := ih (fun w hw => hkey w (mem_append_left _ hw)) old.2
        (mem_map_of_mem hold)
      dsimp only
      split_ifs
      · rw [settledBy_key, hold']
      · exact hold'
    · obtain ⟨first, hfirst, rfl⟩ := mem_map.1 he
      rw [(heffect.stored first (by simpa using hfirst)).2.1]
      exact hkey w (by simp)

theorem close_anonymous (row : Prediction) : row.close.anonymous = row.anonymous.close := by
  unfold Prediction.close
  by_cases h : row.resolutionStatus = .pending
  · rw [if_pos h, if_pos (show row.anonymous.resolutionStatus = .pending from h)]
    rfl
  · rw [if_neg h, if_neg (show ¬ row.anonymous.resolutionStatus = .pending from h)]

theorem close_key (row : Prediction) : row.close.key = row.key := by
  unfold Prediction.close
  split_ifs <;> rfl

theorem keys_isolated (table : List PreloadRow) (calls : List Sample) :
    Isolated settings table calls := by
  have hrows : ∀ key, ((observed settings table calls).rowsOf key).map Prediction.anonymous =
      (observed settings table (own Sample.key key calls)).predictions.values.map
        Prediction.anonymous := by
    intro key
    have hline := congrArg Line.rows (observed_line settings table calls key)
    refine hline.trans (congrArg _ (filter_eq_self.2 ?_))
    intro row hrow
    exact decide_eq_true
      (own_rows settings table (fun w hw => key_of_mem_own Sample.key key hw) row hrow)
  refine ⟨hrows, ?_, ?_, ?_, ?_⟩
  · intro key
    have hclose : Prediction.anonymous ∘ Prediction.close = Prediction.close ∘ Prediction.anonymous :=
      funext close_anonymous
    have hfilter : ((fun row : Prediction => decide (row.key = key)) ∘ Prediction.close) =
        fun row => decide (row.key = key) := by
      funext row
      simp [close_key]
    unfold Markov.closedRows
    rw [filter_map, hfilter, map_map, map_map, hclose, ← map_map,
      ← map_map]
    exact congrArg _ (hrows key)
  · intro before w after hsplit
    have hline := observed_line settings table before w.key
    obtain ⟨row, heffect, hmade, hresult⟩ :=
      observe_effect settings (observed_booked settings table before) w
    obtain ⟨row', heffect', hmade', hresult'⟩ :=
      observe_effect settings (observed_booked settings table (own Sample.key w.key before)) w
    unfold Markov.stored
    rw [heffect.get?_new (observed_booked settings table before),
      heffect'.get?_new (observed_booked settings table (own Sample.key w.key before)), hresult,
      hresult', hmade, hmade', hline]
    exact ⟨rfl, rfl⟩
  · rintro before w after row rfl hrow
    rw [observed_append]
    exact stored_fate (observed_booked settings table before) w after hrow
  · intro id row hrow
    exact row_made settings table calls hrow

end Parp.OnlineMarkov

/-!
# The counts of the online Markov model

An update that raises has counted its sample, but the window stays behind. The counts are right as
long as no update raises.
-/
namespace Parp.OnlineMarkov

open OrderedDict ConsecutiveTriples CorrectRounding FallibleFolds KeyedMachines List

def Divides (count total : ℤ) : Prop := total ≠ 0 ∧ |binary64 (count / total)| < 2 ^ 1024

def Scales (count total : ℤ) : Prop :=
  Divides count total ∧ |binary64 (binary64 (count / total) * 10000)| < 2 ^ 1024

theorem trueDivide_ok {count total : ℤ} (h : Divides count total) :
    trueDivide count total = .ok (binary64 (count / total)) := by
  unfold trueDivide
  rw [if_neg h.1, if_neg (not_le.2 h.2)]

variable {counter : Counter}

theorem entries_ok {total : ℤ} (h : ∀ row ∈ ranked counter, Scales row.2 total) :
    ∃ rows, entries counter total = .ok rows := by
  apply mapM_returns
  intro row hrow
  obtain ⟨hdivides, hscales⟩ := h row hrow
  rw [trueDivide_ok hdivides, ok_bind]
  unfold fixedConfidence
  rw [if_neg (not_le.2 hscales)]
  exact ⟨_, rfl⟩

theorem scales_share {count total : ℤ} (hcount : 0 ≤ count) (hle : count ≤ total)
    (htotal : 0 < total) : Scales count total := by
  have hshare : (0 : ℚ) ≤ count / total ∧ (count / total : ℚ) ≤ 2 ^ (0 : ℤ) := by
    have htotal' : (0 : ℚ) < total := by exact_mod_cast htotal
    constructor
    · exact div_nonneg (by exact_mod_cast hcount) htotal'.le
    · rw [zpow_zero, div_le_one htotal']
      exact_mod_cast hle
  unfold Scales Divides
  generalize (count / total : ℚ) = share at *
  obtain ⟨hnonneg, hone⟩ := hshare
  have hround : |binary64 share| ≤ 2 ^ (0 : ℤ) := by
    rw [abs_of_nonneg (binary64_nonneg hnonneg)]
    exact binary64_le_zpow (by decide) hnonneg hone
  have hscaled : |binary64 (binary64 share * 10000)| ≤ 2 ^ (14 : ℤ) := by
    have hpos : 0 ≤ binary64 share * 10000 := mul_nonneg (binary64_nonneg hnonneg) (by norm_num)
    rw [abs_of_nonneg (binary64_nonneg hpos)]
    apply binary64_le_zpow (by decide) hpos
    rw [abs_of_nonneg (binary64_nonneg hnonneg)] at hround
    norm_num at hround ⊢
    linarith
  have hlimit : ∀ k : ℕ, k < 1024 → (2 : ℚ) ^ (k : ℤ) < 2 ^ 1024 := by
    intro k hk
    rw [zpow_natCast]
    exact pow_lt_pow_right₀ one_lt_two hk
  exact ⟨⟨htotal.ne', hround.trans_lt (hlimit 0 (by decide))⟩,
    hscaled.trans_lt (hlimit 14 (by decide))⟩

variable (settings : Settings)

/-- What the updates file and the writer are given can be computed: the total of the context is not 0
after the update, its quotients are doubles, and the writer gets a number for an application id. -/
def Markov.UpdateFits (s : Markov) (w : Sample) : Prop :=
  ∀ prev current, s.window w.key = [prev, current] →
    let before := s.counter w.key (prev, current)
    let counter := before.add w.workloadId 1
    Divides (counter.count w.workloadId) (before.total + 1) ∧
      (settings.hasWriter = true → settings.isNumeral w.appId = true ∧
        ∀ row ∈ ranked counter, Scales row.2 (before.total + 1))

def UpdatesFit (table : List PreloadRow) (calls : List Sample) : Prop :=
  ∀ before w after, calls = before ++ w :: after →
    (observed settings table before).UpdateFits settings w

section

variable {settings} {s : Markov} {w : Sample}

theorem update_returns (h : s.UpdateFits settings w) :
    ((s.line w.key).update settings w).2 = .ok () := by
  unfold Line.update
  rw [show (s.line w.key).window = s.window w.key from rfl]
  rcases hwindow : s.window w.key with _ | ⟨prev, _ | ⟨current, _ | ⟨third, rest⟩⟩⟩
  · rfl
  · rfl
  · obtain ⟨hdivides, hwriter⟩ := h prev current hwindow
    change reportUpdate settings ((s.counter w.key (prev, current)).add w.workloadId 1)
      ((s.counter w.key (prev, current)).total + 1) w = _
    unfold reportUpdate
    rw [trueDivide_ok hdivides, ok_bind]
    cases hhas : settings.hasWriter with
    | false => rfl
    | true =>
      obtain ⟨hnumeral, hscales⟩ := hwriter hhas
      obtain ⟨rows, hrows⟩ := entries_ok hscales
      rw [hnumeral, hrows]
      rfl
  · rfl

theorem update_count (l : Line) (w : Sample) (context : Context) (next : ℤ) :
    (((l.update settings w).1.counter context).count next : ℤ) =
      (l.counter context).count next +
        (tripleOf l.window w.workloadId).count (context.1, context.2, next) := by
  unfold Line.update
  rcases l.window with _ | ⟨prev, _ | ⟨current, _ | ⟨third, rest⟩⟩⟩
  · simp [tripleOf]
  · simp [tripleOf]
  · change Counter.count (Function.update l.counter (prev, current) _ context) next =
      _ + (List.count _ [(prev, current, w.workloadId)] : ℤ)
    by_cases hcontext : context = (prev, current)
    · subst hcontext
      rw [Function.update_self, count_add]
      by_cases hnext : next = w.workloadId
      · simp [hnext]
      · have hother : ¬ w.workloadId = next := fun heq => hnext heq.symm
        simp [hnext, hother]
    · have hother : ¬ (prev, current, w.workloadId) = (context.1, context.2, next) := by
        intro heq
        cases heq
        exact hcontext rfl
      rw [Function.update_of_ne hcontext]
      simp [hother]
  · simp [tripleOf]

theorem observe_line_of_fits {l : Line} (h : (l.update settings w).2 = .ok ()) :
    (l.observe settings w).window = lastTwo (l.window ++ [w.workloadId]) ∧
      (l.observe settings w).counter = (l.update settings w).1.counter := by
  unfold Line.observe
  rw [h]
  exact ⟨rfl, rfl⟩

end

theorem preload_count (table : List PreloadRow) (key : Key) (context : Context) (next : ℤ) :
    ((preloadTransitions table).counter key context).count next =
      preloadCount table key context next := by
  unfold preloadTransitions preloadCount
  induction table using List.reverseRecOn with
  | nil => rfl
  | append_singleton table row ih =>
    rw [foldl_append, filter_append, map_append, sum_append, ← ih]
    generalize table.foldl Markov.preloadRow {} = s
    change (((s.transitions.set (row.key, row.context) _).get? (key, context)).getD ∅).count next = _
    rw [Dict.get?_set]
    by_cases hcontext : (key, context) = (row.key, row.context)
    · obtain ⟨rfl, rfl⟩ := Prod.mk.inj hcontext
      rw [if_pos rfl, Option.getD_some, count_add]
      by_cases hnext : next = row.nextWorkloadId
      · simp [hnext]
      · have hother : ¬ row.nextWorkloadId = next := fun heq => hnext heq.symm
        simp [hnext, hother]
    · have hother : ¬ (row.key = key ∧ row.context = context ∧ row.nextWorkloadId = next) := by
        rintro ⟨rfl, rfl, -⟩
        exact hcontext rfl
      rw [if_neg hcontext]
      simp [hother, Markov.counter]

/-- The window of a key is the end of its samples, and its counters count their triples. -/
structure Tallied (table : List PreloadRow) (calls : List Sample) (s : Markov) (key : Key) :
    Prop where
  window : s.window key = lastTwo ((own Sample.key key calls).map Sample.workloadId)
  count : ∀ context next, (s.counter key context).count next =
    preloadCount table key context next +
      (triples ((own Sample.key key calls).map Sample.workloadId)).count
        (context.1, context.2, next)

theorem tallied_preload (table : List PreloadRow) (key : Key) :
    Tallied table [] (observed settings table []) key where
  window := by
    change ((preloadTransitions table).windows.get? key).getD [] = _
    rw [(preload_empty table).2.2]
    rfl
  count := by
    intro context next
    change ((preloadTransitions table).counter key context).count next = _
    rw [preload_count]
    simp [own, triples]

section

variable {settings} {table : List PreloadRow} {calls : List Sample} {s s' : Markov} {w : Sample}
  {key : Key}

theorem Tallied.own (h : Tallied table calls s w.key) (hfits : s.UpdateFits settings w)
    (hline : s'.line w.key = (s.line w.key).observe settings w) :
    Tallied table (calls ++ [w]) s' w.key := by
  obtain ⟨hwindow', hcounter'⟩ := observe_line_of_fits (update_returns hfits)
  constructor
  · rw [own_append, own_cons_self Sample.key w.key rfl, map_append]
    refine (congrArg Line.window hline).trans ?_
    rw [hwindow', show (s.line w.key).window = _ from h.window]
    exact lastTwo_slide _ _
  · intro context next
    have hcounters := congrFun (congrArg Line.counter hline) context
    change s'.counter w.key context = _ at hcounters
    rw [own_append, own_cons_self Sample.key w.key rfl, map_append, hcounters, hcounter',
      update_count, show (s.line w.key).counter context = s.counter w.key context from rfl,
      h.count, show (s.line w.key).window = _ from h.window]
    change _ = _ + ((triples (_ ++ [w.workloadId])).count _ : ℤ)
    rw [triples_concat, count_append]
    push_cast
    ring

theorem Tallied.other (h : Tallied table calls s key) (hkey : ¬ w.key = key)
    (hline : s'.line key = s.line key) : Tallied table (calls ++ [w]) s' key := by
  have hown : KeyedMachines.own Sample.key key (calls ++ [w]) =
      KeyedMachines.own Sample.key key calls := by
    rw [own_append, own_cons_other Sample.key key hkey]
    exact append_nil _
  constructor
  · rw [hown]
    exact (congrArg Line.window hline).trans h.window
  · intro context next
    rw [hown]
    refine Eq.trans ?_ (h.count context next)
    exact congrArg (fun counter => Counter.count counter next)
      (congrFun (congrArg Line.counter hline) context)

end

theorem fits_counts (table : List PreloadRow) (calls : List Sample)
    (h : UpdatesFit settings table calls) (key : Key) :
    Tallied table calls (observed settings table calls) key := by
  induction calls using List.reverseRecOn generalizing key with
  | nil => exact tallied_preload settings table key
  | append_singleton calls w ih =>
    have hbefore := ih fun before w' after hsplit => h before w' (after ++ [w]) (by simp [hsplit])
    obtain ⟨row, heffect, -⟩ := observe_effect settings (observed_booked settings table calls) w
    rw [observed_concat]
    by_cases hkey : w.key = key
    · subst hkey
      exact (hbefore w.key).own (h calls w [] rfl) heffect.line
    · exact (hbefore key).other hkey (heffect.others key fun heq => hkey heq.symm)

def Counter.Nonneg (counter : Counter) : Prop := ∀ row ∈ counter.items, 0 ≤ row.2

theorem Counter.Nonneg.add (h : counter.Nonneg) (workload : ℤ) {n : ℤ} (hn : 0 ≤ n) :
    (counter.add workload n).Nonneg := by
  intro row hrow
  rcases Dict.mem_set.1 hrow with rfl | ⟨hold, -⟩
  · have hcount : 0 ≤ counter.count workload := by
      unfold Counter.count
      cases hget : counter.get? workload with
      | none => rfl
      | some count => exact h _ (Dict.mem_of_get? hget)
    exact Int.add_nonneg hcount hn
  · exact h row hold

theorem Counter.Nonneg.le_total (h : counter.Nonneg) {row : ℤ × ℤ} (hrow : row ∈ counter.items) :
    row.2 ≤ counter.total := by
  refine single_le_sum ?_ _ (mem_map_of_mem hrow)
  intro count hcount
  obtain ⟨row', hrow', rfl⟩ := mem_map.1 hcount
  exact h row' hrow'

theorem Counter.Nonneg.total (h : counter.Nonneg) : 0 ≤ counter.total := by
  refine sum_nonneg ?_
  intro count hcount
  obtain ⟨row', hrow', rfl⟩ := mem_map.1 hcount
  exact h row' hrow'

theorem preload_nonneg {table : List PreloadRow} (h : ∀ row ∈ table, 0 ≤ row.count) (key : Key)
    (context : Context) : ((preloadTransitions table).counter key context).Nonneg := by
  unfold preloadTransitions
  induction table using List.reverseRecOn with
  | nil =>
    intro row hrow
    cases hrow
  | append_singleton table row ih =>
    have hbefore := ih fun row hrow => h row (mem_append_left _ hrow)
    rw [foldl_append]
    generalize table.foldl Markov.preloadRow {} = s at *
    change (((s.transitions.set (row.key, row.context) _).get? (key, context)).getD ∅).Nonneg
    rw [Dict.get?_set]
    by_cases hcontext : (key, context) = (row.key, row.context)
    · obtain ⟨rfl, rfl⟩ := Prod.mk.inj hcontext
      rw [if_pos rfl]
      exact hbefore.add _ (h row (by simp))
    · rw [if_neg hcontext]
      exact hbefore

theorem observe_counter (l : Line) (w : Sample) :
    (l.observe settings w).counter = (l.update settings w).1.counter := by
  unfold Line.observe
  cases (l.update settings w).2 <;> rfl

theorem observed_nonneg {table : List PreloadRow} (h : ∀ row ∈ table, 0 ≤ row.count)
    (calls : List Sample) (key : Key) (context : Context) :
    ((observed settings table calls).counter key context).Nonneg := by
  induction calls using List.reverseRecOn generalizing key context with
  | nil => exact preload_nonneg h key context
  | append_singleton calls w ih =>
    obtain ⟨row, heffect, -⟩ := observe_effect settings (observed_booked settings table calls) w
    rw [observed_concat]
    by_cases hkey : key = w.key
    · subst hkey
      have hcounter := congrFun (congrArg Line.counter heffect.line) context
      change ((observed settings table calls).observe settings w).1.counter w.key context = _
        at hcounter
      rw [hcounter, observe_counter]
      unfold Line.update
      rcases ((observed settings table calls).line w.key).window with
        _ | ⟨prev, _ | ⟨current, _ | ⟨third, rest⟩⟩⟩
      · exact ih w.key context
      · exact ih w.key context
      · change Counter.Nonneg (Function.update ((observed settings table calls).counter w.key)
          (prev, current) _ context)
        by_cases hcontext : context = (prev, current)
        · subst hcontext
          rw [Function.update_self]
          exact (ih w.key (prev, current)).add _ (by decide)
        · rw [Function.update_of_ne hcontext]
          exact ih w.key context
      · exact ih w.key context
    · have hcounter := congrFun (congrArg Line.counter (heffect.others key hkey)) context
      exact (congrArg Counter.Nonneg hcounter).mpr (ih key context)

theorem updates_fit {table : List PreloadRow} {calls : List Sample}
    (htable : ∀ row ∈ table, 0 ≤ row.count)
    (hids : settings.hasWriter = true → ∀ w ∈ calls, settings.isNumeral w.appId = true) :
    UpdatesFit settings table calls := by
  rintro before w after rfl prev current -
  have hbefore := observed_nonneg settings htable before w.key (prev, current)
  have hadd := hbefore.add w.workloadId (n := 1) (by decide)
  have htotal := total_add ((observed settings table before).counter w.key (prev, current))
    w.workloadId 1
  have hpos : 0 < ((observed settings table before).counter w.key (prev, current)).total + 1 :=
    Int.lt_add_one_of_le hbefore.total
  have hscales : ∀ row ∈ (((observed settings table before).counter w.key (prev, current)).add
      w.workloadId 1).items, Scales row.2
        (((observed settings table before).counter w.key (prev, current)).total + 1) := by
    intro row hrow
    exact scales_share (hadd row hrow) (by rw [← htotal]; exact hadd.le_total hrow) hpos
  refine ⟨?_, fun hhas => ⟨hids hhas w (by simp), ?_⟩⟩
  · have hmem : (w.workloadId, ((observed settings table before).counter w.key
        (prev, current)).count w.workloadId + 1) ∈ (((observed settings table before).counter w.key
        (prev, current)).add w.workloadId 1).items := Dict.mem_set.2 (.inl rfl)
    have hcount := count_add ((observed settings table before).counter w.key (prev, current))
      w.workloadId 1 w.workloadId
    rw [if_pos rfl] at hcount
    rw [hcount]
    exact (hscales _ hmem).1
  · intro row hrow
    exact hscales row ((mem_insertionSort _).1 (mem_of_mem_take hrow))

/-- In a run whose updates fit, the keys are kept apart and their transitions counted. -/
theorem causal_of_fits (table : List PreloadRow) (calls : List Sample)
    (h : UpdatesFit settings table calls) :
    Isolated settings table calls ∧ Counted settings table calls := by
  refine ⟨keys_isolated settings table calls, ?_⟩
  intro key prev current next
  exact (fits_counts settings table calls h key).count (prev, current) next

def plain : Settings := ⟨false, fun text => text ≠ "" && text.all Char.isDigit⟩

def sampleOf (appId : String) (workloadId timestampNs : ℤ) : Sample :=
  { appKey := "WPS"
    appId := appId
    scopeName := "wps.scope"
    workloadId := workloadId
    timestampNs := timestampNs }

theorem interleaved_causal :
    Isolated plain [⟨("1", "wps.scope"), (1, 2), 3, 2⟩]
        [sampleOf "1" 1 10, sampleOf "2" 5 20, sampleOf "1" 2 30, sampleOf "1" 3 40] ∧
      Counted plain [⟨("1", "wps.scope"), (1, 2), 3, 2⟩]
        [sampleOf "1" 1 10, sampleOf "2" 5 20, sampleOf "1" 2 30, sampleOf "1" 3 40] :=
  causal_of_fits plain _ _ (updates_fit plain (by decide) nofun)

/-- The third sample brings the total of its context to 0. The update raises, the window stays, and
the next sample is counted after the wrong pair. -/
theorem negative_count_loses_triple :
    ¬ Counted plain [⟨("1", "wps.scope"), (1, 2), 3, -1⟩]
      [sampleOf "1" 1 10, sampleOf "1" 2 20, sampleOf "1" 3 30, sampleOf "1" 4 40] := by
  intro h
  have hcount := h ("1", "wps.scope") 2 3 4
  revert hcount
  decide +kernel

end Parp.OnlineMarkov
