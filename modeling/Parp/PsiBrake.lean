import Mathlib.Data.List.Chain
import Parp.TmoPacing

set_option autoImplicit false

/-!
# PSI window and brake

What the pruned history of a cumulative stall counter still measures, and when the brake that watches
it goes on and off. Doubles are read as rationals.
-/
namespace Parp.PsiBrake

open TmoPacing List

abbrev Sample := ℚ × Bytes

section

structure Brake where
  w : PsiWindow := []
  on : Bool := false
  belowSince : ℚ := -1
  windowMs : ℚ := 0

structure Levels where
  onMs : ℚ
  resumeMs : ℚ
  resumeSec : ℚ

variable (o : Levels)

def Brake.update (b : Brake) (u : Sample) : Brake :=
  let w := b.w.add u.1 u.2 1
  let windowMs : ℚ := w.over 1 / 1000
  if b.on = false then
    if 0 < o.onMs ∧ o.onMs ≤ windowMs then ⟨w, true, -1, windowMs⟩
    else ⟨w, false, b.belowSince, windowMs⟩
  else if windowMs < o.resumeMs then
    let belowSince := if b.belowSince < 0 then u.1 else b.belowSince
    if o.resumeSec ≤ u.1 - belowSince then ⟨w, false, -1, windowMs⟩
    else ⟨w, true, belowSince, windowMs⟩
  else ⟨w, true, -1, windowMs⟩

def brakeAfter (updates : List Sample) : Brake := updates.foldl (Brake.update o) {}

theorem brakeAfter_snoc (updates : List Sample) (u : Sample) :
    brakeAfter o (updates ++ [u]) = (brakeAfter o updates).update o u := by
  simp [brakeAfter]

end

/-!
# The stall of a history
-/

def Onward (s s' : Sample) : Prop := s.1 ≤ s'.1 ∧ s.2 ≤ s'.2

instance decidableOnward : DecidableRel Onward := fun _ _ => inferInstanceAs (Decidable (_ ∧ _))

def sinceReset : List Sample → List Sample
  | [] => []
  | s :: rest => if List.IsChain Onward (s :: rest) then s :: rest else sinceReset rest

def lastOfEachTime : List Sample → List Sample
  | s :: s' :: rest =>
    if s.1 = s'.1 then lastOfEachTime (s' :: rest) else s :: lastOfEachTime (s' :: rest)
  | short => short

def history (samples : List Sample) : List Sample := lastOfEachTime (sinceReset samples)

/-- The counter at a time: on the line between the samples around it, and before the oldest sample what
that one says. -/
def counterAt (h : List Sample) (x : ℚ) : ℚ :=
  match (h.filter (·.1 ≤ x)).getLast?, (h.filter (x < ·.1)).head? with
  | some a, some b => a.2 + ((b.2 : ℚ) - a.2) * (x - a.1) / (b.1 - a.1)
  | some a, none => a.2
  | none, some b => b.2
  | none, none => 0

/-- How much the counter grew over the last `span` seconds. -/
def stallOver (h : List Sample) (span : ℚ) : ℚ :=
  match h.getLast? with
  | some last => last.2 - counterAt h (last.1 - span)
  | none => 0

def wholeStall (h : List Sample) (span : ℚ) : Bytes := min (round (stallOver h span)).toNat Unlimited

theorem sinceReset_chain {samples : List Sample} (h : samples.IsChain Onward) :
    sinceReset samples = samples := by
  cases samples with
  | nil => rfl
  | cons s rest => exact if_pos h

theorem sinceReset_last (samples : List Sample) :
    (sinceReset samples).getLast? = samples.getLast? := by
  induction samples with
  | nil => rfl
  | cons s rest ih =>
    unfold sinceReset
    split_ifs with h
    · rfl
    · cases rest with
      | nil => exact absurd (.singleton s) h
      | cons s' rest => rw [ih, getLast?_cons_cons]

theorem sinceReset_snoc (samples : List Sample) (s : Sample) :
    sinceReset (samples ++ [s]) =
      if ∀ last ∈ samples.getLast?, Onward last s then sinceReset samples ++ [s] else [s] := by
  induction samples with
  | nil => rfl
  | cons a rest ih =>
    have hwhole : (a :: rest ++ [s]).IsChain Onward ↔
        (a :: rest).IsChain Onward ∧ ∀ last ∈ (a :: rest).getLast?, Onward last s := by
      rw [isChain_append]
      exact ⟨fun h => ⟨h.1, fun last hmem => h.2.2 last hmem s rfl⟩, fun h =>
        ⟨h.1, .singleton s, fun last hmem s' hs => Option.some.inj hs ▸ h.2 last hmem⟩⟩
    have hlast : rest ≠ [] → (a :: rest).getLast? = rest.getLast? := by
      intro hrest
      obtain ⟨b, rest, rfl⟩ := exists_cons_of_ne_nil hrest
      exact getLast?_cons_cons
    have hnew : ¬ (a :: rest ++ [s]).IsChain Onward →
        sinceReset (a :: rest ++ [s]) = sinceReset (rest ++ [s]) := fun h => if_neg h
    by_cases hgo : ∀ last ∈ (a :: rest).getLast?, Onward last s
    · rw [if_pos hgo]
      by_cases hchain : (a :: rest).IsChain Onward
      · rw [sinceReset_chain (hwhole.2 ⟨hchain, hgo⟩), sinceReset_chain hchain]
      · have hrest : rest ≠ [] := by
          rintro rfl
          exact hchain (.singleton a)
        rw [hnew fun h => hchain (hwhole.1 h).1, ih, if_pos (hlast hrest ▸ hgo)]
        exact congrArg (· ++ [s]) (if_neg hchain).symm
    · rw [if_neg hgo, hnew fun h => hgo (hwhole.1 h).2, ih]
      by_cases hrest : rest = []
      · subst hrest
        rfl
      · rw [if_neg (hlast hrest ▸ hgo)]

def extend (h : List Sample) (s : Sample) : List Sample :=
  match h.getLast? with
  | none => [s]
  | some last => if s.1 = last.1 then h.dropLast ++ [s] else h ++ [s]

theorem extend_snoc (front : List Sample) (last s : Sample) :
    extend (front ++ [last]) s =
      if s.1 = last.1 then front ++ [s] else front ++ [last] ++ [s] := by
  simp [extend]

variable {h : List Sample} {full pruned : List Sample} {span : ℚ} {samples : List (Sample × ℚ)}

theorem extend_append (front : List Sample) (hne : h ≠ []) (s : Sample) :
    extend (front ++ h) s = front ++ extend h s := by
  obtain ⟨h, last, rfl⟩ := (eq_nil_or_concat' h).resolve_left hne
  rw [← append_assoc, extend_snoc, extend_snoc]
  split_ifs <;> simp

theorem lastOfEachTime_ne_nil (hne : h ≠ []) : lastOfEachTime h ≠ [] := by
  fun_induction lastOfEachTime h with
  | case1 s s' rest heq ih => exact ih (cons_ne_nil _ _)
  | case2 s s' rest hdiffer ih => exact cons_ne_nil _ _
  | case3 short => exact hne

theorem lastOfEachTime_snoc (h : List Sample) (s : Sample) :
    lastOfEachTime (h ++ [s]) = extend (lastOfEachTime h) s := by
  fun_induction lastOfEachTime h with
  | case1 a b rest heq ih => exact (if_pos heq).trans ih
  | case2 a b rest hdiffer ih =>
    have hne : lastOfEachTime (b :: rest) ≠ [] := lastOfEachTime_ne_nil (cons_ne_nil _ _)
    calc
      lastOfEachTime (a :: b :: rest ++ [s]) = a :: lastOfEachTime (b :: rest ++ [s]) :=
        if_neg hdiffer
      _ = a :: extend (lastOfEachTime (b :: rest)) s := by rw [ih]
      _ = extend (a :: lastOfEachTime (b :: rest)) s := (extend_append [a] hne s).symm
  | case3 short hshort =>
    match short, hshort with
    | [], _ => rfl
    | [a], _ =>
      change (if a.1 = s.1 then [s] else [a, s]) = if s.1 = a.1 then [s] else [a, s]
      simp only [eq_comm]
    | a :: b :: rest, hshort => exact absurd rfl (hshort a b rest)

theorem extend_last (h : List Sample) (s : Sample) : (extend h s).getLast? = some s := by
  unfold extend
  split
  · rfl
  · split_ifs <;> simp

theorem lastOfEachTime_last (h : List Sample) : (lastOfEachTime h).getLast? = h.getLast? := by
  rcases eq_nil_or_concat' h with rfl | ⟨front, last, rfl⟩
  · rfl
  · rw [lastOfEachTime_snoc, extend_last, getLast?_concat]

theorem history_last (samples : List Sample) : (history samples).getLast? = samples.getLast? := by
  rw [history, lastOfEachTime_last, sinceReset_last]

def kept (h : List Sample) (s : Sample) : List Sample :=
  if ∀ last ∈ h.getLast?, Onward last s then h else []

theorem history_snoc (samples : List Sample) (s : Sample) :
    history (samples ++ [s]) = extend (kept (history samples) s) s := by
  unfold kept
  rw [history_last]
  unfold history
  rw [sinceReset_snoc]
  split_ifs with h
  · exact lastOfEachTime_snoc _ s
  · rfl

theorem add_eq (h : PsiWindow) (s : Sample) (keep : ℚ) :
    h.add s.1 s.2 keep = trim (s.1 - keep) (extend (kept h s) s) := by
  rcases eq_nil_or_concat' h with rfl | ⟨front, last, rfl⟩
  · rfl
  · have hkept : kept (front ++ [last]) s =
        if s.2 < last.2 ∨ s.1 < last.1 then [] else front ++ [last] := by
      unfold kept Onward
      simp only [getLast?_concat, Option.mem_some_iff, forall_eq']
      by_cases hback : s.2 < last.2 ∨ s.1 < last.1
      · rw [if_pos hback, if_neg fun hon => hback.elim (not_lt.2 hon.2) (not_lt.2 hon.1)]
      · rw [not_or, not_lt, not_lt] at hback
        rw [if_neg (not_or.2 ⟨not_lt.2 hback.1, not_lt.2 hback.2⟩), if_pos ⟨hback.2, hback.1⟩]
    rw [hkept]
    unfold PsiWindow.add
    rw [getLast?_concat]
    rfl

/-!
# What pruning keeps
-/

def Ordered (h : List Sample) : Prop := h.Pairwise (·.1 < ·.1)

/-- A window of `span` seconds never looks at what was dropped. -/
def Covers (span : ℚ) (full pruned : List Sample) : Prop :=
  ∃ dropped, full = dropped ++ pruned ∧
    (dropped = [] ∨ ∃ first ∈ pruned.head?, ∀ last ∈ pruned.getLast?, first.1 ≤ last.1 - span)

theorem trim_suffix (cut : ℚ) (h : List Sample) :
    ∃ dropped, h = dropped ++ trim cut h ∧
      (dropped = [] ∨ ∃ first ∈ (trim cut h).head?, first.1 ≤ cut) := by
  fun_induction trim cut h with
  | case1 first second rest hle ih =>
    obtain ⟨dropped, hsplit, hfirst⟩ := ih
    refine ⟨first :: dropped, congrArg (first :: ·) hsplit, .inr ?_⟩
    rcases hfirst with rfl | hfirst
    · rw [nil_append] at hsplit
      exact ⟨second, hsplit ▸ rfl, hle⟩
    · exact hfirst
  | case2 first second rest hlater => exact ⟨[], rfl, .inl rfl⟩
  | case3 short hshort => exact ⟨[], rfl, .inl rfl⟩

theorem ordered_extend (hord : Ordered h) {s : Sample} (hs : ∀ last ∈ h.getLast?, Onward last s) :
    Ordered (extend h s) := by
  rcases eq_nil_or_concat' h with rfl | ⟨front, last, rfl⟩
  · exact pairwise_singleton _ _
  · have hle : last.1 ≤ s.1 := (hs last getLast?_concat).1
    obtain ⟨hfront, -, hlast⟩ := pairwise_append.1 hord
    have hbefore : ∀ a ∈ front, a.1 < last.1 := fun a ha => hlast a ha last (.head _)
    rw [extend_snoc]
    split_ifs with heq
    · refine pairwise_append.2 ⟨hfront, pairwise_singleton _ _, fun a ha b hb => ?_⟩
      rw [mem_singleton.1 hb, heq]
      exact hbefore a ha
    · refine pairwise_append.2 ⟨hord, pairwise_singleton _ _, fun a ha b hb => ?_⟩
      have hlt : last.1 < s.1 := lt_of_le_of_ne hle fun h => heq h.symm
      rw [mem_singleton.1 hb]
      rcases mem_append.1 ha with ha | ha
      · exact (hbefore a ha).trans hlt
      · rw [mem_singleton.1 ha]
        exact hlt

theorem covers_extend (h : Covers span full pruned) {s : Sample}
    (hs : ∀ last ∈ pruned.getLast?, Onward last s) :
    Covers span (extend full s) (extend pruned s) := by
  obtain ⟨dropped, rfl, hdropped⟩ := h
  rcases eq_nil_or_concat' pruned with rfl | ⟨front, last, rfl⟩
  · obtain rfl : dropped = [] := hdropped.resolve_right nofun
    exact ⟨[], rfl, .inl rfl⟩
  · refine ⟨dropped, extend_append dropped (by simp) s, hdropped.imp id ?_⟩
    rintro ⟨first, hfirst, hcut⟩
    have hle : first.1 ≤ s.1 - span :=
      (hcut last getLast?_concat).trans (sub_le_sub_right (hs last getLast?_concat).1 _)
    rw [extend_last, extend_snoc]
    simp only [Option.mem_some_iff, forall_eq']
    cases front with
    | nil =>
      obtain rfl : last = first := Option.some.inj hfirst
      split_ifs with heq
      · exact ⟨s, rfl, heq ▸ hle⟩
      · exact ⟨last, rfl, hle⟩
    | cons oldest front =>
      obtain rfl : oldest = first := Option.some.inj hfirst
      split_ifs
      · exact ⟨oldest, rfl, hle⟩
      · exact ⟨oldest, rfl, hle⟩

theorem covers_last (h : Covers span full pruned) : full.getLast? = pruned.getLast? := by
  obtain ⟨dropped, rfl, hdropped⟩ := h
  rcases eq_nil_or_concat' pruned with rfl | ⟨front, last, rfl⟩
  · obtain rfl : dropped = [] := hdropped.resolve_right nofun
    rfl
  · rw [← append_assoc, getLast?_concat, getLast?_concat]

theorem covers_kept (h : Covers span full pruned) (s : Sample) :
    Covers span (kept full s) (kept pruned s) := by
  unfold kept
  rw [covers_last h]
  split_ifs
  · exact h
  · exact ⟨[], rfl, .inl rfl⟩

theorem trim_last (cut : ℚ) (h : List Sample) : (trim cut h).getLast? = h.getLast? := by
  obtain ⟨dropped, hsplit, hdropped⟩ := trim_suffix cut h
  conv_rhs => rw [hsplit]
  rcases hdropped with rfl | ⟨first, hfirst, -⟩
  · rfl
  · rw [getLast?_append_of_ne_nil]
    intro hnil
    rw [hnil] at hfirst
    cases hfirst

theorem covers_trim {span cut : ℚ} (h : Covers span full pruned)
    (hcut : ∀ last ∈ pruned.getLast?, cut ≤ last.1 - span) :
    Covers span full (trim cut pruned) := by
  obtain ⟨dropped, rfl, hdropped⟩ := h
  obtain ⟨dropped', hsplit, hdropped'⟩ := trim_suffix cut pruned
  refine ⟨dropped ++ dropped', by rw [append_assoc, ← hsplit], ?_⟩
  rcases hdropped' with rfl | ⟨first, hfirst, hle⟩
  · rw [nil_append] at hsplit
    rwa [← hsplit, append_nil]
  · refine .inr ⟨first, hfirst, fun last hmem => hle.trans (hcut last ?_)⟩
    rwa [trim_last] at hmem

theorem kept_onward {s : Sample} : ∀ last ∈ (kept h s).getLast?, Onward last s := by
  unfold kept
  split_ifs with hon
  · exact hon
  · nofun

def fill (samples : List (Sample × ℚ)) : PsiWindow :=
  samples.foldl (fun h s => h.add s.1.1 s.1.2 s.2) []

theorem fill_covers (hkeep : ∀ s ∈ samples, span ≤ s.2) :
    Ordered (history (samples.map Prod.fst)) ∧
      Covers span (history (samples.map Prod.fst)) (fill samples) := by
  induction samples using List.reverseRecOn with
  | nil => exact ⟨.nil, [], rfl, .inl rfl⟩
  | append_singleton samples s ih =>
    obtain ⟨hord, hcovers⟩ := ih fun s hs => hkeep s (mem_append_left _ hs)
    have hspan : span ≤ s.2 := hkeep s (by simp)
    have hfill : fill (samples ++ [s]) = (fill samples).add s.1.1 s.1.2 s.2 := by simp [fill]
    rw [map_append, map_singleton, history_snoc, hfill, add_eq]
    refine ⟨ordered_extend ?_ kept_onward, covers_trim (covers_extend (covers_kept hcovers _) kept_onward) ?_⟩
    · unfold kept
      split_ifs
      · exact hord
      · exact .nil
    · intro last hlast
      rw [extend_last] at hlast
      rw [← Option.some.inj hlast]
      exact sub_le_sub_left hspan _

theorem counterAt_append {dropped pruned : List Sample} (hord : Ordered (dropped ++ pruned)) {x : ℚ}
    (hfirst : ∃ first ∈ pruned.head?, first.1 ≤ x) :
    counterAt (dropped ++ pruned) x = counterAt pruned x := by
  obtain ⟨first, hmem, hle⟩ := hfirst
  obtain ⟨pruned, rfl⟩ := head?_eq_some_iff.1 hmem
  have hbefore : ∀ s ∈ dropped, s.1 ≤ x := fun s hs =>
    ((pairwise_append.1 hord).2.2 s hs first (.head _)).le.trans hle
  have hlater : dropped.filter (x < ·.1) = [] :=
    filter_eq_nil_iff.2 fun s hs => by simpa using hbefore s hs
  have hkept : (first :: pruned).filter (·.1 ≤ x) ≠ [] :=
    ne_nil_of_mem (mem_filter.2 ⟨.head _, decide_eq_true hle⟩)
  unfold counterAt
  rw [filter_append, filter_append, hlater, nil_append,
    getLast?_append_of_ne_nil _ hkept]

/-- The counter the code starts from, `base`. -/
def baseOf (cut : ℚ) (h : List Sample) : ℚ :=
  match aroundCut cut h with
  | some (a, some b) =>
    if a.1 < cut then a.2 + ((b.2 : ℚ) - a.2) * (cut - a.1) / (b.1 - a.1) else a.2
  | some (a, none) => a.2
  | none => 0

theorem baseOf_eq {cut : ℚ} (hord : Ordered h) : baseOf cut h = counterAt h cut := by
  fun_induction aroundCut cut h with
  | case1 => rfl
  | case2 only =>
    unfold counterAt
    by_cases h : only.1 ≤ cut
    · simp [h, baseOf, aroundCut]
    · simp [h, baseOf, aroundCut, not_le.1 h]
  | case3 first second rest hle ih =>
    have hbase : baseOf cut (first :: second :: rest) = baseOf cut (second :: rest) := by
      unfold baseOf
      rw [aroundCut, if_pos hle]
    rw [hbase, ih (pairwise_cons.1 hord).2]
    have hsplit : Ordered ([first] ++ second :: rest) := hord
    exact (counterAt_append hsplit ⟨second, rfl, hle⟩).symm
  | case4 first second rest hlater =>
    obtain ⟨hfirst, hrest⟩ := pairwise_cons.1 hord
    have hafter : ∀ s ∈ second :: rest, cut < s.1 := by
      intro s hs
      rcases mem_cons.1 hs with rfl | hs
      · exact not_le.1 hlater
      · exact (not_le.1 hlater).trans ((pairwise_cons.1 hrest).1 s hs)
    have hlate : (second :: rest).filter (cut < ·.1) = second :: rest :=
      filter_eq_self.2 fun s hs => decide_eq_true (hafter s hs)
    have hearly : (second :: rest).filter (·.1 ≤ cut) = [] :=
      filter_eq_nil_iff.2 fun s hs => by simpa using hafter s hs
    unfold baseOf counterAt
    rw [aroundCut, if_neg hlater, filter_cons (x := first), filter_cons (x := first),
      hearly, hlate]
    rcases lt_trichotomy first.1 cut with hlt | heq | hgt
    · simp [hlt, hlt.le, hlt.le.not_gt]
    · simp [heq]
    · simp [hgt, hgt.not_ge, hgt.le.not_gt]

theorem amount_round (d : ℚ) :
    (if 0 < d then amount (d + 1 / 2) else 0) = min (round d).toNat Unlimited := by
  rw [round_eq]
  split_ifs with hpos
  · exact if_neg (by linarith)
  · have hfloor : ⌊d + 1 / 2⌋ ≤ 0 := by
      have hlt : ⌊d + 1 / 2⌋ < 1 := Int.floor_lt.2 (by push_cast; linarith)
      omega
    rw [Int.toNat_of_nonpos hfloor, Nat.zero_min]

theorem stallOver_singleton (only : Sample) (span : ℚ) : stallOver [only] span = 0 := by
  have hcounter : counterAt [only] (only.1 - span) = only.2 := by
    unfold counterAt
    by_cases h : 0 < span
    · simp [h, h.not_ge]
    · simp [h, not_lt.1 h]
  change (only.2 : ℚ) - counterAt [only] (only.1 - span) = 0
  rw [hcounter, sub_self]

theorem over_eq {h : PsiWindow} (hord : Ordered h) (span : ℚ) : h.over span = wholeStall h span := by
  match h, hord with
  | [], _ => simp [PsiWindow.over, wholeStall, stallOver]
  | [only], _ => simp [PsiWindow.over, wholeStall, stallOver_singleton]
  | first :: second :: rest, hord =>
    obtain ⟨last, hlast⟩ : ∃ last, (first :: second :: rest).getLast? = some last :=
      ⟨_, getLast?_eq_some_getLast (cons_ne_nil _ _)⟩
    have hstall : stallOver (first :: second :: rest) span =
        last.2 - baseOf (last.1 - span) (first :: second :: rest) := by
      rw [baseOf_eq hord, stallOver, hlast]
    unfold PsiWindow.over wholeStall
    rw [hstall, ← amount_round]
    simp only [hlast]
    rfl

theorem over_fill (hkeep : ∀ s ∈ samples, span ≤ s.2) :
    (fill samples).over span = wholeStall (history (samples.map Prod.fst)) span := by
  obtain ⟨hord, hcovers⟩ := fill_covers hkeep
  have hlast := covers_last hcovers
  obtain ⟨dropped, hsplit, hdropped⟩ := hcovers
  generalize history (samples.map Prod.fst) = full at *
  subst hsplit
  rw [over_eq (pairwise_append.1 hord).2.1]
  unfold wholeStall stallOver
  rw [hlast]
  rcases hdropped with rfl | ⟨first, hfirst, hcut⟩
  · rfl
  · cases hnewest : (fill samples).getLast? with
    | none => rfl
    | some last =>
      have hcounter := counterAt_append hord ⟨first, hfirst, hcut last hnewest⟩
      simp only [hcounter]

/-!
# The hysteresis of the brake
-/

section

variable (o : Levels)

def measuredMs (updates : List Sample) : ℚ := wholeStall (history updates) 1 / 1000

structure Monotonic (updates : List Sample) : Prop where
  nonneg : ∀ u ∈ updates, 0 ≤ u.1
  forward : updates.Pairwise (·.1 ≤ ·.1)

/-- The brake is on, and every update since the one at the time `t` has measured a low stall. -/
inductive Quiet : List Sample → ℚ → Prop
  | begins {before : List Sample} {u : Sample} (hon : (brakeAfter o before).on = true)
      (hlow : measuredMs (before ++ [u]) < o.resumeMs) : Quiet (before ++ [u]) u.1
  | lasts {before : List Sample} {u : Sample} {t : ℚ} (h : Quiet before t)
      (hon : (brakeAfter o before).on = true) (hlow : measuredMs (before ++ [u]) < o.resumeMs) :
      Quiet (before ++ [u]) t

variable {o}

theorem quiet_snoc {before : List Sample} {u : Sample} {t : ℚ} (h : Quiet o (before ++ [u]) t) :
    (brakeAfter o before).on = true ∧ measuredMs (before ++ [u]) < o.resumeMs ∧
      (t = u.1 ∨ Quiet o before t) := by
  generalize hall : before ++ [u] = updates at h
  cases h with
  | begins hon hlow =>
    obtain ⟨rfl, hu⟩ := append_inj' hall rfl
    cases hu
    exact ⟨hon, hlow, .inl rfl⟩
  | lasts hquiet hon hlow =>
    obtain ⟨rfl, hu⟩ := append_inj' hall rfl
    cases hu
    exact ⟨hon, hlow, .inr hquiet⟩

variable {updates : List Sample} {u : Sample}

theorem quiet_time {t : ℚ} (h : Quiet o updates t) :
    ∃ u ∈ updates, u.1 = t := by
  induction h with
  | begins hon hlow => exact ⟨_, by simp, rfl⟩
  | lasts h hon hlow ih =>
    obtain ⟨u, hmem, rfl⟩ := ih
    exact ⟨u, mem_append_left _ hmem, rfl⟩

theorem brake_window (updates : List Sample) :
    (brakeAfter o updates).w = fill (updates.map fun u => (u, 1)) := by
  induction updates using List.reverseRecOn with
  | nil => rfl
  | append_singleton updates u ih =>
    have hupdate : ∀ b : Brake, (b.update o u).w = b.w.add u.1 u.2 1 := by
      intro b
      unfold Brake.update
      dsimp only
      split_ifs <;> rfl
    rw [brakeAfter_snoc, hupdate, ih]
    simp [fill]

theorem update_measures (updates : List Sample) (u : Sample) :
    (((brakeAfter o updates).w.add u.1 u.2 1).over 1 : ℚ) / 1000 = measuredMs (updates ++ [u]) := by
  have hfill : (brakeAfter o updates).w.add u.1 u.2 1 =
      fill ((updates ++ [u]).map fun u => (u, 1)) := by
    rw [brake_window]
    simp [fill]
  have hkeep : ∀ s ∈ (updates ++ [u]).map fun u => (u, (1 : ℚ)), 1 ≤ s.2 := by
    intro s hs
    obtain ⟨-, -, rfl⟩ := mem_map.1 hs
    exact le_rfl
  have hmap : ((updates ++ [u]).map fun u => (u, (1 : ℚ))).map Prod.fst = updates ++ [u] := by
    rw [map_map]
    exact map_id _
  rw [hfill, over_fill hkeep, hmap]
  rfl

def Brake.since (b : Brake) (t : ℚ) : ℚ := if b.belowSince < 0 then t else b.belowSince

inductive Updated (b : Brake) (t : ℚ) (w : PsiWindow) (stall : ℚ) : Brake → Prop
  | starts (hoff : b.on = false) (hreached : 0 < o.onMs ∧ o.onMs ≤ stall) :
      Updated b t w stall ⟨w, true, -1, stall⟩
  | idle (hoff : b.on = false) (hbelow : ¬ (0 < o.onMs ∧ o.onMs ≤ stall)) :
      Updated b t w stall ⟨w, false, b.belowSince, stall⟩
  | ends (hon : b.on = true) (hlow : stall < o.resumeMs) (hlong : o.resumeSec ≤ t - b.since t) :
      Updated b t w stall ⟨w, false, -1, stall⟩
  | waits (hon : b.on = true) (hlow : stall < o.resumeMs) (hshort : ¬ o.resumeSec ≤ t - b.since t) :
      Updated b t w stall ⟨w, true, b.since t, stall⟩
  | holds (hon : b.on = true) (hhigh : ¬ stall < o.resumeMs) :
      Updated b t w stall ⟨w, true, -1, stall⟩

theorem update_cases (updates : List Sample) (u : Sample) :
    ∃ w, Updated (o := o) (brakeAfter o updates) u.1 w (measuredMs (updates ++ [u]))
      (brakeAfter o (updates ++ [u])) := by
  rw [brakeAfter_snoc, ← update_measures (o := o)]
  generalize brakeAfter o updates = b
  refine ⟨b.w.add u.1 u.2 1, ?_⟩
  unfold Brake.update
  dsimp only
  generalize hsince : (if b.belowSince < 0 then u.1 else b.belowSince) = since
  obtain rfl : b.since u.1 = since := hsince
  split_ifs with hoff hreached hlow hlong
  · exact .starts hoff hreached
  · exact .idle hoff hreached
  · exact .ends (by simpa using hoff) hlow hlong
  · exact .waits (by simpa using hoff) hlow hlong
  · exact .holds (by simpa using hoff) hlow

/-- While the brake is on, `belowSince` is the start of the longest quiet streak. -/
def Waiting (updates : List Sample) (since : ℚ) : Prop :=
  (since = -1 ∧ ∀ t, ¬ Quiet o updates t) ∨
    (0 ≤ since ∧ Quiet o updates since ∧ ∀ t, Quiet o updates t → since ≤ t)

theorem waiting_since (hclock : Monotonic (updates ++ [u]))
    (hon : (brakeAfter o updates).on = true) (hlow : measuredMs (updates ++ [u]) < o.resumeMs)
    (h : Waiting (o := o) updates (brakeAfter o updates).belowSince) :
    0 ≤ (brakeAfter o updates).since u.1 ∧
      Quiet o (updates ++ [u]) ((brakeAfter o updates).since u.1) ∧
      ∀ t, Quiet o (updates ++ [u]) t → (brakeAfter o updates).since u.1 ≤ t := by
  rcases h with ⟨hsince, hnone⟩ | ⟨hsince, hquiet, hfirst⟩
  · have hnow : (brakeAfter o updates).since u.1 = u.1 := by
      rw [Brake.since, hsince]
      exact if_pos (by norm_num)
    rw [hnow]
    refine ⟨hclock.nonneg u (by simp), .begins hon hlow, fun t ht => ?_⟩
    obtain ⟨-, -, heq | hquiet⟩ := quiet_snoc ht
    · exact heq.ge
    · exact absurd hquiet (hnone t)
  · have hkept : (brakeAfter o updates).since u.1 = (brakeAfter o updates).belowSince :=
      if_neg (not_lt.2 hsince)
    rw [hkept]
    refine ⟨hsince, .lasts hquiet hon hlow, fun t ht => ?_⟩
    obtain ⟨-, -, rfl | hquiet'⟩ := quiet_snoc ht
    · obtain ⟨s, hs, hstart⟩ := quiet_time hquiet
      rw [← hstart]
      exact (pairwise_append.1 hclock.forward).2.2 s hs u (.head _)
    · exact hfirst t hquiet'

theorem monotonic_init (h : Monotonic (updates ++ [u])) :
    Monotonic updates :=
  ⟨fun s hs => h.nonneg s (mem_append_left _ hs), (pairwise_append.1 h.forward).1⟩

theorem brake_waiting (hclock : Monotonic updates) (hon : (brakeAfter o updates).on = true) :
    Waiting (o := o) updates (brakeAfter o updates).belowSince := by
  induction updates using List.reverseRecOn with
  | nil => cases hon
  | append_singleton updates u ih =>
    have ih' := ih (monotonic_init hclock)
    obtain ⟨w, hcase⟩ := update_cases (o := o) updates u
    generalize hafter : brakeAfter o (updates ++ [u]) = after at *
    cases hcase with
    | starts hoff hreached =>
      refine .inl ⟨rfl, fun t ht => ?_⟩
      rw [(quiet_snoc ht).1] at hoff
      cases hoff
    | idle hoff hbelow => cases hon
    | ends hbefore hlow hlong => cases hon
    | waits hbefore hlow hshort => exact .inr (waiting_since hclock hbefore hlow (ih' hbefore))
    | holds hbefore hhigh => exact .inl ⟨rfl, fun t ht => hhigh (quiet_snoc ht).2.1⟩

theorem on_iff (hoff : (brakeAfter o updates).on = false) :
    (brakeAfter o (updates ++ [u])).on = true ↔
      0 < o.onMs ∧ o.onMs ≤ measuredMs (updates ++ [u]) := by
  obtain ⟨w, hcase⟩ := update_cases (o := o) updates u
  generalize brakeAfter o (updates ++ [u]) = after at *
  cases hcase with
  | starts _ hreached => exact ⟨fun _ => hreached, fun _ => rfl⟩
  | idle _ hbelow => exact ⟨nofun, fun h => absurd h hbelow⟩
  | ends hon hlow hlong => rw [hoff] at hon; cases hon
  | waits hon hlow hshort => rw [hoff] at hon; cases hon
  | holds hon hhigh => rw [hoff] at hon; cases hon

theorem off_iff (hclock : Monotonic (updates ++ [u])) (hon : (brakeAfter o updates).on = true) :
    (brakeAfter o (updates ++ [u])).on = false ↔
      ∃ t, Quiet o (updates ++ [u]) t ∧ o.resumeSec ≤ u.1 - t := by
  have hwaiting := brake_waiting (monotonic_init hclock) hon
  obtain ⟨w, hcase⟩ := update_cases (o := o) updates u
  generalize hafter : brakeAfter o (updates ++ [u]) = after at *
  cases hcase with
  | starts hoff hreached => rw [hoff] at hon; cases hon
  | idle hoff hbelow => rw [hoff] at hon; cases hon
  | ends _ hlow hlong =>
    obtain ⟨-, hquiet, -⟩ := waiting_since hclock hon hlow hwaiting
    exact ⟨fun _ => ⟨_, hquiet, hlong⟩, fun _ => rfl⟩
  | waits _ hlow hshort =>
    obtain ⟨-, -, hfirst⟩ := waiting_since hclock hon hlow hwaiting
    refine ⟨nofun, ?_⟩
    rintro ⟨t, hquiet, hlong⟩
    exact absurd (hlong.trans (sub_le_sub_left (hfirst t hquiet) _)) hshort
  | holds _ hhigh =>
    refine ⟨nofun, ?_⟩
    rintro ⟨t, hquiet, -⟩
    exact absurd (quiet_snoc hquiet).2.1 hhigh

variable (o)

/-- Pruning does not change what a window measures, and the brake goes on at its level, if that is
positive, and off after a quiet streak of `resumeSec` seconds. -/
theorem psi_window_and_brake {span : ℚ} {samples : List (Sample × ℚ)}
    (hkeep : ∀ s ∈ samples, span ≤ s.2) (updates : List Sample) (u : Sample) :
    (fill samples).over span = wholeStall (history (samples.map Prod.fst)) span ∧
      ((brakeAfter o updates).on = false →
        ((brakeAfter o (updates ++ [u])).on = true ↔
          0 < o.onMs ∧ o.onMs ≤ measuredMs (updates ++ [u]))) ∧
      (Monotonic (updates ++ [u]) → (brakeAfter o updates).on = true →
        ((brakeAfter o (updates ++ [u])).on = false ↔
          ∃ t, Quiet o (updates ++ [u]) t ∧ o.resumeSec ≤ u.1 - t)) :=
  ⟨over_fill hkeep, on_iff, off_iff⟩

end

def burst : List Sample := [(0, 0), (1 / 2, 40000)]

theorem burst_monotonic : Monotonic (burst ++ [(8 / 5, 40000)]) :=
  ⟨by decide +kernel, by decide +kernel⟩

theorem burst_brakes :
    (brakeAfter ⟨30, 15, 0⟩ burst).on = true ∧
      ((brakeAfter ⟨30, 15, 0⟩ (burst ++ [(8 / 5, 40000)])).on = false ↔
        ∃ t, Quiet ⟨30, 15, 0⟩ (burst ++ [(8 / 5, 40000)]) t ∧ 0 ≤ 8 / 5 - t) := by
  have hon : (brakeAfter ⟨30, 15, 0⟩ burst).on = true := by decide +kernel
  have hwindow := @psi_window_and_brake ⟨30, 15, 0⟩ 1 [((0, 0), 1)] (by decide +kernel) burst
    (8 / 5, 40000)
  exact ⟨hon, hwindow.2.2 burst_monotonic hon⟩

/-- A clock that goes back from 8/5 to 1 in a quiet streak: the brake counts from 8/5. -/
theorem clock_back_holds : ¬ ∀ (o : Levels) (updates : List Sample) (u : Sample),
    (brakeAfter o updates).on = true → ((brakeAfter o (updates ++ [u])).on = false ↔
      ∃ t, Quiet o (updates ++ [u]) t ∧ o.resumeSec ≤ u.1 - t) := by
  intro h
  have hback : Quiet ⟨30, 15, 2⟩ ((burst ++ [(8 / 5, 40000)]) ++ [(1, 40000)]) 1 :=
    .begins (by decide +kernel) (by decide +kernel)
  have hquiet := hback.lasts (u := (3, 40000)) (by decide +kernel) (by decide +kernel)
  have hoff := (h ⟨30, 15, 2⟩ _ (3, 40000) (by decide +kernel)).2 ⟨1, hquiet, by decide +kernel⟩
  revert hoff
  decide +kernel

/-- A brake without a level stays off, whatever it measures. -/
theorem no_level_never_brakes : ¬ ∀ (o : Levels) (updates : List Sample) (u : Sample),
    Monotonic (updates ++ [u]) → (brakeAfter o updates).on = false →
      ((brakeAfter o (updates ++ [u])).on = true ↔ o.onMs ≤ measuredMs (updates ++ [u])) := by
  intro h
  have hbrakes := (h ⟨0, 15, 2⟩ [(0, 0)] (1 / 2, 900000) ⟨by decide +kernel, by decide +kernel⟩
    (by decide +kernel)).2 (by decide +kernel)
  revert hbrakes
  decide +kernel

end Parp.PsiBrake
