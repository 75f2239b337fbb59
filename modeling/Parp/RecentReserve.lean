import Parp.Binary64
import Parp.RollingWindow
import Parp.TmoPacing

set_option autoImplicit false

/-!
# The recent reserve

`daily_recent_reserve.hpp`: how far available memory fell lately, held for some time as a target for
free memory. A double is its value, every operation is rounded; a time is absent when it is not finite.
-/
namespace Parp.RecentReserve

open CorrectRounding TmoPacing List

section

def fsub (a b : ℚ) : ℚ := binary64 (a - b)

def fadd (a b : ℚ) : ℚ := binary64 (a + b)

theorem fsub_le_fsub {a a' b b' : ℚ} (ha : a ≤ a') (hb : b' ≤ b) : fsub a b ≤ fsub a' b' :=
  binary64_mono (sub_le_sub ha hb)

structure Options where
  readyFree : Bytes := 256 * 2 ^ 20
  dailyRecentReserve : Bool := false
  dailyRecentWindowSec : ℚ := 30
  dailyRecentHoldSec : ℚ := 60
  dailyRecentCapFraction : ℚ := 1 / 2

structure System where
  time : Option ℚ
  total : Bytes
  available : Bytes
  free : Bytes

structure Snapshot where
  target : Bytes := 0
  signal : Bytes := 0
  total : Bytes := 0
  sampledAt : ℚ := 0
  expiresAt : ℚ := 0
  epoch : UInt64 := 0
  valid : Bool := false

def freshSeconds : ℚ := 5

variable (o : Options)

/-- `amount(static_cast<double>(total)*o.dailyRecentCapFraction)` -/
def capOf (total : Bytes) : Bytes := amount (binary64 (binary64 total * o.dailyRecentCapFraction))

def boundedTarget (total signal : Bytes) : Bytes :=
  max o.readyFree (min (capOf o total) (add o.readyFree signal))

def fresh (s : Snapshot) (now : Option ℚ) (total : Bytes) : Bool :=
  match now with
  | none => false
  | some now =>
    s.valid && decide (s.total = total) && decide (s.sampledAt ≤ now) &&
      decide (fsub now s.sampledAt < freshSeconds) && decide (now ≤ s.expiresAt)

def targetAt (s : Snapshot) (now : Option ℚ) (total : Bytes) : Bytes :=
  if (o.dailyRecentReserve && fresh s now total) = true then
    min s.target (boundedTarget o total s.signal)
  else o.readyFree

def workerTarget (reserved latest : Snapshot) (now : Option ℚ) (total : Bytes) : Bytes :=
  if o.dailyRecentReserve = false ∨ reserved.epoch ≠ latest.epoch then o.readyFree
  else min (targetAt o reserved now total) (targetAt o latest now total)

end

section

structure Store where
  available : List (ℚ × Bytes) := []
  drops : List (ℚ × Bytes) := []
  snapshot : Snapshot := {}
  last : ℚ := 0
  total : Bytes := 0
  epoch : UInt64 := 0

def Store.reset (s : Store) : Store := { epoch := s.epoch + 1 }

variable (o : Options)

/-- `first < s.time - o.dailyRecentWindowSec` -/
def outsideWindow (now t : ℚ) : Bool := decide (t < fsub now o.dailyRecentWindowSec)

/-- `s.time - first > o.dailyRecentHoldSec` -/
def heldOut (now t : ℚ) : Bool := decide (o.dailyRecentHoldSec < fsub now t)

def strongest (now : ℚ) (drops : List (ℚ × Bytes)) : Bytes × ℚ :=
  drops.foldl (fun best sample =>
    if best.1 ≤ sample.2 then (sample.2, fadd sample.1 o.dailyRecentHoldSec) else best) (0, now)

/-- The branch of `update` for a sample that continues what is stored. -/
def Store.record (s : Store) (now : ℚ) (sys : System) : Store :=
  let available := RollingWindow.live (outsideWindow o) now s.available
  let peak := available.foldl (fun peak sample => max peak sample.2) sys.available
  let drop := peak - sys.available
  let drops := RollingWindow.live (heldOut o) now
    (if drop ≠ 0 then s.drops ++ [(now, drop)] else s.drops)
  let (signal, expiry) := strongest o now drops
  { s with
    last := now
    total := sys.total
    available := available ++ [(now, sys.available)]
    drops := drops
    snapshot := ⟨boundedTarget o sys.total signal, signal, sys.total, now, expiry, s.epoch,
      decide (signal ≠ 0)⟩ }

/-- `update`; what it returns is the snapshot of the store. -/
def Store.update (s : Store) (sys : System) : Store :=
  if o.dailyRecentReserve = false then s.reset
  else match sys.time with
    | none => s.reset
    | some now =>
      if now ≤ 0 ∨ sys.total = 0 ∨ sys.total < sys.available ∨ sys.total < sys.free then s.reset
      else if s.last ≠ 0 ∧ (now ≤ s.last ∨ o.dailyRecentWindowSec < fsub now s.last ∨
          sys.total ≠ s.total) then s.reset.record o now sys
      else s.record o now sys

inductive Call
  | update (sys : System)
  | invalidate

def Store.call (s : Store) : Call → Store
  | .update sys => s.update o sys
  | .invalidate => s.reset

def Store.run (s : Store) (calls : List Call) : Store := calls.foldl (Store.call o) s

end

/-!
# What the store remembers
-/

section

variable (o : Options)

structure History where
  samples : List (ℚ × Bytes) := []
  total : Bytes := 0

def accepted (sys : System) : Option ℚ :=
  if o.dailyRecentReserve = true ∧ sys.total ≠ 0 ∧ sys.available ≤ sys.total ∧
      sys.free ≤ sys.total then
    sys.time.filter fun now => 0 < now
  else none

def History.Breaks (h : History) (now : ℚ) (sys : System) : Prop :=
  ∃ last ∈ h.samples.getLast?, now ≤ last.1 ∨ o.dailyRecentWindowSec < fsub now last.1 ∨
    sys.total ≠ h.total

instance decidableBreaks (h : History) (now : ℚ) (sys : System) : Decidable (h.Breaks o now sys) := by
  unfold History.Breaks
  infer_instance

def History.observe (h : History) (sys : System) : History :=
  match accepted o sys with
  | none => {}
  | some now =>
    if h.Breaks o now sys then ⟨[(now, sys.available)], sys.total⟩
    else ⟨h.samples ++ [(now, sys.available)], sys.total⟩

def History.call (h : History) : Call → History
  | .update sys => h.observe o sys
  | .invalidate => {}

def historyOf (calls : List Call) : History := calls.foldl (History.call o) {}

def dropAt (before : List (ℚ × Bytes)) (sample : ℚ × Bytes) : Bytes :=
  ((before.filter fun e => !outsideWindow o sample.1 e.1).map fun e => e.2 - sample.2).foldl max 0

def dropsFrom (before : List (ℚ × Bytes)) : List (ℚ × Bytes) → List (ℚ × Bytes)
  | [] => []
  | sample :: rest => (sample.1, dropAt o before sample) :: dropsFrom (before ++ [sample]) rest

theorem dropsFrom_concat (before samples : List (ℚ × Bytes)) (sample : ℚ × Bytes) :
    dropsFrom o before (samples ++ [sample]) =
      dropsFrom o before samples ++ [(sample.1, dropAt o (before ++ samples) sample)] := by
  induction samples generalizing before with
  | nil => rw [append_nil]; rfl
  | cons first samples ih =>
    rw [cons_append, dropsFrom, dropsFrom, ih, append_assoc]
    rfl

theorem mem_dropsFrom {before samples : List (ℚ × Bytes)} {u : ℚ} {d : Bytes} :
    (u, d) ∈ dropsFrom o before samples ↔ ∃ front a back, samples = front ++ (u, a) :: back ∧
      d = dropAt o (before ++ front) (u, a) := by
  induction samples generalizing before with
  | nil => simp [dropsFrom]
  | cons first samples ih =>
    rw [dropsFrom, mem_cons, ih]
    constructor
    · rintro (hfirst | ⟨front, a, back, hsplit, hd⟩)
      · obtain ⟨rfl, rfl⟩ := Prod.mk.inj hfirst
        exact ⟨[], first.2, samples, rfl, by rw [append_nil]⟩
      · exact ⟨first :: front, a, back, by rw [hsplit]; rfl, by rw [hd, append_assoc]; rfl⟩
    · rintro ⟨front, a, back, hsplit, hd⟩
      cases front with
      | nil =>
        obtain ⟨rfl, -⟩ := List.cons.inj hsplit
        rw [append_nil] at hd
        exact .inl (by rw [hd])
      | cons head front =>
        obtain ⟨rfl, hrest⟩ := List.cons.inj hsplit
        exact .inr ⟨front, a, back, hrest, by rw [hd, append_assoc]; rfl⟩

theorem dropsFrom_times (before samples : List (ℚ × Bytes)) :
    (dropsFrom o before samples).map Prod.fst = samples.map Prod.fst := by
  induction samples generalizing before with
  | nil => rfl
  | cons first samples ih => rw [dropsFrom, map_cons, map_cons, ih]

end

section

variable {o : Options}

theorem outsideWindow_later {earlier now t : ℚ} (h : earlier ≤ now)
    (hpast : outsideWindow o earlier t = true) : outsideWindow o now t = true := by
  unfold outsideWindow at hpast ⊢
  rw [decide_eq_true_iff] at hpast ⊢
  exact hpast.trans_le (fsub_le_fsub h le_rfl)

theorem outsideWindow_before {now t t' : ℚ} (h : t ≤ t') (hpast : outsideWindow o now t' = true) :
    outsideWindow o now t = true := by
  unfold outsideWindow at hpast ⊢
  rw [decide_eq_true_iff] at hpast ⊢
  exact h.trans_lt hpast

theorem heldOut_later {earlier now t : ℚ} (h : earlier ≤ now) (hpast : heldOut o earlier t = true) :
    heldOut o now t = true := by
  unfold heldOut at hpast ⊢
  rw [decide_eq_true_iff] at hpast ⊢
  exact hpast.trans_le (fsub_le_fsub h le_rfl)

theorem heldOut_before {now t t' : ℚ} (h : t ≤ t') (hpast : heldOut o now t' = true) :
    heldOut o now t = true := by
  unfold heldOut at hpast ⊢
  rw [decide_eq_true_iff] at hpast ⊢
  exact hpast.trans_le (fsub_le_fsub le_rfl h)

theorem peak_sub (samples : List (ℚ × Bytes)) (a : Bytes) :
    samples.foldl (fun peak sample => max peak sample.2) a - a =
      (samples.map fun e => e.2 - a).foldl max 0 := by
  have hfrom (peak : Bytes) : samples.foldl (fun peak sample => max peak sample.2) peak - a =
      (samples.map fun e => e.2 - a).foldl max (peak - a) := by
    induction samples generalizing peak with
    | nil => rfl
    | cons sample samples ih =>
      rw [foldl_cons, ih, map_cons, foldl_cons, Nat.sub_max_sub_right]
  rw [hfrom, Nat.sub_self]

variable (o)

structure Tracks (s : Store) (h : History) : Prop where
  sorted : h.samples.Pairwise fun e e' => e.1 < e'.1
  positive : ∀ e ∈ h.samples, 0 < e.1
  last : s.last = (h.samples.getLast?.map Prod.fst).getD 0
  total : h.samples ≠ [] → s.total = h.total
  recent : s.available.Sublist h.samples
  window : ∀ now, s.last ≤ now → (s.available.filter fun e => !outsideWindow o now e.1) =
    h.samples.filter fun e => !outsideWindow o now e.1
  drops : s.drops = ((dropsFrom o [] h.samples).filter fun e => e.2 ≠ 0).filter
    fun e => !heldOut o s.last e.1

theorem reset_tracks (s : Store) : Tracks o s.reset {} :=
  ⟨.nil, nofun, rfl, fun h => absurd rfl h, .slnil, fun _ _ => rfl, rfl⟩

variable {o} {s : Store} {h : History} {now : ℚ} {sys : System} (ht : Tracks o s h)

include ht

theorem Tracks.last_eq_zero_iff : s.last = 0 ↔ h.samples = [] := by
  rw [ht.last]
  cases hlast : h.samples.getLast? with
  | none => exact ⟨fun _ => getLast?_eq_none_iff.1 hlast, fun _ => rfl⟩
  | some e =>
    have hmem := mem_of_getLast? hlast
    refine ⟨fun hzero => absurd hzero (ht.positive e hmem).ne', fun hnil => ?_⟩
    rw [hnil] at hmem
    cases hmem

theorem Tracks.before (hlast : s.last < now) {e : ℚ × Bytes} (hmem : e ∈ h.samples) :
    e.1 < now := by
  obtain ⟨front, last, hsplit⟩ := (eq_nil_or_concat' h.samples).resolve_left
    (ne_nil_of_mem hmem)
  have hend : s.last = last.1 := by
    rw [ht.last, hsplit, getLast?_concat]
    rfl
  have hsorted := ht.sorted
  rw [hsplit] at hmem hsorted
  rcases mem_append.1 hmem with hfront | hsame
  · have hless := (pairwise_append.1 hsorted).2.2 e hfront last (.head _)
    exact hless.trans (hend ▸ hlast)
  · rw [mem_singleton.1 hsame]
    exact hend ▸ hlast

theorem Tracks.live_available (hlast : s.last ≤ now) :
    RollingWindow.live (outsideWindow o) now s.available =
      h.samples.filter fun e => !outsideWindow o now e.1 := by
  rw [RollingWindow.live_eq_filter, ht.window now hlast]
  exact (ht.sorted.sublist ht.recent).imp fun hless => outsideWindow_before hless.le

theorem Tracks.drop_eq (hlast : s.last ≤ now) :
    (RollingWindow.live (outsideWindow o) now s.available).foldl
        (fun peak sample => max peak sample.2) sys.available - sys.available =
      dropAt o h.samples (now, sys.available) := by
  rw [ht.live_available hlast, peak_sub]
  rfl

theorem Tracks.live_drops (hlast : s.last < now) (d : Bytes) :
    RollingWindow.live (heldOut o) now (if d ≠ 0 then s.drops ++ [(now, d)] else s.drops) =
      ((dropsFrom o [] h.samples ++ [(now, d)]).filter fun e => e.2 ≠ 0).filter
        fun e => !heldOut o now e.1 := by
  have hnew : (if d ≠ 0 then s.drops ++ [(now, d)] else s.drops) =
      s.drops ++ [(now, d)].filter fun e => e.2 ≠ 0 := by
    by_cases hd : d = 0 <;> simp [hd]
  have hsorted : (dropsFrom o [] h.samples ++ [(now, d)]).Pairwise fun e e' => e.1 < e'.1 := by
    refine pairwise_append.2 ⟨?_, pairwise_singleton _ _, fun e he e' he' => ?_⟩
    · have htimes := ht.sorted
      rwa [← pairwise_map (f := Prod.fst) (R := (· < ·)), ← dropsFrom_times o [],
        pairwise_map] at htimes
    · have htime : e.1 ∈ h.samples.map Prod.fst := by
        rw [← dropsFrom_times o []]
        exact mem_map_of_mem he
      obtain ⟨sample, hsample, hsame⟩ := mem_map.1 htime
      rw [mem_singleton.1 he', ← hsame]
      exact ht.before hlast hsample
  have hsub : (s.drops ++ [(now, d)].filter fun e => e.2 ≠ 0).Sublist
      (dropsFrom o [] h.samples ++ [(now, d)]) := by
    rw [ht.drops]
    exact (filter_sublist.trans filter_sublist).append filter_sublist
  rw [hnew, RollingWindow.live_eq_filter _
    ((hsorted.sublist hsub).imp fun hless => heldOut_before hless.le), filter_append, ht.drops,
    filter_append, filter_append, filter_filter]
  congr 1
  refine filter_congr fun e _ => ?_
  cases hnow : heldOut o now e.1 with
  | true => rfl
  | false =>
    have hbefore : heldOut o s.last e.1 = false := by
      by_contra hpast
      rw [heldOut_later hlast.le (by simpa using hpast)] at hnow
      cases hnow
    rw [hbefore]
    rfl

theorem Tracks.record (hpos : 0 < now) (hlast : s.last < now) :
    Tracks o (s.record o now sys) ⟨h.samples ++ [(now, sys.available)], sys.total⟩ := by
  have hlive := ht.live_available hlast.le
  constructor
  · refine pairwise_append.2 ⟨ht.sorted, pairwise_singleton _ _, fun e he e' he' => ?_⟩
    rw [mem_singleton.1 he']
    exact ht.before hlast he
  · intro e he
    rcases mem_append.1 he with he | he
    · exact ht.positive e he
    · rw [mem_singleton.1 he]
      exact hpos
  · dsimp only
    rw [getLast?_concat]
    rfl
  · exact fun _ => rfl
  · change (RollingWindow.live _ _ _ ++ _).Sublist _
    rw [hlive]
    exact filter_sublist.append (List.Sublist.refl _)
  · intro later hlater
    change now ≤ later at hlater
    change (List.filter _ (RollingWindow.live _ _ _ ++ _)) = _
    rw [hlive, filter_append, filter_append, filter_filter]
    congr 1
    refine filter_congr fun e _ => ?_
    cases hout : outsideWindow o later e.1 with
    | true => rfl
    | false =>
      have hbefore : outsideWindow o now e.1 = false := by
        by_contra hpast
        rw [outsideWindow_later hlater (by simpa using hpast)] at hout
        cases hout
      rw [hbefore]
      rfl
  · change RollingWindow.live _ _ _ = _
    rw [ht.drop_eq hlast.le, ht.live_drops hlast, dropsFrom_concat]
    rfl

end

section

variable {o : Options}

/-- What `strongest` finds. -/
structure Strongest (o : Options) (now : ℚ) (drops : List (ℚ × Bytes)) (found : Bytes × ℚ) : Prop where
  bound : ∀ e ∈ drops, e.2 ≤ found.1
  latest : drops ≠ [] → ∃ front e back, drops = front ++ e :: back ∧ found.1 = e.2 ∧
    found.2 = fadd e.1 o.dailyRecentHoldSec ∧ ∀ e' ∈ back, e'.2 ≠ found.1
  empty : drops = [] → found = (0, now)

theorem strongest_spec (now : ℚ) (drops : List (ℚ × Bytes)) :
    Strongest o now drops (strongest o now drops) := by
  induction drops using List.reverseRecOn with
  | nil => exact ⟨nofun, fun h => absurd rfl h, fun _ => rfl⟩
  | append_singleton drops x ih =>
    have hstep : strongest o now (drops ++ [x]) =
        if (strongest o now drops).1 ≤ x.2 then (x.2, fadd x.1 o.dailyRecentHoldSec)
        else strongest o now drops := by
      unfold strongest
      rw [foldl_append]
      rfl
    rw [hstep]
    split_ifs with hle
    · refine ⟨fun e he => ?_, fun _ => ⟨drops, x, [], rfl, rfl, rfl, nofun⟩, fun h => ?_⟩
      · rcases mem_append.1 he with he | he
        · exact (ih.bound e he).trans hle
        · rw [mem_singleton.1 he]
      · exact absurd h (by simp)
    · have hless := not_le.1 hle
      refine ⟨fun e he => ?_, fun _ => ?_, fun h => absurd h (by simp)⟩
      · rcases mem_append.1 he with he | he
        · exact ih.bound e he
        · rw [mem_singleton.1 he]
          exact hless.le
      · by_cases hnil : drops = []
        · rw [ih.empty hnil] at hless
          exact absurd hless (Nat.not_lt_zero _)
        · obtain ⟨front, e, back, hsplit, hsignal, hexpiry, hback⟩ := ih.latest hnil
          refine ⟨front, e, back ++ [x], by rw [hsplit, append_assoc]; rfl, hsignal, hexpiry,
            fun e' he' => ?_⟩
          rcases mem_append.1 he' with he' | he'
          · exact hback e' he'
          · rw [mem_singleton.1 he']
            exact hless.ne

variable (o)

/-- In the samples a drop by `d` is observed at `u`. -/
def Observed (samples : List (ℚ × Bytes)) (u : ℚ) (d : Bytes) : Prop :=
  ∃ front a back, samples = front ++ (u, a) :: back ∧ d = dropAt o front (u, a)

/-- The published signal is the largest drop that is held, its expiry is the end of the hold, and the
target is between the ready-free line and its cap. -/
structure Published (h : History) (now : ℚ) (snap : Snapshot) : Prop where
  bound : ∀ u d, Observed o h.samples u d → heldOut o now u = false → d ≤ snap.signal
  observed : snap.signal ≠ 0 → ∃ u, Observed o h.samples u snap.signal ∧ heldOut o now u = false ∧
    snap.expiresAt = fadd u o.dailyRecentHoldSec ∧
    ∀ u', Observed o h.samples u' snap.signal → heldOut o now u' = false → u' ≤ u
  target : o.readyFree ≤ snap.target ∧ snap.target ≤ max o.readyFree (capOf o snap.total)
  total : snap.total = h.total
  sampled : snap.sampledAt = now
  valid : snap.valid = true ↔ snap.signal ≠ 0

variable {o} {s : Store} {h : History} {now : ℚ} {sys : System}

theorem boundedTarget_bounds (total signal : Bytes) :
    o.readyFree ≤ boundedTarget o total signal ∧
      boundedTarget o total signal ≤ max o.readyFree (capOf o total) :=
  ⟨le_max_left _ _, max_le_max le_rfl (min_le_left _ _)⟩

theorem Tracks.published (ht : Tracks o s h) (hlast : s.last < now) :
    Published o ⟨h.samples ++ [(now, sys.available)], sys.total⟩ now
      (s.record o now sys).snapshot := by
  have hsnapshot : (s.record o now sys).snapshot =
      ⟨boundedTarget o sys.total (strongest o now (s.record o now sys).drops).1,
        (strongest o now (s.record o now sys).drops).1, sys.total, now,
        (strongest o now (s.record o now sys).drops).2, s.epoch,
        decide ((strongest o now (s.record o now sys).drops).1 ≠ 0)⟩ := rfl
  have hdrops : (s.record o now sys).drops =
      ((dropsFrom o [] (h.samples ++ [(now, sys.available)])).filter fun e => e.2 ≠ 0).filter
        fun e => !heldOut o now e.1 := by
    change RollingWindow.live _ _ _ = _
    rw [ht.drop_eq hlast.le, ht.live_drops hlast, dropsFrom_concat]
    rfl
  -- what the list of drops holds
  have hmem : ∀ u d, (u, d) ∈ (s.record o now sys).drops ↔
      Observed o (h.samples ++ [(now, sys.available)]) u d ∧ d ≠ 0 ∧ heldOut o now u = false := by
    intro u d
    rw [hdrops, mem_filter, mem_filter, mem_dropsFrom, and_assoc]
    simp only [nil_append, ne_eq, decide_not, Bool.not_eq_eq_eq_not, Bool.not_true,
      decide_eq_false_iff_not]
    rfl
  have hsorted : (s.record o now sys).drops.Pairwise fun e e' => e.1 < e'.1 := by
    have htimes : ((dropsFrom o [] (h.samples ++ [(now, sys.available)])).map Prod.fst).Pairwise
        (· < ·) := by
      rw [dropsFrom_times, pairwise_map]
      refine pairwise_append.2 ⟨ht.sorted, pairwise_singleton _ _, fun e he e' he' => ?_⟩
      rw [mem_singleton.1 he']
      exact ht.before hlast he
    rw [hdrops]
    exact (pairwise_map.1 htimes).sublist (filter_sublist.trans filter_sublist)
  obtain ⟨hbound, hfound, hempty⟩ := strongest_spec (o := o) now (s.record o now sys).drops
  rw [hsnapshot]
  generalize strongest o now (s.record o now sys).drops = found at *
  generalize (s.record o now sys).drops = drops at *
  refine ⟨fun u d hobserved hheld => ?_, fun hsignal => ?_, boundedTarget_bounds _ _, rfl, rfl,
    decide_eq_true_iff⟩
  · by_cases hd : d = 0
    · rw [hd]
      exact Nat.zero_le _
    · exact hbound (u, d) ((hmem u d).2 ⟨hobserved, hd, hheld⟩)
  · dsimp only at hsignal ⊢
    have hne : drops ≠ [] := fun hnil => hsignal (by rw [hempty hnil])
    obtain ⟨front, e, back, hsplit, hvalue, hexpiry, hback⟩ := hfound hne
    obtain ⟨hobserved, -, hheld⟩ := (hmem e.1 e.2).1 (by rw [hsplit]; simp)
    refine ⟨e.1, hvalue ▸ hobserved, hheld, hexpiry, fun u' hobserved' hheld' => ?_⟩
    have hin := (hmem u' found.1).2 ⟨hobserved', hsignal, hheld'⟩
    rw [hsplit] at hin hsorted
    rcases mem_append.1 hin with hfront | hrest
    · exact ((pairwise_append.1 hsorted).2.2 _ hfront e (.head _)).le
    · rcases mem_cons.1 hrest with hsame | hlater
      · rw [← hsame]
      · exact absurd rfl (hback _ hlater)

end

section

variable (o : Options)

def History.Interrupts (h : History) (sys : System) : Prop :=
  ∀ now, accepted o sys = some now → h.Breaks o now sys

inductive Updated (s : Store) (h : History) (sys : System) : Store → History → Prop
  | refused (hrefused : accepted o sys = none) : Updated s h sys s.reset {}
  | broken {now : ℚ} (haccepted : accepted o sys = some now) (hbreaks : h.Breaks o now sys) :
      Updated s h sys (s.reset.record o now sys) ⟨[(now, sys.available)], sys.total⟩
  | continued {now : ℚ} (haccepted : accepted o sys = some now) (hbreaks : ¬ h.Breaks o now sys) :
      Updated s h sys (s.record o now sys) ⟨h.samples ++ [(now, sys.available)], sys.total⟩

variable {o} {s : Store} {h : History} {sys : System}

theorem accepted_eq_some_iff {now : ℚ} : accepted o sys = some now ↔
    o.dailyRecentReserve = true ∧ sys.time = some now ∧ 0 < now ∧ sys.total ≠ 0 ∧
      sys.available ≤ sys.total ∧ sys.free ≤ sys.total := by
  unfold accepted
  constructor
  · intro h
    split_ifs at h with hchecks
    rw [Option.filter_eq_some_iff, decide_eq_true_iff] at h
    exact ⟨hchecks.1, h.1, h.2, hchecks.2⟩
  · rintro ⟨hon, htime, hpos, hchecks⟩
    rw [if_pos ⟨hon, hchecks⟩, Option.filter_eq_some_iff, decide_eq_true_iff]
    exact ⟨htime, hpos⟩

theorem Tracks.breaks_iff (ht : Tracks o s h) (now : ℚ) :
    (s.last ≠ 0 ∧ (now ≤ s.last ∨ o.dailyRecentWindowSec < fsub now s.last ∨ sys.total ≠ s.total)) ↔
      h.Breaks o now sys := by
  have hzero := ht.last_eq_zero_iff
  unfold History.Breaks
  cases hlast : h.samples.getLast? with
  | none =>
    have hnil := getLast?_eq_none_iff.1 hlast
    exact ⟨fun hbreak => absurd (hzero.2 hnil) hbreak.1, nofun⟩
  | some e =>
    have hne : h.samples ≠ [] := ne_nil_of_mem (mem_of_getLast? hlast)
    have hend : s.last = e.1 := by
      rw [ht.last, hlast]
      rfl
    rw [hend, ht.total hne]
    constructor
    · exact fun hbreak => ⟨e, rfl, hbreak.2⟩
    · rintro ⟨e', he', hbreak⟩
      obtain rfl := Option.some.inj he'
      exact ⟨fun hzero' => hne (hzero.1 (hend.trans hzero')), hbreak⟩

theorem update_cases (ht : Tracks o s h) (sys : System) :
    Updated o s h sys (s.update o sys) (h.observe o sys) := by
  cases haccepted : accepted o sys with
  | none =>
    have hreset : s.update o sys = s.reset := by
      unfold Store.update
      by_cases hon : o.dailyRecentReserve = false
      · rw [if_pos hon]
      · rw [if_neg hon]
        cases htime : sys.time with
        | none => rfl
        | some now =>
          dsimp only
          rw [if_pos]
          by_contra hchecks
          push Not at hchecks
          rw [accepted_eq_some_iff.2 ⟨by simpa using hon, htime, hchecks⟩] at haccepted
          cases haccepted
    have hempty : h.observe o sys = {} := by
      unfold History.observe
      rw [haccepted]
    rw [hreset, hempty]
    exact .refused haccepted
  | some now =>
    obtain ⟨hon, htime, hpos, htotal, havailable, hfree⟩ := accepted_eq_some_iff.1 haccepted
    have hchecks : ¬ (now ≤ 0 ∨ sys.total = 0 ∨ sys.total < sys.available ∨ sys.total < sys.free) := by
      push Not
      exact ⟨hpos, htotal, havailable, hfree⟩
    have hstore : s.update o sys =
        if h.Breaks o now sys then s.reset.record o now sys else s.record o now sys := by
      unfold Store.update
      rw [if_neg (by simp [hon]), htime]
      dsimp only
      rw [if_neg hchecks]
      exact if_congr (ht.breaks_iff now) rfl rfl
    have hhistory : h.observe o sys = if h.Breaks o now sys then ⟨[(now, sys.available)], sys.total⟩
        else ⟨h.samples ++ [(now, sys.available)], sys.total⟩ := by
      unfold History.observe
      rw [haccepted]
    rw [hstore, hhistory]
    by_cases hbreaks : h.Breaks o now sys
    · rw [if_pos hbreaks, if_pos hbreaks]
      exact .broken haccepted hbreaks
    · rw [if_neg hbreaks, if_neg hbreaks]
      exact .continued haccepted hbreaks

theorem Tracks.last_lt (ht : Tracks o s h) {now : ℚ} (hpos : 0 < now)
    (hbreaks : ¬ h.Breaks o now sys) : s.last < now := by
  by_cases hzero : s.last = 0
  · rw [hzero]
    exact hpos
  · by_contra hle
    exact hbreaks ((ht.breaks_iff now).1 ⟨hzero, .inl (not_lt.1 hle)⟩)

theorem reset_lt (s : Store) {now : ℚ} (hpos : 0 < now) : s.reset.last < now := hpos

theorem update_tracks (ht : Tracks o s h) (sys : System) :
    Tracks o (s.update o sys) (h.observe o sys) := by
  have hcase := update_cases ht sys
  generalize s.update o sys = s' at hcase ⊢
  generalize h.observe o sys = h' at hcase ⊢
  cases hcase with
  | refused hrefused => exact reset_tracks o s
  | broken haccepted hbreaks =>
    have hpos := (accepted_eq_some_iff.1 haccepted).2.2.1
    exact (reset_tracks o s).record hpos (reset_lt s hpos)
  | continued haccepted hbreaks =>
    have hpos := (accepted_eq_some_iff.1 haccepted).2.2.1
    exact ht.record hpos (ht.last_lt hpos hbreaks)

theorem run_tracks (calls : List Call) : Tracks o (({} : Store).run o calls) (historyOf o calls) := by
  induction calls using List.reverseRecOn with
  | nil => exact ⟨.nil, nofun, rfl, fun h => absurd rfl h, .slnil, fun _ _ => rfl, rfl⟩
  | append_singleton calls c ih =>
    unfold Store.run historyOf at ih ⊢
    rw [foldl_append, foldl_append]
    cases c with
    | update sys => exact update_tracks ih sys
    | invalidate => exact reset_tracks o _

/-- The snapshots that the store publishes are empty or not below the ready-free line. -/
theorem run_snapshot (calls : List Call) : (({} : Store).run o calls).snapshot.valid = true →
    o.readyFree ≤ (({} : Store).run o calls).snapshot.target := by
  induction calls using List.reverseRecOn with
  | nil => exact nofun
  | append_singleton calls c ih =>
    have ht := run_tracks (o := o) calls
    unfold Store.run at ih ht ⊢
    rw [foldl_append]
    cases c with
    | invalidate => exact nofun
    | update sys =>
      have hcase := update_cases ht sys
      change ((List.foldl (Store.call o) {} calls).update o sys).snapshot.valid = true → _ ≤
        ((List.foldl (Store.call o) {} calls).update o sys).snapshot.target
      generalize (List.foldl (Store.call o) {} calls).update o sys = s' at hcase ⊢
      generalize (historyOf o calls).observe o sys = h' at hcase
      cases hcase with
      | refused hrefused => exact nofun
      | broken haccepted hbreaks => exact fun _ => (boundedTarget_bounds _ _).1
      | continued haccepted hbreaks => exact fun _ => (boundedTarget_bounds _ _).1

end

section

variable (o : Options)

structure Justified (s : Store) (h : History) (sys : System) : Prop where
  published : ∀ now, accepted o sys = some now →
    Published o (h.observe o sys) now (s.update o sys).snapshot
  refused : accepted o sys = none → (s.update o sys).snapshot = {} ∧ (h.observe o sys).samples = []
  interrupted : h.Interrupts o sys → (s.update o sys).epoch = s.epoch + 1 ∧
    (s.update o sys).available = (h.observe o sys).samples ∧ (s.update o sys).drops = [] ∧
      (h.observe o sys).samples = ((accepted o sys).map fun now => (now, sys.available)).toList
  continued : ¬ h.Interrupts o sys → (s.update o sys).epoch = s.epoch ∧ ∃ now,
    accepted o sys = some now ∧ (h.observe o sys).samples = h.samples ++ [(now, sys.available)]

structure NeverUpgraded (reserved latest : Snapshot) (now : Option ℚ) (total : Bytes) : Prop where
  below : fresh reserved now total = true → workerTarget o reserved latest now total ≤ reserved.target
  current : fresh latest now total = true → workerTarget o reserved latest now total ≤ latest.target
  falls : fresh reserved now total = false ∨ fresh latest now total = false ∨
    reserved.epoch ≠ latest.epoch → workerTarget o reserved latest now total = o.readyFree

variable {o}

theorem targetAt_stale {snap : Snapshot} {now : Option ℚ} {total : Bytes}
    (h : fresh snap now total = false) : targetAt o snap now total = o.readyFree := by
  unfold targetAt
  rw [h, Bool.and_false, if_neg Bool.false_ne_true]

theorem targetAt_le {snap : Snapshot} (hsnap : snap.valid = true → o.readyFree ≤ snap.target)
    {now : Option ℚ} {total : Bytes} (h : fresh snap now total = true) :
    targetAt o snap now total ≤ snap.target ∧ o.readyFree ≤ targetAt o snap now total := by
  have hvalid : snap.valid = true := by
    unfold fresh at h
    cases now with
    | none => cases h
    | some now =>
      simp only [Bool.and_eq_true] at h
      exact h.1.1.1.1
  unfold targetAt
  split_ifs
  · exact ⟨min_le_left _ _, le_min (hsnap hvalid) (boundedTarget_bounds _ _).1⟩
  · exact ⟨hsnap hvalid, le_rfl⟩

theorem readyFree_le_targetAt {snap : Snapshot}
    (hsnap : snap.valid = true → o.readyFree ≤ snap.target) (now : Option ℚ) (total : Bytes) :
    o.readyFree ≤ targetAt o snap now total := by
  cases h : fresh snap now total with
  | true => exact (targetAt_le hsnap h).2
  | false => exact (targetAt_stale h).ge

theorem worker_never_upgraded {reserved latest : Snapshot}
    (hreserved : reserved.valid = true → o.readyFree ≤ reserved.target)
    (hlatest : latest.valid = true → o.readyFree ≤ latest.target) (now : Option ℚ) (total : Bytes) :
    NeverUpgraded o reserved latest now total := by
  have hleft := readyFree_le_targetAt hreserved now total
  have hright := readyFree_le_targetAt hlatest now total
  constructor
  · intro hfresh
    have hbound := targetAt_le hreserved hfresh
    unfold workerTarget
    split_ifs
    · exact hbound.2.trans hbound.1
    · exact (min_le_left _ _).trans hbound.1
  · intro hfresh
    have hbound := targetAt_le hlatest hfresh
    unfold workerTarget
    split_ifs
    · exact hbound.2.trans hbound.1
    · exact (min_le_right _ _).trans hbound.1
  · intro hfalls
    unfold workerTarget
    split_ifs with hoff
    · rfl
    · rcases hfalls with hstale | hstale | hepoch
      · rw [targetAt_stale hstale]
        exact min_eq_left hright
      · rw [targetAt_stale hstale]
        exact min_eq_right hleft
      · exact absurd (.inr hepoch) hoff

theorem update_justified {s : Store} {h : History} (ht : Tracks o s h) (sys : System) :
    Justified o s h sys := by
  have hcase := update_cases ht sys
  generalize hs' : s.update o sys = s' at hcase
  generalize hh' : h.observe o sys = h' at hcase
  cases hcase with
  | refused hrefused =>
    refine ⟨?_, ?_, ?_, fun hcontinued => ?_⟩
    · intro now haccepted
      rw [hrefused] at haccepted
      cases haccepted
    · intro _
      rw [hs', hh']
      exact ⟨rfl, rfl⟩
    · intro _
      rw [hs', hh', hrefused]
      exact ⟨rfl, rfl, rfl, rfl⟩
    · refine absurd (fun now haccepted => ?_) hcontinued
      rw [hrefused] at haccepted
      cases haccepted
  | @broken now haccepted hbreaks =>
    have hpos := (accepted_eq_some_iff.1 haccepted).2.2.1
    refine ⟨?_, ?_, ?_, fun hcontinued => ?_⟩
    · intro now' haccepted'
      obtain rfl := Option.some.inj (haccepted.symm.trans haccepted')
      rw [hs', hh']
      exact (reset_tracks o s).published (reset_lt s hpos)
    · intro hrefused
      rw [haccepted] at hrefused
      cases hrefused
    · intro _
      rw [hs', hh', haccepted]
      refine ⟨rfl, rfl, ?_, rfl⟩
      change RollingWindow.live _ _ _ = _
      rw [(reset_tracks o s).drop_eq (reset_lt s hpos).le, (reset_tracks o s).live_drops
        (reset_lt s hpos)]
      rfl
    · refine absurd (fun now' haccepted' => ?_) hcontinued
      obtain rfl := Option.some.inj (haccepted.symm.trans haccepted')
      exact hbreaks
  | @continued now haccepted hbreaks =>
    have hpos := (accepted_eq_some_iff.1 haccepted).2.2.1
    refine ⟨?_, ?_, fun hinterrupted => ?_, ?_⟩
    · intro now' haccepted'
      obtain rfl := Option.some.inj (haccepted.symm.trans haccepted')
      rw [hs', hh']
      exact ht.published (ht.last_lt hpos hbreaks)
    · intro hrefused
      rw [haccepted] at hrefused
      cases hrefused
    · exact absurd (hinterrupted now haccepted) hbreaks
    · intro _
      rw [hs', hh']
      exact ⟨rfl, now, haccepted, rfl⟩

/-- After any calls an update is justified by the history, and no worker exceeds a fresh target. -/
theorem recent_reserve_justified (calls : List Call) :
    (∀ sys, Justified o (({} : Store).run o calls) (historyOf o calls) sys) ∧
      ∀ earlier now total, NeverUpgraded o (({} : Store).run o earlier).snapshot
        (({} : Store).run o calls).snapshot now total :=
  ⟨fun sys => update_justified (run_tracks calls) sys, fun earlier now total =>
    worker_never_upgraded (run_snapshot earlier) (run_snapshot calls) now total⟩

/-- A refused sample publishes an empty snapshot, whose target is below the ready-free line. -/
theorem refused_below_readyFree :
    ∃ (o : Options) (sys : System), o.dailyRecentReserve = true ∧
      (({} : Store).update o sys).snapshot.target < o.readyFree :=
  ⟨{ dailyRecentReserve := true }, ⟨none, 0, 0, 0⟩, rfl, by decide⟩

end

end Parp.RecentReserve
