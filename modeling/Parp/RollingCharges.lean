import Parp.Binary64
import Parp.MemshiftCore
import Parp.RollingWindow

set_option autoImplicit false

/-!
# The rolling limit

`RollingLimit` of `core.hpp`. Times are the rational values of doubles, and a difference of two
times is rounded as that of doubles is.
-/
namespace Parp.RollingCharges

open Memshift CorrectRounding RollingWindow List

structure RollingLimit where
  history : List (ℚ × Bytes) := []

def elapsed (now time : ℚ) : ℚ := binary64 (now - time)

def past (now time : ℚ) : Bool := decide (60 ≤ elapsed now time)

def RollingLimit.used (r : RollingLimit) (now : ℚ) : Bytes × RollingLimit :=
  let history := live past now r.history
  (history.foldl (fun total e => add total e.2) 0, ⟨history⟩)

def RollingLimit.room (r : RollingLimit) (now : ℚ) (cap : Bytes) : Bytes × RollingLimit :=
  let (used, r) := r.used now
  (sub cap used, r)

def RollingLimit.charge (r : RollingLimit) (now : ℚ) (v : Bytes) : RollingLimit :=
  ⟨r.history ++ [(now, v)]⟩

inductive Call
  | room (now : ℚ)
  | charge (now : ℚ) (v : Bytes)

def Call.time : Call → ℚ
  | .room now => now
  | .charge now _ => now

/-- The limit, the room that the call before returned, and all charges that were made. -/
structure Run where
  limit : RollingLimit := {}
  returned : Option Bytes := none
  charges : List (ℚ × Bytes) := []

def Run.call (cap : Bytes) (s : Run) : Call → Run
  | .room now =>
    let (room, limit) := s.limit.room now cap
    { s with limit := limit, returned := some room }
  | .charge now v =>
    { limit := s.limit.charge now v, returned := none, charges := s.charges ++ [(now, v)] }

def run (cap : Bytes) (calls : List Call) : Run := calls.foldl (Run.call cap) {}

/-- A charge is at most the room just returned. -/
def Covered (s : Run) : Call → Prop
  | .room _ => True
  | .charge _ v => ∃ room ∈ s.returned, v ≤ room

/-- The times of the calls do not go back, and every charge is covered. -/
structure Orderly (cap : Bytes) (calls : List Call) : Prop where
  times : (calls.map Call.time).Pairwise (· ≤ ·)
  covered : ∀ before call after, calls = before ++ call :: after → Covered (run cap before) call

/-- The charges of the 60 seconds that begin at `start`. -/
def chargesFrom (start : ℚ) (charges : List (ℚ × Bytes)) : List (ℚ × Bytes) :=
  charges.filter fun e => start ≤ e.1 && elapsed e.1 start < 60

/-- The charges of the 60 seconds before `now`. -/
def chargesBefore (now : ℚ) (charges : List (ℚ × Bytes)) : List (ℚ × Bytes) :=
  charges.filter fun e => elapsed now e.1 < 60

section

theorem elapsed_le {now now' time time' : ℚ} (hnow : now ≤ now') (htime : time' ≤ time) :
    elapsed now time ≤ elapsed now' time' :=
  binary64_mono (sub_le_sub hnow htime)

theorem past_later {now now' time time' : ℚ} (hnow : now ≤ now') (htime : time' ≤ time)
    (h : past now time = true) : past now' time' = true :=
  decide_eq_true ((of_decide_eq_true h).trans (elapsed_le hnow htime))

/-- What the deque says of the charges: those that it dropped are past, and the others with what was
granted are within the cap. -/
structure Tracks (cap : Bytes) (now : ℚ) (s : Run) : Prop where
  times : (s.charges.map Prod.fst).Pairwise (· ≤ ·)
  untilNow : ∀ e ∈ s.charges, e.1 ≤ now
  kept : ∃ dropped, s.charges = dropped ++ s.limit.history ∧ ∀ e ∈ dropped, past now e.1 = true
  bounded : total UInt64.toNat s.limit.history ≤ cap.toNat
  granted : ∀ room ∈ s.returned, total UInt64.toNat s.limit.history + room.toNat ≤ cap.toNat
  windows : ∀ start, total UInt64.toNat (chargesFrom start s.charges) ≤ cap.toNat

variable {cap : Bytes} {now now' : ℚ} {s : Run}

theorem tracks_start (now : ℚ) : Tracks cap now {} :=
  ⟨List.Pairwise.nil, nofun, ⟨[], rfl, nofun⟩, Nat.zero_le _, nofun, fun _ => Nat.zero_le _⟩

theorem live_kept (h : Tracks cap now s) (hnow : now ≤ now') :
    live past now' s.limit.history = s.charges.filter fun e => !past now' e.1 := by
  obtain ⟨dropped, hcharges, hdropped⟩ := h.kept
  have hsorted : s.limit.history.Pairwise fun e e' => e.1 ≤ e'.1 := by
    have htimes := h.times
    rw [hcharges, map_append, pairwise_append] at htimes
    exact pairwise_map.1 htimes.2.1
  rw [live_eq_filter past (hsorted.imp fun hle => past_later le_rfl hle), hcharges,
    filter_append]
  have hnone : (dropped.filter fun e => !past now' e.1) = [] := by
    refine filter_eq_nil_iff.2 fun e he => ?_
    simp [past_later hnow le_rfl (hdropped e he)]
  rw [hnone, nil_append]

theorem used_toNat (hbounded : total UInt64.toNat s.limit.history ≤ cap.toNat) (now : ℚ) :
    (s.limit.used now).1.toNat = total UInt64.toNat (live past now s.limit.history) := by
  have hlive := total_live_le past UInt64.toNat now s.limit.history
  have hcap := cap.toNat_lt
  unfold RollingLimit.used
  dsimp only
  rw [foldl_add_toNat, UInt64.toNat_zero]
  change min (0 + total UInt64.toNat (live past now s.limit.history)) _ = _
  omega

theorem room_toNat (h : Tracks cap now s) (hnow : now ≤ now') :
    (s.limit.room now' cap).1.toNat =
      cap.toNat - total UInt64.toNat (chargesBefore now' s.charges) := by
  have hrecent : live past now' s.limit.history = chargesBefore now' s.charges := by
    rw [live_kept h hnow]
    unfold chargesBefore past
    refine filter_congr fun e _ => ?_
    rw [← decide_not, decide_eq_decide, not_le]
  unfold RollingLimit.room
  dsimp only
  rw [sub_toNat, used_toNat h.bounded, hrecent]

theorem tracks_room (h : Tracks cap now s) (hnow : now ≤ now') :
    Tracks cap now' (s.call cap (.room now')) := by
  have hlive := total_live_le past UInt64.toNat now' s.limit.history
  have hbounded := hlive.trans h.bounded
  refine {
    times := h.times
    untilNow := fun e he => (h.untilNow e he).trans hnow
    kept := ?_
    bounded := hbounded
    granted := fun room hroom => ?_
    windows := h.windows }
  · obtain ⟨dropped, hcharges, hdropped⟩ := h.kept
    refine ⟨dropped ++ s.limit.history.takeWhile fun e => past now' e.1, ?_, fun e he => ?_⟩
    · change s.charges = _ ++ live past now' s.limit.history
      unfold live
      rw [append_assoc, takeWhile_append_dropWhile, hcharges]
    · rcases mem_append.1 he with he | he
      · exact past_later hnow le_rfl (hdropped e he)
      · exact mem_takeWhile_imp (p := fun e : ℚ × Bytes => past now' e.1) he
  · obtain rfl := Option.mem_some_iff.1 hroom
    have hused := used_toNat h.bounded now'
    change total UInt64.toNat (live past now' s.limit.history) +
      (sub cap (s.limit.used now').1).toNat ≤ _
    rw [sub_toNat, hused]
    omega

theorem tracks_charge (h : Tracks cap now s) (hnow : now ≤ now') {v : Bytes}
    (hcovered : Covered s (.charge now' v)) : Tracks cap now' (s.call cap (.charge now' v)) := by
  obtain ⟨room, hroom, hv⟩ := hcovered
  have hv' := UInt64.le_iff_toNat_le.1 hv
  have hgranted := h.granted room hroom
  obtain ⟨dropped, hcharges, hdropped⟩ := h.kept
  have hgrown (charges : List (ℚ × Bytes)) :
      total UInt64.toNat (charges ++ [(now', v)]) = total UInt64.toNat charges + v.toNat := by
    rw [total_append]
    simp [total]
  refine {
    times := ?_
    untilNow := fun e he => ?_
    kept := ⟨dropped, ?_, fun e he => past_later hnow le_rfl (hdropped e he)⟩
    bounded := ?_
    granted := fun _ hnone => by cases hnone
    windows := fun start => ?_ }
  · change ((s.charges ++ [(now', v)]).map Prod.fst).Pairwise _
    rw [map_append, pairwise_append]
    refine ⟨h.times, pairwise_singleton _ _, fun t ht t' ht' => ?_⟩
    obtain ⟨e, he, rfl⟩ := mem_map.1 ht
    rw [mem_singleton.1 ht']
    exact (h.untilNow e he).trans hnow
  · rcases mem_append.1 he with he | he
    · exact (h.untilNow e he).trans hnow
    · rw [mem_singleton.1 he]
  · change s.charges ++ _ = dropped ++ (s.limit.history ++ _)
    rw [hcharges, append_assoc]
  · change total UInt64.toNat (s.limit.history ++ [(now', v)]) ≤ _
    rw [hgrown]
    omega
  · change total UInt64.toNat (chargesFrom start (s.charges ++ [(now', v)])) ≤ _
    by_cases hin : start ≤ now' ∧ elapsed now' start < 60
    · -- what the deque dropped is out of the window
      have hold : chargesFrom start s.charges = chargesFrom start s.limit.history := by
        unfold chargesFrom
        rw [hcharges, filter_append]
        have hnone : (dropped.filter fun e => start ≤ e.1 && elapsed e.1 start < 60) = [] := by
          refine filter_eq_nil_iff.2 fun e he hwindow => ?_
          simp only [Bool.and_eq_true, decide_eq_true_eq] at hwindow
          have hlong := past_later hnow hwindow.1 (hdropped e he)
          exact absurd hin.2 (not_lt.2 (of_decide_eq_true hlong))
        rw [hnone, nil_append]
      have hsome : chargesFrom start (s.charges ++ [(now', v)]) =
          chargesFrom start s.charges ++ [(now', v)] := by
        simp [chargesFrom, hin]
      have hpart : total UInt64.toNat (chargesFrom start s.limit.history) ≤
          total UInt64.toNat s.limit.history :=
        (filter_sublist.map _).sum_le_sum fun _ _ => Nat.zero_le _
      rw [hsome, hgrown, hold]
      omega
    · have hnone : chargesFrom start (s.charges ++ [(now', v)]) = chargesFrom start s.charges := by
        have hout : ([(now', v)] : List (ℚ × Bytes)).filter
            (fun e => start ≤ e.1 && elapsed e.1 start < 60) = [] := by
          refine filter_eq_nil_iff.2 fun e he => ?_
          rw [mem_singleton.1 he]
          simpa using hin
        unfold chargesFrom
        rw [filter_append, hout, append_nil]
      rw [hnone]
      exact h.windows start

theorem tracks_call (h : Tracks cap now s) {call : Call} (hnow : now ≤ call.time)
    (hcovered : Covered s call) : Tracks cap call.time (s.call cap call) := by
  cases call with
  | room now' => exact tracks_room h hnow
  | charge now' v => exact tracks_charge h hnow hcovered

theorem Orderly.front {calls rest : List Call} (h : Orderly cap (calls ++ rest)) :
    Orderly cap calls := by
  refine ⟨?_, fun before call after hsplit => h.covered before call (after ++ rest) ?_⟩
  · have htimes := h.times
    rw [map_append] at htimes
    exact (pairwise_append.1 htimes).1
  · rw [hsplit, append_assoc, cons_append]

theorem Orderly.times_le {calls : List Call} {call : Call} {rest : List Call}
    (h : Orderly cap (calls ++ call :: rest)) : ∀ other ∈ calls, other.time ≤ call.time := by
  have htimes := h.times
  rw [map_append, pairwise_append] at htimes
  exact fun other hother => htimes.2.2 _ (mem_map_of_mem hother) _ (.head _)

theorem run_tracks {calls : List Call} (h : Orderly cap calls)
    (hnow : ∀ call ∈ calls, call.time ≤ now) : ∃ last ≤ now, Tracks cap last (run cap calls) := by
  induction calls using List.reverseRecOn generalizing now with
  | nil => exact ⟨now, le_rfl, tracks_start now⟩
  | append_singleton calls call ih =>
    obtain ⟨last, hlast, htracks⟩ := ih h.front h.times_le
    refine ⟨call.time, hnow call (by simp), ?_⟩
    unfold run
    rw [foldl_append]
    exact tracks_call htracks hlast (h.covered calls call [] rfl)

end

/-- The charges of any 60 seconds stay within the cap, and the room is what the last 60 left of it.
-/
theorem rolling_limit_holds {cap : Bytes} {calls : List Call} (h : Orderly cap calls) :
    (∀ start, total UInt64.toNat (chargesFrom start (run cap calls).charges) ≤ cap.toNat) ∧
    ∀ before now after, calls = before ++ .room now :: after →
      ∃ room, (run cap (before ++ [.room now])).returned = some room ∧
        room.toNat = cap.toNat -
          total UInt64.toNat (chargesBefore now (run cap before).charges) := by
  constructor
  · rcases calls.eq_nil_or_concat' with rfl | ⟨front, last, rfl⟩
    · exact fun start => Nat.zero_le _
    · have hnow : ∀ call ∈ front ++ [last], call.time ≤ last.time := by
        intro call hcall
        rcases mem_append.1 hcall with hcall | hcall
        · exact h.times_le call hcall
        · rw [mem_singleton.1 hcall]
      obtain ⟨now, -, htracks⟩ := run_tracks h hnow
      exact htracks.windows
  · rintro before now after rfl
    obtain ⟨last, hlast, htracks⟩ := run_tracks h.front h.times_le
    refine ⟨_, ?_, room_toNat htracks hlast⟩
    unfold run
    rw [foldl_append]
    rfl

instance (s : Run) (call : Call) : Decidable (Covered s call) := by
  unfold Covered
  split <;> infer_instance

/-- The third charge needs what the first one held. -/
def threeCharges : List Call :=
  [.room 0, .charge 0 5, .room 30, .charge 30 3, .room 60, .charge 60 4, .room 61]

theorem threeCharges_orderly : Orderly 8 threeCharges := by
  have hcovered : ∀ i < threeCharges.length, ∀ call ∈ threeCharges[i]?,
      Covered (run 8 (threeCharges.take i)) call := by decide +kernel
  refine ⟨by decide +kernel, fun before call after hsplit => ?_⟩
  rw [hsplit] at hcovered
  simpa using hcovered before.length (by simp) call (by simp)

theorem threeCharges_limited :
    (∀ start, total UInt64.toNat (chargesFrom start (run 8 threeCharges).charges) ≤
      (8 : Bytes).toNat) ∧
    ∀ before now after, threeCharges = before ++ .room now :: after →
      ∃ room, (run 8 (before ++ [.room now])).returned = some room ∧ room.toNat =
        (8 : Bytes).toNat - total UInt64.toNat (chargesBefore now (run 8 before).charges) :=
  rolling_limit_holds threeCharges_orderly

end Parp.RollingCharges
