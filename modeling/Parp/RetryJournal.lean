import Parp.ByteText
import Parp.FallibleFolds
import Parp.RetryScheduler

set_option autoImplicit false

/-!
# The journals of a retry attempt

`FlatJson` and `parseJournal` of `retry_journal.hpp`, and `number` of `device_proc_reader.hpp`. What is
thrown is a `std::runtime_error`, given by its text.
-/
namespace Parp.RetryJournal

open ByteText Delimited FallibleFolds RetryScheduler

def number (s : Text) : Option UInt64 :=
  if s = [] ∨ ¬ s.all isDigit then none
  -- `strtoull` reports a range error from 2^64 on
  else if 2 ^ 64 ≤ decimal s ∨ decimal s = 0 then none
  else some (UInt64.ofNat (decimal s))

theorem number_toText {n : UInt64} (h : n ≠ 0) : number (toText n.toNat) = some n := by
  have hdigits : ¬ (toText n.toNat = [] ∨ ¬ (toText n.toNat).all isDigit = true) := by
    rintro (hnil | hall)
    · exact toText_ne_nil _ hnil
    · exact hall (List.all_eq_true.2 (isDigit_toText _))
  have hvalue : ¬ (2 ^ 64 ≤ n.toNat ∨ n.toNat = 0) := by
    rintro (hlarge | hzero)
    · exact absurd n.toNat_lt (not_lt.2 hlarge)
    · exact h (UInt64.toNat_inj.1 hzero)
  unfold number
  rw [if_neg hdigits, decimal_toText, if_neg hvalue, UInt64.ofNat_toNat]

theorem number_ne_zero {s : Text} {n : UInt64} (h : number s = some n) : n ≠ 0 := by
  unfold number at h
  split_ifs at h with hdigits hrange
  rw [not_or, not_le] at hrange
  rw [← Option.some.inj h]
  intro hzero
  have hnat := congrArg UInt64.toNat hzero
  rw [UInt64.toNat_ofNat_of_lt' hrange.1] at hnat
  exact hrange.2 hnat

structure JsonValue where
  text : Text
  string : Bool := false
  deriving DecidableEq

abbrev Fields := List (Text × JsonValue)

def ws (s : Text) : Text := s.dropWhile fun c => c = 32 || c = 9 || c = 13

def take : Text → Except String (UInt8 × Text)
  | [] => .error "journal_json_eof"
  | c :: s => .ok (c, s)

def escape (e : UInt8) : Option UInt8 :=
  if e = 34 ∨ e = 92 ∨ e = 47 then some e
  else if e = 110 then some 10
  else if e = 114 then some 13
  else if e = 116 then some 9
  else if e = 98 then some 8
  else if e = 102 then some 12
  else none

/-- The loop of `str`, with what it has read. -/
def strFrom (out : Text) : Text → Except String (Text × Text)
  | [] => .error "journal_json_eof"
  | c :: s =>
    if c = 34 then .ok (out, s)
    else if c < 32 then .error "journal_json_control"
    else if c ≠ 92 then strFrom (out ++ [c]) s
    else
      match s with
      | [] => .error "journal_json_eof"
      | e :: s =>
        match escape e with
        | some d => strFrom (out ++ [d]) s
        | none => .error "journal_json_escape"

def str (s : Text) : Except String (Text × Text) := do
  let (c, s) ← take s
  if c ≠ 34 then throw "journal_json_string"
  strFrom [] s

def checkScalar (v : Text) : Except String Unit :=
  if v = text "true" ∨ v = text "false" ∨ v = text "null" then .ok ()
  else if v = [] then .error "journal_json_empty"
  else
    let digits := if v.head? = some 45 then v.tail else v
    if digits = [] then .error "journal_json_number"
    else if digits.head? = some 48 ∧ 1 < digits.length then .error "journal_json_leading_zero"
    else if ¬ digits.all isDigit then .error "journal_json_number"
    else .ok ()

def inScalar (c : UInt8) : Bool := c ≠ 44 && c ≠ 125 && c ≠ 32 && c ≠ 9 && c ≠ 13

def jsonValue (s : Text) : Except String (JsonValue × Text) :=
  if s.head? = some 34 then do
    let (t, s) ← str s
    return (⟨t, true⟩, s)
  else do
    checkScalar (s.takeWhile inScalar)
    return (⟨s.takeWhile inScalar, false⟩, s.dropWhile inScalar)

/-- The loop of `parse`. A round consumes a character at least: after as many rounds as there were
characters none is left. -/
def entries : ℕ → Fields → Text → Except String (Fields × Text)
  | 0, _, _ => .error "journal_json_eof"
  | n + 1, out, s => do
      let (key, s) ← str (ws s)
      let (colon, s) ← take (ws s)
      if colon ≠ 58 then throw "journal_json_colon"
      let (v, s) ← jsonValue (ws s)
      if key ∈ out.map Prod.fst then throw "journal_json_duplicate"
      let (c, s) ← take (ws s)
      if c = 125 then return (out ++ [(key, v)], s)
      if c ≠ 44 then throw "journal_json_separator"
      entries n (out ++ [(key, v)]) s

def parse (raw : Text) : Except String Fields := do
  let (c, s) ← take (ws raw)
  if c ≠ 123 then throw "journal_json_object"
  if (ws s).head? = some 125 then
    if ws (ws s).tail ≠ [] then throw "journal_json_trailing"
    return []
  let (out, s) ← entries (ws s).length [] (ws s)
  if ws s ≠ [] then throw "journal_json_trailing"
  return out

def stringField (fields : Fields) (key : Text) : Except String Text :=
  match fields.lookup key with
  | some ⟨t, true⟩ => .ok t
  | _ => .error "journal_string_missing"

def numberField (fields : Fields) (key : Text) : Except String UInt64 :=
  match fields.lookup key with
  | some ⟨t, false⟩ =>
    match number t with
    | some n => .ok n
    | none => .error "journal_number_missing"
  | _ => .error "journal_number_missing"

/-- The body of the loop of `add`. -/
def row (expected : Text) (expectedUid : UInt64) (isPeak : Bool) (result : Journal) (line : Text) :
    Except String Journal :=
  if line = [] then .ok result
  else do
    let fields ← parse line
    let caseId ← stringField fields (text "case_id")
    if caseId ≠ expected then throw "journal_wrong_attempt"
    let pid ← numberField fields (text "pid")
    let start ← numberField fields (text "start_ticks")
    let uid ← numberField fields (text "uid")
    if uid ≠ expectedUid then throw "journal_uid"
    if (result.peakRows || result.dailyRows) ∧
        (pid ≠ result.pid ∨ start ≠ result.start ∨ uid ≠ result.uid) then
      throw "journal_mixed_generation"
    let event ← stringField fields (text "event")
    let phase ← stringField fields (text "phase")
    -- a first row gives the identity, and the later ones have the same
    return { result with
      pid := pid
      start := start
      uid := uid
      peakRows := result.peakRows || isPeak
      dailyRows := result.dailyRows || !isPeak
      failed := result.failed || event = text "allocation_failed"
      stopped := result.stopped || (event = text "stopped" && phase = text "failed") }

def add (expected : Text) (expectedUid : UInt64) (isPeak : Bool) (result : Journal) (raw : Text) :
    Except String Journal :=
  if raw = [] then .ok result
  else if raw.getLast? ≠ some 10 ∨ 0 ∈ raw then .error "journal_truncated"
  else (getlines 10 raw).foldlM (row expected expectedUid isPeak) result

def journalRows (peak daily attempt : Text) (expectedUid : UInt64) : Except String Journal := do
  let result ← add attempt expectedUid true {} peak
  add (attempt ++ text "_daily") expectedUid false result daily

def journalFlags (daily : Text) (expectedUid : UInt64) (peakExists dailyExists : Bool) (result : Journal) :
    Journal :=
  let oneGeneration := result.peakRows || result.dailyRows
  let uidMatches := oneGeneration && result.uid == expectedUid
  { result with
    oneGeneration := oneGeneration
    uidMatches := uidMatches
    dailyComplete := dailyExists && daily ≠ [] && daily.getLast? = some 10 && result.dailyRows &&
      oneGeneration && uidMatches
    complete := peakExists && result.peakRows }

def parseJournal (peak daily attempt : Text) (expectedUid : UInt64) (peakExists dailyExists : Bool) :
    Except String Journal :=
  if 262144 < peak.length ∨ 262144 < daily.length ∨ (peakExists = false ∧ peak ≠ []) ∨
      (dailyExists = false ∧ daily ≠ []) then .error "journal_bounds"
  else
    (journalRows peak daily attempt expectedUid).map
      (journalFlags daily expectedUid peakExists dailyExists)

section

def hasRow (raw : Text) : Bool := (getlines 10 raw).any fun line => line ≠ []

variable {expected peak daily attempt : Text} {expectedUid : UInt64} {isPeak peakExists dailyExists : Bool}
  {result result' : Journal}

theorem row_ok {line : Text} (h : row expected expectedUid isPeak result line = .ok result') :
    result'.peakRows = (result.peakRows || (isPeak && decide (line ≠ []))) ∧
      result'.dailyRows = (result.dailyRows || (!isPeak && decide (line ≠ []))) := by
  unfold row at h
  by_cases hblank : line = []
  · rw [if_pos hblank] at h
    cases h
    simp [hblank]
  rw [if_neg hblank] at h
  obtain ⟨fields, -, h⟩ := bind_eq_ok.1 h
  obtain ⟨caseId, -, h⟩ := bind_eq_ok.1 h
  obtain ⟨-, h⟩ := guard_eq_ok_iff.1 h
  obtain ⟨pid, -, h⟩ := bind_eq_ok.1 h
  obtain ⟨start, -, h⟩ := bind_eq_ok.1 h
  obtain ⟨uid, -, h⟩ := bind_eq_ok.1 h
  obtain ⟨-, h⟩ := guard_eq_ok_iff.1 h
  obtain ⟨-, h⟩ := guard_eq_ok_iff.1 h
  obtain ⟨event, -, h⟩ := bind_eq_ok.1 h
  obtain ⟨phase, -, h⟩ := bind_eq_ok.1 h
  cases h
  simp [hblank]

theorem rows_ok {lines : List Text} (h : lines.foldlM (row expected expectedUid isPeak) result = .ok result') :
    result'.peakRows = (result.peakRows || (isPeak && lines.any fun line => line ≠ [])) ∧
      result'.dailyRows = (result.dailyRows || (!isPeak && lines.any fun line => line ≠ [])) := by
  induction lines generalizing result with
  | nil =>
    cases h
    simp
  | cons line lines ih =>
    rw [List.foldlM_cons] at h
    obtain ⟨next, hrow, hrest⟩ := bind_eq_ok.1 h
    obtain ⟨hpeak, hdaily⟩ := row_ok hrow
    obtain ⟨hpeak', hdaily'⟩ := ih hrest
    rw [hpeak', hdaily', hpeak, hdaily, List.any_cons]
    exact ⟨by rw [Bool.and_or_distrib_left, Bool.or_assoc], by rw [Bool.and_or_distrib_left, Bool.or_assoc]⟩

theorem add_ok {raw : Text} (h : add expected expectedUid isPeak result raw = .ok result') :
    result'.peakRows = (result.peakRows || (isPeak && hasRow raw)) ∧
      result'.dailyRows = (result.dailyRows || (!isPeak && hasRow raw)) := by
  unfold add at h
  split_ifs at h with hempty
  · cases h
    subst hempty
    simp [hasRow, getlines, getlinesFrom]
  · exact rows_ok h

theorem journalRows_ok (h : journalRows peak daily attempt expectedUid = .ok result) :
    result.peakRows = hasRow peak ∧ result.dailyRows = hasRow daily := by
  obtain ⟨first, hpeak, hdaily⟩ := bind_eq_ok.1 h
  obtain ⟨hpeakRows, hnone⟩ := add_ok hpeak
  obtain ⟨hkept, hdailyRows⟩ := add_ok hdaily
  rw [hkept, hdailyRows, hpeakRows, hnone]
  simp

structure Accepted (peak daily attempt : Text) (expectedUid : UInt64) (peakExists dailyExists : Bool)
    (journal : Journal) : Prop where
  peak_length : peak.length ≤ 262144
  daily_length : daily.length ≤ 262144
  peak_exists : peak ≠ [] → peakExists = true
  daily_exists : daily ≠ [] → dailyExists = true
  rows : ∃ result, journalRows peak daily attempt expectedUid = .ok result ∧
    journal = journalFlags daily expectedUid peakExists dailyExists result

variable {journal : Journal}

theorem parseJournal_accepted
    (h : parseJournal peak daily attempt expectedUid peakExists dailyExists = .ok journal) :
    Accepted peak daily attempt expectedUid peakExists dailyExists journal := by
  unfold parseJournal at h
  split_ifs at h with hbounds
  rw [not_or, not_or, not_or, not_and, not_and, not_lt, not_lt] at hbounds
  obtain ⟨hpeak, hdaily, hpeakExists, hdailyExists⟩ := hbounds
  obtain ⟨result, hrows, hflags⟩ := map_eq_ok.1 h
  exact
    { peak_length := hpeak
      daily_length := hdaily
      peak_exists := fun hne => Bool.eq_true_of_not_eq_false fun hnone => hpeakExists hnone hne
      daily_exists := fun hne => Bool.eq_true_of_not_eq_false fun hnone => hdailyExists hnone hne
      rows := ⟨result, hrows, hflags.symm⟩ }

theorem Accepted.complete (h : Accepted peak daily attempt expectedUid peakExists dailyExists journal) :
    journal.complete = (peakExists && hasRow peak) := by
  obtain ⟨result, hrows, rfl⟩ := h.rows
  exact congrArg (peakExists && ·) (journalRows_ok hrows).1

theorem Accepted.oneGeneration (h : Accepted peak daily attempt expectedUid peakExists dailyExists journal) :
    journal.oneGeneration = (hasRow peak || hasRow daily) := by
  obtain ⟨result, hrows, rfl⟩ := h.rows
  obtain ⟨hpeak, hdaily⟩ := journalRows_ok hrows
  exact congrArg₂ (· || ·) hpeak hdaily

theorem journalFlags_daily (hexists : daily ≠ [] → dailyExists = true) :
    journalFlags daily expectedUid peakExists (decide (daily ≠ [])) result =
      journalFlags daily expectedUid peakExists dailyExists result := by
  by_cases hdaily : daily = []
  · simp [journalFlags, hdaily]
  · simp [journalFlags, hdaily, hexists hdaily]

theorem Accepted.again (h : Accepted peak daily attempt expectedUid peakExists dailyExists journal)
    (hpeak : peak = [] ∨ hasRow peak = true) :
    parseJournal peak daily attempt expectedUid journal.complete (decide (daily ≠ [])) = .ok journal := by
  have hcomplete := h.complete
  obtain ⟨result, hrows, hjournal⟩ := h.rows
  have hflags : journalFlags daily expectedUid journal.complete (decide (daily ≠ [])) result = journal := by
    rw [journalFlags_daily h.daily_exists, hjournal]
    have hpeakRows := (journalRows_ok hrows).1
    unfold journalFlags
    rw [hpeakRows, Bool.and_assoc, Bool.and_self]
  have hbounds : ¬ (262144 < peak.length ∨ 262144 < daily.length ∨ (journal.complete = false ∧ peak ≠ []) ∨
      (decide (daily ≠ []) = false ∧ daily ≠ [])) := by
    rintro (hlong | hlong | ⟨hnone, hne⟩ | ⟨hnone, hne⟩)
    · exact absurd h.peak_length (not_le.2 hlong)
    · exact absurd h.daily_length (not_le.2 hlong)
    · rw [hcomplete, h.peak_exists hne, hpeak.resolve_left hne] at hnone
      cases hnone
    · exact of_decide_eq_false hnone hne
  unfold parseJournal
  rw [if_neg hbounds, hrows]
  exact congrArg Except.ok hflags

theorem Accepted.refused (h : Accepted peak daily attempt expectedUid peakExists dailyExists journal)
    (hne : peak ≠ []) (hblank : hasRow peak = false) :
    parseJournal peak daily attempt expectedUid journal.complete (decide (daily ≠ [])) =
      .error "journal_bounds" := by
  have hcomplete : journal.complete = false := by
    rw [h.complete, hblank, Bool.and_false]
  unfold parseJournal
  exact if_pos (.inr (.inr (.inl ⟨hcomplete, hne⟩)))

end

end Parp.RetryJournal
