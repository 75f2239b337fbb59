import Parp.RetrySnapshot

set_option autoImplicit false

/-!
# The wire format of a retry snapshot

`snapshot_wire.hpp`: the child encodes what `localSnapshot` returned, and the controller decodes it.
-/
namespace Parp.SnapshotWire

open ByteText Delimited RetryJournal RetrySnapshot List
open CorrectRounding (binary64)

/-- `std::runtime_error` with its text, and what the standard library throws. -/
inductive Failure
  | runtimeError (what : String)
  | outOfRange
  | invalidArgument
  deriving DecidableEq

def hexDigits : Text := text "0123456789abcdef"

def hex (raw : Text) : Text := raw.flatMap fun (c : UInt8) =>
  [hexDigits.getD (c >>> 4).toNat 0, hexDigits.getD (c &&& 15).toNat 0]

def unhexDigit (c : UInt8) : Except Failure ℕ :=
  match hexDigits.findIdx? (· = c) with
  | none => .error (.runtimeError "wire_hex")
  | some n => .ok n

def unhexPairs : Text → Except Failure Text
  | high :: low :: raw => do
      let h ← unhexDigit high
      let l ← unhexDigit low
      let rest ← unhexPairs raw
      return UInt8.ofNat (h * 16 + l) :: rest
  | _ => .ok []

def unhex (raw : Text) : Except Failure Text :=
  if raw.length % 2 ≠ 0 then .error (.runtimeError "wire_hex_length") else unhexPairs raw

def ids (values : List UInt64) : Text := (values.map fun v => toText v.toNat).foldl (joined 32) []

def bit (b : Bool) : Text := if b then [49] else [48]

def wireFields (s : Snapshot) : List (Text × Text) :=
  [(text "known", bit s.known),
    (text "reason", hex s.reason),
    (text "start", DecimalDoubles.general 17 s.authority.readStart),
    (text "end", DecimalDoubles.general 17 s.authority.readEnd),
    (text "boot_pre", s.authority.bootBefore),
    (text "boot_post", s.authority.bootAfter),
    (text "absent", bit s.authority.flags.absent),
    (text "pids", ids s.authority.pids),
    (text "members", ids s.authority.members),
    (text "peak", hex s.peak),
    (text "daily", hex s.daily),
    (text "complete", bit s.journal.complete),
    (text "identity", bit s.authority.flags.identityMatches),
    (text "single", bit s.authority.flags.singlePidAndMember)]

def wireLine (f : Text × Text) : Text := f.1 ++ 61 :: f.2

def wireLines (s : Snapshot) : List Text :=
  text "device_retry_snapshot_v1" :: ((wireFields s).map wireLine ++ [text "END"])

def encodeSnapshot (s : Snapshot) : Text := (wireLines s).flatMap fun line => line ++ [10]

/-- The loop over the lines: the fields, and what follows `END` where it comes. -/
def readFields (fields : List (Text × Text)) :
    List Text → Except Failure (List (Text × Text) × Option (List Text))
  | [] => .ok (fields, none)
  | line :: lines =>
    if line = text "END" then .ok (fields, some lines)
    else
      let key := line.takeWhile (· ≠ 61)
      if 61 ∉ line ∨ key ∈ fields.map Prod.fst then .error (.runtimeError "wire_fields")
      else readFields (fields ++ [(key, (line.dropWhile (· ≠ 61)).drop 1)]) lines

/-- `fields.at(key)`. -/
def field (fields : List (Text × Text)) (key : String) : Except Failure Text :=
  match fields.lookup (text key) with
  | none => .error .outOfRange
  | some v => .ok v

def boolean (fields : List (Text × Text)) (key : String) : Except Failure Bool := do
  let v ← field fields key
  if v ≠ [48] ∧ v ≠ [49] then throw (.runtimeError "wire_boolean")
  return v = [49]

def real (fields : List (Text × Text)) (key : String) : Except Failure ℚ := do
  let v ← field fields key
  match DecimalDoubles.stod v with
  | .error .invalidArgument => throw .invalidArgument
  | .error .outOfRange => throw .outOfRange
  | .ok (value, used) =>
    match value with
    | none => throw (.runtimeError "wire_time")
    | some q => if used ≠ v.length then throw (.runtimeError "wire_time") else return q

def wirePid (w : Text) : Except Failure UInt64 :=
  match number w with
  | none => .error (.runtimeError "wire_pid")
  | some n => .ok n

def parseIds (fields : List (Text × Text)) (key : String) : Except Failure (List UInt64) := do
  let v ← field fields key
  (words v).mapM wirePid

def unhexField (fields : List (Text × Text)) (key : String) : Except Failure Text := do
  let v ← field fields key
  unhex v

def wireText (raw : Text) : Except Failure (List (Text × Text)) :=
  if 1100000 < raw.length ∨ raw = [] ∨ raw.getLast? ≠ some 10 then
    .error (.runtimeError "wire_bounds")
  else
    match getlines 10 raw with
    | [] => .error (.runtimeError "wire_header")
    | header :: lines =>
      if header ≠ text "device_retry_snapshot_v1" then .error (.runtimeError "wire_header")
      else do
        let (fields, rest) ← readFields [] lines
        if rest ≠ some [] ∨ fields.length ≠ 14 then throw (.runtimeError "wire_incomplete")
        return fields

def decodeSnapshot (raw : Text) (plan : Plan) (index : ℕ) (attempt : Text) :
    Except Failure Snapshot := do
  let fields ← wireText raw
  let known ← boolean fields "known"
  let reason ← unhexField fields "reason"
  let readStart ← real fields "start"
  let readEnd ← real fields "end"
  let bootBefore ← field fields "boot_pre"
  let bootAfter ← field fields "boot_post"
  let pids ← parseIds fields "pids"
  let members ← parseIds fields "members"
  let peak ← unhexField fields "peak"
  let daily ← unhexField fields "daily"
  let target ← (plan.targets[index]?).elim (.error .outOfRange) .ok
  let complete ← boolean fields "complete"
  let journal ← (parseJournal peak daily attempt target.uid complete (decide (daily ≠ []))).mapError
    .runtimeError
  let absent ← boolean fields "absent"
  let identityMatches ← boolean fields "identity"
  let singlePidAndMember ← boolean fields "single"
  if known = true ∧ (bootBefore ≠ plan.bootId ∨ bootAfter ≠ plan.bootId ∨ readStart < 0 ∨
      readEnd < readStart ∨ 8 < binary64 (readEnd - readStart)) then
    throw (.runtimeError "wire_identity_time")
  return {
    known := known
    authority := {
      flags := ⟨known, absent, identityMatches, singlePidAndMember⟩
      pids := pids
      members := members
      readStart := readStart
      readEnd := readEnd
      bootBefore := bootBefore
      bootAfter := bootAfter }
    journal := journal
    peak := peak
    daily := daily
    reason := reason }

open FallibleFolds

section

variable {fields : List (Text × Text)} {key : String}

theorem unhexDigit_hexDigits {n : ℕ} (h : n < 16) : unhexDigit (hexDigits.getD n 0) = .ok n := by
  interval_cases n <;> rfl

theorem hex_cons (c : UInt8) (raw : Text) :
    hex (c :: raw) = hexDigits.getD (c >>> 4).toNat 0 :: hexDigits.getD (c &&& 15).toNat 0 :: hex raw := rfl

theorem high_toNat (c : UInt8) : (c >>> 4).toNat = c.toNat / 16 := by
  rw [UInt8.toNat_shiftRight]
  exact Nat.shiftRight_eq_div_pow c.toNat 4

theorem low_toNat (c : UInt8) : (c &&& 15).toNat = c.toNat % 16 := by
  rw [UInt8.toNat_and]
  exact Nat.and_two_pow_sub_one_eq_mod c.toNat 4

theorem hex_length (raw : Text) : (hex raw).length = 2 * raw.length := by
  induction raw with
  | nil => rfl
  | cons c raw ih =>
    rw [hex_cons, length_cons, length_cons, ih, length_cons]
    omega

theorem unhexPairs_hex (raw : Text) : unhexPairs (hex raw) = .ok raw := by
  induction raw with
  | nil => rfl
  | cons c raw ih =>
    have hc := c.toNat_lt
    rw [hex_cons, high_toNat, low_toNat, unhexPairs, unhexDigit_hexDigits (by omega), ok_bind,
      unhexDigit_hexDigits (by omega), ok_bind, ih, ok_bind, Nat.div_add_mod', UInt8.ofNat_toNat]
    rfl

theorem unhex_hex (raw : Text) : unhex (hex raw) = .ok raw := by
  unfold unhex
  rw [hex_length, if_neg (by omega), unhexPairs_hex]

theorem hex_chars {raw : Text} {c : UInt8} (h : c ∈ hex raw) : c ∈ hexDigits := by
  unfold hex at h
  obtain ⟨b, -, hc⟩ := mem_flatMap.1 h
  have hb := b.toNat_lt
  rw [high_toNat, low_toNat] at hc
  have hdigit {n : ℕ} (hn : n < 16) : hexDigits.getD n 0 ∈ hexDigits := by
    interval_cases n <;> decide
  rcases mem_cons.1 hc with rfl | hc
  · exact hdigit (by omega)
  · rw [mem_singleton.1 hc]
    exact hdigit (by omega)

theorem unhexField_hex (raw : Text) (h : field fields key = .ok (hex raw)) :
    unhexField fields key = .ok raw := by
  unfold unhexField
  rw [h, ok_bind, unhex_hex]

theorem boolean_bit (b : Bool) (h : field fields key = .ok (bit b)) : boolean fields key = .ok b := by
  unfold boolean
  rw [h, ok_bind]
  cases b <;> rfl

theorem real_general {q : ℚ} (hq : 0 ≤ q) (hdouble : binary64 q = q) (hnormal : q = 0 ∨ 1 / 2 ^ 1022 ≤ q)
    (hfinite : q < 2 ^ 1024) (h : field fields key = .ok (DecimalDoubles.general 17 q)) :
    real fields key = .ok q := by
  unfold real
  rw [h, ok_bind, DecimalDoubles.stod_general hq hdouble hnormal hfinite]
  exact if_neg (not_not.2 rfl)

theorem parseIds_ids {values : List UInt64} (hvalues : ∀ v ∈ values, v ≠ 0)
    (h : field fields key = .ok (ids values)) : parseIds fields key = .ok values := by
  have hwords : words (ids values) = values.map fun v => toText v.toNat := by
    refine words_joined fun w hw => ?_
    obtain ⟨v, -, rfl⟩ := mem_map.1 hw
    exact isWord_toText _
  have hread : (values.map fun v => toText v.toNat).mapM wirePid = .ok values := by
    clear h hwords
    induction values with
    | nil => rfl
    | cons v values ih =>
      have hv : wirePid (toText v.toNat) = .ok v := by
        unfold wirePid
        rw [number_toText (hvalues v (.head _))]
      rw [map_cons, mapM_cons, hv, ok_bind, ih fun u hu => hvalues u (.tail _ hu), ok_bind]
      rfl
  unfold parseIds
  rw [h, ok_bind, hwords, hread]

end

section

theorem readFields_cons (fields : List (Text × Text)) (line : Text) (lines : List Text) :
    readFields fields (line :: lines) =
      if line = text "END" then .ok (fields, some lines)
      else if 61 ∉ line ∨ line.takeWhile (· ≠ 61) ∈ fields.map Prod.fst then
        .error (.runtimeError "wire_fields")
      else readFields (fields ++ [(line.takeWhile (· ≠ 61), (line.dropWhile (· ≠ 61)).drop 1)])
        lines := rfl

theorem readFields_lines {done fs : List (Text × Text)} (hkeys : ∀ f ∈ fs, 61 ∉ f.1)
    (hnodup : ((done ++ fs).map Prod.fst).Nodup) :
    readFields done (fs.map wireLine ++ [text "END"]) = .ok (done ++ fs, some []) := by
  induction fs generalizing done with
  | nil =>
    rw [map_nil, nil_append, readFields_cons, if_pos rfl, append_nil]
  | cons f fs ih =>
    have hkey := hkeys f (.head _)
    have hmem : (61 : UInt8) ∈ wireLine f := mem_append_right _ (.head _)
    have hend : wireLine f ≠ text "END" := by
      intro heq
      rw [heq] at hmem
      revert hmem
      decide
    have htake : (wireLine f).takeWhile (· ≠ 61) = f.1 := takeWhile_split hkey f.2
    have hdrop : (wireLine f).dropWhile (· ≠ 61) = 61 :: f.2 := dropWhile_split hkey f.2
    have hnew : f.1 ∉ done.map Prod.fst := by
      rw [map_append, map_cons] at hnodup
      exact fun hold => (nodup_append.1 hnodup).2.2 f.1 hold f.1 (.head _) rfl
    have hfresh : ¬ (61 ∉ wireLine f ∨ f.1 ∈ done.map Prod.fst) := by
      rintro (hnone | hold)
      · exact hnone hmem
      · exact hnew hold
    have hassoc : done ++ f :: fs = (done ++ [f]) ++ fs := by
      rw [append_assoc, singleton_append]
    rw [map_cons, cons_append, readFields_cons, if_neg hend, htake, hdrop, if_neg hfresh,
      hassoc]
    rw [hassoc] at hnodup
    exact ih (fun g hg => hkeys g (.tail _ hg)) hnodup

variable {s : Snapshot}

theorem wireFields_keys (s : Snapshot) : (wireFields s).map Prod.fst =
    ["known", "reason", "start", "end", "boot_pre", "boot_post", "absent", "pids", "members", "peak", "daily",
      "complete", "identity", "single"].map text := rfl

def OneLine (s : Snapshot) : Prop := ∀ f ∈ wireFields s, 10 ∉ f.2

theorem wireLines_oneLine (h : OneLine s) : ∀ line ∈ wireLines s, 10 ∉ line := by
  intro line hline
  unfold wireLines at hline
  rw [mem_cons, mem_append, mem_singleton] at hline
  rcases hline with rfl | hfield | rfl
  · decide
  · obtain ⟨f, hf, rfl⟩ := mem_map.1 hfield
    have hkey : 10 ∉ f.1 := by
      have hkeys : ∀ k ∈ (wireFields s).map Prod.fst, 10 ∉ k := by
        rw [wireFields_keys]
        decide +kernel
      exact hkeys f.1 (mem_map_of_mem hf)
    intro hmem
    rcases mem_append.1 hmem with hleft | hright
    · exact hkey hleft
    · rcases mem_cons.1 hright with heq | hvalue
      · exact absurd heq (by decide)
      · exact h f hf hvalue
  · decide

theorem wireText_encode (h : OneLine s) (hfits : (encodeSnapshot s).length ≤ 1100000) :
    wireText (encodeSnapshot s) = .ok (wireFields s) := by
  have hlines : getlines 10 (encodeSnapshot s) = wireLines s := getlines_flatMap 10 (wireLines_oneLine h)
  have hlast : encodeSnapshot s = ((text "device_retry_snapshot_v1" :: (wireFields s).map wireLine).flatMap
      fun line => line ++ [10]) ++ text "END" ++ [10] := by
    simp [encodeSnapshot, wireLines, flatMap_append]
  have hbounds : ¬ (1100000 < (encodeSnapshot s).length ∨ encodeSnapshot s = [] ∨
      (encodeSnapshot s).getLast? ≠ some 10) := by
    rintro (hlong | hnil | hend)
    · omega
    · rw [hlast] at hnil
      exact append_ne_nil_of_right_ne_nil _ (cons_ne_nil _ _) hnil
    · rw [hlast] at hend
      exact hend getLast?_concat
  have hkeys : ∀ f ∈ wireFields s, 61 ∉ f.1 := by
    have hall : ∀ k ∈ (wireFields s).map Prod.fst, 61 ∉ k := by
      rw [wireFields_keys]
      decide +kernel
    exact fun f hf => hall f.1 (mem_map_of_mem hf)
  have hnodup : (([] ++ wireFields s).map Prod.fst).Nodup := by
    rw [nil_append, wireFields_keys]
    decide +kernel
  have hread := readFields_lines hkeys hnodup
  unfold wireText
  rw [if_neg hbounds, hlines]
  unfold wireLines
  dsimp only
  rw [if_neg (not_not.2 rfl), hread]
  rfl

end

section

variable {s : Snapshot}

theorem bit_length (b : Bool) : (bit b).length = 1 := by
  cases b <;> rfl

theorem encode_length (s : Snapshot) :
    (encodeSnapshot s).length = 141 + ((wireFields s).map fun f => f.2.length).sum := by
  have hline (fs : List (Text × Text)) : ((fs.map wireLine).flatMap fun line => line ++ [10]).length =
      (fs.map fun f => f.1.length).sum + (fs.map fun f => f.2.length).sum + 2 * fs.length := by
    induction fs with
    | nil => rfl
    | cons f fs ih =>
      simp only [map_cons, flatMap_cons, length_append, ih, sum_cons, wireLine,
        length_cons, length_nil]
      omega
  have hkeys : ((wireFields s).map fun f => f.1.length).sum = 84 := by
    have hmap : ((wireFields s).map fun f => f.1.length) = ((wireFields s).map Prod.fst).map List.length :=
      map_map.symm
    rw [hmap, wireFields_keys]
    decide +kernel
  have hheader : (text "device_retry_snapshot_v1").length = 24 := rfl
  have hend : (text "END").length = 3 := rfl
  have hcount : (wireFields s).length = 14 := rfl
  unfold encodeSnapshot wireLines
  rw [flatMap_cons, flatMap_append, length_append, length_append, length_append, hline,
    hkeys, hheader, hcount, flatMap_singleton, length_append, hend]
  simp only [length_cons, length_nil]
  omega

theorem ids_length {values : List UInt64} (h : values.length ≤ 1) : (ids values).length ≤ 20 := by
  match values with
  | [] => exact Nat.zero_le _
  | [v] => exact toText_length (by decide) (v.toNat_lt.trans (by decide))

end

section

variable {t : Option Timespec} {fields : List (Text × Text)} {key : String}

theorem real_boot (h : 0 ≤ boot t) (hfield : field fields key = .ok (DecimalDoubles.general 17 (boot t))) :
    real fields key = .ok (boot t) := by
  have hnormal : boot t = 0 ∨ 1 / 2 ^ 1022 ≤ boot t := by
    rcases h.eq_or_lt with hzero | hpos
    · exact .inl hzero.symm
    · refine .inr (le_trans ?_ (boot_bounds hpos).1)
      rw [zpow_neg, ← one_div, zpow_ofNat]
      exact one_div_le_one_div_of_le (by positivity) (pow_le_pow_right₀ (by norm_num) (by decide))
  have hfinite : boot t < 2 ^ 1024 := by
    rcases h.eq_or_lt with hzero | hpos
    · rw [← hzero]
      norm_num
    · refine (boot_bounds hpos).2.trans_lt ?_
      rw [zpow_ofNat]
      exact pow_lt_pow_right₀ (by norm_num) (by decide)
  exact real_general h (boot_double t) hnormal hfinite hfield

theorem general_boot_length (h : 0 ≤ boot t) : (DecimalDoubles.general 17 (boot t)).length ≤ 24 := by
  rcases h.eq_or_lt with hzero | hpos
  · rw [← hzero]
    decide +kernel
  · obtain ⟨hlow, hhigh⟩ := boot_bounds hpos
    refine DecimalDoubles.general_length hpos (le_trans ?_ hlow) (hhigh.trans_lt (by norm_num))
    norm_num

theorem general_boot_oneLine (h : 0 ≤ boot t) : 10 ∉ DecimalDoubles.general 17 (boot t) := by
  intro hmem
  rcases DecimalDoubles.general_chars (by decide) h 10 hmem with hdigit | hother
  · cases hdigit
  · revert hother
    decide

end

section

variable {plan : Plan} {index : ℕ} {attempt : Text} {target : Target} {s : Snapshot}

/-- What the controller has of a snapshot: the reason of the authority sample is not on the wire. -/
def received (s : Snapshot) : Snapshot :=
  { s with authority := { s.authority with reason := text "unknown" } }

/-- Room for the daily file, the numbers and the times of a snapshot whose peak file is empty. -/
def Fits (s : Snapshot) : Prop :=
  2 * s.daily.length + (ids s.authority.pids).length + (ids s.authority.members).length +
    (DecimalDoubles.general 17 s.authority.readStart).length +
    (DecimalDoubles.general 17 s.authority.readEnd).length ≤ 1099766

instance decidableFits (s : Snapshot) : Decidable (Fits s) := inferInstanceAs (Decidable (_ ≤ _))

def RoundTrips (plan : Plan) (index : ℕ) (attempt : Text) (s : Snapshot) : Prop :=
  (encodeSnapshot s).length ≤ 1100000 ∧
    decodeSnapshot (encodeSnapshot s) plan index attempt = .ok (received s)

theorem bootId_oneLine {b : Text} (h : bootIdValid b = true) : b.length = 36 ∧ 10 ∉ b := by
  unfold bootIdValid at h
  rw [Bool.and_eq_true, decide_eq_true_eq, all_eq_true] at h
  refine ⟨h.1, fun hmem => ?_⟩
  obtain ⟨i, hi⟩ := mem_iff_getElem?.1 hmem
  have hchar := h.2 (10, i) (mem_zipIdx_iff_getElem?.2 hi)
  dsimp only at hchar
  split_ifs at hchar
  · exact absurd (of_decide_eq_true hchar) (by decide)
  · cases hchar

theorem ids_oneLine (values : List UInt64) : 10 ∉ ids values := by
  intro hmem
  rcases mem_foldl_joined hmem with hnil | hblank | ⟨w, hw, hc⟩
  · cases hnil
  · exact absurd hblank (by decide)
  · obtain ⟨v, -, rfl⟩ := mem_map.1 hw
    cases isDigit_toText _ 10 hc

theorem hex_oneLine (raw : Text) : 10 ∉ hex raw := fun h => absurd (hex_chars h) (by decide)

theorem bit_oneLine (b : Bool) : 10 ∉ bit b := by
  cases b <;> decide

section

variable (h : Known plan index attempt target s)
include h

theorem finish_nonneg : 0 ≤ s.authority.readEnd := by
  have htime := h.in_time
  rw [not_or, not_lt] at htime
  exact h.start_nonneg.trans htime.1

theorem known_oneLine : OneLine s := by
  obtain ⟨start, finish, hstart, hfinish⟩ := h.clock
  have hstartLine := general_boot_oneLine (hstart ▸ h.start_nonneg)
  have hfinishLine := general_boot_oneLine (hfinish ▸ finish_nonneg h)
  have hboot := (bootId_oneLine h.bootId).2
  unfold OneLine wireFields
  rw [hstart, hfinish, h.bootBefore, h.bootAfter]
  simp [bit_oneLine, hex_oneLine, ids_oneLine, hstartLine, hfinishLine, hboot]

theorem known_length : (encodeSnapshot s).length = 234 +
    ((DecimalDoubles.general 17 s.authority.readStart).length +
      (DecimalDoubles.general 17 s.authority.readEnd).length + (ids s.authority.pids).length +
      (ids s.authority.members).length + 2 * s.peak.length + 2 * s.daily.length) := by
  have hboot := (bootId_oneLine h.bootId).1
  have hreason : (hex (text "complete")).length = 16 := rfl
  rw [encode_length]
  unfold wireFields
  simp only [map_cons, map_nil, sum_cons, sum_nil, bit_length, hex_length, h.bootBefore,
    h.bootAfter, hboot]
  rw [h.reason]
  have hcomplete : (text "complete").length = 8 := rfl
  omega

theorem decode_encode (hfits : (encodeSnapshot s).length ≤ 1100000) :
    decodeSnapshot (encodeSnapshot s) plan index attempt =
      (parseJournal s.peak s.daily attempt target.uid s.journal.complete (decide (s.daily ≠ []))).mapError
        Failure.runtimeError >>= fun journal => .ok { received s with journal := journal } := by
  obtain ⟨start, finish, hstart, hfinish⟩ := h.clock
  have hreadStart : real (wireFields s) "start" = .ok s.authority.readStart := by
    rw [hstart]
    exact real_boot (hstart ▸ h.start_nonneg) (by rw [← hstart]; rfl)
  have hreadEnd : real (wireFields s) "end" = .ok s.authority.readEnd := by
    rw [hfinish]
    exact real_boot (hfinish ▸ finish_nonneg h) (by rw [← hfinish]; rfl)
  have hbootBefore : field (wireFields s) "boot_pre" = .ok s.authority.bootBefore := rfl
  have hbootAfter : field (wireFields s) "boot_post" = .ok s.authority.bootAfter := rfl
  have htarget : (plan.targets[index]?).elim (.error .outOfRange) .ok =
      (.ok target : Except Failure Target) := by
    rw [h.planned]
    rfl
  unfold decodeSnapshot
  rw [wireText_encode (known_oneLine h) hfits, ok_bind, boolean_bit s.known rfl, ok_bind,
    unhexField_hex s.reason rfl, ok_bind, hreadStart, ok_bind, hreadEnd, ok_bind, hbootBefore, ok_bind,
    hbootAfter, ok_bind, parseIds_ids h.pids rfl, ok_bind, parseIds_ids h.members rfl, ok_bind,
    unhexField_hex s.peak rfl, ok_bind, unhexField_hex s.daily rfl, ok_bind, htarget, ok_bind,
    boolean_bit s.journal.complete rfl, ok_bind]
  refine congrArg _ (funext fun journal => ?_)
  have hflags : s.authority.flags = ⟨s.known, s.authority.flags.absent, s.authority.flags.identityMatches,
      s.authority.flags.singlePidAndMember⟩ := by
    rw [h.known, ← h.flags_known]
  have htime : ¬ (s.known = true ∧ (s.authority.bootBefore ≠ plan.bootId ∨ s.authority.bootAfter ≠ plan.bootId ∨
      s.authority.readStart < 0 ∨ s.authority.readEnd < s.authority.readStart ∨
      8 < binary64 (s.authority.readEnd - s.authority.readStart))) := by
    rintro ⟨-, hbad | hbad | hbad | hbad⟩
    · exact hbad h.bootBefore
    · exact hbad h.bootAfter
    · exact absurd h.start_nonneg (not_le.2 hbad)
    · exact h.in_time hbad
  rw [boolean_bit s.authority.flags.absent rfl, ok_bind,
    boolean_bit s.authority.flags.identityMatches rfl, ok_bind,
    boolean_bit s.authority.flags.singlePidAndMember rfl, ok_bind]
  dsimp only
  rw [if_neg htime, ← hflags]
  rfl

theorem received_of_again (hagain : hasRow s.peak = true ∨ s.peak = []) (hfits : (encodeSnapshot s).length ≤ 1100000) :
    RoundTrips plan index attempt s := by
  obtain ⟨peakExists, dailyExists, haccepted⟩ := h.accepted
  refine ⟨hfits, ?_⟩
  rw [decode_encode h hfits, haccepted.again hagain.symm]
  rfl

theorem row_fits (hrow : hasRow s.peak = true ∨ hasRow s.daily = true) :
    (encodeSnapshot s).length ≤ 1100000 := by
  obtain ⟨peakExists, dailyExists, haccepted⟩ := h.accepted
  obtain ⟨start, finish, hstart, hfinish⟩ := h.clock
  have hone : s.journal.oneGeneration = true := by
    rw [haccepted.oneGeneration, Bool.or_eq_true]
    exact hrow
  obtain ⟨hpids, hmembers⟩ := h.lone hone
  have hpidText := ids_length hpids
  have hmemberText := ids_length hmembers
  have hstartText := general_boot_length (hstart ▸ h.start_nonneg)
  have hfinishText := general_boot_length (hfinish ▸ finish_nonneg h)
  have hpeak := haccepted.peak_length
  have hdaily := haccepted.daily_length
  rw [known_length h, hstart, hfinish]
  omega

theorem fits_iff (hpeak : s.peak = []) : (encodeSnapshot s).length ≤ 1100000 ↔ Fits s := by
  have hpeakLength : s.peak.length = 0 := by rw [hpeak, length_nil]
  rw [known_length h]
  unfold Fits
  omega

theorem known_roundTrips_iff : RoundTrips plan index attempt s ↔
    hasRow s.peak = true ∨ (s.peak = [] ∧ (hasRow s.daily = true ∨ Fits s)) := by
  constructor
  · rintro ⟨hfits, hdecode⟩
    by_cases hrow : hasRow s.peak = true
    · exact .inl hrow
    · have hpeak : s.peak = [] := by
        by_contra hne
        obtain ⟨peakExists, dailyExists, haccepted⟩ := h.accepted
        rw [decode_encode h hfits, haccepted.refused hne (Bool.eq_false_of_not_eq_true hrow)] at hdecode
        cases hdecode
      exact .inr ⟨hpeak, .inr ((fits_iff h hpeak).1 hfits)⟩
  · rintro (hrow | ⟨hpeak, hrow | hfits⟩)
    · exact received_of_again h (.inl hrow) (row_fits h (.inl hrow))
    · exact received_of_again h (.inr hpeak) (row_fits h (.inr hrow))
    · exact received_of_again h (.inr hpeak) ((fits_iff h hpeak).2 hfits)

end

/-- A known snapshot comes back from its text if and only if its peak file is not made of blank lines,
and what it lists has room where neither file has a row. -/
theorem snapshot_wire_round_trip (plan : Plan) (index : ℕ) (attempt planBytes : Text) (calls : Calls)
    (h : (localSnapshot plan index attempt planBytes calls).known = true) :
    RoundTrips plan index attempt (localSnapshot plan index attempt planBytes calls) ↔
      hasRow (localSnapshot plan index attempt planBytes calls).peak = true ∨
        ((localSnapshot plan index attempt planBytes calls).peak = [] ∧
          (hasRow (localSnapshot plan index attempt planBytes calls).daily = true ∨
            Fits (localSnapshot plan index attempt planBytes calls))) := by
  obtain ⟨target, hknown⟩ := localSnapshot_known h
  exact known_roundTrips_iff hknown

def sampleBoot : Text := text "01234567-89ab-cdef-0123-456789abcdef"

def samplePlan : Plan := ⟨sampleBoot, [⟨text "io.memscene.scene4.workload.a14", 20010044⟩]⟩

def sampleAttempt : Text := text "s4_abcdef_c0000"

def sampleBinding : Binding :=
  ⟨true, true, true, 384, .opened [.bytes (text "native_uid_binding_v1\nplan\n")]⟩

def sampleStat : File := .opened [.bytes (text "77 (x) S 1 77 77 0 1 0 0 0 0 0 0 0 0 0 20 0 1 0 5000 0\n")]

def sampleStatus : File :=
  .opened [.bytes (text "Pid:\t77\nUid:\t20010044\t20010044\t20010044\t20010044\n")]

def sampleRow : Text := text "\x7b\"case_id\":\"s4_abcdef_c0000\",\"pid\":77,\"start_ticks\":5000,\"uid\":20010044,\"event\":\"allocated\",\"phase\":\"hold\"\x7d\n"

def sampleCalls (peak : File) : Calls where
  start := some ⟨100, 500000000⟩
  bootBefore := .opened [.bytes (sampleBoot ++ [10])]
  binding := sampleBinding
  beforePs := some ⟨100, 600000000⟩
  ps := ⟨true, text "PID UID NAME ARGS\n1 0 init /init\n77 20010044 io.memscene.scene4.workload.a14 x\n", []⟩
  group := .entry true
  members := .opened [.bytes (text "77\n")]
  peak := peak
  daily := .missing
  proc := ⟨sampleStat, sampleStatus, sampleStat⟩
  finish := some ⟨101, 0⟩
  bootAfter := .opened [.bytes (sampleBoot ++ [10])]
  bindingAfter := sampleBinding

theorem peak_row_round_trips :
    RoundTrips samplePlan 0 sampleAttempt (localSnapshot samplePlan 0 sampleAttempt (text "plan\n")
      (sampleCalls (.opened [.bytes sampleRow]))) :=
  (snapshot_wire_round_trip samplePlan 0 sampleAttempt (text "plan\n")
    (sampleCalls (.opened [.bytes sampleRow])) (by decide +kernel)).2 (.inl (by decide +kernel))

/-- A peak file that holds one blank line. -/
theorem blank_peak_is_lost : ¬ ∀ (plan : Plan) (index : ℕ) (attempt planBytes : Text) (calls : Calls),
    (localSnapshot plan index attempt planBytes calls).known = true →
      RoundTrips plan index attempt (localSnapshot plan index attempt planBytes calls) := by
  intro h
  have hdecode := (h samplePlan 0 sampleAttempt (text "plan\n") (sampleCalls (.opened [.bytes [10]]))
    (by decide +kernel)).2
  have hok := congrArg Except.isOk hdecode
  revert hok
  decide +kernel

end

end Parp.SnapshotWire
