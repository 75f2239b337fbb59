import Parp.DecimalDoubles
import Parp.RetryJournal
import Parp.SortedMap

set_option autoImplicit false

/-!
# The snapshot of a retry target

`retry_authority_native.hpp`, `retry_local_io.hpp` up to `localSnapshot`, and what they use of
`device_proc_reader.hpp`, `retry_plan.hpp` and `uid_binding.hpp`. What the system calls return is an
input.
-/
namespace Parp.RetrySnapshot

open ByteText Delimited RetryScheduler RetryJournal
open CorrectRounding (binary64)

/-- What a `read` returned; no bytes are the end of the file. -/
inductive Read
  | bytes (b : Text)
  | interrupted
  | failed

/-- What `open` returned, and the reads that follow. -/
inductive File
  | missing
  | refused
  | opened (reads : List Read)

/-- The loop of `boundedRead` and of `optionalRead`. -/
def readLoop (limit : ℕ) (out : Text) : List Read → Bool × Text
  | [] => (true, out)
  | .bytes [] :: _ => (true, out)
  | .bytes b :: rest =>
    if limit < out.length + b.length then (false, out) else readLoop limit (out ++ b) rest
  | .interrupted :: rest => readLoop limit out rest
  | .failed :: _ => (false, out)

def boundedRead (file : File) (limit : ℕ) (nulAllowed : Bool) : Bool × Text :=
  match file with
  | .missing | .refused => (false, [])
  | .opened reads =>
    let r := readLoop limit [] reads
    (r.1 && r.2 ≠ [] && (nulAllowed || 0 ∉ r.2), r.2)

def optionalRead (file : File) (limit : ℕ) : Bool × Text × Bool :=
  match file with
  | .missing => (true, [], false)
  | .refused => (false, [], false)
  | .opened reads =>
    let r := readLoop limit [] reads
    (r.1 && 0 ∉ r.2, r.2, true)

/-- What `clock_gettime` returned. -/
structure Timespec where
  sec : Int64
  nsec : Fin 1000000000

def boot : Option Timespec → ℚ
  | none => -1
  | some t => binary64 (binary64 t.sec.toInt + binary64 (binary64 (t.nsec : ℕ) / 10 ^ 9))

structure Target where
  bundle : Text
  uid : UInt64

structure Plan where
  bootId : Text
  targets : List Target

def isHexDigit (c : UInt8) : Bool := isDigit c || (97 ≤ c && c ≤ 102)

def bootIdValid (s : Text) : Bool :=
  s.length = 36 && s.zipIdx.all fun c =>
    if c.2 = 8 ∨ c.2 = 13 ∨ c.2 = 18 ∨ c.2 = 23 then c.1 = 45 else isHexDigit c.1

def find (w : Text) : Text → Option ℕ
  | [] => none
  | c :: s => if (c :: s).take w.length = w then some 0 else (find w s).map (· + 1)

def caseAllowed (c : Text) : Bool :=
  if c.length < 12 ∨ c.take 3 ≠ text "s4_" then false
  else
    match find (text "_c") (c.drop 3) with
    | none => false
    | some n =>
      n ≠ 0 && c.length = n + 9 && ((c.drop 3).take n).all isHexDigit && (c.drop (n + 5)).all isDigit

def readBoot (file : File) : Bool × Text :=
  let r := boundedRead file 64 false
  if r.1 = false ∨ r.2.length ≠ 37 ∨ r.2.getLast? ≠ some 10 then (false, r.2)
  else (bootIdValid r.2.dropLast, r.2.dropLast)

/-- What `lstat` says of the binding. -/
structure Binding where
  found : Bool
  regular : Bool
  owned : Bool
  permissions : ℕ
  file : File

def readUidBinding (b : Binding) (planBytes : Text) : Bool :=
  b.found && b.regular && b.owned && b.permissions = 384 && (boundedRead b.file 16448 false).1 &&
    (boundedRead b.file 16448 false).2 = text "native_uid_binding_v1\n" ++ planBytes

structure AuthoritySample where
  flags : Authority := {}
  pids : List UInt64 := []
  members : List UInt64 := []
  readStart : ℚ := -1
  readEnd : ℚ := -1
  bootBefore : Text := []
  bootAfter : Text := []
  reason : Text := text "unknown"

/-- A match of `"uid"\s*:\s*(\d+)` at the front: the digits and what follows. -/
def uidMatch (s : Text) : Option (Text × Text) :=
  if s.take 5 ≠ text "\"uid\"" then none
  else
    match (s.drop 5).dropWhile isSpace with
    | 58 :: rest =>
      let digits := (rest.dropWhile isSpace).takeWhile isDigit
      if digits = [] then none else some (digits, (rest.dropWhile isSpace).dropWhile isDigit)
    | _ => none

/-- The matches from left to right; `skip` characters belong to the one before. -/
def uidMatches (skip : ℕ) : Text → List Text
  | [] => []
  | c :: s =>
    match skip with
    | skip + 1 => uidMatches skip s
    | 0 =>
      match uidMatch (c :: s) with
      | some (digits, rest) => digits :: uidMatches (s.length - rest.length) s
      | none => uidMatches 0 s

def matchesBundle (target : Target) (x : Text) : Bool :=
  x = target.bundle || x.take (target.bundle.length + 1) = target.bundle ++ [58]

/-- A row of `ps`. The sample that is thrown is what a `return false` leaves. -/
def processRow (target : Target) (result : AuthoritySample) (line : Text) :
    Except AuthoritySample AuthoritySample :=
  if line.all fun c => c = 32 || c = 9 || c = 13 then .ok result
  else
    match word line with
    | none => .error result
    | some (pidText, line) =>
      match word line with
      | none => .error result
      | some (uidText, line) =>
        match word line with
        | none => .error result
        | some (name, line) =>
          let args := line.dropWhile fun c => c = 32 || c = 9
          match number pidText, if uidText = [48] then some 0 else number uidText with
          | some pid, some uid =>
            let named := matchesBundle target name || matchesBundle target args
            if named ∧ uid ≠ target.uid then
              .error { result with reason := text "process_uid_mismatch" }
            else if uid = target.uid ∨ named then
              .ok { result with pids := result.pids ++ [pid] }
            else .ok result
          | _, _ => .error result

def memberRow (result : AuthoritySample) (pidText : Text) : Except AuthoritySample AuthoritySample :=
  match number pidText with
  | none => .error result
  | some pid => .ok { result with members := result.members ++ [pid] }

def readMembers (cg : Text) (groupAbsent : Bool) (result : AuthoritySample) :
    Except AuthoritySample AuthoritySample :=
  if groupAbsent then if cg ≠ [] then .error result else .ok result
  else (words cg).foldlM memberRow result

def parseAuthority (bm ps cg : Text) (groupAbsent : Bool) (target : Target) (result : AuthoritySample) :
    Except AuthoritySample AuthoritySample :=
  match (uidMatches 0 bm).mapM number with
  | none => .error result
  | some uids =>
    if uids.toFinset ≠ {target.uid} then .error { result with reason := text "uid_unknown_or_changed" }
    else
      match getlines 10 ps with
      | [] => .error result
      | header :: rows =>
        if words header ≠ [text "PID", text "UID", text "NAME", text "ARGS"] then .error result
        else do
          let result ← rows.foldlM (processRow target) result
          let result ← readMembers cg groupAbsent result
          if ¬ result.members.all fun pid => pid ∈ result.pids then
            throw { result with reason := text "inventory_inconsistent" }
          let absent := result.pids = [] && result.members = []
          return { result with
            flags := { result.flags with known := true, absent := absent }
            reason := if absent then text "absent" else text "live" }

structure Donor where
  bundle : Text
  pid : UInt64
  uid : UInt64
  start : UInt64

def statMatches (raw : Text) (d : Donor) : Bool :=
  41 ∈ raw && 32 ∈ raw && number (raw.takeWhile (· ≠ 32)) = some d.pid &&
    ((firstWords 20 (raw.reverse.takeWhile (· ≠ 41)).reverse)[19]?).bind number = some d.start

def statusRow (d : Donor) (found : Bool × Bool) (line : Text) : Option (Bool × Bool) :=
  match words line with
  | key :: values =>
    if key = text "Pid:" then
      if values.map number = [some d.pid] then some (true, found.2) else none
    else if key = text "Uid:" then
      if values.map number = List.replicate 4 (some d.uid) then some (found.1, true) else none
    else some found
  | [] => some found

def statusMatches (raw : Text) (d : Donor) : Bool :=
  (getlines 10 raw).foldlM (statusRow d) (false, false) = some (true, true)

/-- The files below `/proc` that show a process. -/
structure ProcFiles where
  before : File
  status : File
  after : File

def liveGeneration (sample : AuthoritySample) (target : Target) (journal : Journal) (proc : ProcFiles) :
    Bool × AuthoritySample :=
  if sample.pids ≠ [journal.pid] ∨ sample.members ≠ [journal.pid] then (false, sample)
  else
    let expected : Donor := ⟨target.bundle, journal.pid, target.uid, journal.start⟩
    let before := boundedRead proc.before 65536 false
    let status := boundedRead proc.status 65536 false
    let after := boundedRead proc.after 65536 false
    let good := before.1 && status.1 && after.1 && statMatches before.2 expected &&
      statusMatches status.2 expected && statMatches after.2 expected
    let flags := { sample.flags with singlePidAndMember := true, identityMatches := good }
    (good, { sample with flags := flags })

structure Snapshot where
  known : Bool := false
  authority : AuthoritySample := {}
  journal : Journal := {}
  peak : Text := []
  daily : Text := []
  reason : Text := text "unknown"

structure Command where
  ok : Bool
  output : Text
  error : Text

/-- What `stat` says of the control group. -/
inductive Group
  | missing
  | unknown
  | entry (directory : Bool)

/-- What the system calls of `localSnapshot` return, in their order. -/
structure Calls where
  start : Option Timespec
  bootBefore : File
  binding : Binding
  beforePs : Option Timespec
  ps : Command
  group : Group
  members : File
  peak : File
  daily : File
  proc : ProcFiles
  finish : Option Timespec
  bootAfter : File
  bindingAfter : Binding

def fail {α : Type} (result : Snapshot) (reason : String) : Except Snapshot α :=
  .error { result with reason := text reason }

/-- Up to the call of `ps`. -/
def openSample (plan : Plan) (planBytes : Text) (calls : Calls) : Except Snapshot Snapshot :=
  let result : Snapshot := { authority := { readStart := boot calls.start } }
  if boot calls.start < 0 then fail result "boot_changed"
  else
    let before := readBoot calls.bootBefore
    let result := { result with authority := { result.authority with bootBefore := before.2 } }
    if before.1 = false ∨ before.2 ≠ plan.bootId then fail result "boot_changed"
    else if readUidBinding calls.binding planBytes = false then
      fail result "uid_binding_unknown_or_changed"
    else if binary64 (8 - binary64 (boot calls.beforePs - boot calls.start)) ≤ 0 then
      fail result "snapshot_timeout"
    else .ok result

def readGroup (calls : Calls) (result : Snapshot) : Except Snapshot (Text × Bool) :=
  match calls.group with
  | .missing => .ok ([], true)
  | .unknown => fail result "cgroup_metadata_unknown"
  | .entry directory =>
    let members := optionalRead calls.members 16384
    if directory = false ∨ members.1 = false ∨ members.2.2 = false then
      fail result "cgroup_read_unknown"
    else .ok (members.2.1, false)

def verifiedBm (target : Target) : Text := text "\x7b\"uid\":" ++ toText target.uid.toNat ++ text "\x7d"

/-- From `ps` to `parseAuthority`. -/
def sampleAuthority (target : Target) (calls : Calls) (result : Snapshot) : Except Snapshot Snapshot :=
  if calls.ps.ok = false ∨ calls.ps.error ≠ [] then fail result "ps_failed"
  else do
    let members ← readGroup calls result
    match parseAuthority (verifiedBm target) calls.ps.output members.1 members.2 target
        result.authority with
    | .error sample =>
      .error { result with authority := sample, reason := text "authority_" ++ sample.reason }
    | .ok sample => .ok { result with authority := sample }

/-- The journal files, up to `liveGeneration`. -/
def sampleJournal (target : Target) (attempt : Text) (calls : Calls) (result : Snapshot) :
    Except Snapshot Snapshot :=
  let peak := optionalRead calls.peak 262144
  let daily := optionalRead calls.daily 262144
  let result := { result with peak := peak.2.1 }
  if peak.1 = false then fail result "journal_read_unknown"
  else
    let result := { result with daily := daily.2.1 }
    if daily.1 = false then fail result "journal_read_unknown"
    else
      match parseJournal peak.2.1 daily.2.1 attempt target.uid peak.2.2 daily.2.2 with
      | .error what => fail result what
      | .ok journal =>
        let result := { result with journal := journal }
        if result.authority.flags.absent = false ∧ journal.oneGeneration = true then
          let live := liveGeneration result.authority target journal calls.proc
          let result := { result with authority := live.2 }
          if live.1 = false then fail result "journal_live_generation_unknown" else .ok result
        else .ok result

def closeSample (plan : Plan) (planBytes : Text) (calls : Calls) (result : Snapshot) :
    Except Snapshot Snapshot :=
  let start := result.authority.readStart
  let finish := boot calls.finish
  let result := { result with authority := { result.authority with readEnd := finish } }
  if finish < start ∨ 8 < binary64 (finish - start) then fail result "boot_or_read_deadline"
  else
    let after := readBoot calls.bootAfter
    let result := { result with authority := { result.authority with bootAfter := after.2 } }
    if after.1 = false ∨ after.2 ≠ plan.bootId ∨ readUidBinding calls.bindingAfter planBytes = false then
      fail result "boot_or_read_deadline"
    else .ok { result with known := true, reason := text "complete" }

/-- `localSnapshot`; what is thrown is the snapshot of an early `return`. -/
def takeSnapshot (plan : Plan) (index : ℕ) (attempt planBytes : Text) (calls : Calls) :
    Except Snapshot Snapshot :=
  match plan.targets[index]? with
  | none => fail {} "snapshot_scope"
  | some target =>
    if caseAllowed attempt = false then fail {} "snapshot_scope"
    else do
      let result ← openSample plan planBytes calls
      let result ← sampleAuthority target calls result
      let result ← sampleJournal target attempt calls result
      closeSample plan planBytes calls result

def localSnapshot (plan : Plan) (index : ℕ) (attempt planBytes : Text) (calls : Calls) : Snapshot :=
  match takeSnapshot plan index attempt planBytes calls with
  | .ok result => result
  | .error result => result

theorem boot_double (t : Option Timespec) : binary64 (boot t) = boot t := by
  cases t with
  | none => decide +kernel
  | some t => exact DecimalDoubles.binary64_idem _

theorem fraction_le (n : Fin 1000000000) : binary64 (binary64 (n : ℕ) / 10 ^ 9) ≤ 1 := by
  have hn : ((n : ℕ) : ℚ) ≤ 10 ^ 9 := by exact_mod_cast n.isLt.le
  have hwhole : binary64 (n : ℕ) ≤ 10 ^ 9 :=
    (CorrectRounding.binary64_mono hn).trans (by decide +kernel)
  have hpart : binary64 (n : ℕ) / 10 ^ 9 ≤ 1 := (div_le_one (by norm_num)).2 hwhole
  exact (CorrectRounding.binary64_mono hpart).trans (by decide +kernel)

theorem fraction_nonneg (n : Fin 1000000000) : 0 ≤ binary64 (binary64 (n : ℕ) / 10 ^ 9) :=
  have hwhole : 0 ≤ binary64 (n : ℕ) := CorrectRounding.binary64_nonneg (Nat.cast_nonneg _)
  CorrectRounding.binary64_nonneg (div_nonneg hwhole (by norm_num))

theorem seconds_bounds {sec : Int64} {f : ℚ} (hf : f ≤ 1) (hsum : 0 < binary64 sec.toInt + f) :
    0 ≤ sec.toInt ∧ binary64 sec.toInt ≤ 2 ^ 63 := by
  have hnonneg : 0 ≤ sec.toInt := by
    by_contra hneg
    have hle : ((1 : ℤ) : ℚ) ≤ ((-sec.toInt : ℤ) : ℚ) := by
      exact_mod_cast (by omega : (1 : ℤ) ≤ -sec.toInt)
    have hround : 2 ^ (0 : ℤ) ≤ binary64 ((-sec.toInt : ℤ) : ℚ) :=
      DecimalDoubles.le_binary64_zpow (by decide) (by rwa [zpow_zero, ← Int.cast_one])
    rw [Int.cast_neg, CorrectRounding.binary64_neg, zpow_zero] at hround
    linarith
  refine ⟨hnonneg, ?_⟩
  have hle : (sec.toInt : ℚ) ≤ 2 ^ (63 : ℤ) := by
    have hlt := sec.toInt_lt
    exact_mod_cast hlt.le
  exact_mod_cast CorrectRounding.binary64_le_zpow (by decide) (by exact_mod_cast hnonneg) hle

theorem le_fraction {n : Fin 1000000000} (h : 0 < binary64 (binary64 (n : ℕ) / 10 ^ 9)) :
    2 ^ (-30 : ℤ) ≤ binary64 (binary64 (n : ℕ) / 10 ^ 9) := by
  have hn : 1 ≤ (n : ℕ) := by
    by_contra hzero
    rw [show (n : ℕ) = 0 by omega] at h
    exact absurd h (by decide +kernel)
  have hwhole : 2 ^ (0 : ℤ) ≤ binary64 (n : ℕ) :=
    DecimalDoubles.le_binary64_zpow (by decide) (by rw [zpow_zero]; exact_mod_cast hn)
  refine DecimalDoubles.le_binary64_zpow (by decide) ?_
  rw [le_div_iff₀ (by norm_num)]
  refine le_trans ?_ hwhole
  norm_num

theorem boot_bounds {t : Option Timespec} (h : 0 < boot t) :
    2 ^ (-30 : ℤ) ≤ boot t ∧ boot t ≤ 2 ^ (64 : ℤ) := by
  cases t with
  | none => exact absurd h (by decide +kernel)
  | some t =>
    have hone := fraction_le t.nsec
    have hzero := fraction_nonneg t.nsec
    have hsum : 0 < binary64 t.sec.toInt + binary64 (binary64 (t.nsec : ℕ) / 10 ^ 9) := by
      by_contra hneg
      exact absurd (CorrectRounding.binary64_nonpos (not_lt.1 hneg)) (not_le.2 h)
    obtain ⟨hsec, htop⟩ := seconds_bounds hone hsum
    have hsec' : 0 ≤ binary64 t.sec.toInt := CorrectRounding.binary64_nonneg (by exact_mod_cast hsec)
    constructor
    · refine DecimalDoubles.le_binary64_zpow (by decide) ?_
      rcases hsec.eq_or_lt with hnone | hsome
      · rw [← hnone] at hsum ⊢
        rw [show binary64 ((0 : ℤ) : ℚ) = 0 by decide +kernel, zero_add] at hsum ⊢
        exact le_fraction hsum
      · have hwhole : 2 ^ (0 : ℤ) ≤ binary64 t.sec.toInt :=
          DecimalDoubles.le_binary64_zpow (by decide) (by rw [zpow_zero]; exact_mod_cast hsome)
        have hsmall : (2 : ℚ) ^ (-30 : ℤ) ≤ 2 ^ (0 : ℤ) :=
          zpow_le_zpow_right₀ (by norm_num) (by decide)
        linarith
    · refine CorrectRounding.binary64_le_zpow (by decide) hsum.le ?_
      have hroom : (2 : ℚ) ^ 63 + 1 ≤ 2 ^ (64 : ℤ) := by norm_num
      linarith

section

open FallibleFolds

/-- What the rows of `ps` and the members of the group do to a sample. -/
structure Extends (sample result : AuthoritySample) : Prop where
  flags : result.flags = sample.flags
  readStart : result.readStart = sample.readStart
  bootBefore : result.bootBefore = sample.bootBefore
  pids : ∀ pid ∈ result.pids, pid ≠ 0
  members : ∀ pid ∈ result.members, pid ≠ 0

variable {target : Target} {sample result result' : AuthoritySample}

theorem Extends.addPid (h : Extends sample result) {pidText : Text} {pid : UInt64}
    (hpid : number pidText = some pid) : Extends sample { result with pids := result.pids ++ [pid] } := by
  refine { h with pids := fun p hp => ?_ }
  rcases List.mem_append.1 hp with hold | hnew
  · exact h.pids p hold
  · rw [List.mem_singleton.1 hnew]
    exact number_ne_zero hpid

theorem Extends.addMember (h : Extends sample result) {pidText : Text} {pid : UInt64}
    (hpid : number pidText = some pid) : Extends sample { result with members := result.members ++ [pid] } := by
  refine { h with members := fun p hp => ?_ }
  rcases List.mem_append.1 hp with hold | hnew
  · exact h.members p hold
  · rw [List.mem_singleton.1 hnew]
    exact number_ne_zero hpid

theorem processRow_extends {line : Text} (hrow : processRow target result line = .ok result')
    (h : Extends sample result) : Extends sample result' := by
  unfold processRow at hrow
  split_ifs at hrow with hblank
  · cases hrow
    exact h
  · cases hpidText : word line with
    | none =>
      rw [hpidText] at hrow
      cases hrow
    | some first =>
      rw [hpidText] at hrow
      dsimp only at hrow
      cases huidText : word first.2 with
      | none =>
        rw [huidText] at hrow
        cases hrow
      | some second =>
        rw [huidText] at hrow
        dsimp only at hrow
        cases hname : word second.2 with
        | none =>
          rw [hname] at hrow
          cases hrow
        | some third =>
          rw [hname] at hrow
          dsimp only at hrow
          split at hrow
          · rename_i pid uid hpid huid
            split_ifs at hrow with hmismatch hours
            · cases hrow
              exact h.addPid hpid
            · cases hrow
              exact h
          · cases hrow

theorem memberRow_extends {pidText : Text} (hrow : memberRow result pidText = .ok result')
    (h : Extends sample result) : Extends sample result' := by
  unfold memberRow at hrow
  split at hrow
  · cases hrow
  · rename_i pid hpid
    cases hrow
    exact h.addMember hpid

theorem readMembers_extends {cg : Text} {groupAbsent : Bool}
    (hread : readMembers cg groupAbsent result = .ok result') (h : Extends sample result) :
    Extends sample result' := by
  unfold readMembers at hread
  split_ifs at hread
  · cases hread
    exact h
  · exact foldlM_invariant (fun s a s' hrow => memberRow_extends hrow) hread h

/-- What `parseAuthority` returns with. -/
structure Sampled (sample result : AuthoritySample) : Prop where
  known : result.flags.known = true
  absent : result.flags.absent = true → result.pids = [] ∧ result.members = []
  readStart : result.readStart = sample.readStart
  bootBefore : result.bootBefore = sample.bootBefore
  pids : ∀ pid ∈ result.pids, pid ≠ 0
  members : ∀ pid ∈ result.members, pid ≠ 0

theorem parseAuthority_ok {bm ps cg : Text} {groupAbsent : Bool}
    (hparse : parseAuthority bm ps cg groupAbsent target sample = .ok result) (hpids : sample.pids = [])
    (hmembers : sample.members = []) : Sampled sample result := by
  have hself : Extends sample sample := ⟨rfl, rfl, rfl, by simp [hpids], by simp [hmembers]⟩
  unfold parseAuthority at hparse
  cases huids : (uidMatches 0 bm).mapM number with
  | none =>
    rw [huids] at hparse
    cases hparse
  | some uids =>
    rw [huids] at hparse
    dsimp only at hparse
    split_ifs at hparse with hchanged
    split at hparse
    · cases hparse
    · rename_i header rows hps
      split_ifs at hparse with hheader
      obtain ⟨listed, hlisted, hparse⟩ := bind_eq_ok.1 hparse
      obtain ⟨joined, hjoined, hparse⟩ := bind_eq_ok.1 hparse
      obtain ⟨hconsistent, hparse⟩ := guard_eq_ok_iff.1 hparse
      have hrows := foldlM_invariant (fun s a s' hrow => processRow_extends hrow) hlisted hself
      have hall := readMembers_extends hjoined hrows
      cases hparse
      refine ⟨rfl, fun habsent => ?_, hall.readStart, hall.bootBefore, hall.pids, hall.members⟩
      simpa using habsent

variable {plan : Plan} {index : ℕ} {attempt planBytes : Text} {calls : Calls} {s s' : Snapshot}

theorem fail_ne_ok {α : Type} {a : α} {reason : String} : fail s reason ≠ .ok a := fun h => by cases h

theorem readBoot_valid {file : File} (h : (readBoot file).1 = true) :
    bootIdValid (readBoot file).2 = true := by
  unfold readBoot at h ⊢
  dsimp only at h ⊢
  split_ifs at h ⊢ with hbad
  exact h

theorem openSample_ok (h : openSample plan planBytes calls = .ok s) :
    0 ≤ boot calls.start ∧ bootIdValid plan.bootId = true ∧
      s = { authority := { readStart := boot calls.start, bootBefore := plan.bootId } } := by
  unfold openSample at h
  dsimp only at h
  split_ifs at h with hstart hboot hbinding htime
  · exact absurd h fail_ne_ok
  · exact absurd h fail_ne_ok
  · exact absurd h fail_ne_ok
  · exact absurd h fail_ne_ok
  · rw [not_or, not_not, Bool.not_eq_false] at hboot
    refine ⟨not_lt.1 hstart, hboot.2 ▸ readBoot_valid hboot.1, ?_⟩
    rw [← hboot.2]
    exact (Except.ok.inj h).symm

theorem sampleAuthority_ok (h : sampleAuthority target calls s = .ok s') (hpids : s.authority.pids = [])
    (hmembers : s.authority.members = []) :
    ∃ sample, Sampled s.authority sample ∧ s' = { s with authority := sample } := by
  unfold sampleAuthority at h
  split_ifs at h with hps
  · exact absurd h fail_ne_ok
  · obtain ⟨members, -, h⟩ := bind_eq_ok.1 h
    split at h
    · cases h
    · rename_i sample hparse
      exact ⟨sample, parseAuthority_ok hparse hpids hmembers, (Except.ok.inj h).symm⟩

/-- What `sampleJournal` returns with. -/
structure Journaled (attempt : Text) (target : Target) (s s' : Snapshot) : Prop where
  known : s'.known = s.known
  flags_known : s'.authority.flags.known = s.authority.flags.known
  readStart : s'.authority.readStart = s.authority.readStart
  bootBefore : s'.authority.bootBefore = s.authority.bootBefore
  pids : s'.authority.pids = s.authority.pids
  members : s'.authority.members = s.authority.members
  accepted : ∃ peakExists dailyExists,
    Accepted s'.peak s'.daily attempt target.uid peakExists dailyExists s'.journal
  live : s'.journal.oneGeneration = true → s.authority.flags.absent = false →
    s.authority.pids = [s'.journal.pid] ∧ s.authority.members = [s'.journal.pid]

theorem liveGeneration_ok {journal : Journal} {proc : ProcFiles}
    (h : (liveGeneration sample target journal proc).1 = true) :
    sample.pids = [journal.pid] ∧ sample.members = [journal.pid] := by
  unfold liveGeneration at h
  split_ifs at h with hother
  rwa [not_or, not_not, not_not] at hother

theorem liveGeneration_sample (sample : AuthoritySample) (target : Target) (journal : Journal) (proc : ProcFiles) :
    ∃ flags, (liveGeneration sample target journal proc).2 = { sample with flags := flags } ∧
      flags.known = sample.flags.known := by
  unfold liveGeneration
  split_ifs
  · exact ⟨sample.flags, rfl, rfl⟩
  · exact ⟨_, rfl, rfl⟩

theorem sampleJournal_ok (h : sampleJournal target attempt calls s = .ok s') :
    Journaled attempt target s s' := by
  unfold sampleJournal at h
  dsimp only at h
  split_ifs at h with hpeak hdaily
  · exact absurd h fail_ne_ok
  · exact absurd h fail_ne_ok
  · split at h
    · exact absurd h fail_ne_ok
    · rename_i journal hparse
      have haccepted := parseJournal_accepted hparse
      split_ifs at h with hlive hgood
      · exact absurd h fail_ne_ok
      · obtain ⟨flags, hsample, hknown⟩ := liveGeneration_sample s.authority target journal calls.proc
        have hlone := liveGeneration_ok (Bool.eq_true_of_not_eq_false hgood)
        cases h
        rw [hsample]
        exact ⟨rfl, hknown, rfl, rfl, rfl, rfl, ⟨_, _, haccepted⟩, fun _ _ => hlone⟩
      · cases h
        exact ⟨rfl, rfl, rfl, rfl, rfl, rfl, ⟨_, _, haccepted⟩,
          fun hone habsent => absurd ⟨habsent, hone⟩ hlive⟩

theorem closeSample_ok (h : closeSample plan planBytes calls s = .ok s') :
    ¬ (boot calls.finish < s.authority.readStart ∨ 8 < binary64 (boot calls.finish - s.authority.readStart)) ∧
      s' = { s with
        authority := { s.authority with readEnd := boot calls.finish, bootAfter := plan.bootId }
        known := true
        reason := text "complete" } := by
  unfold closeSample at h
  dsimp only at h
  split_ifs at h with hlate hboot
  · exact absurd h fail_ne_ok
  · exact absurd h fail_ne_ok
  · rw [not_or, not_or, not_not] at hboot
    refine ⟨hlate, ?_⟩
    rw [← hboot.2.1]
    exact (Except.ok.inj h).symm

structure Known (plan : Plan) (index : ℕ) (attempt : Text) (target : Target) (s : Snapshot) : Prop where
  planned : plan.targets[index]? = some target
  known : s.known = true
  reason : s.reason = text "complete"
  flags_known : s.authority.flags.known = true
  bootId : bootIdValid plan.bootId = true
  bootBefore : s.authority.bootBefore = plan.bootId
  bootAfter : s.authority.bootAfter = plan.bootId
  clock : ∃ start finish, s.authority.readStart = boot start ∧ s.authority.readEnd = boot finish
  start_nonneg : 0 ≤ s.authority.readStart
  in_time : ¬ (s.authority.readEnd < s.authority.readStart ∨
    8 < binary64 (s.authority.readEnd - s.authority.readStart))
  pids : ∀ pid ∈ s.authority.pids, pid ≠ 0
  members : ∀ pid ∈ s.authority.members, pid ≠ 0
  accepted : ∃ peakExists dailyExists,
    Accepted s.peak s.daily attempt target.uid peakExists dailyExists s.journal
  lone : s.journal.oneGeneration = true → s.authority.pids.length ≤ 1 ∧ s.authority.members.length ≤ 1

theorem takeSnapshot_known (h : takeSnapshot plan index attempt planBytes calls = .ok s) :
    ∃ target, Known plan index attempt target s := by
  unfold takeSnapshot at h
  cases htarget : plan.targets[index]? with
  | none =>
    rw [htarget] at h
    exact absurd h fail_ne_ok
  | some target =>
    rw [htarget] at h
    dsimp only at h
    split_ifs at h with hallowed
    · exact absurd h fail_ne_ok
    · obtain ⟨opened, hopen, hauthority⟩ := bind_eq_ok.1 h
      obtain ⟨sampled, hsampled, hjournal⟩ := bind_eq_ok.1 hauthority
      obtain ⟨journaled, hjournaled, hclose⟩ := bind_eq_ok.1 hjournal
      obtain ⟨hstart, hbootId, rfl⟩ := openSample_ok hopen
      obtain ⟨sample, hsample, rfl⟩ := sampleAuthority_ok hsampled rfl rfl
      have hj := sampleJournal_ok hjournaled
      obtain ⟨htime, rfl⟩ := closeSample_ok hclose
      have hstartSame : journaled.authority.readStart = boot calls.start :=
        hj.readStart.trans hsample.readStart
      exact ⟨target,
        { planned := htarget
          known := rfl
          reason := rfl
          flags_known := hj.flags_known.trans hsample.known
          bootId := hbootId
          bootBefore := hj.bootBefore.trans hsample.bootBefore
          bootAfter := rfl
          clock := ⟨calls.start, calls.finish, hstartSame, rfl⟩
          start_nonneg := hstartSame ▸ hstart
          in_time := htime
          pids := fun pid hpid => hsample.pids pid (hj.pids ▸ hpid)
          members := fun pid hpid => hsample.members pid (hj.members ▸ hpid)
          accepted := hj.accepted
          lone := fun hone => by
            rw [hj.pids, hj.members]
            cases habsent : sample.flags.absent with
            | true =>
              obtain ⟨hpids, hmembers⟩ := hsample.absent habsent
              simp [hpids, hmembers]
            | false =>
              obtain ⟨hpids, hmembers⟩ := hj.live hone habsent
              dsimp only at hpids hmembers
              simp [hpids, hmembers] }⟩

theorem fail_error {α : Type} {reason : String} (h : fail (α := α) s reason = .error s') :
    s'.known = s.known := by
  cases h
  rfl

theorem openSample_error (h : openSample plan planBytes calls = .error s) : s.known = false := by
  unfold openSample at h
  dsimp only at h
  split_ifs at h <;> exact (fail_error h).trans rfl

theorem readGroup_error (h : readGroup calls s = .error s') : s'.known = s.known := by
  unfold readGroup at h
  split at h
  · cases h
  · exact (fail_error h).trans rfl
  · dsimp only at h
    split_ifs at h
    exact (fail_error h).trans rfl

theorem sampleAuthority_error (h : sampleAuthority target calls s = .error s') : s'.known = s.known := by
  unfold sampleAuthority at h
  split_ifs at h with hps
  · exact (fail_error h).trans rfl
  · rcases bind_eq_error.1 h with hgroup | ⟨members, -, hparse⟩
    · exact readGroup_error hgroup
    · split at hparse
      · cases hparse
        rfl
      · cases hparse

theorem sampleJournal_error (h : sampleJournal target attempt calls s = .error s') :
    s'.known = s.known := by
  unfold sampleJournal at h
  dsimp only at h
  split_ifs at h with hpeak hdaily
  · exact (fail_error h).trans rfl
  · exact (fail_error h).trans rfl
  · split at h
    · exact (fail_error h).trans rfl
    · split_ifs at h
      exact (fail_error h).trans rfl

theorem closeSample_error (h : closeSample plan planBytes calls s = .error s') : s'.known = s.known := by
  unfold closeSample at h
  dsimp only at h
  split_ifs at h <;> exact (fail_error h).trans rfl

theorem takeSnapshot_error (h : takeSnapshot plan index attempt planBytes calls = .error s) :
    s.known = false := by
  unfold takeSnapshot at h
  split at h
  · exact fail_error h
  · rename_i target htarget
    split_ifs at h with hallowed
    · exact fail_error h
    · rcases bind_eq_error.1 h with hopen | ⟨opened, hopen, hauthority⟩
      · exact openSample_error hopen
      obtain ⟨-, -, rfl⟩ := openSample_ok hopen
      rcases bind_eq_error.1 hauthority with hsampled | ⟨sampled, hsampled, hjournal⟩
      · exact sampleAuthority_error hsampled
      obtain ⟨sample, -, rfl⟩ := sampleAuthority_ok hsampled rfl rfl
      rcases bind_eq_error.1 hjournal with hjournaled | ⟨journaled, hjournaled, hclose⟩
      · exact sampleJournal_error hjournaled
      · exact (closeSample_error hclose).trans (sampleJournal_ok hjournaled).known

theorem localSnapshot_known (h : (localSnapshot plan index attempt planBytes calls).known = true) :
    ∃ target, Known plan index attempt target (localSnapshot plan index attempt planBytes calls) := by
  unfold localSnapshot at h ⊢
  cases hresult : takeSnapshot plan index attempt planBytes calls with
  | ok result => exact takeSnapshot_known hresult
  | error result =>
    rw [hresult] at h
    exact absurd h (by simp [takeSnapshot_error hresult])

end

end Parp.RetrySnapshot
