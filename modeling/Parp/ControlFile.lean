import Parp.Delimited
import Parp.FallibleFolds
import Parp.MemshiftCore
import Parp.SortedMap

set_option autoImplicit false

/-!
# The control file

The keys of the control file, read line by line and printed in one order.
-/
namespace Parp.ControlFile

open Memshift SortedMap Delimited List

structure Control where
  paused : Bool := false
  protectedApps : Map Text Unit := ∅
  boost : Bytes := 0
  until_ : Bytes := 0
  peakTargets : Map Text Bytes := ∅
  peakAt : Bytes := 0
deriving DecidableEq

/-- The first item of a text up to `d`, and what follows `d`. -/
def assignment (line : Text) : Except Text (Text × Text) :=
  if '=' ∈ line then
    .ok (trim (line.takeWhile (· ≠ '=')), trim (line.dropWhile (· ≠ '=')).tail)
  else .error (text "expected key=value: " ++ line)

def parsePeakTarget (out : Map Text Bytes) (item : Text) : Except Text (Map Text Bytes) :=
  let item := trim item
  if item = [] then .ok out
  else if ':' ∉ item then .error (text "peak target must be name:MiB")
  else
    let name := trim (item.takeWhile (· ≠ ':'))
    if !safeName name then .error (text "invalid peak target app name")
    else do
      let target ← mbValue (trim (item.dropWhile (· ≠ ':')).tail)
      if out.contains name then .error (text "duplicate peak target")
      else .ok (out.emplace name target)

def parsePeakTargets (v : Text) : Except Text (Map Text Bytes) :=
  (getlines ',' v).foldlM parsePeakTarget ∅

def parseProtectedApp (names : Map Text Unit) (n : Text) : Except Text (Map Text Unit) :=
  let n := trim n
  if !safeName n then .error (text "invalid protected app name") else .ok (names.emplace n ())

def setKey (c : Control) (k v : Text) : Except Text Control :=
  if k = text "paused" then return { c with paused := ← boolValue v }
  else if k = text "protected_apps" then
    return { c with protectedApps := ← (getlines ',' v).foldlM parseProtectedApp c.protectedApps }
  else if k = text "reserve_extra_mb" then return { c with boost := ← mbValue v }
  else if k = text "boost_until_unix" then return { c with until_ := ← uintValue v }
  else if k = text "peak_targets" then return { c with peakTargets := ← parsePeakTargets v }
  else if k = text "peak_at_unix" then return { c with peakAt := ← uintValue v }
  else .error (text "unknown control key: " ++ k)

def parseLine (p : Control × List Text) (line : Text) : Except Text (Control × List Text) :=
  let line := trim line
  if line = [] ∨ line.head? = some '#' then .ok p
  else do
    let (k, v) ← assignment line
    if k ∈ p.2 then .error (text "duplicate control key")
    else return (← setKey p.1 k v, p.2 ++ [k])

def parseControl (s : Text) : Except Text Control := do
  let (c, seen) ← (getlines '\n' s).foldlM parseLine ({}, [])
  if seen.length - seen.count (text "peak_targets") - seen.count (text "peak_at_unix") ≠ 4 then
    .error (text "control file must contain all four keys")
  else return c

def boolText (b : Bool) : Text := if b then text "true" else text "false"

def targetText (e : Text × Bytes) : Text := e.1 ++ ':' :: toText (e.2 / MiB).toNat

def controlText (c : Control) : Text :=
  let names := c.protectedApps.entries.foldl (fun names e => joined ',' names e.1) []
  let s := text "paused=" ++ boolText c.paused ++ text "\nprotected_apps=" ++ names ++
    text "\nreserve_extra_mb=" ++ toText (c.boost / MiB).toNat ++
    text "\nboost_until_unix=" ++ toText c.until_.toNat ++ text "\n"
  let s := if c.peakTargets.isEmpty then s else
    let t := c.peakTargets.entries.foldl (fun t e => joined ',' t (targetText e)) []
    s ++ text "peak_targets=" ++ t ++ text "\n"
  if c.peakAt = 0 then s else s ++ text "peak_at_unix=" ++ toText c.peakAt.toNat ++ text "\n"

structure Printable (c : Control) : Prop where
  boost : c.boost % MiB = 0
  names : ∀ e ∈ c.protectedApps.entries, safeName e.1 = true
  targets : ∀ e ∈ c.peakTargets.entries, safeName e.1 = true ∧ e.2 % MiB = 0

/-!
# Printing and reading the control file
-/

open FallibleFolds

section

variable {c : Control}

/-- The printed value of `protected_apps`. -/
def namesText (c : Control) : Text :=
  c.protectedApps.entries.foldl (fun names e => joined ',' names e.1) []

/-- The printed value of `peak_targets`. -/
def targetsText (c : Control) : Text :=
  c.peakTargets.entries.foldl (fun t e => joined ',' t (targetText e)) []

theorem foldl_joined_map {α : Type} (item : α → Text) (xs : List α) :
    xs.foldl (fun s e => joined ',' s (item e)) [] = (xs.map item).foldl (joined ',') [] := by
  rw [foldl_map]

theorem namesText_lines (h : Printable c) :
    getlines ',' (namesText c) = c.protectedApps.entries.map Prod.fst := by
  unfold namesText
  rw [foldl_joined_map]
  refine getlines_joined ',' fun a ha => ?_
  obtain ⟨e, he, rfl⟩ := mem_map.1 ha
  exact ⟨safeName_not_mem (h.names e he) (by decide), safeName_ne_nil (h.names e he)⟩

theorem targetText_digits {n : ℕ} {c : Char} (hc : c.isDigit = false) : c ∉ toText n := by
  intro hmem
  have hdigit := Nat.isDigit_of_mem_toDigits (by decide) (by decide) hmem
  rw [hc] at hdigit
  cases hdigit

theorem targetsText_lines (h : Printable c) :
    getlines ',' (targetsText c) = c.peakTargets.entries.map targetText := by
  unfold targetsText
  rw [foldl_joined_map]
  refine getlines_joined ',' fun a ha => ?_
  obtain ⟨e, he, rfl⟩ := mem_map.1 ha
  have hname := (h.targets e he).1
  refine ⟨fun hcomma => ?_, append_ne_nil_of_left_ne_nil (safeName_ne_nil hname) _⟩
  unfold targetText at hcomma
  rcases mem_append.1 hcomma with hcomma | hcomma
  · exact safeName_not_mem hname (by decide) hcomma
  · rcases mem_cons.1 hcomma with hcolon | hcomma
    · cases hcolon
    · exact targetText_digits (by decide) hcomma

theorem clean_target {e : Text × Bytes} (h : safeName e.1 = true) : Clean (targetText e) := by
  refine clean_append (safeName_clean h) fun x hx => ?_
  rcases mem_cons.1 hx with rfl | hx
  · rfl
  · exact clean_toText _ x hx

theorem clean_joined {pieces : List Text} (h : ∀ a ∈ pieces, Clean a) {s : Text} (hs : Clean s) :
    Clean (pieces.foldl (joined ',') s) := by
  induction pieces generalizing s with
  | nil => exact hs
  | cons a pieces ih =>
    have ha := h a (.head _)
    refine ih (fun b hb => h b (.tail _ hb)) ?_
    unfold joined
    split_ifs with hnil
    · exact ha
    · refine clean_append hs fun x hx => ?_
      rcases mem_cons.1 hx with rfl | hx
      · rfl
      · exact ha x hx

theorem clean_names (h : Printable c) : Clean (namesText c) := by
  unfold namesText
  rw [foldl_joined_map]
  refine clean_joined (fun a ha => ?_) nofun
  obtain ⟨e, he, rfl⟩ := mem_map.1 ha
  exact safeName_clean (h.names e he)

theorem clean_targets (h : Printable c) : Clean (targetsText c) := by
  unfold targetsText
  rw [foldl_joined_map]
  refine clean_joined (fun a ha => ?_) nofun
  obtain ⟨e, he, rfl⟩ := mem_map.1 ha
  exact clean_target (h.targets e he).1

end

section

variable {c : Control}

theorem names_read (h : Printable c) :
    (getlines ',' (namesText c)).foldlM parseProtectedApp ∅ = .ok c.protectedApps := by
  rw [namesText_lines h]
  refine Map.foldlM_emplace _ _ _ fun e he n _ => ?_
  have hname := h.names e he
  unfold parseProtectedApp
  dsimp only
  rw [trim_clean (safeName_clean hname), hname]
  rfl

theorem targets_read (h : Printable c) : parsePeakTargets (targetsText c) = .ok c.peakTargets := by
  unfold parsePeakTargets
  rw [targetsText_lines h]
  refine Map.foldlM_emplace _ _ _ fun e he n hnew => ?_
  obtain ⟨hname, hwhole⟩ := h.targets e he
  have hcolon : ':' ∉ e.1 := safeName_not_mem hname (by decide)
  have hitem : targetText e = e.1 ++ ':' :: toText (e.2 / MiB).toNat := rfl
  have hne : targetText e ≠ [] := append_ne_nil_of_left_ne_nil (safeName_ne_nil hname) _
  have hmem : ':' ∈ targetText e := mem_append_right _ (.head _)
  unfold parsePeakTarget
  dsimp only
  rw [trim_clean (clean_target hname), if_neg hne, if_neg (not_not.2 hmem), hitem,
    takeWhile_split hcolon, dropWhile_split hcolon, tail_cons,
    trim_clean (safeName_clean hname), trim_clean (clean_toText _), hname, mbValue_toText hwhole]
  change (if n.contains e.1 = true then _ else Except.ok _) = _
  rw [hnew]
  rfl

theorem boolValue_boolText (b : Bool) : boolValue (boolText b) = .ok b := by
  cases b <;> rfl

instance (s : Text) : Decidable (Clean s) := List.decidableBAll (fun c => isBlank c = false) s

theorem clean_boolText (b : Bool) : Clean (boolText b) := by
  cases b <;> decide

end

def requiredPairs (c : Control) : List (Text × Text) :=
  [(text "paused", boolText c.paused), (text "protected_apps", namesText c),
    (text "reserve_extra_mb", toText (c.boost / MiB).toNat),
    (text "boost_until_unix", toText c.until_.toNat)]

def targetsPairs (c : Control) : List (Text × Text) :=
  if c.peakTargets.isEmpty then [] else [(text "peak_targets", targetsText c)]

def peakAtPairs (c : Control) : List (Text × Text) :=
  if c.peakAt = 0 then [] else [(text "peak_at_unix", toText c.peakAt.toNat)]

def printed (c : Control) : List (Text × Text) :=
  requiredPairs c ++ targetsPairs c ++ peakAtPairs c

def lineText (p : Text × Text) : Text := p.1 ++ '=' :: p.2

theorem controlText_lines (c : Control) :
    controlText c = ((printed c).map lineText).flatMap fun line => line ++ ['\n'] := by
  unfold controlText printed targetsPairs peakAtPairs
  dsimp only
  rw [← namesText, ← targetsText]
  split_ifs <;> simp [requiredPairs, lineText, text]

def PlainKey (k : Text) : Prop := '=' ∉ k ∧ k ≠ [] ∧ k.head? ≠ some '#' ∧ ∀ c ∈ k, isBlank c = false

instance (k : Text) : Decidable (PlainKey k) :=
  have := List.decidableBAll (fun c => isBlank c = false) k
  inferInstanceAs (Decidable (_ ∧ _ ∧ _ ∧ _))

theorem clean_line {p : Text × Text} (hkey : PlainKey p.1) (hvalue : Clean p.2) :
    Clean (lineText p) := by
  refine clean_append hkey.2.2.2 fun x hx => ?_
  rcases mem_cons.1 hx with rfl | hx
  · rfl
  · exact hvalue x hx

theorem parseLine_line {k v : Text} (hkey : PlainKey k) (hvalue : Clean v) {c c' : Control}
    {seen : List Text} (hnew : k ∉ seen) (hset : setKey c k v = .ok c') :
    parseLine (c, seen) (lineText (k, v)) = .ok (c', seen ++ [k]) := by
  have hclean := @clean_line (k, v) hkey hvalue
  obtain ⟨heq, hne, hhash, hblank⟩ := hkey
  have hskip : ¬ (lineText (k, v) = [] ∨ (lineText (k, v)).head? = some '#') := by
    unfold lineText
    rintro (hnil | hhead)
    · exact hne (append_eq_nil_iff.1 hnil).1
    · rw [head?_append_of_ne_nil _ hne] at hhead
      exact hhash hhead
  have hassignment : assignment (lineText (k, v)) = .ok (k, v) := by
    have hmem : '=' ∈ lineText (k, v) := mem_append_right _ (.head _)
    unfold assignment
    rw [if_pos hmem, lineText, takeWhile_split heq, dropWhile_split heq, tail_cons,
      trim_clean hblank, trim_clean hvalue]
  unfold parseLine
  dsimp only
  rw [trim_clean hclean, if_neg hskip, hassignment]
  change (if k ∈ seen then _ else setKey c k v >>= fun c => Except.ok (c, seen ++ [k])) = _
  rw [if_neg hnew, hset]
  rfl

section

variable {c : Control}

def requiredKeys : List Text :=
  [text "paused", text "protected_apps", text "reserve_extra_mb", text "boost_until_unix"]

theorem parse_required (h : Printable c) :
    ((requiredPairs c).map lineText).foldlM parseLine ({}, []) =
      .ok ({ c with peakTargets := ∅, peakAt := 0 }, requiredKeys) := by
  have hpaused : setKey {} (text "paused") (boolText c.paused) = .ok { paused := c.paused } := by
    change (boolValue (boolText c.paused) >>= fun b => Except.ok _) = _
    rw [boolValue_boolText]
    rfl
  have hnames : setKey { paused := c.paused } (text "protected_apps") (namesText c) =
      .ok { paused := c.paused, protectedApps := c.protectedApps } := by
    change ((getlines ',' (namesText c)).foldlM parseProtectedApp ∅ >>= fun b => Except.ok _) = _
    rw [names_read h]
    rfl
  have hboost : setKey { paused := c.paused, protectedApps := c.protectedApps }
      (text "reserve_extra_mb") (toText (c.boost / MiB).toNat) =
      .ok { paused := c.paused, protectedApps := c.protectedApps, boost := c.boost } := by
    change (mbValue _ >>= fun b => Except.ok _) = _
    rw [mbValue_toText h.boost]
    rfl
  have huntil : setKey { paused := c.paused, protectedApps := c.protectedApps, boost := c.boost }
      (text "boost_until_unix") (toText c.until_.toNat) =
      .ok { c with peakTargets := ∅, peakAt := 0 } := by
    change (uintValue _ >>= fun b => Except.ok _) = _
    rw [uintValue_toText c.until_.toNat_lt, UInt64.ofNat_toNat]
    rfl
  unfold requiredPairs
  simp only [map_cons, map_nil, foldlM_cons]
  rw [parseLine_line (by decide) (clean_boolText _) (by decide) hpaused]
  change (parseLine _ _ >>= _) = _
  rw [parseLine_line (by decide) (clean_names h) (by decide) hnames]
  change (parseLine _ _ >>= _) = _
  rw [parseLine_line (by decide) (clean_toText _) (by decide) hboost]
  change (parseLine _ _ >>= _) = _
  rw [parseLine_line (by decide) (clean_toText _) (by decide) huntil]
  rfl

theorem parse_targets (h : Printable c) :
    ((targetsPairs c).map lineText).foldlM parseLine
        ({ c with peakTargets := ∅, peakAt := 0 }, requiredKeys) =
      .ok ({ c with peakAt := 0 }, requiredKeys ++ (targetsPairs c).map Prod.fst) := by
  unfold targetsPairs
  split_ifs with hempty
  · have hnone : c.peakTargets = ∅ := Map.ext (isEmpty_iff.1 hempty)
    rw [← hnone, map_nil, map_nil, append_nil]
    rfl
  · have htargets : setKey { c with peakTargets := ∅, peakAt := 0 } (text "peak_targets")
        (targetsText c) = .ok { c with peakAt := 0 } := by
      change (parsePeakTargets _ >>= fun b => Except.ok _) = _
      rw [targets_read h]
      rfl
    rw [map_singleton, foldlM_cons,
      parseLine_line (by decide) (clean_targets h) (by decide) htargets]
    rfl

theorem parse_peakAt {seen : List Text} (hseen : text "peak_at_unix" ∉ seen) :
    ((peakAtPairs c).map lineText).foldlM parseLine ({ c with peakAt := 0 }, seen) =
      .ok (c, seen ++ (peakAtPairs c).map Prod.fst) := by
  unfold peakAtPairs
  split_ifs with hzero
  · rw [← hzero, map_nil, map_nil, append_nil]
    rfl
  · have hpeak : setKey { c with peakAt := 0 } (text "peak_at_unix") (toText c.peakAt.toNat) =
        .ok c := by
      change (uintValue _ >>= fun b => Except.ok _) = _
      rw [uintValue_toText c.peakAt.toNat_lt, UInt64.ofNat_toNat]
      rfl
    rw [map_singleton, foldlM_cons,
      parseLine_line (by decide) (clean_toText _) hseen hpeak]
    rfl

theorem printed_clean (h : Printable c) : ∀ p ∈ printed c, PlainKey p.1 ∧ Clean p.2 := by
  have hplain : ∀ k ∈ requiredKeys ++ [text "peak_targets", text "peak_at_unix"], PlainKey k := by
    decide
  intro p hp
  have hkey : p.1 ∈ requiredKeys ++ [text "peak_targets", text "peak_at_unix"] ∧ Clean p.2 := by
    unfold printed requiredPairs targetsPairs peakAtPairs at hp
    simp only [mem_append, mem_cons, not_mem_nil, or_false] at hp
    rcases hp with ((rfl | rfl | rfl | rfl) | hp) | hp
    · exact ⟨.head _, clean_boolText _⟩
    · exact ⟨.tail _ (.head _), clean_names h⟩
    · exact ⟨.tail _ (.tail _ (.head _)), clean_toText _⟩
    · exact ⟨.tail _ (.tail _ (.tail _ (.head _))), clean_toText _⟩
    · split_ifs at hp with hempty
      · cases hp
      · rw [mem_singleton.1 hp]
        exact ⟨mem_append_right _ (.head _), clean_targets h⟩
    · split_ifs at hp with hzero
      · cases hp
      · rw [mem_singleton.1 hp]
        exact ⟨mem_append_right _ (.tail _ (.head _)), clean_toText _⟩
  exact ⟨hplain _ hkey.1, hkey.2⟩

theorem parse_printed (h : Printable c) : parseControl (controlText c) = .ok c := by
  have hlines : getlines '\n' (controlText c) = (printed c).map lineText := by
    rw [controlText_lines]
    refine getlines_flatMap '\n' fun line hline hnewline => ?_
    obtain ⟨p, hp, rfl⟩ := mem_map.1 hline
    obtain ⟨hkey, hvalue⟩ := printed_clean h p hp
    have hblank := clean_line hkey hvalue '\n' hnewline
    cases hblank
  have htargetKeys : (targetsPairs c).map Prod.fst = [] ∨
      (targetsPairs c).map Prod.fst = [text "peak_targets"] := by
    unfold targetsPairs
    split_ifs
    · exact .inl rfl
    · exact .inr rfl
  have hpeakKeys : (peakAtPairs c).map Prod.fst = [] ∨
      (peakAtPairs c).map Prod.fst = [text "peak_at_unix"] := by
    unfold peakAtPairs
    split_ifs
    · exact .inl rfl
    · exact .inr rfl
  have hseen : text "peak_at_unix" ∉ requiredKeys ++ (targetsPairs c).map Prod.fst := by
    rcases htargetKeys with hkeys | hkeys <;> rw [hkeys] <;> decide
  have hfold : ((printed c).map lineText).foldlM parseLine ({}, []) =
      .ok (c, requiredKeys ++ (targetsPairs c).map Prod.fst ++ (peakAtPairs c).map Prod.fst) := by
    unfold printed
    rw [map_append, map_append, foldlM_append, foldlM_append,
      parse_required h]
    change ((List.foldlM parseLine _ _) >>= _) = _
    rw [parse_targets h]
    exact parse_peakAt hseen
  unfold parseControl
  rw [hlines, hfold]
  rcases htargetKeys with htargets | htargets <;> rcases hpeakKeys with hpeak | hpeak <;>
    rw [htargets, hpeak] <;> rfl

end

theorem parseProtectedApp_safe {names names' : Map Text Unit} {n : Text}
    (hparse : parseProtectedApp names n = .ok names')
    (h : ∀ e ∈ names.entries, safeName e.1 = true) : ∀ e ∈ names'.entries, safeName e.1 = true := by
  unfold parseProtectedApp at hparse
  dsimp only at hparse
  split_ifs at hparse with hsafe
  cases hparse
  intro e he
  rcases mem_emplace he with rfl | he
  · simpa using hsafe
  · exact h e he

theorem parsePeakTarget_whole {out out' : Map Text Bytes} {item : Text}
    (hparse : parsePeakTarget out item = .ok out')
    (h : ∀ e ∈ out.entries, safeName e.1 = true ∧ e.2 % MiB = 0) :
    ∀ e ∈ out'.entries, safeName e.1 = true ∧ e.2 % MiB = 0 := by
  unfold parsePeakTarget at hparse
  dsimp only at hparse
  split_ifs at hparse with hempty hcolon hsafe hduplicate
  · cases hparse
    exact h
  · obtain ⟨target, -, herror⟩ := bind_eq_ok.1 hparse
    cases herror
  · obtain ⟨target, htarget, hemplace⟩ := bind_eq_ok.1 hparse
    cases hemplace
    intro e he
    rcases mem_emplace he with rfl | he
    · exact ⟨by simpa using hsafe, mbValue_whole htarget⟩
    · exact h e he

theorem setKey_printable {c c' : Control} {k v : Text} (hset : setKey c k v = .ok c')
    (h : Printable c) : Printable c' := by
  unfold setKey at hset
  split_ifs at hset
  · obtain ⟨paused, -, hc'⟩ := bind_eq_ok.1 hset
    cases hc'
    exact ⟨h.boost, h.names, h.targets⟩
  · obtain ⟨names, hnames, hc'⟩ := bind_eq_ok.1 hset
    cases hc'
    exact ⟨h.boost, foldlM_invariant (fun _ _ _ => parseProtectedApp_safe) hnames h.names,
      h.targets⟩
  · obtain ⟨boost, hboost, hc'⟩ := bind_eq_ok.1 hset
    cases hc'
    exact ⟨mbValue_whole hboost, h.names, h.targets⟩
  · obtain ⟨until_, -, hc'⟩ := bind_eq_ok.1 hset
    cases hc'
    exact ⟨h.boost, h.names, h.targets⟩
  · obtain ⟨targets, htargets, hc'⟩ := bind_eq_ok.1 hset
    cases hc'
    exact ⟨h.boost, h.names, foldlM_invariant (fun _ _ _ => parsePeakTarget_whole) htargets nofun⟩
  · obtain ⟨peakAt, -, hc'⟩ := bind_eq_ok.1 hset
    cases hc'
    exact ⟨h.boost, h.names, h.targets⟩

theorem parseLine_printable {p p' : Control × List Text} {line : Text}
    (hparse : parseLine p line = .ok p') (h : Printable p.1) : Printable p'.1 := by
  unfold parseLine at hparse
  dsimp only at hparse
  split_ifs at hparse
  · cases hparse
    exact h
  · obtain ⟨⟨k, v⟩, -, hparse⟩ := bind_eq_ok.1 hparse
    dsimp only at hparse
    split_ifs at hparse
    obtain ⟨c, hset, hp'⟩ := bind_eq_ok.1 hparse
    cases hp'
    exact setKey_printable hset h

theorem parseControl_printable {s : Text} {c : Control} (h : parseControl s = .ok c) :
    Printable c := by
  unfold parseControl at h
  obtain ⟨⟨c', seen⟩, hfold, hcount⟩ := bind_eq_ok.1 h
  dsimp only at hcount
  split_ifs at hcount
  cases hcount
  have hstart : Printable ({} : Control) := ⟨rfl, nofun, nofun⟩
  exact @foldlM_invariant _ _ _ parseLine (fun p => Printable p.1)
    (fun _ _ _ => parseLine_printable) _ _ _ hfold hstart

/-- Printing and reading back, from a control and from an accepted text. -/
theorem control_roundTrip :
    (∀ c, Printable c → parseControl (controlText c) = .ok c) ∧
      ∀ s c, parseControl s = .ok c → parseControl (controlText c) = .ok c :=
  ⟨fun _ => parse_printed, fun _ _ h => parse_printed (parseControl_printable h)⟩

/-- A text with comments, repeated names and an empty target, and the control it stands for. -/
theorem commented_roundTrip :
    let s := text "# apps\npaused = true\nprotected_apps=b, a,b\nreserve_extra_mb=3\n\n" ++
      text "boost_until_unix=18446744073709551615\npeak_targets=,w:0,\n"
    let c : Control :=
      { paused := true
        protectedApps := (Map.empty.emplace (text "a") ()).emplace (text "b") ()
        boost := 3 * MiB
        until_ := Unlimited
        peakTargets := Map.empty.emplace (text "w") 0 }
    parseControl s = .ok c ∧ parseControl (controlText c) = .ok c := by
  intro s c
  have hparse : parseControl s = .ok c := rfl
  exact ⟨hparse, control_roundTrip.2 s c hparse⟩

end Parp.ControlFile
