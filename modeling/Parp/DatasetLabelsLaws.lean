import Parp.DatasetLabels

set_option autoImplicit false

namespace Parp.DatasetLabels

open FallibleFolds IntervalSearch OrderedDict List

variable {α : Type}

def candidatesOf (records : List (Record α)) : List (Candidate α) :=
  records.filterMap fun
    | .candidate c => some c
    | _ => none

def accessesOf (records : List (Record α)) : List (Access α) :=
  records.filterMap fun
    | .access a => some a
    | _ => none

def telemetryOf (records : List (Record α)) : List (Telemetry α) :=
  records.filterMap fun
    | .telemetry t => some t
    | _ => none

def pointsOf (records : List (Record α)) (key : FolioKey) : List AccessPoint :=
  ((accessesOf records).filter fun a => a.folioKey = key).map fun a => (a.timestampNs, a.accessSource)

def RecordOk (contract : Contract α) : Record α → Prop
  | .candidate c => contract.validateCandidate c = .ok ()
  | .access a => contract.validateAccess a = .ok ()
  | .telemetry t => contract.validateTelemetry t = .ok ()
  | .other _ => False

def Collected.extended (s : Collected α) (records : List (Record α)) : Collected α where
  candidates := s.candidates ++ candidatesOf records
  telemetry := s.telemetry ++ telemetryOf records
  accesses := fun key => s.accesses key ++ pointsOf records key
  accessCount := s.accessCount + (accessesOf records).length

theorem extended_nil (s : Collected α) : s.extended [] = s := by
  unfold Collected.extended candidatesOf telemetryOf pointsOf accessesOf
  simp

theorem extended_append (s : Collected α) (left right : List (Record α)) :
    s.extended (left ++ right) = (s.extended left).extended right := by
  unfold Collected.extended candidatesOf telemetryOf pointsOf accessesOf
  simp [Nat.add_assoc]

theorem extended_access (s : Collected α) (a : Access α) :
    s.extended [.access a] = s.addAccess a := by
  have haccesses : (fun key => s.accesses key ++ pointsOf [.access a] key) =
      Function.update s.accesses a.folioKey
        (s.accesses a.folioKey ++ [(a.timestampNs, a.accessSource)]) := by
    funext key
    by_cases hkey : key = a.folioKey
    · subst hkey
      simp [pointsOf, accessesOf]
    · have hother : a.folioKey ≠ key := fun h => hkey h.symm
      simp [pointsOf, accessesOf, hkey, hother]
  unfold Collected.extended Collected.addAccess
  rw [haccesses]
  simp [candidatesOf, telemetryOf, accessesOf]

theorem collect_eq_ok_iff {contract : Contract α} {s s' : Collected α} {r : Record α} :
    collect contract s r = .ok s' ↔ RecordOk contract r ∧ s' = s.extended [r] := by
  cases r with
  | candidate c =>
    have hextended : s.extended [.candidate c] = { s with candidates := s.candidates ++ [c] } := by
      simp [Collected.extended, candidatesOf, telemetryOf, pointsOf, accessesOf]
    unfold collect
    rw [bind_eq_ok, hextended]
    exact ⟨fun ⟨_, hvalid, hs⟩ => ⟨hvalid, (Except.ok.inj hs).symm⟩,
      fun ⟨hvalid, hs⟩ => ⟨(), hvalid, congrArg Except.ok hs.symm⟩⟩
  | access a =>
    unfold collect
    rw [bind_eq_ok, extended_access]
    exact ⟨fun ⟨_, hvalid, hs⟩ => ⟨hvalid, (Except.ok.inj hs).symm⟩,
      fun ⟨hvalid, hs⟩ => ⟨(), hvalid, congrArg Except.ok hs.symm⟩⟩
  | telemetry t =>
    have hextended : s.extended [.telemetry t] = { s with telemetry := s.telemetry ++ [t] } := by
      simp [Collected.extended, candidatesOf, telemetryOf, pointsOf, accessesOf]
    unfold collect
    rw [bind_eq_ok, hextended]
    exact ⟨fun ⟨_, hvalid, hs⟩ => ⟨hvalid, (Except.ok.inj hs).symm⟩,
      fun ⟨hvalid, hs⟩ => ⟨(), hvalid, congrArg Except.ok hs.symm⟩⟩
  | other kind => exact ⟨fun h => (by cases h), fun h => h.1.elim⟩

theorem collected_eq_ok_iff {contract : Contract α} {records : List (Record α)} :
    ∀ {s s' : Collected α}, records.foldlM (collect contract) s = .ok s' ↔
      (∀ r ∈ records, RecordOk contract r) ∧ s' = s.extended records := by
  induction records with
  | nil =>
    intro s s'
    rw [extended_nil]
    exact ⟨fun h => ⟨fun _ hmem => absurd hmem not_mem_nil, (Except.ok.inj h).symm⟩,
      fun h => congrArg Except.ok h.2.symm⟩
  | cons r records ih =>
    intro s s'
    have hcons : s.extended (r :: records) = (s.extended [r]).extended records :=
      extended_append s [r] records
    rw [foldlM_cons, bind_eq_ok, forall_mem_cons, hcons]
    constructor
    · rintro ⟨t, ht, hrest⟩
      obtain ⟨hok, rfl⟩ := collect_eq_ok_iff.1 ht
      obtain ⟨hall, hs⟩ := ih.1 hrest
      exact ⟨⟨hok, hall⟩, hs⟩
    · rintro ⟨⟨hok, hall⟩, hs⟩
      exact ⟨_, collect_eq_ok_iff.2 ⟨hok, rfl⟩, ih.2 ⟨hall, hs⟩⟩

section

variable {contract : Contract α} {assignSessionSplit : String → String → Split}
  {records : List (Record α)} {sessions : Dict SessionKey Session} {dataset : Dataset α}

/-- What `build_dataset` asks of the records, with the coverages it computes. -/
structure Accepted (contract : Contract α) (records : List (Record α))
    (sessions : Dict SessionKey Session) (coverages : List (SessionKey × Coverage)) : Prop where
  valid : ∀ r ∈ records, RecordOk contract r
  nonempty : candidatesOf records ≠ []
  distinct : ((candidatesOf records).map Candidate.identity).Nodup
  known : ∀ c ∈ candidatesOf records, sessions.get? c.sessionKey ≠ none
  telemetry : ∀ t ∈ telemetryOf records, checkTelemetry sessions t = .ok ()
  covered : coverageTable sessions (candidatesOf records) = .ok coverages

structure Returns (assignSessionSplit : String → String → Split) (records : List (Record α))
    (sessions : Dict SessionKey Session) (coverages : List (SessionKey × Coverage))
    (dataset : Dataset α) : Prop where
  labeled : List.Forall₂
    (fun c row => labelCandidate assignSessionSplit (pointsOf records) sessions coverages c = .ok row)
    (sortedCandidates (candidatesOf records)) dataset.labeled
  telemetry : dataset.telemetry = telemetryOf records
  realAccessEvents : dataset.realAccessEvents = (accessesOf records).length
  labelCounts : dataset.labelCounts = labelCounts dataset.labeled

theorem buildDataset_eq_ok_iff :
    buildDataset contract assignSessionSplit records sessions = .ok dataset ↔
      ∃ coverages, Accepted contract records sessions coverages ∧
        Returns assignSessionSplit records sessions coverages dataset := by
  have hextended : Collected.extended {} records =
      { candidates := candidatesOf records, telemetry := telemetryOf records
        accesses := pointsOf records, accessCount := (accessesOf records).length } := by
    simp [Collected.extended]
  unfold buildDataset
  simp only [bind_eq_ok, collected_eq_ok_iff, hextended, guard_eq_ok_iff, mapM_eq_ok_iff]
  constructor
  · rintro ⟨found, ⟨hvalid, rfl⟩, hnonempty, hdistinct, hknown, _, htelemetry, coverages, hcovered,
      labeled, hlabeled, hdataset⟩
    obtain rfl := Except.ok.inj hdataset
    exact ⟨coverages,
      ⟨hvalid, hnonempty, not_not.1 hdistinct, fun c hc hnone => hknown ⟨c, hc, hnone⟩,
        forM_eq_ok_iff.1 htelemetry, hcovered⟩,
      ⟨hlabeled, rfl, rfl, rfl⟩⟩
  · rintro ⟨coverages, haccepted, hreturns⟩
    have hknown : ¬ ∃ c ∈ candidatesOf records, sessions.get? c.sessionKey = none := by
      rintro ⟨c, hc, hnone⟩
      exact haccepted.known c hc hnone
    refine ⟨_, ⟨haccepted.valid, rfl⟩, haccepted.nonempty, not_not.2 haccepted.distinct, hknown, (),
      forM_eq_ok_iff.2 haccepted.telemetry,
      coverages, haccepted.covered, dataset.labeled, hreturns.labeled, ?_⟩
    rw [← hreturns.labelCounts, ← hreturns.realAccessEvents, ← hreturns.telemetry]
    rfl

end

section

variable {points : List AccessPoint} {candidateNs observationEndNs : ℤ}

theorem sortedPoints_times (points : List AccessPoint) :
    ((sortedPoints points).map Prod.fst).Pairwise (· ≤ ·) := by
  rw [pairwise_map]
  exact pairwise_insertionSort _ points

theorem mem_sortedPoints {point : AccessPoint} : point ∈ sortedPoints points ↔ point ∈ points :=
  (perm_insertionSort _ points).mem_iff

theorem nextAccess_some {point : AccessPoint}
    (h : nextAccess (sortedPoints points) candidateNs observationEndNs = some point) :
    point ∈ points ∧ candidateNs < point.1 ∧ point.1 ≤ observationEndNs ∧
      ∀ other ∈ points, candidateNs < other.1 → point.1 ≤ other.1 := by
  have hsorted := sortedPoints_times points
  unfold nextAccess at h
  rw [getElem?_bisectRight Prod.fst hsorted, Option.filter_eq_some_iff] at h
  obtain ⟨hfound, hend⟩ := h
  obtain ⟨hmem, hafter, hleast⟩ := find?_after_least hsorted hfound
  exact ⟨mem_sortedPoints.1 hmem, hafter, of_decide_eq_true hend,
    fun other hother => hleast other (mem_sortedPoints.2 hother)⟩

theorem nextAccess_none
    (h : nextAccess (sortedPoints points) candidateNs observationEndNs = none) :
    ∀ other ∈ points, candidateNs < other.1 → observationEndNs < other.1 := by
  have hsorted := sortedPoints_times points
  unfold nextAccess at h
  rw [getElem?_bisectRight Prod.fst hsorted, Option.filter_eq_none_iff] at h
  intro other hother hafter
  cases hfound : (sortedPoints points).find? fun point => decide (candidateNs < point.1) with
  | none =>
    have hnone := find?_eq_none.1 hfound other (mem_sortedPoints.2 hother)
    exact absurd (decide_eq_true hafter) hnone
  | some point =>
    obtain ⟨-, -, hleast⟩ := find?_after_least hsorted hfound
    have hlate := h point hfound
    simp only [decide_eq_true_eq, not_le] at hlate
    exact lt_of_lt_of_le hlate (hleast other (mem_sortedPoints.2 hother) hafter)

theorem nextAccess_time {points' : List AccessPoint}
    (h : ∀ t, candidateNs < t → ((∃ point ∈ points, point.1 = t) ↔ ∃ point ∈ points', point.1 = t)) :
    (nextAccess (sortedPoints points) candidateNs observationEndNs).map Prod.fst =
      (nextAccess (sortedPoints points') candidateNs observationEndNs).map Prod.fst := by
  cases hnext : nextAccess (sortedPoints points) candidateNs observationEndNs with
  | none =>
    have hnone := nextAccess_none hnext
    cases hnext' : nextAccess (sortedPoints points') candidateNs observationEndNs with
    | none => rfl
    | some point =>
      obtain ⟨hmem, hafter, hend, -⟩ := nextAccess_some hnext'
      obtain ⟨other, hother, htime⟩ := (h point.1 hafter).2 ⟨point, hmem, rfl⟩
      have hlate := hnone other hother (htime.symm ▸ hafter)
      omega
  | some point =>
    obtain ⟨hmem, hafter, hend, hleast⟩ := nextAccess_some hnext
    obtain ⟨twin, htwin, htime⟩ := (h point.1 hafter).1 ⟨point, hmem, rfl⟩
    cases hnext' : nextAccess (sortedPoints points') candidateNs observationEndNs with
    | none =>
      have hlate := nextAccess_none hnext' twin htwin (htime.symm ▸ hafter)
      omega
    | some point' =>
      obtain ⟨hmem', hafter', hend', hleast'⟩ := nextAccess_some hnext'
      obtain ⟨twin', htwin', htime'⟩ := (h point'.1 hafter').2 ⟨point', hmem', rfl⟩
      have hle := hleast twin' htwin' (htime'.symm ▸ hafter')
      have hle' := hleast' twin htwin (htime.symm ▸ hafter)
      rw [Option.map_some, Option.map_some, Option.some_inj]
      omega

end

section

variable {assignSessionSplit : String → String → Split} {records : List (Record α)}
  {sessions : Dict SessionKey Session} {coverages : List (SessionKey × Coverage)}
  {c : Candidate α} {row : Row α}

def accessAfter (records : List (Record α)) (c : Candidate α) (session : Session) :
    Option AccessPoint :=
  nextAccess (sortedPoints (pointsOf records c.folioKey)) c.timestampNs session.observationEndNs

def delayAfter (records : List (Record α)) (c : Candidate α) (session : Session) : Option ℤ :=
  (accessAfter records c session).map fun point => point.1 - c.timestampNs

structure Labelled (records : List (Record α)) (session : Session) (row : Row α) : Prop where
  labels : row.labels = labelWindowsNs.map fun window =>
    (window.1, labelOf row.candidate.timestampNs session.observationEndNs
      (delayAfter records row.candidate session) window.2)
  delay : row.nextRealAccessDelayNs = delayAfter records row.candidate session
  ranking : row.ranking = rankingTarget row.candidate.timestampNs session.observationEndNs
    (accessAfter records row.candidate session)

/-- A candidate gets a row if its session is known and covered and it passes the checks. -/
structure Rowable (sessions : Dict SessionKey Session) (coverages : List (SessionKey × Coverage))
    (c : Candidate α) (session : Session) : Prop where
  known : sessions.get? c.sessionKey = some session
  judged : judge c session = .ok ()
  covered : ∃ coverage, (coverages.find? fun e => e.1 = c.sessionKey).map Prod.snd = some coverage

theorem elim_eq_ok_iff {β : Type} {x : Option β} {e : ContractError} {b : β} :
    x.elim (throw e) pure = (.ok b : Except ContractError β) ↔ x = some b := by
  cases x with
  | none => exact ⟨fun h => (by cases h), fun h => (by cases h)⟩
  | some a => exact ⟨fun h => congrArg some (Except.ok.inj h), fun h => congrArg _ (Option.some.inj h)⟩

theorem futureLabels_accessAfter (records : List (Record α)) (c : Candidate α) (session : Session) :
    futureLabels c.timestampNs session.observationEndNs (accessAfter records c session) =
      .ok (labelWindowsNs.map fun window => (window.1,
          labelOf c.timestampNs session.observationEndNs (delayAfter records c session) window.2),
        delayAfter records c session, (accessAfter records c session).map Prod.snd) := by
  unfold futureLabels
  refine if_neg ?_
  rintro ⟨delay, hdelay, hpast⟩
  obtain ⟨point, hpoint, rfl⟩ := Option.mem_map.1 hdelay
  obtain ⟨-, hafter, -⟩ := nextAccess_some hpoint
  omega

theorem labelCandidate_eq_ok_iff :
    labelCandidate assignSessionSplit (pointsOf records) sessions coverages c = .ok row ↔
      ∃ session coverage, sessions.get? c.sessionKey = some session ∧ judge c session = .ok () ∧
        (coverages.find? fun e => e.1 = c.sessionKey).map Prod.snd = some coverage ∧
          row = {
            candidate := c
            quadrant := quadrant c.nativeProtect c.effectiveProtect c.specialNativeProtect
            split := session.split.getD (assignSessionSplit session.experimentId session.sessionId)
            app := session.app
            workload := session.workload
            mode := session.mode
            pressureLevel := session.pressureLevel
            labels := labelWindowsNs.map fun window => (window.1,
              labelOf c.timestampNs session.observationEndNs (delayAfter records c session) window.2)
            nextRealAccessDelayNs := delayAfter records c session
            nextRealAccessSource := (accessAfter records c session).map Prod.snd
            coverage := coverage
            ranking := rankingTarget c.timestampNs session.observationEndNs
              (accessAfter records c session) } := by
  unfold labelCandidate
  simp only [bind_eq_ok, elim_eq_ok_iff]
  constructor
  · rintro ⟨session, hsession, _, hjudge, future, hfuture, coverage, hcoverage, hrow⟩
    have hlabels := futureLabels_accessAfter records c session
    obtain rfl := Except.ok.inj (hfuture.symm.trans hlabels)
    exact ⟨session, coverage, hsession, hjudge, hcoverage, (Except.ok.inj hrow).symm⟩
  · rintro ⟨session, coverage, hsession, hjudge, hcoverage, rfl⟩
    exact ⟨session, hsession, (), hjudge, _, futureLabels_accessAfter records c session, coverage,
      hcoverage, rfl⟩

theorem labelCandidate_spec
    (h : labelCandidate assignSessionSplit (pointsOf records) sessions coverages c = .ok row) :
    ∃ session, Rowable sessions coverages c session ∧ row.candidate = c ∧
      Labelled records session row := by
  obtain ⟨session, coverage, hsession, hjudge, hcoverage, rfl⟩ := labelCandidate_eq_ok_iff.1 h
  exact ⟨session, ⟨hsession, hjudge, coverage, hcoverage⟩, rfl, ⟨rfl, rfl, rfl⟩⟩

theorem labelCandidate_returns {session : Session} (h : Rowable sessions coverages c session) :
    ∃ row, labelCandidate assignSessionSplit (pointsOf records) sessions coverages c = .ok row := by
  obtain ⟨coverage, hcoverage⟩ := h.covered
  exact ⟨_, labelCandidate_eq_ok_iff.2 ⟨session, coverage, h.known, h.judged, hcoverage, rfl⟩⟩

end

section

variable {records : List (Record α)} {c : Candidate α} {session : Session} {row : Row α}

/-- A real access of the candidate's folio strictly after it, within the window and the
observation. -/
def Reused (records : List (Record α)) (c : Candidate α) (session : Session) (windowNs : ℤ) : Prop :=
  ∃ a ∈ accessesOf records, a.folioKey = c.folioKey ∧ c.timestampNs < a.timestampNs ∧
    a.timestampNs ≤ c.timestampNs + windowNs ∧ a.timestampNs ≤ session.observationEndNs

structure LabelExact (records : List (Record α)) (c : Candidate α) (session : Session) (windowNs : ℤ)
    (label : Option Bool) : Prop where
  positive : label = some true ↔ Reused records c session windowNs
  negative : label = some false ↔ ¬ Reused records c session windowNs ∧
    c.timestampNs + windowNs ≤ session.observationEndNs
  censored : label = none ↔ ¬ Reused records c session windowNs ∧
    session.observationEndNs < c.timestampNs + windowNs

structure RowExact (records : List (Record α)) (session : Session) (row : Row α) : Prop where
  labels : List.Forall₂ (fun window label => label.1 = window.1 ∧
    LabelExact records row.candidate session window.2 label.2) labelWindowsNs row.labels
  censored : row.ranking.censoredBySessionEnd = true ↔
    ¬ Reused records row.candidate session rankingHorizonNs ∧
      session.observationEndNs < row.candidate.timestampNs + rankingHorizonNs

theorem mem_pointsOf {key : FolioKey} {point : AccessPoint} :
    point ∈ pointsOf records key ↔
      ∃ a ∈ accessesOf records, a.folioKey = key ∧ (a.timestampNs, a.accessSource) = point := by
  simp [pointsOf, and_assoc]

theorem delay_le_iff (windowNs : ℤ) :
    (∃ delay ∈ delayAfter records c session, delay ≤ windowNs) ↔ Reused records c session windowNs := by
  unfold delayAfter Reused
  constructor
  · rintro ⟨delay, hdelay, hle⟩
    obtain ⟨point, hpoint, rfl⟩ := Option.mem_map.1 hdelay
    obtain ⟨hmem, hafter, hend, -⟩ := nextAccess_some hpoint
    obtain ⟨a, ha, hkey, rfl⟩ := mem_pointsOf.1 hmem
    exact ⟨a, ha, hkey, hafter, by dsimp only at hle; omega, hend⟩
  · rintro ⟨a, ha, hkey, hafter, hwindow, hend⟩
    have hmem : (a.timestampNs, a.accessSource) ∈ pointsOf records c.folioKey :=
      mem_pointsOf.2 ⟨a, ha, hkey, rfl⟩
    cases hnext : accessAfter records c session with
    | none =>
      have hlate := nextAccess_none hnext _ hmem hafter
      dsimp only at hlate
      omega
    | some point =>
      obtain ⟨-, -, -, hleast⟩ := nextAccess_some hnext
      have hle := hleast _ hmem hafter
      refine ⟨point.1 - c.timestampNs, rfl, ?_⟩
      dsimp only at hle
      omega

theorem labelOf_exact (windowNs : ℤ) :
    LabelExact records c session windowNs (labelOf c.timestampNs session.observationEndNs
      (delayAfter records c session) windowNs) := by
  have hreused := @delay_le_iff _ records c session windowNs
  unfold labelOf
  by_cases h : Reused records c session windowNs
  · rw [if_pos (hreused.2 h)]
    constructor <;> simp [h]
  · rw [if_neg fun hdelay => h (hreused.1 hdelay)]
    by_cases hend : c.timestampNs + windowNs ≤ session.observationEndNs
    · rw [if_pos hend]
      constructor <;> simp [h, hend]
    · rw [if_neg hend]
      constructor <;> simp [h, hend]
      omega

theorem Labelled.exact (h : Labelled records session row) : RowExact records session row where
  labels := by
    rw [h.labels, forall₂_map_right_iff, forall₂_same]
    exact fun window _ => ⟨rfl, labelOf_exact window.2⟩
  censored := by
    have hreused := @delay_le_iff _ records row.candidate session rankingHorizonNs
    rw [h.ranking]
    unfold rankingTarget
    change (!decide (∃ delay ∈ delayAfter records row.candidate session, delay ≤ rankingHorizonNs) &&
      !decide _) = true ↔ _
    rw [Bool.and_eq_true, Bool.not_eq_true', Bool.not_eq_true', decide_eq_false_iff_not,
      decide_eq_false_iff_not, hreused, not_le]

end

section

variable {contract : Contract α} {assignSessionSplit : String → String → Split}
  {records records' : List (Record α)} {sessions : Dict SessionKey Session}
  {coverages : List (SessionKey × Coverage)} {dataset dataset' : Dataset α}

theorem Returns.candidates (h : Returns assignSessionSplit records sessions coverages dataset) :
    (dataset.labeled.map Row.candidate).Perm (candidatesOf records) := by
  have hrows : dataset.labeled.map Row.candidate =
      (sortedCandidates (candidatesOf records)).map id :=
    related_map h.labeled fun c row hlabel => by
      obtain ⟨session, -, hcandidate, -⟩ := labelCandidate_spec hlabel
      exact hcandidate
  rw [hrows, map_id]
  exact perm_insertionSort _ _

theorem Returns.row (h : Returns assignSessionSplit records sessions coverages dataset) {row : Row α}
    (hrow : row ∈ dataset.labeled) :
    ∃ session, Rowable sessions coverages row.candidate session ∧ Labelled records session row := by
  obtain ⟨c, -, hlabel⟩ := related_right h.labeled hrow
  obtain ⟨session, hrowable, hcandidate, hlabelled⟩ := labelCandidate_spec hlabel
  rw [hcandidate]
  exact ⟨session, hrowable, hlabelled⟩

theorem coverageTable_perm {candidates candidates' : List (Candidate α)}
    (h : candidates'.Perm candidates) :
    coverageTable sessions candidates' = coverageTable sessions candidates := by
  have hcount (key : SessionKey) : candidateCount candidates' key = candidateCount candidates key :=
    (h.filter _).length_eq
  have hgap (key : SessionKey) : traceGap candidates' key = traceGap candidates key :=
    h.any_eq
  unfold coverageTable
  simp only [hcount, hgap]

theorem Accepted.reordered (h : Accepted contract records sessions coverages)
    (hvalid : ∀ r ∈ records', RecordOk contract r)
    (hcandidates : (candidatesOf records').Perm (candidatesOf records))
    (htelemetry : (telemetryOf records').Perm (telemetryOf records)) :
    Accepted contract records' sessions coverages where
  valid := hvalid
  nonempty := fun hnil => h.nonempty (hnil ▸ hcandidates).nil_eq.symm
  distinct := (hcandidates.map _).nodup_iff.2 h.distinct
  known := fun c hc => h.known c (hcandidates.mem_iff.1 hc)
  telemetry := fun t ht => h.telemetry t (htelemetry.mem_iff.1 ht)
  covered := (coverageTable_perm hcandidates).trans h.covered

theorem Returns.reordered (h : Returns assignSessionSplit records sessions coverages dataset)
    (hcandidates : (candidatesOf records').Perm (candidatesOf records)) :
    ∃ dataset', Returns assignSessionSplit records' sessions coverages dataset' := by
  have hrow : ∀ c ∈ sortedCandidates (candidatesOf records'), ∃ row,
      labelCandidate assignSessionSplit (pointsOf records') sessions coverages c = .ok row := by
    intro c hc
    have hc' : c ∈ sortedCandidates (candidatesOf records) :=
      (perm_insertionSort _ _).mem_iff.2
        (hcandidates.mem_iff.1 ((perm_insertionSort _ _).mem_iff.1 hc))
    obtain ⟨row, -, hrow⟩ := related_left h.labeled hc'
    obtain ⟨session, hrowable, -⟩ := labelCandidate_spec hrow
    exact labelCandidate_returns hrowable
  obtain ⟨labeled, hlabeled⟩ := mapM_returns hrow
  exact ⟨⟨labeled, telemetryOf records', (accessesOf records').length,
      Parp.DatasetLabels.labelCounts labeled⟩, mapM_eq_ok_iff.1 hlabeled, rfl, rfl, rfl⟩

end

section

variable {records records' : List (Record α)} {extra : List (Access α)} {c : Candidate α}
  {session : Session} {row row' : Row α}

def Outside (extra : List (Access α)) (c : Candidate α) : Prop :=
  ∀ a ∈ extra, a.folioKey = c.folioKey → a.timestampNs ≤ c.timestampNs

structure SameLabels (row row' : Row α) : Prop where
  labels : row.labels = row'.labels
  delay : row.nextRealAccessDelayNs = row'.nextRealAccessDelayNs
  ranking : row.ranking = row'.ranking

theorem candidatesOf_append_access (records : List (Record α)) (extra : List (Access α)) :
    candidatesOf (records ++ extra.map .access) = candidatesOf records := by
  simp [candidatesOf, filterMap_append, filterMap_map]

theorem telemetryOf_append_access (records : List (Record α)) (extra : List (Access α)) :
    telemetryOf (records ++ extra.map .access) = telemetryOf records := by
  simp [telemetryOf, filterMap_append, filterMap_map]

theorem accessesOf_append_access (records : List (Record α)) (extra : List (Access α)) :
    accessesOf (records ++ extra.map .access) = accessesOf records ++ extra := by
  simp [accessesOf, filterMap_append, filterMap_map]

theorem delayAfter_outside (h : records'.Perm (records ++ extra.map .access))
    (houtside : Outside extra c) : delayAfter records' c session = delayAfter records c session := by
  have haccesses : (accessesOf records').Perm (accessesOf records ++ extra) :=
    accessesOf_append_access records extra ▸ h.filterMap _
  have htimes : ∀ t, c.timestampNs < t →
      ((∃ point ∈ pointsOf records' c.folioKey, point.1 = t) ↔
        ∃ point ∈ pointsOf records c.folioKey, point.1 = t) := by
    intro t hafter
    constructor
    · rintro ⟨point, hpoint, rfl⟩
      obtain ⟨a, ha, hkey, rfl⟩ := mem_pointsOf.1 hpoint
      rcases mem_append.1 (haccesses.mem_iff.1 ha) with ha | ha
      · exact ⟨_, mem_pointsOf.2 ⟨a, ha, hkey, rfl⟩, rfl⟩
      · exact absurd hafter (not_lt.2 (houtside a ha hkey))
    · rintro ⟨point, hpoint, rfl⟩
      obtain ⟨a, ha, hkey, rfl⟩ := mem_pointsOf.1 hpoint
      have ha' : a ∈ accessesOf records' := haccesses.mem_iff.2 (mem_append_left _ ha)
      exact ⟨_, mem_pointsOf.2 ⟨a, ha', hkey, rfl⟩, rfl⟩
  have htime : (accessAfter records' c session).map Prod.fst =
      (accessAfter records c session).map Prod.fst := nextAccess_time htimes
  have hdelay (records : List (Record α)) : delayAfter records c session =
      ((accessAfter records c session).map Prod.fst).map (· - c.timestampNs) := by
    rw [Option.map_map]
    rfl
  rw [hdelay, hdelay]
  exact congrArg _ htime

theorem rankingTarget_congr {candidateNs observationEndNs : ℤ} {access access' : Option AccessPoint}
    (h : (access.map fun point => point.1 - candidateNs) =
      access'.map fun point => point.1 - candidateNs) :
    rankingTarget candidateNs observationEndNs access =
      rankingTarget candidateNs observationEndNs access' := by
  unfold rankingTarget
  rw [h]

theorem Labelled.same (h : Labelled records session row) (h' : Labelled records' session row')
    (hcandidate : row'.candidate = row.candidate)
    (hdelay : delayAfter records' row.candidate session = delayAfter records row.candidate session) :
    SameLabels row' row where
  labels := by rw [h'.labels, h.labels, hcandidate, hdelay]
  delay := by rw [h'.delay, h.delay, hcandidate, hdelay]
  ranking := by
    rw [h'.ranking, h.ranking, hcandidate]
    exact rankingTarget_congr hdelay

end

section

variable {contract : Contract α} {assignSessionSplit : String → String → Split}
  {records : List (Record α)} {sessions : Dict SessionKey Session} {dataset : Dataset α}

/-- Every candidate has one row, labelled from the accesses of its folio after it; the labels,
delays and censoring stay under any reordering and under accesses outside the candidate's future. -/
theorem dataset_labels_exact
    (h : buildDataset contract assignSessionSplit records sessions = .ok dataset) :
    ((dataset.labeled.map Row.candidate).Perm (candidatesOf records) ∧
      ∀ row ∈ dataset.labeled, ∃ session,
        sessions.get? row.candidate.sessionKey = some session ∧ RowExact records session row) ∧
    ∀ (extra : List (Access α)) (records' : List (Record α)),
      (∀ a ∈ extra, contract.validateAccess a = .ok ()) →
      records'.Perm (records ++ extra.map .access) →
      ∃ dataset', buildDataset contract assignSessionSplit records' sessions = .ok dataset' ∧
        (dataset'.labeled.map Row.candidate).Perm (dataset.labeled.map Row.candidate) ∧
        ∀ row ∈ dataset.labeled, Outside extra row.candidate →
          ∀ row' ∈ dataset'.labeled, row'.candidate = row.candidate → SameLabels row' row := by
  obtain ⟨coverages, haccepted, hreturns⟩ := buildDataset_eq_ok_iff.1 h
  refine ⟨⟨hreturns.candidates, fun row hrow => ?_⟩, fun extra records' hextra hperm => ?_⟩
  · obtain ⟨session, hrowable, hlabelled⟩ := hreturns.row hrow
    exact ⟨session, hrowable.known, hlabelled.exact⟩
  · have hcandidates : (candidatesOf records').Perm (candidatesOf records) :=
      candidatesOf_append_access records extra ▸ hperm.filterMap _
    have htelemetry : (telemetryOf records').Perm (telemetryOf records) :=
      telemetryOf_append_access records extra ▸ hperm.filterMap _
    have hvalid : ∀ r ∈ records', RecordOk contract r := by
      intro r hr
      rcases mem_append.1 (hperm.mem_iff.1 hr) with hr | hr
      · exact haccepted.valid r hr
      · obtain ⟨a, ha, rfl⟩ := mem_map.1 hr
        exact hextra a ha
    obtain ⟨dataset', hreturns'⟩ := hreturns.reordered hcandidates
    have haccepted' := haccepted.reordered hvalid hcandidates htelemetry
    refine ⟨dataset', buildDataset_eq_ok_iff.2 ⟨coverages, haccepted', hreturns'⟩,
      (hreturns'.candidates.trans hcandidates).trans hreturns.candidates.symm, ?_⟩
    intro row hrow houtside row' hrow' hcandidate
    obtain ⟨session, hrowable, hlabelled⟩ := hreturns.row hrow
    obtain ⟨session', hrowable', hlabelled'⟩ := hreturns'.row hrow'
    -- Both rows are of one candidate, so of one session.
    obtain rfl : session' = session := by
      have hknown := hrowable'.known
      rw [hcandidate, hrowable.known] at hknown
      exact (Option.some.inj hknown).symm
    exact hlabelled.same hlabelled' hcandidate (delayAfter_outside hperm houtside)

def sampleRecords : List (Record Unit) :=
  [.access ⟨"pilot", "s1", "f7", 2, 1200000000, .fdReference, ()⟩,
    .candidate { experimentId := "pilot", sessionId := "s1", folioCookie := "f7"
                 folioLifetimeEpoch := 2, timestampNs := 1000000000, batchId := "b1"
                 sourceSeq := 1, nativeTier := 1, nativeTierIdx := 0, nativeProtect := true
                 effectiveProtect := true, specialNativeProtect := false, action := .keepProtect
                 mode := .shadowEffectiveTier, folioNrPages := 4, rest := () }]

def sampleSession : Session where
  experimentId := "pilot"
  sessionId := "s1"
  app := "gimp"
  workload := "open"
  mode := .shadowEffectiveTier
  pressureLevel := "high"
  startNs := 0
  observationEndNs := 3000000000
  tierGateCounter := ⟨true, some 10, some 11, some 1⟩
  traceLoss := ⟨true, some 0, some 0, some 0⟩

def passingContract : Contract Unit := ⟨fun _ => .ok (), fun _ => .ok (), fun _ => .ok ()⟩

theorem sampleRecords_accepted :
    ∃ dataset, buildDataset passingContract (fun _ _ => .train) sampleRecords
      (Dict.empty.set ("pilot", "s1") sampleSession) = .ok dataset := by
  have hok : (buildDataset passingContract (fun _ _ => .train) sampleRecords
      (Dict.empty.set ("pilot", "s1") sampleSession)).isOk = true := by decide +kernel
  cases hbuild : buildDataset passingContract (fun _ _ => .train) sampleRecords
      (Dict.empty.set ("pilot", "s1") sampleSession) with
  | error e =>
    rw [hbuild] at hok
    cases hok
  | ok dataset => exact ⟨dataset, rfl⟩

theorem dataset_labels_exact_sample :
    ∃ dataset, buildDataset passingContract (fun _ _ => .train) sampleRecords
        (Dict.empty.set ("pilot", "s1") sampleSession) = .ok dataset ∧
      (dataset.labeled.map Row.candidate).Perm (candidatesOf sampleRecords) ∧
        ∀ row ∈ dataset.labeled, ∃ session,
          (Dict.empty.set ("pilot", "s1") sampleSession).get? row.candidate.sessionKey =
            some session ∧ RowExact sampleRecords session row := by
  obtain ⟨dataset, hbuild⟩ := sampleRecords_accepted
  exact ⟨dataset, hbuild, (dataset_labels_exact hbuild).1⟩

end

end Parp.DatasetLabels
