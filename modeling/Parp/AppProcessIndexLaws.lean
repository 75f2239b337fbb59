import Parp.AppProcessIndex

set_option autoImplicit false

namespace Parp.AppProcessIndex

open OrderedDict List

/-- `pid` is indexed as a GUI process of `app`. -/
def HasGui (s : AppProcessIndex) (app : String) (pid : ℤ) : Prop :=
  ∃ entry, s.byPid.get? pid = some entry ∧ entry.app = app ∧ entry.role = .gui

/-- The sets agree with the entries, and only applications without a GUI process are empty. -/
structure Consistent (s : AppProcessIndex) : Prop where
  byApp : ∀ app pid, pid ∈ s.byApp app ↔
    ∃ entry, s.byPid.get? pid = some entry ∧ entry.app = app
  guiByApp : ∀ app pid, pid ∈ s.guiByApp app ↔ s.HasGui app pid
  since : ∀ app leftNs, s.emptySinceNs.get? app = some leftNs → s.guiByApp app = ∅
  reported : ∀ app ∈ s.reportedEmpty, s.guiByApp app = ∅

theorem consistent_init : Consistent {} := by
  refine ⟨fun app pid => ⟨nofun, ?_⟩, fun app pid => ⟨nofun, ?_⟩, nofun, nofun⟩
  · rintro ⟨entry, hget, -⟩
    cases hget
  · rintro ⟨entry, hget, -⟩
    cases hget

section

variable {s s' : AppProcessIndex} {pid : ℤ} {item : IndexedProcess} {clockNs : ℤ} {app : String}

/-- What removals do to an application: its empty period starts when the last GUI process goes. -/
inductive Removal (clockNs : ℤ → ℤ) (app : String) (s s' : AppProcessIndex) : Prop
  | stays (since : s'.emptySinceNs.get? app = s.emptySinceNs.get? app)
      (reported : app ∈ s'.reportedEmpty ↔ app ∈ s.reportedEmpty)
      (gui : s'.guiByApp app ⊆ s.guiByApp app)
  | leaves (pid : ℤ) (last : IsGreatest (s.guiByApp app : Set ℤ) pid)
      (empty : s'.guiByApp app = ∅) (since : s'.emptySinceNs.get? app = some (clockNs pid))
      (reported : app ∉ s'.reportedEmpty)

theorem Removal.refl (clockNs : ℤ → ℤ) (app : String) (s : AppProcessIndex) :
    Removal clockNs app s s := .stays rfl .rfl (Finset.Subset.refl _)

theorem takeOut_guiByApp (s : AppProcessIndex) (pid : ℤ) (item : IndexedProcess) (clockNs : ℤ)
    (app : String) : (s.takeOut pid item clockNs).guiByApp app =
      if app = item.app then (s.guiByApp app).erase pid else s.guiByApp app := by
  change Function.update s.guiByApp item.app ((s.guiByApp item.app).erase pid) app = _
  rw [Function.update_apply]
  split_ifs with happ
  · rw [happ]
  · rfl

theorem takeOut_byApp (s : AppProcessIndex) (pid : ℤ) (item : IndexedProcess) (clockNs : ℤ)
    (app : String) : (s.takeOut pid item clockNs).byApp app =
      if app = item.app then (s.byApp app).erase pid else s.byApp app := by
  change Function.update s.byApp item.app ((s.byApp item.app).erase pid) app = _
  rw [Function.update_apply]
  split_ifs with happ
  · rw [happ]
  · rfl

theorem takeOut_removal (h : Consistent s) (hget : s.byPid.get? pid = some item) :
    Removal (fun _ => clockNs) app s (s.takeOut pid item clockNs) := by
  by_cases hemptied : item.role = .gui ∧ (s.guiByApp item.app).erase pid = ∅
  · have hsince : (s.takeOut pid item clockNs).emptySinceNs = s.emptySinceNs.set item.app clockNs :=
      if_pos hemptied
    have hreported : (s.takeOut pid item clockNs).reportedEmpty = s.reportedEmpty.erase item.app :=
      if_pos hemptied
    by_cases happ : app = item.app
    · subst happ
      have hmem : pid ∈ s.guiByApp item.app :=
        (h.guiByApp item.app pid).2 ⟨item, hget, rfl, hemptied.1⟩
      refine .leaves pid ⟨hmem, fun other hother => ?_⟩ ?_ ?_ ?_
      · by_contra hgreater
        have hleft := Finset.mem_erase.2 ⟨(not_le.1 hgreater).ne', hother⟩
        rw [hemptied.2] at hleft
        cases hleft
      · rw [takeOut_guiByApp, if_pos rfl, hemptied.2]
      · rw [hsince, Dict.get?_set, if_pos rfl]
      · rw [hreported]
        exact Finset.notMem_erase _ _
    · refine .stays ?_ ?_ ?_
      · rw [hsince, Dict.get?_set, if_neg happ]
      · rw [hreported, Finset.mem_erase, and_iff_right happ]
      · rw [takeOut_guiByApp, if_neg happ]
  · have hsince : (s.takeOut pid item clockNs).emptySinceNs = s.emptySinceNs := if_neg hemptied
    have hreported : (s.takeOut pid item clockNs).reportedEmpty = s.reportedEmpty :=
      if_neg hemptied
    refine .stays (by rw [hsince]) (by rw [hreported]) ?_
    rw [takeOut_guiByApp]
    split_ifs
    · exact Finset.erase_subset _ _
    · exact Finset.Subset.refl _

theorem Removal.since_empty {clockNs : ℤ → ℤ} (hremoval : Removal clockNs app s s')
    (h : Consistent s) {leftNs : ℤ} (hleft : s'.emptySinceNs.get? app = some leftNs) :
    s'.guiByApp app = ∅ := by
  cases hremoval with
  | stays hsince _ hgui =>
    rw [hsince] at hleft
    rw [h.since app leftNs hleft] at hgui
    exact Finset.subset_empty.1 hgui
  | leaves _ _ hempty => exact hempty

theorem Removal.reported_empty {clockNs : ℤ → ℤ} (hremoval : Removal clockNs app s s')
    (h : Consistent s) (hreported : app ∈ s'.reportedEmpty) : s'.guiByApp app = ∅ := by
  cases hremoval with
  | stays _ hsame hgui =>
    rw [h.reported app (hsame.1 hreported)] at hgui
    exact Finset.subset_empty.1 hgui
  | leaves _ _ hempty => exact hempty

theorem follows_erase {pids : Finset ℤ} {kind : IndexedProcess → Prop} {goes : Prop}
    [Decidable goes] (hpids : ∀ pid, pid ∈ pids ↔ ∃ entry, s.byPid.get? pid = some entry ∧ kind entry)
    (hget : s.byPid.get? pid = some item) (hgoes : kind item → goes) (other : ℤ) :
    (other ∈ if goes then pids.erase pid else pids) ↔
      ∃ entry, (s.byPid.erase pid).get? other = some entry ∧ kind entry := by
  rw [Dict.get?_erase]
  by_cases hother : other = pid
  · subst hother
    rw [if_pos rfl]
    refine iff_of_false ?_ ?_
    · split_ifs with hleaves
      · exact Finset.notMem_erase _ _
      · intro hmem
        obtain ⟨entry, hentry, hkind⟩ := (hpids other).1 hmem
        cases hget.symm.trans hentry
        exact hleaves (hgoes hkind)
    · rintro ⟨entry, hnone, -⟩
      cases hnone
  · rw [if_neg hother, ← hpids]
    split_ifs
    · exact Finset.mem_erase.trans (and_iff_right hother)
    · rfl

theorem Consistent.takeOut (h : Consistent s) (hget : s.byPid.get? pid = some item)
    (clockNs : ℤ) : Consistent (s.takeOut pid item clockNs) := by
  have hremoval (app : String) := @takeOut_removal s pid item clockNs app h hget
  refine ⟨fun app other => ?_, fun app other => ?_, fun app leftNs hleft => ?_,
    fun app happ => ?_⟩
  · rw [takeOut_byApp]
    exact follows_erase (h.byApp app) hget Eq.symm other
  · rw [takeOut_guiByApp]
    exact follows_erase (h.guiByApp app) hget (fun hkind => hkind.1.symm) other
  · exact (hremoval app).since_empty h hleft
  · exact (hremoval app).reported_empty h happ

theorem removePid_cases (s : AppProcessIndex) (pid : ℤ) (expectedStartTime : String)
    (clockNs : ℤ) : (s.removePid pid expectedStartTime clockNs).2 = s ∨
      ∃ item, s.byPid.get? pid = some item ∧
        (s.removePid pid expectedStartTime clockNs).2 = s.takeOut pid item clockNs := by
  unfold removePid
  cases hget : s.byPid.get? pid with
  | none => exact .inl rfl
  | some item =>
    dsimp only
    split_ifs
    · exact .inl rfl
    · exact .inr ⟨item, rfl, rfl⟩

theorem removePid_match (hget : s.byPid.get? pid = some item) {expectedStartTime : String}
    (hmatch : expectedStartTime = "" ∨ expectedStartTime = item.identity.startTime) :
    s.removePid pid expectedStartTime clockNs = (some item, s.takeOut pid item clockNs) := by
  unfold removePid
  rw [hget]
  refine if_neg fun hmismatch => ?_
  rcases hmatch with hempty | hsame
  · exact hmismatch.1 hempty
  · exact hmismatch.2.2 hsame

def Keeps (clockNs : ℤ → ℤ) (s s' : AppProcessIndex) : Prop :=
  Consistent s' ∧ ∀ app, Removal clockNs app s s'

theorem Consistent.keeps_refl (h : Consistent s) (clockNs : ℤ → ℤ) : Keeps clockNs s s :=
  ⟨h, fun app => .refl clockNs app s⟩

theorem Consistent.keeps_takeOut (h : Consistent s) (hget : s.byPid.get? pid = some item)
    (clockNs : ℤ) : Keeps (fun _ => clockNs) s (s.takeOut pid item clockNs) :=
  ⟨h.takeOut hget clockNs, fun _ => takeOut_removal h hget⟩

theorem Consistent.removePid (h : Consistent s) (pid : ℤ) (expectedStartTime : String)
    (clockNs : ℤ) :
    Keeps (fun _ => clockNs) s (s.removePid pid expectedStartTime clockNs).2 := by
  rcases removePid_cases s pid expectedStartTime clockNs with hsame | ⟨item, hget, htaken⟩
  · rw [hsame]
    exact h.keeps_refl _
  · rw [htaken]
    exact h.keeps_takeOut hget clockNs

theorem removePid_gone {expectedStartTime : String} {other : ℤ} (hmem : other ∈ s.guiByApp app)
    (hgone : other ∉ (s.removePid pid expectedStartTime clockNs).2.guiByApp app) :
    other = pid := by
  rcases removePid_cases s pid expectedStartTime clockNs with hsame | ⟨item, -, htaken⟩
  · rw [hsame] at hgone
    exact absurd hmem hgone
  · rw [htaken, takeOut_guiByApp] at hgone
    split_ifs at hgone
    · by_contra hother
      exact hgone (Finset.mem_erase.2 ⟨hother, hmem⟩)
    · exact absurd hmem hgone

theorem Consistent.prune (h : Consistent s) (clockNs : ℤ → ℤ) {pids : List ℤ}
    (hsorted : pids.Pairwise (· < ·)) :
    Keeps clockNs s (prune clockNs pids s).2 ∧
      ∀ app, ∀ pid ∈ s.guiByApp app, pid ∉ (prune clockNs pids s).2.guiByApp app → pid ∈ pids := by
  induction pids generalizing s with
  | nil => exact ⟨h.keeps_refl clockNs, fun app pid hmem hnot => absurd hmem hnot⟩
  | cons pid pids ih =>
    obtain ⟨hfirst, hrest⟩ := pairwise_cons.1 hsorted
    have hgone {app : String} {other : ℤ} := @removePid_gone s pid (clockNs pid) app "" other
    obtain ⟨hconsistent, hremoval⟩ := h.removePid pid "" (clockNs pid)
    obtain ⟨⟨hconsistent', hremoval'⟩, hgone'⟩ := ih hconsistent hrest
    change Keeps clockNs s (AppProcessIndex.prune clockNs pids _).2 ∧ ∀ app, ∀ other ∈ _,
      other ∉ (AppProcessIndex.prune clockNs pids _).2.guiByApp app → _
    generalize (s.removePid pid "" (clockNs pid)).2 = middle at *
    generalize (AppProcessIndex.prune clockNs pids middle).2 = after at *
    refine ⟨⟨hconsistent', fun app => ?_⟩, fun app other hmem hnot => ?_⟩
    · cases hremoval app with
      | stays hsince hreported hgui =>
        cases hremoval' app with
        | stays hsince' hreported' hgui' =>
          exact .stays (hsince'.trans hsince) (hreported'.trans hreported)
            (hgui'.trans hgui)
        | leaves last hlast hempty hsince' hreported' =>
          refine .leaves last ⟨hgui hlast.1, fun other hother => ?_⟩ hempty hsince' hreported'
          by_cases hstayed : other ∈ middle.guiByApp app
          · exact hlast.2 hstayed
          · have hlater := hgone' app last hlast.1 (by simp [hempty])
            exact (hgone hother hstayed).trans_le (hfirst last hlater).le
      | leaves last hlast hempty hsince hreported =>
        obtain rfl := hgone hlast.1 (by simp [hempty])
        cases hremoval' app with
        | stays hsince' hreported' hgui' =>
          rw [hempty] at hgui'
          exact .leaves last hlast (Finset.subset_empty.1 hgui') (hsince'.trans hsince)
            fun hmem => hreported (hreported'.1 hmem)
        | leaves other hother =>
          rw [hempty] at hother
          cases hother.1
    · by_cases hstayed : other ∈ middle.guiByApp app
      · exact .tail _ (hgone' app other hstayed hnot)
      · rw [hgone hmem hstayed]
        exact .head _

end

section

variable {s : AppProcessIndex} {pid : ℤ} {identity : ProcessIdentity} {target : String × Role}
  {app : String}

/-- The index holds no other class for `pid`. -/
def Joins (s : AppProcessIndex) (pid : ℤ) (target : String × Role) : Prop :=
  ∀ previous, s.byPid.get? pid = some previous → (previous.app, previous.role) = target

structure Inserted (identity : ProcessIdentity) (target : String × Role)
    (s s' : AppProcessIndex) : Prop where
  byPid : ∃ entry, (entry.app, entry.role) = target ∧ s'.byPid = s.byPid.set identity.pid entry
  byApp : ∀ app, s'.byApp app =
    if app = target.1 then Insert.insert identity.pid (s.byApp app) else s.byApp app
  guiByApp : ∀ app, s'.guiByApp app =
    if (app, .gui) = target then Insert.insert identity.pid (s.guiByApp app) else s.guiByApp app
  since : ∀ app, s'.emptySinceNs.get? app =
    if (app, .gui) = target then none else s.emptySinceNs.get? app
  reported : ∀ app, app ∈ s'.reportedEmpty ↔ (app, .gui) ≠ target ∧ app ∈ s.reportedEmpty

theorem insert_inserted (hjoins : Joins s identity.pid target) (sourceSeq : ℤ)
    (lastEvent : String) (clockNs : ℤ) :
    Inserted identity target s (s.insert identity target sourceSeq lastEvent clockNs) := by
  obtain ⟨app, role⟩ := target
  have hdisplace : s.displace identity.pid app clockNs = s := by
    unfold displace
    cases hget : s.byPid.get? identity.pid with
    | none => rfl
    | some previous => exact if_neg (not_not.2 (congrArg Prod.fst (hjoins previous hget)))
  have hupdate {tables : String → Finset ℤ} (other : String) :
      Function.update tables app (Insert.insert identity.pid (tables app)) other =
        if other = app then Insert.insert identity.pid (tables other) else tables other := by
    rw [Function.update_apply]
    split_ifs with hother
    · rw [hother]
    · rfl
  unfold AppProcessIndex.insert
  dsimp only
  rw [hdisplace]
  cases role with
  | gui =>
    have hsame (other : String) : (other, Role.gui) = (app, .gui) ↔ other = app := by simp
    rw [if_pos rfl]
    refine ⟨⟨_, rfl, rfl⟩, hupdate, fun other => ?_, fun other => ?_, fun other => ?_⟩
    · simp only [hsame]
      exact hupdate other
    · simp only [hsame]
      exact Dict.get?_erase _ _ _
    · rw [Ne, hsame]
      exact Finset.mem_erase
  | fixture =>
    have hother (other : String) : ¬ (other, Role.gui) = (app, .fixture) := by simp
    rw [if_neg (by simp)]
    refine ⟨⟨_, rfl, rfl⟩, hupdate, fun other => ?_, fun other => ?_, fun other => ?_⟩
    · rw [if_neg (hother other)]
    · rw [if_neg (hother other)]
    · exact (and_iff_right (hother other)).symm

theorem follows_set {pids : Finset ℤ} {kind : IndexedProcess → Prop} {joins : Prop}
    [Decidable joins] {entry : IndexedProcess}
    (hpids : ∀ pid, pid ∈ pids ↔ ∃ entry, s.byPid.get? pid = some entry ∧ kind entry)
    (hjoins : kind entry ↔ joins)
    (hprevious : ∀ previous, s.byPid.get? pid = some previous → kind previous → kind entry)
    (other : ℤ) : (other ∈ if joins then Insert.insert pid pids else pids) ↔
      ∃ written, (s.byPid.set pid entry).get? other = some written ∧ kind written := by
  rw [Dict.get?_set]
  by_cases hother : other = pid
  · subst hother
    rw [if_pos rfl]
    have hright : (∃ written, some entry = some written ∧ kind written) ↔ kind entry := by simp
    rw [hright]
    split_ifs with hjoin
    · exact iff_of_true (Finset.mem_insert_self _ _) (hjoins.2 hjoin)
    · refine iff_of_false (fun hmem => ?_) (mt hjoins.1 hjoin)
      obtain ⟨previous, hget, hkind⟩ := (hpids other).1 hmem
      exact hjoin (hjoins.1 (hprevious previous hget hkind))
  · rw [if_neg hother, ← hpids]
    split_ifs
    · exact Finset.mem_insert.trans (or_iff_right hother)
    · rfl

theorem Consistent.inserted {s' : AppProcessIndex} (h : Consistent s)
    (hjoins : Joins s identity.pid target) (hinserted : Inserted identity target s s') :
    Consistent s' := by
  obtain ⟨entry, rfl, hbyPid⟩ := hinserted.byPid
  have hkind {kind : IndexedProcess → Prop}
      (hclass : ∀ left right, (left.app, left.role) = (right.app, right.role) →
        kind left → kind right) :
      ∀ previous, s.byPid.get? identity.pid = some previous → kind previous → kind entry :=
    fun previous hget => hclass previous entry (hjoins previous hget)
  refine ⟨fun app other => ?_, fun app other => ?_, fun app leftNs hleft => ?_,
    fun app hreported => ?_⟩
  · rw [hinserted.byApp, hbyPid]
    refine follows_set (h.byApp app) eq_comm (hkind fun left right hsame happ => ?_) other
    exact (congrArg Prod.fst hsame).symm.trans happ
  · unfold HasGui
    rw [hinserted.guiByApp, hbyPid]
    refine follows_set (h.guiByApp app) ?_ (hkind fun left right hsame hgui => ?_) other
    · rw [Prod.mk.injEq]
      exact and_congr eq_comm eq_comm
    · rw [Prod.mk.injEq] at hsame
      exact ⟨hsame.1.symm.trans hgui.1, hsame.2.symm.trans hgui.2⟩
  · rw [hinserted.since] at hleft
    split_ifs at hleft with hjoin
    rw [hinserted.guiByApp, if_neg hjoin]
    exact h.since app leftNs hleft
  · obtain ⟨hother, hreported⟩ := (hinserted.reported app).1 hreported
    rw [hinserted.guiByApp, if_neg hother]
    exact h.reported app hreported

end

section

variable (settings : Settings)

def insertions (s : AppProcessIndex) : Call → List (String × Role)
  | .bootstrap identities _ _ => identities.filterMap fun identity => classify settings identity none
  | .processStart identity _ parentPid clockNs =>
    (startTarget settings (s.vacate identity.pid clockNs) identity parentPid).toList
  | .processExec identity _ _ => (execTarget settings s identity).toList
  | .processExit _ _ | .pruneUnreadable _ _ | .popEmptyApps _ _ => []

def Call.clockNs : Call → ℤ → ℤ
  | .bootstrap _ clockNs _ | .processStart _ _ _ clockNs | .processExec _ _ clockNs
  | .processExit _ clockNs => fun _ => clockNs
  | .pruneUnreadable _ clockNs => clockNs
  | .popEmptyApps _ _ => fun _ => 0

variable {settings} {s middle : AppProcessIndex} {clockNs : ℤ → ℤ} {app : String}

theorem Removal.congr {s' : AppProcessIndex} (h : Removal clockNs app s middle)
    (hsince : s'.emptySinceNs.get? app = middle.emptySinceNs.get? app)
    (hreported : app ∈ s'.reportedEmpty ↔ app ∈ middle.reportedEmpty)
    (hgui : s'.guiByApp app = middle.guiByApp app) : Removal clockNs app s s' := by
  cases h with
  | stays hsince' hreported' hgui' =>
    exact .stays (hsince.trans hsince') (hreported.trans hreported') (hgui ▸ hgui')
  | leaves pid hlast hempty hsince' hreported' =>
    exact .leaves pid hlast (hgui.trans hempty) (hsince.trans hsince')
      fun hmem => hreported' (hreported.1 hmem)

/-- What a call other than `bootstrap` does: GUI insertions end an empty period. -/
structure Effect (clockNs : ℤ → ℤ) (inserted : List (String × Role))
    (s s' : AppProcessIndex) : Prop where
  consistent : Consistent s'
  inserts : ∀ app, (app, .gui) ∈ inserted → s'.emptySinceNs.get? app = none
  quiet : ∀ app, (app, .gui) ∉ inserted → Removal clockNs app s s'

theorem Keeps.effect (h : Keeps clockNs s middle) : Effect clockNs [] s middle :=
  ⟨h.1, nofun, fun app _ => h.2 app⟩

theorem Keeps.insertTarget (h : Keeps clockNs s middle) {identity : ProcessIdentity}
    {target : Option (String × Role)}
    (hjoins : ∀ found, target = some found → Joins middle identity.pid found) (sourceSeq : ℤ)
    (lastEvent : String) (readNs : ℤ) :
    Effect clockNs target.toList s
      (middle.insertTarget identity target sourceSeq lastEvent readNs) := by
  cases target with
  | none => exact h.effect
  | some target =>
    have hinserted := insert_inserted (hjoins target rfl) sourceSeq lastEvent readNs
    refine ⟨h.1.inserted (hjoins target rfl) hinserted, fun app happ => ?_, fun app happ => ?_⟩
    · rw [Option.toList_some, mem_singleton] at happ
      exact (hinserted.since app).trans (if_pos happ)
    · rw [Option.toList_some, mem_singleton] at happ
      refine (h.2 app).congr ((hinserted.since app).trans (if_neg happ)) ?_
        ((hinserted.guiByApp app).trans (if_neg happ))
      exact (hinserted.reported app).trans (and_iff_right happ)

theorem takeOut_get? (s : AppProcessIndex) (pid : ℤ) (item : IndexedProcess) (readNs : ℤ) :
    (s.takeOut pid item readNs).byPid.get? pid = none :=
  (Dict.get?_erase s.byPid pid pid).trans (if_pos rfl)

theorem Consistent.vacate (h : Consistent s) (pid readNs : ℤ) :
    Keeps (fun _ => readNs) s (s.vacate pid readNs) ∧
      (s.vacate pid readNs).byPid.get? pid = none := by
  unfold AppProcessIndex.vacate
  cases hget : s.byPid.get? pid with
  | none => exact ⟨h.keeps_refl _, hget⟩
  | some previous =>
    dsimp only
    rw [removePid_match hget (.inl rfl)]
    exact ⟨h.keeps_takeOut hget readNs, takeOut_get? s pid previous readNs⟩

theorem Consistent.moveOut (h : Consistent s) (pid : ℤ) (target : Option (String × Role))
    (readNs : ℤ) : Keeps (fun _ => readNs) s (s.moveOut pid target readNs) ∧
      ∀ found, target = some found → Joins (s.moveOut pid target readNs) pid found := by
  unfold AppProcessIndex.moveOut
  cases hget : s.byPid.get? pid with
  | none =>
    refine ⟨h.keeps_refl _, fun found _ previous hprevious => ?_⟩
    cases hget.symm.trans hprevious
  | some previous =>
    dsimp only
    split_ifs with hmoved
    · rw [removePid_match hget (.inr rfl)]
      refine ⟨h.keeps_takeOut hget readNs, fun found _ other hother => ?_⟩
      cases (takeOut_get? s pid previous readNs).symm.trans hother
    · refine ⟨h.keeps_refl _, fun found hfound other hother => ?_⟩
      cases hget.symm.trans hother
      exact Option.some.inj ((not_not.1 hmoved).symm.trans hfound)

theorem Consistent.processExit (h : Consistent s) (identity : ProcessIdentity) (readNs : ℤ) :
    Keeps (fun _ => readNs) s (s.processExit identity readNs).2 := by
  unfold AppProcessIndex.processExit
  split
  · exact h.keeps_refl _
  · dsimp only
    split_ifs
    · exact h.keeps_refl _
    · exact h.removePid _ _ _

theorem processExit_stale {identity : ProcessIdentity} {previous : IndexedProcess}
    (hget : s.byPid.get? identity.pid = some previous) (hexpected : identity.startTime ≠ "")
    (hindexed : previous.identity.startTime ≠ "")
    (hother : identity.startTime ≠ previous.identity.startTime) (readNs : ℤ) :
    (s.processExit identity readNs).2 = s := by
  unfold AppProcessIndex.processExit
  rw [hget]
  dsimp only
  rw [if_pos ⟨hexpected, hindexed, hother⟩]

theorem stalePids_sorted (s : AppProcessIndex) (sampledPids : List ℤ) :
    (s.stalePids sampledPids).Pairwise (· < ·) :=
  (Finset.sortedLT_sort _).pairwise

variable {graceNs nowNs : ℤ}

theorem mem_popEmptyApps : app ∈ (s.popEmptyApps graceNs nowNs).1 ↔
    ∃ leftNs, s.emptySinceNs.get? app = some leftNs ∧ s.guiByApp app = ∅ ∧
      app ∉ s.reportedEmpty ∧ max 0 graceNs ≤ nowNs - leftNs := by
  change app ∈ List.map Prod.fst (List.filter _ (List.insertionSort _ _)) ↔ _
  rw [mem_map]
  constructor
  · rintro ⟨⟨name, leftNs⟩, hitem, rfl⟩
    obtain ⟨hmem, hpops⟩ := mem_filter.1 hitem
    exact ⟨leftNs, Dict.get?_of_mem ((mem_insertionSort _).1 hmem), of_decide_eq_true hpops⟩
  · rintro ⟨leftNs, hget, hpops⟩
    refine ⟨(app, leftNs), mem_filter.2 ⟨?_, decide_eq_true hpops⟩, rfl⟩
    exact (mem_insertionSort _).2 (Dict.mem_of_get? hget)

theorem popEmptyApps_nodup (s : AppProcessIndex) (graceNs nowNs : ℤ) :
    (s.popEmptyApps graceNs nowNs).1.Nodup := by
  change (List.map Prod.fst (List.filter _ (List.insertionSort _ _))).Nodup
  refine List.Nodup.sublist (filter_sublist.map Prod.fst) ?_
  exact ((perm_insertionSort _ _).map Prod.fst).nodup_iff.2 s.emptySinceNs.nodup

theorem mem_reported_pop :
    app ∈ (s.popEmptyApps graceNs nowNs).2.reportedEmpty ↔
      app ∈ s.reportedEmpty ∨ app ∈ (s.popEmptyApps graceNs nowNs).1 := by
  refine Finset.mem_union.trans (or_congr_right mem_toFinset)

theorem Consistent.popEmptyApps (h : Consistent s) (graceNs nowNs : ℤ) :
    Consistent (s.popEmptyApps graceNs nowNs).2 := by
  refine ⟨h.byApp, h.guiByApp, h.since, fun app happ => ?_⟩
  rcases mem_reported_pop.1 happ with hreported | hpopped
  · exact h.reported app hreported
  · obtain ⟨-, -, hempty, -⟩ := mem_popEmptyApps.1 hpopped
    exact hempty

theorem bootstrap_fold (h : Consistent s) {identities : List ProcessIdentity}
    (hdistinct : (identities.map ProcessIdentity.pid).Nodup)
    (hfresh : ∀ identity ∈ identities, s.byPid.get? identity.pid = none) (readNs : ℤ) :
    let after := identities.foldl (fun s identity =>
      match classify settings identity none with
      | none => s
      | some target => s.insert identity target 0 "BOOTSTRAP" readNs) s
    Consistent after ∧ ∀ app, (s.emptySinceNs.get? app = none → after.emptySinceNs.get? app = none) ∧
      (app ∈ after.reportedEmpty → app ∈ s.reportedEmpty) ∧
      ((app, .gui) ∉ identities.filterMap (fun identity => classify settings identity none) →
        after.guiByApp app = s.guiByApp app) := by
  induction identities generalizing s with
  | nil => exact ⟨h, fun app => ⟨id, id, fun _ => rfl⟩⟩
  | cons identity identities ih =>
    obtain ⟨hnew, hdistinct'⟩ := nodup_cons.1 hdistinct
    rw [foldl_cons]
    cases htarget : classify settings identity none with
    | none =>
      obtain ⟨hconsistent, happs⟩ :=
        ih h hdistinct' fun other hother => hfresh other (.tail _ hother)
      refine ⟨hconsistent, fun app => (happs app).imp_right fun hkept => hkept.imp_right ?_⟩
      intro hgui hnot
      have hrest : (identity :: identities).filterMap
          (fun identity => classify settings identity none) =
            identities.filterMap fun identity => classify settings identity none :=
        filterMap_cons_none htarget
      rw [hrest] at hnot
      exact hgui hnot
    | some target =>
      have hjoins : Joins s identity.pid target := fun previous hprevious =>
        nomatch (hfresh identity (.head _)).symm.trans hprevious
      have hinserted := insert_inserted hjoins 0 "BOOTSTRAP" readNs
      obtain ⟨entry, -, hbyPid⟩ := hinserted.byPid
      have hfresh' : ∀ other ∈ identities,
          (s.insert identity target 0 "BOOTSTRAP" readNs).byPid.get? other.pid = none := by
        intro other hother
        have hpid : other.pid ≠ identity.pid := by
          intro hsame
          exact hnew (hsame ▸ mem_map_of_mem hother)
        rw [hbyPid, Dict.get?_set, if_neg hpid]
        exact hfresh other (.tail _ hother)
      obtain ⟨hconsistent, happs⟩ := ih (h.inserted hjoins hinserted) hdistinct' hfresh'
      refine ⟨hconsistent, fun app => ?_⟩
      obtain ⟨hsince, hreported, hgui⟩ := happs app
      refine ⟨fun hnone => hsince ?_, fun hmem => ?_, fun hnot => ?_⟩
      · rw [hinserted.since, hnone, ite_self]
      · exact ((hinserted.reported app).1 (hreported hmem)).2
      · have hrest : (identity :: identities).filterMap
            (fun identity => classify settings identity none) =
              target :: identities.filterMap fun identity => classify settings identity none :=
          filterMap_cons_some htarget
        rw [hrest, mem_cons, not_or] at hnot
        rw [hgui hnot.2, hinserted.guiByApp, if_neg hnot.1]

def Call.isBootstrap : Call → Bool
  | .bootstrap _ _ _ => true
  | _ => false

theorem Consistent.bootstrap (identities : List ProcessIdentity) (readNs : ℤ)
    (hdistinct : (identities.map ProcessIdentity.pid).Nodup) :
    let after := AppProcessIndex.bootstrap settings identities readNs
    Consistent after ∧ ∀ app, after.emptySinceNs.get? app = none ∧ app ∉ after.reportedEmpty ∧
      ((app, .gui) ∉ identities.filterMap (fun identity => classify settings identity none) →
        after.guiByApp app = ∅) := by
  obtain ⟨hconsistent, happs⟩ :=
    @bootstrap_fold settings _ consistent_init _ hdistinct (fun _ _ => rfl) readNs
  refine ⟨hconsistent, fun app => ⟨(happs app).1 rfl, fun hmem => ?_, (happs app).2.2⟩⟩
  cases (happs app).2.1 hmem

theorem Consistent.call_effect (h : Consistent s) (call : Call) (hcall : call.isBootstrap = false)
    (hpop : ∀ graceNs nowNs, call ≠ .popEmptyApps graceNs nowNs) :
    Effect call.clockNs (insertions settings s call) s (s.call settings call) := by
  cases call with
  | bootstrap => cases hcall
  | processStart identity sourceSeq parentPid readNs =>
    obtain ⟨hkeeps, hgone⟩ := h.vacate identity.pid readNs
    refine hkeeps.insertTarget (fun found _ previous hprevious => ?_) _ _ _
    cases hgone.symm.trans hprevious
  | processExec identity sourceSeq readNs =>
    obtain ⟨hkeeps, hjoins⟩ := h.moveOut identity.pid (execTarget settings s identity) readNs
    exact hkeeps.insertTarget hjoins _ _ _
  | processExit identity readNs => exact (h.processExit identity readNs).effect
  | pruneUnreadable sampledPids clockNs =>
    exact (h.prune clockNs (stalePids_sorted s sampledPids)).1.effect
  | popEmptyApps graceNs nowNs => exact absurd rfl (hpop graceNs nowNs)

theorem Consistent.call (h : Consistent s) (call : Call) :
    Consistent (s.call settings call) := by
  cases call with
  | bootstrap identities readNs hdistinct =>
    exact (Consistent.bootstrap identities readNs hdistinct).1
  | popEmptyApps graceNs nowNs => exact h.popEmptyApps graceNs nowNs
  | processStart | processExec | processExit | pruneUnreadable =>
    exact (h.call_effect _ rfl (by simp)).consistent

theorem Consistent.call_since (h : Consistent s) (call : Call) {leftNs : ℤ}
    (hsince : (s.call settings call).emptySinceNs.get? app = some leftNs) :
    call.isBootstrap = false ∧ (s.emptySinceNs.get? app = some leftNs ∨
      ∃ pid, IsGreatest (s.guiByApp app : Set ℤ) pid ∧ call.clockNs pid = leftNs) := by
  have heffect (hcall : call.isBootstrap = false)
      (hpop : ∀ graceNs nowNs, call ≠ .popEmptyApps graceNs nowNs) :
      s.emptySinceNs.get? app = some leftNs ∨
        ∃ pid, IsGreatest (s.guiByApp app : Set ℤ) pid ∧ call.clockNs pid = leftNs := by
    have heffect := @Consistent.call_effect settings _ h call hcall hpop
    by_cases hinserted : (app, .gui) ∈ insertions settings s call
    · cases (heffect.inserts app hinserted).symm.trans hsince
    · cases heffect.quiet app hinserted with
      | stays hsame => exact .inl (hsame.symm.trans hsince)
      | leaves pid hlast _ hleft =>
        exact .inr ⟨pid, hlast, Option.some.inj (hleft.symm.trans hsince)⟩
  cases call with
  | bootstrap identities readNs hdistinct =>
    cases (((Consistent.bootstrap identities readNs hdistinct).2 app).1).symm.trans hsince
  | popEmptyApps graceNs nowNs => exact ⟨rfl, .inl hsince⟩
  | processStart | processExec | processExit | pruneUnreadable => exact ⟨rfl, heffect rfl fun _ _ => nofun⟩

def Silent (s : AppProcessIndex) (app : String) : Prop :=
  s.guiByApp app = ∅ ∧ (app ∈ s.reportedEmpty ∨ s.emptySinceNs.get? app = none)

theorem Silent.not_popped (h : Silent s app) (graceNs nowNs : ℤ) :
    app ∉ (s.popEmptyApps graceNs nowNs).1 := by
  intro hpopped
  obtain ⟨leftNs, hsince, -, hnot, -⟩ := mem_popEmptyApps.1 hpopped
  rcases h.2 with hreported | hnone
  · exact hnot hreported
  · cases hnone.symm.trans hsince

theorem silent_of_popped (hpopped : app ∈ (s.popEmptyApps graceNs nowNs).1) :
    Silent (s.popEmptyApps graceNs nowNs).2 app := by
  obtain ⟨-, -, hempty, -⟩ := mem_popEmptyApps.1 hpopped
  exact ⟨hempty, .inl (mem_reported_pop.2 (.inr hpopped))⟩

theorem Silent.call (hsilent : Silent s app) (h : Consistent s) {call : Call}
    (hinserted : (app, .gui) ∉ insertions settings s call) :
    Silent (s.call settings call) app := by
  have heffect (hcall : call.isBootstrap = false)
      (hpop : ∀ graceNs nowNs, call ≠ .popEmptyApps graceNs nowNs) :
      Silent (s.call settings call) app := by
    cases (@Consistent.call_effect settings _ h call hcall hpop).quiet app hinserted with
    | stays hsince hreported hgui =>
      rw [hsilent.1] at hgui
      refine ⟨Finset.subset_empty.1 hgui, ?_⟩
      rw [hsince, hreported]
      exact hsilent.2
    | leaves pid hlast =>
      rw [hsilent.1] at hlast
      cases hlast.1
  cases call with
  | bootstrap identities readNs hdistinct =>
    obtain ⟨hsince, -, hgui⟩ := (Consistent.bootstrap identities readNs hdistinct).2 app
    exact ⟨hgui hinserted, .inr hsince⟩
  | popEmptyApps graceNs nowNs =>
    exact ⟨hsilent.1, hsilent.2.imp_left fun hreported => mem_reported_pop.2 (.inl hreported)⟩
  | processStart | processExec | processExit | pruneUnreadable => exact heffect rfl fun _ _ => nofun

end

section

variable (settings : Settings)

/-- The last GUI process of `app` has left at `leftNs`, and no bootstrap has cleared that since. -/
def LastLeft (calls : List Call) (app : String) (leftNs : ℤ) : Prop :=
  ∃ earlier call later pid, calls = earlier ++ call :: later ∧
    (∀ other ∈ call :: later, other.isBootstrap = false) ∧
    IsGreatest {pid | (run settings earlier).HasGui app pid} pid ∧
    (∀ seen, seen <+: later → ∀ pid, ¬ (run settings (earlier ++ call :: seen)).HasGui app pid) ∧
    call.clockNs pid = leftNs

/-- None of the calls inserts a GUI process of `app`. -/
def InsertsNone (app : String) (calls between : List Call) : Prop :=
  ∀ seen call later, between = seen ++ call :: later →
    (app, .gui) ∉ insertions settings (run settings (calls ++ seen)) call

variable {settings} {calls : List Call} {app : String}

theorem run_concat (calls : List Call) (call : Call) :
    run settings (calls ++ [call]) = (run settings calls).call settings call :=
  foldl_concat _ _ _ _

theorem run_consistent (calls : List Call) : Consistent (run settings calls) := by
  induction calls using List.reverseRecOn with
  | nil => exact consistent_init
  | append_singleton calls call ih =>
    rw [run_concat]
    exact ih.call call

theorem Consistent.no_gui {s : AppProcessIndex} (h : Consistent s) (hempty : s.guiByApp app = ∅)
    (pid : ℤ) : ¬ s.HasGui app pid := by
  intro hgui
  have hmem := (h.guiByApp app pid).2 hgui
  rw [hempty] at hmem
  cases hmem

theorem LastLeft.concat {leftNs : ℤ} (h : LastLeft settings calls app leftNs) {call : Call}
    (hcall : call.isBootstrap = false)
    (hempty : ∀ pid, ¬ (run settings (calls ++ [call])).HasGui app pid) :
    LastLeft settings (calls ++ [call]) app leftNs := by
  obtain ⟨earlier, leaving, later, pid, rfl, hbootstrap, hlast, hgone, hclock⟩ := h
  refine ⟨earlier, leaving, later ++ [call], pid, by simp, fun other hother => ?_, hlast,
    fun seen hseen => ?_, hclock⟩
  · rw [← cons_append, mem_append, mem_singleton] at hother
    rcases hother with hother | rfl
    · exact hbootstrap other hother
    · exact hcall
  · rcases prefix_concat_iff.1 hseen with rfl | hseen
    · rw [append_assoc] at hempty
      exact hempty
    · exact hgone seen hseen

theorem run_since (calls : List Call) {leftNs : ℤ}
    (hsince : (run settings calls).emptySinceNs.get? app = some leftNs) :
    LastLeft settings calls app leftNs := by
  induction calls using List.reverseRecOn with
  | nil => cases hsince
  | append_singleton calls call ih =>
    have hconsistent := @run_consistent settings calls
    have hempty := (run_consistent (calls ++ [call])).no_gui
      ((run_consistent (calls ++ [call])).since app leftNs hsince)
    rw [run_concat] at hsince
    obtain ⟨hcall, hbefore | ⟨pid, hlast, hclock⟩⟩ := hconsistent.call_since call hsince
    · exact (ih hbefore).concat hcall hempty
    · have hset : {pid | (run settings calls).HasGui app pid} =
          ((run settings calls).guiByApp app : Set ℤ) :=
        Set.ext fun pid => (hconsistent.guiByApp app pid).symm
      refine ⟨calls, call, [], pid, rfl, fun other hother => ?_, hset ▸ hlast,
        fun seen hseen => ?_, hclock⟩
      · rw [mem_singleton.1 hother]
        exact hcall
      · rw [prefix_nil.1 hseen]
        exact hempty

theorem Silent.run {between : List Call} (hsilent : Silent (run settings calls) app)
    (hinserted : InsertsNone settings app calls between) :
    Silent (run settings (calls ++ between)) app := by
  induction between using List.reverseRecOn with
  | nil =>
    rw [append_nil]
    exact hsilent
  | append_singleton between call ih =>
    rw [← append_assoc, run_concat]
    refine (ih fun seen other later hsplit => ?_).call (run_consistent _)
      (hinserted between call [] rfl)
    exact hinserted seen other (later ++ [call]) (by simp [hsplit])

/-- In every run the sets of the applications follow the entries, a stale exit changes nothing, and
an application is reported when its last GUI process has been gone for the grace period, and not
again before a GUI process has been inserted for it. -/
theorem index_exact (settings : Settings) (calls : List Call) :
    let s := run settings calls
    (∀ app pid,
      (pid ∈ s.byApp app ↔ ∃ entry, s.byPid.get? pid = some entry ∧ entry.app = app) ∧
        (pid ∈ s.guiByApp app ↔
          ∃ entry, s.byPid.get? pid = some entry ∧ entry.app = app ∧ entry.role = .gui)) ∧
      (∀ identity previous clockNs, s.byPid.get? identity.pid = some previous →
        identity.startTime ≠ "" → previous.identity.startTime ≠ "" →
        identity.startTime ≠ previous.identity.startTime →
        (s.processExit identity clockNs).2 = s) ∧
      ∀ graceNs nowNs, (s.popEmptyApps graceNs nowNs).1.Nodup ∧
        ∀ app ∈ (s.popEmptyApps graceNs nowNs).1,
          (∀ pid, ¬ s.HasGui app pid) ∧
            (∃ leftNs, LastLeft settings calls app leftNs ∧ max 0 graceNs ≤ nowNs - leftNs) ∧
            ∀ between, InsertsNone settings app (calls ++ [.popEmptyApps graceNs nowNs]) between →
              ∀ graceNs' nowNs', app ∉ ((run settings
                (calls ++ [.popEmptyApps graceNs nowNs] ++ between)).popEmptyApps graceNs'
                  nowNs').1 := by
  have hconsistent := @run_consistent settings calls
  refine ⟨fun app pid => ⟨hconsistent.byApp app pid, hconsistent.guiByApp app pid⟩,
    fun identity previous clockNs hget hexpected hindexed hother =>
      processExit_stale hget hexpected hindexed hother clockNs,
    fun graceNs nowNs => ⟨popEmptyApps_nodup _ _ _, fun app hpopped => ?_⟩⟩
  obtain ⟨leftNs, hsince, hempty, -, hgrace⟩ := mem_popEmptyApps.1 hpopped
  refine ⟨hconsistent.no_gui hempty, ⟨leftNs, run_since calls hsince, hgrace⟩,
    fun between hinserted graceNs' nowNs' => ?_⟩
  refine Silent.not_popped (Silent.run ?_ hinserted) graceNs' nowNs'
  rw [run_concat]
  exact silent_of_popped hpopped

end

end Parp.AppProcessIndex
