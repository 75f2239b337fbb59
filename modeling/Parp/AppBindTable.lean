import Mathlib.Algebra.Group.Int.Defs
import Mathlib.Data.Int.Basic
import Mathlib.Data.List.Induction

set_option autoImplicit false

/-!
# App bind table

`AppBindTable` of the runtime monitor: a fixed number of slots that bind a cgroup to an application
for a time. Times are kept modulo 2^32, as the kernel's jiffies are.
-/
namespace Parp.AppBind

open List

def jiffiesHalfRange : ℤ := 2 ^ 31

/-- `x & JIFFIES_MASK` -/
def masked (x : ℤ) : ℤ := x % 2 ^ 32

structure AppBinding where
  appId : ℤ
  cgroupId : ℤ
  ttlMs : ℤ
  updatedAtMs : ℤ
  deriving DecidableEq

structure BindStats where
  writeCalls : ℕ := 0
  insert : ℕ := 0
  refresh : ℕ := 0
  replaceCgroup : ℕ := 0
  replaceApp : ℕ := 0
  expiredReuse : ℕ := 0
  enospc : ℕ := 0
  invalid : ℕ := 0
  highWatermark : ℕ := 0

def jiffiesAfter (nowMs expiresMs : ℤ) : Bool :=
  let delta := masked (nowMs - expiresMs)
  delta ≠ 0 && delta < jiffiesHalfRange

def bindingExpired (binding : AppBinding) (nowMs : ℤ) : Bool :=
  if binding.ttlMs ≤ 0 then true
  else jiffiesAfter (masked nowMs) (masked (binding.updatedAtMs + binding.ttlMs))

structure AppBindTable where
  slots : List (Option AppBinding)
  stats : BindStats := {}

def AppBindTable.empty (capacity : ℕ) : AppBindTable := { slots := List.replicate capacity none }

def AppBindTable.activeEntries (table : AppBindTable) (nowMs : ℤ) : ℕ :=
  table.slots.countP fun slot => slot.any fun binding => !bindingExpired binding nowMs

/-- The arguments of `upsert`. -/
structure Upsert where
  appId : ℤ
  cgroupId : ℤ
  ttlMs : ℤ
  nowMs : ℤ

inductive Action
  | invalid
  | refresh
  | replaceCgroup
  | replaceApp
  | expiredReuse
  | insert
  | enospc
  deriving DecidableEq

structure Candidates where
  freeSlot : Option ℕ := none
  expiredSlot : Option ℕ := none
  sameCgroupSlot : Option ℕ := none
  sameAppSlot : Option ℕ := none

def firstOf (found : Option ℕ) (index : ℕ) (p : Bool) : Option ℕ :=
  if p && found.isNone then some index else found

def scan (u : Upsert) : List (Option AppBinding) → ℕ → Candidates → ℕ ⊕ Candidates
  | [], _, found => .inr found
  | none :: slots, index, found =>
    scan u slots (index + 1) { found with freeSlot := firstOf found.freeSlot index true }
  | some binding :: slots, index, found =>
    if binding.appId = u.appId ∧ binding.cgroupId = u.cgroupId then .inl index
    else
      scan u slots (index + 1)
        { found with
          sameCgroupSlot := firstOf found.sameCgroupSlot index (binding.cgroupId = u.cgroupId)
          sameAppSlot := firstOf found.sameAppSlot index (binding.appId = u.appId)
          expiredSlot :=
            firstOf found.expiredSlot index (bindingExpired binding (masked u.nowMs)) }

def Candidates.choose (found : Candidates) : Option (ℕ × Action) :=
  (found.sameCgroupSlot.map fun slot => (slot, .replaceCgroup)).or <|
    (found.sameAppSlot.map fun slot => (slot, .replaceApp)).or <|
      (found.expiredSlot.map fun slot => (slot, .expiredReuse)).or <|
        found.freeSlot.map fun slot => (slot, .insert)

def BindStats.count (stats : BindStats) : Action → BindStats
  | .invalid => { stats with invalid := stats.invalid + 1 }
  | .refresh => { stats with refresh := stats.refresh + 1 }
  | .replaceCgroup => { stats with replaceCgroup := stats.replaceCgroup + 1 }
  | .replaceApp => { stats with replaceApp := stats.replaceApp + 1 }
  | .expiredReuse => { stats with expiredReuse := stats.expiredReuse + 1 }
  | .insert => { stats with insert := stats.insert + 1 }
  | .enospc => { stats with enospc := stats.enospc + 1 }

def Upsert.isValid (u : Upsert) : Prop := 0 < u.appId ∧ 0 < u.cgroupId ∧ 0 < u.ttlMs

instance (u : Upsert) : Decidable u.isValid :=
  inferInstanceAs (Decidable (0 < u.appId ∧ 0 < u.cgroupId ∧ 0 < u.ttlMs))

def Upsert.binding (u : Upsert) : AppBinding := ⟨u.appId, u.cgroupId, u.ttlMs, masked u.nowMs⟩

def AppBindTable.write (table : AppBindTable) (slot : ℕ) (u : Upsert) : AppBindTable :=
  { table with slots := table.slots.set slot (some u.binding) }

def AppBindTable.upsert (table : AppBindTable) (u : Upsert) : AppBindTable × Action :=
  if ¬ u.isValid then ({ table with stats := table.stats.count .invalid }, .invalid)
  else
    let table :=
      { table with stats := { table.stats with writeCalls := table.stats.writeCalls + 1 } }
    match scan u table.slots 0 {} with
    | .inl index => ({ table.write index u with stats := table.stats.count .refresh }, .refresh)
    | .inr found =>
      match found.choose with
      | none => ({ table with stats := table.stats.count .enospc }, .enospc)
      | some (slot, action) =>
        let written := { table.write slot u with stats := table.stats.count action }
        ({ written with
            stats.highWatermark :=
              max written.stats.highWatermark (written.activeEntries (masked u.nowMs)) },
          action)

def AppBindTable.run (table : AppBindTable) (calls : List Upsert) : AppBindTable :=
  calls.foldl (fun table u => (table.upsert u).1) table

/-!
# Laws of the app bind table
-/

/-- The first slot that passes a test, among slots that are numbered from `index`. -/
def firstSlot (p : Option AppBinding → Bool) (slots : List (Option AppBinding)) (index : ℕ) :
    Option ℕ := (slots.findIdx? p).map (index + ·)

theorem firstSlot_cons (p : Option AppBinding → Bool) (slot : Option AppBinding)
    (slots : List (Option AppBinding)) (index : ℕ) (found : Option ℕ) :
    (firstOf found index (p slot)).or (firstSlot p slots (index + 1)) =
      found.or (firstSlot p (slot :: slots) index) := by
  unfold firstSlot firstOf
  rw [findIdx?_cons]
  cases hp : p slot with
  | true => cases found <;> simp
  | false =>
    have hshift : ((slots.findIdx? p).map (· + 1)).map (index + ·) =
        (slots.findIdx? p).map (index + 1 + ·) := by
      rw [Option.map_map]
      congr 1
      funext i
      change index + (i + 1) = _
      omega
    simp [hshift]

variable {slots : List (Option AppBinding)} {p : Option AppBinding → Bool}

theorem firstSlot_some {k : ℕ} (h : firstSlot p slots 0 = some k) :
    ∃ slot, slots[k]? = some slot ∧ p slot = true := by
  unfold firstSlot at h
  obtain ⟨i, hi, rfl⟩ := Option.map_eq_some_iff.1 h
  obtain ⟨hlt, hp, -⟩ := findIdx?_eq_some_iff_getElem.1 hi
  exact ⟨slots[i], by simp, hp⟩

theorem firstSlot_none (h : firstSlot p slots 0 = none) : ∀ slot ∈ slots, p slot = false := by
  unfold firstSlot at h
  exact findIdx?_eq_none_iff.1 (Option.map_eq_none_iff.1 h)

section

variable (u : Upsert)

def isFree (slot : Option AppBinding) : Bool := slot.isNone
def hasCgroup (slot : Option AppBinding) : Bool := slot.any fun b => b.cgroupId = u.cgroupId
def hasApp (slot : Option AppBinding) : Bool := slot.any fun b => b.appId = u.appId
def isExpired (slot : Option AppBinding) : Bool := slot.any fun b => bindingExpired b (masked u.nowMs)

theorem scan_match {slots : List (Option AppBinding)} {index k : ℕ} {found : Candidates}
    (h : scan u slots index found = .inl k) :
    ∃ i b, k = index + i ∧ slots[i]? = some (some b) ∧ b.appId = u.appId ∧ b.cgroupId = u.cgroupId := by
  induction slots generalizing index found with
  | nil => cases h
  | cons slot slots ih =>
    cases slot with
    | none =>
      obtain ⟨i, b, hk, hslot, hmatch⟩ := ih h
      exact ⟨i + 1, b, by omega, hslot, hmatch⟩
    | some b =>
      unfold scan at h
      split_ifs at h with hmatch
      · cases h
        exact ⟨0, b, rfl, rfl, hmatch⟩
      · obtain ⟨i, b', hk, hslot, hmatch'⟩ := ih h
        exact ⟨i + 1, b', by omega, hslot, hmatch'⟩

theorem scan_candidates {slots : List (Option AppBinding)} {index : ℕ} {found found' : Candidates}
    (h : scan u slots index found = .inr found') :
    found' =
        { freeSlot := found.freeSlot.or (firstSlot isFree slots index)
          expiredSlot := found.expiredSlot.or (firstSlot (isExpired u) slots index)
          sameCgroupSlot := found.sameCgroupSlot.or (firstSlot (hasCgroup u) slots index)
          sameAppSlot := found.sameAppSlot.or (firstSlot (hasApp u) slots index) } := by
  induction slots generalizing index found with
  | nil =>
    cases h
    simp [firstSlot]
  | cons slot slots ih =>
    simp only [← firstSlot_cons]
    cases slot with
    | none => exact ih h
    | some b =>
      unfold scan at h
      split_ifs at h with hmatch
      exact ih h

inductive Written (table : AppBindTable) : AppBindTable × Action → Prop
  | invalid (table' : AppBindTable) (hslots : table'.slots = table.slots) (h : ¬ u.isValid) :
      Written table (table', .invalid)
  | enospc (table' : AppBindTable) (hslots : table'.slots = table.slots)
      (hfull : ∀ slot ∈ table.slots, isFree slot = false)
      (hexpired : ∀ slot ∈ table.slots, isExpired u slot = false)
      (hcgroup : ∀ slot ∈ table.slots, hasCgroup u slot = false)
      (happ : ∀ slot ∈ table.slots, hasApp u slot = false) : Written table (table', .enospc)
  | same (table' : AppBindTable) (action : Action) (k : ℕ) (b : AppBinding)
      (hslots : table'.slots = table.slots.set k (some u.binding))
      (hslot : table.slots[k]? = some (some b)) (hcgroup : b.cgroupId = u.cgroupId)
      (haction : action ≠ .invalid ∧ action ≠ .enospc) : Written table (table', action)
  | new (table' : AppBindTable) (action : Action) (k : ℕ) (slot : Option AppBinding)
      (hslots : table'.slots = table.slots.set k (some u.binding))
      (hslot : table.slots[k]? = some slot)
      (hcgroup : ∀ slot ∈ table.slots, hasCgroup u slot = false)
      (hlost : ∀ b, slot = some b → b.appId = u.appId ∨ bindingExpired b (masked u.nowMs) = true)
      (haction : action ≠ .invalid ∧ action ≠ .enospc) : Written table (table', action)

theorem upsert_written (table : AppBindTable) : Written u table (table.upsert u) := by
  unfold AppBindTable.upsert
  by_cases hvalid : u.isValid
  · rw [if_neg (not_not.2 hvalid)]
    dsimp only
    cases hscan : scan u table.slots 0 {} with
    | inl index =>
      obtain ⟨i, b, rfl, hslot, -, hcgroup⟩ := scan_match u hscan
      rw [Nat.zero_add]
      exact .same _ _ i b rfl hslot hcgroup ⟨nofun, nofun⟩
    | inr found =>
      have hfound := scan_candidates u hscan
      simp only [Option.none_or] at hfound
      subst hfound
      dsimp only
      unfold Candidates.choose
      cases hcgroup : firstSlot (hasCgroup u) table.slots 0 with
      | some k =>
        obtain ⟨slot, hslot, hsame⟩ := firstSlot_some hcgroup
        obtain ⟨b, rfl, hb⟩ := (Option.any_eq_true _ _).1 hsame
        exact .same _ _ k b rfl hslot (of_decide_eq_true hb) ⟨nofun, nofun⟩
      | none =>
        have hother := firstSlot_none hcgroup
        cases happ : firstSlot (hasApp u) table.slots 0 with
        | some k =>
          obtain ⟨slot, hslot, hsame⟩ := firstSlot_some happ
          refine .new _ _ k slot rfl hslot hother ?_ ⟨nofun, nofun⟩
          rintro b rfl
          exact .inl (of_decide_eq_true hsame)
        | none =>
          cases hexpired : firstSlot (isExpired u) table.slots 0 with
          | some k =>
            obtain ⟨slot, hslot, hold⟩ := firstSlot_some hexpired
            refine .new _ _ k slot rfl hslot hother ?_ ⟨nofun, nofun⟩
            rintro b rfl
            exact .inr hold
          | none =>
            cases hfree : firstSlot isFree table.slots 0 with
            | some k =>
              obtain ⟨slot, hslot, hempty⟩ := firstSlot_some hfree
              refine .new _ _ k slot rfl hslot hother ?_ ⟨nofun, nofun⟩
              rintro b rfl
              cases hempty
            | none =>
              exact .enospc _ rfl (firstSlot_none hfree) (firstSlot_none hexpired) hother
                (firstSlot_none happ)
  · rw [if_pos hvalid]
    exact .invalid _ rfl hvalid

end

theorem expired_iff {v : Upsert} (h : v.isValid) (nowMs : ℤ) :
    bindingExpired v.binding (masked nowMs) = true ↔
      0 < (nowMs - (v.nowMs + v.ttlMs)) % 2 ^ 32 ∧
        (nowMs - (v.nowMs + v.ttlMs)) % 2 ^ 32 < 2 ^ 31 := by
  have hdelta : masked (masked (masked nowMs) - masked (masked v.nowMs + v.ttlMs)) =
      (nowMs - (v.nowMs + v.ttlMs)) % 2 ^ 32 := by
    unfold masked
    omega
  change (if v.ttlMs ≤ 0 then true
    else jiffiesAfter (masked (masked nowMs)) (masked (masked v.nowMs + v.ttlMs))) = true ↔ _
  rw [if_neg (show ¬ v.ttlMs ≤ 0 from Int.not_le.2 h.2.2)]
  unfold jiffiesAfter jiffiesHalfRange
  rw [hdelta, Bool.and_eq_true, decide_eq_true_iff, decide_eq_true_iff]
  omega

theorem live_not_expired {v : Upsert} (h : v.isValid) (httl : v.ttlMs < 2 ^ 31) {nowMs : ℤ}
    (hafter : v.nowMs ≤ nowMs) (hlive : nowMs ≤ v.nowMs + v.ttlMs) :
    bindingExpired v.binding (masked nowMs) = false := by
  rw [Bool.eq_false_iff]
  intro hexpired
  have hrange := (expired_iff h nowMs).1 hexpired
  omega

section

variable {u : Upsert} {table : AppBindTable}

def Distinct (slots : List (Option AppBinding)) : Prop :=
  ∀ (i j : ℕ) (b b' : AppBinding), slots[i]? = some (some b) → slots[j]? = some (some b') →
    b.cgroupId = b'.cgroupId → i = j

variable {slots : List (Option AppBinding)}

theorem written_slot {k : ℕ} {b b' : AppBinding} (h : (slots.set k (some b))[k]? = some (some b')) :
    b' = b := by
  rw [getElem?_set_self'] at h
  obtain ⟨_, -, heq⟩ := Option.map_eq_some_iff.1 h
  exact (Option.some.inj heq).symm

theorem Distinct.set (h : Distinct slots) {k : ℕ} {b : AppBinding}
    (hfree : ∀ i b', i ≠ k → slots[i]? = some (some b') → b'.cgroupId ≠ b.cgroupId) :
    Distinct (slots.set k (some b)) := by
  intro i j bi bj hi hj hsame
  by_cases hik : i = k
  · by_cases hjk : j = k
    · rw [hik, hjk]
    · rw [hik] at hi
      rw [getElem?_set_ne fun heq => hjk heq.symm] at hj
      rw [written_slot hi] at hsame
      exact absurd hsame.symm (hfree j bj hjk hj)
  · rw [getElem?_set_ne fun heq => hik heq.symm] at hi
    by_cases hjk : j = k
    · rw [hjk] at hj
      rw [written_slot hj] at hsame
      exact absurd hsame (hfree i bi hik hi)
    · rw [getElem?_set_ne fun heq => hjk heq.symm] at hj
      exact h i j bi bj hi hj hsame

theorem mem_of_slot {i : ℕ} {slot : Option AppBinding} (h : slots[i]? = some slot) :
    slot ∈ slots := mem_of_getElem? h

theorem upsert_distinct (h : Distinct table.slots) : Distinct (table.upsert u).1.slots := by
  have hwritten := upsert_written u table
  generalize table.upsert u = done at *
  cases hwritten with
  | invalid table' hslots _ => rwa [hslots]
  | enospc table' hslots _ _ _ _ => rwa [hslots]
  | same table' action k b hslots hslot hcgroup haction =>
    rw [hslots]
    refine h.set fun i b' hik hi hsame => hik ?_
    exact h i k b' b hi hslot (hsame.trans hcgroup.symm)
  | new table' action k slot hslots hslot hcgroup hlost haction =>
    rw [hslots]
    refine h.set fun i b' hik hi hsame => ?_
    exact of_decide_eq_false (hcgroup _ (mem_of_slot hi)) hsame

theorem upsert_binds (hinvalid : (table.upsert u).2 ≠ .invalid)
    (hspace : (table.upsert u).2 ≠ .enospc) : some u.binding ∈ (table.upsert u).1.slots := by
  have hwritten := upsert_written u table
  generalize table.upsert u = done at *
  cases hwritten with
  | invalid table' hslots _ => exact absurd rfl hinvalid
  | enospc table' hslots _ _ _ _ => exact absurd rfl hspace
  | same table' action k b hslots hslot hcgroup haction =>
    rw [hslots]
    exact mem_set (List.getElem?_eq_some_iff.1 hslot).1 _
  | new table' action k slot hslots hslot hcgroup hlost haction =>
    rw [hslots]
    exact mem_set (List.getElem?_eq_some_iff.1 hslot).1 _

theorem upsert_keeps {k : ℕ} {b : AppBinding} (hslot : table.slots[k]? = some (some b))
    (hcgroup : b.cgroupId ≠ u.cgroupId) (happ : b.appId ≠ u.appId)
    (hlive : bindingExpired b (masked u.nowMs) = false) :
    (table.upsert u).1.slots[k]? = some (some b) := by
  have hwritten := upsert_written u table
  generalize table.upsert u = done at *
  cases hwritten with
  | invalid table' hslots _ => rwa [hslots]
  | enospc table' hslots _ _ _ _ => rwa [hslots]
  | same table' action k' b' hslots hslot' hsame haction =>
    have hne : k' ≠ k := by
      rintro rfl
      rw [hslot] at hslot'
      cases hslot'
      exact hcgroup hsame
    rw [hslots, getElem?_set_ne hne, hslot]
  | new table' action k' slot hslots hslot' hother hlost haction =>
    have hne : k' ≠ k := by
      rintro rfl
      rw [hslot] at hslot'
      cases hslot'
      rcases hlost b rfl with hsame | hexpired
      · exact happ hsame
      · rw [hlive] at hexpired
        cases hexpired
    rw [hslots, getElem?_set_ne hne, hslot]

end

section

variable (capacity : ℕ)

def after (calls : List Upsert) : AppBindTable := (AppBindTable.empty capacity).run calls

theorem after_concat (calls : List Upsert) (u : Upsert) :
    after capacity (calls ++ [u]) = ((after capacity calls).upsert u).1 := by
  unfold after AppBindTable.run
  rw [foldl_append]
  rfl

theorem after_distinct (calls : List Upsert) : Distinct (after capacity calls).slots := by
  induction calls using List.reverseRecOn with
  | nil =>
    intro i j b b' hi hj hsame
    have hfree := eq_of_mem_replicate (mem_of_slot hi)
    cases hfree
  | append_singleton calls u ih =>
    rw [after_concat]
    exact upsert_distinct ih

theorem after_written (calls : List Upsert) {b : AppBinding}
    (h : some b ∈ (after capacity calls).slots) : ∃ v ∈ calls, v.isValid ∧ b = v.binding := by
  induction calls using List.reverseRecOn with
  | nil =>
    have hfree := eq_of_mem_replicate h
    cases hfree
  | append_singleton calls u ih =>
    rw [after_concat] at h
    have hold : some b ∈ (after capacity calls).slots → ∃ v ∈ calls ++ [u], v.isValid ∧ b = v.binding := by
      intro hmem
      obtain ⟨v, hv, hfacts⟩ := ih hmem
      exact ⟨v, mem_append_left _ hv, hfacts⟩
    have hset : u.isValid → ∀ k, some b ∈ (after capacity calls).slots.set k (some u.binding) →
        ∃ v ∈ calls ++ [u], v.isValid ∧ b = v.binding := by
      intro hvalid k hmem
      rcases mem_or_eq_of_mem_set hmem with hmem | hnew
      · exact hold hmem
      · exact ⟨u, by simp, hvalid, Option.some.inj hnew⟩
    by_cases hvalid : u.isValid
    · have hwritten := upsert_written u (after capacity calls)
      generalize (after capacity calls).upsert u = done at *
      cases hwritten with
      | invalid table' hslots _ => exact hold (hslots ▸ h)
      | enospc table' hslots _ _ _ _ => exact hold (hslots ▸ h)
      | same table' action k b' hslots _ _ _ => exact hset hvalid k (hslots ▸ h)
      | new table' action k slot hslots _ _ _ _ => exact hset hvalid k (hslots ▸ h)
    · unfold AppBindTable.upsert at h
      rw [if_pos hvalid] at h
      exact hold h

theorem refused_full (calls : List Upsert) {u : Upsert}
    (h : ((after capacity calls).upsert u).2 = .enospc) :
    ∀ slot ∈ (after capacity calls).slots, ∃ v ∈ calls, v.isValid ∧ slot = some v.binding ∧
      v.appId ≠ u.appId ∧ v.cgroupId ≠ u.cgroupId ∧
      bindingExpired v.binding (masked u.nowMs) = false := by
  intro slot hslot
  have hwritten := upsert_written u (after capacity calls)
  generalize (after capacity calls).upsert u = done at *
  cases hwritten with
  | invalid table' hslots _ => cases h
  | same table' action k b hslots _ _ haction => exact absurd h haction.2
  | new table' action k slot hslots _ _ _ haction => exact absurd h haction.2
  | enospc table' hslots hfull hexpired hcgroup happ =>
    cases slot with
    | none =>
      have hsome := hfull none hslot
      cases hsome
    | some b =>
      obtain ⟨v, hv, hvalid, rfl⟩ := after_written capacity calls hslot
      exact ⟨v, hv, hvalid, rfl, of_decide_eq_false (happ _ hslot),
        of_decide_eq_false (hcgroup _ hslot), hexpired _ hslot⟩

/-- The binding that `v` wrote has not run out, as time goes. -/
def Live (v : Upsert) (nowMs : ℤ) : Prop := nowMs ≤ v.nowMs + v.ttlMs

/-- What `binding_expired` takes for a live one: it has not run out, or so long ago that the
difference is in the upper half of the 32-bit range. -/
def CountsAsLive (v : Upsert) (nowMs : ℤ) : Prop :=
  ¬ (0 < (nowMs - (v.nowMs + v.ttlMs)) % 2 ^ 32 ∧ (nowMs - (v.nowMs + v.ttlMs)) % 2 ^ 32 < 2 ^ 31)

/-- What the table promises of a history, with `live` for the bindings that may refuse a call. -/
structure KeepsLive (live : Upsert → ℤ → Prop) (calls : List Upsert) : Prop where
  distinct : Distinct (after capacity calls).slots
  binds : ∀ before u rest, calls = before ++ u :: rest →
    ((after capacity before).upsert u).2 ≠ .invalid →
    ((after capacity before).upsert u).2 ≠ .enospc →
    some u.binding ∈ (after capacity (before ++ [u])).slots
  keeps : ∀ before v mid u rest (k : ℕ), calls = before ++ v :: (mid ++ u :: rest) →
    (after capacity (before ++ v :: mid)).slots[k]? = some (some v.binding) →
    v.ttlMs < 2 ^ 31 → Live v u.nowMs →
    (after capacity (before ++ v :: (mid ++ [u]))).slots[k]? = some (some v.binding) ∨
      u.cgroupId = v.cgroupId ∨ u.appId = v.appId
  refuses : ∀ before u rest, calls = before ++ u :: rest →
    ((after capacity before).upsert u).2 = .enospc →
    ∀ slot ∈ (after capacity before).slots, ∃ v ∈ before, slot = some v.binding ∧
      v.appId ≠ u.appId ∧ v.cgroupId ≠ u.cgroupId ∧ live v u.nowMs

theorem upserts_keep_live {calls : List Upsert} (htimes : calls.Pairwise fun u v => u.nowMs ≤ v.nowMs) :
    KeepsLive capacity CountsAsLive calls := by
  constructor
  · exact after_distinct capacity calls
  · rintro before u rest rfl hinvalid hspace
    rw [after_concat]
    exact upsert_binds hinvalid hspace
  · rintro before v mid u rest k rfl hslot httl hlive
    by_cases hcgroup : u.cgroupId = v.cgroupId
    · exact .inr (.inl hcgroup)
    by_cases happ : u.appId = v.appId
    · exact .inr (.inr happ)
    refine .inl ?_
    have hvalid : v.isValid := by
      obtain ⟨w, -, hw, heq⟩ := after_written capacity _ (mem_of_slot hslot)
      obtain ⟨happ', hcgroup', httl', -⟩ := AppBinding.mk.inj heq
      unfold Upsert.isValid
      rw [happ', hcgroup', httl']
      exact hw
    have hlater : v.nowMs ≤ u.nowMs :=
      (pairwise_cons.1 (pairwise_append.1 htimes).2.1).1 u (by simp)
    rw [show before ++ v :: (mid ++ [u]) = (before ++ v :: mid) ++ [u] by simp, after_concat]
    exact upsert_keeps hslot (fun h => hcgroup h.symm) (fun h => happ h.symm)
      (live_not_expired hvalid httl hlater hlive)
  · rintro before u rest rfl hrefused slot hslot
    obtain ⟨v, hv, hvalid, hbinding, happ, hcgroup, hlive⟩ :=
      refused_full capacity before hrefused slot hslot
    refine ⟨v, hv, hbinding, happ, hcgroup, ?_⟩
    intro hexpired
    rw [(expired_iff hvalid u.nowMs).2 hexpired] at hlive
    cases hlive

theorem wrapped_keep_live :
    KeepsLive 2 CountsAsLive [⟨1, 10, 100, 2 ^ 32 - 50⟩, ⟨2, 20, 100, 2 ^ 32 + 20⟩, ⟨3, 30, 5, 2 ^ 32 + 40⟩] :=
  upserts_keep_live 2 (by decide)

/-- The first binding ran out 24 days before the second call, which finds it live again. -/
theorem long_expired_refuses : ¬ ∀ (capacity : ℕ) (calls : List Upsert),
    calls.Pairwise (fun u v => u.nowMs ≤ v.nowMs) → KeepsLive capacity Live calls := by
  intro h
  obtain ⟨v, hv, -, -, -, hlive⟩ :=
    (h 1 [⟨1, 10, 5, 0⟩, ⟨2, 20, 5, 2 ^ 31 + 10⟩] (by decide)).refuses [⟨1, 10, 5, 0⟩]
      ⟨2, 20, 5, 2 ^ 31 + 10⟩ [] rfl (by decide) (some ⟨1, 10, 5, 0⟩) (by decide)
  rw [mem_singleton.1 hv] at hlive
  revert hlive
  unfold Live
  decide

end

end Parp.AppBind
