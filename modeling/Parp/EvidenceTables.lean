import Parp.EvidenceOwners

set_option autoImplicit false

namespace Parp.EvidenceTables

open Evidence EvidenceOwners TransitionRuns List

section

variable {α β : Type} {l : List α} {i : ℕ} {a b last : α}

theorem perm_swapRemove (hget : l[i]? = some a) (hlast : l.getLast? = some last) :
    l.Perm (a :: (l.set i last).dropLast) := by
  obtain ⟨front, rfl⟩ := getLast?_eq_some_iff.1 hlast
  rcases Nat.lt_or_ge i front.length with hi | hi
  · rw [getElem?_append_left hi] at hget
    rw [set_append_left _ _ hi, dropLast_concat]
    have hsplit : front = front.take i ++ a :: front.drop (i + 1) := by
      obtain ⟨hlt, rfl⟩ := List.getElem?_eq_some_iff.1 hget
      rw [getElem_cons_drop, take_append_drop]
    have hset : front.set i last = front.take i ++ last :: front.drop (i + 1) :=
      set_eq_take_append_cons_drop.trans (if_pos hi)
    rw [hset]
    calc
      (front ++ [last]).Perm (last :: front) := perm_append_comm
      _ = last :: (front.take i ++ a :: front.drop (i + 1)) := congrArg _ hsplit
      (last :: (front.take i ++ a :: front.drop (i + 1))).Perm
          (last :: a :: (front.take i ++ front.drop (i + 1))) := perm_middle.cons last
      List.Perm _ (a :: last :: (front.take i ++ front.drop (i + 1))) := List.Perm.swap _ _ _
      List.Perm _ (a :: (front.take i ++ last :: front.drop (i + 1))) :=
        perm_middle.symm.cons a
  · rw [getElem?_append_right hi, getElem?_singleton] at hget
    have hzero : i - front.length = 0 := by
      by_contra hne
      simp [hne] at hget
    rw [hzero] at hget
    obtain rfl := Option.some.inj hget
    obtain rfl : i = front.length := by omega
    rw [set_append_right _ _ le_rfl, Nat.sub_self, set_cons_zero, dropLast_concat]
    exact perm_append_comm

theorem take_swapRemove (hi : i < l.length) : ((l.set i last).dropLast).take i = l.take i := by
  rw [dropLast_eq_take, take_take, take_set_of_le (by omega), length_set]
  congr 1
  omega

theorem map_set_same {f : α → β} (hget : l[i]? = some a) (hsame : f b = f a) :
    (l.set i b).map f = l.map f := by
  rw [map_set, hsame]
  apply ext_getElem?
  intro j
  rw [getElem?_set]
  split_ifs with hij hlt
  · subst hij
    rw [getElem?_map, hget, Option.map_some]
  · subst hij
    rw [getElem?_eq_none (by omega)]
  · rfl

end

section

variable {κ : Type} {kind : RegionKind κ} {builders : List (ParpBuilder κ)}
  {observation : ParpObservation κ} {sameDomain : Bool}

def Candidate (kind : RegionKind κ) (observation : ParpObservation κ) (sameDomain : Bool)
    (builder : ParpBuilder κ) : Prop :=
  sameDomain → kind.domain builder.observation = kind.domain observation

def observationScore (observation : ParpObservation κ) : UInt64 :=
  score observation.confidenceQ15 observation.sample.nrAccesses observation.sample.timestampNs

def pickStep (kind : RegionKind κ) (observation : ParpObservation κ) (sameDomain : Bool)
    (best : UInt64 × Option ℕ) (entry : ParpBuilder κ × ℕ) : UInt64 × Option ℕ :=
  if sameDomain ∧ kind.domain entry.1.observation ≠ kind.domain observation then best
  else if builderScore entry.1 < best.1 then (builderScore entry.1, some entry.2)
  else best

def pick (kind : RegionKind κ) (builders : List (ParpBuilder κ)) (observation : ParpObservation κ)
    (sameDomain : Bool) : UInt64 × Option ℕ :=
  builders.zipIdx.foldl (pickStep kind observation sameDomain) (u64Max, none)

theorem pick_concat (builders : List (ParpBuilder κ)) (last : ParpBuilder κ) :
    pick kind (builders ++ [last]) observation sameDomain =
      pickStep kind observation sameDomain (pick kind builders observation sameDomain)
        (last, builders.length) := by
  simp only [pick, zipIdx_append, zipIdx_singleton, foldl_append, foldl_cons,
    foldl_nil, Nat.zero_add]

theorem victim_some {i : ℕ} (h : victim kind builders observation sameDomain = some i) :
    observationScore observation > (pick kind builders observation sameDomain).1 ∧
      (pick kind builders observation sameDomain).2 = some i := by
  change (if observationScore observation > (pick kind builders observation sameDomain).1 then
    (pick kind builders observation sameDomain).2 else none) = some i at h
  split_ifs at h with hstronger
  exact ⟨hstronger, h⟩

theorem pick_least (kind : RegionKind κ) (builders : List (ParpBuilder κ))
    (observation : ParpObservation κ) (sameDomain : Bool) :
    (∀ other ∈ builders, Candidate kind observation sameDomain other →
      (pick kind builders observation sameDomain).1 ≤ builderScore other) ∧
    ∀ i, (pick kind builders observation sameDomain).2 = some i →
      ∃ builder, builders[i]? = some builder ∧ Candidate kind observation sameDomain builder ∧
        builderScore builder = (pick kind builders observation sameDomain).1 := by
  induction builders using List.reverseRecOn with
  | nil => exact ⟨fun _ hmem => (not_mem_nil hmem).elim, fun _ h => by cases h⟩
  | append_singleton builders last ih =>
    obtain ⟨hleast, hfound⟩ := ih
    have hold : ∀ i, (pick kind builders observation sameDomain).2 = some i →
        ∃ builder, (builders ++ [last])[i]? = some builder ∧
          Candidate kind observation sameDomain builder ∧
          builderScore builder = (pick kind builders observation sameDomain).1 := by
      intro i hi
      obtain ⟨builder, hget, hrest⟩ := hfound i hi
      have hlt : i < builders.length := (List.getElem?_eq_some_iff.1 hget).1
      exact ⟨builder, by rw [getElem?_append_left hlt, hget], hrest⟩
    rw [pick_concat]
    unfold pickStep
    by_cases hother : sameDomain ∧ kind.domain last.observation ≠ kind.domain observation
    · rw [if_pos hother]
      refine ⟨fun other hmem hcandidate => ?_, hold⟩
      rcases mem_append.1 hmem with hmem | hmem
      · exact hleast other hmem hcandidate
      · rw [mem_singleton.1 hmem] at hcandidate
        exact (hother.2 (hcandidate hother.1)).elim
    · rw [if_neg hother]
      have hcandidate : Candidate kind observation sameDomain last :=
        fun hsame => by_contra fun hne => hother ⟨hsame, hne⟩
      by_cases hlower : builderScore last < (pick kind builders observation sameDomain).1
      · rw [if_pos hlower]
        refine ⟨fun other hmem hother => ?_, fun i hi => ?_⟩
        · rcases mem_append.1 hmem with hmem | hmem
          · exact UInt64.le_of_lt (UInt64.lt_of_lt_of_le hlower (hleast other hmem hother))
          · obtain rfl := mem_singleton.1 hmem
            exact UInt64.le_refl _
        · obtain rfl := Option.some.inj hi
          exact ⟨last, getElem?_concat_length, hcandidate, rfl⟩
      · rw [if_neg hlower]
        refine ⟨fun other hmem hother => ?_, hold⟩
        rcases mem_append.1 hmem with hmem | hmem
        · exact hleast other hmem hother
        · rw [mem_singleton.1 hmem]
          exact UInt64.not_lt.1 hlower

end

section

variable {κ : Type} {kind : RegionKind κ} {limits : Limits} {others : ℕ}
  {observation : ParpObservation κ} {allocated : Bool}

def DomainFull (kind : RegionKind κ) (limits : Limits) (builders : List (ParpBuilder κ))
    (observation : ParpObservation κ) : Prop :=
  (kind.perDomain limits).toNat ≤ builders.countP fun builder =>
    kind.domain builder.observation = kind.domain observation

def TotalFull (limits : Limits) (builders : List (ParpBuilder κ)) (others : ℕ) : Prop :=
  limits.maxTotalRegions.toNat ≤ builders.length + others

instance (kind : RegionKind κ) (limits : Limits) (builders : List (ParpBuilder κ))
    (observation : ParpObservation κ) : Decidable (DomainFull kind limits builders observation) :=
  inferInstanceAs (Decidable (_ ≤ _))

instance (limits : Limits) (builders : List (ParpBuilder κ)) (others : ℕ) :
    Decidable (TotalFull limits builders others) :=
  inferInstanceAs (Decidable (_ ≤ _))

/-- The builder is the weakest candidate, and weaker than the observation. -/
structure EvictedFor (kind : RegionKind κ) (limits : Limits) (builders : List (ParpBuilder κ))
    (others : ℕ) (observation : ParpObservation κ) (victim : ParpBuilder κ) : Prop where
  full : DomainFull kind limits builders observation ∨ TotalFull limits builders others
  stronger : builderScore victim < observationScore observation
  candidate : DomainFull kind limits builders observation →
    kind.domain victim.observation = kind.domain observation
  weakest : ∀ other ∈ builders,
    (DomainFull kind limits builders observation →
      kind.domain other.observation = kind.domain observation) →
    builderScore victim ≤ builderScore other

inductive TableEvent (κ : Type)
  | observed (observation : ParpObservation κ)
  | offline (domainId : UInt64)
  | other

/-- What becomes of the builders of a table with `others` builders of the other kind beside it. -/
inductive TableMove (kind : RegionKind κ) (limits : Limits) (builders : List (ParpBuilder κ))
    (others : ℕ) : TableEvent κ → List (ParpBuilder κ) → Prop
  | unchanged (event : TableEvent κ) (hstays : ∀ domainId, event ≠ .offline domainId) :
      TableMove kind limits builders others event builders
  | updated (observation : ParpObservation κ) (i : ℕ) (builder : ParpBuilder κ)
      (hget : builders[i]? = some builder)
      (hregion : kind.sameRegion builder.observation observation = true) :
      TableMove kind limits builders others (.observed observation)
        (builders.set i (takeSample builder observation))
  | added (observation : ParpObservation κ)
      (hnew : ∀ builder ∈ builders, kind.sameRegion builder.observation observation = false)
      (hdomain : ¬ DomainFull kind limits builders observation)
      (htotal : ¬ TotalFull limits builders others) :
      TableMove kind limits builders others (.observed observation)
        (builders ++ [takeSample (freshBuilder observation) observation])
  | evicted (observation : ParpObservation κ) (i : ℕ) (victim : ParpBuilder κ)
      (hget : builders[i]? = some victim)
      (hnew : ∀ builder ∈ builders, kind.sameRegion builder.observation observation = false)
      (hweakest : EvictedFor kind limits builders others observation victim) :
      TableMove kind limits builders others (.observed observation)
        (builders.set i (takeSample (freshBuilder observation) observation))
  | dropped (domainId : UInt64) {remaining : List (ParpBuilder κ)}
      (hrest : remaining.Perm (builders.filter fun builder =>
        kind.domain builder.observation ≠ domainId)) :
      TableMove kind limits builders others (.offline domainId) remaining

theorem findBuilder_some {builders : List (ParpBuilder κ)} {builder : ParpBuilder κ} {i : ℕ}
    (h : findBuilder kind builders observation = some (builder, i)) :
    builders[i]? = some builder ∧ kind.sameRegion builder.observation observation = true := by
  refine ⟨mem_zipIdx_iff_getElem?.1 (mem_of_find?_eq_some h), ?_⟩
  exact find?_some (p := fun entry : ParpBuilder κ × ℕ =>
    kind.sameRegion entry.1.observation observation) h

theorem findBuilder_none {builders : List (ParpBuilder κ)} :
    findBuilder kind builders observation = none ↔
      ∀ builder ∈ builders, kind.sameRegion builder.observation observation = false := by
  unfold findBuilder
  rw [find?_eq_none]
  constructor
  · intro h builder hmem
    obtain ⟨i, hlt, rfl⟩ := getElem_of_mem hmem
    have hentry : (builders[i], i) ∈ builders.zipIdx :=
      mem_zipIdx_iff_getElem?.2 (getElem?_eq_getElem hlt)
    exact eq_false_of_ne_true (h _ hentry)
  · intro h entry hentry
    have hmem := mem_of_getElem? (mem_zipIdx_iff_getElem?.1 hentry)
    simp [h _ hmem]

theorem slotFor_new {table slot : Table κ} {builder : ParpBuilder κ} {i : ℕ}
    (hnew : findBuilder kind table.builders observation = none)
    (h : slotFor kind limits table others observation allocated = (slot, .ok (builder, i))) :
    builder = freshBuilder observation ∧
      ((∃ victim, table.builders[i]? = some victim ∧
          EvictedFor kind limits table.builders others observation victim ∧
          slot.builders = table.builders.set i builder) ∨
        ¬ DomainFull kind limits table.builders observation ∧
          ¬ TotalFull limits table.builders others ∧
          i = table.builders.length ∧ slot.builders = table.builders ++ [builder]) := by
  unfold slotFor at h
  rw [hnew] at h
  dsimp only at h
  split at h
  · rename_i hcond
    have hfull : DomainFull kind limits table.builders observation ∨
        TotalFull limits table.builders others :=
      hcond.imp of_decide_eq_true of_decide_eq_true
    split at h
    · cases congrArg Prod.snd h
    · rename_i j hvictim
      obtain ⟨rfl, hslot⟩ := Prod.mk.inj h
      obtain ⟨rfl, rfl⟩ := Prod.mk.inj (Except.ok.inj hslot)
      obtain ⟨hstronger, hfound⟩ := victim_some hvictim
      obtain ⟨hleast, hpicked⟩ := pick_least kind table.builders observation
        (decide (table.builders.countP (fun builder =>
          kind.domain builder.observation = kind.domain observation) ≥
            (kind.perDomain limits).toNat))
      obtain ⟨victim, hget, hcandidate, hscore⟩ := hpicked j hfound
      refine ⟨rfl, .inl ⟨victim, hget, ⟨hfull, ?_, ?_, ?_⟩, rfl⟩⟩
      · rw [hscore]
        exact hstronger
      · exact fun hdomain => hcandidate (decide_eq_true hdomain)
      · intro other hmem hother
        rw [hscore]
        exact hleast other hmem fun hdomain => hother (of_decide_eq_true hdomain)
  · rename_i hcond
    rw [not_or] at hcond
    have hdomain : ¬ DomainFull kind limits table.builders observation :=
      fun hfull => hcond.1 (decide_eq_true hfull)
    have htotal : ¬ TotalFull limits table.builders others :=
      fun hfull => hcond.2 (decide_eq_true hfull)
    split at h
    · cases congrArg Prod.snd h
    · rename_i grown hgrown
      obtain ⟨rfl, hslot⟩ := Prod.mk.inj h
      obtain ⟨rfl, rfl⟩ := Prod.mk.inj (Except.ok.inj hslot)
      have hbuilders : grown.builders = table.builders := by
        split_ifs at hgrown
        · exact grow_builders hgrown
        · rw [← Except.ok.inj hgrown]
      refine ⟨rfl, .inr ⟨hdomain, htotal, ?_, ?_⟩⟩
      · rw [hbuilders]
      · rw [hbuilders]

theorem tableUpdate_ok {table table' : Table κ}
    (h : tableUpdate kind limits table others observation allocated = (table', .ok ())) :
    parpSampleValid observation.sample = true ∧ ∃ grown slot builder i,
      grown.builders = table.builders ∧
      slotFor kind limits grown others observation allocated = (slot, .ok (builder, i)) ∧
      rejects builder observation.sample = none ∧
      table'.builders = slot.builders.set i (takeSample builder observation) := by
  unfold tableUpdate at h
  by_cases hinvalid : parpSampleValid observation.sample = false ∨
      kind.nrPages observation.key = 0
  · rw [if_pos hinvalid] at h
    cases congrArg Prod.snd h
  rw [if_neg hinvalid] at h
  refine ⟨eq_true_of_ne_false fun hfalse => hinvalid (.inl hfalse), ?_⟩
  split at h
  · cases congrArg Prod.snd h
  rename_i grown hgrown
  have hsame : grown.builders = table.builders := by
    split_ifs at hgrown
    · exact grow_builders hgrown
    · rw [← Except.ok.inj hgrown]
  split at h
  · cases congrArg Prod.snd h
  rename_i slot builder i hslot
  split at h
  · cases congrArg Prod.snd h
  rename_i htaken
  obtain ⟨rfl, -⟩ := Prod.mk.inj h
  exact ⟨grown, slot, builder, i, hsame, hslot, htaken, rfl⟩

theorem tableUpdate_move (kind : RegionKind κ) (limits : Limits) (table : Table κ) (others : ℕ)
    (observation : ParpObservation κ) (allocated : Bool) :
    TableMove kind limits table.builders others (.observed observation)
      (tableUpdate kind limits table others observation allocated).1.builders := by
  cases hresult : tableUpdate kind limits table others observation allocated with
  | mk table' result =>
    cases result with
    | error errno =>
      have hcase := tableUpdate_cases kind limits table others observation allocated
      rw [hresult] at hcase
      cases hcase with
      | rejected errno hsame =>
        change TableMove kind limits table.builders others _ table'.builders
        rw [hsame]
        exact .unchanged _ fun _ h => by cases h
    | ok _ =>
      obtain ⟨-, grown, slot, builder, i, hgrown, hslot, -, hbuilders⟩ := tableUpdate_ok hresult
      change TableMove kind limits table.builders others _ table'.builders
      rw [hbuilders]
      cases hfound : findBuilder kind grown.builders observation with
      | some found =>
        have hkept : slotFor kind limits grown others observation allocated =
            (grown, .ok found) := by
          unfold slotFor
          rw [hfound]
        obtain ⟨rfl, hentry⟩ := Prod.mk.inj (hkept.symm.trans hslot)
        obtain rfl := Except.ok.inj hentry
        rw [hgrown] at hfound ⊢
        obtain ⟨hget, hregion⟩ := findBuilder_some hfound
        exact .updated observation i builder hget hregion
      | none =>
        obtain ⟨rfl, hplace⟩ := slotFor_new hfound hslot
        rw [hgrown] at hplace hfound
        have hnew := findBuilder_none.1 hfound
        rcases hplace with ⟨victim, hget, hweakest, hset⟩ | ⟨hdomain, htotal, rfl, hset⟩
        · rw [hset, set_set]
          exact .evicted observation i victim hget hnew hweakest
        · rw [hset, set_append_right _ _ le_rfl, Nat.sub_self]
          exact .added observation hnew hdomain htotal

theorem filter_scanned {gone : ParpBuilder κ → Bool} {i : ℕ} {builders : List (ParpBuilder κ)}
    (hkept : ∀ builder ∈ builders.take i, gone builder = false) (hend : builders.length ≤ i) :
    (builders.filter fun builder => !gone builder) = builders := by
  rw [take_of_length_le hend] at hkept
  exact filter_eq_self.2 fun builder hmem => by simp [hkept builder hmem]

theorem dropDomain_perm {gone : ParpBuilder κ → Bool} (fuel i : ℕ)
    {builders : List (ParpBuilder κ)} (hfuel : builders.length < fuel + i)
    (hkept : ∀ builder ∈ builders.take i, gone builder = false) :
    (dropDomain gone fuel i builders).Perm (builders.filter fun builder => !gone builder) := by
  induction fuel generalizing i builders with
  | zero => exact .of_eq (filter_scanned hkept (by omega)).symm
  | succ fuel ih =>
    unfold dropDomain
    split
    · rename_i builder last hget hlast
      have hlt : i < builders.length := (List.getElem?_eq_some_iff.1 hget).1
      cases hgone : gone builder with
      | true =>
        rw [if_pos rfl]
        have hlength : ((builders.set i last).dropLast).length = builders.length - 1 := by
          rw [length_dropLast, length_set]
        have hperm := (perm_swapRemove hget hlast).filter fun other => !gone other
        rw [filter_cons_of_neg (by simp [hgone])] at hperm
        refine (ih i (by omega) ?_).trans hperm.symm
        rw [take_swapRemove hlt]
        exact hkept
      | false =>
        rw [if_neg Bool.false_ne_true]
        refine ih (i + 1) (by omega) fun other hmem => ?_
        rw [take_add_one, hget] at hmem
        rcases mem_append.1 hmem with hold | hnew
        · exact hkept other hold
        · rw [mem_singleton.1 hnew, hgone]
    · rename_i hnone
      refine .of_eq (filter_scanned hkept (Nat.le_of_not_lt fun hlt => ?_)).symm
      exact hnone _ _ (getElem?_eq_getElem hlt)
        (getLast?_eq_some_getLast (ne_nil_of_length_pos (by omega)))

theorem dropDomain_move (kind : RegionKind κ) (limits : Limits) (table : Table κ) (others : ℕ)
    (domainId : UInt64) :
    TableMove kind limits table.builders others (.offline domainId)
      (table.dropDomain kind domainId).builders := by
  have hperm : (table.dropDomain kind domainId).builders.Perm (table.builders.filter _) :=
    dropDomain_perm (table.builders.length + 1) 0 (by omega) fun _ hmem => by simp at hmem
  refine .dropped domainId (hperm.trans (.of_eq ?_))
  exact filter_congr fun builder _ => by simp

end

section

variable {κ ρ : Type} {kind : RegionKind κ} {region : ParpObservation κ → ρ} {limits : Limits}
  {builders remaining : List (ParpBuilder κ)} {others : ℕ} {event : TableEvent κ}

/-- What `sameRegion` compares, and it tells the domain. -/
structure Names (kind : RegionKind κ) (region : ParpObservation κ → ρ) : Prop where
  same : ∀ left right, kind.sameRegion left right = true ↔ region left = region right
  domain : ∀ left right, region left = region right → kind.domain left = kind.domain right

def DomainsWithin (kind : RegionKind κ) (limits : Limits) (builders : List (ParpBuilder κ)) :
    Prop :=
  ∀ domainId, (builders.countP fun builder => kind.domain builder.observation = domainId) ≤
    (kind.perDomain limits).toNat

theorem DomainsWithin.of_map_eq (h : DomainsWithin kind limits builders)
    (hsame : (remaining.map fun builder => kind.domain builder.observation) =
      builders.map fun builder => kind.domain builder.observation) :
    DomainsWithin kind limits remaining := by
  intro domainId
  have hcount : ∀ list : List (ParpBuilder κ),
      (list.countP fun builder => kind.domain builder.observation = domainId) =
        (list.map fun builder => kind.domain builder.observation).countP (· = domainId) := by
    intro list
    rw [countP_map]
    rfl
  rw [hcount, hsame, ← hcount]
  exact h domainId

theorem DomainsWithin.of_room (h : DomainsWithin kind limits builders)
    {observation : ParpObservation κ} (hroom : ¬ DomainFull kind limits builders observation)
    (hmore : ∀ domainId,
      (remaining.countP fun builder => kind.domain builder.observation = domainId) ≤
        (builders.countP fun builder => kind.domain builder.observation = domainId) +
          if kind.domain observation = domainId then 1 else 0) :
    DomainsWithin kind limits remaining := by
  intro domainId
  have hold := h domainId
  have hnew := hmore domainId
  unfold DomainFull at hroom
  split_ifs at hnew with hsame
  · subst hsame
    omega
  · omega

structure WithinLimits (kind : RegionKind κ) (region : ParpObservation κ → ρ) (limits : Limits)
    (builders : List (ParpBuilder κ)) : Prop where
  distinct : (builders.map fun builder => region builder.observation).Nodup
  domains : DomainsWithin kind limits builders

theorem region_notMem (hnames : Names kind region) {observation : ParpObservation κ}
    (hnew : ∀ builder ∈ builders, kind.sameRegion builder.observation observation = false) :
    region observation ∉ builders.map fun builder => region builder.observation := by
  intro hmem
  obtain ⟨builder, hbuilder, hsame⟩ := mem_map.1 hmem
  have hfalse := hnew builder hbuilder
  rw [(hnames.same _ _).2 hsame] at hfalse
  cases hfalse

theorem TableMove.distinct (hnames : Names kind region)
    (h : (builders.map fun builder => region builder.observation).Nodup)
    (hmove : TableMove kind limits builders others event remaining) :
    (remaining.map fun builder => region builder.observation).Nodup := by
  cases hmove with
  | unchanged event hstays => exact h
  | updated observation i builder hget hregion =>
    rw [map_set_same hget ((hnames.same _ _).1 hregion).symm]
    exact h
  | added observation hnew hdomain htotal =>
    rw [map_append, map_singleton]
    exact perm_append_comm.nodup_iff.1
      (nodup_cons.2 ⟨region_notMem hnames hnew, h⟩)
  | evicted observation i victim hget hnew hweakest =>
    rw [map_set]
    exact h.set (region_notMem hnames hnew)
  | dropped domainId hrest =>
    exact (hrest.map _).nodup_iff.2 (h.sublist (filter_sublist.map _))

theorem TableMove.domains (hnames : Names kind region) (h : DomainsWithin kind limits builders)
    (hmove : TableMove kind limits builders others event remaining) :
    DomainsWithin kind limits remaining := by
  cases hmove with
  | unchanged event hstays => exact h
  | updated observation i builder hget hregion =>
    have hsame := (hnames.same _ _).1 hregion
    exact h.of_map_eq (map_set_same hget (hnames.domain _ _ hsame.symm))
  | added observation hnew hdomain htotal =>
    refine h.of_room hdomain fun domainId => ?_
    simp [countP_append, countP_singleton, takeSample]
  | evicted observation i victim hget hnew hweakest =>
    by_cases hfull : DomainFull kind limits builders observation
    · exact h.of_map_eq (map_set_same hget (hweakest.candidate hfull).symm)
    · refine h.of_room hfull fun domainId => ?_
      rw [countP_set (List.getElem?_eq_some_iff.1 hget).1]
      simp [takeSample]
  | dropped domainId hrest =>
    intro other
    rw [hrest.countP_eq]
    exact filter_sublist.countP_le.trans (h other)

theorem TableMove.length (hmove : TableMove kind limits builders others event remaining)
    (htotal : builders.length + others ≤ limits.maxTotalRegions.toNat) :
    remaining.length + others ≤ limits.maxTotalRegions.toNat ∧
      ((∀ observation, event ≠ .observed observation) → remaining.length ≤ builders.length) := by
  cases hmove with
  | unchanged event hstays => exact ⟨htotal, fun _ => le_rfl⟩
  | updated observation i builder hget hregion =>
    rw [length_set]
    exact ⟨htotal, fun _ => le_rfl⟩
  | added observation hnew hdomain hroom =>
    unfold TotalFull at hroom
    rw [length_append, length_singleton]
    exact ⟨by omega, fun hother => (hother observation rfl).elim⟩
  | evicted observation i victim hget hnew hweakest =>
    rw [length_set]
    exact ⟨htotal, fun _ => le_rfl⟩
  | dropped domainId hrest =>
    have hle : remaining.length ≤ builders.length :=
      hrest.length_eq.trans_le (length_filter_le _ _)
    exact ⟨by omega, fun _ => hle⟩

end

section

variable {limits : Limits} {state : EvidenceState}

def fileRegion (observation : ParpObservation ParpFileRegionKey) : UInt64 × ParpFileRegionKey :=
  (observation.owner.domainId, observation.key)

def anonRegion (observation : ParpObservation ParpAnonRegionKey) : ParpAnonRegionKey :=
  observation.key

theorem fileNames : Names fileKind fileRegion where
  same left right := by simp [fileKind, fileRegion]
  domain left right h := congrArg Prod.fst h

theorem anonNames : Names anonKind anonRegion where
  same left right := by simp [anonKind, anonRegion]
  domain left right h := congrArg ParpAnonRegionKey.domainId h

def fileEvent : EvidenceEvent → TableEvent ParpFileRegionKey
  | .updateFile observation _ => .observed observation
  | .domainOffline domainId _ _ => .offline domainId
  | _ => .other

def anonEvent : EvidenceEvent → TableEvent ParpAnonRegionKey
  | .updateAnon observation _ => .observed observation
  | .domainOffline domainId _ _ => .offline domainId
  | _ => .other

@[simp] theorem publish_files (state : EvidenceState) (env : Surroundings) (nowNs : UInt64) :
    (parpPublishEvidenceLocked state env nowNs).1.files = state.files := by
  unfold parpPublishEvidenceLocked
  split_ifs
  all_goals rfl

@[simp] theorem publish_anons (state : EvidenceState) (env : Surroundings) (nowNs : UInt64) :
    (parpPublishEvidenceLocked state env nowNs).1.anons = state.anons := by
  unfold parpPublishEvidenceLocked
  split_ifs
  all_goals rfl

@[simp] theorem publish_limits (state : EvidenceState) (env : Surroundings) (nowNs : UInt64) :
    (parpPublishEvidenceLocked state env nowNs).1.limits = state.limits := by
  unfold parpPublishEvidenceLocked
  split_ifs
  all_goals rfl

theorem publishWhenDue_frame (state : EvidenceState) (env : Surroundings) (timestampNs : UInt64) :
    (publishWhenDue state env timestampNs).1.files = state.files ∧
      (publishWhenDue state env timestampNs).1.anons = state.anons ∧
      (publishWhenDue state env timestampNs).1.limits = state.limits := by
  unfold publishWhenDue
  split_ifs
  · simp
  · exact ⟨rfl, rfl, rfl⟩

theorem updateFile_tables (state : EvidenceState) (env : Surroundings)
    (observation : ParpObservation ParpFileRegionKey) :
    (parpEvidenceUpdateFile state env observation).1.files =
        (tableUpdate fileKind state.limits state.files state.anons.builders.length observation
          env.tableAllocated).1 ∧
      (parpEvidenceUpdateFile state env observation).1.anons = state.anons ∧
      (parpEvidenceUpdateFile state env observation).1.limits = state.limits := by
  unfold parpEvidenceUpdateFile
  split
  · rename_i files errno hresult
    rw [hresult]
    exact ⟨rfl, rfl, rfl⟩
  · rename_i files hresult
    rw [hresult]
    exact publishWhenDue_frame _ env _

theorem updateAnon_tables (state : EvidenceState) (env : Surroundings)
    (observation : ParpObservation ParpAnonRegionKey) :
    (parpEvidenceUpdateAnon state env observation).1.anons =
        (tableUpdate anonKind state.limits state.anons state.files.builders.length observation
          env.tableAllocated).1 ∧
      (parpEvidenceUpdateAnon state env observation).1.files = state.files ∧
      (parpEvidenceUpdateAnon state env observation).1.limits = state.limits := by
  unfold parpEvidenceUpdateAnon
  split
  · rename_i anons errno hresult
    rw [hresult]
    exact ⟨rfl, rfl, rfl⟩
  · rename_i anons hresult
    rw [hresult]
    obtain ⟨hfiles, hanons, hlimits⟩ := publishWhenDue_frame { state with anons := anons } env
      observation.sample.timestampNs
    exact ⟨hanons, hfiles, hlimits⟩

structure SamePublication (left right : EvidenceState) : Prop where
  last : left.lastPublishNs = right.lastPublishNs
  version : left.evidenceVersion = right.evidenceVersion
  active : left.activeEvidence = right.activeEvidence

def EndsAs (outcome : Except EvidenceErrno Unit) (state : EvidenceState) (env : Surroundings)
    (timestampNs : UInt64) (result : EvidenceState × Except EvidenceErrno Unit) : Prop :=
  ∃ merged, SamePublication merged state ∧
    ((∃ errno, outcome = .error errno ∧ result = (merged, .error errno)) ∨
      outcome = .ok () ∧ result = publishWhenDue merged env timestampNs)

theorem updateFile_ends (state : EvidenceState) (env : Surroundings)
    (observation : ParpObservation ParpFileRegionKey) :
    EndsAs (tableUpdate fileKind state.limits state.files state.anons.builders.length observation
      env.tableAllocated).2 state env observation.sample.timestampNs
      (parpEvidenceUpdateFile state env observation) := by
  unfold parpEvidenceUpdateFile
  generalize tableUpdate fileKind state.limits state.files state.anons.builders.length observation
    env.tableAllocated = result
  obtain ⟨files, errno | _⟩ := result
  · exact ⟨{ state with files := files }, ⟨rfl, rfl, rfl⟩, .inl ⟨errno, rfl, rfl⟩⟩
  · exact ⟨{ state with files := files }, ⟨rfl, rfl, rfl⟩, .inr ⟨rfl, rfl⟩⟩

theorem updateAnon_ends (state : EvidenceState) (env : Surroundings)
    (observation : ParpObservation ParpAnonRegionKey) :
    EndsAs (tableUpdate anonKind state.limits state.anons state.files.builders.length observation
      env.tableAllocated).2 state env observation.sample.timestampNs
      (parpEvidenceUpdateAnon state env observation) := by
  unfold parpEvidenceUpdateAnon
  generalize tableUpdate anonKind state.limits state.anons state.files.builders.length observation
    env.tableAllocated = result
  obtain ⟨anons, errno | _⟩ := result
  · exact ⟨{ state with anons := anons }, ⟨rfl, rfl, rfl⟩, .inl ⟨errno, rfl, rfl⟩⟩
  · exact ⟨{ state with anons := anons }, ⟨rfl, rfl, rfl⟩, .inr ⟨rfl, rfl⟩⟩

structure StepMoves (state : EvidenceState) (event : EvidenceEvent) (after : EvidenceState) :
    Prop where
  files : TableMove fileKind state.limits state.files.builders state.anons.builders.length
    (fileEvent event) after.files.builders
  anons : TableMove anonKind state.limits state.anons.builders state.files.builders.length
    (anonEvent event) after.anons.builders

theorem evidenceStep_moves (state : EvidenceState) (event : EvidenceEvent) :
    StepMoves state event (evidenceStep state event).2 := by
  cases event with
  | updateFile observation env =>
    obtain ⟨hfiles, hanons, -⟩ := updateFile_tables state env observation
    refine ⟨?_, ?_⟩
    · change TableMove _ _ _ _ _ (parpEvidenceUpdateFile state env observation).1.files.builders
      rw [hfiles]
      exact tableUpdate_move fileKind _ _ _ observation _
    · change TableMove _ _ _ _ _ (parpEvidenceUpdateFile state env observation).1.anons.builders
      rw [hanons]
      exact .unchanged _ fun _ h => by cases h
  | updateAnon observation env =>
    obtain ⟨hanons, hfiles, -⟩ := updateAnon_tables state env observation
    refine ⟨?_, ?_⟩
    · change TableMove _ _ _ _ _ (parpEvidenceUpdateAnon state env observation).1.files.builders
      rw [hfiles]
      exact .unchanged _ fun _ h => by cases h
    · change TableMove _ _ _ _ _ (parpEvidenceUpdateAnon state env observation).1.anons.builders
      rw [hanons]
      exact tableUpdate_move anonKind _ _ _ observation _
  | publish nowNs env =>
    refine ⟨?_, ?_⟩
    · change TableMove _ _ _ _ _ (parpPublishEvidenceLocked state env nowNs).1.files.builders
      rw [publish_files]
      exact .unchanged _ fun _ h => by cases h
    · change TableMove _ _ _ _ _ (parpPublishEvidenceLocked state env nowNs).1.anons.builders
      rw [publish_anons]
      exact .unchanged _ fun _ h => by cases h
  | domainOffline domainId nowNs env =>
    refine ⟨?_, ?_⟩
    · change TableMove _ _ _ _ _ (parpPublishEvidenceLocked _ env nowNs).1.files.builders
      rw [publish_files]
      exact dropDomain_move fileKind _ _ _ domainId
    · change TableMove _ _ _ _ _ (parpPublishEvidenceLocked _ env nowNs).1.anons.builders
      rw [publish_anons]
      exact dropDomain_move anonKind _ _ _ domainId
  | setLimits limits =>
    refine ⟨?_, ?_⟩
    · exact .unchanged _ fun _ h => by cases h
    · exact .unchanged _ fun _ h => by cases h

def KeepsLimits : EvidenceEvent → Prop
  | .setLimits _ => False
  | _ => True

theorem evidenceStep_limits {event : EvidenceEvent} (h : KeepsLimits event) :
    (evidenceStep state event).2.limits = state.limits := by
  cases event with
  | updateFile observation env => exact (updateFile_tables state env observation).2.2
  | updateAnon observation env => exact (updateAnon_tables state env observation).2.2
  | publish nowNs env => exact publish_limits state env nowNs
  | domainOffline domainId nowNs env => exact publish_limits _ env nowNs
  | setLimits limits => exact h.elim

structure Respects (limits : Limits) (state : EvidenceState) : Prop where
  same : state.limits = limits
  files : WithinLimits fileKind fileRegion limits state.files.builders
  anons : WithinLimits anonKind anonRegion limits state.anons.builders
  total : state.files.builders.length + state.anons.builders.length ≤ limits.maxTotalRegions.toNat

theorem Respects.step (h : Respects limits state) {event : EvidenceEvent}
    (hkeeps : KeepsLimits event) : Respects limits (evidenceStep state event).2 := by
  have hmoves := evidenceStep_moves state event
  obtain ⟨rfl, hfiles, hanons, htotal⟩ := h
  obtain ⟨hfileRoom, hfileQuiet⟩ := hmoves.files.length htotal
  obtain ⟨hanonRoom, hanonQuiet⟩ := hmoves.anons.length (by omega)
  refine ⟨evidenceStep_limits hkeeps,
    ⟨hmoves.files.distinct fileNames hfiles.distinct,
      hmoves.files.domains fileNames hfiles.domains⟩,
    ⟨hmoves.anons.distinct anonNames hanons.distinct,
      hmoves.anons.domains anonNames hanons.domains⟩,
    ?_⟩
  -- at most one of the tables grows
  cases event with
  | updateFile observation env =>
    have hquiet := hanonQuiet fun _ h => by cases h
    omega
  | _ =>
    have hquiet := hfileQuiet fun _ h => by cases h
    omega

theorem respects_after (limits : Limits) {events : List EvidenceEvent}
    (hkeeps : ∀ event ∈ events, KeepsLimits event) :
    Respects limits (after evidenceStep { limits := limits } events) := by
  have hnone : ∀ {κ : Type} (kind : RegionKind κ), DomainsWithin kind limits [] :=
    fun _ _ => Nat.zero_le _
  exact after_invariant_along (P := fun _ event => KeepsLimits event)
    (fun _ _ h hkeeps => h.step hkeeps)
    ⟨rfl, ⟨nodup_nil, hnone _⟩, ⟨nodup_nil, hnone _⟩, Nat.zero_le _⟩ events
    (along_of_forall evidenceStep _ hkeeps)

end

section

variable {κ : Type} {kind : RegionKind κ} {limits : Limits}
  {builders remaining : List (ParpBuilder κ)} {others : ℕ} {event : TableEvent κ}

def Discarded (kind : RegionKind κ) (remaining : List (ParpBuilder κ)) (builder : ParpBuilder κ) :
    Prop :=
  ∀ other ∈ remaining, kind.sameRegion other.observation builder.observation = false

/-- Why a builder is discarded: its domain is gone, or a stronger observation has its place. -/
inductive DiscardReason (kind : RegionKind κ) (limits : Limits) (builders : List (ParpBuilder κ))
    (others : ℕ) (builder : ParpBuilder κ) : TableEvent κ → Prop
  | offline : DiscardReason kind limits builders others builder
      (.offline (kind.domain builder.observation))
  | evicted (observation : ParpObservation κ)
      (hweakest : EvictedFor kind limits builders others observation builder) :
      DiscardReason kind limits builders others builder (.observed observation)

theorem TableMove.discardReason {ρ : Type} {region : ParpObservation κ → ρ}
    (hnames : Names kind region) (hmove : TableMove kind limits builders others event remaining)
    {builder : ParpBuilder κ} (hmem : builder ∈ builders)
    (hgone : Discarded kind remaining builder) :
    DiscardReason kind limits builders others builder event := by
  have hsame : ∀ other ∈ remaining, region other.observation ≠ region builder.observation := by
    intro other hother heq
    have hfalse := hgone other hother
    rw [(hnames.same _ _).2 heq] at hfalse
    cases hfalse
  obtain ⟨j, hj⟩ := mem_iff_getElem?.1 hmem
  cases hmove with
  | unchanged event hstays => exact (hsame builder hmem rfl).elim
  | updated observation i old hget hregion =>
    have hmap := map_set_same (f := fun builder => region builder.observation) hget
      (b := takeSample old observation) ((hnames.same _ _).1 hregion).symm
    have hregions := mem_map_of_mem (f := fun builder => region builder.observation) hmem
    rw [← hmap] at hregions
    obtain ⟨other, hother, heq⟩ := mem_map.1 hregions
    exact (hsame other hother heq).elim
  | added observation hnew hdomain htotal =>
    exact (hsame builder (mem_append_left _ hmem) rfl).elim
  | evicted observation i victim hget hnew hweakest =>
    by_cases hij : i = j
    · subst hij
      obtain rfl := Option.some.inj (hget.symm.trans hj)
      exact .evicted observation hweakest
    · have hstays : (builders.set i (takeSample (freshBuilder observation) observation))[j]? =
          some builder := by
        rw [getElem?_set_ne hij, hj]
      exact (hsame builder (mem_of_getElem? hstays) rfl).elim
  | dropped domainId hrest =>
    by_cases hdomain : kind.domain builder.observation = domainId
    · subst hdomain
      exact .offline
    · have hstays := hrest.mem_iff.2 (mem_filter.2 ⟨hmem, by simpa using hdomain⟩)
      exact (hsame builder hstays rfl).elim

structure Accounted (state : EvidenceState) (event : EvidenceEvent) : Prop where
  moves : StepMoves state event (evidenceStep state event).2
  files : ∀ builder ∈ state.files.builders,
    Discarded fileKind (evidenceStep state event).2.files.builders builder →
      DiscardReason fileKind state.limits state.files.builders state.anons.builders.length builder
        (fileEvent event)
  anons : ∀ builder ∈ state.anons.builders,
    Discarded anonKind (evidenceStep state event).2.anons.builders builder →
      DiscardReason anonKind state.limits state.anons.builders state.files.builders.length builder
        (anonEvent event)

theorem evidenceStep_accounted (state : EvidenceState) (event : EvidenceEvent) :
    Accounted state event := by
  have hmoves := evidenceStep_moves state event
  exact ⟨hmoves, fun _ hmem hgone => hmoves.files.discardReason fileNames hmem hgone,
    fun _ hmem hgone => hmoves.anons.discardReason anonNames hmem hgone⟩

/-- In every run under fixed limits the tables keep to them, and no step discards a builder without
a reason. -/
theorem tables_limited (limits : Limits) (events : List EvidenceEvent)
    (hkeeps : ∀ event ∈ events, KeepsLimits event) :
    Respects limits (after evidenceStep { limits := limits } events) ∧
      Along evidenceStep Accounted { limits := limits } events :=
  ⟨respects_after limits hkeeps,
    along_of_invariant (I := fun _ => True) (fun _ _ _ => trivial)
      (fun state event _ => evidenceStep_accounted state event) trivial events⟩

def oneEach : Limits where
  maxFileRegionsPerDomain := 1
  maxAnonRegionsPerDomain := 1
  maxTotalRegions := 2

def crowded : List EvidenceEvent :=
  [sampleEvent 2 3 100 1 5,
    .updateFile { regionSample 2 3 101 2 9 with key := { inode := 10, nrPages := 8 } }
      (boundEnv 2 3)]

theorem crowded_limited :
    (∀ event ∈ crowded, KeepsLimits event) ∧
      Respects oneEach (after evidenceStep { limits := oneEach } crowded) ∧
      Along evidenceStep Accounted { limits := oneEach } crowded ∧
      (after evidenceStep { limits := oneEach } crowded).files.builders.map
        (fun builder => builder.observation.key.inode) = [10] := by
  have hkeeps : ∀ event ∈ crowded, KeepsLimits event := by
    simp [crowded, sampleEvent, KeepsLimits]
  obtain ⟨hrespects, haccounted⟩ := tables_limited oneEach crowded hkeeps
  exact ⟨hkeeps, hrespects, haccounted, by decide +kernel⟩

end

end Parp.EvidenceTables
