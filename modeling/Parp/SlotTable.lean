import Parp.KeyedTable

set_option autoImplicit false

/-!
# Tables of slots

A fixed number of slots, each free or of one key. A key is looked for first, and then a free slot
for it.
-/
namespace Parp.SlotTable

open KeyedTable

variable {α κ : Type} [DecidableEq κ] (key : α → κ) (free : κ)

def search (k : κ) : List α → ℕ → Option ℕ → Option ℕ
  | [], _, found => found
  | slot :: slots, i, found =>
    if key slot = k then some i
    else search k slots (i + 1) (if key slot = free ∧ found = none then some i else found)

def slotFor (k : κ) (slots : List α) : Option ℕ := search key free k slots 0 none

def Single (slots : List α) : Prop :=
  ∀ (i j : ℕ) s t, slots[i]? = some s → slots[j]? = some t → key s = key t → key s ≠ free → i = j

def Full (slots : List α) : Prop := ∀ s ∈ slots, key s ≠ free

instance (slots : List α) : Decidable (Full key free slots) :=
  inferInstanceAs (Decidable (∀ s ∈ slots, _))

variable {key free} {k : κ} {slots : List α}

inductive Found (key : α → κ) (free : κ) (k : κ) (slots : List α) : Option ℕ → Prop
  | held (i : ℕ) (s : α) (hslot : slots[i]? = some s) (hkey : key s = k) :
      Found key free k slots (some i)
  | claimed (i : ℕ) (s : α) (hslot : slots[i]? = some s) (hfree : key s = free)
      (habsent : ∀ t ∈ slots, key t ≠ k) : Found key free k slots (some i)
  | full (habsent : ∀ t ∈ slots, key t ≠ k) (hfull : Full key free slots) : Found key free k slots none

def Passed (key : α → κ) (free : κ) (k : κ) (passed : List α) (found : Option ℕ) : Prop :=
  (∀ t ∈ passed, key t ≠ k) ∧
    match found with
    | none => Full key free passed
    | some i => ∃ s, passed[i]? = some s ∧ key s = free

theorem Passed.next {passed : List α} {found : Option ℕ} {slot : α}
    (h : Passed key free k passed found) (hslot : key slot ≠ k) :
    Passed key free k (passed ++ [slot])
      (if key slot = free ∧ found = none then some passed.length else found) := by
  refine ⟨fun t ht => ?_, ?_⟩
  · rcases List.mem_append.1 ht with hold | hnew
    · exact h.1 t hold
    · rwa [List.mem_singleton.1 hnew]
  · cases found with
    | none =>
      by_cases hfree : key slot = free
      · rw [if_pos ⟨hfree, rfl⟩]
        exact ⟨slot, by simp, hfree⟩
      · rw [if_neg fun hboth => hfree hboth.1]
        intro t ht
        rcases List.mem_append.1 ht with hold | hnew
        · exact h.2 t hold
        · rwa [List.mem_singleton.1 hnew]
    | some i =>
      rw [if_neg fun hboth => nomatch hboth.2]
      obtain ⟨s, hs, hfree⟩ := h.2
      exact ⟨s, List.getElem?_append_left (List.getElem?_eq_some_iff.1 hs).1 ▸ hs, hfree⟩

theorem search_found (rest passed : List α) (found : Option ℕ)
    (h : Passed key free k passed found) :
    Found key free k (passed ++ rest) (search key free k rest passed.length found) := by
  induction rest generalizing passed found with
  | nil =>
    rw [List.append_nil, search]
    cases found with
    | none => exact .full h.1 h.2
    | some i =>
      obtain ⟨s, hs, hfree⟩ := h.2
      exact .claimed i s hs hfree h.1
  | cons slot rest ih =>
    rw [search]
    by_cases hslot : key slot = k
    · rw [if_pos hslot]
      exact .held _ slot (by simp) hslot
    · rw [if_neg hslot]
      have hnext := ih (passed ++ [slot]) _ (h.next hslot)
      rwa [List.length_append, List.append_assoc] at hnext

variable (key free k slots) in
theorem slotFor_found : Found key free k slots (slotFor key free k slots) :=
  search_found slots [] none ⟨fun _ ht => (List.not_mem_nil ht).elim,
    fun _ ht => (List.not_mem_nil ht).elim⟩

section

variable {i : ℕ} {s e : α}

theorem lookup_eq_some (h : Single key free slots) (hk : k ≠ free) :
    lookup key k slots = some s ↔ ∃ i : ℕ, slots[i]? = some s ∧ key s = k := by
  constructor
  · intro hs
    obtain ⟨i, hi⟩ := List.mem_iff_getElem?.1 (lookup_mem hs)
    exact ⟨i, hi, lookup_key hs⟩
  · rintro ⟨i, hi, hkey⟩
    obtain ⟨t, ht⟩ : ∃ t, lookup key k slots = some t := by
      rw [← Option.isSome_iff_exists, lookup, List.find?_isSome]
      exact ⟨s, List.mem_of_getElem? hi, decide_eq_true hkey⟩
    obtain ⟨j, hj⟩ := List.mem_iff_getElem?.1 (lookup_mem ht)
    have hij : i = j := h i j s t hi hj (hkey.trans (lookup_key ht).symm) (hkey ▸ hk)
    subst hij
    rw [ht, ← hi, hj]

def Fits (key : α → κ) (slots : List α) (i : ℕ) (e : α) : Prop :=
  ∀ (j : ℕ) t, slots[j]? = some t → key t = key e → j = i

omit [DecidableEq κ] in
theorem Single.set (h : Single key free slots) (hfits : key e = free ∨ Fits key slots i e) :
    Single key free (slots.set i e) := by
  intro a b s t hs ht hst hfree
  rw [List.getElem?_set] at hs ht
  split_ifs at hs with ha
  · obtain rfl := Option.some.inj hs
    split_ifs at ht with hb
    · omega
    · rcases hfits with hfree' | hfits
      · exact absurd hfree' hfree
      · exact ha ▸ (hfits b t ht hst.symm).symm
  · split_ifs at ht with hb
    · obtain rfl := Option.some.inj ht
      rcases hfits with hfree' | hfits
      · exact absurd (hst.trans hfree') hfree
      · exact hb ▸ hfits a s hs hst
    · exact h a b s t hs ht hst hfree

theorem lookup_set_self (h : Single key free slots) (hslot : slots[i]? = some s)
    (hfits : Fits key slots i e) (hfree : key e ≠ free) :
    lookup key (key e) (slots.set i e) = some e := by
  rw [lookup_eq_some (h.set (.inr hfits)) hfree]
  have hi := (List.getElem?_eq_some_iff.1 hslot).1
  exact ⟨i, by rw [List.getElem?_set_self hi], rfl⟩

theorem lookup_set_other (h : Single key free slots) (hslot : slots[i]? = some s)
    (hfits : key e = free ∨ Fits key slots i e) (hk : k ≠ free) (hold : key s ≠ k)
    (hnew : key e ≠ k) : lookup key k (slots.set i e) = lookup key k slots := by
  refine Option.ext fun t => ?_
  rw [lookup_eq_some (h.set hfits) hk, lookup_eq_some h hk]
  have hi := (List.getElem?_eq_some_iff.1 hslot).1
  constructor
  · rintro ⟨j, hj, ht⟩
    by_cases hij : i = j
    · subst hij
      rw [List.getElem?_set_self hi] at hj
      obtain rfl := Option.some.inj hj
      exact absurd ht hnew
    · exact ⟨j, by rwa [List.getElem?_set_ne hij] at hj, ht⟩
  · rintro ⟨j, hj, ht⟩
    by_cases hij : i = j
    · subst hij
      obtain rfl := Option.some.inj (hslot.symm.trans hj)
      exact absurd ht hold
    · exact ⟨j, by rwa [List.getElem?_set_ne hij], ht⟩

theorem lookup_set_freed (h : Single key free slots) (hslot : slots[i]? = some s)
    (hs : key s ≠ free) (he : key e = free) : lookup key (key s) (slots.set i e) = none := by
  rw [← Option.not_isSome_iff_eq_none, Option.isSome_iff_exists]
  rintro ⟨t, ht⟩
  obtain ⟨j, hj, htkey⟩ := (lookup_eq_some (h.set (.inl he)) hs).1 ht
  have hi := (List.getElem?_eq_some_iff.1 hslot).1
  by_cases hij : i = j
  · subst hij
    rw [List.getElem?_set_self hi] at hj
    obtain rfl := Option.some.inj hj
    exact hs (htkey.symm.trans he)
  · rw [List.getElem?_set_ne hij] at hj
    exact hij (h i j s t hslot hj htkey.symm hs)

theorem Single.countP_le (h : Single key free slots) (hk : k ≠ free) :
    slots.countP (fun s => key s = k) ≤ 1 := by
  induction slots with
  | nil => exact Nat.zero_le 1
  | cons slot slots ih =>
    have hrest : Single key free slots := by
      intro a b s t hs ht hst hfree
      have hab := h (a + 1) (b + 1) s t (by simpa using hs) (by simpa using ht) hst hfree
      omega
    by_cases hslot : key slot = k
    · have hzero : slots.countP (fun s => key s = k) = 0 := by
        rw [List.countP_eq_zero]
        intro t ht htk
        obtain ⟨j, hj⟩ := List.mem_iff_getElem?.1 ht
        have hkey : key slot = key t := hslot.trans (of_decide_eq_true htk).symm
        have hpos := h 0 (j + 1) slot t rfl (by simpa using hj) hkey (hslot ▸ hk)
        omega
      simp [hslot, hzero]
    · simpa [hslot] using ih hrest

end

end Parp.SlotTable
