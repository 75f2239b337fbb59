import Parp.OperationLookup

set_option autoImplicit false

namespace Parp.OperationLookup

open IntervalSearch KeyedTable FallibleFolds List

/-- `name.encode("utf-8")`. -/
def encodeName (name : List Char) : List UInt8 := name.flatMap String.utf8EncodeChar

def IsAscii (c : Char) : Prop := c.val < 128

/-- What is known of `str.lower`: letters of ASCII, and no other character than the Kelvin sign
lower-cases to ASCII alone. -/
structure LowerCase (lower : List Char → List Char) : Prop where
  ascii : ∀ s, (∀ c ∈ s, IsAscii c) → lower s = s.map Char.toLower
  other : ∀ s, ∀ c ∈ s, ¬ IsAscii c → ∃ x ∈ lower s, x = 'k' ∨ ¬ IsAscii x

theorem sameAppName_iff (left right : List UInt8) :
    sameAppName left right = true ↔ left.map lowerByte = right.map lowerByte := by
  induction left generalizing right with
  | nil => cases right <;> simp [sameAppName]
  | cons a left ih =>
    cases right with
    | nil => simp [sameAppName]
    | cons b right => by_cases h : lowerByte a = lowerByte b <;> simp [sameAppName, h, ih]

theorem utf8_ascii {c : Char} (h : IsAscii c) : String.utf8EncodeChar c = [c.val.toUInt8] := by
  have hle : c.val ≤ 0x7f := by
    unfold IsAscii at h
    rw [UInt32.lt_iff_toNat_lt] at h
    rw [UInt32.le_iff_toNat_le]
    exact Nat.le_of_lt_succ h
  rw [String.utf8EncodeChar_eq_utf8EncodeCharFast]
  unfold String.utf8EncodeCharFast
  exact if_pos hle

theorem high_or (b : UInt8) : 128 ≤ b ||| 0x80 := by
  rw [UInt8.le_iff_toNat_le, UInt8.toNat_or]
  exact Nat.right_le_or

theorem utf8_other {c : Char} (h : ¬ IsAscii c) : ∃ b ∈ String.utf8EncodeChar c, 128 ≤ b := by
  have hgt : ¬ c.val ≤ 0x7f := by
    unfold IsAscii at h
    rw [UInt32.lt_iff_toNat_lt] at h
    rw [UInt32.le_iff_toNat_le]
    exact fun hle => h (Nat.lt_succ_of_le hle)
  refine ⟨c.val.toUInt8 &&& 0x3f ||| 0x80, ?_, high_or _⟩
  rw [String.utf8EncodeChar_eq_utf8EncodeCharFast]
  unfold String.utf8EncodeCharFast
  simp only [if_neg hgt]
  split_ifs <;> simp

theorem lowerByte_high {b : UInt8} (h : 128 ≤ b) : lowerByte b = b := by
  unfold lowerByte
  rw [if_neg fun hletter => ?_]
  have hle := UInt8.le_trans h hletter.2
  revert hle
  decide

theorem ascii_all {P : Char → Prop} (h : ∀ n < 128, P (Char.ofNat n)) {c : Char} (hc : IsAscii c) :
    P c := by
  have hn := h c.toNat (UInt32.lt_iff_toNat_lt.1 hc)
  rwa [Char.ofNat_toNat] at hn

theorem lowerByte_ascii {c : Char} (h : IsAscii c) :
    lowerByte c.val.toUInt8 = c.toLower.val.toUInt8 :=
  @ascii_all (fun c => lowerByte c.val.toUInt8 = c.toLower.val.toUInt8) (by decide +kernel) c h

theorem toLower_byte {c : Char} (h : IsAscii c) :
    Char.ofNat c.toLower.val.toUInt8.toNat = c.toLower :=
  @ascii_all (fun c => Char.ofNat c.toLower.val.toUInt8.toNat = c.toLower) (by decide +kernel) c h

theorem encodeName_ascii {name : List Char} (h : ∀ c ∈ name, IsAscii c) :
    (encodeName name).map lowerByte = name.map fun c => c.toLower.val.toUInt8 := by
  induction name with
  | nil => rfl
  | cons c name ih =>
    have hc := h c (.head _)
    unfold encodeName at ih ⊢
    rw [flatMap_cons, utf8_ascii hc, singleton_append, map_cons,
      lowerByte_ascii hc, ih fun x hx => h x (.tail _ hx), map_cons]

theorem gimp_iff {lower : List Char → List Char} (hlower : LowerCase lower) (name : List Char) :
    sameAppName (encodeName name) [103, 105, 109, 112] = true ↔ lower name = "gimp".toList := by
  rw [sameAppName_iff]
  by_cases hascii : ∀ c ∈ name, IsAscii c
  · rw [hlower.ascii name hascii, encodeName_ascii hascii]
    constructor
    · intro h
      have hback := congrArg (List.map fun b : UInt8 => Char.ofNat b.toNat) h
      rw [map_map] at hback
      rw [← map_congr_left fun c hc => toLower_byte (hascii c hc)]
      exact hback
    · intro h
      have hbytes := congrArg (List.map fun c : Char => c.val.toUInt8) h
      rw [map_map] at hbytes
      exact hbytes
  · push Not at hascii
    obtain ⟨c, hc, hother⟩ := hascii
    constructor
    · intro h
      obtain ⟨b, hb, hhigh⟩ := utf8_other hother
      have hmem : b ∈ (encodeName name).map lowerByte :=
        mem_map.2 ⟨b, mem_flatMap.2 ⟨c, hc, hb⟩, lowerByte_high hhigh⟩
      have hletters : ∀ b ∈ [103, 105, 109, 112].map lowerByte, ¬ 128 ≤ b :=
        @of_decide_eq_true _ (List.decidableBAll _ _) rfl
      rw [h] at hmem
      exact absurd hhigh (hletters b hmem)
    · intro h
      obtain ⟨x, hx, hkelvin⟩ := hlower.other name c hc hother
      have hletters : ∀ x ∈ "gimp".toList, x ≠ 'k' ∧ x.val < 128 :=
        @of_decide_eq_true _ (List.decidableBAll _ _) rfl
      rw [h] at hx
      obtain ⟨hk, hlow⟩ := hletters x hx
      exact (hkelvin.elim hk fun hnot => hnot hlow).elim

section

def Before (a b : WssLookupRow) : Prop :=
  a.listNum < b.listNum ∨ (a.listNum = b.listNum ∧ a.pressureGib < b.pressureGib) ∨
    (a.listNum = b.listNum ∧ a.pressureGib = b.pressureGib ∧ a.opId < b.opId)

instance (a b : WssLookupRow) : Decidable (Before a b) := inferInstanceAs (Decidable (_ ∨ _ ∨ _))

def IsRow (seq pressure op : UInt32) (row : WssLookupRow) : Prop :=
  row.listNum = seq ∧ row.pressureGib = pressure ∧ row.opId = op

theorem compareRow_eq_iff {seq pressure op : UInt32} {row : WssLookupRow} :
    compareRow seq pressure op row = .eq ↔ IsRow seq pressure op row := by
  unfold compareRow IsRow
  split_ifs with heq hlt <;> simp [heq]

theorem before_align {seq pressure op : UInt32} {a b : WssLookupRow} (h : Before a b) :
    compareRow seq pressure op a = .lt ∨ compareRow seq pressure op b = .gt := by
  unfold Before at h
  unfold compareRow
  simp only [UInt32.lt_iff_toNat_lt, ← UInt32.toNat_inj] at h ⊢
  split_ifs <;> first | exact .inl rfl | exact .inr rfl | omega

theorem before_irrefl {a b : WssLookupRow} (h : Before a b)
    (hkey : a.listNum = b.listNum ∧ a.pressureGib = b.pressureGib ∧ a.opId = b.opId) : False := by
  unfold Before at h
  simp only [UInt32.lt_iff_toNat_lt, ← UInt32.toNat_inj] at h hkey
  omega

variable {rows : List WssLookupRow} {seq pressure op : UInt32}

theorem compareAt_aligned (hsorted : rows.Pairwise Before) :
    Aligned (compareAt rows seq pressure op) 0 rows.length := by
  intro i j _ hij hj
  have hi : i < rows.length := hij.trans hj
  unfold compareAt
  rw [getElem?_eq_getElem hi, getElem?_eq_getElem hj]
  exact (before_align (pairwise_iff_getElem.1 hsorted i j hi hj hij)).imp_right .inl

theorem compareAt_eq {i : ℕ} (h : compareAt rows seq pressure op i = .eq) :
    ∃ row, rows[i]? = some row ∧ IsRow seq pressure op row := by
  unfold compareAt at h
  cases hrow : rows[i]? with
  | none =>
    rw [hrow] at h
    cases h
  | some row =>
    rw [hrow] at h
    exact ⟨row, rfl, compareRow_eq_iff.1 h⟩

theorem findRow_eq_some_iff (hsorted : rows.Pairwise Before) {row : WssLookupRow} :
    findRow rows seq pressure op = some row ↔ row ∈ rows ∧ IsRow seq pressure op row := by
  unfold findRow
  constructor
  · intro h
    obtain ⟨i, hi, hrow⟩ := Option.bind_eq_some_iff.1 h
    obtain ⟨row', hrow', his⟩ := compareAt_eq (bisect_sound hi).2.2
    obtain rfl := Option.some.inj (hrow.symm.trans hrow')
    exact ⟨mem_of_getElem? hrow, his⟩
  · rintro ⟨hmem, his⟩
    obtain ⟨i, hi, hrow⟩ := mem_iff_getElem.1 hmem
    have heq : compareAt rows seq pressure op i = .eq := by
      unfold compareAt
      rw [getElem?_eq_getElem hi, hrow]
      exact compareRow_eq_iff.2 his
    obtain ⟨k, hk⟩ := Option.isSome_iff_exists.1
      (bisect_complete (compareAt_aligned hsorted) (Nat.zero_le i) hi heq)
    obtain ⟨row', hrow', his'⟩ := compareAt_eq (bisect_sound hk).2.2
    have hklt := (List.getElem?_eq_some_iff.1 hrow').1
    have hkey : row.listNum = row'.listNum ∧ row.pressureGib = row'.pressureGib ∧
        row.opId = row'.opId :=
      ⟨his.1.trans his'.1.symm, his.2.1.trans his'.2.1.symm, his.2.2.trans his'.2.2.symm⟩
    have hsame : i = k := by
      rcases Nat.lt_trichotomy i k with hlt | heq | hlt
      · have hbefore := pairwise_iff_getElem.1 hsorted i k hi hklt hlt
        rw [hrow, (List.getElem?_eq_some_iff.1 hrow').2] at hbefore
        exact (before_irrefl hbefore hkey).elim
      · exact heq
      · have hbefore := pairwise_iff_getElem.1 hsorted k i hklt hi hlt
        rw [hrow, (List.getElem?_eq_some_iff.1 hrow').2] at hbefore
        exact (before_irrefl hbefore ⟨hkey.1.symm, hkey.2.1.symm, hkey.2.2.symm⟩).elim
    rw [hk, Option.bind_some, ← hsame, getElem?_eq_getElem hi, hrow]

end

structure ValidRow (r : Row) : Prop where
  sequenceNum : 1 ≤ r.sequenceNum ∧ r.sequenceNum ≤ 30
  opId : 1 ≤ r.opId ∧ r.opId ≤ 8
  pressureGib : r.pressureGib ∈ buckets
  wssBytes : 0 ≤ r.wssBytes ∧ r.wssBytes ≤ i64Max
  pagefault : ∀ f ∈ r.pagefault, 0 ≤ f ∧ f ≤ i64Max
  sourceKind : r.sourceKind = "MEASURED" ∨ r.sourceKind = "SIMULATED"

theorem integer_eq_ok {value minimum maximum v : ℤ} :
    integer value minimum maximum = .ok v ↔ v = value ∧ minimum ≤ value ∧ value ≤ maximum := by
  unfold integer
  split_ifs with h
  · simp [h, eq_comm]
  · simp [h]

theorem integer_ok {value minimum maximum : ℤ} (h : minimum ≤ value ∧ value ≤ maximum) :
    integer value minimum maximum = .ok value := if_pos h

theorem checkValues_eq_ok {r : Row} :
    checkValues r = .ok () ↔ (0 ≤ r.wssBytes ∧ r.wssBytes ≤ i64Max) ∧
      (∀ f ∈ r.pagefault, 0 ≤ f ∧ f ≤ i64Max) ∧
      (r.sourceKind = "MEASURED" ∨ r.sourceKind = "SIMULATED") := by
  have hfault : (∃ f, r.pagefault.mapM (fun f => integer f 0 i64Max) = Except.ok f) ↔
      ∀ f ∈ r.pagefault, 0 ≤ f ∧ f ≤ i64Max := by
    cases r.pagefault with
    | none => exact ⟨fun _ => nofun, fun _ => ⟨none, rfl⟩⟩
    | some f =>
      simp only [Option.mapM_some, map_eq_ok, integer_eq_ok, Option.mem_def, Option.some.injEq]
      constructor
      · rintro ⟨_, _, ⟨-, hbound⟩, -⟩ _ rfl
        exact hbound
      · exact fun h => ⟨some f, f, ⟨rfl, h f rfl⟩, rfl⟩
  unfold checkValues
  simp only [bind_eq_ok, integer_eq_ok]
  rw [← hfault]
  constructor
  · rintro ⟨_, ⟨-, hwss⟩, f, hf, hkind⟩
    split_ifs at hkind with hsource
    exact ⟨hwss, ⟨f, hf⟩, by tauto⟩
  · rintro ⟨hwss, ⟨f, hf⟩, hkind⟩
    refine ⟨_, ⟨rfl, hwss⟩, f, hf, ?_⟩
    rw [if_neg (by tauto)]
    rfl

theorem loadRow_eq_ok {rows rows' : List Row} {r : Row} :
    loadRow rows r = .ok rows' ↔
      ValidRow r ∧ ¬ Present Row.key r.key rows ∧ rows' = rows ++ [r] := by
  unfold loadRow
  simp only [bind_eq_ok, integer_eq_ok]
  constructor
  · rintro ⟨_, ⟨-, hsequence⟩, _, ⟨-, hop⟩, _, -, hkey⟩
    split_ifs at hkey with hbad
    obtain ⟨⟨⟩, hvalues, hrows⟩ := bind_eq_ok.1 hkey
    cases hrows
    rw [not_or, not_not] at hbad
    obtain ⟨hwss, hfault, hkind⟩ := checkValues_eq_ok.1 hvalues
    exact ⟨⟨hsequence, hop, hbad.1, hwss, hfault, hkind⟩, hbad.2, rfl⟩
  · rintro ⟨hvalid, hnew, rfl⟩
    have hpressure : 0 ≤ r.pressureGib ∧ r.pressureGib ≤ u64Max := by
      have hbucket := hvalid.pressureGib
      unfold buckets at hbucket
      unfold u64Max
      simp only [mem_cons, not_mem_nil, or_false] at hbucket
      omega
    refine ⟨_, ⟨rfl, hvalid.sequenceNum⟩, _, ⟨rfl, hvalid.opId⟩, _, ⟨rfl, hpressure⟩, ?_⟩
    rw [if_neg (not_or.2 ⟨not_not.2 hvalid.pressureGib, hnew⟩),
      checkValues_eq_ok.2 ⟨hvalid.wssBytes, hvalid.pagefault, hvalid.sourceKind⟩]
    rfl

theorem keyed_concat {rows : List Row} {r : Row} :
    Keyed Row.key (rows ++ [r]) ↔ Keyed Row.key rows ∧ ¬ Present Row.key r.key rows := by
  unfold Keyed Present
  rw [map_append, nodup_append]
  simp

theorem loadRows_eq_ok {rows rows' records : List Row} (hkeyed : Keyed Row.key rows) :
    records.foldlM loadRow rows = .ok rows' ↔ (∀ r ∈ records, ValidRow r) ∧
      Keyed Row.key (rows ++ records) ∧ rows' = rows ++ records := by
  induction records generalizing rows with
  | nil =>
    rw [append_nil]
    constructor
    · intro h
      cases h
      exact ⟨nofun, hkeyed, rfl⟩
    · rintro ⟨-, -, rfl⟩
      rfl
  | cons r records ih =>
    have hsplit : rows ++ r :: records = rows ++ [r] ++ records := by
      rw [append_assoc]
      rfl
    rw [foldlM_cons, hsplit]
    constructor
    · intro h
      obtain ⟨t, ht, hrest⟩ := bind_eq_ok.1 h
      obtain ⟨hvalid, hnew, rfl⟩ := loadRow_eq_ok.1 ht
      obtain ⟨hall, hkeyed', hrows⟩ := (ih (keyed_concat.2 ⟨hkeyed, hnew⟩)).1 hrest
      exact ⟨forall_mem_cons.2 ⟨hvalid, hall⟩, hkeyed', hrows⟩
    · rintro ⟨hall, hkeyed', hrows⟩
      obtain ⟨hvalid, hrest⟩ := forall_mem_cons.1 hall
      have hconcat : Keyed Row.key (rows ++ [r]) := by
        unfold Keyed at hkeyed' ⊢
        rw [map_append] at hkeyed'
        exact (nodup_append.1 hkeyed').1
      have hload := loadRow_eq_ok.2 ⟨hvalid, (keyed_concat.1 hconcat).2, rfl⟩
      exact bind_eq_ok.2 ⟨_, hload, (ih hconcat).2 ⟨hrest, hkeyed', hrows⟩⟩

theorem table_loaded {table : Table} {rows : List Row}
    (h : tableOperationLookup table = .ok rows) :
    rows = table.records ∧ (∀ r ∈ rows, ValidRow r) ∧ Keyed Row.key rows := by
  unfold tableOperationLookup at h
  split_ifs at h
  obtain ⟨rows', hload, hlength⟩ := bind_eq_ok.1 h
  obtain ⟨hvalid, hkeyed, hrows⟩ := (@loadRows_eq_ok [] _ _ nodup_nil).1 hload
  split_ifs at hlength
  cases hlength
  rw [nil_append] at hkeyed hrows
  subst hrows
  exact ⟨rfl, hvalid, hkeyed⟩

section

/-- A generated row holds a record; without a page fault count its mask lacks a bit. -/
structure Exported (r : Row) (row : WssLookupRow) : Prop where
  listNum : (row.listNum.toNat : ℤ) = r.sequenceNum
  pressureGib : (row.pressureGib.toNat : ℤ) = r.pressureGib
  opId : (row.opId.toNat : ℤ) = r.opId
  wss : (row.wss.toNat : ℤ) = r.wssBytes
  measured : ∀ f ∈ r.pagefault, row.validMask &&& 3 = 3 ∧ (row.pgfault.toNat : ℤ) = f
  unmeasured : r.pagefault = none → row.validMask &&& 3 ≠ 3

variable {records : List Row} {rows : List WssLookupRow}

theorem exported_isRow {r : Row} {row : WssLookupRow} (h : Exported r row)
    {seq pressure op : UInt32} :
    IsRow seq pressure op row ↔ r.key = ((seq.toNat : ℤ), (op.toNat : ℤ), (pressure.toNat : ℤ)) := by
  unfold IsRow Row.key
  rw [← h.listNum, ← h.pressureGib, ← h.opId]
  simp only [Prod.mk.injEq, Nat.cast_inj, UInt32.toNat_inj]
  tauto

theorem rows_related (hkeyed : Keyed Row.key records) (hsorted : rows.Pairwise Before)
    (hexported : List.Forall₂ Exported records rows) (seq pressure op : UInt32) :
    Option.Rel Exported (lookup Row.key ((seq.toNat : ℤ), (op.toNat : ℤ), (pressure.toNat : ℤ)) records)
      (findRow rows seq pressure op) := by
  cases hfound : lookup Row.key ((seq.toNat : ℤ), (op.toNat : ℤ), (pressure.toNat : ℤ)) records with
  | some r =>
    obtain ⟨row, hrow, hr⟩ := related_left hexported (lookup_mem hfound)
    rw [(findRow_eq_some_iff hsorted).2 ⟨hrow, (exported_isRow hr).2 (lookup_key hfound)⟩]
    exact .some hr
  | none =>
    cases hsearch : findRow rows seq pressure op with
    | none => exact .none
    | some row =>
      obtain ⟨hrow, his⟩ := (findRow_eq_some_iff hsorted).1 hsearch
      obtain ⟨r, hr, hexp⟩ := related_right hexported hrow
      have hpresent := lookup_of_mem hkeyed hr ((exported_isRow hexp).1 his)
      rw [hfound] at hpresent
      cases hpresent

def SamePair (v : ℤ × ℤ × String) (p : ℤ × ℤ) : Prop := p = (v.1, v.2.1)

theorem small_word {w : UInt64} (h : (w.toNat : ℤ) ≤ i64Max) : ¬ 0x7fffffffffffffff < w := by
  rw [UInt64.lt_iff_toNat_lt]
  unfold i64Max at h
  change ¬ 9223372036854775807 < w.toNat
  omega

theorem future_related (hvalid : ∀ r ∈ records, ValidRow r) (hkeyed : Keyed Row.key records)
    {library : WssAppTable} (hmax : library.maxOperation = 8)
    (hsorted : library.rows.Pairwise Before)
    (hexported : List.Forall₂ Exported records library.rows) {seq pressure op : UInt32}
    (hop : op ≤ 8) {i : ℕ} (hi : i < 8 - op.toNat) :
    Same SamePair (futureRow records seq.toNat pressure.toNat (op.toNat + 1 + i))
      (future library seq pressure op i) := by
  have hle : op.toNat ≤ 8 := UInt32.le_iff_toNat_le.1 hop
  have hleft : ¬ (library.maxOperation - op).toNat ≤ i := by
    rw [hmax, UInt32.toNat_sub_of_le _ _ hop]
    change ¬ 8 - op.toNat ≤ i
    omega
  have hnext : ((op + UInt32.ofNat i + 1).toNat : ℤ) = op.toNat + 1 + i := by
    have hone : (1 : UInt32).toNat = 1 := rfl
    rw [UInt32.toNat_add, UInt32.toNat_add, UInt32.toNat_ofNat', hone]
    omega
  have hrel := rows_related hkeyed hsorted hexported seq pressure (op + UInt32.ofNat i + 1)
  rw [hnext] at hrel
  unfold futureRow future
  rw [if_neg hleft]
  generalize hfound : lookup Row.key ((seq.toNat : ℤ), (op.toNat : ℤ) + 1 + i,
    (pressure.toNat : ℤ)) records = found at hrel ⊢
  generalize findRow library.rows seq pressure (op + UInt32.ofNat i + 1) = searched at hrel ⊢
  cases hrel with
  | none => exact .error _ _
  | @some r row hr =>
    have hrow := hvalid r (lookup_mem hfound)
    have hwss : ¬ 0x7fffffffffffffff < row.wss := small_word (hr.wss ▸ hrow.wssBytes.2)
    dsimp only
    cases hfault : r.pagefault with
    | none =>
      rw [if_pos (.inl (hr.unmeasured hfault))]
      exact .error _ _
    | some f =>
      obtain ⟨hmask, hpgfault⟩ := hr.measured f hfault
      have hsmall : ¬ 0x7fffffffffffffff < row.pgfault :=
        small_word (hpgfault ▸ (hrow.pagefault f hfault).2)
      rw [if_neg (by simp [hmask, hwss, hsmall])]
      refine .ok ?_
      unfold SamePair
      rw [hr.wss, hpgfault]

def Padded (values : List (ℤ × ℤ × String)) (pairs : List (ℤ × ℤ)) : Prop :=
  values.length ≤ 4 ∧
    pairs = (values.map fun v => (v.1, v.2.1)) ++ List.replicate (4 - values.length) (-1, -1)

theorem walks_related (hvalid : ∀ r ∈ records, ValidRow r) (hkeyed : Keyed Row.key records)
    {library : WssAppTable} (hmax : library.maxOperation = 8)
    (hsorted : library.rows.Pairwise Before)
    (hexported : List.Forall₂ Exported records library.rows) {seq pressure op : UInt32}
    (hop : op ≤ 8) :
    Same Padded
      ((List.range (min ((op.toNat : ℤ) + 4) 8 - op.toNat).toNat).mapM fun i : ℕ =>
        futureRow records seq.toNat pressure.toNat (op.toNat + 1 + i))
      ((List.range 4).mapM (future library seq pressure op)) := by
  have hle : op.toNat ≤ 8 := UInt32.le_iff_toNat_le.1 hop
  generalize hcount : (min ((op.toNat : ℤ) + 4) 8 - op.toNat).toNat = n
  have hn : n = min 4 (8 - op.toNat) := by omega
  have hpart : Same (List.Forall₂ SamePair)
      ((List.range n).mapM fun i : ℕ => futureRow records seq.toNat pressure.toNat (op.toNat + 1 + i))
      ((List.range n).mapM (future library seq pressure op)) := by
    refine mapM_same fun i hi => ?_
    have hlt := mem_range.1 hi
    exact future_related hvalid hkeyed hmax hsorted hexported hop (by omega)
  have hrest : ((List.range (4 - n)).map (n + ·)).mapM (future library seq pressure op) =
      .ok (List.replicate (4 - n) (-1, -1)) := by
    have hpadding : ∀ i ∈ (List.range (4 - n)).map (n + ·),
        future library seq pressure op i = .ok (-1, -1) := by
      intro i hi
      obtain ⟨j, hj, rfl⟩ := mem_map.1 hi
      have hlt := mem_range.1 hj
      have hend : (library.maxOperation - op).toNat ≤ n + j := by
        rw [hmax, UInt32.toNat_sub_of_le _ _ hop]
        change 8 - op.toNat ≤ n + j
        omega
      unfold future
      rw [if_pos hend]
    rw [mapM_ok hpadding, map_const', length_map, length_range]
  have hrange : List.range 4 = List.range n ++ (List.range (4 - n)).map (n + ·) := by
    rw [← range_add]
    congr 1
    omega
  rw [hrange, mapM_append, hrest]
  have hlength : ∀ values, ((List.range n).mapM fun i : ℕ =>
      futureRow records seq.toNat pressure.toNat (op.toNat + 1 + i)) = .ok values →
      values.length = n := fun values h => by
    have hlen := mapM_length h
    rwa [length_range] at hlen
  generalize hvalues : ((List.range n).mapM fun i : ℕ =>
    futureRow records seq.toNat pressure.toNat (op.toNat + 1 + i)) = left at hpart hlength ⊢
  generalize (List.range n).mapM (future library seq pressure op) = right at hpart ⊢
  cases hpart with
  | error e e' => exact .error _ _
  | @ok values pairs hsame =>
    have hlen := hlength values rfl
    have hpairs : pairs.map id = values.map fun v => (v.1, v.2.1) :=
      related_map hsame fun _ _ h => h
    refine .ok ⟨by omega, ?_⟩
    rw [← map_id pairs, hpairs, hlen]

end

def readArray (memory : ℕ → ℤ) (address : ℕ) : List ℤ :=
  (List.range 4).map fun i => memory (address + i)

/-- A library call on two arrays, and what `decode_result` makes of them. -/
def lookupThenDecode (appTables : List WssAppTable) (memory : ℕ → ℤ) (name : List UInt8)
    (seq op : UInt32) (pressure : UInt64) (wss fault : ℕ) : Except String LookupResult :=
  let (ret, memory') := getWssPredictor appTables memory (some name) seq op pressure wss fault
  if ret ≠ 0 then .error s!"get_wss_predictor failed: ret={ret}"
  else decodeResult (readArray memory' wss) (readArray memory' fault) "bytes"

def Apart (wss fault : ℕ) : Prop := wss + 4 ≤ fault ∨ fault + 4 ≤ wss

theorem written_read {wss fault : ℕ} (hapart : Apart wss fault) (memory : ℕ → ℤ)
    {pairs : List (ℤ × ℤ)} (hlength : pairs.length = 4) :
    let memory' := pairs.zipIdx.foldl (fun memory v =>
      Function.update (Function.update memory (wss + v.2) v.1.1) (fault + v.2) v.1.2) memory
    readArray memory' wss = pairs.map Prod.fst ∧ readArray memory' fault = pairs.map Prod.snd := by
  obtain ⟨a, b, c, d, rfl⟩ := length_eq_four.1 hlength
  unfold Apart at hapart
  simp only [readArray, range_succ, range_zero, nil_append, map_append,
    map_cons, map_nil, zipIdx_cons, zipIdx_nil, foldl_cons,
    foldl_nil, Function.update_apply]
  constructor
  · simp
    omega
  · simp
    omega

structure SameAnswer (a b : LookupResult) : Prop where
  rawWss : a.rawWss = b.rawWss
  rawPagefault : a.rawPagefault = b.rawPagefault
  wssBytes : a.wssBytes = b.wssBytes
  pagefault : a.pagefault = b.pagefault
  validCount : a.validCount = b.validCount

def Admissible (name : List Char) (seq op : UInt32) (pressure : UInt64) : Prop :=
  name ≠ [] ∧ seq ≠ 0 ∧ op ≠ 0 ∧ (pressure = 0 ∨ pressure = 8 ∨ pressure = 12 ∨ pressure = 14)

instance (name : List Char) (seq op : UInt32) (pressure : UInt64) :
    Decidable (Admissible name seq op pressure) := inferInstanceAs (Decidable (_ ∧ _ ∧ _ ∧ _))

theorem predict_eq {lower : List Char → List Char} {rows : List Row} {name : List Char}
    (hname : Char.ofNat 0 ∉ name) (seq op : UInt32) (pressure : UInt64) :
    (Admissible name seq op pressure ∧ predict lower rows name seq.toNat op.toNat pressure.toNat =
      if lower name ≠ "gimp".toList then
        .error "get_wss_predictor failed: ret=-6 (unsupported application)"
      else if 8 < (op.toNat : ℤ) then
        .error "get_wss_predictor failed: ret=-1 (invalid operation)"
      else if (lookup Row.key ((seq.toNat : ℤ), (op.toNat : ℤ), (pressure.toNat : ℤ)) rows).isNone then
        .error "get_wss_predictor failed: ret=-2 (current record not found)"
      else predictLater rows seq.toNat op.toNat pressure.toNat) ∨
    ¬ Admissible name seq op pressure ∧
      ∃ e, predict lower rows name seq.toNat op.toNat pressure.toNat = .error e := by
  have hseq := seq.toNat_lt
  have hop := op.toNat_lt
  have hpressure := pressure.toNat_lt
  have hbucket : (pressure.toNat : ℤ) ∈ buckets ↔
      (pressure = 0 ∨ pressure = 8 ∨ pressure = 12 ∨ pressure = 14) := by
    simp only [buckets, mem_cons, not_mem_nil, or_false, ← UInt64.toNat_inj]
    norm_cast
  have hseqZero : (seq.toNat : ℤ) = 0 ↔ seq = 0 := by
    rw [← UInt32.toNat_inj]
    norm_cast
  have hopZero : (op.toNat : ℤ) = 0 ↔ op = 0 := by
    rw [← UInt32.toNat_inj]
    norm_cast
  unfold predict
  by_cases hempty : name = []
  · refine .inr ⟨fun h => h.1 hempty, ?_⟩
    rw [if_pos (.inl hempty)]
    exact ⟨_, rfl⟩
  · rw [if_neg (not_or.2 ⟨hempty, hname⟩), integer_ok (by omega), integer_ok (by omega),
      integer_ok (by unfold u64Max; omega)]
    by_cases hbad : (seq.toNat : ℤ) = 0 ∨ (op.toNat : ℤ) = 0 ∨ (pressure.toNat : ℤ) ∉ buckets
    · refine .inr ⟨fun h => ?_, ?_⟩
      · rw [hseqZero, hopZero, hbucket] at hbad
        exact hbad.elim h.2.1 fun hbad => hbad.elim h.2.2.1 fun hbad => hbad h.2.2.2
      · simp only [ok_bind, if_pos hbad]
        exact ⟨_, rfl⟩
    · refine .inl ⟨?_, ?_⟩
      · rw [hseqZero, hopZero, hbucket, not_or, not_or, not_not] at hbad
        exact ⟨hempty, hbad⟩
      · simp only [ok_bind, if_neg hbad]

theorem predictLater_related {records : List Row} {seq op pressure : ℤ}
    {pairs : Except Status (List (ℤ × ℤ))}
    (report : Status → String) (h : Same Padded ((List.range (min (op + 4) 8 - op).toNat).mapM fun i : ℕ =>
      futureRow records seq pressure (op + 1 + i)) pairs) :
    Same SameAnswer (predictLater records seq op pressure)
      (match pairs with
        | .error status => .error (report status)
        | .ok pairs => decodeResult (pairs.map Prod.fst) (pairs.map Prod.snd) "bytes") := by
  unfold predictLater
  dsimp only
  generalize ((List.range (min (op + 4) 8 - op).toNat).mapM fun i : ℕ =>
    futureRow records seq pressure (op + 1 + i)) = values at h ⊢
  cases h with
  | error e e' => exact .error _ _
  | @ok values pairs h =>
    obtain ⟨-, hpairs⟩ := h
    have hwss : pairs.map Prod.fst = (values.map fun v => v.1) ++
        List.replicate (4 - (values.map fun v => v.1).length) (-1) := by
      rw [hpairs, map_append, map_map, map_replicate, length_map]
      rfl
    have hfault : pairs.map Prod.snd = (values.map fun v => v.2.1) ++
        List.replicate (4 - (values.map fun v => v.2.1).length) (-1) := by
      rw [hpairs, map_append, map_map, map_replicate, length_map]
      rfl
    simp only [ok_bind]
    rw [hwss, hfault]
    generalize decodeResult _ _ "bytes" = result
    cases result with
    | error e => exact .error _ _
    | ok result => exact .ok ⟨rfl, rfl, rfl, rfl, rfl⟩

theorem code_ne_zero (status : Status) : status.code ≠ 0 := by
  cases status <;> decide

theorem lookupThenDecode_eq (appTables : List WssAppTable) (memory : ℕ → ℤ) (name : List UInt8)
    (seq op : UInt32) (pressure : UInt64) {wss fault : ℕ} (hapart : Apart wss fault) :
    lookupThenDecode appTables memory name seq op pressure wss fault =
      match query appTables (some name) seq op pressure (some wss) (some fault) with
      | .error status => .error s!"get_wss_predictor failed: ret={status.code}"
      | .ok (_, _, pairs) => decodeResult (pairs.map Prod.fst) (pairs.map Prod.snd) "bytes" := by
  unfold lookupThenDecode getWssPredictor
  cases hquery : query appTables (some name) seq op pressure (some wss) (some fault) with
  | error status => exact if_pos (code_ne_zero status)
  | ok answer =>
    have hanswer : answer.1 = wss ∧ answer.2.1 = fault ∧ answer.2.2.length = 4 := by
      unfold query at hquery
      dsimp only at hquery
      split_ifs at hquery
      split at hquery
      · cases hquery
      · split_ifs at hquery
        obtain ⟨pairs, hpairs, hreturn⟩ := bind_eq_ok.1 hquery
        cases hreturn
        exact ⟨rfl, rfl, mapM_length hpairs⟩
    obtain ⟨wss', fault', pairs⟩ := answer
    obtain ⟨rfl, rfl, hlength⟩ := hanswer
    obtain ⟨hwss, hfault⟩ := written_read hapart memory hlength
    dsimp only at hwss hfault ⊢
    rw [hwss, hfault]
    exact if_neg (not_not.2 rfl)

theorem apart_no_overlap {wss fault : ℕ} (h : Apart wss fault) :
    wss ≠ fault ∧ ¬ ((List.range 4).any fun i => (List.range 4).any fun j =>
      wss + i = fault + j) = true := by
  unfold Apart at h
  refine ⟨by omega, ?_⟩
  simp only [any_eq_true, mem_range, decide_eq_true_eq, not_exists, not_and]
  omega

theorem query_eq (library : WssAppTable) {name : List Char} {seq op : UInt32} {pressure : UInt64}
    {wss fault : ℕ} (hapart : Apart wss fault) :
    (Admissible name seq op pressure ∧
      query [library] (some (encodeName name)) seq op pressure (some wss) (some fault) =
        if sameAppName (encodeName name) library.name then
          if library.maxOperation < op then .error .invalidArgument
          else if (findRow library.rows seq pressure.toUInt32 op).isNone then .error .notFound
          else do
            let values ← (List.range 4).mapM (future library seq pressure.toUInt32 op)
            return (wss, fault, values)
        else .error .unsupportedApp) ∨
    ¬ Admissible name seq op pressure ∧ ∃ status,
      query [library] (some (encodeName name)) seq op pressure (some wss) (some fault) =
        .error status := by
  have hempty : encodeName name = [] ↔ name = [] := by
    unfold encodeName
    rw [flatMap_eq_nil_iff]
    constructor
    · intro h
      cases name with
      | nil => rfl
      | cons c name => exact absurd (h c (.head _)) String.utf8EncodeChar_ne_nil
    · rintro rfl
      exact nofun
  obtain ⟨hne, hany⟩ := apart_no_overlap hapart
  have hbad : (encodeName name = [] ∨ wss = fault ∨ seq = 0 ∨ op = 0 ∨
      (pressure ≠ 0 ∧ pressure ≠ 8 ∧ pressure ≠ 12 ∧ pressure ≠ 14)) ↔
      ¬ Admissible name seq op pressure := by
    unfold Admissible
    rw [hempty]
    tauto
  unfold query
  dsimp only
  by_cases hadmissible : Admissible name seq op pressure
  · refine .inl ⟨hadmissible, ?_⟩
    rw [if_neg fun h => hbad.1 h hadmissible, if_neg hany]
    have hfind : findApp [library] (encodeName name) =
        if sameAppName (encodeName name) library.name then some library else none :=
      find?_singleton
    rw [hfind]
    by_cases hname : sameAppName (encodeName name) library.name = true
    · rw [if_pos hname, if_pos hname]
    · rw [if_neg hname, if_neg hname]
  · refine .inr ⟨hadmissible, ?_⟩
    rw [if_pos (hbad.2 hadmissible)]
    exact ⟨_, rfl⟩

/-- The two lookups agree on every call, and a library call that rejects writes nothing. -/
theorem lookups_agree {lower : List Char → List Char} (hlower : LowerCase lower) {table : Table}
    {rows : List Row} (hload : tableOperationLookup table = .ok rows) {library : WssAppTable}
    (happ : library.name = [103, 105, 109, 112]) (hmax : library.maxOperation = 8)
    (hexported : List.Forall₂ Exported table.records library.rows)
    (hsorted : library.rows.Pairwise Before) (memory : ℕ → ℤ) :
    (∀ name, Char.ofNat 0 ∉ name → ∀ seq op pressure wss fault, Apart wss fault →
      Same SameAnswer (predict lower rows name seq.toNat op.toNat pressure.toNat)
        (lookupThenDecode [library] memory (encodeName name) seq op pressure wss fault)) ∧
    ∀ appName seq op pressure wss fault,
      (getWssPredictor [library] memory appName seq op pressure wss fault).1 ≠ 0 →
      (getWssPredictor [library] memory appName seq op pressure wss fault).2 = memory := by
  obtain ⟨rfl, hvalid, hkeyed⟩ := table_loaded hload
  constructor
  · intro name hname seq op pressure wss fault hapart
    rw [lookupThenDecode_eq _ _ _ _ _ _ hapart]
    rcases @predict_eq lower table.records name hname seq op pressure with
      ⟨hadmissible, hpredict⟩ | ⟨hnot, e, hpredict⟩
    · rcases query_eq library hapart with ⟨-, hquery⟩ | ⟨hnot, -⟩
      · have hgimp := gimp_iff hlower name
        rw [← happ] at hgimp
        have hpressure : pressure.toUInt32.toNat = pressure.toNat := by
          obtain ⟨-, -, -, rfl | rfl | rfl | rfl⟩ := hadmissible <;> rfl
        rw [hpredict, hquery, ← hpressure]
        by_cases happName : lower name = "gimp".toList
        · rw [if_neg (not_not.2 happName), if_pos (hgimp.2 happName)]
          have hlarge : 8 < (op.toNat : ℤ) ↔ library.maxOperation < op := by
            rw [hmax, UInt32.lt_iff_toNat_lt]
            change _ ↔ 8 < op.toNat
            omega
          by_cases hop : library.maxOperation < op
          · rw [if_pos (hlarge.2 hop), if_pos hop]
            exact .error _ _
          · rw [if_neg fun h => hop (hlarge.1 h), if_neg hop]
            have hrel := rows_related hkeyed hsorted hexported seq pressure.toUInt32 op
            have hle : op ≤ 8 := hmax ▸ UInt32.not_lt.1 hop
            have hwalks := @walks_related _ hvalid hkeyed library hmax hsorted hexported seq
              pressure.toUInt32 op hle
            generalize lookup Row.key ((seq.toNat : ℤ), (op.toNat : ℤ),
              (pressure.toUInt32.toNat : ℤ)) table.records = current at hrel ⊢
            generalize findRow library.rows seq pressure.toUInt32 op = found at hrel ⊢
            cases hrel with
            | none => exact .error _ _
            | some hrow =>
              have hanswer := predictLater_related (fun status =>
                s!"get_wss_predictor failed: ret={status.code}") hwalks
              simp only [Option.isNone_some, Bool.false_eq_true, if_false]
              generalize (List.range 4).mapM (future library seq pressure.toUInt32 op) = pairs
                at hanswer ⊢
              cases pairs with
              | error status => exact hanswer
              | ok pairs => exact hanswer
        · rw [if_pos happName, if_neg fun h => happName (hgimp.1 h)]
          exact .error _ _
      · exact absurd hadmissible hnot
    · rcases query_eq library hapart with ⟨hadmissible, -⟩ | ⟨-, status, hquery⟩
      · exact absurd hadmissible hnot
      · rw [hpredict, hquery]
        exact .error _ _
  · intro appName seq op pressure wss fault hrejects
    unfold getWssPredictor at hrejects ⊢
    cases hquery : query [library] appName seq op pressure wss fault with
    | error status => rfl
    | ok answer =>
      rw [hquery] at hrejects
      exact absurd rfl hrejects

def exportRow (r : Row) : WssLookupRow where
  listNum := UInt32.ofNat r.sequenceNum.toNat
  pressureGib := UInt32.ofNat r.pressureGib.toNat
  opId := UInt32.ofNat r.opId.toNat
  wss := UInt64.ofNat r.wssBytes.toNat
  pgfault := UInt64.ofNat (r.pagefault.getD 0).toNat
  validMask := if r.pagefault.isSome then 3 else 1

theorem exportRow_exported {r : Row} (h : ValidRow r) : Exported r (exportRow r) := by
  have hsequence := h.sequenceNum
  have hop := h.opId
  have hpressure := h.pressureGib
  have hwss := h.wssBytes
  unfold buckets at hpressure
  unfold i64Max at hwss
  simp only [mem_cons, not_mem_nil, or_false] at hpressure
  constructor
  · change ((UInt32.ofNat r.sequenceNum.toNat).toNat : ℤ) = _
    rw [UInt32.toNat_ofNat']
    omega
  · change ((UInt32.ofNat r.pressureGib.toNat).toNat : ℤ) = _
    rw [UInt32.toNat_ofNat']
    omega
  · change ((UInt32.ofNat r.opId.toNat).toNat : ℤ) = _
    rw [UInt32.toNat_ofNat']
    omega
  · change ((UInt64.ofNat r.wssBytes.toNat).toNat : ℤ) = _
    rw [UInt64.toNat_ofNat']
    omega
  · intro f hf
    have hfault := h.pagefault f hf
    unfold i64Max at hfault
    unfold exportRow
    rw [Option.mem_def.1 hf]
    have hmask : (3 : UInt32) &&& 3 = 3 := by decide
    refine ⟨hmask, ?_⟩
    change ((UInt64.ofNat f.toNat).toNat : ℤ) = f
    rw [UInt64.toNat_ofNat']
    omega
  · intro hnone
    unfold exportRow
    rw [hnone]
    have hmask : (1 : UInt32) &&& 3 ≠ 3 := by decide
    exact hmask

instance : Trans Before Before Before where
  trans {a b c} h h' := by
    unfold Before at *
    simp only [UInt32.lt_iff_toNat_lt, ← UInt32.toNat_inj] at *
    omega

theorem keyed_of_sorted {records : List Row} (h : (records.map exportRow).Pairwise Before) :
    Keyed Row.key records := by
  unfold Keyed
  rw [pairwise_map] at h
  rw [List.Nodup, pairwise_map]
  refine h.imp ?_
  intro a b hbefore hkey
  refine before_irrefl hbefore ?_
  unfold Row.key at hkey
  simp only [Prod.mk.injEq] at hkey
  unfold exportRow
  exact ⟨by rw [hkey.1], by rw [hkey.2.2], by rw [hkey.2.1]⟩

def fullRecords : List Row :=
  (List.range 30).flatMap fun s : ℕ => buckets.flatMap fun p => (List.range 8).map fun o : ℕ =>
    { sequenceNum := s + 1
      opId := o + 1
      pressureGib := p
      wssBytes := 4096 * (o + 1)
      pagefault := if o = 0 then none else some 7
      sourceKind := "MEASURED" }

theorem fullRecords_valid : ∀ r ∈ fullRecords, ValidRow r := by
  intro r hr
  obtain ⟨s, hs, hr⟩ := mem_flatMap.1 hr
  obtain ⟨p, hp, hr⟩ := mem_flatMap.1 hr
  obtain ⟨o, ho, rfl⟩ := mem_map.1 hr
  have hs := mem_range.1 hs
  have ho := mem_range.1 ho
  refine ⟨⟨by dsimp only; omega, by dsimp only; omega⟩, ⟨by dsimp only; omega, by dsimp only; omega⟩,
    hp, ⟨by dsimp only; omega, by unfold i64Max; dsimp only; omega⟩, fun f hf => ?_, .inl rfl⟩
  dsimp only at hf
  split_ifs at hf
  · cases hf
  · cases hf
    decide

theorem fullRecords_sorted : (fullRecords.map exportRow).Pairwise Before := by
  rw [← isChain_iff_pairwise]
  decide +kernel

def fullTable : Table :=
  { schemaVersion := 2, apiVersion := 3, interfaceWssUnit := "bytes", records := fullRecords }

theorem fullTable_loads : tableOperationLookup fullTable = .ok fullRecords := by
  have hkeyed := keyed_of_sorted fullRecords_sorted
  have hload : fullRecords.foldlM loadRow [] = .ok fullRecords :=
    (@loadRows_eq_ok [] _ _ nodup_nil).2 ⟨fullRecords_valid, hkeyed, rfl⟩
  have hlength : fullRecords.length = 960 := by decide +kernel
  unfold tableOperationLookup
  rw [if_neg (by decide)]
  change (fullRecords.foldlM loadRow [] >>= _) = _
  rw [hload, ok_bind, if_neg (not_not.2 hlength)]
  rfl

def gimpTable : WssAppTable :=
  { name := [103, 105, 109, 112], rows := fullRecords.map exportRow, maxOperation := 8 }

/-- `str.lower` on ASCII. -/
def lowerAscii (s : List Char) : List Char := s.map fun c => if c.val < 128 then c.toLower else c

theorem lowerAscii_lowerCase : LowerCase lowerAscii where
  ascii _ h := map_congr_left fun c hc => if_pos (h c hc)
  other _ c hc hother := ⟨c, mem_map.2 ⟨c, hc, if_neg hother⟩, .inr hother⟩

/-- A call for the fifth operation of a sequence. -/
theorem fifth_agrees :
    Same SameAnswer (predict lowerAscii fullRecords "GIMP".toList 3 5 8)
      (lookupThenDecode [gimpTable] (fun _ => 0) (encodeName "GIMP".toList) 3 5 8 100 200) := by
  have hexported : List.Forall₂ Exported fullTable.records gimpTable.rows :=
    forall₂_map_right_iff.2 (forall₂_same.2 fun r hr =>
      exportRow_exported (fullRecords_valid r hr))
  exact (lookups_agree lowerAscii_lowerCase fullTable_loads rfl rfl hexported fullRecords_sorted
    fun _ => 0).1 "GIMP".toList (by decide) 3 5 8 100 200 (.inl (by decide))

end Parp.OperationLookup
