import Mathlib.Data.List.TakeWhile
import Mathlib.Data.Nat.Digits.Lemmas
import Parp.Delimited

set_option autoImplicit false

/-!
# Texts of bytes

Strings as lists of bytes: their words, and numbers in decimal digits.
-/
namespace Parp.ByteText

open List

abbrev Text := List UInt8

def text (s : String) : Text := s.toList.map fun c => UInt8.ofNat c.toNat

/-- `std::isspace`. -/
def isSpace (c : UInt8) : Bool := c = 32 || (9 ≤ c && c ≤ 13)

def isDigit (c : UInt8) : Bool := 48 ≤ c && c ≤ 57

/-- `in >> word`: the next word and what follows it. -/
def word (s : Text) : Option (Text × Text) :=
  let rest := s.dropWhile isSpace
  if rest = [] then none
  else some (rest.takeWhile fun c => !isSpace c, rest.dropWhile fun c => !isSpace c)

/-- At most `n` words. -/
def firstWords : ℕ → Text → List Text
  | 0, _ => []
  | n + 1, s =>
    match word s with
    | none => []
    | some (w, rest) => w :: firstWords n rest

/-- `while(in >> word)`. -/
def words (s : Text) : List Text := firstWords s.length s

/-- A text that `in >> word` reads as a whole. -/
def IsWord (w : Text) : Prop := w ≠ [] ∧ ∀ c ∈ w, isSpace c = false

theorem dropWhile_isSpace {w : Text} (h : IsWord w) (rest : Text) :
    (w ++ rest).dropWhile isSpace = w ++ rest := by
  obtain ⟨hne, hchars⟩ := h
  cases w with
  | nil => exact absurd rfl hne
  | cons c w => rw [cons_append, dropWhile_cons_of_neg (by simp [hchars c (.head _)])]

theorem word_last {w : Text} (h : IsWord w) : word w = some (w, []) := by
  have hdrop := dropWhile_isSpace h []
  rw [append_nil] at hdrop
  have hall : ∀ c ∈ w, (!isSpace c) = true := fun c hc => by simp [h.2 c hc]
  simp only [word, hdrop, if_neg h.1, takeWhile_eq_self_iff.2 hall,
    dropWhile_eq_nil_iff.2 hall]

theorem word_append {w : Text} (h : IsWord w) (rest : Text) :
    word (w ++ 32 :: rest) = some (w, 32 :: rest) := by
  have hall : ∀ c ∈ w, (!isSpace c) = true := fun c hc => by simp [h.2 c hc]
  have hne : w ++ 32 :: rest ≠ [] := append_ne_nil_of_left_ne_nil h.1 _
  simp only [word, dropWhile_isSpace h, if_neg hne]
  rw [takeWhile_append_of_pos hall, dropWhile_append_of_pos hall]
  simp [isSpace]

theorem firstWords_blank (n : ℕ) (s : Text) : firstWords n (32 :: s) = firstWords n s := by
  cases n with
  | zero => rfl
  | succ n => rfl

theorem firstWords_joined {w : Text} (hw : IsWord w) {rest : List Text} (h : ∀ v ∈ rest, IsWord v)
    {n : ℕ} (hn : rest.length < n) :
    firstWords n (w ++ rest.flatMap fun v => 32 :: v) = w :: rest := by
  induction rest generalizing w n with
  | nil =>
    obtain ⟨m, rfl⟩ := Nat.exists_eq_add_of_lt hn
    rw [flatMap_nil, append_nil, firstWords, word_last hw]
    cases m with
    | zero => rfl
    | succ m => rfl
  | cons v rest ih =>
    obtain ⟨m, rfl⟩ : ∃ m, n = m + 1 := ⟨n - 1, by simp at hn; omega⟩
    have hrest := ih (h v (.head _)) (fun u hu => h u (.tail _ hu))
      (show rest.length < m by simpa using hn)
    rw [flatMap_cons, cons_append, firstWords, word_append hw]
    change w :: firstWords m _ = _
    rw [firstWords_blank, hrest]

theorem words_joined {ws : List Text} (h : ∀ w ∈ ws, IsWord w) :
    words (ws.foldl (Delimited.joined 32) []) = ws := by
  cases ws with
  | nil => rfl
  | cons w rest =>
    have hw := h w (.head _)
    have hrest : ∀ v ∈ rest, IsWord v := fun v hv => h v (.tail _ hv)
    rw [foldl_cons, Delimited.joined, if_pos rfl, Delimited.foldl_joined 32 hw.1]
    have hcount (vs : List Text) : vs.length ≤ (vs.flatMap fun v => 32 :: v).length := by
      induction vs with
      | nil => exact Nat.zero_le _
      | cons v vs ih =>
        simp only [flatMap_cons, length_append, length_cons]
        omega
    have hpos := length_pos_of_ne_nil hw.1
    have hrestLength := hcount rest
    exact firstWords_joined hw hrest (by rw [length_append]; omega)

def digit (d : ℕ) : UInt8 := UInt8.ofNat (48 + d)

def digitValue (c : UInt8) : ℕ := c.toNat - 48

def decimal (s : Text) : ℕ := Nat.ofDigits 10 (s.map digitValue).reverse

/-- `std::to_string` of an unsigned number. -/
def toText (n : ℕ) : Text := if n = 0 then [48] else (Nat.digits 10 n).reverse.map digit

theorem digitValue_digit {d : ℕ} (h : d < 10) : digitValue (digit d) = d := by
  interval_cases d <;> rfl

theorem isDigit_digit {d : ℕ} (h : d < 10) : isDigit (digit d) = true := by
  interval_cases d <;> rfl

theorem map_digitValue_digit {ds : List ℕ} (h : ∀ d ∈ ds, d < 10) :
    (ds.map digit).map digitValue = ds := by
  rw [map_map]
  exact (map_congr_left fun d hd => digitValue_digit (h d hd)).trans (map_id' ds)

theorem decimal_toText (n : ℕ) : decimal (toText n) = n := by
  unfold toText decimal
  split_ifs with hzero
  · rw [hzero]
    rfl
  · have hdigits : ∀ d ∈ (Nat.digits 10 n).reverse, d < 10 := fun d hd =>
      Nat.digits_lt_base (by decide) (mem_reverse.1 hd)
    rw [map_digitValue_digit hdigits, reverse_reverse, Nat.ofDigits_digits]

theorem isDigit_toText (n : ℕ) : ∀ c ∈ toText n, isDigit c = true := by
  intro c hc
  unfold toText at hc
  split_ifs at hc with hzero
  · rw [mem_singleton.1 hc]
    rfl
  · obtain ⟨d, hd, rfl⟩ := mem_map.1 hc
    exact isDigit_digit (Nat.digits_lt_base (by decide) (mem_reverse.1 hd))

theorem toText_ne_nil (n : ℕ) : toText n ≠ [] := by
  unfold toText
  split_ifs with hzero
  · exact cons_ne_nil _ _
  · simp [Nat.digits_eq_nil_iff_eq_zero, hzero]

theorem not_isSpace_of_isDigit {c : UInt8} (h : isDigit c = true) : isSpace c = false := by
  simp only [isDigit, isSpace, Bool.and_eq_true, decide_eq_true_eq, UInt8.le_iff_toNat_le] at h ⊢
  obtain ⟨hlow, -⟩ := h
  have h48 : (48 : UInt8).toNat = 48 := rfl
  have h13 : (13 : UInt8).toNat = 13 := rfl
  have hne : c ≠ 32 := by
    rintro rfl
    exact absurd hlow (by decide)
  simp [hne]
  omega

theorem isWord_toText (n : ℕ) : IsWord (toText n) :=
  ⟨toText_ne_nil n, fun c hc => not_isSpace_of_isDigit (isDigit_toText n c hc)⟩

theorem toText_length {n k : ℕ} (hk : 0 < k) (h : n < 10 ^ k) : (toText n).length ≤ k := by
  unfold toText
  split_ifs with hzero
  · exact hk
  · rw [length_map, length_reverse]
    exact (Nat.digits_length_le_iff (by decide) n).2 h

end Parp.ByteText
