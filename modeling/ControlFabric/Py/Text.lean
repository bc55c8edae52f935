import ControlFabric.Lib.Code
import Mathlib.Data.List.Sort
import Mathlib.Data.String.Basic

/-! How Python writes integers, strings and lists of strings into an f-string. -/
namespace ControlFabric.Py
open Lib

/-- `%0wd`: a number below `10 ^ w`, padded with zeros. -/
def decimal (w n : ℕ) : List Char := (numeral 10 w n).map Nat.digitChar

/-- A number below `16 ^ w` in lower-case hexadecimal, padded with zeros. -/
def hex (w n : ℕ) : List Char := (numeral 16 w n).map Nat.digitChar

def digitVal (c : Char) : ℕ :=
  if c.toNat ≤ '9'.toNat then c.toNat - '0'.toNat else c.toNat - 'a'.toNat + 10

theorem digitVal_digitChar : ∀ d < 16, digitVal (Nat.digitChar d) = d := by decide

private theorem map_digitVal_digitChar {base : ℕ} (h0 : 0 < base) (h : base ≤ 16) (w n : ℕ) :
    ((numeral base w n).map Nat.digitChar).map digitVal = numeral base w n := by
  rw [List.map_map]
  conv_rhs => rw [← List.map_id (numeral base w n)]
  apply List.map_congr_left
  intro d hd
  exact digitVal_digitChar d ((numeral_lt h0 w n d hd).trans_le h)

@[simp] theorem decimal_length (w n : ℕ) : (decimal w n).length = w := by simp [decimal]

theorem decimal_inj {w n m : ℕ} (hn : n < 10 ^ w) (hm : m < 10 ^ w)
    (h : decimal w n = decimal w m) : n = m := by
  have hd := congrArg (List.map digitVal) h
  rw [decimal, decimal, map_digitVal_digitChar (by omega) (by omega),
    map_digitVal_digitChar (by omega) (by omega)] at hd
  exact numeral_inj hn hm hd

theorem hex_inj {w n m : ℕ} (hn : n < 16 ^ w) (hm : m < 16 ^ w) (h : hex w n = hex w m) :
    n = m := by
  have hd := congrArg (List.map digitVal) h
  rw [hex, hex, map_digitVal_digitChar (by omega) (by omega),
    map_digitVal_digitChar (by omega) (by omega)] at hd
  exact numeral_inj hn hm hd

theorem ofNumeral_hex {w n : ℕ} (h : n < 16 ^ w) :
    ofNumeral 16 ((hex w n).map digitVal) = n := by
  rw [hex, map_digitVal_digitChar (by omega) (by omega), ofNumeral_numeral h]

theorem ofNumeral_decimal {w n : ℕ} (h : n < 10 ^ w) :
    ofNumeral 10 ((decimal w n).map digitVal) = n := by
  rw [decimal, map_digitVal_digitChar (by omega) (by omega), ofNumeral_numeral h]

theorem hex_digit (w n : ℕ) : ∀ c ∈ hex w n, c ∈ "0123456789abcdef".toList := by
  intro c hc
  obtain ⟨d, hd, rfl⟩ := List.mem_map.mp hc
  have hall : ∀ d < 16, Nat.digitChar d ∈ "0123456789abcdef".toList := by decide
  exact hall d (numeral_lt (by omega) w n d hd)

theorem decimal_digit (w n : ℕ) : ∀ c ∈ decimal w n, c ∈ "0123456789".toList := by
  intro c hc
  obtain ⟨d, hd, rfl⟩ := List.mem_map.mp hc
  have hall : ∀ d < 10, Nat.digitChar d ∈ "0123456789".toList := by decide
  exact hall d (numeral_lt (by omega) w n d hd)

theorem decimal_not_mem {c : Char} (hc : c ∉ "0123456789".toList) (w n : ℕ) :
    c ∉ decimal w n := fun h => hc (decimal_digit w n c h)

/-- The characters `str` of an integer is written with. -/
def IsIntChar (c : Char) : Prop := c.isDigit ∨ c = '-'

theorem int_chars (n : ℤ) : ∀ c ∈ (toString n).toList, IsIntChar c := by
  intro c hc
  cases n with
  | ofNat m =>
    have hm : (toString (Int.ofNat m)).toList = Nat.toDigits 10 m := by
      simp [toString, Int.repr, Nat.repr]
    rw [hm] at hc
    exact Or.inl (Nat.isDigit_of_mem_toDigits (by omega) (by omega) hc)
  | negSucc m =>
    have hm : (toString (Int.negSucc m)).toList = '-' :: Nat.toDigits 10 (m + 1) := by
      simp [toString, Int.repr, Nat.repr]
    rw [hm] at hc
    rcases List.mem_cons.mp hc with rfl | hc
    · exact Or.inr rfl
    · exact Or.inl (Nat.isDigit_of_mem_toDigits (by omega) (by omega) hc)

/-- The character between the backslash and the hexadecimal digits of an escape, and the number of
digits: `\xNN`, `\uNNNN` or `\UNNNNNNNN`. -/
def escapeWidth (c : Char) : Char × ℕ :=
  if c.toNat < 0x100 then ('x', 2) else if c.toNat < 0x10000 then ('u', 4) else ('U', 8)

section Repr
variable (isPrintable : Char → Bool)

/-- One character of `repr` of a string delimited by `q`. ASCII is decided by the code point, the
rest by the Unicode database behind `str.isprintable`. -/
def escape (q c : Char) : List Char :=
  if c = q ∨ c = '\\' then ['\\', c]
  else if c = '\t' then ['\\', 't']
  else if c = '\n' then ['\\', 'n']
  else if c = '\r' then ['\\', 'r']
  else if 0x20 ≤ c.toNat ∧ c.toNat < 0x7f ∨ 0x7f < c.toNat ∧ isPrintable c then [c]
  else '\\' :: (escapeWidth c).1 :: hex (escapeWidth c).2 c.toNat

/-- Single quotes, unless the string holds one and no double quote. -/
def quoteOf (s : String) : Char := if '\'' ∈ s.toList ∧ '"' ∉ s.toList then '"' else '\''

/-- `repr(s)` of a string. -/
def reprStr (s : String) : List Char :=
  quoteOf s :: (s.toList.flatMap (escape isPrintable (quoteOf s)) ++ [quoteOf s])

/-- `repr(l)` of a list of strings. -/
def reprList (l : List String) : String :=
  String.ofList ('[' :: joined (reprStr isPrintable) [',', ' '] [']'] l)

end Repr

private def readHex (w : ℕ) (l : List Char) : Char × List Char :=
  (Char.ofNat (ofNumeral 16 ((l.take w).map digitVal)), l.drop w)

private theorem readHex_hex {w : ℕ} {c : Char} (h : c.toNat < 16 ^ w) (r : List Char) :
    readHex w (hex w c.toNat ++ r) = (c, r) := by
  have hlen : (hex w c.toNat).length = w := by simp [hex]
  unfold readHex
  rw [List.take_left' hlen, List.drop_left' hlen, ofNumeral_hex h, Char.ofNat_toNat]

/-- Reads one escaped character back. -/
private def unescape : List Char → Option (Char × List Char)
  | '\\' :: c :: r =>
    if c = 't' then some ('\t', r)
    else if c = 'n' then some ('\n', r)
    else if c = 'r' then some ('\r', r)
    else if c = 'x' then some (readHex 2 r)
    else if c = 'u' then some (readHex 4 r)
    else if c = 'U' then some (readHex 8 r)
    else some (c, r)
  | c :: r => some (c, r)
  | [] => none

private theorem unescape_plain {c : Char} (h : c ≠ '\\') (r : List Char) :
    unescape (c :: r) = some (c, r) := by
  unfold unescape
  split <;> simp_all

theorem char_lt (c : Char) : c.toNat < 0x110000 := by
  have h := c.valid
  simp only [UInt32.isValidChar, Nat.isValidChar] at h
  change c.val.toNat < _
  omega

private theorem unescape_escape (isPrintable : Char → Bool) {q : Char} (hq : q = '\'' ∨ q = '"')
    (c : Char) (r : List Char) : unescape (escape isPrintable q c ++ r) = some (c, r) := by
  unfold escape
  split_ifs with hquote ht hn hr hplain
  · rcases hquote with rfl | rfl
    · rcases hq with rfl | rfl <;> rfl
    · rfl
  · subst ht; rfl
  · subst hn; rfl
  · subst hr; rfl
  · exact unescape_plain (fun h => hquote (Or.inr h)) r
  · unfold escapeWidth
    split_ifs with hx hu
    · simpa [unescape] using readHex_hex (w := 2) (by omega) r
    · simpa [unescape] using readHex_hex (w := 4) (by omega) r
    · simpa [unescape] using readHex_hex (w := 8) (by have := char_lt c; omega) r

private theorem escape_head (isPrintable : Char → Bool) {q c d : Char} {l : List Char}
    (hq : q ≠ '\\') (h : escape isPrintable q c = d :: l) : d ≠ q := by
  unfold escape at h
  split_ifs at h with hquote ht hn hr hplain <;> grind

private theorem escape_ne_nil (isPrintable : Char → Bool) (q c : Char) :
    escape isPrintable q c ≠ [] := by
  unfold escape
  split_ifs <;> simp

private theorem quoteOf_cases (s : String) : quoteOf s = '\'' ∨ quoteOf s = '"' := by
  unfold quoteOf
  split
  · exact Or.inr rfl
  · exact Or.inl rfl

theorem reprStr_selfDelimiting (isPrintable : Char → Bool) :
    SelfDelimiting (reprStr isPrintable) := by
  intro a b r s h
  simp only [reprStr, List.cons_append, List.cons.injEq] at h
  obtain ⟨hq, h⟩ := h
  rw [hq] at h
  have hquote := quoteOf_cases b
  have hbody : SelfDelimiting (fun l : List Char =>
      l.flatMap (escape isPrintable (quoteOf b)) ++ [quoteOf b]) := by
    apply flatMap_selfDelimiting
    · exact selfDelimiting_of_decoder unescape (unescape_escape isPrintable hquote)
    · intro c r' s' he
      cases hc : escape isPrintable (quoteOf b) c with
      | nil => exact escape_ne_nil isPrintable _ c hc
      | cons d l =>
        rw [hc] at he
        have hne : quoteOf b ≠ '\\' := by rcases hquote with h | h <;> rw [h] <;> decide
        exact escape_head isPrintable hne hc (List.cons.inj he).1
  obtain ⟨hab, hrs⟩ := hbody _ _ _ _ h
  exact ⟨String.ext hab, hrs⟩

theorem reprList_selfDelimiting (isPrintable : Char → Bool) :
    SelfDelimiting (fun l => (reprList isPrintable l).toList) := by
  have hjoined : SelfDelimiting (joined (reprStr isPrintable) [',', ' '] [']']) := by
    apply joined_selfDelimiting (reprStr_selfDelimiting isPrintable)
    · simp
    · intro a r s h
      have hhead := (List.cons.inj h).1
      rcases quoteOf_cases a with hq | hq <;> rw [hq] at hhead <;> exact absurd hhead (by decide)
  intro a b r s h
  simp only [reprList, String.toList_ofList, List.cons_append, List.cons.injEq, true_and] at h
  exact hjoined a b r s h

/-- `sorted(l)` of a list of strings. -/
def sorted (l : List String) : List String := l.insertionSort (· ≤ ·)

theorem sorted_eq_iff {l m : List String} : sorted l = sorted m ↔ l.Perm m := by
  constructor
  · intro h
    calc l.Perm (sorted l) := (List.perm_insertionSort _ l).symm
      _ = sorted m := h
      List.Perm _ m := List.perm_insertionSort _ m
  · intro h
    apply List.Perm.eq_of_pairwise (fun a b _ _ (hab : a ≤ b) (hba : b ≤ a) => le_antisymm hab hba)
      (List.pairwise_insertionSort _ l) (List.pairwise_insertionSort _ m)
    exact ((List.perm_insertionSort _ l).trans h).trans (List.perm_insertionSort _ m).symm

end ControlFabric.Py
