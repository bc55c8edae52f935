import ControlFabric.Py.Value

/-! `json.dumps(value, sort_keys=True)`. -/
namespace ControlFabric.Py
open Lib

/-- `\uNNNN`. -/
def unicodeEscape (n : ℕ) : List Char := '\\' :: 'u' :: hex 4 n

/-- One character of a string in JSON, by `ensure_ascii`: what lies outside ASCII is escaped, and what
lies outside the first plane as a surrogate pair. -/
def jsonEscape (c : Char) : List Char :=
  if c = '"' ∨ c = '\\' then ['\\', c]
  else if c = '\n' then ['\\', 'n']
  else if c = '\r' then ['\\', 'r']
  else if c = '\t' then ['\\', 't']
  else if c.toNat = 0x0c then ['\\', 'f']
  else if c.toNat = 0x08 then ['\\', 'b']
  else if 0x20 ≤ c.toNat ∧ c.toNat < 0x7f then [c]
  else if c.toNat < 0x10000 then unicodeEscape c.toNat
  else unicodeEscape (0xd800 + (c.toNat - 0x10000) / 0x400) ++
    unicodeEscape (0xdc00 + (c.toNat - 0x10000) % 0x400)

/-- A string in JSON. -/
def dumpsStr (s : String) : List Char := '"' :: (s.toList.flatMap jsonEscape ++ ['"'])

/-- `[a, b]` and `{a, b}`, of items already written. -/
def dumpsRow (opening closing : Char) (items : List (List Char)) : List Char :=
  opening :: joined id [',', ' '] [closing] items

def dumpsField (p : String × List Char) : List Char := dumpsStr p.1 ++ ':' :: ' ' :: p.2

/-! `str` writes a `float`. -/
section Dumps
variable (str : Json → String)
mutual

def dumps : Json → List Char
  | .null => "null".toList
  | .bool true => "true".toList
  | .bool false => "false".toList
  | .int n => (toString n).toList
  | .float q => (str (.float q)).toList
  | .str s => dumpsStr s
  | .arr items => dumpsRow '[' ']' (dumpsItems items)
  | .obj items => dumpsRow '{' '}'
      (((dumpsValues items).insertionSort fun p q => p.1 ≤ q.1).map dumpsField)

def dumpsItems : List Json → List (List Char)
  | [] => []
  | v :: items => dumps v :: dumpsItems items

def dumpsValues : List (String × Json) → List (String × List Char)
  | [] => []
  | p :: items => (p.1, dumps p.2) :: dumpsValues items

end

theorem dumpsValues_eq (items : List (String × Json)) :
    dumpsValues str items = items.map fun p => (p.1, dumps str p.2) := by
  induction items with
  | nil => rfl
  | cons p items ih => rw [dumpsValues, ih, List.map_cons]

/-- The fields of a dict are written in the order of their keys. -/
theorem dumps_obj_of_perm {items fields : List (String × Json)} (hperm : items.Perm fields)
    (hfields : fields.Pairwise fun p q => p.1 < q.1) : dumps str (.obj items) =
      dumpsRow '{' '}' (fields.map fun p => dumpsField (p.1, dumps str p.2)) := by
  have hkeys : (fields.map Prod.fst).Nodup :=
    List.pairwise_map.mpr (hfields.imp fun h => ne_of_lt h)
  have hsort : (items.map fun p => (p.1, dumps str p.2)).insertionSort (fun p q => p.1 ≤ q.1) =
      fields.map fun p => (p.1, dumps str p.2) := by
    have hsame := (List.perm_insertionSort (fun p q => p.1 ≤ q.1) _).trans
      (hperm.map fun p => (p.1, dumps str p.2))
    apply List.Perm.eq_of_pairwise _ (List.pairwise_insertionSort _ _) _ hsame
    · intro p q hp hq hle hge
      obtain ⟨a, ha, rfl⟩ := List.mem_map.mp (hsame.subset hp)
      obtain ⟨b, hb, rfl⟩ := List.mem_map.mp hq
      rw [List.inj_on_of_nodup_map hkeys ha hb (le_antisymm hle hge)]
    · exact List.pairwise_map.mpr (hfields.imp fun h => le_of_lt h)
  rw [dumps, dumpsValues_eq, hsort, List.map_map]
  rfl

end Dumps

/-! ### Strings are read back -/

private def readUnicode (l : List Char) : ℕ × List Char :=
  (ofNumeral 16 ((l.take 4).map digitVal), l.drop 4)

private theorem readUnicode_hex {n : ℕ} (h : n < 0x10000) (r : List Char) :
    readUnicode (hex 4 n ++ r) = (n, r) := by
  have hlen : (hex 4 n).length = 4 := by simp [hex]
  unfold readUnicode
  rw [List.take_left' hlen, List.drop_left' hlen, ofNumeral_hex h]

/-- Reads one character of a string in JSON back. -/
private def readChar : List Char → Option (Char × List Char)
  | '\\' :: 'u' :: r =>
    let (n, r) := readUnicode r
    if 0xd800 ≤ n ∧ n < 0xdc00 then
      let (m, r) := readUnicode (r.drop 2)
      some (Char.ofNat (0x10000 + (n - 0xd800) * 0x400 + (m - 0xdc00)), r)
    else some (Char.ofNat n, r)
  | '\\' :: c :: r =>
    if c = 'n' then some ('\n', r)
    else if c = 'r' then some ('\r', r)
    else if c = 't' then some ('\t', r)
    else if c = 'f' then some (Char.ofNat 0x0c, r)
    else if c = 'b' then some (Char.ofNat 0x08, r)
    else some (c, r)
  | c :: r => some (c, r)
  | [] => none

private theorem readChar_plain {c : Char} (h : c ≠ '\\') (r : List Char) :
    readChar (c :: r) = some (c, r) := by
  unfold readChar
  split <;> simp_all

private theorem readChar_unicodeEscape {c : Char} (hplane : c.toNat < 0x10000) (r : List Char) :
    readChar (unicodeEscape c.toNat ++ r) = some (c, r) := by
  have hvalid := c.valid
  have hnot : ¬ (0xd800 ≤ c.toNat ∧ c.toNat < 0xdc00) := by
    simp only [UInt32.isValidChar, Nat.isValidChar] at hvalid
    change _ ∨ _ at hvalid
    show ¬ (0xd800 ≤ c.val.toNat ∧ c.val.toNat < 0xdc00)
    omega
  simp only [unicodeEscape, List.cons_append, readChar, readUnicode_hex hplane, hnot, if_false,
    Char.ofNat_toNat]

private theorem readChar_surrogates {c : Char} (hplane : 0x10000 ≤ c.toNat) (r : List Char) :
    readChar (unicodeEscape (0xd800 + (c.toNat - 0x10000) / 0x400) ++
      unicodeEscape (0xdc00 + (c.toNat - 0x10000) % 0x400) ++ r) = some (c, r) := by
  have hlt := char_lt c
  have hhigh : 0xd800 + (c.toNat - 0x10000) / 0x400 < 0xdc00 := by omega
  have hlow : 0xdc00 + (c.toNat - 0x10000) % 0x400 < 0x10000 := by omega
  have hjoin : 0x10000 + (0xd800 + (c.toNat - 0x10000) / 0x400 - 0xd800) * 0x400 +
      (0xdc00 + (c.toNat - 0x10000) % 0x400 - 0xdc00) = c.toNat := by omega
  simp only [unicodeEscape, List.cons_append, List.append_assoc, readChar,
    readUnicode_hex (hhigh.trans (by omega)), hhigh, Nat.le_add_right, and_self, if_true,
    List.drop_succ_cons, List.drop_zero, readUnicode_hex hlow, hjoin, Char.ofNat_toNat]

private theorem readChar_jsonEscape (c : Char) (r : List Char) :
    readChar (jsonEscape c ++ r) = some (c, r) := by
  unfold jsonEscape
  split_ifs with hquote hn hr ht hf hb hplain hplane
  · rcases hquote with rfl | rfl <;> rfl
  · subst hn; rfl
  · subst hr; rfl
  · subst ht; rfl
  · rw [← Char.ofNat_toNat c, hf]; rfl
  · rw [← Char.ofNat_toNat c, hb]; rfl
  · exact readChar_plain (fun h => hquote (Or.inr h)) r
  · exact readChar_unicodeEscape hplane r
  · exact readChar_surrogates (by omega) r

private theorem jsonEscape_head (c : Char) (r s : List Char) :
    jsonEscape c ++ r ≠ ['"'] ++ s := by
  intro h
  have hread := readChar_jsonEscape c r
  rw [h] at hread
  have hc : '"' = c := (Prod.mk.inj (Option.some.inj hread)).1
  rw [← hc] at h
  exact absurd (List.cons.inj h).1 (by decide)

theorem dumpsStr_selfDelimiting : SelfDelimiting dumpsStr := by
  have hbody : SelfDelimiting fun l : List Char => l.flatMap jsonEscape ++ ['"'] :=
    flatMap_selfDelimiting (selfDelimiting_of_decoder readChar readChar_jsonEscape) jsonEscape_head
  intro a b r s h
  simp only [dumpsStr, List.cons_append, List.cons.injEq, true_and] at h
  obtain ⟨hab, hrs⟩ := hbody _ _ _ _ h
  exact ⟨String.ext hab, hrs⟩

/-! ### A field of a dict is read back -/

/-- What stands before an item in a row depends on the items before it only. -/
private theorem joined_split {β : Type} (sep stop : List β) (before : List (List β)) :
    ∃ leading, ∀ x after, joined id sep stop (before ++ x :: after) =
      leading ++ (x ++ joined.tail id sep stop after) := by
  have htail (l : List (List β)) : ∃ leading, ∀ x after,
      joined.tail id sep stop (l ++ x :: after) =
        leading ++ (x ++ joined.tail id sep stop after) := by
    induction l with
    | nil => exact ⟨sep, fun x after => by simp [joined.tail]⟩
    | cons y l ih =>
      obtain ⟨leading, ih⟩ := ih
      exact ⟨sep ++ y ++ leading, fun x after => by simp [joined.tail, ih]⟩
  cases before with
  | nil => exact ⟨[], fun x after => rfl⟩
  | cons y l =>
    obtain ⟨leading, hleading⟩ := htail l
    exact ⟨y ++ leading, fun x after => by simp [joined, hleading]⟩

/-- Dicts written alike that have the same fields before a key hold the same string under it. -/
theorem str_field_inj {str : Json → String} {items items' b after after' : List (String × Json)}
    {key s t : String} (hperm : items.Perm (b ++ (key, .str s) :: after))
    (hsorted : (b ++ (key, .str s) :: after).Pairwise fun p q => p.1 < q.1)
    (hperm' : items'.Perm (b ++ (key, .str t) :: after'))
    (hsorted' : (b ++ (key, .str t) :: after').Pairwise fun p q => p.1 < q.1)
    (h : dumps str (.obj items) = dumps str (.obj items')) : s = t := by
  obtain ⟨leading, hleading⟩ := joined_split [',', ' '] ['}']
    (b.map fun p => dumpsField (p.1, dumps str p.2))
  rw [dumps_obj_of_perm str hperm hsorted, dumps_obj_of_perm str hperm' hsorted', dumpsRow, dumpsRow,
    List.map_append, List.map_append, List.map_cons, List.map_cons, hleading, hleading] at h
  have hrest := List.append_cancel_left (List.cons.inj h).2
  simp only [dumpsField, List.append_assoc, List.cons_append, List.append_cancel_left_eq,
    List.cons.injEq, true_and, dumps] at hrest
  exact (dumpsStr_selfDelimiting _ _ _ _ hrest).1

end ControlFabric.Py
