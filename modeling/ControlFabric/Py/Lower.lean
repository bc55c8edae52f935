import Mathlib.Data.List.Infix
import Mathlib.Tactic

/-! `str.lower`, and the occurrence of a word in a text that was lowered. Only a sigma is lowered by
what stands around it, so that a word without one is found in a text as it is in its parts. -/
namespace ControlFabric.Py

section Infix
variable {α : Type*} {word l r : List α}

/-- A word does not reach over what is not in it. -/
theorem infix_append_cons_iff {c : α} (hc : c ∉ word) :
    word <:+: l ++ c :: r ↔ word <:+: l ∨ word <:+: r := by
  constructor
  · intro h
    rcases List.infix_append_iff_ne_nil.mp h with hleft | hright | ⟨p, s, -, hs, rfl, -, hprefix⟩
    · exact Or.inl hleft
    · rcases List.infix_cons_iff.mp hright with hprefix | hinfix
      · cases word with
        | nil => exact Or.inl List.nil_infix
        | cons a word =>
          obtain ⟨rfl, -⟩ := List.cons_prefix_cons.mp hprefix
          exact absurd List.mem_cons_self hc
      · exact Or.inr hinfix
    · cases s with
      | nil => exact absurd rfl hs
      | cons a s =>
        obtain ⟨rfl, -⟩ := List.cons_prefix_cons.mp hprefix
        exact absurd (List.mem_append_right p List.mem_cons_self) hc
  · rintro (h | h)
    · exact h.trans (List.prefix_append l _).isInfix
    · exact h.trans ((List.suffix_cons c r).trans (List.suffix_append l _)).isInfix

/-- A word is found through a map that changes no letter of the word and makes none. -/
theorem infix_map_iff {f : α → α} (hkeep : ∀ a ∈ word, f a = a) (hmake : ∀ a, f a ∈ word → f a = a) :
    word <:+: l.map f ↔ word <:+: l := by
  have hword : word.map f = word := (List.map_congr_left hkeep).trans (List.map_id word)
  constructor
  · rintro ⟨before, after, h⟩
    obtain ⟨l', after', rfl, hl', -⟩ := List.map_eq_append_iff.mp h.symm
    obtain ⟨before', word', rfl, -, hword'⟩ := List.map_eq_append_iff.mp hl'
    have hsame : word' = word := by
      have hkept : ∀ a ∈ word', f a = a := fun a ha =>
        hmake a (hword' ▸ List.mem_map_of_mem ha)
      rw [← hword', List.map_congr_left hkept, List.map_id']
    exact ⟨before', after', by rw [hsame]⟩
  · intro h
    have hmap := h.map f
    rwa [hword] at hmap

end Infix

/-- The Unicode database, as `str.lower` consults it. -/
structure Casing where
  /-- The full lower-case mapping of a character outside ASCII. -/
  lowerChar : Char → List Char
  /-- The property `Cased`. -/
  cased : Char → Bool
  /-- The property `Case_Ignorable`. -/
  caseIgnorable : Char → Bool

/-- No letters outside ASCII. -/
def Casing.ascii : Casing where
  lowerChar c := [c]
  cased c := c.isAlpha
  caseIgnorable c := c ∈ ['\'', '.', ':', '^', Char.ofNat 96]

section Lower
variable (uc : Casing)

/-- A sigma stands at the end of a word: a cased letter is before it and none behind it. -/
def finalSigma (before after : List Char) : Bool :=
  (before.dropWhile uc.caseIgnorable).head?.any uc.cased &&
    !(after.dropWhile uc.caseIgnorable).head?.any uc.cased

/-- A character in lower case, behind these (the last one first) and before those. -/
def lowerAt (before : List Char) (c : Char) (after : List Char) : List Char :=
  if c.toNat < 128 then [c.toLower]
  else if c = 'Σ' then if finalSigma uc before after then ['ς'] else ['σ']
  else uc.lowerChar c

def lowerFrom (before : List Char) : List Char → List Char
  | [] => []
  | c :: after => lowerAt uc before c after ++ lowerFrom (c :: before) after

/-- `text.lower()`. -/
def lower (text : String) : String := String.ofList (lowerFrom uc [] text.toList)

/-- `part in text`. -/
def occursIn (part text : String) : Bool := part.toList <:+: text.toList

/-- The two small sigmas made one. -/
def foldSigma (c : Char) : Char := if c = 'ς' then 'σ' else c

theorem map_foldSigma_lowerAt (before : List Char) (c : Char) (after : List Char) :
    (lowerAt uc before c after).map foldSigma = (lowerAt uc [] c []).map foldSigma := by
  unfold lowerAt
  split
  · rfl
  · split
    · split <;> split <;> rfl
    · rfl

/-- But for the two sigmas, a text is lowered character by character. -/
theorem map_foldSigma_lowerFrom (before text : List Char) :
    (lowerFrom uc before text).map foldSigma =
      (text.flatMap fun c => lowerAt uc [] c []).map foldSigma := by
  induction text generalizing before with
  | nil => rfl
  | cons c text ih =>
    rw [lowerFrom, List.flatMap_cons, List.map_append, List.map_append, map_foldSigma_lowerAt, ih]

variable {word : List Char}

theorem infix_map_foldSigma (hfinal : 'ς' ∉ word) (hsigma : 'σ' ∉ word) {text : List Char} :
    word <:+: text.map foldSigma ↔ word <:+: text := by
  apply infix_map_iff
  · intro c hc
    have hne : c ≠ 'ς' := fun h => hfinal (h ▸ hc)
    exact if_neg hne
  · intro c hc
    by_cases hfold : c = 'ς'
    · rw [foldSigma, if_pos hfold] at hc
      exact absurd hc hsigma
    · exact if_neg hfold

theorem infix_lowerFrom (hfinal : 'ς' ∉ word) (hsigma : 'σ' ∉ word) (before text : List Char) :
    word <:+: lowerFrom uc before text ↔ word <:+: text.flatMap fun c => lowerAt uc [] c [] := by
  rw [← infix_map_foldSigma hfinal hsigma, map_foldSigma_lowerFrom, infix_map_foldSigma hfinal hsigma]

def Ascii (text : List Char) : Prop := ∀ c ∈ text, c.toNat < 128

instance (text : List Char) : Decidable (Ascii text) := List.decidableBAll _ text

/-- An ASCII text is lowered letter by letter. -/
theorem lowerFrom_ascii_append {text : List Char} (h : Ascii text)
    (before rest : List Char) : lowerFrom uc before (text ++ rest) =
      text.map Char.toLower ++ lowerFrom uc (text.reverse ++ before) rest := by
  induction text generalizing before with
  | nil => rfl
  | cons c text ih =>
    have hc : lowerAt uc before c (text ++ rest) = [c.toLower] := if_pos (h c List.mem_cons_self)
    rw [List.cons_append, lowerFrom, hc, ih fun d hd => h d (List.mem_cons_of_mem _ hd)]
    simp

theorem lowerFrom_ascii {text : List Char} (h : Ascii text) (before : List Char) :
    lowerFrom uc before text = text.map Char.toLower := by
  have happend := lowerFrom_ascii_append uc h before []
  rwa [List.append_nil, lowerFrom, List.append_nil] at happend

/-- A word occurs in what is quoted between two texts in ASCII, or in one of these. -/
theorem infix_lower_quoted (hfinal : 'ς' ∉ word) (hsigma : 'σ' ∉ word) {left right : Char}
    (hleft : left.toNat < 128 ∧ left.toLower ∉ word)
    (hright : right.toNat < 128 ∧ right.toLower ∉ word) (text : List Char) {opening closing : List Char}
    (hopening : Ascii opening) :
    word <:+: lowerFrom uc [] (opening ++ left :: (text ++ right :: closing)) ↔
      word <:+: opening.map Char.toLower ∨ word <:+: lowerFrom uc [] text ∨
        word <:+: lowerFrom uc [] closing := by
  have hat {c : Char} (hc : c.toNat < 128) : lowerAt uc [] c [] = [c.toLower] := if_pos hc
  rw [← lowerFrom_ascii uc hopening []]
  simp only [infix_lowerFrom uc hfinal hsigma, List.flatMap_append, List.flatMap_cons,
    hat hleft.1, hat hright.1, List.singleton_append, infix_append_cons_iff hleft.2,
    infix_append_cons_iff hright.2]

end Lower
end ControlFabric.Py
