import ControlFabric.Py.Value

/-! Numbers and their texts: `str.split` at its first separator, `int` of a text, and `round`, to the
nearest and at a tie to the even. -/
namespace ControlFabric.Py

/-- The Unicode database outside ASCII. -/
structure Unicode where
  /-- `str.isspace` -/
  isSpace : Char → Bool
  /-- `unicodedata.decimal` -/
  decimal : Char → Option ℕ

/-- No spaces and no digits outside ASCII. -/
def Unicode.ascii : Unicode := ⟨fun _ => false, fun _ => none⟩

/-- The text before and behind the first occurrence of the separator. -/
def breakOn (sep : List Char) : List Char → Option (List Char × List Char)
  | [] => none
  | c :: r =>
    if sep.isPrefixOf (c :: r) then some ([], (c :: r).drop sep.length)
    else (breakOn sep r).map fun p => (c :: p.1, p.2)

section Int
variable (uc : Unicode)

def isSpace (c : Char) : Bool :=
  if c.toNat < 128 then (9 ≤ c.toNat ∧ c.toNat ≤ 13) ∨ c.toNat = 32 else uc.isSpace c

def decimalValue (c : Char) : Option ℕ :=
  if c.toNat < 128 then if c.isDigit then some (c.toNat - '0'.toNat) else none else uc.decimal c

/-- The most digits `int` takes from a text. -/
def maxStrDigits : ℕ := 4300

def strip (text : List Char) : List Char :=
  ((text.dropWhile (isSpace uc)).reverse.dropWhile (isSpace uc)).reverse

/-- `int(text)` of a text without underscores, `none` for a `ValueError`. -/
def int? (text : List Char) : Option ℤ :=
  let signed : ℤ × List Char :=
    match strip uc text with
    | '-' :: r => (-1, r)
    | '+' :: r => (1, r)
    | r => (1, r)
  if signed.2 = [] ∨ maxStrDigits < signed.2.length then none
  else (signed.2.mapM (decimalValue uc)).map fun ds =>
    signed.1 * (ds.foldl (fun n d => 10 * n + d) 0 : ℕ)

end Int

/-- `str.isspace`, which holds of four separators in ASCII that `int` does not skip. -/
def isStrSpace (uc : Unicode) (c : Char) : Bool :=
  isSpace uc c ∨ 28 ≤ c.toNat ∧ c.toNat ≤ 31

/-- `text.strip()`. -/
def strStrip (uc : Unicode) (text : List Char) : List Char :=
  ((text.dropWhile (isStrSpace uc)).reverse.dropWhile (isStrSpace uc)).reverse

def roundHalfEven (q : ℚ) : ℤ :=
  let r := q - q.floor
  if r < 1 / 2 ∨ r = 1 / 2 ∧ q.floor % 2 = 0 then q.floor else q.floor + 1

/-- `f"{x:.2f}"`. -/
def fixed2 (q : ℚ) : String :=
  let n := (roundHalfEven (|q| * 100)).natAbs
  (if q < 0 then "-" else "") ++ toString (n / 100) ++ "." ++ String.ofList (decimal 2 (n % 100))

/-! ### Rounding -/

section Rounding
variable {q q' : ℚ} {n : ℤ} {digits : ℕ}

/-- `round(q, digits)`, in exact arithmetic. -/
def roundDigits (q : ℚ) (digits : ℕ) : ℚ := roundHalfEven (q * 10 ^ digits) / 10 ^ digits

theorem le_roundHalfEven_iff :
    n ≤ roundHalfEven q ↔ (n - 1 / 2 : ℚ) < q ∨ (n - 1 / 2 : ℚ) = q ∧ n % 2 = 0 := by
  have hfloor : (q.floor : ℚ) ≤ q := Int.floor_le q
  have hceil : q < q.floor + 1 := Int.lt_floor_add_one q
  unfold roundHalfEven
  dsimp only
  rcases lt_trichotomy n (q.floor + 1) with hn | rfl | hn
  · have hn' : (n : ℚ) ≤ q.floor := by exact_mod_cast Int.lt_add_one_iff.mp hn
    refine iff_of_true ?_ (Or.inl (by linarith))
    split <;> omega
  · push_cast
    constructor
    · intro h
      split at h
      · omega
      · next hup =>
        rcases lt_trichotomy (q - q.floor) (1 / 2) with hlt | heq | hgt
        · exact absurd (Or.inl hlt) hup
        · have hodd : ¬ q.floor % 2 = 0 := fun heven => hup (Or.inr ⟨heq, heven⟩)
          exact Or.inr ⟨by linarith, by omega⟩
        · exact Or.inl (by linarith)
    · intro h
      rw [if_neg]
      rintro (hlt | ⟨heq, heven⟩)
      · rcases h with h | ⟨h, -⟩ <;> linarith
      · rcases h with h | ⟨-, h⟩
        · linarith
        · omega
  · have hn' : (q.floor + 2 : ℚ) ≤ n := by exact_mod_cast (by omega : q.floor + 2 ≤ n)
    refine iff_of_false ?_ ?_
    · split <;> omega
    · rintro (h | ⟨h, -⟩) <;> linarith

theorem roundHalfEven_mono (h : q ≤ q') : roundHalfEven q ≤ roundHalfEven q' := by
  have hq := le_roundHalfEven_iff.mp (le_refl (roundHalfEven q))
  apply le_roundHalfEven_iff.mpr
  rcases hq with hlt | ⟨heq, heven⟩
  · exact Or.inl (hlt.trans_le h)
  · rcases h.lt_or_eq with hlt | hsame
    · exact Or.inl (heq.trans_lt hlt)
    · exact Or.inr ⟨heq.trans hsame, heven⟩

/-- An even bound from below. -/
theorem le_roundHalfEven_iff_of_even (hn : n % 2 = 0) :
    n ≤ roundHalfEven q ↔ (n - 1 / 2 : ℚ) ≤ q := by
  rw [le_roundHalfEven_iff, le_iff_lt_or_eq, and_iff_left hn]

/-- An even bound from above. -/
theorem roundHalfEven_le_iff_of_even (hn : n % 2 = 0) :
    roundHalfEven q ≤ n ↔ q ≤ (n + 1 / 2 : ℚ) := by
  have hodd : ¬ (n + 1) % 2 = 0 := by omega
  rw [← Int.lt_add_one_iff, ← not_le, le_roundHalfEven_iff]
  push_cast
  constructor
  · intro h
    by_contra hlt
    exact h (Or.inl (by linarith))
  · rintro h (hlt | ⟨-, heven⟩)
    · linarith
    · exact hodd heven

theorem roundHalfEven_intCast (n : ℤ) : roundHalfEven n = n := by
  have hfloor : (n : ℚ).floor = n := Rat.floor_intCast n
  unfold roundHalfEven
  simp [hfloor]

theorem roundDigits_mono (h : q ≤ q') : roundDigits q digits ≤ roundDigits q' digits := by
  have hscaled : q * 10 ^ digits ≤ q' * 10 ^ digits := by gcongr
  unfold roundDigits
  gcongr
  exact_mod_cast roundHalfEven_mono hscaled

/-- Up to half of the last digit nothing is left. -/
theorem roundDigits_nonpos_iff : roundDigits q digits ≤ 0 ↔ q * 10 ^ digits ≤ 1 / 2 := by
  have hscaled : roundHalfEven (q * 10 ^ digits) ≤ 0 ↔ q * 10 ^ digits ≤ ((0 : ℤ) + 1 / 2 : ℚ) :=
    roundHalfEven_le_iff_of_even rfl
  rw [roundDigits, div_le_iff₀ (by positivity), zero_mul, ← Int.cast_zero, Int.cast_le, hscaled]
  simp

theorem roundDigits_intCast (n : ℤ) : roundDigits n digits = n := by
  have hscaled : (n : ℚ) * 10 ^ digits = ((n * 10 ^ digits : ℤ) : ℚ) := by push_cast; rfl
  unfold roundDigits
  rw [hscaled, roundHalfEven_intCast]
  push_cast
  field_simp

theorem roundDigits_zero : roundDigits 0 digits = 0 := by
  exact_mod_cast @roundDigits_intCast digits 0

/-- Rounding stays between bounds that have no more digits. -/
theorem roundDigits_mem (digits : ℕ) {m : ℤ}
    (h : q ∈ Set.Icc (n / 10 ^ digits : ℚ) (m / 10 ^ digits)) :
    roundDigits q digits ∈ Set.Icc (n / 10 ^ digits : ℚ) (m / 10 ^ digits) := by
  have hself (k : ℤ) : roundDigits (k / 10 ^ digits) digits = k / 10 ^ digits := by
    unfold roundDigits
    rw [div_mul_cancel₀ _ (by positivity), roundHalfEven_intCast]
  constructor
  · calc (n / 10 ^ digits : ℚ) = roundDigits (n / 10 ^ digits) digits := (hself n).symm
      _ ≤ roundDigits q digits := roundDigits_mono h.1
  · calc roundDigits q digits ≤ roundDigits (m / 10 ^ digits) digits := roundDigits_mono h.2
      _ = m / 10 ^ digits := hself m

end Rounding

end ControlFabric.Py
