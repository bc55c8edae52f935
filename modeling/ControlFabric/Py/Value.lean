import ControlFabric.Py.Text
import Mathlib.Data.Rat.Defs

/-! JSON-shaped values and aware datetimes. -/
namespace ControlFabric
open Lib

/-- A JSON-shaped Python value; a finite `float` is kept by its exact value, a `dict` by its items
in insertion order. -/
inductive Json where
  | null
  | bool (b : Bool)
  | int (n : ℤ)
  | float (q : ℚ)
  | str (s : String)
  | arr (items : List Json)
  | obj (items : List (String × Json))

abbrev JsonDict := List (String × Json)

/-- `bool(v)`. -/
def Json.truthy : Json → Bool
  | .null => false
  | .bool b => b
  | .int n => n != 0
  | .float q => q != 0
  | .str s => s != ""
  | .arr l => !l.isEmpty
  | .obj l => !l.isEmpty

def Json.isDict : Json → Bool
  | .obj _ => true
  | _ => false

def Json.field (d : JsonDict) (key : String) : Option Json :=
  (d.find? fun p => p.1 = key).map Prod.snd

/-- Microseconds in a day. -/
def dayMicros : ℤ := 86400 * 10 ^ 6

def isLeap (y : ℕ) : Bool := y % 4 = 0 ∧ (y % 100 ≠ 0 ∨ y % 400 = 0)

def daysInMonth (y m : ℕ) : ℕ :=
  if m = 2 then if isLeap y then 29 else 28
  else if m = 4 ∨ m = 6 ∨ m = 9 ∨ m = 11 then 30 else 31

/-- An aware `datetime`: wall-clock fields and the offset from UTC in microseconds. -/
structure DateTime where
  year : Fin 10000
  month : Fin 13
  day : Fin 32
  hour : Fin 24
  minute : Fin 60
  second : Fin 60
  microsecond : Fin 1000000
  utcoffset : ℤ
  date_valid : 1 ≤ year.val ∧ 1 ≤ month.val ∧ 1 ≤ day.val ∧
    day.val ≤ daysInMonth year.val month.val
  offset_valid : utcoffset.natAbs < dayMicros.natAbs
  deriving DecidableEq

namespace DateTime
open Py

/-- Days before the first of January of a year, counted from the year 1. -/
def daysBeforeYear (y : ℕ) : ℕ := (y - 1) * 365 + (y - 1) / 4 - (y - 1) / 100 + (y - 1) / 400

def toOrdinal (t : DateTime) : ℕ :=
  daysBeforeYear t.year + ((List.range t.month).tail.map (daysInMonth t.year)).sum + t.day

/-- The instant on the UTC time line in microseconds; comparisons of aware datetimes go by it. -/
def instant (t : DateTime) : ℤ :=
  t.toOrdinal * dayMicros +
    (((t.hour * 60 + t.minute) * 60 + t.second) * 10 ^ 6 + t.microsecond : ℕ) - t.utcoffset

private def dateChars (t : DateTime) : List Char :=
  decimal 4 t.year ++ '-' :: decimal 2 t.month ++ '-' :: decimal 2 t.day

private def fractionChars (us : ℕ) : List Char := if us = 0 then [] else '.' :: decimal 6 us

/-- The `[:SS[.ffffff]]` of an offset. -/
private def secondChars (s us : ℕ) : List Char :=
  if s = 0 ∧ us = 0 then [] else ':' :: decimal 2 s ++ fractionChars us

/-- `+HH:MM[:SS[.ffffff]]`. -/
private def offsetChars (off : ℤ) : List Char :=
  let n := off.natAbs
  let secs := n / 10 ^ 6
  (if off < 0 then '-' else '+') :: decimal 2 (secs / 3600) ++
    ':' :: decimal 2 (secs / 60 % 60) ++ secondChars (secs % 60) (n % 10 ^ 6)

private def clockChars (t : DateTime) : List Char :=
  decimal 2 t.hour ++ ':' :: decimal 2 t.minute ++ ':' :: decimal 2 t.second

/-- `t.isoformat()`. -/
def isoformat (t : DateTime) : String :=
  String.ofList (t.dateChars ++ 'T' :: (t.clockChars ++ fractionChars t.microsecond ++
    offsetChars t.utcoffset))

/-- How `model_dump(mode="json")` writes a datetime. -/
def jsonformat (t : DateTime) : String :=
  String.ofList (t.dateChars ++ 'T' :: (t.clockChars ++ fractionChars t.microsecond ++
    if t.utcoffset = 0 then ['Z'] else offsetChars t.utcoffset))

private theorem decimal2_selfDelimiting {n m : ℕ} (hn : n < 100) (hm : m < 100) {r s : List Char}
    (h : decimal 2 n ++ r = decimal 2 m ++ s) : n = m ∧ r = s := by
  obtain ⟨hd, hrs⟩ := List.append_inj h (by simp)
  exact ⟨decimal_inj (w := 2) (by omega) (by omega) hd, hrs⟩

private theorem fractionChars_split {us us' : ℕ} (hu : us < 10 ^ 6) (hu' : us' < 10 ^ 6)
    {r s : List Char} (hr : '.' ∉ r.head?) (hs : '.' ∉ s.head?)
    (h : fractionChars us ++ r = fractionChars us' ++ s) : us = us' ∧ r = s := by
  unfold fractionChars at h
  split_ifs at h with h0 h0' h0'
  · exact ⟨h0.trans h0'.symm, h⟩
  · exact absurd (by simp only [List.nil_append] at h; simp [h]) hr
  · exact absurd (by simp only [List.nil_append] at h; simp [← h]) hs
  · obtain ⟨hd, hrs⟩ := List.append_inj (List.cons.inj h).2 (by simp)
    exact ⟨decimal_inj (w := 6) hu hu' hd, hrs⟩

private theorem secondChars_inj {s s' us us' : ℕ} (hs : s < 60) (hs' : s' < 60) (hu : us < 10 ^ 6)
    (hu' : us' < 10 ^ 6) (h : secondChars s us = secondChars s' us') : s = s' ∧ us = us' := by
  by_cases h0 : s = 0 ∧ us = 0 <;> by_cases h0' : s' = 0 ∧ us' = 0
  · omega
  · simp [secondChars, h0, h0'] at h
  · simp [secondChars, h0, h0'] at h
  · simp only [secondChars, h0, h0', ↓reduceIte, List.cons_append, List.cons.injEq, true_and] at h
    obtain ⟨hsec, hf⟩ := decimal2_selfDelimiting (by omega) (by omega) h
    have hf' : fractionChars us ++ [] = fractionChars us' ++ [] := by simpa using hf
    exact ⟨hsec, (fractionChars_split hu hu' (by simp) (by simp) hf').1⟩

private theorem offsetChars_inj {a b : ℤ} (ha : a.natAbs < dayMicros.natAbs)
    (hb : b.natAbs < dayMicros.natAbs) (h : offsetChars a = offsetChars b) : a = b := by
  have hday : dayMicros.natAbs = 86400 * 10 ^ 6 := rfl
  rw [hday] at ha hb
  simp only [offsetChars, List.cons_append, List.append_assoc, List.cons.injEq] at h
  obtain ⟨hsign, h⟩ := h
  obtain ⟨hh, h⟩ := decimal2_selfDelimiting (by omega) (by omega) h
  obtain ⟨hm, h⟩ := decimal2_selfDelimiting (by omega) (by omega) (List.cons.inj h).2
  obtain ⟨hs, hus⟩ := secondChars_inj (Nat.mod_lt _ (by omega)) (Nat.mod_lt _ (by omega))
    (Nat.mod_lt _ (by omega)) (Nat.mod_lt _ (by omega)) h
  have hneg : (a < 0) ↔ (b < 0) := by
    split_ifs at hsign with h1 h2 h2
    · exact iff_of_true h1 h2
    · exact absurd hsign (by decide)
    · exact absurd hsign (by decide)
    · exact iff_of_false h1 h2
  omega

private theorem dateChars_length (t : DateTime) : t.dateChars.length = 10 := by
  simp [dateChars]

private theorem dateChars_inj {t u : DateTime} (h : t.dateChars = u.dateChars) :
    t.year = u.year ∧ t.month = u.month ∧ t.day = u.day := by
  simp only [dateChars, List.append_assoc, List.cons_append] at h
  obtain ⟨hy, h⟩ := List.append_inj h (by simp)
  obtain ⟨hm, h⟩ := decimal2_selfDelimiting (by omega) (by omega) (List.cons.inj h).2
  have hd := decimal_inj (w := 2) (by omega) (by omega) (List.cons.inj h).2
  exact ⟨Fin.ext (decimal_inj (w := 4) (by omega) (by omega) hy), Fin.ext hm, Fin.ext hd⟩

private theorem fractionChars_no_T (us : ℕ) : 'T' ∉ fractionChars us := by
  unfold fractionChars
  split
  · simp
  · simp [decimal_not_mem (c := 'T') (by decide)]

private theorem offsetChars_no_T (off : ℤ) : 'T' ∉ offsetChars off := by
  have hd (w n : ℕ) : 'T' ∉ decimal w n := decimal_not_mem (by decide) w n
  simp only [offsetChars, secondChars, List.mem_append, List.mem_cons, not_or]
  split_ifs <;> simp [hd, fractionChars_no_T]

private theorem offsetChars_head (off : ℤ) : '.' ∉ (offsetChars off).head? := by
  simp only [offsetChars, List.cons_append, List.head?_cons]
  split_ifs <;> simp

/-- Two ISO texts at the end of equal texts are the same datetime: the date is split off at the
last `T`, and every field behind it is of fixed width or shows its presence by its first mark. -/
theorem isoformat_suffixDelimiting : SuffixDelimiting (fun t : DateTime => t.isoformat.toList) := by
  intro t u r s h
  simp only [isoformat, String.toList_ofList, ← List.append_assoc] at h
  have hclock (t : DateTime) : 'T' ∉ t.clockChars := by
    have hd (w n : ℕ) : 'T' ∉ decimal w n := decimal_not_mem (by decide) w n
    simp [clockChars, hd]
  have htail (t : DateTime) :
      'T' ∉ t.clockChars ++ fractionChars t.microsecond ++ offsetChars t.utcoffset := by
    simp [hclock t, fractionChars_no_T, offsetChars_no_T]
  obtain ⟨hpre, hpost⟩ := append_inj_of_last (htail t) (htail u) h
  obtain ⟨hrs, hdate⟩ := List.append_inj' hpre (by simp [dateChars_length])
  obtain ⟨hy, hmo, hda⟩ := dateChars_inj hdate
  simp only [clockChars, List.append_assoc, List.cons_append] at hpost
  obtain ⟨hh, hpost⟩ := decimal2_selfDelimiting (by omega) (by omega) hpost
  obtain ⟨hmi, hpost⟩ := decimal2_selfDelimiting (by omega) (by omega) (List.cons.inj hpost).2
  obtain ⟨hse, hpost⟩ := decimal2_selfDelimiting (by omega) (by omega) (List.cons.inj hpost).2
  obtain ⟨hus, hoff⟩ := fractionChars_split (by omega) (by omega) (offsetChars_head _)
    (offsetChars_head _) hpost
  have hof := offsetChars_inj t.offset_valid u.offset_valid hoff
  refine ⟨?_, hrs⟩
  cases t
  cases u
  simp only [DateTime.mk.injEq]
  exact ⟨hy, hmo, hda, Fin.ext hh, Fin.ext hmi, Fin.ext hse, Fin.ext hus, hof⟩

theorem not_mem_isoformat {c : Char} (hc : c ∉ "0123456789-:.+T".toList) (t : DateTime) :
    c ∉ t.isoformat.toList := by
  have hdigit (w n : ℕ) : c ∉ decimal w n := by
    apply decimal_not_mem
    intro h
    exact hc (List.mem_of_mem_take (i := 10) h)
  have hne : ∀ d ∈ "-:.+T".toList, c ≠ d := by
    rintro d hd rfl
    exact hc (List.mem_of_mem_drop (i := 10) hd)
  have hmark : c ≠ '-' ∧ c ≠ ':' ∧ c ≠ '.' ∧ c ≠ '+' ∧ c ≠ 'T' :=
    ⟨hne _ (by decide), hne _ (by decide), hne _ (by decide), hne _ (by decide), hne _ (by decide)⟩
  obtain ⟨hminus, hcolon, hdot, hplus, hT⟩ := hmark
  simp only [isoformat, dateChars, clockChars, fractionChars, offsetChars, secondChars,
    String.toList_ofList, List.append_assoc, List.cons_append, List.mem_append, List.mem_cons,
    hdigit, hminus, hcolon, hT, false_or]
  split_ifs <;> simp [hdigit, hminus, hcolon, hdot, hplus]

/-! ### Reading a text back -/

/-- Reads a number of `w` digits. -/
private def readDecimal (w : ℕ) (cs : List Char) : ℕ × List Char :=
  (ofNumeral 10 ((cs.take w).map digitVal), cs.drop w)

private def readFraction : List Char → ℕ × List Char
  | '.' :: cs => readDecimal 6 cs
  | cs => (0, cs)

private def readSeconds : List Char → ℕ × ℕ
  | ':' :: cs => ((readDecimal 2 cs).1, (readFraction (readDecimal 2 cs).2).1)
  | _ => (0, 0)

private def readOffset : List Char → ℤ
  | sign :: cs =>
    let (hours, cs) := readDecimal 2 cs
    let (minutes, cs) := readDecimal 2 (cs.drop 1)
    let (seconds, us) := readSeconds cs
    let n : ℕ := ((hours * 60 + minutes) * 60 + seconds) * 10 ^ 6 + us
    if sign = '-' then -n else n
  | [] => 0

/-- The fields of a text, and the offset at its end. -/
private structure Fields where
  year : ℕ
  month : ℕ
  day : ℕ
  hour : ℕ
  minute : ℕ
  second : ℕ
  microsecond : ℕ
  utcoffset : ℤ

private def readFields (cs : List Char) : Fields :=
  let (year, cs) := readDecimal 4 cs
  let (month, cs) := readDecimal 2 (cs.drop 1)
  let (day, cs) := readDecimal 2 (cs.drop 1)
  let (hour, cs) := readDecimal 2 (cs.drop 1)
  let (minute, cs) := readDecimal 2 (cs.drop 1)
  let (second, cs) := readDecimal 2 (cs.drop 1)
  let (microsecond, cs) := readFraction cs
  ⟨year, month, day, hour, minute, second, microsecond, readOffset cs⟩

private def ofFields (f : Fields) : Option DateTime :=
  if h : (f.year < 10000 ∧ f.month < 13 ∧ f.day < 32 ∧ f.hour < 24 ∧ f.minute < 60 ∧ f.second < 60 ∧
      f.microsecond < 1000000) ∧ (1 ≤ f.year ∧ 1 ≤ f.month ∧ 1 ≤ f.day ∧
      f.day ≤ daysInMonth f.year f.month) ∧ f.utcoffset.natAbs < dayMicros.natAbs then
    some ⟨⟨f.year, h.1.1⟩, ⟨f.month, h.1.2.1⟩, ⟨f.day, h.1.2.2.1⟩, ⟨f.hour, h.1.2.2.2.1⟩,
      ⟨f.minute, h.1.2.2.2.2.1⟩, ⟨f.second, h.1.2.2.2.2.2.1⟩, ⟨f.microsecond, h.1.2.2.2.2.2.2⟩,
      f.utcoffset, h.2.1, h.2.2⟩
  else none

/-- `datetime.fromisoformat(text)` on the texts of `isoformat`; the other texts it reads are not
read here. -/
def fromisoformat (text : String) : Option DateTime :=
  (ofFields (readFields text.toList)).filter fun t => t.isoformat = text

private theorem readDecimal_decimal {w n : ℕ} (h : n < 10 ^ w) (r : List Char) :
    readDecimal w (decimal w n ++ r) = (n, r) := by
  have hlen : (decimal w n).length = w := decimal_length w n
  unfold readDecimal
  rw [List.take_left' hlen, List.drop_left' hlen, ofNumeral_decimal h]

private theorem readFraction_fraction {us : ℕ} (hu : us < 10 ^ 6) {r : List Char}
    (hr : '.' ∉ r.head?) : readFraction (fractionChars us ++ r) = (us, r) := by
  unfold fractionChars
  split_ifs with h
  · subst h
    cases r with
    | nil => rfl
    | cons c r =>
      have hc : c ≠ '.' := fun h => hr (by simp [h])
      simp only [List.nil_append, readFraction]
      split
      next heq => exact absurd (List.cons.inj heq).1 hc
      next => rfl
  · exact readDecimal_decimal hu r

private theorem readSeconds_second {s us : ℕ} (hs : s < 60) (hu : us < 10 ^ 6) :
    readSeconds (secondChars s us) = (s, us) := by
  unfold secondChars
  split_ifs with h
  · obtain ⟨rfl, rfl⟩ := h
    rfl
  · have hfraction := readFraction_fraction hu (r := []) (by simp)
    rw [List.append_nil] at hfraction
    simp only [readSeconds, List.cons_append, readDecimal_decimal (show s < 10 ^ 2 by omega),
      hfraction]

private theorem readOffset_offset {off : ℤ} (h : off.natAbs < dayMicros.natAbs) :
    readOffset (offsetChars off) = off := by
  have hday : dayMicros.natAbs = 86400 * 10 ^ 6 := rfl
  rw [hday] at h
  have hhours : off.natAbs / 10 ^ 6 / 3600 < 10 ^ 2 := by omega
  have hminutes : off.natAbs / 10 ^ 6 / 60 % 60 < 10 ^ 2 := by omega
  have hseconds := readSeconds_second (Nat.mod_lt (off.natAbs / 10 ^ 6) (by omega : 60 > 0))
    (Nat.mod_lt off.natAbs (by omega : 10 ^ 6 > 0))
  simp only [offsetChars, List.cons_append, List.append_assoc, readOffset,
    readDecimal_decimal hhours, List.drop_succ_cons, List.drop_zero, readDecimal_decimal hminutes,
    hseconds]
  have hback (n : ℕ) :
      ((n / 10 ^ 6 / 3600 * 60 + n / 10 ^ 6 / 60 % 60) * 60 + n / 10 ^ 6 % 60) * 10 ^ 6 +
      n % 10 ^ 6 = n := by omega
  rw [hback]
  by_cases hneg : off < 0
  · simp only [hneg, if_true]
    omega
  · simp only [hneg, if_false, show ¬ ('+' = '-') by decide]
    omega

private theorem readFields_isoformat (t : DateTime) : readFields t.isoformat.toList =
    ⟨t.year, t.month, t.day, t.hour, t.minute, t.second, t.microsecond, t.utcoffset⟩ := by
  have hfraction := readFraction_fraction t.microsecond.2
    (offsetChars_head t.utcoffset)
  simp only [isoformat, dateChars, clockChars, String.toList_ofList, List.append_assoc,
    List.cons_append, readFields, List.drop_succ_cons, List.drop_zero, hfraction,
    readDecimal_decimal (w := 4) t.year.2,
    readDecimal_decimal (w := 2) (show t.month.val < 10 ^ 2 by omega),
    readDecimal_decimal (w := 2) (show t.day.val < 10 ^ 2 by omega),
    readDecimal_decimal (w := 2) (show t.hour.val < 10 ^ 2 by omega),
    readDecimal_decimal (w := 2) (show t.minute.val < 10 ^ 2 by omega),
    readDecimal_decimal (w := 2) (show t.second.val < 10 ^ 2 by omega),
    readOffset_offset t.offset_valid]

@[simp] theorem fromisoformat_isoformat (t : DateTime) : fromisoformat t.isoformat = some t := by
  have hfields : ofFields (readFields t.isoformat.toList) = some t := by
    rw [readFields_isoformat, ofFields, dif_pos]
    exact ⟨⟨t.year.2, t.month.2, t.day.2, t.hour.2, t.minute.2, t.second.2, t.microsecond.2⟩,
      t.date_valid, t.offset_valid⟩
  rw [fromisoformat, hfields]
  simp [Option.filter]

end DateTime
end ControlFabric
