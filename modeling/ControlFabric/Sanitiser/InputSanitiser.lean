import ControlFabric.Lib.Assign
import ControlFabric.Py.Numbers
import Mathlib.Data.List.DropRight

/-! The sanitisation of input: strings are cleaned, identifiers reduced to safe characters, and
dicts sanitised level by level. A list that stands in a list is taken over as it is. -/
namespace ControlFabric.Sanitiser
open Lib Py

/-- What the sanitiser asks of its libraries. -/
structure Interpreter where
  /-- `unicodedata.category(ch)` -/
  category : Char → String
  /-- `bleach.clean(value, tags=[], strip=True)` -/
  clean : String → String
  unicode : Unicode

def maxLengths : List (String × ℕ) :=
  [("default", 2048), ("description", 4096), ("title", 512), ("identifier", 128), ("url", 2048),
    ("justification", 4096), ("free_text", 8192)]

def isControl (ip : Interpreter) (ch : Char) : Bool :=
  ip.category ch ∈ ["Cc", "Cs"] ∧ ch ∉ ['\n', '\r', '\t']

def sanitiseString (ip : Interpreter) (value : String) (fieldType : String := "default")
    (allowHtml : Bool := false) : String :=
  let printable := String.ofList (value.toList.filter fun ch => ¬ isControl ip ch)
  let cleaned := if allowHtml then printable else ip.clean printable
  let maxLen := (maxLengths.lookup fieldType).getD 2048
  String.ofList (strStrip ip.unicode (cleaned.toList.take maxLen))

/-- The characters that `[^a-zA-Z0-9\-_.]` leaves. -/
def isSafe (ch : Char) : Bool := ch.isAlphanum ∨ ch ∈ ['-', '_', '.']

def sanitiseIdentifier (value : String) : String :=
  String.ofList ((value.toList.filter isSafe).take 128)

def maxItems : ℕ := 100

section Dict
variable (ip : Interpreter) (nested : JsonDict → JsonDict)

/-- An element of a list, where `nested` sanitises a dict. -/
def sanitiseItem : Json → Json
  | .str s => .str (sanitiseString ip s)
  | .obj items => .obj (nested items)
  | v => v

def sanitiseValue : Json → Json
  | .str s => .str (sanitiseString ip s)
  | .obj items => .obj (nested items)
  | .arr items => .arr ((items.take maxItems).map (sanitiseItem ip nested))
  | v => v

/-- `sanitise_dict`, by the number of levels that are still gone into. -/
def sanitiseLevels : ℕ → JsonDict → JsonDict
  | 0, _ => []
  | levels + 1, data =>
    (data.foldl (fun result entry =>
      result.set (sanitiseIdentifier entry.1) (sanitiseValue ip (sanitiseLevels levels) entry.2))
      Dict.empty).entries

/-- A depth beyond 5 is not gone into. -/
def sanitiseDict (data : JsonDict) (depth : ℕ := 0) : JsonDict :=
  sanitiseLevels ip (6 - depth) data

end Dict

/-! ### How far the sanitisation of a dict reaches -/

/-- A value stands somewhere in another one, or is that one. -/
inductive Occurs (v : Json) : Json → Prop
  | here : Occurs v v
  | item {items : List Json} {w : Json} (hw : w ∈ items) (h : Occurs v w) : Occurs v (.arr items)
  | value {items : JsonDict} {e : String × Json} (he : e ∈ items) (h : Occurs v e.2) :
      Occurs v (.obj items)

/-- Every string is an output of `sanitise_string`, every key one of `sanitise_identifier`, and no
list is longer than it may be. -/
structure Clean (ip : Interpreter) (v : Json) : Prop where
  strings : ∀ s, Occurs (.str s) v → ∃ x, s = sanitiseString ip x
  keys : ∀ items, Occurs (.obj items) v → ∀ e ∈ items, ∃ x, e.1 = sanitiseIdentifier x
  lists : ∀ items, Occurs (.arr items) v → items.length ≤ maxItems

/-- The lists that are handed through: each stands in a list, among its first elements, that comes
up at one of the levels under a key that no later one is reduced to. -/
inductive HandedThrough : ℕ → JsonDict → List Json → Prop
  | inList {levels : ℕ} {data : JsonDict} {e : String × Json} {items inner : List Json}
      (he : LastOfKey (fun e => sanitiseIdentifier e.1) data e) (hlist : e.2 = .arr items)
      (hinner : .arr inner ∈ items.take maxItems) : HandedThrough (levels + 1) data inner
  | inDict {levels : ℕ} {data d : JsonDict} {e : String × Json} {inner : List Json}
      (he : LastOfKey (fun e => sanitiseIdentifier e.1) data e) (hdict : e.2 = .obj d)
      (h : HandedThrough levels d inner) : HandedThrough (levels + 1) data inner
  | inDictInList {levels : ℕ} {data d : JsonDict} {e : String × Json} {items inner : List Json}
      (he : LastOfKey (fun e => sanitiseIdentifier e.1) data e) (hlist : e.2 = .arr items)
      (hdict : .obj d ∈ items.take maxItems) (h : HandedThrough levels d inner) :
      HandedThrough (levels + 1) data inner

section Clean
variable {ip : Interpreter} {v : Json}

theorem clean_str_iff {s : String} : Clean ip (.str s) ↔ ∃ x, s = sanitiseString ip x := by
  constructor
  · intro h
    exact h.strings s .here
  · rintro ⟨x, rfl⟩
    constructor
    · rintro s ⟨⟩
      exact ⟨x, rfl⟩
    · rintro items ⟨⟩
    · rintro items ⟨⟩

theorem clean_sanitiseString (ip : Interpreter) (s : String) :
    Clean ip (.str (sanitiseString ip s)) := clean_str_iff.mpr ⟨s, rfl⟩

theorem clean_arr_iff {items : List Json} :
    Clean ip (.arr items) ↔ items.length ≤ maxItems ∧ ∀ v ∈ items, Clean ip v := by
  constructor
  · intro h
    refine ⟨h.lists items .here, fun v hv => ?_⟩
    exact ⟨fun s hs => h.strings s (.item hv hs), fun d hd => h.keys d (.item hv hd),
      fun l hl => h.lists l (.item hv hl)⟩
  · rintro ⟨hlength, hitems⟩
    constructor
    · intro s hs
      cases hs with
      | item hw h => exact (hitems _ hw).strings s h
    · intro d hd
      cases hd with
      | item hw h => exact (hitems _ hw).keys d h
    · intro l hl
      cases hl with
      | here => exact hlength
      | item hw h => exact (hitems _ hw).lists l h

theorem clean_obj_iff {items : JsonDict} : Clean ip (.obj items) ↔
    ∀ e ∈ items, (∃ x, e.1 = sanitiseIdentifier x) ∧ Clean ip e.2 := by
  constructor
  · intro h e he
    refine ⟨h.keys items .here e he, ?_⟩
    exact ⟨fun s hs => h.strings s (.value he hs), fun d hd => h.keys d (.value he hd),
      fun l hl => h.lists l (.value he hl)⟩
  · intro hitems
    constructor
    · intro s hs
      cases hs with
      | value he h => exact (hitems _ he).2.strings s h
    · intro d hd
      cases hd with
      | here => exact fun e he => (hitems e he).1
      | value he h => exact (hitems _ he).2.keys d h
    · intro l hl
      cases hl with
      | value he h => exact (hitems _ he).2.lists l h

/-- A value without strings, keys and lists. -/
theorem clean_scalar (hstr : ∀ s, v ≠ .str s) (hobj : ∀ d, v ≠ .obj d) (harr : ∀ l, v ≠ .arr l) :
    Clean ip v := by
  constructor
  · intro s hs
    cases hs with
    | here => exact absurd rfl (hstr s)
    | item hw h => exact absurd rfl (harr _)
    | value he h => exact absurd rfl (hobj _)
  · intro d hd
    cases hd with
    | here => exact absurd rfl (hobj d)
    | item hw h => exact absurd rfl (harr _)
    | value he h => exact absurd rfl (hobj _)
  · intro l hl
    cases hl with
    | here => exact absurd rfl (harr l)
    | item hw h => exact absurd rfl (harr _)
    | value he h => exact absurd rfl (hobj _)

end Clean

section Levels
variable {ip : Interpreter} {nested : JsonDict → JsonDict}

/-- An element of a list is clean, unless it is a list that is not. -/
theorem clean_sanitiseItem_iff {v : Json} : Clean ip (sanitiseItem ip nested v) ↔
    (∀ inner, v = .arr inner → Clean ip (.arr inner)) ∧
      ∀ d, v = .obj d → Clean ip (.obj (nested d)) := by
  cases v with
  | str s => simp [sanitiseItem, clean_sanitiseString]
  | arr items => simp [sanitiseItem]
  | obj items => simp [sanitiseItem]
  | null => simp [sanitiseItem, clean_scalar]
  | bool b => simp [sanitiseItem, clean_scalar]
  | int n => simp [sanitiseItem, clean_scalar]
  | float q => simp [sanitiseItem, clean_scalar]

theorem clean_sanitiseValue_iff {v : Json} : Clean ip (sanitiseValue ip nested v) ↔
    (∀ items, v = .arr items → ∀ w ∈ items.take maxItems, Clean ip (sanitiseItem ip nested w)) ∧
      ∀ d, v = .obj d → Clean ip (.obj (nested d)) := by
  cases v with
  | str s => simp [sanitiseValue, clean_sanitiseString]
  | arr items =>
    have hlength : ((items.take maxItems).map (sanitiseItem ip nested)).length ≤ maxItems := by simp
    rw [sanitiseValue, clean_arr_iff, and_iff_right hlength, List.forall_mem_map]
    simp
  | obj items => simp [sanitiseValue]
  | null => simp [sanitiseValue, clean_scalar]
  | bool b => simp [sanitiseValue, clean_scalar]
  | int n => simp [sanitiseValue, clean_scalar]
  | float q => simp [sanitiseValue, clean_scalar]

theorem clean_sanitiseLevels_succ {levels : ℕ} {data : JsonDict} :
    Clean ip (.obj (sanitiseLevels ip (levels + 1) data)) ↔
      ∀ e, LastOfKey (fun e => sanitiseIdentifier e.1) data e →
        Clean ip (sanitiseValue ip (sanitiseLevels ip levels) e.2) := by
  rw [clean_obj_iff]
  constructor
  · intro h e he
    have hentry : (sanitiseIdentifier e.1, sanitiseValue ip (sanitiseLevels ip levels) e.2) ∈
        sanitiseLevels ip (levels + 1) data :=
      (mem_entries_foldl_set (fun e : String × Json => sanitiseIdentifier e.1)
        (fun e => sanitiseValue ip (sanitiseLevels ip levels) e.2) data).mpr ⟨e, he, rfl, rfl⟩
    exact (h _ hentry).2
  · rintro h ⟨k, v⟩ hentry
    obtain ⟨e, he, rfl, rfl⟩ :=
      (mem_entries_foldl_set (fun e : String × Json => sanitiseIdentifier e.1)
        (fun e => sanitiseValue ip (sanitiseLevels ip levels) e.2) data).mp hentry
    exact ⟨⟨e.1, rfl⟩, h e he⟩

/-- What the levels leave is clean exactly if the lists that are handed through are. -/
theorem clean_sanitiseLevels_iff (levels : ℕ) (data : JsonDict) :
    Clean ip (.obj (sanitiseLevels ip levels data)) ↔
      ∀ inner, HandedThrough levels data inner → Clean ip (.arr inner) := by
  induction levels generalizing data with
  | zero =>
    refine iff_of_true ?_ ?_
    · simp [sanitiseLevels, clean_obj_iff]
    · rintro inner ⟨⟩
  | succ levels ih =>
    rw [clean_sanitiseLevels_succ]
    simp only [clean_sanitiseValue_iff, clean_sanitiseItem_iff, ih]
    constructor
    · intro h inner hinner
      cases hinner with
      | inList he hlist hmem => exact ((h _ he).1 _ hlist _ hmem).1 inner rfl
      | inDict he hdict hrest => exact (h _ he).2 _ hdict inner hrest
      | inDictInList he hlist hdict hrest => exact ((h _ he).1 _ hlist _ hdict).2 _ rfl inner hrest
    · intro h e he
      constructor
      · intro items hlist w hw
        constructor
        · rintro inner rfl
          exact h inner (.inList he hlist hw)
        · rintro d rfl inner hinner
          exact h inner (.inDictInList he hlist hw hinner)
      · intro d hdict inner hinner
        exact h inner (.inDict he hdict hinner)

end Levels

/-- The result of a sanitisation is clean exactly if each list that stands directly in a list, where
the sanitisation comes, was clean before. -/
theorem sanitiseDict_clean_iff (ip : Interpreter) (data : JsonDict) :
    Clean ip (.obj (sanitiseDict ip data)) ↔
      ∀ inner, HandedThrough 6 data inner → Clean ip (.arr inner) :=
  clean_sanitiseLevels_iff 6 data

/-- No text that was stripped begins with a space. -/
theorem not_isStrSpace_of_strStrip {uc : Unicode} {text rest : List Char} {ch : Char}
    (h : strStrip uc text = ch :: rest) : isStrSpace uc ch = false := by
  have hprefix : strStrip uc text <+: text.dropWhile (isStrSpace uc) :=
    List.rdropWhile_prefix (isStrSpace uc) _
  obtain ⟨after, hafter⟩ := hprefix
  rw [h, List.cons_append] at hafter
  have hhead := List.head?_dropWhile_not (isStrSpace uc) text
  rw [← hafter] at hhead
  simpa using hhead

/-- Sanitises texts in ASCII that have no markup and no control characters. -/
def Interpreter.plain : Interpreter := ⟨fun _ => "", id, .ascii⟩

def script : String := " <script>alert(1)</script>"

/-- A table of one row with one cell. -/
def table : JsonDict := [("rows", .arr [.arr [.str script]])]

/-- The script in the cell comes out as it went in. -/
theorem script_handed_through :
    ¬ ∀ (ip : Interpreter) (data : JsonDict), Clean ip (.obj (sanitiseDict ip data)) := by
  intro h
  have hhanded : HandedThrough 6 table [.str script] :=
    .inList ⟨[], [], rfl, by simp⟩ rfl (by simp [maxItems])
  have hrow := (clean_sanitiseLevels_iff 6 table).mp (h .plain table) _ hhanded
  obtain ⟨x, hx⟩ := clean_str_iff.mp ((clean_arr_iff.mp hrow).2 _ List.mem_cons_self)
  -- It begins with a space, and no output does.
  have hstrip := congrArg String.toList hx
  have hscript : script.toList = ' ' :: "<script>alert(1)</script>".toList := by decide
  rw [sanitiseString, String.toList_ofList, hscript] at hstrip
  exact absurd (not_isStrSpace_of_strStrip hstrip.symm) (by decide)

end ControlFabric.Sanitiser
