import ControlFabric.Ingress.Pipeline
import ControlFabric.Py.Numbers
import ControlFabric.Validation.RuleModel

/-! Values of any type, as the reconciliation of the margins reads them from its records: coerced to
a text or an amount, or as elements of sets. Amounts are exact. -/
namespace ControlFabric.Margin
open Py

/-- What the interpreter computes with values of any type. -/
structure Interpreter where
  /-- `str(v)` of what is no string -/
  str : Json → String
  /-- `str(x)` of a `float` -/
  strFloat : ℚ → String
  /-- `float(text)`, `none` being a `ValueError` -/
  floatOfStr : String → Option ℚ
  /-- `datetime.strptime(text, format)` in microseconds, `none` being a `ValueError` -/
  strptime : String → String → Option ℤ
  /-- `text.lower()` -/
  lower : String → String
  /-- `SequenceMatcher(None, a, b).ratio()` -/
  ratio : String → String → ℚ
  unicode : Unicode

/-- Texts in ASCII that stand for no number or date and are similar only if equal. -/
def Interpreter.ascii : Interpreter where
  str _ := ""
  strFloat _ := ""
  floatOfStr _ := none
  strptime _ _ := none
  lower text := text.map Char.toLower
  ratio a b := if a = b then 1 else 0
  unicode := .ascii

section Coercions
variable (ip : Interpreter)

/-- `text.strip()`. -/
def strip (text : String) : String := String.ofList (strStrip ip.unicode text.toList)

def safeStr : Json → String
  | .null => ""
  | .str s => strip ip s
  | v => strip ip (ip.str v)

def safeFloat : Json → ℚ
  | .bool b => if b then 1 else 0
  | .int n => n
  | .float q => q
  | .str s => (ip.floatOfStr s).getD 0
  | _ => 0

/-- `_text_similarity`. -/
def textSimilarity (a b : String) : ℚ :=
  if a = "" ∨ b = "" then 0 else ip.ratio (strip ip (ip.lower a)) (strip ip (ip.lower b))

def datetimeFormats : List String :=
  ["%Y-%m-%dT%H:%M:%S", "%Y-%m-%dT%H:%M:%S.%f", "%Y-%m-%d %H:%M:%S", "%Y-%m-%d"]

/-- `_parse_datetime`, in microseconds. -/
def parseDatetime (v : Json) : Option ℤ :=
  if v.truthy then datetimeFormats.firstM (ip.strptime (safeStr ip v)) else none

/-- `_extract_activities`, each token once. -/
def extractActivities (description : String) : List String :=
  let spaced := (ip.lower description).toList.map fun c => if c ∈ [',', '.', '_', '-'] then ' ' else c
  let words := (spaced.splitOnP fun c => isStrSpace ip.unicode c).map (strStrip ip.unicode)
  ((words.filter fun word => 2 < word.length).map String.ofList).dedup

end Coercions

/-- `f"{v}"`. -/
def format (ip : Interpreter) : Json → String
  | .str s => s
  | v => ip.str v

/-- `f"{q:.2f}"`. -/
def formatCents (q : ℚ) : String :=
  let cents := (roundHalfEven (q * 100)).natAbs
  (if q < 0 then "-" else "") ++ s!"{cents / 100}." ++ String.ofList (decimal 2 (cents % 100))

/-- What a hashable value is in a set: numbers of every type are told apart by their value alone. -/
inductive Key where
  | none
  | number (q : ℚ)
  | text (s : String)
  deriving DecidableEq

/-- The value as an element of a set or a key of a dict. -/
def hash : Json → Except PyError Key
  | .null => .ok .none
  | .bool b => .ok (.number (if b then 1 else 0))
  | .int n => .ok (.number n)
  | .float q => .ok (.number q)
  | .str s => .ok (.text s)
  | .arr _ => .error (.typeError "unhashable type: 'list'")
  | .obj _ => .error (.typeError "unhashable type: 'dict'")

/-- `set(v)`. -/
def toSet (v : Json) : Except PyError (List Key) := do
  let items ← v.iterate
  return (← items.mapM hash).dedup

def Key.text? : Key → Option String
  | .text s => some s
  | _ => Option.none

/-- `', '.join(sorted(keys))` of a set. The message of the error depends on the order of the set. -/
def joinSorted (keys : List Key) : Except PyError String :=
  match keys.mapM Key.text? with
  | some texts => .ok (", ".intercalate (sorted texts))
  | none => .error (.typeError "")

/-- `', '.join(items)`. -/
def joinTexts (items : List Json) : Except PyError String :=
  match items.mapM Ingress.str? with
  | some texts => .ok (", ".intercalate texts)
  | none =>
    let i := items.findIdx fun v => (Ingress.str? v).isNone
    .error (.typeError s!"sequence item {i}: expected str instance, {(items.getD i .null).typeName} found")

/-- `contract_data`, with the defaults of what it need not have. -/
structure ContractData where
  rateCard : List JsonDict := []
  obligations : List JsonDict := []
  scopeBoundaries : List JsonDict := []
  invoices : List JsonDict := []
  requiresApproval : Json := .bool false
  slaStatus : Json := .str ""
  penaltyTriggered : Json := .bool false

end ControlFabric.Margin
