import ControlFabric.Inference.DomainTypes
import ControlFabric.Py.Numbers
import ControlFabric.Lib.Hidden
import ControlFabric.Lib.Raise

/-! The scope enforcer: four filters over the sections of a raw context, then the classification
ceiling, then the fields that are always redacted. -/
namespace ControlFabric.Inference
open Lib Py

def alwaysRedactedFields : List String :=
  ["personal_data", "credentials", "encryption_keys", "internal_api_keys", "raw_pii",
    "financial_account_numbers"]

def classificationHierarchy : List (String × ℕ) :=
  [("public", 0), ("internal", 1), ("confidential", 2), ("restricted", 3), ("top_secret", 4)]

/-- `_CLASSIFICATION_HIERARCHY.get(name, 1)` of a string. -/
def hierarchyLevel (name : String) : ℕ := (classificationHierarchy.lookup name).getD 1

def unhashable (typeName : String) : PyError := .typeError s!"unhashable type: '{typeName}'"

/-- `value in names` for a set of strings, `none` being a missing key's `None`. -/
def isIn (names : List String) : Option Json → Except PyError Bool
  | some (.str s) => .ok (s ∈ names)
  | some (.arr _) => .error (unhashable "list")
  | some (.obj _) => .error (unhashable "dict")
  | _ => .ok false

/-- `_CLASSIFICATION_HIERARCHY.get(obj.get("classification", "internal"), 1)`. -/
def classificationLevel (obj : JsonDict) : Except PyError ℕ :=
  match Json.field obj "classification" with
  | none => .ok (hierarchyLevel "internal")
  | some (.str s) => .ok (hierarchyLevel s)
  | some (.arr _) => .error (unhashable "list")
  | some (.obj _) => .error (unhashable "dict")
  | some _ => .ok 1

/-- `type(v).__name__`. -/
def typeName : Json → String
  | .null => "NoneType"
  | .bool _ => "bool"
  | .int _ => "int"
  | .float _ => "float"
  | .str _ => "str"
  | .arr _ => "list"
  | .obj _ => "dict"

/-- What `for x in v` runs through. -/
def iterate : Json → Except PyError (List Json)
  | .arr items => .ok items
  | .obj items => .ok (items.map fun p => .str p.1)
  | .str s => .ok (s.toList.map fun c => .str (String.singleton c))
  | v => .error (.typeError s!"'{typeName v}' object is not iterable")

/-- `v.items()`. -/
def itemsOf : Json → Except PyError JsonDict
  | .obj items => .ok items
  | v => .error (.attributeError s!"'{typeName v}' object has no attribute 'items'")

def redactedMarker : Json :=
  .obj [("_redacted", .bool true), ("reason", .str "above_classification_ceiling")]

/-! `redact_if_above`, on a value, the items of a list and the items of a dict. -/
mutual

def redactIfAbove (ceiling : ℕ) : Json → Except PyError Json
  | .arr items => do return .arr (← redactItems ceiling items)
  | .obj fields => do
    let level ← classificationLevel fields
    if ceiling < level then return redactedMarker
    return .obj (← redactFields ceiling fields)
  | v => .ok v

def redactItems (ceiling : ℕ) : List Json → Except PyError (List Json)
  | [] => .ok []
  | v :: rest => do
    let v' ← redactIfAbove ceiling v
    let rest' ← redactItems ceiling rest
    return v' :: rest'

def redactFields (ceiling : ℕ) : List (String × Json) → Except PyError (List (String × Json))
  | [] => .ok []
  | (k, v) :: rest => do
    let v' ← redactIfAbove ceiling v
    let rest' ← redactFields ceiling rest
    return (k, v') :: rest'

end

/-! `strip`, likewise. -/
mutual

def strip : Json → Json
  | .arr items => .arr (stripItems items)
  | .obj fields => .obj (stripFields fields)
  | v => v

def stripItems : List Json → List Json
  | [] => []
  | v :: rest => strip v :: stripItems rest

def stripFields : List (String × Json) → List (String × Json)
  | [] => []
  | (k, v) :: rest =>
    if k ∈ alwaysRedactedFields then stripFields rest else (k, strip v) :: stripFields rest

end

/-- `_get_node_depth`. -/
def getNodeDepth (uc : Unicode) (key : String) : ℤ :=
  let marker := "level_".toList
  match breakOn marker key.toList with
  | none => 1
  | some (_, rest) =>
    let piece := ((breakOn marker rest).map Prod.fst).getD rest
    (int? uc (piece.takeWhile (· ≠ '_'))).getD 1

/-- An enforcer, once its scope has passed the integrity check. -/
structure ScopeEnforcer where
  scope : ScopeParameters

namespace ScopeEnforcer

/-- `ScopeEnforcer(scope)`. -/
def new (rt : Runtime) (scope : ScopeParameters) : Except PyError ScopeEnforcer := do
  let recomputed ← ScopeParameters.new rt scope.allowedControlObjectIds
    scope.allowedOperationalPlanes scope.maxGraphDepth scope.allowedRelationshipTypes
    scope.dataClassificationCeiling
  if recomputed.scopeHash ≠ scope.scopeHash then
    .error (.scopeViolationError "Scope hash mismatch — parameters may have been tampered with")
  else .ok ⟨scope⟩

variable (uc : Unicode) (e : ScopeEnforcer)

def approvesObject : Json → Except PyError Bool
  | .obj d => isIn e.scope.allowedControlObjectIds (Json.field d "id")
  | _ => .ok false

/-- The three tests of a relationship; the later ones are made only where the earlier pass. -/
def approvesRelationship : Json → Except PyError Bool
  | .obj d => do
    if ← isIn e.scope.allowedRelationshipTypes (Json.field d "type") then
      if ← isIn e.scope.allowedControlObjectIds (Json.field d "source_id") then
        isIn e.scope.allowedControlObjectIds (Json.field d "target_id")
      else return false
    else return false
  | _ => .ok false

def filterControlObjects (objects : Json) : Except PyError Json := do
  return .arr (← filterE e.approvesObject (← iterate objects))

def filterRelationships (relationships : Json) : Except PyError Json := do
  return .arr (← filterE e.approvesRelationship (← iterate relationships))

def withinDepth (p : String × Json) : Bool := getNodeDepth uc p.1 ≤ e.scope.maxGraphDepth

def inApprovedPlane (p : String × Json) : Bool := p.1 ∈ e.scope.allowedOperationalPlanes

def enforceGraphDepth (graphData : Json) : Except PyError Json := do
  return .obj ((← itemsOf graphData).filter (e.withinDepth uc))

def filterPlanes (planeData : Json) : Except PyError Json := do
  return .obj ((← itemsOf planeData).filter e.inApprovedPlane)

/-- `if key in raw_context: sanitised[key] = f(raw_context[key])`. -/
def filterSection (raw : JsonDict) (key : String) (f : Json → Except PyError Json) :
    Except PyError JsonDict :=
  match Json.field raw key with
  | none => .ok []
  | some v => do return [(key, ← f v)]

def filterSections (raw : JsonDict) : Except PyError JsonDict := do
  let objects ← filterSection raw "control_objects" e.filterControlObjects
  let relationships ← filterSection raw "relationships" e.filterRelationships
  let graphData ← filterSection raw "graph_data" (e.enforceGraphDepth uc)
  let planeData ← filterSection raw "plane_data" e.filterPlanes
  return objects ++ relationships ++ graphData ++ planeData

def ceilingLevel : ℕ := hierarchyLevel e.scope.dataClassificationCeiling

/-- `len(sanitised.get("control_objects", []))`; the value is a list, if there is one. -/
def objectCount (sanitised : JsonDict) : ℕ :=
  match Json.field sanitised "control_objects" with
  | some (.arr items) => items.length
  | _ => 0

def scopeMetadata (sanitised : JsonDict) : Json :=
  .obj [("scope_hash", .str e.scope.scopeHash),
    ("allowed_planes", .arr (e.scope.allowedOperationalPlanes.map .str)),
    ("max_depth", .int e.scope.maxGraphDepth),
    ("allowed_relationship_types", .arr (e.scope.allowedRelationshipTypes.map .str)),
    ("data_classification_ceiling", .str e.scope.dataClassificationCeiling),
    ("object_count", .int (objectCount sanitised))]

def enforce (rawContext : JsonDict) : Except PyError JsonDict := do
  let filtered ← e.filterSections uc rawContext
  let sanitised := stripFields (← redactFields e.ceilingLevel filtered)
  return sanitised ++ [("_scope_metadata", e.scopeMetadata sanitised)]

/-! ### What a section becomes -/

/-- A section's value behind its filter, the ceiling and the redaction. -/
def sanitise (f : Json → Except PyError Json) (v : Json) : Except PyError Json := do
  return strip (← redactIfAbove e.ceilingLevel (← f v))

/-- An absent section stays absent, a present one is sanitised. -/
def SectionYields (f : Json → Except PyError Json) : Option Json → Option Json → Prop
  | none, out => out = none
  | some v, out => ∃ y, e.sanitise f v = .ok y ∧ out = some y

def sectionEntry (key : String) (v : Option Json) : JsonDict := (v.map (Prod.mk key)).toList

/-- The sanitised context put together from its four sections. -/
def assemble (objects relationships graphData planeData : Option Json) : JsonDict :=
  sectionEntry "control_objects" objects ++ sectionEntry "relationships" relationships ++
    sectionEntry "graph_data" graphData ++ sectionEntry "plane_data" planeData

end ScopeEnforcer

/-! ### When the ceiling pass returns -/

/-! Every dict the ceiling pass reaches has a hashable classification. -/
mutual

def Readable (ceiling : ℕ) : Json → Prop
  | .arr items => ReadableItems ceiling items
  | .obj fields => ∃ level, classificationLevel fields = .ok level ∧
      (level ≤ ceiling → ReadableFields ceiling fields)
  | _ => True

def ReadableItems (ceiling : ℕ) : List Json → Prop
  | [] => True
  | v :: rest => Readable ceiling v ∧ ReadableItems ceiling rest

def ReadableFields (ceiling : ℕ) : List (String × Json) → Prop
  | [] => True
  | (_, v) :: rest => Readable ceiling v ∧ ReadableFields ceiling rest

end

mutual

theorem redactIfAbove_returns (ceiling : ℕ) (v : Json) :
    (∃ out, redactIfAbove ceiling v = .ok out) ↔ Readable ceiling v := by
  cases v with
  | arr items =>
    simp only [redactIfAbove, Readable, bind_eq_ok_iff, pure, Except.pure, Except.ok.injEq]
    rw [← redactItems_returns ceiling items]
    constructor
    · rintro ⟨_, out, h, -⟩
      exact ⟨out, h⟩
    · rintro ⟨out, h⟩
      exact ⟨_, out, h, rfl⟩
  | obj fields =>
    simp only [redactIfAbove, Readable, bind_eq_ok_iff, pure, Except.pure]
    constructor
    · rintro ⟨out, level, hlevel, hout⟩
      refine ⟨level, hlevel, fun hle => ?_⟩
      rw [if_neg (by omega)] at hout
      obtain ⟨out', hout', -⟩ := bind_eq_ok_iff.mp hout
      exact (redactFields_returns ceiling fields).mp ⟨out', hout'⟩
    · rintro ⟨level, hlevel, hfields⟩
      by_cases hlt : ceiling < level
      · exact ⟨redactedMarker, level, hlevel, by rw [if_pos hlt]⟩
      · obtain ⟨out, hout⟩ := (redactFields_returns ceiling fields).mpr (hfields (by omega))
        refine ⟨.obj out, level, hlevel, ?_⟩
        rw [if_neg hlt]
        exact bind_eq_ok_iff.mpr ⟨out, hout, rfl⟩
  | _ => simp [redactIfAbove, Readable]

theorem redactItems_returns (ceiling : ℕ) (items : List Json) :
    (∃ out, redactItems ceiling items = .ok out) ↔ ReadableItems ceiling items := by
  cases items with
  | nil => simp [redactItems, ReadableItems]
  | cons v rest =>
    simp only [redactItems, ReadableItems, bind_eq_ok_iff, pure, Except.pure, Except.ok.injEq]
    rw [← redactIfAbove_returns ceiling v, ← redactItems_returns ceiling rest]
    constructor
    · rintro ⟨_, out, h, out', h', -⟩
      exact ⟨⟨out, h⟩, out', h'⟩
    · rintro ⟨⟨out, h⟩, out', h'⟩
      exact ⟨_, out, h, out', h', rfl⟩

theorem redactFields_returns (ceiling : ℕ) (fields : List (String × Json)) :
    (∃ out, redactFields ceiling fields = .ok out) ↔ ReadableFields ceiling fields := by
  cases fields with
  | nil => simp [redactFields, ReadableFields]
  | cons p rest =>
    obtain ⟨k, v⟩ := p
    simp only [redactFields, ReadableFields, bind_eq_ok_iff, pure, Except.pure, Except.ok.injEq]
    rw [← redactIfAbove_returns ceiling v, ← redactFields_returns ceiling rest]
    constructor
    · rintro ⟨_, out, h, out', h', -⟩
      exact ⟨⟨out, h⟩, out', h'⟩
    · rintro ⟨⟨out, h⟩, out', h'⟩
      exact ⟨_, out, h, out', h', rfl⟩

end

theorem readableItems_iff {ceiling : ℕ} {l : List Json} :
    ReadableItems ceiling l ↔ ∀ v ∈ l, Readable ceiling v := by
  induction l with
  | nil => simp [ReadableItems]
  | cons v l ih => simp [ReadableItems, ih]

theorem readableFields_iff {ceiling : ℕ} {d : JsonDict} :
    ReadableFields ceiling d ↔ ∀ p ∈ d, Readable ceiling p.2 := by
  induction d with
  | nil => simp [ReadableFields]
  | cons p d ih => simp [ReadableFields, ih]

/-- A filter by key keeps a field or drops it. -/
theorem field_filter (p : String → Bool) (d : JsonDict) (key : String) :
    Json.field (d.filter fun q => p q.1) key = if p key then Json.field d key else none := by
  unfold Json.field
  induction d with
  | nil => simp
  | cons q d ih =>
    by_cases he : q.1 = key
    · subst he
      by_cases hq : p q.1 = true
      · simp [hq]
      · simpa [List.filter_cons, hq] using ih
    · by_cases hq : p q.1 = true
      · simpa [List.filter_cons, hq, he] using ih
      · simpa [List.filter_cons, hq, he] using ih

/-! ### The sections of the result -/

theorem redactFields_append {ceiling : ℕ} {l m out : JsonDict} :
    redactFields ceiling (l ++ m) = .ok out ↔
      ∃ l' m', redactFields ceiling l = .ok l' ∧ redactFields ceiling m = .ok m' ∧
        out = l' ++ m' := by
  induction l generalizing out with
  | nil => simp [redactFields]
  | cons p l ih =>
    obtain ⟨k, v⟩ := p
    simp only [List.cons_append, redactFields, bind_eq_ok_iff, ih, pure, Except.pure,
      Except.ok.injEq]
    grind

theorem stripFields_append (l m : JsonDict) :
    stripFields (l ++ m) = stripFields l ++ stripFields m := by
  induction l with
  | nil => rfl
  | cons p l ih =>
    simp only [List.cons_append, stripFields, ih]
    split <;> simp

namespace ScopeEnforcer
variable (uc : Unicode) (e : ScopeEnforcer)

private theorem section_eq_ok {raw : JsonDict} {key : String} {f : Json → Except PyError Json}
    (hkey : key ∉ alwaysRedactedFields) {out : JsonDict} :
    (∃ filtered redacted, filterSection raw key f = .ok filtered ∧
        redactFields e.ceilingLevel filtered = .ok redacted ∧ out = stripFields redacted) ↔
      ∃ y, e.SectionYields f (Json.field raw key) y ∧ out = sectionEntry key y := by
  unfold filterSection
  cases Json.field raw key with
  | none => simp [SectionYields, sectionEntry, redactFields, stripFields]
  | some v =>
    simp only [SectionYields, sanitise, bind_eq_ok_iff, pure, Except.pure, Except.ok.injEq]
    constructor
    · rintro ⟨_, redacted, ⟨w, hw, rfl⟩, hredacted, rfl⟩
      simp only [redactFields, bind_eq_ok_iff, pure, Except.pure, Except.ok.injEq] at hredacted
      obtain ⟨x, hx, _, rfl, rfl⟩ := hredacted
      exact ⟨_, ⟨_, ⟨w, hw, x, hx, rfl⟩, rfl⟩, by simp [stripFields, hkey, sectionEntry]⟩
    · rintro ⟨_, ⟨_, ⟨w, hw, x, hx, rfl⟩, rfl⟩, rfl⟩
      refine ⟨_, [(key, x)], ⟨w, hw, rfl⟩, ?_, by simp [stripFields, hkey, sectionEntry]⟩
      simp [redactFields, hx, bind, Except.bind, pure, Except.pure]

/-- `enforce` returns when each section does, and then puts the sections together. -/
theorem enforce_eq_ok {raw sanitised : JsonDict} :
    e.enforce uc raw = .ok sanitised ↔ ∃ objects relationships graphData planeData,
      e.SectionYields e.filterControlObjects (Json.field raw "control_objects") objects ∧
      e.SectionYields e.filterRelationships (Json.field raw "relationships") relationships ∧
      e.SectionYields (e.enforceGraphDepth uc) (Json.field raw "graph_data") graphData ∧
      e.SectionYields e.filterPlanes (Json.field raw "plane_data") planeData ∧
      sanitised = assemble objects relationships graphData planeData ++
        [("_scope_metadata",
          e.scopeMetadata (assemble objects relationships graphData planeData))] := by
  have hsection {key : String} {f : Json → Except PyError Json} (hkey : key ∉ alwaysRedactedFields)
      {filtered redacted : JsonDict} (hf : filterSection raw key f = .ok filtered)
      (hr : redactFields e.ceilingLevel filtered = .ok redacted) :=
    (e.section_eq_ok hkey).mp ⟨filtered, redacted, hf, hr, rfl⟩
  have hobjects : "control_objects" ∉ alwaysRedactedFields := by decide
  have hrelationships : "relationships" ∉ alwaysRedactedFields := by decide
  have hgraph : "graph_data" ∉ alwaysRedactedFields := by decide
  have hplane : "plane_data" ∉ alwaysRedactedFields := by decide
  simp only [enforce, filterSections, bind_eq_ok_iff, pure, Except.pure, Except.ok.injEq]
  constructor
  · rintro ⟨_, ⟨fo, ho, fr, hr, fg, hg, fp, hp, rfl⟩, redacted, hredacted, rfl⟩
    obtain ⟨_, rp, hthree, hrp, rfl⟩ := redactFields_append.mp hredacted
    obtain ⟨_, rg, htwo, hrg, rfl⟩ := redactFields_append.mp hthree
    obtain ⟨ro, rr, hro, hrr, rfl⟩ := redactFields_append.mp htwo
    obtain ⟨objects, hyo, heo⟩ := hsection hobjects ho hro
    obtain ⟨relationships, hyr, her⟩ := hsection hrelationships hr hrr
    obtain ⟨graphData, hyg, heg⟩ := hsection hgraph hg hrg
    obtain ⟨planeData, hyp, hep⟩ := hsection hplane hp hrp
    have hall : stripFields (ro ++ rr ++ rg ++ rp) =
        assemble objects relationships graphData planeData := by
      simp only [stripFields_append, heo, her, heg, hep, assemble]
    exact ⟨objects, relationships, graphData, planeData, hyo, hyr, hyg, hyp, by rw [hall]⟩
  · rintro ⟨objects, relationships, graphData, planeData, hyo, hyr, hyg, hyp, rfl⟩
    obtain ⟨fo, ro, ho, hro, heo⟩ := (e.section_eq_ok hobjects).mpr ⟨objects, hyo, rfl⟩
    obtain ⟨fr, rr, hr, hrr, her⟩ := (e.section_eq_ok hrelationships).mpr ⟨relationships, hyr, rfl⟩
    obtain ⟨fg, rg, hg, hrg, heg⟩ := (e.section_eq_ok hgraph).mpr ⟨graphData, hyg, rfl⟩
    obtain ⟨fp, rp, hp, hrp, hep⟩ := (e.section_eq_ok hplane).mpr ⟨planeData, hyp, rfl⟩
    have hall : stripFields (ro ++ rr ++ rg ++ rp) =
        assemble objects relationships graphData planeData := by
      simp only [stripFields_append, ← heo, ← her, ← heg, ← hep, assemble]
    refine ⟨_, ⟨fo, ho, fr, hr, fg, hg, fp, hp, rfl⟩, ro ++ rr ++ rg ++ rp, ?_, by rw [hall]⟩
    simp only [redactFields_append]
    exact ⟨_, _, ⟨_, _, ⟨_, _, hro, hrr, rfl⟩, hrg, rfl⟩, hrp, rfl⟩

theorem sanitise_eq_ok {f : Json → Except PyError Json} {v y : Json} :
    e.sanitise f v = .ok y ↔
      ∃ w x, f v = .ok w ∧ redactIfAbove e.ceilingLevel w = .ok x ∧ y = strip x := by
  simp only [sanitise, bind_eq_ok_iff, pure, Except.pure, Except.ok.injEq]
  grind

/-- A present section is sanitised when its filter returns something readable. -/
theorem sectionYields_returns {f : Json → Except PyError Json} {o : Option Json} :
    (∃ y, e.SectionYields f o y) ↔
      ∀ v ∈ o, ∃ w, f v = .ok w ∧ Readable e.ceilingLevel w := by
  cases o with
  | none => simp [SectionYields]
  | some v =>
    simp only [SectionYields, Option.mem_def, Option.some.injEq, forall_eq']
    constructor
    · rintro ⟨_, x, hx, rfl⟩
      obtain ⟨w, r, hw, hr, -⟩ := e.sanitise_eq_ok.mp hx
      exact ⟨w, hw, (redactIfAbove_returns _ w).mp ⟨r, hr⟩⟩
    · rintro ⟨w, hw, hread⟩
      obtain ⟨r, hr⟩ := (redactIfAbove_returns _ w).mpr hread
      exact ⟨some (strip r), strip r, e.sanitise_eq_ok.mpr ⟨w, r, hw, hr, rfl⟩, rfl⟩

/-- What the filters and the ceiling pass need of a context not to raise. -/
structure Enforceable (raw : JsonDict) : Prop where
  controlObjects : ∀ v ∈ Json.field raw "control_objects", ∃ l, iterate v = .ok l ∧
    ∀ x ∈ l, ∃ b, e.approvesObject x = .ok b ∧ (b = true → Readable e.ceilingLevel x)
  relationships : ∀ v ∈ Json.field raw "relationships", ∃ l, iterate v = .ok l ∧
    ∀ x ∈ l, ∃ b, e.approvesRelationship x = .ok b ∧ (b = true → Readable e.ceilingLevel x)
  graphData : ∀ v ∈ Json.field raw "graph_data", ∃ d, v = .obj d ∧
    Readable e.ceilingLevel (.obj (d.filter (e.withinDepth uc)))
  planeData : ∀ v ∈ Json.field raw "plane_data", ∃ d, v = .obj d ∧
    Readable e.ceilingLevel (.obj (d.filter e.inApprovedPlane))

private theorem filterE_readable {p : Json → Except PyError Bool} {v : Json} :
    (∃ w, (do return Json.arr (← filterE p (← iterate v)) : Except PyError Json) = .ok w ∧
        Readable e.ceilingLevel w) ↔
      ∃ l, iterate v = .ok l ∧ ∀ x ∈ l, ∃ b, p x = .ok b ∧ (b = true → Readable e.ceilingLevel x) := by
  simp only [bind_eq_ok_iff, pure, Except.pure, Except.ok.injEq]
  constructor
  · rintro ⟨_, ⟨l, hl, k, hk, rfl⟩, hread⟩
    obtain ⟨hall, rfl⟩ := filterE_eq_ok.mp hk
    refine ⟨l, hl, fun x hx => ?_⟩
    obtain ⟨b, hb⟩ := hall x hx
    refine ⟨b, hb, fun htrue => ?_⟩
    apply readableItems_iff.mp hread
    rw [List.mem_filter]
    exact ⟨hx, by rw [hb, htrue]; rfl⟩
  · rintro ⟨l, hl, hall⟩
    have hk := filterE_eq_ok.mpr ⟨fun x hx => (hall x hx).imp fun _ hb => hb.1, rfl⟩
    refine ⟨_, ⟨l, hl, _, hk, rfl⟩, ?_⟩
    apply readableItems_iff.mpr
    intro x hx
    obtain ⟨hmem, hkeep⟩ := List.mem_filter.mp hx
    obtain ⟨b, hb, hread⟩ := hall x hmem
    rw [hb] at hkeep
    exact hread hkeep

private theorem filter_readable {p : String × Json → Bool} {v : Json} :
    (∃ w, (do return Json.obj ((← itemsOf v).filter p) : Except PyError Json) = .ok w ∧
        Readable e.ceilingLevel w) ↔
      ∃ d, v = .obj d ∧ Readable e.ceilingLevel (.obj (d.filter p)) := by
  simp only [bind_eq_ok_iff, pure, Except.pure, Except.ok.injEq]
  constructor
  · rintro ⟨_, ⟨d, hd, rfl⟩, hread⟩
    cases v with
    | obj items => exact ⟨d, by rw [Except.ok.inj hd], hread⟩
    | _ => cases hd
  · rintro ⟨d, rfl, hread⟩
    exact ⟨_, ⟨d, rfl, rfl⟩, hread⟩

theorem enforce_returns_iff {raw : JsonDict} :
    (∃ sanitised, e.enforce uc raw = .ok sanitised) ↔ e.Enforceable uc raw := by
  have hsections : (∃ sanitised, e.enforce uc raw = .ok sanitised) ↔
      (∃ y, e.SectionYields e.filterControlObjects (Json.field raw "control_objects") y) ∧
      (∃ y, e.SectionYields e.filterRelationships (Json.field raw "relationships") y) ∧
      (∃ y, e.SectionYields (e.enforceGraphDepth uc) (Json.field raw "graph_data") y) ∧
      (∃ y, e.SectionYields e.filterPlanes (Json.field raw "plane_data") y) := by
    simp only [enforce_eq_ok]
    constructor
    · rintro ⟨_, o, r, g, p, ho, hr, hg, hp, -⟩
      exact ⟨⟨o, ho⟩, ⟨r, hr⟩, ⟨g, hg⟩, ⟨p, hp⟩⟩
    · rintro ⟨⟨o, ho⟩, ⟨r, hr⟩, ⟨g, hg⟩, ⟨p, hp⟩⟩
      exact ⟨_, o, r, g, p, ho, hr, hg, hp, rfl⟩
  rw [hsections]
  simp only [sectionYields_returns, filterControlObjects, filterRelationships, enforceGraphDepth,
    filterPlanes, filterE_readable, filter_readable]
  constructor
  · rintro ⟨ho, hr, hg, hp⟩
    exact ⟨ho, hr, hg, hp⟩
  · rintro ⟨ho, hr, hg, hp⟩
    exact ⟨ho, hr, hg, hp⟩

/-- The sections `enforce` reads, each with its filter. -/
def sectionFilters : List (String × (Json → Except PyError Json)) :=
  [("control_objects", e.filterControlObjects), ("relationships", e.filterRelationships),
    ("graph_data", e.enforceGraphDepth uc), ("plane_data", e.filterPlanes)]

end ScopeEnforcer

/-! ### What may be raised -/

/-- The exceptions that a malformed context leads to. -/
inductive OfMalformed : PyError → Prop
  | typeError (message : String) : OfMalformed (.typeError message)
  | attributeError (message : String) : OfMalformed (.attributeError message)

theorem isIn_errors (names : List String) (v : Option Json) :
    ErrorsIn OfMalformed (isIn names v) := by
  unfold isIn
  split
  · exact errorsIn_ok _
  · exact errorsIn_error (.typeError _)
  · exact errorsIn_error (.typeError _)
  · exact errorsIn_ok _

theorem classificationLevel_errors (d : JsonDict) :
    ErrorsIn OfMalformed (classificationLevel d) := by
  unfold classificationLevel
  split
  · exact errorsIn_ok _
  · exact errorsIn_ok _
  · exact errorsIn_error (.typeError _)
  · exact errorsIn_error (.typeError _)
  · exact errorsIn_ok _

theorem iterate_errors (v : Json) : ErrorsIn OfMalformed (iterate v) := by
  unfold iterate
  split
  · exact errorsIn_ok _
  · exact errorsIn_ok _
  · exact errorsIn_ok _
  · exact errorsIn_error (.typeError _)

theorem itemsOf_errors (v : Json) : ErrorsIn OfMalformed (itemsOf v) := by
  unfold itemsOf
  split
  · exact errorsIn_ok _
  · exact errorsIn_error (.attributeError _)

mutual

theorem redactIfAbove_errors (ceiling : ℕ) (v : Json) :
    ErrorsIn OfMalformed (redactIfAbove ceiling v) := by
  cases v with
  | arr items =>
    rw [redactIfAbove]
    exact (redactItems_errors ceiling items).bind fun _ => errorsIn_ok _
  | obj fields =>
    rw [redactIfAbove]
    apply (classificationLevel_errors fields).bind
    intro level
    split
    · exact errorsIn_ok _
    · exact (redactFields_errors ceiling fields).bind fun _ => errorsIn_ok _
  | _ => exact errorsIn_ok _

theorem redactItems_errors (ceiling : ℕ) (items : List Json) :
    ErrorsIn OfMalformed (redactItems ceiling items) := by
  cases items with
  | nil => exact errorsIn_ok _
  | cons v rest =>
    rw [redactItems]
    exact (redactIfAbove_errors ceiling v).bind fun _ =>
      (redactItems_errors ceiling rest).bind fun _ => errorsIn_ok _

theorem redactFields_errors (ceiling : ℕ) (fields : List (String × Json)) :
    ErrorsIn OfMalformed (redactFields ceiling fields) := by
  cases fields with
  | nil => exact errorsIn_ok _
  | cons p rest =>
    rw [redactFields]
    exact (redactIfAbove_errors ceiling p.2).bind fun _ =>
      (redactFields_errors ceiling rest).bind fun _ => errorsIn_ok _

end

namespace ScopeEnforcer
variable (uc : Unicode) (e : ScopeEnforcer)

theorem approvesObject_errors (v : Json) : ErrorsIn OfMalformed (e.approvesObject v) := by
  unfold approvesObject
  split
  · exact isIn_errors _ _
  · exact errorsIn_ok _

theorem approvesRelationship_errors (v : Json) :
    ErrorsIn OfMalformed (e.approvesRelationship v) := by
  unfold approvesRelationship
  split
  · apply (isIn_errors _ _).bind
    intro typeApproved
    split
    · apply (isIn_errors _ _).bind
      intro sourceApproved
      split
      · exact isIn_errors _ _
      · exact errorsIn_ok _
    · exact errorsIn_ok _
  · exact errorsIn_ok _

theorem filterSection_errors (raw : JsonDict) (key : String) {f : Json → Except PyError Json}
    (hf : ∀ v, ErrorsIn OfMalformed (f v)) : ErrorsIn OfMalformed (filterSection raw key f) := by
  unfold filterSection
  split
  · exact errorsIn_ok _
  · exact (hf _).bind fun _ => errorsIn_ok _

/-- On a context, the enforcer never reports a scope violation. -/
theorem enforce_errors (raw : JsonDict) : ErrorsIn OfMalformed (e.enforce uc raw) := by
  have hobjects (v : Json) : ErrorsIn OfMalformed (e.filterControlObjects v) :=
    (iterate_errors v).bind fun items =>
      (errorsIn_filterE e.approvesObject_errors items).bind fun _ => errorsIn_ok _
  have hrelationships (v : Json) : ErrorsIn OfMalformed (e.filterRelationships v) :=
    (iterate_errors v).bind fun items =>
      (errorsIn_filterE e.approvesRelationship_errors items).bind fun _ => errorsIn_ok _
  have hgraph (v : Json) : ErrorsIn OfMalformed (e.enforceGraphDepth uc v) :=
    (itemsOf_errors v).bind fun _ => errorsIn_ok _
  have hplanes (v : Json) : ErrorsIn OfMalformed (e.filterPlanes v) :=
    (itemsOf_errors v).bind fun _ => errorsIn_ok _
  have hsections : ErrorsIn OfMalformed (e.filterSections uc raw) :=
    (filterSection_errors raw _ hobjects).bind fun _ =>
      (filterSection_errors raw _ hrelationships).bind fun _ =>
        (filterSection_errors raw _ hgraph).bind fun _ =>
          (filterSection_errors raw _ hplanes).bind fun _ => errorsIn_ok _
  exact hsections.bind fun filtered =>
    (redactFields_errors e.ceilingLevel filtered).bind fun _ => errorsIn_ok _

end ScopeEnforcer

theorem ScopeParameters.new_scopeHash {rt : Runtime} {ids planes relationshipTypes : List String}
    {depth : ℤ} {ceiling : String} {scope : ScopeParameters}
    (h : ScopeParameters.new rt ids planes depth relationshipTypes ceiling = .ok scope) :
    scope.scopeHash = rt.sha256 (scope.hashText rt) := by
  unfold ScopeParameters.new at h
  split at h
  · cases h
    rfl
  · split at h <;> cases h

/-- Scope parameters fresh from their constructor pass the integrity check. -/
theorem ScopeEnforcer.new_ok {rt : Runtime} {scope : ScopeParameters}
    (h : scope.scopeHash = rt.sha256 (scope.hashText rt)) :
    ScopeEnforcer.new rt scope = .ok ⟨scope⟩ := by
  unfold ScopeEnforcer.new
  rw [ScopeParameters.new_fields]
  have hhash : (scope.computeScopeHash rt).scopeHash = scope.scopeHash := h.symm
  exact if_neg (not_not.mpr hhash)

/-! ### Replacing a section -/

/-- The context with the value under a key replaced. -/
def replaceField (c : JsonDict) (key : String) (v : Json) : JsonDict :=
  c.map fun p => if p.1 = key then (key, v) else p

theorem field_replaceField (c : JsonDict) (key key' : String) (v : Json) :
    Json.field (replaceField c key v) key' =
      if key' = key then (Json.field c key).map fun _ => v else Json.field c key' := by
  unfold Json.field replaceField
  induction c with
  | nil => simp
  | cons p c ih =>
    by_cases hp : p.1 = key
    · by_cases hk : key' = key
      · simp [hp, hk]
      · have hne : p.1 ≠ key' := fun he => hk (he.symm.trans hp)
        have hne' : key ≠ key' := fun he => hk he.symm
        simpa [hp, hk, hne, hne'] using ih
    · by_cases hk : p.1 = key'
      · have hne : key' ≠ key := fun he => hp (hk.trans he)
        simp [hk, hne]
      · by_cases hkk : key' = key
        · subst hkk
          simpa [hp] using ih
        · simpa [hp, hk, hkk] using ih

end ControlFabric.Inference
