import ControlFabric.Validation.DomainTypes
import ControlFabric.Py.Numbers

/-! The rules of the validation chain: what a rule reads from its context, the ten default rules and
the registry. -/
namespace ControlFabric

/-! ### Values of any type -/

namespace Json

/-- `type(v).__name__`. -/
def typeName : Json → String
  | .null => "NoneType"
  | .bool _ => "bool"
  | .int _ => "int"
  | .float _ => "float"
  | .str _ => "str"
  | .arr _ => "list"
  | .obj _ => "dict"

/-- `x < v` of a number of the named type. -/
def exceeds (v : Json) (type : String) (x : ℚ) : Except PyError Bool :=
  match v with
  | .bool b => .ok (x < if b then 1 else 0)
  | .int n => .ok (x < n)
  | .float q => .ok (x < q)
  | v => .error (.typeError s!"'<' not supported between instances of '{type}' and '{v.typeName}'")

def isStr (s : String) : Json → Bool
  | .str t => t = s
  | _ => false

/-- `s in v`. -/
def contains (v : Json) (s : String) : Except PyError Bool :=
  match v with
  | .arr items => .ok (items.any (isStr s))
  | .str t => .ok (s.toList <:+: t.toList)
  | .obj items => .ok (items.any fun p => p.1 = s)
  | v => .error (.typeError s!"argument of type '{v.typeName}' is not iterable")

/-- `iter(v)`. -/
def iterate : Json → Except PyError (List Json)
  | .arr items => .ok items
  | .str t => .ok (t.toList.map fun c => .str (String.singleton c))
  | .obj items => .ok (items.map fun p => .str p.1)
  | v => .error (.typeError s!"'{v.typeName}' object is not iterable")

/-- `v in texts`, of a set of texts. -/
def inSet (texts : List String) : Json → Except PyError Bool
  | .str s => .ok (s ∈ texts)
  | .arr _ => .error (.typeError "unhashable type: 'list'")
  | .obj _ => .error (.typeError "unhashable type: 'dict'")
  | _ => .ok false

/-- `bool(d.get(key, False))`. -/
def flag (d : JsonDict) (key : String) : Bool := ((field d key).getD (.bool false)).truthy

end Json

namespace Fabric.Validation
open Lib Py

/-! ### Rules -/

structure ValidationRuleApplicability where
  applicablePlanes : List PlaneType := []
  applicableObjectTypes : List ControlObjectType := []
  applicableObjectKinds : List String := []
  applicableActionTypes : List String := []

/-- The declared kinds are not asked for. -/
def ValidationRuleApplicability.isApplicable (a : ValidationRuleApplicability)
    (objects : List ControlObject) (actionType : String) : Bool :=
  if a.applicableActionTypes ≠ [] ∧ actionType ∉ a.applicableActionTypes then false
  else if a.applicablePlanes ≠ [] ∧ ¬ objects.any fun o => o.plane ∈ a.applicablePlanes then false
  else if a.applicableObjectTypes ≠ [] ∧
    ¬ objects.any fun o => o.objectType ∈ a.applicableObjectTypes then false
  else true

/-- A rule reads the objects, the graph and the context. -/
structure W3ValidationRule where
  ruleId : String
  applicability : ValidationRuleApplicability := {}
  validate : List ControlObject → InMemoryGraphRepository → JsonDict →
    Except PyError ValidationResult

/-- The result of a rule that has found what it looks for. -/
def ValidationResult.ofFindings (ruleId explanation : String) (failures : List ValidationFailure)
    (warnings : List ValidationWarning) : ValidationResult where
  ruleId := ruleId
  status :=
    if failures ≠ [] then .failed else if warnings ≠ [] then .passedWithWarnings else .passed
  passed := failures.length = 0
  failures := failures
  warnings := warnings
  explanation := explanation

def emptyTextFailure (obj : ControlObject) (name : String) : ValidationFailure where
  code := .schemaInvalid
  objectId := some obj.id
  description := s!"Object {obj.id} has empty {name}"
  ruleId := some "w3-schema-validity"

section Default
variable (str : Json → String) (uc : Unicode)

def w3SchemaValidityRule : W3ValidationRule where
  ruleId := "w3-schema-validity"
  validate objects _ _ :=
    let failures := objects.flatMap fun obj =>
      (if strStrip uc obj.label.toList = [] then [emptyTextFailure obj "label"] else []) ++
        if strStrip uc obj.domain.toList = [] then [emptyTextFailure obj "domain"] else []
    .ok (.ofFindings "w3-schema-validity"
      ("Schema validation" ++ if failures ≠ [] then " failed" else " passed") failures [])

def w3GraphCompletenessRule : W3ValidationRule where
  ruleId := "w3-graph-completeness"
  validate objects graph context :=
    let linkless := objects.filter fun obj => graph.getLinksForObject obj.id "both" none = []
    let strict := Json.flag context "require_graph_links"
    let description (obj : ControlObject) := s!"Object '{obj.label}' has no graph links"
    .ok (.ofFindings "w3-graph-completeness" "Graph completeness check"
      (if strict then linkless.map fun obj =>
        { code := .graphIncomplete
          objectId := some obj.id
          description := description obj
          ruleId := some "w3-graph-completeness" } else [])
      (if strict then [] else linkless.map fun obj =>
        { ruleId := some "w3-graph-completeness"
          objectId := some obj.id
          description := description obj }))

/-- What the evidence rule finds on one object. -/
def evidenceFailures (minEvidence requiredTypes : Json) (obj : ControlObject) :
    Except PyError (List ValidationFailure) := do
  let scarce ← minEvidence.exceeds "int" obj.evidence.length
  let few : List ValidationFailure := if scarce then
    [{ code := .evidenceInsufficient
       objectId := some obj.id
       description := s!"Object '{obj.label}' has {obj.evidence.length} evidence, " ++
        s!"requires {str minEvidence}"
       expected := minEvidence
       actual := .int obj.evidence.length
       ruleId := some "w3-evidence-sufficiency" }] else []
  if requiredTypes.truthy then
    let present := obj.evidence.map EvidenceRef.evidenceType
    let types ← requiredTypes.iterate
    let missing ← types.filterM fun t => not <$> t.inSet present
    if missing.isEmpty then return few
    return few ++
      [{ code := .evidenceInsufficient
         objectId := some obj.id
         description := s!"Object '{obj.label}' missing evidence types: {str (.arr missing)}"
         ruleId := some "w3-evidence-sufficiency"
         metadata := [("missing_types", .arr missing)] }]
  else return few

def w3EvidenceSufficiencyRule : W3ValidationRule where
  ruleId := "w3-evidence-sufficiency"
  validate objects _ context := do
    let minEvidence := (Json.field context "min_evidence").getD (.int 1)
    let requiredTypes := (Json.field context "required_evidence_types").getD (.arr [])
    let failures ← objects.mapM (evidenceFailures str minEvidence requiredTypes)
    return .ofFindings "w3-evidence-sufficiency" "Evidence sufficiency check" failures.flatten []

def w3ProvenanceIntegrityRule : W3ValidationRule where
  ruleId := "w3-provenance-integrity"
  validate objects _ _ :=
    let nameless := objects.filter fun obj => obj.provenance.createdBy = ""
    .ok (.ofFindings "w3-provenance-integrity" "Provenance integrity check"
      (nameless.map fun obj =>
        { code := .provenanceInvalid
          objectId := some obj.id
          description := s!"Object '{obj.label}' has no provenance creator"
          ruleId := some "w3-provenance-integrity" }) [])

def w3ReconciliationStateRule : W3ValidationRule where
  ruleId := "w3-reconciliation-state"
  validate objects _ context :=
    let requireReconciled := Json.flag context "require_reconciled"
    let failure (obj : ControlObject) (description : String) : ValidationFailure :=
      { code := .reconciliationIncomplete
        objectId := some obj.id
        description := description
        ruleId := some "w3-reconciliation-state" }
    let failures := objects.flatMap fun obj =>
      if obj.state = .disputed then [failure obj s!"Object '{obj.label}' is disputed"]
      else if requireReconciled ∧ obj.state ∉ [ControlState.reconciled, .actioned] then
        [failure obj (s!"Object '{obj.label}' is {obj.state.value}, " ++
          "expected reconciled or actioned")]
      else []
    .ok (.ofFindings "w3-reconciliation-state" "Reconciliation state check" failures [])

/-- The checks a domain adds, by name. -/
def w3PolicyComplianceRule (policyChecks : List (String × (ControlObject → JsonDict → Bool))) :
    W3ValidationRule where
  ruleId := "w3-policy-compliance"
  validate objects _ context :=
    let failures := policyChecks.flatMap fun p =>
      (objects.filter fun obj => ¬ p.2 obj context).map fun obj =>
        { code := ValidationFailureCode.policyNoncompliant
          objectId := some obj.id
          description := s!"Policy '{p.1}' failed for '{obj.label}'"
          ruleId := some "w3-policy-compliance" }
    .ok (.ofFindings "w3-policy-compliance" "Policy compliance check" failures [])

/-- `str` of the member, which is not its value. -/
def creationMethodStr : DeterminismLevel → String
  | .deterministic => "DeterminismLevel.DETERMINISTIC"
  | .modelAssisted => "DeterminismLevel.MODEL_ASSISTED"
  | .humanDetermined => "DeterminismLevel.HUMAN_DETERMINED"

/-- No `model_id`, or an empty one. -/
def modelless (obj : ControlObject) : Bool := obj.provenance.modelId ∈ [none, some ""]

def w3DeterministicReproducibilityRule : W3ValidationRule where
  ruleId := "w3-deterministic-reproducibility"
  validate objects _ _ :=
    let unnamed := objects.filter fun obj =>
      creationMethodStr obj.provenance.creationMethod = "model_assisted" ∧ modelless obj
    .ok (.ofFindings "w3-deterministic-reproducibility" "Deterministic reproducibility check" []
      (unnamed.map fun obj =>
        { ruleId := some "w3-deterministic-reproducibility"
          objectId := some obj.id
          description := s!"Object '{obj.label}' is model-assisted but has no model_id" }))

def w3ContradictionCheckRule : W3ValidationRule where
  ruleId := "w3-contradiction-check"
  validate objects graph _ :=
    let failures := objects.flatMap fun obj =>
      let links := graph.getLinksForObject obj.id "both" (some .contradicts)
      if links ≠ [] then
        [{ code := ValidationFailureCode.contradictoryEvidence
           objectId := some obj.id
           description := s!"Object '{obj.label}' has {links.length} contradictory links"
           ruleId := some "w3-contradiction-check"
           metadata := [("contradiction_count", .int links.length)] }]
      else []
    .ok (.ofFindings "w3-contradiction-check" "Contradiction check" failures [])

/-- What the confidence rule finds on one object. -/
def confidenceFailures (minConfidence : Json) (obj : ControlObject) :
    Except PyError (List ValidationFailure) := do
  let low ← minConfidence.exceeds "float" obj.confidence
  if low then
    return [{ code := .confidenceBelowThreshold
              objectId := some obj.id
              description := s!"Object '{obj.label}' confidence {str (.float obj.confidence)} " ++
                s!"below threshold {str minConfidence}"
              expected := minConfidence
              actual := .float obj.confidence
              ruleId := some "w3-confidence-threshold" }]
  else return []

def w3ConfidenceThresholdRule : W3ValidationRule where
  ruleId := "w3-confidence-threshold"
  validate objects _ context := do
    let minConfidence := (Json.field context "min_confidence").getD (.float (1 / 2))
    let failures ← objects.mapM (confidenceFailures str minConfidence)
    return .ofFindings "w3-confidence-threshold" "Confidence threshold check" failures.flatten []

/-- `[ControlState.FROZEN.value, ControlState.RECONCILED.value]`. -/
def defaultRequiredStates : Json :=
  .arr [.str ControlState.frozen.value, .str ControlState.reconciled.value]

def unexpectedState (requiredStates : Json) (obj : ControlObject) : String :=
  s!"Object '{obj.label}' is {obj.state.value}, expected one of {str requiredStates}"

/-- The default of `required_states` counts only where the context lacks the key. -/
def w3ActionPreconditionRule : W3ValidationRule where
  ruleId := "w3-action-precondition"
  validate objects _ context := do
    let requiredStates := (Json.field context "required_states").getD defaultRequiredStates
    let others ← objects.filterM fun obj => not <$> requiredStates.contains obj.state.value
    let strict := Json.flag context "strict_preconditions"
    return .ofFindings "w3-action-precondition" "Action precondition check"
      (if strict then others.map fun obj =>
        { code := .actionPreconditionFailed
          objectId := some obj.id
          description := unexpectedState str requiredStates obj
          ruleId := some "w3-action-precondition" } else [])
      (if strict then [] else others.map fun obj =>
        { ruleId := some "w3-action-precondition"
          objectId := some obj.id
          description := unexpectedState str requiredStates obj })

def defaultW3ValidationRules : List W3ValidationRule :=
  [w3SchemaValidityRule uc, w3GraphCompletenessRule, w3EvidenceSufficiencyRule str,
    w3ProvenanceIntegrityRule, w3ReconciliationStateRule, w3PolicyComplianceRule [],
    w3DeterministicReproducibilityRule, w3ContradictionCheckRule, w3ConfidenceThresholdRule str,
    w3ActionPreconditionRule str]

end Default

/-! ### The registry -/

structure ValidationRuleRegistry where
  rules : Dict String W3ValidationRule
  order : List String

namespace ValidationRuleRegistry

def empty : ValidationRuleRegistry := ⟨Dict.empty, []⟩

/-- `l.insert(i, x)`. -/
def insert (l : List String) (i : ℤ) (x : String) : List String :=
  let k := (if i < 0 then i + l.length else i).toNat
  l.take k ++ x :: l.drop k

/-- A rule registered again keeps its place. -/
def registerRule (registry : ValidationRuleRegistry) (rule : W3ValidationRule)
    (order : Option ℤ) : ValidationRuleRegistry where
  rules := registry.rules.set rule.ruleId rule
  order :=
    if rule.ruleId ∈ registry.order then registry.order
    else match order with
      | some i => insert registry.order i rule.ruleId
      | none => registry.order ++ [rule.ruleId]

def getApplicableRules (registry : ValidationRuleRegistry) (objects : List ControlObject)
    (actionType : String) : List W3ValidationRule :=
  (registry.order.filterMap registry.rules.get?).filter fun rule =>
    rule.applicability.isApplicable objects actionType

end ValidationRuleRegistry

def buildDefaultValidationRuleRegistry (str : Json → String) (uc : Unicode) :
    ValidationRuleRegistry :=
  (defaultW3ValidationRules str uc).foldl (fun registry rule => registry.registerRule rule none)
    .empty

end Fabric.Validation
end ControlFabric
