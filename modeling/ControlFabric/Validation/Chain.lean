import ControlFabric.Validation.RuleModel

/-! The first validation chain: a verdict on each dimension, and a gated outcome. -/
namespace ControlFabric.Fabric.Validation
open Lib Py Method

inductive ValidationDimension where
  | schema
  | graphCompleteness
  | evidenceSufficiency
  | provenance
  | reconciliationState
  | policy
  | determinism
  | confidence
  | contradictoryEvidence
  | actionPreconditions
  deriving DecidableEq

def ValidationDimension.value : ValidationDimension → String
  | schema => "schema"
  | graphCompleteness => "graph_completeness"
  | evidenceSufficiency => "evidence_sufficiency"
  | provenance => "provenance"
  | reconciliationState => "reconciliation_state"
  | policy => "policy"
  | determinism => "determinism"
  | confidence => "confidence"
  | contradictoryEvidence => "contradictory_evidence"
  | actionPreconditions => "action_preconditions"

inductive DimensionVerdict where
  | pass
  | fail
  | warn
  | skip
  deriving DecidableEq

def DimensionVerdict.value : DimensionVerdict → String
  | pass => "pass"
  | fail => "fail"
  | warn => "warn"
  | skip => "skip"

structure ValidationStepResult where
  dimension : ValidationDimension
  verdict : DimensionVerdict
  message : String := ""

inductive ChainOutcome where
  | passed
  | failed
  | passedWithWarnings
  deriving DecidableEq

structure ValidationChainResult where
  id : String
  tenantId : String
  targetObjectIds : List String
  actionType : String
  outcome : ChainOutcome
  steps : List ValidationStepResult
  passedCount : ℕ
  failedCount : ℕ
  warningCount : ℕ
  skippedCount : ℕ
  decisionHash : String

namespace ValidationChainResult

def isActionable (result : ValidationChainResult) : Bool :=
  result.outcome ∈ [ChainOutcome.passed, .passedWithWarnings]

/-- The dict `compute_hash` serializes. -/
def hashData (result : ValidationChainResult) : JsonDict :=
  [("target_object_ids", .arr (result.targetObjectIds.map .str)),
    ("action_type", .str result.actionType),
    ("steps", .arr (result.steps.map fun s =>
      .obj [("dimension", .str s.dimension.value), ("verdict", .str s.verdict.value)]))]

def computeHash (rt : Runtime) (str : Json → String) (result : ValidationChainResult) :
    ValidationChainResult :=
  { result with decisionHash := deterministicHash rt str result.hashData }

end ValidationChainResult

/-! ### Rules -/

structure ValidationRule where
  dimension : ValidationDimension
  validate : List ControlObject → InMemoryGraphRepository → JsonDict →
    Except PyError ValidationStepResult

/-- The loop that returns at the first object it finds fault with. -/
def firstFault (dimension : ValidationDimension) (passed : String)
    (fault : ControlObject → Except PyError (Option (DimensionVerdict × String))) :
    List ControlObject → Except PyError ValidationStepResult
  | [] => .ok { dimension := dimension, verdict := .pass, message := passed }
  | obj :: objects => do
    match ← fault obj with
    | some (verdict, message) =>
      return { dimension := dimension, verdict := verdict, message := message }
    | none => firstFault dimension passed fault objects

section Default
variable (str : Json → String) (uc : Unicode)

def schemaValidationRule : ValidationRule where
  dimension := .schema
  validate objects _ _ := firstFault .schema "All objects pass schema validation" (fun obj => .ok <|
    if strStrip uc obj.label.toList = [] then some (.fail, s!"Object {obj.id} has empty label")
    else if strStrip uc obj.domain.toList = [] then
      some (.fail, s!"Object {obj.id} has empty domain")
    else none) objects

def graphCompletenessRule : ValidationRule where
  dimension := .graphCompleteness
  validate objects graph _ := firstFault .graphCompleteness "All objects have graph links"
    (fun obj => .ok <|
      if graph.getLinksForObject obj.id "both" none = [] then
        some (.warn, s!"Object '{obj.label}' has no links in graph")
      else none) objects

def evidenceSufficiencyRule (minEvidence : ℤ) : ValidationRule where
  dimension := .evidenceSufficiency
  validate objects _ _ := firstFault .evidenceSufficiency "All objects have sufficient evidence"
    (fun obj => .ok <|
      if obj.evidence.length < minEvidence then
        some (.fail, s!"Object '{obj.label}' has {obj.evidence.length} evidence refs, " ++
          s!"requires {minEvidence}")
      else none) objects

def provenanceRule : ValidationRule where
  dimension := .provenance
  validate objects _ _ := firstFault .provenance "All objects have valid provenance"
    (fun obj => .ok <|
      if obj.provenance.createdBy = "" then
        some (.fail, s!"Object '{obj.label}' has no provenance creator")
      else none) objects

def reconciliationStateRule : ValidationRule where
  dimension := .reconciliationState
  validate objects _ context :=
    let requireReconciled := Json.flag context "require_reconciled"
    firstFault .reconciliationState "Reconciliation state check passed" (fun obj => .ok <|
      if requireReconciled ∧ obj.state ∉ [ControlState.reconciled, .actioned] then
        some (.fail, s!"Object '{obj.label}' is {obj.state.value}, " ++
          "expected reconciled or actioned")
      else if obj.state = .disputed then some (.fail, s!"Object '{obj.label}' is disputed")
      else none) objects

/-- No check is made. -/
def policyRule : ValidationRule where
  dimension := .policy
  validate _ _ _ := .ok
    { dimension := .policy
      verdict := .pass
      message := "Policy check passed (no domain-specific violations)" }

def determinismRule : ValidationRule where
  dimension := .determinism
  validate objects _ _ := firstFault .determinism "Determinism check passed" (fun obj => .ok <|
    if obj.provenance.creationMethod = .modelAssisted ∧ modelless obj then
      some (.warn, s!"Object '{obj.label}' is model-assisted but has no model_id in provenance")
    else none) objects

def confidenceRule (minConfidence : ℚ) : ValidationRule where
  dimension := .confidence
  validate objects _ _ := firstFault .confidence "Confidence check passed" (fun obj => .ok <|
    if obj.confidence < minConfidence then
      some (.fail, s!"Object '{obj.label}' confidence {str (.float obj.confidence)} " ++
        s!"below minimum {str (.float minConfidence)}")
    else none) objects

def contradictoryEvidenceRule : ValidationRule where
  dimension := .contradictoryEvidence
  validate objects graph _ := firstFault .contradictoryEvidence "No contradictory evidence found"
    (fun obj => .ok <|
      let links := graph.getLinksForObject obj.id "both" (some .contradicts)
      if links ≠ [] then
        some (.fail, s!"Object '{obj.label}' has {links.length} contradictory links")
      else none) objects

def actionPreconditionsRule : ValidationRule where
  dimension := .actionPreconditions
  validate objects _ context :=
    let requiredStates := (Json.field context "required_states").getD defaultRequiredStates
    firstFault .actionPreconditions "Action preconditions met" (fun obj => do
      if ← requiredStates.contains obj.state.value then return none
      else return some (.warn, unexpectedState str requiredStates obj)) objects

def defaultValidationRules : List ValidationRule :=
  [schemaValidationRule uc, graphCompletenessRule, evidenceSufficiencyRule 1, provenanceRule,
    reconciliationStateRule, policyRule, determinismRule, confidenceRule str (1 / 2),
    contradictoryEvidenceRule, actionPreconditionsRule str]

end Default

/-! ### The chain -/

structure ValidationChain where
  rules : List ValidationRule

namespace ValidationChain

/-- A rule that raises has failed. -/
def runRule (objects : List ControlObject) (graph : InMemoryGraphRepository) (ctx : JsonDict)
    (rule : ValidationRule) : ValidationStepResult :=
  match rule.validate objects graph ctx with
  | .ok result => result
  | .error e =>
    { dimension := rule.dimension
      verdict := .fail
      message := s!"Rule raised exception: {e.message}" }

def outcomeOf (failed warnings : ℕ) : ChainOutcome :=
  if 0 < failed then .failed else if 0 < warnings then .passedWithWarnings else .passed

/-- What the chain finds on the objects. -/
def runSteps (chain : ValidationChain) (objects : List ControlObject)
    (graph : InMemoryGraphRepository) (ctx : JsonDict) : List ValidationStepResult :=
  chain.rules.map (runRule objects graph ctx)

/-- The graph is that of the service the chain is constructed with. -/
def validate {σ : Type} (rt : Runtime) (str : Json → String) (chain : ValidationChain)
    (graph : InMemoryGraphRepository) (tenantId : String) (objects : List ControlObject)
    (actionType : String) (context : Option JsonDict) : Method σ ValidationChainResult := do
  if objects = [] then
    raise (.validationBypassAttempt "Cannot validate with no objects — possible bypass attempt")
  else
    let steps := chain.runSteps objects graph (context.getD [])
    let count (verdict : DimensionVerdict) := steps.countP fun s => s.verdict = verdict
    let n ← draw
    return ValidationChainResult.computeHash rt str
      { id := rt.uuid4 n
        tenantId := tenantId
        targetObjectIds := objects.map ControlObject.id
        actionType := actionType
        outcome := outcomeOf (count .fail) (count .warn)
        steps := steps
        passedCount := count .pass
        failedCount := count .fail
        warningCount := count .warn
        skippedCount := count .skip
        decisionHash := "" }

end ValidationChain
end ControlFabric.Fabric.Validation
