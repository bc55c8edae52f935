import ControlFabric.Graph.DomainTypes
import ControlFabric.Drawing
import ControlFabric.Graph.Traverse

/-! Cross-plane reconciliation cases and the rules that demand a link. -/
namespace ControlFabric.CrossPlane
open Py

inductive ReconciliationCaseType where
  | gap
  | conflict
  | duplicate
  | match
  | orphan
  deriving DecidableEq

namespace ReconciliationCaseType

def value : ReconciliationCaseType → String
  | gap => "gap"
  | conflict => "conflict"
  | duplicate => "duplicate"
  | «match» => "match"
  | orphan => "orphan"

/-- The member as an f-string writes it. -/
def str : ReconciliationCaseType → String
  | gap => "ReconciliationCaseType.GAP"
  | conflict => "ReconciliationCaseType.CONFLICT"
  | duplicate => "ReconciliationCaseType.DUPLICATE"
  | «match» => "ReconciliationCaseType.MATCH"
  | orphan => "ReconciliationCaseType.ORPHAN"

end ReconciliationCaseType

inductive ReconciliationCaseSeverity where
  | critical
  | high
  | medium
  | low
  deriving DecidableEq

namespace ReconciliationCaseSeverity

def value : ReconciliationCaseSeverity → String
  | critical => "critical"
  | high => "high"
  | medium => "medium"
  | low => "low"

/-- The member as an f-string writes it. -/
def str : ReconciliationCaseSeverity → String
  | critical => "ReconciliationCaseSeverity.CRITICAL"
  | high => "ReconciliationCaseSeverity.HIGH"
  | medium => "ReconciliationCaseSeverity.MEDIUM"
  | low => "ReconciliationCaseSeverity.LOW"

/-- The table of `_compute_severity_score`. -/
def base : ReconciliationCaseSeverity → ℕ
  | critical => 100
  | high => 70
  | medium => 40
  | low => 10

end ReconciliationCaseSeverity

inductive ReconciliationCaseStatus where
  | «open»
  | underReview
  | resolved
  | acceptedRisk
  deriving DecidableEq

structure ReconciliationCase where
  caseId : String
  caseType : ReconciliationCaseType
  severity : ReconciliationCaseSeverity
  status : ReconciliationCaseStatus
  title : String
  description : String
  affectedObjectIds : List String
  affectedPlanes : List String
  violatedRuleId : Option String
  missingRelationshipType : Option RelationshipType
  conflictingEdgeIds : List String
  detectedAt : DateTime
  resolvedAt : Option DateTime
  severityScore : ℕ
  remediationSuggestions : List String
  caseHash : String

namespace ReconciliationCase

/-- The text under `case_hash`. -/
def hashText (rt : Runtime) (c : ReconciliationCase) : String :=
  c.caseType.str ++ c.severity.str ++ reprList rt.isPrintable (sorted c.affectedObjectIds) ++
    reprList rt.isPrintable (sorted c.affectedPlanes) ++ c.violatedRuleId.getD "None" ++
    c.detectedAt.isoformat

def computeCaseHash (rt : Runtime) (c : ReconciliationCase) : ReconciliationCase :=
  { c with caseHash := rt.sha256 (c.hashText rt) }

/-- The constructor with the fields that have no default; the rest can be set afterwards, as keyword
arguments, before the hash is computed. -/
def fields (rt : Runtime) (n : ℕ) (caseType : ReconciliationCaseType)
    (severity : ReconciliationCaseSeverity) (title description : String)
    (affectedObjectIds affectedPlanes : List String) : ReconciliationCase where
  caseId := rt.uuid4 n
  caseType := caseType
  severity := severity
  status := .open
  title := title
  description := description
  affectedObjectIds := affectedObjectIds
  affectedPlanes := affectedPlanes
  violatedRuleId := none
  missingRelationshipType := none
  conflictingEdgeIds := []
  detectedAt := rt.now n
  resolvedAt := none
  severityScore := 0
  remediationSuggestions := []
  caseHash := ""

end ReconciliationCase

structure ReconciliationRule where
  ruleId : String
  domainPack : String
  ruleName : String
  description : String
  sourcePlane : String
  targetPlane : String
  sourceObjectType : ControlObjectType
  targetObjectType : ControlObjectType
  requiredRelationship : RelationshipType
  severity : ReconciliationCaseSeverity
  enabled : Bool

def buildCoreReconciliationRules : List ReconciliationRule :=
  [{ ruleId := "CORE-001"
     domainPack := "core"
     ruleName := "risk_control_must_mitigate_vulnerability"
     description := "Every active risk control must mitigate at least one vulnerability"
     sourcePlane := "risk"
     targetPlane := "risk"
     sourceObjectType := .riskControl
     targetObjectType := .vulnerability
     requiredRelationship := .mitigates
     severity := .high
     enabled := true },
   { ruleId := "CORE-002"
     domainPack := "core"
     ruleName := "technical_control_must_satisfy_compliance"
     description := "Every technical control must satisfy at least one compliance requirement"
     sourcePlane := "security"
     targetPlane := "compliance"
     sourceObjectType := .technicalControl
     targetObjectType := .complianceRequirement
     requiredRelationship := .satisfies
     severity := .critical
     enabled := true },
   { ruleId := "CORE-003"
     domainPack := "core"
     ruleName := "compliance_requirement_must_satisfy_mandate"
     description := "Every compliance requirement must link to a regulatory mandate"
     sourcePlane := "compliance"
     targetPlane := "compliance"
     sourceObjectType := .complianceRequirement
     targetObjectType := .regulatoryMandate
     requiredRelationship := .satisfies
     severity := .critical
     enabled := true },
   { ruleId := "CORE-004"
     domainPack := "core"
     ruleName := "security_control_must_implement_policy"
     description := "Every security control must implement an operational policy"
     sourcePlane := "security"
     targetPlane := "operations"
     sourceObjectType := .securityControl
     targetObjectType := .operationalPolicy
     requiredRelationship := .implements
     severity := .medium
     enabled := true }]

end ControlFabric.CrossPlane

/-! Cross-plane reconciliation: detection of gaps, conflicts and orphans, the case store, and the
governed resolution of a case. -/
namespace ControlFabric

def ControlObject.isActive (obj : ControlObject) : Bool := obj.state = .active

def ControlGraphStore.getActiveObjects (g : ControlGraphStore) : List ControlObject :=
  g.nodes.values.filter ControlObject.isActive

namespace CrossPlane
open Lib Py Method Drawing

structure CrossPlaneReconciliationEngine where
  graph : ControlGraphStore
  rules : List ReconciliationRule
  cases : Dict String ReconciliationCase
  caseIndexByObject : Dict String (List String)

namespace CrossPlaneReconciliationEngine

/-- An empty rule list gives the core rules too. -/
def new (graph : ControlGraphStore) (rules : Option (List ReconciliationRule)) :
    CrossPlaneReconciliationEngine where
  graph := graph
  rules := match rules with
    | none | some [] => buildCoreReconciliationRules
    | some rules => rules
  cases := Dict.empty
  caseIndexByObject := Dict.empty

def computeSeverityScore (severity : ReconciliationCaseSeverity) (objects : List ControlObject) :
    ℕ := severity.base + objects.length

section Detectors
variable (rt : Runtime) (g : ControlGraphStore)

def gapCase (n : ℕ) (rule : ReconciliationRule) (sourceObj : ControlObject) : ReconciliationCase :=
  ReconciliationCase.computeCaseHash rt
    { ReconciliationCase.fields rt n .gap rule.severity
        s!"GAP: {sourceObj.name} lacks required {rule.requiredRelationship.value} link"
        (s!"Rule '{rule.ruleName}': Active {rule.sourceObjectType.value} '{sourceObj.name}' " ++
          s!"in plane '{rule.sourcePlane}' has no '{rule.requiredRelationship.value}' " ++
          s!"relationship to any active {rule.targetObjectType.value} in plane " ++
          s!"'{rule.targetPlane}'.")
        [sourceObj.objectId] [rule.sourcePlane, rule.targetPlane] with
      violatedRuleId := some rule.ruleId
      missingRelationshipType := some rule.requiredRelationship
      severityScore := computeSeverityScore rule.severity [sourceObj]
      remediationSuggestions :=
        [s!"Create a '{rule.requiredRelationship.value}' relationship from '{sourceObj.name}' " ++
          s!"to an appropriate {rule.targetObjectType.value}.",
        s!"Review whether '{sourceObj.name}' should be deprecated if no applicable " ++
          s!"{rule.targetObjectType.value} exists."] }

/-- The edge leads to an object as the rule requires it. -/
def leadsToTarget (rule : ReconciliationRule) (e : ControlEdge) : Bool :=
  match g.nodes.get? e.targetObjectId with
  | none => false
  | some target => target.objectType = rule.targetObjectType &&
      target.operationalPlane = rule.targetPlane && target.isActive

/-- The body of the loop in `_evaluate_rule`. -/
def evaluateSource (rule : ReconciliationRule) (sourceObj : ControlObject) :
    Drawing (List ReconciliationCase) := do
  if ¬ sourceObj.isActive then return []
  let outboundEdges := g.getOutboundEdges sourceObj.objectId (some [rule.requiredRelationship])
    (rt.now (← draw))
  let hasRequiredLink := outboundEdges.any (leadsToTarget g rule)
  if hasRequiredLink then return []
  return [gapCase rt (← draw) rule sourceObj]

def evaluateRule (rule : ReconciliationRule) : Drawing (List ReconciliationCase) :=
  collect (evaluateSource rt g rule) (g.getObjectsByType rule.sourceObjectType.value)

/-- The body of the loop over the rules in `run_full_reconciliation`. -/
def evaluateEnabled (rule : ReconciliationRule) : Drawing (List ReconciliationCase) :=
  if rule.enabled then evaluateRule rt g rule else pure []

def evaluateRules (rules : List ReconciliationRule) : Drawing (List ReconciliationCase) :=
  collect (evaluateEnabled rt g) rules

def conflictRels : List RelationshipType := [.conflicts, .violates]

/-- `list(set)` leaves the order of the two planes open; the source's plane is put first. -/
def conflictCase (n : ℕ) (edgeId : String) (edge : ControlEdge) (source target : ControlObject) :
    ReconciliationCase :=
  ReconciliationCase.computeCaseHash rt
    { ReconciliationCase.fields rt n .conflict .critical
        s!"CONFLICT: '{source.name}' {edge.relationshipType.value} '{target.name}'"
        (s!"Active conflict: '{source.name}' ({source.operationalPlane}) has a " ++
          s!"'{edge.relationshipType.value}' relationship with '{target.name}' " ++
          s!"({target.operationalPlane}).")
        [source.objectId, target.objectId]
        [source.operationalPlane, target.operationalPlane].dedup with
      conflictingEdgeIds := [edgeId]
      severityScore := 100
      remediationSuggestions :=
        [s!"Review the conflict between '{source.name}' and '{target.name}'.",
        "Update one or both objects to resolve the incompatibility."] }

/-- The body of the loop in `_detect_conflicts`. -/
def detectConflict (entry : String × ControlEdge) : Drawing (List ReconciliationCase) := do
  let edge := entry.2
  if edge.relationshipType ∉ conflictRels ∨ ¬ edge.isActive then return []
  match g.nodes.get? edge.sourceObjectId, g.nodes.get? edge.targetObjectId with
  | some source, some target =>
    if ¬ source.isActive ∨ ¬ target.isActive then return []
    return [conflictCase rt (← draw) entry.1 edge source target]
  | _, _ => return []

def detectConflicts : Drawing (List ReconciliationCase) :=
  collect (detectConflict rt g) g.edges.entries

def orphanCase (n : ℕ) (obj : ControlObject) : ReconciliationCase :=
  ReconciliationCase.computeCaseHash rt
    { ReconciliationCase.fields rt n .orphan .medium
        s!"ORPHAN: '{obj.name}' has no governance relationships"
        (s!"Active {obj.objectType.value} '{obj.name}' in plane '{obj.operationalPlane}' " ++
          "has no relationships.")
        [obj.objectId] [obj.operationalPlane] with
      severityScore := 40
      remediationSuggestions :=
        [s!"Link '{obj.name}' to at least one related control object.",
        s!"If '{obj.name}' is no longer relevant, deprecate it."] }

/-- The body of the loop in `_detect_orphans`. -/
def detectOrphan (obj : ControlObject) : Drawing (List ReconciliationCase) := do
  if g.getOutboundEdges obj.objectId none (rt.now (← draw)) ≠ [] then return []
  if g.getInboundEdges obj.objectId none (rt.now (← draw)) ≠ [] then return []
  return [orphanCase rt (← draw) obj]

def detectOrphans : Drawing (List ReconciliationCase) :=
  collect (detectOrphan rt g) g.getActiveObjects

/-- The cases `run_full_reconciliation` collects before it commits them. -/
def detect (rules : List ReconciliationRule) : Drawing (List ReconciliationCase) := do
  let gaps ← evaluateRules rt g rules
  let conflicts ← detectConflicts rt g
  let orphans ← detectOrphans rt g
  return gaps ++ conflicts ++ orphans

end Detectors

def commitCase (c : ReconciliationCase) (e : CrossPlaneReconciliationEngine) :
    CrossPlaneReconciliationEngine :=
  { e with
    cases := e.cases.set c.caseId c
    caseIndexByObject :=
      c.affectedObjectIds.foldl (fun index id => appendTo index id c.caseId) e.caseIndexByObject }

/-- `metering_engine.record(event_type, TenantContext.get(), quantity=quantity)`. -/
def record {σ : Type} (eventType : String) (quantity : ℤ) : Method σ Unit := fun w =>
  .ok () { w with
    env := { w.env with metered := w.env.metered ++ [⟨eventType, w.env.tenant, quantity⟩] } }

def runFullReconciliation (rt : Runtime) :
    Method CrossPlaneReconciliationEngine (List ReconciliationCase) := do
  let e ← self
  let newCases ← drawing (detect rt e.graph e.rules)
  assign fun e => newCases.foldl (fun e c => commitCase c e) e
  record "reconciliation_run" 1
  if newCases ≠ [] then
    record "reconciliation_case" newCases.length
  return newCases

def getOpenCases (e : CrossPlaneReconciliationEngine) : List ReconciliationCase :=
  e.cases.values.filter fun c => c.status = .open

def getCasesForObject (e : CrossPlaneReconciliationEngine) (objectId : String) :
    List ReconciliationCase := (e.caseIndexByObject.getD objectId []).filterMap e.cases.get?

/-- What `mark_case_resolved` submits to the gate. -/
def resolutionSubmission (c : ReconciliationCase) (caseId resolvedBy resolutionNote : String) :
    Submission where
  actionType := "reconciliation_case_resolution"
  proposedPayload := [("case_id", .str caseId), ("case_type", .str c.caseType.value),
    ("severity", .str c.severity.value), ("resolution_note", .str resolutionNote)]
  requestedBy := resolvedBy
  origin := .humanOperator
  evidenceReferences := some [c.caseHash]
  provenanceChain := some [caseId]
  executor := none

def resolutionBlocked (caseId : String) (result : ActionDispatchResult) : PyError :=
  .valueError (s!"Gate blocked case resolution for {caseId}: " ++ result.failureReason.getD "None")

def resolvedCase (c : ReconciliationCase) (resolutionNote : String) (resolvedAt : DateTime) :
    ReconciliationCase :=
  { c with
    status := .resolved
    resolvedAt := some resolvedAt
    description := s!"{c.description}\n\nResolution: {resolutionNote}" }

/-- `mark_case_resolved` after the gate. -/
def commitResolution (rt : Runtime) (c : ReconciliationCase) (caseId resolutionNote : String) :
    Method CrossPlaneReconciliationEngine ReconciliationCase := do
  let resolved := resolvedCase c resolutionNote (rt.now (← draw))
  assign fun e => { e with cases := e.cases.set caseId resolved }
  return resolved

def markCaseResolved (rt : Runtime) (caseId resolvedBy resolutionNote : String) :
    Method (Governed CrossPlaneReconciliationEngine) ReconciliationCase := do
  match (← self).store.cases.get? caseId with
  | none => raise (.valueError s!"Case {caseId} not found.")
  | some c =>
    Governed.governed rt (resolutionSubmission c caseId resolvedBy resolutionNote)
      (resolutionBlocked caseId) (commitResolution rt c caseId resolutionNote)

end CrossPlaneReconciliationEngine
end CrossPlane
end ControlFabric
