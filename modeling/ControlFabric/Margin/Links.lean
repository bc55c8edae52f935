import ControlFabric.Lib.Raise
import ControlFabric.Margin.Values

/-! Links and contradictions between the planes: which incidents a work order is linked to, and
where the contract, a work order and an incident contradict each other. The calendar has no end. -/
namespace ControlFabric.Margin
open Lib Ingress

def domainContractMargin : String := "contract_margin"
def domainUtilitiesField : String := "utilities_field"
def domainTelcoOps : String := "telco_ops"

/-- `_TEXT_SIMILARITY_THRESHOLD`. -/
def textSimilarityThreshold : ℚ := 55 / 100

/-- `_RATE_TOLERANCE_FRACTION`. -/
def rateToleranceFraction : ℚ := 1 / 100

/-- `timedelta(hours=_TIME_WINDOW_HOURS)` in microseconds. -/
def timeWindow : ℤ := 48 * 3600 * 10 ^ 6

/-- The metadata of a link between a work order and an incident. -/
structure LinkMetadata where
  serviceMatch : Bool
  locationMatch : Bool
  timeMatch : Bool
  descriptionSimilarity : ℚ

structure CrossPlaneLink where
  sourceDomain : String
  sourceId : String
  targetDomain : String
  targetId : String
  linkType : String
  confidence : ℚ
  metadata : LinkMetadata

structure CrossPlaneConflict where
  field : String
  domainA : String
  valueA : String
  domainB : String
  valueB : String
  severity : String
  resolution : String
  deriving DecidableEq

/-- The text of a field that is coerced to one. -/
def textField (ip : Interpreter) (d : JsonDict) (key : String) : String :=
  safeStr ip (dictGet d key (.str ""))

/-- `s.lower().strip()`, of what has to be a text. -/
def lowerStrip (ip : Interpreter) : Json → Except PyError String
  | .str s => .ok (strip ip (ip.lower s))
  | v => .error (.attributeError s!"'{v.typeName}' object has no attribute 'lower'")

namespace WorkOrderIncidentLinker
section Link
variable (ip : Interpreter) (workOrder incident : JsonDict)

/-- `svc in text`. -/
def occursIn (svc text : String) : Bool := svc.toList <:+: text.toList

def serviceMatch (services : List String) : Bool :=
  services.any fun svc => svc ≠ "" ∧
    (occursIn svc (ip.lower (textField ip workOrder "description")) ∨
      occursIn svc (ip.lower (textField ip workOrder "location")))

/-- The strength of the match of site or place, if there is one. -/
def locationMatch : Option ℚ :=
  let woSite := textField ip workOrder "site_id"
  let incSite := textField ip incident "site_id"
  let woLocation := textField ip workOrder "location"
  let incLocation := textField ip incident "location"
  if woSite ≠ "" ∧ incSite ≠ "" ∧ ip.lower woSite = ip.lower incSite then some (30 / 100)
  else if woLocation ≠ "" ∧ incLocation ≠ "" then
    let locSim := textSimilarity ip woLocation incLocation
    if textSimilarityThreshold ≤ locSim then some (30 / 100 * locSim) else none
  else none

def timeMatch : Bool :=
  let scheduled := dictGet workOrder "scheduled_date" .null
  let start := if scheduled.truthy then scheduled else dictGet workOrder "scheduled_start" .null
  match parseDatetime ip start, parseDatetime ip (dictGet incident "created_at" .null) with
  | some woStart, some incCreated =>
    let effectiveEnd :=
      match parseDatetime ip (dictGet workOrder "scheduled_end" .null) with
      | some woEnd => max woEnd (woStart + timeWindow)
      | none => woStart + timeWindow
    woStart - timeWindow ≤ incCreated ∧ incCreated ≤ effectiveEnd
  | _, _ => false

/-- What the loop makes of one incident. -/
def linkOf : Except PyError (Option CrossPlaneLink) := do
  let services ← (← (dictGet incident "affected_services" (.arr [])).iterate).mapM (lowerStrip ip)
  let serviceMatched := serviceMatch ip workOrder services
  let located := locationMatch ip workOrder incident
  let timeMatched := timeMatch ip workOrder incident
  let woDesc := textField ip workOrder "description"
  let descSim := max (textSimilarity ip woDesc (textField ip incident "description"))
    (textSimilarity ip woDesc (textField ip incident "title"))
  let signals : List ℚ := (if serviceMatched then [35 / 100] else []) ++ located.toList ++
    (if timeMatched then [25 / 100] else []) ++
    (if textSimilarityThreshold ≤ descSim then [10 / 100 * descSim] else [])
  if signals.length < 2 then return none
  return some {
    sourceDomain := domainUtilitiesField
    sourceId := textField ip workOrder "work_order_id"
    targetDomain := domainTelcoOps
    targetId := textField ip incident "incident_id"
    linkType := "work_order_to_incident"
    confidence := Py.roundDigits (min signals.sum 1) 3
    metadata := ⟨serviceMatched, located.isSome, timeMatched, Py.roundDigits descSim 3⟩ }

end Link

def link (ip : Interpreter) (workOrder : JsonDict) (incidents : List JsonDict) :
    Except PyError (List CrossPlaneLink) := do
  return (← incidents.mapM (linkOf ip workOrder)).reduceOption

end WorkOrderIncidentLinker

namespace ContradictionDetector
section Detect
variable (ip : Interpreter) (contractData : ContractData) (fieldData : JsonDict)

def scopeConflicts (boundary : JsonDict) : Except PyError (List CrossPlaneConflict) := do
  let activities ← (← (dictGet boundary "activities" (.arr [])).iterate).mapM (lowerStrip ip)
  let woActivities := extractActivities ip (textField ip fieldData "description")
  let overlap := activities.dedup.filter fun activity => activity ∈ woActivities
  let names := ", ".intercalate (Py.sorted overlap)
  let scopeType := textField ip boundary "scope_type"
  let fieldScope := textField ip fieldData "scope_status"
  if scopeType = "in_scope" ∧ fieldScope = "out_of_scope" ∧ overlap ≠ [] then
    return [{
      field := "scope"
      domainA := domainContractMargin
      valueA := s!"in_scope: {names}"
      domainB := domainUtilitiesField
      valueB := "field reports out_of_scope"
      severity := "error"
      resolution := "Contract defines activities as in-scope but field execution flagged them " ++
        "as out-of-scope. Clarify scope with contract team." }]
  else if scopeType = "out_of_scope" ∧ fieldScope = "in_scope" ∧ overlap ≠ [] then
    return [{
      field := "scope"
      domainA := domainContractMargin
      valueA := s!"out_of_scope: {names}"
      domainB := domainUtilitiesField
      valueB := "field reports in_scope"
      severity := "error"
      resolution := "Contract defines activities as out-of-scope but field executed them " ++
        "as in-scope. May indicate unauthorised work." }]
  else return []

/-- Completed work with an active incident. -/
def activeIncidentConflict (woStatus incState : String) : CrossPlaneConflict where
  field := "completion_vs_incident"
  domainA := domainUtilitiesField
  valueA := s!"status={woStatus}"
  domainB := domainTelcoOps
  valueB := s!"state={incState}"
  severity := "error"
  resolution := "Work order marked completed but related incident still active. " ++
    "Verify field resolution was effective."

/-- Open work with a resolved incident. -/
def openWorkConflict (woStatus incState : String) : CrossPlaneConflict where
  field := "completion_vs_incident"
  domainA := domainTelcoOps
  valueA := s!"state={incState}"
  domainB := domainUtilitiesField
  valueB := s!"status={woStatus}"
  severity := "warning"
  resolution := "Incident resolved/closed but work order still open. Update work order status."

def completionConflicts (incidentData : JsonDict) : List CrossPlaneConflict :=
  let woStatus := textField ip fieldData "status"
  let incState := textField ip incidentData "state"
  (if woStatus = "completed" ∧ incState ∈ ["new", "investigating", "in_progress"] then
    [activeIncidentConflict woStatus incState] else []) ++
  (if incState ∈ ["resolved", "closed"] ∧ woStatus ∈ ["pending", "in_progress", "assigned"] then
    [openWorkConflict woStatus incState] else [])

/-- An empty incident counts for none. -/
def incidentConflicts : Option JsonDict → List CrossPlaneConflict
  | some incident => if incident.isEmpty then [] else completionConflicts ip fieldData incident
  | none => []

def rateConflict (fieldRate : ℚ) (fieldActivity : String) (rc : JsonDict) :
    Option CrossPlaneConflict :=
  let rcActivity := textField ip rc "activity"
  let rcRate := safeFloat ip (dictGet rc "rate" (.int 0))
  let diff := |rcRate - fieldRate|
  if 0 < rcRate ∧ rcActivity ≠ "" ∧
      textSimilarityThreshold ≤ textSimilarity ip rcActivity fieldActivity ∧
      rcRate * rateToleranceFraction < diff then
    some {
      field := "rate"
      domainA := domainContractMargin
      valueA := ip.strFloat rcRate
      domainB := domainUtilitiesField
      valueB := ip.strFloat fieldRate
      severity := if 10 / 100 < diff / rcRate then "critical" else "warning"
      resolution := s!"Rate mismatch: contract specifies {ip.strFloat rcRate} but field/billing " ++
        s!"shows {ip.strFloat fieldRate}. Difference of {formatCents diff}." }
  else none

def rateConflicts : List CrossPlaneConflict :=
  let fieldRate := safeFloat ip (dictGet fieldData "rate" (dictGet fieldData "billed_rate" (.int 0)))
  let fieldActivity :=
    safeStr ip (dictGet fieldData "activity" (dictGet fieldData "work_order_type" (.str "")))
  if 0 < fieldRate ∧ fieldActivity ≠ "" then
    contractData.rateCard.filterMap (rateConflict ip fieldRate fieldActivity)
  else []

def approvalConflicts : List CrossPlaneConflict :=
  if contractData.requiresApproval.truthy ∧
      ¬ (dictGet fieldData "approval_obtained" (.bool true)).truthy then [{
    field := "approval"
    domainA := domainContractMargin
    valueA := "approval_required=True"
    domainB := domainUtilitiesField
    valueB := "approval_obtained=False"
    severity := "error"
    resolution := "Contract requires approval before work execution but approval was not obtained." }]
  else []

def slaConflicts : List CrossPlaneConflict :=
  if contractData.slaStatus.isStr "within" ∧ contractData.penaltyTriggered.truthy then [{
    field := "sla_penalty"
    domainA := domainContractMargin
    valueA := "sla_status=within"
    domainB := domainContractMargin
    valueB := "penalty_triggered=True"
    severity := "error"
    resolution := "SLA reported as within threshold but penalty was triggered. " ++
      "Reconcile SLA measurement." }]
  else []

def detect (incidentData : Option JsonDict) : Except PyError (List CrossPlaneConflict) := do
  let scope ← contractData.scopeBoundaries.mapM (scopeConflicts ip fieldData)
  return scope.flatten ++ incidentConflicts ip fieldData incidentData ++
    rateConflicts ip contractData fieldData ++ approvalConflicts contractData fieldData ++
    slaConflicts contractData

end Detect
end ContradictionDetector
end ControlFabric.Margin
