import ControlFabric.Lib.Dict
import ControlFabric.Margin.Links

/-! The reconciliation of a contract, a work order and its incidents: what is linked, where the
linked records contradict each other, and the evidence put together. -/
namespace ControlFabric.Margin
open Lib Ingress

/-- What the contract holds, with what the conflicts do not read. -/
structure ContractPlane extends ContractData where
  leakageTriggers : List JsonDict := []
  controlObjects : List JsonDict := []

/-- `incident_data`: the dict itself, which is the incident where it lists none, and what is read of
it. -/
structure IncidentPlane where
  fields : JsonDict := []
  incidents : Option (List JsonDict) := none
  serviceStates : List JsonDict := []
  escalation : JsonDict := []
  nextAction : JsonDict := []

def IncidentPlane.all (incidentData : IncidentPlane) : List JsonDict :=
  incidentData.incidents.getD [incidentData.fields]

/-- A link between two planes, its metadata as a dict. -/
structure PlaneLink where
  sourceDomain : String
  sourceId : String
  targetDomain : String
  targetId : String
  linkType : String
  confidence : ℚ
  metadata : JsonDict

/-- `link.model_dump()` of a link to an incident. -/
def CrossPlaneLink.modelDump (link : CrossPlaneLink) : PlaneLink where
  sourceDomain := link.sourceDomain
  sourceId := link.sourceId
  targetDomain := link.targetDomain
  targetId := link.targetId
  linkType := link.linkType
  confidence := link.confidence
  metadata := [("service_match", .bool link.metadata.serviceMatch),
    ("location_match", .bool link.metadata.locationMatch),
    ("time_match", .bool link.metadata.timeMatch),
    ("description_similarity", .float link.metadata.descriptionSimilarity)]

def has (d : JsonDict) (key : String) : Bool := (Json.field d key).isSome

/-- `a or b`. -/
def orElse (a b : String) : String := if a = "" then b else a

/-- `f"{q:.1f}"`. -/
def formatTenths (q : ℚ) : String :=
  let tenths := (Py.roundHalfEven (q * 10)).natAbs
  (if q < 0 then "-" else "") ++ s!"{tenths / 10}.{tenths % 10}"

/-! ### The contract and the work order -/

namespace ContractWorkOrderLinker
section Link
variable (ip : Interpreter) (workOrder obj : JsonDict)

def objectType : String := safeStr ip (dictGet obj "type" (dictGet obj "object_type" (.str "")))

def objectId : String :=
  safeStr ip (dictGet obj "id" (dictGet obj "clause_id" (dictGet obj "activity" (.str ""))))

/-- The share of the tokens that the overlap makes up. -/
def tokenScore (tokens overlap : List String) : ℚ :=
  if tokens = [] then 0 else overlap.length / max tokens.length 1

def isRate : Bool := objectType ip obj ∈ ["rate_card", "rate"] ∨ has obj "activity"

def rateSimilarity : ℚ :=
  let activityTokens := extractActivities ip (textField ip obj "activity")
  let woActivities := extractActivities ip (textField ip workOrder "description")
  max (textSimilarity ip (textField ip obj "activity") (textField ip workOrder "description"))
    (tokenScore activityTokens (activityTokens.filter (· ∈ woActivities)))

def rateLink : Option PlaneLink :=
  let activityName := textField ip obj "activity"
  let combined := rateSimilarity ip workOrder obj
  if isRate ip obj ∧ activityName ≠ "" ∧ textSimilarityThreshold ≤ combined then
    some {
      sourceDomain := domainContractMargin
      sourceId := orElse (objectId ip obj) activityName
      targetDomain := domainUtilitiesField
      targetId := textField ip workOrder "work_order_id"
      linkType := "rate_card_to_activity"
      confidence := Py.roundDigits (min combined 1) 3
      metadata := [("activity", .str activityName), ("rate", dictGet obj "rate" .null),
        ("unit", dictGet obj "unit" .null), ("similarity", .float (Py.roundDigits combined 3))] }
  else none

def isObligation : Bool :=
  objectType ip obj = "obligation" ∨ has obj "description" ∧ has obj "due_type"

def obligationSimilarity : ℚ :=
  let obligationDesc := textField ip obj "description"
  max (textSimilarity ip obligationDesc (textField ip workOrder "work_order_type"))
    (textSimilarity ip obligationDesc (textField ip workOrder "description"))

def obligationLink : Option PlaneLink :=
  let obligationDesc := textField ip obj "description"
  let best := obligationSimilarity ip workOrder obj
  if isObligation ip obj ∧ textSimilarityThreshold ≤ best then
    some {
      sourceDomain := domainContractMargin
      sourceId := orElse (objectId ip obj) (firstChars 60 obligationDesc)
      targetDomain := domainUtilitiesField
      targetId := textField ip workOrder "work_order_id"
      linkType := "obligation_to_work_order"
      confidence := Py.roundDigits (min best 1) 3
      metadata := [("obligation_description", .str obligationDesc),
        ("wo_type", .str (textField ip workOrder "work_order_type")),
        ("similarity", .float (Py.roundDigits best 3))] }
  else none

def isScope : Bool := objectType ip obj ∈ ["scope", "scope_boundary"] ∨ has obj "scope_type"

/-- The activities of a scope, each once. -/
def scopeActivities : Except PyError (List String) := do
  let items ← (dictGet obj "activities" (.arr [])).iterate
  return (← items.mapM (lowerStrip ip)).dedup

/-- Those of the activities that the work order names. -/
def overlapWith (activities : List String) : List String :=
  activities.filter (· ∈ extractActivities ip (textField ip workOrder "description"))

def scopeLink : Except PyError (Option PlaneLink) := do
  if ¬ isScope ip obj then return none
  let scopeDesc := textField ip obj "description"
  let activities ← scopeActivities ip obj
  let overlap := overlapWith ip workOrder activities
  let combined := max (textSimilarity ip scopeDesc (textField ip workOrder "description"))
    (tokenScore activities overlap)
  if combined < textSimilarityThreshold then return none
  return some {
    sourceDomain := domainContractMargin
    sourceId := orElse (objectId ip obj) (firstChars 60 scopeDesc)
    targetDomain := domainUtilitiesField
    targetId := textField ip workOrder "work_order_id"
    linkType := "scope_boundary_to_work_order"
    confidence := Py.roundDigits (min combined 1) 3
    metadata := [("scope_type", .str (textField ip obj "scope_type")),
      ("overlapping_activities", .arr ((Py.sorted overlap).map .str)),
      ("similarity", .float (Py.roundDigits combined 3))] }

/-- What the loop makes of one object. -/
def linksOf : Except PyError (List PlaneLink) := do
  let scope ← scopeLink ip workOrder obj
  return (rateLink ip workOrder obj).toList ++ (obligationLink ip workOrder obj).toList ++
    scope.toList

end Link

def link (ip : Interpreter) (contractObjects : List JsonDict) (workOrder : JsonDict) :
    Except PyError (List PlaneLink) := do
  return (← contractObjects.mapM (linksOf ip workOrder)).flatten

section Conflicts
variable (ip : Interpreter) (woData : JsonDict)

def rateConflict (link : PlaneLink) : Option CrossPlaneConflict :=
  let contractRate := safeFloat ip (dictGet link.metadata "rate" .null)
  let woRate := safeFloat ip (dictGet woData "rate" .null)
  let diff := |contractRate - woRate|
  if link.linkType = "rate_card_to_activity" ∧ 0 < contractRate ∧ 0 < woRate ∧
      contractRate * rateToleranceFraction < diff then
    some {
      field := "rate"
      domainA := domainContractMargin
      valueA := ip.strFloat contractRate
      domainB := domainUtilitiesField
      valueB := ip.strFloat woRate
      severity := if 10 / 100 < diff / contractRate then "critical" else "warning"
      resolution := "Review rate card against work order pricing. " ++
        s!"Difference of {formatCents diff} detected." }
  else none

def scopeConflict (boundary : JsonDict) : Except PyError (Option CrossPlaneConflict) := do
  if textField ip boundary "scope_type" ≠ "out_of_scope" then return none
  let overlap := overlapWith ip woData (← scopeActivities ip boundary)
  if overlap = [] then return none
  let names := ", ".intercalate (Py.sorted overlap)
  return some {
    field := "scope"
    domainA := domainContractMargin
    valueA := s!"out_of_scope: {names}"
    domainB := domainUtilitiesField
    valueB := firstChars 120 (textField ip woData "description")
    severity := "error"
    resolution := "Work order references activities marked out-of-scope in the contract. " ++
      "Raise a scope clarification or change order before proceeding." }

/-- The name of an obligation where it is looked up among the linked ones; the links name it by `id`
before `clause_id`. -/
def obligationId (obligation : JsonDict) : String :=
  safeStr ip (dictGet obligation "clause_id" (dictGet obligation "id" (.str "")))

def linkedObligationIds (links : List PlaneLink) : List String :=
  (links.filter fun link => link.linkType = "obligation_to_work_order").map PlaneLink.sourceId

def coverageConflict (linkedIds : List String) (obligation : JsonDict) :
    Option CrossPlaneConflict :=
  let obDesc := textField ip obligation "description"
  if safeStr ip (dictGet obligation "status" (.str "active")) = "active" ∧
      obligationId ip obligation ∉ linkedIds ∧
      30 / 100 ≤ textSimilarity ip obDesc (textField ip woData "description") then
    some {
      field := "obligation_coverage"
      domainA := domainContractMargin
      valueA := firstChars 120 obDesc
      domainB := domainUtilitiesField
      valueB := "work_order:" ++ format ip (dictGet woData "work_order_id" (.str ""))
      severity := "warning"
      resolution := "Active obligation may not be addressed by the current work order. " ++
        "Verify compliance." }
  else none

def detectConflicts (links : List PlaneLink) (contractData : ContractData) :
    Except PyError (List CrossPlaneConflict) := do
  let scope ← contractData.scopeBoundaries.mapM (scopeConflict ip woData)
  return links.filterMap (rateConflict ip woData) ++ scope.reduceOption ++
    contractData.obligations.filterMap (coverageConflict ip woData (linkedObligationIds links))

end Conflicts
end ContractWorkOrderLinker

/-! ### The work order and its incidents -/

namespace WorkOrderIncidentLinker
section Conflicts
variable (ip : Interpreter) (isoformat : ℤ → String) (woData inc : JsonDict)

def woStart : Option ℤ :=
  let scheduled := dictGet woData "scheduled_date" .null
  parseDatetime ip
    (if scheduled.truthy then scheduled else dictGet woData "scheduled_start" .null)

def woEnd : Option ℤ := parseDatetime ip (dictGet woData "scheduled_end" .null)

def incCreated : Option ℤ := parseDatetime ip (dictGet inc "created_at" .null)

/-- A length of time in microseconds, in hours. -/
def hours (us : ℤ) : ℚ := us / (3600 * 10 ^ 6)

/-- An incident long after the work was to start. -/
def lateConflict (start created : ℤ) : CrossPlaneConflict where
  field := "timing"
  domainA := domainUtilitiesField
  valueA := isoformat start
  domainB := domainTelcoOps
  valueB := isoformat created
  severity := "warning"
  resolution := s!"Incident was created {formatTenths (hours (created - start))}h after work " ++
    "order start. Verify causal relationship."

/-- An incident after the work was to end. -/
def postCompletionConflict (finish created : ℤ) : CrossPlaneConflict where
  field := "timing"
  domainA := domainUtilitiesField
  valueA := isoformat finish
  domainB := domainTelcoOps
  valueB := isoformat created
  severity := "error"
  resolution := "Incident was created after the work order ended " ++
    s!"({formatTenths (hours (created - finish))}h later). May indicate a post-completion fault."

/-- The end is looked at only for what was created no later than the start. -/
def timingConflicts : List CrossPlaneConflict :=
  match woStart ip woData, incCreated ip inc with
  | some start, some created =>
    if start < created then
      if 48 < hours (created - start) then [lateConflict isoformat start created] else []
    else
      match woEnd ip woData with
      | some finish =>
        if finish < created then [postCompletionConflict isoformat finish created] else []
      | none => []
  | _, _ => []

def ownershipConflicts : List CrossPlaneConflict :=
  let woAssigned := safeStr ip (dictGet woData "assigned_to" (dictGet woData "engineer" (.str "")))
  let incAssigned := textField ip inc "assigned_to"
  if woAssigned ≠ "" ∧ incAssigned ≠ "" ∧ ip.lower woAssigned ≠ ip.lower incAssigned then [{
    field := "ownership"
    domainA := domainUtilitiesField
    valueA := woAssigned
    domainB := domainTelcoOps
    valueB := incAssigned
    severity := "warning"
    resolution := "Work order and incident are assigned to different owners. " ++
      "Align ownership to avoid coordination gaps." }]
  else []

/-- `severity_priority_map`. -/
def expectedPriorities (severity : String) : List String :=
  if severity = "p1" then ["emergency", "critical", "high"]
  else if severity = "p2" then ["high", "urgent"]
  else if severity = "p3" then ["normal", "medium"]
  else if severity = "p4" then ["low"]
  else []

def priorityConflicts : List CrossPlaneConflict :=
  let incSeverity := textField ip inc "severity"
  let woPriority := textField ip woData "priority"
  let expected := expectedPriorities incSeverity
  if expected ≠ [] ∧ ip.lower woPriority ∉ expected then [{
    field := "severity_priority_alignment"
    domainA := domainTelcoOps
    valueA := s!"severity={incSeverity}"
    domainB := domainUtilitiesField
    valueB := s!"priority={woPriority}"
    severity := "warning"
    resolution := s!"Incident severity '{incSeverity}' does not align with " ++
      s!"work order priority '{woPriority}'. Review escalation." }]
  else []

/-- Where the work order and an incident contradict each other. -/
def conflictsWith : List CrossPlaneConflict :=
  timingConflicts ip isoformat woData inc ++ ownershipConflicts ip woData inc ++
    priorityConflicts ip woData inc

/-- The incidents under their names, of several under one name the last. -/
def incidentMap (incidents : List JsonDict) : Dict String JsonDict :=
  (incidents.filter fun inc => textField ip inc "incident_id" ≠ "").foldl
    (fun d inc => d.set (textField ip inc "incident_id") inc) .empty

def detectConflicts (links : List CrossPlaneLink) (incidents : List JsonDict) :
    List CrossPlaneConflict :=
  links.flatMap fun link =>
    if link.linkType ≠ "work_order_to_incident" then []
    else
      match (incidentMap ip incidents).get? link.targetId with
      | some inc => if inc.isEmpty then [] else conflictsWith ip isoformat woData inc
      | none => []

end Conflicts
end WorkOrderIncidentLinker

/-! ### Evidence -/

structure EvidenceItem where
  domain : String
  type : String
  id : String
  summary : String
  severity : Option String := none
  impactLevel : Option String := none
  data : JsonDict

/-- `EvidenceBundle` but for the identifier drawn. -/
structure EvidenceBundle where
  domains : List String
  evidenceItems : List EvidenceItem
  totalItems : ℕ
  confidence : ℚ

/-- `sorted({item["domain"] for item in items})`. -/
def domainsOf (items : List EvidenceItem) : List String :=
  Py.sorted (items.map EvidenceItem.domain).dedup

def workOrderItem (ip : Interpreter) (wo : JsonDict) : EvidenceItem where
  domain := domainUtilitiesField
  type := "work_order"
  id := textField ip wo "work_order_id"
  summary := firstChars 200 (textField ip wo "description")
  data := wo

namespace MarginEvidenceAssembler
variable (ip : Interpreter)

def contractItem (obj : JsonDict) : EvidenceItem where
  domain := domainContractMargin
  type := safeStr ip (dictGet obj "type" (dictGet obj "object_type" (.str "contract_object")))
  id := ContractWorkOrderLinker.objectId ip obj
  summary := firstChars 200
    (safeStr ip (dictGet obj "description" (dictGet obj "activity" (.str ""))))
  data := obj

def triggerItem (trigger : JsonDict) : EvidenceItem where
  domain := domainContractMargin
  type := "leakage_trigger"
  id := textField ip trigger "trigger_type"
  summary := firstChars 200 (textField ip trigger "description")
  severity := safeStr ip (dictGet trigger "severity" (.str "medium"))
  data := trigger

def computeConfidence (items : List EvidenceItem) (leakageTriggers : List JsonDict) : ℚ :=
  if items = [] then 0
  else
    let domainCount : ℚ := (items.map EvidenceItem.domain).dedup.length
    let hasContract := items.any fun item =>
      item.domain = domainContractMargin ∧ item.type ≠ "leakage_trigger"
    let hasWork := items.any fun item => item.domain = domainUtilitiesField
    min (3 / 10 * min (domainCount / 2) 1 + (if hasContract then 25 / 100 else 0) +
      (if hasWork then 25 / 100 else 0) + (if leakageTriggers ≠ [] then 20 / 100 else 0)) 1

def assemble (contractObjects workHistory leakageTriggers : List JsonDict) : EvidenceBundle :=
  let items := contractObjects.map (contractItem ip) ++ workHistory.map (workOrderItem ip) ++
    leakageTriggers.map (triggerItem ip)
  { domains := domainsOf items
    evidenceItems := items
    totalItems := items.length
    confidence := Py.roundDigits (computeConfidence items leakageTriggers) 3 }

end MarginEvidenceAssembler

namespace OpsEvidenceAssembler
variable (ip : Interpreter)

def incidentItem (incident : JsonDict) : EvidenceItem where
  domain := domainTelcoOps
  type := "incident"
  id := textField ip incident "incident_id"
  summary := firstChars 200
    (safeStr ip (dictGet incident "title" (dictGet incident "description" (.str ""))))
  severity := textField ip incident "severity"
  data := incident

def serviceItem (svc : JsonDict) : EvidenceItem where
  domain := domainTelcoOps
  type := "service_state"
  id := textField ip svc "service_id"
  summary := textField ip svc "service_name" ++ " [" ++ textField ip svc "state" ++ "]"
  impactLevel := textField ip svc "impact_level"
  data := svc

def escalationItem (escalation : JsonDict) : EvidenceItem where
  domain := domainTelcoOps
  type := "escalation_decision"
  id := safeStr ip (dictGet escalation "level" (.str "none"))
  summary := textField ip escalation "reason"
  data := escalation

def actionItem (nextAction : JsonDict) : EvidenceItem where
  domain := domainTelcoOps
  type := "next_action"
  id := textField ip nextAction "action"
  summary := textField ip nextAction "reason"
  data := nextAction

def computeConfidence (serviceStates : List JsonDict) (escalation nextAction : JsonDict) : ℚ :=
  min (3 / 10 + (if serviceStates ≠ [] then 25 / 100 else 0) +
    (if (dictGet escalation "reason" .null).truthy then 20 / 100 else 0) +
    (if (dictGet nextAction "action" .null).truthy then 25 / 100 else 0)) 1

def assemble (incident : JsonDict) (serviceStates : List JsonDict)
    (escalation nextAction : JsonDict) : EvidenceBundle :=
  let items := incidentItem ip incident :: serviceStates.map (serviceItem ip) ++
    (if escalation ≠ [] then [escalationItem ip escalation] else []) ++
    (if nextAction ≠ [] then [actionItem ip nextAction] else [])
  { domains := [domainTelcoOps]
    evidenceItems := items
    totalItems := items.length
    confidence := Py.roundDigits (computeConfidence serviceStates escalation nextAction) 3 }

end OpsEvidenceAssembler

/-! ### The reconciler -/

namespace CrossPlaneReconciler

/-- What two planes are reconciled to. -/
structure Reconciliation where
  links : List PlaneLink
  conflicts : List CrossPlaneConflict
  evidence : EvidenceBundle

structure FullReconciliation where
  allLinks : List PlaneLink
  allConflicts : List CrossPlaneConflict
  aggregateEvidence : EvidenceBundle
  contractToWo : Reconciliation
  woToIncident : Reconciliation

/-- `obj.setdefault("type", type)` on a copy. -/
def withType (type : String) (obj : JsonDict) : JsonDict :=
  if has obj "type" then obj else obj ++ [("type", .str type)]

def collectContractObjects (contractData : ContractPlane) : List JsonDict :=
  contractData.rateCard.map (withType "rate_card") ++
    contractData.obligations.map (withType "obligation") ++
    contractData.scopeBoundaries.map (withType "scope_boundary") ++ contractData.controlObjects

section Reconcile
variable (ip : Interpreter) (isoformat : ℤ → String)

def reconcileContractToWorkOrder (contractData : ContractPlane) (woData : JsonDict) :
    Except PyError Reconciliation := do
  let contractObjects := collectContractObjects contractData
  let links ← ContractWorkOrderLinker.link ip contractObjects woData
  let conflicts ←
    ContractWorkOrderLinker.detectConflicts ip woData links contractData.toContractData
  return {
    links := links
    conflicts := conflicts
    evidence := MarginEvidenceAssembler.assemble ip contractObjects [woData]
      contractData.leakageTriggers }

def reconcileWorkOrderToIncident (woData : JsonDict) (incidentData : IncidentPlane) :
    Except PyError Reconciliation := do
  let incidents := incidentData.all
  let links ← WorkOrderIncidentLinker.link ip woData incidents
  return {
    links := links.map CrossPlaneLink.modelDump
    conflicts := WorkOrderIncidentLinker.detectConflicts ip isoformat woData links incidents
    evidence := OpsEvidenceAssembler.assemble ip (incidents.headD []) incidentData.serviceStates
      incidentData.escalation incidentData.nextAction }

/-- The mean of what is positive. -/
def meanConfidence (confidences : List ℚ) : ℚ :=
  let valid := confidences.filter fun c => 0 < c
  if valid = [] then 0 else valid.sum / valid.length

def aggregate (contractEvidence opsEvidence : EvidenceBundle) : EvidenceBundle :=
  let items := contractEvidence.evidenceItems ++ opsEvidence.evidenceItems
  { domains := domainsOf items
    evidenceItems := items
    totalItems := items.length
    confidence := Py.roundDigits
      (meanConfidence [contractEvidence.confidence, opsEvidence.confidence]) 3 }

def fullReconciliation (contractData : ContractPlane) (woData : JsonDict)
    (incidentData : IncidentPlane) : Except PyError FullReconciliation := do
  let contractToWo ← reconcileContractToWorkOrder ip contractData woData
  let woToIncident ← reconcileWorkOrderToIncident ip isoformat woData incidentData
  return {
    allLinks := contractToWo.links ++ woToIncident.links
    allConflicts := contractToWo.conflicts ++ woToIncident.conflicts
    aggregateEvidence := aggregate contractToWo.evidence woToIncident.evidence
    contractToWo := contractToWo
    woToIncident := woToIncident }

end Reconcile
end CrossPlaneReconciler
end ControlFabric.Margin
