import ControlFabric.Margin.Accountability
import ControlFabric.Margin.Billability
import ControlFabric.Margin.Leakage
import ControlFabric.Margin.Links

/-! The diagnosis of a margin over the contract, field and operations planes. The links of
contracts, the bundle of evidence, the confidence and the summary are left out: no conflict and no
verdict depends on them. -/
namespace ControlFabric.Margin
open Lib Ingress

namespace MarginDiagnosisReconciler

/-- `sla_performance`, with the defaults of what it need not have. -/
structure SlaPerformance where
  slaStatus : JsonDict := []
  fieldBlockers : List JsonDict := []
  contractAssumptions : List JsonDict := []
  slaBreaches : List JsonDict := []

/-- What `reconcile` is given. -/
structure Input where
  contractObjects : List JsonDict := []
  workOrders : List JsonDict := []
  incidents : List JsonDict := []
  workHistory : List JsonDict := []
  slaPerformance : SlaPerformance := {}

/-- `MarginDiagnosisBundle`. -/
structure Diagnosis where
  woIncidentLinks : List CrossPlaneLink
  fieldBillingConflicts : List CrossPlaneConflict
  slaConflicts : List CrossPlaneConflict
  leakagePatterns : List MarginLeakageReconciler.LeakageTrigger
  allConflicts : List CrossPlaneConflict
  verdict : String

section Steps
variable (ip : Interpreter)

def objectType (obj : JsonDict) : String :=
  safeStr ip (dictGet obj "type" (dictGet obj "control_type" (dictGet obj "object_type" (.str ""))))

def buildContractData (contractObjects : List JsonDict) : ContractData :=
  let ofType (types : List String) := contractObjects.filter fun obj => objectType ip obj ∈ types
  { rateCard := ofType ["rate_card", "rate", "billable_event"]
    obligations := ofType ["obligation", "sla"]
    scopeBoundaries := ofType ["scope", "scope_boundary"]
    invoices := ofType ["invoice"] }

/-- A list whose items are read as dicts. -/
def dicts (v : Json) : Except PyError (List JsonDict) := do
  (← v.iterate).mapM fun
    | .obj d => .ok d
    | v => .error (.attributeError s!"'{v.typeName}' object has no attribute 'get'")

/-- A dict that may be missing or empty. -/
def optionalDict : Json → Except PyError (Option JsonDict)
  | .obj d => .ok (some d)
  | v =>
    if v.truthy then .error (.attributeError s!"'{v.typeName}' object has no attribute 'get'")
    else .ok none

def blockerConflict (wo : JsonDict) (blocker : FieldCompletionBillabilityLinker.Blocker) :
    Except PyError CrossPlaneConflict :=
  match blocker.description with
  | .str description => .ok {
      field := blocker.rule
      domainA := domainUtilitiesField
      valueA := textField ip wo "work_order_id"
      domainB := domainContractMargin
      valueB := description
      severity := blocker.severity
      resolution := s!"Resolve billing blocker: {description}" }
  | _ => .error (.validationError "value_b: Input should be a valid string")

def billingConflicts (wo : JsonDict) : Except PyError (List CrossPlaneConflict) := do
  let completionEvidence ← dicts (dictGet wo "completion_evidence" (.arr []))
  let billingGates ← dicts (dictGet wo "billing_gates" (.arr []))
  let reattendanceInfo ← optionalDict (dictGet wo "reattendance_info" .null)
  let fbResult ← FieldCompletionBillabilityLinker.evaluate wo completionEvidence billingGates
    reattendanceInfo
  fbResult.blockers.mapM (blockerConflict ip wo)

def factorConflict (factor : SLAAccountabilityLinker.MitigationFactor) : CrossPlaneConflict where
  field := "sla_mitigation"
  domainA := domainUtilitiesField
  valueA := factor.blockerType
  domainB := domainTelcoOps
  valueB := factor.mitigation.getD ""
  severity := "warning"
  resolution := factor.mitigation.getD "Review SLA mitigation factor."

def slaConflictsOf (slaPerformance : SlaPerformance) : Except PyError (List CrossPlaneConflict) := do
  if slaPerformance.slaStatus.isEmpty ∧ slaPerformance.fieldBlockers.isEmpty then return []
  let slaResult ← SLAAccountabilityLinker.evaluate slaPerformance.slaStatus
    slaPerformance.fieldBlockers slaPerformance.contractAssumptions
  let breached := (dictGet slaPerformance.slaStatus "status" .null).isStr "breached"
  let accountable : List CrossPlaneConflict :=
    if slaResult.accountable ∧ breached then [{
      field := "sla_accountability"
      domainA := domainTelcoOps
      valueA := "sla_breached"
      domainB := domainContractMargin
      valueB := "provider_accountable"
      severity := "critical"
      resolution := "SLA breached and provider is accountable. Penalty exposure applies." }]
    else []
  return accountable ++ slaResult.mitigationFactors.map factorConflict

def grave (severity : String) : Bool := severity ∈ ["error", "critical"]

def determineVerdict (leakagePatterns : List MarginLeakageReconciler.LeakageTrigger)
    (allConflicts slaConflicts : List CrossPlaneConflict) : String :=
  if slaConflicts.any fun c => c.field = "sla_accountability" ∧ c.severity = "critical" then
    "penalty_risk"
  else if ¬ leakagePatterns.isEmpty then
    if leakagePatterns.any fun t => grave t.severity then "under_recovery" else "leakage_detected"
  else if ¬ allConflicts.isEmpty then
    if allConflicts.any fun c => grave c.severity then "under_recovery" else "leakage_detected"
  else "healthy"

/-- `incidents[0] if incidents else None`. -/
def primaryIncident (incidents : List JsonDict) : Option JsonDict := incidents.head?

def reconcile (input : Input) : Except PyError Diagnosis := do
  let contractData := buildContractData ip input.contractObjects
  let links ← input.workOrders.mapM fun wo =>
    WorkOrderIncidentLinker.link ip wo input.incidents
  let billing ← input.workOrders.mapM (billingConflicts ip)
  let slaConflicts ← slaConflictsOf input.slaPerformance
  let leakage ← MarginLeakageReconciler.reconcile ip contractData
    (input.workOrders ++ input.workHistory) input.slaPerformance.slaBreaches
  let contradictions ← input.workOrders.mapM fun wo =>
    ContradictionDetector.detect ip contractData wo (primaryIncident input.incidents)
  let allConflicts := billing.flatten ++ slaConflicts ++ contradictions.flatten
  return {
    woIncidentLinks := links.flatten
    fieldBillingConflicts := billing.flatten
    slaConflicts := slaConflicts
    leakagePatterns := leakage.leakageTriggers
    allConflicts := allConflicts
    verdict := determineVerdict leakage.leakageTriggers allConflicts slaConflicts }

end Steps

section Runs
variable {ip : Interpreter} {input : Input} {d : Diagnosis}

/-- The steps of a diagnosis that returns. -/
structure Steps (ip : Interpreter) (input : Input) where
  links : List (List CrossPlaneLink)
  billing : List (List CrossPlaneConflict)
  sla : List CrossPlaneConflict
  leakage : MarginLeakageReconciler.Leakage
  contradictions : List (List CrossPlaneConflict)
  links_eq : input.workOrders.mapM (fun wo => WorkOrderIncidentLinker.link ip wo input.incidents) =
    .ok links
  billing_eq : input.workOrders.mapM (billingConflicts ip) = .ok billing
  sla_eq : slaConflictsOf input.slaPerformance = .ok sla
  leakage_eq : MarginLeakageReconciler.reconcile ip (buildContractData ip input.contractObjects)
    (input.workOrders ++ input.workHistory) input.slaPerformance.slaBreaches = .ok leakage
  contradictions_eq : input.workOrders.mapM (fun wo =>
    ContradictionDetector.detect ip (buildContractData ip input.contractObjects) wo
      (primaryIncident input.incidents)) = .ok contradictions

def Steps.diagnosis (s : Steps ip input) : Diagnosis where
  woIncidentLinks := s.links.flatten
  fieldBillingConflicts := s.billing.flatten
  slaConflicts := s.sla
  leakagePatterns := s.leakage.leakageTriggers
  allConflicts := s.billing.flatten ++ s.sla ++ s.contradictions.flatten
  verdict := determineVerdict s.leakage.leakageTriggers
    (s.billing.flatten ++ s.sla ++ s.contradictions.flatten) s.sla

theorem reconcile_eq_ok_iff : reconcile ip input = .ok d ↔ ∃ s : Steps ip input, d = s.diagnosis := by
  unfold reconcile
  simp only [bind_eq_ok_iff, pure_eq_ok, Except.ok.injEq]
  constructor
  · rintro ⟨links, hlinks, billing, hbilling, sla, hsla, leakage, hleakage, contradictions,
      hcontradictions, rfl⟩
    exact ⟨⟨links, billing, sla, leakage, contradictions, hlinks, hbilling, hsla, hleakage,
      hcontradictions⟩, rfl⟩
  · rintro ⟨s, rfl⟩
    exact ⟨s.links, s.links_eq, s.billing, s.billing_eq, s.sla, s.sla_eq, s.leakage,
      s.leakage_eq, s.contradictions, s.contradictions_eq, rfl⟩

end Runs
end MarginDiagnosisReconciler
end ControlFabric.Margin
