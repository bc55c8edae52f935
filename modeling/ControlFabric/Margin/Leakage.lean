import ControlFabric.Lib.Assign
import ControlFabric.Lib.Raise
import ControlFabric.Margin.Values

/-! Where margin leaks: ten patterns over work orders, breaches and groups of work orders, each of
which may record a trigger, its value at risk and a recommendation. -/
namespace ControlFabric.Margin
open Lib Ingress

namespace MarginLeakageReconciler

/-- One of the dicts in `triggers`. -/
structure LeakageTrigger where
  triggerType : String
  workOrderId : Option Json := none
  workOrderIds : Option (List Json) := none
  incidentId : Option Json := none
  description : String
  severity : String
  atRiskValue : ℚ

/-- The variables of the loops. -/
structure Ledger where
  triggers : List LeakageTrigger := []
  totalAtRisk : ℚ := 0
  recommendations : List String := []

/-- The returned dict. -/
structure Leakage where
  leakageTriggers : List LeakageTrigger
  totalAtRiskValue : ℚ
  recommendations : List String

/-- The three statements of a pattern. -/
def Ledger.record (l : Ledger) (trigger : LeakageTrigger) (atRisk : ℚ) (recommendation : String) :
    Ledger where
  triggers := l.triggers ++ [trigger]
  totalAtRisk := l.totalAtRisk + atRisk
  recommendations := l.recommendations ++ [recommendation]

def workOrderId (wo : JsonDict) : Json := dictGet wo "work_order_id" (.str "")

def completed (wo : JsonDict) : Bool := (dictGet wo "status" (.str "")).isStr "completed"

section Patterns
variable (ip : Interpreter)

def workOrderValue (wo : JsonDict) : ℚ :=
  safeFloat ip (dictGet wo "value" (dictGet wo "estimated_value" (.int 0)))

/-- `rate_map`, the last entry of an activity counting. -/
def rateMap (rateCard : List JsonDict) : Dict String JsonDict :=
  rateCard.foldl (fun d rc =>
    let activity := safeStr ip (dictGet rc "activity" (.str ""))
    if activity = "" then d else d.set (ip.lower activity) rc) Dict.empty

def fieldCompletionNotBilled (invoiced : List Key) (wo : JsonDict) (l : Ledger) :
    Except PyError Ledger :=
  if completed wo then do
    let id ← hash (workOrderId wo)
    if id ∈ invoiced then return l
    return l.record {
        triggerType := "field_completion_not_billed"
        workOrderId := some (workOrderId wo)
        description := s!"Work order {format ip (workOrderId wo)} completed but no invoice raised"
        severity := "error"
        atRiskValue := workOrderValue ip wo }
      (workOrderValue ip wo)
      s!"Raise invoice for completed work order {format ip (workOrderId wo)}"
  else .ok l

def abortiveVisitNotClaimed (wo : JsonDict) (l : Ledger) : Ledger :=
  if Json.flag wo "abortive" ∧ ¬ Json.flag wo "abortive_claimed" then
    let abortiveValue := safeFloat ip (dictGet wo "abortive_value" (.int 0))
    l.record {
        triggerType := "abortive_visit_not_claimed"
        workOrderId := some (workOrderId wo)
        description := s!"Abortive visit for {format ip (workOrderId wo)} not claimed"
        severity := "warning"
        atRiskValue := abortiveValue }
      abortiveValue s!"Claim abortive visit charge for {format ip (workOrderId wo)}"
  else l

def emergencyBilledAtBaseRate (rates : Dict String JsonDict) (wo : JsonDict) (l : Ledger) : Ledger :=
  if Json.flag wo "is_emergency" then
    let billedRate := safeFloat ip (dictGet wo "billed_rate" (.int 0))
    let rc := rates.getD (ip.lower (safeStr ip (dictGet wo "activity" (.str "")))) []
    let baseRate := safeFloat ip (dictGet rc "rate" (dictGet rc "base_rate" (.int 0)))
    let expectedRate := baseRate * safeFloat ip (dictGet rc "emergency_multiplier" (.float (3 / 2)))
    if 0 < billedRate ∧ 0 < baseRate ∧ billedRate < expectedRate * (99 / 100) then
      let diff := expectedRate - billedRate
      l.record {
          triggerType := "emergency_billed_at_base_rate"
          workOrderId := some (workOrderId wo)
          description := s!"Emergency callout billed at {ip.strFloat billedRate} " ++
            s!"instead of expected {ip.strFloat expectedRate}"
          severity := "error"
          atRiskValue := diff }
        diff s!"Rebill {format ip (workOrderId wo)} at emergency rate ({ip.strFloat expectedRate})"
    else l
  else l

def reattendanceIncorrectlyBilled (wo : JsonDict) (l : Ledger) : Except PyError Ledger :=
  match dictGet wo "reattendance_info" (.obj []) with
  | .obj reattendance =>
    if (dictGet reattendance "trigger" .null).isStr "provider_fault" ∧
        Json.flag reattendance "billed" then
      .ok <| l.record {
          triggerType := "reattendance_incorrectly_billed"
          workOrderId := some (workOrderId wo)
          description := s!"Provider-fault re-visit {format ip (workOrderId wo)} billed to customer"
          severity := "critical"
          atRiskValue := workOrderValue ip wo }
        (workOrderValue ip wo)
        s!"Issue credit note for incorrectly billed rework {format ip (workOrderId wo)}"
    else .ok l
  | v => .error (.attributeError s!"'{v.typeName}' object has no attribute 'get'")

def permitCostNotRecovered (wo : JsonDict) (l : Ledger) : Ledger :=
  let permitCost := safeFloat ip (dictGet wo "permit_cost" (.int 0))
  if 0 < permitCost ∧ ¬ Json.flag wo "permit_cost_recovered" then
    l.record {
        triggerType := "permit_cost_not_recovered"
        workOrderId := some (workOrderId wo)
        description := s!"NRSWA permit cost {formatCents permitCost} not passed through"
        severity := "warning"
        atRiskValue := permitCost }
      permitCost s!"Recover permit cost {formatCents permitCost} for {format ip (workOrderId wo)}"
  else l

def rateEscalationNotApplied (wo : JsonDict) (l : Ledger) : Ledger :=
  if Json.flag wo "escalation_due" ∧ ¬ Json.flag wo "escalation_applied" then
    let contractRate := safeFloat ip (dictGet wo "contract_rate" (.int 0))
    let escPct := safeFloat ip (dictGet wo "escalation_percentage" (.int 0))
    let volume := safeFloat ip (dictGet wo "volume" (.int 1))
    let delta := contractRate * escPct / 100 * volume
    if 0 < delta then
      l.record {
          triggerType := "rate_escalation_not_applied"
          workOrderId := some (workOrderId wo)
          description :=
            s!"Annual rate escalation not applied — under-recovery {formatCents delta}"
          severity := "warning"
          atRiskValue := delta }
        delta s!"Apply rate escalation for {format ip (workOrderId wo)}"
    else l
  else l

def variationWorkUnbilled (wo : JsonDict) (l : Ledger) : Ledger :=
  if Json.flag wo "is_variation" ∧ ¬ (dictGet wo "variation_order_ref" .null).truthy then
    l.record {
        triggerType := "variation_work_unbilled"
        workOrderId := some (workOrderId wo)
        description :=
          s!"Variation work on {format ip (workOrderId wo)} without variation order — cannot bill"
        severity := "error"
        atRiskValue := workOrderValue ip wo }
      (workOrderValue ip wo)
      s!"Raise variation order for {format ip (workOrderId wo)} before invoicing"
  else l

/-- The type of a piece of evidence, if it is provided. -/
def providedEvidence : Json → Except PyError (Option Key)
  | .obj e =>
    if Json.flag e "provided" then some <$> hash (dictGet e "evidence_type" (.str "")) else .ok none
  | v => .error (.attributeError s!"'{v.typeName}' object has no attribute 'get'")

/-- `required_evidence - provided_evidence`. -/
def missingEvidence (wo : JsonDict) : Except PyError (List Key) := do
  let required ← toSet (dictGet wo "required_evidence_types" (.arr []))
  let evidence ← (dictGet wo "completion_evidence" (.arr [])).iterate
  let provided ← evidence.mapM providedEvidence
  return required.filter fun key => some key ∉ provided

def incompleteEvidencePreventsBilling (wo : JsonDict) (l : Ledger) : Except PyError Ledger := do
  let missing ← missingEvidence wo
  if missing.isEmpty ∨ ¬ completed wo then return l
  let names ← joinSorted missing
  return l.record {
      triggerType := "incomplete_evidence_prevents_billing"
      workOrderId := some (workOrderId wo)
      description := s!"Missing evidence ({names}) prevents invoicing"
      severity := "error"
      atRiskValue := workOrderValue ip wo }
    (workOrderValue ip wo) s!"Collect missing evidence for {format ip (workOrderId wo)}"

/-- The body of the loop over the work orders. -/
def visit (invoiced : List Key) (rates : Dict String JsonDict) (wo : JsonDict) (l : Ledger) :
    Except PyError Ledger := do
  let l ← fieldCompletionNotBilled ip invoiced wo l
  let l := emergencyBilledAtBaseRate ip rates wo (abortiveVisitNotClaimed ip wo l)
  let l ← reattendanceIncorrectlyBilled ip wo l
  let l := rateEscalationNotApplied ip wo (permitCostNotRecovered ip wo l)
  incompleteEvidencePreventsBilling ip wo (variationWorkUnbilled ip wo l)

def slaCreditNotDeducted (breach : JsonDict) (l : Ledger) : Ledger :=
  if Json.flag breach "credit_applied" then l
  else
    let creditValue := safeFloat ip (dictGet breach "credit_value" (.int 0))
    l.record {
        triggerType := "sla_credit_not_deducted"
        incidentId := some (dictGet breach "incident_id" (.str ""))
        description := "SLA breach but service credit not applied"
        severity := "warning"
        atRiskValue := creditValue }
      creditValue "Apply SLA service credit for breach"

/-- The activity, place and day of a work order, unless it has none of them. -/
def activityKey (wo : JsonDict) : Option String :=
  let key := ip.lower (safeStr ip (dictGet wo "activity" (.str ""))) ++ "|" ++
    ip.lower (safeStr ip (dictGet wo "location" (.str ""))) ++ "|" ++
    safeStr ip (dictGet wo "scheduled_date" (.str ""))
  if key ≠ "" ∧ key ≠ "||" then some key else none

def activityWoMap (workOrders : List JsonDict) : Dict String (List Json) :=
  keyedGroups (activityKey ip) workOrderId workOrders

/-- The trigger of a group of work orders. -/
def duplicateTrigger (woIds : List Json) (names : String) : LeakageTrigger where
  triggerType := "duplicate_claim_risk"
  workOrderIds := some woIds
  description := s!"Possible duplicate claim across work orders: {names}"
  severity := "warning"
  atRiskValue := 0

/-- Leaves the total as it is. -/
def duplicateClaimRisk (woIds : List Json) (l : Ledger) : Except PyError Ledger := do
  if woIds.length ≤ 1 then return l
  let names ← joinTexts woIds
  return {
    l with
    triggers := l.triggers ++ [duplicateTrigger woIds names]
    recommendations := l.recommendations ++ [s!"Review potential duplicate: {names}"] }

def reconcile (contractData : ContractData) (workOrders slaBreaches : List JsonDict) :
    Except PyError Leakage := do
  let invoiced ← contractData.invoices.mapM fun inv => hash (dictGet inv "work_order_id" .null)
  let rates := rateMap ip contractData.rateCard
  let l ← workOrders.foldlM (fun l wo => visit ip invoiced rates wo l) {}
  let l := slaBreaches.foldl (fun l breach => slaCreditNotDeducted ip breach l) l
  let l ← (activityWoMap ip workOrders).entries.foldlM (fun l p => duplicateClaimRisk p.2 l) l
  return ⟨l.triggers, Py.roundDigits l.totalAtRisk 2, l.recommendations⟩

end Patterns
end MarginLeakageReconciler
end ControlFabric.Margin
