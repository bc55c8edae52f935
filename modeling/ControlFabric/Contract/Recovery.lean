import ControlFabric.Lib.Raise
import ControlFabric.Margin.Values
import Mathlib.Data.List.ReduceOption

/-! Leakage of revenue and its recovery. Fourteen rules look for leakage in the contract and in the
work that was done; what they find is looked up in a table of recommendations. -/
namespace ControlFabric.Contract
open Lib Ingress

/-! ### Arithmetic on values of any type -/

section Numbers
variable (v w : Json)

def int? : Json → Option ℤ
  | .bool b => some (if b then 1 else 0)
  | .int n => some n
  | _ => none

def number? : Json → Option ℚ
  | .float q => some q
  | v => (int? v).map fun n => (n : ℚ)

/-- An operator on numbers, which of two integers gives an integer. -/
def arithmetic (symbol : String) (ints : ℤ → ℤ → ℤ) (numbers : ℚ → ℚ → ℚ) : Except PyError Json :=
  match int? v, int? w, number? v, number? w with
  | some m, some n, _, _ => .ok (.int (ints m n))
  | _, _, some q, some r => .ok (.float (numbers q r))
  | _, _, _, _ => .error (.typeError
      s!"unsupported operand type(s) for {symbol}: '{v.typeName}' and '{w.typeName}'")

/-- The sequence `v` repeated `w` times, if it is a sequence. -/
def repeated? : Option (Except PyError Json) :=
  let times (repeated : ℕ → Json) : Except PyError Json :=
    match int? w with
    | some n => .ok (repeated n.toNat)
    | none => .error (.typeError s!"can't multiply sequence by non-int of type '{w.typeName}'")
  match v with
  | .str s => some (times fun n => .str (String.join (List.replicate n s)))
  | .arr items => some (times fun n => .arr (List.replicate n items).flatten)
  | _ => none

/-- `v * w`. -/
def mul : Except PyError Json :=
  (repeated? v w <|> repeated? w v).getD (arithmetic v w "*" (· * ·) (· * ·))

/-- `v - w`. -/
def sub : Except PyError Json := arithmetic v w "-" (· - ·) (· - ·)

/-- `v / 100`. -/
def hundredth : Except PyError Json :=
  match number? v with
  | some q => .ok (.float (q / 100))
  | none => .error (.typeError s!"unsupported operand type(s) for /: '{v.typeName}' and 'int'")

def unordered (symbol : String) : PyError :=
  .typeError s!"'{symbol}' not supported between instances of '{v.typeName}' and '{w.typeName}'"

/-- Whether `v` comes before `w`, if they can be compared; the order of lists is a parameter. -/
def precedes (listLt : List Json → List Json → Except PyError Bool) :
    Json → Json → Option (Except PyError Bool)
  | .str s, .str t => some (.ok (s < t))
  | .arr l, .arr m => some (listLt l m)
  | v, w => do
    let q ← number? v
    let r ← number? w
    return .ok (q < r)

/-- `v > 0`. -/
def isPositive : Except PyError Bool :=
  match number? v with
  | some q => .ok (0 < q)
  | none => .error (unordered v (.int 0) ">")

/-- `f"{v:.2f}"`. -/
def cents : Json → Except PyError String
  | .str _ => .error (.valueError "Unknown format code 'f' for object of type 'str'")
  | v => match number? v with
    | some q => .ok (Margin.formatCents q)
    | none => .error (.typeError s!"unsupported format string passed to {v.typeName}.__format__")

/-- `float(v)`. -/
def toFloat (ip : Margin.Interpreter) : Json → Except PyError Json
  | .str s => match ip.floatOfStr s with
    | some q => .ok (.float q)
    | none => .error (.valueError s!"could not convert string to float: '{s}'")
  | v => match number? v with
    | some q => .ok (.float q)
    | none => .error (.typeError
        s!"float() argument must be a string or a real number, not '{v.typeName}'")

/-- The value of a field that is declared as `float`. -/
def floatField (ip : Margin.Interpreter) (v : Json) : Except PyError ℚ :=
  let parsed := match v with
    | .str s => ip.floatOfStr s
    | v => number? v
  match parsed with
  | some q => .ok q
  | none => .error (.validationError "Input should be a valid number")

end Numbers

/-! ### Leakage -/

/-- What a rule says of an item. -/
structure Finding where
  description : String
  severity : String
  estimatedImpact : String := ""
  estimatedImpactValue : ℚ := 0

structure LeakageTrigger extends Finding where
  triggerType : String
  clauseRefs : List String := []

/-- A rule for each item of a list: what it looks for, and what it says where it finds that. -/
structure LeakageRule where
  triggerType : String
  applies : JsonDict → Except PyError Bool
  finding : JsonDict → Except PyError Finding

def LeakageRule.check (rule : LeakageRule) (item : JsonDict) :
    Except PyError (Option LeakageTrigger) := do
  if ← rule.applies item then
    return some { toFinding := ← rule.finding item, triggerType := rule.triggerType }
  else return none

def LeakageRule.collect (rule : LeakageRule) (items : List JsonDict) :
    Except PyError (List LeakageTrigger) :=
  List.reduceOption <$> items.mapM rule.check

namespace LeakageRuleEngine
section Rules
variable (ip : Margin.Interpreter) (listLt : List Json → List Json → Except PyError Bool)

/-- `work.get("activity", "unknown")` in an f-string. -/
def activity (work : JsonDict) : String :=
  Margin.format ip (dictGet work "activity" (.str "unknown"))

/-- `str(work.get(key, "unknown"))`. -/
def impact (key : String) (work : JsonDict) : String :=
  Margin.format ip (dictGet work key (.str "unknown"))

/-- `v is True`. -/
def isTrue : Json → Bool
  | .bool b => b
  | _ => false

def unbilledCompletedWork : LeakageRule where
  triggerType := "unbilled_completed_work"
  applies work := .ok ((dictGet work "status" .null).isStr "completed" ∧ ¬ Json.flag work "billed")
  finding work := .ok {
    description := s!"Work '{activity ip work}' completed but not billed"
    severity := "error"
    estimatedImpact := impact ip "estimated_value" work }

def rateBelowContract : LeakageRule where
  triggerType := "rate_below_contract"
  applies work :=
    let billedRate := dictGet work "billed_rate" .null
    let contractRate := dictGet work "contract_rate" .null
    if billedRate.truthy ∧ contractRate.truthy then
      (precedes listLt billedRate contractRate).getD (.error (unordered billedRate contractRate "<"))
    else .ok false
  finding work :=
    let billedRate := Margin.format ip (dictGet work "billed_rate" .null)
    let contractRate := Margin.format ip (dictGet work "contract_rate" .null)
    .ok {
      description := s!"Billed rate ${billedRate} below contract rate ${contractRate}"
      severity := "warning" }

def scopeCreepDetected : LeakageRule where
  triggerType := "scope_creep_detected"
  applies work :=
    .ok (Json.flag work "change_order_required" ∧ ¬ Json.flag work "change_order_id")
  finding work :=
    let activity := Margin.format ip (dictGet work "activity" .null)
    .ok {
      description := s!"Out-of-scope work '{activity}' without change order"
      severity := "error" }

/-- The rule for the penalties among the objects of the contract. -/
def penaltyExposure : LeakageRule where
  triggerType := "penalty_exposure_unmitigated"
  applies penalty :=
    match dictGet penalty "payload" (.obj []) with
    | .obj payload => .ok (Json.flag payload "breach_detected")
    | v => .error (.attributeError s!"'{v.typeName}' object has no attribute 'get'")
  finding penalty :=
    let label := Margin.format ip (dictGet penalty "label" (.str ""))
    .ok {
      description := s!"Penalty condition '{label}' breach detected without mitigation"
      severity := "critical" }

def missingDayworkSheet : LeakageRule where
  triggerType := "missing_daywork_sheet"
  applies work := .ok ((dictGet work "category" .null).isStr "daywork" ∧
    (dictGet work "status" .null).isStr "completed" ∧ ¬ Json.flag work "daywork_sheet_signed")
  finding work := .ok {
    description := s!"Daywork '{activity ip work}' completed " ++
      "but daywork sheet not signed — cannot invoice"
    severity := "error"
    estimatedImpact := impact ip "estimated_value" work }

def rateEscalationMissed : LeakageRule where
  triggerType := "rate_escalation_missed"
  applies work := .ok (Json.flag work "escalation_due" ∧ ¬ Json.flag work "escalation_applied")
  finding work := do
    let delta ← hundredth (← mul (dictGet work "contract_rate" (.int 0))
      (dictGet work "escalation_percentage" (.int 0)))
    let unit := Margin.format ip (dictGet work "unit" (.str "unit"))
    let description := s!"Annual rate escalation not applied for '{activity ip work}' — " ++
      s!"under-recovery of approx {← cents delta} per {unit}"
    let value ← floatField ip (← mul delta (dictGet work "volume" (.int 1)))
    return { description := description, severity := "warning", estimatedImpactValue := value }

def abortiveVisitNotClaimed : LeakageRule where
  triggerType := "abortive_visit_not_claimed"
  applies work := .ok (isTrue (dictGet work "abortive" .null) ∧ ¬ Json.flag work "abortive_claimed")
  finding work := .ok {
    description := s!"Abortive visit for '{activity ip work}' (customer no-access) not claimed"
    severity := "warning"
    estimatedImpact := impact ip "abortive_value" work }

def variationWorkNoChangeOrder : LeakageRule where
  triggerType := "variation_work_no_change_order"
  applies work :=
    .ok (isTrue (dictGet work "is_variation" .null) ∧ ¬ Json.flag work "variation_order_ref")
  finding work := .ok {
    description := s!"Variation work '{activity ip work}' " ++
      "performed without formal variation order — non-billable"
    severity := "error"
    estimatedImpact := impact ip "estimated_value" work }

def permitCostNotRecovered : LeakageRule where
  triggerType := "permit_cost_not_recovered"
  applies work := .ok (Json.flag work "permit_cost" ∧ ¬ Json.flag work "permit_cost_recovered")
  finding work := do
    let permitCost := dictGet work "permit_cost" (.int 0)
    let description := s!"NRSWA permit cost £{← cents permitCost} for " ++
      s!"'{activity ip work}' not passed through to client"
    let value ← floatField ip (← toFloat ip permitCost)
    return { description := description, severity := "warning", estimatedImpactValue := value }

def outOfHours : List String := ["overtime", "weekend", "emergency", "out_of_hours"]

/-- Work done out of hours at a rate that does not exceed the contract's. -/
def timeRateMismatch : LeakageRule where
  triggerType := "time_rate_mismatch"
  applies work := do
    let timeOfDay := dictGet work "time_of_day" (.str "normal")
    let billedRate := dictGet work "billed_rate" (.int 0)
    let contractRate := dictGet work "contract_rate" (.int 0)
    if outOfHours.any fun s => timeOfDay.isStr s then
      let _ ← mul contractRate (dictGet work "expected_multiplier" (.float (3 / 2)))
      if ← isPositive billedRate then
        if ← isPositive contractRate then
          return (number? billedRate).getD 0 ≤ (number? contractRate).getD 0
        else return false
      else return false
    else return false
  finding work := do
    let timeOfDay := Margin.format ip (dictGet work "time_of_day" (.str "normal"))
    let billedRate := dictGet work "billed_rate" (.int 0)
    let expectedRate ← mul (dictGet work "contract_rate" (.int 0))
      (dictGet work "expected_multiplier" (.float (3 / 2)))
    let delta ← sub expectedRate billedRate
    let description := s!"Work '{activity ip work}' performed during " ++
      s!"{timeOfDay} but billed at standard rate " ++
      s!"(£{← cents billedRate} vs expected £{← cents expectedRate})"
    let value ← floatField ip (← mul delta (dictGet work "hours" (.int 1)))
    return { description := description, severity := "warning", estimatedImpactValue := value }

def materialCostNotBilled : LeakageRule where
  triggerType := "material_cost_not_billed"
  applies work := do
    let materialCost := dictGet work "material_cost" (.int 0)
    if materialCost.truthy then
      return (← isPositive materialCost) ∧ ¬ Json.flag work "material_billed"
    else return false
  finding work := do
    let materialCost := dictGet work "material_cost" (.int 0)
    let description := s!"Materials costing £{← cents materialCost} used for " ++
      s!"'{activity ip work}' but not billed to client"
    let value ← floatField ip (← toFloat ip materialCost)
    return { description := description, severity := "warning", estimatedImpactValue := value }

def subcontractorMarginLeak : LeakageRule where
  triggerType := "subcontractor_margin_leak"
  applies work :=
    match dictGet work "subcontractor_cost" .null, dictGet work "billed_rate" .null with
    | .null, _ | _, .null => .ok false
    | subCost, billedRate =>
      (precedes listLt billedRate subCost).getD (.error (unordered subCost billedRate ">"))
  finding work := do
    let subCost := dictGet work "subcontractor_cost" .null
    let billedRate := dictGet work "billed_rate" .null
    let delta ← sub subCost billedRate
    let description := s!"Subcontractor cost £{← cents subCost} exceeds billed rate " ++
      s!"£{← cents billedRate} for '{activity ip work}' — negative margin of £{← cents delta}"
    let value ← floatField ip (← mul delta (dictGet work "quantity" (.int 1)))
    return { description := description, severity := "error", estimatedImpactValue := value }

def mobilisationNotCharged : LeakageRule where
  triggerType := "mobilisation_not_charged"
  applies work := do
    if Json.flag work "remote_site" then
      return (← isPositive (dictGet work "mobilisation_cost" (.int 0))) ∧
        ¬ Json.flag work "mobilisation_billed"
    else return false
  finding work := do
    let mobilisationCost := dictGet work "mobilisation_cost" (.int 0)
    let description := s!"Mobilisation cost £{← cents mobilisationCost} to " ++
      s!"remote site for '{activity ip work}' not recovered"
    let value ← floatField ip (← toFloat ip mobilisationCost)
    return { description := description, severity := "warning", estimatedImpactValue := value }

def warrantyReworkBilled : LeakageRule where
  triggerType := "warranty_rework_billed"
  applies work := .ok (Json.flag work "is_rework" ∧ Json.flag work "within_warranty_period" ∧
    Json.flag work "billed")
  finding work := do
    let description := s!"Rework for '{activity ip work}' within warranty " ++
      "period billed as new work — should be non-billable"
    let billedRate ← toFloat ip (dictGet work "billed_rate" (.int 0))
    let value ← floatField ip (← mul billedRate (dictGet work "hours" (.int 1)))
    return { description := description, severity := "error", estimatedImpactValue := value }

/-- The rules in turn, each with the items it goes through. -/
def runs (contractObjects workHistory : List JsonDict) : List (LeakageRule × List JsonDict) :=
  let penaltyObjects :=
    contractObjects.filter fun o => (dictGet o "control_type" .null).isStr "penalty_condition"
  [(unbilledCompletedWork ip, workHistory), (rateBelowContract ip listLt, workHistory),
    (scopeCreepDetected ip, workHistory), (penaltyExposure ip, penaltyObjects),
    (missingDayworkSheet ip, workHistory), (rateEscalationMissed ip, workHistory),
    (abortiveVisitNotClaimed ip, workHistory), (variationWorkNoChangeOrder ip, workHistory),
    (permitCostNotRecovered ip, workHistory), (timeRateMismatch ip, workHistory),
    (materialCostNotBilled ip, workHistory), (subcontractorMarginLeak ip listLt, workHistory),
    (mobilisationNotCharged ip, workHistory), (warrantyReworkBilled ip, workHistory)]

def evaluate (contractObjects workHistory : List JsonDict) :
    Except PyError (List LeakageTrigger) :=
  List.flatten <$> (runs ip listLt contractObjects workHistory).mapM fun run => run.1.collect run.2

end Rules
end LeakageRuleEngine

/-! ### Recovery -/

inductive RecoveryType where
  | changeOrder
  | rateAdjustment
  | penaltyWaiver
  | scopeClarification
  | backbill
  | creditNote

inductive PriorityLevel where
  | low
  | medium
  | high
  | critical

structure CommercialRecoveryRecommendation where
  recommendationType : RecoveryType
  description : String
  estimatedRecoveryValue : ℚ
  evidenceClauseRefs : List String
  priority : PriorityLevel
  confidence : ℚ

namespace RecoveryRecommendationEngine

/-- `_TRIGGER_MAP`. -/
def triggerMap : String → Option (RecoveryType × String × PriorityLevel)
  | "unbilled_completed_work" => some (.backbill, "Backbill for unbilled completed work", .high)
  | "rate_below_contract" => some (.rateAdjustment, "Adjust billing rate to contracted rate", .medium)
  | "penalty_exposure_unmitigated" =>
    some (.penaltyWaiver, "Negotiate penalty waiver or mitigation plan", .high)
  | "scope_creep_detected" => some (.changeOrder, "Raise change order for out-of-scope work", .high)
  | "scope_creep_unpriced" =>
    some (.changeOrder, "Raise change order for unpriced scope creep", .high)
  | "missing_daywork_sheet" => some (.backbill, "Obtain signed daywork sheet then backbill", .medium)
  | "rate_escalation_missed" =>
    some (.rateAdjustment, "Apply contractual rate escalation and adjust invoices", .medium)
  | "abortive_visit_not_claimed" => some (.backbill, "Claim abortive visit charge", .low)
  | "variation_work_no_change_order" =>
    some (.changeOrder, "Raise formal variation order for variation work", .high)
  | "permit_cost_not_recovered" => some (.backbill, "Pass through permit cost to client", .low)
  | _ => none

/-- The body of the loop. -/
def recommend (ip : Margin.Interpreter) (trigger : LeakageTrigger) :
    Option CommercialRecoveryRecommendation := do
  let (recoveryType, description, priority) ← triggerMap trigger.triggerType
  let estimatedValue :=
    if trigger.estimatedImpactValue = 0 ∧ trigger.estimatedImpact ≠ "" then
      (ip.floatOfStr trigger.estimatedImpact).getD 0
    else trigger.estimatedImpactValue
  return {
    recommendationType := recoveryType
    description := s!"{description}: {trigger.description}"
    estimatedRecoveryValue := estimatedValue
    evidenceClauseRefs := trigger.clauseRefs
    priority := priority
    confidence := if estimatedValue > 0 then 8 / 10 else 5 / 10 }

/-- The contract objects and the rate card do not enter into what is returned. -/
def buildRecommendations (ip : Margin.Interpreter) (leakageTriggers : List LeakageTrigger) :
    List CommercialRecoveryRecommendation :=
  leakageTriggers.filterMap (recommend ip)

end RecoveryRecommendationEngine

/-! ### Every trigger has its recommendation -/

open LeakageRuleEngine RecoveryRecommendationEngine

section Agreement
variable {ip : Margin.Interpreter} {listLt : List Json → List Json → Except PyError Bool}
  {contractObjects workHistory : List JsonDict} {triggers : List LeakageTrigger}
  {rule : LeakageRule} {item : JsonDict} {trigger : LeakageTrigger}

/-- A rule that applies to an item and does not raise has a trigger of its type. -/
theorem check_of_applies {found : Option LeakageTrigger} (h : rule.check item = .ok found)
    (happlies : rule.applies item = .ok true) :
    ∃ trigger, found = some trigger ∧ trigger.triggerType = rule.triggerType := by
  rw [LeakageRule.check, happlies, ok_bind, if_pos rfl] at h
  obtain ⟨finding, -, heq⟩ := bind_eq_ok_iff.mp h
  exact ⟨_, (Except.ok.inj heq).symm, rfl⟩

theorem applies_of_check (h : rule.check item = .ok (some trigger)) :
    rule.applies item = .ok true ∧ trigger.triggerType = rule.triggerType := by
  obtain ⟨applies, happlies, hrest⟩ := bind_eq_ok_iff.mp h
  cases applies with
  | false => simp at hrest
  | true =>
    obtain ⟨trigger', heq, htype⟩ := check_of_applies h happlies
    rw [Option.some.inj heq]
    exact ⟨happlies, htype⟩

/-- Of a run that was made every item was checked, and what the checks found is among the
triggers. -/
theorem checked_of_evaluate (h : evaluate ip listLt contractObjects workHistory = .ok triggers)
    {run : LeakageRule × List JsonDict} (hrun : run ∈ runs ip listLt contractObjects workHistory) :
    ∃ checked, run.2.mapM run.1.check = .ok checked ∧
      ∀ trigger, some trigger ∈ checked → trigger ∈ triggers := by
  obtain ⟨lists, hlists, rfl⟩ := map_eq_ok_iff.mp h
  obtain ⟨l, hl, hcollect⟩ := returns_of_mapM hlists hrun
  obtain ⟨checked, hchecked, rfl⟩ := map_eq_ok_iff.mp hcollect
  refine ⟨checked, hchecked, fun trigger hmem => ?_⟩
  exact List.mem_flatten.mpr ⟨_, hl, List.reduceOption_mem_iff.mpr hmem⟩

theorem check_returns (h : evaluate ip listLt contractObjects workHistory = .ok triggers)
    {run : LeakageRule × List JsonDict} (hrun : run ∈ runs ip listLt contractObjects workHistory)
    (hitem : item ∈ run.2) : ∃ found, run.1.check item = .ok found := by
  obtain ⟨checked, hchecked, -⟩ := checked_of_evaluate h hrun
  obtain ⟨found, -, hcheck⟩ := returns_of_mapM hchecked hitem
  exact ⟨found, hcheck⟩

theorem mem_evaluate (h : evaluate ip listLt contractObjects workHistory = .ok triggers) :
    trigger ∈ triggers ↔ ∃ run ∈ runs ip listLt contractObjects workHistory, ∃ item ∈ run.2,
      run.1.check item = .ok (some trigger) := by
  constructor
  · intro hmem
    obtain ⟨lists, hlists, rfl⟩ := map_eq_ok_iff.mp h
    obtain ⟨l, hl, hin⟩ := List.mem_flatten.mp hmem
    obtain ⟨run, hrun, hcollect⟩ := mem_mapM hlists hl
    obtain ⟨checked, hchecked, rfl⟩ := map_eq_ok_iff.mp hcollect
    obtain ⟨item, hitem, hcheck⟩ := mem_mapM hchecked (List.reduceOption_mem_iff.mp hin)
    exact ⟨run, hrun, item, hitem, hcheck⟩
  · intro ⟨run, hrun, item, hitem, hcheck⟩
    obtain ⟨checked, hchecked, hfound⟩ := checked_of_evaluate h hrun
    obtain ⟨found, hmem, hcheck'⟩ := returns_of_mapM hchecked hitem
    obtain rfl : found = some trigger := Except.ok.inj (hcheck'.symm.trans hcheck)
    exact hfound trigger hmem

theorem recommend_isSome : (recommend ip trigger).isSome = (triggerMap trigger.triggerType).isSome := by
  unfold recommend
  cases triggerMap trigger.triggerType <;> rfl

/-- All triggers are in the table exactly if no rule missing in it applies to one of its items. -/
theorem recommended_iff (h : evaluate ip listLt contractObjects workHistory = .ok triggers) :
    (∀ trigger ∈ triggers, (recommend ip trigger).isSome = true) ↔
      ∀ run ∈ runs ip listLt contractObjects workHistory, triggerMap run.1.triggerType = none →
        ∀ item ∈ run.2, run.1.applies item ≠ .ok true := by
  simp only [recommend_isSome]
  constructor
  · intro hall run hrun hmissing item hitem happlies
    obtain ⟨found, hcheck⟩ := check_returns h hrun hitem
    obtain ⟨trigger, rfl, htype⟩ := check_of_applies hcheck happlies
    have hmem := (mem_evaluate h).mpr ⟨run, hrun, item, hitem, hcheck⟩
    have hsome := hall trigger hmem
    simp [htype, hmissing] at hsome
  · intro hnone trigger hmem
    obtain ⟨run, hrun, item, hitem, hcheck⟩ := (mem_evaluate h).mp hmem
    obtain ⟨happlies, htype⟩ := applies_of_check hcheck
    rw [htype, Option.isSome_iff_ne_none]
    intro hmissing
    exact hnone run hrun hmissing item hitem happlies

/-- Work that one of the five rules missing in the table applies to. -/
def Unadvised (ip : Margin.Interpreter) (listLt : List Json → List Json → Except PyError Bool)
    (work : JsonDict) : Prop :=
  (timeRateMismatch ip).applies work = .ok true ∨ (materialCostNotBilled ip).applies work = .ok true ∨
    (subcontractorMarginLeak ip listLt).applies work = .ok true ∨
    (mobilisationNotCharged ip).applies work = .ok true ∨
    (warrantyReworkBilled ip).applies work = .ok true

theorem forall_missing_iff : (∀ run ∈ runs ip listLt contractObjects workHistory,
      triggerMap run.1.triggerType = none → ∀ item ∈ run.2, run.1.applies item ≠ .ok true) ↔
    ∀ work ∈ workHistory, ¬ Unadvised ip listLt work := by
  -- the table knows the types of the first nine rules, and of the last five none
  have hknown : (runs ip listLt contractObjects workHistory).map
      (fun run => (triggerMap run.1.triggerType).isNone) =
      List.replicate 9 false ++ List.replicate 5 true := rfl
  simp only [runs, List.map_cons, List.map_nil, List.replicate, List.cons_append, List.nil_append,
    List.cons.injEq, and_true, Option.isNone_eq_false_iff, Option.isNone_iff_eq_none,
    Option.isSome_iff_ne_none] at hknown
  simp only [runs, List.forall_mem_cons, List.not_mem_nil, false_imp_iff, implies_true, and_true,
    hknown, Unadvised, not_or, forall_and, true_imp_iff, ne_eq]
  tauto

/-- For each of the items there is one result, in the same order. -/
theorem forall₂_filterMap_iff {α β : Type} {f : α → Option β} {l : List α} :
    List.Forall₂ (fun a b => f a = some b) l (l.filterMap f) ↔ ∀ a ∈ l, (f a).isSome = true := by
  induction l with
  | nil => simp
  | cons a l ih =>
    cases hf : f a with
    | none =>
      refine iff_of_false (fun h => ?_) (by simp [hf])
      have hlength := h.length_eq
      have hle := List.length_filterMap_le f l
      simp only [List.filterMap_cons, hf, List.length_cons] at hlength
      omega
    | some b => simp [hf, ih]

end Agreement

/-- Of the triggers that were found each has its recommendation exactly if no work is of the five
kinds that the table does not know. -/
theorem oneEach_iff (ip : Margin.Interpreter)
    (listLt : List Json → List Json → Except PyError Bool) {contractObjects workHistory : List JsonDict}
    {triggers : List LeakageTrigger}
    (h : evaluate ip listLt contractObjects workHistory = .ok triggers) :
    List.Forall₂ (fun trigger recommendation => recommend ip trigger = some recommendation) triggers
        (buildRecommendations ip triggers) ↔
      ∀ work ∈ workHistory, ¬ Unadvised ip listLt work := by
  rw [buildRecommendations, forall₂_filterMap_iff, recommended_iff h, forall_missing_iff]

/-- Rework under warranty that was billed. -/
def warrantyRework : JsonDict :=
  [("is_rework", .bool true), ("within_warranty_period", .bool true), ("billed", .bool true)]

theorem not_oneEach_warrantyRework :
    ∃ triggers, evaluate .ascii (fun _ _ => .ok false) [] [warrantyRework] = .ok triggers ∧
      triggers.length = 1 ∧ buildRecommendations .ascii triggers = [] :=
  ⟨_, rfl, rfl, rfl⟩

/-- Work that was completed and not billed. -/
theorem oneEach_unbilled : ∃ triggers,
    evaluate .ascii (fun _ _ => .ok false) [] [[("status", .str "completed")]] = .ok triggers ∧
      List.Forall₂
        (fun trigger recommendation => recommend .ascii trigger = some recommendation) triggers
        (buildRecommendations .ascii triggers) := by
  obtain ⟨triggers, htriggers⟩ : ∃ triggers, evaluate .ascii (fun _ _ => .ok false) []
      [[("status", .str "completed")]] = .ok triggers := ⟨_, rfl⟩
  refine ⟨triggers, htriggers, (oneEach_iff .ascii (fun _ _ => .ok false) htriggers).mpr ?_⟩
  intro work hwork hunadvised
  obtain rfl := List.mem_singleton.mp hwork
  rcases hunadvised with h | h | h | h | h <;> cases h

end ControlFabric.Contract
