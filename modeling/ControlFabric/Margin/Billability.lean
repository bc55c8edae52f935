import ControlFabric.Lib.Raise
import ControlFabric.Margin.Values

/-! Whether completed field work can be billed. Six rules update a flag and a list of blockers; the
one about abortive visits sets the flag again, over the blockers of the rules before it. -/
namespace ControlFabric.Margin
open Lib Ingress

namespace FieldCompletionBillabilityLinker

/-- One of the dicts in `blockers`. -/
structure Blocker where
  rule : String
  gateType : Option Json := none
  description : Json
  severity : String := "error"

/-- One of the dicts in `leakage_triggers`. -/
structure LeakageTrigger where
  triggerType : String
  description : String
  severity : String

/-- The returned dict, and the variables it is made of. -/
structure Billability where
  billable : Bool := true
  category : Json
  blockers : List Blocker := []
  leakageTriggers : List LeakageTrigger := []

section Rules
variable (workOrder : JsonDict) (completionEvidence billingGates : List JsonDict)
  (reattendanceInfo : Option JsonDict)

/-- `required_evidence_types - provided_evidence_types`. -/
def missingEvidence : Except PyError (List Key) := do
  let required ← toSet (dictGet workOrder "required_evidence_types" (.arr []))
  let provided ← (completionEvidence.filter fun e => Json.flag e "provided").mapM fun e =>
    hash (dictGet e "evidence_type" (dictGet e "type" (.str "")))
  return required.filter fun key => key ∉ provided

def evidenceRule (d : Billability) : Except PyError Billability := do
  let missing ← missingEvidence workOrder completionEvidence
  if missing.isEmpty then return d
  let names ← joinSorted missing
  return {
    d with
    billable := false
    blockers := d.blockers ++ [{
      rule := "missing_completion_evidence"
      description := .str s!"Missing required evidence: {names}" }]
    leakageTriggers := d.leakageTriggers ++ [{
      triggerType := "incomplete_evidence_prevents_billing"
      description := s!"Cannot invoice — missing evidence: {names}"
      severity := "error" }] }

def gateBlocker (gate : JsonDict) : Blocker where
  rule := "billing_gate_unsatisfied"
  gateType := some (dictGet gate "gate_type" (.str "unknown"))
  description := dictGet gate "description" (.str "Billing gate not satisfied")

def gatesRule (d : Billability) : Billability :=
  let unsatisfiedGates := billingGates.filter fun gate => ¬ Json.flag gate "satisfied"
  if unsatisfiedGates.isEmpty then d
  else { d with billable := false, blockers := d.blockers ++ unsatisfiedGates.map gateBlocker }

/-- `reattendance_info.get("trigger", "")`, if there is such information. -/
def reattendanceTrigger : Json :=
  match reattendanceInfo with
  | some info => if info.isEmpty then .str "" else dictGet info "trigger" (.str "")
  | none => .str ""

/-- The rules of the provider's fault and of the abortive visit. -/
def reattendanceRule (d : Billability) : Billability :=
  let trigger := reattendanceTrigger reattendanceInfo
  if trigger.isStr "provider_fault" then {
    d with
    billable := false
    blockers := d.blockers ++ [{
      rule := "reattendance_provider_fault"
      description := .str "Re-attendance caused by provider fault — non-billable" }]
    leakageTriggers :=
      if Json.flag (reattendanceInfo.getD []) "billed" then d.leakageTriggers ++ [{
        triggerType := "reattendance_incorrectly_billed"
        description := "Provider-fault re-visit was billed to customer"
        severity := "critical" }]
      else d.leakageTriggers }
  else if trigger.isStr "customer_no_access" then
    { d with billable := true, category := .str "abortive_visit" }
  else d

def dayworkRule (d : Billability) : Billability :=
  if (dictGet workOrder "category" .null).isStr "daywork" ∧
      ¬ Json.flag workOrder "daywork_sheet_signed" then {
    d with
    billable := false
    blockers := d.blockers ++ [{
      rule := "daywork_sheet_not_signed"
      description := .str "Daywork sheet not signed — cannot invoice" }] }
  else d

def variationRule (d : Billability) : Billability :=
  if Json.flag workOrder "is_variation" ∧
      ¬ (dictGet workOrder "variation_order_ref" .null).truthy then {
    d with
    billable := false
    blockers := d.blockers ++ [{
      rule := "variation_no_change_order"
      description := .str "Variation work without formal change order — non-billable" }]
    leakageTriggers := d.leakageTriggers ++ [{
      triggerType := "variation_work_unbilled"
      description := "Out-of-scope variation work done without variation order — cannot bill"
      severity := "error" }] }
  else d

def evaluate : Except PyError Billability := do
  let d ← evidenceRule workOrder completionEvidence
    { category := dictGet workOrder "category" (.str "standard") }
  return variationRule workOrder <| dayworkRule workOrder <| reattendanceRule reattendanceInfo <|
    gatesRule billingGates d

end Rules

/-! ### The flag and the list -/

/-- The rules whose blockers an abortive visit passes over. -/
def liftedRules : List String := ["missing_completion_evidence", "billing_gate_unsatisfied"]

/-- The customer was not there: the visit is billed as an abortive one. -/
def Abortive (reattendanceInfo : Option JsonDict) : Prop :=
  (reattendanceTrigger reattendanceInfo).isStr "customer_no_access" = true

/-- The work is billable unless some blocker counts; an abortive visit lifts those of two rules. -/
def Billability.Sound (abortive : Prop) (d : Billability) : Prop :=
  d.billable = true ↔ ∀ b ∈ d.blockers, abortive ∧ b.rule ∈ liftedRules

variable {d : Billability} {abortive : Prop}

/-- A blocker that no abortive visit lifts. -/
theorem Billability.Sound.block (b : Blocker) (hrule : b.rule ∉ liftedRules) (category : Json)
    (triggers : List LeakageTrigger) :
    Billability.Sound abortive ⟨false, category, d.blockers ++ [b], triggers⟩ := by
  simp [Sound, hrule]

/-- Before the visit is looked at, any blocker counts, and all of them can be lifted. -/
structure Billability.Plain (d : Billability) : Prop where
  billable : d.billable = true ↔ d.blockers = []
  lifted : ∀ b ∈ d.blockers, b.rule ∈ liftedRules

theorem plain_evidenceRule {workOrder : JsonDict} {completionEvidence : List JsonDict}
    {category : Json} (h : evidenceRule workOrder completionEvidence { category := category } = .ok d) :
    d.Plain := by
  unfold evidenceRule at h
  obtain ⟨missing, -, h⟩ := bind_eq_ok_iff.mp h
  split at h
  · obtain rfl := Except.ok.inj h
    constructor <;> simp
  · obtain ⟨names, -, h⟩ := bind_eq_ok_iff.mp h
    obtain rfl := Except.ok.inj h
    constructor <;> simp [liftedRules]

theorem Billability.Plain.gatesRule (h : d.Plain) (billingGates : List JsonDict) :
    (gatesRule billingGates d).Plain := by
  unfold FieldCompletionBillabilityLinker.gatesRule
  dsimp only
  split
  next => exact h
  next hne =>
    constructor
    · simp_all
    · intro b hb
      rcases List.mem_append.mp hb with hold | hnew
      · exact h.lifted b hold
      · obtain ⟨gate, -, rfl⟩ := List.mem_map.mp hnew
        simp [gateBlocker, liftedRules]

theorem Billability.Plain.reattendanceRule (h : d.Plain) (reattendanceInfo : Option JsonDict) :
    (reattendanceRule reattendanceInfo d).Sound (Abortive reattendanceInfo) := by
  unfold FieldCompletionBillabilityLinker.reattendanceRule
  dsimp only
  split
  · exact Sound.block _ (by simp [liftedRules]) _ _
  · split
    next habortive => simpa [Sound, Abortive, habortive] using h.lifted
    next habortive =>
      simp only [Sound, Abortive, habortive, h.billable, List.eq_nil_iff_forall_not_mem]
      simp

theorem Billability.Sound.dayworkRule (h : d.Sound abortive) (workOrder : JsonDict) :
    (dayworkRule workOrder d).Sound abortive := by
  unfold FieldCompletionBillabilityLinker.dayworkRule
  split
  · exact Sound.block _ (by simp [liftedRules]) _ _
  · exact h

theorem Billability.Sound.variationRule (h : d.Sound abortive) (workOrder : JsonDict) :
    (variationRule workOrder d).Sound abortive := by
  unfold FieldCompletionBillabilityLinker.variationRule
  split
  · exact Sound.block _ (by simp [liftedRules]) _ _
  · exact h

/-- Completed work is billable exactly if it has no blockers, save that an abortive visit is
billable with blockers for missing evidence and open gates. -/
theorem billable_iff {workOrder : JsonDict} {completionEvidence billingGates : List JsonDict}
    {reattendanceInfo : Option JsonDict} {result : Billability}
    (h : evaluate workOrder completionEvidence billingGates reattendanceInfo = .ok result) :
    result.billable = true ↔
      ∀ b ∈ result.blockers, Abortive reattendanceInfo ∧ b.rule ∈ liftedRules := by
  unfold evaluate at h
  obtain ⟨d, hd, h⟩ := bind_eq_ok_iff.mp h
  obtain rfl := Except.ok.inj h
  have hplain := (plain_evidenceRule hd).gatesRule billingGates
  exact ((hplain.reattendanceRule reattendanceInfo).dayworkRule workOrder).variationRule workOrder

/-- One billing gate, not satisfied. -/
def openGates : List JsonDict := [[("gate_type", .str "completion_certificate")]]

/-- The customer did not open. -/
def closedDoor : Option JsonDict := some [("trigger", .str "customer_no_access")]

theorem billable_iff_closedDoor : ∃ result, evaluate [] [] openGates closedDoor = .ok result ∧
    (result.billable = true ↔ ∀ b ∈ result.blockers, Abortive closedDoor ∧ b.rule ∈ liftedRules) := by
  refine ⟨_, rfl, ?_⟩
  have hresult : evaluate [] [] openGates closedDoor = .ok _ := rfl
  exact billable_iff hresult

/-- The open gate blocks, and the visit is billable all the same. -/
theorem abortive_visit_billable : ¬ ∀ (workOrder : JsonDict)
    (completionEvidence billingGates : List JsonDict) (reattendanceInfo : Option JsonDict)
    (result : Billability),
      evaluate workOrder completionEvidence billingGates reattendanceInfo = .ok result →
        (result.billable = true ↔ result.blockers = []) := by
  intro h
  have hnone := (h [] [] openGates closedDoor _ rfl).mp rfl
  exact List.cons_ne_nil _ _ hnone

end FieldCompletionBillabilityLinker
end ControlFabric.Margin
