import ControlFabric.Lib.Assign
import ControlFabric.Margin.Values
import ControlFabric.Packs.RuleResult
import ControlFabric.Telco.Escalation

/-! The closure of incidents. One engine looks gates up by their prerequisite, where the last of
several counts; the other asks whether there is a gate of the kind it looks for, whatever their
order. -/
namespace ControlFabric.Telco
open Lib Ingress Packs

def IncidentSeverity.value : IncidentSeverity → String
  | p1 => "p1"
  | p2 => "p2"
  | p3 => "p3"
  | p4 => "p4"

inductive ClosurePrerequisite where
  | rootCauseIdentified
  | workaroundDocumented
  | permanentFixPlanned
  | customerNotified
  | serviceRestored
  | rcaSubmitted
  | problemRecordCreated
  | changeRequestRaised
  deriving DecidableEq

def ClosurePrerequisite.value : ClosurePrerequisite → String
  | rootCauseIdentified => "root_cause_identified"
  | workaroundDocumented => "workaround_documented"
  | permanentFixPlanned => "permanent_fix_planned"
  | customerNotified => "customer_notified"
  | serviceRestored => "service_restored"
  | rcaSubmitted => "rca_submitted"
  | problemRecordCreated => "problem_record_created"
  | changeRequestRaised => "change_request_raised"

theorem ClosurePrerequisite.value_injective : Function.Injective value := by
  intro p q h
  cases p <;> cases q <;> first | rfl | exact absurd h (by decide)

structure ClosureGate where
  prerequisite : ClosurePrerequisite
  satisfied : Bool := false
  mandatory : Bool := true

/-- What is read of a major incident. -/
structure MajorIncidentRecord where
  bridgeCallId : String := ""
  customerCommsSent : List JsonDict := []
  rcaStatus : String := ""
  problemRecordId : String := ""

namespace VodafoneClosureEngine
section Rules
variable (incident : ParsedIncident) (closureGates : List ClosureGate)
  (majorIncident : Option MajorIncidentRecord)

/-- `gate_map`, where a later gate replaces an earlier one of its prerequisite. -/
def gateMap : Dict String ClosureGate :=
  closureGates.foldl (fun d g => d.set g.prerequisite.value g) Dict.empty

/-- There is a gate of the prerequisite in the map, and it is satisfied. -/
def gateSatisfied (prerequisite : ClosurePrerequisite) : Bool :=
  ((gateMap closureGates).get? prerequisite.value).any ClosureGate.satisfied

def serviceRestoredRule : RuleResult :=
  .check "vodafone_closure_service_restored" (gateSatisfied closureGates .serviceRestored)
    "Service has been restored" "Service has not been confirmed as restored"

def customerNotifiedRule : RuleResult :=
  .check "vodafone_closure_customer_notified" (gateSatisfied closureGates .customerNotified)
    "Customer has been notified" "Customer has not been notified of resolution"

/-- The major incident shows a root cause analysis in progress or submitted. -/
def rcaUnderWay : Bool :=
  majorIncident.any fun major => major.rcaStatus ∈ ["in_progress", "submitted", "accepted"]

def rcaRule : RuleResult :=
  .check "vodafone_closure_rca_required"
    (gateSatisfied closureGates .rcaSubmitted || rcaUnderWay majorIncident)
    "RCA submitted or in progress"
    s!"RCA required for {incident.severity.value} incident but not submitted"

def hasProblemRecord : Bool := majorIncident.any fun major => major.problemRecordId ≠ ""

def problemRecordRule : RuleResult :=
  .check "vodafone_closure_problem_record"
    (gateSatisfied closureGates .problemRecordCreated || hasProblemRecord majorIncident)
    "Problem record exists"
    s!"Problem record required for {incident.severity.value} incident but not created"

def bridgeCallRule (major : MajorIncidentRecord) : RuleResult :=
  .check "vodafone_closure_bridge_call" (major.bridgeCallId ≠ "") "Bridge call was conducted"
    "Major incident closure requires a bridge call record"

def customerCommsRule (major : MajorIncidentRecord) : RuleResult :=
  .check "vodafone_closure_customer_comms" (major.customerCommsSent ≠ [])
    s!"{major.customerCommsSent.length} customer communication(s) sent"
    "Major incident closure requires at least one customer communication"

def mandatoryGatesRule : RuleResult :=
  let unsatisfiedMandatory := closureGates.filter fun g => g.mandatory ∧ ¬ g.satisfied
  .check "vodafone_closure_all_mandatory_gates" (unsatisfiedMandatory.length = 0)
    "All mandatory closure gates satisfied"
    (s!"{unsatisfiedMandatory.length} mandatory gate(s) unsatisfied: " ++
      ", ".intercalate (unsatisfiedMandatory.map fun g => g.prerequisite.value))

/-- The incident is of one of the two highest severities. -/
def Severe : Prop := incident.severity = .p1 ∨ incident.severity = .p2

instance : Decidable (Severe incident) := inferInstanceAs (Decidable (_ ∨ _))

def validateClosure : List RuleResult :=
  [serviceRestoredRule closureGates, customerNotifiedRule closureGates] ++
    (if Severe incident then
      [rcaRule incident closureGates majorIncident,
        problemRecordRule incident closureGates majorIncident] else []) ++
    (match majorIncident with
      | some major => [bridgeCallRule major, customerCommsRule major]
      | none => []) ++
    [mandatoryGatesRule closureGates]

end Rules
end VodafoneClosureEngine

/-! ### The handover of tickets -/

namespace TicketClosureHandoverLinker
open Margin

/-- One of the dicts in `blockers`. -/
structure Blocker where
  rule : String
  description : String
  severity : String

/-- One of the dicts in `mismatches`. -/
structure Mismatch where
  field : String
  incidentValue : String
  workOrderValue : String
  severity : String
  description : String

/-- The returned dict, and the variables it is made of. -/
structure Handover where
  canClose : Bool := true
  blockers : List Blocker := []
  mismatches : List Mismatch := []

/-- A rule that only blocks. -/
def Handover.blockIf (blocked : Bool) (rule description : String) (d : Handover) : Handover :=
  if blocked then
    { d with canClose := false, blockers := d.blockers ++ [⟨rule, description, "error"⟩] }
  else d

section Rules
variable (ip : Margin.Interpreter) (incident workOrder : JsonDict)
  (completionEvidence closureGates : List JsonDict)

def incState : String := safeStr ip (dictGet incident "state" (.str ""))

def incSeverity : String := safeStr ip (dictGet incident "severity" (.str ""))

def woStatus : String := safeStr ip (dictGet workOrder "status" (.str ""))

/-- `g.get("prerequisite") == prerequisite`. -/
def isOf (prerequisite : String) (g : JsonDict) : Bool :=
  (dictGet g "prerequisite" .null).isStr prerequisite

def evidenceRule : Handover → Handover :=
  .blockIf (incState ip incident ∈ ["resolved", "closed"] ∧
      ¬ completionEvidence.any fun e => Json.flag e "provided")
    "missing_completion_evidence" "Incident resolved but field completion evidence not provided"

def stateRule (d : Handover) : Handover :=
  if incState ip incident = "resolved" ∧ woStatus ip workOrder ≠ "" ∧
      woStatus ip workOrder ≠ "completed" then {
    d with
    canClose := false
    mismatches := d.mismatches ++ [{
      field := "state_alignment"
      incidentValue := incState ip incident
      workOrderValue := woStatus ip workOrder
      severity := "error"
      description :=
        s!"Ticket is '{incState ip incident}' but work order is '{woStatus ip workOrder}'" }] }
  else d

def rcaRule : Handover → Handover :=
  .blockIf (incSeverity ip incident ∈ ["p1", "p2"] ∧
      ¬ closureGates.any fun g => isOf "rca_submitted" g ∧ Json.flag g "satisfied")
    "rca_not_submitted" s!"{(incSeverity ip incident).toUpper} ticket requires RCA before closure"

def permitsRule : Handover → Handover :=
  .blockIf (closureGates.any fun g => isOf "permit_closed_out" g ∧ ¬ Json.flag g "satisfied")
    "open_permits" "Work order has permits not closed out"

def signOffRule : Handover → Handover :=
  .blockIf (closureGates.any (isOf "customer_sign_off") ∧
      ¬ closureGates.any fun g => isOf "customer_sign_off" g ∧ Json.flag g "satisfied")
    "customer_sign_off_missing" "Customer sign-off required but not obtained"

def evaluate : Handover :=
  signOffRule closureGates <| permitsRule closureGates <| rcaRule ip incident closureGates <|
    stateRule ip incident workOrder <| evidenceRule ip incident completionEvidence {}

end Rules

/-- The handover does not depend on the order of the gates. -/
theorem evaluate_perm (ip : Margin.Interpreter) (incident workOrder : JsonDict)
    (completionEvidence : List JsonDict) {closureGates closureGates' : List JsonDict}
    (h : closureGates.Perm closureGates') :
    evaluate ip incident workOrder completionEvidence closureGates =
      evaluate ip incident workOrder completionEvidence closureGates' := by
  unfold evaluate rcaRule permitsRule signOffRule
  simp only [h.any_eq]

end TicketClosureHandoverLinker

/-! ### The order of the gates -/

open VodafoneClosureEngine

/-- The rules with the flags whether they passed. -/
def passedFlags (results : List RuleResult) : List (String × Bool) :=
  results.map fun r => (r.ruleName, r.passed)

/-- A rule for this incident depends on the gate of the prerequisite: nothing stands in for it. -/
def Decisive (incident : ParsedIncident) (majorIncident : Option MajorIncidentRecord) :
    ClosurePrerequisite → Prop
  | .serviceRestored | .customerNotified => True
  | .rcaSubmitted => Severe incident ∧ rcaUnderWay majorIncident = false
  | .problemRecordCreated => Severe incident ∧ hasProblemRecord majorIncident = false
  | _ => False

/-- No two gates of one decisive prerequisite differ in whether they are satisfied. -/
def GatesAgree (incident : ParsedIncident) (closureGates : List ClosureGate)
    (majorIncident : Option MajorIncidentRecord) : Prop :=
  ∀ prerequisite, Decisive incident majorIncident prerequisite →
    ∀ g ∈ closureGates, ∀ g' ∈ closureGates,
      g.prerequisite = prerequisite → g'.prerequisite = prerequisite → g.satisfied = g'.satisfied

section Order
variable {incident : ParsedIncident} {closureGates closureGates' : List ClosureGate}
  {majorIncident : Option MajorIncidentRecord} {prerequisite : ClosurePrerequisite}

/-- What a gate writes under the prerequisite. -/
def written (prerequisite : ClosurePrerequisite) (g : ClosureGate) : Option Bool :=
  if g.prerequisite = prerequisite then some g.satisfied else none

/-- The last gate of the prerequisite counts. -/
theorem gateSatisfied_eq (closureGates : List ClosureGate) (prerequisite : ClosurePrerequisite) :
    gateSatisfied closureGates prerequisite =
      overwritten (written prerequisite) false closureGates := by
  unfold gateSatisfied gateMap
  induction closureGates using List.reverseRecOn with
  | nil => rfl
  | append_singleton gates g ih =>
    rw [List.foldl_concat, Dict.get?_set, overwritten_concat, ← ih, written]
    by_cases h : g.prerequisite = prerequisite
    · simp [h]
    · have hvalue : prerequisite.value ≠ g.prerequisite.value :=
        fun heq => h (ClosurePrerequisite.value_injective heq).symm
      simp [h, hvalue]

theorem gateSatisfied_perm_iff :
    (∀ gates', closureGates.Perm gates' →
      gateSatisfied gates' prerequisite = gateSatisfied closureGates prerequisite) ↔
      ∀ g ∈ closureGates, ∀ g' ∈ closureGates,
        g.prerequisite = prerequisite → g'.prerequisite = prerequisite →
          g.satisfied = g'.satisfied := by
  simp only [gateSatisfied_eq]
  rw [overwritten_perm_iff]
  simp only [List.mem_filterMap, written, Option.ite_none_right_eq_some, Option.some.injEq]
  constructor
  · intro h g hg g' hg' heq heq'
    exact h _ ⟨g, hg, heq, rfl⟩ _ ⟨g', hg', heq', rfl⟩
  · rintro h _ ⟨g, hg, heq, rfl⟩ _ ⟨g', hg', heq', rfl⟩
    exact h g hg g' hg' heq heq'

theorem mandatoryGatesRule_perm (h : closureGates.Perm closureGates') :
    (mandatoryGatesRule closureGates').passed = (mandatoryGatesRule closureGates).passed := by
  simp only [mandatoryGatesRule, check_passed, (h.filter _).length_eq]

theorem forall_decisive_iff {P : ClosurePrerequisite → Prop} :
    (∀ prerequisite, Decisive incident majorIncident prerequisite → P prerequisite) ↔
      P .serviceRestored ∧ P .customerNotified ∧
        (Severe incident → (rcaUnderWay majorIncident = false → P .rcaSubmitted) ∧
          (hasProblemRecord majorIncident = false → P .problemRecordCreated)) := by
  constructor
  · intro h
    exact ⟨h .serviceRestored trivial, h .customerNotified trivial, fun hsevere =>
      ⟨fun hrca => h .rcaSubmitted ⟨hsevere, hrca⟩,
        fun hrecord => h .problemRecordCreated ⟨hsevere, hrecord⟩⟩⟩
  · rintro ⟨hrestored, hnotified, hsevere⟩ prerequisite hdecisive
    cases prerequisite with
    | serviceRestored => exact hrestored
    | customerNotified => exact hnotified
    | rcaSubmitted => exact (hsevere hdecisive.1).1 hdecisive.2
    | problemRecordCreated => exact (hsevere hdecisive.1).2 hdecisive.2
    | rootCauseIdentified | workaroundDocumented | permanentFixPlanned | changeRequestRaised =>
      cases hdecisive

/-- The flags, of which those of a major incident do not depend on the gates. -/
theorem passedFlags_validateClosure (closureGates : List ClosureGate) :
    passedFlags (validateClosure incident closureGates majorIncident) =
      [("vodafone_closure_service_restored", gateSatisfied closureGates .serviceRestored),
        ("vodafone_closure_customer_notified", gateSatisfied closureGates .customerNotified)] ++
      (if Severe incident then
        [("vodafone_closure_rca_required",
            gateSatisfied closureGates .rcaSubmitted || rcaUnderWay majorIncident),
          ("vodafone_closure_problem_record",
            gateSatisfied closureGates .problemRecordCreated || hasProblemRecord majorIncident)]
        else []) ++
      (passedFlags (majorIncident.elim [] fun major =>
        [bridgeCallRule major, customerCommsRule major]) ++
      [("vodafone_closure_all_mandatory_gates", (mandatoryGatesRule closureGates).passed)]) := by
  unfold validateClosure passedFlags
  split <;> cases majorIncident <;> rfl

/-- In another order the flags are the same exactly if the gates looked up come to the same. -/
theorem passedFlags_eq_iff (h : closureGates.Perm closureGates') :
    passedFlags (validateClosure incident closureGates' majorIncident) =
      passedFlags (validateClosure incident closureGates majorIncident) ↔
      ∀ prerequisite, Decisive incident majorIncident prerequisite →
        gateSatisfied closureGates' prerequisite = gateSatisfied closureGates prerequisite := by
  have hor : ∀ a b c : Bool, (a || c) = (b || c) ↔ (c = false → a = b) := by decide
  rw [forall_decisive_iff, passedFlags_validateClosure, passedFlags_validateClosure,
    mandatoryGatesRule_perm h, List.append_left_inj]
  by_cases hsevere : Severe incident
  · simp [hsevere, hor]
  · simp [hsevere]

/-- Decisions that no order of the gates changes, and that no unsatisfied mandatory gate passes. -/
structure ClosureOrderFree (incident : ParsedIncident) (closureGates : List ClosureGate)
    (majorIncident : Option MajorIncidentRecord) : Prop where
  validated : ∀ closureGates', closureGates.Perm closureGates' →
    passedFlags (validateClosure incident closureGates' majorIncident) =
      passedFlags (validateClosure incident closureGates majorIncident)
  mandatory : allPassed (validateClosure incident closureGates majorIncident) = true →
    ∀ g ∈ closureGates, g.mandatory = true → g.satisfied = true
  handedOver : ∀ (ip : Margin.Interpreter) (ticket workOrder : JsonDict)
    (completionEvidence ticketGates ticketGates' : List JsonDict), ticketGates.Perm ticketGates' →
    (TicketClosureHandoverLinker.evaluate ip ticket workOrder completionEvidence
        ticketGates').canClose =
      (TicketClosureHandoverLinker.evaluate ip ticket workOrder completionEvidence
        ticketGates).canClose

theorem mandatoryGatesRule_passed_iff :
    (mandatoryGatesRule closureGates).passed = true ↔
      ∀ g ∈ closureGates, g.mandatory = true → g.satisfied = true := by
  simp [mandatoryGatesRule, List.filter_eq_nil_iff]

theorem mandatory_of_allPassed
    (h : allPassed (validateClosure incident closureGates majorIncident) = true) :
    ∀ g ∈ closureGates, g.mandatory = true → g.satisfied = true := by
  rw [allPassed_iff] at h
  refine mandatoryGatesRule_passed_iff.mp (h _ ?_)
  simp [validateClosure]

end Order

/-- Closure does not depend on the order of the gates exactly if no two gates of one prerequisite,
where it decides a rule for the incident, differ in whether they are satisfied. -/
theorem closureOrderFree_iff_gatesAgree (incident : ParsedIncident)
    (closureGates : List ClosureGate) (majorIncident : Option MajorIncidentRecord) :
    ClosureOrderFree incident closureGates majorIncident ↔
      GatesAgree incident closureGates majorIncident := by
  constructor
  · intro h prerequisite hdecisive
    refine gateSatisfied_perm_iff.mp fun gates' hperm => ?_
    exact (passedFlags_eq_iff hperm).mp (h.validated gates' hperm) prerequisite hdecisive
  · intro h
    exact {
      validated := fun gates' hperm => (passedFlags_eq_iff hperm).mpr
        fun prerequisite hdecisive => gateSatisfied_perm_iff.mpr (h prerequisite hdecisive) gates' hperm
      mandatory := mandatory_of_allPassed
      handedOver := fun ip ticket workOrder evidence gates gates' hperm => by
        rw [TicketClosureHandoverLinker.evaluate_perm ip ticket workOrder evidence hperm] }

/-- Of two gates of one prerequisite, one of them satisfied, the one that comes last decides. -/
theorem service_restored_by_order :
    ¬ ClosureOrderFree {}
      [⟨.serviceRestored, true, true⟩, ⟨.serviceRestored, false, true⟩] none := by
  intro h
  exact absurd (h.validated [⟨.serviceRestored, false, true⟩, ⟨.serviceRestored, true, true⟩]
    (List.Perm.swap _ _ _)) (by decide)

end ControlFabric.Telco
