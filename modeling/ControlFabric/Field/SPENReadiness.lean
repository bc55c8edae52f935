import ControlFabric.Field.Readiness
import ControlFabric.Margin.LeakageTotals
import ControlFabric.Lib.Run

/-! Whether an engineer can be sent to work on the electricity network. Eight checks, each for some
categories of work, find what is unmet; nothing that is prepared for the work makes the decision
worse. -/
namespace ControlFabric.Field
open Lib Packs Py ReadinessRuleEngine
open Margin (joinTexts)

inductive SPENWorkCategory where
  | hvSwitching
  | lvFaultRepair
  | cableJointing
  | overheadLines
  | substationMaintenance
  | meteringInstallation
  | meteringExchange
  | newConnection
  | serviceAlteration
  | treeCutting
  | civilsExcavation
  | reinstatement
  | cableLaying
  | poleErection
  | transformerInstallation
  deriving DecidableEq

def SPENWorkCategory.value : SPENWorkCategory → String
  | hvSwitching => "hv_switching"
  | lvFaultRepair => "lv_fault_repair"
  | cableJointing => "cable_jointing"
  | overheadLines => "overhead_lines"
  | substationMaintenance => "substation_maintenance"
  | meteringInstallation => "metering_installation"
  | meteringExchange => "metering_exchange"
  | newConnection => "new_connection"
  | serviceAlteration => "service_alteration"
  | treeCutting => "tree_cutting"
  | civilsExcavation => "civils_excavation"
  | reinstatement => "reinstatement"
  | cableLaying => "cable_laying"
  | poleErection => "pole_erection"
  | transformerInstallation => "transformer_installation"

/-- The accreditations that some category of work requires. -/
inductive UKAccreditation where
  | ecsCard
  | cscsCard
  | eighteenEdition
  | hvAuthorizedPerson
  | lvAuthorizedPerson
  | cableJointerApproved
  | catAndGenny
  | nrswaOperative
  | firstAidAtWork
  | confinedSpaceEntry
  | workingAtHeight
  | ipafMewp
  deriving DecidableEq

def UKAccreditation.value : UKAccreditation → String
  | ecsCard => "ecs_card"
  | cscsCard => "cscs_card"
  | eighteenEdition => "eighteen_edition"
  | hvAuthorizedPerson => "hv_authorized_person"
  | lvAuthorizedPerson => "lv_authorized_person"
  | cableJointerApproved => "cable_jointer_approved"
  | catAndGenny => "cat_and_genny"
  | nrswaOperative => "nrswa_operative"
  | firstAidAtWork => "first_aid_at_work"
  | confinedSpaceEntry => "confined_space_entry"
  | workingAtHeight => "working_at_height"
  | ipafMewp => "ipaf_mewp"

structure SPENReadinessGate where
  gateName : String
  required : Bool := true
  satisfied : Bool := false
  blocking : Bool := true
  description : String := ""

structure SPENWorkOrder extends ParsedWorkOrder where
  prerequisites : List JsonDict := []
  dependencies : List JsonDict := []
  materialsRequired : List JsonDict := []
  specialInstructions : String := ""
  customerConfirmed : Bool := false

/-- `skill_fit` is not set. -/
structure SPENReadinessDecision where
  status : ReadinessStatus
  missingPrerequisites : List String
  blockers : List ComplianceBlocker
  recommendation : String

/-- With `str(v)`. -/
structure SPENInterpreter extends Interpreter where
  str : Json → String

/-- The arguments of an evaluation. -/
structure SPENDispatch where
  workOrder : SPENWorkOrder
  engineer : EngineerProfile
  workCategory : String
  gates : List SPENReadinessGate
  crewSize : ℤ

namespace SPENReadinessEngine

def workCategoryAccreditationMap : List (SPENWorkCategory × List UKAccreditation) :=
  [(.hvSwitching, [.hvAuthorizedPerson, .ecsCard, .firstAidAtWork]),
    (.lvFaultRepair, [.lvAuthorizedPerson, .ecsCard, .eighteenEdition]),
    (.cableJointing, [.cableJointerApproved, .cscsCard, .catAndGenny]),
    (.overheadLines, [.workingAtHeight, .ipafMewp, .ecsCard]),
    (.substationMaintenance, [.hvAuthorizedPerson, .ecsCard, .confinedSpaceEntry]),
    (.meteringInstallation, [.eighteenEdition, .ecsCard]),
    (.meteringExchange, [.eighteenEdition, .ecsCard]),
    (.newConnection, [.lvAuthorizedPerson, .ecsCard, .eighteenEdition, .catAndGenny]),
    (.serviceAlteration, [.lvAuthorizedPerson, .ecsCard, .eighteenEdition]),
    (.civilsExcavation, [.cscsCard, .catAndGenny, .nrswaOperative]),
    (.reinstatement, [.cscsCard, .nrswaOperative]),
    (.treeCutting, [.cscsCard, .workingAtHeight]),
    (.poleErection, [.workingAtHeight, .cscsCard, .catAndGenny]),
    (.cableLaying, [.cscsCard, .catAndGenny, .nrswaOperative]),
    (.transformerInstallation, [.hvAuthorizedPerson, .ecsCard, .firstAidAtWork])]

def twoPersonCrewCategories : List SPENWorkCategory :=
  [.hvSwitching, .overheadLines, .substationMaintenance, .poleErection, .transformerInstallation]

def streetWorksCategories : List SPENWorkCategory :=
  [.civilsExcavation, .reinstatement, .cableLaying, .cableJointing, .newConnection]

def designApprovalCategories : List SPENWorkCategory := [.newConnection, .serviceAlteration]

def outageNotificationCategories : List SPENWorkCategory :=
  [.hvSwitching, .transformerInstallation, .substationMaintenance]

/-- The `minimum_crew_size` of the entries of `_CREW_REQUIREMENTS`. -/
def crewRequirements : List (SPENWorkCategory × ℤ) :=
  [(.hvSwitching, 2), (.overheadLines, 2), (.substationMaintenance, 2), (.poleErection, 2),
    (.transformerInstallation, 2), (.cableJointing, 1)]

/-- The entry under the category of this name. -/
def entryOf {α : Type} (table : List (SPENWorkCategory × α)) (workCategory : String) : Option α :=
  (table.find? fun e => e.1.value = workCategory).map Prod.snd

/-- A text is one of these members if it is the value of one. -/
def isOneOf (categories : List SPENWorkCategory) (workCategory : String) : Bool :=
  categories.any fun c => c.value = workCategory

def requiredAccreditations (workCategory : String) : List UKAccreditation :=
  (entryOf workCategoryAccreditationMap workCategory).getD []

def minCrewSize (workCategory : String) : ℤ := (entryOf crewRequirements workCategory).getD 2

/-- `d.get(key) == text`. -/
def hasText (d : JsonDict) (key text : String) : Bool :=
  match Json.field d key with
  | some (.str s) => s = text
  | _ => false

section Checks
variable (ip : SPENInterpreter) (d : SPENDispatch)

/-- A valid accreditation of the engineer has the name. -/
def holds (accred : UKAccreditation) : Bool :=
  d.engineer.accreditations.any fun a => a.isValid ∧ ip.lower a.name = ip.lower accred.value

def accreditationCheck : List RuleResult :=
  (requiredAccreditations d.workCategory).map fun accred =>
    .check s!"spen_accred_{accred.value}" (holds ip d accred) s!"Has {accred.value}"
      s!"Missing required accreditation: {accred.value}"

/-- A crew of size zero is unknown, and not checked. -/
def crewSizeCheck : List RuleResult :=
  let minSize := minCrewSize d.workCategory
  if isOneOf twoPersonCrewCategories d.workCategory ∧ 0 < d.crewSize ∧ d.crewSize < minSize then
    [⟨"spen_crew_size", false,
      s!"{d.workCategory} requires minimum {minSize}-person crew but only " ++
      s!"{d.crewSize} assigned", "error"⟩]
  else []

def obtained (permitType : PermitType) : Bool :=
  d.workOrder.requiredPermits.any fun p => p.permitType = permitType ∧ p.obtained

def permitCheck : List RuleResult :=
  (if isOneOf streetWorksCategories d.workCategory then
    [.check "spen_nrswa_permit" (obtained d .streetWorks) "NRSWA street works permit obtained"
      "Missing NRSWA street works permit for street works category"]
  else []) ++
  (if d.workCategory = SPENWorkCategory.substationMaintenance.value then
    [.check "spen_confined_space_permit" (obtained d .confinedSpace)
      "Confined space permit obtained" "Missing confined space permit for substation maintenance"
      "warning"]
  else []) ++
  (d.workOrder.requiredPermits.filter fun p => p.required ∧ ¬ p.obtained).map fun p =>
    ⟨s!"spen_required_permit_{p.permitType.value}", false,
      s!"Required permit not obtained: {p.permitType.value}", "error"⟩

/-- An approved design among the dependencies or the prerequisites. -/
def isApprovedDesign (item : JsonDict) : Bool :=
  hasText item "type" "design" &&
    ["approved", "completed", "resolved"].any (hasText item "status")

def hasDesign : Bool :=
  d.workOrder.dependencies.any isApprovedDesign || d.workOrder.prerequisites.any isApprovedDesign

def designApprovalCheck : List RuleResult :=
  if isOneOf designApprovalCategories d.workCategory then
    [.check "spen_design_approval" (hasDesign d) "Scheme design approved"
      "Scheme design not approved — required for new connections and service alterations"]
  else []

def customerNotificationCheck : List RuleResult :=
  if isOneOf outageNotificationCategories d.workCategory then
    [.check "spen_customer_notification" d.workOrder.customerConfirmed
      "Customer notified of planned outage" "Customer not notified of planned outage"]
  else []

def isAvailable (m : JsonDict) : Bool := ((Json.field m "available").getD (.bool true)).truthy

/-- `m.get("description", m.get("name", "unknown"))`. -/
def materialName (m : JsonDict) : Json :=
  (Json.field m "description").getD ((Json.field m "name").getD (.str "unknown"))

def unavailable : List JsonDict := d.workOrder.materialsRequired.filter fun m => ¬ isAvailable m

def materialsCheck : Except PyError (List RuleResult) :=
  if unavailable d = [] then return []
  else do
    let names ← joinTexts ((unavailable d).map materialName)
    return [⟨"spen_materials_available", false, s!"Materials not on-van or pre-staged: {names}",
      "error"⟩]

def mentionsTraffic (p : JsonDict) : Bool :=
  occursIn "traffic" (ip.lower (ip.str ((Json.field p "description").getD (.str ""))))

def hasTm : Bool :=
  occursIn "traffic management" (ip.lower d.workOrder.specialInstructions) ||
    d.workOrder.prerequisites.any (mentionsTraffic ip)

def trafficManagementCheck : List RuleResult :=
  if isOneOf streetWorksCategories d.workCategory then
    [.check "spen_traffic_management" (hasTm ip d) "Traffic management plan in place"
      "Missing traffic management plan for street works" "warning"]
  else []

def gateCheck : List RuleResult :=
  (d.gates.filter fun g => g.required ∧ ¬ g.satisfied).map fun g =>
    ⟨s!"spen_gate_{g.gateName}", false,
      if g.description ≠ "" then s!"Readiness gate not satisfied: {g.gateName} — {g.description}"
      else s!"Readiness gate not satisfied: {g.gateName}",
      if g.blocking then "error" else "warning"⟩

/-- The name of the rule without its prefix; only there do the names of accreditations end. -/
def accreditationName (r : RuleResult) : String :=
  String.ofList (r.ruleName.toList.drop "spen_accred_".toList.length)

def accreditationProblems : List Problem :=
  ((accreditationCheck ip d).filter fun r => ¬ r.passed).map fun r => {
    missing := r.message
    blocker := ⟨"accreditation", r.message, r.severity,
      s!"Engineer must obtain {accreditationName r} accreditation"⟩ }

def problems (materials : List RuleResult) : List Problem :=
  accreditationProblems ip d ++
    ruleProblems "safety" "Assign additional crew members before dispatch" (crewSizeCheck d) ++
    ruleProblems "permit" "Obtain required permit before dispatch" (permitCheck d) ++
    ruleProblems "access" "Obtain approved scheme design before dispatch" (designApprovalCheck d) ++
    ruleProblems "safety" "Send customer planned outage notification"
      (customerNotificationCheck d) ++
    ruleProblems "safety" "Ensure all materials are on-van or pre-staged at site" materials ++
    ruleProblems "permit" "Submit traffic management plan for approval"
      (trafficManagementCheck ip d) ++
    ruleProblems "safety" "Satisfy readiness gate before dispatch" (gateCheck d)

def statusOf (blockers : List ComplianceBlocker) : ReadinessStatus × String :=
  if blockers.any fun b => b.severity = "error" then
    (.blocked, "Resolve blocking issues before SPEN dispatch")
  else if blockers.any fun b => b.severity = "warning" then
    (.conditional, "Dispatch with caution — review SPEN warnings")
  else (.ready, "Clear to dispatch for SPEN work")

def decisionOf (problems : List Problem) : SPENReadinessDecision :=
  let blockers := problems.map Problem.blocker
  { status := (statusOf blockers).1
    missingPrerequisites := problems.map Problem.missing
    blockers := blockers
    recommendation := (statusOf blockers).2 }

def evaluate : Except PyError SPENReadinessDecision := do
  let materials ← materialsCheck d
  return decisionOf (problems ip d materials)

end Checks

/-! ### What is unmet -/

/-- A requirement of the work that is not met, with the severity at which it counts. -/
inductive Unmet (ip : SPENInterpreter) (d : SPENDispatch) : String → Prop
  | accreditation (accred : UKAccreditation)
      (hrequired : accred ∈ requiredAccreditations d.workCategory) (hnone : ¬ holds ip d accred) :
      Unmet ip d "error"
  | crew (hcategory : isOneOf twoPersonCrewCategories d.workCategory) (hknown : 0 < d.crewSize)
      (hshort : d.crewSize < minCrewSize d.workCategory) : Unmet ip d "error"
  | streetWorks (hcategory : isOneOf streetWorksCategories d.workCategory)
      (hnone : ¬ obtained d .streetWorks) : Unmet ip d "error"
  | confinedSpace (hcategory : d.workCategory = SPENWorkCategory.substationMaintenance.value)
      (hnone : ¬ obtained d .confinedSpace) : Unmet ip d "warning"
  | permit (p : PermitRequirement) (hp : p ∈ d.workOrder.requiredPermits) (hrequired : p.required)
      (hnot : ¬ p.obtained) : Unmet ip d "error"
  | design (hcategory : isOneOf designApprovalCategories d.workCategory) (hnone : ¬ hasDesign d) :
      Unmet ip d "error"
  | notification (hcategory : isOneOf outageNotificationCategories d.workCategory)
      (hnot : ¬ d.workOrder.customerConfirmed) : Unmet ip d "error"
  | material (m : JsonDict) (hm : m ∈ d.workOrder.materialsRequired) (hnot : ¬ isAvailable m) :
      Unmet ip d "error"
  | traffic (hcategory : isOneOf streetWorksCategories d.workCategory) (hnone : ¬ hasTm ip d) :
      Unmet ip d "warning"
  | gate (g : SPENReadinessGate) (hg : g ∈ d.gates) (hrequired : g.required)
      (hnot : ¬ g.satisfied) : Unmet ip d (if g.blocking then "error" else "warning")

section Exact
variable {ip : SPENInterpreter} {d : SPENDispatch} {severity : String}

/-- The severities of the results that did not pass. -/
def Fails (results : List RuleResult) (severity : String) : Prop :=
  ∃ r ∈ results, r.passed = false ∧ r.severity = severity

/-- Problems made of the results that did not pass have their severities. -/
theorem fails_map {problemOf : RuleResult → Problem} {results : List RuleResult}
    (hkept : ∀ r, (problemOf r).blocker.severity = r.severity) :
    (∃ p ∈ (results.filter fun r => ¬ r.passed).map problemOf, p.blocker.severity = severity) ↔
      Fails results severity := by
  simp only [List.mem_map, List.mem_filter, Fails]
  constructor
  · rintro ⟨p, ⟨r, ⟨hr, hfailed⟩, rfl⟩, hseverity⟩
    exact ⟨r, hr, by simpa using hfailed, (hkept r).symm.trans hseverity⟩
  · rintro ⟨r, hr, hfailed, hseverity⟩
    exact ⟨_, ⟨r, ⟨hr, by simp [hfailed]⟩, rfl⟩, (hkept r).trans hseverity⟩

theorem fails_ruleProblems {blockerType resolution : String} {results : List RuleResult} :
    (∃ p ∈ ruleProblems blockerType resolution results, p.blocker.severity = severity) ↔
      Fails results severity := fails_map fun _ => rfl

theorem fails_check {ruleName met unmet : String} {passed : Bool} {level : String} :
    Fails [.check ruleName passed met unmet level] severity ↔ ¬ passed ∧ level = severity := by
  cases passed <;> simp [Fails, RuleResult.check]

theorem fails_if {c : Prop} [Decidable c] {results : List RuleResult} :
    Fails (if c then results else []) severity ↔ c ∧ Fails results severity := by
  by_cases hc : c <;> simp [Fails, hc]

theorem fails_append {results results' : List RuleResult} :
    Fails (results ++ results') severity ↔ Fails results severity ∨ Fails results' severity := by
  simp only [Fails, List.mem_append, or_and_right, exists_or]

theorem fails_accreditationProblems :
    (∃ p ∈ accreditationProblems ip d, p.blocker.severity = severity) ↔
      ∃ accred ∈ requiredAccreditations d.workCategory,
        ¬ holds ip d accred ∧ "error" = severity := by
  have hfails : (∃ p ∈ accreditationProblems ip d, p.blocker.severity = severity) ↔
      Fails (accreditationCheck ip d) severity := fails_map fun _ => rfl
  rw [hfails, Fails, accreditationCheck]
  simp only [List.mem_map, exists_exists_and_eq_and]
  refine exists_congr fun accred => and_congr_right fun _ => ?_
  cases holds ip d accred <;> simp [RuleResult.check]

theorem fails_crewSizeCheck : Fails (crewSizeCheck d) severity ↔
    (isOneOf twoPersonCrewCategories d.workCategory ∧ 0 < d.crewSize ∧
      d.crewSize < minCrewSize d.workCategory) ∧ "error" = severity := by
  unfold crewSizeCheck
  rw [fails_if]
  simp [Fails]

theorem fails_permitCheck : Fails (permitCheck d) severity ↔
    ((isOneOf streetWorksCategories d.workCategory ∧ ¬ obtained d .streetWorks ∧
        "error" = severity) ∨
      d.workCategory = SPENWorkCategory.substationMaintenance.value ∧ ¬ obtained d .confinedSpace ∧
        "warning" = severity) ∨
      ∃ p ∈ d.workOrder.requiredPermits, p.required ∧ ¬ p.obtained ∧ "error" = severity := by
  unfold permitCheck
  rw [fails_append, fails_append, fails_if, fails_check, fails_if, fails_check]
  simp [Fails, and_assoc]

theorem fails_gateCheck : Fails (gateCheck d) severity ↔ ∃ g ∈ d.gates, g.required ∧
    ¬ g.satisfied ∧ (if g.blocking then "error" else "warning") = severity := by
  simp [Fails, gateCheck, and_assoc]

theorem fails_materials {materials : List RuleResult} (h : materialsCheck d = .ok materials) :
    Fails materials severity ↔
      (∃ m ∈ d.workOrder.materialsRequired, ¬ isAvailable m) ∧ "error" = severity := by
  have hnone : unavailable d = [] ↔ ¬ ∃ m ∈ d.workOrder.materialsRequired, ¬ isAvailable m := by
    simp [unavailable]
  unfold materialsCheck at h
  split_ifs at h with hempty
  · obtain rfl := Except.ok.inj h
    refine iff_of_false ?_ fun hsome => hnone.mp hempty hsome.1
    rintro ⟨r, hr, -⟩
    cases hr
  · obtain ⟨names, -, hresults⟩ := bind_eq_ok_iff.mp h
    obtain rfl := Except.ok.inj hresults
    rw [hnone, not_not] at hempty
    simp only [Fails, List.mem_singleton, exists_eq_left, true_and]
    exact (and_iff_right hempty).symm

/-- There is a problem of a severity exactly if something is unmet that counts at it. -/
theorem problems_iff {materials : List RuleResult} (h : materialsCheck d = .ok materials) :
    (∃ p ∈ problems ip d materials, p.blocker.severity = severity) ↔ Unmet ip d severity := by
  simp only [problems, List.mem_append, or_and_right, exists_or, fails_ruleProblems,
    fails_accreditationProblems, fails_crewSizeCheck, fails_permitCheck, designApprovalCheck,
    customerNotificationCheck, trafficManagementCheck, fails_if, fails_check, fails_gateCheck,
    fails_materials h, or_assoc]
  constructor
  · rintro (⟨accred, hrequired, hnone, rfl⟩ | ⟨⟨hcategory, hknown, hshort⟩, rfl⟩ |
      ⟨hcategory, hnone, rfl⟩ | ⟨hcategory, hnone, rfl⟩ | ⟨p, hp, hrequired, hnot, rfl⟩ |
      ⟨hcategory, hnone, rfl⟩ | ⟨hcategory, hnot, rfl⟩ | ⟨⟨m, hm, hnot⟩, rfl⟩ |
      ⟨hcategory, hnone, rfl⟩ | ⟨g, hg, hrequired, hnot, rfl⟩)
    · exact .accreditation accred hrequired hnone
    · exact .crew hcategory hknown hshort
    · exact .streetWorks hcategory hnone
    · exact .confinedSpace hcategory hnone
    · exact .permit p hp hrequired hnot
    · exact .design hcategory hnone
    · exact .notification hcategory hnot
    · exact .material m hm hnot
    · exact .traffic hcategory hnone
    · exact .gate g hg hrequired hnot
  · intro hunmet
    cases hunmet with
    | accreditation accred hrequired hnone => exact .inl ⟨accred, hrequired, hnone, rfl⟩
    | crew hcategory hknown hshort => exact .inr (.inl ⟨⟨hcategory, hknown, hshort⟩, rfl⟩)
    | streetWorks hcategory hnone =>
      iterate 2 right
      exact .inl ⟨hcategory, hnone, rfl⟩
    | confinedSpace hcategory hnone =>
      iterate 3 right
      exact .inl ⟨hcategory, hnone, rfl⟩
    | permit p hp hrequired hnot =>
      iterate 4 right
      exact .inl ⟨p, hp, hrequired, hnot, rfl⟩
    | design hcategory hnone =>
      iterate 5 right
      exact .inl ⟨hcategory, hnone, rfl⟩
    | notification hcategory hnot =>
      iterate 6 right
      exact .inl ⟨hcategory, hnot, rfl⟩
    | material m hm hnot =>
      iterate 7 right
      exact .inl ⟨⟨m, hm, hnot⟩, rfl⟩
    | traffic hcategory hnone =>
      iterate 8 right
      exact .inl ⟨hcategory, hnone, rfl⟩
    | gate g hg hrequired hnot =>
      iterate 9 right
      exact ⟨g, hg, hrequired, hnot, rfl⟩

/-- The decision says what is unmet: it blocks on an error, warns on a warning, and clears the
dispatch if nothing is unmet. -/
structure Judged (ip : SPENInterpreter) (d : SPENDispatch) (decision : SPENReadinessDecision) :
    Prop where
  blocked : decision.status = .blocked ↔ Unmet ip d "error"
  conditional : decision.status = .conditional ↔ ¬ Unmet ip d "error" ∧ Unmet ip d "warning"
  ready : decision.status = .ready ↔ ∀ severity, ¬ Unmet ip d severity
  explained : decision.missingPrerequisites = decision.blockers.map ComplianceBlocker.description

theorem Unmet.severity_eq (h : Unmet ip d severity) :
    severity = "error" ∨ severity = "warning" := by
  cases h with
  | gate g _ _ _ => cases g.blocking <;> simp
  | _ => simp

theorem statusOf_any {blockers : List ComplianceBlocker}
    (h : ∀ severity, (∃ b ∈ blockers, b.severity = severity) ↔ Unmet ip d severity) :
    ((statusOf blockers).1 = .blocked ↔ Unmet ip d "error") ∧
      ((statusOf blockers).1 = .conditional ↔ ¬ Unmet ip d "error" ∧ Unmet ip d "warning") ∧
        ((statusOf blockers).1 = .ready ↔ ∀ severity, ¬ Unmet ip d severity) := by
  have hany (severity : String) :
      (blockers.any fun b => b.severity = severity) = true ↔ Unmet ip d severity := by
    rw [← h severity, List.any_eq_true]
    simp only [decide_eq_true_eq]
  have hready : (∀ severity, ¬ Unmet ip d severity) ↔
      ¬ Unmet ip d "error" ∧ ¬ Unmet ip d "warning" := by
    constructor
    · exact fun hnone => ⟨hnone _, hnone _⟩
    · rintro ⟨herror, hwarning⟩ severity hunmet
      rcases hunmet.severity_eq with rfl | rfl
      · exact herror hunmet
      · exact hwarning hunmet
  rw [hready]
  unfold statusOf
  by_cases herror : Unmet ip d "error"
  · rw [if_pos ((hany _).mpr herror)]
    simp [herror]
  · rw [if_neg fun hsome => herror ((hany _).mp hsome)]
    by_cases hwarning : Unmet ip d "warning"
    · rw [if_pos ((hany _).mpr hwarning)]
      simp [herror, hwarning]
    · rw [if_neg fun hsome => hwarning ((hany _).mp hsome)]
      simp [herror, hwarning]

theorem missing_eq_description {materials : List RuleResult} :
    ∀ p ∈ problems ip d materials, p.missing = p.blocker.description := by
  have hrules (blockerType resolution : String) (results : List RuleResult) :
      ∀ p ∈ ruleProblems blockerType resolution results, p.missing = p.blocker.description := by
    intro p hp
    obtain ⟨r, -, rfl⟩ := List.mem_map.mp hp
    rfl
  have haccreditation : ∀ p ∈ accreditationProblems ip d, p.missing = p.blocker.description := by
    intro p hp
    obtain ⟨r, -, rfl⟩ := List.mem_map.mp hp
    rfl
  intro p hp
  simp only [problems, List.mem_append, or_assoc] at hp
  rcases hp with hp | hp | hp | hp | hp | hp | hp | hp
  · exact haccreditation p hp
  all_goals exact hrules _ _ _ p hp

theorem decisionOf_status (problems : List Problem) :
    (decisionOf problems).status = (statusOf (problems.map Problem.blocker)).1 := rfl

theorem judged {materials : List RuleResult} (h : materialsCheck d = .ok materials) :
    Judged ip d (decisionOf (problems ip d materials)) := by
  have hblockers (severity : String) : (∃ b ∈ (problems ip d materials).map Problem.blocker,
      b.severity = severity) ↔ Unmet ip d severity := by
    rw [← problems_iff h]
    simp only [List.mem_map, exists_exists_and_eq_and]
  obtain ⟨hblocked, hconditional, hready⟩ := statusOf_any hblockers
  rw [← decisionOf_status] at hblocked hconditional hready
  refine ⟨hblocked, hconditional, hready, ?_⟩
  unfold decisionOf
  dsimp only
  rw [List.map_map]
  exact List.map_congr_left missing_eq_description

theorem evaluate_eq_ok_iff {decision : SPENReadinessDecision} : evaluate ip d = .ok decision ↔
    ∃ materials, materialsCheck d = .ok materials ∧
      decision = decisionOf (problems ip d materials) := by
  unfold evaluate
  rw [bind_eq_ok_iff]
  refine exists_congr fun materials => and_congr_right fun _ => ?_
  rw [pure_eq_ok, Except.ok.injEq, eq_comm]

/-- The check of the materials raises only over an unavailable one whose name is no text. -/
theorem materialsCheck_returns_iff : (∃ materials, materialsCheck d = .ok materials) ↔
    ∀ m ∈ d.workOrder.materialsRequired, ¬ isAvailable m →
      (Ingress.str? (materialName m)).isSome := by
  have hnames : (∃ names, joinTexts ((unavailable d).map materialName) = .ok names) ↔
      ∀ m ∈ d.workOrder.materialsRequired, ¬ isAvailable m →
        (Ingress.str? (materialName m)).isSome := by
    rw [Margin.MarginLeakageReconciler.joinTexts_ok_iff, List.forall_mem_map]
    simp [unavailable]
  rw [← hnames]
  unfold materialsCheck
  split_ifs with hempty
  · exact iff_of_true ⟨[], rfl⟩ (by rw [hempty]; exact ⟨_, rfl⟩)
  · constructor
    · rintro ⟨materials, h⟩
      obtain ⟨names, hjoin, -⟩ := bind_eq_ok_iff.mp h
      exact ⟨names, hjoin⟩
    · rintro ⟨names, hjoin⟩
      exact ⟨_, by rw [hjoin]; rfl⟩

end Exact

/-! ### Preparing the work -/

/-- What is done before the work: one more accreditation of the engineer, more people in a known
crew, and permits, designs, notices, materials and gates seen to. -/
inductive Preparation where
  | qualify (accred : Accreditation)
  | addCrew (people : ℕ)
  | obtainPermits (which : PermitRequirement → Bool)
  | approve (which : JsonDict → Bool)
  | plan (prerequisite : JsonDict)
  | notifyCustomer
  | stage (which : JsonDict → Bool)
  | satisfy (which : SPENReadinessGate → Bool)

/-- The dictionary with a value set. -/
def put (key : String) (v : Json) (d : JsonDict) : JsonDict :=
  (key, v) :: d.filter fun e => e.1 ≠ key

/-- The items of a list of which some are changed. -/
def change {α : Type} (which : α → Bool) (f : α → α) (l : List α) : List α :=
  l.map fun a => if which a then f a else a

def prepare (preparation : Preparation) (d : SPENDispatch) : SPENDispatch :=
  match preparation with
  | .qualify accred =>
    { d with
      engineer := { d.engineer with accreditations := d.engineer.accreditations ++ [accred] } }
  | .addCrew people =>
    { d with crewSize := if 0 < d.crewSize then d.crewSize + people else d.crewSize }
  | .obtainPermits which =>
    { d with workOrder := { d.workOrder with
        requiredPermits := change which (fun p => { p with obtained := true })
          d.workOrder.requiredPermits } }
  | .approve which =>
    { d with workOrder := { d.workOrder with
        dependencies := change which (put "status" (.str "approved")) d.workOrder.dependencies } }
  | .plan prerequisite =>
    { d with workOrder := { d.workOrder with
        prerequisites := d.workOrder.prerequisites ++ [prerequisite] } }
  | .notifyCustomer => { d with workOrder := { d.workOrder with customerConfirmed := true } }
  | .stage which =>
    { d with workOrder := { d.workOrder with
        materialsRequired := change which (put "available" (.bool true))
          d.workOrder.materialsRequired } }
  | .satisfy which =>
    { d with gates := change which (fun g => { g with satisfied := true }) d.gates }

/-- What was there for the dispatch is there, and nothing new is asked for. -/
structure Improves (ip : SPENInterpreter) (d d' : SPENDispatch) : Prop where
  workCategory : d'.workCategory = d.workCategory
  accreditations : ∀ accred, holds ip d accred → holds ip d' accred
  crewSize : 0 < d'.crewSize → 0 < d.crewSize ∧ d.crewSize ≤ d'.crewSize
  obtained : ∀ permitType, obtained d permitType → SPENReadinessEngine.obtained d' permitType
  permits : ∀ p ∈ d'.workOrder.requiredPermits, ¬ p.obtained → p ∈ d.workOrder.requiredPermits
  design : hasDesign d → hasDesign d'
  notified : d.workOrder.customerConfirmed → d'.workOrder.customerConfirmed
  materials : ∀ m ∈ d'.workOrder.materialsRequired, ¬ isAvailable m →
    m ∈ d.workOrder.materialsRequired
  traffic : hasTm ip d → hasTm ip d'
  gates : ∀ g ∈ d'.gates, ¬ g.satisfied → g ∈ d.gates

section Prepared
variable {ip : SPENInterpreter} {d d' : SPENDispatch} {severity : String}

theorem Improves.refl (ip : SPENInterpreter) (d : SPENDispatch) : Improves ip d d where
  workCategory := rfl
  accreditations := fun _ h => h
  crewSize := fun h => ⟨h, le_rfl⟩
  obtained := fun _ h => h
  permits := fun _ hp _ => hp
  design := id
  notified := id
  materials := fun _ hm _ => hm
  traffic := id
  gates := fun _ hg _ => hg

theorem any_change {α : Type} {which : α → Bool} {f : α → α} {test : α → Bool}
    (hf : ∀ a, test a → test (f a)) {l : List α} (h : l.any test) :
    (change which f l).any test := by
  obtain ⟨a, ha, htest⟩ := List.any_eq_true.mp h
  refine List.any_eq_true.mpr ⟨_, List.mem_map_of_mem ha, ?_⟩
  split_ifs
  · exact hf a htest
  · exact htest

/-- What does not pass a test that the change makes true has not been changed. -/
theorem mem_of_mem_change {α : Type} {which : α → Bool} {f : α → α} {test : α → Bool}
    (hf : ∀ a, test (f a)) {l : List α} {a : α} (ha : a ∈ change which f l) (h : ¬ test a) :
    a ∈ l := by
  obtain ⟨b, hb, rfl⟩ := List.mem_map.mp ha
  split_ifs at h ⊢
  · exact absurd (hf b) h
  · exact hb

theorem any_append_left {α : Type} {test : α → Bool} {l : List α} (h : l.any test) (more : List α) :
    (l ++ more).any test := by
  rw [List.any_append, h, Bool.true_or]

theorem field_put_of_ne {key other : String} (hne : other ≠ key) (v : Json) (d : JsonDict) :
    Json.field (put key v d) other = Json.field d other := by
  unfold Json.field put
  rw [List.find?_cons_of_neg (by simpa using Ne.symm hne), List.find?_filter]
  congr 2
  funext e
  by_cases he : e.1 = other
  · simp [he, hne]
  · simp [he]

theorem isApprovedDesign_put (item : JsonDict) (h : isApprovedDesign item) :
    isApprovedDesign (put "status" (.str "approved") item) := by
  have htype : hasText item "type" "design" := (Bool.and_eq_true _ _ ▸ h).1
  have hkept : hasText (put "status" (.str "approved") item) "type" "design" := by
    rw [hasText, field_put_of_ne (by decide)]
    exact htype
  have hstatus : hasText (put "status" (.str "approved") item) "status" "approved" := by
    simp [hasText, put, Json.field]
  simp [isApprovedDesign, hkept, hstatus]

theorem improves_prepare (ip : SPENInterpreter) (preparation : Preparation) (d : SPENDispatch) :
    Improves ip d (prepare preparation d) := by
  have hsame := Improves.refl ip d
  cases preparation with
  | qualify accred => exact { hsame with accreditations := fun accred h => any_append_left h _ }
  | addCrew people =>
    refine { hsame with crewSize := fun h => ?_ }
    simp only [prepare] at h ⊢
    split_ifs at h ⊢ with hknown
    · exact ⟨hknown, by omega⟩
    · exact absurd h hknown
  | obtainPermits which =>
    exact { hsame with
      obtained := fun permitType h => any_change (fun p hp => by simp_all) h
      permits := fun p hp hnot => mem_of_mem_change (fun _ => rfl) hp hnot }
  | approve which =>
    refine { hsame with design := fun h => ?_ }
    rcases Bool.or_eq_true _ _ ▸ h with h | h
    · exact Bool.or_eq_true _ _ ▸ Or.inl (any_change isApprovedDesign_put h)
    · exact Bool.or_eq_true _ _ ▸ Or.inr h
  | plan prerequisite =>
    refine { hsame with design := fun h => ?_, traffic := fun h => ?_ }
    · rcases Bool.or_eq_true _ _ ▸ h with h | h
      · exact Bool.or_eq_true _ _ ▸ Or.inl h
      · exact Bool.or_eq_true _ _ ▸ Or.inr (any_append_left h _)
    · rcases Bool.or_eq_true _ _ ▸ h with h | h
      · exact Bool.or_eq_true _ _ ▸ Or.inl h
      · exact Bool.or_eq_true _ _ ▸ Or.inr (any_append_left h _)
  | notifyCustomer => exact { hsame with notified := fun _ => rfl }
  | stage which =>
    exact { hsame with materials := fun m hm hnot => mem_of_mem_change (fun _ => rfl) hm hnot }
  | satisfy which =>
    exact { hsame with gates := fun g hg hnot => mem_of_mem_change (fun _ => rfl) hg hnot }

/-- What is unmet after an improvement was unmet before it. -/
theorem Unmet.of_improves (hd : Improves ip d d') (h : Unmet ip d' severity) :
    Unmet ip d severity := by
  cases h with
  | accreditation accred hrequired hnone =>
    rw [hd.workCategory] at hrequired
    exact .accreditation accred hrequired fun h => hnone (hd.accreditations accred h)
  | crew hcategory hknown hshort =>
    rw [hd.workCategory] at hcategory hshort
    obtain ⟨hbefore, hle⟩ := hd.crewSize hknown
    exact .crew hcategory hbefore (hle.trans_lt hshort)
  | streetWorks hcategory hnone =>
    rw [hd.workCategory] at hcategory
    exact .streetWorks hcategory fun h => hnone (hd.obtained _ h)
  | confinedSpace hcategory hnone =>
    rw [hd.workCategory] at hcategory
    exact .confinedSpace hcategory fun h => hnone (hd.obtained _ h)
  | permit p hp hrequired hnot => exact .permit p (hd.permits p hp hnot) hrequired hnot
  | design hcategory hnone =>
    rw [hd.workCategory] at hcategory
    exact .design hcategory fun h => hnone (hd.design h)
  | notification hcategory hnot =>
    rw [hd.workCategory] at hcategory
    exact .notification hcategory fun h => hnot (hd.notified h)
  | material m hm hnot => exact .material m (hd.materials m hm hnot) hnot
  | traffic hcategory hnone =>
    rw [hd.workCategory] at hcategory
    exact .traffic hcategory fun h => hnone (hd.traffic h)
  | gate g hg hrequired hnot => exact .gate g (hd.gates g hg hnot) hrequired hnot

theorem Improves.trans {d'' : SPENDispatch} (h : Improves ip d d') (h' : Improves ip d' d'') :
    Improves ip d d'' where
  workCategory := h'.workCategory.trans h.workCategory
  accreditations := fun accred held => h'.accreditations accred (h.accreditations accred held)
  crewSize := by
    intro hknown
    obtain ⟨hbetween, hle'⟩ := h'.crewSize hknown
    obtain ⟨hbefore, hle⟩ := h.crewSize hbetween
    exact ⟨hbefore, hle.trans hle'⟩
  obtained := fun permitType had => h'.obtained permitType (h.obtained permitType had)
  permits := fun p hp hnot => h.permits p (h'.permits p hp hnot) hnot
  design := fun had => h'.design (h.design had)
  notified := fun had => h'.notified (h.notified had)
  materials := fun m hm hnot => h.materials m (h'.materials m hm hnot) hnot
  traffic := fun had => h'.traffic (h.traffic had)
  gates := fun g hg hnot => h.gates g (h'.gates g hg hnot) hnot

theorem improves_run (ip : SPENInterpreter) (preparations : List Preparation) (d : SPENDispatch) :
    Improves ip d (run prepare d preparations) :=
  run_rel (R := Improves ip) prepare (.refl ip) (fun _ _ _ h h' => h.trans h')
    (improves_prepare ip) d preparations

end Prepared

/-- From bad to good; nothing is escalated here. -/
def rank : ReadinessStatus → ℕ
  | .blocked | .escalate => 0
  | .conditional => 1
  | .ready => 2

theorem Judged.rank_le {ip : SPENInterpreter} {d d' : SPENDispatch}
    {decision decision' : SPENReadinessDecision} (h : Judged ip d decision)
    (h' : Judged ip d' decision') (hd : Improves ip d d') :
    rank decision.status ≤ rank decision'.status := by
  by_cases herror : Unmet ip d "error"
  · rw [h.blocked.mpr herror]
    exact Nat.zero_le _
  have herror' : ¬ Unmet ip d' "error" := fun hunmet => herror (hunmet.of_improves hd)
  by_cases hwarning' : Unmet ip d' "warning"
  · rw [h.conditional.mpr ⟨herror, hwarning'.of_improves hd⟩,
      h'.conditional.mpr ⟨herror', hwarning'⟩]
  · have hready : decision'.status = .ready := by
      refine h'.ready.mpr fun severity hunmet => ?_
      rcases hunmet.severity_eq with rfl | rfl
      · exact herror' hunmet
      · exact hwarning' hunmet
    rw [hready]
    cases decision.status <;> decide

/-- An evaluation says what is unmet, and after whatever is prepared in whatever order the work is
decided on at least as well. -/
theorem preparing_helps (ip : SPENInterpreter) (d : SPENDispatch)
    (preparations : List Preparation) {decision : SPENReadinessDecision}
    (h : evaluate ip d = .ok decision) :
    Judged ip d decision ∧ ∃ decision', evaluate ip (run prepare d preparations) = .ok decision' ∧
      Judged ip (run prepare d preparations) decision' ∧
        rank decision.status ≤ rank decision'.status := by
  obtain ⟨materials, hmaterials, rfl⟩ := evaluate_eq_ok_iff.mp h
  have hd : Improves ip d (run prepare d preparations) := improves_run ip preparations d
  obtain ⟨materials', hmaterials'⟩ : ∃ materials', materialsCheck (run prepare d preparations) =
      .ok materials' := by
    refine materialsCheck_returns_iff.mpr fun m hm hnot => ?_
    exact materialsCheck_returns_iff.mp ⟨materials, hmaterials⟩ m (hd.materials m hm hnot) hnot
  have hbefore : Judged ip d _ := judged hmaterials
  have hafter : Judged ip (run prepare d preparations) _ := judged hmaterials'
  exact ⟨hbefore, _, evaluate_eq_ok_iff.mpr ⟨materials', hmaterials', rfl⟩, hafter,
    hbefore.rank_le hafter hd⟩

/-- Switching of which the customer has not been told. -/
def switching : SPENDispatch where
  workOrder := {}
  engineer := { accreditations := [{ name := "HV_Authorized_Person" }, { name := "ECS_Card" },
    { name := "First_Aid_At_Work" }] }
  workCategory := "hv_switching"
  gates := []
  crewSize := 2

/-- It is blocked until the customer is told. -/
theorem preparing_helps_switching :
    let ip : SPENInterpreter := ⟨⟨.ascii, fun _ => none, 0⟩, fun _ => ""⟩
    let decision := decisionOf (problems ip switching [])
    decision.status = .blocked ∧ Judged ip switching decision ∧
      ∃ decision', evaluate ip (run prepare switching [.notifyCustomer]) = .ok decision' ∧
        Judged ip (run prepare switching [.notifyCustomer]) decision' ∧
          rank decision.status ≤ rank decision'.status := by
  refine ⟨by decide +kernel, ?_⟩
  exact preparing_helps _ switching [.notifyCustomer] (evaluate_eq_ok_iff.mpr ⟨[], rfl, rfl⟩)

end SPENReadinessEngine

end ControlFabric.Field
