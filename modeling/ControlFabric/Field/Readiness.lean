import ControlFabric.Lib.Raise
import ControlFabric.Packs.RuleResult
import ControlFabric.Py.Lower
import ControlFabric.Runtime
import Mathlib.Data.List.ReduceOption

/-! Whether an engineer can be sent to a field work order. Two engines look for the same
certificates: one for accreditations of given names, the other for words in the names; the dates up
to which they are valid are looked at by a third, which only warns. -/
namespace ControlFabric.Field
open Lib Packs Py

/-- What `datetime.fromisoformat` gives: a local time in microseconds, or one with an offset. -/
inductive IsoTime where
  | naive (micros : ℤ)
  | aware

/-- What the interpreter computes, at the time of the decision. -/
structure Interpreter where
  casing : Casing
  /-- `datetime.fromisoformat(text)`, `none` being a `ValueError` -/
  fromisoformat : String → Option IsoTime
  /-- `datetime.now()`, in microseconds -/
  now : ℤ

def Interpreter.lower (ip : Interpreter) (text : String) : String := Py.lower ip.casing text

inductive WorkOrderType where
  | installation
  | maintenance
  | repair
  | inspection
  | emergency
  | upgrade
  deriving DecidableEq

inductive SkillCategory where
  | electrical
  | plumbing
  | hvac
  | gas
  | fiber
  | general
  deriving DecidableEq

inductive PermitType where
  | streetWorks
  | buildingAccess
  | confinedSpace
  | hotWorks
  | heightWorks
  deriving DecidableEq

def PermitType.value : PermitType → String
  | streetWorks => "street_works"
  | buildingAccess => "building_access"
  | confinedSpace => "confined_space"
  | hotWorks => "hot_works"
  | heightWorks => "height_works"

inductive ReadinessStatus where
  | ready
  | blocked
  | conditional
  | escalate
  deriving DecidableEq

structure SkillRecord where
  skillName : String
  category : SkillCategory

structure Accreditation where
  name : String
  validTo : Option String := none
  isValid : Bool := true

structure EngineerProfile where
  skills : List SkillRecord := []
  accreditations : List Accreditation := []

structure PermitRequirement where
  permitType : PermitType
  required : Bool := true
  obtained : Bool := false

structure ParsedWorkOrder where
  workOrderType : WorkOrderType := .maintenance
  requiredSkills : List SkillRecord := []
  requiredPermits : List PermitRequirement := []

structure SkillFitAnalysis where
  fit : Bool
  matchingSkills : List String
  missingSkills : List String
  expiringSoon : List String

structure ComplianceBlocker where
  blockerType : String
  description : String
  severity : String := "error"
  resolution : String := ""

structure ReadinessDecision where
  status : ReadinessStatus
  missingPrerequisites : List String
  skillFit : SkillFitAnalysis
  blockers : List ComplianceBlocker
  recommendation : String

/-! ### Skills -/

namespace SkillMatchEngine
section Fit
variable (ip : Interpreter) (workOrder : ParsedWorkOrder) (engineer : EngineerProfile)

/-- The names of the skills, as a set. -/
def skillNames (skills : List SkillRecord) : List String :=
  (skills.map fun s => ip.lower s.skillName).dedup

/-- The time up to which the accreditation is valid, if it has one that can be read. -/
def expiry (accred : Accreditation) : Option IsoTime :=
  match accred.validTo with
  | some validTo => if validTo = "" then none else ip.fromisoformat validTo
  | none => none

/-- The warning that the accreditation expires soon. -/
def expiringNote (accred : Accreditation) : Except PyError (Option String) :=
  match expiry ip accred with
  | some (.naive expDate) =>
    let daysLeft := (expDate - ip.now) / dayMicros
    .ok (if 0 < daysLeft ∧ daysLeft < 30 then
      some s!"{accred.name} (expires in {daysLeft} days)" else none)
  | some .aware =>
    .error (.typeError "can't subtract offset-naive and offset-aware datetimes")
  | none => .ok none

def matchingSkills : List String :=
  (skillNames ip workOrder.requiredSkills).filter (· ∈ skillNames ip engineer.skills)

def missingSkills : List String :=
  (skillNames ip workOrder.requiredSkills).filter (· ∉ skillNames ip engineer.skills)

def evaluateFit : Except PyError SkillFitAnalysis := do
  let expiring ← engineer.accreditations.mapM (expiringNote ip)
  return {
    fit := (missingSkills ip workOrder engineer).length = 0
    matchingSkills := sorted (matchingSkills ip workOrder engineer)
    missingSkills := sorted (missingSkills ip workOrder engineer)
    expiringSoon := expiring.reduceOption }

end Fit
end SkillMatchEngine

/-! ### Accreditations -/

/-- The accreditation is flagged valid and the test is met by its name in lower case. -/
def Accreditation.accepts (ip : Interpreter) (test : String → Bool) (accred : Accreditation) :
    Bool :=
  accred.isValid && test (ip.lower accred.name)

namespace SafetyRuleEngine
section Safety
variable (ip : Interpreter) (workOrder : ParsedWorkOrder) (engineer : EngineerProfile)

/-- Some valid accreditation meets the test. -/
def hasCert (test : String → Bool) : Bool := engineer.accreditations.any (Accreditation.accepts ip test)

def permitRule : PermitType → Option RuleResult
  | .confinedSpace => some <| .check "confined_space_certified"
      (hasCert ip engineer (occursIn "confined")) "Confined space certified"
      "Missing confined space certification"
  | .heightWorks => some <| .check "height_works_certified"
      (hasCert ip engineer fun name => occursIn "height" name || occursIn "working at height" name)
      "Height works certified" "Missing height works certification"
  | .hotWorks => some <| .check "hot_works_certified" (hasCert ip engineer (occursIn "hot work"))
      "Hot works certified" "Missing hot works certification"
  | _ => none

def needsGas : Bool := workOrder.requiredSkills.any fun s => s.category = .gas

def gasRule : RuleResult :=
  .check "gas_safe_registered" (hasCert ip engineer (occursIn "gas safe")) "Gas Safe registered"
    "Missing Gas Safe registration"

def evaluate : List RuleResult :=
  workOrder.requiredPermits.filterMap (fun permit => permitRule ip engineer permit.permitType) ++
    if needsGas workOrder then [gasRule ip engineer] else []

end Safety
end SafetyRuleEngine

namespace ReadinessRuleEngine
section Evaluate
variable (ip : Interpreter) (workOrder : ParsedWorkOrder) (engineer : EngineerProfile)

/-- `_get_required_accreditations`. -/
def requiredAccreditations : List String :=
  (if workOrder.workOrderType ∈ [.installation, .repair] then ["general_competency"] else []) ++
    workOrder.requiredPermits.filterMap fun permit =>
      match permit.permitType with
      | .confinedSpace => some "confined_space_certification"
      | .hotWorks => some "hot_works_certification"
      | _ => none

/-- The names of the valid accreditations. -/
def engineerAccreds : List String :=
  (engineer.accreditations.filter Accreditation.isValid).map fun a => ip.lower a.name

def accreditationRule (required : String) : RuleResult :=
  .check s!"accreditation_{required}" (ip.lower required ∈ engineerAccreds ip engineer)
    s!"Has {required}" s!"Missing accreditation: {required}"

def checkAccreditations : List RuleResult :=
  (requiredAccreditations workOrder).map (accreditationRule ip engineer)

/-- An entry of `missing` with its blocker. -/
structure Problem where
  missing : String
  blocker : ComplianceBlocker

def skillProblems (skillFit : SkillFitAnalysis) : List Problem :=
  if skillFit.fit then []
  else skillFit.missingSkills.map fun ms => {
    missing := s!"Missing skill: {ms}"
    blocker := {
      blockerType := "skill"
      description := s!"Engineer missing required skill: {ms}"
      resolution := s!"Assign engineer with {ms} qualification" } }

def permitProblems : List Problem :=
  (workOrder.requiredPermits.filter fun permit => permit.required ∧ ¬ permit.obtained).map
    fun permit => {
      missing := s!"Missing permit: {permit.permitType.value}"
      blocker := {
        blockerType := "permit"
        description := s!"Required permit not obtained: {permit.permitType.value}"
        resolution := s!"Obtain {permit.permitType.value} permit before dispatch" } }

/-- The problems of the rules that did not pass. -/
def ruleProblems (blockerType resolution : String) (results : List RuleResult) : List Problem :=
  (results.filter fun r => ¬ r.passed).map fun r => {
    missing := r.message
    blocker := ⟨blockerType, r.message, r.severity, resolution⟩ }

def problems (skillFit : SkillFitAnalysis) : List Problem :=
  skillProblems skillFit ++ permitProblems workOrder ++
    ruleProblems "safety" "Ensure safety requirements are met"
      (SafetyRuleEngine.evaluate ip workOrder engineer) ++
    ruleProblems "accreditation" "" (checkAccreditations ip workOrder engineer)

def statusOf (blockers : List ComplianceBlocker) : ReadinessStatus × String :=
  if blockers.any fun b => b.severity = "error" then
    (.blocked, "Resolve blocking issues before dispatch")
  else if blockers.any fun b => b.severity = "warning" then
    (.conditional, "Dispatch with caution – review warnings")
  else (.ready, "Clear to dispatch")

def evaluate : Except PyError ReadinessDecision := do
  let skillFit ← SkillMatchEngine.evaluateFit ip workOrder engineer
  let problems := problems ip workOrder engineer skillFit
  let blockers := problems.map Problem.blocker
  return {
    status := (statusOf blockers).1
    missingPrerequisites := problems.map Problem.missing
    skillFit := skillFit
    blockers := blockers
    recommendation := (statusOf blockers).2 }

end Evaluate
end ReadinessRuleEngine

/-! ### What a clearance rests on -/

open SkillMatchEngine SafetyRuleEngine ReadinessRuleEngine

/-- The engineer has the skills, the permits and the accreditations that the work order asks for. -/
structure Equipped (ip : Interpreter) (workOrder : ParsedWorkOrder) (engineer : EngineerProfile) :
    Prop where
  skills : ∀ s ∈ workOrder.requiredSkills, ∃ s' ∈ engineer.skills,
    ip.lower s'.skillName = ip.lower s.skillName
  permits : ∀ permit ∈ workOrder.requiredPermits, permit.required = true → permit.obtained = true
  accreditations : ∀ required ∈ requiredAccreditations workOrder, ∃ a ∈ engineer.accreditations,
    a.isValid = true ∧ ip.lower a.name = ip.lower required

/-- What the name of an accreditation has to contain for a permit of the type. -/
def permitTest : PermitType → Option (String → Bool)
  | .confinedSpace => some (occursIn "confined")
  | .heightWorks => some fun name => occursIn "height" name || occursIn "working at height" name
  | .hotWorks => some (occursIn "hot work")
  | _ => none

/-- The tests by which the checks for the work order look for accreditations. -/
def checkTests (ip : Interpreter) (workOrder : ParsedWorkOrder) : List (String → Bool) :=
  (requiredAccreditations workOrder).map (fun required name => decide (name = ip.lower required)) ++
    workOrder.requiredPermits.filterMap (fun permit => permitTest permit.permitType) ++
    if needsGas workOrder then [occursIn "gas safe"] else []

/-- Some check for the work order counts the accreditation. -/
def ReliedOn (ip : Interpreter) (workOrder : ParsedWorkOrder) (a : Accreditation) : Prop :=
  ∃ test ∈ checkTests ip workOrder, a.accepts ip test = true

/-- The date up to which the accreditation is valid lies before the decision. -/
def Past (ip : Interpreter) (a : Accreditation) : Prop :=
  ∃ expDate, expiry ip a = some (.naive expDate) ∧ expDate < ip.now

/-- Checks that agree on an equipped engineer, and a clearance that counts no certificate of the
past. -/
structure DispatchSound (ip : Interpreter) (workOrder : ParsedWorkOrder)
    (engineer : EngineerProfile) : Prop where
  agreeing : Equipped ip workOrder engineer →
    ∀ r ∈ SafetyRuleEngine.evaluate ip workOrder engineer,
      r.ruleName ∈ ["confined_space_certified", "hot_works_certified"] → r.passed = true
  current : ∀ decision, ReadinessRuleEngine.evaluate ip workOrder engineer = .ok decision →
    decision.status = .ready → ∀ a ∈ engineer.accreditations, ReliedOn ip workOrder a →
      a.isValid = true ∧ ¬ Past ip a

/-- An equipped engineer who needs a permit for hot works has an accreditation with these words in
its name. -/
def HotWorksNamed (ip : Interpreter) (workOrder : ParsedWorkOrder) (engineer : EngineerProfile) :
    Prop :=
  Equipped ip workOrder engineer → (∃ permit ∈ workOrder.requiredPermits,
    permit.permitType = .hotWorks) → hasCert ip engineer (occursIn "hot work") = true

/-- All that the engines check is met, and no date has an offset. -/
structure Cleared (ip : Interpreter) (workOrder : ParsedWorkOrder) (engineer : EngineerProfile) :
    Prop where
  equipped : Equipped ip workOrder engineer
  certified : ∀ test ∈ checkTests ip workOrder, hasCert ip engineer test = true
  local_dates : ∀ a ∈ engineer.accreditations, expiry ip a ≠ some .aware

/-- Nothing that clears an engineer is past. -/
def ClearedCurrent (ip : Interpreter) (workOrder : ParsedWorkOrder) (engineer : EngineerProfile) :
    Prop :=
  Cleared ip workOrder engineer → ∀ a ∈ engineer.accreditations, ReliedOn ip workOrder a →
    ¬ Past ip a

section Checks
variable {ip : Interpreter} {workOrder : ParsedWorkOrder} {engineer : EngineerProfile}

theorem permitRule_passed {permitType : PermitType} :
    (∀ r, permitRule ip engineer permitType = some r → r.passed = true) ↔
      ∀ test, permitTest permitType = some test → hasCert ip engineer test = true := by
  cases permitType <;> simp [permitRule, permitTest]

theorem safety_passed_iff :
    (∀ r ∈ SafetyRuleEngine.evaluate ip workOrder engineer, r.passed = true) ↔
      (∀ permit ∈ workOrder.requiredPermits, ∀ test, permitTest permit.permitType = some test →
        hasCert ip engineer test = true) ∧
      (needsGas workOrder = true → hasCert ip engineer (occursIn "gas safe") = true) := by
  simp only [SafetyRuleEngine.evaluate, List.mem_append, or_imp, forall_and, ← permitRule_passed]
  apply and_congr
  · simp only [List.mem_filterMap, forall_exists_index, and_imp]
    exact ⟨fun h permit hpermit r => h r permit hpermit, fun h r permit hpermit => h permit hpermit r⟩
  · cases needsGas workOrder <;> simp [gasRule]

theorem hasCert_name_iff {required : String} :
    hasCert ip engineer (fun name => decide (name = ip.lower required)) = true ↔
      ∃ a ∈ engineer.accreditations, a.isValid = true ∧ ip.lower a.name = ip.lower required := by
  simp [hasCert, Accreditation.accepts]

theorem accreditations_passed_iff :
    (∀ r ∈ checkAccreditations ip workOrder engineer, r.passed = true) ↔
      ∀ required ∈ requiredAccreditations workOrder, ∃ a ∈ engineer.accreditations,
        a.isValid = true ∧ ip.lower a.name = ip.lower required := by
  simp [checkAccreditations, accreditationRule, engineerAccreds, and_assoc]

theorem forall_checkTests_iff :
    (∀ test ∈ checkTests ip workOrder, hasCert ip engineer test = true) ↔
      (∀ r ∈ SafetyRuleEngine.evaluate ip workOrder engineer, r.passed = true) ∧
        ∀ r ∈ checkAccreditations ip workOrder engineer, r.passed = true := by
  rw [safety_passed_iff, accreditations_passed_iff]
  simp only [checkTests, List.mem_append, or_imp, forall_and, List.forall_mem_map,
    hasCert_name_iff]
  have hpermits : (∀ test ∈ workOrder.requiredPermits.filterMap
      (fun permit => permitTest permit.permitType), hasCert ip engineer test = true) ↔
      ∀ permit ∈ workOrder.requiredPermits, ∀ test, permitTest permit.permitType = some test →
        hasCert ip engineer test = true := by
    simp only [List.mem_filterMap, forall_exists_index, and_imp]
    exact ⟨fun h permit hpermit test => h test permit hpermit,
      fun h test permit hpermit => h permit hpermit test⟩
  have hgas : (∀ test ∈ (if needsGas workOrder then [occursIn "gas safe"] else []),
      hasCert ip engineer test = true) ↔
      (needsGas workOrder = true → hasCert ip engineer (occursIn "gas safe") = true) := by
    cases needsGas workOrder <;> simp
  rw [hpermits, hgas]
  tauto

/-! ### The status -/

theorem check_severity {ruleName met unmet : String} {passed : Bool}
    (hfailed : (RuleResult.check ruleName passed met unmet).passed = false) :
    (RuleResult.check ruleName passed met unmet).severity = "error" := by
  rw [check_passed] at hfailed
  simp [RuleResult.check, hfailed]

theorem severity_permitRule {permitType : PermitType} {r : RuleResult}
    (h : permitRule ip engineer permitType = some r) (hfailed : r.passed = false) :
    r.severity = "error" := by
  cases permitType with
  | streetWorks | buildingAccess => cases h
  | confinedSpace | hotWorks | heightWorks =>
    obtain rfl := Option.some.inj h
    exact check_severity hfailed

/-- What fails a rule of either engine blocks. -/
theorem severity_of_failed {r : RuleResult} (hr : r ∈ SafetyRuleEngine.evaluate ip workOrder engineer ∨
      r ∈ checkAccreditations ip workOrder engineer) (hfailed : r.passed = false) :
    r.severity = "error" := by
  rcases hr with hr | hr
  · rcases List.mem_append.mp hr with hpermit | hgas
    · obtain ⟨permit, -, hrule⟩ := List.mem_filterMap.mp hpermit
      exact severity_permitRule hrule hfailed
    · split at hgas
      · obtain rfl := List.mem_singleton.mp hgas
        exact check_severity hfailed
      · cases hgas
  · obtain ⟨required, -, rfl⟩ := List.mem_map.mp hr
    exact check_severity hfailed

theorem severity_problems {skillFit : SkillFitAnalysis} :
    ∀ p ∈ problems ip workOrder engineer skillFit, p.blocker.severity = "error" := by
  intro p hp
  simp only [problems, List.mem_append] at hp
  rcases hp with ((hskill | hpermit) | hsafety) | haccred
  · unfold skillProblems at hskill
    split at hskill
    · cases hskill
    · obtain ⟨ms, -, rfl⟩ := List.mem_map.mp hskill
      rfl
  · obtain ⟨permit, -, rfl⟩ := List.mem_map.mp hpermit
    rfl
  · obtain ⟨r, hr, rfl⟩ := List.mem_map.mp hsafety
    have hr' := List.mem_filter.mp hr
    exact severity_of_failed (Or.inl hr'.1) (by simpa using hr'.2)
  · obtain ⟨r, hr, rfl⟩ := List.mem_map.mp haccred
    have hr' := List.mem_filter.mp hr
    exact severity_of_failed (Or.inr hr'.1) (by simpa using hr'.2)

theorem statusOf_ready_iff {blockers : List ComplianceBlocker}
    (h : ∀ b ∈ blockers, b.severity = "error") :
    (statusOf blockers).1 = .ready ↔ blockers = [] := by
  cases blockers with
  | nil => simp [statusOf]
  | cons b rest =>
    have hb := h b List.mem_cons_self
    simp [statusOf, hb]

theorem ruleProblems_eq_nil_iff {blockerType resolution : String} {results : List RuleResult} :
    ruleProblems blockerType resolution results = [] ↔ ∀ r ∈ results, r.passed = true := by
  simp [ruleProblems, List.filter_eq_nil_iff]

theorem skillProblems_eq_nil_iff {skillFit : SkillFitAnalysis}
    (h : SkillMatchEngine.evaluateFit ip workOrder engineer = .ok skillFit) :
    skillProblems skillFit = [] ↔ ∀ s ∈ workOrder.requiredSkills, ∃ s' ∈ engineer.skills,
      ip.lower s'.skillName = ip.lower s.skillName := by
  obtain ⟨expiring, -, heq⟩ := bind_eq_ok_iff.mp h
  obtain rfl := Except.ok.inj heq
  have hmissing : missingSkills ip workOrder engineer = [] ↔ ∀ s ∈ workOrder.requiredSkills,
      ∃ s' ∈ engineer.skills, ip.lower s'.skillName = ip.lower s.skillName := by
    simp [missingSkills, skillNames, List.filter_eq_nil_iff]
  rw [← hmissing]
  cases hm : missingSkills ip workOrder engineer with
  | nil => simp [skillProblems]
  | cons ms rest =>
    have hsorted : (sorted (ms :: rest)).length = (ms :: rest).length :=
      (List.perm_insertionSort _ _).length_eq
    simp [skillProblems, ← List.length_eq_zero_iff, hsorted]

theorem permitProblems_eq_nil_iff : permitProblems workOrder = [] ↔
    ∀ permit ∈ workOrder.requiredPermits, permit.required = true → permit.obtained = true := by
  simp [permitProblems, List.filter_eq_nil_iff]

/-- The skills are matched unless a date has an offset. -/
theorem evaluateFit_returns_iff :
    (∃ skillFit, SkillMatchEngine.evaluateFit ip workOrder engineer = .ok skillFit) ↔
      ∀ a ∈ engineer.accreditations, expiry ip a ≠ some .aware := by
  have hnote : ∀ a, (∃ note, expiringNote ip a = .ok note) ↔ expiry ip a ≠ some .aware := by
    intro a
    unfold expiringNote
    split <;> simp [*]
  simp only [← hnote]
  constructor
  · intro ⟨skillFit, h⟩ a ha
    obtain ⟨expiring, hexpiring, -⟩ := bind_eq_ok_iff.mp h
    obtain ⟨note, -, hnote⟩ := returns_of_mapM hexpiring ha
    exact ⟨note, hnote⟩
  · intro h
    obtain ⟨expiring, hexpiring⟩ := mapM_returns h
    exact ⟨_, by rw [evaluateFit, hexpiring]; rfl⟩

theorem ready_iff {skillFit : SkillFitAnalysis}
    (h : SkillMatchEngine.evaluateFit ip workOrder engineer = .ok skillFit) :
    (statusOf ((problems ip workOrder engineer skillFit).map Problem.blocker)).1 = .ready ↔
      Equipped ip workOrder engineer ∧
        ∀ test ∈ checkTests ip workOrder, hasCert ip engineer test = true := by
  rw [statusOf_ready_iff (List.forall_mem_map.mpr severity_problems), List.map_eq_nil_iff,
    forall_checkTests_iff, problems]
  simp only [List.append_eq_nil_iff, ruleProblems_eq_nil_iff, skillProblems_eq_nil_iff h,
    permitProblems_eq_nil_iff]
  constructor
  · intro ⟨⟨⟨hskills, hpermits⟩, hsafety⟩, haccreditations⟩
    exact ⟨⟨hskills, hpermits, accreditations_passed_iff.mp haccreditations⟩, hsafety,
      haccreditations⟩
  · intro ⟨hequipped, hsafety, haccreditations⟩
    exact ⟨⟨⟨hequipped.skills, hequipped.permits⟩, hsafety⟩, haccreditations⟩

/-- The engineer is cleared exactly if all checks are met. -/
theorem evaluate_ready_iff : (∃ decision,
      ReadinessRuleEngine.evaluate ip workOrder engineer = .ok decision ∧
        decision.status = .ready) ↔ Cleared ip workOrder engineer := by
  constructor
  · intro ⟨decision, h, hready⟩
    obtain ⟨skillFit, hfit, heq⟩ := bind_eq_ok_iff.mp h
    obtain rfl := Except.ok.inj heq
    obtain ⟨hequipped, hcertified⟩ := (ready_iff hfit).mp hready
    exact ⟨hequipped, hcertified, evaluateFit_returns_iff.mp ⟨skillFit, hfit⟩⟩
  · intro h
    obtain ⟨skillFit, hfit⟩ := evaluateFit_returns_iff.mpr h.local_dates
    have hready := (ready_iff hfit).mpr ⟨h.equipped, h.certified⟩
    exact ⟨_, by rw [ReadinessRuleEngine.evaluate, hfit]; rfl, hready⟩

/-! ### The two conditions -/

theorem lower_eq_self {text : String} (h : Ascii text.toList)
    (hlower : text.toList.map Char.toLower = text.toList) : ip.lower text = text := by
  rw [Interpreter.lower, Py.lower, lowerFrom_ascii _ h, hlower, String.ofList_toList]

/-- A certificate for confined spaces has the word in its name. -/
theorem confined_of_equipped (h : Equipped ip workOrder engineer) {permit : PermitRequirement}
    (hpermit : permit ∈ workOrder.requiredPermits) (htype : permit.permitType = .confinedSpace) :
    hasCert ip engineer (occursIn "confined") = true := by
  have hrequired : "confined_space_certification" ∈ requiredAccreditations workOrder :=
    List.mem_append_right _ (List.mem_filterMap.mpr ⟨permit, hpermit, by rw [htype]⟩)
  obtain ⟨a, ha, hvalid, hname⟩ := h.accreditations _ hrequired
  have hlower : ip.lower "confined_space_certification" = "confined_space_certification" :=
    lower_eq_self (by decide) (by decide)
  rw [hlower] at hname
  refine List.any_eq_true.mpr ⟨a, ha, ?_⟩
  rw [Accreditation.accepts, hvalid, hname]
  decide

theorem agreeing_iff : (Equipped ip workOrder engineer →
    ∀ r ∈ SafetyRuleEngine.evaluate ip workOrder engineer,
      r.ruleName ∈ ["confined_space_certified", "hot_works_certified"] → r.passed = true) ↔
    HotWorksNamed ip workOrder engineer := by
  unfold HotWorksNamed
  refine imp_congr_right fun hequipped => ?_
  constructor
  · intro h ⟨permit, hpermit, htype⟩
    exact h (.check "hot_works_certified" (hasCert ip engineer (occursIn "hot work"))
        "Hot works certified" "Missing hot works certification")
      (List.mem_append_left _ (List.mem_filterMap.mpr ⟨permit, hpermit, by rw [htype]; rfl⟩))
      (by simp [RuleResult.check])
  · intro h r hr hname
    rcases List.mem_append.mp hr with hr | hr
    · obtain ⟨permit, hpermit, heq⟩ := List.mem_filterMap.mp hr
      cases htype : permit.permitType with
      | confinedSpace =>
        obtain rfl := Option.some.inj (htype ▸ heq)
        exact confined_of_equipped hequipped hpermit htype
      | hotWorks =>
        obtain rfl := Option.some.inj (htype ▸ heq)
        exact h ⟨permit, hpermit, htype⟩
      | heightWorks =>
        obtain rfl := Option.some.inj (htype ▸ heq)
        exact absurd hname (by simp [RuleResult.check])
      | streetWorks | buildingAccess => cases htype ▸ heq
    · split at hr
      · obtain rfl := List.mem_singleton.mp hr
        exact absurd hname (by simp [gasRule, RuleResult.check])
      · cases hr

theorem current_iff : (∀ decision, ReadinessRuleEngine.evaluate ip workOrder engineer = .ok decision →
      decision.status = .ready → ∀ a ∈ engineer.accreditations, ReliedOn ip workOrder a →
        a.isValid = true ∧ ¬ Past ip a) ↔ ClearedCurrent ip workOrder engineer := by
  constructor
  · intro h hcleared a ha hrelied
    obtain ⟨decision, hdecision, hready⟩ := evaluate_ready_iff.mpr hcleared
    exact (h decision hdecision hready a ha hrelied).2
  · intro h decision hdecision hready a ha hrelied
    have hcleared := evaluate_ready_iff.mp ⟨decision, hdecision, hready⟩
    obtain ⟨test, -, haccepts⟩ := id hrelied
    exact ⟨(Bool.and_eq_true_iff.mp haccepts).1, h hcleared a ha hrelied⟩

end Checks

/-- Dispatch is sound exactly if the certificate for hot works is named as the safety check looks
for it, and nothing that clears the engineer is past. -/
theorem dispatchSound_iff (ip : Interpreter) (workOrder : ParsedWorkOrder)
    (engineer : EngineerProfile) : DispatchSound ip workOrder engineer ↔
      HotWorksNamed ip workOrder engineer ∧ ClearedCurrent ip workOrder engineer := by
  rw [← agreeing_iff, ← current_iff]
  exact ⟨fun h => ⟨h.agreeing, h.current⟩, fun h => ⟨h.1, h.2⟩⟩

/-- The certificate for hot works, held under the name that is required, does not pass the safety
check; and an accreditation that expired is counted. -/
theorem not_dispatchSound_hotWorks_expired :
    ¬ DispatchSound ⟨.ascii, fun _ => none, 0⟩
        { requiredPermits := [{ permitType := .hotWorks, obtained := true }] }
        { accreditations := [{ name := "hot_works_certification" }] } ∧
      ¬ DispatchSound ⟨.ascii, fun _ => some (.naive 0), 1⟩ { workOrderType := .repair }
        { accreditations := [{ name := "general_competency", validTo := some "2020-01-01" }] } := by
  constructor
  · intro h
    have hequipped : Equipped ⟨.ascii, fun _ => none, 0⟩
        { requiredPermits := [{ permitType := .hotWorks, obtained := true }] }
        { accreditations := [{ name := "hot_works_certification" }] } :=
      ⟨by simp, by simp, by simp [requiredAccreditations]⟩
    have hpassed := h.agreeing hequipped _ List.mem_cons_self (by decide)
    exact absurd hpassed (by decide)
  · intro h
    have hcurrent := h.current _ rfl (by decide) _ List.mem_cons_self
      ⟨_, List.mem_cons_self, by simp [Accreditation.accepts]⟩
    exact hcurrent.2 ⟨0, by simp [expiry], by decide⟩

end ControlFabric.Field
