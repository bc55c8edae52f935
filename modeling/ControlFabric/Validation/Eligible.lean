import ControlFabric.Validation.Execution

/-! What the decision ELIGIBLE says about the target of a request. -/
namespace ControlFabric.Fabric.Validation
open Lib Py Method ValidationChainExecutor

section Predicates
variable (e : ValidationChainExecutor) (request : ValidationExecutionRequest)

/-- Every object listed is stored, for the tenant of the request. -/
def TargetsOwned : Prop := ∀ id ∈ request.context.target.objectIds,
  ∃ obj, e.graph.objects.get? id = some obj ∧ obj.tenantId = request.tenantId

/-- What an applicable rule reports on the objects that are stored. -/
def validateWith (rule : W3ValidationRule) : Except PyError ValidationResult :=
  rule.validate (objectsOf e.graph request) e.graph (buildRuleContext request.context)

def AllPassed : Prop := ∀ rule ∈ rulesOf e request,
  ∃ result, validateWith e request rule = .ok result ∧ result.failures = []

instance : Decidable (AllPassed e request) :=
  decidable_of_iff ((rulesOf e request).all fun rule => match validateWith e request rule with
    | .ok result => result.failures.isEmpty
    | .error _ => false) <| by
    rw [List.all_eq_true]
    apply forall₂_congr
    intro rule _
    cases validateWith e request rule <;> simp

def SomeFails : Prop := ∃ rule ∈ rulesOf e request,
  ∃ result, validateWith e request rule = .ok result ∧ result.failures ≠ []

/-- The number of warnings the applicable rules report. -/
def warningCount : ℕ := ((rulesOf e request).map fun rule =>
  match validateWith e request rule with
  | .ok result => result.warnings.length
  | .error _ => 0).sum

end Predicates

variable {rt : Runtime} {str : Json → String} {e : ValidationChainExecutor}
  {request : ValidationExecutionRequest} {runId : String} {r : ValidationExecutionResult}

/-- By the default policy warnings stand in the way only when they are many. -/
theorem determineDecision_default {failures : List ValidationFailure}
    {warnings : List ValidationWarning} :
    determineDecision {} (determineStatus failures warnings) warnings = .eligible ↔
      failures = [] ∧ warnings.length ≤ 10 := by
  by_cases hfailures : failures = []
  · by_cases hwarnings : warnings = []
    · simp [determineStatus, determineDecision, hfailures, hwarnings]
    · by_cases hmany : (10 : ℤ) < warnings.length
      · have hnot : ¬ warnings.length ≤ 10 := by omega
        simp [determineStatus, determineDecision, hfailures, hwarnings, hmany, hnot]
      · have hfew : warnings.length ≤ 10 := by omega
        simp [determineStatus, determineDecision, hfailures, hwarnings, hmany, hfew]
  · simp [determineStatus, determineDecision, hfailures]

section Steps
variable {rules : List W3ValidationRule} {steps : List ValidationStep}
  (h : List.Forall₂ (Ran (objectsOf e.graph request) e.graph (buildRuleContext request.context))
    rules steps)
include h

theorem failures_eq_nil : steps.flatMap ValidationStep.failures = [] ↔
    ∀ rule ∈ rules, ∃ result, validateWith e request rule = .ok result ∧ result.failures = [] := by
  induction h with
  | nil => simp
  | @cons rule step rules steps hran _ ih =>
    obtain ⟨-, result, hvalidate, hresult⟩ := hran
    have hstep : step.failures = result.failures := by
      rw [ValidationStep.failures, hresult]
      rfl
    simp only [List.flatMap_cons, List.append_eq_nil_iff, List.forall_mem_cons, ih, hstep]
    simp [validateWith, hvalidate]

theorem failures_ne_nil : steps.flatMap ValidationStep.failures ≠ [] ↔
    ∃ rule ∈ rules, ∃ result, validateWith e request rule = .ok result ∧ result.failures ≠ [] := by
  induction h with
  | nil => simp
  | @cons rule step rules steps hran _ ih =>
    obtain ⟨-, result, hvalidate, hresult⟩ := hran
    have hstep : step.failures = result.failures := by
      rw [ValidationStep.failures, hresult]
      rfl
    rw [List.flatMap_cons, hstep, Ne, List.append_eq_nil_iff, not_and_or, ← ne_eq (List.flatMap _ _),
      ih]
    simp [validateWith, hvalidate]

theorem length_warnings : (steps.flatMap ValidationStep.warnings).length =
    (rules.map fun rule => match validateWith e request rule with
      | .ok result => result.warnings.length
      | .error _ => 0).sum := by
  induction h with
  | nil => rfl
  | @cons rule step rules steps hran _ ih =>
    obtain ⟨-, result, hvalidate, hresult⟩ := hran
    have hstep : step.warnings = result.warnings := by
      rw [ValidationStep.warnings, hresult]
      rfl
    have hfirst : validateWith e request rule = .ok result := hvalidate
    rw [List.flatMap_cons, List.length_append, ih, List.map_cons, List.sum_cons, hfirst, hstep]

end Steps

/-- When the default policy decides ELIGIBLE. -/
theorem ValidationChainExecutor.Executed.eligible_iff (hpolicy : e.decisionPolicy = {})
    (h : Executed rt str e request runId r) : r.decision = .eligible ↔
      objectsOf e.graph request ≠ [] ∧ AllPassed e request ∧ warningCount e request ≤ 10 := by
  rw [h.decision]
  obtain ⟨id, chainId, ⟨hempty, hreport⟩ | ⟨hne, steps, hsteps, hreport⟩⟩ := h.report
  · have hdecision : r.report.decision = .rejected := by rw [hreport]; rfl
    simp [hdecision, hempty]
  · have hdecision : r.report.decision = determineDecision {}
        (determineStatus (steps.flatMap ValidationStep.failures)
          (steps.flatMap ValidationStep.warnings)) (steps.flatMap ValidationStep.warnings) := by
      rw [hreport, hpolicy]
      rfl
    rw [hdecision, determineDecision_default, failures_eq_nil hsteps, length_warnings hsteps]
    simp [hne, AllPassed, warningCount]

/-- Rules that have run either all pass, or one of them fails. -/
theorem ValidationChainExecutor.Executed.passed_or_fails (h : Executed rt str e request runId r)
    (hne : objectsOf e.graph request ≠ []) : ¬ AllPassed e request ↔ SomeFails e request := by
  obtain ⟨id, chainId, ⟨hempty, -⟩ | ⟨-, steps, hsteps, -⟩⟩ := h.report
  · exact absurd hempty hne
  · unfold AllPassed SomeFails
    rw [← failures_eq_nil hsteps, ← failures_ne_nil hsteps]

/-- Some listed target is stored. -/
def SomeTargetStored (e : ValidationChainExecutor) (request : ValidationExecutionRequest) : Prop :=
  ∃ id ∈ request.context.target.objectIds, id ∈ e.graph.objects

theorem objectsOf_ne_nil : objectsOf e.graph request ≠ [] ↔ SomeTargetStored e request := by
  rw [objectsOf, resolveObjects, Ne, List.filterMap_eq_nil_iff]
  simp [SomeTargetStored, Dict.get?_eq_none]

/-- ELIGIBLE is what an execution decides when some target is stored, every rule that applies to the
stored ones passes, and the warnings are few. -/
theorem execute_eligible_iff {w w' : World ValidationChainExecutor}
    (hpolicy : w.self.decisionPolicy = {}) (hrun : (execute rt str request).run w = .ok r w') :
    r.decision = .eligible ↔ SomeTargetStored w.self request ∧ AllPassed w.self request ∧
      warningCount w.self request ≤ 10 := by
  obtain ⟨n, -, -, h⟩ := execute_ok hrun
  rw [h.eligible_iff hpolicy, objectsOf_ne_nil]

/-- ELIGIBLE vouches for every listed target, for its tenant and for the rules, when all are stored
for the tenant of the request, or the decision has another ground to be against them. -/
theorem eligible_owned_iff {w w' : World ValidationChainExecutor}
    (hpolicy : w.self.decisionPolicy = {}) (hrun : (execute rt str request).run w = .ok r w') :
    (r.decision = .eligible → TargetsOwned w.self request ∧ AllPassed w.self request) ↔
      TargetsOwned w.self request ∨ ¬ SomeTargetStored w.self request ∨
        SomeFails w.self request ∨ 10 < warningCount w.self request := by
  obtain ⟨n, -, -, h⟩ := execute_ok hrun
  rw [execute_eligible_iff hpolicy hrun]
  by_cases hstored : SomeTargetStored w.self request
  · rw [← h.passed_or_fails (objectsOf_ne_nil.mpr hstored), ← not_le]
    tauto
  · simp [hstored]

variable (rt str) in
/-- Without listeners an execution whose rules all pass returns. -/
theorem AllPassed.returns {w : World ValidationChainExecutor} (h : AllPassed w.self request)
    (hquiet : Quiet w) : ReturnsQuietly (execute rt str request) w :=
  execute_returns hquiet fun rule hrule => by
    obtain ⟨result, hvalidate, -⟩ := h rule hrule
    exact ⟨result, hvalidate⟩

/-! ### Targets that are not stored for the tenant -/

def clauseObligation : ControlObject where
  id := "obligation"
  tenantId := "acme"
  objectType := .obligation
  objectKind := ""
  plane := .commercial
  domain := "contract_margin"
  label := "Monthly report"
  description := none
  state := .active
  version := 1
  confidence := 1
  provenance := { createdBy := "ada", creationMethod := .deterministic }
  evidence := [⟨"e1", "clause_extraction", "contract", none, 1, []⟩]
  payload := []
  correlationKeys := []
  externalRefs := []
  tags := []
  schemaVersion := "1.0"
  supersededBy := none
  derivedFrom := []
  auditTrail := []
  createdAt := Runtime.reference.now 0
  updatedAt := Runtime.reference.now 0

/-- The executor with the default rules and policy, over one stored object. -/
def defaultExecutor : World ValidationChainExecutor :=
  ⟨.new (InMemoryGraphRepository.empty.storeObject clauseObligation)
    (buildDefaultValidationRuleRegistry (fun _ => "") .ascii) [] {}, Env.initial "acme"⟩

def requestOf (tenantId : String) (objectIds : List String) : ValidationExecutionRequest where
  tenantId := tenantId
  context := { scope := { tenantId := tenantId }, target := { objectIds := objectIds } }

/-- A request for an object that is stored and one that is not. -/
def partialRequest : ValidationExecutionRequest := requestOf "acme" ["obligation", "missing"]

theorem partialRequest_passed : AllPassed defaultExecutor.self partialRequest := by
  decide +kernel

theorem partialRequest_returns :
    ReturnsQuietly (execute .reference (fun _ => "") partialRequest) defaultExecutor :=
  partialRequest_passed.returns _ _ rfl

theorem partialRequest_decision {runId : String} {r : ValidationExecutionResult}
    (h : Executed .reference (fun _ => "") defaultExecutor.self partialRequest runId r) :
    r.decision = .eligible := by
  have hfound : objectsOf defaultExecutor.self.graph partialRequest ≠ [] := by decide +kernel
  have hfew : warningCount defaultExecutor.self partialRequest ≤ 10 := by decide +kernel
  exact (h.eligible_iff rfl).mpr ⟨hfound, partialRequest_passed, hfew⟩

theorem eligible_owned_iff_partial : ∃ r w',
    (execute .reference (fun _ => "") partialRequest).run defaultExecutor = .ok r w' ∧
      ((r.decision = .eligible → TargetsOwned defaultExecutor.self partialRequest ∧
          AllPassed defaultExecutor.self partialRequest) ↔
        TargetsOwned defaultExecutor.self partialRequest ∨
          ¬ SomeTargetStored defaultExecutor.self partialRequest ∨
          SomeFails defaultExecutor.self partialRequest ∨
            10 < warningCount defaultExecutor.self partialRequest) := by
  obtain ⟨r, w', hrun, -⟩ := partialRequest_returns
  exact ⟨r, w', hrun, eligible_owned_iff rfl hrun⟩

/-- A request for an object that is stored for another tenant. -/
def foreignRequest : ValidationExecutionRequest := requestOf "umbrella" ["obligation"]

/-- The tenant of the request is not compared with that of the object. -/
theorem foreignRequest_eligible : ∃ r w',
    (execute .reference (fun _ => "") foreignRequest).run defaultExecutor = .ok r w' ∧
      r.decision = .eligible ∧ ¬ TargetsOwned defaultExecutor.self foreignRequest := by
  have hpassed : AllPassed defaultExecutor.self foreignRequest := by decide +kernel
  have hfound : objectsOf defaultExecutor.self.graph foreignRequest ≠ [] := by decide +kernel
  have hfew : warningCount defaultExecutor.self foreignRequest ≤ 10 := by decide +kernel
  obtain ⟨r, w', hrun, -⟩ := hpassed.returns .reference (fun _ => "") rfl
  obtain ⟨n, -, -, h⟩ := execute_ok hrun
  refine ⟨r, w', hrun, (h.eligible_iff rfl).mpr ⟨hfound, hpassed, hfew⟩, ?_⟩
  intro howned
  obtain ⟨obj, hget, htenant⟩ := howned "obligation" (by simp [foreignRequest, requestOf])
  have hstored : defaultExecutor.self.graph.objects.get? "obligation" = some clauseObligation := rfl
  rw [hstored] at hget
  obtain rfl := Option.some.inj hget
  exact absurd htenant (by decide)

end ControlFabric.Fabric.Validation
