import ControlFabric.Validation.RuleModel
import ControlFabric.Validation.Execution
import ControlFabric.Reconciliation.RuleKinds

/-! The validation rules of the domain packs, and the kinds that a rule declares: applicability does
not ask for them, so a rule reports on objects of other kinds. -/
namespace ControlFabric.Fabric.Validation
open Lib Py Method

def contractMarginEvidenceRule (str : Json → String) : W3ValidationRule where
  ruleId := "contract-margin-evidence"
  applicability := { applicableObjectKinds := ["rate_card_entry", "billable_event"] }
  validate objects _ _ :=
    let failures := objects.flatMap fun obj =>
      let missing := ["clause_extraction", "rate_comparison"].filter fun t =>
        t ∉ obj.evidence.map EvidenceRef.evidenceType
      if missing ≠ [] then
        [{ code := ValidationFailureCode.evidenceInsufficient
           objectId := some obj.id
           description := s!"Object '{obj.label}' missing evidence types: " ++
             str (.arr (missing.map .str))
           ruleId := some "contract-margin-evidence"
           metadata := [("missing_types", .arr (missing.map .str))] }]
      else []
    .ok (.ofFindings "contract-margin-evidence" "Contract-margin evidence check" failures [])

def telcoOpsActionPreconditionRule : W3ValidationRule where
  ruleId := "telco-ops-action-precondition"
  applicability :=
    { applicableObjectKinds := ["incident_state", "escalation_rule"]
      applicableActionTypes := ["sla-escalation"] }
  validate objects _ _ :=
    let others := objects.filter fun obj =>
      obj.state ∉ [ControlState.active, .enriched, .frozen]
    .ok (.ofFindings "telco-ops-action-precondition" "Telco-ops action precondition check" []
      (others.map fun obj =>
        { ruleId := some "telco-ops-action-precondition"
          objectId := some obj.id
          description := s!"Object '{obj.label}' is {obj.state.value}, " ++
            "expected active/enriched/frozen for SLA escalation" }))

/-- The rule asks for the kind of an object itself. -/
def utilitiesFieldGraphRule : W3ValidationRule where
  ruleId := "utilities-field-graph-completeness"
  applicability := { applicableObjectKinds := ["work_order", "completion_certificate"] }
  validate objects graph _ :=
    let linkless := objects.filter fun obj => obj.objectKind = "work_order" ∧
      graph.getLinksForObject obj.id "both" (some .fulfills) = []
    .ok (.ofFindings "utilities-field-graph-completeness"
      "Utilities-field graph completeness check" []
      (linkless.map fun obj =>
        { ruleId := some "utilities-field-graph-completeness"
          objectId := some obj.id
          description := s!"Work order '{obj.label}' has no fulfills links" }))

def registerDomainPackValidationRules (str : Json → String) (registry : ValidationRuleRegistry) :
    ValidationRuleRegistry :=
  [contractMarginEvidenceRule str, telcoOpsActionPreconditionRule, utilitiesFieldGraphRule].foldl
    (fun registry rule => registry.registerRule rule none) registry

/-! ### The declared kinds -/

/-- The registry without the rule of that name. -/
def ValidationRuleRegistry.without (registry : ValidationRuleRegistry) (ruleId : String) :
    ValidationRuleRegistry where
  rules := registry.rules.filter fun e => e.1 ≠ ruleId
  order := registry.order.filter (· ≠ ruleId)

/-- What a run reports. -/
structure Findings where
  failures : List ValidationFailure
  warnings : List ValidationWarning

/-- What the rules report on the objects, unless one of them raises. -/
def findingsOf (objects : List ControlObject) (graph : InMemoryGraphRepository) (ctx : JsonDict)
    (rules : List W3ValidationRule) : Option Findings :=
  (rules.mapM fun (rule : W3ValidationRule) => (rule.validate objects graph ctx).toOption).map fun results =>
    ⟨results.flatMap ValidationResult.failures, results.flatMap ValidationResult.warnings⟩

/-- What one rule reports, nothing if it raises. -/
def W3ValidationRule.reported (rule : W3ValidationRule) (objects : List ControlObject)
    (graph : InMemoryGraphRepository) (ctx : JsonDict) : Findings :=
  match rule.validate objects graph ctx with
  | .ok result => ⟨result.failures, result.warnings⟩
  | .error _ => ⟨[], []⟩

theorem W3ValidationRule.reported_of_validate {rule : W3ValidationRule} {objects : List ControlObject}
    {graph : InMemoryGraphRepository} {ctx : JsonDict} {result : ValidationResult}
    (h : rule.validate objects graph ctx = .ok result) :
    rule.reported objects graph ctx = ⟨result.failures, result.warnings⟩ := by
  unfold W3ValidationRule.reported
  rw [h]

section Findings
variable {objects : List ControlObject} {graph : InMemoryGraphRepository} {ctx : JsonDict}

/-- The rule returns on the objects. -/
def W3ValidationRule.Returns (rule : W3ValidationRule) (objects : List ControlObject)
    (graph : InMemoryGraphRepository) (ctx : JsonDict) : Prop :=
  ∃ result, rule.validate objects graph ctx = .ok result

theorem findingsOf_cons {rule : W3ValidationRule} {result : ValidationResult}
    (h : rule.validate objects graph ctx = .ok result) (rules : List W3ValidationRule) :
    findingsOf objects graph ctx (rule :: rules) =
      (findingsOf objects graph ctx rules).map fun rest =>
        ⟨result.failures ++ rest.failures, result.warnings ++ rest.warnings⟩ := by
  have hvalidate : (rule.validate objects graph ctx).toOption = some result := by
    rw [h]
    rfl
  unfold findingsOf
  rw [List.mapM_cons, hvalidate]
  cases rules.mapM fun (rule : W3ValidationRule) => (rule.validate objects graph ctx).toOption <;>
    rfl

theorem findingsOf_of_returns {rules : List W3ValidationRule}
    (h : ∀ rule ∈ rules, rule.Returns objects graph ctx) :
    findingsOf objects graph ctx rules =
      some ⟨rules.flatMap fun rule => (rule.reported objects graph ctx).failures,
        rules.flatMap fun rule => (rule.reported objects graph ctx).warnings⟩ := by
  induction rules with
  | nil => rfl
  | cons rule rules ih =>
    obtain ⟨⟨result, hresult⟩, hrules⟩ := List.forall_mem_cons.mp h
    rw [findingsOf_cons hresult, ih hrules, List.flatMap_cons, List.flatMap_cons,
      rule.reported_of_validate hresult]
    rfl

theorem findingsOf_eq_none {rules : List W3ValidationRule} {rule : W3ValidationRule}
    (hrule : rule ∈ rules) (h : ¬ rule.Returns objects graph ctx) :
    findingsOf objects graph ctx rules = none := by
  have hraises : (rule.validate objects graph ctx).toOption = none := by
    cases hvalidate : rule.validate objects graph ctx with
    | ok result => exact absurd ⟨result, hvalidate⟩ h
    | error e => rfl
  unfold findingsOf
  rw [Option.map_eq_none_iff]
  induction rules with
  | nil => exact absurd hrule List.not_mem_nil
  | cons rule' rules ih =>
    rw [List.mapM_cons]
    rcases List.mem_cons.mp hrule with rfl | hrule
    · rw [hraises]
      rfl
    · rw [ih hrule]
      cases (rule'.validate objects graph ctx).toOption <;> rfl

end Findings

/-- What is dropped from a list of lists of items is what was reported under the name. -/
theorem length_flatMap_filter_ne {α : Type} (f : String → List α) (name : String)
    (l : List String) :
    (l.flatMap f).length =
      ((l.filter (· ≠ name)).flatMap f).length + l.count name * (f name).length := by
  induction l with
  | nil => simp
  | cons a l ih =>
    by_cases h : a = name
    · subst h
      rw [List.filter_cons_of_neg (by simp), List.flatMap_cons, List.length_append, ih,
        List.count_cons_self]
      ring
    · rw [List.filter_cons_of_pos (by simpa using h), List.flatMap_cons, List.flatMap_cons,
        List.length_append, List.length_append, ih, List.count_cons_of_ne h]
      ring

theorem flatMap_filter_ne {α : Type} {f : String → List α} {name : String} (h : f name = [])
    (l : List String) : (l.filter (· ≠ name)).flatMap f = l.flatMap f := by
  induction l with
  | nil => rfl
  | cons a l ih =>
    by_cases ha : a = name
    · subst ha
      rw [List.filter_cons_of_neg (by simp), ih, List.flatMap_cons, h, List.nil_append]
    · rw [List.filter_cons_of_pos (by simpa using ha), List.flatMap_cons, ih, List.flatMap_cons]

theorem flatMap_filter_ne_iff {α : Type} (f : String → List α) {name : String} {l : List String}
    (h : name ∈ l) : l.flatMap f = (l.filter (· ≠ name)).flatMap f ↔ f name = [] := by
  constructor
  · intro heq
    have hlen := length_flatMap_filter_ne f name l
    rw [← heq] at hlen
    have hcount := List.count_pos_iff.mpr h
    have hzero : l.count name * (f name).length = 0 := by omega
    rcases Nat.mul_eq_zero.mp hzero with hzero | hzero
    · omega
    · exact List.length_eq_zero_iff.mp hzero
  · intro hnil
    exact (flatMap_filter_ne hnil l).symm

/-! ### Runs with and without a rule -/

namespace ValidationChainExecutor

/-- What a run of the request reports, unless a rule raises. -/
def findings (e : ValidationChainExecutor) (request : ValidationExecutionRequest) :
    Option Findings :=
  let objects := objectsOf e.graph request
  if objects = [] then
    some ⟨((checkPreconditions objects).filter fun p => ¬ p.met ∧ p.blocking).map fun p =>
      { code := ValidationFailureCode.missingValidationInput
        description := s!"Precondition '{p.name}' not met: {p.description}" }, []⟩
  else findingsOf objects e.graph (buildRuleContext request.context) (rulesOf e request)

/-- The executor without the rule of that name in its registry. -/
def withoutRule (e : ValidationChainExecutor) (ruleId : String) : ValidationChainExecutor :=
  { e with ruleRegistry := e.ruleRegistry.without ruleId }

variable {rt : Runtime} {str : Json → String}

theorem findingsOf_of_ran {objects : List ControlObject} {graph : InMemoryGraphRepository}
    {ctx : JsonDict} {rules : List W3ValidationRule} {steps : List ValidationStep}
    (h : List.Forall₂ (Ran objects graph ctx) rules steps) :
    findingsOf objects graph ctx rules =
      some ⟨steps.flatMap ValidationStep.failures, steps.flatMap ValidationStep.warnings⟩ := by
  induction h with
  | nil => rfl
  | cons hran _ ih =>
    obtain ⟨-, result, hresult, hstep⟩ := hran
    rw [findingsOf_cons hresult, ih, List.flatMap_cons, List.flatMap_cons,
      ValidationStep.failures, ValidationStep.warnings, hstep]
    rfl

/-- Every run that returns reports these findings, whoever listens. -/
theorem execute_findings {request : ValidationExecutionRequest} {r : ValidationExecutionResult}
    {w w' : World ValidationChainExecutor} (h : (execute rt str request).run w = .ok r w') :
    w.self.findings request = some ⟨r.report.failures, r.report.warnings⟩ := by
  obtain ⟨n, -, -, hexecuted⟩ := execute_ok h
  unfold findings
  obtain ⟨id, chainId, ⟨hempty, hreport⟩ | ⟨hobjects, steps, hsteps, hreport⟩⟩ := hexecuted.report
  · rw [hreport]
    exact if_pos hempty
  · rw [hreport]
    exact (if_neg hobjects).trans (findingsOf_of_ran hsteps)

section Without
variable (e : ValidationChainExecutor) (request : ValidationExecutionRequest)

/-- The rule of that name, if it applies to the objects of the request. -/
def chosen (name : String) : Option W3ValidationRule :=
  (e.ruleRegistry.rules.get? name).filter fun rule =>
    rule.applicability.isApplicable (objectsOf e.graph request) request.context.scope.actionType

theorem rulesOf_chosen : rulesOf e request = e.ruleRegistry.order.filterMap (e.chosen request) := by
  unfold rulesOf ValidationRuleRegistry.getApplicableRules
  rw [List.filter_filterMap]
  rfl

theorem rulesOf_without (name : String) : rulesOf (e.withoutRule name) request =
    (e.ruleRegistry.order.filter (· ≠ name)).filterMap (e.chosen request) := by
  rw [rulesOf_chosen]
  apply List.filterMap_congr
  intro k hk
  have hne : k ≠ name := by simpa using (List.mem_filter.mp hk).2
  have hget : (e.withoutRule name).ruleRegistry.rules.get? k = e.ruleRegistry.rules.get? k := by
    ext rule
    show (e.ruleRegistry.rules.filter fun e => e.1 ≠ name).get? k = some rule ↔ _
    rw [Dict.get?_filter_eq_some]
    simp [hne]
  unfold chosen
  rw [hget]
  rfl

variable {e request} {rule : W3ValidationRule}

theorem chosen_registered (h : e.ruleRegistry.rules.get? rule.ruleId = some rule) :
    e.chosen request rule.ruleId =
      if rule.applicability.isApplicable (objectsOf e.graph request)
        request.context.scope.actionType then some rule else none := by
  unfold chosen
  rw [h, Option.filter_some]

theorem mem_rulesOf (h : e.ruleRegistry.rules.get? rule.ruleId = some rule)
    (horder : rule.ruleId ∈ e.ruleRegistry.order)
    (happ : rule.applicability.isApplicable (objectsOf e.graph request)
      request.context.scope.actionType) : rule ∈ rulesOf e request := by
  rw [rulesOf_chosen]
  exact List.mem_filterMap.mpr ⟨rule.ruleId, horder, by rw [chosen_registered h, if_pos happ]⟩

/-- A rule that does not apply is not missed. -/
theorem rulesOf_without_of_not_applicable
    (h : e.ruleRegistry.rules.get? rule.ruleId = some rule)
    (happ : ¬ rule.applicability.isApplicable (objectsOf e.graph request)
      request.context.scope.actionType) :
    rulesOf (e.withoutRule rule.ruleId) request = rulesOf e request := by
  rw [rulesOf_without, rulesOf_chosen, List.filterMap_eq_flatMap_toList,
    List.filterMap_eq_flatMap_toList]
  apply flatMap_filter_ne
  rw [chosen_registered h, if_neg happ]
  rfl

/-- A rule that applies is one of those without it, or the rule itself. -/
theorem mem_rulesOf_without (h : e.ruleRegistry.rules.get? rule.ruleId = some rule)
    {other : W3ValidationRule} (hother : other ∈ rulesOf e request) :
    other ∈ rulesOf (e.withoutRule rule.ruleId) request ∨ other = rule := by
  rw [rulesOf_chosen] at hother
  obtain ⟨k, hk, hchosen⟩ := List.mem_filterMap.mp hother
  by_cases hname : k = rule.ruleId
  · subst hname
    have hget := (Option.filter_eq_some_iff.mp hchosen).1
    rw [h] at hget
    exact Or.inr (Option.some.inj hget).symm
  · rw [rulesOf_without]
    exact Or.inl (List.mem_filterMap.mpr
      ⟨k, List.mem_filter.mpr ⟨hk, by simpa using hname⟩, hchosen⟩)

theorem rulesOf_of_without {name : String} {other : W3ValidationRule}
    (h : other ∈ rulesOf (e.withoutRule name) request) : other ∈ rulesOf e request := by
  rw [rulesOf_without] at h
  obtain ⟨k, hk, hchosen⟩ := List.mem_filterMap.mp h
  rw [rulesOf_chosen]
  exact List.mem_filterMap.mpr ⟨k, List.mem_of_mem_filter hk, hchosen⟩

variable (e request) in
/-- What the rules add up to is the same with and without a rule exactly when it adds nothing. -/
theorem flatMap_rulesOf_iff {α : Type} (f : W3ValidationRule → List α)
    (h : e.ruleRegistry.rules.get? rule.ruleId = some rule)
    (horder : rule.ruleId ∈ e.ruleRegistry.order)
    (happ : rule.applicability.isApplicable (objectsOf e.graph request)
      request.context.scope.actionType) :
    (rulesOf e request).flatMap f = (rulesOf (e.withoutRule rule.ruleId) request).flatMap f ↔
      f rule = [] := by
  rw [rulesOf_chosen, rulesOf_without, List.filterMap_eq_flatMap_toList,
    List.filterMap_eq_flatMap_toList, List.flatMap_assoc, List.flatMap_assoc,
    flatMap_filter_ne_iff _ horder, chosen_registered h, if_pos happ]
  simp

end Without

/-- A rule that another one's failure hides, or that finds nothing. -/
def Silent (e : ValidationChainExecutor) (request : ValidationExecutionRequest)
    (rule : W3ValidationRule) : Prop :=
  objectsOf e.graph request = [] ∨
    (∃ other ∈ rulesOf (e.withoutRule rule.ruleId) request,
      ¬ other.Returns (objectsOf e.graph request) e.graph (buildRuleContext request.context)) ∨
    ∃ result, rule.validate (objectsOf e.graph request) e.graph
        (buildRuleContext request.context) = .ok result ∧
      result.failures = [] ∧ result.warnings = []

/-- With and without a rule a run reports the same exactly when the rule does not apply or is
silent. -/
theorem findings_same_iff {e : ValidationChainExecutor} {rule : W3ValidationRule}
    (h : e.ruleRegistry.rules.get? rule.ruleId = some rule)
    (horder : rule.ruleId ∈ e.ruleRegistry.order) (request : ValidationExecutionRequest) :
    e.findings request = (e.withoutRule rule.ruleId).findings request ↔
      ¬ rule.applicability.isApplicable (objectsOf e.graph request)
          request.context.scope.actionType ∨ e.Silent request rule := by
  have hobjects : objectsOf (e.withoutRule rule.ruleId).graph request = objectsOf e.graph request :=
    rfl
  unfold findings Silent
  simp only [hobjects]
  by_cases hempty : objectsOf e.graph request = []
  · simp only [hempty, if_true, true_or, or_true]
  simp only [hempty, if_false, false_or]
  show findingsOf _ e.graph _ _ = findingsOf _ e.graph _ _ ↔ _
  by_cases hothers : ∃ other ∈ rulesOf (e.withoutRule rule.ruleId) request,
      ¬ other.Returns (objectsOf e.graph request) e.graph (buildRuleContext request.context)
  · obtain ⟨other, hother, hraises⟩ := hothers
    rw [findingsOf_eq_none hother hraises, findingsOf_eq_none (rulesOf_of_without hother) hraises]
    exact iff_of_true rfl (Or.inr (Or.inl ⟨other, hother, hraises⟩))
  rw [or_iff_right hothers]
  push Not at hothers
  rw [findingsOf_of_returns hothers]
  by_cases happ : rule.applicability.isApplicable (objectsOf e.graph request)
      request.context.scope.actionType
  · rw [or_iff_right (not_not.mpr happ)]
    by_cases hreturns : rule.Returns (objectsOf e.graph request) e.graph
        (buildRuleContext request.context)
    · have hall : ∀ other ∈ rulesOf e request, other.Returns (objectsOf e.graph request) e.graph
          (buildRuleContext request.context) := by
        intro other hother
        rcases mem_rulesOf_without h hother with hother | rfl
        · exact hothers other hother
        · exact hreturns
      obtain ⟨result, hresult⟩ := hreturns
      rw [findingsOf_of_returns hall, Option.some.injEq, Findings.mk.injEq,
        flatMap_rulesOf_iff e request _ h horder happ, flatMap_rulesOf_iff e request _ h horder happ,
        rule.reported_of_validate hresult]
      constructor
      · intro hnone
        exact ⟨result, hresult, hnone⟩
      · rintro ⟨result', hresult', hnone⟩
        obtain rfl := Except.ok.inj (hresult.symm.trans hresult')
        exact hnone
    · rw [findingsOf_eq_none (mem_rulesOf h horder happ) hreturns]
      refine iff_of_false (by simp) ?_
      rintro ⟨result, hresult, -⟩
      exact hreturns ⟨result, hresult⟩
  · rw [← rulesOf_without_of_not_applicable h happ, findingsOf_of_returns hothers]
    exact iff_of_true rfl (Or.inl happ)

section Kinds
open Reconciliation

/-- For pairs and objects of other kinds than a rule declares, a registry with and without the rule
scores and validates the same exactly when the rule does not apply, whatever its kinds, or is
silent; with exact scores an applicable one is silent when it shares alike; and what an execution
reports is what its rules find. -/
theorem kinds_respected_iff {ops : ValueOps} {registry : ReconciliationRuleRegistry}
    {rule : ReconciliationRule} (hrule : registry.rules.get? rule.ruleId = some rule)
    (source target : ControlObject) (links : List ControlLink) {e : ValidationChainExecutor}
    {w3rule : W3ValidationRule} (hw3rule : e.ruleRegistry.rules.get? w3rule.ruleId = some w3rule)
    (horder : w3rule.ruleId ∈ e.ruleRegistry.order) (request : ValidationExecutionRequest) :
    ((Undeclared rule.applicability.applicableObjectKinds [source, target] →
        SameScoring ops registry (registry.without rule.ruleId) source target links) ↔
      (Undeclared rule.applicability.applicableObjectKinds [source, target] →
        ¬ rule.isApplicable source target ∨
          Reconciliation.Silent ops registry rule source target links)) ∧
    ((Undeclared w3rule.applicability.applicableObjectKinds (objectsOf e.graph request) →
        e.findings request = (e.withoutRule w3rule.ruleId).findings request) ↔
      (Undeclared w3rule.applicability.applicableObjectKinds (objectsOf e.graph request) →
        ¬ w3rule.applicability.isApplicable (objectsOf e.graph request)
            request.context.scope.actionType ∨ e.Silent request w3rule)) ∧
    (∀ (floatOfStr : String → Option PyFloat) (str : Json → String),
      rule.isApplicable source target →
      CandidateScorer.AllWithin (CandidateScorer.results registry source target links) →
      (Reconciliation.Silent (.rational floatOfStr str) registry rule source target links ↔
        (rule.evaluate source target links).mismatches = [] ∧
          ((∃ r ∈ CandidateScorer.results (registry.without rule.ruleId) source target links,
              r.2.hardFail) ∨
            ¬ (rule.evaluate source target links).hardFail ∧
              SharesAlike registry rule source target links))) ∧
    ∀ (rt : Runtime) (str : Json → String) (r : ValidationExecutionResult)
      (w w' : World ValidationChainExecutor), (execute rt str request).run w = .ok r w' →
        w.self.findings request = some ⟨r.report.failures, r.report.warnings⟩ :=
  ⟨imp_congr_right fun _ => sameScoring_iff hrule,
    imp_congr_right fun _ => findings_same_iff hw3rule horder request,
    fun floatOfStr str happ hwithin => silent_rational_iff floatOfStr str hrule happ hwithin,
    fun _ _ _ _ _ hexecute => execute_findings hexecute⟩

/-! ### Invoices under the rules of the domain packs -/

/-- An executor with the rules of the domain packs over one billed invoice. -/
def invoicing : ValidationChainExecutor :=
  .new (Reconciliation.storing [Reconciliation.billedObject "bill" .commercial] []).repo
    (registerDomainPackValidationRules (fun _ => "") .empty) [] {}

def invoiceRequest : ValidationExecutionRequest where
  tenantId := "north"
  context := { scope := { tenantId := "north" }, target := { objectIds := ["bill"] } }

theorem kinds_respected_invoices :
    ((Undeclared (utilitiesFieldCompletionRule .exact).applicability.applicableObjectKinds
          [billedObject "bill" .commercial, billedObject "copy" .field] →
        SameScoring .exact (domainPackRuleRegistry .exact)
          ((domainPackRuleRegistry .exact).without "utilities-field-completion-billing")
          (billedObject "bill" .commercial) (billedObject "copy" .field) []) ↔
      (Undeclared (utilitiesFieldCompletionRule .exact).applicability.applicableObjectKinds
          [billedObject "bill" .commercial, billedObject "copy" .field] →
        ¬ (utilitiesFieldCompletionRule .exact).isApplicable (billedObject "bill" .commercial)
            (billedObject "copy" .field) ∨
          Reconciliation.Silent .exact (domainPackRuleRegistry .exact)
            (utilitiesFieldCompletionRule .exact) (billedObject "bill" .commercial)
            (billedObject "copy" .field) [])) ∧
    ((Undeclared (contractMarginEvidenceRule fun _ => "").applicability.applicableObjectKinds
          (objectsOf invoicing.graph invoiceRequest) →
        invoicing.findings invoiceRequest =
          (invoicing.withoutRule "contract-margin-evidence").findings invoiceRequest) ↔
      (Undeclared (contractMarginEvidenceRule fun _ => "").applicability.applicableObjectKinds
          (objectsOf invoicing.graph invoiceRequest) →
        ¬ (contractMarginEvidenceRule fun _ => "").applicability.isApplicable
            (objectsOf invoicing.graph invoiceRequest) "" ∨
          invoicing.Silent invoiceRequest (contractMarginEvidenceRule fun _ => ""))) ∧
    (∀ (floatOfStr : String → Option PyFloat) (str : Json → String),
      (utilitiesFieldCompletionRule .exact).isApplicable (billedObject "bill" .commercial)
        (billedObject "copy" .field) →
      CandidateScorer.AllWithin (CandidateScorer.results (domainPackRuleRegistry .exact)
        (billedObject "bill" .commercial) (billedObject "copy" .field) []) →
      (Reconciliation.Silent (.rational floatOfStr str) (domainPackRuleRegistry .exact)
          (utilitiesFieldCompletionRule .exact) (billedObject "bill" .commercial)
          (billedObject "copy" .field) [] ↔
        ((utilitiesFieldCompletionRule .exact).evaluate (billedObject "bill" .commercial)
            (billedObject "copy" .field) []).mismatches = [] ∧
          ((∃ r ∈ CandidateScorer.results ((domainPackRuleRegistry .exact).without
                "utilities-field-completion-billing") (billedObject "bill" .commercial)
                (billedObject "copy" .field) [], r.2.hardFail) ∨
            ¬ ((utilitiesFieldCompletionRule .exact).evaluate (billedObject "bill" .commercial)
                (billedObject "copy" .field) []).hardFail ∧
              SharesAlike (domainPackRuleRegistry .exact) (utilitiesFieldCompletionRule .exact)
                (billedObject "bill" .commercial) (billedObject "copy" .field) []))) ∧
    ∀ (rt : Runtime) (str : Json → String) (r : ValidationExecutionResult)
      (w w' : World ValidationChainExecutor), (execute rt str invoiceRequest).run w = .ok r w' →
        w.self.findings invoiceRequest = some ⟨r.report.failures, r.report.warnings⟩ :=
  kinds_respected_iff
    (show (domainPackRuleRegistry .exact).rules.get? "utilities-field-completion-billing" =
      some (utilitiesFieldCompletionRule .exact) from rfl) _ _ []
    (show invoicing.ruleRegistry.rules.get? "contract-margin-evidence" =
      some (contractMarginEvidenceRule fun _ => "") from rfl) (by decide) invoiceRequest

/-- Neither rule declares the kind of an invoice; one fails a pair of invoices, and the other
reports a failure on one. -/
theorem kinds_ignored_invoices :
    (Undeclared (utilitiesFieldCompletionRule .exact).applicability.applicableObjectKinds
        [billedObject "bill" .commercial, billedObject "copy" .field] ∧
      ¬ SameScoring .exact (domainPackRuleRegistry .exact)
        ((domainPackRuleRegistry .exact).without "utilities-field-completion-billing")
        (billedObject "bill" .commercial) (billedObject "copy" .field) []) ∧
    Undeclared (contractMarginEvidenceRule fun _ => "").applicability.applicableObjectKinds
        (objectsOf invoicing.graph invoiceRequest) ∧
      invoicing.findings invoiceRequest ≠
        (invoicing.withoutRule "contract-margin-evidence").findings invoiceRequest := by
  refine ⟨⟨by unfold Undeclared; decide, ?_⟩, by unfold Undeclared; decide +kernel, ?_⟩
  · intro h
    have hmismatches := h.mismatches
    revert hmismatches
    decide +kernel
  · intro h
    have hfailures := congrArg (Option.map fun f => f.failures.length) h
    revert hfailures
    decide +kernel

end Kinds
end ValidationChainExecutor

end ControlFabric.Fabric.Validation
