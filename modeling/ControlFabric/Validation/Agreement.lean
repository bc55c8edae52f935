import ControlFabric.Validation.Chain
import ControlFabric.Validation.Eligible

/-! The two validation chains compared, dimension by dimension. -/
namespace ControlFabric.Fabric.Validation
open Lib Py ValidationChain ValidationChainExecutor

/-- The verdict of the first chain says what the rule of the second reports. -/
structure Agree (verdict : DimensionVerdict) (result : ValidationResult) : Prop where
  fail : verdict = .fail ↔ result.failures ≠ []
  warn : verdict = .warn ↔ result.failures = [] ∧ result.warnings ≠ []

section Pairs
variable (str : Json → String) (uc : Unicode)

/-- The default rules of the two chains, for each dimension that both implement. -/
def rulePairs : List (ValidationRule × W3ValidationRule) :=
  [(schemaValidationRule uc, w3SchemaValidityRule uc),
    (graphCompletenessRule, w3GraphCompletenessRule),
    (evidenceSufficiencyRule 1, w3EvidenceSufficiencyRule str),
    (provenanceRule, w3ProvenanceIntegrityRule),
    (reconciliationStateRule, w3ReconciliationStateRule),
    (determinismRule, w3DeterministicReproducibilityRule),
    (confidenceRule str (1 / 2), w3ConfidenceThresholdRule str),
    (contradictoryEvidenceRule, w3ContradictionCheckRule),
    (actionPreconditionsRule str, w3ActionPreconditionRule str)]

/-- The two chains agree in a dimension: what each makes of the objects in its default context. -/
def AgreeOn (graph : InMemoryGraphRepository) (objects : List ControlObject)
    (scope : ValidationScope) (target : ValidationTarget)
    (p : ValidationRule × W3ValidationRule) : Prop :=
  ∃ result, p.2.validate objects graph (buildRuleContext { scope := scope, target := target }) =
    .ok result ∧ Agree (runRule objects graph [] p.1).verdict result

end Pairs

variable {objects : List ControlObject} {graph : InMemoryGraphRepository}

/-! ### One chain at a time -/

/-- A loop that returns the same verdict at every object it finds fault with. -/
theorem firstFault_ok {dimension : ValidationDimension} {passed : String} {v : DimensionVerdict}
    {fault : ControlObject → Except PyError (Option (DimensionVerdict × String))}
    {P : ControlObject → Prop} [DecidablePred P]
    (hfault : ∀ obj, P obj → ∃ message, fault obj = .ok (some (v, message)))
    (hnone : ∀ obj, ¬ P obj → fault obj = .ok none) :
    ∃ result, firstFault dimension passed fault objects = .ok result ∧
      result.verdict = if ∃ obj ∈ objects, P obj then v else .pass := by
  induction objects with
  | nil => exact ⟨_, rfl, by simp⟩
  | cons obj objects ih =>
    by_cases hP : P obj
    · obtain ⟨message, hobj⟩ := hfault obj hP
      refine ⟨_, by rw [firstFault, hobj]; rfl, ?_⟩
      rw [if_pos ⟨obj, List.mem_cons_self, hP⟩]
    · obtain ⟨result, hrun, hverdict⟩ := ih
      refine ⟨result, by rw [firstFault, hnone obj hP]; exact hrun, ?_⟩
      rw [hverdict]
      simp [hP]

/-- The verdict of a rule that looks for one kind of fault. -/
theorem verdict_eq {rule : ValidationRule} {ctx : JsonDict} {v : DimensionVerdict} {P : Prop}
    [Decidable P] (h : ∃ result, rule.validate objects graph ctx = .ok result ∧
      result.verdict = if P then v else .pass) :
    (runRule objects graph ctx rule).verdict = if P then v else .pass := by
  obtain ⟨result, hrun, hverdict⟩ := h
  rw [runRule, hrun]
  exact hverdict

variable (objects) in
/-- A loop that collects a failure of every object it finds fault with. -/
theorem collected {f : ControlObject → Except PyError (List ValidationFailure)}
    {P : ControlObject → Prop} (hfault : ∀ obj, P obj → ∃ failure, f obj = .ok [failure])
    (hnone : ∀ obj, ¬ P obj → f obj = .ok []) :
    ∃ found, objects.mapM f = .ok found ∧ (found.flatten ≠ [] ↔ ∃ obj ∈ objects, P obj) := by
  induction objects with
  | nil => exact ⟨[], rfl, by simp⟩
  | cons obj objects ih =>
    obtain ⟨found, hrun, hfound⟩ := ih
    by_cases hP : P obj
    · obtain ⟨failure, hobj⟩ := hfault obj hP
      refine ⟨[failure] :: found, by rw [List.mapM_cons, hobj, hrun]; rfl, ?_⟩
      simp [hP]
    · refine ⟨[] :: found, by rw [List.mapM_cons, hnone obj hP, hrun]; rfl, ?_⟩
      rw [List.flatten_cons, List.nil_append, hfound]
      simp [hP]

theorem agree_iff {verdict : DimensionVerdict} {result : ValidationResult} :
    Agree verdict result ↔ (verdict = .fail ↔ result.failures ≠ []) ∧
      (verdict = .warn ↔ result.failures = [] ∧ result.warnings ≠ []) :=
  ⟨fun h => ⟨h.fail, h.warn⟩, fun h => ⟨h.1, h.2⟩⟩

theorem agree_fail_iff {P : Prop} [Decidable P] {ruleId explanation : String}
    {failures : List ValidationFailure} :
    Agree (if P then .fail else .pass) (.ofFindings ruleId explanation failures []) ↔
      (failures ≠ [] ↔ P) := by
  rw [agree_iff]
  by_cases hP : P <;> simp [hP, ValidationResult.ofFindings]

theorem agree_warn_iff {P : Prop} [Decidable P] {ruleId explanation : String}
    {warnings : List ValidationWarning} :
    Agree (if P then .warn else .pass) (.ofFindings ruleId explanation [] warnings) ↔
      (warnings ≠ [] ↔ P) := by
  rw [agree_iff]
  by_cases hP : P <;> simp [hP, ValidationResult.ofFindings]

/-- The context of a request that sets nothing of it. -/
def defaultContext : JsonDict :=
  [("require_reconciled", .bool false), ("min_confidence", .float (1 / 2)),
    ("required_evidence_types", .arr []), ("required_states", .arr []), ("min_evidence", .int 1)]

theorem buildRuleContext_default (scope : ValidationScope) (target : ValidationTarget) :
    buildRuleContext { scope := scope, target := target } = defaultContext := rfl

section Dimensions
variable (objects graph) in
/-- In the default context the rule never warns, and fails in one case. -/
def FailsWhen (rule : W3ValidationRule) (Q : Prop) : Prop :=
  ∃ ruleId explanation failures, rule.validate objects graph defaultContext =
    .ok (.ofFindings ruleId explanation failures []) ∧ (failures ≠ [] ↔ Q)

variable (objects graph) in
/-- In the default context the rule never fails, and warns in one case. -/
def WarnsWhen (rule : W3ValidationRule) (Q : Prop) : Prop :=
  ∃ ruleId explanation warnings, rule.validate objects graph defaultContext =
    .ok (.ofFindings ruleId explanation [] warnings) ∧ (warnings ≠ [] ↔ Q)

variable {scope : ValidationScope} {target : ValidationTarget} {rule : ValidationRule}
  {w3Rule : W3ValidationRule} {P : ControlObject → Prop} [DecidablePred P] {Q : Prop}

theorem agreeOn_fail (hfirst : ∃ result, rule.validate objects graph [] = .ok result ∧
      result.verdict = if ∃ obj ∈ objects, P obj then .fail else .pass)
    (hw3 : FailsWhen objects graph w3Rule (∃ obj ∈ objects, P obj)) :
    AgreeOn graph objects scope target (rule, w3Rule) := by
  obtain ⟨ruleId, explanation, failures, hrun, hfailures⟩ := hw3
  refine ⟨_, hrun, ?_⟩
  rw [verdict_eq hfirst, agree_fail_iff, hfailures]

theorem agreeOn_warn_iff (hfirst : ∃ result, rule.validate objects graph [] = .ok result ∧
      result.verdict = if ∃ obj ∈ objects, P obj then .warn else .pass)
    (hw3 : WarnsWhen objects graph w3Rule Q) :
    AgreeOn graph objects scope target (rule, w3Rule) ↔ (Q ↔ ∃ obj ∈ objects, P obj) := by
  obtain ⟨ruleId, explanation, warnings, hrun, hwarnings⟩ := hw3
  rw [← hwarnings, ← agree_warn_iff, ← verdict_eq hfirst]
  constructor
  · rintro ⟨result, hresult, hagree⟩
    rw [buildRuleContext_default, hrun] at hresult
    rwa [← Except.ok.inj hresult] at hagree
  · exact fun h => ⟨_, hrun, h⟩

variable (str : Json → String) (uc : Unicode)

theorem agreeOn_schema : AgreeOn graph objects scope target
    (schemaValidationRule uc, w3SchemaValidityRule uc) := by
  apply agreeOn_fail (P := fun obj =>
    strStrip uc obj.label.toList = [] ∨ strStrip uc obj.domain.toList = [])
  · apply firstFault_ok
    · intro obj h
      by_cases hlabel : strStrip uc obj.label.toList = []
      · simp [hlabel]
      · simp [hlabel, h.resolve_left hlabel]
    · intro obj h
      simp_all
  · refine ⟨_, _, _, rfl, ?_⟩
    simp [List.flatMap_eq_nil_iff, or_iff_not_imp_left]

theorem agreeOn_graphCompleteness : AgreeOn graph objects scope target
    (graphCompletenessRule, w3GraphCompletenessRule) := by
  have hfirst : ∃ result, graphCompletenessRule.validate objects graph [] = .ok result ∧
      result.verdict = if ∃ obj ∈ objects, graph.getLinksForObject obj.id "both" none = []
        then .warn else .pass := by
    apply firstFault_ok <;> simp_all
  rw [agreeOn_warn_iff hfirst]
  refine ⟨_, _, _, rfl, ?_⟩
  have hflag : Json.flag defaultContext "require_graph_links" = false := rfl
  simp [hflag, List.filter_eq_nil_iff]

theorem agreeOn_evidenceSufficiency : AgreeOn graph objects scope target
    (evidenceSufficiencyRule 1, w3EvidenceSufficiencyRule str) := by
  have hcast (obj : ControlObject) :
      (obj.evidence.length : ℚ) < ((1 : ℤ) : ℚ) ↔ (obj.evidence.length : ℤ) < 1 := by
    exact_mod_cast Iff.rfl
  obtain ⟨found, hrun, hfound⟩ := collected objects
    (f := evidenceFailures str (.int 1) (.arr [])) (P := fun obj => (obj.evidence.length : ℤ) < 1)
    (fun obj h => ⟨_, by simp only [evidenceFailures, Json.exceeds, hcast, h]; rfl⟩)
    (fun obj h => by simp only [evidenceFailures, Json.exceeds, hcast, h]; rfl)
  apply agreeOn_fail (P := fun obj => (obj.evidence.length : ℤ) < 1)
  · apply firstFault_ok <;> simp_all
  · have hw3 : (w3EvidenceSufficiencyRule str).validate objects graph defaultContext =
        .ok (.ofFindings "w3-evidence-sufficiency" "Evidence sufficiency check" found.flatten
          []) := by
      show (objects.mapM (evidenceFailures str (.int 1) (.arr [])) >>= _) = _
      rw [hrun]
      rfl
    exact ⟨_, _, _, hw3, hfound⟩

theorem agreeOn_provenance : AgreeOn graph objects scope target
    (provenanceRule, w3ProvenanceIntegrityRule) := by
  apply agreeOn_fail (P := fun obj => obj.provenance.createdBy = "")
  · apply firstFault_ok <;> simp_all
  · refine ⟨_, _, _, rfl, ?_⟩
    simp [List.filter_eq_nil_iff]

theorem agreeOn_reconciliationState : AgreeOn graph objects scope target
    (reconciliationStateRule, w3ReconciliationStateRule) := by
  have hflag : Json.flag defaultContext "require_reconciled" = false := rfl
  apply agreeOn_fail (P := fun obj => obj.state = .disputed)
  · apply firstFault_ok <;> simp_all [Json.flag, Json.field, Json.truthy]
  · refine ⟨_, _, _, rfl, ?_⟩
    simp [List.flatMap_eq_nil_iff, hflag]

theorem agreeOn_contradiction : AgreeOn graph objects scope target
    (contradictoryEvidenceRule, w3ContradictionCheckRule) := by
  apply agreeOn_fail (P := fun obj =>
    graph.getLinksForObject obj.id "both" (some .contradicts) ≠ [])
  · apply firstFault_ok <;> simp_all
  · refine ⟨_, _, _, rfl, ?_⟩
    simp [List.flatMap_eq_nil_iff]

theorem agreeOn_confidence : AgreeOn graph objects scope target
    (confidenceRule str (1 / 2), w3ConfidenceThresholdRule str) := by
  obtain ⟨found, hrun, hfound⟩ := collected objects
    (f := confidenceFailures str (.float (1 / 2))) (P := fun obj => obj.confidence < 1 / 2)
    (fun obj h => ⟨_, by simp only [confidenceFailures, Json.exceeds, h]; rfl⟩)
    (fun obj h => by simp only [confidenceFailures, Json.exceeds, h]; rfl)
  apply agreeOn_fail (P := fun obj => obj.confidence < 1 / 2)
  · apply firstFault_ok
    · intro obj h
      exact ⟨_, by rw [if_pos h]⟩
    · intro obj h
      rw [if_neg h]
  · have hw3 : (w3ConfidenceThresholdRule str).validate objects graph defaultContext =
        .ok (.ofFindings "w3-confidence-threshold" "Confidence threshold check" found.flatten
          []) := by
      show (objects.mapM (confidenceFailures str (.float (1 / 2))) >>= _) = _
      rw [hrun]
      rfl
    exact ⟨_, _, _, hw3, hfound⟩

theorem agreeOn_determinism_iff : AgreeOn graph objects scope target
    (determinismRule, w3DeterministicReproducibilityRule) ↔
      ∀ obj ∈ objects, ¬ (obj.provenance.creationMethod = .modelAssisted ∧ modelless obj) := by
  have hnever (obj : ControlObject) :
      creationMethodStr obj.provenance.creationMethod ≠ "model_assisted" := by
    cases obj.provenance.creationMethod <;> decide
  have hfirst : ∃ result, determinismRule.validate objects graph [] = .ok result ∧
      result.verdict = if ∃ obj ∈ objects,
        obj.provenance.creationMethod = .modelAssisted ∧ modelless obj then .warn else .pass := by
    apply firstFault_ok <;> simp_all
  rw [agreeOn_warn_iff (Q := False) hfirst]
  · simp
  · refine ⟨_, _, _, rfl, ?_⟩
    simp [hnever]

/-- An empty list of states holds none, so that every object is kept. -/
theorem filterM_others : objects.filterM (fun obj => not <$> (Json.arr []).contains obj.state.value) =
    .ok objects := by
  have haux (l acc : List ControlObject) :
      l.filterAuxM (fun obj => not <$> (Json.arr []).contains obj.state.value) acc =
        .ok (l.reverse ++ acc) := by
    induction l generalizing acc with
    | nil => rfl
    | cons obj l ih =>
      show l.filterAuxM _ (obj :: acc) = _
      rw [ih, List.reverse_cons, List.append_assoc, List.singleton_append]
  rw [List.filterM, haux]
  show Except.ok (objects.reverse ++ []).reverse = _
  rw [List.append_nil, List.reverse_reverse]

/-- The first chain falls back on two states, the second on none. -/
theorem agreeOn_actionPreconditions_iff (hne : objects ≠ []) : AgreeOn graph objects scope target
    (actionPreconditionsRule str, w3ActionPreconditionRule str) ↔
      ∃ obj ∈ objects, obj.state ≠ .frozen ∧ obj.state ≠ .reconciled := by
  have hlisted (state : ControlState) : defaultRequiredStates.contains state.value =
      .ok (state = .frozen ∨ state = .reconciled) := by
    cases state <;> rfl
  have hfirst : ∃ result, (actionPreconditionsRule str).validate objects graph [] = .ok result ∧
      result.verdict = if ∃ obj ∈ objects, obj.state ≠ .frozen ∧ obj.state ≠ .reconciled
        then .warn else .pass := by
    apply firstFault_ok
    · intro obj h
      refine ⟨unexpectedState str defaultRequiredStates obj, ?_⟩
      show (defaultRequiredStates.contains obj.state.value >>= _) = _
      rw [hlisted, decide_eq_false (not_or.mpr h)]
      rfl
    · intro obj h
      have hstate : obj.state = .frozen ∨ obj.state = .reconciled := by tauto
      show (defaultRequiredStates.contains obj.state.value >>= _) = _
      rw [hlisted, decide_eq_true hstate]
      rfl
  have hw3 : ∃ warnings, (w3ActionPreconditionRule str).validate objects graph defaultContext =
      .ok (.ofFindings "w3-action-precondition" "Action precondition check" [] warnings) ∧
        (warnings ≠ [] ↔ objects ≠ []) := by
    refine ⟨objects.map fun obj =>
      { ruleId := some "w3-action-precondition"
        objectId := some obj.id
        description := unexpectedState str (.arr []) obj }, ?_, by rw [Ne, List.map_eq_nil_iff]⟩
    show (objects.filterM (fun obj => not <$> (Json.arr []).contains obj.state.value) >>= _) = _
    rw [filterM_others]
    rfl
  rw [agreeOn_warn_iff hfirst ⟨_, _, hw3⟩]
  simp [hne]

end Dimensions

/-! ### Both chains -/

/-- The chains agree in every dimension exactly when no object is model-assisted without a model and
some object is neither frozen nor reconciled. -/
theorem agreeOn_all_iff {str : Json → String} {uc : Unicode} {scope : ValidationScope}
    {target : ValidationTarget} (hne : objects ≠ []) :
    (∀ p ∈ rulePairs str uc, AgreeOn graph objects scope target p) ↔
      (∀ obj ∈ objects, ¬ (obj.provenance.creationMethod = .modelAssisted ∧ modelless obj)) ∧
        ∃ obj ∈ objects, obj.state ≠ .frozen ∧ obj.state ≠ .reconciled := by
  simp only [rulePairs, List.forall_mem_cons, List.not_mem_nil, false_imp_iff, implies_true,
    and_true, agreeOn_schema, agreeOn_graphCompleteness, agreeOn_evidenceSufficiency,
    agreeOn_provenance, agreeOn_reconciliationState, agreeOn_contradiction, agreeOn_confidence,
    true_and, agreeOn_determinism_iff, agreeOn_actionPreconditions_iff str hne]

/-- An obligation that a model drafted, without saying which. -/
def draftedObligation : ControlObject :=
  { clauseObligation with
    provenance := { createdBy := "ada", creationMethod := .modelAssisted } }

def draftedGraph : InMemoryGraphRepository :=
  InMemoryGraphRepository.empty.storeObject draftedObligation

theorem agreeOn_all_iff_drafted :
    (∀ p ∈ rulePairs (fun _ => "") .ascii,
      AgreeOn draftedGraph [draftedObligation] { tenantId := "acme" } {} p) ↔
        (∀ obj ∈ [draftedObligation],
          ¬ (obj.provenance.creationMethod = .modelAssisted ∧ modelless obj)) ∧
          ∃ obj ∈ [draftedObligation], obj.state ≠ .frozen ∧ obj.state ≠ .reconciled :=
  agreeOn_all_iff (List.cons_ne_nil _ _)

/-- The first chain warns of it, the second does not. -/
theorem draftedObligation_disagrees : ¬ ∀ p ∈ rulePairs (fun _ => "") .ascii,
    AgreeOn draftedGraph [draftedObligation] { tenantId := "acme" } {} p := by
  intro h
  have hdeterminism := h (determinismRule, w3DeterministicReproducibilityRule) (by simp [rulePairs])
  have hmodel := agreeOn_determinism_iff.mp hdeterminism draftedObligation List.mem_cons_self
  exact hmodel ⟨rfl, rfl⟩

end ControlFabric.Fabric.Validation
