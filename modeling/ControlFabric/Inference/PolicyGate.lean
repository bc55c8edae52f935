import ControlFabric.Inference.DomainTypes

/-! The policy gate before any inference: the rules of a plane are tried in insertion order, and the
first that does not abstain decides. -/
namespace ControlFabric.Inference
open Lib Py

/-- Sets of strings are listed in iteration order. -/
structure PolicyRule where
  ruleId : String
  policyId : String
  policyVersion : String
  allowedPlanes : List String
  allowedRequestingEntities : Option (List String)
  deniedRequestingEntities : List String
  allowedHypothesisTypes : List String
  maxControlObjectsPerRequest : ℤ
  maxGraphDepth : ℤ
  allowedDataClassification : String
  allowedRelationshipTypes : List String

/-- The rules by their identifiers. -/
structure PolicyStore where
  rules : Dict String PolicyRule

namespace PolicyStore

def empty : PolicyStore := ⟨Dict.empty⟩

def addRule (store : PolicyStore) (rule : PolicyRule) : PolicyStore :=
  ⟨store.rules.set rule.ruleId rule⟩

def getRulesForPlane (store : PolicyStore) (plane : String) : List PolicyRule :=
  store.rules.values.filter fun r => plane ∈ r.allowedPlanes

end PolicyStore

def buildDefaultPolicyStore : PolicyStore :=
  (PolicyStore.empty.addRule
    { ruleId := "POL-001"
      policyId := "governance-standard"
      policyVersion := "1.0.0"
      allowedPlanes := ["risk", "compliance", "security", "operations", "audit"]
      allowedRequestingEntities := none
      deniedRequestingEntities := []
      allowedHypothesisTypes := ["remediation_suggestion", "gap_analysis", "conflict_resolution",
        "risk_assessment", "compliance_mapping", "pattern_detection"]
      maxControlObjectsPerRequest := 50
      maxGraphDepth := 3
      allowedDataClassification := "internal"
      allowedRelationshipTypes := ["mitigates", "satisfies", "implements", "violates", "requires",
        "depends_on"] }).addRule
    { ruleId := "POL-002"
      policyId := "governance-restricted"
      policyVersion := "1.0.0"
      allowedPlanes := ["financial", "legal", "executive"]
      allowedRequestingEntities := some ["senior-analyst", "compliance-officer"]
      deniedRequestingEntities := []
      allowedHypothesisTypes := ["risk_assessment", "compliance_mapping"]
      maxControlObjectsPerRequest := 10
      maxGraphDepth := 2
      allowedDataClassification := "confidential"
      allowedRelationshipTypes := ["mitigates", "satisfies", "requires"] }

/-- The arguments of one `evaluate`. -/
structure GateQuery where
  requestingEntityId : String
  targetOperationalPlane : String
  hypothesisTypeRequested : String
  targetControlObjectIds : List String

namespace PolicyGate
variable (rt : Runtime) (n : ℕ)

def deny (policyId policyVersion reason : String) : PolicyGateResult :=
  PolicyGateResult.computeSignature rt
    { decision := .deny
      policyId := policyId
      policyVersion := policyVersion
      evaluatedAt := rt.now n
      denialReason := some reason
      scopeParameters := none
      gateSignature := ""
      allow_scope := by simp
      deny_reason := by simp }

def allow (policyId policyVersion : String) (scope : ScopeParameters) : PolicyGateResult :=
  PolicyGateResult.computeSignature rt
    { decision := .allow
      policyId := policyId
      policyVersion := policyVersion
      evaluatedAt := rt.now n
      denialReason := none
      scopeParameters := some scope
      gateSignature := ""
      allow_scope := by simp
      deny_reason := by simp }

/-- `_evaluate_rule`; `none` when the rule abstains. -/
def evaluateRule (rule : PolicyRule) (q : GateQuery) :
    Except PyError (Option PolicyGateResult) :=
  if q.requestingEntityId ∈ rule.deniedRequestingEntities then
    .ok (some (deny rt n rule.policyId rule.policyVersion
      s!"Entity {q.requestingEntityId} explicitly denied"))
  else if ∃ allowed ∈ rule.allowedRequestingEntities, q.requestingEntityId ∉ allowed then
    .ok none
  else if q.hypothesisTypeRequested ∉ rule.allowedHypothesisTypes then
    .ok (some (deny rt n rule.policyId rule.policyVersion
      s!"Hypothesis type '{q.hypothesisTypeRequested}' not permitted"))
  else if rule.maxControlObjectsPerRequest < q.targetControlObjectIds.length then
    .ok (some (deny rt n rule.policyId rule.policyVersion
      s!"Too many objects: {q.targetControlObjectIds.length} > {rule.maxControlObjectsPerRequest}"))
  else do
    let scope ← ScopeParameters.new rt q.targetControlObjectIds [q.targetOperationalPlane]
      rule.maxGraphDepth rule.allowedRelationshipTypes rule.allowedDataClassification
    return some (allow rt n rule.policyId rule.policyVersion scope)

/-- The rules still to try. -/
def evaluateRules (q : GateQuery) : List PolicyRule → Except PyError PolicyGateResult
  | [] => .ok (deny rt n "default-deny" "1.0.0"
      "Request did not satisfy any applicable policy rule")
  | rule :: rest => do
    match ← evaluateRule rt n rule q with
    | some result => return result
    | none => evaluateRules q rest

def evaluate (store : PolicyStore) (q : GateQuery) : Except PyError PolicyGateResult :=
  let applicableRules := store.getRulesForPlane q.targetOperationalPlane
  if applicableRules = [] then
    .ok (deny rt n "no-applicable-policy" "0.0.0"
      s!"No policy for plane: {q.targetOperationalPlane}")
  else evaluateRules rt n q applicableRules

end PolicyGate

/-! ### What a rule does -/

/-- How a rule that does not abstain ends the evaluation. -/
inductive RuleOutcome where
  | deny
  | allow
  | raise
  deriving DecidableEq

namespace PolicyRule

def Admits (rule : PolicyRule) (q : GateQuery) : Prop :=
  ∀ allowed ∈ rule.allowedRequestingEntities, q.requestingEntityId ∈ allowed

def Limits (rule : PolicyRule) (q : GateQuery) : Prop :=
  q.hypothesisTypeRequested ∈ rule.allowedHypothesisTypes ∧
    (q.targetControlObjectIds.length : ℤ) ≤ rule.maxControlObjectsPerRequest

def DepthValid (rule : PolicyRule) : Prop := 1 ≤ rule.maxGraphDepth ∧ rule.maxGraphDepth ≤ 5

instance (rule : PolicyRule) (q : GateQuery) : Decidable (rule.Admits q) :=
  inferInstanceAs (Decidable (∀ _ ∈ _, _))

instance (rule : PolicyRule) (q : GateQuery) : Decidable (rule.Limits q) :=
  inferInstanceAs (Decidable (_ ∧ _))

instance (rule : PolicyRule) : Decidable rule.DepthValid := inferInstanceAs (Decidable (_ ∧ _))

/-- What the rule says to a query, `none` if it abstains. -/
def outcome (q : GateQuery) (rule : PolicyRule) : Option RuleOutcome :=
  if q.requestingEntityId ∈ rule.deniedRequestingEntities then some .deny
  else if ¬ rule.Admits q then none
  else if ¬ rule.Limits q then some .deny
  else if rule.DepthValid then some .allow else some .raise

end PolicyRule

/-- The decision of an evaluation, `none` if it raises. -/
def decisionOf (r : Except PyError PolicyGateResult) : Option PolicyDecision :=
  r.toOption.map PolicyGateResult.decision

def RuleOutcome.decision : RuleOutcome → Option PolicyDecision
  | .deny => some .deny
  | .allow => some .allow
  | .raise => none

theorem RuleOutcome.decision_injective : Function.Injective RuleOutcome.decision := by
  rintro (_ | _ | _) (_ | _ | _) h <;> first | rfl | cases h

namespace PolicyGate
variable (rt : Runtime) (n : ℕ)

/-- The scope that the rule gives a query. -/
def ruleScope (rule : PolicyRule) (q : GateQuery) : Except PyError ScopeParameters :=
  ScopeParameters.new rt q.targetControlObjectIds [q.targetOperationalPlane] rule.maxGraphDepth
    rule.allowedRelationshipTypes rule.allowedDataClassification

theorem evaluateRule_cases (rule : PolicyRule) (q : GateQuery) :
    (rule.outcome q = none ∧ evaluateRule rt n rule q = .ok none) ∨
      (rule.outcome q = some .deny ∧ ∃ policyId policyVersion reason,
        evaluateRule rt n rule q = .ok (some (deny rt n policyId policyVersion reason))) ∨
      (rule.outcome q = some .allow ∧ ∃ scope, ruleScope rt rule q = .ok scope ∧
        evaluateRule rt n rule q =
          .ok (some (allow rt n rule.policyId rule.policyVersion scope))) ∨
      rule.outcome q = some .raise ∧ ∃ e, evaluateRule rt n rule q = .error e := by
  have hadmits : (∃ allowed ∈ rule.allowedRequestingEntities, q.requestingEntityId ∉ allowed) ↔
      ¬ rule.Admits q := by
    simp [PolicyRule.Admits]
  unfold evaluateRule PolicyRule.outcome
  simp only [hadmits]
  by_cases hdenied : q.requestingEntityId ∈ rule.deniedRequestingEntities
  · rw [if_pos hdenied, if_pos hdenied]
    exact Or.inr (Or.inl ⟨rfl, _, _, _, rfl⟩)
  rw [if_neg hdenied, if_neg hdenied]
  by_cases ha : rule.Admits q
  · rw [if_neg (not_not.mpr ha), if_neg (not_not.mpr ha)]
    by_cases htype : q.hypothesisTypeRequested ∈ rule.allowedHypothesisTypes
    · rw [if_neg (not_not.mpr htype)]
      by_cases hmany : rule.maxControlObjectsPerRequest < q.targetControlObjectIds.length
      · have hlimits : ¬ rule.Limits q := fun h => absurd h.2 (not_le.mpr hmany)
        rw [if_pos hmany, if_pos hlimits]
        exact Or.inr (Or.inl ⟨rfl, _, _, _, rfl⟩)
      · have hlimits : rule.Limits q := ⟨htype, not_lt.mp hmany⟩
        rw [if_neg hmany, if_neg (not_not.mpr hlimits), ruleScope]
        by_cases hdepth : rule.DepthValid
        · have hdepth' : 1 ≤ rule.maxGraphDepth ∧ rule.maxGraphDepth ≤ 5 := hdepth
          rw [if_pos hdepth, ScopeParameters.new, dif_pos hdepth']
          exact Or.inr (Or.inr (Or.inl ⟨rfl, _, rfl, rfl⟩))
        · have hdepth' : ¬ (1 ≤ rule.maxGraphDepth ∧ rule.maxGraphDepth ≤ 5) := hdepth
          rw [if_neg hdepth, ScopeParameters.new, dif_neg hdepth']
          refine Or.inr (Or.inr (Or.inr ⟨rfl, ?_⟩))
          split <;> exact ⟨_, rfl⟩
    · have hlimits : ¬ rule.Limits q := fun h => htype h.1
      rw [if_pos htype, if_pos hlimits]
      exact Or.inr (Or.inl ⟨rfl, _, _, _, rfl⟩)
  · rw [if_pos ha, if_pos ha]
    exact Or.inl ⟨rfl, rfl⟩

/-- The first of the rules that does not abstain. -/
def decidingRule (q : GateQuery) (rules : List PolicyRule) : Option PolicyRule :=
  rules.find? fun rule => (rule.outcome q).isSome

theorem decidingRule_cons {q : GateQuery} {rule : PolicyRule} {rest : List PolicyRule} :
    decidingRule q (rule :: rest) =
      if (rule.outcome q).isSome then some rule else decidingRule q rest := by
  rw [decidingRule, List.find?_cons]
  cases (rule.outcome q).isSome <;> rfl

/-- The end of an evaluation: denied by a rule or for want of one, allowed with the scope of the
deciding rule, or raised because this scope is invalid. -/
theorem evaluateRules_cases (q : GateQuery) (rules : List PolicyRule) :
    ((∀ rule ∈ decidingRule q rules, rule.outcome q = some .deny) ∧
        ∃ policyId policyVersion reason,
          evaluateRules rt n q rules = .ok (deny rt n policyId policyVersion reason)) ∨
      (∃ rule ∈ decidingRule q rules, rule.outcome q = some .allow ∧
        ∃ scope, ruleScope rt rule q = .ok scope ∧
          evaluateRules rt n q rules = .ok (allow rt n rule.policyId rule.policyVersion scope)) ∨
      ∃ rule ∈ decidingRule q rules, rule.outcome q = some .raise ∧
        ∃ e, evaluateRules rt n q rules = .error e := by
  induction rules with
  | nil => exact Or.inl ⟨fun _ h => absurd h (Option.not_mem_none _), _, _, _, rfl⟩
  | cons rule rest ih =>
    rw [decidingRule_cons, evaluateRules]
    rcases evaluateRule_cases rt n rule q with ⟨ho, hr⟩ | ⟨ho, policyId, version, reason, hr⟩ |
      ⟨ho, scope, hscope, hr⟩ | ⟨ho, e, hr⟩
    · rw [ho, hr]
      exact ih
    · rw [ho, hr, if_pos Option.isSome_some]
      refine Or.inl ⟨?_, policyId, version, reason, rfl⟩
      intro r hmem
      rw [← Option.some.inj hmem]
      exact ho
    · rw [ho, hr, if_pos Option.isSome_some]
      exact Or.inr (Or.inl ⟨rule, rfl, ho, scope, hscope, rfl⟩)
    · rw [ho, hr, if_pos Option.isSome_some]
      exact Or.inr (Or.inr ⟨rule, rfl, ho, e, rfl⟩)

theorem evaluate_cases (store : PolicyStore) (q : GateQuery) :
    let deciding := decidingRule q (store.getRulesForPlane q.targetOperationalPlane)
    ((∀ rule ∈ deciding, rule.outcome q = some .deny) ∧ ∃ policyId policyVersion reason,
        evaluate rt n store q = .ok (deny rt n policyId policyVersion reason)) ∨
      (∃ rule ∈ deciding, rule.outcome q = some .allow ∧
        ∃ scope, ruleScope rt rule q = .ok scope ∧
          evaluate rt n store q = .ok (allow rt n rule.policyId rule.policyVersion scope)) ∨
      ∃ rule ∈ deciding, rule.outcome q = some .raise ∧
        ∃ e, evaluate rt n store q = .error e := by
  intro deciding
  unfold evaluate
  by_cases hnone : store.getRulesForPlane q.targetOperationalPlane = []
  · rw [if_pos hnone]
    refine Or.inl ⟨?_, _, _, _, rfl⟩
    rw [show deciding = none by rw [show deciding = decidingRule q _ from rfl, hnone]; rfl]
    exact fun _ h => absurd h (Option.not_mem_none _)
  · rw [if_neg hnone]
    exact evaluateRules_cases rt n q _

/-- The first rule that does not abstain decides; if there is none, the request is denied. -/
def firstDecision (q : GateQuery) (rules : List PolicyRule) : Option PolicyDecision :=
  ((rules.findSome? (PolicyRule.outcome q)).map RuleOutcome.decision).getD (some .deny)

theorem decisionOf_evaluateRules (q : GateQuery) (rules : List PolicyRule) :
    decisionOf (evaluateRules rt n q rules) = firstDecision q rules := by
  unfold firstDecision
  induction rules with
  | nil => rfl
  | cons rule rest ih =>
    rw [List.findSome?_cons, evaluateRules]
    rcases evaluateRule_cases rt n rule q with ⟨ho, hr⟩ | ⟨ho, policyId, version, reason, hr⟩ |
      ⟨ho, scope, hscope, hr⟩ | ⟨ho, e, hr⟩
    · rw [ho, hr]
      exact ih
    · rw [ho, hr]
      rfl
    · rw [ho, hr]
      rfl
    · rw [ho, hr]
      rfl

theorem decisionOf_evaluate (store : PolicyStore) (q : GateQuery) :
    decisionOf (evaluate rt n store q) =
      firstDecision q (store.getRulesForPlane q.targetOperationalPlane) := by
  unfold evaluate
  by_cases hnone : store.getRulesForPlane q.targetOperationalPlane = []
  · rw [if_pos hnone, hnone]
    rfl
  · rw [if_neg hnone]
    exact decisionOf_evaluateRules rt n q _

end PolicyGate

/-! ### The order of the rules -/

/-- Two stores with the same rules, inserted in possibly different orders. -/
def PolicyStore.SameRules (store store' : PolicyStore) : Prop :=
  store.rules.entries.Perm store'.rules.entries

/-- The rules a query is put to. -/
def PolicyStore.applicable (store : PolicyStore) (q : GateQuery) : List PolicyRule :=
  store.getRulesForPlane q.targetOperationalPlane

theorem PolicyStore.SameRules.applicable {store store' : PolicyStore}
    (h : store.SameRules store') (q : GateQuery) :
    (store.applicable q).Perm (store'.applicable q) := (h.map Prod.snd).filter _

/-- The first of the rules that does not abstain does not deny either. -/
def Overruled (q : GateQuery) (rules : List PolicyRule) : Prop :=
  ∃ pre r post, rules = pre ++ r :: post ∧ (∀ d ∈ pre, d.outcome q = none) ∧
    ∃ o, r.outcome q = some o ∧ o ≠ .deny

/-- All applicable rules that do not abstain end alike. -/
def PolicyStore.Unanimous (store : PolicyStore) (q : GateQuery) : Prop :=
  ∀ r ∈ store.applicable q, ∀ r' ∈ store.applicable q, ∀ o ∈ r.outcome q,
    ∀ o' ∈ r'.outcome q, o = o'

theorem overruled_iff {q : GateQuery} {rules : List PolicyRule} :
    Overruled q rules ↔ ∃ o, rules.findSome? (PolicyRule.outcome q) = some o ∧ o ≠ .deny := by
  simp only [List.findSome?_eq_some_iff]
  constructor
  · rintro ⟨pre, r, post, hrules, hpre, o, ho, hne⟩
    exact ⟨o, ⟨pre, r, post, hrules, ho, hpre⟩, hne⟩
  · rintro ⟨o, ⟨pre, r, post, hrules, ho, hpre⟩, hne⟩
    exact ⟨pre, r, post, hrules, hpre, o, ho, hne⟩

theorem firstDecision_perm {q : GateQuery} {rules rules' : List PolicyRule}
    (hperm : rules.Perm rules')
    (h : ∀ r ∈ rules, ∀ r' ∈ rules, ∀ o ∈ r.outcome q, ∀ o' ∈ r'.outcome q, o = o') :
    PolicyGate.firstDecision q rules' = PolicyGate.firstDecision q rules := by
  have hfind : rules'.findSome? (PolicyRule.outcome q) = rules.findSome? (PolicyRule.outcome q) := by
    cases ho : rules.findSome? (PolicyRule.outcome q) with
    | none =>
      rw [List.findSome?_eq_none_iff] at ho ⊢
      exact fun r hr => ho r (hperm.mem_iff.mpr hr)
    | some o =>
      cases ho' : rules'.findSome? (PolicyRule.outcome q) with
      | none =>
        obtain ⟨r, hr, hro⟩ := List.exists_of_findSome?_eq_some ho
        have hnone := List.findSome?_eq_none_iff.mp ho' r (hperm.mem_iff.mp hr)
        rw [hro] at hnone
        cases hnone
      | some o' =>
        obtain ⟨r, hr, hro⟩ := List.exists_of_findSome?_eq_some ho
        obtain ⟨r', hr', hro'⟩ := List.exists_of_findSome?_eq_some ho'
        rw [h r' (hperm.mem_iff.mpr hr') r hr o' hro' o hro]
  rw [PolicyGate.firstDecision, hfind, PolicyGate.firstDecision]

/-- Any rule of a store may come first. -/
theorem PolicyStore.exists_first {store : PolicyStore} {q : GateQuery} {r : PolicyRule}
    (hr : r ∈ store.applicable q) :
    ∃ store', store.SameRules store' ∧ ∃ rest, store'.applicable q = r :: rest := by
  obtain ⟨hmem, hplane⟩ := List.mem_filter.mp hr
  obtain ⟨p, hp, rfl⟩ := List.mem_map.mp hmem
  obtain ⟨pre, post, hentries⟩ := List.append_of_mem hp
  have hperm : store.rules.entries.Perm (p :: (pre ++ post)) := by
    rw [hentries]
    exact List.perm_middle
  refine ⟨⟨store.rules.reorder _ hperm⟩, hperm, ((pre ++ post).map Prod.snd).filter
    fun r => q.targetOperationalPlane ∈ r.allowedPlanes, ?_⟩
  exact List.filter_cons_of_pos (a := p.2) (l := (pre ++ post).map Prod.snd)
    (p := fun r : PolicyRule => decide (q.targetOperationalPlane ∈ r.allowedPlanes)) hplane

namespace PolicyGate
variable (rt : Runtime) (n : ℕ)

/-- An explicit denial holds against every rule inserted behind it: it fails exactly when, among the
rules before it, the first that does not abstain does not deny. And the decision is the same for
every order of insertion exactly when the applicable rules that do not abstain end alike. -/
theorem evaluate_order (store : PolicyStore) (q : GateQuery) :
    (∀ pre r post, store.applicable q = pre ++ r :: post →
      q.requestingEntityId ∈ r.deniedRequestingEntities →
      (decisionOf (evaluate rt n store q) = some .deny ↔ ¬ Overruled q pre)) ∧
    ((∀ store', store.SameRules store' →
        decisionOf (evaluate rt n store' q) = decisionOf (evaluate rt n store q)) ↔
      store.Unanimous q) := by
  constructor
  · intro pre r post hrules hdenied
    have hr : r.outcome q = some .deny := by
      unfold PolicyRule.outcome
      rw [if_pos hdenied]
    rw [decisionOf_evaluate, firstDecision, ← PolicyStore.applicable, hrules, overruled_iff,
      List.findSome?_append, List.findSome?_cons, hr]
    cases pre.findSome? (PolicyRule.outcome q) with
    | none => simp [RuleOutcome.decision]
    | some o => cases o <;> simp [RuleOutcome.decision]
  · constructor
    · intro h r hr r' hr' o ho o' ho'
      obtain ⟨first, hfirst, rest, hrest⟩ := PolicyStore.exists_first hr
      obtain ⟨first', hfirst', rest', hrest'⟩ := PolicyStore.exists_first hr'
      have hsame := (h first hfirst).trans (h first' hfirst').symm
      rw [decisionOf_evaluate, decisionOf_evaluate, ← PolicyStore.applicable,
        ← PolicyStore.applicable, hrest, hrest', firstDecision, firstDecision, List.findSome?_cons,
        List.findSome?_cons, ho, ho'] at hsame
      exact RuleOutcome.decision_injective hsame
    · intro h store' hsame
      rw [decisionOf_evaluate, decisionOf_evaluate]
      exact firstDecision_perm (hsame.applicable q) h

/-- A rule for the risk plane that lets everybody but the denied ask for a risk assessment. -/
def riskRule (ruleId : String) (denied : List String) : PolicyRule where
  ruleId := ruleId
  policyId := ruleId
  policyVersion := "1.0.0"
  allowedPlanes := ["risk"]
  allowedRequestingEntities := none
  deniedRequestingEntities := denied
  allowedHypothesisTypes := ["risk_assessment"]
  maxControlObjectsPerRequest := 10
  maxGraphDepth := 2
  allowedDataClassification := "internal"
  allowedRelationshipTypes := []

/-- The rules of an open and of a restricted policy, in either order. -/
def openFirst : PolicyStore :=
  (PolicyStore.empty.addRule (riskRule "open" [])).addRule (riskRule "restricted" ["mallory"])

def restrictedFirst : PolicyStore :=
  (PolicyStore.empty.addRule (riskRule "restricted" ["mallory"])).addRule (riskRule "open" [])

def malloryQuery : GateQuery := ⟨"mallory", "risk", "risk_assessment", ["obj-1"]⟩

theorem evaluate_order_mallory :
    (∀ pre r post, openFirst.applicable malloryQuery = pre ++ r :: post →
      malloryQuery.requestingEntityId ∈ r.deniedRequestingEntities →
      (decisionOf (evaluate .reference 0 openFirst malloryQuery) = some .deny ↔
        ¬ Overruled malloryQuery pre)) ∧
    ((∀ store', openFirst.SameRules store' →
        decisionOf (evaluate .reference 0 store' malloryQuery) =
          decisionOf (evaluate .reference 0 openFirst malloryQuery)) ↔
      openFirst.Unanimous malloryQuery) :=
  evaluate_order .reference 0 openFirst malloryQuery

/-- The open rule, inserted first, allows the query that the other rule denies explicitly. -/
theorem evaluate_depends_on_order :
    (∃ r ∈ openFirst.applicable malloryQuery,
      malloryQuery.requestingEntityId ∈ r.deniedRequestingEntities) ∧
    openFirst.SameRules restrictedFirst ∧
    decisionOf (evaluate .reference 0 openFirst malloryQuery) = some .allow ∧
    decisionOf (evaluate .reference 0 restrictedFirst malloryQuery) = some .deny := by
  have happlicable : openFirst.applicable malloryQuery =
      [riskRule "open" [], riskRule "restricted" ["mallory"]] := rfl
  refine ⟨⟨riskRule "restricted" ["mallory"], ?_, List.mem_singleton_self _⟩, ?_, ?_, ?_⟩
  · rw [happlicable]
    exact List.mem_cons_of_mem _ (List.mem_singleton_self _)
  · exact List.Perm.swap _ _ _
  · rw [decisionOf_evaluate]
    rfl
  · rw [decisionOf_evaluate]
    rfl

end PolicyGate
end ControlFabric.Inference
