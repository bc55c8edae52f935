import ControlFabric.Reconciliation.DomainTypes
import Mathlib.Data.List.Perm.Basic

/-! The rules a pair of objects is scored with: the base class, the nine default rules and the registry,
and the rules of the domain packs. -/
namespace ControlFabric.Fabric.Reconciliation
open Lib

/-! ### Values -/

/-- The number a value is compared as, a truth value being 0 or 1. -/
def numberOf : Json → Option ℚ
  | .bool b => some (if b then 1 else 0)
  | .int n => some n
  | .float q => some q
  | _ => none

/-! `a == b`, on values, lists and the items of dicts. -/
mutual

def valueEq : Json → Json → Bool
  | .null, .null => true
  | .str s, .str t => s = t
  | .arr l, .arr m => itemsEq l m
  | .obj d, .obj e => d.length = e.length && fieldsEq d e
  | a, b => (numberOf a).isSome && numberOf a = numberOf b

def itemsEq : List Json → List Json → Bool
  | [], [] => true
  | a :: l, b :: m => valueEq a b && itemsEq l m
  | _, _ => false

/-- The second dict has an equal value for each item of the first. -/
def fieldsEq : List (String × Json) → List (String × Json) → Bool
  | [], _ => true
  | (key, a) :: d, e =>
    (match Json.field e key with
      | some b => valueEq a b
      | none => false) && fieldsEq d e

end

/-- `d.get(key)` where an item with the value `None` is as good as none. -/
def presentField (d : JsonDict) (key : String) : Option Json :=
  match Json.field d key with
  | some .null => none
  | v => v

/-- `d.get(key)` of a dict of texts. -/
def textField (d : List (String × String)) (key : String) : Option String :=
  (d.find? fun p => p.1 = key).map Prod.snd

/-- `float(v)`, `none` being a `ValueError` or a `TypeError`. Integers are within its range. -/
def floatOf (ops : ValueOps) : Json → Option PyFloat
  | .bool b => some (.finite (if b then 1 else 0))
  | .int n => some (.finite (ops.round n))
  | .float q => some (.finite q)
  | .str s => ops.floatOfStr s
  | _ => none

/-- `abs(a - b) <= tolerance`. -/
def PyFloat.within (ops : ValueOps) (tolerance : ℚ) : PyFloat → PyFloat → Bool
  | .finite a, .finite b => |ops.round (a - b)| ≤ tolerance
  | _, _ => false

/-! ### Rules -/

structure ReconciliationRuleWeight where
  weight : ℚ
  isHardFail : Bool := false
  requiredForMatch : Bool := false

structure ReconciliationRuleApplicability where
  applicablePlanes : List PlaneType := []
  applicableObjectTypes : List ControlObjectType := []
  applicableObjectKinds : List String := []
  requiresCrossPlane : Bool := false

namespace ReconciliationRuleApplicability
variable (a : ReconciliationRuleApplicability)

def matchesPlanes (sourcePlane targetPlane : PlaneType) : Bool :=
  a.applicablePlanes = [] ∨ sourcePlane ∈ a.applicablePlanes ∨ targetPlane ∈ a.applicablePlanes

/-- The declared kinds are not asked for. -/
def isApplicable (source target : ControlObject) : Bool :=
  if ¬ a.matchesPlanes source.plane target.plane then false
  else if a.requiresCrossPlane ∧ source.plane = target.plane then false
  else if a.applicableObjectTypes ≠ [] ∧ source.objectType ∉ a.applicableObjectTypes ∧
    target.objectType ∉ a.applicableObjectTypes then false
  else true

end ReconciliationRuleApplicability

structure ReconciliationRuleResult where
  scoreContribution : ℚ := 0
  matched : Bool := false
  hardFail : Bool := false
  mismatches : List MismatchReport := []

/-- A rule, which a domain pack may have written. -/
structure ReconciliationRule where
  ruleId : String
  weight : ReconciliationRuleWeight
  applicability : ReconciliationRuleApplicability := {}
  isApplicable : ControlObject → ControlObject → Bool := applicability.isApplicable
  evaluate : ControlObject → ControlObject → List ControlLink → ReconciliationRuleResult

def pairMismatch (category : CrossPlaneMismatchCategory) (ruleId : String)
    (source target : ControlObject) : MismatchReport where
  category := category
  sourceObjectId := some source.id
  targetObjectId := some target.id
  sourcePlane := some source.plane
  targetPlane := some target.plane
  ruleId := some ruleId

section Default
variable (ops : ValueOps)

/-- A rule that counts the texts two objects share, each worth `share` of the weight. -/
def correlationRule (ruleId : String) (weight : ReconciliationRuleWeight)
    (applicability : ReconciliationRuleApplicability) (share : ℚ)
    (texts : ControlObject → List (String × String)) : ReconciliationRule where
  ruleId := ruleId
  weight := weight
  applicability := applicability
  evaluate source target _ :=
    let matching := (texts source).filter fun p =>
      textField (texts target) p.1 = some p.2 ∧ p.2 ≠ ""
    if matching ≠ [] then
      let score := min (ops.round (matching.length * ops.round share)) 1
      { scoreContribution := ops.round (score * weight.weight), matched := true }
    else {}

def identityCorrelationRule : ReconciliationRule :=
  correlationRule ops "identity-correlation" { weight := ops.round 2, requiredForMatch := true }
    { requiresCrossPlane := true } (1 / 2) ControlObject.correlationKeys

def externalReferenceCorrelationRule : ReconciliationRule :=
  correlationRule ops "external-reference-correlation" { weight := ops.round (3 / 2) } {} (2 / 5)
    ControlObject.externalRefs

/-- `SCORING_LINK_TYPES.get(link_type, 0.3)`. -/
def scoringLinkTypes : ControlLinkType → ℚ
  | .correlatesWith => ops.round (4 / 5)
  | .fulfills => ops.round (9 / 10)
  | .billsFor => ops.round (9 / 10)
  | .derivesFrom => ops.round (3 / 5)
  | .evidences => ops.round (1 / 2)
  | .implements => ops.round (7 / 10)
  | _ => ops.round (3 / 10)

def isBetween (source target : ControlObject) (link : ControlLink) : Bool :=
  link.sourceId = source.id ∧ link.targetId = target.id ∨
    link.sourceId = target.id ∧ link.targetId = source.id

def topologyLinkageRule : ReconciliationRule where
  ruleId := "topology-linkage"
  weight := { weight := ops.round (9 / 5) }
  evaluate source target links :=
    let relevantLinks := links.filter (isBetween source target)
    let bestScore := relevantLinks.foldl
      (fun best l => max best (scoringLinkTypes ops l.linkType)) 0
    let unsupported := relevantLinks.filter fun l =>
      l.linkType = .contradicts ∨ l.linkType = .blocks
    if unsupported ≠ [] then
      { hardFail := true
        mismatches := [{ pairMismatch .unsupportedLinkage "topology-linkage" source target with
          involvedLinkIds := unsupported.map ControlLink.id }] }
    else if relevantLinks ≠ [] then
      { scoreContribution := ops.round (bestScore * ops.round (9 / 5)), matched := true }
    else {}

def stateAlignmentRule : ReconciliationRule where
  ruleId := "state-alignment"
  weight := { weight := ops.round 1 }
  applicability := { requiresCrossPlane := true }
  evaluate source target _ :=
    if source.state = target.state then
      { scoreContribution := ops.round (1 * ops.round 1), matched := true }
    else
      let payloadStateSrc := (Json.field source.payload "state").getD (.str source.state.value)
      let payloadStateTgt := (Json.field target.payload "state").getD (.str target.state.value)
      if ¬ valueEq payloadStateSrc payloadStateTgt then
        { mismatches := [pairMismatch .stateConflict "state-alignment" source target] }
      else { scoreContribution := ops.round (ops.round (1 / 2) * ops.round 1), matched := true }

/-- A rule that compares a number in the payloads. -/
def numericAlignmentRule (ruleId : String) (weight : ReconciliationRuleWeight)
    (category : CrossPlaneMismatchCategory) (field : String) (tolerance : ℚ) :
    ReconciliationRule where
  ruleId := ruleId
  weight := weight
  evaluate source target _ :=
    match presentField source.payload field, presentField target.payload field with
    | some src, some tgt =>
      match floatOf ops src, floatOf ops tgt with
      | some s, some t =>
        if s.within ops tolerance t then
          { scoreContribution := ops.round (1 * weight.weight), matched := true }
        else { mismatches := [pairMismatch category ruleId source target] }
      | _, _ => {}
    | _, _ => {}

def quantityAlignmentRule (quantityField : String) (tolerance : ℚ) : ReconciliationRule :=
  numericAlignmentRule ops "quantity-alignment" { weight := ops.round (6 / 5) } .quantityConflict
    quantityField tolerance

def costAlignmentRule (costField : String) (threshold : ℚ) : ReconciliationRule :=
  numericAlignmentRule ops "cost-alignment" { weight := ops.round (3 / 2) } .costConflict costField
    threshold

def chronologyAlignmentRule (dateField : String) : ReconciliationRule where
  ruleId := "chronology-alignment"
  weight := { weight := ops.round (4 / 5) }
  evaluate source target _ :=
    match presentField source.payload dateField, presentField target.payload dateField with
    | some src, some tgt =>
      if ops.str src = ops.str tgt then
        { scoreContribution := ops.round (1 * ops.round (4 / 5)), matched := true }
      else { mismatches := [pairMismatch .chronologyConflict "chronology-alignment" source target] }
    | _, _ => {}

/-- The target is not asked for. -/
def coverageExpectationRule : ReconciliationRule where
  ruleId := "coverage-expectation"
  weight := { weight := ops.round 1 }
  evaluate source _ links :=
    if links.any fun l => (l.sourceId = source.id ∨ l.targetId = source.id) ∧ l.isCrossPlane then
      { scoreContribution := ops.round (1 * ops.round 1), matched := true }
    else {}

def evidenceSufficiencyRule (requiredEvidenceTypes : List String) : ReconciliationRule where
  ruleId := "evidence-sufficiency"
  weight := { weight := ops.round (4 / 5) }
  evaluate source target _ :=
    let allEvidence := source.evidence ++ target.evidence
    let sufficient : ReconciliationRuleResult :=
      { scoreContribution := ops.round (1 * ops.round (4 / 5)), matched := true }
    let insufficient : ReconciliationRuleResult :=
      { mismatches := [pairMismatch .evidenceInsufficient "evidence-sufficiency" source target] }
    if requiredEvidenceTypes = [] then
      if allEvidence ≠ [] then sufficient else insufficient
    else if requiredEvidenceTypes.filter (· ∉ allEvidence.map EvidenceRef.evidenceType) ≠ [] then
      insufficient
    else sufficient

def defaultWave2Rules : List ReconciliationRule :=
  [identityCorrelationRule ops, externalReferenceCorrelationRule ops, topologyLinkageRule ops,
    stateAlignmentRule ops, quantityAlignmentRule ops "quantity" 0,
    costAlignmentRule ops "cost" (ops.round (1 / 100)),
    chronologyAlignmentRule ops "effective_date", coverageExpectationRule ops,
    evidenceSufficiencyRule ops []]

end Default

/-! ### The registry -/

structure ReconciliationRuleRegistry where
  rules : Dict String ReconciliationRule

namespace ReconciliationRuleRegistry

def empty : ReconciliationRuleRegistry := ⟨Dict.empty⟩

def registerRule (registry : ReconciliationRuleRegistry) (rule : ReconciliationRule) :
    ReconciliationRuleRegistry := ⟨registry.rules.set rule.ruleId rule⟩

def listRules (registry : ReconciliationRuleRegistry) : List ReconciliationRule :=
  registry.rules.values

def getApplicableRules (registry : ReconciliationRuleRegistry) (source target : ControlObject) :
    List ReconciliationRule := registry.listRules.filter fun r => r.isApplicable source target

/-- Rules with different identifiers are listed as they were registered. -/
theorem listRules_foldl {rules : List ReconciliationRule} {registry : ReconciliationRuleRegistry}
    (hnew : ∀ r ∈ rules, r.ruleId ∉ registry.rules)
    (hnodup : (rules.map ReconciliationRule.ruleId).Nodup) :
    (rules.foldl registerRule registry).listRules = registry.listRules ++ rules := by
  induction rules generalizing registry with
  | nil => simp
  | cons rule rules ih =>
    obtain ⟨hrule, hrules⟩ := List.forall_mem_cons.mp hnew
    obtain ⟨hfresh, hnodup⟩ := List.nodup_cons.mp hnodup
    have hentries := Dict.entries_set_new hrule rule
    have hlist : (registry.registerRule rule).listRules = registry.listRules ++ [rule] := by
      show List.map Prod.snd _ = _
      rw [registerRule, hentries, List.map_append]
      rfl
    rw [List.foldl_cons, ih _ hnodup, hlist, List.append_assoc, List.singleton_append]
    intro r hr hmem
    rcases Dict.mem_set.mp hmem with heq | hold
    · exact hfresh (heq ▸ List.mem_map_of_mem hr)
    · exact hrules r hr hold

end ReconciliationRuleRegistry

def buildDefaultRuleRegistry (ops : ValueOps) : ReconciliationRuleRegistry :=
  (defaultWave2Rules ops).foldl .registerRule .empty

theorem listRules_default (ops : ValueOps) :
    (buildDefaultRuleRegistry ops).listRules = defaultWave2Rules ops := by
  have hnodup : ((defaultWave2Rules ops).map ReconciliationRule.ruleId).Nodup := by
    show ["identity-correlation", "external-reference-correlation", "topology-linkage",
      "state-alignment", "quantity-alignment", "cost-alignment", "chronology-alignment",
      "coverage-expectation", "evidence-sufficiency"].Nodup
    decide
  exact ReconciliationRuleRegistry.listRules_foldl (fun _ _ => Dict.not_mem_empty _) hnodup

/-! ### Rules and the order of the links -/

/-- The same contribution, and mismatches of the same categories. -/
structure ReconciliationRuleResult.Agrees (r r' : ReconciliationRuleResult) : Prop where
  scoreContribution : r.scoreContribution = r'.scoreContribution
  hardFail : r.hardFail = r'.hardFail
  categories : r.mismatches.map MismatchReport.category = r'.mismatches.map MismatchReport.category

theorem ReconciliationRuleResult.Agrees.refl (r : ReconciliationRuleResult) : r.Agrees r :=
  ⟨rfl, rfl, rfl⟩

/-- The order in which the links are given does not matter to the rule. -/
def ReconciliationRule.OrderBlind (rule : ReconciliationRule) : Prop :=
  ∀ source target links links', List.Perm links links' →
    (rule.evaluate source target links).Agrees (rule.evaluate source target links')

section OrderBlind
variable (ops : ValueOps)

/-- A rule that does not read the links. -/
theorem orderBlind_of_const {rule : ReconciliationRule}
    (h : ∀ source target links links',
      rule.evaluate source target links = rule.evaluate source target links') :
    rule.OrderBlind := by
  intro source target links links' _
  rw [h source target links links']
  exact .refl _

theorem topologyLinkageRule_orderBlind : (topologyLinkageRule ops).OrderBlind := by
  intro source target links links' hperm
  have hrelevant := hperm.filter (isBetween source target)
  have hbest : (links.filter (isBetween source target)).foldl
        (fun best l => max best (scoringLinkTypes ops l.linkType)) 0 =
      (links'.filter (isBetween source target)).foldl
        (fun best l => max best (scoringLinkTypes ops l.linkType)) 0 := by
    apply hrelevant.foldl_eq'
    intro l _ l' _ best
    exact max_right_comm best _ _
  have hunsupported := hrelevant.filter fun l => l.linkType = .contradicts ∨ l.linkType = .blocks
  have hnil {l l' : List ControlLink} (h : l.Perm l') : l = [] ↔ l' = [] := by
    rw [← List.length_eq_zero_iff, ← List.length_eq_zero_iff, h.length_eq]
  unfold topologyLinkageRule
  dsimp only
  by_cases hu : (links.filter (isBetween source target)).filter
      (fun l => l.linkType = .contradicts ∨ l.linkType = .blocks) = []
  · rw [if_neg (not_not.mpr hu), if_neg (not_not.mpr ((hnil hunsupported).mp hu)), hbest]
    by_cases hr : links.filter (isBetween source target) = []
    · rw [if_neg (not_not.mpr hr), if_neg (not_not.mpr ((hnil hrelevant).mp hr))]
      exact .refl _
    · rw [if_pos hr, if_pos (fun h => hr ((hnil hrelevant).mpr h))]
      exact .refl _
  · rw [if_pos hu, if_pos (fun h => hu ((hnil hunsupported).mpr h))]
    exact ⟨rfl, rfl, rfl⟩

theorem coverageExpectationRule_orderBlind : (coverageExpectationRule ops).OrderBlind := by
  intro source target links links' hperm
  unfold coverageExpectationRule
  dsimp only
  rw [hperm.any_eq]
  exact .refl _

theorem defaultWave2Rules_orderBlind : ∀ rule ∈ defaultWave2Rules ops, rule.OrderBlind := by
  intro rule hrule
  simp only [defaultWave2Rules, List.mem_cons, List.not_mem_nil, or_false] at hrule
  rcases hrule with rfl | rfl | rfl | rfl | rfl | rfl | rfl | rfl | rfl
  case inr.inr.inl => exact topologyLinkageRule_orderBlind ops
  case inr.inr.inr.inr.inr.inr.inr.inl => exact coverageExpectationRule_orderBlind ops
  all_goals exact orderBlind_of_const fun _ _ _ _ => rfl

end OrderBlind

/-! ### The rules of the domain packs -/

section DomainPacks
variable (ops : ValueOps)

/-- The cost rule with a name, a weight and a threshold of its own. -/
def contractMarginCostRule : ReconciliationRule where
  ruleId := "contract-margin-cost-alignment"
  weight := { weight := ops.round 2 }
  applicability :=
    { applicablePlanes := [.commercial, .field]
      applicableObjectKinds := ["rate_card_entry", "billable_event"]
      requiresCrossPlane := true }
  evaluate := (numericAlignmentRule ops "contract-margin-cost-alignment"
    { weight := ops.round 2 } .costConflict "rate" (ops.round (1 / 200))).evaluate

def telcoOpsStateAlignmentRule : ReconciliationRule where
  ruleId := "telco-ops-service-state-alignment"
  weight := { weight := ops.round (3 / 2) }
  applicability :=
    { applicablePlanes := [.service]
      applicableObjectKinds := ["incident_state", "service_state"] }
  evaluate source target _ :=
    match presentField source.payload "sla_status", presentField target.payload "sla_status" with
    | some srcSla, some tgtSla =>
      if ¬ valueEq srcSla tgtSla then
        { mismatches :=
            [pairMismatch .stateConflict "telco-ops-service-state-alignment" source target] }
      else
        let score := ops.round (1 * ops.round (3 / 2))
        { scoreContribution := score, matched := 0 < score }
    | _, _ => {}

/-- `source.payload.get(key, False) or target.payload.get(key, False)`, as a truth value. -/
def flaggedOnEither (key : String) (source target : ControlObject) : Bool :=
  ((Json.field source.payload key).getD (.bool false)).truthy ||
    ((Json.field target.payload key).getD (.bool false)).truthy

def utilitiesFieldCompletionRule : ReconciliationRule where
  ruleId := "utilities-field-completion-billing"
  weight := { weight := ops.round (9 / 5), isHardFail := true }
  applicability :=
    { applicablePlanes := [.field, .commercial]
      applicableObjectKinds := ["completion_certificate", "billable_event", "work_order"]
      requiresCrossPlane := true }
  evaluate source target _ :=
    let isCompleted := flaggedOnEither "is_completed" source target
    let isBilled := flaggedOnEither "is_billed" source target
    if isBilled ∧ ¬ isCompleted then
      { hardFail := true
        mismatches :=
          [pairMismatch .quantityConflict "utilities-field-completion-billing" source target] }
    else if isCompleted ∧ isBilled then
      { scoreContribution := ops.round (1 * ops.round (9 / 5)), matched := true }
    else {}

def domainPackReconciliationRules : List ReconciliationRule :=
  [contractMarginCostRule ops, telcoOpsStateAlignmentRule ops, utilitiesFieldCompletionRule ops]

def registerDomainPackReconciliationRules (registry : ReconciliationRuleRegistry) :
    ReconciliationRuleRegistry :=
  (domainPackReconciliationRules ops).foldl .registerRule registry

/-- The default rules and those of the domain packs. -/
def domainPackRuleRegistry : ReconciliationRuleRegistry :=
  registerDomainPackReconciliationRules ops (buildDefaultRuleRegistry ops)

theorem listRules_domainPacks :
    (domainPackRuleRegistry ops).listRules =
      defaultWave2Rules ops ++ domainPackReconciliationRules ops := by
  have hids : ((defaultWave2Rules ops ++ domainPackReconciliationRules ops).map
      ReconciliationRule.ruleId).Nodup := by
    show ["identity-correlation", "external-reference-correlation", "topology-linkage",
      "state-alignment", "quantity-alignment", "cost-alignment", "chronology-alignment",
      "coverage-expectation", "evidence-sufficiency", "contract-margin-cost-alignment",
      "telco-ops-service-state-alignment", "utilities-field-completion-billing"].Nodup
    decide
  have hfold : domainPackRuleRegistry ops =
      (defaultWave2Rules ops ++ domainPackReconciliationRules ops).foldl .registerRule .empty := by
    rw [List.foldl_append]
    rfl
  rw [hfold]
  exact ReconciliationRuleRegistry.listRules_foldl (fun _ _ => Dict.not_mem_empty _) hids

end DomainPacks

end ControlFabric.Fabric.Reconciliation
