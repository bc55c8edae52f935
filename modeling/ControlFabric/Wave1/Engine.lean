import ControlFabric.Fabric.Calls

/-! The first reconciliation engine: it compares pairs of objects of two planes by its rules, scores
the mismatches, and marks objects as reconciled. Identifiers, hashes and time stamps of its results,
which nothing reads back, are left out, as is the deviation of a mismatch. -/
namespace ControlFabric.Fabric.Wave1
open Lib Py Method

inductive MismatchCategory where
  | rateDeviation
  | scopeMismatch
  | quantityDiscrepancy
  | dateDiscrepancy
  | obligationUnmet
  | penaltyTriggered
  | duplicateCharge
  | missingEvidence
  | slaBreach
  | workNotCompleted
  | billingWithoutCompletion
  | scopeCreep
  | contradictoryState
  | provenanceGap
  deriving DecidableEq

inductive MismatchSeverity where
  | info
  | low
  | medium
  | high
  | critical
  deriving DecidableEq

structure Mismatch where
  category : MismatchCategory
  severity : MismatchSeverity
  sourceObjectId : String
  targetObjectId : String
  sourcePlane : PlaneType
  targetPlane : PlaneType
  description : String
  expectedValue : Json := .null
  actualValue : Json := .null
  evidence : List EvidenceRef := []
  ruleId : Option String := none
  metadata : JsonDict := []

/-- `metadata.get("financial_impact", 0.0)`. -/
def Mismatch.financialImpact (m : Mismatch) : Json :=
  (Json.field m.metadata "financial_impact").getD (.float 0)

/-- A rule, which the caller may have written. -/
structure ReconciliationRule where
  ruleId : String
  evaluate : ControlObject → ControlObject → Except PyError (List Mismatch)

structure EvidenceBundle where
  mismatches : List Mismatch := []
  supportingEvidence : List EvidenceRef := []
  sourceObjects : List String := []
  targetObjects : List String := []
  summary : String := ""

structure ReconciliationScore where
  overallScore : ℚ
  confidence : ℚ := 1
  mismatchCount : ℕ := 0
  criticalCount : ℕ := 0
  highCount : ℕ := 0
  mediumCount : ℕ := 0
  lowCount : ℕ := 0
  infoCount : ℕ := 0
  financialImpactTotal : ℚ := 0

inductive ReconciliationMode where
  | deterministic
  | assisted
  deriving DecidableEq

inductive ReconciliationStatus where
  | pending
  | inProgress
  | completed
  | failed
  | disputed
  deriving DecidableEq

structure ReconciliationResult where
  tenantId : String
  status : ReconciliationStatus := .completed
  mode : ReconciliationMode := .deterministic
  sourcePlane : PlaneType
  targetPlane : PlaneType
  domain : String
  evidenceBundle : EvidenceBundle
  score : ReconciliationScore

/-! ### Scoring -/

def severityWeights : MismatchSeverity → ℚ
  | .critical => 1
  | .high => 7 / 10
  | .medium => 4 / 10
  | .low => 2 / 10
  | .info => 0

/-- `round(q, digits)`, in exact arithmetic. -/
def roundDigits (q : ℚ) (digits : ℕ) : ℚ := roundHalfEven (q * 10 ^ digits) / 10 ^ digits

/-- `financial_total += m.financial_impact`, for each of the mismatches. -/
def financialTotal : ℚ → List Mismatch → Except PyError ℚ
  | total, [] => .ok total
  | total, m :: mismatches =>
    match m.financialImpact with
    | .bool b => financialTotal (total + if b then 1 else 0) mismatches
    | .int n => financialTotal (total + n) mismatches
    | .float q => financialTotal (total + q) mismatches
    | _ => .error (.typeError "unsupported operand type(s) for +=")

/-- `float(m.evidence[0].confidence) if m.evidence else 0.8`. -/
def evidenceConfidence (m : Mismatch) : ℚ :=
  match m.evidence with
  | [] => 8 / 10
  | first :: _ => first.confidence

def scoreMismatches (mismatches : List Mismatch) : Except PyError ReconciliationScore := do
  if mismatches = [] then
    return { overallScore := 1 }
  else
    let count (severity : MismatchSeverity) := mismatches.countP fun m => m.severity = severity
    let total ← financialTotal 0 mismatches
    let weightedSum := (mismatches.map fun m => severityWeights m.severity).sum
    let maxPossible : ℚ := mismatches.length
    let penalty := min (weightedSum / max maxPossible 1) 1
    let overall := max (1 - penalty) 0
    let avgConfidence := (mismatches.map evidenceConfidence).sum / mismatches.length
    return {
      overallScore := roundDigits overall 4
      confidence := roundDigits avgConfidence 4
      mismatchCount := mismatches.length
      criticalCount := count .critical
      highCount := count .high
      mediumCount := count .medium
      lowCount := count .low
      infoCount := count .info
      financialImpactTotal := roundDigits total 2 }

/-! ### Pairs -/

/-- `{obj.id: obj for obj in objects}`. -/
def objectMap (objects : List ControlObject) : Dict String ControlObject :=
  objects.foldl (fun objects obj => objects.set obj.id obj) Dict.empty

section Pairs
variable (sourceObjects targetObjects : List ControlObject)

/-- The pair of the objects with these identifiers, if both are among those to compare. -/
def pairOf (sourceId targetId : String) : List (ControlObject × ControlObject) :=
  match (objectMap sourceObjects).get? sourceId, (objectMap targetObjects).get? targetId with
  | some src, some tgt => [(src, tgt)]
  | _, _ => []

/-- The pairs of one link, which may lead from the source plane or to it. -/
def linkPairs (link : ControlLink) : List (ControlObject × ControlObject) :=
  if ¬ link.isCrossPlane then []
  else pairOf sourceObjects targetObjects link.sourceId link.targetId ++
    pairOf sourceObjects targetObjects link.targetId link.sourceId

/-- The pairs that have a correlation key in common, once for each of these. -/
def correlationPairs : List (ControlObject × ControlObject) :=
  sourceObjects.flatMap fun src =>
    src.correlationKeys.flatMap fun key =>
      (targetObjects.filter fun tgt =>
        (tgt.correlationKeys.find? fun p => p.1 = key.1).map Prod.snd = some key.2).map
          fun tgt => (src, tgt)

def findCrossPlanePairs (allLinks : List ControlLink) : List (ControlObject × ControlObject) :=
  let pairs := allLinks.flatMap (linkPairs sourceObjects targetObjects)
  if pairs = [] then correlationPairs sourceObjects targetObjects else pairs

end Pairs

/-! ### The engine -/

structure ReconciliationEngine where
  graph : GraphService
  rules : List ReconciliationRule

def markReconciled (rt : Runtime) (audit : AuditContext) : Method ControlObject Unit :=
  ControlObject.transitionState rt .reconciled audit

namespace ReconciliationEngine
variable (rt : Runtime)

def addRule (rule : ReconciliationRule) : Method ReconciliationEngine Unit :=
  assign fun engine => { engine with rules := engine.rules ++ [rule] }

/-- The mismatches of a pair, rule by rule. -/
def reconcilePair (rules : List ReconciliationRule) (source target : ControlObject) :
    Except PyError (List Mismatch) :=
  match rules with
  | [] => .ok []
  | rule :: rules => do
    let found ← rule.evaluate source target
    return found ++ (← reconcilePair rules source target)

/-- The mismatches of all pairs. -/
def reconcilePairs (rules : List ReconciliationRule) :
    List (ControlObject × ControlObject) → Except PyError (List Mismatch)
  | [] => .ok []
  | (src, tgt) :: pairs => do
    let found ← reconcilePair rules src tgt
    return found ++ (← reconcilePairs rules pairs)

/-- The last loop of a reconciliation, over the source objects. -/
def markFrozen (audit : AuditContext) : List ControlObject → Method GraphService Unit
  | [] => return ()
  | src :: sourceObjects => do
    if src.state = .frozen then
      let marked ← GraphService.callStored src (markReconciled rt audit)
      assign (GraphService.storeObject marked)
    markFrozen audit sourceObjects

def reconcileCrossPlane (tenantId : String) (sourcePlane targetPlane : PlaneType)
    (domain : String) : Method ReconciliationEngine ReconciliationResult := do
  let engine ← self
  let repo := engine.graph.repo
  let sourceObjects := repo.listObjects tenantId (some sourcePlane) (some domain) none none
  let targetObjects := repo.listObjects tenantId (some targetPlane) (some domain) none none
  let pairs := findCrossPlanePairs sourceObjects targetObjects (repo.getAllLinks tenantId)
  let mismatches ← lift (reconcilePairs engine.rules pairs)
  let score ← lift (scoreMismatches mismatches)
  let n ← draw
  on graph (fun graph engine => { engine with graph := graph })
    (markFrozen rt
      { actor := "reconciliation_engine", action := "reconciled", timestamp := rt.now n }
      sourceObjects)
  return {
    tenantId := tenantId
    sourcePlane := sourcePlane
    targetPlane := targetPlane
    domain := domain
    evidenceBundle :=
      { mismatches := mismatches
        sourceObjects := (pairs.map fun pair => pair.1.id).reverse.dedup.reverse
        targetObjects := (pairs.map fun pair => pair.2.id).reverse.dedup.reverse
        summary := s!"Reconciliation of {sourcePlane.value}↔{targetPlane.value} " ++
          s!"in domain '{domain}': {mismatches.length} mismatches found" }
    score := score }

end ReconciliationEngine
end ControlFabric.Fabric.Wave1
