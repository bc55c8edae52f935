import ControlFabric.Fabric.ControlObject

/-! Records of the cross-plane reconciliation. The identifiers, hashes and time stamps that nothing
reads back, and the explanatory texts of rules and mismatches, are left out. -/
namespace ControlFabric.Fabric.Reconciliation
open Lib

/-- A `float` that calculations meet: a finite one, or an infinity or a NaN. -/
inductive PyFloat where
  | finite (q : ℚ)
  | nonFinite

/-- What the interpreter computes with values that may be `float`s or of any type. -/
structure ValueOps where
  /-- the `float` next to the exact result of an operation -/
  round : ℚ → ℚ
  /-- `float(text)`, `none` being a `ValueError` -/
  floatOfStr : String → Option PyFloat
  /-- `str(v)` -/
  str : Json → String

/-- Exact arithmetic, and texts that stand for no number. -/
def ValueOps.exact : ValueOps where
  round := id
  floatOfStr _ := none
  str
    | .str s => s
    | _ => ""

inductive ReconciliationOutcomeType where
  | fullyReconciled
  | candidateMatch
  | mismatchDetected
  | duplicateDetected
  | coverageGap
  | disputed
  | insufficientEvidence
  deriving DecidableEq

def ReconciliationOutcomeType.value : ReconciliationOutcomeType → String
  | fullyReconciled => "fully-reconciled"
  | candidateMatch => "candidate-match"
  | mismatchDetected => "mismatch-detected"
  | duplicateDetected => "duplicate-detected"
  | coverageGap => "coverage-gap"
  | disputed => "disputed"
  | insufficientEvidence => "insufficient-evidence"

inductive ReconciliationCasePriority where
  | critical
  | high
  | medium
  | low
  deriving DecidableEq

inductive CrossPlaneMismatchCategory where
  | missingInCommercial
  | missingInField
  | missingInService
  | identifierConflict
  | stateConflict
  | quantityConflict
  | costConflict
  | servicePresenceConflict
  | chronologyConflict
  | unsupportedLinkage
  | duplicateCandidate
  | evidenceInsufficient
  deriving DecidableEq

/-- `MISSING_CATEGORY_BY_PLANE[plane]`, which every plane has. -/
def missingCategoryByPlane : PlaneType → CrossPlaneMismatchCategory
  | .commercial => .missingInCommercial
  | .field => .missingInField
  | .service => .missingInService

structure ReconciliationScope where
  planes : List PlaneType
  domains : List String := []
  objectKinds : List String := []
  tenantId : String

structure ReconciliationTarget where
  objectIds : List String := []
  graphSliceRootIds : List String := []

/-- A mismatch as a rule or a check describes it. -/
structure MismatchReport where
  category : CrossPlaneMismatchCategory
  sourceObjectId : Option String := none
  targetObjectId : Option String := none
  sourcePlane : Option PlaneType := none
  targetPlane : Option PlaneType := none
  involvedLinkIds : List String := []
  ruleId : Option String := none
  deriving DecidableEq

structure ReconciliationMismatch extends MismatchReport where
  id : String
  deriving DecidableEq

/-- `max_possible` and `weighted_total` of a score breakdown. -/
structure MatchScoreBreakdown where
  weightedTotal : ℚ := 0
  maxPossible : ℚ := 0
  deriving DecidableEq

def MatchScoreBreakdown.normalizedScore (ops : ValueOps) (b : MatchScoreBreakdown) : ℚ :=
  if b.maxPossible ≤ 0 then 0 else min (ops.round (b.weightedTotal / b.maxPossible)) 1

structure MatchCandidate where
  sourceObjectId : String
  targetObjectId : String
  sourcePlane : PlaneType
  targetPlane : PlaneType
  score : ℚ := 0
  scoreBreakdown : MatchScoreBreakdown := {}
  matchMethod : String := ""
  confidence : ℚ := 0
  mismatches : List ReconciliationMismatch := []
  deriving DecidableEq

structure CandidateRanking where
  sourceObjectId : String
  rankedCandidates : List MatchCandidate
  topScore : ℚ
  isAmbiguous : Bool
  ambiguityGap : ℚ

structure DuplicateCandidateSet where
  sourceObjectId : String
  duplicateTargetIds : List String
  scores : List ℚ

structure CoverageGap where
  plane : PlaneType
  expectedObjectKind : String
  expectedCount : ℤ
  actualCount : ℤ
  missingCount : ℤ
  description : String
  deriving DecidableEq

structure ExpectedPlaneCoverage where
  plane : PlaneType
  expectedObjectKinds : List String := []
  minObjectsPerKind : List (String × ℤ) := []

structure CoverageExpectationResult where
  gaps : List CoverageGap := []
  isFullyCovered : Bool := true

structure EvidenceSufficiencyResult where
  objectId : String
  isSufficient : Bool
  missingEvidenceTypes : List String

/-- `duplicate_target_ids` stands in the metadata. -/
structure ReconciliationOutcome where
  outcomeType : ReconciliationOutcomeType
  sourceObjectId : Option String := none
  targetObjectId : Option String := none
  candidate : Option MatchCandidate := none
  mismatches : List ReconciliationMismatch := []
  coverageGap : Option CoverageGap := none
  confidence : ℚ := 0
  duplicateTargetIds : List String := []
  deriving DecidableEq

structure ReconciliationCase where
  tenantId : String
  priority : ReconciliationCasePriority
  outcome : ReconciliationOutcome
  involvedObjectIds : List String
  involvedPlanes : List PlaneType
  domain : String
  description : String

structure ReconciliationSummary where
  tenantId : String
  totalObjectsEvaluated : ℕ
  totalCandidatesGenerated : ℕ
  totalMatches : ℕ
  totalMismatches : ℕ
  totalDuplicates : ℕ
  totalCoverageGaps : ℕ
  totalInsufficientEvidence : ℕ
  totalCasesCreated : ℕ
  outcomeCounts : Dict String ℕ
  planesReconciled : List PlaneType
  domainsReconciled : List String

structure ReconciliationAssemblyInput where
  candidates : List MatchCandidate
  rankings : List CandidateRanking
  duplicates : List DuplicateCandidateSet
  coverageResult : CoverageExpectationResult
  evidenceResults : List EvidenceSufficiencyResult
  mismatches : List ReconciliationMismatch

structure ReconciliationRequest where
  tenantId : String
  scope : ReconciliationScope
  target : ReconciliationTarget
  matchThreshold : ℚ := 7 / 10
  duplicateThreshold : ℚ := 1 / 20
  coverageExpectations : List ExpectedPlaneCoverage := []

structure ReconciliationExecutionPlan where
  scope : ReconciliationScope
  target : ReconciliationTarget
  planesToReconcile : List PlaneType
  ruleIdsToApply : List String
  matchThreshold : ℚ
  duplicateThreshold : ℚ
  coverageExpectations : List ExpectedPlaneCoverage

structure ReconciliationExecutionResult where
  outcomes : List ReconciliationOutcome
  cases : List ReconciliationCase
  summary : ReconciliationSummary
  executionPlan : ReconciliationExecutionPlan

end ControlFabric.Fabric.Reconciliation
