import ControlFabric.Reconciliation.Matching
import ControlFabric.Fabric.Service

/-! The orchestrator of a reconciliation run: it fetches the objects and links a request selects,
and leads them through the stages. Stored runs and cases and the audit events are left out. -/
namespace ControlFabric.Fabric.Reconciliation
open Lib

namespace ReconciliationCaseFactory

def derivePriority (outcome : ReconciliationOutcome) : ReconciliationCasePriority :=
  match outcome.outcomeType with
  | .fullyReconciled => .low
  | .duplicateDetected => .high
  | .coverageGap => .medium
  | .insufficientEvidence => .medium
  | .mismatchDetected =>
    if outcome.mismatches.any fun m => m.category = .costConflict then .high else .medium
  | .disputed => .critical
  | .candidateMatch => .medium

def deriveDescription (outcome : ReconciliationOutcome) : String :=
  let otype := outcome.outcomeType.value
  let mismatchCount := outcome.mismatches.length
  match outcome.sourceObjectId, outcome.targetObjectId, outcome.coverageGap with
  | some source, some target, _ => s!"{otype}: {source} ↔ {target} ({mismatchCount} mismatches)"
  | _, _, some gap => s!"{otype}: {gap.description}"
  | _, _, none => s!"{otype}: {mismatchCount} mismatches"

def createCase (tenantId : String) (outcome : ReconciliationOutcome) (domain : String) :
    ReconciliationCase where
  tenantId := tenantId
  priority := derivePriority outcome
  outcome := outcome
  involvedObjectIds := outcome.sourceObjectId.toList ++ outcome.targetObjectId.toList
  involvedPlanes :=
    match outcome.candidate with
    | none => []
    | some c => if c.sourcePlane = c.targetPlane then [c.sourcePlane]
      else [c.sourcePlane, c.targetPlane]
  domain := domain
  description := deriveDescription outcome

end ReconciliationCaseFactory

/-- What `_fetch_graph_data` returns. -/
structure GraphData where
  sourceObjects : List ControlObject
  targetObjects : List ControlObject
  links : List ControlLink

structure ReconciliationOrchestrator where
  graph : GraphService
  ruleRegistry : ReconciliationRuleRegistry
  matchThreshold : ℚ := 7 / 10
  duplicateGapThreshold : ℚ := 1 / 20

namespace ReconciliationScope

/-- `planes[0]`, or the default. -/
def sourcePlane (scope : ReconciliationScope) : PlaneType := scope.planes.head?.getD .commercial

/-- `planes[1]`, or the default. -/
def targetPlane (scope : ReconciliationScope) : PlaneType := (scope.planes[1]?).getD .field

end ReconciliationScope

namespace ReconciliationOrchestrator

/-! ### Fetching -/

/-- The links of the tenant with an end among the objects. -/
def relevantLinks (repo : InMemoryGraphRepository) (tenantId : String) (ids : List String) :
    List ControlLink :=
  (repo.getAllLinks tenantId).filter fun l => l.sourceId ∈ ids ∨ l.targetId ∈ ids

/-- The objects of the first plane and the others, when two planes are named. -/
def splitByPlane (planes : List PlaneType) (allObjects : List ControlObject)
    (links : List ControlLink) : GraphData :=
  match planes with
  | sourcePlane :: _ :: _ =>
    { sourceObjects := allObjects.filter fun o => o.plane = sourcePlane
      targetObjects := allObjects.filter fun o => o.plane ≠ sourcePlane
      links := links }
  | _ => { sourceObjects := allObjects, targetObjects := [], links := links }

/-- The objects named by their identifiers, as far as they are stored. -/
def fetchByIds (repo : InMemoryGraphRepository) (scope : ReconciliationScope)
    (objectIds : List String) : GraphData :=
  let allObjects := objectIds.filterMap repo.objects.get?
  splitByPlane scope.planes allObjects
    (relevantLinks repo scope.tenantId (allObjects.map ControlObject.id))

/-- The objects of a slice, which `get_typed_graph_slice` names by their identifiers. -/
def fetchSlice (repo : InMemoryGraphRepository) (scope : ReconciliationScope)
    (objectIds : List String) : GraphData :=
  splitByPlane scope.planes (objectIds.filterMap repo.objects.get?)
    (relevantLinks repo scope.tenantId objectIds)

/-- The objects of the tenant on one plane, filtered by the first of the domains. -/
def listSide (repo : InMemoryGraphRepository) (scope : ReconciliationScope) (plane : PlaneType) :
    List ControlObject :=
  let objects := repo.listObjects scope.tenantId (some plane) scope.domains.head? none none
  if scope.objectKinds ≠ [] then objects.filter fun o => o.objectKind ∈ scope.objectKinds
  else objects

def fetchByFilters (repo : InMemoryGraphRepository) (scope : ReconciliationScope) : GraphData where
  sourceObjects := listSide repo scope scope.sourcePlane
  targetObjects := listSide repo scope scope.targetPlane
  links := repo.getAllLinks scope.tenantId

/-- `_fetch_graph_data`; `none` when the fuel of the slice runs out. -/
def fetchGraphData (fuel : ℕ) (repo : InMemoryGraphRepository) (request : ReconciliationRequest) :
    Option GraphData :=
  let planes := request.scope.planes
  if request.target.graphSliceRootIds ≠ [] then
    (repo.getGraphSlice fuel request.target.graphSliceRootIds 5
      (if planes = [] then none else some planes) none).map fun slice =>
        fetchSlice repo request.scope (slice.1.map ControlObject.id)
  else if request.target.objectIds ≠ [] then
    some (fetchByIds repo request.scope request.target.objectIds)
  else some (fetchByFilters repo request.scope)

/-! ### Execution -/

section Execute
variable (rt : Runtime) (ops : ValueOps) (o : ReconciliationOrchestrator) (n : ℕ)
  (request : ReconciliationRequest) (d : GraphData)

def objectsById : Dict String ControlObject :=
  (d.sourceObjects ++ d.targetObjects).foldl (fun objects obj => objects.set obj.id obj) Dict.empty

def candidates : List MatchCandidate :=
  CandidateGenerator.generate d.sourceObjects d.targetObjects d.links

def scoredCandidates : List MatchCandidate :=
  CandidateScorer.scoreAll rt ops o.ruleRegistry (objectsById d) d.links n (candidates d)

def duplicates : List DuplicateCandidateSet :=
  DuplicateDetector.detect ops o.duplicateGapThreshold (o.scoredCandidates rt ops n d)

def rankings : List CandidateRanking :=
  DuplicateDetector.buildRankings ops o.duplicateGapThreshold (o.scoredCandidates rt ops n d)

def matched : List MatchCandidate := (o.scoredCandidates rt ops n d).filter fun c => 0 < c.score

/-- The missing objects and the identifier conflicts. -/
def extraReports : List MismatchReport :=
  MismatchClassifier.classifyMissingObjects d.sourceObjects d.targetObjects
      ((o.matched rt ops n d).map MatchCandidate.sourceObjectId)
      ((o.matched rt ops n d).map MatchCandidate.targetObjectId)
      request.scope.sourcePlane request.scope.targetPlane ++
    MismatchClassifier.classifyIdentifierConflicts d.sourceObjects d.targetObjects

/-- The draw after those of the mismatches that rules report. -/
def extraDraw : ℕ :=
  n + ((o.scoredCandidates rt ops n d).map fun c => c.mismatches.length).sum

/-- The draw after those of the mismatches of the classifier. -/
def assemblyDraw : ℕ := o.extraDraw rt ops n d + (o.extraReports rt ops n request d).length

def assemblyInput : ReconciliationAssemblyInput where
  candidates := o.scoredCandidates rt ops n d
  rankings := o.rankings rt ops n d
  duplicates := o.duplicates rt ops n d
  coverageResult :=
    CoverageAnalyzer.analyze (d.sourceObjects ++ d.targetObjects) request.coverageExpectations
  evidenceResults :=
    EvidenceSufficiencyEvaluator.getInsufficient [] (d.sourceObjects ++ d.targetObjects)
  mismatches := buildMismatches rt (o.extraDraw rt ops n d) (o.extraReports rt ops n request d)

def outcomes : List ReconciliationOutcome :=
  ReconciliationAssembler.assemble rt o.matchThreshold (o.assemblyDraw rt ops n request d)
    (o.assemblyInput rt ops n request d)

/-- A full reconciliation without mismatches needs no case. -/
def needsCase (outcome : ReconciliationOutcome) : Bool :=
  ¬ (outcome.outcomeType = .fullyReconciled ∧ outcome.mismatches = [])

def cases : List ReconciliationCase :=
  ((o.outcomes rt ops n request d).filter needsCase).map fun outcome =>
    ReconciliationCaseFactory.createCase request.tenantId outcome
      (request.scope.domains.head?.getD "")

def buildExecutionPlan : ReconciliationExecutionPlan where
  scope := request.scope
  target := request.target
  planesToReconcile := request.scope.planes
  ruleIdsToApply := o.ruleRegistry.listRules.map ReconciliationRule.ruleId
  matchThreshold := request.matchThreshold
  duplicateThreshold := request.duplicateThreshold
  coverageExpectations := request.coverageExpectations

def reconcile : ReconciliationExecutionResult where
  outcomes := o.outcomes rt ops n request d
  cases := o.cases rt ops n request d
  summary :=
    { ReconciliationAssembler.summarize (o.assemblyInput rt ops n request d)
        (o.outcomes rt ops n request d) request.tenantId request.scope.planes
        request.scope.domains with
      totalObjectsEvaluated := d.sourceObjects.length + d.targetObjects.length
      totalCasesCreated := (o.cases rt ops n request d).length }
  executionPlan := o.buildExecutionPlan request

/-- `execute`, with `fuel` for the search of a slice; its mismatches are drawn from `n` on. -/
def execute (fuel : ℕ) : Option ReconciliationExecutionResult :=
  (fetchGraphData fuel o.graph.repo request).map (o.reconcile rt ops n request)

end Execute
end ReconciliationOrchestrator
end ControlFabric.Fabric.Reconciliation
