import ControlFabric.Services.ControlFabricService
import ControlFabric.Reconciliation.DomainTypes
import ControlFabric.Lib.Dict
import ControlFabric.Py.Numbers

/-! The reconciliation engine over the control fabric of a tenant service: what it detects, the runs
it keeps and how conflicts are resolved. -/
namespace ControlFabric.Services
open Lib Py
open Fabric.Reconciliation (ValueOps)

inductive ConflictType where
  | contradiction
  | missingDependency
  | staleReference
  | confidenceDivergence
  | domainBoundaryViolation
  | circularDependency
  | authorizationGap
  | evidenceMismatch
  deriving DecidableEq

def ConflictType.value : ConflictType → String
  | contradiction => "contradiction"
  | missingDependency => "missing_dependency"
  | staleReference => "stale_reference"
  | confidenceDivergence => "confidence_divergence"
  | domainBoundaryViolation => "domain_boundary_violation"
  | circularDependency => "circular_dependency"
  | authorizationGap => "authorization_gap"
  | evidenceMismatch => "evidence_mismatch"

inductive ConflictSeverity where
  | info
  | warning
  | error
  | critical
  deriving DecidableEq

def ConflictSeverity.value : ConflictSeverity → String
  | info => "info"
  | warning => "warning"
  | error => "error"
  | critical => "critical"

inductive ConflictResolution where
  | autoResolved
  | manualRequired
  | escalated
  | suppressed
  | deferred
  | unresolved
  deriving DecidableEq

structure ReconciliationRunRequest where
  tenantId : String
  scopePlanes : List ControlPlane := []
  scopeDomains : List String := []
  includeRetired : Bool := false
  conflictTypes : List ConflictType := []
  metadata : JsonDict := []

/-- What a conflict says of the fabric. -/
structure Finding where
  conflictType : ConflictType
  severity : ConflictSeverity
  sourceObjectId : String
  targetObjectId : Option String
  sourcePlane : ControlPlane
  targetPlane : Option ControlPlane
  description : String
  deriving DecidableEq

structure Conflict extends Finding where
  id : String
  runId : String
  resolution : ConflictResolution
  resolutionDetail : Option String
  metadata : JsonDict
  createdAt : DateTime

structure ReconciliationRun where
  id : String
  tenantId : String
  status : String
  totalObjectsScanned : ℕ
  totalConflicts : ℕ
  conflictsByType : Dict String ℕ
  conflictsBySeverity : Dict String ℕ
  scopePlanes : List String
  scopeDomains : List String
  durationMs : ℚ
  metadata : JsonDict
  createdAt : DateTime

/-- A run with its conflicts. -/
structure ReconciliationRunResponse where
  run : ReconciliationRun
  conflicts : List Conflict

structure ReconciliationSummary where
  totalRuns : ℕ
  totalConflicts : ℕ
  unresolvedConflicts : ℕ
  conflictsByType : Dict String ℕ
  conflictsBySeverity : Dict String ℕ
  conflictsByPlanePair : Dict String ℕ
  avgConflictsPerRun : ℚ

structure ReconciliationEngine where
  fabric : ControlFabricService
  runs : Dict String ReconciliationRun
  conflicts : Dict String Conflict

namespace ReconciliationEngine
variable (rt : Runtime) (ops : ValueOps)

def new : ReconciliationEngine := ⟨ControlFabricService.new, Dict.empty, Dict.empty⟩

/-! ### Detection -/

section Detection
variable (fabric : ControlFabricService) (request : ReconciliationRunRequest)

def objectsInScope : List FabricObject :=
  (fabric.queryObjects request.tenantId).filter fun o =>
    admits request.scopePlanes o.plane ∧ admits request.scopeDomains o.domain ∧
      (request.includeRetired ∨ o.status ≠ .retired)

/-- `{o.id: o for o in objects}`. -/
def objMap (objects : List FabricObject) : Dict String FabricObject :=
  objects.foldl (fun d o => d.set o.id o) Dict.empty

def getContradictions (tenantId : String) : List FabricLink :=
  fabric.links.values.filter fun l => l.tenantId = tenantId ∧ l.linkType = .contradicts

def contradiction (objs : Dict String FabricObject) (link : FabricLink) : Option Finding :=
  match objs.get? link.sourceId, objs.get? link.targetId with
  | some src, some tgt => some {
      conflictType := .contradiction
      severity := .error
      sourceObjectId := link.sourceId
      targetObjectId := some link.targetId
      sourcePlane := src.plane
      targetPlane := some tgt.plane
      description := s!"Contradiction between {src.label} ({src.plane.value}) " ++
        s!"and {tgt.label} ({tgt.plane.value})" }
  | _, _ => none

def missingDependency (objs : Dict String FabricObject) (obj : FabricObject) (link : FabricLink) :
    Option Finding :=
  if link.linkType = .dependsOn ∧ link.targetId ∉ objs then
    some {
      conflictType := .missingDependency
      severity := .warning
      sourceObjectId := obj.id
      targetObjectId := some link.targetId
      sourcePlane := obj.plane
      targetPlane := none
      description := s!"{obj.label} depends on missing object {link.targetId}" }
  else none

/-- `abs(a - b) > 0.3` of two floats. -/
def farApart (a b : ℚ) : Bool := ops.round (3 / 10) < |ops.round (a - b)|

def confidenceDivergence (objs : Dict String FabricObject) (obj : FabricObject) (link : FabricLink) :
    Option Finding :=
  if link.linkType = .satisfies ∨ link.linkType = .dependsOn then
    match objs.get? link.targetId with
    | none => none
    | some target =>
      if farApart ops obj.confidence target.confidence then
        some {
          conflictType := .confidenceDivergence
          severity := .info
          sourceObjectId := obj.id
          targetObjectId := some target.id
          sourcePlane := obj.plane
          targetPlane := some target.plane
          description :=
            s!"Confidence divergence: {obj.label} ({fixed2 obj.confidence}) " ++
              s!"vs {target.label} ({fixed2 target.confidence})" }
      else none
  else none

def domainBoundaryViolation (objs : Dict String FabricObject) (obj : FabricObject)
    (link : FabricLink) : Option Finding :=
  if link.linkType = .authorizes then
    match objs.get? link.targetId with
    | none => none
    | some target =>
      if obj.domain ≠ target.domain then
        some {
          conflictType := .domainBoundaryViolation
          severity := .warning
          sourceObjectId := obj.id
          targetObjectId := some target.id
          sourcePlane := obj.plane
          targetPlane := some target.plane
          description := s!"Cross-domain authorization: {obj.label} ({obj.domain}) " ++
            s!"authorizes {target.label} ({target.domain})" }
      else none
  else none

def authorizationGap (obj : FabricObject) : Option Finding :=
  if (obj.controlType = "billing_adjustment" ∨ obj.controlType = "dispatch_order") ∧
      ¬ (fabric.getLinksForObject obj.id "incoming").any (fun l => l.linkType = .authorizes) then
    some {
      conflictType := .authorizationGap
      severity := .critical
      sourceObjectId := obj.id
      targetObjectId := none
      sourcePlane := obj.plane
      targetPlane := none
      description := s!"{obj.label} ({obj.controlType}) has no authorization link" }
  else none

def staleReference (objs : Dict String FabricObject) (obj : FabricObject) (link : FabricLink) :
    Option Finding :=
  match objs.get? link.sourceId with
  | none => none
  | some src =>
    if src.status = .active then
      some {
        conflictType := .staleReference
        severity := .warning
        sourceObjectId := link.sourceId
        targetObjectId := some obj.id
        sourcePlane := src.plane
        targetPlane := some obj.plane
        description := s!"Active object {src.label} references superseded object {obj.label}" }
    else none

/-- What is found at the links of the objects, in one direction. -/
def atLinks (objects : List FabricObject) (direction : String)
    (check : FabricObject → FabricLink → Option Finding) : List Finding :=
  objects.flatMap fun obj => (fabric.getLinksForObject obj.id direction).filterMap (check obj)

/-- What is found of one type, if it was asked for. -/
def ifAsked (conflictType : ConflictType) (found : List Finding) : List Finding :=
  if admits request.conflictTypes conflictType then found else []

/-- The conflicts of a run, in the order in which they are detected. -/
def findings : List Finding :=
  let objects := objectsInScope fabric request
  let objs := objMap objects
  ifAsked request .contradiction
      ((getContradictions fabric request.tenantId).filterMap (contradiction objs)) ++
    ifAsked request .missingDependency
      (atLinks fabric objects "outgoing" (missingDependency objs)) ++
    ifAsked request .confidenceDivergence
      (atLinks fabric objects "outgoing" (confidenceDivergence ops objs)) ++
    ifAsked request .domainBoundaryViolation
      (atLinks fabric objects "outgoing" (domainBoundaryViolation objs)) ++
    ifAsked request .authorizationGap (objects.filterMap (authorizationGap fabric)) ++
    ifAsked request .staleReference
      (atLinks fabric (objects.filter fun obj => obj.status = .superseded) "incoming"
        (staleReference objs))

end Detection

/-! ### Runs -/

/-- `_make_conflict` at draw `n`. -/
def makeConflict (runId : String) (finding : Finding) (n : ℕ) : Conflict where
  toFinding := finding
  id := rt.uuid4 n
  runId := runId
  resolution := .unresolved
  resolutionDetail := none
  metadata := []
  createdAt := rt.now (n + 1)

/-- The conflicts made from draw `n` on. -/
def makeConflicts (runId : String) : List Finding → ℕ → List Conflict
  | [], _ => []
  | finding :: rest, n => makeConflict rt runId finding n :: makeConflicts runId rest (n + 2)

def newRun (request : ReconciliationRunRequest) (runId : String) (scanned : ℕ)
    (found : List Finding) (start finish : DateTime) : ReconciliationRun where
  id := runId
  tenantId := request.tenantId
  status := "completed"
  totalObjectsScanned := scanned
  totalConflicts := found.length
  conflictsByType := Dict.tally (fun c => c.conflictType.value) found
  conflictsBySeverity := Dict.tally (fun c => c.severity.value) found
  scopePlanes := request.scopePlanes.map ControlPlane.value
  scopeDomains := request.scopeDomains
  durationMs := ops.round (ops.round ((finish.instant - start.instant : ℤ) / 10 ^ 6) * 1000)
  metadata := request.metadata
  createdAt := start

/-- The run begun at draw `n`, with the conflicts it reports. -/
def report (fabric : ControlFabricService) (request : ReconciliationRunRequest) (n : ℕ) :
    ReconciliationRunResponse :=
  let found := findings ops fabric request
  let runId := rt.uuid4 (n + 1)
  { run := newRun ops request runId (objectsInScope fabric request).length found (rt.now n)
      (rt.now (n + 2 + 2 * found.length))
    conflicts := makeConflicts rt runId found (n + 2) }

def runReconciliation (request : ReconciliationRunRequest) (n : ℕ) (s : ReconciliationEngine) :
    ReconciliationEngine :=
  let response := report rt ops s.fabric request n
  { s with
    runs := s.runs.set response.run.id response.run
    conflicts := response.conflicts.foldl (fun d c => d.set c.id c) s.conflicts }

/-- The draws a run makes. -/
def runDraws (fabric : ControlFabricService) (request : ReconciliationRunRequest) : ℕ :=
  3 + 2 * (findings ops fabric request).length

def getRun (s : ReconciliationEngine) (runId : String) : Option ReconciliationRunResponse :=
  (s.runs.get? runId).map fun run =>
    ⟨run, s.conflicts.values.filter fun c => c.runId = runId⟩

/-- A conflict that is not there is not resolved. -/
def resolveConflict (conflictId : String) (resolution : ConflictResolution) (detail : Option String)
    (s : ReconciliationEngine) : ReconciliationEngine :=
  match s.conflicts.get? conflictId with
  | none => s
  | some conflict =>
    { s with conflicts := s.conflicts.set conflictId { conflict with
        resolution := resolution
        resolutionDetail := detail } }

/-- `f"{source}->{target}"`. -/
def planePair (c : Conflict) : String :=
  let target := c.targetPlane.elim "none" ControlPlane.value
  s!"{c.sourcePlane.value}->{target}"

def getSummary (ops : ValueOps) (s : ReconciliationEngine) (tenantId : String) : ReconciliationSummary :=
  let runs := s.runs.values.filter fun r => r.tenantId = tenantId
  let allConflicts := s.conflicts.values.filter fun c => c.runId ∈ runs.map ReconciliationRun.id
  { totalRuns := runs.length
    totalConflicts := allConflicts.length
    unresolvedConflicts := allConflicts.countP fun c => c.resolution = .unresolved
    conflictsByType := Dict.tally (fun c => c.conflictType.value) allConflicts
    conflictsBySeverity := Dict.tally (fun c => c.severity.value) allConflicts
    conflictsByPlanePair := Dict.tally planePair allConflicts
    avgConflictsPerRun :=
      if runs = [] then 0 else ops.round ((allConflicts.length : ℚ) / runs.length) }

end ReconciliationEngine
end ControlFabric.Services
