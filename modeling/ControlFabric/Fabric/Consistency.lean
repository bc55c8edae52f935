import ControlFabric.Fabric.Calls

/-! The consistency checker of the graph, and the check of a tenant, or of one plane of it, as the
service calls it. -/
namespace ControlFabric.Fabric
open Lib Py Method

inductive ConsistencyIssueType where
  | danglingLinkSource
  | danglingLinkTarget
  | contradictionDetected
  | missingExpectedLink
  | orphanedObject
  | staleReference
  | isolatedPlane
  deriving DecidableEq

inductive ConsistencySeverity where
  | info
  | warning
  | error
  | critical
  deriving DecidableEq

structure ConsistencyIssue where
  issueType : ConsistencyIssueType
  severity : ConsistencySeverity
  objectId : Option String := none
  linkId : Option String := none
  description : String
  details : JsonDict := []

/-- A report of the checker with its issues. -/
structure ConsistencyFindings where
  totalObjects : ℕ
  totalLinks : ℕ
  issues : List ConsistencyIssue
  isConsistent : Bool

namespace ConsistencyFindings

def errorCount (findings : ConsistencyFindings) : ℕ :=
  findings.issues.countP fun i => i.severity = .error ∨ i.severity = .critical

def warningCount (findings : ConsistencyFindings) : ℕ :=
  findings.issues.countP fun i => i.severity = .warning

/-- What the service logs of them. -/
def report (findings : ConsistencyFindings) : ConsistencyReport :=
  ⟨findings.isConsistent, findings.errorCount, findings.warningCount⟩

end ConsistencyFindings

namespace GraphConsistencyChecker

/-- The dangling ends of one link. -/
def danglingLink (objIds : List String) (link : ControlLink) : List ConsistencyIssue :=
  (if link.sourceId ∉ objIds then
    [{ issueType := .danglingLinkSource
       severity := .error
       linkId := some link.id
       description := s!"Link source {link.sourceId} not found in graph" }] else []) ++
  if link.targetId ∉ objIds then
    [{ issueType := .danglingLinkTarget
       severity := .error
       linkId := some link.id
       description := s!"Link target {link.targetId} not found in graph" }] else []

/-- `frozenset([source_id, target_id])`, listed in some order. -/
def endPair (link : ControlLink) : List String :=
  if link.sourceId = link.targetId then [link.sourceId]
  else if link.sourceId < link.targetId then [link.sourceId, link.targetId]
  else [link.targetId, link.sourceId]

/-- How many links contradict each pair. -/
def contradictions (links : List ControlLink) : Dict (List String) ℕ :=
  links.foldl (fun counts link =>
    if link.linkType = .contradicts then
      counts.set (endPair link) (counts.getD (endPair link) 0 + 1)
    else counts) Dict.empty

/-- A set of one identifier has no second one. -/
def contradictionDetected (entry : List String × ℕ) : Except PyError ConsistencyIssue :=
  match entry.1 with
  | first :: second :: _ => .ok
      { issueType := .contradictionDetected
        severity := .warning
        description := s!"Contradiction between {first} and {second} ({entry.2} link(s))"
        details := [("object_ids", .arr (entry.1.map Json.str))] }
  | _ => .error (.indexError "list index out of range")

def hasBillsFor (links : List ControlLink) (obj : ControlObject) : Bool :=
  links.any fun l => l.sourceId = obj.id ∧ l.linkType = .billsFor

def missingExpectedLink (links : List ControlLink) (obj : ControlObject) : Option ConsistencyIssue :=
  if obj.objectType = .billableEvent ∧ ¬ hasBillsFor links obj then
    some
      { issueType := .missingExpectedLink
        severity := .warning
        objectId := some obj.id
        description := s!"Billable event '{obj.label}' has no BILLS_FOR link" }
  else none

def orphanedObject (links : List ControlLink) (obj : ControlObject) : Option ConsistencyIssue :=
  if links.any fun l => l.sourceId = obj.id ∨ l.targetId = obj.id then none
  else some
    { issueType := .orphanedObject
      severity := .info
      objectId := some obj.id
      description := s!"Object '{obj.label}' has no links" }

/-- The object of that identifier in `obj_map`, the later one of two. -/
def mapped (objects : List ControlObject) (id : String) : Option ControlObject :=
  objects.reverse.find? fun o => o.id = id

/-- The links that still lead from active objects to a superseded one. -/
def staleReferences (objects : List ControlObject) (links : List ControlLink) (obj : ControlObject) :
    List ConsistencyIssue :=
  if obj.state = .superseded then
    (links.filter fun l => l.targetId = obj.id ∧ l.linkType ≠ .supercedes).filterMap fun link =>
      ((mapped objects link.sourceId).filter fun src => src.state = .active).map fun src =>
        { issueType := .staleReference
          severity := .warning
          objectId := some obj.id
          linkId := some link.id
          description := s!"Active object '{src.label}' references superseded '{obj.label}'" }
  else []

def crossesAt (plane : PlaneType) (link : ControlLink) : Bool :=
  link.sourcePlane = some plane ∧ link.targetPlane ≠ some plane ∨
    link.targetPlane = some plane ∧ link.sourcePlane ≠ some plane

/-- A plane with objects but without links to the other planes. -/
def isolatedPlane (objects : List ControlObject) (links : List ControlLink) (plane : PlaneType) :
    Option ConsistencyIssue :=
  let planeObjects := objects.filter fun o => o.plane = plane
  if planeObjects ≠ [] ∧ ¬ links.any (crossesAt plane) then
    some
      { issueType := .isolatedPlane
        severity := .info
        description := s!"Plane '{plane.value}' has {planeObjects.length} objects " ++
          "but no cross-plane links" }
  else none

def isolatedPlanes (objects : List ControlObject) (links : List ControlLink) :
    List ConsistencyIssue :=
  if 1 < (objects.map ControlObject.plane).dedup.length then
    [PlaneType.commercial, .field, .service].filterMap (isolatedPlane objects links)
  else []

def check (objects : List ControlObject) (links : List ControlLink) :
    Except PyError ConsistencyFindings := do
  let dangling := links.flatMap (danglingLink (objects.map ControlObject.id))
  let contradicting ← (contradictions links).entries.mapM contradictionDetected
  let issues := dangling ++ contradicting ++ objects.filterMap (missingExpectedLink links) ++
    objects.filterMap (orphanedObject links) ++ objects.flatMap (staleReferences objects links) ++
    isolatedPlanes objects links
  return {
    totalObjects := objects.length
    totalLinks := links.length
    issues := issues
    isConsistent := issues.all fun i => i.severity ≠ .error ∧ i.severity ≠ .critical }

/-- The checker as the service calls it, where it does not raise. -/
def builtIn : GraphConsistencyChecker := fun objects links =>
  match check objects links with
  | .ok findings => findings.report
  | .error _ => ⟨false, 0, 0⟩

end GraphConsistencyChecker

namespace InMemoryGraphRepository
variable (repo : InMemoryGraphRepository) (tenantId : String) (plane : Option PlaneType)

/-- The objects that a check is about. -/
def checkedObjects : List ControlObject := repo.listObjects tenantId plane none none none

/-- The links of the tenant; with a plane, those with an end among its objects. -/
def checkedLinks : List ControlLink :=
  let ids := (repo.checkedObjects tenantId plane).map ControlObject.id
  if plane.isSome then
    (repo.getAllLinks tenantId).filter fun l => l.sourceId ∈ ids ∨ l.targetId ∈ ids
  else repo.getAllLinks tenantId

end InMemoryGraphRepository

namespace GraphService
variable (rt : Runtime) (tenantId : String) (plane : Option PlaneType)

/-- `check_consistency` with the checker of the module, returning its issues too. -/
def consistencyFindings : Method GraphService ConsistencyFindings := do
  let s ← self
  let findings ← lift (GraphConsistencyChecker.check (s.repo.checkedObjects tenantId plane)
    (s.repo.checkedLinks tenantId plane))
  hook (FabricAuditHook.graphConsistencyChecked rt tenantId findings.isConsistent
    findings.errorCount findings.warningCount "system")
  return findings

end GraphService
end ControlFabric.Fabric
