import ControlFabric.Fabric.ControlObject
import ControlFabric.Fabric.Repository
import ControlFabric.Fabric.Types
import ControlFabric.Lib.Run

/-! The graph service: the policy on which links may be created, and every operation on the control
graph, with its audit events. -/
namespace ControlFabric.Fabric
open Method Lib Py

structure LinkPolicySpec where
  sourceKind : String
  targetKind : String
  allowedLinkTypes : List ControlLinkType
  requiredSamePlane : Bool := false
  requiredCrossPlane : Bool := false

/-- The registry, as far as the graph policy reads it. -/
structure FabricRegistry where
  linkPolicies : List LinkPolicySpec

/-- An empty kind does not restrict the result. -/
def FabricRegistry.getLinkPolicies (registry : FabricRegistry) (sourceKind targetKind : String) :
    List LinkPolicySpec :=
  registry.linkPolicies.filter fun p =>
    (sourceKind = "" ∨ p.sourceKind = sourceKind) ∧ (targetKind = "" ∨ p.targetKind = targetKind)

def FabricRegistry.registerLinkPolicy (policy : LinkPolicySpec) (registry : FabricRegistry) :
    FabricRegistry := ⟨registry.linkPolicies ++ [policy]⟩

structure GraphPolicyEngine where
  registry : Option FabricRegistry

namespace GraphPolicyEngine

/-- A policy is registered with the registry of the engine. -/
def registerLinkPolicy (policy : LinkPolicySpec) (engine : GraphPolicyEngine) : GraphPolicyEngine :=
  ⟨engine.registry.map (FabricRegistry.registerLinkPolicy policy)⟩

/-- The violations of one registered policy. -/
def policyViolations (create : ControlLinkCreate) (source target : ControlObject)
    (policy : LinkPolicySpec) : List String :=
  (if create.linkType ∉ policy.allowedLinkTypes then
    [s!"Link type {create.linkType.value} not allowed between " ++
      s!"{policy.sourceKind} and {policy.targetKind}"] else []) ++
  (if policy.requiredSamePlane ∧ source.plane ≠ target.plane then
    [s!"Link between {policy.sourceKind} and {policy.targetKind} requires same plane"] else []) ++
  (if policy.requiredCrossPlane ∧ source.plane = target.plane then
    [s!"Link between {policy.sourceKind} and {policy.targetKind} requires cross-plane"] else [])

/-- Nothing is said about tenants. -/
def validateLink (engine : GraphPolicyEngine) (create : ControlLinkCreate)
    (source target : ControlObject) : List String :=
  if create.sourceId = create.targetId then ["Self-links are not permitted"]
  else
    (if create.linkType = .supercedes ∧ source.objectType ≠ target.objectType then
      ["SUPERCEDES link requires same object type: " ++
        s!"{source.objectType.value} != {target.objectType.value}"] else []) ++
    (if create.linkType = .supercedes ∧ source.plane ≠ target.plane then
      ["SUPERCEDES link requires same plane"] else []) ++
    (if create.linkType = .billsFor ∧ source.plane ≠ .commercial then
      ["BILLS_FOR source must be in commercial plane"] else []) ++
    (if create.linkType = .fulfills ∧ source.plane = .service ∧ target.plane = .field then
      ["FULFILLS direction: service should not fulfill field " ++
        "(consider reversing source/target)"] else []) ++
    (match engine.registry with
    | none => []
    | some registry =>
      if source.objectKind ≠ "" ∧ target.objectKind ≠ "" then
        (registry.getLinkPolicies source.objectKind target.objectKind).flatMap
          (policyViolations create source target)
      else [])

def enforceLink {σ : Type} (engine : GraphPolicyEngine) (create : ControlLinkCreate)
    (source target : ControlObject) : Method σ Unit := do
  let violations := engine.validateLink create source target
  if violations ≠ [] then raise (.invalidLinkError ("; ".intercalate violations))

end GraphPolicyEngine

/-! ### The service -/

structure ConsistencyReport where
  isConsistent : Bool
  errorCount : ℕ
  warningCount : ℕ

/-- The check of the checker that the service is constructed with. -/
abbrev GraphConsistencyChecker := List ControlObject → List ControlLink → ConsistencyReport

structure GraphService where
  repo : InMemoryGraphRepository
  policy : GraphPolicyEngine
  checker : GraphConsistencyChecker
  audit : FabricAuditHook

namespace GraphService
variable (rt : Runtime) (uc : Unicode)

def new (policy : GraphPolicyEngine) (checker : GraphConsistencyChecker)
    (listeners : List FabricAuditListener) : GraphService :=
  ⟨.empty, policy, checker, ⟨listeners, []⟩⟩

/-- `self._audit`. -/
def hook (m : Method FabricAuditHook Unit) : Method GraphService Unit :=
  on audit (fun h s => { s with audit := h }) m

def storeObject (obj : ControlObject) (s : GraphService) : GraphService :=
  { s with repo := s.repo.storeObject obj }

def storeLink (link : ControlLink) (s : GraphService) : GraphService :=
  { s with repo := s.repo.storeLink link }

/-- A method called on a stored object, which is returned as the call leaves it. The repository holds
the object itself, so it sees what the call assigns, also when the call raises. -/
def callStored (obj : ControlObject) (m : Method ControlObject Unit) :
    Method GraphService ControlObject :=
  on (fun _ => obj) storeObject do
    m
    self

/-- A method called on an object that is not stored yet. -/
def callNew (obj : ControlObject) (m : Method ControlObject Unit) :
    Method GraphService ControlObject :=
  on (fun _ => obj) (fun _ s => s) do
    m
    self

/-- The module function called on a stored original: the new version, and the original as the call
leaves it. -/
def supersedeStored (obj : ControlObject) (update : ControlObjectCreate) (actor : String) :
    Method GraphService (ControlObject × ControlObject) :=
  on (fun _ => obj) storeObject do
    let newObj ← Fabric.supersedeObject rt uc update actor
    return (newObj, ← self)

/-- The common beginning of the operations on one object. -/
def withObject (objectId : String) (f : ControlObject → Method GraphService ControlObject) :
    Method GraphService (Option ControlObject) := do
  let s ← self
  match s.repo.objects.get? objectId with
  | none => return none
  | some obj => some <$> f obj

def createObject (tenantId : String) (create : ControlObjectCreate) (actor : String)
    (autoActivate : Bool) : Method GraphService ControlObject := do
  let obj ← buildControlObject rt uc tenantId create actor
  hook (FabricAuditHook.controlObjectCreated rt obj.id tenantId obj.plane obj.domain actor)
  if autoActivate then
    let n ← draw
    let active ← callNew obj (ControlObject.activate rt
      { actor := actor, action := "activated", timestamp := rt.now n })
    hook (FabricAuditHook.controlObjectStateChanged rt obj.id tenantId obj.state active.state actor)
    assign (storeObject active)
    return active
  else
    assign (storeObject obj)
    return obj

def enrichObject (objectId : String) (payloadUpdate : JsonDict) (actor : String) :
    Method GraphService (Option ControlObject) :=
  withObject objectId fun obj => do
    let n ← draw
    let enriched ← callStored obj (ControlObject.enrich rt payloadUpdate
      { actor := actor, action := "enriched", timestamp := rt.now n })
    if enriched.state ≠ obj.state then
      hook (FabricAuditHook.controlObjectStateChanged rt enriched.id enriched.tenantId obj.state
        enriched.state actor)
    assign (storeObject enriched)
    return enriched

def freezeObject (objectId actor : String) : Method GraphService (Option ControlObject) :=
  withObject objectId fun obj => do
    let n ← draw
    let frozen ← callStored obj (ControlObject.freeze rt
      { actor := actor, action := "frozen", timestamp := rt.now n })
    hook (FabricAuditHook.controlObjectFrozen rt frozen.id frozen.tenantId actor)
    assign (storeObject frozen)
    return frozen

def supersedeObject (objectId : String) (update : ControlObjectCreate) (actor : String) :
    Method GraphService (Option ControlObject) :=
  withObject objectId fun obj => do
    let pair ← supersedeStored rt uc obj update actor
    let original := pair.2
    let n ← draw
    let newObj ← callNew pair.1 (ControlObject.activate rt
      { actor := actor, action := "activated", timestamp := rt.now n })
    hook (FabricAuditHook.controlObjectSuperseded rt original.id newObj.id original.tenantId actor)
    assign (storeObject original)
    assign (storeObject newObj)
    let link ← buildControlLink rt original.tenantId
      { sourceId := newObj.id, targetId := original.id, linkType := .supercedes }
      (some newObj.plane) (some original.plane)
    assign (storeLink link)
    return newObj

def deprecateObject (objectId actor : String) : Method GraphService (Option ControlObject) :=
  withObject objectId fun obj => do
    let n ← draw
    let deprecated ← callStored obj (ControlObject.markDeprecated rt
      { actor := actor, action := "deprecated", timestamp := rt.now n })
    hook (FabricAuditHook.controlObjectDeprecated rt deprecated.id deprecated.tenantId actor)
    assign (storeObject deprecated)
    return deprecated

def transitionObject (objectId : String) (newState : ControlState) (actor : String)
    (reason : Option String) : Method GraphService (Option ControlObject) :=
  withObject objectId fun obj => do
    let n ← draw
    let changed ← callStored obj (ControlObject.transitionState rt newState
      { actor := actor
        action := s!"transitioned_to_{newState.value}"
        reason := reason
        timestamp := rt.now n })
    hook (FabricAuditHook.controlObjectStateChanged rt changed.id changed.tenantId obj.state
      newState actor)
    assign (storeObject changed)
    return changed

/-- The tenant is taken as given. -/
def createLink (tenantId : String) (create : ControlLinkCreate) :
    Method GraphService ControlLink := do
  let s ← self
  match s.repo.objects.get? create.sourceId, s.repo.objects.get? create.targetId with
  | none, _ => raise (.invalidLinkError s!"Source object {create.sourceId} not found")
  | some _, none => raise (.invalidLinkError s!"Target object {create.targetId} not found")
  | some source, some target =>
    s.policy.enforceLink create source target
    let link ← buildControlLink rt tenantId create (some source.plane) (some target.plane)
    assign (storeLink link)
    hook (FabricAuditHook.controlLinkCreated rt link.id tenantId link.sourceId link.targetId
      link.linkType link.isCrossPlane "system")
    return link

def checkConsistency (tenantId : String) (plane : Option PlaneType) :
    Method GraphService ConsistencyReport := do
  let s ← self
  let objects := s.repo.listObjects tenantId plane none none none
  let links := s.repo.getAllLinks tenantId
  let ids := objects.map ControlObject.id
  let links := if plane.isSome then links.filter fun l => l.sourceId ∈ ids ∨ l.targetId ∈ ids
    else links
  let report := s.checker objects links
  hook (FabricAuditHook.graphConsistencyChecked rt tenantId report.isConsistent report.errorCount
    report.warningCount "system")
  return report

/-- `self.registry.register_link_policy(policy)`. -/
def registerLinkPolicy (policy : LinkPolicySpec) : Method GraphService Unit :=
  assign fun s => { s with policy := s.policy.registerLinkPolicy policy }

end GraphService

/-- One call on a graph service. The calls that only read are left out. -/
inductive GraphServiceOp where
  | createObject (tenantId : String) (create : ControlObjectCreate) (actor : String)
      (autoActivate : Bool)
  | enrichObject (objectId : String) (payloadUpdate : JsonDict) (actor : String)
  | freezeObject (objectId actor : String)
  | supersedeObject (objectId : String) (update : ControlObjectCreate) (actor : String)
  | deprecateObject (objectId actor : String)
  | transitionObject (objectId : String) (newState : ControlState) (actor : String)
      (reason : Option String)
  | createLink (tenantId : String) (create : ControlLinkCreate)
  | checkConsistency (tenantId : String) (plane : Option PlaneType)
  | registerLinkPolicy (policy : LinkPolicySpec)

def GraphServiceOp.call (rt : Runtime) (uc : Unicode) : GraphServiceOp → Method GraphService Unit
  | createObject tenantId create actor autoActivate =>
    discard (GraphService.createObject rt uc tenantId create actor autoActivate)
  | enrichObject objectId payloadUpdate actor =>
    discard (GraphService.enrichObject rt objectId payloadUpdate actor)
  | freezeObject objectId actor => discard (GraphService.freezeObject rt objectId actor)
  | supersedeObject objectId update actor =>
    discard (GraphService.supersedeObject rt uc objectId update actor)
  | deprecateObject objectId actor => discard (GraphService.deprecateObject rt objectId actor)
  | transitionObject objectId newState actor reason =>
    discard (GraphService.transitionObject rt objectId newState actor reason)
  | createLink tenantId create => discard (GraphService.createLink rt tenantId create)
  | checkConsistency tenantId plane => discard (GraphService.checkConsistency rt tenantId plane)
  | registerLinkPolicy policy => GraphService.registerLinkPolicy policy

/-- One call, after which the caller goes on whether it returned or raised. -/
def serviceStep (rt : Runtime) (uc : Unicode) (op : GraphServiceOp) (w : World GraphService) :
    World GraphService := (op.call rt uc).after w

def serviceRun (rt : Runtime) (uc : Unicode) (w : World GraphService) (ops : List GraphServiceOp) :
    World GraphService := run (serviceStep rt uc) w ops

end ControlFabric.Fabric
