import ControlFabric.Fabric.Types
import ControlFabric.Py.Numbers

/-! Control objects and the typed links between them. A method of an object that raises keeps the
assignments it made before. -/
namespace ControlFabric.Fabric
open Lib Py Method

structure ControlObject where
  id : String
  tenantId : String
  objectType : ControlObjectType
  objectKind : String
  plane : PlaneType
  domain : String
  label : String
  description : Option String
  state : ControlState
  version : ℤ
  confidence : ℚ
  provenance : ControlProvenance
  evidence : List EvidenceRef
  payload : JsonDict
  correlationKeys : List (String × String)
  externalRefs : List (String × String)
  tags : List String
  schemaVersion : String
  supersededBy : Option String
  derivedFrom : List String
  auditTrail : List AuditContext
  createdAt : DateTime
  updatedAt : DateTime

structure ControlObjectCreate where
  objectType : ControlObjectType
  objectKind : String := ""
  plane : PlaneType
  domain : String
  label : String
  description : Option String := none
  confidence : ℚ := 1
  provenance : Option ControlProvenance := none
  evidence : List EvidenceRef := []
  payload : JsonDict := []
  correlationKeys : List (String × String) := []
  externalRefs : List (String × String) := []
  tags : List String := []
  derivedFrom : List String := []

/-- `d.update(u)`. -/
def updateDict (d u : JsonDict) : JsonDict :=
  u.foldl (fun d p =>
    if p.1 ∈ d.map Prod.fst then d.map fun q => if q.1 = p.1 then p else q else d ++ [p]) d

namespace ControlObject
variable (rt : Runtime)

def transitionState (newState : ControlState) (audit : AuditContext) :
    Method ControlObject Unit := do
  let obj ← self
  let valid := obj.state.validStateTransitions
  if newState ∉ valid then
    raise (.controlObjectStateError
      (s!"Cannot transition from {obj.state.value} to {newState.value}. " ++
        s!"Valid: {reprList rt.isPrintable (valid.map ControlState.value)}"))
  else
    let n ← draw
    assign fun obj => { obj with
      state := newState
      updatedAt := rt.now n
      auditTrail := obj.auditTrail ++ [audit] }

def enrich (payloadUpdate : JsonDict) (audit : AuditContext) : Method ControlObject Unit := do
  let obj ← self
  if obj.state = .frozen then
    raise (.controlObjectFrozenError "Cannot enrich a frozen control object")
  else
    assign fun obj => { obj with payload := updateDict obj.payload payloadUpdate }
    if obj.state = .active then transitionState rt .enriched audit
    else
      let n ← draw
      assign fun obj => { obj with
        updatedAt := rt.now n
        auditTrail := obj.auditTrail ++ [audit] }

def attachEvidence (evidence : EvidenceRef) : Method ControlObject Unit := do
  let obj ← self
  if obj.state = .frozen then
    raise (.controlObjectFrozenError "Cannot attach evidence to a frozen control object")
  else
    assign fun obj => { obj with evidence := obj.evidence ++ [evidence] }
    let n ← draw
    assign fun obj => { obj with updatedAt := rt.now n }

def freeze (audit : AuditContext) : Method ControlObject Unit := do
  let obj ← self
  if obj.state = .active ∨ obj.state = .enriched then transitionState rt .frozen audit
  else raise (.controlObjectStateError s!"Cannot freeze from state {obj.state.value}")

def markActioned (audit : AuditContext) : Method ControlObject Unit :=
  transitionState rt .actioned audit

/-- The reference to the new version is set before the transition is checked. -/
def supersede (newVersionId : String) (audit : AuditContext) : Method ControlObject Unit := do
  assign fun obj => { obj with supersededBy := some newVersionId }
  transitionState rt .superseded audit

/-- `deprecate`, a reserved word here. -/
def markDeprecated (audit : AuditContext) : Method ControlObject Unit :=
  transitionState rt .deprecated audit

def activate (audit : AuditContext) : Method ControlObject Unit :=
  transitionState rt .active audit

def isMutable (obj : ControlObject) : Bool :=
  obj.state ∉ [ControlState.frozen, .superseded, .deprecated]

end ControlObject

section Build
variable {σ : Type} (rt : Runtime) (uc : Unicode)

def buildControlObject (tenantId : String) (create : ControlObjectCreate) (actor : String) :
    Method σ ControlObject := do
  if strStrip uc create.label.toList = [] then
    raise (.invalidControlObjectError "Control object label must not be empty")
  else if strStrip uc create.domain.toList = [] then
    raise (.invalidControlObjectError "Control object domain must not be empty")
  else if create.confidence < 0 ∨ 1 < create.confidence then
    raise (.invalidControlObjectError "Confidence must be between 0.0 and 1.0")
  else
    let n ← draw
    return {
      id := rt.uuid4 n
      tenantId := tenantId
      objectType := create.objectType
      objectKind := create.objectKind
      plane := create.plane
      domain := create.domain
      label := create.label
      description := create.description
      state := .draft
      version := 1
      confidence := create.confidence
      provenance := create.provenance.getD { createdBy := actor, creationMethod := .deterministic }
      evidence := create.evidence
      payload := create.payload
      correlationKeys := create.correlationKeys
      externalRefs := create.externalRefs
      tags := create.tags
      schemaVersion := "1.0"
      supersededBy := none
      derivedFrom := create.derivedFrom
      auditTrail := [{ actor := actor, action := "created", timestamp := rt.now n }]
      createdAt := rt.now n
      updatedAt := rt.now n }

/-- The module's `supersede_object(original, update, actor)`, with the original as the object. -/
def supersedeObject (update : ControlObjectCreate) (actor : String) :
    Method ControlObject ControlObject := do
  let original ← self
  let built ← buildControlObject rt uc original.tenantId update actor
  let newObj := { built with version := original.version + 1, derivedFrom := [original.id] }
  let n ← draw
  ControlObject.supersede rt newObj.id
    { actor := actor, action := "superseded", timestamp := rt.now n }
  return newObj

end Build

structure ControlLink where
  id : String
  tenantId : String
  sourceId : String
  targetId : String
  linkType : ControlLinkType
  directionality : LinkDirectionality
  sourcePlane : Option PlaneType
  targetPlane : Option PlaneType
  weight : ℚ
  confidence : ℚ
  evidence : List EvidenceRef
  metadata : JsonDict
  createdAt : DateTime

def ControlLink.isCrossPlane (link : ControlLink) : Bool :=
  link.sourcePlane.isSome ∧ link.targetPlane.isSome ∧ link.sourcePlane ≠ link.targetPlane

structure ControlLinkCreate where
  sourceId : String
  targetId : String
  linkType : ControlLinkType
  weight : ℚ := 1
  confidence : ℚ := 1
  evidence : List EvidenceRef := []
  metadata : JsonDict := []

def buildControlLink {σ : Type} (rt : Runtime) (tenantId : String) (create : ControlLinkCreate)
    (sourcePlane targetPlane : Option PlaneType) : Method σ ControlLink := do
  let n ← draw
  return {
    id := rt.uuid4 n
    tenantId := tenantId
    sourceId := create.sourceId
    targetId := create.targetId
    linkType := create.linkType
    directionality := create.linkType.linkDirectionality
    sourcePlane := sourcePlane
    targetPlane := targetPlane
    weight := create.weight
    confidence := create.confidence
    evidence := create.evidence
    metadata := create.metadata
    createdAt := rt.now n }

end ControlFabric.Fabric
