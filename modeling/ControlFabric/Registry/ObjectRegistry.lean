import ControlFabric.Graph.DomainTypes
import ControlFabric.Lib.Dict
import ControlFabric.Gate.Governed
import ControlFabric.Lib.Run

/-! Version records, registry events and schema namespaces. -/
namespace ControlFabric
open Lib Py

structure VersionRecord where
  recordId : String
  objectId : String
  version : ℤ
  objectHash : String
  state : String
  changedBy : String
  changeReason : String
  recordedAt : DateTime
  snapshot : JsonDict
  recordHash : String

namespace VersionRecord

/-- The text under `record_hash`. -/
def hashText (r : VersionRecord) : String :=
  r.objectId ++ toString r.version ++ r.objectHash ++ r.state ++ r.recordedAt.isoformat

def computeRecordHash (rt : Runtime) (r : VersionRecord) : VersionRecord :=
  { r with recordHash := rt.sha256 r.hashText }

def new (rt : Runtime) (n : ℕ) (obj : ControlObject) (changedBy changeReason : String) :
    VersionRecord :=
  computeRecordHash rt
    { recordId := rt.uuid4 n
      objectId := obj.objectId
      version := obj.version
      objectHash := obj.objectHash
      state := obj.state.value
      changedBy := changedBy
      changeReason := changeReason
      recordedAt := rt.now n
      snapshot := obj.modelDump
      recordHash := "" }

end VersionRecord

structure RegistryEvent where
  eventId : String
  eventType : String
  objectId : String
  objectType : String
  performedBy : String
  eventDetail : String
  occurredAt : DateTime
  eventHash : String

def RegistryEvent.new (rt : Runtime) (n : ℕ) (eventType : String) (obj : ControlObject)
    (performedBy detail : String) : RegistryEvent where
  eventId := rt.uuid4 n
  eventType := eventType
  objectId := obj.objectId
  objectType := obj.objectType.value
  performedBy := performedBy
  eventDetail := detail
  occurredAt := rt.now n
  eventHash := rt.sha256 (rt.uuid4 n ++ eventType ++ obj.objectId ++ performedBy ++
    (rt.now n).isoformat)

structure SchemaNamespace where
  name : String
  version : String
  requiredAttributes : List String

/-- The namespaces under their `name:version` keys. -/
abbrev SchemaRegistry := Dict String SchemaNamespace

namespace SchemaRegistry

def get (schemas : SchemaRegistry) (name version : String) : Option SchemaNamespace :=
  schemas.get? (name ++ ":" ++ version)

def validateAttributes (rt : Runtime) (schemas : SchemaRegistry)
    (namespaceName namespaceVersion : String) (attributes : JsonDict) : Except PyError Unit :=
  match schemas.get namespaceName namespaceVersion with
  | none => .error (.schemaValidationError
      s!"Namespace {namespaceName}:{namespaceVersion} not found.")
  | some ns =>
    let missing := ns.requiredAttributes.filter fun attr => (Json.field attributes attr).isNone
    if missing ≠ [] then
      .error (.schemaValidationError (s!"Missing required attributes for namespace " ++
        s!"{namespaceName}: {reprList rt.isPrintable missing}"))
    else .ok ()

theorem validateAttributes_error {rt : Runtime} {schemas : SchemaRegistry} {name version : String}
    {attributes : JsonDict} {e : PyError}
    (h : schemas.validateAttributes rt name version attributes = .error e) :
    ∃ message, e = .schemaValidationError message := by
  unfold validateAttributes at h
  split at h
  · exact ⟨_, (Except.error.inj h).symm⟩
  · dsimp only at h
    split_ifs at h
    exact ⟨_, (Except.error.inj h).symm⟩

end SchemaRegistry
end ControlFabric

/-! The object registry: registration, update, state transitions, version history and indices. -/
namespace ControlFabric
open Lib Method

structure ObjectRegistry where
  objects : Dict String ControlObject
  versionHistory : Dict String (List VersionRecord)
  events : List RegistryEvent
  schemaRegistry : SchemaRegistry
  planeIndex : Dict String (List String)
  typeIndex : Dict String (List String)
  tagIndex : Dict String (List String)

/-- `index.setdefault(key, [])`, then append the identifier unless it is listed. -/
def addToIndex (index : Dict String (List String)) (key objectId : String) :
    Dict String (List String) :=
  let ids := index.getD key []
  index.set key (if objectId ∈ ids then ids else ids ++ [objectId])

namespace ObjectRegistry

def new (schemaRegistry : SchemaRegistry) : ObjectRegistry :=
  ⟨Dict.empty, Dict.empty, [], schemaRegistry, Dict.empty, Dict.empty, Dict.empty⟩

def updateIndices (obj : ControlObject) (r : ObjectRegistry) : ObjectRegistry :=
  { r with
    planeIndex := addToIndex r.planeIndex obj.operationalPlane obj.objectId
    typeIndex := addToIndex r.typeIndex obj.objectType.value obj.objectId
    tagIndex := obj.tags.foldl (fun index tag => addToIndex index tag obj.objectId) r.tagIndex }

def removeFromIndices (obj : ControlObject) (r : ObjectRegistry) : ObjectRegistry :=
  if obj.operationalPlane ∈ r.planeIndex then
    { r with
      planeIndex := r.planeIndex.set obj.operationalPlane
        ((r.planeIndex.getD obj.operationalPlane []).filter fun oid => oid ≠ obj.objectId) }
  else r

def putObject (obj : ControlObject) (r : ObjectRegistry) : ObjectRegistry :=
  { r with objects := r.objects.set obj.objectId obj }

section Methods
variable (rt : Runtime)

/-- A failed schema validation is swallowed. -/
def validateSchema (obj : ControlObject) : Method ObjectRegistry Unit := do
  match (← self).schemaRegistry.validateAttributes rt obj.schemaNamespace "1.0.0" obj.attributes with
  | .error (.schemaValidationError _) => return
  | .error e => raise e
  | .ok () => return

def recordVersion (obj : ControlObject) (changedBy reason : String) :
    Method ObjectRegistry Unit := do
  let record := VersionRecord.new rt (← draw) obj changedBy reason
  assign fun r => { r with
    versionHistory := r.versionHistory.set obj.objectId
      (r.versionHistory.getD obj.objectId [] ++ [record]) }

def emitEvent (eventType : String) (obj : ControlObject) (performedBy detail : String) :
    Method ObjectRegistry Unit := do
  let event := RegistryEvent.new rt (← draw) eventType obj performedBy detail
  assign fun r => { r with events := r.events ++ [event] }

def register (obj : ControlObject) (registeredBy reason : String) :
    Method ObjectRegistry ControlObject := do
  if obj.objectId ∈ (← self).objects then
    raise (.registryError s!"Object {obj.objectId} already registered. Use update().")
  validateSchema rt obj
  assign (putObject obj)
  assign (updateIndices obj)
  recordVersion rt obj registeredBy reason
  emitEvent rt "registered" obj registeredBy s!"Registered: {reason}"
  return obj

def update (obj : ControlObject) (updatedBy reason : String) :
    Method ObjectRegistry ControlObject := do
  match (← self).objects.get? obj.objectId with
  | none =>
    raise (.registryError s!"Object {obj.objectId} not found. Use register() for new objects.")
  | some old =>
    validateSchema rt obj
    if obj.version ≠ old.version + 1 then
      raise (.registryError s!"Version mismatch: expected v{old.version + 1}, got v{obj.version}.")
    assign (removeFromIndices old)
    assign (putObject obj)
    assign (updateIndices obj)
    recordVersion rt obj updatedBy reason
    emitEvent rt "updated" obj updatedBy s!"Updated v{old.version}→v{obj.version}: {reason}"
    return obj

/-- What `transition_state` submits to the gate. -/
def transitionSubmission (current : ControlObject) (objectId : String)
    (newState : ControlObjectState) (transitionedBy reason : String) : Submission where
  actionType := "state_transition"
  proposedPayload := [("object_id", .str objectId), ("current_state", .str current.state.value),
    ("target_state", .str newState.value), ("reason", .str reason)]
  requestedBy := transitionedBy
  origin := .humanOperator
  evidenceReferences := some [current.objectHash]
  provenanceChain := some [objectId]
  executor := none

/-- The part of `transition_state` behind the gate. -/
def commitTransition (current : ControlObject) (newState : ControlObjectState)
    (transitionedBy reason : String) : Method ObjectRegistry ControlObject := do
  let newObj ← lift (current.transitionTo newState (rt.now (← draw)))
  let _ ← update rt newObj transitionedBy
    s!"State transition: {current.state.str}→{newState.str}: {reason}"
  emitEvent rt "state_changed" newObj transitionedBy s!"{current.state.str}→{newState.str}"
  return newObj

def transitionState (objectId : String) (newState : ControlObjectState)
    (transitionedBy reason : String) : Method (Governed ObjectRegistry) ControlObject := do
  match (← self).store.objects.get? objectId with
  | none => raise (.registryError s!"Object {objectId} not found.")
  | some current =>
    Governed.governed rt (transitionSubmission current objectId newState transitionedBy reason)
      (fun result => .registryError (s!"Gate blocked state transition for {objectId}: " ++
        result.failureReason.getD "None"))
      (commitTransition rt current newState transitionedBy reason)

end Methods

def get (r : ObjectRegistry) (objectId : String) : Option ControlObject := r.objects.get? objectId

def getVersionHistory (r : ObjectRegistry) (objectId : String) : List VersionRecord :=
  r.versionHistory.getD objectId []

def getByPlane (r : ObjectRegistry) (plane : String) : List ControlObject :=
  (r.planeIndex.getD plane []).filterMap r.objects.get?

def getByType (r : ObjectRegistry) (objectType : ControlObjectType) : List ControlObject :=
  (r.typeIndex.getD objectType.value []).filterMap r.objects.get?

def verifyHistoryIntegrity (rt : Runtime) (r : ObjectRegistry) : Bool :=
  r.versionHistory.entries.all fun e => e.2.all fun record =>
    record.recordHash = rt.sha256 record.hashText

end ObjectRegistry
end ControlFabric
