import ControlFabric.Runtime
import ControlFabric.Lib.Loop

/-! The control fabric of a tenant service: control objects in planes, the links between them, and
the slices cut from them. A set of identifiers is run through in the order in which they were put
in. -/
namespace ControlFabric.Services
open Lib Py

inductive ControlPlane where
  | commercial
  | field
  | service
  | governance
  deriving DecidableEq

def ControlPlane.value : ControlPlane → String
  | commercial => "commercial"
  | field => "field"
  | service => "service"
  | governance => "governance"

inductive ControlLinkType where
  | dependsOn
  | satisfies
  | contradicts
  | triggers
  | blocks
  | authorizes
  | invalidates
  | references
  deriving DecidableEq

def ControlLinkType.value : ControlLinkType → String
  | dependsOn => "depends_on"
  | satisfies => "satisfies"
  | contradicts => "contradicts"
  | triggers => "triggers"
  | blocks => "blocks"
  | authorizes => "authorizes"
  | invalidates => "invalidates"
  | references => "references"

inductive ControlObjectStatus where
  | active
  | superseded
  | retired
  | draft
  | underReview
  deriving DecidableEq

def ControlObjectStatus.value : ControlObjectStatus → String
  | active => "active"
  | superseded => "superseded"
  | retired => "retired"
  | draft => "draft"
  | underReview => "under_review"

/-- A weight or a confidence, which the schema keeps between 0 and 1. -/
abbrev Share := {q : ℚ // 0 ≤ q ∧ q ≤ 1}

theorem Share.one_mem : (0 : ℚ) ≤ 1 ∧ (1 : ℚ) ≤ 1 := ⟨zero_le_one, le_refl 1⟩

structure FabricObjectCreate where
  controlType : String
  plane : ControlPlane
  domain : String
  label : String
  description : Option String := none
  payload : JsonDict := []
  sourceDocumentId : Option String := none
  sourceChunkId : Option String := none
  sourceClauseRef : Option String := none
  confidence : Share := ⟨1, Share.one_mem⟩
  tags : List String := []
  metadata : JsonDict := []

structure FabricObject where
  id : String
  tenantId : String
  controlType : String
  plane : ControlPlane
  domain : String
  label : String
  description : Option String
  payload : JsonDict
  sourceDocumentId : Option String
  sourceChunkId : Option String
  sourceClauseRef : Option String
  confidence : ℚ
  status : ControlObjectStatus
  tags : List String
  metadata : JsonDict
  version : ℤ
  createdAt : DateTime
  updatedAt : DateTime

structure FabricLinkCreate where
  sourceId : String
  targetId : String
  linkType : ControlLinkType
  weight : Share := ⟨1, Share.one_mem⟩
  evidenceRefs : List String := []
  metadata : JsonDict := []

structure FabricLink where
  id : String
  sourceId : String
  targetId : String
  linkType : ControlLinkType
  weight : ℚ
  evidenceRefs : List String
  metadata : JsonDict
  tenantId : String
  createdAt : DateTime

/-- The other end of a link at `currentId`, if it is one. -/
def FabricLink.neighborId (link : FabricLink) (currentId : String) : Option String :=
  if link.sourceId = currentId then some link.targetId
  else if link.targetId = currentId then some link.sourceId
  else none

structure FabricSliceRequest where
  rootIds : List String := []
  planes : List ControlPlane := []
  domains : List String := []
  linkTypes : List ControlLinkType := []
  maxDepth : {d : ℤ // 1 ≤ d ∧ d ≤ 10} := ⟨3, by decide⟩
  includeRetired : Bool := false

structure FabricSliceResponse where
  objects : List FabricObject
  links : List FabricLink
  rootIds : List String
  totalObjects : ℕ
  totalLinks : ℕ
  depthReached : ℤ

/-- An empty list does not restrict. -/
def admits {α : Type} [DecidableEq α] (allowed : List α) (a : α) : Bool := allowed = [] ∨ a ∈ allowed

structure ControlFabricService where
  objects : Dict String FabricObject
  links : Dict String FabricLink

namespace ControlFabricService
variable (rt : Runtime)

def new : ControlFabricService := ⟨Dict.empty, Dict.empty⟩

/-- The object registered at draw `n`. -/
def newObject (tenantId : String) (create : FabricObjectCreate) (n : ℕ) : FabricObject where
  id := rt.uuid4 n
  tenantId := tenantId
  controlType := create.controlType
  plane := create.plane
  domain := create.domain
  label := create.label
  description := create.description
  payload := create.payload
  sourceDocumentId := create.sourceDocumentId
  sourceChunkId := create.sourceChunkId
  sourceClauseRef := create.sourceClauseRef
  confidence := create.confidence
  status := .active
  tags := create.tags
  metadata := create.metadata
  version := 1
  createdAt := rt.now (n + 1)
  updatedAt := rt.now (n + 1)

def registerObject (tenantId : String) (create : FabricObjectCreate) (n : ℕ)
    (s : ControlFabricService) : ControlFabricService :=
  { s with objects := s.objects.set (rt.uuid4 n) (newObject rt tenantId create n) }

/-- An object that is not there is not updated. -/
def updateObjectStatus (objectId : String) (status : ControlObjectStatus) (n : ℕ)
    (s : ControlFabricService) : ControlFabricService :=
  match s.objects.get? objectId with
  | none => s
  | some obj =>
    { s with objects := s.objects.set objectId { obj with
        status := status
        updatedAt := rt.now n
        version := obj.version + 1 } }

def newLink (tenantId : String) (create : FabricLinkCreate) (n : ℕ) : FabricLink where
  id := rt.uuid4 n
  sourceId := create.sourceId
  targetId := create.targetId
  linkType := create.linkType
  weight := create.weight
  evidenceRefs := create.evidenceRefs
  metadata := create.metadata
  tenantId := tenantId
  createdAt := rt.now (n + 1)

/-- Neither of the ends is looked up. -/
def linkObjects (tenantId : String) (create : FabricLinkCreate) (n : ℕ) (s : ControlFabricService) :
    ControlFabricService :=
  { s with links := s.links.set (rt.uuid4 n) (newLink rt tenantId create n) }

def getLinksForObject (s : ControlFabricService) (objectId direction : String) : List FabricLink :=
  s.links.values.filter fun link =>
    (direction = "outgoing" ∨ direction = "both") ∧ link.sourceId = objectId ∨
      (direction = "incoming" ∨ direction = "both") ∧ link.targetId = objectId

/-- `query_objects` without a filter. -/
def queryObjects (s : ControlFabricService) (tenantId : String) : List FabricObject :=
  s.objects.values.filter fun o => o.tenantId = tenantId

/-! ### Slices -/

/-- The state of the search of `build_slice`; `visitedIds` is a set. -/
structure SliceSearch where
  queue : List (String × ℤ)
  visitedIds : List String
  collectedLinks : List FabricLink
  depthReached : ℤ

/-- The object a slice may go on to. -/
def sliceAdmits (tenantId : String) (request : FabricSliceRequest) (neighbor : FabricObject) : Bool :=
  neighbor.tenantId = tenantId ∧ admits request.planes neighbor.plane ∧
    admits request.domains neighbor.domain ∧ (request.includeRetired ∨ neighbor.status ≠ .retired)

/-- The body of the inner loop, for one link. -/
def collectLink (s : ControlFabricService) (tenantId : String) (request : FabricSliceRequest)
    (currentId : String) (depth : ℤ) (search : SliceSearch) (link : FabricLink) : SliceSearch :=
  match link.neighborId currentId with
  | none => search
  | some neighborId =>
    if ¬ admits request.linkTypes link.linkType then search
    else
      match s.objects.get? neighborId with
      | none => search
      | some neighbor =>
        if ¬ sliceAdmits tenantId request neighbor then search
        else
          let search := { search with collectedLinks := search.collectedLinks ++ [link] }
          if neighborId ∉ search.visitedIds ∧ depth + 1 ≤ request.maxDepth then
            { search with
              visitedIds := search.visitedIds ++ [neighborId]
              queue := search.queue ++ [(neighborId, depth + 1)] }
          else search

/-- The body of the outer loop; `none` when the queue is empty. -/
def sliceStep (s : ControlFabricService) (tenantId : String) (request : FabricSliceRequest)
    (search : SliceSearch) : Option SliceSearch :=
  match search.queue with
  | [] => none
  | (currentId, depth) :: queue =>
    some (s.links.values.foldl (s.collectLink tenantId request currentId depth) { search with
      queue := queue
      depthReached := if search.depthReached < depth then depth else search.depthReached })

def sliceStart (s : ControlFabricService) (rootIds : List String) : SliceSearch :=
  let roots := rootIds.filter fun rootId => rootId ∈ s.objects
  ⟨roots.map fun rootId => (rootId, 0), roots.dedup, [], 0⟩

/-- `build_slice`, with its loop run for at most `fuel` rounds. -/
def buildSlice (fuel : ℕ) (s : ControlFabricService) (tenantId : String)
    (request : FabricSliceRequest) : Option FabricSliceResponse :=
  (loop (s.sliceStep tenantId request) fuel (s.sliceStart request.rootIds)).map fun search =>
    let objects := search.visitedIds.filterMap s.objects.get?
    { objects := objects
      links := search.collectedLinks
      rootIds := request.rootIds
      totalObjects := objects.length
      totalLinks := search.collectedLinks.length
      depthReached := search.depthReached }

end ControlFabricService
end ControlFabric.Services
