import ControlFabric.Services.ControlFabricService
import ControlFabric.Reconciliation.DomainTypes
import ControlFabric.Lib.Dict

/-! The graph service over a control fabric: snapshots, slices with a budget, and analytics. -/
namespace ControlFabric.Services
open Lib Py
open Fabric.Reconciliation (ValueOps)

structure GraphNodeData where
  objectId : String
  controlType : String
  plane : ControlPlane
  domain : String
  label : String
  confidence : ℚ
  status : String
  tags : List String
  depth : ℤ

structure GraphEdgeData where
  linkId : String
  sourceId : String
  targetId : String
  linkType : ControlLinkType
  weight : ℚ
  deriving DecidableEq

/-- What a node shows of an object. -/
def FabricObject.node (obj : FabricObject) (depth : ℤ) : GraphNodeData where
  objectId := obj.id
  controlType := obj.controlType
  plane := obj.plane
  domain := obj.domain
  label := obj.label
  confidence := obj.confidence
  status := obj.status.value
  tags := obj.tags
  depth := depth

def FabricLink.edge (link : FabricLink) : GraphEdgeData :=
  ⟨link.id, link.sourceId, link.targetId, link.linkType, link.weight⟩

structure GraphSnapshotCreate where
  tenantId : String
  label : Option String := none
  scopePlanes : List ControlPlane := []
  scopeDomains : List String := []
  metadata : JsonDict := []

/-- A snapshot is ready when it is made. -/
structure GraphSnapshot where
  id : String
  tenantId : String
  label : Option String
  status : String
  nodeCount : ℕ
  edgeCount : ℕ
  scopePlanes : List String
  scopeDomains : List String
  metadata : JsonDict
  createdAt : DateTime

inductive GraphSlicePolicy where
  | bfs
  | dfs
  | weighted
  | planeBounded
  deriving DecidableEq

structure GraphSliceRequest where
  rootIds : List String
  maxDepth : {d : ℤ // 1 ≤ d ∧ d ≤ 10} := ⟨3, by decide⟩
  policy : GraphSlicePolicy := .bfs
  allowedPlanes : List ControlPlane := []
  allowedLinkTypes : List ControlLinkType := []
  minWeight : ℚ := 0
  maxNodes : {n : ℤ // 1 ≤ n ∧ n ≤ 500} := ⟨100, by decide⟩
  includeMetadata : Bool := false

structure GraphSliceResponse where
  sliceId : String
  nodes : List GraphNodeData
  edges : List GraphEdgeData
  rootIds : List String
  depthReached : ℤ
  policyUsed : GraphSlicePolicy
  truncated : Bool

structure StoredSlice where
  response : GraphSliceResponse
  tenantId : String
  createdAt : DateTime

structure GraphAnalytics where
  snapshotId : String
  nodeCount : ℕ
  edgeCount : ℕ
  connectedComponents : ℕ
  avgDegree : ℚ
  maxDepth : ℕ
  crossPlaneEdges : ℕ
  contradictionCount : ℕ
  byPlane : Dict String ℕ
  byLinkType : Dict String ℕ

/-- The state of the search of `slice_graph`. -/
structure GraphSearch where
  queue : List (String × ℤ)
  visited : Dict String ℤ
  collectedEdges : List GraphEdgeData
  depthReached : ℤ
  truncated : Bool

structure ControlGraphService where
  fabric : ControlFabricService
  snapshots : Dict String GraphSnapshot
  snapshotNodes : Dict String (List GraphNodeData)
  snapshotEdges : Dict String (List GraphEdgeData)
  slices : Dict String StoredSlice

namespace ControlGraphService
variable (rt : Runtime)

def new : ControlGraphService :=
  ⟨ControlFabricService.new, Dict.empty, Dict.empty, Dict.empty, Dict.empty⟩

/-! ### Snapshots -/

def scopeObjects (fabric : ControlFabricService) (create : GraphSnapshotCreate) :
    List FabricObject :=
  (fabric.queryObjects create.tenantId).filter fun o =>
    admits create.scopePlanes o.plane ∧ admits create.scopeDomains o.domain

/-- The links that go out from one of the objects and lead to one of them. -/
def edgesAmong (fabric : ControlFabricService) (objIds : List String) : List FabricLink :=
  objIds.flatMap fun oid =>
    (fabric.getLinksForObject oid "outgoing").filter fun link => link.targetId ∈ objIds

/-- The snapshot taken at draw `n`. -/
def newSnapshot (create : GraphSnapshotCreate) (nodeCount edgeCount n : ℕ) : GraphSnapshot where
  id := rt.uuid4 n
  tenantId := create.tenantId
  label := create.label
  status := "ready"
  nodeCount := nodeCount
  edgeCount := edgeCount
  scopePlanes := create.scopePlanes.map ControlPlane.value
  scopeDomains := create.scopeDomains
  metadata := create.metadata
  createdAt := rt.now (n + 1)

def createSnapshot (create : GraphSnapshotCreate) (n : ℕ) (s : ControlGraphService) :
    ControlGraphService :=
  let objects := scopeObjects s.fabric create
  let nodes := objects.map fun obj => obj.node 0
  let edges := (edgesAmong s.fabric (objects.map FabricObject.id)).map FabricLink.edge
  let snapId := rt.uuid4 n
  { s with
    snapshots := s.snapshots.set snapId (newSnapshot rt create nodes.length edges.length n)
    snapshotNodes := s.snapshotNodes.set snapId nodes
    snapshotEdges := s.snapshotEdges.set snapId edges }

/-! ### Slices -/

/-- The object a slice may go on to over the link. -/
def follows (fabric : ControlFabricService) (tenantId : String) (request : GraphSliceRequest)
    (currentId : String) (link : FabricLink) : Option String :=
  match link.neighborId currentId with
  | none => none
  | some neighborId =>
    if ¬ admits request.allowedLinkTypes link.linkType then none
    else if link.weight < request.minWeight then none
    else
      match fabric.objects.get? neighborId with
      | none => none
      | some neighbor =>
        if neighbor.tenantId ≠ tenantId then none
        else if ¬ admits request.allowedPlanes neighbor.plane then none
        else some neighborId

/-- The body of the inner loop, for one link. -/
def collectEdge (fabric : ControlFabricService) (tenantId : String) (request : GraphSliceRequest)
    (currentId : String) (depth : ℤ) (search : GraphSearch) (link : FabricLink) : GraphSearch :=
  match follows fabric tenantId request currentId link with
  | none => search
  | some neighborId =>
    let search := { search with collectedEdges := search.collectedEdges ++ [link.edge] }
    if neighborId ∉ search.visited ∧ depth + 1 ≤ request.maxDepth then
      { search with
        visited := search.visited.set neighborId (depth + 1)
        queue := search.queue ++ [(neighborId, depth + 1)] }
    else search

/-- The body of the outer loop; `none` when the loop has ended. -/
def sliceStep (fabric : ControlFabricService) (tenantId : String) (request : GraphSliceRequest)
    (search : GraphSearch) : Option GraphSearch :=
  match search.truncated, search.queue with
  | true, _ | false, [] => none
  | false, (currentId, depth) :: queue =>
    let search := { search with
      queue := queue
      depthReached := if search.depthReached < depth then depth else search.depthReached }
    if request.maxNodes ≤ (search.visited.entries.length : ℤ) then
      some { search with truncated := true }
    else some (fabric.links.values.foldl (collectEdge fabric tenantId request currentId depth) search)

/-- The roots a slice starts from. -/
def sliceRoots (fabric : ControlFabricService) (tenantId : String) (request : GraphSliceRequest) :
    List String :=
  request.rootIds.filter fun rootId =>
    (fabric.objects.get? rootId).any fun obj => obj.tenantId = tenantId

def sliceStart (fabric : ControlFabricService) (tenantId : String) (request : GraphSliceRequest) :
    GraphSearch :=
  let roots := sliceRoots fabric tenantId request
  ⟨roots.map fun rootId => (rootId, 0),
    roots.foldl (fun visited rootId => visited.set rootId 0) Dict.empty, [], 0, false⟩

/-- What `slice_graph` finds, with its loop run for at most `fuel` rounds. -/
def search (fuel : ℕ) (fabric : ControlFabricService) (tenantId : String)
    (request : GraphSliceRequest) : Option GraphSearch :=
  loop (sliceStep fabric tenantId request) fuel (sliceStart fabric tenantId request)

/-- The answer to a slice request, under the identifier drawn for it. -/
def respond (fabric : ControlFabricService) (request : GraphSliceRequest) (sliceId : String)
    (found : GraphSearch) : GraphSliceResponse where
  sliceId := sliceId
  nodes := found.visited.entries.filterMap fun e => (fabric.objects.get? e.1).map fun obj =>
    { obj.node e.2 with objectId := e.1 }
  edges := found.collectedEdges
  rootIds := request.rootIds
  depthReached := found.depthReached
  policyUsed := request.policy
  truncated := found.truncated

def sliceGraph (fuel : ℕ) (s : ControlGraphService) (tenantId : String) (request : GraphSliceRequest)
    (n : ℕ) : Option (GraphSliceResponse × ControlGraphService) :=
  (search fuel s.fabric tenantId request).map fun found =>
    let response := respond s.fabric request (rt.uuid4 n) found
    (response, { s with
      slices := s.slices.set (rt.uuid4 n) ⟨response, tenantId, rt.now (n + 1)⟩ })

/-! ### Analytics -/

/-- The two ends of the edge are there, in different planes. -/
def crossesPlanes (fabric : ControlFabricService) (e : GraphEdgeData) : Bool :=
  match fabric.objects.get? e.sourceId, fabric.objects.get? e.targetId with
  | some source, some target => source.plane ≠ target.plane
  | _, _ => false

def degreeSum (nodeIds : List String) (edges : List GraphEdgeData) : ℕ :=
  (edges.map fun e =>
    (if e.sourceId ∈ nodeIds then 1 else 0) + if e.targetId ∈ nodeIds then 1 else 0).sum

/-- What is said of nodes and edges. -/
def analyse (ops : ValueOps) (fabric : ControlFabricService) (snapshotId : String)
    (nodes : List (String × ControlPlane)) (edges : List GraphEdgeData) : GraphAnalytics where
  snapshotId := snapshotId
  nodeCount := nodes.length
  edgeCount := edges.length
  connectedComponents := if 0 < nodes.length then 1 else 0
  avgDegree :=
    if 0 < nodes.length then
      ops.round ((degreeSum (nodes.map Prod.fst) edges : ℚ) / nodes.length)
    else 0
  maxDepth := 0
  crossPlaneEdges := edges.countP fun e => crossesPlanes fabric e
  contradictionCount := edges.countP fun e => e.linkType.value = "contradicts"
  byPlane := Dict.tally (fun node => node.2.value) nodes
  byLinkType := Dict.tally (fun e => e.linkType.value) edges

/-- `uuid.UUID(int=0)`. -/
def nilId : String := "00000000-0000-0000-0000-000000000000"

/-- Without a snapshot that is there, all objects of the tenant are looked at as they are now. -/
def getAnalytics (ops : ValueOps) (s : ControlGraphService) (tenantId : String) (snapshotId : Option String) :
    GraphAnalytics :=
  match snapshotId.filter fun id => id ∈ s.snapshots with
  | some id =>
    analyse ops s.fabric id
      ((s.snapshotNodes.getD id []).map fun node => (node.objectId, node.plane))
      (s.snapshotEdges.getD id [])
  | none =>
    let objs := s.fabric.queryObjects tenantId
    analyse ops s.fabric (snapshotId.getD nilId) (objs.map fun o => (o.id, o.plane))
      ((edgesAmong s.fabric (objs.map FabricObject.id)).map FabricLink.edge)

end ControlGraphService
end ControlFabric.Services
