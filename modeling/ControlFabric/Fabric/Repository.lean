import ControlFabric.Fabric.ControlObject
import ControlFabric.Lib.Loop
import ControlFabric.Lib.Bfs

/-! The in-memory repository of the control graph and its searches. -/
namespace ControlFabric.Fabric
open Lib

structure InMemoryGraphRepository where
  objects : Dict String ControlObject
  links : Dict String ControlLink

/-- The other end of a link at `current`, if it is one. -/
def ControlLink.neighbor (link : ControlLink) (current : String) : Option String :=
  if link.sourceId = current then some link.targetId
  else if link.targetId = current then some link.sourceId
  else none

/-- A queue of ids with the paths that lead to them, and the path found. -/
structure PathSearch where
  queue : List (String × List String)
  visited : List String
  found : Option (List String)

/-- A queue of ids with their depths, and what has been collected. -/
structure SliceSearch where
  queue : List (String × ℤ)
  visited : List String
  collectedLinks : List ControlLink

namespace InMemoryGraphRepository

def empty : InMemoryGraphRepository := ⟨Dict.empty, Dict.empty⟩

def storeObject (obj : ControlObject) (repo : InMemoryGraphRepository) : InMemoryGraphRepository :=
  { repo with objects := repo.objects.set obj.id obj }

def storeLink (link : ControlLink) (repo : InMemoryGraphRepository) : InMemoryGraphRepository :=
  { repo with links := repo.links.set link.id link }

/-- An empty domain or kind does not restrict the result. -/
def listObjects (repo : InMemoryGraphRepository) (tenantId : String) (plane : Option PlaneType)
    (domain objectKind : Option String) (state : Option ControlState) : List ControlObject :=
  repo.objects.values.filter fun o => o.tenantId = tenantId ∧ (∀ p ∈ plane, o.plane = p) ∧
    (∀ d ∈ domain, d = "" ∨ o.domain = d) ∧ (∀ k ∈ objectKind, k = "" ∨ o.objectKind = k) ∧
    ∀ t ∈ state, o.state = t

def getAllLinks (repo : InMemoryGraphRepository) (tenantId : String) : List ControlLink :=
  repo.links.values.filter fun l => l.tenantId = tenantId

def getLinksForObject (repo : InMemoryGraphRepository) (objectId direction : String)
    (linkType : Option ControlLinkType) : List ControlLink :=
  repo.links.values.filter fun link =>
    ((direction = "outgoing" ∨ direction = "both") ∧ link.sourceId = objectId ∨
      (direction = "incoming" ∨ direction = "both") ∧ link.targetId = objectId) ∧
      ∀ t ∈ linkType, link.linkType = t

/-- The neighbours are collected in a set, in no particular order. -/
def getNeighbours (repo : InMemoryGraphRepository) (objectId direction : String)
    (linkType : Option ControlLinkType) : List ControlObject :=
  let neighbourIds := (repo.getLinksForObject objectId direction linkType).flatMap fun link =>
    (if link.sourceId = objectId then [link.targetId] else []) ++
      if link.targetId = objectId then [link.sourceId] else []
  neighbourIds.dedup.filterMap repo.objects.get?

/-- The body of the inner loop of `find_path`, for one link. -/
def visitLink (repo : InMemoryGraphRepository) (current : String) (path : List String)
    (s : PathSearch) (link : ControlLink) : PathSearch :=
  match link.neighbor current with
  | none => s
  | some neighbor =>
    if neighbor ∉ s.visited ∧ neighbor ∈ repo.objects then
      { s with
        visited := s.visited ++ [neighbor]
        queue := s.queue ++ [(neighbor, path ++ [neighbor])] }
    else s

/-- The body of the outer loop; `none` when a path is found or the queue is empty. -/
def pathStep (repo : InMemoryGraphRepository) (targetId : String) (maxDepth : ℤ) (s : PathSearch) :
    Option PathSearch :=
  match s.found, s.queue with
  | some _, _ => none
  | none, [] => none
  | none, (current, path) :: queue =>
    if current = targetId then some { s with queue := queue, found := some path }
    else if maxDepth < path.length then some { s with queue := queue }
    else some (repo.links.values.foldl (repo.visitLink current path) { s with queue := queue })

/-- `find_path`, with its `while` loop run for at most `fuel` rounds. -/
def findPath (fuel : ℕ) (repo : InMemoryGraphRepository) (sourceId targetId : String)
    (maxDepth : ℤ) : Option (Option (List String)) :=
  if sourceId ∉ repo.objects ∨ targetId ∉ repo.objects then some none
  else (loop (repo.pathStep targetId maxDepth) fuel ⟨[(sourceId, [sourceId])], [sourceId], none⟩).map
    PathSearch.found

/-- An allow-list that is absent or empty allows everything. -/
def allows {α : Type} [DecidableEq α] (allowed : Option (List α)) (a : α) : Bool :=
  match allowed with
  | none | some [] => true
  | some l => a ∈ l

/-- The body of the inner loop of `get_graph_slice`, for one link. -/
def collectLink (repo : InMemoryGraphRepository) (maxDepth : ℤ)
    (allowedPlanes : Option (List PlaneType)) (allowedLinkTypes : Option (List ControlLinkType))
    (currentId : String) (depth : ℤ) (s : SliceSearch) (link : ControlLink) : SliceSearch :=
  match link.neighbor currentId with
  | none => s
  | some neighborId =>
    if ¬ allows allowedLinkTypes link.linkType then s
    else
      match repo.objects.get? neighborId with
      | none => s
      | some neighbor =>
        if ¬ allows allowedPlanes neighbor.plane then s
        else
          let collected := { s with collectedLinks := s.collectedLinks ++ [link] }
          if neighborId ∉ s.visited ∧ depth + 1 ≤ maxDepth then
            { collected with
              visited := s.visited ++ [neighborId]
              queue := s.queue ++ [(neighborId, depth + 1)] }
          else collected

/-- The body of the outer loop; `none` when the queue is empty. -/
def sliceStep (repo : InMemoryGraphRepository) (maxDepth : ℤ)
    (allowedPlanes : Option (List PlaneType)) (allowedLinkTypes : Option (List ControlLinkType))
    (s : SliceSearch) : Option SliceSearch :=
  match s.queue with
  | [] => none
  | (currentId, depth) :: queue =>
    some (repo.links.values.foldl
      (repo.collectLink maxDepth allowedPlanes allowedLinkTypes currentId depth)
      { s with queue := queue })

/-- The roots that are stored; `visited` is a set. -/
def sliceStart (repo : InMemoryGraphRepository) (rootIds : List String) : SliceSearch :=
  let roots := rootIds.filter fun rid => rid ∈ repo.objects
  ⟨roots.map fun rid => (rid, 0), roots.dedup, []⟩

/-- `get_graph_slice`, with its `while` loop run for at most `fuel` rounds. -/
def getGraphSlice (fuel : ℕ) (repo : InMemoryGraphRepository) (rootIds : List String)
    (maxDepth : ℤ) (allowedPlanes : Option (List PlaneType))
    (allowedLinkTypes : Option (List ControlLinkType)) :
    Option (List ControlObject × List ControlLink) :=
  (loop (repo.sliceStep maxDepth allowedPlanes allowedLinkTypes) fuel
    (repo.sliceStart rootIds)).map fun s =>
      (s.visited.filterMap repo.objects.get?, s.collectedLinks)

end InMemoryGraphRepository

/-! ### Plain objects and links -/

/-- An active object with nothing but its identity, its tenant and its plane. -/
def plainObject (id tenantId : String) (plane : PlaneType) : ControlObject where
  id := id
  tenantId := tenantId
  objectType := .workOrder
  objectKind := "work-order"
  plane := plane
  domain := "grid"
  label := id
  description := none
  state := .active
  version := 1
  confidence := 1
  provenance := { createdBy := "ada", creationMethod := .deterministic }
  evidence := []
  payload := []
  correlationKeys := []
  externalRefs := []
  tags := []
  schemaVersion := "1.0"
  supersededBy := none
  derivedFrom := []
  auditTrail := []
  createdAt := Runtime.reference.now 0
  updatedAt := Runtime.reference.now 0

/-- A link of the first tenant with nothing but its identity, its type and its ends. -/
def plainLink (id sourceId targetId : String) (linkType : ControlLinkType) : ControlLink where
  id := id
  tenantId := "north"
  sourceId := sourceId
  targetId := targetId
  linkType := linkType
  directionality := linkType.linkDirectionality
  sourcePlane := none
  targetPlane := none
  weight := 1
  confidence := 1
  evidence := []
  metadata := []
  createdAt := Runtime.reference.now 0

/-- Three objects of the field plane, the links of which lead to the first and from it. -/
def threeVisits : InMemoryGraphRepository :=
  ((((InMemoryGraphRepository.empty.storeObject (plainObject "visit" "north" .field)).storeObject
    (plainObject "repair" "north" .field)).storeObject (plainObject "invoice" "north" .field)).storeLink
    (plainLink "l1" "repair" "visit" .derivesFrom)).storeLink
    (plainLink "l2" "repair" "invoice" .impacts)

end ControlFabric.Fabric

/-! A slice of the control graph holds exactly the stored roots and the objects that few enough
allowed links join to them. -/
namespace ControlFabric.Fabric.InMemoryGraphRepository
open Lib

variable (repo : InMemoryGraphRepository) (maxDepth : ℤ) (allowedPlanes : Option (List PlaneType))
  (allowedLinkTypes : Option (List ControlLinkType))

/-- The object a link leads to from `currentId`, if the slice may follow the link to it. -/
def sliceNeighbor (currentId : String) (link : ControlLink) : Option String :=
  (link.neighbor currentId).filter fun id => allows allowedLinkTypes link.linkType ∧
    (repo.objects.get? id).any fun obj => allows allowedPlanes obj.plane

def sliceNext (currentId : String) : List String :=
  repo.links.values.filterMap (repo.sliceNeighbor allowedPlanes allowedLinkTypes currentId)

/-- A stored root, or an object that at most `maxDepth` allowed links join to one. -/
def InSlice (rootIds : List String) (id : String) : Prop :=
  WithinFrom (Frontier.Edge (repo.sliceNext allowedPlanes allowedLinkTypes))
    (rootIds.filter fun rid => rid ∈ repo.objects) maxDepth id

/-- A link that may be followed is collected, and the object it leads to is visited unless it is
known or lies too deep. -/
theorem collectLink_eq (currentId : String) (depth : ℤ) (s : SliceSearch) (link : ControlLink) :
    repo.collectLink maxDepth allowedPlanes allowedLinkTypes currentId depth s link =
      match repo.sliceNeighbor allowedPlanes allowedLinkTypes currentId link with
      | none => s
      | some id =>
        if id ∉ s.visited ∧ depth + 1 ≤ maxDepth then
          ⟨s.queue ++ [(id, depth + 1)], s.visited ++ [id], s.collectedLinks ++ [link]⟩
        else { s with collectedLinks := s.collectedLinks ++ [link] } := by
  unfold collectLink sliceNeighbor
  cases link.neighbor currentId with
  | none => rfl
  | some id =>
    by_cases htype : allows allowedLinkTypes link.linkType
    · cases hobj : repo.objects.get? id with
      | none => simp [htype, hobj, Option.filter]
      | some obj =>
        by_cases hplane : allows allowedPlanes obj.plane
        · simp [htype, hplane, hobj, Option.filter]
        · simp [htype, hplane, hobj, Option.filter]
    · simp [htype, Option.filter]

private def frontier (s : SliceSearch) : Frontier String := ⟨s.queue, s.visited⟩

private theorem frontier_collectLink (currentId : String) (depth : ℤ) (s : SliceSearch)
    (link : ControlLink) :
    frontier (repo.collectLink maxDepth allowedPlanes allowedLinkTypes currentId depth s link) =
      match repo.sliceNeighbor allowedPlanes allowedLinkTypes currentId link with
      | none => frontier s
      | some id => (frontier s).visit maxDepth depth id := by
  rw [collectLink_eq]
  cases repo.sliceNeighbor allowedPlanes allowedLinkTypes currentId link with
  | none => rfl
  | some id =>
    dsimp only
    unfold Frontier.visit frontier
    split_ifs <;> rfl

private theorem frontier_foldl (currentId : String) (depth : ℤ) (links : List ControlLink)
    (s : SliceSearch) :
    frontier (links.foldl
        (repo.collectLink maxDepth allowedPlanes allowedLinkTypes currentId depth) s) =
      (links.filterMap (repo.sliceNeighbor allowedPlanes allowedLinkTypes currentId)).foldl
        (Frontier.visit maxDepth depth) (frontier s) := by
  induction links generalizing s with
  | nil => rfl
  | cons link links ih =>
    rw [List.foldl_cons, ih, frontier_collectLink]
    cases h : repo.sliceNeighbor allowedPlanes allowedLinkTypes currentId link with
    | none => rw [List.filterMap_cons_none h]
    | some id => rw [List.filterMap_cons_some h, List.foldl_cons]

private theorem frontier_sliceStep (s : SliceSearch) :
    (repo.sliceStep maxDepth allowedPlanes allowedLinkTypes s).map frontier =
      (frontier s).expand (repo.sliceNext allowedPlanes allowedLinkTypes) maxDepth := by
  obtain ⟨queue, visited, collectedLinks⟩ := s
  cases queue with
  | nil => rfl
  | cons e queue =>
    have hfold := repo.frontier_foldl maxDepth allowedPlanes allowedLinkTypes e.1 e.2
      repo.links.values ⟨queue, visited, collectedLinks⟩
    exact congrArg some hfold

theorem mem_sliceNext {currentId id : String} :
    id ∈ repo.sliceNext allowedPlanes allowedLinkTypes currentId ↔
      ∃ link ∈ repo.links.values, link.neighbor currentId = some id ∧
        allows allowedLinkTypes link.linkType ∧
        ∃ obj, repo.objects.get? id = some obj ∧ allows allowedPlanes obj.plane := by
  unfold sliceNext sliceNeighbor
  simp only [List.mem_filterMap, Option.filter_eq_some_iff, Bool.decide_and, Bool.and_eq_true,
    decide_eq_true_eq, Option.any_eq_true]

theorem sliceNext_stored (currentId : String) :
    ∀ id ∈ repo.sliceNext allowedPlanes allowedLinkTypes currentId, id ∈ repo.objects.keys := by
  intro id hid
  obtain ⟨-, -, -, -, obj, hobj, -⟩ := (repo.mem_sliceNext _ _).mp hid
  exact Dict.mem_iff_keys.mp (Dict.mem_of_get? hobj)

/-- The search of a slice ends, and has visited what is in the slice. -/
theorem loop_sliceStep (rootIds : List String) {fuel : ℕ}
    (hfuel : rootIds.length + repo.objects.keys.length < fuel) :
    ∃ final, loop (repo.sliceStep maxDepth allowedPlanes allowedLinkTypes) fuel
        (repo.sliceStart rootIds) = some final ∧ final.visited.Nodup ∧
      ∀ id, id ∈ final.visited ↔ repo.InSlice maxDepth allowedPlanes allowedLinkTypes rootIds id := by
  have hroots : (rootIds.filter fun rid => rid ∈ repo.objects).length ≤ rootIds.length :=
    List.length_filter_le _ _
  have hbound : (rootIds.filter fun rid => rid ∈ repo.objects).length +
      repo.objects.keys.length < fuel := by omega
  obtain ⟨final, hloop, hnodup, hvisited⟩ := Frontier.loop_expand (D := maxDepth)
    (repo.sliceNext_stored allowedPlanes allowedLinkTypes) hbound
  have hview := loop_map (repo.frontier_sliceStep maxDepth allowedPlanes allowedLinkTypes) fuel
    (repo.sliceStart rootIds)
  have hstart : frontier (repo.sliceStart rootIds) =
      Frontier.start (rootIds.filter fun rid => rid ∈ repo.objects) := rfl
  rw [hstart, hloop] at hview
  obtain ⟨s, hs, rfl⟩ := Option.map_eq_some_iff.mp hview
  exact ⟨s, hs, hnodup, hvisited⟩

/-- The search of a slice ends, and finds what is in the slice. -/
theorem getGraphSlice_exact (rootIds : List String) {fuel : ℕ}
    (hfuel : rootIds.length + repo.objects.keys.length < fuel) :
    ∃ (visited : List String) (links : List ControlLink),
      repo.getGraphSlice fuel rootIds maxDepth allowedPlanes allowedLinkTypes =
          some (visited.filterMap repo.objects.get?, links) ∧
        visited.Nodup ∧
        ∀ id, id ∈ visited ↔ repo.InSlice maxDepth allowedPlanes allowedLinkTypes rootIds id := by
  obtain ⟨final, hloop, hnodup, hvisited⟩ :=
    repo.loop_sliceStep maxDepth allowedPlanes allowedLinkTypes rootIds hfuel
  refine ⟨final.visited, final.collectedLinks, ?_, hnodup, hvisited⟩
  unfold getGraphSlice
  rw [hloop]
  rfl

/-- What is in a slice is stored. -/
theorem InSlice.stored {repo : InMemoryGraphRepository} {maxDepth : ℤ}
    {allowedPlanes : Option (List PlaneType)} {allowedLinkTypes : Option (List ControlLinkType)}
    {rootIds : List String} {id : String}
    (h : repo.InSlice maxDepth allowedPlanes allowedLinkTypes rootIds id) : id ∈ repo.objects := by
  obtain ⟨n, -, root, hroot, hsteps⟩ := h
  cases hsteps with
  | zero => simpa using (List.mem_filter.mp hroot).2
  | succ _ hnext => exact repo.sliceNext_stored _ _ _ _ hnext

end ControlFabric.Fabric.InMemoryGraphRepository
