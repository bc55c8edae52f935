import Mathlib.Data.Set.Card
import ControlFabric.Fabric.SliceLinks

/-! Typed slices. Of its traversal policy the slice follows the depth, the link types and, beyond
the roots, the planes; what it reports as reached is the depth that was asked for. -/
namespace ControlFabric.Fabric
open Lib

/-- Policy controlling graph traversal scope. -/
structure GraphTraversalPolicy where
  maxDepth : ℤ := 5
  allowedPlanes : Option (List PlaneType) := none
  allowedLinkTypes : Option (List ControlLinkType) := none
  followBidirectional : Bool := true
  includeDeprecated : Bool := false
  includeSuperseded : Bool := false
  maxNodes : ℤ := 1000

structure ControlGraphSlice where
  rootIds : List String
  objectIds : List String
  linkIds : List String
  planesPresent : List PlaneType
  depthReached : ℤ
  totalObjects : ℕ
  totalLinks : ℕ
  isCrossPlane : Bool

namespace InMemoryGraphRepository

/-- `get_typed_graph_slice` of the service, on its repository. -/
def getTypedGraphSlice (fuel : ℕ) (repo : InMemoryGraphRepository) (rootIds : List String)
    (policy : Option GraphTraversalPolicy) : Option ControlGraphSlice :=
  let pol := policy.getD {}
  (repo.getGraphSlice fuel rootIds pol.maxDepth pol.allowedPlanes pol.allowedLinkTypes).map
    fun (objects, links) =>
      let planesPresent := (objects.map ControlObject.plane).dedup
      { rootIds := rootIds
        objectIds := objects.map ControlObject.id
        linkIds := links.map ControlLink.id
        planesPresent := planesPresent
        depthReached := pol.maxDepth
        totalObjects := objects.length
        totalLinks := links.length
        isCrossPlane := 1 < planesPresent.length }

variable (repo : InMemoryGraphRepository) (pol : GraphTraversalPolicy) (rootIds : List String)

/-- The object is among those that the policy asks for. -/
def Included (id : String) : Prop :=
  ∀ obj, repo.objects.get? id = some obj →
    (obj.state = .deprecated → pol.includeDeprecated) ∧
      (obj.state = .superseded → pol.includeSuperseded)

/-- How far the object is from the next stored root, over the links and planes of the policy. -/
def DistanceFromRoot (n : ℕ) (id : String) : Prop :=
  DistFrom (Frontier.Edge (repo.sliceNext pol.allowedPlanes pol.allowedLinkTypes))
    (rootIds.filter fun rid => rid ∈ repo.objects) n id

/-- The slice keeps within every limit of its policy, and reports the depth it reached. -/
structure HonoursPolicy (slice : ControlGraphSlice) : Prop where
  nodes : (slice.objectIds.length : ℤ) ≤ pol.maxNodes
  states : ∀ id ∈ slice.objectIds, repo.Included pol id
  planes : ∀ id ∈ slice.objectIds, repo.enterable pol.allowedPlanes id
  depth : slice.objectIds ≠ [] → IsGreatest
    {d : ℤ | ∃ id ∈ slice.objectIds, ∃ n : ℕ, repo.DistanceFromRoot pol rootIds n id ∧ d = n}
    slice.depthReached

/-- What is found near the roots. -/
abbrev Near (id : String) : Prop :=
  repo.InSlice pol.maxDepth pol.allowedPlanes pol.allowedLinkTypes rootIds id

/-- The limits that a slice does not follow do not bind near these roots. -/
structure LimitsIdle : Prop where
  nodes : ({id | repo.Near pol rootIds id}.ncard : ℤ) ≤ pol.maxNodes
  states : ∀ id, repo.Near pol rootIds id → repo.Included pol id
  roots : ∀ rid ∈ rootIds, rid ∈ repo.objects → repo.enterable pol.allowedPlanes rid
  depth : (∃ rid ∈ rootIds, rid ∈ repo.objects) →
    ∃ (n : ℕ) (id : String), repo.DistanceFromRoot pol rootIds n id ∧ pol.maxDepth = n

variable {repo pol rootIds}

theorem near_root {rid : String} (hroot : rid ∈ rootIds) (hstored : rid ∈ repo.objects) :
    repo.Near pol rootIds rid :=
  ⟨0, Or.inl rfl, stepsFrom_zero.mpr (List.mem_filter.mpr ⟨hroot, by simpa⟩)⟩

theorem Near.exists_root {id : String} (h : repo.Near pol rootIds id) :
    ∃ rid ∈ rootIds, rid ∈ repo.objects := by
  obtain ⟨-, -, root, hroot, -⟩ := h
  obtain ⟨hmem, hstored⟩ := List.mem_filter.mp hroot
  exact ⟨root, hmem, by simpa using hstored⟩

theorem near_of_distance {n : ℕ} {id : String} (h : repo.DistanceFromRoot pol rootIds n id)
    (hn : pol.maxDepth = n) : repo.Near pol rootIds id :=
  ⟨n, Or.inr hn.ge, h.steps⟩

section Visited
variable {visited : List String} (hnodup : visited.Nodup)
  (hvisited : ∀ id, id ∈ visited ↔ repo.Near pol rootIds id)
include hvisited

include hnodup in
theorem length_visited : visited.length = {id | repo.Near pol rootIds id}.ncard := by
  have hset : {id | repo.Near pol rootIds id} = (visited.toFinset : Set String) := by
    ext id
    simp [hvisited]
  rw [hset, Set.ncard_coe_finset, List.toFinset_card_of_nodup hnodup]

/-- Only a root lies outside the allowed planes. -/
theorem planes_iff : (∀ id ∈ visited, repo.enterable pol.allowedPlanes id) ↔
    ∀ rid ∈ rootIds, rid ∈ repo.objects → repo.enterable pol.allowedPlanes rid := by
  constructor
  · intro h rid hroot hstored
    exact h rid ((hvisited rid).mpr (near_root hroot hstored))
  · intro h id hid
    have hnear := (hvisited id).mp hid
    rcases hnear.enterable_or_root with henter | hroot
    · exact henter
    · exact h id hroot hnear.stored

/-- The depth asked for is the depth reached when some object is as far away. -/
theorem depth_iff :
    (visited ≠ [] → IsGreatest
      {d : ℤ | ∃ id ∈ visited, ∃ n : ℕ, repo.DistanceFromRoot pol rootIds n id ∧ d = n}
      pol.maxDepth) ↔
    ((∃ rid ∈ rootIds, rid ∈ repo.objects) →
      ∃ (n : ℕ) (id : String), repo.DistanceFromRoot pol rootIds n id ∧ pol.maxDepth = n) := by
  constructor
  · rintro h ⟨rid, hroot, hstored⟩
    have hmem := (hvisited rid).mpr (near_root hroot hstored)
    obtain ⟨id, -, n, hdist, hn⟩ := (h (List.ne_nil_of_mem hmem)).1
    exact ⟨n, id, hdist, hn⟩
  · intro h hne
    obtain ⟨first, hfirst⟩ := List.exists_mem_of_ne_nil visited hne
    obtain ⟨n, id, hdist, hn⟩ := h ((hvisited first).mp hfirst).exists_root
    refine ⟨⟨id, (hvisited id).mpr (near_of_distance hdist hn), n, hdist, hn⟩, ?_⟩
    rintro d ⟨other, hother, m, hdist', rfl⟩
    have hbound := ((hvisited other).mp hother).dist_le hdist'
    omega

end Visited

end InMemoryGraphRepository

open InMemoryGraphRepository

/-- In every state of the repository a typed slice honours its policy exactly when the limits it
does not follow do not bind near its roots. -/
theorem typed_slice_honours_iff (ops : List RepositoryOp) (rootIds : List String)
    (policy : Option GraphTraversalPolicy) {fuel : ℕ}
    (hfuel : rootIds.length + (repositoryOf ops).objects.keys.length < fuel) :
    ∃ slice, (repositoryOf ops).getTypedGraphSlice fuel rootIds policy = some slice ∧
      ((repositoryOf ops).HonoursPolicy (policy.getD {}) rootIds slice ↔
        (repositoryOf ops).LimitsIdle (policy.getD {}) rootIds) := by
  set repo := repositoryOf ops with hrepo
  set pol := policy.getD {} with hpol
  obtain ⟨visited, links, hslice, hnodup, hvisited⟩ := repo.getGraphSlice_exact pol.maxDepth
    pol.allowedPlanes pol.allowedLinkTypes rootIds hfuel
  have hids : (visited.filterMap repo.objects.get?).map ControlObject.id = visited :=
    map_id_objects (filed_repositoryOf ops) fun id hid => ((hvisited id).mp hid).stored
  have hsome : repo.getTypedGraphSlice fuel rootIds policy = some
      { rootIds := rootIds
        objectIds := visited
        linkIds := links.map ControlLink.id
        planesPresent := ((visited.filterMap repo.objects.get?).map ControlObject.plane).dedup
        depthReached := pol.maxDepth
        totalObjects := (visited.filterMap repo.objects.get?).length
        totalLinks := links.length
        isCrossPlane :=
          1 < ((visited.filterMap repo.objects.get?).map ControlObject.plane).dedup.length } := by
    unfold getTypedGraphSlice
    simp only [← hpol, hslice, Option.map_some, hids]
  refine ⟨_, hsome, ?_⟩
  constructor
  · rintro ⟨hnodes, hstates, hplanes, hdepth⟩
    refine ⟨?_, fun id hid => hstates id ((hvisited id).mpr hid),
      (planes_iff hvisited).mp hplanes, (depth_iff hvisited).mp hdepth⟩
    rwa [← length_visited hnodup hvisited]
  · rintro ⟨hnodes, hstates, hroots, hdepth⟩
    refine ⟨?_, fun id hid => hstates id ((hvisited id).mp hid),
      (planes_iff hvisited).mpr hroots, (depth_iff hvisited).mpr hdepth⟩
    rwa [← length_visited hnodup hvisited] at hnodes

theorem typed_slice_honours_iff_repair : ∃ slice,
    (repositoryOf repairOfVisit).getTypedGraphSlice 4 ["visit"] none = some slice ∧
      ((repositoryOf repairOfVisit).HonoursPolicy {} ["visit"] slice ↔
        (repositoryOf repairOfVisit).LimitsIdle {} ["visit"]) :=
  typed_slice_honours_iff repairOfVisit ["visit"] none (by decide)

/-- A slice of two objects is returned where one is allowed. -/
theorem not_typed_slice_honours : ¬ ∀ (ops : List RepositoryOp) (rootIds : List String)
    (policy : Option GraphTraversalPolicy) (fuel : ℕ),
    rootIds.length + (repositoryOf ops).objects.keys.length < fuel →
      ∃ slice, (repositoryOf ops).getTypedGraphSlice fuel rootIds policy = some slice ∧
        (repositoryOf ops).HonoursPolicy (policy.getD {}) rootIds slice := by
  intro hall
  obtain ⟨slice, hslice, hhonours⟩ :=
    hall repairOfVisit ["visit"] (some { maxNodes := 1 }) 4 (by decide)
  have hlength : ((repositoryOf repairOfVisit).getTypedGraphSlice 4 ["visit"]
      (some { maxNodes := 1 })).map (fun slice => slice.objectIds.length) = some 2 := by decide
  rw [hslice] at hlength
  have htwo : slice.objectIds.length = 2 := Option.some.inj hlength
  have hnodes : (slice.objectIds.length : ℤ) ≤ 1 := hhonours.nodes
  omega

end ControlFabric.Fabric
