import ControlFabric.Reconciliation.Runs
import ControlFabric.Fabric.Steps
import ControlFabric.Lib.Reorder

/-! Repositories that hold the same objects and links in different orders, and what a run fetches
from them. -/
namespace ControlFabric.Fabric.InMemoryGraphRepository
open Lib

/-- The same objects and links, stored in another order. -/
structure Reordered (repo repo' : InMemoryGraphRepository) : Prop where
  objects : repo.objects.entries.Perm repo'.objects.entries
  links : repo.links.entries.Perm repo'.links.entries

variable {repo repo' : InMemoryGraphRepository}

namespace Reordered

theorem get? (h : Reordered repo repo') : repo.objects.get? = repo'.objects.get? :=
  funext (Dict.get?_of_perm h.objects)

theorem objectValues (h : Reordered repo repo') : repo.objects.values.Perm repo'.objects.values :=
  h.objects.map _

theorem linkValues (h : Reordered repo repo') : repo.links.values.Perm repo'.links.values :=
  h.links.map _

theorem keys_length (h : Reordered repo repo') :
    repo.objects.keys.length = repo'.objects.keys.length := (h.objects.map _).length_eq

theorem getAllLinks (h : Reordered repo repo') (tenantId : String) :
    (repo.getAllLinks tenantId).Perm (repo'.getAllLinks tenantId) := h.linkValues.filter _

/-- A slice reaches the same objects. -/
theorem inSlice (h : Reordered repo repo') {maxDepth : ℤ} {allowedPlanes : Option (List PlaneType)}
    {allowedLinkTypes : Option (List ControlLinkType)} {rootIds : List String} {id : String} :
    repo.InSlice maxDepth allowedPlanes allowedLinkTypes rootIds id ↔
      repo'.InSlice maxDepth allowedPlanes allowedLinkTypes rootIds id := by
  have hedge : Frontier.Edge (repo.sliceNext allowedPlanes allowedLinkTypes) =
      Frontier.Edge (repo'.sliceNext allowedPlanes allowedLinkTypes) := by
    funext currentId nextId
    apply propext
    show nextId ∈ _ ↔ nextId ∈ _
    rw [mem_sliceNext, mem_sliceNext, h.get?]
    simp only [h.linkValues.mem_iff]
  have hroots : rootIds.filter (fun rid => rid ∈ repo.objects) =
      rootIds.filter (fun rid => rid ∈ repo'.objects) := by
    apply List.filter_congr
    intro rid _
    rw [decide_eq_decide]
    exact Dict.mem_of_perm h.objects
  unfold InSlice
  rw [hedge, hroots]

end Reordered
end ControlFabric.Fabric.InMemoryGraphRepository

namespace ControlFabric.Fabric.Reconciliation
open Lib

/-- The same objects and links, fetched in another order. -/
structure GraphData.Reordered (d d' : GraphData) : Prop where
  sources : d.sourceObjects.Perm d'.sourceObjects
  targets : d.targetObjects.Perm d'.targetObjects
  links : d.links.Perm d'.links

theorem GraphData.Reordered.mem_objects {d d' : GraphData} (h : d.Reordered d')
    {obj : ControlObject} :
    obj ∈ d.sourceObjects ++ d.targetObjects ↔ obj ∈ d'.sourceObjects ++ d'.targetObjects :=
  (h.sources.append h.targets).mem_iff

/-- An identifier names one of the objects. -/
def GraphData.Coherent (d : GraphData) : Prop :=
  ∀ obj ∈ d.sourceObjects ++ d.targetObjects, ∀ obj' ∈ d.sourceObjects ++ d.targetObjects,
    obj.id = obj'.id → obj = obj'

namespace ReconciliationOrchestrator
variable {repo repo' : InMemoryGraphRepository} {scope : ReconciliationScope}

theorem relevantLinks_perm (h : repo.Reordered repo') (tenantId : String) {ids ids' : List String}
    (hids : ids.Perm ids') :
    (relevantLinks repo tenantId ids).Perm (relevantLinks repo' tenantId ids') := by
  unfold relevantLinks
  simp only [hids.mem_iff]
  exact (h.getAllLinks tenantId).filter _

theorem splitByPlane_reordered (planes : List PlaneType) {allObjects allObjects' : List ControlObject}
    {links links' : List ControlLink} (hobjects : allObjects.Perm allObjects')
    (hlinks : links.Perm links') :
    (splitByPlane planes allObjects links).Reordered (splitByPlane planes allObjects' links') := by
  unfold splitByPlane
  split
  · exact ⟨hobjects.filter _, hobjects.filter _, hlinks⟩
  · exact ⟨hobjects, List.Perm.refl _, hlinks⟩

theorem listSide_perm (h : repo.Reordered repo') (plane : PlaneType) :
    (listSide repo scope plane).Perm (listSide repo' scope plane) := by
  unfold listSide InMemoryGraphRepository.listObjects
  dsimp only
  split
  · exact (h.objectValues.filter _).filter _
  · exact h.objectValues.filter _

variable {request : ReconciliationRequest} {fuel : ℕ}

/-- What a run fetches is stored under its identifier. -/
theorem fetched_stored (hkeyed : repo.Keyed) {d : GraphData}
    (h : fetchGraphData fuel repo request = some d) {obj : ControlObject}
    (hobj : obj ∈ d.sourceObjects ++ d.targetObjects) : repo.objects.get? obj.id = some obj := by
  have hstored {id : String} (hget : repo.objects.get? id = some obj) :
      repo.objects.get? obj.id = some obj := by
    rw [hkeyed id obj hget]
    exact hget
  have hside {plane : PlaneType} (hmem : obj ∈ listSide repo request.scope plane) :
      repo.objects.get? obj.id = some obj := by
    have hvalue : obj ∈ repo.objects.values := by
      unfold listSide InMemoryGraphRepository.listObjects at hmem
      dsimp only at hmem
      split at hmem
      · exact List.mem_of_mem_filter (List.mem_of_mem_filter hmem)
      · exact List.mem_of_mem_filter hmem
    obtain ⟨id, hget⟩ := Dict.mem_values.mp hvalue
    exact hstored hget
  unfold fetchGraphData at h
  dsimp only at h
  split at h
  · obtain ⟨slice, -, rfl⟩ := Option.map_eq_some_iff.mp h
    obtain ⟨id, -, hget⟩ := List.mem_filterMap.mp (mem_splitByPlane.mp hobj)
    exact hstored hget
  · split at h
    · obtain rfl := Option.some.inj h
      obtain ⟨id, -, hget⟩ := List.mem_filterMap.mp (mem_splitByPlane.mp hobj)
      exact hstored hget
    · obtain rfl := Option.some.inj h
      rcases List.mem_append.mp hobj with hsource | htarget
      · exact hside hsource
      · exact hside htarget

theorem fetched_coherent (hkeyed : repo.Keyed) {d : GraphData}
    (h : fetchGraphData fuel repo request = some d) : d.Coherent := by
  intro obj hobj obj' hobj' hid
  have hget := fetched_stored hkeyed h hobj
  have hget' := fetched_stored hkeyed h hobj'
  rw [hid, hget'] at hget
  exact (Option.some.inj hget).symm

/-- From a reordered repository a run fetches the same objects and links in another order. -/
theorem fetchGraphData_reordered (h : repo.Reordered repo')
    (hfuel : request.target.graphSliceRootIds.length + repo.objects.keys.length < fuel) :
    ∃ d d', fetchGraphData fuel repo request = some d ∧
      fetchGraphData fuel repo' request = some d' ∧ d.Reordered d' := by
  have hfuel' : request.target.graphSliceRootIds.length + repo'.objects.keys.length < fuel :=
    h.keys_length ▸ hfuel
  by_cases hroots : request.target.graphSliceRootIds ≠ []
  · obtain ⟨visited, hnodup, hvisited, hfetch⟩ := fetchGraphData_slice hroots hfuel
    obtain ⟨visited', hnodup', hvisited', hfetch'⟩ := fetchGraphData_slice hroots hfuel'
    refine ⟨_, _, hfetch, hfetch', ?_⟩
    have hperm : visited.Perm visited' := by
      rw [List.perm_ext_iff_of_nodup hnodup hnodup']
      intro id
      rw [hvisited, hvisited', h.inSlice]
    have hids : ((visited.filterMap repo.objects.get?).map ControlObject.id).Perm
        ((visited'.filterMap repo'.objects.get?).map ControlObject.id) := by
      rw [h.get?]
      exact (hperm.filterMap _).map _
    unfold fetchSlice
    refine splitByPlane_reordered _ ?_ (relevantLinks_perm h _ hids)
    rw [h.get?] at hids ⊢
    exact hids.filterMap _
  · have hnil := not_not.mp hroots
    by_cases hids : request.target.objectIds ≠ []
    · refine ⟨_, _, fetchGraphData_ids hnil hids, fetchGraphData_ids hnil hids, ?_⟩
      unfold fetchByIds
      rw [h.get?]
      exact splitByPlane_reordered _ (List.Perm.refl _)
        (relevantLinks_perm h _ (List.Perm.refl _))
    · have hnone := not_not.mp hids
      exact ⟨_, _, fetchGraphData_filters hnil hnone, fetchGraphData_filters hnil hnone,
        listSide_perm h _, listSide_perm h _, h.getAllLinks _⟩

end ReconciliationOrchestrator
end ControlFabric.Fabric.Reconciliation
