import ControlFabric.Fabric.Paths
import ControlFabric.Fabric.Reachable
import ControlFabric.Lib.Ranking

/-! Typed paths name the planes on their way, and name all links on it as long as each hop follows a
link in its own direction. -/
namespace ControlFabric.Fabric
open Lib Py Method

structure GraphPath where
  nodeIds : List String
  linkIds : List String
  totalWeight : ℚ := 0
  crossesPlanes : Bool
  planesTraversed : List PlaneType

namespace InMemoryGraphRepository
variable (repo : InMemoryGraphRepository)

/-- The first outgoing link of `u` that leads to `v`. -/
def linkTo (u v : String) : Option ControlLink :=
  (repo.getLinksForObject u "outgoing" none).find? fun link => link.targetId = v

def linkIdsAlong (nodeIds : List String) : List String :=
  (nodeIds.zip nodeIds.tail).filterMap fun hop => (repo.linkTo hop.1 hop.2).map ControlLink.id

/-- The body of the loop over the nodes. -/
def addPlane (planesTraversed : List PlaneType) (nid : String) : List PlaneType :=
  match repo.objects.get? nid with
  | none => planesTraversed
  | some obj => addFirst id planesTraversed obj.plane

/-- `find_typed_path`, with the loop of its search run for at most `fuel` rounds. -/
def findTypedPath (fuel : ℕ) (sourceId targetId : String) (maxDepth : ℤ) :
    Option (Option GraphPath) :=
  (repo.findPath fuel sourceId targetId maxDepth).map fun answer => answer.map fun nodeIds =>
    let planesTraversed := nodeIds.foldl repo.addPlane []
    { nodeIds := nodeIds
      linkIds := repo.linkIdsAlong nodeIds
      crossesPlanes := 1 < planesTraversed.dedup.length
      planesTraversed := planesTraversed }

/-- The planes of the objects among the nodes. -/
def planes (nodeIds : List String) : List PlaneType :=
  nodeIds.filterMap fun nid => (repo.objects.get? nid).map ControlObject.plane

/-- One link fewer than nodes, and each joins the two nodes it stands between. -/
structure NamesLinks (path : GraphPath) : Prop where
  length : path.linkIds.length + 1 = path.nodeIds.length
  joins : ∀ (i : ℕ) (linkId u v : String), path.linkIds[i]? = some linkId →
    path.nodeIds[i]? = some u → path.nodeIds[i + 1]? = some v →
      ∃ link, repo.links.get? linkId = some link ∧
        (link.sourceId = u ∧ link.targetId = v ∨ link.sourceId = v ∧ link.targetId = u)

/-- The planes of the nodes, each once and in order of their first visit. -/
structure NamesPlanes (path : GraphPath) : Prop where
  nodup : path.planesTraversed.Nodup
  visited : ∀ plane, plane ∈ path.planesTraversed ↔ ∃ nid ∈ path.nodeIds, ∃ obj,
    repo.objects.get? nid = some obj ∧ obj.plane = plane
  ordered : path.planesTraversed.Pairwise fun p q =>
    (repo.planes path.nodeIds).idxOf p < (repo.planes path.nodeIds).idxOf q
  crosses : path.crossesPlanes = true ↔ ∃ u ∈ path.nodeIds, ∃ v ∈ path.nodeIds, ∃ obj obj',
    repo.objects.get? u = some obj ∧ repo.objects.get? v = some obj' ∧ obj.plane ≠ obj'.plane

/-- A stored link leads from each node to the one after it. -/
def Forward (nodeIds : List String) : Prop :=
  nodeIds.IsChain fun u v => ∃ link ∈ repo.links.values, link.sourceId = u ∧ link.targetId = v

/-- Every link between two objects is answered by one the other way. -/
def LinkedBack : Prop :=
  ∀ link ∈ repo.links.values, link.sourceId ≠ link.targetId →
    ∃ back ∈ repo.links.values, back.sourceId = link.targetId ∧ back.targetId = link.sourceId

/-- Whatever typed path is found names its links and planes. -/
def PathsNamed : Prop :=
  ∀ (fuel : ℕ) (sourceId targetId : String) (maxDepth : ℤ) (path : GraphPath),
    repo.findTypedPath fuel sourceId targetId maxDepth = some (some path) →
      repo.NamesLinks path ∧ repo.NamesPlanes path

variable {repo} {nodeIds : List String} {u v : String}

theorem linkTo_eq_some {link : ControlLink} (h : repo.linkTo u v = some link) :
    link ∈ repo.links.values ∧ link.sourceId = u ∧ link.targetId = v := by
  have htarget := List.find?_some h
  have hmem := List.mem_of_find?_eq_some h
  simp only [getLinksForObject, List.mem_filter, decide_eq_true_eq] at hmem htarget
  obtain ⟨hstored, ⟨-, hsource⟩ | ⟨hdir, -⟩, -⟩ := hmem
  · exact ⟨hstored, hsource, htarget⟩
  · exact absurd hdir (by decide)

theorem isSome_linkTo_iff :
    (repo.linkTo u v).isSome ↔
      ∃ link ∈ repo.links.values, link.sourceId = u ∧ link.targetId = v := by
  constructor
  · intro h
    obtain ⟨link, hlink⟩ := Option.isSome_iff_exists.mp h
    exact ⟨link, linkTo_eq_some hlink⟩
  · rintro ⟨link, hstored, hsource, htarget⟩
    refine List.find?_isSome.mpr ⟨link, ?_, by simpa using htarget⟩
    simp [getLinksForObject, hstored, hsource]

theorem isChain_iff_zip {R : String → String → Prop} :
    nodeIds.IsChain R ↔ ∀ hop ∈ nodeIds.zip nodeIds.tail, R hop.1 hop.2 := by
  induction nodeIds with
  | nil => simp
  | cons u nodeIds ih =>
    cases nodeIds with
    | nil => simp
    | cons v nodeIds =>
      rw [List.isChain_cons_cons, ih]
      simp

/-- The links are named exactly when each hop has one in its direction. -/
theorem namesLinks_iff (hkeyed : ∀ id link, repo.links.get? id = some link → link.id = id)
    {path : GraphPath} (hnodes : path.nodeIds ≠ [])
    (hlinks : path.linkIds = repo.linkIdsAlong path.nodeIds) :
    repo.NamesLinks path ↔ repo.Forward path.nodeIds := by
  have hhops : (path.nodeIds.zip path.nodeIds.tail).length + 1 = path.nodeIds.length := by
    have := List.length_pos_iff.mpr hnodes
    rw [List.length_zip, List.length_tail]
    omega
  have hlength : path.linkIds.length + 1 = path.nodeIds.length ↔ repo.Forward path.nodeIds := by
    rw [← hhops, Nat.add_right_cancel_iff, hlinks, linkIdsAlong, List.filterMap_length_eq_length,
      Forward, isChain_iff_zip]
    refine forall₂_congr fun hop _ => ?_
    rw [Option.isSome_map, isSome_linkTo_iff]
  constructor
  · exact fun h => hlength.mp h.length
  · intro hforward
    refine ⟨hlength.mpr hforward, fun i linkId u v hlink hu hv => ?_⟩
    let named (hop : String × String) : String :=
      ((repo.linkTo hop.1 hop.2).map ControlLink.id).getD ""
    have hmap : repo.linkIdsAlong path.nodeIds =
        (path.nodeIds.zip path.nodeIds.tail).map named := by
      refine List.filterMap_eq_map_iff_forall_eq_some.mpr fun hop hhop => ?_
      obtain ⟨link, hto⟩ :=
        Option.isSome_iff_exists.mp (isSome_linkTo_iff.mpr (isChain_iff_zip.mp hforward hop hhop))
      simp [named, hto]
    have htail : path.nodeIds.tail[i]? = some v := by rwa [List.getElem?_tail]
    have hhop : (path.nodeIds.zip path.nodeIds.tail)[i]? = some (u, v) :=
      List.getElem?_zip_eq_some.mpr ⟨hu, htail⟩
    rw [hlinks, hmap, List.getElem?_map, hhop, Option.map_some] at hlink
    obtain ⟨link, hto⟩ := Option.isSome_iff_exists.mp
      (isSome_linkTo_iff.mpr (isChain_iff_zip.mp hforward (u, v) (List.mem_of_getElem? hhop)))
    obtain ⟨hstored, hends⟩ := linkTo_eq_some hto
    obtain ⟨id, hget⟩ := Dict.mem_values.mp hstored
    have hid : linkId = link.id := by simpa [named, hto] using (Option.some.inj hlink).symm
    exact ⟨link, by rw [hid, hkeyed id link hget, hget], Or.inl hends⟩

/-! ### The planes -/

theorem foldl_addPlane (nodeIds : List String) :
    nodeIds.foldl repo.addPlane [] = firsts id (repo.planes nodeIds) := by
  induction nodeIds using List.reverseRecOn with
  | nil => rfl
  | append_singleton nodeIds nid ih =>
    have hsplit : repo.planes (nodeIds ++ [nid]) = repo.planes nodeIds ++ repo.planes [nid] :=
      List.filterMap_append
    rw [List.foldl_append, ih, hsplit]
    cases hobj : repo.objects.get? nid with
    | none => simp [addPlane, hobj, planes]
    | some obj =>
      have hlast : repo.planes [nid] = [obj.plane] := by simp [planes, hobj]
      rw [hlast, firsts_concat]
      simp [addPlane, hobj]

theorem mem_planes {plane : PlaneType} :
    plane ∈ repo.planes nodeIds ↔
      ∃ nid ∈ nodeIds, ∃ obj, repo.objects.get? nid = some obj ∧ obj.plane = plane := by
  simp [planes, List.mem_filterMap]

theorem one_lt_length_iff {α : Type} {l : List α} (h : l.Nodup) :
    1 < l.length ↔ ∃ a ∈ l, ∃ b ∈ l, a ≠ b := by
  cases l with
  | nil => simp
  | cons a l =>
    cases l with
    | nil => simp
    | cons b l =>
      have hne : a ≠ b := fun heq => (List.nodup_cons.mp h).1 (heq ▸ List.mem_cons_self)
      exact ⟨fun _ => ⟨a, by simp, b, by simp, hne⟩, fun _ => by simp⟩

theorem namesPlanes {path : GraphPath}
    (hplanes : path.planesTraversed = path.nodeIds.foldl repo.addPlane [])
    (hcrosses : path.crossesPlanes = decide (1 < path.planesTraversed.dedup.length)) :
    repo.NamesPlanes path := by
  have hfirsts := hplanes.trans (foldl_addPlane path.nodeIds)
  have hnodup : path.planesTraversed.Nodup := by
    rw [hfirsts]
    have hfirst : ((firsts id (repo.planes path.nodeIds)).map id).Nodup := firsts_nodup _
    simpa using hfirst
  have hmem (plane : PlaneType) : plane ∈ path.planesTraversed ↔ ∃ nid ∈ path.nodeIds, ∃ obj,
      repo.objects.get? nid = some obj ∧ obj.plane = plane := by
    rw [hfirsts, mem_firsts_self, mem_planes]
  refine ⟨hnodup, hmem, hfirsts ▸ firsts_ordered (repo.planes path.nodeIds), ?_⟩
  rw [hcrosses, decide_eq_true_iff, hnodup.dedup, one_lt_length_iff hnodup]
  constructor
  · rintro ⟨p, hp, q, hq, hne⟩
    obtain ⟨u, hu, obj, hobj, rfl⟩ := (hmem p).mp hp
    obtain ⟨v, hv, obj', hobj', rfl⟩ := (hmem q).mp hq
    exact ⟨u, hu, v, hv, obj, obj', hobj, hobj', hne⟩
  · rintro ⟨u, hu, v, hv, obj, obj', hobj, hobj', hne⟩
    exact ⟨obj.plane, (hmem _).mpr ⟨u, hu, obj, hobj, rfl⟩, obj'.plane,
      (hmem _).mpr ⟨v, hv, obj', hobj', rfl⟩, hne⟩

/-! ### Typed paths of the search -/

/-- What is known of a path that is found. -/
theorem findTypedPath_eq_some {fuel : ℕ} {sourceId targetId : String} {maxDepth : ℤ}
    {path : GraphPath}
    (h : repo.findTypedPath fuel sourceId targetId maxDepth = some (some path)) :
    repo.findPath fuel sourceId targetId maxDepth = some (some path.nodeIds) ∧
      path.linkIds = repo.linkIdsAlong path.nodeIds ∧
      path.planesTraversed = path.nodeIds.foldl repo.addPlane [] ∧
      path.crossesPlanes = decide (1 < path.planesTraversed.dedup.length) := by
  obtain ⟨answer, hfound, hanswer⟩ := Option.map_eq_some_iff.mp h
  obtain ⟨nodeIds, rfl, rfl⟩ := Option.map_eq_some_iff.mp hanswer
  exact ⟨hfound, rfl, rfl, rfl⟩

/-- The nodes of a path that is found are a shortest chain of links. -/
theorem shortestChain_of_findPath {fuel : ℕ} {sourceId targetId : String} {maxDepth : ℤ}
    (h : repo.findPath fuel sourceId targetId maxDepth = some (some nodeIds)) :
    repo.ShortestChain sourceId targetId nodeIds :=
  (shortestChain_of_record (findPath_sound h).2.2).1

/-- A typed path names its links exactly when its nodes are linked in the direction of the path. -/
theorem findTypedPath_named_iff (hkeyed : ∀ id link, repo.links.get? id = some link → link.id = id)
    {fuel : ℕ} {sourceId targetId : String} {maxDepth : ℤ}
    (h : repo.findPath fuel sourceId targetId maxDepth = some (some nodeIds)) :
    ∃ path, repo.findTypedPath fuel sourceId targetId maxDepth = some (some path) ∧
      path.nodeIds = nodeIds ∧
      (repo.NamesLinks path ∧ repo.NamesPlanes path ↔ repo.Forward nodeIds) := by
  refine ⟨_, by rw [findTypedPath, h]; rfl, rfl, ?_⟩
  have hnodes : nodeIds ≠ [] := by
    rintro rfl
    cases (shortestChain_of_findPath h).chain.head
  rw [namesLinks_iff hkeyed hnodes rfl, and_iff_left (namesPlanes rfl rfl)]

/-- A chain whose links are answered goes forward. -/
theorem Chain.forward (hback : repo.LinkedBack) (h : repo.Chain u v nodeIds)
    (hnodup : nodeIds.Nodup) : repo.Forward nodeIds := by
  rw [Forward, isChain_iff_zip]
  intro hop hhop
  obtain ⟨link, hstored, ⟨hsource, htarget⟩ | ⟨hsource, htarget⟩, -⟩ :=
    isChain_iff_zip.mp h.linked hop hhop
  · exact ⟨link, hstored, hsource, htarget⟩
  · -- The link is followed against its direction.
    have hne : link.sourceId ≠ link.targetId := by
      rw [hsource, htarget]
      exact (isChain_iff_zip.mp hnodup.isChain hop hhop).symm
    obtain ⟨back, hback, hbackSource, hbackTarget⟩ := hback link hstored hne
    exact ⟨back, hback, hbackSource.trans htarget, hbackTarget.trans hsource⟩

/-- A shortest chain between two objects that are linked is the link. -/
theorem ShortestChain.eq_pair (h : repo.ShortestChain u v nodeIds) (hne : u ≠ v)
    (hpair : repo.Chain u v [u, v]) : nodeIds = [u, v] := by
  have hlength := h.least _ hpair
  obtain ⟨⟨hhead, hlast, -⟩, -, -⟩ := h
  obtain _ | ⟨a, _ | ⟨b, _ | ⟨c, rest⟩⟩⟩ := nodeIds
  · cases hhead
  · exact absurd ((Option.some.inj hhead).symm.trans (Option.some.inj hlast)) hne
  · obtain rfl := Option.some.inj hhead
    obtain rfl : b = v := Option.some.inj hlast
    rfl
  · simp only [List.length_cons, List.length_nil] at hlength
    omega

/-- All typed paths are named exactly when every link between two objects is answered. -/
theorem pathsNamed_iff (hkeyed : ∀ id link, repo.links.get? id = some link → link.id = id)
    (hends : ∀ link ∈ repo.links.values,
      link.sourceId ∈ repo.objects ∧ link.targetId ∈ repo.objects) :
    repo.PathsNamed ↔ repo.LinkedBack := by
  constructor
  · intro hnamed link hstored hne
    obtain ⟨hsource, htarget⟩ := hends link hstored
    have hpair : repo.Chain link.targetId link.sourceId [link.targetId, link.sourceId] :=
      ⟨rfl, rfl, by simpa using ⟨link, hstored, Or.inr ⟨rfl, rfl⟩, hsource⟩⟩
    obtain ⟨answer, hanswer, hshortest⟩ :=
      repo.findPath_shortest htarget hsource 1 (Nat.lt_succ_self _)
    cases answer with
    | none => exact absurd (too_long_of_record hshortest hpair) (by simp)
    | some nodeIds =>
      -- The only path of one hop goes from the target of the link to its source.
      have hnodes : nodeIds = [link.targetId, link.sourceId] :=
        (shortestChain_of_record hshortest).1.eq_pair hne.symm hpair
      obtain ⟨path, hpath, rfl, hiff⟩ := findTypedPath_named_iff hkeyed hanswer
      have hforward := hiff.mp (hnamed _ _ _ _ path hpath)
      rw [hnodes] at hforward
      exact (List.isChain_cons_cons.mp hforward).1
  · intro hback fuel sourceId targetId maxDepth path hpath
    obtain ⟨hfound, hlinks, hplanes, hcrosses⟩ := findTypedPath_eq_some hpath
    have hshortest := shortestChain_of_findPath hfound
    have hnodes : path.nodeIds ≠ [] := by
      intro hempty
      have hhead := hshortest.chain.head
      rw [hempty] at hhead
      cases hhead
    exact ⟨(namesLinks_iff hkeyed hnodes hlinks).mpr
      (hshortest.chain.forward hback hshortest.nodup), namesPlanes hplanes hcrosses⟩

end InMemoryGraphRepository

open InMemoryGraphRepository

/-- On every graph that a service reaches, all typed paths name their links and planes exactly when
every link between two objects is answered by one the other way; a single path does exactly when a
link leads from each of its nodes to the next. -/
theorem typed_paths_named_iff (rt : Runtime) (uc : Unicode) (policy : GraphPolicyEngine)
    (checker : GraphConsistencyChecker) (listeners : List FabricAuditListener) (env : Env)
    (ops : List GraphServiceOp) :
    let repo := (serviceRun rt uc ⟨.new policy checker listeners, env⟩ ops).self.repo
    (repo.PathsNamed ↔ repo.LinkedBack) ∧
      ∀ (fuel : ℕ) (sourceId targetId : String) (maxDepth : ℤ) (nodeIds : List String),
        repo.findPath fuel sourceId targetId maxDepth = some (some nodeIds) →
          ∃ path, repo.findTypedPath fuel sourceId targetId maxDepth = some (some path) ∧
            path.nodeIds = nodeIds ∧
            (repo.NamesLinks path ∧ repo.NamesPlanes path ↔ repo.Forward nodeIds) := by
  intro repo
  have hknown := known_serviceRun rt uc policy checker listeners env ops
  have hkeyed : ∀ id link, repo.links.get? id = some link → link.id = id := fun id link hlink =>
    (hknown.link id link hlink).1
  have hends : ∀ link ∈ repo.links.values,
      link.sourceId ∈ repo.objects ∧ link.targetId ∈ repo.objects := by
    intro link hlink
    obtain ⟨id, hget⟩ := Dict.mem_values.mp hlink
    exact hknown.ends id link hget
  exact ⟨pathsNamed_iff hkeyed hends,
    fun fuel sourceId targetId maxDepth nodeIds h => findTypedPath_named_iff hkeyed h⟩

/-- Two objects, and a link from the second to the first. -/
def linkedBackwards : List GraphServiceOp :=
  [.createObject "north" (.workOrder .field) "ada" true,
    .createObject "north" (.workOrder .field) "ada" true,
    .createLink "north"
      { sourceId := "00000000-0000-4000-8000-000000000005"
        targetId := "00000000-0000-4000-8000-000000000000"
        linkType := .derivesFrom }]

/-- The path against the link names no link. -/
theorem not_typed_paths_named : ¬ ∀ (rt : Runtime) (uc : Unicode) (policy : GraphPolicyEngine)
    (checker : GraphConsistencyChecker) (listeners : List FabricAuditListener) (env : Env)
    (ops : List GraphServiceOp),
    (serviceRun rt uc ⟨.new policy checker listeners, env⟩ ops).self.repo.PathsNamed := by
  intro hall
  let repo := (serviceRun .reference .ascii
    ⟨.new ⟨none⟩ (fun _ _ => ⟨true, 0, 0⟩) [], .initial "north"⟩ linkedBackwards).self.repo
  have hfound : ((repo.findTypedPath 5 "00000000-0000-4000-8000-000000000000"
      "00000000-0000-4000-8000-000000000005" 5).bind id).map
        (fun path => (path.nodeIds.length, path.linkIds.length)) = some (2, 0) := by
    decide +kernel
  obtain ⟨path, hpath, hlengths⟩ := Option.map_eq_some_iff.mp hfound
  obtain ⟨answer, hanswer, rfl⟩ := Option.bind_eq_some_iff.mp hpath
  have hlinks := (hall .reference .ascii ⟨none⟩ (fun _ _ => ⟨true, 0, 0⟩) [] (.initial "north")
    linkedBackwards 5 _ _ 5 path hanswer).1.length
  obtain ⟨hnodes, hnone⟩ := Prod.mk.inj hlengths
  omega

end ControlFabric.Fabric
