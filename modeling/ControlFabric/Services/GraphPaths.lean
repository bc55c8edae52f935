import ControlFabric.Services.FabricSlices
import ControlFabric.Lib.ShortestPath
import ControlFabric.Reconciliation.DomainTypes

/-! The path search of the graph service: it stays within the tenant, finds a path exactly when few
enough links lead to the target, and what it says of the path is what is on it. -/
namespace ControlFabric.Services
open Lib
open Fabric.Reconciliation (ValueOps)

structure GraphTraversalResult where
  path : List String
  totalWeight : ℚ
  linkTypesTraversed : List ControlLinkType
  planesCrossed : List ControlPlane

/-- What the queue holds besides the current node. -/
structure PathEntry where
  path : List String
  weight : ℚ
  linkTypes : List ControlLinkType
  planes : List ControlPlane

/-- The state of the search of `find_path`; `visited` is a set. -/
structure PathSearch where
  queue : List (String × PathEntry)
  visited : List String
  found : Option PathEntry

namespace ControlGraphService
variable (ops : ValueOps) (fabric : ControlFabricService) (tenantId : String)

def PathEntry.extend (p : PathEntry) (link : FabricLink) (plane : ControlPlane) (neighborId : String) :
    PathEntry where
  path := p.path ++ [neighborId]
  weight := ops.round (p.weight + link.weight)
  linkTypes := p.linkTypes ++ [link.linkType]
  planes := p.planes ++ [plane]

/-- The body of the inner loop, for one link. -/
def visitLink (current : String) (p : PathEntry) (search : PathSearch) (link : FabricLink) :
    PathSearch :=
  match link.neighborId current with
  | none => search
  | some neighborId =>
    if neighborId ∈ search.visited then search
    else
      match fabric.objects.get? neighborId with
      | none => search
      | some neighbor =>
        if neighbor.tenantId ≠ tenantId then search
        else { search with
          visited := search.visited ++ [neighborId]
          queue := search.queue ++
            [(neighborId, PathEntry.extend ops p link neighbor.plane neighborId)] }

/-- The body of the outer loop; `none` when the target is found or the queue is empty. -/
def pathStep (targetId : String) (maxDepth : ℤ) (search : PathSearch) : Option PathSearch :=
  match search.found, search.queue with
  | some _, _ => none
  | none, [] => none
  | none, (current, p) :: queue =>
    if current = targetId then some { search with queue := queue, found := some p }
    else if maxDepth < p.path.length then some { search with queue := queue }
    else some (fabric.links.values.foldl (visitLink ops fabric tenantId current p)
      { search with queue := queue })

/-- `list(dict.fromkeys(planes_list))` keeps the first of equal planes. -/
def PathEntry.result (p : PathEntry) : GraphTraversalResult :=
  ⟨p.path, p.weight, p.linkTypes, p.planes.eraseDups⟩

/-- `find_path`, with its loop run for at most `fuel` rounds. -/
def findPath (fuel : ℕ) (sourceId targetId : String) (maxDepth : ℤ) :
    Option (Option GraphTraversalResult) :=
  if sourceId ∉ fabric.objects ∨ targetId ∉ fabric.objects then some none
  else (loop (pathStep ops fabric tenantId targetId maxDepth) fuel
      ⟨[(sourceId, ⟨[sourceId], 0, [], []⟩)], [sourceId], none⟩).map fun search =>
    search.found.map PathEntry.result

/-! ### The search as one for a shortest walk -/

/-- A stored link joins `u`, in one direction or the other, to the object `v` of the tenant. -/
def Joins (u : String) (link : FabricLink) (v : String) : Prop :=
  link ∈ fabric.links.values ∧ link.neighborId u = some v ∧
    ∃ obj, fabric.objects.get? v = some obj ∧ obj.tenantId = tenantId

def pathHop (current : String) (link : FabricLink) : Option ((FabricLink × ControlPlane) × String) :=
  (link.neighborId current).bind fun id =>
    ((fabric.objects.get? id).filter fun obj => obj.tenantId = tenantId).map fun obj =>
      ((link, obj.plane), id)

/-- The links `find_path` follows, with the plane and the object each leads to. -/
def pathHops (current : String) : List ((FabricLink × ControlPlane) × String) :=
  fabric.links.values.filterMap (pathHop fabric tenantId current)

theorem mem_pathHops {u v : String} {link : FabricLink} {plane : ControlPlane} :
    ((link, plane), v) ∈ pathHops fabric tenantId u ↔
      Joins fabric tenantId u link v ∧ (fabric.objects.get? v).map FabricObject.plane = some plane := by
  unfold pathHops pathHop Joins
  simp only [List.mem_filterMap, Option.bind_eq_some_iff, Option.map_eq_some_iff,
    Option.filter_eq_some_iff, decide_eq_true_eq, Prod.mk.injEq]
  constructor
  · rintro ⟨link', hlink, id, hneighbor, obj, ⟨hget, htenant⟩, ⟨rfl, rfl⟩, rfl⟩
    exact ⟨⟨hlink, hneighbor, obj, hget, htenant⟩, obj, hget, rfl⟩
  · rintro ⟨⟨hlink, hneighbor, obj, hget, htenant⟩, obj', hget', rfl⟩
    obtain rfl := Option.some.inj (hget.symm.trans hget')
    exact ⟨link, hlink, v, hneighbor, obj, ⟨hget, htenant⟩, ⟨rfl, rfl⟩, rfl⟩

/-- `find_path` records the objects on its way, with what it says of the links. -/
def pathRecorder : Recorder String (FabricLink × ControlPlane) PathEntry where
  extend p hop v := PathEntry.extend ops p hop.1 hop.2 v
  depth p := p.path.length - 1
  depth_extend p hop v := by
    rw [PathEntry.extend, List.length_append, List.length_singleton]
    push_cast
    ring

private def graphSearch (s : PathSearch) : Search String PathEntry := ⟨s.queue, s.visited, s.found⟩

private theorem graphSearch_foldl (current : String) (p : PathEntry) (links : List FabricLink)
    (s : PathSearch) :
    graphSearch (links.foldl (visitLink ops fabric tenantId current p) s) =
      (links.filterMap (pathHop fabric tenantId current)).foldl
        (Search.visit (pathRecorder ops) p) (graphSearch s) := by
  induction links generalizing s with
  | nil => rfl
  | cons link links ih =>
    rw [List.foldl_cons, ih, List.filterMap_cons]
    cases hneighbor : link.neighborId current with
    | none => simp [visitLink, pathHop, hneighbor]
    | some id =>
      cases hget : fabric.objects.get? id with
      | none => simp [visitLink, pathHop, hneighbor, hget]
      | some obj =>
        by_cases htenant : obj.tenantId = tenantId <;> by_cases hnew : id ∈ s.visited <;>
          simp [visitLink, pathHop, hneighbor, hget, htenant, hnew, Search.visit, graphSearch,
            pathRecorder, Option.filter]

private theorem graphSearch_pathStep (targetId : String) (maxDepth : ℤ) (s : PathSearch) :
    (pathStep ops fabric tenantId targetId maxDepth s).map graphSearch =
      Search.step (pathRecorder ops) (pathHops fabric tenantId) targetId maxDepth (graphSearch s) := by
  obtain ⟨queue, visited, found⟩ := s
  cases found with
  | some p => rfl
  | none =>
    cases queue with
    | nil => rfl
    | cons e queue =>
      obtain ⟨current, p⟩ := e
      have hdeep : maxDepth < p.path.length ↔ maxDepth ≤ (pathRecorder ops).depth p := by
        show _ ↔ maxDepth ≤ (p.path.length : ℤ) - 1
        omega
      simp only [pathStep, Search.step, graphSearch, hdeep]
      split_ifs with htarget hcut
      · rfl
      · rfl
      · exact congrArg some
          (graphSearch_foldl ops fabric tenantId current p fabric.links.values _)

/-- What a record says of the links it was made along. -/
structure Describes (p : PathEntry) (links : List FabricLink) : Prop where
  weight : p.weight = links.foldl (fun w link => ops.round (w + link.weight)) 0
  linkTypes : p.linkTypes = links.map FabricLink.linkType
  planes : p.planes = p.path.tail.filterMap fun id => (fabric.objects.get? id).map FabricObject.plane

variable {ops fabric tenantId} in
theorem trail_of_recorded {sourceId v : String} {n : ℕ} {p : PathEntry}
    (h : Recorded (pathRecorder ops) (pathHops fabric tenantId) sourceId ⟨[sourceId], 0, [], []⟩
      n v p) :
    ∃ links, links.length = n ∧ Trail (Joins fabric tenantId) sourceId p.path links v ∧
      Describes ops fabric p links := by
  induction h with
  | zero => exact ⟨[], rfl, Trail.nil, ⟨rfl, rfl, rfl⟩⟩
  | @succ n u v p hop _ hhop ih =>
    obtain ⟨links, hlength, htrail, hweight, htypes, hplanes⟩ := ih
    obtain ⟨hjoins, hplane⟩ := (mem_pathHops fabric tenantId).mp hhop
    have hne : p.path ≠ [] := List.length_pos_iff.mp (by rw [htrail.length_nodes]; omega)
    refine ⟨links ++ [hop.1], by simp [hlength], htrail.snoc hjoins, ?_, ?_, ?_⟩
    · rw [List.foldl_append, ← hweight]
      rfl
    · rw [List.map_append, ← htypes]
      rfl
    · show p.planes ++ [hop.2] = (p.path ++ [v]).tail.filterMap _
      rw [List.tail_append_of_ne_nil hne, List.filterMap_append, ← hplanes]
      simp [hplane]

/-- A shortest way within the tenant, and what is said of it. -/
structure ShortestWithin (sourceId targetId : String) (r : GraphTraversalResult)
    (links : List FabricLink) : Prop where
  trail : Trail (Joins fabric tenantId) sourceId r.path links targetId
  least : ∀ nodes others, Trail (Joins fabric tenantId) sourceId nodes others targetId →
    links.length ≤ others.length
  nodup : r.path.Nodup
  weight : r.totalWeight = links.foldl (fun w link => ops.round (w + link.weight)) 0
  types : r.linkTypesTraversed = links.map FabricLink.linkType
  planes : r.planesCrossed =
    (r.path.tail.filterMap fun id => (fabric.objects.get? id).map FabricObject.plane).eraseDups

variable {fabric tenantId} in
theorem hopTo_pathHops : HopTo (pathHops fabric tenantId) =
    fun u v => ∃ link, Joins fabric tenantId u link v := by
  funext u v
  refine propext ⟨fun ⟨hop, hhop⟩ => ⟨hop.1, ((mem_pathHops fabric tenantId).mp hhop).1⟩, ?_⟩
  rintro ⟨link, hjoins⟩
  obtain ⟨obj, hget, -⟩ := hjoins.2.2
  exact ⟨(link, obj.plane), (mem_pathHops fabric tenantId).mpr ⟨hjoins, by rw [hget]; rfl⟩⟩

/-- In every state of the fabric, between any two objects of it and with enough rounds, the search
of a tenant ends. It finds a way exactly if one of at most so many links leads to the target through
objects of the tenant, and then a shortest one, described link by link. -/
theorem graph_path_shortest (ops : ValueOps) (fabric : ControlFabricService)
    (tenantId sourceId targetId : String) (maxDepth : ℕ) (fuel : ℕ)
    (hsource : sourceId ∈ fabric.objects) (htarget : targetId ∈ fabric.objects)
    (hfuel : fabric.objects.keys.length + 1 < fuel) :
    ∃ answer, findPath ops fabric tenantId fuel sourceId targetId maxDepth = some answer ∧
      (answer.isSome ↔ ∃ nodes links,
        Trail (Joins fabric tenantId) sourceId nodes links targetId ∧ links.length ≤ maxDepth) ∧
      ∀ r ∈ answer, ∃ links, ShortestWithin ops fabric tenantId sourceId targetId r links := by
  have hhops : ∀ u, ∀ hop ∈ pathHops fabric tenantId u, hop.2 ∈ fabric.objects.keys := by
    intro u hop hhop
    obtain ⟨obj, hget, -⟩ := ((mem_pathHops fabric tenantId).mp hhop).1.2.2
    exact Dict.mem_iff_keys.mp (Dict.mem_of_get? hget)
  obtain ⟨final, hloop, hanswer⟩ := Search.loop_step hhops
    (show (pathRecorder ops).depth ⟨[sourceId], 0, [], []⟩ = 0 from rfl) sourceId targetId
    (maxDepth : ℤ) hfuel
  have hview := loop_map (graphSearch_pathStep ops fabric tenantId targetId maxDepth) fuel
    ⟨[(sourceId, ⟨[sourceId], 0, [], []⟩)], [sourceId], none⟩
  have hstart : graphSearch ⟨[(sourceId, ⟨[sourceId], 0, [], []⟩)], [sourceId], none⟩ =
      Search.start sourceId ⟨[sourceId], 0, [], []⟩ := rfl
  rw [hstart, hloop] at hview
  obtain ⟨s, hs, rfl⟩ := Option.map_eq_some_iff.mp hview
  refine ⟨s.found.map PathEntry.result, ?_, ?_⟩
  · rw [findPath, if_neg (by simp [hsource, htarget]), hs]
    rfl
  have hfound : (graphSearch s).found = s.found := rfl
  rw [hfound] at hanswer
  cases hentry : s.found with
  | none =>
    rw [hentry, ShortestRecord, hopTo_pathHops] at hanswer
    refine ⟨iff_of_false (by simp) ?_, by simp⟩
    rintro ⟨nodes, links, htrail, hbound⟩
    exact hanswer links.length (Or.inr (by exact_mod_cast hbound)) htrail.steps
  | some p =>
    rw [hentry, ShortestRecord] at hanswer
    obtain ⟨n, hn, hdist, hrecorded⟩ := hanswer
    rw [hopTo_pathHops] at hdist
    obtain ⟨links, rfl, htrail, hdescribed⟩ := trail_of_recorded hrecorded
    refine ⟨iff_of_true rfl ⟨p.path, links, htrail, by omega⟩, fun r hr => ?_⟩
    obtain rfl := Option.some.inj hr
    refine ⟨links, htrail, fun nodes others hother => hdist.least _ hother.steps,
      htrail.nodup hdist, hdescribed.weight, hdescribed.linkTypes, ?_⟩
    rw [PathEntry.result, hdescribed.planes]

/-- From the clause, the order it authorizes is one link away. -/
theorem graph_path_shortest_clauseAndOrder :
    let clauseId := Runtime.reference.uuid4 0
    let orderId := Runtime.reference.uuid4 2
    ∃ answer,
      findPath .exact clauseAndOrder.fabric "acme" 4 clauseId orderId (1 : ℕ) = some answer ∧
      (answer.isSome ↔ ∃ nodes links,
        Trail (Joins clauseAndOrder.fabric "acme") clauseId nodes links orderId ∧ links.length ≤ 1) ∧
      ∀ r ∈ answer, ∃ links,
        ShortestWithin .exact clauseAndOrder.fabric "acme" clauseId orderId r links := by
  intro clauseId orderId
  exact graph_path_shortest .exact clauseAndOrder.fabric "acme" clauseId orderId 1 4
    (by decide +kernel) (by decide +kernel) (by decide +kernel)

example :
    ((findPath .exact clauseAndOrder.fabric "acme" 4 (Runtime.reference.uuid4 0)
      (Runtime.reference.uuid4 2) 1).join).map GraphTraversalResult.planesCrossed = some [.field] := by
  decide +kernel

end ControlGraphService
end ControlFabric.Services
