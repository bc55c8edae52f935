import ControlFabric.Graph.TraverseExact
import ControlFabric.Lib.ShortestPath

/-! The search for a path between two objects of the control graph: it finds a shortest one, and
finds one exactly when the traversal from the first discovers the second. -/
namespace ControlFabric
open Lib Method

structure RouteEntry where
  nodeId : String
  pathNodes : List String
  pathEdges : List String
  weight : ℤ

/-- A queue of nodes with the paths that lead to them, and the entry found. -/
structure RouteSearch where
  queue : List RouteEntry
  visited : List String
  found : Option RouteEntry

/-- The entry extended by an edge. -/
def RouteEntry.along (entry : RouteEntry) (edge : ControlEdge) (targetId : String) : RouteEntry where
  nodeId := targetId
  pathNodes := entry.pathNodes ++ [targetId]
  pathEdges := entry.pathEdges ++ [edge.edgeId]
  weight := entry.weight + edge.enforcementWeight

namespace RouteSearch

/-- The body of the inner loop, for one edge of the node just taken from the queue. -/
def visitEdge (entry : RouteEntry) (s : RouteSearch) (edge : ControlEdge) : RouteSearch :=
  if edge.targetObjectId ∉ s.visited then
    { s with
      visited := s.visited ++ [edge.targetObjectId]
      queue := s.queue ++ [entry.along edge edge.targetObjectId] }
  else s

/-- The body of the outer loop; `none` when a path is found or the queue is empty. -/
def step (outboundEdges : String → List ControlEdge) (targetId : String) (maxDepth : ℤ)
    (s : RouteSearch) : Option RouteSearch :=
  match s.found, s.queue with
  | some _, _ => none
  | none, [] => none
  | none, entry :: queue =>
    if entry.nodeId = targetId then some { s with queue := queue, found := some entry }
    else if maxDepth ≤ (entry.pathNodes.length : ℤ) - 1 then some { s with queue := queue }
    else some ((outboundEdges entry.nodeId).foldl (visitEdge entry) { s with queue := queue })

def start (sourceId : String) : RouteSearch := ⟨[⟨sourceId, [sourceId], [], 0⟩], [sourceId], none⟩

end RouteSearch

namespace ControlGraphStore

/-- `find_path_between`, with its `while` loop run for at most `fuel` rounds. The draws the call
takes begin at `n`: the time it starts at, and the identifier of the path. -/
def findPathBetween (rt : Runtime) (n fuel : ℕ) (g : ControlGraphStore) (sourceId targetId : String)
    (maxDepth : ℤ) : Option (Option GraphPath) :=
  if sourceId ∉ g.nodes ∨ targetId ∉ g.nodes then some none
  else
    let atTime := rt.now n
    (loop (RouteSearch.step (fun id => g.getOutboundEdges id none atTime) targetId maxDepth) fuel
      (.start sourceId)).map fun s => s.found.map fun entry =>
        { pathId := rt.uuid4 (n + 1)
          nodes := entry.pathNodes
          edges := entry.pathEdges
          depth := entry.pathNodes.length - 1
          totalEnforcementWeight := entry.weight }

end ControlGraphStore

/-! ### The search as one that records walks -/

namespace RouteSearch

def recorder : Recorder String ControlEdge RouteEntry where
  extend := RouteEntry.along
  depth entry := entry.pathNodes.length - 1
  depth_extend entry edge targetId := by
    rw [RouteEntry.along, List.length_append, List.length_singleton]
    push_cast
    ring

def hops (outboundEdges : String → List ControlEdge) (nodeId : String) :
    List (ControlEdge × String) :=
  (outboundEdges nodeId).map fun edge => (edge, edge.targetObjectId)

private def search (s : RouteSearch) : Search String RouteEntry :=
  ⟨s.queue.map fun entry => (entry.nodeId, entry), s.visited, s.found⟩

private theorem search_visitEdge (entry : RouteEntry) (s : RouteSearch) (edge : ControlEdge) :
    search (visitEdge entry s edge) =
      Search.visit recorder entry (search s) (edge, edge.targetObjectId) := by
  by_cases hnew : edge.targetObjectId ∈ s.visited
  · simp [visitEdge, Search.visit, search, hnew]
  · simp [visitEdge, Search.visit, search, hnew, recorder, RouteEntry.along]

private theorem search_foldl (entry : RouteEntry) (edges : List ControlEdge) (s : RouteSearch) :
    search (edges.foldl (visitEdge entry) s) =
      (edges.map fun edge => (edge, edge.targetObjectId)).foldl (Search.visit recorder entry)
        (search s) := by
  induction edges generalizing s with
  | nil => rfl
  | cons edge edges ih =>
    rw [List.foldl_cons, ih, search_visitEdge, List.map_cons, List.foldl_cons]

private theorem search_step (outboundEdges : String → List ControlEdge) (targetId : String)
    (maxDepth : ℤ) (s : RouteSearch) :
    (s.step outboundEdges targetId maxDepth).map search =
      Search.step recorder (hops outboundEdges) targetId maxDepth (search s) := by
  obtain ⟨queue, visited, found⟩ := s
  cases found with
  | some entry => rfl
  | none =>
    cases queue with
    | nil => rfl
    | cons entry queue =>
      simp only [step, Search.step, search, List.map_cons]
      split_ifs with htarget hcut hdeep hdeep
      · rfl
      · rfl
      · exact absurd hcut hdeep
      · exact absurd hdeep hcut
      · exact congrArg some (search_foldl entry (outboundEdges entry.nodeId) ⟨queue, visited, none⟩)

/-- The search ends, with the entry of a shortest path if there is one. -/
theorem loop_shortest {outboundEdges : String → List ControlEdge} {targets : List String}
    (htargets : ∀ u, ∀ edge ∈ outboundEdges u, edge.targetObjectId ∈ targets)
    (sourceId targetId : String) (maxDepth : ℤ) {fuel : ℕ} (hfuel : targets.length + 1 < fuel) :
    ∃ final, loop (step outboundEdges targetId maxDepth) fuel (start sourceId) = some final ∧
      ShortestRecord recorder (hops outboundEdges) sourceId ⟨sourceId, [sourceId], [], 0⟩ targetId
        maxDepth final.found := by
  have hhops : ∀ u, ∀ hop ∈ hops outboundEdges u, hop.2 ∈ targets := by
    intro u hop hhop
    obtain ⟨edge, hedge, rfl⟩ := List.mem_map.mp hhop
    exact htargets u edge hedge
  have hdepth : recorder.depth ⟨sourceId, [sourceId], [], 0⟩ = 0 := rfl
  obtain ⟨final, hloop, hanswer⟩ := Search.loop_step hhops hdepth sourceId targetId maxDepth hfuel
  have hview := loop_map (search_step outboundEdges targetId maxDepth) fuel (start sourceId)
  have hstart : search (start sourceId) = Search.start sourceId ⟨sourceId, [sourceId], [], 0⟩ := rfl
  rw [hstart, hloop] at hview
  obtain ⟨s, hs, rfl⟩ := Option.map_eq_some_iff.mp hview
  exact ⟨s, hs, hanswer⟩

end RouteSearch

namespace ControlGraphStore
variable {g : ControlGraphStore} {atTime : DateTime}

/-- The hops of the search are the outbound edges valid at the time. -/
theorem mem_outboundHops (h : g.Integrity) {u v : String} {edge : ControlEdge} :
    (edge, v) ∈ RouteSearch.hops (fun id => g.getOutboundEdges id none atTime) u ↔
      g.Follows "outbound" none atTime u edge v := by
  have hedges (id : String) :
      g.edgesFrom "outbound" none atTime id = g.getOutboundEdges id none atTime := by
    simp [edgesFrom]
  unfold RouteSearch.hops
  simp only [← hedges, List.mem_map, Prod.mk.injEq]
  constructor
  · rintro ⟨_, hedge, rfl, rfl⟩
    have hfollows := (mem_edgesFrom h).mp hedge
    rcases hfollows.ends with ⟨-, hsource, htarget⟩ | ⟨hdir, -⟩
    · exact htarget ▸ hfollows
    · exact absurd hdir (by decide)
  · intro hfollows
    refine ⟨edge, (mem_edgesFrom h).mpr (hfollows.nextId_eq h ▸ hfollows), rfl, ?_⟩
    rcases hfollows.ends with ⟨-, -, htarget⟩ | ⟨hdir, -⟩
    · exact htarget
    · exact absurd hdir (by decide)

theorem hopTo_outboundHops (h : g.Integrity) :
    HopTo (RouteSearch.hops fun id => g.getOutboundEdges id none atTime) =
      g.Adjacent "outbound" none atTime := by
  funext u v
  apply propext
  constructor
  · rintro ⟨edge, hedge⟩
    exact ⟨edge.edgeId, edge, rfl, (mem_outboundHops h).mp hedge⟩
  · rintro ⟨_, edge, -, hfollows⟩
    exact ⟨edge, (mem_outboundHops h).mpr hfollows⟩

/-- What is recorded on the way to a node is a walk along valid edges, with its weight. -/
theorem trail_of_recorded (h : g.Integrity) {sourceId v : String} {n : ℕ} {entry : RouteEntry}
    (hrecorded : Recorded RouteSearch.recorder
      (RouteSearch.hops fun id => g.getOutboundEdges id none atTime) sourceId
      ⟨sourceId, [sourceId], [], 0⟩ n v entry) :
    Trail (g.FollowsId "outbound" none atTime) sourceId entry.pathNodes entry.pathEdges v ∧
      entry.pathEdges.length = n ∧ entry.weight = (entry.pathEdges.map g.weightOf).sum := by
  induction hrecorded with
  | zero => exact ⟨Trail.nil, rfl, rfl⟩
  | @succ n u v entry edge _ hhop ih =>
    obtain ⟨htrail, hlength, hweight⟩ := ih
    have hfollows := (mem_outboundHops h).mp hhop
    refine ⟨htrail.snoc ⟨edge, rfl, hfollows⟩, ?_, ?_⟩
    · simp [RouteSearch.recorder, RouteEntry.along, hlength]
    · simp [RouteSearch.recorder, RouteEntry.along, hweight, weightOf, hfollows.stored]

/-- A path of the graph as it is at the time, told in walks and distances. -/
structure ShortestRoute (g : ControlGraphStore) (atTime : DateTime) (sourceId targetId : String)
    (path : GraphPath) : Prop where
  head : path.nodes.head? = some sourceId
  last : path.nodes.getLast? = some targetId
  length_nodes : path.nodes.length = path.edges.length + 1
  walk : Trail (g.FollowsId "outbound" none atTime) sourceId path.nodes path.edges targetId
  nodup : path.nodes.Nodup
  depth_eq : path.depth = path.edges.length
  shortest : Dist (g.Adjacent "outbound" none atTime) sourceId path.edges.length targetId
  weight_eq : path.totalEnforcementWeight = (path.edges.map g.weightOf).sum

/-- On a store with integrity the search between stored objects ends and is exact. -/
theorem Integrity.findPathBetween_exact (h : g.Integrity) (rt : Runtime) (n : ℕ)
    {sourceId targetId : String} (hsource : sourceId ∈ g.nodes) (htarget : targetId ∈ g.nodes)
    (maxDepth : ℕ) {fuel : ℕ} (hfuel : g.edges.keys.length + 1 < fuel) :
    ∃ answer, g.findPathBetween rt n fuel sourceId targetId maxDepth = some answer ∧
      (answer.isSome ↔
        ∃ d ≤ maxDepth, Steps (g.Adjacent "outbound" none (rt.now n)) sourceId d targetId) ∧
      ∀ path ∈ answer, g.ShortestRoute (rt.now n) sourceId targetId path := by
  have htargets : ∀ u, ∀ edge ∈ g.getOutboundEdges u none (rt.now n),
      edge.targetObjectId ∈ g.edges.values.map ControlEdge.targetObjectId := by
    intro u edge hedge
    have hhop : (edge, edge.targetObjectId) ∈
        RouteSearch.hops (fun id => g.getOutboundEdges id none (rt.now n)) u :=
      List.mem_map_of_mem hedge
    have hstored := ((mem_outboundHops h).mp hhop).stored
    exact List.mem_map_of_mem (Dict.mem_values.mpr ⟨_, hstored⟩)
  have hlength : (g.edges.values.map ControlEdge.targetObjectId).length + 1 < fuel := by
    simpa [Dict.values, Dict.keys] using hfuel
  obtain ⟨final, hloop, hshortest⟩ := RouteSearch.loop_shortest htargets sourceId targetId maxDepth
    hlength
  have hfound : g.findPathBetween rt n fuel sourceId targetId maxDepth = some (final.found.map
      fun entry => ⟨rt.uuid4 (n + 1), entry.pathNodes, entry.pathEdges, entry.pathNodes.length - 1,
        entry.weight⟩) := by
    rw [findPathBetween, if_neg (by simp [hsource, htarget])]
    dsimp only
    rw [hloop]
    rfl
  refine ⟨_, hfound, ?_⟩
  cases hanswer : final.found with
  | none =>
    rw [hanswer, ShortestRecord, hopTo_outboundHops h] at hshortest
    refine ⟨⟨fun hsome => absurd hsome (by simp), ?_⟩, fun path hpath => absurd hpath (by simp)⟩
    rintro ⟨d, hd, hsteps⟩
    exact absurd hsteps (hshortest d (Or.inr (by exact_mod_cast hd)))
  | some entry =>
    rw [hanswer, ShortestRecord, hopTo_outboundHops h] at hshortest
    obtain ⟨d, hd, hdist, hrecorded⟩ := hshortest
    obtain ⟨htrail, hedges, hweight⟩ := trail_of_recorded h hrecorded
    have hnear : d ≤ maxDepth := by
      rcases hd with rfl | hd
      · exact Nat.zero_le _
      · exact_mod_cast hd
    refine ⟨⟨fun _ => ⟨d, hnear, hdist.steps⟩, fun _ => rfl⟩, fun path hpath => ?_⟩
    obtain rfl := Option.some.inj hpath
    have hnodes := htrail.length_nodes
    exact ⟨htrail.head_nodes, htrail.last_nodes, hnodes, htrail, htrail.nodup (hedges ▸ hdist),
      by dsimp only; omega, hedges ▸ hdist, hweight⟩

end ControlGraphStore

open ControlGraphStore

/-- On every reachable graph the search between two objects ends; it finds a shortest path, and
finds one exactly when the traversal from the first object discovers the second. -/
theorem find_path_between_exact (rt : Runtime) (env : Env) (ops : List GraphOp)
    {sourceId targetId : String}
    (hsource : sourceId ∈ (graphRun rt ⟨.new, env⟩ ops).self.nodes)
    (htarget : targetId ∈ (graphRun rt ⟨.new, env⟩ ops).self.nodes) (maxDepth n m : ℕ) {fuel : ℕ}
    (hfuel : (graphRun rt ⟨.new, env⟩ ops).self.edges.keys.length + 1 < fuel) :
    let g := (graphRun rt ⟨.new, env⟩ ops).self
    ∃ answer result, g.findPathBetween rt n fuel sourceId targetId maxDepth = some answer ∧
      g.traverse rt m fuel sourceId "outbound" maxDepth none (some (rt.now n)) =
        .ok (some result) ∧
      (answer.isSome ↔
        ∃ d ≤ maxDepth, Steps (g.Adjacent "outbound" none (rt.now n)) sourceId d targetId) ∧
      (∀ path ∈ answer, g.ShortestRoute (rt.now n) sourceId targetId path) ∧
      (answer.isSome ↔ targetId = sourceId ∨ targetId ∈ result.discoveredObjects) := by
  intro g
  have hintegrity : g.Integrity := (graphRun_indexed rt env ops).2
  obtain ⟨answer, hanswer, hsome, hshortest⟩ :=
    hintegrity.findPathBetween_exact rt n hsource htarget maxDepth hfuel
  obtain ⟨result, hresult, hexact⟩ := hintegrity.traversalExact rt m hsource "outbound" maxDepth
    none (some (rt.now n)) hfuel
  refine ⟨answer, result, hanswer, hresult, hsome, hshortest, hsome.trans ?_⟩
  rw [hexact.mem_objects]
  constructor
  · rintro ⟨d, hd, hsteps⟩
    by_cases heq : targetId = sourceId
    · exact Or.inl heq
    · obtain ⟨k, hk, hdist⟩ := hsteps.exists_dist
      exact Or.inr ⟨heq, k, hdist, by exact_mod_cast hk.trans hd⟩
  · rintro (rfl | ⟨-, d, hdist, hd⟩)
    · exact ⟨0, Nat.zero_le _, Steps.zero⟩
    · exact ⟨d, by exact_mod_cast hd, hdist.steps⟩

theorem find_path_between_exact_policies :
    let policy := draftPolicy .reference
    let g := (graphRun .reference ⟨.new, .initial "default"⟩ linkedPolicies).self
    ∃ answer result,
      g.findPathBetween .reference 0 3 policy.objectId "archive" (1 : ℕ) = some answer ∧
      g.traverse .reference 2 3 policy.objectId "outbound" (1 : ℕ) none
          (some (Runtime.reference.now 0)) = .ok (some result) ∧
      (answer.isSome ↔ ∃ d ≤ 1,
        Steps (g.Adjacent "outbound" none (Runtime.reference.now 0)) policy.objectId d "archive") ∧
      (∀ path ∈ answer,
        g.ShortestRoute (Runtime.reference.now 0) policy.objectId "archive" path) ∧
      (answer.isSome ↔ "archive" = policy.objectId ∨ "archive" ∈ result.discoveredObjects) :=
  find_path_between_exact .reference (.initial "default") linkedPolicies
    (by decide +kernel) (by decide +kernel) 1 0 2 (by decide +kernel)

end ControlFabric
