import ControlFabric.Graph.Store
import ControlFabric.Lib.Loop

/-! Referential integrity of the graph and exactness of its adjacency lists. -/
namespace ControlFabric
open Lib Method

namespace ControlGraphStore

structure Integrity (g : ControlGraphStore) : Prop where
  keyed : ∀ id edge, g.edges.get? id = some edge → edge.edgeId = id
  endpoints : ∀ id edge, g.edges.get? id = some edge →
    edge.sourceObjectId ∈ g.nodes ∧ edge.targetObjectId ∈ g.nodes
  no_loop : ∀ id edge, g.edges.get? id = some edge → edge.sourceObjectId ≠ edge.targetObjectId
  outbound : Exact g.edges ControlEdge.sourceObjectId fun o => g.outbound.getD o []
  inbound : Exact g.edges ControlEdge.targetObjectId fun o => g.inbound.getD o []

variable {g : ControlGraphStore} {edge : ControlEdge} {obj : ControlObject}

theorem Integrity.new : new.Integrity where
  keyed id edge h := by simp [ControlGraphStore.new] at h
  endpoints id edge h := by simp [ControlGraphStore.new] at h
  no_loop id edge h := by simp [ControlGraphStore.new] at h
  outbound := Exact.empty
  inbound := Exact.empty

/-- Storing an object under its identifier takes no endpoint away. -/
theorem Integrity.set_node (h : g.Integrity) {g' : ControlGraphStore}
    (hnodes : g'.nodes = g.nodes.set obj.objectId obj) (hedges : g'.edges = g.edges)
    (houtbound : g'.outbound = g.outbound) (hinbound : g'.inbound = g.inbound) :
    g'.Integrity where
  keyed := by rw [hedges]; exact h.keyed
  endpoints id edge hget := by
    rw [hedges] at hget
    rw [hnodes, Dict.mem_set, Dict.mem_set]
    exact ⟨Or.inr (h.endpoints id edge hget).1, Or.inr (h.endpoints id edge hget).2⟩
  no_loop := by rw [hedges]; exact h.no_loop
  outbound := by rw [hedges, houtbound]; exact h.outbound
  inbound := by rw [hedges, hinbound]; exact h.inbound

private theorem exact_append {edges : Dict String ControlEdge} {attr : ControlEdge → String}
    {index : Dict String (List String)} (h : Exact edges attr fun o => index.getD o [])
    (hnew : edge.edgeId ∉ edges) :
    Exact (edges.set edge.edgeId edge) attr
      fun o => (appendTo index (attr edge) edge.edgeId).getD o [] := by
  have hfree := h.not_mem_new hnew
  refine (h.set_iff (nodup_appendTo h.nodup (hfree _)) fun c id hne => ?_).mpr fun c => ?_
  · simp only [mem_appendTo, hne, false_and, or_false]
  · simp only [mem_appendTo, hfree c, false_or, true_and]

theorem Integrity.withEdge (h : g.Integrity) (hinsert : g.Insertable edge) :
    (g.withEdge edge).Integrity where
  keyed id e hget := by
    rw [ControlGraphStore.withEdge, Dict.get?_set] at hget
    split at hget
    next hid => rw [hid, ← Option.some.inj hget]
    next => exact h.keyed id e hget
  endpoints id e hget := by
    rw [ControlGraphStore.withEdge, Dict.get?_set] at hget
    split at hget
    next =>
      rw [← Option.some.inj hget]
      exact ⟨hinsert.source_mem, hinsert.target_mem⟩
    next => exact h.endpoints id e hget
  no_loop id e hget := by
    rw [ControlGraphStore.withEdge, Dict.get?_set] at hget
    split at hget
    next =>
      rw [← Option.some.inj hget]
      exact hinsert.no_loop
    next => exact h.no_loop id e hget
  outbound := exact_append h.outbound hinsert.edge_new
  inbound := exact_append h.inbound hinsert.edge_new

/-- An edge put in the place of one with the same identifier and endpoints. -/
theorem Integrity.set_edge (h : g.Integrity) {id : String} {edge' : ControlEdge}
    (hget : g.edges.get? id = some edge) (hid : edge'.edgeId = edge.edgeId)
    (hsource : edge'.sourceObjectId = edge.sourceObjectId)
    (htarget : edge'.targetObjectId = edge.targetObjectId) :
    ({ g with edges := g.edges.set id edge' } : ControlGraphStore).Integrity := by
  have hcases (j : String) (e : ControlEdge) (hj : (g.edges.set id edge').get? j = some e) :
      ∃ e', g.edges.get? j = some e' ∧ e.edgeId = e'.edgeId ∧
        e.sourceObjectId = e'.sourceObjectId ∧ e.targetObjectId = e'.targetObjectId := by
    rw [Dict.get?_set] at hj
    split at hj
    next hji =>
      rw [← Option.some.inj hj, hji]
      exact ⟨edge, hget, hid, hsource, htarget⟩
    next => exact ⟨e, hj, rfl, rfl, rfl⟩
  refine ⟨fun j e hj => ?_, fun j e hj => ?_, fun j e hj => ?_, ?_, ?_⟩
  · obtain ⟨e', he', hje, -, -⟩ := hcases j e hj
    rw [hje, h.keyed j e' he']
  · obtain ⟨e', he', -, hs, ht⟩ := hcases j e hj
    rw [hs, ht]
    exact h.endpoints j e' he'
  · obtain ⟨e', he', -, hs, ht⟩ := hcases j e hj
    rw [hs, ht]
    exact h.no_loop j e' he'
  · rw [h.outbound.set_iff h.outbound.nodup fun _ _ _ => Iff.rfl, hsource]
    exact h.outbound.mem_stored hget
  · rw [h.inbound.set_iff h.inbound.nodup fun _ _ _ => Iff.rfl, htarget]
    exact h.inbound.mem_stored hget

/-- Every edge of `g` is in `g'`, up to its activity. -/
def KeepsEdges (g g' : ControlGraphStore) : Prop := ∀ id edge, g.edges.get? id = some edge →
  ∃ active, g'.edges.get? id = some { edge with isActive := active }

theorem KeepsEdges.of_edges_eq {g' : ControlGraphStore} (h : g'.edges = g.edges) :
    g.KeepsEdges g' := fun id edge hget => ⟨edge.isActive, by rw [h, hget]⟩

theorem KeepsEdges.trans {g' g'' : ControlGraphStore} (h : g.KeepsEdges g')
    (h' : g'.KeepsEdges g'') : g.KeepsEdges g'' := by
  intro id edge hget
  obtain ⟨active, hactive⟩ := h id edge hget
  obtain ⟨active', hactive'⟩ := h' id { edge with isActive := active } hactive
  exact ⟨active', hactive'⟩

end ControlGraphStore

open ControlGraphStore

theorem GraphOp.Writes.integrity {op : GraphOp} {g g' : ControlGraphStore} (h : op.Writes g g')
    (hintegrity : g.Integrity) : g'.Integrity ∧ g.KeepsEdges g' := by
  have hinsert {edge : ControlEdge} (hedge : g.Insertable edge) :
      (g.withEdge edge).Integrity ∧ g.KeepsEdges (g.withEdge edge) := by
    refine ⟨hintegrity.withEdge hedge, fun id e hget => ⟨e.isActive, ?_⟩⟩
    have hne : id ≠ edge.edgeId := fun he => hedge.edge_new (he ▸ Dict.mem_of_get? hget)
    rw [withEdge, Dict.get?_set_of_ne hne, hget]
  cases op with
  | addObject obj =>
    obtain ⟨-, he⟩ := h
    rw [he]
    exact ⟨hintegrity.set_node rfl rfl rfl rfl, KeepsEdges.of_edges_eq rfl⟩
  | updateObject obj =>
    obtain ⟨old, -, he⟩ := h
    rw [he]
    exact ⟨hintegrity.set_node rfl rfl rfl rfl, KeepsEdges.of_edges_eq rfl⟩
  | addEdge edge releaseGate =>
    obtain ⟨hedge, -, he⟩ := h
    rw [he]
    exact hinsert hedge
  | addGovernedEdge edge assertedBy releaseGate =>
    obtain ⟨hedge, -, he⟩ := h
    rw [he]
    exact hinsert hedge
  | deactivateEdge edgeId =>
    obtain ⟨edge, hget, he⟩ := h
    rw [he]
    refine ⟨hintegrity.set_edge hget rfl rfl rfl, fun id e hid => ?_⟩
    rw [Dict.get?_set]
    split
    next hsame =>
      rw [hsame, hget, Option.some.injEq] at hid
      exact ⟨false, by rw [hid]⟩
    next => exact ⟨e.isActive, hid⟩

theorem graphStep_integrity (rt : Runtime) (op : GraphOp) {w : World ControlGraphStore}
    (hindexed : w.self.Indexed) (h : w.self.Integrity) :
    (graphStep rt op w).self.Integrity ∧ w.self.KeepsEdges (graphStep rt op w).self := by
  rcases graphStep_cases rt op hindexed with hwrites | ⟨-, hself⟩
  · exact hwrites.integrity h
  · rw [hself]
    exact ⟨h, KeepsEdges.of_edges_eq rfl⟩

private theorem graphRun_integrity_of (rt : Runtime) {w : World ControlGraphStore}
    (hindexed : w.self.Indexed) (h : w.self.Integrity) (ops : List GraphOp) :
    ((graphRun rt w ops).self.Indexed ∧ (graphRun rt w ops).self.Integrity) ∧
      w.self.KeepsEdges (graphRun rt w ops).self := by
  refine run_rel (graphStep rt) (R := fun a b => a.self.Indexed ∧ a.self.Integrity →
    (b.self.Indexed ∧ b.self.Integrity) ∧ a.self.KeepsEdges b.self) ?_ ?_ ?_ w ops ⟨hindexed, h⟩
  · exact fun a ha => ⟨ha, KeepsEdges.of_edges_eq rfl⟩
  · exact fun a b c hab hbc ha => ⟨(hbc (hab ha).1).1, (hab ha).2.trans (hbc (hab ha).1).2⟩
  · intro op a ha
    have hstep := graphStep_integrity rt op ha.1 ha.2
    exact ⟨⟨graphStep_indexed rt op ha.1, hstep.1⟩, hstep.2⟩

theorem graphRun_indexed (rt : Runtime) (env : Env) (ops : List GraphOp) :
    (graphRun rt ⟨.new, env⟩ ops).self.Indexed ∧ (graphRun rt ⟨.new, env⟩ ops).self.Integrity :=
  (graphRun_integrity_of rt Indexed.new Integrity.new ops).1

/-- The edge a call adds, if it is one that adds an edge. -/
def GraphOp.added : GraphOp → Option ControlEdge
  | addEdge edge _ => some edge
  | addGovernedEdge edge _ _ => some edge
  | _ => none

/-- Over any run from the empty graph the stores agree, and an edge a returning call added is still
stored, unchanged but for its activity. -/
theorem graphRun_integrity (rt : Runtime) (env : Env) (ops : List GraphOp) :
    let start : World ControlGraphStore := ⟨.new, env⟩
    let final := (graphRun rt start ops).self
    final.Integrity ∧ ∀ pre op post edge w, ops = pre ++ op :: post → op.added = some edge →
      (op.call rt).run (graphRun rt start pre) = .ok () w →
        ∃ active, final.edges.get? edge.edgeId = some { edge with isActive := active } := by
  intro start final
  refine ⟨(graphRun_indexed rt env ops).2, ?_⟩
  intro pre op post edge w hops hadded hreturned
  obtain ⟨hindexed, hintegrity⟩ := graphRun_indexed rt env pre
  have hstored : (graphStep rt op (graphRun rt start pre)).self.edges.get? edge.edgeId =
      some edge := by
    rcases graphStep_cases rt op hindexed with hwrites | ⟨hno, -⟩
    · cases op with
      | addEdge e releaseGate =>
        rw [hwrites.2.2, Option.some.inj hadded]
        exact Dict.get?_set_self _ _ _
      | addGovernedEdge e assertedBy releaseGate =>
        rw [hwrites.2.2, Option.some.inj hadded]
        exact Dict.get?_set_self _ _ _
      | addObject _ => exact absurd hadded (by simp [GraphOp.added])
      | updateObject _ => exact absurd hadded (by simp [GraphOp.added])
      | deactivateEdge _ => exact absurd hadded (by simp [GraphOp.added])
    · rcases op.call_cases rt hindexed (graphRun rt start pre).env with
        ⟨g', env', hwrites, -⟩ | ⟨-, e, env', -, herror⟩
      · exact absurd hwrites (hno g')
      · exact absurd (hreturned.symm.trans herror) (by simp)
  have hfinal : final = (graphRun rt (graphStep rt op (graphRun rt start pre)) post).self := by
    change (run (graphStep rt) start ops).self = _
    rw [hops, run_append]
    rfl
  rw [hfinal]
  exact (graphRun_integrity_of rt (graphStep_indexed rt op hindexed)
    (graphStep_integrity rt op hindexed hintegrity).1 post).2 edge.edgeId edge hstored

end ControlFabric

/-! Breadth-first traversal of the control graph. -/
namespace ControlFabric
open Lib

namespace ControlGraphStore

/-- The stored edges an adjacency list names that are valid at the time and pass the filter; an
empty filter passes everything. -/
def listedEdges (g : ControlGraphStore) (ids : List String)
    (relationshipFilter : Option (List RelationshipType)) (atTime : DateTime) : List ControlEdge :=
  let edges := (ids.filterMap g.edges.get?).filter fun e => e.isValidAt atTime
  match relationshipFilter with
  | none | some [] => edges
  | some types => edges.filter fun e => e.relationshipType ∈ types

def getOutboundEdges (g : ControlGraphStore) (objectId : String)
    (relationshipFilter : Option (List RelationshipType)) (atTime : DateTime) : List ControlEdge :=
  g.listedEdges (g.outbound.getD objectId []) relationshipFilter atTime

def getInboundEdges (g : ControlGraphStore) (objectId : String)
    (relationshipFilter : Option (List RelationshipType)) (atTime : DateTime) : List ControlEdge :=
  g.listedEdges (g.inbound.getD objectId []) relationshipFilter atTime

/-- The edges `traverse` follows from a node. -/
def edgesFrom (g : ControlGraphStore) (direction : String)
    (relationshipFilter : Option (List RelationshipType)) (atTime : DateTime) (nodeId : String) :
    List ControlEdge :=
  (if direction ∈ ["outbound", "both"] then g.getOutboundEdges nodeId relationshipFilter atTime
    else []) ++
  (if direction ∈ ["inbound", "both"] then g.getInboundEdges nodeId relationshipFilter atTime
    else [])

end ControlGraphStore

/-- The node an edge leads to when it is followed from `nodeId`. -/
def ControlEdge.nextId (edge : ControlEdge) (nodeId : String) : String :=
  if edge.sourceObjectId = nodeId then edge.targetObjectId else edge.sourceObjectId

structure QueueEntry where
  nodeId : String
  depth : ℕ
  pathNodes : List String
  pathEdges : List String
  pathWeight : ℤ

structure TraversalState where
  visitedNodes : List String
  visitedEdges : List String
  paths : List GraphPath
  maxDepthReached : ℕ
  queue : List QueueEntry

namespace TraversalState
variable (rt : Runtime) (n : ℕ)

/-- The body of the inner loop, for one edge of the node just taken from the queue. -/
def visitEdge (entry : QueueEntry) (s : TraversalState) (edge : ControlEdge) : TraversalState :=
  if edge.edgeId ∈ s.visitedEdges then s
  else
    let nextId := edge.nextId entry.nodeId
    let next : QueueEntry :=
      { nodeId := nextId
        depth := entry.depth + 1
        pathNodes := entry.pathNodes ++ [nextId]
        pathEdges := entry.pathEdges ++ [edge.edgeId]
        pathWeight := entry.pathWeight + edge.enforcementWeight }
    let path : GraphPath :=
      { pathId := rt.uuid4 (n + s.paths.length)
        nodes := next.pathNodes
        edges := next.pathEdges
        depth := next.depth
        totalEnforcementWeight := next.pathWeight }
    let visited := { s with
      visitedEdges := s.visitedEdges ++ [edge.edgeId]
      paths := s.paths ++ [path] }
    if nextId ∈ s.visitedNodes then visited
    else { visited with
      visitedNodes := s.visitedNodes ++ [nextId]
      maxDepthReached := max s.maxDepthReached (entry.depth + 1)
      queue := s.queue ++ [next] }

/-- The body of the outer loop; `none` when the queue is empty. -/
def step (edgesFrom : String → List ControlEdge) (maxDepth : ℤ) (s : TraversalState) :
    Option TraversalState :=
  match s.queue with
  | [] => none
  | entry :: queue =>
    if maxDepth ≤ entry.depth then
      some { s with maxDepthReached := max s.maxDepthReached entry.depth, queue := queue }
    else some ((edgesFrom entry.nodeId).foldl (visitEdge rt n entry) { s with queue := queue })

def start (startObjectId : String) : TraversalState where
  visitedNodes := [startObjectId]
  visitedEdges := []
  paths := []
  maxDepthReached := 0
  queue := [⟨startObjectId, 0, [startObjectId], [], 0⟩]

end TraversalState

namespace ControlGraphStore

/-- `traverse`, with its `while` loop run for at most `fuel` rounds. The draws the call takes begin
at `n`: the time it starts at, one for each path, and the time of the result. -/
def traverse (rt : Runtime) (n fuel : ℕ) (g : ControlGraphStore) (startObjectId direction : String)
    (maxDepth : ℤ) (relationshipFilter : Option (List RelationshipType))
    (atTime : Option DateTime) : Except PyError (Option GraphTraversalResult) :=
  if startObjectId ∉ g.nodes then
    .error (.graphIntegrityError s!"Start object {startObjectId} not found.")
  else
    let atTime := atTime.getD (rt.now n)
    let edgesFrom := g.edgesFrom direction relationshipFilter atTime
    .ok ((loop (TraversalState.step rt (n + 1) edgesFrom maxDepth) fuel
      (TraversalState.start startObjectId)).map fun s =>
        { queryObjectId := startObjectId
          direction := direction
          maxDepth := maxDepth
          relationshipFilter := (relationshipFilter.getD []).map RelationshipType.value
          discoveredObjects := s.visitedNodes.filter fun id => id ≠ startObjectId
          discoveredEdges := s.visitedEdges
          paths := s.paths
          traversalDepthReached := s.maxDepthReached
          executedAt := rt.now (n + 1 + s.paths.length) })

end ControlGraphStore
end ControlFabric
