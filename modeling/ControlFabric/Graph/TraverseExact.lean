import ControlFabric.Graph.TraverseInvariant

/-! Bounded traversal against distances in the stored graph. -/
namespace ControlFabric
open Lib Method

namespace ControlGraphStore

/-- An empty filter, or none, lets every relationship through. -/
def PassesFilter (relationshipFilter : Option (List RelationshipType)) (edge : ControlEdge) :
    Prop :=
  ∀ types, relationshipFilter = some types → types ≠ [] → edge.relationshipType ∈ types

/-- A stored edge, valid at the time and passing the filter, leads from `u` to `v` when followed in
a direction allowed. -/
structure Follows (g : ControlGraphStore) (direction : String)
    (relationshipFilter : Option (List RelationshipType)) (atTime : DateTime) (u : String)
    (edge : ControlEdge) (v : String) : Prop where
  stored : g.edges.get? edge.edgeId = some edge
  valid : edge.isValidAt atTime
  passes : PassesFilter relationshipFilter edge
  ends : (direction = "outbound" ∨ direction = "both") ∧ edge.sourceObjectId = u ∧
      edge.targetObjectId = v ∨
    (direction = "inbound" ∨ direction = "both") ∧ edge.targetObjectId = u ∧
      edge.sourceObjectId = v

/-- A hop along the edge with this identifier. -/
def FollowsId (g : ControlGraphStore) (direction : String)
    (relationshipFilter : Option (List RelationshipType)) (atTime : DateTime)
    (u edgeId v : String) : Prop :=
  ∃ edge, edge.edgeId = edgeId ∧ g.Follows direction relationshipFilter atTime u edge v

def Adjacent (g : ControlGraphStore) (direction : String)
    (relationshipFilter : Option (List RelationshipType)) (atTime : DateTime) (u v : String) :
    Prop :=
  ∃ edgeId, g.FollowsId direction relationshipFilter atTime u edgeId v

def weightOf (g : ControlGraphStore) (edgeId : String) : ℤ :=
  ((g.edges.get? edgeId).map ControlEdge.enforcementWeight).getD 0

variable {g : ControlGraphStore} {direction : String}
  {relationshipFilter : Option (List RelationshipType)} {atTime : DateTime}

theorem mem_listedEdges (hkeyed : ∀ id edge, g.edges.get? id = some edge → edge.edgeId = id)
    {ids : List String} {edge : ControlEdge} :
    edge ∈ g.listedEdges ids relationshipFilter atTime ↔
      (edge.edgeId ∈ ids ∧ g.edges.get? edge.edgeId = some edge) ∧ edge.isValidAt atTime ∧
        PassesFilter relationshipFilter edge := by
  have hstored : (∃ id ∈ ids, g.edges.get? id = some edge) ↔
      edge.edgeId ∈ ids ∧ g.edges.get? edge.edgeId = some edge := by
    constructor
    · rintro ⟨id, hid, hget⟩
      rw [hkeyed id edge hget]
      exact ⟨hid, hget⟩
    · rintro ⟨hid, hget⟩
      exact ⟨edge.edgeId, hid, hget⟩
  unfold listedEdges PassesFilter
  split
  · simp [List.mem_filter, List.mem_filterMap, hstored]
  · simp [List.mem_filter, List.mem_filterMap, hstored]
  next types hne =>
    have htypes : types ≠ [] := fun h => hne (by rw [h])
    simp only [List.mem_filter, List.mem_filterMap, hstored, Option.some.injEq,
      decide_eq_true_iff, forall_eq', htypes, ne_eq, not_false_eq_true, forall_const, and_assoc]

theorem mem_edgesFrom (h : g.Integrity) {u : String} {edge : ControlEdge} :
    edge ∈ g.edgesFrom direction relationshipFilter atTime u ↔
      g.Follows direction relationshipFilter atTime u edge (edge.nextId u) := by
  have hout (hget : g.edges.get? edge.edgeId = some edge) :
      edge.edgeId ∈ g.outbound.getD u [] ↔ u = edge.sourceObjectId :=
    h.outbound.mem_stored hget u
  have hin (hget : g.edges.get? edge.edgeId = some edge) :
      edge.edgeId ∈ g.inbound.getD u [] ↔ u = edge.targetObjectId :=
    h.inbound.mem_stored hget u
  have hmem : edge ∈ g.edgesFrom direction relationshipFilter atTime u ↔
      (direction = "outbound" ∨ direction = "both") ∧
          edge ∈ g.getOutboundEdges u relationshipFilter atTime ∨
        (direction = "inbound" ∨ direction = "both") ∧
          edge ∈ g.getInboundEdges u relationshipFilter atTime := by
    simp only [edgesFrom, List.mem_append, List.mem_ite_nil_right, List.mem_cons,
      List.not_mem_nil, or_false]
  rw [hmem, getOutboundEdges, getInboundEdges, mem_listedEdges h.keyed, mem_listedEdges h.keyed]
  constructor
  · rintro (⟨hdir, ⟨hid, hget⟩, hvalid, hpasses⟩ | ⟨hdir, ⟨hid, hget⟩, hvalid, hpasses⟩)
    · have hu := (hout hget).mp hid
      exact ⟨hget, hvalid, hpasses, Or.inl ⟨hdir, hu.symm, by simp [ControlEdge.nextId, hu]⟩⟩
    · have hu := (hin hget).mp hid
      have hloop := h.no_loop _ edge hget
      exact ⟨hget, hvalid, hpasses,
        Or.inr ⟨hdir, hu.symm, by simp [ControlEdge.nextId, hu, hloop]⟩⟩
  · rintro ⟨hget, hvalid, hpasses, ⟨hdir, hu, -⟩ | ⟨hdir, hu, -⟩⟩
    · exact Or.inl ⟨hdir, ⟨(hout hget).mpr hu.symm, hget⟩, hvalid, hpasses⟩
    · exact Or.inr ⟨hdir, ⟨(hin hget).mpr hu.symm, hget⟩, hvalid, hpasses⟩

/-- An edge without a loop leads to its other end. -/
theorem Follows.nextId_eq (h : g.Integrity) {u v : String} {edge : ControlEdge}
    (hf : g.Follows direction relationshipFilter atTime u edge v) : edge.nextId u = v := by
  have hloop := h.no_loop _ edge hf.stored
  unfold ControlEdge.nextId
  rcases hf.ends with ⟨-, hs, ht⟩ | ⟨-, ht, hs⟩
  · rw [if_pos hs, ht]
  · rw [if_neg (fun he => hloop (he.trans ht.symm)), hs]

theorem hop_edgesFrom (h : g.Integrity) :
    Hop (g.edgesFrom direction relationshipFilter atTime) =
      g.FollowsId direction relationshipFilter atTime := by
  funext u edgeId v
  apply propext
  constructor
  · rintro ⟨edge, hedge, hid, hv⟩
    rw [hv]
    exact ⟨edge, hid, (mem_edgesFrom h).mp hedge⟩
  · rintro ⟨edge, hid, hfollows⟩
    have hnext := hfollows.nextId_eq h
    exact ⟨edge, (mem_edgesFrom h).mpr (hnext ▸ hfollows), hid, hnext.symm⟩

theorem edgeSource_edgesFrom (h : g.Integrity) :
    EdgeSource (g.edgesFrom direction relationshipFilter atTime) g.weightOf where
  endpoint u e he := by
    rcases ((mem_edgesFrom h).mp he).ends with ⟨-, hu, -⟩ | ⟨-, hu, -⟩
    · exact Or.inl hu.symm
    · exact Or.inr hu.symm
  unique u u' e he e' he' hid := by
    have hget := ((mem_edgesFrom h).mp he).stored
    rw [hid, ((mem_edgesFrom h).mp he').stored] at hget
    exact (Option.some.inj hget).symm
  weight_eq u e he := by simp [weightOf, ((mem_edgesFrom h).mp he).stored]

/-- The result of a traversal, told in distances and walks. -/
structure TraversalExact (g : ControlGraphStore) (startObjectId direction : String) (maxDepth : ℤ)
    (relationshipFilter : Option (List RelationshipType)) (atTime : DateTime)
    (result : GraphTraversalResult) : Prop where
  objects_nodup : result.discoveredObjects.Nodup
  mem_objects : ∀ v, v ∈ result.discoveredObjects ↔ v ≠ startObjectId ∧
    ∃ d, Dist (g.Adjacent direction relationshipFilter atTime) startObjectId d v ∧
      (d : ℤ) ≤ maxDepth
  edges_nodup : result.discoveredEdges.Nodup
  mem_edges : ∀ id, id ∈ result.discoveredEdges ↔ ∃ u d edge v,
    Dist (g.Adjacent direction relationshipFilter atTime) startObjectId d u ∧
      (d : ℤ) < maxDepth ∧ edge.edgeId = id ∧
      g.Follows direction relationshipFilter atTime u edge v
  paths_edges : (result.paths.map fun p => p.edges.getLast?).Perm
    (result.discoveredEdges.map some)
  paths_walk : ∀ p ∈ result.paths, (∃ v, Trail (g.FollowsId direction relationshipFilter atTime)
      startObjectId p.nodes p.edges v) ∧ p.nodes.length = p.edges.length + 1 ∧
    p.depth = p.edges.length ∧ p.totalEnforcementWeight = (p.edges.map g.weightOf).sum
  first_shortest : ∀ v ∈ result.discoveredObjects,
    ∃ p, result.paths.find? (fun p => p.nodes.getLast? = some v) = some p ∧
      Dist (g.Adjacent direction relationshipFilter atTime) startObjectId p.depth v
  depth_greatest : IsGreatest {d | ∃ v, (v = startObjectId ∨ v ∈ result.discoveredObjects) ∧
    Dist (g.Adjacent direction relationshipFilter atTime) startObjectId d v}
    result.traversalDepthReached

/-- On a store with integrity, from a stored object, the traversal ends and is exact. -/
theorem Integrity.traversalExact (h : g.Integrity) (rt : Runtime) (n : ℕ) {fuel : ℕ}
    {startObjectId : String} (hstart : startObjectId ∈ g.nodes) (direction : String)
    (maxDepth : ℤ) (relationshipFilter : Option (List RelationshipType))
    (atTime : Option DateTime) (hfuel : g.edges.keys.length + 1 < fuel) :
    ∃ result, g.traverse rt n fuel startObjectId direction maxDepth relationshipFilter atTime =
        .ok (some result) ∧
      g.TraversalExact startObjectId direction maxDepth relationshipFilter
        (atTime.getD (rt.now n)) result := by
  let time := atTime.getD (rt.now n)
  let out := g.edgesFrom direction relationshipFilter time
  have hout : EdgeSource out g.weightOf := edgeSource_edgesFrom h
  have hhop : Hop out = g.FollowsId direction relationshipFilter time := hop_edgesFrom h
  have hleads : Leads out = g.Adjacent direction relationshipFilter time := by
    funext u v
    simp only [Leads, hhop, Adjacent]
  have hids : ∀ u, ∀ e ∈ out u, e.edgeId ∈ g.edges.keys := fun u e he =>
    Dict.mem_iff_keys.mp (Dict.mem_of_get? ((mem_edgesFrom h).mp he).stored)
  obtain ⟨final, hloop, ⟨hsound, k, hlayered⟩, hqueue⟩ := TraversalState.loop_inv rt (n + 1)
    startObjectId (D := maxDepth) hout hids hfuel
  have hreached (d : ℕ) (hd : (d : ℤ) ≤ maxDepth) (v : String)
      (hv : Dist (Leads out) startObjectId d v) : v ∈ final.visitedNodes :=
    hlayered.mem_of_steps hsound (by simp [hqueue]) hd le_rfl hv.steps
  have hobjects (v : String) : v ∈ final.visitedNodes.filter (fun id => id ≠ startObjectId) ↔
      v ∈ final.visitedNodes ∧ v ≠ startObjectId := by simp
  refine ⟨_, by rw [traverse, if_neg (not_not.mpr hstart)]; dsimp only; rw [hloop]; rfl, ?_⟩
  refine ⟨hsound.nodes_nodup.filter _, fun v => ?_, hsound.edges_nodup, fun id => ?_, ?_,
    fun p hp => ?_, fun v hv => ?_, ?_⟩
  · rw [hobjects, ← hleads]
    constructor
    · rintro ⟨hv, hne⟩
      obtain ⟨d, hd, hstarted | hle⟩ := hsound.nodes_near v hv
      · exact absurd hstarted hne
      · exact ⟨hne, d, hd, hle⟩
    · rintro ⟨hne, d, hd, hle⟩
      exact ⟨hreached d hle v hd, hne⟩
  · rw [← hleads]
    constructor
    · intro hid
      obtain ⟨u, d, e, hd, hlt, he, hei, -⟩ := hsound.edges_near id hid
      exact ⟨u, d, e, _, hd, hlt, hei, (mem_edgesFrom h).mp he⟩
    · rintro ⟨u, d, e, v, hd, hlt, hei, hfollows⟩
      have he : e ∈ out u := (mem_edgesFrom h).mpr (hfollows.nextId_eq h ▸ hfollows)
      rw [← hei]
      exact (hlayered.closed u (hreached d hlt.le u hd) not_false (by simp [hqueue]) d hd hlt e
        he).1
  · rw [hsound.paths_last]
  · obtain ⟨v, -, hwalked⟩ := hsound.paths_walked p hp
    rw [← hhop]
    exact ⟨⟨v, hwalked.trail⟩, hwalked.trail.length_nodes, hwalked.depth_eq, hwalked.total_eq⟩
  · obtain ⟨hvisited, hne⟩ := (hobjects v).mp hv
    rw [← hleads]
    exact hsound.first_shortest v hvisited hne
  · have hset : {d | ∃ v, (v = startObjectId ∨
        v ∈ final.visitedNodes.filter (fun id => id ≠ startObjectId)) ∧
          Dist (g.Adjacent direction relationshipFilter time) startObjectId d v} =
        {d | ∃ v ∈ final.visitedNodes, Dist (Leads out) startObjectId d v} := by
      ext d
      simp only [hleads, hobjects, Set.mem_ofPred_eq]
      refine exists_congr fun v => and_congr_left fun _ => ?_
      by_cases hv : v = startObjectId
      · simp [hv, hsound.start_mem]
      · simp [hv]
    exact hset ▸ hsound.deepest

end ControlGraphStore

open ControlGraphStore

/-- On every reachable graph a bounded traversal ends, and its result is exact. -/
theorem traverse_exact (rt : Runtime) (env : Env) (ops : List GraphOp) {startObjectId : String}
    (hstart : startObjectId ∈ (graphRun rt ⟨.new, env⟩ ops).self.nodes) (direction : String)
    (maxDepth : ℤ) (relationshipFilter : Option (List RelationshipType))
    (atTime : Option DateTime) (n : ℕ) {fuel : ℕ}
    (hfuel : (graphRun rt ⟨.new, env⟩ ops).self.edges.keys.length + 1 < fuel) :
    let g := (graphRun rt ⟨.new, env⟩ ops).self
    ∃ result, g.traverse rt n fuel startObjectId direction maxDepth relationshipFilter atTime =
        .ok (some result) ∧
      g.TraversalExact startObjectId direction maxDepth relationshipFilter
        (atTime.getD (rt.now n)) result :=
  (graphRun_indexed rt env ops).2.traversalExact rt n hstart direction maxDepth relationshipFilter
    atTime hfuel

/-- A policy and a copy of it that it depends on. -/
def linkedPolicies : List GraphOp :=
  let policy := draftPolicy .reference
  [.addObject policy, .addObject { policy with objectId := "archive" },
    .addEdge
      { edgeId := "e1"
        sourceObjectId := policy.objectId
        targetObjectId := "archive"
        relationshipType := .dependsOn
        enforcementWeight := 50
        evidenceReferences := []
        validFrom := Runtime.reference.now 0
        validUntil := none
        assertedBy := "ada"
        context := []
        isActive := true
        edgeHash := "" } none]

theorem traverse_exact_policies :
    let policy := draftPolicy .reference
    let g := (graphRun .reference ⟨.new, .initial "default"⟩ linkedPolicies).self
    ∃ result, g.traverse .reference 0 3 policy.objectId "both" 3 none none = .ok (some result) ∧
      g.TraversalExact policy.objectId "both" 3 none (Runtime.reference.now 0) result :=
  traverse_exact .reference (.initial "default") linkedPolicies (by decide +kernel) "both" 3 none
    none 0 (by decide +kernel)

end ControlFabric
