import ControlFabric.Graph.Traverse
import ControlFabric.Lib.Distance
import Mathlib.Order.Bounds.Basic

/-! The invariant of the traversal loop: both visited sets, the queue and the paths against walks
and distances. -/
namespace ControlFabric
open Lib

/-- The edges followed from each node, and the weight an edge identifier stands for. -/
structure EdgeSource (out : String → List ControlEdge) (weight : String → ℤ) : Prop where
  endpoint : ∀ u, ∀ e ∈ out u, u = e.sourceObjectId ∨ u = e.targetObjectId
  unique : ∀ u u', ∀ e ∈ out u, ∀ e' ∈ out u', e.edgeId = e'.edgeId → e = e'
  weight_eq : ∀ u, ∀ e ∈ out u, weight e.edgeId = e.enforcementWeight

/-- One hop: along the edge with this identifier, from a node it is followed from. -/
def Hop (out : String → List ControlEdge) (u edgeId v : String) : Prop :=
  ∃ e ∈ out u, e.edgeId = edgeId ∧ v = e.nextId u

def Leads (out : String → List ControlEdge) (u v : String) : Prop := ∃ edgeId, Hop out u edgeId v

theorem leads_nextId {out : String → List ControlEdge} {u : String} {e : ControlEdge}
    (he : e ∈ out u) : Leads out u (e.nextId u) := ⟨e.edgeId, e, he, rfl, rfl⟩

/-- A walk from the start along with what the traversal accumulates over it. -/
structure Walked (out : String → List ControlEdge) (weight : String → ℤ) (start : String)
    (nodes edges : List String) (depth : ℕ) (total : ℤ) (v : String) : Prop where
  trail : Trail (Hop out) start nodes edges v
  depth_eq : depth = edges.length
  total_eq : total = (edges.map weight).sum

theorem Walked.snoc {out : String → List ControlEdge} {weight : String → ℤ} {start u : String}
    {nodes edges : List String} {depth : ℕ} {total : ℤ}
    (h : Walked out weight start nodes edges depth total u) (hout : EdgeSource out weight)
    {e : ControlEdge} (he : e ∈ out u) :
    Walked out weight start (nodes ++ [e.nextId u]) (edges ++ [e.edgeId]) (depth + 1)
      (total + e.enforcementWeight) (e.nextId u) where
  trail := h.trail.snoc ⟨e, he, rfl, rfl⟩
  depth_eq := by simp [h.depth_eq]
  total_eq := by simp [h.total_eq, hout.weight_eq u e he]

namespace TraversalState
variable {rt : Runtime} {n : ℕ} {out : String → List ControlEdge} {weight : String → ℤ} {D : ℤ}
  {start : String} {s : TraversalState}

/-- What holds at every point of the traversal, whatever is still queued. -/
structure Sound (out : String → List ControlEdge) (weight : String → ℤ) (D : ℤ) (start : String)
    (s : TraversalState) : Prop where
  nodes_nodup : s.visitedNodes.Nodup
  edges_nodup : s.visitedEdges.Nodup
  start_mem : start ∈ s.visitedNodes
  nodes_near : ∀ v ∈ s.visitedNodes, ∃ d, Dist (Leads out) start d v ∧ (v = start ∨ (d : ℤ) ≤ D)
  edges_near : ∀ l ∈ s.visitedEdges, ∃ u d e, Dist (Leads out) start d u ∧ (d : ℤ) < D ∧
    e ∈ out u ∧ e.edgeId = l ∧ e.sourceObjectId ∈ s.visitedNodes ∧ e.targetObjectId ∈ s.visitedNodes
  queued : ∀ q ∈ s.queue, q.nodeId ∈ s.visitedNodes ∧
    Dist (Leads out) start q.depth q.nodeId ∧
    Walked out weight start q.pathNodes q.pathEdges q.depth q.pathWeight q.nodeId
  paths_last : s.paths.map (fun p => p.edges.getLast?) = s.visitedEdges.map some
  paths_walked : ∀ p ∈ s.paths, ∃ v ∈ s.visitedNodes,
    Walked out weight start p.nodes p.edges p.depth p.totalEnforcementWeight v
  first_shortest : ∀ v ∈ s.visitedNodes, v ≠ start →
    ∃ p, s.paths.find? (fun p => p.nodes.getLast? = some v) = some p ∧
      Dist (Leads out) start p.depth v
  deepest : IsGreatest {d | ∃ v ∈ s.visitedNodes, Dist (Leads out) start d v} s.maxDepthReached

/-- The queue holds at most two layers in order, and every visited node nearer than the bound that
is neither queued nor pending has all its edges and their ends visited. -/
structure Layered (out : String → List ControlEdge) (D : ℤ) (start : String)
    (pending : String → Prop) (k : ℕ) (s : TraversalState) : Prop where
  sorted : s.queue.Pairwise fun q q' => q.depth ≤ q'.depth
  layers : ∀ q ∈ s.queue, k ≤ q.depth ∧ q.depth ≤ k + 1
  closed : ∀ u ∈ s.visitedNodes, ¬ pending u → (∀ q ∈ s.queue, q.nodeId ≠ u) →
    ∀ d, Dist (Leads out) start d u → (d : ℤ) < D →
      ∀ e ∈ out u, e.edgeId ∈ s.visitedEdges ∧ e.nextId u ∈ s.visitedNodes

theorem start_sound (out : String → List ControlEdge) (weight : String → ℤ) (D : ℤ)
    (start : String) : Sound out weight D start (TraversalState.start start) where
  nodes_nodup := List.nodup_singleton start
  edges_nodup := List.nodup_nil
  start_mem := List.mem_singleton_self start
  nodes_near v hv := by
    rw [List.mem_singleton.mp hv]
    exact ⟨0, Dist.self, Or.inl rfl⟩
  edges_near l hl := absurd hl List.not_mem_nil
  queued q hq := by
    rw [List.mem_singleton.mp hq]
    exact ⟨List.mem_singleton_self start, Dist.self, Trail.nil, rfl, rfl⟩
  paths_last := rfl
  paths_walked p hp := absurd hp List.not_mem_nil
  first_shortest v hv hne := absurd (List.mem_singleton.mp hv) hne
  deepest := by
    refine ⟨⟨start, List.mem_singleton_self start, Dist.self⟩, ?_⟩
    rintro d ⟨v, hv, hd⟩
    rw [List.mem_singleton.mp hv] at hd
    rw [hd.unique Dist.self]
    exact le_rfl

theorem start_layered (out : String → List ControlEdge) (D : ℤ) (start : String) :
    Layered out D start (fun _ => False) 0 (TraversalState.start start) where
  sorted := List.pairwise_singleton _ _
  layers q hq := by
    rw [List.mem_singleton.mp hq]
    exact ⟨le_rfl, Nat.zero_le _⟩
  closed u hu _ hqueue := by
    have hne := hqueue _ (List.mem_singleton_self _)
    exact absurd (List.mem_singleton.mp hu).symm hne

/-- Every node within the depth of the queue's layer is visited. -/
theorem Layered.mem_of_steps {k b : ℕ} (hsound : Sound out weight D start s)
    (h : Layered out D start (fun _ => False) k s) (hqueue : ∀ q ∈ s.queue, b ≤ q.depth)
    (hb : (b : ℤ) ≤ D) {m : ℕ} {v : String} (hm : m ≤ b) (hv : Steps (Leads out) start m v) :
    v ∈ s.visitedNodes := by
  refine mem_of_closed (S := fun v => v ∈ s.visitedNodes) hsound.start_mem ?_ hm hv
  rintro u d hu hd hlt v ⟨l, e, he, -, hnext⟩
  have hfree : ∀ q ∈ s.queue, q.nodeId ≠ u := by
    intro q hq hqu
    have hqd := (hsound.queued q hq).2.1
    rw [hqu] at hqd
    have := hqueue q hq
    have := hd.unique hqd
    omega
  rw [hnext]
  exact (h.closed u hu not_false hfree d hd (by omega) e he).2

section VisitEdge
variable (rt n) {entry : QueueEntry} {e : ControlEdge}

/-- The entry whose edges are being scanned, all nodes up to its depth being visited. -/
structure Scanning (out : String → List ControlEdge) (weight : String → ℤ) (D : ℤ)
    (start : String) (entry : QueueEntry) (s : TraversalState) : Prop where
  visited : entry.nodeId ∈ s.visitedNodes
  dist : Dist (Leads out) start entry.depth entry.nodeId
  walked : Walked out weight start entry.pathNodes entry.pathEdges entry.depth entry.pathWeight
    entry.nodeId
  below : (entry.depth : ℤ) < D
  near : ∀ m ≤ entry.depth, ∀ v, Steps (Leads out) start m v → v ∈ s.visitedNodes

/-- The path and the queue entry for following an edge. -/
private def nextPath (rt : Runtime) (n : ℕ) (entry : QueueEntry) (s : TraversalState)
    (e : ControlEdge) : GraphPath where
  pathId := rt.uuid4 (n + s.paths.length)
  nodes := entry.pathNodes ++ [e.nextId entry.nodeId]
  edges := entry.pathEdges ++ [e.edgeId]
  depth := entry.depth + 1
  totalEnforcementWeight := entry.pathWeight + e.enforcementWeight

private def nextEntry (entry : QueueEntry) (e : ControlEdge) : QueueEntry where
  nodeId := e.nextId entry.nodeId
  depth := entry.depth + 1
  pathNodes := entry.pathNodes ++ [e.nextId entry.nodeId]
  pathEdges := entry.pathEdges ++ [e.edgeId]
  pathWeight := entry.pathWeight + e.enforcementWeight

theorem visitEdge_seen (h : e.edgeId ∈ s.visitedEdges) : visitEdge rt n entry s e = s := if_pos h

theorem visitEdge_joins (h : e.edgeId ∉ s.visitedEdges)
    (hnext : e.nextId entry.nodeId ∈ s.visitedNodes) : visitEdge rt n entry s e =
      { s with
        visitedEdges := s.visitedEdges ++ [e.edgeId]
        paths := s.paths ++ [nextPath rt n entry s e] } := by
  simp [visitEdge, h, hnext, nextPath]

theorem visitEdge_discovers (h : e.edgeId ∉ s.visitedEdges)
    (hnext : e.nextId entry.nodeId ∉ s.visitedNodes) : visitEdge rt n entry s e =
      { visitedNodes := s.visitedNodes ++ [e.nextId entry.nodeId]
        visitedEdges := s.visitedEdges ++ [e.edgeId]
        paths := s.paths ++ [nextPath rt n entry s e]
        maxDepthReached := max s.maxDepthReached (entry.depth + 1)
        queue := s.queue ++ [nextEntry entry e] } := by
  simp [visitEdge, h, hnext, nextPath, nextEntry]

theorem Scanning.nextPath_walked (h : Scanning out weight D start entry s)
    (hout : EdgeSource out weight) (he : e ∈ out entry.nodeId) :
    Walked out weight start (nextPath rt n entry s e).nodes (nextPath rt n entry s e).edges
      (nextPath rt n entry s e).depth (nextPath rt n entry s e).totalEnforcementWeight
      (e.nextId entry.nodeId) := h.walked.snoc hout he

/-- Both ends of an edge followed from a visited node to a visited node are visited. -/
theorem ends_visited (hout : EdgeSource out weight) {u : String} (he : e ∈ out u)
    {visited : List String} (hu : u ∈ visited) (hnext : e.nextId u ∈ visited) :
    e.sourceObjectId ∈ visited ∧ e.targetObjectId ∈ visited := by
  unfold ControlEdge.nextId at hnext
  split at hnext
  next hs => exact ⟨hs ▸ hu, hnext⟩
  next hs =>
    rcases hout.endpoint u e he with hsource | htarget
    · exact absurd hsource.symm hs
    · exact ⟨hnext, htarget ▸ hu⟩

/-- An edge already visited leads to a visited node, from whichever end it is followed. -/
theorem Sound.nextId_visited (h : Sound out weight D start s) (hout : EdgeSource out weight)
    {u : String} (he : e ∈ out u) (hseen : e.edgeId ∈ s.visitedEdges) :
    e.nextId u ∈ s.visitedNodes := by
  obtain ⟨u', d, e', -, -, he', hid, hsource, htarget⟩ := h.edges_near _ hseen
  rw [hout.unique u' u e' he' e he hid] at hsource htarget
  unfold ControlEdge.nextId
  split
  · exact htarget
  · exact hsource

theorem Sound.visitEdge_joins (h : Sound out weight D start s) (hout : EdgeSource out weight)
    (hscan : Scanning out weight D start entry s) (he : e ∈ out entry.nodeId)
    (hnew : e.edgeId ∉ s.visitedEdges) (hnext : e.nextId entry.nodeId ∈ s.visitedNodes) :
    Sound out weight D start { s with
      visitedEdges := s.visitedEdges ++ [e.edgeId]
      paths := s.paths ++ [nextPath rt n entry s e] } where
  nodes_nodup := h.nodes_nodup
  edges_nodup := by simpa using h.edges_nodup.concat hnew
  start_mem := h.start_mem
  nodes_near := h.nodes_near
  edges_near l hl := by
    rcases List.mem_append.mp hl with hl | hl
    · exact h.edges_near l hl
    · rw [List.mem_singleton.mp hl]
      exact ⟨entry.nodeId, entry.depth, e, hscan.dist, hscan.below, he, rfl,
        ends_visited hout he hscan.visited hnext⟩
  queued := h.queued
  paths_last := by simp [h.paths_last, nextPath]
  paths_walked p hp := by
    rcases List.mem_append.mp hp with hp | hp
    · exact h.paths_walked p hp
    · rw [List.mem_singleton.mp hp]
      exact ⟨_, hnext, hscan.nextPath_walked rt n hout he⟩
  first_shortest v hv hne := by
    obtain ⟨p, hp, hdist⟩ := h.first_shortest v hv hne
    exact ⟨p, by rw [List.find?_append, hp]; rfl, hdist⟩
  deepest := h.deepest

theorem Scanning.dist_nextId (hscan : Scanning out weight D start entry s)
    (he : e ∈ out entry.nodeId) (hnext : e.nextId entry.nodeId ∉ s.visitedNodes) :
    Dist (Leads out) start (entry.depth + 1) (e.nextId entry.nodeId) :=
  hscan.dist.succ (leads_nextId he) fun m hm hsteps => hnext (hscan.near m hm _ hsteps)

theorem Sound.visitEdge_discovers (h : Sound out weight D start s) (hout : EdgeSource out weight)
    (hscan : Scanning out weight D start entry s) (he : e ∈ out entry.nodeId)
    (hnew : e.edgeId ∉ s.visitedEdges) (hnext : e.nextId entry.nodeId ∉ s.visitedNodes) :
    Sound out weight D start
      { visitedNodes := s.visitedNodes ++ [e.nextId entry.nodeId]
        visitedEdges := s.visitedEdges ++ [e.edgeId]
        paths := s.paths ++ [nextPath rt n entry s e]
        maxDepthReached := max s.maxDepthReached (entry.depth + 1)
        queue := s.queue ++ [nextEntry entry e] } := by
  have hdist := hscan.dist_nextId he hnext
  have hbelow := hscan.below
  have hold (v : String) (hv : v ∈ s.visitedNodes) :
      v ∈ s.visitedNodes ++ [e.nextId entry.nodeId] := List.mem_append_left _ hv
  have hself : e.nextId entry.nodeId ∈ s.visitedNodes ++ [e.nextId entry.nodeId] :=
    List.mem_append_right _ (List.mem_singleton_self _)
  refine ⟨by simpa using h.nodes_nodup.concat hnext, by simpa using h.edges_nodup.concat hnew,
    hold _ h.start_mem, ?_, ?_, ?_, ?_, ?_, ?_, ?_⟩
  · intro v hv
    rcases List.mem_append.mp hv with hv | hv
    · exact h.nodes_near v hv
    · rw [List.mem_singleton.mp hv]
      exact ⟨entry.depth + 1, hdist, Or.inr (by push_cast; omega)⟩
  · intro l hl
    rcases List.mem_append.mp hl with hl | hl
    · obtain ⟨u, d, e', hd, hlt, he', hid, hsource, htarget⟩ := h.edges_near l hl
      exact ⟨u, d, e', hd, hlt, he', hid, hold _ hsource, hold _ htarget⟩
    · rw [List.mem_singleton.mp hl]
      exact ⟨entry.nodeId, entry.depth, e, hscan.dist, hbelow, he, rfl,
        ends_visited hout he (hold _ hscan.visited) hself⟩
  · intro q hq
    rcases List.mem_append.mp hq with hq | hq
    · exact ⟨hold _ (h.queued q hq).1, (h.queued q hq).2⟩
    · rw [List.mem_singleton.mp hq]
      exact ⟨hself, hdist, hscan.walked.snoc hout he⟩
  · simp [h.paths_last, nextPath]
  · intro p hp
    rcases List.mem_append.mp hp with hp | hp
    · obtain ⟨v, hv, hwalked⟩ := h.paths_walked p hp
      exact ⟨v, hold v hv, hwalked⟩
    · rw [List.mem_singleton.mp hp]
      exact ⟨_, hself, hscan.nextPath_walked rt n hout he⟩
  · intro v hv hne
    rcases List.mem_append.mp hv with hv | hv
    · obtain ⟨p, hp, hpd⟩ := h.first_shortest v hv hne
      exact ⟨p, by rw [List.find?_append, hp]; rfl, hpd⟩
    · rw [List.mem_singleton.mp hv]
      have hnone : s.paths.find? (fun p => p.nodes.getLast? = some (e.nextId entry.nodeId)) =
          none := by
        rw [List.find?_eq_none]
        intro p hp hlast
        obtain ⟨w, hw, hwalked⟩ := h.paths_walked p hp
        have hwlast := hwalked.trail.last_nodes
        simp only [decide_eq_true_iff] at hlast
        rw [hlast, Option.some.injEq] at hwlast
        exact hnext (hwlast ▸ hw)
      exact ⟨nextPath rt n entry s e, by rw [List.find?_append, hnone]; simp [nextPath], hdist⟩
  · obtain ⟨⟨v, hv, hvd⟩, hupper⟩ := h.deepest
    refine ⟨?_, ?_⟩
    · rcases le_total s.maxDepthReached (entry.depth + 1) with hle | hle
      · rw [max_eq_right hle]
        exact ⟨_, hself, hdist⟩
      · rw [max_eq_left hle]
        exact ⟨v, hold v hv, hvd⟩
    · rintro d ⟨w, hw, hwd⟩
      rcases List.mem_append.mp hw with hw | hw
      · exact le_max_of_le_left (hupper ⟨w, hw, hwd⟩)
      · rw [List.mem_singleton.mp hw] at hwd
        rw [hwd.unique hdist]
        exact le_max_right _ _

/-- The visited sets grow, and every queue entry added pays with an edge visited. -/
structure Extends (s s' : TraversalState) : Prop where
  nodes : s.visitedNodes ⊆ s'.visitedNodes
  edges : s.visitedEdges ⊆ s'.visitedEdges
  queue_length : s'.queue.length + s.visitedEdges.length ≤
    s.queue.length + s'.visitedEdges.length

theorem Extends.refl (s : TraversalState) : Extends s s :=
  ⟨List.Subset.refl _, List.Subset.refl _, le_rfl⟩

theorem Extends.trans {s s' s'' : TraversalState} (h : Extends s s') (h' : Extends s' s'') :
    Extends s s'' where
  nodes := List.Subset.trans h.nodes h'.nodes
  edges := List.Subset.trans h.edges h'.edges
  queue_length := by
    have := h.queue_length
    have := h'.queue_length
    omega

theorem Scanning.mono {s' : TraversalState} (h : Scanning out weight D start entry s)
    (hnodes : s.visitedNodes ⊆ s'.visitedNodes) : Scanning out weight D start entry s' :=
  ⟨hnodes h.visited, h.dist, h.walked, h.below, fun m hm v hv => hnodes (h.near m hm v hv)⟩

/-- The state while the edges of `entry` are scanned: its node is the pending one. -/
structure InLoop (out : String → List ControlEdge) (weight : String → ℤ) (D : ℤ)
    (start : String) (entry : QueueEntry) (s : TraversalState) : Prop where
  sound : Sound out weight D start s
  scanning : Scanning out weight D start entry s
  layered : Layered out D start (fun u => u = entry.nodeId) entry.depth s

theorem InLoop.visitEdge (h : InLoop out weight D start entry s) (hout : EdgeSource out weight)
    (he : e ∈ out entry.nodeId) :
    InLoop out weight D start entry (visitEdge rt n entry s e) ∧
      Extends s (visitEdge rt n entry s e) ∧
      e.edgeId ∈ (visitEdge rt n entry s e).visitedEdges ∧
      e.nextId entry.nodeId ∈ (visitEdge rt n entry s e).visitedNodes := by
  by_cases hseen : e.edgeId ∈ s.visitedEdges
  · rw [visitEdge_seen rt n hseen]
    exact ⟨h, Extends.refl s, hseen, h.sound.nextId_visited hout he hseen⟩
  by_cases hnext : e.nextId entry.nodeId ∈ s.visitedNodes
  · have hsound := h.sound.visitEdge_joins rt n hout h.scanning he hseen hnext
    rw [visitEdge_joins rt n hseen hnext]
    refine ⟨⟨hsound, h.scanning.mono (List.Subset.refl _), h.layered.sorted, h.layered.layers, ?_⟩,
      ⟨List.Subset.refl _, List.subset_append_left _ _, by simp⟩, by simp, hnext⟩
    intro u hu hpending hqueue d hd hlt e' he'
    obtain ⟨hedge, hnode⟩ := h.layered.closed u hu hpending hqueue d hd hlt e' he'
    exact ⟨List.mem_append_left _ hedge, hnode⟩
  · have hsound := h.sound.visitEdge_discovers rt n hout h.scanning he hseen hnext
    rw [visitEdge_discovers rt n hseen hnext]
    have hgrow : s.visitedNodes ⊆ s.visitedNodes ++ [e.nextId entry.nodeId] :=
      List.subset_append_left _ _
    refine ⟨⟨hsound, h.scanning.mono hgrow, ?_, ?_, ?_⟩,
      ⟨hgrow, List.subset_append_left _ _, by simp; omega⟩, by simp, by simp⟩
    · refine List.pairwise_append.mpr ⟨h.layered.sorted, List.pairwise_singleton _ _, ?_⟩
      intro q hq q' hq'
      rw [List.mem_singleton.mp hq']
      exact (h.layered.layers q hq).2
    · intro q hq
      rcases List.mem_append.mp hq with hq | hq
      · exact h.layered.layers q hq
      · rw [List.mem_singleton.mp hq]
        exact ⟨Nat.le_succ _, le_rfl⟩
    · intro u hu hpending hqueue d hd hlt e' he'
      rcases List.mem_append.mp hu with hu | hu
      · obtain ⟨hedge, hnode⟩ := h.layered.closed u hu hpending
          (fun q hq => hqueue q (List.mem_append_left _ hq)) d hd hlt e' he'
        exact ⟨List.mem_append_left _ hedge, hgrow hnode⟩
      · have hqueued := hqueue (nextEntry entry e)
          (List.mem_append_right _ (List.mem_singleton_self _))
        exact absurd (List.mem_singleton.mp hu).symm hqueued

theorem InLoop.visitEdges (hout : EdgeSource out weight) {edges : List ControlEdge}
    (hedges : ∀ e ∈ edges, e ∈ out entry.nodeId) (h : InLoop out weight D start entry s) :
    InLoop out weight D start entry (edges.foldl (TraversalState.visitEdge rt n entry) s) ∧
      Extends s (edges.foldl (TraversalState.visitEdge rt n entry) s) ∧
      ∀ e ∈ edges,
        e.edgeId ∈ (edges.foldl (TraversalState.visitEdge rt n entry) s).visitedEdges ∧
        e.nextId entry.nodeId ∈
          (edges.foldl (TraversalState.visitEdge rt n entry) s).visitedNodes := by
  induction edges generalizing s with
  | nil => exact ⟨h, Extends.refl s, by simp⟩
  | cons e edges ih =>
    obtain ⟨hloop, hextends, hedge, hnode⟩ := h.visitEdge rt n hout
      (hedges e List.mem_cons_self)
    obtain ⟨hloop', hextends', hrest⟩ := ih (fun e' he' => hedges e' (List.mem_cons_of_mem _ he'))
      hloop
    refine ⟨hloop', hextends.trans hextends', fun e' he' => ?_⟩
    rcases List.mem_cons.mp he' with hee | he'
    · rw [hee]
      exact ⟨hextends'.edges hedge, hextends'.nodes hnode⟩
    · exact hrest e' he'

end VisitEdge

/-- The loop invariant. -/
structure Inv (out : String → List ControlEdge) (weight : String → ℤ) (D : ℤ) (start : String)
    (s : TraversalState) : Prop where
  sound : Sound out weight D start s
  layered : ∃ k, Layered out D start (fun _ => False) k s

theorem inv_start (out : String → List ControlEdge) (weight : String → ℤ) (D : ℤ)
    (start : String) : Inv out weight D start (TraversalState.start start) :=
  ⟨start_sound out weight D start, 0, start_layered out D start⟩

/-- Taking an entry off the queue leaves what does not depend on the queue. -/
theorem Sound.pop (h : Sound out weight D start s) {entry : QueueEntry} {queue : List QueueEntry}
    (hqueue : s.queue = entry :: queue) : Sound out weight D start { s with queue := queue } :=
  { h with queued := fun q hq => h.queued q (hqueue ▸ List.mem_cons_of_mem _ hq) }

/-- An entry at the depth bound is dropped: nothing is followed from it. -/
theorem Inv.drop (h : Inv out weight D start s) {entry : QueueEntry} {queue : List QueueEntry}
    (hqueue : s.queue = entry :: queue) (hdeep : D ≤ entry.depth) :
    Inv out weight D start
      { s with maxDepthReached := max s.maxDepthReached entry.depth, queue := queue } := by
  obtain ⟨k, hlayered⟩ := h.layered
  have hentry := h.sound.queued entry (hqueue ▸ List.mem_cons_self)
  have hmax : max s.maxDepthReached entry.depth = s.maxDepthReached :=
    max_eq_left (h.sound.deepest.2 ⟨entry.nodeId, hentry.1, hentry.2.1⟩)
  have hsorted := hlayered.sorted
  rw [hqueue, List.pairwise_cons] at hsorted
  rw [hmax]
  refine ⟨h.sound.pop hqueue, k, hsorted.2, ?_, ?_⟩
  · exact fun q hq => hlayered.layers q (hqueue ▸ List.mem_cons_of_mem _ hq)
  · intro u hu hpending hfree d hd hlt
    refine hlayered.closed u hu hpending (fun q hq => ?_) d hd hlt
    rw [hqueue] at hq
    rcases List.mem_cons.mp hq with hqe | hq
    · intro hqu
      rw [← hqu, hqe] at hd
      have := hd.unique hentry.2.1
      omega
    · exact hfree q hq

variable (rt n) in
/-- Scanning an entry's edges closes its node and leaves the invariant for the rest. -/
theorem Inv.expand (h : Inv out weight D start s) (hout : EdgeSource out weight)
    {entry : QueueEntry} {queue : List QueueEntry} (hqueue : s.queue = entry :: queue)
    (hbelow : (entry.depth : ℤ) < D) :
    Inv out weight D start
        ((out entry.nodeId).foldl (visitEdge rt n entry) { s with queue := queue }) ∧
      Extends { s with queue := queue }
        ((out entry.nodeId).foldl (visitEdge rt n entry) { s with queue := queue }) := by
  obtain ⟨k, hlayered⟩ := h.layered
  obtain ⟨hvisited, hdist, hwalked⟩ := h.sound.queued entry (hqueue ▸ List.mem_cons_self)
  have hsorted := hlayered.sorted
  rw [hqueue, List.pairwise_cons] at hsorted
  have hahead : ∀ q ∈ s.queue, entry.depth ≤ q.depth := by
    intro q hq
    rw [hqueue] at hq
    rcases List.mem_cons.mp hq with hqe | hq
    · rw [hqe]
    · exact hsorted.1 q hq
  have hk := (hlayered.layers entry (hqueue ▸ List.mem_cons_self)).1
  have hloop : InLoop out weight D start entry { s with queue := queue } := by
    refine ⟨h.sound.pop hqueue, ⟨hvisited, hdist, hwalked, hbelow, ?_⟩, hsorted.2, ?_, ?_⟩
    · exact fun m hm v hv => hlayered.mem_of_steps h.sound hahead hbelow.le hm hv
    · intro q hq
      have := hlayered.layers q (hqueue ▸ List.mem_cons_of_mem _ hq)
      exact ⟨hsorted.1 q hq, by omega⟩
    · intro u hu hpending hfree d hd hlt
      refine hlayered.closed u hu not_false (fun q hq => ?_) d hd hlt
      rw [hqueue] at hq
      rcases List.mem_cons.mp hq with hqe | hq
      · rw [hqe]
        exact fun hqu => hpending hqu.symm
      · exact hfree q hq
  obtain ⟨hend, hextends, hscanned⟩ := hloop.visitEdges rt n hout (fun e he => he)
  refine ⟨⟨hend.sound, entry.depth, hend.layered.sorted, hend.layered.layers, ?_⟩, hextends⟩
  intro u hu _ hfree d hd hlt e he
  by_cases hpending : u = entry.nodeId
  · rw [hpending] at he ⊢
    exact hscanned e he
  · exact hend.layered.closed u hu hpending hfree d hd hlt e he

theorem Sound.visitedEdges_length_le (h : Sound out weight D start s) {ids : List String}
    (hids : ∀ u, ∀ e ∈ out u, e.edgeId ∈ ids) : s.visitedEdges.length ≤ ids.length := by
  refine (h.edges_nodup.subperm fun l hl => ?_).length_le
  obtain ⟨u, d, e, -, -, he, hid, -⟩ := h.edges_near l hl
  exact hid ▸ hids u e he

variable (rt n start) in
/-- The loop ends after at most as many rounds as there are edges, and one for the start. -/
theorem loop_inv (hout : EdgeSource out weight) {ids : List String}
    (hids : ∀ u, ∀ e ∈ out u, e.edgeId ∈ ids) {fuel : ℕ} (hfuel : ids.length + 1 < fuel) :
    ∃ final, loop (step rt n out D) fuel (TraversalState.start start) = some final ∧
      Inv out weight D start final ∧ final.queue = [] := by
  have hend (s : TraversalState) (h : step rt n out D s = none) : s.queue = [] := by
    unfold step at h
    split at h
    · assumption
    · split at h <;> cases h
  let measure (s : TraversalState) : ℕ :=
    s.queue.length + (ids.length - s.visitedEdges.length)
  have hround : ∀ s s', Inv out weight D start s → step rt n out D s = some s' →
      Inv out weight D start s' ∧ measure s' < measure s := by
    intro s s' hinv hstep
    unfold step at hstep
    split at hstep
    · cases hstep
    next entry queue hqueue =>
      split at hstep
      next hdeep =>
        rw [← Option.some.inj hstep]
        refine ⟨hinv.drop hqueue hdeep, ?_⟩
        simp [measure, hqueue]
      next hbelow =>
        obtain ⟨hinv', hextends⟩ := hinv.expand rt n hout hqueue
          (not_le.mp hbelow)
        rw [← Option.some.inj hstep]
        refine ⟨hinv', ?_⟩
        have hlength := hextends.queue_length
        have hbound := hinv'.sound.visitedEdges_length_le hids
        simp only [measure, hqueue, List.length_cons]
        dsimp only at hlength
        omega
  have hstart : measure (TraversalState.start start) < fuel := by
    simpa [measure, TraversalState.start, Nat.add_comm] using hfuel
  obtain ⟨final, hloop, hinv, hnone⟩ :=
    loop_terminates measure hround (inv_start out weight D start) hstart
  exact ⟨final, hloop, hinv, hend final hnone⟩

end TraversalState
end ControlFabric
