import ControlFabric.Services.ControlGraphService
import ControlFabric.Lib.Layers

/-! What a slice of the graph service holds: the objects of the tenant within reach of the roots,
with their distances, and when the slice was cut short, all of them up to a layer. -/
namespace ControlFabric.Services
open Lib

namespace ControlGraphService
variable (fabric : ControlFabricService) (tenantId : String) (request : GraphSliceRequest)

/-- The objects a slice goes on to from one it expands. -/
def sliceNext (currentId : String) : List String :=
  fabric.links.values.filterMap (follows fabric tenantId request currentId)

/-- How far an object is from the next root, over the links and objects that the request admits. -/
def RootDistance (n : ℕ) (id : String) : Prop :=
  DistFrom (Frontier.Edge (sliceNext fabric tenantId request)) (sliceRoots fabric tenantId request) n id

/-- A root, or an object not farther from one than the request allows. -/
def WithinReach (id : String) : Prop :=
  WithinFrom (Frontier.Edge (sliceNext fabric tenantId request)) (sliceRoots fabric tenantId request)
    request.maxDepth id

variable {fabric tenantId request}

theorem follows_eq_some {currentId id : String} {link : FabricLink} :
    follows fabric tenantId request currentId link = some id ↔ link.neighborId currentId = some id ∧
      admits request.allowedLinkTypes link.linkType ∧ request.minWeight ≤ link.weight ∧
      ∃ obj, fabric.objects.get? id = some obj ∧ obj.tenantId = tenantId ∧
        admits request.allowedPlanes obj.plane := by
  unfold follows
  cases link.neighborId currentId with
  | none => simp
  | some neighborId =>
    cases hobj : fabric.objects.get? neighborId with
    | none => grind
    | some obj => grind

theorem mem_sliceNext {currentId id : String} : id ∈ sliceNext fabric tenantId request currentId ↔
    ∃ link ∈ fabric.links.values, follows fabric tenantId request currentId link = some id :=
  List.mem_filterMap

theorem mem_sliceRoots {id : String} : id ∈ sliceRoots fabric tenantId request ↔
    id ∈ request.rootIds ∧ ∃ obj, fabric.objects.get? id = some obj ∧ obj.tenantId = tenantId := by
  simp [sliceRoots, List.mem_filter, Option.any_eq_true]

theorem sliceNext_stored (currentId : String) :
    ∀ id ∈ sliceNext fabric tenantId request currentId, id ∈ fabric.objects.keys := by
  intro id hid
  obtain ⟨link, -, hfollows⟩ := mem_sliceNext.mp hid
  obtain ⟨-, -, -, obj, hobj, -⟩ := follows_eq_some.mp hfollows
  exact Dict.mem_iff_keys.mp (Dict.mem_of_get? hobj)

/-- Whatever is within reach is an object of the tenant. -/
theorem WithinReach.owned {id : String} (h : WithinReach fabric tenantId request id) :
    ∃ obj, fabric.objects.get? id = some obj ∧ obj.tenantId = tenantId := by
  obtain ⟨n, -, root, hroot, hsteps⟩ := h
  cases hsteps with
  | zero => exact (mem_sliceRoots.mp hroot).2
  | succ _ hnext =>
    obtain ⟨link, -, hfollows⟩ := mem_sliceNext.mp hnext
    obtain ⟨-, -, -, obj, hobj, htenant, -⟩ := follows_eq_some.mp hfollows
    exact ⟨obj, hobj, htenant⟩

/-! ### The search as a search for layers -/

def layers (search : GraphSearch) : Layers String :=
  ⟨search.queue, search.visited.entries, search.depthReached, search.truncated⟩

theorem layers_collectEdge (currentId : String) (depth : ℤ) (search : GraphSearch)
    (link : FabricLink) :
    layers (collectEdge fabric tenantId request currentId depth search link) =
      match follows fabric tenantId request currentId link with
      | none => layers search
      | some id => (layers search).visit request.maxDepth depth id := by
  unfold collectEdge
  cases follows fabric tenantId request currentId link with
  | none => rfl
  | some id =>
    dsimp only
    unfold Layers.visit
    by_cases hnew : id ∉ search.visited ∧ depth + 1 ≤ request.maxDepth
    · have hnew' : id ∉ (layers search).ids ∧ depth + 1 ≤ request.maxDepth := hnew
      rw [if_pos hnew, layers, Dict.entries_set_new hnew.1]
      exact (if_pos hnew').symm
    · have hold : ¬ (id ∉ (layers search).ids ∧ depth + 1 ≤ request.maxDepth) := hnew
      rw [if_neg hnew]
      exact (if_neg hold).symm

theorem layers_foldl (currentId : String) (depth : ℤ) (links : List FabricLink)
    (search : GraphSearch) :
    layers (links.foldl (collectEdge fabric tenantId request currentId depth) search) =
      (links.filterMap (follows fabric tenantId request currentId)).foldl
        (Layers.visit request.maxDepth depth) (layers search) := by
  induction links generalizing search with
  | nil => rfl
  | cons link links ih =>
    rw [List.foldl_cons, ih, layers_collectEdge]
    cases h : follows fabric tenantId request currentId link with
    | none => rw [List.filterMap_cons_none h]
    | some id => rw [List.filterMap_cons_some h, List.foldl_cons]

variable (fabric tenantId request) in
theorem layers_sliceStep (search : GraphSearch) :
    (sliceStep fabric tenantId request search).map layers = (layers search).expand
      (sliceNext fabric tenantId request) request.maxDepth request.maxNodes := by
  obtain ⟨queue, visited, collectedEdges, depthReached, truncated⟩ := search
  cases truncated with
  | true => rfl
  | false =>
    cases queue with
    | nil => rfl
    | cons e queue =>
      obtain ⟨currentId, depth⟩ := e
      have hmax : (if depthReached < depth then depth else depthReached) = max depthReached depth := by
        split <;> omega
      simp only [sliceStep, Layers.expand, layers, hmax]
      by_cases hfull : request.maxNodes ≤ (visited.entries.length : ℤ)
      · rw [if_pos hfull, Option.map_some]
        exact (if_pos hfull).symm
      · rw [if_neg hfull, Option.map_some, layers_foldl]
        exact (if_neg hfull).symm

/-- Entering the roots enters each of them once, at depth 0. -/
theorem entries_foldl_roots (roots : List String) {visited : Dict String ℤ} {ids : List String}
    (hids : visited.entries = ids.map fun id => (id, 0)) : ∃ ids' : List String,
      (roots.foldl (fun visited rootId => visited.set rootId 0) visited).entries =
        ids'.map (fun id => (id, 0)) ∧ ∀ id, id ∈ ids' ↔ id ∈ ids ∨ id ∈ roots := by
  induction roots generalizing visited ids with
  | nil => exact ⟨ids, hids, by simp⟩
  | cons root roots ih =>
    rw [List.foldl_cons]
    have hkeys : visited.keys = ids := by
      simp [Dict.keys, hids, Function.comp_def]
    by_cases hold : root ∈ visited
    · have hget : visited.get? root = some 0 := by
        obtain ⟨depth, hdepth⟩ := Dict.mem_iff_get?.mp hold
        have hentry := Dict.get?_eq_some.mp hdepth
        rw [hids] at hentry
        obtain ⟨id, -, heq⟩ := List.mem_map.mp hentry
        obtain ⟨rfl, rfl⟩ := Prod.mk.inj heq
        exact hdepth
      rw [Dict.set_of_get? hget]
      obtain ⟨ids', hentries, hmem⟩ := ih hids
      refine ⟨ids', hentries, fun id => ?_⟩
      rw [Dict.mem_iff_keys, hkeys] at hold
      rw [hmem, List.mem_cons]
      constructor
      · rintro (h | h)
        · exact Or.inl h
        · exact Or.inr (Or.inr h)
      · rintro (h | rfl | h)
        · exact Or.inl h
        · exact Or.inl hold
        · exact Or.inr h
    · have hnew : (visited.set root 0).entries = (ids ++ [root]).map fun id => (id, 0) := by
        rw [Dict.entries_set_new hold, hids, List.map_append]
        rfl
      obtain ⟨ids', hentries, hmem⟩ := ih hnew
      refine ⟨ids', hentries, fun id => ?_⟩
      rw [hmem, List.mem_append, List.mem_singleton, List.mem_cons, or_assoc]

variable (fabric tenantId request)

/-- Rounds in which the loop of a slice ends. -/
def sliceRounds : ℕ := request.rootIds.length + fabric.objects.keys.length + 2

/-- The search of a slice ends, with the layers it has to find. -/
theorem search_answers : ∃ found,
    search (sliceRounds fabric request) fabric tenantId request = some found ∧
      Layers.Answers (sliceNext fabric tenantId request) request.maxDepth request.maxNodes
        (sliceRoots fabric tenantId request) (layers found) := by
  obtain ⟨ids, hentries, hids⟩ := entries_foldl_roots (sliceRoots fabric tenantId request)
    (show (Dict.empty : Dict String ℤ).entries = ([] : List String).map fun id => (id, 0) from rfl)
  have hnodup : ids.Nodup := by
    have hkeys := ((sliceRoots fabric tenantId request).foldl
      (fun visited rootId => visited.set rootId 0) (Dict.empty : Dict String ℤ)).nodup
    rw [hentries] at hkeys
    simpa [Function.comp_def] using hkeys
  have hroots : (sliceRoots fabric tenantId request).length ≤ request.rootIds.length :=
    List.length_filter_le _ _
  have hfuel : (sliceRoots fabric tenantId request).length + fabric.objects.keys.length + 1 <
      sliceRounds fabric request := by
    unfold sliceRounds
    omega
  obtain ⟨final, hloop, hanswers⟩ := Layers.loop_expand sliceNext_stored request.maxDepth
    request.maxNodes hnodup (by simpa using hids) hfuel
  have hview := loop_map (layers_sliceStep fabric tenantId request) (sliceRounds fabric request)
    (sliceStart fabric tenantId request)
  have hstart : layers (sliceStart fabric tenantId request) =
      Layers.start (sliceRoots fabric tenantId request) ids := by
    unfold sliceStart layers Layers.start
    rw [hentries]
  rw [hstart, hloop] at hview
  obtain ⟨found, hfound, rfl⟩ := Option.map_eq_some_iff.mp hview
  exact ⟨found, hfound, hanswers⟩

/-! ### Edges -/

/-- The edges collected when an object is expanded. -/
def edgesAt (currentId : String) : List GraphEdgeData :=
  (fabric.links.values.filter fun link =>
    (follows fabric tenantId request currentId link).isSome).map FabricLink.edge

/-- What has been collected, whether or not the search was cut short. -/
structure Collected (search : GraphSearch) : Prop where
  only : ∀ e ∈ search.collectedEdges, ∃ id ∈ search.visited, e ∈ edgesAt fabric tenantId request id
  gathered : search.truncated = false → Gathered (edgesAt fabric tenantId request)
    (search.queue.map Prod.fst) search.visited.keys search.collectedEdges

variable {fabric tenantId request}

variable (fabric tenantId request) in
/-- Expanding an object collects its edges, and visits objects that are then queued. -/
theorem foldl_collectEdge (currentId : String) (depth : ℤ) (links : List FabricLink)
    (search : GraphSearch) : ∃ new : List String,
      let found := links.foldl (collectEdge fabric tenantId request currentId depth) search
      found.collectedEdges = search.collectedEdges ++ (links.filter fun link =>
        (follows fabric tenantId request currentId link).isSome).map FabricLink.edge ∧
      found.queue.map Prod.fst = search.queue.map Prod.fst ++ new ∧
      (∀ id, id ∈ found.visited ↔ id ∈ search.visited ∨ id ∈ new) ∧
      found.truncated = search.truncated := by
  induction links generalizing search with
  | nil => exact ⟨[], by simp⟩
  | cons link links ih =>
    dsimp only
    rw [List.foldl_cons, List.filter_cons]
    cases hfollows : follows fabric tenantId request currentId link with
    | none =>
      have hskip : collectEdge fabric tenantId request currentId depth search link = search := by
        rw [collectEdge, hfollows]
      rw [hskip]
      exact ih search
    | some id =>
      dsimp only [Option.isSome_some]
      rw [if_pos rfl]
      by_cases hnew : id ∉ search.visited ∧ depth + 1 ≤ request.maxDepth
      · have hstep : collectEdge fabric tenantId request currentId depth search link =
            { search with
              collectedEdges := search.collectedEdges ++ [link.edge]
              visited := search.visited.set id (depth + 1)
              queue := search.queue ++ [(id, depth + 1)] } := by
          rw [collectEdge, hfollows]
          exact if_pos hnew
        rw [hstep]
        obtain ⟨new, hedges, hqueue, hvisited, htruncated⟩ := ih { search with
          collectedEdges := search.collectedEdges ++ [link.edge]
          visited := search.visited.set id (depth + 1)
          queue := search.queue ++ [(id, depth + 1)] }
        refine ⟨id :: new, by simpa using hedges, by simpa using hqueue, fun other => ?_, htruncated⟩
        rw [hvisited, Dict.mem_set, List.mem_cons]
        tauto
      · have hstep : collectEdge fabric tenantId request currentId depth search link =
            { search with collectedEdges := search.collectedEdges ++ [link.edge] } := by
          rw [collectEdge, hfollows]
          exact if_neg hnew
        rw [hstep]
        obtain ⟨new, hedges, hrest⟩ := ih { search with
          collectedEdges := search.collectedEdges ++ [link.edge] }
        exact ⟨new, by simpa using hedges, hrest⟩

theorem Collected.step {search search' : GraphSearch} (h : Collected fabric tenantId request search)
    (hstep : sliceStep fabric tenantId request search = some search') :
    Collected fabric tenantId request search' := by
  obtain ⟨queue, visited, collectedEdges, depthReached, truncated⟩ := search
  cases truncated with
  | true => cases hstep
  | false =>
    cases queue with
    | nil => cases hstep
    | cons e queue =>
      obtain ⟨currentId, depth⟩ := e
      simp only [sliceStep] at hstep
      split at hstep
      next =>
        obtain rfl := Option.some.inj hstep
        exact ⟨h.only, fun hgoes => (by cases hgoes)⟩
      next =>
        obtain rfl := Option.some.inj hstep
        obtain ⟨new, hedges, hqueue, hvisited, -⟩ := foldl_collectEdge fabric tenantId request
          currentId depth fabric.links.values
          ⟨queue, visited, collectedEdges,
            if depthReached < depth then depth else depthReached, false⟩
        have hgathered := (h.gathered rfl).expand hedges hqueue hvisited
        exact ⟨hgathered.only, fun _ => hgathered⟩

variable (fabric tenantId request) in
theorem collected_start : Collected fabric tenantId request (sliceStart fabric tenantId request) := by
  obtain ⟨ids, hentries, hids⟩ := entries_foldl_roots (sliceRoots fabric tenantId request)
    (show (Dict.empty : Dict String ℤ).entries = ([] : List String).map fun id => (id, 0) from rfl)
  have hvisited : ∀ id, id ∈ (sliceStart fabric tenantId request).visited ↔
      id ∈ sliceRoots fabric tenantId request := by
    intro id
    have hkeys : (sliceStart fabric tenantId request).visited.keys = ids := by
      simp [sliceStart, Dict.keys, hentries, Function.comp_def]
    rw [Dict.mem_iff_keys, hkeys, hids]
    simp
  have hqueue : (sliceStart fabric tenantId request).queue.map Prod.fst =
      sliceRoots fabric tenantId request := by
    simp [sliceStart, Function.comp_def]
  refine ⟨fun e he => (by cases he), fun _ => ?_⟩
  rw [hqueue]
  exact Gathered.start hvisited

/-! ### What a slice answers -/

/-- A node shows an object of the tenant, as it is, and how far it is from the next root. -/
def ShowsObject (fabric : ControlFabricService) (tenantId : String) (request : GraphSliceRequest)
    (node : GraphNodeData) : Prop :=
  ∃ (obj : FabricObject) (n : ℕ), fabric.objects.get? node.objectId = some obj ∧
    obj.tenantId = tenantId ∧ node = { obj.node n with objectId := node.objectId } ∧
    RootDistance fabric tenantId request n node.objectId

/-- The slice holds what is within reach, each object once. It is cut short exactly when it has as
many nodes as allowed; it then holds all objects up to the depth reached, and some of the next
layer. -/
structure SliceExact (fabric : ControlFabricService) (tenantId : String) (request : GraphSliceRequest)
    (response : GraphSliceResponse) : Prop where
  nodup : (response.nodes.map GraphNodeData.objectId).Nodup
  shown : ∀ node ∈ response.nodes, ShowsObject fabric tenantId request node
  near : ∀ node ∈ response.nodes, node.depth ≤ request.maxDepth
  truncated_iff : response.truncated = true ↔ request.maxNodes ≤ (response.nodes.length : ℤ)
  complete : response.truncated = false → ∀ id, WithinReach fabric tenantId request id →
    ∃ node ∈ response.nodes, node.objectId = id
  deepest : response.truncated = false → response.nodes ≠ [] →
    IsGreatest {d | ∃ node ∈ response.nodes, node.depth = d} response.depthReached
  empty : response.truncated = false → response.nodes = [] → response.depthReached = 0
  ball : response.truncated = true → ∀ n id, RootDistance fabric tenantId request n id →
    (n : ℤ) ≤ response.depthReached → ∃ node ∈ response.nodes, node.objectId = id
  next_layer : ∀ node ∈ response.nodes, node.depth ≤ response.depthReached + 1
  edges_only : ∀ e ∈ response.edges, ∃ node ∈ response.nodes,
    e ∈ edgesAt fabric tenantId request node.objectId
  edges_all : response.truncated = false → ∀ node ∈ response.nodes,
    ∀ e ∈ edgesAt fabric tenantId request node.objectId, e ∈ response.edges

variable {found : GraphSearch}

variable (request) in
/-- The nodes of an answer are the entries of the search. -/
theorem mem_nodes_respond (sliceId : String) (hstored : ∀ id ∈ found.visited, id ∈ fabric.objects)
    {id : String} {d : ℤ} : (id, d) ∈ found.visited.entries ↔
      ∃ node ∈ (respond fabric request sliceId found).nodes, node.objectId = id ∧ node.depth = d := by
  simp only [respond, List.mem_filterMap, Option.map_eq_some_iff]
  constructor
  · intro hentry
    obtain ⟨obj, hobj⟩ := Dict.mem_iff_get?.mp
      (hstored id (List.mem_map_of_mem (f := Prod.fst) hentry))
    exact ⟨_, ⟨(id, d), hentry, obj, hobj, rfl⟩, rfl, rfl⟩
  · rintro ⟨node, ⟨⟨id', d'⟩, hentry, obj, -, rfl⟩, rfl, rfl⟩
    exact hentry

variable (request) in
theorem objectIds_respond (sliceId : String) (hstored : ∀ id ∈ found.visited, id ∈ fabric.objects) :
    (respond fabric request sliceId found).nodes.map GraphNodeData.objectId = found.visited.keys := by
  have hall : ∀ e ∈ found.visited.entries, e.1 ∈ fabric.objects :=
    fun e he => hstored e.1 (List.mem_map_of_mem (f := Prod.fst) he)
  have hmap : ∀ entries : List (String × ℤ), (∀ e ∈ entries, e.1 ∈ fabric.objects) →
      (entries.filterMap fun e => (fabric.objects.get? e.1).map fun obj =>
        { obj.node e.2 with objectId := e.1 }).map GraphNodeData.objectId = entries.map Prod.fst := by
    intro entries hentries
    induction entries with
    | nil => rfl
    | cons e entries ih =>
      obtain ⟨hfirst, hrest⟩ := List.forall_mem_cons.mp hentries
      obtain ⟨obj, hobj⟩ := Dict.mem_iff_get?.mp hfirst
      simp [hobj, ih hrest]
  exact hmap _ hall

theorem respond_exact (sliceId : String) (hcollected : Collected fabric tenantId request found)
    (hdone : sliceStep fabric tenantId request found = none)
    (hanswers : Layers.Answers (sliceNext fabric tenantId request) request.maxDepth request.maxNodes
      (sliceRoots fabric tenantId request) (layers found)) :
    SliceExact fabric tenantId request (respond fabric request sliceId found) := by
  have howned : ∀ id ∈ found.visited, ∃ obj, fabric.objects.get? id = some obj ∧
      obj.tenantId = tenantId := fun id hid => WithinReach.owned (hanswers.near id hid)
  have hstored : ∀ id ∈ found.visited, id ∈ fabric.objects := fun id hid =>
    (howned id hid).elim fun obj hobj => Dict.mem_of_get? hobj.1
  have hids := objectIds_respond request sliceId hstored
  have hlength : (respond fabric request sliceId found).nodes.length = found.visited.entries.length := by
    have h := congrArg List.length hids
    simpa [Dict.keys] using h
  have hentry : ∀ node ∈ (respond fabric request sliceId found).nodes,
      (node.objectId, node.depth) ∈ found.visited.entries := fun node hnode =>
    (mem_nodes_respond request sliceId hstored).mpr ⟨node, hnode, rfl, rfl⟩
  have hnode : ∀ id ∈ found.visited, ∃ node ∈ (respond fabric request sliceId found).nodes,
      node.objectId = id := by
    intro id hid
    rw [Dict.mem_iff_keys, ← hids] at hid
    exact List.mem_map.mp hid
  constructor
  · rw [hids]
    exact found.visited.nodup
  · intro node hmem
    obtain ⟨n, hn, hdist⟩ := hanswers.dated _ (hentry node hmem)
    obtain ⟨e, -, he⟩ := List.mem_filterMap.mp hmem
    obtain ⟨obj, hobj, rfl⟩ := Option.map_eq_some_iff.mp he
    obtain ⟨other, hother, htenant⟩ := howned e.1 (List.mem_map_of_mem (f := Prod.fst) (hentry _ hmem))
    obtain rfl := Option.some.inj (hobj.symm.trans hother)
    have hdepth : e.2 = n := hn
    exact ⟨obj, n, hobj, htenant, by rw [hdepth], hdist⟩
  · intro node hmem
    obtain ⟨n, hn, hdist⟩ := hanswers.dated _ (hentry node hmem)
    have hreach := hanswers.near _ (List.mem_map_of_mem (f := Prod.fst) (hentry node hmem))
    have hdepth : node.depth = n := hn
    have hone : 1 ≤ (request.maxDepth : ℤ) := request.maxDepth.2.1
    have := hreach.dist_le hdist
    omega
  · rw [hlength]
    exact hanswers.cut_iff (by have := request.maxNodes.2.1; omega)
  · exact fun hcut id hid => hnode id (hanswers.complete hcut id hid)
  · intro hcut hsome
    have hseen : (layers found).seen ≠ [] := by
      intro hnone
      apply hsome
      rw [← List.length_eq_zero_iff, hlength]
      exact List.length_eq_zero_iff.mpr hnone
    obtain ⟨⟨id, hattained⟩, hbound⟩ := hanswers.deepest hcut hseen
    obtain ⟨node, hmem, -, hdepth⟩ :=
      (mem_nodes_respond request sliceId hstored).mp hattained
    refine ⟨⟨node, hmem, hdepth⟩, ?_⟩
    rintro d ⟨node, hmem, rfl⟩
    exact hbound ⟨node.objectId, hentry node hmem⟩
  · intro hcut hnone
    apply hanswers.idle hcut
    apply List.length_eq_zero_iff.mp
    rw [hnone, List.length_nil] at hlength
    exact hlength.symm
  · exact fun hcut n id hdist hn => hnode id (hanswers.ball hcut n hn id hdist.steps)
  · exact fun node hmem => hanswers.next_layer _ (hentry node hmem)
  · intro e he
    obtain ⟨id, hid, hmem⟩ := hcollected.only e he
    obtain ⟨node, hnode, rfl⟩ := hnode id hid
    exact ⟨node, hnode, hmem⟩
  · intro hcut node hmem e he
    have hempty : found.queue = [] := by
      cases hqueue : found.queue with
      | nil => rfl
      | cons first queue =>
        have hgoes : found.truncated = false := hcut
        simp only [sliceStep, hgoes, hqueue] at hdone
        split at hdone <;> cases hdone
    have hgathered := hcollected.gathered hcut
    rw [hempty] at hgathered
    exact hgathered.mem_iff.mpr ⟨node.objectId, List.mem_map_of_mem (f := Prod.fst) (hentry node hmem), he⟩

variable (fabric tenantId request)

/-- On every fabric, for every tenant and every request, `slice_graph` ends and gives the slice it
has to give, whatever it stores beside it. -/
theorem sliceGraph_exact (rt : Runtime) (s : ControlGraphService) (n : ℕ) : ∃ response s',
    sliceGraph rt (sliceRounds s.fabric request) s tenantId request n = some (response, s') ∧
      SliceExact s.fabric tenantId request response ∧ s'.fabric = s.fabric := by
  obtain ⟨found, hfound, hanswers⟩ := search_answers s.fabric tenantId request
  obtain ⟨hcollected, hdone⟩ := loop_invariant (fun _ _ h hstep => Collected.step h hstep)
    (collected_start s.fabric tenantId request) hfound
  simp only [sliceGraph, hfound, Option.map_some]
  exact ⟨_, _, rfl, respond_exact _ hcollected hdone hanswers, rfl⟩

end ControlGraphService
end ControlFabric.Services
