import ControlFabric.Services.GraphSlices

/-! The slices of the fabric service itself. They have no budget and take any stored root, so an
object of another tenant shows up where it was asked for as a root; on requests that say the same,
both services cut the same slice. -/
namespace ControlFabric.Services
open Lib

namespace ControlFabricService
variable (s : ControlFabricService) (tenantId : String) (request : FabricSliceRequest)

/-- The object a slice may go on to over the link. -/
def sliceFollows (currentId : String) (link : FabricLink) : Option String :=
  (link.neighborId currentId).filter fun id => admits request.linkTypes link.linkType ∧
    (s.objects.get? id).any fun obj => sliceAdmits tenantId request obj

def sliceNext (currentId : String) : List String :=
  s.links.values.filterMap (s.sliceFollows tenantId request currentId)

def sliceRoots : List String := request.rootIds.filter fun rootId => rootId ∈ s.objects

/-- The links collected when an object is expanded. -/
def linksAt (currentId : String) : List FabricLink :=
  s.links.values.filter fun link => (s.sliceFollows tenantId request currentId link).isSome

def WithinReach (id : String) : Prop :=
  WithinFrom (Frontier.Edge (s.sliceNext tenantId request)) (s.sliceRoots request) request.maxDepth id

/-- What a slice of the fabric service holds. -/
structure SliceExact (response : FabricSliceResponse) (ids : List String) : Prop where
  objects : response.objects = ids.filterMap s.objects.get?
  nodup : ids.Nodup
  reach : ∀ id, id ∈ ids ↔ s.WithinReach tenantId request id
  admitted : ∀ id ∈ ids, id ∈ request.rootIds ∨
    ∃ obj, s.objects.get? id = some obj ∧ sliceAdmits tenantId request obj
  links : ∀ link, link ∈ response.links ↔ ∃ id ∈ ids, link ∈ s.linksAt tenantId request id
  totals : response.totalObjects = response.objects.length ∧
    response.totalLinks = response.links.length
  deepest : ids ≠ [] → IsGreatest
    {d : ℤ | ∃ id ∈ ids, ∃ n : ℕ, DistFrom (Frontier.Edge (s.sliceNext tenantId request))
      (s.sliceRoots request) n id ∧ d = n} response.depthReached
  empty : ids = [] → response.depthReached = 0

variable {s tenantId request}

theorem sliceFollows_eq_some {currentId id : String} {link : FabricLink} :
    s.sliceFollows tenantId request currentId link = some id ↔
      link.neighborId currentId = some id ∧ admits request.linkTypes link.linkType ∧
        ∃ obj, s.objects.get? id = some obj ∧ sliceAdmits tenantId request obj := by
  simp [sliceFollows, Option.filter_eq_some_iff, Option.any_eq_true]

theorem sliceNext_stored (currentId : String) :
    ∀ id ∈ s.sliceNext tenantId request currentId, id ∈ s.objects.keys := by
  intro id hid
  obtain ⟨link, -, hfollows⟩ := List.mem_filterMap.mp hid
  obtain ⟨-, -, obj, hobj, -⟩ := sliceFollows_eq_some.mp hfollows
  exact Dict.mem_iff_keys.mp (Dict.mem_of_get? hobj)

theorem WithinReach.stored {id : String} (h : s.WithinReach tenantId request id) :
    id ∈ s.objects := by
  obtain ⟨n, -, root, hroot, hsteps⟩ := h
  cases hsteps with
  | zero => simpa using (List.mem_filter.mp hroot).2
  | succ _ hnext => exact sliceNext_stored _ _ hnext

/-- What is no root is admitted, so it belongs to the tenant. -/
theorem WithinReach.admitted {id : String} (h : s.WithinReach tenantId request id) :
    id ∈ request.rootIds ∨ ∃ obj, s.objects.get? id = some obj ∧ sliceAdmits tenantId request obj := by
  obtain ⟨n, -, root, hroot, hsteps⟩ := h
  cases hsteps with
  | zero => exact Or.inl (List.mem_of_mem_filter hroot)
  | succ _ hnext =>
    obtain ⟨link, -, hfollows⟩ := List.mem_filterMap.mp hnext
    exact Or.inr (sliceFollows_eq_some.mp hfollows).2.2

theorem collectLink_eq (currentId : String) (depth : ℤ) (search : SliceSearch) (link : FabricLink) :
    s.collectLink tenantId request currentId depth search link =
      match s.sliceFollows tenantId request currentId link with
      | none => search
      | some id =>
        let search := { search with collectedLinks := search.collectedLinks ++ [link] }
        if id ∉ search.visitedIds ∧ depth + 1 ≤ request.maxDepth then
          { search with
            visitedIds := search.visitedIds ++ [id]
            queue := search.queue ++ [(id, depth + 1)] }
        else search := by
  unfold collectLink sliceFollows
  cases link.neighborId currentId with
  | none => rfl
  | some id =>
    by_cases htype : admits request.linkTypes link.linkType
    · cases hobj : s.objects.get? id with
      | none => simp [htype, hobj, Option.filter]
      | some obj =>
        by_cases hadmits : sliceAdmits tenantId request obj
        · simp [htype, hadmits, hobj, Option.filter]
        · simp [htype, hadmits, hobj, Option.filter]
    · simp [htype, Option.filter]

/-! ### The search beside a search for layers -/

/-- A search for layers goes along with the search of a slice. -/
structure Along (search : SliceSearch) (l : Layers String) : Prop where
  queue : l.queue = search.queue
  ids : l.ids = search.visitedIds
  reached : l.reached = search.depthReached

variable (s tenantId request) in
/-- Expanding an object: the search for layers goes along, and its links are collected. -/
theorem Along.foldl (currentId : String) (depth : ℤ) (links : List FabricLink) {search : SliceSearch}
    {l : Layers String} (h : Along search l) :
    let found := links.foldl (s.collectLink tenantId request currentId depth) search
    Along found ((links.filterMap (s.sliceFollows tenantId request currentId)).foldl
      (Layers.visit request.maxDepth depth) l) ∧
    found.collectedLinks = search.collectedLinks ++ links.filter fun link =>
      (s.sliceFollows tenantId request currentId link).isSome := by
  induction links generalizing search l with
  | nil => exact ⟨h, (List.append_nil _).symm⟩
  | cons link links ih =>
    dsimp only
    rw [List.foldl_cons, collectLink_eq, List.filter_cons]
    cases hfollows : s.sliceFollows tenantId request currentId link with
    | none =>
      rw [List.filterMap_cons_none hfollows]
      exact ih h
    | some id =>
      rw [List.filterMap_cons_some hfollows, List.foldl_cons]
      dsimp only [Option.isSome_some]
      rw [if_pos rfl]
      have hvisit : Along (if id ∉ search.visitedIds ∧ depth + 1 ≤ request.maxDepth then
          { search with
            collectedLinks := search.collectedLinks ++ [link]
            visitedIds := search.visitedIds ++ [id]
            queue := search.queue ++ [(id, depth + 1)] }
          else { search with collectedLinks := search.collectedLinks ++ [link] })
          (Layers.visit request.maxDepth depth l id) := by
        unfold Layers.visit
        rw [h.ids]
        split
        · exact ⟨by simp [h.queue], by simp [Layers.ids, ← h.ids], h.reached⟩
        · exact ⟨h.queue, h.ids, h.reached⟩
      obtain ⟨halong, hlinks⟩ := ih hvisit
      refine ⟨halong, hlinks.trans ?_⟩
      split <;> simp

/-- More nodes than there are. -/
abbrev enough (s : ControlFabricService) : ℤ := s.objects.keys.length + 1

/-- The invariant of the loop of `build_slice`. -/
structure Slicing (s : ControlFabricService) (tenantId : String) (request : FabricSliceRequest)
    (search : SliceSearch) : Prop where
  along : ∃ l, Along search l ∧ Layers.Running (s.sliceNext tenantId request) request.maxDepth s.enough
    (s.sliceRoots request) l
  gathered : Gathered (s.linksAt tenantId request) (search.queue.map Prod.fst) search.visitedIds
    search.collectedLinks

theorem slicing_start : Slicing s tenantId request (s.sliceStart request.rootIds) where
  along := by
    refine ⟨Layers.start (s.sliceRoots request) (s.sliceRoots request).dedup, ⟨rfl, ?_, rfl⟩,
      Layers.start_running _ _ _ (List.nodup_dedup _) fun v => List.mem_dedup⟩
    simp [Layers.start, Layers.ids, sliceStart, sliceRoots, Function.comp_def]
  gathered := by
    have hqueue : (s.sliceStart request.rootIds).queue.map Prod.fst = s.sliceRoots request := by
      simp [sliceStart, sliceRoots, Function.comp_def]
    rw [hqueue]
    exact Gathered.start fun v => List.mem_dedup

/-- A search for layers that has seen stored nodes only is not cut short. -/
theorem room_of_running {l : Layers String} (h : Layers.Running (s.sliceNext tenantId request)
    request.maxDepth s.enough (s.sliceRoots request) l) : ¬ s.enough ≤ (l.seen.length : ℤ) := by
  have hsub : l.ids ⊆ s.objects.keys := fun id hid => Dict.mem_iff_keys.mp
    (WithinReach.stored (h.searching.sound.near id hid))
  have hle : l.ids.length ≤ s.objects.keys.length :=
    (List.subperm_of_subset h.searching.sound.nodup hsub).length_le
  rw [Layers.ids, List.length_map] at hle
  unfold enough
  omega

theorem Slicing.step {search search' : SliceSearch} (h : Slicing s tenantId request search)
    (hstep : s.sliceStep tenantId request search = some search') :
    Slicing s tenantId request search' ∧
      Frontier.work s.objects.keys ⟨search'.queue, search'.visitedIds⟩ <
        Frontier.work s.objects.keys ⟨search.queue, search.visitedIds⟩ := by
  obtain ⟨l, halong, hrunning⟩ := h.along
  obtain ⟨queue, visitedIds, collectedLinks, depthReached⟩ := search
  cases queue with
  | nil => cases hstep
  | cons e queue =>
    obtain ⟨currentId, depth⟩ := e
    have hroom := room_of_running hrunning
    obtain ⟨lqueue, lseen, lreached, ltruncated⟩ := l
    obtain ⟨hqueue, hids, hreached⟩ := halong
    dsimp only at hqueue hreached
    subst hqueue hreached
    obtain rfl : ltruncated = false := hrunning.goesOn
    have hmax : (if lreached < depth then depth else lreached) = max lreached depth := by
      split <;> omega
    simp only [sliceStep, hmax] at hstep
    obtain rfl := Option.some.inj hstep
    have hbefore : Along ⟨queue, visitedIds, collectedLinks, max lreached depth⟩
        ⟨queue, lseen, max lreached depth, false⟩ := ⟨rfl, hids, rfl⟩
    obtain ⟨halong, hlinks⟩ := hbefore.foldl s tenantId request currentId depth s.links.values
    have hexpand : Layers.expand (s.sliceNext tenantId request) request.maxDepth s.enough
        ⟨(currentId, depth) :: queue, lseen, lreached, false⟩ =
        some ((s.sliceNext tenantId request currentId).foldl (Layers.visit request.maxDepth depth)
          ⟨queue, lseen, max lreached depth, false⟩) := if_neg hroom
    obtain ⟨new, hfold, hnew⟩ := Layers.foldl_visit (D := request.maxDepth) depth
      (s.sliceNext tenantId request currentId) ⟨queue, lseen, max lreached depth, false⟩
    have hwork := Layers.expand_work sliceNext_stored hexpand
    rw [sliceNext] at hexpand hfold hwork
    generalize hnext : (s.links.values.filterMap (s.sliceFollows tenantId request currentId)).foldl
      (Layers.visit request.maxDepth depth) ⟨queue, lseen, max lreached depth, false⟩ = l'
      at halong hexpand hfold hwork
    generalize hfound : s.links.values.foldl (s.collectLink tenantId request currentId depth)
      ⟨queue, visitedIds, collectedLinks, max lreached depth⟩ = found at halong hlinks
    have hgoes : l'.truncated = false := by rw [hfold]
    have hrunning' : Layers.Running (s.sliceNext tenantId request) request.maxDepth s.enough
        (s.sliceRoots request) l' := by
      rcases hrunning.expand hexpand with hgoesOn | hcut
      · exact hgoesOn
      · rw [hcut.stopped] at hgoes
        cases hgoes
    refine ⟨⟨⟨l', halong, hrunning'⟩, ?_⟩, ?_⟩
    · have hqueued : found.queue.map Prod.fst = queue.map Prod.fst ++ new := by
        rw [← halong.queue, hfold]
        simp [Function.comp_def]
      refine h.gathered.expand hlinks hqueued fun id => ?_
      rw [← halong.ids, hfold, ← hids]
      simp [Layers.ids, Function.comp_def]
    · simp only [Layers.work, hgoes, Bool.false_eq_true, if_false, Layers.frontier, hids,
        halong.queue, halong.ids] at hwork
      exact Nat.lt_of_succ_lt_succ hwork

variable (s tenantId request)

/-- Rounds in which the loop of a slice ends. -/
def sliceRounds : ℕ := request.rootIds.length + s.objects.keys.length + 1

/-- On every fabric, for every tenant and request, `build_slice` ends and gives exactly what is
within reach of the stored roots. -/
theorem buildSlice_exact : ∃ response ids,
    buildSlice (s.sliceRounds request) s tenantId request = some response ∧
      s.SliceExact tenantId request response ids := by
  have hwork : Frontier.work s.objects.keys ⟨(s.sliceStart request.rootIds).queue,
      (s.sliceStart request.rootIds).visitedIds⟩ < s.sliceRounds request := by
    have hroots : (s.sliceRoots request).length ≤ request.rootIds.length := List.length_filter_le _ _
    have hunvisited := unvisited_le s.objects.keys (s.sliceStart request.rootIds).visitedIds
    have hqueue : (s.sliceStart request.rootIds).queue.length = (s.sliceRoots request).length := by
      simp [sliceStart, sliceRoots]
    unfold Frontier.work sliceRounds
    dsimp only
    omega
  obtain ⟨found, hloop, hslicing, hdone⟩ := loop_terminates
    (I := Slicing s tenantId request)
    (fun search => Frontier.work s.objects.keys ⟨search.queue, search.visitedIds⟩)
    (fun _ _ h hstep => h.step hstep) slicing_start hwork
  have hempty : found.queue = [] := by
    cases hqueue : found.queue with
    | nil => rfl
    | cons e queue => simp [sliceStep, hqueue] at hdone
  obtain ⟨l, halong, hrunning⟩ := hslicing.along
  have hanswers := hrunning.answers (by
    simp [Layers.expand, halong.queue, hempty, hrunning.goesOn])
  simp only [buildSlice, hloop, Option.map_some]
  refine ⟨_, found.visitedIds, rfl, rfl, ?_, fun id => ?_, fun id hid => ?_, fun link => ?_, ⟨rfl, rfl⟩,
    fun hsome => ?_, fun hnone => ?_⟩
  · rw [← halong.ids]
    exact hanswers.nodup
  · rw [← halong.ids]
    exact ⟨hanswers.near id, hanswers.complete hrunning.goesOn id⟩
  · rw [← halong.ids] at hid
    exact WithinReach.admitted (hanswers.near id hid)
  · have hgathered := hslicing.gathered
    rw [hempty] at hgathered
    exact hgathered.mem_iff
  · have hseen : l.seen ≠ [] := by
      rw [← halong.ids] at hsome
      exact fun hnone => hsome (by rw [Layers.ids, hnone, List.map_nil])
    obtain ⟨⟨id, hattained⟩, hbound⟩ := hanswers.deepest hrunning.goesOn hseen
    rw [← halong.ids, ← halong.reached]
    refine ⟨?_, ?_⟩
    · obtain ⟨n, hn, hdist⟩ := hanswers.dated _ hattained
      exact ⟨id, List.mem_map_of_mem (f := Prod.fst) hattained, n, hdist, hn⟩
    · rintro d ⟨id, hid, n, hdist, rfl⟩
      obtain ⟨⟨_, m⟩, hseen, rfl⟩ := List.mem_map.mp hid
      obtain ⟨k, hk, hdist'⟩ := hanswers.dated _ hseen
      have hsame : n = k := le_antisymm (hdist.least k hdist'.steps) (hdist'.least n hdist.steps)
      have hm : m = k := hk
      exact hbound ⟨_, by rw [hsame, ← hm]; exact hseen⟩
  · rw [← halong.ids, Layers.ids, List.map_eq_nil_iff] at hnone
    rw [← halong.reached]
    exact hanswers.idle hrunning.goesOn hnone

end ControlFabricService

/-! ### Both services -/

/-- The two requests say the same: the fabric's one restricts no domain and keeps retired objects,
the graph's one excludes no link by its weight, and the roots belong to the tenant. -/
structure SameRequest (s : ControlFabricService) (tenantId : String) (g : GraphSliceRequest)
    (f : FabricSliceRequest) : Prop where
  roots : g.rootIds = f.rootIds
  depth : g.maxDepth = f.maxDepth
  planes : g.allowedPlanes = f.planes
  linkTypes : g.allowedLinkTypes = f.linkTypes
  domains : f.domains = []
  retired : f.includeRetired = true
  weights : ∀ link ∈ s.links.values, g.minWeight ≤ link.weight
  owned : ∀ rootId ∈ f.rootIds, ∀ obj, s.objects.get? rootId = some obj → obj.tenantId = tenantId

namespace SameRequest
variable {s : ControlFabricService} {tenantId : String} {g : GraphSliceRequest} {f : FabricSliceRequest}

theorem follows_eq (h : SameRequest s tenantId g f) (currentId : String) {link : FabricLink}
    (hlink : link ∈ s.links.values) : ControlGraphService.follows s tenantId g currentId link =
      s.sliceFollows tenantId f currentId link := by
  ext id
  rw [ControlGraphService.follows_eq_some, ControlFabricService.sliceFollows_eq_some, h.linkTypes,
    h.planes]
  have hweight := h.weights link hlink
  simp [hweight, ControlFabricService.sliceAdmits, h.domains, h.retired, admits]

theorem sliceNext_eq (h : SameRequest s tenantId g f) :
    ControlGraphService.sliceNext s tenantId g = s.sliceNext tenantId f := by
  funext currentId
  exact List.filterMap_congr fun link hlink => h.follows_eq currentId hlink

theorem sliceRoots_eq (h : SameRequest s tenantId g f) :
    ControlGraphService.sliceRoots s tenantId g = s.sliceRoots f := by
  unfold ControlGraphService.sliceRoots ControlFabricService.sliceRoots
  rw [h.roots]
  refine List.filter_congr fun rootId hroot => ?_
  cases hobj : s.objects.get? rootId with
  | none =>
    have hunknown : rootId ∉ s.objects := Dict.get?_eq_none.mp hobj
    simp [hunknown]
  | some obj => simp [h.owned rootId hroot obj hobj, Dict.mem_of_get? hobj]

theorem edgesAt_eq (h : SameRequest s tenantId g f) (currentId : String) :
    ControlGraphService.edgesAt s tenantId g currentId =
      (s.linksAt tenantId f currentId).map FabricLink.edge := by
  unfold ControlGraphService.edgesAt ControlFabricService.linksAt
  refine congrArg _ (List.filter_congr fun link hlink => ?_)
  rw [h.follows_eq currentId hlink]

end SameRequest

/-- The graph's slice shows the objects of the fabric's slice, each once, at the same depth and with
the same links. -/
structure SameSlice (s : ControlFabricService) (graphSlice : GraphSliceResponse)
    (fabricSlice : FabricSliceResponse) : Prop where
  objects : ∃ ids : List String, ids.Perm (graphSlice.nodes.map GraphNodeData.objectId) ∧
    fabricSlice.objects = ids.filterMap s.objects.get?
  depth : graphSlice.depthReached = fabricSlice.depthReached
  edges : ∀ e, e ∈ graphSlice.edges ↔ ∃ link ∈ fabricSlice.links, link.edge = e

section Exact
variable {s : ControlFabricService} {tenantId : String} {g : GraphSliceRequest} {f : FabricSliceRequest}
  {graphSlice : GraphSliceResponse} {fabricSlice : FabricSliceResponse} {ids : List String}

theorem SameRequest.withinReach_iff (h : SameRequest s tenantId g f) (id : String) :
    ControlGraphService.WithinReach s tenantId g id ↔ s.WithinReach tenantId f id := by
  rw [ControlGraphService.WithinReach, ControlFabricService.WithinReach, h.sliceNext_eq,
    h.sliceRoots_eq, h.depth]

theorem SameRequest.rootDistance_iff (h : SameRequest s tenantId g f) (n : ℕ) (id : String) :
    ControlGraphService.RootDistance s tenantId g n id ↔
      DistFrom (Frontier.Edge (s.sliceNext tenantId f)) (s.sliceRoots f) n id := by
  rw [ControlGraphService.RootDistance, h.sliceNext_eq, h.sliceRoots_eq]

/-- The fabric's slice holds the objects that the nodes of the graph's slice show. -/
theorem SameRequest.mem_ids_iff (h : SameRequest s tenantId g f)
    (hgraph : ControlGraphService.SliceExact s tenantId g graphSlice)
    (hfabric : s.SliceExact tenantId f fabricSlice ids) (hfull : graphSlice.truncated = false)
    (id : String) : id ∈ ids ↔ ∃ node ∈ graphSlice.nodes, node.objectId = id := by
  rw [hfabric.reach, ← h.withinReach_iff]
  refine ⟨hgraph.complete hfull id, ?_⟩
  rintro ⟨node, hnode, rfl⟩
  obtain ⟨obj, n, -, -, hshown, hdistance⟩ := hgraph.shown node hnode
  have hdepth : node.depth = n := by rw [hshown]; rfl
  have hnear := hgraph.near node hnode
  exact ⟨n, Or.inr (by omega), hdistance.steps⟩

/-- The depths of the nodes are the distances of the objects from the roots. -/
theorem SameRequest.depths_eq (h : SameRequest s tenantId g f)
    (hgraph : ControlGraphService.SliceExact s tenantId g graphSlice)
    (hmem : ∀ id, id ∈ ids ↔ ∃ node ∈ graphSlice.nodes, node.objectId = id) :
    {d | ∃ node ∈ graphSlice.nodes, node.depth = d} = {d : ℤ | ∃ id ∈ ids, ∃ n : ℕ,
      DistFrom (Frontier.Edge (s.sliceNext tenantId f)) (s.sliceRoots f) n id ∧ d = n} := by
  ext d
  constructor
  · rintro ⟨node, hnode, rfl⟩
    obtain ⟨obj, n, -, -, hshown, hdistance⟩ := hgraph.shown node hnode
    exact ⟨node.objectId, (hmem _).mpr ⟨node, hnode, rfl⟩, n,
      (h.rootDistance_iff _ _).mp hdistance, by rw [hshown]; rfl⟩
  · rintro ⟨id, hid, n, hdistance, rfl⟩
    obtain ⟨node, hnode, rfl⟩ := (hmem id).mp hid
    obtain ⟨obj, m, -, -, hshown, hdistance'⟩ := hgraph.shown node hnode
    have hdist := (h.rootDistance_iff _ _).mp hdistance'
    have hn : n = m := le_antisymm (hdistance.least m hdist.steps) (hdist.least n hdistance.steps)
    exact ⟨node, hnode, by rw [hshown, hn]; rfl⟩

theorem SameRequest.depthReached_eq (h : SameRequest s tenantId g f)
    (hgraph : ControlGraphService.SliceExact s tenantId g graphSlice)
    (hfabric : s.SliceExact tenantId f fabricSlice ids) (hfull : graphSlice.truncated = false) :
    graphSlice.depthReached = fabricSlice.depthReached := by
  have hmem := h.mem_ids_iff hgraph hfabric hfull
  by_cases hsome : graphSlice.nodes = []
  · have hids : ids = [] := List.eq_nil_iff_forall_not_mem.mpr fun id hid => by
      obtain ⟨node, hnode, -⟩ := (hmem id).mp hid
      rw [hsome] at hnode
      cases hnode
    rw [hgraph.empty hfull hsome, hfabric.empty hids]
  · have hids : ids ≠ [] := by
      obtain ⟨node, hnode⟩ := List.exists_mem_of_ne_nil _ hsome
      exact List.ne_nil_of_mem ((hmem node.objectId).mpr ⟨node, hnode, rfl⟩)
    have hgreatest := hgraph.deepest hfull hsome
    rw [h.depths_eq hgraph hmem] at hgreatest
    exact hgreatest.unique (hfabric.deepest hids)

theorem sameSlice_of_exact (h : SameRequest s tenantId g f)
    (hgraph : ControlGraphService.SliceExact s tenantId g graphSlice)
    (hfabric : s.SliceExact tenantId f fabricSlice ids) (hfull : graphSlice.truncated = false) :
    SameSlice s graphSlice fabricSlice := by
  have hmem := h.mem_ids_iff hgraph hfabric hfull
  refine ⟨⟨ids, ?_, hfabric.objects⟩, h.depthReached_eq hgraph hfabric hfull, fun e => ?_⟩
  · refine (List.perm_ext_iff_of_nodup hfabric.nodup hgraph.nodup).mpr fun id => ?_
    rw [hmem, List.mem_map]
  · constructor
    · intro he
      obtain ⟨node, hnode, hat⟩ := hgraph.edges_only e he
      rw [h.edgesAt_eq] at hat
      obtain ⟨link, hlink, rfl⟩ := List.mem_map.mp hat
      exact ⟨link, (hfabric.links link).mpr ⟨node.objectId, (hmem _).mpr ⟨node, hnode, rfl⟩, hlink⟩, rfl⟩
    · rintro ⟨link, hlink, rfl⟩
      obtain ⟨id, hid, hat⟩ := (hfabric.links link).mp hlink
      obtain ⟨node, hnode, rfl⟩ := (hmem id).mp hid
      refine hgraph.edges_all hfull node hnode _ ?_
      rw [h.edgesAt_eq]
      exact List.mem_map_of_mem hat

end Exact

/-- On requests that say the same, the two services cut the same slice from any fabric, unless the
graph's slice is cut short by its budget. -/
theorem slices_agree (rt : Runtime) (s : ControlGraphService) (tenantId : String)
    (g : GraphSliceRequest) (f : FabricSliceRequest) (n : ℕ) (h : SameRequest s.fabric tenantId g f) :
    ∃ graphSlice s' fabricSlice,
      s.sliceGraph rt (ControlGraphService.sliceRounds s.fabric g) tenantId g n =
        some (graphSlice, s') ∧
      s.fabric.buildSlice (s.fabric.sliceRounds f) tenantId f = some fabricSlice ∧
      (graphSlice.truncated = false → SameSlice s.fabric graphSlice fabricSlice) := by
  obtain ⟨graphSlice, s', hgraph, hexact, -⟩ :=
    ControlGraphService.sliceGraph_exact tenantId g rt s n
  obtain ⟨fabricSlice, ids, hfabric, hexact'⟩ := s.fabric.buildSlice_exact tenantId f
  exact ⟨graphSlice, s', fabricSlice, hgraph, hfabric, sameSlice_of_exact h hexact hexact'⟩

/-- A contract clause and the work order it authorizes. -/
def clauseAndOrder : ControlGraphService :=
  let rt := Runtime.reference
  { ControlGraphService.new with
    fabric := ControlFabricService.new
      |>.registerObject rt "acme" ⟨"clause", .commercial, "telco", "SLA", none, [], none, none, none,
        ⟨1, Share.one_mem⟩, [], []⟩ 0
      |>.registerObject rt "acme" ⟨"order", .field, "telco", "WO-1", none, [], none, none, none,
        ⟨1, Share.one_mem⟩, [], []⟩ 2
      |>.linkObjects rt "acme" ⟨rt.uuid4 0, rt.uuid4 2, .authorizes, ⟨1, Share.one_mem⟩, [], []⟩ 4 }

theorem slices_agree_clauseAndOrder :
    let g : GraphSliceRequest := { rootIds := [Runtime.reference.uuid4 0] }
    let f : FabricSliceRequest := { rootIds := [Runtime.reference.uuid4 0], includeRetired := true }
    ∃ graphSlice s' fabricSlice,
      clauseAndOrder.sliceGraph .reference
        (ControlGraphService.sliceRounds clauseAndOrder.fabric g) "acme" g 6 = some (graphSlice, s') ∧
      clauseAndOrder.fabric.buildSlice (clauseAndOrder.fabric.sliceRounds f) "acme" f =
        some fabricSlice ∧
      (graphSlice.truncated = false → SameSlice clauseAndOrder.fabric graphSlice fabricSlice) := by
  intro g f
  refine slices_agree .reference clauseAndOrder "acme" g f 6
    ⟨rfl, rfl, rfl, rfl, rfl, rfl, by decide +kernel, ?_⟩
  intro rootId hroot obj hobj
  obtain rfl := List.mem_singleton.mp hroot
  have hclause : (clauseAndOrder.fabric.objects.get? (Runtime.reference.uuid4 0)).map
      FabricObject.tenantId = some "acme" := by decide +kernel
  rw [hobj] at hclause
  exact Option.some.inj hclause

end ControlFabric.Services
