import ControlFabric.Fabric.Paths
import ControlFabric.Fabric.Repository
import ControlFabric.Lib.Reorder
import ControlFabric.Lib.Run

/-! The links of a slice. They are collected once for each end from which the other one may be
entered, whether or not the search goes on there, so only some slices have exactly the links between
their objects. -/
namespace ControlFabric.Fabric
open Lib

/-- What is stored in a repository, one call after the other. A stored object that is changed in
place is stored again. -/
inductive RepositoryOp where
  | storeObject (obj : ControlObject)
  | storeLink (link : ControlLink)

def RepositoryOp.apply : RepositoryOp → InMemoryGraphRepository → InMemoryGraphRepository
  | storeObject obj => InMemoryGraphRepository.storeObject obj
  | storeLink link => InMemoryGraphRepository.storeLink link

/-- The repository that the calls fill. -/
def repositoryOf (ops : List RepositoryOp) : InMemoryGraphRepository :=
  run RepositoryOp.apply .empty ops

namespace InMemoryGraphRepository

/-- Objects and links are stored under their own identifiers. -/
structure Filed (repo : InMemoryGraphRepository) : Prop where
  object : ∀ id obj, repo.objects.get? id = some obj → obj.id = id
  link : ∀ id link, repo.links.get? id = some link → link.id = id

theorem Filed.apply {repo : InMemoryGraphRepository} (h : repo.Filed) (op : RepositoryOp) :
    (op.apply repo).Filed := by
  cases op with
  | storeObject obj =>
    refine ⟨fun id obj' hget => ?_, h.link⟩
    rw [RepositoryOp.apply, storeObject, Dict.get?_set] at hget
    split at hget
    next heq =>
      obtain rfl := Option.some.inj hget
      exact heq.symm
    next => exact h.object id obj' hget
  | storeLink link =>
    refine ⟨h.object, fun id link' hget => ?_⟩
    rw [RepositoryOp.apply, storeLink, Dict.get?_set] at hget
    split at hget
    next heq =>
      obtain rfl := Option.some.inj hget
      exact heq.symm
    next => exact h.link id link' hget

theorem filed_repositoryOf (ops : List RepositoryOp) : (repositoryOf ops).Filed := by
  refine run_invariant RepositoryOp.apply (fun op _ _ h => h.apply op) ⟨?_, ?_⟩
  · intro id obj hget
    cases hget
  · intro id link hget
    cases hget

variable (repo : InMemoryGraphRepository) (maxDepth : ℤ) (allowedPlanes : Option (List PlaneType))
  (allowedLinkTypes : Option (List ControlLinkType))

/-- The object is stored and lies in an allowed plane. -/
def enterable (id : String) : Bool :=
  (repo.objects.get? id).any fun obj => allows allowedPlanes obj.plane

/-- The links collected when an object is expanded. -/
def collectedAt (currentId : String) : List ControlLink :=
  repo.links.values.filter fun link =>
    (repo.sliceNeighbor allowedPlanes allowedLinkTypes currentId link).isSome

variable {repo maxDepth allowedPlanes allowedLinkTypes}

theorem isSome_sliceNeighbor {currentId : String} {link : ControlLink} :
    (repo.sliceNeighbor allowedPlanes allowedLinkTypes currentId link).isSome ↔
      allows allowedLinkTypes link.linkType ∧
        (currentId = link.sourceId ∧ repo.enterable allowedPlanes link.targetId ∨
          currentId = link.targetId ∧ repo.enterable allowedPlanes link.sourceId) := by
  rw [Option.isSome_iff_exists]
  simp only [sliceNeighbor, Option.filter_eq_some_iff, ControlLink.neighbor_eq_some,
    Bool.decide_and, Bool.and_eq_true, decide_eq_true_eq, enterable]
  constructor
  · rintro ⟨v, ⟨rfl, rfl⟩ | ⟨rfl, rfl⟩, htype, henter⟩
    · exact ⟨htype, Or.inl ⟨rfl, henter⟩⟩
    · exact ⟨htype, Or.inr ⟨rfl, henter⟩⟩
  · rintro ⟨htype, ⟨rfl, henter⟩ | ⟨rfl, henter⟩⟩
    · exact ⟨_, Or.inl ⟨rfl, rfl⟩, htype, henter⟩
    · exact ⟨_, Or.inr ⟨rfl, rfl⟩, htype, henter⟩

/-- Expanding an object collects the links at it from which the other end may be entered, and
visits objects that are new. -/
theorem foldl_collectLink (repo : InMemoryGraphRepository) (maxDepth : ℤ)
    (allowedPlanes : Option (List PlaneType)) (allowedLinkTypes : Option (List ControlLinkType))
    (currentId : String) (depth : ℤ) (links : List ControlLink) (s : SliceSearch) : ∃ new : List String,
      let s' := links.foldl
        (repo.collectLink maxDepth allowedPlanes allowedLinkTypes currentId depth) s
      s'.collectedLinks = s.collectedLinks ++ links.filter (fun link =>
        (repo.sliceNeighbor allowedPlanes allowedLinkTypes currentId link).isSome) ∧
      s'.visited = s.visited ++ new ∧ s'.queue = s.queue ++ new.map (fun id => (id, depth + 1)) ∧
      ∀ id ∈ new, id ∉ s.visited := by
  induction links generalizing s with
  | nil => exact ⟨[], by simp⟩
  | cons link links ih =>
    dsimp only
    rw [List.foldl_cons, collectLink_eq, List.filter_cons]
    cases hneighbor : repo.sliceNeighbor allowedPlanes allowedLinkTypes currentId link with
    | none => exact ih s
    | some id =>
      dsimp only [Option.isSome_some]
      rw [if_pos rfl]
      by_cases hvisit : id ∉ s.visited ∧ depth + 1 ≤ maxDepth
      · rw [if_pos hvisit]
        obtain ⟨new, hcollected, hvisited, hqueue, hnew⟩ :=
          ih ⟨s.queue ++ [(id, depth + 1)], s.visited ++ [id], s.collectedLinks ++ [link]⟩
        refine ⟨id :: new, by simpa using hcollected, by simpa using hvisited, by simpa using hqueue,
          fun other hother => ?_⟩
        rcases List.mem_cons.mp hother with rfl | hother
        · exact hvisit.1
        · exact fun hold => hnew other hother (List.mem_append_left _ hold)
      · rw [if_neg hvisit]
        obtain ⟨new, hcollected, hrest⟩ := ih { s with collectedLinks := s.collectedLinks ++ [link] }
        exact ⟨new, by simpa using hcollected, hrest⟩

/-- The ghost of the loop: the objects expanded so far are, with those still queued, the roots as
often as they are listed and every other visited object once. -/
structure Collecting (repo : InMemoryGraphRepository) (allowedPlanes : Option (List PlaneType))
    (allowedLinkTypes : Option (List ControlLinkType)) (roots expanded : List String)
    (s : SliceSearch) : Prop where
  roots_visited : ∀ root ∈ roots, root ∈ s.visited
  links : s.collectedLinks = expanded.flatMap (repo.collectedAt allowedPlanes allowedLinkTypes)
  perm : (expanded ++ s.queue.map Prod.fst).Perm
    (roots ++ s.visited.filter fun id => id ∉ roots)

theorem Collecting.step {roots expanded : List String} {s s' : SliceSearch}
    (h : Collecting repo allowedPlanes allowedLinkTypes roots expanded s)
    (hstep : repo.sliceStep maxDepth allowedPlanes allowedLinkTypes s = some s') :
    ∃ currentId, Collecting repo allowedPlanes allowedLinkTypes roots (expanded ++ [currentId]) s' := by
  obtain ⟨hroots, hlinks, hperm⟩ := h
  obtain ⟨queue, visited, collectedLinks⟩ := s
  cases queue with
  | nil => cases hstep
  | cons e queue =>
    obtain ⟨currentId, depth⟩ := e
    obtain rfl := Option.some.inj hstep
    obtain ⟨new, hcollected, hvisited, hqueue, hnew⟩ := foldl_collectLink repo maxDepth
      allowedPlanes allowedLinkTypes currentId depth repo.links.values
      ⟨queue, visited, collectedLinks⟩
    refine ⟨currentId, ?_, ?_, ?_⟩
    · intro root hroot
      rw [hvisited]
      exact List.mem_append_left _ (hroots root hroot)
    · rw [hcollected, List.flatMap_append, List.flatMap_singleton, ← hlinks, collectedAt]
    · have hnew' : new.filter (fun id => id ∉ roots) = new := by
        refine List.filter_eq_self.mpr fun id hid => ?_
        simpa using fun hroot => hnew id hid (hroots id hroot)
      rw [hqueue, hvisited, List.map_append, List.filter_append, hnew', List.map_map]
      simpa [Function.comp_def] using hperm.append_right new

/-! ### How often a link is collected -/

section Count
open Classical

theorem count_flatMap_collectedAt (hnodup : repo.links.values.Nodup) {link : ControlLink}
    (hlink : link ∈ repo.links.values) (expanded : List String) :
    (expanded.flatMap (repo.collectedAt allowedPlanes allowedLinkTypes)).count link =
      expanded.countP fun id =>
        (repo.sliceNeighbor allowedPlanes allowedLinkTypes id link).isSome := by
  refine count_flatMap_eq_countP fun id _ => ?_
  unfold collectedAt
  split
  next hsome =>
    exact List.count_eq_one_of_mem (hnodup.filter _) (List.mem_filter.mpr ⟨hlink, hsome⟩)
  next hnone => exact List.count_eq_zero.mpr fun hmem => hnone (List.mem_filter.mp hmem).2

theorem countP_ends {a b : String} (hne : a ≠ b) (A B : Bool) (l : List String) :
    l.countP (fun id => id = a ∧ B ∨ id = b ∧ A) =
      (if B then l.count a else 0) + if A then l.count b else 0 := by
  induction l with
  | nil => simp
  | cons id l ih =>
    rw [List.countP_cons, ih, List.count_cons, List.count_cons]
    cases A <;> cases B <;> by_cases ha : id = a <;> by_cases hb : id = b <;>
      simp_all <;> omega

end Count

variable {rootIds : List String}

theorem countP_sliceNeighbor {link : ControlLink} (htype : allows allowedLinkTypes link.linkType)
    (l : List String) :
    (l.countP fun id => (repo.sliceNeighbor allowedPlanes allowedLinkTypes id link).isSome) =
      if link.sourceId = link.targetId then
        if repo.enterable allowedPlanes link.sourceId then l.count link.sourceId else 0
      else
        (if repo.enterable allowedPlanes link.targetId then l.count link.sourceId else 0) +
          if repo.enterable allowedPlanes link.sourceId then l.count link.targetId else 0 := by
  split
  next hloop =>
    by_cases henter : repo.enterable allowedPlanes link.sourceId
    · rw [if_pos henter, List.count]
      refine List.countP_congr fun id _ => ?_
      simp [isSome_sliceNeighbor, htype, ← hloop, henter]
    · rw [if_neg henter]
      refine List.countP_eq_zero.mpr fun id _ => ?_
      simp [isSome_sliceNeighbor, ← hloop, henter]
  next hne =>
    rw [← countP_ends hne]
    refine List.countP_congr fun id _ => ?_
    simp [isSome_sliceNeighbor, htype]

/-- How often the search expands an object of the slice. -/
def expansions (rootIds : List String) (id : String) : ℕ :=
  if id ∈ rootIds then rootIds.count id else 1

theorem expansions_pos (rootIds : List String) (id : String) : 0 < expansions rootIds id := by
  unfold expansions
  split
  next hroot => exact List.count_pos_iff.mpr hroot
  next => exact Nat.one_pos

theorem InSlice.enterable_or_root {id : String}
    (h : repo.InSlice maxDepth allowedPlanes allowedLinkTypes rootIds id) :
    repo.enterable allowedPlanes id ∨ id ∈ rootIds := by
  obtain ⟨n, -, root, hroot, hsteps⟩ := h
  cases hsteps with
  | zero => exact Or.inr (List.mem_filter.mp hroot).1
  | succ _ hnext =>
    obtain ⟨-, -, -, -, obj, hobj, hplane⟩ := (repo.mem_sliceNext _ _).mp hnext
    exact Or.inl (by simp [enterable, hobj, hplane])

/-- A link between objects of a slice that is collected just once: exactly one of its ends may be
entered, and the other is a root that is listed once. -/
def CollectedOnce (repo : InMemoryGraphRepository) (allowedPlanes : Option (List PlaneType))
    (rootIds : List String) (link : ControlLink) : Prop :=
  if link.sourceId = link.targetId then
    repo.enterable allowedPlanes link.sourceId ∧ rootIds.count link.sourceId ≤ 1
  else
    repo.enterable allowedPlanes link.targetId ∧ ¬ repo.enterable allowedPlanes link.sourceId ∧
        rootIds.count link.sourceId = 1 ∨
      repo.enterable allowedPlanes link.sourceId ∧ ¬ repo.enterable allowedPlanes link.targetId ∧
        rootIds.count link.targetId = 1

/-- No allowed link leads from the slice to an object outside that may be entered, and each allowed
link inside it is collected just once. -/
structure LinksOnce (repo : InMemoryGraphRepository) (maxDepth : ℤ)
    (allowedPlanes : Option (List PlaneType)) (allowedLinkTypes : Option (List ControlLinkType))
    (rootIds : List String) : Prop where
  closed : ∀ link ∈ repo.links.values, allows allowedLinkTypes link.linkType →
    ∀ u v, link.neighbor u = some v →
      repo.InSlice maxDepth allowedPlanes allowedLinkTypes rootIds u →
      repo.enterable allowedPlanes v →
        repo.InSlice maxDepth allowedPlanes allowedLinkTypes rootIds v
  once : ∀ link ∈ repo.links.values, allows allowedLinkTypes link.linkType →
    repo.InSlice maxDepth allowedPlanes allowedLinkTypes rootIds link.sourceId →
    repo.InSlice maxDepth allowedPlanes allowedLinkTypes rootIds link.targetId →
      repo.CollectedOnce allowedPlanes rootIds link

/-- The objects returned are those of the slice, each once. -/
structure ExactObjects (repo : InMemoryGraphRepository) (maxDepth : ℤ)
    (allowedPlanes : Option (List PlaneType)) (allowedLinkTypes : Option (List ControlLinkType))
    (rootIds : List String) (objects : List ControlObject) : Prop where
  nodup : (objects.map ControlObject.id).Nodup
  mem_iff : ∀ obj, obj ∈ objects ↔ repo.objects.get? obj.id = some obj ∧
    repo.InSlice maxDepth allowedPlanes allowedLinkTypes rootIds obj.id

/-- The links returned are the allowed stored ones between the objects, each once. -/
structure ExactLinks (repo : InMemoryGraphRepository)
    (allowedLinkTypes : Option (List ControlLinkType)) (objects : List ControlObject)
    (links : List ControlLink) : Prop where
  nodup : links.Nodup
  mem_iff : ∀ link, link ∈ links ↔ link ∈ repo.links.values ∧
    allows allowedLinkTypes link.linkType ∧ (∃ obj ∈ objects, obj.id = link.sourceId) ∧
      ∃ obj ∈ objects, obj.id = link.targetId

/-- How often an object is expanded, when the objects of the slice have been visited. -/
theorem count_expanded {visited : List String} (hnodup : visited.Nodup)
    (hvisited : ∀ id, id ∈ visited ↔ repo.InSlice maxDepth allowedPlanes allowedLinkTypes rootIds id)
    (id : String) :
    ((rootIds.filter fun rid => rid ∈ repo.objects) ++
        visited.filter fun v => v ∉ rootIds.filter fun rid => rid ∈ repo.objects).count id =
      if id ∈ visited then expansions rootIds id else 0 := by
  have hroot (hid : id ∈ rootIds) (hstored : id ∈ repo.objects) : id ∈ visited :=
    (hvisited id).mpr ⟨0, Or.inl rfl, stepsFrom_zero.mpr (List.mem_filter.mpr ⟨hid, by simpa⟩)⟩
  rw [List.count_append]
  by_cases hmem : id ∈ visited
  · have hstored : id ∈ repo.objects := ((hvisited id).mp hmem).stored
    have hcount : (rootIds.filter fun rid => rid ∈ repo.objects).count id = rootIds.count id :=
      List.count_filter (by simpa using hstored)
    rw [if_pos hmem, hcount, expansions]
    by_cases hid : id ∈ rootIds
    · have hother : id ∉ visited.filter fun v =>
          v ∉ rootIds.filter fun rid => rid ∈ repo.objects := by simp [hid, hstored]
      rw [if_pos hid, List.count_eq_zero_of_not_mem hother, Nat.add_zero]
    · rw [if_neg hid, List.count_eq_zero_of_not_mem hid, Nat.zero_add]
      exact List.count_eq_one_of_mem (hnodup.filter _) (List.mem_filter.mpr ⟨hmem, by simp [hid]⟩)
  · have hid : id ∈ rootIds → id ∉ repo.objects := fun hid hstored => hmem (hroot hid hstored)
    rw [if_neg hmem, List.count_eq_zero_of_not_mem (by simpa using hid),
      List.count_eq_zero_of_not_mem fun h => hmem (List.mem_filter.mp h).1]

theorem sum_eq_one_iff {m n : ℕ} {A B : Prop} [Decidable A] [Decidable B] (hm : 0 < m)
    (hn : 0 < n) : (if B then m else 0) + (if A then n else 0) = 1 ↔
      B ∧ ¬ A ∧ m = 1 ∨ A ∧ ¬ B ∧ n = 1 := by
  by_cases hA : A
  · by_cases hB : B
    · simp only [hA, hB, if_true, not_true, false_and, and_false, or_false, iff_false]
      omega
    · simp [hA, hB]
  · by_cases hB : B
    · simp [hA, hB]
    · simp [hA, hB]

/-- How often a link is collected is how often it should be, just when it does not leave the slice
and is collected once inside it. -/
theorem collected_eq_iff {visited : List String}
    (hvisited : ∀ id, id ∈ visited ↔ repo.InSlice maxDepth allowedPlanes allowedLinkTypes rootIds id)
    {link : ControlLink} {l : List String}
    (hcount : ∀ id, l.count id = if id ∈ visited then expansions rootIds id else 0)
    (htype : allows allowedLinkTypes link.linkType) :
    (l.countP fun id => (repo.sliceNeighbor allowedPlanes allowedLinkTypes id link).isSome) =
        (if link.sourceId ∈ visited ∧ link.targetId ∈ visited then 1 else 0) ↔
      (∀ u v, link.neighbor u = some v → u ∈ visited → repo.enterable allowedPlanes v →
        v ∈ visited) ∧
      (link.sourceId ∈ visited → link.targetId ∈ visited →
        repo.CollectedOnce allowedPlanes rootIds link) := by
  have hclosed : (∀ u v, link.neighbor u = some v → u ∈ visited → repo.enterable allowedPlanes v →
        v ∈ visited) ↔
      (link.sourceId ∈ visited → repo.enterable allowedPlanes link.targetId →
        link.targetId ∈ visited) ∧
      (link.targetId ∈ visited → repo.enterable allowedPlanes link.sourceId →
        link.sourceId ∈ visited) := by
    simp only [ControlLink.neighbor_eq_some]
    constructor
    · intro h
      exact ⟨h _ _ (Or.inl ⟨rfl, rfl⟩), h _ _ (Or.inr ⟨rfl, rfl⟩)⟩
    · rintro ⟨hsource, htarget⟩ u v (⟨rfl, rfl⟩ | ⟨rfl, rfl⟩)
      · exact hsource
      · exact htarget
  -- An end that may not be entered is a root.
  have hroot (id : String) (hid : id ∈ visited) (hno : ¬ repo.enterable allowedPlanes id) :
      expansions rootIds id = rootIds.count id :=
    if_pos (((hvisited id).mp hid).enterable_or_root.resolve_left hno)
  rw [hclosed, countP_sliceNeighbor htype, hcount, hcount, CollectedOnce]
  by_cases hloop : link.sourceId = link.targetId
  · rw [if_pos hloop, if_pos hloop, hloop]
    by_cases hmem : link.targetId ∈ visited
    · have hone : expansions rootIds link.targetId = 1 ↔ rootIds.count link.targetId ≤ 1 := by
        unfold expansions
        split
        next hid =>
          have := List.count_pos_iff.mpr hid
          omega
        next hid => simp [List.count_eq_zero_of_not_mem hid]
      by_cases henter : repo.enterable allowedPlanes link.targetId
      · simp [hmem, henter, hone]
      · simp [hmem, henter]
    · simp [hmem]
  · rw [if_neg hloop, if_neg hloop]
    by_cases hsource : link.sourceId ∈ visited
    · by_cases htarget : link.targetId ∈ visited
      · simp only [hsource, htarget, and_self, if_true, forall_const, implies_true, true_and]
        rw [sum_eq_one_iff (expansions_pos rootIds _) (expansions_pos rootIds _)]
        exact or_congr
          (and_congr_right fun _ => and_congr_right fun hno => by rw [hroot _ hsource hno])
          (and_congr_right fun _ => and_congr_right fun hno => by rw [hroot _ htarget hno])
      · simp [hsource, htarget, (expansions_pos rootIds link.sourceId).ne']
    · by_cases htarget : link.targetId ∈ visited
      · simp [hsource, htarget, (expansions_pos rootIds link.targetId).ne']
      · simp [hsource, htarget]

/-- What a slice returns: its objects, and its links as often as the search expands their ends. -/
theorem getGraphSlice_collected (repo : InMemoryGraphRepository) (maxDepth : ℤ)
    (allowedPlanes : Option (List PlaneType)) (allowedLinkTypes : Option (List ControlLinkType))
    (rootIds : List String) {fuel : ℕ} (hfuel : rootIds.length + repo.objects.keys.length < fuel) :
    ∃ (visited expanded : List String),
      repo.getGraphSlice fuel rootIds maxDepth allowedPlanes allowedLinkTypes =
          some (visited.filterMap repo.objects.get?,
            expanded.flatMap (repo.collectedAt allowedPlanes allowedLinkTypes)) ∧
        visited.Nodup ∧
        (∀ id, id ∈ visited ↔ repo.InSlice maxDepth allowedPlanes allowedLinkTypes rootIds id) ∧
        ∀ id, expanded.count id = if id ∈ visited then expansions rootIds id else 0 := by
  obtain ⟨final, hloop, hnodup, hvisited⟩ :=
    repo.loop_sliceStep maxDepth allowedPlanes allowedLinkTypes rootIds hfuel
  let roots := rootIds.filter fun rid => rid ∈ repo.objects
  have hstart : Collecting repo allowedPlanes allowedLinkTypes roots [] (repo.sliceStart rootIds) := by
    refine ⟨fun root hroot => List.mem_dedup.mpr hroot, rfl, ?_⟩
    have hnone : roots.dedup.filter (fun id => id ∉ roots) = [] := by
      refine List.filter_eq_nil_iff.mpr fun id hid => ?_
      simpa using List.mem_dedup.mp hid
    show (List.map Prod.fst (roots.map fun rid => (rid, (0 : ℤ)))).Perm
      (roots ++ roots.dedup.filter fun id => id ∉ roots)
    rw [hnone, List.append_nil, List.map_map]
    simp [Function.comp_def]
  obtain ⟨⟨expanded, hcollecting⟩, hdone⟩ := loop_invariant
    (I := fun s => ∃ expanded, Collecting repo allowedPlanes allowedLinkTypes roots expanded s)
    (fun s s' ⟨_, hs⟩ hstep => (hs.step hstep).imp' _ fun _ h => h) ⟨[], hstart⟩ hloop
  have hempty : final.queue = [] := by
    cases hqueue : final.queue with
    | nil => rfl
    | cons e queue => simp [sliceStep, hqueue] at hdone
  refine ⟨final.visited, expanded, ?_, hnodup, hvisited, fun id => ?_⟩
  · unfold getGraphSlice
    rw [hloop, Option.map_some, hcollecting.links]
  · have hperm := hcollecting.perm
    rw [hempty, List.map_nil, List.append_nil] at hperm
    rw [hperm.count_eq id]
    exact count_expanded hnodup hvisited id

theorem map_id_objects (hfiled : repo.Filed) {visited : List String}
    (hstored : ∀ id ∈ visited, id ∈ repo.objects) :
    (visited.filterMap repo.objects.get?).map ControlObject.id = visited := by
  have hself : ∀ id ∈ visited, (repo.objects.get? id).map ControlObject.id = some id := by
    intro id hid
    obtain ⟨obj, hobj⟩ := Dict.mem_iff_get?.mp (hstored id hid)
    rw [hobj, Option.map_some, hfiled.object id obj hobj]
  rw [List.map_filterMap, List.filterMap_congr hself, List.filterMap_some]

theorem exactObjects (hfiled : repo.Filed) {visited : List String} (hnodup : visited.Nodup)
    (hvisited : ∀ id, id ∈ visited ↔
      repo.InSlice maxDepth allowedPlanes allowedLinkTypes rootIds id) :
    repo.ExactObjects maxDepth allowedPlanes allowedLinkTypes rootIds
      (visited.filterMap repo.objects.get?) := by
  refine ⟨?_, fun obj => ?_⟩
  · rw [map_id_objects hfiled fun id hid => ((hvisited id).mp hid).stored]
    exact hnodup
  · rw [List.mem_filterMap]
    constructor
    · rintro ⟨id, hid, hobj⟩
      obtain rfl := hfiled.object id obj hobj
      exact ⟨hobj, (hvisited _).mp hid⟩
    · rintro ⟨hobj, hslice⟩
      exact ⟨obj.id, (hvisited _).mpr hslice, hobj⟩

open Classical in
/-- The links are exact when each is listed once if it should be, and not at all otherwise. -/
theorem exactLinks_iff_count {objects : List ControlObject} {links : List ControlLink} :
    repo.ExactLinks allowedLinkTypes objects links ↔
      ∀ link, links.count link = if link ∈ repo.links.values ∧
        allows allowedLinkTypes link.linkType ∧ (∃ obj ∈ objects, obj.id = link.sourceId) ∧
          ∃ obj ∈ objects, obj.id = link.targetId then 1 else 0 := by
  constructor
  · intro h link
    split
    next hwanted => exact List.count_eq_one_of_mem h.nodup ((h.mem_iff link).mpr hwanted)
    next hunwanted =>
      exact List.count_eq_zero_of_not_mem fun hmem => hunwanted ((h.mem_iff link).mp hmem)
  · intro h
    refine ⟨List.nodup_iff_count_le_one.mpr fun link => ?_, fun link => ?_⟩
    · rw [h link]
      split
      next => exact le_rfl
      next => exact Nat.zero_le _
    · rw [← List.count_pos_iff, h link]
      split
      next hwanted => simp [hwanted]
      next hunwanted => simp [hunwanted]

theorem nodup_values (hfiled : repo.Filed) : repo.links.values.Nodup := by
  have hids : repo.links.values.map ControlLink.id = repo.links.keys := by
    rw [Dict.values, Dict.keys, List.map_map]
    exact List.map_congr_left fun e he => hfiled.link e.1 e.2 (Dict.get?_eq_some.mpr he)
  exact List.Nodup.of_map ControlLink.id (hids ▸ repo.links.nodup)

/-- The links of a slice are exact exactly when none leaves it and each is collected once. -/
theorem exactLinks_iff (hfiled : repo.Filed) {visited expanded : List String}
    (hvisited : ∀ id, id ∈ visited ↔
      repo.InSlice maxDepth allowedPlanes allowedLinkTypes rootIds id)
    (hcount : ∀ id, expanded.count id = if id ∈ visited then expansions rootIds id else 0) :
    repo.ExactLinks allowedLinkTypes (visited.filterMap repo.objects.get?)
        (expanded.flatMap (repo.collectedAt allowedPlanes allowedLinkTypes)) ↔
      repo.LinksOnce maxDepth allowedPlanes allowedLinkTypes rootIds := by
  classical
  have hobject (id : String) :
      (∃ obj ∈ visited.filterMap repo.objects.get?, obj.id = id) ↔ id ∈ visited := by
    rw [← List.mem_map, map_id_objects hfiled fun id hid => ((hvisited id).mp hid).stored]
  rw [exactLinks_iff_count]
  simp only [hobject]
  constructor
  · intro h
    have hlink (link : ControlLink) (hstored : link ∈ repo.links.values)
        (htype : allows allowedLinkTypes link.linkType) := by
      have hself := h link
      rw [count_flatMap_collectedAt (nodup_values hfiled) hstored] at hself
      exact (collected_eq_iff hvisited hcount htype).mp (by simpa [hstored, htype] using hself)
    refine ⟨fun link hstored htype u v hneighbor hu henter => ?_,
      fun link hstored htype hsource htarget => ?_⟩
    · exact (hvisited v).mp ((hlink link hstored htype).1 u v hneighbor ((hvisited u).mpr hu) henter)
    · exact (hlink link hstored htype).2 ((hvisited _).mpr hsource) ((hvisited _).mpr htarget)
  · intro h link
    by_cases hstored : link ∈ repo.links.values
    · rw [count_flatMap_collectedAt (nodup_values hfiled) hstored]
      by_cases htype : allows allowedLinkTypes link.linkType
      · have hself := (collected_eq_iff hvisited hcount htype).mpr
          ⟨fun u v hneighbor hu henter => (hvisited v).mpr
              (h.closed link hstored htype u v hneighbor ((hvisited u).mp hu) henter),
            fun hsource htarget =>
              h.once link hstored htype ((hvisited _).mp hsource) ((hvisited _).mp htarget)⟩
        simpa [hstored, htype] using hself
      · have hnone : ∀ id ∈ expanded,
            ¬ (repo.sliceNeighbor allowedPlanes allowedLinkTypes id link).isSome :=
          fun id _ hsome => htype (isSome_sliceNeighbor.mp hsome).1
        rw [List.countP_eq_zero.mpr hnone, if_neg fun hwanted => htype hwanted.2.1]
    · rw [if_neg fun hwanted => hstored hwanted.1]
      refine List.count_eq_zero_of_not_mem fun hmem => hstored ?_
      obtain ⟨id, -, hcollected⟩ := List.mem_flatMap.mp hmem
      exact (List.mem_filter.mp hcollected).1

end InMemoryGraphRepository

open InMemoryGraphRepository

/-- In every state of the repository a slice has exactly its objects, each once; it has exactly the
allowed links between them, each once, just when no allowed link leaves it and each inside it is
collected once. -/
theorem graph_slice_exact_iff (ops : List RepositoryOp) (maxDepth : ℤ)
    (allowedPlanes : Option (List PlaneType)) (allowedLinkTypes : Option (List ControlLinkType))
    (rootIds : List String) {fuel : ℕ}
    (hfuel : rootIds.length + (repositoryOf ops).objects.keys.length < fuel) :
    ∃ objects links,
      (repositoryOf ops).getGraphSlice fuel rootIds maxDepth allowedPlanes allowedLinkTypes =
          some (objects, links) ∧
        (repositoryOf ops).ExactObjects maxDepth allowedPlanes allowedLinkTypes rootIds objects ∧
        ((repositoryOf ops).ExactLinks allowedLinkTypes objects links ↔
          (repositoryOf ops).LinksOnce maxDepth allowedPlanes allowedLinkTypes rootIds) := by
  have hfiled := filed_repositoryOf ops
  obtain ⟨visited, expanded, hslice, hnodup, hvisited, hcount⟩ := getGraphSlice_collected
    (repositoryOf ops) maxDepth allowedPlanes allowedLinkTypes rootIds hfuel
  exact ⟨_, _, hslice, exactObjects hfiled hnodup hvisited, exactLinks_iff hfiled hvisited hcount⟩

/-- Two objects of the field plane, and a link between them. -/
def repairOfVisit : List RepositoryOp :=
  [.storeObject (plainObject "visit" "north" .field),
    .storeObject (plainObject "repair" "north" .field),
    .storeLink (plainLink "l1" "repair" "visit" .derivesFrom)]

theorem graph_slice_exact_iff_repair : ∃ objects links,
    (repositoryOf repairOfVisit).getGraphSlice 4 ["visit"] 1 none none = some (objects, links) ∧
      (repositoryOf repairOfVisit).ExactObjects 1 none none ["visit"] objects ∧
      ((repositoryOf repairOfVisit).ExactLinks none objects links ↔
        (repositoryOf repairOfVisit).LinksOnce 1 none none ["visit"]) :=
  graph_slice_exact_iff repairOfVisit 1 none none ["visit"] (by decide)

/-- The link between two objects of one plane is listed twice. -/
theorem not_graph_slice_exact : ¬ ∀ (ops : List RepositoryOp) (maxDepth : ℤ)
    (allowedPlanes : Option (List PlaneType)) (allowedLinkTypes : Option (List ControlLinkType))
    (rootIds : List String) (fuel : ℕ),
    rootIds.length + (repositoryOf ops).objects.keys.length < fuel →
      ∃ objects links,
        (repositoryOf ops).getGraphSlice fuel rootIds maxDepth allowedPlanes allowedLinkTypes =
            some (objects, links) ∧
          (repositoryOf ops).ExactObjects maxDepth allowedPlanes allowedLinkTypes rootIds objects ∧
          (repositoryOf ops).ExactLinks allowedLinkTypes objects links := by
  intro hall
  have hids : ((repositoryOf repairOfVisit).getGraphSlice 4 ["visit"] 1 none none).map
      (fun slice => slice.2.map ControlLink.id) = some ["l1", "l1"] := by decide
  obtain ⟨objects, links, hslice, -, hlinks⟩ :=
    hall repairOfVisit 1 none none ["visit"] 4 (by decide)
  rw [hslice] at hids
  -- Equal identifiers belong to one stored link.
  have htwice : links.map ControlLink.id = ["l1", "l1"] := Option.some.inj hids
  have hone : ∀ link ∈ links, (repositoryOf repairOfVisit).links.get? "l1" = some link := by
    intro link hlink
    have hid : link.id = "l1" := by
      have hmem : link.id ∈ links.map ControlLink.id := List.mem_map_of_mem hlink
      rw [htwice] at hmem
      simpa using hmem
    obtain ⟨id, hget⟩ := Dict.mem_values.mp ((hlinks.mem_iff link).mp hlink).1
    rw [← hid, (filed_repositoryOf repairOfVisit).link id link hget]
    exact hget
  have hlength : links.length = 2 := by simpa using congrArg List.length htwice
  obtain ⟨first, second, rfl⟩ := List.length_eq_two.mp hlength
  have hsame : first = second := Option.some.inj
    ((hone first (by simp)).symm.trans (hone second (by simp)))
  exact (List.nodup_cons.mp hlinks.nodup).1 (by simp [hsame])

end ControlFabric.Fabric
