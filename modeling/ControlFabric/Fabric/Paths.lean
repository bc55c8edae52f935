import ControlFabric.Fabric.Repository
import ControlFabric.Lib.ShortestPath

/-! The path search of the repository finds a shortest chain of links between stored objects. -/
namespace ControlFabric.Fabric
open Lib

theorem ControlLink.neighbor_eq_some {link : ControlLink} {u v : String} :
    link.neighbor u = some v ↔
      link.sourceId = u ∧ link.targetId = v ∨ link.sourceId = v ∧ link.targetId = u := by
  unfold neighbor
  split_ifs with hsource htarget
  · rw [Option.some.injEq]
    constructor
    · exact fun h => Or.inl ⟨hsource, h⟩
    · rintro (⟨-, h⟩ | ⟨hv, hu⟩)
      · exact h
      · rw [hu, ← hv, hsource]
  · rw [Option.some.injEq]
    constructor
    · exact fun h => Or.inr ⟨h, htarget⟩
    · rintro (⟨hu, -⟩ | ⟨hv, -⟩)
      · exact absurd hu hsource
      · exact hv
  · simp [hsource, htarget]

namespace InMemoryGraphRepository
variable (repo : InMemoryGraphRepository)

/-- A stored link joins `u`, in one direction or the other, to the stored object `v`. -/
def Joins (u : String) (link : ControlLink) (v : String) : Prop :=
  link ∈ repo.links.values ∧
    (link.sourceId = u ∧ link.targetId = v ∨ link.sourceId = v ∧ link.targetId = u) ∧
    v ∈ repo.objects

def Linked (u v : String) : Prop := ∃ link, repo.Joins u link v

/-- A chain of objects from `u` to `v`, each linked to the one before it. -/
structure Chain (u v : String) (nodes : List String) : Prop where
  head : nodes.head? = some u
  last : nodes.getLast? = some v
  linked : nodes.IsChain repo.Linked

/-- The links `find_path` follows from an object, with the objects they lead to. -/
def pathHops (current : String) : List (ControlLink × String) :=
  repo.links.values.filterMap fun link =>
    ((link.neighbor current).filter fun id => id ∈ repo.objects).map fun id => (link, id)

theorem mem_pathHops {u v : String} {link : ControlLink} :
    (link, v) ∈ repo.pathHops u ↔ repo.Joins u link v := by
  unfold pathHops Joins
  simp only [List.mem_filterMap, Option.map_eq_some_iff, Option.filter_eq_some_iff,
    decide_eq_true_eq, Prod.mk.injEq, ← ControlLink.neighbor_eq_some]
  constructor
  · rintro ⟨_, hlink, _, ⟨hneighbor, hstored⟩, rfl, rfl⟩
    exact ⟨hlink, hneighbor, hstored⟩
  · rintro ⟨hlink, hneighbor, hstored⟩
    exact ⟨link, hlink, v, ⟨hneighbor, hstored⟩, rfl, rfl⟩

/-- `find_path` records the objects on its way. -/
def pathRecorder : Recorder String ControlLink (List String) where
  extend path _ v := path ++ [v]
  depth path := path.length - 1
  depth_extend path _ v := by
    rw [List.length_append, List.length_singleton]
    push_cast
    ring

private def search (s : PathSearch) : Search String (List String) := ⟨s.queue, s.visited, s.found⟩

private theorem search_foldl (current : String) (path : List String) (links : List ControlLink)
    (s : PathSearch) :
    search (links.foldl (repo.visitLink current path) s) =
      (links.filterMap fun link =>
        ((link.neighbor current).filter fun id => id ∈ repo.objects).map fun id => (link, id)).foldl
        (Search.visit pathRecorder path) (search s) := by
  induction links generalizing s with
  | nil => rfl
  | cons link links ih =>
    rw [List.foldl_cons, ih]
    cases hneighbor : link.neighbor current with
    | none => simp [visitLink, hneighbor]
    | some id =>
      by_cases hstored : id ∈ repo.objects
      · by_cases hnew : id ∈ s.visited
        · simp [visitLink, hneighbor, hstored, hnew, Search.visit, search, Option.filter]
        · simp [visitLink, hneighbor, hstored, hnew, Search.visit, search, Option.filter,
            pathRecorder]
      · simp [visitLink, hneighbor, hstored, Option.filter]

private theorem search_pathStep (targetId : String) (maxDepth : ℤ) (s : PathSearch) :
    (repo.pathStep targetId maxDepth s).map search =
      Search.step pathRecorder repo.pathHops targetId maxDepth (search s) := by
  obtain ⟨queue, visited, found⟩ := s
  cases found with
  | some path => rfl
  | none =>
    cases queue with
    | nil => rfl
    | cons e queue =>
      obtain ⟨current, path⟩ := e
      have hdeep : maxDepth < path.length ↔ maxDepth ≤ pathRecorder.depth path := by
        show _ ↔ maxDepth ≤ (path.length : ℤ) - 1
        omega
      simp only [pathStep, Search.step, search, hdeep]
      split_ifs with htarget hcut
      · rfl
      · rfl
      · exact congrArg some (repo.search_foldl current path repo.links.values _)

/-- What is recorded on the way to an object is a chain of links. -/
theorem trail_of_recorded {sourceId v : String} {n : ℕ} {path : List String}
    (h : Recorded pathRecorder repo.pathHops sourceId [sourceId] n v path) :
    ∃ links, links.length = n ∧ Trail repo.Joins sourceId path links v := by
  induction h with
  | zero => exact ⟨[], rfl, Trail.nil⟩
  | @succ n u v p link _ hhop ih =>
    obtain ⟨links, hlength, htrail⟩ := ih
    exact ⟨links ++ [link], by simp [hlength], htrail.snoc ((repo.mem_pathHops).mp hhop)⟩

theorem hopTo_pathHops : HopTo repo.pathHops = repo.Linked := by
  funext u v
  exact propext (exists_congr fun link => repo.mem_pathHops)

/-- The search for a path ends, with the record of a shortest walk if there is one. -/
theorem findPath_shortest {sourceId targetId : String} (hsource : sourceId ∈ repo.objects)
    (htarget : targetId ∈ repo.objects) (maxDepth : ℤ) {fuel : ℕ}
    (hfuel : repo.objects.keys.length + 1 < fuel) :
    ∃ answer, repo.findPath fuel sourceId targetId maxDepth = some answer ∧
      ShortestRecord pathRecorder repo.pathHops sourceId [sourceId] targetId maxDepth answer := by
  have hhops : ∀ u, ∀ hop ∈ repo.pathHops u, hop.2 ∈ repo.objects.keys := fun u hop hhop =>
    Dict.mem_iff_keys.mp ((repo.mem_pathHops).mp hhop).2.2
  obtain ⟨final, hloop, hanswer⟩ := Search.loop_step hhops
    (show pathRecorder.depth [sourceId] = 0 from rfl) sourceId targetId maxDepth hfuel
  have hview := loop_map (repo.search_pathStep targetId maxDepth) fuel
    ⟨[(sourceId, [sourceId])], [sourceId], none⟩
  have hstart : search ⟨[(sourceId, [sourceId])], [sourceId], none⟩ =
      Search.start sourceId [sourceId] := rfl
  rw [hstart, hloop] at hview
  obtain ⟨s, hs, rfl⟩ := Option.map_eq_some_iff.mp hview
  refine ⟨s.found, ?_, hanswer⟩
  rw [findPath, if_neg (by simp [hsource, htarget]), hs]
  rfl

variable {repo}

/-- A path that is found, with whatever fuel, records a shortest walk. -/
theorem findPath_sound {fuel : ℕ} {sourceId targetId : String} {maxDepth : ℤ} {path : List String}
    (h : repo.findPath fuel sourceId targetId maxDepth = some (some path)) :
    sourceId ∈ repo.objects ∧ targetId ∈ repo.objects ∧
      ShortestRecord pathRecorder repo.pathHops sourceId [sourceId] targetId maxDepth (some path) := by
  by_cases hunknown : sourceId ∉ repo.objects ∨ targetId ∉ repo.objects
  · rw [findPath, if_pos hunknown] at h
    cases h
  · have hends := hunknown
    rw [not_or, not_not, not_not] at hends
    refine ⟨hends.1, hends.2, ?_⟩
    let enough := max fuel (repo.objects.keys.length + 2)
    obtain ⟨answer, hanswer, hshortest⟩ := repo.findPath_shortest hends.1 hends.2 maxDepth
      (show repo.objects.keys.length + 1 < enough by omega)
    have hmore : repo.findPath enough sourceId targetId maxDepth = some (some path) := by
      rw [findPath, if_neg hunknown] at h ⊢
      obtain ⟨final, hloop, hfound⟩ := Option.map_eq_some_iff.mp h
      rw [loop_of_le (Nat.le_max_left _ _) hloop, Option.map_some, hfound]
    obtain rfl := Option.some.inj (hmore.symm.trans hanswer)
    exact hshortest

theorem steps_iff_chain {u v : String} {n : ℕ} :
    Steps repo.Linked u n v ↔ ∃ nodes, repo.Chain u v nodes ∧ nodes.length = n + 1 := by
  rw [Lib.steps_iff_chain]
  constructor
  · rintro ⟨nodes, hlinked, hhead, hlast, hlength⟩
    exact ⟨nodes, ⟨hhead, hlast, hlinked⟩, hlength⟩
  · rintro ⟨nodes, ⟨hhead, hlast, hlinked⟩, hlength⟩
    exact ⟨nodes, hlinked, hhead, hlast, hlength⟩

theorem Chain.exists_length {u v : String} {nodes : List String} (h : repo.Chain u v nodes) :
    ∃ n, nodes.length = n + 1 := by
  cases nodes with
  | nil => cases h.head
  | cons a nodes => exact ⟨nodes.length, rfl⟩

/-- A path found is a shortest chain of links, and passes no object twice. -/
structure ShortestChain (repo : InMemoryGraphRepository) (sourceId targetId : String)
    (path : List String) : Prop where
  chain : repo.Chain sourceId targetId path
  nodup : path.Nodup
  least : ∀ nodes, repo.Chain sourceId targetId nodes → path.length ≤ nodes.length

/-- What the record of a shortest walk is, and how long. -/
theorem shortestChain_of_record {sourceId targetId : String} {maxDepth : ℤ} {path : List String}
    (h : ShortestRecord pathRecorder repo.pathHops sourceId [sourceId] targetId maxDepth
      (some path)) :
    repo.ShortestChain sourceId targetId path ∧
      (path.length = 1 ∨ (path.length : ℤ) ≤ maxDepth + 1) := by
  rw [ShortestRecord, hopTo_pathHops] at h
  obtain ⟨n, hn, hdist, hrecorded⟩ := h
  obtain ⟨links, hlength, htrail⟩ := repo.trail_of_recorded hrecorded
  have hpath : path.length = n + 1 := hlength ▸ htrail.length_nodes
  refine ⟨⟨⟨htrail.head_nodes, htrail.last_nodes, htrail.chain⟩, htrail.nodup (hlength ▸ hdist),
    fun nodes hnodes => ?_⟩, ?_⟩
  · obtain ⟨m, hm⟩ := hnodes.exists_length
    have := hdist.least m (steps_iff_chain.mpr ⟨nodes, hnodes, hm⟩)
    omega
  · rcases hn with rfl | hn
    · exact Or.inl hpath
    · right
      rw [hpath]
      push_cast
      omega

/-- When nothing is found, every chain is too long. -/
theorem too_long_of_record {sourceId targetId : String} {maxDepth : ℤ} {nodes : List String}
    (h : ShortestRecord pathRecorder repo.pathHops sourceId [sourceId] targetId maxDepth none)
    (hchain : repo.Chain sourceId targetId nodes) : maxDepth + 1 < nodes.length := by
  rw [ShortestRecord, hopTo_pathHops] at h
  obtain ⟨n, hn⟩ := hchain.exists_length
  have hfar := h n
  by_contra hshort
  refine hfar (Or.inr ?_) (steps_iff_chain.mpr ⟨nodes, hchain, hn⟩)
  rw [hn] at hshort
  push_cast at hshort
  omega

end InMemoryGraphRepository

open InMemoryGraphRepository

/-- In every state of the repository the search between two stored objects ends; it finds a path
exactly when a chain of few enough links joins them, and the path found is a shortest one. -/
theorem find_path_exact (repo : InMemoryGraphRepository) {sourceId targetId : String}
    (hsource : sourceId ∈ repo.objects) (htarget : targetId ∈ repo.objects) (maxDepth : ℕ)
    {fuel : ℕ} (hfuel : repo.objects.keys.length + 1 < fuel) :
    ∃ answer, repo.findPath fuel sourceId targetId maxDepth = some answer ∧
      (answer.isSome ↔
        ∃ nodes, repo.Chain sourceId targetId nodes ∧ nodes.length ≤ maxDepth + 1) ∧
      ∀ path ∈ answer, repo.ShortestChain sourceId targetId path := by
  obtain ⟨answer, hanswer, hshortest⟩ := repo.findPath_shortest hsource htarget maxDepth hfuel
  refine ⟨answer, hanswer, ?_⟩
  cases answer with
  | none =>
    refine ⟨⟨fun h => absurd h (by simp), ?_⟩, fun path hpath => absurd hpath (by simp)⟩
    rintro ⟨nodes, hchain, hbound⟩
    have hlong := too_long_of_record hshortest hchain
    omega
  | some path =>
    obtain ⟨hchain, hlength⟩ := shortestChain_of_record hshortest
    refine ⟨⟨fun _ => ⟨path, hchain.chain, by omega⟩, fun _ => rfl⟩, fun q hq => ?_⟩
    obtain rfl := Option.some.inj hq
    exact hchain

theorem find_path_exact_visits :
    ∃ answer, threeVisits.findPath 5 "visit" "invoice" (2 : ℕ) = some answer ∧
      (answer.isSome ↔
        ∃ nodes, threeVisits.Chain "visit" "invoice" nodes ∧ nodes.length ≤ 2 + 1) ∧
      ∀ path ∈ answer, threeVisits.ShortestChain "visit" "invoice" path :=
  find_path_exact threeVisits (by decide) (by decide) 2 (by decide)

example : threeVisits.findPath 5 "visit" "invoice" 2 = some (some ["visit", "repair", "invoice"]) :=
  rfl

end ControlFabric.Fabric
