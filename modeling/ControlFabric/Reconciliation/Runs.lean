import ControlFabric.Reconciliation.Stages
import ControlFabric.Fabric.Repository

/-! A whole run: what it fetches, its scored candidates, and the outcomes it ends with. -/
namespace ControlFabric.Fabric.Reconciliation
open Lib

/-! ### Assembly -/

namespace ReconciliationAssembler
variable {rt : Runtime} {matchThreshold : ℚ}

theorem alreadyInOutcome_iff {outcomes : List ReconciliationOutcome}
    {mismatch : ReconciliationMismatch} : alreadyInOutcome outcomes mismatch ↔
      ∃ outcome ∈ outcomes, ∃ m ∈ outcome.mismatches, m.id = mismatch.id := by
  simp [alreadyInOutcome]

/-- Mismatches with new identifiers all become outcomes. -/
theorem foldl_addMismatch {mismatches : List ReconciliationMismatch}
    {outcomes : List ReconciliationOutcome}
    (hfresh : ∀ mismatch ∈ mismatches, ∀ outcome ∈ outcomes, ∀ m ∈ outcome.mismatches,
      m.id ≠ mismatch.id)
    (hnodup : (mismatches.map ReconciliationMismatch.id).Nodup) :
    mismatches.foldl addMismatch outcomes = outcomes ++ mismatches.map mismatchOutcome := by
  induction mismatches generalizing outcomes with
  | nil => simp
  | cons mismatch mismatches ih =>
    obtain ⟨hhead, htail⟩ := List.forall_mem_cons.mp hfresh
    obtain ⟨hnew, hnodup⟩ := List.nodup_cons.mp hnodup
    have hno : ¬ alreadyInOutcome outcomes mismatch := by
      rw [alreadyInOutcome_iff]
      rintro ⟨outcome, houtcome, m, hm, heq⟩
      exact hhead outcome houtcome m hm heq
    have hadd : addMismatch outcomes mismatch = outcomes ++ [mismatchOutcome mismatch] :=
      if_neg hno
    rw [List.foldl_cons, hadd, ih ?_ hnodup, List.map_cons, List.append_assoc,
      List.singleton_append]
    intro mismatch' hmismatch' outcome houtcome m hm
    rcases List.mem_append.mp houtcome with houtcome | houtcome
    · exact htail mismatch' hmismatch' outcome houtcome m hm
    · obtain rfl := List.mem_singleton.mp houtcome
      obtain rfl := List.mem_singleton.mp hm
      exact fun heq => hnew (heq ▸ List.mem_map_of_mem hmismatch')

/-- Whatever their identifiers, the mismatches that become outcomes are added at the end. -/
theorem foldl_addMismatch_sublist (mismatches : List ReconciliationMismatch)
    (outcomes : List ReconciliationOutcome) : ∃ added : List ReconciliationMismatch,
      added.Sublist mismatches ∧
        mismatches.foldl addMismatch outcomes = outcomes ++ added.map mismatchOutcome := by
  induction mismatches generalizing outcomes with
  | nil => exact ⟨[], List.Sublist.refl _, by simp⟩
  | cons mismatch mismatches ih =>
    obtain ⟨added, hsub, hfold⟩ := ih (addMismatch outcomes mismatch)
    rw [List.foldl_cons, hfold]
    unfold addMismatch
    split
    · exact ⟨added, hsub.cons _, rfl⟩
    · exact ⟨mismatch :: added, hsub.cons_cons _, by simp⟩

/-- The outcome of a leading candidate shows all that a rule reported for it. -/
theorem topOutcome_eq_some {top : MatchCandidate} {outcome : ReconciliationOutcome} :
    topOutcome matchThreshold top = some outcome ↔
      matchThreshold ≤ top.score ∧ outcome = pairOutcome .fullyReconciled top ∨
        top.score < matchThreshold ∧ 0 < top.score ∧
          outcome = pairOutcome .candidateMatch top := by
  unfold topOutcome
  split_ifs with hfull hpositive
  · simp [hfull, not_lt.mpr hfull, eq_comm]
  · simp [hfull, hpositive, not_le.mp hfull, eq_comm]
  · simp [hfull, hpositive]

end ReconciliationAssembler

theorem EvidenceSufficiencyEvaluator.getInsufficient_nil (objects : List ControlObject) :
    getInsufficient [] objects = [] := by
  rw [getInsufficient, List.filter_eq_nil_iff]
  intro r hr
  obtain ⟨obj, -, rfl⟩ := List.mem_map.mp hr
  simp [evaluateObject]

namespace ReconciliationOrchestrator

/-! ### Objects and candidates -/

section Candidates
variable {rt : Runtime} {ops : ValueOps} {o : ReconciliationOrchestrator} {n : ℕ} {d : GraphData}
  {c : MatchCandidate}

theorem mem_objectsById {id : String} : id ∈ objectsById d ↔
    id ∈ (d.sourceObjects ++ d.targetObjects).map ControlObject.id := by
  unfold objectsById
  rw [Dict.mem_foldl_set]
  simp

theorem objectsById_get? {id : String} {obj : ControlObject}
    (h : (objectsById d).get? id = some obj) :
    obj ∈ d.sourceObjects ++ d.targetObjects ∧ obj.id = id :=
  (Dict.get?_foldl_set h).resolve_right (by simp)

theorem mem_candidates (h : c ∈ candidates d) :
    c.sourceObjectId ∈ d.sourceObjects.map ControlObject.id ∧
      c.targetObjectId ∈ d.targetObjects.map ControlObject.id := by
  obtain ⟨src, hsrc, tgt, htgt, matchMethod, rfl⟩ := CandidateGenerator.mem_generate h
  exact ⟨List.mem_map_of_mem hsrc, List.mem_map_of_mem htgt⟩

theorem candidates_resolved :
    ∀ c ∈ candidates d, CandidateScorer.Resolved (objectsById d) c := by
  intro c hc
  obtain ⟨hsource, htarget⟩ := mem_candidates hc
  constructor
  · rw [mem_objectsById, List.map_append]
    exact List.mem_append_left _ hsource
  · rw [mem_objectsById, List.map_append]
    exact List.mem_append_right _ htarget

theorem scoredCandidates_pairs : (o.scoredCandidates rt ops n d).map MatchCandidate.pair =
    (candidates d).map MatchCandidate.pair :=
  CandidateScorer.scoreAll_pairs candidates_resolved n

theorem scoredCandidates_pairs_nodup :
    ((o.scoredCandidates rt ops n d).map MatchCandidate.pair).Nodup := by
  rw [scoredCandidates_pairs]
  exact CandidateGenerator.generate_nodup

theorem scoredCandidates_nodup : (o.scoredCandidates rt ops n d).Nodup :=
  scoredCandidates_pairs_nodup.of_map _

theorem mem_scoredCandidates (h : c ∈ o.scoredCandidates rt ops n d) :
    c.sourceObjectId ∈ d.sourceObjects.map ControlObject.id ∧
      c.targetObjectId ∈ d.targetObjects.map ControlObject.id := by
  have hpair : c.pair ∈ (o.scoredCandidates rt ops n d).map MatchCandidate.pair :=
    List.mem_map_of_mem h
  rw [scoredCandidates_pairs] at hpair
  obtain ⟨c₀, hc₀, heq⟩ := List.mem_map.mp hpair
  obtain ⟨hsource, htarget⟩ := Prod.mk.inj heq
  rw [← hsource, ← htarget]
  exact mem_candidates hc₀

end Candidates

/-! ### Draws -/

section Draws
variable (rt : Runtime) (ops : ValueOps) (o : ReconciliationOrchestrator) (n : ℕ)
  (request : ReconciliationRequest) (d : GraphData)

/-- The draw after those of all mismatches of the run. -/
def lastDraw : ℕ := o.assemblyDraw rt ops n request d + (o.duplicates rt ops n d).length

/-- No two mismatches of the run are drawn the same identifier. -/
def DrawsDistinct : Prop :=
  Set.InjOn rt.uuid4 (Set.Ico n (o.lastDraw rt ops n request d))

def extraMismatches : List ReconciliationMismatch :=
  buildMismatches rt (o.extraDraw rt ops n d) (o.extraReports rt ops n request d)

theorem draws_le : n ≤ o.extraDraw rt ops n d ∧
    o.extraDraw rt ops n d ≤ o.assemblyDraw rt ops n request d ∧
    o.assemblyDraw rt ops n request d ≤ o.lastDraw rt ops n request d :=
  ⟨Nat.le_add_right _ _, Nat.le_add_right _ _, Nat.le_add_right _ _⟩

variable {rt ops o n request d}

/-- The mismatches of the candidates are drawn first. -/
theorem candidate_draw {c : MatchCandidate} (hc : c ∈ o.scoredCandidates rt ops n d)
    {m : ReconciliationMismatch} (hm : m ∈ c.mismatches) :
    ∃ i, n ≤ i ∧ i < o.extraDraw rt ops n d ∧ m.id = rt.uuid4 i := by
  have hid : m.id ∈ ((o.scoredCandidates rt ops n d).flatMap
      MatchCandidate.mismatches).map ReconciliationMismatch.id :=
    List.mem_map_of_mem (List.mem_flatMap.mpr ⟨c, hc, hm⟩)
  rw [scoredCandidates, CandidateScorer.scoreAll_ids] at hid
  obtain ⟨i, hi, heq⟩ := List.mem_map.mp hid
  obtain ⟨hle, hlt⟩ := List.mem_range'_1.mp hi
  exact ⟨i, hle, hlt, heq.symm⟩

/-- Then the missing objects and the identifier conflicts are. -/
theorem extra_draw {m : ReconciliationMismatch} (hm : m ∈ o.extraMismatches rt ops n request d) :
    ∃ i, o.extraDraw rt ops n d ≤ i ∧ i < o.assemblyDraw rt ops n request d ∧
      m.id = rt.uuid4 i := by
  have hid : m.id ∈ (o.extraMismatches rt ops n request d).map ReconciliationMismatch.id :=
    List.mem_map_of_mem hm
  rw [extraMismatches, buildMismatches_ids] at hid
  obtain ⟨i, hi, heq⟩ := List.mem_map.mp hid
  obtain ⟨hle, hlt⟩ := List.mem_range'_1.mp hi
  exact ⟨i, hle, hlt, heq.symm⟩

theorem DrawsDistinct.ne (h : o.DrawsDistinct rt ops n request d) {i j : ℕ} (hi : n ≤ i)
    (hij : i < j) (hj : j < o.lastDraw rt ops n request d) : rt.uuid4 i ≠ rt.uuid4 j := by
  intro heq
  have := h ⟨hi, hij.trans hj⟩ ⟨hi.trans hij.le, hj⟩ heq
  omega

/-- The reference runtime draws distinct identifiers for long. -/
theorem drawsDistinct_reference (h : o.lastDraw .reference ops n request d ≤ 16 ^ 12) :
    o.DrawsDistinct .reference ops n request d :=
  Runtime.reference_uuid4.mono fun _ hi => hi.2.trans_le h

theorem DrawsDistinct.extra_nodup (h : o.DrawsDistinct rt ops n request d) :
    ((o.extraMismatches rt ops n request d).map ReconciliationMismatch.id).Nodup := by
  rw [extraMismatches, buildMismatches_ids]
  obtain ⟨hn, -, hlast⟩ := o.draws_le rt ops n request d
  apply List.Nodup.map_on _ List.nodup_range'
  intro i hi j hj heq
  obtain ⟨hi, hi'⟩ := List.mem_range'_1.mp hi
  obtain ⟨hj, hj'⟩ := List.mem_range'_1.mp hj
  exact h ⟨hn.trans hi, lt_of_lt_of_le hi' hlast⟩ ⟨hn.trans hj, lt_of_lt_of_le hj' hlast⟩ heq

end Draws

/-! ### Outcomes -/

section Outcomes
variable (rt : Runtime) (ops : ValueOps) (o : ReconciliationOrchestrator) (n : ℕ)
  (request : ReconciliationRequest) (d : GraphData)

def rankingOutcomes : List ReconciliationOutcome :=
  (o.rankings rt ops n d).filterMap (ReconciliationAssembler.rankingOutcome o.matchThreshold)

def duplicateOutcomes : List ReconciliationOutcome :=
  (o.duplicates rt ops n d).mapIdx fun i dupSet =>
    ReconciliationAssembler.duplicateOutcome dupSet
      (rt.uuid4 (o.assemblyDraw rt ops n request d + i))

def gapOutcomes (request : ReconciliationRequest) (d : GraphData) : List ReconciliationOutcome :=
  let coverage :=
    CoverageAnalyzer.analyze (d.sourceObjects ++ d.targetObjects) request.coverageExpectations
  if ¬ coverage.isFullyCovered then coverage.gaps.map ReconciliationAssembler.gapOutcome else []

def extraOutcomes : List ReconciliationOutcome :=
  (o.extraMismatches rt ops n request d).map ReconciliationAssembler.mismatchOutcome

theorem firstOutcomes_eq : ReconciliationAssembler.firstOutcomes rt o.matchThreshold
      (o.assemblyDraw rt ops n request d) (o.assemblyInput rt ops n request d) =
    o.rankingOutcomes rt ops n d ++ o.duplicateOutcomes rt ops n request d ++
      gapOutcomes request d := by
  have hevidence : (o.assemblyInput rt ops n request d).evidenceResults = [] :=
    EvidenceSufficiencyEvaluator.getInsufficient_nil _
  unfold ReconciliationAssembler.firstOutcomes
  rw [hevidence, List.filter_nil, List.mapIdx_nil, List.append_nil]
  rfl

variable {rt ops o n request d}

theorem mem_rankingOutcomes {outcome : ReconciliationOutcome} :
    outcome ∈ o.rankingOutcomes rt ops n d ↔
      ∃ c, Leading (o.scoredCandidates rt ops n d) c ∧
        ReconciliationAssembler.topOutcome o.matchThreshold c = some outcome :=
  DuplicateDetector.mem_rankingOutcomes

theorem mem_duplicateOutcomes {outcome : ReconciliationOutcome} :
    outcome ∈ o.duplicateOutcomes rt ops n request d ↔
      ∃ i, ∃ dupSet, (o.duplicates rt ops n d)[i]? = some dupSet ∧
        outcome = ReconciliationAssembler.duplicateOutcome dupSet
          (rt.uuid4 (o.assemblyDraw rt ops n request d + i)) := by
  unfold duplicateOutcomes
  rw [List.mem_mapIdx]
  constructor
  · rintro ⟨i, hi, rfl⟩
    exact ⟨i, _, List.getElem?_eq_getElem hi, rfl⟩
  · rintro ⟨i, dupSet, hget, rfl⟩
    obtain ⟨hi, rfl⟩ := List.getElem?_eq_some_iff.mp hget
    exact ⟨i, hi, rfl⟩

theorem mem_gapOutcomes {outcome : ReconciliationOutcome} (h : outcome ∈ gapOutcomes request d) :
    ∃ gap, outcome = ReconciliationAssembler.gapOutcome gap := by
  unfold gapOutcomes at h
  dsimp only at h
  split at h
  · obtain ⟨gap, -, rfl⟩ := List.mem_map.mp h
    exact ⟨gap, rfl⟩
  · exact absurd h List.not_mem_nil

/-- What a run ends with, up to the mismatches that do not become outcomes. -/
theorem outcomes_eq_append (rt : Runtime) (ops : ValueOps) (o : ReconciliationOrchestrator) (n : ℕ)
    (request : ReconciliationRequest) (d : GraphData) : ∃ added : List ReconciliationMismatch,
      o.outcomes rt ops n request d =
        o.rankingOutcomes rt ops n d ++ o.duplicateOutcomes rt ops n request d ++
          gapOutcomes request d ++ added.map ReconciliationAssembler.mismatchOutcome := by
  obtain ⟨added, -, hfold⟩ := ReconciliationAssembler.foldl_addMismatch_sublist
    (o.extraMismatches rt ops n request d)
    (o.rankingOutcomes rt ops n d ++ o.duplicateOutcomes rt ops n request d ++
      gapOutcomes request d)
  refine ⟨added, ?_⟩
  unfold outcomes ReconciliationAssembler.assemble
  rw [firstOutcomes_eq]
  exact hfold

/-- What a run ends with when its draws are distinct. -/
theorem outcomes_eq (h : o.DrawsDistinct rt ops n request d) : o.outcomes rt ops n request d =
    o.rankingOutcomes rt ops n d ++ o.duplicateOutcomes rt ops n request d ++
      gapOutcomes request d ++ o.extraOutcomes rt ops n request d := by
  have hfresh : ∀ mismatch ∈ o.extraMismatches rt ops n request d,
      ∀ outcome ∈ o.rankingOutcomes rt ops n d ++ o.duplicateOutcomes rt ops n request d ++
        gapOutcomes request d, ∀ m ∈ outcome.mismatches, m.id ≠ mismatch.id := by
    intro mismatch hmismatch outcome houtcome m hm
    obtain ⟨i, hi, hi', hid⟩ := extra_draw hmismatch
    obtain ⟨hn, -, hlast⟩ := o.draws_le rt ops n request d
    rw [hid]
    rcases List.mem_append.mp houtcome with houtcome | houtcome
    · rcases List.mem_append.mp houtcome with houtcome | houtcome
      · obtain ⟨c, hc, htop⟩ := mem_rankingOutcomes.mp houtcome
        have hm' : m ∈ c.mismatches := by
          rcases ReconciliationAssembler.topOutcome_eq_some.mp htop with ⟨-, rfl⟩ | ⟨-, -, rfl⟩
          · exact hm
          · exact hm
        obtain ⟨j, hj, hj', hmid⟩ := candidate_draw hc.mem hm'
        rw [hmid]
        exact h.ne hj (lt_of_lt_of_le hj' hi) (lt_of_lt_of_le hi' hlast)
      · obtain ⟨j, dupSet, hget, rfl⟩ := mem_duplicateOutcomes.mp houtcome
        obtain rfl := List.mem_singleton.mp hm
        obtain ⟨hj, -⟩ := List.getElem?_eq_some_iff.mp hget
        have hlt : o.assemblyDraw rt ops n request d + j < o.lastDraw rt ops n request d :=
          Nat.add_lt_add_left hj _
        exact (h.ne (hn.trans hi) (by omega) hlt).symm
    · obtain ⟨gap, rfl⟩ := mem_gapOutcomes houtcome
      exact absurd hm List.not_mem_nil
  unfold outcomes ReconciliationAssembler.assemble
  rw [firstOutcomes_eq]
  exact ReconciliationAssembler.foldl_addMismatch hfresh h.extra_nodup

theorem mem_outcomes (h : o.DrawsDistinct rt ops n request d) {outcome : ReconciliationOutcome} :
    outcome ∈ o.outcomes rt ops n request d ↔
      outcome ∈ o.rankingOutcomes rt ops n d ∨ outcome ∈ o.duplicateOutcomes rt ops n request d ∨
        outcome ∈ gapOutcomes request d ∨ outcome ∈ o.extraOutcomes rt ops n request d := by
  rw [outcomes_eq h, List.mem_append, List.mem_append, List.mem_append, or_assoc, or_assoc]

end Outcomes

/-! ### Fetching -/

section Fetch
variable {repo : InMemoryGraphRepository} {request : ReconciliationRequest} {fuel : ℕ}

/-- Splitting by plane keeps all objects. -/
theorem mem_splitByPlane {planes : List PlaneType} {allObjects : List ControlObject}
    {links : List ControlLink} {obj : ControlObject} :
    obj ∈ (splitByPlane planes allObjects links).sourceObjects ++
        (splitByPlane planes allObjects links).targetObjects ↔ obj ∈ allObjects := by
  rw [List.mem_append]
  unfold splitByPlane
  split
  next plane =>
    simp only [List.mem_filter, decide_eq_true_eq]
    rw [← and_or_left]
    exact and_iff_left (em _)
  next => simp

def slicePlanes (scope : ReconciliationScope) : Option (List PlaneType) :=
  if scope.planes = [] then none else some scope.planes

theorem fetchGraphData_slice (hroots : request.target.graphSliceRootIds ≠ [])
    (hfuel : request.target.graphSliceRootIds.length + repo.objects.keys.length < fuel) :
    ∃ visited : List String, visited.Nodup ∧
      (∀ id, id ∈ visited ↔ repo.InSlice 5 (slicePlanes request.scope) none
        request.target.graphSliceRootIds id) ∧
      fetchGraphData fuel repo request = some (fetchSlice repo request.scope
        ((visited.filterMap repo.objects.get?).map ControlObject.id)) := by
  obtain ⟨visited, links, hslice, hnodup, hvisited⟩ :=
    repo.getGraphSlice_exact 5 (slicePlanes request.scope) none
      request.target.graphSliceRootIds hfuel
  refine ⟨visited, hnodup, hvisited, ?_⟩
  unfold fetchGraphData
  dsimp only
  rw [if_pos hroots]
  unfold slicePlanes at hslice
  rw [hslice]
  rfl

theorem fetchGraphData_ids (hroots : request.target.graphSliceRootIds = [])
    (hids : request.target.objectIds ≠ []) : fetchGraphData fuel repo request =
      some (fetchByIds repo request.scope request.target.objectIds) := by
  unfold fetchGraphData
  dsimp only
  rw [if_neg (not_not.mpr hroots), if_pos hids]

theorem fetchGraphData_filters (hroots : request.target.graphSliceRootIds = [])
    (hids : request.target.objectIds = []) :
    fetchGraphData fuel repo request = some (fetchByFilters repo request.scope) := by
  unfold fetchGraphData
  dsimp only
  rw [if_neg (not_not.mpr hroots), if_neg (not_not.mpr hids)]

/-- With enough fuel for a slice the objects are fetched. -/
theorem fetchGraphData_returns
    (hfuel : request.target.graphSliceRootIds.length + repo.objects.keys.length < fuel) :
    ∃ d, fetchGraphData fuel repo request = some d := by
  by_cases hroots : request.target.graphSliceRootIds = []
  · by_cases hids : request.target.objectIds = []
    · exact ⟨_, fetchGraphData_filters hroots hids⟩
    · exact ⟨_, fetchGraphData_ids hroots hids⟩
  · obtain ⟨visited, -, -, hfetch⟩ := fetchGraphData_slice hroots hfuel
    exact ⟨_, hfetch⟩

theorem execute_of_fetch (rt : Runtime) (ops : ValueOps) {o : ReconciliationOrchestrator} (n : ℕ)
    {d : GraphData} (h : fetchGraphData fuel o.graph.repo request = some d) :
    o.execute rt ops n request fuel = some (o.reconcile rt ops n request d) := by
  unfold execute
  rw [h]
  rfl

end Fetch
end ReconciliationOrchestrator
end ControlFabric.Fabric.Reconciliation
