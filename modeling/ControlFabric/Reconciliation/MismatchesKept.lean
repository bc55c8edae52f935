import ControlFabric.Reconciliation.Accounted

/-! Which mismatches of the leading candidates reach an outcome: those of the candidates that are
reported, so not those of a candidate that a rule has failed. -/
namespace ControlFabric.Fabric.Reconciliation
open Lib

/-- What the rules report for a leading candidate stands in an outcome that has a case. -/
def ReconciliationExecutionResult.KeepsMismatches (result : ReconciliationExecutionResult)
    (candidates : List MatchCandidate) : Prop :=
  ∀ c, Leading candidates c → ∀ m ∈ c.mismatches, ∃ outcome ∈ result.outcomes,
    m ∈ outcome.mismatches ∧ ∃ case ∈ result.cases, case.outcome = outcome

namespace ReconciliationOrchestrator

/-- A leading candidate with mismatches reaches the threshold or has a positive score. -/
def MismatchedReported (rt : Runtime) (ops : ValueOps) (o : ReconciliationOrchestrator) (n : ℕ)
    (d : GraphData) : Prop :=
  ∀ c ∈ o.scoredCandidates rt ops n d, Leading (o.scoredCandidates rt ops n d) c →
    c.mismatches ≠ [] → Reported o.matchThreshold c

instance (rt : Runtime) (ops : ValueOps) (o : ReconciliationOrchestrator) (n : ℕ) (d : GraphData) :
    Decidable (o.MismatchedReported rt ops n d) := by
  unfold MismatchedReported
  infer_instance

variable {rt : Runtime} {ops : ValueOps} {o : ReconciliationOrchestrator} {n : ℕ}
  {request : ReconciliationRequest} {d : GraphData} {c c' : MatchCandidate}
  {m : ReconciliationMismatch}

/-- A mismatch belongs to one candidate. -/
theorem DrawsDistinct.candidate_unique (h : o.DrawsDistinct rt ops n request d)
    (hc : c ∈ o.scoredCandidates rt ops n d) (hc' : c' ∈ o.scoredCandidates rt ops n d)
    (hm : m ∈ c.mismatches) (hm' : m ∈ c'.mismatches) : c = c' := by
  obtain ⟨-, hextra, hlast⟩ := o.draws_le rt ops n request d
  have hnodup : (((o.scoredCandidates rt ops n d).flatMap
      MatchCandidate.mismatches).map ReconciliationMismatch.id).Nodup := by
    rw [scoredCandidates, CandidateScorer.scoreAll_ids]
    apply List.Nodup.map_on _ List.nodup_range'
    intro i hi j hj heq
    obtain ⟨hi, hi'⟩ := List.mem_range'_1.mp hi
    obtain ⟨hj, hj'⟩ := List.mem_range'_1.mp hj
    have hbound : ∀ k, k < o.extraDraw rt ops n d → k < o.lastDraw rt ops n request d :=
      fun k hk => hk.trans_le (hextra.trans hlast)
    exact h ⟨hi, hbound i hi'⟩ ⟨hj, hbound j hj'⟩ heq
  have hpairwise := (List.nodup_flatMap.mp hnodup.of_map).2
  have hsymm : Std.Symm (Function.onFun List.Disjoint MatchCandidate.mismatches) :=
    ⟨fun _ _ hdisjoint => List.Disjoint.symm hdisjoint⟩
  by_contra hne
  exact hpairwise.forall hc hc' hne hm hm'

/-- The outcomes that show a mismatch of a candidate. -/
theorem shows_mismatch_iff (h : o.DrawsDistinct rt ops n request d)
    (hc : c ∈ o.scoredCandidates rt ops n d) (hm : m ∈ c.mismatches)
    {outcome : ReconciliationOutcome} :
    (outcome ∈ o.outcomes rt ops n request d ∧ m ∈ outcome.mismatches) ↔
      Leading (o.scoredCandidates rt ops n d) c ∧
        ReconciliationAssembler.topOutcome o.matchThreshold c = some outcome := by
  obtain ⟨i, hi, hi', hid⟩ := candidate_draw hc hm
  obtain ⟨hn, hextra, hlast⟩ := o.draws_le rt ops n request d
  constructor
  · rintro ⟨houtcome, hmem⟩
    rcases (mem_outcomes h).mp houtcome with hrank | hdup | hgap | hother
    · obtain ⟨top, htop, hresult⟩ := mem_rankingOutcomes.mp hrank
      obtain ⟨-, outcomeType, rfl⟩ := reported_of_topOutcome hresult
      obtain rfl := h.candidate_unique hc htop.mem hm hmem
      exact ⟨htop, hresult⟩
    · obtain ⟨j, dupSet, hget, rfl⟩ := mem_duplicateOutcomes.mp hdup
      obtain rfl := List.mem_singleton.mp hmem
      obtain ⟨hj, -⟩ := List.getElem?_eq_some_iff.mp hget
      have hlt : o.assemblyDraw rt ops n request d + j < o.lastDraw rt ops n request d :=
        Nat.add_lt_add_left hj _
      exact absurd hid.symm (h.ne hi (by omega) hlt)
    · obtain ⟨gap, rfl⟩ := mem_gapOutcomes hgap
      exact absurd hmem List.not_mem_nil
    · obtain ⟨m', hm', rfl⟩ := List.mem_map.mp hother
      obtain rfl := List.mem_singleton.mp hmem
      obtain ⟨j, hj, hj', hjd⟩ := extra_draw hm'
      exact absurd (hid.symm.trans hjd) (h.ne hi (by omega) (by omega))
  · rintro ⟨hlead, hresult⟩
    refine ⟨(mem_outcomes h).mpr (Or.inl (mem_rankingOutcomes.mpr ⟨c, hlead, hresult⟩)), ?_⟩
    obtain ⟨-, outcomeType, rfl⟩ := reported_of_topOutcome hresult
    exact hm

/-- An outcome with a mismatch has a case. -/
theorem exists_case {outcome : ReconciliationOutcome}
    (houtcome : outcome ∈ o.outcomes rt ops n request d) (hm : m ∈ outcome.mismatches) :
    ∃ case ∈ o.cases rt ops n request d, case.outcome = outcome := by
  have hneeds : needsCase outcome := by
    have hne := List.ne_nil_of_mem hm
    simp [needsCase, hne]
  exact ⟨_, List.mem_map_of_mem (List.mem_filter.mpr ⟨houtcome, hneeds⟩), rfl⟩

/-- A run keeps the mismatches of its leading candidates exactly when those with mismatches are
reported. -/
theorem keepsMismatches_iff (h : o.DrawsDistinct rt ops n request d) :
    (o.reconcile rt ops n request d).KeepsMismatches (o.scoredCandidates rt ops n d) ↔
      o.MismatchedReported rt ops n d := by
  constructor
  · intro hkeeps c hc hlead hne
    obtain ⟨m, hm⟩ := List.exists_mem_of_ne_nil _ hne
    obtain ⟨outcome, houtcome, hmem, -⟩ := hkeeps c hlead m hm
    obtain ⟨-, hresult⟩ := (shows_mismatch_iff h hc hm).mp ⟨houtcome, hmem⟩
    exact (reported_of_topOutcome hresult).1
  · intro hreported c hlead m hm
    have hc := hlead.mem
    obtain ⟨outcomeType, hresult⟩ :=
      topOutcome_of_reported (hreported c hc hlead (List.ne_nil_of_mem hm))
    obtain ⟨houtcome, hmem⟩ := (shows_mismatch_iff h hc hm).mpr ⟨hlead, hresult⟩
    exact ⟨_, houtcome, hmem, exists_case houtcome hmem⟩

/-- With enough fuel a run ends, and it keeps the mismatches of its leading candidates exactly when
those with mismatches are reported. -/
theorem execute_keepsMismatches_iff (rt : Runtime) (ops : ValueOps)
    (o : ReconciliationOrchestrator) (n : ℕ) (request : ReconciliationRequest) (fuel : ℕ)
    (hfuel : request.target.graphSliceRootIds.length + o.graph.repo.objects.keys.length < fuel) :
    ∃ d result, fetchGraphData fuel o.graph.repo request = some d ∧
      o.execute rt ops n request fuel = some result ∧
      (o.DrawsDistinct rt ops n request d →
        (result.KeepsMismatches (o.scoredCandidates rt ops n d) ↔
          o.MismatchedReported rt ops n d)) := by
  obtain ⟨d, hfetch⟩ := fetchGraphData_returns hfuel
  exact ⟨d, o.reconcile rt ops n request d, hfetch, execute_of_fetch rt ops n hfetch,
    fun h => keepsMismatches_iff h⟩

end ReconciliationOrchestrator

/-! ### A contradicted pair -/

/-- A link of the tenant between the two planes. -/
def crossLink (id : String) (linkType : ControlLinkType) (sourceId targetId : String) :
    ControlLink where
  id := id
  tenantId := "north"
  sourceId := sourceId
  targetId := targetId
  linkType := linkType
  directionality := linkType.linkDirectionality
  sourcePlane := some .commercial
  targetPlane := some .field
  weight := 1
  confidence := 1
  evidence := []
  metadata := []
  createdAt := Runtime.reference.now 0

/-- A bill and a report of one order, and a link that says they contradict each other. -/
def contradicting : ReconciliationOrchestrator where
  graph := storing [keyedObject "bill" .commercial [("order", "7")],
    keyedObject "report" .field [("order", "7")]] [crossLink "l" .contradicts "bill" "report"]
  ruleRegistry := buildDefaultRuleRegistry .exact

namespace ReconciliationOrchestrator

theorem contradicting_fetches : fetchGraphData 3 contradicting.graph.repo commercialToField =
    some (fetchByFilters contradicting.graph.repo commercialToField.scope) :=
  fetchGraphData_filters rfl rfl

theorem contradicting_draws : contradicting.DrawsDistinct .reference .exact 0 commercialToField
    (fetchByFilters contradicting.graph.repo commercialToField.scope) :=
  drawsDistinct_reference (by decide +kernel)

theorem execute_keepsMismatches_contradicting : ∃ d result,
    fetchGraphData 3 contradicting.graph.repo commercialToField = some d ∧
      contradicting.execute .reference .exact 0 commercialToField 3 = some result ∧
      (result.KeepsMismatches (contradicting.scoredCandidates .reference .exact 0 d) ↔
        contradicting.MismatchedReported .reference .exact 0 d) := by
  obtain ⟨d, result, hfetch, hexecute, hiff⟩ :=
    execute_keepsMismatches_iff .reference .exact contradicting 0 commercialToField 3 (by decide)
  have hd := Option.some.inj (hfetch.symm.trans contradicting_fetches)
  exact ⟨d, result, hfetch, hexecute, hiff (hd ▸ contradicting_draws)⟩

/-- The rule that finds the contradiction fails the pair, and its mismatch is in no outcome. -/
theorem execute_loses_contradiction : ∃ d result,
    fetchGraphData 3 contradicting.graph.repo commercialToField = some d ∧
      contradicting.execute .reference .exact 0 commercialToField 3 = some result ∧
      contradicting.DrawsDistinct .reference .exact 0 commercialToField d ∧
      ¬ result.KeepsMismatches (contradicting.scoredCandidates .reference .exact 0 d) := by
  refine ⟨_, _, contradicting_fetches, execute_of_fetch _ _ _ contradicting_fetches,
    contradicting_draws, ?_⟩
  rw [keepsMismatches_iff contradicting_draws]
  decide +kernel

end ReconciliationOrchestrator
end ControlFabric.Fabric.Reconciliation
