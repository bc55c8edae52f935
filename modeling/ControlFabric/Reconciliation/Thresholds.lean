import ControlFabric.Reconciliation.OneToOne

/-! A run is decided by the thresholds of the orchestrator, and its plan records those of the
request. They agree on a run whose scores lie on one side of both. -/
namespace ControlFabric.Fabric.Reconciliation
open Lib

theorem CloseToTop.mono {ops : ValueOps} {gap gap' : ℚ} (h : gap ≤ gap')
    {candidates : List MatchCandidate} {c : MatchCandidate}
    (hc : CloseToTop ops gap candidates c) : CloseToTop ops gap' candidates c := by
  obtain ⟨hmem, top, htop, hsource, hclose⟩ := hc
  refine ⟨hmem, top, htop, hsource, ?_⟩
  unfold DuplicateDetector.isClose at hclose ⊢
  simp only [decide_eq_true_eq] at hclose ⊢
  exact hclose.trans h

theorem Grouped.mono {ops : ValueOps} {gap gap' : ℚ} (h : gap ≤ gap')
    {candidates : List MatchCandidate} {c : MatchCandidate}
    (hc : Grouped ops gap candidates c) : Grouped ops gap' candidates c := by
  obtain ⟨hclose, c', hclose', hsource, hne⟩ := hc
  exact ⟨hclose.mono h, c', hclose'.mono h, hsource, hne⟩

/-- Two candidates of one source that are close to the top by the larger gap are by the other. -/
def GapsClear (ops : ValueOps) (gap gap' : ℚ) (candidates : List MatchCandidate) : Prop :=
  ∀ c ∈ candidates, ∀ c' ∈ candidates, c'.sourceObjectId = c.sourceObjectId → c' ≠ c →
    CloseToTop ops (max gap gap') candidates c → CloseToTop ops (max gap gap') candidates c' →
      CloseToTop ops (min gap gap') candidates c

instance (ops : ValueOps) (gap gap' : ℚ) (candidates : List MatchCandidate) :
    Decidable (GapsClear ops gap gap' candidates) := by
  unfold GapsClear
  infer_instance

section Gaps
variable {ops : ValueOps} {gap gap' : ℚ} {candidates : List MatchCandidate}

theorem gapsClear_comm : GapsClear ops gap gap' candidates ↔ GapsClear ops gap' gap candidates := by
  unfold GapsClear
  rw [max_comm gap gap', min_comm gap gap']

theorem gapsClear_iff_of_le (h : gap ≤ gap') : GapsClear ops gap gap' candidates ↔
    ∀ c, Grouped ops gap' candidates c → Grouped ops gap candidates c := by
  unfold GapsClear
  rw [max_eq_right h, min_eq_left h]
  constructor
  · rintro hclear c ⟨hclose, c', hclose', hsource, hne⟩
    exact ⟨hclear c hclose.1 c' hclose'.1 hsource hne hclose hclose', c',
      hclear c' hclose'.1 c hclose.1 hsource.symm hne.symm hclose' hclose, hsource, hne⟩
  · intro hgrouped c _ c' _ hsource hne hclose hclose'
    exact (hgrouped c ⟨hclose, c', hclose', hsource, hne⟩).1

/-- Two gaps group the same candidates exactly when no pair lies between them. -/
theorem gapsClear_iff : GapsClear ops gap gap' candidates ↔
    ∀ c, Grouped ops gap candidates c ↔ Grouped ops gap' candidates c := by
  rcases le_total gap gap' with hle | hle
  · rw [gapsClear_iff_of_le hle]
    exact forall_congr' fun c => ⟨fun h => ⟨Grouped.mono hle, h⟩, Iff.mpr⟩
  · rw [gapsClear_comm, gapsClear_iff_of_le hle]
    exact forall_congr' fun c => ⟨fun h => ⟨h, Grouped.mono hle⟩, Iff.mp⟩

end Gaps

/-- A score reaches both thresholds or neither when it does not lie between them. -/
theorem clear_iff {t t' score : ℚ} : score < min t t' ∨ max t t' ≤ score ↔
    (t ≤ score ↔ t' ≤ score) := by
  rw [lt_min_iff, max_le_iff]
  constructor
  · rintro (⟨ht, ht'⟩ | ⟨ht, ht'⟩)
    · exact iff_of_false (not_le.mpr ht) (not_le.mpr ht')
    · exact iff_of_true ht ht'
  · intro hiff
    by_cases ht : t ≤ score
    · exact Or.inr ⟨ht, hiff.mp ht⟩
    · exact Or.inl ⟨not_le.mp ht, not_le.mp (mt hiff.mpr ht)⟩

/-- The leading candidates are reconciled, and the close ones grouped, by the recorded plan. -/
structure ReconciliationExecutionResult.FollowsPlan (ops : ValueOps)
    (result : ReconciliationExecutionResult) (candidates : List MatchCandidate) : Prop where
  reconciles : ∀ c, Leading candidates c →
    ((∃ outcome ∈ result.fullyReconciled, outcome.candidate = some c) ↔
      result.executionPlan.matchThreshold ≤ c.score)
  groups : ∀ c ∈ candidates,
    ((∃ outcome ∈ result.outcomes, outcome.outcomeType = .duplicateDetected ∧
        outcome.sourceObjectId = some c.sourceObjectId ∧
        c.targetObjectId ∈ outcome.duplicateTargetIds) ↔
      Grouped ops result.executionPlan.duplicateThreshold candidates c)

namespace ReconciliationOrchestrator

/-- No leading score lies between the thresholds of the orchestrator and of the request, and no
close candidates do between their gaps. -/
def ThresholdsClear (rt : Runtime) (ops : ValueOps) (o : ReconciliationOrchestrator) (n : ℕ)
    (request : ReconciliationRequest) (d : GraphData) : Prop :=
  (∀ c ∈ o.scoredCandidates rt ops n d, Leading (o.scoredCandidates rt ops n d) c →
    c.score < min o.matchThreshold request.matchThreshold ∨
      max o.matchThreshold request.matchThreshold ≤ c.score) ∧
  GapsClear ops o.duplicateGapThreshold request.duplicateThreshold
    (o.scoredCandidates rt ops n d)

instance (rt : Runtime) (ops : ValueOps) (o : ReconciliationOrchestrator) (n : ℕ)
    (request : ReconciliationRequest) (d : GraphData) :
    Decidable (o.ThresholdsClear rt ops n request d) := by
  unfold ThresholdsClear
  infer_instance

variable {rt : Runtime} {ops : ValueOps} {o : ReconciliationOrchestrator} {n : ℕ}
  {request : ReconciliationRequest} {d : GraphData}

variable (request) in
/-- A leading candidate is fully reconciled by the threshold of the orchestrator. -/
theorem reconciled_iff {c : MatchCandidate} (hc : Leading (o.scoredCandidates rt ops n d) c) :
    (∃ outcome ∈ (o.reconcile rt ops n request d).fullyReconciled, outcome.candidate = some c) ↔
      o.matchThreshold ≤ c.score := by
  constructor
  · rintro ⟨outcome, houtcome, hcandidate⟩
    obtain ⟨c', -, hfull, rfl⟩ := mem_fullyReconciled.mp houtcome
    obtain rfl := Option.some.inj hcandidate
    exact hfull
  · intro hfull
    exact ⟨_, mem_fullyReconciled.mpr ⟨c, hc, hfull, rfl⟩, rfl⟩

variable (request) in
/-- Candidates are grouped by the gap of the orchestrator. -/
theorem grouped_iff {c : MatchCandidate} (hc : c ∈ o.scoredCandidates rt ops n d) :
    (∃ outcome ∈ o.outcomes rt ops n request d, outcome.outcomeType = .duplicateDetected ∧
        outcome.sourceObjectId = some c.sourceObjectId ∧
        c.targetObjectId ∈ outcome.duplicateTargetIds) ↔
      Grouped ops o.duplicateGapThreshold (o.scoredCandidates rt ops n d) c := by
  rw [exists_duplicateOutcome (P := fun source targets =>
    source = some c.sourceObjectId ∧ c.targetObjectId ∈ targets)]
  simp only [Option.some.injEq]
  rw [duplicates, DuplicateDetector.mem_duplicateTargetIds scoredCandidates_nodup]
  constructor
  · rintro ⟨c', hgrouped, hsource, htarget⟩
    obtain rfl := List.inj_on_of_nodup_map scoredCandidates_pairs_nodup hgrouped.1.1 hc
      (Prod.ext hsource htarget)
    exact hgrouped
  · intro hgrouped
    exact ⟨c, hgrouped, rfl, rfl⟩

/-- A run follows its plan exactly when nothing lies between the thresholds. -/
theorem followsPlan_iff : (o.reconcile rt ops n request d).FollowsPlan ops
      (o.scoredCandidates rt ops n d) ↔ o.ThresholdsClear rt ops n request d := by
  unfold ThresholdsClear
  rw [gapsClear_iff]
  constructor
  · rintro ⟨hreconciles, hgroups⟩
    constructor
    · intro c _ hc
      rw [clear_iff, ← reconciled_iff request hc]
      exact hreconciles c hc
    · intro c
      by_cases hc : c ∈ o.scoredCandidates rt ops n d
      · rw [← grouped_iff request hc]
        exact hgroups c hc
      · exact iff_of_false (fun h => hc h.1.1) fun h => hc h.1.1
  · rintro ⟨hscores, hgaps⟩
    constructor
    · intro c hc
      rw [reconciled_iff request hc]
      exact clear_iff.mp (hscores c hc.mem hc)
    · intro c hc
      exact (grouped_iff request hc).trans (hgaps c)

/-- With enough fuel a run ends, and it follows the plan that it records exactly when nothing lies
between the thresholds of the orchestrator and of the request. -/
theorem execute_followsPlan_iff (rt : Runtime) (ops : ValueOps) (o : ReconciliationOrchestrator)
    (n : ℕ) (request : ReconciliationRequest) (fuel : ℕ)
    (hfuel : request.target.graphSliceRootIds.length + o.graph.repo.objects.keys.length < fuel) :
    ∃ d result, fetchGraphData fuel o.graph.repo request = some d ∧
      o.execute rt ops n request fuel = some result ∧
      (result.FollowsPlan ops (o.scoredCandidates rt ops n d) ↔
        o.ThresholdsClear rt ops n request d) := by
  obtain ⟨d, hfetch⟩ := fetchGraphData_returns hfuel
  exact ⟨d, o.reconcile rt ops n request d, hfetch, execute_of_fetch rt ops n hfetch,
    followsPlan_iff⟩

theorem execute_followsPlan_overshadowing : ∃ d result,
    fetchGraphData 4 overshadowing.graph.repo commercialToField = some d ∧
      overshadowing.execute .reference .exact 0 commercialToField 4 = some result ∧
      (result.FollowsPlan .exact (overshadowing.scoredCandidates .reference .exact 0 d) ↔
        overshadowing.ThresholdsClear .reference .exact 0 commercialToField d) :=
  execute_followsPlan_iff .reference .exact overshadowing 0 commercialToField 4 (by decide)

/-- A request for a low threshold. -/
def lenient : ReconciliationRequest := { commercialToField with matchThreshold := 1 / 5 }

theorem lenient_fetches : fetchGraphData 4 overshadowing.graph.repo lenient =
    some (fetchByFilters overshadowing.graph.repo lenient.scope) :=
  fetchGraphData_filters rfl rfl

/-- The report reaches the recorded threshold, and is not reconciled with the bill. -/
theorem execute_ignores_plan : ∃ d result,
    fetchGraphData 4 overshadowing.graph.repo lenient = some d ∧
      overshadowing.execute .reference .exact 0 lenient 4 = some result ∧
      ¬ result.FollowsPlan .exact (overshadowing.scoredCandidates .reference .exact 0 d) := by
  refine ⟨_, _, lenient_fetches, execute_of_fetch _ _ _ lenient_fetches, ?_⟩
  rw [followsPlan_iff]
  decide +kernel

end ReconciliationOrchestrator
end ControlFabric.Fabric.Reconciliation
