import ControlFabric.Reconciliation.MismatchesKept

/-! Full reconciliations are unique for each source object. A target object may be reconciled with
several, and a source object that is reconciled may have duplicates. -/
namespace ControlFabric.Fabric.Reconciliation
open Lib

namespace ReconciliationExecutionResult

/-- The full reconciliations among the outcomes. -/
def fullyReconciled (result : ReconciliationExecutionResult) : List ReconciliationOutcome :=
  result.outcomes.filter fun outcome => outcome.outcomeType = .fullyReconciled

/-- No target object has two full reconciliations. -/
def TargetsOnce (result : ReconciliationExecutionResult) : Prop :=
  (result.fullyReconciled.map ReconciliationOutcome.targetObjectId).Nodup

/-- The target object has two full reconciliations. -/
def ReconciledTwice (result : ReconciliationExecutionResult) (targetId : String) : Prop :=
  (result.fullyReconciled.map ReconciliationOutcome.targetObjectId).Duplicate (some targetId)

/-- No source object has two full reconciliations. -/
def SourcesOnce (result : ReconciliationExecutionResult) : Prop :=
  (result.fullyReconciled.map ReconciliationOutcome.sourceObjectId).Nodup

/-- The source object has a full reconciliation, and duplicates have been detected for it. -/
def ReconciledAndDuplicate (result : ReconciliationExecutionResult) (sourceId : String) : Prop :=
  (∃ outcome ∈ result.fullyReconciled, outcome.sourceObjectId = some sourceId) ∧
    ∃ outcome ∈ result.outcomes, outcome.outcomeType = .duplicateDetected ∧
      outcome.sourceObjectId = some sourceId

end ReconciliationExecutionResult

namespace ReconciliationOrchestrator

section Conditions
variable (rt : Runtime) (ops : ValueOps) (o : ReconciliationOrchestrator) (n : ℕ) (d : GraphData)

/-- No target object leads for two source objects with scores at the threshold or above. -/
def LeadsOnce : Prop :=
  ∀ c ∈ o.scoredCandidates rt ops n d, ∀ c' ∈ o.scoredCandidates rt ops n d,
    Leading (o.scoredCandidates rt ops n d) c → o.matchThreshold ≤ c.score →
      Leading (o.scoredCandidates rt ops n d) c' → o.matchThreshold ≤ c'.score →
        c.targetObjectId = c'.targetObjectId → c = c'

/-- The target object leads for two source objects with scores at the threshold or above. -/
def LeadsTwice (targetId : String) : Prop :=
  ∃ c c', Leading (o.scoredCandidates rt ops n d) c ∧ o.matchThreshold ≤ c.score ∧
    Leading (o.scoredCandidates rt ops n d) c' ∧ o.matchThreshold ≤ c'.score ∧
    c.targetObjectId = targetId ∧ c'.targetObjectId = targetId ∧
    c.sourceObjectId ≠ c'.sourceObjectId

/-- The leading candidate reaches the threshold, and several candidates are close to it. -/
def LeadsAmongClose (sourceId : String) : Prop :=
  ∃ c ∈ o.scoredCandidates rt ops n d, Leading (o.scoredCandidates rt ops n d) c ∧
    c.sourceObjectId = sourceId ∧ o.matchThreshold ≤ c.score ∧
    ∃ c' ∈ o.scoredCandidates rt ops n d,
      Grouped ops o.duplicateGapThreshold (o.scoredCandidates rt ops n d) c' ∧
        c'.sourceObjectId = sourceId

instance : Decidable (o.LeadsOnce rt ops n d) := by
  unfold LeadsOnce
  infer_instance

instance (sourceId : String) : Decidable (o.LeadsAmongClose rt ops n d sourceId) := by
  unfold LeadsAmongClose
  infer_instance

end Conditions

variable {rt : Runtime} {ops : ValueOps} {o : ReconciliationOrchestrator} {n : ℕ}
  {request : ReconciliationRequest} {d : GraphData}

/-- A value is met twice when two of the items, all different, have it. -/
theorem duplicate_map_iff {α β : Type} {f : α → β} {l : List α} (hl : l.Nodup) {b : β} :
    (l.map f).Duplicate b ↔ ∃ a ∈ l, ∃ a' ∈ l, a ≠ a' ∧ f a = b ∧ f a' = b := by
  induction l with
  | nil => simp
  | cons c l ih =>
    obtain ⟨hc, hl⟩ := List.nodup_cons.mp hl
    rw [List.map_cons, List.duplicate_cons_iff, ih hl, List.mem_map]
    constructor
    · rintro (⟨rfl, a, ha, hab⟩ | ⟨a, ha, a', ha', h⟩)
      · refine ⟨c, List.mem_cons_self, a, List.mem_cons_of_mem c ha, ?_, rfl, hab⟩
        rintro rfl
        exact hc ha
      · exact ⟨a, List.mem_cons_of_mem c ha, a', List.mem_cons_of_mem c ha', h⟩
    · rintro ⟨a, ha, a', ha', hne, hab, hab'⟩
      rcases List.mem_cons.mp ha with hac | hmem
      · rcases List.mem_cons.mp ha' with hac' | hmem'
        · exact absurd (hac.trans hac'.symm) hne
        · exact Or.inl ⟨hac ▸ hab, a', hmem', hab'⟩
      · rcases List.mem_cons.mp ha' with hac' | hmem'
        · exact Or.inl ⟨hac' ▸ hab', a, hmem, hab⟩
        · exact Or.inr ⟨a, hmem, a', hmem', hne, hab, hab'⟩

/-- The outcomes of the rankings, source by source. -/
theorem rankingOutcomes_eq : o.rankingOutcomes rt ops n d =
    (DuplicateDetector.bySource (o.scoredCandidates rt ops n d)).keys.filterMap fun s =>
      (ranked MatchCandidate.score ((o.scoredCandidates rt ops n d).filter fun c =>
        c.sourceObjectId = s)).head?.bind
          (ReconciliationAssembler.topOutcome o.matchThreshold) := by
  unfold rankingOutcomes rankings DuplicateDetector.buildRankings DuplicateDetector.bySource
  rw [entries_groups, List.filterMap_map, List.filterMap_map]
  rfl

theorem pairOutcome_source {s : String} {outcome : ReconciliationOutcome}
    (h : (ranked MatchCandidate.score ((o.scoredCandidates rt ops n d).filter fun c =>
      c.sourceObjectId = s)).head?.bind
        (ReconciliationAssembler.topOutcome o.matchThreshold) = some outcome) :
    outcome.sourceObjectId = some s := by
  obtain ⟨top, htop, hresult⟩ := Option.bind_eq_some_iff.mp h
  have hsource : top.sourceObjectId = s := by
    simpa using (List.mem_filter.mp (head?_ranked.mp htop).mem).2
  obtain ⟨-, outcomeType, rfl⟩ := reported_of_topOutcome hresult
  exact congrArg some hsource

private theorem sublist_map_filterMap {f : String → Option ReconciliationOutcome}
    (hf : ∀ s outcome, f s = some outcome → outcome.sourceObjectId = some s) (l : List String) :
    ((l.filterMap f).map ReconciliationOutcome.sourceObjectId).Sublist (l.map some) := by
  induction l with
  | nil => exact List.Sublist.refl _
  | cons s l ih =>
    cases hs : f s with
    | none =>
      rw [List.filterMap_cons_none hs]
      exact ih.cons _
    | some outcome =>
      rw [List.filterMap_cons_some hs, List.map_cons, List.map_cons, hf s outcome hs]
      exact ih.cons_cons _

/-- Each source object has one outcome among those of the rankings. -/
theorem rankingOutcomes_nodup :
    ((o.rankingOutcomes rt ops n d).map ReconciliationOutcome.sourceObjectId).Nodup := by
  rw [rankingOutcomes_eq]
  have hkeys := (DuplicateDetector.bySource (o.scoredCandidates rt ops n d)).nodup
  exact (hkeys.map (Option.some_injective _)).sublist
    (sublist_map_filterMap (fun s outcome h => pairOutcome_source h) _)

/-- Only the rankings reconcile fully. -/
theorem fullyReconciled_eq (rt : Runtime) (ops : ValueOps) (o : ReconciliationOrchestrator) (n : ℕ)
    (request : ReconciliationRequest) (d : GraphData) :
    (o.reconcile rt ops n request d).fullyReconciled =
      (o.rankingOutcomes rt ops n d).filter fun outcome =>
        outcome.outcomeType = .fullyReconciled := by
  obtain ⟨added, heq⟩ := outcomes_eq_append rt ops o n request d
  have hdup : (o.duplicateOutcomes rt ops n request d).filter
      (fun outcome => outcome.outcomeType = .fullyReconciled) = [] := by
    rw [List.filter_eq_nil_iff]
    intro outcome houtcome
    obtain ⟨i, dupSet, -, rfl⟩ := mem_duplicateOutcomes.mp houtcome
    simp [ReconciliationAssembler.duplicateOutcome]
  have hgap : (gapOutcomes request d).filter
      (fun outcome => outcome.outcomeType = .fullyReconciled) = [] := by
    rw [List.filter_eq_nil_iff]
    intro outcome houtcome
    obtain ⟨gap, rfl⟩ := mem_gapOutcomes houtcome
    simp [ReconciliationAssembler.gapOutcome]
  have hadded : (added.map ReconciliationAssembler.mismatchOutcome).filter
      (fun outcome => outcome.outcomeType = .fullyReconciled) = [] := by
    rw [List.filter_eq_nil_iff]
    intro outcome houtcome
    obtain ⟨m, -, rfl⟩ := List.mem_map.mp houtcome
    simp [ReconciliationAssembler.mismatchOutcome]
  show (o.outcomes rt ops n request d).filter _ = _
  rw [heq, List.filter_append, List.filter_append, List.filter_append, hdup, hgap, hadded,
    List.append_nil, List.append_nil, List.append_nil]

theorem mem_fullyReconciled {outcome : ReconciliationOutcome} :
    outcome ∈ (o.reconcile rt ops n request d).fullyReconciled ↔
      ∃ c, Leading (o.scoredCandidates rt ops n d) c ∧ o.matchThreshold ≤ c.score ∧
        outcome = ReconciliationAssembler.pairOutcome .fullyReconciled c := by
  rw [fullyReconciled_eq, List.mem_filter, mem_rankingOutcomes, decide_eq_true_eq]
  constructor
  · rintro ⟨⟨c, hc, htop⟩, htype⟩
    rcases ReconciliationAssembler.topOutcome_eq_some.mp htop with ⟨hfull, rfl⟩ | ⟨-, -, rfl⟩
    · exact ⟨c, hc, hfull, rfl⟩
    · cases htype
  · rintro ⟨c, hc, hfull, rfl⟩
    exact ⟨⟨c, hc, ReconciliationAssembler.topOutcome_eq_some.mpr (Or.inl ⟨hfull, rfl⟩)⟩, rfl⟩

/-- Only the duplicate sets are reported as duplicates. -/
theorem mem_duplicateDetected {outcome : ReconciliationOutcome} :
    outcome ∈ o.outcomes rt ops n request d ∧ outcome.outcomeType = .duplicateDetected ↔
      outcome ∈ o.duplicateOutcomes rt ops n request d := by
  obtain ⟨added, heq⟩ := outcomes_eq_append rt ops o n request d
  rw [heq]
  constructor
  · rintro ⟨houtcome, htype⟩
    simp only [List.mem_append, or_assoc] at houtcome
    rcases houtcome with hrank | hdup | hgap | hadded
    · obtain ⟨c, -, htop⟩ := mem_rankingOutcomes.mp hrank
      rcases ReconciliationAssembler.topOutcome_eq_some.mp htop with ⟨-, rfl⟩ | ⟨-, -, rfl⟩
      · cases htype
      · cases htype
    · exact hdup
    · obtain ⟨gap, rfl⟩ := mem_gapOutcomes hgap
      cases htype
    · obtain ⟨m, -, rfl⟩ := List.mem_map.mp hadded
      cases htype
  · intro hdup
    refine ⟨List.mem_append_left _ (List.mem_append_left _ (List.mem_append_right _ hdup)), ?_⟩
    obtain ⟨i, dupSet, -, rfl⟩ := mem_duplicateOutcomes.mp hdup
    rfl

/-- What the duplicate outcomes show of their sets. -/
theorem exists_duplicateOutcome {P : Option String → List String → Prop} :
    (∃ outcome ∈ o.outcomes rt ops n request d, outcome.outcomeType = .duplicateDetected ∧
        P outcome.sourceObjectId outcome.duplicateTargetIds) ↔
      ∃ dupSet ∈ o.duplicates rt ops n d,
        P (some dupSet.sourceObjectId) dupSet.duplicateTargetIds := by
  constructor
  · rintro ⟨outcome, houtcome, htype, hP⟩
    obtain ⟨i, dupSet, hget, rfl⟩ :=
      mem_duplicateOutcomes.mp (mem_duplicateDetected.mp ⟨houtcome, htype⟩)
    exact ⟨dupSet, List.mem_of_getElem? hget, hP⟩
  · rintro ⟨dupSet, hset, hP⟩
    obtain ⟨i, hget⟩ := List.mem_iff_getElem?.mp hset
    obtain ⟨houtcome, htype⟩ :=
      mem_duplicateDetected.mpr (mem_duplicateOutcomes.mpr ⟨i, dupSet, hget, rfl⟩)
    exact ⟨_, houtcome, htype, hP⟩

/-- The outcomes that report duplicates of a source object. -/
theorem duplicateDetected_iff {sourceId : String} :
    (∃ outcome ∈ o.outcomes rt ops n request d, outcome.outcomeType = .duplicateDetected ∧
        outcome.sourceObjectId = some sourceId) ↔
      ∃ c, Grouped ops o.duplicateGapThreshold (o.scoredCandidates rt ops n d) c ∧
        c.sourceObjectId = sourceId := by
  rw [exists_duplicateOutcome (P := fun source _ => source = some sourceId),
    ← DuplicateDetector.exists_detect_iff scoredCandidates_nodup]
  simp only [Option.some.injEq]
  rfl

/-- No target object is reconciled twice when none leads for two source objects. -/
theorem targetsOnce_iff :
    (o.reconcile rt ops n request d).TargetsOnce ↔ o.LeadsOnce rt ops n d := by
  have hnodup : (o.reconcile rt ops n request d).fullyReconciled.Nodup := by
    rw [fullyReconciled_eq]
    exact (rankingOutcomes_nodup.of_map _).filter _
  unfold ReconciliationExecutionResult.TargetsOnce
  rw [List.nodup_map_iff_inj_on hnodup]
  constructor
  · intro hinj c _ c' _ hc hfull hc' hfull' htarget
    have heq := hinj _ (mem_fullyReconciled.mpr ⟨c, hc, hfull, rfl⟩) _
      (mem_fullyReconciled.mpr ⟨c', hc', hfull', rfl⟩) (congrArg some htarget)
    exact Option.some.inj (congrArg ReconciliationOutcome.candidate heq)
  · intro honce outcome houtcome outcome' houtcome' htarget
    obtain ⟨c, hc, hfull, rfl⟩ := mem_fullyReconciled.mp houtcome
    obtain ⟨c', hc', hfull', rfl⟩ := mem_fullyReconciled.mp houtcome'
    rw [honce c hc.mem c' hc'.mem hc hfull hc' hfull' (Option.some.inj htarget)]

theorem sourcesOnce : (o.reconcile rt ops n request d).SourcesOnce := by
  unfold ReconciliationExecutionResult.SourcesOnce
  rw [fullyReconciled_eq]
  exact rankingOutcomes_nodup.sublist (List.filter_sublist.map _)

/-- Two full reconciliations are those of two source objects. -/
theorem fullyReconciled_injOn {outcome outcome' : ReconciliationOutcome}
    (h : outcome ∈ (o.reconcile rt ops n request d).fullyReconciled)
    (h' : outcome' ∈ (o.reconcile rt ops n request d).fullyReconciled)
    (hsource : outcome.sourceObjectId = outcome'.sourceObjectId) : outcome = outcome' :=
  List.inj_on_of_nodup_map sourcesOnce h h' hsource

/-- A target object has two full reconciliations when it leads for two source objects. -/
theorem reconciledTwice_iff {targetId : String} :
    (o.reconcile rt ops n request d).ReconciledTwice targetId ↔
      o.LeadsTwice rt ops n d targetId := by
  have hnodup : (o.reconcile rt ops n request d).fullyReconciled.Nodup := sourcesOnce.of_map _
  unfold ReconciliationExecutionResult.ReconciledTwice
  rw [duplicate_map_iff hnodup]
  constructor
  · rintro ⟨outcome, houtcome, outcome', houtcome', hne, htarget, htarget'⟩
    obtain ⟨c, hc, hfull, rfl⟩ := mem_fullyReconciled.mp houtcome
    obtain ⟨c', hc', hfull', rfl⟩ := mem_fullyReconciled.mp houtcome'
    refine ⟨c, c', hc, hfull, hc', hfull', Option.some.inj htarget, Option.some.inj htarget', ?_⟩
    intro hsource
    exact hne (fullyReconciled_injOn houtcome houtcome' (congrArg some hsource))
  · rintro ⟨c, c', hc, hfull, hc', hfull', htarget, htarget', hne⟩
    refine ⟨_, mem_fullyReconciled.mpr ⟨c, hc, hfull, rfl⟩,
      _, mem_fullyReconciled.mpr ⟨c', hc', hfull', rfl⟩, ?_, congrArg some htarget,
      congrArg some htarget'⟩
    intro heq
    exact hne (Option.some.inj (congrArg ReconciliationOutcome.sourceObjectId heq))

theorem reconciledAndDuplicate_iff {sourceId : String} :
    (o.reconcile rt ops n request d).ReconciledAndDuplicate sourceId ↔
      o.LeadsAmongClose rt ops n d sourceId := by
  unfold ReconciliationExecutionResult.ReconciledAndDuplicate
  rw [show (o.reconcile rt ops n request d).outcomes = o.outcomes rt ops n request d from rfl,
    duplicateDetected_iff]
  constructor
  · rintro ⟨⟨outcome, houtcome, hsource⟩, c', hc', hsource'⟩
    obtain ⟨c, hc, hfull, rfl⟩ := mem_fullyReconciled.mp houtcome
    exact ⟨c, hc.mem, hc, Option.some.inj hsource, hfull, c', hc'.1.1, hc', hsource'⟩
  · rintro ⟨c, -, hc, hsource, hfull, c', -, hc', hsource'⟩
    exact ⟨⟨_, mem_fullyReconciled.mpr ⟨c, hc, hfull, rfl⟩, congrArg some hsource⟩, c', hc',
      hsource'⟩

/-- With enough fuel a run ends, and it reconciles no source object fully twice. It reconciles a
target object fully twice when it leads for two source objects at the threshold or above, and
reports duplicates of a fully reconciled source object when further candidates are close. -/
theorem execute_fullyReconciled (rt : Runtime) (ops : ValueOps) (o : ReconciliationOrchestrator)
    (n : ℕ) (request : ReconciliationRequest) (fuel : ℕ)
    (hfuel : request.target.graphSliceRootIds.length + o.graph.repo.objects.keys.length < fuel) :
    ∃ d result, fetchGraphData fuel o.graph.repo request = some d ∧
      o.execute rt ops n request fuel = some result ∧
      result.SourcesOnce ∧
      (∀ targetId, result.ReconciledTwice targetId ↔ o.LeadsTwice rt ops n d targetId) ∧
      ∀ sourceId, result.ReconciledAndDuplicate sourceId ↔
        o.LeadsAmongClose rt ops n d sourceId := by
  obtain ⟨d, hfetch⟩ := fetchGraphData_returns hfuel
  exact ⟨d, o.reconcile rt ops n request d, hfetch, execute_of_fetch rt ops n hfetch, sourcesOnce,
    fun _ => reconciledTwice_iff, fun _ => reconciledAndDuplicate_iff⟩

end ReconciliationOrchestrator

/-! ### Two bills for two like reports -/

/-- An object whose texts, quantity, cost, date and evidence all agree with the others like it. -/
def alignedObject (id : String) (plane : PlaneType) : ControlObject :=
  { keyedObject id plane [("order", "7"), ("site", "9")] with
    externalRefs := [("erp", "1"), ("crm", "2"), ("gis", "3")]
    payload := [("quantity", .int 3), ("cost", .int 120), ("effective_date", .str "2026-03-01")]
    evidence := [⟨"e1", "photo", "site photo", none, 1, []⟩] }

/-- Two bills and two reports that agree in everything. -/
def doubled : ReconciliationOrchestrator where
  graph := storing [alignedObject "bill" .commercial, alignedObject "copy" .commercial,
    alignedObject "report" .field, alignedObject "retake" .field] []
  ruleRegistry := buildDefaultRuleRegistry .exact

namespace ReconciliationOrchestrator

theorem doubled_fetches : fetchGraphData 5 doubled.graph.repo commercialToField =
    some (fetchByFilters doubled.graph.repo commercialToField.scope) :=
  fetchGraphData_filters rfl rfl

theorem execute_fullyReconciled_doubled : ∃ d result,
    fetchGraphData 5 doubled.graph.repo commercialToField = some d ∧
      doubled.execute .reference .exact 0 commercialToField 5 = some result ∧
      result.SourcesOnce ∧
      (∀ targetId, result.ReconciledTwice targetId ↔
        doubled.LeadsTwice .reference .exact 0 d targetId) ∧
      ∀ sourceId, result.ReconciledAndDuplicate sourceId ↔
        doubled.LeadsAmongClose .reference .exact 0 d sourceId :=
  execute_fullyReconciled .reference .exact doubled 0 commercialToField 5 (by decide)

/-- Both bills are fully reconciled with one report, and both have duplicates. -/
theorem execute_reconciles_target_twice : ∃ d result,
    fetchGraphData 5 doubled.graph.repo commercialToField = some d ∧
      doubled.execute .reference .exact 0 commercialToField 5 = some result ∧
      ¬ result.TargetsOnce ∧ result.ReconciledAndDuplicate "bill" := by
  refine ⟨_, _, doubled_fetches, execute_of_fetch _ _ _ doubled_fetches, ?_, ?_⟩
  · rw [targetsOnce_iff]
    decide +kernel
  · rw [reconciledAndDuplicate_iff]
    decide +kernel

end ReconciliationOrchestrator
end ControlFabric.Fabric.Reconciliation
