import ControlFabric.Reconciliation.HardFail
import ControlFabric.Reconciliation.OneToOne
import ControlFabric.Reconciliation.Scores

/-! Rules that are required for a match: the requirement is declared and not asked for, so a pair
that does not meet it is reconciled when its other rules contribute enough. -/
namespace ControlFabric.Fabric.Reconciliation
open Lib

/-- A rule that applies, and is required for a match, has not matched. -/
def RequirementUnmet (results : List (ReconciliationRule × ReconciliationRuleResult)) : Prop :=
  ∃ r ∈ results, r.1.weight.requiredForMatch ∧ ¬ r.2.matched

/-- No rule has failed and the share contributed reaches the threshold, or the threshold is one that
a failed pair reaches. -/
def Attains (ops : ValueOps) (matchThreshold : ℚ)
    (results : List (ReconciliationRule × ReconciliationRuleResult)) : Prop :=
  if ∃ r ∈ results, r.2.hardFail then matchThreshold ≤ 0
  else matchThreshold ≤ (CandidateScorer.breakdown ops results).normalizedScore ops

instance (results : List (ReconciliationRule × ReconciliationRuleResult)) :
    Decidable (RequirementUnmet results) := by
  unfold RequirementUnmet
  infer_instance

theorem attains_iff {ops : ValueOps} {matchThreshold : ℚ}
    {results : List (ReconciliationRule × ReconciliationRuleResult)} :
    Attains ops matchThreshold results ↔
      matchThreshold ≤ CandidateScorer.finalScore ops results := by
  unfold Attains CandidateScorer.finalScore
  simp only [List.any_eq_true]
  split <;> rfl

/-- In rational arithmetic, and where all rules keep to their weights, results attain a positive
threshold when none fails and they contribute that share of the weights. -/
theorem attains_rational_iff (floatOfStr : String → Option PyFloat) (str : Json → String)
    {matchThreshold : ℚ} (hpos : 0 < matchThreshold)
    {results : List (ReconciliationRule × ReconciliationRuleResult)}
    (h : CandidateScorer.AllWithin results) (hne : results ≠ []) :
    Attains (.rational floatOfStr str) matchThreshold results ↔
      (∀ r ∈ results, ¬ r.2.hardFail) ∧ matchThreshold * weighed results ≤ contributed results := by
  rw [attains_iff]
  by_cases hfail : ∃ r ∈ results, r.2.hardFail
  · rw [CandidateScorer.finalScore_zero _ (Or.inl hfail)]
    obtain ⟨r, hr, hhard⟩ := hfail
    exact iff_of_false (not_le.mpr hpos) fun hpass => hpass.1 r hr hhard
  · push Not at hfail
    have hpass : ∀ r ∈ results, ¬ r.2.hardFail := fun r hr => by simpa using hfail r hr
    rw [CandidateScorer.finalScore_share floatOfStr str h hne hpass,
      le_div_iff₀ (CandidateScorer.weighed_pos h hne)]
    exact (and_iff_right hpass).symm

section Required
variable {rt : Runtime} {ops : ValueOps} {registry : ReconciliationRuleRegistry}
  {objectsById : Dict String ControlObject} {links : List ControlLink} {n : ℕ}
  {candidates : List MatchCandidate} {c : MatchCandidate} {source target : ControlObject}

/-- The score of a candidate is that of its two objects. -/
theorem scoreAll_score
    (hc : c ∈ CandidateScorer.scoreAll rt ops registry objectsById links n candidates)
    (hsource : objectsById.get? c.sourceObjectId = some source)
    (htarget : objectsById.get? c.targetObjectId = some target) :
    c.score = CandidateScorer.finalScore ops
      (CandidateScorer.results registry source target links) := by
  obtain ⟨c₀, -, source', target', k, hsource', htarget', rfl⟩ := CandidateScorer.mem_scoreAll hc
  obtain rfl := Option.some.inj (hsource.symm.trans hsource')
  obtain rfl := Option.some.inj (htarget.symm.trans htarget')
  rfl

/-- A pair with an unmet requirement is not reconciled exactly when its rules do not contribute
enough, in rational arithmetic that share of their weights, or another candidate of its source
leads. -/
theorem unmet_not_reconciled_iff (rt : Runtime) (ops : ValueOps)
    (registry : ReconciliationRuleRegistry) {objectsById : Dict String ControlObject}
    (links : List ControlLink) (n m : ℕ) (candidates : List MatchCandidate)
    (gap matchThreshold : ℚ) (coverageResult : CoverageExpectationResult)
    (evidenceResults : List EvidenceSufficiencyResult)
    (mismatches : List ReconciliationMismatch) {pair : String × String}
    {source target : ControlObject} (hsource : objectsById.get? pair.1 = some source)
    (htarget : objectsById.get? pair.2 = some target) :
    ((RequirementUnmet (CandidateScorer.results registry source target links) →
      ¬ PairReported [.fullyReconciled] (ReconciliationAssembler.assemble rt matchThreshold m
        (assembledFrom ops gap
          (CandidateScorer.scoreAll rt ops registry objectsById links n candidates)
          coverageResult evidenceResults mismatches)) pair) ↔
    (RequirementUnmet (CandidateScorer.results registry source target links) →
      ¬ Attains ops matchThreshold (CandidateScorer.results registry source target links) ∨
        ∀ c, Leading (CandidateScorer.scoreAll rt ops registry objectsById links n candidates) c →
          c.pair ≠ pair)) ∧
    ∀ (floatOfStr : String → Option PyFloat) (str : Json → String), 0 < matchThreshold →
      CandidateScorer.AllWithin (CandidateScorer.results registry source target links) →
      CandidateScorer.results registry source target links ≠ [] →
      (Attains (.rational floatOfStr str) matchThreshold
          (CandidateScorer.results registry source target links) ↔
        (∀ r ∈ CandidateScorer.results registry source target links, ¬ r.2.hardFail) ∧
          matchThreshold * weighed (CandidateScorer.results registry source target links) ≤
            contributed (CandidateScorer.results registry source target links)) := by
  refine ⟨imp_congr_right fun _ => ?_, fun floatOfStr str hpos hwithin hne =>
    attains_rational_iff floatOfStr str hpos hwithin hne⟩
  have hscore {c : MatchCandidate}
      (hc : Leading (CandidateScorer.scoreAll rt ops registry objectsById links n candidates) c)
      (hpair : c.pair = pair) : matchThreshold ≤ c.score ↔
        Attains ops matchThreshold (CandidateScorer.results registry source target links) := by
    subst hpair
    rw [attains_iff, scoreAll_score hc.mem hsource htarget]
  rw [pairReported_full]
  constructor
  · intro hnone
    by_contra hcontra
    push Not at hcontra
    obtain ⟨hattains, c, hc, hpair⟩ := hcontra
    exact hnone ⟨c, hc, hpair, (hscore hc hpair).mpr hattains⟩
  · rintro hcond ⟨c, hc, hpair, hfull⟩
    rcases hcond with hshort | hother
    · exact hshort ((hscore hc hpair).mp hfull)
    · exact hother c hc hpair

end Required

/-! ### A bill and a report without a common key -/

/-- An object that agrees with the others like it, and has no correlation key. -/
def keylessObject (id : String) (plane : PlaneType) : ControlObject :=
  { alignedObject id plane with correlationKeys := [] }

/-- A bill and a report that agree in all but the required key, and a link between them. -/
def keyless : ReconciliationOrchestrator where
  graph := storing [keylessObject "bill" .commercial, keylessObject "report" .field]
    [crossLink "l" .fulfills "bill" "report"]
  ruleRegistry := buildDefaultRuleRegistry .exact

theorem keyless_fetches :
    ReconciliationOrchestrator.fetchGraphData 3 keyless.graph.repo commercialToField =
      some (ReconciliationOrchestrator.fetchByFilters keyless.graph.repo commercialToField.scope) :=
  ReconciliationOrchestrator.fetchGraphData_filters rfl rfl

theorem unmet_not_reconciled_keyless :
    let bill := keylessObject "bill" .commercial
    let report := keylessObject "report" .field
    let d : GraphData := ⟨[bill], [report], [crossLink "l" .fulfills "bill" "report"]⟩
    let results := CandidateScorer.results keyless.ruleRegistry bill report d.links
    let scored := CandidateScorer.scoreAll .reference .exact keyless.ruleRegistry
      (ReconciliationOrchestrator.objectsById d) d.links 0 (ReconciliationOrchestrator.candidates d)
    ((RequirementUnmet results →
      ¬ PairReported [.fullyReconciled] (ReconciliationAssembler.assemble .reference (7 / 10) 10
        (assembledFrom .exact (1 / 20) scored {} [] [])) ("bill", "report")) ↔
    (RequirementUnmet results →
      ¬ Attains .exact (7 / 10) results ∨
        ∀ c, Leading scored c → c.pair ≠ ("bill", "report"))) ∧
    ∀ (floatOfStr : String → Option PyFloat) (str : Json → String), (0 : ℚ) < 7 / 10 →
      CandidateScorer.AllWithin results → results ≠ [] →
      (Attains (.rational floatOfStr str) (7 / 10) results ↔
        (∀ r ∈ results, ¬ r.2.hardFail) ∧ 7 / 10 * weighed results ≤ contributed results) :=
  unmet_not_reconciled_iff .reference .exact keyless.ruleRegistry _ 0 10 _ (1 / 20) (7 / 10) {} []
    [] rfl rfl

/-- The two share no key, as the rule requires, and are fully reconciled. -/
theorem execute_reconciles_keyless : ∃ d result,
    ReconciliationOrchestrator.fetchGraphData 3 keyless.graph.repo commercialToField = some d ∧
      keyless.execute .reference .exact 0 commercialToField 3 = some result ∧
      RequirementUnmet (CandidateScorer.results keyless.ruleRegistry
        (keylessObject "bill" .commercial) (keylessObject "report" .field) d.links) ∧
      PairReported [.fullyReconciled] result.outcomes ("bill", "report") := by
  refine ⟨_, _, keyless_fetches, ReconciliationOrchestrator.execute_of_fetch _ _ _ keyless_fetches,
    ?_⟩
  decide +kernel

end ControlFabric.Fabric.Reconciliation
