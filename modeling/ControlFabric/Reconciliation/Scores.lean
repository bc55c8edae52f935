import ControlFabric.Reconciliation.RuleModel
import ControlFabric.Reconciliation.Matching
import Mathlib.Algebra.Order.BigOperators.Group.List

/-! Scores are normalised: no rule contributes more than its weight, and the score of a candidate is
the share of the weights that its rules contribute. -/
namespace ControlFabric.Fabric.Reconciliation
open Lib

/-- Rational arithmetic, whatever texts stand for. -/
def ValueOps.rational (floatOfStr : String → Option PyFloat) (str : Json → String) : ValueOps where
  round := id
  floatOfStr := floatOfStr
  str := str

/-- `a / b`, `none` being a `ZeroDivisionError`. -/
def divide (ops : ValueOps) (a b : ℚ) : Option ℚ := if b = 0 then none else some (ops.round (a / b))

namespace MatchScoreBreakdown

/-- `normalized_score`, by a division that may raise. -/
def checkedScore (ops : ValueOps) (b : MatchScoreBreakdown) : Option ℚ :=
  if b.maxPossible ≤ 0 then some 0
  else (divide ops b.weightedTotal b.maxPossible).map fun q => min q 1

theorem checkedScore_eq (ops : ValueOps) (b : MatchScoreBreakdown) :
    b.checkedScore ops = some (b.normalizedScore ops) := by
  unfold checkedScore normalizedScore divide
  split
  · rfl
  next hpos =>
    rw [if_neg (ne_of_gt (not_le.mp hpos))]
    rfl

end MatchScoreBreakdown

/-- `final_score`, by a division that may raise. -/
def CandidateScorer.checkedFinalScore (ops : ValueOps)
    (results : List (ReconciliationRule × ReconciliationRuleResult)) : Option ℚ :=
  if results.any fun r => r.2.hardFail then some 0 else (breakdown ops results).checkedScore ops

theorem CandidateScorer.checkedFinalScore_eq (ops : ValueOps)
    (results : List (ReconciliationRule × ReconciliationRuleResult)) :
    checkedFinalScore ops results = some (finalScore ops results) := by
  unfold checkedFinalScore finalScore
  split
  · rfl
  · exact MatchScoreBreakdown.checkedScore_eq ops _

/-! ### What a rule may contribute -/

/-- A contribution between nothing and the weight of the rule. -/
def ReconciliationRuleResult.Within (weight : ℚ) (result : ReconciliationRuleResult) : Prop :=
  0 ≤ result.scoreContribution ∧ result.scoreContribution ≤ weight

structure ReconciliationRule.Bounded (rule : ReconciliationRule) : Prop where
  weight_pos : 0 < rule.weight.weight
  within : ∀ source target links, (rule.evaluate source target links).Within rule.weight.weight

namespace ReconciliationRuleResult
variable {weight : ℚ} {result : ReconciliationRuleResult}

theorem Within.of_zero (hweight : 0 < weight) (h : result.scoreContribution = 0) :
    result.Within weight := by
  unfold Within
  rw [h]
  exact ⟨le_rfl, hweight.le⟩

theorem Within.of_full (hweight : 0 < weight) (h : result.scoreContribution = weight) :
    result.Within weight := by
  unfold Within
  rw [h]
  exact ⟨hweight.le, le_rfl⟩

/-- A share of the weight. -/
theorem Within.of_share {share : ℚ} (hweight : 0 < weight) (hnonneg : 0 ≤ share) (hle : share ≤ 1)
    (h : result.scoreContribution = share * weight) : result.Within weight := by
  unfold Within
  rw [h]
  exact ⟨mul_nonneg hnonneg hweight.le, mul_le_of_le_one_left hweight.le hle⟩

end ReconciliationRuleResult

section Bounded
open ReconciliationRuleResult
variable (floatOfStr : String → Option PyFloat) (str : Json → String)

theorem correlationRule_bounded {ruleId : String} {weight : ReconciliationRuleWeight}
    {applicability : ReconciliationRuleApplicability} {share : ℚ}
    {texts : ControlObject → List (String × String)} (hweight : 0 < weight.weight)
    (hshare : 0 ≤ share) :
    (correlationRule (.rational floatOfStr str) ruleId weight applicability share texts).Bounded where
  weight_pos := hweight
  within source target links := by
    unfold correlationRule
    dsimp only
    split
    · refine .of_share hweight (le_min ?_ zero_le_one) (min_le_right _ _) rfl
      exact mul_nonneg (Nat.cast_nonneg _) hshare
    · exact .of_zero hweight rfl

theorem scoringLinkTypes_le (linkType : ControlLinkType) :
    scoringLinkTypes (.rational floatOfStr str) linkType ≤ 1 := by
  cases linkType <;> simp only [scoringLinkTypes, ValueOps.rational, id] <;> norm_num

/-- The best link is worth between nothing and one. -/
theorem bestScore_mem (links : List ControlLink) {best : ℚ} (h : 0 ≤ best ∧ best ≤ 1) :
    0 ≤ links.foldl (fun best l => max best (scoringLinkTypes (.rational floatOfStr str) l.linkType))
        best ∧
      links.foldl (fun best l => max best (scoringLinkTypes (.rational floatOfStr str) l.linkType))
        best ≤ 1 := by
  induction links generalizing best with
  | nil => exact h
  | cons l links ih =>
    exact ih ⟨h.1.trans (le_max_left _ _), max_le h.2 (scoringLinkTypes_le floatOfStr str _)⟩

theorem topologyLinkageRule_bounded : (topologyLinkageRule (.rational floatOfStr str)).Bounded where
  weight_pos := by
    show (0 : ℚ) < 9 / 5
    norm_num
  within source target links := by
    have hweight : (0 : ℚ) < 9 / 5 := by norm_num
    obtain ⟨hnonneg, hle⟩ := bestScore_mem floatOfStr str
      (links.filter (isBetween source target)) ⟨le_rfl, zero_le_one⟩
    unfold topologyLinkageRule
    dsimp only
    split
    · exact .of_zero hweight rfl
    · split
      · exact .of_share hweight hnonneg hle rfl
      · exact .of_zero hweight rfl

theorem stateAlignmentRule_bounded : (stateAlignmentRule (.rational floatOfStr str)).Bounded where
  weight_pos := zero_lt_one
  within source target links := by
    have hhalf : (0 : ℚ) ≤ 1 / 2 ∧ (1 / 2 : ℚ) ≤ 1 := by norm_num
    unfold stateAlignmentRule
    dsimp only
    split
    · exact .of_full zero_lt_one (one_mul _)
    · split
      · exact .of_zero zero_lt_one rfl
      · exact .of_share zero_lt_one hhalf.1 hhalf.2 rfl

theorem numericAlignmentRule_bounded {ruleId : String} {weight : ReconciliationRuleWeight}
    {category : CrossPlaneMismatchCategory} {field : String} {tolerance : ℚ}
    (hweight : 0 < weight.weight) :
    (numericAlignmentRule (.rational floatOfStr str) ruleId weight category field tolerance).Bounded
    where
  weight_pos := hweight
  within source target links := by
    unfold numericAlignmentRule
    dsimp only
    split
    · split
      · split
        · exact .of_full hweight (one_mul _)
        · exact .of_zero hweight rfl
      · exact .of_zero hweight rfl
    · exact .of_zero hweight rfl

theorem chronologyAlignmentRule_bounded (dateField : String) :
    (chronologyAlignmentRule (.rational floatOfStr str) dateField).Bounded where
  weight_pos := by
    show (0 : ℚ) < 4 / 5
    norm_num
  within source target links := by
    have hweight : (0 : ℚ) < 4 / 5 := by norm_num
    unfold chronologyAlignmentRule
    dsimp only
    split
    · split
      · exact .of_full hweight (one_mul _)
      · exact .of_zero hweight rfl
    · exact .of_zero hweight rfl

theorem coverageExpectationRule_bounded :
    (coverageExpectationRule (.rational floatOfStr str)).Bounded where
  weight_pos := zero_lt_one
  within source target links := by
    unfold coverageExpectationRule
    dsimp only
    split
    · exact .of_full zero_lt_one (one_mul _)
    · exact .of_zero zero_lt_one rfl

theorem evidenceSufficiencyRule_bounded (requiredEvidenceTypes : List String) :
    (evidenceSufficiencyRule (.rational floatOfStr str) requiredEvidenceTypes).Bounded where
  weight_pos := by
    show (0 : ℚ) < 4 / 5
    norm_num
  within source target links := by
    have hweight : (0 : ℚ) < 4 / 5 := by norm_num
    unfold evidenceSufficiencyRule
    dsimp only
    split
    · split
      · exact .of_full hweight (one_mul _)
      · exact .of_zero hweight rfl
    · split
      · exact .of_zero hweight rfl
      · exact .of_full hweight (one_mul _)

theorem defaultWave2Rules_bounded :
    ∀ rule ∈ defaultWave2Rules (.rational floatOfStr str), rule.Bounded := by
  have hshares : (0 : ℚ) ≤ 1 / 2 ∧ (0 : ℚ) ≤ 2 / 5 := by norm_num
  have hweights : (0 : ℚ) < 2 ∧ (0 : ℚ) < 3 / 2 ∧ (0 : ℚ) < 6 / 5 := by norm_num
  simp only [defaultWave2Rules, List.forall_mem_cons]
  exact ⟨correlationRule_bounded _ _ hweights.1 hshares.1,
    correlationRule_bounded _ _ hweights.2.1 hshares.2, topologyLinkageRule_bounded _ _,
    stateAlignmentRule_bounded _ _, numericAlignmentRule_bounded _ _ hweights.2.2,
    numericAlignmentRule_bounded _ _ hweights.2.1, chronologyAlignmentRule_bounded _ _ _,
    coverageExpectationRule_bounded _ _, evidenceSufficiencyRule_bounded _ _ _,
    List.forall_mem_nil _⟩

theorem contractMarginCostRule_bounded :
    (contractMarginCostRule (.rational floatOfStr str)).Bounded where
  weight_pos := zero_lt_two
  within := by
    have hbounded : (numericAlignmentRule (.rational floatOfStr str) "contract-margin-cost-alignment"
        { weight := 2 } .costConflict "rate" (1 / 200)).Bounded :=
      numericAlignmentRule_bounded floatOfStr str zero_lt_two
    exact hbounded.within

theorem telcoOpsStateAlignmentRule_bounded :
    (telcoOpsStateAlignmentRule (.rational floatOfStr str)).Bounded where
  weight_pos := by
    show (0 : ℚ) < 3 / 2
    norm_num
  within source target links := by
    have hweight : (0 : ℚ) < 3 / 2 := by norm_num
    unfold telcoOpsStateAlignmentRule
    dsimp only
    split
    · split
      · exact .of_zero hweight rfl
      · exact .of_full hweight (one_mul _)
    · exact .of_zero hweight rfl

theorem utilitiesFieldCompletionRule_bounded :
    (utilitiesFieldCompletionRule (.rational floatOfStr str)).Bounded where
  weight_pos := by
    show (0 : ℚ) < 9 / 5
    norm_num
  within source target links := by
    have hweight : (0 : ℚ) < 9 / 5 := by norm_num
    unfold utilitiesFieldCompletionRule
    dsimp only
    split
    · exact .of_zero hweight rfl
    · split
      · exact .of_full hweight (one_mul _)
      · exact .of_zero hweight rfl

theorem domainPackReconciliationRules_bounded :
    ∀ rule ∈ domainPackReconciliationRules (.rational floatOfStr str), rule.Bounded := by
  simp only [domainPackReconciliationRules, List.forall_mem_cons]
  exact ⟨contractMarginCostRule_bounded _ _, telcoOpsStateAlignmentRule_bounded _ _,
    utilitiesFieldCompletionRule_bounded _ _, List.forall_mem_nil _⟩

end Bounded

/-! ### Scores -/

/-- What the applicable rules contribute, and what they weigh. -/
def contributed (results : List (ReconciliationRule × ReconciliationRuleResult)) : ℚ :=
  (results.map fun r => r.2.scoreContribution).sum

def weighed (results : List (ReconciliationRule × ReconciliationRuleResult)) : ℚ :=
  (results.map fun r => r.1.weight.weight).sum

/-- The score of these results is a share of what could be contributed. -/
structure NormalisedScore (results : List (ReconciliationRule × ReconciliationRuleResult))
    (score : ℚ) : Prop where
  nonneg : 0 ≤ score
  le_one : score ≤ 1
  eq_zero : (∃ r ∈ results, r.2.hardFail) ∨ results = [] → score = 0
  eq_share : (∀ r ∈ results, ¬ r.2.hardFail) → results ≠ [] →
    score = contributed results / weighed results
  full : score = 1 → ∀ r ∈ results, r.2.scoreContribution = r.1.weight.weight

namespace CandidateScorer
variable {results : List (ReconciliationRule × ReconciliationRuleResult)}

theorem breakdown_rational (floatOfStr : String → Option PyFloat) (str : Json → String)
    (results : List (ReconciliationRule × ReconciliationRuleResult)) :
    breakdown (.rational floatOfStr str) results =
      { weightedTotal := contributed results, maxPossible := weighed results } := by
  have hfold (b : MatchScoreBreakdown) : results.foldl (fun b r =>
      ({ weightedTotal := b.weightedTotal + r.2.scoreContribution
         maxPossible := b.maxPossible + r.1.weight.weight } : MatchScoreBreakdown)) b =
      { weightedTotal := b.weightedTotal + contributed results
        maxPossible := b.maxPossible + weighed results } := by
    induction results generalizing b with
    | nil => simp [contributed, weighed]
    | cons r results ih =>
      rw [List.foldl_cons, ih]
      simp only [contributed, weighed, List.map_cons, List.sum_cons, add_assoc]
  have hstart := hfold {}
  simp only [zero_add] at hstart
  exact hstart

/-- Each result is one of a rule that keeps to its weight. -/
def AllWithin (results : List (ReconciliationRule × ReconciliationRuleResult)) : Prop :=
  ∀ r ∈ results, 0 < r.1.weight.weight ∧ r.2.Within r.1.weight.weight

theorem contributed_nonneg (h : AllWithin results) : 0 ≤ contributed results := by
  apply List.sum_nonneg
  intro q hq
  obtain ⟨r, hr, rfl⟩ := List.mem_map.mp hq
  exact (h r hr).2.1

theorem contributed_le_weighed (h : AllWithin results) : contributed results ≤ weighed results :=
  List.sum_le_sum fun r hr => (h r hr).2.2

theorem weighed_pos (h : AllWithin results) (hne : results ≠ []) : 0 < weighed results := by
  apply List.sum_pos
  · intro q hq
    obtain ⟨r, hr, rfl⟩ := List.mem_map.mp hq
    exact (h r hr).1
  · simpa using hne

/-- The sums are equal only if the results are full. -/
theorem full_of_contributed_eq (h : AllWithin results)
    (heq : contributed results = weighed results) :
    ∀ r ∈ results, r.2.scoreContribution = r.1.weight.weight := by
  by_contra hne
  push Not at hne
  obtain ⟨r, hr, hless⟩ := hne
  have hlt : contributed results < weighed results :=
    List.sum_lt_sum _ _ (fun r hr => (h r hr).2.2) ⟨r, hr, lt_of_le_of_ne (h r hr).2.2 hless⟩
  exact absurd heq hlt.ne

theorem finalScore_share (floatOfStr : String → Option PyFloat) (str : Json → String)
    (h : AllWithin results) (hne : results ≠ []) (hpass : ∀ r ∈ results, ¬ r.2.hardFail) :
    finalScore (.rational floatOfStr str) results = contributed results / weighed results := by
  have hpos := weighed_pos h hne
  have hfail : ¬ (results.any fun r => r.2.hardFail) := by
    rw [List.any_eq_true]
    rintro ⟨r, hr, hhard⟩
    exact hpass r hr hhard
  unfold finalScore MatchScoreBreakdown.normalizedScore
  rw [if_neg hfail, breakdown_rational, if_neg (not_le.mpr hpos)]
  exact min_eq_left ((div_le_one hpos).mpr (contributed_le_weighed h))

theorem finalScore_zero (ops : ValueOps)
    (h : (∃ r ∈ results, r.2.hardFail) ∨ results = []) : finalScore ops results = 0 := by
  unfold finalScore
  rcases h with hfail | rfl
  · exact if_pos (List.any_eq_true.mpr hfail)
  · rfl

/-- A score is 0, or the share that is contributed when no rule fails. -/
theorem finalScore_normalised (floatOfStr : String → Option PyFloat) (str : Json → String)
    (h : AllWithin results) :
    NormalisedScore results (finalScore (.rational floatOfStr str) results) := by
  by_cases hzero : (∃ r ∈ results, r.2.hardFail) ∨ results = []
  · have hscore := finalScore_zero (.rational floatOfStr str) hzero
    refine ⟨hscore.ge, hscore.le.trans zero_le_one, fun _ => hscore, ?_, ?_⟩
    · intro hpass hne
      rcases hzero with ⟨r, hr, hfail⟩ | hnil
      · exact absurd hfail (hpass r hr)
      · exact absurd hnil hne
    · intro hone
      rw [hscore] at hone
      exact absurd hone zero_ne_one
  · push Not at hzero
    obtain ⟨hpass, hne⟩ := hzero
    have hpass : ∀ r ∈ results, ¬ r.2.hardFail := fun r hr => by simpa using hpass r hr
    have hscore := finalScore_share floatOfStr str h hne hpass
    have hpos := weighed_pos h hne
    rw [hscore]
    refine ⟨div_nonneg (contributed_nonneg h) hpos.le,
      (div_le_one hpos).mpr (contributed_le_weighed h), ?_, fun _ _ => rfl, ?_⟩
    · rintro (⟨r, hr, hfail⟩ | hnil)
      · exact absurd hfail (hpass r hr)
      · exact absurd hnil hne
    · intro hone
      exact full_of_contributed_eq h ((div_eq_one_iff_eq hpos.ne').mp hone)

theorem results_allWithin {registry : ReconciliationRuleRegistry}
    (h : ∀ rule ∈ registry.listRules, rule.Bounded) (source target : ControlObject)
    (links : List ControlLink) : AllWithin (CandidateScorer.results registry source target links) := by
  intro r hr
  obtain ⟨rule, hrule, rfl⟩ := List.mem_map.mp hr
  have hbounded := h rule (List.mem_of_mem_filter hrule)
  exact ⟨hbounded.weight_pos, hbounded.within source target links⟩

/-- With rules that keep to their weights, each contribution lies within the weight of its rule, no
division is by zero, and the score of a candidate is normalised. -/
theorem scoreCandidate_within (rt : Runtime) {floatOfStr : String → Option PyFloat}
    {str : Json → String} {registry : ReconciliationRuleRegistry}
    (h : ∀ rule ∈ registry.listRules, rule.Bounded) (n : ℕ) (candidate : MatchCandidate)
    (source target : ControlObject) (links : List ControlLink) :
    (∀ r ∈ CandidateScorer.results registry source target links, r.2.Within r.1.weight.weight) ∧
      checkedFinalScore (.rational floatOfStr str)
          (CandidateScorer.results registry source target links) =
        some (scoreCandidate rt (.rational floatOfStr str) registry n candidate source target
          links).score ∧
      NormalisedScore (CandidateScorer.results registry source target links)
        (scoreCandidate rt (.rational floatOfStr str) registry n candidate source target
          links).score := by
  have hwithin := results_allWithin h source target links
  exact ⟨fun r hr => (hwithin r hr).2, checkedFinalScore_eq _ _,
    finalScore_normalised floatOfStr str hwithin⟩

theorem domainPackRegistry_bounded (floatOfStr : String → Option PyFloat) (str : Json → String) :
    ∀ rule ∈ (domainPackRuleRegistry (.rational floatOfStr str)).listRules, rule.Bounded := by
  rw [listRules_domainPacks]
  intro rule hrule
  rcases List.mem_append.mp hrule with hrule | hrule
  · exact defaultWave2Rules_bounded floatOfStr str rule hrule
  · exact domainPackReconciliationRules_bounded floatOfStr str rule hrule

/-- Scores by the default rules and those of the domain packs are normalised. -/
theorem scoreCandidate_normalised (rt : Runtime) (floatOfStr : String → Option PyFloat)
    (str : Json → String) (n : ℕ) (candidate : MatchCandidate) (source target : ControlObject)
    (links : List ControlLink) :
    (∀ r ∈ CandidateScorer.results (domainPackRuleRegistry (.rational floatOfStr str))
        source target links, r.2.Within r.1.weight.weight) ∧
      checkedFinalScore (.rational floatOfStr str)
          (CandidateScorer.results (domainPackRuleRegistry (.rational floatOfStr str))
            source target links) =
        some (scoreCandidate rt (.rational floatOfStr str)
          (domainPackRuleRegistry (.rational floatOfStr str)) n candidate source target links).score ∧
      NormalisedScore (CandidateScorer.results (domainPackRuleRegistry (.rational floatOfStr str))
          source target links)
        (scoreCandidate rt (.rational floatOfStr str)
          (domainPackRuleRegistry (.rational floatOfStr str)) n candidate source target
          links).score :=
  scoreCandidate_within rt (domainPackRegistry_bounded floatOfStr str) n candidate source target
    links

end CandidateScorer
end ControlFabric.Fabric.Reconciliation
