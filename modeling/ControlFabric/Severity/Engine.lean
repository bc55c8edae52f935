import ControlFabric.Lib.Ranking
import ControlFabric.Py.Lower
import ControlFabric.Py.Numbers
import ControlFabric.Runtime
import Mathlib.Algebra.BigOperators.Group.Finset.Piecewise
import Mathlib.Algebra.Order.BigOperators.Group.Finset

/-! The severity engine: weighted scores of cases, in exact arithmetic, and the ranking of a batch,
of which marked duplicates are suppressed. -/
namespace ControlFabric.Severity
open Lib Py Method

inductive RouteCategory where
  | mustBlock
  | requiresReview
  | monitor
  | suppress
  deriving DecidableEq

inductive OperatorUrgency where
  | immediate
  | sameDay
  | thisWeek
  | backlog
  deriving DecidableEq

structure SeverityWeight where
  dimension : String
  weight : ℚ
  weight_mem : 0 ≤ weight ∧ weight ≤ 1

structure SeverityInput where
  caseId : String
  caseType : String
  severityRaw : String := "medium"
  financialImpact : ℚ := 0
  affectedObjects : ℤ := 1
  ruleCriticality : String := "medium"
  domainPack : String := "core"
  isDuplicate : Bool := false
  clusterId : Option String := none

structure ScoredCase where
  caseId : String
  compositeScore : ℚ
  route : RouteCategory
  urgency : OperatorUrgency
  rank : ℕ := 0
  scoringFactors : List (String × ℚ)
  scoredAt : DateTime
  compositeScore_mem : 0 ≤ compositeScore ∧ compositeScore ≤ 100

def ScoredCase.new (caseId : String) (compositeScore : ℚ) (route : RouteCategory)
    (urgency : OperatorUrgency) (scoringFactors : List (String × ℚ)) (scoredAt : DateTime) :
    Except PyError ScoredCase :=
  if h : 0 ≤ compositeScore ∧ compositeScore ≤ 100 then
    .ok {
      caseId := caseId
      compositeScore := compositeScore
      route := route
      urgency := urgency
      scoringFactors := scoringFactors
      scoredAt := scoredAt
      compositeScore_mem := h }
  else if compositeScore < 0 then
    .error (.validationError "composite_score: Input should be greater than or equal to 0")
  else
    .error (.validationError "composite_score: Input should be less than or equal to 100")

/-- `_DEFAULT_WEIGHTS`. -/
def defaultWeights : List SeverityWeight :=
  [⟨"severity_raw", 30 / 100, by norm_num⟩, ⟨"financial_impact", 25 / 100, by norm_num⟩,
    ⟨"affected_objects", 20 / 100, by norm_num⟩, ⟨"rule_criticality", 25 / 100, by norm_num⟩]

def severityMap : List (String × ℚ) :=
  [("critical", 1), ("high", 75 / 100), ("medium", 50 / 100), ("low", 25 / 100), ("info", 10 / 100)]

/-- `_SEVERITY_MAP.get(label.lower(), 0.50)`. -/
def level (uc : Casing) (label : String) : ℚ :=
  ((severityMap.find? fun p => p.1 = lower uc label).map Prod.snd).getD (50 / 100)

/-- `{w.dimension: w.weight for w in weights}`. -/
def weightMap (weights : List SeverityWeight) : Dict String ℚ :=
  weights.foldl (fun d w => d.set w.dimension w.weight) Dict.empty

section Factors
variable (uc : Casing) (inp : SeverityInput)

def financialFactor : ℚ :=
  if 0 < inp.financialImpact then min (inp.financialImpact / 1000000) 1 else 0

def objectsFactor : ℚ := min ((inp.affectedObjects : ℚ) / 100) 1

def factors : List (String × ℚ) :=
  [("severity_raw", level uc inp.severityRaw), ("financial_impact", financialFactor inp),
    ("affected_objects", objectsFactor inp), ("rule_criticality", level uc inp.ruleCriticality)]

def composite (weights : List SeverityWeight) : ℚ :=
  ((factors uc inp).map fun factor => factor.2 * (weightMap weights).getD factor.1 0).sum

def compositeScore (weights : List SeverityWeight) : ℚ :=
  roundDigits (composite uc inp weights * 100) 2

end Factors

/-- `_route`. -/
def routeOf (score : ℚ) : RouteCategory :=
  if 70 ≤ score then .mustBlock
  else if 45 ≤ score then .requiresReview
  else if 20 ≤ score then .monitor
  else .suppress

/-- `_urgency`. -/
def urgencyOf (score : ℚ) : OperatorUrgency :=
  if 70 ≤ score then .immediate
  else if 45 ≤ score then .sameDay
  else if 20 ≤ score then .thisWeek
  else .backlog

structure SeverityEngine where
  weights : List SeverityWeight
  seenHashes : List String
  clusters : Dict String (List String)

namespace SeverityEngine
variable (rt : Runtime) (uc : Casing)

/-- `weights or list(_DEFAULT_WEIGHTS)`. -/
def new (weights : Option (List SeverityWeight)) : SeverityEngine where
  weights := if weights.getD [] = [] then defaultWeights else weights.getD []
  seenHashes := []
  clusters := Dict.empty

/-- `_clusters.setdefault(cluster_id, []).append(case_id)`, if there is a cluster. -/
def cluster (inp : SeverityInput) : Method SeverityEngine Unit :=
  match inp.clusterId with
  | none => return ()
  | some clusterId =>
    if clusterId = "" then return ()
    else assign fun engine => { engine with
      clusters := engine.clusters.set clusterId (engine.clusters.getD clusterId [] ++ [inp.caseId]) }

def score (inp : SeverityInput) : Method SeverityEngine ScoredCase := do
  let compositeScore := compositeScore uc inp (← self).weights
  cluster inp
  let scoredAt := rt.now (← draw)
  lift (ScoredCase.new inp.caseId compositeScore (routeOf compositeScore) (urgencyOf compositeScore)
    (factors uc inp) scoredAt)

/-- The first sixteen digits of the hash of the case type, the domain pack and the severity. -/
def digest (inp : SeverityInput) : String :=
  String.ofList ((rt.sha256 s!"{inp.caseType}:{inp.domainPack}:{inp.severityRaw}").toList.take 16)

def isSeen (inp : SeverityInput) : Method SeverityEngine Bool := do
  if digest rt inp ∈ (← self).seenHashes then return true
  assign fun engine => { engine with seenHashes := engine.seenHashes ++ [digest rt inp] }
  return false

/-- The result for a duplicate that was seen before. -/
def suppressed (inp : SeverityInput) (scoredAt : DateTime) : ScoredCase where
  caseId := inp.caseId
  compositeScore := 0
  route := .suppress
  urgency := .backlog
  scoringFactors := [("suppressed", 1)]
  scoredAt := scoredAt
  compositeScore_mem := by norm_num

/-- `inp.is_duplicate and self._is_seen(inp)`. -/
def isSuppressed (inp : SeverityInput) : Method SeverityEngine Bool :=
  if inp.isDuplicate then isSeen rt inp else return false

/-- One turn of the loop over a batch. -/
def scoreOne (inp : SeverityInput) : Method SeverityEngine ScoredCase := do
  if ← isSuppressed rt inp then return suppressed inp (rt.now (← draw))
  score rt uc inp

def scoreEach : List SeverityInput → Method SeverityEngine (List ScoredCase)
  | [] => return []
  | inp :: inputs => do
    let result ← scoreOne rt uc inp
    return result :: (← scoreEach inputs)

/-- The cases of a sorted list, numbered from one. -/
def numbered (cases : List ScoredCase) : List ScoredCase :=
  cases.mapIdx fun i s => { s with rank := i + 1 }

def scoreBatch (inputs : List SeverityInput) : Method SeverityEngine (List ScoredCase) := do
  let results ← scoreEach rt uc inputs
  return numbered (ranked ScoredCase.compositeScore results)

end SeverityEngine

inductive SeverityCall where
  | score (inp : SeverityInput)
  | scoreBatch (inputs : List SeverityInput)

def SeverityCall.perform (rt : Runtime) (uc : Casing) : SeverityCall → Method SeverityEngine Unit
  | score inp => discard (SeverityEngine.score rt uc inp)
  | scoreBatch inputs => discard (SeverityEngine.scoreBatch rt uc inputs)

def severityStep (rt : Runtime) (uc : Casing) (call : SeverityCall) (w : World SeverityEngine) :
    World SeverityEngine := (call.perform rt uc).after w

end ControlFabric.Severity

/-! The range of the composite score. Neither the sum of the weights nor a negative number of
affected objects is checked, and the result type refuses what leaves the range between zero and one
hundred. -/
namespace ControlFabric.Severity
open Lib Py Method

/-! ### The weight of a dimension -/

section Weights
variable (weights : List SeverityWeight)

/-- The weight a dimension counts with: the last one that is given for it. -/
def weightOf (dimension : String) : ℚ := (weightMap weights).getD dimension 0

theorem weightOf_nil : weightOf [] = fun _ => 0 := rfl

theorem weightOf_concat (w : SeverityWeight) :
    weightOf (weights ++ [w]) = Function.update (weightOf weights) w.dimension w.weight := by
  funext dimension
  have hconcat : weightMap (weights ++ [w]) = (weightMap weights).set w.dimension w.weight := by
    simp [weightMap]
  by_cases h : dimension = w.dimension <;>
    simp [weightOf, hconcat, Dict.getD, Dict.get?_set, h]

theorem weightOf_mem (dimension : String) :
    0 ≤ weightOf weights dimension ∧ weightOf weights dimension ≤ 1 := by
  induction weights using List.reverseRecOn with
  | nil => norm_num [weightOf_nil]
  | append_singleton weights w ih =>
    rw [weightOf_concat, Function.update_apply]
    split
    · exact w.weight_mem
    · exact ih

theorem weightOf_nonneg (dimension : String) : 0 ≤ weightOf weights dimension :=
  (weightOf_mem weights dimension).1

/-- The dimensions weigh no more together than all weights given, of which a later one may replace
an earlier one. -/
theorem sum_weightOf_le (dimensions : Finset String) :
    ∑ dimension ∈ dimensions, weightOf weights dimension ≤
      (weights.map SeverityWeight.weight).sum := by
  induction weights using List.reverseRecOn with
  | nil => simp [weightOf_nil]
  | append_singleton weights w ih =>
    rw [weightOf_concat, List.map_append, List.sum_append, List.map_singleton, List.sum_singleton]
    by_cases hmem : w.dimension ∈ dimensions
    · have hrest : ∑ dimension ∈ dimensions \ {w.dimension}, weightOf weights dimension ≤
          ∑ dimension ∈ dimensions, weightOf weights dimension :=
        Finset.sum_le_sum_of_subset_of_nonneg Finset.sdiff_subset
          fun dimension _ _ => weightOf_nonneg weights dimension
      rw [Finset.sum_update_of_mem hmem]
      linarith
    · rw [Finset.sum_update_of_notMem hmem]
      linarith [w.weight_mem.1]

end Weights

/-! ### The factors -/

section Factors
variable (uc : Casing)

theorem level_mem (label : String) : 0 ≤ level uc label ∧ level uc label ≤ 1 := by
  unfold level
  cases hfound : severityMap.find? fun p => p.1 = lower uc label with
  | none => norm_num
  | some p =>
    have hmem : p ∈ severityMap := List.mem_of_find?_eq_some hfound
    have hall : ∀ p ∈ severityMap, 0 ≤ p.2 ∧ p.2 ≤ 1 := by norm_num [severityMap]
    exact hall p hmem

variable (inp : SeverityInput)

theorem financialFactor_mem : 0 ≤ financialFactor inp ∧ financialFactor inp ≤ 1 := by
  unfold financialFactor
  split
  next hpos => exact ⟨le_min (by positivity) zero_le_one, min_le_right _ _⟩
  · norm_num

/-- What the labels and the financial impact bring to the score. -/
def reach (weights : List SeverityWeight) : ℚ :=
  level uc inp.severityRaw * weightOf weights "severity_raw" +
    financialFactor inp * weightOf weights "financial_impact" +
    level uc inp.ruleCriticality * weightOf weights "rule_criticality"

variable (weights : List SeverityWeight)

theorem composite_eq : composite uc inp weights =
    reach uc inp weights + objectsFactor inp * weightOf weights "affected_objects" := by
  simp only [composite, factors, reach, weightOf, List.map_cons, List.map_nil, List.sum_cons,
    List.sum_nil]
  ring

theorem reach_nonneg : 0 ≤ reach uc inp weights := by
  have hraw := mul_nonneg (level_mem uc inp.severityRaw).1 (weightOf_nonneg weights "severity_raw")
  have hfinancial :=
    mul_nonneg (financialFactor_mem inp).1 (weightOf_nonneg weights "financial_impact")
  have hrule :=
    mul_nonneg (level_mem uc inp.ruleCriticality).1 (weightOf_nonneg weights "rule_criticality")
  unfold reach
  linarith

theorem reach_le : reach uc inp weights ≤ weightOf weights "severity_raw" +
    weightOf weights "financial_impact" + weightOf weights "rule_criticality" := by
  have hraw := mul_le_of_le_one_left (weightOf_nonneg weights "severity_raw")
    (level_mem uc inp.severityRaw).2
  have hfinancial := mul_le_of_le_one_left (weightOf_nonneg weights "financial_impact")
    (financialFactor_mem inp).2
  have hrule := mul_le_of_le_one_left (weightOf_nonneg weights "rule_criticality")
    (level_mem uc inp.ruleCriticality).2
  unfold reach
  linarith

/-- The score stays in range: a negative number of affected objects takes no more off than the other
factors bring, and the factors together do not exceed one, but for what rounding takes away. -/
structure Scorable : Prop where
  lower : -(100 * reach uc inp weights + 1 / 200) ≤
    inp.affectedObjects * weightOf weights "affected_objects"
  upper : reach uc inp weights +
    min ((inp.affectedObjects : ℚ) / 100) 1 * weightOf weights "affected_objects" ≤ 1 + 1 / 20000

/-- A hundredth below zero is not rounded away, and half of that is. -/
theorem compositeScore_nonneg_iff :
    0 ≤ compositeScore uc inp weights ↔ -(1 / 20000) ≤ composite uc inp weights := by
  have hround : (0 : ℤ) ≤ roundHalfEven (composite uc inp weights * 100 * 10 ^ 2) ↔ _ :=
    le_roundHalfEven_iff_of_even (by norm_num)
  unfold compositeScore roundDigits
  rw [le_div_iff₀ (by norm_num), zero_mul]
  norm_cast at hround ⊢
  rw [hround]
  push_cast
  constructor <;> intro h <;> linarith

theorem compositeScore_le_iff :
    compositeScore uc inp weights ≤ 100 ↔ composite uc inp weights ≤ 1 + 1 / 20000 := by
  have hround : roundHalfEven (composite uc inp weights * 100 * 10 ^ 2) ≤ (10000 : ℤ) ↔ _ :=
    roundHalfEven_le_iff_of_even (by norm_num)
  unfold compositeScore roundDigits
  rw [div_le_iff₀ (by norm_num)]
  norm_num at hround ⊢
  norm_cast at hround ⊢
  rw [hround]
  constructor <;> intro h <;> linarith

theorem scorable_iff : Scorable uc inp weights ↔
    0 ≤ compositeScore uc inp weights ∧ compositeScore uc inp weights ≤ 100 := by
  have hreach := reach_nonneg uc inp weights
  have hweight := weightOf_nonneg weights "affected_objects"
  have hlower : -(100 * reach uc inp weights + 1 / 200) ≤
      inp.affectedObjects * weightOf weights "affected_objects" ↔
        -(1 / 20000) ≤ composite uc inp weights := by
    rw [composite_eq, objectsFactor]
    rcases le_total ((inp.affectedObjects : ℚ) / 100) 1 with hfew | hmany
    · rw [min_eq_left hfew]
      constructor <;> intro h <;> linarith
    · -- with a hundred objects or more both sides are positive
      have hpos : 0 ≤ (inp.affectedObjects : ℚ) := by linarith
      have hproduct := mul_nonneg hpos hweight
      rw [min_eq_right hmany]
      constructor <;> intro _ <;> linarith
  rw [compositeScore_nonneg_iff, compositeScore_le_iff, ← hlower, composite_eq]
  exact ⟨fun h => ⟨h.lower, h.upper⟩, fun h => ⟨h.1, h.2⟩⟩

variable {uc inp weights} in
/-- Weights of at most one together, and objects that are not fewer than none, keep the range. -/
theorem Scorable.of_sum_le (hweights : (weights.map SeverityWeight.weight).sum ≤ 1)
    (hobjects : 0 ≤ inp.affectedObjects) : Scorable uc inp weights := by
  have hreach := reach_nonneg uc inp weights
  have hobjects' : (0 : ℚ) ≤ inp.affectedObjects := by exact_mod_cast hobjects
  have hweight := weightOf_nonneg weights "affected_objects"
  have hproduct := mul_nonneg hobjects' hweight
  have htotal : weightOf weights "severity_raw" + weightOf weights "financial_impact" +
      weightOf weights "rule_criticality" + weightOf weights "affected_objects" ≤ 1 := by
    have hsum := (sum_weightOf_le weights {"severity_raw", "financial_impact", "rule_criticality",
      "affected_objects"}).trans hweights
    simpa [← add_assoc] using hsum
  have hfactor := mul_le_of_le_one_left hweight (min_le_right ((inp.affectedObjects : ℚ) / 100) 1)
  constructor
  · linarith
  · linarith [reach_le uc inp weights]

end Factors

/-! ### Scoring -/

namespace SeverityEngine
variable (rt : Runtime) (uc : Casing) (inp : SeverityInput) (w : World SeverityEngine)

/-- Clustering touches nothing but the clusters. -/
theorem cluster_run : ∃ clusters, (cluster inp).run w =
    .ok () ⟨{ w.self with clusters := clusters }, w.env⟩ := by
  unfold cluster
  cases inp.clusterId with
  | none => exact ⟨w.self.clusters, rfl⟩
  | some clusterId =>
    dsimp only
    split
    · exact ⟨w.self.clusters, rfl⟩
    · exact ⟨_, rfl⟩

/-- What `score` returns, if the score is in range. -/
def scored (weights : List SeverityWeight) (scoredAt : DateTime)
    (h : Scorable uc inp weights) : ScoredCase where
  caseId := inp.caseId
  compositeScore := compositeScore uc inp weights
  route := routeOf (compositeScore uc inp weights)
  urgency := urgencyOf (compositeScore uc inp weights)
  scoringFactors := factors uc inp
  scoredAt := scoredAt
  compositeScore_mem := (scorable_iff uc inp weights).mp h

/-- The composite score and what goes with it are put into a case, after clustering. -/
theorem score_run : ∃ clusters, (score rt uc inp).run w =
    (lift (ScoredCase.new inp.caseId (compositeScore uc inp w.self.weights)
      (routeOf (compositeScore uc inp w.self.weights))
      (urgencyOf (compositeScore uc inp w.self.weights)) (factors uc inp)
      (rt.now w.env.draws))).run ⟨{ w.self with clusters := clusters }, w.env.tick 1⟩ := by
  obtain ⟨clusters, hcluster⟩ := cluster_run inp w
  exact ⟨clusters, by simp [score, hcluster, Env.tick]⟩

theorem score_after : ∃ clusters, (score rt uc inp).after w =
    ⟨{ w.self with clusters := clusters }, w.env.tick 1⟩ := by
  obtain ⟨clusters, hscore⟩ := score_run rt uc inp w
  refine ⟨clusters, ?_⟩
  rw [after, hscore]
  cases ScoredCase.new inp.caseId (compositeScore uc inp w.self.weights)
    (routeOf (compositeScore uc inp w.self.weights))
    (urgencyOf (compositeScore uc inp w.self.weights)) (factors uc inp) (rt.now w.env.draws) <;> rfl

variable {uc inp w}

theorem score_ok (h : Scorable uc inp w.self.weights) : ∃ clusters, (score rt uc inp).run w =
    .ok (scored uc inp w.self.weights (rt.now w.env.draws) h)
      ⟨{ w.self with clusters := clusters }, w.env.tick 1⟩ := by
  obtain ⟨clusters, hscore⟩ := score_run rt uc inp w
  have hrange := (scorable_iff uc inp w.self.weights).mp h
  refine ⟨clusters, hscore.trans ?_⟩
  rw [ScoredCase.new, dif_pos hrange]
  rfl

theorem score_returns {s : ScoredCase} {w' : World SeverityEngine}
    (h : (score rt uc inp).run w = .ok s w') :
    ∃ hrange : Scorable uc inp w.self.weights,
      s = scored uc inp w.self.weights (rt.now w.env.draws) hrange := by
  obtain ⟨clusters, hscore⟩ := score_run rt uc inp w
  rw [hscore, lift_ok] at h
  obtain ⟨hnew, -⟩ := h
  unfold ScoredCase.new at hnew
  split at hnew
  next hrange =>
    exact ⟨(scorable_iff uc inp w.self.weights).mpr hrange, (Except.ok.inj hnew).symm⟩
  next =>
    split at hnew <;> cases hnew

variable (uc inp w)

/-- An input is scored, between zero and a hundred, exactly when it is scorable with the weights. -/
theorem score_in_range_iff : (∃ s w', (score rt uc inp).run w = .ok s w' ∧
    0 ≤ s.compositeScore ∧ s.compositeScore ≤ 100) ↔ Scorable uc inp w.self.weights := by
  constructor
  · rintro ⟨s, w', h, -⟩
    exact (score_returns rt h).1
  · intro h
    obtain ⟨clusters, hscore⟩ := score_ok rt h
    exact ⟨_, _, hscore, (scored uc inp w.self.weights (rt.now w.env.draws) h).compositeScore_mem⟩

/-- A critical case of a million. -/
def crisis : SeverityInput where
  caseId := "case-1"
  caseType := "billing"
  severityRaw := "critical"
  financialImpact := 1000000

/-- Two dimensions of full weight. -/
def fullWeights : List SeverityWeight :=
  [⟨"severity_raw", 1, by norm_num⟩, ⟨"financial_impact", 1, by norm_num⟩]

/-- With two full weights the crisis would score two hundred. -/
theorem crisis_not_scored : ¬ ∀ (rt : Runtime) (uc : Casing) (inp : SeverityInput)
    (weights : List SeverityWeight), ∃ s w',
      (score rt uc inp).run ⟨new (some weights), .initial "north"⟩ = .ok s w' ∧
        0 ≤ s.compositeScore ∧ s.compositeScore ≤ 100 := by
  intro h
  obtain ⟨s, w', hscore, -⟩ := h .reference .ascii crisis fullWeights
  have hraised : (score .reference .ascii crisis).returns
      ⟨new (some fullWeights), .initial "north"⟩ = false := by decide +kernel
  rw [returns, hscore] at hraised
  cases hraised

/-- With the default weights, a thousand objects less than none take it below zero. -/
example : (score .reference .ascii { crisis with affectedObjects := -1000 }).returns
    ⟨new none, .initial "north"⟩ = false := by decide +kernel

end SeverityEngine
end ControlFabric.Severity
