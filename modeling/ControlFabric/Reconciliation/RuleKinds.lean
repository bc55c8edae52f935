import ControlFabric.Reconciliation.Scores
import ControlFabric.Reconciliation.Accounted

/-! The kinds that a rule declares: applicability does not ask for them, so a rule takes part in the
scoring of pairs of other kinds. -/
namespace ControlFabric.Fabric.Reconciliation
open Lib

/-- Kinds are declared, and none of the objects is of one of them. -/
def Undeclared (kinds : List String) (objects : List ControlObject) : Prop :=
  kinds ≠ [] ∧ ∀ obj ∈ objects, obj.objectKind ∉ kinds

/-- The registry without the rule of that name. -/
def ReconciliationRuleRegistry.without (registry : ReconciliationRuleRegistry) (ruleId : String) :
    ReconciliationRuleRegistry := ⟨registry.rules.filter fun e => e.1 ≠ ruleId⟩

theorem ReconciliationRuleRegistry.listRules_without {registry : ReconciliationRuleRegistry}
    {rule : ReconciliationRule} (h : registry.rules.get? rule.ruleId = some rule) :
    ∃ pre post, registry.listRules = pre ++ rule :: post ∧
      (registry.without rule.ruleId).listRules = pre ++ post := by
  obtain ⟨pre, post, hentries⟩ := List.append_of_mem (Dict.get?_eq_some.mp h)
  have hnodup := registry.rules.nodup
  rw [hentries, List.map_append, List.map_cons, List.nodup_append] at hnodup
  obtain ⟨-, hpost, hpre⟩ := hnodup
  obtain ⟨hpost, -⟩ := List.nodup_cons.mp hpost
  have hkeep {l : List (String × ReconciliationRule)} (hl : rule.ruleId ∉ l.map Prod.fst) :
      l.filter (fun e => e.1 ≠ rule.ruleId) = l := by
    rw [List.filter_eq_self]
    intro e he
    have hne : e.1 ≠ rule.ruleId := fun heq => hl (heq ▸ List.mem_map_of_mem he)
    simpa using hne
  have hpre : rule.ruleId ∉ pre.map Prod.fst := fun hmem =>
    hpre _ hmem _ List.mem_cons_self rfl
  refine ⟨pre.map Prod.snd, post.map Prod.snd, ?_, ?_⟩
  · unfold ReconciliationRuleRegistry.listRules Dict.values
    rw [hentries, List.map_append, List.map_cons]
  · show (registry.rules.entries.filter fun e => e.1 ≠ rule.ruleId).map Prod.snd = _
    rw [hentries, List.filter_append, hkeep hpre, List.filter_cons_of_neg (by simp), hkeep hpost,
      List.map_append]

/-- Scoring a pair with the one registry and with the other gives the same. -/
structure SameScoring (ops : ValueOps) (registry registry' : ReconciliationRuleRegistry)
    (source target : ControlObject) (links : List ControlLink) : Prop where
  score : CandidateScorer.finalScore ops (CandidateScorer.results registry source target links) =
    CandidateScorer.finalScore ops (CandidateScorer.results registry' source target links)
  hardFail : (∃ r ∈ CandidateScorer.results registry source target links, r.2.hardFail) ↔
    ∃ r ∈ CandidateScorer.results registry' source target links, r.2.hardFail
  mismatches : CandidateScorer.reports (CandidateScorer.results registry source target links) =
    CandidateScorer.reports (CandidateScorer.results registry' source target links)

/-- The weighted average of the results. -/
def average (ops : ValueOps) (results : List (ReconciliationRule × ReconciliationRuleResult)) : ℚ :=
  (CandidateScorer.breakdown ops results).normalizedScore ops

/-- The rule finds nothing on the pair, and either another rule fails the pair or this one does not
and leaves the average of the others as it is. -/
def Silent (ops : ValueOps) (registry : ReconciliationRuleRegistry) (rule : ReconciliationRule)
    (source target : ControlObject) (links : List ControlLink) : Prop :=
  (rule.evaluate source target links).mismatches = [] ∧
    ((∃ r ∈ CandidateScorer.results (registry.without rule.ruleId) source target links,
        r.2.hardFail) ∨
      ¬ (rule.evaluate source target links).hardFail ∧
        average ops (CandidateScorer.results registry source target links) =
          average ops
            (CandidateScorer.results (registry.without rule.ruleId) source target links))

section Scoring
variable {ops : ValueOps} {registry : ReconciliationRuleRegistry} {rule : ReconciliationRule}
  {source target : ControlObject} {links : List ControlLink}

theorem results_without (h : registry.rules.get? rule.ruleId = some rule) (source target : ControlObject)
    (links : List ControlLink) : ∃ pre post,
      CandidateScorer.results (registry.without rule.ruleId) source target links = pre ++ post ∧
      CandidateScorer.results registry source target links =
        pre ++ (if rule.isApplicable source target then
          [(rule, rule.evaluate source target links)] else []) ++ post := by
  obtain ⟨pre, post, hwith, hwithout⟩ := ReconciliationRuleRegistry.listRules_without h
  refine ⟨(pre.filter fun r => r.isApplicable source target).map fun r =>
      (r, r.evaluate source target links),
    (post.filter fun r => r.isApplicable source target).map fun r =>
      (r, r.evaluate source target links), ?_, ?_⟩
  · unfold CandidateScorer.results ReconciliationRuleRegistry.getApplicableRules
    rw [hwithout, List.filter_append, List.map_append]
  · unfold CandidateScorer.results ReconciliationRuleRegistry.getApplicableRules
    rw [hwith, List.filter_append, List.filter_cons, List.map_append]
    split <;> simp

/-- An inserted item adds nothing exactly when it has nothing to add. -/
theorem flatMap_insert_iff {α β : Type} (f : α → List β) (pre post : List α) (a : α) :
    (pre ++ [a] ++ post).flatMap f = (pre ++ post).flatMap f ↔ f a = [] := by
  constructor
  · intro h
    have hlen := congrArg List.length h
    simp only [List.flatMap_append, List.flatMap_cons, List.flatMap_nil, List.append_nil,
      List.length_append] at hlen
    exact List.length_eq_zero_iff.mp (by omega)
  · intro h
    simp [h]

theorem exists_insert_iff {α : Type} (p : α → Prop) (pre post : List α) (a : α) :
    (∃ r ∈ pre ++ [a] ++ post, p r) ↔ (∃ r ∈ pre ++ post, p r) ∨ p a := by
  simp only [List.mem_append, List.mem_singleton]
  constructor
  · rintro ⟨r, (hr | rfl) | hr, hp⟩
    · exact Or.inl ⟨r, Or.inl hr, hp⟩
    · exact Or.inr hp
    · exact Or.inl ⟨r, Or.inr hr, hp⟩
  · rintro (⟨r, hr | hr, hp⟩ | hp)
    · exact ⟨r, Or.inl (Or.inl hr), hp⟩
    · exact ⟨r, Or.inr hr, hp⟩
    · exact ⟨a, Or.inl (Or.inr rfl), hp⟩

/-- A hard failure overrides the average. -/
theorem finalScore_eq (ops : ValueOps)
    (results : List (ReconciliationRule × ReconciliationRuleResult)) :
    CandidateScorer.finalScore ops results =
      if ∃ r ∈ results, r.2.hardFail then 0 else average ops results := by
  unfold CandidateScorer.finalScore average
  simp only [List.any_eq_true]

/-- With and without an applicable rule the scoring of a pair is the same exactly when the rule is
silent on it. -/
theorem sameScoring_iff (h : registry.rules.get? rule.ruleId = some rule) :
    SameScoring ops registry (registry.without rule.ruleId) source target links ↔
      ¬ rule.isApplicable source target ∨ Silent ops registry rule source target links := by
  obtain ⟨pre, post, hwithout, hwith⟩ := results_without h source target links
  by_cases happ : rule.isApplicable source target
  · rw [if_pos happ] at hwith
    have hfail : (∃ r ∈ CandidateScorer.results registry source target links, r.2.hardFail) ↔
        (∃ r ∈ CandidateScorer.results (registry.without rule.ruleId) source target links,
          r.2.hardFail) ∨ (rule.evaluate source target links).hardFail := by
      rw [hwith, hwithout]
      exact exists_insert_iff _ pre post _
    have hreports : CandidateScorer.reports
          (CandidateScorer.results registry source target links) =
        CandidateScorer.reports
          (CandidateScorer.results (registry.without rule.ruleId) source target links) ↔
        (rule.evaluate source target links).mismatches = [] := by
      rw [hwith, hwithout]
      exact flatMap_insert_iff _ pre post _
    rw [or_iff_right (not_not.mpr happ)]
    constructor
    · rintro ⟨hsame, hhard, hmismatches⟩
      refine ⟨hreports.mp hmismatches, ?_⟩
      by_cases hothers : ∃ r ∈ CandidateScorer.results (registry.without rule.ruleId) source target
          links, r.2.hardFail
      · exact Or.inl hothers
      · have hnone := mt hhard.mp hothers
        rw [finalScore_eq, finalScore_eq, if_neg hnone, if_neg hothers] at hsame
        exact Or.inr ⟨fun hf => hnone (hfail.mpr (Or.inr hf)), hsame⟩
    · rintro ⟨hmismatches, hothers | ⟨hpass, hsame⟩⟩
      · have hboth := hfail.mpr (Or.inl hothers)
        exact ⟨by rw [finalScore_eq, finalScore_eq, if_pos hboth, if_pos hothers],
          iff_of_true hboth hothers, hreports.mpr hmismatches⟩
      · have hhard := hfail.trans (or_iff_left hpass)
        refine ⟨?_, hhard, hreports.mpr hmismatches⟩
        rw [finalScore_eq, finalScore_eq, hsame]
        simp only [hhard]
  · rw [if_neg happ, List.append_nil, ← hwithout] at hwith
    refine iff_of_true ⟨?_, ?_, ?_⟩ (Or.inl happ) <;> rw [hwith]

end Scoring

/-! ### The average in rational arithmetic -/

theorem average_share (floatOfStr : String → Option PyFloat) (str : Json → String)
    {results : List (ReconciliationRule × ReconciliationRuleResult)}
    (h : CandidateScorer.AllWithin results) (hne : results ≠ []) :
    average (.rational floatOfStr str) results = contributed results / weighed results := by
  have hpos := CandidateScorer.weighed_pos h hne
  unfold average MatchScoreBreakdown.normalizedScore
  rw [CandidateScorer.breakdown_rational, if_neg (not_le.mpr hpos)]
  exact min_eq_left ((div_le_one hpos).mpr (CandidateScorer.contributed_le_weighed h))

/-- In rational arithmetic a rule that keeps to its weight leaves the average as it is when it
contributes the share of its weight that the others contribute of theirs, or nothing when there are
none. -/
theorem average_kept_iff (floatOfStr : String → Option PyFloat) (str : Json → String)
    {pre post : List (ReconciliationRule × ReconciliationRuleResult)}
    {r : ReconciliationRule × ReconciliationRuleResult}
    (hothers : CandidateScorer.AllWithin (pre ++ post)) (hr : CandidateScorer.AllWithin [r]) :
    average (.rational floatOfStr str) (pre ++ [r] ++ post) =
        average (.rational floatOfStr str) (pre ++ post) ↔
      if pre ++ post = [] then r.2.scoreContribution = 0
      else r.2.scoreContribution * weighed (pre ++ post) =
        r.1.weight.weight * contributed (pre ++ post) := by
  have hall : CandidateScorer.AllWithin (pre ++ [r] ++ post) := by
    intro r' hr'
    simp only [List.append_assoc, List.mem_append] at hr'
    rcases hr' with hr' | hr' | hr'
    · exact hothers r' (List.mem_append_left _ hr')
    · exact hr r' hr'
    · exact hothers r' (List.mem_append_right _ hr')
  have hsums : contributed (pre ++ [r] ++ post) =
        r.2.scoreContribution + contributed (pre ++ post) ∧
      weighed (pre ++ [r] ++ post) = r.1.weight.weight + weighed (pre ++ post) := by
    constructor <;>
      simp only [contributed, weighed, List.map_append, List.map_cons, List.map_nil,
        List.sum_append, List.sum_cons, List.sum_nil] <;> ring
  have hweight := (hr r (List.mem_singleton_self r)).1
  rw [average_share floatOfStr str hall (by simp), hsums.1, hsums.2]
  split
  next hnil =>
    rw [hnil]
    simp only [contributed, weighed, List.map_nil, List.sum_nil, add_zero]
    rw [show average (.rational floatOfStr str) [] = 0 from rfl, div_eq_zero_iff]
    exact or_iff_left hweight.ne'
  next hne =>
    have hpos := CandidateScorer.weighed_pos hothers hne
    rw [average_share floatOfStr str hothers hne, div_eq_div_iff (by positivity) hpos.ne']
    constructor <;> intro h <;> linarith

/-- The rule contributes of its weight the share that the other rules contribute of theirs, or
nothing when there are no others. -/
def SharesAlike (registry : ReconciliationRuleRegistry) (rule : ReconciliationRule)
    (source target : ControlObject) (links : List ControlLink) : Prop :=
  let others := CandidateScorer.results (registry.without rule.ruleId) source target links
  let contribution := (rule.evaluate source target links).scoreContribution
  if others = [] then contribution = 0
  else contribution * weighed others = rule.weight.weight * contributed others

/-- In rational arithmetic, and where all rules keep to their weights, an applicable rule is silent
when it finds nothing and, unless another rule fails the pair, does not fail it and shares alike. -/
theorem silent_rational_iff (floatOfStr : String → Option PyFloat) (str : Json → String)
    {registry : ReconciliationRuleRegistry} {rule : ReconciliationRule}
    (h : registry.rules.get? rule.ruleId = some rule) {source target : ControlObject}
    {links : List ControlLink} (happ : rule.isApplicable source target)
    (hwithin : CandidateScorer.AllWithin
      (CandidateScorer.results registry source target links)) :
    Silent (.rational floatOfStr str) registry rule source target links ↔
      (rule.evaluate source target links).mismatches = [] ∧
        ((∃ r ∈ CandidateScorer.results (registry.without rule.ruleId) source target links,
            r.2.hardFail) ∨
          ¬ (rule.evaluate source target links).hardFail ∧
            SharesAlike registry rule source target links) := by
  obtain ⟨pre, post, hwithout, hwith⟩ := results_without h source target links
  rw [if_pos happ] at hwith
  have hothers : CandidateScorer.AllWithin (pre ++ post) := by
    intro r hr
    apply hwithin
    rw [hwith]
    rcases List.mem_append.mp hr with hr | hr
    · exact List.mem_append_left _ (List.mem_append_left _ hr)
    · exact List.mem_append_right _ hr
  have hown : CandidateScorer.AllWithin [(rule, rule.evaluate source target links)] := by
    intro r hr
    apply hwithin
    rw [hwith]
    exact List.mem_append_left _ (List.mem_append_right _ hr)
  unfold Silent SharesAlike
  rw [hwith, hwithout, average_kept_iff floatOfStr str hothers hown]

/-! ### A billed work order -/

/-- An object of a kind that no domain pack declares, billed and not completed. -/
def billedObject (id : String) (plane : PlaneType) : ControlObject :=
  { keyedObject id plane [("order", "7")] with
    objectKind := "invoice"
    payload := [("is_billed", .bool true)] }

end ControlFabric.Fabric.Reconciliation
