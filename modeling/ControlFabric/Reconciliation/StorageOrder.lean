import ControlFabric.Reconciliation.OneToOne
import ControlFabric.Reconciliation.Reorder

/-! Runs on the same objects and links in two storage orders. Their outcomes agree, but for the
choice among several candidates that share the best score of a source. -/
namespace ControlFabric.Fabric.Reconciliation
open Lib

/-- What is compared of a scored candidate. -/
structure ScoredPair where
  sourceObjectId : String
  targetObjectId : String
  score : ℚ
  categories : List CrossPlaneMismatchCategory

def MatchCandidate.scoredPair (c : MatchCandidate) : ScoredPair where
  sourceObjectId := c.sourceObjectId
  targetObjectId := c.targetObjectId
  score := c.score
  categories := c.mismatches.map fun m => m.category

/-- What is compared of an outcome. -/
structure OutcomeView where
  outcomeType : ReconciliationOutcomeType
  sourceObjectId : Option String
  targetObjectId : Option String
  score : Option ℚ
  categories : List CrossPlaneMismatchCategory
  duplicateTargetIds : Multiset String
deriving DecidableEq

/-- Without what tells the candidates of one source and score apart. -/
def OutcomeView.blur (view : OutcomeView) : OutcomeView :=
  { view with targetObjectId := none, categories := [] }

/-- Another candidate of the source has the same score. -/
def Tied (candidates : List MatchCandidate) (c : MatchCandidate) : Prop :=
  1 < candidates.countP fun c' => c'.sourceObjectId = c.sourceObjectId ∧ c'.score = c.score

instance (candidates : List MatchCandidate) (c : MatchCandidate) : Decidable (Tied candidates c) :=
  inferInstanceAs (Decidable (_ < _))

namespace ReconciliationOutcome

def view (outcome : ReconciliationOutcome) : OutcomeView where
  outcomeType := outcome.outcomeType
  sourceObjectId := outcome.sourceObjectId
  targetObjectId := outcome.targetObjectId
  score := outcome.candidate.map MatchCandidate.score
  categories := outcome.mismatches.map fun m => m.category
  duplicateTargetIds := outcome.duplicateTargetIds

/-- The view, blurred if the candidate of the outcome is one of several with its score. -/
def viewIn (candidates : List MatchCandidate) (outcome : ReconciliationOutcome) : OutcomeView :=
  if outcome.candidate.any fun c => Tied candidates c then outcome.view.blur else outcome.view

end ReconciliationOutcome

theorem pairOutcome_viewIn (candidates : List MatchCandidate)
    (outcomeType : ReconciliationOutcomeType) (c : MatchCandidate) :
    (ReconciliationAssembler.pairOutcome outcomeType c).viewIn candidates =
      if Tied candidates c then (ReconciliationAssembler.pairOutcome outcomeType c).view.blur
      else (ReconciliationAssembler.pairOutcome outcomeType c).view := by
  simp [ReconciliationOutcome.viewIn, ReconciliationAssembler.pairOutcome]

/-! ### Candidates -/

section Candidates
variable {l l' : List MatchCandidate} {c c' : MatchCandidate}

theorem tied_iff (h : (l.map MatchCandidate.scoredPair).Perm (l'.map MatchCandidate.scoredPair))
    (hsource : c.sourceObjectId = c'.sourceObjectId) (hscore : c.score = c'.score) :
    Tied l c ↔ Tied l' c' := by
  have hcount := h.countP_eq fun e =>
    decide (e.sourceObjectId = c'.sourceObjectId ∧ e.score = c'.score)
  rw [List.countP_map, List.countP_map] at hcount
  unfold Tied
  rw [hsource, hscore]
  exact iff_of_eq (congrArg (1 < ·) hcount)

theorem Leading.scoredPair_le
    (h : (l.map MatchCandidate.scoredPair).Perm (l'.map MatchCandidate.scoredPair))
    (hc : Leading l c) (hc' : c' ∈ l') (hsource : c'.sourceObjectId = c.sourceObjectId) :
    c'.score ≤ c.score := by
  obtain ⟨c₁, hc₁, heq⟩ := List.mem_map.mp (h.mem_iff.mpr (List.mem_map_of_mem hc'))
  obtain ⟨hsource₁, -, hscore₁, -⟩ := ScoredPair.mk.inj heq
  rw [← hscore₁]
  exact hc.le hc₁ (hsource₁.trans hsource)

/-- The leading candidates of a source have the same score. -/
theorem Leading.score_eq
    (h : (l.map MatchCandidate.scoredPair).Perm (l'.map MatchCandidate.scoredPair))
    (hc : Leading l c) (hc' : Leading l' c') (hsource : c.sourceObjectId = c'.sourceObjectId) :
    c.score = c'.score :=
  le_antisymm (hc'.scoredPair_le h.symm hc.mem hsource) (hc.scoredPair_le h hc'.mem hsource.symm)

/-- They are alike if no other candidate has the score. -/
theorem Leading.scoredPair_eq
    (h : (l.map MatchCandidate.scoredPair).Perm (l'.map MatchCandidate.scoredPair))
    (hc : Leading l c) (hc' : Leading l' c') (hsource : c.sourceObjectId = c'.sourceObjectId)
    (halone : ¬ Tied l c) : c.scoredPair = c'.scoredPair := by
  have hscore := hc.score_eq h hc' hsource
  obtain ⟨c₁, hc₁, heq⟩ := List.mem_map.mp (h.mem_iff.mpr (List.mem_map_of_mem hc'.mem))
  obtain ⟨hsource₁, -, hscore₁, -⟩ := ScoredPair.mk.inj heq
  have hsame : c = c₁ := by
    apply eq_of_countP_le_one (not_lt.mp halone) hc.mem hc₁
    · simp
    · simp [hsource₁.trans hsource.symm, hscore₁.trans hscore.symm]
  rw [hsame, heq]

end Candidates

namespace ReconciliationOrchestrator
variable {rt rt' : Runtime} {ops : ValueOps} {o : ReconciliationOrchestrator} {n n' : ℕ}
  {request : ReconciliationRequest} {d d' : GraphData}

/-- The same object is found among the sources, and among the targets. -/
theorem findObject_perm (hcoherent : d.Coherent) {l l' : List ControlObject} (hperm : l.Perm l')
    (hsub : l ⊆ d.sourceObjects ++ d.targetObjects) (id : String) :
    findObject id l = findObject id l' := by
  apply find?_of_perm hperm
  intro obj hobj obj' hobj' hid hid'
  apply hcoherent obj (hsub hobj) obj' (hsub hobj')
  exact (of_decide_eq_true hid).trans (of_decide_eq_true hid').symm

/-- The same candidates are proposed. -/
theorem proposed_mem_iff (h : d.Reordered d') (hcoherent : d.Coherent) {c : MatchCandidate} :
    c ∈ CandidateGenerator.proposed d.sourceObjects d.targetObjects d.links ↔
      c ∈ CandidateGenerator.proposed d'.sourceObjects d'.targetObjects d'.links := by
  have hlink : CandidateGenerator.fromLink d.sourceObjects d.targetObjects =
      CandidateGenerator.fromLink d'.sourceObjects d'.targetObjects := by
    funext link
    unfold CandidateGenerator.fromLink CandidateGenerator.linkCandidates
    simp only [findObject_perm hcoherent h.sources (List.subset_append_left _ _),
      findObject_perm hcoherent h.targets (List.subset_append_right _ _)]
  have htexts (matchMethod : String) (texts : ControlObject → List (String × String)) :
      c ∈ d.sourceObjects.flatMap (CandidateGenerator.fromTexts d.targetObjects matchMethod texts) ↔
        c ∈ d'.sourceObjects.flatMap
          (CandidateGenerator.fromTexts d'.targetObjects matchMethod texts) := by
    simp only [List.mem_flatMap, CandidateGenerator.mem_fromTexts, h.sources.mem_iff,
      h.targets.mem_iff]
  unfold CandidateGenerator.proposed
  rw [List.mem_append, List.mem_append, List.mem_append, List.mem_append, htexts, htexts, hlink,
    (h.links.flatMap_right _).mem_iff]

theorem candidates_pairs_perm (h : d.Reordered d') (hcoherent : d.Coherent) :
    ((candidates d).map MatchCandidate.pair).Perm ((candidates d').map MatchCandidate.pair) := by
  unfold candidates CandidateGenerator.generate
  rw [List.perm_ext_iff_of_nodup (firsts_nodup _) (firsts_nodup _)]
  intro pair
  rw [mem_map_firsts, mem_map_firsts, List.mem_map, List.mem_map]
  simp only [proposed_mem_iff h hcoherent]

variable (ops) in
/-- Rules that are blind to the order of the links give the two objects one score. -/
theorem results_agree (hrules : ∀ rule ∈ o.ruleRegistry.listRules, rule.OrderBlind)
    (source target : ControlObject) {links links' : List ControlLink} (hlinks : links.Perm links') :
    CandidateScorer.finalScore ops (CandidateScorer.results o.ruleRegistry source target links) =
        CandidateScorer.finalScore ops
          (CandidateScorer.results o.ruleRegistry source target links') ∧
      (CandidateScorer.reports
          (CandidateScorer.results o.ruleRegistry source target links)).map
            MismatchReport.category =
        (CandidateScorer.reports
          (CandidateScorer.results o.ruleRegistry source target links')).map
            MismatchReport.category := by
  have hagrees : ∀ rule ∈ o.ruleRegistry.getApplicableRules source target,
      (rule.evaluate source target links).Agrees (rule.evaluate source target links') := by
    intro rule hrule
    exact hrules rule (List.mem_of_mem_filter hrule) source target links links' hlinks
  unfold CandidateScorer.results
  generalize o.ruleRegistry.getApplicableRules source target = rules at hagrees
  have hbreakdown : CandidateScorer.breakdown ops
        (rules.map fun rule => (rule, rule.evaluate source target links)) =
      CandidateScorer.breakdown ops
        (rules.map fun rule => (rule, rule.evaluate source target links')) := by
    unfold CandidateScorer.breakdown
    rw [List.foldl_map, List.foldl_map]
    apply List.foldl_ext
    intro b rule hrule
    dsimp only
    rw [(hagrees rule hrule).scoreContribution]
  have hhard : (rules.map fun rule => (rule, rule.evaluate source target links)).any
        (fun r => r.2.hardFail) =
      (rules.map fun rule => (rule, rule.evaluate source target links')).any
        (fun r => r.2.hardFail) := by
    rw [List.any_map, List.any_map, Bool.eq_iff_iff, List.any_eq_true, List.any_eq_true]
    constructor
    · rintro ⟨rule, hrule, hfail⟩
      exact ⟨rule, hrule, (hagrees rule hrule).hardFail.symm.trans hfail⟩
    · rintro ⟨rule, hrule, hfail⟩
      exact ⟨rule, hrule, (hagrees rule hrule).hardFail.trans hfail⟩
  constructor
  · unfold CandidateScorer.finalScore
    rw [hhard, hbreakdown]
  · unfold CandidateScorer.reports
    rw [List.flatMap_map, List.flatMap_map, List.map_flatMap, List.map_flatMap]
    apply List.flatMap_congr
    intro rule hrule
    exact (hagrees rule hrule).categories

variable (rt rt' ops n n') in
/-- The scored candidates of the two runs are the same, up to their order and their draws. -/
theorem scoredPairs_perm (h : d.Reordered d') (hcoherent : d.Coherent)
    (hrules : ∀ rule ∈ o.ruleRegistry.listRules, rule.OrderBlind) :
    ((o.scoredCandidates rt ops n d).map MatchCandidate.scoredPair).Perm
      ((o.scoredCandidates rt' ops n' d').map MatchCandidate.scoredPair) := by
  apply map_perm_of_map (f := MatchCandidate.pair)
  · rw [scoredCandidates_pairs, scoredCandidates_pairs]
    exact candidates_pairs_perm h hcoherent
  · intro c hc c' hc' hpair
    obtain ⟨c₀, -, source, target, k, hsource, htarget, rfl⟩ := CandidateScorer.mem_scoreAll hc
    obtain ⟨c₁, -, source', target', k', hsource', htarget', rfl⟩ :=
      CandidateScorer.mem_scoreAll hc'
    obtain ⟨hsourceId, htargetId⟩ := Prod.mk.inj hpair
    have hobject {id id' : String} {obj obj' : ControlObject}
        (hget : (objectsById d).get? id = some obj) (hget' : (objectsById d').get? id' = some obj')
        (hid : id = id') : obj = obj' := by
      obtain ⟨hobj, rfl⟩ := objectsById_get? hget
      obtain ⟨hobj', rfl⟩ := objectsById_get? hget'
      exact hcoherent obj hobj obj' (h.mem_objects.mpr hobj') hid
    obtain rfl := hobject hsource hsource' hsourceId
    obtain rfl := hobject htarget htarget' htargetId
    obtain ⟨hscore, hcategories⟩ := results_agree ops hrules source target h.links
    have hreports (k : ℕ) (reports : List MismatchReport) (rt : Runtime) :
        ((buildMismatches rt k reports).map fun m => m.category) =
          reports.map MismatchReport.category := by
      rw [← buildMismatches_reports rt k reports, List.map_map]
      rw [buildMismatches_reports]
      rfl
    unfold MatchCandidate.scoredPair
    rw [ScoredPair.mk.injEq]
    refine ⟨hsourceId, htargetId, hscore, ?_⟩
    exact (hreports _ _ _).trans (hcategories.trans (hreports _ _ _).symm)

/-! ### Outcomes -/

/-- The view of a duplicate outcome, which does not show its draw. -/
def DuplicateCandidateSet.view (dupSet : DuplicateCandidateSet) : OutcomeView where
  outcomeType := .duplicateDetected
  sourceObjectId := some dupSet.sourceObjectId
  targetObjectId := none
  score := none
  categories := [.duplicateCandidate]
  duplicateTargetIds := dupSet.duplicateTargetIds

/-- The view of a mismatch outcome. -/
def MismatchReport.view (r : MismatchReport) : OutcomeView where
  outcomeType := .mismatchDetected
  sourceObjectId := r.sourceObjectId
  targetObjectId := r.targetObjectId
  score := none
  categories := [r.category]
  duplicateTargetIds := 0

theorem duplicates_eq : o.duplicates rt ops n d =
    (DuplicateDetector.bySource (o.scoredCandidates rt ops n d)).keys.filterMap fun s =>
      DuplicateDetector.duplicatesOf ops o.duplicateGapThreshold s
        ((o.scoredCandidates rt ops n d).filter fun c => c.sourceObjectId = s) := by
  unfold duplicates DuplicateDetector.detect DuplicateDetector.bySource
  rw [entries_groups, List.filterMap_map]
  rfl

theorem duplicateOutcomes_viewIn (candidates : List MatchCandidate) :
    (o.duplicateOutcomes rt ops n request d).map (ReconciliationOutcome.viewIn candidates) =
      (o.duplicates rt ops n d).map DuplicateCandidateSet.view := by
  unfold duplicateOutcomes
  apply List.ext_getElem
  · simp
  · intro i hi hi'
    rw [List.getElem_map, List.getElem_map, List.getElem_mapIdx]
    rfl

theorem gapOutcomes_viewIn (candidates : List MatchCandidate) :
    (gapOutcomes request d).map (ReconciliationOutcome.viewIn candidates) =
      (gapOutcomes request d).map ReconciliationOutcome.view := by
  apply List.map_congr_left
  intro outcome houtcome
  obtain ⟨gap, rfl⟩ := mem_gapOutcomes houtcome
  rfl

/-- Coverage depends on how many objects there are of each plane and kind. -/
theorem gapOutcomes_reordered (h : d.Reordered d') :
    gapOutcomes request d = gapOutcomes request d' := by
  have hgap : CoverageAnalyzer.gapOf (d.sourceObjects ++ d.targetObjects) =
      CoverageAnalyzer.gapOf (d'.sourceObjects ++ d'.targetObjects) := by
    funext expectation kind
    unfold CoverageAnalyzer.gapOf CoverageAnalyzer.kindObjects
    rw [((h.sources.append h.targets).filter _).length_eq]
  unfold gapOutcomes CoverageAnalyzer.analyze
  rw [hgap]

theorem extraOutcomes_viewIn (candidates : List MatchCandidate) :
    (o.extraOutcomes rt ops n request d).map (ReconciliationOutcome.viewIn candidates) =
      (o.extraReports rt ops n request d).map MismatchReport.view := by
  unfold extraOutcomes extraMismatches
  rw [← buildMismatches_reports rt (o.extraDraw rt ops n d) (o.extraReports rt ops n request d),
    List.map_map, List.map_map, buildMismatches_reports]
  rfl

theorem closeMatches_scoredPairs (gap : ℚ) (candidates : List MatchCandidate)
    (top : MatchCandidate) :
    ((DuplicateDetector.closeMatches ops gap candidates top).map MatchCandidate.scoredPair).Perm
      ((candidates.map MatchCandidate.scoredPair).filter fun e =>
        e.sourceObjectId = top.sourceObjectId ∧ |ops.round (e.score - top.score)| ≤ gap) := by
  unfold DuplicateDetector.closeMatches DuplicateDetector.sortedCandidates
  refine (((ranked_perm _ _).filter _).map _).trans (List.Perm.of_eq ?_)
  rw [List.filter_filter, List.filter_map]
  congr 1
  apply List.filter_congr
  intro c _
  simp only [DuplicateDetector.isClose, MatchCandidate.scoredPair, Function.comp_apply,
    Bool.decide_and]
  exact Bool.and_comm _ _

theorem duplicatesOf_of_source {gap : ℚ} {candidates : List MatchCandidate} {top : MatchCandidate}
    (htop : Leading candidates top) {s : String} (hs : top.sourceObjectId = s) :
    DuplicateDetector.duplicatesOf ops gap s (candidates.filter fun c => c.sourceObjectId = s) =
      if 1 < (DuplicateDetector.closeMatches ops gap candidates top).length then
        some {
          sourceObjectId := s
          duplicateTargetIds := (DuplicateDetector.closeMatches ops gap candidates top).map
            MatchCandidate.targetObjectId
          scores := (DuplicateDetector.closeMatches ops gap candidates top).map
            MatchCandidate.score }
      else none := by
  subst hs
  exact DuplicateDetector.duplicatesOf_eq htop

/-- The matched identifiers can be read off the scored pairs. -/
theorem mem_matched_map {f : MatchCandidate → String} (g : ScoredPair → String)
    (hfg : ∀ c, f c = g c.scoredPair) {id : String} : id ∈ (o.matched rt ops n d).map f ↔
      ∃ e ∈ (o.scoredCandidates rt ops n d).map MatchCandidate.scoredPair,
        0 < e.score ∧ g e = id := by
  constructor
  · intro hid
    obtain ⟨c, hc, rfl⟩ := List.mem_map.mp hid
    obtain ⟨hc, hpositive⟩ := mem_matched.mp hc
    exact ⟨c.scoredPair, List.mem_map_of_mem hc, hpositive, (hfg c).symm⟩
  · rintro ⟨e, he, hpositive, rfl⟩
    obtain ⟨c, hc, rfl⟩ := List.mem_map.mp he
    exact List.mem_map.mpr ⟨c, mem_matched.mpr ⟨hc, hpositive⟩, hfg c⟩

/-- No reported candidate shares the best score of its source. -/
def Untied (rt : Runtime) (ops : ValueOps) (o : ReconciliationOrchestrator) (n : ℕ)
    (d : GraphData) : Prop :=
  ∀ c, Leading (o.scoredCandidates rt ops n d) c → Reported o.matchThreshold c →
    ¬ Tied (o.scoredCandidates rt ops n d) c

/-- The candidate of an outcome is a reported leading one. -/
theorem outcome_candidate {outcome : ReconciliationOutcome}
    (houtcome : outcome ∈ o.outcomes rt ops n request d) {c : MatchCandidate}
    (hcandidate : outcome.candidate = some c) :
    Leading (o.scoredCandidates rt ops n d) c ∧ Reported o.matchThreshold c := by
  obtain ⟨added, heq⟩ := outcomes_eq_append rt ops o n request d
  rw [heq] at houtcome
  simp only [List.mem_append, or_assoc] at houtcome
  rcases houtcome with hrank | hdup | hgap | hadded
  · obtain ⟨top, htop, hresult⟩ := mem_rankingOutcomes.mp hrank
    obtain ⟨hreported, outcomeType, rfl⟩ := reported_of_topOutcome hresult
    obtain rfl := Option.some.inj hcandidate
    exact ⟨htop, hreported⟩
  · obtain ⟨i, dupSet, -, rfl⟩ := mem_duplicateOutcomes.mp hdup
    cases hcandidate
  · obtain ⟨gap, rfl⟩ := mem_gapOutcomes hgap
    cases hcandidate
  · obtain ⟨m, -, rfl⟩ := List.mem_map.mp hadded
    cases hcandidate

section Outcomes
variable (hperm : ((o.scoredCandidates rt ops n d).map MatchCandidate.scoredPair).Perm
  ((o.scoredCandidates rt' ops n' d').map MatchCandidate.scoredPair))
include hperm

theorem sources_perm : ((o.scoredCandidates rt ops n d).map MatchCandidate.sourceObjectId).Perm
    ((o.scoredCandidates rt' ops n' d').map MatchCandidate.sourceObjectId) := by
  have hsources := hperm.map ScoredPair.sourceObjectId
  rw [List.map_map, List.map_map] at hsources
  exact hsources

theorem bySource_keys_perm :
    (DuplicateDetector.bySource (o.scoredCandidates rt ops n d)).keys.Perm
      (DuplicateDetector.bySource (o.scoredCandidates rt' ops n' d')).keys := by
  have hnodup (candidates : List MatchCandidate) :
      (DuplicateDetector.bySource candidates).keys.Nodup :=
    (DuplicateDetector.bySource candidates).nodup
  rw [List.perm_ext_iff_of_nodup (hnodup _) (hnodup _)]
  intro s
  unfold DuplicateDetector.bySource
  rw [mem_keys_groups, mem_keys_groups, (sources_perm hperm).mem_iff]

/-- A source with candidates has a leading one in both runs. -/
theorem exists_leading_both {s : String}
    (hs : s ∈ (DuplicateDetector.bySource (o.scoredCandidates rt ops n d)).keys) :
    ∃ c c', Leading (o.scoredCandidates rt ops n d) c ∧
      Leading (o.scoredCandidates rt' ops n' d') c' ∧
      c.sourceObjectId = s ∧ c'.sourceObjectId = s := by
  unfold DuplicateDetector.bySource at hs
  rw [mem_keys_groups] at hs
  obtain ⟨c₀, hc₀, hsource⟩ := List.mem_map.mp hs
  rw [(sources_perm hperm).mem_iff] at hs
  obtain ⟨c₁, hc₁, hsource'⟩ := List.mem_map.mp hs
  obtain ⟨c, hc, heq⟩ := exists_leading hc₀
  obtain ⟨c', hc', heq'⟩ := exists_leading hc₁
  exact ⟨c, c', hc, hc', heq.trans hsource, heq'.trans hsource'⟩

/-- The pair outcomes of two leading candidates of a source look alike. -/
theorem pairOutcome_viewIn_eq {c c' : MatchCandidate}
    (hc : Leading (o.scoredCandidates rt ops n d) c)
    (hc' : Leading (o.scoredCandidates rt' ops n' d') c')
    (hsource : c.sourceObjectId = c'.sourceObjectId) (outcomeType : ReconciliationOutcomeType) :
    (ReconciliationAssembler.pairOutcome outcomeType c).viewIn (o.scoredCandidates rt ops n d) =
      (ReconciliationAssembler.pairOutcome outcomeType c').viewIn
        (o.scoredCandidates rt' ops n' d') := by
  have hscore := hc.score_eq hperm hc' hsource
  have htied := tied_iff hperm hsource hscore
  rw [pairOutcome_viewIn, pairOutcome_viewIn]
  by_cases h : Tied (o.scoredCandidates rt ops n d) c
  · rw [if_pos h, if_pos (htied.mp h)]
    unfold OutcomeView.blur ReconciliationOutcome.view ReconciliationAssembler.pairOutcome
    simp only [hsource, hscore, Option.map_some]
  · obtain ⟨-, htarget, -, hcategories⟩ :=
      ScoredPair.mk.inj (hc.scoredPair_eq hperm hc' hsource h)
    rw [if_neg h, if_neg (mt htied.mpr h)]
    unfold ReconciliationOutcome.view ReconciliationAssembler.pairOutcome
    simp only [hsource, htarget, hscore, hcategories, Option.map_some]

theorem topOutcome_viewIn {c c' : MatchCandidate}
    (hc : Leading (o.scoredCandidates rt ops n d) c)
    (hc' : Leading (o.scoredCandidates rt' ops n' d') c')
    (hsource : c.sourceObjectId = c'.sourceObjectId) :
    (ReconciliationAssembler.topOutcome o.matchThreshold c).map
        (ReconciliationOutcome.viewIn (o.scoredCandidates rt ops n d)) =
      (ReconciliationAssembler.topOutcome o.matchThreshold c').map
        (ReconciliationOutcome.viewIn (o.scoredCandidates rt' ops n' d')) := by
  unfold ReconciliationAssembler.topOutcome
  rw [hc.score_eq hperm hc' hsource]
  split_ifs
  · rw [Option.map_some, Option.map_some, pairOutcome_viewIn_eq hperm hc hc' hsource]
  · rw [Option.map_some, Option.map_some, pairOutcome_viewIn_eq hperm hc hc' hsource]
  · rw [Option.map_none, Option.map_none]

/-- The outcomes of the rankings agree. -/
theorem rankingOutcomes_perm :
    ((o.rankingOutcomes rt ops n d).map
        (ReconciliationOutcome.viewIn (o.scoredCandidates rt ops n d))).Perm
      ((o.rankingOutcomes rt' ops n' d').map
        (ReconciliationOutcome.viewIn (o.scoredCandidates rt' ops n' d'))) := by
  have hhead {rt : Runtime} {n : ℕ} {d : GraphData} {c : MatchCandidate} {s : String}
      (hc : Leading (o.scoredCandidates rt ops n d) c) (hs : c.sourceObjectId = s) :
      (ranked MatchCandidate.score ((o.scoredCandidates rt ops n d).filter fun c =>
        c.sourceObjectId = s)).head? = some c :=
    head?_ranked.mpr ((leading_iff_of_source hs).mp hc)
  rw [rankingOutcomes_eq, rankingOutcomes_eq, List.map_filterMap, List.map_filterMap]
  refine List.Perm.trans ?_ ((bySource_keys_perm hperm).filterMap _)
  refine List.Perm.of_eq (List.filterMap_congr ?_)
  intro s hs
  obtain ⟨c, c', hc, hc', hsource, hsource'⟩ := exists_leading_both hperm hs
  rw [hhead hc hsource, hhead hc' hsource', Option.bind_some, Option.bind_some]
  exact topOutcome_viewIn hperm hc hc' (hsource.trans hsource'.symm)

/-- The close candidates of a source are the same in both runs. -/
theorem closeMatches_perm (gap : ℚ) {c c' : MatchCandidate}
    (hc : Leading (o.scoredCandidates rt ops n d) c)
    (hc' : Leading (o.scoredCandidates rt' ops n' d') c')
    (hsource : c.sourceObjectId = c'.sourceObjectId) :
    ((DuplicateDetector.closeMatches ops gap (o.scoredCandidates rt ops n d) c).map
        MatchCandidate.scoredPair).Perm
      ((DuplicateDetector.closeMatches ops gap (o.scoredCandidates rt' ops n' d') c').map
        MatchCandidate.scoredPair) := by
  refine (closeMatches_scoredPairs _ _ _).trans ?_
  refine List.Perm.trans ?_ (closeMatches_scoredPairs _ _ _).symm
  rw [hsource, hc.score_eq hperm hc' hsource]
  exact hperm.filter _

/-- The duplicate outcomes agree. -/
theorem duplicateOutcomes_perm (request : ReconciliationRequest) :
    ((o.duplicateOutcomes rt ops n request d).map
        (ReconciliationOutcome.viewIn (o.scoredCandidates rt ops n d))).Perm
      ((o.duplicateOutcomes rt' ops n' request d').map
        (ReconciliationOutcome.viewIn (o.scoredCandidates rt' ops n' d'))) := by
  rw [duplicateOutcomes_viewIn, duplicateOutcomes_viewIn, duplicates_eq, duplicates_eq,
    List.map_filterMap, List.map_filterMap]
  refine List.Perm.trans ?_ ((bySource_keys_perm hperm).filterMap _)
  refine List.Perm.of_eq (List.filterMap_congr ?_)
  intro s hs
  obtain ⟨c, c', hc, hc', hsource, hsource'⟩ := exists_leading_both hperm hs
  have hclose := closeMatches_perm hperm o.duplicateGapThreshold hc hc'
    (hsource.trans hsource'.symm)
  have hlen := hclose.length_eq
  rw [List.length_map, List.length_map] at hlen
  have htargets := hclose.map ScoredPair.targetObjectId
  rw [List.map_map, List.map_map] at htargets
  rw [duplicatesOf_of_source hc hsource, duplicatesOf_of_source hc' hsource', hlen]
  split_ifs
  · rw [Option.map_some, Option.map_some, Option.some.injEq]
    unfold DuplicateCandidateSet.view
    rw [OutcomeView.mk.injEq]
    exact ⟨rfl, rfl, rfl, rfl, rfl, Multiset.coe_eq_coe.mpr htargets⟩
  · rfl

/-- The reports on missing objects and on conflicts agree. -/
theorem extraReports_perm (h : d.Reordered d') : (o.extraReports rt ops n request d).Perm
    (o.extraReports rt' ops n' request d') := by
  have hsources (id : String) : id ∈ (o.matched rt ops n d).map MatchCandidate.sourceObjectId ↔
      id ∈ (o.matched rt' ops n' d').map MatchCandidate.sourceObjectId := by
    rw [mem_matched_map (f := MatchCandidate.sourceObjectId) ScoredPair.sourceObjectId fun _ => rfl,
      mem_matched_map (f := MatchCandidate.sourceObjectId) ScoredPair.sourceObjectId fun _ => rfl]
    simp only [hperm.mem_iff]
  have htargets (id : String) : id ∈ (o.matched rt ops n d).map MatchCandidate.targetObjectId ↔
      id ∈ (o.matched rt' ops n' d').map MatchCandidate.targetObjectId := by
    rw [mem_matched_map (f := MatchCandidate.targetObjectId) ScoredPair.targetObjectId fun _ => rfl,
      mem_matched_map (f := MatchCandidate.targetObjectId) ScoredPair.targetObjectId fun _ => rfl]
    simp only [hperm.mem_iff]
  unfold extraReports MismatchClassifier.classifyMissingObjects
    MismatchClassifier.classifyIdentifierConflicts
  simp only [hsources, htargets]
  refine List.Perm.append (List.Perm.append ?_ ?_) ?_
  · exact (h.sources.filter _).map _
  · exact (h.targets.filter _).map _
  · exact List.Perm.flatMap h.sources fun src _ => h.targets.flatMap_right _

/-- The outcomes of two runs agree, up to their order and the choice among tied candidates. -/
theorem outcomes_viewIn_perm (h : d.Reordered d') (hdraws : o.DrawsDistinct rt ops n request d)
    (hdraws' : o.DrawsDistinct rt' ops n' request d') :
    ((o.outcomes rt ops n request d).map
        (ReconciliationOutcome.viewIn (o.scoredCandidates rt ops n d))).Perm
      ((o.outcomes rt' ops n' request d').map
        (ReconciliationOutcome.viewIn (o.scoredCandidates rt' ops n' d'))) := by
  rw [outcomes_eq hdraws, outcomes_eq hdraws']
  simp only [List.map_append]
  refine List.Perm.append (List.Perm.append (List.Perm.append ?_ ?_) ?_) ?_
  · exact rankingOutcomes_perm hperm
  · exact duplicateOutcomes_perm hperm request
  · rw [gapOutcomes_viewIn, gapOutcomes_viewIn, gapOutcomes_reordered h]
  · rw [extraOutcomes_viewIn, extraOutcomes_viewIn]
    exact (extraReports_perm hperm h).map _

/-- No reported candidate is tied in the one run if none is in the other. -/
theorem Untied.of_perm (hnone : o.Untied rt ops n d) : o.Untied rt' ops n' d' := by
  intro c' hc' hreported htied
  have hs : c'.sourceObjectId ∈
      (DuplicateDetector.bySource (o.scoredCandidates rt ops n d)).keys := by
    rw [(bySource_keys_perm hperm).mem_iff]
    unfold DuplicateDetector.bySource
    rw [mem_keys_groups]
    exact List.mem_map_of_mem hc'.mem
  obtain ⟨c, c₁, hc, -, hsource, -⟩ := exists_leading_both hperm hs
  have hscore := hc.score_eq hperm hc' hsource
  have hreported' : Reported o.matchThreshold c := by
    unfold Reported
    rw [hscore]
    exact hreported
  exact hnone c hc hreported' ((tied_iff hperm hsource hscore).mpr htied)

end Outcomes

/-- In a run without ties among the reported candidates nothing is blurred. -/
theorem outcomes_viewIn_of_untied (hnone : o.Untied rt ops n d) :
    (o.outcomes rt ops n request d).map
        (ReconciliationOutcome.viewIn (o.scoredCandidates rt ops n d)) =
      (o.outcomes rt ops n request d).map ReconciliationOutcome.view := by
  apply List.map_congr_left
  intro outcome houtcome
  unfold ReconciliationOutcome.viewIn
  apply if_neg
  intro hany
  obtain ⟨c, hcandidate, htied⟩ := (Option.any_eq_true _ _).mp hany
  obtain ⟨hlead, hreported⟩ := outcome_candidate houtcome hcandidate
  exact hnone c hlead hreported (of_decide_eq_true htied)

/-- With enough fuel two runs on the same objects and links end, in whatever orders these are
stored. Their outcomes agree up to the choice among the candidates that share the best score of a
source, and entirely if no reported candidate shares it. -/
theorem execute_reordered (rt rt' : Runtime) (ops : ValueOps) (o : ReconciliationOrchestrator)
    (graph' : GraphService) (n n' : ℕ) (request : ReconciliationRequest) (fuel : ℕ)
    (hrules : ∀ rule ∈ o.ruleRegistry.listRules, rule.OrderBlind)
    (hkeyed : o.graph.repo.Keyed) (hreordered : o.graph.repo.Reordered graph'.repo)
    (hfuel : request.target.graphSliceRootIds.length + o.graph.repo.objects.keys.length < fuel) :
    ∃ d d' result result', fetchGraphData fuel o.graph.repo request = some d ∧
      fetchGraphData fuel graph'.repo request = some d' ∧
      o.execute rt ops n request fuel = some result ∧
      { o with graph := graph' }.execute rt' ops n' request fuel = some result' ∧
      (o.DrawsDistinct rt ops n request d → o.DrawsDistinct rt' ops n' request d' →
        (result.outcomes.map (ReconciliationOutcome.viewIn (o.scoredCandidates rt ops n d))).Perm
            (result'.outcomes.map
              (ReconciliationOutcome.viewIn (o.scoredCandidates rt' ops n' d'))) ∧
          (o.Untied rt ops n d → (result.outcomes.map ReconciliationOutcome.view).Perm
            (result'.outcomes.map ReconciliationOutcome.view))) := by
  obtain ⟨d, d', hfetch, hfetch', hre⟩ := fetchGraphData_reordered hreordered hfuel
  have hperm := scoredPairs_perm rt rt' ops n n' hre
    (fetched_coherent hkeyed hfetch) hrules
  refine ⟨d, d', _, _, hfetch, hfetch', execute_of_fetch rt ops n hfetch,
    execute_of_fetch rt' ops n' hfetch', ?_⟩
  intro hdraws hdraws'
  have hviews := outcomes_viewIn_perm hperm hre hdraws hdraws'
  refine ⟨hviews, ?_⟩
  intro hnone
  rw [outcomes_viewIn_of_untied hnone,
    outcomes_viewIn_of_untied (Untied.of_perm hperm hnone)] at hviews
  exact hviews

end ReconciliationOrchestrator

/-! ### Two reports stored in two orders -/

/-- A bill and two reports with its key. -/
def reportedTwice : ReconciliationOrchestrator where
  graph := storing [keyedObject "bill" .commercial [("order", "7")],
    keyedObject "report" .field [("order", "7")], keyedObject "retake" .field [("order", "7")]] []
  ruleRegistry := buildDefaultRuleRegistry .exact

/-- The same objects, the second report first. -/
def retakeFirst : GraphService :=
  storing [keyedObject "bill" .commercial [("order", "7")],
    keyedObject "retake" .field [("order", "7")], keyedObject "report" .field [("order", "7")]] []

namespace ReconciliationOrchestrator

theorem storing_keyed (objects : List ControlObject) (links : List ControlLink) :
    (storing objects links).repo.Keyed := by
  have hlinks (repo : InMemoryGraphRepository) :
      (links.foldl (fun repo link => repo.storeLink link) repo).objects = repo.objects := by
    induction links generalizing repo with
    | nil => rfl
    | cons link links ih => exact ih (repo.storeLink link)
  have hobjects (repo : InMemoryGraphRepository) :
      (objects.foldl (fun repo obj => repo.storeObject obj) repo).objects =
        objects.foldl (fun stored obj => stored.set obj.id obj) repo.objects := by
    induction objects generalizing repo with
    | nil => rfl
    | cons obj objects ih => exact ih (repo.storeObject obj)
  intro id obj hget
  unfold storing at hget
  dsimp only at hget
  rw [hlinks, hobjects] at hget
  rcases Dict.get?_foldl_set hget with ⟨-, hid⟩ | hnone
  · exact hid
  · cases hnone

theorem retakeFirst_reordered : reportedTwice.graph.repo.Reordered retakeFirst.repo where
  objects := (List.Perm.swap _ _ []).cons _
  links := List.Perm.refl _

theorem reportedTwice_rules : ∀ rule ∈ reportedTwice.ruleRegistry.listRules, rule.OrderBlind := by
  intro rule hrule
  apply defaultWave2Rules_orderBlind .exact
  rw [← listRules_default]
  exact hrule

theorem execute_reordered_reportedTwice : ∃ d d' result result',
    fetchGraphData 4 reportedTwice.graph.repo commercialToField = some d ∧
      fetchGraphData 4 retakeFirst.repo commercialToField = some d' ∧
      reportedTwice.execute .reference .exact 0 commercialToField 4 = some result ∧
      { reportedTwice with graph := retakeFirst }.execute .reference .exact 0 commercialToField 4 =
        some result' ∧
      (result.outcomes.map (ReconciliationOutcome.viewIn
          (reportedTwice.scoredCandidates .reference .exact 0 d))).Perm
        (result'.outcomes.map (ReconciliationOutcome.viewIn
          (reportedTwice.scoredCandidates .reference .exact 0 d'))) := by
  obtain ⟨d, d', result, result', hfetch, hfetch', hexecute, hexecute', hviews⟩ :=
    execute_reordered .reference .reference .exact reportedTwice retakeFirst 0 0 commercialToField 4
      reportedTwice_rules (storing_keyed _ _) retakeFirst_reordered (by decide)
  have hd := Option.some.inj (hfetch.symm.trans (fetchGraphData_filters rfl rfl))
  have hd' := Option.some.inj (hfetch'.symm.trans (fetchGraphData_filters rfl rfl))
  have hdraws : reportedTwice.DrawsDistinct .reference .exact 0 commercialToField d := by
    rw [hd]
    exact drawsDistinct_reference (by decide +kernel)
  have hdraws' : reportedTwice.DrawsDistinct .reference .exact 0 commercialToField d' := by
    rw [hd']
    exact drawsDistinct_reference (by decide +kernel)
  exact ⟨d, d', result, result', hfetch, hfetch', hexecute, hexecute', (hviews hdraws hdraws').1⟩

/-- The outcome of the bill names the report that is stored first. -/
theorem execute_shows_storage_order : ∃ result result',
    reportedTwice.execute .reference .exact 0 commercialToField 4 = some result ∧
      { reportedTwice with graph := retakeFirst }.execute .reference .exact 0 commercialToField 4 =
        some result' ∧
      ¬ (result.outcomes.map ReconciliationOutcome.view).Perm
        (result'.outcomes.map ReconciliationOutcome.view) := by
  refine ⟨_, _, execute_of_fetch _ _ _ (fetchGraphData_filters rfl rfl),
    execute_of_fetch _ _ _ (fetchGraphData_filters rfl rfl), ?_⟩
  decide +kernel

end ReconciliationOrchestrator
end ControlFabric.Fabric.Reconciliation
