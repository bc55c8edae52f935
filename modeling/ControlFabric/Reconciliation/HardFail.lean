import ControlFabric.Reconciliation.Accounting
import ControlFabric.Reconciliation.MismatchesKept

/-! Candidates that a rule has failed: they are reported as duplicates when several candidates of
their source have no better score. -/
namespace ControlFabric.Fabric.Reconciliation
open Lib

/-! ### Outcomes assembled from scored candidates -/

/-- The input of an assembly whose rankings and duplicates are those of the scored candidates. -/
def assembledFrom (ops : ValueOps) (gap : ℚ) (scored : List MatchCandidate)
    (coverageResult : CoverageExpectationResult) (evidenceResults : List EvidenceSufficiencyResult)
    (mismatches : List ReconciliationMismatch) : ReconciliationAssemblyInput where
  candidates := scored
  rankings := DuplicateDetector.buildRankings ops gap scored
  duplicates := DuplicateDetector.detect ops gap scored
  coverageResult := coverageResult
  evidenceResults := evidenceResults
  mismatches := mismatches

/-- The pair stands in an outcome of one of the types. -/
def PairReported (types : List ReconciliationOutcomeType) (outcomes : List ReconciliationOutcome)
    (pair : String × String) : Prop :=
  ∃ o ∈ outcomes, o.outcomeType ∈ types ∧ o.sourceObjectId = some pair.1 ∧
    o.targetObjectId = some pair.2

/-- The target of the pair stands among the duplicates of its source. -/
def DuplicateReported (outcomes : List ReconciliationOutcome) (pair : String × String) : Prop :=
  ∃ o ∈ outcomes, o.outcomeType = .duplicateDetected ∧ o.sourceObjectId = some pair.1 ∧
    pair.2 ∈ o.duplicateTargetIds

instance (types : List ReconciliationOutcomeType) (outcomes : List ReconciliationOutcome)
    (pair : String × String) : Decidable (PairReported types outcomes pair) := by
  unfold PairReported
  infer_instance

instance (outcomes : List ReconciliationOutcome) (pair : String × String) :
    Decidable (DuplicateReported outcomes pair) := by
  unfold DuplicateReported
  infer_instance

namespace ReconciliationAssembler
variable {rt : Runtime} {matchThreshold : ℚ} {n : ℕ} {input : ReconciliationAssemblyInput}

/-- What is added for the mismatches of the list has a type of its own. -/
theorem mem_assemble {o : ReconciliationOutcome} (htype : o.outcomeType ≠ .mismatchDetected) :
    o ∈ assemble rt matchThreshold n input ↔ o ∈ firstOutcomes rt matchThreshold n input := by
  obtain ⟨added, -, hfold⟩ := foldl_addMismatch_sublist input.mismatches
    (firstOutcomes rt matchThreshold n input)
  unfold assemble
  rw [hfold, List.mem_append]
  constructor
  · rintro (ho | ho)
    · exact ho
    · obtain ⟨m, -, rfl⟩ := List.mem_map.mp ho
      exact absurd rfl htype
  · exact Or.inl

theorem mem_firstOutcomes {o : ReconciliationOutcome} :
    o ∈ firstOutcomes rt matchThreshold n input ↔
      o ∈ input.rankings.filterMap (rankingOutcome matchThreshold) ∨
        o ∈ duplicateOutcomes rt n input ∨ o ∈ gapOutcomes input ∨
          o ∈ evidenceOutcomes rt n input := by
  show o ∈ _ ++ duplicateOutcomes rt n input ++ gapOutcomes input ++ evidenceOutcomes rt n input ↔ _
  rw [List.mem_append, List.mem_append, List.mem_append, or_assoc, or_assoc]

theorem rankingOutcomes_type {o : ReconciliationOutcome}
    (h : o ∈ input.rankings.filterMap (rankingOutcome matchThreshold)) :
    o.outcomeType = .fullyReconciled ∨ o.outcomeType = .candidateMatch := by
  obtain ⟨ranking, -, hranking⟩ := List.mem_filterMap.mp h
  obtain ⟨top, -, htop⟩ := Option.bind_eq_some_iff.mp hranking
  rcases topOutcome_eq_some.mp htop with ⟨-, rfl⟩ | ⟨-, -, rfl⟩
  · exact Or.inl rfl
  · exact Or.inr rfl

/-- The outcomes about a pair are those of the rankings. -/
theorem mem_assemble_match {o : ReconciliationOutcome}
    (htype : o.outcomeType = .fullyReconciled ∨ o.outcomeType = .candidateMatch) :
    o ∈ assemble rt matchThreshold n input ↔
      o ∈ input.rankings.filterMap (rankingOutcome matchThreshold) := by
  have hne : o.outcomeType ≠ .mismatchDetected ∧ o.outcomeType ≠ .duplicateDetected ∧
      o.outcomeType ≠ .coverageGap ∧ o.outcomeType ≠ .insufficientEvidence := by
    rcases htype with htype | htype <;> rw [htype] <;> decide
  rw [mem_assemble hne.1, mem_firstOutcomes]
  constructor
  · rintro (ho | ho | ho | ho)
    · exact ho
    · exact absurd (duplicateOutcomes_type ho) hne.2.1
    · exact absurd (gapOutcomes_type ho).1 hne.2.2.1
    · exact absurd (evidenceOutcomes_type ho) hne.2.2.2
  · exact Or.inl

theorem mem_assemble_duplicate {o : ReconciliationOutcome}
    (htype : o.outcomeType = .duplicateDetected) :
    o ∈ assemble rt matchThreshold n input ↔ o ∈ duplicateOutcomes rt n input := by
  have hne : o.outcomeType ≠ .mismatchDetected ∧ o.outcomeType ≠ .fullyReconciled ∧
      o.outcomeType ≠ .candidateMatch ∧ o.outcomeType ≠ .coverageGap ∧
        o.outcomeType ≠ .insufficientEvidence := by
    rw [htype]
    decide
  rw [mem_assemble hne.1, mem_firstOutcomes]
  constructor
  · rintro (ho | ho | ho | ho)
    · exact absurd (rankingOutcomes_type ho) (not_or.mpr ⟨hne.2.1, hne.2.2.1⟩)
    · exact ho
    · exact absurd (gapOutcomes_type ho).1 hne.2.2.2.1
    · exact absurd (evidenceOutcomes_type ho) hne.2.2.2.2
  · exact fun ho => Or.inr (Or.inl ho)

theorem mem_duplicateTargets {s t : String} :
    DuplicateReported (assemble rt matchThreshold n input) (s, t) ↔
      ∃ dupSet ∈ input.duplicates, dupSet.sourceObjectId = s ∧ t ∈ dupSet.duplicateTargetIds := by
  constructor
  · rintro ⟨o, ho, htype, hsource, htarget⟩
    obtain ⟨i, hi, rfl⟩ := List.mem_mapIdx.mp ((mem_assemble_duplicate htype).mp ho)
    exact ⟨_, List.getElem_mem hi, Option.some.inj hsource, htarget⟩
  · rintro ⟨dupSet, hset, rfl, htarget⟩
    obtain ⟨i, hi, rfl⟩ := List.getElem_of_mem hset
    exact ⟨_, (mem_assemble_duplicate rfl).mpr (List.mem_mapIdx.mpr ⟨i, hi, rfl⟩), rfl, rfl,
      htarget⟩

end ReconciliationAssembler

section Reported
variable {rt : Runtime} {ops : ValueOps} {gap matchThreshold : ℚ} {m : ℕ}
  {scored : List MatchCandidate} {coverageResult : CoverageExpectationResult}
  {evidenceResults : List EvidenceSufficiencyResult} {mismatches : List ReconciliationMismatch}
  {pair : String × String}

/-- A pair is fully reconciled when its candidate leads and reaches the threshold. -/
theorem pairReported_full : PairReported [.fullyReconciled]
      (ReconciliationAssembler.assemble rt matchThreshold m
        (assembledFrom ops gap scored coverageResult evidenceResults mismatches)) pair ↔
    ∃ c, Leading scored c ∧ c.pair = pair ∧ matchThreshold ≤ c.score := by
  constructor
  · rintro ⟨o, ho, htype, hsource, htarget⟩
    have htype := List.mem_singleton.mp htype
    obtain ⟨c, hc, htop⟩ := DuplicateDetector.mem_rankingOutcomes.mp
      ((ReconciliationAssembler.mem_assemble_match (Or.inl htype)).mp ho)
    rcases ReconciliationAssembler.topOutcome_eq_some.mp htop with ⟨hfull, rfl⟩ | ⟨-, -, rfl⟩
    · exact ⟨c, hc, Prod.ext (Option.some.inj hsource) (Option.some.inj htarget), hfull⟩
    · cases htype
  · rintro ⟨c, hc, rfl, hfull⟩
    refine ⟨_, (ReconciliationAssembler.mem_assemble_match (Or.inl rfl)).mpr
      (DuplicateDetector.mem_rankingOutcomes.mpr ⟨c, hc,
        ReconciliationAssembler.topOutcome_eq_some.mpr (Or.inl ⟨hfull, rfl⟩)⟩),
      List.mem_singleton_self _, rfl, rfl⟩

/-- A pair is reported as a match when its candidate leads and is reported. -/
theorem pairReported_match : PairReported [.fullyReconciled, .candidateMatch]
      (ReconciliationAssembler.assemble rt matchThreshold m
        (assembledFrom ops gap scored coverageResult evidenceResults mismatches)) pair ↔
    ∃ c, Leading scored c ∧ c.pair = pair ∧ Reported matchThreshold c := by
  constructor
  · rintro ⟨o, ho, htype, hsource, htarget⟩
    have htype : o.outcomeType = .fullyReconciled ∨ o.outcomeType = .candidateMatch := by
      simpa using htype
    obtain ⟨c, hc, htop⟩ := DuplicateDetector.mem_rankingOutcomes.mp
      ((ReconciliationAssembler.mem_assemble_match htype).mp ho)
    obtain ⟨hreported, outcomeType, rfl⟩ := reported_of_topOutcome htop
    exact ⟨c, hc, Prod.ext (Option.some.inj hsource) (Option.some.inj htarget), hreported⟩
  · rintro ⟨c, hc, rfl, hreported⟩
    obtain ⟨outcomeType, htop⟩ := topOutcome_of_reported hreported
    have hmem : ReconciliationAssembler.pairOutcome outcomeType c ∈
        (assembledFrom ops gap scored coverageResult evidenceResults mismatches).rankings.filterMap
          (ReconciliationAssembler.rankingOutcome matchThreshold) :=
      DuplicateDetector.mem_rankingOutcomes.mpr ⟨c, hc, htop⟩
    have htype := ReconciliationAssembler.rankingOutcomes_type hmem
    refine ⟨_, (ReconciliationAssembler.mem_assemble_match htype).mpr hmem, ?_, rfl, rfl⟩
    simpa using htype

end Reported

/-! ### Duplicates and ambiguous rankings -/

/-- Rounding, as floating-point arithmetic does it: larger results are not rounded to smaller ones,
and the sign does not matter. -/
structure ValueOps.Rounds (ops : ValueOps) : Prop where
  monotone : Monotone ops.round
  odd : ∀ q, ops.round (-q) = -ops.round q

theorem ValueOps.exact_rounds : ValueOps.exact.Rounds := ⟨monotone_id, fun _ => rfl⟩

namespace DuplicateDetector
variable {ops : ValueOps} {gap : ℚ} {scored : List MatchCandidate}

/-- Between a close candidate and the top all are close. -/
theorem isClose_mono (hops : ops.Rounds) {top : ℚ} {c c' : MatchCandidate}
    (hle : c.score ≤ c'.score) (htop : c'.score ≤ top) (h : isClose ops gap top c) :
    isClose ops gap top c' := by
  have hzero : ops.round 0 = 0 := by
    have hodd := hops.odd 0
    rw [neg_zero] at hodd
    linarith
  have hlow : ops.round (c.score - top) ≤ ops.round (c'.score - top) :=
    hops.monotone (by linarith)
  have hhigh : ops.round (c'.score - top) ≤ 0 :=
    (hops.monotone (show c'.score - top ≤ 0 by linarith)).trans_eq hzero
  unfold isClose at h ⊢
  simp only [decide_eq_true_eq] at h ⊢
  rw [abs_of_nonpos hhigh]
  rw [abs_of_nonpos (hlow.trans hhigh)] at h
  linarith

theorem isClose_pairwise (hops : ops.Rounds) {sorted : List MatchCandidate} {top : ℚ}
    (hsorted : sorted.Pairwise fun a b => b.score ≤ a.score) (htop : ∀ c ∈ sorted, c.score ≤ top) :
    sorted.Pairwise fun a b => isClose ops gap top b → isClose ops gap top a :=
  hsorted.imp_of_mem fun ha _ hle hclose => isClose_mono hops hle (htop _ ha) hclose

/-- The close candidates of a sorted list come first. -/
theorem closeMatches_prefix (hops : ops.Rounds) {sorted : List MatchCandidate} {top : ℚ}
    (hsorted : sorted.Pairwise fun a b => b.score ≤ a.score) (htop : ∀ c ∈ sorted, c.score ≤ top) :
    sorted.filter (isClose ops gap top) <+: sorted :=
  filter_prefix (isClose_pairwise hops hsorted htop)

/-- The gap to the top is the same either way. -/
theorem isClose_iff (hops : ops.Rounds) (top : ℚ) (c : MatchCandidate) :
    isClose ops gap top c ↔ |ops.round (top - c.score)| ≤ gap := by
  unfold isClose
  rw [decide_eq_true_eq, ← neg_sub top c.score, hops.odd, abs_neg]

/-- A ranking is ambiguous when several of its candidates are close to the first. -/
theorem rankingOf_ambiguous (hops : ops.Rounds) (s : String) (group : List MatchCandidate)
    {top : MatchCandidate} (htop : (sortedCandidates group).head? = some top) :
    (rankingOf ops gap s group).isAmbiguous ↔
      1 < ((sortedCandidates group).filter (isClose ops gap top.score)).length := by
  have hsorted : (sortedCandidates group).Pairwise fun a b => b.score ≤ a.score :=
    ranked_pairwise MatchCandidate.score group
  unfold rankingOf
  dsimp only
  cases hl : sortedCandidates group with
  | nil =>
    rw [hl] at htop
    cases htop
  | cons first rest =>
    rw [hl] at htop hsorted
    obtain rfl := Option.some.inj htop
    cases rest with
    | nil =>
      have hlen := List.length_filter_le (isClose ops gap first.score) [first]
      simp only [Option.any_none, Bool.false_eq_true, false_iff, not_lt]
      exact hlen
    | cons second rest =>
      have htop : ∀ c ∈ first :: second :: rest, c.score ≤ first.score :=
        List.forall_mem_cons.mpr ⟨le_rfl, (List.pairwise_cons.mp hsorted).1⟩
      simp only [Option.any_some, decide_eq_true_eq]
      rw [← isClose_iff hops, one_lt_length_filter (isClose_pairwise hops hsorted htop)]

theorem mem_buildRankings {ranking : CandidateRanking} :
    ranking ∈ buildRankings ops gap scored ↔ ∃ top, Leading scored top ∧
      ranking = rankingOf ops gap top.sourceObjectId
        (scored.filter fun c => c.sourceObjectId = top.sourceObjectId) := by
  unfold buildRankings
  rw [List.mem_map]
  constructor
  · rintro ⟨⟨s, g⟩, hentry, rfl⟩
    obtain ⟨⟨c, hc, rfl⟩, rfl⟩ := mem_bySource.mp hentry
    obtain ⟨top, htop, hsource⟩ := exists_leading hc
    exact ⟨top, htop, by rw [hsource]⟩
  · rintro ⟨top, htop, rfl⟩
    exact ⟨(top.sourceObjectId, _), mem_bySource.mpr ⟨⟨top, htop.mem, rfl⟩, rfl⟩, rfl⟩

/-- A source has a duplicate set exactly when its ranking is ambiguous. -/
theorem detect_iff_ambiguous (hops : ops.Rounds) (s : String) :
    (∃ dupSet ∈ detect ops gap scored, dupSet.sourceObjectId = s) ↔
      ∃ ranking ∈ buildRankings ops gap scored,
        ranking.sourceObjectId = s ∧ ranking.isAmbiguous := by
  constructor
  · rintro ⟨dupSet, hset, rfl⟩
    obtain ⟨top, htop, hlen, rfl⟩ := mem_detect.mp hset
    exact ⟨_, mem_buildRankings.mpr ⟨top, htop, rfl⟩, rfl,
      (rankingOf_ambiguous hops _ _ (head?_ranked.mpr htop)).mpr hlen⟩
  · rintro ⟨ranking, hranking, rfl, hambiguous⟩
    obtain ⟨top, htop, rfl⟩ := mem_buildRankings.mp hranking
    exact ⟨_, mem_detect.mpr ⟨top, htop,
      (rankingOf_ambiguous hops _ _ (head?_ranked.mpr htop)).mp hambiguous, rfl⟩, rfl⟩

/-- The duplicate set of a source is the beginning of its ranking. -/
theorem detect_prefix (hops : ops.Rounds) {dupSet : DuplicateCandidateSet}
    (hset : dupSet ∈ detect ops gap scored) {ranking : CandidateRanking}
    (hranking : ranking ∈ buildRankings ops gap scored)
    (hsource : ranking.sourceObjectId = dupSet.sourceObjectId) :
    dupSet.duplicateTargetIds <+:
      ranking.rankedCandidates.map MatchCandidate.targetObjectId := by
  obtain ⟨top, htop, -, rfl⟩ := mem_detect.mp hset
  obtain ⟨top', htop', rfl⟩ := mem_buildRankings.mp hranking
  obtain rfl := htop.unique htop' hsource
  apply List.IsPrefix.map
  apply closeMatches_prefix hops (ranked_pairwise MatchCandidate.score _)
  intro c hc
  obtain ⟨hmem, hsame⟩ := List.mem_filter.mp ((ranked_perm _ _).mem_iff.mp hc)
  exact htop.le hmem (by simpa using hsame)

end DuplicateDetector

/-! ### Failed candidates -/

/-- A rule that applies to the pair has failed it. -/
def HardFailed (registry : ReconciliationRuleRegistry) (objectsById : Dict String ControlObject)
    (links : List ControlLink) (pair : String × String) : Prop :=
  match objectsById.get? pair.1, objectsById.get? pair.2 with
  | some source, some target =>
    ∃ r ∈ CandidateScorer.results registry source target links, r.2.hardFail
  | _, _ => False

instance (registry : ReconciliationRuleRegistry) (objectsById : Dict String ControlObject)
    (links : List ControlLink) (pair : String × String) :
    Decidable (HardFailed registry objectsById links pair) := by
  unfold HardFailed
  split <;> infer_instance

/-- The candidate is close to the top of its source, and so is another one. -/
def Crowded (ops : ValueOps) (gap : ℚ) (scored : List MatchCandidate) (c : MatchCandidate) :
    Prop :=
  ∃ top ∈ scored, Leading scored top ∧ top.sourceObjectId = c.sourceObjectId ∧
    DuplicateDetector.isClose ops gap top.score c ∧
    1 < scored.countP fun c' => c'.sourceObjectId = c.sourceObjectId ∧
      DuplicateDetector.isClose ops gap top.score c'

instance (ops : ValueOps) (gap : ℚ) (scored : List MatchCandidate) (c : MatchCandidate) :
    Decidable (Crowded ops gap scored c) := by
  unfold Crowded
  infer_instance

theorem DuplicateDetector.closeMatches_length (ops : ValueOps) (gap : ℚ)
    (scored : List MatchCandidate) (top : MatchCandidate) :
    (closeMatches ops gap scored top).length =
      scored.countP fun c => c.sourceObjectId = top.sourceObjectId ∧
        isClose ops gap top.score c := by
  unfold closeMatches sortedCandidates
  rw [← List.countP_eq_length_filter, (ranked_perm _ _).countP_eq, List.countP_filter]
  congr 1
  funext c
  simp [Bool.and_comm]

section Failed
variable {rt : Runtime} {ops : ValueOps} {registry : ReconciliationRuleRegistry}
  {objectsById : Dict String ControlObject} {links : List ControlLink} {n m : ℕ}
  {candidates : List MatchCandidate} {gap matchThreshold : ℚ} {c : MatchCandidate}
  {coverageResult : CoverageExpectationResult} {evidenceResults : List EvidenceSufficiencyResult}
  {mismatches : List ReconciliationMismatch}

/-- Whoever has failed a pair, its score is 0. -/
theorem score_of_hardFailed
    (hc : c ∈ CandidateScorer.scoreAll rt ops registry objectsById links n candidates)
    (h : HardFailed registry objectsById links c.pair) : c.score = 0 := by
  obtain ⟨c₀, -, source, target, k, hsource, htarget, rfl⟩ := CandidateScorer.mem_scoreAll hc
  have hpair : (CandidateScorer.scoreCandidate rt ops registry k c₀ source target links).pair =
      c₀.pair := rfl
  rw [hpair, MatchCandidate.pair, HardFailed] at h
  simp only [hsource, htarget] at h
  obtain ⟨r, hr, hfail⟩ := h
  exact if_pos (List.any_eq_true.mpr ⟨r, hr, hfail⟩)

theorem hardFailed_match
    (h : HardFailed registry objectsById links c.pair) :
    PairReported [.fullyReconciled, .candidateMatch]
        (ReconciliationAssembler.assemble rt matchThreshold m (assembledFrom ops gap
          (CandidateScorer.scoreAll rt ops registry objectsById links n candidates)
          coverageResult evidenceResults mismatches)) c.pair ↔
      matchThreshold ≤ 0 ∧ ∃ c', Leading
        (CandidateScorer.scoreAll rt ops registry objectsById links n candidates) c' ∧
          c'.pair = c.pair := by
  rw [pairReported_match]
  constructor
  · rintro ⟨c', hc', hpair, hreported⟩
    have hscore : c'.score = 0 := score_of_hardFailed hc'.mem (hpair ▸ h)
    refine ⟨?_, c', hc', hpair⟩
    rcases hreported with hreported | hreported
    · exact hscore ▸ hreported
    · exact absurd hreported (by rw [hscore]; exact lt_irrefl 0)
  · rintro ⟨hle, c', hc', hpair⟩
    refine ⟨c', hc', hpair, Or.inl ?_⟩
    rw [score_of_hardFailed hc'.mem (hpair ▸ h)]
    exact hle

theorem hardFailed_duplicate
    (hc : c ∈ CandidateScorer.scoreAll rt ops registry objectsById links n candidates)
    (h : HardFailed registry objectsById links c.pair) :
    DuplicateReported (ReconciliationAssembler.assemble rt matchThreshold m (assembledFrom ops gap
        (CandidateScorer.scoreAll rt ops registry objectsById links n candidates)
        coverageResult evidenceResults mismatches)) c.pair ↔
      Crowded ops gap (CandidateScorer.scoreAll rt ops registry objectsById links n candidates)
        c := by
  have hclose {top : ℚ} {c' : MatchCandidate} (hscore : c'.score = c.score) :
      DuplicateDetector.isClose ops gap top c' ↔ DuplicateDetector.isClose ops gap top c := by
    unfold DuplicateDetector.isClose
    rw [hscore]
  rw [MatchCandidate.pair, ReconciliationAssembler.mem_duplicateTargets]
  constructor
  · rintro ⟨dupSet, hset, hsource, htarget⟩
    obtain ⟨top, htop, hlen, rfl⟩ := DuplicateDetector.mem_detect.mp hset
    obtain ⟨c', hc', htarget'⟩ := List.mem_map.mp htarget
    obtain ⟨hmem, hsource', hisClose⟩ := DuplicateDetector.mem_closeMatches.mp hc'
    have hsource : top.sourceObjectId = c.sourceObjectId := hsource
    have hpair : c'.pair = c.pair := Prod.ext (hsource'.trans hsource) htarget'
    have hscore : c'.score = c.score := by
      rw [score_of_hardFailed hc h, score_of_hardFailed hmem (hpair ▸ h)]
    rw [DuplicateDetector.closeMatches_length, hsource] at hlen
    exact ⟨top, htop.mem, htop, hsource, (hclose hscore).mp hisClose, hlen⟩
  · rintro ⟨top, -, htop, hsource, hisClose, hlen⟩
    rw [← hsource, ← DuplicateDetector.closeMatches_length] at hlen
    exact ⟨_, DuplicateDetector.mem_detect.mpr ⟨top, htop, hlen, rfl⟩, hsource,
      List.mem_map_of_mem (DuplicateDetector.mem_closeMatches.mpr ⟨hc, hsource.symm, hisClose⟩)⟩

/-- Failed candidates are not presented as matches exactly when the threshold is positive or they do
not lead, and none is close to the top of its source together with another candidate. Duplicates
are detected where a ranking is ambiguous, and are the beginning of that ranking. -/
theorem hardFailed_presented_iff (rt : Runtime) {ops : ValueOps} (hops : ops.Rounds)
    (registry : ReconciliationRuleRegistry) (objectsById : Dict String ControlObject)
    (links : List ControlLink) (n m : ℕ) (candidates : List MatchCandidate)
    (gap matchThreshold : ℚ) (coverageResult : CoverageExpectationResult)
    (evidenceResults : List EvidenceSufficiencyResult)
    (mismatches : List ReconciliationMismatch) :
    let scored := CandidateScorer.scoreAll rt ops registry objectsById links n candidates
    let outcomes := ReconciliationAssembler.assemble rt matchThreshold m
      (assembledFrom ops gap scored coverageResult evidenceResults mismatches)
    ((∀ c ∈ scored, HardFailed registry objectsById links c.pair →
        ¬ PairReported [.fullyReconciled, .candidateMatch] outcomes c.pair ∧
          ¬ DuplicateReported outcomes c.pair) ↔
      ∀ c ∈ scored, HardFailed registry objectsById links c.pair →
        (0 < matchThreshold ∨ ∀ c', Leading scored c' → c'.pair ≠ c.pair) ∧
          ¬ Crowded ops gap scored c) ∧
      (∀ s, (∃ dupSet ∈ DuplicateDetector.detect ops gap scored, dupSet.sourceObjectId = s) ↔
        ∃ ranking ∈ DuplicateDetector.buildRankings ops gap scored,
          ranking.sourceObjectId = s ∧ ranking.isAmbiguous) ∧
      ∀ dupSet ∈ DuplicateDetector.detect ops gap scored,
        ∀ ranking ∈ DuplicateDetector.buildRankings ops gap scored,
          ranking.sourceObjectId = dupSet.sourceObjectId →
            dupSet.duplicateTargetIds <+:
              ranking.rankedCandidates.map MatchCandidate.targetObjectId := by
  intro scored outcomes
  refine ⟨?_, DuplicateDetector.detect_iff_ambiguous hops, fun dupSet hset ranking hranking hsource =>
    DuplicateDetector.detect_prefix hops hset hranking hsource⟩
  apply forall₂_congr
  intro c hc
  apply imp_congr_right
  intro h
  rw [hardFailed_match h, hardFailed_duplicate hc h, not_and_or, not_le, not_exists]
  simp only [not_and]
  exact Iff.rfl

end Failed

/-- A run assembles its outcomes from its scored candidates. -/
theorem ReconciliationOrchestrator.outcomes_assembledFrom (rt : Runtime) (ops : ValueOps)
    (o : ReconciliationOrchestrator) (n : ℕ) (request : ReconciliationRequest) (d : GraphData) :
    o.outcomes rt ops n request d =
      ReconciliationAssembler.assemble rt o.matchThreshold (o.assemblyDraw rt ops n request d)
        (assembledFrom ops o.duplicateGapThreshold (o.scoredCandidates rt ops n d)
          (CoverageAnalyzer.analyze (d.sourceObjects ++ d.targetObjects)
            request.coverageExpectations)
          (EvidenceSufficiencyEvaluator.getInsufficient [] (d.sourceObjects ++ d.targetObjects))
          (o.extraMismatches rt ops n request d)) := rfl

/-! ### A bill that contradicts two reports -/

/-- A bill, and two reports that links say it contradicts. -/
def contradictingTwice : ReconciliationOrchestrator where
  graph := storing [keyedObject "bill" .commercial [], keyedObject "report" .field [],
    keyedObject "visit" .field []]
    [crossLink "l" .contradicts "bill" "report", crossLink "k" .contradicts "bill" "visit"]
  ruleRegistry := buildDefaultRuleRegistry .exact

theorem contradictingTwice_fetches :
    ReconciliationOrchestrator.fetchGraphData 4 contradictingTwice.graph.repo commercialToField =
      some (ReconciliationOrchestrator.fetchByFilters contradictingTwice.graph.repo
        commercialToField.scope) :=
  ReconciliationOrchestrator.fetchGraphData_filters rfl rfl

theorem hardFailed_presented_contradictingTwice :
    let d := ReconciliationOrchestrator.fetchByFilters contradictingTwice.graph.repo
      commercialToField.scope
    let objectsById := ReconciliationOrchestrator.objectsById d
    let scored := contradictingTwice.scoredCandidates .reference .exact 0 d
    let outcomes := contradictingTwice.outcomes .reference .exact 0 commercialToField d
    ((∀ c ∈ scored, HardFailed contradictingTwice.ruleRegistry objectsById d.links c.pair →
        ¬ PairReported [.fullyReconciled, .candidateMatch] outcomes c.pair ∧
          ¬ DuplicateReported outcomes c.pair) ↔
      ∀ c ∈ scored, HardFailed contradictingTwice.ruleRegistry objectsById d.links c.pair →
        ((0 : ℚ) < 7 / 10 ∨ ∀ c', Leading scored c' → c'.pair ≠ c.pair) ∧
          ¬ Crowded .exact (1 / 20) scored c) ∧
      (∀ s, (∃ dupSet ∈ DuplicateDetector.detect .exact (1 / 20) scored,
          dupSet.sourceObjectId = s) ↔
        ∃ ranking ∈ DuplicateDetector.buildRankings .exact (1 / 20) scored,
          ranking.sourceObjectId = s ∧ ranking.isAmbiguous) ∧
      ∀ dupSet ∈ DuplicateDetector.detect .exact (1 / 20) scored,
        ∀ ranking ∈ DuplicateDetector.buildRankings .exact (1 / 20) scored,
          ranking.sourceObjectId = dupSet.sourceObjectId →
            dupSet.duplicateTargetIds <+:
              ranking.rankedCandidates.map MatchCandidate.targetObjectId := by
  intro d objectsById scored outcomes
  have houtcomes : outcomes = _ :=
    contradictingTwice.outcomes_assembledFrom .reference .exact 0 commercialToField d
  rw [houtcomes]
  exact hardFailed_presented_iff .reference ValueOps.exact_rounds _ _ _ 0 _ _ _ _ _ _ _

/-- Both reports have failed, and are reported as duplicates of the bill. -/
theorem execute_presents_contradicted : ∃ d result,
    ReconciliationOrchestrator.fetchGraphData 4 contradictingTwice.graph.repo commercialToField =
        some d ∧
      contradictingTwice.execute .reference .exact 0 commercialToField 4 = some result ∧
      ∃ c ∈ contradictingTwice.scoredCandidates .reference .exact 0 d,
        HardFailed contradictingTwice.ruleRegistry (ReconciliationOrchestrator.objectsById d) d.links
            c.pair ∧
          DuplicateReported result.outcomes c.pair := by
  refine ⟨_, _, contradictingTwice_fetches, ReconciliationOrchestrator.execute_of_fetch _ _ _
    contradictingTwice_fetches, ?_⟩
  decide +kernel

end ControlFabric.Fabric.Reconciliation
