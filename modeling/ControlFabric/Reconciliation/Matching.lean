import ControlFabric.Reconciliation.RuleModel
import ControlFabric.Lib.Ranking

/-! The stages of a reconciliation: candidates, their scores, duplicates and rankings, mismatches,
coverage and evidence, and the outcomes assembled from all of them. -/
namespace ControlFabric.Fabric.Reconciliation
open Lib

/-- The mismatches built for the reports, the first one with draw `n`. -/
def buildMismatches (rt : Runtime) (n : ℕ) (reports : List MismatchReport) :
    List ReconciliationMismatch :=
  reports.mapIdx fun i r => { r with id := rt.uuid4 (n + i) }

/-! ### Candidates -/

def MatchCandidate.pair (c : MatchCandidate) : String × String :=
  (c.sourceObjectId, c.targetObjectId)

def findObject (objectId : String) (objects : List ControlObject) : Option ControlObject :=
  objects.find? fun o => o.id = objectId

def newCandidate (matchMethod : String) (src tgt : ControlObject) : MatchCandidate where
  sourceObjectId := src.id
  targetObjectId := tgt.id
  sourcePlane := src.plane
  targetPlane := tgt.plane
  matchMethod := matchMethod

namespace CandidateGenerator
variable (sourceObjects targetObjects : List ControlObject)

def linkCandidates (matchMethod sourceId targetId : String) : List MatchCandidate :=
  match findObject sourceId sourceObjects, findObject targetId targetObjects with
  | some src, some tgt => [newCandidate matchMethod src tgt]
  | _, _ => []

/-- The candidates a link proposes, in its direction and against it. -/
def fromLink (link : ControlLink) : List MatchCandidate :=
  if ¬ link.isCrossPlane then []
  else linkCandidates sourceObjects targetObjects "graph-link" link.sourceId link.targetId ++
    linkCandidates sourceObjects targetObjects "graph-link-reverse" link.targetId link.sourceId

/-- The candidates that the texts of a source object propose. -/
def fromTexts (matchMethod : String) (texts : ControlObject → List (String × String))
    (src : ControlObject) : List MatchCandidate :=
  (texts src).flatMap fun p =>
    if p.2 = "" then []
    else (targetObjects.filter fun tgt => textField (texts tgt) p.1 = some p.2).map
      (newCandidate matchMethod src)

/-- The candidates proposed, in the order of the loops of `generate`. -/
def proposed (links : List ControlLink) : List MatchCandidate :=
  links.flatMap (fromLink sourceObjects targetObjects) ++
    sourceObjects.flatMap
      (fromTexts targetObjects "correlation-key" ControlObject.correlationKeys) ++
    sourceObjects.flatMap (fromTexts targetObjects "external-ref" ControlObject.externalRefs)

/-- A pair already seen is not proposed again. -/
def generate (links : List ControlLink) : List MatchCandidate :=
  firsts MatchCandidate.pair (proposed sourceObjects targetObjects links)

end CandidateGenerator

/-! ### Scores -/

namespace CandidateScorer
variable (rt : Runtime) (ops : ValueOps) (registry : ReconciliationRuleRegistry)

def results (source target : ControlObject) (links : List ControlLink) :
    List (ReconciliationRule × ReconciliationRuleResult) :=
  (registry.getApplicableRules source target).map fun rule =>
    (rule, rule.evaluate source target links)

def breakdown (results : List (ReconciliationRule × ReconciliationRuleResult)) :
    MatchScoreBreakdown :=
  results.foldl (fun b r =>
    { weightedTotal := ops.round (b.weightedTotal + r.2.scoreContribution)
      maxPossible := ops.round (b.maxPossible + r.1.weight.weight) }) {}

def finalScore (results : List (ReconciliationRule × ReconciliationRuleResult)) : ℚ :=
  if results.any fun r => r.2.hardFail then 0 else (breakdown ops results).normalizedScore ops

def reports (results : List (ReconciliationRule × ReconciliationRuleResult)) :
    List MismatchReport := results.flatMap fun r => r.2.mismatches

def scoreCandidate (n : ℕ) (candidate : MatchCandidate) (source target : ControlObject)
    (links : List ControlLink) : MatchCandidate :=
  let results := results registry source target links
  { candidate with
    score := finalScore ops results
    scoreBreakdown := breakdown ops results
    confidence := finalScore ops results
    mismatches := buildMismatches rt n (reports results) }

/-- The mismatches of each candidate are drawn after those of the candidates before it. -/
def scoreAll (objectsById : Dict String ControlObject) (links : List ControlLink) :
    ℕ → List MatchCandidate → List MatchCandidate
  | _, [] => []
  | n, candidate :: candidates =>
    match objectsById.get? candidate.sourceObjectId, objectsById.get? candidate.targetObjectId with
    | some source, some target =>
      let scored := scoreCandidate rt ops registry n candidate source target links
      scored :: scoreAll objectsById links (n + scored.mismatches.length) candidates
    | _, _ => scoreAll objectsById links n candidates

end CandidateScorer

/-! ### Duplicates and rankings -/

namespace DuplicateDetector
variable (ops : ValueOps) (gapThreshold : ℚ)

def bySource (candidates : List MatchCandidate) : Dict String (List MatchCandidate) :=
  groups MatchCandidate.sourceObjectId candidates

def sortedCandidates (candidates : List MatchCandidate) : List MatchCandidate :=
  ranked MatchCandidate.score candidates

def isClose (topScore : ℚ) (c : MatchCandidate) : Bool :=
  |ops.round (c.score - topScore)| ≤ gapThreshold

def duplicatesOf (sourceId : String) (sourceCandidates : List MatchCandidate) :
    Option DuplicateCandidateSet :=
  if sourceCandidates.length < 2 then none
  else
    match sortedCandidates sourceCandidates with
    | [] => none
    | top :: rest =>
      let closeMatches := (top :: rest).filter (isClose ops gapThreshold top.score)
      if 1 < closeMatches.length then
        some {
          sourceObjectId := sourceId
          duplicateTargetIds := closeMatches.map MatchCandidate.targetObjectId
          scores := closeMatches.map MatchCandidate.score }
      else none

def detect (candidates : List MatchCandidate) : List DuplicateCandidateSet :=
  (bySource candidates).entries.filterMap fun e => duplicatesOf ops gapThreshold e.1 e.2

def rankingOf (sourceId : String) (sourceCandidates : List MatchCandidate) : CandidateRanking :=
  let sorted := sortedCandidates sourceCandidates
  let gap :=
    match sorted with
    | top :: second :: _ => some |ops.round (top.score - second.score)|
    | _ => none
  { sourceObjectId := sourceId
    rankedCandidates := sorted
    topScore := (sorted.head?.map MatchCandidate.score).getD 0
    isAmbiguous := gap.any (· ≤ gapThreshold)
    ambiguityGap := gap.getD 0 }

def buildRankings (candidates : List MatchCandidate) : List CandidateRanking :=
  (bySource candidates).entries.map fun e => rankingOf ops gapThreshold e.1 e.2

end DuplicateDetector

/-! ### Mismatches, coverage and evidence -/

namespace MismatchClassifier
variable (sourceObjects targetObjects : List ControlObject)

def conflictsBetween (src tgt : ControlObject) : List MismatchReport :=
  if src.plane = tgt.plane then []
  else (src.correlationKeys.filter fun p =>
    match textField tgt.correlationKeys p.1 with
    | none => false
    | some tgtVal => tgtVal ≠ "" ∧ tgtVal ≠ p.2 ∧
      (src.objectKind = tgt.objectKind ∨ src.domain = tgt.domain)).map fun _ =>
        { category := .identifierConflict
          sourceObjectId := some src.id
          targetObjectId := some tgt.id
          sourcePlane := some src.plane
          targetPlane := some tgt.plane }

def classifyIdentifierConflicts : List MismatchReport :=
  sourceObjects.flatMap fun src => targetObjects.flatMap (conflictsBetween src)

def missingSource (targetPlane : PlaneType) (src : ControlObject) : MismatchReport where
  category := missingCategoryByPlane targetPlane
  sourceObjectId := some src.id
  sourcePlane := some src.plane
  targetPlane := some targetPlane

def missingTarget (sourcePlane : PlaneType) (tgt : ControlObject) : MismatchReport where
  category := missingCategoryByPlane sourcePlane
  targetObjectId := some tgt.id
  sourcePlane := some sourcePlane
  targetPlane := some tgt.plane

def classifyMissingObjects (matchedSourceIds matchedTargetIds : List String)
    (sourcePlane targetPlane : PlaneType) : List MismatchReport :=
  (sourceObjects.filter fun src => src.id ∉ matchedSourceIds).map (missingSource targetPlane) ++
    (targetObjects.filter fun tgt => tgt.id ∉ matchedTargetIds).map (missingTarget sourcePlane)

end MismatchClassifier

namespace CoverageAnalyzer

def kindObjects (objects : List ControlObject) (plane : PlaneType) (kind : String) :
    List ControlObject :=
  objects.filter fun o => o.plane = plane ∧ o.objectKind = kind

def gapOf (objects : List ControlObject) (expectation : ExpectedPlaneCoverage) (kind : String) :
    Option CoverageGap :=
  let minCount : ℤ :=
    ((expectation.minObjectsPerKind.find? fun p => p.1 = kind).map Prod.snd).getD 1
  let actualCount : ℤ := (kindObjects objects expectation.plane kind).length
  if actualCount < minCount then
    some {
      plane := expectation.plane
      expectedObjectKind := kind
      expectedCount := minCount
      actualCount := actualCount
      missingCount := minCount - actualCount
      description := s!"Expected at least {minCount} '{kind}' objects in " ++
        s!"{expectation.plane.value}, found {actualCount}" }
  else none

def analyze (objects : List ControlObject) (expectations : List ExpectedPlaneCoverage) :
    CoverageExpectationResult :=
  if expectations = [] then {}
  else
    let gaps := expectations.flatMap fun expectation =>
      expectation.expectedObjectKinds.filterMap (gapOf objects expectation)
    { gaps := gaps, isFullyCovered := gaps = [] }

end CoverageAnalyzer

namespace EvidenceSufficiencyEvaluator

def evaluateObject (requiredTypes : List String) (obj : ControlObject) :
    EvidenceSufficiencyResult :=
  let missing := requiredTypes.filter (· ∉ obj.evidence.map EvidenceRef.evidenceType)
  { objectId := obj.id, isSufficient := missing = [], missingEvidenceTypes := missing }

def getInsufficient (requiredTypes : List String) (objects : List ControlObject) :
    List EvidenceSufficiencyResult :=
  (objects.map (evaluateObject requiredTypes)).filter fun r => ¬ r.isSufficient

end EvidenceSufficiencyEvaluator

/-! ### Assembly -/

namespace ReconciliationAssembler
variable (rt : Runtime) (matchThreshold : ℚ)

def pairOutcome (outcomeType : ReconciliationOutcomeType) (top : MatchCandidate) :
    ReconciliationOutcome where
  outcomeType := outcomeType
  sourceObjectId := some top.sourceObjectId
  targetObjectId := some top.targetObjectId
  candidate := some top
  mismatches := top.mismatches
  confidence := top.confidence

/-- A leading candidate below the threshold is reported if its score is positive. -/
def topOutcome (top : MatchCandidate) : Option ReconciliationOutcome :=
  if matchThreshold ≤ top.score then some (pairOutcome .fullyReconciled top)
  else if 0 < top.score then some (pairOutcome .candidateMatch top)
  else none

def rankingOutcome (ranking : CandidateRanking) : Option ReconciliationOutcome :=
  ranking.rankedCandidates.head?.bind (topOutcome matchThreshold)

def duplicateReport (dupSet : DuplicateCandidateSet) : MismatchReport where
  category := .duplicateCandidate
  sourceObjectId := some dupSet.sourceObjectId

def duplicateOutcome (dupSet : DuplicateCandidateSet) (id : String) : ReconciliationOutcome where
  outcomeType := .duplicateDetected
  sourceObjectId := some dupSet.sourceObjectId
  mismatches := [{ duplicateReport dupSet with id := id }]
  duplicateTargetIds := dupSet.duplicateTargetIds

def gapOutcome (gap : CoverageGap) : ReconciliationOutcome where
  outcomeType := .coverageGap
  coverageGap := some gap

def evidenceReport (result : EvidenceSufficiencyResult) : MismatchReport where
  category := .evidenceInsufficient
  sourceObjectId := some result.objectId

def evidenceOutcome (result : EvidenceSufficiencyResult) (id : String) :
    ReconciliationOutcome where
  outcomeType := .insufficientEvidence
  sourceObjectId := some result.objectId
  mismatches := [{ evidenceReport result with id := id }]

def mismatchOutcome (mismatch : ReconciliationMismatch) : ReconciliationOutcome where
  outcomeType := .mismatchDetected
  sourceObjectId := mismatch.sourceObjectId
  targetObjectId := mismatch.targetObjectId
  mismatches := [mismatch]

/-- The outcomes of the rankings, the duplicates, the coverage and the evidence. -/
def firstOutcomes (n : ℕ) (input : ReconciliationAssemblyInput) : List ReconciliationOutcome :=
  input.rankings.filterMap (rankingOutcome matchThreshold) ++
    (input.duplicates.mapIdx fun i dupSet => duplicateOutcome dupSet (rt.uuid4 (n + i))) ++
    (if ¬ input.coverageResult.isFullyCovered then input.coverageResult.gaps.map gapOutcome
      else []) ++
    ((input.evidenceResults.filter fun r => ¬ r.isSufficient).mapIdx fun i r =>
      evidenceOutcome r (rt.uuid4 (n + input.duplicates.length + i)))

def alreadyInOutcome (outcomes : List ReconciliationOutcome) (mismatch : ReconciliationMismatch) :
    Bool := outcomes.any fun o => o.mismatches.any fun m => m.id = mismatch.id

def addMismatch (outcomes : List ReconciliationOutcome) (mismatch : ReconciliationMismatch) :
    List ReconciliationOutcome :=
  if alreadyInOutcome outcomes mismatch then outcomes else outcomes ++ [mismatchOutcome mismatch]

def assemble (n : ℕ) (input : ReconciliationAssemblyInput) : List ReconciliationOutcome :=
  input.mismatches.foldl addMismatch (firstOutcomes rt matchThreshold n input)

def countOf (outcomeType : ReconciliationOutcomeType) (outcomes : List ReconciliationOutcome) : ℕ :=
  outcomes.countP fun o => o.outcomeType = outcomeType

/-- The summary, whose last two counts the orchestrator fills in. -/
def summarize (input : ReconciliationAssemblyInput) (outcomes : List ReconciliationOutcome)
    (tenantId : String) (planes : List PlaneType) (domains : List String) :
    ReconciliationSummary where
  tenantId := tenantId
  totalObjectsEvaluated := 0
  totalCandidatesGenerated := input.candidates.length
  totalMatches := countOf .fullyReconciled outcomes
  totalMismatches := (outcomes.map fun o => o.mismatches.length).sum
  totalDuplicates := countOf .duplicateDetected outcomes
  totalCoverageGaps := countOf .coverageGap outcomes
  totalInsufficientEvidence := countOf .insufficientEvidence outcomes
  totalCasesCreated := 0
  outcomeCounts := outcomes.foldl (fun d o =>
    d.set o.outcomeType.value (d.getD o.outcomeType.value 0 + 1)) Dict.empty
  planesReconciled := planes
  domainsReconciled := domains

end ReconciliationAssembler
end ControlFabric.Fabric.Reconciliation
