import ControlFabric.Reconciliation.Runs

/-! Which objects a run accounts for: every source object, and every target object but those whose
only matches are overshadowed by better ones. The candidates are the pairs that a link, a
correlation key or an external reference joins. -/
namespace ControlFabric.Fabric.Reconciliation
open Lib

/-- The object occurs in the outcome, as one of its pair, as the missing one or as a duplicate. -/
def ReconciliationOutcome.Mentions (outcome : ReconciliationOutcome) (id : String) : Prop :=
  outcome.sourceObjectId = some id ∨ outcome.targetObjectId = some id ∨
    id ∈ outcome.duplicateTargetIds

/-- Every object fetched for the run occurs in an outcome. -/
def ReconciliationExecutionResult.AccountsFor (result : ReconciliationExecutionResult)
    (d : GraphData) : Prop :=
  ∀ obj ∈ d.sourceObjects ++ d.targetObjects, ∃ outcome ∈ result.outcomes, outcome.Mentions obj.id

/-- The outcome of a leading candidate is reported. -/
def Reported (matchThreshold : ℚ) (c : MatchCandidate) : Prop :=
  matchThreshold ≤ c.score ∨ 0 < c.score

instance (matchThreshold : ℚ) (c : MatchCandidate) : Decidable (Reported matchThreshold c) :=
  inferInstanceAs (Decidable (_ ∨ _))

theorem topOutcome_of_reported {matchThreshold : ℚ} {c : MatchCandidate}
    (h : Reported matchThreshold c) :
    ∃ outcomeType, ReconciliationAssembler.topOutcome matchThreshold c =
      some (ReconciliationAssembler.pairOutcome outcomeType c) := by
  unfold ReconciliationAssembler.topOutcome
  split_ifs with hfull hpositive
  · exact ⟨_, rfl⟩
  · exact ⟨_, rfl⟩
  · exact absurd h (not_or.mpr ⟨hfull, hpositive⟩)

theorem reported_of_topOutcome {matchThreshold : ℚ} {c : MatchCandidate}
    {outcome : ReconciliationOutcome}
    (h : ReconciliationAssembler.topOutcome matchThreshold c = some outcome) :
    Reported matchThreshold c ∧
      ∃ outcomeType, outcome = ReconciliationAssembler.pairOutcome outcomeType c := by
  rcases ReconciliationAssembler.topOutcome_eq_some.mp h with ⟨hfull, rfl⟩ | ⟨-, hpositive, rfl⟩
  · exact ⟨Or.inl hfull, _, rfl⟩
  · exact ⟨Or.inr hpositive, _, rfl⟩

namespace ReconciliationOrchestrator

section Conditions
variable (rt : Runtime) (ops : ValueOps) (o : ReconciliationOrchestrator) (n : ℕ) (d : GraphData)

/-- The candidate is shown as the leading one of its source, or as one of several close ones. -/
def Shown (c : MatchCandidate) : Prop :=
  Leading (o.scoredCandidates rt ops n d) c ∧ Reported o.matchThreshold c ∨
    Grouped ops o.duplicateGapThreshold (o.scoredCandidates rt ops n d) c

/-- A target object has conflicting identifiers with a source object. -/
def InConflict (d : GraphData) (id : String) : Prop :=
  ∃ src ∈ d.sourceObjects, ∃ tgt ∈ d.targetObjects, tgt.id = id ∧
    MismatchClassifier.conflictsBetween src tgt ≠ []

/-- A target object with a match is a source object as well, is in conflict with one, or is shown
with one of its candidates. -/
def NoneOvershadowed : Prop :=
  ∀ tgt ∈ d.targetObjects,
    (∃ c ∈ o.scoredCandidates rt ops n d, c.targetObjectId = tgt.id ∧ 0 < c.score) →
      tgt.id ∈ d.sourceObjects.map ControlObject.id ∨ InConflict d tgt.id ∨
        ∃ c ∈ o.scoredCandidates rt ops n d, c.targetObjectId = tgt.id ∧ o.Shown rt ops n d c

instance (c : MatchCandidate) : Decidable (o.Shown rt ops n d c) :=
  inferInstanceAs (Decidable (_ ∨ _))

instance (id : String) : Decidable (InConflict d id) := by
  unfold InConflict
  infer_instance

instance : Decidable (o.NoneOvershadowed rt ops n d) := by
  unfold NoneOvershadowed
  infer_instance

end Conditions

section Accounts
variable {rt : Runtime} {ops : ValueOps} {o : ReconciliationOrchestrator} {n : ℕ}
  {request : ReconciliationRequest} {d : GraphData} {id : String}

theorem mem_classifyIdentifierConflicts {r : MismatchReport} :
    r ∈ MismatchClassifier.classifyIdentifierConflicts d.sourceObjects d.targetObjects ↔
      ∃ src ∈ d.sourceObjects, ∃ tgt ∈ d.targetObjects,
        r ∈ MismatchClassifier.conflictsBetween src tgt := by
  simp only [MismatchClassifier.classifyIdentifierConflicts, List.mem_flatMap]

/-- A conflict names the two objects. -/
theorem conflictsBetween_ids {src tgt : ControlObject} {r : MismatchReport}
    (h : r ∈ MismatchClassifier.conflictsBetween src tgt) :
    r.sourceObjectId = some src.id ∧ r.targetObjectId = some tgt.id := by
  unfold MismatchClassifier.conflictsBetween at h
  split at h
  · exact absurd h List.not_mem_nil
  · obtain ⟨p, -, rfl⟩ := List.mem_map.mp h
    exact ⟨rfl, rfl⟩

/-- The objects that the missing ones and the conflicts name. -/
theorem extraReports_mention :
    (∃ r ∈ o.extraReports rt ops n request d,
        r.sourceObjectId = some id ∨ r.targetObjectId = some id) ↔
      (∃ src ∈ d.sourceObjects, src.id = id ∧
          (id ∉ (o.matched rt ops n d).map MatchCandidate.sourceObjectId ∨
            ∃ tgt ∈ d.targetObjects, MismatchClassifier.conflictsBetween src tgt ≠ [])) ∨
        (∃ tgt ∈ d.targetObjects, tgt.id = id ∧
          id ∉ (o.matched rt ops n d).map MatchCandidate.targetObjectId) ∨
        InConflict d id := by
  unfold extraReports MismatchClassifier.classifyMissingObjects
  simp only [List.mem_append, List.mem_map (f := MismatchClassifier.missingSource _),
    List.mem_map (f := MismatchClassifier.missingTarget _), List.mem_filter, decide_eq_true_eq,
    mem_classifyIdentifierConflicts]
  constructor
  · rintro ⟨r, (⟨src, ⟨hsrc, hmissing⟩, rfl⟩ | ⟨tgt, ⟨htgt, hmissing⟩, rfl⟩) |
      ⟨src, hsrc, tgt, htgt, hr⟩, hid⟩
    · rcases hid with hid | hid
      · obtain rfl := Option.some.inj hid
        exact Or.inl ⟨src, hsrc, rfl, Or.inl hmissing⟩
      · cases hid
    · rcases hid with hid | hid
      · cases hid
      · obtain rfl := Option.some.inj hid
        exact Or.inr (Or.inl ⟨tgt, htgt, rfl, hmissing⟩)
    · obtain ⟨hsource, htarget⟩ := conflictsBetween_ids hr
      rcases hid with hid | hid
      · rw [hsource] at hid
        exact Or.inl ⟨src, hsrc, Option.some.inj hid, Or.inr ⟨tgt, htgt, List.ne_nil_of_mem hr⟩⟩
      · rw [htarget] at hid
        exact Or.inr (Or.inr ⟨src, hsrc, tgt, htgt, Option.some.inj hid, List.ne_nil_of_mem hr⟩)
  · rintro (⟨src, hsrc, rfl, hmissing | ⟨tgt, htgt, hne⟩⟩ | ⟨tgt, htgt, rfl, hmissing⟩ |
      ⟨src, hsrc, tgt, htgt, rfl, hne⟩)
    · exact ⟨_, Or.inl (Or.inl ⟨src, ⟨hsrc, hmissing⟩, rfl⟩), Or.inl rfl⟩
    · obtain ⟨r, hr⟩ := List.exists_mem_of_ne_nil _ hne
      exact ⟨r, Or.inr ⟨src, hsrc, tgt, htgt, hr⟩, Or.inl (conflictsBetween_ids hr).1⟩
    · exact ⟨_, Or.inl (Or.inr ⟨tgt, ⟨htgt, hmissing⟩, rfl⟩), Or.inr rfl⟩
    · obtain ⟨r, hr⟩ := List.exists_mem_of_ne_nil _ hne
      exact ⟨r, Or.inr ⟨src, hsrc, tgt, htgt, hr⟩, Or.inr (conflictsBetween_ids hr).2⟩

theorem rankingOutcomes_mention :
    (∃ outcome ∈ o.rankingOutcomes rt ops n d, outcome.Mentions id) ↔
      ∃ c, Leading (o.scoredCandidates rt ops n d) c ∧ Reported o.matchThreshold c ∧
        (c.sourceObjectId = id ∨ c.targetObjectId = id) := by
  constructor
  · rintro ⟨outcome, houtcome, hmention⟩
    obtain ⟨c, hc, htop⟩ := mem_rankingOutcomes.mp houtcome
    obtain ⟨hreported, outcomeType, rfl⟩ := reported_of_topOutcome htop
    refine ⟨c, hc, hreported, ?_⟩
    rcases hmention with hmention | hmention | hmention
    · exact Or.inl (Option.some.inj hmention)
    · exact Or.inr (Option.some.inj hmention)
    · exact absurd hmention List.not_mem_nil
  · rintro ⟨c, hc, hreported, hid⟩
    obtain ⟨outcomeType, htop⟩ := topOutcome_of_reported hreported
    refine ⟨_, mem_rankingOutcomes.mpr ⟨c, hc, htop⟩, ?_⟩
    rcases hid with rfl | rfl
    · exact Or.inl rfl
    · exact Or.inr (Or.inl rfl)

theorem duplicateOutcomes_mention (request : ReconciliationRequest) :
    (∃ outcome ∈ o.duplicateOutcomes rt ops n request d, outcome.Mentions id) ↔
      ∃ c, Grouped ops o.duplicateGapThreshold (o.scoredCandidates rt ops n d) c ∧
        (c.sourceObjectId = id ∨ c.targetObjectId = id) := by
  constructor
  · rintro ⟨outcome, houtcome, hmention⟩
    obtain ⟨i, dupSet, hget, rfl⟩ := mem_duplicateOutcomes.mp houtcome
    have hset := List.mem_of_getElem? hget
    rcases hmention with hmention | hmention | hmention
    · obtain ⟨c, hc, hsource⟩ := (DuplicateDetector.exists_detect_iff scoredCandidates_nodup).mp
        ⟨dupSet, hset, Option.some.inj hmention⟩
      exact ⟨c, hc, Or.inl hsource⟩
    · cases hmention
    · obtain ⟨c, hc, -, htarget⟩ :=
        (DuplicateDetector.mem_duplicateTargetIds scoredCandidates_nodup).mp
          ⟨dupSet, hset, rfl, hmention⟩
      exact ⟨c, hc, Or.inr htarget⟩
  · rintro ⟨c, hc, hid⟩
    obtain ⟨dupSet, hset, hsource, htarget⟩ :=
      (DuplicateDetector.mem_duplicateTargetIds scoredCandidates_nodup).mpr ⟨c, hc, rfl, rfl⟩
    obtain ⟨i, hget⟩ := List.mem_iff_getElem?.mp hset
    refine ⟨_, mem_duplicateOutcomes.mpr ⟨i, dupSet, hget, rfl⟩, ?_⟩
    rcases hid with rfl | rfl
    · exact Or.inl (congrArg some hsource)
    · exact Or.inr (Or.inr htarget)

theorem extraOutcomes_mention :
    (∃ outcome ∈ o.extraOutcomes rt ops n request d, outcome.Mentions id) ↔
      ∃ r ∈ o.extraReports rt ops n request d,
        r.sourceObjectId = some id ∨ r.targetObjectId = some id := by
  constructor
  · rintro ⟨outcome, houtcome, hmention⟩
    obtain ⟨m, hm, rfl⟩ := List.mem_map.mp houtcome
    refine ⟨m.toMismatchReport, mem_buildMismatches rt hm, ?_⟩
    rcases hmention with hmention | hmention | hmention
    · exact Or.inl hmention
    · exact Or.inr hmention
    · exact absurd hmention List.not_mem_nil
  · rintro ⟨r, hr, hid⟩
    obtain ⟨m, hm, rfl⟩ := exists_buildMismatches rt (n := o.extraDraw rt ops n d) hr
    exact ⟨_, List.mem_map_of_mem hm, hid.imp_right Or.inl⟩

/-- The objects that the outcomes of a run mention. -/
theorem mentions_iff (h : o.DrawsDistinct rt ops n request d) :
    (∃ outcome ∈ o.outcomes rt ops n request d, outcome.Mentions id) ↔
      (∃ c, Leading (o.scoredCandidates rt ops n d) c ∧ Reported o.matchThreshold c ∧
          (c.sourceObjectId = id ∨ c.targetObjectId = id)) ∨
        (∃ c, Grouped ops o.duplicateGapThreshold (o.scoredCandidates rt ops n d) c ∧
          (c.sourceObjectId = id ∨ c.targetObjectId = id)) ∨
        ∃ r ∈ o.extraReports rt ops n request d,
          r.sourceObjectId = some id ∨ r.targetObjectId = some id := by
  have hgap : ¬ ∃ outcome ∈ gapOutcomes request d, outcome.Mentions id := by
    rintro ⟨outcome, houtcome, hmention⟩
    obtain ⟨gap, rfl⟩ := mem_gapOutcomes houtcome
    rcases hmention with hmention | hmention | hmention
    · cases hmention
    · cases hmention
    · exact absurd hmention List.not_mem_nil
  rw [← rankingOutcomes_mention, ← duplicateOutcomes_mention request,
    ← extraOutcomes_mention]
  simp only [mem_outcomes h, or_and_right, exists_or]
  rw [or_iff_right hgap]

/-- The leading candidate of a source with a match is reported. -/
theorem exists_reported {c : MatchCandidate} (hc : c ∈ o.scoredCandidates rt ops n d)
    (hpositive : 0 < c.score) : ∃ top, Leading (o.scoredCandidates rt ops n d) top ∧
      top.sourceObjectId = c.sourceObjectId ∧ Reported o.matchThreshold top := by
  obtain ⟨top, htop, hsource⟩ := exists_leading hc
  exact ⟨top, htop, hsource, Or.inr (hpositive.trans_le (htop.le hc hsource.symm))⟩

theorem mem_matched {c : MatchCandidate} :
    c ∈ o.matched rt ops n d ↔ c ∈ o.scoredCandidates rt ops n d ∧ 0 < c.score := by
  rw [matched, List.mem_filter, decide_eq_true_eq]

/-- Every source object occurs in an outcome. -/
theorem source_mentioned (h : o.DrawsDistinct rt ops n request d) {src : ControlObject}
    (hsrc : src ∈ d.sourceObjects) :
    ∃ outcome ∈ o.outcomes rt ops n request d, outcome.Mentions src.id := by
  rw [mentions_iff h]
  by_cases hmatched : src.id ∈ (o.matched rt ops n d).map MatchCandidate.sourceObjectId
  · obtain ⟨c, hc, hsource⟩ := List.mem_map.mp hmatched
    obtain ⟨hc, hpositive⟩ := mem_matched.mp hc
    obtain ⟨top, htop, hsame, hreported⟩ := exists_reported hc hpositive
    exact Or.inl ⟨top, htop, hreported, Or.inl (hsame.trans hsource)⟩
  · exact Or.inr (Or.inr (extraReports_mention.mpr (Or.inl ⟨src, hsrc, rfl, Or.inl hmatched⟩)))

/-- A run accounts for all objects exactly when no target object is overshadowed. -/
theorem accountsFor_iff (h : o.DrawsDistinct rt ops n request d) :
    (o.reconcile rt ops n request d).AccountsFor d ↔ o.NoneOvershadowed rt ops n d := by
  have hsources : ∀ id ∈ d.sourceObjects.map ControlObject.id,
      ∃ outcome ∈ o.outcomes rt ops n request d, outcome.Mentions id := by
    intro id hid
    obtain ⟨src, hsrc, rfl⟩ := List.mem_map.mp hid
    exact source_mentioned h hsrc
  constructor
  · rintro hall tgt htgt ⟨c, hc, htarget, hpositive⟩
    have hmatched : tgt.id ∈ (o.matched rt ops n d).map MatchCandidate.targetObjectId :=
      htarget ▸ List.mem_map_of_mem (mem_matched.mpr ⟨hc, hpositive⟩)
    rcases (mentions_iff h).mp (hall tgt (List.mem_append_right _ htgt)) with
      ⟨c', hc', hreported, hid⟩ | ⟨c', hc', hid⟩ | hextra
    · rcases hid with hid | hid
      · exact Or.inl (hid ▸ (mem_scoredCandidates hc'.mem).1)
      · exact Or.inr (Or.inr ⟨c', hc'.mem, hid, Or.inl ⟨hc', hreported⟩⟩)
    · rcases hid with hid | hid
      · exact Or.inl (hid ▸ (mem_scoredCandidates hc'.1.1).1)
      · exact Or.inr (Or.inr ⟨c', hc'.1.1, hid, Or.inr hc'⟩)
    · rcases extraReports_mention.mp hextra with ⟨src, hsrc, hid, -⟩ | ⟨tgt', -, -, hmissing⟩ |
        hconflict
      · exact Or.inl (hid ▸ List.mem_map_of_mem hsrc)
      · exact absurd hmatched hmissing
      · exact Or.inr (Or.inl hconflict)
  · intro hnone obj hobj
    rcases List.mem_append.mp hobj with hsrc | htgt
    · exact source_mentioned h hsrc
    · by_cases hmatched : obj.id ∈ (o.matched rt ops n d).map MatchCandidate.targetObjectId
      · obtain ⟨c, hc, htarget⟩ := List.mem_map.mp hmatched
        obtain ⟨hc, hpositive⟩ := mem_matched.mp hc
        rcases hnone obj htgt ⟨c, hc, htarget, hpositive⟩ with hid | hconflict |
          ⟨c', -, htarget', hshown⟩
        · exact hsources obj.id hid
        · exact (mentions_iff h).mpr
            (Or.inr (Or.inr (extraReports_mention.mpr (Or.inr (Or.inr hconflict)))))
        · rcases hshown with ⟨hlead, hreported⟩ | hgrouped
          · exact (mentions_iff h).mpr (Or.inl ⟨c', hlead, hreported, Or.inr htarget'⟩)
          · exact (mentions_iff h).mpr (Or.inr (Or.inl ⟨c', hgrouped, Or.inr htarget'⟩))
      · exact (mentions_iff h).mpr (Or.inr (Or.inr (extraReports_mention.mpr
          (Or.inr (Or.inl ⟨obj, htgt, rfl, hmatched⟩)))))

end Accounts

/-- With enough fuel a run ends, and it accounts for all fetched objects exactly when no target
object is overshadowed. -/
theorem execute_accountsFor_iff (rt : Runtime) (ops : ValueOps) (o : ReconciliationOrchestrator)
    (n : ℕ) (request : ReconciliationRequest) (fuel : ℕ)
    (hfuel : request.target.graphSliceRootIds.length + o.graph.repo.objects.keys.length < fuel) :
    ∃ d result, fetchGraphData fuel o.graph.repo request = some d ∧
      o.execute rt ops n request fuel = some result ∧
      (o.DrawsDistinct rt ops n request d →
        (result.AccountsFor d ↔ o.NoneOvershadowed rt ops n d)) := by
  obtain ⟨d, hfetch⟩ := fetchGraphData_returns hfuel
  exact ⟨d, o.reconcile rt ops n request d, hfetch, execute_of_fetch rt ops n hfetch,
    fun h => accountsFor_iff h⟩

end ReconciliationOrchestrator

/-! ### A target object that disappears -/

/-- An active object with nothing but its identity and its correlation keys. -/
def keyedObject (id : String) (plane : PlaneType) (correlationKeys : List (String × String)) :
    ControlObject where
  id := id
  tenantId := "north"
  objectType := .workOrder
  objectKind := "work-order"
  plane := plane
  domain := "grid"
  label := id
  description := none
  state := .active
  version := 1
  confidence := 1
  provenance := { createdBy := "ada", creationMethod := .deterministic }
  evidence := []
  payload := []
  correlationKeys := correlationKeys
  externalRefs := []
  tags := []
  schemaVersion := "1.0"
  supersededBy := none
  derivedFrom := []
  auditTrail := []
  createdAt := Runtime.reference.now 0
  updatedAt := Runtime.reference.now 0

/-- A graph service in which these objects and links have been stored. -/
def storing (objects : List ControlObject) (links : List ControlLink) : GraphService where
  repo := links.foldl (fun repo link => repo.storeLink link)
    (objects.foldl (fun repo obj => repo.storeObject obj) .empty)
  policy := ⟨none⟩
  checker _ _ := ⟨true, 0, 0⟩
  audit := ⟨[], []⟩

/-- The commercial and the field plane of one tenant. -/
def commercialToField : ReconciliationRequest where
  tenantId := "north"
  scope := { planes := [.commercial, .field], tenantId := "north" }
  target := {}

/-- One billed order, a report with both its keys and one with the first of them. -/
def overshadowing : ReconciliationOrchestrator where
  graph := storing [keyedObject "bill" .commercial [("order", "7"), ("site", "9")],
    keyedObject "report" .field [("order", "7"), ("site", "9")],
    keyedObject "visit" .field [("order", "7")]] []
  ruleRegistry := buildDefaultRuleRegistry .exact

namespace ReconciliationOrchestrator

theorem overshadowing_fetches : fetchGraphData 4 overshadowing.graph.repo commercialToField =
    some (fetchByFilters overshadowing.graph.repo commercialToField.scope) :=
  fetchGraphData_filters rfl rfl

theorem overshadowing_draws : overshadowing.DrawsDistinct .reference .exact 0 commercialToField
    (fetchByFilters overshadowing.graph.repo commercialToField.scope) :=
  drawsDistinct_reference (by decide +kernel)

theorem execute_accountsFor_overshadowing : ∃ d result,
    fetchGraphData 4 overshadowing.graph.repo commercialToField = some d ∧
      overshadowing.execute .reference .exact 0 commercialToField 4 = some result ∧
      (result.AccountsFor d ↔ overshadowing.NoneOvershadowed .reference .exact 0 d) := by
  obtain ⟨d, result, hfetch, hexecute, hiff⟩ :=
    execute_accountsFor_iff .reference .exact overshadowing 0 commercialToField 4 (by decide)
  have hd := Option.some.inj (hfetch.symm.trans overshadowing_fetches)
  exact ⟨d, result, hfetch, hexecute, hiff (hd ▸ overshadowing_draws)⟩

/-- The visit matches the bill, the report matches it better, and no outcome names the visit. -/
theorem execute_loses_target : ∃ d result,
    fetchGraphData 4 overshadowing.graph.repo commercialToField = some d ∧
      overshadowing.execute .reference .exact 0 commercialToField 4 = some result ∧
      overshadowing.DrawsDistinct .reference .exact 0 commercialToField d ∧
      ¬ result.AccountsFor d := by
  refine ⟨_, _, overshadowing_fetches, execute_of_fetch _ _ _ overshadowing_fetches,
    overshadowing_draws, ?_⟩
  rw [accountsFor_iff overshadowing_draws]
  decide +kernel

end ReconciliationOrchestrator

/-! ### The candidates -/

theorem findObject_of_mem {objects : List ControlObject} {obj : ControlObject} (h : obj ∈ objects) :
    ∃ obj', findObject obj.id objects = some obj' ∧ obj'.id = obj.id := by
  have hsome : (findObject obj.id objects).isSome := by
    unfold findObject
    rw [List.find?_isSome]
    exact ⟨obj, h, by simp⟩
  obtain ⟨obj', hobj'⟩ := Option.isSome_iff_exists.mp hsome
  exact ⟨obj', hobj', (findObject_some hobj').2⟩

/-- A cross-plane link joins the two objects, in either direction. -/
def JoinedByLink (links : List ControlLink) (src tgt : ControlObject) : Prop :=
  ∃ link ∈ links, link.isCrossPlane ∧ isBetween src tgt link

/-- The objects have an equal text that is not empty under one key. -/
def ShareText (texts : ControlObject → List (String × String)) (src tgt : ControlObject) : Prop :=
  ∃ p ∈ texts src, p.2 ≠ "" ∧ textField (texts tgt) p.1 = some p.2

namespace CandidateGenerator
variable {sourceObjects targetObjects : List ControlObject} {links : List ControlLink}

theorem exists_linkCandidates {src tgt : ControlObject} (hsrc : src ∈ sourceObjects)
    (htgt : tgt ∈ targetObjects) (matchMethod sourceId targetId : String) :
    (∃ c ∈ linkCandidates sourceObjects targetObjects matchMethod sourceId targetId,
      c.pair = (src.id, tgt.id)) ↔ sourceId = src.id ∧ targetId = tgt.id := by
  constructor
  · rintro ⟨c, hc, hpair⟩
    obtain ⟨src', -, tgt', -, rfl, rfl, rfl⟩ := mem_linkCandidates hc
    exact Prod.mk.inj hpair
  · rintro ⟨rfl, rfl⟩
    obtain ⟨src', hsrc', hsourceId⟩ := findObject_of_mem hsrc
    obtain ⟨tgt', htgt', htargetId⟩ := findObject_of_mem htgt
    unfold linkCandidates
    rw [hsrc', htgt']
    exact ⟨_, List.mem_singleton_self _, Prod.ext hsourceId htargetId⟩

theorem exists_fromLink {src tgt : ControlObject} (hsrc : src ∈ sourceObjects)
    (htgt : tgt ∈ targetObjects) (link : ControlLink) :
    (∃ c ∈ fromLink sourceObjects targetObjects link, c.pair = (src.id, tgt.id)) ↔
      link.isCrossPlane ∧ isBetween src tgt link := by
  unfold fromLink
  by_cases hcross : link.isCrossPlane
  · rw [if_neg (not_not.mpr hcross)]
    simp only [List.mem_append, or_and_right, exists_or, exists_linkCandidates hsrc htgt, hcross,
      true_and, isBetween, decide_eq_true_eq]
    exact or_congr_right and_comm
  · rw [if_pos hcross]
    simp [hcross]

/-- Identifiers tell the source objects apart, and the target objects. -/
theorem exists_fromTexts {src tgt : ControlObject}
    (hsources : (sourceObjects.map ControlObject.id).Nodup)
    (htargets : (targetObjects.map ControlObject.id).Nodup) (hsrc : src ∈ sourceObjects)
    (htgt : tgt ∈ targetObjects) (matchMethod : String)
    (texts : ControlObject → List (String × String)) :
    (∃ c ∈ sourceObjects.flatMap (fromTexts targetObjects matchMethod texts),
      c.pair = (src.id, tgt.id)) ↔ ShareText texts src tgt := by
  constructor
  · rintro ⟨c, hc, hpair⟩
    obtain ⟨src', hsrc', hc⟩ := List.mem_flatMap.mp hc
    obtain ⟨tgt', htgt', hshare, rfl⟩ := mem_fromTexts.mp hc
    obtain ⟨hsourceId, htargetId⟩ := Prod.mk.inj hpair
    obtain rfl := List.inj_on_of_nodup_map hsources hsrc' hsrc hsourceId
    obtain rfl := List.inj_on_of_nodup_map htargets htgt' htgt htargetId
    exact hshare
  · intro hshare
    exact ⟨newCandidate matchMethod src tgt, List.mem_flatMap.mpr ⟨src, hsrc,
      mem_fromTexts.mpr ⟨tgt, htgt, hshare, rfl⟩⟩, rfl⟩

/-- What is generated for two objects is what joins them. -/
theorem exists_generate (hsources : (sourceObjects.map ControlObject.id).Nodup)
    (htargets : (targetObjects.map ControlObject.id).Nodup) {src tgt : ControlObject}
    (hsrc : src ∈ sourceObjects) (htgt : tgt ∈ targetObjects) :
    (∃ c ∈ generate sourceObjects targetObjects links, c.pair = (src.id, tgt.id)) ↔
      JoinedByLink links src tgt ∨ ShareText ControlObject.correlationKeys src tgt ∨
        ShareText ControlObject.externalRefs src tgt := by
  have hlinks : (∃ c ∈ links.flatMap (fromLink sourceObjects targetObjects),
      c.pair = (src.id, tgt.id)) ↔ JoinedByLink links src tgt := by
    simp only [List.mem_flatMap, JoinedByLink, ← exists_fromLink hsrc htgt]
    constructor
    · rintro ⟨c, ⟨link, hlink, hc⟩, hpair⟩
      exact ⟨link, hlink, c, hc, hpair⟩
    · rintro ⟨link, hlink, c, hc, hpair⟩
      exact ⟨c, ⟨link, hlink, hc⟩, hpair⟩
  rw [← List.mem_map, generate, mem_map_firsts, List.mem_map, proposed]
  simp only [List.mem_append, or_and_right, exists_or]
  rw [hlinks, exists_fromTexts hsources htargets hsrc htgt,
    exists_fromTexts hsources htargets hsrc htgt, or_assoc]

/-- No pair is generated twice, the pairs are those that something joins, and each candidate has
the identifiers and the planes of its objects. -/
theorem generate_exact (sourceObjects targetObjects : List ControlObject)
    (links : List ControlLink) (hsources : (sourceObjects.map ControlObject.id).Nodup)
    (htargets : (targetObjects.map ControlObject.id).Nodup) :
    ((generate sourceObjects targetObjects links).map MatchCandidate.pair).Nodup ∧
      (∀ src ∈ sourceObjects, ∀ tgt ∈ targetObjects,
        ((∃ c ∈ generate sourceObjects targetObjects links, c.pair = (src.id, tgt.id)) ↔
          JoinedByLink links src tgt ∨ ShareText ControlObject.correlationKeys src tgt ∨
            ShareText ControlObject.externalRefs src tgt)) ∧
      ∀ c ∈ generate sourceObjects targetObjects links, ∃ src ∈ sourceObjects,
        ∃ tgt ∈ targetObjects, c.pair = (src.id, tgt.id) ∧
          c.sourcePlane = src.plane ∧ c.targetPlane = tgt.plane := by
  refine ⟨generate_nodup, fun src hsrc tgt htgt => exists_generate hsources htargets hsrc htgt, ?_⟩
  intro c hc
  obtain ⟨src, hsrc, tgt, htgt, matchMethod, rfl⟩ := mem_generate hc
  exact ⟨src, hsrc, tgt, htgt, rfl, rfl, rfl⟩

/-- A bill that shares a key with a report and none with a visit; the bill is a target as well. -/
theorem generate_exact_bill :
    let bill := keyedObject "bill" .commercial [("order", "7")]
    let report := keyedObject "report" .field [("order", "7")]
    let visit := keyedObject "visit" .field [("order", "")]
    ((generate [bill] [report, visit, bill] []).map MatchCandidate.pair).Nodup ∧
      (∀ src ∈ [bill], ∀ tgt ∈ [report, visit, bill],
        ((∃ c ∈ generate [bill] [report, visit, bill] [], c.pair = (src.id, tgt.id)) ↔
          JoinedByLink [] src tgt ∨ ShareText ControlObject.correlationKeys src tgt ∨
            ShareText ControlObject.externalRefs src tgt)) ∧
      ∀ c ∈ generate [bill] [report, visit, bill] [], ∃ src ∈ [bill],
        ∃ tgt ∈ [report, visit, bill], c.pair = (src.id, tgt.id) ∧
          c.sourcePlane = src.plane ∧ c.targetPlane = tgt.plane :=
  generate_exact _ _ [] (by decide) (by decide)

end CandidateGenerator

end ControlFabric.Fabric.Reconciliation
