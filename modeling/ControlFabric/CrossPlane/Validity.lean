import ControlFabric.CrossPlane.OpenCases
import ControlFabric.Graph.TraverseExact

/-! Orphans and conflicts: when the two detectors agree on which edges count. -/
namespace ControlFabric.CrossPlane
open Lib Method CrossPlaneReconciliationEngine

/-- No orphan is party to a conflict, and every conflict cites an edge valid at the time. -/
structure Agrees (g : ControlGraphStore) (t : DateTime) (cases : List ReconciliationCase) :
    Prop where
  apart : ∀ c ∈ cases, c.caseType = .orphan → ∀ d ∈ cases, d.caseType = .conflict →
    ∀ id ∈ c.affectedObjectIds, id ∉ d.affectedObjectIds
  cited : ∀ c ∈ cases, c.caseType = .conflict → ∃ id edge, c.conflictingEdgeIds = [id] ∧
    g.edges.get? id = some edge ∧ edge.isValidAt t

/-- Every active edge of a conflicting type between active objects is inside its validity window. -/
def ConflictsInWindow (g : ControlGraphStore) (t : DateTime) : Prop :=
  ∀ id edge source target, g.edges.get? id = some edge →
    conflictParties g edge = some (source, target) → edge.isValidAt t

variable {rt : Runtime} {g : ControlGraphStore} {t : DateTime}

theorem conflictParties_eq_some {edge : ControlEdge} {source target : ControlObject}
    (h : conflictParties g edge = some (source, target)) :
    g.nodes.get? edge.sourceObjectId = some source ∧
      g.nodes.get? edge.targetObjectId = some target := by
  unfold conflictParties at h
  split at h
  next s t hs ht =>
    split at h
    · obtain ⟨rfl, rfl⟩ := Prod.mk.inj (Option.some.inj h)
      exact ⟨hs, ht⟩
    · simp at h
  next => simp at h

theorem mem_edgeFindings_iff {entry : String × ControlEdge} {f : Finding} :
    f ∈ edgeFindings g entry ↔ ∃ source target,
      conflictParties g entry.2 = some (source, target) ∧
        f = Finding.conflict entry.1 source target := by
  unfold edgeFindings
  cases h : conflictParties g entry.2 with
  | none => simp
  | some p => simp [Prod.ext_iff, eq_comm]

/-- The findings at a time, by type. -/
theorem mem_findings {rules : List ReconciliationRule} {f : Finding} :
    f ∈ findings g t rules ↔
      (∃ rule ∈ rules, rule.enabled ∧ ∃ obj ∈ g.getObjectsByType rule.sourceObjectType.value,
        LacksLink g t rule obj ∧ f = Finding.gap rule obj) ∨
      (∃ id edge source target, g.edges.get? id = some edge ∧
        conflictParties g edge = some (source, target) ∧
          f = Finding.conflict id source target) ∨
      ∃ obj ∈ g.getActiveObjects, Unlinked g t obj ∧ f = Finding.orphan obj := by
  have hgap (rule : ReconciliationRule) : f ∈ ruleFindings g t rule ↔ rule.enabled ∧
      ∃ obj ∈ g.getObjectsByType rule.sourceObjectType.value,
        LacksLink g t rule obj ∧ f = Finding.gap rule obj := by
    unfold ruleFindings sourceFindings
    by_cases henabled : rule.enabled <;> simp [henabled]
  have hedge : f ∈ g.edges.entries.flatMap (edgeFindings g) ↔ ∃ id edge source target,
      g.edges.get? id = some edge ∧ conflictParties g edge = some (source, target) ∧
        f = Finding.conflict id source target := by
    simp only [List.mem_flatMap, mem_edgeFindings_iff, Dict.get?_eq_some, Prod.exists,
      ← exists_and_left]
  simp only [findings, List.mem_append, List.mem_flatMap, hgap, or_assoc]
  rw [← List.mem_flatMap, hedge]
  simp [orphanFindings]

theorem mem_findings_conflict {rules : List ReconciliationRule} {f : Finding}
    (hf : f.caseType = .conflict) : f ∈ findings g t rules ↔ ∃ id edge source target,
      g.edges.get? id = some edge ∧ conflictParties g edge = some (source, target) ∧
        f = Finding.conflict id source target := by
  rw [mem_findings]
  constructor
  · rintro (⟨rule, -, -, obj, -, -, rfl⟩ | h | ⟨obj, -, -, rfl⟩)
    · simp [Finding.gap] at hf
    · exact h
    · simp [Finding.orphan] at hf
  · exact fun h => Or.inr (Or.inl h)

theorem mem_findings_orphan {rules : List ReconciliationRule} {f : Finding}
    (hf : f.caseType = .orphan) : f ∈ findings g t rules ↔ ∃ obj ∈ g.getActiveObjects,
      Unlinked g t obj ∧ f = Finding.orphan obj := by
  rw [mem_findings]
  constructor
  · rintro (⟨rule, -, -, obj, -, -, rfl⟩ | ⟨id, edge, source, target, -, -, rfl⟩ | h)
    · simp [Finding.gap] at hf
    · simp [Finding.conflict] at hf
    · exact h
  · exact fun h => Or.inr (Or.inr h)

/-- A valid edge is listed by both its ends. -/
theorem not_unlinked (hintegrity : g.Integrity) {id : String} {edge : ControlEdge}
    {obj : ControlObject} (hget : g.edges.get? id = some edge) (hvalid : edge.isValidAt t)
    (hend : obj.objectId = edge.sourceObjectId ∨ obj.objectId = edge.targetObjectId) :
    ¬ Unlinked g t obj := by
  rintro ⟨hout, hin⟩
  have hid := hintegrity.keyed id edge hget
  rw [← hid] at hget
  have hlisted (ids : List String) (hmem : edge.edgeId ∈ ids) :
      edge ∈ g.listedEdges ids none t :=
    (ControlGraphStore.mem_listedEdges hintegrity.keyed).mpr
      ⟨⟨hmem, hget⟩, hvalid, fun types htypes => by simp at htypes⟩
  rcases hend with hend | hend
  · have hmem := (hintegrity.outbound.mem_stored hget obj.objectId).mpr hend
    have hnot := hlisted _ hmem
    rw [ControlGraphStore.getOutboundEdges] at hout
    rw [hout] at hnot
    simp at hnot
  · have hmem := (hintegrity.inbound.mem_stored hget obj.objectId).mpr hend
    have hnot := hlisted _ hmem
    rw [ControlGraphStore.getInboundEdges] at hin
    rw [hin] at hnot
    simp at hnot

theorem agrees_iff (hindexed : g.Indexed) (hintegrity : g.Integrity)
    {rules : List ReconciliationRule} {cases : List ReconciliationCase}
    (hcases : cases.map ReconciliationCase.finding = findings g t rules) :
    Agrees g t cases ↔ ConflictsInWindow g t := by
  have hmem (f : Finding) : f ∈ findings g t rules ↔ ∃ c ∈ cases, c.finding = f := by
    rw [← hcases, List.mem_map]
  constructor
  · intro h id edge source target hget hparties
    obtain ⟨c, hc, hfinding⟩ := (hmem (Finding.conflict id source target)).mp
      ((mem_findings_conflict rfl).mpr ⟨id, edge, source, target, hget, hparties, rfl⟩)
    obtain ⟨id', edge', hid, hget', hvalid⟩ := h.cited c hc (congrArg Finding.caseType hfinding)
    have hids : [id'] = [id] := hid.symm.trans (congrArg Finding.conflictingEdgeIds hfinding)
    rw [(List.cons.inj hids).1, hget] at hget'
    rwa [Option.some.inj hget']
  · intro h
    have hconflict (c : ReconciliationCase) (hc : c ∈ cases) (htype : c.caseType = .conflict) :
        ∃ id edge source target, g.edges.get? id = some edge ∧
          conflictParties g edge = some (source, target) ∧
            c.finding = Finding.conflict id source target :=
      (mem_findings_conflict (f := c.finding) htype).mp ((hmem c.finding).mpr ⟨c, hc, rfl⟩)
    constructor
    · intro c hc hctype d hd hdtype objectId hobject hparty
      obtain ⟨obj, -, hunlinked, hcf⟩ := (mem_findings_orphan (f := c.finding) hctype).mp
        ((hmem c.finding).mpr ⟨c, hc, rfl⟩)
      obtain ⟨id, edge, source, target, hget, hparties, hdf⟩ := hconflict d hd hdtype
      obtain ⟨hsource, htarget⟩ := conflictParties_eq_some hparties
      have hobj : c.affectedObjectIds = [obj.objectId] := congrArg Finding.affectedObjectIds hcf
      have hends : d.affectedObjectIds = [source.objectId, target.objectId] :=
        congrArg Finding.affectedObjectIds hdf
      rw [hobj, List.mem_singleton] at hobject
      rw [hobject, hends, hindexed.keyed _ source hsource, hindexed.keyed _ target htarget,
        List.mem_pair] at hparty
      exact not_unlinked hintegrity hget (h id edge source target hget hparties) hparty hunlinked
    · intro c hc htype
      obtain ⟨id, edge, source, target, hget, hparties, hf⟩ := hconflict c hc htype
      exact ⟨id, edge, congrArg Finding.conflictingEdgeIds hf, hget,
        h id edge source target hget hparties⟩

/-- One run of an engine on any graph: its findings agree exactly when every conflicting edge is
inside its window. -/
theorem runFullReconciliation_agrees_iff {env : Env} {graphOps : List GraphOp}
    {w : World CrossPlaneReconciliationEngine}
    (hgraph : w.self.graph = (graphRun rt ⟨.new, env⟩ graphOps).self)
    (hread : EvaluatedAt rt w.self.graph w.env.draws (lastDraw rt w) t) :
    ∃ cases w', (runFullReconciliation rt).run w = .ok cases w' ∧
      (Agrees w.self.graph t cases ↔ ConflictsInWindow w.self.graph t) := by
  obtain ⟨metered, hrun⟩ := run_runFullReconciliation rt w
  obtain ⟨hindexed, hintegrity⟩ := graphRun_indexed rt env graphOps
  rw [← hgraph] at hindexed hintegrity
  exact ⟨_, _, hrun, agrees_iff hindexed hintegrity (detect_findings w.self.rules hread)⟩

/-- Two active policies that conflict, by an edge that expired. -/
def expiredConflict (rt : Runtime) : List GraphOp :=
  let policy := activePolicy rt
  [.addObject policy, .addObject { policy with objectId := "archive" },
    .addEdge
      { edgeId := "e1"
        sourceObjectId := policy.objectId
        targetObjectId := "archive"
        relationshipType := .conflicts
        enforcementWeight := 90
        evidenceReferences := []
        validFrom := .utcHour 2025 1 1 0 (by decide)
        validUntil := some (.utcHour 2025 6 1 0 (by decide))
        assertedBy := "ada"
        context := []
        isActive := true
        edgeHash := "" } none]

def expiredEngine : World CrossPlaneReconciliationEngine :=
  onGraph .reference (Env.initial "acme") (expiredConflict .reference) none

theorem expiredEngine_conflictsOutOfWindow :
    ¬ ConflictsInWindow expiredEngine.self.graph (Runtime.reference.now 0) := by
  intro h
  have hvalid := h "e1" _ _ _ rfl rfl
  revert hvalid
  decide

theorem expiredEngine_evaluatedAt : EvaluatedAt .reference expiredEngine.self.graph
    expiredEngine.env.draws (lastDraw .reference expiredEngine) (Runtime.reference.now 0) :=
  fun _ _ _ _ _ _ => rfl

theorem runFullReconciliation_agrees_iff_expired :
    ∃ cases w', (runFullReconciliation .reference).run expiredEngine = .ok cases w' ∧
      (Agrees expiredEngine.self.graph (Runtime.reference.now 0) cases ↔
        ConflictsInWindow expiredEngine.self.graph (Runtime.reference.now 0)) :=
  runFullReconciliation_agrees_iff rfl expiredEngine_evaluatedAt

/-- Both policies are reported as orphans and as parties to a conflict. -/
theorem expiredEngine_disagrees :
    ¬ ∃ cases w', (runFullReconciliation .reference).run expiredEngine = .ok cases w' ∧
      Agrees expiredEngine.self.graph (Runtime.reference.now 0) cases := by
  rintro ⟨cases, w', hcases, hagrees⟩
  obtain ⟨metered, hrun⟩ := run_runFullReconciliation .reference expiredEngine
  obtain ⟨hindexed, hintegrity⟩ :=
    graphRun_indexed .reference (Env.initial "acme") (expiredConflict .reference)
  obtain ⟨rfl, -⟩ := EStateM.Result.ok.inj (hcases.symm.trans hrun)
  exact expiredEngine_conflictsOutOfWindow ((agrees_iff hindexed hintegrity
    (detect_findings expiredEngine.self.rules expiredEngine_evaluatedAt)).mp hagrees)

end ControlFabric.CrossPlane
