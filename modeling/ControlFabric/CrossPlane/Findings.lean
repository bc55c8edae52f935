import ControlFabric.CrossPlane.Steps

/-! Findings: what a case is about. Each run commits every finding that holds again. -/
namespace ControlFabric
open Lib Method

/-- Two times at which the same stored edges are valid. -/
def ControlGraphStore.SameValidity (g : ControlGraphStore) (s t : DateTime) : Prop :=
  ∀ id edge, g.edges.get? id = some edge → edge.isValidAt s = edge.isValidAt t

theorem ControlGraphStore.listedEdges_congr {g : ControlGraphStore} {s t : DateTime}
    (h : g.SameValidity s t) (ids : List String)
    (relationshipFilter : Option (List RelationshipType)) :
    g.listedEdges ids relationshipFilter s = g.listedEdges ids relationshipFilter t := by
  have hvalid : (ids.filterMap g.edges.get?).filter (fun e => e.isValidAt s) =
      (ids.filterMap g.edges.get?).filter fun e => e.isValidAt t := by
    apply List.filter_congr
    intro e he
    obtain ⟨id, -, hget⟩ := List.mem_filterMap.mp he
    exact h id e hget
  unfold listedEdges
  rw [hvalid]

namespace CrossPlane

structure Finding where
  caseType : ReconciliationCaseType
  violatedRuleId : Option String
  affectedObjectIds : List String
  conflictingEdgeIds : List String
  deriving DecidableEq

def ReconciliationCase.finding (c : ReconciliationCase) : Finding :=
  ⟨c.caseType, c.violatedRuleId, c.affectedObjectIds, c.conflictingEdgeIds⟩

namespace Finding

def gap (rule : ReconciliationRule) (obj : ControlObject) : Finding :=
  ⟨.gap, some rule.ruleId, [obj.objectId], []⟩

def conflict (edgeId : String) (source target : ControlObject) : Finding :=
  ⟨.conflict, none, [source.objectId, target.objectId], [edgeId]⟩

def orphan (obj : ControlObject) : Finding := ⟨.orphan, none, [obj.objectId], []⟩

end Finding

namespace CrossPlaneReconciliationEngine

section Spec
variable (g : ControlGraphStore) (t : DateTime)

/-- The object lacks the link the rule requires at the given time. -/
def LacksLink (rule : ReconciliationRule) (obj : ControlObject) : Prop :=
  obj.isActive ∧ ¬ (g.getOutboundEdges obj.objectId (some [rule.requiredRelationship]) t).any
    (leadsToTarget g rule)

def Unlinked (obj : ControlObject) : Prop :=
  g.getOutboundEdges obj.objectId none t = [] ∧ g.getInboundEdges obj.objectId none t = []

instance (rule : ReconciliationRule) (obj : ControlObject) : Decidable (LacksLink g t rule obj) :=
  inferInstanceAs (Decidable (_ ∧ _))

instance (obj : ControlObject) : Decidable (Unlinked g t obj) :=
  inferInstanceAs (Decidable (_ ∧ _))

def sourceFindings (rule : ReconciliationRule) (obj : ControlObject) : List Finding :=
  if LacksLink g t rule obj then [Finding.gap rule obj] else []

def ruleFindings (rule : ReconciliationRule) : List Finding :=
  if rule.enabled then
    (g.getObjectsByType rule.sourceObjectType.value).flatMap (sourceFindings g t rule)
  else []

def edgeFindings (entry : String × ControlEdge) : List Finding :=
  match conflictParties g entry.2 with
  | some (source, target) => [Finding.conflict entry.1 source target]
  | none => []

def orphanFindings (obj : ControlObject) : List Finding :=
  if Unlinked g t obj then [Finding.orphan obj] else []

/-- What holds of a graph at one evaluation time. -/
def findings (rules : List ReconciliationRule) : List Finding :=
  rules.flatMap (ruleFindings g t) ++ g.edges.entries.flatMap (edgeFindings g) ++
    g.getActiveObjects.flatMap (orphanFindings g t)

end Spec

section Exact
variable {rt : Runtime} {g : ControlGraphStore} {t : DateTime} {n : ℕ}

/-- Every clock reading between two draws sees the edges that are valid at `t`. -/
def EvaluatedAt (rt : Runtime) (g : ControlGraphStore) (n m : ℕ) (t : DateTime) : Prop :=
  ∀ j, n ≤ j → j < m → g.SameValidity (rt.now j) t

theorem EvaluatedAt.mono {n' m m' : ℕ} (h : EvaluatedAt rt g n m t) (hn : n ≤ n') (hm : m' ≤ m) :
    EvaluatedAt rt g n' m' t := fun j hj hlt => h j (hn.trans hj) (lt_of_lt_of_le hlt hm)

/-- An object is judged at the time read for it. -/
theorem evaluateSource_findings_now (rule : ReconciliationRule) (obj : ControlObject) (n : ℕ) :
    ((evaluateSource rt g rule obj).run n).1.map ReconciliationCase.finding =
      sourceFindings g (rt.now n) rule obj := by
  rw [run_evaluateSource]
  unfold sourceFindings LacksLink
  by_cases hactive : obj.isActive
  · rw [if_pos hactive]
    split
    next hlink => simp [hlink]
    next hlink => simp [hactive, hlink]; rfl
  · simp [hactive]

theorem evaluateSource_findings (rule : ReconciliationRule) (obj : ControlObject)
    (h : EvaluatedAt rt g n ((evaluateSource rt g rule obj).run n).2 t) :
    ((evaluateSource rt g rule obj).run n).1.map ReconciliationCase.finding =
      sourceFindings g t rule obj := by
  rw [evaluateSource_findings_now]
  unfold sourceFindings
  by_cases hactive : obj.isActive
  · have hread : g.SameValidity (rt.now n) t := by
      apply h n le_rfl
      rw [run_evaluateSource, if_pos hactive]
      split <;> simp
    have hedges : g.getOutboundEdges obj.objectId (some [rule.requiredRelationship]) (rt.now n) =
        g.getOutboundEdges obj.objectId (some [rule.requiredRelationship]) t :=
      ControlGraphStore.listedEdges_congr hread _ _
    have hlacks : LacksLink g (rt.now n) rule obj ↔ LacksLink g t rule obj := by
      unfold LacksLink
      rw [hedges]
    simp only [hlacks]
  · simp [LacksLink, hactive]

theorem detectConflict_findings (g : ControlGraphStore) (entry : String × ControlEdge) (n : ℕ) :
    ((detectConflict rt g entry).run n).1.map ReconciliationCase.finding =
      edgeFindings g entry := by
  rw [run_detectConflict]
  unfold edgeFindings
  cases conflictParties g entry.2 <;> rfl

theorem detectOrphan_findings (obj : ControlObject)
    (h : EvaluatedAt rt g n ((detectOrphan rt g obj).run n).2 t) :
    ((detectOrphan rt g obj).run n).1.map ReconciliationCase.finding = orphanFindings g t obj := by
  rw [run_detectOrphan] at h ⊢
  have hread : g.SameValidity (rt.now n) t := by
    apply h n le_rfl
    split
    · split <;> simp
    · simp
  have hout : g.getOutboundEdges obj.objectId none (rt.now n) =
      g.getOutboundEdges obj.objectId none t := ControlGraphStore.listedEdges_congr hread _ _
  rw [hout] at h ⊢
  unfold orphanFindings Unlinked
  by_cases hempty : g.getOutboundEdges obj.objectId none t = []
  · have hread' : g.SameValidity (rt.now (n + 1)) t := by
      apply h (n + 1) (Nat.le_succ n)
      rw [if_pos hempty]
      split <;> simp
    have hin : g.getInboundEdges obj.objectId none (rt.now (n + 1)) =
        g.getInboundEdges obj.objectId none t := ControlGraphStore.listedEdges_congr hread' _ _
    rw [if_pos hempty, hin]
    split
    next hlinked => simp [hempty, hlinked]; rfl
    next hlinked => simp [hlinked]
  · simp [hempty]

/-- When every clock reading sees the edges valid at `t`, a run returns the findings at `t`. -/
theorem detect_findings (rules : List ReconciliationRule)
    (h : EvaluatedAt rt g n ((detect rt g rules).run n).2 t) :
    ((detect rt g rules).run n).1.map ReconciliationCase.finding = findings g t rules := by
  obtain ⟨m, k, hnm, hmk, hle, hm, hk, hlast, hcases⟩ := run_detect rt g rules n
  have hcollect {α : Type} {body : α → Drawing (List ReconciliationCase)}
      {spec : α → List Finding} {items : List α} {n : ℕ}
      (hstamped : ∀ item n, Stamped rt n ((body item).run n).2 ((body item).run n).1)
      (hbody : ∀ item n, EvaluatedAt rt g n ((body item).run n).2 t →
        ((body item).run n).1.map ReconciliationCase.finding = spec item)
      (hread : EvaluatedAt rt g n ((Drawing.collect body items).run n).2 t) :
      ((Drawing.collect body items).run n).1.map ReconciliationCase.finding =
        items.flatMap spec := by
    apply Drawing.collect_map_rel (P := fun j => g.SameValidity (rt.now j) t) (Q := (· = ·)) rfl
      (fun a b c d hab hcd => by rw [hab, hcd]) _ (fun item n => (hstamped item n).le) _ hread
    exact fun item _ n => hbody item n
  have hrule (rule : ReconciliationRule) (n : ℕ)
      (hread : EvaluatedAt rt g n ((evaluateEnabled rt g rule).run n).2 t) :
      ((evaluateEnabled rt g rule).run n).1.map ReconciliationCase.finding =
        ruleFindings g t rule := by
    unfold evaluateEnabled at hread ⊢
    unfold ruleFindings
    split
    next henabled =>
      rw [if_pos henabled] at hread
      exact hcollect (evaluateSource_stamped rt g rule) (fun obj n => evaluateSource_findings rule obj)
        hread
    next => rfl
  have hgaps := hcollect (evaluateEnabled_stamped rt g) hrule
    (h.mono le_rfl (hm.le.trans (hmk.trans hle)))
  have hconflicts := hcollect (detectConflict_stamped rt g)
    (fun entry n _ => detectConflict_findings g entry n) (h.mono hnm (hk.le.trans hle))
  have horphans := hcollect (detectOrphan_stamped rt g) (fun obj n => detectOrphan_findings obj)
    (h.mono (hnm.trans hmk) hlast.le)
  rw [hcases, List.map_append, List.map_append, findings, ← hgaps, ← hconflicts, ← horphans]
  rfl

end Exact

section Once
variable {rt : Runtime} {g : ControlGraphStore} {rules : List ReconciliationRule}

/-- What a rule may report, whatever the times it reads. -/
def gapCandidates (g : ControlGraphStore) (rule : ReconciliationRule) : List Finding :=
  if rule.enabled then
    (g.getObjectsByType rule.sourceObjectType.value).map (Finding.gap rule)
  else []

/-- What a run may report, whatever the times it reads. -/
def candidateFindings (g : ControlGraphStore) (rules : List ReconciliationRule) : List Finding :=
  rules.flatMap (gapCandidates g) ++ g.edges.entries.flatMap (edgeFindings g) ++
    g.getActiveObjects.map Finding.orphan

theorem collect_sublist {α : Type} {body : α → Drawing (List ReconciliationCase)}
    (spec : α → List Finding)
    (hstamped : ∀ item n, Stamped rt n ((body item).run n).2 ((body item).run n).1)
    (hbody : ∀ item n,
      (((body item).run n).1.map ReconciliationCase.finding).Sublist (spec item))
    (items : List α) (n : ℕ) :
    (((Drawing.collect body items).run n).1.map ReconciliationCase.finding).Sublist
      (items.flatMap spec) := by
  apply Drawing.collect_map_rel (P := fun _ => True) (Q := List.Sublist) (List.Sublist.refl [])
    (fun a b c d hab hcd => hab.append hcd) _ (fun item n => (hstamped item n).le) _
    fun _ _ _ => trivial
  exact fun item _ n _ => hbody item n

theorem evaluateEnabled_sublist (rule : ReconciliationRule) (n : ℕ) :
    (((evaluateEnabled rt g rule).run n).1.map ReconciliationCase.finding).Sublist
      (gapCandidates g rule) := by
  have hsource (obj : ControlObject) (n : ℕ) :
      (((evaluateSource rt g rule obj).run n).1.map ReconciliationCase.finding).Sublist
        [Finding.gap rule obj] := by
    rw [run_evaluateSource]
    split
    · split
      · exact List.nil_sublist _
      · exact List.Sublist.refl _
    · exact List.nil_sublist _
  unfold evaluateEnabled gapCandidates
  split
  · have hcollected := collect_sublist (fun obj => [Finding.gap rule obj])
      (evaluateSource_stamped rt g rule) hsource
      (g.getObjectsByType rule.sourceObjectType.value) n
    rwa [← List.map_eq_flatMap] at hcollected
  · exact List.Sublist.refl []

theorem detectOrphan_sublist (obj : ControlObject) (n : ℕ) :
    (((detectOrphan rt g obj).run n).1.map ReconciliationCase.finding).Sublist
      [Finding.orphan obj] := by
  rw [run_detectOrphan]
  split
  · split
    · exact List.Sublist.refl _
    · exact List.nil_sublist _
  · exact List.nil_sublist _

theorem detect_sublist (rt : Runtime) (g : ControlGraphStore) (rules : List ReconciliationRule)
    (n : ℕ) : (((detect rt g rules).run n).1.map ReconciliationCase.finding).Sublist
      (candidateFindings g rules) := by
  obtain ⟨m, k, -, -, -, -, -, -, hcases⟩ := run_detect rt g rules n
  have hgaps := collect_sublist (gapCandidates g) (evaluateEnabled_stamped rt g)
    evaluateEnabled_sublist rules n
  have hconflicts := collect_sublist (edgeFindings g) (detectConflict_stamped rt g)
    (fun entry n => by rw [detectConflict_findings]) g.edges.entries m
  have horphans := collect_sublist (fun obj => [Finding.orphan obj])
    (detectOrphan_stamped rt g) detectOrphan_sublist g.getActiveObjects k
  rw [← List.map_eq_flatMap] at horphans
  rw [hcases, List.map_append, List.map_append, candidateFindings]
  exact (hgaps.append hconflicts).append horphans

private theorem stored_injective (hindexed : g.Indexed) {obj obj' : ControlObject}
    (h : ∃ id, g.nodes.get? id = some obj) (h' : ∃ id, g.nodes.get? id = some obj')
    (hid : obj.objectId = obj'.objectId) : obj = obj' := by
  obtain ⟨id, hget⟩ := h
  obtain ⟨id', hget'⟩ := h'
  rw [← hindexed.keyed id obj hget] at hget
  rw [← hindexed.keyed id' obj' hget', ← hid] at hget'
  exact Option.some.inj (hget.symm.trans hget')

theorem gapCandidates_nodup (hindexed : g.Indexed) (rule : ReconciliationRule) :
    (gapCandidates g rule).Nodup := by
  unfold gapCandidates
  split
  · have hstored (obj : ControlObject)
        (hobj : obj ∈ g.getObjectsByType rule.sourceObjectType.value) :
        ∃ id, g.nodes.get? id = some obj := by
      obtain ⟨id, -, hget⟩ := List.mem_filterMap.mp hobj
      exact ⟨id, hget⟩
    refine List.Nodup.map_on (fun obj hobj obj' hobj' heq => ?_) ?_
    · exact stored_injective hindexed (hstored obj hobj) (hstored obj' hobj')
        (List.cons.inj (congrArg Finding.affectedObjectIds heq)).1
    · refine (hindexed.type_nodup _).filterMap ?_
      intro id id' obj hget hget'
      rw [← hindexed.keyed id obj hget, ← hindexed.keyed id' obj hget']
  · exact List.nodup_nil

theorem activeObjects_nodup (hindexed : g.Indexed) : g.getActiveObjects.Nodup := by
  have hentries : g.nodes.entries.Nodup := List.Nodup.of_map _ g.nodes.nodup
  refine List.Nodup.filter _ (List.Nodup.map_on (fun p hp q hq heq => ?_) hentries)
  have hp' := hindexed.keyed p.1 p.2 (Dict.get?_eq_some.mpr hp)
  have hq' := hindexed.keyed q.1 q.2 (Dict.get?_eq_some.mpr hq)
  exact Prod.ext (by rw [← hp', ← hq', heq]) heq

theorem mem_edgeFindings {entry : String × ControlEdge} {f : Finding}
    (h : f ∈ edgeFindings g entry) : f.caseType = .conflict ∧ f.conflictingEdgeIds = [entry.1] := by
  unfold edgeFindings at h
  split at h
  · rw [List.mem_singleton.mp h]
    exact ⟨rfl, rfl⟩
  · simp at h

theorem mem_gapCandidates {rule : ReconciliationRule} {f : Finding}
    (h : f ∈ gapCandidates g rule) :
    rule.enabled ∧ f.caseType = .gap ∧ f.violatedRuleId = some rule.ruleId := by
  unfold gapCandidates at h
  split at h
  next henabled =>
    obtain ⟨obj, -, rfl⟩ := List.mem_map.mp h
    exact ⟨henabled, rfl, rfl⟩
  next => simp at h

/-- The enabled rules have different identifiers. -/
def RulesDistinct (rules : List ReconciliationRule) : Prop :=
  ((rules.filter ReconciliationRule.enabled).map ReconciliationRule.ruleId).Nodup

theorem candidateFindings_nodup (hindexed : g.Indexed) (hrules : RulesDistinct rules) :
    (candidateFindings g rules).Nodup := by
  have hgaps : (rules.flatMap (gapCandidates g)).Nodup := by
    refine List.nodup_flatMap.mpr ⟨fun rule _ => gapCandidates_nodup hindexed rule, ?_⟩
    refine (List.pairwise_filter.mp (List.pairwise_map.mp hrules)).imp ?_
    intro rule rule' hne f hf hf'
    obtain ⟨henabled, -, hid⟩ := mem_gapCandidates hf
    obtain ⟨henabled', -, hid'⟩ := mem_gapCandidates hf'
    exact hne henabled henabled' (Option.some.inj (hid.symm.trans hid'))
  have hedges : (g.edges.entries.flatMap (edgeFindings g)).Nodup := by
    refine List.nodup_flatMap.mpr ⟨fun entry _ => ?_, ?_⟩
    · unfold edgeFindings
      cases conflictParties g entry.2 <;> simp
    · refine (List.pairwise_map.mp g.edges.nodup).imp ?_
      intro entry entry' hne f hf hf'
      have hid := (mem_edgeFindings hf).2.symm.trans (mem_edgeFindings hf').2
      exact hne (List.cons.inj hid).1
  have horphans : (g.getActiveObjects.map Finding.orphan).Nodup := by
    refine List.Nodup.map_on (fun obj hobj obj' hobj' heq => ?_) (activeObjects_nodup hindexed)
    have hstored (o : ControlObject) (ho : o ∈ g.getActiveObjects) :
        ∃ id, g.nodes.get? id = some o := Dict.mem_values.mp (List.mem_filter.mp ho).1
    exact stored_injective hindexed (hstored obj hobj) (hstored obj' hobj')
      (List.cons.inj (congrArg Finding.affectedObjectIds heq)).1
  have hgap (f : Finding) (hf : f ∈ rules.flatMap (gapCandidates g)) : f.caseType = .gap := by
    obtain ⟨rule, -, hf⟩ := List.mem_flatMap.mp hf
    exact (mem_gapCandidates hf).2.1
  have hconflict (f : Finding) (hf : f ∈ g.edges.entries.flatMap (edgeFindings g)) :
      f.caseType = .conflict := by
    obtain ⟨entry, -, hf⟩ := List.mem_flatMap.mp hf
    exact (mem_edgeFindings hf).1
  refine List.nodup_append.mpr ⟨List.nodup_append.mpr ⟨hgaps, hedges, ?_⟩, horphans, ?_⟩
  · rintro f hf _ hf' rfl
    have htypes := (hgap f hf).symm.trans (hconflict f hf')
    simp at htypes
  · rintro f hf _ hf' rfl
    obtain ⟨obj, -, rfl⟩ := List.mem_map.mp hf'
    rcases List.mem_append.mp hf with hf | hf
    · simpa [Finding.orphan] using hgap _ hf
    · simpa [Finding.orphan] using hconflict _ hf

/-- A run reports no finding twice. -/
theorem newCases_nodup {rt : Runtime} {w : World CrossPlaneReconciliationEngine}
    (hindexed : w.self.graph.Indexed) (hrules : RulesDistinct w.self.rules) :
    ((newCases rt w).map ReconciliationCase.finding).Nodup :=
  (candidateFindings_nodup hindexed hrules).sublist (detect_sublist rt _ _ _)

end Once

end CrossPlaneReconciliationEngine
end CrossPlane
end ControlFabric
