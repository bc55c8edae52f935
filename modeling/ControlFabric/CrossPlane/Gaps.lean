import ControlFabric.CrossPlane.OpenCases
import ControlFabric.Graph.TraverseExact

/-! Gaps: when a rule reports exactly the objects it is about. `_evaluate_rule` takes its sources
from the type index and does not look at the plane they are in. -/
namespace ControlFabric
open Lib Method

/-- The identifiers listed in the type index are those of the objects found under the type. -/
theorem ControlGraphStore.Indexed.ids_getObjectsByType {g : ControlGraphStore} (h : g.Indexed)
    (objectType : String) :
    (g.getObjectsByType objectType).map ControlObject.objectId =
      g.typeIndex.getD objectType [] := by
  have hids (ids : List String) (hstored : ∀ id ∈ ids, id ∈ g.nodes) :
      (ids.filterMap g.nodes.get?).map ControlObject.objectId = ids := by
    induction ids with
    | nil => rfl
    | cons id ids ih =>
      obtain ⟨obj, hobj⟩ := Dict.mem_iff_get?.mp (hstored id List.mem_cons_self)
      rw [List.filterMap_cons, hobj]
      simp only [List.map_cons, h.keyed id obj hobj,
        ih fun id hid => hstored id (List.mem_cons_of_mem _ hid)]
  exact hids _ (h.type_stored objectType)

namespace CrossPlane.CrossPlaneReconciliationEngine

/-- A valid edge of the required relationship leads to an active object of the target type in the
target plane. -/
def HasRequiredLink (g : ControlGraphStore) (rule : ReconciliationRule) (t : DateTime)
    (objectId : String) : Prop :=
  ∃ edge target, g.edges.get? edge.edgeId = some edge ∧ edge.sourceObjectId = objectId ∧
    edge.isValidAt t ∧ edge.relationshipType = rule.requiredRelationship ∧
    g.nodes.get? edge.targetObjectId = some target ∧ target.isActive ∧
    target.objectType = rule.targetObjectType ∧ target.operationalPlane = rule.targetPlane

/-- The objects the rule is about. -/
def IsSource (rule : ReconciliationRule) (obj : ControlObject) : Prop :=
  obj.objectType = rule.sourceObjectType ∧ obj.operationalPlane = rule.sourcePlane

/-- The cases are gaps of the rule, one for each active source that lacks the link. -/
structure GapsExact (g : ControlGraphStore) (rule : ReconciliationRule) (now : String → DateTime)
    (cases : List ReconciliationCase) : Prop where
  of_rule : ∀ c ∈ cases, c.caseType = .gap ∧ c.violatedRuleId = some rule.ruleId
  once : (cases.map ReconciliationCase.affectedObjectIds).Nodup
  reported_iff : ∀ ids, ids ∈ cases.map ReconciliationCase.affectedObjectIds ↔
    ∃ id obj, ids = [id] ∧ g.nodes.get? id = some obj ∧ obj.isActive ∧ IsSource rule obj ∧
      ¬ HasRequiredLink g rule (now id) id

/-- The active objects without the link that the type index lists under the source type are the
sources of the rule. -/
def SourcesFiled (g : ControlGraphStore) (rule : ReconciliationRule) (now : String → DateTime) :
    Prop :=
  ∀ id obj, g.nodes.get? id = some obj → obj.isActive → ¬ HasRequiredLink g rule (now id) id →
    (id ∈ g.typeIndex.getD rule.sourceObjectType.value [] ↔ IsSource rule obj)

/-- What a rule reports: the active objects without the link that the type index lists. -/
def Reports (g : ControlGraphStore) (rule : ReconciliationRule) (now : String → DateTime)
    (id : String) : Prop :=
  ∃ obj, g.nodes.get? id = some obj ∧ id ∈ g.typeIndex.getD rule.sourceObjectType.value [] ∧
    obj.isActive ∧ ¬ HasRequiredLink g rule (now id) id

/-- The rule and the objects of a case. -/
def ruleAndObjects (c : ReconciliationCase) : Option String × List String :=
  (c.violatedRuleId, c.affectedObjectIds)

/-- No two gaps of a run are for one rule and object. -/
def GapsOnce (cases : List ReconciliationCase) : Prop :=
  ((cases.filter fun c => c.caseType = .gap).map ruleAndObjects).Nodup

/-- The two rules have different identifiers, or no object is reported by both at these times. -/
def ReportApart (rt : Runtime) (g : ControlGraphStore)
    (judged judged' : ReconciliationRule × (String → ℕ)) : Prop :=
  judged.1.ruleId = judged'.1.ruleId → ∀ id,
    ¬ (Reports g judged.1 (fun id => rt.now (judged.2 id)) id ∧
      Reports g judged'.1 (fun id => rt.now (judged'.2 id)) id)

/-- The cases are gaps of the rule, one for each of the objects. -/
structure GapsOf (rule : ReconciliationRule) (P : String → Prop) (cases : List ReconciliationCase) :
    Prop where
  of_rule : ∀ c ∈ cases, c.caseType = .gap ∧ c.violatedRuleId = some rule.ruleId
  once : (cases.map ReconciliationCase.affectedObjectIds).Nodup
  reported_iff : ∀ ids, ids ∈ cases.map ReconciliationCase.affectedObjectIds ↔ ∃ id, ids = [id] ∧ P id

section GapsOf
variable {rule rule' : ReconciliationRule} {P P' : String → Prop} {cases cases' : List ReconciliationCase}

theorem GapsOf.nodup (h : GapsOf rule P cases) : (cases.map ruleAndObjects).Nodup := by
  apply List.Nodup.of_map Prod.snd
  rw [List.map_map]
  exact h.once

theorem GapsOf.mem (h : GapsOf rule P cases) (ruleId : Option String) (ids : List String) :
    (ruleId, ids) ∈ cases.map ruleAndObjects ↔ ruleId = some rule.ruleId ∧ ∃ id, ids = [id] ∧ P id := by
  rw [← h.reported_iff, List.mem_map, List.mem_map]
  constructor
  · rintro ⟨c, hc, heq⟩
    obtain ⟨hrule, hids⟩ := Prod.mk.inj heq
    exact ⟨hrule ▸ (h.of_rule c hc).2, c, hc, hids⟩
  · rintro ⟨rfl, c, hc, rfl⟩
    exact ⟨c, hc, Prod.ext (h.of_rule c hc).2 rfl⟩

/-- The cases of two rules have no rule and object in common when the rules have different
identifiers or report different objects. -/
theorem GapsOf.disjoint_iff (h : GapsOf rule P cases) (h' : GapsOf rule' P' cases') :
    (cases.map ruleAndObjects).Disjoint (cases'.map ruleAndObjects) ↔
      (rule.ruleId = rule'.ruleId → ∀ id, ¬ (P id ∧ P' id)) := by
  constructor
  · rintro hdisjoint heq id ⟨hid, hid'⟩
    apply hdisjoint ((h.mem (some rule.ruleId) [id]).mpr ⟨rfl, id, rfl, hid⟩)
    exact (h'.mem _ _).mpr ⟨congrArg some heq, id, rfl, hid'⟩
  · rintro hapart ⟨ruleId, ids⟩ hmem hmem'
    obtain ⟨hrule, id, hids, hid⟩ := (h.mem ruleId ids).mp hmem
    obtain ⟨hrule', id', hids', hid'⟩ := (h'.mem ruleId ids).mp hmem'
    obtain rfl := List.singleton_inj.mp (hids.symm.trans hids')
    exact hapart (Option.some.inj (hrule.symm.trans hrule')) id ⟨hid, hid'⟩

end GapsOf

private theorem flatten_gaps {rt : Runtime} {g : ControlGraphStore}
    {judged : List (ReconciliationRule × (String → ℕ))} {groups : List (List ReconciliationCase)}
    (h : List.Forall₂ (fun j cases => GapsOf j.1 (Reports g j.1 fun id => rt.now (j.2 id)) cases)
      judged groups) : ∀ c ∈ groups.flatten, c.caseType = .gap := by
  induction h with
  | nil => simp
  | cons hj _ ih =>
    rw [List.flatten_cons]
    exact List.forall_mem_append.mpr ⟨fun c hc => (hj.of_rule c hc).1, ih⟩

/-- The gaps of a run are those of its rules. Two of them are for one rule and object exactly when two
rules with one identifier report the object. -/
theorem gapsOnce_iff {rt : Runtime} {g : ControlGraphStore}
    {judged : List (ReconciliationRule × (String → ℕ))} {groups : List (List ReconciliationCase)}
    {rest : List ReconciliationCase}
    (hgroups : List.Forall₂ (fun j cases => GapsOf j.1 (Reports g j.1 fun id => rt.now (j.2 id)) cases)
      judged groups)
    (hrest : ∀ c ∈ rest, c.caseType ≠ .gap) :
    GapsOnce (groups.flatten ++ rest) ↔ judged.Pairwise (ReportApart rt g) := by
  have hnone : rest.filter (fun c => c.caseType = .gap) = [] :=
    List.filter_eq_nil_iff.mpr fun c hc => by simp [hrest c hc]
  unfold GapsOnce
  rw [List.filter_append, hnone, List.append_nil, List.filter_eq_self.mpr (by simpa using flatten_gaps hgroups),
    List.map_flatten, List.nodup_flatten]
  clear hrest hnone
  induction hgroups with
  | nil => simp
  | @cons j cases judged groups hj hgroups ih =>
    have hfirst : (∀ l ∈ groups.map (List.map ruleAndObjects),
        (cases.map ruleAndObjects).Disjoint l) ↔ ∀ j' ∈ judged, ReportApart rt g j j' := by
      clear ih
      induction hgroups with
      | nil => simp
      | cons hj' _ ih =>
        rw [List.map_cons, List.forall_mem_cons, List.forall_mem_cons, ih, hj.disjoint_iff hj']
        rfl
    rw [List.map_cons, List.forall_mem_cons, List.pairwise_cons, List.pairwise_cons, hfirst,
      and_iff_right hj.nodup, and_left_comm]
    exact and_congr_right fun _ => ih

variable {rt : Runtime} {g : ControlGraphStore} {rule : ReconciliationRule}

theorem lacksLink_iff (h : g.Integrity) {t : DateTime} {obj : ControlObject} :
    LacksLink g t rule obj ↔ obj.isActive ∧ ¬ HasRequiredLink g rule t obj.objectId := by
  have hleads (edge : ControlEdge) : leadsToTarget g rule edge ↔
      ∃ target, g.nodes.get? edge.targetObjectId = some target ∧ target.isActive ∧
        target.objectType = rule.targetObjectType ∧
        target.operationalPlane = rule.targetPlane := by
    unfold leadsToTarget
    cases g.nodes.get? edge.targetObjectId with
    | none => simp
    | some target => simp [and_assoc, and_comm, and_left_comm]
  have hedges (edge : ControlEdge) :
      edge ∈ g.getOutboundEdges obj.objectId (some [rule.requiredRelationship]) t ↔
        g.edges.get? edge.edgeId = some edge ∧ edge.sourceObjectId = obj.objectId ∧
          edge.isValidAt t ∧ edge.relationshipType = rule.requiredRelationship := by
    rw [ControlGraphStore.getOutboundEdges, ControlGraphStore.mem_listedEdges h.keyed]
    constructor
    · rintro ⟨⟨hid, hget⟩, hvalid, hpasses⟩
      have hsource := (h.outbound.mem_stored hget obj.objectId).mp hid
      exact ⟨hget, hsource.symm, hvalid,
        List.mem_singleton.mp (hpasses _ rfl (List.cons_ne_nil _ _))⟩
    · rintro ⟨hget, hsource, hvalid, hrelationship⟩
      refine ⟨⟨(h.outbound.mem_stored hget obj.objectId).mpr hsource.symm, hget⟩, hvalid, ?_⟩
      rintro types htypes -
      rw [← Option.some.inj htypes, hrelationship]
      exact List.mem_singleton_self _
  refine and_congr_right fun _ => not_congr ?_
  rw [List.any_eq_true]
  constructor
  · rintro ⟨edge, hedge, hlink⟩
    obtain ⟨hget, hsource, hvalid, hrelationship⟩ := (hedges edge).mp hedge
    obtain ⟨target, htarget⟩ := (hleads edge).mp hlink
    exact ⟨edge, target, hget, hsource, hvalid, hrelationship, htarget⟩
  · rintro ⟨edge, target, hget, hsource, hvalid, hrelationship, htarget⟩
    exact ⟨edge, (hedges edge).mpr ⟨hget, hsource, hvalid, hrelationship⟩,
      (hleads edge).mpr ⟨target, htarget⟩⟩

/-- A pass over the sources judges each at the time of its own clock reading. -/
theorem collect_evaluateSource (rt : Runtime) (g : ControlGraphStore) (rule : ReconciliationRule)
    (objects : List ControlObject) (hdistinct : (objects.map ControlObject.objectId).Nodup)
    (n : ℕ) :
    ∃ reading : String → ℕ,
      (∀ id, n ≤ reading id ∧
        reading id ≤ ((Drawing.collect (evaluateSource rt g rule) objects).run n).2) ∧
      ((Drawing.collect (evaluateSource rt g rule) objects).run n).1.map
          ReconciliationCase.finding =
        objects.flatMap fun obj =>
          sourceFindings g (rt.now (reading obj.objectId)) rule obj := by
  induction objects generalizing n with
  | nil => exact ⟨fun _ => n, fun _ => ⟨le_rfl, le_rfl⟩, rfl⟩
  | cons obj objects ih =>
    obtain ⟨hnew, hdistinct⟩ := List.nodup_cons.mp hdistinct
    obtain ⟨reading, hwithin, hfindings⟩ := ih hdistinct ((evaluateSource rt g rule obj).run n).2
    have hfirst := (evaluateSource_stamped rt g rule obj n).le
    have hlater := Drawing.Forward.collect (fun o n => (evaluateSource_stamped rt g rule o n).le)
      objects ((evaluateSource rt g rule obj).run n).2
    refine ⟨Function.update reading obj.objectId n, fun id => ?_, ?_⟩
    · rw [Drawing.run_collect_cons]
      by_cases hid : id = obj.objectId
      · rw [hid, Function.update_self]
        exact ⟨le_rfl, hfirst.trans hlater⟩
      · rw [Function.update_of_ne hid]
        exact ⟨hfirst.trans (hwithin id).1, (hwithin id).2⟩
    · have htail : (objects.flatMap fun o => sourceFindings g (rt.now (reading o.objectId)) rule o) =
          objects.flatMap fun o => sourceFindings g
            (rt.now (Function.update reading obj.objectId n o.objectId)) rule o := by
        refine List.flatMap_congr fun o ho => ?_
        have hne : o.objectId ≠ obj.objectId := fun hid => hnew (hid ▸ List.mem_map_of_mem ho)
        rw [Function.update_of_ne hne]
      rw [Drawing.run_collect_cons, List.map_append, evaluateSource_findings_now, hfindings,
        List.flatMap_cons, Function.update_self, htail]

theorem flatMap_sourceFindings (objects : List ControlObject) (now : String → DateTime) :
    (objects.flatMap fun obj => sourceFindings g (now obj.objectId) rule obj) =
      (objects.filter fun obj => LacksLink g (now obj.objectId) rule obj).map
        (Finding.gap rule) := by
  induction objects with
  | nil => rfl
  | cons obj objects ih =>
    rw [List.flatMap_cons, List.filter_cons, ih, sourceFindings]
    by_cases hlacks : LacksLink g (now obj.objectId) rule obj
    · simp [hlacks]
    · simp [hlacks]

section Reported
variable {cases : List ReconciliationCase} {now : String → DateTime}
  (hcases : cases.map ReconciliationCase.finding =
    ((g.getObjectsByType rule.sourceObjectType.value).filter fun obj =>
      LacksLink g (now obj.objectId) rule obj).map (Finding.gap rule))
include hcases

theorem affected_of_findings : cases.map ReconciliationCase.affectedObjectIds =
    ((g.getObjectsByType rule.sourceObjectType.value).filter fun obj =>
      LacksLink g (now obj.objectId) rule obj).map fun obj => [obj.objectId] := by
  have haffected := congrArg (List.map Finding.affectedObjectIds) hcases
  rw [List.map_map, List.map_map] at haffected
  exact haffected

/-- What a rule reports: the active objects without the link that the type index lists. -/
theorem mem_reported (hindexed : g.Indexed) (hintegrity : g.Integrity) (ids : List String) :
    ids ∈ cases.map ReconciliationCase.affectedObjectIds ↔
      ∃ id, ids = [id] ∧ Reports g rule now id := by
  rw [affected_of_findings hcases]
  simp only [List.mem_map, List.mem_filter, decide_eq_true_iff, lacksLink_iff hintegrity]
  constructor
  · rintro ⟨obj, ⟨hobj, hactive, hlink⟩, rfl⟩
    obtain ⟨id, hlisted, hget⟩ := List.mem_filterMap.mp hobj
    obtain rfl := hindexed.keyed id obj hget
    exact ⟨obj.objectId, rfl, obj, hget, hlisted, hactive, hlink⟩
  · rintro ⟨id, rfl, obj, hget, hlisted, hactive, hlink⟩
    obtain rfl := hindexed.keyed id obj hget
    exact ⟨obj, ⟨List.mem_filterMap.mpr ⟨_, hlisted, hget⟩, hactive, hlink⟩, rfl⟩

theorem nodup_reported (hindexed : g.Indexed) :
    (cases.map ReconciliationCase.affectedObjectIds).Nodup := by
  have hids : ((g.getObjectsByType rule.sourceObjectType.value).map
      ControlObject.objectId).Nodup := by
    rw [hindexed.ids_getObjectsByType]
    exact hindexed.type_nodup _
  have hkept := hids.sublist (List.Sublist.map ControlObject.objectId
    (List.filter_sublist (p := fun obj => decide (LacksLink g (now obj.objectId) rule obj))))
  have hsingle : (((g.getObjectsByType rule.sourceObjectType.value).filter fun obj =>
      LacksLink g (now obj.objectId) rule obj).map fun obj => [obj.objectId]).Nodup := by
    have hmapped := hkept.map (f := fun id => [id]) List.singleton_injective
    rwa [List.map_map] at hmapped
  rw [affected_of_findings hcases]
  exact hsingle

theorem gapsOf_findings (hindexed : g.Indexed) (hintegrity : g.Integrity) :
    GapsOf rule (Reports g rule now) cases where
  of_rule c hc := by
    have hfinding : c.finding ∈ cases.map ReconciliationCase.finding := List.mem_map_of_mem hc
    rw [hcases] at hfinding
    obtain ⟨obj, -, hobj⟩ := List.mem_map.mp hfinding
    exact ⟨(congrArg Finding.caseType hobj).symm, (congrArg Finding.violatedRuleId hobj).symm⟩
  once := nodup_reported hcases hindexed
  reported_iff := mem_reported hcases hindexed hintegrity

/-- A rule reports exactly its sources when the type index files exactly them under its source
type, among the active objects without the link. -/
theorem gapsExact_iff (hindexed : g.Indexed) (hintegrity : g.Integrity) :
    GapsExact g rule now cases ↔ SourcesFiled g rule now := by
  have hgaps := gapsOf_findings hcases hindexed hintegrity
  constructor
  · intro hexact id obj hget hactive hlink
    have hreported := (hgaps.reported_iff [id]).symm.trans (hexact.reported_iff [id])
    constructor
    · intro hlisted
      obtain ⟨id', obj', hid, hget', -, hsource, -⟩ :=
        hreported.mp ⟨id, rfl, obj, hget, hlisted, hactive, hlink⟩
      obtain rfl := List.singleton_inj.mp hid
      obtain rfl := Option.some.inj (hget.symm.trans hget')
      exact hsource
    · intro hsource
      obtain ⟨id', hid, -, -, hlisted, -⟩ :=
        hreported.mpr ⟨id, obj, rfl, hget, hactive, hsource, hlink⟩
      obtain rfl := List.singleton_inj.mp hid
      exact hlisted
  · intro hfiled
    refine ⟨hgaps.of_rule, hgaps.once, fun ids => (hgaps.reported_iff ids).trans ?_⟩
    refine exists_congr fun id => ?_
    constructor
    · rintro ⟨hids, obj, hget, hlisted, hactive, hlink⟩
      exact ⟨obj, hids, hget, hactive, (hfiled id obj hget hactive hlink).mp hlisted, hlink⟩
    · rintro ⟨obj, hids, hget, hactive, hsource, hlink⟩
      exact ⟨hids, obj, hget, (hfiled id obj hget hactive hlink).mpr hsource, hactive, hlink⟩

end Reported

/-- The enabled rules are evaluated one after the other. -/
theorem evaluateRules_enabled (rt : Runtime) (g : ControlGraphStore)
    (rules : List ReconciliationRule) (n : ℕ) :
    (evaluateRules rt g rules).run n = (Drawing.collect (evaluateRule rt g)
      (rules.filter ReconciliationRule.enabled)).run n := by
  unfold evaluateRules
  induction rules generalizing n with
  | nil => rfl
  | cons rule rules ih =>
    rw [Drawing.run_collect_cons, List.filter_cons]
    by_cases henabled : rule.enabled
    · rw [if_pos henabled, Drawing.run_collect_cons, evaluateEnabled, if_pos henabled, ih]
    · rw [if_neg henabled, evaluateEnabled, if_neg henabled, Drawing.run_pure, ← ih]
      rfl

theorem evaluateRule_forward (rt : Runtime) (g : ControlGraphStore) (rule : ReconciliationRule) :
    (evaluateRule rt g rule).Forward :=
  fun n => (collect_stamped (evaluateSource_stamped rt g rule) _ n).le

/-- What a rule returns are the gaps it reports at its clock readings, and these are exact exactly
when its sources are filed. -/
theorem evaluateRule_exact_iff (hindexed : g.Indexed) (hintegrity : g.Integrity)
    (rule : ReconciliationRule) (n : ℕ) :
    ∃ reading : String → ℕ,
      (∀ id, n ≤ reading id ∧ reading id ≤ ((evaluateRule rt g rule).run n).2) ∧
      GapsOf rule (Reports g rule fun id => rt.now (reading id)) ((evaluateRule rt g rule).run n).1 ∧
      ∀ now : String → DateTime,
        (∀ id ∈ g.typeIndex.getD rule.sourceObjectType.value [], now id = rt.now (reading id)) →
        (GapsExact g rule now ((evaluateRule rt g rule).run n).1 ↔ SourcesFiled g rule now) := by
  have hids := hindexed.ids_getObjectsByType rule.sourceObjectType.value
  obtain ⟨reading, hwithin, hfindings⟩ := collect_evaluateSource rt g rule
    (g.getObjectsByType rule.sourceObjectType.value) (by rw [hids]; exact hindexed.type_nodup _) n
  refine ⟨reading, hwithin, gapsOf_findings ?_ hindexed hintegrity,
    fun now hnow => gapsExact_iff ?_ hindexed hintegrity⟩
  · exact hfindings.trans (flatMap_sourceFindings _ fun id => rt.now (reading id))
  · rw [evaluateRule, hfindings, ← flatMap_sourceFindings]
    refine List.flatMap_congr fun obj hobj => ?_
    rw [hnow _ (hids ▸ List.mem_map_of_mem hobj)]

theorem collect_no_gap {α : Type} {body : α → Drawing (List ReconciliationCase)}
    (hbody : ∀ item n, ∀ c ∈ ((body item).run n).1, c.caseType ≠ .gap) (items : List α) (n : ℕ) :
    ∀ c ∈ ((Drawing.collect body items).run n).1, c.caseType ≠ .gap :=
  Drawing.collect_rule
    (R := fun _ _ (cases : List ReconciliationCase) => ∀ c ∈ cases, c.caseType ≠ .gap)
    (fun _ => List.forall_mem_nil _)
    (fun _ _ _ _ _ hfound hrest => List.forall_mem_append.mpr ⟨hfound, hrest⟩)
    (fun item _ => hbody item) n

theorem detectConflicts_no_gap (n : ℕ) :
    ∀ c ∈ ((detectConflicts rt g).run n).1, c.caseType ≠ .gap := by
  refine collect_no_gap (fun entry m => ?_) _ n
  rw [run_detectConflict]
  split
  · exact List.forall_mem_singleton.mpr (show ReconciliationCaseType.conflict ≠ .gap by decide)
  · exact List.forall_mem_nil _

theorem detectOrphans_no_gap (n : ℕ) :
    ∀ c ∈ ((detectOrphans rt g).run n).1, c.caseType ≠ .gap := by
  refine collect_no_gap (fun obj m => ?_) _ n
  rw [run_detectOrphan]
  split
  · split
    · exact List.forall_mem_singleton.mpr (show ReconciliationCaseType.orphan ≠ .gap by decide)
    · exact List.forall_mem_nil _
  · exact List.forall_mem_nil _

/-- What holds of the items with something each is put down as a list of pairs. -/
theorem forall₂_exists {α β γ : Type} {R : α → γ → β → Prop} {l : List α} {l' : List β}
    (h : List.Forall₂ (fun a b => ∃ c, R a c b) l l') :
    ∃ pairs : List (α × γ), pairs.map Prod.fst = l ∧
      List.Forall₂ (fun p b => R p.1 p.2 b) pairs l' := by
  induction h with
  | nil => exact ⟨[], rfl, .nil⟩
  | @cons a b l l' hab _ ih =>
    obtain ⟨c, hc⟩ := hab
    obtain ⟨pairs, hpairs, hall⟩ := ih
    exact ⟨(a, c) :: pairs, by rw [List.map_cons, hpairs], .cons hc hall⟩

/-- A run on any graph built by its methods: the cases of each enabled rule, and then those of the
other detectors. The cases of a rule are exact at the times read for its sources exactly when the
type index files its sources, and the run has one gap at most for a rule and an object exactly when no
two enabled rules with one identifier report the same object. -/
theorem runFullReconciliation_gapsExact_iff {env : Env} {graphOps : List GraphOp}
    {w : World CrossPlaneReconciliationEngine}
    (hgraph : w.self.graph = (graphRun rt ⟨.new, env⟩ graphOps).self) :
    ∃ groups rest w', (runFullReconciliation rt).run w = .ok (groups.flatten ++ rest) w' ∧
      (∀ c ∈ rest, c.caseType ≠ .gap) ∧
      ∃ judged : List (ReconciliationRule × (String → ℕ)),
        judged.map Prod.fst = w.self.rules.filter ReconciliationRule.enabled ∧
        List.Forall₂ (fun j cases =>
          (∀ id, w.env.draws ≤ j.2 id ∧ j.2 id ≤ w'.env.draws) ∧
          ∀ now : String → DateTime,
            (∀ id ∈ w.self.graph.typeIndex.getD j.1.sourceObjectType.value [],
              now id = rt.now (j.2 id)) →
            (GapsExact w.self.graph j.1 now cases ↔ SourcesFiled w.self.graph j.1 now))
          judged groups ∧
        (GapsOnce (groups.flatten ++ rest) ↔ judged.Pairwise (ReportApart rt w.self.graph)) := by
  obtain ⟨metered, hrun⟩ := run_runFullReconciliation rt w
  obtain ⟨w', hw', hdraws⟩ : ∃ w', (runFullReconciliation rt).run w = .ok (newCases rt w) w' ∧
      w'.env.draws = lastDraw rt w := ⟨_, hrun, rfl⟩
  obtain ⟨hindexed, hintegrity⟩ := graphRun_indexed rt env graphOps
  rw [← hgraph] at hindexed hintegrity
  obtain ⟨m, k, hnm, hmk, hle, hm, hk, hlast, hcases⟩ :=
    run_detect rt w.self.graph w.self.rules w.env.draws
  rw [evaluateRules_enabled] at hm hcases
  obtain ⟨groups, hgroups, hpasses⟩ := Drawing.collect_passes
    (evaluateRule_forward rt w.self.graph) (w.self.rules.filter ReconciliationRule.enabled)
    w.env.draws
  have hrest : ∀ c ∈ ((detectConflicts rt w.self.graph).run m).1 ++
      ((detectOrphans rt w.self.graph).run k).1, c.caseType ≠ .gap :=
    List.forall_mem_append.mpr ⟨detectConflicts_no_gap m, detectOrphans_no_gap k⟩
  obtain ⟨judged, hjudged, hall⟩ := forall₂_exists (l := w.self.rules.filter _)
    (R := fun rule (reading : String → ℕ) cases =>
      (∀ id, w.env.draws ≤ reading id ∧ reading id ≤ w'.env.draws) ∧
      GapsOf rule (Reports w.self.graph rule fun id => rt.now (reading id)) cases ∧
      ∀ now : String → DateTime,
        (∀ id ∈ w.self.graph.typeIndex.getD rule.sourceObjectType.value [],
          now id = rt.now (reading id)) →
        (GapsExact w.self.graph rule now cases ↔ SourcesFiled w.self.graph rule now)) <| by
    refine hpasses.imp fun rule cases ⟨j, hj, hpass, hfound⟩ => ?_
    obtain ⟨reading, hwithin, hgaps, hexact⟩ := evaluateRule_exact_iff hindexed hintegrity rule j
    refine ⟨reading, fun id => ⟨hj.trans (hwithin id).1, ?_⟩, hfound ▸ hgaps, hfound ▸ hexact⟩
    rw [hdraws]
    exact (hwithin id).2.trans (hpass.trans (hm ▸ hmk.trans hle))
  refine ⟨groups, _, w', ?_, hrest, judged, hjudged, hall.imp fun j cases h => ⟨h.1, h.2.2⟩,
    gapsOnce_iff (hall.imp fun j cases h => h.2.1) hrest⟩
  rw [hw', ← List.append_assoc, ← hgroups, ← hcases]
  rfl

/-- An active technical control outside the plane its core rule is about. -/
def strayControl (rt : Runtime) : ControlObject :=
  { draftPolicy rt with objectType := .technicalControl, state := .active }

def strayEngine : World CrossPlaneReconciliationEngine :=
  onGraph .reference (Env.initial "acme") [.addObject (strayControl .reference)] none

theorem runFullReconciliation_gapsExact_iff_stray :
    ∃ groups rest w',
      (runFullReconciliation .reference).run strayEngine = .ok (groups.flatten ++ rest) w' ∧
      (∀ c ∈ rest, c.caseType ≠ .gap) ∧
      ∃ judged : List (ReconciliationRule × (String → ℕ)),
        judged.map Prod.fst = strayEngine.self.rules.filter ReconciliationRule.enabled ∧
        List.Forall₂ (fun j cases =>
          (∀ id, strayEngine.env.draws ≤ j.2 id ∧ j.2 id ≤ w'.env.draws) ∧
          ∀ now : String → DateTime,
            (∀ id ∈ strayEngine.self.graph.typeIndex.getD j.1.sourceObjectType.value [],
              now id = Runtime.reference.now (j.2 id)) →
            (GapsExact strayEngine.self.graph j.1 now cases ↔
              SourcesFiled strayEngine.self.graph j.1 now))
          judged groups ∧
        (GapsOnce (groups.flatten ++ rest) ↔
          judged.Pairwise (ReportApart .reference strayEngine.self.graph)) :=
  runFullReconciliation_gapsExact_iff rfl

/-- The control in the plane of data is reported as one in the plane of security. -/
theorem strayEngine_reported :
    ∃ cases w', (runFullReconciliation .reference).run strayEngine = .ok cases w' ∧
      ∃ rule ∈ strayEngine.self.rules, rule.enabled ∧ ∀ now,
        ¬ GapsExact strayEngine.self.graph rule now
          (cases.filter fun c => c.violatedRuleId = some rule.ruleId) := by
  obtain ⟨metered, hrun⟩ := run_runFullReconciliation .reference strayEngine
  refine ⟨_, _, hrun, buildCoreReconciliationRules[1], List.getElem_mem _, rfl, fun now hexact => ?_⟩
  have hreported : [(strayControl .reference).objectId] ∈
      ((newCases .reference strayEngine).filter fun c =>
        c.violatedRuleId = some buildCoreReconciliationRules[1].ruleId).map
          ReconciliationCase.affectedObjectIds := by decide
  obtain ⟨id, obj, hid, hget, -, hsource, -⟩ := (hexact.reported_iff _).mp hreported
  obtain rfl := List.singleton_inj.mp hid
  have hobj : strayEngine.self.graph.nodes.get? (strayControl .reference).objectId =
      some (strayControl .reference) := rfl
  obtain rfl := Option.some.inj (hobj.symm.trans hget)
  exact absurd hsource.2 (by decide)

end CrossPlane.CrossPlaneReconciliationEngine
end ControlFabric
