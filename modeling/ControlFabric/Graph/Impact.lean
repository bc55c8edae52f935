import ControlFabric.Graph.TraverseExact
import Mathlib.Data.Set.Card

/-! The impact analysis of an object. It follows the graph forwards and backwards and joins the two
lists of edges, so a critical edge that both traversals discover is reported twice. -/
namespace ControlFabric
open Lib Method

structure CriticalRelationship where
  edgeId : String
  type : String
  source : String
  target : String
  enforcementWeight : ℤ
  deriving DecidableEq

def ControlEdge.criticalRelationship (e : ControlEdge) : CriticalRelationship :=
  ⟨e.edgeId, e.relationshipType.value, e.sourceObjectId, e.targetObjectId, e.enforcementWeight⟩

structure ImpactAnalysis where
  objectId : String
  objectName : String
  objectType : String
  operationalPlane : String
  downstreamObjects : List String
  upstreamObjects : List String
  totalAffectedObjects : ℕ
  criticalRelationships : List CriticalRelationship
  maxDepthAnalysed : ℤ

namespace ControlGraphStore

/-- The edge with this identifier, where it is stored and critical. -/
def criticalEdge (g : ControlGraphStore) (edgeId : String) : Option ControlEdge :=
  (g.edges.get? edgeId).filter fun e => 60 ≤ e.enforcementWeight

/-- What `get_impact_analysis` reports of the two traversals. -/
def impactOf (g : ControlGraphStore) (obj : ControlObject) (objectId : String) (maxDepth : ℤ)
    (outbound inbound : GraphTraversalResult) : ImpactAnalysis :=
  let criticalEdges := (outbound.discoveredEdges ++ inbound.discoveredEdges).filterMap g.criticalEdge
  { objectId := objectId
    objectName := obj.name
    objectType := obj.objectType.value
    operationalPlane := obj.operationalPlane
    downstreamObjects := outbound.discoveredObjects
    upstreamObjects := inbound.discoveredObjects
    totalAffectedObjects := (outbound.discoveredObjects ++ inbound.discoveredObjects).dedup.length
    criticalRelationships := criticalEdges.map ControlEdge.criticalRelationship
    maxDepthAnalysed := maxDepth }

/-- `get_impact_analysis`; the inbound traversal draws after the outbound one. -/
def getImpactAnalysis (rt : Runtime) (n fuel : ℕ) (g : ControlGraphStore) (objectId : String)
    (maxDepth : ℤ) : Except PyError (Option ImpactAnalysis) := do
  match g.nodes.get? objectId with
  | none => .error (.graphIntegrityError s!"Object {objectId} not found.")
  | some obj =>
    let some outbound ← g.traverse rt n fuel objectId "outbound" maxDepth none none
      | return none
    let some inbound ←
        g.traverse rt (n + 2 + outbound.paths.length) fuel objectId "inbound" maxDepth none none
      | return none
    return some (g.impactOf obj objectId maxDepth outbound inbound)

/-- A traversal in this direction discovers the edge: it is followed from an object that fewer than
`maxDepth` steps reach. -/
def DiscoversEdge (g : ControlGraphStore) (direction : String) (atTime : DateTime)
    (objectId : String) (maxDepth : ℤ) (edge : ControlEdge) : Prop :=
  ∃ u d v, Dist (g.Adjacent direction none atTime) objectId d u ∧ (d : ℤ) < maxDepth ∧
    g.Follows direction none atTime u edge v

/-- A traversal in this direction discovers the object. -/
def DiscoversObject (g : ControlGraphStore) (direction : String) (atTime : DateTime)
    (objectId : String) (maxDepth : ℤ) (v : String) : Prop :=
  v ≠ objectId ∧ ∃ d, Dist (g.Adjacent direction none atTime) objectId d v ∧ (d : ℤ) ≤ maxDepth

/-- Each critical edge that one of the traversals discovers is reported once, and nothing else is;
each object that one of them discovers is counted once. -/
structure CountedOnce (g : ControlGraphStore) (outboundTime inboundTime : DateTime)
    (objectId : String) (maxDepth : ℤ) (impact : ImpactAnalysis) : Prop where
  once : (impact.criticalRelationships.map CriticalRelationship.edgeId).Nodup
  mem_critical : ∀ r, r ∈ impact.criticalRelationships ↔ ∃ edge, 60 ≤ edge.enforcementWeight ∧
    (g.DiscoversEdge "outbound" outboundTime objectId maxDepth edge ∨
      g.DiscoversEdge "inbound" inboundTime objectId maxDepth edge) ∧
    edge.criticalRelationship = r
  total_eq : impact.totalAffectedObjects =
    {v | g.DiscoversObject "outbound" outboundTime objectId maxDepth v ∨
      g.DiscoversObject "inbound" inboundTime objectId maxDepth v}.ncard

variable {g : ControlGraphStore} {objectId direction : String} {maxDepth : ℤ} {atTime : DateTime}

theorem criticalEdge_eq_some {edgeId : String} {edge : ControlEdge} :
    g.criticalEdge edgeId = some edge ↔
      g.edges.get? edgeId = some edge ∧ 60 ≤ edge.enforcementWeight := by
  simp [criticalEdge, Option.filter_eq_some_iff]

theorem DiscoversEdge.stored {edge : ControlEdge}
    (hedge : g.DiscoversEdge direction atTime objectId maxDepth edge) :
    g.edges.get? edge.edgeId = some edge := by
  obtain ⟨_, _, _, -, -, hfollows⟩ := hedge
  exact hfollows.stored

/-- The edges discovered, as identifiers and as stored edges. -/
theorem TraversalExact.mem_edges_stored {result : GraphTraversalResult}
    (h : g.TraversalExact objectId direction maxDepth none atTime result) {edge : ControlEdge}
    (hstored : g.edges.get? edge.edgeId = some edge) :
    edge.edgeId ∈ result.discoveredEdges ↔
      g.DiscoversEdge direction atTime objectId maxDepth edge := by
  rw [h.mem_edges]
  constructor
  · rintro ⟨u, d, edge', v, hdist, hlt, hid, hfollows⟩
    have hsame := hfollows.stored
    rw [hid, hstored] at hsame
    obtain rfl := Option.some.inj hsame
    exact ⟨u, d, v, hdist, hlt, hfollows⟩
  · rintro ⟨u, d, v, hdist, hlt, hfollows⟩
    exact ⟨u, d, edge, v, hdist, hlt, rfl, hfollows⟩

theorem mem_criticalEdges {outbound inbound : GraphTraversalResult} {atTime' : DateTime}
    (hkeyed : ∀ id edge, g.edges.get? id = some edge → edge.edgeId = id)
    (hout : g.TraversalExact objectId "outbound" maxDepth none atTime outbound)
    (hin : g.TraversalExact objectId "inbound" maxDepth none atTime' inbound)
    {edge : ControlEdge} :
    edge ∈ (outbound.discoveredEdges ++ inbound.discoveredEdges).filterMap g.criticalEdge ↔
      60 ≤ edge.enforcementWeight ∧
        (g.DiscoversEdge "outbound" atTime objectId maxDepth edge ∨
          g.DiscoversEdge "inbound" atTime' objectId maxDepth edge) := by
  simp only [List.mem_filterMap, List.mem_append, criticalEdge_eq_some]
  constructor
  · rintro ⟨id, hid, hstored, hcritical⟩
    obtain rfl := hkeyed id edge hstored
    rw [hout.mem_edges_stored hstored, hin.mem_edges_stored hstored] at hid
    exact ⟨hcritical, hid⟩
  · rintro ⟨hcritical, hdiscovered⟩
    have hstored := hdiscovered.elim DiscoversEdge.stored DiscoversEdge.stored
    rw [← hout.mem_edges_stored hstored, ← hin.mem_edges_stored hstored] at hdiscovered
    exact ⟨edge.edgeId, hdiscovered, hstored, hcritical⟩

/-- The critical edges of a list of identifiers carry these identifiers. -/
theorem filterMap_criticalEdge_ids
    (hkeyed : ∀ id edge, g.edges.get? id = some edge → edge.edgeId = id) (ids : List String) :
    (ids.filterMap g.criticalEdge).map ControlEdge.edgeId =
      ids.filter fun id => (g.criticalEdge id).isSome := by
  induction ids with
  | nil => rfl
  | cons id ids ih =>
    cases hedge : g.criticalEdge id with
    | none => simp [hedge, ih]
    | some edge =>
      have hid : edge.edgeId = id := hkeyed id edge (criticalEdge_eq_some.mp hedge).1
      simp [hedge, ih, hid]

/-- Two lists without repetition joined: what repeats is what both hold. -/
theorem nodup_criticalEdges_iff {outbound inbound : GraphTraversalResult} {atTime' : DateTime}
    (hkeyed : ∀ id edge, g.edges.get? id = some edge → edge.edgeId = id)
    (hout : g.TraversalExact objectId "outbound" maxDepth none atTime outbound)
    (hin : g.TraversalExact objectId "inbound" maxDepth none atTime' inbound) :
    (((outbound.discoveredEdges ++ inbound.discoveredEdges).filterMap g.criticalEdge).map
        ControlEdge.edgeId).Nodup ↔
      ∀ edge, 60 ≤ edge.enforcementWeight →
        g.DiscoversEdge "outbound" atTime objectId maxDepth edge →
        ¬ g.DiscoversEdge "inbound" atTime' objectId maxDepth edge := by
  rw [filterMap_criticalEdge_ids hkeyed, List.filter_append, List.nodup_append']
  constructor
  · rintro ⟨-, -, hdisjoint⟩ edge hcritical houtbound hinbound
    have hstored := houtbound.stored
    have hsome : (g.criticalEdge edge.edgeId).isSome := by
      rw [criticalEdge_eq_some.mpr ⟨hstored, hcritical⟩]
      rfl
    exact hdisjoint
      (List.mem_filter.mpr ⟨(hout.mem_edges_stored hstored).mpr houtbound, hsome⟩)
      (List.mem_filter.mpr ⟨(hin.mem_edges_stored hstored).mpr hinbound, hsome⟩)
  · intro hapart
    refine ⟨hout.edges_nodup.filter _, hin.edges_nodup.filter _, fun id hid hid' => ?_⟩
    obtain ⟨hid, hsome⟩ := List.mem_filter.mp hid
    obtain ⟨hid', -⟩ := List.mem_filter.mp hid'
    obtain ⟨edge, hedge⟩ := Option.isSome_iff_exists.mp hsome
    obtain ⟨hstored, hcritical⟩ := criticalEdge_eq_some.mp hedge
    obtain rfl := hkeyed id edge hstored
    exact hapart edge hcritical ((hout.mem_edges_stored hstored).mp hid)
      ((hin.mem_edges_stored hstored).mp hid')

theorem card_affected {outbound inbound : GraphTraversalResult} {atTime' : DateTime}
    (hout : g.TraversalExact objectId "outbound" maxDepth none atTime outbound)
    (hin : g.TraversalExact objectId "inbound" maxDepth none atTime' inbound) :
    (outbound.discoveredObjects ++ inbound.discoveredObjects).dedup.length =
      {v | g.DiscoversObject "outbound" atTime objectId maxDepth v ∨
        g.DiscoversObject "inbound" atTime' objectId maxDepth v}.ncard := by
  have hset : {v | g.DiscoversObject "outbound" atTime objectId maxDepth v ∨
        g.DiscoversObject "inbound" atTime' objectId maxDepth v} =
      ((outbound.discoveredObjects ++ inbound.discoveredObjects).toFinset : Set String) := by
    ext v
    simp [DiscoversObject, hout.mem_objects, hin.mem_objects]
  rw [hset, Set.ncard_coe_finset, List.card_toFinset]

/-- On a store with integrity the analysis of a stored object ends, with what its two traversals
discovered. -/
theorem Integrity.getImpactAnalysis_eq (h : g.Integrity) (rt : Runtime) (n : ℕ) {fuel : ℕ}
    {obj : ControlObject} (hobj : g.nodes.get? objectId = some obj) (maxDepth : ℤ)
    (hfuel : g.edges.keys.length + 1 < fuel) :
    ∃ m outbound inbound, n < m ∧
      g.TraversalExact objectId "outbound" maxDepth none (rt.now n) outbound ∧
      g.TraversalExact objectId "inbound" maxDepth none (rt.now m) inbound ∧
      g.getImpactAnalysis rt n fuel objectId maxDepth =
        .ok (some (g.impactOf obj objectId maxDepth outbound inbound)) := by
  have hobject : objectId ∈ g.nodes := Dict.mem_of_get? hobj
  obtain ⟨outbound, houtbound, hout⟩ :=
    h.traversalExact rt n hobject "outbound" maxDepth none none hfuel
  obtain ⟨inbound, hinbound, hin⟩ := h.traversalExact rt (n + 2 + outbound.paths.length) hobject
    "inbound" maxDepth none none hfuel
  refine ⟨_, outbound, inbound, by omega, hout, hin, ?_⟩
  rw [getImpactAnalysis, hobj]
  dsimp only
  rw [houtbound]
  dsimp only [bind, Except.bind]
  rw [hinbound]
  rfl

/-- Each critical edge is reported once exactly when none is discovered in both directions. -/
theorem countedOnce_impactOf_iff
    (hkeyed : ∀ id edge, g.edges.get? id = some edge → edge.edgeId = id)
    {outbound inbound : GraphTraversalResult} {atTime' : DateTime}
    (hout : g.TraversalExact objectId "outbound" maxDepth none atTime outbound)
    (hin : g.TraversalExact objectId "inbound" maxDepth none atTime' inbound)
    (obj : ControlObject) :
    g.CountedOnce atTime atTime' objectId maxDepth
        (g.impactOf obj objectId maxDepth outbound inbound) ↔
      ∀ edge, 60 ≤ edge.enforcementWeight →
        g.DiscoversEdge "outbound" atTime objectId maxDepth edge →
        ¬ g.DiscoversEdge "inbound" atTime' objectId maxDepth edge := by
  rw [← nodup_criticalEdges_iff hkeyed hout hin]
  have hids : (g.impactOf obj objectId maxDepth outbound inbound).criticalRelationships.map
        CriticalRelationship.edgeId =
      ((outbound.discoveredEdges ++ inbound.discoveredEdges).filterMap g.criticalEdge).map
        ControlEdge.edgeId := by
    rw [impactOf, List.map_map]
    rfl
  constructor
  · intro hcounted
    exact hids ▸ hcounted.once
  · intro hnodup
    refine ⟨hids ▸ hnodup, fun r => ?_, card_affected hout hin⟩
    rw [impactOf, List.mem_map]
    refine exists_congr fun edge => ?_
    rw [mem_criticalEdges hkeyed hout hin, and_assoc]

end ControlGraphStore

open ControlGraphStore

/-- On every reachable graph the impact analysis of an object ends; it counts each critical edge
once exactly when its two traversals discover no critical edge in common. -/
theorem impact_counted_once_iff (rt : Runtime) (env : Env) (ops : List GraphOp) {objectId : String}
    (hobject : objectId ∈ (graphRun rt ⟨.new, env⟩ ops).self.nodes) (maxDepth : ℤ) (n : ℕ)
    {fuel : ℕ} (hfuel : (graphRun rt ⟨.new, env⟩ ops).self.edges.keys.length + 1 < fuel) :
    let g := (graphRun rt ⟨.new, env⟩ ops).self
    ∃ m impact, n < m ∧ g.getImpactAnalysis rt n fuel objectId maxDepth = .ok (some impact) ∧
      (g.CountedOnce (rt.now n) (rt.now m) objectId maxDepth impact ↔
        ∀ edge, 60 ≤ edge.enforcementWeight →
          g.DiscoversEdge "outbound" (rt.now n) objectId maxDepth edge →
          ¬ g.DiscoversEdge "inbound" (rt.now m) objectId maxDepth edge) := by
  intro g
  have hintegrity : g.Integrity := (graphRun_indexed rt env ops).2
  obtain ⟨obj, hobj⟩ := Dict.mem_iff_get?.mp hobject
  obtain ⟨m, outbound, inbound, hlater, hout, hin, himpact⟩ :=
    hintegrity.getImpactAnalysis_eq rt n hobj maxDepth hfuel
  exact ⟨m, _, hlater, himpact, countedOnce_impactOf_iff hintegrity.keyed hout hin obj⟩

/-- A policy and a copy of it that require each other. -/
def mutualPolicies : List GraphOp :=
  let policy := draftPolicy .reference
  let requires (edgeId sourceObjectId targetObjectId : String) : ControlEdge :=
    { edgeId := edgeId
      sourceObjectId := sourceObjectId
      targetObjectId := targetObjectId
      relationshipType := .requires
      enforcementWeight := 70
      evidenceReferences := []
      validFrom := Runtime.reference.now 0
      validUntil := none
      assertedBy := "ada"
      context := []
      isActive := true
      edgeHash := "" }
  [.addObject policy, .addObject { policy with objectId := "archive" },
    .addEdge (requires "e1" policy.objectId "archive") none,
    .addEdge (requires "e2" "archive" policy.objectId) none]

theorem impact_counted_once_policies :
    let policy := draftPolicy .reference
    let g := (graphRun .reference ⟨.new, .initial "default"⟩ mutualPolicies).self
    ∃ m impact, 0 < m ∧
      g.getImpactAnalysis .reference 0 4 policy.objectId 1 = .ok (some impact) ∧
      (g.CountedOnce (Runtime.reference.now 0) (Runtime.reference.now m) policy.objectId 1 impact ↔
        ∀ edge, 60 ≤ edge.enforcementWeight →
          g.DiscoversEdge "outbound" (Runtime.reference.now 0) policy.objectId 1 edge →
          ¬ g.DiscoversEdge "inbound" (Runtime.reference.now m) policy.objectId 1 edge) :=
  impact_counted_once_iff .reference (.initial "default") mutualPolicies
    (by decide +kernel) 1 0 (by decide +kernel)

/-- At the default depth both traversals of the two policies go round, and each edge is reported
twice. -/
theorem impact_repeats_policies :
    let policy := draftPolicy .reference
    let g := (graphRun .reference ⟨.new, .initial "default"⟩ mutualPolicies).self
    ∃ impact, g.getImpactAnalysis .reference 0 4 policy.objectId 3 = .ok (some impact) ∧
      impact.criticalRelationships.map CriticalRelationship.edgeId = ["e1", "e2", "e2", "e1"] ∧
      ∀ atTime atTime', ¬ g.CountedOnce atTime atTime' policy.objectId 3 impact := by
  intro policy g
  have hids : (g.getImpactAnalysis .reference 0 4 policy.objectId 3).toOption.join.map
      (fun impact => impact.criticalRelationships.map CriticalRelationship.edgeId) =
        some ["e1", "e2", "e2", "e1"] := by decide +kernel
  obtain ⟨impact, himpact, hrepeated⟩ := Option.map_eq_some_iff.mp hids
  refine ⟨impact, ?_, hrepeated, fun atTime atTime' hcounted => ?_⟩
  · have hanswer := Option.join_eq_some_iff.mp himpact
    cases hresult : g.getImpactAnalysis .reference 0 4 policy.objectId 3 with
    | error e =>
      rw [hresult] at hanswer
      cases hanswer
    | ok answer =>
      rw [hresult] at hanswer
      exact congrArg Except.ok (Option.some.inj hanswer)
  · exact absurd (hrepeated ▸ hcounted.once) (by decide)

end ControlFabric
