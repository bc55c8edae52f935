import ControlFabric.Gate.Governed
import ControlFabric.Graph.DomainTypes
import ControlFabric.Lib.Run
import ControlFabric.Lib.Index

/-! The control graph: objects, typed edges, adjacency lists and object indices. A call raises and leaves
the graph as it was, or makes one change. -/
namespace ControlFabric
open Lib Method

structure ControlGraphStore where
  nodes : Dict String ControlObject
  edges : Dict String ControlEdge
  outbound : Dict String (List String)
  inbound : Dict String (List String)
  planeIndex : Dict String (List String)
  typeIndex : Dict String (List String)

/-- `index[key].append(value)` of a `defaultdict(list)`. -/
def appendTo (index : Dict String (List String)) (key value : String) : Dict String (List String) :=
  index.set key (index.getD key [] ++ [value])

namespace ControlGraphStore

def new : ControlGraphStore :=
  ⟨Dict.empty, Dict.empty, Dict.empty, Dict.empty, Dict.empty, Dict.empty⟩

def addObject (obj : ControlObject) : Method ControlGraphStore Unit := do
  if obj.objectId ∈ (← self).nodes then
    raise (.graphIntegrityError s!"Object {obj.objectId} already exists.")
  assign fun g => { g with
    nodes := g.nodes.set obj.objectId obj
    planeIndex := appendTo g.planeIndex obj.operationalPlane obj.objectId
    typeIndex := appendTo g.typeIndex obj.objectType.value obj.objectId }

/-- `index[key].remove(value)`, which raises when the value is not listed. -/
def removeFrom (index : Dict String (List String)) (key value : String) :
    Except PyError (Dict String (List String)) :=
  if value ∈ index.getD key [] then .ok (index.set key ((index.getD key []).erase value))
  else .error (.valueError "list.remove(x): x not in list")

def updateObject (obj : ControlObject) : Method ControlGraphStore Unit := do
  match (← self).nodes.get? obj.objectId with
  | none => raise (.graphIntegrityError s!"Object {obj.objectId} not found.")
  | some old =>
    if old.operationalPlane ≠ obj.operationalPlane then
      let index ← lift (removeFrom (← self).planeIndex old.operationalPlane obj.objectId)
      assign fun g => { g with planeIndex := appendTo index obj.operationalPlane obj.objectId }
    assign fun g => { g with nodes := g.nodes.set obj.objectId obj }

def getObjectsByPlane (g : ControlGraphStore) (plane : String) : List ControlObject :=
  (g.planeIndex.getD plane []).filterMap g.nodes.get?

def getObjectsByType (g : ControlGraphStore) (objectType : String) : List ControlObject :=
  (g.typeIndex.getD objectType []).filterMap g.nodes.get?

/-- `add_edge` without a gate. -/
def insertEdge (edge : ControlEdge) : Method ControlGraphStore Unit := do
  if edge.sourceObjectId ∉ (← self).nodes then
    raise (.graphIntegrityError s!"Source object {edge.sourceObjectId} not found.")
  if edge.targetObjectId ∉ (← self).nodes then
    raise (.graphIntegrityError s!"Target object {edge.targetObjectId} not found.")
  if edge.edgeId ∈ (← self).edges then
    raise (.graphIntegrityError s!"Edge {edge.edgeId} already exists.")
  if edge.sourceObjectId = edge.targetObjectId then
    raise (.graphIntegrityError "Self-referential edges are not permitted.")
  assign fun g => { g with
    edges := g.edges.set edge.edgeId edge
    outbound := appendTo g.outbound edge.sourceObjectId edge.edgeId
    inbound := appendTo g.inbound edge.targetObjectId edge.edgeId }

/-- What `add_governed_edge` submits to the gate. -/
def linkSubmission (edge : ControlEdge) (assertedBy : String) : Submission where
  actionType := "graph_link_creation"
  proposedPayload := [("source_id", .str edge.sourceObjectId),
    ("target_id", .str edge.targetObjectId),
    ("relationship_type", .str edge.relationshipType.value),
    ("enforcement_weight", .int edge.enforcementWeight)]
  requestedBy := assertedBy
  origin := .humanOperator
  evidenceReferences := some
    (if edge.evidenceReferences ≠ [] then edge.evidenceReferences else [edge.edgeHash])
  provenanceChain := some [edge.sourceObjectId, edge.targetObjectId]
  executor := none

def addGovernedEdge (rt : Runtime) (edge : ControlEdge) (assertedBy : String) :
    Method (Governed ControlGraphStore) ControlEdge := do
  if edge.relationshipType ∈ RelationshipType.stateSemanticTypes then
    Governed.governed rt (linkSubmission edge assertedBy)
      (fun result => .graphIntegrityError
        (s!"Gate blocked edge creation ({edge.relationshipType.value}): " ++
          result.failureReason.getD "None"))
      (insertEdge edge)
  else Governed.onStore (insertEdge edge)
  return edge

/-- With a gate the call is handed to `add_governed_edge`. -/
def addEdge (rt : Runtime) (edge : ControlEdge) : Method (Governed ControlGraphStore) Unit := do
  match (← self).releaseGate with
  | some _ =>
    let _ ← addGovernedEdge rt edge edge.assertedBy
    return
  | none => Governed.onStore (insertEdge edge)

def deactivateEdge (edgeId : String) : Method ControlGraphStore Unit := do
  match (← self).edges.get? edgeId with
  | none => raise (.graphIntegrityError s!"Edge {edgeId} not found.")
  | some edge =>
    assign fun g => { g with edges := g.edges.set edgeId { edge with isActive := false } }

end ControlGraphStore

/-! ### What one call does -/

namespace ControlGraphStore

def withObject (g : ControlGraphStore) (obj : ControlObject) : ControlGraphStore :=
  { g with
    nodes := g.nodes.set obj.objectId obj
    planeIndex := appendTo g.planeIndex obj.operationalPlane obj.objectId
    typeIndex := appendTo g.typeIndex obj.objectType.value obj.objectId }

/-- `obj` in the place of `old`, in the plane index only if the plane differs. -/
def replaceObject (g : ControlGraphStore) (old obj : ControlObject) : ControlGraphStore :=
  { g with
    nodes := g.nodes.set obj.objectId obj
    planeIndex :=
      if old.operationalPlane = obj.operationalPlane then g.planeIndex
      else appendTo (g.planeIndex.set old.operationalPlane
        ((g.planeIndex.getD old.operationalPlane []).erase obj.objectId))
        obj.operationalPlane obj.objectId }

def withEdge (g : ControlGraphStore) (edge : ControlEdge) : ControlGraphStore :=
  { g with
    edges := g.edges.set edge.edgeId edge
    outbound := appendTo g.outbound edge.sourceObjectId edge.edgeId
    inbound := appendTo g.inbound edge.targetObjectId edge.edgeId }

/-- The checks `add_edge` makes before it changes anything. -/
structure Insertable (g : ControlGraphStore) (edge : ControlEdge) : Prop where
  source_mem : edge.sourceObjectId ∈ g.nodes
  target_mem : edge.targetObjectId ∈ g.nodes
  edge_new : edge.edgeId ∉ g.edges
  no_loop : edge.sourceObjectId ≠ edge.targetObjectId

variable {rt : Runtime} {g : ControlGraphStore} {edge : ControlEdge} {obj old : ControlObject}
  {env : Env}

theorem run_addObject (env : Env) (h : obj.objectId ∉ g.nodes) :
    (addObject obj).run ⟨g, env⟩ = .ok () ⟨g.withObject obj, env⟩ := by
  simp [addObject, h, withObject]

theorem run_addObject_error (h : obj.objectId ∈ g.nodes) :
    (addObject obj).run ⟨g, env⟩ =
      .error (.graphIntegrityError s!"Object {obj.objectId} already exists.") ⟨g, env⟩ := by
  simp [addObject, h]

theorem run_updateObject (h : g.nodes.get? obj.objectId = some old)
    (hlisted : obj.objectId ∈ g.planeIndex.getD old.operationalPlane []) :
    (updateObject obj).run ⟨g, env⟩ = .ok () ⟨g.replaceObject old obj, env⟩ := by
  by_cases hplane : old.operationalPlane = obj.operationalPlane
  · simp [updateObject, h, hplane, replaceObject]
  · simp [updateObject, h, hplane, replaceObject, removeFrom, hlisted]

theorem run_updateObject_error (h : obj.objectId ∉ g.nodes) :
    (updateObject obj).run ⟨g, env⟩ =
      .error (.graphIntegrityError s!"Object {obj.objectId} not found.") ⟨g, env⟩ := by
  simp [updateObject, Dict.get?_eq_none.mpr h]

theorem run_insertEdge (h : g.Insertable edge) :
    (insertEdge edge).run ⟨g, env⟩ = .ok () ⟨g.withEdge edge, env⟩ := by
  simp [insertEdge, h.source_mem, h.target_mem, h.edge_new, h.no_loop, withEdge]

theorem run_insertEdge_error (env : Env) (h : ¬ g.Insertable edge) :
    ∃ e, (insertEdge edge).run ⟨g, env⟩ = .error e ⟨g, env⟩ := by
  by_cases hs : edge.sourceObjectId ∈ g.nodes
  · by_cases ht : edge.targetObjectId ∈ g.nodes
    · by_cases he : edge.edgeId ∈ g.edges
      · exact ⟨_, by simp [insertEdge, hs, ht, he]; rfl⟩
      · by_cases hl : edge.sourceObjectId = edge.targetObjectId
        · rw [hl] at hs
          exact ⟨_, by simp [insertEdge, he, hl, ht]; rfl⟩
        · exact absurd ⟨hs, ht, he, hl⟩ h
    · exact ⟨_, by simp [insertEdge, hs, ht]; rfl⟩
  · exact ⟨_, by simp [insertEdge, hs]; rfl⟩

section Governed
variable {w : World (Governed ControlGraphStore)} {assertedBy : String}

variable (rt) in
theorem run_addGovernedEdge_semantic
    (h : edge.relationshipType ∈ RelationshipType.stateSemanticTypes) :
    (addGovernedEdge rt edge assertedBy).run w =
      ((fun _ => edge) <$> Governed.governed rt (linkSubmission edge assertedBy)
        (fun result => .graphIntegrityError
          (s!"Gate blocked edge creation ({edge.relationshipType.value}): " ++
            result.failureReason.getD "None"))
        (insertEdge edge)).run w := by
  simp only [addGovernedEdge, h, if_true, map_eq_pure_bind]

variable (rt) in
theorem run_addGovernedEdge_other
    (h : edge.relationshipType ∉ RelationshipType.stateSemanticTypes) :
    (addGovernedEdge rt edge assertedBy).run w =
      ((fun _ => edge) <$> Governed.onStore (insertEdge edge)).run w := by
  simp only [addGovernedEdge, h, if_false, map_eq_pure_bind]

theorem run_addEdge_gate {gate : PlatformActionReleaseGate} (h : w.self.releaseGate = some gate) :
    (addEdge rt edge).run w =
      ((fun _ => ()) <$> addGovernedEdge rt edge edge.assertedBy).run w := by
  simp only [addEdge, EStateM.run_bind, run_self, h, map_eq_pure_bind]

theorem run_addEdge_none (h : w.self.releaseGate = none) :
    (addEdge rt edge).run w = (Governed.onStore (insertEdge edge)).run w := by
  simp only [addEdge, EStateM.run_bind, run_self, h]

end Governed

end ControlGraphStore

/-- One call on a graph. -/
inductive GraphOp where
  | addObject (obj : ControlObject)
  | updateObject (obj : ControlObject)
  | addEdge (edge : ControlEdge) (releaseGate : Option PlatformActionReleaseGate)
  | addGovernedEdge (edge : ControlEdge) (assertedBy : String)
      (releaseGate : Option PlatformActionReleaseGate)
  | deactivateEdge (edgeId : String)

namespace GraphOp
open ControlGraphStore

def call (rt : Runtime) : GraphOp → Method ControlGraphStore Unit
  | addObject obj => ControlGraphStore.addObject obj
  | updateObject obj => ControlGraphStore.updateObject obj
  | addEdge edge releaseGate => Governed.callWith releaseGate (ControlGraphStore.addEdge rt edge)
  | addGovernedEdge edge assertedBy releaseGate => do
    let _ ← Governed.callWith releaseGate (ControlGraphStore.addGovernedEdge rt edge assertedBy)
    return
  | deactivateEdge edgeId => ControlGraphStore.deactivateEdge edgeId

/-- A gate is asked about state-semantic edges only. -/
def LetThrough (releaseGate : Option PlatformActionReleaseGate) (edge : ControlEdge)
    (assertedBy : String) : Prop :=
  edge.relationshipType ∈ RelationshipType.stateSemanticTypes →
    Governed.Admits releaseGate (linkSubmission edge assertedBy)

/-- The call is accepted by this graph and leaves that one. -/
def Writes (g : ControlGraphStore) : GraphOp → ControlGraphStore → Prop
  | addObject obj, g' => obj.objectId ∉ g.nodes ∧ g' = g.withObject obj
  | updateObject obj, g' =>
    ∃ old, g.nodes.get? obj.objectId = some old ∧ g' = g.replaceObject old obj
  | addEdge edge releaseGate, g' =>
    g.Insertable edge ∧ LetThrough releaseGate edge edge.assertedBy ∧ g' = g.withEdge edge
  | addGovernedEdge edge assertedBy releaseGate, g' =>
    g.Insertable edge ∧ LetThrough releaseGate edge assertedBy ∧ g' = g.withEdge edge
  | deactivateEdge edgeId, g' => ∃ edge, g.edges.get? edgeId = some edge ∧
    g' = { g with edges := g.edges.set edgeId { edge with isActive := false } }

theorem run_callWith_addGovernedEdge (rt : Runtime) (edge : ControlEdge) (assertedBy : String)
    (releaseGate : Option PlatformActionReleaseGate) (g : ControlGraphStore) (env : Env) :
    let m := Governed.callWith releaseGate (ControlGraphStore.addGovernedEdge rt edge assertedBy)
    (g.Insertable edge ∧ LetThrough releaseGate edge assertedBy ∧
        ∃ env', env.Within 9 env' ∧ m.run ⟨g, env⟩ = .ok edge ⟨g.withEdge edge, env'⟩) ∨
      ¬ (g.Insertable edge ∧ LetThrough releaseGate edge assertedBy) ∧
        ∃ e env', env.Within 9 env' ∧ m.run ⟨g, env⟩ = .error e ⟨g, env'⟩ := by
  intro m
  by_cases hsemantic : edge.relationshipType ∈ RelationshipType.stateSemanticTypes
  · have hthrough : LetThrough releaseGate edge assertedBy ↔
        Governed.Admits releaseGate (linkSubmission edge assertedBy) := by
      simp [LetThrough, hsemantic]
    have hrun : m.run ⟨g, env⟩ = _ := (Governed.run_callWith_congr
      (run_addGovernedEdge_semantic rt hsemantic)).trans (Governed.run_callWith_map ..)
    rw [run_map] at hrun
    have hexec : (linkSubmission edge assertedBy).executor = none := rfl
    rcases Governed.run_callWith_governed rt _ _ _ _ hexec releaseGate with
      ⟨hadmits, env', hwithin, hcommit⟩ | ⟨hadmits, e, env', hwithin, hcommit⟩
    · rw [hcommit] at hrun
      rw [hrun, hthrough]
      by_cases hinsert : g.Insertable edge
      · rw [run_insertEdge hinsert]
        exact Or.inl ⟨hinsert, hadmits, env', hwithin, rfl⟩
      · obtain ⟨e, herror⟩ := run_insertEdge_error env' hinsert
        rw [herror]
        exact Or.inr ⟨fun h => hinsert h.1, e, env', hwithin, rfl⟩
    · rw [hcommit] at hrun
      rw [hrun, hthrough]
      exact Or.inr ⟨fun h => hadmits h.2, e, env', hwithin, rfl⟩
  · have hthrough : LetThrough releaseGate edge assertedBy := fun h => absurd h hsemantic
    have hrun : m.run ⟨g, env⟩ = _ := (Governed.run_callWith_congr
      (run_addGovernedEdge_other rt hsemantic)).trans (Governed.run_callWith_map ..)
    rw [run_map, Governed.run_callWith_onStore] at hrun
    rw [hrun]
    by_cases hinsert : g.Insertable edge
    · rw [run_insertEdge hinsert]
      exact Or.inl ⟨hinsert, hthrough, env, Env.Within.refl 9 env, rfl⟩
    · obtain ⟨e, herror⟩ := run_insertEdge_error env hinsert
      rw [herror]
      exact Or.inr ⟨fun h => hinsert h.1, e, env, Env.Within.refl 9 env, rfl⟩

end GraphOp

section Indices
variable {index : Dict String (List String)} {key value : String}

theorem mem_appendTo (c v : String) :
    v ∈ (appendTo index key value).getD c [] ↔ v ∈ index.getD c [] ∨ v = value ∧ c = key := by
  rw [appendTo, Dict.getD_set]
  split
  next h => simp [h]
  next h => simp [h]

theorem nodup_appendTo (h : ∀ c, (index.getD c []).Nodup) (hnew : value ∉ index.getD key [])
    (c : String) : ((appendTo index key value).getD c []).Nodup := by
  rw [appendTo, Dict.getD_set]
  split
  · exact List.nodup_append.mpr ⟨h key, List.nodup_singleton value, by
      intro a ha b hb hab
      exact hnew (List.mem_singleton.mp hb ▸ hab ▸ ha)⟩
  · exact h c

end Indices

namespace ControlGraphStore
variable {g : ControlGraphStore} {obj old : ControlObject}

/-- What every run keeps of the object indices: the plane index is exact, and the type index lists
stored objects, each once. -/
structure Indexed (g : ControlGraphStore) : Prop where
  keyed : ∀ id obj, g.nodes.get? id = some obj → obj.objectId = id
  plane : Exact g.nodes ControlObject.operationalPlane fun p => g.planeIndex.getD p []
  type_nodup : ∀ t, (g.typeIndex.getD t []).Nodup
  type_stored : ∀ t, ∀ id ∈ g.typeIndex.getD t [], id ∈ g.nodes

theorem Indexed.new : new.Indexed where
  keyed id obj h := by simp [ControlGraphStore.new] at h
  plane := Exact.empty
  type_nodup t := by simp [ControlGraphStore.new]
  type_stored t id h := by simp [ControlGraphStore.new] at h

private theorem keyed_set {d : Dict String ControlObject}
    (h : ∀ id obj, d.get? id = some obj → obj.objectId = id) (obj : ControlObject) :
    ∀ id o, (d.set obj.objectId obj).get? id = some o → o.objectId = id := by
  intro id o hget
  rw [Dict.get?_set] at hget
  split at hget
  next hid => rw [hid, ← Option.some.inj hget]
  next => exact h id o hget

theorem Indexed.withObject (h : g.Indexed) (hnew : obj.objectId ∉ g.nodes) :
    (g.withObject obj).Indexed where
  keyed := keyed_set h.keyed obj
  plane := by
    have hfree := h.plane.not_mem_new hnew
    refine (h.plane.set_iff (nodup_appendTo h.plane.nodup (hfree _)) fun c id hne => ?_).mpr
      fun c => ?_
    · simp only [mem_appendTo, hne, false_and, or_false]
    · simp only [mem_appendTo, hfree c, false_or, true_and]
  type_nodup := nodup_appendTo h.type_nodup fun hmem => hnew (h.type_stored _ _ hmem)
  type_stored t id hid := by
    simp only [ControlGraphStore.withObject, mem_appendTo] at hid
    rcases hid with hid | ⟨hid, -⟩
    · exact Dict.mem_set.mpr (Or.inr (h.type_stored t id hid))
    · exact Dict.mem_set.mpr (Or.inl hid)

private theorem mem_getD_set_erase {index : Dict String (List String)} (plane value : String)
    (h : ∀ c, (index.getD c []).Nodup) (c v : String) :
    v ∈ (index.set plane ((index.getD plane []).erase value)).getD c [] ↔
      v ∈ index.getD c [] ∧ ¬ (v = value ∧ c = plane) := by
  rw [Dict.getD_set]
  split
  next hc => rw [hc, (h plane).mem_erase_iff]; tauto
  next hc => simp [hc]

private theorem nodup_getD_set_erase {index : Dict String (List String)} {plane value : String}
    (h : ∀ c, (index.getD c []).Nodup) (c : String) :
    ((index.set plane ((index.getD plane []).erase value)).getD c []).Nodup := by
  rw [Dict.getD_set]
  split
  · exact (h plane).erase value
  · exact h c

theorem Indexed.replaceObject (h : g.Indexed) (hold : g.nodes.get? obj.objectId = some old) :
    (g.replaceObject old obj).Indexed where
  keyed := keyed_set h.keyed obj
  plane := by
    have hlisted := h.plane.mem_stored hold
    simp only [ControlGraphStore.replaceObject]
    split
    next hplane =>
      rw [h.plane.set_iff h.plane.nodup fun _ _ _ => Iff.rfl, ← hplane]
      exact hlisted
    next hplane =>
      have herase := mem_getD_set_erase old.operationalPlane obj.objectId h.plane.nodup
      refine (h.plane.set_iff (nodup_appendTo (nodup_getD_set_erase h.plane.nodup) ?_)
        fun c id hne => ?_).mpr fun c => ?_
      · rw [herase, hlisted]
        exact fun hmem => hplane hmem.1.symm
      · simp only [mem_appendTo, herase, hne, false_and, or_false, not_false_eq_true, and_true]
      · rw [mem_appendTo, herase, hlisted]
        simp
  type_nodup := h.type_nodup
  type_stored t id hid := Dict.mem_set.mpr (Or.inr (h.type_stored t id hid))

theorem Indexed.withEdge (h : g.Indexed) (edge : ControlEdge) : (g.withEdge edge).Indexed :=
  ⟨h.keyed, h.plane, h.type_nodup, h.type_stored⟩

end ControlGraphStore

/-- A call makes its change and returns, or raises with the graph unchanged; it takes at most nine
draws. -/
theorem GraphOp.call_cases (rt : Runtime) (op : GraphOp) {g : ControlGraphStore}
    (hindexed : g.Indexed) (env : Env) :
    (∃ g' env', op.Writes g g' ∧ env.Within 9 env' ∧
        (op.call rt).run ⟨g, env⟩ = .ok () ⟨g', env'⟩) ∨
      (∀ g', ¬ op.Writes g g') ∧ ∃ e env', env.Within 9 env' ∧
        (op.call rt).run ⟨g, env⟩ = .error e ⟨g, env'⟩ := by
  have hrefl := Env.Within.refl 9 env
  cases op with
  | addObject obj =>
    by_cases h : obj.objectId ∈ g.nodes
    · exact Or.inr ⟨fun _ hw => hw.1 h, _, env, hrefl, ControlGraphStore.run_addObject_error h⟩
    · exact Or.inl ⟨_, env, ⟨h, rfl⟩, hrefl, ControlGraphStore.run_addObject env h⟩
  | updateObject obj =>
    by_cases h : obj.objectId ∈ g.nodes
    · obtain ⟨old, hold⟩ := Dict.mem_iff_get?.mp h
      exact Or.inl ⟨_, env, ⟨old, hold, rfl⟩, hrefl,
        ControlGraphStore.run_updateObject hold ((hindexed.plane.mem_stored hold _).mpr rfl)⟩
    · refine Or.inr ⟨?_, _, env, hrefl, ControlGraphStore.run_updateObject_error h⟩
      rintro g' ⟨old, hold, -⟩
      exact h (Dict.mem_of_get? hold)
  | addEdge edge releaseGate =>
    cases releaseGate with
    | none =>
      have hrun : (call rt (addEdge edge none)).run ⟨g, env⟩ =
          (ControlGraphStore.insertEdge edge).run ⟨g, env⟩ := by
        rw [call, Governed.run_callWith_congr (ControlGraphStore.run_addEdge_none rfl),
          Governed.run_callWith_onStore]
      rw [hrun]
      by_cases hinsert : g.Insertable edge
      · exact Or.inl ⟨_, env, ⟨hinsert, fun _ => by simp [Governed.Admits], rfl⟩, hrefl,
          ControlGraphStore.run_insertEdge hinsert⟩
      · obtain ⟨e, herror⟩ := ControlGraphStore.run_insertEdge_error env hinsert
        exact Or.inr ⟨fun _ hw => hinsert hw.1, e, env, hrefl, herror⟩
    | some gate =>
      have hrun : (call rt (addEdge edge (some gate))).run ⟨g, env⟩ =
          (call rt (addGovernedEdge edge edge.assertedBy (some gate))).run ⟨g, env⟩ := by
        rw [call, call, Governed.run_callWith_congr (ControlGraphStore.run_addEdge_gate rfl),
          Governed.run_callWith_map, map_eq_pure_bind]
      rw [hrun]
      rcases run_callWith_addGovernedEdge rt edge edge.assertedBy (some gate) g env with
        ⟨hinsert, hthrough, env', hwithin, hgoverned⟩ | ⟨hno, e, env', hwithin, hgoverned⟩
      · exact Or.inl ⟨_, env', ⟨hinsert, hthrough, rfl⟩, hwithin, by simp [call, hgoverned]⟩
      · exact Or.inr ⟨fun _ hw => hno ⟨hw.1, hw.2.1⟩, e, env', hwithin,
          by simp [call, hgoverned]⟩
  | addGovernedEdge edge assertedBy releaseGate =>
    rcases run_callWith_addGovernedEdge rt edge assertedBy releaseGate g env with
      ⟨hinsert, hthrough, env', hwithin, hrun⟩ | ⟨hno, e, env', hwithin, hrun⟩
    · exact Or.inl ⟨_, env', ⟨hinsert, hthrough, rfl⟩, hwithin, by simp [call, hrun]⟩
    · exact Or.inr ⟨fun _ hw => hno ⟨hw.1, hw.2.1⟩, e, env', hwithin, by simp [call, hrun]⟩
  | deactivateEdge edgeId =>
    cases hget : g.edges.get? edgeId with
    | none =>
      refine Or.inr ⟨?_, _, env, hrefl, by
        simp [call, ControlGraphStore.deactivateEdge, hget]; rfl⟩
      rintro g' ⟨edge, hedge, -⟩
      simp [hget] at hedge
    | some edge =>
      exact Or.inl ⟨_, env, ⟨edge, hget, rfl⟩, hrefl, by
        simp [call, ControlGraphStore.deactivateEdge, hget]⟩

/-- One call, after which the caller goes on whether it returned or raised. -/
def graphStep (rt : Runtime) (op : GraphOp) (w : World ControlGraphStore) :
    World ControlGraphStore := (op.call rt).after w

def graphRun (rt : Runtime) (w : World ControlGraphStore) (ops : List GraphOp) :
    World ControlGraphStore := run (graphStep rt) w ops

theorem graphStep_cases (rt : Runtime) (op : GraphOp) {w : World ControlGraphStore}
    (hindexed : w.self.Indexed) :
    op.Writes w.self (graphStep rt op w).self ∨
      (∀ g', ¬ op.Writes w.self g') ∧ (graphStep rt op w).self = w.self := by
  rcases op.call_cases rt hindexed w.env with ⟨g', env', hwrites, -, hrun⟩ | ⟨hno, e, env', -, hrun⟩
  · have hself : (graphStep rt op w).self = g' := by rw [graphStep, after_ok hrun]
    rw [hself]
    exact Or.inl hwrites
  · exact Or.inr ⟨hno, by rw [graphStep, after_error hrun]⟩

theorem graphStep_within (rt : Runtime) (op : GraphOp) {w : World ControlGraphStore}
    (hindexed : w.self.Indexed) : w.env.Within 9 (graphStep rt op w).env := by
  rcases op.call_cases rt hindexed w.env with ⟨g', env', -, hwithin, hrun⟩ | ⟨-, e, env', hwithin, hrun⟩
  · rw [graphStep, after_ok hrun]
    exact hwithin
  · rw [graphStep, after_error hrun]
    exact hwithin

theorem GraphOp.Writes.indexed {op : GraphOp} {g g' : ControlGraphStore} (h : op.Writes g g')
    (hindexed : g.Indexed) : g'.Indexed := by
  cases op with
  | addObject obj =>
    obtain ⟨hnew, he⟩ := h
    rw [he]
    exact hindexed.withObject hnew
  | updateObject obj =>
    obtain ⟨old, hold, he⟩ := h
    rw [he]
    exact hindexed.replaceObject hold
  | addEdge edge releaseGate =>
    obtain ⟨-, -, he⟩ := h
    rw [he]
    exact hindexed.withEdge edge
  | addGovernedEdge edge assertedBy releaseGate =>
    obtain ⟨-, -, he⟩ := h
    rw [he]
    exact hindexed.withEdge edge
  | deactivateEdge edgeId =>
    obtain ⟨edge, -, he⟩ := h
    rw [he]
    exact ⟨hindexed.keyed, hindexed.plane, hindexed.type_nodup, hindexed.type_stored⟩

theorem graphStep_indexed (rt : Runtime) (op : GraphOp) {w : World ControlGraphStore}
    (h : w.self.Indexed) : (graphStep rt op w).self.Indexed := by
  rcases graphStep_cases rt op h with hwrites | ⟨-, hself⟩
  · exact hwrites.indexed h
  · rw [hself]
    exact h

end ControlFabric
