import ControlFabric.Graph.Store
import ControlFabric.Registry.History

/-! When the plane and type queries of the two stores are exact along a run. -/
namespace ControlFabric
open Lib Method

section AddToIndex
variable {index : Dict String (List String)} {key value : String}

theorem mem_addToIndex (c v : String) :
    v ∈ (addToIndex index key value).getD c [] ↔ v ∈ index.getD c [] ∨ v = value ∧ c = key := by
  rw [addToIndex, Dict.getD_set]
  by_cases hc : c = key
  · by_cases hv : value ∈ index.getD key []
    · simp only [hc, if_true, hv]
      exact ⟨Or.inl, fun h => h.elim id fun hvalue => hvalue.1 ▸ hv⟩
    · simp [hc, hv]
  · simp [hc]

theorem nodup_addToIndex {c : String} (h : (index.getD c []).Nodup) :
    ((addToIndex index key value).getD c []).Nodup := by
  rw [addToIndex, Dict.getD_set]
  split
  next hc =>
    rw [hc] at h
    split
    · exact h
    next hnew => exact List.nodup_append.mpr ⟨h, List.nodup_singleton value, by
        intro a ha b hb hab
        exact hnew (List.mem_singleton.mp hb ▸ hab ▸ ha)⟩
  next => exact h

end AddToIndex

namespace ObjectRegistry
variable {rt : Runtime} {r : ObjectRegistry} {obj old : ControlObject} {n : ℕ}
  {changedBy reason : String}

/-- What every run keeps of the indices: the plane index is exact, and the type index lists stored
objects, each once. -/
structure Indexed (r : ObjectRegistry) : Prop where
  keyed : r.Keyed
  plane : Exact r.objects ControlObject.operationalPlane fun p => r.planeIndex.getD p []
  type_nodup : ∀ t : ControlObjectType, (r.typeIndex.getD t.value []).Nodup
  type_stored : ∀ t : ControlObjectType, ∀ id ∈ r.typeIndex.getD t.value [], id ∈ r.objects

/-- `get_by_plane` and `get_by_type` return exactly the current objects asked for, each once. -/
structure QueriesExact (r : ObjectRegistry) : Prop where
  plane : ∀ p, (r.getByPlane p).Nodup ∧
    ∀ obj, obj ∈ r.getByPlane p ↔ (∃ id, r.get id = some obj) ∧ obj.operationalPlane = p
  type : ∀ t, (r.getByType t).Nodup ∧
    ∀ obj, obj ∈ r.getByType t ↔ (∃ id, r.get id = some obj) ∧ obj.objectType = t

theorem Indexed.new (schemas : SchemaRegistry) : (ObjectRegistry.new schemas).Indexed where
  keyed := (Linear.new schemas).keyed
  plane := Exact.empty
  type_nodup t := by simp [ObjectRegistry.new]
  type_stored t id h := by simp [ObjectRegistry.new] at h

/-- The plane queries need no condition; the type queries are as exact as the type index. -/
theorem Indexed.queriesExact_iff (h : r.Indexed) : r.QueriesExact ↔
    Exact r.objects ControlObject.objectType fun t => r.typeIndex.getD t.value [] := by
  rw [← lookupExact_iff h.keyed h.type_nodup h.type_stored]
  constructor
  · exact fun hq => hq.type
  · exact fun htype => ⟨(lookupExact_iff h.keyed h.plane.nodup
      h.plane.stored).mpr h.plane, htype⟩

private theorem removeFromIndices_mem (plane v : String) :
    v ∈ (r.removeFromIndices old).planeIndex.getD plane [] ↔
      v ∈ r.planeIndex.getD plane [] ∧ ¬ (v = old.objectId ∧ plane = old.operationalPlane) := by
  unfold removeFromIndices
  split
  next =>
    simp only [Dict.getD_set]
    split
    next hp => simp [hp]
    next hp => simp [hp]
  next habsent =>
    constructor
    · refine fun hv => ⟨hv, fun hsame => ?_⟩
      rw [hsame.2, Dict.getD, Dict.get?_eq_none.mpr habsent] at hv
      exact absurd hv List.not_mem_nil
    · exact And.left

private theorem removeFromIndices_nodup (h : ∀ p, (r.planeIndex.getD p []).Nodup) (p : String) :
    ((r.removeFromIndices old).planeIndex.getD p []).Nodup := by
  unfold removeFromIndices
  split
  · simp only [Dict.getD_set]
    split
    · exact (h _).filter _
    · exact h p
  · exact h p

@[simp] theorem write_typeIndex : (r.write rt n obj changedBy reason).typeIndex =
    addToIndex r.typeIndex obj.objectType.value obj.objectId := by
  simp only [ObjectRegistry.write, updateIndices, putObject]
  split <;> simp

theorem Indexed.write (rt : Runtime) (h : r.Indexed) (n : ℕ) (obj : ControlObject)
    (changedBy reason : String) :
    (r.write rt n obj changedBy reason).Indexed := by
  refine ⟨h.keyed.write rt n obj changedBy reason, ?_, fun t => ?_, fun t id hid => ?_⟩
  · rw [write_objects]
    cases hget : r.objects.get? obj.objectId with
    | none =>
      have hfree := h.plane.not_mem_new (Dict.get?_eq_none.mp hget)
      simp only [ObjectRegistry.write, hget, updateIndices, putObject]
      refine (h.plane.set_iff (fun c => nodup_addToIndex (h.plane.nodup c))
        fun c id hne => ?_).mpr fun c => ?_
      · simp only [mem_addToIndex, hne, false_and, or_false]
      · simp only [mem_addToIndex, hfree c, false_or, true_and]
    | some old =>
      have hlisted := h.plane.mem_stored hget
      have hid : old.objectId = obj.objectId := h.keyed _ old hget
      simp only [ObjectRegistry.write, hget, updateIndices, putObject]
      refine (h.plane.set_iff (fun c => nodup_addToIndex (removeFromIndices_nodup h.plane.nodup c))
        fun c id hne => ?_).mpr fun c => ?_
      · simp only [mem_addToIndex, removeFromIndices_mem, hid, hne, false_and, or_false,
          not_false_eq_true, and_true]
      · rw [mem_addToIndex, removeFromIndices_mem, hlisted, hid]
        simp
  · rw [write_typeIndex]
    exact nodup_addToIndex (h.type_nodup t)
  · rw [write_typeIndex, mem_addToIndex] at hid
    rw [write_objects, Dict.mem_set]
    rcases hid with hid | ⟨hid, -⟩
    · exact Or.inr (h.type_stored t id hid)
    · exact Or.inl hid

/-- Replacing an object keeps the queries exact exactly when its type stays. -/
theorem Indexed.queriesExact_write_iff (h : r.Indexed) (hq : r.QueriesExact) :
    (r.write rt n obj changedBy reason).QueriesExact ↔
      ∀ old, r.objects.get? obj.objectId = some old → obj.objectType = old.objectType := by
  have htype := h.queriesExact_iff.mp hq
  rw [(h.write rt n obj changedBy reason).queriesExact_iff, write_objects, write_typeIndex]
  have hself (t : ControlObjectType) :
      obj.objectId ∈ (addToIndex r.typeIndex obj.objectType.value obj.objectId).getD t.value [] ↔
        obj.objectId ∈ r.typeIndex.getD t.value [] ∨ t = obj.objectType := by
    rw [mem_addToIndex, ControlObjectType.value_injective.eq_iff]
    simp
  rw [htype.set_iff (fun t => nodup_addToIndex (h.type_nodup t)) fun t id hne => by
    rw [mem_addToIndex]
    simp [hne]]
  constructor
  · intro hall old hold
    have hlisted := (htype.mem_stored hold old.objectType).mpr rfl
    exact ((hall old.objectType).mp ((hself _).mpr (Or.inl hlisted))).symm
  · intro hsame t
    rw [hself t]
    refine or_iff_right_of_imp fun hlisted => ?_
    obtain ⟨old, hold⟩ := Dict.mem_iff_get?.mp (h.type_stored t _ hlisted)
    rw [hsame old hold]
    exact (htype.mem_stored hold t).mp hlisted

end ObjectRegistry

namespace ControlGraphStore
variable {g : ControlGraphStore} {obj old : ControlObject}

/-- `get_objects_by_plane` and `get_objects_by_type` return exactly the current objects asked for,
each once. -/
structure QueriesExact (g : ControlGraphStore) : Prop where
  plane : ∀ p, (g.getObjectsByPlane p).Nodup ∧ ∀ obj, obj ∈ g.getObjectsByPlane p ↔
    (∃ id, g.nodes.get? id = some obj) ∧ obj.operationalPlane = p
  type : ∀ t, (g.getObjectsByType t).Nodup ∧ ∀ obj, obj ∈ g.getObjectsByType t ↔
    (∃ id, g.nodes.get? id = some obj) ∧ obj.objectType.value = t

theorem Indexed.queriesExact_iff (h : g.Indexed) : g.QueriesExact ↔
    Exact g.nodes (fun obj => obj.objectType.value) fun t => g.typeIndex.getD t [] := by
  rw [← lookupExact_iff h.keyed h.type_nodup h.type_stored]
  constructor
  · exact fun hq => hq.type
  · exact fun htype =>
      ⟨(lookupExact_iff h.keyed h.plane.nodup h.plane.stored).mpr h.plane, htype⟩

theorem Indexed.queriesExact_withObject (h : g.Indexed) (hq : g.QueriesExact)
    (hnew : obj.objectId ∉ g.nodes) : (g.withObject obj).QueriesExact := by
  have htype := h.queriesExact_iff.mp hq
  have hfree := htype.not_mem_new hnew
  rw [(h.withObject hnew).queriesExact_iff]
  refine (htype.set_iff (nodup_appendTo h.type_nodup (hfree _)) fun c id hne => ?_).mpr fun c => ?_
  · simp only [mem_appendTo, hne, false_and, or_false]
  · simp only [mem_appendTo, hfree c, false_or, true_and]

theorem Indexed.queriesExact_replaceObject_iff (h : g.Indexed) (hq : g.QueriesExact)
    (hold : g.nodes.get? obj.objectId = some old) :
    (g.replaceObject old obj).QueriesExact ↔ obj.objectType = old.objectType := by
  have htype := h.queriesExact_iff.mp hq
  have hlisted := htype.mem_stored hold
  rw [(h.replaceObject hold).queriesExact_iff]
  refine (htype.set_iff h.type_nodup fun _ _ _ => Iff.rfl).trans ?_
  constructor
  · intro hall
    exact ControlObjectType.value_injective ((hall _).mp ((hlisted _).mpr rfl)).symm
  · intro hsame c
    rw [hsame]
    exact hlisted c

end ControlGraphStore

/-- An accepted update keeps the stored type. -/
def RegistryOp.KeepsType (r : ObjectRegistry) : RegistryOp → Prop
  | register _ _ _ => True
  | update obj _ _ => ∀ old, r.objects.get? obj.objectId = some old → obj.version = old.version + 1 →
    obj.objectType = old.objectType
  | transitionState .. => True

/-- An accepted update keeps the stored type. -/
def GraphOp.KeepsType (g : ControlGraphStore) : GraphOp → Prop
  | updateObject obj => ∀ old, g.nodes.get? obj.objectId = some old →
    obj.objectType = old.objectType
  | _ => True

theorem registryStep_queriesExact {rt : Runtime} {op : RegistryOp} {w : World ObjectRegistry}
    (hindexed : w.self.Indexed) (h : w.self.QueriesExact) :
    (registryStep rt op w).self.Indexed ∧
      ((registryStep rt op w).self.QueriesExact ↔ op.KeepsType w.self) := by
  rcases registryStep_cases rt op hindexed.keyed with
    ⟨obj, n, changedBy, detail, events, hwrites, hself⟩ | ⟨hno, hself⟩
  · have hwritten := hindexed.write rt n obj changedBy detail
    have hevents : ({ w.self.write rt n obj changedBy detail with
        events := w.self.events ++ events } : ObjectRegistry).QueriesExact ↔
          (w.self.write rt n obj changedBy detail).QueriesExact :=
      ⟨fun hq => ⟨hq.plane, hq.type⟩, fun hq => ⟨hq.plane, hq.type⟩⟩
    rw [hself, hevents, hindexed.queriesExact_write_iff h]
    refine ⟨⟨hwritten.keyed, hwritten.plane, hwritten.type_nodup, hwritten.type_stored⟩, ?_⟩
    cases op with
    | register o registeredBy reason =>
      obtain ⟨hnew, he⟩ := hwrites
      rw [he]
      exact iff_of_true (fun old hold => absurd (Dict.mem_of_get? hold) hnew) trivial
    | update o updatedBy reason =>
      obtain ⟨⟨stored, hstored, hversion⟩, he⟩ := hwrites
      simp [he, RegistryOp.KeepsType, hstored, hversion]
    | transitionState id newState transitionedBy reason releaseGate =>
      obtain ⟨current, updatedAt, hcurrent, -, -, he⟩ := hwrites
      refine iff_of_true (fun old hold => ?_) trivial
      have hid : obj.objectId = id := by rw [he]; exact hindexed.keyed id current hcurrent
      rw [hid, hcurrent, Option.some.injEq] at hold
      rw [he, ← hold]
      rfl
  · rw [hself]
    refine ⟨hindexed, iff_of_true h ?_⟩
    cases op with
    | register _ _ _ => trivial
    | update o _ _ =>
      exact fun old hold hversion => absurd ⟨⟨old, hold, hversion⟩, rfl⟩ (hno o)
    | transitionState _ _ _ _ _ => trivial

theorem graphStep_queriesExact_iff {rt : Runtime} {op : GraphOp} {w : World ControlGraphStore}
    (hindexed : w.self.Indexed) (h : w.self.QueriesExact) :
    (graphStep rt op w).self.QueriesExact ↔ op.KeepsType w.self := by
  rcases graphStep_cases rt op hindexed with hwrites | ⟨hno, hself⟩
  · cases op with
    | addObject obj =>
      obtain ⟨hnew, he⟩ := hwrites
      rw [he]
      exact iff_of_true (hindexed.queriesExact_withObject h hnew) trivial
    | updateObject obj =>
      obtain ⟨old, hold, he⟩ := hwrites
      rw [he, hindexed.queriesExact_replaceObject_iff h hold]
      simp [GraphOp.KeepsType, hold]
    | addEdge edge releaseGate =>
      obtain ⟨-, -, he⟩ := hwrites
      rw [he]
      exact iff_of_true ⟨h.plane, h.type⟩ trivial
    | addGovernedEdge edge assertedBy releaseGate =>
      obtain ⟨-, -, he⟩ := hwrites
      rw [he]
      exact iff_of_true ⟨h.plane, h.type⟩ trivial
    | deactivateEdge edgeId =>
      obtain ⟨edge, -, he⟩ := hwrites
      rw [he]
      exact iff_of_true ⟨h.plane, h.type⟩ trivial
  · rw [hself]
    refine iff_of_true h ?_
    cases op with
    | updateObject obj => exact fun old hold => absurd ⟨old, hold, rfl⟩ (hno _)
    | _ => trivial

/-- In both stores a run keeps the queries exact exactly when its updates keep the object types. -/
theorem run_queriesExact_iff (rt : Runtime) (schemas : SchemaRegistry) (env : Env)
    (ops : List RegistryOp) (graphOps : List GraphOp) :
    (Always (registryStep rt) (fun w => w.self.QueriesExact) ⟨.new schemas, env⟩ ops ↔
        Conforms (registryStep rt) (fun op w => op.KeepsType w.self) ⟨.new schemas, env⟩ ops) ∧
      (Always (graphStep rt) (fun w => w.self.QueriesExact) ⟨.new, env⟩ graphOps ↔
        Conforms (graphStep rt) (fun op w => op.KeepsType w.self) ⟨.new, env⟩ graphOps) := by
  constructor
  · exact always_iff_conforms (registryStep rt) (I := fun w => w.self.Indexed)
      (fun _ _ _ hindexed h => (registryStep_queriesExact hindexed h).1)
      (fun _ _ _ hindexed h => (registryStep_queriesExact hindexed h).2)
      (ObjectRegistry.Indexed.new schemas)
      ((ObjectRegistry.Indexed.new schemas).queriesExact_iff.mpr Exact.empty)
  · exact always_iff_conforms (graphStep rt) (I := fun w => w.self.Indexed)
      (fun op _ _ hindexed _ => graphStep_indexed rt op hindexed)
      (fun _ _ _ hindexed h => graphStep_queriesExact_iff hindexed h)
      ControlGraphStore.Indexed.new
      (ControlGraphStore.Indexed.new.queriesExact_iff.mpr Exact.empty)

/-- A policy replaced by a vulnerability is still found among the policies. -/
theorem registryRun_update_stale_type :
    ¬ ∀ (rt : Runtime) (schemas : SchemaRegistry) (env : Env) (ops : List RegistryOp)
      (graphOps : List GraphOp),
      Always (registryStep rt) (fun w => w.self.QueriesExact) ⟨.new schemas, env⟩ ops ∧
        Always (graphStep rt) (fun w => w.self.QueriesExact) ⟨.new, env⟩ graphOps := by
  intro h
  let policy := draftPolicy .reference
  let vulnerability : ControlObject :=
    ({ policy with version := 2, objectType := .vulnerability } : ControlObject).computeObjectHash
      .reference
  let start : World ObjectRegistry := ⟨.new Dict.empty, .initial "default"⟩
  let registered := registryStep .reference (.register policy "ada" "initial") start
  obtain ⟨hempty, hexact, hfinal⟩ := (h .reference Dict.empty (.initial "default")
    [.register policy "ada" "initial", .update vulnerability "ada" "reclassified"] []).1
  have hindexed : registered.self.Indexed :=
    (registryStep_queriesExact (ObjectRegistry.Indexed.new Dict.empty) hempty).1
  have hkeeps := (registryStep_queriesExact hindexed hexact).2.mp hfinal
  have hold : registered.self.objects.get? vulnerability.objectId = some policy :=
    registryStep_register_get? (Dict.not_mem_empty _)
  exact absurd (hkeeps policy hold rfl) (by decide)

end ControlFabric
