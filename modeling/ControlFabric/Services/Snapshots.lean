import ControlFabric.Services.GraphSlices
import ControlFabric.Lib.Run

/-! Snapshots over whole runs: a snapshot is the part of the graph in its scope at the time it is
taken, nothing done later changes it or what is said of it, and what is said of it adds up. -/
namespace ControlFabric.Services
open Lib
open Fabric.Reconciliation (ValueOps)

/-- A call of one of the two services, on the fabric they share. -/
inductive GraphCall where
  | registerObject (tenantId : String) (create : FabricObjectCreate)
  | updateObjectStatus (objectId : String) (status : ControlObjectStatus)
  | linkObjects (tenantId : String) (create : FabricLinkCreate)
  | createSnapshot (create : GraphSnapshotCreate)
  | sliceGraph (tenantId : String) (request : GraphSliceRequest)

open ControlGraphService in
def graphStep (rt : Runtime) (call : GraphCall) (w : World ControlGraphService) :
    World ControlGraphService :=
  match call with
  | .registerObject tenantId create =>
    ⟨{ w.self with fabric := w.self.fabric.registerObject rt tenantId create w.env.draws },
      w.env.tick 2⟩
  | .updateObjectStatus objectId status =>
    ⟨{ w.self with fabric := w.self.fabric.updateObjectStatus rt objectId status w.env.draws },
      w.env.tick (if objectId ∈ w.self.fabric.objects then 1 else 0)⟩
  | .linkObjects tenantId create =>
    ⟨{ w.self with fabric := w.self.fabric.linkObjects rt tenantId create w.env.draws },
      w.env.tick 2⟩
  | .createSnapshot create => ⟨w.self.createSnapshot rt create w.env.draws, w.env.tick 2⟩
  | .sliceGraph tenantId request =>
    match w.self.sliceGraph rt (sliceRounds w.self.fabric request) tenantId request w.env.draws with
    | some (_, s) => ⟨s, w.env.tick 2⟩
    | none => w

/-! ### What a call does -/

/-- What a call may do to the objects and the snapshots. -/
inductive GraphEffect (rt : Runtime) (w w' : World ControlGraphService) : Prop where
  | registered (obj : FabricObject) (hid : obj.id = rt.uuid4 w.env.draws)
      (hdraws : w'.env.draws = w.env.draws + 2)
      (hobjects : w'.self.fabric.objects = w.self.fabric.objects.set obj.id obj)
      (hsnapshots : w'.self.snapshots = w.self.snapshots)
      (hnodes : w'.self.snapshotNodes = w.self.snapshotNodes)
      (hedges : w'.self.snapshotEdges = w.self.snapshotEdges) : GraphEffect rt w w'
  | updated (id : String) (old new : FabricObject) (hold : w.self.fabric.objects.get? id = some old)
      (hid : new.id = old.id) (hplane : new.plane = old.plane)
      (hdraws : w'.env.draws = w.env.draws + 1)
      (hobjects : w'.self.fabric.objects = w.self.fabric.objects.set id new)
      (hsnapshots : w'.self.snapshots = w.self.snapshots)
      (hnodes : w'.self.snapshotNodes = w.self.snapshotNodes)
      (hedges : w'.self.snapshotEdges = w.self.snapshotEdges) : GraphEffect rt w w'
  | aside (hdraws : w.env.draws ≤ w'.env.draws)
      (hobjects : w'.self.fabric.objects = w.self.fabric.objects)
      (hsnapshots : w'.self.snapshots = w.self.snapshots)
      (hnodes : w'.self.snapshotNodes = w.self.snapshotNodes)
      (hedges : w'.self.snapshotEdges = w.self.snapshotEdges) : GraphEffect rt w w'
  | taken (create : GraphSnapshotCreate) (hself : w'.self = w.self.createSnapshot rt create w.env.draws)
      (hdraws : w'.env.draws = w.env.draws + 2) : GraphEffect rt w w'

variable {rt : Runtime}

variable (rt) in
theorem graph_effect (call : GraphCall) (w : World ControlGraphService) :
    GraphEffect rt w (graphStep rt call w) := by
  cases call with
  | registerObject tenantId create =>
    exact .registered (ControlFabricService.newObject rt tenantId create w.env.draws) rfl rfl rfl rfl
      rfl rfl
  | updateObjectStatus objectId status =>
    rw [graphStep, ControlFabricService.updateObjectStatus]
    cases hobj : w.self.fabric.objects.get? objectId with
    | none => exact .aside (Nat.le_add_right _ _) rfl rfl rfl rfl
    | some obj =>
      rw [if_pos (Dict.mem_of_get? hobj)]
      exact .updated objectId obj { obj with
          status := status
          updatedAt := rt.now w.env.draws
          version := obj.version + 1 } hobj rfl rfl rfl rfl rfl rfl rfl
  | linkObjects tenantId create => exact .aside (Nat.le_add_right _ 2) rfl rfl rfl rfl
  | createSnapshot create => exact .taken create rfl rfl
  | sliceGraph tenantId request =>
    obtain ⟨response, s', hslice, -, -⟩ :=
      ControlGraphService.sliceGraph_exact tenantId request rt w.self w.env.draws
    rw [graphStep, hslice]
    obtain ⟨found, -, hsome⟩ := Option.map_eq_some_iff.mp hslice
    obtain ⟨-, rfl⟩ := Prod.mk.inj hsome
    exact .aside (Nat.le_add_right _ 2) rfl rfl rfl rfl

/-- Objects are stored under their own identifiers. -/
def Filed (fabric : ControlFabricService) : Prop :=
  ∀ id obj, fabric.objects.get? id = some obj → obj.id = id

theorem Filed.step {call : GraphCall} {w : World ControlGraphService} (h : Filed w.self.fabric) :
    Filed (graphStep rt call w).self.fabric := by
  intro id obj hget
  cases graph_effect rt call w with
  | registered new _ _ hobjects =>
    rw [hobjects, Dict.get?_set] at hget
    split at hget
    next heq =>
      obtain rfl := Option.some.inj hget
      exact heq.symm
    next => exact h id obj hget
  | updated id' old new hold hid _ _ hobjects =>
    rw [hobjects, Dict.get?_set] at hget
    split at hget
    next heq =>
      obtain rfl := Option.some.inj hget
      rw [heq, hid, h id' old hold]
    next => exact h id obj hget
  | aside _ hobjects =>
    rw [hobjects] at hget
    exact h id obj hget
  | taken create hself =>
    rw [hself] at hget
    exact h id obj hget

theorem filed_run (rt : Runtime) (env : Env) (calls : List GraphCall) :
    Filed (run (graphStep rt) ⟨ControlGraphService.new, env⟩ calls).self.fabric := by
  refine run_invariant (I := fun w => Filed w.self.fabric) (graphStep rt) (fun _ _ _ h => h.step) ?_
  intro id obj hget
  cases hget

/-! ### The part of the graph in a scope -/

namespace ControlGraphService
variable {fabric : ControlFabricService}

/-- Identifiers of objects in a list of all of them are different. -/
theorem nodup_ids (hfiled : Filed fabric) (p : FabricObject → Bool) :
    ((fabric.objects.values.filter p).map FabricObject.id).Nodup := by
  have hkeys : fabric.objects.values.map FabricObject.id = fabric.objects.keys := by
    unfold Dict.values Dict.keys
    rw [List.map_map]
    refine List.map_congr_left fun e he => ?_
    exact hfiled e.1 e.2 (Dict.get?_eq_some.mpr he)
  refine List.Nodup.sublist (List.Sublist.map _ List.filter_sublist) ?_
  rw [hkeys]
  exact fabric.objects.nodup

theorem nodup_scope (hfiled : Filed fabric) (create : GraphSnapshotCreate) :
    ((scopeObjects fabric create).map FabricObject.id).Nodup := by
  rw [scopeObjects, ControlFabricService.queryObjects, List.filter_filter]
  exact nodup_ids hfiled _

/-- The links among objects are the links between two of them, each once. -/
theorem edgesAmong_perm {objIds : List String} (hnodup : objIds.Nodup) :
    (edgesAmong fabric objIds).Perm (fabric.links.values.filter fun link =>
      link.sourceId ∈ objIds ∧ link.targetId ∈ objIds) := by
  have hgroup : edgesAmong fabric objIds = objIds.flatMap fun oid =>
      (fabric.links.values.filter fun link => link.targetId ∈ objIds).filter
        fun link => link.sourceId = oid := by
    unfold edgesAmong ControlFabricService.getLinksForObject
    refine List.flatMap_congr fun oid _ => ?_
    rw [List.filter_filter, List.filter_filter]
    refine List.filter_congr fun link _ => ?_
    simp [Bool.and_comm]
  rw [hgroup]
  refine (flatMap_filter_perm FabricLink.sourceId _ hnodup).trans (List.Perm.of_eq ?_)
  rw [List.filter_filter]
  refine List.filter_congr fun link _ => ?_
  simp

/-- The analysis looks at the planes of the objects only. -/
theorem analyse_congr (ops : ValueOps) {fabric' : ControlFabricService} (snapshotId : String)
    (nodes : List (String × ControlPlane)) {edges : List GraphEdgeData}
    (h : ∀ e ∈ edges, crossesPlanes fabric' e = crossesPlanes fabric e) :
    analyse ops fabric' snapshotId nodes edges = analyse ops fabric snapshotId nodes edges := by
  unfold analyse
  congr 1
  exact List.countP_congr fun e he => by rw [h e he]

end ControlGraphService

/-! ### Nothing done later changes a snapshot -/

/-- Identifiers of objects and of snapshots. -/
def Named (w : World ControlGraphService) (id : String) : Prop :=
  id ∈ w.self.fabric.objects ∨ id ∈ w.self.snapshots

theorem graph_names (rt : Runtime) :
    Names (graphStep rt) (fun w => w.env.draws) rt.uuid4 Named where
  draws_le := by
    intro call w
    cases graph_effect rt call w with
    | registered _ _ hdraws | updated _ _ _ _ _ _ hdraws | taken _ _ hdraws => omega
    | aside hdraws => exact hdraws
  drawn := by
    intro call w id hmem
    cases graph_effect rt call w with
    | registered obj hid hdraws hobjects hsnapshots =>
      rw [Named, hobjects, hsnapshots, Dict.mem_set] at hmem
      rcases hmem with (rfl | hmem) | hmem
      · exact Or.inr ⟨w.env.draws, le_rfl, by omega, hid⟩
      · exact Or.inl (Or.inl hmem)
      · exact Or.inl (Or.inr hmem)
    | updated id' old new hold _ _ _ hobjects hsnapshots =>
      rw [Named, hobjects, hsnapshots, Dict.mem_set] at hmem
      rcases hmem with (rfl | hmem) | hmem
      · exact Or.inl (Or.inl (Dict.mem_of_get? hold))
      · exact Or.inl (Or.inl hmem)
      · exact Or.inl (Or.inr hmem)
    | aside _ hobjects hsnapshots =>
      rw [Named, hobjects, hsnapshots] at hmem
      exact Or.inl hmem
    | taken create hself hdraws =>
      rw [Named, hself] at hmem
      rcases hmem with hmem | hmem
      · exact Or.inl (Or.inl hmem)
      · rcases Dict.mem_set.mp hmem with rfl | hmem
        · exact Or.inr ⟨w.env.draws, le_rfl, by omega, rfl⟩
        · exact Or.inl (Or.inr hmem)

/-- An object stays in its plane. -/
def InPlane (w : World ControlGraphService) (b : String × ControlPlane) : Prop :=
  (w.self.fabric.objects.get? b.1).map FabricObject.plane = some b.2

/-- A snapshot with its nodes and edges. -/
def Taken (w : World ControlGraphService)
    (b : String × GraphSnapshot × List GraphNodeData × List GraphEdgeData) : Prop :=
  w.self.snapshots.get? b.1 = some b.2.1 ∧ w.self.snapshotNodes.get? b.1 = some b.2.2.1 ∧
    w.self.snapshotEdges.get? b.1 = some b.2.2.2

section Later
variable {w : World ControlGraphService} {call : GraphCall} {calls : List GraphCall}
  (hfresh : Fresh (graphStep rt) (fun w => w.env.draws) rt.uuid4 Named w (call :: calls))
include hfresh

theorem InPlane.step {b : String × ControlPlane} (h : InPlane w b) :
    InPlane (graphStep rt call w) b := by
  unfold InPlane at h ⊢
  obtain ⟨old, hold, hplane⟩ := Option.map_eq_some_iff.mp h
  have hnew : ∀ n, w.env.draws ≤ n → n < (graphStep rt call w).env.draws → ¬ Named w (rt.uuid4 n) :=
    fun n hle hlt => (graph_names rt).not_has hfresh hle hlt
  have heffect := graph_effect rt call w
  revert hnew heffect
  generalize graphStep rt call w = w'
  intro hnew heffect
  cases heffect with
  | registered obj hid hdraws hobjects =>
    have hne : b.1 ≠ obj.id := by
      rintro heq
      refine hnew w.env.draws le_rfl (by omega) (Or.inl ?_)
      rw [← hid, ← heq]
      exact Dict.mem_of_get? hold
    rw [hobjects, Dict.get?_set_of_ne hne]
    exact h
  | updated id old' new hold' _ hsame _ hobjects =>
    rw [hobjects, Dict.get?_set]
    split
    next heq =>
      rw [heq] at hold
      obtain rfl := Option.some.inj (hold.symm.trans hold')
      rw [Option.map_some, hsame, hplane]
    next => exact h
  | aside _ hobjects =>
    rw [hobjects]
    exact h
  | taken create hself =>
    rw [hself]
    exact h

theorem Taken.step {b : String × GraphSnapshot × List GraphNodeData × List GraphEdgeData}
    (h : Taken w b) : Taken (graphStep rt call w) b := by
  obtain ⟨hsnapshot, hnode, hedge⟩ := h
  have hnew : ∀ n, w.env.draws ≤ n → n < (graphStep rt call w).env.draws → ¬ Named w (rt.uuid4 n) :=
    fun n hle hlt => (graph_names rt).not_has hfresh hle hlt
  have heffect := graph_effect rt call w
  revert hnew heffect
  generalize graphStep rt call w = w'
  intro hnew heffect
  cases heffect with
  | registered _ _ _ _ hsnapshots hnodes hedges | updated _ _ _ _ _ _ _ _ hsnapshots hnodes hedges
  | aside _ _ hsnapshots hnodes hedges =>
    unfold Taken
    rw [hsnapshots, hnodes, hedges]
    exact ⟨hsnapshot, hnode, hedge⟩
  | taken create hself hdraws =>
    have hne : b.1 ≠ rt.uuid4 w.env.draws := by
      rintro heq
      refine hnew w.env.draws le_rfl (by omega) (Or.inr ?_)
      rw [← heq]
      exact Dict.mem_of_get? hsnapshot
    unfold Taken
    rw [hself]
    exact ⟨(Dict.get?_set_of_ne hne _ _).trans hsnapshot, (Dict.get?_set_of_ne hne _ _).trans hnode,
      (Dict.get?_set_of_ne hne _ _).trans hedge⟩

end Later

variable {w : World ControlGraphService} {calls : List GraphCall}

/-- What stays at each call in which no identifier is drawn again stays for ever. -/
theorem stays_run {P : World ControlGraphService → Prop} (hstay : ∀ w call calls,
      Fresh (graphStep rt) (fun w => w.env.draws) rt.uuid4 Named w (call :: calls) →
        P w → P (graphStep rt call w))
    (hfresh : Fresh (graphStep rt) (fun w => w.env.draws) rt.uuid4 Named w calls) (h : P w) :
    P (run (graphStep rt) w calls) := by
  induction calls generalizing w with
  | nil => exact h
  | cons call calls ih => exact ih ((graph_names rt).fresh_step hfresh) (hstay w call calls hfresh h)

theorem Taken.run {b : String × GraphSnapshot × List GraphNodeData × List GraphEdgeData}
    (h : Taken w b) (hfresh : Fresh (graphStep rt) (fun w => w.env.draws) rt.uuid4 Named w calls) :
    Taken (Lib.run (graphStep rt) w calls) b :=
  stays_run (fun _ _ _ hfresh => Taken.step hfresh) hfresh h

theorem InPlane.run {b : String × ControlPlane} (h : InPlane w b)
    (hfresh : Fresh (graphStep rt) (fun w => w.env.draws) rt.uuid4 Named w calls) :
    InPlane (Lib.run (graphStep rt) w calls) b :=
  stays_run (fun _ _ _ hfresh => InPlane.step hfresh) hfresh h

/-- What is said later of a snapshot is what was to be said of it when it was taken. -/
structure Stands (rt : Runtime) (w w' : World ControlGraphService) (create : GraphSnapshotCreate) :
    Prop where
  kept : ∃ edges : List FabricLink,
    edges.Perm (w.self.fabric.links.values.filter fun link =>
      link.sourceId ∈ (ControlGraphService.scopeObjects w.self.fabric create).map FabricObject.id ∧
      link.targetId ∈ (ControlGraphService.scopeObjects w.self.fabric create).map FabricObject.id) ∧
    Taken w' (rt.uuid4 w.env.draws,
      ControlGraphService.newSnapshot rt create
        (ControlGraphService.scopeObjects w.self.fabric create).length edges.length w.env.draws,
      (ControlGraphService.scopeObjects w.self.fabric create).map fun obj => obj.node 0,
      edges.map FabricLink.edge) ∧
    ∀ ops tenantId, w'.self.getAnalytics ops tenantId (some (rt.uuid4 w.env.draws)) =
      ControlGraphService.analyse ops w.self.fabric (rt.uuid4 w.env.draws)
        ((ControlGraphService.scopeObjects w.self.fabric create).map fun o => (o.id, o.plane))
        (edges.map FabricLink.edge)

/-- A snapshot taken in any state of a run holds the objects in its scope and the links between two
of them, each once. It stays as it is, and analytics of it say at any later time what they said when
it was taken. -/
theorem snapshot_stands (rt : Runtime) (env : Env) (before : List GraphCall)
    (create : GraphSnapshotCreate) (after : List GraphCall) (huuid : Set.InjOn rt.uuid4 (Set.Iio
      (run (graphStep rt) ⟨ControlGraphService.new, env⟩
        (before ++ .createSnapshot create :: after)).env.draws)) :
    Stands rt (run (graphStep rt) ⟨ControlGraphService.new, env⟩ before)
      (run (graphStep rt) ⟨ControlGraphService.new, env⟩ (before ++ .createSnapshot create :: after))
      create := by
  have hstart : Fresh (graphStep rt) (fun w => w.env.draws) rt.uuid4 Named
      ⟨ControlGraphService.new, env⟩ (before ++ .createSnapshot create :: after) :=
    ⟨huuid, fun id hid => (by rcases hid with hid | hid <;> exact absurd hid (Dict.not_mem_empty id))⟩
  have hfresh := resource_run (graphStep rt) (fun _ _ _ h => (graph_names rt).fresh_step h) hstart
  have hlater := (graph_names rt).fresh_step hfresh
  have hfiled := filed_run rt env before
  rw [run_append, run_cons]
  generalize run (graphStep rt) ⟨ControlGraphService.new, env⟩ before = w at hfresh hlater hfiled ⊢
  generalize hw₁ : graphStep rt (.createSnapshot create) w = w₁ at hlater ⊢
  have hself : w₁.self = w.self.createSnapshot rt create w.env.draws := by
    rw [← hw₁]
    rfl
  let scope := ControlGraphService.scopeObjects w.self.fabric create
  let edges := ControlGraphService.edgesAmong w.self.fabric (scope.map FabricObject.id)
  have hperm : edges.Perm _ := ControlGraphService.edgesAmong_perm
    (ControlGraphService.nodup_scope hfiled create)
  have htaken : Taken w₁ (rt.uuid4 w.env.draws,
      ControlGraphService.newSnapshot rt create scope.length edges.length w.env.draws,
      scope.map (fun obj => obj.node 0), edges.map FabricLink.edge) := by
    unfold Taken
    rw [hself]
    refine ⟨?_, Dict.get?_set_self _ _ _, Dict.get?_set_self _ _ _⟩
    rw [ControlGraphService.createSnapshot, Dict.get?_set_self, List.length_map, List.length_map]
  have hkept := htaken.run hlater
  have hplanes : ∀ b, InPlane w b → InPlane (run (graphStep rt) w₁ after) b := by
    intro b hb
    have hb₁ : InPlane w₁ b := by
      unfold InPlane
      rw [hself]
      exact hb
    exact hb₁.run hlater
  refine ⟨edges, hperm, hkept, fun ops tenantId => ?_⟩
  obtain ⟨hsnapshot, hnodes, hedges⟩ := hkept
  generalize run (graphStep rt) w₁ after = w' at hsnapshot hnodes hedges hplanes ⊢
  have hfound : (some (rt.uuid4 w.env.draws)).filter (fun id => id ∈ w'.self.snapshots) =
      some (rt.uuid4 w.env.draws) := by
    simp [Option.filter, Dict.mem_of_get? hsnapshot]
  unfold ControlGraphService.getAnalytics
  rw [hfound]
  simp only [Dict.getD, hnodes, hedges, Option.getD_some, List.map_map]
  refine ControlGraphService.analyse_congr ops _ _ fun e he => ?_
  obtain ⟨link, hlink, rfl⟩ := List.mem_map.mp he
  obtain ⟨hsource, htarget⟩ : link.sourceId ∈ scope.map FabricObject.id ∧
      link.targetId ∈ scope.map FabricObject.id := by
    simpa using (List.mem_filter.mp (hperm.mem_iff.mp hlink)).2
  have hstays : ∀ id ∈ scope.map FabricObject.id, ∃ obj obj', w.self.fabric.objects.get? id = some obj ∧
      w'.self.fabric.objects.get? id = some obj' ∧ obj'.plane = obj.plane := by
    intro id hid
    obtain ⟨obj, hobj, rfl⟩ := List.mem_map.mp hid
    have hvalue : obj ∈ w.self.fabric.objects.values :=
      List.mem_of_mem_filter (List.mem_of_mem_filter hobj)
    obtain ⟨key, hget⟩ := Dict.mem_values.mp hvalue
    rw [← hfiled key obj hget] at hget
    have hplane := hplanes (obj.id, obj.plane) (by rw [InPlane, hget]; rfl)
    obtain ⟨obj', hget', hsame⟩ := Option.map_eq_some_iff.mp hplane
    exact ⟨obj, obj', hget, hget', hsame⟩
  obtain ⟨s, s', hs, hs', hsplane⟩ := hstays _ hsource
  obtain ⟨t, t', ht, ht', htplane⟩ := hstays _ htarget
  simp only [ControlGraphService.crossesPlanes, FabricLink.edge, hs, hs', ht, ht', hsplane, htplane]

/-- A snapshot of a clause and its order, whose order is retired and linked again afterwards. -/
def retiredLater : List GraphCall :=
  let rt := Runtime.reference
  [.updateObjectStatus (rt.uuid4 2) .retired,
    .linkObjects "acme" ⟨rt.uuid4 2, rt.uuid4 0, .invalidates, ⟨1, Share.one_mem⟩, [], []⟩,
    .createSnapshot ⟨"acme", none, [], [], []⟩]

/-- The calls that register the two and link them. -/
def registered : List GraphCall :=
  let rt := Runtime.reference
  [.registerObject "acme" ⟨"clause", .commercial, "telco", "SLA", none, [], none, none, none,
      ⟨1, Share.one_mem⟩, [], []⟩,
    .registerObject "acme" ⟨"order", .field, "telco", "WO-1", none, [], none, none, none,
      ⟨1, Share.one_mem⟩, [], []⟩,
    .linkObjects "acme" ⟨rt.uuid4 0, rt.uuid4 2, .authorizes, ⟨1, Share.one_mem⟩, [], []⟩]

theorem snapshot_stands_retiredLater :
    Stands .reference (run (graphStep .reference) ⟨ControlGraphService.new, .initial "acme"⟩ registered)
      (run (graphStep .reference) ⟨ControlGraphService.new, .initial "acme"⟩
        (registered ++ .createSnapshot ⟨"acme", none, [], [], []⟩ :: retiredLater))
      ⟨"acme", none, [], [], []⟩ := by
  apply snapshot_stands
  apply Runtime.reference_uuid4.mono
  apply Set.Iio_subset_Iio
  decide +kernel

/-! ### Analytics add up -/

/-- Every edge has both its ends among the nodes. -/
def EndsAmong (ids : List String) (edges : List GraphEdgeData) : Prop :=
  ∀ e ∈ edges, e.sourceId ∈ ids ∧ e.targetId ∈ ids

/-- The edges of each stored snapshot are among its nodes. -/
def SnapshotsClosed (s : ControlGraphService) : Prop :=
  ∀ id, EndsAmong ((s.snapshotNodes.getD id []).map GraphNodeData.objectId) (s.snapshotEdges.getD id [])

theorem endsAmong_edgesAmong (fabric : ControlFabricService) (ids : List String) :
    EndsAmong ids ((ControlGraphService.edgesAmong fabric ids).map FabricLink.edge) := by
  intro e he
  obtain ⟨link, hlink, rfl⟩ := List.mem_map.mp he
  obtain ⟨id, hid, hmem⟩ := List.mem_flatMap.mp hlink
  obtain ⟨hout, htarget⟩ := List.mem_filter.mp hmem
  have hsource : link.sourceId = id := by
    simpa [ControlFabricService.getLinksForObject] using (List.mem_filter.mp hout).2
  exact ⟨by rwa [FabricLink.edge, hsource], by simpa [FabricLink.edge] using htarget⟩

theorem SnapshotsClosed.step {call : GraphCall} {w : World ControlGraphService}
    (h : SnapshotsClosed w.self) : SnapshotsClosed (graphStep rt call w).self := by
  cases graph_effect rt call w with
  | registered _ _ _ _ _ hnodes hedges | updated _ _ _ _ _ _ _ _ _ hnodes hedges
  | aside _ _ _ hnodes hedges =>
    unfold SnapshotsClosed
    rw [hnodes, hedges]
    exact h
  | taken create hself =>
    rw [hself]
    intro id
    simp only [ControlGraphService.createSnapshot, Dict.getD_set]
    split
    next =>
      rw [List.map_map]
      exact endsAmong_edgesAmong _ _
    next => exact h id

end ControlFabric.Services
