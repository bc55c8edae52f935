import ControlFabric.Gate.Accounting
import ControlFabric.Registry.Steps
import ControlFabric.Graph.Store

/-! The registry and the graph, with the release gate that their governed calls share. -/
namespace ControlFabric
open Lib Method

structure Platform where
  registry : ObjectRegistry
  graph : ControlGraphStore
  releaseGate : PlatformActionReleaseGate

namespace Platform
variable {σ α : Type}

def new (schemaRegistry : SchemaRegistry) (validationChain : Option DeterministicValidationChain)
    (activePolicies : Option ActivePolicies) : Platform :=
  ⟨.new schemaRegistry, .new, .new validationChain activePolicies⟩

def setRegistry (registry : ObjectRegistry) (p : Platform) : Platform :=
  { p with registry := registry }

def setGraph (graph : ControlGraphStore) (p : Platform) : Platform := { p with graph := graph }

def setReleaseGate (releaseGate : PlatformActionReleaseGate) (p : Platform) : Platform :=
  { p with releaseGate := releaseGate }

/-- A call on one of the stores with the shared gate as its `release_gate` argument. -/
def passGate (get : Platform → σ) (set : σ → Platform → Platform)
    (m : Method (Governed σ) α) : Method Platform α :=
  on (fun p => ⟨get p, some p.releaseGate⟩)
    (fun g p => { set g.store p with releaseGate := g.releaseGate.getD p.releaseGate }) m

end Platform

/-- One call on the platform. The first three do not pass the shared gate on. -/
inductive PlatformOp where
  | registry (op : RegistryOp)
  | graph (op : GraphOp)
  | submit (s : Submission)
  | transitionState (objectId : String) (newState : ControlObjectState)
      (transitionedBy reason : String)
  | addEdge (edge : ControlEdge)
  | addGovernedEdge (edge : ControlEdge) (assertedBy : String)

namespace PlatformOp
open Platform

def call (rt : Runtime) : PlatformOp → Method Platform Unit
  | registry op => do
    let _ ← on Platform.registry setRegistry (op.call rt)
  | graph op => on Platform.graph setGraph (op.call rt)
  | submit s => do
    let _ ← on releaseGate setReleaseGate (PlatformActionReleaseGate.submit rt s)
  | transitionState objectId newState transitionedBy reason => do
    let _ ← passGate Platform.registry setRegistry
      (ObjectRegistry.transitionState rt objectId newState transitionedBy reason)
  | addEdge edge => passGate Platform.graph setGraph (ControlGraphStore.addEdge rt edge)
  | addGovernedEdge edge assertedBy => do
    let _ ← passGate Platform.graph setGraph (ControlGraphStore.addGovernedEdge rt edge assertedBy)

/-- What the call hands to the shared gate. -/
def submission (p : Platform) : PlatformOp → Option Submission
  | registry _ | graph _ => none
  | submit s => some s
  | transitionState objectId newState transitionedBy reason =>
    (p.registry.objects.get? objectId).map fun current =>
      ObjectRegistry.transitionSubmission current objectId newState transitionedBy reason
  | addEdge edge =>
    if edge.relationshipType ∈ RelationshipType.stateSemanticTypes then
      some (ControlGraphStore.linkSubmission edge edge.assertedBy)
    else none
  | addGovernedEdge edge assertedBy =>
    if edge.relationshipType ∈ RelationshipType.stateSemanticTypes then
      some (ControlGraphStore.linkSubmission edge assertedBy)
    else none

/-- A state transition, or an edge of a state-semantic type, under the shared gate. -/
def Gated : PlatformOp → Prop
  | transitionState _ _ _ _ => True
  | addEdge edge | addGovernedEdge edge _ =>
    edge.relationshipType ∈ RelationshipType.stateSemanticTypes
  | registry _ | graph _ | submit _ => False

instance : DecidablePred Gated := fun op => by
  cases op <;> unfold Gated <;> infer_instance

/-- The domain checks of the store, which it makes once the gate has let the call through. -/
def Committable (p : Platform) : PlatformOp → Prop
  | transitionState objectId newState _ _ => ∀ current ∈ p.registry.objects.get? objectId,
    newState ∈ current.state.validStateTransitions
  | addEdge edge | addGovernedEdge edge _ => p.graph.Insertable edge
  | registry _ | graph _ | submit _ => True

/-- The change a gated call is for, and no other. -/
def Commits (rt : Runtime) (p p' : Platform) : PlatformOp → Prop
  | transitionState objectId newState transitionedBy _ =>
    (∃ current n updatedAt detail events, p.registry.objects.get? objectId = some current ∧
      newState ∈ current.state.validStateTransitions ∧
      p'.registry = { p.registry.write rt n (current.withState newState updatedAt) transitionedBy
        detail with events := p.registry.events ++ events }) ∧ p'.graph = p.graph
  | addEdge edge | addGovernedEdge edge _ =>
    p.graph.Insertable edge ∧ p'.graph = p.graph.withEdge edge ∧ p'.registry = p.registry
  | registry _ | graph _ | submit _ => False

end PlatformOp

/-- The action types of gated calls. -/
def governedActionTypes : List String := ["state_transition", "graph_link_creation"]

/-- The packages released for gated calls. -/
def Platform.governedPackages (p : Platform) : List EvidencePackage :=
  p.releaseGate.packages.values.filter fun package => package.actionType ∈ governedActionTypes

/-- One call, after which the caller goes on whether it returned or raised. -/
def platformStep (rt : Runtime) (op : PlatformOp) (w : World Platform) : World Platform :=
  (op.call rt).after w

def platformRun (rt : Runtime) (w : World Platform) (ops : List PlatformOp) : World Platform :=
  run (platformStep rt) w ops

section Step
variable {rt : Runtime} {w : World Platform}

theorem platformStep_registry (op : RegistryOp) : platformStep rt (.registry op) w =
    ⟨w.self.setRegistry (registryStep rt op ⟨w.self.registry, w.env⟩).self,
      (registryStep rt op ⟨w.self.registry, w.env⟩).env⟩ := by
  rw [platformStep, PlatformOp.call, ← map_eq_pure_bind, after_map, after_on]
  rfl

theorem platformStep_graph (op : GraphOp) : platformStep rt (.graph op) w =
    ⟨w.self.setGraph (graphStep rt op ⟨w.self.graph, w.env⟩).self,
      (graphStep rt op ⟨w.self.graph, w.env⟩).env⟩ := by
  rw [platformStep, PlatformOp.call, after_on]
  rfl

theorem platformStep_submit (s : Submission) : platformStep rt (.submit s) w =
    ⟨w.self.setReleaseGate (submitStep rt s ⟨w.self.releaseGate, w.env⟩).self,
      (submitStep rt s ⟨w.self.releaseGate, w.env⟩).env⟩ := by
  rw [platformStep, PlatformOp.call, ← map_eq_pure_bind, after_map, after_on]
  rfl

end Step

/-- The gate let nothing through. -/
structure PlatformActionReleaseGate.Quiet (gate gate' : PlatformActionReleaseGate) : Prop where
  stored : gate'.packages = gate.packages
  logged : ∃ entries, gate'.auditLog = gate.auditLog ++ entries ∧
    ∀ entry ∈ entries, entry.status = .blocked

theorem PlatformActionReleaseGate.Quiet.refl (gate : PlatformActionReleaseGate) :
    gate.Quiet gate := ⟨rfl, [], by simp, by simp⟩

theorem Refused.quiet {gate gate' : PlatformActionReleaseGate} (h : Refused gate gate') :
    gate.Quiet gate' := by
  obtain ⟨entry, hlog, hstatus⟩ := h.logged
  exact ⟨h.stored, [entry], hlog, by simpa using hstatus⟩

/-- A release is no quiet step: its entry is logged as compiled. -/
theorem Released.not_quiet {rt : Runtime} {s : Submission}
    {gate gate' : PlatformActionReleaseGate} {package : EvidencePackage}
    (h : Released rt s gate gate' package) : ¬ gate.Quiet gate' := by
  rintro ⟨-, entries, hlog, hblocked⟩
  obtain ⟨entry, hentry, hstatus, -⟩ := h.logged
  have hmem : entry ∈ entries := by simp [← List.append_cancel_left (hentry.symm.trans hlog)]
  rw [hblocked entry hmem] at hstatus
  exact absurd hstatus (by decide)

namespace Platform
variable {σ α : Type} {get : Platform → σ} {set : σ → Platform → Platform}

theorem run_passGate (m : Method (Governed σ) α) (w : World Platform) :
    (passGate get set m).run w =
      match m.run ⟨⟨get w.self, some w.self.releaseGate⟩, w.env⟩ with
      | .ok a v => .ok a ⟨{ set v.self.store w.self with
          releaseGate := v.self.releaseGate.getD w.self.releaseGate }, v.env⟩
      | .error e v => .error e ⟨{ set v.self.store w.self with
          releaseGate := v.self.releaseGate.getD w.self.releaseGate }, v.env⟩ := by
  rw [passGate, run_on]
  cases m.run ⟨⟨get w.self, some w.self.releaseGate⟩, w.env⟩ <;> rfl

theorem run_passGate_congr {m m' : Method (Governed σ) α} {w : World Platform}
    (h : m.run ⟨⟨get w.self, some w.self.releaseGate⟩, w.env⟩ =
      m'.run ⟨⟨get w.self, some w.self.releaseGate⟩, w.env⟩) :
    (passGate get set m).run w = (passGate get set m').run w := by
  rw [run_passGate, run_passGate, h]

theorem run_passGate_map {β : Type} (f : α → β) (m : Method (Governed σ) α) (w : World Platform) :
    (passGate get set (f <$> m)).run w = (f <$> passGate get set m).run w := by
  rw [run_map, run_passGate, run_passGate, run_map]
  cases m.run ⟨⟨get w.self, some w.self.releaseGate⟩, w.env⟩ <;> rfl

theorem run_passGate_onStore (m : Method σ α) (w : World Platform) :
    (passGate get set (Governed.onStore m)).run w =
      match m.run ⟨get w.self, w.env⟩ with
      | .ok a v => .ok a ⟨{ set v.self w.self with releaseGate := w.self.releaseGate }, v.env⟩
      | .error e v => .error e
          ⟨{ set v.self w.self with releaseGate := w.self.releaseGate }, v.env⟩ := by
  rw [run_passGate, Governed.run_onStore]
  cases m.run ⟨get w.self, w.env⟩ <;> rfl

variable (get) (set) (rt : Runtime) {s : Submission} (blocked : ActionDispatchResult → PyError)
  (commit : Method σ α) (w : World Platform)

/-- A governed call releases a package and then runs its commit, or is refused and stops there. -/
theorem run_passGate_governed (hexec : s.executor = none) :
    (s.Admissible w.self.releaseGate.chain.activePolicies ∧ ∃ gate' env',
        Released rt s w.self.releaseGate gate'
          (s.compiled rt w.self.releaseGate.activePolicies w.env.draws) ∧
        env'.draws = w.env.draws + 9 ∧
        (passGate get set (Governed.governed rt s blocked commit)).run w =
          match commit.run ⟨get w.self, env'⟩ with
          | .ok a v => .ok a ⟨{ set v.self w.self with releaseGate := gate' }, v.env⟩
          | .error e v => .error e ⟨{ set v.self w.self with releaseGate := gate' }, v.env⟩) ∨
      ¬ s.Admissible w.self.releaseGate.chain.activePolicies ∧ ∃ e gate' env',
        Refused w.self.releaseGate gate' ∧ w.env.Within 9 env' ∧
        (passGate get set (Governed.governed rt s blocked commit)).run w =
          .error e ⟨{ set (get w.self) w.self with releaseGate := gate' }, env'⟩ := by
  by_cases ha : s.Admissible w.self.releaseGate.chain.activePolicies
  · obtain ⟨gate', env', hreleased, hdraws, hrun⟩ := Governed.run_governed_admitted rt blocked
      commit (get w.self) w.env hexec ha
    refine Or.inl ⟨ha, gate', env', hreleased, hdraws, ?_⟩
    rw [run_passGate, hrun, Governed.run_onStore]
    cases commit.run ⟨get w.self, env'⟩ <;> rfl
  · obtain ⟨e, gate', env', hrefused, hwithin, hrun⟩ := Governed.run_governed_blocked rt blocked
      commit (get w.self) w.env ha
    refine Or.inr ⟨ha, e, gate', env', hrefused, hwithin, ?_⟩
    rw [run_passGate, hrun]
    rfl

end Platform
end ControlFabric
