import ControlFabric.Platform.System

/-! What one platform call does: a gated call is released and then committed or raised, or raised
without a release; every other call leaves the gate's packages to direct submits. -/
namespace ControlFabric
open Lib Method Platform

namespace PlatformOp
variable (rt : Runtime)

/-- The outcomes of a gated call: released and then committed or raised, or raised without a
release. -/
inductive Outcome (op : PlatformOp) (w : World Platform) : Prop where
  | committed (s : Submission) (hs : op.submission w.self = some s)
      (admissible : s.Admissible w.self.releaseGate.chain.activePolicies)
      (committable : op.Committable w.self) (p' : Platform) (env' : Env)
      (commits : op.Commits rt w.self p')
      (released : Released rt s w.self.releaseGate p'.releaseGate
        (s.compiled rt w.self.releaseGate.activePolicies w.env.draws))
      (draws : w.env.draws + 9 ≤ env'.draws ∧ env'.draws ≤ w.env.draws + 13)
      (hrun : (op.call rt).run w = .ok () ⟨p', env'⟩)
  | leaked (s : Submission) (hs : op.submission w.self = some s)
      (admissible : s.Admissible w.self.releaseGate.chain.activePolicies)
      (not_committable : ¬ op.Committable w.self) (gate' : PlatformActionReleaseGate) (e : PyError)
      (env' : Env)
      (released : Released rt s w.self.releaseGate gate'
        (s.compiled rt w.self.releaseGate.activePolicies w.env.draws))
      (draws : w.env.draws + 9 ≤ env'.draws ∧ env'.draws ≤ w.env.draws + 13)
      (hrun : (op.call rt).run w = .error e ⟨w.self.setReleaseGate gate', env'⟩)
  | refused (inadmissible : ∀ s ∈ op.submission w.self,
        ¬ s.Admissible w.self.releaseGate.chain.activePolicies)
      (gate' : PlatformActionReleaseGate) (e : PyError) (env' : Env)
      (quiet : w.self.releaseGate.Quiet gate') (within : w.env.Within 13 env')
      (hrun : (op.call rt).run w = .error e ⟨w.self.setReleaseGate gate', env'⟩)

variable {rt} {w : World Platform}

/-- A governed call whose commit succeeds exactly on committable calls has these outcomes. -/
theorem Outcome.of_governed {σ α : Type} {get : Platform → σ} {set : σ → Platform → Platform}
    {op : PlatformOp} {s : Submission} {blocked : ActionDispatchResult → PyError}
    {commit : Method σ α}
    (hcall : (op.call rt).run w =
      ((fun _ => ()) <$> passGate get set (Governed.governed rt s blocked commit)).run w)
    (hs : op.submission w.self = some s) (hexec : s.executor = none)
    (hset : set (get w.self) w.self = w.self)
    (hcommit : op.Committable w.self → ∀ env, ∃ a store env', env.Within 4 env' ∧
      commit.run ⟨get w.self, env⟩ = .ok a ⟨store, env'⟩ ∧
      ∀ gate', op.Commits rt w.self { set store w.self with releaseGate := gate' })
    (hraise : ¬ op.Committable w.self → ∀ env, ∃ e env', env.Within 4 env' ∧
      commit.run ⟨get w.self, env⟩ = .error e ⟨get w.self, env'⟩) : Outcome rt op w := by
  rw [run_map] at hcall
  rcases run_passGate_governed get set rt blocked commit w hexec with
    ⟨ha, gate', env, hreleased, hdraws, hrun⟩ | ⟨ha, e, gate', env, hrefused, hwithin, hrun⟩
  · rw [hrun] at hcall
    by_cases hcommittable : op.Committable w.self
    · obtain ⟨a, store, env', ⟨hle, hbound⟩, hok, hcommits⟩ := hcommit hcommittable env
      rw [hok] at hcall
      exact .committed s hs ha hcommittable _ env' (hcommits gate') hreleased (by omega) hcall
    · obtain ⟨e, env', ⟨hle, hbound⟩, herror⟩ := hraise hcommittable env
      rw [herror] at hcall
      simp only [hset] at hcall
      exact .leaked s hs ha hcommittable gate' e env' hreleased (by omega) hcall
  · rw [hrun] at hcall
    simp only [hset] at hcall
    exact .refused (by simpa [hs] using ha) gate' e env hrefused.quiet
      (hwithin.mono (by omega)) hcall

theorem outcome_transitionState (hkeyed : w.self.registry.Keyed) (objectId : String)
    (newState : ControlObjectState) (transitionedBy reason : String) :
    Outcome rt (transitionState objectId newState transitionedBy reason) w := by
  cases hget : w.self.registry.objects.get? objectId with
  | none =>
    refine .refused (by simp [submission, hget]) w.self.releaseGate
      (.registryError s!"Object {objectId} not found.") w.env (.refl _) (Env.Within.refl 13 w.env) ?_
    rw [call, EStateM.run_bind, run_passGate, ObjectRegistry.run_transitionState_error rt _ _ _ hget]
    rfl
  | some current =>
    have hself : w.self.registry.objects.get? current.objectId = some current := by
      rw [hkeyed objectId current hget, hget]
    have hs : (transitionState objectId newState transitionedBy reason).submission w.self =
        some (ObjectRegistry.transitionSubmission current objectId newState transitionedBy reason) :=
      by simp [submission, hget]
    have hcall := run_map (fun _ => ()) (passGate Platform.registry setRegistry
      (ObjectRegistry.transitionState rt objectId newState transitionedBy reason)) w
    rw [run_passGate_congr (ObjectRegistry.run_transitionState rt _ _ _ hget), ← run_map,
      map_eq_pure_bind] at hcall
    refine .of_governed hcall hs rfl rfl (fun hc env => ?_) (fun hc env => ?_)
    · have hvalid : newState ∈ current.state.validStateTransitions := hc current hget
      obtain ⟨detail, events, hrun⟩ := ObjectRegistry.run_commitTransition rt transitionedBy
        reason env hself hvalid
      exact ⟨_, _, _, ⟨by simp, by simp⟩, hrun, fun gate' =>
        ⟨⟨current, _, _, detail, events, hget, hvalid, rfl⟩, rfl⟩⟩
    · have hvalid : newState ∉ current.state.validStateTransitions := by
        simpa [Committable, hget] using hc
      obtain ⟨e, hrun⟩ := ObjectRegistry.run_commitTransition_error rt
        (r := w.self.registry) transitionedBy reason env hvalid
      exact ⟨e, _, ⟨by simp, by simp⟩, hrun⟩

theorem outcome_insertEdge {op : PlatformOp} {edge : ControlEdge} {assertedBy : String}
    (hcall : (op.call rt).run w = ((fun _ => ()) <$> passGate Platform.graph setGraph
      (ControlGraphStore.addGovernedEdge rt edge assertedBy)).run w)
    (hsemantic : edge.relationshipType ∈ RelationshipType.stateSemanticTypes)
    (hs : op.submission w.self = some (ControlGraphStore.linkSubmission edge assertedBy))
    (hcommittable : op.Committable w.self ↔ w.self.graph.Insertable edge)
    (hcommits : ∀ p', w.self.graph.Insertable edge → p'.graph = w.self.graph.withEdge edge →
      p'.registry = w.self.registry → op.Commits rt w.self p') : Outcome rt op w := by
  rw [run_map, run_passGate_congr (ControlGraphStore.run_addGovernedEdge_semantic rt hsemantic),
    run_passGate_map, ← run_map, run_map_map] at hcall
  refine .of_governed hcall hs rfl rfl (fun hc env => ?_) (fun hc env => ?_)
  · have hinsert := hcommittable.mp hc
    exact ⟨(), _, env, Env.Within.refl 4 env, ControlGraphStore.run_insertEdge hinsert,
      fun gate' => hcommits _ hinsert rfl rfl⟩
  · obtain ⟨e, hrun⟩ := ControlGraphStore.run_insertEdge_error env
      (hcommittable.not.mp hc)
    exact ⟨e, env, Env.Within.refl 4 env, hrun⟩

variable (rt) in
theorem outcome_of_gated {op : PlatformOp} (hgated : op.Gated) (hkeyed : w.self.registry.Keyed) :
    Outcome rt op w := by
  cases op with
  | registry _ => exact hgated.elim
  | graph _ => exact hgated.elim
  | submit _ => exact hgated.elim
  | transitionState objectId newState transitionedBy reason =>
    exact outcome_transitionState hkeyed objectId newState transitionedBy reason
  | addEdge edge =>
    refine outcome_insertEdge ?_ hgated (if_pos hgated) Iff.rfl fun _ h h' h'' => ⟨h, h', h''⟩
    rw [call, run_passGate_congr (ControlGraphStore.run_addEdge_gate rfl), run_passGate_map]
  | addGovernedEdge edge assertedBy =>
    refine outcome_insertEdge ?_ hgated (if_pos hgated) Iff.rfl fun _ h h' h'' => ⟨h, h', h''⟩
    rw [call, map_eq_pure_bind]

theorem Commits.keyed {op : PlatformOp} {p p' : Platform} (h : op.Commits rt p p')
    (hkeyed : p.registry.Keyed) : p'.registry.Keyed := by
  cases op with
  | registry _ => exact h.elim
  | graph _ => exact h.elim
  | submit _ => exact h.elim
  | transitionState objectId newState transitionedBy reason =>
    obtain ⟨⟨current, n, updatedAt, detail, events, -, -, he⟩, -⟩ := h
    rw [he]
    exact hkeyed.write rt n (current.withState newState updatedAt) transitionedBy detail
  | addEdge edge => rw [h.2.2]; exact hkeyed
  | addGovernedEdge edge assertedBy => rw [h.2.2]; exact hkeyed

theorem Commits.indexed {op : PlatformOp} {p p' : Platform} (h : op.Commits rt p p')
    (hindexed : p.graph.Indexed) : p'.graph.Indexed := by
  cases op with
  | registry _ => exact h.elim
  | graph _ => exact h.elim
  | submit _ => exact h.elim
  | transitionState objectId newState transitionedBy reason => rw [h.2]; exact hindexed
  | addEdge edge => rw [h.2.1]; exact hindexed.withEdge edge
  | addGovernedEdge edge assertedBy => rw [h.2.1]; exact hindexed.withEdge edge

end PlatformOp

/-- The invariant of platform runs. -/
structure Platform.Sound (rt : Runtime) (w : World Platform) : Prop where
  keyed : w.self.registry.Keyed
  indexed : w.self.graph.Indexed
  drawn : PackagesDrawn rt ⟨w.self.releaseGate, w.env⟩

/-- One call on a sound platform stores no package, or one of the submitted action type under a
fresh draw. -/
structure PlatformOp.Effect (rt : Runtime) (op : PlatformOp) (w w' : World Platform) : Prop where
  within : w.env.Within 13 w'.env
  keyed : w'.self.registry.Keyed
  indexed : w'.self.graph.Indexed
  packages : (∀ s ∈ op.submission w.self, ¬ s.Admissible w.self.releaseGate.chain.activePolicies) ∧
      w'.self.releaseGate.packages = w.self.releaseGate.packages ∨
    ∃ s, op.submission w.self = some s ∧ s.Admissible w.self.releaseGate.chain.activePolicies ∧
      ∃ n package, w.env.draws ≤ n ∧ n < w'.env.draws ∧ package.actionType = s.actionType ∧
        w'.self.releaseGate.packages = w.self.releaseGate.packages.set (rt.uuid4 n) package

namespace PlatformOp
variable {rt : Runtime} {w : World Platform} {op : PlatformOp}

theorem effect_of_gated (hgated : op.Gated) (hw : Sound rt w) :
    op.Effect rt w (platformStep rt op w) := by
  rcases outcome_of_gated rt hgated hw.keyed with
    ⟨s, hs, ha, -, p', env', hcommits, hreleased, ⟨hlo, hhi⟩, hrun⟩ |
    ⟨s, hs, ha, -, gate', e, env', hreleased, ⟨hlo, hhi⟩, hrun⟩ |
    ⟨hno, gate', e, env', hquiet, hwithin, hrun⟩
  · rw [platformStep, after_ok hrun]
    refine ⟨⟨by simp only; omega, hhi⟩, hcommits.keyed hw.keyed, hcommits.indexed hw.indexed,
      Or.inr ⟨s, hs, ha, w.env.draws + 7, _, by omega, by simp only; omega, hreleased.actionType,
        hreleased.stored⟩⟩
  · rw [platformStep, after_error hrun]
    exact ⟨⟨by simp only; omega, hhi⟩, hw.keyed, hw.indexed,
      Or.inr ⟨s, hs, ha, w.env.draws + 7, _, by omega, by simp only; omega, hreleased.actionType,
        hreleased.stored⟩⟩
  · rw [platformStep, after_error hrun]
    exact ⟨hwithin, hw.keyed, hw.indexed, Or.inl ⟨hno, hquiet.stored⟩⟩

/-- A state-neutral edge is inserted without asking the gate. -/
theorem effect_of_insertEdge {edge : ControlEdge} (assertedBy : String) (hw : Sound rt w)
    (hcall : (op.call rt).run w = ((fun _ => ()) <$> passGate Platform.graph setGraph
      (ControlGraphStore.addGovernedEdge rt edge assertedBy)).run w)
    (hneutral : edge.relationshipType ∉ RelationshipType.stateSemanticTypes)
    (hs : op.submission w.self = none) : op.Effect rt w (platformStep rt op w) := by
  rw [run_map, run_passGate_congr (ControlGraphStore.run_addGovernedEdge_other rt hneutral),
    run_passGate_map, run_map, run_passGate_onStore] at hcall
  by_cases hinsert : w.self.graph.Insertable edge
  · rw [ControlGraphStore.run_insertEdge hinsert] at hcall
    rw [platformStep, after_ok hcall]
    exact ⟨Env.Within.refl 13 w.env, hw.keyed, hw.indexed.withEdge edge,
      Or.inl ⟨by simp [hs], rfl⟩⟩
  · obtain ⟨e, hrun⟩ := ControlGraphStore.run_insertEdge_error w.env hinsert
    rw [hrun] at hcall
    rw [platformStep, after_error hcall]
    exact ⟨Env.Within.refl 13 w.env, hw.keyed, hw.indexed, Or.inl ⟨by simp [hs], rfl⟩⟩

theorem effect (op : PlatformOp) (hw : Sound rt w) : op.Effect rt w (platformStep rt op w) := by
  cases op with
  | registry op =>
    rw [platformStep_registry]
    have hwithin := registryStep_within rt op (w := ⟨w.self.registry, w.env⟩) hw.keyed
    refine ⟨hwithin, ?_, hw.indexed, Or.inl ⟨by simp [submission], rfl⟩⟩
    exact registryStep_invariant (I := ObjectRegistry.Keyed) (fun _ _ h => h) (fun _ h => h)
      (fun obj n changedBy reason _ => hw.keyed.write rt n obj changedBy reason) hw.keyed
  | graph op =>
    rw [platformStep_graph]
    have hwithin := graphStep_within rt op (w := ⟨w.self.graph, w.env⟩) hw.indexed
    exact ⟨hwithin.mono (by omega), hw.keyed, graphStep_indexed rt op hw.indexed,
      Or.inl ⟨by simp [submission], rfl⟩⟩
  | submit s =>
    rw [platformStep_submit]
    obtain ⟨hwithin, hpackages⟩ := submitStep_packages rt s ⟨w.self.releaseGate, w.env⟩
    refine ⟨hwithin.mono (by omega), hw.keyed, hw.indexed, ?_⟩
    rcases hpackages with ⟨ha, hsame⟩ | ⟨ha, n, package, hn, hlt, htype, hset⟩
    · exact Or.inl ⟨by simpa [submission] using ha, hsame⟩
    · exact Or.inr ⟨s, rfl, ha, n, package, hn, hlt, htype, hset⟩
  | transitionState objectId newState transitionedBy reason => exact effect_of_gated trivial hw
  | addEdge edge =>
    by_cases hsemantic : edge.relationshipType ∈ RelationshipType.stateSemanticTypes
    · exact effect_of_gated hsemantic hw
    · refine effect_of_insertEdge edge.assertedBy hw ?_ hsemantic (if_neg hsemantic)
      rw [call, run_passGate_congr (ControlGraphStore.run_addEdge_gate rfl), run_passGate_map]
  | addGovernedEdge edge assertedBy =>
    by_cases hsemantic : edge.relationshipType ∈ RelationshipType.stateSemanticTypes
    · exact effect_of_gated hsemantic hw
    · refine effect_of_insertEdge assertedBy hw ?_ hsemantic (if_neg hsemantic)
      rw [call, map_eq_pure_bind]

end PlatformOp

theorem Platform.Sound.step {rt : Runtime} {w : World Platform} (hw : Sound rt w)
    (op : PlatformOp) : Sound rt (platformStep rt op w) := by
  have heffect := op.effect hw
  refine ⟨heffect.keyed, heffect.indexed, ?_⟩
  rcases heffect.packages with ⟨-, hsame⟩ | ⟨s, -, -, n, package, hn, hlt, -, hset⟩
  · exact PackagesDrawn.keep hw.drawn heffect.within.le hsame
  · exact PackagesDrawn.set hw.drawn hn hlt hset

theorem Platform.Sound.new (rt : Runtime) (schemaRegistry : SchemaRegistry)
    (validationChain : Option DeterministicValidationChain)
    (activePolicies : Option ActivePolicies) (env : Env) :
    Sound rt ⟨.new schemaRegistry validationChain activePolicies, env⟩ where
  keyed id obj h := by simp [Platform.new, ObjectRegistry.new] at h
  indexed := ControlGraphStore.Indexed.new
  drawn id hid := absurd hid (Dict.not_mem_empty id)

end ControlFabric
