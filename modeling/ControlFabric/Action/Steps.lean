import ControlFabric.Action.Engine
import ControlFabric.Fabric.Steps
import ControlFabric.Lib.Lifecycle

/-! What one call does to the proposals of an action engine and to its graph. -/
namespace ControlFabric.Fabric

namespace Validation
open Lib Py Method

/-- No rule of the chain fails on the objects. -/
def ValidationChain.Passes (chain : ValidationChain) (objects : List ControlObject)
    (graph : InMemoryGraphRepository) (ctx : JsonDict) : Prop :=
  ∀ step ∈ chain.runSteps objects graph ctx, step.verdict ≠ .fail

instance (chain : ValidationChain) (objects : List ControlObject)
    (graph : InMemoryGraphRepository) (ctx : JsonDict) :
    Decidable (chain.Passes objects graph ctx) :=
  inferInstanceAs (Decidable (∀ step ∈ chain.runSteps objects graph ctx, step.verdict ≠ .fail))

theorem outcomeOf_actionable_iff (failed warnings : ℕ) :
    ValidationChain.outcomeOf failed warnings ∈ [ChainOutcome.passed, .passedWithWarnings] ↔
      failed = 0 := by
  unfold ValidationChain.outcomeOf
  by_cases hfailed : 0 < failed
  · rw [if_pos hfailed]
    simp [hfailed.ne']
  · rw [if_neg hfailed]
    have hzero : failed = 0 := by omega
    by_cases hwarnings : 0 < warnings <;> simp [hwarnings, hzero]

/-- The chain finds objects actionable exactly when they pass. -/
theorem run_validate {σ : Type} (rt : Runtime) (str : Json → String) (chain : ValidationChain)
    (graph : InMemoryGraphRepository) (tenantId : String) {objects : List ControlObject}
    (actionType : String) (context : Option JsonDict) (w : World σ) (hne : objects ≠ []) :
    ∃ result, (chain.validate rt str graph tenantId objects actionType context).run w =
        .ok result ⟨w.self, w.env.tick 1⟩ ∧
      (result.isActionable = true ↔ chain.Passes objects graph (context.getD [])) := by
  refine ⟨_, by rw [ValidationChain.validate, if_neg hne]; rfl, ?_⟩
  rw [ValidationChainResult.isActionable, decide_eq_true_iff]
  apply (outcomeOf_actionable_iff _ _).trans
  rw [List.countP_eq_zero]
  simp [ValidationChain.Passes]

end Validation

namespace Action
open Lib Lifecycle Py Method Validation ActionEngine

/-! ### The graph -/

/-- What a release makes of one object: a reconciled target is actioned. -/
inductive Marks (targeted : Prop) : Option ControlObject → Option ControlObject → Prop
  | actioned {obj : ControlObject} {updatedAt : DateTime} {audit : AuditContext} (h : targeted)
      (hstate : obj.state = .reconciled) :
      Marks targeted (some obj) (some (obj.moved .actioned updatedAt audit))
  | same {o : Option ControlObject} (h : ∀ obj ∈ o, targeted → obj.state ≠ .reconciled) :
      Marks targeted o o

/-- What a release makes of the graph. -/
structure Marked (ids : List String) (g g' : GraphService) : Prop where
  objects : ∀ id, Marks (id ∈ ids) (g.repo.objects.get? id) (g'.repo.objects.get? id)
  others : g' = { g with repo := ⟨g'.repo.objects, g.repo.links⟩ }

theorem Marks.cons {p q : Prop} {o o' o'' : Option ControlObject} (h : Marks p o o')
    (h' : Marks q o' o'') : Marks (p ∨ q) o o'' := by
  cases h with
  | actioned hp hstate =>
    cases h' with
    | actioned _ hactioned => cases hactioned
    | same _ => exact .actioned (Or.inl hp) hstate
  | same hsame =>
    cases h' with
    | actioned hq hstate => exact .actioned (Or.inr hq) hstate
    | same hsame' =>
      apply Marks.same
      intro obj hobj htargeted
      exact htargeted.elim (hsame obj hobj) (hsame' obj hobj)

theorem Marked.refl (g : GraphService)
    {ids : List String} (h : ∀ id ∈ ids, ∀ obj ∈ g.repo.objects.get? id, obj.state ≠ .reconciled) :
    Marked ids g g :=
  ⟨fun id => .same fun obj hobj hid => h id hid obj hobj, rfl⟩

theorem Marked.cons {id : String} {ids : List String} {g g' g'' : GraphService}
    (h : Marked [id] g g') (h' : Marked ids g' g'') : Marked (id :: ids) g g'' where
  objects other := by
    have hboth := (h.objects other).cons (h'.objects other)
    rwa [← List.mem_append, List.singleton_append] at hboth
  others := by
    rw [h'.others, h.others]

section Graph
variable {rt : Runtime} {w : World GraphService}

variable (rt) in
/-- Marking a target always returns. -/
theorem run_markTarget (hkeyed : w.self.repo.Keyed) (audit : AuditContext) (id : String) :
    ∃ k g, (markTarget rt audit id).run w = .ok () ⟨g, w.env.tick k⟩ ∧ Marked [id] w.self g ∧
      g.repo.Keyed := by
  have hsame (hnot : ∀ obj ∈ w.self.repo.objects.get? id, obj.state ≠ .reconciled) :
      Marked [id] w.self w.self := by
    apply Marked.refl
    intro other hother
    rwa [List.mem_singleton.mp hother]
  unfold markTarget
  rw [EStateM.run_bind, run_self]
  dsimp only
  cases hget : w.self.repo.objects.get? id with
  | none => exact ⟨0, w.self, rfl, hsame (Dict.forall_get?_of_none hget), hkeyed⟩
  | some obj =>
    dsimp only
    by_cases hstate : obj.state = .reconciled
    · rw [if_pos hstate]
      have hvalid : ControlState.actioned ∈ obj.state.validStateTransitions := by
        rw [hstate]
        decide
      have hid : obj.id = id := hkeyed id obj hget
      have hrun := ControlObject.run_transitionState_ok rt audit (w := ⟨obj, w.env⟩) hvalid
      refine ⟨1, GraphService.storeObject (obj.moved .actioned (rt.now w.env.draws) audit)
        (GraphService.storeObject (obj.moved .actioned (rt.now w.env.draws) audit) w.self), ?_, ?_,
        (hkeyed.storeObject _).storeObject _⟩
      · rw [EStateM.run_bind, ControlObject.markActioned, run_callStored_ok hrun]
        rfl
      · rw [GraphService.storeObject_storeObject rfl]
        refine ⟨?_, rfl⟩
        intro other
        show Marks _ _ ((w.self.repo.objects.set obj.id _).get? other)
        rw [hid, Dict.get?_set]
        by_cases hother : other = id
        · rw [if_pos hother, hother, hget]
          exact .actioned (List.mem_singleton_self id) hstate
        · rw [if_neg hother]
          exact .same fun _ _ hmem => absurd (List.mem_singleton.mp hmem) hother
    · rw [if_neg hstate]
      exact ⟨0, w.self, rfl, hsame ((Dict.forall_get?_of_some hget).mpr hstate), hkeyed⟩

variable (rt) in
theorem run_markTargets (hkeyed : w.self.repo.Keyed) (audit : AuditContext) (ids : List String) :
    ∃ k g, (markTargets rt audit ids).run w = .ok () ⟨g, w.env.tick k⟩ ∧ Marked ids w.self g ∧
      g.repo.Keyed := by
  induction ids generalizing w with
  | nil => exact ⟨0, w.self, rfl, Marked.refl _ (by simp), hkeyed⟩
  | cons id ids ih =>
    obtain ⟨k, g, hrun, hmarked, hkeyed'⟩ := run_markTarget rt hkeyed audit id
    obtain ⟨l, g', hrun', hmarked', hkeyed''⟩ := ih (w := ⟨g, w.env.tick k⟩) hkeyed'
    refine ⟨k + l, g', ?_, hmarked.cons hmarked', hkeyed''⟩
    unfold markTargets
    rw [EStateM.run_bind, hrun]
    dsimp only
    rw [hrun', Env.tick_tick]

end Graph

/-! ### The engine -/

/-- The checks of `propose_action` on the targets. -/
def ActionEngine.validates (e : ActionEngine) (targetObjectIds : List String)
    (context : Option JsonDict) : Bool :=
  targetObjects e.graph targetObjectIds ≠ [] ∧
    ((targetObjects e.graph targetObjectIds).map fun o => o.evidence.length).sum ≠ 0 ∧
    e.validation.Passes (targetObjects e.graph targetObjectIds) e.graph.repo (context.getD [])

/-- What a call goes on to do once its checks are passed. -/
def ActionCall.event (rt : Runtime) (w : World ActionEngine) : ActionCall → Option (Event String)
  | proposeAction _ _ targetObjectIds _ _ _ context =>
    if w.self.validates targetObjectIds context then
      some (.proposed (rt.uuid4 (w.env.draws + 2))) else none
  | approveAction proposalId _ =>
    if (w.self.proposals.get? proposalId).any fun p => p.mode = .approvalGated then
      some (.approved proposalId) else none
  | rejectAction proposalId _ =>
    if (w.self.proposals.get? proposalId).isSome then some (.rejected proposalId) else none
  | releaseAction proposalId _ =>
    if (w.self.proposals.get? proposalId).any ActionProposal.isReleasable then
      some (.released proposalId) else none
  | graphOp _ => none

/-- What a call leaves of the engine, by what it goes on to do. -/
inductive ActionEffect (rt : Runtime) (w : World ActionEngine) :
    ActionCall → Option (Event String) → ActionEngine → Prop
  | refused (call : ActionCall) : ActionEffect rt w call none w.self
  | proposed {tenantId : String} {actionType : ActionType} {targetObjectIds : List String}
      {mode : ActionMode} {parameters : Option JsonDict} {description : String}
      {context : Option JsonDict} {manifest : ActionManifest} {result : ValidationChainResult}
      (h : w.self.validates targetObjectIds context = true)
      (hmanifest : manifest.targetObjectIds =
        (targetObjects w.self.graph targetObjectIds).map ControlObject.id) :
      ActionEffect rt w
        (.proposeAction tenantId actionType targetObjectIds mode parameters description context)
        (some (.proposed (rt.uuid4 (w.env.draws + 2))))
        (storeProposal (rt.uuid4 (w.env.draws + 2))
          (newProposal rt (w.env.draws + 2) tenantId actionType
            (targetObjects w.self.graph targetObjectIds) mode manifest result description) w.self)
  | approved {proposalId approver : String} {p : ActionProposal}
      (hstored : w.self.proposals.get? proposalId = some p) (hmode : p.mode = .approvalGated) :
      ActionEffect rt w (.approveAction proposalId approver) (some (.approved proposalId))
        (storeProposal proposalId
          { p with status := .approved, eligibility := .eligible, approvedBy := some approver }
          w.self)
  | rejected {proposalId reason : String} {p : ActionProposal}
      (hstored : w.self.proposals.get? proposalId = some p) :
      ActionEffect rt w (.rejectAction proposalId reason) (some (.rejected proposalId))
        (storeProposal proposalId
          { p with
            status := .rejected
            eligibility := .ineligible
            metadata := rejectionMetadata p.metadata reason } w.self)
  | released {proposalId actor : String} {p : ActionProposal} {releasedAt : DateTime}
      {graph : GraphService} (hstored : w.self.proposals.get? proposalId = some p)
      (hreleasable : p.isReleasable = true)
      (hmarked : Marked p.manifest.targetObjectIds w.self.graph graph) :
      ActionEffect rt w (.releaseAction proposalId actor) (some (.released proposalId))
        { storeProposal proposalId
            { p with status := .released, releasedAt := some releasedAt } w.self with
          graph := graph }
  | graphOp {op : GraphServiceOp} {graph : GraphService} :
      ActionEffect rt w (.graphOp op) none { w.self with graph := graph }

section Steps
variable {rt : Runtime} {str : Json → String} {uc : Unicode} {w : World ActionEngine} {α β : Type}

variable (rt w) in
/-- A call raises and leaves the engine as it is, or it returns and has its effect. -/
inductive Ends (call : ActionCall) : EStateM.Result PyError (World ActionEngine) α → Prop
  | refused (hevent : call.event rt w = none) (e : PyError) (k : ℕ) :
      Ends call (.error e ⟨w.self, w.env.tick k⟩)
  | done {event : Event String} (hevent : call.event rt w = some event) (a : α)
      (w' : World ActionEngine) (heffect : ActionEffect rt w call (some event) w'.self)
      (hdraws : w.env.draws ≤ w'.env.draws)
      (hdrawn : ∀ a, event = .proposed a → w.env.draws + 2 < w'.env.draws)
      (hkeyed : w'.self.graph.repo.Keyed) : Ends call (.ok a w')

theorem Ends.map {call : ActionCall} {m : Method ActionEngine α} (f : α → β)
    (h : Ends rt w call (m.run w)) : Ends rt w call ((f <$> m).run w) := by
  rw [run_map]
  generalize m.run w = r at h
  cases h with
  | refused hevent e k => exact .refused hevent e k
  | done hevent a w' heffect hdraws hdrawn hkeyed =>
    exact .done hevent (f a) w' heffect hdraws hdrawn hkeyed

/-- An operation on a proposal that is not stored is refused. -/
theorem ends_missing {call : ActionCall} {proposalId : String}
    {f : ActionProposal → Method ActionEngine α} (hget : w.self.proposals.get? proposalId = none)
    (hevent : call.event rt w = none) : Ends rt w call ((withProposal proposalId f).run w) := by
  unfold withProposal
  rw [EStateM.run_bind, run_self]
  dsimp only
  rw [hget]
  exact .refused hevent _ 0

theorem run_withProposal {proposalId : String} {p : ActionProposal}
    {f : ActionProposal → Method ActionEngine α} (h : w.self.proposals.get? proposalId = some p) :
    (withProposal proposalId f).run w = (f p).run w := by
  unfold withProposal
  rw [EStateM.run_bind, run_self]
  dsimp only
  rw [h]

theorem ends_proposeAction (hkeyed : w.self.graph.repo.Keyed) (tenantId : String)
    (actionType : ActionType) (targetObjectIds : List String) (mode : ActionMode)
    (parameters : Option JsonDict) (description : String) (context : Option JsonDict) :
    Ends rt w
      (.proposeAction tenantId actionType targetObjectIds mode parameters description context)
      ((proposeAction rt str tenantId actionType targetObjectIds mode parameters description
        context).run w) := by
  have hrefused (hnot : ¬ w.self.validates targetObjectIds context = true) :
      (ActionCall.proposeAction tenantId actionType targetObjectIds mode parameters description
        context).event rt w = none := if_neg hnot
  rw [proposeAction, EStateM.run_bind, run_self]
  dsimp only
  by_cases hnone : targetObjects w.self.graph targetObjectIds = []
  · rw [if_pos hnone]
    exact .refused (hrefused (by simp [ActionEngine.validates, hnone])) _ 0
  rw [if_neg hnone]
  by_cases hevidence :
      ((targetObjects w.self.graph targetObjectIds).map fun o => o.evidence.length).sum = 0
  · rw [if_pos hevidence]
    exact .refused (hrefused (by simp only [ActionEngine.validates, hevidence]; simp)) _ 0
  rw [if_neg hevidence]
  obtain ⟨result, hvalidate, hactionable⟩ := run_validate rt str w.self.validation
    w.self.graph.repo tenantId actionType.value context w hnone
  rw [EStateM.run_bind, hvalidate]
  dsimp only
  have hvalidates : w.self.validates targetObjectIds context = true ↔
      result.isActionable = true := by
    simp only [ActionEngine.validates, decide_eq_true_iff, hactionable]
    exact ⟨fun h => h.2.2, fun h => ⟨hnone, hevidence, h⟩⟩
  by_cases hpasses : result.isActionable = true
  · have hevent : (ActionCall.proposeAction tenantId actionType targetObjectIds mode parameters
        description context).event rt w = some (.proposed (rt.uuid4 (w.env.draws + 2))) :=
      if_pos (hvalidates.mpr hpasses)
    rw [if_neg (not_not.mpr hpasses)]
    apply Ends.done hevent
    · exact .proposed (hvalidates.mpr hpasses) rfl
    · show w.env.draws ≤ w.env.draws + 1 + 1 + 1
      omega
    · intro _ _
      show w.env.draws + 2 < w.env.draws + 1 + 1 + 1
      omega
    · exact hkeyed
  · rw [if_pos hpasses]
    exact .refused (hrefused fun h => hpasses (hvalidates.mp h)) _ 1

theorem ends_approveAction (hkeyed : w.self.graph.repo.Keyed) (proposalId approver : String) :
    Ends rt w (.approveAction proposalId approver)
      ((approveAction proposalId approver).run w) := by
  cases hget : w.self.proposals.get? proposalId with
  | none => exact ends_missing hget (by simp [ActionCall.event, hget])
  | some p =>
    rw [approveAction, run_withProposal hget]
    by_cases hmode : p.mode = .approvalGated
    · have hevent : (ActionCall.approveAction proposalId approver).event rt w =
          some (.approved proposalId) := by
        simp [ActionCall.event, hget, hmode]
      rw [if_neg (not_not.mpr hmode)]
      apply Ends.done hevent
      · exact .approved hget hmode
      · exact le_rfl
      · simp
      · exact hkeyed
    · rw [if_pos hmode]
      exact .refused (by simp [ActionCall.event, hget, hmode]) _ 0

theorem ends_rejectAction (hkeyed : w.self.graph.repo.Keyed) (proposalId reason : String) :
    Ends rt w (.rejectAction proposalId reason) ((rejectAction proposalId reason).run w) := by
  cases hget : w.self.proposals.get? proposalId with
  | none => exact ends_missing hget (by simp [ActionCall.event, hget])
  | some p =>
    have hevent : (ActionCall.rejectAction proposalId reason).event rt w =
        some (.rejected proposalId) := by
      simp [ActionCall.event, hget]
    rw [rejectAction, run_withProposal hget]
    apply Ends.done hevent
    · exact .rejected hget
    · exact le_rfl
    · simp
    · exact hkeyed

theorem run_on_ok {σ τ β : Type} {get : τ → σ} {set : σ → τ → τ} {m : Method σ β} {v : World τ}
    {b : β} {s : World σ} (h : m.run ⟨get v.self, v.env⟩ = .ok b s) :
    (on get set m).run v = .ok b ⟨set s.self v.self, s.env⟩ := by
  rw [run_on, h]

theorem ends_releaseAction (hkeyed : w.self.graph.repo.Keyed) (proposalId actor : String) :
    Ends rt w (.releaseAction proposalId actor) ((releaseAction rt proposalId actor).run w) := by
  cases hget : w.self.proposals.get? proposalId with
  | none => exact ends_missing hget (by simp [ActionCall.event, hget])
  | some p =>
    rw [releaseAction, run_withProposal hget]
    by_cases hreleasable : p.isReleasable = true
    · have hevent : (ActionCall.releaseAction proposalId actor).event rt w =
          some (.released proposalId) := by
        simp [ActionCall.event, hget, hreleasable]
      obtain ⟨k, graph, hmark, hmarked, hkeyed'⟩ := run_markTargets rt
        (w := ⟨w.self.graph, w.env.tick 2⟩) hkeyed
        { actor := actor
          action := s!"actioned_via_{p.actionType.value}"
          timestamp := rt.now (w.env.draws + 1) } p.manifest.targetObjectIds
      rw [if_neg (not_not.mpr hreleasable), EStateM.run_bind, run_draw]
      dsimp only
      rw [EStateM.run_bind, run_assign]
      dsimp only
      rw [EStateM.run_bind, run_draw]
      dsimp only
      rw [EStateM.run_bind, run_on_ok hmark]
      apply Ends.done hevent
      · exact .released hget hreleasable hmarked
      · show w.env.draws ≤ w.env.draws + 2 + k
        omega
      · simp
      · exact hkeyed'
    · rw [if_pos hreleasable]
      exact .refused (by simp [ActionCall.event, hget, hreleasable]) _ 0

variable (rt str uc) in
/-- Every call on the engine raises or has its effect. -/
theorem ends_call (hkeyed : w.self.graph.repo.Keyed) (call : ActionCall)
    (hcall : ∀ op, call ≠ .graphOp op) : Ends rt w call ((call.call rt str uc).run w) := by
  cases call with
  | proposeAction tenantId actionType targetObjectIds mode parameters description context =>
    exact (ends_proposeAction hkeyed _ _ _ _ _ _ _).map _
  | approveAction proposalId approver => exact (ends_approveAction hkeyed _ _).map _
  | rejectAction proposalId reason => exact (ends_rejectAction hkeyed _ _).map _
  | releaseAction proposalId actor => exact (ends_releaseAction hkeyed _ _).map _
  | graphOp op => exact absurd rfl (hcall op)

variable (rt w) in
/-- A call has its effect, and draws what it names. -/
structure Acted (call : ActionCall) (w' : World ActionEngine) : Prop where
  effect : ActionEffect rt w call (call.event rt w) w'.self
  draws : w.env.draws ≤ w'.env.draws
  drawn : ∀ a, call.event rt w = some (.proposed a) → w.env.draws + 2 < w'.env.draws
  keyed : w'.self.graph.repo.Keyed

variable (rt str uc) in
theorem acted (hkeyed : w.self.graph.repo.Keyed) (call : ActionCall) :
    Acted rt w call (actionStep rt str uc call w) := by
  have hcalled (hcall : ∀ op, call ≠ .graphOp op) : Acted rt w call (actionStep rt str uc call w) := by
    have hends := ends_call rt str uc hkeyed _ hcall
    rw [actionStep, after]
    cases hrun : (call.call rt str uc).run w with
    | error e v =>
      rw [hrun] at hends
      cases hends with
      | refused hevent e k =>
        exact ⟨hevent ▸ .refused call, Nat.le_add_right _ _, fun a ha => by simp [hevent] at ha,
          hkeyed⟩
    | ok a v =>
      rw [hrun] at hends
      cases hends with
      | done hevent _ _ heffect hdraws hdrawn hkeyed' =>
        refine ⟨hevent ▸ heffect, hdraws, ?_, hkeyed'⟩
        intro b hb
        rw [hevent] at hb
        exact hdrawn b (Option.some.inj hb)
  cases call with
  | graphOp op =>
    have hkeyed' := @keyed_serviceStep rt uc ⟨w.self.graph, w.env⟩ hkeyed op
    obtain ⟨k, -, raised, s, hleads, -⟩ := outcome_call rt uc (w := ⟨w.self.graph, w.env⟩) hkeyed op
    rw [actionStep, ActionCall.call, after_on]
    refine ⟨.graphOp, ?_, fun a ha => (by cases ha), hkeyed'⟩
    rw [hleads.self_after]
    exact Nat.le_add_right _ _
  | proposeAction _ _ _ _ _ _ _ => exact hcalled (by simp)
  | approveAction _ _ => exact hcalled (by simp)
  | rejectAction _ _ => exact hcalled (by simp)
  | releaseAction _ _ => exact hcalled (by simp)

end Steps
end Action
end ControlFabric.Fabric
