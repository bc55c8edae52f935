import ControlFabric.Action.PolicySteps
import ControlFabric.Action.Steps
import ControlFabric.Validation.Eligible

/-! The life of an action in both engines. Neither asks for the status when it approves or rejects,
so that a released action can be decided and released once more. -/
namespace ControlFabric.Fabric.Action
open Lib Py Method Validation

/-! ### What the engines say of an action -/

def W3ActionExecutionMode.mode : W3ActionExecutionMode → Lifecycle.Mode
  | dryRun => .dryRun
  | approvalGated => .gated
  | deterministicAutoRelease => .auto

def W3ActionStatus.phase : W3ActionStatus → Lifecycle.Phase
  | proposed | validationPending | validated | pendingApproval => .waiting
  | approved => .approved
  | released => .released
  | rejected => .rejected

def W3ActionProposal.action (p : W3ActionProposal) : Lifecycle.Action :=
  ⟨p.executionMode.mode, p.status.phase⟩

def w3View (w : World W3ActionPolicyEngine) (actionId : String) : Option Lifecycle.Action :=
  (w.self.proposals.get? actionId).map W3ActionProposal.action

def ActionMode.kind : ActionMode → Lifecycle.Mode
  | dryRun => .dryRun
  | approvalGated => .gated
  | autoRelease => .auto

def ActionStatus.phase : ActionStatus → Lifecycle.Phase
  | proposed | validated | pendingApproval | executed | failed | dryRunComplete => .waiting
  | approved => .approved
  | released => .released
  | rejected => .rejected

def ActionProposal.action (p : ActionProposal) : Lifecycle.Action := ⟨p.mode.kind, p.status.phase⟩

def actionView (w : World ActionEngine) (proposalId : String) : Option Lifecycle.Action :=
  (w.self.proposals.get? proposalId).map ActionProposal.action

/-! ### Each step moves one action -/

/-- Changing a stored proposal moves its action and no other. -/
theorem moves_set {P : Type} {look : P → Lifecycle.Action} {proposals : Dict String P} {p p' : P}
    {e : Lifecycle.Event String} {b : String} (hb : e.subject = b)
    (hstored : proposals.get? b = some p)
    (h : Lifecycle.Moves b (some e) (some (look p)) (some (look p'))) (a : String) :
    Lifecycle.Moves a (some e) ((proposals.get? a).map look)
      (((proposals.set b p').get? a).map look) := by
  by_cases ha : a = b
  · rw [ha, Dict.get?_set_self, hstored]
    exact h
  · rw [Dict.get?_set_of_ne ha]
    exact .off (by rwa [hb]) _

section PolicyEngine
variable {rt : Runtime} {str : Json → String}

theorem initialStatus_waiting (mode : W3ActionExecutionMode) :
    (W3ActionPolicyEngine.initialStatus mode).phase = .waiting := by
  cases mode <;> rfl

theorem w3_moves (w : World W3ActionPolicyEngine) (call : W3ActionCall) (a : String)
    (hnew : call.event rt w = some (.proposed a) → w3View w a = none) :
    Lifecycle.Moves a (call.event rt w) (w3View w a) (w3View (w3Step rt str call w) a) := by
  have heffect := (stepped rt str w call).effect
  generalize call.event rt w = e at hnew heffect
  rw [show w3View (w3Step rt str call w) a =
    ((w3Step rt str call w).self.proposals.get? a).map W3ActionProposal.action from rfl]
  generalize (w3Step rt str call w).self.proposals = proposals at heffect
  generalize (w3Step rt str call w).self.releases = releases at heffect
  cases heffect with
  | refused _ => exact .idle _
  | @proposed tenantId actionType targetObjectIds result mode parameters description _ =>
    by_cases ha : a = rt.uuid4 w.env.draws
    · rw [hnew (by rw [ha]), ha, Dict.get?_set_self]
      have hwaiting : W3ActionProposal.action (W3ActionPolicyEngine.newProposal rt str
          (rt.uuid4 w.env.draws) tenantId actionType targetObjectIds result mode parameters
          description ((W3ActionPolicyEngine.resolveObjects w.self.graph targetObjectIds).flatMap
            ControlObject.evidence)) = ⟨mode.mode, .waiting⟩ := by
        rw [← initialStatus_waiting mode]
        rfl
      rw [Option.map_some, hwaiting]
      exact .proposed _
    · rw [Dict.get?_set_of_ne ha]
      exact .off ha _
  | @approved actionId _ p hstored hmode =>
    apply moves_set (b := actionId) rfl hstored
    simp only [W3ActionProposal.action, hmode]
    exact .approved _
  | @rejected actionId _ p hstored =>
    apply moves_set (b := actionId) rfl hstored
    exact .rejected _ _
  | @released actionId _ p _ _ _ hstored hreleasable _ _ _ =>
    apply moves_set (b := actionId) rfl hstored
    obtain ⟨-, ⟨hmode, hstatus⟩ | ⟨hmode, hstatus⟩⟩ := W3ActionProposal.isReleasable_iff.mp hreleasable
    · simp only [W3ActionProposal.action, hmode, hstatus]
      exact .releasedGated
    · simp only [W3ActionProposal.action, hmode, hstatus]
      exact .releasedAuto

variable (rt str) in
theorem w3_draws : Lifecycle.Draws (w3Step rt str) (fun call w => call.event rt w) w3View
    (fun _ => True) (fun w => w.env.draws) rt.uuid4 where
  keeps _ _ _ := trivial
  draws_le w call _ := (stepped rt str w call).draws
  drawn w call a _ hevent := by
    refine ⟨w.env.draws, le_rfl, (stepped rt str w call).drawn a hevent, ?_⟩
    cases call with
    | proposeAction _ _ targetObjectIds result _ _ _ =>
      by_cases hadmits : admits w.self targetObjectIds result = true
      · simpa [W3ActionCall.event, hadmits, eq_comm] using hevent
      · simp [W3ActionCall.event, hadmits] at hevent
    | approveAction _ _ | rejectAction _ _ | releaseAction _ _ =>
      simp only [W3ActionCall.event] at hevent
      split at hevent <;> simp at hevent
    | graphChanged _ => cases hevent
  moves w call a _ hnew := w3_moves w call a hnew

end PolicyEngine

section Engine
variable {rt : Runtime} {str : Json → String} {uc : Unicode}

theorem initialStatus_kind (mode : ActionMode) :
    (ActionEngine.initialStatus mode).phase = .waiting := by
  cases mode <;> rfl

theorem action_moves {w : World ActionEngine} (hkeyed : w.self.graph.repo.Keyed) (call : ActionCall)
    (a : String) (hnew : call.event rt w = some (.proposed a) → actionView w a = none) :
    Lifecycle.Moves a (call.event rt w) (actionView w a)
      (actionView (actionStep rt str uc call w) a) := by
  have heffect := (acted rt str uc hkeyed call).effect
  generalize call.event rt w = e at hnew heffect
  rw [show actionView (actionStep rt str uc call w) a =
    ((actionStep rt str uc call w).self.proposals.get? a).map ActionProposal.action from rfl]
  generalize (actionStep rt str uc call w).self = e' at heffect
  cases heffect with
  | refused _ => exact .idle _
  | graphOp => exact .idle _
  | @proposed tenantId actionType targetObjectIds mode _ description _ manifest result _ _ =>
    by_cases ha : a = rt.uuid4 (w.env.draws + 2)
    · rw [hnew (by rw [ha]), ha, ActionEngine.storeProposal, Dict.get?_set_self]
      have hwaiting : ActionProposal.action (ActionEngine.newProposal rt (w.env.draws + 2) tenantId
          actionType (ActionEngine.targetObjects w.self.graph targetObjectIds) mode manifest result
          description) = ⟨mode.kind, .waiting⟩ := by
        rw [← initialStatus_kind mode]
        rfl
      rw [Option.map_some, hwaiting]
      exact .proposed _
    · rw [ActionEngine.storeProposal, Dict.get?_set_of_ne ha]
      exact .off ha _
  | @approved proposalId _ p hstored hmode =>
    apply moves_set (b := proposalId) rfl hstored
    simp only [ActionProposal.action, hmode]
    exact .approved _
  | @rejected proposalId _ p hstored =>
    apply moves_set (b := proposalId) rfl hstored
    exact .rejected _ _
  | @released proposalId _ p _ _ hstored hreleasable _ =>
    apply moves_set (b := proposalId) rfl hstored
    obtain ⟨-, ⟨hmode, hstatus⟩ | ⟨hmode, hstatus⟩⟩ := ActionProposal.isReleasable_iff.mp hreleasable
    · simp only [ActionProposal.action, hmode, hstatus]
      exact .releasedGated
    · simp only [ActionProposal.action, hmode, hstatus]
      exact .releasedAuto

variable (rt str uc) in
theorem action_draws : Lifecycle.Draws (actionStep rt str uc) (fun call w => call.event rt w)
    actionView (fun w => w.self.graph.repo.Keyed) (fun w => w.env.draws) rt.uuid4 where
  keeps w call hkeyed := (acted rt str uc hkeyed call).keyed
  draws_le w call hkeyed := (acted rt str uc hkeyed call).draws
  drawn w call a hkeyed hevent := by
    refine ⟨w.env.draws + 2, Nat.le_add_right _ _, (acted rt str uc hkeyed call).drawn a hevent, ?_⟩
    cases call with
    | proposeAction _ _ targetObjectIds _ _ _ context =>
      by_cases hvalidates : w.self.validates targetObjectIds context = true
      · simpa [ActionCall.event, hvalidates, eq_comm] using hevent
      · simp [ActionCall.event, hvalidates] at hevent
    | approveAction _ _ | rejectAction _ _ | releaseAction _ _ =>
      simp only [ActionCall.event] at hevent
      split at hevent <;> simp at hevent
    | graphOp _ => cases hevent
  moves _ call a hkeyed hnew := action_moves hkeyed call a hnew

end Engine

theorem keyed_empty : InMemoryGraphRepository.empty.Keyed := by
  intro id obj hget
  cases hget

/-! ### Runs -/

/-- In both engines a run keeps to the law as long as it neither approves a released or rejected
action nor rejects a released one. -/
theorem actions_lawful (rt : Runtime) (str : Json → String) (uc : Unicode) :
    (∀ graph policy listeners env calls,
      Set.InjOn rt.uuid4 (Set.Iio
        (w3Run rt str ⟨.new graph policy listeners, env⟩ calls).env.draws) →
      Conforms (w3Step rt str) (Lifecycle.Undecided (fun call w => call.event rt w) w3View)
        ⟨.new graph policy listeners, env⟩ calls →
      Lifecycle.Lawful (w3Step rt str) (fun call w => call.event rt w) w3View
        ⟨.new graph policy listeners, env⟩ calls) ∧
    ∀ policy checker listeners validation env calls,
      Set.InjOn rt.uuid4 (Set.Iio (actionRun rt str uc
        ⟨.new (.new policy checker listeners) validation, env⟩ calls).env.draws) →
      Conforms (actionStep rt str uc) (Lifecycle.Undecided (fun call w => call.event rt w) actionView)
        ⟨.new (.new policy checker listeners) validation, env⟩ calls →
      Lifecycle.Lawful (actionStep rt str uc) (fun call w => call.event rt w) actionView
        ⟨.new (.new policy checker listeners) validation, env⟩ calls := by
  constructor
  · intro graph policy listeners env calls huuid hundecided
    exact (w3_draws rt str).lawful trivial (fun _ => rfl) huuid hundecided
  · intro policy checker listeners validation env calls huuid hundecided
    exact (action_draws rt str uc).lawful keyed_empty (fun _ => rfl) huuid hundecided

/-! ### A second release -/

/-- A result of the validation chain on the obligation. -/
def obligationResult : ValidationExecutionResult where
  run := { id := "run", chainId := "w3-control-chain", tenantId := "acme", status := .passed,
           context := (requestOf "acme" ["obligation"]).context }
  report := { id := "report", runId := "run", chainId := "w3-control-chain", tenantId := "acme",
              decision := .eligible, reportHash := "hash" }
  decision := .eligible

def obligationEngine : World W3ActionPolicyEngine :=
  ⟨.new (InMemoryGraphRepository.empty.storeObject clauseObligation) {} [], Env.initial "acme"⟩

/-- The name of the action that the first call proposes. -/
def firstAction : String := Runtime.reference.uuid4 0

def gatedRelease : List W3ActionCall :=
  [.proposeAction "acme" .creditNote ["obligation"] obligationResult .approvalGated none "",
    .approveAction firstAction "bob", .releaseAction firstAction "bob"]

/-- A service without listeners, under the chain with the default rules. -/
def defaultEngine : World ActionEngine :=
  ⟨.new (.new ⟨none⟩ (fun _ _ => ⟨true, 0, 0⟩) []) ⟨defaultValidationRules (fun _ => "") .ascii⟩,
    .initial "acme"⟩

def obligationCreate : ControlObjectCreate where
  objectType := .obligation
  plane := .commercial
  domain := "contract_margin"
  label := "Monthly report"
  evidence := clauseObligation.evidence

/-- An object is created under the first name, and an action proposed on it under another. -/
def createAndPropose (mode : ActionMode) : List ActionCall :=
  [.graphOp (.createObject "acme" obligationCreate "ada" true),
    .proposeAction "acme" .creditNote [Runtime.reference.uuid4 0] mode none "" none]

def secondAction : String := Runtime.reference.uuid4 7

def automaticRelease : List ActionCall :=
  createAndPropose .autoRelease ++ [.releaseAction secondAction "bob"]

theorem actions_lawful_runs :
    Lifecycle.Lawful (w3Step .reference fun _ => "") (fun call w => call.event .reference w) w3View
      obligationEngine gatedRelease ∧
    Lifecycle.Lawful (actionStep .reference (fun _ => "") .ascii)
      (fun call w => call.event .reference w) actionView defaultEngine automaticRelease := by
  obtain ⟨hw3, hengine⟩ := actions_lawful .reference (fun _ => "") .ascii
  constructor
  · apply hw3
    · apply Runtime.reference_uuid4.mono
      apply Set.Iio_subset_Iio
      decide +kernel
    · decide +kernel
  · apply hengine
    · apply Runtime.reference_uuid4.mono
      apply Set.Iio_subset_Iio
      decide +kernel
    · decide +kernel

/-- An action is released again when it is approved again; one that is rejected is released after it
is approved. -/
theorem decided_anew :
    ¬ Lifecycle.Lawful (w3Step .reference fun _ => "") (fun call w => call.event .reference w)
      w3View obligationEngine (gatedRelease ++
        [.approveAction firstAction "bob", .releaseAction firstAction "bob"]) ∧
    ¬ Lifecycle.Lawful (actionStep .reference (fun _ => "") .ascii)
      (fun call w => call.event .reference w) actionView defaultEngine
      (createAndPropose .approvalGated ++ [.rejectAction secondAction "", .approveAction secondAction
        "bob", .releaseAction secondAction "bob"]) := by
  constructor
  · intro h
    have hfirst : (W3ActionCall.releaseAction firstAction "bob").event .reference
        (w3Run .reference (fun _ => "") obligationEngine (gatedRelease.take 2)) =
          some (.released firstAction) := by decide +kernel
    apply h.once firstAction (gatedRelease.take 2) (.releaseAction firstAction "bob")
      [.approveAction firstAction "bob"] (.releaseAction firstAction "bob") [] rfl hfirst
    decide +kernel
  · intro h
    apply h.rejected secondAction (createAndPropose .approvalGated ++ [.rejectAction secondAction ""])
      [.approveAction secondAction "bob"] (.releaseAction secondAction "bob") [] rfl
    · exact ⟨.gated, by decide +kernel⟩
    · decide +kernel

end ControlFabric.Fabric.Action

/-! What a release of the action engine goes by, and what it changes. The chain is run when an
action is proposed and not again when it is released. -/
namespace ControlFabric.Fabric.Action
open Lib Py Method Validation ActionEngine

variable {rt : Runtime} {str : Json → String} {uc : Unicode}

/-- The call proposes the action, on targets with these identifiers, which pass the chain at that
time. -/
def ValidatedAt (rt : Runtime) (w : World ActionEngine) (call : ActionCall) (proposalId : String)
    (targetIds : List String) : Prop :=
  call.event rt w = some (.proposed proposalId) ∧
    ∃ tenantId actionType targetObjectIds mode parameters description context,
      call = .proposeAction tenantId actionType targetObjectIds mode parameters description context ∧
        targetIds = (targetObjects w.self.graph targetObjectIds).map ControlObject.id ∧
        w.self.validation.Passes (targetObjects w.self.graph targetObjectIds) w.self.graph.repo
          (context.getD [])

/-- The targets in the manifest of a stored proposal. -/
def Targets (w : World ActionEngine) (b : String × List String) : Prop :=
  ∃ p, w.self.proposals.get? b.1 = some p ∧ p.manifest.targetObjectIds = b.2

/-- A proposal that is changed in place keeps its targets. -/
theorem targets_of_changed {w : World ActionEngine} {b : String × List String} {proposalId : String}
    {p p' q : ActionProposal} (hstored : w.self.proposals.get? proposalId = some p)
    (hq : (w.self.proposals.set proposalId p').get? b.1 = some q ∧
      q.manifest.targetObjectIds = b.2) (hmanifest : p'.manifest = p.manifest) : Targets w b := by
  obtain ⟨hget, htargets⟩ := hq
  rw [Dict.get?_set] at hget
  by_cases hid : b.1 = proposalId
  · rw [if_pos hid] at hget
    obtain rfl := Option.some.inj hget
    exact ⟨p, hid ▸ hstored, hmanifest ▸ htargets⟩
  · rw [if_neg hid] at hget
    exact ⟨q, hget, htargets⟩

/-- Only a proposal whose targets pass the chain brings new ones. -/
theorem targets_step (w : World ActionEngine) (call : ActionCall) (b : String × List String)
    (hkeyed : w.self.graph.repo.Keyed) (h : Targets (actionStep rt str uc call w) b) :
    Targets w b ∨ ValidatedAt rt w call b.1 b.2 := by
  have heffect := (acted rt str uc hkeyed call).effect
  unfold Targets at h
  unfold ValidatedAt
  generalize call.event rt w = e at heffect ⊢
  generalize (actionStep rt str uc call w).self = e' at heffect h
  obtain ⟨q, hq⟩ := h
  cases heffect with
  | refused _ | graphOp => exact Or.inl ⟨q, hq⟩
  | @proposed tenantId actionType targetObjectIds mode parameters description context manifest result
      hvalidates hmanifest =>
    obtain ⟨hget, htargets⟩ := hq
    rw [storeProposal, Dict.get?_set] at hget
    by_cases hid : b.1 = rt.uuid4 (w.env.draws + 2)
    · rw [if_pos hid] at hget
      obtain rfl := Option.some.inj hget
      simp only [ActionEngine.validates, decide_eq_true_iff] at hvalidates
      exact Or.inr ⟨by rw [hid], tenantId, actionType, targetObjectIds, mode, parameters, description,
        context, rfl, htargets.symm.trans hmanifest, hvalidates.2.2⟩
    · rw [if_neg hid] at hget
      exact Or.inl ⟨q, hget, htargets⟩
  | approved hstored _ | rejected hstored | released hstored _ _ =>
    exact Or.inl (targets_of_changed hstored hq rfl)

/-- A release returns when its proposal is releasable and otherwise raises; it marks the targets, or
leaves the engine as it is. -/
theorem releaseAction_returns_iff {w : World ActionEngine} (hkeyed : w.self.graph.repo.Keyed)
    (proposalId actor : String) :
    (((ActionCall.releaseAction proposalId actor).call rt str uc).returns w = true ∧
        ∃ p, w.self.proposals.get? proposalId = some p ∧
          Marked p.manifest.targetObjectIds w.self.graph
            (actionStep rt str uc (.releaseAction proposalId actor) w).self.graph) ∨
      ((ActionCall.releaseAction proposalId actor).call rt str uc).returns w = false ∧
        (actionStep rt str uc (.releaseAction proposalId actor) w).self = w.self := by
  have hends := ends_call rt str uc hkeyed (.releaseAction proposalId actor) (by simp)
  rw [returns, actionStep, after]
  cases hrun : ((ActionCall.releaseAction proposalId actor).call rt str uc).run w with
  | error e v =>
    rw [hrun] at hends
    cases hends with
    | refused _ _ k => exact Or.inr ⟨rfl, rfl⟩
  | ok a v =>
    rw [hrun] at hends
    cases hends with
    | done _ _ _ heffect _ _ _ =>
      refine Or.inl ⟨rfl, ?_⟩
      dsimp only
      generalize v.self = e' at heffect
      cases heffect with
      | released hstored _ hmarked => exact ⟨_, hstored, hmarked⟩

/-! ### Releases over runs -/

variable (rt str uc) in
/-- A release that returns has targets that passed the chain when this action was proposed; it makes
the reconciled ones of them actioned, and changes nothing else of the graph. A release that raises
changes nothing. -/
theorem release_validated_when_proposed (policy : GraphPolicyEngine)
    (checker : GraphConsistencyChecker) (listeners : List FabricAuditListener)
    (validation : ValidationChain) (env : Env) (calls : List ActionCall)
    (proposalId actor : String) :
    let w₀ : World ActionEngine := ⟨.new (.new policy checker listeners) validation, env⟩
    let w := actionRun rt str uc w₀ calls
    let release := ActionCall.releaseAction proposalId actor
    (((release.call rt str uc).returns w = true ∧ ∃ p, w.self.proposals.get? proposalId = some p ∧
        (∃ before call after, calls = before ++ call :: after ∧
          ValidatedAt rt (actionRun rt str uc w₀ before) call proposalId
            p.manifest.targetObjectIds) ∧
        Marked p.manifest.targetObjectIds w.self.graph (actionStep rt str uc release w).self.graph) ∨
      (release.call rt str uc).returns w = false ∧ (actionStep rt str uc release w).self = w.self) := by
  intro w₀ w release
  have hkeyed : w.self.graph.repo.Keyed :=
    run_invariant (actionStep rt str uc) (I := fun w => w.self.graph.repo.Keyed)
      (fun call _ w hw => (acted rt str uc hw call).keyed) keyed_empty
  rcases releaseAction_returns_iff hkeyed proposalId actor with ⟨hreturns, p, hstored, hmarked⟩ | h
  · refine Or.inl ⟨hreturns, p, hstored, ?_, hmarked⟩
    apply origin_run (actionStep rt str uc) (K := fun w => w.self.graph.repo.Keyed) (H := Targets)
      (Q := fun w call b => ValidatedAt rt w call b.1 b.2) (b := (proposalId, p.manifest.targetObjectIds))
      (fun w call hw => (acted rt str uc hw call).keyed)
      (fun w call b hw => targets_step w call b hw) keyed_empty
    · exact ⟨p, hstored, rfl⟩
    · rintro b ⟨q, hq, -⟩
      cases hq
  · exact Or.inr h

/-- An action is proposed on an object that is disputed before the release. -/
def disputedMeanwhile : List ActionCall :=
  createAndPropose .autoRelease ++
    [.graphOp (.freezeObject (Runtime.reference.uuid4 0) "eve"),
      .graphOp (.transitionObject (Runtime.reference.uuid4 0) .disputed "eve" none)]

/-- The engine once the object is disputed. -/
def disputedNow : World ActionEngine :=
  actionRun .reference (fun _ => "") .ascii defaultEngine disputedMeanwhile

/-- It is released all the same, on a target that would fail the chain now. -/
theorem disputedMeanwhile_released :
    ((ActionCall.releaseAction secondAction "bob").call .reference (fun _ => "") .ascii).returns
        disputedNow = true ∧
      ¬ disputedNow.self.validation.Passes (targetObjects disputedNow.self.graph
        [Runtime.reference.uuid4 0]) disputedNow.self.graph.repo [] := by
  constructor
  · decide +kernel
  · decide +kernel

end ControlFabric.Fabric.Action
