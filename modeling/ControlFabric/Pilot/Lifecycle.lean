import ControlFabric.Pilot.Cases
import ControlFabric.Lib.Run

/-! What a call does to the pilot cases, and what therefore holds in every run: the timeline of a
case replays to its state, a case is exported only after it was prepared and decided, and what the
approval service keeps are the decisions of the timelines. -/
namespace ControlFabric.Pilot
open Lib Py CaseMethod

/-- The three decisions of the approval service. -/
inductive DecisionKind where
  | approval
  | override
  | escalation
  deriving DecidableEq

def DecisionKind.target : DecisionKind → PilotCaseState
  | approval => .approved
  | override => .overridden
  | escalation => .escalated

/-- Who decided and why. -/
structure Decision where
  actorId : String
  reason : String
  deriving DecidableEq

def Approval.decision (a : Approval) : Decision := ⟨a.approvedBy, a.reasoning⟩

def Override.decision (o : Override) : Decision :=
  ⟨o.overriddenBy, s!"{o.overrideReason.value}: {o.overrideDetail}"⟩

def Escalation.decision (e : Escalation) : Decision := ⟨e.escalatedBy, e.escalationReason⟩

/-- What the approval service keeps of the decisions about a case. -/
def ApprovalService.decisions (s : ApprovalService) (caseId : String) :
    DecisionKind → List Decision
  | .approval => (s.approvals.getD caseId []).map Approval.decision
  | .override => (s.overrides.getD caseId []).map Override.decision
  | .escalation => (s.escalations.getD caseId []).map Escalation.decision

/-- The reviewers a timeline names. -/
def reviewersOf (entries : List TimelineEntry) : List String :=
  entries.filterMap fun e =>
    if e.eventType = "reviewer_assigned" then
      match Json.field e.details "reviewer_id" with
      | some (.str reviewerId) => some reviewerId
      | _ => none
    else none

/-- Entries that name no state. -/
def Stateless (entries : List TimelineEntry) : Prop :=
  ∀ e ∈ entries, e.fromState = none ∧ e.toState = none

/-- A case has gone to another state. -/
structure Moved (w w' : World ApprovalService) (caseId : String) (case : PilotCase)
    (target : PilotCaseState) (actorId : String) (reason : Option String)
    (metadata : Option JsonDict) : Prop where
  draws : w.env.draws ≤ w'.env.draws
  stored : w.self.caseService.cases.get? caseId = some case
  allowed : target ∈ case.state.validTransitions
  change : ∃ now,
    w'.self.caseService.cases =
      w.self.caseService.cases.set caseId { case with state := target, updatedAt := now } ∧
    w'.self.caseService.getTimeline = Function.update w.self.caseService.getTimeline caseId
      (w.self.caseService.getTimeline caseId ++
        [PilotCaseService.transitionEntry case.state target actorId reason metadata now])

/-- A case moved by a call of the case service itself, not by a decision. -/
structure DirectMove where
  caseId : String
  target : PilotCaseState
  actorId : String
  reason : Option String
  metadata : Option JsonDict

def directMoves (rt : Runtime) (call : CaseCall) (w : World ApprovalService) : List DirectMove :=
  match call, (call.perform rt).run w with
  | .transitionState caseId targetState actorId reason metadata, .ok _ _ =>
    [⟨caseId, targetState, actorId, reason, metadata⟩]
  | _, _ => []

/-- What a call may do to the cases, their timelines and the decisions kept. -/
inductive CaseEffect (rt : Runtime) (w w' : World ApprovalService) : List DirectMove → Prop where
  | raised (h : w' = w) : CaseEffect rt w w' []
  | created (data : PilotCaseCreate) (creatorId : String) (now : DateTime) (case : PilotCase)
      (hdraws : w.env.draws < w'.env.draws) (hstate : case.state = .created)
      (hreviewer : case.assignedReviewerId = none)
      (hcases : w'.self.caseService.cases =
        w.self.caseService.cases.set (rt.uuid4 w.env.draws) case)
      (htimeline : w'.self.caseService.getTimeline = Function.update
        w.self.caseService.getTimeline (rt.uuid4 w.env.draws)
        [PilotCaseService.createdEntry data creatorId now])
      (hdecisions : w'.self.decisions = w.self.decisions) : CaseEffect rt w w' []
  | noted (caseId : String) (case new : PilotCase) (entries : List TimelineEntry)
      (hdraws : w.env.draws ≤ w'.env.draws)
      (hcase : w.self.caseService.cases.get? caseId = some case) (hstate : new.state = case.state)
      (hreviewer : new.assignedReviewerId =
        (reviewersOf entries).getLast?.or case.assignedReviewerId)
      (hentries : Stateless entries)
      (hcases : w'.self.caseService.cases = w.self.caseService.cases.set caseId new)
      (htimeline : w'.self.caseService.getTimeline = Function.update
        w.self.caseService.getTimeline caseId (w.self.caseService.getTimeline caseId ++ entries))
      (hdecisions : w'.self.decisions = w.self.decisions) : CaseEffect rt w w' []
  | moved (caseId : String) (case : PilotCase) (target : PilotCaseState) (actorId : String)
      (reason : Option String) (metadata : Option JsonDict)
      (hmoved : Moved w w' caseId case target actorId reason metadata)
      (hdecisions : w'.self.decisions = w.self.decisions) :
      CaseEffect rt w w' [⟨caseId, target, actorId, reason, metadata⟩]
  | decided (kind : DecisionKind) (caseId : String) (case : PilotCase) (actorId text : String)
      (hmoved : Moved w w' caseId case kind.target actorId (some text) none)
      (hdecisions : w'.self.decisions = Function.update w.self.decisions caseId
        (Function.update (w.self.decisions caseId) kind
          (w.self.decisions caseId kind ++ [⟨actorId, text⟩]))) : CaseEffect rt w w' []

section Steps
variable {rt : Runtime}

theorem getTimeline_set (s : PilotCaseService) (caseId : String) (entries : List TimelineEntry) :
    PilotCaseService.getTimeline { s with transitions := s.transitions.set caseId entries } =
      Function.update s.getTimeline caseId entries := by
  funext id
  unfold PilotCaseService.getTimeline
  rw [Dict.getD_set, Function.update_apply]

theorem findCase_cases (caseId : String) (w : World PilotCaseService) :
    (∃ e, (PilotCaseService.findCase caseId).run w = .error e w) ∨
      ∃ case, w.self.cases.get? caseId = some case ∧
        (PilotCaseService.findCase caseId).run w = .ok case w := by
  simp only [PilotCaseService.findCase, EStateM.run_bind, run_self]
  cases w.self.cases.get? caseId with
  | none => exact Or.inl ⟨_, rfl⟩
  | some case => exact Or.inr ⟨case, rfl, rfl⟩

variable (rt) in
theorem transition_of_allowed {σ : Type} {fromState toState : PilotCaseState}
    (h : toState ∈ fromState.validTransitions) (actorId : String) (reason : Option String)
    (metadata : Option JsonDict) (w : World σ) : ∃ result,
      (CaseStateMachineService.transition rt fromState toState actorId reason metadata).run w =
        .ok result ⟨w.self, w.env.tick 2⟩ := by
  have hvalid : CaseStateMachineService.validateTransition fromState toState := decide_eq_true h
  unfold CaseStateMachineService.transition
  rw [if_neg (not_not.mpr hvalid)]
  exact ⟨_, rfl⟩

theorem transition_of_not_allowed {σ : Type} {fromState toState : PilotCaseState}
    (h : toState ∉ fromState.validTransitions) (actorId : String) (reason : Option String)
    (metadata : Option JsonDict) (w : World σ) :
    (CaseStateMachineService.transition rt fromState toState actorId reason metadata).run w =
      .error (.invalidTransitionError fromState toState) w := by
  simp [CaseStateMachineService.transition, CaseStateMachineService.validateTransition, h]

variable (rt) in
/-- A case goes where the state machine lets it go; otherwise nothing changes. -/
theorem transitionState_cases (caseId : String) (target : PilotCaseState)
    (actorId : String) (reason : Option String) (metadata : Option JsonDict)
    (w : World PilotCaseService) :
    (∃ e, (PilotCaseService.transitionState rt caseId target actorId reason metadata).run w =
        .error e w) ∨
      ∃ case now result, w.self.cases.get? caseId = some case ∧
        target ∈ case.state.validTransitions ∧
        (PilotCaseService.transitionState rt caseId target actorId reason metadata).run w =
          .ok result ⟨PilotCaseService.record caseId
            (PilotCaseService.transitionEntry case.state target actorId reason metadata now)
            (PilotCaseService.putCase caseId { case with state := target, updatedAt := now } w.self),
            w.env.tick 3⟩ := by
  simp only [PilotCaseService.transitionState, EStateM.run_bind]
  rcases findCase_cases caseId w with ⟨e, he⟩ | ⟨case, hcase, hfound⟩
  · rw [he]
    exact Or.inl ⟨e, rfl⟩
  · rw [hfound]
    dsimp only
    by_cases hallowed : target ∈ case.state.validTransitions
    · obtain ⟨result, hresult⟩ := transition_of_allowed rt hallowed actorId reason metadata w
      rw [hresult]
      exact Or.inr ⟨case, rt.now (w.env.draws + 2), result, hcase, hallowed, rfl⟩
    · rw [transition_of_not_allowed hallowed actorId reason metadata w]
      exact Or.inl ⟨_, rfl⟩

/-- What the case service does is what the approval service has done by it. -/
theorem run_onCases {α : Type} (m : CaseMethod PilotCaseService α) (w : World ApprovalService) :
    (ApprovalService.onCases m).run w = match m.run ⟨w.self.caseService, w.env⟩ with
      | .ok a v => .ok a ⟨{ w.self with caseService := v.self }, v.env⟩
      | .error e v => .error e ⟨{ w.self with caseService := v.self }, v.env⟩ := by
  rw [ApprovalService.onCases, run_on]
  cases m.run ⟨w.self.caseService, w.env⟩ <;> rfl

theorem run_onCases_ok {α : Type} {m : CaseMethod PilotCaseService α} {w : World ApprovalService}
    {a : α} {s : PilotCaseService} {env : Env} (h : m.run ⟨w.self.caseService, w.env⟩ = .ok a ⟨s, env⟩) :
    (ApprovalService.onCases m).run w = .ok a ⟨{ w.self with caseService := s }, env⟩ := by
  rw [run_onCases, h]

theorem run_onCases_error {α : Type} {m : CaseMethod PilotCaseService α}
    {w : World ApprovalService} {e : CaseError}
    (h : m.run ⟨w.self.caseService, w.env⟩ = .error e ⟨w.self.caseService, w.env⟩) :
    (ApprovalService.onCases m).run w = .error e w := by
  rw [run_onCases, h]

theorem getTimeline_record (caseId : String) (entry : TimelineEntry) (s : PilotCaseService) :
    (PilotCaseService.record caseId entry s).getTimeline =
      Function.update s.getTimeline caseId (s.getTimeline caseId ++ [entry]) :=
  getTimeline_set s caseId _

variable (rt) in
/-- The case service moves a case of the approval service, or nothing changes. -/
theorem onCases_transitionState (w : World ApprovalService) (caseId : String)
    (target : PilotCaseState) (actorId : String) (reason : Option String)
    (metadata : Option JsonDict) :
    (∃ e, (ApprovalService.onCases (PilotCaseService.transitionState rt caseId target actorId reason
        metadata)).run w = .error e w) ∨
      ∃ case result w', Moved w w' caseId case target actorId reason metadata ∧
        w'.self.decisions = w.self.decisions ∧
        (ApprovalService.onCases (PilotCaseService.transitionState rt caseId target actorId reason
          metadata)).run w = .ok result w' := by
  rcases transitionState_cases rt caseId target actorId reason metadata
    ⟨w.self.caseService, w.env⟩ with ⟨e, he⟩ | ⟨case, now, result, hcase, hallowed, hrun⟩
  · exact Or.inl ⟨e, run_onCases_error he⟩
  · refine Or.inr ⟨case, result, _, ?_, ?_, run_onCases_ok hrun⟩
    · exact ⟨Nat.le_add_right _ _, hcase, hallowed, now, rfl, getTimeline_record caseId _ _⟩
    · rfl

theorem map_getD_append {β γ : Type} (f : β → γ) (d : Dict String (List β)) (key id : String)
    (b : β) : ((d.set key (d.getD key [] ++ [b])).getD id []).map f =
      Function.update (fun id => (d.getD id []).map f) key ((d.getD key []).map f ++ [f b]) id := by
  rw [Dict.getD_set, Function.update_apply]
  split <;> simp

/-- A decision appended to what is kept of its kind. -/
theorem decisions_append {s s' : ApprovalService} {caseId : String} {kind : DecisionKind}
    {d : Decision}
    (hsame : ∀ id k, k ≠ kind → s'.decisions id k = s.decisions id k)
    (hkind : ∀ id, s'.decisions id kind = Function.update (fun id => s.decisions id kind) caseId
      (s.decisions caseId kind ++ [d]) id) :
    s'.decisions = Function.update s.decisions caseId
      (Function.update (s.decisions caseId) kind (s.decisions caseId kind ++ [d])) := by
  funext id k
  by_cases hk : k = kind
  · subst hk
    rw [hkind, Function.update_apply, Function.update_apply]
    split <;> simp
  · rw [hsame id k hk, Function.update_apply]
    split
    next h => rw [Function.update_of_ne hk, h]
    next => rfl

/-- A decision is kept only when the case could be moved. -/
theorem decided_effect {α : Type} {keep : CaseMethod ApprovalService α} (kind : DecisionKind)
    (w : World ApprovalService) (caseId actorId text : String)
    (hkeep : ∀ w' : World ApprovalService, ∃ a s, keep.run w' = .ok a ⟨s, w'.env.tick 2⟩ ∧
      s.caseService = w'.self.caseService ∧
      (∀ id k, k ≠ kind → s.decisions id k = w'.self.decisions id k) ∧
      ∀ id, s.decisions id kind = Function.update (fun id => w'.self.decisions id kind) caseId
        (w'.self.decisions caseId kind ++ [⟨actorId, text⟩]) id) :
    CaseEffect rt w (after (do
      let _ ← ApprovalService.onCases (PilotCaseService.transitionState rt caseId kind.target
        actorId (some text) none)
      keep) w) [] := by
  rcases onCases_transitionState rt w caseId kind.target actorId (some text) none with
    ⟨e, he⟩ | ⟨case, result, w', hmoved, hdecisions, hrun⟩
  · rw [after_error (e := e) (v := w)]
    · exact .raised rfl
    · rw [EStateM.run_bind, he]
  · obtain ⟨a, s, hm, hcases, hother, hkept⟩ := hkeep w'
    rw [after_ok (a := a) (v := ⟨s, w'.env.tick 2⟩)]
    · refine .decided kind caseId case actorId text ?_ ?_
      · refine ⟨hmoved.draws.trans (Nat.le_add_right _ 2), hmoved.stored, hmoved.allowed, ?_⟩
        dsimp only
        rw [hcases]
        exact hmoved.change
      · rw [← hdecisions]
        exact decisions_append hother hkept
    · rw [EStateM.run_bind, hrun]
      exact hm

theorem approve_effect (w : World ApprovalService) (caseId actorId : String)
    (data : ApprovalRequest) :
    CaseEffect rt w ((ApprovalService.approve rt caseId actorId data).after w) [] := by
  refine decided_effect .approval w caseId actorId data.reasoning fun w' => ?_
  refine ⟨_, _, rfl, rfl, fun id k hk => ?_, ?_⟩
  · cases k with
    | approval => exact absurd rfl hk
    | override | escalation => rfl
  · exact fun id => map_getD_append Approval.decision _ caseId id _

theorem override_effect (w : World ApprovalService) (caseId actorId : String)
    (data : OverrideRequest) :
    CaseEffect rt w ((ApprovalService.override rt caseId actorId data).after w) [] := by
  refine decided_effect .override w caseId actorId (ApprovalService.overrideText data) fun w' => ?_
  refine ⟨_, _, rfl, rfl, fun id k hk => ?_, ?_⟩
  · cases k with
    | override => exact absurd rfl hk
    | approval | escalation => rfl
  · exact fun id => map_getD_append Override.decision _ caseId id _

theorem escalate_effect (w : World ApprovalService) (caseId actorId : String)
    (data : EscalationRequest) :
    CaseEffect rt w ((ApprovalService.escalate rt caseId actorId data).after w) [] := by
  refine decided_effect .escalation w caseId actorId data.escalationReason fun w' => ?_
  refine ⟨_, _, rfl, rfl, fun id k hk => ?_, ?_⟩
  · cases k with
    | escalation => exact absurd rfl hk
    | approval | override => rfl
  · exact fun id => map_getD_append Escalation.decision _ caseId id _

theorem after_onCases_error {α : Type} {m : CaseMethod PilotCaseService α}
    {w : World ApprovalService} {e : CaseError}
    (h : m.run ⟨w.self.caseService, w.env⟩ = .error e ⟨w.self.caseService, w.env⟩) :
    (ApprovalService.onCases m).after w = w := after_error (run_onCases_error h)

theorem after_onCases_ok {α : Type} {m : CaseMethod PilotCaseService α} {w : World ApprovalService}
    {a : α} {s : PilotCaseService} {env : Env}
    (h : m.run ⟨w.self.caseService, w.env⟩ = .ok a ⟨s, env⟩) :
    (ApprovalService.onCases m).after w = ⟨{ w.self with caseService := s }, env⟩ :=
  after_ok (run_onCases_ok h)

theorem addArtifact_effect (w : World ApprovalService) (caseId artifactType artifactId : String)
    (label : Option String) (metadata : Option JsonDict) :
    CaseEffect rt w ((ApprovalService.onCases (PilotCaseService.addArtifact rt caseId artifactType
      artifactId label metadata)).after w) [] := by
  cases hcase : w.self.caseService.cases.get? caseId with
  | none =>
    have hmem : caseId ∉ w.self.caseService.cases := Dict.get?_eq_none.mp hcase
    rw [after_onCases_error (e := .valueError s!"Case {caseId} not found")]
    · exact .raised rfl
    · simp [PilotCaseService.addArtifact, hmem]
  | some case =>
    have hmem : ¬ caseId ∉ w.self.caseService.cases := not_not.mpr (Dict.mem_of_get? hcase)
    have hrun : ∃ artifact s, (PilotCaseService.addArtifact rt caseId artifactType artifactId label
        metadata).run ⟨w.self.caseService, w.env⟩ = .ok artifact ⟨s, w.env.tick 2⟩ ∧
        s.cases = w.self.caseService.cases ∧ s.transitions = w.self.caseService.transitions := by
      simp only [PilotCaseService.addArtifact, EStateM.run_bind, run_self, if_neg hmem]
      exact ⟨_, _, rfl, rfl, rfl⟩
    obtain ⟨artifact, s, hrun, hcases, htransitions⟩ := hrun
    rw [after_onCases_ok hrun]
    refine .noted caseId case case [] (Nat.le_add_right _ _) hcase rfl rfl (by simp [Stateless]) ?_ ?_
      rfl
    · rw [Dict.set_of_get? hcase, ← hcases]
    · rw [List.append_nil, Function.update_eq_self]
      funext id
      simp only [PilotCaseService.getTimeline, htransitions]

theorem assignReviewer_effect (w : World ApprovalService) (caseId reviewerId assignedBy : String)
    (notes : Option String) :
    CaseEffect rt w ((ApprovalService.onCases (PilotCaseService.assignReviewer rt caseId reviewerId
      assignedBy notes)).after w) [] := by
  rcases findCase_cases caseId ⟨w.self.caseService, w.env⟩ with ⟨e, he⟩ | ⟨case, hcase, hfound⟩
  · rw [after_onCases_error (e := e)]
    · exact .raised rfl
    · simp only [PilotCaseService.assignReviewer, EStateM.run_bind, he]
  · have hrun : ∃ assignment s now, (PilotCaseService.assignReviewer rt caseId reviewerId assignedBy
        notes).run ⟨w.self.caseService, w.env⟩ = .ok assignment ⟨s, w.env.tick 2⟩ ∧
        s.cases = w.self.caseService.cases.set caseId { case with
          assignedReviewerId := some reviewerId, updatedAt := now } ∧
        s.getTimeline = Function.update w.self.caseService.getTimeline caseId
          (w.self.caseService.getTimeline caseId ++
            [PilotCaseService.assignedEntry reviewerId assignedBy notes now]) := by
      simp only [PilotCaseService.assignReviewer, EStateM.run_bind, hfound]
      exact ⟨_, _, _, rfl, rfl, getTimeline_record caseId _ _⟩
    obtain ⟨assignment, s, now, hrun, hcases, htimeline⟩ := hrun
    rw [after_onCases_ok hrun]
    exact .noted caseId case { case with assignedReviewerId := some reviewerId, updatedAt := now }
      [PilotCaseService.assignedEntry reviewerId assignedBy notes now] (Nat.le_add_right _ _) hcase
      rfl rfl (by simp [Stateless, PilotCaseService.assignedEntry]) hcases htimeline rfl

theorem linkWorkflowCase_effect (w : World ApprovalService) (caseId workflowCaseId : String) :
    CaseEffect rt w ((ApprovalService.onCases
      (PilotCaseService.linkWorkflowCase rt caseId workflowCaseId)).after w) [] := by
  rcases findCase_cases caseId ⟨w.self.caseService, w.env⟩ with ⟨e, he⟩ | ⟨case, hcase, hfound⟩
  · rw [after_onCases_error (e := e)]
    · exact .raised rfl
    · simp only [PilotCaseService.linkWorkflowCase, EStateM.run_bind, he]
  · have hrun : ∃ s now, (PilotCaseService.linkWorkflowCase rt caseId workflowCaseId).run
        ⟨w.self.caseService, w.env⟩ = .ok () ⟨s, w.env.tick 1⟩ ∧
        s.cases = w.self.caseService.cases.set caseId { case with
          workflowCaseId := some workflowCaseId, updatedAt := now } ∧
        s.transitions = w.self.caseService.transitions := by
      simp only [PilotCaseService.linkWorkflowCase, EStateM.run_bind, hfound]
      exact ⟨_, _, rfl, rfl, rfl⟩
    obtain ⟨s, now, hrun, hcases, htransitions⟩ := hrun
    rw [after_onCases_ok hrun]
    refine .noted caseId case { case with workflowCaseId := some workflowCaseId, updatedAt := now } []
      (Nat.le_add_right _ _) hcase rfl rfl (by simp [Stateless]) hcases ?_ rfl
    rw [List.append_nil, Function.update_eq_self]
    funext id
    simp only [PilotCaseService.getTimeline, htransitions]

variable (rt) in
theorem case_effect (call : CaseCall) (w : World ApprovalService) :
    CaseEffect rt w (caseStep rt call w) (directMoves rt call w) := by
  unfold caseStep directMoves
  cases call with
  | createCase tenantId data creatorId =>
    rw [CaseCall.perform, after_discard]
    have hrun : ∃ case s, (PilotCaseService.createCase rt tenantId data creatorId).run
        ⟨w.self.caseService, w.env⟩ = .ok case ⟨s, w.env.tick 2⟩ ∧ case.state = .created ∧
        case.assignedReviewerId = none ∧
        s.cases = w.self.caseService.cases.set (rt.uuid4 w.env.draws) case ∧
        s.getTimeline = Function.update w.self.caseService.getTimeline (rt.uuid4 w.env.draws)
          [PilotCaseService.createdEntry data creatorId (rt.now (w.env.draws + 1))] :=
      ⟨_, _, rfl, rfl, rfl, rfl, getTimeline_set _ _ _⟩
    obtain ⟨case, s, hrun, hstate, hreviewer, hcases, htimeline⟩ := hrun
    rw [after_onCases_ok hrun]
    exact .created data creatorId (rt.now (w.env.draws + 1)) case
      (Nat.lt_add_of_pos_right Nat.zero_lt_two) hstate hreviewer hcases htimeline rfl
  | addArtifact caseId artifactType artifactId label metadata =>
    rw [CaseCall.perform, after_discard]
    exact addArtifact_effect w caseId artifactType artifactId label metadata
  | assignReviewer caseId reviewerId assignedBy notes =>
    rw [CaseCall.perform, after_discard]
    exact assignReviewer_effect w caseId reviewerId assignedBy notes
  | transitionState caseId targetState actorId reason metadata =>
    rw [CaseCall.perform, after_discard, run_discard]
    rcases onCases_transitionState rt w caseId targetState actorId reason metadata with
      ⟨e, he⟩ | ⟨case, result, w', hmoved, hdecisions, hrun⟩
    · rw [after_error he, he]
      exact .raised rfl
    · rw [after_ok hrun, hrun]
      exact .moved caseId case targetState actorId reason metadata hmoved hdecisions
  | linkWorkflowCase caseId workflowCaseId => exact linkWorkflowCase_effect w caseId workflowCaseId
  | approve pilotCaseId actorId data =>
    rw [CaseCall.perform, after_discard]
    exact approve_effect w pilotCaseId actorId data
  | override pilotCaseId actorId data =>
    rw [CaseCall.perform, after_discard]
    exact override_effect w pilotCaseId actorId data
  | escalate pilotCaseId actorId data =>
    rw [CaseCall.perform, after_discard]
    exact escalate_effect w pilotCaseId actorId data

end Steps

/-! ### The timeline replays -/

/-- The state machine lets a case go from `a` to `b`. -/
def Allowed (a b : PilotCaseState) : Prop := b ∈ a.validTransitions

/-- How a case goes with its timeline: the states named lead to its own by allowed steps, each entry
that moves it names the state it left, and the last reviewer named is its reviewer. -/
structure Replays (case : PilotCase) (timeline : List TimelineEntry) : Prop where
  states : ∃ path, Course Allowed .created path case.state ∧
    timeline.filterMap TimelineEntry.toState = path.map PilotCaseState.value ∧
    timeline.filterMap TimelineEntry.fromState = path.dropLast.map PilotCaseState.value
  reviewer : case.assignedReviewerId = (reviewersOf timeline).getLast?

theorem replays_created (data : PilotCaseCreate) (creatorId : String) (now : DateTime)
    {case : PilotCase} (hstate : case.state = .created) (hreviewer : case.assignedReviewerId = none) :
    Replays case [PilotCaseService.createdEntry data creatorId now] where
  states := ⟨[.created], hstate ▸ .start, rfl, rfl⟩
  reviewer := hreviewer

theorem Replays.noted {case new : PilotCase} {timeline entries : List TimelineEntry}
    (h : Replays case timeline) (hstate : new.state = case.state)
    (hreviewer : new.assignedReviewerId =
      (reviewersOf entries).getLast?.or case.assignedReviewerId)
    (hentries : Stateless entries) : Replays new (timeline ++ entries) := by
  obtain ⟨path, hpath, hto, hfrom⟩ := h.states
  have hnoTo : entries.filterMap TimelineEntry.toState = [] :=
    List.filterMap_eq_nil_iff.mpr fun e he => (hentries e he).2
  have hnoFrom : entries.filterMap TimelineEntry.fromState = [] :=
    List.filterMap_eq_nil_iff.mpr fun e he => (hentries e he).1
  constructor
  · refine ⟨path, hstate ▸ hpath, ?_, ?_⟩
    · rw [List.filterMap_append, hnoTo, List.append_nil, hto]
    · rw [List.filterMap_append, hnoFrom, List.append_nil, hfrom]
  · rw [hreviewer, h.reviewer, reviewersOf, reviewersOf, reviewersOf, List.filterMap_append,
      List.getLast?_append]

theorem Replays.moved {case : PilotCase} {timeline : List TimelineEntry} (h : Replays case timeline)
    {target : PilotCaseState} (hallowed : target ∈ case.state.validTransitions) (actorId : String)
    (reason : Option String) (metadata : Option JsonDict) (now : DateTime) :
    Replays { case with state := target, updatedAt := now } (timeline ++
      [PilotCaseService.transitionEntry case.state target actorId reason metadata now]) := by
  obtain ⟨path, hpath, hto, hfrom⟩ := h.states
  have hlast : path = path.dropLast ++ [case.state] :=
    (List.dropLast_append_getLast? _ hpath.last).symm
  constructor
  · refine ⟨path ++ [target], hpath.move hallowed, ?_, ?_⟩
    · rw [List.filterMap_append, hto, List.map_append]
      rfl
    · rw [List.filterMap_append, hfrom, List.dropLast_concat]
      conv_rhs => rw [hlast, List.map_append]
      rfl
  · rw [h.reviewer, reviewersOf, reviewersOf, List.filterMap_append]
    have hnone : [PilotCaseService.transitionEntry case.state target actorId reason metadata
        now].filterMap (fun e => if e.eventType = "reviewer_assigned" then
          match Json.field e.details "reviewer_id" with
          | some (.str reviewerId) => some reviewerId
          | _ => none
        else none) = [] := rfl
    rw [hnone, List.append_nil]

/-- Every case stored goes with its timeline. -/
def TimelinesReplay (s : PilotCaseService) : Prop :=
  ∀ caseId case, s.cases.get? caseId = some case → Replays case (s.getTimeline caseId)

/-- A case put in place with a timeline it goes with leaves the others as they are. -/
theorem TimelinesReplay.put {s s' : PilotCaseService} (h : TimelinesReplay s) {caseId : String}
    {new : PilotCase} {timeline : List TimelineEntry} (hcases : s'.cases = s.cases.set caseId new)
    (htimeline : s'.getTimeline = Function.update s.getTimeline caseId timeline)
    (hnew : Replays new timeline) : TimelinesReplay s' := by
  intro id case hget
  rw [hcases, Dict.get?_set] at hget
  rw [htimeline, Function.update_apply]
  split at hget
  next heq =>
    obtain rfl := Option.some.inj hget
    rwa [if_pos heq]
  next hne =>
    rw [if_neg hne]
    exact h id case hget

theorem TimelinesReplay.move {w w' : World ApprovalService} {caseId : String} {case : PilotCase}
    {target : PilotCaseState} {actorId : String} {reason : Option String}
    {metadata : Option JsonDict} (h : TimelinesReplay w.self.caseService)
    (hmoved : Moved w w' caseId case target actorId reason metadata) :
    TimelinesReplay w'.self.caseService := by
  obtain ⟨now, hcases, htimeline⟩ := hmoved.change
  exact h.put hcases htimeline
    ((h caseId case hmoved.stored).moved hmoved.allowed actorId reason metadata now)

theorem TimelinesReplay.step {rt : Runtime} (call : CaseCall) {w : World ApprovalService}
    (h : TimelinesReplay w.self.caseService) :
    TimelinesReplay (caseStep rt call w).self.caseService := by
  have heffect := case_effect rt call w
  generalize directMoves rt call w = moves at heffect
  cases heffect with
  | raised hsame =>
    rw [hsame]
    exact h
  | created data creatorId now case _ hstate hreviewer hcases htimeline _ =>
    exact h.put hcases htimeline (replays_created data creatorId now hstate hreviewer)
  | noted caseId case new entries _ hcase hstate hreviewer hentries hcases htimeline _ =>
    exact h.put hcases htimeline ((h caseId case hcase).noted hstate hreviewer hentries)
  | moved caseId case target actorId reason metadata hmoved _ => exact h.move hmoved
  | decided kind caseId case actorId text hmoved _ => exact h.move hmoved

/-- In every run, whatever calls are made on whatever cases and whichever of them raise, each case
goes with its timeline. -/
theorem timelines_replay (rt : Runtime) (env : Env) (calls : List CaseCall) :
    TimelinesReplay (run (caseStep rt) ⟨ApprovalService.new, env⟩ calls).self.caseService := by
  refine run_invariant (I := fun w => TimelinesReplay w.self.caseService) (caseStep rt)
    (fun call _ _ h => h.step call) ?_
  intro caseId case hget
  cases hget

/-! ### Export -/

/-- Every case goes through these states first. -/
def preparation : List PilotCaseState :=
  [.created, .evidenceReady, .workflowExecuted, .validationCompleted]

/-- States between validation and a decision that stands. -/
def UnderDecision (path : List PilotCaseState) (state : PilotCaseState) : Prop :=
  ∃ mid, path = preparation ++ mid ++ [state] ∧
    ∀ s ∈ mid, s = .underReview ∨ s = .overridden ∨ s = .escalated

/-- The way of a case that is still open. -/
def OpenWay (path : List PilotCaseState) : PilotCaseState → Prop
  | .created => path = [.created]
  | .evidenceReady => path = [.created, .evidenceReady]
  | .workflowExecuted => path = [.created, .evidenceReady, .workflowExecuted]
  | .validationCompleted => path = preparation
  | .underReview => UnderDecision path .underReview
  | .approved => UnderDecision path .approved
  | .overridden => UnderDecision path .overridden
  | .escalated => UnderDecision path .escalated
  | .exported => ∃ before decision, path = before ++ [.exported] ∧
      (decision = .approved ∨ decision = .overridden) ∧ UnderDecision before decision
  | .closed => False

/-- The way of a case to its state. -/
def Way (path : List PilotCaseState) (state : PilotCaseState) : Prop :=
  OpenWay path state ∨ state = .closed ∧ ∃ before, path = before ++ [.closed] ∧ ∃ a, OpenWay before a

theorem underDecision_first (state : PilotCaseState) :
    UnderDecision (preparation ++ [state]) state := ⟨[], by simp, by simp⟩

theorem UnderDecision.again {path : List PilotCaseState} {a : PilotCaseState}
    (h : UnderDecision path a) (ha : a = .underReview ∨ a = .overridden ∨ a = .escalated)
    (b : PilotCaseState) : UnderDecision (path ++ [b]) b := by
  obtain ⟨mid, rfl, hmid⟩ := h
  refine ⟨mid ++ [a], by simp, fun s hs => ?_⟩
  rcases List.mem_append.mp hs with hs | hs
  · exact hmid s hs
  · exact List.mem_singleton.mp hs ▸ ha

theorem OpenWay.move {path : List PilotCaseState} {a b : PilotCaseState} (h : OpenWay path a)
    (hab : Allowed a b) : Way (path ++ [b]) b := by
  by_cases hclosed : b = .closed
  · subst hclosed
    exact Or.inr ⟨rfl, path, rfl, a, h⟩
  · left
    cases a with
    | created =>
      obtain rfl : b = .evidenceReady := by
        simpa [Allowed, PilotCaseState.validTransitions, hclosed] using hab
      rw [h]
      rfl
    | evidenceReady =>
      obtain rfl : b = .workflowExecuted := by
        simpa [Allowed, PilotCaseState.validTransitions, hclosed] using hab
      rw [h]
      rfl
    | workflowExecuted =>
      obtain rfl : b = .validationCompleted := by
        simpa [Allowed, PilotCaseState.validTransitions, hclosed] using hab
      rw [h]
      rfl
    | validationCompleted =>
      rw [h]
      have hb : b = .underReview ∨ b = .approved := by
        simpa [Allowed, PilotCaseState.validTransitions, hclosed] using hab
      rcases hb with rfl | rfl <;> exact underDecision_first _
    | underReview =>
      have hb : b = .approved ∨ b = .overridden ∨ b = .escalated := by
        simpa [Allowed, PilotCaseState.validTransitions, hclosed] using hab
      rcases hb with rfl | rfl | rfl <;> exact UnderDecision.again h (Or.inl rfl) _
    | approved =>
      obtain rfl : b = .exported := by
        simpa [Allowed, PilotCaseState.validTransitions, hclosed] using hab
      exact ⟨path, .approved, rfl, Or.inl rfl, h⟩
    | overridden =>
      have hb : b = .exported ∨ b = .underReview := by
        simpa [Allowed, PilotCaseState.validTransitions, hclosed] using hab
      rcases hb with rfl | rfl
      · exact ⟨path, .overridden, rfl, Or.inr rfl, h⟩
      · exact UnderDecision.again h (Or.inr (Or.inl rfl)) _
    | escalated =>
      have hb : b = .underReview ∨ b = .approved ∨ b = .overridden := by
        simpa [Allowed, PilotCaseState.validTransitions, hclosed] using hab
      rcases hb with rfl | rfl | rfl <;> exact UnderDecision.again h (Or.inr (Or.inr rfl)) _
    | exported => exact absurd (List.mem_singleton.mp hab) hclosed
    | closed => exact absurd hab List.not_mem_nil

theorem way_of_course {path : List PilotCaseState} {state : PilotCaseState}
    (h : Course Allowed .created path state) : Way path state := by
  induction h with
  | start => exact Or.inl rfl
  | move _ hab ih =>
    rcases ih with hopen | ⟨rfl, -⟩
    · exact hopen.move hab
    · exact absurd hab List.not_mem_nil

theorem UnderDecision.not_exported {path : List PilotCaseState} {state : PilotCaseState}
    (h : UnderDecision path state) (hstate : state ≠ .exported) : .exported ∉ path := by
  obtain ⟨mid, rfl, hmid⟩ := h
  intro hmem
  simp only [List.mem_append, List.mem_singleton] at hmem
  rcases hmem with (hprepared | hbetween) | hlast
  · exact absurd hprepared (by decide)
  · exact absurd (hmid _ hbetween) (by simp)
  · exact hstate hlast.symm

/-- Only an exported case went through export while it was open. -/
theorem OpenWay.eq_exported {path : List PilotCaseState} {a : PilotCaseState} (h : OpenWay path a)
    (hmem : .exported ∈ path) : a = .exported := by
  cases a with
  | exported => rfl
  | closed => exact h.elim
  | underReview | approved | overridden | escalated =>
    exact absurd hmem (UnderDecision.not_exported h (by decide))
  | created | evidenceReady | workflowExecuted | validationCompleted =>
    rw [h] at hmem
    exact absurd hmem (by decide)

/-- The states a case went through that was exported: prepared in the order given, reviewed,
overridden and escalated as often as it took, approved or overridden at last, exported, and then at
most closed. -/
def ExportedAfter (states : List String) : Prop :=
  ∃ mid decision rest, states =
      (preparation ++ mid ++ [decision, PilotCaseState.exported] ++ rest).map PilotCaseState.value ∧
    (∀ s ∈ mid, s = .underReview ∨ s = .overridden ∨ s = .escalated) ∧
    (decision = .approved ∨ decision = .overridden) ∧ (rest = [] ∨ rest = [.closed])

theorem OpenWay.exportedAfter {path : List PilotCaseState} (h : OpenWay path .exported)
    {rest : List PilotCaseState} (hrest : rest = [] ∨ rest = [.closed]) :
    ExportedAfter ((path ++ rest).map PilotCaseState.value) := by
  obtain ⟨before, decision, rfl, hdecision, mid, rfl, hmid⟩ := h
  exact ⟨mid, decision, rest, by simp, hmid, hdecision, hrest⟩

theorem Way.exportedAfter {path : List PilotCaseState} {state : PilotCaseState} (h : Way path state)
    (hmem : .exported ∈ path) : ExportedAfter (path.map PilotCaseState.value) := by
  rcases h with hopen | ⟨-, before, rfl, a, hopen⟩
  · obtain rfl := hopen.eq_exported hmem
    have hway := hopen.exportedAfter (Or.inl rfl)
    rwa [List.append_nil] at hway
  · have hbefore : .exported ∈ before := by simpa using hmem
    obtain rfl := hopen.eq_exported hbefore
    exact hopen.exportedAfter (Or.inr rfl)

theorem value_injective : Function.Injective PilotCaseState.value := by
  intro a b h
  cases a <;> cases b <;> first | rfl | exact absurd h (by decide)

/-- In every run a case whose timeline names its export was prepared and decided before, in this
order and with nothing left out. -/
theorem exported_decided (rt : Runtime) (env : Env) (calls : List CaseCall) :
    let s := (run (caseStep rt) ⟨ApprovalService.new, env⟩ calls).self.caseService
    ∀ caseId ∈ s.cases, some "exported" ∈ (s.getTimeline caseId).map TimelineEntry.toState →
      ExportedAfter ((s.getTimeline caseId).filterMap TimelineEntry.toState) := by
  intro s caseId hknown hexported
  obtain ⟨case, hget⟩ := Dict.mem_iff_get?.mp hknown
  obtain ⟨path, hcourse, hto, -⟩ := (timelines_replay rt env calls caseId case hget).states
  have hvalue : "exported" ∈ path.map PilotCaseState.value := by
    rw [← hto, List.mem_filterMap]
    obtain ⟨e, he, hstate⟩ := List.mem_map.mp hexported
    exact ⟨e, he, hstate⟩
  have hmem : .exported ∈ path := (List.mem_map_of_injective value_injective).mp hvalue
  rw [hto]
  exact (way_of_course hcourse).exportedAfter hmem

end ControlFabric.Pilot
