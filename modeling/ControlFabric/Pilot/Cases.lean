import ControlFabric.Fabric.ControlObject

/-! Pilot cases: the states of a case, the service that keeps the cases and their timelines, and the
service that approves, overrides and escalates them. -/
namespace ControlFabric.Pilot
open Lib Py

inductive PilotCaseState where
  | created
  | evidenceReady
  | workflowExecuted
  | validationCompleted
  | underReview
  | approved
  | overridden
  | escalated
  | exported
  | closed
  deriving DecidableEq

namespace PilotCaseState

def value : PilotCaseState → String
  | created => "created"
  | evidenceReady => "evidence_ready"
  | workflowExecuted => "workflow_executed"
  | validationCompleted => "validation_completed"
  | underReview => "under_review"
  | approved => "approved"
  | overridden => "overridden"
  | escalated => "escalated"
  | exported => "exported"
  | closed => "closed"

/-- `VALID_TRANSITIONS`. -/
def validTransitions : PilotCaseState → List PilotCaseState
  | created => [evidenceReady, closed]
  | evidenceReady => [workflowExecuted, closed]
  | workflowExecuted => [validationCompleted, closed]
  | validationCompleted => [underReview, approved, closed]
  | underReview => [approved, overridden, escalated, closed]
  | approved => [exported, closed]
  | overridden => [exported, underReview, closed]
  | escalated => [underReview, approved, overridden, closed]
  | exported => [closed]
  | closed => []

end PilotCaseState

inductive CaseSeverity where
  | low
  | medium
  | high
  | critical
  deriving DecidableEq

inductive BusinessImpact where
  | negligible
  | minor
  | moderate
  | major
  | severe
  deriving DecidableEq

inductive OverrideReason where
  | evidenceIncomplete
  | businessContextMissing
  | modelAcceptableCommercialDiffers
  | ruleEngineNeedsRefinement
  | fieldEvidenceNotReconciled
  | serviceStateChanged
  | other
  deriving DecidableEq

def OverrideReason.value : OverrideReason → String
  | evidenceIncomplete => "evidence_incomplete"
  | businessContextMissing => "business_context_missing"
  | modelAcceptableCommercialDiffers => "model_acceptable_commercial_differs"
  | ruleEngineNeedsRefinement => "rule_engine_needs_refinement"
  | fieldEvidenceNotReconciled => "field_evidence_not_reconciled"
  | serviceStateChanged => "service_state_changed"
  | other => "other"

inductive EscalationRoute where
  | commercialLead
  | fieldOpsLead
  | serviceDeliveryLead
  | governanceBoard
  | domainExpert
  | seniorManagement
  deriving DecidableEq

structure PilotCaseCreate where
  title : String
  description : Option String := none
  workflowType : String
  externalRefs : List (String × String) := []
  tags : List String := []
  category : Option String := none
  severity : CaseSeverity := .medium
  businessImpact : BusinessImpact := .moderate
  metadata : JsonDict := []

structure PilotCase where
  id : String
  tenantId : String
  title : String
  description : Option String
  workflowType : String
  state : PilotCaseState
  externalRefs : List (String × String)
  tags : List String
  category : Option String
  severity : CaseSeverity
  businessImpact : BusinessImpact
  assignedReviewerId : Option String
  workflowCaseId : Option String
  metadata : JsonDict
  createdAt : DateTime
  updatedAt : DateTime

structure Artifact where
  id : String
  pilotCaseId : String
  artifactType : String
  artifactId : String
  label : Option String
  metadata : JsonDict
  createdAt : DateTime

structure Assignment where
  id : String
  pilotCaseId : String
  reviewerId : String
  assignedBy : String
  notes : Option String
  assignedAt : DateTime

/-- An entry of a timeline. -/
structure TimelineEntry where
  timestamp : DateTime
  eventType : String
  actorId : String
  fromState : Option String
  toState : Option String
  details : JsonDict

/-- What `CaseStateMachineService.transition` returns. -/
structure StateTransition where
  id : String
  fromState : PilotCaseState
  toState : PilotCaseState
  actorId : String
  reason : Option String
  metadata : JsonDict
  transitionedAt : DateTime

inductive CaseError where
  | valueError (message : String)
  | invalidTransitionError (fromState toState : PilotCaseState)
  deriving DecidableEq

/-- `str(e)`. -/
def CaseError.message : CaseError → String
  | valueError message => message
  | invalidTransitionError fromState toState =>
    let valid := fromState.validTransitions
    let validStr := if valid = [] then "none"
      else ", ".intercalate (valid.map PilotCaseState.value)
    s!"Invalid transition from '{fromState.value}' to '{toState.value}'. Valid transitions: {validStr}"

/-- A method of a service of pilot cases. An exception keeps the changes made before it. -/
abbrev CaseMethod (σ α : Type) := EStateM CaseError (World σ) α

namespace CaseMethod
variable {σ τ α β : Type}

def self : CaseMethod σ σ := fun w => .ok w.self w

def assign (f : σ → σ) : CaseMethod σ Unit := fun w => .ok () { w with self := f w.self }

def raise (e : CaseError) : CaseMethod σ α := fun w => .error e w

def draw : CaseMethod σ ℕ := fun w => .ok w.env.draws ⟨w.self, w.env.tick 1⟩

/-- A method called on a part of the object. -/
def on (get : τ → σ) (set : σ → τ → τ) (m : CaseMethod σ α) : CaseMethod τ α := fun w =>
  match m.run ⟨get w.self, w.env⟩ with
  | .ok a v => .ok a ⟨set v.self w.self, v.env⟩
  | .error e v => .error e ⟨set v.self w.self, v.env⟩

/-- The object a call leaves behind, whether it returned or raised. -/
def after (m : CaseMethod σ α) (w : World σ) : World σ :=
  match m.run w with
  | .ok _ v => v
  | .error _ v => v

@[simp] theorem run_pure (a : α) (w : World σ) : (pure a : CaseMethod σ α).run w = .ok a w := rfl

@[simp] theorem run_self (w : World σ) : (self : CaseMethod σ σ).run w = .ok w.self w := rfl

@[simp] theorem run_assign (f : σ → σ) (w : World σ) :
    (assign f).run w = .ok () { w with self := f w.self } := rfl

@[simp] theorem run_raise (e : CaseError) (w : World σ) :
    (raise e : CaseMethod σ α).run w = .error e w := rfl

@[simp] theorem run_draw (w : World σ) :
    (draw : CaseMethod σ ℕ).run w = .ok w.env.draws ⟨w.self, w.env.tick 1⟩ := rfl

theorem run_on (get : τ → σ) (set : σ → τ → τ) (m : CaseMethod σ α) (w : World τ) :
    (on get set m).run w = match m.run ⟨get w.self, w.env⟩ with
      | .ok a v => .ok a ⟨set v.self w.self, v.env⟩
      | .error e v => .error e ⟨set v.self w.self, v.env⟩ := rfl

theorem run_discard (m : CaseMethod σ α) (w : World σ) : (discard m).run w = match m.run w with
    | .ok _ v => .ok () v
    | .error e v => .error e v := by
  show (((fun _ => ()) <$> m : CaseMethod σ Unit)).run w = _
  rw [map_eq_pure_bind, EStateM.run_bind]
  cases m.run w <;> rfl

@[simp] theorem after_discard (m : CaseMethod σ α) (w : World σ) :
    (discard m).after w = m.after w := by
  simp only [after, run_discard]
  cases m.run w <;> rfl

theorem after_ok {m : CaseMethod σ α} {w v : World σ} {a : α} (h : m.run w = .ok a v) :
    m.after w = v := by simp [after, h]

theorem after_error {m : CaseMethod σ α} {w v : World σ} {e : CaseError}
    (h : m.run w = .error e v) : m.after w = v := by simp [after, h]

end CaseMethod

open CaseMethod

namespace CaseStateMachineService
variable {σ : Type} (rt : Runtime)

def validateTransition (fromState toState : PilotCaseState) : Bool :=
  toState ∈ fromState.validTransitions

def transition (fromState toState : PilotCaseState) (actorId : String) (reason : Option String)
    (metadata : Option JsonDict) : CaseMethod σ StateTransition := do
  if ¬ validateTransition fromState toState then
    raise (.invalidTransitionError fromState toState)
  else
    let id := rt.uuid4 (← draw)
    let transitionedAt := rt.now (← draw)
    return ⟨id, fromState, toState, actorId, reason, metadata.getD [], transitionedAt⟩

end CaseStateMachineService

structure PilotCaseService where
  cases : Dict String PilotCase
  artifacts : Dict String (List Artifact)
  assignments : Dict String (List Assignment)
  transitions : Dict String (List TimelineEntry)

namespace PilotCaseService
variable (rt : Runtime)

def new : PilotCaseService := ⟨Dict.empty, Dict.empty, Dict.empty, Dict.empty⟩

/-- The case, or the error of all methods for a case that is not there. -/
def findCase (caseId : String) : CaseMethod PilotCaseService PilotCase := do
  match (← self).cases.get? caseId with
  | none => raise (.valueError s!"Case {caseId} not found")
  | some case => return case

/-- `self._transitions.setdefault(case_id, []).append(entry)`. -/
def record (caseId : String) (entry : TimelineEntry) (s : PilotCaseService) : PilotCaseService :=
  { s with transitions := s.transitions.set caseId (s.transitions.getD caseId [] ++ [entry]) }

/-- A case stored is changed in place. -/
def putCase (caseId : String) (case : PilotCase) (s : PilotCaseService) : PilotCaseService :=
  { s with cases := s.cases.set caseId case }

def createdEntry (data : PilotCaseCreate) (creatorId : String) (now : DateTime) : TimelineEntry where
  timestamp := now
  eventType := "case_created"
  actorId := creatorId
  fromState := none
  toState := some PilotCaseState.created.value
  details := [("title", .str data.title), ("workflow_type", .str data.workflowType)]

def createCase (tenantId : String) (data : PilotCaseCreate) (creatorId : String) :
    CaseMethod PilotCaseService PilotCase := do
  let caseId := rt.uuid4 (← draw)
  let now := rt.now (← draw)
  let case : PilotCase := {
    id := caseId
    tenantId := tenantId
    title := data.title
    description := data.description
    workflowType := data.workflowType
    state := .created
    externalRefs := data.externalRefs
    tags := data.tags
    category := data.category
    severity := data.severity
    businessImpact := data.businessImpact
    assignedReviewerId := none
    workflowCaseId := none
    metadata := data.metadata
    createdAt := now
    updatedAt := now }
  assign fun s => {
    cases := s.cases.set caseId case
    artifacts := s.artifacts.set caseId []
    assignments := s.assignments.set caseId []
    transitions := s.transitions.set caseId [createdEntry data creatorId now] }
  return case

def addArtifact (caseId artifactType artifactId : String) (label : Option String)
    (metadata : Option JsonDict) : CaseMethod PilotCaseService Artifact := do
  if caseId ∉ (← self).cases then
    raise (.valueError s!"Case {caseId} not found")
  else
    let id := rt.uuid4 (← draw)
    let createdAt := rt.now (← draw)
    let artifact : Artifact :=
      ⟨id, caseId, artifactType, artifactId, label, metadata.getD [], createdAt⟩
    assign fun s => { s with
      artifacts := s.artifacts.set caseId (s.artifacts.getD caseId [] ++ [artifact]) }
    return artifact

def optionalStr (text : Option String) : Json := text.elim .null .str

def assignedEntry (reviewerId assignedBy : String) (notes : Option String) (now : DateTime) :
    TimelineEntry where
  timestamp := now
  eventType := "reviewer_assigned"
  actorId := assignedBy
  fromState := none
  toState := none
  details := [("reviewer_id", .str reviewerId), ("notes", optionalStr notes)]

def assignReviewer (caseId reviewerId assignedBy : String) (notes : Option String) :
    CaseMethod PilotCaseService Assignment := do
  let case ← findCase caseId
  let now := rt.now (← draw)
  let id := rt.uuid4 (← draw)
  let assignment : Assignment := ⟨id, caseId, reviewerId, assignedBy, notes, now⟩
  assign fun s => { s with
    assignments := s.assignments.set caseId (s.assignments.getD caseId [] ++ [assignment]) }
  assign (putCase caseId { case with
    assignedReviewerId := some reviewerId
    updatedAt := now })
  assign (record caseId (assignedEntry reviewerId assignedBy notes now))
  return assignment

def transitionEntry (current target : PilotCaseState) (actorId : String) (reason : Option String)
    (metadata : Option JsonDict) (now : DateTime) : TimelineEntry where
  timestamp := now
  eventType := "state_transition"
  actorId := actorId
  fromState := some current.value
  toState := some target.value
  details := Fabric.updateDict [("reason", optionalStr reason)] (metadata.getD [])

def transitionState (caseId : String) (targetState : PilotCaseState) (actorId : String)
    (reason : Option String) (metadata : Option JsonDict) :
    CaseMethod PilotCaseService StateTransition := do
  let case ← findCase caseId
  let result ← CaseStateMachineService.transition rt case.state targetState actorId reason metadata
  let now := rt.now (← draw)
  assign (putCase caseId { case with
    state := targetState
    updatedAt := now })
  assign (record caseId (transitionEntry case.state targetState actorId reason metadata now))
  return result

def linkWorkflowCase (caseId workflowCaseId : String) : CaseMethod PilotCaseService Unit := do
  let case ← findCase caseId
  let now := rt.now (← draw)
  assign (putCase caseId { case with
    workflowCaseId := some workflowCaseId
    updatedAt := now })

def getTimeline (s : PilotCaseService) (caseId : String) : List TimelineEntry :=
  s.transitions.getD caseId []

end PilotCaseService

structure ApprovalRequest where
  reasoning : String
  businessImpactNotes : Option String := none
  metadata : JsonDict := []

structure OverrideRequest where
  overrideReason : OverrideReason
  overrideDetail : String
  correctedOutcome : JsonDict := []
  businessImpactNotes : Option String := none
  metadata : JsonDict := []

structure EscalationRequest where
  escalationRoute : EscalationRoute
  escalationReason : String
  urgency : String := "normal"
  metadata : JsonDict := []

structure Approval where
  id : String
  pilotCaseId : String
  approvedBy : String
  reasoning : String
  businessImpactNotes : Option String
  metadata : JsonDict
  createdAt : DateTime

structure Override where
  id : String
  pilotCaseId : String
  overriddenBy : String
  overrideReason : OverrideReason
  overrideDetail : String
  correctedOutcome : JsonDict
  businessImpactNotes : Option String
  metadata : JsonDict
  createdAt : DateTime

structure Escalation where
  id : String
  pilotCaseId : String
  escalatedBy : String
  escalationRoute : EscalationRoute
  escalationReason : String
  urgency : String
  metadata : JsonDict
  createdAt : DateTime

structure ApprovalService where
  caseService : PilotCaseService
  approvals : Dict String (List Approval)
  overrides : Dict String (List Override)
  escalations : Dict String (List Escalation)

namespace ApprovalService
variable (rt : Runtime)

def new : ApprovalService := ⟨PilotCaseService.new, Dict.empty, Dict.empty, Dict.empty⟩

/-- A call of the case service. -/
def onCases {α : Type} (m : CaseMethod PilotCaseService α) : CaseMethod ApprovalService α :=
  on caseService (fun cases s => { s with caseService := cases }) m

/-- `self._approvals.setdefault(case_id, []).append(approval)`. -/
def keepApproval (caseId : String) (approval : Approval) (s : ApprovalService) : ApprovalService :=
  { s with approvals := s.approvals.set caseId (s.approvals.getD caseId [] ++ [approval]) }

def keepOverride (caseId : String) (override : Override) (s : ApprovalService) : ApprovalService :=
  { s with overrides := s.overrides.set caseId (s.overrides.getD caseId [] ++ [override]) }

def keepEscalation (caseId : String) (escalation : Escalation) (s : ApprovalService) :
    ApprovalService :=
  { s with escalations := s.escalations.set caseId (s.escalations.getD caseId [] ++ [escalation]) }

def approve (pilotCaseId actorId : String) (data : ApprovalRequest) :
    CaseMethod ApprovalService Approval := do
  let _ ← onCases (PilotCaseService.transitionState rt pilotCaseId .approved actorId
    (some data.reasoning) none)
  let id := rt.uuid4 (← draw)
  let createdAt := rt.now (← draw)
  let approval : Approval := ⟨id, pilotCaseId, actorId, data.reasoning, data.businessImpactNotes,
    data.metadata, createdAt⟩
  assign (keepApproval pilotCaseId approval)
  return approval

def overrideText (data : OverrideRequest) : String :=
  s!"{data.overrideReason.value}: {data.overrideDetail}"

def override (pilotCaseId actorId : String) (data : OverrideRequest) :
    CaseMethod ApprovalService Override := do
  let _ ← onCases (PilotCaseService.transitionState rt pilotCaseId .overridden actorId
    (some (overrideText data)) none)
  let id := rt.uuid4 (← draw)
  let createdAt := rt.now (← draw)
  let override : Override := ⟨id, pilotCaseId, actorId, data.overrideReason, data.overrideDetail,
    data.correctedOutcome, data.businessImpactNotes, data.metadata, createdAt⟩
  assign (keepOverride pilotCaseId override)
  return override

def escalate (pilotCaseId actorId : String) (data : EscalationRequest) :
    CaseMethod ApprovalService Escalation := do
  let _ ← onCases (PilotCaseService.transitionState rt pilotCaseId .escalated actorId
    (some data.escalationReason) none)
  let id := rt.uuid4 (← draw)
  let createdAt := rt.now (← draw)
  let escalation : Escalation := ⟨id, pilotCaseId, actorId, data.escalationRoute,
    data.escalationReason, data.urgency, data.metadata, createdAt⟩
  assign (keepEscalation pilotCaseId escalation)
  return escalation

end ApprovalService

/-- A call of one of the two services. -/
inductive CaseCall where
  | createCase (tenantId : String) (data : PilotCaseCreate) (creatorId : String)
  | addArtifact (caseId artifactType artifactId : String) (label : Option String)
      (metadata : Option JsonDict)
  | assignReviewer (caseId reviewerId assignedBy : String) (notes : Option String)
  | transitionState (caseId : String) (targetState : PilotCaseState) (actorId : String)
      (reason : Option String) (metadata : Option JsonDict)
  | linkWorkflowCase (caseId workflowCaseId : String)
  | approve (pilotCaseId actorId : String) (data : ApprovalRequest)
  | override (pilotCaseId actorId : String) (data : OverrideRequest)
  | escalate (pilotCaseId actorId : String) (data : EscalationRequest)

open PilotCaseService ApprovalService in
def CaseCall.perform (rt : Runtime) : CaseCall → CaseMethod ApprovalService Unit
  | .createCase tenantId data creatorId =>
    discard (onCases (PilotCaseService.createCase rt tenantId data creatorId))
  | .addArtifact caseId artifactType artifactId label metadata =>
    discard (onCases (PilotCaseService.addArtifact rt caseId artifactType artifactId label metadata))
  | .assignReviewer caseId reviewerId assignedBy notes =>
    discard (onCases (PilotCaseService.assignReviewer rt caseId reviewerId assignedBy notes))
  | .transitionState caseId targetState actorId reason metadata =>
    discard (onCases
      (PilotCaseService.transitionState rt caseId targetState actorId reason metadata))
  | .linkWorkflowCase caseId workflowCaseId =>
    onCases (PilotCaseService.linkWorkflowCase rt caseId workflowCaseId)
  | .approve pilotCaseId actorId data =>
    discard (ApprovalService.approve rt pilotCaseId actorId data)
  | .override pilotCaseId actorId data =>
    discard (ApprovalService.override rt pilotCaseId actorId data)
  | .escalate pilotCaseId actorId data =>
    discard (ApprovalService.escalate rt pilotCaseId actorId data)

def caseStep (rt : Runtime) (call : CaseCall) (w : World ApprovalService) :
    World ApprovalService := (call.perform rt).after w

end ControlFabric.Pilot
