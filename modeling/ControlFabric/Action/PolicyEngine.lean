import ControlFabric.Validation.DomainTypes
import ControlFabric.Lib.Lifecycle

/-! Records of the action policy engine. The confidence, the financial impact and the metadata of a
proposal, which nothing reads, are left out. -/
namespace ControlFabric.Fabric.Action
open Lib Py Validation

inductive W3ActionType where
  | creditNote
  | invoiceAdjustment
  | penaltyCharge
  | slaEscalation
  | workOrderDispatch
  | billingHold
  | rateCorrection
  | recoveryRecommendation
  deriving DecidableEq

def W3ActionType.value : W3ActionType → String
  | creditNote => "credit-note"
  | invoiceAdjustment => "invoice-adjustment"
  | penaltyCharge => "penalty-charge"
  | slaEscalation => "sla-escalation"
  | workOrderDispatch => "work-order-dispatch"
  | billingHold => "billing-hold"
  | rateCorrection => "rate-correction"
  | recoveryRecommendation => "recovery-recommendation"

inductive W3ActionStatus where
  | proposed
  | validationPending
  | validated
  | pendingApproval
  | approved
  | released
  | rejected
  deriving DecidableEq

def W3ActionStatus.value : W3ActionStatus → String
  | proposed => "proposed"
  | validationPending => "validation-pending"
  | validated => "validated"
  | pendingApproval => "pending-approval"
  | approved => "approved"
  | released => "released"
  | rejected => "rejected"

inductive W3ActionExecutionMode where
  | dryRun
  | approvalGated
  | deterministicAutoRelease
  deriving DecidableEq

def W3ActionExecutionMode.value : W3ActionExecutionMode → String
  | dryRun => "dry-run"
  | approvalGated => "approval-gated"
  | deterministicAutoRelease => "deterministic-auto-release"

structure W3ActionEvidenceManifest where
  actionId : String
  evidenceRefs : List EvidenceRef := []
  validationRunId : Option String := none
  validationDecision : Option ValidationDecision := none
  reportHash : String := ""
  targetObjectIds : List String := []
  manifestHash : String := ""

/-- `d.value if d else ""`. -/
def decisionText (decision : Option ValidationDecision) : String :=
  decision.elim "" ValidationDecision.value

/-- `str(d)`. -/
def decisionStr (decision : Option ValidationDecision) : String :=
  decision.elim "None" ValidationDecision.str

namespace W3ActionEvidenceManifest

/-- The dict `compute_hash` serializes. -/
def hashData (manifest : W3ActionEvidenceManifest) : JsonDict :=
  [("action_id", .str manifest.actionId),
    ("evidence_refs", .arr ((sorted (manifest.evidenceRefs.map EvidenceRef.evidenceId)).map .str)),
    ("validation_run_id", .str (manifest.validationRunId.getD "")),
    ("validation_decision", .str (decisionText manifest.validationDecision)),
    ("report_hash", .str manifest.reportHash),
    ("target_object_ids", .arr ((sorted manifest.targetObjectIds).map .str))]

def computeHash (rt : Runtime) (str : Json → String) (manifest : W3ActionEvidenceManifest) :
    W3ActionEvidenceManifest :=
  { manifest with manifestHash := deterministicHash rt str manifest.hashData }

end W3ActionEvidenceManifest

structure W3ActionProposal where
  id : String
  tenantId : String
  actionType : W3ActionType
  executionMode : W3ActionExecutionMode := .approvalGated
  status : W3ActionStatus := .proposed
  targetObjectIds : List String := []
  validationRunId : Option String := none
  validationDecision : Option ValidationDecision := none
  reportHash : String := ""
  evidenceManifest : Option W3ActionEvidenceManifest := none
  description : String := ""
  parameters : JsonDict := []
  approvedBy : Option String := none
  rejectedReason : Option String := none
  decisionHash : String := ""
  releasedAt : Option DateTime := none

namespace W3ActionProposal

/-- The dict `compute_decision_hash` serializes. -/
def hashData (proposal : W3ActionProposal) : JsonDict :=
  [("action_type", .str proposal.actionType.value),
    ("target_object_ids", .arr ((sorted proposal.targetObjectIds).map .str)),
    ("validation_decision", .str (decisionText proposal.validationDecision)),
    ("report_hash", .str proposal.reportHash),
    ("parameters", .obj proposal.parameters)]

def computeDecisionHash (rt : Runtime) (str : Json → String) (proposal : W3ActionProposal) :
    W3ActionProposal :=
  { proposal with decisionHash := deterministicHash rt str proposal.hashData }

def isReleasable (proposal : W3ActionProposal) : Bool :=
  if proposal.status = .rejected then false
  else if proposal.validationDecision ≠ some .eligible then false
  else if proposal.executionMode = .dryRun then false
  else if proposal.executionMode = .approvalGated then proposal.status = .approved
  else if proposal.executionMode = .deterministicAutoRelease then proposal.status = .validated
  else false

/-- What makes a proposal releasable: its approval, or an automatic release that still waits. -/
theorem isReleasable_iff {proposal : W3ActionProposal} : proposal.isReleasable = true ↔
    proposal.validationDecision = some .eligible ∧
      (proposal.executionMode = .approvalGated ∧ proposal.status = .approved ∨
        proposal.executionMode = .deterministicAutoRelease ∧ proposal.status = .validated) := by
  unfold isReleasable
  cases proposal.executionMode <;> cases proposal.status <;> simp

end W3ActionProposal

structure W3ActionRelease where
  id : String
  actionId : String
  tenantId : String
  actionType : W3ActionType
  evidenceManifest : W3ActionEvidenceManifest
  decisionHash : String := ""
  releasedBy : String := "system"
  releasedAt : DateTime

structure W3ActionPolicy where
  requireValidationPass : Bool := true
  requireEvidence : Bool := true
  minEvidenceCount : ℤ := 1
  requireReportHash : Bool := true
  allowedDecisionsForRelease : List ValidationDecision := [.eligible]

end ControlFabric.Fabric.Action

/-! The action policy engine: proposals on a validation result, their approval, rejection and
release. -/
namespace ControlFabric.Fabric.Action
open Lib Py Method Validation

/-- The graph is that of the service the engine is constructed with. -/
structure W3ActionPolicyEngine where
  graph : InMemoryGraphRepository
  policy : W3ActionPolicy
  audit : FabricAuditHook
  proposals : Dict String W3ActionProposal
  releases : Dict String W3ActionRelease

namespace W3ActionPolicyEngine

def new (graph : InMemoryGraphRepository) (policy : W3ActionPolicy)
    (listeners : List FabricAuditListener) : W3ActionPolicyEngine :=
  ⟨graph, policy, ⟨listeners, []⟩, Dict.empty, Dict.empty⟩

/-- A proposal under an identifier, new or changed in place. -/
def storeProposal (actionId : String) (proposal : W3ActionProposal) (e : W3ActionPolicyEngine) :
    W3ActionPolicyEngine := { e with proposals := e.proposals.set actionId proposal }

def storeRelease (release : W3ActionRelease) (e : W3ActionPolicyEngine) : W3ActionPolicyEngine :=
  { e with releases := e.releases.set release.actionId release }

def resolveObjects (graph : InMemoryGraphRepository) (objectIds : List String) :
    List ControlObject := objectIds.filterMap graph.objects.get?

variable (rt : Runtime) (str : Json → String)

/-- `self._audit.emit`. -/
def emit (eventType : FabricAuditEventType) (tenantId detail : String) (metadata : JsonDict) :
    Method W3ActionPolicyEngine Unit :=
  on audit (fun h e => { e with audit := h }) <| FabricAuditHook.emit rt fun id timestamp =>
    { id := id
      eventType := eventType
      tenantId := some tenantId
      timestamp := timestamp
      detail := detail
      metadata := metadata }

def initialStatus : W3ActionExecutionMode → W3ActionStatus
  | .dryRun | .deterministicAutoRelease => .validated
  | .approvalGated => .pendingApproval

/-- The proposal of an action that has passed the checks of the policy. -/
def newProposal (id tenantId : String) (actionType : W3ActionType) (targetObjectIds : List String)
    (validationResult : ValidationExecutionResult) (executionMode : W3ActionExecutionMode)
    (parameters : Option JsonDict) (description : String) (evidence : List EvidenceRef) :
    W3ActionProposal :=
  let manifest := W3ActionEvidenceManifest.computeHash rt str
    { actionId := id
      evidenceRefs := evidence
      validationRunId := some validationResult.run.id
      validationDecision := some validationResult.decision
      reportHash := validationResult.report.reportHash
      targetObjectIds := targetObjectIds }
  W3ActionProposal.computeDecisionHash rt str
    { id := id
      tenantId := tenantId
      actionType := actionType
      executionMode := executionMode
      status := initialStatus executionMode
      targetObjectIds := targetObjectIds
      validationRunId := some validationResult.run.id
      validationDecision := some validationResult.decision
      reportHash := validationResult.report.reportHash
      evidenceManifest := some manifest
      description := description
      parameters := parameters.getD [] }

def proposeAction (tenantId : String) (actionType : W3ActionType) (targetObjectIds : List String)
    (validationResult : ValidationExecutionResult) (executionMode : W3ActionExecutionMode)
    (parameters : Option JsonDict) (description : String) :
    Method W3ActionPolicyEngine W3ActionProposal := do
  let e ← self
  let objects := resolveObjects e.graph targetObjectIds
  let allEvidence := objects.flatMap ControlObject.evidence
  if e.policy.requireValidationPass ∧
      validationResult.decision ∉ e.policy.allowedDecisionsForRelease then
    raise (.actionPolicyError
      (s!"Validation decision '{validationResult.decision.value}' " ++
        "not in allowed decisions for release") .validationNotPassed)
  else if e.policy.requireEvidence ∧ allEvidence.length < e.policy.minEvidenceCount then
    raise (.actionPolicyError
      s!"Insufficient evidence: {allEvidence.length} < {e.policy.minEvidenceCount}"
      .evidenceMissing)
  else if e.policy.requireReportHash ∧ validationResult.report.reportHash = "" then
    raise (.actionPolicyError "Validation report has no hash — cannot ensure reproducibility"
      .hashMismatch)
  else
    let n ← draw
    let proposal := newProposal rt str (rt.uuid4 n) tenantId actionType targetObjectIds
      validationResult executionMode parameters description allEvidence
    assign (storeProposal proposal.id proposal)
    emit rt .actionProposed tenantId s!"Action proposed: {actionType.value}"
      [("action_id", .str proposal.id), ("action_type", .str actionType.value),
        ("execution_mode", .str executionMode.value),
        ("validation_decision", .str validationResult.decision.value)]
    return proposal

/-- The common beginning of the operations on one proposal. -/
def withProposal {α : Type} (actionId : String)
    (f : W3ActionProposal → Method W3ActionPolicyEngine α) : Method W3ActionPolicyEngine α := do
  let e ← self
  match e.proposals.get? actionId with
  | none => raise (.actionPolicyError s!"Action {actionId} not found" .policyBlocked)
  | some proposal => f proposal

def approveAction (actionId approver : String) : Method W3ActionPolicyEngine W3ActionProposal :=
  withProposal actionId fun proposal => do
    if proposal.executionMode ≠ .approvalGated then
      raise (.actionPolicyError "Only approval-gated actions require approval" .policyBlocked)
    else
      let approved := { proposal with status := .approved, approvedBy := some approver }
      assign (storeProposal actionId approved)
      emit rt .actionApproved approved.tenantId s!"Action {actionId} approved by {approver}"
        [("action_id", .str actionId), ("approver", .str approver)]
      return approved

/-- Neither the mode nor the status is asked for. -/
def rejectAction (actionId reason : String) : Method W3ActionPolicyEngine W3ActionProposal :=
  withProposal actionId fun proposal => do
    let rejected := { proposal with status := .rejected, rejectedReason := some reason }
    assign (storeProposal actionId rejected)
    emit rt .actionRejected rejected.tenantId s!"Action {actionId} rejected: {reason}"
      [("action_id", .str actionId), ("reason", .str reason)]
    return rejected

/-- The release of a proposal that passed the checks, on its manifest. -/
def release (actionId actor : String) (proposal : W3ActionProposal)
    (manifest : W3ActionEvidenceManifest) : Method W3ActionPolicyEngine W3ActionRelease := do
  let n ← draw
  assign (storeProposal actionId
    { proposal with status := .released, releasedAt := some (rt.now n) })
  let m ← draw
  let release : W3ActionRelease :=
    { id := rt.uuid4 m
      actionId := actionId
      tenantId := proposal.tenantId
      actionType := proposal.actionType
      evidenceManifest := manifest
      decisionHash := proposal.decisionHash
      releasedBy := actor
      releasedAt := rt.now m }
  assign (storeRelease release)
  emit rt .actionReleased proposal.tenantId s!"Action {actionId} released by {actor}"
    [("action_id", .str actionId), ("release_id", .str release.id),
      ("decision_hash", .str proposal.decisionHash),
      ("manifest_hash", .str manifest.manifestHash)]
  return release

def releaseAction (actionId actor : String) : Method W3ActionPolicyEngine W3ActionRelease :=
  withProposal actionId fun proposal => do
    if ¬ proposal.isReleasable then
      raise (.actionPolicyError
        (s!"Action not releasable: status={proposal.status.value}, " ++
          s!"mode={proposal.executionMode.value}, " ++
          s!"decision={decisionStr proposal.validationDecision}")
        .targetNotEligible)
    else
      match proposal.evidenceManifest with
      | none => raise (.actionPolicyError "Action has no evidence manifest" .evidenceMissing)
      | some manifest => release rt actionId actor proposal manifest

end W3ActionPolicyEngine

/-- One call on the engine, or what others make of the graph between two calls. -/
inductive W3ActionCall where
  | proposeAction (tenantId : String) (actionType : W3ActionType) (targetObjectIds : List String)
      (validationResult : ValidationExecutionResult) (executionMode : W3ActionExecutionMode)
      (parameters : Option JsonDict) (description : String)
  | approveAction (actionId approver : String)
  | rejectAction (actionId reason : String)
  | releaseAction (actionId actor : String)
  | graphChanged (graph : InMemoryGraphRepository)

def W3ActionCall.call (rt : Runtime) (str : Json → String) :
    W3ActionCall → Method W3ActionPolicyEngine Unit
  | proposeAction tenantId actionType targetObjectIds validationResult executionMode parameters
      description =>
    discard (W3ActionPolicyEngine.proposeAction rt str tenantId actionType targetObjectIds
      validationResult executionMode parameters description)
  | approveAction actionId approver =>
    discard (W3ActionPolicyEngine.approveAction rt actionId approver)
  | rejectAction actionId reason => discard (W3ActionPolicyEngine.rejectAction rt actionId reason)
  | releaseAction actionId actor => discard (W3ActionPolicyEngine.releaseAction rt actionId actor)
  | graphChanged graph => assign fun e => { e with graph := graph }

/-- One call, after which the caller goes on whether it returned or raised. -/
def w3Step (rt : Runtime) (str : Json → String) (call : W3ActionCall)
    (w : World W3ActionPolicyEngine) : World W3ActionPolicyEngine := (call.call rt str).after w

def w3Run (rt : Runtime) (str : Json → String) (w : World W3ActionPolicyEngine)
    (calls : List W3ActionCall) : World W3ActionPolicyEngine := run (w3Step rt str) w calls

end ControlFabric.Fabric.Action
