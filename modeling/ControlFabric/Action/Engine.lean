import ControlFabric.Validation.Chain
import ControlFabric.Fabric.Service

/-! Records of the action engine. The financial impact of a proposal, which nothing reads, and the
reasoning and reconciliation results of a manifest, which the engine does not give, are left out. -/
namespace ControlFabric.Fabric.Action
open Lib Py Validation

inductive ActionType where
  | creditNote
  | invoiceAdjustment
  | penaltyCharge
  | slaEscalation
  | workOrderDispatch
  | billingHold
  | rateCorrection
  | recoveryRecommendation
  | disputeFiling
  | custom
  deriving DecidableEq

def ActionType.value : ActionType → String
  | creditNote => "credit_note"
  | invoiceAdjustment => "invoice_adjustment"
  | penaltyCharge => "penalty_charge"
  | slaEscalation => "sla_escalation"
  | workOrderDispatch => "work_order_dispatch"
  | billingHold => "billing_hold"
  | rateCorrection => "rate_correction"
  | recoveryRecommendation => "recovery_recommendation"
  | disputeFiling => "dispute_filing"
  | custom => "custom"

inductive ActionMode where
  | dryRun
  | approvalGated
  | autoRelease
  deriving DecidableEq

inductive ActionStatus where
  | proposed
  | validated
  | pendingApproval
  | approved
  | released
  | executed
  | rejected
  | failed
  | dryRunComplete
  deriving DecidableEq

def ActionStatus.value : ActionStatus → String
  | proposed => "proposed"
  | validated => "validated"
  | pendingApproval => "pending_approval"
  | approved => "approved"
  | released => "released"
  | executed => "executed"
  | rejected => "rejected"
  | failed => "failed"
  | dryRunComplete => "dry_run_complete"

inductive ActionEligibility where
  | eligible
  | ineligible
  | pendingValidation
  | pendingApproval
  deriving DecidableEq

def ActionEligibility.value : ActionEligibility → String
  | eligible => "eligible"
  | ineligible => "ineligible"
  | pendingValidation => "pending_validation"
  | pendingApproval => "pending_approval"

structure ActionManifest where
  id : String
  tenantId : String
  actionType : ActionType
  targetObjectIds : List String := []
  evidenceRefs : List EvidenceRef := []
  validationResultId : Option String := none
  parameters : JsonDict := []
  decisionHash : String := ""

namespace ActionManifest

/-- The dict `compute_hash` serializes. -/
def hashData (manifest : ActionManifest) : JsonDict :=
  [("action_type", .str manifest.actionType.value),
    ("target_object_ids", .arr ((sorted manifest.targetObjectIds).map .str)),
    ("evidence_refs", .arr ((sorted (manifest.evidenceRefs.map EvidenceRef.evidenceId)).map .str)),
    ("parameters", .obj manifest.parameters)]

def computeHash (rt : Runtime) (str : Json → String) (manifest : ActionManifest) :
    ActionManifest :=
  { manifest with decisionHash := deterministicHash rt str manifest.hashData }

end ActionManifest

def buildManifest {σ : Type} (rt : Runtime) (str : Json → String) (tenantId : String)
    (actionType : ActionType) (objects : List ControlObject) (parameters : Option JsonDict)
    (validationResultId : Option String) : Method σ ActionManifest := do
  let n ← Method.draw
  return ActionManifest.computeHash rt str
    { id := rt.uuid4 n
      tenantId := tenantId
      actionType := actionType
      targetObjectIds := objects.map ControlObject.id
      evidenceRefs := objects.flatMap ControlObject.evidence
      validationResultId := validationResultId
      parameters := parameters.getD [] }

structure ActionProposal where
  id : String
  tenantId : String
  actionType : ActionType
  mode : ActionMode := .approvalGated
  status : ActionStatus := .proposed
  manifest : ActionManifest
  validationResult : Option ValidationChainResult := none
  eligibility : ActionEligibility := .pendingValidation
  description : String := ""
  confidence : ℚ := 1
  createdAt : Option DateTime := none
  releasedAt : Option DateTime := none
  approvedBy : Option String := none
  metadata : JsonDict := []

namespace ActionProposal

def isReleasable (proposal : ActionProposal) : Bool :=
  if proposal.status = .rejected then false
  else if proposal.eligibility ≠ .eligible then false
  else if proposal.mode = .approvalGated then proposal.status = .approved
  else if proposal.mode = .autoRelease then proposal.status = .validated
  else if proposal.mode = .dryRun then false
  else false

theorem isReleasable_iff {proposal : ActionProposal} : proposal.isReleasable = true ↔
    proposal.eligibility = .eligible ∧
      (proposal.mode = .approvalGated ∧ proposal.status = .approved ∨
        proposal.mode = .autoRelease ∧ proposal.status = .validated) := by
  unfold isReleasable
  cases proposal.mode <;> cases proposal.status <;> simp

end ActionProposal
end ControlFabric.Fabric.Action

/-! The action engine: proposals behind the validation chain, their approval, rejection and release,
which marks the targets as actioned. -/
namespace ControlFabric.Fabric.Action
open Lib Py Method Validation

/-- The validation chain is constructed with the same graph service. -/
structure ActionEngine where
  graph : GraphService
  validation : ValidationChain
  proposals : Dict String ActionProposal

namespace ActionEngine

def new (graph : GraphService) (validation : ValidationChain) : ActionEngine :=
  ⟨graph, validation, Dict.empty⟩

/-- A proposal under an identifier, new or changed in place. -/
def storeProposal (proposalId : String) (proposal : ActionProposal) (e : ActionEngine) :
    ActionEngine := { e with proposals := e.proposals.set proposalId proposal }

def targetObjects (graph : GraphService) (targetObjectIds : List String) : List ControlObject :=
  targetObjectIds.filterMap graph.repo.objects.get?

variable (rt : Runtime) (str : Json → String)

def initialStatus : ActionMode → ActionStatus
  | .dryRun => .dryRunComplete
  | .autoRelease => .validated
  | .approvalGated => .pendingApproval

def initialEligibility : ActionMode → ActionEligibility
  | .dryRun => .ineligible
  | .autoRelease => .eligible
  | .approvalGated => .pendingApproval

/-- `min` of the confidences of the objects, of which there is one at least. -/
def minConfidence (objects : List ControlObject) : ℚ :=
  (objects.map ControlObject.confidence).min?.getD 1

/-- The proposal of an action on objects that have passed the chain. -/
def newProposal (n : ℕ) (tenantId : String) (actionType : ActionType) (objects : List ControlObject)
    (mode : ActionMode) (manifest : ActionManifest) (result : ValidationChainResult)
    (description : String) : ActionProposal where
  id := rt.uuid4 n
  tenantId := tenantId
  actionType := actionType
  mode := mode
  status := initialStatus mode
  manifest := manifest
  validationResult := some result
  eligibility := initialEligibility mode
  description := description
  confidence := minConfidence objects
  createdAt := some (rt.now n)

def proposeAction (tenantId : String) (actionType : ActionType) (targetObjectIds : List String)
    (mode : ActionMode) (parameters : Option JsonDict) (description : String)
    (context : Option JsonDict) : Method ActionEngine ActionProposal := do
  let e ← self
  let objects := targetObjects e.graph targetObjectIds
  if objects = [] then
    raise (.actionWithoutEvidenceError "No valid target objects found for action")
  else if (objects.map fun o => o.evidence.length).sum = 0 then
    raise (.actionWithoutEvidenceError
      "Action requires at least one evidence reference across target objects")
  else
    let result ← e.validation.validate rt str e.graph.repo tenantId objects actionType.value context
    if ¬ result.isActionable then
      raise (.actionWithoutValidationError
        (s!"Validation chain failed: {result.failedCount} failures. " ++
          "Action cannot proceed without passing validation."))
    else
      let manifest ← buildManifest rt str tenantId actionType objects parameters (some result.id)
      let n ← draw
      let proposal := newProposal rt n tenantId actionType objects mode manifest result description
      assign (storeProposal proposal.id proposal)
      return proposal

/-- The common beginning of the operations on one proposal. -/
def withProposal {α : Type} (proposalId : String) (f : ActionProposal → Method ActionEngine α) :
    Method ActionEngine α := do
  let e ← self
  match e.proposals.get? proposalId with
  | none => raise (.actionWithoutValidationError s!"Proposal {proposalId} not found")
  | some proposal => f proposal

def approveAction (proposalId approver : String) : Method ActionEngine ActionProposal :=
  withProposal proposalId fun proposal => do
    if proposal.mode ≠ .approvalGated then
      raise (.actionWithoutValidationError "Only approval-gated actions require approval")
    else
      let approved := { proposal with
        status := .approved
        eligibility := .eligible
        approvedBy := some approver }
      assign (storeProposal proposalId approved)
      return approved

/-- An empty reason is not recorded. -/
def rejectionMetadata (metadata : JsonDict) (reason : String) : JsonDict :=
  if reason = "" then metadata else updateDict metadata [("rejection_reason", .str reason)]

/-- Neither the mode nor the status is asked for. -/
def rejectAction (proposalId reason : String) : Method ActionEngine ActionProposal :=
  withProposal proposalId fun proposal => do
    let rejected := { proposal with
      status := .rejected
      eligibility := .ineligible
      metadata := rejectionMetadata proposal.metadata reason }
    assign (storeProposal proposalId rejected)
    return rejected

/-- The body of the loop of `release_action`, for one target. -/
def markTarget (audit : AuditContext) (objectId : String) : Method GraphService Unit := do
  let s ← self
  match s.repo.objects.get? objectId with
  | none => return ()
  | some obj =>
    if obj.state = .reconciled then
      let actioned ← GraphService.callStored obj (ControlObject.markActioned rt audit)
      assign (GraphService.storeObject actioned)
    else return ()

def markTargets (audit : AuditContext) : List String → Method GraphService Unit
  | [] => return ()
  | objectId :: objectIds => do
    markTarget rt audit objectId
    markTargets audit objectIds

def releaseAction (proposalId actor : String) : Method ActionEngine ActionProposal :=
  withProposal proposalId fun proposal => do
    if ¬ proposal.isReleasable then
      raise (.actionWithoutValidationError
        (s!"Action is not releasable: status={proposal.status.value}, " ++
          s!"eligibility={proposal.eligibility.value}"))
    else
      let n ← draw
      let released := { proposal with status := .released, releasedAt := some (rt.now n) }
      assign (storeProposal proposalId released)
      let m ← draw
      on graph (fun g e => { e with graph := g }) (markTargets rt
        { actor := actor
          action := s!"actioned_via_{proposal.actionType.value}"
          timestamp := rt.now m } released.manifest.targetObjectIds)
      return released

end ActionEngine

/-- One call on the engine, or an operation on the graph service between two calls. -/
inductive ActionCall where
  | proposeAction (tenantId : String) (actionType : ActionType) (targetObjectIds : List String)
      (mode : ActionMode) (parameters : Option JsonDict) (description : String)
      (context : Option JsonDict)
  | approveAction (proposalId approver : String)
  | rejectAction (proposalId reason : String)
  | releaseAction (proposalId actor : String)
  | graphOp (op : GraphServiceOp)

def ActionCall.call (rt : Runtime) (str : Json → String) (uc : Unicode) :
    ActionCall → Method ActionEngine Unit
  | proposeAction tenantId actionType targetObjectIds mode parameters description context =>
    discard (ActionEngine.proposeAction rt str tenantId actionType targetObjectIds mode parameters
      description context)
  | approveAction proposalId approver => discard (ActionEngine.approveAction proposalId approver)
  | rejectAction proposalId reason => discard (ActionEngine.rejectAction proposalId reason)
  | releaseAction proposalId actor => discard (ActionEngine.releaseAction rt proposalId actor)
  | graphOp op => on ActionEngine.graph (fun g e => { e with graph := g }) (op.call rt uc)

/-- One call, after which the caller goes on whether it returned or raised. -/
def actionStep (rt : Runtime) (str : Json → String) (uc : Unicode) (call : ActionCall)
    (w : World ActionEngine) : World ActionEngine := (call.call rt str uc).after w

def actionRun (rt : Runtime) (str : Json → String) (uc : Unicode) (w : World ActionEngine)
    (calls : List ActionCall) : World ActionEngine := run (actionStep rt str uc) w calls

end ControlFabric.Fabric.Action
