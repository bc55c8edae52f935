import ControlFabric.Gate.Governed
import ControlFabric.Lib.Raise

/-! Records of the exception and override framework. -/
namespace ControlFabric.Exceptions
open Lib Py

inductive ExceptionType where
  | emergencyOverride
  | timeBoundException
  | compensatingControl
  | escalationBypass
  deriving DecidableEq

def ExceptionType.value : ExceptionType → String
  | emergencyOverride => "emergency_override"
  | timeBoundException => "time_bound_exception"
  | compensatingControl => "compensating_control"
  | escalationBypass => "escalation_bypass"

/-- The member as an f-string writes it. -/
def ExceptionType.str : ExceptionType → String
  | emergencyOverride => "ExceptionType.EMERGENCY_OVERRIDE"
  | timeBoundException => "ExceptionType.TIME_BOUND_EXCEPTION"
  | compensatingControl => "ExceptionType.COMPENSATING_CONTROL"
  | escalationBypass => "ExceptionType.ESCALATION_BYPASS"

inductive ExceptionStatus where
  | pendingApproval
  | approved
  | active
  | expired
  | revoked
  | rejected
  deriving DecidableEq

def ExceptionStatus.str : ExceptionStatus → String
  | pendingApproval => "ExceptionStatus.PENDING_APPROVAL"
  | approved => "ExceptionStatus.APPROVED"
  | active => "ExceptionStatus.ACTIVE"
  | expired => "ExceptionStatus.EXPIRED"
  | revoked => "ExceptionStatus.REVOKED"
  | rejected => "ExceptionStatus.REJECTED"

inductive ExceptionRisk where
  | critical
  | high
  | medium
  | low
  deriving DecidableEq

def ExceptionRisk.value : ExceptionRisk → String
  | critical => "critical"
  | high => "high"
  | medium => "medium"
  | low => "low"

/-- A `datetime` field as the models take it. Of a naive one the offset does not count. -/
inductive Timestamp where
  | aware (t : DateTime)
  | naive (t : DateTime)
  deriving DecidableEq

namespace Timestamp

def isoformat : Timestamp → String
  | aware t => t.isoformat
  | naive t =>
    let utc := ({ t with utcoffset := 0, offset_valid := DateTime.offset_valid_utc } :
      DateTime).isoformat.toList
    String.ofList (utc.take (utc.length - 6))

/-- What an aware datetime is compared by. -/
def comparable : Timestamp → Except PyError ℤ
  | aware t => .ok t.instant
  | naive _ => .error (.typeError "can't compare offset-naive and offset-aware datetimes")

/-- `t > now`, where that is defined. -/
def After (now : DateTime) : Timestamp → Prop
  | aware t => now.instant < t.instant
  | naive _ => False

instance (now : DateTime) : DecidablePred (After now)
  | aware t => inferInstanceAs (Decidable (now.instant < t.instant))
  | naive _ => .isFalse id

def IsAware (t : Timestamp) : Prop := ∃ instant, t.comparable = .ok instant

end Timestamp

/-- A submitted request. The model refuses a justification below fifty characters. -/
structure ExceptionRequest where
  exceptionId : String
  exceptionType : ExceptionType
  requestedBy : String
  justification : String
  affectedObjectIds : List String
  affectedActionType : String
  policyContextId : String
  compensatingControls : List String
  expiresAt : Timestamp
  riskAssessment : ExceptionRisk
  requestedAt : Timestamp
  requestHash : String
  justification_length : 50 ≤ justification.length

/-- What an approval is given for. -/
structure Content where
  exceptionType : ExceptionType
  affectedObjectIds : List String
  riskAssessment : ExceptionRisk
  expiresAt : Timestamp
  justification : String
  deriving DecidableEq

def ExceptionRequest.content (r : ExceptionRequest) : Content :=
  ⟨r.exceptionType, r.affectedObjectIds, r.riskAssessment, r.expiresAt, r.justification⟩

def ExceptionRequest.computeHash (rt : Runtime) (r : ExceptionRequest) : ExceptionRequest :=
  { r with requestHash := rt.sha256 (r.exceptionId ++ r.exceptionType.str ++ r.requestedBy ++
      r.affectedActionType ++ r.policyContextId ++ r.expiresAt.isoformat ++
      r.requestedAt.isoformat) }

structure ExceptionDecision where
  decisionId : String
  exceptionId : String
  decidedBy : String
  decision : ExceptionStatus
  decisionRationale : String
  conditions : List String
  reviewTaskId : String
  decidedAt : DateTime
  decisionHash : String
  decisionRationale_length : 20 ≤ decisionRationale.length

def ExceptionDecision.new (rt : Runtime) (n : ℕ) (exceptionId decidedBy : String)
    (decision : ExceptionStatus) (rationale : String) (conditions : List String)
    (reviewTaskId : String) : Except PyError ExceptionDecision :=
  if h : 20 ≤ rationale.length then
    .ok {
      decisionId := rt.uuid4 n
      exceptionId := exceptionId
      decidedBy := decidedBy
      decision := decision
      decisionRationale := rationale
      conditions := conditions
      reviewTaskId := reviewTaskId
      decidedAt := rt.now n
      decisionHash := rt.sha256 (rt.uuid4 n ++ exceptionId ++ decidedBy ++ decision.str ++
        (rt.now n).isoformat)
      decisionRationale_length := h }
  else
    .error (.validationError
      "decision_rationale: String should have at least 20 characters")

theorem ExceptionDecision.new_eq_ok {rt : Runtime} {n : ℕ} {exceptionId decidedBy : String}
    {decision : ExceptionStatus} {rationale : String} {conditions : List String}
    {reviewTaskId : String} {d : ExceptionDecision}
    (h : ExceptionDecision.new rt n exceptionId decidedBy decision rationale conditions
      reviewTaskId = .ok d) : d.decision = decision ∧ 20 ≤ rationale.length := by
  unfold ExceptionDecision.new at h
  split at h
  next hlength =>
    obtain rfl := Except.ok.inj h
    exact ⟨rfl, hlength⟩
  next => cases h

structure ExceptionAuditEntry where
  entryId : String
  exceptionId : String
  eventType : String
  eventDetail : String
  performedBy : String
  occurredAt : DateTime
  entryHash : String

def ExceptionAuditEntry.new (rt : Runtime) (n : ℕ) (exceptionId eventType eventDetail
    performedBy : String) : ExceptionAuditEntry :=
  ⟨rt.uuid4 n, exceptionId, eventType, eventDetail, performedBy, rt.now n,
    rt.sha256 (rt.uuid4 n ++ exceptionId ++ eventType ++ performedBy ++ (rt.now n).isoformat)⟩

/-- An entry of `_review_tasks`. -/
structure ReviewTask where
  taskId : String
  exceptionId : String
  taskType : String
  dueBy : String
  assignedTo : String
  status : String

end ControlFabric.Exceptions

/-! The exception manager: requests that pass the release gate, the decisions on them, and an audit
ledger. A revocation leaves an entry in the ledger and nothing else. -/
namespace ControlFabric.Exceptions
open Lib Py Method

/-- What the release gate is asked about a request. -/
def ExceptionRequest.submission (r : ExceptionRequest) : Submission where
  actionType := "exception_request"
  proposedPayload := [("exception_type", .str r.exceptionType.value),
    ("affected_objects", .arr (r.affectedObjectIds.map Json.str)),
    ("risk_assessment", .str r.riskAssessment.value),
    ("expires_at", .str r.expiresAt.isoformat)]
  requestedBy := r.requestedBy
  origin := .humanOperator
  evidenceReferences := some [r.requestHash]
  provenanceChain := none
  executor := none

structure ExceptionManager where
  gate : PlatformActionReleaseGate
  requests : Dict String ExceptionRequest
  decisions : Dict String (List ExceptionDecision)
  auditLedger : List ExceptionAuditEntry
  reviewTasks : List ReviewTask

namespace ExceptionManager

def new (releaseGate : Option PlatformActionReleaseGate) : ExceptionManager where
  gate := releaseGate.getD (PlatformActionReleaseGate.new none none)
  requests := Dict.empty
  decisions := Dict.empty
  auditLedger := []
  reviewTasks := []

variable (rt : Runtime)

def audit (eventType exceptionId detail performedBy : String) : Method ExceptionManager Unit := do
  let entry := ExceptionAuditEntry.new rt (← draw) exceptionId eventType detail performedBy
  assign fun m => { m with auditLedger := m.auditLedger ++ [entry] }

def getRequest (exceptionId : String) : Method ExceptionManager ExceptionRequest := do
  match (← self).requests.get? exceptionId with
  | some request => return request
  | none => raise (.exceptionError s!"Exception {exceptionId} not found.")

def validateNotExpired (request : ExceptionRequest) : Method ExceptionManager Unit := do
  let now := rt.now (← draw)
  if (← lift request.expiresAt.comparable) < now.instant then
    raise (.exceptionError s!"Exception {request.exceptionId} has expired.")

def submitException (request : ExceptionRequest) : Method ExceptionManager ExceptionRequest := do
  let gateResult ← on (fun m => m.gate) (fun gate m => { m with gate := gate })
    (PlatformActionReleaseGate.submit rt request.submission)
  let failureReason := gateResult.failureReason.getD "None"
  if gateResult.status = .blocked then
    raise (.exceptionError s!"Exception request blocked: {failureReason}")
  assign fun m => { m with requests := m.requests.set request.exceptionId request }
  audit rt "submitted" request.exceptionId
    s!"Exception request submitted by {request.requestedBy}" request.requestedBy
  return request

/-- `self._decisions.setdefault(exception_id, []).append(decision)`. -/
def recordDecision (exceptionId : String) (decision : ExceptionDecision) :
    Method ExceptionManager Unit :=
  assign fun m => { m with
    decisions := m.decisions.set exceptionId (m.decisions.getD exceptionId [] ++ [decision]) }

def approveException (exceptionId decidedBy rationale : String)
    (conditions : Option (List String)) : Method ExceptionManager ExceptionDecision := do
  let request ← getRequest exceptionId
  validateNotExpired rt request
  let reviewTaskId := rt.uuid4 (← draw)
  assign fun m => { m with reviewTasks := m.reviewTasks ++
    [⟨reviewTaskId, exceptionId, "post_exception_review", request.expiresAt.isoformat, decidedBy,
      "open"⟩] }
  -- A rationale that is too short is refused here, with the review task already open.
  let decision ← lift (ExceptionDecision.new rt (← draw) exceptionId decidedBy .approved rationale
    (conditions.getD []) reviewTaskId)
  recordDecision exceptionId decision
  audit rt "approved" exceptionId
    s!"Approved by {decidedBy}. Review task {reviewTaskId.take 8} created." decidedBy
  return decision

def rejectException (exceptionId decidedBy rationale : String) :
    Method ExceptionManager ExceptionDecision := do
  let _ ← getRequest exceptionId
  let decision ← lift (ExceptionDecision.new rt (← draw) exceptionId decidedBy .rejected rationale
    [] "none-rejected")
  recordDecision exceptionId decision
  audit rt "rejected" exceptionId s!"Rejected by {decidedBy}: {rationale.take 80}" decidedBy
  return decision

def revokeException (exceptionId revokedBy reason : String) : Method ExceptionManager Unit := do
  let _ ← getRequest exceptionId
  audit rt "revoked" exceptionId s!"Revoked by {revokedBy}: {reason.take 80}" revokedBy

/-- Some decision recorded under the identifier is an approval. -/
def HasApproval (decisions : Dict String (List ExceptionDecision)) (exceptionId : String) : Prop :=
  ∃ d ∈ decisions.getD exceptionId [], d.decision = .approved

instance (decisions : Dict String (List ExceptionDecision)) (exceptionId : String) :
    Decidable (HasApproval decisions exceptionId) := List.decidableBEx ..

/-- One turn of the loop over the requests. -/
def isActive (m : ExceptionManager) (now : DateTime) (request : ExceptionRequest) :
    Except PyError Bool := do
  let expires ← request.expiresAt.comparable
  return now.instant < expires ∧ HasApproval m.decisions request.exceptionId

/-- The call at a time `now`. -/
def getActiveExceptions (m : ExceptionManager) (now : DateTime) :
    Except PyError (List ExceptionRequest) := filterE (m.isActive now) m.requests.values

end ExceptionManager
end ControlFabric.Exceptions
